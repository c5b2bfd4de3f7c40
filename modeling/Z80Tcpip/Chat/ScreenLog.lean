import Z80Tcpip.Chat.LoggedRows
import Z80Tcpip.Chat.TypedLines
import Z80Tcpip.Client.Rows
import Z80Tcpip.Client.Segments

/-!
# The screen of tcp_chat.c

Above the line being typed the screen shows the last rows of a log: the greeting,
the rows of the received data, the lines that have been sent, and the farewell.
-/

namespace Z80Tcpip
namespace Chat

open Foundation
open Client
open Program

variable {ν : Type} {P : Platform}

/-!
## One text
-/

/-- The loop of `log_line` stops at a whole number of rows other than none. -/
theorem padLine_eq (k : Nat) :
    forall {turns n : Nat} {con : Console}, n + k ≠ 0 ->
      (n + k) % SCREEN_COLS = 0 ->
        (forall j, j < k -> n + j = 0 ∨ (n + j) % SCREEN_COLS ≠ 0) ->
          k ≤ turns ->
            padLine turns n con = con.putchars (List.replicate k 0x20) := by
  induction k with
  | zero =>
      intro turns n con hpos hwhole _ _
      cases turns with
      | zero => rfl
      | succ turns =>
          have hstop : ¬ (n = 0 ∨ n % SCREEN_COLS ≠ 0) := by
            rw [Nat.add_zero] at hpos hwhole
            exact not_or.mpr ⟨hpos, not_not.mpr hwhole⟩
          rw [padLine, if_neg hstop]
          rfl
  | succ k ih =>
      intro turns n con hpos hwhole hrun hturns
      rcases Nat.exists_eq_add_of_lt hturns with ⟨more, rfl⟩
      have hgo := hrun 0 (Nat.succ_pos k)
      rw [Nat.add_zero] at hgo
      rw [padLine, if_pos hgo, List.replicate_succ]
      refine ih (by omega) (by rwa [Nat.add_right_comm]) ?_ (by omega)
      intro j hj
      have hlater := hrun (j + 1) (by omega)
      rwa [Nat.add_assoc, Nat.add_comm 1 j]

theorem padLine_fills (n : Nat) (con : Console) :
    padLine SCREEN_COLS n con =
      con.putchars (List.replicate (W * rowCount n - n) 0x20) := by
  have hrows : rowCount n = max 1 ((n + 63) / 64) := rfl
  apply padLine_eq
  all_goals
    simp only [W, SCREEN_COLS]
    omega

theorem takeWhile_printable {text : List UInt8}
    (h : forall c, c ∈ text -> Printable c) :
    text.takeWhile (fun c => c != 0) = text := by
  apply List.takeWhile_eq_self_iff.mpr
  intro c hc
  apply bne_iff_ne.mpr
  intro heq
  rw [heq] at hc
  exact absurd (h 0 hc).left (by decide)

/-- `draw_input` of tcp_chat.c prints what the one of irc.c does. -/
theorem drawInput_con {s : State}
    (h : forall c, c ∈ s.screen.input -> Printable c) :
    (drawInput s).screen.con = (Screen.drawInput s.screen).con := by
  have hrow := takeWhile_printable (printable_inputRow h)
  unfold drawInput putsRaw
  rw [hrow]
  rfl

theorem logLine_con {text : List UInt8}
    (htext : forall c, c ∈ text -> Printable c) {s : State}
    (hinput : forall c, c ∈ s.screen.input -> Printable c) :
    (logLine text s).screen.con =
      (Screen.drawInput
        { con := ((s.screen.con.printAt INPUT_ROW 0).putchars
            (padded text)).putchar 10
          input := s.screen.input }).con := by
  have hcon := padLine_fills text.length
    ((s.screen.con.printAt INPUT_ROW 0).putchars text)
  have hlogged : logLine text s = drawInput
      { s with
        screen :=
          { s.screen with
            con := (padLine SCREEN_COLS text.length
              ((s.screen.con.printAt INPUT_ROW 0).putchars text)).putchar
                10 } } := by
    unfold logLine
    rw [takeWhile_printable htext]
  rw [hlogged, hcon, padded, putchars_append]
  exact drawInput_con hinput

theorem drawInput_holds {s : State} {top : List Row} {bottom : Row}
    {cx cy : Nat} (h : Holds s.screen.con top bottom cx cy)
    (hinput : forall c, c ∈ s.screen.input -> Printable c) :
    Holds (drawInput s).screen.con top (rowOf (inputRow s.screen.input)) 0
      INPUT_ROW := by
  rw [drawInput_con hinput]
  exact h.drawInput hinput

/-- A text moves the rows of the log up by its own. -/
theorem logLine_holds {s : State} {top : List Row} {bottom : Row}
    {cx cy : Nat} (h : Holds s.screen.con top bottom cx cy)
    {text : List UInt8} (htext : forall c, c ∈ text -> Printable c)
    (hinput : forall c, c ∈ s.screen.input -> Printable c) :
    Holds (logLine text s).screen.con (lastRows (top ++ textRows text))
      (rowOf (inputRow s.screen.input)) 0 INPUT_ROW := by
  rw [logLine_con htext hinput]
  exact (h.printAt.print_text htext).drawInput hinput

/-!
## Many texts
-/

/-- The rows above the input line when these texts have been logged. -/
def logRows (texts : List (List UInt8)) : List Row :=
  lastRows (List.replicate INPUT_ROW blankRow ++ texts.flatMap textRows)

theorem lastRows_append {rows : List Row} (h : INPUT_ROW ≤ rows.length)
    (more : List Row) : lastRows (lastRows rows ++ more) =
      lastRows (rows ++ more) := by
  have hlen : (lastRows rows).length = INPUT_ROW := by
    rw [lastRows, List.length_drop]
    omega
  have hdrop : (rows ++ more).length - INPUT_ROW =
      (rows.length - INPUT_ROW) + more.length := by
    rw [List.length_append]
    omega
  have hfront : (lastRows rows ++ more).length - INPUT_ROW = more.length := by
    rw [List.length_append, hlen, Nat.add_sub_cancel_left]
  rw [lastRows, hfront, lastRows, lastRows, hdrop,
    ← List.drop_append_of_le_length (Nat.sub_le _ _), List.drop_drop]

theorem logRows_concat (texts : List (List UInt8)) (text : List UInt8) :
    logRows (texts ++ [text]) = lastRows (logRows texts ++ textRows text) := by
  rw [logRows, logRows, lastRows_append, List.flatMap_append,
    List.flatMap_singleton, List.append_assoc]
  rw [List.length_append, List.length_replicate]
  exact Nat.le_add_right _ _

/-- The screen shows these texts above the line being typed, and no string holds
a character that cannot be shown. -/
structure Shows (texts : List (List UInt8)) (s : State) : Prop where
  screen : exists cx cy : Nat, Holds s.screen.con (logRows texts)
    (rowOf (inputRow s.screen.input)) cx cy
  input : forall c, c ∈ s.screen.input -> Printable c
  logline : forall c, c ∈ s.logline -> Printable c

section Shows

variable {texts : List (List UInt8)} {s : State}

theorem Shows.logLine (h : Shows texts s) {text : List UInt8}
    (htext : forall c, c ∈ text -> Printable c) :
    Shows (texts ++ [text]) (logLine text s) := by
  rcases h.screen with ⟨cx, cy, hholds⟩
  have hnew := logLine_holds hholds htext h.input
  refine ⟨⟨0, INPUT_ROW, ?_⟩, ?_, ?_⟩
  · rw [logRows_concat, logLine_input]
    exact hnew
  · rw [logLine_input]
    exact h.input
  · rw [logLine_logline]
    exact h.logline

/-- The line changes and is drawn again. -/
theorem Shows.redraw (h : Shows texts s) {input : List UInt8}
    (hinput : forall c, c ∈ input -> Printable c) :
    Shows texts
      (drawInput { s with screen := { s.screen with input := input } }) := by
  rcases h.screen with ⟨cx, cy, hholds⟩
  have hdrawn := drawInput_holds
    (s := { s with screen := { s.screen with input := input } }) hholds hinput
  exact ⟨⟨0, INPUT_ROW, hdrawn⟩, hinput, h.logline⟩

theorem Shows.editKey (h : Shows texts s) (k : UInt16) :
    Shows texts (editKey k s) := by
  unfold Chat.editKey
  split_ifs with _ _ hkey
  · exact h.redraw
      (fun c hc => h.input c ((List.dropLast_sublist _).mem hc))
  · exact h
  · apply h.redraw
    intro c hc
    rcases List.mem_append.mp hc with hold | hnew
    · exact h.input c hold
    · rw [List.mem_singleton.mp hnew]
      exact printable_key hkey.left hkey.right.left
  · exact h

/-- The line is taken off the input and logged. -/
theorem Shows.echo (h : Shows texts s) :
    Shows (texts ++ [s.screen.input]) (echo s) := by
  rcases h.screen with ⟨cx, cy, hholds⟩
  have hnone : forall c, c ∈ ([] : List UInt8) -> Printable c := by
    intro c hc
    cases hc
  have hnew := logLine_holds
    (s := { s with screen := { s.screen with input := [] } }) hholds h.input
    hnone
  refine ⟨⟨0, INPUT_ROW, ?_⟩, ?_, ?_⟩
  · rw [logRows_concat, Chat.echo, logLine_input]
    exact hnew
  · rw [Chat.echo, logLine_input]
    exact hnone
  · rw [Chat.echo, logLine_logline]
    exact h.logline

/-!
## Received data
-/

/-- The rows that have been logged on the way from `s` to `s'` are on the
screen. -/
def Grows (texts : List (List UInt8)) (s s' : State) : Prop :=
  exists rows : List (List UInt8),
    Shows (texts ++ rows) s' ∧ s'.flushed = s.flushed ++ rows

theorem Shows.same (h : Shows texts s) : Grows texts s s :=
  ⟨[], by rwa [List.append_nil], (List.append_nil _).symm⟩

theorem Shows.flush (h : Shows texts s) : Grows texts s (loglineFlush s) := by
  have hnone : forall c, c ∈ ([] : List UInt8) -> Printable c := by
    intro c hc
    cases hc
  have hbare : Shows texts
      { s with
        logline := []
        loglineEmitted := true
        flushed := s.flushed ++ [s.logline] } :=
    ⟨h.screen, h.input, hnone⟩
  exact ⟨[s.logline], hbare.logLine h.logline, loglineFlush_flushed s⟩

theorem printable_shownAs {b c : UInt8} (h : shownAs b = some c) :
    Printable c := by
  unfold shownAs at h
  generalize (if b = 9 then 0x20 else b) = c' at h
  by_cases hnot : c' < 32 ∨ 126 < c'
  · rw [if_pos hnot] at h
    cases h
  · rw [if_neg hnot] at h
    rw [not_or, UInt8.not_lt, UInt8.not_lt, UInt8.le_iff_toNat_le,
      UInt8.le_iff_toNat_le] at hnot
    rw [← Option.some.inj h]
    exact hnot

theorem Shows.loglineChar (h : Shows texts s) (b : UInt8) :
    Grows texts s (loglineChar s b) := by
  by_cases hb : b = 10
  · rw [Chat.loglineChar, if_pos hb]
    split_ifs
    · rcases h.flush with ⟨rows, hshows, hflushed⟩
      exact ⟨rows, ⟨hshows.screen, hshows.input, hshows.logline⟩, hflushed⟩
    · rcases h.same with ⟨rows, hshows, hflushed⟩
      exact ⟨rows, ⟨hshows.screen, hshows.input, hshows.logline⟩, hflushed⟩
  · rw [loglineChar_other s hb]
    cases hshown : shownAs b with
    | none => exact h.same
    | some c =>
        have hlonger : Shows texts { s with logline := s.logline ++ [c] } := by
          refine ⟨h.screen, h.input, ?_⟩
          intro c' hc'
          rcases List.mem_append.mp hc' with hold | hnew
          · exact h.logline c' hold
          · rw [List.mem_singleton.mp hnew]
            exact printable_shownAs hshown
        show Grows texts s (if s.logline.length + 1 = SCREEN_COLS then _ else _)
        split_ifs
        · exact hlonger.flush
        · exact hlonger.same

theorem Grows.trans {s s' s'' : State} (h : Grows texts s s')
    (hnext : forall {texts : List (List UInt8)}, Shows texts s' ->
      Grows texts s' s'') : Grows texts s s'' := by
  rcases h with ⟨rows, hshows, hflushed⟩
  rcases hnext hshows with ⟨more, hshows', hflushed'⟩
  refine ⟨rows ++ more, ?_, ?_⟩
  · rwa [← List.append_assoc]
  · rw [hflushed', hflushed, List.append_assoc]

theorem Shows.bytes (data : List UInt8) :
    forall {texts : List (List UInt8)} {s : State}, Shows texts s ->
      Grows texts s (data.foldl Chat.loglineChar s) := by
  induction data with
  | nil => exact fun h => h.same
  | cons b rest ih =>
      exact fun h => (h.loglineChar b).trans (fun hnext => ih hnext)

theorem Shows.showData (h : Shows texts s) (data : List UInt8) :
    Grows texts s (showData data s) := by
  refine (h.bytes data).trans (fun hnext => ?_)
  rw [Chat.showData]
  split_ifs
  · exact hnext.flush
  · exact hnext.same

end Shows

/-!
## The log of a session
-/

/-- A row of received data, or a line that has been sent. -/
inductive Entry where
  | row (text : List UInt8)
  | said (line : List UInt8) (failed : Bool)

def Entry.texts : Entry -> List (List UInt8)
  | .row text => [text]
  | .said line false => [line]
  | .said line true => [line, ascii "*** send failed"]

def Entry.received : Entry -> Option (List UInt8)
  | .row text => some text
  | .said _ _ => none

def Entry.sent : Entry -> Option (List UInt8)
  | .row _ => none
  | .said line _ => some line

/-- Whether the line is marked as not sent. -/
def Entry.failure : Entry -> Option Bool
  | .row _ => none
  | .said _ failed => some failed

/-- What is logged from the greeting on, with the farewell if there is one. -/
def logTexts (entries : List Entry) (goodbye : Option Goodbye) :
    List (List UInt8) :=
  ascii "*** connected. CAPS+SYM+C quits." ::
    (entries.flatMap Entry.texts ++ goodbye.toList.map Goodbye.text)

/-- The stream of these segments, with the end of each marked. -/
def segmentStream (segments : List (List UInt8)) : List (Option UInt8) :=
  segments.flatMap (fun segment => segment.map some ++ [none])

theorem logTexts_rows (entries : List Entry) (rows : List (List UInt8)) :
    logTexts (entries ++ rows.map Entry.row) none =
      logTexts entries none ++ rows := by
  have hrows : (rows.map Entry.row).flatMap Entry.texts = rows := by
    rw [List.flatMap_map]
    exact List.flatMap_singleton' rows
  rw [logTexts, logTexts, List.flatMap_append, hrows]
  simp only [Option.toList_none, List.map_nil, List.append_nil,
    List.cons_append]

theorem logTexts_said (entries : List Entry) (line : List UInt8)
    (failed : Bool) :
    logTexts (entries ++ [.said line failed]) none =
      logTexts entries none ++ (Entry.said line failed).texts := by
  rw [logTexts, logTexts, List.flatMap_append, List.flatMap_singleton]
  simp only [Option.toList_none, List.map_nil, List.append_nil,
    List.cons_append]

theorem logTexts_goodbye (entries : List Entry) (g : Goodbye) :
    logTexts entries (some g) = logTexts entries none ++ [g.text] := by
  rw [logTexts, logTexts]
  simp only [Option.toList_none, Option.toList_some, List.map_nil,
    List.map_cons, List.append_nil, List.cons_append]

/-- The session behind these entries and segments, with the payloads that
have not been answered. -/
structure Follows (entries : List Entry) (goodbye : Option Goodbye)
    (unanswered : List (List UInt8)) (segments : List (List UInt8)) (s : State)
    (payloads : List (List UInt8)) : Prop where
  shows : Shows (logTexts entries goodbye) s
  rows : entries.filterMap Entry.received = s.flushed
  assembled : Assembled (segmentStream segments) s
  between : s.logline = []
  payloads : payloads =
    (entries.filterMap Entry.sent).map lineBytes ++ unanswered

section Follows

variable {entries : List Entry} {unanswered segments payloads : List (List UInt8)}
  {s : State}

theorem Follows.showData
    (h : Follows entries none unanswered segments s payloads)
    (data : List UInt8) :
    exists entries' : List Entry,
      Follows entries' none unanswered (segments ++ [data]) (showData data s)
          payloads ∧
        entries'.filterMap Entry.failure =
          entries.filterMap Entry.failure := by
  rcases h.shows.showData data with ⟨rows, hshows, hflushed⟩
  have hreceived : (rows.map Entry.row).filterMap Entry.received = rows := by
    rw [List.filterMap_map]
    exact List.filterMap_some
  have hsent : (rows.map Entry.row).filterMap Entry.sent = [] := by
    rw [List.filterMap_map]
    exact List.filterMap_none rows
  have hmarks : (rows.map Entry.row).filterMap Entry.failure = [] := by
    rw [List.filterMap_map]
    exact List.filterMap_none rows
  refine ⟨entries ++ rows.map Entry.row, ?_, by
    rw [List.filterMap_append, hmarks, List.append_nil]⟩
  constructor
  case shows => rwa [logTexts_rows]
  case rows => rw [List.filterMap_append, hreceived, h.rows, hflushed]
  case assembled =>
    have hcall := h.assembled.call (.data data)
    rw [segmentStream, List.flatMap_append, List.flatMap_singleton]
    exact hcall
  case between => exact run_logline (.data data) h.between
  case payloads =>
    rw [List.filterMap_append, hsent, List.append_nil]
    exact h.payloads

/-- A text that is not received data. -/
theorem Follows.logLine
    (h : Follows entries none unanswered segments s payloads)
    {text : List UInt8} (htext : forall c, c ∈ text -> Printable c)
    {entries' : List Entry} {goodbye : Option Goodbye}
    (htexts : logTexts entries' goodbye = logTexts entries none ++ [text])
    (hreceived : entries'.filterMap Entry.received =
      entries.filterMap Entry.received)
    (hsent : entries'.filterMap Entry.sent = entries.filterMap Entry.sent) :
    Follows entries' goodbye unanswered segments (logLine text s)
      payloads := by
  constructor
  case shows =>
    rw [htexts]
    exact h.shows.logLine htext
  case rows => rw [hreceived, h.rows, logLine_flushed]
  case assembled => exact h.assembled.logged text
  case between => rw [logLine_logline, h.between]
  case payloads => rw [hsent, h.payloads]

theorem Follows.goodbye (h : Follows entries none [] segments s payloads)
    (g : Goodbye) :
    Follows entries (some g) [] segments (Chat.logLine g.text s) payloads := by
  have htext : forall c, c ∈ g.text -> Printable c := by
    cases g with
    | reset => decide
    | closed => decide
  exact h.logLine htext (logTexts_goodbye entries g) rfl rfl

/-- The line is echoed when it has been sent. -/
theorem Follows.echo
    (h : Follows entries none [lineBytes s.screen.input] segments s
      payloads) :
    Follows (entries ++ [.said s.screen.input false]) none [] segments
      (Chat.echo s) payloads := by
  constructor
  case shows =>
    rw [logTexts_said]
    exact h.shows.echo
  case rows =>
    rw [List.filterMap_append]
    show _ ++ [] = (Chat.echo s).flushed
    rw [List.append_nil, h.rows, Chat.echo, logLine_flushed]
  case assembled =>
    have hline : Assembled (segmentStream segments)
        { s with screen := { s.screen with input := [] } } :=
      ⟨h.assembled.logline_eq, h.assembled.emitted_iff,
        h.assembled.flushed_eq⟩
    exact hline.logged s.screen.input
  case between =>
    rw [Chat.echo, logLine_logline]
    exact h.between
  case payloads =>
    rw [List.filterMap_append, List.map_append, h.payloads, List.append_nil]
    rfl

theorem Follows.failed {line : List UInt8}
    (h : Follows (entries ++ [.said line false]) none [] segments s
      payloads) :
    Follows (entries ++ [.said line true]) none [] segments
      (Chat.logLine (ascii "*** send failed") s) payloads := by
  have htexts : logTexts (entries ++ [.said line true]) none =
      logTexts (entries ++ [.said line false]) none ++
        [ascii "*** send failed"] := by
    rw [logTexts_said, logTexts_said, List.append_assoc]
    rfl
  apply h.logLine (by decide) htexts
  · rw [List.filterMap_append, List.filterMap_append]
    rfl
  · rw [List.filterMap_append, List.filterMap_append]
    rfl

theorem Follows.editKey
    (h : Follows entries none [] segments s payloads) (k : UInt16) :
    Follows entries none [] segments (editKey k s) payloads := by
  have hsame : exists screen : Screen,
      Chat.editKey k s = { s with screen := screen } := by
    unfold Chat.editKey
    split_ifs
    · exact ⟨_, rfl⟩
    · exact ⟨_, rfl⟩
    · exact ⟨_, rfl⟩
    · exact ⟨_, rfl⟩
  have hshows := h.shows.editKey k
  rcases hsame with ⟨screen, heq⟩
  rw [heq] at hshows ⊢
  exact ⟨hshows, h.rows,
    ⟨h.assembled.logline_eq, h.assembled.emitted_iff, h.assembled.flushed_eq⟩,
    h.between, h.payloads⟩

end Follows

/-!
## Runs
-/

/-- The marks in the log are the failures that have been reported, but for those
of `pending`. -/
def Marked (entries : List Entry) (pending : List Bool)
    (reports : List Report) : Prop :=
  failures reports = entries.filterMap Entry.failure ++ pending

def Going (reports : List Report) (s : State)
    (payloads : List (List UInt8)) : Prop :=
  exists entries : List Entry,
    Follows entries none [] (segments reports) s payloads ∧
      Marked entries [] reports

/-- The last call has ended the session and the farewell has been logged. -/
def Parted (reports : List Report) (s : State)
    (payloads : List (List UInt8)) : Prop :=
  exists (entries : List Entry) (g : Goodbye),
    Follows entries (some g) [] (segments reports) s payloads ∧
      Marked entries [] reports ∧ g.Told reports

/-- The run has stopped in a call of the stack; a line may have been passed to
`tcp_send` that is still on the bottom row. -/
def Stuck (reports : List Report) (s : State)
    (payloads : List (List UInt8)) : Prop :=
  exists (entries : List Entry) (unanswered : List (List UInt8)),
    Follows entries none unanswered (segments reports) s payloads ∧
      Marked entries [] reports

/-- The line on the bottom row has been passed to `tcp_send`. -/
def Awaiting (reports : List Report) (s : State)
    (payloads : List (List UInt8)) : Prop :=
  exists entries : List Entry,
    Follows entries none [lineBytes s.screen.input] (segments reports) s
        payloads ∧
      Marked entries [] reports

/-- `tcp_send` has returned `rc` for it. -/
def ReturnedWith (rc : Int) (reports : List Report) (s : State)
    (payloads : List (List UInt8)) : Prop :=
  exists entries : List Entry,
    Follows entries none [lineBytes s.screen.input] (segments reports) s
        payloads ∧
      Marked entries [decide (rc < 0)] reports

/-- The line has been echoed, and whether it was sent has not been told. -/
def Echoed (rc : Int) (reports : List Report) (s : State)
    (payloads : List (List UInt8)) : Prop :=
  exists (entries : List Entry) (line : List UInt8),
    Follows (entries ++ [.said line false]) none [] (segments reports) s
        payloads ∧
      Marked entries [decide (rc < 0)] reports

theorem Awaiting.stuck {reports : List Report} {s : State}
    {payloads : List (List UInt8)} (h : Awaiting reports s payloads) :
    Stuck reports s payloads := by
  rcases h with ⟨entries, hfollows, hmarked⟩
  exact ⟨entries, _, hfollows, hmarked⟩

theorem Awaiting.returned {reports : List Report} {s : State}
    {payloads : List (List UInt8)} (h : Awaiting reports s payloads)
    {bytes : List UInt8} (hbytes : bytes ≠ []) (rc : Int) :
    ReturnedWith rc (reports ++ [.sent bytes rc]) s payloads := by
  rcases h with ⟨entries, hfollows, hmarked⟩
  have hsame : segments (reports ++ [.sent bytes rc]) = segments reports :=
    segments_silent reports rfl
  refine ⟨entries, by rwa [hsame], ?_⟩
  rw [Marked, failures_sent hbytes, hmarked, List.append_nil]

/-- The mark of the line that has been echoed. -/
theorem Marked.said {entries : List Entry} {reports : List Report}
    {failed : Bool} (h : Marked entries [failed] reports)
    (line : List UInt8) :
    Marked (entries ++ [.said line failed]) [] reports := by
  rw [Marked, List.filterMap_append, List.append_nil, h]
  rfl

theorem going_app : HeardInvariant app Going Parted Stuck where
  quiet := by
    intro r hsegment hfailure reports s payloads h
    rcases h with ⟨entries, hfollows, hmarked⟩
    refine ⟨entries, ?_, ?_⟩
    · rwa [segments_silent reports hsegment]
    · rwa [Marked, failures_silent reports hfailure]
  showData := by
    intro rc hpos flags data reports s payloads h
    rcases h with ⟨entries, hfollows, hmarked⟩
    rcases hfollows.showData data with ⟨entries', hfollows', hsame⟩
    refine ⟨entries', ?_, ?_⟩
    · rwa [segments_received hpos]
    · rwa [Marked, failures_silent reports rfl, hsame]
  goodbye := by
    intro g reports s payloads htold h
    rcases h with ⟨entries, hfollows, hmarked⟩
    exact ⟨entries, g, hfollows.goodbye g, hmarked, htold⟩
  stopped := by
    intro reports s payloads h
    rcases h with ⟨entries, hfollows, hmarked⟩
    exact ⟨entries, [], hfollows, hmarked⟩

section Runs

variable (N : Network ν)

/-- The line is in the trace before it is sent. -/
theorem going_sendData {c : Session State (ν × List Report)}
    (h : OnHeard Going c) :
    Ensures (fun c' => c' = c)
      (sendData (hearing N) .typed [c.app.screen.input, [10]]
        (c.app.screen.input ++ [10]))
      (fun rc => OnHeard (ReturnedWith rc)) (OnHeard Stuck) := by
  have hlog : Ensures (fun c' => c' = c)
      (log (.payload .typed [c.app.screen.input, [10]]
        (c.app.screen.input ++ [10])))
      (fun _ => OnHeard Awaiting) (OnHeard Stuck) := by
    refine ensures_modify (fun c' heq => ?_)
    subst heq
    rcases h with ⟨entries, hfollows, hmarked⟩
    refine ⟨entries, ⟨hfollows.shows, hfollows.rows, hfollows.assembled,
      hfollows.between, ?_⟩, hmarked⟩
    show payloadsOf (c'.trace ++ [_]) = _
    rw [payloadsOf_append, hfollows.payloads, List.append_nil]
    rfl
  have hbytes : c.app.screen.input ++ [10] ≠ [] :=
    List.append_ne_nil_of_right_ne_nil _ (List.cons_ne_nil _ _)
  refine ensures_bind hlog (fun _ => ?_)
  refine ensures_bind (onHeard_send (J := ReturnedWith) N _ 0
    (fun rc _ _ _ hc => hc.returned hbytes rc) Awaiting.stuck) (fun rc => ?_)
  exact ensures_bind (onHeard_setWindow false)
    (fun _ => ensures_pure (fun _ hc => hc))

theorem going_sendLine :
    Ensures (OnHeard Going) (sendLine (hearing N)) (fun _ => OnHeard Going)
      (OnHeard Stuck) := by
  have hecho : forall rc : Int, Ensures (OnHeard (ν := ν) (ReturnedWith rc))
      (modifyApp echo) (fun _ => OnHeard (Echoed rc)) (OnHeard Stuck) := by
    intro rc
    refine ensures_modify (fun c hc => ?_)
    rcases hc with ⟨entries, hfollows, hmarked⟩
    exact ⟨entries, c.app.screen.input, hfollows.echo, hmarked⟩
  have hreport : forall rc : Int, Ensures (OnHeard (ν := ν) (Echoed rc))
      (reportFailure rc) (fun _ => OnHeard Going) (OnHeard Stuck) := by
    intro rc c hc
    rcases hc with ⟨entries, line, hfollows, hmarked⟩
    unfold reportFailure
    split_ifs with hneg
    · rw [decide_eq_true hneg] at hmarked
      exact ⟨_, hfollows.failed, hmarked.said line⟩
    · rw [decide_eq_false hneg] at hmarked
      exact ⟨_, hfollows, hmarked.said line⟩
  refine ensures_bind (going_app.drain N) (fun _ => ?_)
  apply ensures_get_bind
  intro c hc
  exact ensures_bind (going_sendData N hc)
    (fun rc => ensures_bind (hecho rc)
      (fun _ => ensures_bind (hreport rc)
        (fun _ => onHeard_returned .send))) c rfl

theorem going_sendInput :
    Ensures (OnHeard Going) (sendInput (hearing N)) (fun _ => OnHeard Going)
      (OnHeard Stuck) := by
  apply ensures_get_bind
  intro c hc
  split_ifs
  · exact onHeard_returned (T := Stuck) .send c hc
  · exact going_sendLine N c hc

/-- A key has been answered with `rc`, which is -1 for the quit key only. -/
def Pressed (k : UInt16) (rc : Int) (c : Session State (ν × List Report)) :
    Prop :=
  OnHeard Going c ∧ (rc < 0 <-> k = KEY_QUIT)

theorem going_pressKey (k : UInt16) :
    Ensures (OnHeard Going) (pressKey (hearing N) k) (Pressed k)
      (OnHeard Stuck) := by
  have hzero : k ≠ KEY_QUIT -> Ensures (OnHeard (ν := ν) Going) (pure 0)
      (Pressed k) (OnHeard Stuck) :=
    fun hk => ensures_pure (fun _ hc =>
      ⟨hc, iff_of_false (Int.lt_irrefl 0) hk⟩)
  have hedit : Ensures (OnHeard (ν := ν) Going) (modifyApp (editKey k))
      (fun _ => OnHeard Going) (OnHeard Stuck) := by
    refine ensures_modify (fun c hc => ?_)
    rcases hc with ⟨entries, hfollows, hmarked⟩
    exact ⟨entries, hfollows.editKey k, hmarked⟩
  have hkey : Ensures (OnHeard Going) (keyAction (hearing N) k) (Pressed k)
      (OnHeard Stuck) := by
    unfold keyAction
    split_ifs with henter hquit
    · have hk : k ≠ KEY_QUIT := by
        rw [henter]
        decide
      exact ensures_bind (going_sendInput N) (fun _ => hzero hk)
    · exact ensures_pure (fun _ hc =>
        ⟨hc, iff_of_true (by decide) hquit⟩)
    · exact ensures_bind hedit (fun _ => hzero hquit)
  have hreturned : forall rc : Int,
      Ensures (Pressed (ν := ν) k rc) (returned .handleKey)
        (fun _ => Pressed k rc) (OnHeard Stuck) :=
    fun _ => ensures_modify (fun _ hc => ⟨onHeard_silent hc.left rfl, hc.right⟩)
  unfold pressKey
  split_ifs with hnone
  · apply hzero
    rw [hnone]
    decide
  · exact ensures_bind hkey
      (fun rc => ensures_bind (hreturned rc)
        (fun _ => ensures_pure (fun _ hc => hc)))

/-- What a turn leaves behind that ends the loop. -/
def Leaves (k : UInt16) (c : Session State (ν × List Report)) : Prop :=
  (k = KEY_QUIT ∧ OnHeard Going c) ∨ (k ≠ KEY_QUIT ∧ OnHeard Parted c)

theorem going_turn (P : Platform) (k : UInt16) :
    Ensures (OnHeard Going) (turn P (hearing N) k)
      (fun running c => if running = true then OnHeard Going c ∧ k ≠ KEY_QUIT
        else Leaves k c)
      (OnHeard Stuck) := by
  refine ensures_bind (going_pressKey N k) (fun rc => ?_)
  split_ifs with hneg
  · exact ensures_pure (fun _ hc => Or.inl ⟨hc.right.mp hneg, hc.left⟩)
  · intro c hc
    have hk : k ≠ KEY_QUIT := fun heq => hneg (hc.right.mpr heq)
    refine ensures_bind (going_app.pollNet N P) (fun rc => ?_) c hc.left
    refine ensures_pure (fun c hc => ?_)
    by_cases hrc : 0 ≤ rc
    · rw [if_pos (decide_eq_true hrc)]
      exact ⟨hc.left hrc, hk⟩
    · rw [if_neg (by rwa [decide_eq_true_eq])]
      exact Or.inr ⟨hk, hc.right (Int.not_le.mp hrc)⟩

end Runs

/-- The greeting on a cleared screen. -/
theorem going_resetState {s : State} (hidle : s.screen.con.paramsLeft = 0)
    (hflushed : s.flushed = []) : Going [] (resetState s) [] := by
  have hcleared : Holds (s.screen.con.putchar 12)
      (List.replicate INPUT_ROW blankRow) blankRow 0 0 := by
    have hcls : s.screen.con.putchar 12 = s.screen.con.conCls := by
      rw [Console.putchar, if_neg (fun hne => hne hidle), if_neg (by decide),
        if_pos rfl]
    rw [hcls]
    exact ⟨rfl, hidle, rfl, rfl⟩
  have hnone : forall c, c ∈ ([] : List UInt8) -> Printable c := by
    intro c hc
    cases hc
  let ready : State :=
    { s with
      screen := { con := s.screen.con.putchar 12, input := [] }
      logline := []
      loglineEmitted := false }
  have hfresh : ready.fresh = ready := by
    show ({ ready with flushed := [] } : State) = ready
    rw [← hflushed]
  have hempty := Assembled.fresh ready
  rw [hfresh] at hempty
  have hprintable : forall c,
      c ∈ ascii "*** connected. CAPS+SYM+C quits." -> Printable c := by
    decide
  have hgreeting := logLine_holds (s := ready) hcleared hprintable hnone
  refine ⟨[], ?_, rfl⟩
  constructor
  case shows =>
    refine ⟨⟨0, INPUT_ROW, ?_⟩, ?_, ?_⟩
    · rw [resetState_input]
      exact hgreeting
    · rw [resetState_input]
      exact hnone
    · unfold resetState
      rw [logLine_logline]
      exact hnone
  case rows =>
    unfold resetState
    rw [logLine_flushed]
    exact hflushed.symm
  case assembled => exact hempty.logged _
  case between =>
    unfold resetState
    rw [logLine_logline]
  case payloads => rfl

theorem Assembled.rows {stream : List (Option UInt8)} {s : State}
    (h : Assembled stream s) (hbetween : s.logline = []) :
    s.flushed = streamRows stream := by
  rw [h.flushed_eq, streamRows, lineRows_eq, ← h.logline_eq, hbetween,
    if_pos List.length_nil, List.append_nil]

/-- The screen shows the last rows of the log above the line being typed.  The
rows of received data in the log are those of the segments, and its marks are the
failures of `tcp_send`. -/
structure OnScreen (entries : List Entry) (goodbye : Option Goodbye)
    (c : Session State (ν × List Report)) : Prop where
  log : c.app.screen.con.top = logRows (logTexts entries goodbye)
  line : c.app.screen.con.row INPUT_ROW = rowOf (inputRow c.app.screen.input)
  received : entries.filterMap Entry.received =
    streamRows (segmentStream (segments c.net.2))
  marks : entries.filterMap Entry.failure = failures c.net.2

theorem Follows.onScreen {entries : List Entry} {goodbye : Option Goodbye}
    {unanswered : List (List UInt8)} {c : Session State (ν × List Report)}
    (h : Follows entries goodbye unanswered (segments c.net.2) c.app
      (payloadsOf c.trace)) (hmarked : Marked entries [] c.net.2) :
    OnScreen entries goodbye c := by
  rcases h.shows.screen with ⟨cx, cy, hholds⟩
  rw [Marked, List.append_nil] at hmarked
  exact ⟨hholds.top_eq, hholds.bottom_eq,
    h.rows.trans (h.assembled.rows h.between), hmarked.symm⟩

theorem lineBytes_injective : Function.Injective lineBytes := by
  intro line line' h
  exact List.append_cancel_right h

/-- What has been taken of the keys when the loop ends: all of them, or those in
front of the quit key, or those up to the turn in which the session was over. -/
def Taken (keys front : List UInt16) (running : Bool)
    (goodbye : Option Goodbye) (reports : List Report) : Prop :=
  KEY_QUIT ∉ front ∧
    if running = true then front = keys ∧ goodbye = none
    else
      match goodbye with
      | none => front ++ [KEY_QUIT] <+: keys
      | some g => front <+: keys ∧ g.Told reports

/-- The invariant of the loop. -/
def Chatting (front : List UInt16) (c : Session State (ν × List Report)) :
    Prop :=
  KEY_QUIT ∉ front ∧ OnHeard Going c ∧ On (AllSent (typed front)) c

def ChatLeft (front : List UInt16) (k : UInt16)
    (c : Session State (ν × List Report)) : Prop :=
  KEY_QUIT ∉ front ∧ Leaves k c ∧ On (AllSent (typed (front ++ [k]))) c

theorem quit_not_mem_concat {front : List UInt16} {k : UInt16}
    (hquit : KEY_QUIT ∉ front) (hk : k ≠ KEY_QUIT) :
    KEY_QUIT ∉ front ++ [k] := by
  intro hmem
  rcases List.mem_append.mp hmem with hold | hlast
  · exact hquit hold
  · exact hk (List.mem_singleton.mp hlast).symm

theorem chatting_turn (P : Platform) (N : Network ν) (front : List UInt16)
    (k : UInt16) :
    Ensures (Chatting front) (turn P (hearing N) k)
      (fun running c => if running = true then Chatting (front ++ [k]) c
        else ChatLeft front k c)
      (fun c => OnHeard Stuck c ∧ On (PartSent (typed (front ++ [k]))) c) := by
  intro c hc
  rcases hc with ⟨hquit, hgoing, hsent⟩
  have hboth := (going_turn N P k).and
    (allSent_turn P (hearing N) (typed front) k)
  rw [<- typed_append] at hboth
  refine (hboth.mono (fun _ hs => hs) ?_ (fun _ hs => hs)) c ⟨hgoing, hsent⟩
  intro running c' hc'
  rcases hc' with ⟨hleft, hall⟩
  cases running with
  | true =>
      rw [if_pos rfl] at hleft ⊢
      exact ⟨quit_not_mem_concat hquit hleft.right, hleft.left, hall⟩
  | false =>
      rw [if_neg Bool.false_ne_true] at hleft ⊢
      exact ⟨hquit, hleft, hall⟩

theorem Follows.lines {entries : List Entry} {goodbye : Option Goodbye}
    {segments payloads : List (List UInt8)} {s : State}
    (h : Follows entries goodbye [] segments s payloads) {t : Typing}
    (hpayloads : payloads = t.lines.map lineBytes) :
    entries.filterMap Entry.sent = t.lines := by
  have hlines := h.payloads.symm.trans hpayloads
  rw [List.append_nil] at hlines
  exact List.map_injective_iff.mpr lineBytes_injective hlines

/-- In every run, whatever the connection does, the screen shows a log and the
line being typed.  The log is the greeting, the rows of all segments that
`tcp_recv_timeout` has brought, the lines that the keys have entered, each with a
note behind it if `tcp_send` failed, and a farewell if the server has ended the
run. -/
theorem screen_shows_session (P : Platform) (N : Network ν) (net : ν)
    {con : Console} (hidle : con.paramsLeft = 0) (keys : List UInt16) :
    Outcome
      (fun running c =>
        exists (front : List UInt16) (entries : List Entry)
          (goodbye : Option Goodbye), OnScreen entries goodbye c ∧
            entries.filterMap Entry.sent = (typed front).lines ∧
            c.app.screen.input = (typed front).input ∧
            Taken keys front running goodbye c.net.2)
      (fun c =>
        exists entries : List Entry, OnScreen entries none c ∧
          entries.filterMap Entry.sent <+: (typed keys).lines)
      (main P (hearing N) keys
        (Session.start (State.initial con) (net, []))) := by
  have hgoing : OnHeard Going
      (resetSession (Session.start (ν := ν × List Report)
        (State.initial con) (net, []))) :=
    going_resetState hidle rfl
  have hstart : Chatting [] (resetSession (Session.start
      (State.initial con) (net, []))) :=
    ⟨List.not_mem_nil, hgoing, allSent_start (resetState_input _) rfl⟩
  have hrun := ensures_loop_front_until Chatting
    (fun front c => OnHeard Stuck c ∧ On (PartSent (typed front)) c)
    ChatLeft (chatting_turn P N) keys [] _ hstart
  change Outcome _ _ (main P (hearing N) keys
    (Session.start (State.initial con) (net, []))) at hrun
  rcases hmain : main P (hearing N) keys
    (Session.start (State.initial con) (net, [])) with ⟨_ | running, c⟩
  · rw [hmain] at hrun
    rcases hrun with
      ⟨front, hfront, ⟨entries, unanswered, hfollows, hmarked⟩, hpart⟩
    refine ⟨entries, hfollows.onScreen hmarked, ?_⟩
    have hpayloads := PartSent.mono hpart (typed_lines_extend hfront)
    rw [PartSent, hfollows.payloads] at hpayloads
    exact (List.prefix_map_iff_of_injective lineBytes_injective).mp
      ((List.prefix_append _ _).trans hpayloads)
  · rw [hmain] at hrun
    cases running with
    | true =>
        rcases hrun with ⟨hquit, ⟨entries, hfollows, hmarked⟩, hinput, hsent⟩
        exact ⟨keys, entries, none, hfollows.onScreen hmarked,
          hfollows.lines hsent, hinput, hquit, rfl, rfl⟩
    | false =>
        rcases hrun with ⟨front, k, hfront, hquit, hleft, hinput, hsent⟩
        rcases hleft with ⟨hk, entries, hfollows, hmarked⟩ |
          ⟨hk, entries, g, hfollows, hmarked, htold⟩
        · rw [hk] at hfront
          rw [typed_append, key_none _ (Or.inr hk)] at hinput hsent
          exact ⟨front, entries, none, hfollows.onScreen hmarked,
            hfollows.lines hsent, hinput, hquit, hfront⟩
        · exact ⟨front ++ [k], entries, some g, hfollows.onScreen hmarked,
            hfollows.lines hsent, hinput, quit_not_mem_concat hquit hk, hfront,
            htold⟩

end Chat
end Z80Tcpip
