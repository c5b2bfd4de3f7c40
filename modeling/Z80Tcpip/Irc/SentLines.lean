import Z80Tcpip.Irc.TypedLines

/-!
# One command in each payload

Whatever is typed and whatever the server sends, every payload behind the
registration is the command that was built for it, whole and alone, and a CRLF.
The invariant bounds what the buffers can hold, and keeps the line ends out of
them.
-/

namespace Z80Tcpip
namespace Irc

open Foundation
open Client

variable {ν : Type}

/-!
## Plain strings
-/

/-- A byte that ends neither a line nor a string. -/
def Clean (c : UInt8) : Prop :=
  c ≠ 0 ∧ c ≠ 10 ∧ c ≠ 13

instance (c : UInt8) : Decidable (Clean c) :=
  inferInstanceAs (Decidable (_ ∧ _))

/-- A string of clean bytes, at most `n` of them. -/
def Plain (n : Nat) (s : List UInt8) : Prop :=
  s.length ≤ n ∧ forall c, c ∈ s -> Clean c

instance (n : Nat) (s : List UInt8) : Decidable (Plain n s) :=
  inferInstanceAs (Decidable (_ ∧ _))

theorem Plain.nil (n : Nat) : Plain n [] := by
  refine ⟨Nat.zero_le n, ?_⟩
  intro c hc
  cases hc

theorem Plain.mono {n m : Nat} {s : List UInt8} (h : Plain n s)
    (hle : n ≤ m) : Plain m s :=
  ⟨Nat.le_trans h.left hle, h.right⟩

theorem Plain.append {n m : Nat} {s t : List UInt8} (hs : Plain n s)
    (ht : Plain m t) : Plain (n + m) (s ++ t) := by
  constructor
  · rw [List.length_append]
    exact Nat.add_le_add hs.left ht.left
  · intro c hc
    rcases List.mem_append.mp hc with hc | hc
    · exact hs.right c hc
    · exact ht.right c hc

theorem Plain.sublist {n : Nat} {s t : List UInt8} (h : Plain n s)
    (hsub : t.Sublist s) : Plain n t :=
  ⟨Nat.le_trans hsub.length_le h.left, fun c hc => h.right c (hsub.mem hc)⟩

/-- What `str_copy` cuts off a clean string. -/
theorem plain_strCopy {s : List UInt8} (h : forall c, c ∈ s -> Clean c)
    (max : Nat) : Plain (max - 1) (strCopy s max) := by
  constructor
  · rw [strCopy, List.length_take]
    exact Nat.min_le_left _ _
  · intro c hc
    exact h c (List.mem_of_mem_take hc)

/-!
## Commands
-/

/-- A command that goes into `out[]` whole. -/
def Sendable (pieces : List (List UInt8)) : Prop :=
  Plain (OUT_LINE - 2) pieces.flatten

def Typed.Sendable : Typed -> Prop
  | .reply _ => True
  | .send pieces _ _ _ => Irc.Sendable pieces

theorem Typed.Sendable.ite {c : Prop} [Decidable c] {a b : Typed}
    (ha : ¬ c -> b.Sendable) (hb : c -> a.Sendable) :
    (if c then a else b).Sendable := by
  split
  case isTrue h => exact hb h
  case isFalse h => exact ha h

/-- A command built of up to four strings. -/
theorem sendable_four {a b c d : List UInt8} {n m k l : Nat} (ha : Plain n a)
    (hb : Plain m b) (hc : Plain k c) (hd : Plain l d)
    (hle : n + (m + (k + l)) ≤ OUT_LINE - 2) : Sendable [a, b, c, d] := by
  have hall := (ha.append (hb.append (hc.append hd))).mono hle
  rw [Sendable]
  simp only [List.flatten_cons, List.flatten_nil, List.append_nil]
  exact hall

theorem sendable_two {a b : List UInt8} {n m : Nat} (ha : Plain n a)
    (hb : Plain m b) (hle : n + m ≤ OUT_LINE - 2) : Sendable [a, b] := by
  have hall := (ha.append hb).mono hle
  rw [Sendable]
  simp only [List.flatten_cons, List.flatten_nil, List.append_nil]
  exact hall

/-- A command, the channel and a trailing argument. -/
theorem sendable_trailing {a chan arg : List UInt8} (ha : Plain 8 a)
    (hchan : Plain MAX_CHAN chan) (harg : Plain MAX_INPUT arg) :
    Sendable ([a, chan] ++ trailing arg) := by
  have hcolon : Plain 2 (ascii " :") := by
    decide
  unfold trailing
  split
  · exact sendable_four ha hchan hcolon harg (by decide)
  · exact sendable_two ha hchan (by decide)

section Actions

variable {s : State} {arg : List UInt8}
  (hchan : Plain MAX_CHAN s.curChan) (harg : Plain MAX_INPUT arg)

include hchan harg

theorem sayAction_sendable : (sayAction arg s).Sendable :=
  Typed.Sendable.ite
    (fun _ => sendable_four (n := 8) (k := 2) (by decide) hchan (by decide)
      harg (by decide))
    (fun _ => trivial)

theorem meAction_sendable : (meAction arg s).Sendable := by
  have hfront : Plain 8 (ascii "PRIVMSG ") := by
    decide
  have haction : Plain 10 (ascii " :" ++ [1] ++ ascii "ACTION ") := by
    decide
  have hend : Plain 1 [1] := by
    decide
  refine Typed.Sendable.ite (fun _ => ?_) (fun _ => trivial)
  have hall := (hfront.append (hchan.append (haction.append
    (harg.append hend)))).mono (m := OUT_LINE - 2) (by decide)
  show Sendable _
  rw [Sendable]
  simp only [List.flatten_cons, List.flatten_nil, List.append_nil]
  exact hall

theorem namesAction_sendable : (namesAction arg s).Sendable := by
  refine Typed.Sendable.ite (fun _ => ?_) (fun _ => trivial)
  split
  · exact sendable_two (n := 6) (by decide) harg (by decide)
  · exact sendable_two (n := 6) (by decide) hchan (by decide)

omit hchan in
theorem joinAction_sendable : (joinAction arg).Sendable := by
  have hword := (harg.sublist (nextWord_sublist arg).left).right
  exact Typed.Sendable.ite
    (fun _ => sendable_two (n := 5) (by decide)
      (plain_strCopy hword (MAX_CHAN + 1)) (by decide))
    (fun _ => trivial)

omit hchan in
theorem msgAction_sendable : (msgAction arg).Sendable := by
  rcases nextWord_sublist arg with ⟨hword, hrest⟩
  exact Typed.Sendable.ite
    (fun _ => sendable_four (n := 8) (k := 2) (by decide)
      (harg.sublist hword) (by decide) (harg.sublist hrest) (by decide))
    (fun _ => trivial)

omit hchan in
theorem quitAction_sendable : (quitAction arg).Sendable := by
  have hbye : Plain MAX_INPUT (ascii "spectrum signing off") := by
    decide
  show Sendable _
  split
  · exact sendable_two (n := 6) (by decide) harg (by decide)
  · exact sendable_two (n := 6) (by decide) hbye (by decide)

theorem commandAction_sendable (cmd : List UInt8) :
    (commandAction cmd arg s).Sendable := by
  have hnick : (nickAction arg).Sendable :=
    Typed.Sendable.ite
      (fun _ => sendable_two (n := 5) (by decide) harg (by decide))
      (fun _ => trivial)
  have hraw : (rawAction arg).Sendable := by
    refine Typed.Sendable.ite (fun _ => ?_) (fun _ => trivial)
    show Plain _ [arg].flatten
    rw [List.flatten_cons, List.flatten_nil, List.append_nil]
    exact harg.mono (by decide)
  have hpart : (partAction arg s).Sendable :=
    Typed.Sendable.ite
      (fun _ => sendable_trailing (by decide) hchan harg) (fun _ => trivial)
  have htopic : (topicAction arg s).Sendable :=
    Typed.Sendable.ite
      (fun _ => sendable_trailing (by decide) hchan harg) (fun _ => trivial)
  unfold commandAction
  refine Typed.Sendable.ite (fun _ => ?_) (fun _ => trivial)
  refine Typed.Sendable.ite (fun _ => ?_) (fun _ => joinAction_sendable harg)
  refine Typed.Sendable.ite (fun _ => ?_) (fun _ => hpart)
  refine Typed.Sendable.ite (fun _ => ?_) (fun _ => hnick)
  refine Typed.Sendable.ite (fun _ => ?_) (fun _ => msgAction_sendable harg)
  refine Typed.Sendable.ite (fun _ => ?_)
    (fun _ => meAction_sendable hchan harg)
  refine Typed.Sendable.ite (fun _ => ?_)
    (fun _ => namesAction_sendable hchan harg)
  refine Typed.Sendable.ite (fun _ => ?_) (fun _ => htopic)
  refine Typed.Sendable.ite (fun _ => ?_) (fun _ => hraw)
  exact Typed.Sendable.ite (fun _ => trivial)
    (fun _ => quitAction_sendable harg)

end Actions

/-- Every command that is typed fits. -/
theorem inputAction_sendable {s : State} (hchan : Plain MAX_CHAN s.curChan)
    (hinput : Plain MAX_INPUT s.screen.input) : (inputAction s).Sendable := by
  have harg := hinput.sublist (argument_sublist s.screen.input)
  unfold inputAction
  refine Typed.Sendable.ite (fun _ => ?_) (fun _ => trivial)
  exact Typed.Sendable.ite
    (fun _ => commandAction_sendable hchan harg _)
    (fun _ => sayAction_sendable hchan hinput)

/-!
## What the buffers hold
-/

structure Wholesome (s : State) : Prop where
  input : Plain MAX_INPUT s.screen.input
  rxline : forall c, c ∈ s.rxline -> c ≠ 10 ∧ c ≠ 13
  mynick : Plain MAX_NICK s.mynick
  curChan : Plain MAX_CHAN s.curChan
  pongArg : Plain (PONG_ARG - 1) s.pongArg

theorem Wholesome.onlyShows {s s' : State} (h : Wholesome s)
    (hshows : OnlyShows s s') : Wholesome s' := by
  rcases h with ⟨hinput, hrxline, hmynick, hcurChan, hpongArg⟩
  constructor
  · rwa [hshows.input]
  · rwa [hshows.rxline]
  · rwa [hshows.mynick]
  · rwa [hshows.curChan]
  · rwa [hshows.pongArg]

theorem Wholesome.displays {s s' : State} (h : Wholesome s)
    (hshown : Displays s s') : Wholesome s' := by
  rcases h with ⟨hinput, hrxline, hmynick, hcurChan, hpongArg⟩
  have hkeeps := hshown.keeps
  constructor
  · rcases hkeeps.input with hsame | hnil
    · rwa [hsame]
    · rw [hnil]
      exact Plain.nil MAX_INPUT
  · rwa [hkeeps.rxline]
  · rwa [hkeeps.mynick]
  · rwa [hkeeps.curChan]
  · rwa [hkeeps.pongArg]

/-- The lines of the server hold neither a line end nor a NUL. -/
theorem Wholesome.line {s : State} (h : Wholesome s) :
    forall c, c ∈ cString s.rxline -> Clean c := by
  intro c hc
  rcases h.rxline c ((cString_sublist s.rxline).mem hc) with ⟨hlf, hcr⟩
  refine ⟨?_, hlf, hcr⟩
  intro heq
  subst heq
  exact cString_no_nul s.rxline hc

theorem pingArg_sublist {line arg : List UInt8} (h : pingArg line = some arg) :
    arg.Sublist line := by
  have hsub := splitLine_sublist line
  unfold pingArg at h
  rcases hsplit : splitLine line with ⟨front, cmd, p⟩
  rw [hsplit] at h hsub
  simp only at h hsub
  split at h
  · cases h
    exact (nextParam_sublist p).left.trans hsub
  · cases h

theorem Wholesome.handleLine {s : State} (h : Wholesome s)
    {line : List UInt8} (hline : forall c, c ∈ line -> Clean c) :
    Wholesome (handleServerLine line s) := by
  rcases handleServerLine_cases line s with
    ⟨arg, harg, heq⟩ | ⟨_, noted, entries, hnoted, heq⟩
  · rw [heq]
    have hclean : forall c, c ∈ arg -> Clean c := fun c hc =>
      hline c ((pingArg_sublist harg).mem hc)
    exact ⟨h.input, h.rxline, h.mynick, h.curChan, plain_strCopy hclean _⟩
  · have hnoted' : Wholesome noted := by
      cases hnoted with
      | nothing => exact h
      | @nick text htext =>
          have hclean : forall c, c ∈ text -> Clean c := fun c hc =>
            hline c (htext.mem hc)
          exact ⟨h.input, h.rxline, plain_strCopy hclean _, h.curChan,
            h.pongArg⟩
      | welcome =>
          exact ⟨h.input, h.rxline, h.mynick, h.curChan, h.pongArg⟩
    rw [heq]
    exact hnoted'.onlyShows (logEntries_onlyShows entries noted)

theorem Wholesome.rxChar {s : State} (h : Wholesome s) (c : UInt8) :
    Wholesome (rxChar s c) := by
  unfold Irc.rxChar
  split
  · exact h
  case isFalse hcr =>
    split
    · have hnone : forall c, c ∈ ([] : List UInt8) -> c ≠ 10 ∧ c ≠ 13 := by
        intro c hc
        cases hc
      have hread : Wholesome (readOff (cString s.rxline) s) :=
        ⟨h.input, hnone, h.mynick, h.curChan, h.pongArg⟩
      exact hread.handleLine h.line
    case isFalse hlf =>
      split
      · refine ⟨h.input, ?_, h.mynick, h.curChan, h.pongArg⟩
        intro c' hc'
        rcases List.mem_append.mp hc' with hold | hnew
        · exact h.rxline c' hold
        · rw [List.mem_singleton] at hnew
          rw [hnew]
          exact ⟨hlf, hcr⟩
      · exact h

theorem Wholesome.showData (data : List UInt8) :
    forall {s : State}, Wholesome s -> Wholesome (showData data s) := by
  induction data with
  | nil => exact fun h => h
  | cons c rest ih => exact fun h => ih (h.rxChar c)

/-- A key that is typed is printable. -/
theorem clean_key {k : UInt16} (hlow : 32 ≤ k) (hhigh : k < 127) :
    Clean k.toUInt8 := by
  have hlow' := (printable_key hlow hhigh).left
  refine ⟨?_, ?_, ?_⟩ <;>
    · intro hzero
      rw [hzero] at hlow'
      exact absurd hlow' (by decide)

theorem Wholesome.editKey {s : State} (h : Wholesome s) (k : UInt16) :
    Wholesome (editKey k s) := by
  have hset : forall screen : Screen, Plain MAX_INPUT screen.input ->
      Wholesome { s with screen := screen } :=
    fun _ hinput => ⟨hinput, h.rxline, h.mynick, h.curChan, h.pongArg⟩
  unfold Irc.editKey
  split_ifs with hdelete hsome htyped
  · exact hset _ (h.input.sublist (List.dropLast_sublist _))
  · exact h
  · rcases htyped with ⟨hlow, hhigh, hroom⟩
    refine hset _ ⟨?_, ?_⟩
    · show (s.screen.input ++ [k.toUInt8]).length ≤ MAX_INPUT
      rw [List.length_append, List.length_singleton]
      exact hroom
    · intro c hc
      rcases List.mem_append.mp hc with hold | hnew
      · exact h.input.right c hold
      · rw [List.mem_singleton] at hnew
        rw [hnew]
        exact clean_key hlow hhigh
  · exact h

theorem readLine_clean (max : Nat) (keys : List UInt16) :
    forall {buf : List UInt8}, (forall c, c ∈ buf -> Clean c) ->
      forall c, c ∈ readLine max keys buf -> Clean c := by
  induction keys with
  | nil => exact fun h => h
  | cons k more ih =>
      intro buf hbuf
      unfold readLine
      split_ifs with henter hdelete htyped
      · exact hbuf
      · exact ih (fun c hc => hbuf c (List.dropLast_sublist buf |>.mem hc))
      · apply ih
        intro c hc
        rcases List.mem_append.mp hc with hold | hnew
        · exact hbuf c hold
        · rw [List.mem_singleton] at hnew
          rw [hnew]
          exact clean_key htyped.left htyped.right.left
      · exact ih hbuf

/-- The answers to the questions in front fit their variables. -/
theorem wholesome_prompted (con : Console) (nickKeys chanKeys : List UInt16) :
    Wholesome (State.prompted con nickKeys chanKeys) := by
  have hword : forall (keys : List UInt16) (c : UInt8),
      c ∈ (nextWord (readLine (MAX_INPUT + 2) keys [])).1 -> Clean c := by
    intro keys c hc
    have hnone : forall c, c ∈ ([] : List UInt8) -> Clean c := by
      intro c' hc'
      cases hc'
    exact readLine_clean (MAX_INPUT + 2) keys hnone c
      ((nextWord_sublist _).left.mem hc)
  have hempty : forall c, c ∈ ([] : List UInt8) -> c ≠ 10 ∧ c ≠ 13 := by
    intro c hc
    cases hc
  refine ⟨Plain.nil _, hempty, plain_strCopy (hword nickKeys) (MAX_NICK + 1),
    ?_, Plain.nil _⟩
  show Plain MAX_CHAN (if _ then [] else _)
  split
  · exact Plain.nil _
  · exact plain_strCopy (hword chanKeys) (MAX_CHAN + 1)

/-!
## Runs
-/

/-- A payload that is one command, the one built of `pieces`, and a CRLF. -/
structure Alone (pieces : List (List UInt8)) (bytes : List UInt8) : Prop where
  whole : bytes = pieces.flatten ++ CRLF
  clean : forall c, c ∈ pieces.flatten -> Clean c
  length_le : bytes.length ≤ OUT_LINE

theorem Sendable.alone {pieces : List (List UInt8)} (h : Sendable pieces) :
    Alone pieces (pieces.flatten ++ CRLF) := by
  refine ⟨rfl, h.right, ?_⟩
  have hle := h.left
  rw [List.length_append]
  simp only [OUT_LINE, CRLF, List.length_cons, List.length_nil] at hle ⊢
  omega

/-- Payloads behind the registration stand alone, and between the commands
`out_len` is 0. -/
def SentAlone : Event State ν -> Prop
  | .payload origin pieces bytes =>
      origin ≠ .register -> Alone pieces bytes
  | .returned call s _ _ => call ≠ .showData -> s.out = []
  | .hungUp _ _ => True

def AllAlone (t : List (Event State ν)) : Prop :=
  forall e, e ∈ t -> SentAlone e

theorem AllAlone.append {t : List (Event State ν)} (h : AllAlone t)
    {e : Event State ν} (he : SentAlone e) : AllAlone (t ++ [e]) := by
  intro e' hmem
  rcases List.mem_append.mp hmem with hold | hnew
  · exact h e' hold
  · rw [List.mem_singleton] at hnew
    rwa [hnew]

/-- The invariant between the commands, -/
def LinesKept (s : State) (t : List (Event State ν)) : Prop :=
  Wholesome s ∧ s.out = [] ∧ AllAlone t

/-- and while the command `pieces` is built and sent. -/
def LinesKeptIn (origin : Origin) (pieces : List (List UInt8)) (s : State)
    (t : List (Event State ν)) : Prop :=
  Wholesome s ∧
    (origin ≠ .register -> s.out = pieces.flatten ∧ Sendable pieces) ∧
    AllAlone t

theorem linesKept_app :
    AppInvariant app (LinesKept (ν := ν)) (fun _ => AllAlone) where
  showData := by
    intro data s t hparts
    rcases hparts with ⟨hwhole, hout, ht⟩
    exact ⟨hwhole.showData data,
      (showData_undisturbed data s).out.trans hout, ht⟩
  logLine := by
    intro text s t hparts
    rcases hparts with ⟨hwhole, hout, ht⟩
    have hshows := logEntry_onlyShows [text] s
    exact ⟨hwhole.onlyShows hshows, hshows.out.trans hout, ht⟩
  shown := by
    intro net windowOpen s t hparts
    rcases hparts with ⟨hwhole, hout, ht⟩
    exact ⟨hwhole, hout, ht.append (fun hne => absurd rfl hne)⟩
  hungUp := by
    intro net s t hparts
    rcases hparts with ⟨hwhole, hout, ht⟩
    exact ⟨hwhole, hout, ht.append trivial⟩
  stopped := fun h => h.right.right

theorem linesKeptIn_app (origin : Origin) (pieces : List (List UInt8)) :
    AppInvariant app (LinesKeptIn (ν := ν) origin pieces)
      (fun _ => AllAlone) where
  showData := by
    intro data s t hparts
    rcases hparts with ⟨hwhole, hbuilt, ht⟩
    have hout := (showData_undisturbed data s).out
    refine ⟨hwhole.showData data, ?_, ht⟩
    intro horigin
    rcases hbuilt horigin with ⟨hpieces, hsendable⟩
    exact ⟨hout.trans hpieces, hsendable⟩
  logLine := by
    intro text s t hparts
    rcases hparts with ⟨hwhole, hbuilt, ht⟩
    have hshows := logEntry_onlyShows [text] s
    refine ⟨hwhole.onlyShows hshows, ?_, ht⟩
    intro horigin
    rcases hbuilt horigin with ⟨hpieces, hsendable⟩
    exact ⟨hshows.out.trans hpieces, hsendable⟩
  shown := by
    intro net windowOpen s t hparts
    rcases hparts with ⟨hwhole, hbuilt, ht⟩
    exact ⟨hwhole, hbuilt, ht.append (fun hne => absurd rfl hne)⟩
  hungUp := by
    intro net s t hparts
    rcases hparts with ⟨hwhole, hbuilt, ht⟩
    exact ⟨hwhole, hbuilt, ht.append trivial⟩
  stopped := fun h => h.right.right

theorem LinesKept.returned {s : State} {t : List (Event State ν)}
    (h : LinesKept s t) (call : Call) (net : ν) (windowOpen : Bool) :
    LinesKept s (t ++ [.returned call s net windowOpen]) :=
  ⟨h.left, h.right.left, h.right.right.append (fun _ => h.right.left)⟩

theorem linesKept_oSend (N : Network ν) (origin : Origin)
    (pieces : List (List UInt8)) :
    Program.Ensures (On (LinesKeptIn origin pieces)) (oSend N origin pieces)
      (fun _ => On LinesKept) (On (fun _ => AllAlone)) := by
  apply ensures_oSend N linesKept_app (linesKeptIn_app origin pieces)
  · intro s t hparts
    rcases hparts with ⟨hwhole, hbuilt, ht⟩
    refine ⟨⟨hwhole.input, hwhole.rxline, hwhole.mynick, hwhole.curChan,
      hwhole.pongArg⟩, rfl, ht.append ?_⟩
    intro horigin
    rcases hbuilt horigin with ⟨hpieces, hsendable⟩
    rw [hpieces]
    exact hsendable.alone
  · exact fun h => h.right.right
  · exact fun net windowOpen _ _ h => h.returned .send net windowOpen

/-- A command that fits, built in an empty `out[]`. -/
theorem LinesKept.begin {s s' : State} {t : List (Event State ν)}
    (h : LinesKept s t) (origin : Origin) {pieces : List (List UInt8)}
    (hsendable : Sendable pieces)
    (hout : s'.out = (pieces.foldl oStr s).out) (hwhole : Wholesome s') :
    LinesKeptIn origin pieces s' t := by
  rcases h with ⟨_, hempty, ht⟩
  refine ⟨hwhole, fun _ => ⟨?_, hsendable⟩, ht⟩
  have hfit := oStrs_fit pieces s (by
    rw [hempty, List.length_nil, Nat.zero_add]
    exact hsendable.left)
  rw [hout, hfit, hempty]
  rfl

theorem Wholesome.oStrs {s : State} (h : Wholesome s)
    (pieces : List (List UInt8)) : Wholesome (pieces.foldl oStr s) := by
  rcases oStrs_eq pieces s with ⟨out, heq⟩
  rw [heq]
  exact ⟨h.input, h.rxline, h.mynick, h.curChan, h.pongArg⟩

theorem sendable_pong {s : State} (h : Wholesome s) :
    Sendable (pongPieces s) :=
  sendable_two (n := 6) (by decide) h.pongArg (by decide)

theorem sendable_join {s : State} (h : Wholesome s) :
    Sendable (joinPieces s) :=
  sendable_two (n := 5) (by decide) h.curChan (by decide)

theorem lines_upholds (P : Platform) (N : Network ν) :
    Upholds P N (On LinesKept) (fun origin pieces =>
      On (LinesKeptIn origin pieces)) (On (fun _ => AllAlone)) where
  poll := linesKept_app.pollNet N P
    (fun net windowOpen _ _ h => h.returned .pollNet net windowOpen)
  send := linesKept_oSend N
  returned := fun call => Program.ensures_modify
    (fun c hc => LinesKept.returned hc call c.net c.windowOpen)
  edit := by
    intro k c hparts
    rcases hparts with ⟨hwhole, hout, ht⟩
    rcases editKey_eq k c.app with ⟨screen, heq⟩
    refine ⟨hwhole.editKey k, ?_, ht⟩
    show (editKey k c.app).out = []
    rw [heq]
    exact hout
  reply := by
    intro c answer hparts haction
    rcases hparts with ⟨hwhole, hout, ht⟩
    have htame := inputAction_tame c.app
    rw [haction] at htame
    exact ⟨hwhole.displays (htame c.app),
      (htame c.app).keeps.out.trans hout, ht⟩
  typed := by
    intro c pieces before after quits hc haction
    have hwhole : Wholesome c.app := hc.left
    have htame := inputAction_tame c.app
    have hsendable := inputAction_sendable hwhole.curChan hwhole.input
    rw [haction] at htame hsendable
    rcases htame.left with ⟨chan, hchan, hbefore⟩
    have hbuilt := hwhole.oStrs pieces
    have hnew : Plain MAX_CHAN (chan (pieces.foldl oStr c.app)) := by
      rcases hchan (pieces.foldl oStr c.app) with hsame | ⟨hsub, hlength⟩
      · rw [hsame]
        exact hbuilt.curChan
      · exact ⟨hlength, fun b hb => hwhole.input.right b (hsub.mem hb)⟩
    have hchosen : Wholesome
        { pieces.foldl oStr c.app with
          curChan := chan (pieces.foldl oStr c.app) } :=
      ⟨hbuilt.input, hbuilt.rxline, hbuilt.mynick, hnew, hbuilt.pongArg⟩
    have hcleared := Displays.refl.clear (s :=
      { pieces.foldl oStr c.app with
        curChan := chan (pieces.foldl oStr c.app) })
    show LinesKeptIn .typed pieces (before (pieces.foldl oStr c.app)) c.trace
    rw [hbefore]
    exact LinesKept.begin hc .typed hsendable hcleared.keeps.out
      (hchosen.displays hcleared)
  after := by
    intro c s pieces before after quits hparts haction
    rcases hparts with ⟨hwhole, hout, ht⟩
    have htame := inputAction_tame s
    rw [haction] at htame
    have hshown := htame.right c.app
    exact ⟨hwhole.displays hshown, hshown.keeps.out.trans hout, ht⟩
  quit := by
    intro c hc
    have hsendable : Sendable [ascii "QUIT :spectrum signing off"] := by
      rw [Sendable]
      decide
    exact LinesKept.begin hc .typed hsendable rfl
      (Wholesome.oStrs hc.left _)
  pong := by
    intro c hc _
    have hbuilt := Wholesome.oStrs hc.left (pongPieces c.app)
    exact LinesKept.begin hc .pong (sendable_pong hc.left) rfl
      ⟨hbuilt.input, hbuilt.rxline, hbuilt.mynick, hbuilt.curChan,
        hbuilt.pongArg⟩
  join := by
    intro c hc _ _
    have hbuilt := Wholesome.oStrs hc.left (joinPieces c.app)
    exact LinesKept.begin hc .join (sendable_join hc.left) rfl
      ⟨hbuilt.input, hbuilt.rxline, hbuilt.mynick, hbuilt.curChan,
        hbuilt.pongArg⟩
  no_join := by
    intro c hparts
    rcases hparts with ⟨hwhole, hout, ht⟩
    exact ⟨⟨hwhole.input, hwhole.rxline, hwhole.mynick, hwhole.curChan,
      hwhole.pongArg⟩, hout, ht⟩

/-- In every run, each payload that `o_send` passes to `tcp_send` behind the
registration is the command that was built for it and a CRLF, with no other line
end and no NUL in it, and nothing is left in `out[]` between the commands. -/
theorem sent_lines_alone (P : Platform) (N : Network ν) (net : ν)
    (con : Console) (nickKeys chanKeys keys : List UInt16) :
    AllAlone (ranMain P N net con nickKeys chanKeys keys).trace := by
  let start := Session.start (State.prompted con nickKeys chanKeys) net
  have hready : LinesKeptIn .register
      (registerPieces (resetSession start).app)
      ((registerPieces (resetSession start).app).foldl oStr
        (resetSession start).app) start.trace := by
    have hprompted := wholesome_prompted con nickKeys chanKeys
    have hcleared : Wholesome (cleared start.app) :=
      ⟨Plain.nil _, hprompted.rxline, hprompted.mynick, hprompted.curChan,
        hprompted.pongArg⟩
    have hwhole : Wholesome (resetSession start).app :=
      hcleared.onlyShows (resetState_onlyShows start.app)
    refine ⟨hwhole.oStrs _, fun hne => absurd rfl hne, ?_⟩
    intro e he
    cases he
  have hrun := (lines_upholds P N).main keys (c := start) hready
  show AllAlone (main P N keys start).2.trace
  rcases hmain : main P N keys start with ⟨_ | running, c⟩
  · rw [hmain] at hrun
    exact hrun
  · rw [hmain] at hrun
    exact hrun.right.right

end Irc
end Z80Tcpip
