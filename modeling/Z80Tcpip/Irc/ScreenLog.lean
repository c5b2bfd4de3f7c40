import Z80Tcpip.Client.Rows
import Z80Tcpip.Irc.TypedLines

/-!
# The log on the screen

A log entry is printed on the bottom row, padded to whole rows and lifted into
the log by the newline behind it.  Between the calls the bottom row shows the
line being typed.
-/

namespace Z80Tcpip
namespace Irc

open Foundation
open Client

variable {ν : Type}

/-!
## What is printed
-/

/-- What `emit` makes of a string: tabs become spaces, and what cannot be shown
is left out. -/
def visible (text : List UInt8) : List UInt8 :=
  (text.map (fun c => if c = 9 then 0x20 else c)).filter
    (fun c => decide (Printable c))

theorem printable_visible (text : List UInt8) :
    forall c, c ∈ visible text -> Printable c := by
  intro c hc
  exact of_decide_eq_true (List.mem_filter.mp hc).right

theorem visible_length_le (text : List UInt8) :
    (visible text).length ≤ text.length := by
  have hfilter := List.length_filter_le (fun c => decide (Printable c))
    (text.map (fun c => if c = 9 then 0x20 else c))
  rwa [List.length_map] at hfilter

def emitPuts (text : List UInt8) (s : State) : State :=
  text.foldl (fun s c => emitPut c s) s

theorem emitChar_eq (s : State) (c : UInt8) :
    emitChar s c =
      if decide (Printable (if c = 9 then 0x20 else c)) = true then
        emitPut (if c = 9 then 0x20 else c) s
      else s := by
  unfold emitChar
  generalize (if c = 9 then 0x20 else c) = c'
  have hlow : c' < 32 <-> c'.toNat < 32 := UInt8.lt_iff_toNat_lt
  have hhigh : 126 < c' <-> 126 < c'.toNat := UInt8.lt_iff_toNat_lt
  simp only [hlow, hhigh, decide_eq_true_eq]
  by_cases h : Printable c'
  · rw [if_pos h, if_neg]
    intro hcase
    rcases hcase with hlt | hgt
    · exact Nat.not_lt.mpr h.left hlt
    · exact Nat.not_lt.mpr h.right hgt
  · rw [if_neg h, if_pos]
    unfold Printable at h
    omega

theorem emit_eq (text : List UInt8) (s : State) :
    emit text s = emitPuts (visible text) s := by
  rw [emitPuts, visible, List.foldl_filter, List.foldl_map, emit]
  exact congrArg (fun f => text.foldl f s)
    (funext (fun s => funext (emitChar_eq s)))

theorem emitAll_eq (pieces : List (List UInt8)) (s : State) :
    pieces.foldl (fun s piece => emit piece s) s =
      emitPuts (visible pieces.flatten) s := by
  rw [← emit_eq, emit, List.foldl_flatten]
  rfl

/-- The state when `text` has been printed. -/
theorem emitPuts_eq (text : List UInt8) :
    forall s : State, emitPuts text s =
      { s with
        screen := { s.screen with con := s.screen.con.putchars text }
        emitN := s.emitN + Int16.ofNat text.length } := by
  induction text with
  | nil =>
      intro s
      have hn : s.emitN + Int16.ofNat ([] : List UInt8).length = s.emitN :=
        Int16.add_zero s.emitN
      rw [hn]
      rfl
  | cons c rest ih =>
      intro s
      have hn : s.emitN + 1 + Int16.ofNat rest.length =
          s.emitN + Int16.ofNat (c :: rest).length := by
        rw [List.length_cons, Nat.add_comm, Int16.ofNat_add,
          Int16.add_assoc]
        rfl
      have hstep : emitPuts (c :: rest) s = emitPuts rest (emitPut c s) := rfl
      rw [hstep, ih, ← hn]
      rfl

/-!
## The padding
-/

theorem emitN_toInt {n : Nat} (h : n < 2 ^ 15) : (Int16.ofNat n).toInt = n :=
  Int16.toInt_ofNat_of_lt h

/-- The loop of `emit_end` stops at a whole number of rows other than none. -/
theorem emitN_whole {n : Nat} (h : n ≤ 2 ^ 15) :
    (Int16.ofNat n = 0 ∨ Int16.ofNat n % 64 ≠ 0) <-> n = 0 ∨ n % 64 ≠ 0 := by
  rcases Nat.lt_or_eq_of_le h with hlt | rfl
  · have hint := emitN_toInt hlt
    have hzero : Int16.ofNat n = 0 <-> n = 0 := by
      rw [← Int16.toInt_inj, hint, Int16.toInt_zero]
      omega
    have hmod : Int16.ofNat n % 64 = 0 <-> n % 64 = 0 := by
      have h64 : (64 : Int16).toInt = 64 := by
        decide
      rw [← Int16.toInt_inj, Int16.toInt_mod, hint, h64, Int16.toInt_zero,
        Int.tmod_eq_emod_of_nonneg (Int.natCast_nonneg n)]
      omega
    rw [hzero, Ne, hmod]
  · decide

/-- The loop pads with spaces, -/
theorem emitPad_spaces (turns : Nat) :
    forall s : State, exists k : Nat,
      emitPad turns s = emitPuts (List.replicate k 0x20) s := by
  induction turns with
  | zero => exact fun s => ⟨0, rfl⟩
  | succ turns ih =>
      intro s
      rw [emitPad]
      split_ifs
      · rcases ih (emitPut 0x20 s) with ⟨k, heq⟩
        exact ⟨k + 1, heq⟩
      · exact ⟨0, rfl⟩

/-- until the rows are whole. -/
theorem emitPad_eq (k : Nat) :
    forall {turns n : Nat} {s : State}, s.emitN = Int16.ofNat n ->
      n + k ≤ 2 ^ 15 -> n + k ≠ 0 -> (n + k) % 64 = 0 ->
        (forall j, j < k -> n + j = 0 ∨ (n + j) % 64 ≠ 0) -> k < turns ->
          emitPad turns s = emitPuts (List.replicate k 0x20) s := by
  induction k with
  | zero =>
      intro turns n s hn hbound hpos hwhole _ hturns
      rcases Nat.exists_eq_add_of_lt hturns with ⟨more, rfl⟩
      have hstop : ¬ (s.emitN = 0 ∨ s.emitN % 64 ≠ 0) := by
        rw [hn, emitN_whole (by omega)]
        omega
      rw [emitPad, if_neg hstop]
      rfl
  | succ k ih =>
      intro turns n s hn hbound hpos hwhole hrun hturns
      rcases Nat.exists_eq_add_of_lt hturns with ⟨more, rfl⟩
      have hgo : s.emitN = 0 ∨ s.emitN % 64 ≠ 0 := by
        rw [hn, emitN_whole (by omega)]
        exact hrun 0 (Nat.succ_pos k)
      have hnext : (emitPut 0x20 s).emitN = Int16.ofNat (n + 1) := by
        rw [Int16.ofNat_add, ← hn]
        rfl
      rw [emitPad, if_pos hgo, List.replicate_succ]
      refine ih hnext (by omega) (by omega) (by omega) ?_ (by omega)
      intro j hj
      have hlater := hrun (j + 1) (by omega)
      omega

/-- Behind a text of `n` characters the loop fills the last row. -/
theorem emitPad_fills {n : Nat} {s : State} (hn : s.emitN = Int16.ofNat n)
    (hbound : n < 2 ^ 15) :
    emitPad 128 s =
      emitPuts (List.replicate (W * rowCount n - n) 0x20) s := by
  have hrows : rowCount n = max 1 ((n + 63) / 64) := rfl
  simp only [W]
  apply emitPad_eq _ hn
  all_goals omega

/-- What has been printed of an entry when its newline is to follow. -/
def printed (pieces : List (List UInt8)) (s : State) : State :=
  emitPad 128 (pieces.foldl (fun s piece => emit piece s) (emitStart s))

theorem emitPuts_append (text more : List UInt8) (s : State) :
    emitPuts (text ++ more) s = emitPuts more (emitPuts text s) :=
  List.foldl_append

theorem printed_spaces (pieces : List (List UInt8)) (s : State) :
    exists k : Nat, printed pieces s =
      emitPuts (visible pieces.flatten ++ List.replicate k 0x20)
        (emitStart s) := by
  rcases emitPad_spaces 128 (emitPuts (visible pieces.flatten) (emitStart s))
    with ⟨k, heq⟩
  refine ⟨k, ?_⟩
  rw [printed, emitAll_eq, heq, emitPuts_append]

theorem printed_padded {pieces : List (List UInt8)}
    (h : pieces.flatten.length < 2 ^ 15) (s : State) :
    printed pieces s =
      emitPuts (padded (visible pieces.flatten)) (emitStart s) := by
  have hle := visible_length_le pieces.flatten
  have hn : (emitPuts (visible pieces.flatten) (emitStart s)).emitN =
      Int16.ofNat (visible pieces.flatten).length := by
    rw [emitPuts_eq]
    exact Int16.zero_add _
  rw [printed, emitAll_eq, emitPad_fills hn (by omega), padded,
    emitPuts_append]

/-!
## The input line and an entry
-/

/-- The console is not inside a goto sequence, and the bottom row is the prompt,
the last 62 characters typed, the cursor and spaces. -/
structure Drawn (s : State) : Prop where
  idle : s.screen.con.paramsLeft = 0
  bottom : s.screen.con.row INPUT_ROW =
    rowOf (ascii ">" ++
      s.screen.input.drop (s.screen.input.length - INPUT_VIEW) ++ ascii "_")

/-- Only printable characters have been typed. -/
def Typeable (s : State) : Prop :=
  forall c, c ∈ s.screen.input -> Printable c

theorem inputRow_eq (input : List UInt8) :
    rowOf (inputRow input) =
      rowOf (ascii ">" ++ input.drop (input.length - INPUT_VIEW) ++
        ascii "_") := by
  have htail : (input.drop (input.length - INPUT_VIEW)).take
      (min input.length INPUT_VIEW) =
        input.drop (input.length - INPUT_VIEW) := by
    apply List.take_of_length_le
    rw [List.length_drop]
    omega
  apply Buffer.ext
  rw [rowOf_bytes (inputRow_length input)]
  show inputRow input = (ascii ">" ++ _ ++ ascii "_" ++ _).take W
  have hlen : (ascii ">" ++ input.drop (input.length - INPUT_VIEW) ++
      ascii "_").length = min input.length INPUT_VIEW + 2 := by
    rw [List.length_append, List.length_append, List.length_drop]
    show 1 + (input.length - (input.length - INPUT_VIEW)) + 1 = _
    omega
  rw [List.take_append, List.take_of_length_le (by
    rw [hlen]
    simp only [INPUT_VIEW, SCREEN_COLS, W]
    omega), List.take_replicate, hlen]
  simp only [inputRow, htail]
  congr 2
  simp only [INPUT_VIEW, SCREEN_COLS, W]
  omega

theorem drawn_of_holds {con : Console} {top : List Row} {bottom : Row}
    {cx cy : Nat} (h : Holds con top bottom cx cy) {s : State}
    (hs : Typeable s) (hcon : s.screen.con = con) :
    Drawn (drawInput s) ∧ (drawInput s).screen.con.top = top := by
  rw [← hcon] at h
  have hshown := h.drawInput hs
  exact ⟨⟨hshown.idle, hshown.bottom_eq.trans (inputRow_eq s.screen.input)⟩,
    hshown.top_eq⟩

/-- An entry whose strings fit the counter moves the last rows up. -/
def EntryShown (e : LogEntry) : Prop :=
  e.pieces.flatten.length < 2 ^ 15 ->
    e.after = lastRows (e.before ++ textRows (visible e.pieces.flatten))

theorem emitStart_holds {s : State} (h : s.screen.con.paramsLeft = 0) :
    Holds (emitStart s).screen.con s.screen.con.top
      (s.screen.con.row INPUT_ROW) 0 INPUT_ROW :=
  (holds_of_idle h).printAt

/-- The console when an entry has been printed, newline included. -/
theorem printed_holds {s : State} (h : s.screen.con.paramsLeft = 0)
    (pieces : List (List UInt8)) :
    exists (top : List Row) (bottom : Row) (cx cy : Nat),
      Holds ((printed pieces s).screen.con.putchar 10) top bottom cx cy ∧
        (pieces.flatten.length < 2 ^ 15 ->
          top = lastRows (s.screen.con.top ++
            textRows (visible pieces.flatten))) := by
  have hstart := emitStart_holds h
  have hvisible := printable_visible pieces.flatten
  by_cases hfits : pieces.flatten.length < 2 ^ 15
  · have htext := hstart.print_text hvisible
    rw [printed_padded hfits, emitPuts_eq]
    exact ⟨_, _, _, _, htext, fun _ => rfl⟩
  · rcases printed_spaces pieces s with ⟨k, heq⟩
    have hprintable : forall c,
        c ∈ visible pieces.flatten ++ List.replicate k 0x20 ->
          Printable c := by
      intro c hc
      rcases List.mem_append.mp hc with htext | hspace
      · exact hvisible c htext
      · rw [List.eq_of_mem_replicate hspace]
        decide
    have hidle := Console.putchar_idle (c := 10)
      (Console.putchars_idle hstart.idle hprintable) (by decide)
    rw [heq, emitPuts_eq]
    exact ⟨_, _, _, _, holds_of_idle hidle, fun hlt => absurd hlt hfits⟩

/-- Printing touches the console and the counter only. -/
theorem printed_eq (pieces : List (List UInt8)) (s : State) :
    exists (con : Console) (n : Int16), printed pieces s =
      { s with screen := { s.screen with con := con }, emitN := n } := by
  rcases printed_spaces pieces s with ⟨k, heq⟩
  rw [heq, emitPuts_eq]
  exact ⟨_, _, rfl⟩

/-- The state when the newline has been printed. -/
def lifted (pieces : List (List UInt8)) (s : State) : State :=
  { printed pieces s with
    screen :=
      { (printed pieces s).screen with
        con := (printed pieces s).screen.con.putchar 10 } }

theorem logEntry_eq (pieces : List (List UInt8)) (s : State) :
    logEntry pieces s =
      { drawInput (lifted pieces s) with
        logged := (lifted pieces s).logged ++
          [{ before := s.screen.con.top
             pieces := pieces
             after := (drawInput (lifted pieces s)).screen.con.top }] } := by
  unfold logEntry emitEnd lifted printed
  rfl

theorem lifted_eq (pieces : List (List UInt8)) (s : State) :
    exists (con : Console) (n : Int16), lifted pieces s =
      { s with screen := { s.screen with con := con }, emitN := n } := by
  rcases printed_eq pieces s with ⟨con, n, heq⟩
  rw [lifted, heq]
  exact ⟨_, _, rfl⟩

theorem logEntry_shows {s : State} (h : s.screen.con.paramsLeft = 0)
    (htyped : Typeable s) (pieces : List (List UInt8)) :
    Drawn (logEntry pieces s) ∧ exists e : LogEntry,
      (logEntry pieces s).logged = s.logged ++ [e] ∧
        e.before = s.screen.con.top ∧
        e.after = (logEntry pieces s).screen.con.top ∧ EntryShown e := by
  rcases printed_holds h pieces with ⟨top, bottom, cx, cy, hlifted, htop⟩
  rcases lifted_eq pieces s with ⟨con, n, heq⟩
  have htyped' : Typeable (lifted pieces s) := by
    rw [heq]
    exact htyped
  have hlogged : (lifted pieces s).logged = s.logged := by
    rw [heq]
  have hshown := drawn_of_holds hlifted htyped' rfl
  rw [logEntry_eq, hlogged]
  generalize drawInput (lifted pieces s) = s' at hshown
  rcases hshown with ⟨hdrawn, hafter⟩
  refine ⟨⟨hdrawn.idle, hdrawn.bottom⟩, _, rfl, rfl, rfl, ?_⟩
  intro hfits
  exact hafter.trans (htop hfits)

/-!
## Runs
-/

/-- Each entry starts on the rows that the one before it has left. -/
def LogShown : List Row -> List LogEntry -> List Row -> Prop
  | first, [], last => last = first
  | first, e :: rest, last =>
      e.before = first ∧ EntryShown e ∧ LogShown e.after rest last

theorem LogShown.append {e : LogEntry} (he : EntryShown e) :
    forall {entries : List LogEntry} {first last : List Row},
      LogShown first entries last -> e.before = last ->
        LogShown first (entries ++ [e]) e.after
  | [], _, _, h, hbefore => ⟨hbefore.trans h, he, rfl⟩
  | _ :: _, _, _, ⟨hfirst, hshown, hrest⟩, hbefore =>
      ⟨hfirst, hshown, LogShown.append he hrest hbefore⟩

/-- A call returns with the input line on the screen. -/
def ReturnsDrawn : Event State ν -> Prop
  | .returned _ s _ _ => Drawn s
  | _ => True

/-- Between the sessions `c` and `c'` nothing but log entries has changed the
rows of the log, and every call has left the input line on the screen. -/
def ScreenKept (c c' : Session State ν) : Prop :=
  exists (entries : List LogEntry) (events : List (Event State ν)),
    c'.app.logged = c.app.logged ++ entries ∧ c'.trace = c.trace ++ events ∧
      LogShown c.app.screen.con.top entries c'.app.screen.con.top ∧
      forall e, e ∈ events -> ReturnsDrawn e

/-- The invariant of a run from `c`. -/
def OnScreen (c : Session State ν) (s : State) (t : List (Event State ν)) :
    Prop :=
  Drawn s ∧ Typeable s ∧
    ScreenKept c { c with app := s, trace := t }

variable {c : Session State ν} {s s' : State} {t : List (Event State ν)}

theorem OnScreen.congr (h : OnScreen c s t) (hscreen : s'.screen = s.screen)
    (hlogged : s'.logged = s.logged) : OnScreen c s' t := by
  rcases h with ⟨hdrawn, htyped, entries, events, hl, ht, hshown, hevents⟩
  refine ⟨⟨?_, ?_⟩, ?_, entries, events, hlogged.trans hl, ht, ?_, hevents⟩
  · rw [hscreen]
    exact hdrawn.idle
  · rw [hscreen]
    exact hdrawn.bottom
  · intro k hk
    rw [hscreen] at hk
    exact htyped k hk
  · show LogShown _ entries s'.screen.con.top
    rw [hscreen]
    exact hshown

theorem OnScreen.append (h : OnScreen c s t) {e : Event State ν}
    (he : ReturnsDrawn e) : OnScreen c s (t ++ [e]) := by
  rcases h with ⟨hdrawn, htyped, entries, events, hl, ht, hshown, hevents⟩
  refine ⟨hdrawn, htyped, entries, events ++ [e], hl, ?_, hshown, ?_⟩
  · show t ++ [e] = c.trace ++ (events ++ [e])
    rw [← List.append_assoc, ← ht]
  · intro e' he'
    rcases List.mem_append.mp he' with hold | hnew
    · exact hevents e' hold
    · rw [List.mem_singleton] at hnew
      rwa [hnew]

theorem OnScreen.entry (h : OnScreen c s t) (pieces : List (List UInt8)) :
    OnScreen c (logEntry pieces s) t := by
  rcases h with ⟨hdrawn, htyped, entries, events, hl, ht, hshown, hevents⟩
  rcases logEntry_shows hdrawn.idle htyped pieces with
    ⟨hdrawn', e, hlogged, hbefore, hafter, he⟩
  have htyped' : Typeable (logEntry pieces s) := by
    intro k hk
    rw [(logEntry_onlyShows pieces s).input] at hk
    exact htyped k hk
  refine ⟨hdrawn', htyped', entries ++ [e], events, ?_, ht, ?_, hevents⟩
  · show (logEntry pieces s).logged = _
    rw [hlogged, ← List.append_assoc]
    exact congrArg (· ++ [e]) hl
  · show LogShown _ _ (logEntry pieces s).screen.con.top
    rw [← hafter]
    exact hshown.append he hbefore

theorem OnScreen.entries (entries : List (List (List UInt8))) :
    forall {s : State}, OnScreen c s t ->
      OnScreen c (logEntries entries s) t := by
  induction entries with
  | nil => exact fun h => h
  | cons pieces rest ih =>
      intro s h
      rw [logEntries_cons]
      exact ih (h.entry pieces)

/-- The input line is drawn again when it has changed. -/
theorem OnScreen.redraw (h : OnScreen c s t) {input : List UInt8}
    (hinput : forall k, k ∈ input -> Printable k) :
    OnScreen c
      (drawInput { s with screen := { s.screen with input := input } }) t := by
  rcases h with ⟨hdrawn, _, entries, events, hl, ht, hshown, hevents⟩
  have htyped : Typeable
      { s with screen := { s.screen with input := input } } :=
    hinput
  rcases drawn_of_holds (holds_of_idle hdrawn.idle) htyped rfl with
    ⟨hdrawn', htop⟩
  refine ⟨hdrawn', hinput, entries, events, hl, ht, ?_, hevents⟩
  show LogShown _ entries (drawInput _).screen.con.top
  rw [htop]
  exact hshown

theorem OnScreen.clear (h : OnScreen c s t) : OnScreen c (clearInput s) t := by
  have hnone : forall k, k ∈ ([] : List UInt8) -> Printable k := by
    intro k hk
    cases hk
  exact h.redraw hnone

theorem OnScreen.displays (h : OnScreen c s t) (hdisplays : Displays s s') :
    OnScreen c s' t := by
  induction hdisplays with
  | refl => exact h
  | entry pieces _ ih => exact ih.entry pieces
  | clear _ ih => exact ih.clear

theorem OnScreen.editKey (h : OnScreen c s t) (k : UInt16) :
    OnScreen c (editKey k s) t := by
  have htyped := h.right.left
  unfold Irc.editKey
  split_ifs with hdelete hsome hkey
  · exact h.redraw (fun b hb => htyped b ((List.dropLast_sublist _).mem hb))
  · exact h
  · apply h.redraw
    intro b hb
    rcases List.mem_append.mp hb with hold | hnew
    · exact htyped b hold
    · rw [List.mem_singleton] at hnew
      rw [hnew]
      exact printable_key hkey.left hkey.right.left
  · exact h

/-!
## Received data
-/

theorem OnScreen.handleLine (h : OnScreen c s t) (line : List UInt8) :
    OnScreen c (handleServerLine line s) t := by
  rcases handleServerLine_cases line s with
    ⟨arg, _, heq⟩ | ⟨_, noted, entries, hnoted, heq⟩
  · rw [heq]
    exact h.congr rfl rfl
  · have hscreen : OnScreen c noted t := by
      cases hnoted <;> exact h.congr rfl rfl
    rw [heq]
    exact hscreen.entries entries

theorem OnScreen.rxChar (h : OnScreen c s t) (b : UInt8) :
    OnScreen c (rxChar s b) t := by
  unfold Irc.rxChar
  split
  · exact h
  · split
    · have hread : OnScreen c (readOff (cString s.rxline) s) t :=
        h.congr rfl rfl
      exact hread.handleLine (cString s.rxline)
    · split
      · exact h.congr rfl rfl
      · exact h

theorem OnScreen.showData (data : List UInt8) :
    forall {s : State}, OnScreen c s t -> OnScreen c (showData data s) t := by
  induction data with
  | nil => exact fun h => h
  | cons b rest ih => exact fun h => ih (h.rxChar b)

/-!
## The loop
-/

theorem onScreen_app (c : Session State ν) :
    AppInvariant app (OnScreen c) (OnScreen c) where
  showData := fun data _ _ h => h.showData data
  logLine := fun text _ _ h => h.entry [text]
  shown := fun _ _ _ _ h => h.append h.left
  hungUp := fun _ _ _ h => h.append trivial
  stopped := fun h => h

theorem onScreen_oSend (N : Network ν) (c : Session State ν) (origin : Origin)
    (pieces : List (List UInt8)) :
    Program.Ensures (On (OnScreen c)) (oSend N origin pieces)
      (fun _ => On (OnScreen c)) (On (OnScreen c)) := by
  apply ensures_oSend N (onScreen_app c) (onScreen_app c)
  · intro s t h
    have hreset : OnScreen c { s with out := [] } t := h.congr rfl rfl
    exact hreset.append trivial
  · exact fun h => h.congr rfl rfl
  · exact fun _ _ _ _ h => h.append h.left

theorem OnScreen.oStrs (h : OnScreen c s t) (pieces : List (List UInt8)) :
    OnScreen c (pieces.foldl oStr s) t := by
  rcases oStrs_eq pieces s with ⟨out, heq⟩
  rw [heq]
  exact h.congr rfl rfl

theorem screen_upholds (P : Platform) (N : Network ν) (c : Session State ν) :
    Upholds P N (On (OnScreen c)) (fun _ _ => On (OnScreen c))
      (On (OnScreen c)) where
  poll := (onScreen_app c).pollNet N P (fun _ _ _ _ h => h.append h.left)
  send := onScreen_oSend N c
  returned := fun _ =>
    Program.ensures_modify (fun _ h => OnScreen.append h h.left)
  edit := fun k _ h => OnScreen.editKey h k
  reply := by
    intro c' answer h haction
    have htame := inputAction_tame c'.app
    rw [haction] at htame
    exact OnScreen.displays h (htame c'.app)
  typed := by
    intro c' pieces before after quits h haction
    have htame := inputAction_tame c'.app
    rw [haction] at htame
    rcases htame.left with ⟨chan, _, hbefore⟩
    have hbuilt : OnScreen c (pieces.foldl oStr c'.app) c'.trace :=
      OnScreen.oStrs h pieces
    show OnScreen c (before (pieces.foldl oStr c'.app)) c'.trace
    rw [hbefore]
    exact OnScreen.clear (hbuilt.congr rfl rfl)
  after := by
    intro c' s pieces before after quits h haction
    have htame := inputAction_tame s
    rw [haction] at htame
    exact OnScreen.displays h (htame.right c'.app)
  quit := fun h => OnScreen.oStrs h _
  pong := fun h _ => (OnScreen.oStrs h _).congr rfl rfl
  join := fun h _ _ => (OnScreen.oStrs h _).congr rfl rfl
  no_join := fun h => OnScreen.congr h rfl rfl

/-- In every run from a state that shows the input line, the rows above it
change by log entries only, each of which moves its text up as whole rows, and
every call returns with the input line shown. -/
theorem screen_shows_log_and_input (P : Platform) (N : Network ν)
    (keys : List UInt16) {c : Session State ν} (hdrawn : Drawn c.app)
    (htyped : Typeable c.app) : ScreenKept c (mainLoop P N keys c).2 := by
  have hstart : On (OnScreen c) c :=
    ⟨hdrawn, htyped, [], [], (List.append_nil _).symm,
      (List.append_nil _).symm, rfl, fun e he => by cases he⟩
  have hrun := (screen_upholds P N c).mainLoop keys c hstart
  rcases hmain : mainLoop P N keys c with ⟨_ | running, c'⟩
  · rw [hmain] at hrun
    exact hrun.right.right
  · rw [hmain] at hrun
    exact hrun.right.right

/-- An idle console shows the empty line once it is drawn. -/
theorem clearInput_ready {s : State} (h : s.screen.con.paramsLeft = 0) :
    Drawn (clearInput s) ∧ Typeable (clearInput s) := by
  have hnone : Typeable
      { s with screen := { s.screen with input := [] } } := by
    intro k hk
    cases hk
  refine ⟨(drawn_of_holds (holds_of_idle h) hnone rfl).left, ?_⟩
  intro k hk
  rcases clearInput_eq s with ⟨con, heq⟩
  rw [heq] at hk
  cases hk

/-- The empty line on a blank screen, and a letter typed while a message comes
in and is logged. -/
theorem screen_shows_log_and_input_message :
    ScreenKept
        (Session.start (clearInput (State.prompted Console.blank [] []))
          { current := [], coming := [ascii ":b!u@h PRIVMSG #c :hi\r\n"] })
        (mainLoop Platform.spectrum (feedNetwork Platform.spectrum) [0x61]
          (Session.start (clearInput (State.prompted Console.blank [] []))
            { current := []
              coming := [ascii ":b!u@h PRIVMSG #c :hi\r\n"] })).2 ∧
      (mainLoop Platform.spectrum (feedNetwork Platform.spectrum) [0x61]
        (Session.start (clearInput (State.prompted Console.blank [] []))
          { current := []
            coming :=
              [ascii ":b!u@h PRIVMSG #c :hi\r\n"] })).2.app.logged.length =
        1 := by
  have hidle : (State.prompted Console.blank [] []).screen.con.paramsLeft =
      0 := rfl
  have hready := clearInput_ready hidle
  constructor
  · generalize clearInput (State.prompted Console.blank [] []) = s at hready ⊢
    exact screen_shows_log_and_input Platform.spectrum
      (feedNetwork Platform.spectrum) [0x61]
      (c := Session.start s
        { current := [], coming := [ascii ":b!u@h PRIVMSG #c :hi\r\n"] })
      hready.left hready.right
  · decide +kernel

end Irc
end Z80Tcpip
