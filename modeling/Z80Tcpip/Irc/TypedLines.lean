import Z80Tcpip.Irc.ServerLines

/-!
# What a typed line can do

A typed line is answered on the screen, or it becomes a command: then the input
line is cleared before the command is sent, the channel may change, and the text
may be echoed afterwards.
-/

namespace Z80Tcpip
namespace Irc

open Foundation
open Client

/-- Log entries and clearings of the input line. -/
inductive Displays (s : State) : State -> Prop
  | refl : Displays s s
  | entry {s' : State} (pieces : List (List UInt8)) (h : Displays s s') :
      Displays s (logEntry pieces s')
  | clear {s' : State} (h : Displays s s') : Displays s (clearInput s')

/-- The channel behind a command: the one before it, none, or a word of the
typed line. -/
def ChannelFrom (input old new : List UInt8) : Prop :=
  new = old ∨ new.Sublist input ∧ new.length ≤ MAX_CHAN

/-- What is to be known of the reactions to the line `input`. -/
def Tame (input : List UInt8) : Typed -> Prop
  | .reply answer => forall s : State, Displays s (answer s)
  | .send _ before after _ =>
      (exists chan : State -> List UInt8,
        (forall s : State, ChannelFrom input s.curChan (chan s)) ∧
          forall s : State,
            before s = clearInput { s with curChan := chan s }) ∧
        forall s : State, Displays s (after s)

theorem Tame.ite {input : List UInt8} {c : Prop} [Decidable c] {a b : Typed}
    (ha : Tame input a) (hb : Tame input b) :
    Tame input (if c then a else b) := by
  split
  · exact ha
  · exact hb

theorem tame_usage (input : List UInt8) (text : String) :
    Tame input (usage text) :=
  fun _ => .entry _ (.clear .refl)

/-- A command that leaves the channel alone. -/
theorem tame_send (input : List UInt8) (pieces : List (List UInt8))
    {after : State -> State} (hafter : forall s : State, Displays s (after s))
    (quits : Bool) : Tame input (.send pieces clearInput after quits) :=
  ⟨⟨State.curChan, fun _ => Or.inl rfl, fun _ => rfl⟩, hafter⟩

theorem tame_silently (input : List UInt8) (pieces : List (List UInt8)) :
    Tame input (silently pieces) :=
  tame_send input pieces (fun _ => .refl) false

/-!
## The branches
-/

theorem tame_sayAction (input : List UInt8) (s : State) :
    Tame input (sayAction input s) :=
  Tame.ite (fun _ => .clear (.entry _ .refl))
    (tame_send input _ (fun _ => .entry _ .refl) false)

theorem tame_joinAction {input arg : List UInt8} (h : arg.Sublist input) :
    Tame input (joinAction arg) := by
  have hchan : (strCopy (nextWord arg).1 (MAX_CHAN + 1)).Sublist input ∧
      (strCopy (nextWord arg).1 (MAX_CHAN + 1)).length ≤ MAX_CHAN := by
    refine ⟨(List.take_sublist _ _).trans
      ((nextWord_sublist arg).left.trans h), ?_⟩
    rw [strCopy, List.length_take]
    exact Nat.min_le_left _ _
  exact Tame.ite (tame_usage input _)
    ⟨⟨fun _ => _, fun _ => Or.inr hchan, fun _ => rfl⟩, fun _ => .refl⟩

theorem tame_partAction (input arg : List UInt8) (s : State) :
    Tame input (partAction arg s) :=
  Tame.ite (tame_usage input _)
    ⟨⟨fun _ => [], fun _ => Or.inr ⟨List.nil_sublist _, Nat.zero_le _⟩,
      fun _ => rfl⟩, fun _ => .refl⟩

theorem tame_msgAction (input arg : List UInt8) :
    Tame input (msgAction arg) :=
  Tame.ite (tame_usage input _)
    (tame_send input _ (fun _ => .entry _ .refl) false)

theorem tame_meAction (input arg : List UInt8) (s : State) :
    Tame input (meAction arg s) :=
  Tame.ite (tame_usage input _)
    (tame_send input _ (fun _ => .entry _ .refl) false)

theorem tame_commandAction {input arg : List UInt8} (h : arg.Sublist input)
    (cmd : List UInt8) (s : State) :
    Tame input (commandAction cmd arg s) := by
  have hhelp : Tame input (.reply (fun s => help (clearInput s))) :=
    fun _ => .entry _ (.entry _ (.entry _ (.entry _ (.clear .refl))))
  have hunknown : Tame input (.reply (fun s =>
      logLine2 (ascii "*** no such command, try /help: /") cmd
        (clearInput s))) :=
    fun _ => .entry _ (.clear .refl)
  have husage := tame_usage input
  have hsilent := tame_silently input
  refine Tame.ite hhelp (Tame.ite (tame_joinAction h) ?_)
  refine Tame.ite (tame_partAction input arg s) ?_
  refine Tame.ite (Tame.ite (husage _) (hsilent _)) ?_
  refine Tame.ite (tame_msgAction input arg) ?_
  refine Tame.ite (tame_meAction input arg s) ?_
  refine Tame.ite (Tame.ite (husage _) (hsilent _)) ?_
  refine Tame.ite (Tame.ite (husage _) (hsilent _)) ?_
  refine Tame.ite (Tame.ite (husage _) (hsilent _)) ?_
  exact Tame.ite (tame_send input _ (fun _ => .refl) true) hunknown

/-- The command and the argument are parts of the typed line. -/
theorem argument_sublist (input : List UInt8) :
    ((nextWord (input.drop 1)).2.dropWhile (fun c => c == SPACE)).Sublist
      input :=
  (List.dropWhile_sublist _).trans
    ((nextWord_sublist _).right.trans (List.drop_sublist 1 input))

theorem inputAction_tame (s : State) :
    Tame s.screen.input (inputAction s) := by
  have hnone : Tame s.screen.input (.reply id) :=
    fun _ => .refl
  exact Tame.ite hnone
    (Tame.ite (tame_sayAction _ s)
      (tame_commandAction (argument_sublist _) _ s))

/-!
## What the reactions leave alone
-/

/-- What no log entry and no clearing touches. -/
structure Keeps (s s' : State) : Prop where
  rxline : s'.rxline = s.rxline
  out : s'.out = s.out
  mynick : s'.mynick = s.mynick
  curChan : s'.curChan = s.curChan
  pongArg : s'.pongArg = s.pongArg
  pongPending : s'.pongPending = s.pongPending
  handled : s'.handled = s.handled
  input : s'.screen.input = s.screen.input ∨ s'.screen.input = []

theorem clearInput_eq (s : State) :
    exists con : Console,
      clearInput s = { s with screen := { con := con, input := [] } } :=
  ⟨_, rfl⟩

theorem Keeps.clear {s s' : State} (h : Keeps s s') :
    Keeps s (clearInput s') := by
  rcases clearInput_eq s' with ⟨con, heq⟩
  rw [heq]
  exact ⟨h.rxline, h.out, h.mynick, h.curChan, h.pongArg, h.pongPending,
    h.handled, Or.inr rfl⟩

theorem Displays.keeps {s s' : State} (h : Displays s s') : Keeps s s' := by
  induction h with
  | refl => exact ⟨rfl, rfl, rfl, rfl, rfl, rfl, rfl, Or.inl rfl⟩
  | @entry s' pieces _ ih =>
      have hshows := logEntry_onlyShows pieces s'
      exact
        { rxline := hshows.rxline.trans ih.rxline
          out := hshows.out.trans ih.out
          mynick := hshows.mynick.trans ih.mynick
          curChan := hshows.curChan.trans ih.curChan
          pongArg := hshows.pongArg.trans ih.pongArg
          pongPending := hshows.pongPending.trans ih.pongPending
          handled := hshows.handled.trans ih.handled
          input := by
            rw [hshows.input]
            exact ih.input }
  | clear _ ih => exact ih.clear

/-- `o_str` fills `out[]` and touches nothing else. -/
theorem oStrs_eq (pieces : List (List UInt8)) :
    forall s : State, exists out : List UInt8,
      pieces.foldl oStr s = { s with out := out } := by
  induction pieces with
  | nil => exact fun s => ⟨s.out, rfl⟩
  | cons piece rest ih =>
      intro s
      rcases ih (oStr s piece) with ⟨out, heq⟩
      exact ⟨out, heq⟩

/-- A command that fits goes into `out[]` whole. -/
theorem oStrs_fit (pieces : List (List UInt8)) :
    forall s : State, s.out.length + pieces.flatten.length ≤ OUT_LINE - 2 ->
      pieces.foldl oStr s = { s with out := s.out ++ pieces.flatten } := by
  induction pieces with
  | nil =>
      intro s _
      rw [List.flatten_nil, List.append_nil]
      rfl
  | cons piece rest ih =>
      intro s hfit
      rw [List.flatten_cons, List.length_append] at hfit
      have hone : oStr s piece = { s with out := s.out ++ piece } := by
        rw [oStr, List.take_of_length_le (by omega)]
      rw [List.foldl_cons, hone, ih _ (by simp only [List.length_append]; omega),
        List.flatten_cons, List.append_assoc]

/-- The variables behind the resets in front of the loop. -/
def cleared (s : State) : State :=
  { s with
    screen := { con := s.screen.con.putchar 12, input := [] }
    rxline := []
    out := []
    pongPending := false
    joinPending := false }

theorem resetState_onlyShows (s : State) :
    OnlyShows (cleared s) (resetState s) :=
  logEntry_onlyShows
    [ascii "*** connected. /help for commands, CAPS+SYM+C quits."] (cleared s)

/-- Editing touches the screen and the typed line only. -/
theorem editKey_eq (k : UInt16) (s : State) :
    exists screen : Screen, editKey k s = { s with screen := screen } := by
  unfold editKey
  split_ifs
  · exact ⟨_, rfl⟩
  · exact ⟨s.screen, rfl⟩
  · exact ⟨_, rfl⟩
  · exact ⟨s.screen, rfl⟩

end Irc
end Z80Tcpip
