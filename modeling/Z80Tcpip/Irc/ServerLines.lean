import Z80Tcpip.Irc.Invariants

/-!
# What a server line can do

A line from the server makes the client park a PONG, or it may change the nick
or ask for the JOIN, and is then shown.  Showing touches the console only.
-/

namespace Z80Tcpip
namespace Irc

open Foundation
open Client

/-!
## Showing
-/

/-- The two states differ in the console and the log at most. -/
structure OnlyShows (s s' : State) : Prop where
  input : s'.screen.input = s.screen.input
  rxline : s'.rxline = s.rxline
  out : s'.out = s.out
  mynick : s'.mynick = s.mynick
  curChan : s'.curChan = s.curChan
  pongArg : s'.pongArg = s.pongArg
  pongPending : s'.pongPending = s.pongPending
  joinPending : s'.joinPending = s.joinPending
  handled : s'.handled = s.handled

theorem OnlyShows.refl (s : State) : OnlyShows s s :=
  ⟨rfl, rfl, rfl, rfl, rfl, rfl, rfl, rfl, rfl⟩

theorem OnlyShows.trans {s s' s'' : State} (h : OnlyShows s s')
    (h' : OnlyShows s' s'') : OnlyShows s s'' where
  input := h'.input.trans h.input
  rxline := h'.rxline.trans h.rxline
  out := h'.out.trans h.out
  mynick := h'.mynick.trans h.mynick
  curChan := h'.curChan.trans h.curChan
  pongArg := h'.pongArg.trans h.pongArg
  pongPending := h'.pongPending.trans h.pongPending
  joinPending := h'.joinPending.trans h.joinPending
  handled := h'.handled.trans h.handled

theorem onlyShows_con (s : State) (con : Console) (n : Int16) :
    OnlyShows s
      { s with screen := { s.screen with con := con }, emitN := n } :=
  ⟨rfl, rfl, rfl, rfl, rfl, rfl, rfl, rfl, rfl⟩

theorem emitPut_onlyShows (c : UInt8) (s : State) :
    OnlyShows s (emitPut c s) :=
  onlyShows_con s _ _

theorem emit_onlyShows (text : List UInt8) :
    forall s : State, OnlyShows s (emit text s) := by
  induction text with
  | nil => exact OnlyShows.refl
  | cons c rest ih =>
      intro s
      have hchar : OnlyShows s (emitChar s c) := by
        unfold emitChar
        generalize (if c = 9 then 0x20 else c) = c'
        simp only
        split
        · exact OnlyShows.refl s
        · exact emitPut_onlyShows c' s
      exact hchar.trans (ih _)

theorem emitPad_onlyShows (turns : Nat) :
    forall s : State, OnlyShows s (emitPad turns s) := by
  induction turns with
  | zero => exact OnlyShows.refl
  | succ turns ih =>
      intro s
      rw [emitPad]
      split_ifs
      · exact (emitPut_onlyShows 0x20 s).trans (ih _)
      · exact OnlyShows.refl s

theorem drawInput_onlyShows (s : State) : OnlyShows s (drawInput s) :=
  onlyShows_con s _ s.emitN

theorem emitEnd_onlyShows (s : State) : OnlyShows s (emitEnd s) := by
  have hpad := emitPad_onlyShows 128 s
  unfold emitEnd
  generalize emitPad 128 s = s' at hpad
  exact hpad.trans
    ((onlyShows_con s' _ s'.emitN).trans (drawInput_onlyShows _))

theorem emitAll_onlyShows (pieces : List (List UInt8)) :
    forall s : State,
      OnlyShows s (pieces.foldl (fun s piece => emit piece s) s) := by
  induction pieces with
  | nil => exact OnlyShows.refl
  | cons piece rest ih =>
      intro s
      exact (emit_onlyShows piece s).trans (ih _)

theorem logEntry_onlyShows (pieces : List (List UInt8)) (s : State) :
    OnlyShows s (logEntry pieces s) := by
  have hstart : OnlyShows s (emitStart s) := onlyShows_con s _ 0
  have hemit := emitAll_onlyShows pieces (emitStart s)
  have hend := emitEnd_onlyShows
    (pieces.foldl (fun s piece => emit piece s) (emitStart s))
  have hshown := hstart.trans (hemit.trans hend)
  unfold logEntry
  generalize emitEnd (pieces.foldl (fun s piece => emit piece s)
    (emitStart s)) = s' at hshown
  exact hshown.trans ⟨rfl, rfl, rfl, rfl, rfl, rfl, rfl, rfl, rfl⟩

/-- Several entries, one after another. -/
def logEntries (entries : List (List (List UInt8))) (s : State) : State :=
  entries.foldl (fun s pieces => logEntry pieces s) s

theorem logEntries_cons (pieces : List (List UInt8))
    (rest : List (List (List UInt8))) (s : State) :
    logEntries (pieces :: rest) s = logEntries rest (logEntry pieces s) := by
  rw [logEntries, List.foldl_cons, logEntries]

theorem logEntries_onlyShows (entries : List (List (List UInt8))) :
    forall s : State, OnlyShows s (logEntries entries s) := by
  induction entries with
  | nil => exact OnlyShows.refl
  | cons pieces rest ih =>
      intro s
      rw [logEntries_cons]
      exact (logEntry_onlyShows pieces s).trans (ih (logEntry pieces s))

/-!
## Lines
-/

/-- The first parameter of a PING. -/
def pingArg (line : List UInt8) : Option (List UInt8) :=
  let (_, cmd, p) := splitLine line
  if cmd = ascii "PING" then some (nextParam p).1 else none

theorem splitLine_sublist (line : List UInt8) :
    (splitLine line).2.2.Sublist line := by
  unfold splitLine
  split
  · have hfront := (nextWord_sublist (line.drop 1)).right
    exact ((nextWord_sublist _).right.trans hfront).trans
      (List.drop_sublist 1 line)
  · exact (nextWord_sublist line).right

/-- What happens before a line is shown. -/
inductive Noted (line : List UInt8) (s : State) : State -> Prop
  | nothing : Noted line s s
  | nick {text : List UInt8} (htext : text.Sublist line) :
      Noted line s { s with mynick := strCopy text (MAX_NICK + 1) }
  | welcome (hchan : s.curChan ≠ []) :
      Noted line s { s with joinPending := true }

/-- The state after something has been noted and entries have been logged. -/
def Shown (line : List UInt8) (s s' : State) : Prop :=
  exists (noted : State) (entries : List (List (List UInt8))),
    Noted line s noted ∧ s' = logEntries entries noted

theorem shown_entry (line : List UInt8) (s : State)
    (pieces : List (List UInt8)) : Shown line s (logEntry pieces s) :=
  ⟨s, [pieces], .nothing, rfl⟩

theorem Shown.ite {line : List UInt8} {s s1 s2 : State} {c : Prop}
    [Decidable c] (h1 : Shown line s s1) (h2 : Shown line s s2) :
    Shown line s (if c then s1 else s2) := by
  split
  · exact h1
  · exact h2

theorem showMessage_shown (line cmd nick p : List UInt8) (s : State) :
    Shown line s (showMessage cmd nick p s) := by
  unfold showMessage
  simp only
  split
  · exact shown_entry line s _
  · split
    · exact shown_entry line s _
    · split
      · exact shown_entry line s _
      · exact shown_entry line s _

/-- A numeric reply is one entry, with a hint behind the reply 433. -/
theorem showNumeric_shown {line : List UInt8} {s noted : State}
    (h : Noted line s noted) (cmd p : List UInt8) :
    Shown line s (showNumeric cmd p noted) := by
  unfold showNumeric logLine
  generalize ascii "*** nick already in use, pick another with /nick" = hint
  exact Shown.ite
    ⟨noted, [paramPieces (nextParam p).2.length (nextParam p).2, [hint]], h,
      rfl⟩
    ⟨noted, [paramPieces (nextParam p).2.length (nextParam p).2], h, rfl⟩

theorem noted_welcome {line : List UInt8} {s : State} (cmd : List UInt8) :
    Noted line s
      (if cmd = ascii "001" ∧ s.curChan ≠ [] then
        { s with joinPending := true }
      else s) := by
  by_cases h : cmd = ascii "001" ∧ s.curChan ≠ []
  · rw [if_pos h]
    exact .welcome h.right
  · rw [if_neg h]
    exact .nothing

theorem noted_nick {line text : List UInt8} {s : State} {c : Prop}
    [Decidable c] (htext : text.Sublist line) :
    Noted line s
      (if c then { s with mynick := strCopy text (MAX_NICK + 1) } else s) := by
  split
  · exact .nick htext
  · exact .nothing

/-- A line is a PING, or it is shown. -/
theorem handleServerLine_cases (line : List UInt8) (s : State) :
    (exists arg : List UInt8, pingArg line = some arg ∧
      handleServerLine line s =
        { s with pongArg := strCopy arg PONG_ARG, pongPending := true }) ∨
      pingArg line = none ∧ Shown line s (handleServerLine line s) := by
  have hsub := splitLine_sublist line
  unfold pingArg handleServerLine
  rcases hsplit : splitLine line with ⟨front, cmd, p⟩
  rw [hsplit] at hsub
  simp only
  have hempty : ([] : List UInt8) ≠ ascii "PING" := by
    decide
  by_cases hping : cmd = ascii "PING"
  · refine Or.inl ⟨_, if_pos hping, ?_⟩
    rw [if_neg (fun h => hempty (h.symm.trans hping)), if_pos hping]
  · refine Or.inr ⟨if_neg hping, ?_⟩
    rw [if_neg hping]
    have hlog := shown_entry line s
    have htext := (nextParam_sublist p).left.trans hsub
    refine Shown.ite ⟨s, [], .nothing, rfl⟩ ?_
    refine Shown.ite (showMessage_shown line cmd _ p s) ?_
    refine Shown.ite (hlog _) (Shown.ite (hlog _) (Shown.ite (hlog _) ?_))
    refine Shown.ite ⟨_, [_], noted_nick htext, rfl⟩ ?_
    refine Shown.ite (hlog _) (Shown.ite (hlog _) (Shown.ite (hlog _) ?_))
    refine Shown.ite (hlog _) (Shown.ite ?_ (hlog _))
    exact showNumeric_shown (noted_welcome cmd) cmd p

/-!
## Received data
-/

/-- The state when a line has been read off the input. -/
def readOff (line : List UInt8) (s : State) : State :=
  { s with
    rxline := []
    handled := s.handled ++ [{ line, pongPending := s.pongPending }] }

/-- What no received data touches: the command being built, the channel and the
line being typed. -/
structure Undisturbed (s s' : State) : Prop where
  out : s'.out = s.out
  curChan : s'.curChan = s.curChan
  input : s'.screen.input = s.screen.input

theorem Undisturbed.refl (s : State) : Undisturbed s s :=
  ⟨rfl, rfl, rfl⟩

theorem Undisturbed.trans {s s' s'' : State} (h : Undisturbed s s')
    (h' : Undisturbed s' s'') : Undisturbed s s'' :=
  ⟨h'.out.trans h.out, h'.curChan.trans h.curChan, h'.input.trans h.input⟩

theorem OnlyShows.undisturbed {s s' : State} (h : OnlyShows s s') :
    Undisturbed s s' :=
  ⟨h.out, h.curChan, h.input⟩

theorem handleServerLine_undisturbed (line : List UInt8) (s : State) :
    Undisturbed s (handleServerLine line s) := by
  rcases handleServerLine_cases line s with
    ⟨arg, _, heq⟩ | ⟨_, noted, entries, hnoted, heq⟩
  · rw [heq]
    exact ⟨rfl, rfl, rfl⟩
  · have hnoted' : Undisturbed s noted := by
      cases hnoted <;> exact ⟨rfl, rfl, rfl⟩
    rw [heq]
    exact hnoted'.trans (logEntries_onlyShows entries noted).undisturbed

theorem rxChar_undisturbed (s : State) (c : UInt8) :
    Undisturbed s (rxChar s c) := by
  unfold rxChar
  split
  · exact Undisturbed.refl s
  · split
    · have hread : Undisturbed s (readOff (cString s.rxline) s) :=
        ⟨rfl, rfl, rfl⟩
      have hline := handleServerLine_undisturbed (cString s.rxline)
        (readOff (cString s.rxline) s)
      exact hread.trans hline
    · split
      · exact ⟨rfl, rfl, rfl⟩
      · exact Undisturbed.refl s

theorem showData_undisturbed (data : List UInt8) :
    forall s : State, Undisturbed s (showData data s) := by
  induction data with
  | nil => exact Undisturbed.refl
  | cons c rest ih =>
      intro s
      exact (rxChar_undisturbed s c).trans (ih (rxChar s c))

end Irc
end Z80Tcpip
