import Z80Tcpip.Irc.LineAssembly

/-!
# The own nick

The client learns of a nick change from the NICK lines of the server.  It
compares the old nick with its own and copies the new one, of which `mynick` has
room for 16 bytes.
-/

namespace Z80Tcpip
namespace Irc

open Foundation
open Client

/-!
## Lines about nicks
-/

/-- `:old!user@host NICK new`, or with a colon in front of the new nick. -/
structure NickChange where
  old : List UInt8
  userHost : List UInt8
  new : List UInt8
  colon : Bool

/-- A byte that can stand in a word of a line. -/
def WordByte (b : UInt8) : Prop :=
  b ≠ 0 ∧ b ≠ 10 ∧ b ≠ 13 ∧ b ≠ SPACE

instance (b : UInt8) : Decidable (WordByte b) :=
  inferInstanceAs (Decidable (_ ∧ _ ∧ _ ∧ _))

def NickChange.front (c : NickChange) : List UInt8 :=
  c.old ++ 0x21 :: c.userHost

def NickChange.param (c : NickChange) : List UInt8 :=
  if c.colon = true then COLON :: c.new else c.new

def NickChange.text (c : NickChange) : List UInt8 :=
  COLON :: (c.front ++ SPACE :: (ascii "NICK" ++ SPACE :: c.param))

structure NickChange.WellFormed (c : NickChange) : Prop where
  old_word : forall b, b ∈ c.old -> WordByte b ∧ b ≠ 0x21 ∧ b ≠ 0x40
  userHost_word : forall b, b ∈ c.userHost -> WordByte b
  new_word : forall b, b ∈ c.new -> WordByte b
  new_ne_nil : c.new ≠ []
  new_head : c.new.head? ≠ some COLON
  fits : c.text.length ≤ RX_LINE - 1

/-- A line of the server: a nick change, or something else. -/
inductive ServerLine where
  | nick (change : NickChange)
  | other (text : List UInt8)

def ServerLine.text : ServerLine -> List UInt8
  | .nick change => change.text
  | .other text => text

/-- Other lines may be anything with another command. -/
def ServerLine.WellFormed : ServerLine -> Prop
  | .nick change => change.WellFormed
  | .other text =>
      (10 : UInt8) ∉ text ∧
        (splitLine (cString (kept text))).2.1 ≠ ascii "NICK"

/-- The lines as the server sends them. -/
def wire (lines : List ServerLine) : List UInt8 :=
  lines.flatMap (fun line => line.text ++ CRLF)

/-- Our nick after a line: a change counts if its old nick is ours. -/
def nickAfter (me : List UInt8) : ServerLine -> List UInt8
  | .nick change => if same change.old me then change.new else me
  | .other _ => me

/-- The same, with the room that `mynick` has. -/
def keptNickAfter (me : List UInt8) : ServerLine -> List UInt8
  | .nick change =>
      if same change.old me then change.new.take MAX_NICK else me
  | .other _ => me

/-- Every change of our own brings a nick that fits. -/
def OwnNicksFit (me : List UInt8) (lines : List ServerLine) : Prop :=
  forall (before : List ServerLine) (change : NickChange)
    (after : List ServerLine), lines = before ++ .nick change :: after ->
      same change.old (before.foldl nickAfter me) ->
        change.new.length ≤ MAX_NICK

/-!
## One line
-/

theorem logEntry_mynick (pieces : List (List UInt8)) (s : State) :
    (logEntry pieces s).mynick = s.mynick :=
  (logEntry_onlyShows pieces s).mynick

theorem mynick_ite {nick : List UInt8} {s1 s2 : State} {c : Prop}
    [Decidable c] (h1 : s1.mynick = nick) (h2 : s2.mynick = nick) :
    (if c then s1 else s2).mynick = nick := by
  split
  · exact h1
  · exact h2

theorem showMessage_mynick (cmd nick p : List UInt8) (s : State) :
    (showMessage cmd nick p s).mynick = s.mynick := by
  unfold showMessage
  simp only
  split
  case isTrue =>
    exact logEntry_mynick _ s
  case isFalse =>
    split
    case isTrue =>
      exact logEntry_mynick _ s
    case isFalse =>
      split
      · exact logEntry_mynick _ s
      · exact logEntry_mynick _ s

theorem showNumeric_mynick (cmd p : List UInt8) (s : State) :
    (showNumeric cmd p s).mynick = s.mynick := by
  have hentry := logEntry_mynick
    (paramPieces (nextParam p).2.length (nextParam p).2) s
  exact mynick_ite ((logEntry_mynick _ _).trans hentry) hentry

/-- What a line does to `mynick`, by its command and the prefix. -/
theorem handleServerLine_mynick (line : List UInt8) (s : State) :
    (handleServerLine line s).mynick =
      if (splitLine line).2.1 = ascii "NICK" ∧
          same (nickOf (splitLine line).1) s.mynick then
        strCopy (nextParam (splitLine line).2.2).1 (MAX_NICK + 1)
      else s.mynick := by
  unfold handleServerLine
  rcases splitLine line with ⟨front, cmd, p⟩
  simp only
  by_cases hnick : cmd = ascii "NICK"
  · rw [hnick, if_neg (by decide), if_neg (by decide), if_neg (by decide),
      if_neg (by decide), if_neg (by decide), if_neg (by decide), if_pos rfl,
      logLine4, logEntry_mynick]
    by_cases hown : same (nickOf front) s.mynick
    · rw [if_pos hown, if_pos ⟨rfl, hown⟩]
    · rw [if_neg hown, if_neg (fun h => hown h.2)]
  · have hother : ¬ (cmd = ascii "NICK" ∧ same (nickOf front) s.mynick) :=
      fun h => hnick h.1
    rw [if_neg hother]
    have hlog : forall pieces, (logEntry pieces s).mynick = s.mynick :=
      fun pieces => logEntry_mynick pieces s
    refine mynick_ite rfl (mynick_ite rfl ?_)
    refine mynick_ite (showMessage_mynick cmd _ p s) ?_
    refine mynick_ite (hlog _) (mynick_ite (hlog _) (mynick_ite (hlog _) ?_))
    rw [if_neg hnick]
    refine mynick_ite (hlog _) (mynick_ite (hlog _) (mynick_ite (hlog _) ?_))
    refine mynick_ite (hlog _) (mynick_ite ?_ (hlog _))
    rw [showNumeric_mynick]
    exact mynick_ite rfl rfl

/-!
## A line as it is read
-/

theorem NickChange.param_no_nul {c : NickChange} (h : c.WellFormed) :
    forall b, b ∈ c.param -> b ≠ 0 ∧ b ≠ 10 ∧ b ≠ 13 := by
  intro b hb
  rw [NickChange.param] at hb
  split at hb
  · cases List.mem_cons.mp hb with
    | inl heq =>
        rw [heq]
        decide
    | inr hmem =>
        rcases h.new_word b hmem with ⟨hnul, hlf, hcr, _⟩
        exact ⟨hnul, hlf, hcr⟩
  · rcases h.new_word b hb with ⟨hnul, hlf, hcr, _⟩
    exact ⟨hnul, hlf, hcr⟩

theorem NickChange.front_word {c : NickChange} (h : c.WellFormed) :
    forall b, b ∈ c.front -> WordByte b := by
  intro b hb
  cases List.mem_append.mp hb with
  | inl hold =>
      exact (h.old_word b hold).1
  | inr hrest =>
      cases List.mem_cons.mp hrest with
      | inl heq =>
          rw [heq]
          decide
      | inr hmem =>
          exact h.userHost_word b hmem

theorem NickChange.text_clean {c : NickChange} (h : c.WellFormed) :
    forall b, b ∈ c.text -> b ≠ 0 ∧ b ≠ 10 ∧ b ≠ 13 := by
  intro b hb
  have hcommand : forall b, b ∈ SPACE :: ascii "NICK" ++ [SPACE, COLON] ->
      b ≠ 0 ∧ b ≠ 10 ∧ b ≠ 13 := by
    decide
  have htext : c.text = COLON :: c.front ++
      (SPACE :: ascii "NICK" ++ [SPACE]) ++ c.param := by
    rw [NickChange.text, List.append_assoc, List.append_assoc]
    rfl
  rw [htext, List.mem_append, List.mem_append] at hb
  rcases hb with (hfront | hcmd) | hparam
  · cases List.mem_cons.mp hfront with
    | inl heq =>
        rw [heq]
        decide
    | inr hmem =>
        rcases NickChange.front_word h b hmem with ⟨hnul, hlf, hcr, _⟩
        exact ⟨hnul, hlf, hcr⟩
  · apply hcommand
    rw [List.mem_append] at hcmd ⊢
    cases hcmd with
    | inl hmem => exact Or.inl hmem
    | inr hmem =>
        rw [List.mem_singleton.mp hmem]
        exact Or.inr List.mem_cons_self
  · exact NickChange.param_no_nul h b hparam

theorem NickChange.splitLine {c : NickChange} (h : c.WellFormed) :
    Irc.splitLine c.text = (some c.front, ascii "NICK", c.param) := by
  have hword : SPACE ∉ c.front := fun hmem =>
    (NickChange.front_word h SPACE hmem).2.2.2 rfl
  have hne : c.front ≠ [] := List.append_ne_nil_of_right_ne_nil _
    (List.cons_ne_nil _ _)
  exact splitLine_relayed hword hne (by decide) (by decide) c.param

theorem NickChange.nickOf {c : NickChange} (h : c.WellFormed) :
    Irc.nickOf (some c.front) = c.old := by
  have hold : forall b, b ∈ c.old -> (b != 0x21 && b != 0x40) = true := by
    intro b hb
    rcases h.old_word b hb with ⟨_, hbang, hat⟩
    rw [Bool.and_eq_true, bne_iff_ne, bne_iff_ne]
    exact ⟨hbang, hat⟩
  rw [Irc.nickOf, NickChange.front, List.takeWhile_append_of_pos hold,
    List.takeWhile_cons_of_neg (by decide), List.append_nil]

theorem NickChange.nextParam {c : NickChange} (h : c.WellFormed) :
    (Irc.nextParam c.param).1 = c.new := by
  rw [NickChange.param]
  split
  · rw [nextParam_trailing]
  · have hword : SPACE ∉ c.new := fun hmem =>
      (h.new_word SPACE hmem).2.2.2 rfl
    cases hnew : c.new with
    | nil => exact absurd hnew h.new_ne_nil
    | cons b more =>
        have hcolon : b ≠ COLON := by
          intro heq
          apply h.new_head
          rw [hnew, heq, List.head?_cons]
        rw [hnew] at hword
        rw [Irc.nextParam, dropWhile_space (head?_no_space hword)]
        simp only [if_neg hcolon]
        rw [nextWord_last hword]

theorem handleServerLine_rxline (line : List UInt8) (s : State) :
    (handleServerLine line s).rxline = s.rxline := by
  rcases handleServerLine_cases line s with
    ⟨arg, _, heq⟩ | ⟨_, noted, entries, hnoted, heq⟩
  · rw [heq]
  · rw [heq, (logEntries_onlyShows entries noted).rxline]
    cases hnoted <;> rfl

/-- A line and its CRLF, at the beginning of a line. -/
theorem showData_mynick {line : ServerLine} (h : line.WellFormed) {s : State}
    (hs : s.rxline = []) :
    (showData (line.text ++ CRLF) s).mynick =
        keptNickAfter s.mynick line ∧
      (showData (line.text ++ CRLF) s).rxline = [] := by
  have hlf : (10 : UInt8) ∉ line.text ++ [13] := by
    intro hmem
    cases List.mem_append.mp hmem with
    | inr hcr =>
        exact absurd hcr (by decide)
    | inl htext =>
        cases line with
        | nick c => exact (NickChange.text_clean h 10 htext).2.1 rfl
        | other text => exact h.1 htext
  have hread := showData_text hlf hs
  rw [List.append_assoc, kept_cr] at hread
  rw [CRLF, <- List.singleton_append, hread, handleServerLine_rxline,
    handleServerLine_mynick]
  refine ⟨?_, rfl⟩
  cases line with
  | nick c =>
      have hcr : (13 : UInt8) ∉ c.text := fun hmem =>
        (NickChange.text_clean h 13 hmem).2.2 rfl
      have hnul : (0 : UInt8) ∉ c.text := fun hmem =>
        (NickChange.text_clean h 0 hmem).1 rfl
      have hline : cString (kept (ServerLine.nick c).text) = c.text := by
        rw [ServerLine.text, kept_of_fits hcr h.fits, cString_of_no_nul hnul]
      rw [hline, NickChange.splitLine h, keptNickAfter]
      simp only
      rw [NickChange.nickOf h, NickChange.nextParam h]
      by_cases hown : same c.old s.mynick
      · rw [if_pos hown, if_pos]
        · rfl
        · exact ⟨trivial, hown⟩
      · rw [if_neg hown, if_neg]
        · rfl
        · exact fun hboth => hown hboth.2
  | other text =>
      exact if_neg (fun hboth => h.2 hboth.1)

/-!
## Runs of lines
-/

/-- After a run of lines `mynick` is what is kept of the changes. -/
theorem showData_wire (lines : List ServerLine) :
    forall {s : State}, s.rxline = [] ->
      (forall line, line ∈ lines -> line.WellFormed) ->
        (showData (wire lines) s).mynick =
          lines.foldl keptNickAfter s.mynick := by
  induction lines with
  | nil =>
      intro s _ _
      rfl
  | cons line lines ih =>
      intro s hs hwf
      rcases showData_mynick (hwf line List.mem_cons_self) hs with
        ⟨hnick, hrx⟩
      have hrest := ih hrx
        (fun l hl => hwf l (List.mem_cons_of_mem line hl))
      rw [wire, List.flatMap_cons, showData_append, <- wire, hrest, hnick,
        List.foldl_cons]

theorem keptNickAfter_eq {me : List UInt8} {line : ServerLine}
    (h : forall change : NickChange, line = .nick change ->
      same change.old me -> change.new.length ≤ MAX_NICK) :
    keptNickAfter me line = nickAfter me line := by
  cases line with
  | other text => rfl
  | nick c =>
      rw [keptNickAfter, nickAfter]
      by_cases hown : same c.old me
      · rw [if_pos hown, if_pos hown, List.take_of_length_le (h c rfl hown)]
      · rw [if_neg hown, if_neg hown]

theorem OwnNicksFit.foldl {me : List UInt8} {lines : List ServerLine}
    (h : OwnNicksFit me lines) :
    lines.foldl keptNickAfter me = lines.foldl nickAfter me := by
  induction lines using List.reverseRecOn with
  | nil => rfl
  | append_singleton lines line ih =>
      have hfront : OwnNicksFit me lines := by
        intro before c after hlines
        apply h before c (after ++ [line])
        rw [hlines, List.append_assoc, List.cons_append]
      rw [List.foldl_append, List.foldl_append, ih hfront]
      apply keptNickAfter_eq
      intro c hline
      apply h lines c []
      rw [hline]

theorem OwnNicksFit.take {me : List UInt8} {lines : List ServerLine}
    (h : OwnNicksFit me lines) (n : Nat) : OwnNicksFit me (lines.take n) := by
  intro before c after hlines
  apply h before c (after ++ lines.drop n)
  rw [<- List.cons_append, <- List.append_assoc, <- hlines,
    List.take_append_drop]

/-- The first own nick that does not fit is not the one kept. -/
theorem ownNicksFit_of_foldl {me : List UInt8} {lines : List ServerLine}
    (h : forall n : Nat, (lines.take n).foldl keptNickAfter me =
      (lines.take n).foldl nickAfter me) : OwnNicksFit me lines := by
  intro before c after hlines hown
  have hbefore := h before.length
  have hafter := h (before.length + 1)
  have htake : lines.take (before.length + 1) = before ++ [.nick c] := by
    rw [hlines, List.take_length_add_append]
    rfl
  rw [htake, List.foldl_append, List.foldl_append] at hafter
  rw [hlines, List.take_left] at hbefore
  rw [hbefore] at hafter
  have hkept : c.new.take MAX_NICK = c.new := by
    have hsame : keptNickAfter (before.foldl nickAfter me) (.nick c) =
        nickAfter (before.foldl nickAfter me) (.nick c) := hafter
    rwa [keptNickAfter, nickAfter, if_pos hown, if_pos hown] at hsame
  have hlength := congrArg List.length hkept
  rw [List.length_take] at hlength
  omega

/-!
## The theorem
-/

/-- `mynick` follows the changes of the own nick, each new nick cut to
`MAX_NICK` bytes; it is the nick itself after every line exactly when all the
own nicks fit. -/
theorem mynick_follows (lines : List ServerLine) (s : State)
    (hs : s.rxline = [])
    (hwf : forall line, line ∈ lines -> line.WellFormed) :
    (forall n : Nat, (showData (wire (lines.take n)) s).mynick =
        (lines.take n).foldl keptNickAfter s.mynick) ∧
      ((forall n : Nat, (showData (wire (lines.take n)) s).mynick =
          (lines.take n).foldl nickAfter s.mynick) <->
        OwnNicksFit s.mynick lines) := by
  have hkept : forall n : Nat, (showData (wire (lines.take n)) s).mynick =
      (lines.take n).foldl keptNickAfter s.mynick := by
    intro n
    apply showData_wire (lines.take n) hs
    intro line hline
    exact hwf line (List.mem_of_mem_take hline)
  refine ⟨hkept, ?_, ?_⟩
  · intro h
    apply ownNicksFit_of_foldl
    intro n
    rw [<- hkept, h]
  · intro h n
    rw [hkept, (h.take n).foldl]

/-- The client with the nick `a`, between two lines. -/
def namedA : State :=
  { State.prompted Console.blank [0x61, KEY_ENTER] [KEY_ENTER] with
    mynick := ascii "a" }

def nickLine (old new : List UInt8) : ServerLine :=
  .nick { old := old, userHost := ascii "u@h", new := new, colon := true }

theorem nickLine_wellFormed {old new : List UInt8}
    (hold : forall b, b ∈ old -> WordByte b ∧ b ≠ 0x21 ∧ b ≠ 0x40)
    (hnew : forall b, b ∈ new -> WordByte b) (hne : new ≠ [])
    (hhead : new.head? ≠ some COLON)
    (hfits : old.length + new.length ≤ 300) :
    (nickLine old new).WellFormed where
  old_word := hold
  userHost_word := by
    show forall b, b ∈ ascii "u@h" -> WordByte b
    decide
  new_word := hnew
  new_ne_nil := hne
  new_head := hhead
  fits := by
    have hshort : (ascii "u@h").length = 3 ∧ (ascii "NICK").length = 4 := by
      decide
    show (COLON :: ((old ++ 0x21 :: ascii "u@h") ++
      SPACE :: (ascii "NICK" ++ SPACE :: COLON :: new))).length ≤ 320 - 1
    simp only [List.length_cons, List.length_append, hshort.1, hshort.2]
    omega

/-- A nick of 17 bytes is cut, and the change back to `a` goes unnoticed. -/
theorem not_mynick_follows_long :
    (showData (wire [nickLine (ascii "a") (ascii "abcdefghijklmnopq"),
        nickLine (ascii "abcdefghijklmnopq") (ascii "a")]) namedA).mynick =
          ascii "abcdefghijklmnop" ∧
      [nickLine (ascii "a") (ascii "abcdefghijklmnopq"),
        nickLine (ascii "abcdefghijklmnopq") (ascii "a")].foldl nickAfter
          namedA.mynick = ascii "a" ∧
      forall line, line ∈ [nickLine (ascii "a") (ascii "abcdefghijklmnopq"),
        nickLine (ascii "abcdefghijklmnopq") (ascii "a")] ->
          line.WellFormed := by
  have hwf : forall line,
      line ∈ [nickLine (ascii "a") (ascii "abcdefghijklmnopq"),
        nickLine (ascii "abcdefghijklmnopq") (ascii "a")] ->
          line.WellFormed := by
    intro line hline
    cases List.mem_cons.mp hline with
    | inl heq =>
        rw [heq]
        exact nickLine_wellFormed (by decide) (by decide) (by decide)
          (by decide) (by decide)
    | inr hmem =>
        rw [List.mem_singleton.mp hmem]
        exact nickLine_wellFormed (by decide) (by decide) (by decide)
          (by decide) (by decide)
  refine ⟨?_, by decide, hwf⟩
  rw [showData_wire _ rfl hwf]
  decide

/-- Our change to `bcd`, one of another user, and ours to a nick of 16 bytes. -/
def shortChanges : List ServerLine :=
  [nickLine (ascii "a") (ascii "bcd"), nickLine (ascii "x") (ascii "y"),
    nickLine (ascii "bcd") (ascii "efghijklmnopqrst")]

theorem shortChanges_wellFormed {line : ServerLine}
    (h : line ∈ shortChanges) : line.WellFormed := by
  rcases List.mem_cons.mp h with heq | hmore
  · rw [heq]
    exact nickLine_wellFormed (by decide) (by decide) (by decide) (by decide)
      (by decide)
  · rcases List.mem_cons.mp hmore with heq | hlast
    · rw [heq]
      exact nickLine_wellFormed (by decide) (by decide) (by decide)
        (by decide) (by decide)
    · rw [List.mem_singleton.mp hlast]
      exact nickLine_wellFormed (by decide) (by decide) (by decide)
        (by decide) (by decide)

theorem shortChanges_fit : OwnNicksFit namedA.mynick shortChanges := by
  apply ownNicksFit_of_foldl
  intro n
  match n with
  | 0 | 1 | 2 => decide
  | n + 3 =>
      rw [List.take_of_length_le (Nat.le_add_left 3 n)]
      decide

theorem mynick_follows_three_changes :
    (showData (wire (shortChanges.take 2)) namedA).mynick = ascii "bcd" ∧
      (showData (wire (shortChanges.take 3)) namedA).mynick =
        ascii "efghijklmnopqrst" := by
  have hall := (mynick_follows shortChanges namedA rfl
    (fun line h => shortChanges_wellFormed h)).right.mpr shortChanges_fit
  constructor
  · rw [hall 2]
    decide
  · rw [hall 3]
    decide

end Irc
end Z80Tcpip
