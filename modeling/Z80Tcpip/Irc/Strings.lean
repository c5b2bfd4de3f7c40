import Mathlib.Data.List.TakeWhile
import Z80Tcpip.Client.Screen

/-!
# String helpers of irc.c

A C string is the list of its bytes in front of the NUL.  Words are cut in
place, so a helper returns the word and what is left of the line.
-/

namespace Z80Tcpip
namespace Irc

open Client

def SPACE : UInt8 := 0x20
def COLON : UInt8 := 0x3a

/-- The part of a buffer in front of its first NUL. -/
def cString (bytes : List UInt8) : List UInt8 :=
  bytes.takeWhile (fun c => c != 0)

def strCopy (src : List UInt8) (max : Nat) : List UInt8 :=
  src.take (max - 1)

/-- `if (ca >= 'A' && ca <= 'Z') ca += 32;` -/
def lower (c : UInt8) : UInt8 :=
  if 0x41 ≤ c ∧ c ≤ 0x5a then c + 32 else c

def same (a b : List UInt8) : Prop :=
  a.map lower = b.map lower

instance (a b : List UInt8) : Decidable (same a b) :=
  inferInstanceAs (Decidable (_ = _))

def nextWord (p : List UInt8) : List UInt8 × List UInt8 :=
  let start := p.dropWhile (fun c => c == SPACE)
  (start.takeWhile (fun c => c != SPACE),
    (start.dropWhile (fun c => c != SPACE)).drop 1)

def nextParam (p : List UInt8) : List UInt8 × List UInt8 :=
  match p.dropWhile (fun c => c == SPACE) with
  | [] => nextWord []
  | c :: rest => if c = COLON then (rest, []) else nextWord (c :: rest)

/-- `nick_of`, with `none` for `NULL`. -/
def nickOf : Option (List UInt8) -> List UInt8
  | none => ascii "?"
  | some front => front.takeWhile (fun c => c != 0x21 && c != 0x40)

def isChannel (s : List UInt8) : Prop :=
  s.head? = some 0x23 ∨ s.head? = some 0x26

instance (s : List UInt8) : Decidable (isChannel s) :=
  inferInstanceAs (Decidable (_ ∨ _))

def isNumeric (cmd : List UInt8) : Prop :=
  cmd.length = 3 ∧ forall c, c ∈ cmd -> 0x30 ≤ c ∧ c ≤ 0x39

instance (cmd : List UInt8) : Decidable (isNumeric cmd) :=
  inferInstanceAs (Decidable (_ ∧ _))

/-- The strings that `emit_params` emits; a turn of its loop shortens the
line. -/
def paramPieces : Nat -> List UInt8 -> List (List UInt8)
  | 0, _ => []
  | turns + 1, p =>
      if p = [] then []
      else (nextParam p).1 :: ascii " " :: paramPieces turns (nextParam p).2

/-!
## What the helpers return
-/

theorem cString_sublist (bytes : List UInt8) : (cString bytes).Sublist bytes :=
  List.takeWhile_sublist _

theorem cString_no_nul (bytes : List UInt8) : (0 : UInt8) ∉ cString bytes := by
  intro h
  have hne := List.mem_takeWhile_imp h
  exact absurd hne (by decide)

theorem cString_of_no_nul {bytes : List UInt8} (h : (0 : UInt8) ∉ bytes) :
    cString bytes = bytes := by
  apply List.takeWhile_eq_self_iff.mpr
  intro c hc
  rw [bne_iff_ne]
  intro heq
  subst heq
  exact h hc

/-- A word and the rest are parts of the line. -/
theorem nextWord_sublist (p : List UInt8) :
    (nextWord p).1.Sublist p ∧ (nextWord p).2.Sublist p := by
  have hstart := List.dropWhile_sublist (l := p) (fun c => c == SPACE)
  constructor
  · exact (List.takeWhile_sublist _).trans hstart
  · exact ((List.drop_sublist _ _).trans (List.dropWhile_sublist _)).trans
      hstart

theorem nextParam_sublist (p : List UInt8) :
    (nextParam p).1.Sublist p ∧ (nextParam p).2.Sublist p := by
  have hstart := List.dropWhile_sublist (l := p) (fun c => c == SPACE)
  unfold nextParam
  split
  · exact ⟨List.nil_sublist _, List.nil_sublist _⟩
  case h_2 c rest heq =>
    rw [heq] at hstart
    split_ifs
    · exact ⟨(List.sublist_cons_self c rest).trans hstart,
        List.nil_sublist _⟩
    · rcases nextWord_sublist (c :: rest) with ⟨hword, hmore⟩
      exact ⟨hword.trans hstart, hmore.trans hstart⟩

theorem dropWhile_space {p : List UInt8} (h : p.head? ≠ some SPACE) :
    p.dropWhile (fun c => c == SPACE) = p := by
  cases p with
  | nil => rfl
  | cons c rest =>
      have hc : ¬ (c == SPACE) = true := by
        rw [beq_iff_eq]
        intro heq
        subst heq
        exact h rfl
      exact List.dropWhile_cons_of_neg hc

theorem head?_no_space {word : List UInt8} (h : SPACE ∉ word) :
    word.head? ≠ some SPACE := by
  intro hhead
  exact h (List.mem_of_mem_head? hhead)

/-- The word in front of a space, -/
theorem nextWord_append {word : List UInt8} (h : SPACE ∉ word)
    (hne : word ≠ []) (rest : List UInt8) :
    nextWord (word ++ SPACE :: rest) = (word, rest) := by
  have hall : forall c, c ∈ word -> (c != SPACE) = true := by
    intro c hc
    rw [bne_iff_ne]
    intro heq
    subst heq
    exact h hc
  have hhead : (word ++ SPACE :: rest).head? ≠ some SPACE := by
    cases word with
    | nil => exact absurd rfl hne
    | cons c more =>
        have hword : (c :: more).head? ≠ some SPACE := head?_no_space h
        exact hword
  unfold nextWord
  simp only [dropWhile_space hhead]
  rw [List.takeWhile_append_of_pos hall, List.dropWhile_append_of_pos hall,
    List.takeWhile_cons_of_neg (by decide),
    List.dropWhile_cons_of_neg (by decide), List.append_nil]
  rfl

/-- and the last word of a line. -/
theorem nextWord_last {word : List UInt8} (h : SPACE ∉ word) :
    nextWord word = (word, []) := by
  have hall : forall c, c ∈ word -> (c != SPACE) = true := by
    intro c hc
    rw [bne_iff_ne]
    intro heq
    subst heq
    exact h hc
  unfold nextWord
  simp only [dropWhile_space (head?_no_space h)]
  rw [List.takeWhile_eq_self_iff.mpr hall, List.dropWhile_eq_nil_iff.mpr hall]
  rfl

theorem nextParam_trailing (text : List UInt8) :
    nextParam (COLON :: text) = (text, []) := by
  have hstart : (COLON :: text).dropWhile (fun c => c == SPACE) =
      COLON :: text :=
    List.dropWhile_cons_of_neg (by decide)
  rw [nextParam, hstart]
  exact if_pos rfl

theorem nextParam_middle {word : List UInt8} (h : SPACE ∉ word)
    (hne : word ≠ []) (hcolon : word.head? ≠ some COLON)
    (rest : List UInt8) :
    nextParam (word ++ SPACE :: rest) = (word, rest) := by
  cases word with
  | nil => exact absurd rfl hne
  | cons c more =>
      have hword : (c :: more).head? ≠ some SPACE := head?_no_space h
      have hhead : (c :: more ++ SPACE :: rest).head? ≠ some SPACE := hword
      have hc : c ≠ COLON := by
        intro heq
        subst heq
        exact hcolon rfl
      rw [nextParam, dropWhile_space hhead, List.cons_append]
      simp only [if_neg hc]
      rw [← List.cons_append]
      exact nextWord_append h hne rest

end Irc
end Z80Tcpip
