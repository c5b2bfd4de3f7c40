import Mathlib.Data.List.Induction
import Mathlib.Tactic.SplitIfs

/-!
# Cutting a stream

A stream that is read symbol by symbol is cut at a separator or at a width.  The
pieces with a separator behind them are closed; what stands behind the last one
is open.  A further symbol closes the open piece or is added to it.
-/

namespace Z80Tcpip
namespace Foundation

variable {alpha beta : Type} [DecidableEq alpha]

def closedPieces (a : alpha) (xs : List alpha) : List (List alpha) :=
  (xs.splitOn a).dropLast

def openPiece (a : alpha) (xs : List alpha) : List alpha :=
  (xs.splitOn a).getLastD []

@[simp] theorem closedPieces_nil (a : alpha) : closedPieces a [] = [] := rfl

@[simp] theorem openPiece_nil (a : alpha) : openPiece a [] = [] := rfl

theorem splitOn_eq_pieces (a : alpha) (xs : List alpha) :
    xs.splitOn a = closedPieces a xs ++ [openPiece a xs] := by
  have hne := List.splitOn_ne_nil a xs
  rw [closedPieces, openPiece, List.getLastD_eq_getLast?,
    List.getLast?_eq_some_getLast hne]
  exact (List.dropLast_concat_getLast hne).symm

theorem pieces_of_splitOn {a : alpha} {xs : List alpha}
    {front : List (List alpha)} {last : List alpha}
    (h : xs.splitOn a = front ++ [last]) :
    closedPieces a xs = front ∧ openPiece a xs = last := by
  rw [closedPieces, openPiece, h, List.dropLast_concat, List.getLastD_concat]
  exact ⟨rfl, rfl⟩

/-!
## One more symbol
-/

section Separator

variable (a : alpha) (xs : List alpha)

theorem splitOn_separator :
    (xs ++ [a]).splitOn a = closedPieces a xs ++ [openPiece a xs] ++ [[]] := by
  rw [List.splitOn_append_cons_self, ← splitOn_eq_pieces]
  rfl

@[simp] theorem closedPieces_separator :
    closedPieces a (xs ++ [a]) = closedPieces a xs ++ [openPiece a xs] := by
  rw [closedPieces, splitOn_separator, List.dropLast_concat]

@[simp] theorem openPiece_separator : openPiece a (xs ++ [a]) = [] := by
  rw [openPiece, splitOn_separator, List.getLastD_concat]

end Separator

section Other

variable {a y : alpha} (hne : y ≠ a) (xs : List alpha)

include hne

theorem splitOn_other :
    (xs ++ [y]).splitOn a =
      closedPieces a xs ++ [openPiece a xs ++ [y]] := by
  induction xs with
  | nil =>
      rw [List.nil_append, List.splitOn_eq_singleton]
      · rfl
      · intro hmem
        exact hne (List.mem_singleton.mp hmem).symm
  | cons x rest ih =>
      have hrest := splitOn_eq_pieces a rest
      rw [List.cons_append, List.splitOn_cons_eq_if_modifyHead, ih]
      by_cases hx : x = a
      · have hwhole : (x :: rest).splitOn a =
            ([] :: closedPieces a rest) ++ [openPiece a rest] := by
          rw [List.splitOn_cons_eq_if_modifyHead, if_pos (by simpa using hx),
            hrest]
          rfl
        rcases pieces_of_splitOn hwhole with ⟨hclosed, hopen⟩
        rw [if_pos (by simpa using hx), hclosed, hopen]
        rfl
      · have hwhole : (x :: rest).splitOn a =
            (closedPieces a rest ++ [openPiece a rest]).modifyHead
              (List.cons x) := by
          rw [List.splitOn_cons_eq_if_modifyHead, if_neg (by simpa using hx),
            hrest]
        rw [if_neg (by simpa using hx)]
        cases hfront : closedPieces a rest with
        | nil =>
            have hsplit : (x :: rest).splitOn a =
                [] ++ [x :: openPiece a rest] := by
              rw [hwhole, hfront]
              rfl
            rcases pieces_of_splitOn hsplit with ⟨hclosed, hopen⟩
            rw [hclosed, hopen]
            rfl
        | cons first more =>
            have hsplit : (x :: rest).splitOn a =
                ((x :: first) :: more) ++ [openPiece a rest] := by
              rw [hwhole, hfront]
              rfl
            rcases pieces_of_splitOn hsplit with ⟨hclosed, hopen⟩
            rw [hclosed, hopen]
            rfl

theorem closedPieces_other :
    closedPieces a (xs ++ [y]) = closedPieces a xs := by
  rw [closedPieces, splitOn_other hne, List.dropLast_concat]

theorem openPiece_other :
    openPiece a (xs ++ [y]) = openPiece a xs ++ [y] := by
  rw [openPiece, splitOn_other hne, List.getLastD_concat]

end Other

/-!
## Readers
-/

/-- Reading the pieces one after another is reading the stream, for a reader that
ignores the separator. -/
theorem filterMap_pieces {a : alpha} {f : alpha -> Option beta}
    (hskip : f a = none) (xs : List alpha) :
    (closedPieces a xs).flatMap (List.filterMap f) ++
      (openPiece a xs).filterMap f = xs.filterMap f := by
  induction xs using List.reverseRecOn with
  | nil => rfl
  | append_singleton xs y ih =>
      by_cases hy : y = a
      · rw [hy, closedPieces_separator, openPiece_separator,
          List.flatMap_append, List.flatMap_singleton, List.filterMap_append,
          List.filterMap_nil, List.append_nil, ih]
        simp [hskip]
      · rw [closedPieces_other hy, openPiece_other hy, List.filterMap_append,
          List.filterMap_append, ← List.append_assoc, ih]

/-!
## Rows of a width
-/

/-- The first rows of `n` symbols each. -/
def fullRows (n : Nat) (text : List beta) : List (List beta) :=
  (List.range (text.length / n)).map (fun i => (text.drop (n * i)).take n)

/-- What does not fill a row. -/
def restRow (n : Nat) (text : List beta) : List beta :=
  text.drop (n * (text.length / n))

def columnRows (n : Nat) (text : List beta) : List (List beta) :=
  fullRows n text ++ (if (restRow n text).length = 0 then [] else
    [restRow n text])

@[simp] theorem fullRows_nil (n : Nat) :
    fullRows n ([] : List beta) = [] := by
  rw [fullRows, List.length_nil, Nat.zero_div]
  rfl

@[simp] theorem restRow_nil (n : Nat) : restRow n ([] : List beta) = [] :=
  List.drop_nil

theorem restRow_length (n : Nat) (text : List beta) :
    (restRow n text).length = text.length % n := by
  have hdiv := Nat.div_add_mod text.length n
  rw [restRow, List.length_drop]
  omega

section Width

variable {n : Nat} (hn : 0 < n) {text : List beta}

include hn

theorem restRow_lt : (restRow n text).length < n := by
  rw [restRow_length]
  exact Nat.mod_lt _ hn

omit hn in
theorem fullRows_take (more : List beta) :
    (List.range (text.length / n)).map
        (fun i => ((text ++ more).drop (n * i)).take n) =
      fullRows n text := by
  apply List.map_congr_left
  intro i hi
  have hrow : n * (i + 1) ≤ n * (text.length / n) :=
    Nat.mul_le_mul_left n (List.mem_range.mp hi)
  have hlength := Nat.mul_div_le text.length n
  rw [Nat.mul_succ] at hrow
  rw [List.drop_append_of_le_length (by omega),
    List.take_append_of_le_length (by rw [List.length_drop]; omega)]

/-- A symbol that does not fill the row. -/
theorem rows_append_short (c : beta) (h : (restRow n text).length + 1 ≠ n) :
    fullRows n (text ++ [c]) = fullRows n text ∧
      restRow n (text ++ [c]) = restRow n text ++ [c] := by
  have hrest := restRow_length n text
  have hlt : (restRow n text).length < n := restRow_lt hn
  have hdiv := Nat.div_add_mod text.length n
  have hcount : (text.length + 1) / n = text.length / n :=
    ((Nat.div_mod_unique hn).mpr
      (show text.length % n + 1 + n * (text.length / n) = text.length + 1 ∧
        text.length % n + 1 < n by omega)).left
  constructor
  · rw [fullRows, List.length_append, List.length_singleton, hcount,
      fullRows_take]
  · rw [restRow, List.length_append, List.length_singleton, hcount,
      List.drop_append_of_le_length (by omega)]
    rfl

/-- A symbol that does. -/
theorem rows_append_full (c : beta) (h : (restRow n text).length + 1 = n) :
    fullRows n (text ++ [c]) = fullRows n text ++ [restRow n text ++ [c]] ∧
      restRow n (text ++ [c]) = [] := by
  have hrest := restRow_length n text
  have hdiv := Nat.div_add_mod text.length n
  have hcount : (text.length + 1) / n = text.length / n + 1 :=
    ((Nat.div_mod_unique hn).mpr
      (show 0 + n * (text.length / n + 1) = text.length + 1 ∧ 0 < n by
        rw [Nat.mul_succ]
        omega)).left
  constructor
  · have hlast : ((text ++ [c]).drop (n * (text.length / n))).take n =
        restRow n text ++ [c] := by
      rw [List.drop_append_of_le_length (by omega), ← restRow]
      apply List.take_of_length_le
      rw [List.length_append, List.length_singleton]
      omega
    rw [fullRows, List.length_append, List.length_singleton, hcount,
      List.range_succ, List.map_append, fullRows_take, List.map_singleton,
      hlast]
  · rw [restRow, List.length_append, List.length_singleton, hcount]
    apply List.drop_eq_nil_of_le
    rw [List.length_append, List.length_singleton, Nat.mul_succ]
    omega

theorem mem_columnRows {row : List beta} (h : row ∈ columnRows n text) :
    row.length ≤ n ∧ row ≠ [] := by
  rcases List.mem_append.mp h with hfull | hrest
  · rcases List.mem_map.mp hfull with ⟨i, hi, hrow⟩
    have hcount : n * (i + 1) ≤ n * (text.length / n) :=
      Nat.mul_le_mul_left n (List.mem_range.mp hi)
    have hlength := Nat.mul_div_le text.length n
    rw [Nat.mul_succ] at hcount
    have hwhole : row.length = n := by
      rw [← hrow, List.length_take, List.length_drop]
      omega
    exact ⟨Nat.le_of_eq hwhole, List.ne_nil_of_length_pos (by omega)⟩
  · have hlt : (restRow n text).length < n := restRow_lt hn
    split_ifs at hrest with hempty
    · cases hrest
    · rw [List.mem_singleton.mp hrest]
      exact ⟨Nat.le_of_lt hlt, List.ne_nil_of_length_pos (by omega)⟩

theorem columnRows_flatten : (columnRows n text).flatten = text := by
  have hrows : forall xs : List beta,
      (fullRows n xs).flatten ++ restRow n xs = xs := by
    intro xs
    induction xs using List.reverseRecOn with
    | nil => simp
    | append_singleton xs c ih =>
        by_cases hfull : (restRow n xs).length + 1 = n
        · rcases rows_append_full hn c hfull with ⟨hrows, hrest⟩
          rw [hrows, hrest, List.flatten_append, List.flatten_singleton,
            List.append_nil, ← List.append_assoc, ih]
        · rcases rows_append_short hn c hfull with ⟨hrows, hrest⟩
          rw [hrows, hrest, ← List.append_assoc, ih]
  rw [columnRows, List.flatten_append]
  split_ifs with hempty
  · have hwhole := hrows text
    rw [List.eq_nil_of_length_eq_zero hempty] at hwhole
    exact hwhole
  · rw [List.flatten_singleton, hrows]

end Width

end Foundation
end Z80Tcpip
