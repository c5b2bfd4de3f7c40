import Mathlib.Data.List.Basic

/-!
# Escaped frames

A stuffing scheme delimits frames with a reserved symbol and replaces every
reserved symbol of the payload by an escape followed by a code.  This module
develops the schemes over an arbitrary alphabet, together with the one fold
law that receivers need: a receiver which handles the encoding of a single
symbol correctly handles every stuffed payload.
-/

namespace Z80Tcpip
namespace Foundation

/-- An escape table: `code b = some k` means that `b` travels as the
pair `esc k`, every other symbol travels as itself. -/
structure Stuffing (alpha : Type) where
  stop : alpha
  esc : alpha
  code : alpha -> Option alpha
  decode : alpha -> Option alpha
  stop_coded : code stop ≠ none
  esc_coded : code esc ≠ none
  code_ne_stop : forall {b k : alpha}, code b = some k -> k ≠ stop
  code_ne_esc : forall {b k : alpha}, code b = some k -> k ≠ esc
  decode_code : forall {b k : alpha}, code b = some k -> decode k = some b
  stop_ne_esc : stop ≠ esc

namespace Stuffing

variable {alpha : Type} (S : Stuffing alpha)

def stuffSymbol (b : alpha) : List alpha :=
  match S.code b with
  | some k => [S.esc, k]
  | none => [b]

def stuff (p : List alpha) : List alpha :=
  p.flatMap S.stuffSymbol

def frame (p : List alpha) : List alpha :=
  S.stop :: (S.stuff p ++ [S.stop])

@[simp] theorem stuff_nil : S.stuff [] = [] := rfl

@[simp] theorem stuff_cons (b : alpha) (p : List alpha) :
    S.stuff (b :: p) = S.stuffSymbol b ++ S.stuff p := by
  simp [stuff]

theorem stuffSymbol_cases (b : alpha) :
    (exists k, S.code b = some k ∧ S.stuffSymbol b = [S.esc, k]) ∨
      (S.code b = none ∧ S.stuffSymbol b = [b]) := by
  unfold stuffSymbol
  cases hcode : S.code b with
  | some k => exact Or.inl ⟨k, rfl, rfl⟩
  | none => exact Or.inr ⟨rfl, rfl⟩

theorem ne_stop_of_code_none {b : alpha} (h : S.code b = none) :
    b ≠ S.stop := by
  intro hb
  rw [hb] at h
  exact S.stop_coded h

theorem ne_esc_of_code_none {b : alpha} (h : S.code b = none) :
    b ≠ S.esc := by
  intro hb
  rw [hb] at h
  exact S.esc_coded h

/-!
## Frames in a symbol stream

A frame never shows its delimiter inside, and the first symbol after the
opening delimiter is the delimiter again only for the empty payload.
-/

/-- A symbol that is replaced and is part of no replacement does not appear. -/
theorem not_mem_stuff {z : alpha} (hcoded : S.code z ≠ none)
    (hcode : forall {b k : alpha}, S.code b = some k -> k ≠ z)
    (hesc : z ≠ S.esc) (p : List alpha) : z ∉ S.stuff p := by
  induction p with
  | nil => simp
  | cons b rest ih =>
      rw [stuff_cons, List.mem_append]
      intro h
      rcases h with hsymbol | hrest
      · rcases S.stuffSymbol_cases b with ⟨k, hb, hs⟩ | ⟨hb, hs⟩
        · rw [hs, List.mem_pair] at hsymbol
          rcases hsymbol with hz | hz
          · exact hesc hz
          · exact hcode hb hz.symm
        · rw [hs, List.mem_singleton] at hsymbol
          rw [hsymbol] at hcoded
          exact hcoded hb
      · exact ih hrest

theorem stop_not_mem_stuff (p : List alpha) : S.stop ∉ S.stuff p :=
  S.not_mem_stuff S.stop_coded S.code_ne_stop S.stop_ne_esc p

theorem stuff_eq_nil_iff (p : List alpha) : S.stuff p = [] <-> p = [] := by
  cases p with
  | nil => simp
  | cons b rest =>
      rw [stuff_cons]
      rcases S.stuffSymbol_cases b with ⟨k, _, hs⟩ | ⟨_, hs⟩ <;> simp [hs]

/-- A lone escape is never a whole payload. -/
theorem stuff_ne_esc (p : List alpha) : S.stuff p ≠ [S.esc] := by
  cases p with
  | nil => simp
  | cons b rest =>
      rw [stuff_cons]
      rcases S.stuffSymbol_cases b with ⟨k, _, hs⟩ | ⟨hcode, hs⟩
      · simp [hs]
      · have hb := S.ne_esc_of_code_none hcode
        simp [hs, hb]

/-- What stands behind an escape is a code. -/
theorem code_behind_esc {p tail rest : List alpha} (htail : S.esc ∉ tail) :
    forall {front : List alpha},
      S.stuff p ++ tail = front ++ S.esc :: rest ->
        exists (b k : alpha) (more : List alpha),
          S.code b = some k ∧ rest = k :: more := by
  induction p with
  | nil =>
      intro front h
      rw [stuff_nil, List.nil_append] at h
      rw [h] at htail
      exact absurd (List.mem_append_right front List.mem_cons_self) htail
  | cons b q ih =>
      intro front h
      rw [stuff_cons, List.append_assoc] at h
      rcases S.stuffSymbol_cases b with ⟨k, hcode, hs⟩ | ⟨hcode, hs⟩
      · rw [hs] at h
        match front with
        | [] =>
            rw [List.nil_append] at h
            injection h with _ hrest
            exact ⟨b, k, _, hcode, hrest.symm⟩
        | [_] =>
            injection h with _ hrest
            injection hrest with hk _
            exact absurd hk (S.code_ne_esc hcode)
        | _ :: _ :: front =>
            injection h with _ hrest
            injection hrest with _ hmore
            exact ih hmore
      · rw [hs] at h
        match front with
        | [] =>
            injection h with hb _
            exact absurd hb (S.ne_esc_of_code_none hcode)
        | _ :: front =>
            injection h with _ hmore
            exact ih hmore

theorem stuffSymbol_length_le (b : alpha) : (S.stuffSymbol b).length ≤ 2 := by
  rcases S.stuffSymbol_cases b with ⟨k, _, hs⟩ | ⟨_, hs⟩ <;> simp [hs]

theorem stuff_length_le (p : List alpha) :
    (S.stuff p).length ≤ 2 * p.length := by
  induction p with
  | nil => exact Nat.le_refl 0
  | cons b rest ih =>
      have hb := S.stuffSymbol_length_le b
      rw [stuff_cons, List.length_append, List.length_cons]
      omega

theorem frame_length_le (p : List alpha) :
    (S.frame p).length ≤ 2 * p.length + 2 := by
  have hbody := S.stuff_length_le p
  rw [frame, List.length_cons, List.length_append, List.length_singleton]
  omega

/-- The encodings of two symbols differ in front, or the symbols are the same. -/
theorem stuffSymbol_append_inj {b c : alpha} {xs ys : List alpha}
    (h : S.stuffSymbol b ++ xs = S.stuffSymbol c ++ ys) : b = c ∧ xs = ys := by
  rcases S.stuffSymbol_cases b with ⟨k, hb, hsb⟩ | ⟨hb, hsb⟩ <;>
    rcases S.stuffSymbol_cases c with ⟨l, hc, hsc⟩ | ⟨hc, hsc⟩ <;>
    rw [hsb, hsc] at h
  · simp only [List.cons_append, List.nil_append, List.cons.injEq, true_and]
      at h
    have hsame := S.decode_code hb
    rw [h.left, S.decode_code hc] at hsame
    exact ⟨(Option.some.inj hsame).symm, h.right⟩
  · simp only [List.cons_append, List.nil_append, List.cons.injEq] at h
    exact absurd h.left.symm (S.ne_esc_of_code_none hc)
  · simp only [List.cons_append, List.nil_append, List.cons.injEq] at h
    exact absurd h.left (S.ne_esc_of_code_none hb)
  · simp only [List.cons_append, List.nil_append, List.cons.injEq] at h
    exact h

theorem stuff_injective {p q : List alpha} (h : S.stuff p = S.stuff q) :
    p = q := by
  induction p generalizing q with
  | nil =>
      rw [stuff_nil] at h
      exact ((S.stuff_eq_nil_iff q).mp h.symm).symm
  | cons b rest ih =>
      cases q with
      | nil => exact (S.stuff_eq_nil_iff (b :: rest)).mp h
      | cons c more =>
          rw [stuff_cons, stuff_cons] at h
          rcases S.stuffSymbol_append_inj h with ⟨hbc, hrest⟩
          rw [hbc, ih hrest]

theorem frame_injective {p q : List alpha} (h : S.frame p = S.frame q) :
    p = q := by
  rw [frame, frame, List.cons.injEq] at h
  exact S.stuff_injective (List.append_cancel_right h.right)

/-- A cut through a stuffed payload leaves whole symbols and at most the
escape of the next one. -/
theorem take_stuff (q : List alpha) (m : Nat) :
    exists done rest : List alpha, q = done ++ rest ∧
      ((S.stuff q).take m = S.stuff done ∨
        exists (b : alpha) (more : List alpha), rest = b :: more ∧
          S.code b ≠ none ∧ (S.stuff q).take m = S.stuff done ++ [S.esc]) := by
  induction q generalizing m with
  | nil => exact ⟨[], [], rfl, Or.inl (by simp)⟩
  | cons b q ih =>
      have hextend : forall (m' : Nat) (front : List alpha),
          S.stuffSymbol b = front ->
          exists done rest : List alpha, b :: q = done ++ rest ∧
            (front ++ (S.stuff q).take m' = S.stuff done ∨
              exists (b' : alpha) (more : List alpha), rest = b' :: more ∧
                S.code b' ≠ none ∧
                  front ++ (S.stuff q).take m' = S.stuff done ++ [S.esc]) := by
        intro m' front hfront
        rcases ih m' with ⟨done, rest, hsplit, hcut⟩
        refine ⟨b :: done, rest, by rw [hsplit]; rfl, ?_⟩
        rw [stuff_cons, hfront, List.append_assoc]
        rcases hcut with hcut | ⟨b', more, hrest, hcode, hcut⟩
        · exact Or.inl (by rw [hcut])
        · exact Or.inr ⟨b', more, hrest, hcode, by rw [hcut]⟩
      rw [stuff_cons]
      rcases S.stuffSymbol_cases b with ⟨k, hcode, hs⟩ | ⟨hcode, hs⟩
      · match m with
        | 0 => exact ⟨[], b :: q, rfl, Or.inl (by simp)⟩
        | 1 =>
            refine ⟨[], b :: q, rfl, Or.inr ⟨b, q, rfl, ?_, ?_⟩⟩
            · rw [hcode]
              simp
            · rw [hs]
              simp
        | m' + 2 =>
            rw [hs]
            exact hextend m' [S.esc, k] hs
      · match m with
        | 0 => exact ⟨[], b :: q, rfl, Or.inl (by simp)⟩
        | m' + 1 =>
            rw [hs]
            exact hextend m' [b] hs

/-!
## Folding a receiver over a stuffed payload
-/

/-- A receiver invariant indexed by the symbols stored so far, kept by the
encoding of each single symbol of a payload, holds after the stuffed payload. -/
theorem foldl_stuff_invariant {state : Type} (step : state -> alpha -> state)
    (Inv : List alpha -> state -> Prop) (payload : List alpha)
    (hstep : forall (p : List alpha) (b : alpha) (rest : List alpha)
      (s : state), p ++ b :: rest = payload -> Inv p s ->
        Inv (p ++ [b]) ((S.stuffSymbol b).foldl step s))
    {s : state} (hs : Inv [] s) :
    Inv payload ((S.stuff payload).foldl step s) := by
  have hfrom : forall (todo done : List alpha) (t : state),
      done ++ todo = payload -> Inv done t ->
        Inv payload ((S.stuff todo).foldl step t) := by
    intro todo
    induction todo with
    | nil =>
        intro done t hsplit ht
        rw [List.append_nil] at hsplit
        rw [← hsplit]
        exact ht
    | cons b rest ih =>
        intro done t hsplit ht
        rw [stuff_cons, List.foldl_append]
        apply ih (done ++ [b])
        · rw [List.append_assoc]
          exact hsplit
        · exact hstep done b rest t hsplit ht
  exact hfrom payload [] s rfl hs

end Stuffing
end Foundation
end Z80Tcpip
