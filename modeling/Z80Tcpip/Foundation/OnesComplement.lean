import Mathlib.Data.List.Basic
import Mathlib.Algebra.BigOperators.Group.List.Basic
import Z80Tcpip.Foundation.Words

/-!
# One's complement sums

Addition with end-around carry modulo `m`, and the sums of 16-bit words that
network checksums are made of.  The sum over words in either byte order decides
whether a block adds up to all ones.
-/

namespace Z80Tcpip
namespace Foundation

/-!
## End-around carry
-/

def onesAdd (m a b : Nat) : Nat :=
  if a + b ≤ m then a + b else a + b - m

def onesSum (m : Nat) (ws : List Nat) : Nat :=
  ws.foldl (onesAdd m) 0

theorem onesAdd_le {m a b : Nat} (ha : a ≤ m) (hb : b ≤ m) :
    onesAdd m a b ≤ m := by
  unfold onesAdd
  split
  · assumption
  · omega

/-- A carry is worth `m`, and it never leaves zero behind. -/
theorem onesAdd_spec (m a b : Nat) :
    exists k : Nat, a + b = onesAdd m a b + m * k ∧
      (onesAdd m a b = 0 -> a = 0 ∧ b = 0) := by
  unfold onesAdd
  by_cases h : a + b ≤ m
  · refine ⟨0, ?_⟩
    rw [if_pos h]
    omega
  · refine ⟨1, ?_⟩
    rw [if_neg h]
    omega

theorem foldl_onesAdd_spec {m : Nat} (ws : List Nat)
    (hws : forall w, w ∈ ws -> w ≤ m) :
    forall {a : Nat}, a ≤ m ->
      ws.foldl (onesAdd m) a ≤ m ∧
        (exists k : Nat, a + ws.sum = ws.foldl (onesAdd m) a + m * k) ∧
        (ws.foldl (onesAdd m) a = 0 -> a = 0 ∧ ws.sum = 0) := by
  induction ws with
  | nil =>
      intro a ha
      exact ⟨ha, ⟨0, rfl⟩, fun h => ⟨h, rfl⟩⟩
  | cons w rest ih =>
      intro a ha
      have hw : w ≤ m := hws w List.mem_cons_self
      have hrest : forall v, v ∈ rest -> v ≤ m :=
        fun v hv => hws v (List.mem_cons_of_mem w hv)
      rcases onesAdd_spec m a w with ⟨k, hk, hzero⟩
      rcases ih hrest (onesAdd_le ha hw) with ⟨hle, ⟨j, hj⟩, hnil⟩
      rw [List.foldl_cons, List.sum_cons]
      refine ⟨hle, ⟨k + j, ?_⟩, ?_⟩
      · rw [Nat.mul_add]
        omega
      · intro h
        have hparts := hnil h
        have hsum := hzero hparts.1
        omega

/-- A one's complement sum is all ones exactly when the plain sum is a positive
multiple of `m`. -/
theorem onesSum_eq_iff {m : Nat} (hm : 0 < m) {ws : List Nat}
    (hws : forall w, w ∈ ws -> w ≤ m) :
    onesSum m ws = m <-> ws.sum % m = 0 ∧ 0 < ws.sum := by
  rcases foldl_onesAdd_spec ws hws (Nat.zero_le m) with ⟨hle, ⟨k, hk⟩, hzero⟩
  rw [Nat.zero_add] at hk
  have hsum : ws.sum = onesSum m ws + m * k := hk
  have hmod : ws.sum % m = onesSum m ws % m := by
    rw [hsum, Nat.add_mul_mod_self_left]
  constructor
  · intro h
    rw [hmod, h, Nat.mod_self]
    omega
  · intro hboth
    rcases hboth with ⟨hdvd, hpos⟩
    have hne : onesSum m ws ≠ 0 := by
      intro h
      have hboth := hzero h
      omega
    have hcases : onesSum m ws < m ∨ onesSum m ws = m :=
      Nat.lt_or_eq_of_le hle
    rcases hcases with hlt | heq
    · rw [hmod, Nat.mod_eq_of_lt hlt] at hdvd
      exact absurd hdvd hne
    · exact heq

/-!
## Words of two bytes

An odd last byte is padded with a zero byte.
-/

def leWords : List UInt8 -> List Nat
  | [] => []
  | [b] => [b.toNat]
  | a :: b :: rest => (a.toNat + 256 * b.toNat) :: leWords rest

def beWords : List UInt8 -> List Nat
  | [] => []
  | [b] => [256 * b.toNat]
  | a :: b :: rest => (256 * a.toNat + b.toNat) :: beWords rest

theorem leWords_append {front : List UInt8} (h : front.length % 2 = 0)
    (back : List UInt8) :
    leWords (front ++ back) = leWords front ++ leWords back := by
  induction front using leWords.induct with
  | case1 => rfl
  | case2 b => simp at h
  | case3 a b rest ih =>
      have hrest : rest.length % 2 = 0 := by
        simp only [List.length_cons] at h
        omega
      show _ :: leWords (rest ++ back) = _ :: (leWords rest ++ leWords back)
      rw [ih hrest]

theorem beWords_le (bs : List UInt8) : forall w, w ∈ beWords bs -> w ≤ 65535 := by
  induction bs using beWords.induct with
  | case1 =>
      intro w hw
      cases hw
  | case2 b =>
      intro w hw
      have hb := b.toNat_lt
      rw [beWords, List.mem_singleton] at hw
      omega
  | case3 a b rest ih =>
      intro w hw
      have ha := a.toNat_lt
      have hb := b.toNat_lt
      rw [beWords, List.mem_cons] at hw
      rcases hw with hhead | htail
      · omega
      · exact ih w htail

theorem leWords_sum_le (bs : List UInt8) :
    2 * (leWords bs).sum ≤ 65535 * (bs.length + 1) := by
  induction bs using leWords.induct with
  | case1 => simp [leWords]
  | case2 b =>
      have hb := b.toNat_lt
      simp only [leWords, List.sum_cons, List.sum_nil, List.length_singleton]
      omega
  | case3 a b rest ih =>
      have ha := a.toNat_lt
      have hb := b.toNat_lt
      simp only [leWords, List.sum_cons, List.length_cons]
      omega

/-- Swapping the bytes of every word multiplies the sum by 256, modulo all
ones. -/
theorem beWords_sum_congr (bs : List UInt8) :
    exists k : Nat, 256 * (leWords bs).sum = (beWords bs).sum + 65535 * k := by
  induction bs using leWords.induct with
  | case1 => exact ⟨0, rfl⟩
  | case2 b => exact ⟨0, by simp [leWords, beWords]⟩
  | case3 a b rest ih =>
      rcases ih with ⟨k, hk⟩
      refine ⟨k + b.toNat, ?_⟩
      simp only [leWords, beWords, List.sum_cons]
      omega

theorem leWords_sum_eq_zero {bs : List UInt8} (h : (beWords bs).sum = 0) :
    (leWords bs).sum = 0 := by
  induction bs using leWords.induct with
  | case1 => rfl
  | case2 b =>
      simp only [beWords, List.sum_cons, List.sum_nil] at h
      simp only [leWords, List.sum_cons, List.sum_nil]
      omega
  | case3 a b rest ih =>
      simp only [beWords, List.sum_cons] at h
      have hrest := ih (by omega)
      simp only [leWords, List.sum_cons]
      omega

/-!
## Blocks that carry their own checksum
-/

/-- The 16-bit one's complement sum of a block in network order. -/
def internetSum (bs : List UInt8) : Nat :=
  onesSum 65535 (beWords bs)

theorem internetSum_of_leWords {bs : List UInt8}
    (hmod : (leWords bs).sum % 65535 = 0) (hpos : 0 < (leWords bs).sum) :
    internetSum bs = 65535 := by
  rcases beWords_sum_congr bs with ⟨k, hk⟩
  have hne : (beWords bs).sum ≠ 0 := by
    intro h
    have hzero := leWords_sum_eq_zero h
    omega
  exact (onesSum_eq_iff (by decide) (beWords_le bs)).mpr (by omega)

theorem leWords_leBytes {c : Nat} (hc : c < 65536) (back : List UInt8) :
    leWords (leBytes 2 c ++ back) = c :: leWords back := by
  have hlow : c % 256 + 256 * (c / 256 % 256) = c := by
    omega
  show
    ((UInt8.ofNat c).toNat + 256 * (UInt8.ofNat (c / 256)).toNat) ::
      leWords back = _
  rw [UInt8.toNat_ofNat', UInt8.toNat_ofNat', hlow]

/-- A field that holds the complement of the sum over the block with the field
cleared makes the block add up to all ones. -/
theorem internetSum_checksummed {front back : List UInt8} {c : Nat}
    (hfront : front.length % 2 = 0) (hc : c < 65536)
    (hmod : (c + (leWords (front ++ [0, 0] ++ back)).sum) % 65535 = 0)
    (hpos : 0 < c + (leWords (front ++ [0, 0] ++ back)).sum) :
    internetSum (front ++ leBytes 2 c ++ back) = 65535 := by
  have hclear : (leWords (front ++ [0, 0] ++ back)).sum =
      (leWords front).sum + (leWords back).sum := by
    rw [List.append_assoc, leWords_append hfront, List.sum_append]
    show _ + (0 :: leWords back).sum = _
    rw [List.sum_cons, Nat.zero_add]
  have hfull : (leWords (front ++ leBytes 2 c ++ back)).sum =
      (leWords front).sum + (c + (leWords back).sum) := by
    rw [List.append_assoc, leWords_append hfront, leWords_leBytes hc,
      List.sum_append, List.sum_cons]
  rw [hclear] at hmod hpos
  apply internetSum_of_leWords
  · rw [hfull]
    omega
  · rw [hfull]
    omega

end Foundation
end Z80Tcpip
