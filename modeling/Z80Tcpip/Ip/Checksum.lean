import Z80Tcpip.Foundation.OnesComplement

/-!
# The checksum of ip.c

`csum` adds the little-endian words of a block in a 32-bit accumulator and
folds the carries back twice.  A block that holds its own checksum adds up to
all ones in network order.
-/

namespace Z80Tcpip
namespace Ip

open Foundation

/-- The loop of `csum`: words as the machine loads them, and an odd last byte
as the low byte of a word. -/
def csumLoop (sum : UInt32) : List UInt8 -> UInt32
  | [] => sum
  | [b] => sum + b.toUInt32
  | a :: b :: rest => csumLoop (sum + UInt32.ofNat (readLE [a, b])) rest

/-- The two folds. -/
def csumFold (sum : UInt32) : UInt32 :=
  let sum := (sum >>> 16) + (sum &&& 0xffff)
  sum + (sum >>> 16)

/-- ip.c `csum`. -/
def csum (bs : List UInt8) : UInt16 :=
  (~~~ csumFold (csumLoop 0 bs)).toUInt16

/-!
## Carries
-/

theorem csumLoop_toNat {bs : List UInt8} {sum : UInt32}
    (h : sum.toNat + (leWords bs).sum < 4294967296) :
    (csumLoop sum bs).toNat = sum.toNat + (leWords bs).sum := by
  induction bs using leWords.induct generalizing sum with
  | case1 => rfl
  | case2 b =>
      simp only [leWords, List.sum_cons, List.sum_nil] at h ⊢
      rw [csumLoop, UInt32.toNat_add, UInt8.toNat_toUInt32]
      omega
  | case3 a b rest ih =>
      have ha := a.toNat_lt
      have hb := b.toNat_lt
      have hword : (UInt32.ofNat (readLE [a, b])).toNat =
          a.toNat + 256 * b.toNat := by
        rw [UInt32.toNat_ofNat']
        simp only [readLE]
        omega
      simp only [leWords, List.sum_cons] at h ⊢
      have hsum : (sum + UInt32.ofNat (readLE [a, b])).toNat =
          sum.toNat + (a.toNat + 256 * b.toNat) := by
        rw [UInt32.toNat_add, hword]
        omega
      rw [csumLoop, ih (by rw [hsum]; omega), hsum]
      omega

theorem csumFold_step (sum : UInt32) :
    ((sum >>> 16) + (sum &&& 0xffff)).toNat =
      sum.toNat / 65536 + sum.toNat % 65536 := by
  have hlt := sum.toNat_lt
  have hhigh : (sum >>> 16).toNat = sum.toNat / 65536 := by
    simp [UInt32.toNat_shiftRight, Nat.shiftRight_eq_div_pow]
  have hlow : (sum &&& 0xffff).toNat = sum.toNat % 65536 := by
    simp only [UInt32.toNat_and]
    exact Nat.and_two_pow_sub_one_eq_mod sum.toNat 16
  rw [UInt32.toNat_add, hhigh, hlow]
  omega

/-- Two folds are enough for every accumulator: the low half that is left
differs from the sum by end-around carries only. -/
theorem csumFold_toNat (sum : UInt32) :
    exists k : Nat,
      sum.toNat = (csumFold sum).toNat % 65536 + 65535 * k := by
  have hlt := sum.toNat_lt
  have hfirst := csumFold_step sum
  have hfold : forall s : UInt32, (s + (s >>> 16)).toNat % 65536 =
      (s.toNat + s.toNat / 65536) % 65536 := by
    intro s
    have hcarry : (s >>> 16).toNat = s.toNat / 65536 := by
      simp [UInt32.toNat_shiftRight, Nat.shiftRight_eq_div_pow]
    rw [UInt32.toNat_add, hcarry]
    omega
  refine ⟨sum.toNat / 65536 +
    (sum.toNat / 65536 + sum.toNat % 65536) / 65536, ?_⟩
  rw [csumFold, hfold, hfirst]
  omega

/-!
## What the checksum complements
-/

/-- The accumulator has room for every block an `int` can measure. -/
theorem csum_toNat {bs : List UInt8} (h : bs.length < 65536) :
    ((csum bs).toNat + (leWords bs).sum) % 65535 = 0 ∧
      0 < (csum bs).toNat + (leWords bs).sum := by
  have hbound := leWords_sum_le bs
  have hroom : (0 : UInt32).toNat + (leWords bs).sum < 4294967296 := by
    rw [UInt32.toNat_zero]
    omega
  have hloop := csumLoop_toNat hroom
  rw [UInt32.toNat_zero, Nat.zero_add] at hloop
  have hlt := (csumFold (csumLoop 0 bs)).toNat_lt
  have hneg : (csum bs).toNat =
      65535 - (csumFold (csumLoop 0 bs)).toNat % 65536 := by
    rw [csum, UInt32.toNat_toUInt16, UInt32.toNat_not]
    show (4294967296 - 1 - _) % 65536 = _
    omega
  rcases csumFold_toNat (csumLoop 0 bs) with ⟨k, hk⟩
  rw [hloop] at hk
  rw [hneg]
  omega

/-- Storing the checksum of a block in a field of it that was zero makes the
block valid. -/
theorem internetSum_csum {front : List UInt8} (back : List UInt8)
    (hfront : front.length % 2 = 0)
    (hlen : (front ++ [0, 0] ++ back).length < 65536) :
    internetSum
      (front ++ leBytes 2 (csum (front ++ [0, 0] ++ back)).toNat ++ back) =
        65535 := by
  rcases csum_toNat hlen with ⟨hmod, hpos⟩
  exact internetSum_checksummed hfront (csum _).toNat_lt hmod hpos

end Ip
end Z80Tcpip
