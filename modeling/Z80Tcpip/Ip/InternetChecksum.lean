import Z80Tcpip.Ip.Checksum

/-!
# The checksum of ip.c against the Internet checksum

The Internet checksum pairs the bytes of a block to words in network order,
adds these with end-around carry and complements the sum.  `csum` adds the words
of the other byte order, without carries until the end.  The two agree byte by
byte: swapping the bytes of every word multiplies the sum by 256 modulo 65535,
and zero is the one sum that both representations of zero must be kept from.
-/

namespace Z80Tcpip
namespace Ip

open Foundation

/-- The complement of the sum over the words in network order. -/
def internetChecksum (bs : List UInt8) : Nat :=
  65535 - internetSum bs

def swapBytes (w : Nat) : Nat :=
  256 * (w % 256) + w / 256

/-!
## The value of a one's complement sum
-/

/-- Among the values up to `m`, the remainder of a sum and whether it is zero
determine the one's complement sum. -/
theorem onesSum_eq {m : Nat} {ws : List Nat}
    (hws : forall w, w ∈ ws -> w ≤ m) {r : Nat} (hle : r ≤ m)
    (hmod : r % m = ws.sum % m) (hzero : r = 0 <-> ws.sum = 0) :
    onesSum m ws = r := by
  rcases foldl_onesAdd_spec ws hws (Nat.zero_le m) with ⟨hfit, ⟨k, hk⟩, hnil⟩
  rw [Nat.zero_add] at hk
  have hsum : ws.sum = onesSum m ws + m * k := hk
  have hfit : onesSum m ws ≤ m := hfit
  have hcongr : onesSum m ws % m = r % m := by
    rw [hmod, hsum, Nat.add_mul_mod_self_left]
  by_cases hempty : ws.sum = 0
  · have hr : r = 0 := hzero.mpr hempty
    omega
  · have hpos : onesSum m ws ≠ 0 := by
      intro h
      exact hempty (hnil h).2
    have hr : r ≠ 0 := fun h => hempty (hzero.mp h)
    -- both are in 1..m, where only `m` itself leaves no remainder
    rcases Nat.lt_or_eq_of_le hfit with hlt | heq
    · rw [Nat.mod_eq_of_lt hlt] at hcongr
      rcases Nat.lt_or_eq_of_le hle with hrlt | hreq
      · rwa [Nat.mod_eq_of_lt hrlt] at hcongr
      · rw [hreq, Nat.mod_self] at hcongr
        exact absurd hcongr hpos
    · rw [heq, Nat.mod_self] at hcongr
      rcases Nat.lt_or_eq_of_le hle with hrlt | hreq
      · rw [Nat.mod_eq_of_lt hrlt] at hcongr
        exact absurd hcongr.symm hr
      · rw [heq, hreq]

theorem onesSum_le {m : Nat} {ws : List Nat}
    (hws : forall w, w ∈ ws -> w ≤ m) : onesSum m ws ≤ m :=
  (foldl_onesAdd_spec ws hws (Nat.zero_le m)).1

theorem onesSum_mod {m : Nat} {ws : List Nat}
    (hws : forall w, w ∈ ws -> w ≤ m) :
    onesSum m ws % m = ws.sum % m := by
  rcases foldl_onesAdd_spec ws hws (Nat.zero_le m) with ⟨_, ⟨k, hk⟩, _⟩
  rw [Nat.zero_add] at hk
  rw [hk, Nat.add_mul_mod_self_left, onesSum]

theorem onesSum_eq_zero_iff {m : Nat} {ws : List Nat}
    (hws : forall w, w ∈ ws -> w ≤ m) :
    onesSum m ws = 0 <-> ws.sum = 0 := by
  rcases foldl_onesAdd_spec ws hws (Nat.zero_le m) with ⟨_, ⟨k, hk⟩, hnil⟩
  rw [Nat.zero_add] at hk
  constructor
  · intro h
    exact (hnil h).2
  · intro h
    rw [h] at hk
    rw [onesSum]
    omega

/-!
## The other byte order
-/

theorem leWords_le (bs : List UInt8) :
    forall w, w ∈ leWords bs -> w ≤ 65535 := by
  induction bs using leWords.induct with
  | case1 =>
      intro w hw
      cases hw
  | case2 b =>
      intro w hw
      have hb := b.toNat_lt
      rw [leWords, List.mem_singleton] at hw
      omega
  | case3 a b rest ih =>
      intro w hw
      have ha := a.toNat_lt
      have hb := b.toNat_lt
      rw [leWords, List.mem_cons] at hw
      cases hw with
      | inl hhead =>
          omega
      | inr htail =>
          exact ih w htail

theorem beWords_sum_eq_zero {bs : List UInt8} (h : (leWords bs).sum = 0) :
    (beWords bs).sum = 0 := by
  rcases beWords_sum_congr bs with ⟨k, hk⟩
  omega

/-- The sum over words in one byte order is the sum in the other order with its
bytes swapped, an odd last byte included. -/
theorem internetSum_swap (bs : List UInt8) :
    internetSum bs = swapBytes (onesSum 65535 (leWords bs)) := by
  have hle : onesSum 65535 (leWords bs) ≤ 65535 := onesSum_le (leWords_le bs)
  have hmod := onesSum_mod (leWords_le bs)
  have hnil := onesSum_eq_zero_iff (leWords_le bs)
  rcases beWords_sum_congr bs with ⟨k, hk⟩
  apply onesSum_eq (beWords_le bs)
  · rw [swapBytes]
    omega
  · -- a swap is a product with 256, up to multiples of 65535
    have hswap : 256 * onesSum 65535 (leWords bs) =
        swapBytes (onesSum 65535 (leWords bs)) +
          65535 * (onesSum 65535 (leWords bs) / 256) := by
      rw [swapBytes]
      omega
    calc
      swapBytes (onesSum 65535 (leWords bs)) % 65535
          = 256 * onesSum 65535 (leWords bs) % 65535 := by
            rw [hswap, Nat.add_mul_mod_self_left]
      _ = 256 * (leWords bs).sum % 65535 := by
            rw [Nat.mul_mod, hmod, <- Nat.mul_mod]
      _ = (beWords bs).sum % 65535 := by
            rw [hk, Nat.add_mul_mod_self_left]
  · constructor
    · intro h
      have hzero : onesSum 65535 (leWords bs) = 0 := by
        rw [swapBytes] at h
        omega
      exact beWords_sum_eq_zero (hnil.mp hzero)
    · intro h
      rw [hnil.mpr (leWords_sum_eq_zero h)]
      rfl

theorem leBytes_two {high low : Nat} (h : low ≤ 255) :
    leBytes 2 (256 * high + low) = [UInt8.ofNat low, UInt8.ofNat high] := by
  have hdiv : (256 * high + low) / 256 = high := by
    omega
  have hlow : UInt8.ofNat (256 * high + low) = UInt8.ofNat low := by
    apply UInt8.toNat_inj.mp
    rw [UInt8.toNat_ofNat', UInt8.toNat_ofNat']
    omega
  show [UInt8.ofNat (256 * high + low),
    UInt8.ofNat ((256 * high + low) / 256)] = _
  rw [hdiv, hlow]

theorem leBytes_complement {w : Nat} (h : w ≤ 65535) :
    leBytes 2 (65535 - w) = beBytes 2 (65535 - swapBytes w) := by
  have hword : 65535 - w = 256 * (255 - w / 256) + (255 - w % 256) := by
    omega
  have hswap : 65535 - swapBytes w =
      256 * (255 - w % 256) + (255 - w / 256) := by
    rw [swapBytes]
    omega
  have hlow : 255 - w % 256 ≤ 255 := Nat.sub_le 255 _
  have hhigh : 255 - w / 256 ≤ 255 := Nat.sub_le 255 _
  rw [beBytes, hword, hswap, leBytes_two hlow, leBytes_two hhigh]
  rfl

/-!
## The accumulator and its two folds
-/

theorem csumLoop_exact {bs : List UInt8} (h : bs.length < 65536) :
    (csumLoop 0 bs).toNat = (leWords bs).sum := by
  have hbound := leWords_sum_le bs
  have hroom : (0 : UInt32).toNat + (leWords bs).sum < 4294967296 := by
    rw [UInt32.toNat_zero]
    omega
  rw [csumLoop_toNat hroom, UInt32.toNat_zero, Nat.zero_add]

/-- The low half after two folds is zero for a zero accumulator only. -/
theorem csumFold_eq_zero {sum : UInt32}
    (h : (csumFold sum).toNat % 65536 = 0) : sum.toNat = 0 := by
  have hlt := sum.toNat_lt
  have hfirst := csumFold_step sum
  have hcarry : forall s : UInt32, (s >>> 16).toNat = s.toNat / 65536 := by
    intro s
    simp [UInt32.toNat_shiftRight, Nat.shiftRight_eq_div_pow]
  have hhalves : sum.toNat / 65536 + sum.toNat % 65536 ≤ 131070 := by
    omega
  rw [csumFold, UInt32.toNat_add, hcarry, hfirst] at h
  have hcases :
      (sum.toNat / 65536 + sum.toNat % 65536) / 65536 = 0 ∨
        (sum.toNat / 65536 + sum.toNat % 65536) / 65536 = 1 := by
    omega
  cases hcases with
  | inl hnone =>
      rw [hnone] at h
      omega
  | inr hone =>
      rw [hone] at h
      omega

/-- Two folds leave the whole one's complement sum in the low half. -/
theorem csumFold_onesSum {bs : List UInt8} (h : bs.length < 65536) :
    (csumFold (csumLoop 0 bs)).toNat % 65536 = onesSum 65535 (leWords bs) := by
  have hloop := csumLoop_exact h
  rcases csumFold_toNat (csumLoop 0 bs) with ⟨k, hk⟩
  rw [hloop] at hk
  symm
  apply onesSum_eq (leWords_le bs)
  · omega
  · omega
  · constructor
    · intro hzero
      rw [<- hloop]
      exact csumFold_eq_zero hzero
    · intro hzero
      omega

theorem csum_complement {bs : List UInt8} (h : bs.length < 65536) :
    (csum bs).toNat = 65535 - onesSum 65535 (leWords bs) := by
  have hlt := (csumFold (csumLoop 0 bs)).toNat_lt
  rw [<- csumFold_onesSum h, csum, UInt32.toNat_toUInt16, UInt32.toNat_not]
  show (4294967296 - 1 - _) % 65536 = _
  omega

theorem csum_internetChecksum {bs : List UInt8} (h : bs.length < 65536) :
    leBytes 2 (csum bs).toNat = beBytes 2 (internetChecksum bs) := by
  have hle : onesSum 65535 (leWords bs) ≤ 65535 := onesSum_le (leWords_le bs)
  rw [csum_complement h, internetChecksum, internetSum_swap,
    leBytes_complement hle]

/-!
## A block with its checksum stored
-/

theorem csum_stored {front back : List UInt8} (hfront : front.length % 2 = 0)
    (hlen : (front ++ [0, 0] ++ back).length < 65536) :
    csum (front ++ leBytes 2 (csum (front ++ [0, 0] ++ back)).toNat ++ back) =
      0 := by
  have hstored : (front ++
      leBytes 2 (csum (front ++ [0, 0] ++ back)).toNat ++ back).length <
        65536 := by
    simp only [List.length_append, leBytes_length] at hlen ⊢
    exact hlen
  have hsum := internetSum_csum back hfront hlen
  rw [internetSum_swap] at hsum
  have hones : onesSum 65535 (leWords (front ++
      leBytes 2 (csum (front ++ [0, 0] ++ back)).toNat ++ back)) = 65535 := by
    have hle := onesSum_le (leWords_le (front ++
      leBytes 2 (csum (front ++ [0, 0] ++ back)).toNat ++ back))
    rw [swapBytes] at hsum
    omega
  apply UInt16.toNat_inj.mp
  rw [csum_complement hstored, hones]
  rfl

/-- ip.c `csum` over every block that an `int` can measure: the accumulator is
exact after every word, two folds complete the carries, the stored result is the
Internet checksum, and a block with its checksum stored adds up to nothing. -/
theorem csum_network_order (bs : List UInt8) (h : bs.length ≤ 32767) :
    leBytes 2 (csum bs).toNat = beBytes 2 (internetChecksum bs) ∧
      (forall n : Nat, (leWords (bs.take n)).sum < 4294967296 ∧
        (csumLoop 0 (bs.take n)).toNat = (leWords (bs.take n)).sum) ∧
      (csumFold (csumLoop 0 bs)).toNat % 65536 =
        onesSum 65535 (leWords bs) ∧
      forall front back : List UInt8, bs = front ++ [0, 0] ++ back ->
        front.length % 2 = 0 ->
          csum (front ++ leBytes 2 (csum bs).toNat ++ back) = 0 := by
  have hroom : bs.length < 65536 := by
    omega
  constructor
  · exact csum_internetChecksum hroom
  constructor
  · intro n
    have htake : (bs.take n).length < 65536 := by
      rw [List.length_take]
      omega
    have hexact := csumLoop_exact htake
    have hlt := (csumLoop 0 (bs.take n)).toNat_lt
    rw [hexact] at hlt
    exact ⟨hlt, hexact⟩
  constructor
  · exact csumFold_onesSum hroom
  · intro front back hbs hfront
    rw [hbs]
    rw [hbs] at hroom
    exact csum_stored hfront hroom

/-- An odd block with a field in it. -/
theorem csum_network_order_odd :
    leBytes 2 (csum [0x45, 0, 0, 0, 0xff]).toNat = beBytes 2 0xbbfe ∧
      csum ([0x45, 0] ++ leBytes 2 (csum [0x45, 0, 0, 0, 0xff]).toNat ++
        [0xff]) = 0 := by
  have hall := csum_network_order [0x45, 0, 0, 0, 0xff] (by decide)
  constructor
  · rw [hall.1]
    decide
  · exact hall.2.2.2 [0x45, 0] [0xff] rfl (by decide)

end Ip
end Z80Tcpip
