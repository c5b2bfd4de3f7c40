import Mathlib.Data.List.Basic
import Mathlib.Tactic.Ring

/-!
# Machine words in memory

The machine is little-endian, the network is big-endian.  Words are stored as
their `k` low bytes; the byte order conversions reverse these bytes.
-/

namespace Z80Tcpip
namespace Foundation

/-- The `k` low bytes of `n`, least significant first. -/
def leBytes : Nat -> Nat -> List UInt8
  | 0, _ => []
  | k + 1, n => UInt8.ofNat n :: leBytes k (n / 256)

def readLE : List UInt8 -> Nat
  | [] => 0
  | b :: rest => b.toNat + 256 * readLE rest

def beBytes (k n : Nat) : List UInt8 :=
  (leBytes k n).reverse

def readBE (bs : List UInt8) : Nat :=
  readLE bs.reverse

@[simp] theorem leBytes_length (k n : Nat) : (leBytes k n).length = k := by
  induction k generalizing n with
  | zero => rfl
  | succ k ih => rw [leBytes, List.length_cons, ih]

@[simp] theorem beBytes_length (k n : Nat) : (beBytes k n).length = k := by
  rw [beBytes, List.length_reverse, leBytes_length]

theorem readLE_lt (bs : List UInt8) : readLE bs < 256 ^ bs.length := by
  induction bs with
  | nil => simp [readLE]
  | cons b rest ih =>
      have hb := b.toNat_lt
      rw [readLE, List.length_cons, Nat.pow_succ]
      omega

theorem readLE_leBytes {k n : Nat} (h : n < 256 ^ k) :
    readLE (leBytes k n) = n := by
  induction k generalizing n with
  | zero =>
      have hn : n = 0 := by simpa using h
      rw [hn]
      rfl
  | succ k ih =>
      have hdiv : n / 256 < 256 ^ k := by
        rw [Nat.pow_succ] at h
        omega
      rw [leBytes, readLE, ih hdiv]
      simp only [UInt8.toNat_ofNat']
      omega

theorem leBytes_readLE (bs : List UInt8) :
    leBytes bs.length (readLE bs) = bs := by
  induction bs with
  | nil => rfl
  | cons b rest ih =>
      have hb := b.toNat_lt
      have hdiv : (b.toNat + 256 * readLE rest) / 256 = readLE rest := by
        omega
      have hhead : UInt8.ofNat (b.toNat + 256 * readLE rest) = b := by
        apply UInt8.toNat_inj.mp
        rw [UInt8.toNat_ofNat']
        omega
      rw [List.length_cons, readLE, leBytes, hdiv, ih, hhead]

theorem readBE_beBytes {k n : Nat} (h : n < 256 ^ k) :
    readBE (beBytes k n) = n := by
  rw [readBE, beBytes, List.reverse_reverse, readLE_leBytes h]

/-!
## Byte order of 16 and 32 bit words
-/

def htons (x : UInt16) : UInt16 :=
  UInt16.ofNat (readBE (leBytes 2 x.toNat))

def htonl (x : UInt32) : UInt32 :=
  UInt32.ofNat (readBE (leBytes 4 x.toNat))

theorem readBE_lt (bs : List UInt8) : readBE bs < 256 ^ bs.length := by
  have h := readLE_lt bs.reverse
  rwa [List.length_reverse] at h

theorem leBytes_readBE (bs : List UInt8) :
    leBytes bs.length (readBE bs) = bs.reverse := by
  have h := leBytes_readLE bs.reverse
  rwa [List.length_reverse] at h

/-- A word swapped by `htons` and stored by the machine is in network order. -/
theorem leBytes_htons (x : UInt16) :
    leBytes 2 (htons x).toNat = beBytes 2 x.toNat := by
  have hlt := readBE_lt (leBytes 2 x.toNat)
  have hle := leBytes_readBE (leBytes 2 x.toNat)
  rw [leBytes_length] at hlt hle
  rw [htons, UInt16.toNat_ofNat', Nat.mod_eq_of_lt (by simpa using hlt), hle]
  rfl

theorem leBytes_htonl (x : UInt32) :
    leBytes 4 (htonl x).toNat = beBytes 4 x.toNat := by
  have hlt := readBE_lt (leBytes 4 x.toNat)
  have hle := leBytes_readBE (leBytes 4 x.toNat)
  rw [leBytes_length] at hlt hle
  rw [htonl, UInt32.toNat_ofNat', Nat.mod_eq_of_lt (by simpa using hlt), hle]
  rfl

/-- A word loaded by the machine and swapped by `htonl` is read in network
order. -/
theorem htonl_load (bs : List UInt8) (h : bs.length = 4) :
    (htonl (UInt32.ofNat (readLE bs))).toNat = readBE bs := by
  have hlt := readLE_lt bs
  have hbe := readBE_lt bs
  rw [h] at hlt hbe
  have hbytes := leBytes_readLE bs
  rw [h] at hbytes
  rw [htonl, UInt32.toNat_ofNat', UInt32.toNat_ofNat',
    Nat.mod_eq_of_lt (a := readLE bs) (by simpa using hlt), hbytes,
    Nat.mod_eq_of_lt (by simpa using hbe)]

end Foundation
end Z80Tcpip
