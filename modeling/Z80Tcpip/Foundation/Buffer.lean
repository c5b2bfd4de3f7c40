import Mathlib.Tactic.SplitIfs

/-!
# Byte buffers of a fixed size

A buffer carries its size, so writes cannot grow it.  `write` is `memcpy` into
the buffer, `put` stores one element, `slice` reads a block back.  The frame
laws say which slices a write changes.
-/

namespace Z80Tcpip
namespace Foundation

structure Buffer (size : Nat) where
  bytes : List UInt8
  bytes_length : bytes.length = size
  deriving DecidableEq

namespace Buffer

variable {size : Nat}

attribute [simp] bytes_length

def put (p : Buffer size) (i : Nat) (c : UInt8) : Buffer size where
  bytes := p.bytes.set i c
  bytes_length := by rw [List.length_set, p.bytes_length]

/-- Store `bs` at offset `off`; what does not fit is cut off. -/
def write (p : Buffer size) (off : Nat) (bs : List UInt8) : Buffer size where
  bytes := (p.bytes.take off ++ bs ++ p.bytes.drop (off + bs.length)).take size
  bytes_length := by
    have hp := p.bytes_length
    simp only [List.length_take, List.length_append, List.length_drop]
    omega

def slice (p : Buffer size) (off len : Nat) : List UInt8 :=
  (p.bytes.drop off).take len

def get (p : Buffer size) (i : Nat) : UInt8 :=
  p.bytes.getD i 0

theorem ext {p q : Buffer size} (h : p.bytes = q.bytes) : p = q := by
  cases p
  cases q
  simp only at h
  subst h
  rfl

/-!
## Reading slices
-/

theorem slice_length (p : Buffer size) {off len : Nat}
    (h : off + len ≤ size) : (p.slice off len).length = len := by
  rw [slice, List.length_take, List.length_drop, p.bytes_length]
  omega

theorem slice_add (p : Buffer size) (off a b : Nat) :
    p.slice off (a + b) = p.slice off a ++ p.slice (off + a) b := by
  unfold slice
  rw [List.take_add, List.drop_drop]

/-- The rest of a block behind a front part of known length. -/
theorem slice_drop_front {p : Buffer size} {off k n : Nat}
    {front back : List UInt8} (hslice : p.slice off (k + n) = front ++ back)
    (hfront : front.length = k) (h : off + k ≤ size) :
    p.slice (off + k) n = back := by
  rw [p.slice_add] at hslice
  exact (List.append_inj hslice (by rw [p.slice_length h, hfront])).right

/-!
## Frame laws
-/

theorem write_bytes (p : Buffer size) {off : Nat} {bs : List UInt8}
    (h : off + bs.length ≤ size) :
    (p.write off bs).bytes =
      p.bytes.take off ++ bs ++ p.bytes.drop (off + bs.length) := by
  apply List.take_of_length_le
  have hp := p.bytes_length
  simp only [List.length_take, List.length_append, List.length_drop]
  omega

/-- Every slice inside the written block reads the block. -/
theorem slice_write_within (p : Buffer size) {off k len : Nat}
    {bs : List UInt8} (h : off + bs.length ≤ size) (hk : k + len ≤ bs.length) :
    (p.write off bs).slice (off + k) len = (bs.drop k).take len := by
  have hp := p.bytes_length
  have htake : (p.bytes.take off).length = off := by
    rw [List.length_take]
    omega
  have hdrop : ((p.bytes.take off ++ bs) ++
      p.bytes.drop (off + bs.length)).drop (off + k) =
        bs.drop k ++ p.bytes.drop (off + bs.length) := by
    rw [List.append_assoc, List.drop_append, htake,
      List.drop_eq_nil_of_le (by omega), List.nil_append,
      Nat.add_sub_cancel_left, List.drop_append_of_le_length (by omega)]
  rw [slice, p.write_bytes h, hdrop]
  apply List.take_append_of_le_length
  rw [List.length_drop]
  omega

theorem slice_write_self (p : Buffer size) {off : Nat} {bs : List UInt8}
    (h : off + bs.length ≤ size) :
    (p.write off bs).slice off bs.length = bs := by
  have hwithin := p.slice_write_within (k := 0) h
    (Nat.le_of_eq (Nat.zero_add bs.length))
  rwa [Nat.add_zero, List.drop_zero, List.take_length] at hwithin

/-- A slice after a block has been stored at the front. -/
theorem slice_write_front (p : Buffer size) {bs : List UInt8}
    (h : bs.length ≤ size) (off len : Nat) :
    (p.write 0 bs).slice off len =
      (bs.drop off).take len ++ (p.slice off len).drop (bs.length - off) := by
  have hstart : bs.length + (off - bs.length) = off + (bs.length - off) := by
    omega
  unfold slice
  rw [p.write_bytes (by omega), List.take_zero, List.nil_append, Nat.zero_add,
    List.drop_append, List.take_append, List.length_drop, List.drop_take,
    List.drop_drop, List.drop_drop, hstart]

/-- What has been stored at the front can be told from the buffer. -/
theorem write_front_inj {p : Buffer size} {bs bs' : List UInt8}
    (hlen : bs.length = bs'.length) (h : bs'.length ≤ size)
    (heq : p.write 0 bs = p.write 0 bs') : bs = bs' := by
  have hslice : (p.write 0 bs).slice 0 bs.length =
      (p.write 0 bs').slice 0 bs'.length := by
    rw [heq, hlen]
  rwa [p.slice_write_self (by omega), p.slice_write_self (by omega)] at hslice

theorem slice_write_before (p : Buffer size) {off at' len : Nat}
    (bs : List UInt8) (h : at' + len ≤ off) :
    (p.write off bs).slice at' len = p.slice at' len := by
  have hp := p.bytes_length
  have hlen : (p.bytes.drop at').length = size - at' := by
    rw [List.length_drop, hp]
  have hgap : min len (size - at') -
      ((p.bytes.drop at').take (off - at')).length = 0 := by
    rw [List.length_take, hlen]
    omega
  unfold slice write
  simp only [List.append_assoc]
  rw [List.drop_take, List.take_take, List.drop_append, List.take_append,
    List.drop_take, List.take_take, hgap, List.take_zero, List.append_nil,
    List.take_eq_take_iff, hlen]
  omega

theorem slice_write_after (p : Buffer size) {off at' len : Nat}
    (bs : List UInt8) (h : off + bs.length ≤ at') :
    (p.write off bs).slice at' len = p.slice at' len := by
  have hp := p.bytes_length
  by_cases hfit : off + bs.length ≤ size
  · have hfront : (p.bytes.take off ++ bs).length = off + bs.length := by
      rw [List.length_append, List.length_take]
      omega
    unfold slice
    rw [p.write_bytes hfit, List.drop_append, hfront,
      List.drop_eq_nil_of_le (by rw [hfront]; exact h), List.nil_append,
      List.drop_drop]
    congr 2
    omega
  · have hpast : forall q : Buffer size, q.slice at' len = [] := by
      intro q
      have hq := q.bytes_length
      rw [slice, List.drop_eq_nil_of_le (by omega), List.take_nil]
    rw [hpast, hpast]

theorem slice_write_eq (p : Buffer size) {off len : Nat} {bs : List UInt8}
    (hlen : len = bs.length) (h : off + bs.length ≤ size) :
    (p.write off bs).slice off len = bs := by
  rw [hlen, p.slice_write_self h]

theorem slice_write_replicate (p : Buffer size) {off at' len m : Nat}
    (b : UInt8) (hfront : off ≤ at') (hback : at' + len ≤ off + m)
    (h : off + m ≤ size) :
    (p.write off (List.replicate m b)).slice at' len = List.replicate len b := by
  have hlen : (List.replicate m b).length = m := List.length_replicate
  have hwithin : (p.write off (List.replicate m b)).slice
      (off + (at' - off)) len =
        ((List.replicate m b).drop (at' - off)).take len :=
    p.slice_write_within (by rw [hlen]; exact h) (by rw [hlen]; omega)
  rw [Nat.add_sub_cancel' hfront] at hwithin
  rw [hwithin, List.drop_replicate, List.take_replicate]
  congr 1
  omega

/-- Rewriting the middle part of a block. -/
theorem slice_write_middle {p : Buffer size} {off len : Nat} (at' : Nat)
    {front old back : List UInt8}
    (hslice : p.slice off len = front ++ old ++ back) (new : List UInt8)
    (hnew : new.length = old.length) (hat : at' = off + front.length)
    (h : off + len ≤ size) :
    (p.write at' new).slice off len = front ++ new ++ back := by
  have hlen := congrArg List.length hslice
  rw [p.slice_length h] at hlen
  simp only [List.length_append] at hlen
  have hsplit : forall q : Buffer size, q.slice off len =
      q.slice off front.length ++ q.slice at' old.length ++
        q.slice (at' + old.length) back.length := by
    intro q
    rw [hlen, q.slice_add, q.slice_add, hat, Nat.add_assoc]
  rw [hsplit] at hslice
  have houter := List.append_inj' hslice (p.slice_length (by omega))
  have hinner := List.append_inj houter.1 (p.slice_length (by omega))
  rw [hsplit, p.slice_write_before new (by omega),
    p.slice_write_eq hnew.symm (by omega),
    p.slice_write_after new (by omega), hinner.1, houter.2]

/-- Storing one byte is writing a block of one. -/
theorem put_eq_write (p : Buffer size) {i : Nat} (c : UInt8) (h : i < size) :
    p.put i c = p.write i [c] := by
  apply ext
  have hp := p.bytes_length
  rw [p.write_bytes (by simp; omega)]
  show p.bytes.set i c = _
  rw [List.set_eq_take_append_cons_drop, if_pos (by omega), List.append_assoc]
  rfl

/-- The next byte behind a block that has been filled from the front. -/
theorem slice_put_next (p : Buffer size) {n : Nat} (c : UInt8)
    (h : n < size) : (p.put n c).slice 0 (n + 1) = p.slice 0 n ++ [c] := by
  have hlen : 1 = [c].length := rfl
  have hroom : n + [c].length ≤ size := h
  rw [p.put_eq_write c h, slice_add, Nat.zero_add,
    p.slice_write_before [c] (by omega), p.slice_write_eq hlen hroom]

theorem slice_dropLast (p : Buffer size) {n : Nat} (hn : n < size) :
    p.slice 0 (n - 1) = (p.slice 0 n).dropLast := by
  have hlen : n < p.bytes.length := by
    rw [p.bytes_length]
    exact hn
  rw [slice, slice, List.drop_zero, List.dropLast_take hlen]

theorem write_nil (p : Buffer size) (off : Nat) : p.write off [] = p := by
  apply ext
  have hp := p.bytes_length
  simp only [write, List.append_nil, List.length_nil, Nat.add_zero,
    List.take_append_drop]
  exact List.take_of_length_le (Nat.le_of_eq hp)

/-- Storing the next byte extends a block written at the front. -/
theorem write_put (p : Buffer size) {bs : List UInt8} (c : UInt8)
    (h : bs.length < size) :
    (p.write 0 bs).put bs.length c = p.write 0 (bs ++ [c]) := by
  have hp := p.bytes_length
  apply ext
  show (p.write 0 bs).bytes.set bs.length c = (p.write 0 (bs ++ [c])).bytes
  rw [p.write_bytes (by omega), p.write_bytes (by simp; omega)]
  simp only [List.take_zero, List.nil_append, Nat.zero_add, List.length_append,
    List.length_singleton]
  have hdrop : p.bytes.drop bs.length =
      p.bytes[bs.length] :: p.bytes.drop (bs.length + 1) :=
    List.drop_eq_getElem_cons (by omega)
  rw [List.set_append_right _ _ (Nat.le_refl _), Nat.sub_self, hdrop,
    List.set_cons_zero, List.append_assoc]
  rfl

end Buffer

/-!
## Fields of a block
-/

def field (bs : List UInt8) (off len : Nat) : List UInt8 :=
  (bs.drop off).take len

theorem field_skip {front : List UInt8} (back : List UInt8) {off len : Nat}
    (h : front.length ≤ off) :
    field (front ++ back) off len = field back (off - front.length) len := by
  rw [field, List.drop_append, List.drop_eq_nil_of_le h]
  rfl

theorem field_head {front : List UInt8} (back : List UInt8) {len : Nat}
    (h : len = front.length) : field (front ++ back) 0 len = front := by
  rw [field, List.drop_zero, h, List.take_left]

theorem field_all {bs : List UInt8} {len : Nat} (h : len = bs.length) :
    field bs 0 len = bs := by
  rw [field, List.drop_zero, h, List.take_length]

theorem field_add (bs : List UInt8) (off a b : Nat) :
    field bs off (a + b) = field bs off a ++ field bs (off + a) b := by
  unfold field
  rw [List.take_add, List.drop_drop]

/-- Cutting a block behind a field leaves the field alone. -/
theorem field_take (bs : List UInt8) {off len n : Nat} (h : off + len ≤ n) :
    field (bs.take n) off len = field bs off len := by
  unfold field
  rw [List.drop_take, List.take_take]
  congr 1
  omega

theorem getD_take (bs : List UInt8) {i n : Nat} (h : i < n) :
    (bs.take n).getD i 0 = bs.getD i 0 := by
  rw [List.getD_eq_getElem?_getD, List.getD_eq_getElem?_getD,
    List.getElem?_take_of_lt h]

theorem getD_of_field {bs : List UInt8} {i : Nat} {b : UInt8}
    (h : field bs i 1 = [b]) : bs.getD i 0 = b := by
  have hhead := congrArg List.head? h
  rw [field, List.head?_take, if_neg Nat.one_ne_zero, List.head?_drop] at hhead
  rw [List.getD_eq_getElem?_getD, hhead]
  rfl

/-- The fields of a block can be read from the buffer that it was stored in. -/
theorem Buffer.slice_write_field {size : Nat} (p : Buffer size)
    {bs : List UInt8} {off len : Nat} (hfit : bs.length ≤ size)
    (h : off + len ≤ bs.length) :
    (p.write 0 bs).slice off len = field bs off len := by
  have hwithin : (p.write 0 bs).slice (0 + off) len = (bs.drop off).take len :=
    p.slice_write_within (by omega) h
  rwa [Nat.zero_add] at hwithin

theorem Buffer.get_write_front {size : Nat} (p : Buffer size)
    {bs : List UInt8} {i : Nat} (hfit : bs.length ≤ size)
    (h : i < bs.length) : (p.write 0 bs).get i = bs.getD i 0 := by
  have hroom : 0 + bs.length ≤ size := by
    omega
  have hbytes := p.write_bytes hroom
  unfold Buffer.get
  rw [hbytes, List.take_zero, List.nil_append, List.getD_eq_getElem?_getD,
    List.getElem?_append_left h, List.getD_eq_getElem?_getD]

end Foundation
end Z80Tcpip
