import Z80Tcpip.Foundation.Memory

/-!
# Filling a block from its front

A block that is filled byte by byte has what has been stored so far at its front;
behind that it is as it was.
-/

namespace Z80Tcpip
namespace Foundation
namespace Memory

open Program

variable {ι : Type} {L : Layout ι}

section Filling

variable [DecidableEq ι] {m : Memory L} {v w : ι}

def filled (m : Memory L) (v : ι) (bs : List UInt8) : Memory L :=
  m.setBlock v ((m.block v).write 0 bs)

theorem filled_nil (m : Memory L) (v : ι) : m.filled v [] = m := by
  rw [filled, Buffer.write_nil, setBlock_same]

theorem filled_other (m : Memory L) (bs : List UInt8) (h : w ≠ v) :
    (m.filled v bs).block w = m.block w :=
  setBlock_other m _ h

theorem sameBut_filled (m : Memory L) (v : ι) (bs : List UInt8) :
    SameBut v m (m.filled v bs) :=
  sameBut_setBlock m v _

theorem filled_slice (m : Memory L) {bs : List UInt8}
    (h : bs.length ≤ L.size v) :
    ((m.filled v bs).block v).slice 0 bs.length = bs := by
  rw [filled, setBlock_self]
  exact (m.block v).slice_write_eq rfl (by omega)

theorem store_filled {bs : List UInt8} (c : UInt8) (hv : L.isText v = false)
    (hlen : bs.length < L.size v) :
    store (.block v bs.length) c (m.filled v bs) =
      (some (), m.filled v (bs ++ [c])) :=
  store_next hv hlen

theorem slice_succ {size : Nat} (b : Buffer size) {start i : Nat}
    (h : start + i < size) :
    b.slice start (i + 1) = b.slice start i ++ [b.get (start + i)] := by
  have hlen := b.bytes_length
  have hlast : b.slice (start + i) 1 = [b.get (start + i)] := by
    rw [Buffer.slice, Buffer.get, List.getD_eq_getElem?_getD,
      List.getElem?_eq_getElem (by omega), List.drop_eq_getElem_cons (by omega)]
    rfl
  rw [b.slice_add, hlast]

/-- A part of one block is copied behind what another one has at its front. -/
theorem each_copies {bs : List UInt8} {start n : Nat}
    (hv : L.isText v = false) (hwv : w ≠ v) (hsource : start + n ≤ L.size w)
    (hroom : bs.length + n ≤ L.size v) :
    (each (fun i => do
      let c ← load (.block w (start + i))
      store (.block v (bs.length + i)) c) (List.range' 0 n)).Returns
      (m.filled v bs)
      (fun _ m' => m' = m.filled v (bs ++ (m.block w).slice start n)) := by
  refine (returns_each_range' (fun i m' =>
    m' = m.filled v (bs ++ (m.block w).slice start i))
    (fun i m' _ hi hm' => ?_) ?_).mono (fun _ m' hm' => ?_)
  case refine_2 =>
    show m.filled v bs = m.filled v (bs ++ [])
    rw [List.append_nil]
  case refine_3 => rwa [Nat.zero_add] at hm'
  subst hm'
  rw [Nat.zero_add] at hi
  have hfront : (bs ++ (m.block w).slice start i).length = bs.length + i := by
    rw [List.length_append, Buffer.slice_length _ (by omega)]
  have hload := load_block
    (m := m.filled v (bs ++ (m.block w).slice start i)) (v := w)
    (show start + i < L.size w by omega)
  rw [filled_other m _ hwv] at hload
  have hnext : (bs ++ (m.block w).slice start i).length < L.size v := by
    omega
  have hstore := store_filled (m := m) ((m.block w).get (start + i)) hv hnext
  rw [hfront, List.append_assoc, <- slice_succ _ (by omega)] at hstore
  exact returns_bind_of_eq hload (returns_of_eq hstore rfl)

/-- The same byte again and again. -/
theorem each_repeats {bs : List UInt8} {n : Nat} (c : UInt8)
    (hv : L.isText v = false) (hroom : bs.length + n ≤ L.size v) :
    (each (fun i => store (.block v i) c)
      (List.range' bs.length n)).Returns (m.filled v bs)
      (fun _ m' => m' = m.filled v (bs ++ List.replicate n c)) := by
  refine (returns_each_range' (fun i m' =>
    m' = m.filled v (bs ++ List.replicate (i - bs.length) c))
    (fun i m' hlow hi hm' => ?_) ?_).mono (fun _ m' hm' => ?_)
  case refine_2 =>
    rw [Nat.sub_self]
    show m.filled v bs = m.filled v (bs ++ [])
    rw [List.append_nil]
  case refine_3 => rwa [Nat.add_sub_cancel_left] at hm'
  subst hm'
  have hfront : (bs ++ List.replicate (i - bs.length) c).length = i := by
    rw [List.length_append, List.length_replicate]
    omega
  have hnext :
      (bs ++ List.replicate (i - bs.length) c).length < L.size v := by
    omega
  have hstore := store_filled (m := m) c hv hnext
  rw [hfront, List.append_assoc, <- List.replicate_succ',
    show i - bs.length + 1 = i + 1 - bs.length by omega] at hstore
  exact returns_of_eq hstore rfl

end Filling

end Memory
end Foundation
end Z80Tcpip
