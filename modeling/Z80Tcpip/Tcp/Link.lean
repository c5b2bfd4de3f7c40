import Z80Tcpip.Slip.RecvPacket

/-!
# What the stack relies on below

The TCP code sees the serial line through `recv_packet` only.  A link is any
source of packets with the contract of `recv_packet`: it reports `-EAGAIN` and
leaves the buffer alone, or it stores a packet at the front of the buffer and
returns its length.
-/

namespace Z80Tcpip
namespace Tcp

open Foundation
open Slip

structure Link (P : Platform) (σ : Type) where
  recvPacket : forall {len : Nat},
    Buffer len -> Int16 -> σ -> Option (Int × Buffer len × σ)
  recvPacket_spec : forall {len : Nat} {p p' : Buffer len} {timeout : Int16}
    {line line' : σ} {rc : Int},
    recvPacket p timeout line = some (rc, p', line') ->
      (rc = -(P.eagain : Int) ∧ p' = p) ∨
        exists bs : List UInt8,
          bs.length ≤ len ∧ rc = bs.length ∧ p' = p.write 0 bs

/-- What is left of a line after some calls of `recv_packet`. -/
inductive Link.Heard {P : Platform} {σ : Type} (L : Link P σ) : σ -> σ -> Prop
  | refl (line : σ) : Heard L line line
  | call {line line' rest : σ} {len : Nat} {p p' : Buffer len}
      {timeout : Int16} {rc : Int}
      (hrecv : L.recvPacket p timeout line = some (rc, p', line'))
      (hrest : Heard L line' rest) : Heard L line rest

section Heard

variable {P : Platform} {σ : Type} {L : Link P σ} {line line' rest : σ}

theorem Link.Heard.single {len : Nat} {p p' : Buffer len} {timeout : Int16}
    {rc : Int} (hrecv : L.recvPacket p timeout line = some (rc, p', line')) :
    L.Heard line line' :=
  .call hrecv (.refl line')

theorem Link.Heard.trans (h : L.Heard line line') (h' : L.Heard line' rest) :
    L.Heard line rest := by
  induction h with
  | refl => exact h'
  | call hrecv _ ih => exact .call hrecv (ih h')

end Heard

/-!
## The serial line
-/

theorem storeByte_spec {len : Nat} (p : Buffer len) {d : List UInt8}
    (c : UInt8) (h : d.length ≤ len) :
    exists d' : List UInt8, d'.length ≤ len ∧
      storeByte (p.write 0 d) d.length c = (p.write 0 d', d'.length) := by
  by_cases hroom : d.length < len
  · refine ⟨d ++ [c], by simp; omega, ?_⟩
    rw [storeByte, if_pos hroom, p.write_put c hroom, List.length_append]
    rfl
  · exact ⟨d, h, by rw [storeByte, if_neg hroom]⟩

theorem storeCode_spec (slipEsc00 : Bool) {len : Nat} (p : Buffer len)
    {d : List UInt8} (c : UInt8) (h : d.length ≤ len) :
    exists d' : List UInt8, d'.length ≤ len ∧
      storeCode slipEsc00 (p.write 0 d) d.length c =
        (p.write 0 d', d'.length) := by
  unfold storeCode
  split_ifs
  · exact storeByte_spec p ZER h
  · exact storeByte_spec p END h
  · exact storeByte_spec p ESC h
  · exact ⟨d, h, rfl⟩

/-- The second loop of `recv_packet` only ever fills the front of the buffer. -/
theorem recvFrame_spec (slipEsc00 : Bool) {len : Nat} (p : Buffer len) :
    forall (line : Line) (d : List UInt8) (c : UInt8) {n : Nat}
      {p' : Buffer len} {rest : Line},
      d.length ≤ len ->
      recvFrame slipEsc00 (p.write 0 d) d.length c line = some (n, p', rest) ->
        exists bs : List UInt8,
          bs.length ≤ len ∧ n = bs.length ∧ p' = p.write 0 bs
  | [], _, _, _, _, _, _, h => by cases h
  | ev :: rest, d, c, n, p', rest', hd, h => by
      rw [recvFrame.eq_def] at h
      simp only at h
      by_cases hend : rs232Get c ev = END
      · rw [if_pos hend] at h
        by_cases hzero : d.length ≠ 0
        · rw [if_pos hzero] at h
          cases h
          exact ⟨d, hd, rfl, rfl⟩
        · rw [if_neg hzero] at h
          exact recvFrame_spec slipEsc00 p rest d _ hd h
      · rw [if_neg hend] at h
        by_cases hesc : rs232Get c ev = ESC
        · rw [if_pos hesc] at h
          cases rest with
          | nil => cases h
          | cons ev' more =>
              rcases storeCode_spec slipEsc00 p
                (rs232Get (rs232Get c ev) ev') hd with ⟨d', hd', hstore⟩
              simp only [hstore] at h
              exact recvFrame_spec slipEsc00 p more d' _ hd' h
        · rw [if_neg hesc] at h
          rcases storeByte_spec p (rs232Get c ev) hd with ⟨d', hd', hstore⟩
          simp only [hstore] at h
          exact recvFrame_spec slipEsc00 p rest d' _ hd' h

theorem recvPacket_spec {P : Platform} {len : Nat} {p p' : Buffer len}
    {timeout : Int16} {line line' : Line} {rc : Int}
    (h : recvPacket P p timeout line = some (rc, p', line')) :
    (rc = -(P.eagain : Int) ∧ p' = p) ∨
      exists bs : List UInt8,
        bs.length ≤ len ∧ rc = bs.length ∧ p' = p.write 0 bs := by
  unfold recvPacket at h
  rcases hwait : waitEnd timeout 0 line with _ | ⟨found, rest⟩
  · rw [hwait] at h
    cases h
  · rw [hwait] at h
    cases found with
    | false =>
        cases h
        exact Or.inl ⟨rfl, rfl⟩
    | true =>
        simp only at h
        rcases hframe : recvFrame P.slipEsc00 p 0 END rest with _ | ⟨n, q, r⟩
        · rw [hframe] at h
          cases h
        · rw [hframe] at h
          cases h
          rw [← p.write_nil 0] at hframe
          rcases recvFrame_spec P.slipEsc00 p rest [] END (Nat.zero_le len)
            hframe with ⟨bs, hlen, hn, hq⟩
          exact Or.inr ⟨bs, hlen, by rw [hn], hq⟩

/-- The link over `recv_packet` of slip.c. -/
def serialLink (P : Platform) : Link P Line where
  recvPacket := fun p timeout line => recvPacket P p timeout line
  recvPacket_spec := recvPacket_spec

/-!
## Scripts
-/

/-- The packets that reach the stack one after another; `none` is a call of
`recv_packet` that times out.  When the script is over every call does. -/
abbrev Script := List (Option (List UInt8))

def scriptRecv (P : Platform) {len : Nat} (p : Buffer len) :
    Script -> Int × Buffer len × Script
  | [] => (-(P.eagain : Int), p, [])
  | none :: rest => (-(P.eagain : Int), p, rest)
  | some bs :: rest =>
      (((bs.take len).length : Int), p.write 0 (bs.take len), rest)

def scriptLink (P : Platform) : Link P Script where
  recvPacket := fun p _ line => some (scriptRecv P p line)
  recvPacket_spec := by
    intro len p p' timeout line line' rc h
    have hstep := Option.some.inj h
    cases line with
    | nil =>
        cases hstep
        exact Or.inl ⟨rfl, rfl⟩
    | cons ev rest =>
        cases ev with
        | none =>
            cases hstep
            exact Or.inl ⟨rfl, rfl⟩
        | some bs =>
            cases hstep
            refine Or.inr ⟨bs.take len, ?_, rfl, rfl⟩
            rw [List.length_take]
            omega

end Tcp
end Z80Tcpip
