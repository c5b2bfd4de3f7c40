import Z80Tcpip.Foundation.Buffer
import Z80Tcpip.Platform
import Z80Tcpip.Slip.Codec

/-!
# The Spectrum's SLIP decoder

`recv_packet` in slip.c hunts for an END within its read budget and then reads
until a non-empty frame is closed.  It ignores the status of `rs232_get`, so a
read that times out acts on the byte that is still in `c`.

The serial line is the list of results of the successive `rs232_get` calls.
A call that exhausts the list has not returned yet.
-/

namespace Z80Tcpip
namespace Slip

open Foundation

/-- The results of successive `rs232_get` calls: a byte, or a timeout. -/
abbrev Line := List (Option UInt8)

/-- `rs232_get(&c)`: a timeout leaves `c` unchanged. -/
def rs232Get (c : UInt8) : Option UInt8 -> UInt8
  | some b => b
  | none => c

/-- The first loop of `recv_packet`, with whether it left on an END.  The
counter is an `int` of the Z80 compiler, 16 bits wide. -/
def waitEnd (timeout : Int16) (c : UInt8) : Line -> Option (Bool × Line)
  | [] => if timeout - 1 = 0 then some (false, []) else none
  | ev :: rest =>
      if timeout - 1 = 0 then some (false, ev :: rest)
      else if rs232Get c ev = END then some (true, rest)
      else waitEnd (timeout - 1) (rs232Get c ev) rest

/-- `if (received < len) p[received++] = c;` -/
def storeByte {len : Nat} (p : Buffer len) (received : Nat) (c : UInt8) :
    Buffer len × Nat :=
  if received < len then (p.put received c, received + 1) else (p, received)

/-- The inner `switch`: a byte after ESC that is no code stores nothing. -/
def storeCode (slipEsc00 : Bool) {len : Nat} (p : Buffer len)
    (received : Nat) (c : UInt8) : Buffer len × Nat :=
  if slipEsc00 = true ∧ c = ESC_ZER then storeByte p received ZER
  else if c = ESC_END then storeByte p received END
  else if c = ESC_ESC then storeByte p received ESC
  else (p, received)

/-- The second loop of `recv_packet`. -/
def recvFrame (slipEsc00 : Bool) {len : Nat} (p : Buffer len)
    (received : Nat) (c : UInt8) : Line -> Option (Nat × Buffer len × Line)
  | [] => none
  | ev :: rest =>
      if rs232Get c ev = END then
        if received ≠ 0 then some (received, p, rest)
        else recvFrame slipEsc00 p received (rs232Get c ev) rest
      else if rs232Get c ev = ESC then
        match rest with
        | [] => none
        | ev' :: rest' =>
            let stored :=
              storeCode slipEsc00 p received (rs232Get (rs232Get c ev) ev')
            recvFrame slipEsc00 stored.1 stored.2
              (rs232Get (rs232Get c ev) ev') rest'
      else
        let stored := storeByte p received (rs232Get c ev)
        recvFrame slipEsc00 stored.1 stored.2 (rs232Get c ev) rest

/-- slip.c `recv_packet` on a buffer of `len` bytes: the returned value, the
buffer and the rest of the line. -/
def recvPacket (P : Platform) {len : Nat} (p : Buffer len) (timeout : Int16)
    (line : Line) : Option (Int × Buffer len × Line) :=
  match waitEnd timeout 0 line with
  | none => none
  | some (false, rest) => some (-(P.eagain : Int), p, rest)
  | some (true, rest) =>
      match recvFrame P.slipEsc00 p 0 END rest with
      | none => none
      | some (received, p', rest') => some ((received : Int), p', rest')

/-!
## The read budget
-/

/-- How many reads the first loop makes when no END arrives. -/
def reads (timeout : Int16) : Nat :=
  (timeout - 1).toBitVec.toNat

theorem reads_eq (timeout : Int16) :
    reads timeout = (timeout.toBitVec.toNat + 65535) % 65536 := by
  have h : reads timeout = (timeout.toBitVec - 1#16).toNat := rfl
  rw [h, BitVec.toNat_sub]
  show (2 ^ 16 - 1 + timeout.toBitVec.toNat) % 2 ^ 16 = _
  omega

theorem reads_eq_zero_iff (timeout : Int16) :
    reads timeout = 0 <-> timeout - 1 = 0 := by
  constructor
  · intro h
    apply Int16.toBitVec_inj.mp
    apply BitVec.eq_of_toNat_eq
    exact h
  · intro h
    rw [reads, h]
    rfl

theorem reads_pred {timeout : Int16} (h : timeout - 1 ≠ 0) :
    reads (timeout - 1) + 1 = reads timeout := by
  have hne : reads timeout ≠ 0 := by
    intro hzero
    exact h ((reads_eq_zero_iff timeout).mp hzero)
  have hlt : reads timeout < 65536 := (timeout - 1).toBitVec.isLt
  have hpred : reads (timeout - 1) = (reads timeout + 65535) % 65536 :=
    reads_eq (timeout - 1)
  omega

theorem int16_toInt_eq (x : Int16) :
    x.toInt =
      if 2 * x.toBitVec.toNat < 65536 then (x.toBitVec.toNat : Int)
      else x.toBitVec.toNat - 65536 :=
  BitVec.toInt_eq_toNat_cond x.toBitVec

theorem reads_of_pos {timeout : Int16} (h : 1 ≤ timeout.toInt) :
    (reads timeout : Int) = timeout.toInt - 1 := by
  have hlt := timeout.toBitVec.isLt
  rw [int16_toInt_eq] at h ⊢
  rw [reads_eq]
  split_ifs at h ⊢ <;> omega

/-- A counter that starts at or below zero wraps around: at least one read. -/
theorem reads_of_nonpos {timeout : Int16} (h : timeout.toInt ≤ 0) :
    1 ≤ reads timeout := by
  have hlt := timeout.toBitVec.isLt
  rw [int16_toInt_eq] at h
  rw [reads_eq]
  split_ifs at h <;> omega

/-!
## Waiting for END
-/

theorem waitEnd_exhausted {timeout : Int16} {c : UInt8} {line : Line}
    (h : reads timeout = 0) : waitEnd timeout c line = some (false, line) := by
  have hzero := (reads_eq_zero_iff timeout).mp h
  cases line <;> rw [waitEnd, if_pos hzero]

theorem waitEnd_cons {timeout : Int16} {c : UInt8} (ev : Option UInt8)
    (rest : Line) (h : reads timeout ≠ 0) :
    waitEnd timeout c (ev :: rest) =
      if rs232Get c ev = END then some (true, rest)
      else waitEnd (timeout - 1) (rs232Get c ev) rest := by
  rw [waitEnd, if_neg]
  intro hzero
  exact h ((reads_eq_zero_iff timeout).mpr hzero)

/-- Idle reads and stray bytes before the first END, within the budget. -/
theorem waitEnd_junk_end {timeout : Int16} {c : UInt8} {junk : Line}
    (rest : Line) (hc : c ≠ END) (hjunk : some END ∉ junk)
    (hlen : junk.length < reads timeout) :
    waitEnd timeout c (junk ++ some END :: rest) = some (true, rest) := by
  induction junk generalizing timeout c with
  | nil =>
      rw [List.nil_append, waitEnd_cons _ _ (by omega)]
      rfl
  | cons ev more ih =>
      rw [List.length_cons] at hlen
      have hne : reads timeout ≠ 0 := by omega
      have hpred := reads_pred
        (fun hzero => hne ((reads_eq_zero_iff timeout).mpr hzero))
      have hget : rs232Get c ev ≠ END := by
        cases ev with
        | none => exact hc
        | some b =>
            intro hb
            apply hjunk
            rw [show b = END from hb]
            exact List.mem_cons_self
      rw [List.cons_append, waitEnd_cons _ _ hne, if_neg hget]
      apply ih hget
      · intro hmem
        exact hjunk (List.mem_cons_of_mem ev hmem)
      · omega

/-!
## The frame automaton

Unrolled to one byte a step, the second loop keeps the bytes decoded so far
and whether the next byte is read by the inner `switch`.
-/

structure Rx where
  escaped : Bool
  decoded : List UInt8
  deriving DecidableEq

def Rx.start : Rx where
  escaped := false
  decoded := []

/-- One byte; `none` when it closes the frame. -/
def Rx.feed (slipEsc00 : Bool) (s : Rx) (b : UInt8) : Option Rx :=
  if s.escaped = true then
    some { escaped := false
           decoded := s.decoded ++ (slipUncode slipEsc00 b).toList }
  else if b = END then
    if s.decoded = [] then some s else none
  else if b = ESC then
    some { s with escaped := true }
  else
    some { s with decoded := s.decoded ++ [b] }

def scan (slipEsc00 : Bool) (s : Rx) (c : UInt8) :
    Line -> Option (List UInt8 × Line)
  | [] => none
  | ev :: rest =>
      match s.feed slipEsc00 (rs232Get c ev) with
      | none => some (s.decoded, rest)
      | some s' => scan slipEsc00 s' (rs232Get c ev) rest

/-- What the loop has in hand once `d` has been decoded: the part of `d` that
fits, and its length. -/
def kept {len : Nat} (p : Buffer len) (d : List UInt8) : Buffer len × Nat :=
  (p.write 0 (d.take len), (d.take len).length)

theorem kept_of_le {len : Nat} (p : Buffer len) {d : List UInt8}
    (h : d.length ≤ len) : kept p d = (p.write 0 d, d.length) := by
  rw [kept, List.take_of_length_le h]

theorem kept_append_of_ge {len : Nat} (p : Buffer len) {d : List UInt8}
    (more : List UInt8) (h : len ≤ d.length) :
    kept p (d ++ more) = kept p d := by
  rw [kept, kept, List.take_append_of_le_length h]

theorem storeByte_kept {len : Nat} (p : Buffer len) (d : List UInt8)
    (c : UInt8) :
    storeByte (kept p d).1 (kept p d).2 c = kept p (d ++ [c]) := by
  by_cases h : d.length < len
  · have hdc : (d ++ [c]).length ≤ len := by
      rw [List.length_append, List.length_singleton]
      exact h
    rw [kept_of_le p (Nat.le_of_lt h), kept_of_le p hdc, storeByte, if_pos h,
      p.write_put c h, List.length_append, List.length_singleton]
  · have hfull : ¬ (kept p d).2 < len := by
      simp only [kept, List.length_take]
      omega
    rw [kept_append_of_ge p [c] (Nat.le_of_not_lt h), storeByte, if_neg hfull]

theorem storeCode_kept (slipEsc00 : Bool) {len : Nat} (p : Buffer len)
    (d : List UInt8) (c : UInt8) :
    storeCode slipEsc00 (kept p d).1 (kept p d).2 c =
      kept p (d ++ (slipUncode slipEsc00 c).toList) := by
  unfold storeCode slipUncode
  split_ifs
  · exact storeByte_kept p d ZER
  · exact storeByte_kept p d END
  · exact storeByte_kept p d ESC
  · simp

theorem kept_length_ne_zero {len : Nat} (hlen : 1 ≤ len) (p : Buffer len)
    (d : List UInt8) : (kept p d).2 ≠ 0 <-> d ≠ [] := by
  simp only [kept, List.length_take]
  cases d with
  | nil => simp
  | cons b rest =>
      simp
      omega

/-- The nested reads of the second loop are the automaton, cut to the buffer
at the end. -/
theorem recvFrame_eq_scan (slipEsc00 : Bool) {len : Nat} (hlen : 1 ≤ len)
    (p : Buffer len) :
    forall (line : Line) (d : List UInt8) (c : UInt8),
      recvFrame slipEsc00 (kept p d).1 (kept p d).2 c line =
        (scan slipEsc00 { escaped := false, decoded := d } c line).map
          (fun r => ((kept p r.1).2, (kept p r.1).1, r.2))
  | [], _d, _c => rfl
  | ev :: rest, d, c => by
      rw [recvFrame.eq_def, scan]
      simp only
      by_cases hend : rs232Get c ev = END
      · rw [if_pos hend]
        by_cases hd : d = []
        · have hzero : ¬ (kept p d).2 ≠ 0 :=
            fun h => (kept_length_ne_zero hlen p d).mp h hd
          rw [if_neg hzero, recvFrame_eq_scan slipEsc00 hlen p rest d]
          simp [Rx.feed, hend, hd]
        · have hpos := (kept_length_ne_zero hlen p d).mpr hd
          rw [if_pos hpos]
          simp [Rx.feed, hend, hd]
      · rw [if_neg hend]
        by_cases hesc : rs232Get c ev = ESC
        · rw [if_pos hesc]
          cases rest with
          | nil => simp [Rx.feed, hesc, scan]
          | cons ev' rest' =>
              have ih := recvFrame_eq_scan slipEsc00 hlen p rest'
                (d ++ (slipUncode slipEsc00
                  (rs232Get (rs232Get c ev) ev')).toList)
                (rs232Get (rs232Get c ev) ev')
              rw [← storeCode_kept] at ih
              simp only [ih]
              simp [Rx.feed, hesc, scan]
        · rw [if_neg hesc]
          have ih := recvFrame_eq_scan slipEsc00 hlen p rest
            (d ++ [rs232Get c ev]) (rs232Get c ev)
          rw [← storeByte_kept] at ih
          simp only [ih]
          simp [Rx.feed, hend, hesc]

theorem kept_nil {len : Nat} (p : Buffer len) : kept p [] = (p, 0) := by
  rw [kept, List.take_nil, p.write_nil, List.length_nil]

theorem recvPacket_eq_scan (P : Platform) {len : Nat} (hlen : 1 ≤ len)
    (p : Buffer len) (timeout : Int16) {line rest : Line}
    (hwait : waitEnd timeout 0 line = some (true, rest)) :
    recvPacket P p timeout line =
      (scan P.slipEsc00 Rx.start END rest).map
        (fun r => (((r.1.take len).length : Int), p.write 0 (r.1.take len),
          r.2)) := by
  have hframe := recvFrame_eq_scan P.slipEsc00 hlen p rest [] END
  rw [kept_nil] at hframe
  rw [recvPacket, hwait]
  simp only [hframe]
  cases hscan : scan P.slipEsc00 { escaped := false, decoded := [] } END rest
    with
  | none => simp [Rx.start, hscan]
  | some r => simp [Rx.start, hscan, kept]

end Slip
end Z80Tcpip
