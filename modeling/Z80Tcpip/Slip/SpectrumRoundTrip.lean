import Z80Tcpip.Slip.RecvPacket

/-!
# From the bridge to the Spectrum

Successive `recv_packet` calls return the packets that `slip_encode` framed,
one a call, each cut to the buffer.  Between frames the line may idle and carry
stray bytes, within the read budget of a call.
-/

namespace Z80Tcpip
namespace Slip

open Foundation

/-!
## Reading a stuffed payload
-/

@[simp] theorem rs232Get_some (c b : UInt8) : rs232Get c (some b) = b := rfl

@[simp] theorem rs232Get_none (c : UInt8) : rs232Get c none = c := rfl

theorem scan_some {slipEsc00 : Bool} {s s' : Rx} {b : UInt8} (c : UInt8)
    (rest : Line) (h : s.feed slipEsc00 b = some s') :
    scan slipEsc00 s c (some b :: rest) = scan slipEsc00 s' b rest := by
  rw [scan, rs232Get_some, h]

theorem Rx.feed_esc (slipEsc00 : Bool) (d : List UInt8) :
    Rx.feed slipEsc00 { escaped := false, decoded := d } ESC =
      some { escaped := true, decoded := d } := by
  simp [Rx.feed]

theorem Rx.feed_escaped (slipEsc00 : Bool) (d : List UInt8) (b : UInt8) :
    Rx.feed slipEsc00 { escaped := true, decoded := d } b =
      some { escaped := false
             decoded := d ++ (slipUncode slipEsc00 b).toList } := by
  simp [Rx.feed]

/-- END is no code: behind an ESC it stores nothing and closes nothing. -/
theorem Rx.feed_escaped_end (slipEsc00 : Bool) (d : List UInt8) :
    Rx.feed slipEsc00 { escaped := true, decoded := d } END =
      some { escaped := false, decoded := d } := by
  have hnoCode : slipUncode slipEsc00 END = none := by
    cases slipEsc00 <;> rfl
  rw [Rx.feed_escaped, hnoCode, Option.toList_none, List.append_nil]

theorem Rx.feed_plain (slipEsc00 : Bool) (d : List UInt8) {b : UInt8}
    (hend : b ≠ END) (hesc : b ≠ ESC) :
    Rx.feed slipEsc00 { escaped := false, decoded := d } b =
      some { escaped := false, decoded := d ++ [b] } := by
  simp [Rx.feed, hend, hesc]

theorem Rx.feed_end_empty (slipEsc00 : Bool) :
    Rx.start.feed slipEsc00 END = some Rx.start := by
  simp [Rx.feed, Rx.start]

theorem scan_end {slipEsc00 : Bool} {d : List UInt8} (hd : d ≠ [])
    (c : UInt8) (rest : Line) :
    scan slipEsc00 { escaped := false, decoded := d } c (some END :: rest) =
      some (d, rest) := by
  simp [scan, Rx.feed, hd]

theorem scan_stuffSymbol (slipEsc00 : Bool) (d : List UInt8) (b c : UInt8)
    (more : Line) :
    exists c' : UInt8,
      scan slipEsc00 { escaped := false, decoded := d } c
          (((slipStuffing slipEsc00).stuffSymbol b).map some ++ more) =
        scan slipEsc00 { escaped := false, decoded := d ++ [b] } c' more := by
  rcases (slipStuffing slipEsc00).stuffSymbol_cases b with
    ⟨k, hcode, hs⟩ | ⟨hcode, hs⟩
  · have hvalue : slipUncode slipEsc00 k = some b :=
      slipUncode_of_slipCode hcode
    have hsecond := Rx.feed_escaped slipEsc00 d k
    rw [hvalue, Option.toList_some] at hsecond
    refine ⟨k, ?_⟩
    rw [hs]
    show
      scan slipEsc00 { escaped := false, decoded := d } c
        (some ESC :: some k :: more) = _
    rw [scan_some _ _ (Rx.feed_esc slipEsc00 d), scan_some _ _ hsecond]
  · have hend : b ≠ END := (slipStuffing slipEsc00).ne_stop_of_code_none hcode
    have hesc : b ≠ ESC := (slipStuffing slipEsc00).ne_esc_of_code_none hcode
    refine ⟨b, ?_⟩
    rw [hs]
    exact scan_some _ _ (Rx.feed_plain slipEsc00 d hend hesc)

theorem scan_stuff (slipEsc00 : Bool) (d q : List UInt8) (c : UInt8)
    (more : Line) :
    exists c' : UInt8,
      scan slipEsc00 { escaped := false, decoded := d } c
          (((slipStuffing slipEsc00).stuff q).map some ++ more) =
        scan slipEsc00 { escaped := false, decoded := d ++ q } c' more := by
  induction q generalizing d c with
  | nil =>
      refine ⟨c, ?_⟩
      rw [List.append_nil]
      rfl
  | cons b rest ih =>
      rcases scan_stuffSymbol slipEsc00 d b c
          (((slipStuffing slipEsc00).stuff rest).map some ++ more) with
        ⟨c1, hsymbol⟩
      rcases ih (d ++ [b]) c1 with ⟨c2, hrest⟩
      refine ⟨c2, ?_⟩
      rw [Stuffing.stuff_cons, List.map_append, List.append_assoc, hsymbol,
        hrest, List.append_assoc]
      rfl

theorem scan_stuff_end (slipEsc00 : Bool) {d q : List UInt8}
    (hne : d ++ q ≠ []) (c : UInt8) (rest : Line) :
    scan slipEsc00 { escaped := false, decoded := d } c
        (((slipStuffing slipEsc00).stuff q).map some ++ some END :: rest) =
      some (d ++ q, rest) := by
  rcases scan_stuff slipEsc00 d q c (some END :: rest) with ⟨c', hscan⟩
  rw [hscan]
  exact scan_end hne c' rest

/-!
## Successive calls
-/

/-- `k` calls of `recv_packet` on one buffer: each returned value with that
many bytes of the buffer, and the rest of the line. -/
def recvPackets (P : Platform) {len : Nat} (timeout : Int16) :
    Nat -> Buffer len -> Line -> Option (List (Int × List UInt8) × Line)
  | 0, _, line => some ([], line)
  | k + 1, p, line =>
      match recvPacket P p timeout line with
      | none => none
      | some (rc, p', rest) =>
          match recvPackets P timeout k p' rest with
          | none => none
          | some (results, rest') =>
              some ((rc, p'.slice 0 rc.toNat) :: results, rest')

theorem recvPackets_succ {P : Platform} {len : Nat} {timeout : Int16}
    {k : Nat} {p p' : Buffer len} {line rest : Line} {rc : Int}
    (h : recvPacket P p timeout line = some (rc, p', rest)) :
    recvPackets P timeout (k + 1) p line =
      (recvPackets P timeout k p' rest).map
        (fun r => ((rc, p'.slice 0 rc.toNat) :: r.1, r.2)) := by
  rw [recvPackets, h]
  simp only
  cases recvPackets P timeout k p' rest with
  | none => rfl
  | some r => rfl

/-- The frames of the bridge, each behind the reads that precede it. -/
def bridgeLine (slipEsc00 : Bool) : List (Line × List UInt8) -> Line
  | [] => []
  | (junk, q) :: more =>
      junk ++ (slipEncode slipEsc00 q).map some ++ bridgeLine slipEsc00 more

theorem slipEncode_line (slipEsc00 : Bool) (q : List UInt8) (rest : Line) :
    (slipEncode slipEsc00 q).map some ++ rest =
      some END :: (((slipStuffing slipEsc00).stuff q).map some ++
        some END :: rest) := by
  rw [slipEncode_eq_frame]
  show
    (END :: ((slipStuffing slipEsc00).stuff q ++ [END])).map some ++ rest = _
  simp

theorem slice_kept {len : Nat} (p : Buffer len) (d : List UInt8) :
    (p.write 0 (d.take len)).slice 0 (d.take len).length = d.take len := by
  apply p.slice_write_self
  rw [List.length_take]
  omega

/-- One call on a whole frame behind idle reads and stray bytes. -/
theorem recvPacket_slipEncode (P : Platform) {len : Nat} (hlen : 1 ≤ len)
    (p : Buffer len) {timeout : Int16} {junk : Line} {q : List UInt8}
    (hq : q ≠ []) (hjunk : some END ∉ junk)
    (hbudget : junk.length < reads timeout) (rest : Line) :
    recvPacket P p timeout
        (junk ++ (slipEncode P.slipEsc00 q).map some ++ rest) =
      some (((q.take len).length : Int), p.write 0 (q.take len), rest) := by
  have hwait :
      waitEnd timeout 0
          (junk ++ (slipEncode P.slipEsc00 q).map some ++ rest) =
        some (true, ((slipStuffing P.slipEsc00).stuff q).map some ++
          some END :: rest) := by
    rw [List.append_assoc, slipEncode_line]
    exact waitEnd_junk_end _ (by decide) hjunk hbudget
  have hscan :=
    scan_stuff_end P.slipEsc00 (d := []) (q := q) (by simpa using hq) END rest
  rw [recvPacket_eq_scan P hlen p timeout hwait]
  show (scan P.slipEsc00 { escaped := false, decoded := [] } END _).map _ = _
  rw [hscan]
  rfl

/-- Call `k` returns the smaller of the packet and the buffer and leaves these
bytes of packet `k` in the buffer. -/
theorem recvPackets_bridgeLine (P : Platform) {len : Nat} (hlen : 1 ≤ len)
    (p : Buffer len) (timeout : Int16) (frames : List (Line × List UInt8))
    (rest : Line)
    (hframes : forall f, f ∈ frames ->
      f.2 ≠ [] ∧ some END ∉ f.1 ∧ (f.1.length : Int) < timeout.toInt - 1) :
    recvPackets P timeout frames.length p
        (bridgeLine P.slipEsc00 frames ++ rest) =
      some (frames.map
        (fun f => (((min f.2.length len : Nat) : Int), f.2.take len)),
        rest) := by
  induction frames generalizing p with
  | nil => rfl
  | cons f more ih =>
      rcases f with ⟨junk, q⟩
      rcases hframes (junk, q) List.mem_cons_self with ⟨hq, hjunk, hbudget⟩
      simp only at hq hjunk hbudget
      have hreads : (reads timeout : Int) = timeout.toInt - 1 :=
        reads_of_pos (by omega)
      have hcalls : junk.length < reads timeout := by
        omega
      have hcall :=
        recvPacket_slipEncode P hlen p hq hjunk hcalls (bridgeLine P.slipEsc00 more ++ rest)
      have hmore := ih (p.write 0 (q.take len))
        (fun f hf => hframes f (List.mem_cons_of_mem _ hf))
      have hslice := slice_kept p q
      rw [List.length_cons, bridgeLine, List.append_assoc,
        recvPackets_succ hcall, hmore]
      simp only [Option.map_some, List.map_cons, Int.toNat_natCast, hslice]
      rw [List.length_take, Nat.min_comm len]

theorem recvPackets_bridgeLine_truncated :
    recvPackets Platform.spectrum 5 2 (⟨[0, 0], rfl⟩ : Buffer 2)
        (bridgeLine true
          [([none, some 0x2a], [0xC0, 0x00, 0x41]), ([], [0x42])] ++ []) =
      some ([([none, some 0x2a], [0xC0, 0x00, 0x41]), ([], [0x42])].map
        (fun f => (((min f.2.length 2 : Nat) : Int), f.2.take 2)), []) :=
  recvPackets_bridgeLine Platform.spectrum (by decide) ⟨[0, 0], rfl⟩ 5
    [([none, some 0x2a], [0xC0, 0x00, 0x41]), ([], [0x42])] []
    (by
      intro f hf
      simp at hf
      rcases hf with rfl | rfl <;> decide)

end Slip
end Z80Tcpip
