import Z80Tcpip.Slip.BridgeDecoder

/-!
# From the Spectrum to the bridge

What `send_packet` puts on the wire comes out of `slip_decode` packet by
packet, whatever the decoder was doing when the first END arrived.
-/

namespace Z80Tcpip
namespace Slip

open Foundation

/-!
## Opening and closing a frame
-/

/-- The frame that the next END completes. -/
def Decoder.openFrame (b : Decoder) : List (List UInt8) :=
  if b.inSync = true ∧ b.truncated = false ∧ b.frame ≠ [] then [b.frame]
  else []

theorem decodeByte_end {slipEsc00 : Bool} {b : Decoder}
    (h : b.SyncOwnsFrame) (out : List (List UInt8)) :
    decodeByte slipEsc00 (b, out) END =
      (Decoder.idle, out ++ b.openFrame) := by
  cases hsync : b.inSync with
  | false =>
      rw [h hsync]
      simp [decodeByte, slipDecode, Decoder.drained, Decoder.idle,
        Decoder.openFrame]
  | true =>
      simp only [decodeByte, slipDecode_end hsync, Decoder.openFrame]
      congr 1
      · simp [Decoder.idle, hsync]
      · congr 1
        cases htruncated : b.truncated with
        | true => simp
        | false => simp [hsync]

theorem Decoder.Collecting.openFrame_eq {b : Decoder} {p : List UInt8}
    (h : b.Collecting p) (hp : p ≠ []) : b.openFrame = [p] := by
  simp [Decoder.openFrame, h.inSync_eq, h.truncated_eq, h.frame_eq, hp]

theorem Decoder.Collecting.syncOwnsFrame {b : Decoder} {p : List UInt8}
    (h : b.Collecting p) : b.SyncOwnsFrame := by
  intro hsync
  rw [h.inSync_eq] at hsync
  cases hsync

/-!
## One packet and a list of packets
-/

theorem foldl_decodeByte_sendPacket {slipEsc00 : Bool} {b : Decoder}
    (h : b.SyncOwnsFrame) {p : List UInt8} (hp : p ≠ [])
    (hlen : p.length ≤ MTU) (out : List (List UInt8)) :
    (sendPacket slipEsc00 p).foldl (decodeByte slipEsc00) (b, out) =
      (Decoder.idle, out ++ b.openFrame ++ [p]) := by
  rw [sendPacket_eq_frame]
  show
    (END :: ((slipStuffing slipEsc00).stuff p ++ [END])).foldl
        (decodeByte slipEsc00) (b, out) = _
  rw [List.foldl_cons, decodeByte_end h, List.foldl_append]
  rcases foldl_decodeByte_stuff slipEsc00
      Decoder.idle_collecting hlen (out ++ b.openFrame) with
    ⟨b', hfold, hcollect⟩
  rw [hfold, List.foldl_cons, List.foldl_nil,
    decodeByte_end hcollect.syncOwnsFrame, hcollect.openFrame_eq hp]

theorem foldl_decodeByte_packets {slipEsc00 : Bool}
    {packets : List (List UInt8)}
    (hpackets : forall p, p ∈ packets -> p ≠ [] ∧ p.length ≤ MTU)
    (out : List (List UInt8)) :
    (packets.flatMap (sendPacket slipEsc00)).foldl
        (decodeByte slipEsc00) (Decoder.idle, out) =
      (Decoder.idle, out ++ packets) := by
  induction packets generalizing out with
  | nil => simp
  | cons p rest ih =>
      rcases hpackets p (List.mem_cons_self) with ⟨hp, hlen⟩
      have hrest : forall q, q ∈ rest -> q ≠ [] ∧ q.length ≤ MTU := by
        intro q hq
        exact hpackets q (List.mem_cons_of_mem p hq)
      have hopen : Decoder.idle.openFrame = [] := rfl
      rw [List.flatMap_cons, List.foldl_append,
        foldl_decodeByte_sendPacket Decoder.idle_collecting.syncOwnsFrame hp
          hlen, ih hrest, hopen]
      simp

/-- Packets of 1 to MTU bytes arrive complete and in order; the decoder adds
at most the frame that was open when they began. -/
theorem decodeBytes_sendPacket_packets (slipEsc00 : Bool)
    (packets : List (List UInt8)) (b : Decoder)
    (hb : Reachable slipEsc00 b)
    (hpackets : forall p, p ∈ packets -> 1 ≤ p.length ∧ p.length ≤ MTU) :
    exists extra : List (List UInt8),
      (decodeBytes slipEsc00 b
          (packets.flatMap (sendPacket slipEsc00))).2 = extra ++ packets ∧
        (extra = [] ∨ (extra = [b.frame] ∧ b.inSync = true)) := by
  have hnonempty : forall p, p ∈ packets -> p ≠ [] ∧ p.length ≤ MTU := by
    intro p hp
    rcases hpackets p hp with ⟨hlow, hhigh⟩
    exact ⟨List.ne_nil_of_length_pos hlow, hhigh⟩
  cases packets with
  | nil => exact ⟨[], rfl, Or.inl rfl⟩
  | cons p rest =>
      rcases hnonempty p List.mem_cons_self with ⟨hp, hlen⟩
      have hrest : forall q, q ∈ rest -> q ≠ [] ∧ q.length ≤ MTU := by
        intro q hq
        exact hnonempty q (List.mem_cons_of_mem p hq)
      refine ⟨b.openFrame, ?_, ?_⟩
      · unfold decodeBytes
        rw [List.flatMap_cons, List.foldl_append,
          foldl_decodeByte_sendPacket hb.syncOwnsFrame hp hlen,
          foldl_decodeByte_packets hrest]
        simp
      · unfold Decoder.openFrame
        split_ifs with hopen
        · exact Or.inr ⟨rfl, hopen.left⟩
        · exact Or.inl rfl

theorem decodeBytes_sendPacket_mid_escape :
    exists extra : List (List UInt8),
      (decodeBytes true (slipDecode true (slipDecode true (slipDecode true
          Decoder.drained END).1 0x45).1 ESC).1
          ([[0xC0, 0x00], [0xDB]].flatMap (sendPacket true))).2 =
        extra ++ [[0xC0, 0x00], [0xDB]] ∧
      (extra = [] ∨ (extra = [[0x45]] ∧
        (slipDecode true (slipDecode true (slipDecode true
          Decoder.drained END).1 0x45).1 ESC).1.inSync = true)) :=
  decodeBytes_sendPacket_packets true [[0xC0, 0x00], [0xDB]] _
    (Reachable.fed _ (Reachable.fed _ (Reachable.fed _ Reachable.drained)))
    (by
      intro p hp
      simp at hp
      rcases hp with rfl | rfl <;> decide)

end Slip
end Z80Tcpip
