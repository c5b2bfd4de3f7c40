import Z80Tcpip.Slip.SpectrumRoundTrip
import Z80Tcpip.Tcp.ConnectOutcome

/-!
# The payload of an accepted segment

The acknowledgement of a segment is built over its first 40 bytes, in the buffer
that the payload is then read from.  The payload stands behind them, whatever
options the header has and however much of the packet was cut off.
-/

namespace Z80Tcpip
namespace Tcp

open Foundation
open Ip
open Slip

variable {P : Platform} {σ : Type}

/-- The next segment of the session, with `4 * h` bytes of TCP header and a
payload behind them.  The checks do not look at the addresses. -/
structure NextSegment (tcp : TcpContext) (h : Nat) (packet : List UInt8) :
    Prop where
  version : packet.getD 0 0 = 0x45
  protocol : packet.getD 9 0 = IP_TCP
  ports : field packet 20 4 = peerPorts tcp
  no_rst : packet.getD 33 0 &&& TCP_RST = 0
  offset_low : 5 ≤ h
  offset_high : h ≤ 15
  data_offset : packet.getD 32 0 = UInt8.ofNat (16 * h)
  payload : 20 + 4 * h < packet.length
  seq_eq : packetSeq packet = tcp.ack

section Truncated

variable {tcp : TcpContext} {h : Nat} {packet : List UInt8}
  (hseg : NextSegment tcp h packet) {size : Nat} (hsize : 104 ≤ size)

include hseg hsize

theorem NextSegment.take_length :
    (packet.take size).length = min packet.length size ∧
      20 + 4 * h < (packet.take size).length := by
  have hhigh := hseg.offset_high
  have hpayload := hseg.payload
  rw [List.length_take]
  omega

theorem NextSegment.take_passes : Passes tcp (packet.take size) := by
  have hlow := hseg.offset_low
  have hlength := hseg.take_length hsize
  constructor
  case long => omega
  case version =>
    rw [getD_take packet (by omega)]
    exact hseg.version
  case protocol =>
    rw [getD_take packet (by omega)]
    exact hseg.protocol
  case ports =>
    rw [field_take packet (by omega)]
    exact hseg.ports
  case no_rst =>
    rw [getD_take packet (by omega)]
    exact hseg.no_rst

theorem NextSegment.take_headerSize :
    packetHeaderSize (packet.take size) = 4 * h := by
  rw [packetHeaderSize_take packet (by omega)]
  exact packetHeaderSize_of_offset hseg.offset_high hseg.data_offset

end Truncated

/-- What a call makes of the segment once `recv_packet` has cut it to the size
of the buffer. -/
theorem NextSegment.call {L : Link P σ} (fuel : Nat) {timeout : Int16}
    {w : World σ} {h : Nat} {packet : List UInt8} {line : σ}
    (hconn : 1 < w.tcp.seq) (hsize : 104 ≤ w.tcp.ip.pktSize.toNat)
    (hseg : NextSegment w.tcp h packet)
    (hrecv : Delivers L timeout w (packet.take w.tcp.ip.pktSize.toNat) line) :
    exists (n : Nat) (w' : World σ) (ack : Transmission),
      (n : Int) =
          ((min packet.length w.tcp.ip.pktSize.toNat : Nat) : Int) - 20 -
            4 * h ∧
        tcpRecvTimeout L (fuel + 4) w 0 timeout = (some (n : Int), w') ∧
        tcpRxBuffer w'.tcp n = (packet.drop (20 + 4 * h)).take n ∧
        w'.tcp.ack = w.tcp.ack + UInt32.ofNat n ∧
        w'.sent = w.sent ++ [ack] ∧ PureAck ack w'.tcp.seq w'.tcp.ack ∧
        readBE (field ack.packet 34 2) = 0 := by
  have hlow := hseg.offset_low
  have hpass := hseg.take_passes hsize
  have hheader := hseg.take_headerSize hsize
  rcases hseg.take_length hsize with ⟨hlength, hpayload⟩
  have hdata : CarriesData (packet.take w.tcp.ip.pktSize.toNat) := by
    rw [CarriesData, hheader]
    exact hpayload
  have hseq : packetSeq (packet.take w.tcp.ip.pktSize.toNat) = w.tcp.ack := by
    rw [packetSeq_take packet (by omega)]
    exact hseg.seq_eq
  have hcall := tcpRecvTimeout_fresh (P := P) timeout fuel hconn hrecv hpass
    hdata (by rw [hseq]; exact UInt32.lt_irrefl _)
  have hbuffer := accept_rxBuffer line hrecv.left hpass.long (by omega)
  have hack := accept_ack line hrecv.left (by omega)
  rw [packetPayload_take packet (by omega), packetPayload,
    ← packetHeaderSize_take packet (show 40 ≤ w.tcp.ip.pktSize.toNat by omega),
    hheader] at hbuffer
  rw [hseq, hheader, Nat.sub_sub] at hack
  rw [hheader] at hcall
  refine ⟨(packet.take w.tcp.ip.pktSize.toNat).length - (20 + 4 * h), _, _,
    by omega, ?_, ?_, hack, rfl, ?_, ?_⟩
  · rw [hcall]
    exact congrArg (fun rc : Int => (some rc, _)) (by omega)
  · rw [hbuffer, hlength, List.take_eq_take_iff, List.length_drop]
    omega
  · rw [World.accept, World.transmit_seq, World.transmit_ack]
    exact pureAck_transmit
      (w.accepted (packet.take w.tcp.ip.pktSize.toNat) line).tcp 0
      (one_lt_accepted_seq _ line hconn)
      (show 40 ≤ w.tcp.ip.pktSize.toNat by omega)
  · exact (validSegment_tcpTransmit
      (w.accepted (packet.take w.tcp.ip.pktSize.toNat) line).tcp ackRequest
      (show 40 ≤ w.tcp.ip.pktSize.toNat by omega)).window_eq

/-- A segment of any size that the bridge sends over the serial line, behind
idle reads and stray bytes. -/
theorem accepted_payload (P : Platform) (fuel : Nat) {timeout : Int16}
    {w : World Line} {h : Nat} {packet : List UInt8} {junk rest : Line}
    (hconn : 1 < w.tcp.seq) (hsize : 104 ≤ w.tcp.ip.pktSize.toNat)
    (hseg : NextSegment w.tcp h packet) (hjunk : some END ∉ junk)
    (htime : junk.length < reads timeout)
    (hline : w.line =
      junk ++ (slipEncode P.slipEsc00 packet).map some ++ rest) :
    exists (n : Nat) (w' : World Line) (ack : Transmission),
      (n : Int) =
          ((min packet.length w.tcp.ip.pktSize.toNat : Nat) : Int) - 20 -
            4 * h ∧
        tcpRecvTimeout (serialLink P) (fuel + 4) w 0 timeout =
          (some (n : Int), w') ∧
        tcpRxBuffer w'.tcp n = (packet.drop (20 + 4 * h)).take n ∧
        w'.tcp.ack = w.tcp.ack + UInt32.ofNat n ∧
        w'.sent = w.sent ++ [ack] ∧ PureAck ack w'.tcp.seq w'.tcp.ack ∧
        readBE (field ack.packet 34 2) = 0 := by
  have hpayload := hseg.payload
  have hne : packet ≠ [] := by
    intro hnil
    rw [hnil] at hpayload
    exact absurd hpayload (Nat.not_lt_zero _)
  have hrecv : Delivers (serialLink P) timeout w
      (packet.take w.tcp.ip.pktSize.toNat) rest := by
    constructor
    · exact List.length_take_le _ _
    · rw [hline]
      exact recvPacket_slipEncode P (by omega) w.tcp.ip.pkt hne hjunk htime rest
  exact hseg.call fuel hconn hsize hrecv

/-- The loopback connection over the smallest buffer, and the next segment with
four bytes of options and a payload that does not fit. -/
def narrow : World Line where
  tcp :=
    { TcpContext.loopback 2 7 with
      ip :=
        { saddr := 0x0100007f
          daddr := 0x0100007f
          pktSize := 104
          id := 0
          pkt := ⟨List.replicate 104 0, rfl⟩
          pktSize_int := by decide } }
  line := []
  sent := []

def longSegment : List UInt8 :=
  [0x45] ++ List.replicate 8 0 ++ [6] ++ List.replicate 10 0 ++
    [0x00, 0x50, 0x04, 0x00, 0, 0, 0, 7, 0, 0, 0, 2, 0x60, 0x18] ++
    List.replicate 10 0 ++ List.replicate 66 0x41

theorem accepted_payload_truncated :
    exists (n : Nat) (w' : World Line) (ack : Transmission),
      (n : Int) =
          ((min longSegment.length narrow.tcp.ip.pktSize.toNat : Nat) : Int) -
            20 - 4 * 6 ∧
        tcpRecvTimeout (serialLink Platform.spectrum) (0 + 4)
          { narrow with
            line := [none] ++ (slipEncode true longSegment).map some ++ [] }
          0 5 = (some (n : Int), w') ∧
        tcpRxBuffer w'.tcp n = (longSegment.drop (20 + 4 * 6)).take n ∧
        w'.tcp.ack = 7 + UInt32.ofNat n ∧ w'.sent = [] ++ [ack] ∧
        PureAck ack w'.tcp.seq w'.tcp.ack ∧
        readBE (field ack.packet 34 2) = 0 :=
  accepted_payload Platform.spectrum 0
    (w := { narrow with
            line := [none] ++ (slipEncode true longSegment).map some ++ [] })
    (h := 6) (by decide) (by decide)
    ⟨by decide, by decide, by decide, by decide, by decide, by decide,
      by decide, by decide, by decide⟩
    (by decide) (by decide) rfl

end Tcp
end Z80Tcpip
