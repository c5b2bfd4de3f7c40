import Z80Tcpip.Ip.Datagram

/-!
# TCP segments on the way out

One transmission of `tcp_send`: the TCP header is built behind the future IP
header, the pseudo header in place of the future IP header, and
`ip_build_and_send` then overwrites the pseudo header.
-/

namespace Z80Tcpip
namespace Tcp

open Foundation
open Ip

def TCP_SYN : UInt8 := 0x02
def TCP_RST : UInt8 := 0x04
def TCP_PSH : UInt8 := 0x08
def TCP_ACK : UInt8 := 0x10

/-- tcp.h `tcp_context_t`.  The ports are in network byte order. -/
structure TcpContext where
  ip : IpContext
  dstPort : UInt16
  srcPort : UInt16
  seq : UInt32
  ack : UInt32
  ths : UInt8

/-- A connection of the loopback host with itself over a 64 byte buffer. -/
def TcpContext.loopback (seq ack : UInt32) : TcpContext where
  ip :=
    { saddr := 0x0100007f
      daddr := 0x0100007f
      pktSize := 64
      id := 0
      pkt := ⟨List.replicate 64 0, rfl⟩
      pktSize_int := by decide }
  dstPort := 0x5000
  srcPort := 0x0004
  seq := seq
  ack := ack
  ths := 20

def tcpFlags (tcp : TcpContext) (len : Nat) : UInt8 :=
  if tcp.seq = 1 then TCP_SYN
  else if len ≠ 0 then TCP_ACK ||| TCP_PSH
  else TCP_ACK

/-- `if (data) memcpy(ptr + 20, data, len);` -/
def copyPayload {size len : Nat} (pkt : Buffer size) :
    Option (Buffer len) -> Buffer size
  | some data => pkt.write 40 data.bytes
  | none => pkt

/-- The stores of `tcp_send` before the checksum. -/
def tcpHeaderStores (tcp : TcpContext) (len : Nat)
    (data : Option (Buffer len)) (window : UInt16) :
    Buffer tcp.ip.pktSize.toNat :=
  let pkt := tcp.ip.pkt.write 20 (List.replicate 20 0)
  let pkt := copyPayload pkt data
  let pkt := pkt.write 20 (leBytes 2 tcp.srcPort.toNat)
  let pkt := pkt.write 22 (leBytes 2 tcp.dstPort.toNat)
  let pkt := pkt.write 24 (leBytes 4 (htonl tcp.seq).toNat)
  let pkt := pkt.write 28 (leBytes 4 (htonl tcp.ack).toNat)
  let pkt := pkt.put 32 0x50
  let pkt := pkt.put 33 (tcpFlags tcp len)
  -- pseudo header, will be overwritten by ip_build_and_send()
  let pkt := pkt.write 8 (leBytes 4 tcp.ip.saddr.toNat)
  let pkt := pkt.write 12 (leBytes 4 tcp.ip.daddr.toNat)
  let pkt := pkt.put 16 0
  let pkt := pkt.put 17 IP_TCP
  let pkt := pkt.write 18 (leBytes 2 (htons (UInt16.ofNat (20 + len))).toNat)
  pkt.write 34 (leBytes 2 (htons window).toNat)

/-- The packet buffer when `ip_build_and_send` is called. -/
def tcpSegmentStores (tcp : TcpContext) (len : Nat)
    (data : Option (Buffer len)) (window : UInt16) :
    Buffer tcp.ip.pktSize.toNat :=
  let pkt := tcpHeaderStores tcp len data window
  pkt.write 36 (leBytes 2 (csum (pkt.slice 8 (12 + 20 + len))).toNat)

/-- One transmission: tcp.c `tcp_send` from the label `again` to
`ip_build_and_send`, with the bytes that reach `send_packet`. -/
def tcpTransmit (tcp : TcpContext) (len : Nat) (data : Option (Buffer len))
    (window : UInt16) : TcpContext × List UInt8 :=
  let sent :=
    ipBuildAndSend
      { tcp.ip with pkt := tcpSegmentStores tcp len data window }
      (UInt16.ofNat (20 + 20 + len)) IP_TCP
  ({ tcp with ip := sent.1 }, sent.2)

/-!
## The segment
-/

/-- The payload of a transmission that begins in `tcp`: the bytes at `data`, or
those that stand at `tcp_tx_buffer`. -/
def payload (tcp : TcpContext) {len : Nat} (data : Option (Buffer len)) :
    List UInt8 :=
  match data with
  | some bs => bs.bytes
  | none => tcp.ip.pkt.slice 40 len

/-- The RFC 793 pseudo header. -/
def pseudoHeader (tcp : TcpContext) (len : Nat) : List UInt8 :=
  leBytes 4 tcp.ip.saddr.toNat ++ leBytes 4 tcp.ip.daddr.toNat ++
    [0, IP_TCP] ++ beBytes 2 (20 + len)

/-- The header fields in front of the checksum. -/
def tcpHeaderFront (tcp : TcpContext) (len : Nat) (window : UInt16) :
    List UInt8 :=
  leBytes 2 tcp.srcPort.toNat ++ leBytes 2 tcp.dstPort.toNat ++
    beBytes 4 tcp.seq.toNat ++ beBytes 4 tcp.ack.toNat ++
    [0x50, tcpFlags tcp len] ++ beBytes 2 window.toNat

def tcpSegment (tcp : TcpContext) {len : Nat} (data : Option (Buffer len))
    (window : UInt16) : List UInt8 :=
  let front := tcpHeaderFront tcp len window
  let back := [0, 0] ++ payload tcp data
  front ++ leBytes 2
      (csum (pseudoHeader tcp len ++ front ++ [0, 0] ++ back)).toNat ++ back

theorem payload_length (tcp : TcpContext) {len : Nat}
    (data : Option (Buffer len)) (h : 40 + len ≤ tcp.ip.pktSize.toNat) :
    (payload tcp data).length = len := by
  cases data with
  | none => exact Buffer.slice_length _ h
  | some bs => exact bs.bytes_length

@[simp] theorem pseudoHeader_length (tcp : TcpContext) (len : Nat) :
    (pseudoHeader tcp len).length = 12 := by
  simp [pseudoHeader]

@[simp] theorem tcpHeaderFront_length (tcp : TcpContext) (len : Nat)
    (window : UInt16) : (tcpHeaderFront tcp len window).length = 16 := by
  simp [tcpHeaderFront]

theorem tcpSegment_length (tcp : TcpContext) {len : Nat}
    (data : Option (Buffer len)) (window : UInt16)
    (h : 40 + len ≤ tcp.ip.pktSize.toNat) :
    (tcpSegment tcp data window).length = 20 + len := by
  simp [tcpSegment, payload_length tcp data h]
  omega

theorem internetSum_tcpSegment (tcp : TcpContext) {len : Nat}
    (data : Option (Buffer len)) (window : UInt16)
    (h : 40 + len ≤ tcp.ip.pktSize.toNat) :
    internetSum (pseudoHeader tcp len ++ tcpSegment tcp data window) =
      65535 := by
  have hint := tcp.ip.pktSize_int
  have hfront : (pseudoHeader tcp len ++ tcpHeaderFront tcp len window).length
      % 2 = 0 := by
    simp
  have hvalid := internetSum_csum ([0, 0] ++ payload tcp data) hfront
    (by simp [payload_length tcp data h]; omega)
  simpa only [tcpSegment, List.append_assoc] using hvalid

theorem copyPayload_before {size len : Nat} (pkt : Buffer size)
    (data : Option (Buffer len)) {off n : Nat} (h : off + n ≤ 40) :
    (copyPayload pkt data).slice off n = pkt.slice off n := by
  cases data with
  | none => rfl
  | some bs => exact pkt.slice_write_before _ h

theorem copyPayload_payload (tcp : TcpContext) {len : Nat}
    (data : Option (Buffer len)) (h : 40 + len ≤ tcp.ip.pktSize.toNat) :
    (copyPayload (tcp.ip.pkt.write 20 (List.replicate 20 0)) data).slice 40
        len = payload tcp data := by
  cases data with
  | none => exact tcp.ip.pkt.slice_write_after _ (by simp)
  | some bs => exact Buffer.slice_write_eq _ (by simp) (by simpa using h)

theorem tcpHeaderStores_slice (tcp : TcpContext) {len : Nat}
    (data : Option (Buffer len)) (window : UInt16)
    (h : 40 + len ≤ tcp.ip.pktSize.toNat) :
    (tcpHeaderStores tcp len data window).slice 8 (12 + 20 + len) =
      pseudoHeader tcp len ++ tcpHeaderFront tcp len window ++ [0, 0] ++
        ([0, 0] ++ payload tcp data) := by
  have hint := tcp.ip.pktSize_int
  have hlen : (UInt16.ofNat (20 + len)).toNat = 20 + len := by
    rw [UInt16.toNat_ofNat']
    omega
  have hfields : 12 + 20 + len = 4 + (4 + (1 + (1 + (2 + (2 + (2 + (4 + (4 +
      (1 + (1 + (2 + (2 + (2 + len))))))))))))) := by
    omega
  rw [hfields]
  simp only [Buffer.slice_add]
  simp (disch := first | omega | (simp; done) | (simp; omega)) only
    [tcpHeaderStores, Buffer.put_eq_write, Buffer.slice_write_before,
      Buffer.slice_write_after, Buffer.slice_write_eq, copyPayload_before,
      Buffer.slice_write_replicate]
  rw [copyPayload_payload tcp data h, leBytes_htons, hlen]
  simp [leBytes_htons, leBytes_htonl, pseudoHeader, tcpHeaderFront,
    List.replicate]

theorem tcpSegmentStores_slice (tcp : TcpContext) {len : Nat}
    (data : Option (Buffer len)) (window : UInt16)
    (h : 40 + len ≤ tcp.ip.pktSize.toNat) :
    (tcpSegmentStores tcp len data window).slice 20 (20 + len) =
      tcpSegment tcp data window := by
  have hstores := tcpHeaderStores_slice tcp data window h
  have hfield := Buffer.slice_write_middle 36 hstores
    (leBytes 2 (csum ((tcpHeaderStores tcp len data window).slice 8
      (12 + 20 + len))).toNat) (by simp) (by simp) (by omega)
  have hpseudo : (tcpSegmentStores tcp len data window).slice 8
      (12 + (20 + len)) =
        pseudoHeader tcp len ++ tcpSegment tcp data window := by
    show ((tcpHeaderStores tcp len data window).write 36 _).slice 8
      (12 + (20 + len)) = _
    rw [← Nat.add_assoc 12, hfield, hstores]
    simp only [tcpSegment, List.append_assoc]
  exact Buffer.slice_drop_front hpseudo (by simp) (by omega)

/-- The transmitted packet: the IP header, the TCP header and the payload. -/
theorem tcpTransmit_packet (tcp : TcpContext) {len : Nat}
    (data : Option (Buffer len)) (window : UInt16)
    (h : 40 + len ≤ tcp.ip.pktSize.toNat) :
    (tcpTransmit tcp len data window).2 =
      ipHeader tcp.ip (UInt16.ofNat (20 + 20 + len)) IP_TCP ++
        tcpSegment tcp data window := by
  have hint := tcp.ip.pktSize_int
  have hlen : (UInt16.ofNat (20 + 20 + len)).toNat = 20 + (20 + len) := by
    rw [UInt16.toNat_ofNat']
    omega
  have hsize : 20 ≤ tcp.ip.pktSize.toNat := by
    omega
  have hpacket := ipBuildAndSend_packet
    { tcp.ip with pkt := tcpSegmentStores tcp len data window } IP_TCP
    hsize hlen
  rw [← tcpSegmentStores_slice tcp data window h]
  exact hpacket

/-- What a transmission leaves in the buffer behind the IP header. -/
theorem tcpTransmit_segment (tcp : TcpContext) {len : Nat}
    (data : Option (Buffer len)) (window : UInt16)
    (h : 40 + len ≤ tcp.ip.pktSize.toNat) :
    (tcpTransmit tcp len data window).1.ip.pkt.slice 20 (20 + len) =
      tcpSegment tcp data window := by
  rw [← tcpSegmentStores_slice tcp data window h]
  exact ipBuildAndSend_after
    { tcp.ip with pkt := tcpSegmentStores tcp len data window } _ _
    (Nat.le_trans (by omega) h) (Nat.le_refl 20)

/-- A transmission leaves the buffer behind its payload alone. -/
theorem tcpTransmit_after (tcp : TcpContext) {len : Nat}
    (data : Option (Buffer len)) (window : UInt16) {off n : Nat}
    (h : 40 + len ≤ tcp.ip.pktSize.toNat) (hoff : 40 + len ≤ off) :
    (tcpTransmit tcp len data window).1.ip.pkt.slice off n =
      tcp.ip.pkt.slice off n := by
  have hcopy : (copyPayload (tcp.ip.pkt.write 20 (List.replicate 20 0))
      data).slice off n = tcp.ip.pkt.slice off n := by
    cases data with
    | none => exact tcp.ip.pkt.slice_write_after _ (by simp; omega)
    | some bs =>
        rw [copyPayload, Buffer.slice_write_after _ _ (by simp; omega),
          Buffer.slice_write_after _ _ (by simp; omega)]
  have hstores : (tcpSegmentStores tcp len data window).slice off n =
      tcp.ip.pkt.slice off n := by
    rw [← hcopy]
    simp (disch := first | omega | (simp; omega)) only [tcpSegmentStores,
      tcpHeaderStores, Buffer.put_eq_write, Buffer.slice_write_after]
  rw [← hstores]
  exact ipBuildAndSend_after
    { tcp.ip with pkt := tcpSegmentStores tcp len data window } _ _
    (Nat.le_trans (by omega) h) (by omega)

end Tcp
end Z80Tcpip
