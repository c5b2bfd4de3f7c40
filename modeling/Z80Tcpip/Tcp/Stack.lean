import Z80Tcpip.Tcp.Link
import Z80Tcpip.Tcp.Transmit

/-!
# The TCP stack

`tcp_send` and `tcp_recv_timeout` call each other.  They run on a world that
holds the connection, the link and the segments transmitted so far, with fuel
for the calls and the jumps to `again`.
-/

namespace Z80Tcpip
namespace Tcp

open Foundation
open Ip

/-- The arguments of `tcp_send`. -/
structure Request where
  len : Nat
  data : Option (Buffer len)
  window : UInt16

/-- One pass through the transmitting part of `tcp_send`: the connection when
it begins, the arguments, and the bytes that reach `send_packet`. -/
structure Transmission where
  tcp : TcpContext
  request : Request
  packet : List UInt8

structure World (σ : Type) where
  tcp : TcpContext
  line : σ
  sent : List Transmission

variable {P : Platform} {σ : Type}

def World.transmit (w : World σ) (len : Nat) (data : Option (Buffer len))
    (window : UInt16) : World σ :=
  let result := tcpTransmit w.tcp len data window
  { w with
    tcp := result.1
    sent := w.sent ++
      [{ tcp := w.tcp
         request := { len := len, data := data, window := window }
         packet := result.2 }] }

/-- The world once `recv_packet` has returned. -/
def World.received (w : World σ) (pkt : Buffer w.tcp.ip.pktSize.toNat)
    (line : σ) : World σ :=
  { w with
    tcp := { w.tcp with ip := { w.tcp.ip with pkt := pkt } }
    line := line }

/-!
## An incoming packet
-/

/-- How `tcp_recv_timeout` goes on after looking at a packet. -/
inductive Action where
  | ret (rc : Int)
  | again
  | ackSyn
  | ackData
  deriving DecidableEq

/-- `memcpy(&seq, &ptr[20 + 4], 4); seq = htonl(seq);` -/
def headerSeq (tcp : TcpContext) : UInt32 :=
  htonl (UInt32.ofNat (readLE (tcp.ip.pkt.slice (20 + 4) 4)))

def headerAck (tcp : TcpContext) : UInt32 :=
  htonl (UInt32.ofNat (readLE (tcp.ip.pkt.slice (20 + 8) 4)))

def headerFlags (tcp : TcpContext) : UInt8 :=
  tcp.ip.pkt.get (20 + 13)

/-- The sanity checks on a packet of `len` bytes at the front of the buffer,
with the value returned when one fails or the peer sent RST. -/
def sanityChecks (P : Platform) (tcp : TcpContext) (len : Nat) : Option Int :=
  if len < 20 + 20 then some (-(P.eagain : Int))
  else if tcp.ip.pkt.get 0 ≠ 0x45 then some (-(P.eagain : Int))
  else if tcp.ip.pkt.get 9 ≠ IP_TCP then some (-(P.eagain : Int))
  else if tcp.ip.pkt.slice 20 4 ≠
      leBytes 2 tcp.dstPort.toNat ++ leBytes 2 tcp.srcPort.toNat then
    some (-(P.eagain : Int))
  else if headerFlags tcp &&& TCP_RST ≠ 0 then some (-(ERESET : Int))
  else none

/-- The branch for `tcp->seq == 1`. -/
def synInput (tcp : TcpContext) : TcpContext × Action :=
  if headerAck tcp ≠ tcp.seq + 1 then (tcp, .ret (-(ERESET : Int)))
  else if headerFlags tcp &&& TCP_SYN ≠ 0 then
    ({ tcp with seq := headerAck tcp, ack := headerSeq tcp + 1 }, .ackSyn)
  else (tcp, .ret (-1))

/-- Data got acked: advance the sequence number. -/
def advanceSeq (tcp : TcpContext) : TcpContext :=
  { tcp with
    seq := if tcp.seq < headerAck tcp then headerAck tcp else tcp.seq }

/-- `tcp->ack = seq;` and, if there is more than a bare header, the length of
the data. -/
def acceptData (tcp : TcpContext) (len : Nat) : TcpContext :=
  { tcp with
    ack :=
      if 20 + 20 < len then
        headerSeq tcp + UInt32.ofNat (len - 20 - tcp.ths.toNat)
      else headerSeq tcp }

/-- The rest of `tcp_recv_timeout` once the connection is established. -/
def connectedInput (tcp : TcpContext) (len : Nat) : TcpContext × Action :=
  if headerSeq tcp + 1 = tcp.ack ∧ len = 20 + tcp.ths.toNat then (tcp, .again)
  else if 20 + tcp.ths.toNat < len then
    if headerSeq tcp < tcp.ack then (advanceSeq tcp, .ret 0)
    else (acceptData (advanceSeq tcp) len, .ackData)
  else (advanceSeq tcp, .ret ((len : Int) - 20 - tcp.ths.toNat))

/-- `tcp->ths = ptr[20 + 12] >> 2;` -/
def readHeaderSize (tcp : TcpContext) : TcpContext :=
  { tcp with ths := tcp.ip.pkt.get (20 + 12) >>> 2 }

/-- tcp.c `tcp_recv_timeout` between `recv_packet` and `return`.  `ackSyn` and
`ackData` stand for the calls `tcp_send(tcp, 0, NULL, 0)` and the `return`
behind them. -/
def tcpInput (P : Platform) (tcp : TcpContext) (len : Nat) :
    TcpContext × Action :=
  match sanityChecks P tcp len with
  | some rc => (tcp, .ret rc)
  | none =>
      if tcp.seq = 1 then synInput (readHeaderSize tcp)
      else connectedInput (readHeaderSize tcp) len

@[simp] theorem readHeaderSize_seq (tcp : TcpContext) :
    (readHeaderSize tcp).seq = tcp.seq := rfl

theorem advanceSeq_seq (tcp : TcpContext) :
    (advanceSeq tcp).seq =
      if tcp.seq < headerAck tcp then headerAck tcp else tcp.seq := rfl

@[simp] theorem advanceSeq_ths (tcp : TcpContext) :
    (advanceSeq tcp).ths = tcp.ths := rfl

@[simp] theorem headerSeq_readHeaderSize (tcp : TcpContext) :
    headerSeq (readHeaderSize tcp) = headerSeq tcp := rfl

@[simp] theorem headerAck_readHeaderSize (tcp : TcpContext) :
    headerAck (readHeaderSize tcp) = headerAck tcp := rfl

@[simp] theorem headerSeq_advanceSeq (tcp : TcpContext) :
    headerSeq (advanceSeq tcp) = headerSeq tcp := rfl

theorem acceptData_ack (tcp : TcpContext) (len : Nat) :
    (acceptData tcp len).ack =
      if 20 + 20 < len then
        headerSeq tcp + UInt32.ofNat (len - 20 - tcp.ths.toNat)
      else headerSeq tcp := rfl

@[simp] theorem acceptData_seq (tcp : TcpContext) (len : Nat) :
    (acceptData tcp len).seq = tcp.seq := rfl

@[simp] theorem acceptData_ths (tcp : TcpContext) (len : Nat) :
    (acceptData tcp len).ths = tcp.ths := rfl

@[simp] theorem World.transmit_seq (w : World σ) (len : Nat)
    (data : Option (Buffer len)) (window : UInt16) :
    (w.transmit len data window).tcp.seq = w.tcp.seq := rfl

@[simp] theorem World.transmit_ack (w : World σ) (len : Nat)
    (data : Option (Buffer len)) (window : UInt16) :
    (w.transmit len data window).tcp.ack = w.tcp.ack := rfl

@[simp] theorem World.transmit_ths (w : World σ) (len : Nat)
    (data : Option (Buffer len)) (window : UInt16) :
    (w.transmit len data window).tcp.ths = w.tcp.ths := rfl

/-- The first `n` bytes at `tcp_rx_buffer(tcp)`. -/
def tcpRxBuffer (tcp : TcpContext) (n : Nat) : List UInt8 :=
  tcp.ip.pkt.slice (20 + tcp.ths.toNat) n

theorem tcpRxBuffer_zero (tcp : TcpContext) : tcpRxBuffer tcp 0 = [] := by
  rw [tcpRxBuffer, Buffer.slice, List.take_zero]

/-!
## The two functions
-/

/-- The clamp at the top of `tcp_recv_timeout`: the comparison is unsigned on
the Z80. -/
def clampLen (tcp : TcpContext) (len : UInt16) : UInt16 :=
  if tcp.ip.pktSize - 44 < len then tcp.ip.pktSize - 44 else len

mutual

/-- tcp.c `tcp_send`. -/
def tcpSend (L : Link P σ) : Nat -> World σ -> (len : Nat) ->
    Option (Buffer len) -> UInt16 -> Option Int × World σ
  | 0, w, _, _, _ => (none, w)
  | fuel + 1, w, len, data, window =>
      tcpSendAgain L fuel w len data window 0

/-- `tcp_send` from the label `again`. -/
def tcpSendAgain (L : Link P σ) : Nat -> World σ -> (len : Nat) ->
    Option (Buffer len) -> UInt16 -> Nat -> Option Int × World σ
  | 0, w, _, _, _, _ => (none, w)
  | fuel + 1, w, len, data, window, retries =>
      let w := w.transmit len data window
      if 1 < w.tcp.seq ∧ len = 0 then (some 0, w)
      else
        match tcpRecv L fuel w 0 with
        | (none, w) => (none, w)
        | (some rc, w) =>
            if rc = -(P.eagain : Int) then
              if retries < 5 then
                tcpSendAgain L fuel w len data window (retries + 1)
              else (some (-1), w)
            else if rc < 0 then (some rc, w)
            else (some 0, w)

/-- tcp.c `tcp_recv`. -/
def tcpRecv (L : Link P σ) : Nat -> World σ -> UInt16 ->
    Option Int × World σ
  | 0, w, _ => (none, w)
  | fuel + 1, w, len => tcpRecvTimeout L fuel w len P.rs232Tps

/-- tcp.c `tcp_recv_timeout`. -/
def tcpRecvTimeout (L : Link P σ) : Nat -> World σ -> UInt16 -> Int16 ->
    Option Int × World σ
  | 0, w, _, _ => (none, w)
  | fuel + 1, w, len, timeout =>
      if clampLen w.tcp len ≠ 0 then
        match tcpSend L fuel w 0 none (clampLen w.tcp len) with
        | (none, w) => (none, w)
        | (some _, w) => tcpRecvAgain L fuel w timeout
      else tcpRecvAgain L fuel w timeout

/-- `tcp_recv_timeout` from the label `again`. -/
def tcpRecvAgain (L : Link P σ) : Nat -> World σ -> Int16 ->
    Option Int × World σ
  | 0, w, _ => (none, w)
  | fuel + 1, w, timeout =>
      match L.recvPacket w.tcp.ip.pkt timeout w.line with
      | none => (none, w)
      | some (len, pkt, line) =>
          let w := w.received pkt line
          if len < 0 then (some len, w)
          else
            let (tcp, action) := tcpInput P w.tcp len.toNat
            let w := { w with tcp := tcp }
            match action with
            | .ret rc => (some rc, w)
            | .again => tcpRecvAgain L fuel w timeout
            | .ackSyn =>
                match tcpSend L fuel w 0 none 0 with
                | (none, w) => (none, w)
                | (some _, w) => (some 0, w)
            | .ackData =>
                match tcpSend L fuel w 0 none 0 with
                | (none, w) => (none, w)
                | (some _, w) => (some (len - 20 - w.tcp.ths.toNat), w)

end

end Tcp
end Z80Tcpip
