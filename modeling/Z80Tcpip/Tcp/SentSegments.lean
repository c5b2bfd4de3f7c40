import Z80Tcpip.Tcp.Stack

/-!
# Every segment on the wire

Whatever the link delivers, each packet that reaches `send_packet` is a valid
IPv4/TCP segment of the session: its header fields are those of the connection
at that moment, and both checksums verify.
-/

namespace Z80Tcpip
namespace Tcp

open Foundation
open Ip

/-!
## Valid segments
-/

/-- What a receiver can check about a packet, and what the sender meant by it.
Addresses and ports are compared as they stand in memory. -/
structure ValidSegment (t : Transmission) : Prop where
  length_eq : t.packet.length = 40 + t.request.len
  version : field t.packet 0 1 = [0x45]
  total_length : readBE (field t.packet 2 2) = 40 + t.request.len
  ttl : field t.packet 8 1 = [64]
  protocol : field t.packet 9 1 = [6]
  source : field t.packet 12 4 = leBytes 4 t.tcp.ip.saddr.toNat
  destination : field t.packet 16 4 = leBytes 4 t.tcp.ip.daddr.toNat
  ip_sum : internetSum (field t.packet 0 20) = 0xFFFF
  source_port : field t.packet 20 2 = leBytes 2 t.tcp.srcPort.toNat
  destination_port : field t.packet 22 2 = leBytes 2 t.tcp.dstPort.toNat
  sequence_number : readBE (field t.packet 24 4) = t.tcp.seq.toNat
  acknowledgement : readBE (field t.packet 28 4) = t.tcp.ack.toNat
  data_offset : field t.packet 32 1 = [0x50]
  flags : field t.packet 33 1 =
    [if t.tcp.seq = 1 then TCP_SYN
     else if 0 < t.request.len then TCP_ACK ||| TCP_PSH else TCP_ACK]
  window_eq : readBE (field t.packet 34 2) = t.request.window.toNat
  payload_eq : field t.packet 40 t.request.len = payload t.tcp t.request.data
  tcp_sum : internetSum
    (field t.packet 12 8 ++ [0, 6] ++ beBytes 2 (20 + t.request.len) ++
      field t.packet 20 (20 + t.request.len)) = 0xFFFF

/-- The packet field by field, with the two checksums left open. -/
theorem tcpTransmit_layout (tcp : TcpContext) {len : Nat}
    (data : Option (Buffer len)) (window : UInt16)
    (h : 40 + len ≤ tcp.ip.pktSize.toNat) :
    exists cs cs' : UInt16,
      (tcpTransmit tcp len data window).2 =
        [0x45] ++ ([0] ++ (beBytes 2 (40 + len) ++
          (leBytes 2 tcp.ip.id.toNat ++ ([0, 0] ++ ([64] ++ ([6] ++
            (leBytes 2 cs.toNat ++ (leBytes 4 tcp.ip.saddr.toNat ++
              (leBytes 4 tcp.ip.daddr.toNat ++ (leBytes 2 tcp.srcPort.toNat ++
                (leBytes 2 tcp.dstPort.toNat ++ (beBytes 4 tcp.seq.toNat ++
                  (beBytes 4 tcp.ack.toNat ++ ([0x50] ++
                    ([tcpFlags tcp len] ++ (beBytes 2 window.toNat ++
                      (leBytes 2 cs'.toNat ++ ([0, 0] ++
                        payload tcp data)))))))))))))))))) := by
  have hint := tcp.ip.pktSize_int
  have hlen : (UInt16.ofNat (20 + 20 + len)).toNat = 40 + len := by
    rw [UInt16.toNat_ofNat']
    omega
  rw [tcpTransmit_packet tcp data window h, ipHeader, ipHeaderFront, hlen,
    tcpSegment]
  simp only [ipHeaderBack, tcpHeaderFront, IP_TCP, List.append_assoc,
    List.cons_append, List.nil_append]
  exact ⟨_, _, rfl⟩

theorem validSegment_tcpTransmit (tcp : TcpContext) (r : Request)
    (h : 40 + r.len ≤ tcp.ip.pktSize.toNat) :
    ValidSegment
      { tcp := tcp
        request := r
        packet := (tcpTransmit tcp r.len r.data r.window).2 } := by
  have hint := tcp.ip.pktSize_int
  have hpayload := payload_length tcp r.data h
  have hpacket := tcpTransmit_packet tcp r.data r.window h
  have hsegment := tcpSegment_length tcp r.data r.window h
  rcases tcpTransmit_layout tcp r.data r.window h with ⟨cs, cs', hlayout⟩
  have hflags : tcpFlags tcp r.len =
      if tcp.seq = 1 then TCP_SYN
      else if 0 < r.len then TCP_ACK ||| TCP_PSH else TCP_ACK := by
    simp only [tcpFlags, Nat.pos_iff_ne_zero]
  have hsource : field (tcpTransmit tcp r.len r.data r.window).2 12 4 =
      leBytes 4 tcp.ip.saddr.toNat := by
    simp (disch := simp) only [hlayout, field_skip, field_head, leBytes_length,
      beBytes_length, List.length_cons, List.length_nil, Nat.reduceAdd,
      Nat.reduceSub]
  have hdestination : field (tcpTransmit tcp r.len r.data r.window).2 16 4 =
      leBytes 4 tcp.ip.daddr.toNat := by
    simp (disch := simp) only [hlayout, field_skip, field_head, leBytes_length,
      beBytes_length, List.length_cons, List.length_nil, Nat.reduceAdd,
      Nat.reduceSub]
  constructor
  case length_eq =>
    simp only [hpacket, List.length_append, ipHeader_length, hsegment]
    omega
  case source => exact hsource
  case destination => exact hdestination
  case ip_sum =>
    rw [hpacket, field_head _ (by simp)]
    exact internetSum_ipHeader tcp.ip _ IP_TCP
  case tcp_sum =>
    have htail : field (tcpTransmit tcp r.len r.data r.window).2 20
        (20 + r.len) = tcpSegment tcp r.data r.window := by
      rw [hpacket, field_skip _ (by simp), ipHeader_length]
      exact field_all hsegment.symm
    have hsum := internetSum_tcpSegment tcp r.data r.window h
    rw [pseudoHeader] at hsum
    rw [field_add _ 12 4 4, hsource, hdestination, htail]
    exact hsum
  case payload_eq =>
    simp (disch := simp) only [hlayout, field_skip, leBytes_length,
      beBytes_length, List.length_cons, List.length_nil, Nat.reduceAdd,
      Nat.reduceSub]
    exact field_all hpayload.symm
  -- The other fields stand alone in the layout; the big-endian ones are then
  -- read back.
  all_goals
    simp (disch := first | omega | simp) only [hlayout, field_skip, field_head,
      leBytes_length, beBytes_length, List.length_cons, List.length_nil,
      Nat.reduceAdd, Nat.reduceSub, hflags]
  case total_length => exact readBE_beBytes (by omega)
  case sequence_number => exact readBE_beBytes tcp.seq.toNat_lt
  case acknowledgement => exact readBE_beBytes tcp.ack.toNat_lt
  case window_eq => exact readBE_beBytes r.window.toNat_lt

/-!
## Segments of a run
-/

/-- What no call of the stack changes about a connection. -/
def SameSession (tcp tcp' : TcpContext) : Prop :=
  tcp'.ip.saddr = tcp.ip.saddr ∧ tcp'.ip.daddr = tcp.ip.daddr ∧
    tcp'.ip.pktSize = tcp.ip.pktSize ∧ tcp'.dstPort = tcp.dstPort ∧
    tcp'.srcPort = tcp.srcPort

theorem SameSession.refl (tcp : TcpContext) : SameSession tcp tcp :=
  ⟨rfl, rfl, rfl, rfl, rfl⟩

theorem SameSession.trans {tcp tcp' tcp'' : TcpContext}
    (h : SameSession tcp tcp') (h' : SameSession tcp' tcp'') :
    SameSession tcp tcp'' := by
  rcases h with ⟨h1, h2, h3, h4, h5⟩
  rcases h' with ⟨h1', h2', h3', h4', h5'⟩
  exact ⟨h1'.trans h1, h2'.trans h2, h3'.trans h3, h4'.trans h4, h5'.trans h5⟩

/-- From `w` to `w'` the log has grown by transmissions of the same session
whose arguments satisfy `ok`. -/
def Sends {σ : Type} (ok : Request -> Prop) (w w' : World σ) : Prop :=
  SameSession w.tcp w'.tcp ∧
    exists new : List Transmission, w'.sent = w.sent ++ new ∧
      forall t, t ∈ new -> SameSession w.tcp t.tcp ∧ ok t.request ∧
        t.packet =
          (tcpTransmit t.tcp t.request.len t.request.data t.request.window).2

variable {P : Platform} {σ : Type}

theorem Sends.silent {ok : Request -> Prop} {w w' : World σ}
    (htcp : SameSession w.tcp w'.tcp) (hsent : w'.sent = w.sent) :
    Sends ok w w' := by
  refine ⟨htcp, [], ?_, ?_⟩
  · rw [hsent, List.append_nil]
  · intro t ht
    cases ht

theorem Sends.trans {ok : Request -> Prop} {w w' w'' : World σ}
    (h : Sends ok w w') (h' : Sends ok w' w'') : Sends ok w w'' := by
  rcases h with ⟨htcp, new, hsent, hnew⟩
  rcases h' with ⟨htcp', new', hsent', hnew'⟩
  refine ⟨htcp.trans htcp', new ++ new', ?_, ?_⟩
  · rw [hsent', hsent, List.append_assoc]
  · intro t ht
    rcases List.mem_append.mp ht with hold | hlater
    · exact hnew t hold
    · rcases hnew' t hlater with ⟨hs, hok, hpacket⟩
      exact ⟨htcp.trans hs, hok, hpacket⟩

theorem Sends.mono {ok ok' : Request -> Prop} {w w' : World σ}
    (h : Sends ok w w') (himp : forall r, ok r -> ok' r) :
    Sends ok' w w' := by
  rcases h with ⟨htcp, new, hsent, hnew⟩
  refine ⟨htcp, new, hsent, ?_⟩
  intro t ht
  rcases hnew t ht with ⟨hs, hok, hpacket⟩
  exact ⟨hs, himp _ hok, hpacket⟩

theorem sends_transmit {ok : Request -> Prop} (w : World σ) {len : Nat}
    (data : Option (Buffer len)) (window : UInt16)
    (h : ok { len := len, data := data, window := window }) :
    Sends ok w (w.transmit len data window) := by
  refine ⟨⟨rfl, rfl, rfl, rfl, rfl⟩, _, rfl, ?_⟩
  intro t ht
  rw [List.mem_singleton] at ht
  subst ht
  exact ⟨SameSession.refl w.tcp, h, rfl⟩

theorem readHeaderSize_sameSession (tcp : TcpContext) :
    SameSession tcp (readHeaderSize tcp) :=
  SameSession.refl tcp

theorem advanceSeq_sameSession (tcp : TcpContext) :
    SameSession tcp (advanceSeq tcp) :=
  SameSession.refl tcp

theorem acceptData_sameSession (tcp : TcpContext) (len : Nat) :
    SameSession tcp (acceptData tcp len) :=
  SameSession.refl tcp

theorem synInput_sameSession (tcp : TcpContext) :
    SameSession tcp (synInput tcp).1 := by
  unfold synInput
  split
  · exact SameSession.refl tcp
  · split
    · exact SameSession.refl tcp
    · exact SameSession.refl tcp

theorem connectedInput_sameSession (tcp : TcpContext) (len : Nat) :
    SameSession tcp (connectedInput tcp len).1 := by
  unfold connectedInput
  split
  · exact SameSession.refl tcp
  · split
    · split
      · exact advanceSeq_sameSession tcp
      · exact (advanceSeq_sameSession tcp).trans (acceptData_sameSession _ len)
    · exact advanceSeq_sameSession tcp

theorem tcpInput_sameSession (P : Platform) (tcp : TcpContext) (len : Nat) :
    SameSession tcp (tcpInput P tcp len).1 := by
  unfold tcpInput
  split
  · exact SameSession.refl tcp
  · split
    · exact synInput_sameSession (readHeaderSize tcp)
    · exact connectedInput_sameSession (readHeaderSize tcp) len

theorem sends_received {ok : Request -> Prop} (w : World σ)
    (pkt : Buffer w.tcp.ip.pktSize.toNat) (line : σ) :
    Sends ok w (w.received pkt line) :=
  Sends.silent ⟨rfl, rfl, rfl, rfl, rfl⟩ rfl

/-- `tcp_send(tcp, 0, NULL, 0)`. -/
def ackRequest : Request where
  len := 0
  data := none
  window := 0

/-- The transmissions of a call: its own, and bare acknowledgements. -/
def OwnOrAck (r r' : Request) : Prop :=
  r' = r ∨ r' = ackRequest

theorem OwnOrAck.of_ack {r : Request} (r' : Request)
    (h : OwnOrAck ackRequest r') : OwnOrAck r r' := by
  rcases h with h | h <;> exact Or.inr h

theorem clampLen_zero (tcp : TcpContext) : clampLen tcp 0 = 0 := by
  rw [clampLen, if_neg]
  exact UInt16.not_lt_zero

/-- What the five mutually recursive functions transmit with a given fuel. -/
structure StackSends (L : Link P σ) (fuel : Nat) : Prop where
  send : forall (w : World σ) (len : Nat) (data : Option (Buffer len))
    (window : UInt16),
    Sends (OwnOrAck { len := len, data := data, window := window }) w
      (tcpSend L fuel w len data window).2
  sendAgain : forall (w : World σ) (len : Nat) (data : Option (Buffer len))
    (window : UInt16) (retries : Nat),
    Sends (OwnOrAck { len := len, data := data, window := window }) w
      (tcpSendAgain L fuel w len data window retries).2
  recv : forall (w : World σ) (len : UInt16),
    Sends (OwnOrAck { len := 0, data := none, window := clampLen w.tcp len }) w
      (tcpRecv L fuel w len).2
  recvTimeout : forall (w : World σ) (len : UInt16) (timeout : Int16),
    Sends (OwnOrAck { len := 0, data := none, window := clampLen w.tcp len }) w
      (tcpRecvTimeout L fuel w len timeout).2
  recvAgain : forall (w : World σ) (timeout : Int16),
    Sends (OwnOrAck ackRequest) w (tcpRecvAgain L fuel w timeout).2

theorem stackSends_zero (L : Link P σ) : StackSends L 0 := by
  constructor <;> intros <;>
    exact Sends.silent (SameSession.refl _) rfl

theorem StackSends.sendAgain_succ {L : Link P σ} {fuel : Nat}
    (h : StackSends L fuel) (w : World σ) (len : Nat)
    (data : Option (Buffer len)) (window : UInt16) (retries : Nat) :
    Sends (OwnOrAck { len := len, data := data, window := window }) w
      (tcpSendAgain L (fuel + 1) w len data window retries).2 := by
  have hown : Sends (OwnOrAck { len := len, data := data, window := window })
      w (w.transmit len data window) :=
    sends_transmit w data window (Or.inl rfl)
  have hrecv := h.recv (w.transmit len data window) 0
  rw [clampLen_zero] at hrecv
  have hwait := hown.trans (hrecv.mono OwnOrAck.of_ack)
  rw [tcpSendAgain]
  split
  · exact hown
  · rcases hresult : tcpRecv L fuel (w.transmit len data window) 0 with
      ⟨rc, w'⟩
    rw [hresult] at hwait
    cases rc with
    | none => exact hwait
    | some rc =>
        simp only
        split_ifs
        · exact hwait.trans (h.sendAgain w' len data window (retries + 1))
        · exact hwait
        · exact hwait
        · exact hwait

theorem StackSends.recvTimeout_succ {L : Link P σ} {fuel : Nat}
    (h : StackSends L fuel) (w : World σ) (len : UInt16) (timeout : Int16) :
    Sends (OwnOrAck { len := 0, data := none, window := clampLen w.tcp len }) w
      (tcpRecvTimeout L (fuel + 1) w len timeout).2 := by
  rw [tcpRecvTimeout]
  split_ifs
  · have hopen := h.send w 0 none (clampLen w.tcp len)
    rcases hresult : tcpSend L fuel w 0 none (clampLen w.tcp len) with
      ⟨rc, w'⟩
    rw [hresult] at hopen
    cases rc with
    | none => exact hopen
    | some rc =>
        exact hopen.trans ((h.recvAgain w' timeout).mono OwnOrAck.of_ack)
  · exact (h.recvAgain w timeout).mono OwnOrAck.of_ack

theorem StackSends.recvAgain_succ {L : Link P σ} {fuel : Nat}
    (h : StackSends L fuel) (w : World σ) (timeout : Int16) :
    Sends (OwnOrAck ackRequest) w
      (tcpRecvAgain L (fuel + 1) w timeout).2 := by
  rw [tcpRecvAgain]
  rcases L.recvPacket w.tcp.ip.pkt timeout w.line with _ | ⟨len, pkt, line⟩
  · exact Sends.silent (SameSession.refl w.tcp) rfl
  · have hreceived : Sends (OwnOrAck ackRequest) w (w.received pkt line) :=
      sends_received w pkt line
    simp only
    split_ifs
    · exact hreceived
    · have hsession :=
        tcpInput_sameSession P (w.received pkt line).tcp len.toNat
      rcases hresult : tcpInput P (w.received pkt line).tcp len.toNat with
        ⟨tcp, action⟩
      rw [hresult] at hsession
      have hinput : Sends (OwnOrAck ackRequest) w
          { w.received pkt line with tcp := tcp } :=
        hreceived.trans (Sends.silent hsession rfl)
      have hack := h.send { w.received pkt line with tcp := tcp } 0 none 0
      cases action with
      | ret rc => exact hinput
      | again => exact hinput.trans (h.recvAgain _ timeout)
      | ackSyn =>
          simp only
          rcases hcall : tcpSend L fuel
            { w.received pkt line with tcp := tcp } 0 none 0 with ⟨rc, w'⟩
          rw [hcall] at hack
          cases rc <;> exact hinput.trans hack
      | ackData =>
          simp only
          rcases hcall : tcpSend L fuel
            { w.received pkt line with tcp := tcp } 0 none 0 with ⟨rc, w'⟩
          rw [hcall] at hack
          cases rc <;> exact hinput.trans hack

theorem stackSends (L : Link P σ) (fuel : Nat) : StackSends L fuel := by
  induction fuel with
  | zero => exact stackSends_zero L
  | succ fuel ih =>
      constructor
      · intro w len data window
        rw [tcpSend]
        exact ih.sendAgain w len data window 0
      · exact ih.sendAgain_succ
      · intro w len
        rw [tcpRecv]
        exact ih.recvTimeout w len P.rs232Tps
      · exact ih.recvTimeout_succ
      · exact ih.recvAgain_succ

/-!
## The theorem
-/

/-- Every packet of a call of `tcp_send` is a valid segment of the session.  It
carries the call's own length, payload and window, or it is an acknowledgement
of data received while waiting. -/
theorem tcpSend_validSegments (L : Link P σ) (fuel : Nat) (w : World σ)
    (len : Nat) (data : Option (Buffer len)) (window : UInt16)
    (h : 40 + len ≤ w.tcp.ip.pktSize.toNat) :
    exists new : List Transmission,
      (tcpSend L fuel w len data window).2.sent = w.sent ++ new ∧
        forall t, t ∈ new ->
          ValidSegment t ∧ SameSession w.tcp t.tcp ∧
            (t.request = { len := len, data := data, window := window } ∨
              t.request = ackRequest) := by
  rcases (stackSends L fuel).send w len data window with ⟨_, new, hsent, hnew⟩
  refine ⟨new, hsent, ?_⟩
  intro t ht
  rcases hnew t ht with ⟨hsession, hown, hpacket⟩
  have hroom : 40 + t.request.len ≤ t.tcp.ip.pktSize.toNat := by
    rw [hsession.right.right.left]
    rcases hown with hown | hown <;> rw [hown]
    · exact h
    · show 40 + 0 ≤ _
      omega
  have hvalid := validSegment_tcpTransmit t.tcp t.request hroom
  rw [← hpacket] at hvalid
  exact ⟨hvalid, hsession, hown⟩

/-- One odd byte of payload, retransmitted to a peer that stays silent. -/
theorem tcpSend_validSegments_odd_payload :
    exists new : List Transmission,
      (tcpSend (scriptLink Platform.spectrum) 40
          { tcp := TcpContext.loopback 2 7, line := [], sent := [] } 1
          (some ⟨[0x41], rfl⟩) 0).2.sent = [] ++ new ∧
        forall t, t ∈ new ->
          ValidSegment t ∧ SameSession (TcpContext.loopback 2 7) t.tcp ∧
            (t.request =
                { len := 1, data := some ⟨[0x41], rfl⟩, window := 0 } ∨
              t.request = ackRequest) :=
  tcpSend_validSegments (scriptLink Platform.spectrum) 40
    { tcp := TcpContext.loopback 2 7, line := [], sent := [] } 1
    (some ⟨[0x41], rfl⟩) 0 (by decide)

end Tcp
end Z80Tcpip
