import Z80Tcpip.Tcp.Connect
import Z80Tcpip.Tcp.ScriptRuns

/-!
# What a connection attempt comes to

`tcp_connect` returns whatever arrives: with 0 once a SYN-ACK for the current
pair of ports has been acknowledged, with -1 after at most 30 SYNs.
-/

namespace Z80Tcpip
namespace Tcp

open Foundation
open Ip

variable {P : Platform} {σ : Type}

/-!
## Every call returns
-/

/-- A link on which every call of `recv_packet` returns. -/
def Link.Answers (L : Link P σ) : Prop :=
  forall {len : Nat} (p : Buffer len) (timeout : Int16) (line : σ),
    L.recvPacket p timeout line ≠ none

theorem scriptLink_answers (P : Platform) : (scriptLink P).Answers := by
  intro len p timeout line h
  cases h

section Returns

variable {L : Link P σ} (hlink : L.Answers)

include hlink

theorem tcpRecvAgain_syn_returns (fuel : Nat) (timeout : Int16) {w : World σ}
    (hout : w.tcp.seq = 1) :
    exists (rc : Int) (w' : World σ),
      tcpRecvAgain L (fuel + 3) w timeout = (some rc, w') := by
  rcases hrecv : L.recvPacket w.tcp.ip.pkt timeout w.line with
    _ | ⟨len, pkt, line⟩
  · exact absurd hrecv (hlink _ _ _)
  · rcases L.recvPacket_spec hrecv with
      ⟨hlen, hpkt⟩ | ⟨bs, hfit, hlen, hpkt⟩
    · subst hlen hpkt
      rw [tcpRecvAgain_idle (fuel + 2) hrecv]
      exact ⟨_, _, rfl⟩
    · subst hlen hpkt
      have hdeliver : Delivers L timeout w bs line := ⟨hfit, hrecv⟩
      by_cases hpass : Passes w.tcp bs
      · have hinput := tcpInput_syn_packet (P := P) line hfit hout hpass
        split_ifs at hinput with hack hsyn
        · rw [tcpRecvAgain_packet (fuel + 2) hdeliver hinput]
          exact ⟨_, _, rfl⟩
        · have hconn : 1 < (w.synced bs line).tcp.seq := by
            show 1 < packetAck bs
            rw [not_not.mp hack]
            decide
          have hack := tcpRecvAction_ackSyn L fuel timeout bs.length hconn
          rw [tcpRecvAgain_packet (fuel + 2) hdeliver hinput]
          exact ⟨_, _, hack⟩
        · rw [tcpRecvAgain_packet (fuel + 2) hdeliver hinput]
          exact ⟨_, _, rfl⟩
      · rcases tcpInput_refused (P := P) line hfit hpass with ⟨rc, _, hinput⟩
        rw [tcpRecvAgain_packet (fuel + 2) hdeliver hinput]
        exact ⟨_, _, rfl⟩

theorem tcpRecv_syn_returns (fuel : Nat) {w : World σ}
    (hout : w.tcp.seq = 1) :
    exists (rc : Int) (w' : World σ),
      tcpRecv L (fuel + 5) w 0 = (some rc, w') := by
  rw [tcpRecv, tcpRecvTimeout, clampLen_zero, if_neg (fun hne => hne rfl)]
  exact tcpRecvAgain_syn_returns hlink fuel P.rs232Tps hout

/-- A SYN and what comes behind it; `hmore` is the next SYN. -/
theorem syn_round_returns {fuel retries : Nat} {w : World σ}
    (hfuel : 5 ≤ fuel) (hout : w.tcp.seq = 1)
    (hmore : forall w1 : World σ, w1.tcp.seq = 1 -> retries < 5 ->
      exists (rc : Int) (w' : World σ),
        tcpSendAgain L fuel w1 0 none 1 (retries + 1) = (some rc, w')) :
    exists (rc : Int) (w' : World σ),
      tcpSendAgain L (fuel + 1) w 0 none 1 retries = (some rc, w') := by
  have heagain := P.eagain_pos
  have hwait : ¬ (1 < (w.transmit 0 none 1).tcp.seq ∧ 0 = 0) := by
    rw [World.transmit_seq, hout]
    decide
  rcases tcpRecv_syn_returns hlink (fuel - 5) (w := w.transmit 0 none 1) hout
    with ⟨rc, w1, hrecv⟩
  rw [Nat.sub_add_cancel hfuel] at hrecv
  rw [tcpSendAgain, if_neg hwait, hrecv]
  simp only
  split_ifs with hagain hretry
  · cases tcpRecv_syn (w := w.transmit 0 none 1) hout hrecv with
    | failed _ hstill => exact hmore w1 (hstill.seq_eq.trans hout) hretry
    | answered => omega
  · exact ⟨_, _, rfl⟩
  · exact ⟨_, _, rfl⟩
  · exact ⟨_, _, rfl⟩

theorem tcpSendAgain_syn_returns {n : Nat} :
    forall {fuel retries : Nat} {w : World σ}, w.tcp.seq = 1 ->
      5 - retries = n -> n + 6 ≤ fuel ->
        exists (rc : Int) (w' : World σ),
          tcpSendAgain L fuel w 0 none 1 retries = (some rc, w') := by
  induction n with
  | zero =>
      intro fuel retries w hout hn hfuel
      rw [← Nat.sub_add_cancel (show 1 ≤ fuel by omega)]
      refine syn_round_returns hlink (by omega) hout ?_
      intro w1 _ hretry
      omega
  | succ n ih =>
      intro fuel retries w hout hn hfuel
      rw [← Nat.sub_add_cancel (show 1 ≤ fuel by omega)]
      refine syn_round_returns hlink (by omega) hout ?_
      intro w1 hout1 _
      exact ih hout1 (by omega) (by omega)

theorem connectLoop_returns (fuel : Nat) (register : Nat -> UInt8)
    (turns : Nat) :
    forall w : World σ, exists (rc : Int) (w' : World σ),
      connectLoop L (fuel + 12) register turns w = (some rc, w') := by
  induction turns with
  | zero =>
      intro w
      exact ⟨_, _, rfl⟩
  | succ turns ih =>
      intro w
      have hout : w.resetNumbers.tcp.seq = 1 := rfl
      rcases tcpSendAgain_syn_returns hlink hout (show 5 - 0 = 5 from rfl)
        (show 5 + 6 ≤ fuel + 11 by omega) with ⟨rc, w1, hsend⟩
      have hcall : tcpSend L (fuel + 12) w.resetNumbers 0 none 1 =
          (some rc, w1) := by
        rw [tcpSend]
        exact hsend
      rw [connectLoop, hcall]
      simp only
      split_ifs
      · exact ⟨_, _, rfl⟩
      · exact ih _

end Returns

/-!
## The segments
-/

/-- A segment whose only flag is SYN. -/
def IsSyn (t : Transmission) : Prop :=
  field t.packet 33 1 = [TCP_SYN]

instance (t : Transmission) : Decidable (IsSyn t) :=
  inferInstanceAs (Decidable (_ = _))

/-- A segment without payload whose only flag is ACK. -/
structure PureAck (t : Transmission) (seq ack : UInt32) : Prop where
  length_eq : t.packet.length = 40
  flags : field t.packet 33 1 = [TCP_ACK]
  sequence_number : readBE (field t.packet 24 4) = seq.toNat
  acknowledgement : readBE (field t.packet 28 4) = ack.toNat

theorem isSyn_synOf {tcp : TcpContext} (hseq : tcp.seq = 1)
    (hsize : 40 ≤ tcp.ip.pktSize.toNat) : IsSyn (synOf tcp) := by
  have hvalid := validSegment_tcpTransmit tcp
    { len := 0, data := none, window := 1 } hsize
  have hflags := hvalid.flags
  rw [if_pos hseq] at hflags
  exact hflags

/-- The segment of `tcp_send(tcp, 0, NULL, window)` on an established
connection. -/
theorem pureAck_transmit (tcp : TcpContext) (window : UInt16)
    (hconn : 1 < tcp.seq) (hsize : 40 ≤ tcp.ip.pktSize.toNat) :
    PureAck
      { tcp := tcp
        request := { len := 0, data := none, window := window }
        packet := (tcpTransmit tcp 0 none window).2 } tcp.seq tcp.ack := by
  have hvalid := validSegment_tcpTransmit tcp
    { len := 0, data := none, window := window } hsize
  have hflags := hvalid.flags
  have hne : tcp.seq ≠ 1 := by
    intro hone
    rw [hone] at hconn
    exact absurd hconn (by decide)
  rw [if_neg hne, if_neg (Nat.lt_irrefl 0)] at hflags
  exact ⟨hvalid.length_eq, hflags, hvalid.sequence_number,
    hvalid.acknowledgement⟩

theorem PureAck.not_isSyn {t : Transmission} {seq ack : UInt32}
    (h : PureAck t seq ack) : ¬ IsSyn t := by
  intro hsyn
  rw [IsSyn, h.flags] at hsyn
  exact absurd hsyn (by decide)

theorem OnlySyns.isSyn {L : Link P σ} {n : Nat} {w w' : World σ}
    (h : OnlySyns L n w w')
    (hsize : 40 ≤ w.tcp.ip.pktSize.toNat) :
    exists syns : List Transmission, w'.sent = w.sent ++ syns ∧
      syns.length ≤ n ∧ forall t, t ∈ syns -> IsSyn t := by
  rcases h with ⟨_, tcps, hsent, hlen, hall⟩
  refine ⟨tcps.map synOf, hsent, ?_, ?_⟩
  · rw [List.length_map]
    exact hlen
  · intro t ht
    rcases List.mem_map.mp ht with ⟨tcp, hmem, rfl⟩
    rcases hall tcp hmem with ⟨hseq, hsame⟩
    exact isSyn_synOf hseq (by rw [hsame]; exact hsize)

/-!
## The outcome
-/

/-- From `w` on only SYNs were sent.  Right after one more of them, which the
world `w1` sent from the pair of ports that is still in use, the packet `bs` was
received, and acknowledged. -/
structure ConnectedBy (L : Link P σ) (w w1 : World σ) (bs : List UInt8)
    (w' : World σ) : Prop where
  heard : L.Heard w.line w1.line
  earlier : exists syns : List Transmission,
    w1.sent = w.sent ++ syns ∧ forall t, t ∈ syns -> IsSyn t
  syn_out : w1.tcp.seq = 1
  session : SameSession w1.tcp w'.tcp
  arrived : Delivers L P.rs232Tps (w1.transmit 0 none 1) bs w'.line
  syn_ack : SynAck w'.tcp bs
  seq_eq : w'.tcp.seq = 2
  ack_eq : w'.tcp.ack = packetSeq bs + 1
  acknowledged : exists ack : Transmission,
    w'.sent = (w1.transmit 0 none 1).sent ++ [ack] ∧
      PureAck ack w'.tcp.seq w'.tcp.ack

theorem Handshake.connectedBy {L : Link P σ} {n : Nat} {w w1 w' : World σ}
    (hsyns : OnlySyns L n w w1) (hout : w1.tcp.seq = 1)
    (hsame : w1.tcp.ip.pktSize = w.tcp.ip.pktSize)
    (hsize : 40 ≤ w.tcp.ip.pktSize.toNat) (h : Handshake L w1 w') :
    exists bs : List UInt8, ConnectedBy L w w1 bs w' := by
  have hseq := h.seq_eq
  have hsize1 : 40 ≤ w1.tcp.ip.pktSize.toNat := by
    rw [hsame]
    exact hsize
  rcases hsyns.isSyn hsize with ⟨syns, hsent, _, hall⟩
  cases h with
  | @intro bs line hrecv hsyn =>
      have hconn : 1 < ((w1.transmit 0 none 1).synced bs line).tcp.seq := by
        show 1 < packetAck bs
        rw [hsyn.ack_eq]
        decide
      have hsession : SameSession
          (((w1.transmit 0 none 1).synced bs line).transmit 0 none 0).tcp
          w1.tcp :=
        ⟨rfl, rfl, rfl, rfl, rfl⟩
      refine ⟨bs, hsyns.left, ⟨syns, hsent, hall⟩, hout,
        ⟨rfl, rfl, rfl, rfl, rfl⟩, hrecv, hsyn.sameSession hsession, hseq, rfl,
        _, rfl, ?_⟩
      exact pureAck_transmit ((w1.transmit 0 none 1).synced bs line).tcp 0
        hconn hsize1

/-- Over any script and whatever the R register adds to the port,
`tcp_connect` returns 0 on an acknowledged SYN-ACK or gives up with -1, after at
most 30 SYNs. -/
theorem tcpConnect_outcome (P : Platform) (fuel : Nat)
    (register : Nat -> UInt8) {w : World Script}
    (hsize : 40 ≤ w.tcp.ip.pktSize.toNat) :
    exists (rc : Int) (w' : World Script) (new : List Transmission),
      tcpConnect (scriptLink P) (fuel + 12) register w = (some rc, w') ∧
        w'.sent = w.sent ++ new ∧ new.countP (fun t => IsSyn t) ≤ 30 ∧
        ((rc = 0 ∧ exists (w1 : World Script) (bs : List UInt8),
            ConnectedBy (scriptLink P) w w1 bs w') ∨
          (rc = -1 ∧ w'.tcp.seq = 1 ∧ w'.tcp.ack = 0 ∧
            forall t, t ∈ new -> IsSyn t)) := by
  rcases connectLoop_returns (scriptLink_answers P) fuel register 5
    { w with tcp := { w.tcp with ths := 0 } } with ⟨rc, w', hcall⟩
  have hconnect : tcpConnect (scriptLink P) (fuel + 12) register w =
      (some rc, w') :=
    hcall
  rcases tcpConnect_attempted hconnect with
    ⟨hrc, hseq, hack, hsyns⟩ | ⟨hrc, w1, hout, hsame, hsyns, hdone⟩
  · rcases hsyns.isSyn hsize with ⟨new, hsent, hlen, hall⟩
    exact ⟨rc, w', new, hconnect, hsent,
      Nat.le_trans List.countP_le_length hlen,
      Or.inr ⟨hrc, hseq, hack, hall⟩⟩
  · have hsize1 : 40 ≤ w1.tcp.ip.pktSize.toNat := by
      rw [hsame]
      exact hsize
    rcases hsyns.isSyn hsize with ⟨earlier, hsent, hlen, _⟩
    rcases hdone.connectedBy hsyns hout hsame hsize with ⟨bs, hby⟩
    rcases hby.acknowledged with ⟨ack, hack, hpure⟩
    refine ⟨rc, w', earlier ++ [synOf w1.tcp, ack], hconnect, ?_, ?_,
      Or.inl ⟨hrc, w1, bs, hby⟩⟩
    · have hlast : (w1.transmit 0 none 1).sent =
          w1.sent ++ [synOf w1.tcp] := rfl
      rw [hack, hlast, hsent, List.append_assoc, List.append_assoc]
      rfl
    · have hcount := List.countP_le_length
        (p := fun t => decide (IsSyn t)) (l := earlier)
      have hnot : decide (IsSyn ack) = false :=
        decide_eq_false hpure.not_isSyn
      have hyes : decide (IsSyn (synOf w1.tcp)) = true :=
        decide_eq_true (isSyn_synOf hout hsize1)
      rw [List.countP_append, List.countP_cons, List.countP_cons, hnot, hyes,
        List.countP_nil, if_pos rfl, if_neg Bool.false_ne_true]
      omega

/-- A SYN-ACK of the peer of the loopback connection. -/
def peerSynAck (seq : UInt32) : List UInt8 :=
  (peerSegment seq 2 []).set 33 (TCP_SYN ||| TCP_ACK)

/-- The peer answers the second SYN. -/
theorem tcpConnect_outcome_second_syn :
    exists (rc : Int) (w' : World Script) (new : List Transmission),
      tcpConnect (scriptLink Platform.spectrum) (0 + 12) (fun _ => 0)
          { tcp := TcpContext.loopback 0 0
            line := [none, some (peerSynAck 7)]
            sent := [] } = (some rc, w') ∧
        w'.sent = [] ++ new ∧ new.countP (fun t => IsSyn t) ≤ 30 ∧
        ((rc = 0 ∧ exists (w1 : World Script) (bs : List UInt8),
            ConnectedBy (scriptLink Platform.spectrum)
              { tcp := TcpContext.loopback 0 0
                line := [none, some (peerSynAck 7)]
                sent := [] } w1 bs w') ∨
          (rc = -1 ∧ w'.tcp.seq = 1 ∧ w'.tcp.ack = 0 ∧
            forall t, t ∈ new -> IsSyn t)) :=
  tcpConnect_outcome Platform.spectrum 0 (fun _ => 0)
    (w := { tcp := TcpContext.loopback 0 0
            line := [none, some (peerSynAck 7)]
            sent := [] })
    (by decide)

end Tcp
end Z80Tcpip
