import Z80Tcpip.Tcp.Connected

/-!
# Connecting

`tcp_connect` and what is known of the connection when it succeeds.
-/

namespace Z80Tcpip
namespace Tcp

open Foundation
open Ip

variable {P : Platform} {σ : Type}

/-- `tcp->seq = 1; tcp->ack = 0;` -/
def World.resetNumbers (w : World σ) : World σ :=
  { w with tcp := { w.tcp with seq := 1, ack := 0 } }

/-- The next source port: the checksum in the buffer and the R register are
added to it. -/
def World.nextPort (w : World σ) (r : UInt8) : World σ :=
  { w with
    tcp :=
      { w.tcp with
        srcPort := w.tcp.srcPort +
          UInt16.ofNat (readLE (w.tcp.ip.pkt.slice (20 + 16) 2)) +
          r.toUInt16 } }

/-- The loop of `tcp_connect`; `register` is what `get_r_register` returns when
that many turns are left. -/
def connectLoop (L : Link P σ) (fuel : Nat) (register : Nat -> UInt8) :
    Nat -> World σ -> Option Int × World σ
  | 0, w => (some (-1), w)
  | turns + 1, w =>
      match tcpSend L fuel w.resetNumbers 0 none 1 with
      | (none, w) => (none, w)
      | (some rc, w) =>
          if 0 ≤ rc then (some rc, w)
          else connectLoop L fuel register turns (w.nextPort (register turns))

/-- tcp.c `tcp_connect`. -/
def tcpConnect (L : Link P σ) (fuel : Nat) (register : Nat -> UInt8)
    (w : World σ) : Option Int × World σ :=
  connectLoop L fuel register 5 { w with tcp := { w.tcp with ths := 0 } }

/-!
## The handshake
-/

/-- The peer's SYN has been answered: the connection is established and its
last segment is a bare acknowledgement with the window closed. -/
def Answered (w : World σ) : Prop :=
  exists w1 : World σ, 1 < w1.tcp.seq ∧ w = w1.transmit 0 none 0

/-- A packet of the peer that answers the SYN. -/
structure SynAck (tcp : TcpContext) (bs : List UInt8) : Prop where
  passes : Passes tcp bs
  syn : bs.getD 33 0 &&& TCP_SYN ≠ 0
  ack_eq : packetAck bs = 2

/-- The world once the numbers of a SYN-ACK have been taken over. -/
def World.synced (w : World σ) (bs : List UInt8) (line : σ) : World σ :=
  { w.arrive bs line with
    tcp :=
      { readHeaderSize (w.arrive bs line).tcp with
        seq := packetAck bs
        ack := packetSeq bs + 1 } }

/-- The numbers are as before and nothing has been sent. -/
structure StillOut (L : Link P σ) (w w' : World σ) : Prop where
  session : SameSession w.tcp w'.tcp
  seq_eq : w'.tcp.seq = w.tcp.seq
  ack_eq : w'.tcp.ack = w.tcp.ack
  sent_eq : w'.sent = w.sent
  heard : L.Heard w.line w'.line

/-- A call of `tcp_recv_timeout` while the SYN is out. -/
inductive SynReceived (L : Link P σ) (timeout : Int16) (w : World σ) :
    Int -> World σ -> Prop
  | failed {w' : World σ} {rc : Int} (hneg : rc < 0) (hout : StillOut L w w') :
      SynReceived L timeout w rc w'
  | answered {bs : List UInt8} {line : σ}
      (hrecv : Delivers L timeout w bs line) (hsyn : SynAck w.tcp bs) :
      SynReceived L timeout w 0 ((w.synced bs line).transmit 0 none 0)

theorem tcpInput_syn_packet {w : World σ} {bs : List UInt8} (line : σ)
    (hfit : bs.length ≤ w.tcp.ip.pktSize.toNat) (hout : w.tcp.seq = 1)
    (h : Passes w.tcp bs) :
    tcpInput P (w.arrive bs line).tcp bs.length =
      if packetAck bs ≠ 2 then
        ((w.noted bs line).tcp, .ret (-(ERESET : Int)))
      else if bs.getD 33 0 &&& TCP_SYN ≠ 0 then
        ((w.synced bs line).tcp, .ackSyn)
      else ((w.noted bs line).tcp, .ret (-1)) := by
  have hlong := h.long
  have hseq : (w.arrive bs line).tcp.seq = 1 := hout
  have htwo : (1 : UInt32) + 1 = 2 := rfl
  have hflags : headerFlags (readHeaderSize (w.arrive bs line).tcp) =
      bs.getD 33 0 :=
    get_arrive line hfit (by omega)
  rw [tcpInput, sanityChecks_passes line hfit h]
  simp only
  rw [if_pos hseq, synInput, readHeaderSize_seq, hseq, htwo,
    headerAck_readHeaderSize, headerAck_arrive line hfit hlong,
    headerSeq_readHeaderSize, headerSeq_arrive line hfit hlong, hflags]
  rfl

theorem tcpRecvAgain_syn {L : Link P σ} {fuel : Nat} {timeout : Int16}
    {w w' : World σ} {rc : Int} (hout : w.tcp.seq = 1)
    (h : tcpRecvAgain L fuel w timeout = (some rc, w')) :
    SynReceived L timeout w rc w' := by
  have heagain := P.eagain_pos
  have hreset : ERESET = 20 := rfl
  cases fuel with
  | zero => cases h
  | succ fuel =>
      rcases hrecv : L.recvPacket w.tcp.ip.pkt timeout w.line with
        _ | ⟨len, pkt, line⟩
      · rw [tcpRecvAgain, hrecv] at h
        cases h
      · rcases L.recvPacket_spec hrecv with
          ⟨hlen, hpkt⟩ | ⟨bs, hfit, hlen, hpkt⟩
        · subst hlen hpkt
          rw [tcpRecvAgain_idle fuel hrecv] at h
          cases h
          exact .failed (by omega)
            ⟨SameSession.refl _, rfl, rfl, rfl, .single hrecv⟩
        · subst hlen hpkt
          have hdeliver : Delivers L timeout w bs line := ⟨hfit, hrecv⟩
          by_cases hpass : Passes w.tcp bs
          · have hinput := tcpInput_syn_packet (P := P) line hfit hout hpass
            split_ifs at hinput with hack hsyn
            · rw [tcpRecvAgain_packet fuel hdeliver hinput] at h
              cases h
              exact .failed (by omega)
                ⟨SameSession.refl _, rfl, rfl, rfl, .single hrecv⟩
            · have htwo : packetAck bs = 2 := not_not.mp hack
              have hconn : 1 < (w.synced bs line).tcp.seq := by
                show 1 < packetAck bs
                rw [htwo]
                decide
              rw [tcpRecvAgain_packet fuel hdeliver hinput, tcpRecvAction] at h
              change (match tcpSend L fuel (w.synced bs line) 0 none 0 with
                | (none, w) => _
                | (some _, w) => _) = _ at h
              rcases hsend : tcpSend L fuel (w.synced bs line) 0 none 0 with
                ⟨_ | rc', w1⟩
              · rw [hsend] at h
                cases h
              · rw [hsend, tcpSend_ack hconn hsend] at h
                cases h
                exact .answered hdeliver ⟨hpass, hsyn, htwo⟩
            · rw [tcpRecvAgain_packet fuel hdeliver hinput] at h
              cases h
              exact .failed (by omega)
                ⟨SameSession.refl _, rfl, rfl, rfl, .single hrecv⟩
          · rcases tcpInput_refused (P := P) line hfit hpass with
              ⟨rc', hrc, hinput⟩
            rw [tcpRecvAgain_packet fuel hdeliver hinput] at h
            cases h
            exact .failed (by omega)
              ⟨SameSession.refl _, rfl, rfl, rfl, .single hrecv⟩

theorem tcpRecv_syn {L : Link P σ} {fuel : Nat} {w w' : World σ} {rc : Int}
    (hout : w.tcp.seq = 1) (h : tcpRecv L fuel w 0 = (some rc, w')) :
    SynReceived L P.rs232Tps w rc w' := by
  match fuel with
  | 0 => cases h
  | 1 => cases h
  | fuel + 2 =>
      rw [tcpRecv, tcpRecvTimeout, clampLen_zero,
        if_neg (fun hne => hne rfl)] at h
      exact tcpRecvAgain_syn hout h

/-!
## Attempts
-/

/-- The SYN that a connection transmits. -/
def synOf (tcp : TcpContext) : Transmission where
  tcp := tcp
  request := { len := 0, data := none, window := 1 }
  packet := (tcpTransmit tcp 0 none 1).2

/-- From `w` to `w'` the stack has listened to the line, and at most `n` segments
have been transmitted, all of them SYNs out of a buffer of the same size. -/
def OnlySyns (L : Link P σ) (n : Nat) (w w' : World σ) : Prop :=
  L.Heard w.line w'.line ∧
    exists tcps : List TcpContext,
      w'.sent = w.sent ++ tcps.map synOf ∧ tcps.length ≤ n ∧
        forall tcp, tcp ∈ tcps ->
          tcp.seq = 1 ∧ tcp.ip.pktSize = w.tcp.ip.pktSize

/-- The last SYN goes out in the world `w1`, a SYN-ACK for it comes in and is
acknowledged. -/
inductive Handshake (L : Link P σ) (w1 : World σ) : World σ -> Prop
  | intro {bs : List UInt8} {line : σ}
      (hrecv : Delivers L P.rs232Tps (w1.transmit 0 none 1) bs line)
      (hsyn : SynAck w1.tcp bs) :
      Handshake L w1
        (((w1.transmit 0 none 1).synced bs line).transmit 0 none 0)

theorem SynAck.sameSession {tcp tcp' : TcpContext} {bs : List UInt8}
    (hsession : SameSession tcp tcp') (h : SynAck tcp' bs) : SynAck tcp bs :=
  ⟨(Passes.sameSession hsession).mp h.passes, h.syn, h.ack_eq⟩

section OnlySyns

variable {L : Link P σ} {n m : Nat} {w w' w'' : World σ}

theorem OnlySyns.of_sent_eq (hline : L.Heard w.line w'.line)
    (h : w'.sent = w.sent) : OnlySyns L n w w' := by
  refine ⟨hline, [], ?_, Nat.zero_le n, ?_⟩
  · rw [h, List.map_nil, List.append_nil]
  · intro tcp htcp
    cases htcp

theorem OnlySyns.mono (h : OnlySyns L n w w') (hle : n ≤ m) :
    OnlySyns L m w w' := by
  rcases h with ⟨hline, tcps, hsent, hlen, hall⟩
  exact ⟨hline, tcps, hsent, Nat.le_trans hlen hle, hall⟩

theorem OnlySyns.trans (hsize : w'.tcp.ip.pktSize = w.tcp.ip.pktSize)
    (h : OnlySyns L n w w') (h' : OnlySyns L m w' w'') :
    OnlySyns L (n + m) w w'' := by
  rcases h with ⟨hline, tcps, hsent, hlen, hall⟩
  rcases h' with ⟨hline', tcps', hsent', hlen', hall'⟩
  refine ⟨hline.trans hline', tcps ++ tcps', ?_, ?_, ?_⟩
  · rw [hsent', hsent, List.map_append, List.append_assoc]
  · rw [List.length_append]
    omega
  · intro tcp htcp
    rcases List.mem_append.mp htcp with hold | hlater
    · exact hall tcp hold
    · rw [← hsize]
      exact hall' tcp hlater

theorem onlySyns_transmit (L : Link P σ) (hout : w.tcp.seq = 1) :
    OnlySyns L 1 w (w.transmit 0 none 1) := by
  refine ⟨.refl _, [w.tcp], rfl, Nat.le_refl 1, ?_⟩
  intro tcp htcp
  rw [List.mem_singleton.mp htcp]
  exact ⟨hout, rfl⟩

theorem StillOut.onlySyns (hout : w.tcp.seq = 1)
    (h : StillOut L (w.transmit 0 none 1) w') : OnlySyns L 1 w w' := by
  have hsize : (w.transmit 0 none 1).tcp.ip.pktSize = w.tcp.ip.pktSize := rfl
  have hrest : OnlySyns L 0 (w.transmit 0 none 1) w' :=
    .of_sent_eq h.heard h.sent_eq
  exact OnlySyns.trans hsize (onlySyns_transmit L hout) hrest

end OnlySyns

/-- The SYN is sent until it is answered or given up. -/
theorem tcpSendAgain_syn {L : Link P σ} {rc : Int} {w' : World σ} :
    forall {fuel retries : Nat} {w : World σ}, w.tcp.seq = 1 -> retries ≤ 5 ->
      tcpSendAgain L fuel w 0 none 1 retries = (some rc, w') ->
        (rc < 0 ∧ SameSession w.tcp w'.tcp ∧ w'.tcp.seq = 1 ∧
          w'.tcp.ack = w.tcp.ack ∧ OnlySyns L (6 - retries) w w') ∨
        (rc = 0 ∧ exists w1 : World σ,
          SameSession w.tcp w1.tcp ∧ w1.tcp.seq = 1 ∧
          OnlySyns L (5 - retries) w w1 ∧ Handshake L w1 w') := by
  intro fuel
  induction fuel with
  | zero =>
      intro retries w _ _ h
      cases h
  | succ fuel ih =>
      intro retries w hout hle h
      have hwait : ¬ (1 < (w.transmit 0 none 1).tcp.seq ∧ 0 = 0) := by
        rw [World.transmit_seq, hout]
        decide
      rw [tcpSendAgain, if_neg hwait] at h
      rcases hrecv : tcpRecv L fuel (w.transmit 0 none 1) 0 with
        ⟨_ | rc', w2⟩
      · rw [hrecv] at h
        cases h
      · have heagain := P.eagain_pos
        rw [hrecv] at h
        simp only at h
        cases tcpRecv_syn (w := w.transmit 0 none 1) hout hrecv with
        | failed hneg hstill =>
            have hsession : SameSession w.tcp w2.tcp := hstill.session
            have hout2 : w2.tcp.seq = 1 := hstill.seq_eq.trans hout
            have hack2 : w2.tcp.ack = w.tcp.ack := hstill.ack_eq
            have hsyns := hstill.onlySyns hout
            split_ifs at h with hagain hmore
            · rcases ih hout2 (by omega) h with
                ⟨hrc, hsession', hseq, hack, hrest⟩ |
                ⟨hrc, w1, hsession', hseq, hrest, hdone⟩
              · refine Or.inl ⟨hrc, hsession.trans hsession', hseq,
                  hack.trans hack2, ?_⟩
                exact (hsyns.trans hsession.right.right.left hrest).mono
                  (by omega)
              · refine Or.inr ⟨hrc, w1, hsession.trans hsession', hseq, ?_,
                  hdone⟩
                exact (hsyns.trans hsession.right.right.left hrest).mono
                  (by omega)
            · cases h
              exact Or.inl ⟨by decide, hsession, hout2, hack2,
                hsyns.mono (by omega)⟩
            · cases h
              exact Or.inl ⟨hneg, hsession, hout2, hack2,
                hsyns.mono (by omega)⟩
        | answered hdeliver hsyn =>
            have hsession : SameSession w.tcp (w.transmit 0 none 1).tcp :=
              ⟨rfl, rfl, rfl, rfl, rfl⟩
            rw [if_neg (by omega), if_neg (by omega)] at h
            cases h
            exact Or.inr ⟨rfl, w, SameSession.refl _, hout, .of_sent_eq (.refl _) rfl,
              .intro hdeliver (hsyn.sameSession hsession)⟩

/-- What has become of a connection attempt. -/
def Attempted (L : Link P σ) (syns : Nat) (w : World σ) (rc : Int)
    (w' : World σ) : Prop :=
  (rc = -1 ∧ w'.tcp.seq = 1 ∧ w'.tcp.ack = 0 ∧ OnlySyns L syns w w') ∨
    (rc = 0 ∧ exists w1 : World σ,
      w1.tcp.seq = 1 ∧ w1.tcp.ip.pktSize = w.tcp.ip.pktSize ∧
      OnlySyns L (syns - 1) w w1 ∧ Handshake L w1 w')

theorem connectLoop_attempted {L : Link P σ} {fuel : Nat}
    {register : Nat -> UInt8} {rc : Int} {w' : World σ} :
    forall {turns : Nat} {w : World σ},
      (turns = 0 -> w.tcp.seq = 1 ∧ w.tcp.ack = 0) ->
        connectLoop L fuel register turns w = (some rc, w') ->
          Attempted L (6 * turns) w rc w' := by
  intro turns
  induction turns with
  | zero =>
      intro w hzero h
      cases h
      rcases hzero rfl with ⟨hseq, hack⟩
      exact Or.inl ⟨rfl, hseq, hack, .of_sent_eq (.refl _) rfl⟩
  | succ turns ih =>
      intro w _ h
      rw [connectLoop] at h
      rcases hsend : tcpSend L fuel w.resetNumbers 0 none 1 with ⟨_ | rc', w2⟩
      · rw [hsend] at h
        cases h
      · cases fuel with
        | zero => cases hsend
        | succ fuel =>
            rw [hsend] at h
            simp only at h
            rw [tcpSend] at hsend
            rcases tcpSendAgain_syn (w := w.resetNumbers) rfl (by omega) hsend
              with ⟨hneg, hsession, hseq, hack, hsyns⟩ |
                ⟨rfl, w1, hsession, hseq, hsyns, hdone⟩
            · rw [if_neg (by omega)] at h
              have hsize : w2.tcp.ip.pktSize = w.tcp.ip.pktSize :=
                hsession.right.right.left
              have hnumbers : turns = 0 ->
                  (w2.nextPort (register turns)).tcp.seq = 1 ∧
                    (w2.nextPort (register turns)).tcp.ack = 0 :=
                fun _ => ⟨hseq, hack⟩
              have hfirst : OnlySyns L 6 w (w2.nextPort (register turns)) := hsyns
              rcases ih hnumbers h with
                ⟨hrc, hseq', hack', hrest⟩ |
                ⟨hrc, w1, hseq', hsize', hrest, hdone⟩
              · refine Or.inl ⟨hrc, hseq', hack', ?_⟩
                exact (hfirst.trans hsize hrest).mono (by omega)
              · have hturn : 0 < turns := by
                  by_contra hzero
                  rw [Nat.eq_zero_of_not_pos hzero] at h
                  cases h
                  omega
                refine Or.inr ⟨hrc, w1, hseq', hsize'.trans hsize, ?_, hdone⟩
                exact (hfirst.trans hsize hrest).mono (by omega)
            · rw [if_pos (Int.le_refl 0)] at h
              cases h
              have hsyns' : OnlySyns L 5 w w1 := hsyns
              exact Or.inr ⟨rfl, w1, hseq, hsession.right.right.left,
                hsyns'.mono (by omega), hdone⟩

theorem tcpConnect_attempted {L : Link P σ} {fuel : Nat}
    {register : Nat -> UInt8} {rc : Int} {w w' : World σ}
    (h : tcpConnect L fuel register w = (some rc, w')) :
    Attempted L 30 w rc w' :=
  connectLoop_attempted (w := { w with tcp := { w.tcp with ths := 0 } })
    (fun hzero => absurd hzero (by decide)) h

/-- An established connection starts with the sequence number behind the
SYN. -/
theorem Handshake.seq_eq {L : Link P σ} {w1 w : World σ}
    (h : Handshake L w1 w) : w.tcp.seq = 2 := by
  cases h with
  | intro _ hsyn => exact hsyn.ack_eq

theorem Handshake.answered {L : Link P σ} {w1 w : World σ}
    (h : Handshake L w1 w) : Answered w := by
  cases h with
  | @intro bs line _ hsyn =>
      refine ⟨_, ?_, rfl⟩
      show 1 < packetAck bs
      rw [hsyn.ack_eq]
      decide

/-- `tcp_connect` succeeds by answering the SYN of the peer. -/
theorem tcpConnect_answered {L : Link P σ} {fuel : Nat}
    {register : Nat -> UInt8} {rc : Int} {w w' : World σ}
    (h : tcpConnect L fuel register w = (some rc, w')) (hrc : 0 ≤ rc) :
    Answered w' ∧ w'.tcp.ip.pktSize = w.tcp.ip.pktSize := by
  rcases tcpConnect_attempted h with ⟨hneg, _⟩ | ⟨_, w1, _, hsize, _, hdone⟩
  · omega
  · refine ⟨hdone.answered, ?_⟩
    cases hdone with
    | intro => exact hsize

theorem tcpConnect_zero {L : Link P σ} {fuel : Nat} {register : Nat -> UInt8}
    {rc : Int} {w w' : World σ}
    (h : tcpConnect L fuel register w = (some rc, w')) (hrc : 0 ≤ rc) :
    rc = 0 := by
  rcases tcpConnect_attempted h with ⟨hneg, _⟩ | ⟨hzero, _⟩
  · omega
  · exact hzero

end Tcp
end Z80Tcpip
