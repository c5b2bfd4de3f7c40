import Z80Tcpip.Tcp.ConnectOutcome
import Z80Tcpip.Tcp.Runs

/-!
# The send sequence number over a whole run

`tcp->seq` is 1 only while a connection is being made.  Afterwards it follows
the acknowledgement numbers of the packets that arrive, and nothing compares
these with what has been sent.
-/

namespace Z80Tcpip
namespace Tcp

open Foundation

variable {P : Platform} {σ : Type}

/-!
## No way back
-/

/-- A copy of the SYN-ACK without payload; its header may have options. -/
structure SynAckCopy (tcp : TcpContext) (bs : List UInt8) : Prop where
  syn_ack : SynAck tcp bs
  no_payload : bs.length = 20 + packetHeaderSize bs

/-- The sequence number does not decrease, and a copy of the SYN-ACK moves no
number. -/
def KeepsNumbers (w : World σ) (e : Event) (w' : World σ) : Prop :=
  w.tcp.seq ≤ w'.tcp.seq ∧
    forall bs, e = .packet bs -> SynAckCopy w.tcp bs ->
      w'.tcp.seq = w.tcp.seq ∧ w'.tcp.ack = w.tcp.ack

/-- The connection is established, and of the segments behind the first `since`
those that fit the buffer have no SYN flag. -/
structure Synchronised (since : Nat) (w : World σ) : Prop where
  seq_le : 2 ≤ w.tcp.seq
  logged : since ≤ w.sent.length
  no_syn : forall t, t ∈ w.sent.drop since ->
    40 + t.request.len ≤ t.tcp.ip.pktSize.toNat ->
      t.packet.getD 33 0 &&& TCP_SYN = 0

theorem acked_seq_toNat (w : World σ) {bs : List UInt8} (line : σ)
    (hfit : bs.length ≤ w.tcp.ip.pktSize.toNat) (hlong : 40 ≤ bs.length) :
    (w.acked bs line).tcp.seq.toNat =
      max w.tcp.seq.toNat (packetAck bs).toNat :=
  opened_seq line hfit hlong

theorem accepted_seq_toNat (w : World σ) {bs : List UInt8} (line : σ)
    (hfit : bs.length ≤ w.tcp.ip.pktSize.toNat) (hlong : 40 ≤ bs.length) :
    (w.accepted bs line).tcp.seq.toNat =
      max w.tcp.seq.toNat (packetAck bs).toNat := by
  rw [World.accepted, acceptData_seq]
  exact opened_seq line hfit hlong

theorem SynAckCopy.not_fresh {tcp : TcpContext} {bs : List UInt8}
    (h : SynAckCopy tcp bs) : ¬ FreshData tcp bs := by
  intro hfresh
  have hdata : 20 + packetHeaderSize bs < bs.length := hfresh.left
  have hlen := h.no_payload
  omega

theorem Step.keepsNumbers {L : Link P σ} {w w' : World σ} {e : Event}
    (h : Step L w e w') (hseq : 2 ≤ w.tcp.seq) : KeepsNumbers w e w' := by
  have hsame : forall {w1 : World σ}, w1.tcp.seq = w.tcp.seq ->
      w1.tcp.ack = w.tcp.ack -> KeepsNumbers w e w1 := by
    intro w1 hseq1 hack1
    exact ⟨UInt32.le_of_eq hseq1.symm, fun _ _ _ => ⟨hseq1, hack1⟩⟩
  cases h with
  | filled => exact hsame rfl rfl
  | sent => exact hsame rfl rfl
  | timeout => exact hsame rfl rfl
  | refused => exact hsame rfl rfl
  | probe => exact hsame rfl rfl
  | @acked bs line _ hrecv htaken hfresh =>
      have hmax := acked_seq_toNat w line hrecv.left htaken.left.long
      constructor
      · apply UInt32.le_iff_toNat_le.mpr
        rw [hmax]
        exact Nat.le_max_left _ _
      · intro bs' he hcopy
        cases he
        have htwo : (packetAck bs).toNat = 2 := by
          rw [hcopy.syn_ack.ack_eq]
          rfl
        have hle : 2 ≤ w.tcp.seq.toNat := UInt32.le_iff_toNat_le.mp hseq
        refine ⟨UInt32.toNat_inj.mp ?_, rfl⟩
        rw [hmax, htwo]
        exact Nat.max_eq_left hle
  | @accepted bs line _ hrecv htaken hfresh =>
      have hmax := accepted_seq_toNat w line hrecv.left htaken.left.long
      constructor
      · apply UInt32.le_iff_toNat_le.mpr
        rw [hmax]
        exact Nat.le_max_left _ _
      · intro bs' he hcopy
        cases he
        exact absurd hfresh hcopy.not_fresh

/-- A step transmits at most one segment, with the numbers of the moment. -/
theorem Step.sent_eq {L : Link P σ} {w w' : World σ} {e : Event}
    (h : Step L w e w') :
    w'.sent = w.sent ∨ exists r : Request,
      w' = w.transmit r.len r.data r.window := by
  cases h with
  | sent r => exact Or.inr ⟨r, rfl⟩
  | _ => exact Or.inl rfl

theorem no_syn_flags (tcp : TcpContext) (r : Request) (hseq : 2 ≤ tcp.seq)
    (hfit : 40 + r.len ≤ tcp.ip.pktSize.toNat) :
    (tcpTransmit tcp r.len r.data r.window).2.getD 33 0 &&& TCP_SYN = 0 := by
  have hflags := getD_of_field (validSegment_tcpTransmit tcp r hfit).flags
  have hne : tcp.seq ≠ 1 := by
    intro hone
    rw [hone] at hseq
    exact absurd hseq (by decide)
  rw [hflags, if_neg hne]
  split_ifs <;> rfl

theorem Step.synchronised {L : Link P σ} {w w' : World σ} {e : Event}
    {since : Nat} (h : Step L w e w') (hinv : Synchronised since w) :
    Synchronised since w' := by
  have hseq : 2 ≤ w'.tcp.seq :=
    UInt32.le_trans hinv.seq_le (h.keepsNumbers hinv.seq_le).left
  rcases h.sent_eq with hsent | ⟨r, rfl⟩
  · exact ⟨hseq, by rw [hsent]; exact hinv.logged,
      by rw [hsent]; exact hinv.no_syn⟩
  · refine ⟨hseq, ?_, ?_⟩
    · show since ≤ (w.sent ++ [_]).length
      rw [List.length_append]
      exact Nat.le_add_right_of_le hinv.logged
    · intro t ht hfit
      change t ∈ (w.sent ++ [_]).drop since at ht
      rw [List.drop_append_of_le_length hinv.logged] at ht
      rcases List.mem_append.mp ht with hold | hnew
      · exact hinv.no_syn t hold hfit
      · rw [List.mem_singleton] at hnew
        subst hnew
        exact no_syn_flags w.tcp r hinv.seq_le hfit

theorem tcpConnect_seq {L : Link P σ} {fuel : Nat} {register : Nat -> UInt8}
    {w w' : World σ}
    (h : tcpConnect L fuel register w = (some 0, w')) : w'.tcp.seq = 2 := by
  rcases tcpConnect_attempted h with ⟨hrc, _⟩ | ⟨_, w1, _, _, _, hdone⟩
  · exact absurd hrc (by decide)
  · exact hdone.seq_eq

theorem synchronised_start {w : World σ} (h : w.tcp.seq = 2) :
    Synchronised w.sent.length w := by
  refine ⟨UInt32.le_of_eq h.symm, Nat.le_refl _, ?_⟩
  intro t ht
  rw [List.drop_length] at ht
  cases ht

/-- Whatever a program does on a connection and whatever arrives, the connection
never goes back to where its SYN is out. -/
theorem syn_state_left (L : Link P σ) (fuel fuel' : Nat)
    (register : Nat -> UInt8) (calls : List Call) {w w0 : World σ}
    (hconnect : tcpConnect L fuel register w = (some 0, w0)) :
    exists run : List (Event × World σ),
      Trace (Step L) w0 run (runCalls L fuel' calls w0) ∧
        EachStep KeepsNumbers w0 run ∧ Synchronised w0.sent.length w0 ∧
        Always (Synchronised w0.sent.length) run := by
  have hstart : Synchronised w0.sent.length w0 :=
    synchronised_start (tcpConnect_seq hconnect)
  rcases runCalls_runs L fuel' (one_lt_of_two_le hstart.seq_le) with
    ⟨run, hrun⟩
  rcases hrun.upholds
      (fun _ _ _ hstep hinv =>
        ⟨hstep.keepsNumbers hinv.seq_le, hstep.synchronised hinv⟩) hstart with
    ⟨hsteps, halways, _⟩
  exact ⟨run, hrun, hsteps, hstart, halways⟩

/-- A connection attempt of the loopback host that meets these packets. -/
def attempt (line : Script) : Option Int × World Script :=
  tcpConnect (scriptLink Platform.spectrum) 12 (fun _ => 0)
    { tcp := TcpContext.loopback 0 0, line := line, sent := [] }

theorem syn_state_left_copy :
    exists run : List (Event × World Script),
      Trace (Step (scriptLink Platform.spectrum))
          (attempt [some (peerSynAck 7), some (peerSynAck 7)]).2 run
          (runCalls (scriptLink Platform.spectrum) 8 [.recv 0 5]
            (attempt [some (peerSynAck 7), some (peerSynAck 7)]).2) ∧
        EachStep KeepsNumbers
          (attempt [some (peerSynAck 7), some (peerSynAck 7)]).2 run ∧
        Synchronised
          (attempt [some (peerSynAck 7), some (peerSynAck 7)]).2.sent.length
          (attempt [some (peerSynAck 7), some (peerSynAck 7)]).2 ∧
        Always
          (Synchronised (attempt
            [some (peerSynAck 7), some (peerSynAck 7)]).2.sent.length) run :=
  syn_state_left (scriptLink Platform.spectrum) 12 8 (fun _ => 0) [.recv 0 5]
    (w := { tcp := TcpContext.loopback 0 0
            line := [some (peerSynAck 7), some (peerSynAck 7)]
            sent := [] })
    (Prod.ext (by decide +kernel) rfl)

/-!
## Acknowledgements of bytes never sent
-/

/-- The number behind the payload of a segment; a segment without payload takes
up no numbers behind the SYN. -/
def Transmission.payloadEnd (t : Transmission) : Nat :=
  if t.request.len = 0 then 2 else t.tcp.seq.toNat + t.request.len

/-- The highest number up to which payload has been transmitted in the segments
behind the first `since`. -/
def sentEnd (since : Nat) (w : World σ) : Nat :=
  ((w.sent.drop since).map Transmission.payloadEnd).foldl max 2

def WithinSent (since : Nat) (w : World σ) : Prop :=
  w.tcp.seq.toNat ≤ sentEnd since w

/-- The step takes in no acknowledgement number beyond what has been sent. -/
def AcksSent (since : Nat) (w : World σ) (e : Event) (_ : World σ) : Prop :=
  forall bs, e = .packet bs -> TakenIn w.tcp bs ->
    (packetAck bs).toNat ≤ sentEnd since w

theorem sentEnd_congr {since : Nat} {w w' : World σ}
    (h : w'.sent = w.sent) : sentEnd since w' = sentEnd since w := by
  rw [sentEnd, sentEnd, h]

theorem sentEnd_transmit {since : Nat} {w : World σ} (r : Request)
    (h : since ≤ w.sent.length) :
    sentEnd since w ≤ sentEnd since (w.transmit r.len r.data r.window) := by
  have hsent : (w.transmit r.len r.data r.window).sent.drop since =
      w.sent.drop since ++ [
        { tcp := w.tcp
          request := r
          packet := (tcpTransmit w.tcp r.len r.data r.window).2 }] :=
    List.drop_append_of_le_length h
  rw [sentEnd, sentEnd, hsent, List.map_append, List.foldl_append]
  exact Nat.le_max_left _ _

theorem acksSent_packet_iff {since : Nat} {w w' : World σ}
    {bs : List UInt8} (htaken : TakenIn w.tcp bs) :
    AcksSent since w (.packet bs) w' <->
      (packetAck bs).toNat ≤ sentEnd since w := by
  constructor
  · intro h
    exact h bs rfl htaken
  · intro h bs' he _
    cases he
    exact h

theorem Step.withinSent_iff {L : Link P σ} {since : Nat} {w w' : World σ}
    {e : Event} (h : Step L w e w') (hinv : Synchronised since w)
    (hwithin : WithinSent since w) :
    WithinSent since w' <-> AcksSent since w e w' := by
  have htaken_iff : forall {w1 : World σ} {bs : List UInt8},
      TakenIn w.tcp bs -> w1.sent = w.sent ->
        w1.tcp.seq.toNat = max w.tcp.seq.toNat (packetAck bs).toNat ->
          (WithinSent since w1 <-> AcksSent since w (.packet bs) w1) := by
    intro w1 bs htaken hsent hmax
    rw [acksSent_packet_iff htaken, WithinSent, sentEnd_congr hsent, hmax,
      Nat.max_le]
    exact and_iff_right hwithin
  cases h with
  | filled => exact iff_of_true hwithin (fun _ he => by cases he)
  | sent r =>
      refine iff_of_true ?_ (fun _ he => by cases he)
      exact Nat.le_trans hwithin (sentEnd_transmit r hinv.logged)
  | timeout => exact iff_of_true hwithin (fun _ he => by cases he)
  | refused _ hbad =>
      refine iff_of_true hwithin ?_
      intro bs he htaken
      cases he
      exact absurd htaken.left hbad
  | probe _ _ hprobe =>
      refine iff_of_true hwithin ?_
      intro bs he htaken
      cases he
      exact absurd hprobe htaken.right
  | acked hrecv htaken _ =>
      exact htaken_iff htaken rfl
        (acked_seq_toNat w _ hrecv.left htaken.left.long)
  | accepted hrecv htaken _ =>
      exact htaken_iff htaken rfl
        (accepted_seq_toNat w _ hrecv.left htaken.left.long)

/-- Over any run behind a successful `tcp_connect`, the sequence number stays
within what has been sent if and only if no packet that is taken in acknowledges
more than that. -/
theorem seq_within_sent_iff (L : Link P σ) (fuel fuel' : Nat)
    (register : Nat -> UInt8) (calls : List Call) {w w0 : World σ}
    (hconnect : tcpConnect L fuel register w = (some 0, w0)) :
    exists run : List (Event × World σ),
      Trace (Step L) w0 run (runCalls L fuel' calls w0) ∧
        WithinSent w0.sent.length w0 ∧
        (Always (WithinSent w0.sent.length) run <->
          EachStep (AcksSent w0.sent.length) w0 run) := by
  have hseq := tcpConnect_seq hconnect
  have hstart : Synchronised w0.sent.length w0 := synchronised_start hseq
  have hwithin : WithinSent w0.sent.length w0 := by
    rw [WithinSent, sentEnd, hseq, List.drop_length]
    exact Nat.le_refl 2
  rcases runCalls_runs L fuel' (one_lt_of_two_le hstart.seq_le) with
    ⟨run, hrun⟩
  exact ⟨run, hrun, hwithin, hrun.always_iff
    (fun _ _ _ hstep hinv => hstep.synchronised hinv)
    (fun _ _ _ hstep hinv hgood => hstep.withinSent_iff hinv hgood)
    hstart hwithin⟩

theorem seq_within_sent_iff_idle :
    exists run : List (Event × World Script),
      Trace (Step (scriptLink Platform.spectrum))
          (attempt [some (peerSynAck 7)]).2 run
          (runCalls (scriptLink Platform.spectrum) 8 [.recv 0 5]
            (attempt [some (peerSynAck 7)]).2) ∧
        WithinSent (attempt [some (peerSynAck 7)]).2.sent.length
          (attempt [some (peerSynAck 7)]).2 ∧
        (Always (WithinSent (attempt [some (peerSynAck 7)]).2.sent.length)
            run <->
          EachStep (AcksSent (attempt [some (peerSynAck 7)]).2.sent.length)
            (attempt [some (peerSynAck 7)]).2 run) :=
  seq_within_sent_iff (scriptLink Platform.spectrum) 12 8 (fun _ => 0)
    [.recv 0 5]
    (w := { tcp := TcpContext.loopback 0 0
            line := [some (peerSynAck 7)]
            sent := [] })
    (Prod.ext (by decide +kernel) rfl)

/-- The peer acknowledges 998 bytes of a connection that has sent none. -/
theorem not_within_sent_unsent_bytes :
    (attempt [some (peerSynAck 7), some (peerSegment 8 1000 [])]).1 =
        some 0 ∧
      ¬ WithinSent
        (attempt
          [some (peerSynAck 7), some (peerSegment 8 1000 [])]).2.sent.length
        (runCalls (scriptLink Platform.spectrum) 8 [.recv 0 5]
          (attempt
            [some (peerSynAck 7), some (peerSegment 8 1000 [])]).2) := by
  unfold WithinSent
  decide +kernel

end Tcp
end Z80Tcpip
