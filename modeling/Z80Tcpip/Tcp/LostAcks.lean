import Z80Tcpip.Tcp.ScriptRuns

/-!
# Frames that come again

A peer that missed an acknowledgement sends its segment again.
`tcp_recv_timeout` answers a frame with data exactly when the number of its
first byte is not below `tcp->ack`; what begins earlier is ignored, even when
it reaches beyond.
-/

namespace Z80Tcpip
namespace Tcp

open Foundation
open Ip

variable {P : Platform} {σ : Type}

/-!
## Probes in front of a packet
-/

/-- `tcp_recv_timeout` jumps back to `again` over `n` zero window probes. -/
inductive SkipsProbes (L : Link P σ) (timeout : Int16) :
    Nat -> World σ -> World σ -> Prop
  | none {w : World σ} : SkipsProbes L timeout 0 w w
  | probe {n : Nat} {w w' : World σ} {bs : List UInt8} {line : σ}
      (hrecv : Delivers L timeout w bs line) (hpass : Passes w.tcp bs)
      (hprobe : IsProbe w.tcp bs)
      (hmore : SkipsProbes L timeout n (w.noted bs line) w') :
      SkipsProbes L timeout (n + 1) w w'

theorem SkipsProbes.same {L : Link P σ} {timeout : Int16} {n : Nat}
    {w w' : World σ} (h : SkipsProbes L timeout n w w') :
    SameSession w.tcp w'.tcp ∧ w'.tcp.seq = w.tcp.seq ∧
      w'.tcp.ack = w.tcp.ack ∧ w'.sent = w.sent := by
  induction h with
  | none => exact ⟨SameSession.refl _, rfl, rfl, rfl⟩
  | probe _ _ _ _ ih => exact ih

theorem SkipsProbes.tcpRecvAgain_eq {L : Link P σ} {timeout : Int16} {n : Nat}
    {w w' : World σ} (h : SkipsProbes L timeout n w w')
    (hconn : 1 < w.tcp.seq) (fuel : Nat) :
    tcpRecvAgain L (fuel + n) w timeout = tcpRecvAgain L fuel w' timeout := by
  induction h with
  | none => rfl
  | @probe n w w' bs line hrecv hpass hprobe _ ih =>
      have hinput :=
        tcpInput_probe (P := P) line hrecv.left hconn hpass hprobe
      rw [← Nat.add_assoc, tcpRecvAgain_packet (fuel + n) hrecv hinput,
        tcpRecvAction]
      exact ih hconn

/-!
## Answers
-/

/-- Among the segments transmitted since `count` of them had been, one carries
the current `tcp->ack`. -/
def AnsweredSince (count : Nat) (w : World σ) : Prop :=
  exists t : Transmission, t ∈ w.sent.drop count ∧
    readBE (field t.packet 28 4) = w.tcp.ack.toNat

theorem not_answeredSince_of_sent_eq {w w' : World σ}
    (h : w'.sent = w.sent) : ¬ AnsweredSince w.sent.length w' := by
  intro hparts
  rcases hparts with ⟨t, ht, _⟩
  rw [h, List.drop_length] at ht
  cases ht

/-- A bare acknowledgement carries `tcp->ack`. -/
theorem transmit_ack_field (w : World σ) (window : UInt16)
    (hroom : 40 ≤ w.tcp.ip.pktSize.toNat) :
    readBE (field (tcpTransmit w.tcp 0 none window).2 28 4) =
      w.tcp.ack.toNat :=
  (validSegment_tcpTransmit w.tcp
    { len := 0, data := none, window := window } hroom).acknowledgement

theorem answeredSince_transmit (w : World σ) (window : UInt16)
    (hroom : 40 ≤ w.tcp.ip.pktSize.toNat) :
    AnsweredSince w.sent.length (w.transmit 0 none window) := by
  refine ⟨⟨w.tcp, ⟨0, none, window⟩, (tcpTransmit w.tcp 0 none window).2⟩,
    ?_, transmit_ack_field w window hroom⟩
  rw [World.transmit, List.drop_left]
  exact List.mem_singleton_self _

theorem AnsweredSince.of_le {count count' : Nat} {w : World σ}
    (h : AnsweredSince count w) (hle : count' ≤ count) :
    AnsweredSince count' w := by
  rcases h with ⟨t, ht, hack⟩
  exact ⟨t, (List.drop_suffix_drop_left w.sent hle).mem ht, hack⟩

/-- Opening the window announces `tcp->ack` as it stands then. -/
theorem answeredSince_openWindow {w w' : World σ} {len : UInt16}
    (hroom : 40 ≤ w.tcp.ip.pktSize.toNat)
    (hsent : w'.sent = (w.openWindow len).sent)
    (hack : w'.tcp.ack = w.tcp.ack) :
    AnsweredSince w.sent.length w' <-> clampLen w.tcp len ≠ 0 := by
  rw [World.openWindow] at hsent
  split_ifs at hsent with hopen
  · refine iff_of_true ?_ hopen
    rcases answeredSince_transmit w (clampLen w.tcp len) hroom with
      ⟨t, ht, hfield⟩
    refine ⟨t, ?_, ?_⟩
    · rw [hsent]
      exact ht
    · rw [hack, hfield, World.transmit_ack]
  · exact iff_of_false (not_answeredSince_of_sent_eq hsent) hopen

theorem openWindow_sent_length (w : World σ) (len : UInt16) :
    w.sent.length ≤ (w.openWindow len).sent.length := by
  rw [World.openWindow]
  split_ifs
  · rw [World.transmit, List.length_append]
    exact Nat.le_add_right _ _
  · exact Nat.le_refl _

/-!
## The call
-/

/-- A frame with data is answered, after it has come in, if and only if its
number is not below `tcp->ack`.  A call that opened the window itself has
already announced `tcp->ack` before the frame came in.  An ignored frame leaves
`tcp->ack` as it is, and nothing at all is transmitted after it. -/
theorem answeredSince_iff (L : Link P σ) (fuel : Nat) {w w1 : World σ}
    (len : UInt16) {timeout : Int16} {n : Nat} {bs : List UInt8} {line : σ}
    (hconn : 1 < w.tcp.seq)
    (hskip : SkipsProbes L timeout n (w.openWindow len) w1)
    (hrecv : Delivers L timeout w1 bs line) (hpass : Passes w.tcp bs)
    (hdata : CarriesData bs) :
    exists (rc : Int) (w' : World σ),
      tcpRecvTimeout L (fuel + n + 4) w len timeout = (some rc, w') ∧
        (AnsweredSince w1.sent.length w' <-> ¬ packetSeq bs < w.tcp.ack) ∧
        (AnsweredSince w.sent.length w' <->
          clampLen w.tcp len ≠ 0 ∨ ¬ packetSeq bs < w.tcp.ack) ∧
        (packetSeq bs < w.tcp.ack ->
          rc = 0 ∧ w'.sent = w1.sent ∧ w'.tcp.ack = w.tcp.ack) := by
  rcases openWindow_same w len with ⟨hsession, hseq, hack, _⟩
  rcases hskip.same with ⟨hsession1, hseq1, hack1, hsent1⟩
  have hopen : 1 < (w.openWindow len).tcp.seq := by
    rwa [hseq]
  have hconn1 : 1 < w1.tcp.seq := by
    rwa [hseq1, hseq]
  have hnow : w1.tcp.ack = w.tcp.ack := hack1.trans hack
  have hpass1 : Passes w1.tcp bs :=
    (Passes.sameSession (hsession.trans hsession1)).mpr hpass
  have hsize : w1.tcp.ip.pktSize = w.tcp.ip.pktSize :=
    (hsession.trans hsession1).right.right.left
  have hroom : 40 ≤ w.tcp.ip.pktSize.toNat := by
    have hlong := hpass.long
    have hfit := hrecv.left
    rw [hsize] at hfit
    omega
  have hcall : tcpRecvTimeout L (fuel + n + 4) w len timeout =
      tcpRecvAgain L (fuel + 3) w1 timeout := by
    have hfuel : fuel + n + 4 = fuel + n + 1 + 3 := rfl
    have hagain : fuel + n + 1 + 2 = fuel + 3 + n := by
      omega
    rw [hfuel, tcpRecvTimeout_openWindow L (fuel + n + 1) len timeout hconn,
      hagain, hskip.tcpRecvAgain_eq hopen]
  rw [hcall]
  by_cases hold : packetSeq bs < w.tcp.ack
  · have hsent : (w1.acked bs line).sent = w1.sent := rfl
    refine ⟨0, w1.acked bs line,
      tcpRecvAgain_old timeout fuel hconn1 hrecv hpass1 hdata (by rwa [hnow]),
      ?_, ?_, ?_⟩
    · exact iff_of_false (not_answeredSince_of_sent_eq hsent)
        (fun hfresh => hfresh hold)
    · rw [answeredSince_openWindow hroom (hsent.trans hsent1) hnow]
      exact (or_iff_left (fun hfresh => hfresh hold)).symm
    · intro _
      exact ⟨rfl, hsent, hnow⟩
  · have hanswer : AnsweredSince w1.sent.length (w1.accept bs line) := by
      apply answeredSince_transmit (w1.accepted bs line) 0
      show 40 ≤ w1.tcp.ip.pktSize.toNat
      rw [hsize]
      exact hroom
    have hbefore : w.sent.length ≤ w1.sent.length := by
      rw [hsent1]
      exact openWindow_sent_length w len
    refine ⟨_, _, tcpRecvAgain_fresh timeout fuel hconn1 hrecv hpass1 hdata
      (by rwa [hnow]), ?_, ?_, ?_⟩
    · exact iff_of_true hanswer hold
    · exact iff_of_true (hanswer.of_le hbefore) (Or.inr hold)
    · intro hbelow
      exact absurd hbelow hold

/-- A connection that expects the number 9, with a frame still to come. -/
def expectingNine (packet : List UInt8) : World Script where
  tcp := TcpContext.loopback 2 9
  line := [some packet]
  sent := []

theorem delivers_peerSegment (timeout : Int16) (seq ack : UInt32)
    {data : List UInt8} (hdata : data.length ≤ 24) :
    Delivers (scriptLink P) timeout (expectingNine (peerSegment seq ack data))
      (peerSegment seq ack data) [] := by
  have hlength := peerSegment_length seq ack hdata
  have hsize : (expectingNine
      (peerSegment seq ack data)).tcp.ip.pktSize.toNat = 64 := rfl
  have hfit : (peerSegment seq ack data).length ≤
      (expectingNine (peerSegment seq ack data)).tcp.ip.pktSize.toNat := by
    omega
  exact delivers_of_script timeout hfit rfl

theorem peerSegment_carriesData (seq ack : UInt32) {data : List UInt8}
    (hdata : data.length ≤ 24) (hne : data ≠ []) :
    CarriesData (peerSegment seq ack data) := by
  have hpayload := peerSegment_payload seq ack hdata
  have hlength := packetPayload_length (peerSegment seq ack data)
  have hpos := List.length_pos_of_ne_nil hne
  rw [hpayload] at hlength
  unfold CarriesData
  omega

/-- The next segment, and one that begins below 9 and reaches beyond it. -/
theorem answeredSince_iff_next_segment :
    (exists (rc : Int) (w' : World Script),
      tcpRecvTimeout (scriptLink Platform.spectrum) 8
          (expectingNine (peerSegment 9 2 [0x43])) 0 3 = (some rc, w') ∧
        (AnsweredSince 0 w' <-> ¬ packetSeq (peerSegment 9 2 [0x43]) < 9) ∧
        (AnsweredSince 0 w' <->
          clampLen (TcpContext.loopback 2 9) 0 ≠ 0 ∨
            ¬ packetSeq (peerSegment 9 2 [0x43]) < 9) ∧
        (packetSeq (peerSegment 9 2 [0x43]) < 9 ->
          rc = 0 ∧ w'.sent = [] ∧ w'.tcp.ack = 9)) ∧
    exists (rc : Int) (w' : World Script),
      tcpRecvTimeout (scriptLink Platform.spectrum) 8
          (expectingNine (peerSegment 7 2 [0x41, 0x42, 0x43])) 0 3 =
            (some rc, w') ∧
        rc = 0 ∧ w'.sent = [] ∧ w'.tcp.ack = 9 := by
  refine ⟨answeredSince_iff (scriptLink Platform.spectrum) 4
    (w := expectingNine (peerSegment 9 2 [0x43])) 0 (by decide)
    (by
      rw [openWindow_zero]
      exact SkipsProbes.none)
    (delivers_peerSegment 3 9 2 (by decide))
    (peerSegment_passes 9 2 (by decide) 2 9)
    (peerSegment_carriesData 9 2 (by decide) (by decide)), ?_⟩
  have hignored := answeredSince_iff (scriptLink Platform.spectrum) 4
    (w := expectingNine (peerSegment 7 2 [0x41, 0x42, 0x43])) 0 (by decide)
    (by
      rw [openWindow_zero]
      exact SkipsProbes.none)
    (delivers_peerSegment 3 7 2 (by decide))
    (peerSegment_passes 7 2 (by decide) 2 9)
    (peerSegment_carriesData 7 2 (by decide) (by decide))
  rcases hignored with ⟨rc, w', hcall, _, _, hold⟩
  exact ⟨rc, w', hcall, hold (by decide)⟩

/-- The peer has seen no acknowledgement of the bytes 7 and 8 and sends them
again, with a new one behind them. -/
theorem not_answeredSince_retransmission :
    Passes (TcpContext.loopback 2 9) (peerSegment 7 2 [0x41, 0x42, 0x43]) ∧
      WellFormedHeader (peerSegment 7 2 [0x41, 0x42, 0x43]) ∧
      CarriesData (peerSegment 7 2 [0x41, 0x42, 0x43]) ∧
      exists w' : World Script,
        tcpRecvTimeout (scriptLink Platform.spectrum) 8
            (expectingNine (peerSegment 7 2 [0x41, 0x42, 0x43])) 0 3 =
          (some 0, w') ∧
        ¬ AnsweredSince 0 w' := by
  refine ⟨peerSegment_passes 7 2 (by decide) 2 9,
    peerSegment_header 7 2 (by decide),
    peerSegment_carriesData 7 2 (by decide) (by decide), ?_⟩
  rcases hcall : tcpRecvTimeout (scriptLink Platform.spectrum) 8
      (expectingNine (peerSegment 7 2 [0x41, 0x42, 0x43])) 0 3 with ⟨rc, w'⟩
  have hrun : (tcpRecvTimeout (scriptLink Platform.spectrum) 8
      (expectingNine (peerSegment 7 2 [0x41, 0x42, 0x43])) 0 3).1 = some 0 ∧
        (tcpRecvTimeout (scriptLink Platform.spectrum) 8
          (expectingNine (peerSegment 7 2 [0x41, 0x42, 0x43])) 0
            3).2.sent.length = 0 := by
    decide +kernel
  rw [hcall] at hrun
  rcases hrun with ⟨hrc, hsent⟩
  simp only at hrc hsent
  refine ⟨w', by rw [hrc], ?_⟩
  intro h
  rcases h with ⟨t, ht, _⟩
  rw [List.eq_nil_of_length_eq_zero hsent] at ht
  cases ht

end Tcp
end Z80Tcpip
