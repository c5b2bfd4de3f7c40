import Z80Tcpip.Ip.PingRequests
import Z80Tcpip.Slip.IdleLine
import Z80Tcpip.SlipTun.EndToEnd

/-!
# ping through the bridge

The requests of `icmp_echo_request` reach the raw socket, and the first packet
that the bridge writes for the Spectrum decides the result, if it comes before
the fifth timeout.
-/

namespace Z80Tcpip
namespace SlipTun

open Foundation
open Slip
open Icmp

variable {P : Platform} {σ ω : Type}

/-!
## Upwards
-/

/-- A request passes the checks of `inject_frame`. -/
theorem rawSend_request {ip : Ip.IpContext} {packet : List UInt8}
    (h : ValidRequest ip packet) :
    rawSend packet = some (packet, leBytes 4 ip.daddr.toNat) := by
  have hfirst : packet.getD 0 0 = 0x45 := getD_of_field h.version
  have hmin : IP_HDR_MIN = 20 := rfl
  rw [rawSend, if_neg (by rw [h.length_eq]; omega), hfirst,
    if_neg (by decide)]
  exact congrArg some (congrArg (Prod.mk packet) h.destination)

/-- Whatever comes in: ping sends one to five requests, each a valid echo request
to the host, and if the bytes of a session of the bridge are those that
`send_packet` has put on the serial line for them, as far as they have been read,
the session gives these requests to the raw socket, unchanged, in order and
addressed to the host; all of them once all bytes have been read. -/
theorem pings_reach_network (L : Tcp.Link P σ) {w w' : Icmp.World σ}
    {rc : Int} (hsent : w.sent = []) (hsize : 84 ≤ w.ip.pktSize.toNat)
    (hrun : icmpEchoRequest L w = some (rc, w')) (O : Os ω)
    (remote : List UInt8) (fuel rounds : Nat) (tunFd rawFd : Int) (os : ω)
    (s : Session)
    (hs : s ∈ (sessions remote (ran (recording O) P.slipEsc00 remote fuel rounds
      tunFd rawFd (os, [])).trace).all)
    (hheard : s.heard <+: w'.sent.flatMap (sendPacket P.slipEsc00)) :
    (exists n : Nat, 0 < n ∧ n ≤ 5 ∧
      w'.sent = (List.range n).map (request w.ip)) ∧
    (forall packet, packet ∈ w'.sent -> ValidRequest w.ip packet) ∧
    s.injected.filterMap rawSend <+:
      w'.sent.map (fun packet => (packet, leBytes 4 w.ip.daddr.toNat)) ∧
    (s.heard = w'.sent.flatMap (sendPacket P.slipEsc00) ->
      s.injected.filterMap rawSend =
        w'.sent.map (fun packet => (packet, leBytes 4 w.ip.daddr.toNat))) := by
  rcases echoAgain_sends L 5 hsize hrun with ⟨n, hfive, hsome, hall⟩
  rw [hsent, List.nil_append] at hall
  have hvalid : forall packet, packet ∈ w'.sent ->
      ValidRequest w.ip packet := by
    intro packet hmem
    rw [hall] at hmem
    rcases List.mem_map.mp hmem with ⟨i, _, rfl⟩
    exact request_valid w.ip i
  have hpackets : forall p, p ∈ w'.sent -> p ≠ [] ∧ p.length ≤ MTU := by
    intro p hp
    have hlen := (hvalid p hp).length_eq
    constructor
    · intro hnil
      rw [hnil] at hlen
      cases hlen
    · rw [hlen]
      decide
  have hraw : w'.sent.filterMap rawSend =
      w'.sent.map (fun packet => (packet, leBytes 4 w.ip.daddr.toNat)) := by
    rw [← List.filterMap_eq_map]
    exact List.filterMap_congr (fun p hp => rawSend_request (hvalid p hp))
  have hserved := (ran_carried (observes_recording O) P.slipEsc00 remote fuel
    rounds tunFd rawFd (os, []) rfl).served s hs
  refine ⟨⟨n, hsome (by decide), hfive, hall⟩, hvalid, ?_, ?_⟩
  · rw [← hraw, hserved.injected_eq]
    exact (framesOf_sendPackets hpackets hheard).filterMap rawSend
  · intro hread
    rw [← hraw, hserved.injected_eq,
      ← (decodeBytes_drained P.slipEsc00 s.heard).left, hread,
      decodeBytes_sendPackets P.slipEsc00 hpackets]

/-- The line of one request. -/
def pingBytes : List UInt8 :=
  sendPacket true (request pingContext 0)

/-- A short frame ends the wait behind the first request. -/
theorem pings_reach_network_once :
    exists s, s ∈ readySessions emptyDatagram pingBytes ∧ s.heard = pingBytes ∧
      s.injected.filterMap rawSend =
        [(request pingContext 0, [192, 0, 2, 9])] := by
  let w : Icmp.World Tcp.Script :=
    { ip := pingContext, line := [some [0]], sent := [] }
  have hheard : (readySessions emptyDatagram pingBytes).map Session.heard = [pingBytes] := by
    decide +kernel
  have hmem : pingBytes ∈ (readySessions emptyDatagram pingBytes).map Session.heard := by
    rw [hheard]
    exact List.mem_singleton_self pingBytes
  rcases List.mem_map.mp hmem with ⟨s, hs, hsheard⟩
  rcases echoAgain_received (P := Platform.spectrum) (w := w) 4 (by decide)
    rfl with ⟨w', hrun, _, hcount⟩
  rcases echoAgain_sends (Tcp.scriptLink Platform.spectrum) 5
    (show 84 ≤ w.ip.pktSize.toNat by decide) hrun with ⟨n, _, _, hall⟩
  have hone : n = 1 := by
    have hlen := congrArg List.length hall
    rw [hcount, List.length_append, List.length_map, List.length_range] at hlen
    exact (Nat.add_left_cancel hlen).symm
  have hsent : w'.sent = [request pingContext 0] := by
    rw [hall, hone]
    rfl
  have hbytes : w'.sent.flatMap (sendPacket true) = pingBytes := by
    rw [hsent, List.flatMap_singleton]
    rfl
  have hreach := pings_reach_network (Tcp.scriptLink Platform.spectrum)
    (w := w) rfl (by decide) hrun (readyOs emptyDatagram pingBytes) [192, 0, 2, 2] 5 3 5 6 0
    s hs (by rw [hsheard]; exact hbytes ▸ List.prefix_rfl)
  refine ⟨s, hs, hsheard, ?_⟩
  have haddress : leBytes 4 w.ip.daddr.toNat = [192, 0, 2, 9] := by
    decide
  rw [hreach.right.right.right (hsheard.trans hbytes.symm), hsent, haddress,
    List.map_singleton]

/-!
## Downwards
-/

/-- A call that hears no END for so long gives up. -/
theorem recvPacket_no_end {len : Nat} (p : Buffer len) {timeout : Int16}
    {before : Line} (rest : Line) (hjunk : some END ∉ before)
    (hlen : reads timeout ≤ before.length) :
    recvPacket P p timeout (before ++ rest) =
      some (-(P.eagain : Int), p, before.drop (reads timeout) ++ rest) := by
  have hno : some END ∉ (before ++ rest).take (reads timeout) := by
    rw [List.take_append_of_le_length hlen]
    exact fun hmem => hjunk (List.mem_of_mem_take hmem)
  have hwait := waitEnd_no_end (c := 0) (by decide)
    (show reads timeout ≤ (before ++ rest).length by
      rw [List.length_append]
      omega) hno
  rw [List.drop_append_of_le_length hlen] at hwait
  unfold recvPacket
  rw [hwait]

/-- From the label `again` on, with a frame on the line behind bytes without an
END. -/
theorem echoAgain_serial {q : List UInt8} (hq : q ≠ []) (rest : Line)
    (retries : Nat) :
    forall {w : Icmp.World Line} {before : Line},
      ICMP_BUF_SIZE ≤ w.ip.pktSize.toNat -> some END ∉ before ->
        w.line = before ++ (slipEncode P.slipEsc00 q).map some ++ rest ->
          exists (rc : Int) (w' : Icmp.World Line),
            echoAgain (Tcp.serialLink P) retries w = some (rc, w') ∧
              (before.length < retries * reads P.rs232Tps ->
                rc = (if EchoReply q then 0 else -1) ∧ w'.line = rest) ∧
              (retries * reads P.rs232Tps ≤ before.length -> rc = -1) := by
  induction retries with
  | zero =>
      intro w before _ _ _
      refine ⟨-1, w, rfl, ?_, fun _ => rfl⟩
      intro hlt
      rw [Nat.zero_mul] at hlt
      cases hlt
  | succ retries ih =>
      intro w before h hjunk hline
      have hroom : 1 ≤ w.ip.pktSize.toNat :=
        Nat.le_trans (by decide) h
      by_cases hheard : before.length < reads P.rs232Tps
      · -- the frame is in the reads of this call
        have hcall := recvPacket_slipEncode P hroom w.sendRequest.ip.pkt hq
          hjunk hheard rest
        rw [← hline] at hcall
        rcases echoAgain_answer (L := Tcp.serialLink P) h hcall retries with
          ⟨w', hrun, hrest⟩
        refine ⟨_, w', hrun, fun _ => ⟨rfl, hrest⟩, ?_⟩
        intro hlong
        rw [Nat.succ_mul] at hlong
        omega
      · have hsilent : reads P.rs232Tps ≤ before.length :=
          Nat.le_of_not_lt hheard
        have hcall := recvPacket_no_end (P := P) w.sendRequest.ip.pkt
          ((slipEncode P.slipEsc00 q).map some ++ rest) hjunk hsilent
        rw [← List.append_assoc, ← hline] at hcall
        have hagain := echoAgain_again (L := Tcp.serialLink P) hcall retries
        have hdropped : some END ∉ before.drop (reads P.rs232Tps) :=
          fun hmem => hjunk (List.mem_of_mem_drop hmem)
        rcases ih (w := { w.sendRequest with
            line := before.drop (reads P.rs232Tps) ++
              ((slipEncode P.slipEsc00 q).map some ++ rest) })
          h hdropped (List.append_assoc _ _ _).symm with
          ⟨rc, w', hrun, hanswer, hnone⟩
        rw [List.length_drop] at hanswer hnone
        refine ⟨rc, w', hagain.trans hrun, ?_, ?_⟩
        · intro hlt
          rw [Nat.succ_mul] at hlt
          exact hanswer (by omega)
        · intro hle
          rw [Nat.succ_mul] at hle
          exact hnone (by omega)

/-- A packet that the bridge has written whole in a session, behind bytes without
an END: ping reports the host exactly when the packet comes before the fifth
timeout and is an echo reply, and it then has read the packet's bytes and no
more. -/
theorem answer_reaches_ping (P : Platform) (O : Os ω)
    (remote : List UInt8) (fuel rounds : Nat) (tunFd rawFd : Int) (os : ω)
    (s : Session)
    (hs : s ∈ (sessions remote (ran (recording O) P.slipEsc00 remote fuel rounds
      tunFd rawFd (os, [])).trace).all)
    {offer : List UInt8 × List UInt8} (hoffer : offer ∈ s.offers)
    (hwhole : offer.2 = slipEncode P.slipEsc00 offer.1)
    (ip : Ip.IpContext) (hsize : ICMP_BUF_SIZE ≤ ip.pktSize.toNat)
    {before : Line} (hjunk : some END ∉ before) (rest : Line) :
    exists (rc : Int) (w' : Icmp.World Line),
      icmpEchoRequest (Tcp.serialLink P)
          { ip := ip, line := before ++ offer.2.map some ++ rest, sent := [] } =
        some (rc, w') ∧
      (rc = 0 <->
        before.length < 5 * reads P.rs232Tps ∧ EchoReply offer.1) ∧
      (before.length < 5 * reads P.rs232Tps -> w'.line = rest) := by
  have hserved := (ran_carried (observes_recording O) P.slipEsc00 remote fuel
    rounds tunFd rawFd (os, []) rfl).served s hs
  have hnonempty := hserved.nonempty hoffer
  rcases echoAgain_serial (P := P) hnonempty rest 5
    (w := { ip := ip
            line := before ++ offer.2.map some ++ rest
            sent := [] })
    hsize hjunk (by rw [hwhole]) with ⟨rc, w', hrun, hanswer, hnone⟩
  refine ⟨rc, w', hrun, ⟨?_, ?_⟩, fun hlt => (hanswer hlt).right⟩
  · intro hzero
    by_cases hlt : before.length < 5 * reads P.rs232Tps
    · rw [(hanswer hlt).left] at hzero
      exact ⟨hlt, echoReply_of_result hzero⟩
    · rw [hnone (Nat.le_of_not_lt hlt)] at hzero
      exact absurd hzero (by decide)
  · intro hreply
    rw [(hanswer hreply.left).left, if_pos hreply.right]

/-- 192.0.2.9 answers. -/
def echoReply : List UInt8 :=
  [0x45, 0, 0, 28, 0, 0, 0, 0, 64, 1, 0, 0, 192, 0, 2, 9, 192, 0, 2, 2,
    0, 0, 0xff, 0xff, 0, 0, 0, 0]

/-- The last packet of these rounds, behind two idle reads. -/
theorem answer_reaches_ping_alive :
    exists s, s ∈ readySessions echoReply [END] ∧ exists offer,
      s.latest = some offer ∧ offer.1 = echoReply ∧
        exists (rc : Int) (w' : Icmp.World Line),
          icmpEchoRequest (Tcp.serialLink Platform.spectrum)
              { ip := pingContext
                line := [none, none] ++ offer.2.map some ++ []
                sent := [] } = some (rc, w') ∧
            rc = 0 ∧ w'.line = [] := by
  let offer : List UInt8 × List UInt8 :=
    (echoReply, slipEncode true echoReply)
  have hlatest : (readySessions echoReply [END]).map Session.latest =
      [some offer] := by
    decide +kernel
  have hmem : some offer ∈
      (readySessions echoReply [END]).map Session.latest := by
    rw [hlatest]
    exact List.mem_singleton_self _
  rcases List.mem_map.mp hmem with ⟨s, hs, hlast⟩
  have hoffer : offer ∈ s.offers :=
    List.mem_append_right _ (Option.mem_toList.mpr hlast)
  have hjunk : some END ∉ ([none, none] : Line) := by
    decide
  rcases answer_reaches_ping Platform.spectrum (readyOs echoReply [END])
    [192, 0, 2, 2] 5 3 5 6 0 s hs hoffer rfl pingContext (by decide) hjunk []
    with ⟨rc, w', hrun, hresult, hline⟩
  have hbudget : ([none, none] : Line).length <
      5 * reads Platform.spectrum.rs232Tps := by
    decide
  have hreply : EchoReply echoReply := by
    decide
  exact ⟨s, hs, offer, hlast, rfl, rc, w', hrun,
    hresult.mpr ⟨hbudget, hreply⟩, hline hbudget⟩

end SlipTun
end Z80Tcpip
