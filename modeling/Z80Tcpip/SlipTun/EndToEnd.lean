import Z80Tcpip.Slip.SpectrumRoundTrip
import Z80Tcpip.SlipTun.RelayedSessions
import Z80Tcpip.Tcp.Agreement
import Z80Tcpip.Tcp.ClientRuns

/-!
# From the stack to the network and back

The bridge between the two programs on either side of it.  Upwards the segments
of a client on the Spectrum reach the raw socket; downwards the packets of the
tun device reach `recv_packet`.
-/

namespace Z80Tcpip
namespace SlipTun

open Foundation
open Slip

/-- A system in which everything is ready at once: a client is there, the tun
device has the datagram, and the tx fifo, empty at first, has the bytes. -/
def readyOs (datagram bytes : List UInt8) : Os Nat where
  read fd _ os :=
    if fd = 5 then (.ok datagram, os)
    else if os = 0 then (.ok [], 1)
    else if os = 1 then (.ok bytes, 2)
    else (.error .EAGAIN, os)
  write _ bytes os := (.ok bytes.length, os)
  openFifo _ os := (.ok 3, os)
  close _ os := os
  poll _ _ os :=
    (.ok (1, fun i => ⟨decide (i ≤ 1), false, false, false⟩), os)
  sendto _ _ _ os := os

theorem readyOs_never_full (datagram bytes : List UInt8) :
    ¬ (readyOs datagram bytes).MayTimeOut := by
  intro h
  rcases h with ⟨fds, os, revents, hpoll⟩
  have hcount := congrArg Prod.fst (Except.ok.inj hpoll)
  exact Nat.one_ne_zero hcount

/-- The sessions of three rounds of this system. -/
def readySessions (datagram bytes : List UInt8) : List Session :=
  (sessions [192, 0, 2, 2] (ran (recording (readyOs datagram bytes)) true
    [192, 0, 2, 2] 5 3 5 6 (0, [])).trace).all

/-- A datagram of TCP for 192.0.2.2 without a segment in it. -/
def emptyDatagram : List UInt8 :=
  [0x45, 0, 0, 20, 0, 0, 0, 0, 64, 6, 0, 0, 192, 0, 2, 1, 192, 0, 2, 2]

/-!
## Upwards
-/

theorem decodeBytes_sendPackets (slipEsc00 : Bool) {packets : List (List UInt8)}
    (hpackets : forall p, p ∈ packets -> p ≠ [] ∧ p.length ≤ MTU) :
    (decodeBytes slipEsc00 Decoder.drained
      (packets.flatMap (sendPacket slipEsc00))).2 = packets := by
  cases packets with
  | nil => rfl
  | cons p rest =>
      rcases hpackets p List.mem_cons_self with ⟨hp, hlen⟩
      have hrest : forall q, q ∈ rest -> q ≠ [] ∧ q.length ≤ MTU :=
        fun q hq => hpackets q (List.mem_cons_of_mem p hq)
      have hopen : Decoder.drained.openFrame = [] := rfl
      rw [decodeBytes, List.flatMap_cons, List.foldl_append,
        foldl_decodeByte_sendPacket (fun _ => rfl) hp hlen,
        foldl_decodeByte_packets hrest, hopen]
      rfl

/-- From the bytes of the packets' encodings, as far as they have come, the
grammar reads the packets in order. -/
theorem framesOf_sendPackets {slipEsc00 : Bool} {packets : List (List UInt8)}
    (hpackets : forall p, p ∈ packets -> p ≠ [] ∧ p.length ≤ MTU)
    {heard : List UInt8}
    (hheard : heard <+: packets.flatMap (sendPacket slipEsc00)) :
    framesOf slipEsc00 heard <+: packets := by
  rcases hheard with ⟨more, hmore⟩
  have hall := decodeBytes_sendPackets slipEsc00 hpackets
  rw [← hmore, decodeBytes_append] at hall
  rw [← (decodeBytes_drained slipEsc00 heard).left]
  exact ⟨_, hall⟩

/-- A valid segment passes the checks of `inject_frame`. -/
theorem rawSend_segment {t : Tcp.Transmission} (h : Tcp.ValidSegment t) :
    rawSend t.packet =
      some (t.packet, leBytes 4 t.tcp.ip.daddr.toNat) := by
  have hlong := h.length_eq
  have hfirst : t.packet.getD 0 0 = 0x45 := by
    have hversion := h.version
    cases hpacket : t.packet with
    | nil =>
        rw [hpacket, List.length_nil] at hlong
        omega
    | cons b rest =>
        rw [hpacket] at hversion
        simpa [field] using hversion
  have hmin : IP_HDR_MIN = 20 := rfl
  rw [rawSend, if_neg (by omega), hfirst, if_neg (by decide)]
  exact congrArg some (congrArg (Prod.mk t.packet) h.destination)

/-- Whatever a client on the Spectrum does and whatever the bridge's system
answers: if the bytes of one session are those that the client's calls have put
on the serial line, as far as the bridge has read them, then what that session
gives to the raw socket are the client's segments, unchanged, in order, each
once and each to the address of the connection; and once all bytes have been
read they are all of its segments. -/
theorem segments_reach_network {P : Platform} {σ ω : Type}
    (L : Tcp.Link P σ) (stackFuel : Nat) (register : Nat -> UInt8)
    (calls : List Tcp.Call) (client : Tcp.World σ)
    (hsent : client.sent = [])
    (hsize : 40 ≤ client.tcp.ip.pktSize.toNat ∧
      client.tcp.ip.pktSize.toNat ≤ MTU)
    (hfit : forall r, Tcp.Call.send r ∈ calls ->
      40 + r.len ≤ client.tcp.ip.pktSize.toNat)
    (O : Os ω) (remote : List UInt8) (fuel rounds : Nat) (tunFd rawFd : Int)
    (os : ω) (s : Session)
    (hs : s ∈ (sessions remote (ran (recording O) P.slipEsc00 remote fuel rounds
      tunFd rawFd (os, [])).trace).all)
    (hheard : s.heard <+:
      ((Tcp.clientRun L stackFuel register calls client).sent.map
        Tcp.Transmission.packet).flatMap (sendPacket P.slipEsc00)) :
    s.injected.filterMap rawSend <+:
        (Tcp.clientRun L stackFuel register calls client).sent.map
          (fun t => (t.packet, leBytes 4 client.tcp.ip.daddr.toNat)) ∧
      (s.heard = ((Tcp.clientRun L stackFuel register calls client).sent.map
          Tcp.Transmission.packet).flatMap (sendPacket P.slipEsc00) ->
        s.injected.filterMap rawSend =
          (Tcp.clientRun L stackFuel register calls client).sent.map
            (fun t => (t.packet, leBytes 4 client.tcp.ip.daddr.toNat))) := by
  rcases Tcp.clientRun_emits L stackFuel register hsize.left hfit with
    ⟨_, _, new, hnew, hvalid⟩
  rw [hsent, List.nil_append] at hnew
  rw [hnew] at hheard ⊢
  have hserved := (ran_carried (observes_recording O) P.slipEsc00 remote fuel
    rounds tunFd rawFd (os, []) rfl).served s hs
  have hpackets : forall p, p ∈ new.map Tcp.Transmission.packet ->
      p ≠ [] ∧ p.length ≤ MTU := by
    intro p hp
    rcases List.mem_map.mp hp with ⟨t, ht, htp⟩
    rcases hvalid t ht with ⟨hsegment, _, hroom⟩
    have hlen := hsegment.length_eq
    rw [← htp]
    constructor
    · intro hnil
      rw [hnil, List.length_nil] at hlen
      omega
    · omega
  have hraw : (new.map Tcp.Transmission.packet).filterMap rawSend =
      new.map (fun t => (t.packet, leBytes 4 client.tcp.ip.daddr.toNat)) := by
    rw [List.filterMap_map, ← List.filterMap_eq_map]
    apply List.filterMap_congr
    intro t ht
    rcases hvalid t ht with ⟨hsegment, hdaddr, _⟩
    rw [Function.comp_apply, rawSend_segment hsegment, hdaddr]
    rfl
  rw [← hraw, hserved.injected_eq]
  constructor
  · exact (framesOf_sendPackets hpackets hheard).filterMap rawSend
  · intro hall
    rw [← (decodeBytes_drained P.slipEsc00 s.heard).left, hall,
      decodeBytes_sendPackets P.slipEsc00 hpackets]

/-- A client that connects and sends one byte; both are acknowledged. -/
def talkingClient : Tcp.World Tcp.Script :=
  Tcp.clientRun (Tcp.scriptLink Platform.spectrum) 12 (fun _ => 0)
    [.send Tcp.oneByte]
    { tcp := Tcp.TcpContext.loopback 0 0
      line := [some (Tcp.peerSynAck 7), some (Tcp.peerSegment 8 3 [])]
      sent := [] }

def talkingBytes : List UInt8 :=
  (talkingClient.sent.map Tcp.Transmission.packet).flatMap (sendPacket true)

/-- The SYN, the end of the handshake and the byte. -/
theorem segments_reach_network_one_byte :
    exists s, s ∈ readySessions emptyDatagram talkingBytes ∧
      s.heard = talkingBytes ∧ talkingClient.sent.length = 3 ∧
        s.injected.filterMap rawSend =
          talkingClient.sent.map (fun t => (t.packet, [127, 0, 0, 1])) := by
  have hheard : (readySessions emptyDatagram talkingBytes).map Session.heard =
      [talkingBytes] := by
    decide +kernel
  have hmem : talkingBytes ∈
      (readySessions emptyDatagram talkingBytes).map Session.heard := by
    rw [hheard]
    exact List.mem_singleton_self talkingBytes
  rcases List.mem_map.mp hmem with ⟨s, hs, hsheard⟩
  have hfit : forall r, Tcp.Call.send r ∈ [Tcp.Call.send Tcp.oneByte] ->
      40 + r.len ≤ (Tcp.TcpContext.loopback 0 0).ip.pktSize.toNat := by
    intro r hr
    cases List.mem_singleton.mp hr
    decide
  have hreach := segments_reach_network (Tcp.scriptLink Platform.spectrum) 12
    (fun _ => 0) [.send Tcp.oneByte]
    { tcp := Tcp.TcpContext.loopback 0 0
      line := [some (Tcp.peerSynAck 7), some (Tcp.peerSegment 8 3 [])]
      sent := [] } rfl
    (by decide) hfit (readyOs emptyDatagram talkingBytes) [192, 0, 2, 2] 5 3
    5 6 0 s hs (hsheard ▸ List.prefix_rfl)
  exact ⟨s, hs, hsheard, by decide +kernel, hreach.right hsheard⟩

/-!
## Downwards
-/

/-- The serial line on which the bytes written for each packet follow so many
idle reads. -/
def pausedLine (offers : List (Nat × (List UInt8 × List UInt8))) : Line :=
  offers.flatMap (fun o => List.replicate o.1 none ++ o.2.2.map some)

theorem pausedLine_cons (o : Nat × (List UInt8 × List UInt8))
    (more : List (Nat × (List UInt8 × List UInt8))) (rest : Line) :
    pausedLine (o :: more) ++ rest =
      List.replicate o.1 none ++ o.2.2.map some ++
        (pausedLine more ++ rest) := by
  rw [pausedLine, List.flatMap_cons, List.append_assoc]
  rfl

theorem recvPackets_pausedLine (P : Platform) {len : Nat} (hlen : 1 ≤ len)
    {timeout : Int16} (rest : Line)
    {offers : List (Nat × (List UInt8 × List UInt8))}
    (hwritten : forall o, o ∈ offers ->
      o.2.1 ≠ [] ∧ o.2.2 = slipEncode P.slipEsc00 o.2.1)
    (hpauses : forall o, o ∈ offers -> (o.1 : Int) < timeout.toInt - 1) :
    forall p : Buffer len,
      recvPackets P timeout offers.length p (pausedLine offers ++ rest) =
        some (offers.map (fun o =>
          (((min o.2.1.length len : Nat) : Int), o.2.1.take len)), rest) := by
  induction offers with
  | nil =>
      intro p
      rfl
  | cons o more ih =>
      intro p
      rcases hwritten o List.mem_cons_self with ⟨hnonempty, hencoded⟩
      have hbudget := hpauses o List.mem_cons_self
      have hreads : (reads timeout : Int) = timeout.toInt - 1 :=
        reads_of_pos (by omega)
      have hjunk : some END ∉ List.replicate o.1 (none : Option UInt8) := by
        simp [List.mem_replicate]
      have hcalls : (List.replicate o.1 (none : Option UInt8)).length <
          reads timeout := by
        rw [List.length_replicate]
        omega
      have hcall := recvPacket_slipEncode P hlen p hnonempty hjunk hcalls
        (pausedLine more ++ rest)
      rw [← hencoded] at hcall
      have hmore := ih (fun q hq => hwritten q (List.mem_cons_of_mem o hq))
        (fun q hq => hpauses q (List.mem_cons_of_mem o hq))
        (p.write 0 (o.2.1.take len))
      rw [List.length_cons, pausedLine_cons, recvPackets_succ hcall, hmore]
      simp only [Option.map_some, List.map_cons, Int.toNat_natCast,
        slice_kept p o.2.1]
      rw [List.length_take, Nat.min_comm len]

/-- If no wait for room times out, the packets for the Spectrum of a session
arrive: from the bytes that were written for the first of them, with pauses in
front of the packets that are shorter than a call waits, successive calls of
`recv_packet` return these packets, each cut to the buffer.  They may be all of
them if the last one has been written whole. -/
theorem packets_reach_spectrum (P : Platform) {ω : Type} (O : Os ω)
    (hroom : ¬ O.MayTimeOut) (remote : List UInt8) (fuel rounds : Nat)
    (tunFd rawFd : Int) (os : ω) (s : Session)
    (hs : s ∈ (sessions remote (ran (recording O) P.slipEsc00 remote fuel rounds
      tunFd rawFd (os, [])).trace).all)
    {len : Nat} (hlen : 1 ≤ len) (p : Buffer len) (timeout : Int16)
    (offers : List (Nat × (List UInt8 × List UInt8)))
    (hoffers : offers.map Prod.snd <+: s.offers)
    (hlatest : offers.map Prod.snd = s.offers ->
      forall o, s.latest = some o -> o.2 = slipEncode P.slipEsc00 o.1)
    (hpauses : forall o, o ∈ offers -> (o.1 : Int) < timeout.toInt - 1)
    (rest : Line) :
    recvPackets P timeout offers.length p (pausedLine offers ++ rest) =
      some (offers.map (fun o =>
        (((min o.2.1.length len : Nat) : Int), o.2.1.take len)), rest) := by
  have hserved := (ran_carried (observes_recording O) P.slipEsc00 remote fuel
    rounds tunFd rawFd (os, []) rfl).served s hs
  refine recvPackets_pausedLine P hlen rest (fun o ho => ?_) hpauses p
  have hmem : o.2 ∈ offers.map Prod.snd := List.mem_map_of_mem ho
  exact ⟨hserved.nonempty (hoffers.subset hmem),
    hserved.written_whole (fun h => hroom h.of_recording) hoffers hlatest hmem⟩

/-- Two packets are offered in these rounds and both are written whole; each
arrives behind two idle reads. -/
theorem packets_reach_spectrum_both :
    exists s, s ∈ readySessions emptyDatagram [END] ∧ s.offers.length = 2 ∧
      recvPackets Platform.spectrum 5 2 (⟨[0, 0, 0], rfl⟩ : Buffer 3)
          (pausedLine (s.offers.map (fun o => (2, o))) ++ []) =
        some ([(3, [0x45, 0, 0]), (3, [0x45, 0, 0])], []) := by
  let offer : List UInt8 × List UInt8 :=
    (emptyDatagram, slipEncode true emptyDatagram)
  have hoffers : (readySessions emptyDatagram [END]).map
      (fun s => (s.offers, s.latest)) = [([offer, offer], some offer)] := by
    decide +kernel
  have hmem : ([offer, offer], some offer) ∈
      (readySessions emptyDatagram [END]).map
        (fun s => (s.offers, s.latest)) := by
    rw [hoffers]
    exact List.mem_singleton_self _
  rcases List.mem_map.mp hmem with ⟨s, hs, hsoffers⟩
  rcases Prod.mk.inj hsoffers with ⟨hboth, hlast⟩
  have hsnd : ([(2, offer), (2, offer)] :
      List (Nat × (List UInt8 × List UInt8))).map Prod.snd = s.offers :=
    hboth.symm
  have hpauses : forall o, o ∈ ([(2, offer), (2, offer)] :
      List (Nat × (List UInt8 × List UInt8))) ->
        (o.1 : Int) < (5 : Int16).toInt - 1 := by
    intro o ho
    have heq : o = (2, offer) := by
      simpa using ho
    rw [heq]
    show (2 : Int) < (5 : Int16).toInt - 1
    decide
  have hread := packets_reach_spectrum Platform.spectrum
    (readyOs emptyDatagram [END]) (readyOs_never_full emptyDatagram [END])
    [192, 0, 2, 2] 5 3 5 6 0 s hs (by decide) ⟨[0, 0, 0], rfl⟩ 5
    [(2, offer), (2, offer)] (hsnd ▸ List.prefix_rfl)
    (fun _ o ho => by
      rw [hlast] at ho
      cases ho
      rfl)
    hpauses []
  refine ⟨s, hs, by rw [hboth]; rfl, ?_⟩
  rw [hboth]
  exact hread

end SlipTun
end Z80Tcpip
