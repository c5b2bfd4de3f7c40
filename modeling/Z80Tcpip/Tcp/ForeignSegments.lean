import Z80Tcpip.Tcp.ConnectOutcome
import Z80Tcpip.Tcp.LostBytes
import Z80Tcpip.Tcp.Runs

/-!
# Packets of other connections

`tcp_recv_timeout` tells its own connection by the protocol and the two ports.
A packet that these checks turn away is as good as none: it has the effect of a
timeout, in one call and in every run of calls.  The addresses are not compared.
-/

namespace Z80Tcpip
namespace Tcp

open Foundation
open Ip

variable {P : Platform}

/-!
## Two runs
-/

/-- An IPv4 packet with a TCP segment from the peer to us: both addresses and
both ports are those of the connection. -/
structure SessionSegment (tcp : TcpContext) (bs : List UInt8) : Prop where
  version : bs.getD 0 0 >>> 4 = 4
  protocol : bs.getD 9 0 = IP_TCP
  source : field bs 12 4 = leBytes 4 tcp.ip.daddr.toNat
  destination : field bs 16 4 = leBytes 4 tcp.ip.saddr.toNat
  ports : field bs (4 * (bs.getD 0 0 &&& 0x0f).toNat) 4 = peerPorts tcp

/-- The script with a timeout in the place of every packet that the checks turn
away. -/
def silenced (tcp : TcpContext) (line : Script) : Script :=
  line.map (fun ev =>
    ev.filter (fun packet => Checked tcp (packet.take tcp.ip.pktSize.toNat)))

/-- The state of a connection, apart from the packet buffer. -/
structure SameState (tcp tcp' : TcpContext) : Prop where
  session : SameSession tcp tcp'
  seq_eq : tcp'.seq = tcp.seq
  ack_eq : tcp'.ack = tcp.ack
  ths_eq : tcp'.ths = tcp.ths

/-- The answers of the calls one after another, each with the bytes that are
handed out. -/
def answersOf (P : Platform) (fuel : Nat) :
    List Call -> World Script ->
      Option (List (Int × List UInt8) × World Script)
  | [], w => some ([], w)
  | call :: more, w =>
      match call.run (scriptLink P) fuel w with
      | (none, _) => none
      | (some rc, w') =>
          match answersOf P fuel more w' with
          | none => none
          | some (answers, w'') =>
              some ((rc, tcpRxBuffer w'.tcp rc.toNat) :: answers, w'')

/-- The connection has been started. -/
def Live (w : World Script) : Prop :=
  w.tcp.seq = 1 ∨ 1 < w.tcp.seq

/-- The world with the packets that are turned away, and the one without. -/
structure Twin (w v : World Script) : Prop where
  state : SameState w.tcp v.tcp
  line_eq : v.line = silenced w.tcp w.line

/-- Calls in two such worlds return the same, with the same bytes. -/
inductive Matching (n : Nat) :
    Option Int × World Script -> Option Int × World Script -> Prop
  | intro {rc : Int} {w v : World Script} (htwin : Twin w v) (hlive : Live w)
      (hline : w.line.length ≤ n)
      (hbytes : tcpRxBuffer v.tcp rc.toNat = tcpRxBuffer w.tcp rc.toNat) :
      Matching n (some rc, w) (some rc, v)

theorem SameSession.symm {tcp tcp' : TcpContext} (h : SameSession tcp tcp') :
    SameSession tcp' tcp := by
  rcases h with ⟨h1, h2, h3, h4, h5⟩
  exact ⟨h1.symm, h2.symm, h3.symm, h4.symm, h5.symm⟩

theorem silenced_congr {tcp tcp' : TcpContext} (h : SameSession tcp tcp')
    (line : Script) : silenced tcp' line = silenced tcp line := by
  have hsize : tcp'.ip.pktSize = tcp.ip.pktSize := h.right.right.left
  simp only [silenced, hsize, Checked.sameSession h]

theorem silenced_kept {tcp : TcpContext} {packet : List UInt8} (line : Script)
    (h : Checked tcp (packet.take tcp.ip.pktSize.toNat)) :
    silenced tcp (some packet :: line) = some packet :: silenced tcp line := by
  simp [silenced, Option.filter, h]

theorem silenced_dropped {tcp : TcpContext} {packet : List UInt8}
    (line : Script) (h : ¬ Checked tcp (packet.take tcp.ip.pktSize.toNat)) :
    silenced tcp (some packet :: line) = none :: silenced tcp line := by
  simp [silenced, Option.filter, h]

theorem Matching.nonpos {n : Nat} {rc : Int} {w v : World Script}
    (hrc : rc ≤ 0) (htwin : Twin w v) (hlive : Live w)
    (hline : w.line.length ≤ n) : Matching n (some rc, w) (some rc, v) := by
  refine .intro htwin hlive hline ?_
  rw [Int.toNat_of_nonpos hrc, tcpRxBuffer_zero, tcpRxBuffer_zero]

theorem Matching.mono {n m : Nat} {r r' : Option Int × World Script}
    (h : Matching n r r') (hle : n ≤ m) : Matching m r r' := by
  cases h with
  | intro htwin hlive hline hbytes =>
      exact .intro htwin hlive (Nat.le_trans hline hle) hbytes

theorem Twin.of_state {w w' v' : World Script}
    (hstate : SameState w'.tcp v'.tcp) (hsession : SameSession w.tcp w'.tcp)
    (hline : v'.line = silenced w.tcp w'.line) : Twin w' v' := by
  rw [← silenced_congr hsession] at hline
  exact ⟨hstate, hline⟩

theorem Twin.transmit {w v : World Script} (h : Twin w v) (len : Nat)
    (data : Option (Buffer len)) (window : UInt16) :
    Twin (w.transmit len data window) (v.transmit len data window) :=
  .of_state (w := w)
    ⟨h.state.session, h.state.seq_eq, h.state.ack_eq, h.state.ths_eq⟩
    ⟨rfl, rfl, rfl, rfl, rfl⟩ h.line_eq

/-!
## One packet in both worlds
-/

section Packet

variable {w v : World Script} {bs : List UInt8} {line line' : Script}
  (htwin : Twin w v) (hfit : bs.length ≤ w.tcp.ip.pktSize.toNat)
  (hlong : 40 ≤ bs.length) (hline : line' = silenced w.tcp line)

include htwin

theorem Twin.fits (hfit : bs.length ≤ w.tcp.ip.pktSize.toNat) :
    bs.length ≤ v.tcp.ip.pktSize.toNat := by
  rwa [htwin.state.session.right.right.left]

include hline

theorem Twin.arrive : Twin (w.arrive bs line) (v.arrive bs line') :=
  .of_state (w := w)
    ⟨htwin.state.session, htwin.state.seq_eq, htwin.state.ack_eq,
      htwin.state.ths_eq⟩ ⟨rfl, rfl, rfl, rfl, rfl⟩ hline

include hfit hlong

theorem Twin.noted : Twin (w.noted bs line) (v.noted bs line') := by
  refine .of_state (w := w)
    ⟨htwin.state.session, htwin.state.seq_eq, htwin.state.ack_eq, ?_⟩
    ⟨rfl, rfl, rfl, rfl, rfl⟩ hline
  apply UInt8.toNat_inj.mp
  exact (readHeaderSize_ths line' (htwin.fits hfit) hlong).trans
    (readHeaderSize_ths line hfit hlong).symm

theorem Twin.synced : Twin (w.synced bs line) (v.synced bs line') :=
  .of_state (w := w)
    ⟨htwin.state.session, rfl, rfl,
      (htwin.noted hfit hlong hline).state.ths_eq⟩
    ⟨rfl, rfl, rfl, rfl, rfl⟩ hline

theorem Twin.acked : Twin (w.acked bs line) (v.acked bs line') := by
  have hsession := acked_sameSession w bs line
  refine .of_state ⟨hsession.symm.trans
    (htwin.state.session.trans (acked_sameSession v bs line')), ?_,
      htwin.state.ack_eq, ?_⟩ hsession hline
  · apply UInt32.toNat_inj.mp
    have hseq : (w.acked bs line).tcp.seq.toNat =
        max w.tcp.seq.toNat (packetAck bs).toNat :=
      opened_seq line hfit hlong
    have hseq' : (v.acked bs line').tcp.seq.toNat =
        max v.tcp.seq.toNat (packetAck bs).toNat :=
      opened_seq line' (htwin.fits hfit) hlong
    rw [hseq, hseq', htwin.state.seq_eq]
  · apply UInt8.toNat_inj.mp
    exact (opened_ths line' (htwin.fits hfit) hlong).trans
      (opened_ths line hfit hlong).symm

theorem Twin.accept : Twin (w.accept bs line) (v.accept bs line') := by
  have hsession := accept_sameSession w bs line
  have hfit' := htwin.fits hfit
  refine .of_state ⟨hsession.symm.trans
    (htwin.state.session.trans (accept_sameSession v bs line')), ?_, ?_, ?_⟩
      hsession hline
  · rw [World.accept, World.accept, World.transmit_seq, World.transmit_seq,
      accepted_seq line hfit hlong, accepted_seq line' hfit' hlong,
      acknowledging, acknowledging, htwin.state.seq_eq]
  · rw [World.accept, World.accept, World.transmit_ack, World.transmit_ack,
      accepted_ack line hfit hlong, accepted_ack line' hfit' hlong]
    rfl
  · apply UInt8.toNat_inj.mp
    exact (accept_ths line' hfit' hlong).trans
      (accept_ths line hfit hlong).symm

omit hline in
theorem Twin.accept_bytes :
    tcpRxBuffer (v.accept bs line').tcp
        (bs.length - (20 + packetHeaderSize bs)) =
      tcpRxBuffer (w.accept bs line).tcp
        (bs.length - (20 + packetHeaderSize bs)) := by
  rw [accept_handedOut line hfit hlong,
    accept_handedOut line' (htwin.fits hfit) hlong,
    handedOut_congr htwin.state.session htwin.state.seq_eq]

end Packet

/-!
## Calls in both worlds
-/

theorem idle_matching {w v : World Script} (timeout : Int16) (fuel : Nat)
    (htwin : Twin w v) (hlive : Live w) {line line' : Script}
    (hrecv : (scriptLink P).recvPacket w.tcp.ip.pkt timeout w.line =
      some (-(P.eagain : Int), w.tcp.ip.pkt, line))
    (hrecv' : (scriptLink P).recvPacket v.tcp.ip.pkt timeout v.line =
      some (-(P.eagain : Int), v.tcp.ip.pkt, line'))
    (hline : line' = silenced w.tcp line)
    (hlength : line.length ≤ w.line.length) :
    Matching w.line.length (tcpRecvAgain (scriptLink P) (fuel + 1) w timeout)
      (tcpRecvAgain (scriptLink P) (fuel + 1) v timeout) := by
  have heagain := P.eagain_pos
  rw [tcpRecvAgain_idle fuel hrecv, tcpRecvAgain_idle fuel hrecv']
  exact .nonpos (by omega)
    (.of_state (w := w)
      ⟨htwin.state.session, htwin.state.seq_eq, htwin.state.ack_eq,
        htwin.state.ths_eq⟩ ⟨rfl, rfl, rfl, rfl, rfl⟩ hline) hlive hlength

/-- A packet that the checks turn away in one world, a timeout in the other. -/
theorem unchecked_matching {w v : World Script} (timeout : Int16)
    (fuel : Nat) (htwin : Twin w v) (hlive : Live w) {bs : List UInt8}
    {line line' : Script} (hrecv : Delivers (scriptLink P) timeout w bs line)
    (hbad : ¬ Checked w.tcp bs)
    (hrecv' : (scriptLink P).recvPacket v.tcp.ip.pkt timeout v.line =
      some (-(P.eagain : Int), v.tcp.ip.pkt, line'))
    (hline : line' = silenced w.tcp line)
    (hlength : line.length ≤ w.line.length) :
    Matching w.line.length (tcpRecvAgain (scriptLink P) (fuel + 1) w timeout)
      (tcpRecvAgain (scriptLink P) (fuel + 1) v timeout) := by
  have heagain := P.eagain_pos
  have htwin' : Twin (w.arrive bs line) (v.received v.tcp.ip.pkt line') :=
    .of_state (w := w)
      ⟨htwin.state.session, htwin.state.seq_eq, htwin.state.ack_eq,
        htwin.state.ths_eq⟩ ⟨rfl, rfl, rfl, rfl, rfl⟩ hline
  rw [tcpRecvAgain_packet fuel hrecv
      (tcpInput_unchecked (P := P) line hrecv.left hbad),
    tcpRecvAgain_idle fuel hrecv']
  exact .nonpos (by omega) htwin' hlive hlength

section Kept

variable {w v : World Script} {bs : List UInt8} {line line' : Script}
  {timeout : Int16} (fuel : Nat) (htwin : Twin w v)
  (hrecv : Delivers (scriptLink P) timeout w bs line)
  (hrecv' : Delivers (scriptLink P) timeout v bs line')
  (hline : line' = silenced w.tcp line)
  (hlength : line.length ≤ w.line.length)

include htwin hrecv hrecv' hline hlength

theorem reset_matching (hlive : Live w) (hchecked : Checked w.tcp bs)
    (hrst : bs.getD 33 0 &&& TCP_RST ≠ 0) :
    Matching w.line.length (tcpRecvAgain (scriptLink P) (fuel + 1) w timeout)
      (tcpRecvAgain (scriptLink P) (fuel + 1) v timeout) := by
  have hchecked' := (Checked.sameSession htwin.state.session).mpr hchecked
  have hreset : ERESET = 20 := rfl
  rw [tcpRecvAgain_packet fuel hrecv
      (tcpInput_reset (P := P) line hrecv.left hchecked hrst),
    tcpRecvAgain_packet fuel hrecv'
      (tcpInput_reset (P := P) line' hrecv'.left hchecked' hrst)]
  exact .nonpos (by omega) (htwin.arrive hline) hlive hlength

theorem syn_matching (hout : w.tcp.seq = 1) (hpass : Passes w.tcp bs) :
    Matching w.line.length (tcpRecvAgain (scriptLink P) (fuel + 3) w timeout)
      (tcpRecvAgain (scriptLink P) (fuel + 3) v timeout) := by
  have hfit := hrecv.left
  have hlong := hpass.long
  have hout' : v.tcp.seq = 1 := htwin.state.seq_eq.trans hout
  have hpass' := (Passes.sameSession htwin.state.session).mpr hpass
  have hinput := tcpInput_syn_packet (P := P) line hfit hout hpass
  have hinput' := tcpInput_syn_packet (P := P) line' hrecv'.left hout' hpass'
  have hreset : ERESET = 20 := rfl
  split_ifs at hinput hinput' with hack hsyn
  · rw [tcpRecvAgain_packet (fuel + 2) hrecv hinput,
      tcpRecvAgain_packet (fuel + 2) hrecv' hinput']
    exact .nonpos (by omega) (htwin.noted hfit hlong hline) (.inl hout) hlength
  · have htwo : packetAck bs = 2 := not_not.mp hack
    have hconn : 1 < (w.synced bs line).tcp.seq := by
      show 1 < packetAck bs
      rw [htwo]
      decide
    have hconn' : 1 < (v.synced bs line').tcp.seq := hconn
    have hsend := tcpRecvAction_ackSyn (scriptLink P) fuel timeout bs.length
      hconn
    have hsend' := tcpRecvAction_ackSyn (scriptLink P) fuel timeout bs.length
      hconn'
    rw [tcpRecvAgain_packet (fuel + 2) hrecv hinput,
      tcpRecvAgain_packet (fuel + 2) hrecv' hinput']
    have htwin' := (htwin.synced hfit hlong hline).transmit 0 none 0
    have hanswer : Matching w.line.length
        (some 0, (w.synced bs line).transmit 0 none 0)
        (some 0, (v.synced bs line').transmit 0 none 0) :=
      .nonpos (Int.le_refl 0) htwin' (.inr hconn) hlength
    rw [← hsend, ← hsend'] at hanswer
    exact hanswer
  · rw [tcpRecvAgain_packet (fuel + 2) hrecv hinput,
      tcpRecvAgain_packet (fuel + 2) hrecv' hinput']
    exact .nonpos (by omega) (htwin.noted hfit hlong hline) (.inl hout) hlength

omit hline hlength in
theorem probe_matching (hconn : 1 < w.tcp.seq) (hpass : Passes w.tcp bs)
    (hprobe : IsProbe w.tcp bs) {n : Nat}
    (hmore : Matching n
      (tcpRecvAgain (scriptLink P) fuel (w.noted bs line) timeout)
      (tcpRecvAgain (scriptLink P) fuel (v.noted bs line') timeout)) :
    Matching n (tcpRecvAgain (scriptLink P) (fuel + 1) w timeout)
      (tcpRecvAgain (scriptLink P) (fuel + 1) v timeout) := by
  have hack : v.tcp.ack = w.tcp.ack := htwin.state.ack_eq
  have hconn' : 1 < v.tcp.seq := by
    rwa [htwin.state.seq_eq]
  have hpass' := (Passes.sameSession htwin.state.session).mpr hpass
  have hprobe' : IsProbe v.tcp bs := by
    rwa [IsProbe, hack]
  rw [tcpRecvAgain_packet fuel hrecv
      (tcpInput_probe (P := P) line hrecv.left hconn hpass hprobe),
    tcpRecvAgain_packet fuel hrecv'
      (tcpInput_probe (P := P) line' hrecv'.left hconn' hpass' hprobe')]
  exact hmore

theorem taken_matching (hconn : 1 < w.tcp.seq) (htaken : TakenIn w.tcp bs) :
    Matching w.line.length (tcpRecvAgain (scriptLink P) (fuel + 3) w timeout)
      (tcpRecvAgain (scriptLink P) (fuel + 3) v timeout) := by
  rcases htaken with ⟨hpass, hprobe⟩
  have hfit := hrecv.left
  have hlong := hpass.long
  have hack : v.tcp.ack = w.tcp.ack := htwin.state.ack_eq
  have hconn' : 1 < v.tcp.seq := by
    rwa [htwin.state.seq_eq]
  have hpass' := (Passes.sameSession htwin.state.session).mpr hpass
  have hprobe' : ¬ IsProbe v.tcp bs := by
    rwa [IsProbe, hack]
  have hinput := tcpInput_not_probe (P := P) line hfit hconn hpass hprobe
  have hinput' := tcpInput_not_probe (P := P) line' hrecv'.left hconn' hpass'
    hprobe'
  have hacked := htwin.acked hfit hlong hline
  have hlive : Live (w.acked bs line) := .inr (one_lt_acked_seq bs line hconn)
  rw [hack] at hinput'
  split_ifs at hinput hinput' with hdata hseq
  · rw [tcpRecvAgain_packet (fuel + 2) hrecv hinput,
      tcpRecvAgain_packet (fuel + 2) hrecv' hinput']
    exact .nonpos (Int.le_refl 0) hacked hlive hlength
  · unfold CarriesData at hdata
    have hcount : ((bs.length : Int) - 20 - packetHeaderSize bs).toNat =
        bs.length - (20 + packetHeaderSize bs) := by
      omega
    rw [tcpRecvAgain_fresh timeout fuel hconn hrecv hpass hdata hseq,
      tcpRecvAgain_fresh timeout fuel hconn' hrecv' hpass' hdata
        (by rwa [hack])]
    refine .intro (htwin.accept hfit hlong hline)
      (.inr (one_lt_accept_seq bs line hconn)) hlength ?_
    rw [hcount]
    exact htwin.accept_bytes hfit hlong
  · unfold CarriesData at hdata
    rw [tcpRecvAgain_packet (fuel + 2) hrecv hinput,
      tcpRecvAgain_packet (fuel + 2) hrecv' hinput']
    exact .nonpos (by omega) hacked hlive hlength

end Kept

theorem tcpRecvAgain_matching (timeout : Int16) {line : Script} :
    forall {fuel : Nat} {w v : World Script}, w.line = line -> Twin w v ->
      Live w -> line.length + 3 ≤ fuel ->
        Matching line.length (tcpRecvAgain (scriptLink P) fuel w timeout)
          (tcpRecvAgain (scriptLink P) fuel v timeout) := by
  induction line with
  | nil =>
      intro fuel w v hline htwin hlive hfuel
      have hline' : v.line = [] := by
        rw [htwin.line_eq, hline]
        rfl
      have hrecv : (scriptLink P).recvPacket w.tcp.ip.pkt timeout w.line =
          some (-(P.eagain : Int), w.tcp.ip.pkt, []) := by
        rw [hline]
        rfl
      have hrecv' : (scriptLink P).recvPacket v.tcp.ip.pkt timeout v.line =
          some (-(P.eagain : Int), v.tcp.ip.pkt, []) := by
        rw [hline']
        rfl
      rw [← Nat.sub_add_cancel (show 1 ≤ fuel by omega), ← hline]
      exact idle_matching timeout (fuel - 1) htwin hlive hrecv hrecv' rfl
        (Nat.zero_le _)
  | cons ev rest ih =>
      intro fuel w v hline htwin hlive hfuel
      rw [List.length_cons] at hfuel
      have hlength : rest.length ≤ w.line.length := by
        rw [hline]
        exact Nat.le_succ _
      cases ev with
      | none =>
          have hline' : v.line = none :: silenced w.tcp rest := by
            rw [htwin.line_eq, hline]
            rfl
          rw [← Nat.sub_add_cancel (show 1 ≤ fuel by omega), ← hline]
          refine idle_matching timeout (fuel - 1) htwin hlive ?_ ?_ rfl hlength
          · rw [hline]
            rfl
          · rw [hline']
            rfl
      | some packet =>
          have hrecv : Delivers (scriptLink P) timeout w
              (packet.take w.tcp.ip.pktSize.toNat) rest :=
            delivers_take timeout hline
          by_cases hchecked :
              Checked w.tcp (packet.take w.tcp.ip.pktSize.toNat)
          · have hline' : v.line = some packet :: silenced w.tcp rest := by
              rw [htwin.line_eq, hline, silenced_kept rest hchecked]
            have hrecv' : Delivers (scriptLink P) timeout v
                (packet.take w.tcp.ip.pktSize.toNat)
                (silenced w.tcp rest) := by
              rw [← htwin.state.session.right.right.left]
              exact delivers_take timeout hline'
            rw [← Nat.sub_add_cancel (show 3 ≤ fuel by omega), ← hline]
            by_cases hrst :
                (packet.take w.tcp.ip.pktSize.toNat).getD 33 0 &&& TCP_RST = 0
            · have hpass := passes_iff.mpr ⟨hchecked, hrst⟩
              rcases hlive with hout | hconn
              · exact syn_matching (fuel - 3) htwin hrecv hrecv' rfl hlength
                  hout hpass
              · by_cases hprobe :
                    IsProbe w.tcp (packet.take w.tcp.ip.pktSize.toNat)
                · exact (probe_matching (fuel - 3 + 2) htwin hrecv hrecv'
                    hconn hpass hprobe (ih rfl
                      (htwin.noted hrecv.left hpass.long rfl) (.inr hconn)
                      (by omega))).mono hlength
                · exact taken_matching (fuel - 3) htwin hrecv hrecv' rfl
                    hlength hconn ⟨hpass, hprobe⟩
            · exact reset_matching (fuel - 3 + 2) htwin hrecv hrecv' rfl
                hlength hlive hchecked hrst
          · have hline' : v.line = none :: silenced w.tcp rest := by
              rw [htwin.line_eq, hline, silenced_dropped rest hchecked]
            have hrecv' : (scriptLink P).recvPacket v.tcp.ip.pkt timeout
                v.line = some (-(P.eagain : Int), v.tcp.ip.pkt,
                  silenced w.tcp rest) := by
              rw [hline']
              rfl
            rw [← Nat.sub_add_cancel (show 1 ≤ fuel by omega), ← hline]
            exact unchecked_matching timeout (fuel - 1) htwin hlive hrecv
              hchecked hrecv' rfl hlength

theorem tcpRecv_matching {fuel : Nat} {w v : World Script} (htwin : Twin w v)
    (hlive : Live w) (hfuel : w.line.length + 5 ≤ fuel) :
    Matching w.line.length (tcpRecv (scriptLink P) fuel w 0)
      (tcpRecv (scriptLink P) fuel v 0) := by
  rw [← Nat.sub_add_cancel (show 2 ≤ fuel by omega), tcpRecv, tcpRecv,
    tcpRecvTimeout, tcpRecvTimeout, clampLen_zero, clampLen_zero,
    if_neg (fun hne => hne rfl), if_neg (fun hne => hne rfl)]
  exact tcpRecvAgain_matching P.rs232Tps rfl htwin hlive (by omega)

/-- A transmission and what comes behind it; `hmore` is the retransmission. -/
theorem round_matching {len : Nat} {data : Option (Buffer len)}
    {window : UInt16} {fuel retries : Nat} {w v : World Script}
    (htwin : Twin w v) (hlive : Live w) (hfuel : w.line.length + 5 ≤ fuel)
    (hmore : forall w2 v2 : World Script, Twin w2 v2 -> Live w2 ->
      w2.line.length ≤ w.line.length -> retries < 5 ->
        Matching w2.line.length
          (tcpSendAgain (scriptLink P) fuel w2 len data window (retries + 1))
          (tcpSendAgain (scriptLink P) fuel v2 len data window
            (retries + 1))) :
    Matching w.line.length
      (tcpSendAgain (scriptLink P) (fuel + 1) w len data window retries)
      (tcpSendAgain (scriptLink P) (fuel + 1) v len data window retries) := by
  have hsent := htwin.transmit len data window
  have hround : Matching w.line.length
      (tcpRecv (scriptLink P) fuel (w.transmit len data window) 0)
      (tcpRecv (scriptLink P) fuel (v.transmit len data window) 0) :=
    tcpRecv_matching hsent hlive hfuel
  have hseq : (v.transmit len data window).tcp.seq =
      (w.transmit len data window).tcp.seq := hsent.state.seq_eq
  rw [tcpSendAgain, tcpSendAgain, hseq]
  generalize tcpRecv (scriptLink P) fuel (w.transmit len data window) 0 = r
    at hround ⊢
  generalize tcpRecv (scriptLink P) fuel (v.transmit len data window) 0 = r'
    at hround ⊢
  cases hround with
  | @intro rc w2 v2 htwin2 hlive2 hlength hbytes =>
      simp only
      split_ifs with hdone hagain hretry hneg
      · exact .nonpos (Int.le_refl 0) hsent hlive (Nat.le_refl _)
      · exact (hmore w2 v2 htwin2 hlive2 hlength hretry).mono hlength
      · exact .nonpos (by decide) htwin2 hlive2 hlength
      · exact .nonpos (Int.le_of_lt hneg) htwin2 hlive2 hlength
      · exact .nonpos (Int.le_refl 0) htwin2 hlive2 hlength

theorem tcpSendAgain_matching (len : Nat) (data : Option (Buffer len))
    (window : UInt16) {n : Nat} :
    forall {fuel retries : Nat} {w v : World Script}, Twin w v -> Live w ->
      retries + n = 5 -> w.line.length + n + 6 ≤ fuel ->
        Matching w.line.length
          (tcpSendAgain (scriptLink P) fuel w len data window retries)
          (tcpSendAgain (scriptLink P) fuel v len data window retries) := by
  induction n with
  | zero =>
      intro fuel retries w v htwin hlive hn hfuel
      rw [← Nat.sub_add_cancel (show 1 ≤ fuel by omega)]
      refine round_matching htwin hlive (by omega) ?_
      intro w2 v2 _ _ _ hretry
      omega
  | succ n ih =>
      intro fuel retries w v htwin hlive hn hfuel
      rw [← Nat.sub_add_cancel (show 1 ≤ fuel by omega)]
      refine round_matching htwin hlive (by omega) ?_
      intro w2 v2 htwin2 hlive2 hlength _
      exact ih htwin2 hlive2 (by omega) (by omega)

theorem tcpSend_matching {len : Nat} (data : Option (Buffer len))
    (window : UInt16) {fuel : Nat} {w v : World Script} (htwin : Twin w v)
    (hlive : Live w) (hfuel : w.line.length + 12 ≤ fuel) :
    Matching w.line.length (tcpSend (scriptLink P) fuel w len data window)
      (tcpSend (scriptLink P) fuel v len data window) := by
  rw [← Nat.sub_add_cancel (show 1 ≤ fuel by omega), tcpSend, tcpSend]
  exact tcpSendAgain_matching len data window htwin hlive (Nat.zero_add 5)
    (by omega)

theorem tcpRecvTimeout_matching (len : UInt16) (timeout : Int16) {fuel : Nat}
    {w v : World Script} (htwin : Twin w v) (hlive : Live w)
    (hfuel : w.line.length + 13 ≤ fuel) :
    Matching w.line.length
      (tcpRecvTimeout (scriptLink P) fuel w len timeout)
      (tcpRecvTimeout (scriptLink P) fuel v len timeout) := by
  have hclamp : clampLen v.tcp len = clampLen w.tcp len := by
    rw [clampLen, clampLen, htwin.state.session.right.right.left]
  rw [← Nat.sub_add_cancel (show 1 ≤ fuel by omega), tcpRecvTimeout,
    tcpRecvTimeout, hclamp]
  split_ifs
  · have hopen : Matching w.line.length
        (tcpSend (scriptLink P) (fuel - 1) w 0 none (clampLen w.tcp len))
        (tcpSend (scriptLink P) (fuel - 1) v 0 none (clampLen w.tcp len)) :=
      tcpSend_matching none _ htwin hlive (by omega)
    generalize tcpSend (scriptLink P) (fuel - 1) w 0 none
      (clampLen w.tcp len) = r at hopen ⊢
    generalize tcpSend (scriptLink P) (fuel - 1) v 0 none
      (clampLen w.tcp len) = r' at hopen ⊢
    cases hopen with
    | @intro rc w2 v2 htwin2 hlive2 hlength _ =>
        exact (tcpRecvAgain_matching timeout rfl htwin2 hlive2
          (by omega)).mono hlength
  · exact tcpRecvAgain_matching timeout rfl htwin hlive (by omega)

theorem Call.run_matching (call : Call) {fuel : Nat} {w v : World Script}
    (htwin : Twin w v) (hlive : Live w) (hfuel : w.line.length + 13 ≤ fuel) :
    Matching w.line.length (call.run (scriptLink P) fuel w)
      (call.run (scriptLink P) fuel v) := by
  cases call with
  | fill bytes =>
      exact .nonpos (Int.le_refl 0) (.of_state (w := w)
        ⟨htwin.state.session, htwin.state.seq_eq, htwin.state.ack_eq,
          htwin.state.ths_eq⟩ ⟨rfl, rfl, rfl, rfl, rfl⟩ htwin.line_eq) hlive
        (Nat.le_refl _)
  | send r => exact tcpSend_matching r.data r.window htwin hlive (by omega)
  | recv len timeout =>
      exact tcpRecvTimeout_matching len timeout htwin hlive hfuel

/-!
## Runs in both worlds
-/

theorem answersOf_cons {fuel : Nat} {call : Call} (more : List Call)
    {w w' : World Script} {rc : Int}
    (h : call.run (scriptLink P) fuel w = (some rc, w')) :
    answersOf P fuel (call :: more) w =
      (answersOf P fuel more w').map
        (fun r => ((rc, tcpRxBuffer w'.tcp rc.toNat) :: r.1, r.2)) := by
  rw [answersOf, h]
  simp only
  cases answersOf P fuel more w' with
  | none => rfl
  | some r => rfl

theorem answersOf_twin {fuel : Nat} (calls : List Call) :
    forall {w v : World Script}, Twin w v -> Live w ->
      w.line.length + 13 ≤ fuel ->
        exists (answers : List (Int × List UInt8)) (w' v' : World Script),
          answersOf P fuel calls w = some (answers, w') ∧
            answersOf P fuel calls v = some (answers, v') ∧ Twin w' v' := by
  induction calls with
  | nil =>
      intro w v htwin _ _
      exact ⟨[], w, v, rfl, rfl, htwin⟩
  | cons call more ih =>
      intro w v htwin hlive hfuel
      have hcall := Call.run_matching (P := P) call htwin hlive hfuel
      generalize hrun : call.run (scriptLink P) fuel w = r at hcall
      generalize hrun' : call.run (scriptLink P) fuel v = r' at hcall
      cases hcall with
      | @intro rc w2 v2 htwin2 hlive2 hlength hbytes =>
          rcases ih htwin2 hlive2 (by omega) with
            ⟨answers, w', v', hrest, hrest', hend⟩
          refine ⟨(rc, tcpRxBuffer w2.tcp rc.toNat) :: answers, w', v', ?_, ?_,
            hend⟩
          · rw [answersOf_cons more hrun, hrest]
            rfl
          · rw [answersOf_cons more hrun', hrest', hbytes]
            rfl

/-- On a connection that has been started, a packet that the checks turn away
ends the call with -EAGAIN and changes nothing, and every run of calls gives the
same answers and the same state as with timeouts in the place of these
packets. -/
theorem unchecked_as_timeout (P : Platform) (fuel : Nat) {w : World Script}
    (hstate : w.tcp.seq = 1 ∨ 2 ≤ w.tcp.seq) :
    (forall (packet : List UInt8) (line : Script) (timeout : Int16),
      ¬ Checked w.tcp (packet.take w.tcp.ip.pktSize.toNat) ->
        exists w' : World Script,
          tcpRecvTimeout (scriptLink P) (fuel + 2)
              { w with line := some packet :: line } 0 timeout =
            (some (-(P.eagain : Int)), w') ∧
          w'.tcp.seq = w.tcp.seq ∧ w'.tcp.ack = w.tcp.ack ∧
            w'.sent = w.sent) ∧
      forall calls : List Call,
        exists (answers : List (Int × List UInt8)) (w' v' : World Script),
          answersOf P (fuel + w.line.length + 13) calls w =
              some (answers, w') ∧
            answersOf P (fuel + w.line.length + 13) calls
                { w with line := silenced w.tcp w.line } =
              some (answers, v') ∧
            SameState w'.tcp v'.tcp := by
  have hlive : Live w := hstate.imp_right one_lt_of_two_le
  have htwin : Twin w { w with line := silenced w.tcp w.line } :=
    ⟨⟨SameSession.refl _, rfl, rfl, rfl⟩, rfl⟩
  constructor
  · intro packet line timeout hbad
    have hrecv : Delivers (scriptLink P) timeout
        { w with line := some packet :: line }
        (packet.take w.tcp.ip.pktSize.toNat) line :=
      delivers_take timeout rfl
    rw [tcpRecvTimeout, clampLen_zero, if_neg (fun hne => hne rfl),
      tcpRecvAgain_packet fuel hrecv
        (tcpInput_unchecked (P := P) line hrecv.left hbad)]
    exact ⟨_, rfl, rfl, rfl, rfl⟩
  · intro calls
    rcases answersOf_twin (P := P) calls htwin hlive
      (show w.line.length + 13 ≤ fuel + w.line.length + 13 by omega) with
      ⟨answers, w', v', hrun, hrun', hend⟩
    exact ⟨answers, w', v', hrun, hrun', hend.state⟩

/-- A segment that the host 10.0.0.1 has sent with the ports of the loopback
connection. -/
def fromElsewhere (flags : UInt8) (data : List UInt8) : List UInt8 :=
  ((peerSegment 7 2 data).set 12 10).set 33 flags

theorem unchecked_as_timeout_other_port :
    (forall (packet : List UInt8) (line : Script) (timeout : Int16),
      ¬ Checked (TcpContext.loopback 2 7) (packet.take 64) ->
        exists w' : World Script,
          tcpRecvTimeout (scriptLink Platform.spectrum) (0 + 2)
              { tcp := TcpContext.loopback 2 7
                line := some packet :: line
                sent := [] } 0 timeout =
            (some (-11), w') ∧
          w'.tcp.seq = 2 ∧ w'.tcp.ack = 7 ∧ w'.sent = []) ∧
      forall calls : List Call,
        exists (answers : List (Int × List UInt8)) (w' v' : World Script),
          answersOf Platform.spectrum (0 + 2 + 13) calls
              { tcp := TcpContext.loopback 2 7
                line := [some ((peerSegment 7 2 [0x41]).set 21 0x51),
                  some (peerSegment 7 2 [0x42])]
                sent := [] } = some (answers, w') ∧
            answersOf Platform.spectrum (0 + 2 + 13) calls
                { tcp := TcpContext.loopback 2 7
                  line := silenced (TcpContext.loopback 2 7)
                    [some ((peerSegment 7 2 [0x41]).set 21 0x51),
                      some (peerSegment 7 2 [0x42])]
                  sent := [] } = some (answers, v') ∧
            SameState w'.tcp v'.tcp :=
  unchecked_as_timeout Platform.spectrum 0
    (w := { tcp := TcpContext.loopback 2 7
            line := [some ((peerSegment 7 2 [0x41]).set 21 0x51),
              some (peerSegment 7 2 [0x42])]
            sent := [] }) (.inr (by decide))

/-- Data of another host is handed out, and its RST ends the connection. -/
theorem not_ignored_fromElsewhere :
    (¬ SessionSegment (TcpContext.loopback 2 7) (fromElsewhere 0x18 [0x41]) ∧
      (tcpRecvTimeout (scriptLink Platform.spectrum) 5
          { tcp := TcpContext.loopback 2 7
            line := [some (fromElsewhere 0x18 [0x41])]
            sent := [] } 0 5).1 = some 1) ∧
      ¬ SessionSegment (TcpContext.loopback 2 7) (fromElsewhere TCP_RST []) ∧
        (tcpRecvTimeout (scriptLink Platform.spectrum) 5
          { tcp := TcpContext.loopback 2 7
            line := [some (fromElsewhere TCP_RST [])]
            sent := [] } 0 5).1 = some (-(ERESET : Int)) := by
  have hdata : field (fromElsewhere 0x18 [0x41]) 12 4 = [10, 0, 0, 1] := by
    decide +kernel
  have hrst : field (fromElsewhere TCP_RST []) 12 4 = [10, 0, 0, 1] := by
    decide +kernel
  refine ⟨⟨?_, by decide +kernel⟩, ?_, by decide +kernel⟩
  · intro h
    exact absurd (hdata.symm.trans h.source) (by decide)
  · intro h
    exact absurd (hrst.symm.trans h.source) (by decide)

end Tcp
end Z80Tcpip
