import Z80Tcpip.Slip.LossyLine
import Z80Tcpip.Tcp.ScriptRuns

/-!
# Segments that lost bytes on the serial line

`tcp_recv_timeout` looks at neither of the checksums and not at the total
length of the IP header.  A segment that has lost bytes is handed out whenever
what is left of it gets past the checks, so the data is right exactly when what
then stands behind the headers is a prefix of what the peer sent.
-/

namespace Z80Tcpip
namespace Tcp

open Foundation
open Ip
open Slip

variable {P : Platform}

/-!
## What the peer sends and what survives
-/

/-- A correct data segment of the session at the next number expected. -/
structure PeerSegment (tcp : TcpContext) (data bs : List UInt8) : Prop where
  version : bs.getD 0 0 = 0x45
  total_length : readBE (field bs 2 2) = bs.length
  protocol : bs.getD 9 0 = IP_TCP
  source : field bs 12 4 = leBytes 4 tcp.ip.daddr.toNat
  destination : field bs 16 4 = leBytes 4 tcp.ip.saddr.toNat
  ip_sum : internetSum (field bs 0 20) = 0xFFFF
  ports : field bs 20 4 = peerPorts tcp
  seq_eq : packetSeq bs = tcp.ack
  data_offset : bs.getD 32 0 >>> 4 = 5
  length_eq : bs.length = 40 + data.length
  payload_eq : bs.drop 40 = data
  tcp_sum : internetSum
    (field bs 12 8 ++ [0, 6] ++ beBytes 2 (20 + data.length) ++
      field bs 20 (20 + data.length)) = 0xFFFF

theorem peerSegment_correct (seq ack : UInt32) {data : List UInt8}
    (hdata : data.length ≤ 24) :
    PeerSegment (TcpContext.loopback seq ack) data
      (peerSegment ack seq data) := by
  have hvalid := peerSegment_valid ack seq hdata
  constructor
  case version => exact getD_of_field hvalid.version
  case total_length =>
    exact hvalid.total_length.trans (peerSegment_length ack seq hdata).symm
  case protocol => exact getD_of_field hvalid.protocol
  case source => exact hvalid.source
  case destination => exact hvalid.destination
  case ip_sum => exact hvalid.ip_sum
  case ports => exact (peerSegment_passes ack seq hdata seq ack).ports
  case seq_eq => exact peerSegment_seq ack seq hdata
  case data_offset =>
    rw [getD_of_field hvalid.data_offset]
    rfl
  case length_eq => exact peerSegment_length ack seq hdata
  case payload_eq => exact peerSegment_drop ack seq hdata
  case tcp_sum => exact hvalid.tcp_sum

/-- What is left of the bytes between the END marks of such a segment. -/
def Survivors (P : Platform) (tcp : TcpContext) (data survivors : List UInt8) :
    Prop :=
  exists segment body : List UInt8,
    PeerSegment tcp data segment ∧
      slipEncode P.slipEsc00 segment = END :: (body ++ [END]) ∧
      survivors.Sublist body

theorem Survivors.end_not_mem {tcp : TcpContext} {data survivors : List UInt8}
    (h : Survivors P tcp data survivors) : END ∉ survivors := by
  rcases h with ⟨segment, body, _, hframe, hsub⟩
  have hbody : body = (slipStuffing P.slipEsc00).stuff segment := by
    rw [slipEncode_eq_frame] at hframe
    exact (List.append_cancel_right (List.cons.inj hframe).right).symm
  intro hmem
  apply (slipStuffing P.slipEsc00).stop_not_mem_stuff segment
  rw [← hbody]
  exact hsub.subset hmem

/-- The packet that `recv_packet` makes of them. -/
def survivingPacket (P : Platform) (tcp : TcpContext)
    (survivors : List UInt8) : List UInt8 :=
  (unescape P.slipEsc00 false survivors).take tcp.ip.pktSize.toNat

theorem survivingPacket_length_le (P : Platform) (tcp : TcpContext)
    (survivors : List UInt8) :
    (survivingPacket P tcp survivors).length ≤ tcp.ip.pktSize.toNat := by
  rw [survivingPacket, List.length_take]
  omega

/-!
## The property and the condition
-/

/-- However long the line is silent behind the frame, whatever a call returns
is the beginning of the data, and `tcp->ack` has moved by exactly that much. -/
def NeverWrong (P : Platform) (tcp : TcpContext) (len : UInt16)
    (timeout : Int16) (data survivors : List UInt8) : Prop :=
  forall (fuel idle : Nat) (rc : Int) (w' : World Line),
    tcpRecvTimeout (serialLink P) fuel
        { tcp := tcp, line := lossyLine survivors idle, sent := [] }
        len timeout = (some rc, w') ->
      0 < rc ->
        tcpRxBuffer w'.tcp rc.toNat = data.take rc.toNat ∧
          w'.tcp.ack = tcp.ack + UInt32.ofNat rc.toNat

/-- The packet gets past the checks, has data and does not lie before
`tcp->ack`. -/
def TakenAsData (tcp : TcpContext) (bs : List UInt8) : Prop :=
  Passes tcp bs ∧ CarriesData bs ∧ ¬ packetSeq bs < tcp.ack

/-- The connection that the packet is acknowledged from. -/
def acknowledging (tcp : TcpContext) (bs : List UInt8) : TcpContext :=
  { tcp with
    seq := if tcp.seq < packetAck bs then packetAck bs else tcp.seq
    ack :=
      if 40 < bs.length then
        packetSeq bs + UInt32.ofNat (bs.length - 20 - packetHeaderSize bs)
      else packetSeq bs }

/-- What stands behind the headers after the acknowledgement.  A TCP header
size below 20 is not refused; the data then begins inside the acknowledgement,
which has been built over the front of the packet. -/
def handedOut (tcp : TcpContext) (bs : List UInt8) : List UInt8 :=
  if 20 ≤ packetHeaderSize bs then packetPayload bs
  else
    (tcpSegment (acknowledging tcp bs) (none : Option (Buffer 0)) 0).drop
      (packetHeaderSize bs) ++ bs.drop 40

/-- The packet is not taken for data, or it begins with the next number and
what stands behind its headers begins the peer's data.  A bare 40 bytes with a
short header size move `tcp->ack` to their own number. -/
def Harmless (tcp : TcpContext) (data bs : List UInt8) : Prop :=
  TakenAsData tcp bs ->
    handedOut tcp bs <+: data ∧
      packetSeq bs =
        if 40 < bs.length then tcp.ack
        else tcp.ack + UInt32.ofNat (20 - packetHeaderSize bs)

/-!
## What is handed out
-/

theorem tcpSegment_bare_congr {tcp tcp' : TcpContext}
    (hsession : SameSession tcp tcp') (hseq : tcp'.seq = tcp.seq)
    (hack : tcp'.ack = tcp.ack) (window : UInt16) :
    tcpSegment tcp' (none : Option (Buffer 0)) window =
      tcpSegment tcp (none : Option (Buffer 0)) window := by
  rcases hsession with ⟨hsaddr, hdaddr, _, hdst, hsrc⟩
  have hpayload : forall t : TcpContext,
      payload t (none : Option (Buffer 0)) = [] := by
    intro t
    rw [payload, Buffer.slice, List.take_zero]
  simp only [tcpSegment, tcpHeaderFront, tcpFlags, pseudoHeader, hpayload,
    hsaddr, hdaddr, hdst, hsrc, hseq, hack]

theorem handedOut_congr {tcp tcp' : TcpContext} (hsession : SameSession tcp tcp')
    (hseq : tcp'.seq = tcp.seq) (bs : List UInt8) :
    handedOut tcp' bs = handedOut tcp bs := by
  have hsession' : SameSession (acknowledging tcp bs)
      (acknowledging tcp' bs) :=
    hsession
  have hseq' : (acknowledging tcp' bs).seq = (acknowledging tcp bs).seq := by
    rw [acknowledging, acknowledging, hseq]
  rw [handedOut, handedOut, tcpSegment_bare_congr hsession' hseq' rfl]

section Accepted

variable {σ : Type} {w : World σ} {bs : List UInt8} (line : σ)
  (hfit : bs.length ≤ w.tcp.ip.pktSize.toNat) (hlong : 40 ≤ bs.length)

include hfit hlong

theorem accepted_seq :
    (w.accepted bs line).tcp.seq = (acknowledging w.tcp bs).seq := by
  have hack : headerAck (readHeaderSize (w.arrive bs line).tcp) =
      packetAck bs := by
    rw [headerAck_readHeaderSize, headerAck_arrive line hfit hlong]
  rw [World.accepted, acceptData_seq, World.opened, advanceSeq_seq, hack,
    readHeaderSize_seq]
  rfl

theorem accepted_ack :
    (w.accepted bs line).tcp.ack = (acknowledging w.tcp bs).ack :=
  acceptData_opened_ack line hfit hlong

/-- The TCP header that the acknowledgement leaves in the buffer. -/
theorem accept_segment :
    (w.accept bs line).tcp.ip.pkt.slice 20 20 =
      tcpSegment (acknowledging w.tcp bs) (none : Option (Buffer 0)) 0 := by
  have hsize : 40 + 0 ≤ (w.accepted bs line).tcp.ip.pktSize.toNat := by
    show 40 + 0 ≤ w.tcp.ip.pktSize.toNat
    omega
  have hsession : SameSession (acknowledging w.tcp bs)
      (w.accepted bs line).tcp :=
    accept_sameSession w bs line
  have hsegment := tcpTransmit_segment (w.accepted bs line).tcp
    (none : Option (Buffer 0)) 0 hsize
  rw [tcpSegment_bare_congr hsession (accepted_seq line hfit hlong)
    (accepted_ack line hfit hlong)] at hsegment
  exact hsegment

theorem accept_handedOut :
    tcpRxBuffer (w.accept bs line).tcp
        (bs.length - (20 + packetHeaderSize bs)) = handedOut w.tcp bs := by
  by_cases hheader : 20 ≤ packetHeaderSize bs
  · rw [handedOut, if_pos hheader, accept_rxBuffer line hfit hlong hheader]
  · have hsize : 40 + 0 ≤ (w.accepted bs line).tcp.ip.pktSize.toNat := by
      show 40 + 0 ≤ w.tcp.ip.pktSize.toNat
      omega
    have hback : (w.accept bs line).tcp.ip.pkt.slice 40 (bs.length - 40) =
        bs.drop 40 := by
      have hafter : (w.accept bs line).tcp.ip.pkt.slice 40 (bs.length - 40) =
          (w.arrive bs line).tcp.ip.pkt.slice 40 (bs.length - 40) :=
        tcpTransmit_after (w.accepted bs line).tcp none 0 hsize (by omega)
      rw [hafter, slice_arrive line hfit (by omega), field]
      exact List.take_of_length_le (by rw [List.length_drop])
    have hfront := accept_segment line hfit hlong
    have hcount : bs.length - (20 + packetHeaderSize bs) =
        (20 - packetHeaderSize bs) + (bs.length - 40) := by
      omega
    have hstart : 20 + packetHeaderSize bs + (20 - packetHeaderSize bs) =
        40 := by
      omega
    have hskip : (w.accept bs line).tcp.ip.pkt.slice
        (20 + packetHeaderSize bs) (20 - packetHeaderSize bs) =
          ((w.accept bs line).tcp.ip.pkt.slice 20 20).drop
            (packetHeaderSize bs) := by
      rw [Buffer.slice, Buffer.slice, List.drop_take, List.drop_drop]
    rw [handedOut, if_neg hheader, tcpRxBuffer, accept_ths line hfit hlong,
      hcount, Buffer.slice_add, hstart, hback, hskip, hfront]

include line in
theorem handedOut_length (hdata : CarriesData bs) :
    (handedOut w.tcp bs).length = bs.length - (20 + packetHeaderSize bs) := by
  unfold CarriesData at hdata
  rw [← accept_handedOut line hfit hlong, tcpRxBuffer,
    accept_ths line hfit hlong]
  apply Buffer.slice_length
  show 20 + packetHeaderSize bs + _ ≤ w.tcp.ip.pktSize.toNat
  omega

end Accepted

/-- The acknowledged number is right exactly if the packet's own number is. -/
theorem acknowledging_ack_iff {tcp : TcpContext} {bs : List UInt8}
    (hlong : 40 ≤ bs.length) :
    (acknowledging tcp bs).ack =
        tcp.ack + UInt32.ofNat (bs.length - (20 + packetHeaderSize bs)) <->
      packetSeq bs =
        if 40 < bs.length then tcp.ack
        else tcp.ack + UInt32.ofNat (20 - packetHeaderSize bs) := by
  rw [acknowledging, Nat.sub_sub]
  by_cases hmore : 40 < bs.length
  · rw [if_pos hmore, if_pos hmore]
    exact UInt32.add_left_inj _
  · have hbare : bs.length - (20 + packetHeaderSize bs) =
        20 - packetHeaderSize bs := by
      omega
    rw [if_neg hmore, if_neg hmore, hbare]

theorem accept_right_iff {σ : Type} {w : World σ} {bs : List UInt8}
    (line : σ) (hfit : bs.length ≤ w.tcp.ip.pktSize.toNat)
    (hlong : 40 ≤ bs.length) (hdata : CarriesData bs) (data : List UInt8) :
    (tcpRxBuffer (w.accept bs line).tcp
          (bs.length - (20 + packetHeaderSize bs)) =
        data.take (bs.length - (20 + packetHeaderSize bs)) ∧
      (w.accept bs line).tcp.ack = w.tcp.ack +
        UInt32.ofNat (bs.length - (20 + packetHeaderSize bs))) <->
      handedOut w.tcp bs <+: data ∧
        packetSeq bs =
          if 40 < bs.length then w.tcp.ack
          else w.tcp.ack + UInt32.ofNat (20 - packetHeaderSize bs) := by
  rw [accept_handedOut line hfit hlong, World.accept, World.transmit_ack,
    accepted_ack line hfit hlong, acknowledging_ack_iff hlong,
    List.prefix_iff_eq_take, handedOut_length line hfit hlong hdata]

/-!
## Calls on the damaged frame
-/

theorem recvPacket_of_delivers {timeout : Int16} {w : World Line}
    {bs : List UInt8} {line : Line}
    (h : Delivers (serialLink P) timeout w bs line) :
    recvPacket P w.tcp.ip.pkt timeout w.line =
      some ((bs.length : Int), w.tcp.ip.pkt.write 0 bs, line) :=
  h.right

theorem not_delivers_no_reads {w : World Line} {bs : List UInt8}
    {line : Line} : ¬ Delivers (serialLink P) 1 w bs line := by
  intro h
  have hcall := recvPacket_of_delivers h
  rw [recvPacket_no_reads] at hcall
  have heagain := P.eagain_pos
  have hlength := (Prod.mk.inj (Option.some.inj hcall)).left
  omega

theorem not_delivers_idle {timeout : Int16} {w : World Line} {idle : Nat}
    (hline : w.line = List.replicate idle none) {bs : List UInt8}
    {line : Line} : ¬ Delivers (serialLink P) timeout w bs line := by
  intro h
  have hcall := recvPacket_of_delivers h
  rw [hline] at hcall
  have heagain := P.eagain_pos
  have hlength := recvPacket_idle hcall
  omega

theorem sub_one_ne_zero {timeout : Int16} (h : timeout ≠ 1) :
    timeout - 1 ≠ 0 := by
  intro hzero
  apply h
  rw [← Int16.sub_add_cancel timeout 1, hzero]
  rfl

theorem delivers_lossyLine {timeout : Int16} {w : World Line}
    {survivors bs : List UInt8} {idle : Nat} {line : Line}
    (hend : END ∉ survivors) (hline : w.line = lossyLine survivors idle)
    (hlong : 40 ≤ bs.length)
    (h : Delivers (serialLink P) timeout w bs line) :
    bs = survivingPacket P w.tcp survivors ∧
      exists j : Nat, line = List.replicate j none := by
  have htimeout : timeout ≠ 1 := by
    intro hone
    rw [hone] at h
    exact not_delivers_no_reads h
  have hfit := h.left
  have hcall := recvPacket_of_delivers h
  rw [hline] at hcall
  rcases recvPacket_lossyLine (by omega) (sub_one_ne_zero htimeout) hend hcall
    with ⟨hlength, hpkt, hrest⟩
  exact ⟨Buffer.write_front_inj (Int.ofNat_inj.mp hlength)
    (survivingPacket_length_le P w.tcp survivors) hpkt, hrest⟩

/-- A call that is handed no packet times out. -/
theorem Received.eagain {timeout : Int16} {w w' : World Line} {rc : Int}
    (h : Received (serialLink P) timeout w rc w')
    (hnone : forall (bs : List UInt8) (line : Line),
      ¬ Delivers (serialLink P) timeout w bs line) :
    rc = -(P.eagain : Int) := by
  cases h with
  | idle => rfl
  | refused hrecv => exact absurd hrecv (hnone _ _)
  | probe hrecv => exact absurd hrecv (hnone _ _)
  | bare hrecv => exact absurd hrecv (hnone _ _)
  | old hrecv => exact absurd hrecv (hnone _ _)
  | fresh hrecv => exact absurd hrecv (hnone _ _)

/-- Whatever a call returns has come out of the damaged frame. -/
theorem Received.of_lossyLine {timeout : Int16} {w w' : World Line} {rc : Int}
    {survivors : List UInt8} {idle : Nat} (hend : END ∉ survivors)
    (hline : w.line = lossyLine survivors idle) (hpos : 0 < rc)
    (h : Received (serialLink P) timeout w rc w') :
    exists (bs : List UInt8) (line : Line),
      bs = survivingPacket P w.tcp survivors ∧
        bs.length ≤ w.tcp.ip.pktSize.toNat ∧ TakenAsData w.tcp bs ∧
        rc.toNat = bs.length - (20 + packetHeaderSize bs) ∧
        w' = w.accept bs line := by
  have heagain := P.eagain_pos
  cases h with
  | idle => omega
  | refused _ _ hrc =>
      have hreset : ERESET = 20 := rfl
      omega
  | probe hrecv hpass _ hmore =>
      rcases delivers_lossyLine hend hline hpass.long hrecv with
        ⟨_, j, hrest⟩
      have hidle := hmore.eagain (fun _ _ => not_delivers_idle hrest)
      omega
  | bare _ _ _ hdata =>
      unfold CarriesData at hdata
      omega
  | old => omega
  | @fresh w bs line hrecv hpass _ hdata hseq =>
      rcases delivers_lossyLine hend hline hpass.long hrecv with ⟨hbs, _⟩
      exact ⟨bs, line, hbs, hrecv.left, ⟨hpass, hdata, hseq⟩, by omega, rfl⟩

theorem TakenAsData.congr {tcp tcp' : TcpContext} {bs : List UInt8}
    (hsession : SameSession tcp tcp') (hack : tcp'.ack = tcp.ack) :
    TakenAsData tcp' bs <-> TakenAsData tcp bs := by
  rw [TakenAsData, TakenAsData, Passes.sameSession hsession, hack]

theorem survivingPacket_congr {tcp tcp' : TcpContext}
    (hsession : SameSession tcp tcp') (survivors : List UInt8) :
    survivingPacket P tcp' survivors = survivingPacket P tcp survivors := by
  have hsize : tcp'.ip.pktSize = tcp.ip.pktSize := hsession.right.right.left
  rw [survivingPacket, survivingPacket, hsize]

theorem neverWrong_of_harmless {tcp : TcpContext} {len : UInt16}
    {timeout : Int16} {data survivors : List UInt8} (hconn : 1 < tcp.seq)
    (hend : END ∉ survivors)
    (h : Harmless tcp data (survivingPacket P tcp survivors)) :
    NeverWrong P tcp len timeout data survivors := by
  intro fuel idle rc w' hcall hpos
  have hreceived := received_of_openWindow hconn hcall
  rcases openWindow_same
      { tcp := tcp, line := lossyLine survivors idle, sent := [] } len with
    ⟨hsession, hseq, hack, hline⟩
  rcases hreceived.of_lossyLine hend hline hpos with
    ⟨bs, line, hbs, hfit, htaken, hcount, hworld⟩
  have hright := accept_right_iff line hfit htaken.left.long
    htaken.right.left data
  rw [survivingPacket_congr hsession] at hbs
  rw [TakenAsData.congr hsession hack] at htaken
  rw [handedOut_congr hsession hseq, hack] at hright
  rw [hcount, hworld]
  apply hright.mpr
  rw [hbs] at htaken ⊢
  exact h htaken

/-- With the line silent for one read, a packet taken for data is returned. -/
theorem tcpRecvAgain_lossyLine {timeout : Int16} {w : World Line}
    {survivors : List UInt8} (hconn : 1 < w.tcp.seq)
    (hend : END ∉ survivors) (htimeout : timeout - 1 ≠ 0)
    (hline : w.line = lossyLine survivors 1)
    (htaken : TakenAsData w.tcp (survivingPacket P w.tcp survivors)) :
    exists line : Line,
      tcpRecvAgain (serialLink P) 3 w timeout =
        (some (((survivingPacket P w.tcp survivors).length : Int) - 20 -
            packetHeaderSize (survivingPacket P w.tcp survivors)),
          w.accept (survivingPacket P w.tcp survivors) line) := by
  rcases htaken with ⟨hpass, hdata, hseq⟩
  have hlong := hpass.long
  have hfit := survivingPacket_length_le P w.tcp survivors
  have hframe : unescape P.slipEsc00 false survivors ≠ [] := by
    intro hnil
    rw [survivingPacket, hnil, List.take_nil, List.length_nil] at hlong
    omega
  rcases recvPacket_lossyLine_returns P (by omega) w.tcp.ip.pkt htimeout hend
    hframe with ⟨line, hcall⟩
  rw [← hline] at hcall
  exact ⟨line, tcpRecvAgain_fresh timeout 0 hconn ⟨hfit, hcall⟩ hpass hdata
    hseq⟩

theorem harmless_of_neverWrong {tcp : TcpContext} {len : UInt16}
    {timeout : Int16} {data survivors : List UInt8} (hconn : 1 < tcp.seq)
    (hend : END ∉ survivors) (htimeout : timeout ≠ 1)
    (h : NeverWrong P tcp len timeout data survivors) :
    Harmless tcp data (survivingPacket P tcp survivors) := by
  intro htaken
  let start : World Line :=
    { tcp := tcp, line := lossyLine survivors 1, sent := [] }
  rcases openWindow_same start len with ⟨hsession, hseq, hack, hline⟩
  have hconn' : 1 < (start.openWindow len).tcp.seq := by
    rw [hseq]
    exact hconn
  have hsurvive :
      survivingPacket P (start.openWindow len).tcp survivors =
        survivingPacket P tcp survivors :=
    survivingPacket_congr hsession survivors
  have htaken' : TakenAsData (start.openWindow len).tcp
      (survivingPacket P tcp survivors) :=
    (TakenAsData.congr hsession hack).mpr htaken
  rw [← hsurvive] at htaken'
  rcases tcpRecvAgain_lossyLine hconn' hend
    (sub_one_ne_zero htimeout) hline htaken' with
    ⟨line, hcall⟩
  rw [hsurvive] at hcall htaken'
  rw [← tcpRecvTimeout_openWindow (serialLink P) 1 len timeout hconn] at hcall
  have hlong := htaken.left.long
  have hdata := htaken.right.left
  unfold CarriesData at hdata
  have hfit : (survivingPacket P tcp survivors).length ≤
      (start.openWindow len).tcp.ip.pktSize.toNat := by
    rw [← hsurvive]
    exact survivingPacket_length_le P _ survivors
  have hright := h 4 1 _ _ hcall (by omega)
  have hcount :
      (((survivingPacket P tcp survivors).length : Int) - 20 -
          packetHeaderSize (survivingPacket P tcp survivors)).toNat =
        (survivingPacket P tcp survivors).length -
          (20 + packetHeaderSize (survivingPacket P tcp survivors)) := by
    omega
  have hiff := accept_right_iff line hfit hlong htaken.right.left data
  rw [handedOut_congr hsession hseq, hack] at hiff
  rw [hcount] at hright
  exact hiff.mp hright

/-- Whatever bytes are lost between the END marks, nothing wrong is handed out
if and only if the packet made of the others is harmless.  A timeout of 1 reads
nothing at all. -/
theorem neverWrong_iff (P : Platform) {tcp : TcpContext} (len : UInt16)
    (timeout : Int16) {data survivors : List UInt8} (hconn : 1 < tcp.seq)
    (hsurvive : Survivors P tcp data survivors) :
    NeverWrong P tcp len timeout data survivors <->
      timeout = 1 ∨ Harmless tcp data (survivingPacket P tcp survivors) := by
  have hend := hsurvive.end_not_mem
  constructor
  · intro hnever
    by_cases htimeout : timeout = 1
    · exact Or.inl htimeout
    · exact Or.inr (harmless_of_neverWrong hconn hend htimeout hnever)
  · intro h
    rcases h with htimeout | hharmless
    · intro fuel idle rc w' hcall hpos
      rw [htimeout] at hcall
      have hsilent := (received_of_openWindow hconn hcall).eagain
        (fun _ _ => not_delivers_no_reads)
      have heagain := P.eagain_pos
      omega
    · exact neverWrong_of_harmless hconn hend hharmless

/-- The segment with the data `AB` whose last byte is lost. -/
theorem neverWrong_iff_last_byte_lost :
    NeverWrong Platform.spectrum (TcpContext.loopback 2 7) 16 5 [0x41, 0x42]
        (sendBytes true (peerSegment 7 2 [0x41, 0x42])).dropLast <->
      (5 : Int16) = 1 ∨
        Harmless (TcpContext.loopback 2 7) [0x41, 0x42]
          (survivingPacket Platform.spectrum (TcpContext.loopback 2 7)
            (sendBytes true (peerSegment 7 2 [0x41, 0x42])).dropLast) :=
  neverWrong_iff Platform.spectrum 16 5 (by decide)
    ⟨peerSegment 7 2 [0x41, 0x42],
      sendBytes true (peerSegment 7 2 [0x41, 0x42]),
      peerSegment_correct 2 7 (by decide),
      by decide +kernel, List.dropLast_sublist _⟩

/-- The middle one of three data bytes is lost, and the other two are handed
out. -/
theorem not_neverWrong_middle_byte_lost :
    Survivors Platform.spectrum (TcpContext.loopback 2 7) [0x41, 0x42, 0x43]
        ((sendBytes true (peerSegment 7 2 [0x41, 0x42, 0x43])).erase 0x42) ∧
      ¬ NeverWrong Platform.spectrum (TcpContext.loopback 2 7) 0 5
        [0x41, 0x42, 0x43]
        ((sendBytes true (peerSegment 7 2 [0x41, 0x42, 0x43])).erase 0x42) := by
  constructor
  · exact ⟨peerSegment 7 2 [0x41, 0x42, 0x43],
      sendBytes true (peerSegment 7 2 [0x41, 0x42, 0x43]),
      peerSegment_correct 2 7 (by decide),
      by decide +kernel, List.erase_sublist⟩
  · intro h
    have hreturned : (tcpRecvTimeout (serialLink Platform.spectrum) 4
        { tcp := TcpContext.loopback 2 7
          line := lossyLine ((sendBytes true
            (peerSegment 7 2 [0x41, 0x42, 0x43])).erase 0x42) 0
          sent := [] } 0 5).1 = some 2 := by
      decide +kernel
    have hwrong : tcpRxBuffer (tcpRecvTimeout (serialLink Platform.spectrum) 4
        { tcp := TcpContext.loopback 2 7
          line := lossyLine ((sendBytes true
            (peerSegment 7 2 [0x41, 0x42, 0x43])).erase 0x42) 0
          sent := [] } 0 5).2.tcp 2 = [0x41, 0x43] := by
      decide +kernel
    rcases hcall : tcpRecvTimeout (serialLink Platform.spectrum) 4
        { tcp := TcpContext.loopback 2 7
          line := lossyLine ((sendBytes true
            (peerSegment 7 2 [0x41, 0x42, 0x43])).erase 0x42) 0
          sent := [] } 0 5 with ⟨rc, w'⟩
    rw [hcall] at hreturned hwrong
    simp only at hreturned hwrong
    rw [hreturned] at hcall
    have hright := (h 4 0 2 w' hcall (by decide)).left
    rw [show ((2 : Int).toNat) = 2 from rfl, hwrong] at hright
    exact absurd hright (by decide)

/-- A packet cut short is harmless. -/
theorem PeerSegment.harmless_take {tcp : TcpContext}
    {data segment : List UInt8} (h : PeerSegment tcp data segment)
    (hreserved : segment.getD 32 0 = 0x50) (n : Nat) :
    Harmless tcp data (segment.take n) := by
  intro hparts
  rcases hparts with ⟨hpass, hdata, _⟩
  have hlong := hpass.long
  have hn : 40 ≤ n := by
    rw [List.length_take] at hlong
    omega
  have hsize : packetHeaderSize segment = 20 := by
    rw [packetHeaderSize, hreserved]
    rfl
  have hcut : packetHeaderSize (segment.take n) = 20 :=
    (packetHeaderSize_take segment hn).trans hsize
  unfold CarriesData at hdata
  rw [hcut] at hdata
  constructor
  · have hpayload : packetPayload segment = data := by
      rw [packetPayload, hsize]
      exact h.payload_eq
    rw [handedOut, if_pos (by omega), packetPayload_take segment hn, hpayload]
    exact List.take_prefix _ _
  · rw [if_pos (by omega), packetSeq_take segment hn, h.seq_eq]

/-- Losing the end of the frame costs data but falsifies none. -/
theorem PeerSegment.neverWrong_tail_lost {tcp : TcpContext}
    {data segment : List UInt8} (h : PeerSegment tcp data segment)
    (hreserved : segment.getD 32 0 = 0x50) (hconn : 1 < tcp.seq)
    (len : UInt16) (timeout : Int16) (n : Nat) :
    NeverWrong P tcp len timeout data
      (sendBytes P.slipEsc00 (segment.take n)) := by
  apply neverWrong_of_harmless hconn
  · rw [sendBytes_eq_stuff]
    exact (slipStuffing P.slipEsc00).stop_not_mem_stuff _
  · rw [survivingPacket, unescape_sendBytes, List.take_take]
    exact h.harmless_take hreserved _

end Tcp
end Z80Tcpip
