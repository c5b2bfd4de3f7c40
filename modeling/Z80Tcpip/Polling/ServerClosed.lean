import Z80Tcpip.Chat.Invariants
import Z80Tcpip.Irc.Invariants
import Z80Tcpip.Polling.Arrivals
import Z80Tcpip.Polling.WindowFlag

/-!
# When the server closes the connection

The stack knows nothing of a FIN.  `poll_net` looks for one in the buffer when a
call has returned 0, and ends the session without asking for the number of the
segment.  So the session ends behind the last byte of the server exactly when
the segment that carries the FIN does not lie beyond the next byte expected.
-/

namespace Z80Tcpip
namespace Polling

open Foundation
open Tcp
open Client
open Program

variable {P : Platform} {σ : Type}

/-!
## What the buffer shows
-/

/-- A call has just returned 0 and left a segment with a FIN in the buffer. -/
def SeesFin (L : Link P σ) (fuel : Nat) (w net : World σ) : Prop :=
  exists (bytes : List UInt8) (w1 : World σ), BytesReturned L w bytes w1 ∧
    tcpRecvTimeout L fuel w1 0 POLL_TICKS = (some 0, net) ∧
    headerFlags net.tcp &&& TCP_FIN ≠ 0

/-- Everything in front of the FIN has been returned, and the number of the FIN
is the next one expected. -/
def AllReturned (L : Link P σ) (w : World σ) (stream : List UInt8)
    (net : World σ) : Prop :=
  BytesReturned L w stream net ∧
    net.tcp.ack = numberAt w.tcp stream.length

theorem headerFlags_acked {w : World σ} {bs : List UInt8} (line : σ)
    (hfit : bs.length ≤ w.tcp.ip.pktSize.toNat) (hlong : 40 ≤ bs.length) :
    headerFlags (w.acked bs line).tcp = bs.getD 33 0 :=
  get_arrive line hfit (by omega)

/-- A call that returns 0 ends with the segment that is then in the buffer. -/
theorem last_arrival {tcp : TcpContext} {timeout : Int16}
    {w w' : World Script} {rc : Int}
    (h : Received (scriptLink P) timeout w rc w') (hrc : rc = 0) :
    forall {arrivals : List (Option Arrival)},
      SameSession tcp w.tcp -> w.line = script arrivals ->
      exists (front back : List (Option Arrival)) (a : Arrival),
        arrivals = front ++ some a :: back ∧ w'.line = script back ∧
          Passes tcp a.packet ∧ headerFlags w'.tcp = a.packet.getD 33 0 := by
  have heagain := P.eagain_pos
  have hstop : forall {w : World Script} {bs : List UInt8} {line : Script}
      {arrivals : List (Option Arrival)}, SameSession tcp w.tcp ->
      w.line = script arrivals -> Delivers (scriptLink P) timeout w bs line ->
      Passes w.tcp bs ->
      exists (front back : List (Option Arrival)) (a : Arrival),
        arrivals = front ++ some a :: back ∧ line = script back ∧
          Passes tcp a.packet ∧
          headerFlags (w.acked bs line).tcp = a.packet.getD 33 0 := by
    intro w bs line arrivals hsession hline hrecv hpass
    rcases delivered_arrival hsession hline hrecv with
      ⟨a, later, rfl, hlater, hbs⟩
    have hflags := headerFlags_acked line hrecv.left hpass.long
    have hlong := hpass.long
    rw [hbs] at hpass hlong
    rw [stored, List.length_take] at hlong
    refine ⟨[], later, a, rfl, hlater,
      passes_of_stored ((Passes.sameSession hsession).mp hpass), ?_⟩
    rw [hflags, hbs, stored, getD_take _ (by omega)]
  induction h with
  | idle => omega
  | refused _ _ hbad =>
      have hreset : (0 : Int) < ERESET := by
        decide
      omega
  | @probe w w' bs line rc hrecv hpass hprobe _ ih =>
      intro arrivals hsession hline
      rcases delivered_arrival hsession hline hrecv with
        ⟨a, later, rfl, hlater, _⟩
      rcases ih hrc hsession hlater with ⟨front, back, b, rfl, hrest⟩
      exact ⟨some a :: front, back, b, rfl, hrest⟩
  | bare hrecv hpass =>
      intro arrivals hsession hline
      exact hstop hsession hline hrecv hpass
  | old hrecv hpass =>
      intro arrivals hsession hline
      exact hstop hsession hline hrecv hpass
  | fresh _ _ _ hdata =>
      rw [CarriesData] at hdata
      omega

/-- The segments that were taken were in sequence, and the last one, which has
the FIN, ends within the bytes taken. -/
def ClosedInSequence (tcp : TcpContext) (arrivals : List (Option Arrival)) :
    Prop :=
  InSequence tcp 0 arrivals ∧
    exists a : Arrival, arrivals.getLast? = some (some a) ∧
      a.off + (packetPayload a.packet).length ≤ taken tcp 0 arrivals

section Closing

variable {fuel : Nat} {w net : World Script} {stream : List UInt8}
  {arrivals : List (Option Arrival)}
  (h : SeesFin (scriptLink P) fuel w net) (hconn : 1 < w.tcp.seq)
  (hline : w.line = script arrivals)
  (hpeer : forall a, some a ∈ arrivals -> Passes w.tcp a.packet ->
    FromPeer w.tcp stream a)

include h hconn hline hpeer

/-- The last segment that was consumed is the one with the FIN, and ends where
the stream ends. -/
theorem SeesFin.last_consumed :
    exists a : Arrival, (consumed arrivals net).getLast? = some (some a) ∧
      a.off + (packetPayload a.packet).length = stream.length := by
  rcases h with ⟨bytes, w1, hbytes, hcall, hfin⟩
  rcases hbytes.established hconn with ⟨hconn', hsession⟩
  rcases hbytes.accounted hconn hline hpeer with ⟨later, harrivals, hlater, _⟩
  rcases last_arrival (received_of_tcpRecvTimeout hconn' hcall) rfl hsession
    hlater with ⟨front, back, a, rfl, hback, hpass, hflags⟩
  have hsplit : arrivals =
      (consumed arrivals w1 ++ front ++ [some a]) ++ back := by
    rw [List.append_assoc, List.append_assoc]
    exact harrivals
  have hconsumed : consumed arrivals net =
      consumed arrivals w1 ++ front ++ [some a] := by
    rw [hsplit, consumed_append hback, ← hsplit]
  rw [hflags] at hfin
  have hsegment : FromPeer w.tcp stream a := by
    apply hpeer a ?_ hpass
    rw [hsplit]
    exact List.mem_append_left _
      (List.mem_append_right _ (List.mem_singleton_self _))
  refine ⟨a, ?_, hsegment.fin_last hfin⟩
  rw [hconsumed, List.getLast?_concat]

theorem SeesFin.allReturned (hclosed : ClosedInSequence w.tcp
    (consumed arrivals net)) : AllReturned (scriptLink P) w stream net := by
  rcases h.last_consumed hconn hline hpeer with ⟨a, hlast, hend⟩
  rcases hclosed with ⟨hsequence, b, hlast', hreach⟩
  rw [hlast, Option.some.injEq, Option.some.injEq] at hlast'
  subst hlast'
  rcases h with ⟨bytes, w1, hbytes, hcall, _⟩
  have hreturned := BytesReturned.call hbytes hcall
  rcases hreturned.accounted hconn hline hpeer with ⟨_, _, _, haccounted⟩
  have hupTo := haccounted.upTo hsequence
  have hexact : taken w.tcp 0 (consumed arrivals net) = stream.length :=
    Nat.le_antisymm hupTo.within (hend ▸ hreach)
  have hbytesEq := hupTo.bytes_eq
  rw [hexact, List.take_length] at hbytesEq
  rw [hbytesEq] at hreturned
  exact ⟨hreturned, by rw [hupTo.ack_eq, hexact]⟩

theorem SeesFin.closedInSequence
    (hwrap : w.tcp.ack.toNat + stream.length < 2 ^ 32)
    (hall : AllReturned (scriptLink P) w stream net) :
    ClosedInSequence w.tcp (consumed arrivals net) := by
  rcases h.last_consumed hconn hline hpeer with ⟨a, hlast, hend⟩
  rcases hall.left.accounted hconn hline hpeer with ⟨_, _, _, haccounted⟩
  rcases haccounted.reached hwrap with ⟨position, hreached⟩
  have hle := hreached.returned_le
  have hwithin := hreached.within
  rcases hreached.in_sequence (by omega) with ⟨hsequence, hcount⟩
  exact ⟨hsequence, a, hlast, by omega⟩

end Closing

/-!
## The connection in a run
-/

theorem bytesReturned_sendAgain {L : Link P σ} {len : Nat}
    {data : Option (Foundation.Buffer len)} {window : UInt16} {rc : Int}
    {w w2 : World σ} :
    forall {fuel retries : Nat} {bytes : List UInt8} {w1 : World σ},
      BytesReturned L w bytes w1 ->
      tcpSendAgain L fuel w1 len data window retries = (some rc, w2) ->
        exists bytes' : List UInt8, BytesReturned L w bytes' w2 := by
  intro fuel
  induction fuel with
  | zero =>
      intro retries bytes w1 _ h
      cases h
  | succ fuel ih =>
      intro retries bytes w1 hbytes h
      have hsent : BytesReturned L w bytes (w1.transmit len data window) :=
        BytesReturned.transmit hbytes
      rw [tcpSendAgain] at h
      by_cases hdone : 1 < (w1.transmit len data window).tcp.seq ∧ len = 0
      · rw [if_pos hdone] at h
        cases h
        exact ⟨bytes, hsent⟩
      · rw [if_neg hdone] at h
        cases fuel with
        | zero => cases h
        | succ fuel =>
            rw [tcpRecv] at h
            rcases hrecv : tcpRecvTimeout L fuel (w1.transmit len data window)
              0 P.rs232Tps with ⟨_ | rc', w3⟩
            · rw [hrecv] at h
              cases h
            · have hcalled := BytesReturned.call hsent hrecv
              rw [hrecv] at h
              simp only at h
              split_ifs at h
              · exact ih hcalled h
              · cases h
                exact ⟨_, hcalled⟩
              · cases h
                exact ⟨_, hcalled⟩
              · cases h
                exact ⟨_, hcalled⟩

/-- What the client has of the connection stems from such calls. -/
def Tracked (L : Link P σ) (w net : World σ) : Prop :=
  exists bytes : List UInt8, BytesReturned L w bytes net

theorem tracked_netInvariant (L : Link P σ) (fuel : Nat) {w : World σ}
    (hconn : 1 < w.tcp.seq) :
    NetInvariant (stackNetwork L fuel) (Tracked L w) (SeesFin L fuel w) where
  send := by
    intro bytes window net h
    rcases h with ⟨so_far, hbytes⟩
    rcases hrun : (stackNetwork L fuel).send bytes window net with
      ⟨_ | rc, net'⟩
    · trivial
    · cases bytes with
      | nil =>
          have hsend : tcpSend L fuel net 0 none window = (some rc, net') :=
            hrun
          rw [tcpSend_ack (hbytes.established hconn).left hsend]
          exact ⟨so_far, BytesReturned.transmit hbytes⟩
      | cons b rest =>
          have hsend : tcpSend L fuel net (b :: rest).length
              (some ⟨b :: rest, rfl⟩) window = (some rc, net') :=
            hrun
          cases fuel with
          | zero => cases hsend
          | succ fuel =>
              rw [tcpSend] at hsend
              exact bytesReturned_sendAgain hbytes hsend
  recv := by
    intro net h
    rcases h with ⟨so_far, hbytes⟩
    rcases hrun : (stackNetwork L fuel).recv net with ⟨_ | rc, net'⟩
    · trivial
    · have hcall : tcpRecvTimeout L fuel net 0 POLL_TICKS = (some rc, net') :=
        hrun
      refine ⟨⟨_, BytesReturned.call hbytes hcall⟩, ?_⟩
      intro heq hfin
      subst heq
      exact ⟨so_far, net, hbytes, hcall, hfin⟩

/-- Behind a successful `tcp_connect`, whenever a client reports that the server
has closed the connection, everything in front of the FIN has been returned if
the segments were taken in sequence, up to the one with the FIN; and only if,
when the numbers of the stream do not wrap around. -/
theorem server_closed_behind_all_data_iff (P : Platform) (fuel : Nat)
    (register : Nat -> UInt8) {w0 w : World Script} {rc : Int}
    (hconnect : tcpConnect (scriptLink P) fuel register w0 = (some rc, w))
    (hrc : 0 ≤ rc) {stream : List UInt8} {arrivals : List (Option Arrival)}
    (hline : w.line = script arrivals)
    (hpeer : forall a, some a ∈ arrivals -> Passes w.tcp a.packet ->
      FromPeer w.tcp stream a) :
    (forall (fuel' : Nat) (con : Console)
      (nickKeys chanKeys keys : List UInt16) (s : Irc.State)
      (net : World Script),
      Event.hungUp s net ∈ (Irc.ranMain P (stackNetwork (scriptLink P) fuel')
        w con nickKeys chanKeys keys).trace ->
      (ClosedInSequence w.tcp (consumed arrivals net) ->
        AllReturned (scriptLink P) w stream net) ∧
      (w.tcp.ack.toNat + stream.length < 2 ^ 32 ->
        AllReturned (scriptLink P) w stream net ->
        ClosedInSequence w.tcp (consumed arrivals net))) ∧
      forall (fuel' : Nat) (con : Console) (keys : List UInt16)
        (s : Chat.State) (net : World Script),
        Event.hungUp s net ∈ (Chat.ranMain P
          (stackNetwork (scriptLink P) fuel') w con keys).trace ->
        (ClosedInSequence w.tcp (consumed arrivals net) ->
          AllReturned (scriptLink P) w stream net) ∧
        (w.tcp.ack.toNat + stream.length < 2 ^ 32 ->
          AllReturned (scriptLink P) w stream net ->
          ClosedInSequence w.tcp (consumed arrivals net)) := by
  have hconn : 1 < w.tcp.seq := by
    rcases (tcpConnect_answered hconnect hrc).left with ⟨w1, hseq, rfl⟩
    exact hseq
  have hstart : Tracked (scriptLink P) w w := ⟨[], BytesReturned.start⟩
  constructor
  · intro fuel' con nickKeys chanKeys keys s net hevent
    have hsees := Irc.atHangUps_ranMain (tracked_netInvariant _ fuel' hconn) P
      hstart con nickKeys chanKeys keys s net hevent
    exact ⟨hsees.allReturned hconn hline hpeer,
      hsees.closedInSequence hconn hline hpeer⟩
  · intro fuel' con keys s net hevent
    have hsees := Chat.atHangUps_ranMain (tracked_netInvariant _ fuel' hconn) P
      hstart con keys s net hevent
    exact ⟨hsees.allReturned hconn hline hpeer,
      hsees.closedInSequence hconn hline hpeer⟩

/-- The FIN of a peer that has sent the one byte with the number 2. -/
def finSegment : List UInt8 :=
  [0x45, 0, 0, 40, 0, 0, 0, 0, 64, 6, 0x7c, 0xce, 127, 0, 0, 1, 127, 0, 0, 1,
    0, 0x50, 4, 0, 0, 0, 0, 3, 0, 0, 0, 2, 0x50, 0x11, 0, 0, 0xad, 0x7c, 0, 0]

def finArrival : Arrival where
  packet := finSegment
  off := 1

def byteArrival : Arrival where
  packet := peerSegment 2 2 [0x41]
  off := 0

theorem finArrival_fromPeer {tcp : TcpContext} (hack : tcp.ack = 2) :
    FromPeer tcp [0x41] finArrival := by
  constructor
  case header => exact ⟨5, by decide, by decide, by decide, by decide⟩
  case seq_eq =>
    rw [numberAt, hack]
    decide
  case piece =>
    have hempty : packetPayload finSegment = [] := by
      decide
    show packetPayload finSegment <+: _
    rw [hempty]
    exact List.nil_prefix
  case fin_last => decide

theorem byteArrival_fromPeer {tcp : TcpContext} (hack : tcp.ack = 2) :
    FromPeer tcp [0x41] byteArrival := by
  constructor
  case header => exact peerSegment_header 2 2 (by decide)
  case seq_eq =>
    show packetSeq (peerSegment 2 2 [0x41]) = _
    rw [peerSegment_seq 2 2 (by decide), numberAt, hack]
    decide
  case piece =>
    show packetPayload (peerSegment 2 2 [0x41]) <+: _
    rw [peerSegment_payload 2 2 (by decide)]
    decide
  case fin_last =>
    intro hfin
    exact absurd (by decide +kernel) hfin

/-- The connection behind the handshake, with these packets still to come. -/
def answeredBefore (arrivals : List (Option Arrival)) : World Script :=
  (tcpConnect (scriptLink Platform.spectrum) 12 (fun _ => 0)
    (dialling (some (peerSegment 1 2 []) :: script arrivals))).2

/-- The number expected and the packets left whenever the server hangs up. -/
def leftAtHangUps (arrivals : List (Option Arrival)) : List (UInt32 × Nat) :=
  (Chat.ranMain Platform.spectrum
    (stackNetwork (scriptLink Platform.spectrum) 12) (answeredBefore arrivals)
    Console.blank [0, 0]).trace.filterMap (fun e =>
      match e with
      | .hungUp _ net => some (net.tcp.ack, net.line.length)
      | _ => none)

theorem hungUp_of_left {arrivals : List (Option Arrival)} {ack : UInt32}
    {n : Nat} (h : leftAtHangUps arrivals = [(ack, n)]) :
    exists (s : Chat.State) (net : World Script),
      Event.hungUp s net ∈ (Chat.ranMain Platform.spectrum
          (stackNetwork (scriptLink Platform.spectrum) 12)
          (answeredBefore arrivals) Console.blank [0, 0]).trace ∧
        net.tcp.ack = ack ∧ net.line.length = n := by
  have hmem : (ack, n) ∈ leftAtHangUps arrivals := by
    rw [h]
    exact List.mem_singleton_self _
  rcases List.mem_filterMap.mp hmem with ⟨e, he, hleft⟩
  cases e with
  | hungUp s net =>
      simp only [Option.some.injEq, Prod.mk.injEq] at hleft
      exact ⟨s, net, he, hleft⟩
  | returned => cases hleft
  | payload => cases hleft

/-- The byte comes before the FIN. -/
theorem server_closed_behind_all_data_iff_in_order :
    exists (s : Chat.State) (net : World Script),
      Event.hungUp s net ∈ (Chat.ranMain Platform.spectrum
          (stackNetwork (scriptLink Platform.spectrum) 12)
          (answeredBefore [some byteArrival, some finArrival]) Console.blank
          [0, 0]).trace ∧
        AllReturned (scriptLink Platform.spectrum)
          (answeredBefore [some byteArrival, some finArrival]) [0x41] net := by
  have hack : (answeredBefore [some byteArrival, some finArrival]).tcp.ack =
      2 := by
    decide +kernel
  have hconnect : tcpConnect (scriptLink Platform.spectrum) 12 (fun _ => 0)
      (dialling (some (peerSegment 1 2 []) ::
        script [some byteArrival, some finArrival])) =
      (some 0, answeredBefore [some byteArrival, some finArrival]) :=
    Prod.ext (by decide +kernel) rfl
  have hline : (answeredBefore [some byteArrival, some finArrival]).line =
      script [some byteArrival, some finArrival] := by
    decide +kernel
  have hsequence : InSequence
      (answeredBefore [some byteArrival, some finArrival]).tcp 0
      [some byteArrival, some finArrival] := by
    decide +kernel
  have hreach : finArrival.off + (packetPayload finArrival.packet).length ≤
      taken (answeredBefore [some byteArrival, some finArrival]).tcp 0
        [some byteArrival, some finArrival] := by
    decide +kernel
  have hleft : leftAtHangUps [some byteArrival, some finArrival] = [(3, 0)] := by
    decide +kernel
  rcases hungUp_of_left hleft with ⟨s, net, hevent, _, hempty⟩
  have hall : consumed [some byteArrival, some finArrival] net =
      [some byteArrival, some finArrival] := by
    rw [consumed, hempty]
    rfl
  refine ⟨s, net, hevent, ?_⟩
  apply ((server_closed_behind_all_data_iff Platform.spectrum 12 (fun _ => 0)
    hconnect (Int.le_refl 0) hline ?_).right 12 Console.blank [0, 0] s net
    hevent).left
  · rw [hall]
    exact ⟨hsequence, finArrival, rfl, hreach⟩
  · intro a ha _
    rcases List.mem_cons.mp ha with heq | hrest
    · cases heq
      exact byteArrival_fromPeer hack
    · cases List.mem_singleton.mp hrest
      exact finArrival_fromPeer hack

/-- The byte is lost, and the FIN behind it ends the session. -/
theorem not_allReturned_byte_lost :
    tcpConnect (scriptLink Platform.spectrum) 12 (fun _ => 0)
        (dialling (some (peerSegment 1 2 []) :: script [some finArrival])) =
        (some 0, answeredBefore [some finArrival]) ∧
      (answeredBefore [some finArrival]).line = script [some finArrival] ∧
      FromPeer (answeredBefore [some finArrival]).tcp [0x41] finArrival ∧
      exists (s : Chat.State) (net : World Script),
        Event.hungUp s net ∈ (Chat.ranMain Platform.spectrum
            (stackNetwork (scriptLink Platform.spectrum) 12)
            (answeredBefore [some finArrival]) Console.blank [0, 0]).trace ∧
          ¬ AllReturned (scriptLink Platform.spectrum)
            (answeredBefore [some finArrival]) [0x41] net := by
  have hack : (answeredBefore [some finArrival]).tcp.ack = 2 := by
    decide +kernel
  refine ⟨Prod.ext (by decide +kernel) rfl, by decide +kernel,
    finArrival_fromPeer hack, ?_⟩
  have hleft : leftAtHangUps [some finArrival] = [(2, 0)] := by
    decide +kernel
  rcases hungUp_of_left hleft with ⟨s, net, hevent, hnow, _⟩
  refine ⟨s, net, hevent, ?_⟩
  intro h
  rcases h with ⟨_, hfin⟩
  rw [hnow, numberAt, hack] at hfin
  exact absurd hfin (by decide)

end Polling
end Z80Tcpip
