import Z80Tcpip.Tcp.ScriptRuns

/-!
# The stream as it is received

A peer cuts a byte stream into segments, and the network loses, repeats and
reorders them.  What the calls of `tcp_recv_timeout` return is a prefix of the
stream exactly as long as no segment is taken that lies beyond the next byte
expected: the code accepts every segment that does not lie before it.
-/

namespace Z80Tcpip
namespace Tcp

open Foundation
open Ip

variable {P : Platform}

/-!
## Segments of a stream
-/

/-- A segment of the session that carries a piece of `stream`, whose first byte
has the sequence number `start`, or no data at all. -/
structure StreamSegment (tcp : TcpContext) (start : Nat)
    (stream bs : List UInt8) : Prop where
  passes : Passes tcp bs
  header : WellFormedHeader bs
  piece : packetPayload bs = [] ∨
    exists off : Nat, (packetSeq bs).toNat = start + off ∧
      packetPayload bs <+: stream.drop off

/-!
## The property and the condition
-/

/-- After every number of calls the bytes returned are a prefix of the stream,
and `tcp->ack` has moved by exactly that many. -/
def StreamIntact (P : Platform) (fuel start : Nat) (stream : List UInt8)
    (timeouts : List Int16) (w : World Script) : Prop :=
  forall k : Nat, exists (bytes : List UInt8) (w' : World Script),
    tcpRecvAll P fuel (timeouts.take k) w = some (bytes, w') ∧
      bytes <+: stream ∧ w'.tcp.ack = UInt32.ofNat (start + bytes.length)

/-- A packet with data lies before `tcp->ack`, or it starts at the next byte of
the stream, of which `count` bytes have been returned. -/
def OldOrNext (start count : Nat) (tcp : TcpContext) (bs : List UInt8) :
    Prop :=
  Passes tcp bs -> CarriesData bs ->
    packetSeq bs < tcp.ack ∨ (packetSeq bs).toNat = start + count

/-- Every call of the run ends with such a packet, or without a packet. -/
def InOrder (P : Platform) (fuel start : Nat) :
    List Int16 -> Nat -> World Script -> Prop
  | [], _, _ => True
  | timeout :: more, count, w =>
      (forall bs, arriving w.tcp w.line = some bs ->
        OldOrNext start count w.tcp bs) ∧
      forall (rc : Int) (w' : World Script),
        tcpRecvTimeout (scriptLink P) fuel w 0 timeout = (some rc, w') ->
          InOrder P fuel start more (count + rc.toNat) w'

/-!
## Segments cut to the buffer
-/

/-- What the buffer holds of a segment is still a piece of the stream. -/
theorem StreamSegment.piece_take {tcp : TcpContext} {start : Nat}
    {stream packet : List UInt8} {size : Nat}
    (h : StreamSegment tcp start stream packet)
    (hlong : 40 ≤ (packet.take size).length)
    (hdata : CarriesData (packet.take size)) :
    20 ≤ packetHeaderSize (packet.take size) ∧
      exists off : Nat, off < stream.length ∧
        (packetSeq (packet.take size)).toNat = start + off ∧
        packetPayload (packet.take size) <+: stream.drop off := by
  have hsize : 40 ≤ size := by
    rw [List.length_take] at hlong
    omega
  have hlen := packetPayload_length (packet.take size)
  have hcut := packetPayload_take packet hsize
  unfold CarriesData at hdata
  rw [packetHeaderSize_take packet hsize, packetSeq_take packet hsize]
  refine ⟨(packetHeaderSize_of_wellFormed h.header).left, ?_⟩
  rcases h.piece with hnil | ⟨off, hseq, hpiece⟩
  · rw [hcut, hnil, List.take_nil, List.length_nil] at hlen
    omega
  · have hfront : packetPayload (packet.take size) <+: stream.drop off := by
      rw [hcut]
      exact (List.take_prefix _ _).trans hpiece
    have hroom := hfront.length_le
    rw [List.length_drop] at hroom
    exact ⟨off, by omega, hseq, hfront⟩

theorem prefix_append_iff {done out stream : List UInt8} (h : done <+: stream) :
    done ++ out <+: stream <-> out <+: stream.drop done.length := by
  rcases h with ⟨rest, hrest⟩
  rw [← hrest, List.drop_left]
  exact List.prefix_append_right_inj done

/-!
## One call
-/

/-- A connection with only segments of the stream still to come. -/
structure Receiving (start : Nat) (stream : List UInt8)
    (w : World Script) : Prop where
  connected : 1 < w.tcp.seq
  segments : forall packet, some packet ∈ w.line ->
    StreamSegment w.tcp start stream packet

/-- The bytes returned and the acknowledgement number agree with the stream. -/
def Intact (start : Nat) (stream bytes : List UInt8) (tcp : TcpContext) :
    Prop :=
  bytes <+: stream ∧ tcp.ack = UInt32.ofNat (start + bytes.length)

theorem StreamSegment.sameSession {tcp tcp' : TcpContext} {start : Nat}
    {stream bs : List UInt8} (h : SameSession tcp tcp')
    (hs : StreamSegment tcp start stream bs) :
    StreamSegment tcp' start stream bs :=
  ⟨(Passes.sameSession h).mpr hs.passes, hs.header, hs.piece⟩

/-- Accepting a piece of the stream keeps the stream intact exactly when the
piece is the next one. -/
theorem intact_append_iff {start off n : Nat} {stream done out : List UInt8}
    {tcp : TcpContext} {seq : UInt32}
    (hstream : start + stream.length ≤ 2 ^ 32) (hdone : done <+: stream)
    (hseq : seq.toNat = start + off)
    (hpiece : out <+: stream.drop off) (hout : out.length = n) (hn : 0 < n)
    (hack : tcp.ack = seq + UInt32.ofNat n) :
    Intact start stream (done ++ out) tcp <->
      seq.toNat = start + done.length := by
  have hpow : (2 : Nat) ^ 32 = 4294967296 := by
    decide
  have hlt := seq.toNat_lt
  have hnonempty : out ≠ [] := by
    intro hnil
    rw [hnil, List.length_nil] at hout
    omega
  have hnext : UInt32.ofNat (start + (done ++ out).length) =
      UInt32.ofNat (start + done.length) + UInt32.ofNat n := by
    rw [List.length_append, hout, ← Nat.add_assoc, UInt32.ofNat_add]
  constructor
  · intro h
    rcases h with ⟨hfront, hcount⟩
    have hroom := hfront.length_le
    rw [List.length_append, hout] at hroom
    rw [hack, hnext] at hcount
    have hsame : seq = UInt32.ofNat (start + done.length) :=
      (UInt32.add_left_inj (UInt32.ofNat n)).mp hcount
    rw [hsame, UInt32.toNat_ofNat']
    omega
  · intro hnow
    have heq : off = done.length := by
      omega
    refine ⟨(prefix_append_iff hdone).mpr (heq ▸ hpiece), ?_⟩
    rw [hack, hnext, ← hnow, UInt32.ofNat_toNat]

theorem Received.receiving {start : Nat} {stream : List UInt8}
    {timeout : Int16} {w w' : World Script} {rc : Int}
    (h : Received (scriptLink P) timeout w rc w')
    (hrecv : Receiving start stream w) : Receiving start stream w' := by
  constructor
  · exact h.connected hrecv.connected
  · intro packet hpacket
    exact (hrecv.segments packet (h.line_suffix.mem hpacket)).sameSession
      h.sameSession

theorem Receiving.noted {start : Nat} {stream : List UInt8} {timeout : Int16}
    {w : World Script} {bs : List UInt8} {line : Script}
    (h : Receiving start stream w)
    (hdeliver : Delivers (scriptLink P) timeout w bs line) :
    Receiving start stream (w.noted bs line) := by
  constructor
  · exact h.connected
  · intro packet hpacket
    have hmem : some packet ∈ w.line := hdeliver.line_suffix.mem hpacket
    exact (h.segments packet hmem).sameSession (SameSession.refl w.tcp)

/-- A call that returns no data, when what the packets need to be is so. -/
theorem intact_iff_of_no_data {start : Nat} {stream done : List UInt8}
    {tcp tcp' : TcpContext} {rc : Int} {condition : Prop} (hrc : rc.toNat = 0)
    (hack : tcp'.ack = tcp.ack) (h : Intact start stream done tcp)
    (hcondition : condition) :
    (tcpRxBuffer tcp' rc.toNat).length = rc.toNat ∧
      (Intact start stream (done ++ tcpRxBuffer tcp' rc.toNat) tcp' <->
        condition) := by
  rw [hrc, tcpRxBuffer_zero, List.append_nil]
  exact ⟨rfl, iff_of_true ⟨h.left, by rw [hack, h.right]⟩ hcondition⟩

theorem forall_arriving_iff {tcp : TcpContext} {line : Script}
    {bs : List UInt8} {p : List UInt8 -> Prop}
    (h : arriving tcp line = some bs) :
    (forall bs', arriving tcp line = some bs' -> p bs') <-> p bs := by
  constructor
  · intro hall
    exact hall bs h
  · intro hbs bs' hbs'
    rw [h] at hbs'
    cases hbs'
    exact hbs

/-- A call that takes data keeps the stream intact exactly when the data is the
next piece. -/
theorem Receiving.accept_iff {start : Nat} {stream done : List UInt8}
    {timeout : Int16} {w : World Script} {bs : List UInt8} {line : Script}
    (h : Receiving start stream w)
    (hstream : start + stream.length ≤ 2 ^ 32)
    (hintact : Intact start stream done w.tcp)
    (hdeliver : Delivers (scriptLink P) timeout w bs line)
    (hlong : 40 ≤ bs.length) (hdata : CarriesData bs) :
    (tcpRxBuffer (w.accept bs line).tcp
        (bs.length - (20 + packetHeaderSize bs))).length =
          bs.length - (20 + packetHeaderSize bs) ∧
      (Intact start stream
          (done ++ tcpRxBuffer (w.accept bs line).tcp
            (bs.length - (20 + packetHeaderSize bs)))
          (w.accept bs line).tcp <->
        (packetSeq bs).toNat = start + done.length) := by
  rcases delivers_script hdeliver with ⟨packet, hline, hbs⟩
  have hmem : some packet ∈ w.line := by
    rw [hline]
    exact List.mem_cons_self
  have hpiece := (h.segments packet hmem).piece_take (hbs ▸ hlong)
    (hbs ▸ hdata)
  rw [← hbs] at hpiece
  rcases hpiece with ⟨hheader, off, _, hnumber, hfront⟩
  have hcarries : 20 + packetHeaderSize bs < bs.length := hdata
  have hlength := packetPayload_length bs
  have hack := accept_ack line hdeliver.left (by omega)
  rw [Nat.sub_sub] at hack
  rw [accept_rxBuffer line hdeliver.left hlong hheader]
  exact ⟨hlength, intact_append_iff hstream hintact.left hnumber hfront hlength
    (by omega) hack⟩

/-- A call keeps the stream intact exactly when it ends without a packet or
with one that is old or next. -/
theorem Received.intact_iff {start : Nat} {stream done : List UInt8}
    {timeout : Int16} {w w' : World Script} {rc : Int}
    (h : Received (scriptLink P) timeout w rc w')
    (hstream : start + stream.length ≤ 2 ^ 32)
    (hrecv : Receiving start stream w)
    (hintact : Intact start stream done w.tcp) :
    (tcpRxBuffer w'.tcp rc.toNat).length = rc.toNat ∧
      (Intact start stream (done ++ tcpRxBuffer w'.tcp rc.toNat) w'.tcp <->
        forall bs, arriving w.tcp w.line = some bs ->
          OldOrNext start done.length w.tcp bs) := by
  have heagain := P.eagain_pos
  induction h with
  | @idle w line hidle =>
      have hack : (w.received w.tcp.ip.pkt line).tcp.ack = w.tcp.ack := rfl
      apply intact_iff_of_no_data (by omega) hack hintact
      intro bs hbs
      rw [arriving_idle hidle] at hbs
      cases hbs
  | @refused w bs line rc hdeliver hbad hrc =>
      have hzero : rc.toNat = 0 := by
        have hreset : ERESET = 20 := rfl
        omega
      have hack : (w.arrive bs line).tcp.ack = w.tcp.ack := rfl
      have harriving :=
        arriving_packet hdeliver (fun hboth => hbad hboth.left)
      apply intact_iff_of_no_data hzero hack hintact
      exact (forall_arriving_iff harriving).mpr (fun hpass => absurd hpass hbad)
  | @probe w w' bs line rc hdeliver hpass hprobe hmore ih =>
      have hsession : SameSession w.tcp (w.noted bs line).tcp :=
        SameSession.refl w.tcp
      have hrest := ih (hrecv.noted hdeliver) hintact
      refine ⟨hrest.left, hrest.right.trans ?_⟩
      rw [arriving_probe hdeliver hpass hprobe,
        ← arriving_congr hsession rfl]
      have hsame : forall packet, OldOrNext start done.length
          (w.noted bs line).tcp packet <->
            OldOrNext start done.length w.tcp packet := by
        intro packet
        rw [OldOrNext, OldOrNext, Passes.sameSession hsession]
        rfl
      simp only [hsame]
      rfl
  | @bare w bs line hdeliver hpass hprobe hdata =>
      have hzero : ((bs.length : Int) - 20 - packetHeaderSize bs).toNat =
          0 := by
        unfold CarriesData at hdata
        omega
      have harriving :=
        arriving_packet hdeliver (fun hboth => hprobe hboth.right)
      apply intact_iff_of_no_data hzero (acked_ack w bs line) hintact
      exact (forall_arriving_iff harriving).mpr
        (fun _ hcarries => absurd hcarries hdata)
  | @old w bs line hdeliver hpass hprobe hdata hseq =>
      have harriving :=
        arriving_packet hdeliver (fun hboth => hprobe hboth.right)
      apply intact_iff_of_no_data Int.toNat_zero (acked_ack w bs line) hintact
      exact (forall_arriving_iff harriving).mpr (fun _ _ => Or.inl hseq)
  | @fresh w bs line hdeliver hpass hprobe hdata hseq =>
      have hcount : ((bs.length : Int) - 20 - packetHeaderSize bs).toNat =
          bs.length - (20 + packetHeaderSize bs) := by
        omega
      have harriving :=
        arriving_packet hdeliver (fun hboth => hprobe hboth.right)
      rcases hrecv.accept_iff hstream hintact hdeliver hpass.long hdata with
        ⟨hlength, hnext⟩
      rw [hcount]
      refine ⟨hlength, hnext.trans ?_⟩
      rw [forall_arriving_iff harriving]
      constructor
      · intro hnumber _ _
        exact Or.inr hnumber
      · intro hold
        exact (hold hpass hdata).resolve_left hseq

/-!
## Whole runs
-/

theorem intact_run_iff {fuel start : Nat} {stream : List UInt8}
    (hstream : start + stream.length ≤ 2 ^ 32) {timeouts : List Int16} :
    forall {done : List UInt8} {w : World Script},
      Receiving start stream w -> Intact start stream done w.tcp ->
      w.line.length + 4 ≤ fuel ->
        ((forall k : Nat, exists (bytes : List UInt8) (w' : World Script),
          tcpRecvAll P fuel (timeouts.take k) w = some (bytes, w') ∧
            Intact start stream (done ++ bytes) w'.tcp) <->
          InOrder P fuel start timeouts done.length w) := by
  induction timeouts with
  | nil =>
      intro done w _ hintact _
      refine iff_of_true ?_ trivial
      intro k
      refine ⟨[], w, by rw [List.take_nil]; rfl, ?_⟩
      rwa [List.append_nil]
  | cons timeout more ih =>
      intro done w hrecv hintact hfuel
      rcases tcpRecvTimeout_script_returns (P := P) timeout
        hrecv.connected hfuel with ⟨rc, w', hcall, hreceived⟩
      rcases hreceived.intact_iff hstream hrecv hintact with ⟨hcount, hstep⟩
      have hshorter := hreceived.line_suffix.length_le
      have hlength : (done ++ tcpRxBuffer w'.tcp rc.toNat).length =
          done.length + rc.toNat := by
        rw [List.length_append, hcount]
      have hmore : Intact start stream
          (done ++ tcpRxBuffer w'.tcp rc.toNat) w'.tcp -> _ :=
        fun hnow => ih (hreceived.receiving hrecv) hnow
          (Nat.le_trans (Nat.add_le_add_right hshorter 4) hfuel)
      rw [hlength] at hmore
      constructor
      · intro hrun
        have hnow : Intact start stream
            (done ++ tcpRxBuffer w'.tcp rc.toNat) w'.tcp := by
          rcases hrun 1 with ⟨bytes, w1, hall, hone⟩
          rw [List.take_succ_cons, List.take_zero, tcpRecvAll_cons [] hcall,
            tcpRecvAll, Option.map_some, List.append_nil] at hall
          cases hall
          exact hone
        refine ⟨hstep.mp hnow, ?_⟩
        intro rc2 w2 hcall2
        rw [hcall] at hcall2
        cases hcall2
        apply (hmore hnow).mp
        intro k
        rcases hrun (k + 1) with ⟨bytes, w1, hall, hkeep⟩
        rw [List.take_succ_cons, tcpRecvAll_cons _ hcall,
          Option.map_eq_some_iff] at hall
        rcases hall with ⟨⟨rest, w3⟩, hrest, heq⟩
        cases heq
        exact ⟨rest, w3, hrest, by rw [List.append_assoc]; exact hkeep⟩
      · intro h
        rcases h with ⟨hfirst, hafter⟩
        have hnow := hstep.mpr hfirst
        have hrest := (hmore hnow).mpr (hafter rc w' hcall)
        intro k
        cases k with
        | zero =>
            refine ⟨[], w, rfl, ?_⟩
            rwa [List.append_nil]
        | succ k =>
            rcases hrest k with ⟨bytes, w1, hall, hkeep⟩
            refine ⟨tcpRxBuffer w'.tcp rc.toNat ++ bytes, w1, ?_, ?_⟩
            · rw [List.take_succ_cons, tcpRecvAll_cons _ hcall, hall]
              rfl
            · rwa [← List.append_assoc]

/-- The stream stays intact over a whole run if and only if no call takes a
segment that lies beyond the next byte. -/
theorem streamIntact_iff (P : Platform) {fuel : Nat} {stream : List UInt8}
    (timeouts : List Int16) {w : World Script} (hconn : 1 < w.tcp.seq)
    (hstream : w.tcp.ack.toNat + stream.length ≤ 2 ^ 32)
    (hsegments : forall packet, some packet ∈ w.line ->
      StreamSegment w.tcp w.tcp.ack.toNat stream packet)
    (hfuel : w.line.length + 4 ≤ fuel) :
    StreamIntact P fuel w.tcp.ack.toNat stream timeouts w <->
      InOrder P fuel w.tcp.ack.toNat timeouts 0 w := by
  have hintact : Intact w.tcp.ack.toNat stream [] w.tcp := by
    refine ⟨List.nil_prefix, ?_⟩
    rw [List.length_nil, Nat.add_zero, UInt32.ofNat_toNat]
  exact intact_run_iff hstream ⟨hconn, hsegments⟩ hintact hfuel

theorem streamIntact_iff_retransmission :
    StreamIntact Platform.spectrum 7 7 [0x41, 0x42] [5, 5, 5]
        { tcp := TcpContext.loopback 2 7
          line := [some (peerSegment 7 2 [0x41]), none,
            some (peerSegment 7 2 [0x41])]
          sent := [] } <->
      InOrder Platform.spectrum 7 7 [5, 5, 5] 0
        { tcp := TcpContext.loopback 2 7
          line := [some (peerSegment 7 2 [0x41]), none,
            some (peerSegment 7 2 [0x41])]
          sent := [] } :=
  streamIntact_iff Platform.spectrum [5, 5, 5]
    (w := { tcp := TcpContext.loopback 2 7
            line := [some (peerSegment 7 2 [0x41]), none,
              some (peerSegment 7 2 [0x41])]
            sent := [] })
    (by decide) (by decide)
    (by
      intro packet hpacket
      have hfirst : packet = peerSegment 7 2 [0x41] := by
        simpa using hpacket
      rw [hfirst]
      exact ⟨peerSegment_passes 7 2 (by decide) 2 7,
        peerSegment_header 7 2 (by decide), Or.inr ⟨0, by
          rw [peerSegment_seq 7 2 (by decide),
            peerSegment_payload 7 2 (by decide)]
          decide⟩⟩)
    (by decide)

/-- The first of two segments is lost; the second one is returned and
acknowledged. -/
theorem not_streamIntact_first_segment_lost :
    StreamSegment (TcpContext.loopback 2 7) 7 [0x41, 0x42]
        (peerSegment 8 2 [0x42]) ∧
      ¬ StreamIntact Platform.spectrum 5 7 [0x41, 0x42] [5]
        { tcp := TcpContext.loopback 2 7
          line := [some (peerSegment 8 2 [0x42])]
          sent := [] } := by
  refine ⟨⟨peerSegment_passes 8 2 (by decide) 2 7,
    peerSegment_header 8 2 (by decide), Or.inr ⟨1, by
      rw [peerSegment_seq 8 2 (by decide), peerSegment_payload 8 2 (by decide)]
      decide⟩⟩, ?_⟩
  intro h
  rcases h 1 with ⟨bytes, w', hall, hfront, _⟩
  have hrun : (tcpRecvAll Platform.spectrum 5 [5]
      { tcp := TcpContext.loopback 2 7
        line := [some (peerSegment 8 2 [0x42])]
        sent := [] }).map Prod.fst = some [0x42] := by
    decide +kernel
  rw [show [5].take 1 = [(5 : Int16)] from rfl] at hall
  rw [hall, Option.map_some, Option.some.injEq] at hrun
  simp only at hrun
  rw [hrun] at hfront
  exact absurd hfront (by decide)

end Tcp
end Z80Tcpip
