import Z80Tcpip.Tcp.Connected

/-!
# Runs over a script

On a script of packets and timeouts every call of `tcp_recv_timeout` on an
established connection returns.  A call skips the zero window probes in front
and ends with the next packet or timeout.
-/

namespace Z80Tcpip
namespace Tcp

open Foundation
open Ip

variable {P : Platform}

/-!
## What a call consumes
-/

theorem delivers_of_script (timeout : Int16) {w : World Script}
    {bs : List UInt8} {line : Script}
    (hfit : bs.length ≤ w.tcp.ip.pktSize.toNat)
    (hline : w.line = some bs :: line) :
    Delivers (scriptLink P) timeout w bs line := by
  refine ⟨hfit, ?_⟩
  rw [hline]
  show some (scriptRecv P w.tcp.ip.pkt (some bs :: line)) = _
  rw [scriptRecv, List.take_of_length_le hfit]

/-- A packet that does not fit is cut. -/
theorem delivers_take (timeout : Int16) {w : World Script}
    {packet : List UInt8} {line : Script}
    (hline : w.line = some packet :: line) :
    Delivers (scriptLink P) timeout w (packet.take w.tcp.ip.pktSize.toNat)
      line := by
  constructor
  · rw [List.length_take]
    omega
  · rw [hline]
    rfl

theorem delivers_script {timeout : Int16} {w : World Script}
    {bs : List UInt8} {line : Script}
    (h : Delivers (scriptLink P) timeout w bs line) :
    exists packet : List UInt8,
      w.line = some packet :: line ∧
        bs = packet.take w.tcp.ip.pktSize.toNat := by
  rcases h with ⟨hfit, hrecv⟩
  have hstep : scriptRecv P w.tcp.ip.pkt w.line =
      ((bs.length : Int), w.tcp.ip.pkt.write 0 bs, line) :=
    Option.some.inj hrecv
  have heagain := P.eagain_pos
  rcases hline : w.line with _ | ⟨_ | packet, rest⟩
  · rw [hline, scriptRecv, Prod.mk.injEq] at hstep
    omega
  · rw [hline, scriptRecv, Prod.mk.injEq] at hstep
    omega
  · rw [hline, scriptRecv] at hstep
    simp only [Prod.mk.injEq] at hstep
    rcases hstep with ⟨hlen, hpkt, hrest⟩
    exact ⟨packet, by rw [hrest],
      (Buffer.write_front_inj (by omega) hfit hpkt).symm⟩

theorem idle_script {timeout : Int16} {w : World Script} {line : Script}
    (h : (scriptLink P).recvPacket w.tcp.ip.pkt timeout w.line =
      some (-(P.eagain : Int), w.tcp.ip.pkt, line)) :
    (w.line = [] ∧ line = []) ∨ w.line = none :: line := by
  have hstep : scriptRecv P w.tcp.ip.pkt w.line =
      (-(P.eagain : Int), w.tcp.ip.pkt, line) :=
    Option.some.inj h
  have heagain := P.eagain_pos
  rcases hline : w.line with _ | ⟨_ | packet, rest⟩
  · rw [hline, scriptRecv] at hstep
    simp only [Prod.mk.injEq] at hstep
    exact Or.inl ⟨rfl, hstep.right.right.symm⟩
  · rw [hline, scriptRecv] at hstep
    simp only [Prod.mk.injEq] at hstep
    exact Or.inr (by rw [hstep.right.right])
  · rw [hline, scriptRecv, Prod.mk.injEq] at hstep
    omega

instance (tcp : TcpContext) (bs : List UInt8) : Decidable (Passes tcp bs) :=
  decidable_of_iff
    (40 ≤ bs.length ∧ bs.getD 0 0 = 0x45 ∧ bs.getD 9 0 = IP_TCP ∧
      field bs 20 4 = peerPorts tcp ∧ bs.getD 33 0 &&& TCP_RST = 0)
    ⟨fun ⟨h1, h2, h3, h4, h5⟩ => ⟨h1, h2, h3, h4, h5⟩,
      fun ⟨h1, h2, h3, h4, h5⟩ => ⟨h1, h2, h3, h4, h5⟩⟩

/-- The packet that ends the next call: the first one that is not a zero window
probe, unless a timeout comes before it. -/
def arriving (tcp : TcpContext) : Script -> Option (List UInt8)
  | [] => none
  | none :: _ => none
  | some packet :: rest =>
      let bs := packet.take tcp.ip.pktSize.toNat
      if Passes tcp bs ∧ IsProbe tcp bs then arriving tcp rest else some bs

theorem arriving_congr {tcp tcp' : TcpContext} (h : SameSession tcp tcp')
    (hack : tcp'.ack = tcp.ack) (line : Script) :
    arriving tcp' line = arriving tcp line := by
  have hsize : tcp'.ip.pktSize = tcp.ip.pktSize := h.right.right.left
  induction line with
  | nil => rfl
  | cons ev rest ih =>
      cases ev with
      | none => rfl
      | some packet =>
          rw [arriving, arriving, hsize, ih]
          exact if_congr
            (and_congr (Passes.sameSession h) (by rw [IsProbe, IsProbe, hack]))
            rfl rfl

theorem arriving_probe {timeout : Int16} {w : World Script}
    {bs : List UInt8} {line : Script}
    (hrecv : Delivers (scriptLink P) timeout w bs line)
    (hpass : Passes w.tcp bs) (hprobe : IsProbe w.tcp bs) :
    arriving w.tcp w.line = arriving w.tcp line := by
  rcases delivers_script hrecv with ⟨packet, hline, hbs⟩
  subst hbs
  rw [hline, arriving, if_pos ⟨hpass, hprobe⟩]

theorem arriving_packet {timeout : Int16} {w : World Script}
    {bs : List UInt8} {line : Script}
    (hrecv : Delivers (scriptLink P) timeout w bs line)
    (hstop : ¬ (Passes w.tcp bs ∧ IsProbe w.tcp bs)) :
    arriving w.tcp w.line = some bs := by
  rcases delivers_script hrecv with ⟨packet, hline, hbs⟩
  subst hbs
  rw [hline, arriving, if_neg hstop]

theorem arriving_idle {timeout : Int16} {w : World Script} {line : Script}
    (hrecv : (scriptLink P).recvPacket w.tcp.ip.pkt timeout w.line =
      some (-(P.eagain : Int), w.tcp.ip.pkt, line)) :
    arriving w.tcp w.line = none := by
  rcases idle_script hrecv with ⟨hline, _⟩ | hline <;> rw [hline] <;> rfl

theorem Delivers.line_suffix {timeout : Int16} {w : World Script}
    {bs : List UInt8} {line : Script}
    (h : Delivers (scriptLink P) timeout w bs line) : line <:+ w.line := by
  rcases delivers_script h with ⟨packet, hline, _⟩
  rw [hline]
  exact List.suffix_cons _ _

/-- A call takes packets off the front of the script. -/
theorem Received.line_suffix {timeout : Int16} {w w' : World Script}
    {rc : Int} (h : Received (scriptLink P) timeout w rc w') :
    w'.line <:+ w.line := by
  induction h with
  | @idle w line hrecv =>
      show line <:+ w.line
      rcases idle_script hrecv with ⟨hline, hrest⟩ | hline
      · simp only [hline, hrest, List.suffix_refl]
      · rw [hline]
        exact List.suffix_cons _ _
  | refused hrecv => exact hrecv.line_suffix
  | probe hrecv _ _ _ ih => exact ih.trans hrecv.line_suffix
  | bare hrecv => exact hrecv.line_suffix
  | old hrecv => exact hrecv.line_suffix
  | fresh hrecv => exact hrecv.line_suffix

/-!
## Every call returns
-/

theorem tcpRecvAgain_script_returns {timeout : Int16} {line : Script} :
    forall {fuel : Nat} {w : World Script},
      w.line = line -> 1 < w.tcp.seq -> line.length + 3 ≤ fuel ->
        exists (rc : Int) (w' : World Script),
          tcpRecvAgain (scriptLink P) fuel w timeout = (some rc, w') := by
  induction line with
  | nil =>
      intro fuel w hline hconn hfuel
      have hrecv : (scriptLink P).recvPacket w.tcp.ip.pkt timeout w.line =
          some (-(P.eagain : Int), w.tcp.ip.pkt, []) := by
        rw [hline]
        rfl
      rw [← Nat.sub_add_cancel (show 1 ≤ fuel by omega),
        tcpRecvAgain_idle (fuel - 1) hrecv]
      exact ⟨_, _, rfl⟩
  | cons ev rest ih =>
      intro fuel w hline hconn hfuel
      rw [List.length_cons] at hfuel
      cases ev with
      | none =>
          have hrecv : (scriptLink P).recvPacket w.tcp.ip.pkt timeout w.line =
              some (-(P.eagain : Int), w.tcp.ip.pkt, rest) := by
            rw [hline]
            rfl
          rw [← Nat.sub_add_cancel (show 1 ≤ fuel by omega),
            tcpRecvAgain_idle (fuel - 1) hrecv]
          exact ⟨_, _, rfl⟩
      | some packet =>
          have hrecv : Delivers (scriptLink P) timeout w
              (packet.take w.tcp.ip.pktSize.toNat) rest :=
            delivers_take timeout hline
          by_cases hstop :
              Passes w.tcp (packet.take w.tcp.ip.pktSize.toNat) ∧
                IsProbe w.tcp (packet.take w.tcp.ip.pktSize.toNat)
          · rcases hstop with ⟨hpass, hprobe⟩
            have hinput :=
              tcpInput_probe (P := P) rest hrecv.left hconn hpass hprobe
            rw [← Nat.sub_add_cancel (show 1 ≤ fuel by omega),
              tcpRecvAgain_packet (fuel - 1) hrecv hinput, tcpRecvAction]
            exact ih rfl hconn (by omega)
          · rw [← Nat.sub_add_cancel (show 3 ≤ fuel by omega)]
            exact tcpRecvAgain_returns (fuel - 3) hconn hrecv
              (fun hpass hprobe => hstop ⟨hpass, hprobe⟩)

/-- Fuel beyond the length of the script is enough. -/
theorem tcpRecvTimeout_script_returns (timeout : Int16) {fuel : Nat}
    {w : World Script} (hconn : 1 < w.tcp.seq)
    (hfuel : w.line.length + 4 ≤ fuel) :
    exists (rc : Int) (w' : World Script),
      tcpRecvTimeout (scriptLink P) fuel w 0 timeout = (some rc, w') ∧
        Received (scriptLink P) timeout w rc w' := by
  have hreturns : exists (rc : Int) (w' : World Script),
      tcpRecvTimeout (scriptLink P) fuel w 0 timeout = (some rc, w') := by
    rw [← Nat.sub_add_cancel (show 1 ≤ fuel by omega), tcpRecvTimeout,
      clampLen_zero, if_neg (fun hne => hne rfl)]
    exact tcpRecvAgain_script_returns rfl hconn (by omega)
  rcases hreturns with ⟨rc, w', hcall⟩
  exact ⟨rc, w', hcall, received_of_tcpRecvTimeout hconn hcall⟩

/-!
## Successive calls
-/

/-- One call of `tcp_recv_timeout(tcp, 0, to)` for each timeout, with the
payloads handed out, one behind the other. -/
def tcpRecvAll (P : Platform) (fuel : Nat) :
    List Int16 -> World Script -> Option (List UInt8 × World Script)
  | [], w => some ([], w)
  | timeout :: more, w =>
      match tcpRecvTimeout (scriptLink P) fuel w 0 timeout with
      | (none, _) => none
      | (some rc, w') =>
          match tcpRecvAll P fuel more w' with
          | none => none
          | some (bytes, w'') =>
              some (tcpRxBuffer w'.tcp rc.toNat ++ bytes, w'')

theorem tcpRecvAll_cons {fuel : Nat} {timeout : Int16} (more : List Int16)
    {w w' : World Script} {rc : Int}
    (h : tcpRecvTimeout (scriptLink P) fuel w 0 timeout = (some rc, w')) :
    tcpRecvAll P fuel (timeout :: more) w =
      (tcpRecvAll P fuel more w').map
        (fun r => (tcpRxBuffer w'.tcp rc.toNat ++ r.1, r.2)) := by
  rw [tcpRecvAll, h]
  simp only
  cases tcpRecvAll P fuel more w' with
  | none => rfl
  | some r => rfl

/-!
## Segments of the peer
-/

/-- A segment from the other end of the loopback connection. -/
def peerSegment (seq ack : UInt32) (data : List UInt8) : List UInt8 :=
  (tcpTransmit
    { TcpContext.loopback seq ack with dstPort := 0x0004, srcPort := 0x5000 }
    data.length (some ⟨data, rfl⟩) 0).2

section PeerSegments

variable (seq ack : UInt32) {data : List UInt8} (hdata : data.length ≤ 24)

include hdata

/-- The peer's segments are those of a correct stack at the other end. -/
theorem peerSegment_valid :
    ValidSegment
      { tcp :=
          { TcpContext.loopback seq ack with
            dstPort := 0x0004
            srcPort := 0x5000 }
        request := { len := data.length, data := some ⟨data, rfl⟩, window := 0 }
        packet := peerSegment seq ack data } := by
  apply validSegment_tcpTransmit _
    { len := data.length, data := some ⟨data, rfl⟩, window := 0 }
  show 40 + data.length ≤ 64
  omega

theorem peerSegment_length :
    (peerSegment seq ack data).length = 40 + data.length :=
  (peerSegment_valid seq ack hdata).length_eq

theorem peerSegment_passes (seq' ack' : UInt32) :
    Passes (TcpContext.loopback seq' ack') (peerSegment seq ack data) := by
  have hvalid := peerSegment_valid seq ack hdata
  have hlength := peerSegment_length seq ack hdata
  constructor
  case long => omega
  case version => exact getD_of_field hvalid.version
  case protocol => exact getD_of_field hvalid.protocol
  case ports =>
    rw [field_add _ 20 2 2, hvalid.source_port, hvalid.destination_port]
    rfl
  case no_rst =>
    rw [getD_of_field hvalid.flags]
    split_ifs <;> rfl

theorem peerSegment_header : WellFormedHeader (peerSegment seq ack data) := by
  have hlength := peerSegment_length seq ack hdata
  refine ⟨5, by omega, by omega, ?_, by omega⟩
  exact getD_of_field (peerSegment_valid seq ack hdata).data_offset

theorem peerSegment_seq : packetSeq (peerSegment seq ack data) = seq := by
  rw [packetSeq, (peerSegment_valid seq ack hdata).sequence_number]
  exact UInt32.ofNat_toNat

theorem peerSegment_drop : (peerSegment seq ack data).drop 40 = data := by
  have hfield : field (peerSegment seq ack data) 40 data.length = data :=
    (peerSegment_valid seq ack hdata).payload_eq
  have hlength := peerSegment_length seq ack hdata
  rwa [field, List.take_of_length_le (by rw [List.length_drop]; omega)]
    at hfield

theorem peerSegment_payload :
    packetPayload (peerSegment seq ack data) = data := by
  have hoffset := getD_of_field (peerSegment_valid seq ack hdata).data_offset
  have hsize : packetHeaderSize (peerSegment seq ack data) = 20 := by
    rw [packetHeaderSize, hoffset]
    rfl
  rw [packetPayload, hsize]
  exact peerSegment_drop seq ack hdata

end PeerSegments

end Tcp
end Z80Tcpip
