import Z80Tcpip.Tcp.LostBytes

/-!
# Malformed headers

The size of the TCP header comes from the packet, reserved bits included, and
the returned length is a difference with it.  A header size below 20, one with
reserved bits set or one beyond the end of the packet gives a result that means
something else.
-/

namespace Z80Tcpip
namespace Tcp

open Foundation

variable {P : Platform}

/-- The header length by the data offset alone. -/
def headerLength (bs : List UInt8) : Nat :=
  4 * (bs.getD 32 0 >>> 4).toNat

/-- What the results of `tcp_recv_timeout` stand for, when `packet` ends the
call. -/
structure SoundlyClassified (w : World Script) (packet : Option (List UInt8))
    (rc : Int) (w' : World Script) : Prop where
  reset : rc = -(ERESET : Int) -> exists bs : List UInt8,
    packet = some bs ∧ Checked w.tcp bs ∧ bs.getD 33 0 &&& TCP_RST ≠ 0
  negative : rc < 0 ->
    w'.tcp.seq = w.tcp.seq ∧ w'.tcp.ack = w.tcp.ack ∧ w'.sent = w.sent
  data : 0 < rc -> exists bs : List UInt8,
    packet = some bs ∧
      tcpRxBuffer w'.tcp rc.toNat = bs.drop (20 + headerLength bs) ∧
      20 ≤ headerLength bs ∧ headerLength bs + 20 ≤ bs.length

/-- A packet of the session that ends a call and is no RST: fresh data stands
behind a header of at least 20 bytes without reserved bits; a header that
reaches beyond the packet does not do so by 20 bytes, and the packet acknowledges
nothing new. -/
def SoundHeader (tcp : TcpContext) (bs : List UInt8) : Prop :=
  Passes tcp bs ->
    (FreshData tcp bs ->
      packetHeaderSize bs % 4 = 0 ∧ 20 ≤ packetHeaderSize bs) ∧
    (bs.length < 20 + packetHeaderSize bs ->
      bs.length ≠ packetHeaderSize bs ∧ packetAck bs ≤ tcp.seq)

def SoundPacket (tcp : TcpContext) : Option (List UInt8) -> Prop
  | none => True
  | some bs => SoundHeader tcp bs

theorem packetHeaderSize_eq (bs : List UInt8) :
    packetHeaderSize bs = headerLength bs + packetHeaderSize bs % 4 := by
  have hsize : packetHeaderSize bs = (bs.getD 32 0).toNat / 4 := by
    rw [packetHeaderSize, UInt8.toNat_shiftRight]
    exact Nat.shiftRight_eq_div_pow _ 2
  have hlength : headerLength bs = 4 * ((bs.getD 32 0).toNat / 16) := by
    rw [headerLength, UInt8.toNat_shiftRight]
    exact congrArg (4 * ·) (Nat.shiftRight_eq_div_pow _ 4)
  omega

/-!
## One packet
-/

theorem soundlyClassified_of_zero {w w' : World Script}
    {packet : Option (List UInt8)} : SoundlyClassified w packet 0 w' := by
  have hreset : ERESET = 20 := rfl
  constructor
  case reset =>
    intro h
    omega
  case negative =>
    intro h
    omega
  case data =>
    intro h
    omega

section Packet

variable {w : World Script} {bs : List UInt8} (line : Script)
  (hfit : bs.length ≤ w.tcp.ip.pktSize.toNat)

include hfit

theorem soundlyClassified_accept_iff (hpass : Passes w.tcp bs)
    (hfresh : FreshData w.tcp bs) :
    SoundlyClassified w (some bs)
        ((bs.length : Int) - 20 - packetHeaderSize bs) (w.accept bs line) <->
      SoundHeader w.tcp bs := by
  have hlong := hpass.long
  have hdata : 20 + packetHeaderSize bs < bs.length := hfresh.left
  have hsplit := packetHeaderSize_eq bs
  have hreset : ERESET = 20 := rfl
  have hcount : ((bs.length : Int) - 20 - packetHeaderSize bs).toNat =
      bs.length - (20 + packetHeaderSize bs) := by
    omega
  constructor
  · intro h _
    rcases h.data (by omega) with ⟨bs', hsame, hbuffer, hlow, hhigh⟩
    cases hsame
    refine ⟨fun _ => ?_, fun hbeyond => by omega⟩
    have hlengths := congrArg List.length hbuffer
    rw [hcount, accept_handedOut line hfit hlong,
      handedOut_length line hfit hlong hfresh.left, List.length_drop]
      at hlengths
    omega
  · intro h
    rcases (h hpass).left hfresh with ⟨hbits, hheader⟩
    constructor
    case reset =>
      intro hrc
      omega
    case negative =>
      intro hrc
      omega
    case data =>
      intro _
      refine ⟨bs, rfl, ?_, by omega, by omega⟩
      rw [hcount, accept_rxBuffer line hfit hlong hheader, packetPayload,
        show packetHeaderSize bs = headerLength bs by omega]

theorem soundlyClassified_bare_iff (hpass : Passes w.tcp bs)
    (hdata : ¬ CarriesData bs) :
    SoundlyClassified w (some bs)
        ((bs.length : Int) - 20 - packetHeaderSize bs) (w.acked bs line) <->
      SoundHeader w.tcp bs := by
  have hmax := opened_seq line hfit hpass.long
  have hreset : ERESET = 20 := rfl
  have hshort : bs.length ≤ 20 + packetHeaderSize bs := Nat.not_lt.mp hdata
  constructor
  · intro h _
    refine ⟨fun hfresh => absurd hfresh.left hdata, fun hbeyond => ?_⟩
    constructor
    · intro hlength
      rcases h.reset (by omega) with ⟨bs', hsame, _, hrst⟩
      cases hsame
      exact hrst hpass.no_rst
    · have hseq : (w.opened bs line).seq = w.tcp.seq :=
        (h.negative (by omega)).left
      rw [hseq] at hmax
      exact UInt32.le_iff_toNat_le.mpr (by omega)
  · intro h
    have hbeyond := (h hpass).right
    constructor
    case reset =>
      intro hrc
      exact absurd (show bs.length = packetHeaderSize bs by omega)
        (hbeyond (by omega)).left
    case negative =>
      intro hrc
      have hack := UInt32.le_iff_toNat_le.mp (hbeyond (by omega)).right
      refine ⟨UInt32.toNat_inj.mp ?_, rfl, rfl⟩
      exact hmax.trans (Nat.max_eq_left hack)
    case data =>
      intro hrc
      omega

end Packet

/-!
## Whole calls
-/

theorem SoundPacket.sameNumbers {tcp tcp' : TcpContext}
    (hsession : SameSession tcp tcp') (hseq : tcp'.seq = tcp.seq)
    (hack : tcp'.ack = tcp.ack) {packet : Option (List UInt8)} :
    SoundPacket tcp' packet <-> SoundPacket tcp packet := by
  cases packet with
  | none => exact Iff.rfl
  | some bs =>
      rw [SoundPacket, SoundPacket, SoundHeader, SoundHeader,
        Passes.sameSession hsession, FreshData, FreshData, hseq, hack]

theorem SoundlyClassified.noted_iff {w w' : World Script} {bs : List UInt8}
    {line : Script} {packet : Option (List UInt8)} {rc : Int} :
    SoundlyClassified (w.noted bs line) packet rc w' <->
      SoundlyClassified w packet rc w' := by
  have hsession : SameSession w.tcp (w.noted bs line).tcp :=
    ⟨rfl, rfl, rfl, rfl, rfl⟩
  constructor
  · intro h
    refine ⟨fun hrc => ?_, h.negative, h.data⟩
    rcases h.reset hrc with ⟨bs', hsame, hchecked, hrst⟩
    exact ⟨bs', hsame, (Checked.sameSession hsession).mp hchecked, hrst⟩
  · intro h
    refine ⟨fun hrc => ?_, h.negative, h.data⟩
    rcases h.reset hrc with ⟨bs', hsame, hchecked, hrst⟩
    exact ⟨bs', hsame, (Checked.sameSession hsession).mpr hchecked, hrst⟩

theorem soundlyClassified_again_iff {fuel : Nat} {timeout : Int16}
    {rc : Int} {w' : World Script} :
    forall {w : World Script}, 1 < w.tcp.seq ->
      tcpRecvAgain (scriptLink P) fuel w timeout = (some rc, w') ->
        (SoundlyClassified w (arriving w.tcp w.line) rc w' <->
          SoundPacket w.tcp (arriving w.tcp w.line)) := by
  have heagain := P.eagain_pos
  have hne := P.eagain_ne_ereset
  have hreset : ERESET = 20 := rfl
  induction fuel with
  | zero =>
      intro w _ h
      cases h
  | succ fuel ih =>
      intro w hconn h
      cases recvCase hconn h with
      | idle hrecv =>
          rw [arriving_idle hrecv]
          refine iff_of_true ?_ trivial
          exact ⟨fun hrc => by omega, fun _ => ⟨rfl, rfl, rfl⟩,
            fun hrc => by omega⟩
      | unchecked hrecv hbad =>
          have hno : ¬ Passes w.tcp _ :=
            fun hpass => hbad (passes_iff.mp hpass).left
          rw [arriving_packet hrecv (fun hp => hno hp.left)]
          refine iff_of_true ?_ (fun hp => absurd hp hno)
          exact ⟨fun hrc => by omega, fun _ => ⟨rfl, rfl, rfl⟩,
            fun hrc => by omega⟩
      | reset hrecv hchecked hrst =>
          have hno : ¬ Passes w.tcp _ := fun hpass => hrst hpass.no_rst
          rw [arriving_packet hrecv (fun hp => hno hp.left)]
          refine iff_of_true ?_ (fun hp => absurd hp hno)
          exact ⟨fun _ => ⟨_, rfl, hchecked, hrst⟩, fun _ => ⟨rfl, rfl, rfl⟩,
            fun hrc => by omega⟩
      | @probe _ bs line _ hrecv hpass hprobe hmore =>
          have hsession : SameSession w.tcp (w.noted bs line).tcp :=
            ⟨rfl, rfl, rfl, rfl, rfl⟩
          have hsame : arriving (w.noted bs line).tcp line =
              arriving w.tcp line :=
            arriving_congr hsession rfl line
          have hrest := ih (w := w.noted bs line) hconn hmore
          rw [show (w.noted bs line).line = line from rfl, hsame,
            SoundPacket.sameNumbers hsession rfl rfl,
            SoundlyClassified.noted_iff] at hrest
          rwa [arriving_probe hrecv hpass hprobe]
      | bare hrecv htaken hdata =>
          rw [arriving_packet hrecv (fun hp => htaken.right hp.right)]
          exact soundlyClassified_bare_iff _ hrecv.left htaken.left hdata
      | old hrecv htaken hdata hseq =>
          rw [arriving_packet hrecv (fun hp => htaken.right hp.right)]
          refine iff_of_true soundlyClassified_of_zero ?_
          intro _
          unfold CarriesData at hdata
          exact ⟨fun hfresh => absurd hseq hfresh.right,
            fun hbeyond => by omega⟩
      | fresh hrecv htaken hfresh =>
          rw [arriving_packet hrecv (fun hp => htaken.right hp.right)]
          exact soundlyClassified_accept_iff _ hrecv.left htaken.left hfresh

/-- A call on any script returns.  Its result stands for what it should if and
only if the packet that ends the call has a sound header. -/
theorem soundlyClassified_iff (P : Platform) (fuel : Nat) (timeout : Int16)
    {w : World Script} (hconn : 2 ≤ w.tcp.seq) :
    exists (rc : Int) (w' : World Script),
      tcpRecvTimeout (scriptLink P) (fuel + w.line.length + 4) w 0 timeout =
          (some rc, w') ∧
        (SoundlyClassified w (arriving w.tcp w.line) rc w' <->
          SoundPacket w.tcp (arriving w.tcp w.line)) := by
  have hconn' := one_lt_of_two_le hconn
  rcases tcpRecvTimeout_script_returns (P := P) timeout hconn'
    (show w.line.length + 4 ≤ fuel + w.line.length + 4 by omega) with
    ⟨rc, w', hcall, _⟩
  refine ⟨rc, w', hcall, ?_⟩
  rw [tcpRecvTimeout, clampLen_zero, if_neg (fun hne => hne rfl)] at hcall
  exact soundlyClassified_again_iff hconn' hcall

/-- A segment of the loopback connection with another data offset byte. -/
def withOffset (offset : UInt8) (data : List UInt8) : List UInt8 :=
  (peerSegment 7 2 data).set 32 offset

theorem soundlyClassified_iff_reserved_bits :
    exists (rc : Int) (w' : World Script),
      tcpRecvTimeout (scriptLink Platform.spectrum) (0 + 1 + 4)
          { tcp := TcpContext.loopback 2 7
            line := [some (withOffset 0x54 [0x41, 0x42])]
            sent := [] } 0 5 = (some rc, w') ∧
        (SoundlyClassified
            { tcp := TcpContext.loopback 2 7
              line := [some (withOffset 0x54 [0x41, 0x42])]
              sent := [] }
            (arriving (TcpContext.loopback 2 7)
              [some (withOffset 0x54 [0x41, 0x42])]) rc w' <->
          SoundPacket (TcpContext.loopback 2 7)
            (arriving (TcpContext.loopback 2 7)
              [some (withOffset 0x54 [0x41, 0x42])])) :=
  soundlyClassified_iff Platform.spectrum 0 5
    (w := { tcp := TcpContext.loopback 2 7
            line := [some (withOffset 0x54 [0x41, 0x42])]
            sent := [] })
    (by decide)

/-- A bare segment whose header size is its whole length is taken for a reset,
and a reserved bit costs a byte of the payload. -/
theorem not_soundlyClassified :
    ((tcpRecvTimeout (scriptLink Platform.spectrum) 5
          { tcp := TcpContext.loopback 2 7
            line := [some (withOffset 0xA0 [])]
            sent := [] } 0 5).1 = some (-(ERESET : Int)) ∧
        (withOffset 0xA0 []).getD 33 0 &&& TCP_RST = 0) ∧
      (tcpRecvTimeout (scriptLink Platform.spectrum) 5
          { tcp := TcpContext.loopback 2 7
            line := [some (withOffset 0x54 [0x41, 0x42])]
            sent := [] } 0 5).1 = some 1 ∧
        (withOffset 0x54 [0x41, 0x42]).drop
          (20 + headerLength (withOffset 0x54 [0x41, 0x42])) =
            [0x41, 0x42] := by
  decide +kernel

end Tcp
end Z80Tcpip
