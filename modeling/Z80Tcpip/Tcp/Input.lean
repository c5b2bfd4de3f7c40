import Z80Tcpip.Tcp.Stack

/-!
# What a packet does to an established connection

The stack reads a packet through the front of its buffer.  For a packet that has
just been stored there, its decisions are stated on the bytes of the packet.
-/

namespace Z80Tcpip
namespace Tcp

open Foundation
open Ip

variable {P : Platform} {σ : Type}

/-- The world once `recv_packet` has stored the packet `bs`. -/
def World.arrive (w : World σ) (bs : List UInt8) (line : σ) : World σ :=
  w.received (w.tcp.ip.pkt.write 0 bs) line

/-!
## Header fields
-/

def packetSeq (bs : List UInt8) : UInt32 :=
  UInt32.ofNat (readBE (field bs 24 4))

def packetAck (bs : List UInt8) : UInt32 :=
  UInt32.ofNat (readBE (field bs 28 4))

def packetHeaderSize (bs : List UInt8) : Nat :=
  (bs.getD 32 0 >>> 2).toNat

def packetPayload (bs : List UInt8) : List UInt8 :=
  bs.drop (20 + packetHeaderSize bs)

theorem packetPayload_length (bs : List UInt8) :
    (packetPayload bs).length = bs.length - (20 + packetHeaderSize bs) :=
  List.length_drop

theorem packetHeaderSize_take (packet : List UInt8) {size : Nat}
    (h : 40 ≤ size) :
    packetHeaderSize (packet.take size) = packetHeaderSize packet := by
  rw [packetHeaderSize, packetHeaderSize, getD_take packet (by omega)]

theorem packetSeq_take (packet : List UInt8) {size : Nat} (h : 40 ≤ size) :
    packetSeq (packet.take size) = packetSeq packet := by
  rw [packetSeq, packetSeq, field_take packet (by omega)]

theorem packetPayload_take (packet : List UInt8) {size : Nat}
    (h : 40 ≤ size) :
    packetPayload (packet.take size) =
      (packetPayload packet).take (size - (20 + packetHeaderSize packet)) := by
  rw [packetPayload, packetPayload, packetHeaderSize_take packet h,
    List.drop_take]

/-- A TCP header of 20 to 60 bytes, all of it in the packet. -/
def WellFormedHeader (bs : List UInt8) : Prop :=
  exists h : Nat, 5 ≤ h ∧ h ≤ 15 ∧ bs.getD 32 0 = UInt8.ofNat (16 * h) ∧
    20 + 4 * h ≤ bs.length

theorem packetHeaderSize_of_offset {bs : List UInt8} {h : Nat} (hhigh : h ≤ 15)
    (hbyte : bs.getD 32 0 = UInt8.ofNat (16 * h)) :
    packetHeaderSize bs = 4 * h := by
  rw [packetHeaderSize, hbyte]
  simp only [UInt8.toNat_shiftRight, UInt8.toNat_ofNat']
  show (16 * h % 256) >>> 2 = 4 * h
  rw [Nat.shiftRight_eq_div_pow]
  omega

theorem packetHeaderSize_of_wellFormed {bs : List UInt8}
    (h : WellFormedHeader bs) :
    20 ≤ packetHeaderSize bs ∧ 20 + packetHeaderSize bs ≤ bs.length := by
  rcases h with ⟨n, hlow, hhigh, hbyte, hlen⟩
  have hsize := packetHeaderSize_of_offset hhigh hbyte
  omega

/-- The session that the sanity checks look for: the bytes of the two ports as
a packet of the peer has them. -/
def peerPorts (tcp : TcpContext) : List UInt8 :=
  leBytes 2 tcp.dstPort.toNat ++ leBytes 2 tcp.srcPort.toNat

/-- A packet that gets past the sanity checks. -/
structure Checked (tcp : TcpContext) (bs : List UInt8) : Prop where
  long : 40 ≤ bs.length
  version : bs.getD 0 0 = 0x45
  protocol : bs.getD 9 0 = IP_TCP
  ports : field bs 20 4 = peerPorts tcp

instance (tcp : TcpContext) (bs : List UInt8) : Decidable (Checked tcp bs) :=
  decidable_of_iff
    (40 ≤ bs.length ∧ bs.getD 0 0 = 0x45 ∧ bs.getD 9 0 = IP_TCP ∧
      field bs 20 4 = peerPorts tcp)
    ⟨fun ⟨h1, h2, h3, h4⟩ => ⟨h1, h2, h3, h4⟩,
      fun ⟨h1, h2, h3, h4⟩ => ⟨h1, h2, h3, h4⟩⟩

/-- A packet that gets past the sanity checks and is no RST. -/
structure Passes (tcp : TcpContext) (bs : List UInt8) : Prop where
  long : 40 ≤ bs.length
  version : bs.getD 0 0 = 0x45
  protocol : bs.getD 9 0 = IP_TCP
  ports : field bs 20 4 = peerPorts tcp
  no_rst : bs.getD 33 0 &&& TCP_RST = 0

theorem passes_iff {tcp : TcpContext} {bs : List UInt8} :
    Passes tcp bs <-> Checked tcp bs ∧ bs.getD 33 0 &&& TCP_RST = 0 := by
  constructor
  · intro h
    exact ⟨⟨h.long, h.version, h.protocol, h.ports⟩, h.no_rst⟩
  · intro h
    exact ⟨h.left.long, h.left.version, h.left.protocol, h.left.ports, h.right⟩

theorem htonl_word {bs : List UInt8} (h : bs.length = 4) :
    htonl (UInt32.ofNat (readLE bs)) = UInt32.ofNat (readBE bs) := by
  have hlt := readBE_lt bs
  rw [h] at hlt
  apply UInt32.toNat_inj.mp
  rw [htonl_load bs h, UInt32.toNat_ofNat',
    Nat.mod_eq_of_lt (by simpa using hlt)]

theorem field_length {bs : List UInt8} {off len : Nat}
    (h : off + len ≤ bs.length) : (field bs off len).length = len := by
  rw [field, List.length_take, List.length_drop]
  omega

section Arrival

variable {w : World σ} {bs : List UInt8} (line : σ)
  (hfit : bs.length ≤ w.tcp.ip.pktSize.toNat)

include hfit

theorem headerSeq_arrive (hlong : 40 ≤ bs.length) :
    headerSeq (w.arrive bs line).tcp = packetSeq bs := by
  have hfield : (w.tcp.ip.pkt.write 0 bs).slice (20 + 4) 4 = field bs 24 4 :=
    Buffer.slice_write_field _ hfit (by omega)
  show htonl (UInt32.ofNat (readLE
    ((w.tcp.ip.pkt.write 0 bs).slice (20 + 4) 4))) = _
  rw [hfield, htonl_word (field_length (by omega))]
  rfl

theorem headerAck_arrive (hlong : 40 ≤ bs.length) :
    headerAck (w.arrive bs line).tcp = packetAck bs := by
  have hfield : (w.tcp.ip.pkt.write 0 bs).slice (20 + 8) 4 = field bs 28 4 :=
    Buffer.slice_write_field _ hfit (by omega)
  show htonl (UInt32.ofNat (readLE
    ((w.tcp.ip.pkt.write 0 bs).slice (20 + 8) 4))) = _
  rw [hfield, htonl_word (field_length (by omega))]
  rfl

theorem get_arrive {i : Nat} (h : i < bs.length) :
    (w.arrive bs line).tcp.ip.pkt.get i = bs.getD i 0 :=
  Buffer.get_write_front _ hfit h

theorem slice_arrive {off len : Nat} (h : off + len ≤ bs.length) :
    (w.arrive bs line).tcp.ip.pkt.slice off len = field bs off len :=
  Buffer.slice_write_field _ hfit h

/-!
## Sanity checks
-/

theorem sanityChecks_arrive :
    sanityChecks P (w.arrive bs line).tcp bs.length =
      if Checked w.tcp bs then
        if bs.getD 33 0 &&& TCP_RST = 0 then none
        else some (-(ERESET : Int))
      else some (-(P.eagain : Int)) := by
  unfold sanityChecks headerFlags
  by_cases hlong : bs.length < 20 + 20
  · rw [if_pos hlong, if_neg (fun h => absurd h.long (by omega))]
  have hget := fun (i : Nat) (hi : i < 40) =>
    get_arrive line hfit (i := i) (by omega)
  have hports : (w.arrive bs line).tcp.ip.pkt.slice 20 4 = field bs 20 4 :=
    slice_arrive line hfit (by omega)
  have hpeer : leBytes 2 (w.arrive bs line).tcp.dstPort.toNat ++
      leBytes 2 (w.arrive bs line).tcp.srcPort.toNat = peerPorts w.tcp :=
    rfl
  rw [if_neg hlong, hget 0 (by omega), hget 9 (by omega), hports, hpeer,
    hget (20 + 13) (by omega)]
  by_cases hchecked : Checked w.tcp bs
  · rw [if_pos hchecked, if_neg (not_not.mpr hchecked.version),
      if_neg (not_not.mpr hchecked.protocol),
      if_neg (not_not.mpr hchecked.ports)]
    by_cases hrst : bs.getD 33 0 &&& TCP_RST = 0
    · rw [if_neg (not_not.mpr hrst), if_pos hrst]
    · rw [if_pos hrst, if_neg hrst]
  · rw [if_neg hchecked]
    split_ifs with hversion hprotocol hports'
    · rfl
    · rfl
    · rfl
    · exact absurd ⟨by omega, not_not.mp hversion, not_not.mp hprotocol,
        not_not.mp hports'⟩ hchecked
    · exact absurd ⟨by omega, not_not.mp hversion, not_not.mp hprotocol,
        not_not.mp hports'⟩ hchecked

theorem sanityChecks_passes (h : Passes w.tcp bs) :
    sanityChecks P (w.arrive bs line).tcp bs.length = none := by
  rcases passes_iff.mp h with ⟨hchecked, hrst⟩
  rw [sanityChecks_arrive line hfit, if_pos hchecked, if_pos hrst]

theorem tcpInput_unchecked (h : ¬ Checked w.tcp bs) :
    tcpInput P (w.arrive bs line).tcp bs.length =
      ((w.arrive bs line).tcp, .ret (-(P.eagain : Int))) := by
  rw [tcpInput, sanityChecks_arrive line hfit, if_neg h]

theorem tcpInput_reset (h : Checked w.tcp bs)
    (hrst : bs.getD 33 0 &&& TCP_RST ≠ 0) :
    tcpInput P (w.arrive bs line).tcp bs.length =
      ((w.arrive bs line).tcp, .ret (-(ERESET : Int))) := by
  rw [tcpInput, sanityChecks_arrive line hfit, if_pos h, if_neg hrst]

theorem tcpInput_refused (h : ¬ Passes w.tcp bs) :
    exists rc : Int, (rc = -(P.eagain : Int) ∨ rc = -(ERESET : Int)) ∧
      tcpInput P (w.arrive bs line).tcp bs.length =
        ((w.arrive bs line).tcp, .ret rc) := by
  by_cases hchecked : Checked w.tcp bs
  · have hrst : bs.getD 33 0 &&& TCP_RST ≠ 0 :=
      fun hzero => h (passes_iff.mpr ⟨hchecked, hzero⟩)
    exact ⟨_, Or.inr rfl, tcpInput_reset line hfit hchecked hrst⟩
  · exact ⟨_, Or.inl rfl, tcpInput_unchecked line hfit hchecked⟩

end Arrival

/-!
## Established connections
-/

/-- A zero window probe: no data, one number before the next one expected. -/
def IsProbe (tcp : TcpContext) (bs : List UInt8) : Prop :=
  packetSeq bs + 1 = tcp.ack ∧ bs.length = 20 + packetHeaderSize bs

/-- The packet reaches past its headers. -/
def CarriesData (bs : List UInt8) : Prop :=
  20 + packetHeaderSize bs < bs.length

instance (tcp : TcpContext) (bs : List UInt8) : Decidable (IsProbe tcp bs) :=
  inferInstanceAs (Decidable (_ ∧ _))

instance (bs : List UInt8) : Decidable (CarriesData bs) :=
  inferInstanceAs (Decidable (_ < _))

/-- `tcp_recv_timeout` takes over the acknowledgement number of the packet. -/
def TakenIn (tcp : TcpContext) (bs : List UInt8) : Prop :=
  Passes tcp bs ∧ ¬ IsProbe tcp bs

/-- The packet has data that has not been received before. -/
def FreshData (tcp : TcpContext) (bs : List UInt8) : Prop :=
  CarriesData bs ∧ ¬ packetSeq bs < tcp.ack

/-- The connection once the headers of `bs` have been read and its
acknowledgement number has been taken over. -/
def World.opened (w : World σ) (bs : List UInt8) (line : σ) : TcpContext :=
  advanceSeq (readHeaderSize (w.arrive bs line).tcp)

section Established

variable {w : World σ} {bs : List UInt8} (line : σ)
  (hfit : bs.length ≤ w.tcp.ip.pktSize.toNat) (hconn : 1 < w.tcp.seq)

include hfit

theorem readHeaderSize_ths (hlong : 40 ≤ bs.length) :
    (readHeaderSize (w.arrive bs line).tcp).ths.toNat =
      packetHeaderSize bs := by
  show ((w.arrive bs line).tcp.ip.pkt.get (20 + 12) >>> 2).toNat = _
  rw [get_arrive line hfit (by omega)]
  rfl

theorem opened_ths (hlong : 40 ≤ bs.length) :
    (w.opened bs line).ths.toNat = packetHeaderSize bs := by
  rw [World.opened, advanceSeq_ths, readHeaderSize_ths line hfit hlong]

/-- The sequence number moves to the acknowledgement number if that is larger
as a number. -/
theorem opened_seq (hlong : 40 ≤ bs.length) :
    (w.opened bs line).seq.toNat =
      max w.tcp.seq.toNat (packetAck bs).toNat := by
  have hack : headerAck (readHeaderSize (w.arrive bs line).tcp) =
      packetAck bs := by
    rw [headerAck_readHeaderSize, headerAck_arrive line hfit hlong]
  have hseq : (w.arrive bs line).tcp.seq = w.tcp.seq := rfl
  rw [World.opened, advanceSeq_seq, readHeaderSize_seq, hack, hseq]
  split
  case isTrue hlt =>
    exact (Nat.max_eq_right (Nat.le_of_lt (UInt32.lt_iff_toNat_lt.mp hlt))).symm
  case isFalse hge =>
    exact (Nat.max_eq_left (UInt32.not_lt.mp hge)).symm

/-- What accepted data makes of the connection. -/
theorem acceptData_opened_ack (hlong : 40 ≤ bs.length) :
    (acceptData (w.opened bs line) bs.length).ack =
      if 40 < bs.length then
        packetSeq bs + UInt32.ofNat (bs.length - 20 - packetHeaderSize bs)
      else packetSeq bs := by
  have hseq : headerSeq (w.opened bs line) = packetSeq bs := by
    rw [World.opened, headerSeq_advanceSeq, headerSeq_readHeaderSize,
      headerSeq_arrive line hfit hlong]
  rw [acceptData_ack, opened_ths line hfit hlong, hseq]

include hconn

theorem tcpInput_connected (h : Passes w.tcp bs) :
    tcpInput P (w.arrive bs line).tcp bs.length =
      connectedInput (readHeaderSize (w.arrive bs line).tcp) bs.length := by
  have hne : (w.arrive bs line).tcp.seq ≠ 1 := by
    intro hone
    rw [show w.tcp.seq = 1 from hone] at hconn
    exact absurd hconn (by decide)
  rw [tcpInput, sanityChecks_passes line hfit h]
  simp only
  rw [if_neg hne]

theorem tcpInput_probe (h : Passes w.tcp bs) (hprobe : IsProbe w.tcp bs) :
    tcpInput P (w.arrive bs line).tcp bs.length =
      (readHeaderSize (w.arrive bs line).tcp, .again) := by
  rw [tcpInput_connected line hfit hconn h, connectedInput, if_pos]
  rw [readHeaderSize_ths line hfit h.long]
  exact ⟨headerSeq_arrive line hfit h.long ▸ hprobe.left, hprobe.right⟩

theorem tcpInput_not_probe (h : Passes w.tcp bs)
    (hprobe : ¬ IsProbe w.tcp bs) :
    tcpInput P (w.arrive bs line).tcp bs.length =
      if CarriesData bs then
        if packetSeq bs < w.tcp.ack then (w.opened bs line, .ret 0)
        else (acceptData (w.opened bs line) bs.length, .ackData)
      else
        (w.opened bs line,
          .ret ((bs.length : Int) - 20 - packetHeaderSize bs)) := by
  have hths := readHeaderSize_ths line hfit h.long
  have hseq : headerSeq (readHeaderSize (w.arrive bs line).tcp) =
      packetSeq bs := by
    rw [headerSeq_readHeaderSize, headerSeq_arrive line hfit h.long]
  have hack : (readHeaderSize (w.arrive bs line).tcp).ack = w.tcp.ack := rfl
  have hno : ¬ (packetSeq bs + 1 = w.tcp.ack ∧
      bs.length = 20 + packetHeaderSize bs) :=
    hprobe
  rw [tcpInput_connected line hfit hconn h, connectedInput, hths, hseq, hack,
    if_neg hno]
  rfl

end Established

end Tcp
end Z80Tcpip
