import Z80Tcpip.Tcp.Input
import Z80Tcpip.Tcp.SentSegments

/-!
# Receiving on an established connection

`tcp_recv_timeout(tcp, 0, to)` as a set of rules: what the packets that
`recv_packet` hands over do to an established connection, one rule for every
way out of the function.  The fuel is gone; a call with enough of it follows the
rules.
-/

namespace Z80Tcpip
namespace Tcp

open Foundation
open Ip

variable {P : Platform} {σ : Type}

/-!
## The rules
-/

/-- The world once the header size of `bs` has been noted. -/
def World.noted (w : World σ) (bs : List UInt8) (line : σ) : World σ :=
  { w.arrive bs line with tcp := readHeaderSize (w.arrive bs line).tcp }

/-- The world once the acknowledgement number of `bs` has been taken over. -/
def World.acked (w : World σ) (bs : List UInt8) (line : σ) : World σ :=
  { w.arrive bs line with tcp := w.opened bs line }

/-- The world once the data of `bs` has been accepted, -/
def World.accepted (w : World σ) (bs : List UInt8) (line : σ) : World σ :=
  { w.arrive bs line with tcp := acceptData (w.opened bs line) bs.length }

/-- and acknowledged. -/
def World.accept (w : World σ) (bs : List UInt8) (line : σ) : World σ :=
  (w.accepted bs line).transmit 0 none 0

/-- `recv_packet` stores the packet `bs`. -/
def Delivers (L : Link P σ) (timeout : Int16) (w : World σ)
    (bs : List UInt8) (line : σ) : Prop :=
  bs.length ≤ w.tcp.ip.pktSize.toNat ∧
    L.recvPacket w.tcp.ip.pkt timeout w.line =
      some ((bs.length : Int), w.tcp.ip.pkt.write 0 bs, line)

inductive Received (L : Link P σ) (timeout : Int16) :
    World σ -> Int -> World σ -> Prop
  | idle {w : World σ} {line : σ}
      (hrecv : L.recvPacket w.tcp.ip.pkt timeout w.line =
        some (-(P.eagain : Int), w.tcp.ip.pkt, line)) :
      Received L timeout w (-(P.eagain : Int))
        (w.received w.tcp.ip.pkt line)
  | refused {w : World σ} {bs : List UInt8} {line : σ} {rc : Int}
      (hrecv : Delivers L timeout w bs line) (hbad : ¬ Passes w.tcp bs)
      (hrc : rc = -(P.eagain : Int) ∨ rc = -(ERESET : Int)) :
      Received L timeout w rc (w.arrive bs line)
  | probe {w w' : World σ} {bs : List UInt8} {line : σ} {rc : Int}
      (hrecv : Delivers L timeout w bs line) (hpass : Passes w.tcp bs)
      (hprobe : IsProbe w.tcp bs)
      (hmore : Received L timeout (w.noted bs line) rc w') :
      Received L timeout w rc w'
  | bare {w : World σ} {bs : List UInt8} {line : σ}
      (hrecv : Delivers L timeout w bs line) (hpass : Passes w.tcp bs)
      (hprobe : ¬ IsProbe w.tcp bs) (hdata : ¬ CarriesData bs) :
      Received L timeout w ((bs.length : Int) - 20 - packetHeaderSize bs)
        (w.acked bs line)
  | old {w : World σ} {bs : List UInt8} {line : σ}
      (hrecv : Delivers L timeout w bs line) (hpass : Passes w.tcp bs)
      (hprobe : ¬ IsProbe w.tcp bs) (hdata : CarriesData bs)
      (hseq : packetSeq bs < w.tcp.ack) :
      Received L timeout w 0 (w.acked bs line)
  | fresh {w : World σ} {bs : List UInt8} {line : σ}
      (hrecv : Delivers L timeout w bs line) (hpass : Passes w.tcp bs)
      (hprobe : ¬ IsProbe w.tcp bs) (hdata : CarriesData bs)
      (hseq : ¬ packetSeq bs < w.tcp.ack) :
      Received L timeout w ((bs.length : Int) - 20 - packetHeaderSize bs)
        (w.accept bs line)

/-!
## One packet at a time
-/

theorem Delivers.unique {L : Link P σ} {timeout : Int16} {w : World σ}
    {bs bs' : List UInt8} {line line' : σ} (h : Delivers L timeout w bs line)
    (h' : Delivers L timeout w bs' line') : bs' = bs ∧ line' = line := by
  rcases h with ⟨hfit, hrecv⟩
  have hsame := hrecv.symm.trans h'.right
  simp only [Option.some.injEq, Prod.mk.injEq] at hsame
  rcases hsame with ⟨hlen, hpkt, hline⟩
  exact ⟨Buffer.write_front_inj (by omega) hfit hpkt.symm, hline.symm⟩

theorem Delivers.not_idle {L : Link P σ} {timeout : Int16} {w : World σ}
    {bs : List UInt8} {line line' : σ} (h : Delivers L timeout w bs line) :
    L.recvPacket w.tcp.ip.pkt timeout w.line ≠
      some (-(P.eagain : Int), w.tcp.ip.pkt, line') := by
  intro hidle
  have heagain := P.eagain_pos
  have hsame := h.right.symm.trans hidle
  simp only [Option.some.injEq, Prod.mk.injEq] at hsame
  omega

/-!
## Established connections stay established
-/

theorem one_lt_of_two_le {n : UInt32} (h : 2 ≤ n) : 1 < n :=
  UInt32.lt_iff_toNat_lt.mpr (UInt32.le_iff_toNat_le.mp h)

theorem one_lt_opened_seq {w : World σ} (bs : List UInt8) (line : σ)
    (hconn : 1 < w.tcp.seq) : 1 < (w.opened bs line).seq := by
  have hseq : (w.arrive bs line).tcp.seq = w.tcp.seq := rfl
  rw [World.opened, advanceSeq_seq, readHeaderSize_seq, hseq]
  split
  case isTrue hlt => exact UInt32.lt_trans hconn hlt
  case isFalse => exact hconn

theorem one_lt_acked_seq {w : World σ} (bs : List UInt8) (line : σ)
    (hconn : 1 < w.tcp.seq) : 1 < (w.acked bs line).tcp.seq := by
  rw [World.acked]
  exact one_lt_opened_seq bs line hconn

theorem one_lt_accepted_seq {w : World σ} (bs : List UInt8) (line : σ)
    (hconn : 1 < w.tcp.seq) : 1 < (w.accepted bs line).tcp.seq := by
  rw [World.accepted, acceptData_seq]
  exact one_lt_opened_seq bs line hconn

theorem one_lt_accept_seq {w : World σ} (bs : List UInt8) (line : σ)
    (hconn : 1 < w.tcp.seq) : 1 < (w.accept bs line).tcp.seq := by
  rw [World.accept, World.transmit_seq]
  exact one_lt_accepted_seq bs line hconn

theorem acked_ip (w : World σ) (bs : List UInt8) (line : σ) :
    (w.acked bs line).tcp.ip = (w.arrive bs line).tcp.ip := rfl

@[simp] theorem acked_ack (w : World σ) (bs : List UInt8) (line : σ) :
    (w.acked bs line).tcp.ack = w.tcp.ack := rfl

@[simp] theorem acked_line (w : World σ) (bs : List UInt8) (line : σ) :
    (w.acked bs line).line = line := rfl

@[simp] theorem accept_line (w : World σ) (bs : List UInt8) (line : σ) :
    (w.accept bs line).line = line := rfl

/-- A bare acknowledgement is sent without waiting. -/
theorem tcpSend_ack_returns (L : Link P σ) (fuel : Nat) {w : World σ}
    (window : UInt16) (hconn : 1 < w.tcp.seq) :
    tcpSend L (fuel + 2) w 0 none window =
      (some 0, w.transmit 0 none window) := by
  have hdone : 1 < (w.transmit 0 none window).tcp.seq ∧ 0 = 0 := ⟨hconn, rfl⟩
  rw [tcpSend, tcpSendAgain]
  exact if_pos hdone

theorem tcpSend_ack {L : Link P σ} {fuel : Nat} {w w' : World σ} {rc : Int}
    {window : UInt16} (hconn : 1 < w.tcp.seq)
    (h : tcpSend L fuel w 0 none window = (some rc, w')) :
    w' = w.transmit 0 none window := by
  match fuel with
  | 0 => cases h
  | 1 => cases h
  | fuel + 2 =>
      rw [tcpSend_ack_returns L fuel window hconn] at h
      exact (Prod.mk.inj h).right.symm

/-!
## The function follows the rules
-/

theorem tcpRecvAgain_idle {L : Link P σ} {timeout : Int16} (fuel : Nat)
    {w : World σ} {line : σ}
    (hrecv : L.recvPacket w.tcp.ip.pkt timeout w.line =
      some (-(P.eagain : Int), w.tcp.ip.pkt, line)) :
    tcpRecvAgain L (fuel + 1) w timeout =
      (some (-(P.eagain : Int)), w.received w.tcp.ip.pkt line) := by
  have heagain := P.eagain_pos
  have hneg : -(P.eagain : Int) < 0 := by
    omega
  rw [tcpRecvAgain, hrecv]
  simp only [if_pos hneg]

/-- The end of `tcp_recv_timeout`, once the packet has been looked at. -/
def tcpRecvAction (L : Link P σ) (fuel : Nat) (timeout : Int16) (len : Nat)
    (w : World σ) : Action -> Option Int × World σ
  | .ret rc => (some rc, w)
  | .again => tcpRecvAgain L fuel w timeout
  | .ackSyn =>
      match tcpSend L fuel w 0 none 0 with
      | (none, w) => (none, w)
      | (some _, w) => (some 0, w)
  | .ackData =>
      match tcpSend L fuel w 0 none 0 with
      | (none, w) => (none, w)
      | (some _, w) => (some ((len : Int) - 20 - w.tcp.ths.toNat), w)

theorem tcpRecvAgain_packet {L : Link P σ} {timeout : Int16} (fuel : Nat)
    {w : World σ} {bs : List UInt8} {line : σ} {tcp : TcpContext}
    {action : Action} (hrecv : Delivers L timeout w bs line)
    (hinput : tcpInput P (w.arrive bs line).tcp bs.length = (tcp, action)) :
    tcpRecvAgain L (fuel + 1) w timeout =
      tcpRecvAction L fuel timeout bs.length
        { w.arrive bs line with tcp := tcp } action := by
  have hnonneg : ¬ (bs.length : Int) < 0 := by
    omega
  have hsame : tcpInput P
      (w.received (w.tcp.ip.pkt.write 0 bs) line).tcp bs.length =
        (tcp, action) :=
    hinput
  rw [tcpRecvAgain, hrecv.right]
  simp only [if_neg hnonneg, Int.toNat_natCast, hsame]
  cases action <;> rfl

theorem tcpRecvAction_ackData (L : Link P σ) (fuel : Nat) (timeout : Int16)
    (len : Nat) {w : World σ} (hconn : 1 < w.tcp.seq) :
    tcpRecvAction L (fuel + 2) timeout len w .ackData =
      (some ((len : Int) - 20 - w.tcp.ths.toNat), w.transmit 0 none 0) := by
  rw [tcpRecvAction, tcpSend_ack_returns L fuel 0 hconn]
  rfl

theorem tcpRecvAction_ackSyn (L : Link P σ) (fuel : Nat) (timeout : Int16)
    (len : Nat) {w : World σ} (hconn : 1 < w.tcp.seq) :
    tcpRecvAction L (fuel + 2) timeout len w .ackSyn =
      (some 0, w.transmit 0 none 0) := by
  rw [tcpRecvAction, tcpSend_ack_returns L fuel 0 hconn]

theorem accepted_ths {w : World σ} {bs : List UInt8} (line : σ)
    (hfit : bs.length ≤ w.tcp.ip.pktSize.toNat) (hlong : 40 ≤ bs.length) :
    (w.accepted bs line).tcp.ths.toNat = packetHeaderSize bs := by
  rw [World.accepted, acceptData_ths, opened_ths line hfit hlong]

theorem accept_ths {w : World σ} {bs : List UInt8} (line : σ)
    (hfit : bs.length ≤ w.tcp.ip.pktSize.toNat) (hlong : 40 ≤ bs.length) :
    (w.accept bs line).tcp.ths.toNat = packetHeaderSize bs := by
  rw [World.accept, World.transmit_ths, accepted_ths line hfit hlong]

/-- Behind the headers the buffer still holds the data that was accepted. -/
theorem accept_rxBuffer {w : World σ} {bs : List UInt8} (line : σ)
    (hfit : bs.length ≤ w.tcp.ip.pktSize.toNat) (hlong : 40 ≤ bs.length)
    (hheader : 20 ≤ packetHeaderSize bs) :
    tcpRxBuffer (w.accept bs line).tcp
        (bs.length - (20 + packetHeaderSize bs)) = packetPayload bs := by
  have hsize : 40 + 0 ≤ (w.accepted bs line).tcp.ip.pktSize.toNat := by
    show 40 + 0 ≤ w.tcp.ip.pktSize.toNat
    omega
  have hafter : (w.accept bs line).tcp.ip.pkt.slice
      (20 + packetHeaderSize bs) (bs.length - (20 + packetHeaderSize bs)) =
        (w.arrive bs line).tcp.ip.pkt.slice (20 + packetHeaderSize bs)
          (bs.length - (20 + packetHeaderSize bs)) :=
    tcpTransmit_after (w.accepted bs line).tcp none 0 hsize (by omega)
  rw [tcpRxBuffer, accept_ths line hfit hlong, hafter]
  by_cases hroom : 20 + packetHeaderSize bs ≤ bs.length
  · rw [slice_arrive line hfit (by omega), field, packetPayload]
    exact List.take_of_length_le (by rw [List.length_drop])
  · rw [Nat.sub_eq_zero_of_le (by omega), packetPayload,
      List.drop_eq_nil_of_le (by omega)]
    exact List.take_zero

theorem accept_ack {w : World σ} {bs : List UInt8} (line : σ)
    (hfit : bs.length ≤ w.tcp.ip.pktSize.toNat) (hlong : 40 < bs.length) :
    (w.accept bs line).tcp.ack =
      packetSeq bs +
        UInt32.ofNat (bs.length - 20 - packetHeaderSize bs) := by
  rw [World.accept, World.transmit_ack, World.accepted,
    acceptData_opened_ack line hfit (by omega), if_pos hlong]

/-- What one turn of `tcp_recv_timeout` makes of what `recv_packet` hands over;
`more` is how it goes on behind a zero window probe. -/
inductive RecvCase (L : Link P σ) (timeout : Int16)
    (more : World σ -> Int -> World σ -> Prop) (w : World σ) :
    Int -> World σ -> Prop
  | idle {line : σ}
      (hrecv : L.recvPacket w.tcp.ip.pkt timeout w.line =
        some (-(P.eagain : Int), w.tcp.ip.pkt, line)) :
      RecvCase L timeout more w (-(P.eagain : Int))
        (w.received w.tcp.ip.pkt line)
  | unchecked {bs : List UInt8} {line : σ}
      (hrecv : Delivers L timeout w bs line) (hbad : ¬ Checked w.tcp bs) :
      RecvCase L timeout more w (-(P.eagain : Int)) (w.arrive bs line)
  | reset {bs : List UInt8} {line : σ}
      (hrecv : Delivers L timeout w bs line) (hchecked : Checked w.tcp bs)
      (hrst : bs.getD 33 0 &&& TCP_RST ≠ 0) :
      RecvCase L timeout more w (-(ERESET : Int)) (w.arrive bs line)
  | probe {w' : World σ} {bs : List UInt8} {line : σ} {rc : Int}
      (hrecv : Delivers L timeout w bs line) (hpass : Passes w.tcp bs)
      (hprobe : IsProbe w.tcp bs) (hmore : more (w.noted bs line) rc w') :
      RecvCase L timeout more w rc w'
  | bare {bs : List UInt8} {line : σ}
      (hrecv : Delivers L timeout w bs line) (htaken : TakenIn w.tcp bs)
      (hdata : ¬ CarriesData bs) :
      RecvCase L timeout more w
        ((bs.length : Int) - 20 - packetHeaderSize bs) (w.acked bs line)
  | old {bs : List UInt8} {line : σ}
      (hrecv : Delivers L timeout w bs line) (htaken : TakenIn w.tcp bs)
      (hdata : CarriesData bs) (hseq : packetSeq bs < w.tcp.ack) :
      RecvCase L timeout more w 0 (w.acked bs line)
  | fresh {bs : List UInt8} {line : σ}
      (hrecv : Delivers L timeout w bs line) (htaken : TakenIn w.tcp bs)
      (hfresh : FreshData w.tcp bs) :
      RecvCase L timeout more w
        ((bs.length : Int) - 20 - packetHeaderSize bs) (w.accept bs line)

theorem recvCase {L : Link P σ} {timeout : Int16} {fuel : Nat}
    {w w' : World σ} {rc : Int} (hconn : 1 < w.tcp.seq)
    (h : tcpRecvAgain L (fuel + 1) w timeout = (some rc, w')) :
    RecvCase L timeout
      (fun w1 rc w' => tcpRecvAgain L fuel w1 timeout = (some rc, w'))
      w rc w' := by
  rcases hrecv : L.recvPacket w.tcp.ip.pkt timeout w.line with
    _ | ⟨len, pkt, line⟩
  · rw [tcpRecvAgain, hrecv] at h
    cases h
  · rcases L.recvPacket_spec hrecv with
      ⟨hlen, hpkt⟩ | ⟨bs, hfit, hlen, hpkt⟩
    · subst hlen hpkt
      rw [tcpRecvAgain_idle fuel hrecv] at h
      cases h
      exact .idle hrecv
    · subst hlen hpkt
      have hdeliver : Delivers L timeout w bs line := ⟨hfit, hrecv⟩
      by_cases hchecked : Checked w.tcp bs
      · by_cases hrst : bs.getD 33 0 &&& TCP_RST = 0
        · have hpass := passes_iff.mpr ⟨hchecked, hrst⟩
          by_cases hprobe : IsProbe w.tcp bs
          · rw [tcpRecvAgain_packet fuel hdeliver
              (tcpInput_probe (P := P) line hfit hconn hpass hprobe)] at h
            exact .probe hdeliver hpass hprobe h
          · have hinput :=
              tcpInput_not_probe (P := P) line hfit hconn hpass hprobe
            split_ifs at hinput with hdata hseq
            · rw [tcpRecvAgain_packet fuel hdeliver hinput] at h
              cases h
              exact .old hdeliver ⟨hpass, hprobe⟩ hdata hseq
            · have hconn' : 1 < (w.accepted bs line).tcp.seq :=
                one_lt_accepted_seq bs line hconn
              rw [tcpRecvAgain_packet fuel hdeliver hinput,
                tcpRecvAction] at h
              change (match tcpSend L fuel (w.accepted bs line) 0 none 0 with
                | (none, w) => _
                | (some _, w) => _) = _ at h
              rcases hsend : tcpSend L fuel (w.accepted bs line) 0 none 0 with
                ⟨_ | rc', w''⟩
              · rw [hsend] at h
                cases h
              · have hworld : w'' = w.accept bs line := tcpSend_ack hconn' hsend
                rw [hsend, hworld] at h
                simp only [accept_ths line hfit hpass.long] at h
                cases h
                exact .fresh hdeliver ⟨hpass, hprobe⟩ ⟨hdata, hseq⟩
            · rw [tcpRecvAgain_packet fuel hdeliver hinput] at h
              cases h
              exact .bare hdeliver ⟨hpass, hprobe⟩ hdata
        · rw [tcpRecvAgain_packet fuel hdeliver
            (tcpInput_reset (P := P) line hfit hchecked hrst)] at h
          cases h
          exact .reset hdeliver hchecked hrst
      · rw [tcpRecvAgain_packet fuel hdeliver
          (tcpInput_unchecked (P := P) line hfit hchecked)] at h
        cases h
        exact .unchecked hdeliver hchecked

theorem received_of_tcpRecvAgain {L : Link P σ} {timeout : Int16}
    {fuel : Nat} {w w' : World σ} {rc : Int} (hconn : 1 < w.tcp.seq)
    (h : tcpRecvAgain L fuel w timeout = (some rc, w')) :
    Received L timeout w rc w' := by
  induction fuel generalizing w with
  | zero => cases h
  | succ fuel ih =>
      cases recvCase hconn h with
      | idle hrecv => exact .idle hrecv
      | unchecked hrecv hbad =>
          exact .refused hrecv (fun hpass => hbad (passes_iff.mp hpass).left)
            (Or.inl rfl)
      | reset hrecv _ hrst =>
          exact .refused hrecv (fun hpass => hrst hpass.no_rst) (Or.inr rfl)
      | probe hrecv hpass hprobe hmore =>
          exact .probe hrecv hpass hprobe (ih hconn hmore)
      | bare hrecv htaken hdata =>
          exact .bare hrecv htaken.left htaken.right hdata
      | old hrecv htaken hdata hseq =>
          exact .old hrecv htaken.left htaken.right hdata hseq
      | fresh hrecv htaken hfresh =>
          exact .fresh hrecv htaken.left htaken.right hfresh.left hfresh.right

/-- The world once `tcp_recv_timeout` has opened the window. -/
def World.openWindow (w : World σ) (len : UInt16) : World σ :=
  if clampLen w.tcp len ≠ 0 then w.transmit 0 none (clampLen w.tcp len) else w

@[simp] theorem openWindow_zero (w : World σ) : w.openWindow 0 = w := by
  rw [World.openWindow, clampLen_zero, if_neg (fun hne => hne rfl)]

/-- Opening the window touches the packet buffer and the IP id only. -/
theorem openWindow_same (w : World σ) (len : UInt16) :
    SameSession w.tcp (w.openWindow len).tcp ∧
      (w.openWindow len).tcp.seq = w.tcp.seq ∧
      (w.openWindow len).tcp.ack = w.tcp.ack ∧
      (w.openWindow len).line = w.line := by
  rw [World.openWindow]
  split_ifs
  · exact ⟨⟨rfl, rfl, rfl, rfl, rfl⟩, rfl, rfl, rfl⟩
  · exact ⟨SameSession.refl w.tcp, rfl, rfl, rfl⟩

theorem tcpRecvTimeout_openWindow (L : Link P σ) (fuel : Nat) {w : World σ}
    (len : UInt16) (timeout : Int16) (hconn : 1 < w.tcp.seq) :
    tcpRecvTimeout L (fuel + 3) w len timeout =
      tcpRecvAgain L (fuel + 2) (w.openWindow len) timeout := by
  rw [tcpRecvTimeout, World.openWindow]
  split_ifs
  · rw [tcpSend_ack_returns L fuel _ hconn]
  · rfl

/-- A call that returns went by the rules. -/
theorem received_of_openWindow {L : Link P σ} {timeout : Int16} {fuel : Nat}
    {w w' : World σ} {len : UInt16} {rc : Int} (hconn : 1 < w.tcp.seq)
    (h : tcpRecvTimeout L fuel w len timeout = (some rc, w')) :
    Received L timeout (w.openWindow len) rc w' := by
  have hconn' : 1 < (w.openWindow len).tcp.seq := by
    rwa [(openWindow_same w len).right.left]
  cases fuel with
  | zero => cases h
  | succ fuel =>
      rw [tcpRecvTimeout] at h
      rw [World.openWindow] at hconn' ⊢
      split_ifs at h hconn' ⊢
      · rcases hsend : tcpSend L fuel w 0 none (clampLen w.tcp len) with
          ⟨_ | rc', w1⟩
        · rw [hsend] at h
          cases h
        · rw [hsend, tcpSend_ack hconn hsend] at h
          exact received_of_tcpRecvAgain hconn' h
      · exact received_of_tcpRecvAgain hconn' h

theorem received_of_tcpRecvTimeout {L : Link P σ} {timeout : Int16}
    {fuel : Nat} {w w' : World σ} {rc : Int} (hconn : 1 < w.tcp.seq)
    (h : tcpRecvTimeout L fuel w 0 timeout = (some rc, w')) :
    Received L timeout w rc w' := by
  have hreceived := received_of_openWindow hconn h
  rwa [openWindow_zero] at hreceived

/-!
## What a call leaves alone
-/

theorem acked_sameSession (w : World σ) (bs : List UInt8) (line : σ) :
    SameSession w.tcp (w.acked bs line).tcp :=
  advanceSeq_sameSession (readHeaderSize (w.arrive bs line).tcp)

theorem accept_sameSession (w : World σ) (bs : List UInt8) (line : σ) :
    SameSession w.tcp (w.accept bs line).tcp :=
  acceptData_sameSession (w.opened bs line) bs.length

theorem Received.sameSession {L : Link P σ} {timeout : Int16} {w w' : World σ}
    {rc : Int} (h : Received L timeout w rc w') :
    SameSession w.tcp w'.tcp := by
  induction h with
  | idle => exact SameSession.refl _
  | refused => exact SameSession.refl _
  | probe _ _ _ _ ih => exact ih
  | bare => exact acked_sameSession _ _ _
  | old => exact acked_sameSession _ _ _
  | fresh => exact accept_sameSession _ _ _

theorem Received.connected {L : Link P σ} {timeout : Int16} {w w' : World σ}
    {rc : Int} (h : Received L timeout w rc w') (hconn : 1 < w.tcp.seq) :
    1 < w'.tcp.seq := by
  induction h with
  | idle => exact hconn
  | refused => exact hconn
  | probe _ _ _ _ ih => exact ih hconn
  | bare => exact one_lt_acked_seq _ _ hconn
  | old => exact one_lt_acked_seq _ _ hconn
  | fresh => exact one_lt_accept_seq _ _ hconn

theorem peerPorts_of_sameSession {tcp tcp' : TcpContext}
    (h : SameSession tcp tcp') : peerPorts tcp' = peerPorts tcp := by
  rcases h with ⟨_, _, _, hdst, hsrc⟩
  rw [peerPorts, peerPorts, hdst, hsrc]

theorem Checked.sameSession {tcp tcp' : TcpContext} {bs : List UInt8}
    (h : SameSession tcp tcp') : Checked tcp' bs <-> Checked tcp bs := by
  have hports := peerPorts_of_sameSession h
  constructor
  · intro hc
    exact ⟨hc.long, hc.version, hc.protocol, hc.ports.trans hports⟩
  · intro hc
    exact ⟨hc.long, hc.version, hc.protocol, hc.ports.trans hports.symm⟩

theorem Passes.sameSession {tcp tcp' : TcpContext} {bs : List UInt8}
    (h : SameSession tcp tcp') : Passes tcp' bs <-> Passes tcp bs := by
  rw [passes_iff, passes_iff, Checked.sameSession h]

/-!
## Calls that return
-/

/-- A call that is handed a packet other than a probe returns. -/
theorem tcpRecvAgain_returns {L : Link P σ} {timeout : Int16} (fuel : Nat)
    {w : World σ} {bs : List UInt8} {line : σ} (hconn : 1 < w.tcp.seq)
    (hrecv : Delivers L timeout w bs line)
    (hstop : Passes w.tcp bs -> ¬ IsProbe w.tcp bs) :
    exists (rc : Int) (w' : World σ),
      tcpRecvAgain L (fuel + 3) w timeout = (some rc, w') := by
  have hfit := hrecv.left
  by_cases hpass : Passes w.tcp bs
  · have hinput :=
      tcpInput_not_probe (P := P) line hfit hconn hpass (hstop hpass)
    split_ifs at hinput
    · rw [tcpRecvAgain_packet (fuel + 2) hrecv hinput]
      exact ⟨_, _, rfl⟩
    · have hend := tcpRecvAction_ackData L fuel timeout bs.length
        (one_lt_accepted_seq bs line hconn)
      rw [tcpRecvAgain_packet (fuel + 2) hrecv hinput]
      exact ⟨_, _, hend⟩
    · rw [tcpRecvAgain_packet (fuel + 2) hrecv hinput]
      exact ⟨_, _, rfl⟩
  · rcases tcpInput_refused (P := P) line hfit hpass with ⟨rc, _, hinput⟩
    rw [tcpRecvAgain_packet (fuel + 2) hrecv hinput]
    exact ⟨_, _, rfl⟩

theorem CarriesData.not_probe {tcp : TcpContext} {bs : List UInt8}
    (h : CarriesData bs) : ¬ IsProbe tcp bs := by
  intro hprobe
  unfold CarriesData at h
  have hlen := hprobe.right
  omega

section Data

variable {L : Link P σ} (timeout : Int16) (fuel : Nat) {w : World σ}
  {bs : List UInt8} {line : σ} (hconn : 1 < w.tcp.seq)
  (hrecv : Delivers L timeout w bs line) (hpass : Passes w.tcp bs)
  (hdata : CarriesData bs)

include hconn hrecv hpass hdata

/-- A call that is handed data from `tcp->ack` on, or from beyond it. -/
theorem tcpRecvAgain_fresh (hseq : ¬ packetSeq bs < w.tcp.ack) :
    tcpRecvAgain L (fuel + 3) w timeout =
      (some ((bs.length : Int) - 20 - packetHeaderSize bs),
        w.accept bs line) := by
  have hinput := tcpInput_not_probe (P := P) line hrecv.left hconn hpass
    hdata.not_probe
  rw [if_pos hdata, if_neg hseq] at hinput
  have hend := tcpRecvAction_ackData L fuel timeout bs.length
    (one_lt_accepted_seq bs line hconn)
  rw [accepted_ths line hrecv.left hpass.long] at hend
  rw [tcpRecvAgain_packet (fuel + 2) hrecv hinput]
  exact hend

theorem tcpRecvTimeout_fresh (hseq : ¬ packetSeq bs < w.tcp.ack) :
    tcpRecvTimeout L (fuel + 4) w 0 timeout =
      (some ((bs.length : Int) - 20 - packetHeaderSize bs),
        w.accept bs line) := by
  rw [tcpRecvTimeout_openWindow L (fuel + 1) 0 timeout hconn, openWindow_zero]
  exact tcpRecvAgain_fresh timeout fuel hconn hrecv hpass hdata hseq

/-- A call that is handed data from before `tcp->ack`. -/
theorem tcpRecvAgain_old (hseq : packetSeq bs < w.tcp.ack) :
    tcpRecvAgain L (fuel + 3) w timeout = (some 0, w.acked bs line) := by
  have hinput := tcpInput_not_probe (P := P) line hrecv.left hconn hpass
    hdata.not_probe
  rw [if_pos hdata, if_pos hseq] at hinput
  rw [tcpRecvAgain_packet (fuel + 2) hrecv hinput]
  rfl

end Data

end Tcp
end Z80Tcpip
