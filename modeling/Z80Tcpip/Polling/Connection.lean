import Z80Tcpip.Client.Session
import Z80Tcpip.Tcp.Runs

/-!
# The connection under a client

What the calls that a client makes of the stack transmit on an established
connection.  A call that opens or closes the window sends one segment; receiving
sends a segment only when it returns data.
-/

namespace Z80Tcpip
namespace Polling

open Foundation
open Ip
open Tcp
open Client

variable {P : Platform} {σ : Type}

def BUF_SIZE : Nat := 20 + 20 + 512

/-- An established connection over the clients' packet buffer. -/
structure Established (w : World σ) : Prop where
  connected : 1 < w.tcp.seq
  size : w.tcp.ip.pktSize.toNat = BUF_SIZE

/-- The window in the last segment that was transmitted. -/
def advertised (w : World σ) : Nat :=
  match w.sent.getLast? with
  | some t => readBE (field t.packet 34 2)
  | none => 0

theorem Established.of_same {w w' : World σ} (h : Established w)
    (hconn : 1 < w'.tcp.seq) (hsame : SameSession w.tcp w'.tcp) :
    Established w' := by
  refine ⟨hconn, ?_⟩
  rw [hsame.right.right.left]
  exact h.size

/-- The segments of a call carry its own window or a closed one. -/
theorem window_of_sends {w w' : World σ} {r : Request}
    (hsize : w.tcp.ip.pktSize.toNat = BUF_SIZE) (hlen : r.len ≤ 512)
    (h : Sends (OwnOrAck r) w w') {t : Transmission}
    (ht : t ∈ w'.sent.drop w.sent.length) :
    readBE (field t.packet 34 2) = r.window.toNat ∨
      readBE (field t.packet 34 2) = 0 := by
  rcases h with ⟨_, new, hsent, hnew⟩
  rw [hsent, List.drop_left] at ht
  rcases hnew t ht with ⟨hsame, hown, hpacket⟩
  have hbuf : BUF_SIZE = 552 := rfl
  have hroom : 40 + t.request.len ≤ t.tcp.ip.pktSize.toNat := by
    rw [hsame.right.right.left, hsize]
    rcases hown with hr | hr
    · rw [hr]
      omega
    · rw [hr, show ackRequest.len = 0 from rfl]
      omega
  have hwindow := (validSegment_tcpTransmit t.tcp t.request hroom).window_eq
  rw [← hpacket] at hwindow
  rcases hown with hr | hr
  · exact Or.inl (hwindow.trans (by rw [hr]))
  · exact Or.inr (hwindow.trans (by rw [hr]; rfl))

/-!
## Window updates
-/

theorem Established.transmit {w : World σ} (h : Established w)
    (window : UInt16) : Established (w.transmit 0 none window) :=
  ⟨h.connected, h.size⟩

theorem advertised_transmit {w : World σ} (h : Established w)
    (window : UInt16) :
    advertised (w.transmit 0 none window) = window.toNat := by
  have hroom : 40 + 0 ≤ w.tcp.ip.pktSize.toNat := by
    rw [h.size]
    decide
  have hvalid := validSegment_tcpTransmit w.tcp
    { len := 0, data := none, window := window } hroom
  rw [advertised, World.transmit, List.getLast?_concat]
  exact hvalid.window_eq

/-- `tcp_send(&tcp, 0, NULL, window)` transmits at once. -/
theorem send_nothing {L : Link P σ} {fuel : Nat} {w w' : World σ} {rc : Int}
    {window : UInt16} (hw : Established w)
    (h : (stackNetwork L fuel).send [] window w = (some rc, w')) :
    w' = w.transmit 0 none window :=
  tcpSend_ack hw.connected h

/-!
## Receiving
-/

/-- A call transmits nothing, or it returns data and acknowledges it. -/
theorem received_transmits {L : Link P σ} {timeout : Int16} {w w' : World σ}
    {rc : Int} (h : Received L timeout w rc w') :
    rc ≤ 0 ∧ w'.sent = w.sent ∨
      0 < rc ∧ exists w1 : World σ, w' = w1.transmit 0 none 0 ∧
        SameSession w.tcp w1.tcp ∧ w1.sent = w.sent := by
  induction h with
  | idle =>
      have heagain := P.eagain_pos
      exact Or.inl ⟨by omega, rfl⟩
  | refused _ _ hrc =>
      have heagain := P.eagain_pos
      have hreset : (0 : Int) < ERESET := by
        decide
      exact Or.inl ⟨by omega, rfl⟩
  | probe _ _ _ _ ih => exact ih
  | bare _ _ _ hdata =>
      rw [CarriesData] at hdata
      exact Or.inl ⟨by omega, rfl⟩
  | old => exact Or.inl ⟨Int.le_refl 0, rfl⟩
  | @fresh w bs line _ _ _ hdata =>
      rw [CarriesData] at hdata
      exact Or.inr ⟨by omega, w.accepted bs line, rfl,
        accept_sameSession w bs line, rfl⟩

/-- Data is acknowledged with the window closed; nothing else is answered. -/
theorem recv_transmits {L : Link P σ} {fuel : Nat} {w w' : World σ} {rc : Int}
    (hw : Established w)
    (h : (stackNetwork L fuel).recv w = (some rc, w')) :
    Established w' ∧ (0 < rc -> advertised w' = 0) ∧
      (rc ≤ 0 -> w'.sent = w.sent) := by
  have hreceived := received_of_tcpRecvTimeout hw.connected h
  have hconn := hreceived.connected hw.connected
  refine ⟨hw.of_same hconn hreceived.sameSession, ?_⟩
  rcases received_transmits hreceived with
    ⟨hrc, hsent⟩ | ⟨hrc, w1, rfl, hsame, _⟩
  · exact ⟨fun hpos => absurd hrc (by omega), fun _ => hsent⟩
  · have hw1 : Established w1 := hw.of_same hconn hsame
    exact ⟨fun _ => advertised_transmit hw1 0, fun hle => by omega⟩

/-!
## Sending data
-/

/-- A payload goes out with the window closed, and what is received meanwhile
is acknowledged with the window closed. -/
theorem send_data_transmits {L : Link P σ} {fuel : Nat} {w w' : World σ}
    {rc : Int} {bytes : List UInt8} (hw : Established w)
    (hlen : bytes.length ≤ 512) (hclosed : advertised w = 0)
    (h : (stackNetwork L fuel).send bytes 0 w = (some rc, w')) :
    Established w' ∧ advertised w' = 0 := by
  cases bytes with
  | nil =>
      rw [send_nothing hw h]
      exact ⟨hw.transmit 0, advertised_transmit hw 0⟩
  | cons b rest =>
      have hsend : tcpSend L fuel w (b :: rest).length
          (some ⟨b :: rest, rfl⟩) 0 = (some rc, w') := h
      have hsends := (stackSends L fuel).send w (b :: rest).length
        (some ⟨b :: rest, rfl⟩) 0
      rw [hsend] at hsends
      refine ⟨hw.of_same (tcpSend_established hw.connected hsend)
        hsends.left, ?_⟩
      have hwindow : forall t, t ∈ w'.sent.drop w.sent.length ->
          readBE (field t.packet 34 2) = 0 := by
        intro t ht
        rcases window_of_sends hw.size hlen hsends ht with hown | hack
        · exact hown
        · exact hack
      rcases hsends with ⟨_, new, hsent, _⟩
      rw [hsent, List.drop_left] at hwindow
      rcases List.eq_nil_or_concat new with rfl | ⟨front, t, rfl⟩
      · rw [List.append_nil] at hsent
        rw [advertised, hsent]
        exact hclosed
      · rw [advertised, hsent, List.concat_eq_append, ← List.append_assoc,
          List.getLast?_concat]
        apply hwindow
        rw [List.concat_eq_append]
        exact List.mem_append_right _ (List.mem_singleton_self t)

end Polling
end Z80Tcpip
