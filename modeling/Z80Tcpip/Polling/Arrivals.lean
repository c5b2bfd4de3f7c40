import Z80Tcpip.Polling.Connection
import Z80Tcpip.Tcp.ScriptRuns

/-!
# What the segments of a peer add up to

A peer sends a stream of bytes and then a FIN.  Its segments are lost, reordered
and repeated on their way.  As long as each segment that is taken as new begins
with the next byte, what `tcp_recv_timeout` has returned can be read off the
segments that have been consumed.
-/

namespace Z80Tcpip
namespace Polling

open Foundation
open Tcp
open Client

variable {P : Platform} {σ : Type}

/-!
## Segments of the peer
-/

/-- A packet that arrives, and where in the stream its data stands. -/
structure Arrival where
  packet : List UInt8
  off : Nat

/-- The packets as the link delivers them; `none` is a timeout. -/
def script (arrivals : List (Option Arrival)) : Script :=
  arrivals.map (Option.map Arrival.packet)

/-- The number of the byte behind the first `count` bytes of a stream that
begins with the number that `tcp` expects. -/
def numberAt (tcp : TcpContext) (count : Nat) : UInt32 :=
  tcp.ack + UInt32.ofNat count

/-- A segment of a peer that sends `stream` and then a FIN. -/
structure FromPeer (tcp : TcpContext) (stream : List UInt8) (a : Arrival) :
    Prop where
  header : WellFormedHeader a.packet
  seq_eq : packetSeq a.packet = numberAt tcp a.off
  piece : packetPayload a.packet <+: stream.drop a.off
  fin_last : a.packet.getD 33 0 &&& TCP_FIN ≠ 0 ->
    a.off + (packetPayload a.packet).length = stream.length

/-- What of the packet fits into the buffer. -/
def stored (tcp : TcpContext) (a : Arrival) : List UInt8 :=
  a.packet.take tcp.ip.pktSize.toNat

/-- The segment is taken as new when `ack` is the next number expected. -/
def Takes (tcp : TcpContext) (ack : UInt32) (a : Arrival) : Prop :=
  Passes tcp (stored tcp a) ∧ CarriesData (stored tcp a) ∧
    ¬ packetSeq (stored tcp a) < ack

instance (tcp : TcpContext) (ack : UInt32) (a : Arrival) :
    Decidable (Takes tcp ack a) :=
  inferInstanceAs (Decidable (_ ∧ _ ∧ _))

def takenAfter (tcp : TcpContext) (count : Nat) : Option Arrival -> Nat
  | none => count
  | some a =>
      if Takes tcp (numberAt tcp count) a then
        count + (packetPayload (stored tcp a)).length
      else count

/-- How many bytes have been taken when these packets have been consumed. -/
def taken (tcp : TcpContext) : Nat -> List (Option Arrival) -> Nat
  | count, [] => count
  | count, ev :: rest => taken tcp (takenAfter tcp count ev) rest

/-- If the segment is taken as new, it begins with the next byte. -/
def Next (tcp : TcpContext) (count : Nat) : Option Arrival -> Prop
  | none => True
  | some a => Takes tcp (numberAt tcp count) a -> a.off = count

/-- Each segment that is taken as new begins with the next byte. -/
def InSequence (tcp : TcpContext) : Nat -> List (Option Arrival) -> Prop
  | _, [] => True
  | count, ev :: rest =>
      Next tcp count ev ∧ InSequence tcp (takenAfter tcp count ev) rest

instance (tcp : TcpContext) (count : Nat) (ev : Option Arrival) :
    Decidable (Next tcp count ev) :=
  match ev with
  | none => inferInstanceAs (Decidable True)
  | some _ => inferInstanceAs (Decidable (_ -> _))

instance decidableInSequence (tcp : TcpContext) :
    (count : Nat) -> (arrivals : List (Option Arrival)) ->
      Decidable (InSequence tcp count arrivals)
  | _, [] => inferInstanceAs (Decidable True)
  | count, ev :: rest =>
      have := decidableInSequence tcp (takenAfter tcp count ev) rest
      inferInstanceAs (Decidable (_ ∧ _))

theorem taken_append (tcp : TcpContext) {front : List (Option Arrival)}
    (back : List (Option Arrival)) :
    forall {count : Nat}, taken tcp count (front ++ back) =
      taken tcp (taken tcp count front) back := by
  induction front with
  | nil => exact rfl
  | cons ev rest ih => exact ih

theorem inSequence_append {tcp : TcpContext}
    {front back : List (Option Arrival)} :
    forall {count : Nat}, InSequence tcp count (front ++ back) <->
      InSequence tcp count front ∧
        InSequence tcp (taken tcp count front) back := by
  induction front with
  | nil => exact (and_iff_right trivial).symm
  | cons ev rest ih => exact (and_congr_right (fun _ => ih)).trans and_assoc.symm

theorem script_cons_none {arrivals : List (Option Arrival)} {line : Script}
    (h : script arrivals = none :: line) :
    exists later, arrivals = none :: later ∧ script later = line := by
  rcases List.map_eq_cons_iff.mp h with ⟨ev, later, rfl, hev, hlater⟩
  rw [Option.map_eq_none_iff] at hev
  exact ⟨later, by rw [hev], hlater⟩

theorem script_cons_some {arrivals : List (Option Arrival)}
    {packet : List UInt8} {line : Script}
    (h : script arrivals = some packet :: line) :
    exists (a : Arrival) (later : List (Option Arrival)),
      arrivals = some a :: later ∧ a.packet = packet ∧
        script later = line := by
  rcases List.map_eq_cons_iff.mp h with ⟨ev, later, rfl, hev, hlater⟩
  rcases Option.map_eq_some_iff.mp hev with ⟨a, rfl, hpacket⟩
  exact ⟨a, later, rfl, hpacket, hlater⟩

/-- The arrivals that are no longer on the line. -/
def consumed (arrivals : List (Option Arrival)) (w : World Script) :
    List (Option Arrival) :=
  arrivals.take (arrivals.length - w.line.length)

theorem consumed_append {front back : List (Option Arrival)}
    {w : World Script} (h : w.line = script back) :
    consumed (front ++ back) w = front := by
  have hlength : (front ++ back).length - w.line.length = front.length := by
    rw [h, script, List.length_map, List.length_append]
    omega
  rw [consumed, hlength, List.take_left]

/-!
## Segments that are taken
-/

theorem passes_of_stored {tcp : TcpContext} {a : Arrival}
    (h : Passes tcp (stored tcp a)) : Passes tcp a.packet := by
  rcases h with ⟨hlong, hversion, hprotocol, hports, hrst⟩
  have hroom : 40 ≤ tcp.ip.pktSize.toNat ∧ 40 ≤ a.packet.length := by
    rw [stored, List.length_take] at hlong
    omega
  rw [stored, getD_take _ (by omega)] at hversion hprotocol hrst
  rw [stored, field_take _ (by omega)] at hports
  exact ⟨hroom.right, hversion, hprotocol, hports, hrst⟩

theorem stored_header {tcp : TcpContext} {stream : List UInt8} {a : Arrival}
    (hpeer : FromPeer tcp stream a) (hlong : 40 ≤ (stored tcp a).length) :
    20 ≤ packetHeaderSize (stored tcp a) ∧
      packetSeq (stored tcp a) = numberAt tcp a.off ∧
      packetPayload (stored tcp a) <+: stream.drop a.off := by
  have hsize : 40 ≤ tcp.ip.pktSize.toNat := by
    rw [stored, List.length_take] at hlong
    omega
  rw [stored, packetHeaderSize_take _ hsize, packetSeq_take _ hsize,
    packetPayload_take _ hsize]
  exact ⟨(packetHeaderSize_of_wellFormed hpeer.header).left, hpeer.seq_eq,
    (List.take_prefix _ _).trans hpeer.piece⟩

/-- Nothing of these packets is taken. -/
def Ignored (tcp : TcpContext) (ack : UInt32)
    (skipped : List (Option Arrival)) : Prop :=
  forall a, some a ∈ skipped -> ¬ Takes tcp ack a

theorem Ignored.cons {tcp : TcpContext} {ack : UInt32} {a : Arrival}
    {skipped : List (Option Arrival)} (ha : ¬ Takes tcp ack a)
    (h : Ignored tcp ack skipped) : Ignored tcp ack (some a :: skipped) := by
  intro b hb
  rcases List.mem_cons.mp hb with heq | hrest
  · cases heq
    exact ha
  · exact h b hrest

theorem Ignored.single {tcp : TcpContext} {ack : UInt32} {a : Arrival}
    (ha : ¬ Takes tcp ack a) : Ignored tcp ack [some a] :=
  Ignored.cons ha (fun _ hb => absurd hb List.not_mem_nil)

/-- Packets that are ignored leave the count alone. -/
theorem Ignored.taken_eq {tcp : TcpContext} {count : Nat}
    {skipped : List (Option Arrival)}
    (h : Ignored tcp (numberAt tcp count) skipped) :
    taken tcp count skipped = count ∧ InSequence tcp count skipped := by
  induction skipped with
  | nil => exact ⟨rfl, trivial⟩
  | cons ev rest ih =>
      have hrest := ih (fun a ha => h a (List.mem_cons_of_mem _ ha))
      have hsame : takenAfter tcp count ev = count := by
        cases ev with
        | none => rfl
        | some a => exact if_neg (h a List.mem_cons_self)
      rw [taken, InSequence, hsame]
      refine ⟨hrest.left, ?_, hrest.right⟩
      cases ev with
      | none => trivial
      | some a =>
          exact fun htakes => absurd htakes (h a List.mem_cons_self)

theorem taken_ignored_then {tcp : TcpContext} {count : Nat} {a : Arrival}
    {skipped : List (Option Arrival)}
    (h : Ignored tcp (numberAt tcp count) skipped)
    (ha : Takes tcp (numberAt tcp count) a) :
    taken tcp count (skipped ++ [some a]) =
        count + (packetPayload (stored tcp a)).length ∧
      (InSequence tcp count (skipped ++ [some a]) <-> a.off = count) := by
  rcases h.taken_eq with ⟨hsame, hsequence⟩
  rw [taken_append, inSequence_append, hsame]
  refine ⟨if_pos ha, ?_⟩
  constructor
  · exact fun hboth => hboth.right.left ha
  · exact fun hoff => ⟨hsequence, fun _ => hoff, trivial⟩

/-!
## One call
-/

/-- What a call from `w` to `w'` has made of the packets it consumed: it takes
the last one, or nothing. -/
inductive CallEffect (tcp : TcpContext) (w w' : World Script) (rc : Int) :
    List (Option Arrival) -> Prop
  | nothing {now : List (Option Arrival)}
      (hskip : Ignored tcp w.tcp.ack now) (hack : w'.tcp.ack = w.tcp.ack)
      (hout : tcpRxBuffer w'.tcp rc.toNat = []) : CallEffect tcp w w' rc now
  | data {skipped : List (Option Arrival)} {a : Arrival}
      (hskip : Ignored tcp w.tcp.ack skipped)
      (htakes : Takes tcp w.tcp.ack a)
      (hack : w'.tcp.ack = packetSeq (stored tcp a) +
        UInt32.ofNat (packetPayload (stored tcp a)).length)
      (hout : tcpRxBuffer w'.tcp rc.toNat = packetPayload (stored tcp a)) :
      CallEffect tcp w w' rc (skipped ++ [some a])

theorem delivered_arrival {tcp : TcpContext} {timeout : Int16}
    {w : World Script} {bs : List UInt8} {line : Script}
    {arrivals : List (Option Arrival)}
    (hsession : SameSession tcp w.tcp) (hline : w.line = script arrivals)
    (h : Delivers (scriptLink P) timeout w bs line) :
    exists (a : Arrival) (later : List (Option Arrival)),
      arrivals = some a :: later ∧ line = script later ∧ bs = stored tcp a := by
  rcases delivers_script h with ⟨packet, hpacket, hbs⟩
  rcases script_cons_some (hline.symm.trans hpacket) with
    ⟨a, later, harrivals, rfl, hlater⟩
  refine ⟨a, later, harrivals, hlater.symm, ?_⟩
  rw [hbs, stored, ← hsession.right.right.left]

theorem callEffect_no_data {tcp : TcpContext} {w w' : World Script} {rc : Int}
    {now : List (Option Arrival)} (hrc : rc.toNat = 0)
    (hack : w'.tcp.ack = w.tcp.ack) (hskip : Ignored tcp w.tcp.ack now) :
    CallEffect tcp w w' rc now := by
  refine CallEffect.nothing hskip hack ?_
  rw [hrc, tcpRxBuffer_zero]

theorem callEffect_accept {tcp : TcpContext} {stream : List UInt8}
    {a : Arrival} {w : World Script} (line : Script)
    (hpeer : FromPeer tcp stream a)
    (hfit : (stored tcp a).length ≤ w.tcp.ip.pktSize.toNat)
    (htakes : Takes tcp w.tcp.ack a) :
    CallEffect tcp w (w.accept (stored tcp a) line)
      (((stored tcp a).length : Int) - 20 - packetHeaderSize (stored tcp a))
      [some a] := by
  have hlong := htakes.left.long
  have hcarries : 20 + packetHeaderSize (stored tcp a) <
      (stored tcp a).length := htakes.right.left
  rcases stored_header hpeer hlong with ⟨hheader, _⟩
  have hlength := packetPayload_length (stored tcp a)
  have hrc : (((stored tcp a).length : Int) - 20 -
      packetHeaderSize (stored tcp a)).toNat =
        (stored tcp a).length - (20 + packetHeaderSize (stored tcp a)) := by
    omega
  have hnone : Ignored tcp w.tcp.ack [] :=
    fun _ hb => absurd hb List.not_mem_nil
  refine CallEffect.data hnone htakes ?_ ?_
  · rw [accept_ack line hfit (by omega), Nat.sub_sub, hlength]
  · rw [hrc, accept_rxBuffer line hfit hlong hheader]

theorem consumed_by_call {tcp : TcpContext} {stream : List UInt8}
    {timeout : Int16} {w w' : World Script} {rc : Int}
    (h : Received (scriptLink P) timeout w rc w') :
    forall {arrivals : List (Option Arrival)},
      SameSession tcp w.tcp -> w.line = script arrivals ->
      (forall a, some a ∈ arrivals -> Passes tcp a.packet ->
        FromPeer tcp stream a) ->
      exists now later : List (Option Arrival),
        arrivals = now ++ later ∧ w'.line = script later ∧
          CallEffect tcp w w' rc now := by
  have heagain := P.eagain_pos
  induction h with
  | @idle w line hidle =>
      intro arrivals hsession hline _
      have hrc : (-(P.eagain : Int)).toNat = 0 := by
        omega
      have hack : (w.received w.tcp.ip.pkt line).tcp.ack = w.tcp.ack := rfl
      rcases idle_script hidle with ⟨hempty, hrest⟩ | hnone
      · refine ⟨[], arrivals, rfl, ?_, callEffect_no_data hrc hack ?_⟩
        · show line = script arrivals
          rw [hrest, ← hempty, hline]
        · exact fun _ hb => absurd hb List.not_mem_nil
      · rcases script_cons_none (hline.symm.trans hnone) with
          ⟨later, rfl, hlater⟩
        refine ⟨[none], later, rfl, hlater.symm,
          callEffect_no_data hrc hack ?_⟩
        intro a ha
        cases List.mem_singleton.mp ha
  | @refused w bs line rc hrecv hbad hrc =>
      intro arrivals hsession hline _
      rcases delivered_arrival hsession hline hrecv with
        ⟨a, later, rfl, hlater, rfl⟩
      have hreset : (0 : Int) < ERESET := by
        decide
      refine ⟨[some a], later, rfl, hlater,
        callEffect_no_data (by omega) rfl (Ignored.single ?_)⟩
      exact fun htakes =>
        hbad ((Passes.sameSession hsession).mpr htakes.left)
  | @probe w w' bs line rc hrecv hpass hprobe _ ih =>
      intro arrivals hsession hline hpeer
      rcases delivered_arrival hsession hline hrecv with
        ⟨a, later, rfl, hlater, rfl⟩
      rcases ih hsession hlater (fun b hb => hpeer b (List.mem_cons_of_mem _ hb))
        with ⟨now, later', rfl, hlater', heffect⟩
      have hnot : ¬ Takes tcp w.tcp.ack a :=
        fun htakes => htakes.right.left.not_probe hprobe
      refine ⟨some a :: now, later', rfl, hlater', ?_⟩
      cases heffect with
      | nothing hskip hack hout =>
          exact CallEffect.nothing (hskip.cons hnot) hack hout
      | data hskip htakes hack hout =>
          exact CallEffect.data (hskip.cons hnot) htakes hack hout
  | @bare w bs line hrecv hpass hprobe hdata =>
      intro arrivals hsession hline _
      rcases delivered_arrival hsession hline hrecv with
        ⟨a, later, rfl, hlater, rfl⟩
      have hrc : (((stored tcp a).length : Int) - 20 -
          packetHeaderSize (stored tcp a)).toNat = 0 := by
        unfold CarriesData at hdata
        omega
      exact ⟨[some a], later, rfl, hlater,
        callEffect_no_data hrc (acked_ack w _ line)
          (Ignored.single (fun htakes => hdata htakes.right.left))⟩
  | @old w bs line hrecv hpass hprobe hdata hseq =>
      intro arrivals hsession hline _
      rcases delivered_arrival hsession hline hrecv with
        ⟨a, later, rfl, hlater, rfl⟩
      exact ⟨[some a], later, rfl, hlater,
        callEffect_no_data rfl (acked_ack w _ line)
          (Ignored.single (fun htakes => htakes.right.right hseq))⟩
  | @fresh w bs line hrecv hpass hprobe hdata hseq =>
      intro arrivals hsession hline hpeer
      rcases delivered_arrival hsession hline hrecv with
        ⟨a, later, rfl, hlater, rfl⟩
      have hpass' := (Passes.sameSession hsession).mp hpass
      exact ⟨[some a], later, rfl, hlater,
        callEffect_accept line
          (hpeer a List.mem_cons_self (passes_of_stored hpass')) hrecv.left
          ⟨hpass', hdata, hseq⟩⟩

/-!
## The count
-/

/-- `count` bytes of the stream have been returned and acknowledged. -/
structure UpTo (tcp : TcpContext) (stream bytes : List UInt8) (count : Nat)
    (ack : UInt32) : Prop where
  bytes_eq : bytes = stream.take count
  within : count ≤ stream.length
  ack_eq : ack = numberAt tcp count

theorem UpTo.append {tcp : TcpContext} {stream bytes piece : List UInt8}
    {count : Nat} {ack : UInt32} (h : UpTo tcp stream bytes count ack)
    (hpiece : piece <+: stream.drop count) :
    UpTo tcp stream (bytes ++ piece) (count + piece.length)
      (numberAt tcp count + UInt32.ofNat piece.length) := by
  have hroom := hpiece.length_le
  have hwithin := h.within
  rw [List.length_drop] at hroom
  constructor
  case bytes_eq =>
    rw [h.bytes_eq, List.take_add, ← List.prefix_iff_eq_take.mp hpiece]
  case within => omega
  case ack_eq => rw [numberAt, numberAt, UInt32.ofNat_add, UInt32.add_assoc]

theorem UpTo.length_eq {tcp : TcpContext} {stream bytes : List UInt8}
    {count : Nat} {ack : UInt32} (h : UpTo tcp stream bytes count ack) :
    bytes.length = count := by
  rw [h.bytes_eq, List.length_take]
  exact Nat.min_eq_left h.within

/-- In sequence the count goes on. -/
theorem CallEffect.upTo {tcp : TcpContext} {stream bytes : List UInt8}
    {w w' : World Script} {rc : Int} {now : List (Option Arrival)}
    (h : CallEffect tcp w w' rc now)
    (hpeer : forall a, some a ∈ now -> Passes tcp a.packet ->
      FromPeer tcp stream a) {count : Nat}
    (hcount : UpTo tcp stream bytes count w.tcp.ack)
    (hsequence : InSequence tcp count now) :
    UpTo tcp stream (bytes ++ tcpRxBuffer w'.tcp rc.toNat)
      (taken tcp count now) w'.tcp.ack := by
  have hnow := hcount.ack_eq
  cases h with
  | nothing hskip hack hout =>
      rw [hnow] at hskip
      rw [hout, List.append_nil, hskip.taken_eq.left, hack]
      exact hcount
  | @data skipped a hskip htakes hack hout =>
      rw [hnow] at hskip htakes
      rcases taken_ignored_then hskip htakes with ⟨htaken, hnext⟩
      have hoff := hnext.mp hsequence
      have hsegment := hpeer a (List.mem_append_right _
        (List.mem_singleton_self _)) (passes_of_stored htakes.left)
      rcases stored_header hsegment htakes.left.long with ⟨_, hseq, hpiece⟩
      rw [hoff] at hseq hpiece
      rw [hout, htaken, hack, hseq]
      exact hcount.append hpiece

/-- The number that is expected lies at `position`.  As many bytes have been
returned only if the segments were taken in sequence. -/
structure Reached (tcp : TcpContext) (stream bytes : List UInt8)
    (consumed : List (Option Arrival)) (position : Nat) (ack : UInt32) :
    Prop where
  returned_le : bytes.length ≤ position
  within : position ≤ stream.length
  ack_eq : ack = numberAt tcp position
  in_sequence : bytes.length = position ->
    InSequence tcp 0 consumed ∧ taken tcp 0 consumed = position

theorem numberAt_toNat {tcp : TcpContext} {n : Nat}
    (h : tcp.ack.toNat + n < 2 ^ 32) :
    (numberAt tcp n).toNat = tcp.ack.toNat + n := by
  rw [numberAt, UInt32.toNat_add, UInt32.toNat_ofNat', Nat.add_mod_mod]
  exact Nat.mod_eq_of_lt h

/-- Numbers that are passed over are never made up for. -/
theorem CallEffect.reached {tcp : TcpContext} {stream bytes : List UInt8}
    {w w' : World Script} {rc : Int} {before now : List (Option Arrival)}
    (h : CallEffect tcp w w' rc now)
    (hpeer : forall a, some a ∈ now -> Passes tcp a.packet ->
      FromPeer tcp stream a)
    (hwrap : tcp.ack.toNat + stream.length < 2 ^ 32) {position : Nat}
    (hbefore : Reached tcp stream bytes before position w.tcp.ack) :
    exists position' : Nat,
      Reached tcp stream (bytes ++ tcpRxBuffer w'.tcp rc.toNat)
        (before ++ now) position' w'.tcp.ack := by
  have hnow := hbefore.ack_eq
  have hle := hbefore.returned_le
  cases h with
  | nothing hskip hack hout =>
      rw [hnow] at hskip
      refine ⟨position, ?_⟩
      rw [hout, List.append_nil, hack]
      refine ⟨hle, hbefore.within, hnow, fun heq => ?_⟩
      rcases hbefore.in_sequence heq with ⟨hsequence, hcount⟩
      rw [inSequence_append, taken_append, hcount, hskip.taken_eq.left]
      exact ⟨⟨hsequence, hskip.taken_eq.right⟩, rfl⟩
  | @data skipped a hskip htakes hack hout =>
      have hsegment := hpeer a (List.mem_append_right _
        (List.mem_singleton_self _)) (passes_of_stored htakes.left)
      rcases stored_header hsegment htakes.left.long with ⟨_, hseq, hpiece⟩
      have hroom := hpiece.length_le
      have hlength := packetPayload_length (stored tcp a)
      have hcarries : 20 + packetHeaderSize (stored tcp a) <
          (stored tcp a).length := htakes.right.left
      rw [List.length_drop] at hroom
      have hwithin := hbefore.within
      have hfurther : position ≤ a.off := by
        have hge := UInt32.le_iff_toNat_le.mp (UInt32.not_lt.mp htakes.right.right)
        rw [hnow, hseq, numberAt_toNat (by omega), numberAt_toNat (by omega)]
          at hge
        omega
      refine ⟨a.off + (packetPayload (stored tcp a)).length, ?_⟩
      rw [hout, hack, hseq]
      constructor
      case returned_le =>
        rw [List.length_append]
        omega
      case within => omega
      case ack_eq =>
        rw [numberAt, numberAt, UInt32.ofNat_add, UInt32.add_assoc]
      case in_sequence =>
        intro heq
        rw [List.length_append] at heq
        have hoff : a.off = position := by
          omega
        rcases hbefore.in_sequence (by omega) with ⟨hsequence, hcount⟩
        rw [hnow] at hskip htakes
        rcases taken_ignored_then hskip htakes with ⟨htaken, hnext⟩
        rw [inSequence_append, taken_append, hcount, htaken, hoff]
        exact ⟨⟨hsequence, hnext.mpr hoff⟩, rfl⟩

/-!
## All calls so far
-/

/-- On the way from `w` the calls of `tcp_recv_timeout` have returned these
bytes, whether the client or `tcp_send` called it. -/
inductive BytesReturned (L : Link P σ) (w : World σ) :
    List UInt8 -> World σ -> Prop
  | start : BytesReturned L w [] w
  | transmit {bytes : List UInt8} {w1 : World σ} {len : Nat}
      {data : Option (Foundation.Buffer len)} {window : UInt16}
      (h : BytesReturned L w bytes w1) :
      BytesReturned L w bytes (w1.transmit len data window)
  | call {bytes : List UInt8} {w1 w2 : World σ} {fuel : Nat}
      {timeout : Int16} {rc : Int} (h : BytesReturned L w bytes w1)
      (hcall : tcpRecvTimeout L fuel w1 0 timeout = (some rc, w2)) :
      BytesReturned L w (bytes ++ tcpRxBuffer w2.tcp rc.toNat) w2

theorem BytesReturned.established {L : Link P σ} {w w' : World σ}
    {bytes : List UInt8} (h : BytesReturned L w bytes w')
    (hconn : 1 < w.tcp.seq) :
    1 < w'.tcp.seq ∧ SameSession w.tcp w'.tcp := by
  induction h with
  | start => exact ⟨hconn, SameSession.refl w.tcp⟩
  | transmit _ ih => exact ih
  | call _ hcall ih =>
      have hreceived := received_of_tcpRecvTimeout ih.left hcall
      exact ⟨hreceived.connected ih.left, ih.right.trans hreceived.sameSession⟩

/-- What the bytes returned say of the segments consumed. -/
structure Accounted (tcp : TcpContext) (stream bytes : List UInt8)
    (consumed : List (Option Arrival)) (ack : UInt32) : Prop where
  upTo : InSequence tcp 0 consumed ->
    UpTo tcp stream bytes (taken tcp 0 consumed) ack
  reached : tcp.ack.toNat + stream.length < 2 ^ 32 ->
    exists position : Nat, Reached tcp stream bytes consumed position ack

theorem accounted_nil (tcp : TcpContext) (stream : List UInt8) :
    Accounted tcp stream [] [] tcp.ack := by
  have hzero : tcp.ack = numberAt tcp 0 := (UInt32.add_zero _).symm
  constructor
  · exact fun _ => ⟨List.take_zero.symm, Nat.zero_le _, hzero⟩
  · exact fun _ => ⟨0, Nat.le_refl 0, Nat.zero_le _, hzero,
      fun _ => ⟨trivial, rfl⟩⟩

theorem Accounted.call {tcp : TcpContext} {stream bytes : List UInt8}
    {w w' : World Script} {rc : Int} {before now : List (Option Arrival)}
    (h : Accounted tcp stream bytes before w.tcp.ack)
    (heffect : CallEffect tcp w w' rc now)
    (hpeer : forall a, some a ∈ now -> Passes tcp a.packet ->
      FromPeer tcp stream a) :
    Accounted tcp stream (bytes ++ tcpRxBuffer w'.tcp rc.toNat)
      (before ++ now) w'.tcp.ack := by
  constructor
  · intro hsequence
    rw [inSequence_append] at hsequence
    rw [taken_append]
    exact heffect.upTo hpeer (h.upTo hsequence.left) hsequence.right
  · intro hwrap
    rcases h.reached hwrap with ⟨position, hbefore⟩
    exact heffect.reached hpeer hwrap hbefore

/-- The calls so far have consumed the front of the arrivals. -/
theorem BytesReturned.accounted {w w' : World Script}
    {stream bytes : List UInt8} {arrivals : List (Option Arrival)}
    (h : BytesReturned (scriptLink P) w bytes w') (hconn : 1 < w.tcp.seq)
    (hline : w.line = script arrivals)
    (hpeer : forall a, some a ∈ arrivals -> Passes w.tcp a.packet ->
      FromPeer w.tcp stream a) :
    exists later : List (Option Arrival),
      arrivals = consumed arrivals w' ++ later ∧ w'.line = script later ∧
        Accounted w.tcp stream bytes (consumed arrivals w') w'.tcp.ack := by
  induction h with
  | start =>
      have hnone : consumed ([] ++ arrivals) w = [] := consumed_append hline
      rw [List.nil_append] at hnone
      rw [hnone]
      exact ⟨arrivals, rfl, hline, accounted_nil w.tcp stream⟩
  | transmit _ ih => exact ih
  | @call bytes w1 w2 fuel timeout rc hbefore hcall ih =>
      rcases hbefore.established hconn with ⟨hconn', hsession⟩
      rcases ih with ⟨later, harrivals, hlater, hcount⟩
      have hpeer' : forall a, some a ∈ later -> Passes w.tcp a.packet ->
          FromPeer w.tcp stream a := by
        intro a ha
        apply hpeer a
        rw [harrivals]
        exact List.mem_append_right _ ha
      rcases consumed_by_call (received_of_tcpRecvTimeout hconn' hcall)
        hsession hlater hpeer' with ⟨now, later', rfl, hlater', heffect⟩
      rw [← List.append_assoc] at harrivals
      have hconsumed : consumed arrivals w2 = consumed arrivals w1 ++ now := by
        rw [harrivals, consumed_append hlater', ← harrivals]
      rw [hconsumed]
      exact ⟨later', harrivals, hlater', hcount.call heffect
        (fun a ha => hpeer' a (List.mem_append_left _ ha))⟩

end Polling
end Z80Tcpip
