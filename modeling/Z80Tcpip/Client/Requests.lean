import Z80Tcpip.Client.Invariants
import Z80Tcpip.Tcp.Agreement

/-!
# What a session asks of the stack

An invariant of the connection and of the payloads in the trace survives the
functions that the clients share.  Over tcp.c such an invariant is that the
connection has moved as the machine of the stack does, asked to send the payloads
of the trace one after another.
-/

namespace Z80Tcpip
namespace Client

open Foundation
open Program
open Tcp

variable {α ν : Type}

/-!
## Payloads
-/

def payloadOf : Event α ν -> Option (List UInt8)
  | .payload _ _ bytes => some bytes
  | _ => none

/-- The payloads passed to `tcp_send`. -/
def payloadsOf (trace : List (Event α ν)) : List (List UInt8) :=
  trace.filterMap payloadOf

theorem payloadsOf_append (t : List (Event α ν)) (e : Event α ν) :
    payloadsOf (t ++ [e]) = payloadsOf t ++ (payloadOf e).toList :=
  filterMap_concat payloadOf t e

theorem payloadsOf_silent (t : List (Event α ν)) {e : Event α ν}
    (h : payloadOf e = none) : payloadsOf (t ++ [e]) = payloadsOf t :=
  filterMap_concat_none payloadOf t h

/-!
## Invariants of the connection and the payloads
-/

structure WireInvariant (N : Network ν) (I S : Session α ν -> Prop) :
    Prop where
  send : forall window : UInt16,
    Ensures I (onNet (N.send [] window)) (fun _ => I) S
  recv : Ensures I (onNet N.recv) (fun _ => I) S
  app : forall (a : α) {c : Session α ν}, I c -> I { c with app := a }
  window : forall (isOpen : Bool) {c : Session α ν},
    I c -> I { c with windowOpen := isOpen }
  silent : forall {e : Event α ν} {c : Session α ν}, payloadOf e = none ->
    I c -> I { c with trace := c.trace ++ [e] }

section WireInvariant

variable {N : Network ν} {I S : Session α ν -> Prop}
  (h : WireInvariant N I S) (A : App α)

include h

theorem WireInvariant.modifyApp (f : α -> α) :
    Ensures I (modifyApp f) (fun _ => I) S :=
  ensures_modify (fun c hc => h.app (f c.app) hc)

theorem WireInvariant.setWindow (isOpen : Bool) :
    Ensures I (setWindow isOpen) (fun _ => I) S :=
  ensures_modify (fun _ hc => h.window isOpen hc)

theorem WireInvariant.returned (call : Call) :
    Ensures I (returned call) (fun _ => I) S :=
  ensures_modify (fun _ hc => h.silent rfl hc)

theorem WireInvariant.handOver (rc : Int) :
    Ensures I (handOver A N rc) (fun _ => I) S := by
  apply ensures_get_bind
  intro c hc
  exact ensures_bind (h.modifyApp _) (fun _ => h.returned .showData) c hc

theorem WireInvariant.openIfClosed :
    Ensures I (openIfClosed N) (fun _ => I) S := by
  apply ensures_get_bind
  intro c hc
  split_ifs
  · exact hc
  · exact ensures_bind (h.send RX_WINDOW) (fun _ => h.setWindow true) c hc

theorem WireInvariant.afterPoll (P : Platform) (rc : Int) :
    Ensures I (afterPoll P A N rc) (fun _ => I) S := by
  have hpure : forall result : Int, Ensures I (pure result) (fun _ => I) S :=
    fun _ => ensures_pure (fun _ hc => hc)
  unfold Client.afterPoll
  split_ifs
  · exact hpure 0
  · exact ensures_bind (h.modifyApp _) (fun _ => hpure (-1))
  · exact hpure 0
  · exact ensures_bind (h.setWindow false)
      (fun _ => ensures_bind (h.handOver A rc) (fun _ => hpure 0))
  · apply ensures_get_bind
    intro c hc
    split_ifs
    · have hlog : Ensures I (log (.hungUp c.app c.net)) (fun _ => I) S :=
        ensures_modify (fun _ hc' => h.silent rfl hc')
      exact ensures_bind hlog
        (fun _ => ensures_bind (h.modifyApp _) (fun _ => hpure (-1))) c hc
    · exact hpure 0 c hc

theorem WireInvariant.pollNet (P : Platform) :
    Ensures I (pollNet P A N) (fun _ => I) S := by
  refine ensures_bind h.openIfClosed (fun _ => ?_)
  refine ensures_bind h.recv (fun rc => ?_)
  refine ensures_bind (h.afterPoll A P rc) (fun result => ?_)
  exact ensures_bind (h.returned .pollNet)
    (fun _ => ensures_pure (fun _ hc => hc))

theorem WireInvariant.drainOnce :
    Ensures I (drainOnce A N) (fun _ => I) S := by
  refine ensures_bind h.recv (fun rc => ?_)
  split_ifs
  · exact h.handOver A rc
  · exact ensures_pure (fun _ hc => hc)

theorem WireInvariant.drain : Ensures I (drain A N) (fun _ => I) S := by
  refine ensures_bind (h.send 0) (fun _ => ?_)
  refine ensures_bind (h.setWindow false) (fun _ => ?_)
  refine ensures_bind (h.drainOnce A) (fun _ => ?_)
  exact ensures_bind (h.drainOnce A) (fun _ => h.drainOnce A)

end WireInvariant

/-!
## Over tcp.c
-/

/-- A payload fills a buffer of its length. -/
theorem payload_fills (bytes : List UInt8) : bytes.length = bytes.length :=
  rfl

/-- The arguments of `tcp_send` for a payload. -/
def asRequest (bytes : List UInt8) : Request where
  len := bytes.length
  data := some ⟨bytes, payload_fills bytes⟩
  window := 0

section Stack

variable {P : Platform} {σ : Type} {L : Link P σ} {w0 : World σ}

/-- From `w0` the connection has moved as the machine does, with every payload of
the trace sent. -/
def Moved (L : Link P σ) (w0 : World σ) (c : Session α (World σ)) : Prop :=
  1 < c.net.tcp.seq ∧
    exists run : List (Move × Tcp.Client σ),
      Trace (Tcp.Client.Step L) (Tcp.Client.idle w0) run
          (Tcp.Client.idle c.net) ∧
        requests run = (payloadsOf c.trace).map asRequest

/-- What is left of that when a call has not returned. -/
def MovedUntil (L : Link P σ) (w0 : World σ) (c : Session α (World σ)) :
    Prop :=
  exists (run : List (Move × Tcp.Client σ)) (c' : Tcp.Client σ),
    Trace (Tcp.Client.Step L) (Tcp.Client.idle w0) run c' ∧
      c'.world = c.net ∧
        requests run <+: (payloadsOf c.trace).map asRequest

theorem Moved.until {c : Session α (World σ)} (h : Moved L w0 c) :
    MovedUntil L w0 c := by
  rcases h with ⟨_, run, hrun, hasked⟩
  refine ⟨run, Tcp.Client.idle c.net, hrun, rfl, ?_⟩
  rw [hasked]

theorem Moved.start {app : α} (hconn : 1 < w0.tcp.seq) :
    Moved L w0 (Session.start app w0) :=
  ⟨hconn, [], .nil _, rfl⟩

/-- A call of the stack that asks for nothing to be sent. -/
theorem Moved.listens {c : Session α (World σ)} {w : World σ}
    (h : Moved L w0 c) (hconn : 1 < w.tcp.seq)
    (hgoes : Goes L (Tcp.Client.idle c.net) (Tcp.Client.idle w)) :
    Moved L w0 { c with net := w } := by
  rcases h with ⟨_, run, hrun, hasked⟩
  rcases hgoes with ⟨more, hmore, hnone⟩
  refine ⟨hconn, run ++ more, hrun.append hmore, ?_⟩
  rw [requests_append, hnone, List.append_nil]
  exact hasked

theorem moved_onNet {p : Program (World σ) Int}
    (hp : forall w : World σ, 1 < w.tcp.seq ->
      1 < (p w).2.tcp.seq ∧
        Goes L (Tcp.Client.idle w) (Tcp.Client.idle (p w).2)) :
    Ensures (Moved (α := α) L w0) (onNet p) (fun _ => Moved L w0)
      (MovedUntil L w0) := by
  intro c hc
  rcases hp c.net hc.left with ⟨hconn, hgoes⟩
  have hnext := hc.listens hconn hgoes
  unfold onNet
  rcases hrun : p c.net with ⟨_ | rc, w⟩
  · rw [hrun] at hnext
    exact hnext.until
  · rw [hrun] at hnext
    exact hnext

theorem moved_wireInvariant (L : Link P σ) (w0 : World σ) (fuel : Nat) :
    WireInvariant (α := α) (stackNetwork L fuel) (Moved L w0)
      (MovedUntil L w0) where
  send := by
    intro window
    refine moved_onNet (fun w hconn => ?_)
    have hgoes := tcpSend_ack_listens L fuel window hconn none
    exact ⟨(tcpSend_ack_runs L fuel window hconn).connected hconn, hgoes⟩
  recv := by
    refine moved_onNet (fun w hconn => ?_)
    rcases tcpRecvTimeout_listens L fuel 0 POLL_TICKS hconn with
      ⟨b, hlisten, _⟩
    exact ⟨(tcpRecvTimeout_runs L fuel 0 POLL_TICKS hconn).connected hconn,
      hlisten none⟩
  app := fun _ _ hc => hc
  window := fun _ _ hc => hc
  silent := by
    intro e c he hc
    rcases hc with ⟨hconn, run, hrun, hasked⟩
    refine ⟨hconn, run, hrun, ?_⟩
    rw [payloadsOf_silent c.trace he]
    exact hasked

/-- The last payload of the trace is still to be sent. -/
def Asked (L : Link P σ) (w0 : World σ) (bytes : List UInt8)
    (c : Session α (World σ)) : Prop :=
  1 < c.net.tcp.seq ∧
    exists run : List (Move × Tcp.Client σ),
      Trace (Tcp.Client.Step L) (Tcp.Client.idle w0) run
          (Tcp.Client.idle c.net) ∧
        (payloadsOf c.trace).map asRequest =
          requests run ++ [asRequest bytes]

theorem asked_send (L : Link P σ) (w0 : World σ) (fuel : Nat)
    {bytes : List UInt8} (hbytes : bytes ≠ []) :
    Ensures (Asked (α := α) L w0 bytes)
      (onNet ((stackNetwork L fuel).send bytes 0)) (fun _ => Moved L w0)
      (MovedUntil L w0) := by
  intro c hc
  rcases hc with ⟨hconn, run, hrun, hasked⟩
  have hsend : (stackNetwork L fuel).send bytes 0 =
      fun w => tcpSend L fuel w (asRequest bytes).len (asRequest bytes).data
        (asRequest bytes).window := by
    cases bytes with
    | nil => exact absurd rfl hbytes
    | cons b rest => rfl
  have hestablished := (Tcp.Call.runs L fuel (.send (asRequest bytes))
    hconn).connected hconn
  rw [Tcp.Call.run] at hestablished
  rcases tcpSend_serves L fuel (asRequest bytes)
    (List.length_pos_iff.mpr hbytes) hconn with
    ⟨more, c', hmore, hworld, hpart, hdone⟩
  unfold onNet
  rw [hsend]
  simp only
  rcases hcall : tcpSend L fuel c.net (asRequest bytes).len
    (asRequest bytes).data (asRequest bytes).window with ⟨_ | rc, w⟩
  · rw [hcall] at hworld
    refine ⟨run ++ more, c', hrun.append hmore, hworld, ?_⟩
    rw [requests_append, hasked]
    exact (List.prefix_append_right_inj _).mpr hpart
  · rw [hcall] at hworld hdone hestablished
    rcases hdone (fun hne => (by cases hne)) with ⟨hidle, hall⟩
    have hc' : c' = Tcp.Client.idle w := by
      rcases c' with ⟨world, sending⟩
      cases hworld
      cases hidle
      rfl
    rw [hc'] at hmore
    refine ⟨hestablished, run ++ more, hrun.append hmore, ?_⟩
    rw [requests_append, hall, ← hasked]

/-- A payload is asked for while it is put in the trace. -/
theorem moved_sendData (L : Link P σ) (w0 : World σ) (fuel : Nat)
    (origin : Origin) (pieces : List (List UInt8)) {bytes : List UInt8}
    (hbytes : bytes ≠ []) :
    Ensures (Moved (α := α) L w0)
      (sendData (stackNetwork L fuel) origin pieces bytes)
      (fun _ => Moved L w0) (MovedUntil L w0) := by
  have hlog : Ensures (Moved (α := α) L w0)
      (log (.payload origin pieces bytes)) (fun _ => Asked L w0 bytes)
      (MovedUntil L w0) := by
    refine ensures_modify (fun c hc => ?_)
    rcases hc with ⟨hconn, run, hrun, hasked⟩
    refine ⟨hconn, run, hrun, ?_⟩
    rw [payloadsOf_append, List.map_append, ← hasked]
    rfl
  have hwire := moved_wireInvariant (α := α) L w0 fuel
  refine ensures_bind hlog (fun _ => ?_)
  refine ensures_bind (asked_send L w0 fuel hbytes) (fun rc => ?_)
  exact ensures_bind (hwire.setWindow false)
    (fun _ => ensures_pure (fun _ hc => hc))

/-!
## At the peer
-/

theorem said_payloads {run : List (Move × Tcp.Client σ)}
    {payloads : List (List UInt8)}
    (h : requests run = payloads.map asRequest) :
    said run = payloads.flatten := by
  rw [said, h, List.flatMap_map]
  exact List.flatMap_id

/-- A session behind `tcp_connect` asks the stack for the first of its payloads.
Beside any peer, as long as each call that returns has been acknowledged in full,
the peer holds a part of them, and all of them when no call is waiting. -/
theorem MovedUntil.reaches {fuel : Nat} {register : Nat -> UInt8}
    {w : World σ} (hconnect : tcpConnect L fuel register w = (some 0, w0))
    (hsent : w.sent = []) (hroom : 40 ≤ w.tcp.ip.pktSize.toNat)
    {c : Session α (World σ)} (h : MovedUntil L w0 c)
    (hfit : forall bytes, bytes ∈ payloadsOf c.trace ->
      40 + bytes.length ≤ w.tcp.ip.pktSize.toNat) :
    exists (run : List (Move × Tcp.Client σ)) (c' : Tcp.Client σ) (n : Nat),
      Trace (Tcp.Client.Step L) (Tcp.Client.idle w0) run c' ∧
        c'.world = c.net ∧
          requests run = ((payloadsOf c.trace).take n).map asRequest ∧
            forall got : List UInt8,
              Peered L (Tcp.Client.idle w0) [] run c' got ->
                EachStep AckedInFull (Tcp.Client.idle w0) run ->
                  got <+: ((payloadsOf c.trace).take n).flatten ∧
                    (c'.sending = none ->
                      got = ((payloadsOf c.trace).take n).flatten) := by
  rcases h with ⟨run, c', hrun, hworld, hasked⟩
  have hpayloads := List.prefix_iff_eq_take.mp hasked
  rw [← List.map_take] at hpayloads
  refine ⟨run, c', (requests run).length, hrun, hworld, hpayloads, ?_⟩
  intro got hpeer hfull
  rcases agrees_connected hconnect hsent hroom with ⟨hstart, hsize⟩
  have hend := hpeer.agrees hstart
    (fun r hr => by
      rw [hpayloads] at hr
      rcases List.mem_map.mp hr with ⟨bytes, hbytes, rfl⟩
      refine ⟨rfl, ?_⟩
      show 40 + bytes.length ≤ w0.tcp.ip.pktSize.toNat
      rw [hsize]
      exact hfit bytes (List.mem_of_mem_take hbytes)) hfull
  rw [List.nil_append, said_payloads hpayloads] at hend
  exact ⟨hend.part, hend.all⟩

end Stack

end Client
end Z80Tcpip
