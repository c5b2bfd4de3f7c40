import Z80Tcpip.Client.Session

/-!
# Invariants of a client

An invariant of the client's own state and of the trace that survives
`show_data`, `log_line` and the entries that the shared functions make in the
trace survives the shared functions, whatever the network does.
-/

namespace Z80Tcpip
namespace Client

open Foundation
open Program

variable {α ν β : Type}

/-- A property of the client's state and the trace, as one of the session. -/
def On (I : α -> List (Event α ν) -> Prop) (c : Session α ν) : Prop :=
  I c.app c.trace

/-- What holds each time `call` returns, of the trace up to then and of the
state it leaves. -/
def AtReturns (call : Call) (Q : List (Event α ν) -> α -> Prop)
    (t : List (Event α ν)) : Prop :=
  forall (front back : List (Event α ν)) (a : α) (net : ν) (windowOpen : Bool),
    t = front ++ .returned call a net windowOpen :: back -> Q front a

theorem AtReturns.append {call : Call} {Q : List (Event α ν) -> α -> Prop}
    {t : List (Event α ν)} (h : AtReturns call Q t) {e : Event α ν}
    (he : forall (a : α) (net : ν) (windowOpen : Bool),
      e = .returned call a net windowOpen -> Q t a) :
    AtReturns call Q (t ++ [e]) := by
  intro front back a net windowOpen heq
  rcases List.eq_nil_or_concat back with rfl | ⟨back', last, rfl⟩
  · rcases List.append_inj' heq rfl with ⟨ht, hlast⟩
    rw [← ht]
    exact he a net windowOpen (List.cons.inj hlast).left
  · rw [List.concat_eq_append, ← List.cons_append, ← List.append_assoc] at heq
    exact h front back' a net windowOpen (List.append_inj' heq rfl).left

/-- `T` is what is left of the invariant `I` when a call of the stack does not
return. -/
structure AppInvariant (A : App α) (I T : α -> List (Event α ν) -> Prop) :
    Prop where
  showData : forall (data : List UInt8) {a : α} {t : List (Event α ν)},
    I a t -> I (A.showData data a) t
  logLine : forall (text : List UInt8) {a : α} {t : List (Event α ν)},
    I a t -> I (A.logLine text a) t
  shown : forall (net : ν) (windowOpen : Bool) {a : α}
    {t : List (Event α ν)},
    I a t -> I a (t ++ [.returned .showData a net windowOpen])
  hungUp : forall (net : ν) {a : α} {t : List (Event α ν)},
    I a t -> I a (t ++ [.hungUp a net])
  stopped : forall {a : α} {t : List (Event α ν)}, I a t -> T a t

theorem ensures_setWindow {I : α -> List (Event α ν) -> Prop}
    (isOpen : Bool) {stopped : Session α ν -> Prop} :
    Ensures (On I) (setWindow isOpen) (fun _ => On I) stopped :=
  ensures_modify (fun _ hc => hc)

section AppInvariant

variable {A : App α} {I T : α -> List (Event α ν) -> Prop}
  (h : AppInvariant A I T) (N : Network ν)

include h

/-- A call of the stack leaves the client's state and the trace alone. -/
theorem AppInvariant.ensures_onNet (p : Program ν β) :
    Ensures (On I) (onNet p) (fun _ => On I) (On T) := by
  intro c hc
  unfold onNet
  rcases p c.net with ⟨_ | b, net⟩
  · exact h.stopped hc
  · exact hc

theorem AppInvariant.ensures_logLine (text : List UInt8) :
    Ensures (On I) (modifyApp (A.logLine text)) (fun _ => On I)
      (On T) :=
  ensures_modify (fun _ hc => h.logLine text hc)

theorem AppInvariant.handOver (rc : Int) :
    Ensures (On I) (handOver A N rc) (fun _ => On I) (On T) := by
  apply ensures_get_bind
  intro c hc
  have hshow : Ensures (On I)
      (modifyApp (A.showData (N.rxBuffer c.net rc.toNat))) (fun _ => On I)
      (On T) :=
    ensures_modify (fun _ hc' => h.showData _ hc')
  have hshown : Ensures (On I) (returned .showData) (fun _ => On I)
      (On T) :=
    ensures_modify (fun c' hc' => h.shown c'.net c'.windowOpen hc')
  exact ensures_bind hshow (fun _ => hshown) c hc

theorem AppInvariant.openIfClosed :
    Ensures (On I) (openIfClosed N) (fun _ => On I) (On T) := by
  apply ensures_get_bind
  intro c hc
  split_ifs
  · exact hc
  · exact ensures_bind (h.ensures_onNet (N.send [] RX_WINDOW))
      (fun _ => ensures_setWindow true) c hc

theorem AppInvariant.afterPoll (P : Platform) (rc : Int) :
    Ensures (On I) (afterPoll P A N rc) (fun _ => On I) (On T) := by
  have hpure : forall result : Int,
      Ensures (On I) (pure result) (fun _ => On I) (On T) :=
    fun _ => ensures_pure (fun _ hc => hc)
  unfold Client.afterPoll
  split_ifs
  · exact hpure 0
  · exact ensures_bind (h.ensures_logLine _) (fun _ => hpure (-1))
  · exact hpure 0
  · exact ensures_bind (ensures_setWindow false)
      (fun _ => ensures_bind (h.handOver N rc) (fun _ => hpure 0))
  · apply ensures_get_bind
    intro c hc
    split_ifs
    · have hlogged : On I
          { c with trace := c.trace ++ [.hungUp c.app c.net] } :=
        h.hungUp c.net hc
      exact ensures_bind (h.ensures_logLine _) (fun _ => hpure (-1)) _ hlogged
    · exact hpure 0 c hc

theorem AppInvariant.pollNet (P : Platform)
    (hreturn : forall (net : ν) (windowOpen : Bool) {a : α}
      {t : List (Event α ν)},
      I a t -> I a (t ++ [.returned .pollNet a net windowOpen])) :
    Ensures (On I) (pollNet P A N) (fun _ => On I) (On T) := by
  refine ensures_bind (h.openIfClosed N) (fun _ => ?_)
  refine ensures_bind (h.ensures_onNet N.recv) (fun rc => ?_)
  refine ensures_bind (h.afterPoll N P rc) (fun result => ?_)
  have hreturned : Ensures (On I) (returned .pollNet) (fun _ => On I)
      (On T) :=
    ensures_modify (fun c hc => hreturn c.net c.windowOpen hc)
  exact ensures_bind hreturned (fun _ => ensures_pure (fun _ hc => hc))

theorem AppInvariant.drainOnce :
    Ensures (On I) (drainOnce A N) (fun _ => On I) (On T) := by
  refine ensures_bind (h.ensures_onNet N.recv) (fun rc => ?_)
  split_ifs
  · exact h.handOver N rc
  · exact ensures_pure (fun _ hc => hc)

theorem AppInvariant.drain :
    Ensures (On I) (drain A N) (fun _ => On I) (On T) := by
  refine ensures_bind (h.ensures_onNet (N.send [] 0)) (fun _ => ?_)
  refine ensures_bind (ensures_setWindow false) (fun _ => ?_)
  refine ensures_bind (h.drainOnce N) (fun _ => ?_)
  exact ensures_bind (h.drainOnce N) (fun _ => h.drainOnce N)

end AppInvariant

/-!
## Invariants of the connection
-/

/-- `I` survives the calls of the stack, and a call that returns 0 with a FIN in
the buffer leaves `Q`. -/
structure NetInvariant (N : Network ν) (I Q : ν -> Prop) : Prop where
  send : forall (bytes : List UInt8) (window : UInt16),
    Ensures I (N.send bytes window) (fun _ => I) (fun _ => True)
  recv : Ensures I N.recv
    (fun rc net => I net ∧
      (rc = 0 -> N.headerFlags net &&& TCP_FIN ≠ 0 -> Q net))
    (fun _ => True)

/-- Each time the client noticed that the server hung up. -/
def AtHangUps (Q : ν -> Prop) (t : List (Event α ν)) : Prop :=
  forall (a : α) (net : ν), .hungUp a net ∈ t -> Q net

theorem atHangUps_nil {Q : ν -> Prop} :
    AtHangUps Q ([] : List (Event α ν)) := by
  intro a net h
  cases h

theorem AtHangUps.append {Q : ν -> Prop} {t : List (Event α ν)}
    (h : AtHangUps Q t) {e : Event α ν}
    (he : forall (a : α) (net : ν), e = .hungUp a net -> Q net) :
    AtHangUps Q (t ++ [e]) := by
  intro a net hmem
  rcases List.mem_append.mp hmem with hold | hnew
  · exact h a net hold
  · rw [List.mem_singleton] at hnew
    exact he a net hnew.symm

def OnConnection (I Q : ν -> Prop) (c : Session α ν) : Prop :=
  I c.net ∧ AtHangUps Q c.trace

/-- What is left when a call of the stack does not return. -/
def HungUpOnly (Q : ν -> Prop) (c : Session α ν) : Prop :=
  AtHangUps Q c.trace

section NetInvariant

variable {N : Network ν} {I Q : ν -> Prop} (h : NetInvariant N I Q) (A : App α)

theorem onConnection_modifyApp (f : α -> α) :
    Ensures (OnConnection I Q) (modifyApp f) (fun _ => OnConnection I Q)
      (HungUpOnly Q) :=
  ensures_modify (fun _ hc => hc)

theorem onConnection_setWindow (isOpen : Bool) :
    Ensures (OnConnection (α := α) I Q) (setWindow isOpen)
      (fun _ => OnConnection I Q) (HungUpOnly Q) :=
  ensures_modify (fun _ hc => hc)

theorem onConnection_returned (call : Call) :
    Ensures (OnConnection (α := α) I Q) (returned call)
      (fun _ => OnConnection I Q) (HungUpOnly Q) :=
  ensures_modify (fun _ hc =>
    ⟨hc.left, hc.right.append (fun _ _ heq => nomatch heq)⟩)

include h

theorem NetInvariant.ensures_send (bytes : List UInt8) (window : UInt16) :
    Ensures (OnConnection (α := α) I Q) (onNet (N.send bytes window))
      (fun _ => OnConnection I Q) (HungUpOnly Q) := by
  intro c hc
  unfold onNet
  rcases hsend : N.send bytes window c.net with ⟨_ | rc, net⟩
  · exact hc.right
  · exact ⟨(h.send bytes window).of_some hc.left hsend, hc.right⟩

/-- A call of `tcp_recv_timeout`, with what is known of a FIN behind it. -/
theorem NetInvariant.ensures_recv :
    Ensures (OnConnection (α := α) I Q) (onNet N.recv)
      (fun rc c => OnConnection I Q c ∧
        (rc = 0 -> N.headerFlags c.net &&& TCP_FIN ≠ 0 -> Q c.net))
      (HungUpOnly Q) := by
  intro c hc
  unfold onNet
  rcases hrecv : N.recv c.net with ⟨_ | rc, net⟩
  · exact hc.right
  · rcases h.recv.of_some hc.left hrecv with ⟨hnet, hfin⟩
    exact ⟨⟨hnet, hc.right⟩, hfin⟩

omit h in
theorem onConnection_handOver (rc : Int) :
    Ensures (OnConnection I Q) (handOver A N rc) (fun _ => OnConnection I Q)
      (HungUpOnly Q) := by
  apply ensures_get_bind
  intro c hc
  exact ensures_bind (onConnection_modifyApp _)
    (fun _ => onConnection_returned .showData) c hc

theorem NetInvariant.openIfClosed :
    Ensures (OnConnection (α := α) I Q) (openIfClosed N)
      (fun _ => OnConnection I Q) (HungUpOnly Q) := by
  apply ensures_get_bind
  intro c hc
  split_ifs
  · exact hc
  · exact ensures_bind (h.ensures_send [] RX_WINDOW)
      (fun _ => onConnection_setWindow true) c hc

omit h in
theorem onConnection_afterPoll (P : Platform) (rc : Int) :
    Ensures
      (fun c => OnConnection I Q c ∧
        (rc = 0 -> N.headerFlags c.net &&& TCP_FIN ≠ 0 -> Q c.net))
      (afterPoll P A N rc) (fun _ => OnConnection I Q) (HungUpOnly Q) := by
  have hpure : forall result : Int, Ensures (OnConnection (α := α) I Q)
      (pure result) (fun _ => OnConnection I Q) (HungUpOnly Q) :=
    fun _ => ensures_pure (fun _ hc => hc)
  have hlog : forall text : List UInt8, Ensures (OnConnection I Q)
      (modifyApp (A.logLine text) >>= fun _ => pure (-1))
      (fun _ => OnConnection I Q) (HungUpOnly Q) :=
    fun text => ensures_bind (onConnection_modifyApp _) (fun _ => hpure (-1))
  intro c h
  rcases h with ⟨hc, hfin⟩
  unfold Client.afterPoll
  split_ifs
  · exact hc
  · exact hlog _ c hc
  · exact hc
  · exact ensures_bind (onConnection_setWindow false)
      (fun _ => ensures_bind (onConnection_handOver A rc)
        (fun _ => hpure 0)) c hc
  · rw [get_bind_apply]
    split_ifs with hflag
    · have hnow : Q c.net := hfin (by omega) hflag
      have hlogged : OnConnection I Q
          { c with trace := c.trace ++ [.hungUp c.app c.net] } :=
        ⟨hc.left, hc.right.append (fun _ _ heq => by
          cases heq
          exact hnow)⟩
      exact hlog _ _ hlogged
    · exact hc

/-- `poll_net`, whatever the client does with the data. -/
theorem NetInvariant.pollNet (P : Platform) :
    Ensures (OnConnection I Q) (pollNet P A N) (fun _ => OnConnection I Q)
      (HungUpOnly Q) := by
  refine ensures_bind h.openIfClosed (fun _ => ?_)
  refine ensures_bind h.ensures_recv (fun rc => ?_)
  refine ensures_bind (onConnection_afterPoll A P rc) (fun result => ?_)
  exact ensures_bind (onConnection_returned .pollNet)
    (fun _ => ensures_pure (fun _ hc => hc))

theorem NetInvariant.drainOnce :
    Ensures (OnConnection I Q) (drainOnce A N) (fun _ => OnConnection I Q)
      (HungUpOnly Q) := by
  have hrecv : Ensures (OnConnection (α := α) I Q) (onNet N.recv)
      (fun _ => OnConnection I Q) (HungUpOnly Q) :=
    h.ensures_recv.mono (fun _ hc => hc) (fun _ _ hc => hc.left)
      (fun _ hc => hc)
  refine ensures_bind hrecv (fun rc => ?_)
  split_ifs
  · exact onConnection_handOver A rc
  · exact ensures_pure (fun _ hc => hc)

theorem NetInvariant.drain :
    Ensures (OnConnection I Q) (drain A N) (fun _ => OnConnection I Q)
      (HungUpOnly Q) := by
  refine ensures_bind (h.ensures_send [] 0) (fun _ => ?_)
  refine ensures_bind (onConnection_setWindow false) (fun _ => ?_)
  refine ensures_bind (h.drainOnce A) (fun _ => ?_)
  exact ensures_bind (h.drainOnce A) (fun _ => h.drainOnce A)

theorem NetInvariant.sendData (origin : Origin) (pieces : List (List UInt8))
    (bytes : List UInt8) :
    Ensures (OnConnection (α := α) I Q) (sendData N origin pieces bytes)
      (fun _ => OnConnection I Q) (HungUpOnly Q) := by
  have hlog : Ensures (OnConnection (α := α) I Q)
      (log (.payload origin pieces bytes)) (fun _ => OnConnection I Q)
      (HungUpOnly Q) :=
    ensures_modify (fun _ hc =>
      ⟨hc.left, hc.right.append (fun _ _ heq => nomatch heq)⟩)
  refine ensures_bind hlog (fun _ => ?_)
  refine ensures_bind (h.ensures_send bytes 0) (fun rc => ?_)
  exact ensures_bind (onConnection_setWindow false)
    (fun _ => ensures_pure (fun _ hc => hc))

end NetInvariant

end Client
end Z80Tcpip
