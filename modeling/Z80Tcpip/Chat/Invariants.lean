import Z80Tcpip.Chat.MainLoop
import Z80Tcpip.Client.Invariants

/-!
# Invariants of tcp_chat.c

What has to be shown of the parts of tcp_chat.c for a property to hold in front
of and behind every turn of the main loop.
-/

namespace Z80Tcpip
namespace Chat

open Foundation
open Client
open Program

variable {ν : Type} {P : Platform} {N : Network ν}
  {Inv Stop : Session State ν -> Prop}

/-- `Stop` is what is left of `Inv` when a call of the stack does not return. -/
structure Upholds (P : Platform) (N : Network ν)
    (Inv Stop : Session State ν -> Prop) : Prop where
  poll : Ensures Inv (pollNet P N) (fun _ => Inv) Stop
  send : Ensures Inv (sendLine N) (fun _ => Inv) Stop
  returned : forall call : Call,
    Ensures Inv (returned call) (fun _ => Inv) Stop
  edit : forall (k : UInt16) {c : Session State ν},
    Inv c -> Inv { c with app := editKey k c.app }

section Upholds

variable (h : Upholds P N Inv Stop)

include h

theorem Upholds.sendInput : Ensures Inv (sendInput N) (fun _ => Inv) Stop := by
  apply ensures_get_bind
  intro c hc
  split_ifs
  · exact h.returned .send c hc
  · exact h.send c hc

theorem Upholds.handleKey (k : UInt16) :
    Ensures Inv (handleKey N k) (fun _ => Inv) Stop := by
  have hkey : Ensures Inv (keyAction N k) (fun _ => Inv) Stop := by
    unfold keyAction
    split_ifs
    · exact ensures_bind h.sendInput
        (fun _ => ensures_pure (fun _ hc => hc))
    · exact ensures_pure (fun _ hc => hc)
    · have hedit : Ensures Inv (modifyApp (editKey k)) (fun _ => Inv) Stop :=
        ensures_modify (fun _ hc => h.edit k hc)
      exact ensures_bind hedit (fun _ => ensures_pure (fun _ hc => hc))
  exact ensures_bind hkey
    (fun _ => ensures_bind (h.returned .handleKey)
      (fun _ => ensures_pure (fun _ hc => hc)))

theorem Upholds.pressKey (k : UInt16) :
    Ensures Inv (pressKey N k) (fun _ => Inv) Stop := by
  unfold Chat.pressKey
  split_ifs
  · exact ensures_pure (fun _ hc => hc)
  · exact h.handleKey k

theorem Upholds.turn (k : UInt16) :
    Ensures Inv (turn P N k) (fun _ => Inv) Stop := by
  refine ensures_bind (h.pressKey k) (fun rc => ?_)
  split_ifs
  · exact ensures_pure (fun _ hc => hc)
  · exact ensures_bind h.poll (fun _ => ensures_pure (fun _ hc => hc))

/-- Every turn keeps the invariant, so every run does. -/
theorem Upholds.mainLoop (keys : List UInt16) :
    Ensures Inv (mainLoop P N keys) (fun _ => Inv) Stop :=
  ensures_loop h.turn keys

theorem Upholds.main {c : Session State ν} (keys : List UInt16)
    (hstart : Inv (resetSession c)) :
    Outcome (fun _ => Inv) Stop (main P N keys c) :=
  h.mainLoop keys (resetSession c) hstart

end Upholds

/-!
## Invariants of the connection
-/

section NetInvariant

variable {J Q : ν -> Prop} (h : NetInvariant N J Q)

include h

theorem onConnection_sendLine :
    Ensures (OnConnection J Q) (sendLine N) (fun _ => OnConnection J Q)
      (HungUpOnly Q) := by
  have hfailed : forall rc : Int, Ensures (OnConnection J Q)
      (reportFailure rc) (fun _ => OnConnection J Q) (HungUpOnly Q) := by
    intro rc
    unfold reportFailure
    split_ifs
    · exact onConnection_modifyApp _
    · exact ensures_pure (fun _ hc => hc)
  refine ensures_bind (h.drain app) (fun _ => ?_)
  apply ensures_get_bind
  intro c hc
  refine ensures_bind (h.sendData .typed _ _) (fun rc => ?_) c hc
  refine ensures_bind (onConnection_modifyApp _) (fun _ => ?_)
  exact ensures_bind (hfailed rc) (fun _ => onConnection_returned .send)

/-- tcp_chat.c touches the connection through the stack only. -/
theorem onConnection_upholds (P : Platform) :
    Upholds P N (OnConnection J Q) (HungUpOnly Q) where
  poll := h.pollNet app P
  send := onConnection_sendLine h
  returned := onConnection_returned
  edit := fun _ _ hc => hc

/-- What is known of the connection whenever the server hangs up. -/
theorem atHangUps_ranMain (P : Platform) {net : ν} (hnet : J net)
    (con : Console)
    (keys : List UInt16) :
    AtHangUps Q (ranMain P N net con keys).trace := by
  let start : Session State ν := Session.start (State.initial con) net
  have hready : forall s : State,
      OnConnection J Q { start with app := s, windowOpen := false } :=
    fun _ => ⟨hnet, atHangUps_nil⟩
  have hrun := (onConnection_upholds h P).main (c := start) keys
    (hready (resetState start.app))
  unfold ranMain
  rcases hmain : main P N keys
    (Session.start (State.initial con) net) with
    ⟨_ | running, c⟩
  · rw [hmain] at hrun
    exact hrun
  · rw [hmain] at hrun
    exact hrun.right

end NetInvariant

end Chat
end Z80Tcpip
