import Z80Tcpip.Client.Invariants
import Z80Tcpip.Irc.MainLoop

/-!
# Invariants of irc.c

What has to be shown of the parts of irc.c for a property to hold in front of
and behind every turn of the main loop.  While a command is being sent another
property may stand in for it.
-/

namespace Z80Tcpip
namespace Irc

open Foundation
open Client
open Program

variable {ν : Type} {P : Platform} {N : Network ν}
  {Inv : Session State ν -> Prop}
  {During : Origin -> List (List UInt8) -> Session State ν -> Prop}
  {Stop : Session State ν -> Prop}

/-- `Inv` between the calls, `During` from the first `o_str` of a command to
`o_send`, `Stop` when a call of the stack does not return. -/
structure Upholds (P : Platform) (N : Network ν)
    (Inv : Session State ν -> Prop)
    (During : Origin -> List (List UInt8) -> Session State ν -> Prop)
    (Stop : Session State ν -> Prop) : Prop where
  poll : Ensures Inv (pollNet P N) (fun _ => Inv) Stop
  send : forall (origin : Origin) (pieces : List (List UInt8)),
    Ensures (During origin pieces) (oSend N origin pieces) (fun _ => Inv) Stop
  returned : forall call : Call,
    Ensures Inv (returned call) (fun _ => Inv) Stop
  edit : forall (k : UInt16) {c : Session State ν},
    Inv c -> Inv { c with app := editKey k c.app }
  reply : forall {c : Session State ν} {answer : State -> State},
    Inv c -> inputAction c.app = .reply answer ->
      Inv { c with app := answer c.app }
  typed : forall {c : Session State ν} {pieces : List (List UInt8)}
    {before after : State -> State} {quits : Bool},
    Inv c -> inputAction c.app = .send pieces before after quits ->
      During .typed pieces { c with app := before (pieces.foldl oStr c.app) }
  after : forall {c : Session State ν} {s : State}
    {pieces : List (List UInt8)} {before after : State -> State}
    {quits : Bool},
    Inv c -> inputAction s = .send pieces before after quits ->
      Inv { c with app := after c.app }
  quit : forall {c : Session State ν}, Inv c ->
    During .typed [ascii "QUIT :spectrum signing off"]
      { c with
        app := [ascii "QUIT :spectrum signing off"].foldl oStr c.app }
  pong : forall {c : Session State ν}, Inv c -> c.app.pongPending = true ->
    During .pong (pongPieces c.app)
      { c with
        app :=
          { (pongPieces c.app).foldl oStr c.app with pongPending := false } }
  join : forall {c : Session State ν}, Inv c -> c.app.joinPending = true ->
    c.app.curChan ≠ [] ->
      During .join (joinPieces c.app)
        { c with
          app :=
            { (joinPieces c.app).foldl oStr c.app with
              joinPending := false } }
  no_join : forall {c : Session State ν}, Inv c ->
    Inv { c with app := { c.app with joinPending := false } }

section Upholds

variable (h : Upholds P N Inv During Stop)

include h

/-- A command, from a session that is ready for it. -/
theorem Upholds.command {origin : Origin} {pieces : List (List UInt8)}
    {before : State -> State} {c : Session State ν}
    (hc : During origin pieces
      { c with app := before (pieces.foldl oStr c.app) }) :
    Outcome (fun _ => Inv) Stop (command N origin pieces before c) :=
  h.send origin pieces _ hc

theorem Upholds.handleInputLine :
    Ensures Inv (handleInputLine N) (fun _ => Inv) Stop := by
  apply ensures_get_bind
  intro c hc
  cases haction : inputAction c.app with
  | reply answer => exact h.reply hc haction
  | send pieces before after quits =>
      have hsent : Ensures (fun c' => c' = c)
          (Irc.command N .typed pieces before) (fun _ => Inv) Stop := by
        intro c' heq
        subst heq
        exact h.command (h.typed hc haction)
      have hafter : Ensures Inv (modifyApp after) (fun _ => Inv) Stop :=
        ensures_modify (fun _ hc' => h.after hc' haction)
      exact ensures_bind hsent
        (fun _ => ensures_bind hafter
          (fun _ => ensures_pure (fun _ hc' => hc'))) c rfl

theorem Upholds.handleKey (k : UInt16) :
    Ensures Inv (handleKey N k) (fun _ => Inv) Stop := by
  have hkey : Ensures Inv (keyAction N k) (fun _ => Inv) Stop := by
    unfold keyAction
    split_ifs
    · exact h.handleInputLine
    · have hquit : Ensures Inv
          (Irc.command N .typed [ascii "QUIT :spectrum signing off"] id)
          (fun _ => Inv) Stop :=
        fun _ hc => h.command (h.quit hc)
      exact ensures_bind hquit (fun _ => ensures_pure (fun _ hc => hc))
    · have hedit : Ensures Inv (modifyApp (editKey k)) (fun _ => Inv) Stop :=
        ensures_modify (fun _ hc => h.edit k hc)
      exact ensures_bind hedit (fun _ => ensures_pure (fun _ hc => hc))
  exact ensures_bind hkey
    (fun _ => ensures_bind (h.returned .handleKey)
      (fun _ => ensures_pure (fun _ hc => hc)))

theorem Upholds.flushPong :
    Ensures Inv (flushPong N) (fun _ => Inv) Stop := by
  apply ensures_get_bind
  intro c hc
  split_ifs with hpending
  · exact h.command (h.pong hc hpending)
  · exact hc

theorem Upholds.flushJoin :
    Ensures Inv (flushJoin N) (fun _ => Inv) Stop := by
  apply ensures_get_bind
  intro c hc
  split_ifs with hpending hchan
  · exact h.command (h.join hc hpending hchan)
  · exact h.no_join hc
  · exact hc

theorem Upholds.flushPending :
    Ensures Inv (flushPending N) (fun _ => Inv) Stop :=
  ensures_bind h.flushPong
    (fun _ => ensures_bind h.flushJoin (fun _ => h.returned .flushPending))

theorem Upholds.pressKey (k : UInt16) :
    Ensures Inv (pressKey N k) (fun _ => Inv) Stop := by
  unfold Irc.pressKey
  split_ifs
  · exact ensures_pure (fun _ hc => hc)
  · exact h.handleKey k

theorem Upholds.turn (k : UInt16) :
    Ensures Inv (turn P N k) (fun _ => Inv) Stop := by
  refine ensures_bind (h.pressKey k) (fun rc => ?_)
  split_ifs
  · exact ensures_pure (fun _ hc => hc)
  · refine ensures_bind h.poll (fun rc' => ?_)
    split_ifs
    · exact ensures_pure (fun _ hc => hc)
    · exact ensures_bind h.flushPending
        (fun _ => ensures_pure (fun _ hc => hc))

/-- Every turn keeps the invariant, so every run does. -/
theorem Upholds.mainLoop (keys : List UInt16) :
    Ensures Inv (mainLoop P N keys) (fun _ => Inv) Stop :=
  ensures_loop h.turn keys

/-- A run from the start, when the state after the resets is ready for the
first command. -/
theorem Upholds.main {c : Session State ν} (keys : List UInt16)
    (hstart : During .register (registerPieces (resetSession c).app)
      { resetSession c with
        app := (registerPieces (resetSession c).app).foldl oStr
          (resetSession c).app }) :
    Outcome (fun _ => Inv) Stop (main P N keys c) := by
  have hregister : Ensures (fun c' => c' = c) (startUp N) (fun _ => Inv)
      Stop := by
    intro c' heq
    subst heq
    exact h.send .register _ _ hstart
  exact ensures_bind hregister (fun _ => h.mainLoop keys) c rfl

end Upholds

/-!
## Invariants of the state and the trace
-/

variable {I D T : State -> List (Event State ν) -> Prop}

/-- `o_send` turns a property of the command that has been built into the
invariant, when the payload does. -/
theorem ensures_oSend (N : Network ν) (hI : AppInvariant app I T)
    (hD : AppInvariant app D T) {origin : Origin}
    {pieces : List (List UInt8)}
    (hpayload : forall {s : State} {t : List (Event State ν)}, D s t ->
      I { s with out := [] } (t ++ [.payload origin pieces (s.out ++ CRLF)]))
    (hstopped : forall {s : State} {t : List (Event State ν)},
      I { s with out := [] } t -> T s t)
    (hreturn : forall (net : ν) (windowOpen : Bool) {s : State}
      {t : List (Event State ν)}, I s t ->
        I s (t ++ [.returned .send s net windowOpen])) :
    Ensures (On D) (oSend N origin pieces) (fun _ => On I) (On T) := by
  refine ensures_bind (hD.drain N) (fun _ => ?_)
  apply ensures_get_bind
  intro c hc
  -- From here to the reset of out[] the payload is in the trace already.
  let sent : State -> List (Event State ν) -> Prop := fun s t =>
    I { s with out := [] } t
  have hlogged : On sent
      { c with
        trace := c.trace ++ [.payload origin pieces (c.app.out ++ CRLF)] } :=
    hpayload hc
  have hsend : Ensures (On sent) (onNet (N.send (c.app.out ++ CRLF) 0))
      (fun _ => On sent) (On T) := by
    intro c' hc'
    unfold onNet
    rcases N.send (c.app.out ++ CRLF) 0 c'.net with ⟨_ | rc, net⟩
    · exact hstopped hc'
    · exact hc'
  have hreset : Ensures (On sent)
      (modifyApp (fun s => { s with out := [] })) (fun _ => On I)
      (On T) :=
    ensures_modify (fun _ hc' => hc')
  have hfailed : forall rc : Int, Ensures (On I) (reportFailure rc)
      (fun _ => On I) (On T) := by
    intro rc
    unfold reportFailure
    split_ifs
    · exact hI.ensures_logLine _
    · exact ensures_pure (fun _ hc' => hc')
  have hclosed : Ensures (On sent)
      (do
        let rc ← onNet (N.send (c.app.out ++ CRLF) 0)
        setWindow false
        pure rc) (fun _ => On sent) (On T) :=
    ensures_bind hsend
      (fun _ => ensures_bind (ensures_setWindow false)
        (fun _ => ensures_pure (fun _ hc' => hc')))
  have hsendData : Ensures (fun c' => c' = c)
      (sendData N origin pieces (c.app.out ++ CRLF)) (fun _ => On sent)
      (On T) := by
    intro c' heq
    subst heq
    exact hclosed _ hlogged
  have hreturned : Ensures (On I) (returned .send) (fun _ => On I)
      (On T) :=
    ensures_modify (fun c' hc' => hreturn c'.net c'.windowOpen hc')
  exact ensures_bind hsendData
    (fun rc => ensures_bind hreset
      (fun _ => ensures_bind (hfailed rc) (fun _ => hreturned))) c rfl

/-!
## Invariants of the connection
-/

section NetInvariant

variable {J Q : ν -> Prop} (h : NetInvariant N J Q)

include h

theorem onConnection_oSend (origin : Origin) (pieces : List (List UInt8)) :
    Ensures (OnConnection J Q) (oSend N origin pieces)
      (fun _ => OnConnection J Q) (HungUpOnly Q) := by
  have hfailed : forall rc : Int, Ensures (OnConnection J Q)
      (reportFailure rc) (fun _ => OnConnection J Q) (HungUpOnly Q) := by
    intro rc
    unfold reportFailure
    split_ifs
    · exact onConnection_modifyApp _
    · exact ensures_pure (fun _ hc => hc)
  refine ensures_bind (h.drain app) (fun _ => ?_)
  apply ensures_get_bind
  intro c hc
  refine ensures_bind (h.sendData origin pieces _) (fun rc => ?_) c hc
  refine ensures_bind (onConnection_modifyApp _) (fun _ => ?_)
  exact ensures_bind (hfailed rc) (fun _ => onConnection_returned .send)

/-- irc.c touches the connection through the stack only. -/
theorem onConnection_upholds (P : Platform) :
    Upholds P N (OnConnection J Q) (fun _ _ => OnConnection J Q)
      (HungUpOnly Q) where
  poll := h.pollNet app P
  send := onConnection_oSend h
  returned := onConnection_returned
  edit := fun _ _ hc => hc
  reply := fun hc _ => hc
  typed := fun hc _ => hc
  after := fun hc _ => hc
  quit := fun hc => hc
  pong := fun hc _ => hc
  join := fun hc _ _ => hc
  no_join := fun hc => hc

/-- What is known of the connection whenever the server hangs up. -/
theorem atHangUps_ranMain (P : Platform) {net : ν} (hnet : J net)
    (con : Console)
    (nickKeys chanKeys keys : List UInt16) :
    AtHangUps Q (ranMain P N net con nickKeys chanKeys keys).trace := by
  let start : Session State ν :=
    Session.start (State.prompted con nickKeys chanKeys) net
  have hready : forall s : State,
      OnConnection J Q { start with app := s, windowOpen := false } :=
    fun _ => ⟨hnet, atHangUps_nil⟩
  have hrun := (onConnection_upholds h P).main (c := start) keys (hready _)
  unfold ranMain
  rcases hmain : main P N keys
    (Session.start (State.prompted con nickKeys chanKeys) net) with
    ⟨_ | running, c⟩
  · rw [hmain] at hrun
    exact hrun
  · rw [hmain] at hrun
    exact hrun.right

end NetInvariant

end Irc
end Z80Tcpip
