import Z80Tcpip.Client.Segments
import Z80Tcpip.Foundation.Simulation

/-!
# Two clients side by side

Two clients whose states stand in a relation that `show_data` and `log_line`
keep, on connections that answer alike, take the same way through the functions
that the clients share.
-/

namespace Z80Tcpip
namespace Client

open Foundation
open Foundation.Program

variable {α β ν μ κ : Type}

structure AppsAlike (A : App α) (B : App β) (R : α -> β -> Prop) : Prop where
  showData : forall (data : List UInt8) {a : α} {b : β},
    R a b -> R (A.showData data a) (B.showData data b)
  logLine : forall {text : List UInt8}, 0 ∉ text -> forall {a : α} {b : β},
    R a b -> R (A.logLine text a) (B.logLine text b)

structure NetsAlike (N : Network ν) (M : Network μ) (Q : ν -> μ -> Prop) :
    Prop where
  send : forall (bytes : List UInt8) (window : UInt16) {x : ν} {y : μ},
    Q x y -> Mirrors (N.send bytes window) x (M.send bytes window) y
      (fun _ => Q) Q
  recv : forall {x : ν} {y : μ}, Q x y ->
    Mirrors N.recv x M.recv y (fun _ => Q) Q
  rxBuffer : forall {x : ν} {y : μ}, Q x y -> N.rxBuffer x = M.rxBuffer y
  headerFlags : forall {x : ν} {y : μ}, Q x y ->
    N.headerFlags x = M.headerFlags y

theorem mirrors_same (p : Program ν κ) (x : ν) :
    Mirrors p x p x (fun _ => Eq) Eq := by
  rcases hrun : p x with ⟨_ | a, y⟩
  · exact mirrors_stopped hrun hrun rfl
  · exact mirrors_of_eq hrun hrun rfl

theorem netsAlike_same (N : Network ν) : NetsAlike N N Eq where
  send := by
    intro bytes window x y h
    rw [h]
    exact mirrors_same (N.send bytes window) y
  recv := by
    intro x y h
    rw [h]
    exact mirrors_same N.recv y
  rxBuffer := fun h => congrArg N.rxBuffer h
  headerFlags := fun h => congrArg N.headerFlags h

/-- A connection that keeps reports answers as the one behind it. -/
theorem netsAlike_hearing (N : Network ν) :
    NetsAlike (hearing N) N (fun x y => x.1 = y) where
  send := by
    intro bytes window x y h
    rw [<- h]
    rcases hrun : N.send bytes window x.1 with ⟨rc, net⟩
    have hheard : (hearing N).send bytes window x =
        heard x.2 (fun rc _ => .sent bytes rc) (rc, net) := by
      rw [<- hrun]
      rfl
    cases rc with
    | none => exact mirrors_stopped hheard hrun rfl
    | some rc => exact mirrors_of_eq hheard hrun rfl
  recv := by
    intro x y h
    rw [<- h]
    rcases hrun : N.recv x.1 with ⟨rc, net⟩
    have hheard : (hearing N).recv x =
        heard x.2
          (fun rc net =>
            .received rc (N.headerFlags net) (N.rxBuffer net rc.toNat))
          (rc, net) := by
      rw [<- hrun]
      rfl
    cases rc with
    | none => exact mirrors_stopped hheard hrun rfl
    | some rc => exact mirrors_of_eq hheard hrun rfl
  rxBuffer := fun h => congrArg N.rxBuffer h
  headerFlags := fun h => congrArg N.headerFlags h

theorem mirrors_symm {p : Program ν κ} {x : ν} {q : Program μ κ} {y : μ}
    {Q : ν -> μ -> Prop} (h : Mirrors p x q y (fun _ => Q) Q) :
    Mirrors q y p x (fun _ y x => Q x y) (fun y x => Q x y) := by
  cases h with
  | inl hsome =>
      rcases hsome with ⟨a, x', y', hp, hq, hxy⟩
      exact mirrors_of_eq hq hp hxy
  | inr hnone =>
      rcases hnone with ⟨x', y', hp, hq, hxy⟩
      exact mirrors_stopped hq hp hxy

theorem NetsAlike.symm {N : Network ν} {M : Network μ} {Q : ν -> μ -> Prop}
    (h : NetsAlike N M Q) : NetsAlike M N (fun y x => Q x y) where
  send := fun bytes window _ _ hxy => mirrors_symm (h.send bytes window hxy)
  recv := fun hxy => mirrors_symm (h.recv hxy)
  rxBuffer := fun hxy => (h.rxBuffer hxy).symm
  headerFlags := fun hxy => (h.headerFlags hxy).symm

/-!
## Two sessions
-/

/-- The state that an event reports has one that stands beside it. -/
def Matched (R : α -> β -> Prop) : Event α ν -> Prop
  | .returned _ a _ _ => exists b : β, R a b
  | .payload _ _ _ => True
  | .hungUp a _ => exists b : β, R a b

structure Together (R : α -> β -> Prop) (Q : ν -> μ -> Prop)
    (c : Session α ν) (d : Session β μ) : Prop where
  app : R c.app d.app
  net : Q c.net d.net
  windowOpen : c.windowOpen = d.windowOpen
  payloads : payloadsOf c.trace = payloadsOf d.trace
  matched : forall e : Event α ν, e ∈ c.trace -> Matched R e

section Together

variable {R : α -> β -> Prop} {Q : ν -> μ -> Prop} {c : Session α ν}
  {d : Session β μ}

theorem Together.withApp (h : Together R Q c d) {a : α} {b : β} (hab : R a b) :
    Together R Q { c with app := a } { d with app := b } :=
  { h with
    app := hab }

theorem Together.withNet (h : Together R Q c d) {x : ν} {y : μ}
    (hxy : Q x y) : Together R Q { c with net := x } { d with net := y } :=
  { h with
    net := hxy }

theorem Together.withWindow (h : Together R Q c d) (isOpen : Bool) :
    Together R Q { c with windowOpen := isOpen }
      { d with windowOpen := isOpen } :=
  { h with
    windowOpen := rfl }

/-- Both traces get an event with the same payload, if any. -/
theorem Together.withEvents (h : Together R Q c d) {e : Event α ν}
    {e' : Event β μ} (hpayload : payloadOf e = payloadOf e')
    (he : Matched R e) :
    Together R Q { c with trace := c.trace ++ [e] }
      { d with trace := d.trace ++ [e'] } :=
  { h with
    payloads := by
      show payloadsOf (c.trace ++ [e]) = payloadsOf (d.trace ++ [e'])
      rw [payloadsOf_append, payloadsOf_append, h.payloads, hpayload]
    matched := by
      intro e'' he''
      cases List.mem_append.mp he'' with
      | inl hold => exact h.matched e'' hold
      | inr hnew =>
          rw [List.mem_singleton.mp hnew]
          exact he }

theorem modifyApp_together (h : Together R Q c d) {f : α -> α} {g : β -> β}
    (hfg : R (f c.app) (g d.app)) :
    Mirrors (modifyApp f) c (modifyApp g) d (fun _ => Together R Q)
      (Together R Q) :=
  mirrors_modify (h.withApp hfg)

theorem setWindow_together (h : Together R Q c d) (isOpen : Bool) :
    Mirrors (setWindow isOpen) c (setWindow isOpen) d
      (fun _ => Together R Q) (Together R Q) :=
  mirrors_modify (h.withWindow isOpen)

theorem returned_together (h : Together R Q c d) (call : Call) :
    Mirrors (returned call) c (returned call) d (fun _ => Together R Q)
      (Together R Q) := by
  have hmatched : Matched R (.returned call c.app c.net c.windowOpen) :=
    ⟨d.app, h.app⟩
  exact mirrors_modify (h.withEvents rfl hmatched)

theorem onNet_together (h : Together R Q c d) {p : Program ν κ}
    {q : Program μ κ}
    (hpq : Mirrors p c.net q d.net (fun _ => Q) Q) :
    Mirrors (onNet p) c (onNet q) d (fun _ => Together R Q)
      (Together R Q) := by
  cases hpq with
  | inl hsome =>
      rcases hsome with ⟨a, x, y, hp, hq, hxy⟩
      have hleft : onNet p c = (some a, { c with net := x }) := by
        unfold onNet
        rw [hp]
      have hright : onNet q d = (some a, { d with net := y }) := by
        unfold onNet
        rw [hq]
      exact mirrors_of_eq hleft hright (h.withNet hxy)
  | inr hnone =>
      rcases hnone with ⟨x, y, hp, hq, hxy⟩
      have hleft : onNet p c = (none, { c with net := x }) := by
        unfold onNet
        rw [hp]
      have hright : onNet q d = (none, { d with net := y }) := by
        unfold onNet
        rw [hq]
      exact mirrors_stopped hleft hright (h.withNet hxy)

end Together

/-!
## The shared functions
-/

section Alike

variable {A : App α} {B : App β} {N : Network ν} {M : Network μ}
  {R : α -> β -> Prop} {Q : ν -> μ -> Prop} {c : Session α ν}
  {d : Session β μ} (hA : AppsAlike A B R) (hN : NetsAlike N M Q)

include hN

theorem sendData_together (h : Together R Q c d) (origin origin' : Origin)
    (pieces pieces' : List (List UInt8)) (bytes : List UInt8) :
    Mirrors (sendData N origin pieces bytes) c
      (sendData M origin' pieces' bytes) d (fun _ => Together R Q)
      (Together R Q) := by
  have hlog : Mirrors (log (.payload origin pieces bytes)) c
      (log (.payload origin' pieces' bytes)) d (fun _ => Together R Q)
      (Together R Q) :=
    mirrors_modify (h.withEvents rfl trivial)
  refine hlog.bind (fun _ c' d' h' => ?_)
  refine (onNet_together h' (hN.send bytes 0 h'.net)).bind
    (fun rc c' d' h' => ?_)
  exact (setWindow_together h' false).bind
    (fun _ _ _ h' => mirrors_pure h')

theorem openIfClosed_together (h : Together R Q c d) :
    Mirrors (openIfClosed N) c (openIfClosed M) d (fun _ => Together R Q)
      (Together R Q) := by
  have hbranch : Mirrors
      (if c.windowOpen = true then pure ()
        else do
          let _ ← onNet (N.send [] RX_WINDOW)
          setWindow true) c
      (if d.windowOpen = true then pure ()
        else do
          let _ ← onNet (M.send [] RX_WINDOW)
          setWindow true) d
      (fun _ => Together R Q) (Together R Q) := by
    rw [h.windowOpen]
    split_ifs
    · exact mirrors_pure h
    · exact (onNet_together h (hN.send [] RX_WINDOW h.net)).bind
        (fun _ _ _ h' => setWindow_together h' true)
  exact hbranch

include hA

theorem handOver_together (h : Together R Q c d) (rc : Int) :
    Mirrors (handOver A N rc) c (handOver B M rc) d
      (fun _ => Together R Q) (Together R Q) := by
  have hshow : Mirrors
      (modifyApp (A.showData (N.rxBuffer c.net rc.toNat)) >>=
        fun _ => returned .showData) c
      (modifyApp (B.showData (M.rxBuffer d.net rc.toNat)) >>=
        fun _ => returned .showData) d
      (fun _ => Together R Q) (Together R Q) := by
    rw [hN.rxBuffer h.net]
    exact (modifyApp_together h (hA.showData _ h.app)).bind
      (fun _ _ _ h' => returned_together h' .showData)
  exact hshow

theorem drainOnce_together (h : Together R Q c d) :
    Mirrors (drainOnce A N) c (drainOnce B M) d (fun _ => Together R Q)
      (Together R Q) := by
  refine (onNet_together h (hN.recv h.net)).bind (fun rc c' d' h' => ?_)
  split_ifs
  · exact handOver_together hA hN h' rc
  · exact mirrors_pure h'

theorem drain_together (h : Together R Q c d) :
    Mirrors (drain A N) c (drain B M) d (fun _ => Together R Q)
      (Together R Q) := by
  refine (onNet_together h (hN.send [] 0 h.net)).bind (fun _ c' d' h' => ?_)
  refine (setWindow_together h' false).bind (fun _ c' d' h' => ?_)
  refine (drainOnce_together hA hN h').bind (fun _ c' d' h' => ?_)
  exact (drainOnce_together hA hN h').bind
    (fun _ _ _ h' => drainOnce_together hA hN h')

omit hN in
theorem goodbye_together (h : Together R Q c d) (g : Goodbye) :
    Mirrors (modifyApp (A.logLine g.text) >>= fun _ => pure (-1 : Int)) c
      (modifyApp (B.logLine g.text) >>= fun _ => pure (-1)) d
      (fun _ => Together R Q) (Together R Q) := by
  have htext : 0 ∉ g.text := by
    cases g with
    | reset => decide
    | closed => decide
  exact (modifyApp_together h (hA.logLine htext h.app)).bind
    (fun _ _ _ h' => mirrors_pure h')

theorem afterPoll_together (P : Platform) (h : Together R Q c d) (rc : Int) :
    Mirrors (afterPoll P A N rc) c (afterPoll P B M rc) d
      (fun _ => Together R Q) (Together R Q) := by
  unfold afterPoll
  split_ifs
  · exact mirrors_pure h
  · exact goodbye_together hA h .reset
  · exact mirrors_pure h
  · refine (setWindow_together h false).bind (fun _ c' d' h' => ?_)
    exact (handOver_together hA hN h' rc).bind
      (fun _ _ _ h' => mirrors_pure h')
  · have hflags : Mirrors
        (if N.headerFlags c.net &&& TCP_FIN ≠ 0 then do
          log (.hungUp c.app c.net)
          modifyApp (A.logLine (ascii "*** server closed the connection"))
          pure (-1 : Int)
        else pure 0) c
        (if M.headerFlags d.net &&& TCP_FIN ≠ 0 then do
          log (.hungUp d.app d.net)
          modifyApp (B.logLine (ascii "*** server closed the connection"))
          pure (-1)
        else pure 0) d
        (fun _ => Together R Q) (Together R Q) := by
      rw [hN.headerFlags h.net]
      split_ifs
      · have hlog : Mirrors (log (.hungUp c.app c.net)) c
            (log (.hungUp d.app d.net)) d (fun _ => Together R Q)
            (Together R Q) :=
          mirrors_modify (h.withEvents rfl ⟨d.app, h.app⟩)
        exact hlog.bind
          (fun _ _ _ h' => goodbye_together hA h' .closed)
      · exact mirrors_pure h
    exact hflags

theorem pollNet_together (P : Platform) (h : Together R Q c d) :
    Mirrors (pollNet P A N) c (pollNet P B M) d (fun _ => Together R Q)
      (Together R Q) := by
  refine (openIfClosed_together hN h).bind (fun _ c' d' h' => ?_)
  refine (onNet_together h' (hN.recv h'.net)).bind (fun rc c' d' h' => ?_)
  refine (afterPoll_together hA hN P h' rc).bind (fun result c' d' h' => ?_)
  exact (returned_together h' .pollNet).bind
    (fun _ _ _ h' => mirrors_pure h')

end Alike

end Client
end Z80Tcpip
