import Z80Tcpip.Client.Session

/-!
# What a connection has delivered

The bytes that a client takes from its connection, whichever call of
`tcp_recv_timeout` brings them and however they are cut into segments.  A
recorded connection writes them down; it does all else as the one behind it.
-/

namespace Z80Tcpip
namespace Client

open Foundation

variable {α ν : Type}

/-- What a call of `tcp_recv_timeout` with the result `rc` brings. -/
def Network.taken (N : Network ν) (rc : Int) (net : ν) : List UInt8 :=
  if 0 < rc then N.rxBuffer net rc.toNat else []

theorem Network.taken_of_pos (N : Network ν) {rc : Int} (h : 0 < rc)
    (net : ν) : N.taken rc net = N.rxBuffer net rc.toNat := by
  rw [Network.taken, if_pos h]

theorem Network.taken_of_not_pos (N : Network ν) {rc : Int} (h : ¬ 0 < rc)
    (net : ν) : N.taken rc net = [] := by
  rw [Network.taken, if_neg h]

/-- `K data net`: by its state, the connection has delivered `data`. -/
structure Counts (N : Network ν) (K : List UInt8 -> ν -> Prop) : Prop where
  send : forall (data : List UInt8) (net : ν) (bytes : List UInt8)
    (window : UInt16), K data net -> K data (N.send bytes window net).2
  received : forall (data : List UInt8) (net net' : ν) (rc : Int),
    K data net -> N.recv net = (some rc, net') ->
      K (data ++ N.taken rc net') net'
  stopped : forall (data : List UInt8) (net net' : ν),
    K data net -> N.recv net = (none, net') -> K data net'

theorem counts_nothing (N : Network ν) : Counts N (fun _ _ => True) where
  send := fun _ _ _ _ _ => trivial
  received := fun _ _ _ _ _ _ => trivial
  stopped := fun _ _ _ _ _ => trivial

/-!
## A recorded connection
-/

/-- The record of a call of `tcp_recv_timeout` that came back like this. -/
def record (N : Network ν) (data : List UInt8) :
    Option Int × ν -> Option Int × (ν × List UInt8)
  | (some rc, net) => (some rc, (net, data ++ N.taken rc net))
  | (none, net) => (none, (net, data))

def recorded (N : Network ν) : Network (ν × List UInt8) where
  send := fun bytes window x =>
    ((N.send bytes window x.1).1, ((N.send bytes window x.1).2, x.2))
  recv := fun x => record N x.2 (N.recv x.1)
  rxBuffer := fun x n => N.rxBuffer x.1 n
  headerFlags := fun x => N.headerFlags x.1

theorem counts_recorded (N : Network ν) :
    Counts (recorded N) (fun data x => x.2 = data) where
  send := fun _ _ _ _ h => h
  received := by
    intro data x x' rc h hrecv
    have hrecord : record N x.2 (N.recv x.1) = (some rc, x') := hrecv
    rcases hrun : N.recv x.1 with ⟨_ | rc', net'⟩
    · rw [hrun] at hrecord
      cases hrecord
    · rw [hrun] at hrecord
      cases hrecord
      rw [<- h]
      rfl
  stopped := by
    intro data x x' h hrecv
    have hrecord : record N x.2 (N.recv x.1) = (none, x') := hrecv
    rcases hrun : N.recv x.1 with ⟨_ | rc', net'⟩
    · rw [hrun] at hrecord
      cases hrecord
      exact h
    · rw [hrun] at hrecord
      cases hrecord

/-!
## At every return
-/

/-- In the state that a run leaves, and whenever a traced call has returned. -/
def Throughout (Q : α -> ν -> Prop) (c : Session α ν) : Prop :=
  Q c.app c.net ∧
    forall (call : Call) (app : α) (net : ν) (windowOpen : Bool),
      Event.returned call app net windowOpen ∈ c.trace -> Q app net

end Client
end Z80Tcpip
