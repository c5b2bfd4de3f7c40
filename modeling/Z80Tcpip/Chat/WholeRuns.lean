import Z80Tcpip.Chat.QuestionsInMemory

/-!
# tcp_chat.c from its start

From the first question to the end of the loop the program on its arrays does
what the program on lists does, and none of its accesses is a fault.
-/

namespace Z80Tcpip
namespace Chat

open Foundation
open Foundation.Program
open Foundation.Memory
open Client

variable {ν μ α : Type} {P : Platform} {N : Network ν} {M : Network μ}
  {Q : ν -> μ -> Prop} {dial : Dial ν} {dial' : Dial μ}

/-- The two connections come up alike. -/
def DialsAlike (dial : Dial ν) (dial' : Dial μ) (Q : ν -> μ -> Prop) : Prop :=
  forall (server : Server) {x : ν} {y : μ}, Q x y ->
    Mirrors (dial server) x (dial' server) y (fun _ => Q) Q

theorem dialsAlike_same (dial : Dial ν) : DialsAlike dial dial Eq := by
  intro server x y h
  rw [h]
  exact mirrors_same (dial server) y

namespace Machine

/-- A question within the session. -/
theorem onApp_asks {c : Session Machine ν} {d : Session State μ}
    (h : Beside Q c d) {p : Program Machine α} {q : Program Console α}
    (hp : Asks p c.app q) :
    Mirrors (onApp p) c (onConsole q) d (fun _ => Beside Q) (Beside Q) := by
  have hcon : c.app.con = d.app.screen.con := h.app.con
  unfold Asks at hp
  rw [hcon] at hp
  cases hp with
  | inl hsome =>
      rcases hsome with ⟨a, m, con, hleft, hright, hasked⟩
      have hrun : onConsole q d = (some a,
          { d with
            app :=
              { d.app with screen := { d.app.screen with con := con } } }) := by
        unfold onConsole
        rw [hright]
      exact mirrors_of_eq (onApp_run hleft) hrun
        (h.withApp (hasked.represents h.app))
  | inr hnone =>
      rcases hnone with ⟨m, con, hleft, hright, hasked⟩
      have hstop : onApp p c = (none, { c with app := m }) := by
        unfold onApp
        rw [hleft]
      have hstop' : onConsole q d = (none,
          { d with
            app :=
              { d.app with screen := { d.app.screen with con := con } } }) := by
        unfold onConsole
        rw [hright]
      exact mirrors_stopped hstop hstop'
        (h.withApp (hasked.represents h.app))

theorem program_beside (P : Platform) (hN : NetsAlike N M Q)
    (hdial : DialsAlike dial dial' Q) {c : Session Machine ν}
    {d : Session State μ} (h : Beside Q c d)
    (hip : (c.app.mem.block .daddr).bytes = [0, 0, 0, 0])
    (keys : List UInt16) :
    Mirrors (program P N dial keys) c (Chat.program P M dial' keys) d
      (fun _ => Beside Q) (Beside Q) := by
  refine (onApp_asks h (askServer_asks keys hip)).bind
    (fun asked c1 d1 h1 => ?_)
  refine (onNet_together h1 (hdial asked.1 h1.net)).bind
    (fun rc c2 d2 h2 => ?_)
  split_ifs
  · refine (onApp_asks h2 (asks_printText (f := fun _ => pure ()) _
      (asks_pure () _))).bind (fun _ _ _ h3 => mirrors_pure h3)
  · exact main_beside P hN h2 asked.2

theorem initial_represents (con : Console) :
    Represents (Machine.initial con) (State.initial con) where
  faults := rfl
  con := rfl
  inputLen := Nat.zero_le _
  input := rfl
  input_text := nofun
  loglineLen := Nat.zero_le _
  logline := rfl
  logline_text := nofun
  loglineEmitted := rfl
  short := Nat.zero_lt_succ _

theorem initial_beside {x : ν} {y : μ} (h : Q x y) (con : Console) :
    Beside Q (Session.start (Machine.initial con) x)
      (Session.start (State.initial con) y) where
  app := initial_represents con
  net := h
  windowOpen := rfl
  payloads := rfl
  matched := nofun

end Machine

/-- Whatever is typed, whatever the dialling and the connection do: the program on
its arrays ends as the program on lists does.  It leaves the connection in the
same state, has passed it the same payloads, and has the same screen and
variables.  Neither then nor at the return of any traced call has an access been
a fault. -/
theorem arrays_chat_like_lists (P : Platform) (N : Network ν) (dial : Dial ν)
    (net : ν) (con : Console) (keys : List UInt16) :
    Mirrors (Machine.program P N dial keys)
      (Session.start (Machine.initial con) net)
      (program P N dial keys) (Session.start (State.initial con) net)
      (fun _ => Together Represents Eq) (Together Represents Eq) :=
  Machine.program_beside P (netsAlike_same N) (dialsAlike_same dial)
    (Machine.initial_beside rfl con) rfl keys

end Chat
end Z80Tcpip
