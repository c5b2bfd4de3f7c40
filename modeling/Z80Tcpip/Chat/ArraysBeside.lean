import Z80Tcpip.Chat.Represents
import Z80Tcpip.Client.SideBySide

/-!
# A chat in memory beside a chat on lists

The two programs make the same calls, on connections that answer alike, and the
memory stands for the state whenever one of them is made.
-/

namespace Z80Tcpip
namespace Chat
namespace Machine

open Foundation
open Foundation.Program
open Foundation.Memory
open Client

variable {ν μ α : Type} {P : Platform} {N : Network ν} {M : Network μ}
  {Q : ν -> μ -> Prop} {c : Session Machine ν} {d : Session State μ}

/-- The memory stands for the state, on connections that stand in `Q`. -/
abbrev Beside (Q : ν -> μ -> Prop) (c : Session Machine ν)
    (d : Session State μ) : Prop :=
  Together Represents Q c d

theorem app_alike : AppsAlike Machine.app Chat.app Represents where
  showData := by
    intro data m s h
    rcases showData_shows h data with ⟨_, m', hrun, h'⟩
    show Represents (showData data m).2 _
    rw [hrun]
    exact h'
  logLine := by
    intro text htext m s h
    rcases logLine_logs h.toStands (holds_literal m.mem htext) with
      ⟨_, m', hrun, hstands, hlen⟩
    show Represents (logLine (lit text) m).2 _
    have hrun' : logLine (lit text) m = (some (), m') := hrun
    rw [hrun']
    refine ⟨hstands, ?_⟩
    rw [hlen]
    exact h.short

theorem onApp_run {p : Program Machine α} {a : α} {m : Machine}
    (h : p c.app = (some a, m)) :
    onApp p c = (some a, { c with app := m }) := by
  unfold onApp
  rw [h]

/-- A part that changes the client and nothing else. -/
theorem onApp_beside (h : Beside Q c d) {p : Program Machine Unit}
    {f : State -> State}
    (hp : p.Returns c.app (fun _ m => Represents m (f d.app))) :
    Mirrors (onApp p) c (modifyApp f) d (fun _ => Beside Q) (Beside Q) := by
  rcases hp with ⟨_, m, hrun, hrep⟩
  exact mirrors_of_eq (onApp_run hrun) rfl (h.withApp hrep)

/-!
## Sending
-/

/-- The echo, and the line behind it that tells of a failure. -/
theorem echo_beside (h : Beside Q c d) (rc : Int) :
    Mirrors
      (onApp (do
        echo
        reportFailure rc)) c
      (do
        modifyApp Chat.echo
        Chat.reportFailure rc) d
      (fun _ => Beside Q) (Beside Q) := by
  have hboth : (echo >>= fun _ => reportFailure rc).Returns c.app
      (fun _ m => Represents m (if rc < 0 then
        Chat.logLine (ascii "*** send failed") (Chat.echo d.app)
      else Chat.echo d.app)) :=
    (echo_echoes h.app).bind (fun _ _ h' => reportFailure_reports h' rc)
  rcases hboth with ⟨_, m, hrun, hrep⟩
  refine mirrors_of_eq (a := ()) (onApp_run hrun) ?_ (h.withApp hrep)
  unfold Chat.reportFailure
  split_ifs
  · rfl
  · rfl

theorem sendLine_beside (hN : NetsAlike N M Q) (h : Beside Q c d) :
    Mirrors (sendLine N) c (Chat.sendLine M) d (fun _ => Beside Q)
      (Beside Q) := by
  refine (drain_together app_alike hN h).bind (fun _ c1 d1 h1 => ?_)
  rcases finishInput_finishes h1.app with ⟨_, m, hrun, rfl, hrep⟩
  have hfinished : Beside Q { c1 with app := m } d1 :=
    h1.withApp hrep
  refine mirrors_left (onApp_run hrun) ?_
  have hsend := sendData_together hN hfinished .typed .typed
    [d1.app.screen.input ++ [10]] [d1.app.screen.input, [10]]
    (d1.app.screen.input ++ [10])
  have hrest : Mirrors
      (do
        let rc ← sendData N .typed [d1.app.screen.input ++ [10]]
          (d1.app.screen.input ++ [10])
        onApp (do
          echo
          reportFailure rc)
        returned .send) { c1 with app := m }
      (do
        let rc ← sendData M .typed [d1.app.screen.input, [10]]
          (d1.app.screen.input ++ [10])
        modifyApp Chat.echo
        Chat.reportFailure rc
        returned .send) d1
      (fun _ => Beside Q) (Beside Q) := by
    refine hsend.bind (fun rc c2 d2 h2 => ?_)
    have hecho := (echo_beside h2 rc).bind
      (fun _ _ _ h3 => returned_together h3 .send)
    exact hecho.of_eq rfl (bind_assoc_apply _ _ _ _).symm
  exact hrest

theorem sendInput_beside (hN : NetsAlike N M Q) (h : Beside Q c d) :
    Mirrors (sendInput N) c (Chat.sendInput M) d (fun _ => Beside Q)
      (Beside Q) := by
  have hnone : c.app.inputLen = 0 <-> d.app.screen.input = [] := by
    rw [<- h.app.toStands.input_length, List.length_eq_zero_iff]
  have hbranch : Mirrors
      (if c.app.inputLen = 0 then returned .send else sendLine N) c
      (if d.app.screen.input = [] then returned .send else Chat.sendLine M) d
      (fun _ => Beside Q) (Beside Q) := by
    by_cases hempty : d.app.screen.input = []
    · rw [if_pos (hnone.mpr hempty), if_pos hempty]
      exact returned_together h .send
    · rw [if_neg (fun hlen => hempty (hnone.mp hlen)), if_neg hempty]
      exact sendLine_beside hN h
  exact hbranch

/-!
## The loop
-/

theorem keyAction_beside (hN : NetsAlike N M Q) (h : Beside Q c d)
    (k : UInt16) :
    Mirrors (keyAction N k) c (Chat.keyAction M k) d (fun _ => Beside Q)
      (Beside Q) := by
  unfold keyAction Chat.keyAction
  by_cases henter : k = KEY_ENTER
  · rw [if_pos henter, if_pos henter]
    exact (sendInput_beside hN h).bind (fun _ _ _ h' => mirrors_pure h')
  · rw [if_neg henter, if_neg henter]
    by_cases hquit : k = KEY_QUIT
    · rw [if_pos hquit, if_pos hquit]
      exact mirrors_pure h
    · rw [if_neg hquit, if_neg hquit]
      exact (onApp_beside h (editKey_edits h.app k)).bind
        (fun _ _ _ h' => mirrors_pure h')

theorem pressKey_beside (hN : NetsAlike N M Q) (h : Beside Q c d)
    (k : UInt16) :
    Mirrors (pressKey N k) c (Chat.pressKey M k) d (fun _ => Beside Q)
      (Beside Q) := by
  unfold pressKey Chat.pressKey
  split_ifs
  · exact mirrors_pure h
  · refine (keyAction_beside hN h k).bind (fun rc c' d' h' => ?_)
    exact (returned_together h' .handleKey).bind
      (fun _ _ _ h'' => mirrors_pure h'')

theorem turn_beside (P : Platform) (hN : NetsAlike N M Q)
    (h : Beside Q c d) (k : UInt16) :
    Mirrors (turn P N k) c (Chat.turn P M k) d (fun _ => Beside Q)
      (Beside Q) := by
  refine (pressKey_beside hN h k).bind (fun rc c' d' h' => ?_)
  split_ifs
  · exact mirrors_pure h'
  · exact (pollNet_together app_alike hN P h').bind
      (fun _ _ _ h'' => mirrors_pure h'')

theorem main_beside (P : Platform) (hN : NetsAlike N M Q)
    (h : Beside Q c d) (keys : List UInt16) :
    Mirrors (main P N keys) c (Chat.main P M keys) d (fun _ => Beside Q)
      (Beside Q) := by
  have hreset : Mirrors
      (do
        onApp reset
        setWindow false) c (Program.modify Chat.resetSession) d
      (fun _ => Beside Q) (Beside Q) := by
    rcases reset_resets h.app with ⟨_, m, hrun, hrep⟩
    have hleft := bind_some (onApp_run hrun) (fun _ => setWindow false)
    exact mirrors_of_eq hleft rfl ((h.withApp hrep).withWindow false)
  have hloop := hreset.bind (fun _ c' d' h' =>
    mirrors_loop (fun k _ _ h'' => turn_beside P hN h'' k) keys h')
  exact hloop.of_eq (bind_assoc_apply _ _ _ _).symm rfl

end Machine
end Chat
end Z80Tcpip
