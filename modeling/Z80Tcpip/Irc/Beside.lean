import Z80Tcpip.Client.Delivered
import Z80Tcpip.Foundation.Simulation
import Z80Tcpip.Irc.KeysInMemory

/-!
# A session in memory beside a session on lists

The two sessions of irc.c make the same calls on the same connection.  What is
kept is that the memory stands for the state, after just the bytes that the
connection has delivered, now and whenever a traced call has returned.
-/

namespace Z80Tcpip
namespace Irc

open Foundation
open Foundation.Program
open Foundation.Memory
open Client

variable {ν α : Type}

def Shows (K : List UInt8 -> ν -> Prop) (m : Machine) (net : ν) : Prop :=
  exists (b : Buffer (MAX_INPUT + 2)) (r : List UInt8) (s : State),
    Represents b r m s ∧ K r net

def Reported (K : List UInt8 -> ν -> Prop) : Event Machine ν -> Prop
  | .returned _ m net _ => Shows K m net
  | .payload _ _ _ => True
  | .hungUp m net => Shows K m net

/-- The client has been handed `r`, the connection has delivered `r'`. -/
structure Pairs (K : List UInt8 -> ν -> Prop) (b : Buffer (MAX_INPUT + 2))
    (r r' : List UInt8) (c : Session Machine ν) (d : Session State ν) :
    Prop where
  represents : Represents b r c.app d.app
  counted : K r' c.net
  net : c.net = d.net
  windowOpen : c.windowOpen = d.windowOpen
  reported : forall e : Event Machine ν, e ∈ c.trace -> Reported K e

/-- All that has been delivered has been handed over. -/
def Beside (K : List UInt8 -> ν -> Prop) (b : Buffer (MAX_INPUT + 2))
    (c : Session Machine ν) (d : Session State ν) : Prop :=
  exists r : List UInt8, Pairs K b r r c d

/-- What is left of that when a call of the stack has not returned: `out` may
have its CR and LF already. -/
def Stopped (K : List UInt8 -> ν -> Prop) (c : Session Machine ν)
    (d : Session State ν) : Prop :=
  exists (b : Buffer (MAX_INPUT + 2)) (m : Machine),
    Beside K b { c with app := m } d ∧ SameBut .out m.mem c.app.mem ∧
      c.app = { m with mem := c.app.mem, outLen := c.app.outLen }

section Pairs

variable {K : List UInt8 -> ν -> Prop} {b : Buffer (MAX_INPUT + 2)}
  {r r' : List UInt8} {c : Session Machine ν} {d : Session State ν}

theorem Beside.stopped (h : Beside K b c d) : Stopped K c d :=
  ⟨b, c.app, h, SameBut.refl _ _, rfl⟩

theorem Pairs.withApp (h : Pairs K b r r' c d) {b' : Buffer (MAX_INPUT + 2)}
    {r'' : List UInt8} {m : Machine} {s : State}
    (hrep : Represents b' r'' m s) :
    Pairs K b' r'' r' { c with app := m } { d with app := s } :=
  { h with
    represents := hrep }

theorem Pairs.withWindow (h : Pairs K b r r' c d) (isOpen : Bool) :
    Pairs K b r r' { c with windowOpen := isOpen }
      { d with windowOpen := isOpen } :=
  { h with
    windowOpen := rfl }

theorem Pairs.withNet (h : Pairs K b r r' c d) {r'' : List UInt8} {net : ν}
    (hcounted : K r'' net) :
    Pairs K b r r'' { c with net := net } { d with net := net } :=
  { h with
    counted := hcounted
    net := rfl }

/-- Another trace on the right, and one more event on the left. -/
theorem Pairs.withTrace (h : Pairs K b r r' c d) {e : Event Machine ν}
    (he : Reported K e) (trace : List (Event State ν)) :
    Pairs K b r r' { c with trace := c.trace ++ [e] }
      { d with trace := trace } :=
  { h with
    reported := by
      intro e' he'
      cases List.mem_append.mp he' with
      | inl hold => exact h.reported e' hold
      | inr hnew =>
          rw [List.mem_singleton.mp hnew]
          exact he }

theorem Pairs.withRightTrace (h : Pairs K b r r' c d)
    (trace : List (Event State ν)) :
    Pairs K b r r' c { d with trace := trace } :=
  { h with }

end Pairs

namespace Machine

variable {K : List UInt8 -> ν -> Prop} {b : Buffer (MAX_INPUT + 2)}
  {r r' : List UInt8} {c : Session Machine ν} {d : Session State ν}
  {N : Network ν} {m : Machine} {s : State}

/-!
## The parts of a call
-/

theorem onApp_run {p : Program Machine α} {a : α} {m : Machine}
    (h : p c.app = (some a, m)) :
    onApp p c = (some a, { c with app := m }) := by
  unfold onApp
  rw [h]

theorem onApp_returns {p : Program Machine α} {post : α -> Machine -> Prop}
    (h : p.Returns c.app post) :
    (onApp p).Returns c (fun a c' =>
      exists m : Machine, c' = { c with app := m } ∧ post a m) := by
  rcases h with ⟨a, m, hrun, hpost⟩
  exact returns_of_eq (onApp_run hrun) ⟨m, rfl, hpost⟩

theorem onVars_of_eq {p : Program (Memory layout) α} {a : α}
    (h : p c.app.mem = (some a, c.app.mem)) :
    (onVars p : Program (Session Machine ν) α) c = (some a, c) :=
  onApp_run (onMem_of_eq h)

/-- A part that changes the client and nothing else.  What the memory stands for
in front of it is not asked. -/
theorem onApp_from {p : Program Machine Unit} {f : State -> State}
    {b' : Buffer (MAX_INPUT + 2)} (h : Pairs K b' r r { c with app := m } d)
    (hp : p.Returns c.app (fun _ m' => Represents b r m' (f d.app))) :
    Mirrors (onApp p) c (modifyApp f) d (fun _ => Beside K b)
      (Stopped K) := by
  rcases onApp_returns hp with ⟨_, c', hrun, m', rfl, hrep⟩
  exact mirrors_of_eq hrun rfl ⟨r, h.withApp hrep⟩

theorem onApp_beside {p : Program Machine Unit} {f : State -> State}
    (h : Beside K b c d)
    (hp : forall r : List UInt8, Represents b r c.app d.app ->
      p.Returns c.app (fun _ m' => Represents b r m' (f d.app))) :
    Mirrors (onApp p) c (modifyApp f) d (fun _ => Beside K b)
      (Stopped K) := by
  rcases h with ⟨r, hpairs⟩
  exact onApp_from (m := c.app) hpairs (hp r hpairs.represents)

theorem setWindow_beside (h : Beside K b c d) (isOpen : Bool) :
    Mirrors (setWindow isOpen) c (setWindow isOpen) d (fun _ => Beside K b)
      (Stopped K) := by
  rcases h with ⟨r, hpairs⟩
  exact mirrors_modify ⟨r, hpairs.withWindow isOpen⟩

theorem returned_beside (h : Beside K b c d) (call : Call) :
    Mirrors (returned call) c (returned call) d (fun _ => Beside K b)
      (Stopped K) := by
  rcases h with ⟨r, hpairs⟩
  have hshows :
      Reported K (.returned call c.app c.net c.windowOpen) :=
    ⟨b, r, d.app, hpairs.represents, hpairs.counted⟩
  exact mirrors_modify ⟨r, hpairs.withTrace hshows _⟩

/-- A call of `tcp_send` has nothing to do with the client. -/
theorem send_beside_but (hcounts : Counts N K)
    (h : Beside K b { c with app := m } d) (hsame : SameBut .out m.mem c.app.mem)
    (happ : c.app = { m with mem := c.app.mem, outLen := c.app.outLen })
    (bytes : List UInt8) (window : UInt16) :
    Mirrors (onNet (N.send bytes window)) c (onNet (N.send bytes window)) d
      (fun _ c' d' => c'.app = c.app ∧ d'.app = d.app ∧
        Beside K b { c' with app := m } d') (Stopped K) := by
  rcases h with ⟨r, hpairs⟩
  have hnet : c.net = d.net := hpairs.net
  have hkeep := hcounts.send r c.net bytes window hpairs.counted
  rcases hrun : N.send bytes window c.net with ⟨rc, net'⟩
  rw [hrun] at hkeep
  have hleft : onNet (N.send bytes window) c =
      (rc, { c with net := net' }) := by
    unfold onNet
    rw [hrun]
  have hright : onNet (N.send bytes window) d =
      (rc, { d with net := net' }) := by
    unfold onNet
    rw [<- hnet, hrun]
  have hbeside : Beside K b { c with app := m, net := net' }
      { d with net := net' } :=
    ⟨r, hpairs.withNet hkeep⟩
  cases rc with
  | none => exact mirrors_stopped hleft hright ⟨b, m, hbeside, hsame, happ⟩
  | some rc => exact mirrors_of_eq hleft hright ⟨rfl, rfl, hbeside⟩

theorem send_beside (hcounts : Counts N K) (h : Beside K b c d)
    (bytes : List UInt8) (window : UInt16) :
    Mirrors (onNet (N.send bytes window)) c (onNet (N.send bytes window)) d
      (fun _ => Beside K b) (Stopped K) := by
  have hsend := send_beside_but (m := c.app) hcounts h (SameBut.refl _ _) rfl
    bytes window
  refine hsend.mono (fun _ c' d' h' => ?_)
  rcases h' with ⟨happ, _, hbeside⟩
  rw [<- happ] at hbeside
  exact hbeside

/-- `tcp_recv_timeout`: what it brings has not been handed over yet. -/
theorem recv_beside (hcounts : Counts N K) (h : Beside K b c d) :
    Mirrors (onNet N.recv) c (onNet N.recv) d
      (fun rc c' d' => exists r : List UInt8,
        Pairs K b r (r ++ N.taken rc c'.net) c' d') (Stopped K) := by
  rcases h with ⟨r, hpairs⟩
  rcases hrun : N.recv c.net with ⟨rc, net'⟩
  have hleft : onNet N.recv c = (rc, { c with net := net' }) := by
    unfold onNet
    rw [hrun]
  have hright : onNet N.recv d = (rc, { d with net := net' }) := by
    unfold onNet
    rw [<- hpairs.net, hrun]
  cases rc with
  | none =>
      have hkeep := hcounts.stopped r c.net net' hpairs.counted hrun
      exact mirrors_stopped hleft hright
        (Beside.stopped ⟨r, hpairs.withNet hkeep⟩)
  | some rc =>
      have hmore := hcounts.received r c.net net' rc hpairs.counted hrun
      exact mirrors_of_eq hleft hright ⟨r, hpairs.withNet hmore⟩

/-- `show_data` settles what has been delivered. -/
theorem handOver_beside {rc : Int} (hrc : 0 < rc)
    (h : Pairs K b r (r ++ N.taken rc c.net) c d) :
    Mirrors (handOver Machine.app N rc) c (handOver Irc.app N rc) d
      (fun _ => Beside K b) (Stopped K) := by
  have hnet := h.net
  have hshown := showData_represents (N.rxBuffer c.net rc.toNat) h.represents
  rcases hshown with ⟨_, m', hrun, hrep⟩
  have hleft : modifyApp (Machine.app.showData (N.rxBuffer c.net rc.toNat)) c =
      (some (), { c with app := m' }) := by
    have hm' : Machine.app.showData (N.rxBuffer c.net rc.toNat) c.app = m' :=
      congrArg Prod.snd hrun
    rw [<- hm']
    rfl
  have hright : modifyApp (Irc.app.showData (N.rxBuffer d.net rc.toNat)) d =
      (some (), { d with
        app := Irc.showData (N.rxBuffer c.net rc.toNat) d.app }) := by
    rw [hnet]
    rfl
  have hbeside : Beside K b { c with app := m' }
      { d with app := Irc.showData (N.rxBuffer c.net rc.toNat) d.app } := by
    refine ⟨r ++ N.rxBuffer c.net rc.toNat, ?_⟩
    have hpairs := h.withApp hrep
    rwa [Network.taken_of_pos N hrc] at hpairs
  unfold handOver
  refine mirrors_left (get_apply c) (mirrors_right (get_apply d) ?_)
  exact mirrors_left hleft
    (mirrors_right hright (returned_beside hbeside .showData))

/-- Nothing has been brought. -/
theorem Pairs.settled {rc : Int} (hrc : ¬ 0 < rc)
    (h : Pairs K b r (r ++ N.taken rc c.net) c d) : Beside K b c d := by
  rw [Network.taken_of_not_pos N hrc, List.append_nil] at h
  exact ⟨r, h⟩

/-!
## Polling
-/

theorem drainOnce_beside (hcounts : Counts N K) (h : Beside K b c d) :
    Mirrors (drainOnce Machine.app N) c (drainOnce Irc.app N) d
      (fun _ => Beside K b) (Stopped K) := by
  unfold drainOnce
  refine (recv_beside hcounts h).bind (fun rc c1 d1 h1 => ?_)
  rcases h1 with ⟨r, hpairs⟩
  by_cases hrc : 0 < rc
  · rw [if_pos hrc, if_pos hrc]
    exact handOver_beside hrc hpairs
  · rw [if_neg hrc, if_neg hrc]
    exact mirrors_pure (Pairs.settled hrc hpairs)

theorem drain_beside (hcounts : Counts N K) (h : Beside K b c d) :
    Mirrors (drain Machine.app N) c (drain Irc.app N) d
      (fun _ => Beside K b) (Stopped K) := by
  unfold drain
  refine (send_beside hcounts h [] 0).bind (fun _ c1 d1 h1 => ?_)
  refine (setWindow_beside h1 false).bind (fun _ c2 d2 h2 => ?_)
  refine (drainOnce_beside hcounts h2).bind (fun _ c3 d3 h3 => ?_)
  refine (drainOnce_beside hcounts h3).bind (fun _ c4 d4 h4 => ?_)
  exact drainOnce_beside hcounts h4

theorem openIfClosed_beside (hcounts : Counts N K) (h : Beside K b c d) :
    Mirrors (openIfClosed N) c (openIfClosed N) d (fun _ => Beside K b)
      (Stopped K) := by
  have hwindow : c.windowOpen = d.windowOpen := by
    rcases h with ⟨r, hpairs⟩
    exact hpairs.windowOpen
  unfold openIfClosed
  refine mirrors_left (get_apply c) (mirrors_right (get_apply d) ?_)
  rw [hwindow]
  by_cases hopen : d.windowOpen = true
  · rw [if_pos hopen, if_pos hopen]
    exact mirrors_pure h
  · rw [if_neg hopen, if_neg hopen]
    refine (send_beside hcounts h [] RX_WINDOW).bind (fun _ c1 d1 h1 => ?_)
    exact setWindow_beside h1 true

/-- A line of the client's own in the log. -/
theorem logLine_beside (h : Beside K b c d) {text : List UInt8}
    (htext : 0 ∉ text) :
    Mirrors (modifyApp (Machine.app.logLine text)) c
      (modifyApp (Irc.app.logLine text)) d (fun _ => Beside K b)
      (Stopped K) := by
  rcases h with ⟨r, hpairs⟩
  rcases logLine_prints hpairs.represents
    (holds_literal c.app.mem htext) with ⟨_, m', hrun, hprints⟩
  have hm' : Machine.app.logLine text c.app = m' := congrArg Prod.snd hrun
  refine mirrors_modify ⟨r, ?_⟩
  rw [hm']
  exact hpairs.withApp hprints.left

theorem hungUp_beside (h : Beside K b c d) :
    Mirrors (log (.hungUp c.app d.net)) c (log (.hungUp d.app d.net)) d
      (fun _ => Beside K b) (Stopped K) := by
  rcases h with ⟨r, hpairs⟩
  have hshows : Reported K (.hungUp c.app d.net) := by
    rw [<- hpairs.net]
    exact ⟨b, r, d.app, hpairs.represents, hpairs.counted⟩
  exact mirrors_modify ⟨r, hpairs.withTrace hshows _⟩

theorem afterPoll_beside {P : Platform} {rc : Int}
    (h : Pairs K b r (r ++ N.taken rc c.net) c d) :
    Mirrors (afterPoll P Machine.app N rc) c (afterPoll P Irc.app N rc) d
      (fun _ => Beside K b) (Stopped K) := by
  unfold afterPoll
  by_cases hagain : rc = -(P.eagain : Int)
  · rw [if_pos hagain, if_pos hagain]
    exact mirrors_pure (Pairs.settled (by omega) h)
  rw [if_neg hagain, if_neg hagain]
  by_cases hreset : rc = -(ERESET : Int)
  · rw [if_pos hreset, if_pos hreset]
    have hsettled := Pairs.settled (by omega) h
    refine (logLine_beside hsettled (by decide)).bind (fun _ c1 d1 h1 => ?_)
    exact mirrors_pure h1
  rw [if_neg hreset, if_neg hreset]
  by_cases hfailed : rc < 0
  · rw [if_pos hfailed, if_pos hfailed]
    exact mirrors_pure (Pairs.settled (by omega) h)
  rw [if_neg hfailed, if_neg hfailed]
  by_cases hdata : 0 < rc
  · rw [if_pos hdata, if_pos hdata]
    refine mirrors_left (modify_apply _ c) (mirrors_right (modify_apply _ d) ?_)
    refine (handOver_beside hdata (h.withWindow false)).bind
      (fun _ c1 d1 h1 => ?_)
    exact mirrors_pure h1
  rw [if_neg hdata, if_neg hdata]
  have hsettled := Pairs.settled hdata h
  refine mirrors_left (get_apply c) (mirrors_right (get_apply d) ?_)
  rw [h.net]
  by_cases hfin : N.headerFlags d.net &&& TCP_FIN ≠ 0
  · rw [if_pos hfin, if_pos hfin]
    refine (hungUp_beside hsettled).bind (fun _ c1 d1 h1 => ?_)
    refine (logLine_beside h1 (by decide)).bind (fun _ c2 d2 h2 => ?_)
    exact mirrors_pure h2
  · rw [if_neg hfin, if_neg hfin]
    exact mirrors_pure hsettled

theorem pollNet_beside {P : Platform} (hcounts : Counts N K)
    (h : Beside K b c d) :
    Mirrors (Machine.pollNet P N) c (Irc.pollNet P N) d
      (fun _ => Beside K b) (Stopped K) := by
  unfold Machine.pollNet Irc.pollNet Client.pollNet
  refine (openIfClosed_beside hcounts h).bind (fun _ c1 d1 h1 => ?_)
  refine (recv_beside hcounts h1).bind (fun rc c2 d2 h2 => ?_)
  rcases h2 with ⟨r, hpairs⟩
  refine (afterPoll_beside hpairs).bind (fun result c3 d3 h3 => ?_)
  refine (returned_beside h3 .pollNet).bind (fun _ c4 d4 h4 => ?_)
  exact mirrors_pure h4

/-!
## Sending
-/

/-- `out` is empty again. -/
theorem sent_represents (h : Represents b r m s) {mem : Memory layout}
    (hsame : SameBut .out m.mem mem) :
    Represents b r { m with mem := mem, outLen := 0 }
      { s with out := [] } :=
  h.of_underlies (h.toUnderlies.built hsame (Nat.zero_le _) rfl) rfl rfl

theorem reportFailure_beside (h : Beside K b c d) (rc : Int) :
    Mirrors (onApp (Machine.reportFailure rc)) c (Irc.reportFailure rc) d
      (fun _ => Beside K b) (Stopped K) := by
  unfold Machine.reportFailure Irc.reportFailure
  by_cases hrc : rc < 0
  · rw [if_pos hrc, if_pos hrc]
    have htext : 0 ∉ ascii "*** send failed" := by
      decide
    refine onApp_beside h (fun r hrep => ?_)
    have hprints := logLine_prints hrep (holds_literal c.app.mem htext)
    exact hprints.mono (fun _ _ hm' => hm'.left)
  · rw [if_neg hrc, if_neg hrc]
    exact mirrors_pure h

/-- `tcp_send` of a payload, with the payload noted in front. -/
theorem sendData_bind (origin : Origin) (pieces : List (List UInt8))
    (bytes : List UInt8) (k : Int -> Program (Session State ν) Unit) :
    (sendData N origin pieces bytes >>= k) d =
      (onNet (N.send bytes 0) >>= fun rc =>
        setWindow false >>= fun _ => k rc)
          { d with trace := d.trace ++ [.payload origin pieces bytes] } := by
  unfold sendData log
  rw [bind_assoc_apply, modify_bind_apply, bind_assoc_apply]
  rfl

theorem oSend_beside (hcounts : Counts N K) (h : Beside K b c d)
    (origin : Origin) (pieces : List (List UInt8)) :
    Mirrors (Machine.oSend N) c (Irc.oSend N origin pieces) d
      (fun _ => Beside K b) (Stopped K) := by
  unfold Machine.oSend Irc.oSend
  refine (drain_beside hcounts h).bind (fun _ c1 d1 h1 => ?_)
  rcases h1 with ⟨r, hpairs⟩
  have hfinish := finishOut_finishes hpairs.represents.toUnderlies
  rcases onApp_returns hfinish with ⟨bytes, c2, hrun, m2, rfl, rfl, hsame, hm2⟩
  refine mirrors_left hrun (mirrors_right (get_apply d1) ?_)
  refine Mirrors.of_eq ?_ rfl (sendData_bind origin pieces _ _)
  have hnoted : Beside K b c1 { d1 with
      trace := d1.trace ++
        [.payload origin pieces (d1.app.out ++ CRLF)] } :=
    ⟨r, hpairs.withRightTrace _⟩
  have hsend := send_beside_but (c := { c1 with app := m2 }) hcounts hnoted
    hsame hm2 (d1.app.out ++ CRLF) 0
  refine hsend.bind (fun rc c3 d3 h3 => ?_)
  rcases h3 with ⟨happ, happ', r3, hpairs3⟩
  refine mirrors_left (modify_apply _ c3) (mirrors_right (modify_apply _ d3) ?_)
  refine mirrors_right (modify_apply _ _) ?_
  -- `out` is empty again before anything else is done with it
  have hempty := sent_represents hpairs3.represents hsame
  have hm3 : { c3.app with outLen := 0 } =
      { c1.app with mem := m2.mem, outLen := 0 } := by
    rw [happ, hm2]
  rw [<- hm3] at hempty
  have hsent := (hpairs3.withWindow false).withApp hempty
  have hreport := reportFailure_beside ⟨r3, hsent⟩ rc
  refine Mirrors.bind ?_ (fun _ c4 d4 h4 => returned_beside h4 .send)
  exact hreport

/-- A command: its line is built, and sent. -/
theorem command_from (hcounts : Counts N K) {p : Program Machine Unit}
    {origin : Origin} {pieces : List (List UInt8)} {before : State -> State}
    {b' : Buffer (MAX_INPUT + 2)} (h : Pairs K b' r r { c with app := m } d)
    (hp : p.Returns c.app (fun _ m' =>
      Represents b r m' (before (pieces.foldl Irc.oStr d.app)))) :
    Mirrors (onApp p >>= fun _ => Machine.oSend N) c
      (command N origin pieces before) d (fun _ => Beside K b)
      (Stopped K) := by
  unfold command
  have happ := onApp_from (f := fun s => before (pieces.foldl Irc.oStr s)) h hp
  exact happ.bind (fun _ c1 d1 h1 => oSend_beside hcounts h1 origin pieces)

/-- While a line is built the line being typed stays as it is. -/
theorem Builds.represents {s' : State} {m' : Machine}
    (hbuilds : Builds b r m s' m') (h : Represents b r m s)
    (hinput : s'.screen.input = s.screen.input) : Represents b r m' s' :=
  h.of_underlies hbuilds.underlies hbuilds.inputLen hinput

theorem flushPong_beside (hcounts : Counts N K) (h : Beside K b c d) :
    Mirrors (Machine.flushPong N) c (Irc.flushPong N) d
      (fun _ => Beside K b) (Stopped K) := by
  rcases h with ⟨r, hpairs⟩
  have hrep := hpairs.represents
  unfold Machine.flushPong Irc.flushPong
  refine mirrors_left (get_apply c) (mirrors_right (get_apply d) ?_)
  rw [hrep.pongPending]
  by_cases hpending : c.app.pongPending = true
  · rw [if_pos hpending, if_pos hpending]
    refine command_from (m := c.app) hcounts hpairs ?_
    have hdone : Represents b r { c.app with pongPending := false }
        { d.app with pongPending := false } :=
      { hrep with
        pongPending := rfl }
    refine returns_bind_of_eq (modify_apply _ _) ?_
    refine (oStr_literal hdone.toUnderlies (by decide)).bind (fun _ m1 hm1 => ?_)
    refine (oStr_pongArg hm1.underlies).mono (fun _ m2 hm2 => ?_)
    exact hm2.represents (hm1.represents hdone rfl) rfl
  · rw [if_neg hpending, if_neg hpending]
    exact mirrors_pure ⟨r, hpairs⟩

/-- `cur_chan[0]` -/
theorem load_curChan (h : (c.app.mem.block .curChan).HoldsText s.curChan) :
    (onVars (load (.block .curChan 0)) : Program (Session Machine ν) UInt8) c =
      (some (s.curChan.headD 0), c) :=
  onVars_of_eq (load_holds h.holds)

theorem flushJoin_beside (hcounts : Counts N K) (h : Beside K b c d) :
    Mirrors (Machine.flushJoin N) c (Irc.flushJoin N) d
      (fun _ => Beside K b) (Stopped K) := by
  rcases h with ⟨r, hpairs⟩
  have hrep := hpairs.represents
  unfold Machine.flushJoin Irc.flushJoin
  refine mirrors_left (get_apply c) (mirrors_right (get_apply d) ?_)
  rw [hrep.joinPending]
  by_cases hpending : c.app.joinPending = true
  · rw [if_pos hpending, if_pos hpending]
    have hdone : Represents b r { c.app with joinPending := false }
        { d.app with joinPending := false } :=
      { hrep with
        joinPending := rfl }
    refine mirrors_left rfl ?_
    refine mirrors_left (load_curChan (s := d.app) hrep.curChan) ?_
    by_cases hchan : d.app.curChan = []
    · rw [if_neg (fun hno => hno
          ((headD_eq_zero hrep.curChan.holds.left).mpr hchan)),
        if_neg (fun hno => hno hchan)]
      exact mirrors_of_eq rfl rfl ⟨r, hpairs.withApp hdone⟩
    · rw [if_pos (fun hyes => hchan
          ((headD_eq_zero hrep.curChan.holds.left).mp hyes)),
        if_pos hchan]
      refine command_from (m := c.app) hcounts hpairs ?_
      refine (oStr_literal hdone.toUnderlies (by decide)).bind
        (fun _ m1 hm1 => ?_)
      refine (oStr_curChan hm1.underlies).mono (fun _ m2 hm2 => ?_)
      exact hm2.represents (hm1.represents hdone rfl) rfl
  · rw [if_neg hpending, if_neg hpending]
    exact mirrors_pure ⟨r, hpairs⟩

theorem flushPending_beside (hcounts : Counts N K) (h : Beside K b c d) :
    Mirrors (Machine.flushPending N) c (Irc.flushPending N) d
      (fun _ => Beside K b) (Stopped K) := by
  unfold Machine.flushPending Irc.flushPending
  refine (flushPong_beside hcounts h).bind (fun _ c1 d1 h1 => ?_)
  refine (flushJoin_beside hcounts h1).bind (fun _ c2 d2 h2 => ?_)
  exact returned_beside h2 .flushPending

end Machine
end Irc
end Z80Tcpip
