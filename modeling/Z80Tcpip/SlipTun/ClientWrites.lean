import Z80Tcpip.SlipTun.MainLoop

/-!
# What rx_write has written

`rx_write` hands its buffer to the fifo in as many pieces as the operating
system wants, and waits in between.  Whatever the calls answer, the pieces are
consecutive from the start of the buffer, and the result tells how far they got
and what the last call said.
-/

namespace Z80Tcpip
namespace SlipTun

open Foundation

variable {ω : Type}

/-!
## The calls behind a run
-/

/-- A call of `write` or `poll` on the fifo, with its answer. -/
inductive FifoCall where
  | write (buf : List UInt8) (result : Except Errno Nat)
  | poll (result : Except Errno (Nat × (Nat -> Revents)))

/-- The calls that lead the operating system from one state to another: writes
to `fd`, and polls that wait for room in it. -/
inductive Answered (O : Os ω) (fd : Int) : ω -> List FifoCall -> ω -> Prop where
  | nothing (os : ω) : Answered O fd os [] os
  | write {os os' : ω} {calls : List FifoCall} (buf : List UInt8)
      (h : Answered O fd (O.write fd buf os).2 calls os') :
      Answered O fd os (.write buf (O.write fd buf os).1 :: calls) os'
  | poll {os os' : ω} {calls : List FifoCall}
      (h : Answered O fd
        (O.poll [{ fd := fd, pollin := false, pollout := true }]
          WRITE_TIMEOUT_MS os).2 calls os') :
      Answered O fd os
        (.poll (O.poll [{ fd := fd, pollin := false, pollout := true }]
          WRITE_TIMEOUT_MS os).1 :: calls) os'

/-- What the fifo took: a write that returns `n` took the first `n` bytes. -/
def FifoCall.accepted : FifoCall -> List UInt8
  | .write buf (.ok n) => buf.take n
  | _ => []

def accepted (calls : List FifoCall) : List UInt8 :=
  calls.flatMap FifoCall.accepted

/-- The wait for room ended without any. -/
def FifoCall.TimedOut : FifoCall -> Prop
  | .poll (.ok (count, _)) => count = 0
  | _ => False

/-- A write error other than an interruption or a full fifo, or a poll that
failed or found the other side gone. -/
def FifoCall.Broken : FifoCall -> Prop
  | .write _ (.error e) => e ≠ .EINTR ∧ e ≠ .EAGAIN ∧ e ≠ .EWOULDBLOCK
  | .write _ (.ok _) => False
  | .poll (.error e) => e ≠ .EINTR
  | .poll (.ok (count, revents)) => count ≠ 0 ∧ (revents 0).gone = true

/-- A call after which `rx_write` gives up, with the result it returns. -/
inductive FifoCall.Ends (call : FifoCall) : WriteResult -> Prop where
  | dropped (h : call.TimedOut) : call.Ends .WRITE_DROPPED
  | gone (h : call.Broken) : call.Ends .WRITE_GONE

theorem FifoCall.Ends.ne_ok {call : FifoCall} {rc : WriteResult}
    (h : call.Ends rc) : rc ≠ .WRITE_OK := by
  cases h with
  | dropped => decide
  | gone => decide

/-- The events that a run leaves behind: one for each piece. -/
def FifoCall.event (fd : Int) : FifoCall -> Option Event
  | .write buf (.ok (n + 1)) => some (.rxWrite fd (buf.take (n + 1)))
  | _ => none

@[simp] theorem accepted_nil : accepted [] = [] := rfl

@[simp] theorem accepted_cons (call : FifoCall) (calls : List FifoCall) :
    accepted (call :: calls) = call.accepted ++ accepted calls := rfl

/-- What the calls of one `rx_write` and its result say about each other. -/
structure Wrote (buf : List UInt8) (calls : List FifoCall) (rc : WriteResult) :
    Prop where
  accepted_prefix : accepted calls <+: buf
  ok_iff : rc = .WRITE_OK <-> accepted calls = buf
  dropped : rc = .WRITE_DROPPED ->
    exists (before : List FifoCall) (last : FifoCall),
      calls = before ++ [last] ∧ last.TimedOut
  gone : rc = .WRITE_GONE ->
    exists (before : List FifoCall) (last : FifoCall),
      calls = before ++ [last] ∧ last.Broken

/-!
## One call more
-/

theorem Wrote.finished : Wrote [] [] .WRITE_OK :=
  { accepted_prefix := List.prefix_rfl
    ok_iff := ⟨fun _ => rfl, fun _ => rfl⟩
    dropped := by
      intro h
      cases h
    gone := by
      intro h
      cases h }

/-- The last call took nothing, something was left to write, and the result
says why. -/
theorem Wrote.ended {buf : List UInt8} {call : FifoCall} {rc : WriteResult}
    (hbuf : buf ≠ []) (hnone : call.accepted = [])
    (hend : call.Ends rc) : Wrote buf [call] rc := by
  have hempty : accepted [call] = [] := by
    rw [accepted_cons, hnone, accepted_nil, List.append_nil]
  constructor
  case accepted_prefix =>
    rw [hempty]
    exact List.nil_prefix
  case ok_iff =>
    rw [hempty]
    constructor
    · intro hrc
      rw [hrc] at hend
      exact absurd rfl hend.ne_ok
    · intro h
      exact absurd h.symm hbuf
  case dropped =>
    intro hrc
    rw [hrc] at hend
    cases hend with
    | dropped h => exact ⟨[], call, rfl, h⟩
  case gone =>
    intro hrc
    rw [hrc] at hend
    cases hend with
    | gone h => exact ⟨[], call, rfl, h⟩

/-- A call in front of a run over what it has left of the buffer. -/
theorem Wrote.cons {buf rest : List UInt8} {call : FifoCall}
    {calls : List FifoCall} {rc : WriteResult} (h : Wrote rest calls rc)
    (hbuf : call.accepted ++ rest = buf) : Wrote buf (call :: calls) rc := by
  have hlast : forall P : FifoCall -> Prop,
      (exists (before : List FifoCall) (last : FifoCall),
        calls = before ++ [last] ∧ P last) ->
      exists (before : List FifoCall) (last : FifoCall),
        call :: calls = before ++ [last] ∧ P last := by
    intro P hsome
    rcases hsome with ⟨before, last, hcalls, hP⟩
    refine ⟨call :: before, last, ?_, hP⟩
    rw [hcalls, List.cons_append]
  constructor
  case accepted_prefix =>
    rw [accepted_cons, <- hbuf]
    exact (List.prefix_append_right_inj _).mpr h.accepted_prefix
  case ok_iff =>
    rw [accepted_cons, <- hbuf, List.append_cancel_left_eq]
    exact h.ok_iff
  case dropped =>
    intro hrc
    exact hlast _ (h.dropped hrc)
  case gone =>
    intro hrc
    exact hlast _ (h.gone hrc)

/-!
## The loop
-/

/-- A run from `w` to `w'`: its calls, the events they leave, and nothing else
changed. -/
def Served (O : Os ω) (buf : List UInt8) (w : World ω) (rc : WriteResult)
    (w' : World ω) : Prop :=
  exists calls : List FifoCall, Answered O w.b.rxFd w.os calls w'.os ∧
    w'.b = w.b ∧
    w'.trace = w.trace ++ calls.filterMap (FifoCall.event w.b.rxFd) ∧
    Wrote buf calls rc

theorem Served.wrote {O : Os ω} {buf rest : List UInt8} {w w1 w' : World ω}
    {rc : WriteResult} (h : Served O rest w1 rc w') (hb : w1.b = w.b)
    (hos : w1.os = (O.write w.b.rxFd buf w.os).2)
    (htrace : w1.trace = w.trace ++ (FifoCall.event w.b.rxFd
      (.write buf (O.write w.b.rxFd buf w.os).1)).toList)
    (hbuf : (FifoCall.write buf (O.write w.b.rxFd buf w.os).1).accepted ++
      rest = buf) : Served O buf w rc w' := by
  rcases h with ⟨calls, hcalls, hbridge, hevents, hwrote⟩
  rw [hb, hos] at hcalls
  refine ⟨_, .write buf hcalls, hbridge.trans hb, ?_, hwrote.cons hbuf⟩
  rw [hevents, htrace, hb, List.append_assoc, List.filterMap_cons]
  cases FifoCall.event w.b.rxFd (.write buf (O.write w.b.rxFd buf w.os).1)
    with
  | none => rfl
  | some e => rfl

theorem sys_bind_apply {α β : Type} (call : ω -> α × ω)
    (f : α -> Program (World ω) β) (w : World ω) :
    (sys call >>= f) w =
      f (call w.os).1 { w with os := (call w.os).2 } := rfl

/-- The poll in the second half of the loop, and what it leads to. -/
theorem waitForRoom_cases {O : Os ω} {w w' : World ω}
    {room : Option WriteResult} (h : waitForRoom O w = (some room, w')) :
    w' = { w with os :=
        (O.poll [{ fd := w.b.rxFd, pollin := false, pollout := true }]
          WRITE_TIMEOUT_MS w.os).2 } ∧
      forall rc : WriteResult, room = some rc -> (FifoCall.poll
        (O.poll [{ fd := w.b.rxFd, pollin := false, pollout := true }]
          WRITE_TIMEOUT_MS w.os).1).Ends rc := by
  rw [waitForRoom, Program.get_bind_apply, sys_bind_apply] at h
  rcases hresult : (O.poll
    [{ fd := w.b.rxFd, pollin := false, pollout := true }]
    WRITE_TIMEOUT_MS w.os).1 with e | ⟨count, revents⟩
  · rw [hresult] at h
    cases e
    case EINTR =>
      cases h
      exact ⟨rfl, fun rc hrc => by cases hrc⟩
    all_goals
      cases h
      refine ⟨rfl, fun rc hrc => ?_⟩
      cases hrc
      exact .gone (fun h => by cases h)
  · rw [hresult] at h
    cases count with
    | zero =>
        cases h
        refine ⟨rfl, fun rc hrc => ?_⟩
        cases hrc
        exact .dropped rfl
    | succ count =>
        by_cases hgone : (revents 0).gone = true
        · simp only [if_pos hgone] at h
          cases h
          refine ⟨rfl, fun rc hrc => ?_⟩
          cases hrc
          exact .gone ⟨Nat.succ_ne_zero count, hgone⟩
        · simp only [if_neg hgone] at h
          cases h
          exact ⟨rfl, fun rc hrc => by cases hrc⟩

/-- A full fifo: the poll, and then the loop again or the end. -/
theorem Served.waited {O : Os ω} {buf : List UInt8} {w w' : World ω}
    {rc : WriteResult} {next : Option WriteResult ->
      Program (World ω) WriteResult} (hbuf : buf ≠ [])
    (hnext : forall rc : WriteResult, next (some rc) = pure rc)
    (ih : forall {w1 : World ω}, next none w1 = (some rc, w') ->
      Served O buf w1 rc w')
    (h : (waitForRoom O >>= next) w = (some rc, w')) :
    Served O buf w rc w' := by
  rcases Program.of_bind_some h with ⟨room, w1, hroom, hrest⟩
  rcases waitForRoom_cases hroom with ⟨hw1, hends⟩
  cases room with
  | none =>
      rcases ih hrest with ⟨calls, hcalls, hbridge, hevents, hwrote⟩
      rw [hw1] at hcalls hbridge hevents
      exact ⟨_, .poll hcalls, hbridge, hevents, hwrote.cons rfl⟩
  | some rc' =>
      rw [hnext] at hrest
      cases hrest
      refine ⟨_, .poll ?_, ?_, ?_, Wrote.ended hbuf rfl (hends rc rfl)⟩
      · rw [hw1]
        exact .nothing _
      · rw [hw1]
      · rw [hw1]
        exact (List.append_nil _).symm

/-- A write that took nothing but may be tried again, at once or after the
wait. -/
theorem Served.retried {O : Os ω} {buf : List UInt8} {w w' : World ω}
    {rc : WriteResult}
    (hnone : (FifoCall.write buf
      (O.write w.b.rxFd buf w.os).1).accepted = [])
    (hevent : FifoCall.event w.b.rxFd
      (.write buf (O.write w.b.rxFd buf w.os).1) = none)
    (h : Served O buf { w with os := (O.write w.b.rxFd buf w.os).2 } rc w') :
    Served O buf w rc w' := by
  refine Served.wrote h rfl rfl ?_ ?_
  · rw [hevent]
    exact (List.append_nil _).symm
  · rw [hnone, List.nil_append]

theorem Served.failed {O : Os ω} {buf : List UInt8} {w : World ω}
    (hbuf : buf ≠ []) {e : Errno}
    (hresult : (O.write w.b.rxFd buf w.os).1 = .error e)
    (hbroken : (FifoCall.write buf (.error e)).Broken) :
    Served O buf w .WRITE_GONE
      { w with os := (O.write w.b.rxFd buf w.os).2 } := by
  refine ⟨_, .write buf (.nothing _), rfl, ?_, ?_⟩
  · rw [hresult]
    exact (List.append_nil _).symm
  · rw [hresult]
    exact Wrote.ended hbuf rfl (.gone hbroken)

theorem rxWrite_served {O : Os ω} {fuel : Nat} :
    forall {buf : List UInt8} {w w' : World ω} {rc : WriteResult},
      rxWrite O fuel buf w = (some rc, w') -> Served O buf w rc w' := by
  induction fuel with
  | zero =>
      intro buf w w' rc h
      cases h
  | succ fuel ih =>
      intro buf w w' rc h
      rw [rxWrite] at h
      by_cases hbuf : buf = []
      · rw [if_pos hbuf] at h
        cases h
        rw [hbuf]
        exact ⟨[], .nothing _, rfl, (List.append_nil _).symm, .finished⟩
      · rw [if_neg hbuf, Program.get_bind_apply, sys_bind_apply] at h
        cases hresult : (O.write w.b.rxFd buf w.os).1 with
        | error e =>
            rw [hresult] at h
            have hretried :
                Served O buf
                  { w with os := (O.write w.b.rxFd buf w.os).2 } rc w' ->
                    Served O buf w rc w' :=
              Served.retried (by rw [hresult]; rfl) (by rw [hresult]; rfl)
            cases e
            case EINTR =>
              exact hretried (ih h)
            case EAGAIN =>
              exact hretried (Served.waited hbuf (fun _ => rfl) ih h)
            case EWOULDBLOCK =>
              exact hretried (Served.waited hbuf (fun _ => rfl) ih h)
            all_goals
              cases h
              exact Served.failed hbuf hresult
                ⟨nofun, nofun, nofun⟩
        | ok n =>
            rw [hresult] at h
            cases n with
            | zero =>
                have hserved := Served.waited hbuf (fun _ => rfl) ih h
                apply Served.retried
                · rw [hresult]
                  rfl
                · rw [hresult]
                  rfl
                · exact hserved
            | succ n =>
                refine Served.wrote (ih h) rfl rfl ?_ ?_
                · rw [hresult]
                  rfl
                · rw [hresult]
                  exact List.take_append_drop _ _

/-!
## The theorem
-/

/-- slip-tun.c `rx_write`: behind every return there are calls of `write` and
`poll` such that the fifo took a prefix of the buffer, the whole buffer exactly
for `WRITE_OK`, and the last call was a poll that timed out for `WRITE_DROPPED`,
a write or a poll that failed for `WRITE_GONE`. -/
theorem rxWrite_writes_prefix (O : Os ω) (fuel : Nat) (buf : List UInt8)
    (w w' : World ω) (rc : WriteResult)
    (h : rxWrite O fuel buf w = (some rc, w')) :
    exists calls : List FifoCall, Answered O w.b.rxFd w.os calls w'.os ∧
      accepted calls <+: buf ∧
      (rc = .WRITE_OK <-> accepted calls = buf) ∧
      (rc = .WRITE_DROPPED ->
        exists (before : List FifoCall) (last : FifoCall),
          calls = before ++ [last] ∧ last.TimedOut) ∧
      (rc = .WRITE_GONE ->
        exists (before : List FifoCall) (last : FifoCall),
          calls = before ++ [last] ∧ last.Broken) ∧
      w'.trace = w.trace ++ calls.filterMap (FifoCall.event w.b.rxFd) := by
  rcases rxWrite_served h with ⟨calls, hcalls, _, hevents, hwrote⟩
  exact ⟨calls, hcalls, hwrote.accepted_prefix, hwrote.ok_iff, hwrote.dropped,
    hwrote.gone, hevents⟩

/-- A fifo that takes one byte, is full from then on and never drained. -/
def oneByteFifo : Os Nat where
  read _ _ os := (.ok [], os)
  write _ _ os := if os = 0 then (.ok 1, 1) else (.error .EAGAIN, os + 1)
  openFifo _ os := (.ok 3, os)
  close _ os := os
  poll _ _ os := (.ok (0, fun _ => ⟨false, false, false, false⟩), os + 1)
  sendto _ _ _ os := os

theorem rxWrite_writes_prefix_full :
    exists (calls before : List FifoCall) (last : FifoCall) (os' : Nat),
      Answered oneByteFifo (-1) 0 calls os' ∧
        accepted calls <+: [1, 2, 3] ∧ accepted calls ≠ [1, 2, 3] ∧
        calls = before ++ [last] ∧ last.TimedOut := by
  rcases rxWrite_writes_prefix oneByteFifo 3 [1, 2, 3] (World.initial 4 5 0) _
    .WRITE_DROPPED rfl with ⟨calls, hcalls, hprefix, hok, hdropped, _⟩
  rcases hdropped rfl with ⟨before, last, hsplit, htimeout⟩
  refine ⟨calls, before, last, _, hcalls, hprefix, ?_, hsplit, htimeout⟩
  intro hall
  cases hok.mpr hall

end SlipTun
end Z80Tcpip
