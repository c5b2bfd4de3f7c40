import Z80Tcpip.Client.Requests

/-!
# What a client is told

A connection that keeps a report of every call that comes back; it does all else
as the one behind it.  What the client makes of the segments it is handed and of
the results, whenever they come, is an invariant of its state and of the reports
so far.
-/

namespace Z80Tcpip
namespace Client

open Foundation
open Program

variable {α ν : Type}

/-- A call of `tcp_send` or `tcp_recv_timeout` that came back with `rc`; the flags
are those of the last packet. -/
inductive Report where
  | sent (bytes : List UInt8) (rc : Int)
  | received (rc : Int) (flags : UInt8) (bytes : List UInt8)

/-- The data that the call has brought. -/
def Report.segment : Report -> Option (List UInt8)
  | .sent _ _ => none
  | .received rc _ bytes => if 0 < rc then some bytes else none

/-- Whether a payload could not be sent. -/
def Report.failure : Report -> Option Bool
  | .sent bytes rc => if bytes = [] then none else some (decide (rc < 0))
  | .received _ _ _ => none

def segments (reports : List Report) : List (List UInt8) :=
  reports.filterMap Report.segment

def failures (reports : List Report) : List Bool :=
  reports.filterMap Report.failure

theorem segments_silent (reports : List Report) {r : Report}
    (h : r.segment = none) : segments (reports ++ [r]) = segments reports :=
  filterMap_concat_none Report.segment reports h

theorem failures_silent (reports : List Report) {r : Report}
    (h : r.failure = none) : failures (reports ++ [r]) = failures reports :=
  filterMap_concat_none Report.failure reports h

theorem segments_received {rc : Int} (hpos : 0 < rc) (flags : UInt8)
    (data : List UInt8) (reports : List Report) :
    segments (reports ++ [.received rc flags data]) =
      segments reports ++ [data] := by
  rw [segments, filterMap_concat, Report.segment, if_pos hpos]
  rfl

theorem failures_sent {bytes : List UInt8} (hbytes : bytes ≠ []) (rc : Int)
    (reports : List Report) :
    failures (reports ++ [.sent bytes rc]) =
      failures reports ++ [decide (rc < 0)] := by
  rw [failures, filterMap_concat, Report.failure, if_neg hbytes]
  rfl

/-- A call that came back like this adds its report. -/
def heard (reports : List Report) (report : Int -> ν -> Report) :
    Option Int × ν -> Option Int × (ν × List Report)
  | (some rc, net) => (some rc, (net, reports ++ [report rc net]))
  | (none, net) => (none, (net, reports))

def hearing (N : Network ν) : Network (ν × List Report) where
  send := fun bytes window x =>
    heard x.2 (fun rc _ => .sent bytes rc) (N.send bytes window x.1)
  recv := fun x =>
    heard x.2
      (fun rc net =>
        .received rc (N.headerFlags net) (N.rxBuffer net rc.toNat))
      (N.recv x.1)
  rxBuffer := fun x n => N.rxBuffer x.1 n
  headerFlags := fun x => N.headerFlags x.1

/-!
## Invariants of what has been reported
-/

/-- The texts that `poll_net` logs when the session is over. -/
inductive Goodbye where
  | reset
  | closed

def Goodbye.text : Goodbye -> List UInt8
  | .reset => ascii "*** connection reset by peer"
  | .closed => ascii "*** server closed the connection"

/-- What `tcp_recv_timeout` has returned then. -/
def Goodbye.Reported : Goodbye -> Report -> Prop
  | _, .sent _ _ => False
  | .reset, .received rc _ _ => rc = -(ERESET : Int)
  | .closed, .received rc flags _ => rc = 0 ∧ flags &&& TCP_FIN ≠ 0

/-- The last call has ended the session. -/
def Goodbye.Told (g : Goodbye) (reports : List Report) : Prop :=
  exists (earlier : List Report) (last : Report),
    reports = earlier ++ [last] ∧ g.Reported last

/-- A property of the reports, the client's state and the payloads, as one of the
session. -/
def OnHeard (I : List Report -> α -> List (List UInt8) -> Prop)
    (c : Session α (ν × List Report)) : Prop :=
  I c.net.2 c.app (payloadsOf c.trace)

/-- `Over` is what is left of `I` when the session is over, and `T` when a call of
the stack does not return. -/
structure HeardInvariant (A : App α)
    (I Over T : List Report -> α -> List (List UInt8) -> Prop) : Prop where
  quiet : forall {r : Report}, r.segment = none -> r.failure = none ->
    forall {reports : List Report} {a : α} {payloads : List (List UInt8)},
      I reports a payloads -> I (reports ++ [r]) a payloads
  showData : forall {rc : Int}, 0 < rc ->
    forall (flags : UInt8) (data : List UInt8) {reports : List Report} {a : α}
      {payloads : List (List UInt8)}, I reports a payloads ->
        I (reports ++ [.received rc flags data]) (A.showData data a) payloads
  goodbye : forall (g : Goodbye) {reports : List Report} {a : α}
    {payloads : List (List UInt8)}, g.Told reports -> I reports a payloads ->
      Over reports (A.logLine g.text a) payloads
  stopped : forall {reports : List Report} {a : α}
    {payloads : List (List UInt8)}, I reports a payloads ->
      T reports a payloads

theorem onHeard_silent {I : List Report -> α -> List (List UInt8) -> Prop}
    {c : Session α (ν × List Report)} {e : Event α (ν × List Report)}
    (h : OnHeard I c) (he : payloadOf e = none) :
    OnHeard I { c with trace := c.trace ++ [e] } := by
  show I c.net.2 c.app (payloadsOf (c.trace ++ [e]))
  rw [payloadsOf_silent c.trace he]
  exact h

theorem onHeard_returned {I T : List Report -> α -> List (List UInt8) -> Prop}
    (call : Call) :
    Ensures (OnHeard (ν := ν) I) (returned call) (fun _ => OnHeard I)
      (OnHeard T) :=
  ensures_modify (fun _ h => onHeard_silent h rfl)

theorem onHeard_setWindow {I T : List Report -> α -> List (List UInt8) -> Prop}
    (isOpen : Bool) :
    Ensures (OnHeard (ν := ν) I) (setWindow isOpen) (fun _ => OnHeard I)
      (OnHeard T) :=
  ensures_modify (fun _ h => h)

/-- A call of `tcp_send` adds its report. -/
theorem onHeard_send {I T : List Report -> α -> List (List UInt8) -> Prop}
    {J : Int -> List Report -> α -> List (List UInt8) -> Prop}
    (N : Network ν) (bytes : List UInt8) (window : UInt16)
    (hsent : forall (rc : Int) {reports : List Report} {a : α}
      {payloads : List (List UInt8)}, I reports a payloads ->
        J rc (reports ++ [.sent bytes rc]) a payloads)
    (hstop : forall {reports : List Report} {a : α}
      {payloads : List (List UInt8)}, I reports a payloads ->
        T reports a payloads) :
    Ensures (OnHeard I) (onNet ((hearing N).send bytes window))
      (fun rc => OnHeard (J rc)) (OnHeard T) := by
  intro c hc
  have hsend : (hearing N).send bytes window c.net =
      heard c.net.2 (fun rc _ => .sent bytes rc)
        (N.send bytes window c.net.1) := rfl
  unfold onNet
  rw [hsend]
  rcases N.send bytes window c.net.1 with ⟨_ | rc, net⟩
  · exact hstop hc
  · exact hsent rc hc

/-- The data of the last call has not been shown yet. -/
def InHand (N : Network ν) (I : List Report -> α -> List (List UInt8) -> Prop)
    (rc : Int) (c : Session α (ν × List Report)) : Prop :=
  exists (reports : List Report) (flags : UInt8),
    c.net.2 = reports ++
        [.received rc flags ((hearing N).rxBuffer c.net rc.toNat)] ∧
      I reports c.app (payloadsOf c.trace)

/-- The last call has brought no data. -/
def CameEmpty (N : Network ν) (I : List Report -> α -> List (List UInt8) -> Prop)
    (rc : Int) (c : Session α (ν × List Report)) : Prop :=
  OnHeard I c ∧ exists (earlier : List Report) (bytes : List UInt8),
    c.net.2 =
      earlier ++ [.received rc ((hearing N).headerFlags c.net) bytes]

/-- A call of `tcp_recv_timeout` has returned `rc`. -/
def Brought (N : Network ν) (I : List Report -> α -> List (List UInt8) -> Prop)
    (rc : Int) (c : Session α (ν × List Report)) : Prop :=
  (0 < rc -> InHand N I rc c) ∧ (rc ≤ 0 -> CameEmpty N I rc c)

/-- A call of `poll_net` has returned `rc`. -/
def Polled (I Over : List Report -> α -> List (List UInt8) -> Prop) (rc : Int)
    (c : Session α (ν × List Report)) : Prop :=
  (0 ≤ rc -> OnHeard I c) ∧ (rc < 0 -> OnHeard Over c)

section HeardInvariant

variable {A : App α} {I Over T : List Report -> α -> List (List UInt8) -> Prop}
  (h : HeardInvariant A I Over T) (N : Network ν)

include h

/-- Nothing but a window is announced. -/
theorem HeardInvariant.announce (window : UInt16) :
    Ensures (OnHeard I) (onNet ((hearing N).send [] window))
      (fun _ => OnHeard I) (OnHeard T) :=
  onHeard_send N [] window (fun _ => h.quiet rfl rfl) h.stopped

theorem HeardInvariant.recv :
    Ensures (OnHeard I) (onNet (hearing N).recv) (Brought N I)
      (OnHeard T) := by
  intro c hc
  have hrecv : (hearing N).recv c.net =
      heard c.net.2
        (fun rc net =>
          .received rc (N.headerFlags net) (N.rxBuffer net rc.toNat))
        (N.recv c.net.1) := rfl
  unfold onNet
  rw [hrecv]
  rcases N.recv c.net.1 with ⟨_ | rc, net⟩
  · exact h.stopped hc
  · constructor
    · intro _
      exact ⟨c.net.2, _, rfl, hc⟩
    · intro hneg
      refine ⟨h.quiet ?_ rfl hc, c.net.2, _, rfl⟩
      exact if_neg (Int.not_lt.mpr hneg)

theorem HeardInvariant.handOver {rc : Int} (hpos : 0 < rc) :
    Ensures (InHand N I rc) (handOver A (hearing N) rc) (fun _ => OnHeard I)
      (OnHeard T) := by
  apply ensures_get_bind
  intro c hc
  rcases hc with ⟨reports, flags, hnet, hI⟩
  have hshown : OnHeard I
      { c with
        app := A.showData ((hearing N).rxBuffer c.net rc.toNat) c.app } := by
    show I c.net.2 _ _
    rw [hnet]
    exact h.showData hpos flags _ hI
  exact onHeard_returned (T := T) .showData _ hshown

theorem HeardInvariant.openIfClosed :
    Ensures (OnHeard I) (openIfClosed (hearing N)) (fun _ => OnHeard I)
      (OnHeard T) := by
  apply ensures_get_bind
  intro c hc
  split_ifs
  · exact hc
  · exact ensures_bind (h.announce N RX_WINDOW)
      (fun _ => onHeard_setWindow true) c hc

theorem HeardInvariant.drainOnce :
    Ensures (OnHeard I) (drainOnce A (hearing N)) (fun _ => OnHeard I)
      (OnHeard T) := by
  refine ensures_bind (h.recv N) (fun rc => ?_)
  split_ifs with hpos
  · exact (h.handOver N hpos).mono (fun _ hc => hc.left hpos)
      (fun _ _ hc => hc) (fun _ hc => hc)
  · exact ensures_pure (fun _ hc => (hc.right (Int.not_lt.mp hpos)).left)

theorem HeardInvariant.drain :
    Ensures (OnHeard I) (drain A (hearing N)) (fun _ => OnHeard I)
      (OnHeard T) := by
  refine ensures_bind (h.announce N 0) (fun _ => ?_)
  refine ensures_bind (onHeard_setWindow false) (fun _ => ?_)
  refine ensures_bind (h.drainOnce N) (fun _ => ?_)
  exact ensures_bind (h.drainOnce N) (fun _ => h.drainOnce N)

theorem HeardInvariant.goodbyes (g : Goodbye) :
    Ensures (fun c : Session α (ν × List Report) =>
        OnHeard I c ∧ g.Told c.net.2)
      (modifyApp (A.logLine g.text) >>= fun _ => pure (-1))
      (Polled I Over) (OnHeard T) := by
  have hlog : Ensures (fun c : Session α (ν × List Report) =>
        OnHeard I c ∧ g.Told c.net.2) (modifyApp (A.logLine g.text))
      (fun _ => OnHeard Over) (OnHeard T) :=
    ensures_modify (fun _ hc => h.goodbye g hc.right hc.left)
  exact ensures_bind hlog (fun _ => ensures_pure (fun _ hc =>
    ⟨fun hrc => absurd hrc (by decide), fun _ => hc⟩))

omit h in
theorem polled_zero :
    Ensures (OnHeard (ν := ν) I) (pure 0) (Polled I Over) (OnHeard T) :=
  ensures_pure (fun _ hc =>
    ⟨fun _ => hc, fun hrc => absurd hrc (by decide)⟩)

omit h in
theorem CameEmpty.told {rc : Int} {c : Session α (ν × List Report)}
    (hc : CameEmpty N I rc c) {g : Goodbye}
    (hg : forall bytes : List UInt8,
      g.Reported (.received rc ((hearing N).headerFlags c.net) bytes)) :
    OnHeard I c ∧ g.Told c.net.2 := by
  rcases hc with ⟨hI, earlier, bytes, hnet⟩
  exact ⟨hI, earlier, _, hnet, hg bytes⟩

theorem HeardInvariant.afterPoll (P : Platform) (rc : Int) :
    Ensures (Brought N I rc) (afterPoll P A (hearing N) rc) (Polled I Over)
      (OnHeard T) := by
  rcases Int.lt_or_le 0 rc with hpos | hneg
  · have hwindow : Ensures (Brought N I rc) (setWindow false)
        (fun _ => InHand N I rc) (OnHeard T) :=
      ensures_modify (fun _ hc => hc.left hpos)
    rw [Client.afterPoll, if_neg (by omega), if_neg (by omega),
      if_neg (by omega), if_pos hpos]
    exact ensures_bind hwindow
      (fun _ => ensures_bind (h.handOver N hpos) (fun _ => polled_zero))
  · have hzero : Ensures (CameEmpty N I rc) (pure 0) (Polled I Over)
        (OnHeard T) :=
      polled_zero.mono (fun _ hc => hc.left) (fun _ _ hc => hc)
        (fun _ hc => hc)
    have hquiet : Ensures (CameEmpty N I rc) (Client.afterPoll P A (hearing N) rc)
        (Polled I Over) (OnHeard T) := by
      unfold Client.afterPoll
      split_ifs with _ hreset hbelow hpos
      · exact hzero
      · exact (h.goodbyes .reset).mono (fun _ hc => hc.told N (fun _ => hreset))
          (fun _ _ hc => hc) (fun _ hc => hc)
      · exact hzero
      · omega
      · apply ensures_get_bind
        intro c hc
        split_ifs with hfin
        · have hrc : rc = 0 := by
            omega
          have hlog : Ensures (fun c' => c' = c)
              (log (.hungUp c.app c.net))
              (fun _ c' => OnHeard I c' ∧ Goodbye.closed.Told c'.net.2)
              (OnHeard T) := by
            refine ensures_modify (fun c' heq => ?_)
            rcases hc.told N (g := .closed) (fun _ => ⟨hrc, hfin⟩) with
              ⟨hI, htold⟩
            rw [heq]
            exact ⟨onHeard_silent hI rfl, htold⟩
          exact ensures_bind hlog (fun _ => h.goodbyes .closed) c rfl
        · exact hzero c hc
    exact hquiet.mono (fun _ hc => hc.right hneg) (fun _ _ hc => hc)
      (fun _ hc => hc)

/-- `poll_net` returns -1 when the session is over. -/
theorem HeardInvariant.pollNet (P : Platform) :
    Ensures (OnHeard I) (pollNet P A (hearing N)) (Polled I Over)
      (OnHeard T) := by
  have hreturned : forall rc : Int, Ensures (Polled (ν := ν) I Over rc)
      (returned .pollNet) (fun _ => Polled I Over rc) (OnHeard T) :=
    fun _ => ensures_modify (fun _ hc =>
      ⟨fun hrc => onHeard_silent (hc.left hrc) rfl,
        fun hrc => onHeard_silent (hc.right hrc) rfl⟩)
  refine ensures_bind (h.openIfClosed N) (fun _ => ?_)
  refine ensures_bind (h.recv N) (fun rc => ?_)
  refine ensures_bind (h.afterPoll N P rc) (fun result => ?_)
  exact ensures_bind (hreturned result)
    (fun _ => ensures_pure (fun _ hc => hc))

end HeardInvariant

end Client
end Z80Tcpip
