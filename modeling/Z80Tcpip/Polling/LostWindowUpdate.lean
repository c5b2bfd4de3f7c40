import Z80Tcpip.Polling.WindowFlag
import Z80Tcpip.Tcp.LostAcks

/-!
# Window updates that are lost

A peer that has missed a window update keeps probing.  The stack ignores the
probes and the clients only look at their flag, so the window is opened again
only if something else closes it first: data in the same poll, or in irc.c a
command that has been parked.
-/

namespace Z80Tcpip
namespace Polling

open Foundation
open Ip
open Tcp
open Client
open Program

variable {P : Platform} {σ α ν : Type}

/-!
## Probes
-/

/-- The connection while `poll_net` receives: the window is open, or has just
been opened. -/
def listening (c : Session α (World σ)) : World σ :=
  if c.windowOpen = true then c.net else c.net.transmit 0 none RX_WINDOW

/-- `poll_net` consumes a zero window probe. -/
def Probed (L : Link P σ) (w : World σ) : Prop :=
  exists (n : Nat) (w' : World σ), SkipsProbes L POLL_TICKS (n + 1) w w'

/-- Behind any probes `poll_net` gets a segment with new data. -/
def BringsData (L : Link P σ) (w : World σ) : Prop :=
  exists (n : Nat) (w' : World σ) (bs : List UInt8) (line : σ),
    SkipsProbes L POLL_TICKS n w w' ∧ Delivers L POLL_TICKS w' bs line ∧
      Passes w'.tcp bs ∧ CarriesData bs ∧ ¬ packetSeq bs < w'.tcp.ack

/-- Since `count` segments had been transmitted, one went out with the window
of an idle client and the number that is expected next. -/
def Reopened (count : Nat) (w : World σ) : Prop :=
  exists t : Transmission, t ∈ w.sent.drop count ∧
    readBE (field t.packet 34 2) = RX_WINDOW.toNat ∧
    readBE (field t.packet 28 4) = t.tcp.ack.toNat

/-- From one call of `poll_net` to the return of the next, with what the loop
does in between. -/
def untilNextPoll (poll : Program ν Int) (between : Program ν Unit)
    (press : Program ν Int) : Program ν Bool := do
  let rc ← poll
  if rc < 0 then pure false
  else do
    between
    let rc ← press
    if rc < 0 then pure false
    else do
      let _ ← poll
      pure true

/-- A command waits for `flush_pending`. -/
def Parked (s : Irc.State) : Prop :=
  s.pongPending = true ∨ s.joinPending = true ∧ s.curChan ≠ []

/-- The packet that comes next decides, unless it is a probe. -/
theorem bringsData_packet {L : Link P σ} {w : World σ} {bs : List UInt8}
    {line : σ} (hrecv : Delivers L POLL_TICKS w bs line)
    (hprobe : Passes w.tcp bs -> ¬ IsProbe w.tcp bs) :
    BringsData L w <->
      Passes w.tcp bs ∧ CarriesData bs ∧ ¬ packetSeq bs < w.tcp.ack := by
  constructor
  · intro h
    rcases h with ⟨n, w', bs', line', hskips, hrecv', hdata⟩
    cases hskips with
    | none =>
        rcases hrecv.unique hrecv' with ⟨rfl, rfl⟩
        exact hdata
    | probe hrecv'' hpass'' hprobe'' =>
        rcases hrecv.unique hrecv'' with ⟨rfl, rfl⟩
        exact absurd hprobe'' (hprobe hpass'')
  · exact fun hdata => ⟨0, w, bs, line, SkipsProbes.none, hrecv, hdata⟩

theorem bringsData_probe {L : Link P σ} {w : World σ} {bs : List UInt8}
    {line : σ} (hrecv : Delivers L POLL_TICKS w bs line)
    (hpass : Passes w.tcp bs) (hprobe : IsProbe w.tcp bs) :
    BringsData L w <-> BringsData L (w.noted bs line) := by
  constructor
  · intro h
    rcases h with ⟨n, w', bs', line', hskips, hrecv', hpass', hdata, hseq⟩
    cases hskips with
    | none =>
        rcases hrecv.unique hrecv' with ⟨rfl, rfl⟩
        exact absurd hprobe hdata.not_probe
    | probe hrecv'' _ _ hmore =>
        rcases hrecv.unique hrecv'' with ⟨rfl, rfl⟩
        exact ⟨_, w', bs', line', hmore, hrecv', hpass', hdata, hseq⟩
  · intro h
    rcases h with ⟨n, w', bs', line', hskips, hrest⟩
    exact ⟨n + 1, w', bs', line',
      SkipsProbes.probe hrecv hpass hprobe hskips, hrest⟩

theorem not_bringsData_idle {L : Link P σ} {w : World σ} {line : σ}
    (hidle : L.recvPacket w.tcp.ip.pkt POLL_TICKS w.line =
      some (-(P.eagain : Int), w.tcp.ip.pkt, line)) : ¬ BringsData L w := by
  intro h
  rcases h with ⟨n, w', bs', line', hskips, hrecv, _⟩
  cases hskips with
  | none => exact hrecv.not_idle hidle
  | probe hrecv' => exact hrecv'.not_idle hidle

/-- A call returns data exactly when it gets a segment with new data. -/
theorem bringsData_iff {L : Link P σ} {w w' : World σ} {rc : Int}
    (h : Received L POLL_TICKS w rc w') : 0 < rc <-> BringsData L w := by
  induction h with
  | idle hidle =>
      have heagain := P.eagain_pos
      exact iff_of_false (by omega) (not_bringsData_idle hidle)
  | refused hrecv hbad hrc =>
      have heagain := P.eagain_pos
      have hreset : (0 : Int) < ERESET := by
        decide
      rw [bringsData_packet hrecv (fun hpass => absurd hpass hbad)]
      exact iff_of_false (by omega) (fun hdata => hbad hdata.left)
  | probe hrecv hpass hprobe _ ih =>
      rw [bringsData_probe hrecv hpass hprobe]
      exact ih
  | bare hrecv hpass hprobe hdata =>
      rw [bringsData_packet hrecv (fun _ => hprobe)]
      refine iff_of_false ?_ (fun hnew => hdata hnew.right.left)
      rw [CarriesData] at hdata
      omega
  | old hrecv hpass hprobe hdata hseq =>
      rw [bringsData_packet hrecv (fun _ => hprobe)]
      exact iff_of_false (by omega) (fun hnew => hnew.right.right hseq)
  | fresh hrecv hpass hprobe hdata hseq =>
      rw [bringsData_packet hrecv (fun _ => hprobe)]
      refine iff_of_true ?_ ⟨hpass, hdata, hseq⟩
      rw [CarriesData] at hdata
      omega

/-!
## Segments that open the window
-/

theorem Reopened.grow {count : Nat} {w w' : World σ} (h : Reopened count w)
    (hgrow : w.sent <+: w'.sent) : Reopened count w' := by
  rcases h with ⟨t, ht, hfields⟩
  rcases hgrow with ⟨new, hnew⟩
  refine ⟨t, ?_, hfields⟩
  rw [← hnew, List.drop_append]
  exact List.mem_append_left _ ht

/-- The update at the top of `poll_net`. -/
theorem reopened_transmit {w : World σ} (h : Established w) {count : Nat}
    (hcount : count ≤ w.sent.length) :
    Reopened count (w.transmit 0 none RX_WINDOW) := by
  have hroom : 40 + 0 ≤ w.tcp.ip.pktSize.toNat := by
    rw [h.size]
    decide
  have hvalid := validSegment_tcpTransmit w.tcp
    { len := 0, data := none, window := RX_WINDOW } hroom
  refine ⟨_, ?_, hvalid.window_eq, hvalid.acknowledgement⟩
  rw [World.transmit, List.drop_append_of_le_length hcount]
  exact List.mem_append_right _ (List.mem_singleton_self _)

/-- What is sent while `poll_net` receives has the window closed. -/
theorem not_reopened_received {L : Link P σ} {w w' : World σ} {rc : Int}
    (hw : Established w) (h : Received L POLL_TICKS w rc w') :
    ¬ Reopened w.sent.length w' := by
  intro hparts
  rcases hparts with ⟨t, ht, hwindow, _⟩
  rcases received_transmits h with ⟨_, hsent⟩ | ⟨_, w1, rfl, hsame, hsent⟩
  · rw [hsent, List.drop_length] at ht
    cases ht
  · have hsize : 40 + 0 ≤ w1.tcp.ip.pktSize.toNat := by
      rw [hsame.right.right.left, hw.size]
      decide
    have hvalid := validSegment_tcpTransmit w1.tcp
      { len := 0, data := none, window := 0 } hsize
    rw [World.transmit, hsent, List.drop_left, List.mem_singleton] at ht
    subst ht
    have hzero : (0 : UInt16).toNat = RX_WINDOW.toNat :=
      hvalid.window_eq.symm.trans hwindow
    exact absurd hzero (by decide)

theorem received_grows {L : Link P σ} {w w' : World σ} {rc : Int}
    (h : Received L POLL_TICKS w rc w') : w.sent <+: w'.sent := by
  rcases received_transmits h with ⟨_, hsent⟩ | ⟨_, w1, rfl, _, hsent⟩
  · exact hsent ▸ List.prefix_refl _
  · rw [← hsent]
    exact List.prefix_append _ _

/-!
## One poll
-/

theorem listening_established {c : Session α (World σ)}
    (h : Established c.net) : Established (listening c) := by
  unfold listening
  split_ifs
  · exact h
  · exact h.transmit RX_WINDOW

theorem listening_grows (c : Session α (World σ)) :
    c.net.sent <+: (listening c).sent := by
  unfold listening
  split_ifs
  · exact List.prefix_refl _
  · exact List.prefix_append _ _

theorem openIfClosed_listening {L : Link P σ} {fuel : Nat} {u : Unit}
    {c c' : Session α (World σ)} (hw : Established c.net)
    (h : openIfClosed (stackNetwork L fuel) c = (some u, c')) :
    c' = { c with net := listening c, windowOpen := true } := by
  unfold openIfClosed at h
  rw [get_bind_apply] at h
  unfold listening
  split_ifs at h ⊢ with hopen
  · cases h
    rw [← hopen]
  · rcases of_bind_some h with ⟨rc, c1, hsend, hflag⟩
    unfold onNet at hsend
    rcases hrun : (stackNetwork L fuel).send [] RX_WINDOW c.net with ⟨rc', w⟩
    rw [hrun] at hsend
    cases hsend
    cases hflag
    rw [send_nothing hw hrun]

/-- Only data closes the window, and only a poll that ends the session shows
anything else. -/
theorem afterPoll_cases {A : App α} {N : Network ν} {rc r : Int}
    {c c' : Session α ν} (h : afterPoll P A N rc c = (some r, c')) :
    c'.net = c.net ∧ (0 < rc -> c'.windowOpen = false) ∧
      (rc ≤ 0 -> c'.windowOpen = c.windowOpen ∧ (0 ≤ r -> c'.app = c.app)) := by
  have heagain := P.eagain_pos
  have hreset : (0 : Int) < ERESET := by
    decide
  unfold afterPoll at h
  split_ifs at h
  · cases h
    exact ⟨rfl, fun hpos => by omega, fun _ => ⟨rfl, fun _ => rfl⟩⟩
  · cases h
    exact ⟨rfl, fun hpos => by omega,
      fun _ => ⟨rfl, fun hr => absurd hr (by decide)⟩⟩
  · cases h
    exact ⟨rfl, fun hpos => by omega, fun _ => ⟨rfl, fun _ => rfl⟩⟩
  · cases h
    exact ⟨rfl, fun _ => rfl, fun hle => by omega⟩
  · rw [get_bind_apply] at h
    split_ifs at h
    · cases h
      exact ⟨rfl, fun hpos => absurd hpos (by omega),
        fun _ => ⟨rfl, fun hr => absurd hr (by decide)⟩⟩
    · cases h
      exact ⟨rfl, fun hpos => absurd hpos (by omega),
        fun _ => ⟨rfl, fun _ => rfl⟩⟩

/-- What `poll_net` does to the connection and the flag. -/
theorem pollNet_cases {L : Link P σ} {fuel : Nat} {A : App α} {r : Int}
    {c c' : Session α (World σ)} (hw : Established c.net)
    (h : pollNet P A (stackNetwork L fuel) c = (some r, c')) :
    exists rc : Int, Received L POLL_TICKS (listening c) rc c'.net ∧
      (0 < rc -> c'.windowOpen = false) ∧
      (rc ≤ 0 -> c'.windowOpen = true ∧ (0 ≤ r -> c'.app = c.app)) := by
  rcases of_bind_some h with ⟨u, c0, hopen, h⟩
  have hc0 := openIfClosed_listening hw hopen
  subst hc0
  rcases of_bind_some h with ⟨rc, c1, hrecv, h⟩
  rcases of_bind_some h with ⟨result, c2, hafter, h⟩
  cases h
  unfold onNet at hrecv
  rcases hrun : (stackNetwork L fuel).recv (listening c) with ⟨rc', w⟩
  simp only [hrun] at hrecv
  cases hrecv
  rcases afterPoll_cases hafter with ⟨hnet, hdata, hnone⟩
  have hreceived : Received L POLL_TICKS (listening c) rc w :=
    received_of_tcpRecvTimeout (listening_established hw).connected hrun
  refine ⟨rc, ?_, hdata, hnone⟩
  show Received L POLL_TICKS (listening c) rc c2.net
  rw [hnet]
  exact hreceived

/-- The window is closed, so that the next poll opens it, or it has been opened
since `base` was all that had been transmitted. -/
def Reopening (base : List Transmission) (c : Session α (World σ)) : Prop :=
  base <+: c.net.sent ∧
    (c.windowOpen = false ∨ Reopened base.length c.net)

section Polls

variable {L : Link P σ} {fuel : Nat} {A : App α} {r : Int}
  {c c' : Session α (World σ)} (hw : Established c.net)
  (h : pollNet P A (stackNetwork L fuel) c = (some r, c'))

include hw h

theorem reopening_of_data (hdata : BringsData L (listening c)) :
    Reopening (listening c).sent c' := by
  rcases pollNet_cases hw h with ⟨rc, hreceived, hclosed, _⟩
  exact ⟨received_grows hreceived,
    Or.inl (hclosed ((bringsData_iff hreceived).mpr hdata))⟩

/-- A poll without data that does not end the session changes nothing. -/
theorem unchanged_of_no_data (hr : 0 ≤ r)
    (hdata : ¬ BringsData L (listening c)) :
    c'.net.sent = (listening c).sent ∧ c'.windowOpen = true ∧
      c'.app = c.app := by
  rcases pollNet_cases hw h with ⟨rc, hreceived, _, hnone⟩
  have hle : rc ≤ 0 := by
    rw [← bringsData_iff hreceived] at hdata
    omega
  rcases hnone hle with ⟨hopen, happ⟩
  rcases received_transmits hreceived with ⟨_, hsent⟩ | ⟨hpos, _⟩
  · exact ⟨hsent, hopen, happ hr⟩
  · omega

theorem reopened_pollNet {base : List Transmission}
    (hbase : Reopening base c) :
    base <+: c'.net.sent ∧ Reopened base.length c'.net := by
  rcases pollNet_cases hw h with ⟨rc, hreceived, _⟩
  have hgrow := received_grows hreceived
  rcases hbase with ⟨hfront, hwindow⟩
  have hlistening : Reopened base.length (listening c) := by
    rcases hwindow with hclosed | hreopened
    · rw [listening, if_neg (by rw [hclosed]; exact Bool.false_ne_true)]
      exact reopened_transmit hw hfront.length_le
    · exact hreopened.grow (listening_grows c)
  exact ⟨(hfront.trans (listening_grows c)).trans hgrow,
    hlistening.grow hgrow⟩

theorem not_reopened_pollNet (hopen : c.windowOpen = true) :
    ¬ Reopened c.net.sent.length c'.net := by
  rcases pollNet_cases hw h with ⟨rc, hreceived, _⟩
  rw [listening, if_pos hopen] at hreceived
  exact not_reopened_received hw hreceived

end Polls

/-!
## Between two polls
-/

theorem untilNextPoll_steps {poll : Program ν Int} {between : Program ν Unit}
    {press : Program ν Int} {s s' : ν}
    (h : untilNextPoll poll between press s = (some true, s')) :
    exists (r r1 r2 : Int) (s1 s2 s3 : ν), poll s = (some r, s1) ∧ 0 ≤ r ∧
      between s1 = (some (), s2) ∧ press s2 = (some r1, s3) ∧
      poll s3 = (some r2, s') := by
  unfold untilNextPoll at h
  rcases of_bind_some h with ⟨r, s1, hpoll, h⟩
  split_ifs at h with hr
  · cases h
  · rcases of_bind_some h with ⟨u, s2, hbetween, h⟩
    rcases of_bind_some h with ⟨r1, s3, hpress, h⟩
    split_ifs at h with hr1
    · cases h
    · rcases of_bind_some h with ⟨r2, s4, hpoll', h⟩
      cases h
      exact ⟨r, r1, r2, s1, s2, s3, hpoll, by omega, hbetween, hpress, hpoll'⟩

theorem grows_netInvariant (L : Link P σ) (fuel : Nat)
    (base : List Transmission) :
    NetInvariant (stackNetwork L fuel) (fun w => base <+: w.sent)
      (fun _ => True) where
  send := by
    intro bytes window w hbase
    have hgrow : base <+: ((stackNetwork L fuel).send bytes window w).2.sent := by
      refine hbase.trans ?_
      cases bytes with
      | nil =>
          rcases (stackSends L fuel).send w 0 none window with ⟨_, new, hsent, _⟩
          exact ⟨new, hsent.symm⟩
      | cons b rest =>
          rcases (stackSends L fuel).send w (b :: rest).length
            (some ⟨b :: rest, rfl⟩) window with ⟨_, new, hsent, _⟩
          exact ⟨new, hsent.symm⟩
    rcases hrun : (stackNetwork L fuel).send bytes window w with ⟨_ | rc, w'⟩
    · trivial
    · rwa [hrun] at hgrow
  recv := by
    intro w hbase
    rcases hrun : (stackNetwork L fuel).recv w with ⟨_ | rc, w'⟩
    · trivial
    · refine ⟨hbase.trans ?_, fun _ _ => trivial⟩
      rcases (stackSends L fuel).recvTimeout w 0 POLL_TICKS with
        ⟨_, new, hsent, _⟩
      have hrun' : tcpRecvTimeout L fuel w 0 POLL_TICKS = (some rc, w') := hrun
      rw [hrun'] at hsent
      exact ⟨new, hsent.symm⟩

def WindowClosed (c : Session α ν) : Prop :=
  c.windowOpen = false

theorem sendData_closes (N : Network ν) (origin : Origin)
    (pieces : List (List UInt8)) (bytes : List UInt8) :
    Ensures (fun _ : Session α ν => True) (sendData N origin pieces bytes)
      (fun _ => WindowClosed) (fun _ => True) := by
  have hclose : Ensures (fun _ : Session α ν => True) (setWindow false)
      (fun _ => WindowClosed) (fun _ => True) :=
    ensures_modify (fun _ _ => rfl)
  refine ensures_bind (ensures_true _) (fun _ => ?_)
  refine ensures_bind (ensures_true _) (fun _ => ?_)
  exact ensures_bind hclose (fun _ => ensures_pure (fun _ hc => hc))

theorem modifyApp_closes (f : α -> α) :
    Ensures (WindowClosed (ν := ν)) (modifyApp f) (fun _ => WindowClosed)
      (fun _ => True) :=
  ensures_modify (fun _ hc => hc)

/-!
## irc.c
-/

theorem irc_oSend_closes (N : Network ν) (origin : Origin)
    (pieces : List (List UInt8)) :
    Ensures (fun _ : Session Irc.State ν => True)
      (Irc.oSend N origin pieces) (fun _ => WindowClosed) (fun _ => True) := by
  have hfailed : forall rc : Int, Ensures (WindowClosed (ν := ν))
      (Irc.reportFailure rc) (fun _ => WindowClosed) (fun _ => True) := by
    intro rc
    unfold Irc.reportFailure
    split_ifs
    · exact modifyApp_closes _
    · exact ensures_pure (fun _ hc => hc)
  refine ensures_bind (ensures_true _) (fun _ => ?_)
  apply ensures_get_bind
  intro c hc
  refine ensures_bind (sendData_closes N origin pieces _) (fun rc => ?_) c hc
  refine ensures_bind (modifyApp_closes _) (fun _ => ?_)
  exact ensures_bind (hfailed rc) (fun _ => ensures_modify (fun _ h => h))

section IrcPolls

variable (L : Link P σ) (fuel : Nat) (base : List Transmission)

def IrcGrown (c : Session Irc.State (World σ)) : Prop :=
  IrcKept c ∧ base <+: c.net.sent

def IrcReopening (c : Session Irc.State (World σ)) : Prop :=
  IrcKept c ∧ Reopening base c

/-- Whatever the client sends, it then has its window closed. -/
theorem irc_upholds_reopening :
    Irc.Upholds P (stackNetwork L fuel) (IrcReopening base)
      (fun _ _ => IrcGrown base) (fun _ => True) where
  poll := by
    intro c hboth
    rcases hboth with ⟨hc, hbase⟩
    have hkept := (irc_upholds L fuel).poll c hc
    rcases hpoll : Irc.pollNet P (stackNetwork L fuel) c with ⟨_ | r, c'⟩
    · trivial
    · rw [hpoll] at hkept
      rcases reopened_pollNet hc.left.established hpoll hbase with
        ⟨hgrow, hreopened⟩
      exact ⟨hkept, hgrow, Or.inr hreopened⟩
  send := by
    intro origin pieces
    have hgrow := Irc.onConnection_oSend (grows_netInvariant L fuel base)
      origin pieces
    refine ((((irc_upholds L fuel).send origin pieces).and hgrow).and
      (irc_oSend_closes _ origin pieces)).mono ?_ ?_ (fun _ _ => trivial)
    · exact fun c hc => ⟨⟨hc.left, hc.right, fun _ _ _ => trivial⟩, trivial⟩
    · exact fun _ c hc =>
        ⟨hc.left.left, hc.left.right.left, Or.inl hc.right⟩
  returned := by
    intro call c hboth
    rcases hboth with ⟨hc, hbase⟩
    exact ⟨(irc_upholds L fuel).returned call c hc, hbase⟩
  edit := fun k _ h => ⟨(irc_upholds L fuel).edit k h.left, h.right⟩
  reply := fun h haction =>
    ⟨(irc_upholds L fuel).reply h.left haction, h.right⟩
  typed := fun h haction =>
    ⟨(irc_upholds L fuel).typed h.left haction, h.right.left⟩
  after := fun h haction =>
    ⟨(irc_upholds L fuel).after h.left haction, h.right⟩
  quit := fun h => ⟨(irc_upholds L fuel).quit h.left, h.right.left⟩
  pong := fun h hpending =>
    ⟨(irc_upholds L fuel).pong h.left hpending, h.right.left⟩
  join := fun h hpending hchan =>
    ⟨(irc_upholds L fuel).join h.left hpending hchan, h.right.left⟩
  no_join := fun h => ⟨(irc_upholds L fuel).no_join h.left, h.right⟩

/-- A parked command closes the window when it is sent. -/
theorem reopening_flushPending :
    Ensures (fun c => IrcGrown base c ∧ Parked c.app)
      (Irc.flushPending (stackNetwork L fuel)) (fun _ => IrcReopening base)
      (fun _ => True) := by
  have h := irc_upholds_reopening L fuel base
  have hpong : Ensures (fun c => IrcGrown base c ∧ Parked c.app)
      (Irc.flushPong (stackNetwork L fuel))
      (fun _ c => IrcReopening base c ∨ IrcGrown base c ∧
        c.app.joinPending = true ∧ c.app.curChan ≠ [])
      (fun _ => True) := by
    apply ensures_get_bind
    intro c hboth
    rcases hboth with ⟨⟨hc, hgrow⟩, hparked⟩
    split_ifs with hpending
    · have hsent : Outcome (fun _ => IrcReopening base) (fun _ => True)
          (Irc.command (stackNetwork L fuel) .pong (Irc.pongPieces c.app)
            (fun s => { s with pongPending := false }) c) :=
        h.command ⟨(irc_upholds L fuel).pong hc hpending, hgrow⟩
      rcases hrun : Irc.command (stackNetwork L fuel) .pong
        (Irc.pongPieces c.app) (fun s => { s with pongPending := false }) c
        with ⟨_ | u, c'⟩
      · trivial
      · rw [hrun] at hsent
        exact Or.inl hsent
    · exact Or.inr ⟨⟨hc, hgrow⟩, hparked.resolve_left hpending⟩
  have hjoin : Ensures
      (fun c => IrcReopening base c ∨ IrcGrown base c ∧
        c.app.joinPending = true ∧ c.app.curChan ≠ [])
      (Irc.flushJoin (stackNetwork L fuel)) (fun _ => IrcReopening base)
      (fun _ => True) := by
    intro c hcase
    rcases hcase with hc | ⟨⟨hc, hgrow⟩, hpending, hchan⟩
    · exact h.flushJoin c hc
    · unfold Irc.flushJoin
      rw [get_bind_apply, if_pos hpending, if_pos hchan]
      exact h.command ⟨(irc_upholds L fuel).join hc hpending hchan, hgrow⟩
  exact ensures_bind hpong
    (fun _ => ensures_bind hjoin (fun _ => h.returned .flushPending))

end IrcPolls

theorem flushPending_idle {N : Network ν} {u : Unit}
    {c c' : Session Irc.State ν} (hparked : ¬ Parked c.app)
    (h : Irc.flushPending N c = (some u, c')) :
    c'.net = c.net ∧ c'.windowOpen = c.windowOpen := by
  rcases of_bind_some h with ⟨u1, c1, hpong, h⟩
  rcases of_bind_some h with ⟨u2, c2, hjoin, h⟩
  cases h
  unfold Irc.flushPong at hpong
  rw [get_bind_apply, if_neg (fun hp => hparked (Or.inl hp))] at hpong
  cases hpong
  unfold Irc.flushJoin at hjoin
  rw [get_bind_apply] at hjoin
  split_ifs at hjoin with hpending hchan
  · exact absurd (Or.inr ⟨hpending, hchan⟩) hparked
  · cases hjoin
    exact ⟨rfl, rfl⟩
  · cases hjoin
    exact ⟨rfl, rfl⟩

section IrcUpdates

variable {L : Link P σ} {fuel : Nat} {c c' : Session Irc.State (World σ)}
  (hc : IrcKept c)

include hc

theorem irc_recovers {k : UInt16}
    (hcause : BringsData L (listening c) ∨ Parked c.app)
    (h : untilNextPoll (Irc.pollNet P (stackNetwork L fuel))
      (Irc.flushPending (stackNetwork L fuel))
      (Irc.pressKey (stackNetwork L fuel) k) c = (some true, c')) :
    Reopened (listening c).sent.length c'.net := by
  rcases untilNextPoll_steps h with
    ⟨r, r1, r2, c1, c2, c3, hpoll, hr, hflush, hpress, hpoll'⟩
  have hthere := hc.left.established
  have hkept : IrcKept c1 := (irc_upholds L fuel).poll.of_some hc hpoll
  have hup := irc_upholds_reopening L fuel (listening c).sent
  have hflushed : IrcReopening (listening c).sent c2 := by
    by_cases hdata : BringsData L (listening c)
    · exact hup.flushPending.of_some
        ⟨hkept, reopening_of_data hthere hpoll hdata⟩ hflush
    · rcases unchanged_of_no_data hthere hpoll hr hdata with ⟨hsent, _, happ⟩
      have hparked : Parked c1.app := by
        rw [happ]
        exact hcause.resolve_left hdata
      have hgrown : IrcGrown (listening c).sent c1 := by
        exact ⟨hkept, hsent ▸ List.prefix_refl _⟩
      exact (reopening_flushPending L fuel _).of_some ⟨hgrown, hparked⟩ hflush
  have hpressed := (hup.pressKey k).of_some hflushed hpress
  exact (reopened_pollNet hpressed.left.left.established hpoll'
    hpressed.right).right

theorem irc_stalls (hdata : ¬ BringsData L (listening c))
    (hparked : ¬ Parked c.app)
    (h : untilNextPoll (Irc.pollNet P (stackNetwork L fuel))
      (Irc.flushPending (stackNetwork L fuel))
      (Irc.pressKey (stackNetwork L fuel) 0) c = (some true, c')) :
    ¬ Reopened (listening c).sent.length c'.net := by
  rcases untilNextPoll_steps h with
    ⟨r, r1, r2, c1, c2, c3, hpoll, hr, hflush, hpress, hpoll'⟩
  have hthere := hc.left.established
  have hkept : IrcKept c1 := (irc_upholds L fuel).poll.of_some hc hpoll
  rcases unchanged_of_no_data hthere hpoll hr hdata with ⟨hsent, hopen, happ⟩
  rw [← happ] at hparked
  rcases flushPending_idle hparked hflush with ⟨hnet, hflag⟩
  cases hpress
  rw [← hsent, ← hnet]
  apply not_reopened_pollNet ?_ hpoll' (hflag.trans hopen)
  rw [hnet]
  exact hkept.left.established

end IrcUpdates

/-!
## tcp_chat.c
-/

theorem chat_sendLine_closes (N : Network ν) :
    Ensures (fun _ : Session Chat.State ν => True)
      (Chat.sendLine N) (fun _ => WindowClosed) (fun _ => True) := by
  have hfailed : forall rc : Int, Ensures (WindowClosed (ν := ν))
      (Chat.reportFailure rc) (fun _ => WindowClosed) (fun _ => True) := by
    intro rc
    unfold Chat.reportFailure
    split_ifs
    · exact modifyApp_closes _
    · exact ensures_pure (fun _ hc => hc)
  refine ensures_bind (ensures_true _) (fun _ => ?_)
  apply ensures_get_bind
  intro c hc
  refine ensures_bind (sendData_closes N .typed _ _) (fun rc => ?_) c hc
  refine ensures_bind (modifyApp_closes _) (fun _ => ?_)
  exact ensures_bind (hfailed rc) (fun _ => ensures_modify (fun _ h => h))

def ChatReopening (base : List Transmission)
    (c : Session Chat.State (World σ)) : Prop :=
  ChatKept c ∧ Reopening base c

theorem chat_upholds_reopening (L : Link P σ) (fuel : Nat)
    (base : List Transmission) :
    Chat.Upholds P (stackNetwork L fuel) (ChatReopening base)
      (fun _ => True) where
  poll := by
    intro c hboth
    rcases hboth with ⟨hc, hbase⟩
    have hkept := (chat_upholds L fuel).poll c hc
    rcases hpoll : Chat.pollNet P (stackNetwork L fuel) c with ⟨_ | r, c'⟩
    · trivial
    · rw [hpoll] at hkept
      rcases reopened_pollNet hc.left.established hpoll hbase with
        ⟨hgrow, hreopened⟩
      exact ⟨hkept, hgrow, Or.inr hreopened⟩
  send := by
    have hgrow := Chat.onConnection_sendLine (grows_netInvariant L fuel base)
    refine (((chat_upholds L fuel).send.and hgrow).and
      (chat_sendLine_closes _)).mono ?_ ?_ (fun _ _ => trivial)
    · exact fun c hc =>
        ⟨⟨hc.left, hc.right.left, fun _ _ _ => trivial⟩, trivial⟩
    · exact fun _ c hc =>
        ⟨hc.left.left, hc.left.right.left, Or.inl hc.right⟩
  returned := by
    intro call c hboth
    rcases hboth with ⟨hc, hbase⟩
    exact ⟨(chat_upholds L fuel).returned call c hc, hbase⟩
  edit := fun k _ h => ⟨(chat_upholds L fuel).edit k h.left, h.right⟩

section ChatUpdates

variable {L : Link P σ} {fuel : Nat} {c c' : Session Chat.State (World σ)}
  (hc : ChatKept c)

include hc

theorem chat_recovers {k : UInt16} (hdata : BringsData L (listening c))
    (h : untilNextPoll (Chat.pollNet P (stackNetwork L fuel)) (pure ())
      (Chat.pressKey (stackNetwork L fuel) k) c = (some true, c')) :
    Reopened (listening c).sent.length c'.net := by
  rcases untilNextPoll_steps h with
    ⟨r, r1, r2, c1, c2, c3, hpoll, hr, hnothing, hpress, hpoll'⟩
  cases hnothing
  have hkept : ChatKept c1 := (chat_upholds L fuel).poll.of_some hc hpoll
  have hup := chat_upholds_reopening L fuel (listening c).sent
  have hpressed := (hup.pressKey k).of_some
    ⟨hkept, reopening_of_data hc.left.established hpoll hdata⟩ hpress
  exact (reopened_pollNet hpressed.left.left.established hpoll'
    hpressed.right).right

theorem chat_stalls (hdata : ¬ BringsData L (listening c))
    (h : untilNextPoll (Chat.pollNet P (stackNetwork L fuel)) (pure ())
      (Chat.pressKey (stackNetwork L fuel) 0) c = (some true, c')) :
    ¬ Reopened (listening c).sent.length c'.net := by
  rcases untilNextPoll_steps h with
    ⟨r, r1, r2, c1, c2, c3, hpoll, hr, hnothing, hpress, hpoll'⟩
  cases hnothing
  cases hpress
  have hkept : ChatKept c1 := (chat_upholds L fuel).poll.of_some hc hpoll
  rcases unchanged_of_no_data hc.left.established hpoll hr hdata with
    ⟨hsent, hopen, _⟩
  rw [← hsent]
  exact not_reopened_pollNet hkept.left.established hpoll' hopen

end ChatUpdates

/-!
## Runs
-/

/-- In a run of irc.c all of `keys` have been handled, then `k`, and the loop is
in front of `poll_net`. -/
def IrcAtPoll (P : Platform) (N : Network (World σ)) (w : World σ)
    (con : Console) (nickKeys chanKeys keys : List UInt16) (k : UInt16)
    (c : Session Irc.State (World σ)) : Prop :=
  exists (top : Session Irc.State (World σ)) (rc : Int),
    Irc.main P N keys
        (Session.start (Irc.State.prompted con nickKeys chanKeys) w) =
      (some true, top) ∧
    Irc.pressKey N k top = (some rc, c) ∧ 0 ≤ rc

def ChatAtPoll (P : Platform) (N : Network (World σ)) (w : World σ)
    (con : Console) (keys : List UInt16) (k : UInt16)
    (c : Session Chat.State (World σ)) : Prop :=
  exists (top : Session Chat.State (World σ)) (rc : Int),
    Chat.main P N keys (Session.start (Chat.State.initial con) w) =
      (some true, top) ∧
    Chat.pressKey N k top = (some rc, c) ∧ 0 ≤ rc

theorem IrcAtPoll.kept {L : Link P σ} {fuel : Nat} {w : World σ}
    {con : Console} {nickKeys chanKeys keys : List UInt16} {k : UInt16}
    {c : Session Irc.State (World σ)} (h : Answered w)
    (hsize : w.tcp.ip.pktSize.toNat = BUF_SIZE)
    (hc : IrcAtPoll P (stackNetwork L fuel) w con nickKeys chanKeys keys k c) :
    IrcKept c := by
  rcases hc with ⟨top, rc, hmain, hpress, _⟩
  have htop := irc_mainKept L fuel h hsize con nickKeys chanKeys keys
  rw [hmain] at htop
  exact ((irc_upholds L fuel).pressKey k).of_some htop hpress

theorem ChatAtPoll.kept {L : Link P σ} {fuel : Nat} {w : World σ}
    {con : Console} {keys : List UInt16} {k : UInt16}
    {c : Session Chat.State (World σ)} (h : Answered w)
    (hsize : w.tcp.ip.pktSize.toNat = BUF_SIZE)
    (hc : ChatAtPoll P (stackNetwork L fuel) w con keys k c) :
    ChatKept c := by
  rcases hc with ⟨top, rc, hmain, hpress, _⟩
  have htop := chat_mainKept L fuel h hsize con keys
  rw [hmain] at htop
  exact ((chat_upholds L fuel).pressKey k).of_some htop hpress

/-- Behind a successful `tcp_connect`, whenever a poll consumes a probe, the
window is opened again by the end of the next poll if new data follows in the
same poll or, in irc.c, a command is parked, and if nobody types, only then. -/
theorem lost_window_update_recovered_iff (L : Link P σ) (fuel : Nat)
    (register : Nat -> UInt8) {w0 w : World σ} {rc : Int}
    (hsize : w0.tcp.ip.pktSize.toNat = BUF_SIZE)
    (hconnect : tcpConnect L fuel register w0 = (some rc, w)) (hrc : 0 ≤ rc) :
    (forall (fuel' : Nat) (con : Console)
      (nickKeys chanKeys keys : List UInt16) (k0 : UInt16)
      (c : Session Irc.State (World σ)),
      IrcAtPoll P (stackNetwork L fuel') w con nickKeys chanKeys keys k0 c ->
      Probed L (listening c) ->
      forall (k : UInt16) (c' : Session Irc.State (World σ)),
        untilNextPoll (Irc.pollNet P (stackNetwork L fuel'))
            (Irc.flushPending (stackNetwork L fuel'))
            (Irc.pressKey (stackNetwork L fuel') k) c = (some true, c') ->
        (BringsData L (listening c) ∨ Parked c.app ->
          Reopened (listening c).sent.length c'.net) ∧
        (k = 0 -> Reopened (listening c).sent.length c'.net ->
          BringsData L (listening c) ∨ Parked c.app)) ∧
      forall (fuel' : Nat) (con : Console) (keys : List UInt16) (k0 : UInt16)
        (c : Session Chat.State (World σ)),
        ChatAtPoll P (stackNetwork L fuel') w con keys k0 c ->
        Probed L (listening c) ->
        forall (k : UInt16) (c' : Session Chat.State (World σ)),
          untilNextPoll (Chat.pollNet P (stackNetwork L fuel')) (pure ())
              (Chat.pressKey (stackNetwork L fuel') k) c = (some true, c') ->
          (BringsData L (listening c) ->
            Reopened (listening c).sent.length c'.net) ∧
          (k = 0 -> Reopened (listening c).sent.length c'.net ->
            BringsData L (listening c)) := by
  rcases tcpConnect_answered hconnect hrc with ⟨hanswered, hsame⟩
  rw [← hsame] at hsize
  constructor
  · intro fuel' con nickKeys chanKeys keys k0 c hpoll _ k c' hrun
    have hc := hpoll.kept hanswered hsize
    refine ⟨fun hcause => irc_recovers hc hcause hrun, ?_⟩
    intro heq hreopened
    subst heq
    by_contra hno
    rw [not_or] at hno
    exact irc_stalls hc hno.left hno.right hrun hreopened
  · intro fuel' con keys k0 c hpoll _ k c' hrun
    have hc := hpoll.kept hanswered hsize
    refine ⟨fun hdata => chat_recovers hc hdata hrun, ?_⟩
    intro heq hreopened
    subst heq
    by_contra hno
    exact chat_stalls hc hno hrun hreopened

/-- The SYN is answered and a byte arrives; when the client has opened its
window again the peer still probes, and `more` follows in the same poll. -/
def probing (more : Script) : World Script :=
  dialling ([some (peerSegment 1 2 []), some (peerSegment 2 2 [0x41]), none,
    some (peerSegment 2 2 [])] ++ more)

def probed (more : Script) : World Script :=
  (tcpConnect (scriptLink Platform.spectrum) 12 (fun _ => 0)
    (probing more)).2

def idling (more : Script) : Session Chat.State (World Script) :=
  (Chat.main Platform.spectrum
    (stackNetwork (scriptLink Platform.spectrum) 12) [0, 0]
    (Session.start (Chat.State.initial Console.blank) (probed more))).2

def polledTwice (more : Script) :
    Option Bool × Session Chat.State (World Script) :=
  untilNextPoll
    (Chat.pollNet Platform.spectrum
      (stackNetwork (scriptLink Platform.spectrum) 12)) (pure ())
    (Chat.pressKey (stackNetwork (scriptLink Platform.spectrum) 12) 0)
    (idling more)

theorem probing_connects (more : Script)
    (h : (tcpConnect (scriptLink Platform.spectrum) 12 (fun _ => 0)
      (probing more)).1 = some 0) :
    tcpConnect (scriptLink Platform.spectrum) 12 (fun _ => 0)
      (probing more) = (some 0, probed more) :=
  Prod.ext h rfl

/-- A turn without a key comes to its poll. -/
theorem chatAtPoll_idle {N : Network (World σ)} {w : World σ} {con : Console}
    {keys : List UInt16} {top : Session Chat.State (World σ)}
    (h : Chat.main P N keys (Session.start (Chat.State.initial con) w) =
      (some true, top)) : ChatAtPoll P N w con keys 0 top :=
  ⟨top, 0, h, rfl, Int.le_refl 0⟩

theorem probed_of_script {w : World Script} {bs : List UInt8} {line : Script}
    (hline : w.line = some bs :: line)
    (hfit : bs.length ≤ w.tcp.ip.pktSize.toNat) (hpass : Passes w.tcp bs)
    (hprobe : IsProbe w.tcp bs) : Probed (scriptLink P) w :=
  ⟨0, w.noted bs line,
    SkipsProbes.probe (delivers_of_script POLL_TICKS hfit hline) hpass hprobe
      SkipsProbes.none⟩

theorem bringsData_of_script {w : World Script} {bs bs' : List UInt8}
    {line : Script} (hline : w.line = some bs :: some bs' :: line)
    (hfit : bs.length ≤ w.tcp.ip.pktSize.toNat)
    (hfit' : bs'.length ≤ w.tcp.ip.pktSize.toNat) (hpass : Passes w.tcp bs)
    (hprobe : IsProbe w.tcp bs) (hpass' : Passes w.tcp bs')
    (hdata : CarriesData bs') (hseq : ¬ packetSeq bs' < w.tcp.ack) :
    BringsData (scriptLink P) w := by
  have hsession : SameSession w.tcp (w.noted bs (some bs' :: line)).tcp :=
    SameSession.refl w.tcp
  exact ⟨1, w.noted bs (some bs' :: line), bs', line,
    SkipsProbes.probe (delivers_of_script POLL_TICKS hfit hline) hpass hprobe
      SkipsProbes.none,
    delivers_of_script POLL_TICKS hfit' rfl,
    (Passes.sameSession hsession).mpr hpass', hdata, hseq⟩

def nextByte : Script := [some (peerSegment 3 2 [0x42])]

/-- Behind the probe the peer sends the next byte after all. -/
theorem lost_window_update_recovered_iff_data :
    exists c' : Session Chat.State (World Script),
      polledTwice nextByte = (some true, c') ∧
        Reopened (listening (idling nextByte)).sent.length c'.net := by
  have hnext : (listening (idling nextByte)).line =
        [some (peerSegment 2 2 []), some (peerSegment 3 2 [0x42])] ∧
      40 ≤ (listening (idling nextByte)).tcp.ip.pktSize.toNat ∧
      41 ≤ (listening (idling nextByte)).tcp.ip.pktSize.toNat ∧
      Passes (listening (idling nextByte)).tcp (peerSegment 2 2 []) ∧
      IsProbe (listening (idling nextByte)).tcp (peerSegment 2 2 []) ∧
      Passes (listening (idling nextByte)).tcp (peerSegment 3 2 [0x42]) ∧
      CarriesData (peerSegment 3 2 [0x42]) ∧
      ¬ packetSeq (peerSegment 3 2 [0x42]) <
        (listening (idling nextByte)).tcp.ack := by
    decide +kernel
  rcases hnext with
    ⟨hline, hfit, hfit', hpass, hprobe, hpass', hcarries, hseq⟩
  have hprobed : Probed (scriptLink Platform.spectrum)
      (listening (idling nextByte)) :=
    probed_of_script hline hfit hpass hprobe
  have hdata : BringsData (scriptLink Platform.spectrum)
      (listening (idling nextByte)) :=
    bringsData_of_script hline hfit hfit' hpass hprobe hpass' hcarries hseq
  have hsize : (probing nextByte).tcp.ip.pktSize.toNat = BUF_SIZE := rfl
  have hrun : polledTwice nextByte = (some true, (polledTwice nextByte).2) :=
    Prod.ext (by decide +kernel) rfl
  refine ⟨(polledTwice nextByte).2, hrun, ?_⟩
  exact ((lost_window_update_recovered_iff (scriptLink Platform.spectrum) 12
    (fun _ => 0) hsize
    (probing_connects nextByte (by decide +kernel)) (Int.le_refl 0)).right 12
    Console.blank [0, 0] 0 (idling nextByte)
    (chatAtPoll_idle (Prod.ext (by decide +kernel) rfl)) hprobed 0
    (polledTwice nextByte).2 hrun).left hdata

/-- Nothing follows the probe, and nobody types. -/
theorem not_recovered_lost_window_update :
    tcpConnect (scriptLink Platform.spectrum) 12 (fun _ => 0) (probing []) =
        (some 0, probed []) ∧
      ChatAtPoll Platform.spectrum
        (stackNetwork (scriptLink Platform.spectrum) 12) (probed [])
        Console.blank [0, 0] 0 (idling []) ∧
      (idling []).windowOpen = true ∧
      Probed (scriptLink Platform.spectrum) (listening (idling [])) ∧
      exists c' : Session Chat.State (World Script),
        polledTwice [] = (some true, c') ∧
          ¬ Reopened (listening (idling [])).sent.length c'.net := by
  have hnext : (idling []).windowOpen = true ∧
      (listening (idling [])).line = [some (peerSegment 2 2 [])] ∧
      40 ≤ (listening (idling [])).tcp.ip.pktSize.toNat ∧
      Passes (listening (idling [])).tcp (peerSegment 2 2 []) ∧
      IsProbe (listening (idling [])).tcp (peerSegment 2 2 []) := by
    decide +kernel
  have hpolled : (polledTwice []).1 = some true ∧
      (polledTwice []).2.net.sent.length =
        (listening (idling [])).sent.length := by
    decide +kernel
  rcases hnext with ⟨hopen, hline, hfit, hpass, hprobe⟩
  rcases hpolled with ⟨hreturned, hsent⟩
  refine ⟨probing_connects [] (by decide +kernel),
    chatAtPoll_idle (Prod.ext (by decide +kernel) rfl), hopen,
    probed_of_script hline hfit hpass hprobe, (polledTwice []).2,
    Prod.ext hreturned rfl, ?_⟩
  intro h
  rcases h with ⟨t, ht, _⟩
  rw [← hsent, List.drop_length] at ht
  cases ht

end Polling
end Z80Tcpip
