import Z80Tcpip.Chat.Invariants
import Z80Tcpip.Irc.TypedLines
import Z80Tcpip.Polling.Connection
import Z80Tcpip.Tcp.ScriptRuns

/-!
# What the window flag says

Both clients keep a flag for the window they have open.  In every run behind a
successful `tcp_connect` the flag is set exactly when the last segment that was
transmitted carries an open window.
-/

namespace Z80Tcpip
namespace Polling

open Foundation
open Tcp
open Client
open Program

variable {P : Platform} {σ α : Type}

/-- The flag is set if and only if the last segment carries an open window, and
then the window is that of an idle client. -/
def Told (windowOpen : Bool) (w : World σ) : Prop :=
  (windowOpen = true <-> advertised w ≠ 0) ∧
    (advertised w = 0 ∨ advertised w = RX_WINDOW.toNat)

/-- A call returns with the flag right. -/
def ReturnsTold : Event α (World σ) -> Prop
  | .returned _ _ w windowOpen => Told windowOpen w
  | _ => True

def AllTold (t : List (Event α (World σ))) : Prop :=
  forall e, e ∈ t -> ReturnsTold e

theorem AllTold.append {t : List (Event α (World σ))} (h : AllTold t)
    {e : Event α (World σ)} (he : ReturnsTold e) : AllTold (t ++ [e]) := by
  intro e' hmem
  rcases List.mem_append.mp hmem with hold | hnew
  · exact h e' hold
  · rw [List.mem_singleton] at hnew
    rwa [hnew]

theorem told_closed {w : World σ} (h : advertised w = 0) : Told false w :=
  ⟨iff_of_false (fun hopen => Bool.noConfusion hopen) (fun hne => hne h),
    Or.inl h⟩

theorem told_open {w : World σ} (h : advertised w = RX_WINDOW.toNat) :
    Told true w := by
  have hne : advertised w ≠ 0 := by
    rw [h]
    decide
  exact ⟨iff_of_true rfl hne, Or.inr h⟩

theorem Told.closed {w : World σ} (h : Told false w) : advertised w = 0 := by
  by_contra hne
  exact absurd (h.left.mpr hne) (fun hopen => Bool.noConfusion hopen)

/-- The invariant of a session, -/
structure Truthful (c : Session α (World σ)) : Prop where
  established : Established c.net
  told : Told c.windowOpen c.net
  traced : AllTold c.trace

/-- of one that has closed its window, -/
def Shut (c : Session α (World σ)) : Prop :=
  Truthful c ∧ c.windowOpen = false

/-- and what is left of it when a call of the stack does not return. -/
def TracedTold (c : Session α (World σ)) : Prop :=
  AllTold c.trace

/-- Between a call of the stack and the update of the flag. -/
structure Untold (window : Nat) (c : Session α (World σ)) : Prop where
  established : Established c.net
  advertised : advertised c.net = window
  traced : AllTold c.trace

/-!
## The shared part of the clients
-/

section Shared

variable (L : Link P σ) (fuel : Nat) (A : App α)

theorem truthful_modifyApp (f : α -> α) :
    Ensures (Truthful (σ := σ)) (modifyApp f) (fun _ => Truthful)
      TracedTold :=
  ensures_modify (fun _ h => ⟨h.established, h.told, h.traced⟩)

theorem shut_modifyApp (f : α -> α) :
    Ensures (Shut (σ := σ)) (modifyApp f) (fun _ => Shut) TracedTold :=
  ensures_modify (fun _ h =>
    ⟨⟨h.left.established, h.left.told, h.left.traced⟩, h.right⟩)

theorem truthful_returned (call : Client.Call) :
    Ensures (Truthful (α := α) (σ := σ)) (returned call) (fun _ => Truthful)
      TracedTold :=
  ensures_modify (fun _ h =>
    ⟨h.established, h.told, h.traced.append h.told⟩)

theorem shut_returned (call : Client.Call) :
    Ensures (Shut (α := α) (σ := σ)) (returned call) (fun _ => Shut)
      TracedTold :=
  ensures_modify (fun _ h =>
    ⟨⟨h.left.established, h.left.told, h.left.traced.append h.left.told⟩,
      h.right⟩)

theorem shut_close :
    Ensures (Untold (α := α) (σ := σ) 0) (setWindow false) (fun _ => Shut)
      TracedTold :=
  ensures_modify (fun _ h =>
    ⟨⟨h.established, told_closed h.advertised, h.traced⟩, rfl⟩)

/-- A window update, in front of the update of the flag. -/
theorem untold_send_nothing (window : UInt16) :
    Ensures (Truthful (α := α))
      (onNet ((stackNetwork L fuel).send [] window))
      (fun _ => Untold window.toNat) TracedTold := by
  intro c h
  rcases h with ⟨hthere, _, htraced⟩
  unfold onNet
  rcases hrun : (stackNetwork L fuel).send [] window c.net with ⟨_ | rc, w⟩
  · exact htraced
  · have hw := send_nothing hthere hrun
    subst hw
    exact ⟨hthere.transmit window, advertised_transmit hthere window, htraced⟩

theorem truthful_openIfClosed :
    Ensures (Truthful (α := α)) (openIfClosed (stackNetwork L fuel))
      (fun _ => Truthful) TracedTold := by
  apply ensures_get_bind
  intro c hc
  split_ifs
  · exact hc
  · have hflag : Ensures (Untold (α := α) (σ := σ) RX_WINDOW.toNat)
        (setWindow true) (fun _ => Truthful) TracedTold :=
      ensures_modify (fun _ h =>
        ⟨h.established, told_open h.advertised, h.traced⟩)
    exact ensures_bind (untold_send_nothing L fuel RX_WINDOW)
      (fun _ => hflag) c hc

/-- What is received closes the window exactly when data is returned. -/
theorem untold_recv :
    Ensures (Truthful (α := α)) (onNet (stackNetwork L fuel).recv)
      (fun rc c => (0 < rc -> Untold 0 c) ∧ (rc ≤ 0 -> Truthful c))
      TracedTold := by
  intro c h
  rcases h with ⟨hthere, htold, htraced⟩
  unfold onNet
  rcases hrun : (stackNetwork L fuel).recv c.net with ⟨_ | rc, w⟩
  · exact htraced
  · rcases recv_transmits hthere hrun with ⟨hw, hdata, hnone⟩
    refine ⟨fun hpos => ⟨hw, hdata hpos, htraced⟩, fun hle => ?_⟩
    have hsame : advertised w = advertised c.net := by
      rw [advertised, hnone hle, advertised]
    refine ⟨hw, ?_, htraced⟩
    show Told c.windowOpen w
    rw [Told, hsame]
    exact htold

theorem shut_handOver (rc : Int) :
    Ensures Shut (handOver A (stackNetwork L fuel) rc) (fun _ => Shut)
      TracedTold := by
  apply ensures_get_bind
  intro c hc
  exact ensures_bind (shut_modifyApp _)
    (fun _ => shut_returned .showData) c hc

theorem truthful_afterPoll (rc : Int) :
    Ensures (fun c => (0 < rc -> Untold 0 c) ∧ (rc ≤ 0 -> Truthful c))
      (afterPoll P A (stackNetwork L fuel) rc) (fun _ => Truthful)
      TracedTold := by
  have heagain := P.eagain_pos
  have hreset : (0 : Int) < ERESET := by
    decide
  have hpure : forall result : Int, Ensures (Truthful (α := α) (σ := σ))
      (pure result) (fun _ => Truthful) TracedTold :=
    fun _ => ensures_pure (fun _ h => h)
  have hlog : forall text : List UInt8, Ensures (Truthful (σ := σ))
      (modifyApp (A.logLine text) >>= fun _ => pure (-1))
      (fun _ => Truthful) TracedTold :=
    fun text => ensures_bind (truthful_modifyApp _) (fun _ => hpure (-1))
  intro c hc
  unfold afterPoll
  split_ifs with h1 h2 h3 h4
  · exact hc.right (by omega)
  · exact hlog _ c (hc.right (by omega))
  · exact hc.right (by omega)
  · have hshown : Ensures Shut
        (handOver A (stackNetwork L fuel) rc >>= fun _ => pure 0)
        (fun _ => Truthful) TracedTold :=
      ensures_bind (shut_handOver L fuel A rc)
        (fun _ => ensures_pure (fun _ h => h.left))
    exact ensures_bind shut_close (fun _ => hshown) c (hc.left h4)
  · have hstill := hc.right (by omega)
    rw [get_bind_apply]
    split_ifs
    · have hlogged : Truthful
          { c with trace := c.trace ++ [.hungUp c.app c.net] } :=
        ⟨hstill.established, hstill.told, hstill.traced.append trivial⟩
      exact hlog _ _ hlogged
    · exact hstill

/-- `poll_net` keeps the flag right, -/
theorem truthful_pollNet :
    Ensures Truthful (Client.pollNet P A (stackNetwork L fuel))
      (fun _ => Truthful) TracedTold := by
  refine ensures_bind (truthful_openIfClosed L fuel) (fun _ => ?_)
  refine ensures_bind (untold_recv L fuel) (fun rc => ?_)
  refine ensures_bind (truthful_afterPoll L fuel A rc) (fun result => ?_)
  exact ensures_bind (truthful_returned .pollNet)
    (fun _ => ensures_pure (fun _ h => h))

theorem shut_drainOnce :
    Ensures Shut (drainOnce A (stackNetwork L fuel)) (fun _ => Shut)
      TracedTold := by
  have hrecv : Ensures (Shut (α := α)) (onNet (stackNetwork L fuel).recv)
      (fun _ => Shut) TracedTold := by
    intro c hboth
    rcases hboth with ⟨hc, hflag⟩
    have hout := untold_recv L fuel c hc
    unfold onNet at hout ⊢
    rcases hrun : (stackNetwork L fuel).recv c.net with ⟨_ | rc, w⟩
    · exact hc.traced
    · rw [hrun] at hout
      rcases hout with ⟨hdata, hnone⟩
      refine ⟨?_, hflag⟩
      rcases lt_or_ge 0 rc with hpos | hle
      · rcases hdata hpos with ⟨hthere, hzero, htraced⟩
        refine ⟨hthere, ?_, htraced⟩
        show Told c.windowOpen w
        rw [hflag]
        exact told_closed hzero
      · exact hnone hle
  refine ensures_bind hrecv (fun rc => ?_)
  split_ifs
  · exact shut_handOver L fuel A rc
  · exact ensures_pure (fun _ h => h)

/-- draining closes the window and leaves it closed, -/
theorem shut_drain :
    Ensures Truthful (drain A (stackNetwork L fuel)) (fun _ => Shut)
      TracedTold := by
  refine ensures_bind (untold_send_nothing L fuel 0) (fun _ => ?_)
  refine ensures_bind shut_close (fun _ => ?_)
  refine ensures_bind (shut_drainOnce L fuel A) (fun _ => ?_)
  exact ensures_bind (shut_drainOnce L fuel A)
    (fun _ => shut_drainOnce L fuel A)

/-- and so does sending. -/
theorem shut_sendData (origin : Origin) (pieces : List (List UInt8))
    {bytes : List UInt8} (hlen : bytes.length ≤ 512) :
    Ensures (Shut (α := α))
      (sendData (stackNetwork L fuel) origin pieces bytes) (fun _ => Shut)
      TracedTold := by
  have hlog : Ensures (Shut (α := α) (σ := σ))
      (log (.payload origin pieces bytes)) (fun _ => Shut) TracedTold :=
    ensures_modify (fun _ h =>
      ⟨⟨h.left.established, h.left.told, h.left.traced.append trivial⟩,
        h.right⟩)
  have hsend : Ensures (Shut (α := α))
      (onNet ((stackNetwork L fuel).send bytes 0)) (fun _ => Untold 0)
      TracedTold := by
    intro c hboth
    rcases hboth with ⟨⟨hthere, htold, htraced⟩, hflag⟩
    rw [hflag] at htold
    unfold onNet
    rcases hrun : (stackNetwork L fuel).send bytes 0 c.net with ⟨_ | rc, w⟩
    · exact htraced
    · rcases send_data_transmits hthere hlen htold.closed hrun with
        ⟨hw, hzero⟩
      exact ⟨hw, hzero, htraced⟩
  refine ensures_bind hlog (fun _ => ?_)
  refine ensures_bind hsend (fun rc => ?_)
  exact ensures_bind shut_close (fun _ => ensures_pure (fun _ h => h))

end Shared

theorem Truthful.withApp {c : Session α (World σ)} (h : Truthful c) (a : α) :
    Truthful { c with app := a } :=
  ⟨h.established, h.told, h.traced⟩

/-!
## irc.c
-/

/-- The command in `out[]` has room for its CRLF. -/
def Fits (s : Irc.State) : Prop :=
  s.out.length ≤ Irc.OUT_LINE - 2

theorem Fits.oStrs (pieces : List (List UInt8)) :
    forall {s : Irc.State}, Fits s -> Fits (pieces.foldl Irc.oStr s) := by
  induction pieces with
  | nil => exact fun h => h
  | cons piece rest ih =>
      intro s h
      apply ih
      unfold Fits at h
      show (s.out ++ piece.take (Irc.OUT_LINE - 2 - s.out.length)).length ≤ _
      rw [List.length_append, List.length_take]
      omega

theorem Fits.of_out {s s' : Irc.State} (h : Fits s) (hout : s'.out = s.out) :
    Fits s' := by
  rw [Fits, hout]
  exact h

theorem fits_app :
    AppInvariant (ν := World σ) Irc.app (fun s _ => Fits s)
      (fun _ _ => True) where
  showData := fun data _ _ h => h.of_out (Irc.showData_undisturbed data _).out
  logLine := fun text _ _ h => h.of_out (Irc.logEntry_onlyShows [text] _).out
  shown := fun _ _ _ _ h => h
  hungUp := fun _ _ _ h => h
  stopped := fun _ => trivial

def IrcKept (c : Session Irc.State (World σ)) : Prop :=
  Truthful c ∧ Fits c.app

/-- What holds with both a property of the connection and one of the client
holds with their conjunction. -/
theorem ircKept_of {β : Type} {p : Program (Session Irc.State (World σ)) β}
    (htruth : Ensures IrcKept p (fun _ => Truthful) TracedTold)
    (hfits : Ensures (On (fun s _ => Fits s)) p
      (fun _ => On (fun s _ => Fits s)) (On (fun _ _ => True))) :
    Ensures IrcKept p (fun _ => IrcKept) TracedTold :=
  (htruth.and hfits).mono (fun _ hc => ⟨hc, hc.right⟩) (fun _ _ hc => hc)
    (fun _ hc => hc.left)

theorem truthful_oSend (L : Link P σ) (fuel : Nat) (origin : Origin)
    (pieces : List (List UInt8)) :
    Ensures IrcKept (Irc.oSend (stackNetwork L fuel) origin pieces)
      (fun _ => Truthful) TracedTold := by
  have hdrain : Ensures IrcKept (drain Irc.app (stackNetwork L fuel))
      (fun _ c => Shut c ∧ Fits c.app) TracedTold :=
    ((shut_drain L fuel Irc.app).and (fits_app.drain _)).mono
      (fun _ hc => hc) (fun _ _ hc => hc) (fun _ hc => hc.left)
  have hfailed : forall rc : Int,
      Ensures (Truthful (σ := σ)) (Irc.reportFailure rc) (fun _ => Truthful)
        TracedTold := by
    intro rc
    unfold Irc.reportFailure
    split_ifs
    · exact truthful_modifyApp _
    · exact ensures_pure (fun _ hc => hc)
  refine ensures_bind hdrain (fun _ => ?_)
  apply ensures_get_bind
  intro c hboth
  rcases hboth with ⟨hc, hfits⟩
  have hlen : (c.app.out ++ Irc.CRLF).length ≤ 512 := by
    have hcrlf : Irc.CRLF.length = 2 := rfl
    have hmax : Irc.OUT_LINE = 256 := rfl
    unfold Fits at hfits
    rw [List.length_append]
    omega
  refine ensures_bind (shut_sendData L fuel origin pieces hlen)
    (fun rc => ?_) c hc
  refine ensures_bind (shut_modifyApp _) (fun _ => ?_)
  have hopen : Ensures (Shut (σ := σ)) (Irc.reportFailure rc)
      (fun _ => Truthful) TracedTold :=
    (hfailed rc).mono (fun _ h => h.left) (fun _ _ h => h) (fun _ h => h)
  exact ensures_bind hopen (fun _ => truthful_returned .send)

theorem irc_upholds (L : Link P σ) (fuel : Nat) :
    Irc.Upholds P (stackNetwork L fuel) IrcKept (fun _ _ => IrcKept)
      TracedTold where
  poll := by
    refine ircKept_of ((truthful_pollNet L fuel Irc.app).mono
      (fun _ h => h.left) (fun _ _ h => h) (fun _ h => h)) ?_
    exact fits_app.pollNet _ P (fun _ _ _ _ h => h)
  send := by
    intro origin pieces
    refine ircKept_of (truthful_oSend L fuel origin pieces) ?_
    exact Irc.ensures_oSend _ fits_app fits_app (fun _ => Nat.zero_le _)
      (fun _ => trivial) (fun _ _ _ _ h => h)
  returned := fun call => ensures_modify (fun _ h =>
    ⟨⟨h.left.established, h.left.told, h.left.traced.append h.left.told⟩,
      h.right⟩)
  edit := by
    intro k c hboth
    rcases hboth with ⟨htruth, hfits⟩
    rcases Irc.editKey_eq k c.app with ⟨screen, heq⟩
    refine ⟨htruth.withApp _, hfits.of_out ?_⟩
    rw [heq]
  reply := by
    intro c answer hboth haction
    rcases hboth with ⟨htruth, hfits⟩
    have htame := Irc.inputAction_tame c.app
    rw [haction] at htame
    exact ⟨htruth.withApp _, hfits.of_out (htame c.app).keeps.out⟩
  typed := by
    intro c pieces before after quits hboth haction
    rcases hboth with ⟨htruth, hfits⟩
    have htame := Irc.inputAction_tame c.app
    rw [haction] at htame
    rcases htame.left with ⟨chan, _, hbefore⟩
    refine ⟨htruth.withApp _, ?_⟩
    show Fits (before (pieces.foldl Irc.oStr c.app))
    rw [hbefore]
    exact (hfits.oStrs pieces).of_out Irc.Displays.refl.clear.keeps.out
  after := by
    intro c s pieces before after quits hboth haction
    rcases hboth with ⟨htruth, hfits⟩
    have htame := Irc.inputAction_tame s
    rw [haction] at htame
    exact ⟨htruth.withApp _, hfits.of_out (htame.right c.app).keeps.out⟩
  quit := fun h => ⟨h.left.withApp _, h.right.oStrs _⟩
  pong := fun h _ => ⟨h.left.withApp _, h.right.oStrs _⟩
  join := fun h _ _ => ⟨h.left.withApp _, h.right.oStrs _⟩
  no_join := fun h => ⟨h.left.withApp _, h.right⟩

/-!
## tcp_chat.c
-/

/-- The typed line and a newline fit into `input[]`. -/
def LineFits (s : Chat.State) : Prop :=
  s.screen.input.length ≤ Chat.MAX_INPUT

theorem loglineChar_input (s : Chat.State) (c : UInt8) :
    (Chat.loglineChar s c).screen.input = s.screen.input := by
  unfold Chat.loglineChar
  split
  · simp only
    split
    · exact Chat.loglineFlush_input s
    · rfl
  · generalize (if c = 9 then 0x20 else c) = c'
    simp only
    split
    · rfl
    · split
      · exact Chat.loglineFlush_input _
      · rfl

theorem showData_input (data : List UInt8) (s : Chat.State) :
    (Chat.showData data s).screen.input = s.screen.input := by
  have hfold : forall (data : List UInt8) (s : Chat.State),
      (data.foldl Chat.loglineChar s).screen.input = s.screen.input := by
    intro data
    induction data with
    | nil => exact fun _ => rfl
    | cons c rest ih =>
        exact fun s => (ih _).trans (loglineChar_input s c)
  unfold Chat.showData
  simp only
  split_ifs
  · exact (Chat.loglineFlush_input _).trans (hfold data s)
  · exact hfold data s

theorem LineFits.of_input {s s' : Chat.State} (h : LineFits s)
    (hinput : s'.screen.input = s.screen.input) : LineFits s' := by
  rw [LineFits, hinput]
  exact h

theorem LineFits.editKey {s : Chat.State} (h : LineFits s) (k : UInt16) :
    LineFits (Chat.editKey k s) := by
  unfold Chat.editKey
  split_ifs with hdelete hsome hkey
  · show s.screen.input.dropLast.length ≤ _
    unfold LineFits at h
    rw [List.length_dropLast]
    omega
  · exact h
  · show (s.screen.input ++ [k.toUInt8]).length ≤ _
    rw [List.length_append, List.length_singleton]
    exact hkey.right.right
  · exact h

theorem lineFits_app :
    AppInvariant (ν := World σ) Chat.app (fun s _ => LineFits s)
      (fun _ _ => True) where
  showData := fun data s _ h => h.of_input (showData_input data s)
  logLine := fun text s _ h => h.of_input (Chat.logLine_input text s)
  shown := fun _ _ _ _ h => h
  hungUp := fun _ _ _ h => h
  stopped := fun _ => trivial

def ChatKept (c : Session Chat.State (World σ)) : Prop :=
  Truthful c ∧ LineFits c.app

theorem chatKept_sendLine (L : Link P σ) (fuel : Nat) :
    Ensures ChatKept (Chat.sendLine (stackNetwork L fuel))
      (fun _ => ChatKept) TracedTold := by
  have hdrain : Ensures ChatKept (drain Chat.app (stackNetwork L fuel))
      (fun _ c => Shut c ∧ LineFits c.app) TracedTold :=
    ((shut_drain L fuel Chat.app).and (lineFits_app.drain _)).mono
      (fun _ hc => hc) (fun _ _ hc => hc) (fun _ hc => hc.left)
  have hecho : Ensures (Shut (σ := σ)) (modifyApp Chat.echo)
      (fun _ => ChatKept) TracedTold :=
    ensures_modify (fun c h => ⟨h.left.withApp _, Nat.zero_le _⟩)
  have hfailed : forall rc : Int, Ensures (ChatKept (σ := σ))
      (Chat.reportFailure rc) (fun _ => ChatKept) TracedTold := by
    intro rc
    unfold Chat.reportFailure
    split_ifs
    · exact ensures_modify (fun _ h =>
        ⟨h.left.withApp _, h.right.of_input (Chat.logLine_input _ _)⟩)
    · exact ensures_pure (fun _ hc => hc)
  have hreturned : Ensures (ChatKept (σ := σ)) (returned .send)
      (fun _ => ChatKept) TracedTold :=
    ensures_modify (fun _ h =>
      ⟨⟨h.left.established, h.left.told, h.left.traced.append h.left.told⟩,
        h.right⟩)
  refine ensures_bind hdrain (fun _ => ?_)
  apply ensures_get_bind
  intro c hboth
  rcases hboth with ⟨hc, hfits⟩
  have hlen : (c.app.screen.input ++ [10]).length ≤ 512 := by
    have hmax : Chat.MAX_INPUT = 80 := rfl
    unfold LineFits at hfits
    rw [List.length_append, List.length_singleton]
    omega
  refine ensures_bind (shut_sendData L fuel .typed _ hlen)
    (fun rc => ?_) c hc
  exact ensures_bind hecho
    (fun _ => ensures_bind (hfailed rc) (fun _ => hreturned))

theorem chat_upholds (L : Link P σ) (fuel : Nat) :
    Chat.Upholds P (stackNetwork L fuel) ChatKept TracedTold where
  poll :=
    ((truthful_pollNet L fuel Chat.app).and
      (lineFits_app.pollNet _ P (fun _ _ _ _ h => h))).mono
      (fun _ h => h) (fun _ _ h => h) (fun _ h => h.left)
  send := chatKept_sendLine L fuel
  returned := fun _ => ensures_modify (fun _ h =>
    ⟨⟨h.left.established, h.left.told, h.left.traced.append h.left.told⟩,
      h.right⟩)
  edit := fun k _ h => ⟨h.left.withApp _, h.right.editKey k⟩

theorem lineFits_reset (s : Chat.State) : LineFits (Chat.resetState s) := by
  have hempty : LineFits
      { s with
        screen := { con := s.screen.con.putchar 12, input := [] }
        logline := []
        loglineEmitted := false } :=
    Nat.zero_le _
  unfold Chat.resetState
  exact hempty.of_input (Chat.logLine_input _ _)

/-!
## Runs behind the handshake
-/

theorem answered_established {w : World σ} (h : Answered w)
    (hsize : w.tcp.ip.pktSize.toNat = BUF_SIZE) :
    Established w ∧ advertised w = 0 := by
  rcases h with ⟨w1, hconn, rfl⟩
  have hw1 : Established w1 := ⟨hconn, hsize⟩
  exact ⟨hw1.transmit 0, advertised_transmit hw1 0⟩

/-- A session that begins behind the handshake, with the flag cleared. -/
theorem truthful_start {w : World σ} (h : Answered w)
    (hsize : w.tcp.ip.pktSize.toNat = BUF_SIZE) (a : α) :
    Truthful (Session.start a w) := by
  rcases answered_established h hsize with ⟨hthere, hzero⟩
  exact ⟨hthere, told_closed hzero, fun e he => by cases he⟩

theorem irc_mainKept (L : Link P σ) (fuel : Nat) {w : World σ}
    (h : Answered w) (hsize : w.tcp.ip.pktSize.toNat = BUF_SIZE)
    (con : Console) (nickKeys chanKeys keys : List UInt16) :
    Outcome (fun _ => IrcKept) TracedTold
      (Irc.main P (stackNetwork L fuel) keys
        (Session.start (Irc.State.prompted con nickKeys chanKeys) w)) := by
  let start := Session.start (Irc.State.prompted con nickKeys chanKeys) w
  have hcleared : Fits (Irc.cleared start.app) :=
    Nat.zero_le _
  have hreset : Fits (Irc.resetSession start).app :=
    hcleared.of_out (Irc.resetState_onlyShows start.app).out
  have hready : IrcKept
      { Irc.resetSession start with
        app := (Irc.registerPieces (Irc.resetSession start).app).foldl
          Irc.oStr (Irc.resetSession start).app } :=
    ⟨(truthful_start h hsize start.app).withApp _, hreset.oStrs _⟩
  exact (irc_upholds L fuel).main keys hready

theorem chat_mainKept (L : Link P σ) (fuel : Nat) {w : World σ}
    (h : Answered w) (hsize : w.tcp.ip.pktSize.toNat = BUF_SIZE)
    (con : Console) (keys : List UInt16) :
    Outcome (fun _ => ChatKept) TracedTold
      (Chat.main P (stackNetwork L fuel) keys
        (Session.start (Chat.State.initial con) w)) := by
  have hready : ChatKept (Chat.resetSession
      (Session.start (Chat.State.initial con) w)) :=
    ⟨(truthful_start h hsize _).withApp _, lineFits_reset _⟩
  exact (chat_upholds L fuel).main keys hready

/-- In every run of irc.c and of tcp_chat.c behind a successful `tcp_connect`,
whatever is received, each call returns with the flag set exactly when the last
segment transmitted carries an open window. -/
theorem window_open_told (L : Link P σ) (fuel : Nat)
    (register : Nat -> UInt8) {w0 w : World σ} {rc : Int}
    (hsize : w0.tcp.ip.pktSize.toNat = BUF_SIZE)
    (hconnect : tcpConnect L fuel register w0 = (some rc, w)) (hrc : 0 ≤ rc) :
    (forall (fuel' : Nat) (con : Console)
      (nickKeys chanKeys keys : List UInt16),
      AllTold (Irc.ranMain P (stackNetwork L fuel') w con nickKeys chanKeys
        keys).trace) ∧
      forall (fuel' : Nat) (con : Console) (keys : List UInt16),
        AllTold (Chat.ranMain P (stackNetwork L fuel') w con keys).trace := by
  rcases tcpConnect_answered hconnect hrc with ⟨hanswered, hsame⟩
  rw [← hsame] at hsize
  constructor
  · intro fuel' con nickKeys chanKeys keys
    have hrun := irc_mainKept L fuel' hanswered hsize con nickKeys chanKeys keys
    unfold Irc.ranMain
    rcases hmain : Irc.main P (stackNetwork L fuel') keys
      (Session.start (Irc.State.prompted con nickKeys chanKeys) w) with
      ⟨_ | running, c⟩
    · rw [hmain] at hrun
      exact hrun
    · rw [hmain] at hrun
      exact hrun.left.traced
  · intro fuel' con keys
    have hrun := chat_mainKept L fuel' hanswered hsize con keys
    unfold Chat.ranMain
    rcases hmain : Chat.main P (stackNetwork L fuel') keys
      (Session.start (Chat.State.initial con) w) with ⟨_ | running, c⟩
    · rw [hmain] at hrun
      exact hrun
    · rw [hmain] at hrun
      exact hrun.left.traced

/-- A client that has not connected yet, with these packets on the line. -/
def dialling (line : Script) : World Script where
  tcp :=
    { TcpContext.loopback 0 0 with
      ip :=
        { (TcpContext.loopback 0 0).ip with
          pktSize := 552
          pkt := ⟨List.replicate 552 0, List.length_replicate⟩
          pktSize_int := by decide } }
  line := line
  sent := []

/-- The peer answers the SYN. -/
theorem window_open_told_syn_ack :
    exists w : World Script,
      tcpConnect (scriptLink Platform.spectrum) 12 (fun _ => 0)
          (dialling [some (peerSegment 1 2 [])]) = (some 0, w) ∧
        (forall (fuel : Nat) (con : Console)
          (nickKeys chanKeys keys : List UInt16),
          AllTold (Irc.ranMain Platform.spectrum
            (stackNetwork (scriptLink Platform.spectrum) fuel) w con nickKeys
            chanKeys keys).trace) ∧
        forall (fuel : Nat) (con : Console) (keys : List UInt16),
          AllTold (Chat.ranMain Platform.spectrum
            (stackNetwork (scriptLink Platform.spectrum) fuel) w con
            keys).trace := by
  have hsize : (dialling [some (peerSegment 1 2 [])]).tcp.ip.pktSize.toNat =
      BUF_SIZE := rfl
  have hrun : (tcpConnect (scriptLink Platform.spectrum) 12 (fun _ => 0)
      (dialling [some (peerSegment 1 2 [])])).1 = some 0 := by
    decide +kernel
  rcases hconnect : tcpConnect (scriptLink Platform.spectrum) 12 (fun _ => 0)
    (dialling [some (peerSegment 1 2 [])]) with ⟨rc, w⟩
  rw [hconnect] at hrun
  simp only at hrun
  subst hrun
  exact ⟨w, rfl, window_open_told (scriptLink Platform.spectrum) 12
    (fun _ => 0) hsize hconnect (Int.le_refl 0)⟩

end Polling
end Z80Tcpip
