import Z80Tcpip.Foundation.Trace
import Z80Tcpip.SlipTun.Sessions

/-!
# What the bridge is for

The bridge is a relay between one client at a time and the network.  What the
client sends is decoded and handed on at once, frame by frame; a packet for the
client is encoded and written to it before anything else is read.  This is a
machine of its own, with the events of the bridge as its steps, and every run of
the main loop is one of its runs.
-/

namespace Z80Tcpip
namespace SlipTun

open Foundation
open Slip

/-!
## The relay
-/

/-- The client, the decoder for what it sends, the frames that are due to be
handed on, and what is left to write of the last packet for the client. -/
structure Relay where
  client : Option Int
  decoder : Decoder
  due : List (List UInt8)
  offer : Option (List UInt8)

def Relay.idle : Relay where
  client := none
  decoder := Decoder.drained
  due := []
  offer := none

/-- Nothing is left to write, or writes may be given up. -/
def Relay.Settled (drops : Prop) (r : Relay) : Prop :=
  r.offer = none ∨ r.offer = some [] ∨ drops

inductive Relay.Step (slipEsc00 : Bool) (remote : List UInt8) (drops : Prop) :
    Relay -> Event -> Relay -> Prop
  /-- Bytes that are in the fifo without a client are thrown away. -/
  | stale {r : Relay} (bytes : List UInt8) (hclient : r.client = none) :
      Relay.Step slipEsc00 remote drops r (.txRead bytes) r
  | heard {r : Relay} (bytes : List UInt8) (hclient : r.client ≠ none)
      (hdue : r.due = []) :
      Relay.Step slipEsc00 remote drops r (.txRead bytes)
        { r with
          decoder := (decodeBytes slipEsc00 r.decoder bytes).1
          due := (decodeBytes slipEsc00 r.decoder bytes).2 }
  | injected {r : Relay} {frame : List UInt8} {more : List (List UInt8)}
      (hclient : r.client ≠ none) (hdue : r.due = frame :: more) :
      Relay.Step slipEsc00 remote drops r (.injectFrame frame)
        { r with due := more }
  | ignored {r : Relay} (packet : List UInt8)
      (hnot : r.client = none ∨ ¬ ForSpectrum remote packet)
      (hdue : r.due = []) (hsettled : r.Settled drops) :
      Relay.Step slipEsc00 remote drops r (.tunRead packet)
        { r with offer := none }
  | offered {r : Relay} {packet : List UInt8} (hclient : r.client ≠ none)
      (hfor : ForSpectrum remote packet) (hdue : r.due = [])
      (hsettled : r.Settled drops) :
      Relay.Step slipEsc00 remote drops r (.tunRead packet)
        { r with offer := some (slipEncode slipEsc00 packet) }
  | written {r : Relay} {fd : Int} {bytes rest : List UInt8}
      (hclient : r.client = some fd) (hoffer : r.offer = some (bytes ++ rest)) :
      Relay.Step slipEsc00 remote drops r (.rxWrite fd bytes)
        { r with offer := some rest }
  | attached {r : Relay} (fd : Int) (hclient : r.client = none) :
      Relay.Step slipEsc00 remote drops r (.attach fd)
        { client := some fd
          decoder := Decoder.drained
          due := []
          offer := none }
  | detached {r : Relay} (hclient : r.client ≠ none) (hdue : r.due = []) :
      Relay.Step slipEsc00 remote drops r .detach Relay.idle

/-- The events are those of a run of the relay that ends in `r`. -/
def Relayed (slipEsc00 : Bool) (remote : List UInt8) (drops : Prop)
    (trace : List Event) (r : Relay) : Prop :=
  exists run : List (Event × Relay),
    Trace (Relay.Step slipEsc00 remote drops) Relay.idle run r ∧
      run.map Prod.fst = trace

section Relayed

variable {slipEsc00 : Bool} {remote : List UInt8} {drops : Prop}
  {trace : List Event} {r r' : Relay} {e : Event}

theorem Relayed.start : Relayed slipEsc00 remote drops [] Relay.idle :=
  ⟨[], .nil _, rfl⟩

theorem Relayed.snoc (h : Relayed slipEsc00 remote drops trace r)
    (hstep : Relay.Step slipEsc00 remote drops r e r') :
    Relayed slipEsc00 remote drops (trace ++ [e]) r' := by
  rcases h with ⟨run, hrun, htrace⟩
  refine ⟨run ++ [(e, r')], hrun.append (.single hstep), ?_⟩
  rw [List.map_append, htrace]
  rfl

end Relayed

/-!
## The raw socket
-/

/-- What `inject_frame` does with a frame: the arguments of its `sendto`. -/
def rawSend (frame : List UInt8) : Option (List UInt8 × List UInt8) :=
  if frame.length < IP_HDR_MIN then none
  else if frame.getD 0 0 &&& 0xf0 ≠ 0x40 then none
  else some (frame, field frame IP_OFF_DADDR 4)

def Event.rawSend : Event -> Option (List UInt8 × List UInt8)
  | .injectFrame frame => SlipTun.rawSend frame
  | _ => none

/-- `sent` keeps the packets given to `sendto`, with their destinations. -/
structure Observes {ω : Type} (O : Os ω)
    (sent : ω -> List (List UInt8 × List UInt8)) : Prop where
  read_eq : forall fd size os, sent (O.read fd size os).2 = sent os
  write_eq : forall fd bytes os, sent (O.write fd bytes os).2 = sent os
  openFifo_eq : forall fifo os, sent (O.openFifo fifo os).2 = sent os
  close_eq : forall fd os, sent (O.close fd os) = sent os
  poll_eq : forall fds timeout os, sent (O.poll fds timeout os).2 = sent os
  sendto_eq : forall fd frame daddr os,
    sent (O.sendto fd frame daddr os) = sent os ++ [(frame, daddr)]

/-- The system that also keeps what is given to `sendto`. -/
def recording {ω : Type} (O : Os ω) :
    Os (ω × List (List UInt8 × List UInt8)) where
  read fd size os := ((O.read fd size os.1).1, (O.read fd size os.1).2, os.2)
  write fd bytes os :=
    ((O.write fd bytes os.1).1, (O.write fd bytes os.1).2, os.2)
  openFifo fifo os := ((O.openFifo fifo os.1).1, (O.openFifo fifo os.1).2, os.2)
  close fd os := (O.close fd os.1, os.2)
  poll fds timeout os :=
    ((O.poll fds timeout os.1).1, (O.poll fds timeout os.1).2, os.2)
  sendto fd frame daddr os :=
    (O.sendto fd frame daddr os.1, os.2 ++ [(frame, daddr)])

theorem observes_recording {ω : Type} (O : Os ω) :
    Observes (recording O) Prod.snd :=
  { read_eq := fun _ _ _ => rfl
    write_eq := fun _ _ _ => rfl
    openFifo_eq := fun _ _ => rfl
    close_eq := fun _ _ => rfl
    poll_eq := fun _ _ _ => rfl
    sendto_eq := fun _ _ _ _ => rfl }

/-- Some wait of `rx_write` for room in the fifo ends without any. -/
def Os.MayTimeOut {ω : Type} (O : Os ω) : Prop :=
  exists (fds : List PollFd) (os : ω) (revents : Nat -> Revents),
    (O.poll fds WRITE_TIMEOUT_MS os).1 = .ok (0, revents)

/-!
## The bridge beside the relay
-/

/-- Without a client. -/
structure Alone (b : Bridge) (r : Relay) : Prop where
  attached_eq : b.attached = false
  client_eq : r.client = none
  due_eq : r.due = []
  offer_eq : r.offer = none

/-- With a client, and nothing due. -/
structure Serving (b : Bridge) (r : Relay) : Prop where
  attached_eq : b.attached = true
  client_eq : r.client = some b.rxFd
  decoder_eq : r.decoder = b.decoder
  due_eq : r.due = []

/-- Between two calls, when the last packet may be unfinished. -/
def Either (b : Bridge) (r : Relay) : Prop :=
  (Alone b r ∧ b.decoder = Decoder.drained) ∨ Serving b r

/-- Between two calls. -/
def Between (drops : Prop) (b : Bridge) (r : Relay) : Prop :=
  Either b r ∧ r.Settled drops

/-- In the loop of `handle_tx`: `frames` have been decoded but not handed on,
and `rest`, which meets the decoder `d`, is still to be decoded. -/
structure DecodingRest (slipEsc00 : Bool) (drops : Prop)
    (frames : List (List UInt8)) (d : Decoder) (rest : List UInt8) (b : Bridge)
    (r : Relay) : Prop where
  attached_eq : b.attached = true
  client_eq : r.client = some b.rxFd
  decoder_eq : r.decoder = (decodeBytes slipEsc00 d rest).1
  due_eq : r.due = frames ++ (decodeBytes slipEsc00 d rest).2
  settled : r.Settled drops

theorem Serving.client_ne {b : Bridge} {r : Relay} (h : Serving b r) :
    r.client ≠ none := by
  rw [h.client_eq]
  exact Option.some_ne_none _

theorem Alone.settled {drops : Prop} {b : Bridge} {r : Relay}
    (h : Alone b r) : r.Settled drops :=
  Or.inl h.offer_eq

theorem Either.due_eq {b : Bridge} {r : Relay} (h : Either b r) :
    r.due = [] := by
  rcases h with ⟨h, _⟩ | h
  · exact h.due_eq
  · exact h.due_eq

theorem Either.of_attached {b : Bridge} {r : Relay} (h : Either b r)
    (hatt : b.attached = true) : Serving b r := by
  rcases h with ⟨h, _⟩ | h
  · rw [h.attached_eq] at hatt
    cases hatt
  · exact h

theorem Either.of_not_attached {b : Bridge} {r : Relay} (h : Either b r)
    (hatt : b.attached = false) : Alone b r ∧ b.decoder = Decoder.drained := by
  rcases h with h | h
  · exact h
  · rw [h.attached_eq] at hatt
    cases hatt

theorem Either.setTxFd {b : Bridge} {r : Relay} (fd : Int) (h : Either b r) :
    Either { b with txFd := fd } r := by
  rcases h with ⟨h, hdecoder⟩ | h
  · exact Or.inl
      ⟨⟨h.attached_eq, h.client_eq, h.due_eq, h.offer_eq⟩, hdecoder⟩
  · exact Or.inr ⟨h.attached_eq, h.client_eq, h.decoder_eq, h.due_eq⟩

section DecodingRest

variable {slipEsc00 : Bool} {remote : List UInt8} {drops : Prop}
  {frames : List (List UInt8)} {d : Decoder} {rest : List UInt8} {b : Bridge}
  {r : Relay}

theorem DecodingRest.inject {frame : List UInt8}
    (h : DecodingRest slipEsc00 drops (frame :: frames) d rest b r) :
    exists r', Relay.Step slipEsc00 remote drops r (.injectFrame frame) r' ∧
      DecodingRest slipEsc00 drops frames d rest b r' := by
  refine ⟨_, .injected ?_ h.due_eq, ?_⟩
  · rw [h.client_eq]
    exact Option.some_ne_none _
  · exact ⟨h.attached_eq, h.client_eq, h.decoder_eq, rfl, h.settled⟩

theorem DecodingRest.byte {c : UInt8}
    (h : DecodingRest slipEsc00 drops [] d (c :: rest) b r) :
    DecodingRest slipEsc00 drops (slipDecode slipEsc00 d c).2
      (slipDecode slipEsc00 d c).1 rest b r := by
  have hsplit : decodeBytes slipEsc00 d (c :: rest) =
      ((decodeBytes slipEsc00 (slipDecode slipEsc00 d c).1 rest).1,
        (slipDecode slipEsc00 d c).2 ++
          (decodeBytes slipEsc00 (slipDecode slipEsc00 d c).1 rest).2) := by
    rw [decodeBytes, List.foldl_cons, foldl_decodeByte]
    rfl
  refine ⟨h.attached_eq, h.client_eq, ?_, ?_, h.settled⟩
  · rw [h.decoder_eq, hsplit]
  · rw [h.due_eq, hsplit]
    rfl

end DecodingRest

/-!
## Rules

A world follows the relay if its trace is one of the relay's runs, the bridge
matches the relay that the run ends in, and the raw socket was given the frames
of the trace.
-/

section Rules

variable {ω α β : Type} {sent : ω -> List (List UInt8 × List UInt8)}
  {slipEsc00 : Bool} {remote : List UInt8} {drops : Prop}

def Follows (sent : ω -> List (List UInt8 × List UInt8)) (slipEsc00 : Bool)
    (remote : List UInt8) (drops : Prop) (m : Bridge -> Relay -> Prop)
    (w : World ω) : Prop :=
  sent w.os = w.trace.filterMap Event.rawSend ∧
    exists r : Relay, Relayed slipEsc00 remote drops w.trace r ∧ m w.b r

/-- What is left when the process ends. -/
def WasRelay (sent : ω -> List (List UInt8 × List UInt8)) (slipEsc00 : Bool)
    (remote : List UInt8) (drops : Prop) : World ω -> Prop :=
  Follows sent slipEsc00 remote drops (fun _ r => r.due = [])

variable {m k : Bridge -> Relay -> Prop} {post : β -> World ω -> Prop}
  {stopped : World ω -> Prop}

theorem Follows.mono {w : World ω}
    (h : Follows sent slipEsc00 remote drops m w)
    (hmono : forall r, m w.b r -> k w.b r) :
    Follows sent slipEsc00 remote drops k w := by
  rcases h with ⟨hsent, r, hrun, hm⟩
  exact ⟨hsent, r, hrun, hmono r hm⟩

theorem follows_sys {call : ω -> α × ω} {f : α -> Program (World ω) β}
    (hcall : forall os, sent (call os).2 = sent os)
    (h : forall a, (exists os, (call os).1 = a) ->
      Program.Ensures (Follows sent slipEsc00 remote drops m) (f a) post
        stopped) :
    Program.Ensures (Follows sent slipEsc00 remote drops m) (sys call >>= f)
      post stopped := by
  intro w hw
  refine h (call w.os).1 ⟨w.os, rfl⟩ { w with os := (call w.os).2 } ?_
  exact ⟨(hcall w.os).trans hw.left, hw.right⟩

theorem follows_log {e : Event} {f : Unit -> Program (World ω) β}
    (hraw : e.rawSend = none)
    (hlog : forall b r, m b r ->
      exists r', Relay.Step slipEsc00 remote drops r e r' ∧ k b r')
    (h : Program.Ensures (Follows sent slipEsc00 remote drops k) (f ()) post
      stopped) :
    Program.Ensures (Follows sent slipEsc00 remote drops m) (log e >>= f) post
      stopped := by
  intro w hw
  rcases hw with ⟨hsent, r, hrun, hm⟩
  rcases hlog w.b r hm with ⟨r', hstep, hm'⟩
  refine h { w with trace := w.trace ++ [e] } ⟨?_, r', hrun.snoc hstep, hm'⟩
  rw [List.filterMap_append, List.filterMap_cons, hraw, List.filterMap_nil,
    List.append_nil]
  exact hsent

theorem follows_setBridge {g : Bridge -> Bridge}
    {f : Unit -> Program (World ω) β}
    (hset : forall b r, m b r -> k (g b) r)
    (h : Program.Ensures (Follows sent slipEsc00 remote drops k) (f ()) post
      stopped) :
    Program.Ensures (Follows sent slipEsc00 remote drops m)
      (setBridge g >>= f) post stopped := by
  intro w hw
  rcases hw with ⟨hsent, r, hrun, hm⟩
  exact h { w with b := g w.b } ⟨hsent, r, hrun, hset w.b r hm⟩

/-- What is read off the state is true of the bridge. -/
theorem follows_get {f : World ω -> Program (World ω) β}
    (h : forall w0 : World ω,
      Program.Ensures
        (Follows sent slipEsc00 remote drops (fun b r => m b r ∧ b = w0.b))
        (f w0) post stopped) :
    Program.Ensures (Follows sent slipEsc00 remote drops m)
      (Program.get >>= f) post stopped :=
  fun w hw => h w w (hw.mono (fun _ hm => ⟨hm, rfl⟩))

theorem follows_pure {a : α} (h : forall b r, m b r -> k b r) :
    Program.Ensures (Follows sent slipEsc00 remote drops m)
      (pure a : Program (World ω) α)
      (fun _ => Follows sent slipEsc00 remote drops k) stopped :=
  Program.ensures_pure (fun w hw => hw.mono (h w.b))

theorem follows_stop (h : forall b r, m b r -> r.due = []) :
    Program.Ensures (Follows sent slipEsc00 remote drops m)
      (Program.stop : Program (World ω) β)
      post (WasRelay sent slipEsc00 remote drops) :=
  Program.ensures_stop (fun w hw => hw.mono (h w.b))

end Rules

/-!
## The calls
-/

section Calls

variable {ω : Type} {O : Os ω} {sent : ω -> List (List UInt8 × List UInt8)}
  {slipEsc00 : Bool} {remote : List UInt8} {drops : Prop}
  (hobs : Observes O sent)

include hobs

theorem follows_readFd {α : Type} {m : Bridge -> Relay -> Prop}
    {post : α -> World ω -> Prop} {stopped : World ω -> Prop} {fd : Int}
    {size : Nat}
    {f : Except Errno (List UInt8) -> Program (World ω) α}
    (h : forall a, Program.Ensures (Follows sent slipEsc00 remote drops m) (f a)
      post stopped) :
    Program.Ensures (Follows sent slipEsc00 remote drops m)
      (readFd O fd size >>= f) post stopped :=
  follows_sys (hobs.read_eq fd size) (fun a _ => h a)

theorem follows_txOpen {m : Bridge -> Relay -> Prop}
    (hdue : forall b r, m b r -> r.due = []) :
    Program.Ensures (Follows sent slipEsc00 remote drops m) (txOpen O)
      (fun _ => Follows sent slipEsc00 remote drops m)
      (WasRelay sent slipEsc00 remote drops) := by
  apply follows_sys (hobs.openFifo_eq .tx)
  intro result _
  cases result with
  | ok fd => exact follows_pure (fun _ _ h => h)
  | error e => exact follows_stop hdue

theorem follows_txDrain (fuel : Nat) :
    Program.Ensures (Follows sent slipEsc00 remote drops Alone)
      (txDrain O fuel)
      (fun _ => Follows sent slipEsc00 remote drops (Between drops))
      (WasRelay sent slipEsc00 remote drops) := by
  induction fuel with
  | zero => exact follows_stop (fun _ _ h => h.due_eq)
  | succ fuel ih =>
      have hreset : Program.Ensures (Follows sent slipEsc00 remote drops Alone)
          (setBridge (ω := ω) (fun b => { b with decoder := Decoder.drained }))
          (fun _ => Follows sent slipEsc00 remote drops (Between drops))
          (WasRelay sent slipEsc00 remote drops) := by
        apply Program.ensures_modify
        intro w hw
        rcases hw with ⟨hsent, r, hrun, h⟩
        exact ⟨hsent, r, hrun, Or.inl
          ⟨⟨h.attached_eq, h.client_eq, h.due_eq, h.offer_eq⟩, rfl⟩,
          h.settled⟩
      apply follows_get
      intro w0
      apply follows_readFd hobs
      intro result
      have hforget : forall {p : Program (World ω) Unit},
          Program.Ensures (Follows sent slipEsc00 remote drops Alone) p
            (fun _ => Follows sent slipEsc00 remote drops (Between drops))
            (WasRelay sent slipEsc00 remote drops) ->
          Program.Ensures
            (Follows sent slipEsc00 remote drops
              (fun b r => Alone b r ∧ b = w0.b)) p
            (fun _ => Follows sent slipEsc00 remote drops (Between drops))
            (WasRelay sent slipEsc00 remote drops) :=
        fun h => h.mono (fun _ hw => hw.mono (fun _ hm => hm.left))
          (fun _ _ h => h) (fun _ h => h)
      rcases result with e | _ | ⟨c, buf⟩
      · cases e with
        | EINTR => exact hforget ih
        | _ => exact hforget hreset
      · exact hforget hreset
      · apply hforget
        apply follows_log rfl _ ih
        intro b r h
        exact ⟨r, .stale (c :: buf) h.client_eq, h⟩

theorem follows_txFlush (fuel : Nat) :
    Program.Ensures (Follows sent slipEsc00 remote drops Alone)
      (txFlush O fuel)
      (fun _ => Follows sent slipEsc00 remote drops (Between drops))
      (WasRelay sent slipEsc00 remote drops) := by
  apply Program.ensures_bind (follows_txDrain hobs fuel)
  intro _
  apply follows_get
  intro w0
  apply follows_sys (fun os => hobs.close_eq w0.b.txFd os)
  intro _ _
  apply Program.ensures_bind
    (follows_txOpen hobs (fun _ _ h => h.left.left.due_eq))
  intro fd
  apply Program.ensures_modify
  intro w hw
  rcases hw with ⟨hsent, r, hrun, ⟨heither, hsettled⟩, _⟩
  exact ⟨hsent, r, hrun, heither.setTxFd fd, hsettled⟩

theorem follows_clientDetach (fuel : Nat) :
    Program.Ensures
      (Follows sent slipEsc00 remote drops
        (fun b r => Serving b r ∨ Between drops b r))
      (clientDetach O fuel)
      (fun _ => Follows sent slipEsc00 remote drops (Between drops))
      (WasRelay sent slipEsc00 remote drops) := by
  apply follows_get
  intro w0
  split
  case isTrue hatt =>
    apply follows_pure
    intro b r h
    rcases h with ⟨h | h, hb⟩
    · rw [← hb, h.attached_eq] at hatt
      cases hatt
    · exact h
  case isFalse hatt =>
    apply follows_sys (fun os => hobs.close_eq w0.b.rxFd os)
    intro _ _
    refine follows_setBridge (k := fun b r => exists b0, Serving b0 r ∧
      b = { b0 with rxFd := -1, attached := false }) ?_ ?_
    · intro b r h
      rcases h with ⟨h | h, hb⟩
      · exact ⟨b, h, rfl⟩
      · refine ⟨b, h.left.of_attached ?_, rfl⟩
        rw [hb]
        simpa using hatt
    · apply follows_log rfl _ (follows_txFlush hobs fuel)
      intro b r hparts
      rcases hparts with ⟨b0, h, hb⟩
      refine ⟨Relay.idle, .detached h.client_ne h.due_eq, ?_⟩
      rw [hb]
      exact ⟨rfl, rfl, rfl, rfl⟩

theorem follows_clientAttach :
    Program.Ensures
      (Follows sent slipEsc00 remote drops
        (fun b r => Alone b r ∧ b.decoder = Decoder.drained))
      (clientAttach O)
      (fun _ => Follows sent slipEsc00 remote drops (Between drops))
      (WasRelay sent slipEsc00 remote drops) := by
  apply follows_sys (hobs.openFifo_eq .rx)
  intro result _
  cases result with
  | error e =>
      cases e with
      | ENXIO => exact follows_pure (fun _ _ h => ⟨Or.inl h, h.left.settled⟩)
      | _ => exact follows_stop (fun _ _ h => h.left.due_eq)
  | ok fd =>
      refine follows_setBridge (k := fun b r => exists b0,
        (Alone b0 r ∧ b0.decoder = Decoder.drained) ∧
          b = { b0 with rxFd := fd, attached := true })
        (fun b r h => ⟨b, h, rfl⟩) ?_
      refine follows_log (k := Between drops) (f := pure) rfl ?_
        (follows_pure (fun _ _ h => h))
      intro b r hparts
      rcases hparts with ⟨b0, ⟨h, hdecoder⟩, hb⟩
      refine ⟨_, .attached (fd : Int) h.client_eq, Or.inr ?_, Or.inl rfl⟩
      rw [hb]
      exact ⟨rfl, rfl, hdecoder.symm, rfl⟩

theorem follows_attachIfDetached :
    Program.Ensures (Follows sent slipEsc00 remote drops (Between drops))
      (attachIfDetached O)
      (fun _ => Follows sent slipEsc00 remote drops (Between drops))
      (WasRelay sent slipEsc00 remote drops) := by
  apply follows_get
  intro w0
  split
  case isTrue hatt =>
    refine (follows_clientAttach hobs).mono ?_ (fun _ _ h => h) (fun _ h => h)
    intro w hw
    refine hw.mono (fun r h => ?_)
    rcases h with ⟨⟨h, _⟩, hb⟩
    exact h.of_not_attached (hb ▸ hatt)
  case isFalse => exact follows_pure (fun _ _ h => h.left)

/-!
## Writing to the client
-/

theorem follows_waitForRoom (hdrops : O.MayTimeOut -> drops)
    (buf : List UInt8) :
    Program.Ensures
      (Follows sent slipEsc00 remote drops
        (fun b r => Serving b r ∧ r.offer = some buf))
      (waitForRoom O)
      (fun room => Follows sent slipEsc00 remote drops
        (fun b r => (Serving b r ∧ r.offer = some buf) ∧
          (room = some .WRITE_DROPPED -> drops) ∧ room ≠ some .WRITE_OK))
      (WasRelay sent slipEsc00 remote drops) := by
  apply follows_get
  intro w0
  apply follows_sys (hobs.poll_eq _ _)
  intro result hresult
  have hother : forall room : Option WriteResult,
      room ≠ some .WRITE_DROPPED -> room ≠ some .WRITE_OK -> Program.Ensures
        (Follows sent slipEsc00 remote drops
          (fun b r => (Serving b r ∧ r.offer = some buf) ∧ b = w0.b))
        (pure room : Program (World ω) (Option WriteResult))
        (fun room => Follows sent slipEsc00 remote drops
          (fun b r => (Serving b r ∧ r.offer = some buf) ∧
            (room = some .WRITE_DROPPED -> drops) ∧ room ≠ some .WRITE_OK))
        (WasRelay sent slipEsc00 remote drops) := by
    intro room hdropped hok
    exact Program.ensures_pure (fun _ hw => hw.mono
      (fun _ h => ⟨h.left, fun hroom => absurd hroom hdropped, hok⟩))
  rcases result with e | ⟨count, revents⟩
  · cases e with
    | EINTR => exact hother none (by decide) (by decide)
    | _ => exact hother (some .WRITE_GONE) (by decide) (by decide)
  · cases count with
    | zero =>
        rcases hresult with ⟨os, hresult⟩
        have htimeout : drops := hdrops ⟨_, os, revents, hresult⟩
        exact Program.ensures_pure (fun _ hw => hw.mono
          (fun _ h => ⟨h.left, fun _ => htimeout, by decide⟩))
    | succ count =>
        simp only
        split
        · exact hother (some .WRITE_GONE) (by decide) (by decide)
        · exact hother none (by decide) (by decide)

/-- Whatever has been written continues the encoding; a packet is left
unfinished only where the client is gone or a wait has timed out. -/
theorem follows_rxWrite (hdrops : O.MayTimeOut -> drops) (fuel : Nat) :
    forall buf : List UInt8,
      Program.Ensures
        (Follows sent slipEsc00 remote drops
          (fun b r => Serving b r ∧ r.offer = some buf))
        (rxWrite O fuel buf)
        (fun rc => Follows sent slipEsc00 remote drops
          (fun b r => Serving b r ∧ (rc = .WRITE_GONE ∨ r.Settled drops)))
        (WasRelay sent slipEsc00 remote drops) := by
  induction fuel with
  | zero =>
      intro buf
      exact follows_stop (fun _ _ h => h.left.due_eq)
  | succ fuel ih =>
      intro buf
      rw [rxWrite]
      split
      case isTrue hdone =>
        rw [hdone]
        exact Program.ensures_pure (fun _ hw => hw.mono
          (fun _ h => ⟨h.left, Or.inr (Or.inr (Or.inl h.right))⟩))
      case isFalse =>
        apply follows_get
        intro w0
        apply follows_sys (hobs.write_eq _ _)
        intro result _
        have hagain : Program.Ensures
            (Follows sent slipEsc00 remote drops
              (fun b r => (Serving b r ∧ r.offer = some buf) ∧ b = w0.b))
            (rxWrite O fuel buf)
            (fun rc => Follows sent slipEsc00 remote drops
              (fun b r => Serving b r ∧ (rc = .WRITE_GONE ∨ r.Settled drops)))
            (WasRelay sent slipEsc00 remote drops) :=
          (ih buf).mono (fun _ hw => hw.mono (fun _ h => h.left))
            (fun _ _ h => h) (fun _ h => h)
        have hgone : Program.Ensures
            (Follows sent slipEsc00 remote drops
              (fun b r => (Serving b r ∧ r.offer = some buf) ∧ b = w0.b))
            (pure WriteResult.WRITE_GONE : Program (World ω) WriteResult)
            (fun rc => Follows sent slipEsc00 remote drops
              (fun b r => Serving b r ∧ (rc = .WRITE_GONE ∨ r.Settled drops)))
            (WasRelay sent slipEsc00 remote drops) :=
          Program.ensures_pure (fun _ hw =>
            hw.mono (fun _ h => ⟨h.left.left, Or.inl rfl⟩))
        -- the fifo takes nothing: wait for room, then again or give up
        have hfull : forall next : Option WriteResult ->
            Program (World ω) WriteResult,
            next none = rxWrite O fuel buf ->
              (forall rc, next (some rc) = pure rc) -> Program.Ensures
                (Follows sent slipEsc00 remote drops
                  (fun b r => (Serving b r ∧ r.offer = some buf) ∧ b = w0.b))
                (waitForRoom O >>= next)
                (fun rc => Follows sent slipEsc00 remote drops
                  (fun b r =>
                    Serving b r ∧ (rc = .WRITE_GONE ∨ r.Settled drops)))
                (WasRelay sent slipEsc00 remote drops) := by
          intro next hnone hsome
          refine Program.ensures_bind
            ((follows_waitForRoom hobs hdrops buf).mono
              (fun _ hw => hw.mono (fun _ h => h.left))
              (fun _ _ h => h) (fun _ h => h)) ?_
          intro room
          cases room with
          | none =>
              rw [hnone]
              exact (ih buf).mono (fun _ hw => hw.mono (fun _ h => h.left))
                (fun _ _ h => h) (fun _ h => h)
          | some rc =>
              rw [hsome rc]
              apply Program.ensures_pure
              intro w hw
              refine hw.mono (fun r h => ?_)
              rcases h with ⟨⟨hserving, _⟩, hdropped, hok⟩
              refine ⟨hserving, ?_⟩
              cases rc with
              | WRITE_OK => exact absurd rfl hok
              | WRITE_DROPPED => exact Or.inr (Or.inr (Or.inr (hdropped rfl)))
              | WRITE_GONE => exact Or.inl rfl
        rcases result with e | n
        · cases e with
          | EINTR => exact hagain
          | EAGAIN => exact hfull _ rfl (fun _ => rfl)
          | EWOULDBLOCK => exact hfull _ rfl (fun _ => rfl)
          | _ => exact hgone
        · cases n with
          | zero => exact hfull _ rfl (fun _ => rfl)
          | succ n =>
              refine follows_log rfl ?_ (ih (buf.drop (n + 1)))
              intro b r h
              rcases h with ⟨⟨hserving, hoffer⟩, hb⟩
              have hclient : r.client = some w0.b.rxFd := by
                rw [← hb]
                exact hserving.client_eq
              rw [← buf.take_append_drop (n + 1)] at hoffer
              refine ⟨_, .written hclient hoffer, ?_, rfl⟩
              · exact ⟨hserving.attached_eq, hserving.client_eq,
                  hserving.decoder_eq, hserving.due_eq⟩

theorem follows_handleTun (hdrops : O.MayTimeOut -> drops) (fuel : Nat) :
    Program.Ensures (Follows sent slipEsc00 remote drops (Between drops))
      (handleTun O slipEsc00 remote fuel)
      (fun _ => Follows sent slipEsc00 remote drops (Between drops))
      (WasRelay sent slipEsc00 remote drops) := by
  apply follows_get
  intro w0
  apply follows_readFd hobs
  intro result
  have hnothing : Program.Ensures
      (Follows sent slipEsc00 remote drops
        (fun b r => Between drops b r ∧ b = w0.b))
      (pure () : Program (World ω) Unit)
      (fun _ => Follows sent slipEsc00 remote drops (Between drops))
      (WasRelay sent slipEsc00 remote drops) :=
    follows_pure (fun _ _ h => h.left)
  rcases result with e | packet
  · cases e with
    | EINTR => exact hnothing
    | EAGAIN => exact hnothing
    | _ => exact follows_stop (fun _ _ h => h.left.left.due_eq)
  · by_cases hwanted : ForSpectrum remote packet ∧ w0.b.attached = true
    · rcases hwanted with ⟨hfor, hatt⟩
      refine follows_log
        (k := fun b r => Serving b r ∧
          r.offer = some (slipEncode slipEsc00 packet)) rfl ?_ ?_
      · intro b r h
        rcases h with ⟨⟨heither, hsettled⟩, hb⟩
        have hserving := heither.of_attached (hb ▸ hatt)
        refine ⟨_, .offered hserving.client_ne hfor hserving.due_eq hsettled,
          ?_, rfl⟩
        exact ⟨hserving.attached_eq, hserving.client_eq, hserving.decoder_eq,
          hserving.due_eq⟩
      · rw [if_neg (Nat.not_lt_of_le hfor.left),
          if_neg (not_not_intro hfor.right.left),
          if_neg (not_not_intro hfor.right.right), if_neg (by simp [hatt])]
        apply Program.ensures_bind (follows_rxWrite hobs hdrops fuel _)
        intro rc
        cases rc with
        | WRITE_GONE =>
            exact (follows_clientDetach hobs fuel).mono
              (fun _ hw => hw.mono (fun _ h => Or.inl h.left)) (fun _ _ h => h)
              (fun _ h => h)
        | _ =>
            apply follows_pure
            intro b r h
            refine ⟨Or.inr h.left, h.right.resolve_left ?_⟩
            intro hrc
            cases hrc
    · refine follows_log
        (k := fun b r => Between drops b r ∧ b = w0.b) rfl ?_ ?_
      · intro b r h
        rcases h with ⟨⟨heither, hsettled⟩, hb⟩
        refine ⟨_, .ignored packet ?_ heither.due_eq hsettled, ⟨?_, Or.inl rfl⟩,
          hb⟩
        · rcases Bool.eq_false_or_eq_true w0.b.attached with hatt | hatt
          · exact Or.inr (fun hfor => hwanted ⟨hfor, hatt⟩)
          · exact Or.inl (heither.of_not_attached (hb ▸ hatt)).left.client_eq
        · rcases heither with ⟨h, hdecoder⟩ | h
          · exact Or.inl
              ⟨⟨h.attached_eq, h.client_eq, h.due_eq, rfl⟩, hdecoder⟩
          · exact Or.inr
              ⟨h.attached_eq, h.client_eq, h.decoder_eq, h.due_eq⟩
      · split
        · exact hnothing
        · split
          · exact hnothing
          · split
            · exact hnothing
            · split
              · exact hnothing
              · rename_i hlong hversion haddress hatt
                refine absurd ⟨⟨?_, ?_, ?_⟩, ?_⟩ hwanted
                · exact Nat.le_of_not_lt hlong
                · simpa using hversion
                · simpa using haddress
                · simpa using hatt

/-!
## Reading from the client
-/

theorem injectFrame_returns (frame : List UInt8) (w : World ω) :
    exists os : ω,
      injectFrame O frame w = (some (), { w with
        os := os
        trace := w.trace ++ [.injectFrame frame] }) ∧
      sent os = sent w.os ++ (rawSend frame).toList := by
  unfold rawSend
  by_cases hshort : frame.length < IP_HDR_MIN
  · refine ⟨w.os, ?_, ?_⟩
    · unfold injectFrame
      rw [if_pos hshort]
      rfl
    · rw [if_pos hshort]
      exact (List.append_nil _).symm
  · by_cases hversion : frame.getD 0 0 &&& 0xf0 ≠ 0x40
    · refine ⟨w.os, ?_, ?_⟩
      · unfold injectFrame
        rw [if_neg hshort, if_pos hversion]
        rfl
      · rw [if_neg hshort, if_pos hversion]
        exact (List.append_nil _).symm
    · refine ⟨O.sendto w.b.rawFd frame (field frame IP_OFF_DADDR 4) w.os,
        ?_, ?_⟩
      · unfold injectFrame
        rw [if_neg hshort, if_neg hversion]
        rfl
      · rw [if_neg hshort, if_neg hversion]
        exact hobs.sendto_eq _ _ _ _

theorem follows_injectFrame {frame : List UInt8} {m k : Bridge -> Relay -> Prop}
    (hlog : forall b r, m b r ->
      exists r', Relay.Step slipEsc00 remote drops r (.injectFrame frame) r' ∧
        k b r') :
    Program.Ensures (Follows sent slipEsc00 remote drops m)
      (injectFrame O frame)
      (fun _ => Follows sent slipEsc00 remote drops k)
      (WasRelay sent slipEsc00 remote drops) := by
  intro w hw
  rcases hw with ⟨hsent, r, hrun, hm⟩
  rcases hlog w.b r hm with ⟨r', hstep, hk⟩
  rcases injectFrame_returns hobs frame w with ⟨os, hreturns, hos⟩
  rw [hreturns]
  refine ⟨?_, r', hrun.snoc hstep, hk⟩
  rw [List.filterMap_append, ← hsent]
  refine hos.trans ?_
  cases hsend : rawSend frame with
  | none => simp [Event.rawSend, hsend]
  | some call => simp [Event.rawSend, hsend]

theorem follows_injectFrames (d : Decoder) (rest : List UInt8) (b0 : Bridge)
    (frames : List (List UInt8)) :
    Program.Ensures
      (Follows sent slipEsc00 remote drops (fun b r =>
        DecodingRest slipEsc00 drops frames d rest b r ∧ b = b0))
      (injectFrames O frames)
      (fun _ => Follows sent slipEsc00 remote drops (fun b r =>
        DecodingRest slipEsc00 drops [] d rest b r ∧ b = b0))
      (WasRelay sent slipEsc00 remote drops) := by
  induction frames with
  | nil => exact follows_pure (fun _ _ h => h)
  | cons frame more ih =>
      refine Program.ensures_bind (follows_injectFrame hobs ?_) (fun _ => ih)
      intro b r h
      rcases h.left.inject with ⟨r', hstep, hrest⟩
      exact ⟨r', hstep, hrest, h.right⟩

theorem follows_decodeTx (rest : List UInt8) :
    Program.Ensures
      (Follows sent slipEsc00 remote drops (fun b r =>
        DecodingRest slipEsc00 drops [] b.decoder rest b r))
      (decodeTx O slipEsc00 rest)
      (fun _ => Follows sent slipEsc00 remote drops (Between drops))
      (WasRelay sent slipEsc00 remote drops) := by
  induction rest with
  | nil =>
      apply follows_pure
      intro b r h
      exact ⟨Or.inr ⟨h.attached_eq, h.client_eq, h.decoder_eq, h.due_eq⟩,
        h.settled⟩
  | cons c buf ih =>
      apply follows_get
      intro w0
      refine Program.ensures_bind
        ((follows_injectFrames hobs (slipDecode slipEsc00 w0.b.decoder c).1 buf
          w0.b _).mono ?_ (fun _ _ h => h) (fun _ h => h)) ?_
      · intro w hw
        refine hw.mono (fun r h => ?_)
        rcases h with ⟨h, hb⟩
        rw [← hb]
        exact ⟨h.byte, rfl⟩
      · intro _
        refine follows_setBridge ?_ ih
        intro b r h
        rcases h with ⟨h, hb⟩
        rw [← hb] at h
        exact ⟨h.attached_eq, h.client_eq, h.decoder_eq, h.due_eq, h.settled⟩

theorem follows_handleTx :
    Program.Ensures
      (Follows sent slipEsc00 remote drops
        (fun b r => Serving b r ∧ r.Settled drops))
      (handleTx O slipEsc00)
      (fun stillOpen => Follows sent slipEsc00 remote drops
        (fun b r => Between drops b r ∧ (stillOpen = false -> Serving b r)))
      (WasRelay sent slipEsc00 remote drops) := by
  apply follows_get
  intro w0
  apply follows_readFd hobs
  intro result
  have hreturn : forall stillOpen : Bool, Program.Ensures
      (Follows sent slipEsc00 remote drops
        (fun b r => (Serving b r ∧ r.Settled drops) ∧ b = w0.b))
      (pure stillOpen : Program (World ω) Bool)
      (fun stillOpen => Follows sent slipEsc00 remote drops
        (fun b r => Between drops b r ∧ (stillOpen = false -> Serving b r)))
      (WasRelay sent slipEsc00 remote drops) := by
    intro stillOpen
    exact Program.ensures_pure (fun _ hw => hw.mono (fun _ h =>
      ⟨⟨Or.inr h.left.left, h.left.right⟩, fun _ => h.left.left⟩))
  rcases result with e | _ | ⟨c, buf⟩
  · cases e with
    | ENXIO => exact follows_stop (fun _ _ h => h.left.left.due_eq)
    | other code => exact follows_stop (fun _ _ h => h.left.left.due_eq)
    | _ => exact hreturn true
  · exact hreturn false
  · refine follows_log (k := fun b r =>
      DecodingRest slipEsc00 drops [] b.decoder (c :: buf) b r) rfl ?_ ?_
    · intro b r h
      rcases h with ⟨⟨hserving, hsettled⟩, _⟩
      refine ⟨_, .heard (c :: buf) hserving.client_ne hserving.due_eq, ?_⟩
      rw [hserving.decoder_eq]
      exact ⟨hserving.attached_eq, hserving.client_eq, rfl, rfl, hsettled⟩
    · apply Program.ensures_bind (follows_decodeTx hobs (c :: buf))
      intro _
      exact Program.ensures_pure (fun _ hw => hw.mono (fun _ h =>
        ⟨h, fun hopen => by cases hopen⟩))

/-!
## The loop
-/

theorem follows_tunEvent (hdrops : O.MayTimeOut -> drops) (fuel : Nat)
    (revents : Nat -> Revents) :
    Program.Ensures (Follows sent slipEsc00 remote drops (Between drops))
      (tunEvent O slipEsc00 remote fuel revents)
      (fun _ => Follows sent slipEsc00 remote drops (Between drops))
      (WasRelay sent slipEsc00 remote drops) := by
  unfold tunEvent
  split
  · exact follows_handleTun hobs hdrops fuel
  · exact follows_pure (fun _ _ h => h)

theorem follows_fifoEvents (fuel : Nat) (polled : Bool)
    (revents : Nat -> Revents) :
    Program.Ensures (Follows sent slipEsc00 remote drops (Between drops))
      (fifoEvents O slipEsc00 fuel polled revents)
      (fun _ => Follows sent slipEsc00 remote drops (Between drops))
      (WasRelay sent slipEsc00 remote drops) := by
  unfold fifoEvents
  split
  · exact (follows_clientDetach hobs fuel).mono
      (fun _ hw => hw.mono (fun _ h => Or.inr h)) (fun _ _ h => h)
      (fun _ h => h)
  · apply follows_get
    intro w0
    split
    case isTrue hready =>
      -- the tun device may have detached the client in this very round
      refine Program.ensures_bind
        ((follows_handleTx hobs).mono ?_ (fun _ _ h => h) (fun _ h => h)) ?_
      · intro w hw
        refine hw.mono (fun r h => ?_)
        rcases h with ⟨⟨heither, hsettled⟩, hb⟩
        exact ⟨heither.of_attached (hb ▸ hready.right.left), hsettled⟩
      · intro stillOpen
        split
        case isTrue hclosed =>
          exact (follows_clientDetach hobs fuel).mono
            (fun _ hw => hw.mono (fun _ h => Or.inl (h.right hclosed)))
            (fun _ _ h => h) (fun _ h => h)
        case isFalse =>
          exact (follows_attachIfDetached hobs).mono
            (fun _ hw => hw.mono (fun _ h => h.left)) (fun _ _ h => h)
            (fun _ h => h)
    case isFalse =>
      exact (follows_attachIfDetached hobs).mono
        (fun _ hw => hw.mono (fun _ h => h.left)) (fun _ _ h => h)
        (fun _ h => h)

theorem follows_mainRound (hdrops : O.MayTimeOut -> drops) (fuel : Nat) :
    Program.Ensures (Follows sent slipEsc00 remote drops (Between drops))
      (mainRound O slipEsc00 remote fuel)
      (fun _ => Follows sent slipEsc00 remote drops (Between drops))
      (WasRelay sent slipEsc00 remote drops) := by
  apply follows_get
  intro w0
  apply follows_sys (hobs.poll_eq _ _)
  intro result _
  rcases result with e | ⟨count, revents⟩
  · cases e with
    | EINTR => exact follows_pure (fun _ _ h => h.left)
    | _ => exact follows_stop (fun _ _ h => h.left.left.due_eq)
  · refine Program.ensures_bind
      ((follows_tunEvent hobs hdrops fuel revents).mono
        (fun _ hw => hw.mono (fun _ h => h.left)) (fun _ _ h => h)
        (fun _ h => h)) ?_
    intro _
    exact follows_fifoEvents hobs fuel w0.b.attached revents

theorem follows_main (hdrops : O.MayTimeOut -> drops) (fuel rounds : Nat) :
    Program.Ensures (Follows sent slipEsc00 remote drops Alone)
      (main O slipEsc00 remote fuel rounds)
      (fun _ => Follows sent slipEsc00 remote drops (Between drops))
      (WasRelay sent slipEsc00 remote drops) := by
  apply Program.ensures_bind (follows_txOpen hobs (fun _ _ h => h.due_eq))
  intro fd
  refine follows_setBridge (k := Alone)
    (fun _ _ h => ⟨h.attached_eq, h.client_eq, h.due_eq, h.offer_eq⟩) ?_
  apply Program.ensures_bind (follows_txDrain hobs fuel)
  intro _
  apply Program.ensures_loop
  intro _
  apply Program.ensures_bind (follows_mainRound hobs hdrops fuel)
  intro _
  exact Program.ensures_pure (fun _ h => h)

/-- After any number of rounds, whatever the system has answered, and also
where the process ends: the trace is a run of the relay with nothing due, and
the raw socket was given the frames of the trace. -/
theorem main_follows (hdrops : O.MayTimeOut -> drops) (fuel rounds : Nat)
    (tunFd rawFd : Int) {os : ω} (hnone : sent os = []) :
    WasRelay sent slipEsc00 remote drops
      (main O slipEsc00 remote fuel rounds
        (World.initial tunFd rawFd os)).2 := by
  have hstart : Follows sent slipEsc00 remote drops Alone
      (World.initial tunFd rawFd os) :=
    ⟨hnone, Relay.idle, .start, rfl, rfl, rfl, rfl⟩
  have hrun := follows_main hobs hdrops fuel rounds _ hstart
  rcases hmain : main O slipEsc00 remote fuel rounds
    (World.initial tunFd rawFd os) with ⟨_ | running, w⟩
  · rw [hmain] at hrun
    exact hrun
  · rw [hmain] at hrun
    exact Follows.mono hrun (fun r h => h.left.due_eq)

end Calls

end SlipTun
end Z80Tcpip
