import Z80Tcpip.SlipTun.MainLoop

/-!
# Sessions of the bridge

Clients attach and detach while packets come and go.  Whatever the operating
system answers, the trace of a run keeps the sessions apart: nothing is written
to the rx fifo without a client, and what reaches `inject_frame` was decoded
from bytes that the present client has sent.
-/

namespace Z80Tcpip
namespace SlipTun

open Foundation
open Slip

/-!
## What a trace tells
-/

/-- What has happened so far: the client, the last packet of the tun device,
the bytes written to the rx fifo since that packet, and the bytes read from the
tx fifo since the client attached. -/
structure Seen where
  client : Option Int
  packet : Option (List UInt8)
  written : List UInt8
  heard : List UInt8

def Seen.start : Seen where
  client := none
  packet := none
  written := []
  heard := []

def Seen.next (s : Seen) : Event -> Seen
  | .tunRead packet => { s with packet := some packet, written := [] }
  | .txRead bytes => { s with heard := s.heard ++ bytes }
  | .rxWrite _ bytes => { s with written := s.written ++ bytes }
  | .injectFrame _ => s
  | .attach fd => { s with client := some fd, heard := [] }
  | .detach => { s with client := none }

def seen (trace : List Event) : Seen :=
  trace.foldl Seen.next Seen.start

/-- What may happen next.  A write goes to the client and continues the encoding
of the last packet, which was meant for the Spectrum; a frame handed to
`inject_frame` is one that `slip_decode`, started afresh, finds in the bytes
read since the client attached. -/
def Event.Allowed (slipEsc00 : Bool) (remote : List UInt8) (s : Seen) :
    Event -> Prop
  | .rxWrite fd bytes =>
      s.client = some fd ∧ exists packet : List UInt8,
        s.packet = some packet ∧ ForSpectrum remote packet ∧
          s.written ++ bytes <+: slipEncode slipEsc00 packet
  | .injectFrame frame =>
      s.client ≠ none ∧
        frame ∈ (decodeBytes slipEsc00 Decoder.drained s.heard).2
  | _ => True

/-- Every event was allowed when it happened. -/
def SessionsKept (slipEsc00 : Bool) (remote : List UInt8)
    (trace : List Event) : Prop :=
  forall (before : List Event) (e : Event) (after : List Event),
    trace = before ++ e :: after -> e.Allowed slipEsc00 remote (seen before)

theorem seen_append (trace : List Event) (e : Event) :
    seen (trace ++ [e]) = (seen trace).next e := by
  rw [seen, List.foldl_append, List.foldl_cons, List.foldl_nil, ← seen]

theorem SessionsKept.append {slipEsc00 : Bool} {remote : List UInt8}
    {trace : List Event} {e : Event}
    (h : SessionsKept slipEsc00 remote trace)
    (he : e.Allowed slipEsc00 remote (seen trace)) :
    SessionsKept slipEsc00 remote (trace ++ [e]) := by
  intro before e' after hsplit
  rcases List.eq_nil_or_concat after with hnil | ⟨more, last, hlast⟩
  · rw [hnil] at hsplit
    rcases List.append_inj' hsplit rfl with ⟨hbefore, hevent⟩
    cases hevent
    rw [← hbefore]
    exact he
  · rw [hlast, List.concat_eq_append, ← List.cons_append,
      ← List.append_assoc] at hsplit
    exact h before e' more (List.append_inj' hsplit rfl).left

/-!
## The invariant

It speaks about the bridge and its trace only, so calls of the operating system
do not touch it.
-/

variable {slipEsc00 : Bool} {remote : List UInt8}

/-- Without a client, as `client_detach` leaves the descriptors. -/
structure Detached (slipEsc00 : Bool) (remote : List UInt8) (b : Bridge)
    (trace : List Event) : Prop where
  attached_eq : b.attached = false
  fd_eq : b.rxFd = -1
  client_eq : (seen trace).client = none
  kept : SessionsKept slipEsc00 remote trace

/-- With a client. -/
structure Attached (slipEsc00 : Bool) (remote : List UInt8) (b : Bridge)
    (trace : List Event) : Prop where
  attached_eq : b.attached = true
  fd_ne : b.rxFd ≠ -1
  client_eq : (seen trace).client = some b.rxFd
  decoder_eq : b.decoder =
    (decodeBytes slipEsc00 Decoder.drained (seen trace).heard).1
  kept : SessionsKept slipEsc00 remote trace

/-- Between two calls: no client and a fresh decoder, or a client. -/
def Separate (slipEsc00 : Bool) (remote : List UInt8) (b : Bridge)
    (trace : List Event) : Prop :=
  (Detached slipEsc00 remote b trace ∧ b.decoder = Decoder.drained) ∨
    Attached slipEsc00 remote b trace

theorem Separate.kept {b : Bridge} {trace : List Event}
    (h : Separate slipEsc00 remote b trace) :
    SessionsKept slipEsc00 remote trace := by
  rcases h with ⟨h, _⟩ | h
  · exact h.kept
  · exact h.kept

theorem Separate.attached_iff {b : Bridge} {trace : List Event}
    (h : Separate slipEsc00 remote b trace) :
    b.attached = true <-> b.rxFd ≠ -1 := by
  rcases h with ⟨h, _⟩ | h
  · rw [h.attached_eq, h.fd_eq]
    simp
  · exact iff_of_true h.attached_eq h.fd_ne

theorem Separate.of_attached {b : Bridge} {trace : List Event}
    (h : Separate slipEsc00 remote b trace) (hatt : b.attached = true) :
    Attached slipEsc00 remote b trace := by
  rcases h with ⟨h, _⟩ | h
  · rw [h.attached_eq] at hatt
    cases hatt
  · exact h

theorem Separate.of_not_attached {b : Bridge} {trace : List Event}
    (h : Separate slipEsc00 remote b trace) (hatt : b.attached = false) :
    Detached slipEsc00 remote b trace ∧ b.decoder = Decoder.drained := by
  rcases h with h | h
  · exact h
  · rw [h.attached_eq] at hatt
    cases hatt

/-- The tx fifo may be another one. -/
theorem Separate.setTxFd {b : Bridge} {trace : List Event} (fd : Int)
    (h : Separate slipEsc00 remote b trace) :
    Separate slipEsc00 remote { b with txFd := fd } trace := by
  rcases h with ⟨h, hdecoder⟩ | h
  · exact Or.inl
      ⟨⟨h.attached_eq, h.fd_eq, h.client_eq, h.kept⟩, hdecoder⟩
  · exact Or.inr
      ⟨h.attached_eq, h.fd_ne, h.client_eq, h.decoder_eq, h.kept⟩

/-!
## Events that keep it
-/

theorem Detached.txRead {b : Bridge} {trace : List Event} (bytes : List UInt8)
    (h : Detached slipEsc00 remote b trace) :
    Detached slipEsc00 remote b (trace ++ [.txRead bytes]) :=
  { attached_eq := h.attached_eq
    fd_eq := h.fd_eq
    client_eq := by rw [seen_append]; exact h.client_eq
    kept := h.kept.append trivial }

theorem Separate.tunRead {b : Bridge} {trace : List Event}
    (packet : List UInt8) (h : Separate slipEsc00 remote b trace) :
    Separate slipEsc00 remote b (trace ++ [.tunRead packet]) := by
  rcases h with ⟨h, hdecoder⟩ | h
  · refine Or.inl ⟨⟨h.attached_eq, h.fd_eq, ?_, h.kept.append trivial⟩,
      hdecoder⟩
    rw [seen_append]
    exact h.client_eq
  · refine Or.inr ⟨h.attached_eq, h.fd_ne, ?_, ?_, h.kept.append trivial⟩
    · rw [seen_append]
      exact h.client_eq
    · rw [seen_append]
      exact h.decoder_eq

theorem Attached.rxWrite {b : Bridge} {trace : List Event}
    {packet bytes : List UInt8} (h : Attached slipEsc00 remote b trace)
    (hpacket : (seen trace).packet = some packet)
    (hfor : ForSpectrum remote packet)
    (hfront : (seen trace).written ++ bytes <+: slipEncode slipEsc00 packet) :
    Attached slipEsc00 remote b (trace ++ [.rxWrite b.rxFd bytes]) := by
  refine ⟨h.attached_eq, h.fd_ne, ?_, ?_,
    h.kept.append ⟨h.client_eq, packet, hpacket, hfor, hfront⟩⟩
  · rw [seen_append]
    exact h.client_eq
  · rw [seen_append]
    exact h.decoder_eq

theorem Attached.detach {b : Bridge} {trace : List Event}
    (h : Attached slipEsc00 remote b trace) :
    Detached slipEsc00 remote { b with rxFd := -1, attached := false }
      (trace ++ [.detach]) :=
  { attached_eq := rfl
    fd_eq := rfl
    client_eq := by rw [seen_append]; rfl
    kept := h.kept.append trivial }

theorem Detached.attach {b : Bridge} {trace : List Event} (fd : Nat)
    (h : Detached slipEsc00 remote b trace)
    (hdecoder : b.decoder = Decoder.drained) :
    Attached slipEsc00 remote { b with rxFd := fd, attached := true }
      (trace ++ [.attach fd]) := by
  refine ⟨rfl, ?_, ?_, ?_, h.kept.append trivial⟩
  · show (fd : Int) ≠ -1
    omega
  · rw [seen_append]
    rfl
  · rw [seen_append]
    exact hdecoder

/-!
## Decoding

Inside the loop of `handle_tx` the decoder has taken the bytes `done` of those
read since the client attached, and `rest` is still to come.
-/

structure Decoding (slipEsc00 : Bool) (remote : List UInt8)
    (done rest : List UInt8) (b : Bridge) (trace : List Event) : Prop where
  attached_eq : b.attached = true
  fd_ne : b.rxFd ≠ -1
  client_eq : (seen trace).client = some b.rxFd
  heard_eq : (seen trace).heard = done ++ rest
  decoder_eq : b.decoder = (decodeBytes slipEsc00 Decoder.drained done).1
  kept : SessionsKept slipEsc00 remote trace

theorem decodeBytes_snoc (slipEsc00 : Bool) (b : Decoder) (cs : List UInt8)
    (c : UInt8) :
    decodeBytes slipEsc00 b (cs ++ [c]) =
      decodeByte slipEsc00 (decodeBytes slipEsc00 b cs) c := by
  rw [decodeBytes, List.foldl_append, List.foldl_cons, List.foldl_nil,
    ← decodeBytes]

/-- Frames that the byte `c` completes are among those of all the bytes. -/
theorem mem_decodeBytes {slipEsc00 : Bool} {b : Decoder}
    {done rest : List UInt8} {c : UInt8} {frame : List UInt8}
    (h : frame ∈ (slipDecode slipEsc00
      (decodeBytes slipEsc00 b done).1 c).2) :
    frame ∈ (decodeBytes slipEsc00 b (done ++ c :: rest)).2 := by
  have hsplit : done ++ c :: rest = done ++ [c] ++ rest := by
    rw [List.append_assoc]
    rfl
  rw [hsplit, decodeBytes, List.foldl_append, ← decodeBytes, foldl_decodeByte,
    decodeBytes_snoc]
  exact List.mem_append_left _ (List.mem_append_right _ h)

theorem Decoding.injectFrame {done rest frame : List UInt8} {b : Bridge}
    {trace : List Event} (h : Decoding slipEsc00 remote done rest b trace)
    (hframe : frame ∈
      (decodeBytes slipEsc00 Decoder.drained (done ++ rest)).2) :
    Decoding slipEsc00 remote done rest b (trace ++ [.injectFrame frame]) := by
  have hallowed : (Event.injectFrame frame).Allowed slipEsc00 remote
      (seen trace) := by
    refine ⟨?_, ?_⟩
    · rw [h.client_eq]
      exact Option.some_ne_none _
    · rw [h.heard_eq]
      exact hframe
  refine ⟨h.attached_eq, h.fd_ne, ?_, ?_, h.decoder_eq,
    h.kept.append hallowed⟩
  · rw [seen_append]
    exact h.client_eq
  · rw [seen_append]
    exact h.heard_eq

/-!
## The calls
-/

variable {ω α β : Type}

/-- A condition on the bridge and the trace, as one on worlds. -/
def On (inv : Bridge -> List Event -> Prop) (w : World ω) : Prop :=
  inv w.b w.trace

/-- What is left of the invariant when the process ends. -/
def Ended (slipEsc00 : Bool) (remote : List UInt8) (w : World ω) : Prop :=
  SessionsKept slipEsc00 remote w.trace

section Rules

variable {inv J : Bridge -> List Event -> Prop}
  {post : β -> World ω -> Prop} {stopped : World ω -> Prop}

theorem ensures_sys {call : ω -> α × ω} {f : α -> Program (World ω) β}
    (h : forall a, Program.Ensures (On inv) (f a) post stopped) :
    Program.Ensures (On inv) (sys call >>= f) post stopped :=
  fun w hw => h (call w.os).1 { w with os := (call w.os).2 } hw

theorem ensures_log {e : Event} {f : Unit -> Program (World ω) β}
    (hlog : forall b trace, inv b trace -> J b (trace ++ [e]))
    (h : Program.Ensures (On J) (f ()) post stopped) :
    Program.Ensures (On inv) (log e >>= f) post stopped :=
  fun w hw => h { w with trace := w.trace ++ [e] } (hlog w.b w.trace hw)

theorem ensures_setBridge {g : Bridge -> Bridge}
    {f : Unit -> Program (World ω) β}
    (hset : forall b trace, inv b trace -> J (g b) trace)
    (h : Program.Ensures (On J) (f ()) post stopped) :
    Program.Ensures (On inv) (setBridge g >>= f) post stopped :=
  fun w hw => h { w with b := g w.b } (hset w.b w.trace hw)

theorem ensures_get {f : World ω -> Program (World ω) β}
    (h : forall w0 : World ω, Program.Ensures (On inv) (f w0) post stopped) :
    Program.Ensures (On inv) (Program.get >>= f) post stopped :=
  fun w hw => h w w hw

/-- What is read off the state is true of the bridge. -/
theorem ensures_get_eq {f : World ω -> Program (World ω) β}
    (h : forall w0 : World ω,
      Program.Ensures (On (fun b trace => inv b trace ∧ b = w0.b)) (f w0) post
        stopped) :
    Program.Ensures (On inv) (Program.get >>= f) post stopped :=
  fun w hw => h w w ⟨hw, rfl⟩

end Rules

section Calls

variable (O : Os ω)

theorem ensures_txOpen {inv : Bridge -> List Event -> Prop}
    (hkept : forall b trace, inv b trace ->
      SessionsKept slipEsc00 remote trace) :
    Program.Ensures (On inv) (txOpen O) (fun _ => On inv)
      (Ended slipEsc00 remote) := by
  apply ensures_sys
  intro result
  cases result with
  | ok fd => exact Program.ensures_pure (fun _ h => h)
  | error e => exact Program.ensures_stop (fun w h => hkept w.b w.trace h)

theorem ensures_txDrain (fuel : Nat) :
    Program.Ensures (On (Detached slipEsc00 remote)) (txDrain O fuel)
      (fun _ => On (Separate slipEsc00 remote)) (Ended slipEsc00 remote) := by
  induction fuel with
  | zero => exact Program.ensures_stop (fun _ h => Detached.kept h)
  | succ fuel ih =>
      have hreset : Program.Ensures (On (Detached slipEsc00 remote))
          (setBridge (ω := ω) (fun b => { b with decoder := Decoder.drained }))
          (fun _ => On (Separate slipEsc00 remote)) (Ended slipEsc00 remote) :=
        Program.ensures_modify (fun _ h =>
          Or.inl ⟨⟨h.attached_eq, h.fd_eq, h.client_eq, h.kept⟩, rfl⟩)
      apply ensures_get
      intro w0
      apply ensures_sys
      intro result
      rcases result with e | _ | ⟨c, buf⟩
      · cases e with
        | EINTR => exact ih
        | _ => exact hreset
      · exact hreset
      · exact ensures_log (fun _ _ h => h.txRead (c :: buf)) ih

theorem ensures_txFlush (fuel : Nat) :
    Program.Ensures (On (Detached slipEsc00 remote)) (txFlush O fuel)
      (fun _ => On (Separate slipEsc00 remote)) (Ended slipEsc00 remote) := by
  apply Program.ensures_bind (ensures_txDrain O fuel)
  intro _
  apply ensures_get
  intro w0
  apply ensures_sys
  intro _
  apply Program.ensures_bind (ensures_txOpen O (fun _ _ h => h.kept))
  intro fd
  exact Program.ensures_modify (fun _ h => Separate.setTxFd fd h)

theorem ensures_clientDetach (fuel : Nat) :
    Program.Ensures (On (Separate slipEsc00 remote)) (clientDetach O fuel)
      (fun _ => On (Separate slipEsc00 remote)) (Ended slipEsc00 remote) := by
  apply ensures_get_eq
  intro w0
  split
  case isTrue => exact Program.ensures_pure (fun _ h => h.left)
  case isFalse hatt =>
    apply ensures_sys
    intro _
    refine ensures_setBridge (J := fun b trace =>
      exists b0, Attached slipEsc00 remote b0 trace ∧
        b = { b0 with rxFd := -1, attached := false }) ?_ ?_
    · intro b trace hboth
      rcases hboth with ⟨h, hb⟩
      have hattached : b.attached = true := by
        rw [hb]
        simpa using hatt
      exact ⟨b, h.of_attached hattached, rfl⟩
    · refine ensures_log ?_ (ensures_txFlush O fuel)
      intro b trace hparts
      rcases hparts with ⟨b0, h, hb⟩
      rw [hb]
      exact h.detach

theorem ensures_clientAttach :
    Program.Ensures
      (On (fun b trace => Detached slipEsc00 remote b trace ∧
        b.decoder = Decoder.drained))
      (clientAttach O) (fun _ => On (Separate slipEsc00 remote))
      (Ended slipEsc00 remote) := by
  apply ensures_sys
  intro result
  cases result with
  | error e =>
      cases e with
      | ENXIO => exact Program.ensures_pure (fun _ h => Or.inl h)
      | _ => exact Program.ensures_stop (fun _ h => h.left.kept)
  | ok fd =>
      refine ensures_setBridge (J := fun b trace =>
        exists b0, (Detached slipEsc00 remote b0 trace ∧
          b0.decoder = Decoder.drained) ∧
            b = { b0 with rxFd := fd, attached := true })
        (fun b trace h => ⟨b, h, rfl⟩) ?_
      apply Program.ensures_modify
      intro w hparts
      rcases hparts with ⟨b0, ⟨h, hdecoder⟩, hb⟩
      show Separate slipEsc00 remote w.b (w.trace ++ [.attach fd])
      rw [hb]
      exact Or.inr (h.attach fd hdecoder)

theorem ensures_attachIfDetached :
    Program.Ensures (On (Separate slipEsc00 remote)) (attachIfDetached O)
      (fun _ => On (Separate slipEsc00 remote)) (Ended slipEsc00 remote) := by
  apply ensures_get_eq
  intro w0
  split
  case isTrue hatt =>
    refine (ensures_clientAttach O).mono ?_ (fun _ _ h => h) (fun _ h => h)
    intro w hboth
    rcases hboth with ⟨h, hb⟩
    exact h.of_not_attached (hb ▸ hatt)
  case isFalse => exact Program.ensures_pure (fun _ h => h.left)

/-!
## Writing to the client
-/

/-- In `rx_write`: `buf` is what is left of the packet's encoding. -/
structure Writing (slipEsc00 : Bool) (remote packet buf : List UInt8)
    (b : Bridge) (trace : List Event) : Prop where
  attached : Attached slipEsc00 remote b trace
  packet_eq : (seen trace).packet = some packet
  forSpectrum : ForSpectrum remote packet
  rest_eq : (seen trace).written ++ buf = slipEncode slipEsc00 packet

theorem Writing.write {packet buf : List UInt8} {b : Bridge}
    {trace : List Event} (n : Nat)
    (h : Writing slipEsc00 remote packet buf b trace) :
    Writing slipEsc00 remote packet (buf.drop n) b
      (trace ++ [.rxWrite b.rxFd (buf.take n)]) := by
  have hrest : (seen trace).written ++ buf.take n ++ buf.drop n =
      slipEncode slipEsc00 packet := by
    rw [List.append_assoc, List.take_append_drop, h.rest_eq]
  refine ⟨h.attached.rxWrite h.packet_eq h.forSpectrum ⟨_, hrest⟩, ?_,
    h.forSpectrum, ?_⟩
  · rw [seen_append]
    exact h.packet_eq
  · rw [seen_append]
    exact hrest

theorem ensures_waitForRoom (packet buf : List UInt8) :
    Program.Ensures (On (Writing slipEsc00 remote packet buf))
      (waitForRoom O) (fun _ => On (Writing slipEsc00 remote packet buf))
      (Ended slipEsc00 remote) := by
  apply ensures_get
  intro w0
  apply ensures_sys
  intro result
  rcases result with e | ⟨count, revents⟩
  · cases e <;> exact Program.ensures_pure (fun _ h => h)
  · cases count with
    | zero => exact Program.ensures_pure (fun _ h => h)
    | succ count =>
        simp only
        split <;> exact Program.ensures_pure (fun _ h => h)

theorem ensures_rxWrite (packet : List UInt8) (fuel : Nat) :
    forall buf : List UInt8,
      Program.Ensures (On (Writing slipEsc00 remote packet buf))
        (rxWrite O fuel buf) (fun _ => On (Separate slipEsc00 remote))
        (Ended slipEsc00 remote) := by
  induction fuel with
  | zero =>
      intro buf
      exact Program.ensures_stop (fun _ h => h.attached.kept)
  | succ fuel ih =>
      intro buf
      rw [rxWrite]
      split
      case isTrue =>
        exact Program.ensures_pure (fun _ h => Or.inr h.attached)
      case isFalse =>
        apply ensures_get_eq
        intro w0
        apply ensures_sys
        intro result
        have hforget : Program.Ensures
            (On (fun b trace => Writing slipEsc00 remote packet buf b trace ∧
              b = w0.b))
            (rxWrite O fuel buf) (fun _ => On (Separate slipEsc00 remote))
            (Ended slipEsc00 remote) :=
          (ih buf).mono (fun _ h => h.left) (fun _ _ h => h) (fun _ h => h)
        have hother : forall (p : Prop) [Decidable p]
            (next : Option WriteResult -> Program (World ω) WriteResult),
            next none = rxWrite O fuel buf ->
              (forall rc, next (some rc) = pure rc) -> Program.Ensures
                (On (fun b trace => Writing slipEsc00 remote packet buf b trace
                  ∧ b = w0.b))
                (if p then waitForRoom O >>= next else pure .WRITE_GONE)
                (fun _ => On (Separate slipEsc00 remote))
                (Ended slipEsc00 remote) := by
          intro p _ next hnone hsome
          split
          · refine Program.ensures_bind
              ((ensures_waitForRoom O packet buf).mono (fun _ h => h.left)
                (fun _ _ h => h) (fun _ h => h)) ?_
            intro room
            cases room with
            | none =>
                rw [hnone]
                exact ih buf
            | some rc =>
                rw [hsome rc]
                exact Program.ensures_pure (fun _ h => Or.inr h.attached)
          · exact Program.ensures_pure (fun _ h => Or.inr h.left.attached)
        rcases result with e | n
        · cases e with
          | EINTR => exact hforget
          | _ => exact hother _ _ rfl (fun _ => rfl)
        · cases n with
          | zero => exact hother _ _ rfl (fun _ => rfl)
          | succ n =>
              refine ensures_log ?_ (ih (buf.drop (n + 1)))
              intro b trace hboth
              rcases hboth with ⟨h, hb⟩
              rw [← hb]
              exact h.write (n + 1)

theorem ensures_handleTun (fuel : Nat) :
    Program.Ensures (On (Separate slipEsc00 remote))
      (handleTun O slipEsc00 remote fuel)
      (fun _ => On (Separate slipEsc00 remote)) (Ended slipEsc00 remote) := by
  apply ensures_get_eq
  intro w0
  apply ensures_sys
  intro result
  have hreturn : Program.Ensures
      (On (fun b trace => Separate slipEsc00 remote b trace ∧ b = w0.b))
      (pure () : Program (World ω) Unit)
      (fun _ => On (Separate slipEsc00 remote)) (Ended slipEsc00 remote) :=
    Program.ensures_pure (fun _ h => h.left)
  rcases result with e | packet
  · cases e with
    | EINTR => exact hreturn
    | EAGAIN => exact hreturn
    | _ => exact Program.ensures_stop (fun _ h => h.left.kept)
  · refine ensures_log (J := fun b trace =>
      Separate slipEsc00 remote b trace ∧ b = w0.b ∧
        (seen trace).packet = some packet ∧ (seen trace).written = [])
      ?_ ?_
    · intro b trace hboth
      rcases hboth with ⟨h, hb⟩
      refine ⟨h.tunRead packet, hb, ?_, ?_⟩ <;> rw [seen_append] <;> rfl
    · have hdropped : Program.Ensures
          (On (fun b trace => Separate slipEsc00 remote b trace ∧ b = w0.b ∧
            (seen trace).packet = some packet ∧ (seen trace).written = []))
          (pure () : Program (World ω) Unit)
          (fun _ => On (Separate slipEsc00 remote)) (Ended slipEsc00 remote) :=
        Program.ensures_pure (fun _ h => h.left)
      split
      · exact hdropped
      · split
        · exact hdropped
        · split
          · exact hdropped
          · split
            · exact hdropped
            · rename_i hlong hversion haddress hatt
              refine Program.ensures_bind
                ((ensures_rxWrite O packet fuel
                  (slipEncode slipEsc00 packet)).mono ?_ (fun _ _ h => h)
                  (fun _ h => h)) ?_
              · intro w hparts
                rcases hparts with ⟨h, hb, hpacket, hwritten⟩
                have hattached : w.b.attached = true := by
                  rw [hb]
                  simpa using hatt
                refine ⟨h.of_attached hattached, hpacket, ⟨?_, ?_, ?_⟩, ?_⟩
                · exact Nat.le_of_not_lt hlong
                · simpa using hversion
                · simpa using haddress
                · rw [hwritten, List.nil_append]
              · intro rc
                cases rc with
                | WRITE_GONE => exact ensures_clientDetach O fuel
                | _ => exact Program.ensures_pure (fun _ h => h)

/-!
## Reading from the client
-/

theorem ensures_injectFrames {done rest : List UInt8}
    (frames : List (List UInt8))
    (hframes : forall frame, frame ∈ frames ->
      frame ∈ (decodeBytes slipEsc00 Decoder.drained (done ++ rest)).2) :
    Program.Ensures (On (Decoding slipEsc00 remote done rest))
      (injectFrames O frames)
      (fun _ => On (Decoding slipEsc00 remote done rest))
      (Ended slipEsc00 remote) := by
  induction frames with
  | nil => exact Program.ensures_pure (fun _ h => h)
  | cons frame more ih =>
      have hinject : Program.Ensures (On (Decoding slipEsc00 remote done rest))
          (injectFrame O frame)
          (fun _ => On (Decoding slipEsc00 remote done rest))
          (Ended slipEsc00 remote) := by
        refine ensures_log (J := Decoding slipEsc00 remote done rest)
          (fun _ _ h => h.injectFrame (hframes frame List.mem_cons_self)) ?_
        split
        · exact Program.ensures_pure (fun _ h => h)
        · split
          · exact Program.ensures_pure (fun _ h => h)
          · apply ensures_get
            intro w0
            exact fun _ h => h
      apply Program.ensures_bind hinject
      intro _
      exact ih (fun other hmem =>
        hframes other (List.mem_cons_of_mem frame hmem))

theorem ensures_decodeTx (rest : List UInt8) :
    forall done : List UInt8,
      Program.Ensures (On (Decoding slipEsc00 remote done rest))
        (decodeTx O slipEsc00 rest) (fun _ => On (Separate slipEsc00 remote))
        (Ended slipEsc00 remote) := by
  induction rest with
  | nil =>
      intro done
      refine Program.ensures_pure (fun _ h => Or.inr ⟨h.attached_eq, h.fd_ne,
        h.client_eq, ?_, h.kept⟩)
      have hheard := h.heard_eq
      rw [List.append_nil] at hheard
      rw [hheard]
      exact h.decoder_eq
  | cons c buf ih =>
      intro done
      apply ensures_get_eq
      intro w0
      have hinject : Program.Ensures
          (On (fun b trace =>
            Decoding slipEsc00 remote done (c :: buf) b trace ∧ b = w0.b))
          (injectFrames O (slipDecode slipEsc00 w0.b.decoder c).2)
          (fun _ => On (Decoding slipEsc00 remote done (c :: buf)))
          (Ended slipEsc00 remote) := by
        intro w hboth
        rcases hboth with ⟨h, hb⟩
        refine ensures_injectFrames O _ ?_ w h
        intro frame hmem
        rw [← hb, h.decoder_eq] at hmem
        exact mem_decodeBytes hmem
      apply Program.ensures_bind hinject
      intro _
      refine ensures_setBridge ?_ (ih (done ++ [c]))
      intro b trace h
      refine ⟨h.attached_eq, h.fd_ne, h.client_eq, ?_, ?_, h.kept⟩
      · rw [h.heard_eq, List.append_assoc]
        rfl
      · show (slipDecode slipEsc00 b.decoder c).1 = _
        rw [decodeBytes_snoc, decodeByte, h.decoder_eq]

theorem ensures_handleTx :
    Program.Ensures (On (Attached slipEsc00 remote)) (handleTx O slipEsc00)
      (fun _ => On (Separate slipEsc00 remote)) (Ended slipEsc00 remote) := by
  apply ensures_get
  intro w0
  apply ensures_sys
  intro result
  rcases result with e | _ | ⟨c, buf⟩
  · cases e with
    | ENXIO => exact Program.ensures_stop (fun _ h => h.kept)
    | other code => exact Program.ensures_stop (fun _ h => h.kept)
    | _ => exact Program.ensures_pure (fun _ h => Or.inr h)
  · exact Program.ensures_pure (fun _ h => Or.inr h)
  · refine ensures_log (J := fun b trace => exists done,
      Decoding slipEsc00 remote done (c :: buf) b trace) ?_ ?_
    · intro b trace h
      refine ⟨(seen trace).heard, h.attached_eq, h.fd_ne, ?_, ?_,
        h.decoder_eq, h.kept.append trivial⟩
      · rw [seen_append]
        exact h.client_eq
      · rw [seen_append]
        rfl
    · have hdecode : Program.Ensures
          (On (fun b trace => exists done,
            Decoding slipEsc00 remote done (c :: buf) b trace))
          (decodeTx O slipEsc00 (c :: buf))
          (fun _ => On (Separate slipEsc00 remote))
          (Ended slipEsc00 remote) := by
        intro w hboth
        rcases hboth with ⟨done, h⟩
        exact ensures_decodeTx O (c :: buf) done w h
      apply Program.ensures_bind hdecode
      intro _
      exact Program.ensures_pure (fun _ h => h)

/-!
## The loop
-/

theorem ensures_tunEvent (fuel : Nat) (revents : Nat -> Revents) :
    Program.Ensures (On (Separate slipEsc00 remote))
      (tunEvent O slipEsc00 remote fuel revents)
      (fun _ => On (Separate slipEsc00 remote)) (Ended slipEsc00 remote) := by
  unfold tunEvent
  split
  · exact ensures_handleTun O fuel
  · exact Program.ensures_pure (fun _ h => h)

theorem ensures_fifoEvents (fuel : Nat) (polled : Bool)
    (revents : Nat -> Revents) :
    Program.Ensures (On (Separate slipEsc00 remote))
      (fifoEvents O slipEsc00 fuel polled revents)
      (fun _ => On (Separate slipEsc00 remote)) (Ended slipEsc00 remote) := by
  unfold fifoEvents
  split
  · exact ensures_clientDetach O fuel
  · apply ensures_get_eq
    intro w0
    split
    case isTrue hready =>
      -- the tun device may have detached the client in this very round
      have hread : Program.Ensures
          (On (fun b trace => Separate slipEsc00 remote b trace ∧ b = w0.b))
          (handleTx O slipEsc00) (fun _ => On (Separate slipEsc00 remote))
          (Ended slipEsc00 remote) := by
        refine (ensures_handleTx O).mono ?_ (fun _ _ h => h) (fun _ h => h)
        intro w hboth
        rcases hboth with ⟨h, hb⟩
        exact h.of_attached (hb ▸ hready.right.left)
      apply Program.ensures_bind hread
      intro stillOpen
      split
      · exact ensures_clientDetach O fuel
      · exact ensures_attachIfDetached O
    case isFalse =>
      exact (ensures_attachIfDetached O).mono (fun _ h => h.left)
        (fun _ _ h => h) (fun _ h => h)

theorem ensures_mainRound (fuel : Nat) :
    Program.Ensures (On (Separate slipEsc00 remote))
      (mainRound O slipEsc00 remote fuel)
      (fun _ => On (Separate slipEsc00 remote)) (Ended slipEsc00 remote) := by
  apply ensures_get
  intro w0
  apply ensures_sys
  intro result
  rcases result with e | ⟨count, revents⟩
  · cases e with
    | EINTR => exact Program.ensures_pure (fun _ h => h)
    | _ => exact Program.ensures_stop (fun _ h => Separate.kept h)
  · apply Program.ensures_bind (ensures_tunEvent O fuel revents)
    intro _
    exact ensures_fifoEvents O fuel w0.b.attached revents

theorem ensures_main (fuel rounds : Nat) :
    Program.Ensures (On (Detached slipEsc00 remote))
      (main O slipEsc00 remote fuel rounds)
      (fun _ => On (Separate slipEsc00 remote)) (Ended slipEsc00 remote) := by
  apply Program.ensures_bind (ensures_txOpen O (fun _ _ h => h.kept))
  intro fd
  refine ensures_setBridge (J := Detached slipEsc00 remote)
    (fun _ _ h => ⟨h.attached_eq, h.fd_eq, h.client_eq, h.kept⟩) ?_
  apply Program.ensures_bind (ensures_txDrain O fuel)
  intro _
  apply Program.ensures_loop
  intro _
  apply Program.ensures_bind (ensures_mainRound O fuel)
  intro _
  exact Program.ensures_pure (fun _ h => h)

end Calls

/-!
## The theorem
-/

/-- After any number of rounds, whatever the operating system has answered, and
also where the bridge dies: the flag and the descriptor agree, the decoder is
fresh without a client, and every event of the run was allowed. -/
theorem sessions_kept (O : Os ω) (slipEsc00 : Bool) (remote : List UInt8)
    (fuel rounds : Nat) (tunFd rawFd : Int) (os : ω) :
    Program.Outcome
      (fun _ w => (w.b.attached = true <-> w.b.rxFd ≠ -1) ∧
        (w.b.attached = false -> w.b.decoder = Decoder.drained) ∧
        ((seen w.trace).client ≠ none <-> w.b.attached = true) ∧
        SessionsKept slipEsc00 remote w.trace)
      (fun w => SessionsKept slipEsc00 remote w.trace)
      (main O slipEsc00 remote fuel rounds (World.initial tunFd rawFd os)) := by
  have hstart : On (Detached slipEsc00 remote)
      (World.initial tunFd rawFd os) := by
    refine ⟨rfl, rfl, rfl, ?_⟩
    intro before e after hsplit
    simp [World.initial] at hsplit
  have hrun := ensures_main O fuel rounds (World.initial tunFd rawFd os) hstart
  rcases hmain : main O slipEsc00 remote fuel rounds
    (World.initial tunFd rawFd os) with ⟨_ | running, w⟩
  · rw [hmain] at hrun
    exact hrun
  · rw [hmain] at hrun
    have hsep : Separate slipEsc00 remote w.b w.trace := hrun
    refine ⟨hsep.attached_iff, fun hatt => (hsep.of_not_attached hatt).right,
      ?_, hsep.kept⟩
    rcases hsep with ⟨h, _⟩ | h
    · rw [h.client_eq, h.attached_eq]
      simp
    · rw [h.client_eq, h.attached_eq]
      simp

end SlipTun
end Z80Tcpip
