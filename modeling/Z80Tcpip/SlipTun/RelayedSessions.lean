import Z80Tcpip.Slip.FrameGrammar
import Z80Tcpip.SlipTun.Relay

/-!
# What a session carries

A run of the bridge falls into sessions, one for each client.  Upwards a session
carries the frames that the grammar finds in the bytes of its client, all of
them and in order; downwards it carries the encodings of the packets that came
for the Spectrum while it lasted.
-/

namespace Z80Tcpip
namespace SlipTun

open Foundation
open Slip

/-!
## The sessions of a trace
-/

/-- What was read from the client, the frames that were handed to
`inject_frame`, and the packets for the Spectrum with the bytes that were
written of each; `latest` is the last of these packets. -/
structure Session where
  heard : List UInt8
  injected : List (List UInt8)
  earlier : List (List UInt8 × List UInt8)
  latest : Option (List UInt8 × List UInt8)

def Session.begun : Session where
  heard := []
  injected := []
  earlier := []
  latest := none

def Session.offers (s : Session) : List (List UInt8 × List UInt8) :=
  s.earlier ++ s.latest.toList

/-- What the client has been sent. -/
def Session.written (s : Session) : List UInt8 :=
  s.offers.flatMap Prod.snd

def Session.next (remote : List UInt8) (s : Session) : Event -> Session
  | .txRead bytes => { s with heard := s.heard ++ bytes }
  | .injectFrame frame => { s with injected := s.injected ++ [frame] }
  | .tunRead packet =>
      if ForSpectrum remote packet then
        { s with earlier := s.offers, latest := some (packet, []) }
      else s
  | .rxWrite _ bytes =>
      { s with latest := s.latest.map (fun o => (o.1, o.2 ++ bytes)) }
  | .attach _ => s
  | .detach => s

structure Sessions where
  past : List Session
  present : Option Session

def Sessions.next (remote : List UInt8) (s : Sessions) (e : Event) : Sessions :=
  match e with
  | .attach _ => { s with present := some Session.begun }
  | .detach => { past := s.past ++ s.present.toList, present := none }
  | e => { s with present := s.present.map (fun now => now.next remote e) }

def Sessions.all (s : Sessions) : List Session :=
  s.past ++ s.present.toList

def sessions (remote : List UInt8) (trace : List Event) : Sessions :=
  trace.foldl (Sessions.next remote) { past := [], present := none }

/-- What the events say on their own. -/
def Event.injected : Event -> List (List UInt8)
  | .injectFrame frame => [frame]
  | _ => []

def Event.written : Event -> List UInt8
  | .rxWrite _ bytes => bytes
  | _ => []

/-!
## One session beside the relay
-/

section Sessions

variable {slipEsc00 : Bool} {remote : List UInt8} {drops : Prop}

/-- A packet whose turn is over: a part of its encoding was written, and all of
it unless writes may be given up. -/
def Offered (slipEsc00 : Bool) (drops : Prop)
    (o : List UInt8 × List UInt8) : Prop :=
  o.2 <+: slipEncode slipEsc00 o.1 ∧ (o.2 = slipEncode slipEsc00 o.1 ∨ drops)

structure Session.Served (slipEsc00 : Bool) (remote : List UInt8)
    (drops : Prop) (s : Session) : Prop where
  injected_eq : s.injected = framesOf slipEsc00 s.heard
  wanted : forall o, o ∈ s.offers -> ForSpectrum remote o.1
  earlier_offered : forall o, o ∈ s.earlier -> Offered slipEsc00 drops o
  latest_front : forall o, s.latest = some o ->
    o.2 <+: slipEncode slipEsc00 o.1

theorem Session.Served.offers_front {s : Session}
    (h : s.Served slipEsc00 remote drops) {o : List UInt8 × List UInt8}
    (ho : o ∈ s.offers) : o.2 <+: slipEncode slipEsc00 o.1 := by
  rcases List.mem_append.mp ho with hearlier | hlatest
  · exact (h.earlier_offered o hearlier).left
  · exact h.latest_front o (Option.mem_toList.mp hlatest)

/-- All packets but the last of a session have been written whole, and the last
one as well if nothing of it is left. -/
theorem Session.Served.written_whole {s : Session}
    (h : s.Served slipEsc00 remote drops) (hdrops : ¬ drops)
    {front : List (List UInt8 × List UInt8)} (hfront : front <+: s.offers)
    (hlatest : front = s.offers -> forall o, s.latest = some o ->
      o.2 = slipEncode slipEsc00 o.1) {o : List UInt8 × List UInt8}
    (ho : o ∈ front) : o.2 = slipEncode slipEsc00 o.1 := by
  have hearlier : o ∈ s.earlier -> o.2 = slipEncode slipEsc00 o.1 :=
    fun hmem => (h.earlier_offered o hmem).right.resolve_right hdrops
  cases hlast : s.latest with
  | none =>
      have hmem := hfront.subset ho
      rw [Session.offers, hlast] at hmem
      exact hearlier (by simpa using hmem)
  | some last =>
      have hsplit : s.offers = s.earlier ++ [last] := by
        rw [Session.offers, hlast]
        rfl
      have hcases := hfront
      rw [hsplit, List.prefix_concat_iff] at hcases
      cases hcases with
      | inl hall =>
          rw [<- hsplit] at hall
          rw [hall, hsplit] at ho
          cases List.mem_append.mp ho with
          | inl hold => exact hearlier hold
          | inr hnew =>
              rw [List.mem_singleton.mp hnew]
              exact hlatest hall last hlast
      | inr hpart => exact hearlier (hpart.subset ho)

/-- A packet for the Spectrum has at least a header. -/
theorem Session.Served.nonempty {s : Session}
    (h : s.Served slipEsc00 remote drops) {o : List UInt8 × List UInt8}
    (ho : o ∈ s.offers) : o.1 ≠ [] := by
  intro hnil
  have hlong := (h.wanted o ho).left
  rw [hnil] at hlong
  exact absurd hlong (by decide)

structure Session.Beside (slipEsc00 : Bool) (remote : List UInt8)
    (drops : Prop) (s : Session) (r : Relay) : Prop where
  decoder_eq : r.decoder = (decodeBytes slipEsc00 Decoder.drained s.heard).1
  frames_eq : s.injected ++ r.due =
    (decodeBytes slipEsc00 Decoder.drained s.heard).2
  wanted : forall o, o ∈ s.offers -> ForSpectrum remote o.1
  earlier_offered : forall o, o ∈ s.earlier -> Offered slipEsc00 drops o
  latest_none : r.offer = none -> forall o, s.latest = some o ->
    Offered slipEsc00 drops o
  latest_some : forall rest, r.offer = some rest ->
    exists o, s.latest = some o ∧ o.2 ++ rest = slipEncode slipEsc00 o.1

theorem Session.Beside.begun {fd : Int} :
    Session.begun.Beside slipEsc00 remote drops
      { client := some fd
        decoder := Decoder.drained
        due := []
        offer := none } :=
  { decoder_eq := rfl
    frames_eq := rfl
    wanted := fun _ ho => absurd ho List.not_mem_nil
    earlier_offered := fun _ ho => absurd ho List.not_mem_nil
    latest_none := fun _ _ ho => by cases ho
    latest_some := fun _ ho => by cases ho }

theorem Session.Beside.latest_front {s : Session} {r : Relay}
    (h : s.Beside slipEsc00 remote drops r) {o : List UInt8 × List UInt8}
    (ho : s.latest = some o) : o.2 <+: slipEncode slipEsc00 o.1 := by
  cases hoffer : r.offer with
  | none => exact (h.latest_none hoffer o ho).left
  | some rest =>
      rcases h.latest_some rest hoffer with ⟨o', ho', hrest⟩
      rw [ho] at ho'
      cases ho'
      exact ⟨rest, hrest⟩

/-- Where nothing is left to write, or writes may be given up, the last packet
has had its turn. -/
theorem Session.Beside.latest_offered {s : Session} {r : Relay}
    (h : s.Beside slipEsc00 remote drops r) (hsettled : r.Settled drops)
    {o : List UInt8 × List UInt8} (ho : s.latest = some o) :
    Offered slipEsc00 drops o := by
  rcases hsettled with hnone | hdone | hdrops
  · exact h.latest_none hnone o ho
  · rcases h.latest_some [] hdone with ⟨o', ho', hrest⟩
    rw [ho] at ho'
    cases ho'
    rw [List.append_nil] at hrest
    exact ⟨⟨[], by rw [List.append_nil, hrest]⟩, Or.inl hrest⟩
  · exact ⟨h.latest_front ho, Or.inr hdrops⟩

theorem Session.Beside.offers_offered {s : Session} {r : Relay}
    (h : s.Beside slipEsc00 remote drops r) (hsettled : r.Settled drops)
    {o : List UInt8 × List UInt8} (ho : o ∈ s.offers) :
    Offered slipEsc00 drops o := by
  rcases List.mem_append.mp ho with hearlier | hlatest
  · exact h.earlier_offered o hearlier
  · exact h.latest_offered hsettled (Option.mem_toList.mp hlatest)

theorem Session.Beside.served {s : Session} {r : Relay}
    (h : s.Beside slipEsc00 remote drops r) (hdue : r.due = []) :
    s.Served slipEsc00 remote drops := by
  have hframes := h.frames_eq
  rw [hdue, List.append_nil, (decodeBytes_drained slipEsc00 s.heard).left]
    at hframes
  exact
    { injected_eq := hframes
      wanted := h.wanted
      earlier_offered := h.earlier_offered
      latest_front := fun _ ho => h.latest_front ho }

/-!
## One step
-/

theorem decodeBytes_append (slipEsc00 : Bool) (b : Decoder)
    (bytes more : List UInt8) :
    decodeBytes slipEsc00 b (bytes ++ more) =
      ((decodeBytes slipEsc00 (decodeBytes slipEsc00 b bytes).1 more).1,
        (decodeBytes slipEsc00 b bytes).2 ++
          (decodeBytes slipEsc00 (decodeBytes slipEsc00 b bytes).1 more).2) := by
  rw [decodeBytes, List.foldl_append, foldl_decodeByte]
  rfl

/-- All sessions beside the relay: those that are over are served, and the
present one is the client's. -/
structure Sessions.Beside (slipEsc00 : Bool) (remote : List UInt8)
    (drops : Prop) (s : Sessions) (r : Relay) : Prop where
  past_served : forall old, old ∈ s.past ->
    old.Served slipEsc00 remote drops
  absent : r.client = none -> s.present = none ∧ r.due = []
  present_beside : r.client ≠ none -> exists now, s.present = some now ∧
    now.Beside slipEsc00 remote drops r

def Sessions.injected (s : Sessions) : List (List UInt8) :=
  s.all.flatMap Session.injected

def Sessions.written (s : Sessions) : List UInt8 :=
  s.all.flatMap Session.written

/-- What the step lemma says about a step: the sessions stay beside the relay
and account for the event. -/
structure Sessions.Keeps (slipEsc00 : Bool) (remote : List UInt8)
    (drops : Prop) (s s' : Sessions) (e : Event) (r' : Relay) : Prop where
  beside : s'.Beside slipEsc00 remote drops r'
  injected_eq : s'.injected = s.injected ++ e.injected
  written_eq : s'.written = s.written ++ e.written

theorem Sessions.Keeps.present {s : Sessions} {now now' : Session} {r r' : Relay}
    {e : Event} (h : s.Beside slipEsc00 remote drops r)
    (hpresent : s.present = some now) (hclient : r'.client ≠ none)
    (hnow : now'.Beside slipEsc00 remote drops r')
    (hinjected : now'.injected = now.injected ++ e.injected)
    (hwritten : now'.written = now.written ++ e.written) :
    s.Keeps slipEsc00 remote drops { s with present := some now' } e r' := by
  constructor
  case beside =>
    exact ⟨h.past_served, fun hnone => absurd hnone hclient,
      fun _ => ⟨now', rfl, hnow⟩⟩
  case injected_eq =>
    simp [Sessions.injected, Sessions.all, hpresent, hinjected]
  case written_eq =>
    simp [Sessions.written, Sessions.all, hpresent, hwritten]

theorem Sessions.Keeps.silent {s : Sessions} {r r' : Relay} {e : Event}
    (h : s.Beside slipEsc00 remote drops r) (hclient : r.client = none)
    (hclient' : r'.client = none) (hdue : r'.due = [])
    (hinjected : e.injected = []) (hwritten : e.written = []) :
    s.Keeps slipEsc00 remote drops s e r' := by
  constructor
  case beside =>
    exact ⟨h.past_served, fun _ => ⟨(h.absent hclient).left, hdue⟩,
      fun hsome => absurd hclient' hsome⟩
  case injected_eq => rw [hinjected, List.append_nil]
  case written_eq => rw [hwritten, List.append_nil]

theorem Relay.Step.keeps {s : Sessions} {r r' : Relay} {e : Event}
    (hstep : Relay.Step slipEsc00 remote drops r e r')
    (h : s.Beside slipEsc00 remote drops r) :
    s.Keeps slipEsc00 remote drops (s.next remote e) e r' := by
  cases hstep with
  | stale bytes hclient =>
      have hnext : s.next remote (.txRead bytes) = s := by
        simp only [Sessions.next, (h.absent hclient).left, Option.map_none]
        rw [← (h.absent hclient).left]
      rw [hnext]
      exact .silent h hclient hclient (h.absent hclient).right rfl rfl
  | heard bytes hclient hdue =>
      rcases h.present_beside hclient with ⟨now, hpresent, hnow⟩
      have hnext : s.next remote (.txRead bytes) = { s with
          present := some (now.next remote (.txRead bytes)) } := by
        simp [Sessions.next, hpresent]
      have hframes := hnow.frames_eq
      rw [hdue, List.append_nil] at hframes
      have hsplit := decodeBytes_append slipEsc00 Decoder.drained now.heard
        bytes
      rw [← hnow.decoder_eq] at hsplit
      rw [hnext]
      refine .present h hpresent hclient ?_ (List.append_nil _).symm
        (List.append_nil _).symm
      constructor
      case decoder_eq => exact (congrArg Prod.fst hsplit).symm
      case frames_eq =>
        show now.injected ++ _ =
          (decodeBytes slipEsc00 Decoder.drained (now.heard ++ bytes)).2
        rw [hsplit, hframes]
      case wanted => exact hnow.wanted
      case earlier_offered => exact hnow.earlier_offered
      case latest_none => exact hnow.latest_none
      case latest_some => exact hnow.latest_some
  | @injected frame more hclient hdue =>
      rcases h.present_beside hclient with ⟨now, hpresent, hnow⟩
      have hnext : s.next remote (.injectFrame frame) = { s with
          present := some (now.next remote (.injectFrame frame)) } := by
        simp [Sessions.next, hpresent]
      rw [hnext]
      refine .present h hpresent hclient ?_ rfl (List.append_nil _).symm
      constructor
      case decoder_eq => exact hnow.decoder_eq
      case frames_eq =>
        have hframes := hnow.frames_eq
        rw [hdue] at hframes
        show now.injected ++ [frame] ++ more = _
        rw [List.append_assoc]
        exact hframes
      case wanted => exact hnow.wanted
      case earlier_offered => exact hnow.earlier_offered
      case latest_none => exact hnow.latest_none
      case latest_some => exact hnow.latest_some
  | ignored packet hnot hdue hsettled =>
      by_cases hclient : r.client = none
      · have hnext : s.next remote (.tunRead packet) = s := by
          simp only [Sessions.next, (h.absent hclient).left, Option.map_none]
          rw [← (h.absent hclient).left]
        rw [hnext]
        exact .silent h hclient hclient hdue rfl rfl
      · rcases h.present_beside hclient with ⟨now, hpresent, hnow⟩
        have hfor := hnot.resolve_left hclient
        have hnext : s.next remote (.tunRead packet) =
            { s with present := some now } := by
          simp [Sessions.next, hpresent, Session.next, hfor]
        rw [hnext]
        refine .present h hpresent hclient ?_ (List.append_nil _).symm
          (List.append_nil _).symm
        constructor
        case decoder_eq => exact hnow.decoder_eq
        case frames_eq => exact hnow.frames_eq
        case wanted => exact hnow.wanted
        case earlier_offered => exact hnow.earlier_offered
        case latest_none =>
          exact fun _ _ ho => hnow.latest_offered hsettled ho
        case latest_some => exact fun _ hrest => by cases hrest
  | @offered packet hclient hfor hdue hsettled =>
      rcases h.present_beside hclient with ⟨now, hpresent, hnow⟩
      have hnext : s.next remote (.tunRead packet) = { s with
          present := some { now with
            earlier := now.offers
            latest := some (packet, []) } } := by
        simp [Sessions.next, hpresent, Session.next, hfor]
      rw [hnext]
      refine .present h hpresent hclient ?_ (List.append_nil _).symm ?_
      · constructor
        case decoder_eq => exact hnow.decoder_eq
        case frames_eq => exact hnow.frames_eq
        case wanted =>
          intro o ho
          rcases List.mem_append.mp ho with hearlier | hlatest
          · exact hnow.wanted o hearlier
          · cases List.mem_singleton.mp hlatest
            exact hfor
        case earlier_offered =>
          exact fun _ ho => hnow.offers_offered hsettled ho
        case latest_none => exact fun hnone => by cases hnone
        case latest_some =>
          intro rest hrest
          cases hrest
          exact ⟨_, rfl, List.nil_append _⟩
      · simp [Session.written, Session.offers, Event.written]
  | @written fd bytes rest hclient hoffer =>
      have hsome : r.client ≠ none := by
        rw [hclient]
        exact Option.some_ne_none fd
      rcases h.present_beside hsome with ⟨now, hpresent, hnow⟩
      rcases hnow.latest_some _ hoffer with ⟨o, hlatest, hrest⟩
      have hnext : s.next remote (.rxWrite fd bytes) = { s with
          present := some { now with
            latest := some (o.1, o.2 ++ bytes) } } := by
        simp [Sessions.next, hpresent, Session.next, hlatest]
      rw [hnext]
      refine .present h hpresent hsome ?_ (List.append_nil _).symm ?_
      · constructor
        case decoder_eq => exact hnow.decoder_eq
        case frames_eq => exact hnow.frames_eq
        case wanted =>
          intro o' ho
          rcases List.mem_append.mp ho with hearlier | hnew
          · exact hnow.wanted o' (List.mem_append_left _ hearlier)
          · cases List.mem_singleton.mp hnew
            refine hnow.wanted o (List.mem_append_right _ ?_)
            rw [hlatest]
            exact List.mem_singleton_self o
        case earlier_offered => exact hnow.earlier_offered
        case latest_none => exact fun hnone => by cases hnone
        case latest_some =>
          intro rest' hrest'
          cases hrest'
          refine ⟨_, rfl, ?_⟩
          rw [List.append_assoc]
          exact hrest
      · simp [Session.written, Session.offers, Event.written, hlatest]
  | attached fd hclient =>
      have hnone := (h.absent hclient).left
      constructor
      case beside =>
        exact ⟨h.past_served, fun hno => (by cases hno),
          fun _ => ⟨Session.begun, rfl, .begun⟩⟩
      case injected_eq =>
        simp [Sessions.injected, Sessions.all, Sessions.next, hnone,
          Session.begun, Event.injected]
      case written_eq =>
        simp [Sessions.written, Sessions.all, Sessions.next, hnone,
          Session.begun, Session.written, Session.offers, Event.written]
  | detached hclient hdue =>
      rcases h.present_beside hclient with ⟨now, hpresent, hnow⟩
      constructor
      case beside =>
        refine ⟨?_, fun _ => ⟨rfl, rfl⟩, fun hsome => absurd rfl hsome⟩
        intro old hold
        rcases List.mem_append.mp hold with hpast | hlast
        · exact h.past_served old hpast
        · rw [hpresent] at hlast
          cases List.mem_singleton.mp hlast
          exact hnow.served hdue
      case injected_eq =>
        simp [Sessions.injected, Sessions.all, Sessions.next, hpresent,
          Event.injected]
      case written_eq =>
        simp [Sessions.written, Sessions.all, Sessions.next, hpresent,
          Event.written]

/-!
## A run
-/

theorem run_keeps {r r' : Relay} {run : List (Event × Relay)}
    (hrun : Trace (Relay.Step slipEsc00 remote drops) r run r') :
    forall {s : Sessions}, s.Beside slipEsc00 remote drops r ->
      exists s', (run.map Prod.fst).foldl (Sessions.next remote) s = s' ∧
        s'.Beside slipEsc00 remote drops r' ∧
        s'.injected = s.injected ++ (run.map Prod.fst).flatMap Event.injected ∧
        s'.written = s.written ++ (run.map Prod.fst).flatMap Event.written := by
  induction hrun with
  | nil r =>
      intro s h
      exact ⟨s, rfl, h, (List.append_nil _).symm, (List.append_nil _).symm⟩
  | @cons r r1 r' e more hstep _ ih =>
      intro s h
      have hkeeps := hstep.keeps h
      rcases ih hkeeps.beside with ⟨s', hfold, hbeside, hinjected, hwritten⟩
      refine ⟨s', hfold, hbeside, ?_, ?_⟩
      · rw [hinjected, hkeeps.injected_eq, List.append_assoc]
        rfl
      · rw [hwritten, hkeeps.written_eq, List.append_assoc]
        rfl

theorem sessions_served {trace : List Event} {r : Relay}
    (h : Relayed slipEsc00 remote drops trace r) (hdue : r.due = []) :
    (forall s, s ∈ (sessions remote trace).all ->
      s.Served slipEsc00 remote drops) ∧
      (sessions remote trace).injected = trace.flatMap Event.injected ∧
      (sessions remote trace).written = trace.flatMap Event.written := by
  rcases h with ⟨run, hrun, htrace⟩
  have hstart : Sessions.Beside slipEsc00 remote drops
      { past := [], present := none } Relay.idle :=
    ⟨fun _ hold => absurd hold List.not_mem_nil, fun _ => ⟨rfl, rfl⟩,
      fun hsome => absurd rfl hsome⟩
  rcases run_keeps hrun hstart with ⟨s, hfold, hbeside, hinjected, hwritten⟩
  rw [htrace] at hfold hinjected hwritten
  rw [sessions, hfold]
  refine ⟨?_, hinjected, hwritten⟩
  intro now hmem
  rcases List.mem_append.mp hmem with hpast | hnow
  · exact hbeside.past_served now hpast
  · by_cases hclient : r.client = none
    · rw [(hbeside.absent hclient).left] at hnow
      cases hnow
    · rcases hbeside.present_beside hclient with ⟨now', hpresent, hnow'⟩
      rw [hpresent] at hnow
      cases List.mem_singleton.mp hnow
      exact hnow'.served hdue

end Sessions

/-!
## The two directions
-/

theorem filterMap_rawSend (trace : List Event) :
    trace.filterMap Event.rawSend =
      (trace.flatMap Event.injected).filterMap rawSend := by
  induction trace with
  | nil => rfl
  | cons e more ih =>
      rw [List.flatMap_cons, List.filterMap_append, ← ih]
      cases e with
      | injectFrame frame =>
          show List.filterMap Event.rawSend _ =
            [frame].filterMap rawSend ++ _
          cases hsend : rawSend frame with
          | none => simp [Event.rawSend, hsend]
          | some call => simp [Event.rawSend, hsend]
      | _ => rfl

section Directions

variable {ω : Type} {slipEsc00 : Bool} {remote : List UInt8} {drops : Prop}
  {sent : ω -> List (List UInt8 × List UInt8)}

/-- What the sessions of a run account for. -/
structure Carried (sent : ω -> List (List UInt8 × List UInt8))
    (slipEsc00 : Bool) (remote : List UInt8) (drops : Prop) (w : World ω) :
    Prop where
  served : forall s, s ∈ (sessions remote w.trace).all ->
    s.Served slipEsc00 remote drops
  sent_eq : sent w.os = (sessions remote w.trace).injected.filterMap rawSend
  written_eq : w.trace.flatMap Event.written =
    (sessions remote w.trace).written

theorem WasRelay.carried {w : World ω}
    (h : WasRelay sent slipEsc00 remote drops w) :
    Carried sent slipEsc00 remote drops w := by
  rcases h with ⟨hsent, r, hrelayed, hdue⟩
  rcases sessions_served hrelayed hdue with ⟨hserved, hinjected, hwritten⟩
  refine ⟨hserved, ?_, hwritten.symm⟩
  rw [hinjected, ← filterMap_rawSend]
  exact hsent

/-- The bridge when a run of `main` is over, or where the process has ended. -/
def ran (O : Os ω) (slipEsc00 : Bool) (remote : List UInt8) (fuel rounds : Nat)
    (tunFd rawFd : Int) (os : ω) : World ω :=
  (main O slipEsc00 remote fuel rounds (World.initial tunFd rawFd os)).2

theorem ran_carried {O : Os ω} (hobs : Observes O sent) (slipEsc00 : Bool)
    (remote : List UInt8) (fuel rounds : Nat) (tunFd rawFd : Int) (os : ω)
    (hnone : sent os = []) :
    Carried sent slipEsc00 remote O.MayTimeOut
      (ran O slipEsc00 remote fuel rounds tunFd rawFd os) :=
  (main_follows hobs (fun h => h) fuel rounds tunFd rawFd hnone).carried

/-- Upwards, whatever the system answers: each session hands over exactly the
frames of its client's bytes, and the raw socket is given exactly those that are
IPv4 packets, in order and with their own destinations. -/
theorem relayed_upwards (O : Os ω) (slipEsc00 : Bool) (remote : List UInt8)
    (fuel rounds : Nat) (tunFd rawFd : Int) (os : ω) :
    exists w : World (ω × List (List UInt8 × List UInt8)),
      ran (recording O) slipEsc00 remote fuel rounds tunFd rawFd (os, []) = w ∧
      (forall s, s ∈ (sessions remote w.trace).all ->
        s.injected = framesOf slipEsc00 s.heard) ∧
      w.os.2 = (sessions remote w.trace).all.flatMap
        (fun s => (framesOf slipEsc00 s.heard).filterMap rawSend) := by
  have hcarried := ran_carried (observes_recording O) slipEsc00 remote fuel
    rounds tunFd rawFd (os, []) rfl
  refine ⟨_, rfl, fun s hs => (hcarried.served s hs).injected_eq, ?_⟩
  rw [hcarried.sent_eq, Sessions.injected, List.filterMap_flatMap]
  apply List.flatMap_congr
  intro s hs
  rw [(hcarried.served s hs).injected_eq]

theorem Os.MayTimeOut.of_recording {O : Os ω}
    (h : (recording O).MayTimeOut) : O.MayTimeOut := by
  rcases h with ⟨fds, os, revents, hpoll⟩
  exact ⟨fds, os.1, revents, hpoll⟩

/-- Downwards: the rx fifo is given, session by session, the packets for the
Spectrum that were read while the session lasted, each as a prefix of its
encoding; only the last of a session is ever unfinished, unless a wait for room
can time out. -/
theorem relayed_downwards (O : Os ω) (slipEsc00 : Bool) (remote : List UInt8)
    (fuel rounds : Nat) (tunFd rawFd : Int) (os : ω) :
    exists w : World (ω × List (List UInt8 × List UInt8)),
      ran (recording O) slipEsc00 remote fuel rounds tunFd rawFd (os, []) = w ∧
      w.trace.flatMap Event.written =
        (sessions remote w.trace).all.flatMap Session.written ∧
      forall s, s ∈ (sessions remote w.trace).all ->
        (forall o, o ∈ s.offers -> ForSpectrum remote o.1 ∧
          o.2 <+: slipEncode slipEsc00 o.1) ∧
        (forall o, o ∈ s.earlier ->
          o.2 = slipEncode slipEsc00 o.1 ∨ O.MayTimeOut) := by
  have hcarried := ran_carried (observes_recording O) slipEsc00 remote fuel
    rounds tunFd rawFd (os, []) rfl
  refine ⟨_, rfl, hcarried.written_eq, ?_⟩
  intro s hs
  have hserved := hcarried.served s hs
  refine ⟨fun o ho => ⟨hserved.wanted o ho, hserved.offers_front ho⟩, ?_⟩
  intro o ho
  exact (hserved.earlier_offered o ho).right.imp_right
    Os.MayTimeOut.of_recording

end Directions

end SlipTun
end Z80Tcpip
