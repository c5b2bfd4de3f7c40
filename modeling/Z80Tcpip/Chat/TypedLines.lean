import Z80Tcpip.Client.Requests
import Z80Tcpip.Polling.WindowFlag

/-!
# The lines that are typed

tcp_chat.c sends the lines that are typed, each with a LF, whatever the connection
does in between.  Over tcp.c they are what the machine of the stack is asked to
send, and so a peer that does its part has them in order.
-/

namespace Z80Tcpip
namespace Chat

open Foundation
open Client
open Program
open Tcp

variable {ν : Type} {P : Platform} {N : Network ν}

/-!
## Typing
-/

/-- The line being typed and the lines that have been entered. -/
structure Typing where
  input : List UInt8
  lines : List (List UInt8)

/-- What a key does to them; an empty line is not entered. -/
def Typing.key (t : Typing) (k : UInt16) : Typing :=
  if k = KEY_ENTER then
    if t.input = [] then t
    else { input := [], lines := t.lines ++ [t.input] }
  else if k = KEY_LEFT ∨ k = KEY_DELETE ∨ k = KEY_CTRL_DEL then
    { t with input := t.input.dropLast }
  else if 32 ≤ k ∧ k < 127 ∧ t.input.length < MAX_INPUT then
    { t with input := t.input ++ [k.toUInt8] }
  else t

def typed (keys : List UInt16) : Typing :=
  keys.foldl Typing.key { input := [], lines := [] }

/-- A line as it is sent. -/
def lineBytes (line : List UInt8) : List UInt8 :=
  line ++ [10]

example : (typed [0x68, 0x6f, 12, 0x69, 13, 13, 0x78]).lines =
    [ascii "hi"] := by
  decide

theorem typed_append (keys : List UInt16) (k : UInt16) :
    typed (keys ++ [k]) = (typed keys).key k :=
  List.foldl_concat _ _ _ _

theorem Typing.lines_key (t : Typing) (k : UInt16) :
    t.lines <+: (t.key k).lines := by
  unfold Typing.key
  split_ifs
  · exact List.prefix_rfl
  · exact List.prefix_append _ _
  · exact List.prefix_rfl
  · exact List.prefix_rfl
  · exact List.prefix_rfl

theorem typed_lines_grow (keys more : List UInt16) :
    (typed keys).lines <+: (typed (keys ++ more)).lines := by
  induction more generalizing keys with
  | nil => rw [List.append_nil]
  | cons k rest ih =>
      have hmore := ih (keys ++ [k])
      rw [List.append_assoc, typed_append] at hmore
      exact ((typed keys).lines_key k).trans hmore

theorem typed_lines_extend {keys keys' : List UInt16}
    (h : keys <+: keys') : (typed keys).lines <+: (typed keys').lines := by
  rcases h with ⟨more, rfl⟩
  exact typed_lines_grow keys more

/-- No more than a line fits `input`, and none that is entered is empty. -/
structure Typing.Fits (t : Typing) : Prop where
  input : t.input.length ≤ MAX_INPUT
  lines : forall line, line ∈ t.lines -> line.length ≤ MAX_INPUT

theorem Typing.Fits.key {t : Typing} (h : t.Fits) (k : UInt16) :
    (t.key k).Fits := by
  have hinput := h.input
  unfold Typing.key
  split_ifs with _ _ _ hroom
  · exact h
  · refine ⟨Nat.zero_le _, ?_⟩
    intro line hline
    rcases List.mem_append.mp hline with hold | hnew
    · exact h.lines line hold
    · rw [List.mem_singleton.mp hnew]
      exact hinput
  · refine ⟨?_, h.lines⟩
    show t.input.dropLast.length ≤ MAX_INPUT
    rw [List.length_dropLast]
    omega
  · refine ⟨?_, h.lines⟩
    show (t.input ++ [k.toUInt8]).length ≤ MAX_INPUT
    rw [List.length_append]
    exact hroom.right.right
  · exact h

theorem typed_fits (keys : List UInt16) : (typed keys).Fits := by
  have hall : forall t : Typing, t.Fits -> (keys.foldl Typing.key t).Fits := by
    induction keys with
    | nil => exact fun _ h => h
    | cons k rest ih => exact fun t h => ih (t.key k) (h.key k)
  exact hall _ ⟨Nat.zero_le _, fun _ hline => (by cases hline)⟩

/-!
## What the client keeps
-/

/-- The screen shows the line being typed, and the lines entered so far have been
sent. -/
def AllSent (t : Typing) (s : State) (trace : List (Event State ν)) : Prop :=
  s.screen.input = t.input ∧ payloadsOf trace = t.lines.map lineBytes

/-- What is left of that when a call of the stack does not return. -/
def PartSent (t : Typing) (_ : State) (trace : List (Event State ν)) : Prop :=
  payloadsOf trace <+: t.lines.map lineBytes

theorem allSent_app (t : Typing) :
    AppInvariant app (AllSent (ν := ν) t) (PartSent t) where
  showData := fun data s _ h => ⟨(Polling.showData_input data s).trans h.left, h.right⟩
  logLine := fun text s _ h => ⟨(logLine_input text s).trans h.left, h.right⟩
  shown := by
    intro net windowOpen s trace h
    exact ⟨h.left, (payloadsOf_silent trace rfl).trans h.right⟩
  hungUp := by
    intro net s trace h
    exact ⟨h.left, (payloadsOf_silent trace rfl).trans h.right⟩
  stopped := by
    intro s trace h
    show payloadsOf trace <+: _
    rw [h.right]

theorem PartSent.mono {t t' : Typing} {s : State}
    {trace : List (Event State ν)} (h : PartSent t s trace)
    (hle : t.lines <+: t'.lines) : PartSent t' s trace :=
  h.trans (List.IsPrefix.map lineBytes hle)

/-!
## Sending a line
-/

theorem Typing.key_enter {t : Typing} (h : t.input ≠ []) :
    t.key KEY_ENTER = { input := [], lines := t.lines ++ [t.input] } := by
  rw [Typing.key, if_pos rfl, if_neg h]

theorem allSent_returned (t : Typing) (call : Client.Call) :
    Ensures (On (AllSent (ν := ν) t)) (returned call)
      (fun _ => On (AllSent t)) (On (PartSent t)) := by
  refine ensures_modify (fun c hc => ⟨hc.left, ?_⟩)
  exact (payloadsOf_silent c.trace rfl).trans hc.right

/-- The line is in the trace before it is sent, and echoed afterwards. -/
theorem allSent_sendLine (N : Network ν) {t : Typing} (h : t.input ≠ []) :
    Ensures (On (AllSent (ν := ν) t)) (sendLine N)
      (fun _ => On (AllSent (t.key KEY_ENTER)))
      (On (PartSent (t.key KEY_ENTER))) := by
  have hkey := Typing.key_enter h
  have hdrain := ((allSent_app (ν := ν) t).drain N).mono (fun _ hc => hc)
    (fun _ _ hc => hc)
    (fun _ hc => PartSent.mono hc (t.lines_key KEY_ENTER))
  let logged : State -> List (Event State ν) -> Prop := fun _ trace =>
    payloadsOf trace = (t.key KEY_ENTER).lines.map lineBytes
  have hpart : forall s trace, logged s trace ->
      PartSent (t.key KEY_ENTER) s trace := by
    intro s trace hlogged
    show payloadsOf trace <+: _
    rw [show payloadsOf trace = _ from hlogged]
  refine ensures_bind hdrain (fun _ => ?_)
  apply ensures_get_bind
  intro c hc
  have hlog : On logged
      { c with
        trace := c.trace ++
          [.payload .typed [c.app.screen.input, [10]]
            (c.app.screen.input ++ [10])] } := by
    show payloadsOf (c.trace ++ [_]) = _
    rw [payloadsOf_append, hc.right, hc.left, hkey, List.map_append]
    rfl
  have hsend : forall bytes : List UInt8, Ensures (On logged)
      (onNet (N.send bytes 0)) (fun _ => On logged)
      (On (PartSent (t.key KEY_ENTER))) := by
    intro bytes c' hc'
    unfold onNet
    rcases N.send bytes 0 c'.net with ⟨_ | rc, net⟩
    · exact hpart c'.app c'.trace hc'
    · exact hc'
  have hecho : Ensures (On logged) (modifyApp echo)
      (fun _ => On (AllSent (t.key KEY_ENTER)))
      (On (PartSent (t.key KEY_ENTER))) := by
    refine ensures_modify (fun c' hc' => ⟨?_, hc'⟩)
    show (echo c'.app).screen.input = _
    rw [hkey, echo, logLine_input]
  have hfailed : forall rc : Int,
      Ensures (On (AllSent (ν := ν) (t.key KEY_ENTER))) (reportFailure rc)
        (fun _ => On (AllSent (t.key KEY_ENTER)))
        (On (PartSent (t.key KEY_ENTER))) := by
    intro rc
    unfold reportFailure
    split_ifs
    · exact (allSent_app (t.key KEY_ENTER)).ensures_logLine _
    · exact ensures_pure (fun _ hc' => hc')
  have hrest : Ensures (On logged)
      (do
        let rc ← onNet (N.send (c.app.screen.input ++ [10]) 0)
        setWindow false
        pure rc) (fun _ => On logged) (On (PartSent (t.key KEY_ENTER))) :=
    ensures_bind (hsend _)
      (fun _ => ensures_bind (ensures_setWindow false)
        (fun _ => ensures_pure (fun _ hc' => hc')))
  have hsendData : Ensures (fun c' => c' = c)
      (sendData N .typed [c.app.screen.input, [10]]
        (c.app.screen.input ++ [10])) (fun _ => On logged)
      (On (PartSent (t.key KEY_ENTER))) := by
    intro c' heq
    subst heq
    exact hrest _ hlog
  exact ensures_bind hsendData
    (fun rc => ensures_bind hecho
      (fun _ => ensures_bind (hfailed rc)
        (fun _ => allSent_returned (t.key KEY_ENTER) .send))) c rfl

/-!
## One turn
-/

theorem allSent_sendInput (N : Network ν) (t : Typing) :
    Ensures (On (AllSent (ν := ν) t)) (sendInput N)
      (fun _ => On (AllSent (t.key KEY_ENTER)))
      (On (PartSent (t.key KEY_ENTER))) := by
  apply ensures_get_bind
  intro c hc
  have hinput : c.app.screen.input = t.input := hc.left
  rw [hinput]
  by_cases hempty : t.input = []
  · have hsame : t.key KEY_ENTER = t := by
      rw [Typing.key, if_pos rfl, if_pos hempty]
    rw [if_pos hempty, hsame]
    exact allSent_returned t .send c hc
  · rw [if_neg hempty]
    exact allSent_sendLine N hempty c hc

theorem editKey_typing {t : Typing} {s : State} (k : UInt16)
    (hkey : k ≠ KEY_ENTER) (h : s.screen.input = t.input) :
    (editKey k s).screen.input = (t.key k).input := by
  rw [editKey, Typing.key, if_neg hkey, h]
  split_ifs with _ hempty
  · rfl
  · show s.screen.input = t.input.dropLast
    rw [h, not_not.mp hempty]
    rfl
  · rfl
  · exact h

theorem key_other_lines (t : Typing) {k : UInt16} (hkey : k ≠ KEY_ENTER) :
    (t.key k).lines = t.lines := by
  rw [Typing.key, if_neg hkey]
  split_ifs <;> rfl

theorem allSent_edit {t : Typing} {k : UInt16} (hkey : k ≠ KEY_ENTER)
    {s : State} {trace : List (Event State ν)} (h : AllSent t s trace) :
    AllSent (t.key k) (editKey k s) trace := by
  refine ⟨editKey_typing k hkey h.left, ?_⟩
  rw [key_other_lines t hkey]
  exact h.right

/-- A key that neither enters a line nor edits it. -/
theorem key_none (t : Typing) {k : UInt16} (h : k = 0 ∨ k = KEY_QUIT) :
    t.key k = t := by
  rcases h with rfl | rfl <;> rfl

theorem allSent_handleKey (N : Network ν) (t : Typing) (k : UInt16) :
    Ensures (On (AllSent (ν := ν) t)) (handleKey N k)
      (fun _ => On (AllSent (t.key k))) (On (PartSent (t.key k))) := by
  have hkey : Ensures (On (AllSent (ν := ν) t)) (keyAction N k)
      (fun _ => On (AllSent (t.key k))) (On (PartSent (t.key k))) := by
    unfold keyAction
    split_ifs with henter hquit
    · rw [henter]
      exact ensures_bind (allSent_sendInput N t)
        (fun _ => ensures_pure (fun _ hc => hc))
    · rw [key_none t (Or.inr hquit)]
      exact ensures_pure (fun _ hc => hc)
    · have hedit : Ensures (On (AllSent (ν := ν) t)) (modifyApp (editKey k))
          (fun _ => On (AllSent (t.key k))) (On (PartSent (t.key k))) :=
        ensures_modify (fun _ hc => allSent_edit henter hc)
      exact ensures_bind hedit (fun _ => ensures_pure (fun _ hc => hc))
  exact ensures_bind hkey
    (fun _ => ensures_bind (allSent_returned (t.key k) .handleKey)
      (fun _ => ensures_pure (fun _ hc => hc)))

theorem allSent_turn (P : Platform) (N : Network ν) (t : Typing)
    (k : UInt16) :
    Ensures (On (AllSent (ν := ν) t)) (turn P N k)
      (fun _ => On (AllSent (t.key k))) (On (PartSent (t.key k))) := by
  have hpress : Ensures (On (AllSent (ν := ν) t)) (pressKey N k)
      (fun _ => On (AllSent (t.key k))) (On (PartSent (t.key k))) := by
    unfold pressKey
    split_ifs with hzero
    · rw [key_none t (Or.inl hzero)]
      exact ensures_pure (fun _ hc => hc)
    · exact allSent_handleKey N t k
  have hpoll := (allSent_app (ν := ν) (t.key k)).pollNet N P
    (fun net windowOpen _ trace hc =>
      ⟨hc.left, (payloadsOf_silent trace rfl).trans hc.right⟩)
  refine ensures_bind hpress (fun rc => ?_)
  split_ifs
  · exact ensures_pure (fun _ hc => hc)
  · exact ensures_bind hpoll (fun _ => ensures_pure (fun _ hc => hc))

theorem resetState_input (s : State) :
    (resetState s).screen.input = [] := by
  unfold resetState
  exact logLine_input _ _

theorem allSent_start {s : State} {trace : List (Event State ν)}
    (hinput : s.screen.input = []) (htrace : payloadsOf trace = []) :
    AllSent (typed []) s trace :=
  ⟨hinput, htrace⟩

/-- The keys that have been taken decide what has been sent. -/
theorem allSent_main (P : Platform) (N : Network ν) (keys : List UInt16)
    {c : Session State ν} (hstart : payloadsOf c.trace = []) :
    Outcome
      (fun _ c' => exists front, front <+: keys ∧
        AllSent (typed front) c'.app c'.trace)
      (fun c' => exists front, front <+: keys ∧
        PartSent (typed front) c'.app c'.trace)
      (main P N keys c) := by
  have hturn : forall front k,
      Ensures (On (AllSent (ν := ν) (typed front))) (turn P N k)
        (fun _ => On (AllSent (typed (front ++ [k]))))
        (On (PartSent (typed (front ++ [k])))) := by
    intro front k
    rw [typed_append]
    exact allSent_turn P N (typed front) k
  have hreset : On (AllSent (typed []))
      { c with app := resetState c.app, windowOpen := false } :=
    allSent_start (resetState_input c.app) hstart
  exact ensures_loop_front (fun front => On (AllSent (typed front)))
    (fun front => On (PartSent (typed front))) hturn keys [] _ hreset

theorem payloads_typed (P : Platform) (N : Network ν) (net : ν)
    (con : Console) (keys : List UInt16) :
    payloadsOf (ranMain P N net con keys).trace <+:
      (typed keys).lines.map lineBytes := by
  have hrun := allSent_main P N keys
    (c := Session.start (State.initial con) net) rfl
  unfold ranMain
  rcases hmain : main P N keys (Session.start (State.initial con) net) with
    ⟨_ | running, c⟩
  · rw [hmain] at hrun
    rcases hrun with ⟨front, hfront, hpart⟩
    exact hpart.mono (typed_lines_extend hfront)
  · rw [hmain] at hrun
    rcases hrun with ⟨front, hfront, _, hall⟩
    show payloadsOf c.trace <+: _
    rw [hall]
    exact List.IsPrefix.map lineBytes (typed_lines_extend hfront)

theorem typed_length (keys : List UInt16) {bytes : List UInt8}
    (h : bytes ∈ (typed keys).lines.map lineBytes) :
    bytes.length ≤ MAX_INPUT + 1 := by
  rcases List.mem_map.mp h with ⟨line, hline, rfl⟩
  rw [lineBytes, List.length_append]
  exact Nat.add_le_add_right ((typed_fits keys).lines line hline) 1

/-- In every run, whatever the connection does, the payloads that tcp_chat.c
passes to `tcp_send` are the first of the lines that the keys enter, in order and
each with its LF; none is longer than `input`. -/
theorem typed_lines_sent (P : Platform) (N : Network ν) (net : ν)
    (con : Console) (keys : List UInt16) :
    payloadsOf (ranMain P N net con keys).trace <+:
        (typed keys).lines.map lineBytes ∧
      forall bytes, bytes ∈ payloadsOf (ranMain P N net con keys).trace ->
        bytes.length ≤ MAX_INPUT + 1 := by
  have hsent := payloads_typed P N net con keys
  exact ⟨hsent, fun _ hbytes => typed_length keys (hsent.subset hbytes)⟩

end Chat
end Z80Tcpip
