import Z80Tcpip.Irc.CommandsBeside

/-!
# irc.c in memory does what irc.c on lists does

Whatever the connection brings and whatever is typed, from the first question to
the end of the run.
-/

namespace Z80Tcpip
namespace Irc

open Foundation
open Foundation.Program
open Foundation.Memory
open Client

variable {ν : Type}

namespace Machine

variable {K : List UInt8 -> ν -> Prop} {b : Buffer (MAX_INPUT + 2)}
  {r : List UInt8} {c : Session Machine ν} {d : Session State ν}
  {N : Network ν} {P : Platform} {m : Machine} {s : State}

/-!
## Keys
-/

theorem editKey_edits (k : UInt16) (h : Represents b r m s) :
    (if k = KEY_LEFT ∨ k = KEY_DELETE ∨ k = KEY_CTRL_DEL then deleteKey
      else typeKey k).Returns m (fun _ m' =>
        exists b' : Buffer (MAX_INPUT + 2),
          Represents b' r m' (editKey k s)) := by
  unfold editKey
  by_cases hdelete : k = KEY_LEFT ∨ k = KEY_DELETE ∨ k = KEY_CTRL_DEL
  · rw [if_pos hdelete, if_pos hdelete]
    exact (deleteKey_edits h).mono (fun _ _ hm' => ⟨b, hm'⟩)
  · rw [if_neg hdelete, if_neg hdelete]
    exact typeKey_edits k h

theorem quitKey_beside (hcounts : Counts N K) (h : Beside K b c d) :
    Mirrors
      (onApp (oStr (lit (ascii "QUIT :spectrum signing off"))) >>= fun _ =>
        Machine.oSend N) c
      (command N .typed [ascii "QUIT :spectrum signing off"] id) d
      (fun _ => Beside K b) (Stopped K) := by
  rcases h with ⟨r, hpairs⟩
  have hrep := hpairs.represents
  have htext : 0 ∉ ascii "QUIT :spectrum signing off" := by
    decide
  refine command_from (m := c.app) hcounts hpairs ?_
  refine (oStr_literal hrep.toUnderlies htext).mono (fun _ m1 hm1 => ?_)
  exact hm1.represents hrep rfl

theorem keyAction_together (hcounts : Counts N K) (k : UInt16)
    (h : Beside K b c d) :
    Mirrors (Machine.keyAction N k) c (Irc.keyAction N k) d
      (fun _ => Together K) (Stopped K) := by
  unfold Machine.keyAction Irc.keyAction
  by_cases henter : k = KEY_ENTER
  · rw [if_pos henter, if_pos henter]
    exact handleInputLine_beside hcounts h
  rw [if_neg henter, if_neg henter]
  by_cases hquit : k = KEY_QUIT
  · rw [if_pos hquit, if_pos hquit]
    refine Mirrors.of_eq ?_ (bind_assoc_apply _ _ _ c).symm rfl
    refine (quitKey_beside hcounts h).bind (fun _ c1 d1 h1 => ?_)
    exact mirrors_pure ⟨b, h1⟩
  · rw [if_neg hquit, if_neg hquit]
    rcases h with ⟨r, hpairs⟩
    refine (onApp_returns (editKey_edits k hpairs.represents)).bind_left
      (fun _ c1 hc1 => ?_)
    rcases hc1 with ⟨m', rfl, b', hrep⟩
    refine mirrors_right (modify_apply _ d) (mirrors_pure ?_)
    exact ⟨b', r, hpairs.withApp hrep⟩

theorem returned_together (h : Together K c d) (call : Call) :
    Mirrors (returned call) c (returned call) d (fun _ => Together K)
      (Stopped K) := by
  rcases h with ⟨b, h⟩
  exact (returned_beside h call).mono (fun _ _ _ h' => ⟨b, h'⟩)

theorem pressKey_together (hcounts : Counts N K) (k : UInt16)
    (h : Together K c d) :
    Mirrors (Machine.pressKey N k) c (Irc.pressKey N k) d
      (fun _ => Together K) (Stopped K) := by
  rcases h with ⟨b, hbeside⟩
  unfold Machine.pressKey Irc.pressKey
  by_cases hnone : k = 0
  · rw [if_pos hnone, if_pos hnone]
    exact mirrors_pure ⟨b, hbeside⟩
  · rw [if_neg hnone, if_neg hnone]
    unfold Machine.handleKey Irc.handleKey
    refine (keyAction_together hcounts k hbeside).bind (fun rc c1 d1 h1 => ?_)
    refine (returned_together h1 .handleKey).bind (fun _ c2 d2 h2 => ?_)
    exact mirrors_pure h2

/-!
## The loop
-/

theorem turn_together (hcounts : Counts N K) (k : UInt16)
    (h : Together K c d) :
    Mirrors (Machine.turn P N k) c (Irc.turn P N k) d (fun _ => Together K)
      (Stopped K) := by
  unfold Machine.turn Irc.turn
  refine (pressKey_together hcounts k h).bind (fun rc c1 d1 h1 => ?_)
  by_cases hquit : rc < 0
  · rw [if_pos hquit, if_pos hquit]
    exact mirrors_pure h1
  rw [if_neg hquit, if_neg hquit]
  rcases h1 with ⟨b1, h1⟩
  refine (pollNet_beside hcounts h1).bind (fun rc' c2 d2 h2 => ?_)
  by_cases hover : rc' < 0
  · rw [if_pos hover, if_pos hover]
    exact mirrors_pure ⟨b1, h2⟩
  · rw [if_neg hover, if_neg hover]
    refine (flushPending_beside hcounts h2).bind (fun _ c3 d3 h3 => ?_)
    exact mirrors_pure ⟨b1, h3⟩

theorem mainLoop_together (hcounts : Counts N K) (keys : List UInt16)
    (h : Together K c d) :
    Mirrors (Machine.mainLoop P N keys) c (Irc.mainLoop P N keys) d
      (fun _ => Together K) (Stopped K) :=
  mirrors_loop (fun k _ _ h' => turn_together hcounts k h') keys h

theorem reset_represents (h : Represents b [] m s) :
    reset.Returns m (fun _ m' => Represents b [] m' (resetState s)) := by
  have hcleared : Represents b []
      { m.putchar 12 with
        inputLen := 0
        rxlen := 0
        outLen := 0
        pongPending := false
        joinPending := false }
      { s with
        screen := { con := s.screen.con.putchar 12, input := [] }
        rxline := []
        out := []
        pongPending := false
        joinPending := false } :=
    { h with
      con := congrArg (fun con => con.putchar 12) h.con
      inputLen := Nat.zero_le _
      rxlen := Nat.zero_le _
      rxline := rfl
      unfinished := rfl
      outLen := Nat.zero_le _
      out := rfl
      pongPending := rfl
      joinPending := rfl
      typed := rfl
      typed_text := nofun }
  unfold reset
  refine returns_bind_of_eq (modify_apply _ _) ?_
  refine returns_bind_of_eq (modify_apply _ _) ?_
  exact literal_prints hcleared (by decide)

theorem register_builds (h : Represents b r m s) :
    register.Returns m (fun _ m' =>
      Represents b r m' ((registerPieces s).foldl Irc.oStr s)) := by
  unfold register
  refine (oStr_literal h.toUnderlies (by decide)).bind (fun _ m1 hm1 => ?_)
  refine (oStr_mynick hm1.underlies).bind (fun _ m2 hm2 => ?_)
  refine (oStr_literal hm2.underlies (by decide)).bind (fun _ m3 hm3 => ?_)
  refine (oStr_mynick hm3.underlies).bind (fun _ m4 hm4 => ?_)
  refine (oStr_literal hm4.underlies (by decide)).bind (fun _ m5 hm5 => ?_)
  refine (oStr_mynick hm5.underlies).mono (fun _ m6 hm6 => ?_)
  have h1 := hm1.represents h rfl
  have h3 := hm3.represents (hm2.represents h1 rfl) rfl
  have h5 := hm5.represents (hm4.represents h3 rfl) rfl
  exact hm6.represents h5 rfl

theorem startUp_beside (hcounts : Counts N K) (h : Pairs K b [] [] c d) :
    Mirrors (Machine.startUp N) c (Irc.startUp N) d (fun _ => Beside K b)
      (Stopped K) := by
  unfold Machine.startUp Irc.startUp
  refine mirrors_left (modify_apply _ c) ?_
  have hreset := reset_represents h.represents
  refine (onApp_returns (c := { c with windowOpen := false }) hreset).bind_left
    (fun _ c1 hc1 => ?_)
  rcases hc1 with ⟨m1, rfl, hrep⟩
  have hpairs : Pairs K b [] [] { c with windowOpen := false, app := m1 }
      (resetSession d) :=
    (h.withWindow false).withApp hrep
  refine mirrors_right (modify_apply _ d) ?_
  refine mirrors_right (get_apply _) ?_
  exact command_from (m := m1) hcounts hpairs (register_builds hrep)

theorem main_together (hcounts : Counts N K) (keys : List UInt16)
    (h : Pairs K b [] [] c d) :
    Mirrors (Machine.main P N keys) c (Irc.main P N keys) d
      (fun _ => Together K) (Stopped K) := by
  unfold Machine.main Irc.main
  refine (startUp_beside hcounts h).bind (fun _ c1 d1 h1 => ?_)
  exact mainLoop_together hcounts keys ⟨b, h1⟩

/-!
## The questions in front
-/

/-- A line is read into `line`, with `len` bytes so far. -/
theorem readLine_reads (keys : List UInt16) :
    forall {mem : Memory layout} {len : Nat} {buf : List UInt8},
      (mem.block .line).slice 0 len = buf -> len ≤ MAX_INPUT + 1 ->
        0 ∉ buf ->
          (readLine keys len).Returns mem (fun _ mem' =>
            SameBut .line mem mem' ∧ mem'.Holds (.block .line 0)
              (Irc.readLine (MAX_INPUT + 2) keys buf)) := by
  have hend : forall {mem : Memory layout} {len : Nat} {buf : List UInt8},
      (mem.block .line).slice 0 len = buf -> len ≤ MAX_INPUT + 1 ->
        0 ∉ buf ->
          (store (.block .line len) 0).Returns mem (fun _ mem' =>
            SameBut .line mem mem' ∧ mem'.Holds (.block .line 0) buf) := by
    intro mem len buf hbuf hlen htext
    have hsize : len < layout.size .line := Nat.lt_succ_of_le hlen
    refine returns_of_eq (store_nul hsize) ⟨sameBut_setBlock _ _ _, ?_⟩
    rw [holds_block, setBlock_self]
    exact Buffer.holdsAt_put hbuf htext hsize
  induction keys with
  | nil => exact fun hbuf hlen htext => hend hbuf hlen htext
  | cons k more ih =>
      intro mem len buf hbuf hlen htext
      have hsize : len < layout.size .line := Nat.lt_succ_of_le hlen
      unfold readLine Irc.readLine
      by_cases henter : k = KEY_ENTER
      · rw [if_pos henter, if_pos henter]
        exact hend hbuf hlen htext
      rw [if_neg henter, if_neg henter]
      by_cases hdelete : k = KEY_LEFT ∨ k = KEY_DELETE ∨ k = KEY_CTRL_DEL
      · rw [if_pos hdelete, if_pos hdelete]
        have hshort := (mem.block .line).slice_dropLast hsize
        rw [hbuf] at hshort
        exact ih hshort (Nat.le_trans (Nat.sub_le _ _) hlen)
          (fun hmem => htext ((List.dropLast_sublist _).subset hmem))
      have hlength : buf.length = len := by
        rw [<- hbuf, Buffer.slice_length _ (by omega)]
      rw [if_neg hdelete, if_neg hdelete, hlength]
      by_cases hkey : 32 ≤ k ∧ k < 127 ∧ len < MAX_INPUT + 2 - 1
      · rw [if_pos hkey, if_pos hkey]
        have hstore := store_block (m := mem) (c := k.toUInt8) hsize nofun
        have hlong := (mem.block .line).slice_put_next k.toUInt8 hsize
        rw [hbuf] at hlong
        have hmore : 0 ∉ buf ++ [k.toUInt8] := by
          intro hmem
          cases List.mem_append.mp hmem with
          | inl hold => exact htext hold
          | inr hnew =>
              exact toUInt8_ne_zero hkey.left hkey.right.left
                (List.mem_singleton.mp hnew).symm
        refine returns_bind_of_eq hstore ?_
        have hset : ((mem.setBlock .line
            ((mem.block .line).put len k.toUInt8)).block .line).slice 0
              (len + 1) = buf ++ [k.toUInt8] := by
          rw [setBlock_self, hlong]
        refine (ih hset hkey.right.right hmore).mono (fun _ mem' hmem' => ?_)
        exact ⟨(sameBut_setBlock _ _ _).trans hmem'.left, hmem'.right⟩
      · rw [if_neg hkey, if_neg hkey]
        exact ih hbuf hlen htext

/-- The first word of a line that is asked for. -/
def answer (keys : List UInt16) : List UInt8 :=
  (Irc.nextWord (Irc.readLine (MAX_INPUT + 2) keys [])).1

theorem answer_taken (keys : List UInt16) (h : Represents b r m s)
    {f : Ptr Var × Ptr Var -> Program (Memory layout) Unit}
    {post : Unit -> Memory layout -> Prop}
    (hf : forall (start cursor : Nat) (mem : Memory layout),
      Represents b r { m with mem := mem } s ->
        mem.Holds (.block .line start) (answer keys) ->
          (f (.block .line start, .block .line cursor)).Returns mem post) :
    (readLine keys 0 >>= fun _ =>
      InPlace.nextWord (.block .line 0) >>= f).Returns m.mem post := by
  have hread := readLine_reads keys
    (show (m.mem.block .line).slice 0 0 = [] from rfl) (Nat.zero_le _) nofun
  refine hread.bind (fun _ mem1 hmem1 => ?_)
  rcases hmem1 with ⟨hsame1, hline⟩
  refine (InPlace.nextWord_takes hline).bind (fun x mem2 hmem2 => ?_)
  rcases hmem2 with ⟨start, cursor, rfl, htakes⟩
  have hsame := hsame1.trans htakes.cut.sameBut
  exact hf start cursor mem2 (h.sameBut (Or.inr (Or.inl rfl)) hsame)
    htakes.taken

theorem askNick_asks (keys : List UInt16) (h : Represents b r m s) :
    (askNick keys).Returns m.mem (fun _ mem =>
      Represents b r { m with mem := mem }
        { s with mynick := Irc.strCopy (answer keys) (MAX_NICK + 1) }) := by
  refine answer_taken keys h (fun start cursor mem1 h1 hword => ?_)
  have hcopy := InPlace.strCopy_text
    (InPlace.apart_of_ne hword (w := .mynick) nofun) h1.mynick
  refine hcopy.mono (fun _ mem2 hmem2 => ?_)
  have hset := h1.toUnderlies.setMynick hmem2.left hmem2.right
  exact h1.of_underlies hset rfl rfl

/-- What is left of an answer for the channel. -/
def checkedChannel (chan : List UInt8) : List UInt8 :=
  if chan ≠ [] ∧ ¬ Irc.isChannel chan then [] else chan

/-- A channel that is no channel is dropped. -/
theorem checkChannel_checks {mem : Memory layout} {chan : List UInt8}
    (h : Represents b r { m with mem := mem } { s with curChan := chan }) :
    (do
      let c ← load (.block .curChan 0)
      if c ≠ 0 then do
        let channel ← InPlace.isChannel (.block .curChan 0)
        if channel = true then pure () else store (.block .curChan 0) 0
      else pure () : Program (Memory layout) Unit).Returns mem
        (fun _ mem' => Represents b r { m with mem := mem' }
          { s with curChan := checkedChannel chan }) := by
  have hholds : mem.Holds (.block .curChan 0) chan := h.curChan.holds
  unfold checkedChannel
  refine returns_bind_of_eq (load_holds hholds) ?_
  by_cases hempty : chan = []
  · rw [if_neg (fun hno => hno ((headD_eq_zero hholds.left).mpr hempty)),
      if_neg (fun hboth => hboth.left hempty)]
    exact returns_pure h
  rw [if_pos (fun hyes => hempty ((headD_eq_zero hholds.left).mp hyes))]
  refine returns_bind_of_eq (InPlace.isChannel_holds hholds) ?_
  by_cases hchannel : Irc.isChannel chan
  · rw [if_pos (decide_eq_true hchannel),
      if_neg (fun hboth => hboth.right hchannel)]
    exact returns_pure h
  · rw [if_neg (by rw [decide_eq_false hchannel]; decide),
      if_pos ⟨hempty, hchannel⟩]
    refine (store_clears h.curChan).mono (fun _ mem' hmem' => ?_)
    have hset := h.toUnderlies.setCurChan hmem'.left hmem'.right
    exact h.of_underlies hset rfl rfl

theorem askChannel_asks (keys : List UInt16) (h : Represents b r m s) :
    (askChannel keys).Returns m.mem (fun _ mem =>
      Represents b r { m with mem := mem }
        { s with
          curChan :=
            checkedChannel (Irc.strCopy (answer keys) (MAX_CHAN + 1)) }) := by
  refine answer_taken keys h (fun start cursor mem1 h1 hword => ?_)
  have hcopy := InPlace.strCopy_text
    (InPlace.apart_of_ne hword (w := .curChan) nofun) h1.curChan
  refine hcopy.bind (fun _ mem2 hmem2 => ?_)
  have hset := h1.toUnderlies.setCurChan hmem2.left hmem2.right
  exact checkChannel_checks (h1.of_underlies hset rfl rfl)

/-!
## The run
-/

theorem zeros_holdsText (n : Nat) : (zeros (n + 1)).HoldsText [] where
  text := nofun
  front := List.prefix_append [0] (List.replicate n 0)
  ends := by
    show ((List.replicate (n + 1) (0 : UInt8)).drop (n + 1 - 1)).take 1 = [0]
    rw [Nat.add_sub_cancel, List.drop_replicate, Nat.add_sub_cancel_left]
    rfl

theorem initial_represents (con : Console) :
    Represents (zeros (MAX_INPUT + 2)) [] (initial con)
      (State.prompted con [] []) where
  faults := rfl
  con := rfl
  emitN := rfl
  input := rfl
  inputLen := Nat.zero_le _
  rxlen := Nat.zero_le _
  rxline := rfl
  unfinished := rfl
  lines := rfl
  handled := rfl
  outLen := Nat.zero_le _
  out := rfl
  mynick := zeros_holdsText _
  curChan := zeros_holdsText _
  pongArg := zeros_holdsText _
  pongPending := rfl
  joinPending := rfl
  typed := rfl
  typed_text := nofun

theorem questions_asked (con : Console) (nickKeys chanKeys : List UInt16) :
    (do
      askNick nickKeys
      askChannel chanKeys).Returns (initial con).mem (fun _ mem =>
        Represents (zeros (MAX_INPUT + 2)) [] { initial con with mem := mem }
          (State.prompted con nickKeys chanKeys)) := by
  refine (askNick_asks nickKeys (initial_represents con)).bind
    (fun _ mem hmem => ?_)
  exact askChannel_asks chanKeys hmem

theorem program_together (hcounts : Counts N K) {net : ν} (hstart : K [] net)
    (con : Console) (nickKeys chanKeys keys : List UInt16) :
    Mirrors (program P N nickKeys chanKeys keys)
      (Session.start (initial con) net) (Irc.main P N keys)
      (Session.start (State.prompted con nickKeys chanKeys) net)
      (fun _ => Together K) (Stopped K) := by
  unfold program
  have hasked := questions_asked con nickKeys chanKeys
  refine (onApp_returns (c := Session.start (initial con) net)
    (onMem_returns hasked)).bind_left (fun _ c1 hc1 => ?_)
  rcases hc1 with ⟨m1, rfl, mem, rfl, hrep⟩
  have hpairs : Pairs K (zeros (MAX_INPUT + 2)) [] []
      { Session.start (initial con) net with
        app := { initial con with mem := mem } }
      (Session.start (State.prompted con nickKeys chanKeys) net) :=
    { represents := hrep
      counted := hstart
      net := rfl
      windowOpen := rfl
      reported := nofun }
  exact main_together hcounts keys hpairs

end Machine

/-- The program on the arrays ends beside the one on lists. -/
theorem ranMain_beside {K : List UInt8 -> ν -> Prop} {N : Network ν}
    (hcounts : Counts N K) (net : ν) (hstart : K [] net) (P : Platform)
    (con : Console) (nickKeys chanKeys keys : List UInt16) :
    Stopped K (Machine.ranMain P N net con nickKeys chanKeys keys)
      (ranMain P N net con nickKeys chanKeys keys) := by
  have hrun := Machine.program_together (P := P) hcounts hstart con nickKeys
    chanKeys keys
  unfold Machine.ranMain ranMain
  cases hrun with
  | inl hsome =>
      rcases hsome with ⟨_, c, d, hc, hd, b, hbeside⟩
      rw [hc, hd]
      exact hbeside.stopped
  | inr hnone =>
      rcases hnone with ⟨c, d, hc, hd, hstopped⟩
      rw [hc, hd]
      exact hstopped

/-!
## What follows for the arrays
-/

/-- No access has left its array, no scan has passed the NUL of its string, and
the strings of the client are NUL-terminated. -/
def Safe (m : Machine) : Prop :=
  m.mem.faults = [] ∧
    forall v : Var, layout.isText v = true -> 0 ∈ (m.mem.block v).bytes

/-- After the bytes `stream`: the lines that `handle_server_line` was called for,
as they stood in `rxline`, and the unfinished line. -/
def Reassembled (stream : List UInt8) (m : Machine) : Prop :=
  m.lines = (closedPieces 10 stream).map (fun piece => kept piece ++ [0]) ∧
    (m.mem.block .rxline).slice 0 m.rxlen = kept (openPiece 10 stream) ∧
      m.rxlen ≤ RX_LINE - 1

section Arrays

variable {b : Buffer (MAX_INPUT + 2)} {r : List UInt8} {m m' : Machine}
  {s : State}

theorem Represents.safe (h : Represents b r m s) : Safe m := by
  refine ⟨h.faults, ?_⟩
  intro v hv
  cases v with
  | mynick => exact Buffer.mem_of_ends h.mynick.ends
  | curChan => exact Buffer.mem_of_ends h.curChan.ends
  | pongArg => exact Buffer.mem_of_ends h.pongArg.ends
  | rxline => cases hv
  | out => cases hv
  | input => cases hv
  | row => cases hv
  | line => cases hv

theorem Represents.reassembled (h : Represents b r m s) :
    Reassembled r m :=
  ⟨h.lines, h.rxline.trans h.unfinished, h.rxlen⟩

theorem Safe.of_out (h : Safe m) (hsame : SameBut .out m.mem m'.mem) :
    Safe m' := by
  refine ⟨hsame.faults.trans h.left, ?_⟩
  intro v hv
  have hother : v ≠ .out := by
    intro heq
    rw [heq] at hv
    cases hv
  rw [hsame.other v hother]
  exact h.right v hv

theorem Reassembled.of_out (h : Reassembled r m)
    (hsame : SameBut .out m.mem m'.mem)
    (heq : m' = { m with mem := m'.mem, outLen := m'.outLen }) :
    Reassembled r m' := by
  have hlines : m'.lines = m.lines := by rw [heq]
  have hrxlen : m'.rxlen = m.rxlen := by rw [heq]
  unfold Reassembled
  rw [hlines, hrxlen, hsame.other .rxline nofun]
  exact h

/-- What holds of every memory that stands for a state, and does not depend on
`out`, holds throughout. -/
theorem Stopped.throughout {K : List UInt8 -> ν -> Prop}
    {Q : Machine -> ν -> Prop} {c : Session Machine ν} {d : Session State ν}
    (h : Stopped K c d)
    (hshows : forall (m : Machine) (net : ν), Shows K m net -> Q m net)
    (hout : forall (m m' : Machine) (net : ν), Q m net ->
      SameBut .out m.mem m'.mem ->
        m' = { m with mem := m'.mem, outLen := m'.outLen } -> Q m' net) :
    Throughout Q c := by
  rcases h with ⟨b, m, ⟨r, hpairs⟩, hsame, heq⟩
  constructor
  · have hshown : Q m c.net :=
      hshows m c.net ⟨b, r, d.app, hpairs.represents, hpairs.counted⟩
    exact hout m c.app c.net hshown hsame heq
  · intro call app net windowOpen hmem
    have hreported : Reported K (.returned call app net windowOpen) :=
      hpairs.reported _ hmem
    exact hshows app net hreported

end Arrays

/-- Whatever the server sends and whatever is typed, irc.c stays in its arrays
and its scans stay on their strings. -/
theorem arrays_stay_safe (P : Platform) (N : Network ν) (net : ν)
    (con : Console) (nickKeys chanKeys keys : List UInt16) :
    Throughout (fun m _ => Safe m)
      (Machine.ranMain P N net con nickKeys chanKeys keys) := by
  have hstopped := ranMain_beside (counts_nothing N) net trivial P
    con nickKeys chanKeys keys
  refine hstopped.throughout ?_ ?_
  · intro m net' hshows
    rcases hshows with ⟨b, r, s, hrep, _⟩
    exact hrep.safe
  · exact fun m m' net' hsafe hsame _ => hsafe.of_out hsame

/-- The lines depend on the bytes alone, not on how they were cut into segments
or which calls took them in. -/
theorem lines_of_stream (P : Platform) (N : Network ν) (net : ν)
    (con : Console) (nickKeys chanKeys keys : List UInt16) :
    Throughout (fun m x => Reassembled x.2 m)
      (Machine.ranMain P (recorded N) (net, []) con nickKeys chanKeys
        keys) := by
  have hstopped := ranMain_beside (counts_recorded N) (net, []) rfl P
    con nickKeys chanKeys keys
  refine hstopped.throughout ?_ ?_
  · intro m x hshows
    rcases hshows with ⟨b, r, s, hrep, hdata⟩
    rw [hdata]
    exact hrep.reassembled
  · exact fun m m' x hlines hsame heq => hlines.of_out hsame heq

/-!
## The arrays and the lists
-/

/-- The variables of irc.c show the state: the screen, the line being typed, the
unfinished line of the server, the strings of the client and what is pending. -/
structure ShowsState (m : Machine) (s : State) : Prop where
  con : m.con = s.screen.con
  typed : (m.mem.block .input).slice 0 m.inputLen = s.screen.input
  rxline : (m.mem.block .rxline).slice 0 m.rxlen = s.rxline
  mynick : (m.mem.block .mynick).HoldsText s.mynick
  curChan : (m.mem.block .curChan).HoldsText s.curChan
  pongArg : (m.mem.block .pongArg).HoldsText s.pongArg
  pongPending : m.pongPending = s.pongPending
  joinPending : m.joinPending = s.joinPending

theorem Represents.shows {b : Buffer (MAX_INPUT + 2)} {r : List UInt8}
    {m : Machine} {s : State} (h : Represents b r m s) : ShowsState m s where
  con := h.con.symm
  typed :=
    (congrArg (fun x => Buffer.slice x 0 m.inputLen) h.input).trans h.typed
  rxline := h.rxline
  mynick := h.mynick
  curChan := h.curChan
  pongArg := h.pongArg
  pongPending := h.pongPending.symm
  joinPending := h.joinPending.symm

theorem ShowsState.of_out {m m' : Machine} {s : State} (h : ShowsState m s)
    (hsame : SameBut .out m.mem m'.mem)
    (heq : m' = { m with mem := m'.mem, outLen := m'.outLen }) :
    ShowsState m' s := by
  have hcon : m'.con = m.con := by rw [heq]
  have hinputLen : m'.inputLen = m.inputLen := by rw [heq]
  have hrxlen : m'.rxlen = m.rxlen := by rw [heq]
  have hpong : m'.pongPending = m.pongPending := by rw [heq]
  have hjoin : m'.joinPending = m.joinPending := by rw [heq]
  exact
    { con := hcon.trans h.con
      typed := by
        rw [hinputLen, hsame.other .input nofun]
        exact h.typed
      rxline := by
        rw [hrxlen, hsame.other .rxline nofun]
        exact h.rxline
      mynick := holdsText_same h.mynick (hsame.other .mynick nofun)
      curChan := holdsText_same h.curChan (hsame.other .curChan nofun)
      pongArg := holdsText_same h.pongArg (hsame.other .pongArg nofun)
      pongPending := hpong.trans h.pongPending
      joinPending := hjoin.trans h.joinPending }

/-- Whatever the connection does and whatever is typed, the program on its
arrays leaves what the program on lists leaves: the connection in the same
state, the same window flag, screen and variables. -/
theorem arrays_show_lists (P : Platform) (N : Network ν) (net : ν)
    (con : Console) (nickKeys chanKeys keys : List UInt16) :
    (Machine.ranMain P N net con nickKeys chanKeys keys).net =
        (ranMain P N net con nickKeys chanKeys keys).net ∧
      (Machine.ranMain P N net con nickKeys chanKeys keys).windowOpen =
        (ranMain P N net con nickKeys chanKeys keys).windowOpen ∧
      ShowsState (Machine.ranMain P N net con nickKeys chanKeys keys).app
        (ranMain P N net con nickKeys chanKeys keys).app := by
  rcases ranMain_beside (counts_nothing N) net trivial P con nickKeys chanKeys
    keys with ⟨b, m, ⟨r, hpairs⟩, hsame, heq⟩
  exact ⟨hpairs.net, hpairs.windowOpen,
    hpairs.represents.shows.of_out hsame heq⟩

end Irc
end Z80Tcpip
