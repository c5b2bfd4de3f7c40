import Z80Tcpip.Irc.Beside

/-!
# Typed lines, side by side

`handle_input_line` on the arrays and on lists.  The command is cut out of
`input` in place: from there to the `clear_input` of its branch the line being
typed is in pieces, and all that counts is which strings stand where.
-/

namespace Z80Tcpip
namespace Irc

open Foundation
open Foundation.Program
open Foundation.Memory
open Client

variable {ν α : Type}

/-- What `handle_input_line` does, for what it makes of the line. -/
def perform (N : Network ν) : Typed -> Program (Session State ν) Int
  | .reply answer => do
      modifyApp answer
      pure 0
  | .send pieces before after quits => do
      command N .typed pieces before
      modifyApp after
      pure (if quits = true then -1 else 0)

theorem handleInputLine_performs (N : Network ν) (d : Session State ν) :
    Irc.handleInputLine N d = perform N (inputAction d.app) d := by
  unfold Irc.handleInputLine perform
  refine (get_bind_apply _ d).trans ?_
  cases inputAction d.app with
  | reply answer => rfl
  | send pieces before after quits => rfl

/-- The line being typed is in pieces, the rest is as it should be. -/
structure Cut (K : List UInt8 -> ν -> Prop) (b : Buffer (MAX_INPUT + 2))
    (r : List UInt8) (c : Session Machine ν) (d : Session State ν) :
    Prop where
  underlies : Underlies b r c.app d.app
  linked : exists (b' : Buffer (MAX_INPUT + 2)) (m : Machine),
    Pairs K b' r r { c with app := m } d

def Together (K : List UInt8 -> ν -> Prop) (c : Session Machine ν)
    (d : Session State ν) : Prop :=
  exists b : Buffer (MAX_INPUT + 2), Beside K b c d

namespace Machine

variable {K : List UInt8 -> ν -> Prop} {b : Buffer (MAX_INPUT + 2)}
  {r : List UInt8} {c : Session Machine ν} {d : Session State ν}
  {N : Network ν} {arg : Nat} {t : List UInt8}

theorem cut_of_pairs (h : Pairs K b r r c d) : Cut K b r c d :=
  ⟨h.represents.toUnderlies, b, c.app, h⟩

/-- A part that cuts the line. -/
theorem onInput_cut (h : Cut K b r c d) {p : Program (Memory layout) α}
    {post : α -> Memory layout -> Prop} (hp : p.Returns c.app.mem post)
    (hsame : forall (a : α) (mem : Memory layout), post a mem ->
      SameBut .input c.app.mem mem) :
    (onVars p : Program (Session Machine ν) α).Returns c (fun a c' =>
      Cut K (c'.app.mem.block .input) r c' d ∧ post a c'.app.mem) := by
  refine (onApp_returns (onMem_returns hp)).mono (fun a c' hc' => ?_)
  rcases hc' with ⟨m', rfl, mem, rfl, hpost⟩
  exact ⟨⟨h.underlies.setInput (hsame a mem hpost), h.linked⟩, hpost⟩

/-!
## The ways to end a command
-/

theorem reply_beside (h : Cut K b r c d) {p : Program Machine Unit}
    {answer : State -> State}
    (hp : p.Returns c.app (fun _ m' => Represents b r m' (answer d.app))) :
    Mirrors (onApp p >>= fun _ => pure 0) c (perform N (.reply answer)) d
      (fun _ => Together K) (Stopped K) := by
  rcases h.linked with ⟨b', m, hpairs⟩
  refine (onApp_from hpairs hp).bind (fun _ c1 d1 h1 => ?_)
  exact mirrors_pure ⟨b, h1⟩

theorem usage_beside (h : Cut K b r c d) {text : String}
    (htext : 0 ∉ ascii text) :
    Mirrors (Machine.usage text) c (perform N (Irc.usage text)) d
      (fun _ => Together K) (Stopped K) := by
  refine reply_beside h ?_
  refine (clearInput_prints h.underlies).bind (fun _ m1 hm1 => ?_)
  exact (logLine_prints hm1.left (holds_literal _ htext)).mono
    (fun _ _ hm' => hm'.left)

/-- The line is built, `modify` is what else is done in front of `o_send`. -/
theorem submit_beside (hcounts : Counts N K) (h : Cut K b r c d)
    (modify : State -> State) {build : Program Machine Unit}
    {pieces : List (List UInt8)}
    (hbuild : build.Returns c.app (fun _ m' =>
      Underlies b r m' (modify (pieces.foldl Irc.oStr d.app)))) :
    Mirrors (submit N build) c
      (command N .typed pieces (fun s => Irc.clearInput (modify s))) d
      (fun _ => Beside K b) (Stopped K) := by
  rcases h.linked with ⟨b', m, hpairs⟩
  refine command_from hcounts hpairs ?_
  refine hbuild.bind (fun _ m1 hm1 => ?_)
  exact (clearInput_prints hm1).mono (fun _ _ hm' => hm'.left)

/-- A command after which nothing is echoed. -/
theorem silent_beside (hcounts : Counts N K) (h : Cut K b r c d)
    (modify : State -> State) (quits : Bool) {build : Program Machine Unit}
    {pieces : List (List UInt8)}
    (hbuild : build.Returns c.app (fun _ m' =>
      Underlies b r m' (modify (pieces.foldl Irc.oStr d.app)))) :
    Mirrors
      (submit N build >>= fun _ => pure (if quits = true then -1 else 0)) c
      (perform N (.send pieces (fun s => Irc.clearInput (modify s)) id quits))
      d (fun _ => Together K) (Stopped K) := by
  refine (submit_beside hcounts h modify hbuild).bind (fun _ c1 d1 h1 => ?_)
  exact mirrors_right rfl (mirrors_pure ⟨b, h1⟩)

/-- A command that is echoed; its strings are still in `input`. -/
theorem echoed_beside (hcounts : Counts N K) (h : Cut K b r c d)
    {build echo : Program Machine Unit} {pieces : List (List UInt8)}
    {after : State -> State}
    (hbuild : build.Returns c.app (fun _ m' =>
      Underlies b r m' (pieces.foldl Irc.oStr d.app)))
    (hecho : forall (r' : List UInt8) (m' : Machine) (s' : State),
      Represents b r' m' s' -> echo.Returns m' (fun _ m'' =>
        Represents b r' m'' (after s'))) :
    Mirrors (submit N build >>= fun _ => onApp echo >>= fun _ => pure 0) c
      (perform N (.send pieces Irc.clearInput after false)) d
      (fun _ => Together K) (Stopped K) := by
  refine (submit_beside hcounts h id hbuild).bind (fun _ c1 d1 h1 => ?_)
  have happ := onApp_beside (f := after) h1
    (fun r' hrep => hecho r' c1.app d1.app hrep)
  exact happ.bind (fun _ c2 d2 h2 => mirrors_pure ⟨b, h2⟩)

/-!
## The commands
-/

theorem chan_loaded (h : Cut K b r c d) :
    (onVars (load (.block .curChan 0)) : Program (Session Machine ν) UInt8) c =
      (some (d.app.curChan.headD 0), c) :=
  load_curChan h.underlies.curChan

theorem chan_eq_zero (h : Cut K b r c d) :
    d.app.curChan.headD 0 = 0 <-> d.app.curChan = [] :=
  headD_eq_zero h.underlies.curChan.holds.left

theorem arg_loaded (h : Cut K b r c d) (ht : b.HoldsAt arg t) :
    (onVars (peek (.block .input arg) 0) :
        Program (Session Machine ν) UInt8) c = (some (t.headD 0), c) :=
  onVars_of_eq (peek_zero (holds_input h.underlies ht))

theorem arg_eq_zero (ht : b.HoldsAt arg t) : t.headD 0 = 0 <-> t = [] :=
  headD_eq_zero ht.left

theorem say_beside (hcounts : Counts N K) (h : Pairs K b r r c d)
    (ht : b.HoldsAt 0 t) :
    Mirrors (say N) c (perform N (sayAction t d.app)) d
      (fun _ => Together K) (Stopped K) := by
  have hcut := cut_of_pairs h
  unfold say sayAction
  refine mirrors_left (chan_loaded hcut) ?_
  by_cases hchan : d.app.curChan = []
  · rw [if_pos ((chan_eq_zero hcut).mpr hchan), if_pos hchan]
    have htext :
        0 ∉ ascii "*** you are not on a channel, try /join #chan" := by
      decide
    refine reply_beside hcut ?_
    refine (logLine_prints h.represents (holds_literal _ htext)).bind
      (fun _ m1 hm1 => ?_)
    exact (clearInput_prints hm1.left.toUnderlies).mono
      (fun _ _ hm' => hm'.left)
  · rw [if_neg (fun hno => hchan ((chan_eq_zero hcut).mp hno)),
      if_neg hchan]
    refine echoed_beside hcounts hcut ?_ (fun r' m' s' hrep => ?_)
    · refine (oStr_literal hcut.underlies (by decide)).bind
        (fun _ m1 hm1 => ?_)
      refine (oStr_curChan hm1.underlies).bind (fun _ m2 hm2 => ?_)
      refine (oStr_literal hm2.underlies (by decide)).bind (fun _ m3 hm3 => ?_)
      exact (oStr_input hm3.underlies ht).mono (fun _ _ hm' => hm'.underlies)
    · have hprints := logLine4_prints hrep
        (holds_literal _ (show 0 ∉ ascii "<" by decide)) hrep.mynick.holds
        (holds_literal _ (show 0 ∉ ascii "> " by decide))
        (holds_input hrep.toUnderlies ht)
      exact hprints.mono (fun _ _ hm' => hm'.left)

/-- A word of the line being typed. -/
theorem nextWord_cut (h : Cut K b r c d) (ht : b.HoldsAt arg t) :
    (onVars (InPlace.nextWord (.block .input arg)) :
        Program (Session Machine ν) (Ptr Var × Ptr Var)).Returns c (fun x c' =>
      exists (b' : Buffer (MAX_INPUT + 2)) (start cursor : Nat),
        x = (.block .input start, .block .input cursor) ∧ Cut K b' r c' d ∧
          b'.HoldsAt start (Irc.nextWord t).1 ∧
          b'.HoldsAt cursor (Irc.nextWord t).2) := by
  have hword := InPlace.nextWord_takes (holds_input h.underlies ht)
  refine (onInput_cut h hword ?_).mono (fun x c' hc' => ?_)
  · intro x mem hx
    rcases hx with ⟨start, cursor, _, htakes⟩
    exact htakes.cut.sameBut
  · rcases hc' with ⟨hcut, start, cursor, hx, htakes⟩
    exact ⟨c'.app.mem.block .input, start, cursor, hx, hcut, htakes.taken,
      htakes.left⟩

theorem join_beside (hcounts : Counts N K) (h : Cut K b r c d)
    (ht : b.HoldsAt arg t) :
    Mirrors (joinCommand N (.block .input arg)) c
      (perform N (joinAction t)) d (fun _ => Together K) (Stopped K) := by
  have hholds := holds_input h.underlies ht
  unfold joinCommand joinAction
  refine mirrors_left (onVars_of_eq (InPlace.isChannel_holds hholds)) ?_
  by_cases hchannel : Irc.isChannel t
  · rw [decide_eq_true hchannel, if_neg (by decide),
      if_neg (fun hno => hno hchannel)]
    refine (nextWord_cut h ht).bind_left (fun x c1 hc1 => ?_)
    rcases hc1 with ⟨b1, start, cursor, rfl, h1, hword, _⟩
    refine silent_beside hcounts h1 (fun s =>
      { s with curChan := Irc.strCopy (Irc.nextWord t).1 (MAX_CHAN + 1) })
      false ?_
    have hcopy := InPlace.strCopy_text (InPlace.apart_of_ne
      (holds_input h1.underlies hword) (w := .curChan) nofun)
      h1.underlies.curChan
    refine (onMem_returns hcopy).bind (fun _ m2 hm2 => ?_)
    rcases hm2 with ⟨mem, rfl, hsame, hnew⟩
    have hset := h1.underlies.setCurChan hsame hnew
    refine (oStr_literal hset (by decide)).bind (fun _ m3 hm3 => ?_)
    exact (oStr_curChan hm3.underlies).mono (fun _ _ hm' => hm'.underlies)
  · rw [decide_eq_false hchannel, if_pos rfl, if_pos hchannel]
    exact usage_beside h (by decide)

theorem part_beside (hcounts : Counts N K) (h : Cut K b r c d)
    (ht : b.HoldsAt arg t) :
    Mirrors (partCommand N (.block .input arg)) c
      (perform N (partAction t d.app)) d (fun _ => Together K)
      (Stopped K) := by
  unfold partCommand partAction
  refine mirrors_left (chan_loaded h) ?_
  by_cases hchan : d.app.curChan = []
  · rw [if_pos ((chan_eq_zero h).mpr hchan), if_pos hchan]
    exact usage_beside h (by decide)
  · rw [if_neg (fun hno => hchan ((chan_eq_zero h).mp hno)), if_neg hchan]
    refine silent_beside hcounts h (fun s => { s with curChan := [] }) false ?_
    refine (oStr_literal h.underlies (by decide)).bind (fun _ m1 hm1 => ?_)
    refine (oStr_curChan hm1.underlies).bind (fun _ m2 hm2 => ?_)
    refine (oTrailing_builds hm2.underlies ht).bind (fun _ m3 hm3 => ?_)
    have hclears := store_clears hm3.underlies.curChan
    refine (onMem_returns hclears).mono (fun _ m4 hm4 => ?_)
    rcases hm4 with ⟨mem, rfl, hsame, hnew⟩
    exact hm3.underlies.setCurChan hsame hnew

theorem nick_beside (hcounts : Counts N K) (h : Cut K b r c d)
    (ht : b.HoldsAt arg t) :
    Mirrors (nickCommand N (.block .input arg)) c
      (perform N (nickAction t)) d (fun _ => Together K) (Stopped K) := by
  unfold nickCommand nickAction
  refine mirrors_left (arg_loaded h ht) ?_
  by_cases hempty : t = []
  · rw [if_pos ((arg_eq_zero ht).mpr hempty), if_pos hempty]
    exact usage_beside h (by decide)
  · rw [if_neg (fun hno => hempty ((arg_eq_zero ht).mp hno)), if_neg hempty]
    refine silent_beside hcounts h id false ?_
    refine (oStr_literal h.underlies (by decide)).bind (fun _ m1 hm1 => ?_)
    exact (oStr_input hm1.underlies ht).mono (fun _ _ hm' => hm'.underlies)

theorem msg_beside (hcounts : Counts N K) (h : Cut K b r c d)
    (ht : b.HoldsAt arg t) :
    Mirrors (msgCommand N (.block .input arg)) c
      (perform N (msgAction t)) d (fun _ => Together K) (Stopped K) := by
  unfold msgCommand msgAction
  refine (nextWord_cut h ht).bind_left (fun x c1 hc1 => ?_)
  rcases hc1 with ⟨b1, start, cursor, rfl, h1, hdest, harg⟩
  rcases hword : Irc.nextWord t with ⟨dest, rest⟩
  rw [hword] at hdest harg
  have hiff := or_congr (arg_eq_zero hdest) (arg_eq_zero harg)
  refine mirrors_left (arg_loaded h1 hdest) ?_
  refine mirrors_left (arg_loaded h1 harg) ?_
  dsimp only at hiff ⊢
  by_cases hempty : dest = [] ∨ rest = []
  · rw [if_pos (hiff.mpr hempty), if_pos hempty]
    exact usage_beside h1 (by decide)
  · rw [if_neg (fun hno => hempty (hiff.mp hno)), if_neg hempty]
    refine echoed_beside hcounts h1 ?_ (fun r' m' s' hrep => ?_)
    · refine (oStr_literal h1.underlies (by decide)).bind (fun _ m2 hm2 => ?_)
      refine (oStr_input hm2.underlies hdest).bind (fun _ m3 hm3 => ?_)
      refine (oStr_literal hm3.underlies (by decide)).bind (fun _ m4 hm4 => ?_)
      exact (oStr_input hm4.underlies harg).mono
        (fun _ _ hm' => hm'.underlies)
    · have hprints := logLine4_prints hrep
        (holds_literal _ (show 0 ∉ ascii ">" by decide))
        (holds_input hrep.toUnderlies hdest)
        (holds_literal _ (show 0 ∉ ascii "< " by decide))
        (holds_input hrep.toUnderlies harg)
      exact hprints.mono (fun _ _ hm' => hm'.left)

theorem me_beside (hcounts : Counts N K) (h : Cut K b r c d)
    (ht : b.HoldsAt arg t) :
    Mirrors (meCommand N (.block .input arg)) c
      (perform N (meAction t d.app)) d (fun _ => Together K)
      (Stopped K) := by
  unfold meCommand meAction
  refine mirrors_left (chan_loaded h) ?_
  refine mirrors_left (arg_loaded h ht) ?_
  have hiff := or_congr (chan_eq_zero h) (arg_eq_zero ht)
  by_cases hempty : d.app.curChan = [] ∨ t = []
  · rw [if_pos (hiff.mpr hempty), if_pos hempty]
    exact usage_beside h (by decide)
  · rw [if_neg (fun hno => hempty (hiff.mp hno)), if_neg hempty]
    refine echoed_beside hcounts h ?_ (fun r' m' s' hrep => ?_)
    · refine (oStr_literal h.underlies (by decide)).bind (fun _ m1 hm1 => ?_)
      refine (oStr_curChan hm1.underlies).bind (fun _ m2 hm2 => ?_)
      refine (oStr_literal hm2.underlies (by decide)).bind (fun _ m3 hm3 => ?_)
      refine (oStr_input hm3.underlies ht).bind (fun _ m4 hm4 => ?_)
      exact (oStr_literal hm4.underlies (by decide)).mono
        (fun _ _ hm' => hm'.underlies)
    · have hprints := logLine4_prints hrep
        (holds_literal _ (show 0 ∉ ascii "* " by decide)) hrep.mynick.holds
        (holds_literal _ (show 0 ∉ ascii " " by decide))
        (holds_input hrep.toUnderlies ht)
      exact hprints.mono (fun _ _ hm' => hm'.left)

theorem names_beside (hcounts : Counts N K) (h : Cut K b r c d)
    (ht : b.HoldsAt arg t) :
    Mirrors (namesCommand N (.block .input arg)) c
      (perform N (namesAction t d.app)) d (fun _ => Together K)
      (Stopped K) := by
  unfold namesCommand namesAction
  refine mirrors_left (arg_loaded h ht) ?_
  refine mirrors_left (chan_loaded h) ?_
  have hiff := and_congr (arg_eq_zero ht) (chan_eq_zero h)
  by_cases hempty : t = [] ∧ d.app.curChan = []
  · rw [if_pos (hiff.mpr hempty), if_pos hempty]
    exact usage_beside h (by decide)
  · rw [if_neg (fun hno => hempty (hiff.mp hno)), if_neg hempty]
    refine silent_beside hcounts h id false ?_
    refine (oStr_literal h.underlies (by decide)).bind (fun _ m1 hm1 => ?_)
    by_cases harg : t = []
    · rw [if_neg (fun hno => hno ((arg_eq_zero ht).mpr harg)),
        if_neg (fun hno => hno harg)]
      exact (oStr_curChan hm1.underlies).mono (fun _ _ hm' => hm'.underlies)
    · rw [if_pos (fun hyes => harg ((arg_eq_zero ht).mp hyes)), if_pos harg]
      exact (oStr_input hm1.underlies ht).mono (fun _ _ hm' => hm'.underlies)

theorem topic_beside (hcounts : Counts N K) (h : Cut K b r c d)
    (ht : b.HoldsAt arg t) :
    Mirrors (topicCommand N (.block .input arg)) c
      (perform N (topicAction t d.app)) d (fun _ => Together K)
      (Stopped K) := by
  unfold topicCommand topicAction
  refine mirrors_left (chan_loaded h) ?_
  by_cases hchan : d.app.curChan = []
  · rw [if_pos ((chan_eq_zero h).mpr hchan), if_pos hchan]
    exact usage_beside h (by decide)
  · rw [if_neg (fun hno => hchan ((chan_eq_zero h).mp hno)), if_neg hchan]
    refine silent_beside hcounts h id false ?_
    refine (oStr_literal h.underlies (by decide)).bind (fun _ m1 hm1 => ?_)
    refine (oStr_curChan hm1.underlies).bind (fun _ m2 hm2 => ?_)
    exact (oTrailing_builds hm2.underlies ht).mono
      (fun _ _ hm' => hm'.underlies)

theorem raw_beside (hcounts : Counts N K) (h : Cut K b r c d)
    (ht : b.HoldsAt arg t) :
    Mirrors (rawCommand N (.block .input arg)) c
      (perform N (rawAction t)) d (fun _ => Together K) (Stopped K) := by
  unfold rawCommand rawAction
  refine mirrors_left (arg_loaded h ht) ?_
  by_cases hempty : t = []
  · rw [if_pos ((arg_eq_zero ht).mpr hempty), if_pos hempty]
    exact usage_beside h (by decide)
  · rw [if_neg (fun hno => hempty ((arg_eq_zero ht).mp hno)), if_neg hempty]
    refine silent_beside hcounts h id false ?_
    exact (oStr_input h.underlies ht).mono (fun _ _ hm' => hm'.underlies)

theorem quit_beside (hcounts : Counts N K) (h : Cut K b r c d)
    (ht : b.HoldsAt arg t) :
    Mirrors (quitCommand N (.block .input arg)) c
      (perform N (quitAction t)) d (fun _ => Together K) (Stopped K) := by
  unfold quitCommand quitAction
  refine mirrors_left (arg_loaded h ht) ?_
  refine silent_beside hcounts h id true ?_
  refine (oStr_literal h.underlies (by decide)).bind (fun _ m1 hm1 => ?_)
  by_cases hempty : t = []
  · rw [if_neg (fun hno => hno ((arg_eq_zero ht).mpr hempty)),
      if_neg (fun hno => hno hempty)]
    exact (oStr_literal hm1.underlies (by decide)).mono
      (fun _ _ hm' => hm'.underlies)
  · rw [if_pos (fun hyes => hempty ((arg_eq_zero ht).mp hyes)),
      if_pos hempty]
    exact (oStr_input hm1.underlies ht).mono (fun _ _ hm' => hm'.underlies)

theorem literal_prints {m : Machine} {s : State} (h : Represents b r m s)
    {text : String} (htext : 0 ∉ ascii text) :
    (logLine (lit (ascii text))).Returns m (fun _ m' =>
      Represents b r m' (Irc.logLine (ascii text) s)) :=
  (logLine_prints h (holds_literal _ htext)).mono (fun _ _ hm' => hm'.left)

theorem help_beside (h : Cut K b r c d) :
    Mirrors helpCommand c
      (perform N (.reply (fun s => Irc.help (Irc.clearInput s)))) d
      (fun _ => Together K) (Stopped K) := by
  refine reply_beside h ?_
  refine (clearInput_prints h.underlies).bind (fun _ m1 hm1 => ?_)
  refine (literal_prints hm1.left (by decide)).bind (fun _ m2 hm2 => ?_)
  refine (literal_prints hm2 (by decide)).bind (fun _ m3 hm3 => ?_)
  refine (literal_prints hm3 (by decide)).bind (fun _ m4 hm4 => ?_)
  exact literal_prints hm4 (by decide)

theorem noCommand_beside (h : Cut K b r c d) (ht : b.HoldsAt arg t) :
    Mirrors (noCommand (.block .input arg)) c
      (perform N (.reply (fun s => Irc.logLine2
        (ascii "*** no such command, try /help: /") t (Irc.clearInput s)))) d
      (fun _ => Together K) (Stopped K) := by
  have htext : 0 ∉ ascii "*** no such command, try /help: /" := by
    decide
  refine reply_beside h ?_
  refine (clearInput_prints h.underlies).bind (fun _ m1 hm1 => ?_)
  have hprints := logLine2_prints hm1.left (holds_literal _ htext)
    (holds_input hm1.left.toUnderlies ht)
  exact hprints.mono (fun _ _ hm' => hm'.left)

/-!
## The whole line
-/

theorem ifSame_beside (h : Cut K b r c d) (ht : b.HoldsAt arg t)
    {name : String} (hname : 0 ∉ ascii name)
    {yes no : Program (Session Machine ν) Int}
    {q : Program (Session State ν) Int}
    (hyes : Irc.same t (ascii name) ->
      Mirrors yes c q d (fun _ => Together K) (Stopped K))
    (hno : ¬ Irc.same t (ascii name) ->
      Mirrors no c q d (fun _ => Together K) (Stopped K)) :
    Mirrors (ifSame (.block .input arg) name yes no) c q d
      (fun _ => Together K) (Stopped K) := by
  have hequal : compare lower (.block .input arg) (lit (ascii name))
      c.app.mem =
        (some (decide (Irc.same t (ascii name))), c.app.mem) :=
    compare_holds lower_eq_zero (holds_input h.underlies ht)
      (holds_literal _ hname)
  unfold ifSame
  refine mirrors_left (onVars_of_eq hequal) ?_
  by_cases hsame : Irc.same t (ascii name)
  · rw [if_pos (decide_eq_true hsame)]
    exact hyes hsame
  · rw [if_neg (by rw [decide_eq_false hsame]; decide)]
    exact hno hsame

theorem runCommand_beside (hcounts : Counts N K) (h : Cut K b r c d)
    {cmdAt : Nat} {cmd : List UInt8} (hcmd : b.HoldsAt cmdAt cmd)
    (harg : b.HoldsAt arg t) :
    Mirrors (runCommand N (.block .input cmdAt) (.block .input arg)) c
      (perform N (commandAction cmd t d.app)) d (fun _ => Together K)
      (Stopped K) := by
  unfold runCommand commandAction
  refine ifSame_beside h hcmd (by decide) (fun hhelp => ?_) (fun hhelp => ?_)
  · rw [if_pos (Or.inl hhelp)]
    exact help_beside h
  refine ifSame_beside h hcmd (by decide) (fun hh' => ?_) (fun hh' => ?_)
  · rw [if_pos (Or.inr hh')]
    exact help_beside h
  rw [if_neg (not_or.mpr ⟨hhelp, hh'⟩)]
  refine ifSame_beside h hcmd (by decide) (fun hjoin => ?_) (fun hjoin => ?_)
  · rw [if_pos (Or.inl hjoin)]
    exact join_beside hcounts h harg
  refine ifSame_beside h hcmd (by decide) (fun hj' => ?_) (fun hj' => ?_)
  · rw [if_pos (Or.inr hj')]
    exact join_beside hcounts h harg
  rw [if_neg (not_or.mpr ⟨hjoin, hj'⟩)]
  refine ifSame_beside h hcmd (by decide) (fun hpart => ?_) (fun hpart => ?_)
  · rw [if_pos hpart]
    exact part_beside hcounts h harg
  rw [if_neg hpart]
  refine ifSame_beside h hcmd (by decide) (fun hnick => ?_) (fun hnick => ?_)
  · rw [if_pos hnick]
    exact nick_beside hcounts h harg
  rw [if_neg hnick]
  refine ifSame_beside h hcmd (by decide) (fun hmsg => ?_) (fun hmsg => ?_)
  · rw [if_pos (Or.inl hmsg)]
    exact msg_beside hcounts h harg
  refine ifSame_beside h hcmd (by decide) (fun hm' => ?_) (fun hm' => ?_)
  · rw [if_pos (Or.inr hm')]
    exact msg_beside hcounts h harg
  rw [if_neg (not_or.mpr ⟨hmsg, hm'⟩)]
  refine ifSame_beside h hcmd (by decide) (fun hme => ?_) (fun hme => ?_)
  · rw [if_pos hme]
    exact me_beside hcounts h harg
  rw [if_neg hme]
  refine ifSame_beside h hcmd (by decide) (fun hnames => ?_) (fun hnames => ?_)
  · rw [if_pos hnames]
    exact names_beside hcounts h harg
  rw [if_neg hnames]
  refine ifSame_beside h hcmd (by decide) (fun htopic => ?_) (fun htopic => ?_)
  · rw [if_pos htopic]
    exact topic_beside hcounts h harg
  rw [if_neg htopic]
  refine ifSame_beside h hcmd (by decide) (fun hraw => ?_) (fun hraw => ?_)
  · rw [if_pos (Or.inl hraw)]
    exact raw_beside hcounts h harg
  refine ifSame_beside h hcmd (by decide) (fun hquote' => ?_) (fun hquote' => ?_)
  · rw [if_pos (Or.inr hquote')]
    exact raw_beside hcounts h harg
  rw [if_neg (not_or.mpr ⟨hraw, hquote'⟩)]
  refine ifSame_beside h hcmd (by decide) (fun hquit => ?_) (fun hquit => ?_)
  · rw [if_pos hquit]
    exact quit_beside hcounts h harg
  rw [if_neg hquit]
  exact noCommand_beside h hcmd

theorem endInput_run (h : Represents b r c.app d.app) :
    (onVars (store (.block .input c.app.inputLen) 0) :
        Program (Session Machine ν) Unit) c =
      (some (), { c with
        app := { c.app with
          mem := c.app.mem.setBlock .input (b.put c.app.inputLen 0) } }) :=
  onApp_run (store_input h.toUnderlies 0)

theorem handleInputLine_beside (hcounts : Counts N K)
    (h : Beside K b c d) :
    Mirrors (Machine.handleInputLine N) c (Irc.handleInputLine N) d
      (fun _ => Together K) (Stopped K) := by
  rcases h with ⟨r, hpairs⟩
  have hrep := hpairs.represents
  refine Mirrors.of_eq ?_ rfl (handleInputLine_performs N d)
  unfold Machine.handleInputLine inputAction
  refine mirrors_left (get_apply c) ?_
  by_cases hempty : d.app.screen.input = []
  · rw [if_pos ((inputLen_eq_zero hrep).mpr hempty), if_pos hempty]
    exact mirrors_right rfl (mirrors_pure ⟨b, r, hpairs⟩)
  · rw [if_neg (fun hno => hempty ((inputLen_eq_zero hrep).mp hno)),
      if_neg hempty]
    rcases endInput hrep with ⟨hended, hline⟩
    refine mirrors_left (endInput_run hrep) ?_
    have hpairs1 := hpairs.withApp hended
    rcases hinput : d.app.screen.input with _ | ⟨first, line⟩
    · exact absurd hinput hempty
    rw [hinput] at hline
    have hload := load_holds (holds_input hended.toUnderlies hline)
    refine mirrors_left (onVars_of_eq hload) ?_
    rw [List.headD_cons, List.head?_cons]
    by_cases hslash : first = 0x2f
    · rw [if_neg (fun hno => hno hslash),
        if_neg (fun hno => hno (congrArg some hslash))]
      have hcuts := splitCommand_cuts (holds_input hended.toUnderlies hline)
      refine (onInput_cut (cut_of_pairs hpairs1) hcuts ?_).bind_left
        (fun x c2 hc2 => ?_)
      · intro x mem hx
        rcases hx with ⟨_, _, _, hsame, _⟩
        exact hsame
      · rcases hc2 with ⟨hcut, cmdAt, argAt, rfl, _, hcmd, harg⟩
        exact runCommand_beside hcounts hcut hcmd harg
    · rw [if_pos hslash, if_pos (fun hyes => hslash (Option.some.inj hyes))]
      exact say_beside hcounts hpairs1 hline

end Machine
end Irc
end Z80Tcpip
