import Z80Tcpip.Irc.Represents

/-!
# Server lines in memory

`handle_server_line` on the line in `rxline` does what the model on lists does
with the string.  The line is cut up on the way; that stands for nothing, since
`rxlen` is 0 by then.
-/

namespace Z80Tcpip
namespace Irc

open Foundation
open Foundation.Program
open Foundation.Memory
open Client
open InPlace

/-- What is left behind a parameter is shorter. -/
theorem nextWord_shorter {t : List UInt8} (h : t ≠ []) :
    (nextWord t).2.length < t.length := by
  have hpos : 0 < t.length := List.length_pos_iff.mpr h
  have hstart := (List.dropWhile_sublist (l := t)
    (fun c => c == SPACE)).length_le
  have hback := (List.dropWhile_sublist
    (l := t.dropWhile (fun c => c == SPACE)) (fun c => c != SPACE)).length_le
  unfold nextWord
  simp only [List.length_drop]
  omega

theorem nextParam_shorter {t : List UInt8} (h : t ≠ []) :
    (nextParam t).2.length < t.length := by
  have hpos : 0 < t.length := List.length_pos_iff.mpr h
  have hstart := (List.dropWhile_sublist (l := t)
    (fun c => c == SPACE)).length_le
  unfold nextParam
  split
  case h_1 => exact hpos
  case h_2 c rest heq =>
    rw [heq] at hstart
    split_ifs
    · exact hpos
    · exact Nat.lt_of_lt_of_le
        (nextWord_shorter (List.cons_ne_nil c rest)) hstart

namespace Machine

variable {α : Type} {b : Buffer (MAX_INPUT + 2)} {r : List UInt8}
  {m : Machine} {s : State}

theorem onMem_returns {p : Program (Memory layout) α}
    {post : α -> Memory layout -> Prop} (h : p.Returns m.mem post) :
    (onMem p).Returns m (fun a m' =>
      exists mem : Memory layout, m' = { m with mem := mem } ∧ post a mem) := by
  rcases h with ⟨a, mem, hrun, hpost⟩
  exact returns_of_eq (onMem_run hrun) ⟨mem, rfl, hpost⟩

/-- A call of `next_param` on the line. -/
theorem nextParam_step (h : Represents b r m s) (hrx : m.rxlen = 0)
    {off : Nat} {t : List UInt8} (ht : m.mem.Holds (.block .rxline off) t) :
    (onMem (InPlace.nextParam (.block .rxline off))).Returns m (fun x m' =>
      exists start cursor : Nat,
        x = (.block .rxline start, .block .rxline cursor) ∧
          Represents b r m' s ∧ m'.rxlen = 0 ∧
          Takes m.mem .rxline off t (Irc.nextParam t).1 (Irc.nextParam t).2
            m'.mem start cursor) := by
  refine (onMem_returns (nextParam_takes ht)).mono (fun x m' hm' => ?_)
  rcases hm' with ⟨mem, rfl, start, cursor, hx, htakes⟩
  exact ⟨start, cursor, hx,
    h.sameBut (Or.inr (Or.inr ⟨rfl, hrx⟩)) htakes.cut.sameBut, hrx, htakes⟩

theorem ifCommand_returns {cmd : Ptr Var} {tcmd : List UInt8} {name : String}
    {yes no : Program Machine α} {post : α -> Machine -> Prop}
    (hcmd : m.mem.Holds cmd tcmd) (hname : 0 ∉ ascii name)
    (hyes : tcmd = ascii name -> yes.Returns m post)
    (hno : tcmd ≠ ascii name -> no.Returns m post) :
    (ifCommand cmd name yes no).Returns m post := by
  have hequal := strcmp_holds hcmd (holds_literal m.mem hname)
  unfold ifCommand
  refine returns_bind_of_eq (onMem_of_eq hequal) ?_
  by_cases heq : tcmd = ascii name
  · rw [if_pos (decide_eq_true heq)]
    exact hyes heq
  · rw [if_neg (by rw [decide_eq_false heq]; decide)]
    exact hno heq

/-!
## Parameters
-/

/-- What a loop over the parameters leaves: the strings in front of the cursor
are as they were. -/
structure Parsed (b : Buffer (MAX_INPUT + 2)) (r : List UInt8) (m : Machine)
    (off : Nat) (s' : State) (m' : Machine) : Prop where
  represents : Represents b r m' s'
  rxlen : m'.rxlen = 0
  keeps : forall (p : Ptr Var) (u : List UInt8), m.mem.Holds p u ->
    EndsBy .rxline p u off -> m'.mem.Holds p u

theorem emitParamsFrom_emits (turns : Nat) :
    forall {m : Machine} {s : State} {off n : Nat} {t : List UInt8},
      Represents b r m s -> m.rxlen = 0 ->
      m.mem.Holds (.block .rxline off) t -> t.length < turns ->
      t.length ≤ n ->
        (emitParamsFrom turns (.block .rxline off)).Returns m (fun _ =>
          Parsed b r m off ((paramPieces n t).foldl
            (fun s piece => Irc.emit piece s) s)) := by
  induction turns with
  | zero =>
      intro m s off n t _ _ _ hturns
      exact absurd hturns (Nat.not_lt_zero _)
  | succ turns ih =>
      intro m s off n t h hrx ht hturns hn
      unfold emitParamsFrom
      refine returns_bind_of_eq (onMem_of_eq (peek_zero ht)) ?_
      cases t with
      | nil =>
          rw [List.headD_nil, if_pos rfl]
          have hnone : paramPieces n [] = [] := by
            cases n with
            | zero => rfl
            | succ n => exact if_pos rfl
          rw [hnone]
          exact returns_pure
            { represents := h
              rxlen := hrx
              keeps := fun _ _ hp _ => hp }
      | cons c more =>
          have hc : c ≠ 0 := by
            intro heq
            rw [heq] at ht
            exact ht.left List.mem_cons_self
          rw [List.headD_cons, if_neg hc]
          cases n with
          | zero => exact absurd hn (Nat.not_succ_le_zero _)
          | succ n =>
              have hne : c :: more ≠ [] := List.cons_ne_nil c more
              have hshorter := nextParam_shorter hne
              have hpieces : paramPieces (n + 1) (c :: more) =
                  (Irc.nextParam (c :: more)).1 :: ascii " " ::
                    paramPieces n (Irc.nextParam (c :: more)).2 :=
                if_neg hne
              rw [hpieces, List.foldl_cons, List.foldl_cons]
              refine (nextParam_step h hrx ht).bind (fun x m1 hm1 => ?_)
              rcases hm1 with ⟨start, cursor, rfl, h1, hrx1, htakes⟩
              refine (emit_emits h1 htakes.taken).bind (fun _ m2 hm2 => ?_)
              rcases hm2 with ⟨h2, hmem2, hrx2⟩
              have hspace : m2.mem.Holds (lit (ascii " ")) (ascii " ") :=
                holds_literal m2.mem (by decide)
              refine (emit_emits h2 hspace).bind (fun _ m3 hm3 => ?_)
              rcases hm3 with ⟨h3, hmem3, hrx3⟩
              have hmem : m3.mem = m1.mem := hmem3.trans hmem2
              have hleft : m3.mem.Holds (.block .rxline cursor)
                  (Irc.nextParam (c :: more)).2 := by
                rw [hmem]
                exact htakes.left
              have hbehind := htakes.behind
              have horder := htakes.order
              refine (ih h3 (by rw [hrx3, hrx2, hrx1]) hleft (n := n)
                (by omega) (by omega)).mono (fun _ m4 hm4 => ?_)
              exact
                { represents := hm4.represents
                  rxlen := hm4.rxlen
                  keeps := by
                    intro p u hp hend
                    have hp1 := htakes.cut.keepsPtr ht hp hend
                    rw [<- hmem] at hp1
                    refine hm4.keeps p u hp1 (fun at' heq => ?_)
                    have hlow := hend at' heq
                    omega }

/-- `emit_params` emits the pieces of the parameter list. -/
theorem emitParams_emits (h : Represents b r m s) (hrx : m.rxlen = 0)
    {off : Nat} {t : List UInt8} (ht : m.mem.Holds (.block .rxline off) t) :
    (emitParams (.block .rxline off)).Returns m (fun _ =>
      Parsed b r m off ((paramPieces t.length t).foldl
        (fun s piece => Irc.emit piece s) s)) :=
  emitParamsFrom_emits _ h hrx ht ht.length_lt (Nat.le_refl _)

/-!
## Commands
-/

/-- A string of the line that ends at `off` at the latest, or a literal. -/
def OnLine (p : Ptr Var) (u : List UInt8) (off : Nat) : Prop :=
  forall (v : Var) (at' : Nat), p = .block v at' ->
    v = .rxline ∧ at' + u.length ≤ off

theorem onLine_block {at' off : Nat} {u : List UInt8}
    (h : at' + u.length ≤ off) : OnLine (.block .rxline at') u off := by
  intro v at'' heq
  cases heq
  exact ⟨rfl, h⟩

theorem OnLine.later {p : Ptr Var} {u : List UInt8} {off off' : Nat}
    (h : OnLine p u off) (hle : off ≤ off') : OnLine p u off' := by
  intro v at' heq
  rcases h v at' heq with ⟨hv, hend⟩
  exact ⟨hv, Nat.le_trans hend hle⟩

theorem OnLine.endsBy {p : Ptr Var} {u : List UInt8} {off : Nat}
    (h : OnLine p u off) : EndsBy .rxline p u off :=
  fun at' heq => (h .rxline at' heq).right

theorem OnLine.sameBut {p : Ptr Var} {u : List UInt8} {off : Nat}
    (h : OnLine p u off) {v : Var} {mem mem' : Memory layout}
    (hsame : SameBut v mem mem') (hv : v ≠ .rxline) (hp : mem.Holds p u) :
    mem'.Holds p u := by
  refine hsame.holds hp (fun at' heq => ?_)
  exact hv (h v at' heq).left

section Commands

variable {cmd nick : Ptr Var} {tcmd tnick t : List UInt8} {off : Nat}

theorem showNumeric_shows (h : Represents b r m s) (hrx : m.rxlen = 0)
    (hcmd : m.mem.Holds cmd tcmd) (hcmdLine : OnLine cmd tcmd off)
    (ht : m.mem.Holds (.block .rxline off) t) :
    (showNumeric cmd (.block .rxline off)).Returns m (fun _ m' =>
      Represents b r m' (Irc.showNumeric tcmd t s)) := by
  unfold showNumeric
  refine (nextParam_step h hrx ht).bind (fun x m1 hm1 => ?_)
  rcases hm1 with ⟨start, cursor, rfl, h1, hrx1, htakes⟩
  have hbehind := htakes.behind
  have horder := htakes.order
  have hcursor : OnLine cmd tcmd cursor := hcmdLine.later (by omega)
  have hcmd1 := htakes.cut.keepsPtr ht hcmd hcmdLine.endsBy
  refine returns_bind_of_eq (modify_apply _ _) ?_
  have hparams := emitParams_emits (m := emitStart m1)
    (emitStart_represents h1) hrx1 htakes.left
  refine hparams.bind (fun _ m2 hm2 => ?_)
  have hcmd2 := hm2.keeps cmd tcmd hcmd1 hcursor.endsBy
  refine (emitEnd_logs (m := m2) (s := s) _ hm2.represents rfl).bind
    (fun _ m3 hm3 => ?_)
  have hcmd3 := hcursor.sameBut hm3.right nofun hcmd2
  unfold Irc.showNumeric
  refine ifCommand_returns hcmd3 (by decide) (fun heq => ?_) (fun hne => ?_)
  · rw [if_pos heq]
    exact (logLine_prints hm3.left (holds_literal _ (by decide))).mono
      (fun _ _ hm' => hm'.left)
  · rw [if_neg hne]
    exact returns_pure hm3.left

theorem isAction_holds {mem : Memory layout} {text : Ptr Var}
    (ht : mem.Holds text t) :
    isAction text mem =
      (some (decide (t.head? = some 1 ∧ (t.drop 1).take 7 = ascii "ACTION ")),
        mem) := by
  unfold isAction
  rw [bind_some (peek_zero ht)]
  cases t with
  | nil => rfl
  | cons c more =>
      rw [List.headD_cons]
      by_cases hc : c = 1
      · have hmore : mem.Holds (text.add 1) more :=
          (show mem.Holds text ([c] ++ more) from ht).add
        have hequal := strncmp_holds hmore
          (holds_literal mem (show 0 ∉ ascii "ACTION " by decide)) 7
        have htake : (ascii "ACTION ").take 7 = ascii "ACTION " := by
          decide
        rw [htake] at hequal
        have hskip : skip text 1 mem = (some (text.add 1), mem) :=
          skip_holds [c] ht
        rw [if_pos hc, bind_some hskip]
        refine hequal.trans ?_
        simp only [hc, List.head?_cons, List.drop_succ_cons, List.drop_zero,
          true_and]
      · rw [if_neg hc]
        simp only [List.head?_cons, Option.some.injEq, hc, false_and,
          decide_false]
        rfl

theorem showMessage_shows (h : Represents b r m s) (hrx : m.rxlen = 0)
    (hcmd : m.mem.Holds cmd tcmd) (hcmdLine : OnLine cmd tcmd off)
    (hnick : m.mem.Holds nick tnick) (hnickLine : OnLine nick tnick off)
    (ht : m.mem.Holds (.block .rxline off) t) :
    (showMessage cmd nick (.block .rxline off)).Returns m (fun _ m' =>
      Represents b r m' (Irc.showMessage tcmd tnick t s)) := by
  have hlist : Irc.showMessage tcmd tnick t s =
      (if (Irc.nextParam (Irc.nextParam t).2).1.head? = some 1 ∧
          ((Irc.nextParam (Irc.nextParam t).2).1.drop 1).take 7 =
            ascii "ACTION " then
        Irc.logLine4 (ascii "* ") tnick (ascii " ")
          ((Irc.nextParam (Irc.nextParam t).2).1.drop 8)
      else if tcmd = ascii "NOTICE" then
        Irc.logLine4 (ascii "-") tnick (ascii "- ")
          (Irc.nextParam (Irc.nextParam t).2).1
      else if Irc.isChannel (Irc.nextParam t).1 then
        Irc.logLine4 (ascii "<") tnick (ascii "> ")
          (Irc.nextParam (Irc.nextParam t).2).1
      else
        Irc.logLine4 (ascii "*") tnick (ascii "* ")
          (Irc.nextParam (Irc.nextParam t).2).1) s := rfl
  rw [hlist]
  unfold showMessage
  refine (nextParam_step h hrx ht).bind (fun x m1 hm1 => ?_)
  rcases hm1 with ⟨start, cursor, rfl, h1, hrx1, htakes⟩
  have hle : off ≤ cursor :=
    Nat.le_trans htakes.behind (Nat.le_trans (Nat.le_add_right _ _)
      htakes.order)
  have hcmd1 := htakes.cut.keepsPtr ht hcmd hcmdLine.endsBy
  have hnick1 := htakes.cut.keepsPtr ht hnick hnickLine.endsBy
  refine (nextParam_step h1 hrx1 htakes.left).bind (fun x m2 hm2 => ?_)
  rcases hm2 with ⟨start', cursor', rfl, h2, hrx2, htakes'⟩
  have hcmd2 := htakes'.cut.keepsPtr htakes.left hcmd1
    (hcmdLine.later hle).endsBy
  have hnick2 := htakes'.cut.keepsPtr htakes.left hnick1
    (hnickLine.later hle).endsBy
  have htarget := htakes'.cut.keeps htakes.left htakes.taken htakes.order
  have htext := htakes'.taken
  revert htext htarget
  generalize (Irc.nextParam t).1 = target
  generalize (Irc.nextParam (Irc.nextParam t).2).1 = text
  intro htarget htext
  refine returns_bind_of_eq (onMem_of_eq (isAction_holds htext)) ?_
  by_cases haction : text.head? = some 1 ∧
      (text.drop 1).take 7 = ascii "ACTION "
  · have hlen : (text.take 8).length = 8 := by
      have hseven := congrArg List.length haction.right
      rw [List.length_take, List.length_drop] at hseven
      have hascii : (ascii "ACTION ").length = 7 := by
        decide
      rw [List.length_take]
      omega
    have hsplit := htext
    rw [<- List.take_append_drop 8 text] at hsplit
    have hskip := skip_holds _ hsplit
    have hsaid := hsplit.add
    rw [hlen] at hskip hsaid
    rw [if_pos (decide_eq_true haction), if_pos haction]
    refine returns_bind_of_eq (onMem_of_eq hskip) ?_
    exact (logLine4_prints h2 (holds_literal _ (by decide)) hnick2
      (holds_literal _ (by decide)) hsaid).mono (fun _ _ hm' => hm'.left)
  · rw [if_neg (by rw [decide_eq_false haction]; decide), if_neg haction]
    refine ifCommand_returns hcmd2 (by decide) (fun heq => ?_) (fun hne => ?_)
    · rw [if_pos heq]
      exact (logLine4_prints h2 (holds_literal _ (by decide)) hnick2
        (holds_literal _ (by decide)) htext).mono (fun _ _ hm' => hm'.left)
    · rw [if_neg hne]
      refine returns_bind_of_eq (onMem_of_eq (isChannel_holds htarget)) ?_
      by_cases hchannel : Irc.isChannel target
      · rw [if_pos (decide_eq_true hchannel), if_pos hchannel]
        exact (logLine4_prints h2 (holds_literal _ (by decide)) hnick2
          (holds_literal _ (by decide)) htext).mono (fun _ _ hm' => hm'.left)
      · rw [if_neg (by rw [decide_eq_false hchannel]; decide),
          if_neg hchannel]
        exact (logLine4_prints h2 (holds_literal _ (by decide)) hnick2
          (holds_literal _ (by decide)) htext).mono (fun _ _ hm' => hm'.left)

/-- An event is shown with the next parameter. -/
theorem showEvent_shows {what : String} (hwhat : 0 ∉ ascii what)
    (h : Represents b r m s) (hrx : m.rxlen = 0)
    (hnick : m.mem.Holds nick tnick) (hnickLine : OnLine nick tnick off)
    (ht : m.mem.Holds (.block .rxline off) t) :
    (showEvent nick what (.block .rxline off)).Returns m (fun _ m' =>
      Represents b r m' (Irc.logLine4 (ascii "* ") tnick (ascii what)
        (Irc.nextParam t).1 s)) := by
  unfold showEvent
  refine (nextParam_step h hrx ht).bind (fun x m1 hm1 => ?_)
  rcases hm1 with ⟨start, cursor, rfl, h1, hrx1, htakes⟩
  have hnick1 := htakes.cut.keepsPtr ht hnick hnickLine.endsBy
  exact (logLine4_prints h1 (holds_literal _ (by decide)) hnick1
    (holds_literal _ hwhat) htakes.taken).mono (fun _ _ hm' => hm'.left)

theorem lower_eq_zero (c : UInt8) : lower c = 0 <-> c = 0 := by
  unfold lower
  split_ifs with hletter
  · have hlow : 0x41 ≤ c.toNat := UInt8.le_iff_toNat_le.mp hletter.left
    have hhigh : c.toNat ≤ 0x5a := UInt8.le_iff_toNat_le.mp hletter.right
    constructor
    · intro heq
      have hzero := congrArg UInt8.toNat heq
      rw [UInt8.toNat_add] at hzero
      simp at hzero
      omega
    · intro heq
      rw [heq] at hlow
      exact absurd hlow (by decide)
  · exact Iff.rfl

theorem headD_eq_zero {t : List UInt8} (h : 0 ∉ t) :
    t.headD 0 = 0 <-> t = [] := by
  cases t with
  | nil => exact ⟨fun _ => rfl, fun _ => rfl⟩
  | cons c more =>
      constructor
      · intro heq
        rw [List.headD_cons] at heq
        rw [heq] at h
        exact absurd List.mem_cons_self h
      · exact nofun

theorem showNick_shows (h : Represents b r m s) (hrx : m.rxlen = 0)
    (hnick : m.mem.Holds nick tnick) (hnickLine : OnLine nick tnick off)
    (ht : m.mem.Holds (.block .rxline off) t) :
    (showNick nick (.block .rxline off)).Returns m (fun _ m' =>
      Represents b r m' (Irc.logLine4 (ascii "* ") tnick
        (ascii " is now known as ") (Irc.nextParam t).1
          (if Irc.same tnick s.mynick then
            { s with
              mynick := Irc.strCopy (Irc.nextParam t).1 (MAX_NICK + 1) }
          else s))) := by
  unfold showNick
  refine (nextParam_step h hrx ht).bind (fun x m1 hm1 => ?_)
  rcases hm1 with ⟨start, cursor, rfl, h1, hrx1, htakes⟩
  have hnick1 := htakes.cut.keepsPtr ht hnick hnickLine.endsBy
  have htext := htakes.taken
  have hours : compare lower nick (.block .mynick 0) m1.mem =
      (some (decide (Irc.same tnick s.mynick)), m1.mem) :=
    compare_holds lower_eq_zero hnick1 h1.mynick.holds
  by_cases hsame : Irc.same tnick s.mynick
  · have hcopy := strCopy_text (apart_of_ne htext (w := .mynick) nofun)
      h1.mynick
    have hfollow : (followNick nick (.block .rxline start)).Returns m1.mem
        (fun _ mem => SameBut .mynick m1.mem mem ∧
          (mem.block .mynick).HoldsText
            (Irc.strCopy (Irc.nextParam t).1 (MAX_NICK + 1))) := by
      unfold followNick
      refine returns_bind_of_eq hours ?_
      rw [if_pos (decide_eq_true hsame)]
      exact hcopy
    rw [if_pos hsame]
    refine (onMem_returns hfollow).bind (fun _ m2 hm2 => ?_)
    rcases hm2 with ⟨mem, rfl, hother, hnew⟩
    have hset : Represents b r { m1 with mem := mem }
        { s with
          mynick := Irc.strCopy (Irc.nextParam t).1 (MAX_NICK + 1) } :=
      h1.of_underlies (h1.toUnderlies.setMynick hother hnew) rfl rfl
    exact (logLine4_prints hset
      (holds_literal _ (by decide)) (hnickLine.sameBut hother nofun hnick1)
      (holds_literal _ (by decide))
      (htext.of_block (hother.other .rxline nofun))).mono
        (fun _ _ hm' => hm'.left)
  · have hfollow : followNick nick (.block .rxline start) m1.mem =
        (some (), m1.mem) := by
      unfold followNick
      rw [bind_some hours, if_neg (by rw [decide_eq_false hsame]; decide)]
      rfl
    rw [if_neg hsame]
    refine returns_bind_of_eq (onMem_of_eq hfollow) ?_
    exact (logLine4_prints h1 (holds_literal _ (by decide)) hnick1
      (holds_literal _ (by decide)) htext).mono (fun _ _ hm' => hm'.left)

theorem joinIfWelcome_notes (h : Represents b r m s)
    (hcmd : m.mem.Holds cmd tcmd) :
    (joinIfWelcome cmd).Returns m (fun _ m' =>
      Represents b r m'
          (if tcmd = ascii "001" ∧ s.curChan ≠ [] then
            { s with joinPending := true }
          else s) ∧
        m'.mem = m.mem ∧ m'.rxlen = m.rxlen) := by
  unfold joinIfWelcome
  refine ifCommand_returns hcmd (by decide) (fun heq => ?_) (fun hne => ?_)
  · refine returns_bind_of_eq (onMem_of_eq (load_holds h.curChan.holds)) ?_
    by_cases hchan : s.curChan = []
    · rw [if_neg (fun hno => hno ((headD_eq_zero h.curChan.text).mpr hchan)),
        if_neg (fun hyes => hyes.right hchan)]
      exact returns_pure ⟨h, rfl, rfl⟩
    · rw [if_pos (fun hno => hchan ((headD_eq_zero h.curChan.text).mp hno)),
        if_pos ⟨heq, hchan⟩]
      exact returns_modify ⟨{ h with joinPending := rfl }, rfl, rfl⟩
  · rw [if_neg (fun hyes => hne hyes.left)]
    exact returns_pure ⟨h, rfl, rfl⟩

theorem handlePing_notes (h : Represents b r m s) (hrx : m.rxlen = 0)
    (ht : m.mem.Holds (.block .rxline off) t) :
    (handlePing (.block .rxline off)).Returns m (fun _ m' =>
      Represents b r m'
        { s with
          pongArg := Irc.strCopy (Irc.nextParam t).1 PONG_ARG
          pongPending := true }) := by
  unfold handlePing
  refine (nextParam_step h hrx ht).bind (fun x m1 hm1 => ?_)
  rcases hm1 with ⟨start, cursor, rfl, h1, hrx1, htakes⟩
  have hcopy := strCopy_text (apart_of_ne htakes.taken (w := .pongArg) nofun)
    h1.pongArg
  refine (onMem_returns hcopy).bind (fun _ m2 hm2 => ?_)
  rcases hm2 with ⟨mem, rfl, hother, hnew⟩
  have hset := h1.of_underlies (h1.toUnderlies.setPongArg hother hnew)
    rfl rfl
  exact returns_modify { hset with pongPending := rfl }

theorem showOther_shows (h : Represents b r m s) (hrx : m.rxlen = 0)
    (hcmd : m.mem.Holds cmd tcmd) (hcmdLine : OnLine cmd tcmd off)
    (ht : m.mem.Holds (.block .rxline off) t) :
    (showOther cmd (.block .rxline off)).Returns m (fun _ m' =>
      Represents b r m'
        (if Irc.isNumeric tcmd then
          Irc.showNumeric tcmd t
            (if tcmd = ascii "001" ∧ s.curChan ≠ [] then
              { s with joinPending := true }
            else s)
        else logEntry (tcmd :: ascii " " :: paramPieces t.length t) s)) := by
  unfold showOther
  refine returns_bind_of_eq (onMem_of_eq (isNumeric_holds hcmd)) ?_
  by_cases hnumeric : Irc.isNumeric tcmd
  · rw [if_pos (decide_eq_true hnumeric), if_pos hnumeric]
    refine (joinIfWelcome_notes h hcmd).bind (fun _ m1 hm1 => ?_)
    rcases hm1 with ⟨h1, hmem1, hrx1⟩
    rw [<- hmem1] at hcmd ht
    exact showNumeric_shows h1 (hrx1.trans hrx) hcmd hcmdLine ht
  · rw [if_neg (by rw [decide_eq_false hnumeric]; decide), if_neg hnumeric]
    refine returns_bind_of_eq (modify_apply _ _) ?_
    refine (emit_emits (m := emitStart m) (emitStart_represents h) hcmd).bind
      (fun _ m1 hm1 => ?_)
    rcases hm1 with ⟨h1, hmem1, hrx1⟩
    have hspace : m1.mem.Holds (lit (ascii " ")) (ascii " ") :=
      holds_literal m1.mem (by decide)
    refine (emit_emits h1 hspace).bind (fun _ m2 hm2 => ?_)
    rcases hm2 with ⟨h2, hmem2, hrx2⟩
    have hmem : m2.mem = m.mem := hmem2.trans hmem1
    have hrx' : m2.rxlen = 0 := (hrx2.trans hrx1).trans hrx
    rw [<- hmem] at ht
    refine (emitParams_emits h2 hrx' ht).bind (fun _ m3 hm3 => ?_)
    exact (emitEnd_logs (m := m3)
      (tcmd :: ascii " " :: paramPieces t.length t) hm3.represents rfl).mono
        (fun _ _ hm' => hm'.left)

/-- The prefix in front of the command, cut down to the nick. -/
theorem nickOf_step (h : Represents b r m s) (hrx : m.rxlen = 0)
    {frontAt : Option Nat} {tfront : Option (List UInt8)} {cmdAt cursor : Nat}
    (hfront : Option.Rel (fun start word =>
      m.mem.Holds (.block .rxline start) word ∧
        start + word.length ≤ cmdAt) frontAt tfront)
    (hcmd : m.mem.Holds (.block .rxline cmdAt) tcmd)
    (hcursor : cmdAt ≤ cursor) (ht : m.mem.Holds (.block .rxline cursor) t) :
    (onMem (InPlace.nickOf (frontAt.map (Ptr.block Var.rxline)))).Returns m
      (fun x m' => Represents b r m' s ∧ m'.rxlen = 0 ∧
        m'.mem.Holds x (Irc.nickOf tfront) ∧
        OnLine x (Irc.nickOf tfront) cursor ∧
        m'.mem.Holds (.block .rxline cmdAt) tcmd ∧
        m'.mem.Holds (.block .rxline cursor) t) := by
  cases hfront with
  | none =>
      have hnull : onMem (InPlace.nickOf none) m =
          (some (lit (ascii "?")), m) := rfl
      exact returns_of_eq hnull ⟨h, hrx, holds_literal _ (by decide), nofun,
        hcmd, ht⟩
  | @some start word hword =>
      rcases hword with ⟨hword, hend⟩
      refine (onMem_returns (nickOf_cuts hword)).mono (fun x m' hm' => ?_)
      rcases hm' with ⟨mem, rfl, rfl, hcut, hnick⟩
      have hshort : (Irc.nickOf (some word)).length ≤ word.length :=
        (List.takeWhile_sublist _).length_le
      exact ⟨h.sameBut (Or.inr (Or.inr ⟨rfl, hrx⟩)) hcut.sameBut, hrx, hnick,
        onLine_block (by omega), hcut.keepsBehind hcmd hend,
        hcut.keepsBehind ht (Nat.le_trans hend hcursor)⟩

theorem handleServerLine_represents (h : Represents b r m s)
    (hrx : m.rxlen = 0) {line : List UInt8}
    (hline : m.mem.Holds (.block .rxline 0) line) :
    (handleServerLine (.block .rxline 0)).Returns m (fun _ m' =>
      Represents b r m' (Irc.handleServerLine line s)) := by
  unfold handleServerLine
  refine (onMem_returns (splitLine_splits hline)).bind (fun x m1 hm1 => ?_)
  rcases hm1 with ⟨mem, rfl, frontAt, cmdAt, cursor, rfl, hsplits⟩
  have hsame : SameBut .rxline m.mem mem :=
    ⟨hsplits.only.faults, hsplits.only.other⟩
  have h1 := h.sameBut (Or.inr (Or.inr ⟨rfl, hrx⟩)) hsame
  have hfront := hsplits.front
  have hcmd := hsplits.cmd
  have horder := hsplits.order
  have ht := hsplits.left
  unfold Irc.handleServerLine
  revert hfront hcmd horder ht
  rcases Irc.splitLine line with ⟨tfront, tcmd, t⟩
  intro hfront hcmd horder ht
  dsimp only at hfront hcmd horder ht ⊢
  refine returns_bind_of_eq (onMem_of_eq (peek_zero hcmd)) ?_
  by_cases hempty : tcmd = []
  · rw [if_pos ((headD_eq_zero hcmd.left).mpr hempty), if_pos hempty]
    exact returns_pure h1
  rw [if_neg (fun heq => hempty ((headD_eq_zero hcmd.left).mp heq)),
    if_neg hempty]
  refine ifCommand_returns hcmd (by decide) (fun heq => ?_) (fun hne => ?_)
  · rw [if_pos heq]
    exact handlePing_notes h1 hrx ht
  rw [if_neg hne]
  refine (nickOf_step h1 hrx hfront hcmd (by omega) ht).bind
    (fun nick m2 hm2 => ?_)
  rcases hm2 with ⟨h2, hrx2, hnick, hnickLine, hcmd2, ht2⟩
  have hcmdLine : OnLine (.block .rxline cmdAt) tcmd cursor :=
    onLine_block horder
  unfold showCommand
  refine ifCommand_returns hcmd2 (by decide) (fun heq => ?_)
    (fun hprivmsg => ?_)
  · rw [if_pos (Or.inl heq)]
    exact showMessage_shows h2 hrx2 hcmd2 hcmdLine hnick hnickLine ht2
  refine ifCommand_returns hcmd2 (by decide) (fun heq => ?_)
    (fun hnotice => ?_)
  · rw [if_pos (Or.inr heq)]
    exact showMessage_shows h2 hrx2 hcmd2 hcmdLine hnick hnickLine ht2
  rw [if_neg (not_or.mpr ⟨hprivmsg, hnotice⟩)]
  refine ifCommand_returns hcmd2 (by decide) (fun heq => ?_) (fun hne => ?_)
  · rw [if_pos heq]
    exact showEvent_shows (by decide) h2 hrx2 hnick hnickLine ht2
  rw [if_neg hne]
  refine ifCommand_returns hcmd2 (by decide) (fun heq => ?_) (fun hne => ?_)
  · rw [if_pos heq]
    exact showEvent_shows (by decide) h2 hrx2 hnick hnickLine ht2
  rw [if_neg hne]
  refine ifCommand_returns hcmd2 (by decide) (fun heq => ?_) (fun hne => ?_)
  · rw [if_pos heq]
    exact showEvent_shows (by decide) h2 hrx2 hnick hnickLine ht2
  rw [if_neg hne]
  refine ifCommand_returns hcmd2 (by decide) (fun heq => ?_) (fun hne => ?_)
  · rw [if_pos heq]
    exact showNick_shows h2 hrx2 hnick hnickLine ht2
  rw [if_neg hne]
  refine ifCommand_returns hcmd2 (by decide) (fun heq => ?_) (fun hne => ?_)
  · rw [if_pos heq]
    exact showEvent_shows (by decide) h2 hrx2 hnick hnickLine ht2
  rw [if_neg hne]
  refine ifCommand_returns hcmd2 (by decide) (fun heq => ?_) (fun hne => ?_)
  · rw [if_pos heq]
    refine (nextParam_step h2 hrx2 ht2).bind (fun x m3 hm3 => ?_)
    rcases hm3 with ⟨start, cursor', rfl, h3, hrx3, htakes⟩
    have hle : cursor ≤ cursor' := Nat.le_trans htakes.behind
      (Nat.le_trans (Nat.le_add_right _ _) htakes.order)
    exact showEvent_shows (by decide) h3 hrx3
      (htakes.cut.keepsPtr ht2 hnick hnickLine.endsBy) (hnickLine.later hle)
      htakes.left
  rw [if_neg hne]
  refine ifCommand_returns hcmd2 (by decide) (fun heq => ?_) (fun hne => ?_)
  · rw [if_pos heq]
    exact (logLine4_prints h2 (holds_literal _ (by decide)) hnick
      (holds_literal _ (by decide)) ht2).mono (fun _ _ hm' => hm'.left)
  rw [if_neg hne]
  refine ifCommand_returns hcmd2 (by decide) (fun heq => ?_) (fun hne => ?_)
  · rw [if_pos heq]
    exact (logLine2_prints h2 (holds_literal _ (by decide)) ht2).mono
      (fun _ _ hm' => hm'.left)
  rw [if_neg hne]
  exact showOther_shows h2 hrx2 hcmd2 hcmdLine ht2

end Commands

/-!
## Bytes from the server
-/

/-- A string ends at its first NUL, at the latest at the one behind it. -/
theorem cString_starts (line : List UInt8) :
    cString line ++ [0] <+: line ++ [0] := by
  have hsplit : cString line ++ line.dropWhile (fun c => c != 0) = line :=
    List.takeWhile_append_dropWhile
  cases hrest : line.dropWhile (fun c => c != 0) with
  | nil =>
      rw [hrest, List.append_nil] at hsplit
      exact ⟨[], by rw [hsplit, List.append_nil]⟩
  | cons c more =>
      have hc : c = 0 := by
        have hhead := List.head?_dropWhile_not (fun c => c != 0) line
        rw [hrest] at hhead
        simpa using hhead
      rw [hrest, hc] at hsplit
      refine ⟨more ++ [0], ?_⟩
      calc cString line ++ [0] ++ (more ++ [0])
          = (cString line ++ 0 :: more) ++ [0] := by simp
        _ = line ++ [0] := by rw [hsplit]

theorem rxlen_eq (h : Represents b r m s) : s.rxline.length = m.rxlen := by
  have hlen := h.rxlen
  simp only [RX_LINE] at hlen
  rw [<- h.rxline, Buffer.slice_length]
  exact (show 0 + m.rxlen ≤ 320 by omega)

/-- A byte of a line. -/
theorem rxChar_within {c : UInt8} (hlf : c ≠ 10) (h : Represents b r m s) :
    (rxChar c).Returns m (fun _ m' =>
      Represents b (r ++ [c]) m' (Irc.rxChar s c)) := by
  have hopen := openPiece_other hlf r
  have hlines : m.lines =
      (closedPieces 10 (r ++ [c])).map (fun piece => kept piece ++ [0]) := by
    rw [closedPieces_other hlf, h.lines]
  have hhandled : s.handled.map Handled.line =
      (closedPieces 10 (r ++ [c])).map (fun piece => cString (kept piece)) := by
    rw [closedPieces_other hlf, h.handled]
  have hunchanged : kept (openPiece 10 r ++ [c]) = s.rxline ->
      Represents b (r ++ [c]) m
        { s with rxline := kept (openPiece 10 r ++ [c]) } := by
    intro heq
    rw [heq]
    exact h.received (SameBut.refl .rxline m.mem) h.rxlen h.rxline
      (by rw [hopen, heq]) hlines hhandled
  rw [rxChar_kept hlf h.unfinished]
  unfold rxChar
  by_cases hcr : c = 13
  · rw [if_pos hcr]
    exact returns_pure (hunchanged (by rw [hcr, kept_cr, h.unfinished]))
  rw [if_neg hcr, if_neg hlf]
  refine returns_bind_of_eq (get_apply m) ?_
  have hgrow := kept_append hcr (openPiece 10 r)
  rw [<- h.unfinished, rxlen_eq h] at hgrow
  by_cases hroom : m.rxlen < RX_LINE - 1
  · rw [if_pos hroom] at hgrow ⊢
    have hsize : m.rxlen < layout.size .rxline :=
      Nat.lt_of_lt_of_le hroom (Nat.sub_le _ _)
    have hstore := store_block (m := m.mem) (v := .rxline) (c := c) hsize nofun
    have hline : ((m.mem.setBlock .rxline
        ((m.mem.block .rxline).put m.rxlen c)).block .rxline).slice 0
          (m.rxlen + 1) = s.rxline ++ [c] := by
      rw [setBlock_self, Buffer.slice_put_next _ c hsize, h.rxline]
    refine returns_bind_of_eq (onMem_run hstore) (returns_modify ?_)
    rw [hgrow]
    exact h.received (sameBut_setBlock _ _ _) hroom hline
      (by rw [hopen, hgrow]) hlines hhandled
  · rw [if_neg hroom] at hgrow ⊢
    exact returns_pure (hunchanged hgrow)

/-- The LF: what has been assembled is handled. -/
theorem rxChar_lineFeed (h : Represents b r m s) :
    (rxChar 10).Returns m (fun _ m' =>
      Represents b (r ++ [10]) m' (Irc.rxChar s 10)) := by
  have hsize : m.rxlen < layout.size .rxline :=
    Nat.lt_of_le_of_lt h.rxlen (by decide)
  have hstore := store_nul (m := m.mem) (v := .rxline) hsize
  have hline : ((m.mem.block .rxline).put m.rxlen 0).slice 0 (m.rxlen + 1) =
      s.rxline ++ [0] := by
    rw [Buffer.slice_put_next _ 0 hsize, h.rxline]
  have hended : Represents b (r ++ [10])
      (endLine { m with
        mem := m.mem.setBlock .rxline
          ((m.mem.block .rxline).put m.rxlen 0) })
      { s with
        rxline := []
        handled := s.handled ++
          [{ line := cString s.rxline, pongPending := s.pongPending }] } := by
    refine h.received (sameBut_setBlock _ _ _) (Nat.zero_le _) rfl ?_ ?_ ?_
    · rw [openPiece_separator]
      rfl
    · rw [setBlock_self, hline, closedPieces_separator, List.map_append,
        h.lines, h.unfinished]
      rfl
    · rw [List.map_append, h.handled, closedPieces_separator, List.map_append,
        h.unfinished]
      rfl
  have hholds : (m.mem.setBlock .rxline
      ((m.mem.block .rxline).put m.rxlen 0)).Holds (.block .rxline 0)
        (cString s.rxline) := by
    refine ⟨cString_no_nul _, (cString_starts s.rxline).trans ?_⟩
    rw [<- hline, Memory.cells, setBlock_self, List.drop_zero, Buffer.slice,
      List.drop_zero]
    exact List.take_prefix _ _
  unfold rxChar
  rw [if_neg (by decide), if_pos rfl]
  refine returns_bind_of_eq (get_apply m) ?_
  refine returns_bind_of_eq (onMem_run hstore) ?_
  refine returns_bind_of_eq (modify_apply _ _) ?_
  exact handleServerLine_represents hended rfl hholds

/-- `show_data` in memory, byte by byte. -/
theorem showData_represents (data : List UInt8) (h : Represents b r m s) :
    (showData data).Returns m (fun _ m' =>
      Represents b (r ++ data) m' (Irc.showData data s)) := by
  have hbyte : forall (done : List UInt8) (c : UInt8) (m' : Machine),
      Represents b (r ++ done) m' (Irc.showData done s) ->
        (rxChar c).Returns m' (fun _ m'' =>
          Represents b (r ++ (done ++ [c])) m''
            (Irc.showData (done ++ [c]) s)) := by
    intro done c m' h'
    have hlist : Irc.showData (done ++ [c]) s =
        Irc.rxChar (Irc.showData done s) c := by
      rw [showData_append]
      rfl
    rw [hlist, <- List.append_assoc]
    by_cases hlf : c = 10
    · rw [hlf]
      exact rxChar_lineFeed h'
    · exact rxChar_within hlf h'
  have hstart : Represents b (r ++ []) m (Irc.showData [] s) := by
    rw [List.append_nil]
    exact h
  exact returns_each
    (fun done m' => Represents b (r ++ done) m' (Irc.showData done s)) hbyte
    data [] hstart

end Machine
end Irc
end Z80Tcpip
