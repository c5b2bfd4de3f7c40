import Z80Tcpip.Foundation.Memory
import Z80Tcpip.Irc.State

/-!
# String helpers of irc.c, in place

The helpers as they work on memory: a word is cut out of the line by a NUL that
is stored behind it, and the pointers that have been returned go on pointing into
the line.  A call writes one NUL at most, on a character of the string that the
cursor points to.
-/

namespace Z80Tcpip
namespace Irc
namespace InPlace

open Foundation
open Foundation.Program
open Foundation.Memory
open Client

variable {ι : Type} {L : Layout ι} [DecidableEq ι]

/-- The word, and what `*pp` is left pointing at. -/
def nextWord (p : Ptr ι) : Program (Memory L) (Ptr ι × Ptr ι) := do
  let i ← scan (fun c => c == SPACE) p
  let start := p.add i
  let j ← scan (fun c => c != 0 && c != SPACE) start
  let c ← peek start j
  if c ≠ 0 then do
    store (start.add j) 0
    pure (start, start.add (j + 1))
  else pure (start, start.add j)

def nextParam (p : Ptr ι) : Program (Memory L) (Ptr ι × Ptr ι) := do
  let i ← scan (fun c => c == SPACE) p
  let p := p.add i
  let c ← peek p 0
  if c = COLON then do
    let p ← skip p 1
    let n ← strlen p
    pure (p, p.add n)
  else nextWord p

/-- `nick_of`, with `none` for `NULL`. -/
def nickOf : Option (Ptr ι) -> Program (Memory L) (Ptr ι)
  | none => pure (.text (ascii "?") 0)
  | some p => do
      let i ← scan (fun c => c != 0 && (c != 0x21 && c != 0x40)) p
      let c ← peek p i
      if c ≠ 0 then do
        store (p.add i) 0
        pure p
      else pure p

omit [DecidableEq ι] in
def isChannel (s : Ptr ι) : Program (Memory L) Bool := do
  let c ← peek s 0
  if c = 0x23 then pure true
  else do
    let c ← peek s 0
    pure (decide (c = 0x26))

/-- The digits of `is_numeric` from `cmd[i]` on, and the NUL behind them. -/
def isNumericFrom (cmd : Ptr ι) : Nat -> Nat -> Program (Memory L) Bool
  | 0, i => do
      let c ← peek cmd i
      pure (decide (c = 0))
  | n + 1, i => do
      let c ← peek cmd i
      if c < 0x30 ∨ 0x39 < c then pure false
      else isNumericFrom cmd n (i + 1)

def isNumeric (cmd : Ptr ι) : Program (Memory L) Bool :=
  isNumericFrom cmd 3 0

/-- The loop of `str_copy`; the result is `i`. -/
def strCopyFrom (dst src : Ptr ι) (max : Nat) :
    Nat -> Nat -> Program (Memory L) Nat
  | 0, _ => fault .outOfBounds
  | turns + 1, i => do
      let c ← peek src i
      if c ≠ 0 ∧ i < max - 1 then do
        store (dst.add i) c
        strCopyFrom dst src max turns (i + 1)
      else pure i

def strCopy (dst src : Ptr ι) (max : Nat) : Program (Memory L) Unit := do
  let i ← strCopyFrom dst src max max 0
  store (dst.add i) 0

/-- How `handle_server_line` starts: the prefix if there is one, the command and
the rest of the line. -/
def splitLine (line : Ptr ι) :
    Program (Memory L) (Option (Ptr ι) × Ptr ι × Ptr ι) := do
  let c ← peek line 0
  if c = COLON then do
    let p ← skip line 1
    let (front, p) ← nextWord p
    let (cmd, p) ← nextWord p
    pure (some front, cmd, p)
  else do
    let (cmd, p) ← nextWord line
    pure (none, cmd, p)

/-!
## A word that has been taken
-/

/-- Nothing has been written, or one NUL in `len` bytes from `off` on. -/
def CutWithin (m m' : Memory L) (v : ι) (off len : Nat) : Prop :=
  m' = m ∨ exists i : Nat, off ≤ i ∧ i < off + len ∧
    m' = m.setBlock v ((m.block v).put i 0)

/-- From the string `t` at `off` a word has been taken, with the cursor now at
the rest. -/
structure Takes (m : Memory L) (v : ι) (off : Nat) (t word rest : List UInt8)
    (m' : Memory L) (start cursor : Nat) : Prop where
  cut : CutWithin m m' v off t.length
  taken : m'.Holds (.block v start) word
  left : m'.Holds (.block v cursor) rest
  behind : off ≤ start
  order : start + word.length ≤ cursor
  finish : cursor + rest.length = off + t.length

section Taking

variable {m m' : Memory L} {v : ι} {off len : Nat} {t : List UInt8}

theorem CutWithin.faults (h : CutWithin m m' v off len) :
    m'.faults = m.faults := by
  rcases h with heq | ⟨i, _, _, heq⟩
  · rw [heq]
  · rw [heq, setBlock_faults]

theorem CutWithin.other (h : CutWithin m m' v off len) {w : ι} (hw : w ≠ v) :
    m'.block w = m.block w := by
  rcases h with heq | ⟨i, _, _, heq⟩
  · rw [heq]
  · rw [heq, setBlock_other m _ hw]

theorem CutWithin.wider {off' len' : Nat} (h : CutWithin m m' v off len)
    (hlow : off' ≤ off) (hhigh : off + len ≤ off' + len') :
    CutWithin m m' v off' len' := by
  rcases h with heq | ⟨i, hi, hi', heq⟩
  · exact Or.inl heq
  · exact Or.inr ⟨i, Nat.le_trans hlow hi, Nat.lt_of_lt_of_le hi' hhigh, heq⟩

/-- A string that ends in front of the cursor, or at it, is left alone. -/
theorem CutWithin.keeps {at' : Nat} {u : List UInt8}
    (h : CutWithin m m' v off t.length) (ht : m.Holds (.block v off) t)
    (hu : m.Holds (.block v at') u) (hend : at' + u.length ≤ off) :
    m'.Holds (.block v at') u := by
  rcases h with heq | ⟨i, hi, hi', heq⟩
  · rw [heq]
    exact hu
  · rw [heq]
    refine hu.put_outside (Or.inr ?_) 0
    -- A cut at the cursor is not at the NUL of the string in front of it.
    have hne : at' + u.length ≠ off := by
      intro hsame
      have hempty : m.Holds (.block v off) [] := by
        have hsplit := hu
        rw [<- List.append_nil u] at hsplit
        have hadd := hsplit.add
        rwa [<- hsame]
      have hnil := congrArg List.length (ht.unique hempty)
      rw [List.length_nil] at hnil
      omega
    omega

/-- A string that ends at the cursor at the latest, wherever it stands. -/
def EndsBy (v : ι) (p : Ptr ι) (u : List UInt8) (off : Nat) : Prop :=
  forall at' : Nat, p = .block v at' -> at' + u.length ≤ off

theorem CutWithin.keepsPtr {p : Ptr ι} {u : List UInt8}
    (h : CutWithin m m' v off t.length) (ht : m.Holds (.block v off) t)
    (hp : m.Holds p u) (hend : EndsBy v p u off) : m'.Holds p u := by
  cases p with
  | text bytes at' => exact hp
  | block w at' =>
      by_cases hw : w = v
      · subst hw
        exact h.keeps ht hp (hend at' rfl)
      · exact hp.of_block (h.other hw)

theorem CutWithin.sameBut (h : CutWithin m m' v off len) :
    SameBut v m m' :=
  ⟨h.faults, fun _ hw => h.other hw⟩

end Taking

/-!
## What a call leaves alone
-/

/-- What lies outside of `len` bytes from `off` on is as before. -/
structure OnlyWithin (m m' : Memory L) (v : ι) (off len : Nat) : Prop where
  faults : m'.faults = m.faults
  other : forall w : ι, w ≠ v -> m'.block w = m.block w
  outside : forall i : Nat, i < off ∨ off + len ≤ i ->
    (m'.block v).get i = (m.block v).get i

section OnlyWithin

variable {m m' m'' : Memory L} {v : ι} {off len : Nat}

omit [DecidableEq ι] in
theorem OnlyWithin.refl (m : Memory L) (v : ι) (off len : Nat) :
    OnlyWithin m m v off len where
  faults := rfl
  other := fun _ _ => rfl
  outside := fun _ _ => rfl

omit [DecidableEq ι] in
theorem OnlyWithin.trans {off' len' : Nat} (h : OnlyWithin m m' v off len)
    (h' : OnlyWithin m' m'' v off' len') (hlow : off ≤ off')
    (hhigh : off' + len' ≤ off + len) : OnlyWithin m m'' v off len where
  faults := h'.faults.trans h.faults
  other := fun w hw => (h'.other w hw).trans (h.other w hw)
  outside := by
    intro i hi
    exact (h'.outside i (by omega)).trans (h.outside i hi)

theorem CutWithin.onlyWithin (h : CutWithin m m' v off len) :
    OnlyWithin m m' v off len where
  faults := h.faults
  other := fun _ hw => h.other hw
  outside := by
    intro j hj
    rcases h with heq | ⟨i, hlow, hhigh, heq⟩
    · rw [heq]
    · have hne : i ≠ j := by
        omega
      rw [heq, setBlock_self]
      show ((m.block v).bytes.set i 0).getD j 0 = (m.block v).bytes.getD j 0
      rw [List.getD_eq_getElem?_getD, List.getD_eq_getElem?_getD,
        List.getElem?_set_ne hne]

end OnlyWithin

/-!
## Taking words
-/

omit [DecidableEq ι] in
theorem takeWhile_word {s : List UInt8} (h : (0 : UInt8) ∉ s) :
    s.takeWhile (fun c => c != 0 && c != SPACE) =
      s.takeWhile (fun c => c != SPACE) := by
  induction s with
  | nil => rfl
  | cons c s ih =>
      have hc : (c != 0) = true := by
        rw [bne_iff_ne]
        intro heq
        rw [heq] at h
        exact h List.mem_cons_self
      have hs := ih (fun hmem => h (List.mem_cons_of_mem c hmem))
      rw [List.takeWhile_cons, List.takeWhile_cons, hc, Bool.true_and, hs]

omit [DecidableEq ι] in
theorem Holds.skipSpaces {m : Memory L} {p : Ptr ι} {t : List UInt8}
    (h : m.Holds p t) :
    m.Holds (p.add (t.takeWhile (fun c => c == SPACE)).length)
      (t.dropWhile (fun c => c == SPACE)) := by
  have hsplit := h
  rw [<- List.takeWhile_append_dropWhile (p := fun c => c == SPACE) (l := t)]
    at hsplit
  exact hsplit.add

theorem nextWord_takes {m : Memory L} {v : ι} {off : Nat} {t : List UInt8}
    (h : m.Holds (.block v off) t) :
    (nextWord (.block v off)).Returns m (fun r m' =>
      exists start cursor : Nat, r = (.block v start, .block v cursor) ∧
        Takes m v off t (Irc.nextWord t).1 (Irc.nextWord t).2 m' start
          cursor) := by
  have hspaces : (t.takeWhile (fun c => c == SPACE)).length +
      (t.dropWhile (fun c => c == SPACE)).length = t.length := by
    rw [<- List.length_append, List.takeWhile_append_dropWhile]
  have hs : m.Holds
      (.block v (off + (t.takeWhile (fun c => c == SPACE)).length))
      (t.dropWhile (fun c => c == SPACE)) := Holds.skipSpaces h
  have hlist : Irc.nextWord t =
      ((t.dropWhile (fun c => c == SPACE)).takeWhile (fun c => c != SPACE),
        ((t.dropWhile (fun c => c == SPACE)).dropWhile
          (fun c => c != SPACE)).drop 1) := rfl
  rw [hlist]
  unfold nextWord
  refine returns_bind_of_eq (scan_holds (by decide) h) ?_
  revert hspaces hs
  generalize (t.takeWhile (fun c => c == SPACE)).length = i
  generalize t.dropWhile (fun c => c == SPACE) = s
  intro hspaces hs
  refine returns_bind_of_eq (scan_holds (by decide) hs) ?_
  rw [takeWhile_word hs.left]
  have hword : s.takeWhile (fun c => c != SPACE) ++
      s.dropWhile (fun c => c != SPACE) = s := List.takeWhile_append_dropWhile
  revert hword
  generalize s.takeWhile (fun c => c != SPACE) = word
  generalize s.dropWhile (fun c => c != SPACE) = back
  intro hword
  subst hword
  cases back with
  | nil =>
      rw [List.append_nil] at hs hspaces
      refine returns_bind_of_eq (peek_nul hs) ?_
      rw [if_neg (not_not_intro rfl)]
      refine returns_pure ⟨off + i, off + i + word.length, rfl, ?_⟩
      have hrest : m.Holds (.block v (off + i + word.length)) [] := by
        have hsplit := hs
        rw [<- List.append_nil word] at hsplit
        exact hsplit.add
      exact
        { cut := Or.inl rfl
          taken := hs
          left := hrest
          behind := Nat.le_add_right off i
          order := Nat.le_refl _
          finish := by
            show off + i + word.length + 0 = off + t.length
            omega }
  | cons c rest =>
      have hc : c ≠ 0 := by
        intro heq
        rw [heq] at hs
        exact hs.left (List.mem_append_right word List.mem_cons_self)
      have hroom : off + i + word.length < L.size v := by
        have hlt := hs.length_lt
        rw [Memory.cells, List.length_drop, (m.block v).bytes_length,
          List.length_append] at hlt
        omega
      rw [List.length_append, List.length_cons] at hspaces
      refine returns_bind_of_eq (peek_char hs) ?_
      rw [if_pos hc]
      refine returns_bind_of_eq (store_nul hroom) ?_
      refine returns_pure ⟨off + i, off + i + (word.length + 1), rfl, ?_⟩
      have hcut := hs.cut
      exact
        { cut := Or.inr ⟨off + i + word.length, by omega, by omega, rfl⟩
          taken := hcut.left
          left := hcut.right
          behind := Nat.le_add_right off i
          order := by
            show off + i + word.length ≤ off + i + (word.length + 1)
            omega
          finish := by
            show off + i + (word.length + 1) + rest.length = off + t.length
            omega }

theorem nextParam_takes {m : Memory L} {v : ι} {off : Nat} {t : List UInt8}
    (h : m.Holds (.block v off) t) :
    (nextParam (.block v off)).Returns m (fun r m' =>
      exists start cursor : Nat, r = (.block v start, .block v cursor) ∧
        Takes m v off t (Irc.nextParam t).1 (Irc.nextParam t).2 m' start
          cursor) := by
  have hspaces : (t.takeWhile (fun c => c == SPACE)).length +
      (t.dropWhile (fun c => c == SPACE)).length = t.length := by
    rw [<- List.length_append, List.takeWhile_append_dropWhile]
  have hs : m.Holds
      (.block v (off + (t.takeWhile (fun c => c == SPACE)).length))
      (t.dropWhile (fun c => c == SPACE)) := Holds.skipSpaces h
  unfold nextParam Irc.nextParam
  refine returns_bind_of_eq (scan_holds (by decide) h) ?_
  revert hspaces hs
  generalize (t.takeWhile (fun c => c == SPACE)).length = i
  generalize t.dropWhile (fun c => c == SPACE) = s
  intro hspaces hs
  refine returns_bind_of_eq (peek_zero hs) ?_
  -- A word that is taken behind the spaces is taken from the whole string.
  have hnext : (nextWord (.block v (off + i))).Returns m (fun r m' =>
      exists start cursor : Nat, r = (.block v start, .block v cursor) ∧
        Takes m v off t (Irc.nextWord s).1 (Irc.nextWord s).2 m' start
          cursor) := by
    refine (nextWord_takes hs).mono (fun r m' hr => ?_)
    rcases hr with ⟨start, cursor, hr, htakes⟩
    refine ⟨start, cursor, hr, ?_⟩
    have hfinish := htakes.finish
    exact
      { cut := htakes.cut.wider (Nat.le_add_right off i) (by omega)
        taken := htakes.taken
        left := htakes.left
        behind := Nat.le_trans (Nat.le_add_right off i) htakes.behind
        order := htakes.order
        finish := by omega }
  cases s with
  | nil => exact hnext
  | cons c rest =>
      show Returns (if c = COLON then _ else _) m _
      by_cases hcolon : c = COLON
      · simp only [if_pos hcolon]
        have htext : m.Holds (.block v (off + i + 1)) rest :=
          (show m.Holds (.block v (off + i)) ([c] ++ rest) from hs).add
        have hend : m.Holds (.block v (off + i + 1 + rest.length)) [] := by
          have hsplit := htext
          rw [<- List.append_nil rest] at hsplit
          exact hsplit.add
        refine returns_bind_of_eq (skip_holds [c] hs) ?_
        refine returns_bind_of_eq (strlen_holds htext) ?_
        refine returns_pure
          ⟨off + i + 1, off + i + 1 + rest.length, rfl, ?_⟩
        rw [List.length_cons] at hspaces
        exact
          { cut := Or.inl rfl
            taken := htext
            left := hend
            behind := by omega
            order := Nat.le_refl _
            finish := by
              show off + i + 1 + rest.length + 0 = off + t.length
              omega }
      · simp only [if_neg hcolon]
        exact hnext

/-!
## The other helpers
-/

section Helpers

variable {m : Memory L}

/-- A string behind the one that a cut is made in. -/
theorem CutWithin.keepsBehind {m' : Memory L} {v : ι} {off len at' : Nat}
    {u : List UInt8} (h : CutWithin m m' v off len)
    (hu : m.Holds (.block v at') u) (hbehind : off + len ≤ at') :
    m'.Holds (.block v at') u := by
  rcases h with heq | ⟨i, _, hi, heq⟩
  · rw [heq]
    exact hu
  · rw [heq]
    exact hu.put_outside (Or.inl (Nat.lt_of_lt_of_le hi hbehind)) 0

theorem nickOf_cuts {v : ι} {off : Nat} {t : List UInt8}
    (h : m.Holds (.block v off) t) :
    (nickOf (some (.block v off))).Returns m (fun r m' =>
      r = .block v off ∧ CutWithin m m' v off t.length ∧
        m'.Holds (.block v off) (Irc.nickOf (some t))) := by
  have hlist : Irc.nickOf (some t) =
      t.takeWhile (fun c => c != 0 && (c != 0x21 && c != 0x40)) := by
    have hcongr : forall s : List UInt8, (0 : UInt8) ∉ s ->
        s.takeWhile (fun c => c != 0x21 && c != 0x40) =
          s.takeWhile (fun c => c != 0 && (c != 0x21 && c != 0x40)) := by
      intro s hs
      induction s with
      | nil => rfl
      | cons c s ih =>
          have hc : (c != 0) = true := by
            rw [bne_iff_ne]
            intro heq
            rw [heq] at hs
            exact hs List.mem_cons_self
          rw [List.takeWhile_cons, List.takeWhile_cons, hc, Bool.true_and,
            ih (fun hmem => hs (List.mem_cons_of_mem c hmem))]
    exact hcongr t h.left
  have hsplit : t.takeWhile (fun c => c != 0 && (c != 0x21 && c != 0x40)) ++
      t.dropWhile (fun c => c != 0 && (c != 0x21 && c != 0x40)) = t :=
    List.takeWhile_append_dropWhile
  unfold nickOf
  rw [hlist]
  refine returns_bind_of_eq (scan_holds (by decide) h) ?_
  revert hsplit
  generalize t.takeWhile (fun c => c != 0 && (c != 0x21 && c != 0x40)) = nick
  generalize t.dropWhile (fun c => c != 0 && (c != 0x21 && c != 0x40)) = back
  intro hsplit
  subst hsplit
  cases back with
  | nil =>
      rw [List.append_nil] at h ⊢
      refine returns_bind_of_eq (peek_nul h) ?_
      rw [if_neg (not_not_intro rfl)]
      exact returns_pure ⟨rfl, Or.inl rfl, h⟩
  | cons c back =>
      have hc : c ≠ 0 := by
        intro heq
        rw [heq] at h
        exact h.left (List.mem_append_right nick List.mem_cons_self)
      have hlen : (nick ++ c :: back).length = nick.length + (back.length + 1) :=
        List.length_append
      have hroom : off + nick.length < L.size v := by
        have hlt := h.length_lt
        rw [Memory.cells, List.length_drop, (m.block v).bytes_length, hlen]
          at hlt
        omega
      refine returns_bind_of_eq (peek_char h) ?_
      rw [if_pos hc]
      refine returns_bind_of_eq (store_nul hroom) ?_
      exact returns_pure ⟨rfl,
        Or.inr ⟨off + nick.length, by omega, by omega, rfl⟩, h.cut.left⟩

omit [DecidableEq ι]

theorem isChannel_holds {s : Ptr ι} {t : List UInt8} (h : m.Holds s t) :
    isChannel s m = (some (decide (Irc.isChannel t)), m) := by
  unfold isChannel
  rw [bind_some (peek_zero h)]
  cases t with
  | nil => exact bind_some (peek_zero h) _
  | cons c t =>
      rw [List.headD_cons]
      by_cases hhash : c = 0x23
      · rw [if_pos hhash, hhash]
        rfl
      · rw [if_neg hhash, bind_some (peek_zero h)]
        have hiff : Irc.isChannel (c :: t) <-> c = 0x26 := by
          show some c = some 0x23 ∨ some c = some 0x26 <-> c = 0x26
          rw [Option.some.injEq, Option.some.injEq]
          constructor
          · exact fun hor => hor.resolve_left hhash
          · exact Or.inr
        rw [decide_eq_decide.mpr hiff]
        rfl

theorem isNumericFrom_holds {cmd : Ptr ι} (n : Nat) :
    forall {back front : List UInt8}, m.Holds cmd (front ++ back) ->
      isNumericFrom cmd n front.length m =
        (some (decide (back.length = n ∧
          forall c, c ∈ back -> 0x30 ≤ c ∧ c ≤ 0x39)), m) := by
  induction n with
  | zero =>
      intro back front h
      unfold isNumericFrom
      cases back with
      | nil =>
          rw [List.append_nil] at h
          rw [bind_some (peek_nul h)]
          rfl
      | cons c back =>
          have hc : c ≠ 0 := by
            intro heq
            rw [heq] at h
            exact h.left (List.mem_append_right front List.mem_cons_self)
          rw [bind_some (peek_char h)]
          simp [hc]
  | succ n ih =>
      intro back front h
      unfold isNumericFrom
      cases back with
      | nil =>
          rw [List.append_nil] at h
          rw [bind_some (peek_nul h)]
          rfl
      | cons c back =>
          have hmore : m.Holds cmd ((front ++ [c]) ++ back) := by
            rwa [List.append_assoc, List.singleton_append]
          have hrest := ih hmore
          rw [List.length_append, List.length_singleton] at hrest
          rw [bind_some (peek_char h)]
          by_cases hdigit : c < 0x30 ∨ 0x39 < c
          · have hno : ¬ (0x30 ≤ c ∧ c ≤ 0x39) := by
              intro hyes
              rcases hdigit with hlow | hhigh
              · exact absurd hyes.left (UInt8.not_le.mpr hlow)
              · exact absurd hyes.right (UInt8.not_le.mpr hhigh)
            rw [if_pos hdigit]
            simp only [List.mem_cons, forall_eq_or_imp, hno, false_and,
              and_false, decide_false]
            rfl
          · have hyes : 0x30 ≤ c ∧ c ≤ 0x39 :=
              ⟨UInt8.not_lt.mp (fun hlow => hdigit (Or.inl hlow)),
                UInt8.not_lt.mp (fun hhigh => hdigit (Or.inr hhigh))⟩
            rw [if_neg hdigit, hrest]
            simp only [List.mem_cons, forall_eq_or_imp, hyes, and_self,
              true_and, List.length_cons, Nat.add_right_cancel_iff]

theorem isNumeric_holds {cmd : Ptr ι} {t : List UInt8} (h : m.Holds cmd t) :
    isNumeric cmd m = (some (decide (Irc.isNumeric t)), m) :=
  isNumericFrom_holds 3 (show m.Holds cmd ([] ++ t) from h)

end Helpers

/-!
## The start of a line
-/

/-- The line `t` at `off` has been cut into prefix, command and rest. -/
structure Splits (m : Memory L) (v : ι) (off : Nat) (t : List UInt8)
    (m' : Memory L) (frontAt : Option Nat) (cmdAt cursor : Nat) : Prop where
  only : OnlyWithin m m' v off t.length
  front : Option.Rel
    (fun start word => m'.Holds (.block v start) word ∧
      start + word.length ≤ cmdAt) frontAt (Irc.splitLine t).1
  behind : off ≤ cmdAt
  cmd : m'.Holds (.block v cmdAt) (Irc.splitLine t).2.1
  order : cmdAt + (Irc.splitLine t).2.1.length ≤ cursor
  left : m'.Holds (.block v cursor) (Irc.splitLine t).2.2
  finish : cursor + (Irc.splitLine t).2.2.length = off + t.length

theorem splitLine_splits {m : Memory L} {v : ι} {off : Nat} {t : List UInt8}
    (h : m.Holds (.block v off) t) :
    (splitLine (.block v off)).Returns m (fun r m' =>
      exists (frontAt : Option Nat) (cmdAt cursor : Nat),
        r = (frontAt.map (Ptr.block v), .block v cmdAt, .block v cursor) ∧
          Splits m v off t m' frontAt cmdAt cursor) := by
  unfold splitLine
  refine returns_bind_of_eq (peek_zero h) ?_
  by_cases hcolon : t.head? = some COLON
  · rcases List.head?_eq_some_iff.mp hcolon with ⟨line, rfl⟩
    have hlist : Irc.splitLine (COLON :: line) =
        (some (Irc.nextWord line).1,
          Irc.nextWord (Irc.nextWord line).2) := rfl
    have hline : m.Holds (.block v (off + 1)) line :=
      (show m.Holds (.block v off) ([COLON] ++ line) from h).add
    have hlen : (COLON :: line).length = line.length + 1 := rfl
    rw [List.headD_cons, if_pos rfl]
    refine returns_bind_of_eq (skip_holds [COLON] h) ?_
    refine (nextWord_takes hline).bind (fun r m1 hr => ?_)
    rcases hr with ⟨start, cursor, rfl, hfront⟩
    refine (nextWord_takes hfront.left).bind (fun r m2 hr => ?_)
    rcases hr with ⟨start', cursor', rfl, hcmd⟩
    have hbehind := hfront.behind
    have horder := hfront.order
    have hfinish := hfront.finish
    have hbehind' := hcmd.behind
    have hfinish' := hcmd.finish
    have hword : start + (Irc.nextWord line).1.length ≤ start' := by
      omega
    have honly : OnlyWithin m m1 v off (COLON :: line).length :=
      (hfront.cut.wider (by omega) (by omega)).onlyWithin
    have honly' : OnlyWithin m1 m2 v off (COLON :: line).length :=
      (hcmd.cut.wider (by omega) (by omega)).onlyWithin
    refine returns_pure ⟨some start, start', cursor', rfl, ?_⟩
    exact
      { only := honly.trans honly' (Nat.le_refl _) (Nat.le_refl _)
        front := Option.Rel.some
          ⟨hcmd.cut.keeps hfront.left hfront.taken horder, hword⟩
        behind := by omega
        cmd := hcmd.taken
        order := hcmd.order
        left := hcmd.left
        finish := by
          rw [hlist, hlen]
          show cursor' + (Irc.nextWord (Irc.nextWord line).2).2.length = _
          omega }
  · have hlist : Irc.splitLine t = (none, Irc.nextWord t) := if_neg hcolon
    have hhead : t.headD 0 ≠ COLON := by
      cases t with
      | nil => exact show (0 : UInt8) ≠ COLON by decide
      | cons c rest => exact fun heq => hcolon (congrArg some heq)
    rw [if_neg hhead]
    refine (nextWord_takes h).bind (fun r m1 hr => ?_)
    rcases hr with ⟨start, cursor, rfl, hcmd⟩
    refine returns_pure ⟨none, start, cursor, rfl, ?_⟩
    exact
      { only := hcmd.cut.onlyWithin
        front := by
          rw [hlist]
          exact Option.Rel.none
        behind := hcmd.behind
        cmd := by
          rw [hlist]
          exact hcmd.taken
        order := by
          rw [hlist]
          exact hcmd.order
        left := by
          rw [hlist]
          exact hcmd.left
        finish := by
          rw [hlist]
          exact hcmd.finish }

/-!
## Copies
-/

section Copies

variable {m : Memory L} {w : ι} {src : Ptr ι} {t : List UInt8}

/-- The source of a copy into `w` is not in `w`. -/
def Apart (m : Memory L) (w : ι) (src : Ptr ι) (t : List UInt8) : Prop :=
  forall b : Buffer (L.size w), (m.setBlock w b).Holds src t

theorem apart_of_ne {v : ι} {off : Nat} (h : m.Holds (.block v off) t)
    (hne : v ≠ w) : Apart m w (.block v off) t :=
  fun b => h.of_block (setBlock_other m b hne)

theorem strCopyFrom_holds {b : Buffer (L.size w)} (hsrc : Apart m w src t)
    (hends : b.slice (L.size w - 1) 1 = [0]) (back : List UInt8) :
    forall {front : List UInt8} {turns : Nat}, t = front ++ back ->
      front.length ≤ L.size w - 1 -> L.size w - 1 < turns + front.length ->
        strCopyFrom (.block w 0) src (L.size w) turns front.length
            (m.setBlock w (b.write 0 front)) =
          (some (t.take (L.size w - 1)).length,
            m.setBlock w (b.write 0 (t.take (L.size w - 1)))) := by
  induction back with
  | nil =>
      intro front turns ht hlen hturns
      rw [List.append_nil] at ht
      subst ht
      cases turns with
      | zero => exact absurd hturns (by omega)
      | succ turns =>
          unfold strCopyFrom
          rw [bind_some (peek_nul (hsrc _)), if_neg (fun h => h.left rfl),
            List.take_of_length_le hlen]
          rfl
  | cons c back ih =>
      intro front turns ht hlen hturns
      have hholds := hsrc (b.write 0 front)
      rw [ht] at hholds
      have hc : c ≠ 0 := by
        intro heq
        rw [heq] at hholds
        exact hholds.left (List.mem_append_right front List.mem_cons_self)
      cases turns with
      | zero => exact absurd hturns (by omega)
      | succ turns =>
          unfold strCopyFrom
          rw [bind_some (peek_char hholds)]
          by_cases hfull : front.length < L.size w - 1
          · have hgrow : (front ++ [c]).length = front.length + 1 :=
              List.length_append
            have hput : ((m.setBlock w (b.write 0 front)).block w).put
                front.length c = b.write 0 (front ++ [c]) := by
              rw [setBlock_self]
              exact b.write_put c (by omega)
            have hstore : store (.block w (0 + front.length)) c
                (m.setBlock w (b.write 0 front)) =
                  (some (), m.setBlock w (b.write 0 (front ++ [c]))) := by
              rw [Nat.zero_add, store_block (by omega), hput,
                setBlock_setBlock]
              intro _
              rw [hput]
              exact Buffer.mem_of_ends
                (Buffer.ends_write hends (by rw [hgrow]; exact hfull))
            have hsplit : t = (front ++ [c]) ++ back := by
              rw [ht, List.append_assoc, List.singleton_append]
            have hfuel : L.size w - 1 < turns + (front ++ [c]).length := by
              rw [hgrow]
              omega
            have hrest := ih hsplit (by rw [hgrow]; exact hfull) hfuel
            rw [hgrow] at hrest
            rw [if_pos ⟨hc, hfull⟩]
            exact (bind_some hstore _).trans hrest
          · have hcut : t.take (L.size w - 1) = front := by
              rw [ht, List.take_append_of_le_length (by omega),
                List.take_of_length_le hlen]
            rw [if_neg (fun h => hfull h.right), hcut]
            rfl

/-- The copy is cut to the size of its block and has a NUL behind it. -/
theorem strCopy_holds (hsrc : Apart m w src t) (hsize : 0 < L.size w)
    (hends : (m.block w).slice (L.size w - 1) 1 = [0]) :
    strCopy (.block w 0) src (L.size w) m =
      (some (), m.setBlock w ((m.block w).write 0
        (Irc.strCopy t (L.size w) ++ [0]))) := by
  have hstart : m.setBlock w ((m.block w).write 0 []) = m := by
    rw [Buffer.write_nil, setBlock_same]
  have hfuel : L.size w - 1 < L.size w + ([] : List UInt8).length :=
    Nat.sub_lt hsize Nat.one_pos
  have hloop := strCopyFrom_holds hsrc hends t (show t = [] ++ t from rfl)
    (Nat.zero_le _) hfuel
  rw [hstart] at hloop
  have hlen : (t.take (L.size w - 1)).length ≤ L.size w - 1 := by
    rw [List.length_take]
    exact Nat.min_le_left _ _
  unfold strCopy Irc.strCopy
  refine (bind_some hloop _).trans ?_
  show store (.block w (0 + (t.take (L.size w - 1)).length)) 0 _ = _
  have hput : ((m.setBlock w ((m.block w).write 0
      (t.take (L.size w - 1)))).block w).put (t.take (L.size w - 1)).length 0 =
        (m.block w).write 0 (t.take (L.size w - 1) ++ [0]) := by
    rw [setBlock_self]
    exact (m.block w).write_put 0 (by omega)
  rw [Nat.zero_add, store_block (by omega), hput, setBlock_setBlock]
  intro _
  rw [hput]
  exact Buffer.mem_of_ends (Buffer.ends_write_nul hends hsize hlen)

theorem strCopy_text {old : List UInt8} (hsrc : Apart m w src t)
    (hold : (m.block w).HoldsText old) :
    (strCopy (.block w 0) src (L.size w)).Returns m (fun _ m' =>
      SameBut w m m' ∧
        (m'.block w).HoldsText (Irc.strCopy t (L.size w))) := by
  have hsize : 0 < L.size w := Nat.zero_lt_of_lt hold.length_lt
  have htext : (0 : UInt8) ∉ Irc.strCopy t (L.size w) := fun hmem =>
    (hsrc (m.block w)).left (List.mem_of_mem_take hmem)
  have hlen : (Irc.strCopy t (L.size w)).length ≤ L.size w - 1 := by
    rw [Irc.strCopy, List.length_take]
    exact Nat.min_le_left _ _
  refine returns_of_eq (strCopy_holds hsrc hsize hold.ends)
    ⟨sameBut_setBlock _ _ _, ?_⟩
  rw [setBlock_self]
  exact Buffer.holdsText_write hold.ends hsize htext hlen

end Copies

end InPlace
end Irc
end Z80Tcpip
