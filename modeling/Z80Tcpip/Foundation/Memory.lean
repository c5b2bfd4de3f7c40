import Mathlib.Data.List.TakeWhile
import Mathlib.Logic.Function.Basic
import Z80Tcpip.Foundation.Buffer
import Z80Tcpip.Foundation.Returns

/-!
# Memory with checked accesses

The arrays of a C program are blocks of a fixed size.  A pointer stands in one
block or in a string literal.  An access that leaves its block, writes to a
literal, or reads on behind the NUL of a string is a fault, and so is a store that
takes the last NUL out of a block that has to hold a string: the fault is noted
and the program stops.
-/

namespace Z80Tcpip
namespace Foundation

structure Layout (ι : Type) where
  size : ι -> Nat
  /-- The blocks that hold a string at all times. -/
  isText : ι -> Bool

inductive Fault where
  | outOfBounds
  | readOnly
  | pastNul
  | unterminated
  deriving DecidableEq

structure Memory {ι : Type} (L : Layout ι) where
  block : (v : ι) -> Buffer (L.size v)
  faults : List Fault

inductive Ptr (ι : Type) where
  | block (v : ι) (off : Nat)
  | text (bytes : List UInt8) (off : Nat)

variable {ι : Type} {L : Layout ι} {α : Type}

/-- `p + n` -/
def Ptr.add : Ptr ι -> Nat -> Ptr ι
  | .block v off, n => .block v (off + n)
  | .text bytes off, n => .text bytes (off + n)

namespace Memory

/-- The bytes from a pointer to the end of its block; a literal ends with its
NUL. -/
def cells (m : Memory L) : Ptr ι -> List UInt8
  | .block v off => (m.block v).bytes.drop off
  | .text bytes off => (bytes ++ [0]).drop off

def fault (f : Fault) : Program (Memory L) α := fun m =>
  (none, { m with faults := m.faults ++ [f] })

/-- `*p` -/
def load (p : Ptr ι) : Program (Memory L) UInt8 := do
  let m ← Program.get
  match m.cells p with
  | [] => fault .outOfBounds
  | c :: _ => pure c

/-- `p[0..n)` -/
def loadBytes (p : Ptr ι) (n : Nat) : Program (Memory L) (List UInt8) := do
  let m ← Program.get
  if n ≤ (m.cells p).length then pure ((m.cells p).take n)
  else fault .outOfBounds

/-- `p[i]` on a walk along the string at `p`. -/
def peek (p : Ptr ι) (i : Nat) : Program (Memory L) UInt8 := do
  let m ← Program.get
  if 0 ∈ (m.cells p).take i then fault .pastNul else load (p.add i)

/-- `p + n` for a pointer that is to stay on the string at `p`. -/
def skip (p : Ptr ι) (n : Nat) : Program (Memory L) (Ptr ι) := do
  let m ← Program.get
  if 0 ∈ (m.cells p).take n ∨ (m.cells p).length ≤ n then fault .pastNul
  else pure (p.add n)

variable [DecidableEq ι]

def setBlock (m : Memory L) (v : ι) (b : Buffer (L.size v)) : Memory L :=
  { m with block := Function.update m.block v b }

/-- `*p = c` -/
def store : Ptr ι -> UInt8 -> Program (Memory L) Unit
  | .text _ _, _ => fault .readOnly
  | .block v off, c => do
      let m ← Program.get
      if off < L.size v then
        if L.isText v = true ∧ 0 ∉ ((m.block v).put off c).bytes then
          fault .unterminated
        else Program.modify (fun m => m.setBlock v ((m.block v).put off c))
      else fault .outOfBounds

/-!
## Strings
-/

/-- The string `t` stands at `p`, with its NUL. -/
def Holds (m : Memory L) (p : Ptr ι) (t : List UInt8) : Prop :=
  0 ∉ t ∧ t ++ [0] <+: m.cells p

omit [DecidableEq ι] in
theorem cells_add (m : Memory L) (p : Ptr ι) (n : Nat) :
    m.cells (p.add n) = (m.cells p).drop n := by
  cases p with
  | block v off => exact List.drop_drop.symm
  | text bytes off => exact List.drop_drop.symm

omit [DecidableEq ι] in
theorem holds_literal (m : Memory L) {bytes : List UInt8} (h : 0 ∉ bytes) :
    m.Holds (.text bytes 0) bytes :=
  ⟨h, List.prefix_refl _⟩

theorem ne_nul_of_mem {t : List UInt8} (h : 0 ∉ t) {c : UInt8} (hc : c ∈ t) :
    (c != 0) = true := by
  rw [bne_iff_ne]
  intro heq
  rw [heq] at hc
  exact h hc

/-- A text without a NUL is the whole string. -/
theorem takeWhile_text {t : List UInt8} (h : 0 ∉ t) :
    t.takeWhile (fun c => c != 0) = t :=
  List.takeWhile_eq_self_iff.mpr (fun _ hc => ne_nul_of_mem h hc)

section Holds

variable {m : Memory L} {p : Ptr ι} {t : List UInt8}

omit [DecidableEq ι]

theorem Holds.cells (h : m.Holds p t) :
    exists rest : List UInt8, m.cells p = t ++ 0 :: rest := by
  rcases h.right with ⟨rest, hrest⟩
  exact ⟨rest, by rw [<- hrest, List.append_assoc, List.singleton_append]⟩

/-- The rest of a string is a string. -/
theorem Holds.add {front back : List UInt8} (h : m.Holds p (front ++ back)) :
    m.Holds (p.add front.length) back := by
  rcases h.cells with ⟨rest, hcells⟩
  constructor
  · exact fun hmem => h.left (List.mem_append_right front hmem)
  · rw [cells_add, hcells, List.append_assoc, List.drop_left]
    exact ⟨rest, by rw [List.append_assoc, List.singleton_append]⟩

theorem Holds.length_lt (h : m.Holds p t) : t.length < (m.cells p).length := by
  rcases h.cells with ⟨rest, hcells⟩
  rw [hcells, List.length_append, List.length_cons]
  omega

/-- In front of its end a string has no NUL. -/
theorem Holds.take (h : m.Holds p t) {n : Nat} (hn : n ≤ t.length) :
    0 ∉ (m.cells p).take n := by
  rcases h.cells with ⟨rest, hcells⟩
  rw [hcells, List.take_append_of_le_length hn]
  exact fun hmem => h.left (List.mem_of_mem_take hmem)

theorem Holds.unique {u : List UInt8} (h : m.Holds p t) (h' : m.Holds p u) :
    t = u := by
  rcases h.cells with ⟨rest, hcells⟩
  rcases h'.cells with ⟨rest', hcells'⟩
  have hcut : forall (x y : List UInt8), 0 ∉ x ->
      (x ++ 0 :: y).takeWhile (fun c => c != 0) = x := by
    intro x y hx
    rw [List.takeWhile_append_of_pos (fun _ hc => ne_nul_of_mem hx hc),
      List.takeWhile_cons_of_neg (by decide), List.append_nil]
  have heq := congrArg (List.takeWhile (fun c => c != 0))
    (hcells.symm.trans hcells')
  rwa [hcut t rest h.left, hcut u rest' h'.left] at heq

/-- `*p` is the first character, or the NUL. -/
theorem load_holds (h : m.Holds p t) : load p m = (some (t.headD 0), m) := by
  rcases h.cells with ⟨rest, hcells⟩
  unfold load
  rw [Program.get_bind_apply, hcells]
  cases t with
  | nil => rfl
  | cons c more => rfl

theorem peek_holds (h : m.Holds p t) {i : Nat} (hi : i ≤ t.length) :
    peek p i m = (some ((t.drop i).headD 0), m) := by
  have hrest : m.Holds (p.add i) (t.drop i) := by
    have hsplit := h
    rw [<- List.take_append_drop i t] at hsplit
    have hadd := hsplit.add
    rwa [List.length_take_of_le hi] at hadd
  unfold peek
  rw [Program.get_bind_apply, if_neg (h.take hi)]
  exact load_holds hrest

theorem peek_char {front back : List UInt8} {c : UInt8}
    (h : m.Holds p (front ++ c :: back)) :
    peek p front.length m = (some c, m) := by
  rw [peek_holds h (by rw [List.length_append]; omega), List.drop_left]
  rfl

theorem peek_nul (h : m.Holds p t) : peek p t.length m = (some 0, m) := by
  rw [peek_holds h (Nat.le_refl _), List.drop_length]
  rfl

theorem peek_zero (h : m.Holds p t) :
    peek p 0 m = (some (t.headD 0), m) :=
  peek_holds h (Nat.zero_le _)

theorem skip_holds (front : List UInt8) {back : List UInt8}
    (h : m.Holds p (front ++ back)) :
    skip p front.length m = (some (p.add front.length), m) := by
  have hle : front.length ≤ (front ++ back).length := by
    rw [List.length_append]
    omega
  have hlt := h.length_lt
  unfold skip
  rw [Program.get_bind_apply, if_neg]
  · rfl
  · intro hbad
    rcases hbad with hnul | hend
    · exact h.take hle hnul
    · omega

end Holds

/-!
## Walks
-/

/-- The walk of `scan` from `p[i]` on. -/
def scanFrom (keep : UInt8 -> Bool) (p : Ptr ι) :
    Nat -> Nat -> Program (Memory L) Nat
  | 0, _ => fault .outOfBounds
  | turns + 1, i => do
      let c ← peek p i
      if keep c = true then scanFrom keep p turns (i + 1) else pure i

/-- `while (keep(p[i])) i++;`, with a turn for each cell of the block. -/
def scan (keep : UInt8 -> Bool) (p : Ptr ι) : Program (Memory L) Nat := do
  let m ← Program.get
  scanFrom keep p (m.cells p).length 0

/-- `strlen` -/
def strlen (p : Ptr ι) : Program (Memory L) Nat :=
  scan (fun c => c != 0) p

/-- Compare two strings from the characters at `i` on, each passed through
`f`. -/
def compareFrom (f : UInt8 -> UInt8) (a b : Ptr ι) :
    Nat -> Nat -> Program (Memory L) Bool
  | 0, _ => fault .outOfBounds
  | turns + 1, i => do
      let ca ← peek a i
      let cb ← peek b i
      if f ca ≠ f cb then pure false
      else if f ca = 0 then pure true
      else compareFrom f a b turns (i + 1)

def compare (f : UInt8 -> UInt8) (a b : Ptr ι) : Program (Memory L) Bool := do
  let m ← Program.get
  compareFrom f a b (m.cells a).length 0

/-- `!strcmp(a, b)` -/
def strcmp (a b : Ptr ι) : Program (Memory L) Bool :=
  compare id a b

def strncmpFrom (a b : Ptr ι) : Nat -> Nat -> Program (Memory L) Bool
  | 0, _ => pure true
  | n + 1, i => do
      let ca ← peek a i
      let cb ← peek b i
      if ca ≠ cb then pure false
      else if ca = 0 then pure true
      else strncmpFrom a b n (i + 1)

/-- `!strncmp(a, b, n)` -/
def strncmp (a b : Ptr ι) (n : Nat) : Program (Memory L) Bool :=
  strncmpFrom a b n 0

section Walks

variable {m : Memory L}

omit [DecidableEq ι]

theorem scanFrom_holds {keep : UInt8 -> Bool} (hnul : keep 0 = false)
    {p : Ptr ι} (back : List UInt8) :
    forall {front : List UInt8} {turns : Nat}, m.Holds p (front ++ back) ->
      back.length < turns ->
        scanFrom keep p turns front.length m =
          (some (front.length + (back.takeWhile keep).length), m) := by
  induction back with
  | nil =>
      intro front turns h hturns
      cases turns with
      | zero => exact absurd hturns (Nat.not_lt_zero _)
      | succ turns =>
          rw [List.append_nil] at h
          unfold scanFrom
          rw [Program.bind_some (peek_nul h), if_neg (by rw [hnul]; decide)]
          rfl
  | cons c back ih =>
      intro front turns h hturns
      cases turns with
      | zero => exact absurd hturns (Nat.not_lt_zero _)
      | succ turns =>
          unfold scanFrom
          rw [Program.bind_some (peek_char h)]
          cases hkeep : keep c with
          | false =>
              rw [if_neg (by decide), List.takeWhile_cons_of_neg
                (by rw [hkeep]; decide)]
              rfl
          | true =>
              have hmore : m.Holds p ((front ++ [c]) ++ back) := by
                rwa [List.append_assoc, List.singleton_append]
              have hlen : (front ++ [c]).length = front.length + 1 :=
                List.length_append
              have hfuel : back.length < turns :=
                Nat.lt_of_succ_lt_succ hturns
              have hrest := ih hmore hfuel
              rw [hlen] at hrest
              rw [if_pos rfl, hrest, List.takeWhile_cons_of_pos hkeep,
                List.length_cons]
              congr 2
              omega

/-- A walk that a NUL ends goes over the part of the string that it keeps. -/
theorem scan_holds {keep : UInt8 -> Bool} (hnul : keep 0 = false) {p : Ptr ι}
    {t : List UInt8} (h : m.Holds p t) :
    scan keep p m = (some (t.takeWhile keep).length, m) := by
  have hwalk := scanFrom_holds hnul t (show m.Holds p ([] ++ t) from h)
    h.length_lt
  unfold scan
  rw [Program.get_bind_apply]
  exact hwalk.trans (by rw [List.length_nil, Nat.zero_add])

theorem strlen_holds {p : Ptr ι} {t : List UInt8} (h : m.Holds p t) :
    strlen p m = (some t.length, m) := by
  unfold strlen
  rw [scan_holds rfl h, takeWhile_text h.left]

theorem compareFrom_holds {f : UInt8 -> UInt8}
    (hf : forall c : UInt8, f c = 0 <-> c = 0) {a b : Ptr ι}
    (back : List UInt8) :
    forall {back' front front' : List UInt8} {turns : Nat},
      m.Holds a (front ++ back) -> m.Holds b (front' ++ back') ->
      front'.length = front.length -> back.length < turns ->
        compareFrom f a b turns front.length m =
          (some (decide (back.map f = back'.map f)), m) := by
  induction back with
  | nil =>
      intro back' front front' turns ha hb hlen hturns
      cases turns with
      | zero => exact absurd hturns (Nat.not_lt_zero _)
      | succ turns =>
          rw [List.append_nil] at ha
          unfold compareFrom
          rw [Program.bind_some (peek_nul ha), <- hlen]
          cases back' with
          | nil =>
              rw [List.append_nil] at hb
              rw [Program.bind_some (peek_nul hb), if_neg (by simp),
                if_pos ((hf 0).mpr rfl)]
              rfl
          | cons c' back' =>
              have hc' : f c' ≠ 0 := by
                intro hzero
                have hmem : (0 : UInt8) ∈ front' ++ c' :: back' := by
                  rw [(hf c').mp hzero]
                  exact List.mem_append_right front' List.mem_cons_self
                exact hb.left hmem
              rw [Program.bind_some (peek_char hb), (hf 0).mpr rfl,
                if_pos (Ne.symm hc')]
              rfl
  | cons c back ih =>
      intro back' front front' turns ha hb hlen hturns
      have hc : f c ≠ 0 := by
        intro hzero
        have hmem : (0 : UInt8) ∈ front ++ c :: back := by
          rw [(hf c).mp hzero]
          exact List.mem_append_right front List.mem_cons_self
        exact ha.left hmem
      cases turns with
      | zero => exact absurd hturns (Nat.not_lt_zero _)
      | succ turns =>
          unfold compareFrom
          rw [Program.bind_some (peek_char ha)]
          cases back' with
          | nil =>
              rw [List.append_nil] at hb
              rw [<- hlen, Program.bind_some (peek_nul hb), (hf 0).mpr rfl,
                if_pos hc]
              rfl
          | cons c' back' =>
              have hcheck := peek_char hb
              rw [hlen] at hcheck
              rw [Program.bind_some hcheck]
              by_cases heq : f c = f c'
              · have ha' : m.Holds a ((front ++ [c]) ++ back) := by
                  rwa [List.append_assoc, List.singleton_append]
                have hb' : m.Holds b ((front' ++ [c']) ++ back') := by
                  rwa [List.append_assoc, List.singleton_append]
                have hgrow : forall (l : List UInt8) (x : UInt8),
                    (l ++ [x]).length = l.length + 1 :=
                  fun _ _ => List.length_append
                have hfuel : back.length < turns :=
                  Nat.lt_of_succ_lt_succ hturns
                have hrest := ih ha' hb' (by rw [hgrow, hgrow, hlen]) hfuel
                rw [hgrow] at hrest
                rw [if_neg (not_not_intro heq), if_neg hc, hrest]
                simp only [List.map_cons, heq, List.cons.injEq, true_and]
              · rw [if_pos heq]
                simp only [List.map_cons, heq, List.cons.injEq, false_and,
                  decide_false]
                rfl

/-- Two strings are compared as lists. -/
theorem compare_holds {f : UInt8 -> UInt8}
    (hf : forall c : UInt8, f c = 0 <-> c = 0) {a b : Ptr ι}
    {t u : List UInt8} (ha : m.Holds a t) (hb : m.Holds b u) :
    compare f a b m = (some (decide (t.map f = u.map f)), m) := by
  unfold compare
  rw [Program.get_bind_apply]
  exact compareFrom_holds hf t (show m.Holds a ([] ++ t) from ha)
    (show m.Holds b ([] ++ u) from hb) rfl ha.length_lt

theorem strcmp_holds {a b : Ptr ι} {t u : List UInt8} (ha : m.Holds a t)
    (hb : m.Holds b u) : strcmp a b m = (some (decide (t = u)), m) := by
  have hid := compare_holds (f := id) (fun _ => Iff.rfl) ha hb
  rwa [List.map_id, List.map_id] at hid

theorem strncmpFrom_holds {a b : Ptr ι} (n : Nat) :
    forall {back back' front front' : List UInt8},
      m.Holds a (front ++ back) -> m.Holds b (front' ++ back') ->
      front'.length = front.length ->
        strncmpFrom a b n front.length m =
          (some (decide (back.take n = back'.take n)), m) := by
  induction n with
  | zero =>
      intro back back' front front' _ _ _
      rfl
  | succ n ih =>
      intro back back' front front' ha hb hlen
      have hne : forall {front back : List UInt8} {p : Ptr ι} {c : UInt8},
          m.Holds p (front ++ c :: back) -> c ≠ 0 := by
        intro front back p c h heq
        rw [heq] at h
        exact h.left (List.mem_append_right front List.mem_cons_self)
      unfold strncmpFrom
      cases back with
      | nil =>
          rw [List.append_nil] at ha
          rw [Program.bind_some (peek_nul ha), <- hlen]
          cases back' with
          | nil =>
              rw [List.append_nil] at hb
              rw [Program.bind_some (peek_nul hb)]
              rfl
          | cons c' back' =>
              rw [Program.bind_some (peek_char hb), if_pos (hne hb).symm]
              rfl
      | cons c back =>
          have hc := hne ha
          rw [Program.bind_some (peek_char ha)]
          cases back' with
          | nil =>
              rw [List.append_nil] at hb
              rw [<- hlen, Program.bind_some (peek_nul hb), if_pos hc]
              rfl
          | cons c' back' =>
              have hcheck := peek_char hb
              rw [hlen] at hcheck
              rw [Program.bind_some hcheck]
              by_cases heq : c = c'
              · have ha' : m.Holds a ((front ++ [c]) ++ back) := by
                  rwa [List.append_assoc, List.singleton_append]
                have hb' : m.Holds b ((front' ++ [c']) ++ back') := by
                  rwa [List.append_assoc, List.singleton_append]
                have hgrow : forall (l : List UInt8) (x : UInt8),
                    (l ++ [x]).length = l.length + 1 :=
                  fun _ _ => List.length_append
                have hrest := ih ha' hb' (by rw [hgrow, hgrow, hlen])
                rw [hgrow] at hrest
                rw [if_neg (not_not_intro heq), if_neg hc, hrest]
                simp only [List.take_succ_cons, heq, List.cons.injEq,
                  true_and]
              · rw [if_pos heq]
                simp only [List.take_succ_cons, heq, List.cons.injEq,
                  false_and, decide_false]
                rfl

theorem strncmp_holds {a b : Ptr ι} {t u : List UInt8} (ha : m.Holds a t)
    (hb : m.Holds b u) (n : Nat) :
    strncmp a b n m = (some (decide (t.take n = u.take n)), m) :=
  strncmpFrom_holds n (show m.Holds a ([] ++ t) from ha)
    (show m.Holds b ([] ++ u) from hb) rfl

end Walks

/-!
## Stores
-/

section Stores

variable {m : Memory L} {v w : ι}

@[simp] theorem setBlock_self (m : Memory L) (v : ι) (b : Buffer (L.size v)) :
    (m.setBlock v b).block v = b := by
  unfold setBlock
  exact Function.update_self (β := fun v => Buffer (L.size v)) v b m.block

theorem setBlock_other (m : Memory L) (b : Buffer (L.size v)) (h : w ≠ v) :
    (m.setBlock v b).block w = m.block w := by
  unfold setBlock
  exact Function.update_of_ne (β := fun v => Buffer (L.size v)) h b m.block

@[simp] theorem setBlock_faults (m : Memory L) (v : ι)
    (b : Buffer (L.size v)) : (m.setBlock v b).faults = m.faults := rfl

theorem setBlock_setBlock (m : Memory L) (v : ι) (b b' : Buffer (L.size v)) :
    (m.setBlock v b).setBlock v b' = m.setBlock v b' := by
  unfold setBlock
  simp only [Function.update_idem]

theorem setBlock_same (m : Memory L) (v : ι) :
    m.setBlock v (m.block v) = m := by
  unfold setBlock
  rw [Function.update_eq_self]

omit [DecidableEq ι] in
theorem mem_put_nul (b : Buffer (L.size v)) {off : Nat}
    (hoff : off < L.size v) : 0 ∈ (b.put off 0).bytes := by
  have hlen := b.bytes_length
  exact List.mem_set (by rw [hlen]; exact hoff) 0

/-- A store inside its block that leaves a string in it. -/
theorem store_block {off : Nat} {c : UInt8} (hoff : off < L.size v)
    (htext : L.isText v = true -> 0 ∈ ((m.block v).put off c).bytes) :
    store (.block v off) c m =
      (some (), m.setBlock v ((m.block v).put off c)) := by
  rw [store, Program.get_bind_apply, if_pos hoff, if_neg]
  · rfl
  · exact fun hbad => hbad.right (htext hbad.left)

theorem store_nul {off : Nat} (hoff : off < L.size v) :
    store (.block v off) 0 m =
      (some (), m.setBlock v ((m.block v).put off 0)) :=
  store_block hoff (fun _ => mem_put_nul _ hoff)

omit [DecidableEq ι] in
/-- A string stands in its own block only. -/
theorem Holds.of_block {m' : Memory L} {off : Nat} {t : List UInt8}
    (h : m.Holds (.block v off) t) (hsame : m'.block v = m.block v) :
    m'.Holds (.block v off) t := by
  refine ⟨h.left, ?_⟩
  show t ++ [0] <+: (m'.block v).bytes.drop off
  rw [hsame]
  exact h.right

/-- A store in front of a string or behind its NUL. -/
theorem Holds.put_outside {off i : Nat} {t : List UInt8}
    (h : m.Holds (.block v off) t) (hout : i < off ∨ off + t.length < i)
    (c : UInt8) :
    (m.setBlock v ((m.block v).put i c)).Holds (.block v off) t := by
  refine ⟨h.left, ?_⟩
  rcases h.right with ⟨rest, hrest⟩
  have hcells : (m.block v).bytes.drop off = t ++ [0] ++ rest := hrest.symm
  have hdrop : ((m.block v).bytes.set i c).drop off =
      if i < off then (m.block v).bytes.drop off
      else ((m.block v).bytes.drop off).set (i - off) c := List.drop_set
  show t ++ [0] <+: ((m.setBlock v ((m.block v).put i c)).block v).bytes.drop
    off
  rw [setBlock_self]
  show t ++ [0] <+: ((m.block v).bytes.set i c).drop off
  rw [hdrop, hcells]
  split_ifs with hlt
  · exact List.prefix_append _ _
  · rw [List.set_append_right _ _ (by
      rw [List.length_append, List.length_singleton]
      omega)]
    exact List.prefix_append _ _

/-- A NUL that is stored on a character of a string makes two strings of it. -/
theorem Holds.cut {off : Nat} {front back : List UInt8} {c : UInt8}
    (h : m.Holds (.block v off) (front ++ c :: back)) :
    (m.setBlock v ((m.block v).put (off + front.length) 0)).Holds
        (.block v off) front ∧
      (m.setBlock v ((m.block v).put (off + front.length) 0)).Holds
        (.block v (off + (front.length + 1))) back := by
  rcases h.right with ⟨rest, hrest⟩
  have hbytes : (m.block v).bytes.drop off =
      front ++ c :: (back ++ 0 :: rest) := by
    have hrest' := hrest.symm
    rw [List.append_assoc, List.append_assoc] at hrest'
    exact hrest'
  have hset : ((m.setBlock v ((m.block v).put (off + front.length) 0)).block
      v).bytes.drop off = front ++ 0 :: (back ++ 0 :: rest) := by
    rw [setBlock_self]
    show ((m.block v).bytes.set (off + front.length) 0).drop off = _
    rw [List.drop_set, if_neg (by omega), hbytes, Nat.add_sub_cancel_left,
      List.set_append_right _ _ (Nat.le_refl _), Nat.sub_self]
    rfl
  have hfront : 0 ∉ front := fun hmem =>
    h.left (List.mem_append_left _ hmem)
  have hback : 0 ∉ back := fun hmem =>
    h.left (List.mem_append_right front (List.mem_cons_of_mem c hmem))
  constructor
  case left =>
    refine ⟨hfront, ?_⟩
    show front ++ [0] <+: List.drop off _
    rw [hset]
    exact ⟨back ++ 0 :: rest, by rw [List.append_assoc]; rfl⟩
  case right =>
    refine ⟨hback, ?_⟩
    show back ++ [0] <+: List.drop (off + (front.length + 1)) _
    rw [<- List.drop_drop, hset, List.drop_append, Nat.add_sub_cancel_left,
      List.drop_eq_nil_of_le (by omega)]
    exact ⟨rest, by rw [List.append_assoc]; rfl⟩

omit [DecidableEq ι] in
theorem load_block {off : Nat} (hoff : off < L.size v) :
    load (.block v off) m = (some ((m.block v).get off), m) := by
  have hlt : off < (m.block v).bytes.length := by
    rw [(m.block v).bytes_length]
    exact hoff
  have hcells : m.cells (.block v off) =
      (m.block v).bytes[off] :: (m.block v).bytes.drop (off + 1) :=
    List.drop_eq_getElem_cons hlt
  unfold load
  rw [Program.get_bind_apply, hcells]
  show (some (m.block v).bytes[off], m) = _
  rw [Buffer.get, List.getD_eq_getElem?_getD, List.getElem?_eq_getElem hlt]
  rfl

omit [DecidableEq ι] in
theorem loadBytes_block {n : Nat} (hn : n ≤ L.size v) :
    loadBytes (.block v 0) n m = (some ((m.block v).slice 0 n), m) := by
  have hlen : n ≤ (m.cells (.block v 0)).length := by
    show n ≤ ((m.block v).bytes.drop 0).length
    rw [List.drop_zero, (m.block v).bytes_length]
    exact hn
  unfold loadBytes
  rw [Program.get_bind_apply, if_pos hlen]
  rfl

/-- The next byte of a block that is filled from its front. -/
theorem store_next {b : Buffer (L.size v)} {bs : List UInt8} {c : UInt8}
    (hv : L.isText v = false) (hlen : bs.length < L.size v) :
    store (.block v bs.length) c (m.setBlock v (b.write 0 bs)) =
      (some (), m.setBlock v (b.write 0 (bs ++ [c]))) := by
  rw [store_block hlen, setBlock_self, setBlock_setBlock, b.write_put c hlen]
  intro htext
  rw [hv] at htext
  cases htext

/-- Nothing but one block is different. -/
structure SameBut (v : ι) (m m' : Memory L) : Prop where
  faults : m'.faults = m.faults
  other : forall w : ι, w ≠ v -> m'.block w = m.block w

omit [DecidableEq ι] in
theorem SameBut.refl (v : ι) (m : Memory L) : SameBut v m m :=
  ⟨rfl, fun _ _ => rfl⟩

omit [DecidableEq ι] in
theorem SameBut.trans {m' m'' : Memory L} (h : SameBut v m m')
    (h' : SameBut v m' m'') : SameBut v m m'' :=
  ⟨h'.faults.trans h.faults,
    fun w hw => (h'.other w hw).trans (h.other w hw)⟩

theorem sameBut_setBlock (m : Memory L) (v : ι) (b : Buffer (L.size v)) :
    SameBut v m (m.setBlock v b) :=
  ⟨rfl, fun _ hw => setBlock_other m b hw⟩

omit [DecidableEq ι] in
theorem SameBut.holds {m' : Memory L} {p : Ptr ι} {t : List UInt8}
    (h : SameBut v m m') (hp : m.Holds p t)
    (hout : forall off : Nat, p ≠ .block v off) : m'.Holds p t := by
  cases p with
  | text bytes off => exact hp
  | block w off =>
      refine hp.of_block (h.other w ?_)
      intro heq
      rw [heq] at hout
      exact hout off rfl

end Stores

end Memory

/-!
## Blocks that hold a string
-/

/-- A block with the string `t` at its front and a NUL in its last byte. -/
structure Buffer.HoldsText {size : Nat} (b : Buffer size) (t : List UInt8) :
    Prop where
  text : 0 ∉ t
  front : t ++ [0] <+: b.bytes
  ends : b.slice (size - 1) 1 = [0]

namespace Buffer

variable {size : Nat} {b : Buffer size} {t : List UInt8}

theorem mem_of_ends (h : b.slice (size - 1) 1 = [0]) : 0 ∈ b.bytes := by
  have hmem : (0 : UInt8) ∈ b.slice (size - 1) 1 := by
    rw [h]
    exact List.mem_singleton_self 0
  exact List.mem_of_mem_drop (List.mem_of_mem_take hmem)

/-- Writing in front of the last byte leaves the NUL there. -/
theorem ends_write (h : b.slice (size - 1) 1 = [0]) {bs : List UInt8}
    (hlen : bs.length ≤ size - 1) :
    (b.write 0 bs).slice (size - 1) 1 = [0] := by
  rw [b.slice_write_after bs (by omega), h]

theorem ends_write_nul (h : b.slice (size - 1) 1 = [0]) (hsize : 0 < size)
    {bs : List UInt8} (hlen : bs.length ≤ size - 1) :
    (b.write 0 (bs ++ [0])).slice (size - 1) 1 = [0] := by
  have hgrow : (bs ++ [(0 : UInt8)]).length = bs.length + 1 :=
    List.length_append
  by_cases hlast : bs.length = size - 1
  · have hwithin := b.slice_write_within
      (show 0 + (bs ++ [(0 : UInt8)]).length ≤ size by omega)
      (show size - 1 + 1 ≤ (bs ++ [(0 : UInt8)]).length by omega)
    rw [Nat.zero_add, <- hlast, List.drop_left] at hwithin
    rw [<- hlast]
    exact hwithin
  · exact ends_write h (by omega)

/-- The string that has been copied into a block. -/
theorem holdsText_write (h : b.slice (size - 1) 1 = [0]) (hsize : 0 < size)
    (htext : 0 ∉ t) (hlen : t.length ≤ size - 1) :
    (b.write 0 (t ++ [0])).HoldsText t where
  text := htext
  front := by
    have hgrow : (t ++ [(0 : UInt8)]).length = t.length + 1 :=
      List.length_append
    rw [b.write_bytes (by omega), List.take_zero, List.nil_append]
    exact List.prefix_append _ _
  ends := ends_write_nul h hsize hlen

theorem HoldsText.length_lt (h : b.HoldsText t) : t.length < size := by
  have hlen := h.front.length_le
  rw [b.bytes_length, List.length_append, List.length_singleton] at hlen
  omega

/-- A NUL in front leaves the empty string. -/
theorem HoldsText.cleared (h : b.HoldsText t) : (b.put 0 0).HoldsText [] := by
  have hsize : 0 < size := Nat.zero_lt_of_lt h.length_lt
  have hput := b.write_put (0 : UInt8)
    (show ([] : List UInt8).length < size from hsize)
  rw [b.write_nil] at hput
  have hwrite := holdsText_write (t := []) h.ends hsize nofun (Nat.zero_le _)
  rw [<- hput] at hwrite
  exact hwrite

end Buffer

theorem Memory.store_clears [DecidableEq ι] {m : Memory L} {v : ι}
    {t : List UInt8} (h : (m.block v).HoldsText t) :
    (Memory.store (.block v 0) 0).Returns m (fun _ m' =>
      Memory.SameBut v m m' ∧ (m'.block v).HoldsText []) := by
  have hsize : 0 < L.size v := Nat.zero_lt_of_lt h.length_lt
  refine Program.returns_of_eq (Memory.store_nul hsize)
    ⟨Memory.sameBut_setBlock _ _ _, ?_⟩
  rw [Memory.setBlock_self]
  exact h.cleared

/-- The string `t` stands at `off` of a block. -/
def Buffer.HoldsAt {size : Nat} (b : Buffer size) (off : Nat)
    (t : List UInt8) : Prop :=
  0 ∉ t ∧ t ++ [0] <+: b.bytes.drop off

/-- A NUL behind the characters at the front makes them a string. -/
theorem Buffer.holdsAt_put {size : Nat} {b : Buffer size} {n : Nat}
    {t : List UInt8} (h : b.slice 0 n = t) (htext : 0 ∉ t) (hn : n < size) :
    (b.put n 0).HoldsAt 0 t := by
  have hwhole := b.slice_put_next 0 hn
  rw [h] at hwhole
  refine ⟨htext, ?_⟩
  rw [<- hwhole, Buffer.slice, List.drop_zero]
  exact List.take_prefix _ _

theorem holds_block {m : Memory L} {v : ι} {off : Nat} {t : List UInt8} :
    m.Holds (.block v off) t <-> (m.block v).HoldsAt off t := Iff.rfl

theorem Buffer.HoldsText.holds {m : Memory L} {v : ι} {t : List UInt8}
    (h : (m.block v).HoldsText t) : m.Holds (.block v 0) t :=
  ⟨h.text, h.front⟩

end Foundation
end Z80Tcpip
