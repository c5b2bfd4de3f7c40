import Z80Tcpip.Irc.InPlace

/-!
# The tokens of a message

A message is written as prefix, command, middle parameters and trailing text, with
spaces between them.  `splitLine` and calls of `nextParam` on the line find these
items again.  All strings are read at the end, when the last call has returned.
-/

namespace Z80Tcpip
namespace Irc

open Foundation
open Foundation.Program
open Foundation.Memory
open Client
open InPlace

structure Word where
  bytes : List UInt8
  nonempty : bytes ≠ []
  no_space : SPACE ∉ bytes
  no_nul : 0 ∉ bytes

/-- A word that cannot be taken for a prefix or for trailing text. -/
structure Middle extends Word where
  no_colon : bytes.head? ≠ some COLON

structure Text where
  bytes : List UInt8
  no_nul : 0 ∉ bytes

/-- The numbers count the spaces beside an item beyond the first: behind the
prefix, and in front of a parameter. -/
structure Message where
  front : Option (Word × Nat)
  command : Middle
  middle : List (Nat × Middle)
  trailing : Option (Nat × Text)

/-- `extra + 1` spaces. -/
def gap (extra : Nat) : List UInt8 :=
  SPACE :: List.replicate extra SPACE

def frontText : Option (Word × Nat) -> List UInt8
  | none => []
  | some (word, extra) => COLON :: (word.bytes ++ gap extra)

def trailingText : Option (Nat × Text) -> List UInt8
  | none => []
  | some (extra, text) => gap extra ++ COLON :: text.bytes

def paramText : List (Nat × Middle) -> Option (Nat × Text) -> List UInt8
  | [], last => trailingText last
  | (extra, word) :: more, last => gap extra ++ (word.bytes ++ paramText more last)

/-- `[:prefix ]command m1 ... mk[ :trailing]` -/
def Message.line (msg : Message) : List UInt8 :=
  frontText msg.front ++
    (msg.command.bytes ++ paramText msg.middle msg.trailing)

/-- The parameters, the trailing text last. -/
def paramBytes (middle : List (Nat × Middle)) (last : Option (Nat × Text)) :
    List (List UInt8) :=
  middle.map (fun x => x.2.bytes) ++ last.toList.map (fun x => x.2.bytes)

def Message.params (msg : Message) : List (List UInt8) :=
  paramBytes msg.middle msg.trailing

/-!
## Taking words from the text
-/

theorem nextWord_spaces (k : Nat) (t : List UInt8) :
    nextWord (List.replicate k SPACE ++ t) = nextWord t := by
  have hdrop : (List.replicate k SPACE ++ t).dropWhile (fun c => c == SPACE) =
      t.dropWhile (fun c => c == SPACE) := by
    apply List.dropWhile_append_of_pos
    intro c hc
    rw [List.eq_of_mem_replicate hc]
    rfl
  unfold nextWord
  rw [hdrop]

theorem nextParam_spaces (k : Nat) (t : List UInt8) :
    nextParam (List.replicate k SPACE ++ t) = nextParam t := by
  have hdrop : (List.replicate k SPACE ++ t).dropWhile (fun c => c == SPACE) =
      t.dropWhile (fun c => c == SPACE) := by
    apply List.dropWhile_append_of_pos
    intro c hc
    rw [List.eq_of_mem_replicate hc]
    rfl
  unfold nextParam
  rw [hdrop]

theorem nextParam_last {word : List UInt8} (h : SPACE ∉ word)
    (hcolon : word.head? ≠ some COLON) : nextParam word = (word, []) := by
  cases word with
  | nil => rfl
  | cons c more =>
      have hc : c ≠ COLON := by
        intro heq
        subst heq
        exact hcolon rfl
      rw [nextParam, dropWhile_space (head?_no_space h)]
      simp only [if_neg hc]
      exact nextWord_last h

/-- The results of `n` calls of `nextParam`. -/
def paramList : Nat -> List UInt8 -> List (List UInt8)
  | 0, _ => []
  | n + 1, t => (nextParam t).1 :: paramList n (nextParam t).2

theorem paramList_nil (n : Nat) : paramList n [] = List.replicate n [] := by
  induction n with
  | zero => rfl
  | succ n ih =>
      show [] :: paramList n [] = _
      rw [ih, List.replicate_succ]

theorem paramList_spaces (n k : Nat) (t : List UInt8) :
    paramList n (List.replicate k SPACE ++ t) = paramList n t := by
  cases n with
  | zero => rfl
  | succ n =>
      unfold paramList
      rw [nextParam_spaces]

theorem paramText_cases (middle : List (Nat × Middle))
    (last : Option (Nat × Text)) :
    paramText middle last = [] ∨ exists rest : List UInt8,
      paramText middle last = SPACE :: rest := by
  cases middle with
  | nil =>
      cases last with
      | none => exact Or.inl rfl
      | some x => exact Or.inr ⟨_, rfl⟩
  | cons x more => exact Or.inr ⟨_, rfl⟩

/-- A word in front of parameters is taken off them. -/
theorem nextWord_paramText (word : Word) (middle : List (Nat × Middle))
    (last : Option (Nat × Text)) (n : Nat) :
    (nextWord (word.bytes ++ paramText middle last)).1 = word.bytes ∧
      paramList n (nextWord (word.bytes ++ paramText middle last)).2 =
        paramList n (paramText middle last) := by
  rcases paramText_cases middle last with hnone | ⟨rest, hmore⟩
  · rw [hnone, List.append_nil, nextWord_last word.no_space]
    exact ⟨rfl, rfl⟩
  · rw [hmore, nextWord_append word.no_space word.nonempty]
    exact ⟨rfl, (paramList_spaces n 1 rest).symm⟩

/-- And so is a middle parameter. -/
theorem nextParam_paramText (word : Middle) (middle : List (Nat × Middle))
    (last : Option (Nat × Text)) (n : Nat) :
    (nextParam (word.bytes ++ paramText middle last)).1 = word.bytes ∧
      paramList n (nextParam (word.bytes ++ paramText middle last)).2 =
        paramList n (paramText middle last) := by
  rcases paramText_cases middle last with hnone | ⟨rest, hmore⟩
  · rw [hnone, List.append_nil, nextParam_last word.no_space word.no_colon]
    exact ⟨rfl, rfl⟩
  · rw [hmore, nextParam_middle word.no_space word.nonempty word.no_colon]
    exact ⟨rfl, (paramList_spaces n 1 rest).symm⟩

theorem paramList_paramText (last : Option (Nat × Text))
    (middle : List (Nat × Middle)) :
    forall n : Nat, paramList n (paramText middle last) =
      (paramBytes middle last ++ List.replicate n []).take n := by
  induction middle with
  | nil =>
      intro n
      cases last with
      | none =>
          show paramList n [] = (List.replicate n []).take n
          rw [paramList_nil, List.take_replicate, Nat.min_self]
      | some x =>
          cases n with
          | zero => rfl
          | succ n =>
              have htake : nextParam (paramText [] (some x)) =
                  (x.2.bytes, []) :=
                (nextParam_spaces (x.1 + 1) (COLON :: x.2.bytes)).trans
                  (nextParam_trailing x.2.bytes)
              show (nextParam (paramText [] (some x))).1 :: paramList n
                (nextParam (paramText [] (some x))).2 =
                  x.2.bytes :: (List.replicate (n + 1) []).take n
              rw [htake, paramList_nil, List.take_replicate,
                Nat.min_eq_left (Nat.le_succ n)]
  | cons x more ih =>
      intro n
      cases n with
      | zero => rfl
      | succ n =>
          have hskip : nextParam (paramText (x :: more) last) =
              nextParam (x.2.bytes ++ paramText more last) :=
            nextParam_spaces (x.1 + 1) _
          rcases nextParam_paramText x.2 more last n with ⟨hword, hrest⟩
          show (nextParam (paramText (x :: more) last)).1 :: paramList n
            (nextParam (paramText (x :: more) last)).2 = x.2.bytes ::
              (paramBytes more last ++ List.replicate (n + 1) []).take n
          have hroom : n ≤ (paramBytes more last ++
              List.replicate n []).length := by
            rw [List.length_append, List.length_replicate]
            omega
          rw [hskip, hword, hrest, ih, List.replicate_succ',
            <- List.append_assoc (paramBytes more last),
            List.take_append_of_le_length hroom]

/-- Prefix, command and parameters of the text of a message. -/
theorem splitLine_line (msg : Message) (n : Nat) :
    (splitLine msg.line).1 = msg.front.map (fun x => x.1.bytes) ∧
      (splitLine msg.line).2.1 = msg.command.bytes ∧
      paramList n (splitLine msg.line).2.2 =
        (msg.params ++ List.replicate n []).take n := by
  have hcommand := nextWord_paramText msg.command.toWord msg.middle
    msg.trailing n
  have hparams := paramList_paramText msg.trailing msg.middle n
  unfold Message.line
  cases hfront : msg.front with
  | none =>
      have hhead : (frontText none ++ (msg.command.bytes ++
          paramText msg.middle msg.trailing)).head? ≠ some COLON := by
        have hne := msg.command.nonempty
        have hcolon := msg.command.no_colon
        cases hbytes : msg.command.bytes with
        | nil => exact absurd hbytes hne
        | cons c more =>
            rw [hbytes] at hcolon
            exact hcolon
      have hlist : splitLine (frontText none ++ (msg.command.bytes ++
          paramText msg.middle msg.trailing)) =
            (none, nextWord (msg.command.bytes ++
              paramText msg.middle msg.trailing)) := if_neg hhead
      rw [hlist]
      exact ⟨rfl, hcommand.left, hcommand.right.trans hparams⟩
  | some x =>
      have hword : nextWord (x.1.bytes ++ SPACE ::
          (List.replicate x.2 SPACE ++ (msg.command.bytes ++
            paramText msg.middle msg.trailing))) =
              (x.1.bytes, List.replicate x.2 SPACE ++ (msg.command.bytes ++
                paramText msg.middle msg.trailing)) :=
        nextWord_append x.1.no_space x.1.nonempty _
      have hline : frontText (some x) ++ (msg.command.bytes ++
          paramText msg.middle msg.trailing) =
            COLON :: (x.1.bytes ++ SPACE :: (List.replicate x.2 SPACE ++
              (msg.command.bytes ++ paramText msg.middle msg.trailing))) := by
        simp only [frontText, gap, List.cons_append, List.append_assoc]
      have hlist : splitLine (frontText (some x) ++ (msg.command.bytes ++
          paramText msg.middle msg.trailing)) =
            (some x.1.bytes, nextWord (msg.command.bytes ++
              paramText msg.middle msg.trailing)) := by
        rw [hline]
        show (some (nextWord (x.1.bytes ++ SPACE :: _)).1,
          nextWord (nextWord (x.1.bytes ++ SPACE :: _)).2) = _
        rw [hword, nextWord_spaces]
      rw [hlist]
      exact ⟨rfl, hcommand.left, hcommand.right.trans hparams⟩

/-!
## Taking words from memory
-/

variable {ι : Type} {L : Layout ι} [DecidableEq ι]

/-- `n` calls of `nextParam`: what they return, and the cursor behind them. -/
def nextParams : Nat -> Ptr ι -> Program (Memory L) (List (Ptr ι) × Ptr ι)
  | 0, p => pure ([], p)
  | n + 1, p => do
      let (param, p) ← InPlace.nextParam p
      let (more, p) ← nextParams n p
      pure (param :: more, p)

/-- What `n` calls leave behind: the strings in place, those in front of the
cursor as they were, and nothing written outside of the string. -/
structure TakesAll (m : Memory L) (v : ι) (off : Nat) (t : List UInt8)
    (n : Nat) (m' : Memory L) (starts : List Nat) (cursor : Nat) : Prop where
  params : List.Forall₂ (fun start u => m'.Holds (.block v start) u) starts
    (paramList n t)
  only : OnlyWithin m m' v off t.length
  keeps : forall (at' : Nat) (u : List UInt8), m.Holds (.block v at') u ->
    at' + u.length ≤ off -> m'.Holds (.block v at') u
  low : off ≤ cursor
  high : cursor ≤ off + t.length

theorem nextParams_takes {v : ι} (n : Nat) :
    forall {m : Memory L} {off : Nat} {t : List UInt8},
      m.Holds (.block v off) t ->
        (nextParams n (.block v off)).Returns m (fun r m' =>
          exists (starts : List Nat) (cursor : Nat),
            r = (starts.map (Ptr.block v), .block v cursor) ∧
              TakesAll m v off t n m' starts cursor) := by
  induction n with
  | zero =>
      intro m off t h
      exact returns_pure ⟨[], off, rfl,
        { params := List.Forall₂.nil
          only := OnlyWithin.refl m v off t.length
          keeps := fun _ _ hu _ => hu
          low := Nat.le_refl off
          high := Nat.le_add_right off t.length }⟩
  | succ n ih =>
      intro m off t h
      unfold nextParams
      refine (nextParam_takes h).bind (fun r m1 hr => ?_)
      rcases hr with ⟨start, cursor, rfl, hfirst⟩
      refine (ih hfirst.left).bind (fun r m2 hr => ?_)
      rcases hr with ⟨starts, cursor', rfl, hrest⟩
      have hbehind := hfirst.behind
      have horder := hfirst.order
      have hfinish := hfirst.finish
      have hlow := hrest.low
      have hhigh := hrest.high
      refine returns_pure ⟨start :: starts, cursor', rfl, ?_⟩
      exact
        { params := List.Forall₂.cons
            (hrest.keeps start _ hfirst.taken horder) hrest.params
          only := hfirst.cut.onlyWithin.trans hrest.only (by omega) (by omega)
          keeps := fun at' u hu hend => hrest.keeps at' u
            (hfirst.cut.keeps h hu hend) (by omega)
          low := by omega
          high := by omega }

/-- The strings that the tokens of a line have been returned as. -/
structure Tokens (ι : Type) where
  front : Option (Ptr ι)
  cmd : Ptr ι
  params : List (Ptr ι)
  cursor : Ptr ι

/-- The start of `handle_server_line` and `n` calls of `next_param`. -/
def tokens (n : Nat) (line : Ptr ι) : Program (Memory L) (Tokens ι) := do
  let (front, cmd, p) ← InPlace.splitLine line
  let (params, cursor) ← nextParams n p
  pure { front, cmd, params, cursor }

/-- The items of a message in memory, after however many calls: as many of its
parameters, and empty strings behind the last one.  The line ends at
`off + msg.line.length`. -/
theorem tokens_recovered (msg : Message) {m : Memory L} {v : ι} {off : Nat}
    (h : m.Holds (.block v off) msg.line) (n : Nat) :
    (tokens n (.block v off)).Returns m (fun r m' =>
      Option.Rel m'.Holds r.front (msg.front.map (fun x => x.1.bytes)) ∧
        m'.Holds r.cmd msg.command.bytes ∧
        List.Forall₂ m'.Holds r.params
          ((msg.params ++ List.replicate n []).take n) ∧
        (exists cursor : Nat, cursor ≤ off + msg.line.length ∧
          r.cursor = .block v cursor) ∧
        OnlyWithin m m' v off msg.line.length) := by
  rcases splitLine_line msg n with ⟨hfront, hcmd, hparams⟩
  refine (splitLine_splits h).bind (fun r m1 hr => ?_)
  rcases hr with ⟨frontAt, cmdAt, cursor, rfl, hstart⟩
  refine (nextParams_takes n hstart.left).bind (fun r m2 hr => ?_)
  rcases hr with ⟨starts, cursor', rfl, hrest⟩
  have hbehind := hstart.behind
  have horder := hstart.order
  have hfinish := hstart.finish
  have hlow := hrest.low
  have hhigh := hrest.high
  have hfront : Option.Rel m2.Holds (frontAt.map (Ptr.block v))
      (msg.front.map (fun x => x.1.bytes)) := by
    have hrel := hstart.front
    rw [hfront] at hrel
    revert hrel
    generalize msg.front.map (fun x => x.1.bytes) = word
    intro hrel
    cases hrel with
    | none => exact Option.Rel.none
    | some hword =>
        exact Option.Rel.some
          (hrest.keeps _ _ hword.left (by have hend := hword.right; omega))
  have hcommand : m2.Holds (.block v cmdAt) msg.command.bytes := by
    rw [<- hcmd]
    exact hrest.keeps cmdAt _ hstart.cmd horder
  have hlist : List.Forall₂ m2.Holds (starts.map (Ptr.block v))
      ((msg.params ++ List.replicate n []).take n) := by
    rw [<- hparams]
    exact List.forall₂_map_left_iff.mpr hrest.params
  have hend : cursor' ≤ off + msg.line.length := by
    omega
  exact returns_pure ⟨hfront, hcommand, hlist, ⟨cursor', hend, rfl⟩,
    hstart.only.trans hrest.only (by omega) (by omega)⟩

/-- A line in a block of its own. -/
def lineMemory (t : List UInt8) :
    Memory { size := fun _ : Unit => t.length + 1, isText := fun _ => false }
    where
  block := fun _ => ⟨t ++ [0], List.length_append⟩
  faults := []

theorem lineMemory_holds {t : List UInt8} (h : 0 ∉ t) :
    (lineMemory t).Holds (.block () 0) t :=
  ⟨h, List.prefix_refl _⟩

/-- `:a!b@c TOPIC  #x : hi`, and a call more than it has parameters. -/
def topicMessage : Message where
  front := some (⟨ascii "a!b@c", by decide, by decide, by decide⟩, 0)
  command := ⟨⟨ascii "TOPIC", by decide, by decide, by decide⟩, by decide⟩
  middle := [(1, ⟨⟨ascii "#x", by decide, by decide, by decide⟩, by decide⟩)]
  trailing := some (0, ⟨ascii " hi", by decide⟩)

theorem tokens_recovered_topic :
    (tokens 3 (.block () 0)).Returns (lineMemory topicMessage.line)
      (fun r m' =>
        Option.Rel m'.Holds r.front (some (ascii "a!b@c")) ∧
          m'.Holds r.cmd (ascii "TOPIC") ∧
          List.Forall₂ m'.Holds r.params [ascii "#x", ascii " hi", []] ∧
          (exists cursor : Nat, cursor ≤ 0 + topicMessage.line.length ∧
            r.cursor = .block () cursor) ∧
          OnlyWithin (lineMemory topicMessage.line) m' () 0
            topicMessage.line.length) :=
  tokens_recovered topicMessage (lineMemory_holds (by decide)) 3

end Irc
end Z80Tcpip
