import Mathlib.Init

/-!
# Labelled runs

A run of a labelled step relation keeps the state behind each of its steps.
What one step preserves holds along a run.  Where a step preserves a property
exactly if it meets a condition, a run does exactly if all its steps meet it.
-/

namespace Z80Tcpip
namespace Foundation

variable {State Label : Type}

inductive Trace (step : State -> Label -> State -> Prop) :
    State -> List (Label × State) -> State -> Prop where
  | nil (s : State) : Trace step s [] s
  | cons {s s1 s' : State} {a : Label} {run : List (Label × State)} :
      step s a s1 -> Trace step s1 run s' -> Trace step s ((a, s1) :: run) s'

/-- Every state that the run reaches. -/
def Always (I : State -> Prop) (run : List (Label × State)) : Prop :=
  forall x, x ∈ run -> I x.2

/-- Every step of a run that begins in the given state. -/
def EachStep (ok : State -> Label -> State -> Prop) :
    State -> List (Label × State) -> Prop
  | _, [] => True
  | s, (a, s1) :: run => ok s a s1 ∧ EachStep ok s1 run

theorem always_cons {I : State -> Prop} {a : Label} {s : State}
    {run : List (Label × State)} :
    Always I ((a, s) :: run) <-> I s ∧ Always I run := by
  unfold Always
  constructor
  · intro h
    exact ⟨h (a, s) List.mem_cons_self,
      fun x hx => h x (List.mem_cons_of_mem _ hx)⟩
  · intro h x hx
    cases hx with
    | head => exact h.left
    | tail _ hx => exact h.right x hx

namespace Trace

variable {step : State -> Label -> State -> Prop} {s s' s'' : State}
  {run more : List (Label × State)}

theorem single {a : Label} (h : step s a s') : Trace step s [(a, s')] s' :=
  .cons h (.nil s')

theorem append (h : Trace step s run s') (h' : Trace step s' more s'') :
    Trace step s (run ++ more) s'' := by
  induction h with
  | nil => exact h'
  | cons hstep _ ih => exact .cons hstep (ih h')

/-- The rule for invariants, with what they say about each step. -/
theorem upholds {I : State -> Prop} {ok : State -> Label -> State -> Prop}
    (hkeep : forall s a s', step s a s' -> I s -> ok s a s' ∧ I s')
    (h : Trace step s run s') (hstart : I s) :
    EachStep ok s run ∧ Always I run ∧ I s' := by
  induction h with
  | nil s =>
      refine ⟨trivial, ?_, hstart⟩
      intro x hx
      cases hx
  | cons hstep _ ih =>
      rcases hkeep _ _ _ hstep hstart with ⟨hok, hnext⟩
      rcases ih hnext with ⟨heach, halways, hend⟩
      exact ⟨⟨hok, heach⟩, always_cons.mpr ⟨hnext, halways⟩, hend⟩

/-- A property that a step of the invariant `I` keeps if and only if it meets
`ok`. -/
theorem always_iff {I Good : State -> Prop}
    {ok : State -> Label -> State -> Prop}
    (hkeep : forall s a s', step s a s' -> I s -> I s')
    (hgood : forall s a s', step s a s' -> I s -> Good s ->
      (Good s' <-> ok s a s'))
    (h : Trace step s run s') (hinv : I s) (hstart : Good s) :
    Always Good run <-> EachStep ok s run := by
  induction h with
  | nil s =>
      refine iff_of_true ?_ trivial
      intro x hx
      cases hx
  | cons hstep _ ih =>
      rw [always_cons, EachStep, hgood _ _ _ hstep hinv hstart]
      constructor
      · intro h
        have hnext := (hgood _ _ _ hstep hinv hstart).mpr h.left
        exact ⟨h.left, (ih (hkeep _ _ _ hstep hinv) hnext).mp h.right⟩
      · intro h
        have hnext := (hgood _ _ _ hstep hinv hstart).mpr h.left
        exact ⟨h.left, (ih (hkeep _ _ _ hstep hinv) hnext).mpr h.right⟩

end Trace

/-!
## Histories
-/

section Histories

variable {α β : Type} (f : α -> Option β) (history : List α)

/-- What one more entry adds to what is picked out of a history. -/
theorem filterMap_concat (a : α) :
    (history ++ [a]).filterMap f = history.filterMap f ++ (f a).toList := by
  rw [List.filterMap_append]
  cases h : f a with
  | none => rw [List.filterMap_cons_none h]; rfl
  | some b => rw [List.filterMap_cons_some h]; rfl

theorem filterMap_concat_none {a : α} (h : f a = none) :
    (history ++ [a]).filterMap f = history.filterMap f := by
  rw [filterMap_concat, h]
  exact List.append_nil _

end Histories

end Foundation
end Z80Tcpip
