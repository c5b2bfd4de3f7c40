import Z80Tcpip.Foundation.Program

/-!
# Programs that return

`Returns p s post`: from `s` the program returns, with `post` of its result and
of the state that it leaves.  The rules follow the ways in which programs are put
together.
-/

namespace Z80Tcpip
namespace Foundation
namespace Program

variable {σ α β κ : Type}

def Returns (p : Program σ α) (s : σ) (post : α -> σ -> Prop) : Prop :=
  exists (a : α) (s' : σ), p s = (some a, s') ∧ post a s'

/-- `body` for each element. -/
def each (body : κ -> Program σ Unit) : List κ -> Program σ Unit
  | [] => pure ()
  | k :: more => do
      body k
      each body more

section Rules

variable {p : Program σ α} {s : σ} {post mid : α -> σ -> Prop}

theorem returns_of_eq {a : α} {s' : σ} (h : p s = (some a, s'))
    (hpost : post a s') : p.Returns s post :=
  ⟨a, s', h, hpost⟩

theorem returns_pure {a : α} (h : post a s) :
    (pure a : Program σ α).Returns s post :=
  returns_of_eq rfl h

theorem returns_modify {f : σ -> σ} {post : Unit -> σ -> Prop}
    (h : post () (f s)) : (modify f).Returns s post :=
  returns_of_eq rfl h

theorem Returns.mono (h : p.Returns s mid)
    (hpost : forall a s', mid a s' -> post a s') : p.Returns s post := by
  rcases h with ⟨a, s', hrun, hmid⟩
  exact ⟨a, s', hrun, hpost a s' hmid⟩

theorem Returns.bind {f : α -> Program σ β} {post : β -> σ -> Prop}
    (h : p.Returns s mid)
    (hf : forall a s', mid a s' -> (f a).Returns s' post) :
    (p >>= f).Returns s post := by
  rcases h with ⟨a, s', hrun, hmid⟩
  rcases hf a s' hmid with ⟨b, s'', hrest, hpost⟩
  exact ⟨b, s'', (bind_some hrun f).trans hrest, hpost⟩

/-- A part of which the result is known. -/
theorem returns_bind_of_eq {f : α -> Program σ β} {post : β -> σ -> Prop}
    {a : α} {s' : σ} (h : p s = (some a, s'))
    (hf : (f a).Returns s' post) : (p >>= f).Returns s post := by
  rcases hf with ⟨b, s'', hrest, hpost⟩
  exact ⟨b, s'', (bind_some h f).trans hrest, hpost⟩

theorem Returns.result {a : α} {s' : σ} (h : p.Returns s post)
    (hrun : p s = (some a, s')) : post a s' := by
  rcases h with ⟨b, s'', hrun', hpost⟩
  rw [hrun] at hrun'
  cases hrun'
  exact hpost

end Rules

/-!
## Loops
-/

/-- An invariant of a counting loop, by the counter. -/
theorem returns_each_range' (inv : Nat -> σ -> Prop)
    {body : Nat -> Program σ Unit} {n : Nat} :
    forall {start : Nat} {s : σ},
      (forall (i : Nat) (s : σ), start ≤ i -> i < start + n -> inv i s ->
        (body i).Returns s (fun _ => inv (i + 1))) ->
      inv start s ->
        (each body (List.range' start n)).Returns s
          (fun _ => inv (start + n)) := by
  induction n with
  | zero => exact fun _ hs => returns_pure hs
  | succ n ih =>
      intro start s hbody hs
      have hfirst := hbody start s (Nat.le_refl start) (by omega) hs
      refine hfirst.bind (fun _ s' hs' => ?_)
      rw [show start + (n + 1) = start + 1 + n by omega]
      exact ih (fun i t hlow hhigh => hbody i t (by omega) (by omega)) hs'

/-- An invariant of a loop over a list, by what the loop has gone through. -/
theorem returns_each (inv : List κ -> σ -> Prop) {body : κ -> Program σ Unit}
    (hbody : forall (done : List κ) (k : κ) (s : σ), inv done s ->
      (body k).Returns s (fun _ => inv (done ++ [k]))) (ks : List κ) :
    forall (done : List κ) {s : σ}, inv done s ->
      (each body ks).Returns s (fun _ => inv (done ++ ks)) := by
  induction ks with
  | nil =>
      intro done s hs
      rw [List.append_nil]
      exact returns_pure hs
  | cons k more ih =>
      intro done s hs
      refine (hbody done k s hs).bind (fun _ s' hs' => ?_)
      have hrest := ih (done ++ [k]) hs'
      rw [List.append_assoc, List.singleton_append] at hrest
      exact hrest

end Program

end Foundation
end Z80Tcpip
