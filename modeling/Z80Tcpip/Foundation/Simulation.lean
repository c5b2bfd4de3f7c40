import Z80Tcpip.Foundation.Returns

/-!
# Two programs side by side

`Mirrors p s q t post stopped`: `p` from `s` and `q` from `t` take the same way
out.  Both return, with one result and `post` of it and of the states that they
leave, or both stop, with `stopped` of those states.  A part of which it is known
that it returns may stand on one side only.
-/

namespace Z80Tcpip
namespace Foundation
namespace Program

variable {σ τ α β κ : Type}

def Mirrors (p : Program σ α) (s : σ) (q : Program τ α) (t : τ)
    (post : α -> σ -> τ -> Prop) (stopped : σ -> τ -> Prop) : Prop :=
  (exists (a : α) (s' : σ) (t' : τ),
      p s = (some a, s') ∧ q t = (some a, t') ∧ post a s' t') ∨
    (exists (s' : σ) (t' : τ),
      p s = (none, s') ∧ q t = (none, t') ∧ stopped s' t')

section Rules

variable {p : Program σ α} {s : σ} {q : Program τ α} {t : τ}
  {post mid : α -> σ -> τ -> Prop} {stopped : σ -> τ -> Prop}

theorem mirrors_of_eq {a : α} {s' : σ} {t' : τ} (hp : p s = (some a, s'))
    (hq : q t = (some a, t')) (hpost : post a s' t') :
    Mirrors p s q t post stopped :=
  Or.inl ⟨a, s', t', hp, hq, hpost⟩

theorem mirrors_stopped {s' : σ} {t' : τ} (hp : p s = (none, s'))
    (hq : q t = (none, t')) (hstopped : stopped s' t') :
    Mirrors p s q t post stopped :=
  Or.inr ⟨s', t', hp, hq, hstopped⟩

theorem mirrors_pure {a : α} (h : post a s t) :
    Mirrors (pure a) s (pure a) t post stopped :=
  mirrors_of_eq rfl rfl h

theorem mirrors_modify {f : σ -> σ} {g : τ -> τ}
    {post : Unit -> σ -> τ -> Prop} (h : post () (f s) (g t)) :
    Mirrors (modify f) s (modify g) t post stopped :=
  mirrors_of_eq rfl rfl h

/-- The same ways out from elsewhere. -/
theorem Mirrors.of_eq {p' : Program σ α} {s₀ : σ} {q' : Program τ α} {t₀ : τ}
    (h : Mirrors p s q t post stopped) (hp : p' s₀ = p s)
    (hq : q' t₀ = q t) : Mirrors p' s₀ q' t₀ post stopped := by
  unfold Mirrors
  rw [hp, hq]
  exact h

theorem Mirrors.mono (h : Mirrors p s q t mid stopped)
    (hpost : forall a s' t', mid a s' t' -> post a s' t') :
    Mirrors p s q t post stopped := by
  cases h with
  | inl hsome =>
      rcases hsome with ⟨a, s', t', hp, hq, hmid⟩
      exact mirrors_of_eq hp hq (hpost a s' t' hmid)
  | inr hnone =>
      rcases hnone with ⟨s', t', hp, hq, hstopped⟩
      exact mirrors_stopped hp hq hstopped

theorem Mirrors.bind {f : α -> Program σ β} {g : α -> Program τ β}
    {post : β -> σ -> τ -> Prop} (h : Mirrors p s q t mid stopped)
    (hf : forall a s' t', mid a s' t' ->
      Mirrors (f a) s' (g a) t' post stopped) :
    Mirrors (p >>= f) s (q >>= g) t post stopped := by
  cases h with
  | inl hsome =>
      rcases hsome with ⟨a, s', t', hp, hq, hmid⟩
      exact (hf a s' t' hmid).of_eq (bind_some hp f) (bind_some hq g)
  | inr hnone =>
      rcases hnone with ⟨s', t', hp, hq, hstopped⟩
      exact mirrors_stopped (bind_none hp f) (bind_none hq g) hstopped

/-- What is known of one side, carried over to the other. -/
theorem Mirrors.outcome {R : σ -> τ -> Prop} {known : α -> τ -> Prop}
    {knownStopped : τ -> Prop} {wanted : α -> σ -> Prop}
    {wantedStopped : σ -> Prop} (h : Mirrors p s q t (fun _ => R) R)
    (hq : Outcome known knownStopped (q t))
    (hpost : forall a s' t', (q t).2 = t' -> R s' t' -> known a t' ->
      wanted a s')
    (hstopped : forall s' t', (q t).2 = t' -> R s' t' -> knownStopped t' ->
      wantedStopped s') : Outcome wanted wantedStopped (p s) := by
  cases h with
  | inl hsome =>
      rcases hsome with ⟨a, s', t', hp, hq', hR⟩
      rw [hq'] at hq
      rw [hp]
      exact hpost a s' t' (congrArg Prod.snd hq') hR hq
  | inr hnone =>
      rcases hnone with ⟨s', t', hp, hq', hR⟩
      rw [hq'] at hq
      rw [hp]
      exact hstopped s' t' (congrArg Prod.snd hq') hR hq

/-- A part that only the left side has. -/
theorem mirrors_left {p : Program σ κ} {f : κ -> Program σ α} {a : κ}
    {s' : σ} (hp : p s = (some a, s'))
    (hf : Mirrors (f a) s' q t post stopped) :
    Mirrors (p >>= f) s q t post stopped :=
  hf.of_eq (bind_some hp f) rfl

theorem Returns.bind_left {p : Program σ κ} {f : κ -> Program σ α}
    {left : κ -> σ -> Prop} (h : p.Returns s left)
    (hf : forall a s', left a s' -> Mirrors (f a) s' q t post stopped) :
    Mirrors (p >>= f) s q t post stopped := by
  rcases h with ⟨a, s', hp, hleft⟩
  exact mirrors_left hp (hf a s' hleft)

/-- A part that only the right side has. -/
theorem mirrors_right {q : Program τ κ} {g : κ -> Program τ α} {a : κ}
    {t' : τ} (hq : q t = (some a, t'))
    (hg : Mirrors p s (g a) t' post stopped) :
    Mirrors p s (q >>= g) t post stopped :=
  hg.of_eq rfl (bind_some hq g)

/-- What the calls keep, the loop keeps. -/
theorem mirrors_loop {body : κ -> Program σ Bool}
    {body' : κ -> Program τ Bool} {R : σ -> τ -> Prop}
    (hbody : forall k s t, R s t ->
      Mirrors (body k) s (body' k) t (fun _ => R) stopped) (ks : List κ) :
    forall {s : σ} {t : τ}, R s t ->
      Mirrors (loop body ks) s (loop body' ks) t (fun _ => R) stopped := by
  induction ks with
  | nil => exact fun h => mirrors_pure h
  | cons k more ih =>
      intro s t h
      refine (hbody k s t h).bind (fun running s' t' h' => ?_)
      cases running with
      | true => exact ih h'
      | false => exact mirrors_pure h'

end Rules

end Program

end Foundation
end Z80Tcpip
