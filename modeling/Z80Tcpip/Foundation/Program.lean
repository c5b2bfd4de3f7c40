/-!
# Programs that may stop

A program over a state returns a value and a new state, or it stops for good and
leaves a state behind: it has left the process, or has run out of the fuel for
its loops.  Both ways out keep the state, so that what a program did before it
stopped can be talked about.
-/

namespace Z80Tcpip
namespace Foundation

def Program (σ α : Type) : Type :=
  σ -> Option α × σ

namespace Program

variable {σ τ α β κ : Type}

def ret (a : α) : Program σ α := fun s => (some a, s)

def andThen (p : Program σ α) (f : α -> Program σ β) : Program σ β := fun s =>
  match p s with
  | (none, s') => (none, s')
  | (some a, s') => f a s'

instance : Monad (Program σ) where
  pure := ret
  bind := andThen

def stop : Program σ α := fun s => (none, s)

def get : Program σ σ := fun s => (some s, s)

def modify (f : σ -> σ) : Program σ Unit := fun s => (some (), f s)

/-- One call of `body` for each element, as long as the calls return `true`. -/
def loop (body : κ -> Program σ Bool) : List κ -> Program σ Bool
  | [] => pure true
  | k :: more => do
      let running ← body k
      if running = true then loop body more else pure false

/-!
## Running a program
-/

@[simp] theorem pure_apply (a : α) (s : σ) :
    (pure a : Program σ α) s = (some a, s) := rfl

@[simp] theorem get_apply (s : σ) : (get : Program σ σ) s = (some s, s) := rfl

@[simp] theorem modify_apply (f : σ -> σ) (s : σ) :
    modify f s = (some (), f s) := rfl

@[simp] theorem stop_apply (s : σ) : (stop : Program σ α) s = (none, s) := rfl

theorem bind_some {p : Program σ α} {s s' : σ} {a : α}
    (h : p s = (some a, s')) (f : α -> Program σ β) :
    (p >>= f) s = f a s' := by
  show andThen p f s = f a s'
  rw [andThen, h]

theorem bind_none {p : Program σ α} {s s' : σ} (h : p s = (none, s'))
    (f : α -> Program σ β) : (p >>= f) s = (none, s') := by
  show andThen p f s = (none, s')
  rw [andThen, h]

@[simp] theorem pure_bind_apply (a : α) (f : α -> Program σ β) (s : σ) :
    ((pure a : Program σ α) >>= f) s = f a s := rfl

@[simp] theorem get_bind_apply (f : σ -> Program σ β) (s : σ) :
    ((get : Program σ σ) >>= f) s = f s s := rfl

@[simp] theorem modify_bind_apply (g : σ -> σ) (f : Unit -> Program σ β)
    (s : σ) : (modify g >>= f) s = f () (g s) := rfl

@[simp] theorem bind_assoc_apply (p : Program σ α) (f : α -> Program σ β)
    (g : β -> Program σ τ) (s : σ) :
    ((p >>= f) >>= g) s = (p >>= fun a => f a >>= g) s := by
  rcases h : p s with ⟨_ | a, s'⟩
  · rw [bind_none h, bind_none (bind_none h f)]
  · rw [bind_some h]
    rcases hf : f a s' with ⟨_ | b, s''⟩
    · rw [bind_none hf, bind_none ((bind_some h f).trans hf)]
    · rw [bind_some hf, bind_some ((bind_some h f).trans hf)]

/-- A sequence that returns has returned from both of its parts. -/
theorem of_bind_some {p : Program σ α} {f : α -> Program σ β} {s s' : σ}
    {b : β} (h : (p >>= f) s = (some b, s')) :
    exists (a : α) (s1 : σ), p s = (some a, s1) ∧ f a s1 = (some b, s') := by
  rcases hp : p s with ⟨_ | a, s1⟩
  · rw [bind_none hp] at h
    cases h
  · rw [bind_some hp] at h
    exact ⟨a, s1, rfl, h⟩

/-!
## Pre- and postconditions
-/

/-- What holds of the way out of a program. -/
def Outcome (post : α -> σ -> Prop) (stopped : σ -> Prop) :
    Option α × σ -> Prop
  | (some a, s) => post a s
  | (none, s) => stopped s

/-- From a state with `pre` the program returns with `post`, or stops with
`stopped`. -/
def Ensures (pre : σ -> Prop) (p : Program σ α) (post : α -> σ -> Prop)
    (stopped : σ -> Prop) : Prop :=
  forall s : σ, pre s -> Outcome post stopped (p s)

theorem Ensures.of_some {pre : σ -> Prop} {p : Program σ α}
    {post : α -> σ -> Prop} {stopped : σ -> Prop}
    (h : Ensures pre p post stopped) {s s' : σ} {a : α} (hs : pre s)
    (hrun : p s = (some a, s')) : post a s' := by
  have hout := h s hs
  rw [hrun] at hout
  exact hout

theorem Ensures.mono {pre pre' : σ -> Prop} {p : Program σ α}
    {post post' : α -> σ -> Prop} {stopped stopped' : σ -> Prop}
    (h : Ensures pre p post stopped) (hpre : forall s, pre' s -> pre s)
    (hpost : forall a s, post a s -> post' a s)
    (hstopped : forall s, stopped s -> stopped' s) :
    Ensures pre' p post' stopped' := by
  intro s hs
  have hout := h s (hpre s hs)
  rcases hrun : p s with ⟨_ | a, s'⟩
  · rw [hrun] at hout
    exact hstopped s' hout
  · rw [hrun] at hout
    exact hpost a s' hout

theorem Ensures.and {pre pre' : σ -> Prop} {p : Program σ α}
    {post post' : α -> σ -> Prop} {stopped stopped' : σ -> Prop}
    (h : Ensures pre p post stopped) (h' : Ensures pre' p post' stopped') :
    Ensures (fun s => pre s ∧ pre' s) p (fun a s => post a s ∧ post' a s)
      (fun s => stopped s ∧ stopped' s) := by
  intro s hboth
  rcases hboth with ⟨hs, hs'⟩
  have hout := h s hs
  have hout' := h' s hs'
  rcases hrun : p s with ⟨_ | a, s'⟩
  · rw [hrun] at hout hout'
    exact ⟨hout, hout'⟩
  · rw [hrun] at hout hout'
    exact ⟨hout, hout'⟩

theorem ensures_pure {pre : σ -> Prop} {post : α -> σ -> Prop}
    {stopped : σ -> Prop} {a : α} (h : forall s, pre s -> post a s) :
    Ensures pre (pure a) post stopped :=
  h

theorem ensures_stop {pre : σ -> Prop} {post : α -> σ -> Prop}
    {stopped : σ -> Prop} (h : forall s, pre s -> stopped s) :
    Ensures pre (stop : Program σ α) post stopped :=
  h

theorem ensures_modify {pre : σ -> Prop} {post : Unit -> σ -> Prop}
    {stopped : σ -> Prop} {f : σ -> σ}
    (h : forall s, pre s -> post () (f s)) :
    Ensures pre (modify f) post stopped :=
  h

theorem ensures_bind {pre : σ -> Prop} {p : Program σ α}
    {mid : α -> σ -> Prop} {f : α -> Program σ β} {post : β -> σ -> Prop}
    {stopped : σ -> Prop} (hp : Ensures pre p mid stopped)
    (hf : forall a, Ensures (mid a) (f a) post stopped) :
    Ensures pre (p >>= f) post stopped := by
  intro s hs
  have hout := hp s hs
  rcases hrun : p s with ⟨_ | a, s'⟩
  · rw [hrun] at hout
    rw [bind_none hrun]
    exact hout
  · rw [hrun] at hout
    rw [bind_some hrun]
    exact hf a s' hout

theorem ensures_true (p : Program σ α) :
    Ensures (fun _ => True) p (fun _ _ => True) (fun _ => True) := by
  intro s _
  rcases hrun : p s with ⟨_ | a, s'⟩
  · trivial
  · trivial

/-- `get` hands the state itself on. -/
theorem ensures_get_bind {pre : σ -> Prop} {f : σ -> Program σ β}
    {post : β -> σ -> Prop} {stopped : σ -> Prop}
    (h : forall s, pre s -> Outcome post stopped (f s s)) :
    Ensures pre (get >>= f) post stopped :=
  h

/-- An invariant of the calls is an invariant of the loop. -/
theorem ensures_loop {body : κ -> Program σ Bool} {inv : σ -> Prop}
    {stopped : σ -> Prop}
    (hbody : forall k, Ensures inv (body k) (fun _ => inv) stopped)
    (ks : List κ) : Ensures inv (loop body ks) (fun _ => inv) stopped := by
  induction ks with
  | nil => exact ensures_pure (fun _ h => h)
  | cons k more ih =>
      apply ensures_bind (hbody k)
      intro running
      cases running with
      | true => exact ih
      | false => exact ensures_pure (fun _ h => h)

/-- A loop whose invariant goes by what has been taken from the list; the call
that ends the loop may leave something else behind. -/
theorem ensures_loop_front_until (inv stopped : List κ -> σ -> Prop)
    (ended : List κ -> κ -> σ -> Prop) {body : κ -> Program σ Bool}
    (hbody : forall front k, Ensures (inv front) (body k)
      (fun running s =>
        if running = true then inv (front ++ [k]) s else ended front k s)
      (stopped (front ++ [k])))
    (ks : List κ) : forall front, Ensures (inv front) (loop body ks)
      (fun running s =>
        if running = true then inv (front ++ ks) s
        else exists more k, more ++ [k] <+: ks ∧ ended (front ++ more) k s)
      (fun s => exists more, more <+: ks ∧ stopped (front ++ more) s) := by
  induction ks with
  | nil =>
      intro front
      refine ensures_pure (fun s hs => ?_)
      rw [if_pos rfl, List.append_nil]
      exact hs
  | cons k rest ih =>
      intro front
      have hone : [k] <+: k :: rest := ⟨rest, rfl⟩
      have hfirst := (hbody front k).mono (fun _ hs => hs) (fun _ _ hs => hs)
        (fun s hs => (⟨[k], hone, hs⟩ :
          exists more, more <+: k :: rest ∧ stopped (front ++ more) s))
      refine ensures_bind hfirst (fun running => ?_)
      cases running with
      | false =>
          refine ensures_pure (fun s hs => ?_)
          rw [if_neg Bool.false_ne_true] at hs ⊢
          refine ⟨[], k, hone, ?_⟩
          rw [List.append_nil]
          exact hs
      | true =>
          refine (ih (front ++ [k])).mono (fun _ hs => ?_) ?_ ?_
          · rwa [if_pos rfl] at hs
          · intro running s hs
            cases running with
            | true =>
                rw [if_pos rfl, List.append_assoc] at hs
                rw [if_pos rfl]
                exact hs
            | false =>
                rw [if_neg Bool.false_ne_true] at hs ⊢
                rcases hs with ⟨more, last, hmore, hended⟩
                rw [List.append_assoc] at hended
                exact ⟨k :: more, last,
                  List.cons_prefix_cons.mpr ⟨rfl, hmore⟩, hended⟩
          · intro s hs
            rcases hs with ⟨more, hmore, hstop⟩
            rw [List.append_assoc] at hstop
            exact ⟨k :: more, List.cons_prefix_cons.mpr ⟨rfl, hmore⟩, hstop⟩

/-- The call that ends the loop keeps the invariant. -/
theorem ensures_loop_front (inv stopped : List κ -> σ -> Prop)
    {body : κ -> Program σ Bool}
    (hbody : forall front k, Ensures (inv front) (body k)
      (fun _ => inv (front ++ [k])) (stopped (front ++ [k])))
    (ks : List κ) (front : List κ) : Ensures (inv front) (loop body ks)
      (fun _ s => exists more, more <+: ks ∧ inv (front ++ more) s)
      (fun s => exists more, more <+: ks ∧ stopped (front ++ more) s) := by
  have huntil := ensures_loop_front_until inv stopped
    (fun front k => inv (front ++ [k]))
    (fun front k => (hbody front k).mono (fun _ hs => hs)
      (fun running s hs => by rwa [ite_self]) (fun _ hs => hs)) ks front
  refine huntil.mono (fun _ hs => hs) ?_ (fun _ hs => hs)
  intro running s hs
  cases running with
  | true =>
      rw [if_pos rfl] at hs
      exact ⟨ks, List.prefix_rfl, hs⟩
  | false =>
      rw [if_neg Bool.false_ne_true] at hs
      rcases hs with ⟨more, k, hmore, hinv⟩
      rw [List.append_assoc] at hinv
      exact ⟨more ++ [k], hmore, hinv⟩

end Program

end Foundation
end Z80Tcpip
