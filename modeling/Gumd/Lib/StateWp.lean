import Mathlib.Logic.Relation

/-!
# Weakest preconditions for deterministic state programs

A program of `StateM σ α` always returns one value and one final state, so its weakest
precondition is evaluation: `wp m Q s` says that `Q` holds of the value and the state `m`
ends with when it starts in `s`.

The structural rules are simp lemmas, so `simp` runs a program up to the next call that has no
rule.  A called function is then crossed with `wp_mono` and its own specification.
`Rewrites R m` is the two-state form: every run of `m` relates its first and last state by `R`.
Where `R` is a `Frame` it composes over `bind`, so a specification of a program's steps is one of
the program.  `Maintains Inv P m` carries an invariant across `m` with a fact about its value.
`Reaches view R m` is the case of a step relation: what every step keeps, `m` keeps.
-/

namespace StateWp

variable {σ α β : Type}

/-- The weakest precondition of `m`: its value and final state satisfy `Q`. -/
def wp (m : StateM σ α) (Q : α → σ → Prop) (s : σ) : Prop :=
  Q (m.run s).1 (m.run s).2

@[simp] theorem wp_pure (a : α) (Q : α → σ → Prop) (s : σ) :
    wp (pure a : StateM σ α) Q s ↔ Q a s := Iff.rfl

@[simp] theorem wp_bind (m : StateM σ α) (f : α → StateM σ β) (Q : β → σ → Prop) (s : σ) :
    wp (m >>= f) Q s ↔ wp m (fun a => wp (f a) Q) s := Iff.rfl

@[simp] theorem wp_map (m : StateM σ α) (f : α → β) (Q : β → σ → Prop) (s : σ) :
    wp (f <$> m) Q s ↔ wp m (fun a => Q (f a)) s := Iff.rfl

@[simp] theorem wp_get (Q : σ → σ → Prop) (s : σ) :
    wp (get : StateM σ σ) Q s ↔ Q s s := Iff.rfl

@[simp] theorem wp_set (t : σ) (Q : PUnit → σ → Prop) (s : σ) :
    wp (set t : StateM σ PUnit) Q s ↔ Q ⟨⟩ t := Iff.rfl

@[simp] theorem wp_modify (f : σ → σ) (Q : PUnit → σ → Prop) (s : σ) :
    wp (modify f : StateM σ PUnit) Q s ↔ Q ⟨⟩ (f s) := Iff.rfl

@[simp] theorem wp_ite (c : Prop) [Decidable c] (m n : StateM σ α) (Q : α → σ → Prop) (s : σ) :
    wp (if c then m else n) Q s ↔ (c → wp m Q s) ∧ (¬c → wp n Q s) := by
  by_cases h : c <;> simp [h]

/-- A guard that leaves the program early. -/
theorem wp_guard (ok : Bool) (exit rest : StateM σ α) (Q : α → σ → Prop) (s : σ) :
    wp (if (!ok) = true then exit else rest) Q s ↔
      (ok = false → wp exit Q s) ∧ (ok = true → wp rest Q s) := by
  cases ok <;> simp

/-- A called function is crossed with its specification. -/
theorem wp_mono {m : StateM σ α} {P Q : α → σ → Prop} {s : σ}
    (spec : wp m P s) (weaken : ∀ a t, P a t → Q a t) : wp m Q s :=
  weaken _ _ spec

/-- A program is deterministic, so two specifications hold together. -/
theorem wp_and {m : StateM σ α} {P Q : α → σ → Prop} {s : σ}
    (left : wp m P s) (right : wp m Q s) : wp m (fun a t => P a t ∧ Q a t) s :=
  ⟨left, right⟩

/-- A program runs to one value and one state. -/
theorem wp_result (m : StateM σ α) (s : σ) : ∃ a t, ∀ Q : α → σ → Prop, wp m Q s ↔ Q a t :=
  ⟨_, _, fun _ => Iff.rfl⟩

/-- A specification of the value alone, where the value is known. -/
theorem wp_value {m : StateM σ α} {value : α} {s : σ} (known : wp m (fun a _ => a = value) s)
    (P : α → Prop) : wp m (fun a _ => P a) s ↔ P value := by
  rw [wp] at known ⊢
  rw [known]

/-! ## Two-state specifications -/

/-- Every run of `m` relates its initial and final states by `R`. -/
def Rewrites (R : σ → σ → Prop) (m : StateM σ α) : Prop :=
  ∀ s, wp m (fun _ t => R s t) s

/-- What a program of many steps can be specified by: nothing is a step, and two steps are one. -/
structure Frame (R : σ → σ → Prop) : Prop where
  refl : ∀ s, R s s
  trans : ∀ {a b c}, R a b → R b c → R a c

namespace Rewrites

variable {R : σ → σ → Prop} {m n : StateM σ α} {f : α → StateM σ β}

theorem pure (frame : Frame R) (a : α) : Rewrites R (Pure.pure a : StateM σ α) :=
  fun s => frame.refl s

theorem bind (frame : Frame R) (first : Rewrites R m) (rest : ∀ a, Rewrites R (f a)) :
    Rewrites R (m >>= f) := by
  intro s
  rw [wp_bind]
  exact wp_mono (first s) fun a t step => wp_mono (rest a t) fun _ _ tail => frame.trans step tail

theorem ite {c : Prop} [Decidable c] (yes : c → Rewrites R m) (no : ¬c → Rewrites R n) :
    Rewrites R (if c then m else n) := by
  intro s
  rw [wp_ite]
  exact ⟨fun h => yes h s, fun h => no h s⟩

theorem mono {R' : σ → σ → Prop} (weaken : ∀ s t, R s t → R' s t) (step : Rewrites R m) :
    Rewrites R' m :=
  fun s => wp_mono (step s) fun _ t => weaken s t

end Rewrites

/-! ## Invariants -/

/-- Every run of `m` keeps `Inv`, and what it returns satisfies `P`. -/
def Maintains (Inv : σ → Prop) (P : α → Prop) (m : StateM σ α) : Prop :=
  ∀ s, Inv s → wp m (fun a t => Inv t ∧ P a) s

namespace Maintains

variable {Inv : σ → Prop} {P P' : α → Prop} {Q : β → Prop} {m n : StateM σ α}
  {f : α → StateM σ β}

theorem pure {a : α} (holds : P a) : Maintains Inv P (Pure.pure a : StateM σ α) :=
  fun _ inv => ⟨inv, holds⟩

theorem bind (first : Maintains Inv P m) (rest : ∀ a, P a → Maintains Inv Q (f a)) :
    Maintains Inv Q (m >>= f) := by
  intro s inv
  rw [wp_bind]
  refine wp_mono (first s inv) ?_
  intro a t kept
  exact rest a kept.2 t kept.1

theorem ite {c : Prop} [Decidable c] (yes : c → Maintains Inv P m) (no : ¬c → Maintains Inv P n) :
    Maintains Inv P (if c then m else n) := by
  intro s inv
  rw [wp_ite]
  exact ⟨fun h => yes h s inv, fun h => no h s inv⟩

/-- A check that leaves early. -/
theorem guard {R : Bool → Prop} {check : StateM σ Bool} {exit rest : StateM σ α}
    (first : Maintains Inv R check) (leave : Maintains Inv P exit) (stay : Maintains Inv P rest) :
    Maintains Inv P (check >>= fun ok => if !ok then exit else rest) :=
  bind first fun _ _ => ite (fun _ => leave) fun _ => stay

theorem mono (weaken : ∀ a, P a → P' a) (maintains : Maintains Inv P m) : Maintains Inv P' m :=
  fun s inv => wp_mono (maintains s inv) fun a _ kept => ⟨kept.1, weaken a kept.2⟩

/-- A program whose steps keep the invariant. -/
theorem of_rewrites {R : σ → σ → Prop} (step : Rewrites R m)
    (keeps : ∀ s t, R s t → Inv s → Inv t) : Maintains Inv (fun _ => True) m :=
  fun s inv => wp_mono (step s) fun _ t moved => ⟨keeps s t moved inv, trivial⟩

end Maintains

/-! ## Programs made of steps -/

/-- A frame holds across any number of steps if it holds across one. -/
theorem Frame.of_steps {V : Type} {K R : V → V → Prop} (frame : Frame K)
    (one : ∀ v v', R v v' → K v v') {v v' : V} (run : Relation.ReflTransGen R v v') : K v v' := by
  induction run with
  | refl => exact frame.refl _
  | tail _ step ih => exact frame.trans ih (one _ _ step)

section Reaches

variable {V : Type} {view : σ → V} {R R' : V → V → Prop} {m n : StateM σ α} {f : α → StateM σ β}

/-- What `view` shows of the state changes by steps of `R` only, any number of them. -/
def Reaches (view : σ → V) (R : V → V → Prop) (m : StateM σ α) : Prop :=
  Rewrites (fun s t => Relation.ReflTransGen R (view s) (view t)) m

theorem frame_reaches : Frame fun s t => Relation.ReflTransGen R (view s) (view t) :=
  ⟨fun _ => .refl, .trans⟩

namespace Reaches

theorem pure (a : α) : Reaches view R (Pure.pure a : StateM σ α) :=
  Rewrites.pure frame_reaches a

theorem bind (first : Reaches view R m) (rest : ∀ a, Reaches view R (f a)) :
    Reaches view R (m >>= f) :=
  Rewrites.bind frame_reaches first rest

theorem ite {c : Prop} [Decidable c] (yes : Reaches view R m) (no : Reaches view R n) :
    Reaches view R (if c then m else n) :=
  Rewrites.ite (fun _ => yes) fun _ => no

/-- A check that leaves early. -/
theorem guard {check : StateM σ Bool} {exit rest : StateM σ α} (first : Reaches view R check)
    (leave : Reaches view R exit) (stay : Reaches view R rest) :
    Reaches view R (check >>= fun ok => if !ok then exit else rest) :=
  bind first fun _ => ite leave stay

/-- A program that changes nothing `view` shows. -/
theorem of_same (same : Rewrites (fun s t => view t = view s) m) : Reaches view R m := by
  apply same.mono
  intro s t unchanged
  rw [unchanged]

theorem get : Reaches view R (MonadStateOf.get : StateM σ σ) :=
  of_same fun _ => rfl

/-- A program that makes one step at most. -/
theorem of_step (step : Rewrites (fun s t => view t = view s ∨ R (view s) (view t)) m) :
    Reaches view R m := by
  apply step.mono
  intro s t moved
  rcases moved with unchanged | moved
  · rw [unchanged]
  · exact .single moved

theorem mono (weaken : ∀ v v', R v v' → R' v v') (reaches : Reaches view R m) :
    Reaches view R' m :=
  Rewrites.mono (fun _ _ run => Relation.ReflTransGen.mono weaken _ _ run) reaches

/-- A program that makes no step. -/
theorem same (reaches : Reaches view (fun _ _ => False) m) :
    Rewrites (fun s t => view t = view s) m := by
  apply Rewrites.mono _ reaches
  intro s t run
  rcases Relation.ReflTransGen.cases_tail run with unchanged | ⟨_, _, step⟩
  · exact unchanged
  · exact step.elim

/-- What every step keeps, the program keeps. -/
theorem keeps {K : V → V → Prop} (frame : Frame K) (one : ∀ v v', R v v' → K v v')
    (reaches : Reaches view R m) : Rewrites (fun s t => K (view s) (view t)) m :=
  Rewrites.mono (fun _ _ run => frame.of_steps one run) reaches

end Reaches

end Reaches

end StateWp
