import Mathlib.Logic.Basic

/-!
# Total weakest preconditions for state programs that may not end

A program of `StateT σ Option α` either ends with a value and a state or does not end.  Its weakest
precondition asks for both: that it ends, and that what it ends with satisfies the postcondition.
-/

namespace TotalWp

variable {σ α β : Type}

/-- The program ends, with a value and a state that satisfy `Q`. -/
def wp (m : StateT σ Option α) (Q : α → σ → Prop) (s : σ) : Prop :=
  ∃ a t, m.run s = some (a, t) ∧ Q a t

@[simp] theorem wp_pure (a : α) (Q : α → σ → Prop) (s : σ) :
    wp (pure a : StateT σ Option α) Q s ↔ Q a s := by
  constructor
  · intro ⟨b, t, run, post⟩
    cases run
    exact post
  · intro post
    exact ⟨a, s, rfl, post⟩

@[simp] theorem wp_bind (m : StateT σ Option α) (f : α → StateT σ Option β) (Q : β → σ → Prop)
    (s : σ) : wp (m >>= f) Q s ↔ wp m (fun a t => wp (f a) Q t) s := by
  constructor
  · intro ⟨b, u, run, post⟩
    rw [StateT.run_bind] at run
    obtain ⟨⟨a, t⟩, first, rest⟩ := Option.bind_eq_some_iff.mp run
    exact ⟨a, t, first, b, u, rest, post⟩
  · intro ⟨a, t, first, b, u, rest, post⟩
    refine ⟨b, u, ?_, post⟩
    rw [StateT.run_bind, first]
    exact rest

@[simp] theorem wp_get (Q : σ → σ → Prop) (s : σ) :
    wp (get : StateT σ Option σ) Q s ↔ Q s s := wp_pure s Q s

@[simp] theorem wp_set (t : σ) (Q : PUnit → σ → Prop) (s : σ) :
    wp (set t : StateT σ Option PUnit) Q s ↔ Q ⟨⟩ t := wp_pure ⟨⟩ Q t

@[simp] theorem wp_modify (f : σ → σ) (Q : PUnit → σ → Prop) (s : σ) :
    wp (modify f : StateT σ Option PUnit) Q s ↔ Q ⟨⟩ (f s) := wp_pure ⟨⟩ Q (f s)

@[simp] theorem wp_ite (c : Prop) [Decidable c] (m n : StateT σ Option α) (Q : α → σ → Prop)
    (s : σ) : wp (if c then m else n) Q s ↔ (c → wp m Q s) ∧ (¬c → wp n Q s) := by
  by_cases h : c <;> simp [h]

/-- A called function is crossed with its specification. -/
theorem wp_mono {m : StateT σ Option α} {P Q : α → σ → Prop} {s : σ} (spec : wp m P s)
    (weaken : ∀ a t, P a t → Q a t) : wp m Q s := by
  obtain ⟨a, t, run, post⟩ := spec
  exact ⟨a, t, run, weaken a t post⟩

/-- What a specification says of a run. -/
theorem wp_of_run {m : StateT σ Option α} {Q : α → σ → Prop} {s t : σ} {a : α} (spec : wp m Q s)
    (run : m.run s = some (a, t)) : Q a t := by
  obtain ⟨b, u, other, post⟩ := spec
  obtain ⟨rfl, rfl⟩ := Prod.mk.inj (Option.some.inj (run.symm.trans other))
  exact post

end TotalWp
