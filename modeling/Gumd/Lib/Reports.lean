import Gumd.Lib.StateWp
import Mathlib.Tactic.SplitIfs

/-!
# Errors that are reported beside the result

A program that cannot throw returns a result that says whether it has succeeded, and leaves an
error in the state if it has not.  `err` reads the error of a state.  A program is mute if it
leaves the error alone, and it reports if the error is untouched by its successes and set by its
failures.  Reporting programs compose over a guard that leaves with the failure of the check.
-/

namespace Reports

open StateWp

variable {σ α β ε : Type}

/-- A program that leaves the error as it is. -/
def Mute (err : σ → Option ε) (m : StateM σ α) : Prop := Rewrites (fun s t => err t = err s) m

/-- A program that leaves the error as it is when it succeeds, and sets it when it fails. -/
def Reporting (err : σ → Option ε) (success : α → Prop) (m : StateM σ α) : Prop :=
  ∀ s, wp m (fun a t => success a ∧ err t = err s ∨ ¬success a ∧ (err t).isSome = true) s

/-- A program that fails, and keeps an error that is set. -/
def Failing (err : σ → Option ε) (success : α → Prop) (m : StateM σ α) : Prop :=
  ∀ s, (err s).isSome = true → wp m (fun a t => ¬success a ∧ (err t).isSome = true) s

variable {err : σ → Option ε} {success : α → Prop} {m n : StateM σ α}

/-- The contract of a reporting program: called without an error, it succeeds exactly if there is
none afterwards. -/
theorem Reporting.success_iff (reports : Reporting err success m) {s : σ} (cleared : err s = none) :
    wp m (fun a t => success a ↔ err t = none) s := by
  refine wp_mono (reports s) ?_
  rintro a t (⟨good, same⟩ | ⟨bad, set⟩)
  · exact iff_of_true good (same.trans cleared)
  · refine iff_of_false bad fun unset => ?_
    rw [unset] at set
    cases set

/-! ## Mute programs -/

theorem frame_mute (err : σ → Option ε) : Frame fun s t : σ => err t = err s :=
  ⟨fun _ => rfl, fun first second => second.trans first⟩

namespace Mute

theorem pure (a : α) : Mute err (Pure.pure a : StateM σ α) := Rewrites.pure (frame_mute err) a

theorem bind {f : α → StateM σ β} (first : Mute err m) (rest : ∀ a, Mute err (f a)) :
    Mute err (m >>= f) :=
  Rewrites.bind (frame_mute err) first rest

theorem ite {c : Prop} [Decidable c] (yes : Mute err m) (no : Mute err n) :
    Mute err (if c then m else n) :=
  Rewrites.ite (fun _ => yes) fun _ => no

/-- A mute program that always succeeds reports. -/
theorem reporting (mute : Mute err m) (good : ∀ s, wp m (fun a _ => success a) s) :
    Reporting err success m := by
  intro s
  exact wp_mono (wp_and (mute s) (good s)) fun a t spec => Or.inl ⟨spec.2, spec.1⟩

/-- A mute program that always fails keeps an error. -/
theorem failing (mute : Mute err m) (bad : ∀ s, wp m (fun a _ => ¬success a) s) :
    Failing err success m := by
  intro s set
  refine wp_mono (wp_and (mute s) (bad s)) ?_
  rintro a t ⟨same, failed⟩
  exact ⟨failed, same ▸ set⟩

end Mute

/-! ## Reporting programs -/

namespace Reporting

theorem pure {a : α} (good : success a) : Reporting err success (Pure.pure a : StateM σ α) :=
  fun _ => Or.inl ⟨good, rfl⟩

theorem ite {c : Prop} [Decidable c] (yes : c → Reporting err success m)
    (no : ¬c → Reporting err success n) : Reporting err success (if c then m else n) := by
  intro s
  rw [wp_ite]
  exact ⟨fun h => yes h s, fun h => no h s⟩

/-- A mute step comes first. -/
theorem after {f : α → StateM σ β} {success : β → Prop} (first : Mute err m)
    (rest : ∀ a, Reporting err success (f a)) : Reporting err success (m >>= f) := by
  intro s
  rw [wp_bind]
  refine wp_mono (first s) ?_
  intro a t same
  refine wp_mono (rest a t) ?_
  rintro b u (⟨good, kept⟩ | bad)
  · exact Or.inl ⟨good, kept.trans same⟩
  · exact Or.inr bad

/-- A program that fails whatever error it finds, and leaves one. -/
theorem of_failing (fails : ∀ s, wp m (fun a t => ¬success a ∧ (err t).isSome = true) s) :
    Reporting err success m :=
  fun s => wp_mono (fails s) fun _ _ => Or.inr

/-- A check that reports is left with its failure. -/
theorem check {f : α → StateM σ β} {good : α → Prop} {success : β → Prop}
    (first : Reporting err good m) (leave : ∀ a, ¬good a → Failing err success (f a))
    (stay : ∀ a, good a → Reporting err success (f a)) : Reporting err success (m >>= f) := by
  intro s
  rw [wp_bind]
  refine wp_mono (first s) ?_
  rintro a t (⟨passed, same⟩ | ⟨failed, set⟩)
  · refine wp_mono (stay a passed t) ?_
    rintro b u (⟨good, kept⟩ | bad)
    · exact Or.inl ⟨good, kept.trans same⟩
    · exact Or.inr bad
  · exact wp_mono (leave a failed t set) fun _ _ => Or.inr

/-- A Boolean check, as a guard. -/
theorem guard {first : StateM σ Bool} {exit rest : StateM σ β} {success : β → Prop}
    (checks : Reporting err (· = true) first) (leave : Failing err success exit)
    (stay : Reporting err success rest) :
    Reporting err success (first >>= fun ok => if !ok then exit else rest) := by
  apply checks.check
  · intro ok failed
    cases ok with
    | true => exact absurd rfl failed
    | false => exact leave
  · rintro ok rfl
    exact stay

/-- A lookup that reports what it does not find. -/
theorem found {first : StateM σ (Option α)} {rest : Option α → StateM σ β} {success : β → Prop}
    (looks : Reporting err (·.isSome = true) first) (leave : Failing err success (rest none))
    (stay : ∀ a, Reporting err success (rest (some a))) :
    Reporting err success (first >>= rest) := by
  apply looks.check
  · intro found missing
    cases found with
    | none => exact leave
    | some a => exact absurd rfl missing
  · intro found present
    cases found with
    | none => cases present
    | some a => exact stay a

/-- The result may be renamed. -/
theorem map {f : α → β} {success : β → Prop} {good : α → Prop} (reports : Reporting err good m)
    (same : ∀ a, success (f a) ↔ good a) : Reporting err success (f <$> m) := by
  intro s
  rw [wp_map]
  refine wp_mono (reports s) ?_
  intro a t spec
  simpa only [same] using spec

end Reporting

/-! ## First steps -/

/-- `pre` is made of the first steps of `m`: `m` fails if they fail, and goes on as `rest` if they
do not. -/
def Starts (err : σ → Option ε) (success : β → Prop) (pre : StateM σ Bool) (m rest : StateM σ β) :
    Prop :=
  ∀ s, wp pre (fun ok t => ok = true ∧ err t = err s ∧ (∀ Q, wp m Q s ↔ wp rest Q t) ∨
    ok = false ∧ wp m (fun b u => ¬success b ∧ (err u).isSome = true) s) s

namespace Starts

variable {pre : StateM σ Bool} {m exit rest : StateM σ β} {success : β → Prop}

theorem done (m : StateM σ β) : Starts err success (pure true) m m :=
  fun _ => Or.inl ⟨rfl, rfl, fun _ => Iff.rfl⟩

/-- A mute step comes first. -/
theorem after {first : StateM σ α} {pre : α → StateM σ Bool} {f : α → StateM σ β}
    (mute : Mute err first) (starts : ∀ a, Starts err success (pre a) (f a) rest) :
    Starts err success (first >>= pre) (first >>= f) rest := by
  intro s
  obtain ⟨a, t, ran⟩ := wp_result first s
  have same : err t = err s := (ran _).mp (mute s)
  simp only [wp_bind, ran]
  refine wp_mono (starts a t) ?_
  rintro ok u (⟨good, kept, goes⟩ | fails)
  · exact Or.inl ⟨good, kept.trans same, goes⟩
  · exact Or.inr fails

/-- A way out that fails. -/
theorem leave {c : Prop} [Decidable c]
    (fails : ∀ s, wp exit (fun b u => ¬success b ∧ (err u).isSome = true) s)
    (starts : Starts err success pre m rest) :
    Starts err success (if c then pure false else pre) (if c then exit else m) rest := by
  intro s
  split_ifs with h
  · exact Or.inr ⟨rfl, fails s⟩
  · exact starts s

/-- A check that reports. -/
theorem guard {first : StateM σ Bool} (checks : Reporting err (· = true) first)
    (leave : Failing err success exit) (starts : Starts err success pre m rest) :
    Starts err success (first >>= fun ok => if !ok then pure false else pre)
      (first >>= fun ok => if !ok then exit else m) rest := by
  intro s
  obtain ⟨ok, t, ran⟩ := wp_result first s
  have checked := (ran _).mp (checks s)
  simp only [wp_bind, ran]
  rcases checked with ⟨rfl, same⟩ | ⟨failed, set⟩
  · refine wp_mono (starts t) ?_
    rintro ok u (⟨good, kept, goes⟩ | fails)
    · exact Or.inl ⟨good, kept.trans same, goes⟩
    · exact Or.inr fails
  · rw [Bool.not_eq_true] at failed
    subst failed
    exact Or.inr ⟨rfl, leave t set⟩

/-- A check that is the last of the first steps. -/
theorem last {first : StateM σ Bool} (checks : Reporting err (· = true) first)
    (leave : Failing err success exit) :
    Starts err success first (first >>= fun ok => if !ok then exit else rest) rest := by
  intro s
  obtain ⟨ok, t, ran⟩ := wp_result first s
  have checked := (ran _).mp (checks s)
  simp only [wp_bind, ran]
  rcases checked with ⟨rfl, same⟩ | ⟨failed, set⟩
  · exact Or.inl ⟨rfl, same, fun _ => Iff.rfl⟩
  · rw [Bool.not_eq_true] at failed
    subst failed
    exact Or.inr ⟨rfl, leave t set⟩

/-- The rest has first steps of its own, and its result is handed on. -/
theorem trans {n tail : StateM σ α} {good : α → Prop} {next : StateM σ Bool} {g : α → StateM σ β}
    (starts : Starts err success pre m (n >>= g)) (goes : Starts err good next n tail)
    (leave : ∀ a, ¬good a → Failing err success (g a)) :
    Starts err success (pre >>= fun ok => if !ok then pure false else next) m (tail >>= g) := by
  intro s
  rw [wp_bind]
  refine wp_mono (starts s) ?_
  rintro ok t (⟨rfl, same, first⟩ | ⟨rfl, fails⟩)
  · refine wp_mono (goes t) ?_
    rintro ok u (⟨good, kept, second⟩ | ⟨bad, fails⟩)
    · refine Or.inl ⟨good, kept.trans same, fun Q => ?_⟩
      rw [first, wp_bind, wp_bind]
      exact second _
    · refine Or.inr ⟨bad, (first _).mpr ?_⟩
      rw [wp_bind]
      exact wp_mono fails fun a v spec => leave a spec.1 v spec.2
  · exact Or.inr ⟨rfl, fails⟩

/-- A program keeps the contract exactly if its rest does so where its first steps succeed. -/
theorem success_iff (starts : Starts err success pre m rest) {good : σ → Prop} {s : σ}
    (cleared : err s = none)
    (rest_iff : ∀ t, err t = none → (wp rest (fun b u => success b ↔ err u = none) t ↔ good t)) :
    wp m (fun b u => success b ↔ err u = none) s ↔ wp pre (fun ok t => ok = true → good t) s := by
  obtain ⟨ok, t, ran⟩ := wp_result pre s
  rw [ran]
  rcases (ran _).mp (starts s) with ⟨rfl, same, goes⟩ | ⟨rfl, fails⟩
  · rw [goes, rest_iff t (same.trans cleared)]
    exact ⟨fun kept _ => kept, fun kept => kept rfl⟩
  · refine iff_of_true (wp_mono fails ?_) fun succeeded => by cases succeeded
    rintro b u ⟨bad, set⟩
    refine iff_of_false bad fun unset => ?_
    rw [unset] at set
    cases set

end Starts

end Reports
