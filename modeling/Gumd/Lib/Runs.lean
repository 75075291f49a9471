/-!
# Runs of a system

`Each step P s calls` says that every call of a run is made in a state that satisfies `P`.  A
property of runs follows from one step: what a call achieves, and the invariant it keeps.  Where a
call can lead to more than one state, a run records the states as well; where a call can fail, a run
ends there.
-/

namespace Runs

variable {S C : Type} {step : S → C → S} {P Q : S → C → Prop}

/-- Every call of a run satisfies `P` in the state it is made in. -/
def Each (step : S → C → S) (P : S → C → Prop) : S → List C → Prop
  | _, [] => True
  | s, c :: rest => P s c ∧ Each step P (step s c) rest

/-- What each call achieves and keeps if it satisfies `P`. -/
theorem Each.invariant {I : S → Prop}
    (keeps : ∀ s c, P s c → I s → Q s c ∧ I (step s c)) {calls : List C} {s : S}
    (each : Each step P s calls) (start : I s) : Each step Q s calls := by
  induction calls generalizing s with
  | nil => trivial
  | cons c rest ih =>
    obtain ⟨achieved, kept⟩ := keeps s c each.1 start
    exact ⟨achieved, ih each.2 kept⟩

/-- The invariant holds at the end of the run. -/
theorem Each.foldl {Inv : S → Prop} (keeps : ∀ s c, P s c → Inv s → Inv (step s c))
    {calls : List C} {s : S} (each : Each step P s calls) (start : Inv s) :
    Inv (calls.foldl step s) := by
  induction calls generalizing s with
  | nil => exact start
  | cons c rest ih => exact ih each.2 (keeps s c each.1 start)

/-- Where a view of the states follows the steps of another system, a run is seen as a run of that
system. -/
theorem each_view_iff {T D : Type} {next : T → D → T} {view : S → T} {call : D → C}
    (follows : ∀ s d, view (step s (call d)) = next (view s) d) {R : T → D → Prop} {calls : List D}
    {s : S} :
    Each (fun s d => step s (call d)) (fun s d => R (view s) d) s calls ↔
      Each next R (view s) calls := by
  induction calls generalizing s with
  | nil => exact Iff.rfl
  | cons d rest ih =>
    have later := @ih (step s (call d))
    rw [follows] at later
    exact and_congr Iff.rfl later

/-! ## Stored states -/

/-- A run whose states are stored after every call, and loaded before the next, stores what the run
leads to, if the states are loaded as they were stored. -/
theorem foldl_stored {T : Type} {store : S → T} {load : T → S} {I : S → Prop}
    (loads : ∀ s, I s → load (store s) = s) {calls : List C}
    (keeps : ∀ c ∈ calls, ∀ s, I s → I (step s c)) {s : S} (start : I s) :
    calls.foldl (fun t c => store (step (load t) c)) (store s) = store (calls.foldl step s) := by
  induction calls generalizing s with
  | nil => rfl
  | cons c rest ih =>
    rw [List.foldl_cons, List.foldl_cons, loads s start]
    apply ih
    · exact fun d mem => keeps d (List.mem_cons_of_mem _ mem)
    · exact keeps c List.mem_cons_self s start

/-! ## Steps that are a relation -/

section Relation

variable {move : S → C → S → Prop}

/-- A run with the states it passes through: every call leads to the state beside it. -/
def Steps (move : S → C → S → Prop) : S → List (C × S) → Prop
  | _, [] => True
  | s, (c, t) :: rest => move s c t ∧ Steps move t rest

/-- Every call of such a run satisfies `P` in the state it is made in. -/
def EachStep (P : S → C → Prop) : S → List (C × S) → Prop
  | _, [] => True
  | s, (c, t) :: rest => P s c ∧ EachStep P t rest

/-- An invariant that the calls with `P` keep holds in all states of a run of them. -/
theorem EachStep.states {Inv : S → Prop} (keeps : ∀ s c t, move s c t → P s c → Inv s → Inv t)
    {run : List (C × S)} {s : S} (steps : Steps move s run) (each : EachStep P s run)
    (start : Inv s) : ∀ e ∈ run, Inv e.2 := by
  induction run generalizing s with
  | nil => exact nofun
  | cons e rest ih =>
    have kept := keeps s e.1 e.2 steps.1 each.1 start
    intro other mem
    rcases List.mem_cons.mp mem with rfl | later
    · exact kept
    · exact ih steps.2 each.2 kept other later

/-- If a step from a good state leads to a good state exactly if `P` holds, all states of a run are
good exactly if every call satisfies `P`. -/
theorem states_iff {Good : S → Prop} {Inv : S → Prop}
    (keeps : ∀ s c t, move s c t → Inv s → Inv t)
    (one : ∀ s c t, move s c t → Inv s → Good s → (Good t ↔ P s c))
    {run : List (C × S)} {s : S} (steps : Steps move s run) (start : Inv s) (good : Good s) :
    (∀ e ∈ run, Good e.2) ↔ EachStep P s run := by
  induction run generalizing s with
  | nil => exact iff_of_true nofun trivial
  | cons e rest ih =>
    have first := one s e.1 e.2 steps.1 start good
    have kept := keeps s e.1 e.2 steps.1 start
    rw [List.forall_mem_cons]
    constructor
    · rintro ⟨here, later⟩
      exact ⟨first.mp here, (ih steps.2 kept here).mp later⟩
    · rintro ⟨here, later⟩
      have good' := first.mpr here
      exact ⟨good', (ih steps.2 kept good').mpr later⟩

end Relation

/-! ## Steps that can fail -/

section Partial

/-- Every call of a run satisfies `P` in the state it is made in, as far as the run gets. -/
def EachSome (step : S → C → Option S) (P : S → C → Prop) : S → List C → Prop
  | _, [] => True
  | s, c :: rest => P s c ∧ ∀ t, step s c = some t → EachSome step P t rest

instance decidableEachSome {step : S → C → Option S} {P : S → C → Prop} [∀ s c, Decidable (P s c)] :
    (s : S) → (calls : List C) → Decidable (EachSome step P s calls)
  | _, [] => .isTrue trivial
  | s, c :: rest =>
      have : ∀ t, Decidable (EachSome step P t rest) := fun t => decidableEachSome t rest
      inferInstanceAs (Decidable (P s c ∧ ∀ t ∈ step s c, EachSome step P t rest))

/-- If a call with `P` keeps an invariant and does not fail, neither does a run of them. -/
theorem EachSome.run {move : S → C → Option S} {Inv : S → Prop}
    (keeps : ∀ s c, P s c → Inv s → ∃ t, move s c = some t ∧ Inv t) {calls : List C} {s : S}
    (each : EachSome move P s calls) (start : Inv s) :
    ∃ t, calls.foldlM move s = some t ∧ Inv t := by
  induction calls generalizing s with
  | nil => exact ⟨s, rfl, start⟩
  | cons c rest ih =>
    obtain ⟨t, moved, kept⟩ := keeps s c each.1 start
    obtain ⟨u, reached, inv⟩ := ih (each.2 t moved) kept
    refine ⟨u, ?_, inv⟩
    rw [List.foldlM_cons, moved]
    exact reached

end Partial

end Runs
