import Mathlib.Data.List.Basic
import Mathlib.Tactic.SplitIfs

/-!
# Two objects with bound properties

A front and a back object have properties of the same names.  When a property is written, its object
notifies a handler, which copies the property to the other object.  That write is notified in turn:
the name of the property in change keeps the handlers from running in circles.  Notifications of the
front are held back while the back is at work, and are delivered afterwards.

`same` is what is to hold of the two values of a property: it is kept by a write that the back takes,
and by anything the back does on its own.
-/

namespace Binding

variable {F B P : Type} {V : P → Type}

/-! ## Sequences of events -/

theorem foldlM_exists {S E : Type} {f : S → E → Option S} (one : ∀ s e, ∃ t, f s e = some t)
    (s : S) (events : List E) : ∃ t, events.foldlM f s = some t := by
  induction events generalizing s with
  | nil => exact ⟨s, rfl⟩
  | cons e rest ih =>
    obtain ⟨t, first⟩ := one s e
    obtain ⟨u, later⟩ := ih t
    exact ⟨u, by rw [List.foldlM_cons, first]; exact later⟩

/-- What each event of a sequence that returns keeps. -/
theorem foldlM_invariant {S E : Type} {step : S → E → Option S} {Inv : S → Prop}
    {events : List E} (keeps : ∀ s, ∀ e ∈ events, ∀ t, step s e = some t → Inv s → Inv t)
    {s t : S} (returns : events.foldlM step s = some t) (start : Inv s) : Inv t := by
  induction events generalizing s with
  | nil =>
    cases returns
    exact start
  | cons e rest ih =>
    rw [List.foldlM_cons] at returns
    obtain ⟨u, first, later⟩ := Option.bind_eq_some_iff.mp returns
    have kept := keeps s e List.mem_cons_self u first start
    exact ih (fun s e mem => keeps s e (List.mem_cons_of_mem _ mem)) later kept

/-- What is seen of the state after a sequence of events that write it or leave it alone: the last
write, or the state at the start. -/
theorem foldl_last {S E V : Type} (step : S → E → S) {view : S → V} {writes : E → Option V}
    (one : ∀ s e, view (step s e) = (writes e).getD (view s)) (events : List E) (s : S) :
    (view (events.foldl step s) = view s ∧ ∀ e ∈ events, writes e = none) ∨
      ∃ earlier e later, events = earlier ++ e :: later ∧
        writes e = some (view (events.foldl step s)) ∧ ∀ e ∈ later, writes e = none := by
  induction events generalizing s with
  | nil => exact Or.inl ⟨rfl, by simp⟩
  | cons e rest ih =>
    rw [List.foldl_cons]
    rcases ih (step s e) with ⟨kept, silent⟩ | ⟨earlier, last, later, split, written, silent⟩
    · rw [kept, one]
      cases own : writes e with
      | none => exact Or.inl ⟨rfl, by simpa [own] using silent⟩
      | some v => exact Or.inr ⟨[], e, rest, rfl, own, silent⟩
    · exact Or.inr ⟨e :: earlier, last, later, by rw [split]; rfl, written, silent⟩

/-! ## Objects and handlers -/

/-- How the properties of an object are read and written. -/
structure Properties (O P : Type) (V : P → Type) where
  get : O → (p : P) → V p
  set : O → (p : P) → V p → O

/-- The two objects, with the property in change and the notifications of the front that are held
back. -/
structure Bound (F B P : Type) where
  front : F
  back : B
  inChange : Option P
  frozen : Bool
  pending : List P

/-- A change that the back makes on its own, and the property it notifies. -/
structure Change (B P : Type) where
  apply : B → B
  notifies : B → Option P

section Copies

/-- The end of a handler. -/
def Bound.finish (s : Bound F B P) : Bound F B P := { s with inChange := none }

variable (A : Properties F P V) (C : Properties B P V)

/-- The handler of the front copies the property to the back. -/
def toBack (s : Bound F B P) (p : P) : Bound F B P :=
  { s with inChange := some p, back := C.set s.back p (A.get s.front p) }

/-- The handler of the back copies the property to the front. -/
def toFront (s : Bound F B P) (p : P) : Bound F B P :=
  { s with inChange := some p, front := A.set s.front p (C.get s.back p) }

theorem inChange_toBack (s : Bound F B P) (p : P) : (toBack A C s p).inChange = some p := rfl

theorem inChange_toFront (s : Bound F B P) (p : P) : (toFront A C s p).inChange = some p := rfl

end Copies

section Handlers

variable [DecidableEq P]

/-- A notification that is held back; one of each property is enough. -/
def Bound.hold (s : Bound F B P) (p : P) : Bound F B P :=
  { s with pending := if p ∈ s.pending then s.pending else p :: s.pending }

variable (A : Properties F P V) (C : Properties B P V)

mutual

/-- The handler of the front's notifications, with the depth to which handlers may nest. -/
def onFront : Nat → P → Bound F B P → Option (Bound F B P)
  | 0, _, _ => none
  | depth + 1, p, s =>
      if s.inChange = some p then some s
      else (onBack depth p (toBack A C s p)).map Bound.finish

/-- The handler of the back's notifications. -/
def onBack : Nat → P → Bound F B P → Option (Bound F B P)
  | 0, _, _ => none
  | depth + 1, p, s =>
      if s.inChange = some p then some s
      else if s.frozen then some ((toFront A C s p).hold p).finish
      else (onFront depth p (toFront A C s p)).map Bound.finish

end

/-- A write to the front. -/
def writeFront (depth : Nat) (s : Bound F B P) (p : P) (v : V p) : Option (Bound F B P) :=
  let s := { s with front := A.set s.front p v }
  if s.frozen then some (s.hold p) else onFront A C depth p s

/-- A change of the back. -/
def changeBack (depth : Nat) (s : Bound F B P) (c : Change B P) : Option (Bound F B P) :=
  let t := { s with back := c.apply s.back }
  match c.notifies s.back with
  | none => some t
  | some p => onBack A C depth p t

/-- Deliver the notifications that were held back. -/
def thaw (depth : Nat) (s : Bound F B P) : Option (Bound F B P) :=
  s.pending.foldlM (fun s p => onFront A C depth p s) { s with frozen := false, pending := [] }

/-- The back is at work: the notifications of the front are delivered at the end. -/
def callBack (depth : Nat) (s : Bound F B P) (changes : List (Change B P)) :
    Option (Bound F B P) :=
  (changes.foldlM (changeBack A C depth) { s with frozen := true }).bind (thaw A C depth)

/-! ## What the handlers do -/

/-- The handlers reach the guard at depth two. -/
theorem onFront_eq (depth : Nat) (p : P) (s : Bound F B P) :
    onFront A C (depth + 2) p s =
      some (if s.inChange = some p then s else (toBack A C s p).finish) := by
  rw [onFront]
  split_ifs with guarded
  · rfl
  · rw [onBack, if_pos (inChange_toBack A C s p)]
    rfl

theorem onBack_eq (depth : Nat) (p : P) (s : Bound F B P) :
    onBack A C (depth + 2) p s = some (if s.inChange = some p then s
      else if s.frozen then ((toFront A C s p).hold p).finish else (toFront A C s p).finish) := by
  rw [onBack]
  split_ifs with guarded frozen
  · rfl
  · rfl
  · rw [onFront, if_pos (inChange_toFront A C s p)]
    rfl

variable {A C}

/-- More depth makes no difference to a handler that returns. -/
theorem onFront_returns {depth : Nat} {p : P} {s t : Bound F B P}
    (returns : onFront A C depth p s = some t) :
    t = if s.inChange = some p then s else (toBack A C s p).finish := by
  match depth with
  | 0 => cases returns
  | 1 =>
    rw [onFront] at returns
    split_ifs at returns ⊢ with guarded
    · exact (Option.some.inj returns).symm
    · cases returns
  | depth + 2 =>
    rw [onFront_eq] at returns
    exact (Option.some.inj returns).symm

theorem onBack_returns {depth : Nat} {p : P} {s t : Bound F B P}
    (returns : onBack A C depth p s = some t) : t = if s.inChange = some p then s
      else if s.frozen then ((toFront A C s p).hold p).finish else (toFront A C s p).finish := by
  match depth with
  | 0 => cases returns
  | 1 =>
    rw [onBack] at returns
    split_ifs at returns ⊢ with guarded frozen
    · exact (Option.some.inj returns).symm
    · exact (Option.some.inj returns).symm
    · cases returns
  | depth + 2 =>
    rw [onBack_eq] at returns
    exact (Option.some.inj returns).symm

/-! ## Rest -/

/-- No handler runs, and no notification is held back. -/
structure Bound.Resting (s : Bound F B P) : Prop where
  inChange : s.inChange = none
  frozen : s.frozen = false
  pending : s.pending = []

/-- A write to the front of objects at rest is copied to the back. -/
theorem writeFront_resting {depth : Nat} {s t : Bound F B P} {p : P} {v : V p} (rest : s.Resting)
    (lawful : A.get (A.set s.front p v) p = v) (returns : writeFront A C depth s p v = some t) :
    t = { s with front := A.set s.front p v, back := C.set s.back p v } := by
  obtain ⟨f, b, inChange, frozen, pending⟩ := s
  obtain ⟨rfl, rfl, rfl⟩ := rest
  have result := onFront_returns returns
  rw [if_neg nofun] at result
  rw [result, toBack, Bound.finish]
  dsimp only at lawful ⊢
  rw [lawful]

/-- A write to the front leaves objects at rest. -/
theorem resting_writeFront {depth : Nat} {s t : Bound F B P} {p : P} {v : V p} (rest : s.Resting)
    (lawful : A.get (A.set s.front p v) p = v) (returns : writeFront A C depth s p v = some t) :
    t.Resting := by
  rw [writeFront_resting rest lawful returns]
  exact ⟨rest.inChange, rest.frozen, rest.pending⟩

theorem writeFront_exists (s : Bound F B P) (p : P) (v : V p) :
    ∃ t, writeFront A C 2 s p v = some t := by
  rw [writeFront]
  split_ifs with frozen
  · exact ⟨_, rfl⟩
  · exact ⟨_, onFront_eq A C 0 p _⟩

theorem callBack_exists (s : Bound F B P) (changes : List (Change B P)) :
    ∃ t, callBack A C 2 s changes = some t := by
  obtain ⟨t, worked⟩ := foldlM_exists (f := changeBack A C 2) (fun s c => by
    rw [changeBack]
    split
    · exact ⟨_, rfl⟩
    · exact ⟨_, onBack_eq A C 0 _ _⟩) { s with frozen := true } changes
  obtain ⟨u, thawed⟩ := foldlM_exists (f := fun s p => onFront A C 2 p s)
    (fun s p => ⟨_, onFront_eq A C 0 p s⟩) { t with frozen := false, pending := [] } t.pending
  exact ⟨u, by rw [callBack, worked]; exact thawed⟩

/-! ## Mirrors -/

variable (A C)

/-- What the properties of the two objects satisfy as long as the back is good. -/
structure Lawful (same : ∀ p, V p → V p → Prop) (Good : B → Prop) : Prop where
  front : ∀ f p v, A.get (A.set f p v) p = v
  frontOther : ∀ f p v q, q ≠ p → A.get (A.set f p v) q = A.get f q
  equivalence : ∀ p, Equivalence (same p)
  written : ∀ b p v, same p v (C.get b p) → same p v (C.get (C.set b p v) p)
  others : ∀ b p v q, Good b → q ≠ p → same q (C.get (C.set b p v) q) (C.get b q)
  good : ∀ b p v, Good b → Good (C.set b p v)

/-- A change notifies the property it changes. -/
structure Change.Notified (same : ∀ p, V p → V p → Prop) (Good : B → Prop) (c : Change B P) :
    Prop where
  others : ∀ b q, Good b → c.notifies b ≠ some q → same q (C.get (c.apply b) q) (C.get b q)
  good : ∀ b, Good b → Good (c.apply b)

/-- The two objects have the same values. -/
def Bound.Mirrors (same : ∀ p, V p → V p → Prop) (s : Bound F B P) : Prop :=
  ∀ p, same p (A.get s.front p) (C.get s.back p)

/-- The objects have the same values, and the back is good. -/
structure Bound.InStep (same : ∀ p, V p → V p → Prop) (Good : B → Prop) (s : Bound F B P) :
    Prop where
  mirrors : s.Mirrors A C same
  good : Good s.back

variable {A C} {same : ∀ p, V p → V p → Prop} {Good : B → Prop}

/-- A write to the front keeps the objects in step exactly if the back takes it. -/
theorem mirrors_writeFront_iff (lawful : Lawful A C same Good) {depth : Nat} {s t : Bound F B P}
    {p : P} {v : V p} (rest : s.Resting) (inStep : s.InStep A C same Good)
    (returns : writeFront A C depth s p v = some t) :
    t.Mirrors A C same ↔ same p v (C.get (C.set s.back p v) p) := by
  rw [writeFront_resting rest (lawful.front _ _ _) returns]
  constructor
  · intro mirrors
    have own := mirrors p
    dsimp only at own
    rwa [lawful.front] at own
  · intro taken q
    by_cases own : q = p
    · subst own
      dsimp only
      rwa [lawful.front]
    · dsimp only
      rw [lawful.frontOther _ _ _ _ own]
      have kept := lawful.others s.back p v q inStep.good own
      exact (lawful.equivalence q).trans (inStep.mirrors q) ((lawful.equivalence q).symm kept)

/-- A property is copied to the front. -/
theorem mirrors_set_front (lawful : Lawful A C same Good) {f : F} {b b' : B} {p : P}
    (before : ∀ q, same q (A.get f q) (C.get b q))
    (others : ∀ q, q ≠ p → same q (C.get b' q) (C.get b q)) (q : P) :
    same q (A.get (A.set f p (C.get b' p)) q) (C.get b' q) := by
  by_cases own : q = p
  · subst own
    rw [lawful.front]
    exact (lawful.equivalence q).refl _
  · rw [lawful.frontOther _ _ _ _ own]
    exact (lawful.equivalence q).trans (before q) ((lawful.equivalence q).symm (others q own))

/-- The objects while the back is at work. -/
structure Bound.Working (same : ∀ p, V p → V p → Prop) (Good : B → Prop) (s : Bound F B P)
    (A : Properties F P V) (C : Properties B P V) : Prop where
  inChange : s.inChange = none
  frozen : s.frozen = true
  inStep : s.InStep A C same Good

/-- A change keeps the objects in step. -/
theorem working_changeBack (lawful : Lawful A C same Good) {depth : Nat} {s t : Bound F B P}
    {c : Change B P} (notified : c.Notified C same Good)
    (returns : changeBack A C depth s c = some t) (working : s.Working same Good A C) :
    t.Working same Good A C := by
  have good := notified.good s.back working.inStep.good
  rw [changeBack] at returns
  cases told : c.notifies s.back with
  | none =>
    rw [told] at returns
    obtain rfl := Option.some.inj returns
    refine ⟨working.inChange, working.frozen, fun q => ?_, good⟩
    have kept := notified.others s.back q working.inStep.good (by rw [told]; exact nofun)
    exact (lawful.equivalence q).trans (working.inStep.mirrors q)
      ((lawful.equivalence q).symm kept)
  | some p =>
    rw [told] at returns
    have result := onBack_returns returns
    rw [if_neg (by simp [working.inChange]), if_pos working.frozen] at result
    subst result
    refine ⟨rfl, working.frozen, fun q => ?_, good⟩
    apply mirrors_set_front lawful working.inStep.mirrors
    intro q differs
    apply notified.others s.back q working.inStep.good
    rw [told]
    exact fun same => differs (Option.some.inj same).symm

/-- The delivery of a notification to objects in step changes nothing. -/
theorem inStep_onFront (lawful : Lawful A C same Good) {depth : Nat} {s t : Bound F B P} {p : P}
    (returns : onFront A C depth p s = some t) (kept : s.Resting ∧ s.InStep A C same Good) :
    t.Resting ∧ t.InStep A C same Good := by
  obtain ⟨rest, inStep⟩ := kept
  have result := onFront_returns returns
  rw [if_neg (by simp [rest.inChange])] at result
  subst result
  refine ⟨⟨rfl, rest.frozen, rest.pending⟩, fun q => ?_, lawful.good _ _ _ inStep.good⟩
  change same q (A.get s.front q) (C.get (C.set s.back p (A.get s.front p)) q)
  by_cases own : q = p
  · subst own
    exact lawful.written _ _ _ (inStep.mirrors q)
  · have others := lawful.others s.back p (A.get s.front p) q inStep.good own
    exact (lawful.equivalence q).trans (inStep.mirrors q) ((lawful.equivalence q).symm others)

/-- Whatever the back does, the objects are in step when the notifications have been delivered. -/
theorem callBack_inStep (lawful : Lawful A C same Good) {depth : Nat} {s t : Bound F B P}
    {changes : List (Change B P)} (notified : ∀ c ∈ changes, c.Notified C same Good)
    (returns : callBack A C depth s changes = some t) (rest : s.Resting)
    (inStep : s.InStep A C same Good) : t.Resting ∧ t.InStep A C same Good := by
  obtain ⟨u, worked, thawed⟩ := Option.bind_eq_some_iff.mp returns
  have working : u.Working same Good A C := by
    apply foldlM_invariant _ worked
    · exact ⟨rest.inChange, rfl, inStep.mirrors, inStep.good⟩
    · exact fun s c mem t step => working_changeBack lawful (notified c mem) step
  apply foldlM_invariant _ thawed
  · exact ⟨⟨working.inChange, rfl, rfl⟩, working.inStep.mirrors, working.inStep.good⟩
  · exact fun s p _ t step => inStep_onFront lawful step

end Handlers

end Binding
