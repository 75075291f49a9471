import Mathlib.Data.List.Basic
import Mathlib.Data.List.Forall2
import Mathlib.Data.List.Nodup
import Mathlib.Tactic.SplitIfs

/-!
# Copying a list of records with one edit

The usual rewrite of a line-oriented database copies records one after another to a new file
and, at the first record a predicate picks, does something else once: writes a new record before
it, drops it, replaces it, or refuses.  From then on the rest is copied as it is.

`copyLoop` is that loop with its `done` flag.  For a loop that makes one kind of edit the lemmas
below give its result as a list function of the records.
-/

namespace EntryLoop

variable {ε χ κ : Type}

/-- What the loop does at a record while it is not done. -/
inductive Visit (ε χ : Type) where
  | keep
  | insert (new : ε)
  | drop
  | replace (new : ε)
  | refuse (err : χ)

/-- Copy the records, visiting each one until the first edit.  The returned flag says whether
an edit was made. -/
def copyLoop (visit : ε → Visit ε χ) : Bool → List ε → Except χ (Bool × List ε)
  | done, [] => .ok (done, [])
  | true, e :: rest => .ok (true, e :: rest)
  | false, e :: rest =>
      match visit e with
      | .keep => (copyLoop visit false rest).map fun r => (r.1, e :: r.2)
      | .insert new => .ok (true, new :: e :: rest)
      | .drop => .ok (true, rest)
      | .replace new => .ok (true, new :: rest)
      | .refuse err => .error err

/-! ## The edited lists -/

/-- Insert a record before the first one that `p` picks, or at the end. -/
def insertFirst (p : ε → Bool) (new : ε) : List ε → List ε
  | [] => [new]
  | e :: rest => if p e then new :: e :: rest else e :: insertFirst p new rest

/-- Change the first record that `p` picks. -/
def modifyFirst (p : ε → Bool) (f : ε → ε) : List ε → List ε
  | [] => []
  | e :: rest => if p e then f e :: rest else e :: modifyFirst p f rest

/-- An insertion splits the list. -/
theorem exists_insertFirst (p : ε → Bool) (new : ε) (entries : List ε) :
    ∃ before after, entries = before ++ after ∧
      insertFirst p new entries = before ++ new :: after := by
  induction entries with
  | nil => exact ⟨[], [], rfl, rfl⟩
  | cons e rest ih =>
    by_cases picked : p e
    · exact ⟨[], e :: rest, rfl, by simp [insertFirst, picked]⟩
    · obtain ⟨before, after, rfl, inserted⟩ := ih
      exact ⟨e :: before, after, rfl, by simp [insertFirst, picked, inserted]⟩

theorem insertFirst_of_not_any {p : ε → Bool} {new : ε} {entries : List ε}
    (none : entries.any p = false) : insertFirst p new entries = entries ++ [new] := by
  induction entries with
  | nil => rfl
  | cons e rest ih =>
    simp only [List.any_cons, Bool.or_eq_false_iff] at none
    simp [insertFirst, none.1, ih none.2]

theorem perm_insertFirst (p : ε → Bool) (new : ε) (entries : List ε) :
    (insertFirst p new entries).Perm (new :: entries) := by
  obtain ⟨before, after, rfl, inserted⟩ := exists_insertFirst p new entries
  rw [inserted]
  exact List.perm_middle

@[simp] theorem mem_insertFirst {p : ε → Bool} {new e : ε} {entries : List ε} :
    e ∈ insertFirst p new entries ↔ e = new ∨ e ∈ entries := by
  rw [(perm_insertFirst p new entries).mem_iff, List.mem_cons]

theorem insertFirst_ne_self (p : ε → Bool) (new : ε) (entries : List ε) :
    insertFirst p new entries ≠ entries := by
  intro same
  have length := (perm_insertFirst p new entries).length_eq
  rw [same] at length
  simp at length

/-- A removal that picks the new record only undoes its insertion. -/
theorem eraseP_insertFirst {p q : ε → Bool} {new : ε} {entries : List ε} (own : q new = true)
    (others : ∀ e ∈ entries, q e = false) : (insertFirst p new entries).eraseP q = entries := by
  obtain ⟨before, after, rfl, inserted⟩ := exists_insertFirst p new entries
  have unpicked : ∀ e ∈ before, ¬q e = true := by
    intro e mem
    exact Bool.eq_false_iff.mp (others e (List.mem_append_left _ mem))
  rw [inserted, List.eraseP_append_right _ unpicked, List.eraseP_cons_of_pos own]

/-- An insertion keeps an order that tells which records the new one goes before. -/
theorem pairwise_insertFirst {r : ε → ε → Prop} {p : ε → Bool} {new : ε} {entries : List ε}
    (trans : ∀ a b c, r a b → r b c → r a c) (later : ∀ e, p e = true → r new e)
    (earlier : ∀ e, p e = false → r e new) (ordered : entries.Pairwise r) :
    (insertFirst p new entries).Pairwise r := by
  induction entries with
  | nil => simp [insertFirst]
  | cons e rest ih =>
    rw [List.pairwise_cons] at ordered
    obtain ⟨least, ordered⟩ := ordered
    by_cases picked : p e
    · simp only [insertFirst, picked, if_true, List.pairwise_cons, List.mem_cons]
      refine ⟨?_, least, ordered⟩
      intro x mem
      rcases mem with rfl | mem
      · exact later x picked
      · exact trans new e x (later e picked) (least x mem)
    · simp only [insertFirst, picked, Bool.false_eq_true, if_false, List.pairwise_cons,
        mem_insertFirst]
      refine ⟨?_, ih ordered⟩
      intro x mem
      rcases mem with rfl | mem
      · exact earlier e (Bool.eq_false_iff.mpr picked)
      · exact least x mem

theorem modifyFirst_append {p : ε → Bool} {f : ε → ε} {before after : List ε} {e : ε}
    (kept : ∀ x ∈ before, p x = false) (picked : p e = true) :
    modifyFirst p f (before ++ e :: after) = before ++ f e :: after := by
  induction before with
  | nil => simp [modifyFirst, picked]
  | cons x rest ih =>
    have rest_kept : ∀ y ∈ rest, p y = false := fun y mem => kept y (List.mem_cons_of_mem _ mem)
    simp [modifyFirst, kept x (List.mem_cons_self ..), ih rest_kept]

/-- A change at the first picked record splits the list there. -/
theorem modifyFirst_eq {p : ε → Bool} {f : ε → ε} {entries : List ε} {e : ε}
    (found : entries.find? p = some e) :
    ∃ before after, entries = before ++ e :: after ∧ (∀ x ∈ before, p x = false) ∧
      modifyFirst p f entries = before ++ f e :: after := by
  obtain ⟨picked, before, after, rfl, kept⟩ := List.find?_eq_some_iff_append.mp found
  simp only [Bool.not_eq_eq_eq_not, Bool.not_true] at kept
  exact ⟨before, after, rfl, kept, modifyFirst_append kept picked⟩

/-- A change that keeps a key of the picked records keeps the keys of the list. -/
theorem map_modifyFirst {p : ε → Bool} {f : ε → ε} {key : ε → κ}
    (keeps : ∀ e, p e = true → key (f e) = key e) (entries : List ε) :
    (modifyFirst p f entries).map key = entries.map key := by
  induction entries with
  | nil => rfl
  | cons x rest ih =>
    by_cases picked : p x
    · simp [modifyFirst, picked, keeps x picked]
    · simp [modifyFirst, picked, ih]

/-- A new record in the place of another with the same key keeps the keys of the list. -/
theorem map_replaceFirst {p : ε → Bool} {key : ε → κ} {entries : List ε} {e new : ε}
    (found : entries.find? p = some e) (same : key new = key e) :
    (modifyFirst p (fun _ => new) entries).map key = entries.map key := by
  obtain ⟨before, after, rfl, -, modified⟩ := modifyFirst_eq (f := fun _ => new) found
  rw [modified]
  simp [same]

/-- Two changes at the same record are one. -/
theorem modifyFirst_modifyFirst {p : ε → Bool} {f g : ε → ε}
    (keeps : ∀ e, p e = true → p (f e) = true) (entries : List ε) :
    modifyFirst p g (modifyFirst p f entries) = modifyFirst p (fun e => g (f e)) entries := by
  induction entries with
  | nil => rfl
  | cons x rest ih =>
    by_cases picked : p x
    · simp [modifyFirst, picked, keeps x picked]
    · simp [modifyFirst, picked, ih]

/-- A removal of the first picked record undoes a change of it. -/
theorem eraseP_modifyFirst {p : ε → Bool} {f : ε → ε}
    (keeps : ∀ e, p e = true → p (f e) = true) (entries : List ε) :
    (modifyFirst p f entries).eraseP p = entries.eraseP p := by
  induction entries with
  | nil => rfl
  | cons x rest ih =>
    by_cases picked : p x
    · simp [modifyFirst, picked, keeps x picked]
    · simp [modifyFirst, picked, ih]

/-- The first record a key picks is the first one a stricter key picks, if that picks it. -/
theorem find?_of_imp {p q : ε → Bool} {entries : List ε} {e : ε} (found : entries.find? p = some e)
    (own : q e = true) (stricter : ∀ x, q x = true → p x = true) :
    entries.find? q = some e := by
  obtain ⟨-, before, after, split, others⟩ := List.find?_eq_some_iff_append.mp found
  refine List.find?_eq_some_iff_append.mpr ⟨own, before, after, split, fun x mem => ?_⟩
  have other := others x mem
  simp only [Bool.not_eq_eq_eq_not, Bool.not_true] at other ⊢
  exact Bool.eq_false_iff.mpr fun picked => by simp [stricter x picked] at other

/-- The first records of two keys are one if each has the other key as well. -/
theorem find?_eq_of_both {p q : ε → Bool} {entries : List ε} {a b : ε}
    (first : entries.find? p = some a) (second : entries.find? q = some b) (here : q a = true)
    (there : p b = true) : a = b := by
  have picked := List.find?_some first
  have picked' := List.find?_some second
  have both : entries.find? (fun x => p x && q x) = some a :=
    find?_of_imp first (by simp [picked, here]) fun x h => (Bool.and_eq_true _ _ ▸ h).1
  have both' : entries.find? (fun x => p x && q x) = some b :=
    find?_of_imp second (by simp [picked', there]) fun x h => (Bool.and_eq_true _ _ ▸ h).2
  exact Option.some.inj (both.symm.trans both')

/-- Two changes differ at the first picked record or not at all. -/
theorem modifyFirst_inj {p : ε → Bool} {f g : ε → ε} {entries : List ε} {e : ε}
    (found : entries.find? p = some e) :
    modifyFirst p f entries = modifyFirst p g entries ↔ f e = g e := by
  obtain ⟨picked, before, after, rfl, kept⟩ := List.find?_eq_some_iff_append.mp found
  simp only [Bool.not_eq_eq_eq_not, Bool.not_true] at kept
  rw [modifyFirst_append kept picked, modifyFirst_append kept picked]
  simp

/-- A change shows at the first picked record or not at all. -/
theorem modifyFirst_eq_self {p : ε → Bool} {f : ε → ε} {entries : List ε} {e : ε}
    (found : entries.find? p = some e) : modifyFirst p f entries = entries ↔ f e = e := by
  obtain ⟨before, after, rfl, -, modified⟩ := modifyFirst_eq found
  rw [modified]
  simp

theorem mem_modifyFirst {p : ε → Bool} {f : ε → ε} {entries : List ε} {e : ε}
    (mem : e ∈ modifyFirst p f entries) : e ∈ entries ∨ ∃ x ∈ entries, p x = true ∧ e = f x := by
  induction entries with
  | nil => simp [modifyFirst] at mem
  | cons x rest ih =>
    by_cases picked : p x
    · simp only [modifyFirst, picked, if_true, List.mem_cons] at mem
      rcases mem with rfl | mem
      · exact Or.inr ⟨x, by simp, picked, rfl⟩
      · exact Or.inl (by simp [mem])
    · simp only [modifyFirst, picked, Bool.false_eq_true, if_false, List.mem_cons] at mem
      rcases mem with rfl | mem
      · exact Or.inl (by simp)
      · rcases ih mem with old | ⟨y, inRest, pickedY, rfl⟩
        · exact Or.inl (by simp [old])
        · exact Or.inr ⟨y, by simp [inRest], pickedY, rfl⟩

/-- The records of a changed list, where the first picked record is known. -/
theorem mem_modifyFirst_of_found {p : ε → Bool} {f : ε → ε} {entries : List ε} {x e : ε}
    (found : entries.find? p = some x) (mem : e ∈ modifyFirst p f entries) :
    e ∈ entries ∨ e = f x := by
  obtain ⟨before, after, rfl, -, modified⟩ := modifyFirst_eq found
  rw [modified] at mem
  rcases List.mem_append.mp mem with old | mem
  · exact Or.inl (List.mem_append_left _ old)
  · rcases List.mem_cons.mp mem with changed | old
    · exact Or.inr changed
    · exact Or.inl (List.mem_append_right _ (List.mem_cons_of_mem _ old))

/-- The records after a change of the first picked one. -/
theorem mem_modifyFirst_iff {p : ε → Bool} {f : ε → ε} {entries : List ε} {x e : ε}
    (found : entries.find? p = some x) :
    e ∈ modifyFirst p f entries ↔ e = f x ∨ e ∈ entries.eraseP p := by
  have picked := List.find?_some found
  obtain ⟨before, after, rfl, kept, modified⟩ := modifyFirst_eq (f := f) found
  have unpicked : ∀ a ∈ before, ¬p a = true := fun a mem => Bool.eq_false_iff.mp (kept a mem)
  rw [modified, List.eraseP_append_right _ unpicked, List.eraseP_cons_of_pos picked]
  simp only [List.mem_append, List.mem_cons]
  tauto

/-- The record a change writes is the only one of its key, where keys are unique afterwards. -/
theorem mem_replaceFirst {key : ε → κ} {p : ε → Bool} {new e : ε} {entries : List ε}
    (unique : ((modifyFirst p (fun _ => new) entries).map key).Nodup)
    (picked : entries.any p = true) (mem : e ∈ modifyFirst p (fun _ => new) entries) :
    e = new ∨ e ∈ entries ∧ key e ≠ key new := by
  by_cases own : key e = key new
  · obtain ⟨x, here, chosen⟩ := List.any_eq_true.mp picked
    have some : (entries.find? p).isSome = true := List.find?_isSome.mpr ⟨x, here, chosen⟩
    obtain ⟨y, found⟩ := Option.isSome_iff_exists.mp some
    obtain ⟨before, after, -, -, modified⟩ := modifyFirst_eq (f := fun _ => new) found
    refine Or.inl (List.inj_on_of_nodup_map unique mem ?_ own)
    rw [modified]
    simp
  · rcases mem_modifyFirst mem with old | ⟨_, -, -, rfl⟩
    · exact Or.inr ⟨old, own⟩
    · exact absurd rfl own

/-- A new record is found by a key that no other record has. -/
theorem find?_insertFirst {p q : ε → Bool} {new : ε} {entries : List ε}
    (absent : entries.find? q = none) (own : q new = true) :
    (insertFirst p new entries).find? q = some new := by
  obtain ⟨before, after, rfl, inserted⟩ := exists_insertFirst p new entries
  have none := List.find?_eq_none.mp absent
  rw [inserted, List.find?_append]
  have first : before.find? q = Option.none :=
    List.find?_eq_none.mpr fun e mem => none e (List.mem_append_left _ mem)
  simp [first, own]

/-- A record that is found by two keys and changed by one of them is found changed by the other. -/
theorem find?_modifyFirst {p q : ε → Bool} {f : ε → ε} {entries : List ε} {e : ε}
    (picked : entries.find? p = some e) (found : entries.find? q = some e)
    (kept : q (f e) = true) : (modifyFirst p f entries).find? q = some (f e) := by
  induction entries with
  | nil => cases found
  | cons x rest ih =>
    by_cases here : p x
    · simp only [List.find?_cons, here, Option.some.injEq] at picked
      subst picked
      simp [modifyFirst, here, kept]
    · have other : ¬q x = true := by
        intro match_x
        simp only [List.find?_cons, match_x, Option.some.injEq] at found
        subst found
        exact here (List.find?_some picked)
      rw [List.find?_cons_of_neg here] at picked
      rw [List.find?_cons_of_neg other] at found
      simp [modifyFirst, here, other, ih picked found]

/-- A record that is found by a key stays found if the first one of a stricter key is another. -/
theorem find?_modifyFirst_of_other {p q : ε → Bool} {f : ε → ε} {entries : List ε} {e : ε}
    (found : entries.find? q = some e) (other : p e = false)
    (stricter : ∀ x, p x = true → q x = true) : (modifyFirst p f entries).find? q = some e := by
  induction entries with
  | nil => cases found
  | cons x rest ih =>
    by_cases here : q x
    · obtain rfl : x = e := by simpa [here] using found
      simp [modifyFirst, other, here]
    · have unpicked : ¬p x = true := fun picked => here (stricter x picked)
      rw [List.find?_cons_of_neg here] at found
      simp [modifyFirst, unpicked, here, ih found]

/-- A change relates the records of a list one by one. -/
theorem forall₂_modifyFirst {R : ε → ε → Prop} {p : ε → Bool} {f : ε → ε} {entries : List ε} {x : ε}
    (refl : ∀ e, R e e) (found : entries.find? p = some x) (change : R x (f x)) :
    List.Forall₂ R entries (modifyFirst p f entries) := by
  obtain ⟨before, after, rfl, -, modified⟩ := modifyFirst_eq found
  rw [modified]
  have same : ∀ l : List ε, List.Forall₂ R l l := fun l => List.forall₂_same.mpr fun e _ => refl e
  exact List.rel_append (same before) (.cons change (same after))

/-- A change of the first picked record leaves the others. -/
theorem forall₂_modifyFirst_of_picked {Q : ε → ε → Prop} {p : ε → Bool} {f : ε → ε}
    (change : ∀ e, p e = true → Q e (f e)) (entries : List ε) :
    List.Forall₂ (fun e e' => e' = e ∨ Q e e') entries (modifyFirst p f entries) := by
  induction entries with
  | nil => exact .nil
  | cons x rest ih =>
    by_cases picked : p x
    · rw [modifyFirst, if_pos picked]
      exact .cons (Or.inr (change x picked)) (List.forall₂_same.mpr fun _ _ => Or.inl rfl)
    · rw [modifyFirst, if_neg picked]
      exact .cons (Or.inl rfl) ih

/-- Changes of the records one after another. -/
theorem forall₂_trans {R : ε → ε → Prop} (trans : ∀ a b c, R a b → R b c → R a c)
    {as bs cs : List ε} (first : List.Forall₂ R as bs) (second : List.Forall₂ R bs cs) :
    List.Forall₂ R as cs := by
  induction first generalizing cs with
  | nil => exact second
  | cons step _ ih =>
    cases second with
    | cons step' rest => exact .cons (trans _ _ _ step step') (ih rest)

/-! ## Lists with one more record -/

/-- Every record of the old list is changed by `changes`, and at most one has come to them, which is
`new`. -/
inductive Extends (new : ε → Prop) (changes : ε → ε → Prop) : List ε → List ε → Prop
  | same {old out : List ε} : List.Forall₂ changes old out → Extends new changes old out
  | more {old before after : List ε} {e : ε} : new e →
      List.Forall₂ changes old (before ++ after) → Extends new changes old (before ++ e :: after)

section Extends

variable {new : ε → Prop} {changes : ε → ε → Prop} {entries : List ε} {e : ε}

theorem Extends.refl (entries : List ε) : Extends new Eq entries entries :=
  .same (List.forall₂_same.mpr fun _ _ => rfl)

theorem extends_insertFirst (holds : new e) (p : ε → Bool) (entries : List ε) :
    Extends new Eq entries (insertFirst p e entries) := by
  obtain ⟨before, after, rfl, inserted⟩ := exists_insertFirst p e entries
  rw [inserted]
  exact .more holds (List.forall₂_same.mpr fun _ _ => rfl)

theorem extends_append (holds : new e) (entries : List ε) :
    Extends new Eq entries (entries ++ [e]) := by
  apply Extends.more holds
  rw [List.append_nil]
  exact List.forall₂_same.mpr fun _ _ => rfl

/-- The changes of a list in two parts. -/
theorem exists_of_forall₂_append {as bs cs : List ε}
    (changed : List.Forall₂ changes (as ++ bs) cs) : ∃ cs₁ cs₂, cs = cs₁ ++ cs₂ ∧
      List.Forall₂ changes as cs₁ ∧ List.Forall₂ changes bs cs₂ := by
  refine ⟨cs.take as.length, cs.drop as.length, (List.take_append_drop _ _).symm, ?_, ?_⟩
  · exact (List.forall₂_take_append _ _ _ changed.flip).flip
  · exact (List.forall₂_drop_append _ _ _ changed.flip).flip

/-- Changes that keep what a new record is may follow an addition. -/
theorem Extends.changed {old out : List ε} (extended : Extends new Eq old entries)
    (keeps : ∀ a b, new a → changes a b → new b) (changed : List.Forall₂ changes entries out) :
    Extends new changes old out := by
  cases extended with
  | same equal =>
    rw [List.forall₂_eq_eq_eq] at equal
    subst equal
    exact .same changed
  | more holds equal =>
    rw [List.forall₂_eq_eq_eq] at equal
    subst equal
    obtain ⟨before', tail, rfl, first, rest⟩ := exists_of_forall₂_append changed
    cases rest with
    | cons change rest =>
      exact .more (keeps _ _ holds change) (List.rel_append first rest)

end Extends

/-! ## What the loop computes -/

/-- Every record of the copy is one of the source, or one the loop has written. -/
theorem mem_copyLoop {visit : ε → Visit ε χ} {new : ε → Prop}
    (writes : ∀ e x, visit e = .insert x ∨ visit e = .replace x → new x) {done edited : Bool}
    {entries out : List ε} (copied : copyLoop visit done entries = .ok (edited, out)) :
    ∀ e ∈ out, e ∈ entries ∨ new e := by
  induction entries generalizing done edited out with
  | nil =>
    cases done <;>
      · obtain ⟨-, rfl⟩ := Prod.mk.inj (Except.ok.inj copied)
        exact fun e mem => Or.inl mem
  | cons x rest ih =>
    cases done with
    | true =>
      obtain ⟨-, rfl⟩ := Prod.mk.inj (Except.ok.inj copied)
      exact fun e mem => Or.inl mem
    | false =>
      rw [copyLoop] at copied
      cases visited : visit x with
      | keep =>
        rw [visited] at copied
        cases later : copyLoop visit false rest with
        | error err => simp [later, Except.map] at copied
        | ok r =>
          obtain ⟨edited', out'⟩ := r
          obtain ⟨-, rfl⟩ : edited' = edited ∧ x :: out' = out := by
            simpa [later, Except.map] using copied
          intro e mem
          rcases List.mem_cons.mp mem with rfl | mem
          · exact Or.inl List.mem_cons_self
          · exact (ih later e mem).imp_left (List.mem_cons_of_mem _)
      | insert y =>
        rw [visited] at copied
        obtain ⟨-, rfl⟩ := Prod.mk.inj (Except.ok.inj copied)
        intro e mem
        rcases List.mem_cons.mp mem with rfl | mem
        · exact Or.inr (writes x e (Or.inl visited))
        · exact Or.inl mem
      | drop =>
        rw [visited] at copied
        obtain ⟨-, rfl⟩ := Prod.mk.inj (Except.ok.inj copied)
        exact fun e mem => Or.inl (List.mem_cons_of_mem _ mem)
      | replace y =>
        rw [visited] at copied
        obtain ⟨-, rfl⟩ := Prod.mk.inj (Except.ok.inj copied)
        intro e mem
        rcases List.mem_cons.mp mem with rfl | mem
        · exact Or.inr (writes x e (Or.inr visited))
        · exact Or.inl (List.mem_cons_of_mem _ mem)
      | refuse err =>
        rw [visited] at copied
        cases copied

section Loop

variable {p : ε → Prop} [DecidablePred p]

theorem copyLoop_insert (new : ε) (entries : List ε) :
    copyLoop (fun e => if p e then (.insert new : Visit ε χ) else .keep) false entries =
      .ok (entries.any (p ·),
        if entries.any (p ·) then insertFirst (p ·) new entries else entries) := by
  induction entries with
  | nil => rfl
  | cons e rest ih =>
    by_cases picked : p e
    · simp [copyLoop, picked, insertFirst]
    · simp only [copyLoop, picked, if_false, ih, Except.map, insertFirst, List.any_cons,
        decide_false, Bool.false_or, Bool.false_eq_true]
      split_ifs <;> rfl

theorem copyLoop_drop (entries : List ε) :
    copyLoop (fun e => if p e then (.drop : Visit ε χ) else .keep) false entries =
      .ok (entries.any (p ·), entries.eraseP (p ·)) := by
  induction entries with
  | nil => rfl
  | cons e rest ih => by_cases picked : p e <;> simp [copyLoop, picked, ih, Except.map]

theorem copyLoop_replace (f : ε → ε) (entries : List ε) :
    copyLoop (fun e => if p e then (.replace (f e) : Visit ε χ) else .keep) false entries =
      .ok (entries.any (p ·), modifyFirst (p ·) f entries) := by
  induction entries with
  | nil => rfl
  | cons e rest ih =>
    by_cases picked : p e <;> simp [copyLoop, picked, ih, modifyFirst, Except.map]

theorem copyLoop_refuse (err : χ) (entries : List ε) :
    copyLoop (fun e => if p e then (.refuse err : Visit ε χ) else .keep) false entries =
      if entries.any (p ·) then .error err else .ok (false, entries) := by
  induction entries with
  | nil => rfl
  | cons e rest ih =>
    by_cases picked : p e
    · simp [copyLoop, picked]
    · rw [copyLoop]
      simp only [picked, if_false, ih]
      by_cases later : rest.any (p ·) <;> simp [later, picked, Except.map]

end Loop

/-- Where the first of the entries is dropped, and there is one at most, none is left. -/
theorem not_of_mem_eraseP {p : ε → Bool} {l : List ε} (one : l.countP p ≤ 1) :
    ∀ a ∈ l.eraseP p, ¬p a = true := by
  intro a mem holds
  have left : 0 < (l.eraseP p).countP p := List.countP_pos_iff.mpr ⟨a, mem, holds⟩
  induction l with
  | nil => cases mem
  | cons b rest ih =>
    by_cases first : p b = true
    · rw [List.eraseP_cons_of_pos first] at left
      rw [List.countP_cons_of_pos first] at one
      omega
    · rw [List.eraseP_cons_of_neg first] at left mem
      rw [List.countP_cons_of_neg first] at one left
      rcases List.mem_cons.mp mem with rfl | mem
      · exact first holds
      · exact ih one mem left

end EntryLoop
