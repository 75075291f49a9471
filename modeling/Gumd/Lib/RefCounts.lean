import Mathlib.Data.List.Count
import Mathlib.Data.List.Perm.Basic
import Mathlib.Logic.Function.Basic

/-!
# Reference counts

Objects are numbers, and a list says for each reference which object it is to.  The counts are those of
the list if every object has as many references as the list has of it.  An object with a count is then one
somebody has a reference to, and the last reference that is dropped takes the count to zero.
-/

namespace RefCounts

variable {held held' : List Nat} {refs : Nat → Nat} {i : Nat}

/-- Every object has the references of the list. -/
def Counted (held : List Nat) (refs : Nat → Nat) : Prop := ∀ i, refs i = held.count i

theorem counted_nil : Counted [] fun _ => 0 := fun _ => rfl

theorem Counted.perm (counted : Counted held refs) (same : held.Perm held') : Counted held' refs :=
  fun i => (counted i).trans (same.count_eq i)

theorem Counted.pos (counted : Counted held refs) (mem : i ∈ held) : 0 < refs i := by
  rw [counted i]
  exact List.count_pos_iff.mpr mem

theorem Counted.mem (counted : Counted held refs) (pos : 0 < refs i) : i ∈ held := by
  rw [counted i] at pos
  exact List.count_pos_iff.mp pos

/-- One more reference to an object. -/
theorem Counted.cons (counted : Counted held refs) (i : Nat) :
    Counted (i :: held) (Function.update refs i (refs i + 1)) := by
  intro j
  by_cases same : j = i
  · rw [same, Function.update_self, List.count_cons_self, counted i]
  · rw [Function.update_of_ne same, List.count_cons_of_ne (Ne.symm same), counted j]

/-- The first reference to an object. -/
theorem Counted.first (counted : Counted held refs) (new : refs i = 0) :
    Counted (i :: held) (Function.update refs i 1) := by
  have more := counted.cons i
  rwa [new] at more

/-- One reference less. -/
theorem Counted.drop (counted : Counted (i :: held) refs) :
    Counted held (Function.update refs i (refs i - 1)) := by
  intro j
  by_cases same : j = i
  · rw [same, Function.update_self, counted i, List.count_cons_self, Nat.add_sub_cancel]
  · rw [Function.update_of_ne same, counted j, List.count_cons_of_ne (Ne.symm same)]

/-- The reference that is dropped is the last one exactly if the list has no other. -/
theorem Counted.last_iff (counted : Counted (i :: held) refs) : refs i - 1 = 0 ↔ i ∉ held := by
  rw [counted i, List.count_cons_self, Nat.add_sub_cancel, List.count_eq_zero]

/-- The holders but the one of a key, where keys are distinct. -/
theorem perm_cons_filter {H K : Type} [DecidableEq K] {key : H → K} {holders : List H} {h : H}
    (distinct : (holders.map key).Nodup) (mem : h ∈ holders) :
    holders.Perm (h :: holders.filter fun g => decide (key g ≠ key h)) := by
  induction holders with
  | nil => cases mem
  | cons g rest ih =>
    rw [List.map_cons, List.nodup_cons] at distinct
    obtain ⟨first, later⟩ := distinct
    rcases List.mem_cons.mp mem with rfl | inside
    · have others : (rest.filter fun g => decide (key g ≠ key h)) = rest := by
        apply List.filter_eq_self.mpr
        intro g member
        exact decide_eq_true fun same => first (same ▸ List.mem_map_of_mem member)
      rw [List.filter_cons_of_neg (by simp), others]
    · have other : key g ≠ key h := fun same => first (same ▸ List.mem_map_of_mem inside)
      rw [List.filter_cons_of_pos (by simpa using other)]
      exact ((ih later inside).cons g).trans (List.Perm.swap h g _)

end RefCounts
