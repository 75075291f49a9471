import Mathlib.Data.List.Nodup
import Mathlib.Data.List.Perm.Lattice

/-!
# Paired tables

Two tables that list the same keys, each key once.  They stay so when a new key is added to both,
and when one key is taken away from both; the order of the entries is free.
-/

namespace Pairs

variable {ε κ : Type*}

/-- The tables list the same keys, without duplicates. -/
structure SameKeys (keys others : List κ) : Prop where
  nodup : keys.Nodup
  othersNodup : others.Nodup
  same : ∀ k, k ∈ keys ↔ k ∈ others

variable {keys others : List κ}

theorem SameKeys.perm {keys' others' : List κ} (paired : SameKeys keys others)
    (first : keys'.Perm keys) (second : others'.Perm others) : SameKeys keys' others' where
  nodup := first.nodup_iff.mpr paired.nodup
  othersNodup := second.nodup_iff.mpr paired.othersNodup
  same k := by rw [first.mem_iff, second.mem_iff, paired.same]

/-- A new key in both tables. -/
theorem SameKeys.cons {k : κ} (paired : SameKeys keys others) (fresh : k ∉ keys) :
    SameKeys (k :: keys) (k :: others) where
  nodup := List.nodup_cons.mpr ⟨fresh, paired.nodup⟩
  othersNodup := List.nodup_cons.mpr ⟨fun mem => fresh ((paired.same k).mpr mem), paired.othersNodup⟩
  same l := by rw [List.mem_cons, List.mem_cons, paired.same]

/-- A key less in both tables. -/
theorem SameKeys.erase [BEq κ] [LawfulBEq κ] (paired : SameKeys keys others) (k : κ) :
    SameKeys (keys.erase k) (others.erase k) where
  nodup := paired.nodup.erase k
  othersNodup := paired.othersNodup.erase k
  same l := by
    rw [paired.nodup.mem_erase_iff, paired.othersNodup.mem_erase_iff, paired.same]

/-- A removal that picks an entry by more than its key takes away that key. -/
theorem map_eraseP_of_nodup [BEq κ] [LawfulBEq κ] {key : ε → κ} {p : ε → Bool} {k : κ}
    {entries : List ε} (nodup : (entries.map key).Nodup) (keyed : ∀ e, p e = true → key e = k)
    (picked : entries.any p = true) : (entries.eraseP p).map key = (entries.map key).erase k := by
  induction entries with
  | nil => cases picked
  | cons e rest ih =>
    rw [List.map_cons, List.nodup_cons] at nodup
    rw [List.any_cons, Bool.or_eq_true] at picked
    cases own : p e with
    | true =>
      rw [List.eraseP_cons_of_pos own, List.map_cons, keyed e own, List.erase_cons_head]
    | false =>
      have later : rest.any p = true := picked.resolve_left (by simp [own])
      -- an entry of that key comes later, so this one has another key
      have other : key e ≠ k := by
        intro same
        obtain ⟨x, mem, found⟩ := List.any_eq_true.mp later
        apply nodup.1
        rw [same, ← keyed x found]
        exact List.mem_map_of_mem mem
      rw [List.eraseP_cons_of_neg (by simp [own]), List.map_cons, List.map_cons,
        List.erase_cons_tail (by simpa using other), ih nodup.2 later]

end Pairs
