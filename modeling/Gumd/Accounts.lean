import Mathlib.Data.Multiset.MapFold
import Mathlib.Data.Multiset.UnionInter
import Mathlib.Logic.Relation

/-!
# Accounts

What an account database is for, whatever its names, ids and files: it knows users and groups by
name and by id, and every user's primary group.  A step adds a user or a group under a new name and
a new id, or removes one; a user joins an existing group, and a group in use stays.
-/

namespace Accounts

variable {N I : Type*}

/-- What identifies a user, with the id of the primary group. -/
structure User (N I : Type*) where
  name : N
  uid : I
  gid : I

/-- What identifies a group. -/
structure Group (N I : Type*) where
  name : N
  gid : I

/-- The users and groups a database knows. -/
structure Db (N I : Type*) where
  users : Multiset (User N I)
  groups : Multiset (Group N I)

inductive Step : Db N I → Db N I → Prop
  | addUser {users groups} (u : User N I) (g : Group N I) :
      (∀ v ∈ users, v.name ≠ u.name ∧ v.uid ≠ u.uid) → g ∈ groups → g.gid = u.gid →
      Step ⟨users, groups⟩ ⟨u ::ₘ users, groups⟩
  | removeUser {users groups} (u : User N I) : Step ⟨u ::ₘ users, groups⟩ ⟨users, groups⟩
  | addGroup {users groups} (g : Group N I) :
      (∀ h ∈ groups, h.name ≠ g.name ∧ h.gid ≠ g.gid) →
      Step ⟨users, groups⟩ ⟨users, g ::ₘ groups⟩
  | removeGroup {users groups} (g : Group N I) : (∀ u ∈ users, u.gid ≠ g.gid) →
      Step ⟨users, g ::ₘ groups⟩ ⟨users, groups⟩

/-- Any number of steps. -/
abbrev Steps : Db N I → Db N I → Prop := Relation.ReflTransGen Step

/-- No name and no id is given twice. -/
structure Unique (a : Db N I) : Prop where
  userNames : (a.users.map (·.name)).Nodup
  uids : (a.users.map (·.uid)).Nodup
  groupNames : (a.groups.map (·.name)).Nodup
  gids : (a.groups.map (·.gid)).Nodup

/-- The primary group of every user exists. -/
def Linked (a : Db N I) : Prop := ∀ u ∈ a.users, ∃ g ∈ a.groups, g.gid = u.gid

/-- A key stays unique when an entry with a new key is added. -/
theorem nodup_map_cons {α κ : Type*} {key : α → κ} {s : Multiset α} {a : α}
    (fresh : ∀ b ∈ s, key b ≠ key a) (unique : (s.map key).Nodup) :
    ((a ::ₘ s).map key).Nodup := by
  rw [Multiset.map_cons, Multiset.nodup_cons]
  refine ⟨fun mem => ?_, unique⟩
  obtain ⟨b, inside, same⟩ := Multiset.mem_map.mp mem
  exact fresh b inside same

theorem nodup_of_map_cons {α κ : Type*} {key : α → κ} {s : Multiset α} {a : α}
    (unique : ((a ::ₘ s).map key).Nodup) : (s.map key).Nodup := by
  rw [Multiset.map_cons] at unique
  exact (Multiset.nodup_cons.mp unique).2

theorem Unique.step {a b : Db N I} (unique : Unique a) (step : Step a b) : Unique b := by
  cases step with
  | addUser u g fresh mem same =>
    exact ⟨nodup_map_cons (fun v inside => (fresh v inside).1) unique.userNames,
      nodup_map_cons (fun v inside => (fresh v inside).2) unique.uids, unique.groupNames,
      unique.gids⟩
  | removeUser u =>
    exact ⟨nodup_of_map_cons unique.userNames, nodup_of_map_cons unique.uids,
      unique.groupNames, unique.gids⟩
  | addGroup g fresh =>
    exact ⟨unique.userNames, unique.uids,
      nodup_map_cons (fun h inside => (fresh h inside).1) unique.groupNames,
      nodup_map_cons (fun h inside => (fresh h inside).2) unique.gids⟩
  | removeGroup g unused =>
    exact ⟨unique.userNames, unique.uids, nodup_of_map_cons unique.groupNames,
      nodup_of_map_cons unique.gids⟩

theorem Linked.step {a b : Db N I} (linked : Linked a) (step : Step a b) : Linked b := by
  cases step with
  | addUser u g fresh mem same =>
    intro v inside
    rcases Multiset.mem_cons.mp inside with rfl | inside
    · exact ⟨g, mem, same⟩
    · exact linked v inside
  | removeUser u => exact fun v inside => linked v (Multiset.mem_cons_of_mem inside)
  | addGroup g fresh =>
    intro v inside
    obtain ⟨h, mem, same⟩ := linked v inside
    exact ⟨h, Multiset.mem_cons_of_mem mem, same⟩
  | removeGroup g unused =>
    intro v inside
    obtain ⟨h, mem, same⟩ := linked v inside
    rcases Multiset.mem_cons.mp mem with rfl | mem
    · exact absurd same.symm (unused v inside)
    · exact ⟨h, mem, same⟩

/-- What every step keeps, every run keeps. -/
theorem Steps.invariant {P : Db N I → Prop} (keeps : ∀ {a b}, P a → Step a b → P b)
    {a b : Db N I} (steps : Steps a b) (start : P a) : P b := by
  induction steps with
  | refl => exact start
  | tail _ step ih => exact keeps ih step

end Accounts
