import Gumd.EntryRules
import Gumd.FileRules

/-!
# Rules for the group operations

What the steps of the group operations compute where files can be read.  The steps that write no
file change the caller's error at most, so their rules give the final state.
-/

namespace Gumd

open StateWp EntryLoop

/-! ## The setters' rule -/

section StringProperty

variable {p : Str → Prop} [DecidablePred p]

/-- A written property is the accepted value, and the old one otherwise. -/
theorem setStringProperty_eq (value : Option Str) (old : Option (Subtype p)) :
    (∃ s, value = some s.val ∧ setStringProperty value old = some s) ∨
      ((∀ s, value = some s → ¬p s) ∧ setStringProperty value old = old) := by
  cases value with
  | none => exact Or.inr ⟨by simp, by simp [setStringProperty]⟩
  | some s =>
    by_cases accepted : p s
    · refine Or.inl ⟨⟨s, accepted⟩, rfl, ?_⟩
      by_cases same : some s = ptr old
      · have old_eq : old = some ⟨s, accepted⟩ := ptr_injective same.symm
        simp [setStringProperty, old_eq]
      · simp [setStringProperty, same, accepted]
    · refine Or.inr ⟨by simp [accepted], ?_⟩
      simp [setStringProperty, accepted]

theorem setStringProperty_of_accepted {s : Str} (accepted : p s) (old : Option (Subtype p)) :
    setStringProperty (some s) old = some ⟨s, accepted⟩ := by
  rcases setStringProperty_eq (some s) old with ⟨t, same, result⟩ | ⟨rejected, -⟩
  · cases same
    exact result
  · exact absurd accepted (rejected s rfl)

theorem setStringProperty_of_rejected {value : Option Str} (rejected : ∀ s, value = some s → ¬p s)
    (old : Option (Subtype p)) : setStringProperty value old = old := by
  rcases setStringProperty_eq value old with ⟨t, same, -⟩ | ⟨-, result⟩
  · exact absurd t.property (rejected _ same)
  · exact result

/-- Writing back a string the field holds changes nothing. -/
@[simp] theorem setStringProperty_ptr (old : Option (Subtype p)) :
    setStringProperty (ptr old) old = old := by
  simp [setStringProperty]

/-- A property that is unset or agrees with a written string becomes that string, or stays unset
if the validator rejects it. -/
theorem ptr_setStringProperty_agreeing {old : Option (Subtype p)} {v : Str}
    (agrees : old = none ∨ ptr old = some v) :
    ptr (setStringProperty (some v) old) = if p v then some v else none := by
  split_ifs with valid
  · rw [setStringProperty_of_accepted valid]
    rfl
  · have rejected : ∀ s, some v = some s → ¬p s := by
      rintro s ⟨rfl⟩
      exact valid
    rw [setStringProperty_of_rejected rejected]
    rcases agrees with rfl | same
    · rfl
    · cases old with
      | none => rfl
      | some s =>
        rw [ptr_some] at same
        exact absurd (Option.some.inj same ▸ s.property) valid

end StringProperty

/-! ## Lookup -/

/-- The entry `_get_group` finds for a record. -/
def Files.getGroup (f : Files) (group : GroupRecord) : Option Group :=
  let byGid := if group.grGid ≠ gumGroupInvalidGid then f.getgrgid group.grGid else none
  let grp := if group.grName.isSome ∧ byGid.isNone then (ptr group.grName).bind f.getgrnam
    else byGid
  grp.filter group.agrees

theorem GroupRecord.agrees_iff {group : GroupRecord} {entry : Group} :
    group.agrees entry = true ↔
      (group.grGid = gumGroupInvalidGid ∨ group.grGid = entry.grGid) ∧
        (group.grName = none ∨ ptr group.grName = some entry.grName) := by
  simp [GroupRecord.agrees]

/-- A record with a gid finds the first entry of that gid, if the names agree. -/
theorem Files.getGroup_of_gid (f : Files) {group : GroupRecord}
    (valid : group.grGid ≠ gumGroupInvalidGid) :
    f.getGroup group = (f.getgrgid group.grGid).filter group.agrees := by
  cases byGid : f.getgrgid group.grGid with
  | some entry => simp [Files.getGroup, valid, byGid]
  | none =>
    simp only [Files.getGroup, valid, byGid, Option.filter_none, ne_eq, not_false_eq_true, if_true,
      Option.isNone_none, and_true]
    split_ifs
    · -- an entry found by name alone has another gid
      rw [Option.filter_eq_none_iff]
      intro entry byName agrees
      obtain ⟨name, -, byName⟩ := Option.bind_eq_some_iff.mp byName
      have gid := (GroupRecord.agrees_iff.mp agrees).1.resolve_left valid
      have other := List.find?_eq_none.mp byGid entry (List.mem_of_find?_eq_some byName)
      simp [gid] at other
    · rfl

/-- The found entry is in the file and agrees with the properties that are set. -/
theorem Files.getGroup_some {f : Files} {group : GroupRecord} {entry : Group}
    (found : f.getGroup group = some entry) : entry ∈ f.group ∧ group.agrees entry = true := by
  obtain ⟨picked, agrees⟩ := Option.filter_eq_some_iff.mp found
  refine ⟨?_, agrees⟩
  split_ifs at picked
  all_goals first
    | exact List.mem_of_find?_eq_some picked
    | (obtain ⟨name, -, byName⟩ := Option.bind_eq_some_iff.mp picked
       exact List.mem_of_find?_eq_some byName)

/-- How `_copy_group_data` can end that looks up the entries itself. -/
inductive GumdDaemonGroup.Loaded (clear : Prop) (f : Files) (g : GumdDaemonGroup) :
    Bool → GumdDaemonGroup → Prop
  | missing : f.getGroup g.group = none → Loaded clear f g false g
  | found {entry sg} : f.getGroup g.group = some entry →
      Answer clear (f.getsgnam entry.grName) sg →
      Loaded clear f g true (g.copyGroupEntries entry sg)

/-- What the id loops compute when `taken` says which ids have an entry. -/
def firstFree (taken : UInt32 → Bool) (idMax : UInt32) : Nat → UInt32 → Option (Option UInt32)
  | 0, _ => none
  | fuel + 1, id =>
      if id ≤ idMax then
        if taken id then firstFree taken idMax fuel (id + 1) else some (some id)
      else some none

/-- The id a loop ends with has no entry. -/
theorem taken_of_firstFree {taken : UInt32 → Bool} {idMax id : UInt32} {fuel : Nat}
    {start : UInt32} (found : firstFree taken idMax fuel start = some (some id)) :
    taken id = false := by
  induction fuel generalizing start with
  | zero => simp [firstFree] at found
  | succ fuel ih =>
    simp only [firstFree] at found
    split_ifs at found with inside used
    · exact ih found
    · obtain rfl : start = id := by simpa using found
      simpa using used
    · simp at found

/-- The gid `_find_free_gid` finds. -/
def Files.findFreeGid (f : Files) (config : GumConfig) (preferredGid : UInt32)
    (self : GumdDaemonGroup) : Option UInt32 :=
  if preferredGid ≠ gumGroupInvalidGid ∧ (f.getgrgid preferredGid).isNone then some preferredGid
  else
    match getDefaultGidRange config self with
    | none => none
    | some (gidMin, gidMax) =>
        (firstFree (fun gid => (f.getgrgid gid).isSome) gidMax idCount gidMin).join

theorem getgrgid_of_findFreeGid {f : Files} {config : GumConfig} {preferredGid gid : UInt32}
    {self : GumdDaemonGroup} (found : f.findFreeGid config preferredGid self = some gid) :
    f.getgrgid gid = none := by
  simp only [Files.findFreeGid] at found
  split_ifs at found with preferred
  · obtain rfl : preferredGid = gid := by simpa using found
    simpa using preferred.2
  · cases range : getDefaultGidRange config self with
    | none => simp [range] at found
    | some range' =>
      simp only [range, Option.join_eq_some_iff] at found
      simpa using taken_of_firstFree found

/-- The gid `_set_gid` gives to an object: its name must be set and new. -/
def Files.allocGid (f : Files) (config : GumConfig) (preferredGid : UInt32)
    (self : GumdDaemonGroup) : Option UInt32 :=
  match self.group.grName with
  | none => none
  | some name =>
      if (f.getgrnam name.val).isSome then none else f.findFreeGid config preferredGid self

/-- The password `_set_secret` puts into the gshadow record; `none` if it cannot be encrypted. -/
def GumdDaemonGroup.newPasswd (env : Env) (self : GumdDaemonGroup) : Option Str :=
  match self.group.grPasswd with
  | none => some (if self.groupType = gumGrouptypeSystem then str "*" else str "!")
  | some secret => gumCryptEncryptSecret env.crypt env.urandom secret.val
      (gumConfigGetString env.config gumConfigGeneralEncryptMethod)

/-- The object after `_set_secret`. -/
def GumdDaemonGroup.withSecret (env : Env) (self : GumdDaemonGroup) : GumdDaemonGroup :=
  { self with
    group := { self.group with
      grPasswd := if (self.newPasswd env).isSome then some secretMarker
        else self.group.grPasswd }
    gshadow := { self.gshadow with sgPasswd := self.newPasswd env } }

theorem wp_findFreeLoop {ε : Type} {lookup : UInt32 → StateM World (Option ε)} {w : World}
    {found : UInt32 → Option ε}
    (rule : ∀ (id : UInt32) (Q : Option ε → World → Prop),
      wp (lookup id) Q w ↔ Q (found id) w)
    (idMax : UInt32) (fuel : Nat) (start : UInt32) (Q : Option (Option UInt32) → World → Prop) :
    wp (findFreeLoop lookup idMax fuel start) Q w ↔
      Q (firstFree (fun id => (found id).isSome) idMax fuel start) w := by
  induction fuel generalizing start with
  | zero => rfl
  | succ fuel ih =>
    simp only [findFreeLoop, wp_ite, wp_bind, rule, wp_pure, ih, firstFree]
    by_cases inside : start ≤ idMax
    · by_cases used : found start = none
      · simp [inside, used]
      · have occupied : (found start).isSome = true := Option.isSome_iff_ne_none.mpr used
        simp [inside, used, occupied]
    · simp [inside]

namespace GumdDaemonGroup

variable {s : St GumdDaemonGroup}

theorem wp_getGroup (readable : s.world.faults.read = .const true) :
    wp getGroup (fun r t => r = s.world.files.getGroup s.self.group ∧ t.self = s.self ∧
      s.world.Quiet t.world) s := by
  simp only [getGroup, wp_bind, wp_getSelf, wp_liftM,
    wp_lookupIf (wp_gumFileGetgrgid readable _), wp_lookupIf (wp_gumFileGetgrnam readable _)]
  rw [Files.getGroup]
  cases Option.filter s.self.group.agrees _ with
  | none => exact ⟨rfl, rfl, .error _ _⟩
  | some entry => exact ⟨rfl, rfl, .refl _⟩

theorem wp_copyGroupData (readable : s.world.faults.read = .const true) :
    wp (copyGroupData none none) (fun ok t =>
      s.self.Loaded (s.world.faults.readShadow = .const true) s.world.files ok t.self ∧
      s.world.Quiet t.world) s := by
  simp only [copyGroupData, wp_bind, Option.isNone_none, if_true]
  refine wp_mono (wp_getGroup readable) ?_
  rintro r t ⟨rfl, self, quiet⟩
  cases found : s.world.files.getGroup s.self.group with
  | none =>
    rw [wp_pure, self]
    exact ⟨.missing found, quiet⟩
  | some entry =>
    simp only [wp_bind, wp_liftM, lookupIf, if_true]
    refine wp_mono (gumFileGetsgnam_spec entry.grName t.world) ?_
    rintro sg w ⟨answer, looked⟩
    rw [quiet.files] at answer
    simp only [wp_modifySelf, wp_pure, self]
    exact ⟨.found found (answer.mono quiet.balanced.readShadow), quiet.trans looked.quiet⟩

/-- Copying entries that were looked up before; a gshadow entry that was not found is looked up
once more. -/
theorem wp_copyGroupData_some (gent : Group) (sgent : Option Sgrp) :
    wp (copyGroupData (some gent) sgent) (fun ok t => ok = true ∧
      (∃ sg, t.self = s.self.copyGroupEntries gent sg ∧ (sgent.isSome → sg = sgent) ∧
        (sgent = none → Answer (s.world.faults.readShadow = .const true)
          (s.world.files.getsgnam gent.grName) sg)) ∧ s.world.Quiet t.world) s := by
  simp only [copyGroupData, wp_bind, Option.isNone_some, Bool.false_eq_true, if_false, wp_pure,
    wp_liftM]
  cases sgent with
  | some sg =>
    simp only [lookupIf, Option.isNone_some, Bool.false_eq_true, if_false, wp_pure,
      wp_modifySelf]
    exact ⟨trivial, ⟨some sg, rfl, fun _ => rfl, by simp⟩, .refl _⟩
  | none =>
    simp only [lookupIf, Option.isNone_none, if_true]
    refine wp_mono (gumFileGetsgnam_spec gent.grName s.world) ?_
    rintro sg w ⟨answer, looked⟩
    simp only [wp_modifySelf, wp_pure]
    exact ⟨trivial, ⟨sg, rfl, by simp, fun _ => answer⟩, looked.quiet⟩

theorem wp_findFreeGid (readable : s.world.faults.read = .const true) (config : GumConfig)
    (preferredGid : UInt32) :
    wp (findFreeGid config preferredGid) (fun r t => t = s ∧
      r.join = s.world.files.findFreeGid config preferredGid s.self) s := by
  simp only [findFreeGid, wp_ite, wp_bind, wp_liftM, wp_gumFileGetgrgid readable, wp_pure,
    wp_getSelf, Files.findFreeGid]
  by_cases valid : preferredGid = gumGroupInvalidGid <;>
    by_cases free : s.world.files.getgrgid preferredGid = none <;>
    cases getDefaultGidRange config s.self <;>
    simp [valid, free, wp_findFreeLoop (wp_gumFileGetgrgid readable)]

/-- `_set_gid` gives the object the gid, or fails and leaves it as it is. -/
theorem wp_setGid (readable : s.world.faults.read = .const true) (config : GumConfig)
    (preferredGid : UInt32) :
    wp (setGid config preferredGid) (fun ok t =>
      ok = (s.world.files.allocGid config preferredGid s.self).isSome ∧
      t.self = (s.world.files.allocGid config preferredGid s.self).elim s.self
        (setGidProperty · s.self) ∧ s.world.Quiet t.world) s := by
  cases name : s.self.group.grName with
  | none =>
    simp only [setGid, wp_bind, wp_getSelf, wp_liftM, name, Files.allocGid]
    exact ⟨rfl, rfl, .error _ _⟩
  | some name' =>
    have valid : gumValidateName (some name'.val) = .ok () := name'.property
    simp only [setGid, wp_bind, wp_getSelf, wp_liftM, name, ptr_some, valid, gumReturnValidated,
      wp_ite, wp_pure, wp_gumFileGetgrnam readable, Files.allocGid, Option.bind_some]
    refine ⟨by simp, fun _ => ⟨fun taken => ?_, fun fresh => ?_⟩⟩
    · simp only [taken, if_true]
      exact ⟨rfl, rfl, .error _ _⟩
    · simp only [fresh]
      refine wp_mono (wp_findFreeGid readable config preferredGid) ?_
      rintro r t ⟨rfl, joined⟩
      simp only [joined, Bool.false_eq_true, if_false]
      cases t.world.files.findFreeGid config preferredGid t.self with
      | none => exact ⟨rfl, rfl, .error _ _⟩
      | some gid => exact ⟨rfl, rfl, .refl _⟩

theorem wp_setSecret (env : Env) :
    wp (setSecret env) (fun ok t => ok = (s.self.newPasswd env).isSome ∧
      t.self = s.self.withSecret env ∧ s.world.Quiet t.world) s := by
  obtain ⟨⟨groupType, ⟨grName, grPasswd, grGid, grMem⟩, gshadow⟩, w⟩ := s
  cases grPasswd with
  | none =>
    simp only [setSecret, wp_bind, wp_getSelf, wp_modifySelf, wp_pure, newPasswd, withSecret]
    exact ⟨rfl, rfl, .refl _⟩
  | some plain =>
    simp only [setSecret, wp_bind, wp_getSelf, wp_modifySelf, wp_ite, newPasswd, withSecret]
    rcases Option.eq_none_or_eq_some (gumCryptEncryptSecret env.crypt env.urandom plain.val
        (gumConfigGetString env.config gumConfigGeneralEncryptMethod)) with failed | ⟨hash, done⟩
    · simp only [failed]
      exact ⟨fun _ => ⟨rfl, rfl, .error _ _⟩, by simp⟩
    · simp only [done]
      exact ⟨by simp, fun _ => ⟨rfl, rfl, .refl _⟩⟩

end GumdDaemonGroup

end Gumd
