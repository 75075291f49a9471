import Gumd.UserUpdate

/-!
# Searches that can fail

What the operations find when any of their lookups may fail to open its file: the outcomes of the
system calls to come decide.
-/

namespace Gumd

open StateWp EntryLoop

/-! ## Two lookups in one file -/

/-- A search uses up outcomes of opening the passwd and group files only. -/
structure World.Sought (w t : World) : Prop where
  quiet : w.Quiet t
  readShadow : t.faults.readShadow = w.faults.readShadow
  write : t.faults.write = w.faults.write

section Search

variable {O ε : Type}

/-- A lookup in the passwd or group file finds nothing if the file cannot be opened. -/
theorem wp_gumFileLookup_openFile (found : Files → Option ε) (Q : Option ε → World → Prop)
    (w : World) : wp (gumFileLookup openFile found) Q w ↔
      Q (if w.faults.read.head then found w.files else none)
        { w with faults := { w.faults with read := w.faults.read.tail } } := by
  simp only [gumFileLookup, openFile, wp_bind, wp_get, wp_set, wp_pure, wp_ite]
  cases w.faults.read.head <;> simp

theorem lookupIf_pos {c : Prop} [Decidable c] (holds : c) (m : StateM World (Option ε))
    (other : Option ε) : lookupIf c m other = m := if_pos holds

/-- What a search by id finds that turns to the name, if there is one, where the id finds nothing. -/
def World.search (w : World) (byId : Files → Option ε) (byName : Option (Files → Option ε))
    (agrees : ε → Bool) : Option ε :=
  let first := if w.faults.read.head then byId w.files else none
  let found := if byName.isSome ∧ first.isNone then
      if w.faults.read.tail.head then byName.bind (· w.files) else none
    else first
  found.filter agrees

theorem World.search_afterLock (w : World) (byId : Files → Option ε)
    (byName : Option (Files → Option ε)) (agrees : ε → Bool) :
    w.afterLock.search byId byName agrees = w.search byId byName agrees := by
  simp only [World.search, World.files_afterLock, World.read_afterLock]

/-- The entry is found by id or by name, and agrees with the record. -/
theorem World.search_some {w : World} {byId : Files → Option ε}
    {byName : Option (Files → Option ε)} {agrees : ε → Bool} {entry : ε}
    (found : w.search byId byName agrees = some entry) : agrees entry = true ∧
      (byId w.files = some entry ∨ ∃ look, byName = some look ∧ look w.files = some entry) := by
  obtain ⟨seen, agreed⟩ := Option.filter_eq_some_iff.mp found
  refine ⟨agreed, ?_⟩
  have first : (if w.faults.read.head then byId w.files else none) = some entry →
      byId w.files = some entry := by
    intro found
    split_ifs at found
    exact found
  generalize (if w.faults.read.head then byId w.files else none) = one at seen first
  split_ifs at seen
  · exact Or.inr (Option.bind_eq_some_iff.mp seen)
  · exact Or.inl (first seen)

/-- The two lookups of `_get_group` and `_get_passwd`. -/
theorem wp_search (byId : Files → Option ε) (byName : Option (Files → Option ε))
    (agrees : ε → Bool) (w : World) :
    wp (gumFileLookup openFile byId >>= fun first => lookupIf (byName.isSome ∧ first.isNone)
        (gumFileLookup openFile fun f => byName.bind (· f)) first)
      (fun found t => found.filter agrees = w.search byId byName agrees ∧ w.Sought t) w := by
  simp only [wp_bind, wp_gumFileLookup_openFile, lookupIf, World.search]
  generalize (if w.faults.read.head = true then byId w.files else none) = one
  by_cases again : byName.isSome ∧ one.isNone
  · simp only [if_pos again, wp_gumFileLookup_openFile]
    exact ⟨trivial, ⟨rfl, ⟨fun readable => by simp [readable], id, id, rfl⟩, rfl⟩, rfl, rfl⟩
  · simp only [if_neg again, wp_pure]
    exact ⟨trivial, ⟨rfl, ⟨fun readable => by simp [readable], id, id, rfl⟩, rfl⟩, rfl, rfl⟩

end Search

/-- How often a search opens its file. -/
def World.searchReads {ε : Type} (w : World) (byId : Files → Option ε)
    (byName : Option (Files → Option ε)) : Nat :=
  if byName.isSome ∧ (if w.faults.read.head then byId w.files else none).isNone then 2 else 1

/-- The outcomes a search leaves for the lookups after it. -/
theorem wp_search_reads {ε : Type} (byId : Files → Option ε)
    (byName : Option (Files → Option ε)) (w : World) :
    wp (gumFileLookup openFile byId >>= fun first => lookupIf (byName.isSome ∧ first.isNone)
        (gumFileLookup openFile fun f => byName.bind (· f)) first)
      (fun _ t => t.faults.read = w.faults.read.drop (w.searchReads byId byName)) w := by
  simp only [wp_bind, wp_gumFileLookup_openFile, lookupIf, World.searchReads]
  generalize (if w.faults.read.head = true then byId w.files else none) = one
  by_cases again : byName.isSome ∧ one.isNone
  · simp only [if_pos again, wp_gumFileLookup_openFile]
    rfl
  · simp only [if_neg again, wp_pure]
    rfl

/-- A lookup in the shadow, gshadow or a user information file finds nothing if it cannot be
opened. -/
theorem wp_gumFileLookup_openShadowFile {ε : Type} (found : Files → Option ε)
    (Q : Option ε → World → Prop) (w : World) : wp (gumFileLookup openShadowFile found) Q w ↔
      Q (if w.faults.readShadow.head then found w.files else none)
        { w with faults := { w.faults with readShadow := w.faults.readShadow.tail } } := by
  simp only [gumFileLookup, openShadowFile, wp_bind, wp_get, wp_set, wp_pure, wp_ite]
  cases w.faults.readShadow.head <;> simp

/-! ## Groups -/

/-- The entry `_get_group` finds for a record that has a gid. -/
def World.seenGroup (w : World) (group : GroupRecord) : Option Group :=
  w.search (·.getgrgid group.grGid) (group.grName.map fun name f => f.getgrnam name.val) group.agrees

/-- The entry that is found agrees with the record, and is the first one of its gid and name. -/
theorem World.seenGroup_some {w : World} {group : GroupRecord} {entry : Group}
    (found : w.seenGroup group = some entry) : group.agrees entry = true ∧
      w.files.group.find? (fun e => entry.grGid = e.grGid ∧ entry.grName = e.grName) =
        some entry := by
  obtain ⟨agrees, byGid | ⟨look, named, byName⟩⟩ := World.search_some found
  · have own : entry.grGid = group.grGid := by simpa using List.find?_some byGid
    refine ⟨agrees, find?_of_imp byGid (by simp) fun e key => ?_⟩
    rw [← (of_decide_eq_true key).1, own]
    exact beq_self_eq_true _
  · obtain ⟨name, -, rfl⟩ := Option.map_eq_some_iff.mp named
    have own : entry.grName = name.val := by simpa using List.find?_some byName
    refine ⟨agrees, find?_of_imp byName (by simp) fun e key => ?_⟩
    rw [← (of_decide_eq_true key).2, own]
    exact beq_self_eq_true _

/-- The lookups of a group are a search. -/
theorem groupLookups_eq (group : GroupRecord) :
    (gumFileGetgrgid group.grGid >>= fun first => lookupIf (group.grName.isSome ∧ first.isNone)
      (gumFileGetgrnam (ptr group.grName)) first) =
    (gumFileLookup openFile (·.getgrgid group.grGid) >>= fun first => lookupIf
      ((group.grName.map fun name f => Files.getgrnam f name.val).isSome ∧ first.isNone)
      (gumFileLookup openFile fun f =>
        (group.grName.map fun name f => Files.getgrnam f name.val).bind (· f)) first) := by
  cases name : group.grName with
  | some n => rfl
  | none =>
    simp only [lookupIf, gumFileGetgrgid, Option.map_none, Option.isSome_none, Bool.false_eq_true,
      false_and, if_false]

theorem GumdDaemonGroup.wp_getGroup_seen {s : St GumdDaemonGroup}
    (valid : s.self.group.grGid ≠ gumGroupInvalidGid) :
    wp GumdDaemonGroup.getGroup (fun r t => r = s.world.seenGroup s.self.group ∧
      t.self = s.self ∧ s.world.Sought t.world) s := by
  have search := wp_search (·.getgrgid s.self.group.grGid)
    (s.self.group.grName.map fun name f => f.getgrnam name.val) s.self.group.agrees s.world
  rw [← groupLookups_eq] at search
  simp only [getGroup, wp_bind, wp_getSelf, wp_liftM, lookupIf_pos valid]
  refine (wp_bind _ _ _ _).mp (wp_mono search ?_)
  intro found w spec
  obtain ⟨same, sought⟩ := spec
  rw [World.seenGroup, ← same]
  cases found.filter s.self.group.agrees with
  | none => exact ⟨rfl, rfl, sought.quiet.trans (.error _ _), sought.readShadow, sought.write⟩
  | some entry => exact ⟨rfl, rfl, sought⟩

/-- How often the search for a group opens the group file. -/
def World.groupReads (w : World) (group : GroupRecord) : Nat :=
  w.searchReads (·.getgrgid group.grGid) (group.grName.map fun name f => f.getgrnam name.val)

theorem GumdDaemonGroup.wp_getGroup_reads {s : St GumdDaemonGroup}
    (valid : s.self.group.grGid ≠ gumGroupInvalidGid) :
    wp GumdDaemonGroup.getGroup (fun _ t =>
      t.world.faults.read = s.world.faults.read.drop (s.world.groupReads s.self.group)) s := by
  have search := wp_search_reads (·.getgrgid s.self.group.grGid)
    (s.self.group.grName.map fun name f => f.getgrnam name.val) s.world
  rw [← groupLookups_eq] at search
  simp only [getGroup, wp_bind, wp_getSelf, wp_liftM, lookupIf_pos valid]
  refine (wp_bind _ _ _ _).mp (wp_mono search ?_)
  intro found w reads
  cases found.filter s.self.group.agrees with
  | none => exact reads
  | some entry => exact reads

/-- The entry `gum_file_getsgnam` finds. -/
def World.seenSgrp (w : World) (name : Str) : Option Sgrp :=
  if w.faults.readShadow.head then w.files.getsgnam name else none

theorem wp_gumFileGetsgnam_seen (name : Str) (w : World) :
    wp (gumFileGetsgnam (some name)) (fun r t => r = w.seenSgrp name ∧ w.Quiet t ∧
      t.faults.read = w.faults.read) w := by
  simp only [gumFileGetsgnam, wp_bind, wp_get, wp_ite, wp_pure, wp_gumFileLookup_openShadowFile]
  refine ⟨fun absent => ⟨?_, .refl w, trivial⟩, fun _ => ⟨rfl, ?_, trivial⟩⟩
  · simp [World.seenSgrp, Files.getsgnam, Option.isNone_iff_eq_none.mp absent]
  · exact ⟨rfl, ⟨id, fun readable => by simp [readable], id, rfl⟩, rfl⟩

/-! ## Users -/

/-- The entry `_get_passwd` finds for a record that has a uid. -/
def World.seenPasswd (w : World) (pw : PasswdRecord) : Option Passwd :=
  w.search (·.getpwuid pw.pwUid) (pw.pwName.map fun name f => f.getpwnam name.val) pw.agrees

/-- The entry that is found agrees with the record, and is the first one of its uid and name. -/
theorem World.seenPasswd_some {w : World} {record : PasswdRecord} {pw : Passwd}
    (found : w.seenPasswd record = some pw) : record.agrees pw = true ∧
      w.files.passwd.find? (fun e => pw.pwUid = e.pwUid ∧ pw.pwName = e.pwName) = some pw := by
  obtain ⟨agrees, byUid | ⟨look, named, byName⟩⟩ := World.search_some found
  · have own : pw.pwUid = record.pwUid := by simpa using List.find?_some byUid
    refine ⟨agrees, find?_of_imp byUid (by simp) fun e key => ?_⟩
    rw [← (of_decide_eq_true key).1, own]
    exact beq_self_eq_true _
  · obtain ⟨name, -, rfl⟩ := Option.map_eq_some_iff.mp named
    have own : pw.pwName = name.val := by simpa using List.find?_some byName
    refine ⟨agrees, find?_of_imp byName (by simp) fun e key => ?_⟩
    rw [← (of_decide_eq_true key).2, own]
    exact beq_self_eq_true _

/-- The lookups of a user are a search. -/
theorem passwdLookups_eq (pw : PasswdRecord) :
    (gumFileGetpwuid pw.pwUid >>= fun first => lookupIf (pw.pwName.isSome ∧ first.isNone)
      (gumFileGetpwnam (ptr pw.pwName)) first) =
    (gumFileLookup openFile (·.getpwuid pw.pwUid) >>= fun first => lookupIf
      ((pw.pwName.map fun name f => Files.getpwnam f name.val).isSome ∧ first.isNone)
      (gumFileLookup openFile fun f =>
        (pw.pwName.map fun name f => Files.getpwnam f name.val).bind (· f)) first) := by
  cases name : pw.pwName with
  | some n => rfl
  | none =>
    simp only [lookupIf, gumFileGetpwuid, Option.map_none, Option.isSome_none, Bool.false_eq_true,
      false_and, if_false]

theorem GumdDaemonUser.wp_getPasswd_seen {s : St GumdDaemonUser}
    (valid : s.self.pw.pwUid ≠ gumUserInvalidUid) :
    wp GumdDaemonUser.getPasswd (fun r t => r = s.world.seenPasswd s.self.pw ∧
      t.self = s.self ∧ s.world.Sought t.world) s := by
  have search := wp_search (·.getpwuid s.self.pw.pwUid)
    (s.self.pw.pwName.map fun name f => f.getpwnam name.val) s.self.pw.agrees s.world
  rw [← passwdLookups_eq] at search
  simp only [getPasswd, wp_bind, wp_getSelf, wp_liftM, lookupIf_pos valid]
  refine (wp_bind _ _ _ _).mp (wp_mono search ?_)
  intro found w spec
  obtain ⟨same, sought⟩ := spec
  rw [World.seenPasswd, ← same]
  cases found.filter s.self.pw.agrees with
  | none => exact ⟨rfl, rfl, sought.quiet.trans (.error _ _), sought.readShadow, sought.write⟩
  | some entry => exact ⟨rfl, rfl, sought⟩

end Gumd
