import Gumd.IdAllocation

/-!
# How group operations end

An addition, a deletion or an update of a group passes its checks, rewrites the group file and then
the gshadow file.  What the checks need is said of the world the operation starts in, whichever of
its lookups fail, so that the outcomes and the files are determined by that world.
-/

namespace Gumd

open StateWp EntryLoop

/-! ## Deleting a group -/

/-- The search for remaining users finds one who has the gid as primary group. -/
def World.SeesUse (w : World) (group : GroupRecord) (gid : UInt32) : Prop :=
  w.faults.read.get (w.groupReads group) = true ∧ w.files.UsesGid gid

namespace GumdDaemonGroup

variable {s : St GumdDaemonGroup}

/-- The object a deletion works with. -/
def loaded (g : GumdDaemonGroup) (w : World) (entry : Group) : GumdDaemonGroup :=
  g.copyGroupEntries entry (w.seenSgrp entry.grName)

/-- The checks of a deletion before the search for remaining users pass. -/
structure Deletable (g : GumdDaemonGroup) (env : Env) (w : World) (entry : Group) : Prop where
  granted : w.lockGranted = true
  valid : g.group.grGid ≠ gumGroupInvalidGid
  seen : w.seenGroup g.group = some entry
  notOwn : entry.grGid ≠ env.egid

/-- How a deletion ends. -/
inductive Deletion (g : GumdDaemonGroup) (env : Env) (w : World) : Bool → Files → Prop
  | refused : (∀ entry, ¬g.Deletable env w entry) → Deletion g env w false w.files
  | kept {entry} : g.Deletable env w entry → w.SeesUse g.group entry.grGid →
      Deletion g env w true w.files
  | written {entry ok f'} : g.Deletable env w entry → ¬w.SeesUse g.group entry.grGid →
      BothWritten (w.faults.write = .const none)
        (groupFile.rewrite (updateDaemonGroupEntry (g.loaded w entry) .delete none))
        (Files.rewriteGshadow (updateGshadowEntry (g.loaded w entry) .delete none)) w.files ok f' →
      Deletion g env w ok f'

/-- `_copy_group_data` of an object that has a gid. -/
theorem wp_copyGroupData_seen (valid : s.self.group.grGid ≠ gumGroupInvalidGid) :
    wp (copyGroupData none none) (fun ok t =>
      (s.world.seenGroup s.self.group = none ∧ ok = false ∨
        ∃ entry, s.world.seenGroup s.self.group = some entry ∧ ok = true ∧
          t.self = s.self.loaded s.world entry) ∧
      t.world.faults.read = s.world.faults.read.drop (s.world.groupReads s.self.group) ∧
      s.world.Quiet t.world) s := by
  rw [copyGroupData, wp_bind]
  refine wp_mono (wp_and (wp_getGroup_seen valid) (wp_getGroup_reads valid)) ?_
  intro found t spec
  obtain ⟨⟨rfl, self, sought⟩, reads⟩ := spec
  cases found : s.world.seenGroup s.self.group with
  | none => exact ⟨Or.inl ⟨rfl, rfl⟩, reads, sought.quiet⟩
  | some entry =>
    simp only [wp_bind, wp_liftM, lookupIf, Option.isNone_none, if_true]
    refine wp_mono (wp_gumFileGetsgnam_seen entry.grName t.world) ?_
    intro sg w spec
    obtain ⟨rfl, quiet, reads'⟩ := spec
    simp only [wp_modifySelf, wp_pure, self]
    refine ⟨Or.inr ⟨entry, rfl, trivial, ?_⟩, reads'.trans reads, sought.quiet.trans quiet⟩
    rw [loaded, World.seenSgrp, World.seenSgrp, sought.readShadow, sought.quiet.files]

/-- The search for remaining users, which is made after the group has been found. -/
theorem wp_gumFileFindUserByGid_seen {w t : World} {group : GroupRecord} {gid : UInt32}
    (valid : gid ≠ gumGroupInvalidGid) (quiet : w.Quiet t)
    (reads : t.faults.read = w.faults.read.drop (w.groupReads group)) :
    wp (gumFileFindUserByGid gid) (fun r u => (r.isSome = true ↔ w.SeesUse group gid) ∧ w.Quiet u)
      t := by
  have quiet' : t.Quiet { t with faults := { t.faults with read := t.faults.read.tail } } :=
    ⟨rfl, ⟨fun readable => by simp [readable], id, id, rfl⟩, rfl⟩
  rw [gumFileFindUserByGid, if_neg valid, wp_gumFileLookup_openFile]
  refine ⟨?_, quiet.trans quiet'⟩
  have opened : t.faults.read.head = w.faults.read.get (w.groupReads group) := by
    rw [reads, Stream'.head_drop]
  rw [World.SeesUse, Files.usesGid_iff, opened, quiet.files]
  cases w.faults.read.get (w.groupReads group) <;> simp

theorem gumdDaemonGroupDelete_ends (env : Env) (s : St GumdDaemonGroup) :
    wp (gumdDaemonGroupDelete env) (fun r t => s.world.Balanced t.world ∧
      s.self.Deletion env s.world r t.world.files) s := by
  refine wp_locked (fun denied t files => ?_) fun granted t self world => ?_
  · simp only [wp_liftM, wp_gumReturnWithError]
    refine ⟨.error _ _, .refused fun entry deletable => ?_⟩
    rw [deletable.granted] at denied
    cases denied
  have files : t.world.files = s.world.files := by rw [world, World.files_afterLock]
  simp only [wp_bind, wp_getSelf, wp_ite, self]
  refine ⟨fun invalid => unlockReturnWithError_spec _ (.refl _) ?_, fun valid => ?_⟩
  · rw [files]
    exact .refused fun entry deletable => deletable.valid invalid
  refine wp_mono (wp_copyGroupData_seen (by rw [self]; exact valid)) ?_
  intro ok t₁ spec
  obtain ⟨found, reads, quiet₁⟩ := spec
  have seen : t.world.seenGroup t.self.group = s.world.seenGroup s.self.group := by
    rw [self, world]
    exact World.search_afterLock _ _ _ _
  rw [seen] at found
  rw [wp_guard]
  rcases found with ⟨missing, rfl⟩ | ⟨entry, found, rfl, self₁⟩
  · refine ⟨fun _ => unlockReturn_spec quiet₁.balanced ?_, by simp⟩
    rw [quiet₁.files, files]
    refine .refused fun entry deletable => ?_
    rw [deletable.seen] at missing
    cases missing
  refine ⟨by simp, fun _ => ?_⟩
  have object : t₁.self = s.self.loaded s.world entry := by
    rw [self₁, self, world, loaded, loaded, World.seenSgrp, World.seenSgrp, World.files_afterLock,
      World.readShadow_afterLock]
  have gid : (s.self.loaded s.world entry).group.grGid = entry.grGid := rfl
  simp only [wp_bind, wp_getSelf, wp_ite, object, gid]
  refine ⟨fun own => unlockReturnWithError_spec _ quiet₁.balanced ?_, fun notOwn => ?_⟩
  · rw [quiet₁.files, files]
    refine .refused fun entry' deletable => deletable.notOwn ?_
    rwa [Option.some.inj (deletable.seen.symm.trans found)]
  have deletable : s.self.Deletable env s.world entry := ⟨granted, valid, found, notOwn⟩
  have entryGid : entry.grGid ≠ gumGroupInvalidGid := by
    rw [← (GroupRecord.agrees_iff.mp (World.seenGroup_some found).1).1.resolve_left valid]
    exact valid
  rw [wp_liftM]
  refine wp_mono (@wp_gumFileFindUserByGid_seen t.world t₁.world t.self.group _ entryGid quiet₁
    reads) ?_
  intro r w spec
  obtain ⟨used, quiet₂⟩ := spec
  have use : t.world.SeesUse t.self.group entry.grGid ↔
      s.world.SeesUse s.self.group entry.grGid := by
    rw [self, world]
    simp only [World.SeesUse, World.groupReads, World.searchReads, World.files_afterLock,
      World.read_afterLock]
  rw [use] at used
  rw [wp_ite]
  refine ⟨fun kept => unlockReturn_spec quiet₂.balanced ?_, fun unused => ?_⟩
  · rw [quiet₂.files, files]
    exact .kept deletable (used.mp kept)
  have free : ¬s.world.SeesUse s.self.group entry.grGid := fun sees => unused (used.mpr sees)
  refine wp_writeBoth (writesAs_updateGroupFile _ _ _) (writesAs_updateGshadowFile _ _ _)
    (fun t₂ self₂ balanced₂ written => ?_) fun t₂ self₂ balanced₂ written => ?_
  all_goals
    refine unlockReturn_spec (quiet₂.balanced.trans balanced₂) (.written deletable free ?_)
    rw [object, quiet₂.files, files] at written
    refine written.mono fun calm => quiet₂.balanced.write ?_
    rw [world, World.write_afterLock, calm]

end GumdDaemonGroup

/-! ## Adding a group -/

/-- The gid `_find_free_gid` finds with these outcomes of opening the group file. -/
def Files.seenFreeGid (f : Files) (read : Stream' Bool) (config : GumConfig) (preferredGid : UInt32)
    (self : GumdDaemonGroup) : Option UInt32 :=
  let taken (gid : UInt32) : Bool := (f.getgrgid gid).isSome
  let search (read : Stream' Bool) : Option UInt32 :=
    (getDefaultGidRange config self).bind fun range =>
      (firstSeen taken range.2 idCount read range.1).join
  if preferredGid = gumGroupInvalidGid then search read
  else if read.head && taken preferredGid then search read.tail
  else some preferredGid

/-- The gid `_set_gid` gives to the object. -/
def World.seenGid (w : World) (config : GumConfig) (preferredGid : UInt32)
    (self : GumdDaemonGroup) : Option UInt32 :=
  self.group.grName.bind fun name =>
    if w.faults.read.head && (w.files.getgrnam name.val).isSome then none
    else w.files.seenFreeGid w.faults.read.tail config preferredGid self

namespace GumdDaemonGroup

variable {s : St GumdDaemonGroup}

/-- The checks of an addition pass. -/
structure Insertable (g : GumdDaemonGroup) (env : Env) (preferredGid : UInt32) (w : World)
    (name : ValidName) (gid : UInt32) (passwd : Str) : Prop where
  granted : w.lockGranted = true
  groupType : g.groupType = gumGrouptypeSystem ∨ g.groupType = gumGrouptypeUser
  name : g.group.grName = some name
  gid : w.seenGid env.config preferredGid g = some gid
  passwd : g.newPasswd env = some passwd

/-- How an addition ends. -/
inductive Addition (g : GumdDaemonGroup) (env : Env) (preferredGid : UInt32) (w : World) :
    Option UInt32 → Files → Prop
  | refused : (w.faults.write = .const none → ∀ name gid passwd,
        ¬g.Insertable env preferredGid w name gid passwd) →
      Addition g env preferredGid w none w.files
  | groupOnly {name gid passwd} : g.Insertable env preferredGid w name gid passwd →
      (w.faults.write = .const none → w.files.HasGshadow name.val) →
      Addition g env preferredGid w none (w.files.insertGroup (g.newEntry name gid))
  | added {name gid passwd} : g.Insertable env preferredGid w name gid passwd →
      ¬w.files.HasGshadow name.val →
      Addition g env preferredGid w (some gid)
        ((w.files.insertGroup (g.newEntry name gid)).appendGshadow (g.newGshadowEntry name passwd))

theorem wp_findFreeGid_seen (config : GumConfig) (preferredGid : UInt32) :
    wp (findFreeGid config preferredGid) (fun r t => t.self = s.self ∧
      r.join = s.world.files.seenFreeGid s.world.faults.read config preferredGid s.self) s := by
  have search : ∀ (w : World) (range : UInt32 × UInt32), w.files = s.world.files →
      wp (findFreeLoop gumFileGetgrgid range.2 idCount range.1) (fun r _ => r.join =
        (firstSeen (fun gid => (s.world.files.getgrgid gid).isSome) range.2 idCount w.faults.read
          range.1).join) w := by
    intro w range files
    have loop := wp_findFreeLoop_seen (fun gid => (·.getgrgid gid)) range.2 idCount range.1 w
    rw [files] at loop
    exact congrArg Option.join loop
  rw [findFreeGid, Files.seenFreeGid, wp_ite]
  beta_reduce
  refine ⟨fun preferred => ?_, fun none => ?_⟩
  · rw [if_neg preferred, wp_bind, wp_liftM, gumFileGetgrgid, wp_gumFileLookup_openFile, wp_ite]
    cases opened : s.world.faults.read.head with
    | false => exact ⟨fun _ => ⟨rfl, rfl⟩, fun seen => absurd rfl seen⟩
    | true =>
      rw [if_pos rfl]
      refine ⟨fun unseen => ?_, fun seen => ?_⟩
      · have free : (s.world.files.getgrgid preferredGid).isSome = false := by simpa using unseen
        rw [free]
        exact ⟨rfl, rfl⟩
      · have taken : (s.world.files.getgrgid preferredGid).isSome = true := by
          simpa [Option.isSome_iff_ne_none] using seen
        rw [taken, wp_bind, wp_getSelf]
        cases getDefaultGidRange config s.self with
        | none => exact ⟨rfl, rfl⟩
        | some range => exact ⟨rfl, search _ range rfl⟩
  · rw [if_pos (not_not.mp none), wp_bind, wp_getSelf]
    cases getDefaultGidRange config s.self with
    | none => exact ⟨rfl, rfl⟩
    | some range => exact ⟨rfl, search _ range rfl⟩

theorem wp_setGid_seen (config : GumConfig) (preferredGid : UInt32) :
    wp (setGid config preferredGid) (fun ok t =>
      ok = (s.world.seenGid config preferredGid s.self).isSome ∧
      t.self = (s.world.seenGid config preferredGid s.self).elim s.self
        (setGidProperty · s.self)) s := by
  cases name : s.self.group.grName with
  | none =>
    simp only [setGid, wp_bind, wp_getSelf, wp_liftM, name, World.seenGid]
    exact ⟨rfl, rfl⟩
  | some name' =>
    have valid : gumValidateName (some name'.val) = .ok () := name'.property
    have found : (if s.world.faults.read.head = true then s.world.files.getgrnam name'.val
        else none).isSome = (s.world.faults.read.head && (s.world.files.getgrnam name'.val).isSome) := by
      cases s.world.faults.read.head <;> rfl
    simp only [setGid, wp_bind, wp_getSelf, wp_liftM, name, ptr_some, valid, gumReturnValidated,
      wp_ite, wp_pure, gumFileGetgrnam, wp_gumFileLookup_openFile, World.seenGid, Option.bind_some,
      found]
    refine ⟨by simp, fun _ => ⟨fun taken => ?_, fun fresh => ?_⟩⟩
    · simp only [taken, if_true]
      exact ⟨rfl, rfl⟩
    · simp only [fresh]
      refine wp_mono (wp_findFreeGid_seen config preferredGid) ?_
      intro r t spec
      obtain ⟨self, joined⟩ := spec
      simp only [joined, Bool.false_eq_true, if_false]
      cases s.world.files.seenFreeGid s.world.faults.read.tail config preferredGid s.self with
      | none => exact ⟨rfl, self⟩
      | some gid => exact ⟨rfl, congrArg (setGidProperty gid) self⟩

theorem gumdDaemonGroupAdd_ends (env : Env) (preferredGid : UInt32) (s : St GumdDaemonGroup) :
    wp (gumdDaemonGroupAdd env preferredGid) (fun r t =>
      s.self.Addition env preferredGid s.world r t.world.files) s := by
  by_cases type : s.self.groupType = gumGrouptypeSystem ∨ s.self.groupType = gumGrouptypeUser
  swap
  · simp only [gumdDaemonGroupAdd, checkGroupType, wp_bind, wp_getSelf, wp_ite, type, wp_liftM,
      wp_gumReturnWithError, ↓wp_guard]
    exact ⟨False.elim, fun _ => ⟨fun _ => .refused fun _ _ _ _ insertable =>
      type insertable.groupType, by simp⟩⟩
  simp only [gumdDaemonGroupAdd, checkGroupType]
  rw [wp_bind, wp_bind, wp_getSelf, if_pos type, wp_pure]
  refine wp_mono (P := fun r t => s.world.Balanced t.world ∧
    s.self.Addition env preferredGid s.world r t.world.files) ?_ fun _ _ spec => spec.2
  refine wp_locked (fun denied t files => ?_) fun granted t self world => ?_
  · simp only [wp_liftM, wp_gumReturnWithError]
    refine ⟨.error _ _, .refused fun _ _ _ _ insertable => ?_⟩
    rw [insertable.granted] at denied
    cases denied
  have files : t.world.files = s.world.files := by rw [world, World.files_afterLock]
  have seen : t.world.seenGid env.config preferredGid t.self =
      s.world.seenGid env.config preferredGid s.self := by
    rw [self, world]
    simp only [World.seenGid, World.files_afterLock, World.read_afterLock]
  rw [wp_bind]
  refine wp_mono (wp_and (wp_setGid_seen env.config preferredGid)
    (renumbered_setGid env.config preferredGid t)) ?_
  intro ok t₁ spec
  obtain ⟨⟨rfl, self₁⟩, -, quiet₁⟩ := spec
  rw [seen, self] at self₁
  rw [wp_guard, seen]
  refine ⟨fun failed => ?_, fun done => ?_⟩
  · refine unlockReturn_spec quiet₁.balanced ?_
    rw [quiet₁.files, files]
    refine .refused fun _ name gid passwd insertable => ?_
    rw [insertable.gid] at failed
    cases failed
  obtain ⟨gid, alloc⟩ := Option.isSome_iff_exists.mp done
  rw [alloc, Option.elim_some] at self₁
  rw [wp_bind]
  refine wp_mono (wp_setGshadowData env) ?_
  intro ok t₂ spec
  obtain ⟨rfl, self₂, quiet₂⟩ := spec
  have quiet := quiet₁.trans quiet₂
  rw [self₁] at self₂ ⊢
  rw [wp_guard]
  refine ⟨fun failed => ?_, fun done => ?_⟩
  · refine unlockReturn_spec quiet.balanced ?_
    rw [quiet.files, files]
    refine .refused fun _ name gid' passwd insertable => ?_
    have encrypted : (s.self.setGidProperty gid).newPasswd env = some passwd := insertable.passwd
    rw [encrypted] at failed
    cases failed
  obtain ⟨passwd, encrypted⟩ := Option.isSome_iff_exists.mp done
  obtain ⟨name, named⟩ : ∃ name, s.self.group.grName = some name := by
    obtain ⟨name, named, -⟩ := Option.bind_eq_some_iff.mp alloc
    exact ⟨name, named⟩
  have insertable : s.self.Insertable env preferredGid s.world name gid passwd :=
    ⟨granted, type, named, alloc, encrypted⟩
  have files₂ : t₂.world.files = s.world.files := quiet.files.trans files
  have calm : s.world.faults.write = .const none → t.world.faults.write = .const none := by
    intro calm
    rw [world, World.write_afterLock, calm]
  refine wp_addEntries ⟨named, encrypted⟩ (self₂ done) quiet.balanced ?_ ?_
  all_goals rw [files₂]
  · rintro f (⟨rfl, faulty⟩ | ⟨rfl, stale⟩)
    · exact .refused fun writable => absurd (calm writable) faulty
    · exact .groupOnly insertable fun writable => stale (calm writable)
  · exact .added insertable

end GumdDaemonGroup

/-! ## Updating a group -/

/-- The rewrite of the group file for an entry of the file succeeds if the record can be put. -/
theorem rewriteGroup_of_put {g : GumdDaemonGroup} {f : Files} {entry new : Group}
    (gid : g.group.grGid = entry.grGid) (mem : entry ∈ f.group)
    (put : g.group.putgrent = some new) :
    groupFile.rewrite (updateDaemonGroupEntry g .modify (some entry.grName)) f =
      .ok (f.replaceGroup entry new) := by
  have here : (f.group.any fun e => entry.grGid = e.grGid ∧
      (some entry.grName).or (ptr g.group.grName) = some e.grName) = true :=
    List.any_eq_true.mpr ⟨entry, mem, by simp⟩
  simp only [DbFile.rewrite, groupFile, updateDaemonGroupEntry_modify, gid, here, put, if_true]
  simp [Except.map, Files.replaceGroup]

namespace GumdDaemonGroup

variable {s : St GumdDaemonGroup}

/-- The object an update writes. -/
def merged (g : GumdDaemonGroup) (env : Env) (w : World) (entry : Group) : GumdDaemonGroup :=
  g.updated env entry (w.seenSgrp entry.grName)

/-- The checks of an update pass, and the record of the group can be put. -/
structure Updatable (g : GumdDaemonGroup) (env : Env) (w : World) (entry new : Group) : Prop where
  granted : w.lockGranted = true
  valid : g.group.grGid ≠ gumGroupInvalidGid
  seen : w.seenGroup g.group = some entry
  rekeys : g.Rekeys env entry (w.seenSgrp entry.grName)
  put : (g.merged env w entry).group.putgrent = some new

/-- How an update ends. -/
inductive Revision (g : GumdDaemonGroup) (env : Env) (w : World) : Bool → Files → Prop
  | refused : (w.faults.write = .const none → ∀ entry new, ¬g.Updatable env w entry new) →
      Revision g env w false w.files
  | groupOnly {entry new} : g.Updatable env w entry new →
      (w.faults.write = .const none → ∃ e, Files.rewriteGshadow
        (updateGshadowEntry (g.merged env w entry) .modify (some entry.grName))
        (w.files.replaceGroup entry new) = .error e) →
      Revision g env w false (w.files.replaceGroup entry new)
  | revised {entry new f'} : g.Updatable env w entry new →
      Files.rewriteGshadow
        (updateGshadowEntry (g.merged env w entry) .modify (some entry.grName))
        (w.files.replaceGroup entry new) = .ok f' →
      Revision g env w true f'

theorem Updatable.eq {g : GumdDaemonGroup} {env : Env} {w : World} {entry new entry' new' : Group}
    (updatable : g.Updatable env w entry new) (updatable' : g.Updatable env w entry' new') :
    entry = entry' ∧ new = new' := by
  obtain rfl := Option.some.inj (updatable.seen.symm.trans updatable'.seen)
  exact ⟨rfl, Option.some.inj (updatable.put.symm.trans updatable'.put)⟩

theorem gumdDaemonGroupUpdate_ends (env : Env) (s : St GumdDaemonGroup) :
    wp (gumdDaemonGroupUpdate env) (fun r t =>
      s.self.Revision env s.world r t.world.files) s := by
  refine wp_mono (P := fun r t => s.world.Balanced t.world ∧
    s.self.Revision env s.world r t.world.files) ?_ fun _ _ spec => spec.2
  refine wp_locked (fun denied t files => ?_) fun granted t self world => ?_
  · simp only [wp_liftM, wp_gumReturnWithError]
    refine ⟨.error _ _, .refused fun _ _ _ updatable => ?_⟩
    rw [updatable.granted] at denied
    cases denied
  have files : t.world.files = s.world.files := by rw [world, World.files_afterLock]
  simp only [wp_bind, wp_getSelf, wp_ite, self]
  refine ⟨fun invalid => unlockReturnWithError_spec _ (.refl _) ?_, fun valid => ?_⟩
  · rw [files]
    exact .refused fun _ _ _ updatable => updatable.valid invalid
  refine wp_mono (wp_getGroup_seen (by rw [self]; exact valid)) ?_
  intro found t₁ spec
  obtain ⟨rfl, self₁, sought⟩ := spec
  rw [self] at self₁
  have seen : t.world.seenGroup t.self.group = s.world.seenGroup s.self.group := by
    rw [self, world]
    exact World.search_afterLock _ _ _ _
  rw [seen]
  cases found : s.world.seenGroup s.self.group with
  | none =>
    refine unlockReturn_spec sought.quiet.balanced ?_
    rw [sought.quiet.files, files]
    refine .refused fun _ _ _ updatable => ?_
    rw [updatable.seen] at found
    cases found
  | some entry =>
    obtain ⟨agrees, picked⟩ := World.seenGroup_some found
    have own : s.self.group.grGid = entry.grGid :=
      (GroupRecord.agrees_iff.mp agrees).1.resolve_left valid
    rw [wp_bind, wp_liftM]
    refine wp_mono (wp_gumFileGetsgnam_seen entry.grName t₁.world) ?_
    intro sg w spec
    obtain ⟨rfl, looked, -⟩ := spec
    have quiet₁ := sought.quiet.trans looked
    have sees : t₁.world.seenSgrp entry.grName = s.world.seenSgrp entry.grName := by
      rw [World.seenSgrp, World.seenSgrp, sought.readShadow, sought.quiet.files, world,
        World.files_afterLock, World.readShadow_afterLock]
    simp only [wp_bind, wp_getSelf, wp_ite, wp_modifySelf, self₁, sees]
    have only : ∀ entry' new', s.self.Updatable env s.world entry' new' → entry' = entry :=
      fun entry' new' updatable => Option.some.inj (updatable.seen.symm.trans found)
    refine ⟨fun same => unlockReturnWithError_spec _ quiet₁.balanced ?_, fun changed => ?_⟩
    · rw [quiet₁.files, files]
      refine .refused fun _ entry' new' updatable => ?_
      obtain rfl := only entry' new' updatable
      exact updatable.rekeys.changed same
    refine wp_mono (wp_setSecret env) ?_
    intro ok t₂ spec
    obtain ⟨rfl, self₂, quiet₂⟩ := spec
    have quiet := quiet₁.trans quiet₂
    rw [wp_guard]
    refine ⟨fun failed => unlockReturn_spec quiet.balanced ?_, fun done => ?_⟩
    · rw [quiet.files, files]
      refine .refused fun _ entry' new' updatable => ?_
      obtain rfl := only entry' new' updatable
      rw [updatable.rekeys.encrypted] at failed
      cases failed
    change t₂.self = s.self.merged env s.world entry at self₂
    have gid : (s.self.merged env s.world entry).group.grGid = entry.grGid :=
      (grGid_updated _ _ _ _).trans own
    have calm : s.world.faults.write = .const none → t₂.world.faults.write = .const none := by
      intro calm
      apply quiet.balanced.write
      rw [world, World.write_afterLock, calm]
    refine wp_writeBoth (writesAs_updateGroupFile _ _ _) (writesAs_updateGshadowFile _ _ _)
      (fun t₃ self₃ balanced₃ written => ?_) fun t₃ self₃ balanced₃ written => ?_
    all_goals
      refine unlockReturn_spec (quiet.balanced.trans balanced₃) ?_
      rw [self₂, quiet.files, files] at written
      generalize t₃.world.files = f' at written
    · cases written with
      | neither why =>
        refine .refused fun writable entry' new' updatable => ?_
        obtain rfl := only entry' new' updatable
        obtain ⟨e, failed⟩ := why (calm writable)
        rw [rewriteGroup_of_put gid (List.mem_of_find?_eq_some picked) updatable.put] at failed
        cases failed
      | one first why =>
        obtain ⟨new, put, rfl⟩ := rewriteGroup_modify gid (by simp) first
        exact .groupOnly ⟨granted, valid, found, ⟨changed, done⟩, put⟩ fun writable =>
          why (calm writable)
    · cases written with
      | both first second =>
        obtain ⟨new, put, rfl⟩ := rewriteGroup_modify gid (by simp) first
        exact .revised ⟨granted, valid, found, ⟨changed, done⟩, put⟩ second

end GumdDaemonGroup

end Gumd
