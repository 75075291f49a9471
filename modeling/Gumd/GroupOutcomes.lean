import Gumd.GroupRules

/-!
# Outcomes of the group operations

For each operation every way it can end: what it returns, what it leaves in the files, and what
held before.  File rewrites may fail; where an outcome is due to something else than such a
failure, the outcome says what it is.
-/

namespace Gumd

open StateWp EntryLoop

namespace GumdDaemonGroup

variable {s : St GumdDaemonGroup}

/-! ## Adding a group -/

/-- The group entry an addition writes. -/
def newEntry (g : GumdDaemonGroup) (name : ValidName) (gid : UInt32) : Group where
  grName := name.val
  grPasswd := str "x"
  grGid := gid
  grMem := g.group.grMem.getD []

/-- The gshadow entry an addition writes. -/
def newGshadowEntry (g : GumdDaemonGroup) (name : ValidName) (passwd : Str) : Sgrp where
  sgNamp := name.val
  sgPasswd := passwd
  sgAdm := g.gshadow.sgAdm.getD []
  sgMem := g.group.grMem.getD []

/-- The steps before the first rewrite of an addition pass: the group type is known, a gid is
found for a new name, and the secret can be encrypted. -/
structure Addable (g : GumdDaemonGroup) (env : Env) (preferredGid : UInt32) (f : Files)
    (name : ValidName) (gid : UInt32) (passwd : Str) : Prop where
  groupType : g.groupType = gumGrouptypeSystem ∨ g.groupType = gumGrouptypeUser
  name : g.group.grName = some name
  gid : f.allocGid env.config preferredGid g = some gid
  passwd : g.newPasswd env = some passwd

/-- The object has a name and its secret can be encrypted. -/
structure Writable (g : GumdDaemonGroup) (env : Env) (name : ValidName) (passwd : Str) : Prop where
  name : g.group.grName = some name
  passwd : g.newPasswd env = some passwd

theorem Addable.writable {g : GumdDaemonGroup} {env : Env} {preferredGid gid : UInt32} {f : Files}
    {name : ValidName} {passwd : Str} (addable : g.Addable env preferredGid f name gid passwd) :
    g.Writable env name passwd :=
  ⟨addable.name, addable.passwd⟩

end GumdDaemonGroup

def Files.insertGroup (f : Files) (new : Group) : Files :=
  { f with group := insertFirst (new.grGid < ·.grGid) new f.group }

def Files.appendGshadow (f : Files) (new : Sgrp) : Files :=
  { f with gshadow := f.gshadow.map (· ++ [new]) }

/-- A gshadow entry of the name, left behind or written by hand. -/
def Files.HasGshadow (f : Files) (name : Str) : Prop :=
  ∃ entries, f.gshadow = some entries ∧ ∃ e ∈ entries, e.sgNamp = name

/-- The files after the rewrite of the gshadow file, if there is one. -/
def Files.rewriteGshadow (callback : List Sgrp → Except GError (List Sgrp)) (f : Files) :
    Except GError Files :=
  match f.gshadow with
  | none => .ok f
  | some entries => (callback entries).map fun out => { f with gshadow := some out }

theorem Files.rewriteGshadow_none {f : Files} (absent : f.gshadow = none)
    (callback : List Sgrp → Except GError (List Sgrp)) : Files.rewriteGshadow callback f = .ok f := by
  simp only [Files.rewriteGshadow, absent]

theorem Files.rewriteGshadow_some {f : Files} {entries : List Sgrp}
    (present : f.gshadow = some entries) (callback : List Sgrp → Except GError (List Sgrp)) :
    Files.rewriteGshadow callback f = gshadowFile.rewrite callback f := by
  simp only [Files.rewriteGshadow, DbFile.rewrite, gshadowFile, present]

theorem Files.rewriteGshadow_of_rewrite {f f' : Files}
    {callback : List Sgrp → Except GError (List Sgrp)}
    (written : gshadowFile.rewrite callback f = .ok f') :
    Files.rewriteGshadow callback f = .ok f' := by
  cases present : f.gshadow with
  | none => simp [DbFile.rewrite, gshadowFile, present] at written
  | some entries => rwa [Files.rewriteGshadow_some present]

/-- A rewrite of the gshadow file touches no other file, and the callback has run if there is such
a file. -/
theorem Files.rewriteGshadow_ok {callback : List Sgrp → Except GError (List Sgrp)}
    {f f' : Files} (written : Files.rewriteGshadow callback f = .ok f') :
    f.gshadow = none ∧ f' = f ∨ ∃ entries out, f.gshadow = some entries ∧
      callback entries = .ok out ∧ f' = { f with gshadow := some out } := by
  cases present : f.gshadow with
  | none =>
    rw [Files.rewriteGshadow_none present] at written
    exact Or.inl ⟨rfl, (Except.ok.inj written).symm⟩
  | some entries =>
    simp only [Files.rewriteGshadow, present] at written
    cases result : callback entries with
    | error e => simp [result, Except.map] at written
    | ok out =>
      refine Or.inr ⟨entries, out, rfl, result, ?_⟩
      simpa [result, Except.map, eq_comm] using written

namespace GumdDaemonGroup

/-- How an addition can end. -/
inductive Added (calm : Prop) (g : GumdDaemonGroup) (env : Env) (preferredGid : UInt32)
    (f : Files) : Option UInt32 → Files → Prop
  | refused : (calm → ∀ name gid passwd, ¬g.Addable env preferredGid f name gid passwd) →
      Added calm g env preferredGid f none f
  | groupOnly {name gid passwd} : g.Addable env preferredGid f name gid passwd →
      (calm → f.HasGshadow name.val) →
      Added calm g env preferredGid f none (f.insertGroup (g.newEntry name gid))
  | added {name gid passwd} : g.Addable env preferredGid f name gid passwd →
      ¬f.HasGshadow name.val →
      Added calm g env preferredGid f (some gid)
        ((f.insertGroup (g.newEntry name gid)).appendGshadow (g.newGshadowEntry name passwd))

theorem Added.mono {calm calm' : Prop} {g : GumdDaemonGroup} {env : Env} {preferredGid : UInt32}
    {f f' : Files} {r : Option UInt32} (weaken : calm' → calm)
    (added : Added calm g env preferredGid f r f') :
    Added calm' g env preferredGid f r f' := by
  cases added with
  | refused why => exact .refused fun h => why (weaken h)
  | groupOnly addable why => exact .groupOnly addable fun h => why (weaken h)
  | added addable fresh => exact .added addable fresh

theorem writesAs_updateGroupFile (g : GumdDaemonGroup) (op : GumOpType)
    (userData : Option Str) :
    WritesAs g (updateGroupFile op userData)
      (groupFile.rewrite (updateDaemonGroupEntry g op userData)) := by
  rintro s rfl
  simp only [updateGroupFile, wp_bind, wp_getSelf, wp_liftM]
  exact wp_mono (gumFileUpdate_spec _ _ _) fun ok w spec => ⟨trivial, spec⟩

theorem writesAs_updateGshadowFileIf (g : GumdDaemonGroup) (wanted : Bool) (op : GumOpType)
    (userData : Option Str) :
    WritesAs g (updateGshadowFileIf wanted op userData) fun f =>
      if wanted then gshadowFile.rewrite (updateGshadowEntry g op userData) f else .ok f := by
  rintro s rfl
  cases wanted with
  | false => exact ⟨rfl, .refl _, Or.inr ⟨rfl, rfl⟩⟩
  | true =>
    simp only [updateGshadowFileIf, wp_bind, wp_getSelf, wp_liftM, Bool.not_true,
      Bool.false_eq_true, if_false, if_true]
    exact wp_mono (gumFileUpdate_spec _ _ _) fun ok w spec => ⟨trivial, spec⟩

theorem writesAs_updateGshadowFile (g : GumdDaemonGroup) (op : GumOpType)
    (userData : Option Str) :
    WritesAs g (updateGshadowFile op userData)
      (Files.rewriteGshadow (updateGshadowEntry g op userData)) := by
  rintro s self
  rw [updateGshadowFile, wp_bind, wp_get]
  refine wp_mono (writesAs_updateGshadowFileIf g _ op userData s self) ?_
  rintro ok t ⟨self', balanced, written⟩
  refine ⟨self', balanced, ?_⟩
  cases present : s.world.files.gshadow with
  | none => simpa [Files.rewriteGshadow_none present, present] using written
  | some entries => simpa [Files.rewriteGshadow_some present, present] using written

/-- The object an addition writes to the files. -/
def prepared (env : Env) (gid : UInt32) (g : GumdDaemonGroup) : GumdDaemonGroup :=
  let g := (g.setGidProperty gid).withSecret env
  { g with gshadow := { g.gshadow with sgNamp := ptr g.group.grName, sgMem := g.group.grMem } }

theorem wp_setGshadowData (env : Env) :
    wp (setGshadowData env) (fun ok t => ok = (s.self.newPasswd env).isSome ∧
      (ok = true → t.self = { s.self.withSecret env with
        gshadow := { (s.self.withSecret env).gshadow with
          sgNamp := ptr s.self.group.grName, sgMem := s.self.group.grMem } }) ∧
      s.world.Quiet t.world) s := by
  simp only [setGshadowData, wp_bind, wp_modifySelf]
  refine wp_mono (wp_setSecret env) ?_
  rintro ok t ⟨rfl, self, quiet⟩
  rw [wp_guard]
  refine ⟨fun failed => ⟨failed.symm, by simp, quiet⟩, fun done => ⟨done.symm, fun _ => ?_, quiet⟩⟩
  change { t.self with gshadow := { t.self.gshadow with sgMem := t.self.group.grMem } } = _
  rw [self]
  rfl

section Prepared

variable {g : GumdDaemonGroup} {env : Env} {gid : UInt32} {name : ValidName} {passwd : Str}

theorem Writable.prepared_eq (writable : g.Writable env name passwd) (gid : UInt32) :
    (g.prepared env gid).group =
        { grName := some name, grPasswd := some secretMarker, grGid := gid,
          grMem := g.group.grMem } ∧
      (g.prepared env gid).gshadow =
        { sgNamp := some name.val, sgPasswd := some passwd, sgAdm := g.gshadow.sgAdm,
          sgMem := g.group.grMem } := by
  have encrypted : (g.setGidProperty gid).newPasswd env = some passwd := writable.passwd
  have named : (g.setGidProperty gid).group.grName = some name := writable.name
  simp only [prepared, withSecret, encrypted, named]
  exact ⟨rfl, rfl⟩

/-- The rewrite of the group file inserts the entry of the prepared object. -/
theorem Writable.rewriteGroup (writable : g.Writable env name passwd) (gid : UInt32) (f : Files) :
    groupFile.rewrite (updateDaemonGroupEntry (g.prepared env gid) .add none) f =
      .ok (f.insertGroup (g.newEntry name gid)) := by
  simp only [DbFile.rewrite, groupFile, updateDaemonGroupEntry_add, (writable.prepared_eq gid).1]
  rfl

/-- The rewrite of the gshadow file appends the record of the prepared object, unless an entry of
that name is there. -/
theorem Writable.rewriteGshadow (writable : g.Writable env name passwd) (gid : UInt32)
    (f' : Files) :
    (f'.HasGshadow name.val → ∃ e,
      Files.rewriteGshadow (updateGshadowEntry (g.prepared env gid) .add none) f' = .error e) ∧
    (¬f'.HasGshadow name.val →
      Files.rewriteGshadow (updateGshadowEntry (g.prepared env gid) .add none) f' =
        .ok (f'.appendGshadow (g.newGshadowEntry name passwd))) := by
  cases present : f'.gshadow with
  | none =>
    refine ⟨by simp [Files.HasGshadow, present], fun _ => ?_⟩
    rw [Files.rewriteGshadow_none present, Files.appendGshadow]
    simp only [present, Option.map_none]
    rw [← present]
  | some entries =>
    have stale : f'.HasGshadow name.val ↔
        (entries.any fun e => some name.val = some e.sgNamp) = true := by
      simp only [Files.HasGshadow, present, Option.some.injEq, exists_eq_left', List.any_eq_true,
        decide_eq_true_eq, @eq_comm _ name.val]
    rw [Files.rewriteGshadow_some present, stale]
    simp only [DbFile.rewrite, gshadowFile, present, updateGshadowEntry_add,
      (writable.prepared_eq gid).2]
    refine ⟨fun found => ⟨⟨.groupAlreadyExists, "Group already exists"⟩, ?_⟩, fun fresh => ?_⟩
    · rw [if_pos found]
      rfl
    · rw [if_neg fresh, Files.appendGshadow, present]
      rfl

/-- The end of an addition, after the object is prepared: both entries are written. -/
theorem wp_addEntries (writable : g.Writable env name passwd) (self : s.self = g.prepared env gid)
    {t : St GumdDaemonGroup} (balanced : t.world.Balanced s.world)
    {P : Option UInt32 → Files → Prop}
    (failed : ∀ f, (f = s.world.files ∧ t.world.faults.write ≠ .const none ∨
      f = s.world.files.insertGroup (g.newEntry name gid) ∧
        (t.world.faults.write = .const none → s.world.files.HasGshadow name.val)) → P none f)
    (written : ¬s.world.files.HasGshadow name.val →
      P (some gid) ((s.world.files.insertGroup (g.newEntry name gid)).appendGshadow
        (g.newGshadowEntry name passwd))) :
    wp (updateGroupFile .add none >>= fun ok => if !ok then unlockReturn none else
        updateGshadowFile .add none >>= fun ok => if !ok then unlockReturn none else
        getSelf >>= fun self => unlockReturn (some self.group.grGid))
      (fun r u => t.world.Released u.world ∧ P r u.world.files) s := by
  obtain ⟨fails, appends⟩ := writable.rewriteGshadow gid
    (s.world.files.insertGroup (g.newEntry name gid))
  refine wp_writeBoth (writesAs_updateGroupFile _ _ _) (writesAs_updateGshadowFile _ _ _)
    (fun t₁ self₁ balanced₁ result => ?_) fun t₁ self₁ balanced₁ result => ?_
  all_goals rw [self] at result
  · refine unlockReturn_spec (balanced.trans balanced₁) (failed _ ?_)
    generalize t₁.world.files = f' at result
    cases result with
    | neither why =>
      refine Or.inl ⟨rfl, fun writable' => ?_⟩
      obtain ⟨_, error⟩ := why (balanced.write writable')
      rw [writable.rewriteGroup] at error
      cases error
    | one first why =>
      rw [writable.rewriteGroup] at first
      obtain rfl := Except.ok.inj first
      refine Or.inr ⟨rfl, fun writable' => by_contra fun fresh => ?_⟩
      obtain ⟨_, error⟩ := why (balanced.write writable')
      rw [appends fresh] at error
      cases error
  · simp only [wp_bind, wp_getSelf]
    refine unlockReturn_spec (balanced.trans balanced₁) ?_
    have gid_eq : t₁.self.group.grGid = gid := by
      rw [self₁, self, (writable.prepared_eq gid).1]
    rw [gid_eq]
    generalize t₁.world.files = f' at result
    cases result with
    | both first second =>
      rw [writable.rewriteGroup] at first
      obtain rfl := Except.ok.inj first
      have fresh : ¬s.world.files.HasGshadow name.val := by
        intro found
        obtain ⟨_, error⟩ := fails found
        rw [error] at second
        cases second
      rw [appends fresh] at second
      obtain rfl := Except.ok.inj second
      exact written fresh

end Prepared

/-- Every way `gumd_daemon_group_add` can end. -/
theorem gumdDaemonGroupAdd_spec (readable : s.world.faults.read = .const true) (env : Env)
    (preferredGid : UInt32) :
    wp (gumdDaemonGroupAdd env preferredGid) (fun r t => s.world.Balanced t.world ∧
      Added s.world.Calm s.self env preferredGid
        s.world.files r t.world.files) s := by
  by_cases type : s.self.groupType = gumGrouptypeSystem ∨ s.self.groupType = gumGrouptypeUser
  swap
  · simp only [gumdDaemonGroupAdd, checkGroupType, wp_bind, wp_getSelf, wp_ite, type, wp_liftM,
      wp_gumReturnWithError, ↓wp_guard]
    exact ⟨False.elim, fun _ => ⟨fun _ => ⟨.of_same rfl rfl, .refused fun _ _ _ _ addable =>
      type addable.groupType⟩, by simp⟩⟩
  simp only [gumdDaemonGroupAdd, checkGroupType]
  rw [wp_bind, wp_bind, wp_getSelf, if_pos type, wp_pure]
  refine wp_locked (fun denied t files => ?_) fun granted t self world => ?_
  · simp only [wp_liftM, wp_gumReturnWithError]
    exact ⟨.error _ _, .refused fun calm => by simp [calm.granted] at denied⟩
  have files : t.world.files = s.world.files := by rw [world, World.files_afterLock]
  have calm_of : s.world.Calm → t.world.faults.write = .const none := fun calm => by
    rw [world, World.write_afterLock, calm.write]
  have readable₀ : t.world.faults.read = .const true := by rwa [world, World.read_afterLock]
  rw [wp_bind]
  refine wp_mono (wp_setGid readable₀ _ _) ?_
  rintro ok t₁ ⟨rfl, self₁, quiet₁⟩
  rw [self, files] at self₁
  rw [wp_guard, self, files]
  refine ⟨fun failed => ?_, fun done => ?_⟩
  · refine unlockReturn_spec quiet₁.balanced ?_
    rw [quiet₁.files, files]
    exact .refused fun _ _ _ _ addable => by simp [addable.gid] at failed
  obtain ⟨gid, alloc⟩ := Option.isSome_iff_exists.mp done
  rw [alloc, Option.elim_some] at self₁
  rw [wp_bind]
  refine wp_mono (wp_setGshadowData env) ?_
  rintro ok t₂ ⟨rfl, self₂, quiet₂⟩
  have quiet := quiet₁.trans quiet₂
  rw [self₁] at self₂ ⊢
  rw [wp_guard]
  refine ⟨fun failed => ?_, fun done => ?_⟩
  · refine unlockReturn_spec quiet.balanced ?_
    rw [quiet.files, files]
    refine .refused fun _ _ _ passwd addable => ?_
    have encrypted : (s.self.setGidProperty gid).newPasswd env = some passwd := addable.passwd
    simp [encrypted] at failed
  obtain ⟨passwd, encrypted⟩ := Option.isSome_iff_exists.mp done
  obtain ⟨name, named⟩ : ∃ name, s.self.group.grName = some name := by
    cases named : s.self.group.grName with
    | none => simp [Files.allocGid, named] at alloc
    | some name => exact ⟨name, rfl⟩
  have addable : s.self.Addable env preferredGid s.world.files name gid passwd :=
    ⟨type, named, alloc, encrypted⟩
  have files₂ : t₂.world.files = s.world.files := quiet.files.trans files
  refine wp_addEntries addable.writable (self₂ done) quiet.balanced ?_ ?_
  all_goals rw [files₂]
  · rintro f (⟨rfl, faulty⟩ | ⟨rfl, stale⟩)
    · exact .refused fun calm => absurd (calm_of calm) faulty
    · exact .groupOnly addable fun calm => stale (calm_of calm)
  · exact .added addable

/-- An addition changes the group and gshadow files. -/
theorem Added.frame {calm : Prop} {g : GumdDaemonGroup} {env : Env} {preferredGid : UInt32}
    {f f' : Files} {r : Option UInt32} (added : Added calm g env preferredGid f r f') :
    f'.passwd = f.passwd ∧ f'.shadow = f.shadow := by
  cases added with
  | refused why => exact ⟨rfl, rfl⟩
  | groupOnly addable why => exact ⟨rfl, rfl⟩
  | added addable fresh => exact ⟨rfl, rfl⟩

/-! ## Deleting a group -/

/-- The steps before the search for remaining users pass. -/
structure Found (g : GumdDaemonGroup) (env : Env) (f : Files) (entry : Group) : Prop where
  valid : g.group.grGid ≠ gumGroupInvalidGid
  found : f.getGroup g.group = some entry
  notOwn : entry.grGid ≠ env.egid

/-- The entry has the gid of the object. -/
theorem Found.gid {g : GumdDaemonGroup} {env : Env} {f : Files} {entry : Group}
    (fits : g.Found env f entry) : g.group.grGid = entry.grGid :=
  (GroupRecord.agrees_iff.mp (Files.getGroup_some fits.found).2).1.resolve_left fits.valid

theorem Found.validGid {g : GumdDaemonGroup} {env : Env} {f : Files} {entry : Group}
    (fits : g.Found env f entry) : entry.grGid ≠ gumGroupInvalidGid :=
  fits.gid ▸ fits.valid

end GumdDaemonGroup

/-- A passwd entry has the gid. -/
def Files.UsesGid (f : Files) (gid : UInt32) : Prop := ∃ e ∈ f.passwd, e.pwGid = gid

theorem Files.usesGid_iff {f : Files} {gid : UInt32} :
    f.UsesGid gid ↔ (f.passwd.find? (·.pwGid == gid)).isSome = true := by
  simp [Files.UsesGid, List.find?_isSome]

def Files.removeGroup (f : Files) (entry : Group) : Files :=
  { f with group := f.group.eraseP fun e => entry.grGid = e.grGid ∧ entry.grName = e.grName }

namespace GumdDaemonGroup

theorem found_iff {g : GumdDaemonGroup} {env : Env} {f : Files} {entry : Group} :
    g.Found env f entry ↔ g.group.grGid ≠ gumGroupInvalidGid ∧
      f.getGroup g.group = some entry ∧ entry.grGid ≠ env.egid :=
  ⟨fun fits => ⟨fits.valid, fits.found, fits.notOwn⟩, fun ⟨valid, found, notOwn⟩ =>
    ⟨valid, found, notOwn⟩⟩

/-- How a deletion can end. -/
inductive Deleted (calm : Prop) (g : GumdDaemonGroup) (env : Env) (f : Files) :
    Bool → Files → Prop
  | refused : (calm → ∀ entry, g.Found env f entry →
        ¬f.UsesGid entry.grGid ∧ ¬gumValidateName (some entry.grName) = .ok ()) →
      Deleted calm g env f false f
  | kept {entry} : g.Found env f entry → f.UsesGid entry.grGid → Deleted calm g env f true f
  | groupOnly {entry sg} : g.Found env f entry → ¬f.UsesGid entry.grGid →
      gumValidateName (some entry.grName) = .ok () → (calm → sg = f.getsgnam entry.grName) →
      (calm → ∃ e, Files.rewriteGshadow
        (updateGshadowEntry (g.copyGroupEntries entry sg) .delete none)
        (f.removeGroup entry) = .error e) →
      Deleted calm g env f false (f.removeGroup entry)
  | deleted {entry sg f'} : g.Found env f entry → ¬f.UsesGid entry.grGid →
      gumValidateName (some entry.grName) = .ok () → (calm → sg = f.getsgnam entry.grName) →
      Files.rewriteGshadow (updateGshadowEntry (g.copyGroupEntries entry sg) .delete none)
        (f.removeGroup entry) = .ok f' →
      Deleted calm g env f true f'

theorem Deleted.mono {calm calm' : Prop} {g : GumdDaemonGroup} {env : Env} {f f' : Files}
    {r : Bool} (weaken : calm' → calm) (deleted : Deleted calm g env f r f') :
    Deleted calm' g env f r f' := by
  cases deleted with
  | refused why => exact .refused fun h => why (weaken h)
  | kept fits used => exact .kept fits used
  | groupOnly fits unused valid answer why =>
    exact .groupOnly fits unused valid (fun h => answer (weaken h)) fun h => why (weaken h)
  | deleted fits unused valid answer result =>
    exact .deleted fits unused valid (fun h => answer (weaken h)) result

/-- A deletion changes the group and gshadow files. -/
theorem Deleted.frame {calm : Prop} {g : GumdDaemonGroup} {env : Env} {f f' : Files} {r : Bool}
    (deleted : g.Deleted calm env f r f') : f'.passwd = f.passwd ∧ f'.shadow = f.shadow := by
  cases deleted with
  | refused why => exact ⟨rfl, rfl⟩
  | kept fits used => exact ⟨rfl, rfl⟩
  | groupOnly fits unused valid answer why => exact ⟨rfl, rfl⟩
  | deleted fits unused valid answer written =>
    rcases Files.rewriteGshadow_ok written with ⟨-, rfl⟩ | ⟨_, _, -, -, rfl⟩ <;> exact ⟨rfl, rfl⟩

/-- The name of an object that has copied an entry it agrees with is the entry's, if the validator
accepts it. -/
theorem loaded_name {g : GumdDaemonGroup} {entry : Group} {sg : Option Sgrp}
    (agrees : g.group.agrees entry = true) :
    ptr (g.copyGroupEntries entry sg).group.grName =
      if gumValidateName (some entry.grName) = .ok () then some entry.grName else none := by
  change ptr (setStringProperty (some entry.grName) g.group.grName) = _
  exact ptr_setStringProperty_agreeing (GroupRecord.agrees_iff.mp agrees).2

/-- The rewrite of the group file drops the entry, if its name is valid. -/
theorem rewriteGroup_loaded {g : GumdDaemonGroup} {f : Files} {entry : Group}
    (sg : Option Sgrp) (mem : entry ∈ f.group) (agrees : g.group.agrees entry = true) :
    groupFile.rewrite (updateDaemonGroupEntry (g.copyGroupEntries entry sg) .delete none) f =
      if gumValidateName (some entry.grName) = .ok () then .ok (f.removeGroup entry)
      else .error fileWriteFailure := by
  have gid : (g.copyGroupEntries entry sg).group.grGid = entry.grGid := rfl
  by_cases valid : gumValidateName (some entry.grName) = .ok ()
  · have here : (f.group.any fun e =>
        entry.grGid = e.grGid ∧ entry.grName = e.grName) = true :=
      List.any_eq_true.mpr ⟨entry, mem, by simp⟩
    simp only [DbFile.rewrite, groupFile, updateDaemonGroupEntry_delete, loaded_name agrees, gid,
      valid, if_true, Option.some.injEq, here]
    rfl
  · simp only [DbFile.rewrite, groupFile, updateDaemonGroupEntry_delete, loaded_name agrees, gid,
      valid, if_false, reduceCtorEq, and_false, decide_false, List.any_eq_true, exists_false,
      Bool.false_eq_true]
    rfl

/-- Every way `gumd_daemon_group_delete` can end. -/
theorem gumdDaemonGroupDelete_spec (readable : s.world.faults.read = .const true) (env : Env) :
    wp (gumdDaemonGroupDelete env) (fun r t => s.world.Balanced t.world ∧
      Deleted s.world.Calm s.self env
        s.world.files r t.world.files) s := by
  refine wp_locked (fun denied t files => ?_) fun granted t self world => ?_
  · simp only [wp_liftM, wp_gumReturnWithError]
    exact ⟨.error _ _, .refused fun calm => by simp [calm.granted] at denied⟩
  have files : t.world.files = s.world.files := by rw [world, World.files_afterLock]
  have calm_of : s.world.Calm → t.world.faults.write = .const none := fun calm => by
    rw [world, World.write_afterLock, calm.write]
  have readable₀ : t.world.faults.read = .const true := by rwa [world, World.read_afterLock]
  simp only [wp_bind, wp_getSelf, wp_ite, self]
  refine ⟨fun invalid => unlockReturnWithError_spec _ (.refl _) ?_, fun valid => ?_⟩
  · rw [files]
    exact .refused fun _ entry found => absurd invalid found.valid
  refine wp_mono (wp_copyGroupData readable₀) ?_
  rintro ok t₁ ⟨loaded, quiet₁⟩
  rw [self, files] at loaded
  generalize self₁ : t₁.self = object at loaded
  rw [wp_guard]
  cases loaded with
  | missing found =>
    refine ⟨fun _ => unlockReturn_spec quiet₁.balanced ?_, by simp⟩
    rw [quiet₁.files, files]
    exact .refused fun _ entry found' => absurd found'.found (by simp [found])
  | @found entry sg found answer =>
    have gid : (s.self.copyGroupEntries entry sg).group.grGid = entry.grGid := rfl
    replace answer : s.world.Calm → sg = s.world.files.getsgnam entry.grName := fun calm =>
      answer.eq (by rw [world, World.readShadow_afterLock, calm.readShadow])
    refine ⟨by simp, fun _ => ?_⟩
    simp only [wp_bind, wp_getSelf, wp_ite, self₁, gid]
    refine ⟨fun own => unlockReturnWithError_spec _ quiet₁.balanced ?_, fun notOwn => ?_⟩
    · rw [quiet₁.files, files]
      refine .refused fun _ entry' found' => absurd own ?_
      obtain rfl : entry = entry' := Option.some.inj (found.symm.trans found'.found)
      exact found'.notOwn
    have fits : s.self.Found env s.world.files entry := ⟨valid, found, notOwn⟩
    simp only [wp_liftM, wp_gumFileFindUserByGid (quiet₁.balanced.read readable₀) fits.validGid,
      quiet₁.files, files, wp_ite]
    refine ⟨fun used => unlockReturn_spec quiet₁.balanced ?_, fun unused => ?_⟩
    · rw [quiet₁.files, files]
      exact .kept fits (Files.usesGid_iff.mpr used)
    rw [← Files.usesGid_iff] at unused
    refine wp_writeBoth (writesAs_updateGroupFile _ _ _) (writesAs_updateGshadowFile _ _ _)
      (fun t₂ self₂ balanced₂ written => ?_) fun t₂ self₂ balanced₂ written => ?_
    all_goals
      have balanced := quiet₁.balanced.trans balanced₂
      refine unlockReturn_spec balanced ?_
      rw [self₁, quiet₁.files, files] at written
      generalize t₂.world.files = f' at written
      have dropped := rewriteGroup_loaded sg (Files.getGroup_some found).1
        (Files.getGroup_some found).2
    · cases written with
      | neither why =>
        refine .refused fun calm entry' found' => ?_
        obtain rfl : entry = entry' := Option.some.inj (found.symm.trans found'.found)
        obtain ⟨_, failed⟩ := why (quiet₁.balanced.write (calm_of calm))
        refine ⟨unused, fun accepted => ?_⟩
        rw [dropped, if_pos accepted] at failed
        cases failed
      | one first why =>
        rw [dropped] at first
        split_ifs at first with accepted
        obtain rfl := Except.ok.inj first
        exact .groupOnly fits unused accepted answer fun calm =>
          why (quiet₁.balanced.write (calm_of calm))
    · cases written with
      | both first second =>
        rw [dropped] at first
        split_ifs at first with accepted
        obtain rfl := Except.ok.inj first
        exact .deleted fits unused accepted answer second

end GumdDaemonGroup

end Gumd
