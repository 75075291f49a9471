import Gumd.Locking

/-!
# Failing user operations

An addition or a deletion that returns `FALSE` should leave the files as they were.  For each of the
two the theorem says exactly when it does, where no file operation fails.
-/

namespace Gumd

open StateWp EntryLoop

/-! ## Lengths -/

/-- A removed entry is missed. -/
theorem Files.length_removePasswd {f : Files} {pent : Passwd} (mem : pent ∈ f.passwd) :
    (f.removePasswd pent).passwd.length + 1 = f.passwd.length := by
  have positive := List.length_pos_of_mem mem
  rw [Files.removePasswd, List.length_eraseP_of_mem mem (by simp)]
  exact Nat.sub_add_cancel positive

/-- An entry is added wherever it goes. -/
theorem Files.length_insertPasswd (f : Files) (new : Passwd) :
    (f.insertPasswd new).passwd.length = f.passwd.length + 1 :=
  (perm_insertFirst _ new f.passwd).length_eq

/-! ## Deleting a user -/

namespace GumdDaemonUser

/-- The primary group of a removed user can be deleted, or stays because another user has it. -/
def PrimaryGroupGoes (env : Env) (f : Files) (pent : Passwd) : Prop :=
  ∃ entry, (doomedGroup pent).Found env f entry ∧
    (f.UsesGid entry.grGid ∨ gumValidateName (some entry.grName) = .ok () ∧
      (f.gshadow.isSome → (f.getsgnam entry.grName).isSome))

/-- The gshadow entry of a doomed group is dropped, unless the file has none. -/
theorem rewriteGshadow_doomed {f : Files} {entry : Group} {pent : Passwd} {sg : Option Sgrp}
    (looked : sg = f.getsgnam entry.grName) :
    (∃ f', Files.rewriteGshadow (updateGshadowEntry
        ((doomedGroup pent).copyGroupEntries entry sg) .delete none) (f.removeGroup entry) =
          .ok f') ↔
      (f.gshadow.isSome → (f.getsgnam entry.grName).isSome) := by
  cases present : f.gshadow with
  | none =>
    have absent : (f.removeGroup entry).gshadow = none := present
    exact ⟨fun _ h => by simp at h, fun _ => ⟨_, Files.rewriteGshadow_none absent _⟩⟩
  | some entries =>
    have present' : (f.removeGroup entry).gshadow = some entries := present
    simp only [Files.rewriteGshadow_some present', DbFile.rewrite, gshadowFile, present',
      updateGshadowEntry_delete]
    cases found : f.getsgnam entry.grName with
    | none =>
      have unnamed : ((doomedGroup pent).copyGroupEntries entry sg).gshadow.sgNamp = none := by
        rw [looked, found]
        rfl
      simp [unnamed, Except.map]
    | some sgent =>
      have named : ((doomedGroup pent).copyGroupEntries entry sg).gshadow.sgNamp =
          some sgent.sgNamp := by
        rw [looked, found]
        rfl
      have mem : sgent ∈ entries := by
        have mem := List.mem_of_find?_eq_some found
        simpa [present] using mem
      have here : (entries.any fun e => some sgent.sgNamp = some e.sgNamp) = true :=
        List.any_eq_true.mpr ⟨sgent, mem, by simp⟩
      simp only [named, here, if_true]
      exact ⟨fun _ _ => rfl, fun _ => ⟨_, rfl⟩⟩

/-- When the deletion of a primary group succeeds. -/
theorem deleted_doomed_iff {calm : Prop} {env : Env} {f f' : Files} {pent : Passwd} {r : Bool}
    (undisturbed : calm) (deleted : (doomedGroup pent).Deleted calm env f r f') :
    r = true ↔ PrimaryGroupGoes env f pent := by
  have unique : ∀ {entry entry'}, (doomedGroup pent).Found env f entry →
      (doomedGroup pent).Found env f entry' → entry = entry' := fun first second =>
    Option.some.inj (first.found.symm.trans second.found)
  cases deleted with
  | refused why =>
    refine ⟨by simp, ?_⟩
    rintro ⟨entry, fits, used | ⟨valid, -⟩⟩
    · exact absurd used (why undisturbed entry fits).1
    · exact absurd valid (why undisturbed entry fits).2
  | kept fits used => exact ⟨fun _ => ⟨_, fits, Or.inl used⟩, fun _ => rfl⟩
  | groupOnly fits unused valid answer why =>
    refine ⟨by simp, ?_⟩
    rintro ⟨entry, fits', rest⟩
    obtain rfl := unique fits fits'
    obtain ⟨f', written⟩ := (rewriteGshadow_doomed (answer undisturbed)).mpr
      (rest.resolve_left unused).2
    obtain ⟨e, failed⟩ := why undisturbed
    rw [failed] at written
    cases written
  | deleted fits unused valid answer written =>
    refine ⟨fun _ => ⟨_, fits, Or.inr ⟨valid, ?_⟩⟩, fun _ => rfl⟩
    exact (rewriteGshadow_doomed (answer undisturbed)).mp ⟨_, written⟩

/-- The removal of the user's entries leaves what decides about the group. -/
theorem primaryGroupGoes_removed {env : Env} {f f₁ : Files} {name : Str} {pent : Passwd}
    (same : (f.lockShadow name true).SameDb f₁) :
    PrimaryGroupGoes env ((f₁.removePasswd pent).removeShadow name) pent ↔
      PrimaryGroupGoes env (f.removePasswd pent) pent := by
  have passwd : ((f₁.removePasswd pent).removeShadow name).passwd = (f.removePasswd pent).passwd :=
    congrArg (List.eraseP _) same.passwd
  have group : ((f₁.removePasswd pent).removeShadow name).getGroup =
      (f.removePasswd pent).getGroup := by
    funext record
    simp only [Files.getGroup, Files.getgrgid, Files.getgrnam, Files.removePasswd,
      Files.removeShadow, same.group]
    rfl
  have gshadow : ((f₁.removePasswd pent).removeShadow name).gshadow =
      (f.removePasswd pent).gshadow := same.gshadow
  simp only [PrimaryGroupGoes, GumdDaemonGroup.found_iff, Files.UsesGid, Files.getsgnam, passwd,
    group, gshadow]

/-- The conditions under which a deletion that returns `FALSE` has changed nothing: where the
user's sessions go on, the user was not locked before; where they end, no later step can fail. -/
def DeletesWhole (u : GumdDaemonUser) (env : Env) (remHomeDir : Bool) (euid : UInt32)
    (f : Files) : Prop :=
  ∀ name pent spent, u.Located euid f name pent spent →
    if terminateUser env.logind then
      PrimaryGroupGoes env (f.removePasswd pent) pent ∧
        (remHomeDir → (u.copyPasswdStruct pent).homeDirDeleteError env = none)
    else spent.isLocked = false

variable {u : GumdDaemonUser} {env : Env} {f f' : Files} {rem r : Bool} {euid : UInt32}

/-- There is one pair of entries that an object is located by. -/
theorem Located.unique {name name' : ValidName} {pent pent' : Passwd} {spent spent' : Spwd}
    (first : u.Located euid f name pent spent) (second : u.Located euid f name' pent' spent') :
    pent = pent' ∧ spent = spent' := by
  obtain rfl : pent = pent' := Option.some.inj (first.entry.symm.trans second.entry)
  exact ⟨rfl, Option.some.inj (first.shadow.symm.trans second.shadow)⟩

/-- Once the entry is gone from the passwd file, the files are not what they were. -/
theorem Located.ne_of_removed {name : ValidName} {pent : Passwd} {spent : Spwd} {f₁ : Files}
    (located : u.Located euid f name pent spent) (same : f₁.passwd = f.passwd)
    (removed : f'.passwd = (f₁.removePasswd pent).passwd) : f' ≠ f := by
  rintro rfl
  have mem : pent ∈ f₁.passwd := by
    rw [same]
    exact (Files.getPasswd_some located.entry).1
  have length := Files.length_removePasswd mem
  rw [← removed, same] at length
  exact absurd length (Nat.succ_ne_self _)

/-- When an undisturbed deletion that fails has changed nothing. -/
theorem UserDeleted.failed_iff {calm : Prop} (undisturbed : calm)
    (deleted : u.UserDeleted calm env rem euid f r f') :
    (r = false → f' = f) ↔ u.DeletesWhole env rem euid f := by
  cases deleted with
  | refused why =>
    exact ⟨fun _ _ _ _ located => absurd located (why undisturbed _ _ _), fun _ _ => rfl⟩
  | @survived name pent spent _ located alive result =>
    obtain rfl := result.resolve_right fun h => h.1 undisturbed
    have found := located.name ▸ located.shadow
    rw [Files.relock_relock_eq_self found]
    refine ⟨fun unlocked _ _ _ located' => ?_, fun whole _ => ?_⟩
    · obtain ⟨rfl, rfl⟩ := located.unique located'
      simpa [alive] using unlocked rfl
    · simpa [alive] using whole _ _ _ located
  | interrupted faulty located terminated same after undone => exact absurd undisturbed faulty
  | noGroup located terminated same deleted =>
    refine ⟨fun unchanged => absurd (unchanged rfl)
      (located.ne_of_removed same.passwd deleted.frame.1), fun whole => ?_⟩
    have goes := whole _ _ _ located
    rw [if_pos terminated] at goes
    have done := (deleted_doomed_iff undisturbed deleted).mpr 
      ((primaryGroupGoes_removed same).mpr goes.1)
    cases done
  | memberships faulty located terminated same deleted parted => exact absurd undisturbed faulty
  | @ended name pent spent _ _ _ located terminated same deleted parted =>
    have goes := (primaryGroupGoes_removed same).mp ((deleted_doomed_iff undisturbed deleted).mp rfl)
    have changed := located.ne_of_removed same.passwd (parted.frame.1.trans deleted.frame.1)
    constructor
    · intro unchanged _ _ _ located'
      obtain ⟨rfl, rfl⟩ := located.unique located'
      rw [if_pos terminated]
      refine ⟨goes, fun remove => ?_⟩
      have home := mt unchanged changed
      simpa [remove] using home
    · intro whole failed
      have home := (whole _ _ _ located)
      rw [if_pos terminated] at home
      cases rem with
      | false => simp at failed
      | true => simp [home.2 rfl] at failed

/-- A deletion that fails leaves the files as they were exactly under these conditions. -/
theorem gumdDaemonUserDelete_failed_iff {s : St GumdDaemonUser} (faultless : s.world.Faultless)
    (env : Env) (remHomeDir : Bool) :
    wp (gumdDaemonUserDelete env remHomeDir) (fun r t =>
      (r = false → t.world.files = s.world.files) ↔
        (s.world.lockGranted = true → s.self.DeletesWhole env remHomeDir
          s.world.afterLock.process.euid s.world.files)) s := by
  cases granted : s.world.lockGranted with
  | false =>
    refine wp_mono (files_of_refused granted) fun _ t files => ?_
    exact ⟨fun _ h => by simp at h, fun _ _ => files⟩
  | true =>
    refine wp_mono (gumdDaemonUserDelete_spec faultless.read env remHomeDir) ?_
    rintro r t ⟨-, deleted⟩
    rw [deleted.failed_iff (faultless.calm granted)]
    simp

end GumdDaemonUser

namespace Sample

/-- The state in which a process deletes the user. -/
def deletion : St GumdDaemonUser := ⟨system.users 0, system.world (call (.userDelete 0 false))⟩

/-- The primary group is the effective group of the process: the deletion fails after the entries
are gone. -/
theorem userDelete_not_whole :
    ¬wp (GumdDaemonUser.gumdDaemonUserDelete { env with egid := 1000 } false)
      (fun r t => r = false → t.world.files = files) deletion := by
  intro whole
  have passwd := congrArg Files.passwd (whole rfl)
  revert passwd
  decide

theorem gumdDaemonUserDelete_failed_iff_alice :
    wp (GumdDaemonUser.gumdDaemonUserDelete env false) (fun r t =>
      (r = false → t.world.files = files) ↔ (deletion.world.lockGranted = true →
        deletion.self.DeletesWhole env false deletion.world.afterLock.process.euid files))
      deletion :=
  GumdDaemonUser.gumdDaemonUserDelete_failed_iff ⟨rfl, rfl, rfl⟩ env false

end Sample

/-! ## Adding a user -/

namespace GumdDaemonUser

/-- The steps of an addition after the group pass. -/
structure Completes (u : GumdDaemonUser) (env : Env) (f : Files) (gid : UInt32) : Prop where
  encrypted : (u.newPwdp env).isSome = true
  fresh : ∀ name, u.pw.pwName = some name → ¬f.HasShadow name.val
  home : (u.complete env gid).homeDirError env = none

/-- The conditions under which an addition that returns `FALSE` has added nothing: once it has added
a group or the passwd entry no later step can fail. -/
def AddsWhole (u : GumdDaemonUser) (env : Env) (f : Files) : Prop :=
  ∀ u', u.Prepared env f u' →
    match (gumConfigGetString env.config gumConfigGeneralUsrPrimaryGrpname).bind f.getgrnam with
    | some grp => u'.newPwdp env = none ∨ u'.Completes env f grp.grGid
    | none => ∀ name gid passwd,
        (u'.primaryGroup env.config).Addable env u'.pw.pwUid f name gid passwd →
          ¬f.HasGshadow name.val ∧ u'.Completes env f gid

section Added

variable {calm : Prop} {u u' : GumdDaemonUser} {env : Env} {f f₁ f' : Files} {gid : UInt32}

/-- A new group shows in the group file. -/
theorem not_sameDb_insertGroup {new : Group} (group : f'.group = (f.insertGroup new).group) :
    ¬f.SameDb f' :=
  fun same => insertFirst_ne_self _ _ _ (group.symm.trans same.group)

/-- A group that leaves the database the same was there already. -/
theorem Grouped.eq_of_sameDb (grouped : u'.Grouped calm env f (some gid) f₁)
    (same : f.SameDb f₁) : f₁ = f := by
  cases grouped with
  | reused found => rfl
  | created missing added =>
    cases added with
    | added addable fresh => exact absurd same (not_sameDb_insertGroup rfl)

/-- The conditions speak about the one object that passes the first steps. -/
theorem addsWhole_iff (prepared : u.Prepared env f u') : u.AddsWhole env f ↔
    match (gumConfigGetString env.config gumConfigGeneralUsrPrimaryGrpname).bind f.getgrnam with
    | some grp => u'.newPwdp env = none ∨ u'.Completes env f grp.grGid
    | none => ∀ name gid passwd,
        (u'.primaryGroup env.config).Addable env u'.pw.pwUid f name gid passwd →
          ¬f.HasGshadow name.val ∧ u'.Completes env f gid := by
  refine ⟨fun whole => whole u' prepared, fun h u₁ prepared' => ?_⟩
  obtain rfl : u' = u₁ := Option.some.inj (prepared.uid.symm.trans prepared'.uid)
  exact h

/-- What the conditions come to once the user has a group. -/
theorem addsWhole_iff_of_grouped (prepared : u.Prepared env f u')
    (grouped : u'.Grouped calm env f (some gid) f₁) :
    u.AddsWhole env f ↔ f₁ = f ∧ u'.newPwdp env = none ∨ u'.Completes env f gid := by
  rw [addsWhole_iff prepared]
  cases grouped with
  | reused found => simp only [found, true_and]
  | created missing added =>
    cases added with
    | @added name _ passwd addable fresh =>
      have changed : ¬(f.insertGroup ((u'.primaryGroup env.config).newEntry name gid)).appendGshadow
          ((u'.primaryGroup env.config).newGshadowEntry name passwd) = f := by
        exact fun same => insertFirst_ne_self _ _ _ (congrArg Files.group same)
      simp only [missing, changed, false_and, false_or]
      refine ⟨fun whole => (whole _ _ _ addable).2, fun completes name' gid' _ addable' => ?_⟩
      obtain rfl : name = name' := Option.some.inj (addable.name.symm.trans addable'.name)
      obtain rfl : gid = gid' := Option.some.inj (addable.gid.symm.trans addable'.gid)
      exact ⟨fresh, completes⟩

/-- The entries that are written have the name of the object. -/
theorem Writes.name {pw : Passwd} {sp : Spwd} (writes : u'.Writes env gid pw sp) :
    ptr u'.pw.pwName = some sp.spNamp := by
  obtain ⟨name, named, rfl⟩ := Option.map_eq_some_iff.mp writes.shadow
  exact named

/-- A new user shows in the passwd file. -/
theorem not_sameDb_insertPasswd {pw : Passwd} (grouped : u'.Grouped calm env f (some gid) f₁)
    (accounts : f'.accounts = (f₁.insertPasswd pw).accounts) : ¬f.SameDb f' := by
  intro same
  have users := congrArg (fun a => a.users.card) (accounts.symm.trans same.accounts)
  have frame : (f₁.insertPasswd pw).passwd.length = f.passwd.length + 1 := by
    rw [Files.length_insertPasswd, grouped.frame.1]
  simp only [Files.accounts, Multiset.coe_card, List.length_map, frame] at users
  exact absurd users (Nat.succ_ne_self _)

/-- When an undisturbed addition that fails has added nothing. -/
theorem UserAdded.failed_iff {r : Option UInt32} (undisturbed : calm)
    (added : u.UserAdded calm env f r f') : (r = none → f.SameDb f') ↔ u.AddsWhole env f := by
  have unchanged : f.SameDb f := ⟨rfl, rfl, rfl, rfl⟩
  cases added with
  | refused why =>
    exact ⟨fun _ _ prepared => absurd prepared (why undisturbed _), fun _ _ => unchanged⟩
  | noGroup prepared grouped =>
    rw [addsWhole_iff prepared]
    cases grouped with
    | created missing added =>
      simp only [missing]
      cases added with
      | refused why =>
        exact ⟨fun _ _ _ _ addable => absurd addable (why undisturbed _ _ _),
          fun _ _ => unchanged⟩
      | groupOnly addable stale =>
        exact ⟨fun whole => absurd (whole trivial) (not_sameDb_insertGroup rfl),
          fun whole => absurd (stale undisturbed) (whole _ _ _ addable).1⟩
  | noSecret prepared grouped why =>
    rw [addsWhole_iff_of_grouped prepared grouped]
    refine ⟨fun whole => Or.inl ⟨grouped.eq_of_sameDb (whole rfl), why undisturbed⟩, ?_⟩
    rintro (⟨rfl, -⟩ | completes) -
    · exact unchanged
    · have encrypted := completes.encrypted
      simp [why undisturbed] at encrypted
  | passwdOnly prepared grouped writes why =>
    rw [addsWhole_iff_of_grouped prepared grouped]
    refine ⟨fun whole => absurd (whole rfl) (not_sameDb_insertPasswd grouped rfl), ?_⟩
    rintro (⟨-, failed⟩ | completes) -
    · have encrypted := writes.encrypted
      simp [failed] at encrypted
    · obtain ⟨name, named, same⟩ := Option.map_eq_some_iff.mp writes.name
      exact absurd (same ▸ why undisturbed) (completes.fresh name named)
  | homeless prepared grouped writes fresh same joined why =>
    rw [addsWhole_iff_of_grouped prepared grouped]
    have accounts := (accounts_joined joined).trans same.accounts
    refine ⟨fun whole => absurd (whole rfl) (not_sameDb_insertPasswd grouped accounts), ?_⟩
    rintro (⟨-, failed⟩ | completes) -
    · have encrypted := writes.encrypted
      simp [failed] at encrypted
    · simp [completes.home] at why
  | added prepared grouped writes fresh same joined home =>
    rw [addsWhole_iff_of_grouped prepared grouped]
    refine ⟨fun _ => Or.inr ⟨writes.encrypted, fun name named => ?_, home⟩, by simp⟩
    have same := writes.name
    rw [named, ptr_some] at same
    rwa [Option.some.inj same]

end Added

/-- An addition that fails leaves the database files as they were exactly under these conditions. -/
theorem gumdDaemonUserAdd_failed_iff {s : St GumdDaemonUser} (faultless : s.world.Faultless)
    (env : Env) :
    wp (gumdDaemonUserAdd env) (fun r t =>
      (r = none → s.world.files.SameDb t.world.files) ↔
        (s.world.lockGranted = true → s.self.AddsWhole env s.world.files)) s := by
  cases granted : s.world.lockGranted with
  | false =>
    refine wp_mono (gumdDaemonUserAdd_refused granted env) fun _ t files => ?_
    exact ⟨fun _ h => by simp at h, fun _ _ => by rw [files]; exact ⟨rfl, rfl, rfl, rfl⟩⟩
  | true =>
    refine wp_mono (gumdDaemonUserAdd_spec faultless.read env) ?_
    rintro r t ⟨-, added⟩
    rw [added.failed_iff (faultless.calm granted)]
    simp

end GumdDaemonUser

namespace Sample

/-- The state in which a process adds another user. -/
def addition : St GumdDaemonUser where
  self := (gumdDaemonUserNew.setUsernameProperty (some (str "bob"))).setUsertypeProperty
    GumUserType.normal.value
  world := system.world (call (.userAdd 0))

/-- A shadow entry of the new name is left: the addition fails after the group and the passwd entry
have been written. -/
theorem userAdd_not_whole :
    ¬wp (GumdDaemonUser.gumdDaemonUserAdd env) (fun r t => r = none →
        Files.SameDb { files with shadow := [{ aliceShadow with spNamp := str "bob" }] }
          t.world.files)
      { addition with world := { addition.world with
        files := { files with shadow := [{ aliceShadow with spNamp := str "bob" }] } } } := by
  intro whole
  have passwd := (whole rfl).passwd
  revert passwd
  decide +kernel

theorem gumdDaemonUserAdd_failed_iff_bob :
    wp (GumdDaemonUser.gumdDaemonUserAdd env) (fun r t =>
      (r = none → files.SameDb t.world.files) ↔
        (addition.world.lockGranted = true → addition.self.AddsWhole env files)) addition :=
  GumdDaemonUser.gumdDaemonUserAdd_failed_iff ⟨rfl, rfl, rfl⟩ env

end Sample

end Gumd
