import Gumd.UserOutcomes

/-!
# Outcomes of deleting a user

A deletion locks the user in the shadow file, ends the user's sessions, removes the user's entries,
the primary group and the memberships, and may stop after each of these steps.
-/

namespace Gumd

open StateWp EntryLoop

/-! ## Entries of the user -/

/-- The files with the password field of a user locked or unlocked as the rewrite does it. -/
def Files.lockShadow (f : Files) (name : Str) (lock : Bool) : Files :=
  { f with
    shadow := modifyFirst (fun e => name = e.spNamp) (Spwd.relock lock) f.shadow }

def Files.removePasswd (f : Files) (pent : Passwd) : Files :=
  { f with
    passwd := f.passwd.eraseP fun e =>
      pent.pwUid = e.pwUid ∧ pent.pwGid = e.pwGid ∧ pent.pwName = e.pwName }

def Files.removeShadow (f : Files) (name : Str) : Files :=
  { f with shadow := f.shadow.eraseP fun e => name = e.spNamp }

theorem Files.map_spNamp_lockShadow (f : Files) (name : Str) (lock : Bool) :
    (f.lockShadow name lock).shadow.map (·.spNamp) = f.shadow.map (·.spNamp) := by
  refine map_modifyFirst ?_ f.shadow
  exact fun _ _ => rfl

theorem Files.any_spNamp_lockShadow {f : Files} {name other : Str} {lock : Bool} :
    ((f.lockShadow name lock).shadow.any fun e => other = e.spNamp) =
      f.shadow.any fun e => other = e.spNamp := by
  have names := congrArg (List.any · (other = ·)) (f.map_spNamp_lockShadow name lock)
  simpa only [List.any_map, Function.comp_def] using names

namespace GumdDaemonUser

variable {s : St GumdDaemonUser}

/-- The steps before the sessions are ended pass: the object's user has both entries and a valid
name, and is not the one who asks. -/
structure Located (u : GumdDaemonUser) (euid : UInt32) (f : Files) (name : ValidName)
    (pent : Passwd) (spent : Spwd) : Prop where
  valid : u.pw.pwUid ≠ gumUserInvalidUid
  entry : f.getPasswd u.pw = some pent
  shadow : f.getspnam pent.pwName = some spent
  name : name.val = pent.pwName
  notSelf : pent.pwUid ≠ euid

/-- The outcome of `_delete_home_dir`. -/
def homeDirDeleteError (env : Env) (u : GumdDaemonUser) : Option GError :=
  if u.usertype = .system then none else env.deleteHomeDir (ptr u.pw.pwDir)

theorem wp_deleteHomeDir (env : Env) :
    wp (deleteHomeDir env) (fun ok t => ok = (s.self.homeDirDeleteError env).isNone ∧
      t.self = s.self ∧ s.world.Quiet t.world) s := by
  simp only [deleteHomeDir, wp_bind, wp_getSelf, wp_ite, wp_pure, wp_liftM, homeDirDeleteError]
  refine ⟨fun system => ⟨by simp [system], trivial, .refl _⟩, fun other => ?_⟩
  rw [if_neg other]
  cases env.deleteHomeDir _ with
  | none => exact ⟨rfl, trivial, .refl _⟩
  | some e => exact ⟨rfl, trivial, .error _ _⟩

/-- The object `_delete_group` deletes the primary group with. -/
def doomedGroup (pent : Passwd) : GumdDaemonGroup :=
  gumdDaemonGroupNew.setGidProperty pent.pwGid

/-- How a deletion can end. -/
inductive UserDeleted (calm : Prop) (u : GumdDaemonUser) (env : Env) (remHomeDir : Bool)
    (euid : UInt32) (f : Files) : Bool → Files → Prop
  | refused : (calm → ∀ name pent spent, ¬u.Located euid f name pent spent) →
      UserDeleted calm u env remHomeDir euid f false f
  | survived {name pent spent f'} : u.Located euid f name pent spent →
      terminateUser env.logind = false →
      f' = (f.lockShadow name.val true).lockShadow name.val false ∨
        ¬calm ∧ f' = f.lockShadow name.val true →
      UserDeleted calm u env remHomeDir euid f false f'
  | interrupted {name pent spent f₁ f₂ f'} : ¬calm → u.Located euid f name pent spent →
      terminateUser env.logind = true →
      (f.lockShadow name.val true).SameDb f₁ → f₂ = f₁ ∨ f₂ = f₁.removePasswd pent →
      f' = f₂ ∨ f' = f₂.lockShadow name.val false →
      UserDeleted calm u env remHomeDir euid f false f'
  | noGroup {name pent spent f₁ f'} : u.Located euid f name pent spent →
      terminateUser env.logind = true → (f.lockShadow name.val true).SameDb f₁ →
      GumdDaemonGroup.Deleted calm (doomedGroup pent) env
        ((f₁.removePasswd pent).removeShadow name.val) false f' →
      UserDeleted calm u env remHomeDir euid f false f'
  | memberships {name pent spent f₁ f₂ f'} : ¬calm → u.Located euid f name pent spent →
      terminateUser env.logind = true → (f.lockShadow name.val true).SameDb f₁ →
      GumdDaemonGroup.Deleted calm (doomedGroup pent) env
        ((f₁.removePasswd pent).removeShadow name.val) true f₂ →
      MembershipDeleted calm name.val f₂ false f' →
      UserDeleted calm u env remHomeDir euid f false f'
  | ended {name pent spent f₁ f₂ f'} : u.Located euid f name pent spent →
      terminateUser env.logind = true → (f.lockShadow name.val true).SameDb f₁ →
      GumdDaemonGroup.Deleted calm (doomedGroup pent) env
        ((f₁.removePasswd pent).removeShadow name.val) true f₂ →
      MembershipDeleted calm name.val f₂ true f' →
      UserDeleted calm u env remHomeDir euid f
        (!remHomeDir || ((u.copyPasswdStruct pent).homeDirDeleteError env).isNone) f'

/-! ## The steps -/

theorem writesAs_lockUser (u : GumdDaemonUser) (lock : Bool) :
    WritesAs u (lockUser lock) (shadowFile.rewrite (lockShadowEntry u lock)) := by
  rintro s rfl
  simp only [lockUser, wp_bind, wp_getSelf, wp_liftM, wp_withNullError]
  refine wp_mono (gumFileUpdate_spec _ _ _) fun ok w spec => ⟨trivial, ?_, spec.2⟩
  exact ⟨spec.1.read, spec.1.readShadow, spec.1.write, spec.1.lockCount⟩

theorem rewriteLock {u : GumdDaemonUser} {name : ValidName} (named : u.pw.pwName = some name)
    (lock : Bool) (f : Files) :
    shadowFile.rewrite (lockShadowEntry u lock) f =
      if (f.shadow.any fun e => name.val = e.spNamp) then .ok (f.lockShadow name.val lock)
      else .error operationIncomplete := by
  simp only [DbFile.rewrite, shadowFile, lockShadowEntry_eq, named, ptr_some, Option.some.injEq]
  split_ifs <;> rfl

theorem rewriteLock_none {u : GumdDaemonUser} (unnamed : u.pw.pwName = none) (lock : Bool)
    (f : Files) :
    shadowFile.rewrite (lockShadowEntry u lock) f = .error operationIncomplete := by
  simp only [DbFile.rewrite, shadowFile, lockShadowEntry_eq, unnamed, ptr_none, reduceCtorEq,
    decide_false, List.any_eq_true, Bool.false_eq_true, and_false, exists_false, if_false]
  rfl

section Loaded

variable {u : GumdDaemonUser} {f : Files} {pent : Passwd} {spent : Spwd} {icon : Option Str}

/-- The name of a loaded object is the entry's, if the validator accepts it. -/
theorem loaded_name (found : f.getPasswd u.pw = some pent) :
    ptr (u.copyPasswdEntries pent spent icon).pw.pwName =
      if gumValidateName (some pent.pwName) = .ok () then some pent.pwName else none := by
  have agrees := (PasswdRecord.agrees_iff.mp (Files.getPasswd_some found).2).2
  change ptr (setStringProperty (some pent.pwName) u.pw.pwName) = _
  exact ptr_setStringProperty_agreeing agrees

theorem Located.loaded {euid : UInt32} {name : ValidName}
    (located : u.Located euid f name pent spent) :
    (u.copyPasswdEntries pent spent icon).pw.pwName = some name := by
  have valid : gumValidateName (some pent.pwName) = .ok () := located.name ▸ name.property
  apply ptr_injective
  rw [loaded_name located.entry, if_pos valid, ptr_some, located.name]

/-- The lock of a located user's shadow entry succeeds. -/
theorem Located.any_shadow {euid : UInt32} {name : ValidName}
    (located : u.Located euid f name pent spent) :
    (f.shadow.any fun e => name.val = e.spNamp) = true := by
  obtain ⟨mem, same⟩ := And.intro (List.mem_of_find?_eq_some located.shadow)
    (List.find?_some located.shadow)
  refine List.any_eq_true.mpr ⟨spent, mem, ?_⟩
  rw [located.name]
  exact decide_eq_true (beq_iff_eq.mp same).symm

theorem rewritePasswd_delete {euid : UInt32} {name : ValidName} {f' : Files}
    (located : u.Located euid f name pent spent) (same : f'.passwd = f.passwd) :
    passwdFile.rewrite (updatePasswdEntry (u.copyPasswdEntries pent spent icon) .delete none) f' =
      .ok (f'.removePasswd pent) := by
  have uid : (u.copyPasswdEntries pent spent icon).pw.pwUid = pent.pwUid := rfl
  have gid : (u.copyPasswdEntries pent spent icon).pw.pwGid = pent.pwGid := rfl
  have here : (f'.passwd.any fun e =>
      pent.pwUid = e.pwUid ∧ pent.pwGid = e.pwGid ∧ pent.pwName = e.pwName) = true := by
    rw [same]
    exact List.any_eq_true.mpr ⟨pent, (Files.getPasswd_some located.entry).1, by simp⟩
  simp only [DbFile.rewrite, passwdFile, updatePasswdEntry_delete, located.loaded, uid, gid,
    ptr_some, located.name, Option.some.injEq, here, if_true]
  rfl

theorem rewriteShadow_delete {euid : UInt32} {name : ValidName} {f' : Files}
    (located : u.Located euid f name pent spent)
    (any : (f'.shadow.any fun e => name.val = e.spNamp) = true) :
    shadowFile.rewrite (updateShadowEntry (u.copyPasswdEntries pent spent icon) .delete none) f' =
      .ok (f'.removeShadow name.val) := by
  have named : (u.copyPasswdEntries pent spent icon).shadow.spNamp = some name.val := by
    have same := List.find?_some located.shadow
    rw [located.name, ← beq_iff_eq.mp same]
    rfl
  simp only [DbFile.rewrite, shadowFile, updateShadowEntry_delete, named, Option.some.injEq, any,
    if_true]
  rfl

/-- The rewrites that remove the user fail only where a file operation does. -/
theorem wp_deleteEntries {euid : UInt32} {name : ValidName}
    (located : u.Located euid f name pent spent) (self : s.self = u.copyPasswdEntries pent spent icon)
    (passwd : s.world.files.passwd = f.passwd)
    (any : (s.world.files.shadow.any fun e => name.val = e.spNamp) = true) :
    wp deleteEntries (fun ok t => t.self = s.self ∧ s.world.Balanced t.world ∧
      (ok = false ∧ s.world.faults.write ≠ .const none ∧
          (t.world.files = s.world.files ∨ t.world.files = s.world.files.removePasswd pent) ∨
        ok = true ∧ t.world.files =
          (s.world.files.removePasswd pent).removeShadow name.val)) s := by
  rw [deleteEntries, wp_bind]
  refine wp_mono (writesAs_updatePasswdFile _ _ _ s rfl) ?_
  rintro ok t ⟨self₁, balanced, written⟩
  rw [self, rewritePasswd_delete located passwd] at written
  rw [wp_guard]
  rcases written with ⟨rfl, same, why⟩ | ⟨rfl, written⟩
  · refine ⟨fun _ => ⟨self₁, balanced, Or.inl ⟨rfl, fun writable => ?_, Or.inl same⟩⟩, by simp⟩
    obtain ⟨_, error⟩ := why writable
    cases error
  · refine ⟨by simp, fun _ => wp_mono (writesAs_updateShadowFile _ _ _ t rfl) ?_⟩
    rintro ok v ⟨self₂, balanced₂, written₂⟩
    have files := Except.ok.inj written
    rw [self₁, self, ← files, rewriteShadow_delete located (by exact any)] at written₂
    refine ⟨self₂.trans self₁, balanced.trans balanced₂, ?_⟩
    rcases written₂ with ⟨rfl, same, why⟩ | ⟨rfl, written₂⟩
    · refine Or.inl ⟨rfl, fun writable => ?_, Or.inr same⟩
      obtain ⟨_, error⟩ := why (balanced.write writable)
      cases error
    · exact Or.inr ⟨rfl, (Except.ok.inj written₂).symm⟩

end Loaded

theorem wp_deleteUserinfo (config : GumConfig) :
    wp (deleteUserinfo config) (fun _ t => t.self = s.self ∧ s.world.Balanced t.world ∧
      s.world.files.SameDb t.world.files) s := by
  simp only [deleteUserinfo, wp_ite, wp_pure, wp_bind]
  refine ⟨fun _ => wp_mono (wp_writeUserinfo _) ?_, fun _ => ⟨trivial, .refl _, ⟨rfl, rfl, rfl, rfl⟩⟩⟩
  rintro ok t ⟨self, balanced, written⟩
  exact ⟨self, balanced, sameDb_writeUserinfo written⟩

/-- The last part of a deletion, from files in which the user is locked. -/
theorem wp_removeUser (readable : s.world.faults.read = .const true) (held : s.world.process.lockCount ≠ 0)
    {u : GumdDaemonUser} {f : Files} {pent : Passwd} {spent : Spwd} {euid : UInt32}
    {name : ValidName} {icon : Option Str} {env : Env} {remHomeDir : Bool} {calm : Prop}
    (located : u.Located euid f name pent spent) (terminated : terminateUser env.logind = true)
    (self : s.self = u.copyPasswdEntries pent spent icon)
    (files : s.world.files = f.lockShadow name.val true)
    (calm_of : calm → s.world.faults.readShadow = .const true ∧ s.world.faults.write = .const none) :
    wp (removeUser env remHomeDir) (fun r t => s.world.Balanced t.world ∧
      UserDeleted calm u env remHomeDir euid f r t.world.files) s := by
  rw [removeUser, wp_bind]
  refine wp_mono (wp_deleteUserinfo env.config) ?_
  rintro _ t₁ ⟨self₁, balanced₁, same₁⟩
  rw [files] at same₁
  rw [self] at self₁
  have any : (t₁.world.files.shadow.any fun e => name.val = e.spNamp) = true := by
    rw [same₁.shadow, Files.any_spNamp_lockShadow, located.any_shadow]
  rw [wp_bind]
  refine wp_mono (wp_deleteEntries located self₁ same₁.passwd any) ?_
  rintro ok t₂ ⟨self₂, balanced₂, removed⟩
  rw [self₁] at self₂
  have balanced := balanced₁.trans balanced₂
  rw [wp_guard]
  rcases removed with ⟨rfl, faulty, removed⟩ | ⟨rfl, removed⟩
  · refine ⟨fun _ => ?_, by simp⟩
    rw [wp_bind]
    refine wp_mono (writesAs_lockUser _ false t₂ rfl) ?_
    rintro ok t₃ ⟨self₃, balanced₃, unlocked⟩
    refine ⟨balanced.trans balanced₃, .interrupted
      (fun calm => faulty (balanced₁.write (calm_of calm).2)) located terminated same₁ removed ?_⟩
    have any₂ : (t₂.world.files.shadow.any fun e => name.val = e.spNamp) = true := by
      rcases removed with same | same <;> rw [same] <;> exact any
    rw [self₂, rewriteLock located.loaded, if_pos any₂] at unlocked
    rcases unlocked with ⟨-, same, -⟩ | ⟨-, unlocked⟩
    · exact Or.inl same
    · exact Or.inr (Except.ok.inj unlocked).symm
  · refine ⟨by simp, fun _ => ?_⟩
    have gid : (u.copyPasswdEntries pent spent icon).pw.pwGid = pent.pwGid := rfl
    simp only [deleteGroup, wp_bind, wp_getSelf, wp_liftM, wp_runOn, wp_pure, self₂, gid]
    refine wp_mono (GumdDaemonGroup.gumdDaemonGroupDelete_spec (balanced.read readable) env) ?_
    rintro ok t₃ ⟨balanced₃, deleted⟩
    have calm₂ : calm → t₂.world.Calm := fun h =>
      .of_held (balanced.lockCount ▸ held) (balanced.readShadow (calm_of h).1)
        (balanced.write (calm_of h).2)
    have balanced := balanced.trans balanced₃
    simp only [removed] at deleted
    replace deleted := deleted.mono calm₂
    rw [wp_guard]
    cases ok with
    | false => exact ⟨fun _ => ⟨balanced, .noGroup located terminated same₁ deleted⟩, by simp⟩
    | true =>
      refine ⟨by simp, fun _ => ?_⟩
      rw [wp_bind, wp_getSelf]
      simp only [located.loaded, ptr_some]
      rw [wp_bind, wp_liftM]
      refine wp_mono (gumdDaemonGroupDeleteUserMembership_spec _ _) ?_
      rintro ok t₄ ⟨balanced₄, parted⟩
      have calm₃ : calm → t₃.world.Calm := fun h =>
        .of_held (balanced.lockCount ▸ held) (balanced.readShadow (calm_of h).1)
          (balanced.write (calm_of h).2)
      replace parted := parted.mono calm₃
      have balanced := balanced.trans balanced₄
      rw [wp_guard]
      cases ok with
      | false =>
        exact ⟨fun _ => ⟨balanced, .memberships (parted.faulty name.property) located terminated
          same₁ deleted parted⟩, by simp⟩
      | true =>
        refine ⟨by simp, fun _ => ?_⟩
        have ended : UserDeleted calm u env remHomeDir euid f _ _ :=
          .ended located terminated same₁ deleted parted
        cases remHomeDir with
        | false => exact ⟨balanced, ended⟩
        | true =>
          refine wp_mono (wp_deleteHomeDir env) ?_
          rintro ok t₅ ⟨rfl, -, quiet₅⟩
          refine ⟨balanced.trans quiet₅.balanced, ?_⟩
          rw [quiet₅.files]
          exact ended

/-- Every way `gumd_daemon_user_delete` can end. -/
theorem gumdDaemonUserDelete_spec (readable : s.world.faults.read = .const true) (env : Env)
    (remHomeDir : Bool) :
    wp (gumdDaemonUserDelete env remHomeDir) (fun r t => s.world.Balanced t.world ∧
      UserDeleted s.world.Calm s.self env remHomeDir s.world.afterLock.process.euid s.world.files r t.world.files) s := by
  refine wp_locked (fun denied t files => ?_) fun granted t self world => ?_
  · simp only [wp_liftM, wp_gumReturnWithError]
    exact ⟨.error _ _, .refused fun calm => by simp [calm.granted] at denied⟩
  have files : t.world.files = s.world.files := by rw [world, World.files_afterLock]
  have calm_of : s.world.Calm → t.world.faults.readShadow = .const true ∧ t.world.faults.write = .const none :=
    fun calm => by
      rw [world, World.readShadow_afterLock, World.write_afterLock]
      exact ⟨calm.readShadow, calm.write⟩
  have readable₀ : t.world.faults.read = .const true := by rwa [world, World.read_afterLock]
  have held : t.world.process.lockCount ≠ 0 := by
    rw [world, World.lockCount_afterLock, if_pos granted]
    exact Nat.succ_ne_zero _
  simp only [wp_bind, wp_getSelf, wp_ite, self]
  refine ⟨fun invalid => unlockReturnWithError_spec _ (.refl _) ?_, fun valid => ?_⟩
  · rw [files]
    exact .refused fun _ name pent spent located => absurd invalid located.valid
  refine wp_mono (wp_copyPasswdData readable₀ env) ?_
  rintro ok t₁ ⟨loaded, ⟨quiet₁, process₁⟩⟩
  rw [self, files] at loaded
  generalize self₁ : t₁.self = object at loaded
  rw [wp_guard]
  cases loaded with
  | missing absent =>
    refine ⟨fun _ => unlockReturnWithError_spec _ quiet₁.balanced ?_, by simp⟩
    rw [quiet₁.files, files]
    refine .refused fun calm name pent spent located => ?_
    have none := absent (calm_of calm).1 pent located.entry
    simp [located.shadow] at none
  | @found pent spent icon entry shadow answer =>
  refine ⟨by simp, fun _ => ?_⟩
  have uid : (s.self.copyPasswdEntries pent spent icon).pw.pwUid = pent.pwUid := rfl
  have euid : t₁.world.process.euid = s.world.afterLock.process.euid := by rw [process₁, world]
  simp only [wp_bind, wp_get, wp_ite, self₁, uid, euid]
  refine ⟨fun own => unlockReturnWithError_spec _ quiet₁.balanced ?_, fun notOwn => ?_⟩
  · rw [quiet₁.files, files]
    refine .refused fun _ name pent' spent' located => ?_
    obtain rfl : pent = pent' := Option.some.inj (entry.symm.trans located.entry)
    exact located.notSelf own
  have files₁ : t₁.world.files = s.world.files := quiet₁.files.trans files
  refine wp_mono (writesAs_lockUser _ true t₁ rfl) ?_
  rintro ok t₂ ⟨self₂, balanced₂, written⟩
  have balanced := quiet₁.balanced.trans balanced₂
  rw [self₁] at self₂ written
  rw [files₁] at written
  rw [wp_guard]
  by_cases accepted : gumValidateName (some pent.pwName) = .ok ()
  swap
  · -- an entry whose name the validator rejects cannot be locked
    have unnamed : (s.self.copyPasswdEntries pent spent icon).pw.pwName = none := by
      rw [← ptr_eq_none, loaded_name entry, if_neg accepted]
    rw [rewriteLock_none unnamed] at written
    rcases written with ⟨rfl, same, -⟩ | ⟨-, written⟩
    · refine ⟨fun _ => unlockReturnWithError_spec _ balanced ?_, by simp⟩
      rw [same]
      refine .refused fun _ name pent' spent' located => ?_
      obtain rfl : pent = pent' := Option.some.inj (entry.symm.trans located.entry)
      exact accepted (located.name ▸ name.property)
    · cases written
  have located : s.self.Located s.world.afterLock.process.euid s.world.files ⟨_, accepted⟩ pent
      spent := ⟨valid, entry, shadow, rfl, notOwn⟩
  rw [rewriteLock located.loaded, if_pos located.any_shadow] at written
  rcases written with ⟨rfl, same, why⟩ | ⟨rfl, written⟩
  · refine ⟨fun _ => unlockReturnWithError_spec _ balanced ?_, by simp⟩
    rw [same]
    refine .refused fun calm => ?_
    obtain ⟨_, error⟩ := why (quiet₁.balanced.write (calm_of calm).2)
    cases error
  have locked := (Except.ok.inj written).symm
  refine ⟨by simp, fun _ => ?_⟩
  rw [wp_guard]
  refine ⟨fun alive => ?_, fun terminated => ?_⟩
  · rw [wp_bind]
    refine wp_mono (writesAs_lockUser _ false t₂ rfl) ?_
    rintro ok t₃ ⟨self₃, balanced₃, unlocked⟩
    refine unlockReturnWithError_spec _ (balanced.trans balanced₃) ?_
    rw [self₂, locked, rewriteLock located.loaded,
      if_pos (Files.any_spNamp_lockShadow.trans located.any_shadow)] at unlocked
    refine .survived located alive ?_
    rcases unlocked with ⟨-, same, why⟩ | ⟨-, unlocked⟩
    · refine Or.inr ⟨fun calm => ?_, same⟩
      obtain ⟨_, error⟩ := why (balanced.write (calm_of calm).2)
      cases error
    · exact Or.inl (Except.ok.inj unlocked).symm
  · rw [wp_bind]
    refine wp_mono (wp_removeUser (balanced.read readable₀) (balanced.lockCount ▸ held) located
      terminated self₂ locked fun calm =>
        ⟨balanced.readShadow (calm_of calm).1, balanced.write (calm_of calm).2⟩) ?_
    rintro r t₃ ⟨balanced₃, deleted⟩
    exact unlockReturn_spec (balanced.trans balanced₃) deleted

end GumdDaemonUser

end Gumd
