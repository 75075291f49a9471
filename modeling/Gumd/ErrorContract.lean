import Gumd.Lib.Reports
import Gumd.LockBalance

/-!
# Results and errors

The operations of the core return whether they have succeeded and take a `GError`.  All but three of
them leave it alone when they succeed, and set it when they fail.
-/

namespace Gumd

open StateWp EntryLoop Reports

/-- The error of an operation. -/
def St.error {O : Type} (s : St O) : Option GError := s.world.error

/-! ## Steps of the world -/

section World

variable {α ε : Type}

theorem mute_openFile : Mute World.error openFile := fun _ => rfl

theorem mute_openShadowFile : Mute World.error openShadowFile := fun _ => rfl

theorem mute_gumFileLookup {fopen : StateM World Bool} (opens : Mute World.error fopen)
    (found : Files → Option ε) : Mute World.error (gumFileLookup fopen found) := by
  apply opens.bind
  intro opened
  apply Mute.ite
  · exact Mute.bind (m := get) (fun _ => rfl) fun _ => .pure _
  · exact .pure _

theorem mute_gumFileGetpwnam (username : Option Str) :
    Mute World.error (gumFileGetpwnam username) := by
  cases username with
  | none => exact .pure _
  | some name => exact mute_gumFileLookup mute_openFile _

theorem mute_gumFileGetpwuid (uid : UInt32) : Mute World.error (gumFileGetpwuid uid) :=
  mute_gumFileLookup mute_openFile _

theorem mute_gumFileFindUserByGid (gid : UInt32) : Mute World.error (gumFileFindUserByGid gid) :=
  .ite (.pure _) (mute_gumFileLookup mute_openFile _)

theorem mute_gumFileGetspnam (username : Option Str) :
    Mute World.error (gumFileGetspnam username) := by
  cases username with
  | none => exact .pure _
  | some name => exact mute_gumFileLookup mute_openShadowFile _

theorem mute_gumFileGetgrnam (grname : Option Str) : Mute World.error (gumFileGetgrnam grname) := by
  cases grname with
  | none => exact .pure _
  | some name => exact mute_gumFileLookup mute_openFile _

theorem mute_gumFileGetgrgid (gid : UInt32) : Mute World.error (gumFileGetgrgid gid) :=
  mute_gumFileLookup mute_openFile _

theorem mute_gumFileGetsgnam (grname : Option Str) : Mute World.error (gumFileGetsgnam grname) := by
  cases grname with
  | none => exact .pure _
  | some name =>
    apply Mute.bind (m := get) fun _ => rfl
    intro w
    exact .ite (.pure _) (mute_gumFileLookup mute_openShadowFile _)

theorem mute_lookupIf {c : Prop} [Decidable c] {m : StateM World (Option ε)}
    (mute : Mute World.error m) (other : Option ε) : Mute World.error (lookupIf c m other) :=
  .ite mute (.pure _)

theorem mute_findFreeLoop {lookup : UInt32 → StateM World (Option ε)}
    (mute : ∀ id, Mute World.error (lookup id)) (idMax : UInt32) (fuel : Nat) (start : UInt32) :
    Mute World.error (findFreeLoop lookup idMax fuel start) := by
  induction fuel generalizing start with
  | zero => exact .pure _
  | succ fuel ih =>
    apply Mute.ite
    · apply (mute start).bind
      intro found
      exact .ite (.pure _) (ih _)
    · exact .pure _

theorem mute_gumLockPwdfLock : Mute World.error gumLockPwdfLock := by
  intro w
  simp only [gumLockPwdfLock, wp_bind, wp_get, wp_ite, wp_set, wp_pure]
  exact ⟨fun _ => ⟨fun _ => trivial, fun _ => trivial⟩, fun _ => trivial⟩

theorem mute_gumLockPwdfUnlock : Mute World.error gumLockPwdfUnlock := by
  intro w
  simp only [gumLockPwdfUnlock, wp_bind, wp_get, wp_ite, wp_set, wp_pure]
  exact ⟨fun _ => trivial,
    fun _ => ⟨fun _ => ⟨fun _ => trivial, fun _ => trivial⟩, fun _ => trivial⟩⟩

/-- Nothing is reported through a `NULL` error. -/
theorem mute_withNullError (m : StateM World α) : Mute World.error (withNullError m) := fun _ => rfl

theorem error_afterLock (w : World) : w.afterLock.error = w.error := mute_gumLockPwdfLock w

theorem error_afterUnlock (w : World) : w.afterUnlock.error = w.error := mute_gumLockPwdfUnlock w

/-- A return with an error fails, whatever error was set before. -/
theorem fails_gumReturnWithError {success : α → Prop} (e : GError) {retval : α}
    (bad : ¬success retval) (w : World) :
    wp (gumReturnWithError e retval) (fun r t => ¬success r ∧ t.error.isSome = true) w :=
  ⟨bad, rfl⟩

theorem reporting_gumReturnWithError {success : α → Prop} (e : GError) {retval : α}
    (bad : ¬success retval) : Reporting World.error success (gumReturnWithError e retval) :=
  .of_failing (fails_gumReturnWithError e bad)

theorem reporting_gumReturnValidated (result : Except GError Unit) :
    Reporting World.error (· = true) (gumReturnValidated result) := by
  cases result with
  | ok _ => exact .pure rfl
  | error e => exact reporting_gumReturnWithError e Bool.false_ne_true

theorem reporting_gumFileUpdate (file : DbFile ε) (callback : List ε → Except GError (List ε)) :
    Reporting World.error (· = true) (gumFileUpdate file callback) := by
  intro w
  simp only [gumFileUpdate, wp_bind, wp_get, wp_set]
  cases file.entries w.files with
  | none => exact Or.inr ⟨Bool.false_ne_true, rfl⟩
  | some entries =>
    dsimp only
    cases updateOutcome w.faults.write.head (callback entries) with
    | error e => exact Or.inr ⟨Bool.false_ne_true, rfl⟩
    | ok out => exact Or.inl ⟨rfl, rfl⟩

end World

/-! ## Steps of the operations -/

section Steps

variable {O α β : Type} {success : α → Prop}

theorem mute_lift {m : StateM World α} (mute : Mute World.error m) :
    Mute St.error (liftM m : GumM O α) :=
  fun s => mute s.world

theorem reporting_lift {m : StateM World α} (reports : Reporting World.error success m) :
    Reporting St.error success (liftM m : GumM O α) :=
  fun s => reports s.world

theorem reporting_runOn {object : O} {m : GumM O α} (reports : Reporting St.error success m) :
    Reporting World.error (fun r : α × O => success r.1) (runOn object m) :=
  fun w => reports ⟨object, w⟩

theorem mute_getSelf : Mute St.error (getSelf : GumM O O) := rewrites_getSelf (frame_mute _)

theorem mute_modifySelf (f : O → O) : Mute St.error (modifySelf f) := fun _ => rfl

theorem mute_get : Mute St.error (get : GumM O (St O)) := fun _ => rfl

theorem mute_unlockReturn (retval : α) : Mute St.error (unlockReturn retval : GumM O α) :=
  fun s => error_afterUnlock s.world

/-- The lock is released on the way out of a success. -/
theorem reporting_unlockReturn {retval : α} (good : success retval) :
    Reporting St.error success (unlockReturn retval : GumM O α) :=
  (mute_unlockReturn retval).reporting fun _ => good

/-- The lock is released on the way out of a failure. -/
theorem failing_unlockReturn {retval : α} (bad : ¬success retval) :
    Failing St.error success (unlockReturn retval : GumM O α) :=
  (mute_unlockReturn retval).failing fun _ => bad

theorem fails_unlockReturnWithError (e : GError) {retval : α} (bad : ¬success retval) (s : St O) :
    wp (unlockReturnWithError e retval : GumM O α)
      (fun r t => ¬success r ∧ (St.error t).isSome = true) s := by
  rw [wp_unlockReturnWithError]
  exact ⟨bad, rfl⟩

theorem reporting_unlockReturnWithError (e : GError) {retval : α} (bad : ¬success retval) :
    Reporting St.error success (unlockReturnWithError e retval : GumM O α) :=
  .of_failing (fails_unlockReturnWithError e bad)

/-- An early return with an error. -/
theorem fails_refusal (e : GError) {retval : α} (bad : ¬success retval) (s : St O) :
    wp (liftM (gumReturnWithError e retval) : GumM O α)
      (fun r t => ¬success r ∧ (St.error t).isSome = true) s :=
  ⟨bad, rfl⟩

theorem reporting_refusal (e : GError) {retval : α} (bad : ¬success retval) :
    Reporting St.error success (liftM (gumReturnWithError e retval) : GumM O α) :=
  .of_failing (fails_refusal e bad)

/-- An early return without an error of its own. -/
theorem failing_pure {retval : α} (bad : ¬success retval) :
    Failing St.error success (pure retval : GumM O α) :=
  (Mute.pure retval).failing fun _ => bad

/-- An operation under the lock. -/
theorem reporting_locked {exit body : GumM O α} (refused : Reporting St.error success exit)
    (reports : Reporting St.error success body) :
    Reporting St.error success
      (liftM gumLockPwdfLock >>= fun ok => if !ok then exit else body) := by
  apply Reporting.after (mute_lift mute_gumLockPwdfLock)
  intro granted
  exact .ite (fun _ => refused) fun _ => reports

end Steps

/-! ## Groups -/

namespace GumdDaemonGroup

theorem reporting_getGroup : Reporting St.error (·.isSome = true) getGroup := by
  apply Reporting.after mute_getSelf
  intro self
  apply Reporting.after (mute_lift (mute_lookupIf (mute_gumFileGetgrgid _) _))
  intro byGid
  apply Reporting.after (mute_lift (mute_lookupIf (mute_gumFileGetgrnam _) _))
  intro grp
  cases grp.filter self.group.agrees with
  | none => exact reporting_refusal _ (by simp)
  | some entry => exact .pure (by simp)

theorem mute_findFreeGid (config : GumConfig) (preferredGid : UInt32) :
    Mute St.error (findFreeGid config preferredGid) := by
  rw [findFreeGid]
  apply Mute.ite
  on_goal 1 =>
    apply (mute_lift (mute_gumFileGetgrgid _)).bind
    intro found
    apply Mute.ite (.pure _)
  all_goals
    apply mute_getSelf.bind
    intro self
    cases getDefaultGidRange config self with
    | none => exact .pure _
    | some range => exact mute_lift (mute_findFreeLoop mute_gumFileGetgrgid _ _ _)

theorem reporting_setGid (config : GumConfig) (preferredGid : UInt32) :
    Reporting St.error (· = true) (setGid config preferredGid) := by
  apply Reporting.after mute_getSelf
  intro self
  apply (reporting_lift (reporting_gumReturnValidated _)).guard
    (failing_pure (by simp))
  apply Reporting.after (mute_lift (mute_gumFileGetgrnam _))
  intro taken
  apply Reporting.ite fun _ => reporting_refusal _ (by simp)
  intro _
  apply Reporting.after (mute_findFreeGid config preferredGid)
  intro found
  cases found.join with
  | none => exact reporting_refusal _ (by simp)
  | some gid => exact .after (mute_modifySelf _) fun _ => .pure (by simp)

theorem reporting_setSecret (env : Env) : Reporting St.error (· = true) (setSecret env) := by
  apply Reporting.after mute_getSelf
  intro self
  cases self.group.grPasswd with
  | none => exact .after (mute_modifySelf _) fun _ => .pure (by simp)
  | some secret =>
    apply Reporting.after (mute_modifySelf _)
    intro _
    apply Reporting.ite fun _ => reporting_refusal _ (by simp)
    intro _
    exact .after (mute_modifySelf _) fun _ => .pure (by simp)

theorem reporting_setGshadowData (env : Env) :
    Reporting St.error (· = true) (setGshadowData env) := by
  apply Reporting.after (mute_modifySelf _)
  intro _
  apply (reporting_setSecret env).guard (failing_pure (by simp))
  exact .after (mute_modifySelf _) fun _ => .pure (by simp)

theorem reporting_checkGroupType : Reporting St.error (· = true) checkGroupType := by
  apply Reporting.after mute_getSelf
  intro self
  apply Reporting.ite
  · exact fun _ => .pure (by simp)
  · exact fun _ => reporting_refusal _ (by simp)

/-- Entries that are given are not looked up, so nothing can be missing. -/
theorem reporting_copyGroupData (gent : Option Group) (sgent : Option Sgrp) :
    Reporting St.error (· = true) (copyGroupData gent sgent) := by
  have search : Reporting St.error (·.isSome = true)
      (if gent.isNone then getGroup else pure gent : GroupM (Option Group)) := by
    apply Reporting.ite fun _ => reporting_getGroup
    intro given
    exact .pure (by simpa [Option.isSome_iff_ne_none] using given)
  apply search.found
  · exact failing_pure (by simp)
  intro entry
  apply Reporting.after (mute_lift (mute_lookupIf (mute_gumFileGetsgnam _) _))
  intro sentry
  exact .after (mute_modifySelf _) fun _ => .pure (by simp)

theorem reporting_updateGroupFile (op : GumOpType) (userData : Option Str) :
    Reporting St.error (· = true) (updateGroupFile op userData) := by
  apply Reporting.after mute_getSelf
  intro self
  exact reporting_lift (reporting_gumFileUpdate _ _)

theorem reporting_updateGshadowFileIf (wanted : Bool) (op : GumOpType) (userData : Option Str) :
    Reporting St.error (· = true) (updateGshadowFileIf wanted op userData) := by
  apply Reporting.ite fun _ => .pure (by simp)
  intro _
  apply Reporting.after mute_getSelf
  intro self
  exact reporting_lift (reporting_gumFileUpdate _ _)

theorem reporting_updateGshadowFile (op : GumOpType) (userData : Option Str) :
    Reporting St.error (· = true) (updateGshadowFile op userData) :=
  .after mute_get fun _ => reporting_updateGshadowFileIf _ op userData

/-- The two rewrites an operation on a group ends with. -/
theorem reporting_rewrites {α : Type} {success : α → Prop} {failed : α} {m : GroupM α}
    (op : GumOpType) (userData : Option Str) (bad : ¬success failed)
    {gshadow : GroupM Bool} (second : Reporting St.error (· = true) gshadow)
    (done : Reporting St.error success m) :
    Reporting St.error success (updateGroupFile op userData >>= fun ok =>
      if !ok then unlockReturn failed else gshadow >>= fun ok =>
        if !ok then unlockReturn failed else m) := by
  apply (reporting_updateGroupFile op userData).guard (failing_unlockReturn bad)
  exact second.guard (failing_unlockReturn bad) done

theorem reporting_gumdDaemonGroupAdd (env : Env) (preferredGid : UInt32) :
    Reporting St.error (·.isSome = true) (gumdDaemonGroupAdd env preferredGid) := by
  apply reporting_checkGroupType.guard (failing_pure (by simp))
  apply reporting_locked (reporting_refusal _ (by simp))
  apply (reporting_setGid _ _).guard (failing_unlockReturn (by simp))
  apply (reporting_setGshadowData env).guard (failing_unlockReturn (by simp))
  apply reporting_rewrites .add none (by simp) (reporting_updateGshadowFile _ _)
  exact .after mute_getSelf fun _ => reporting_unlockReturn (by simp)

theorem reporting_gumdDaemonGroupDelete (env : Env) :
    Reporting St.error (· = true) (gumdDaemonGroupDelete env) := by
  apply reporting_locked (reporting_refusal _ (by simp))
  apply Reporting.after mute_getSelf
  intro self
  apply Reporting.ite fun _ => reporting_unlockReturnWithError _ (by simp)
  intro _
  apply (reporting_copyGroupData _ _).guard (failing_unlockReturn (by simp))
  apply Reporting.after mute_getSelf
  intro self
  apply Reporting.ite fun _ => reporting_unlockReturnWithError _ (by simp)
  intro _
  apply Reporting.after mute_getSelf
  intro self
  apply Reporting.after (mute_lift (mute_gumFileFindUserByGid _))
  intro used
  apply Reporting.ite fun _ => reporting_unlockReturn (by simp)
  intro _
  exact reporting_rewrites .delete none (by simp) (reporting_updateGshadowFile _ _)
    (reporting_unlockReturn (by simp))

theorem reporting_gumdDaemonGroupUpdate (env : Env) :
    Reporting St.error (· = true) (gumdDaemonGroupUpdate env) := by
  apply reporting_locked (reporting_refusal _ (by simp))
  apply Reporting.after mute_getSelf
  intro self
  apply Reporting.ite fun _ => reporting_unlockReturnWithError _ (by simp)
  intro _
  apply reporting_getGroup.found
  · exact failing_unlockReturn (by simp)
  intro grp
  apply Reporting.after (mute_lift (mute_gumFileGetsgnam _))
  intro gshadow
  apply Reporting.after mute_getSelf
  intro self
  apply Reporting.ite fun _ => reporting_unlockReturnWithError _ (by simp)
  intro _
  apply Reporting.after (mute_modifySelf _)
  intro _
  apply (reporting_setSecret env).guard (failing_unlockReturn (by simp))
  exact reporting_rewrites .modify _ (by simp) (reporting_updateGshadowFile _ _)
    (reporting_unlockReturn (by simp))

theorem reporting_gumdDaemonGroupAddMember (uid : UInt32) (addAsAdmin : Bool) :
    Reporting St.error (· = true) (gumdDaemonGroupAddMember uid addAsAdmin) := by
  apply reporting_locked (reporting_refusal _ (by simp))
  apply Reporting.after (mute_lift (mute_gumFileGetpwuid _))
  intro pent
  cases pent with
  | none => exact reporting_unlockReturnWithError _ (by simp)
  | some pent =>
    apply reporting_getGroup.found
    · exact failing_unlockReturn (by simp)
    intro grp
    apply Reporting.ite fun _ => reporting_unlockReturnWithError _ (by simp)
    intro _
    apply Reporting.after (mute_lift (mute_gumFileGetsgnam _))
    intro gshadow
    apply (reporting_copyGroupData _ _).guard (failing_unlockReturn (by simp))
    apply Reporting.after (mute_modifySelf _)
    intro _
    exact reporting_rewrites .modify none (by simp) (reporting_updateGshadowFileIf _ _ _)
      (reporting_unlockReturn (by simp))

theorem reporting_gumdDaemonGroupDeleteMember (uid : UInt32) :
    Reporting St.error (· = true) (gumdDaemonGroupDeleteMember uid) := by
  apply reporting_locked (reporting_refusal _ (by simp))
  apply Reporting.after (mute_lift (mute_gumFileGetpwuid _))
  intro pent
  cases pent with
  | none => exact reporting_unlockReturnWithError _ (by simp)
  | some pent =>
    apply reporting_getGroup.found
    · exact failing_unlockReturn (by simp)
    intro grp
    apply Reporting.ite fun _ => reporting_unlockReturnWithError _ (by simp)
    intro _
    apply Reporting.after (mute_lift (mute_gumFileGetsgnam _))
    intro gshadow
    apply (reporting_copyGroupData _ _).guard (failing_unlockReturn (by simp))
    apply Reporting.after (mute_modifySelf _)
    intro _
    exact reporting_rewrites .modify none (by simp) (reporting_updateGshadowFile _ _)
      (reporting_unlockReturn (by simp))

end GumdDaemonGroup

/-! ## Users -/

namespace GumdDaemonUser

theorem reporting_setDaemonUserName (env : Env) :
    Reporting St.error (· = true) (setDaemonUserName env) := by
  apply Reporting.after mute_getSelf
  intro self
  apply Reporting.ite fun _ => reporting_refusal _ (by simp)
  intro _
  apply Reporting.ite
  · intro _
    apply (reporting_lift (reporting_gumReturnValidated _)).guard (failing_pure (by simp))
    exact .after (mute_modifySelf _) fun _ => .pure (by simp)
  · intro _
    apply Reporting.ite fun _ => reporting_refusal _ (by simp)
    intro _
    cases generated : gumValidateGenerateUsername env.md5 (ptr self.nickName) with
    | error e => exact reporting_refusal _ (by simp)
    | ok tname =>
      -- the setter accepts a generated name, so the name is there
      intro s
      simp only [wp_bind, wp_modifySelf, wp_getSelf,
        pwName_setUsernameProperty (gumValidateName_generated generated), Option.isNone_some,
        Bool.false_eq_true, if_false, wp_pure]
      exact Or.inl ⟨trivial, rfl⟩

theorem mute_findFreeUid (config : GumConfig) : Mute St.error (findFreeUid config) := by
  apply mute_getSelf.bind
  intro self
  cases getDefaultUidRange config self.usertype with
  | none => exact .pure _
  | some range => exact mute_lift (mute_findFreeLoop mute_gumFileGetpwuid _ _ _)

theorem reporting_setUid (env : Env) : Reporting St.error (· = true) (setUid env) := by
  apply (reporting_setDaemonUserName env).guard (failing_pure (by simp))
  apply Reporting.after mute_getSelf
  intro self
  apply Reporting.after (mute_lift (mute_gumFileGetpwnam _))
  intro taken
  apply Reporting.ite fun _ => reporting_refusal _ (by simp)
  intro _
  apply Reporting.after (mute_findFreeUid _)
  intro found
  cases found.join with
  | none => exact reporting_refusal _ (by simp)
  | some uid =>
    apply Reporting.after (mute_modifySelf _)
    intro _
    apply Reporting.after mute_getSelf
    intro self
    apply Reporting.ite
    · exact fun _ => .after (mute_modifySelf _) fun _ => .pure (by simp)
    · exact fun _ => .pure (by simp)

theorem reporting_setSecret (env : Env) : Reporting St.error (· = true) (setSecret env) := by
  apply Reporting.after mute_getSelf
  intro self
  cases self.pw.pwPasswd with
  | none => exact .after (mute_modifySelf _) fun _ => .pure (by simp)
  | some secret =>
    apply Reporting.after (mute_modifySelf _)
    intro _
    apply Reporting.ite fun _ => reporting_refusal _ (by simp)
    intro _
    exact .after (mute_modifySelf _) fun _ => .pure (by simp)

theorem reporting_setShadowData (env : Env) :
    Reporting St.error (· = true) (setShadowData env) := by
  apply Reporting.after (mute_modifySelf _)
  intro _
  apply (reporting_setSecret env).guard (failing_pure (by simp))
  exact .after (mute_modifySelf _) fun _ => .pure (by simp)

theorem reporting_setGroup (env : Env) : Reporting St.error (· = true) (setGroup env) := by
  apply Reporting.after mute_getSelf
  intro self
  apply Reporting.after (mute_lift (mute_gumFileGetgrnam _))
  intro found
  cases found with
  | some grp => exact .after (mute_modifySelf _) fun _ => .pure (by simp)
  | none =>
    apply (reporting_lift
      (reporting_runOn (GumdDaemonGroup.reporting_gumdDaemonGroupAdd env _))).check
    · intro result failed
      obtain ⟨gid, group⟩ := result
      cases gid with
      | none => exact failing_pure (by simp)
      | some gid => exact absurd rfl failed
    · intro result added
      obtain ⟨gid, group⟩ := result
      cases gid with
      | none => cases added
      | some gid => exact .after (mute_modifySelf _) fun _ => .pure (by simp)

theorem reporting_returnOutcome (outcome : Option GError) :
    Reporting World.error (· = true) (returnOutcome outcome) := by
  cases outcome with
  | none => exact .pure rfl
  | some e => exact reporting_gumReturnWithError e Bool.false_ne_true

theorem reporting_deleteHomeDir (env : Env) :
    Reporting St.error (· = true) (deleteHomeDir env) := by
  apply Reporting.after mute_getSelf
  intro self
  apply Reporting.ite fun _ => .pure (by simp)
  exact fun _ => reporting_lift (reporting_returnOutcome _)

theorem reporting_deleteGroup (env : Env) : Reporting St.error (· = true) (deleteGroup env) := by
  apply Reporting.after mute_getSelf
  intro self
  exact (reporting_lift (reporting_runOn
    (GumdDaemonGroup.reporting_gumdDaemonGroupDelete env))).map fun _ => Iff.rfl

/-! ### The user information file -/

theorem mute_writeUserinfo (info : Option Userinfo) : Mute St.error (writeUserinfo info) := by
  intro s
  simp only [writeUserinfo, wp_bind, wp_get, wp_ite, wp_set, wp_pure]
  exact ⟨fun _ => rfl, fun _ => rfl⟩

theorem mute_deleteUserinfo (config : GumConfig) : Mute St.error (deleteUserinfo config) :=
  .ite ((mute_writeUserinfo _).bind fun _ => .pure _) (.pure _)

theorem mute_addUserinfo (config : GumConfig) : Mute St.error (addUserinfo config) :=
  .ite (.pure _) (mute_getSelf.bind fun _ => mute_writeUserinfo _)

theorem mute_getUserinfo (config : GumConfig) : Mute St.error (getUserinfo config) := by
  apply Mute.ite (.pure _)
  apply mute_getSelf.bind
  intro self
  apply (mute_lift (mute_gumFileLookup mute_openShadowFile _)).bind
  intro found
  cases found with
  | none => exact .pure _
  | some info => exact .pure _

theorem mute_updateUserinfo (config : GumConfig) (icon : Option Str) :
    Mute St.error (updateUserinfo config icon) := by
  apply Mute.ite (.pure _)
  apply mute_getSelf.bind
  intro self
  apply (mute_lift (mute_gumFileLookup mute_openShadowFile _)).bind
  exact fun _ => mute_writeUserinfo _

theorem mute_updateIcon (env : Env) : Mute St.error (updateIcon env) := by
  apply (mute_getUserinfo _).bind
  intro icon
  apply mute_getSelf.bind
  intro self
  apply Mute.ite _ (.pure _)
  apply mute_getSelf.bind
  intro self
  exact (mute_updateUserinfo _ _).bind fun _ => .pure _

/-! ### The entries -/

theorem reporting_getPasswd : Reporting St.error (·.isSome = true) getPasswd := by
  apply Reporting.after mute_getSelf
  intro self
  apply Reporting.after (mute_lift (mute_lookupIf (mute_gumFileGetpwuid _) _))
  intro byUid
  apply Reporting.after (mute_lift (mute_lookupIf (mute_gumFileGetpwnam _) _))
  intro pwd
  cases pwd.filter self.pw.agrees with
  | none => exact reporting_refusal _ (by simp)
  | some entry => exact .pure (by simp)

theorem reporting_copyPasswdData (env : Env) :
    Reporting St.error (· = true) (copyPasswdData env) := by
  apply reporting_getPasswd.found
  · exact failing_pure (by simp)
  intro pent
  apply Reporting.after (mute_lift (mute_gumFileGetspnam _))
  intro shadow
  cases shadow with
  | none => exact reporting_refusal _ (by simp)
  | some spent =>
    apply Reporting.after (mute_getUserinfo _)
    intro icon
    exact .after (mute_modifySelf _) fun _ => .pure (by simp)

theorem reporting_updatePasswdFile (op : GumOpType) (userData : Option Str) :
    Reporting St.error (· = true) (updatePasswdFile op userData) :=
  .after mute_getSelf fun _ => reporting_lift (reporting_gumFileUpdate _ _)

theorem reporting_updateShadowFile (op : GumOpType) (userData : Option Str) :
    Reporting St.error (· = true) (updateShadowFile op userData) :=
  .after mute_getSelf fun _ => reporting_lift (reporting_gumFileUpdate _ _)

theorem mute_lockUser (lock : Bool) : Mute St.error (lockUser lock) :=
  mute_getSelf.bind fun _ => mute_lift (mute_withNullError _)

theorem reporting_deleteEntries : Reporting St.error (· = true) deleteEntries :=
  (reporting_updatePasswdFile _ _).guard (failing_pure (by simp)) (reporting_updateShadowFile _ _)

theorem reporting_updateSecret (env : Env) (pw : Passwd) :
    Reporting St.error (· = true) (updateSecret env pw) := by
  apply Reporting.after mute_getSelf
  intro self
  apply Reporting.ite fun _ => reporting_setSecret env
  exact fun _ => .after (mute_modifySelf _) fun _ => .pure (by simp)

theorem reporting_gumdDaemonUserUpdate (env : Env) :
    Reporting St.error (· = true) (gumdDaemonUserUpdate env) := by
  apply reporting_locked (reporting_refusal _ (by simp))
  apply Reporting.after mute_getSelf
  intro self
  apply Reporting.ite fun _ => reporting_unlockReturnWithError _ (by simp)
  intro _
  apply reporting_getPasswd.found
  · exact failing_unlockReturn (by simp)
  intro pw
  apply Reporting.after (mute_lift (mute_gumFileGetspnam _))
  intro shadow
  cases shadow with
  | none => exact reporting_unlockReturnWithError _ (by simp)
  | some shadow =>
    apply Reporting.after (mute_updateIcon env)
    intro iconChange
    apply Reporting.after (mute_modifySelf _)
    intro _
    apply Reporting.after mute_getSelf
    intro self
    apply (reporting_updateSecret env pw).guard (failing_unlockReturn (by simp))
    apply Reporting.after mute_getSelf
    intro self
    apply Reporting.after mute_getSelf
    intro self
    apply Reporting.ite fun _ => reporting_unlockReturnWithError _ (by simp)
    intro _
    apply Reporting.after mute_getSelf
    intro self
    apply Reporting.ite fun _ => reporting_unlockReturnWithError _ (by simp)
    intro _
    apply (reporting_updatePasswdFile _ _).guard (failing_unlockReturn (by simp))
    apply (reporting_updateShadowFile _ _).guard (failing_unlockReturn (by simp))
    exact reporting_unlockReturn (by simp)

end GumdDaemonUser

theorem reporting_gumdDaemonUserGetUserList (config : GumConfig) (types : Option (List Str)) :
    Reporting World.error (·.isSome = true) (gumdDaemonUserGetUserList config types) := by
  apply Reporting.ite fun _ => reporting_gumReturnWithError _ (by simp)
  intro _
  apply Reporting.after mute_gumLockPwdfLock
  intro granted
  apply Reporting.ite fun _ => reporting_gumReturnWithError _ (by simp)
  intro _
  apply Reporting.after mute_openFile
  intro opened
  apply Reporting.ite
  · intro _
    exact .after mute_gumLockPwdfUnlock fun _ => reporting_gumReturnWithError _ (by simp)
  · intro _
    apply Reporting.after (m := get) fun _ => rfl
    intro w
    exact .after mute_gumLockPwdfUnlock fun _ => .pure (by simp)

end Gumd
