import Gumd.Frames
import Gumd.System

/-!
# The rewrites an operation makes

Whatever its lookups and its rewrites come to, an operation changes the files by rewriting them one
after another with its callbacks.  `GroupStep` and `UserStep` are those rewrites, one constructor for
each callback, and every operation is a run of them; what each callback keeps, all operations keep.
-/

namespace Gumd

open StateWp EntryLoop

/-- One rewrite of a group operation. -/
inductive GroupStep : Files → Files → Prop
  | group {f f' : Files} (g : GumdDaemonGroup) (op : GumOpType) (userData : Option Str) :
      groupFile.rewrite (updateDaemonGroupEntry g op userData) f = .ok f' → GroupStep f f'
  | gshadow {f f' : Files} (g : GumdDaemonGroup) (op : GumOpType) (userData : Option Str) :
      gshadowFile.rewrite (updateGshadowEntry g op userData) f = .ok f' → GroupStep f f'
  | groupMembers {f f' : Files} (name : Str) :
      groupFile.rewrite (fun entries => .ok (entries.map (Group.deleteMember name))) f = .ok f' →
      GroupStep f f'
  | gshadowMembers {f f' : Files} (name : Str) :
      gshadowFile.rewrite (fun entries => .ok (entries.map (Sgrp.deleteMember name))) f = .ok f' →
      GroupStep f f'

/-- One rewrite of a user operation, which works on groups as well. -/
inductive UserStep : Files → Files → Prop
  | group {f f' : Files} : GroupStep f f' → UserStep f f'
  | passwd {f f' : Files} (u : GumdDaemonUser) (op : GumOpType) (userData : Option Str) :
      passwdFile.rewrite (updatePasswdEntry u op userData) f = .ok f' → UserStep f f'
  | shadow {f f' : Files} (u : GumdDaemonUser) (op : GumOpType) (userData : Option Str) :
      shadowFile.rewrite (updateShadowEntry u op userData) f = .ok f' → UserStep f f'
  | lock {f f' : Files} (u : GumdDaemonUser) (lock : Bool) :
      shadowFile.rewrite (lockShadowEntry u lock) f = .ok f' → UserStep f f'
  | userinfo {f : Files} (uid : UInt32) (info : Option Userinfo) :
      UserStep f (f.setUserinfo uid info)

/-! ## The parts of an operation -/

/-- A program that changes the files by steps of `R`. -/
abbrev FileSteps {O α : Type} (R : Files → Files → Prop) (m : GumM O α) : Prop :=
  Reaches (fun s : St O => s.world.files) R m

section Parts

variable {O α ε : Type} {R : Files → Files → Prop}

theorem reaches_of_looks {m : StateM World α} (looks : Looks m) : Reaches World.files R m :=
  .of_same (looks.mono fun _ _ quiet => quiet.files)

theorem reaches_gumFileUpdate (file : DbFile ε) (callback : List ε → Except GError (List ε))
    (step : ∀ f f', file.rewrite callback f = .ok f' → R f f') :
    Reaches World.files R (gumFileUpdate file callback) := by
  apply Reaches.of_step
  intro w
  refine wp_mono (gumFileUpdate_spec file callback w) ?_
  intro ok t spec
  rcases spec.2 with ⟨-, same, -⟩ | ⟨-, written⟩
  · exact Or.inl same
  · exact Or.inr (step _ _ written)

theorem reaches_lock : Reaches World.files R gumLockPwdfLock := by
  apply Reaches.of_same
  intro w
  exact World.files_afterLock w

theorem reaches_unlock : Reaches World.files R gumLockPwdfUnlock := by
  apply Reaches.of_same
  intro w
  exact World.files_afterUnlock w

theorem reaches_runOn {object : O} {m : GumM O α} (steps : FileSteps R m) :
    Reaches World.files R (runOn object m) :=
  fun w => steps ⟨object, w⟩

theorem reaches_withNullError {m : StateM World α} (reaches : Reaches World.files R m) :
    Reaches World.files R (withNullError m) := by
  intro w
  rw [wp_withNullError]
  exact reaches w

namespace FileSteps

theorem lift {m : StateM World α} (reaches : Reaches World.files R m) :
    FileSteps R (liftM m : GumM O α) :=
  fun s => reaches s.world

theorem of_looks {m : StateM World α} (looks : Looks m) : FileSteps R (liftM m : GumM O α) :=
  lift (reaches_of_looks looks)

theorem of_same {m : GumM O α} (same : Rewrites (fun s t => t.world.files = s.world.files) m) :
    FileSteps R m :=
  Reaches.of_same same

theorem getSelf : FileSteps R (Gumd.getSelf : GumM O O) := .of_same fun _ => rfl

theorem modifySelf (change : O → O) : FileSteps R (Gumd.modifySelf change) := .of_same fun _ => rfl

theorem unlockReturn (retval : α) : FileSteps R (Gumd.unlockReturn retval : GumM O α) :=
  .bind (lift reaches_unlock) fun _ => .pure _

theorem unlockReturnWithError (e : GError) (retval : α) :
    FileSteps R (Gumd.unlockReturnWithError e retval : GumM O α) :=
  .bind (lift reaches_unlock) fun _ => of_looks (looks_gumReturnWithError e retval)

/-- An early return with an error. -/
theorem refusal (e : GError) (retval : α) :
    FileSteps R (liftM (gumReturnWithError e retval) >>= Pure.pure : GumM O α) :=
  .bind (of_looks (looks_gumReturnWithError e retval)) fun _ => .pure _

/-- An operation that takes the lock first. -/
theorem locked {body : GumM O α} (e : GError) (retval : α) (steps : FileSteps R body) :
    FileSteps R (liftM gumLockPwdfLock >>= fun ok =>
      if !ok then liftM (gumReturnWithError e retval) >>= Pure.pure else body) :=
  .guard (lift reaches_lock) (refusal e retval) steps

end FileSteps

end Parts

/-! ## Group operations -/

namespace GumdDaemonGroup

theorem unmoved_getGroup : Rewrites Unmoved getGroup := by
  apply Rewrites.bind frame_unmoved (rewrites_getSelf frame_unmoved)
  intro self
  apply Rewrites.bind frame_unmoved
    (unmoved_of_looks (looks_lookupIf (looks_gumFileGetgrgid _) _))
  intro byGid
  apply Rewrites.bind frame_unmoved
    (unmoved_of_looks (looks_lookupIf (looks_gumFileGetgrnam _) _))
  intro grp
  cases grp.filter self.group.agrees with
  | none => exact unmoved_of_looks (looks_gumReturnWithError _ _)
  | some entry => exact .pure frame_unmoved _

theorem steps_getGroup {R : Files → Files → Prop} : FileSteps R getGroup :=
  .of_same (unmoved_getGroup.mono fun _ _ unmoved => unmoved.2.files)

theorem steps_copyGroupData {R : Files → Files → Prop} (gent : Option Group)
    (sgent : Option Sgrp) : FileSteps R (copyGroupData gent sgent) := by
  apply Reaches.bind (.ite steps_getGroup (.pure _))
  intro found
  cases found with
  | none => exact .pure _
  | some entry =>
    apply Reaches.bind (FileSteps.of_looks (looks_lookupIf (looks_gumFileGetsgnam _) _))
    intro sentry
    exact .bind (FileSteps.modifySelf _) fun _ => .pure _

theorem steps_setSecret (env : Env) : FileSteps GroupStep (setSecret env) := by
  apply FileSteps.of_same
  intro s
  exact wp_mono (wp_setSecret env) fun _ _ spec => spec.2.2.files

theorem steps_updateGroupFile (op : GumOpType) (userData : Option Str) :
    FileSteps GroupStep (updateGroupFile op userData) := by
  apply Reaches.bind FileSteps.getSelf
  intro self
  exact FileSteps.lift (reaches_gumFileUpdate _ _ fun _ _ written => .group self op userData written)

theorem steps_updateGshadowFileIf (wanted : Bool) (op : GumOpType) (userData : Option Str) :
    FileSteps GroupStep (updateGshadowFileIf wanted op userData) := by
  apply Reaches.ite (.pure _)
  apply Reaches.bind FileSteps.getSelf
  intro self
  exact FileSteps.lift (reaches_gumFileUpdate _ _ fun _ _ written => .gshadow self op userData written)

theorem steps_updateGshadowFile (op : GumOpType) (userData : Option Str) :
    FileSteps GroupStep (updateGshadowFile op userData) := by
  apply Reaches.bind Reaches.get
  intro s
  exact steps_updateGshadowFileIf _ op userData

/-- The rewrites of an operation, with what it returns after them. -/
theorem steps_writeBoth {α : Type} {exit rest : GroupM α} (op : GumOpType)
    (userData : Option Str) (leave : FileSteps GroupStep exit) (stay : FileSteps GroupStep rest) :
    FileSteps GroupStep (updateGroupFile op userData >>= fun ok => if !ok then exit else
      updateGshadowFile op userData >>= fun ok => if !ok then exit else rest) :=
  .guard (steps_updateGroupFile op userData) leave
    (.guard (steps_updateGshadowFile op userData) leave stay)

theorem steps_gumdDaemonGroupAdd (env : Env) (preferredGid : UInt32) :
    FileSteps GroupStep (gumdDaemonGroupAdd env preferredGid) := by
  apply Reaches.guard
  · apply Reaches.bind FileSteps.getSelf
    intro self
    exact .ite (.pure _) (FileSteps.of_looks (looks_gumReturnWithError _ _))
  · exact .pure _
  apply FileSteps.locked
  apply Reaches.guard _ (FileSteps.unlockReturn _)
  · apply Reaches.guard _ (FileSteps.unlockReturn _)
    · apply steps_writeBoth _ _ (FileSteps.unlockReturn _)
      apply Reaches.bind FileSteps.getSelf
      exact fun _ => FileSteps.unlockReturn _
    · apply FileSteps.of_same
      intro s
      exact wp_mono (wp_setGshadowData env) fun _ _ spec => spec.2.2.files
  · exact .of_same ((renumbered_setGid _ _).mono fun _ _ renumbered => renumbered.2.files)

theorem steps_gumdDaemonGroupDelete (env : Env) : FileSteps GroupStep (gumdDaemonGroupDelete env) := by
  apply FileSteps.locked
  apply Reaches.bind FileSteps.getSelf
  intro self
  apply Reaches.ite (FileSteps.unlockReturnWithError _ _)
  apply Reaches.guard (steps_copyGroupData _ _) (FileSteps.unlockReturn _)
  apply Reaches.bind FileSteps.getSelf
  intro self
  apply Reaches.ite (FileSteps.unlockReturnWithError _ _)
  apply Reaches.bind FileSteps.getSelf
  intro self
  apply Reaches.bind (FileSteps.of_looks (looks_gumFileFindUserByGid _))
  intro used
  exact .ite (FileSteps.unlockReturn _) (steps_writeBoth _ _ (FileSteps.unlockReturn _) (FileSteps.unlockReturn _))

theorem steps_gumdDaemonGroupUpdate (env : Env) : FileSteps GroupStep (gumdDaemonGroupUpdate env) := by
  apply FileSteps.locked
  apply Reaches.bind FileSteps.getSelf
  intro self
  apply Reaches.ite (FileSteps.unlockReturnWithError _ _)
  apply Reaches.bind steps_getGroup
  intro found
  cases found with
  | none => exact FileSteps.unlockReturn _
  | some grp =>
    apply Reaches.bind (FileSteps.of_looks (looks_gumFileGetsgnam _))
    intro gshadow
    apply Reaches.bind FileSteps.getSelf
    intro self
    apply Reaches.ite (FileSteps.unlockReturnWithError _ _)
    apply Reaches.bind (FileSteps.modifySelf _)
    intro _
    apply Reaches.guard (steps_setSecret env) (FileSteps.unlockReturn _)
    exact steps_writeBoth _ _ (FileSteps.unlockReturn _) (FileSteps.unlockReturn _)

theorem steps_gumdDaemonGroupAddMember (uid : UInt32) (addAsAdmin : Bool) :
    FileSteps GroupStep (gumdDaemonGroupAddMember uid addAsAdmin) := by
  apply FileSteps.locked
  apply Reaches.bind (FileSteps.of_looks (looks_gumFileGetpwuid _))
  intro pent
  cases pent with
  | none => exact FileSteps.unlockReturnWithError _ _
  | some pent =>
    apply Reaches.bind steps_getGroup
    intro found
    cases found with
    | none => exact FileSteps.unlockReturn _
    | some grp =>
      apply Reaches.ite (FileSteps.unlockReturnWithError _ _)
      apply Reaches.bind (FileSteps.of_looks (looks_gumFileGetsgnam _))
      intro gshadow
      apply Reaches.guard (steps_copyGroupData _ _) (FileSteps.unlockReturn _)
      apply Reaches.bind (FileSteps.modifySelf _)
      intro _
      apply Reaches.guard (steps_updateGroupFile _ _) (FileSteps.unlockReturn _)
      exact .guard (steps_updateGshadowFileIf _ _ _) (FileSteps.unlockReturn _) (FileSteps.unlockReturn _)

theorem steps_gumdDaemonGroupDeleteMember (uid : UInt32) :
    FileSteps GroupStep (gumdDaemonGroupDeleteMember uid) := by
  apply FileSteps.locked
  apply Reaches.bind (FileSteps.of_looks (looks_gumFileGetpwuid _))
  intro pent
  cases pent with
  | none => exact FileSteps.unlockReturnWithError _ _
  | some pent =>
    apply Reaches.bind steps_getGroup
    intro found
    cases found with
    | none => exact FileSteps.unlockReturn _
    | some grp =>
      apply Reaches.ite (FileSteps.unlockReturnWithError _ _)
      apply Reaches.bind (FileSteps.of_looks (looks_gumFileGetsgnam _))
      intro gshadow
      apply Reaches.guard (steps_copyGroupData _ _) (FileSteps.unlockReturn _)
      apply Reaches.bind (FileSteps.modifySelf _)
      intro _
      exact steps_writeBoth _ _ (FileSteps.unlockReturn _) (FileSteps.unlockReturn _)

end GumdDaemonGroup

/-- A load makes no step. -/
theorem reaches_loadGroup {R : Files → Files → Prop} (object : GumdDaemonGroup) :
    Reaches World.files R (loadGroup object) := by
  apply Reaches.guard reaches_lock (.pure _)
  apply Reaches.bind
    (reaches_withNullError (reaches_runOn (GumdDaemonGroup.steps_copyGroupData none none)))
  intro loaded
  exact .bind reaches_unlock fun _ => .pure _

theorem reaches_gumdDaemonGroupNewByName {R : Files → Files → Prop} (groupname : Option Str) :
    Reaches World.files R (gumdDaemonGroupNewByName groupname) := by
  cases groupname with
  | none => exact .pure _
  | some name => exact reaches_loadGroup _

theorem reaches_gumdDaemonGroupDeleteUserMembership (userName : Option Str) :
    Reaches World.files GroupStep (gumdDaemonGroupDeleteUserMembership userName) := by
  have refusal : ∀ e : GError, Reaches World.files GroupStep (gumReturnWithError e false) :=
    fun e => reaches_of_looks (looks_gumReturnWithError e false)
  cases userName with
  | none => exact refusal _
  | some name =>
    unfold gumdDaemonGroupDeleteUserMembership
    dsimp only
    cases gumValidateName (some name) with
    | error e => exact refusal e
    | ok _ =>
      apply Reaches.guard reaches_lock (.bind (refusal _) fun _ => .pure _)
      apply Reaches.bind Reaches.get
      intro w
      apply Reaches.bind (reaches_gumFileUpdate _ _ fun _ _ written => .groupMembers name written)
      intro retval
      have leave : Reaches World.files GroupStep (do
          let _ ← gumLockPwdfUnlock
          return false) := .bind reaches_unlock fun _ => .pure _
      apply Reaches.ite leave
      apply Reaches.bind Reaches.get
      intro w
      apply Reaches.ite (.bind reaches_unlock fun _ => .pure _)
      apply Reaches.bind (reaches_gumFileUpdate _ _ fun _ _ written => .gshadowMembers name written)
      intro retval
      exact .bind reaches_unlock fun _ => .pure _

/-! ## User operations -/

namespace GumdDaemonUser

/-- The steps of a group operation are steps of a user operation. -/
theorem reaches_groups {α : Type} {m : StateM World α} (reaches : Reaches World.files GroupStep m) :
    FileSteps UserStep (liftM m : UserM α) :=
  .lift (reaches.mono fun _ _ step => .group step)

theorem unmoved_getPasswd : Rewrites Unmoved getPasswd := by
  apply Rewrites.bind frame_unmoved (rewrites_getSelf frame_unmoved)
  intro self
  apply Rewrites.bind frame_unmoved
    (unmoved_of_looks (looks_lookupIf (looks_gumFileGetpwuid _) _))
  intro byUid
  apply Rewrites.bind frame_unmoved
    (unmoved_of_looks (looks_lookupIf (looks_gumFileGetpwnam _) _))
  intro pwd
  cases pwd.filter self.pw.agrees with
  | none => exact unmoved_of_looks (looks_gumReturnWithError _ _)
  | some entry => exact .pure frame_unmoved _

theorem steps_getPasswd {R : Files → Files → Prop} : FileSteps R getPasswd :=
  .of_same (unmoved_getPasswd.mono fun _ _ unmoved => unmoved.2.files)

theorem steps_getUserinfo {R : Files → Files → Prop} (config : GumConfig) :
    FileSteps R (getUserinfo config) := by
  apply Reaches.ite (.pure _)
  apply Reaches.bind FileSteps.getSelf
  intro self
  apply Reaches.bind (FileSteps.of_looks (looks_gumFileLookup looks_openShadowFile _))
  intro info
  cases info with
  | none => exact .pure _
  | some info => exact .pure _

theorem steps_copyPasswdData {R : Files → Files → Prop} (env : Env) :
    FileSteps R (copyPasswdData env) := by
  apply Reaches.bind steps_getPasswd
  intro found
  cases found with
  | none => exact .pure _
  | some pent =>
    apply Reaches.bind (FileSteps.of_looks (looks_gumFileGetspnam _))
    intro found
    cases found with
    | none => exact FileSteps.of_looks (looks_gumReturnWithError _ _)
    | some spent =>
      apply Reaches.bind (steps_getUserinfo _)
      intro icon
      exact .bind (FileSteps.modifySelf _) fun _ => .pure _

theorem steps_updatePasswdFile (op : GumOpType) (userData : Option Str) :
    FileSteps UserStep (updatePasswdFile op userData) := by
  apply Reaches.bind FileSteps.getSelf
  intro self
  exact FileSteps.lift (reaches_gumFileUpdate _ _ fun _ _ written => .passwd self op userData written)

theorem steps_updateShadowFile (op : GumOpType) (userData : Option Str) :
    FileSteps UserStep (updateShadowFile op userData) := by
  apply Reaches.bind FileSteps.getSelf
  intro self
  exact FileSteps.lift (reaches_gumFileUpdate _ _ fun _ _ written => .shadow self op userData written)

theorem steps_writeUserinfo (info : Option Userinfo) : FileSteps UserStep (writeUserinfo info) := by
  apply Reaches.of_step
  intro s
  refine wp_mono (wp_writeUserinfo info) ?_
  intro ok t spec
  rcases spec.2.2 with ⟨-, same, -⟩ | ⟨-, written⟩
  · exact Or.inl same
  · rw [written]
    exact Or.inr (.userinfo _ info)

theorem steps_joinGroups (uid : UInt32) (added : Bool) (names : List Str) :
    Reaches World.files GroupStep (joinGroups uid added names) := by
  induction names generalizing added with
  | nil => exact .pure _
  | cons name rest ih =>
    apply Reaches.bind
      (reaches_runOn (GumdDaemonGroup.steps_gumdDaemonGroupAddMember uid false))
    exact fun joined => ih joined.1

theorem steps_setDefaultGroups (env : Env) : FileSteps UserStep (setDefaultGroups env) := by
  apply Reaches.bind FileSteps.getSelf
  intro self
  exact .ite (.pure _) (reaches_groups (steps_joinGroups _ _ _))

theorem steps_setGroup (env : Env) : FileSteps UserStep (setGroup env) := by
  apply Reaches.bind FileSteps.getSelf
  intro self
  apply Reaches.bind (FileSteps.of_looks (looks_gumFileGetgrnam _))
  intro found
  cases found with
  | some grp => exact .bind (FileSteps.modifySelf _) fun _ => .pure _
  | none =>
    apply Reaches.bind
      (reaches_groups (reaches_runOn (GumdDaemonGroup.steps_gumdDaemonGroupAdd env _)))
    rintro ⟨gid, group⟩
    cases gid with
    | none => exact .pure _
    | some gid => exact .bind (FileSteps.modifySelf _) fun _ => .pure _

theorem steps_gumdDaemonUserAdd (env : Env) : FileSteps UserStep (gumdDaemonUserAdd env) := by
  have numbered : FileSteps UserStep (setUid env) :=
    .of_same fun s => wp_mono (setUid_identified env) fun _ _ spec => spec.1.2.files
  have secret : FileSteps UserStep (setShadowData env) :=
    .of_same fun s => wp_mono (wp_setShadowData env) fun _ _ spec => spec.2.2.files
  have home : FileSteps UserStep (createHomeDir env) :=
    .of_same fun s => wp_mono (wp_createHomeDir env) fun _ _ spec => spec.2.2.files
  apply Reaches.bind FileSteps.getSelf
  intro self
  apply Reaches.ite (FileSteps.refusal _ _)
  apply Reaches.bind (FileSteps.modifySelf _)
  intro _
  apply FileSteps.locked
  apply Reaches.guard numbered (FileSteps.unlockReturn _)
  apply Reaches.guard (steps_setGroup env) (FileSteps.unlockReturn _)
  apply Reaches.guard secret (FileSteps.unlockReturn _)
  apply Reaches.guard (steps_updatePasswdFile _ _) (FileSteps.unlockReturn _)
  apply Reaches.guard (steps_updateShadowFile _ _) (FileSteps.unlockReturn _)
  apply Reaches.bind (.ite (.pure _) (.bind FileSteps.getSelf fun _ => steps_writeUserinfo _))
  intro _
  apply Reaches.bind (steps_setDefaultGroups env)
  intro _
  apply Reaches.guard home (FileSteps.unlockReturn _)
  exact .bind FileSteps.getSelf fun _ => FileSteps.unlockReturn _

theorem steps_lockUser (lock : Bool) : FileSteps UserStep (lockUser lock) := by
  apply Reaches.bind FileSteps.getSelf
  intro self
  apply FileSteps.lift
  exact reaches_withNullError (reaches_gumFileUpdate _ _ fun _ _ written => .lock self lock written)

theorem steps_deleteGroup (env : Env) : FileSteps UserStep (deleteGroup env) := by
  apply Reaches.bind FileSteps.getSelf
  intro self
  exact .bind (reaches_groups (reaches_runOn (GumdDaemonGroup.steps_gumdDaemonGroupDelete env)))
    fun _ => .pure _

theorem steps_deleteHomeDir (env : Env) : FileSteps UserStep (deleteHomeDir env) :=
  .of_same fun _ => wp_mono (wp_deleteHomeDir env) fun _ _ spec => spec.2.2.files

theorem steps_removeUser (env : Env) (remHomeDir : Bool) :
    FileSteps UserStep (removeUser env remHomeDir) := by
  apply Reaches.bind (.ite (.bind (steps_writeUserinfo _) fun _ => .pure _) (.pure _))
  intro _
  have entries : FileSteps UserStep deleteEntries :=
    .guard (steps_updatePasswdFile _ _) (.pure _) (steps_updateShadowFile _ _)
  apply Reaches.guard entries (.bind (steps_lockUser false) fun _ => .pure _)
  apply Reaches.guard (steps_deleteGroup env) (.pure _)
  apply Reaches.bind FileSteps.getSelf
  intro self
  apply Reaches.guard (reaches_groups (reaches_gumdDaemonGroupDeleteUserMembership _)) (.pure _)
  exact .ite (steps_deleteHomeDir env) (.pure _)

theorem steps_gumdDaemonUserDelete (env : Env) (remHomeDir : Bool) :
    FileSteps UserStep (gumdDaemonUserDelete env remHomeDir) := by
  apply FileSteps.locked
  apply Reaches.bind FileSteps.getSelf
  intro self
  apply Reaches.ite (FileSteps.unlockReturnWithError _ _)
  apply Reaches.guard (steps_copyPasswdData env) (FileSteps.unlockReturnWithError _ _)
  apply Reaches.bind Reaches.get
  intro s
  apply Reaches.ite (FileSteps.unlockReturnWithError _ _)
  apply Reaches.guard (steps_lockUser true) (FileSteps.unlockReturnWithError _ _)
  apply Reaches.ite
  · exact .bind (steps_lockUser false) fun _ => FileSteps.unlockReturnWithError _ _
  · exact .bind (steps_removeUser env remHomeDir) fun _ => FileSteps.unlockReturn _

theorem steps_updateIcon (env : Env) : FileSteps UserStep (updateIcon env) := by
  apply Reaches.bind (steps_getUserinfo _)
  intro icon
  apply Reaches.bind FileSteps.getSelf
  intro self
  apply Reaches.ite _ (.pure _)
  apply Reaches.bind FileSteps.getSelf
  intro self
  apply Reaches.bind _ fun _ => .pure _
  apply Reaches.ite (.pure _)
  apply Reaches.bind FileSteps.getSelf
  intro self
  apply Reaches.bind (FileSteps.of_looks (looks_gumFileLookup looks_openShadowFile _))
  exact fun _ => steps_writeUserinfo _

theorem steps_updateSecret (env : Env) (pw : Passwd) : FileSteps UserStep (updateSecret env pw) := by
  apply Reaches.bind FileSteps.getSelf
  intro self
  apply Reaches.ite _ (.bind (FileSteps.modifySelf _) fun _ => .pure _)
  exact .of_same fun _ => wp_mono (wp_setSecret env) fun _ _ spec => spec.2.2.files

theorem steps_gumdDaemonUserUpdate (env : Env) : FileSteps UserStep (gumdDaemonUserUpdate env) := by
  apply FileSteps.locked
  apply Reaches.bind FileSteps.getSelf
  intro self
  apply Reaches.ite (FileSteps.unlockReturnWithError _ _)
  apply Reaches.bind steps_getPasswd
  intro found
  cases found with
  | none => exact FileSteps.unlockReturn _
  | some pw =>
    apply Reaches.bind (FileSteps.of_looks (looks_gumFileGetspnam _))
    intro found
    cases found with
    | none => exact FileSteps.unlockReturnWithError _ _
    | some shadow =>
      apply Reaches.bind (steps_updateIcon env)
      intro iconChange
      apply Reaches.bind (FileSteps.modifySelf _)
      intro _
      apply Reaches.bind FileSteps.getSelf
      intro self
      apply Reaches.guard (steps_updateSecret env pw) (FileSteps.unlockReturn _)
      apply Reaches.bind FileSteps.getSelf
      intro self
      apply Reaches.bind FileSteps.getSelf
      intro self
      apply Reaches.ite (FileSteps.unlockReturnWithError _ _)
      apply Reaches.bind FileSteps.getSelf
      intro self
      apply Reaches.ite (FileSteps.unlockReturnWithError _ _)
      apply Reaches.guard (steps_updatePasswdFile _ _) (FileSteps.unlockReturn _)
      exact .guard (steps_updateShadowFile _ _) (FileSteps.unlockReturn _) (FileSteps.unlockReturn _)

end GumdDaemonUser

theorem reaches_loadUser {R : Files → Files → Prop} (env : Env) (object : GumdDaemonUser) :
    Reaches World.files R (loadUser env object) := by
  apply Reaches.guard reaches_lock (.pure _)
  apply Reaches.bind
    (reaches_withNullError (reaches_runOn (GumdDaemonUser.steps_copyPasswdData env)))
  intro loaded
  exact .bind reaches_unlock fun _ => .pure _

theorem reaches_gumdDaemonUserNewByName {R : Files → Files → Prop} (env : Env)
    (username : Option Str) : Reaches World.files R (gumdDaemonUserNewByName env username) := by
  cases username with
  | none => exact .pure _
  | some name => exact reaches_loadUser env _

/-! ## Calls -/

section System

/-- A call rewrites the files one after another. -/
theorem System.step_steps (s : System) (c : Call) :
    Relation.ReflTransGen UserStep s.files (s.step c).files := by
  have users : ∀ {α : Type} (i : Nat) {m : UserM α}, FileSteps UserStep m →
      Relation.ReflTransGen UserStep s.files (s.runUser c i m).2.files :=
    fun i _ steps => steps ⟨s.users i, s.world c⟩
  have groups : ∀ {α : Type} (i : Nat) {m : GroupM α}, FileSteps GroupStep m →
      Relation.ReflTransGen UserStep s.files (s.runGroup c i m).2.files :=
    fun i _ steps => (steps.mono fun _ _ step => .group step) ⟨s.groups i, s.world c⟩
  rw [System.step, System.call]
  cases c.operation with
  | userNew i => exact .refl
  | userNewByUid i uid => exact reaches_loadUser c.env _ (s.world c)
  | userNewByName i username => exact reaches_gumdDaemonUserNewByName c.env username (s.world c)
  | userSet i property => exact .refl
  | userAdd i =>
    have added := users i (GumdDaemonUser.steps_gumdDaemonUserAdd c.env)
    exact added
  | userUpdate i => exact users i (GumdDaemonUser.steps_gumdDaemonUserUpdate c.env)
  | userDelete i rem => exact users i (GumdDaemonUser.steps_gumdDaemonUserDelete c.env rem)
  | groupNew i => exact .refl
  | groupNewByGid i gid => exact reaches_loadGroup _ (s.world c)
  | groupNewByName i name => exact reaches_gumdDaemonGroupNewByName name (s.world c)
  | groupSet i property => exact .refl
  | groupAdd i gid => exact groups i (GumdDaemonGroup.steps_gumdDaemonGroupAdd c.env gid)
  | groupUpdate i => exact groups i (GumdDaemonGroup.steps_gumdDaemonGroupUpdate c.env)
  | groupDelete i => exact groups i (GumdDaemonGroup.steps_gumdDaemonGroupDelete c.env)
  | groupAddMember i uid admin =>
    exact groups i (GumdDaemonGroup.steps_gumdDaemonGroupAddMember uid admin)
  | groupDeleteMember i uid =>
    exact groups i (GumdDaemonGroup.steps_gumdDaemonGroupDeleteMember uid)
  | deleteUserMembership name =>
    exact (reaches_gumdDaemonGroupDeleteUserMembership name).mono
      (fun _ _ step => .group step) (s.world c)

/-- So does a run. -/
theorem System.run_steps (s : System) (calls : List Call) :
    Relation.ReflTransGen UserStep s.files (s.run calls).files := by
  induction calls generalizing s with
  | nil => exact .refl
  | cons c rest ih => exact (s.step_steps c).trans (ih (s.step c))

end System

end Gumd
