import Gumd.System
import Gumd.PwdfLock

/-!
# The lock is released

Every public operation leaves the lock count as it found it, whatever its calls come to: a body that
runs under the lock is balanced up to the one release on each of its ways out.  The counter is a `gint`,
so this holds as long as there is room for the locks that an operation nests.
-/

namespace Gumd

open StateWp EntryLoop

/-! ## The public operations -/

/-- A call to one of the public functions of the core, with the object it is made on.  A load makes its
own object. -/
inductive CoreCall where
  | userNewByUid (uid : UInt32)
  | userNewByName (username : Option Str)
  | userAdd (self : GumdDaemonUser)
  | userDelete (self : GumdDaemonUser) (remHomeDir : Bool)
  | userUpdate (self : GumdDaemonUser)
  | userGetUidByName (username : Option Str)
  | userGetUserList (types : Option (List Str))
  | groupNewByGid (gid : UInt32)
  | groupNewByName (groupname : Option Str)
  | groupAdd (self : GumdDaemonGroup) (preferredGid : UInt32)
  | groupDelete (self : GumdDaemonGroup)
  | groupUpdate (self : GumdDaemonGroup)
  | groupAddMember (self : GumdDaemonGroup) (uid : UInt32) (addAsAdmin : Bool)
  | groupDeleteMember (self : GumdDaemonGroup) (uid : UInt32)
  | groupDeleteUserMembership (userName : Option Str)
  | groupGetGidByName (groupname : Option Str)

/-- The call, with whether it succeeds. -/
def CoreCall.run (env : Env) : CoreCall → StateM World Bool
  | .userNewByUid uid => Option.isSome <$> gumdDaemonUserNewByUid env uid
  | .userNewByName username => Option.isSome <$> gumdDaemonUserNewByName env username
  | .userAdd self => (·.1.isSome) <$> runOn self (GumdDaemonUser.gumdDaemonUserAdd env)
  | .userDelete self remHomeDir =>
      (·.1) <$> runOn self (GumdDaemonUser.gumdDaemonUserDelete env remHomeDir)
  | .userUpdate self => (·.1) <$> runOn self (GumdDaemonUser.gumdDaemonUserUpdate env)
  | .userGetUidByName username =>
      (· != gumUserInvalidUid) <$> gumdDaemonUserGetUidByName username
  | .userGetUserList types => Option.isSome <$> gumdDaemonUserGetUserList env.config types
  | .groupNewByGid gid => Option.isSome <$> gumdDaemonGroupNewByGid gid
  | .groupNewByName groupname => Option.isSome <$> gumdDaemonGroupNewByName groupname
  | .groupAdd self preferredGid =>
      (·.1.isSome) <$> runOn self (GumdDaemonGroup.gumdDaemonGroupAdd env preferredGid)
  | .groupDelete self => (·.1) <$> runOn self (GumdDaemonGroup.gumdDaemonGroupDelete env)
  | .groupUpdate self => (·.1) <$> runOn self (GumdDaemonGroup.gumdDaemonGroupUpdate env)
  | .groupAddMember self uid addAsAdmin =>
      (·.1) <$> runOn self (GumdDaemonGroup.gumdDaemonGroupAddMember uid addAsAdmin)
  | .groupDeleteMember self uid =>
      (·.1) <$> runOn self (GumdDaemonGroup.gumdDaemonGroupDeleteMember uid)
  | .groupDeleteUserMembership userName => gumdDaemonGroupDeleteUserMembership userName
  | .groupGetGidByName groupname =>
      (· != gumGroupInvalidGid) <$> gumdDaemonGroupGetGidByName groupname

/-- How many locks the call holds at most, one inside the other: the addition and the deletion of a user
call operations on groups. -/
def CoreCall.locks : CoreCall → Nat
  | .userAdd _ | .userDelete _ _ => 2
  | _ => 1

/-! ## Balanced steps -/

/-- A step that leaves the lock count as it was, and takes at most `depth` locks more in between. -/
structure World.Nests (depth : Nat) (w t : World) : Prop where
  lockCount : t.process.lockCount = w.process.lockCount
  fits : w.process.lockCount + depth ≤ gMaxint → t.process.overflowed = w.process.overflowed

/-- Such a step that ends with the release of a lock. -/
structure World.Unnests (depth : Nat) (w t : World) : Prop where
  lockCount : t.process.lockCount = w.process.lockCount - 1
  fits : w.process.lockCount + depth ≤ gMaxint → t.process.overflowed = w.process.overflowed

namespace World

variable {u v w : World} {depth : Nat}

theorem Nests.trans (first : u.Nests depth v) (second : v.Nests depth w) : u.Nests depth w where
  lockCount := second.lockCount.trans first.lockCount
  fits room := (second.fits (first.lockCount ▸ room)).trans (first.fits room)

theorem frame_nests (depth : Nat) : Frame (World.Nests depth) :=
  ⟨fun _ => ⟨rfl, fun _ => rfl⟩, .trans⟩

theorem Quiet.nests (quiet : u.Quiet v) : u.Nests depth v :=
  ⟨quiet.balanced.lockCount, fun _ => quiet.overflowed⟩

theorem nests_of_process (same : v.process = u.process) : u.Nests depth v := by
  refine ⟨?_, fun _ => ?_⟩ <;> rw [same]

theorem Nests.unnests (first : u.Nests depth v) (second : v.Unnests depth w) : u.Unnests depth w where
  lockCount := by rw [second.lockCount, first.lockCount]
  fits room := (second.fits (first.lockCount ▸ room)).trans (first.fits room)

theorem unnests_afterUnlock (w : World) : w.Unnests depth w.afterUnlock :=
  ⟨w.released_afterUnlock.lockCount, fun _ => w.overflowed_afterUnlock⟩

/-- The lock that was granted is one level more than its body takes. -/
theorem nests_of_unnests (granted : w.lockGranted = true) (unnests : w.afterLock.Unnests depth u) :
    w.Nests (depth + 1) u where
  lockCount := by
    rw [unnests.lockCount, lockCount_afterLock, granted]
    simp
  fits room := by
    have count : w.afterLock.process.lockCount = w.process.lockCount + 1 := by
      rw [lockCount_afterLock, granted]
      rfl
    have below : ¬gMaxint ≤ w.process.lockCount := by omega
    rw [unnests.fits (by omega), overflowed_afterLock]
    simp [below]

end World

section Steps

variable {O α β : Type} {depth : Nat}

/-- A program that holds the lock as often at its end as at its start. -/
def Balances (depth : Nat) (m : GumM O α) : Prop :=
  Rewrites (fun s t => s.world.Nests depth t.world) m

/-- A program that ends with the release of the lock it was started with. -/
def Releases (depth : Nat) (m : GumM O α) : Prop :=
  Rewrites (fun s t => s.world.Unnests depth t.world) m

theorem frame_balances (depth : Nat) : Frame fun s t : St O => s.world.Nests depth t.world :=
  ⟨fun s => (World.frame_nests depth).refl s.world, .trans⟩

namespace Balances

variable {m n : GumM O α} {f : α → GumM O β}

theorem bind (first : Balances depth m) (rest : ∀ a, Balances depth (f a)) : Balances depth (m >>= f) :=
  Rewrites.bind (frame_balances depth) first rest

theorem pure (a : α) : Balances depth (Pure.pure a : GumM O α) := Rewrites.pure (frame_balances depth) a

theorem ite {c : Prop} [Decidable c] (yes : Balances depth m) (no : Balances depth n) :
    Balances depth (if c then m else n) :=
  Rewrites.ite (fun _ => yes) fun _ => no

theorem getSelf : Balances depth (Gumd.getSelf : GumM O O) := rewrites_getSelf (frame_balances depth)

theorem modifySelf (f : O → O) : Balances depth (Gumd.modifySelf f) :=
  fun s => (World.frame_nests depth).refl s.world

theorem getState : Balances depth (get : GumM O (St O)) := fun s => (World.frame_nests depth).refl s.world

/-- A check that leaves early. -/
theorem guard {check : GumM O Bool} {exit rest : GumM O α} (first : Balances depth check)
    (leave : Balances depth exit) (stay : Balances depth rest) :
    Balances depth (check >>= fun ok => if !ok then exit else rest) :=
  bind first fun _ => ite leave stay

/-- A balanced step of the world is one of an operation. -/
theorem lift {m : StateM World α} (step : Rewrites (World.Nests depth) m) :
    Balances depth (liftM m : GumM O α) :=
  fun s => step s.world

theorem of_looks {m : StateM World α} (looks : Looks m) : Balances depth (liftM m : GumM O α) :=
  lift (looks.mono fun _ _ quiet => quiet.nests)

/-- A step that only looks, whatever it does to the object. -/
theorem of_quiet (quiet : ∀ s, wp m (fun _ t => s.world.Quiet t.world) s) : Balances depth m :=
  fun s => wp_mono (quiet s) fun _ _ step => step.nests

theorem gumReturnWithError (e : GError) (retval : α) :
    Balances depth (liftM (Gumd.gumReturnWithError e retval) : GumM O α) :=
  of_looks (looks_gumReturnWithError e retval)

/-- An early return with an error. -/
theorem refusal (e : GError) (retval : α) :
    Balances depth (liftM (Gumd.gumReturnWithError e retval) >>= Pure.pure : GumM O α) :=
  bind (gumReturnWithError e retval) pure

/-- The operation takes the lock, and each way out of its body releases it. -/
theorem locked {exit body : GumM O α} (refused : Balances (depth + 1) exit) (releases : Releases depth body) :
    Balances (depth + 1) (liftM gumLockPwdfLock >>= fun ok => if !ok then exit else body) := by
  intro s
  simp only [wp_bind, wp_liftM, wp_gumLockPwdfLock, ↓wp_guard]
  constructor
  · intro denied
    have quiet : s.world.Nests (depth + 1) s.world.afterLock := (World.quiet_of_refused denied).nests
    exact wp_mono (refused ⟨s.self, s.world.afterLock⟩) fun _ _ rest => quiet.trans rest
  · intro given
    exact wp_mono (releases ⟨s.self, s.world.afterLock⟩) fun _ _ released =>
      World.nests_of_unnests given released

end Balances

namespace Releases

variable {m n : GumM O α} {f : α → GumM O β}

theorem bind (first : Balances depth m) (rest : ∀ a, Releases depth (f a)) : Releases depth (m >>= f) := by
  intro s
  rw [wp_bind]
  exact wp_mono (first s) fun a t step => wp_mono (rest a t) fun _ _ tail => step.unnests tail

theorem ite {c : Prop} [Decidable c] (yes : Releases depth m) (no : Releases depth n) :
    Releases depth (if c then m else n) :=
  Rewrites.ite (fun _ => yes) fun _ => no

theorem unlockReturn (retval : α) : Releases depth (Gumd.unlockReturn retval : GumM O α) :=
  fun s => s.world.unnests_afterUnlock

theorem unlockReturnWithError (e : GError) (retval : α) :
    Releases depth (Gumd.unlockReturnWithError e retval : GumM O α) := by
  intro s
  have released : s.world.Unnests depth s.world.afterUnlock := s.world.unnests_afterUnlock
  exact ⟨released.lockCount, released.fits⟩

/-- A check that releases the lock and leaves early. -/
theorem guard {check : GumM O Bool} {exit rest : GumM O α} (first : Balances depth check)
    (leave : Releases depth exit) (stay : Releases depth rest) :
    Releases depth (check >>= fun ok => if !ok then exit else rest) :=
  bind first fun _ => ite leave stay

end Releases

theorem nests_gumFileUpdate {ε : Type} (file : DbFile ε)
    (callback : List ε → Except GError (List ε)) :
    Rewrites (World.Nests depth) (gumFileUpdate file callback) := by
  intro w
  simp only [gumFileUpdate, wp_bind, wp_get, wp_set]
  cases file.entries w.files with
  | none => exact World.nests_of_process rfl
  | some entries =>
    simp only
    cases updateOutcome w.faults.write.head (callback entries) with
    | error e => exact World.nests_of_process rfl
    | ok out => exact World.nests_of_process rfl

theorem Balances.gumFileUpdate {ε : Type} (file : DbFile ε)
    (callback : List ε → Except GError (List ε)) :
    Balances depth (liftM (Gumd.gumFileUpdate file callback) : GumM O Bool) :=
  .lift (nests_gumFileUpdate file callback)

theorem nests_runOn {object : O} {m : GumM O α} (balances : Balances depth m) :
    Rewrites (World.Nests depth) (runOn object m) :=
  fun w => balances ⟨object, w⟩

theorem nests_withNullError {m : StateM World α} (balances : Rewrites (World.Nests depth) m) :
    Rewrites (World.Nests depth) (withNullError m) := by
  intro w
  rw [wp_withNullError]
  exact wp_mono (balances w) fun _ _ step => step.trans (World.nests_of_process rfl)

end Steps

/-! ## Group operations -/

namespace GumdDaemonGroup

variable {depth : Nat}

theorem balances_setSecret (env : Env) : Balances depth (setSecret env) :=
  .of_quiet fun _ => wp_mono (wp_setSecret env) fun _ _ spec => spec.2.2

theorem balances_getGroup : Balances depth getGroup := by
  apply Balances.bind .getSelf
  intro self
  apply Balances.bind (.of_looks (looks_lookupIf (looks_gumFileGetgrgid _) _))
  intro byGid
  apply Balances.bind (.of_looks (looks_lookupIf (looks_gumFileGetgrnam _) _))
  intro grp
  cases grp.filter self.group.agrees with
  | none => exact .gumReturnWithError _ _
  | some entry => exact .pure _

theorem balances_copyGroupData (gent : Option Group) (sgent : Option Sgrp) :
    Balances depth (copyGroupData gent sgent) := by
  apply Balances.bind (.ite balances_getGroup (.pure _))
  intro found
  cases found with
  | none => exact .pure _
  | some entry =>
    apply Balances.bind (.of_looks (looks_lookupIf (looks_gumFileGetsgnam _) _))
    intro sentry
    exact .bind (.modifySelf _) fun _ => .pure _

theorem balances_updateGroupFile (op : GumOpType) (userData : Option Str) :
    Balances depth (updateGroupFile op userData) := by
  apply Balances.bind .getSelf
  intro self
  exact .gumFileUpdate _ _

theorem balances_updateGshadowFileIf (wanted : Bool) (op : GumOpType) (userData : Option Str) :
    Balances depth (updateGshadowFileIf wanted op userData) := by
  apply Balances.ite (.pure _)
  apply Balances.bind .getSelf
  intro self
  exact .gumFileUpdate _ _

theorem balances_updateGshadowFile (op : GumOpType) (userData : Option Str) :
    Balances depth (updateGshadowFile op userData) := by
  apply Balances.bind .getState
  intro s
  exact balances_updateGshadowFileIf _ op userData

theorem balances_setGshadowData (env : Env) : Balances depth (setGshadowData env) := by
  apply Balances.bind (.modifySelf _)
  intro _
  apply Balances.guard (balances_setSecret env) (.pure _)
  exact .bind (.modifySelf _) fun _ => .pure _

theorem balances_checkGroupType : Balances depth checkGroupType := by
  apply Balances.bind .getSelf
  intro self
  exact .ite (.pure _) (.gumReturnWithError _ _)

theorem balances_gumdDaemonGroupAdd (env : Env) (preferredGid : UInt32) :
    Balances (depth + 1) (gumdDaemonGroupAdd env preferredGid) := by
  apply Balances.guard balances_checkGroupType (.pure _)
  apply Balances.locked (.refusal _ _)
  apply Releases.guard
    (.of_quiet fun s => (renumbered_setGid env.config preferredGid).mono (fun _ _ spec => spec.2) s)
    (.unlockReturn _)
  apply Releases.guard (balances_setGshadowData env) (.unlockReturn _)
  apply Releases.guard (balances_updateGroupFile _ _) (.unlockReturn _)
  apply Releases.guard (balances_updateGshadowFile _ _) (.unlockReturn _)
  exact Releases.bind .getSelf fun _ => .unlockReturn _

theorem balances_gumdDaemonGroupDelete (env : Env) : Balances (depth + 1) (gumdDaemonGroupDelete env) := by
  apply Balances.locked (.refusal _ _)
  apply Releases.bind .getSelf
  intro self
  apply Releases.ite (.unlockReturnWithError _ _)
  apply Releases.guard (balances_copyGroupData _ _) (.unlockReturn _)
  apply Releases.bind .getSelf
  intro self
  apply Releases.ite (.unlockReturnWithError _ _)
  apply Releases.bind .getSelf
  intro self
  apply Releases.bind (.of_looks (looks_gumFileFindUserByGid _))
  intro used
  apply Releases.ite (.unlockReturn _)
  apply Releases.guard (balances_updateGroupFile _ _) (.unlockReturn _)
  exact Releases.guard (balances_updateGshadowFile _ _) (.unlockReturn _) (.unlockReturn _)

theorem balances_gumdDaemonGroupUpdate (env : Env) : Balances (depth + 1) (gumdDaemonGroupUpdate env) := by
  apply Balances.locked (.refusal _ _)
  apply Releases.bind .getSelf
  intro self
  apply Releases.ite (.unlockReturnWithError _ _)
  apply Releases.bind balances_getGroup
  intro found
  cases found with
  | none => exact .unlockReturn _
  | some grp =>
    apply Releases.bind (.of_looks (looks_gumFileGetsgnam _))
    intro gshadow
    apply Releases.bind .getSelf
    intro self
    apply Releases.ite (.unlockReturnWithError _ _)
    apply Releases.bind (.modifySelf _)
    intro _
    apply Releases.guard (balances_setSecret env) (.unlockReturn _)
    apply Releases.guard (balances_updateGroupFile _ _) (.unlockReturn _)
    exact Releases.guard (balances_updateGshadowFile _ _) (.unlockReturn _) (.unlockReturn _)

theorem balances_gumdDaemonGroupAddMember (uid : UInt32) (addAsAdmin : Bool) :
    Balances (depth + 1) (gumdDaemonGroupAddMember uid addAsAdmin) := by
  apply Balances.locked (.refusal _ _)
  apply Releases.bind (.of_looks (looks_gumFileGetpwuid _))
  intro pent
  cases pent with
  | none => exact .unlockReturnWithError _ _
  | some pent =>
    apply Releases.bind balances_getGroup
    intro found
    cases found with
    | none => exact .unlockReturn _
    | some grp =>
      apply Releases.ite (.unlockReturnWithError _ _)
      apply Releases.bind (.of_looks (looks_gumFileGetsgnam _))
      intro gshadow
      apply Releases.guard (balances_copyGroupData _ _) (.unlockReturn _)
      apply Releases.bind (.modifySelf _)
      intro _
      apply Releases.guard (balances_updateGroupFile _ _) (.unlockReturn _)
      exact Releases.guard (balances_updateGshadowFileIf _ _ _) (.unlockReturn _) (.unlockReturn _)

theorem balances_gumdDaemonGroupDeleteMember (uid : UInt32) :
    Balances (depth + 1) (gumdDaemonGroupDeleteMember uid) := by
  apply Balances.locked (.refusal _ _)
  apply Releases.bind (.of_looks (looks_gumFileGetpwuid _))
  intro pent
  cases pent with
  | none => exact .unlockReturnWithError _ _
  | some pent =>
    apply Releases.bind balances_getGroup
    intro found
    cases found with
    | none => exact .unlockReturn _
    | some grp =>
      apply Releases.ite (.unlockReturnWithError _ _)
      apply Releases.bind (.of_looks (looks_gumFileGetsgnam _))
      intro gshadow
      apply Releases.guard (balances_copyGroupData _ _) (.unlockReturn _)
      apply Releases.bind (.modifySelf _)
      intro _
      apply Releases.guard (balances_updateGroupFile _ _) (.unlockReturn _)
      exact Releases.guard (balances_updateGshadowFile _ _) (.unlockReturn _) (.unlockReturn _)

end GumdDaemonGroup

section Calls

variable {α β : Type} {depth : Nat}

/-- A call of the lock by itself. -/
theorem nests_locked {exit body : StateM World α} (refused : Rewrites (World.Nests (depth + 1)) exit)
    (releases : Rewrites (World.Unnests depth) body) :
    Rewrites (World.Nests (depth + 1)) (gumLockPwdfLock >>= fun ok => if !ok then exit else body) := by
  intro w
  simp only [wp_bind, wp_gumLockPwdfLock, ↓wp_guard]
  constructor
  · intro denied
    have quiet : w.Nests (depth + 1) w.afterLock := (World.quiet_of_refused denied).nests
    exact wp_mono (refused w.afterLock) fun _ _ rest => quiet.trans rest
  · intro given
    exact wp_mono (releases w.afterLock) fun _ _ released => World.nests_of_unnests given released

/-- A body that ends with the release of the lock and a value computed before it. -/
theorem unnests_bind {m : StateM World α} {f : α → StateM World β}
    (first : Rewrites (World.Nests depth) m) (rest : ∀ a, Rewrites (World.Unnests depth) (f a)) :
    Rewrites (World.Unnests depth) (m >>= f) := by
  intro w
  rw [wp_bind]
  exact wp_mono (first w) fun a t step => wp_mono (rest a t) fun _ _ tail => step.unnests tail

theorem unnests_unlock (retval : α) : Rewrites (World.Unnests depth) (do
    let _ ← gumLockPwdfUnlock
    return retval : StateM World α) :=
  fun w => w.unnests_afterUnlock

theorem nests_pure (a : α) : Rewrites (World.Nests depth) (pure a : StateM World α) :=
  .pure (World.frame_nests depth) _

theorem nests_of_looks {m : StateM World α} (looks : Looks m) : Rewrites (World.Nests depth) m :=
  looks.mono fun _ _ quiet => quiet.nests

theorem nests_get : Rewrites (World.Nests depth) (get : StateM World World) :=
  fun w => (World.frame_nests depth).refl w

theorem nests_refusal (e : GError) (retval : α) :
    Rewrites (World.Nests depth) (gumReturnWithError e retval >>= pure) :=
  fun w => (World.Quiet.error w e).nests

theorem nests_gumdDaemonGroupDeleteUserMembership (userName : Option Str) :
    Rewrites (World.Nests (depth + 1)) (gumdDaemonGroupDeleteUserMembership userName) := by
  cases userName with
  | none => exact nests_of_looks (looks_gumReturnWithError _ _)
  | some name =>
    rw [gumdDaemonGroupDeleteUserMembership]
    dsimp only
    cases gumValidateName (some name) with
    | error e => exact nests_of_looks (looks_gumReturnWithError _ _)
    | ok _ =>
      apply nests_locked (nests_refusal _ _)
      apply unnests_bind nests_get
      intro w
      apply unnests_bind (nests_gumFileUpdate _ _)
      intro retval
      apply Rewrites.ite fun _ => unnests_unlock _
      intro _
      apply unnests_bind nests_get
      intro w'
      apply Rewrites.ite fun _ => unnests_unlock _
      intro _
      exact unnests_bind (nests_gumFileUpdate _ _) fun _ => unnests_unlock _

theorem nests_loadGroup (object : GumdDaemonGroup) :
    Rewrites (World.Nests (depth + 1)) (loadGroup object) := by
  apply nests_locked (nests_pure _)
  apply unnests_bind (nests_withNullError (nests_runOn (GumdDaemonGroup.balances_copyGroupData _ _)))
  exact fun _ => unnests_unlock _

theorem nests_gumdDaemonGroupNewByName (groupname : Option Str) :
    Rewrites (World.Nests (depth + 1)) (gumdDaemonGroupNewByName groupname) := by
  cases groupname with
  | none => exact nests_pure _
  | some name => exact nests_loadGroup _

theorem nests_gumdDaemonGroupGetGidByName (groupname : Option Str) :
    Rewrites (World.Nests (depth + 1)) (gumdDaemonGroupGetGidByName groupname) := by
  cases groupname with
  | none => exact nests_pure _
  | some name =>
    apply nests_locked (nests_pure _)
    exact unnests_bind (nests_of_looks (looks_gumFileGetgrnam _)) fun _ => unnests_unlock _

end Calls

/-! ## User operations -/

namespace GumdDaemonUser

variable {depth : Nat}

theorem balances_getPasswd : Balances depth getPasswd := by
  apply Balances.bind .getSelf
  intro self
  apply Balances.bind (.of_looks (looks_lookupIf (looks_gumFileGetpwuid _) _))
  intro byUid
  apply Balances.bind (.of_looks (looks_lookupIf (looks_gumFileGetpwnam _) _))
  intro pwd
  cases pwd.filter self.pw.agrees with
  | none => exact .gumReturnWithError _ _
  | some entry => exact .pure _

theorem balances_getUserinfo (config : GumConfig) : Balances depth (getUserinfo config) :=
  .of_quiet fun _ => wp_mono (wp_getUserinfo config) fun _ _ spec => spec.2.2.quiet

theorem balances_writeUserinfo (info : Option Userinfo) : Balances depth (writeUserinfo info) := by
  intro s
  rw [writeUserinfo, wp_bind, wp_get, wp_ite]
  exact ⟨fun _ => World.nests_of_process rfl, fun _ => World.nests_of_process rfl⟩

theorem balances_copyPasswdData (env : Env) : Balances depth (copyPasswdData env) := by
  apply Balances.bind balances_getPasswd
  intro found
  cases found with
  | none => exact .pure _
  | some pent =>
    apply Balances.bind (.of_looks (looks_gumFileGetspnam _))
    intro found
    cases found with
    | none => exact .gumReturnWithError _ _
    | some spent =>
      apply Balances.bind (balances_getUserinfo _)
      intro icon
      exact .bind (.modifySelf _) fun _ => .pure _

theorem balances_updatePasswdFile (op : GumOpType) (userData : Option Str) :
    Balances depth (updatePasswdFile op userData) := by
  apply Balances.bind .getSelf
  intro self
  exact .gumFileUpdate _ _

theorem balances_updateShadowFile (op : GumOpType) (userData : Option Str) :
    Balances depth (updateShadowFile op userData) := by
  apply Balances.bind .getSelf
  intro self
  exact .gumFileUpdate _ _

theorem balances_setSecret (env : Env) : Balances depth (setSecret env) :=
  .of_quiet fun _ => wp_mono (wp_setSecret env) fun _ _ spec => spec.2.2

theorem balances_setGroup (env : Env) : Balances (depth + 1) (setGroup env) := by
  apply Balances.bind .getSelf
  intro self
  apply Balances.bind (.of_looks (looks_gumFileGetgrnam _))
  intro found
  cases found with
  | some grp => exact .bind (.modifySelf _) fun _ => .pure _
  | none =>
    apply Balances.bind
      (.lift (nests_runOn (GumdDaemonGroup.balances_gumdDaemonGroupAdd env _)))
    rintro ⟨gid, _⟩
    cases gid with
    | none => exact .pure _
    | some gid => exact .bind (.modifySelf _) fun _ => .pure _

theorem nests_joinGroups (uid : UInt32) (added : Bool) (names : List Str) :
    Rewrites (World.Nests (depth + 1)) (joinGroups uid added names) := by
  induction names generalizing added with
  | nil => exact nests_pure _
  | cons name rest ih =>
    apply Rewrites.bind (World.frame_nests _)
      (nests_runOn (GumdDaemonGroup.balances_gumdDaemonGroupAddMember uid false))
    exact fun joined => ih joined.1

theorem balances_setDefaultGroups (env : Env) : Balances (depth + 1) (setDefaultGroups env) := by
  apply Balances.bind .getSelf
  intro self
  exact .ite (.pure _) (.lift (nests_joinGroups _ _ _))

theorem balances_addUserinfo (config : GumConfig) : Balances depth (addUserinfo config) := by
  apply Balances.ite (.pure _)
  apply Balances.bind .getSelf
  exact fun _ => balances_writeUserinfo _

theorem balances_gumdDaemonUserAdd (env : Env) : Balances (depth + 2) (gumdDaemonUserAdd env) := by
  apply Balances.bind .getSelf
  intro self
  apply Balances.ite (.refusal _ _)
  apply Balances.bind (.modifySelf _)
  intro _
  apply Balances.locked (.refusal _ _)
  apply Releases.guard
    (.of_quiet fun s => wp_mono (setUid_identified env) fun _ _ spec => spec.1.2) (.unlockReturn _)
  apply Releases.guard (balances_setGroup env) (.unlockReturn _)
  apply Releases.guard
    (.of_quiet fun _ => wp_mono (wp_setShadowData env) fun _ _ spec => spec.2.2) (.unlockReturn _)
  apply Releases.guard (balances_updatePasswdFile _ _) (.unlockReturn _)
  apply Releases.guard (balances_updateShadowFile _ _) (.unlockReturn _)
  apply Releases.bind (balances_addUserinfo _)
  intro _
  apply Releases.bind (balances_setDefaultGroups env)
  intro _
  apply Releases.guard
    (.of_quiet fun _ => wp_mono (wp_createHomeDir env) fun _ _ spec => spec.2.2) (.unlockReturn _)
  exact Releases.bind .getSelf fun _ => .unlockReturn _

theorem balances_lockUser (lock : Bool) : Balances depth (lockUser lock) := by
  apply Balances.bind .getSelf
  intro self
  exact .lift (nests_withNullError (nests_gumFileUpdate _ _))

theorem balances_deleteUserinfo (config : GumConfig) : Balances depth (deleteUserinfo config) := by
  apply Balances.ite
  · apply Balances.bind (balances_writeUserinfo _)
    exact fun _ => .pure _
  · exact .pure _

theorem balances_deleteEntries : Balances depth deleteEntries :=
  .guard (balances_updatePasswdFile _ _) (.pure _) (balances_updateShadowFile _ _)

theorem balances_deleteGroup (env : Env) : Balances (depth + 1) (deleteGroup env) := by
  apply Balances.bind .getSelf
  intro self
  apply Balances.bind
    (.lift (nests_runOn (GumdDaemonGroup.balances_gumdDaemonGroupDelete env)))
  exact fun _ => .pure _

theorem balances_deleteHomeDir (env : Env) : Balances depth (deleteHomeDir env) := by
  apply Balances.bind .getSelf
  intro self
  apply Balances.ite (.pure _)
  cases env.deleteHomeDir (ptr self.pw.pwDir) with
  | none => exact .pure _
  | some e => exact .gumReturnWithError _ _

theorem balances_removeUser (env : Env) (remHomeDir : Bool) :
    Balances (depth + 1) (removeUser env remHomeDir) := by
  apply Balances.bind (balances_deleteUserinfo _)
  intro _
  apply Balances.guard balances_deleteEntries
    (.bind (balances_lockUser false) fun _ => .pure _)
  apply Balances.guard (balances_deleteGroup env) (.pure _)
  apply Balances.bind .getSelf
  intro self
  apply Balances.guard (.lift (nests_gumdDaemonGroupDeleteUserMembership _)) (.pure _)
  exact .ite (balances_deleteHomeDir env) (.pure _)

theorem balances_gumdDaemonUserDelete (env : Env) (remHomeDir : Bool) :
    Balances (depth + 2) (gumdDaemonUserDelete env remHomeDir) := by
  apply Balances.locked (.refusal _ _)
  apply Releases.bind .getSelf
  intro self
  apply Releases.ite (.unlockReturnWithError _ _)
  apply Releases.guard (balances_copyPasswdData env) (.unlockReturnWithError _ _)
  apply Releases.bind .getState
  intro s
  apply Releases.ite (.unlockReturnWithError _ _)
  apply Releases.guard (balances_lockUser true) (.unlockReturnWithError _ _)
  apply Releases.ite
  · exact .bind (balances_lockUser false) fun _ => .unlockReturnWithError _ _
  · exact .bind (balances_removeUser env remHomeDir) fun _ => .unlockReturn _

theorem balances_updateIcon (env : Env) : Balances depth (updateIcon env) := by
  apply Balances.bind (balances_getUserinfo _)
  intro icon
  apply Balances.bind .getSelf
  intro self
  apply Balances.ite
  · apply Balances.bind .getSelf
    intro self
    apply Balances.bind
    · apply Balances.ite (.pure _)
      apply Balances.bind .getSelf
      intro self
      apply Balances.bind (.of_looks (looks_gumFileLookup looks_openShadowFile _))
      intro loaded
      exact balances_writeUserinfo _
    · exact fun _ => .pure _
  · exact .pure _

theorem balances_updateSecret (env : Env) (pw : Passwd) : Balances depth (updateSecret env pw) := by
  apply Balances.bind .getSelf
  intro self
  exact .ite (balances_setSecret env) (.bind (.modifySelf _) fun _ => .pure _)

theorem balances_gumdDaemonUserUpdate (env : Env) : Balances (depth + 1) (gumdDaemonUserUpdate env) := by
  apply Balances.locked (.refusal _ _)
  apply Releases.bind .getSelf
  intro self
  apply Releases.ite (.unlockReturnWithError _ _)
  apply Releases.bind balances_getPasswd
  intro found
  cases found with
  | none => exact .unlockReturn _
  | some pw =>
    apply Releases.bind (.of_looks (looks_gumFileGetspnam _))
    intro found
    cases found with
    | none => exact .unlockReturnWithError _ _
    | some shadow =>
      apply Releases.bind (balances_updateIcon env)
      intro iconChange
      apply Releases.bind (.modifySelf _)
      intro _
      apply Releases.bind .getSelf
      intro self
      apply Releases.guard (balances_updateSecret env pw) (.unlockReturn _)
      apply Releases.bind .getSelf
      intro self
      apply Releases.bind .getSelf
      intro self
      apply Releases.ite (.unlockReturnWithError _ _)
      apply Releases.bind .getSelf
      intro self
      apply Releases.ite (.unlockReturnWithError _ _)
      apply Releases.guard (balances_updatePasswdFile _ _) (.unlockReturn _)
      exact Releases.guard (balances_updateShadowFile _ _) (.unlockReturn _) (.unlockReturn _)

end GumdDaemonUser

section Calls

variable {depth : Nat}

theorem nests_loadUser (env : Env) (object : GumdDaemonUser) :
    Rewrites (World.Nests (depth + 1)) (loadUser env object) := by
  apply nests_locked (nests_pure _)
  apply unnests_bind (nests_withNullError
    (nests_runOn (GumdDaemonUser.balances_copyPasswdData env)))
  exact fun _ => unnests_unlock _

theorem nests_gumdDaemonUserNewByName (env : Env) (username : Option Str) :
    Rewrites (World.Nests (depth + 1)) (gumdDaemonUserNewByName env username) := by
  cases username with
  | none => exact nests_pure _
  | some name => exact nests_loadUser env _

theorem nests_gumdDaemonUserGetUidByName (username : Option Str) :
    Rewrites (World.Nests (depth + 1)) (gumdDaemonUserGetUidByName username) := by
  cases username with
  | none => exact nests_pure _
  | some name =>
    apply nests_locked (nests_pure _)
    exact unnests_bind (nests_of_looks (looks_gumFileGetpwnam _)) fun _ => unnests_unlock _

theorem nests_gumdDaemonUserGetUserList (config : GumConfig) (types : Option (List Str)) :
    Rewrites (World.Nests (depth + 1)) (gumdDaemonUserGetUserList config types) := by
  apply Rewrites.ite fun _ => nests_refusal _ _
  intro _
  apply nests_locked (nests_refusal _ _)
  apply unnests_bind (nests_of_looks looks_openFile)
  intro opened
  apply Rewrites.ite
  · intro _ w
    have released : w.Unnests depth w.afterUnlock := w.unnests_afterUnlock
    exact ⟨released.lockCount, released.fits⟩
  · exact fun _ => unnests_bind nests_get fun _ => unnests_unlock _

end Calls

/-! ## All operations -/

theorem nests_map {α β : Type} {depth : Nat} {m : StateM World α} (f : α → β)
    (step : Rewrites (World.Nests depth) m) : Rewrites (World.Nests depth) (f <$> m) := by
  intro w
  rw [wp_map]
  exact step w

/-- Every public operation is balanced. -/
theorem nests_run (env : Env) (c : CoreCall) : Rewrites (World.Nests c.locks) (c.run env) := by
  cases c with
  | userNewByUid uid => exact nests_map _ (nests_loadUser env _)
  | userNewByName username => exact nests_map _ (nests_gumdDaemonUserNewByName env username)
  | userAdd self => exact nests_map _ (nests_runOn (GumdDaemonUser.balances_gumdDaemonUserAdd env))
  | userDelete self rem =>
    exact nests_map _ (nests_runOn (GumdDaemonUser.balances_gumdDaemonUserDelete env rem))
  | userUpdate self =>
    exact nests_map _ (nests_runOn (GumdDaemonUser.balances_gumdDaemonUserUpdate env))
  | userGetUidByName username => exact nests_map _ (nests_gumdDaemonUserGetUidByName username)
  | userGetUserList types => exact nests_map _ (nests_gumdDaemonUserGetUserList _ types)
  | groupNewByGid gid => exact nests_map _ (nests_loadGroup _)
  | groupNewByName groupname => exact nests_map _ (nests_gumdDaemonGroupNewByName groupname)
  | groupAdd self gid =>
    exact nests_map _ (nests_runOn (GumdDaemonGroup.balances_gumdDaemonGroupAdd env gid))
  | groupDelete self =>
    exact nests_map _ (nests_runOn (GumdDaemonGroup.balances_gumdDaemonGroupDelete env))
  | groupUpdate self =>
    exact nests_map _ (nests_runOn (GumdDaemonGroup.balances_gumdDaemonGroupUpdate env))
  | groupAddMember self uid admin =>
    exact nests_map _ (nests_runOn (GumdDaemonGroup.balances_gumdDaemonGroupAddMember uid admin))
  | groupDeleteMember self uid =>
    exact nests_map _ (nests_runOn (GumdDaemonGroup.balances_gumdDaemonGroupDeleteMember uid))
  | groupDeleteUserMembership userName => exact nests_gumdDaemonGroupDeleteUserMembership userName
  | groupGetGidByName groupname => exact nests_map _ (nests_gumdDaemonGroupGetGidByName groupname)

/-- Every public operation returns with the lock count it was called with, as long as its locks fit the
counter, and the count follows the lock of the operating system through a sequence of calls exactly if
it never overflows. -/
theorem lockCount_balanced (env : Env) (c : CoreCall) (w : World) {s : PwdfLock}
    (calls : List LockCall) (zero : s.lockCount = 0) :
    (w.process.lockCount + c.locks ≤ gMaxint →
      ((c.run env).run w).2.process.lockCount = w.process.lockCount ∧
        ((c.run env).run w).2.process.overflowed = w.process.overflowed) ∧
    (PwdfLock.Each (fun s c => 0 ≤ (s.step c).lockCount) s calls ↔
      PwdfLock.Each PwdfLock.Fits s calls) ∧
    (s.held = false → s.ulckpwdf = .const true →
      (PwdfLock.Each (fun s c => (s.step c).held = true ↔ 0 < (s.step c).lockCount) s calls ↔
        PwdfLock.Each PwdfLock.Fits s calls)) ∧
    PwdfLock.gumLockPwdfUnlock.run s = (false, s) := by
  refine ⟨fun room => ?_, ?_, fun free ulckpwdf => ?_, PwdfLock.unlock_zero zero⟩
  · have nests : w.Nests c.locks ((c.run env).run w).2 := nests_run env c w
    exact ⟨nests.lockCount, nests.fits room⟩
  · exact PwdfLock.each_counted_iff calls (by rw [zero]; decide)
  · exact PwdfLock.each_held_iff calls ⟨by rw [zero]; decide, by simp [zero, free], ulckpwdf⟩

/-- One lock after another overflows the counter. -/
theorem PwdfLock.not_each_fits {s : PwdfLock} {n : Nat} (counted : 0 ≤ s.lockCount)
    (granted : s.lckpwdf = .const true) (room : s.lockCount.toInt + n = 2147483647) :
    ¬Each Fits s (List.replicate (n + 1) .lock) := by
  induction n generalizing s with
  | zero =>
    intro each
    apply each.1 rfl
    apply Int32.toInt_inj.mp
    change s.lockCount.toInt = 2147483647
    rw [← room]
    exact (Int.add_zero _).symm
  | succ n ih =>
    rw [List.replicate_succ]
    intro each
    have counted' := (counted_step_iff counted .lock).mpr each.1
    obtain ⟨r, stepped⟩ := s.stepped_step .lock
    have rest := each.2
    generalize s.step .lock = t at stepped rest counted'
    cases stepped with
    | nested taken =>
      refine ih counted' granted ?_ rest
      rw [Counters.toInt_succ (each.1 rfl)]
      omega
    | granted free ok =>
      refine ih counted' (by simp [granted]) ?_ rest
      rw [free] at room
      change (1 : Int) + n = 2147483647
      change (0 : Int) + (n + 1 : Nat) = 2147483647 at room
      omega
    | refused free failed => simp [granted] at failed

namespace Sample

/-- After 2147483648 locks in a row the count is negative. -/
theorem not_each_counted : ¬PwdfLock.Each (fun s c => 0 ≤ (s.step c).lockCount) droppedProcess
    (List.replicate (gMaxint + 1) .lock) := by
  intro each
  have fits := (PwdfLock.each_counted_iff (s := droppedProcess) _ (by decide)).mp each
  exact PwdfLock.not_each_fits (by decide) rfl (by decide) fits

theorem lockCount_balanced_droppedProcess :
    (((CoreCall.userGetUidByName (some (str "alice"))).run env).run
        (system.world (call (.userNew 0)))).2.process.lockCount = 0 ∧
      (PwdfLock.Each (fun s c => 0 ≤ (s.step c).lockCount) droppedProcess
          [.lock, .lock, .unlock, .unlock] ↔
        PwdfLock.Each PwdfLock.Fits droppedProcess [.lock, .lock, .unlock, .unlock]) ∧
      (PwdfLock.Each (fun s c => (s.step c).held = true ↔ 0 < (s.step c).lockCount) droppedProcess
          [.lock, .lock, .unlock, .unlock] ↔
        PwdfLock.Each PwdfLock.Fits droppedProcess [.lock, .lock, .unlock, .unlock]) ∧
      PwdfLock.gumLockPwdfUnlock.run droppedProcess = (false, droppedProcess) := by
  have balanced := lockCount_balanced env (.userGetUidByName (some (str "alice")))
    (system.world (call (.userNew 0))) (s := droppedProcess) [.lock, .lock, .unlock, .unlock] rfl
  obtain ⟨counted, sequences, held, unlocked⟩ := balanced
  exact ⟨(counted (by decide)).1, sequences, held rfl rfl, unlocked⟩

end Sample

end Gumd
