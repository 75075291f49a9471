import Gumd.System

/-!
# `GumdDaemon`

The daemon hands out user and group objects and announces what happens to the accounts.  Its tables
lead from the ids to the objects it knows; an entry stays until its object is finalised.
-/

namespace Gumd

/-! ## The daemon -/

/-- The signals of the daemon. -/
inductive Signal where
  | userAdded (uid : UInt32)
  | userDeleted (uid : UInt32)
  | userUpdated (uid : UInt32)
  | groupAdded (gid : UInt32)
  | groupDeleted (gid : UInt32)
  | groupUpdated (gid : UInt32)
  deriving DecidableEq, Repr

/-- The files, the objects that have been created, and the tables of weak references to them. -/
structure GumdDaemon where
  system : System
  userCount : Nat
  groupCount : Nat
  users : UInt32 → Option Nat
  groups : UInt32 → Option Nat

/-- What a call depends on besides its arguments and the daemon. -/
structure Context where
  env : Env
  faults : Faults
  process : Process

def Context.call (c : Context) (operation : Operation) : Call :=
  ⟨c.env, c.faults, c.process, operation⟩

/-- The signal of a successful call, which an invalid id suppresses. -/
def announce (done : Bool) (signal : UInt32 → Signal) (id invalid : UInt32) : List Signal :=
  if done ∧ id ≠ invalid then [signal id] else []

namespace GumdDaemon

/-- A daemon that has handed out nothing. -/
def new (system : System) : GumdDaemon := ⟨system, 0, 0, fun _ => none, fun _ => none⟩

/-! ## Users -/

/-- `gumd_daemon_user_new`. -/
def userNew (d : GumdDaemon) (c : Context) : Nat × GumdDaemon :=
  (d.userCount, { d with
    system := d.system.step (c.call (.userNew d.userCount)), userCount := d.userCount + 1 })

/-- `_on_user_disposed`. -/
def onUserDisposed (d : GumdDaemon) (user : Nat) : GumdDaemon :=
  { d with users := fun uid => (d.users uid).filter (· ≠ user) }

/-- `gumd_daemon_get_user`. -/
def getUser (d : GumdDaemon) (c : Context) (uid : UInt32) : Option Nat × GumdDaemon :=
  match d.users uid with
  | some user => (some user, d)
  | none =>
      let user := d.userCount
      let (loaded, s) := d.system.call (c.call (.userNewByUid user uid))
      if loaded then
        (some user, { d with
          system := s, userCount := user + 1, users := Function.update d.users uid (some user) })
      else (none, { d with system := s })

/-- `gumd_daemon_get_user_by_name`. -/
def getUserByName (d : GumdDaemon) (c : Context) (username : Option Str) :
    Option Nat × GumdDaemon :=
  let (uid, w) := (gumdDaemonUserGetUidByName username).run
    ⟨d.system.files, c.faults, c.process, none⟩
  if uid = gumUserInvalidUid then (none, d)
  else d.getUser ⟨c.env, w.faults, w.process⟩ uid

/-- `gumd_daemon_add_user`: a user the table has under the uid is not announced. -/
def addUser (d : GumdDaemon) (c : Context) (user : Nat) : Bool × List Signal × GumdDaemon :=
  if user < d.userCount then
    let (added, s) := d.system.call (c.call (.userAdd user))
    let uid := (s.users user).pw.pwUid
    if !added then (false, [], { d with system := s })
    else if (d.users uid).isNone then
      (true, [.userAdded uid],
        { d with system := s, users := Function.update d.users uid (some user) })
    else (true, [], { d with system := s })
  else (false, [], d)

/-- `gumd_daemon_delete_user`; the table is left as it is. -/
def deleteUser (d : GumdDaemon) (c : Context) (user : Nat) (remHomeDir : Bool) :
    Bool × List Signal × GumdDaemon :=
  if user < d.userCount then
    let uid := (d.system.users user).pw.pwUid
    let (deleted, s) := d.system.call (c.call (.userDelete user remHomeDir))
    (deleted, announce deleted .userDeleted uid gumUserInvalidUid, { d with system := s })
  else (false, [], d)

/-- `gumd_daemon_update_user`. -/
def updateUser (d : GumdDaemon) (c : Context) (user : Nat) : Bool × List Signal × GumdDaemon :=
  if user < d.userCount then
    let (updated, s) := d.system.call (c.call (.userUpdate user))
    (updated, announce updated .userUpdated (s.users user).pw.pwUid gumUserInvalidUid,
      { d with system := s })
  else (false, [], d)

/-! ## Groups -/

/-- `gumd_daemon_group_new`. -/
def groupNew (d : GumdDaemon) (c : Context) : Nat × GumdDaemon :=
  (d.groupCount, { d with
    system := d.system.step (c.call (.groupNew d.groupCount)), groupCount := d.groupCount + 1 })

/-- `_on_group_disposed`. -/
def onGroupDisposed (d : GumdDaemon) (group : Nat) : GumdDaemon :=
  { d with groups := fun gid => (d.groups gid).filter (· ≠ group) }

/-- `gumd_daemon_get_group`. -/
def getGroup (d : GumdDaemon) (c : Context) (gid : UInt32) : Option Nat × GumdDaemon :=
  match d.groups gid with
  | some group => (some group, d)
  | none =>
      let group := d.groupCount
      let (loaded, s) := d.system.call (c.call (.groupNewByGid group gid))
      if loaded then
        (some group, { d with
          system := s, groupCount := group + 1
          groups := Function.update d.groups gid (some group) })
      else (none, { d with system := s })

/-- `gumd_daemon_get_group_by_name`. -/
def getGroupByName (d : GumdDaemon) (c : Context) (groupname : Option Str) :
    Option Nat × GumdDaemon :=
  let (gid, w) := (gumdDaemonGroupGetGidByName groupname).run
    ⟨d.system.files, c.faults, c.process, none⟩
  if gid = gumGroupInvalidGid then (none, d)
  else d.getGroup ⟨c.env, w.faults, w.process⟩ gid

/-- `gumd_daemon_add_group`, which announces nothing. -/
def addGroup (d : GumdDaemon) (c : Context) (group : Nat) : Bool × List Signal × GumdDaemon :=
  if group < d.groupCount then
    let (added, s) := d.system.call (c.call (.groupAdd group gumGroupInvalidGid))
    let gid := (s.groups group).group.grGid
    if !added then (false, [], { d with system := s })
    else if (d.groups gid).isNone then
      (true, [], { d with system := s, groups := Function.update d.groups gid (some group) })
    else (true, [], { d with system := s })
  else (false, [], d)

/-- `gumd_daemon_delete_group`; the table is left as it is. -/
def deleteGroup (d : GumdDaemon) (c : Context) (group : Nat) : Bool × List Signal × GumdDaemon :=
  if group < d.groupCount then
    let gid := (d.system.groups group).group.grGid
    let (deleted, s) := d.system.call (c.call (.groupDelete group))
    (deleted, announce deleted .groupDeleted gid gumGroupInvalidGid, { d with system := s })
  else (false, [], d)

/-- `gumd_daemon_update_group`. -/
def updateGroup (d : GumdDaemon) (c : Context) (group : Nat) : Bool × List Signal × GumdDaemon :=
  if group < d.groupCount then
    let (updated, s) := d.system.call (c.call (.groupUpdate group))
    (updated, announce updated .groupUpdated (s.groups group).group.grGid gumGroupInvalidGid,
      { d with system := s })
  else (false, [], d)

/-- `gumd_daemon_add_group_member` and `gumd_daemon_delete_group_member`, which differ in the
operation of the group. -/
def changeMembers (d : GumdDaemon) (c : Context) (group : Nat) (operation : Operation) :
    Bool × GumdDaemon :=
  if group < d.groupCount then
    let (changed, s) := d.system.call (c.call operation)
    (changed, { d with system := s })
  else (false, d)

def addGroupMember (d : GumdDaemon) (c : Context) (group : Nat) (uid : UInt32)
    (addAsAdmin : Bool) : Bool × GumdDaemon :=
  d.changeMembers c group (.groupAddMember group uid addAsAdmin)

def deleteGroupMember (d : GumdDaemon) (c : Context) (group : Nat) (uid : UInt32) :
    Bool × GumdDaemon :=
  d.changeMembers c group (.groupDeleteMember group uid)

end GumdDaemon

/-! ## Calls and runs -/

/-- What the owners of objects can ask for, the last references to objects being dropped
included. -/
inductive DaemonOperation where
  | userNew
  | getUser (uid : UInt32)
  | getUserByName (username : Option Str)
  | userSet (user : Nat) (property : UserProperty)
  | addUser (user : Nat)
  | deleteUser (user : Nat) (remHomeDir : Bool)
  | updateUser (user : Nat)
  | releaseUser (user : Nat)
  | groupNew
  | getGroup (gid : UInt32)
  | getGroupByName (groupname : Option Str)
  | groupSet (group : Nat) (property : GroupProperty)
  | addGroup (group : Nat)
  | deleteGroup (group : Nat)
  | updateGroup (group : Nat)
  | releaseGroup (group : Nat)
  | addGroupMember (group : Nat) (uid : UInt32) (addAsAdmin : Bool)
  | deleteGroupMember (group : Nat) (uid : UInt32)
  deriving DecidableEq, Repr

structure DaemonCall extends Context where
  operation : DaemonOperation

/-- What a call returns, and the signals it emits. -/
structure Reply where
  done : Bool
  object : Option Nat
  signals : List Signal
  deriving DecidableEq, Repr

namespace GumdDaemon

/-- The reply of a function that returns an object. -/
def handOut : Option Nat × GumdDaemon → Reply × GumdDaemon
  | (object, d) => (⟨object.isSome, object, []⟩, d)

/-- The reply of a function that returns whether it has succeeded. -/
def report : Bool × List Signal × GumdDaemon → Reply × GumdDaemon
  | (done, signals, d) => (⟨done, none, signals⟩, d)

/-- What a call returns, and the daemon after it. -/
def call (d : GumdDaemon) (c : DaemonCall) : Reply × GumdDaemon :=
  match c.operation with
  | .userNew =>
      let (user, d) := d.userNew c.toContext
      (⟨true, some user, []⟩, d)
  | .getUser uid => handOut (d.getUser c.toContext uid)
  | .getUserByName username => handOut (d.getUserByName c.toContext username)
  | .userSet user property =>
      (⟨true, none, []⟩, { d with system := d.system.step (c.toContext.call (.userSet user property)) })
  | .addUser user => report (d.addUser c.toContext user)
  | .deleteUser user remHomeDir => report (d.deleteUser c.toContext user remHomeDir)
  | .updateUser user => report (d.updateUser c.toContext user)
  | .releaseUser user => (⟨true, none, []⟩, d.onUserDisposed user)
  | .groupNew =>
      let (group, d) := d.groupNew c.toContext
      (⟨true, some group, []⟩, d)
  | .getGroup gid => handOut (d.getGroup c.toContext gid)
  | .getGroupByName groupname => handOut (d.getGroupByName c.toContext groupname)
  | .groupSet group property =>
      (⟨true, none, []⟩, { d with system := d.system.step (c.toContext.call (.groupSet group property)) })
  | .addGroup group => report (d.addGroup c.toContext group)
  | .deleteGroup group => report (d.deleteGroup c.toContext group)
  | .updateGroup group => report (d.updateGroup c.toContext group)
  | .releaseGroup group => (⟨true, none, []⟩, d.onGroupDisposed group)
  | .addGroupMember group uid addAsAdmin =>
      let (done, d) := d.addGroupMember c.toContext group uid addAsAdmin
      (⟨done, none, []⟩, d)
  | .deleteGroupMember group uid =>
      let (done, d) := d.deleteGroupMember c.toContext group uid
      (⟨done, none, []⟩, d)

def step (d : GumdDaemon) (c : DaemonCall) : GumdDaemon := (d.call c).2

/-- Every call of a run is made in a daemon that satisfies `P`. -/
def Each (P : GumdDaemon → DaemonCall → Prop) : GumdDaemon → List DaemonCall → Prop
  | _, [] => True
  | d, c :: rest => P d c ∧ Each P (d.step c) rest

/-- What each call keeps if it satisfies `P`, with what it achieves by that. -/
theorem Each.invariant {P Q : GumdDaemon → DaemonCall → Prop} {I : GumdDaemon → Prop}
    (keeps : ∀ d c, P d c → I d → Q d c ∧ I (d.step c)) {calls : List DaemonCall}
    {d : GumdDaemon} (each : Each P d calls) (start : I d) : Each Q d calls := by
  induction calls generalizing d with
  | nil => trivial
  | cons c rest ih =>
    obtain ⟨achieved, kept⟩ := keeps d c each.1 start
    exact ⟨achieved, ih each.2 kept⟩

end GumdDaemon

end Gumd
