import Gumd.ServerDatabase

/-!
# What an operation reads and writes

An operation on an object depends on the object, the files and its surroundings, and changes no other
object.  Under what number a daemon keeps the object makes no difference.
-/

namespace Gumd

/-- The objects of a kind. -/
abbrev ObjectKind.Object : ObjectKind → Type
  | .user => GumdDaemonUser
  | .group => GumdDaemonGroup

/-- The objects of a kind, by their numbers. -/
def System.objects (s : System) : (k : ObjectKind) → Nat → k.Object
  | .user => s.users
  | .group => s.groups

/-- The object an operation works on. -/
def Operation.target : Operation → Option (ObjectKind × Nat)
  | .userNew i | .userNewByUid i _ | .userNewByName i _ | .userSet i _ | .userAdd i | .userUpdate i
  | .userDelete i _ => some (.user, i)
  | .groupNew i | .groupNewByGid i _ | .groupNewByName i _ | .groupSet i _ | .groupAdd i _ | .groupUpdate i
  | .groupDelete i | .groupAddMember i _ _ | .groupDeleteMember i _ => some (.group, i)
  | .deleteUserMembership _ => none

namespace System

variable {s t : System} {k : ObjectKind} {i j : Nat}

/-! ## Other objects -/

theorem objects_of_users {u : GumdDaemonUser} (users : t.users = Function.update s.users j u)
    (groups : t.groups = s.groups) (other : some (ObjectKind.user, j) ≠ some (k, i)) :
    t.objects k i = s.objects k i := by
  cases k with
  | user =>
    have apart : i ≠ j := fun same => other (by rw [same])
    exact (congrFun users i).trans (Function.update_of_ne apart _ _)
  | group => exact congrFun groups i

theorem objects_of_groups {g : GumdDaemonGroup} (groups : t.groups = Function.update s.groups j g)
    (users : t.users = s.users) (other : some (ObjectKind.group, j) ≠ some (k, i)) :
    t.objects k i = s.objects k i := by
  cases k with
  | user => exact congrFun users i
  | group =>
    have apart : i ≠ j := fun same => other (by rw [same])
    exact (congrFun groups i).trans (Function.update_of_ne apart _ _)

/-- An operation leaves the objects alone that it does not work on. -/
theorem objects_call (s : System) (c : Call) (other : c.operation.target ≠ some (k, i)) :
    (s.call c).2.objects k i = s.objects k i := by
  obtain ⟨env, faults, process, operation⟩ := c
  cases operation with
  | userNew j => exact objects_of_users rfl rfl other
  | userNewByUid j uid => exact objects_of_users rfl rfl other
  | userNewByName j username => exact objects_of_users rfl rfl other
  | userSet j property => exact objects_of_users rfl rfl other
  | userAdd j => exact objects_of_users rfl rfl other
  | userUpdate j => exact objects_of_users rfl rfl other
  | userDelete j remHomeDir => exact objects_of_users rfl rfl other
  | groupNew j => exact objects_of_groups rfl rfl other
  | groupNewByGid j gid => exact objects_of_groups rfl rfl other
  | groupNewByName j groupname => exact objects_of_groups rfl rfl other
  | groupSet j property => exact objects_of_groups rfl rfl other
  | groupAdd j preferredGid => exact objects_of_groups rfl rfl other
  | groupUpdate j => exact objects_of_groups rfl rfl other
  | groupDelete j => exact objects_of_groups rfl rfl other
  | groupAddMember j uid addAsAdmin => exact objects_of_groups rfl rfl other
  | groupDeleteMember j uid => exact objects_of_groups rfl rfl other
  | deleteUserMembership userName => cases k <;> rfl

/-! ## The same object elsewhere -/

/-- Two systems have the same files, and the same object under two numbers. -/
structure Alike (k : ObjectKind) (i j : Nat) (s t : System) : Prop where
  files : s.files = t.files
  object : s.objects k i = t.objects k j

theorem alike_runUser {α : Type} {c d : Call} {m : UserM α} (alike : Alike .user i j s t)
    (faults : c.faults = d.faults) (process : c.process = d.process) :
    (s.runUser c i m).1 = (t.runUser d j m).1 ∧
      Alike .user i j (s.runUser c i m).2 (t.runUser d j m).2 := by
  have world : s.world c = t.world d := by
    rw [System.world, System.world, alike.files, faults, process]
  have object : s.users i = t.users j := alike.object
  rw [runUser, runUser, world, object]
  generalize m.run ⟨t.users j, t.world d⟩ = answer
  obtain ⟨r, u⟩ := answer
  refine ⟨rfl, rfl, ?_⟩
  change Function.update s.users i u.self i = Function.update t.users j u.self j
  rw [Function.update_self, Function.update_self]

theorem alike_runGroup {α : Type} {c d : Call} {m : GroupM α} (alike : Alike .group i j s t)
    (faults : c.faults = d.faults) (process : c.process = d.process) :
    (s.runGroup c i m).1 = (t.runGroup d j m).1 ∧
      Alike .group i j (s.runGroup c i m).2 (t.runGroup d j m).2 := by
  have world : s.world c = t.world d := by
    rw [System.world, System.world, alike.files, faults, process]
  have object : s.groups i = t.groups j := alike.object
  rw [runGroup, runGroup, world, object]
  generalize m.run ⟨t.groups j, t.world d⟩ = answer
  obtain ⟨r, u⟩ := answer
  refine ⟨rfl, rfl, ?_⟩
  change Function.update s.groups i u.self i = Function.update t.groups j u.self j
  rw [Function.update_self, Function.update_self]

end System

/-! ## Methods -/

/-- The operation a method comes down to. -/
def MethodOperation.operation {k : ObjectKind} : MethodOperation k → Nat → Operation
  | .setUserProperty property, i => .userSet i property
  | .addUser, i => .userAdd i
  | .deleteUser remHomeDir, i => .userDelete i remHomeDir
  | .updateUser, i => .userUpdate i
  | .setGroupProperty property, i => .groupSet i property
  | .addGroup _, i => .groupAdd i gumGroupInvalidGid
  | .deleteGroup, i => .groupDelete i
  | .updateGroup, i => .groupUpdate i
  | .addMember uid addAsAdmin, i => .groupAddMember i uid addAsAdmin
  | .deleteMember uid, i => .groupDeleteMember i uid

/-- A daemon runs a method on an object it has created; a property can be written that is no id. -/
def MethodOperation.Runs {k : ObjectKind} (operation : MethodOperation k) (d : GumdDaemon) (i : Nat) :
    Prop :=
  match operation with
  | .setUserProperty property => property.Writable
  | .setGroupProperty property => property.Writable
  | _ => i < d.created k

/-- The call has not failed. -/
def ServerReply.succeeds (reply : ServerReply) : Bool := reply ≠ .error

namespace MethodOperation

variable {k : ObjectKind}

theorem target_operation (operation : MethodOperation k) (i : Nat) :
    (operation.operation i).target = some (k, i) := by
  cases operation <;> rfl

/-- The same method of the same object has the same effect. -/
theorem alike_call (operation : MethodOperation k) (c : Context) {s t : System} {i j : Nat}
    (alike : System.Alike k i j s t) :
    (s.call (c.call (operation.operation i))).1 = (t.call (c.call (operation.operation j))).1 ∧
      System.Alike k i j (s.call (c.call (operation.operation i))).2
        (t.call (c.call (operation.operation j))).2 := by
  cases operation with
  | setUserProperty property =>
    refine ⟨rfl, alike.files, ?_⟩
    have object : s.users i = t.users j := alike.object
    change Function.update s.users i _ i = Function.update t.users j _ j
    rw [Function.update_self, Function.update_self, object]
  | addUser =>
    obtain ⟨same, alike'⟩ := @System.alike_runUser _ _ i j _ (c.call (.userAdd i)) (c.call (.userAdd j))
      (GumdDaemonUser.gumdDaemonUserAdd c.env) alike rfl rfl
    exact ⟨congrArg Option.isSome same, alike'⟩
  | deleteUser remHomeDir => exact System.alike_runUser alike rfl rfl
  | updateUser => exact System.alike_runUser alike rfl rfl
  | setGroupProperty property =>
    refine ⟨rfl, alike.files, ?_⟩
    have object : s.groups i = t.groups j := alike.object
    change Function.update s.groups i _ i = Function.update t.groups j _ j
    rw [Function.update_self, Function.update_self, object]
  | addGroup preferredGid =>
    obtain ⟨same, alike'⟩ := @System.alike_runGroup _ _ i j _
      (c.call (.groupAdd i gumGroupInvalidGid)) (c.call (.groupAdd j gumGroupInvalidGid))
      (GumdDaemonGroup.gumdDaemonGroupAdd c.env gumGroupInvalidGid) alike rfl rfl
    exact ⟨congrArg Option.isSome same, alike'⟩
  | deleteGroup => exact System.alike_runGroup alike rfl rfl
  | updateGroup => exact System.alike_runGroup alike rfl rfl
  | addMember uid addAsAdmin => exact System.alike_runGroup alike rfl rfl
  | deleteMember uid => exact System.alike_runGroup alike rfl rfl

/-! ## What the daemon makes of a method -/

variable {operation : MethodOperation k} {c : Context} {d e : GumdDaemon} {i j : Nat}

theorem runs_alike (here : i < d.created k) (there : j < e.created k) :
    operation.Runs d i ↔ operation.Runs e j := by
  cases operation with
  | setUserProperty property => exact Iff.rfl
  | setGroupProperty property => exact Iff.rfl
  | _ => exact iff_of_true here there

/-- A method that is run is the call of its operation. -/
theorem handle_runs (runs : operation.Runs d i) :
    (operation.handle c d i).2.system = (d.system.call (c.call (operation.operation i))).2 ∧
      (operation.handle c d i).1.succeeds = (d.system.call (c.call (operation.operation i))).1 := by
  have done : ∀ done : Bool, (ServerReply.ofDone done).succeeds = done := by decide
  cases operation with
  | setUserProperty property =>
    rw [handle, UserAdapter.setProperty, GumdDaemon.setProperty, if_pos (by exact runs)]
    exact ⟨rfl, rfl⟩
  | addUser =>
    have here : i < d.userCount := runs
    rw [handle, UserAdapter.handleAddUser, GumdDaemon.addUser, if_pos here, MethodOperation.operation]
    generalize d.system.call (c.call (.userAdd i)) = answer
    obtain ⟨added, s⟩ := answer
    cases added with
    | false => exact ⟨rfl, rfl⟩
    | true =>
      dsimp only
      rw [if_neg (by decide)]
      by_cases new : (d.users (s.users i).pw.pwUid).isNone
      · rw [if_pos new]
        exact ⟨rfl, rfl⟩
      · rw [if_neg new]
        exact ⟨rfl, rfl⟩
  | deleteUser remHomeDir =>
    have here : i < d.userCount := runs
    rw [handle, UserAdapter.handleDeleteUser, GumdDaemon.deleteUser, if_pos here]
    exact ⟨rfl, done _⟩
  | updateUser =>
    have here : i < d.userCount := runs
    rw [handle, UserAdapter.handleUpdateUser, GumdDaemon.updateUser, if_pos here]
    exact ⟨rfl, done _⟩
  | setGroupProperty property =>
    rw [handle, GroupAdapter.setProperty, GumdDaemon.setProperty, if_pos (by exact runs)]
    exact ⟨rfl, rfl⟩
  | addGroup preferredGid =>
    have here : i < d.groupCount := runs
    rw [handle, GroupAdapter.handleAddGroup, GumdDaemon.addGroup, if_pos here, MethodOperation.operation]
    generalize d.system.call (c.call (.groupAdd i gumGroupInvalidGid)) = answer
    obtain ⟨added, s⟩ := answer
    cases added with
    | false => exact ⟨rfl, rfl⟩
    | true =>
      dsimp only
      rw [if_neg (by decide)]
      by_cases new : (d.groups (s.groups i).group.grGid).isNone
      · rw [if_pos new]
        exact ⟨rfl, rfl⟩
      · rw [if_neg new]
        exact ⟨rfl, rfl⟩
  | deleteGroup =>
    have here : i < d.groupCount := runs
    rw [handle, GroupAdapter.handleDeleteGroup, GumdDaemon.deleteGroup, if_pos here]
    exact ⟨rfl, done _⟩
  | updateGroup =>
    have here : i < d.groupCount := runs
    rw [handle, GroupAdapter.handleUpdateGroup, GumdDaemon.updateGroup, if_pos here]
    exact ⟨rfl, done _⟩
  | addMember uid addAsAdmin =>
    have here : i < d.groupCount := runs
    rw [handle, GroupAdapter.handleAddGroupMember, GumdDaemon.addGroupMember, GumdDaemon.changeMembers,
      if_pos here]
    exact ⟨rfl, done _⟩
  | deleteMember uid =>
    have here : i < d.groupCount := runs
    rw [handle, GroupAdapter.handleDeleteGroupMember, GumdDaemon.deleteGroupMember,
      GumdDaemon.changeMembers, if_pos here]
    exact ⟨rfl, done _⟩

/-- A method that is not run changes nothing. -/
theorem handle_refused (refused : ¬operation.Runs d i) : operation.handle c d i = (.error, d) := by
  cases operation with
  | setUserProperty property => exact if_neg refused
  | setGroupProperty property => exact if_neg refused
  | addUser =>
    have missing : ¬i < d.userCount := refused
    rw [handle, UserAdapter.handleAddUser, GumdDaemon.addUser, if_neg missing]
    rfl
  | deleteUser remHomeDir =>
    have missing : ¬i < d.userCount := refused
    rw [handle, UserAdapter.handleDeleteUser, GumdDaemon.deleteUser, if_neg missing]
    rfl
  | updateUser =>
    have missing : ¬i < d.userCount := refused
    rw [handle, UserAdapter.handleUpdateUser, GumdDaemon.updateUser, if_neg missing]
    rfl
  | addGroup preferredGid =>
    have missing : ¬i < d.groupCount := refused
    rw [handle, GroupAdapter.handleAddGroup, GumdDaemon.addGroup, if_neg missing]
    rfl
  | deleteGroup =>
    have missing : ¬i < d.groupCount := refused
    rw [handle, GroupAdapter.handleDeleteGroup, GumdDaemon.deleteGroup, if_neg missing]
    rfl
  | updateGroup =>
    have missing : ¬i < d.groupCount := refused
    rw [handle, GroupAdapter.handleUpdateGroup, GumdDaemon.updateGroup, if_neg missing]
    rfl
  | addMember uid addAsAdmin =>
    have missing : ¬i < d.groupCount := refused
    rw [handle, GroupAdapter.handleAddGroupMember, GumdDaemon.addGroupMember, GumdDaemon.changeMembers,
      if_neg missing]
    rfl
  | deleteMember uid =>
    have missing : ¬i < d.groupCount := refused
    rw [handle, GroupAdapter.handleDeleteGroupMember, GumdDaemon.deleteGroupMember,
      GumdDaemon.changeMembers, if_neg missing]
    rfl

/-- Two daemons that have the same object do the same to it. -/
theorem handle_alike (operation : MethodOperation k) (c : Context)
    (alike : System.Alike k i j d.system e.system) (here : i < d.created k) (there : j < e.created k) :
    (operation.handle c d i).1.succeeds = (operation.handle c e j).1.succeeds ∧
      System.Alike k i j (operation.handle c d i).2.system (operation.handle c e j).2.system := by
  by_cases runs : operation.Runs d i
  · obtain ⟨system, done⟩ := @handle_runs k operation c d i runs
    obtain ⟨system', done'⟩ := @handle_runs k operation c e j ((runs_alike here there).mp runs)
    rw [system, done, system', done']
    exact operation.alike_call c alike
  · rw [handle_refused runs, handle_refused (runs ∘ (runs_alike here there).mpr)]
    exact ⟨rfl, alike⟩

/-- A method leaves the other objects alone. -/
theorem objects_handle {k' : ObjectKind} {i' : Nat} (operation : MethodOperation k) (c : Context)
    (d : GumdDaemon) (other : some (k, i) ≠ some (k', i')) :
    (operation.handle c d i).2.system.objects k' i' = d.system.objects k' i' := by
  by_cases runs : operation.Runs d i
  · rw [(handle_runs runs).1]
    apply System.objects_call
    change (operation.operation i).target ≠ _
    rwa [target_operation]
  · rw [handle_refused runs]

end MethodOperation

/-! ## Objects that are handed out -/

namespace GumdDaemon

variable {k k' : ObjectKind} {i' : Nat}

theorem objects_objectNew (d : GumdDaemon) (k : ObjectKind) (c : Context)
    (other : some (k, d.created k) ≠ some (k', i')) :
    (d.objectNew k c).2.system.objects k' i' = d.system.objects k' i' := by
  cases k <;> exact d.system.objects_call _ other

theorem objects_getObject (d : GumdDaemon) (k : ObjectKind) (c : Context) (id : UInt32)
    (other : some (k, d.created k) ≠ some (k', i')) :
    (d.getObject k c id).2.system.objects k' i' = d.system.objects k' i' := by
  cases k
  · have loaded := d.system.objects_call (c.call (.userNewByUid d.userCount id)) other
    rw [getObject, getUser]
    cases d.users id with
    | some user => rfl
    | none =>
      dsimp only
      split_ifs <;> exact loaded
  · have loaded := d.system.objects_call (c.call (.groupNewByGid d.groupCount id)) other
    rw [getObject, getGroup]
    cases d.groups id with
    | some group => rfl
    | none =>
      dsimp only
      split_ifs <;> exact loaded

end GumdDaemon

end Gumd
