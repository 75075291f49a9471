import Gumd.UserService

/-!
# The services of the D-Bus server

The user service and the group service share one daemon.  Each keeps a list of the adapters it has
created, and both handle their requests alike: the two kinds of objects differ in the functions of the
daemon.  Here an object goes with the last adapter that has it.
-/

namespace Gumd

/-- The kinds of objects; each has a table of the daemon, and a service. -/
inductive ObjectKind where
  | user
  | group
  deriving DecidableEq, Repr

def ObjectKind.other : ObjectKind → ObjectKind
  | .user => .group
  | .group => .user

/-- `PeerUserService` and `PeerGroupService`, with the object and the `delete-later` mark of the
adapter. -/
structure Peer where
  peerName : Str
  adapter : Nat
  object : Nat
  deleteLater : Bool
  deriving DecidableEq, Repr

/-- `GumdDbusUserServiceAdapter` and `GumdDbusGroupServiceAdapter`, each with the counter of the paths of
its adapters. -/
structure Services where
  daemon : GumdDaemon
  peers : ObjectKind → List Peer
  objectCounter : ObjectKind → Nat

/-- What a method call is answered with; the id is that of an object that was added. -/
inductive ServerReply where
  | path (adapter : Nat)
  | id (id : UInt32)
  | done
  | error
  deriving DecidableEq, Repr

/-- A property of a group that its D-Bus interface lets a client write. -/
def GroupProperty.Writable : GroupProperty → Prop
  | .gid _ => False
  | _ => True

instance : DecidablePred GroupProperty.Writable := fun property =>
  match property with
  | .gid _ => isFalse id
  | .grouptype _ | .groupname _ | .secret _ => isTrue trivial

/-! ## What the kinds differ in -/

/-- `gumd_daemon_user_get_uid_by_name` and `gumd_daemon_group_get_gid_by_name`. -/
def ObjectKind.getIdByName : ObjectKind → Option Str → StateM World UInt32
  | .user => gumdDaemonUserGetUidByName
  | .group => gumdDaemonGroupGetGidByName

def ObjectKind.invalidId : ObjectKind → UInt32
  | .user => gumUserInvalidUid
  | .group => gumGroupInvalidGid

namespace GumdDaemon

/-- The table of weak references. -/
def table (d : GumdDaemon) : ObjectKind → UInt32 → Option Nat
  | .user => d.users
  | .group => d.groups

/-- The number of objects that have been created. -/
def created (d : GumdDaemon) : ObjectKind → Nat
  | .user => d.userCount
  | .group => d.groupCount

/-- `gumd_daemon_user_new` and `gumd_daemon_group_new`. -/
def objectNew (d : GumdDaemon) : ObjectKind → Context → Nat × GumdDaemon
  | .user => d.userNew
  | .group => d.groupNew

/-- `gumd_daemon_get_user` and `gumd_daemon_get_group`. -/
def getObject (d : GumdDaemon) : ObjectKind → Context → UInt32 → Option Nat × GumdDaemon
  | .user => d.getUser
  | .group => d.getGroup

/-- `_on_user_disposed` and `_on_group_disposed`. -/
def onObjectDisposed (d : GumdDaemon) : ObjectKind → Nat → GumdDaemon
  | .user => d.onUserDisposed
  | .group => d.onGroupDisposed

/-- `gumd_dbus_user_adapter_get_uid` and `gumd_dbus_group_adapter_get_gid`. -/
def objectId (d : GumdDaemon) : ObjectKind → Nat → UInt32
  | .user, i => (d.system.users i).pw.pwUid
  | .group, i => (d.system.groups i).group.grGid

end GumdDaemon

/-! ## The requests of one kind -/

namespace Services

/-- Services that have created no adapter. -/
def new (system : System) : Services := ⟨.new system, fun _ => [], fun _ => 0⟩

/-- The adapter of the number. -/
def peer (s : Services) (k : ObjectKind) (adapter : Nat) : Option Peer :=
  (s.peers k).find? (·.adapter = adapter)

/-- `_get_user_adapter_from_cache` and `_get_dbus_group_from_cache`. -/
def getAdapterFromCache (s : Services) (k : ObjectKind) (sender : Str) (id : UInt32) : Option Nat :=
  if id = k.invalidId then none
  else
    ((s.peers k).find? fun p =>
      sender = p.peerName ∧ s.daemon.objectId k p.object = id ∧ !p.deleteLater).map (·.adapter)

/-- `_create_and_cache_user_adapter` and `_create_and_cache_dbus_group`. -/
def createAndCacheAdapter (s : Services) (k : ObjectKind) (object : Nat) (sender : Str) : Nat × Services :=
  (s.objectCounter k, { s with
    peers := Function.update s.peers k
      (s.peers k ++ [⟨sender, s.objectCounter k, object, false⟩])
    objectCounter := Function.update s.objectCounter k (s.objectCounter k + 1) })

/-- `_handle_create_new_user` and `_handle_create_new_group`. -/
def handleCreateNew (s : Services) (k : ObjectKind) (c : Context) (sender : Str) :
    ServerReply × Services :=
  let (object, d) := s.daemon.objectNew k c
  let (adapter, s) := { s with daemon := d }.createAndCacheAdapter k object sender
  (.path adapter, s)

/-- `_handle_get_user` and `_handle_get_group`. -/
def handleGet (s : Services) (k : ObjectKind) (c : Context) (sender : Str) (id : UInt32) :
    ServerReply × Services :=
  match s.getAdapterFromCache k sender id with
  | some adapter => (.path adapter, s)
  | none =>
      match s.daemon.getObject k c id with
      | (none, d) => (.error, { s with daemon := d })
      | (some object, d) =>
          let (adapter, s) := { s with daemon := d }.createAndCacheAdapter k object sender
          (.path adapter, s)

/-- `_handle_get_user_by_name` and `_handle_get_group_by_name`. -/
def handleGetByName (s : Services) (k : ObjectKind) (c : Context) (sender : Str) (name : Option Str) :
    ServerReply × Services :=
  let (id, w) := (k.getIdByName name).run ⟨s.daemon.system.files, c.faults, c.process, none⟩
  s.handleGet k ⟨c.env, w.faults, w.process⟩ sender id

/-- A method of an adapter, which the daemon runs on the adapter's object. -/
def onObject (s : Services) (k : ObjectKind) (adapter : Nat)
    (method : GumdDaemon → Nat → ServerReply × GumdDaemon) : ServerReply × Services :=
  match s.peer k adapter with
  | none => (.error, s)
  | some p => ((method s.daemon p.object).1, { s with daemon := (method s.daemon p.object).2 })

/-- `gum_disposable_delete_later`. -/
def deleteLater (s : Services) (k : ObjectKind) (adapter : Nat) : Services :=
  { s with peers := Function.update s.peers k ((s.peers k).map fun p =>
      if p.adapter = adapter then { p with deleteLater := true } else p) }

/-- A method that deletes the object of an adapter. -/
def onDeleted (s : Services) (k : ObjectKind) (adapter : Nat)
    (method : GumdDaemon → Nat → ServerReply × GumdDaemon) : ServerReply × Services :=
  let (reply, s) := s.onObject k adapter method
  (reply, if reply = .done then s.deleteLater k adapter else s)

/-- An adapter goes, and its object with it unless another adapter has it.  The handler that the adapter
has connected to its object is not looked at here: it stays connected, and `Server` says when it runs. -/
def release (s : Services) (k : ObjectKind) (p : Peer) : Services :=
  let rest := (s.peers k).filter (·.adapter ≠ p.adapter)
  { s with
    peers := Function.update s.peers k rest
    daemon :=
      if rest.any (·.object = p.object) then s.daemon else s.daemon.onObjectDisposed k p.object }

/-- `_on_dbus_user_adapter_disposed` and `_on_dbus_group_adapter_disposed`. -/
def onAdapterDisposed (s : Services) (k : ObjectKind) (adapter : Nat) : Services :=
  (s.peer k adapter).elim s (s.release k)

/-- `_on_bus_name_lost` of either service. -/
def onBusNameLost (s : Services) (k : ObjectKind) (peerName : Str) : Services :=
  ((s.peers k).filter (·.peerName = peerName)).foldl (release · k) s

end Services

/-! ## The methods of an adapter -/

/-- A write of a property over D-Bus, which reaches the object by `_on_dbus_property_changed`.  No other
handler of the object runs here, and a string is passed on as it is: on the bus there is no null one. -/
def GumdDaemon.setProperty (writable : Prop) [Decidable writable] (operation : Nat → Operation)
    (c : Context) (d : GumdDaemon) (object : Nat) : ServerReply × GumdDaemon :=
  if writable then (.done, { d with system := d.system.step (c.call (operation object)) })
  else (.error, d)

/-- What a method is answered with that returns nothing but whether it has succeeded. -/
def ServerReply.ofDone (done : Bool) : ServerReply := if done then .done else .error

namespace UserAdapter

def setProperty (property : UserProperty) :=
  GumdDaemon.setProperty property.Writable (.userSet · property)

/-- `_handle_add_user`. -/
def handleAddUser (c : Context) (d : GumdDaemon) (user : Nat) : ServerReply × GumdDaemon :=
  let (added, _, d) := d.addUser c user
  (if added then .id (d.objectId .user user) else .error, d)

/-- `_handle_delete_user`. -/
def handleDeleteUser (remHomeDir : Bool) (c : Context) (d : GumdDaemon) (user : Nat) :
    ServerReply × GumdDaemon :=
  let (deleted, _, d) := d.deleteUser c user remHomeDir
  (.ofDone deleted, d)

/-- `_handle_update_user`. -/
def handleUpdateUser (c : Context) (d : GumdDaemon) (user : Nat) : ServerReply × GumdDaemon :=
  let (updated, _, d) := d.updateUser c user
  (.ofDone updated, d)

end UserAdapter

namespace GroupAdapter

def setProperty (property : GroupProperty) :=
  GumdDaemon.setProperty property.Writable (.groupSet · property)

/-- `_handle_add_group`; the preferred gid of the call does not get as far as the handler. -/
def handleAddGroup (c : Context) (d : GumdDaemon) (group : Nat) : ServerReply × GumdDaemon :=
  let (added, _, d) := d.addGroup c group
  (if added then .id (d.objectId .group group) else .error, d)

/-- `_handle_delete_group`. -/
def handleDeleteGroup (c : Context) (d : GumdDaemon) (group : Nat) : ServerReply × GumdDaemon :=
  let (deleted, _, d) := d.deleteGroup c group
  (.ofDone deleted, d)

/-- `_handle_update_group`. -/
def handleUpdateGroup (c : Context) (d : GumdDaemon) (group : Nat) : ServerReply × GumdDaemon :=
  let (updated, _, d) := d.updateGroup c group
  (.ofDone updated, d)

/-- `_handle_add_group_member`. -/
def handleAddGroupMember (uid : UInt32) (addAsAdmin : Bool) (c : Context) (d : GumdDaemon)
    (group : Nat) : ServerReply × GumdDaemon :=
  let (added, d) := d.addGroupMember c group uid addAsAdmin
  (.ofDone added, d)

/-- `_handle_delete_group_member`. -/
def handleDeleteGroupMember (uid : UInt32) (c : Context) (d : GumdDaemon) (group : Nat) :
    ServerReply × GumdDaemon :=
  let (deleted, d) := d.deleteGroupMember c group uid
  (.ofDone deleted, d)

end GroupAdapter

/-! ## Calls -/

/-- What a service does for its peers, the main loop and the bus, whatever its kind. -/
inductive RequestOperation where
  | createNew (sender : Str)
  | get (sender : Str) (id : UInt32)
  | getByName (sender : Str) (name : Option Str)
  | dispose (adapter : Nat)
  | busNameLost (peerName : Str)
  deriving DecidableEq, Repr

/-- A method of an adapter, or a write of one of its properties. -/
inductive MethodOperation : ObjectKind → Type where
  | setUserProperty (property : UserProperty) : MethodOperation .user
  | addUser : MethodOperation .user
  | deleteUser (remHomeDir : Bool) : MethodOperation .user
  | updateUser : MethodOperation .user
  | setGroupProperty (property : GroupProperty) : MethodOperation .group
  | addGroup (preferredGid : UInt32) : MethodOperation .group
  | deleteGroup : MethodOperation .group
  | updateGroup : MethodOperation .group
  | addMember (uid : UInt32) (addAsAdmin : Bool) : MethodOperation .group
  | deleteMember (uid : UInt32) : MethodOperation .group
  deriving DecidableEq, Repr

namespace MethodOperation

variable {k : ObjectKind}

/-- A successful call ends the life of the object. -/
def deletes : MethodOperation k → Bool
  | .deleteUser _ | .deleteGroup => true
  | _ => false

/-- A write of a property, which is no call of the adapter's interface. -/
def writes : MethodOperation k → Bool
  | .setUserProperty _ | .setGroupProperty _ => true
  | _ => false

/-- What the adapter does with its object. -/
def handle : MethodOperation k → Context → GumdDaemon → Nat → ServerReply × GumdDaemon
  | .setUserProperty property => UserAdapter.setProperty property
  | .addUser => UserAdapter.handleAddUser
  | .deleteUser remHomeDir => UserAdapter.handleDeleteUser remHomeDir
  | .updateUser => UserAdapter.handleUpdateUser
  | .setGroupProperty property => GroupAdapter.setProperty property
  | .addGroup _ => GroupAdapter.handleAddGroup
  | .deleteGroup => GroupAdapter.handleDeleteGroup
  | .updateGroup => GroupAdapter.handleUpdateGroup
  | .addMember uid addAsAdmin => GroupAdapter.handleAddGroupMember uid addAsAdmin
  | .deleteMember uid => GroupAdapter.handleDeleteGroupMember uid

end MethodOperation

/-- What a server is asked for. -/
inductive ServerOperation where
  | request (k : ObjectKind) (operation : RequestOperation)
  | method (k : ObjectKind) (adapter : Nat) (operation : MethodOperation k)
  deriving DecidableEq, Repr

structure ServerCall extends Context where
  operation : ServerOperation

namespace Services

/-- What a call is answered with, and the services after it. -/
def call (s : Services) (c : ServerCall) : ServerReply × Services :=
  match c.operation with
  | .request k (.createNew sender) => s.handleCreateNew k c.toContext sender
  | .request k (.get sender id) => s.handleGet k c.toContext sender id
  | .request k (.getByName sender name) => s.handleGetByName k c.toContext sender name
  | .request k (.dispose adapter) => (.done, s.onAdapterDisposed k adapter)
  | .request k (.busNameLost peerName) => (.done, s.onBusNameLost k peerName)
  | .method k adapter operation =>
      if operation.deletes then s.onDeleted k adapter (operation.handle c.toContext)
      else s.onObject k adapter (operation.handle c.toContext)

/-- What the calls are answered with, one after another, and the services after them. -/
def serve (s : Services) : List ServerCall → List ServerReply × Services
  | [] => ([], s)
  | c :: rest =>
      let (reply, s) := s.call c
      let (replies, s) := s.serve rest
      (reply :: replies, s)

end Services

/-! ## The user service of a server -/

def Peer.toPeerUser (p : Peer) : PeerUser := ⟨p.peerName, p.adapter, p.object, p.deleteLater⟩

def ServiceReply.toServerReply : ServiceReply → ServerReply
  | .path adapter => .path adapter
  | .uid value => .id value
  | .done => .done
  | .error => .error

def ServiceOperation.toServerOperation : ServiceOperation → ServerOperation
  | .createNewUser sender => .request .user (.createNew sender)
  | .getUser sender uid => .request .user (.get sender uid)
  | .getUserByName sender username => .request .user (.getByName sender username)
  | .setProperty adapter property => .method .user adapter (.setUserProperty property)
  | .addUser adapter => .method .user adapter .addUser
  | .deleteUser adapter remHomeDir => .method .user adapter (.deleteUser remHomeDir)
  | .updateUser adapter => .method .user adapter .updateUser
  | .dispose adapter => .request .user (.dispose adapter)
  | .busNameLost peerName => .request .user (.busNameLost peerName)

def ServiceCall.toServerCall (c : ServiceCall) : ServerCall :=
  ⟨c.toContext, c.operation.toServerOperation⟩

namespace Services

/-- The services as the user service sees them. -/
def userService (s : Services) : UserService :=
  ⟨s.daemon, (s.peers .user).map Peer.toPeerUser, s.objectCounter .user⟩

/-- The answer and the services after it, as the user service sees them. -/
def userAnswer (answer : ServerReply × Services) : ServerReply × UserService :=
  (answer.1, answer.2.userService)

def serverAnswer (answer : ServiceReply × UserService) : ServerReply × UserService :=
  (answer.1.toServerReply, answer.2)

theorem peerUser_userService (s : Services) (adapter : Nat) :
    s.userService.peerUser adapter = (s.peer .user adapter).map Peer.toPeerUser := by
  rw [UserService.peerUser, userService, List.find?_map]
  rfl

theorem getUserAdapterFromCache_userService (s : Services) (sender : Str) (uid : UInt32) :
    s.userService.getUserAdapterFromCache sender uid = s.getAdapterFromCache .user sender uid := by
  rw [UserService.getUserAdapterFromCache, getAdapterFromCache]
  change (if uid = gumUserInvalidUid then none else _) =
    if uid = gumUserInvalidUid then none else _
  split_ifs
  · rfl
  · rw [userService, List.find?_map, Option.map_map]
    rfl

theorem createAndCache_userService (s : Services) (user : Nat) (sender : Str) :
    (s.createAndCacheAdapter .user user sender).2.userService =
      (s.userService.createAndCacheUserAdapter user sender).2 := by
  simp [userService, createAndCacheAdapter, UserService.createAndCacheUserAdapter, Peer.toPeerUser]

theorem handleGet_userService (s : Services) (c : Context) (sender : Str) (uid : UInt32) :
    userAnswer (s.handleGet .user c sender uid) =
      serverAnswer (s.userService.handleGetUser c sender uid) := by
  rw [handleGet, UserService.handleGetUser, getUserAdapterFromCache_userService]
  cases s.getAdapterFromCache .user sender uid with
  | some adapter => rfl
  | none =>
    change userAnswer (match s.daemon.getUser c uid with | (none, d) => _ | (some object, d) => _) =
      serverAnswer (match s.daemon.getUser c uid with | (none, d) => _ | (some user, d) => _)
    cases s.daemon.getUser c uid with
    | mk found d =>
      cases found with
      | none => rfl
      | some user =>
        exact Prod.ext rfl (createAndCache_userService { s with daemon := d } user sender)

theorem onObject_userService (s : Services) (adapter : Nat)
    (method : GumdDaemon → Nat → ServerReply × GumdDaemon) :
    userAnswer (s.onObject .user adapter method) =
      match s.userService.peerUser adapter with
      | none => (.error, s.userService)
      | some p => ((method s.daemon p.user).1,
          { s.userService with daemon := (method s.daemon p.user).2 }) := by
  rw [onObject, peerUser_userService]
  cases s.peer .user adapter with
  | none => rfl
  | some p => rfl

theorem deleteLater_userService (s : Services) (adapter : Nat) :
    (s.deleteLater .user adapter).userService = { s.userService with
      peerUsers := s.userService.peerUsers.map fun q =>
        if q.userAdapter = adapter then { q with deleteLater := true } else q } := by
  have peers : ((s.peers .user).map fun p : Peer =>
      if p.adapter = adapter then { p with deleteLater := true } else p).map Peer.toPeerUser =
        ((s.peers .user).map Peer.toPeerUser).map fun q : PeerUser =>
          if q.userAdapter = adapter then { q with deleteLater := true } else q := by
    rw [List.map_map, List.map_map]
    exact List.map_congr_left fun p _ => apply_ite Peer.toPeerUser (p.adapter = adapter) _ _
  simp only [userService, deleteLater, Function.update_self, peers]

theorem release_userService (s : Services) (p : Peer) :
    (s.release .user p).userService = s.userService.release p.toPeerUser := by
  have rest : ((s.peers .user).filter (·.adapter ≠ p.adapter)).map Peer.toPeerUser =
      ((s.peers .user).map Peer.toPeerUser).filter (·.userAdapter ≠ p.toPeerUser.userAdapter) := by
    rw [List.filter_map]
    rfl
  have any : (((s.peers .user).map Peer.toPeerUser).filter
      (·.userAdapter ≠ p.toPeerUser.userAdapter)).any (·.user = p.toPeerUser.user) =
        ((s.peers .user).filter (·.adapter ≠ p.adapter)).any (·.object = p.object) := by
    rw [← rest, List.any_map]
    rfl
  simp only [userService, release, UserService.release, Function.update_self, rest, any]
  rfl

theorem onBusNameLost_userService (s : Services) (peerName : Str) :
    (s.onBusNameLost .user peerName).userService = s.userService.onBusNameLost peerName := by
  have going : s.userService.peerUsers.filter (·.peerName = peerName) =
      ((s.peers .user).filter (·.peerName = peerName)).map Peer.toPeerUser := by
    rw [userService, List.filter_map]
    rfl
  rw [onBusNameLost, UserService.onBusNameLost, going]
  clear going
  generalize (s.peers .user).filter (·.peerName = peerName) = going
  induction going generalizing s with
  | nil => rfl
  | cons p rest ih =>
    rw [List.map_cons, List.foldl_cons, List.foldl_cons, ← release_userService]
    exact ih (s.release .user p)

/-- A server answers what its user service is asked for as the service does alone. -/
theorem call_userService (s : Services) (c : ServiceCall) :
    userAnswer (s.call c.toServerCall) = serverAnswer (s.userService.call c) := by
  rw [call, ServiceCall.toServerCall, UserService.call]
  cases c.operation with
  | createNewUser sender =>
    exact Prod.ext rfl (createAndCache_userService { s with daemon := _ } s.daemon.userCount sender)
  | getUser sender uid => exact s.handleGet_userService c.toContext sender uid
  | getUserByName sender username => exact s.handleGet_userService _ sender _
  | setProperty adapter property =>
    refine (s.onObject_userService adapter _).trans ?_
    change _ = serverAnswer (s.userService.setProperty c.toContext adapter property)
    rw [UserService.setProperty]
    cases s.userService.peerUser adapter with
    | none => rfl
    | some p =>
      dsimp only [MethodOperation.handle, UserAdapter.setProperty, GumdDaemon.setProperty]
      split_ifs <;> rfl
  | addUser adapter =>
    refine (s.onObject_userService adapter _).trans ?_
    change _ = serverAnswer (s.userService.handleAddUser c.toContext adapter)
    rw [UserService.handleAddUser]
    cases s.userService.peerUser adapter with
    | none => rfl
    | some p =>
      dsimp only [MethodOperation.handle, UserAdapter.handleAddUser, userService]
      generalize s.daemon.addUser c.toContext p.user = r
      obtain ⟨added, signals, d⟩ := r
      cases added <;> rfl
  | deleteUser adapter remHomeDir =>
    have deleted := s.onObject_userService adapter (UserAdapter.handleDeleteUser remHomeDir c.toContext)
    change userAnswer (s.onDeleted .user adapter (UserAdapter.handleDeleteUser remHomeDir c.toContext)) =
      serverAnswer (s.userService.handleDeleteUser c.toContext adapter remHomeDir)
    rw [UserService.handleDeleteUser, onDeleted]
    generalize s.onObject .user adapter (UserAdapter.handleDeleteUser remHomeDir c.toContext) = a at deleted ⊢
    obtain ⟨reply, t⟩ := a
    cases found : s.userService.peerUser adapter with
    | none =>
      rw [found] at deleted
      obtain ⟨rfl, same⟩ := Prod.mk.inj deleted
      exact Prod.ext rfl same
    | some p =>
      rw [found] at deleted
      dsimp only [UserAdapter.handleDeleteUser] at deleted ⊢
      have daemon : s.userService.daemon = s.daemon := rfl
      rw [daemon]
      generalize s.daemon.deleteUser c.toContext p.user remHomeDir = r at deleted ⊢
      obtain ⟨done, signals, d⟩ := r
      cases done with
      | false =>
        obtain ⟨rfl, same⟩ := Prod.mk.inj deleted
        exact Prod.ext rfl same
      | true =>
        obtain ⟨rfl, same⟩ := Prod.mk.inj deleted
        refine Prod.ext rfl ((t.deleteLater_userService adapter).trans ?_)
        rw [same]
        rfl
  | updateUser adapter =>
    refine (s.onObject_userService adapter _).trans ?_
    change _ = serverAnswer (s.userService.handleUpdateUser c.toContext adapter)
    rw [UserService.handleUpdateUser]
    cases s.userService.peerUser adapter with
    | none => rfl
    | some p =>
      dsimp only [MethodOperation.handle, UserAdapter.handleUpdateUser, userService]
      generalize s.daemon.updateUser c.toContext p.user = r
      obtain ⟨updated, signals, d⟩ := r
      cases updated <;> rfl
  | dispose adapter =>
    refine Prod.ext rfl ?_
    change (s.onAdapterDisposed .user adapter).userService =
      s.userService.onDbusUserAdapterDisposed adapter
    rw [onAdapterDisposed, UserService.onDbusUserAdapterDisposed, peerUser_userService]
    cases s.peer .user adapter with
    | none => rfl
    | some p => exact s.release_userService p
  | busNameLost peerName => exact Prod.ext rfl (s.onBusNameLost_userService peerName)

/-- What holds of the calls in a run of the user service alone holds of the same calls of a server. -/
theorem each_userService_iff (s : Services) {P : UserService → ServiceCall → Prop}
    (calls : List ServiceCall) :
    Runs.Each (fun s (c : ServiceCall) => (s.call c.toServerCall).2) (fun s c => P s.userService c) s
        calls ↔
      Runs.Each UserService.step P s.userService calls := by
  have follows : ∀ (s : Services) (c : ServiceCall),
      (s.call c.toServerCall).2.userService = s.userService.step c :=
    fun s c => congrArg Prod.snd (s.call_userService c)
  exact @Runs.each_view_iff _ _ (fun s c => (call s c).2) _ _ _ _ _ follows _ _ _

end Services

end Gumd
