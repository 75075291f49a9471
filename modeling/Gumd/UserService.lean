import Gumd.Daemon
import Gumd.Lib.Runs

/-!
# The D-Bus user service

The service keeps a list of the adapters it has created, each with the peer it was created for.  An
adapter stands for one user object of the daemon, and is removed when it is disposed of, after a
timeout or some time after its user was deleted, or when its peer disappears.  A connection between
two peers has a service of its own; since a lookup only sees the adapters of one peer, one list
serves for all.

This is the user service alone.  A server has it together with the group service, and answers what it is
asked for in the same way (`Services.call_userService`, `Services.each_userService_iff`).
-/

namespace Gumd

/-- `PeerUserService`, with the user and the `delete-later` mark of its adapter.  Adapters are
numbered in the order of their creation. -/
structure PeerUser where
  peerName : Str
  userAdapter : Nat
  user : Nat
  deleteLater : Bool
  deriving DecidableEq, Repr

/-- `GumdDbusUserServiceAdapter`, with the counter of `gumd_dbus_user_adapter_new_with_connection`. -/
structure UserService where
  daemon : GumdDaemon
  peerUsers : List PeerUser
  objectCounter : Nat

/-- A property of a user that its D-Bus interface lets a client write. -/
def UserProperty.Writable : UserProperty → Prop
  | .uid _ | .gid _ => False
  | _ => True

instance : DecidablePred UserProperty.Writable := fun property =>
  match property with
  | .uid _ => isFalse id
  | .gid _ => isFalse id
  | .usertype _ | .nickname _ | .username _ | .secret _ | .realname _ | .office _
  | .officephone _ | .homephone _ | .homedir _ | .shell _ | .icon _ => isTrue trivial

/-- What a call is answered with. -/
inductive ServiceReply where
  | path (userAdapter : Nat)
  | uid (uid : UInt32)
  | done
  | error
  deriving DecidableEq, Repr

namespace UserService

/-- A service that has created no adapter. -/
def new (system : System) : UserService := ⟨.new system, [], 0⟩

/-- The adapter of the number. -/
def peerUser (s : UserService) (adapter : Nat) : Option PeerUser :=
  s.peerUsers.find? (·.userAdapter = adapter)

/-- `gumd_dbus_user_adapter_get_uid`. -/
def adapterUid (s : UserService) (p : PeerUser) : UInt32 :=
  (s.daemon.system.users p.user).pw.pwUid

/-! ## The service's own methods -/

/-- `_get_user_adapter_from_cache`. -/
def getUserAdapterFromCache (s : UserService) (sender : Str) (uid : UInt32) : Option Nat :=
  if uid = gumUserInvalidUid then none
  else
    (s.peerUsers.find? fun p => sender = p.peerName ∧ s.adapterUid p = uid ∧ !p.deleteLater).map
      (·.userAdapter)

/-- `_create_and_cache_user_adapter`. -/
def createAndCacheUserAdapter (s : UserService) (user : Nat) (sender : Str) : Nat × UserService :=
  (s.objectCounter, { s with
    peerUsers := s.peerUsers ++ [⟨sender, s.objectCounter, user, false⟩]
    objectCounter := s.objectCounter + 1 })

/-- `_handle_create_new_user`. -/
def handleCreateNewUser (s : UserService) (c : Context) (sender : Str) :
    ServiceReply × UserService :=
  let (user, d) := s.daemon.userNew c
  let (adapter, s) := { s with daemon := d }.createAndCacheUserAdapter user sender
  (.path adapter, s)

/-- `_handle_get_user`. -/
def handleGetUser (s : UserService) (c : Context) (sender : Str) (uid : UInt32) :
    ServiceReply × UserService :=
  match s.getUserAdapterFromCache sender uid with
  | some adapter => (.path adapter, s)
  | none =>
      match s.daemon.getUser c uid with
      | (none, d) => (.error, { s with daemon := d })
      | (some user, d) =>
          let (adapter, s) := { s with daemon := d }.createAndCacheUserAdapter user sender
          (.path adapter, s)

/-- `_handle_get_user_by_name`. -/
def handleGetUserByName (s : UserService) (c : Context) (sender : Str) (username : Option Str) :
    ServiceReply × UserService :=
  let (uid, w) := (gumdDaemonUserGetUidByName username).run
    ⟨s.daemon.system.files, c.faults, c.process, none⟩
  s.handleGetUser ⟨c.env, w.faults, w.process⟩ sender uid

/-! ## The methods of an adapter -/

/-- A write of a property over D-Bus, which reaches the object by `_on_dbus_property_changed`. -/
def setProperty (s : UserService) (c : Context) (adapter : Nat) (property : UserProperty) :
    ServiceReply × UserService :=
  match s.peerUser adapter with
  | none => (.error, s)
  | some p =>
      if property.Writable then
        (.done, { s with daemon := { s.daemon with
          system := s.daemon.system.step (c.call (.userSet p.user property)) } })
      else (.error, s)

/-- `_handle_add_user`. -/
def handleAddUser (s : UserService) (c : Context) (adapter : Nat) : ServiceReply × UserService :=
  match s.peerUser adapter with
  | none => (.error, s)
  | some p =>
      match s.daemon.addUser c p.user with
      | (true, _, d) => (.uid (d.system.users p.user).pw.pwUid, { s with daemon := d })
      | (false, _, d) => (.error, { s with daemon := d })

/-- `_handle_delete_user`. -/
def handleDeleteUser (s : UserService) (c : Context) (adapter : Nat) (remHomeDir : Bool) :
    ServiceReply × UserService :=
  match s.peerUser adapter with
  | none => (.error, s)
  | some p =>
      match s.daemon.deleteUser c p.user remHomeDir with
      | (true, _, d) => (.done, { s with
          daemon := d
          peerUsers := s.peerUsers.map fun q =>
            if q.userAdapter = adapter then { q with deleteLater := true } else q })
      | (false, _, d) => (.error, { s with daemon := d })

/-- `_handle_update_user`. -/
def handleUpdateUser (s : UserService) (c : Context) (adapter : Nat) :
    ServiceReply × UserService :=
  match s.peerUser adapter with
  | none => (.error, s)
  | some p =>
      match s.daemon.updateUser c p.user with
      | (true, _, d) => (.done, { s with daemon := d })
      | (false, _, d) => (.error, { s with daemon := d })

/-! ## The end of adapters -/

/-- An adapter goes: it leaves the list, and its user with it unless another adapter has it. -/
def release (s : UserService) (p : PeerUser) : UserService :=
  let rest := s.peerUsers.filter (·.userAdapter ≠ p.userAdapter)
  { s with
    peerUsers := rest
    daemon := if rest.any (·.user = p.user) then s.daemon else s.daemon.onUserDisposed p.user }

/-- `_on_dbus_user_adapter_disposed`. -/
def onDbusUserAdapterDisposed (s : UserService) (adapter : Nat) : UserService :=
  (s.peerUser adapter).elim s s.release

/-- `_on_bus_name_lost`. -/
def onBusNameLost (s : UserService) (peerName : Str) : UserService :=
  (s.peerUsers.filter (·.peerName = peerName)).foldl release s

end UserService

/-! ## Calls -/

/-- What the service is asked for by its peers, or by the main loop and the bus. -/
inductive ServiceOperation where
  | createNewUser (sender : Str)
  | getUser (sender : Str) (uid : UInt32)
  | getUserByName (sender : Str) (username : Option Str)
  | setProperty (adapter : Nat) (property : UserProperty)
  | addUser (adapter : Nat)
  | deleteUser (adapter : Nat) (remHomeDir : Bool)
  | updateUser (adapter : Nat)
  | dispose (adapter : Nat)
  | busNameLost (peerName : Str)
  deriving DecidableEq, Repr

structure ServiceCall extends Context where
  operation : ServiceOperation

namespace UserService

/-- What a call is answered with, and the service after it. -/
def call (s : UserService) (c : ServiceCall) : ServiceReply × UserService :=
  match c.operation with
  | .createNewUser sender => s.handleCreateNewUser c.toContext sender
  | .getUser sender uid => s.handleGetUser c.toContext sender uid
  | .getUserByName sender username => s.handleGetUserByName c.toContext sender username
  | .setProperty adapter property => s.setProperty c.toContext adapter property
  | .addUser adapter => s.handleAddUser c.toContext adapter
  | .deleteUser adapter remHomeDir => s.handleDeleteUser c.toContext adapter remHomeDir
  | .updateUser adapter => s.handleUpdateUser c.toContext adapter
  | .dispose adapter => (.done, s.onDbusUserAdapterDisposed adapter)
  | .busNameLost peerName => (.done, s.onBusNameLost peerName)

def step (s : UserService) (c : ServiceCall) : UserService := (s.call c).2

end UserService

end Gumd
