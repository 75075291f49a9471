import Gumd.Disposable
import Gumd.ServerDatabase

/-!
# The main loop of the message bus server

Both services and all adapters are disposed of by sources of the main loop: an adapter that gets no calls,
a service without adapters, and at last the server itself.  The loop dispatches calls, timeouts, idle
callbacks and signals in any order.
-/

namespace Gumd

/-- The timeouts that are configured for the services and for the adapters. -/
structure Timeouts where
  service : UInt32
  adapter : ObjectKind → UInt32

/-- The services, the `GumDisposable` of each service and of each adapter, and the server. -/
structure ServerLoop where
  timeouts : Timeouts
  services : Services
  service : ObjectKind → GumDisposable
  adapters : ObjectKind → Nat → GumDisposable
  /-- The objects that adapters have gone from.  What these have connected to them stays connected. -/
  orphans : ObjectKind → List Nat
  /-- How many servers were started before this one. -/
  server : Nat
  /-- The references to the server. -/
  refCount : Nat
  /-- The server has acquired the bus, and has created its services. -/
  acquired : Bool
  /-- The stream of the connection is closed. -/
  closed : Bool
  /-- The sources with `_close_server`, by their servers. -/
  closes : List Nat
  running : Bool

/-- What the main loop dispatches. -/
inductive LoopEvent where
  | busAcquired
  | call (c : ServerCall)
  | getUserList
  | expireAdapter (k : ObjectKind) (adapter source : Nat)
  | expireService (k : ObjectKind) (source : Nat)
  | busNameLost (k : ObjectKind) (peerName : Str)
  | closeServer
  | nameLost
  | reload
  | quit

namespace ServerLoop

/-- The daemon has started its first server. -/
def start (timeouts : Timeouts) (system : System) : ServerLoop where
  timeouts := timeouts
  services := .new system
  service := fun _ => gumDisposableInit 0 0
  adapters := fun _ _ => gumDisposableInit 0 0
  orphans := fun _ => []
  server := 0
  refCount := 1
  acquired := false
  closed := false
  closes := []
  running := true

/-! ## Disposables -/

/-- A new adapter or service, with its timeout. -/
def newDisposable (timeout : UInt32) : GumDisposable :=
  if timeout = 0 then gumDisposableInit 1 0
  else (gumDisposableInit 1 0).gumDisposableSetTimeout timeout

/-- The service has not been disposed of. -/
def alive (s : ServerLoop) (k : ObjectKind) : Prop := (s.service k).refCount ≠ 0

instance (s : ServerLoop) (k : ObjectKind) : Decidable (s.alive k) := inferInstanceAs (Decidable (_ ≠ 0))

def modifyService (k : ObjectKind) (change : GumDisposable → GumDisposable) (s : ServerLoop) :
    ServerLoop :=
  { s with service := Function.update s.service k (change (s.service k)) }

def modifyAdapter (k : ObjectKind) (adapter : Nat) (change : GumDisposable → GumDisposable)
    (s : ServerLoop) : ServerLoop :=
  { s with
    adapters := Function.update s.adapters k
      (Function.update (s.adapters k) adapter (change (s.adapters k adapter))) }

/-- `gum_disposable_set_auto_dispose` of a service. -/
def setAutoDispose (k : ObjectKind) (dispose : Bool) : ServerLoop → ServerLoop :=
  modifyService k (·.gumDisposableSetAutoDispose dispose)

variable {k : ObjectKind}

/-! ## Requests -/

/-- `_create_and_cache_user_adapter` and `_create_and_cache_dbus_group`. -/
def createAndCacheAdapter (s : ServerLoop) (k : ObjectKind) (object : Nat) (sender : Str) :
    Nat × ServerLoop :=
  let s := if (s.services.peers k).length = 0 then s.setAutoDispose k false else s
  let (adapter, services) := s.services.createAndCacheAdapter k object sender
  (adapter, { s with services := services }
    |>.modifyAdapter k adapter fun _ => newDisposable (s.timeouts.adapter k))

def withDaemon (s : ServerLoop) (d : GumdDaemon) : ServerLoop :=
  { s with services := { s.services with daemon := d } }

/-- `_handle_create_new_user` and `_handle_create_new_group`. -/
def handleCreateNew (s : ServerLoop) (k : ObjectKind) (c : Context) (sender : Str) :
    ServerReply × ServerLoop :=
  let s := s.setAutoDispose k false
  let (object, d) := s.services.daemon.objectNew k c
  let (adapter, s) := (s.withDaemon d).createAndCacheAdapter k object sender
  (.path adapter, s.setAutoDispose k true)

/-- What `_handle_get_user`, `_handle_get_user_by_name` and their siblings do for an id. -/
def answerGet (s : ServerLoop) (k : ObjectKind) (c : Context) (sender : Str) (id : UInt32) :
    ServerReply × ServerLoop :=
  match s.services.getAdapterFromCache k sender id with
  | some adapter => (.path adapter, s)
  | none =>
      match s.services.daemon.getObject k c id with
      | (none, d) => (.error, s.withDaemon d)
      | (some object, d) =>
          let (adapter, s) := (s.withDaemon d).createAndCacheAdapter k object sender
          (.path adapter, s)

/-- `_handle_get_user` and `_handle_get_group`. -/
def handleGet (s : ServerLoop) (k : ObjectKind) (c : Context) (sender : Str) (id : UInt32) :
    ServerReply × ServerLoop :=
  let (reply, s) := (s.setAutoDispose k false).answerGet k c sender id
  (reply, s.setAutoDispose k true)

/-- `_handle_get_user_by_name` and `_handle_get_group_by_name`. -/
def handleGetByName (s : ServerLoop) (k : ObjectKind) (c : Context) (sender : Str) (name : Option Str) :
    ServerReply × ServerLoop :=
  let s := s.setAutoDispose k false
  let (id, w) := (k.getIdByName name).run ⟨s.services.daemon.system.files, c.faults, c.process, none⟩
  let (reply, s) := s.answerGet k ⟨c.env, w.faults, w.process⟩ sender id
  (reply, s.setAutoDispose k true)

/-- `_handle_get_user_list`, as far as it concerns the service. -/
def handleGetUserList (s : ServerLoop) : ServerLoop :=
  (s.setAutoDispose .user false).setAutoDispose .user true

/-- Every method keeps the adapter while it runs; a write of a property does not. -/
def keepAdapter (operation : MethodOperation k) (adapter : Nat) (dispose : Bool) (s : ServerLoop) :
    ServerLoop :=
  if operation.writes then s else s.modifyAdapter k adapter (·.gumDisposableSetAutoDispose dispose)

/-- A method of an adapter, or a write of one of its properties. -/
def runMethod (s : ServerLoop) (c : Context) (adapter : Nat) (operation : MethodOperation k) :
    ServerReply × ServerLoop :=
  let s := s.keepAdapter operation adapter false
  let (reply, services) := s.services.onObject k adapter (operation.handle c)
  (reply, { s with services := services }.keepAdapter operation adapter true)

/-- A call on the bus; an adapter that has been disposed of is not found. -/
def handleMethod (s : ServerLoop) (c : Context) (adapter : Nat) (operation : MethodOperation k) :
    ServerReply × ServerLoop :=
  if (s.services.peer k adapter).isNone then (.error, s)
  else
    let (reply, s) := s.runMethod c adapter operation
    if operation.deletes ∧ reply = .done then
      (reply, { s with services := s.services.deleteLater k adapter }
        |>.modifyAdapter k adapter (·.gumDisposableDeleteLater))
    else (reply, s)

/-- What a call is answered with; a service that has been disposed of is not found. -/
def call (s : ServerLoop) (c : ServerCall) : ServerReply × ServerLoop :=
  match c.operation with
  | .request k operation =>
      if ¬s.alive k then (.error, s)
      else
        match operation with
        | .createNew sender => s.handleCreateNew k c.toContext sender
        | .get sender id => s.handleGet k c.toContext sender id
        | .getByName sender name => s.handleGetByName k c.toContext sender name
        -- no peer asks for these
        | .dispose _ | .busNameLost _ => (.error, s)
  | .method _ adapter operation => s.handleMethod c.toContext adapter operation

/-! ## Disposal -/

/-- What both handlers of lost adapters end with. -/
def disposeIfUnused (k : ObjectKind) (s : ServerLoop) : ServerLoop :=
  if (s.services.peers k).length = 0 then s.setAutoDispose k true else s

/-- The objects that adapters have gone from, once the adapter of a peer has. -/
def orphan (s : ServerLoop) (k : ObjectKind) (p : Peer) : ObjectKind → List Nat :=
  Function.update s.orphans k (p.object :: s.orphans k)

/-- `_on_dbus_user_adapter_disposed` and `_on_dbus_group_adapter_disposed`. -/
def onAdapterDisposed (k : ObjectKind) (adapter : Nat) (s : ServerLoop) : ServerLoop :=
  { s with
    services := s.services.onAdapterDisposed k adapter
    orphans := (s.services.peer k adapter).elim s.orphans (s.orphan k) }.disposeIfUnused k

/-- A source of an adapter is dispatched. -/
def expireAdapter (k : ObjectKind) (adapter source : Nat) (s : ServerLoop) : ServerLoop :=
  let t := s.modifyAdapter k adapter (·.expire source)
  if (s.adapters k adapter).refCount ≠ 0 ∧ (t.adapters k adapter).refCount = 0 then
    t.onAdapterDisposed k adapter
  else t

/-- `_dbus_peer_user_free` and `_dbus_peer_group_free`, of a peer that has left the list. -/
def release (k : ObjectKind) (s : ServerLoop) (p : Peer) : ServerLoop :=
  { s with
    services := s.services.release k p
    orphans := s.orphan k p }.modifyAdapter k p.adapter (·.gObjectUnref)

/-- `_on_bus_name_lost` of a service. -/
def onBusNameLost (k : ObjectKind) (peerName : Str) (s : ServerLoop) : ServerLoop :=
  (((s.services.peers k).filter (·.peerName = peerName)).foldl (release k) s).disposeIfUnused k

/-- `_dispose` of a service, which closes the stream of the connection. -/
def disposeService (k : ObjectKind) (s : ServerLoop) : ServerLoop :=
  { (s.services.peers k).foldl (release k) s with closed := true }

/-- `_on_user_interface_dispose` and `_on_group_interface_dispose`. -/
def onInterfaceDispose (k : ObjectKind) (s : ServerLoop) : ServerLoop :=
  if s.alive k.other then s else { s with closes := s.closes ++ [s.server] }

/-- A source of a service is dispatched. -/
def expireService (k : ObjectKind) (source : Nat) (s : ServerLoop) : ServerLoop :=
  let t := s.modifyService k (·.expire source)
  if s.alive k ∧ ¬t.alive k then (t.disposeService k).onInterfaceDispose k else t

/-! ## The server -/

/-- `_on_bus_acquired`. -/
def onBusAcquired (s : ServerLoop) : ServerLoop :=
  { s with
    service := fun _ => newDisposable s.timeouts.service
    acquired := true
    closed := false }

/-- The server gives up its service, if it still has one. -/
def stopService (k : ObjectKind) (s : ServerLoop) : ServerLoop :=
  if s.alive k then (s.modifyService k (·.gObjectUnref)).disposeService k else s

/-- `_gumd_dbus_server_msg_bus_stop`. -/
def stop (s : ServerLoop) : ServerLoop := (s.stopService .group).stopService .user

/-- `g_object_unref` of the server, which the last reference stops. -/
def dropServer (s : ServerLoop) : ServerLoop :=
  let s := { s with refCount := s.refCount - 1 }
  if s.refCount = 0 then s.stop else s

/-- The same while `_on_server_closed` quits the loop once the server has gone. -/
def unrefServer (s : ServerLoop) : ServerLoop :=
  let s := s.dropServer
  if s.refCount = 0 then { s with running := false } else s

/-- `_close_server`; without a result if the server has been freed. -/
def closeServer (s : ServerLoop) : Option ServerLoop :=
  match s.closes with
  | [] => some s
  | server :: rest =>
      if server = s.server ∧ s.refCount ≠ 0 then some { s with closes := rest }.unrefServer else none

/-- `_handle_reload_signal`: another server, whose daemon has handed out nothing. -/
def reload (s : ServerLoop) : ServerLoop :=
  if s.refCount = 0 then s
  else
    let t := s.dropServer
    { t with
      services := { t.services with
        daemon := { t.services.daemon with users := fun _ => none, groups := fun _ => none } }
      server := t.server + 1
      refCount := 1
      acquired := false }

/-- `_handle_quit_signal`, and what follows the loop. -/
def quit (s : ServerLoop) : ServerLoop :=
  let s := { s with running := false }
  if s.refCount = 0 then s else s.unrefServer

/-- A call reaches no object that an adapter has gone from: a change of it runs the handler of the adapter.
Whether a method does change it is not looked at. -/
def Safe (s : ServerLoop) (c : ServerCall) : Prop :=
  match c.operation with
  | .request _ _ => True
  | .method k adapter _ => ∀ p ∈ s.services.peer k adapter, p.object ∉ s.orphans k

instance (s : ServerLoop) : (c : ServerCall) → Decidable (s.Safe c)
  | ⟨_, .request _ _⟩ => .isTrue trivial
  | ⟨_, .method k adapter _⟩ =>
      inferInstanceAs (Decidable (∀ p ∈ s.services.peer k adapter, p.object ∉ s.orphans k))

/-- The loop dispatches an event; without a result if it reads freed memory. -/
def dispatch (s : ServerLoop) : LoopEvent → Option ServerLoop
  | .busAcquired => some (if s.refCount ≠ 0 ∧ ¬s.acquired then s.onBusAcquired else s)
  | .call c => if s.Safe c then some (s.call c).2 else none
  | .getUserList => some (if s.alive .user then s.handleGetUserList else s)
  | .expireAdapter k adapter source => some (s.expireAdapter k adapter source)
  | .expireService k source => some (s.expireService k source)
  | .busNameLost k peerName => some (if s.alive k then s.onBusNameLost k peerName else s)
  | .closeServer => s.closeServer
  | .nameLost => some (if s.refCount ≠ 0 then s.unrefServer else s)
  | .reload => some s.reload
  | .quit => some s.quit

/-- One step; a loop that has been quit dispatches nothing. -/
def step (s : ServerLoop) (e : LoopEvent) : Option ServerLoop :=
  if s.running then s.dispatch e else some s

def run (s : ServerLoop) (events : List LoopEvent) : Option ServerLoop := events.foldlM step s

end ServerLoop
end Gumd
