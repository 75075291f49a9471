import Gumd.ServerLife

/-!
# The peer-to-peer server

Without a message bus every client has a connection of its own, and the server makes two services for each.
All services share the daemon.  Together they answer as the two services of a message bus whose peers are
the connections, so what holds of those holds here.
-/

namespace Gumd

/-- A service for one connection, by the descriptor of its socket. -/
structure ConnectionService where
  connection : Str
  peers : List Peer
  deriving DecidableEq, Repr

/-- `GumdDbusServerP2P`: the tables of the services, which share the counters of the adapters' paths. -/
structure GumdDbusServerP2P where
  daemon : GumdDaemon
  serviceAdapters : ObjectKind → List ConnectionService
  objectCounter : ObjectKind → Nat

/-- What a client can ask for over its connection. -/
inductive ConnectionOperation where
  | createNew (k : ObjectKind)
  | get (k : ObjectKind) (id : UInt32)
  | getByName (k : ObjectKind) (name : Option Str)
  | method (k : ObjectKind) (adapter : Nat) (operation : MethodOperation k)
  deriving DecidableEq, Repr

/-- The same on a message bus, where `_get_sender` tells the clients apart. -/
def ConnectionOperation.toServerOperation (connection : Str) : ConnectionOperation → ServerOperation
  | .createNew k => .request k (.createNew connection)
  | .get k id => .request k (.get connection id)
  | .getByName k name => .request k (.getByName connection name)
  | .method k adapter operation => .method k adapter operation

def ConnectionOperation.kind : ConnectionOperation → ObjectKind
  | .createNew k | .get k _ | .getByName k _ | .method k _ _ => k

/-- What happens to a peer-to-peer server. -/
inductive ConnectionEvent where
  | clientRequest (connection : Str)
  | request (connection : Str) (c : Context) (operation : ConnectionOperation)
  | adapterDisposed (k : ObjectKind) (adapter : Nat)
  | closed (connection : Str)
  | dispose

namespace GumdDbusServerP2P

/-- `gumd_dbus_server_p2p_init`. -/
def init (system : System) : GumdDbusServerP2P := ⟨.new system, fun _ => [], fun _ => 0⟩

/-! ## Tables of services -/

/-- `g_hash_table_lookup` of a connection. -/
def service (s : GumdDbusServerP2P) (k : ObjectKind) (connection : Str) : Option ConnectionService :=
  (s.serviceAdapters k).find? (·.connection = connection)

/-- The services of a connection; their code is that of the services of a message bus. -/
def view (s : GumdDbusServerP2P) (connection : Str) : Services where
  daemon := s.daemon
  peers k := ((s.service k connection).map (·.peers)).getD []
  objectCounter := s.objectCounter

/-- The services of a connection have changed. -/
def update (s : GumdDbusServerP2P) (connection : Str) (v : Services) : GumdDbusServerP2P where
  daemon := v.daemon
  serviceAdapters k := (s.serviceAdapters k).map fun a =>
    if a.connection = connection then { a with peers := v.peers k } else a
  objectCounter := v.objectCounter

/-! ## Events -/

/-- `_on_client_request`: a service of each kind for a new connection. -/
def onClientRequest (connection : Str) (s : GumdDbusServerP2P) : GumdDbusServerP2P :=
  { s with serviceAdapters := fun k =>
      if (s.service k connection).isSome then s.serviceAdapters k
      else s.serviceAdapters k ++ [⟨connection, []⟩] }

/-- A request over a connection; what it asks of is exported there only. -/
def request (connection : Str) (c : Context) (operation : ConnectionOperation) (s : GumdDbusServerP2P) :
    ServerReply × GumdDbusServerP2P :=
  if (s.service operation.kind connection).isNone then (.error, s)
  else
    let (reply, v) := (s.view connection).call ⟨c, operation.toServerOperation connection⟩
    (reply, s.update connection v)

/-- An adapter goes, and its object with it unless an adapter of some connection has it. -/
def release (k : ObjectKind) (s : GumdDbusServerP2P) (p : Peer) : GumdDbusServerP2P :=
  let rest := (s.serviceAdapters k).map fun a =>
    { a with peers := a.peers.filter (·.adapter ≠ p.adapter) }
  { s with
    serviceAdapters := Function.update s.serviceAdapters k rest
    daemon :=
      if rest.any (·.peers.any (·.object = p.object)) then s.daemon
      else s.daemon.onObjectDisposed k p.object }

/-- `_on_dbus_user_adapter_disposed` and `_on_dbus_group_adapter_disposed`. -/
def onAdapterDisposed (k : ObjectKind) (adapter : Nat) (s : GumdDbusServerP2P) : GumdDbusServerP2P :=
  (((s.serviceAdapters k).flatMap (·.peers)).find? (·.adapter = adapter)).elim s (s.release k)

/-- `g_hash_table_remove` of a service, whose `_dispose` frees its peers. -/
def removeService (k : ObjectKind) (connection : Str) (s : GumdDbusServerP2P) : GumdDbusServerP2P :=
  let t := ((s.view connection).peers k).foldl (release k) s
  { t with serviceAdapters :=
      Function.update t.serviceAdapters k ((t.serviceAdapters k).filter (·.connection ≠ connection)) }

/-- `_on_connection_closed`. -/
def onConnectionClosed (connection : Str) (s : GumdDbusServerP2P) : GumdDbusServerP2P :=
  (s.removeService .user connection).removeService .group connection

/-- The end of all services of a kind. -/
def removeServices (k : ObjectKind) (s : GumdDbusServerP2P) : GumdDbusServerP2P :=
  ((s.serviceAdapters k).map (·.connection)).foldl (fun s connection => s.removeService k connection) s

/-- `_dispose`. -/
def dispose (s : GumdDbusServerP2P) : GumdDbusServerP2P := (s.removeServices .group).removeServices .user

/-- An event, with what it is answered with if it is a request. -/
def step (s : GumdDbusServerP2P) : ConnectionEvent → List ServerReply × GumdDbusServerP2P
  | .clientRequest connection => ([], s.onClientRequest connection)
  | .request connection c operation =>
      let (reply, s) := s.request connection c operation
      ([reply], s)
  | .adapterDisposed k adapter => ([], s.onAdapterDisposed k adapter)
  | .closed connection => ([], s.onConnectionClosed connection)
  | .dispose => ([], s.dispose)

/-- What the requests are answered with, and the server in the end. -/
def run (s : GumdDbusServerP2P) : List ConnectionEvent → List ServerReply × GumdDbusServerP2P
  | [] => ([], s)
  | e :: rest =>
      let (replies, s) := s.step e
      let (later, s) := s.run rest
      (replies ++ later, s)

end GumdDbusServerP2P

/-! ## A message bus with the connections as its peers -/

/-- The services of a message bus, and the clients that may use them. -/
structure ConnectedServices where
  services : Services
  connected : ObjectKind → List Str

namespace ConnectedServices

def init (system : System) : ConnectedServices := ⟨.new system, fun _ => []⟩

/-- A client may call what it has been given. -/
def Allowed (s : ConnectedServices) (connection : Str) : ConnectionOperation → Prop
  | .method k adapter _ =>
      connection ∈ s.connected k ∧ ∃ p ∈ s.services.peers k, p.adapter = adapter ∧ p.peerName = connection
  | .createNew k | .get k _ | .getByName k _ => connection ∈ s.connected k

instance (s : ConnectedServices) (connection : Str) : DecidablePred (s.Allowed connection) :=
  fun operation =>
    match operation with
    | .method _ _ _ => inferInstanceAs (Decidable (_ ∧ _))
    | .createNew k => inferInstanceAs (Decidable (connection ∈ s.connected k))
    | .get k _ => inferInstanceAs (Decidable (connection ∈ s.connected k))
    | .getByName k _ => inferInstanceAs (Decidable (connection ∈ s.connected k))

/-- A peer has gone from the bus. -/
def leave (k : ObjectKind) (connection : Str) (s : ConnectedServices) : ConnectedServices :=
  ⟨s.services.onBusNameLost k connection,
    Function.update s.connected k ((s.connected k).filter (· ≠ connection))⟩

def leaveAll (k : ObjectKind) (s : ConnectedServices) : ConnectedServices :=
  (s.connected k).foldl (fun s connection => s.leave k connection) s

/-- A peer has come to the bus. -/
def join (connection : Str) (s : ConnectedServices) : ConnectedServices :=
  { s with connected := fun k =>
      if (s.connected k).any (· = connection) then s.connected k else s.connected k ++ [connection] }

def step (s : ConnectedServices) : ConnectionEvent → List ServerReply × ConnectedServices
  | .clientRequest connection => ([], s.join connection)
  | .request connection c operation =>
      if s.Allowed connection operation then
        let (reply, services) := s.services.call ⟨c, operation.toServerOperation connection⟩
        ([reply], { s with services := services })
      else ([.error], s)
  | .adapterDisposed k adapter => ([], { s with services := s.services.onAdapterDisposed k adapter })
  | .closed connection => ([], (s.leave .user connection).leave .group connection)
  | .dispose => ([], (s.leaveAll .group).leaveAll .user)

def run (s : ConnectedServices) : List ConnectionEvent → List ServerReply × ConnectedServices
  | [] => ([], s)
  | e :: rest =>
      let (replies, s) := s.step e
      let (later, s) := s.run rest
      (replies ++ later, s)

end ConnectedServices

/-! ## The peers of one name -/

namespace Services

variable {s : Services} {k : ObjectKind} {connection other : Str}

/-- The services as far as a peer is concerned. -/
def only (s : Services) (connection : Str) : Services :=
  { s with peers := fun k => (s.peers k).filter (·.peerName = connection) }

theorem getAdapterFromCache_only (s : Services) (k : ObjectKind) (connection : Str) (id : UInt32) :
    (s.only connection).getAdapterFromCache k connection id = s.getAdapterFromCache k connection id := by
  rw [getAdapterFromCache, getAdapterFromCache]
  split_ifs
  · rfl
  · change Option.map _ (((s.peers k).filter _).find? _) = Option.map _ ((s.peers k).find? _)
    rw [List.find?_filter]
    congr 2
    funext p
    by_cases named : connection = p.peerName
    · simp [named, only]
    · simp [named, Ne.symm named]

theorem createAndCacheAdapter_only (s : Services) (k : ObjectKind) (object : Nat) (connection : Str) :
    (s.only connection).createAndCacheAdapter k object connection =
      ((s.createAndCacheAdapter k object connection).1,
        (s.createAndCacheAdapter k object connection).2.only connection) := by
  rw [createAndCacheAdapter, createAndCacheAdapter, only, only]
  congr 2
  funext j
  dsimp only
  by_cases same : j = k
  · subst same
    rw [Function.update_self, Function.update_self, List.filter_append]
    simp
  · rw [Function.update_of_ne same, Function.update_of_ne same]

theorem handleGet_only (s : Services) (k : ObjectKind) (c : Context) (connection : Str) (id : UInt32) :
    (s.only connection).handleGet k c connection id =
      ((s.handleGet k c connection id).1, (s.handleGet k c connection id).2.only connection) := by
  rw [handleGet, handleGet, getAdapterFromCache_only]
  cases s.getAdapterFromCache k connection id with
  | some adapter => rfl
  | none =>
    have daemon : (s.only connection).daemon = s.daemon := rfl
    rw [daemon]
    obtain ⟨found, d⟩ := s.daemon.getObject k c id
    cases found with
    | none => rfl
    | some object =>
      have created := @createAndCacheAdapter_only { s with daemon := d } k object connection
      dsimp only
      rw [show ({ s.only connection with daemon := d } : Services) =
        ({ s with daemon := d } : Services).only connection from rfl, created]

theorem distinct_only (distinct : ((s.peers k).map (·.adapter)).Nodup) (connection : Str) :
    (((s.only connection).peers k).map (·.adapter)).Nodup :=
  distinct.sublist (List.filter_sublist.map _)

theorem onObject_only {p : Peer} (tracked : s.Tracked) (mem : p ∈ s.peers k)
    (named : p.peerName = connection) (method : GumdDaemon → Nat → ServerReply × GumdDaemon) :
    (s.only connection).onObject k p.adapter method =
      ((s.onObject k p.adapter method).1, (s.onObject k p.adapter method).2.only connection) := by
  have own : p ∈ (s.only connection).peers k := List.mem_filter.mpr ⟨mem, by simpa using named⟩
  rw [onObject, onObject, peer_of_mem (tracked.distinct k) mem,
    peer_of_mem (distinct_only (tracked.distinct k) connection) own]
  rfl

theorem deleteLater_only (s : Services) (k : ObjectKind) (adapter : Nat) (connection : Str) :
    (s.only connection).deleteLater k adapter = (s.deleteLater k adapter).only connection := by
  rw [deleteLater, deleteLater, only, only]
  congr 1
  funext j
  dsimp only
  by_cases same : j = k
  · subst same
    rw [Function.update_self, Function.update_self, List.filter_map]
    congr 1
    apply List.filter_congr
    intro p _
    dsimp only [Function.comp_apply]
    split_ifs <;> rfl
  · rw [Function.update_of_ne same, Function.update_of_ne same]

/-- A peer that uses only what it has been given gets the answers it would get if it were alone. -/
theorem call_only (tracked : s.Tracked) (c : Context) {operation : ConnectionOperation}
    (own : ∀ k adapter (method : MethodOperation k), operation = .method k adapter method →
      ∃ p ∈ s.peers k, p.adapter = adapter ∧ p.peerName = connection) :
    (s.only connection).call ⟨c, operation.toServerOperation connection⟩ =
      ((s.call ⟨c, operation.toServerOperation connection⟩).1,
        (s.call ⟨c, operation.toServerOperation connection⟩).2.only connection) := by
  cases operation with
  | createNew k =>
    have created := @createAndCacheAdapter_only { s with daemon := (s.daemon.objectNew k c).2 } k
      (s.daemon.objectNew k c).1 connection
    have services := congrArg Prod.snd created
    exact Prod.ext rfl services
  | get k id => exact handleGet_only s k c connection id
  | getByName k name => exact handleGet_only s k _ connection _
  | method k adapter method =>
    obtain ⟨p, mem, rfl, named⟩ := own k adapter method rfl
    have ran := onObject_only tracked mem named (method.handle c)
    rw [ConnectionOperation.toServerOperation, call, call]
    dsimp only
    rw [onDeleted, onDeleted, ran]
    dsimp only
    split_ifs
    · exact Prod.ext rfl (deleteLater_only _ k p.adapter connection)
    · rfl
    · rfl

/-! ## The peers of other names -/

theorem others_createAndCacheAdapter (s : Services) (k j : ObjectKind) (object : Nat)
    (differs : connection ≠ other) :
    ((s.createAndCacheAdapter k object connection).2.only other).peers j = (s.only other).peers j := by
  change (Function.update s.peers k _ j).filter _ = (s.peers j).filter _
  by_cases same : j = k
  · subst same
    rw [Function.update_self, List.filter_append]
    simp [differs]
  · rw [Function.update_of_ne same]

theorem others_handleGet (s : Services) (k j : ObjectKind) (c : Context) (id : UInt32)
    (differs : connection ≠ other) :
    ((s.handleGet k c connection id).2.only other).peers j = (s.only other).peers j := by
  rw [handleGet]
  cases s.getAdapterFromCache k connection id with
  | some adapter => rfl
  | none =>
    obtain ⟨found, d⟩ := s.daemon.getObject k c id
    cases found with
    | none => rfl
    | some object => exact others_createAndCacheAdapter { s with daemon := d } k j object differs

theorem others_deleteLater {p : Peer} (distinct : ((s.peers k).map (·.adapter)).Nodup)
    (mem : p ∈ s.peers k) (differs : p.peerName ≠ other) (j : ObjectKind) :
    ((s.deleteLater k p.adapter).only other).peers j = (s.only other).peers j := by
  change (Function.update s.peers k _ j).filter _ = (s.peers j).filter _
  by_cases same : j = k
  · subst same
    rw [Function.update_self, List.filter_map]
    have names : (s.peers j).filter ((fun p => decide (p.peerName = other)) ∘ fun q =>
        if q.adapter = p.adapter then { q with deleteLater := true } else q) =
          (s.peers j).filter (·.peerName = other) := by
      apply List.filter_congr
      intro q _
      dsimp only [Function.comp_apply]
      split_ifs <;> rfl
    have unmarked : ∀ q ∈ (s.peers j).filter (·.peerName = other),
        (if q.adapter = p.adapter then { q with deleteLater := true } else q) = id q := by
      intro q inside
      obtain ⟨mem', named⟩ := List.mem_filter.mp inside
      refine if_neg fun same => differs ?_
      rw [← List.inj_on_of_nodup_map distinct mem' mem same]
      simpa using named
    rw [names, List.map_congr_left unmarked, List.map_id]
  · rw [Function.update_of_ne same]

/-- Its calls leave alone what the others have. -/
theorem others_call (tracked : s.Tracked) (c : Context) {operation : ConnectionOperation}
    (own : ∀ k adapter (method : MethodOperation k), operation = .method k adapter method →
      ∃ p ∈ s.peers k, p.adapter = adapter ∧ p.peerName = connection) (differs : connection ≠ other)
    (j : ObjectKind) :
    ((s.call ⟨c, operation.toServerOperation connection⟩).2.only other).peers j =
      (s.only other).peers j := by
  cases operation with
  | createNew k =>
    exact others_createAndCacheAdapter { s with daemon := (s.daemon.objectNew k c).2 } k j _ differs
  | get k id => exact others_handleGet s k j c id differs
  | getByName k name => exact others_handleGet s k j _ _ differs
  | method k adapter method =>
    obtain ⟨p, mem, rfl, named⟩ := own k adapter method rfl
    have peers := (ServerLoop.onObject_frame s k p.adapter (method.handle c)).1
    rw [ConnectionOperation.toServerOperation, call]
    dsimp only
    rw [onDeleted]
    generalize s.onObject k p.adapter (method.handle c) = answer at peers ⊢
    obtain ⟨reply, t⟩ := answer
    have same : (t.only other).peers j = (s.only other).peers j := by
      change (t.peers j).filter _ = (s.peers j).filter _
      rw [peers]
    dsimp only at peers ⊢
    split_ifs
    · rw [← same]
      apply others_deleteLater
      · rw [peers]
        exact tracked.distinct k
      · rw [peers]
        exact mem
      · rwa [named]
    · exact same
    · exact same

/-- Its calls leave alone what there is of the other kind. -/
theorem peers_call {k : ObjectKind} (s : Services) (c : Context) {operation : ConnectionOperation}
    (kind : k ≠ operation.kind) :
    (s.call ⟨c, operation.toServerOperation connection⟩).2.peers k = s.peers k := by
  have get : ∀ j c id, k ≠ j → (s.handleGet j c connection id).2.peers k = s.peers k := by
    intro j c id kind
    rw [handleGet]
    cases s.getAdapterFromCache j connection id with
    | some adapter => rfl
    | none =>
      obtain ⟨found, d⟩ := s.daemon.getObject j c id
      cases found with
      | none => rfl
      | some object => exact Function.update_of_ne kind _ _
  cases operation with
  | createNew j => exact Function.update_of_ne kind _ _
  | get j id => exact get j c id kind
  | getByName j name => exact get j _ _ kind
  | method j adapter method =>
    have peers := (ServerLoop.onObject_frame s j adapter (method.handle c)).1
    rw [ConnectionOperation.toServerOperation, call]
    dsimp only
    rw [onDeleted]
    generalize s.onObject j adapter (method.handle c) = answer at peers ⊢
    obtain ⟨reply, t⟩ := answer
    dsimp only at peers ⊢
    split_ifs
    · exact (Function.update_of_ne kind _ _).trans (congrFun peers k)
    · exact congrFun peers k
    · exact congrFun peers k

end Services

/-! ## One service for each connection -/

namespace ConnectedServices

variable {s t : ConnectedServices} {k : ObjectKind} {connection : Str}

/-- The service of a connection has the adapters of the peer. -/
def serviceOf (s : ConnectedServices) (k : ObjectKind) (connection : Str) : ConnectionService :=
  ⟨connection, (s.services.peers k).filter (·.peerName = connection)⟩

/-- The peer-to-peer server that answers like a message bus. -/
def split (s : ConnectedServices) : GumdDbusServerP2P where
  daemon := s.services.daemon
  serviceAdapters k := (s.connected k).map (s.serviceOf k)
  objectCounter := s.services.objectCounter

/-- The adapters belong to clients that are connected. -/
structure Sound (system : System) (s : ConnectedServices) : Prop where
  reached : (Services.new system).Serves s.services
  once : ∀ k, (s.connected k).Nodup
  known : ∀ k, ∀ p ∈ s.services.peers k, p.peerName ∈ s.connected k

theorem service_split (s : ConnectedServices) (k : ObjectKind) (connection : Str) :
    s.split.service k connection =
      if connection ∈ s.connected k then some (s.serviceOf k connection) else none := by
  have key : (fun a => decide (a.connection = connection)) ∘ s.serviceOf k =
      fun name => decide (name = connection) := rfl
  change ((s.connected k).map (s.serviceOf k)).find? _ = _
  rw [List.find?_map, key]
  split_ifs with here
  · cases found : (s.connected k).find? fun name => decide (name = connection) with
    | none =>
      have missing := List.find?_eq_none.mp found connection here
      exact absurd (decide_eq_true rfl) missing
    | some name =>
      have named := List.find?_some found
      have own : name = connection := by simpa using named
      rw [own]
      rfl
  · rw [Option.map_eq_none_iff, List.find?_eq_none]
    intro name mem named
    exact here (of_decide_eq_true named ▸ mem)

/-- A client that is not connected has no adapters. -/
theorem serviceOf_absent (known : ∀ p ∈ s.services.peers k, p.peerName ∈ s.connected k)
    (absent : connection ∉ s.connected k) : s.serviceOf k connection = ⟨connection, []⟩ := by
  refine congrArg (ConnectionService.mk connection) ?_
  rw [List.filter_eq_nil_iff]
  intro p mem named
  have own : p.peerName = connection := by simpa using named
  exact absent (own ▸ known p mem)

theorem view_split (known : ∀ k, ∀ p ∈ s.services.peers k, p.peerName ∈ s.connected k)
    (connection : Str) : s.split.view connection = s.services.only connection := by
  rw [GumdDbusServerP2P.view, Services.only]
  congr 1
  funext k
  rw [service_split]
  split_ifs with here
  · rfl
  · exact (congrArg ConnectionService.peers (serviceOf_absent (known k) here)).symm

/-- The services of one connection change, and those of the others do not. -/
theorem update_split {services : Services} (others : ∀ name k, name ≠ connection →
      (services.only name).peers k = (s.services.only name).peers k) :
    s.split.update connection (services.only connection) = split { s with services := services } := by
  rw [GumdDbusServerP2P.update, split, split]
  congr 1
  funext k
  dsimp only
  rw [List.map_map]
  apply List.map_congr_left
  intro name _
  by_cases same : name = connection
  · subst same
    exact if_pos rfl
  · exact (if_neg same).trans (congrArg (ConnectionService.mk name) (others name k same).symm)

theorem release_split (known : ∀ p ∈ s.services.peers k, p.peerName ∈ s.connected k) (p : Peer) :
    s.split.release k p = split { s with services := s.services.release k p } := by
  have lists : ((s.connected k).map (s.serviceOf k)).map
      (fun a => { a with peers := a.peers.filter (·.adapter ≠ p.adapter) }) =
      (s.connected k).map (serviceOf { s with services := s.services.release k p } k) := by
    rw [List.map_map]
    apply List.map_congr_left
    intro name _
    dsimp only [Function.comp_apply, serviceOf]
    rw [Services.peers_release, Function.update_self, List.filter_filter, List.filter_filter]
    congr 1
    apply List.filter_congr
    intro q _
    exact Bool.and_comm _ _
  have used : ((s.connected k).map (serviceOf { s with services := s.services.release k p } k)).any
      (·.peers.any (·.object = p.object)) =
        ((s.services.peers k).filter (·.adapter ≠ p.adapter)).any (·.object = p.object) := by
    rw [Bool.eq_iff_iff, List.any_eq_true, List.any_eq_true]
    constructor
    · rintro ⟨a, mem, some⟩
      obtain ⟨name, -, rfl⟩ := List.mem_map.mp mem
      obtain ⟨q, inside, object⟩ := List.any_eq_true.mp some
      have kept := (List.mem_filter.mp inside).1
      rw [Services.peers_release, Function.update_self] at kept
      exact ⟨q, kept, object⟩
    · rintro ⟨q, kept, object⟩
      refine ⟨_, List.mem_map_of_mem (known q (List.mem_filter.mp kept).1), ?_⟩
      rw [List.any_eq_true]
      refine ⟨q, ?_, object⟩
      rw [serviceOf, List.mem_filter, Services.peers_release, Function.update_self]
      exact ⟨kept, by simp⟩
  rw [GumdDbusServerP2P.release]
  dsimp only [split]
  simp only [lists, used]
  rw [Services.release]
  congr 1
  funext j
  by_cases same : j = k
  · subst same
    rw [Function.update_self]
  · rw [Function.update_of_ne same]
    apply List.map_congr_left
    intro name _
    change _ = ConnectionService.mk name ((Function.update s.services.peers k _ j).filter _)
    rw [Function.update_of_ne same]
    rfl

/-! ## What keeps the invariant -/

variable {system : System}

theorem sound_init (system : System) : (init system).Sound system :=
  ⟨.refl _, fun _ => List.nodup_nil, fun _ _ mem => absurd mem List.not_mem_nil⟩

theorem Sound.tracked (sound : s.Sound system) : s.services.Tracked :=
  Services.tracked_of_serves sound.reached

/-- The adapters change their marks, or become fewer. -/
theorem Sound.of_names (sound : s.Sound system) {services : Services}
    (serves : s.services.Serves services)
    (names : ∀ k, ∀ p ∈ services.peers k, p.peerName ∈ s.connected k) :
    ({ s with services := services } : ConnectedServices).Sound system :=
  ⟨sound.reached.trans serves, sound.once, names⟩

theorem Sound.release (sound : s.Sound system) {p : Peer} (mem : p ∈ s.services.peers k) :
    ({ s with services := s.services.release k p } : ConnectedServices).Sound system := by
  refine sound.of_names (Services.serves_release (sound.tracked.distinct k) mem) fun j q inside => ?_
  rw [Services.peers_release] at inside
  by_cases same : j = k
  · subst same
    rw [Function.update_self] at inside
    exact sound.known j q (List.mem_filter.mp inside).1
  · rw [Function.update_of_ne same] at inside
    exact sound.known j q inside

/-- Peers of the list are released one after another, on both sides. -/
theorem releases_split {going : List Peer} (sound : s.Sound system)
    (mem : ∀ p ∈ going, p ∈ s.services.peers k) (once : (going.map (·.adapter)).Nodup) :
    going.foldl (GumdDbusServerP2P.release k) s.split =
        split { s with services := going.foldl (Services.release · k) s.services } ∧
      ({ s with services := going.foldl (Services.release · k) s.services } : ConnectedServices).Sound
        system := by
  induction going generalizing s with
  | nil => exact ⟨rfl, sound⟩
  | cons p rest ih =>
    rw [List.map_cons, List.nodup_cons] at once
    rw [List.foldl_cons, release_split (sound.known k)]
    refine @ih { s with services := s.services.release k p } (sound.release (mem p List.mem_cons_self)) ?_
      once.2
    intro q inside
    refine Services.mem_release (mem q (List.mem_cons_of_mem _ inside)) fun _ same => once.1 ?_
    exact same ▸ List.mem_map_of_mem inside

theorem removeService_split (sound : s.Sound system) (k : ObjectKind) (connection : Str) :
    s.split.removeService k connection = (s.leave k connection).split ∧
      (s.leave k connection).Sound system := by
  have distinct := sound.tracked.distinct k
  have peers : (s.split.view connection).peers k =
      (s.services.peers k).filter (·.peerName = connection) := by
    rw [view_split sound.known]
    rfl
  obtain ⟨released, sound'⟩ := @releases_split _ k _ ((s.services.peers k).filter (·.peerName = connection))
    sound (fun p mem => (List.mem_filter.mp mem).1) (distinct.sublist (List.filter_sublist.map _))
  have left := ServerLoop.peers_releases (k := k)
    ((s.services.peers k).filter (·.peerName = connection)) s.services
  have tables : ∀ j, (Function.update s.connected k ((s.connected k).filter (· ≠ connection)) j).Nodup := by
    intro j
    by_cases same : j = k
    · subst same
      rw [Function.update_self]
      exact (sound.once j).filter _
    · rw [Function.update_of_ne same]
      exact sound.once j
  refine ⟨?_, sound'.reached, tables, fun j p mem => ?_⟩
  · rw [GumdDbusServerP2P.removeService, peers, released]
    change GumdDbusServerP2P.mk _ _ _ = GumdDbusServerP2P.mk _ _ _
    congr 1
    funext j
    by_cases same : j = k
    · subst same
      rw [Function.update_self]
      change ((s.connected j).map _).filter _ = (Function.update s.connected j _ j).map _
      rw [Function.update_self, List.filter_map]
      rfl
    · rw [Function.update_of_ne same]
      change (s.connected j).map _ = (Function.update s.connected k _ j).map _
      rw [Function.update_of_ne same]
      rfl
  · have known := sound'.known j p mem
    change p.peerName ∈ Function.update s.connected k _ j
    by_cases same : j = k
    · subst same
      rw [Function.update_self, List.mem_filter]
      refine ⟨known, ?_⟩
      -- the peers of the name have gone
      have inside : p ∈ (List.foldl (Services.release · j) s.services
          ((s.services.peers j).filter (·.peerName = connection))).peers j := mem
      rw [left, List.mem_filter] at inside
      obtain ⟨listed, stays⟩ := inside
      have other : p.peerName ≠ connection := by
        intro named
        have self := List.all_eq_true.mp stays p (List.mem_filter.mpr ⟨listed, by simpa using named⟩)
        simp at self
      simpa using other
    · rw [Function.update_of_ne same]
      exact known

theorem removeServices_split (sound : s.Sound system) (k : ObjectKind) :
    s.split.removeServices k = (s.leaveAll k).split ∧ (s.leaveAll k).Sound system := by
  have connections : (s.split.serviceAdapters k).map (·.connection) = s.connected k := by
    change ((s.connected k).map _).map _ = _
    rw [List.map_map]
    exact List.map_id _
  rw [GumdDbusServerP2P.removeServices, leaveAll, connections]
  clear connections
  generalize s.connected k = going
  induction going generalizing s with
  | nil => exact ⟨rfl, sound⟩
  | cons connection rest ih =>
    obtain ⟨removed, sound'⟩ := removeService_split sound k connection
    rw [List.foldl_cons, List.foldl_cons, removed]
    exact ih sound'

/-! ## Events -/

theorem join_connected (s : ConnectedServices) (k : ObjectKind) (connection : Str) :
    (s.join connection).connected k =
      if connection ∈ s.connected k then s.connected k else s.connected k ++ [connection] := by
  simp [join]

theorem onClientRequest_split (sound : s.Sound system) (connection : Str) :
    s.split.onClientRequest connection = (s.join connection).split ∧ (s.join connection).Sound system := by
  refine ⟨?_, sound.reached, fun k => ?_, fun k p mem => ?_⟩
  · rw [GumdDbusServerP2P.onClientRequest, split, split]
    congr 1
    funext k
    rw [← split, service_split, join_connected]
    by_cases here : connection ∈ s.connected k
    · rw [if_pos here, if_pos here]
      rfl
    · rw [if_neg here, if_neg here, List.map_append, List.map_singleton]
      rw [← serviceOf_absent (sound.known k) here]
      rfl
  · rw [join_connected]
    split_ifs with here
    · exact sound.once k
    · exact List.nodup_append.mpr ⟨sound.once k, List.nodup_singleton _, fun a mem b single same =>
        here (List.mem_singleton.mp single ▸ same ▸ mem)⟩
  · have known := sound.known k p mem
    rw [join_connected]
    split_ifs
    · exact known
    · exact List.mem_append_left _ known

theorem Allowed.connected {operation : ConnectionOperation} (allowed : s.Allowed connection operation) :
    connection ∈ s.connected operation.kind := by
  cases operation with
  | method k adapter method => exact allowed.1
  | _ => exact allowed

theorem Allowed.own {operation : ConnectionOperation} (allowed : s.Allowed connection operation) :
    ∀ k adapter (method : MethodOperation k), operation = .method k adapter method →
      ∃ p ∈ s.services.peers k, p.adapter = adapter ∧ p.peerName = connection := by
  rintro k adapter method rfl
  exact allowed.2

/-- The adapters of a client that makes a call stay its own. -/
theorem Sound.call (sound : s.Sound system) (c : Context) {operation : ConnectionOperation}
    (allowed : s.Allowed connection operation) :
    ({ s with services := (s.services.call ⟨c, operation.toServerOperation connection⟩).2 } :
      ConnectedServices).Sound system := by
  refine sound.of_names (s.services.serves_call _) fun k p mem => ?_
  by_cases named : p.peerName = connection
  · by_cases kind : k = operation.kind
    · rw [named, kind]
      exact allowed.connected
    · rw [s.services.peers_call c kind] at mem
      exact sound.known k p mem
  · have others := Services.others_call sound.tracked c allowed.own (Ne.symm named) k
    have inside : p ∈ (s.services.only p.peerName).peers k := by
      rw [← others]
      exact List.mem_filter.mpr ⟨mem, by simp⟩
    exact sound.known k p (List.mem_filter.mp inside).1

/-- A client is told nothing about adapters of others. -/
theorem call_foreign {v : Services} {adapter : Nat} (foreign : ∀ p ∈ v.peers k, p.adapter ≠ adapter)
    (c : Context) (method : MethodOperation k) : v.call ⟨c, .method k adapter method⟩ = (.error, v) := by
  have missing : v.peer k adapter = none := by
    rw [Services.peer, List.find?_eq_none]
    intro p mem
    simpa using foreign p mem
  rw [Services.call]
  dsimp only
  rw [Services.onDeleted, Services.onObject, missing]
  dsimp only
  split_ifs with deletes done
  · cases done
  · rfl
  · rfl

theorem find_split (sound : s.Sound system) (k : ObjectKind) (adapter : Nat) :
    ((s.split.serviceAdapters k).flatMap (·.peers)).find? (·.adapter = adapter) =
      s.services.peer k adapter := by
  have same : ∀ p, p ∈ (s.split.serviceAdapters k).flatMap (·.peers) ↔ p ∈ s.services.peers k := by
    intro p
    rw [List.mem_flatMap]
    constructor
    · rintro ⟨a, mem, inside⟩
      obtain ⟨name, -, rfl⟩ := List.mem_map.mp mem
      exact (List.mem_filter.mp inside).1
    · intro mem
      refine ⟨_, List.mem_map_of_mem (sound.known k p mem), List.mem_filter.mpr ⟨mem, by simp⟩⟩
  cases found : ((s.split.serviceAdapters k).flatMap (·.peers)).find? (·.adapter = adapter) with
  | none =>
    symm
    rw [Services.peer, List.find?_eq_none]
    exact fun p mem => List.find?_eq_none.mp found p ((same p).mpr mem)
  | some p =>
    have own : p.adapter = adapter := by simpa using List.find?_some found
    have mem := (same p).mp (List.mem_of_find?_eq_some found)
    rw [← own, Services.peer_of_mem (sound.tracked.distinct k) mem]

theorem onAdapterDisposed_split (sound : s.Sound system) (k : ObjectKind) (adapter : Nat) :
    s.split.onAdapterDisposed k adapter =
        split { s with services := s.services.onAdapterDisposed k adapter } ∧
      ({ s with services := s.services.onAdapterDisposed k adapter } : ConnectedServices).Sound system := by
  rw [GumdDbusServerP2P.onAdapterDisposed, find_split sound, Services.onAdapterDisposed]
  cases found : s.services.peer k adapter with
  | none => exact ⟨rfl, sound⟩
  | some p => exact ⟨release_split (sound.known k) p, sound.release (List.mem_of_find?_eq_some found)⟩

theorem request_split (sound : s.Sound system) (connection : Str) (c : Context)
    (operation : ConnectionOperation) :
    s.split.step (.request connection c operation) =
        ((s.step (.request connection c operation)).1, (s.step (.request connection c operation)).2.split) ∧
      (s.step (.request connection c operation)).2.Sound system := by
  have unchanged : s.split.update connection (s.services.only connection) = s.split :=
    update_split fun _ _ _ => rfl
  rw [GumdDbusServerP2P.step, GumdDbusServerP2P.request, step, service_split]
  by_cases allowed : s.Allowed connection operation
  · have answers := Services.call_only sound.tracked c allowed.own
    have changed := update_split (s := s) fun name k other =>
      Services.others_call sound.tracked c allowed.own (Ne.symm other) k
    rw [if_pos allowed, if_pos allowed.connected, if_neg (by simp), view_split sound.known, answers]
    exact ⟨Prod.ext rfl changed, sound.call c allowed⟩
  rw [if_neg allowed]
  refine ⟨?_, sound⟩
  by_cases connected : connection ∈ s.connected operation.kind
  · -- a method of an adapter that another client has
    rw [if_pos connected, if_neg (by simp), view_split sound.known]
    cases operation with
    | method k adapter method =>
      have foreign : ∀ p ∈ (s.services.only connection).peers k, p.adapter ≠ adapter := by
        intro p inside own
        obtain ⟨mem, named⟩ := List.mem_filter.mp inside
        exact allowed ⟨connected, p, mem, own, by simpa using named⟩
      rw [ConnectionOperation.toServerOperation, call_foreign foreign]
      exact Prod.ext rfl unchanged
    | createNew k => exact absurd connected allowed
    | get k id => exact absurd connected allowed
    | getByName k name => exact absurd connected allowed
  · rw [if_neg connected]
    rfl

/-- An event has the same answer and the same effect on both sides. -/
theorem step_split (sound : s.Sound system) (e : ConnectionEvent) :
    s.split.step e = ((s.step e).1, (s.step e).2.split) ∧ (s.step e).2.Sound system := by
  cases e with
  | clientRequest connection =>
    obtain ⟨same, sound'⟩ := onClientRequest_split sound connection
    exact ⟨Prod.ext rfl same, sound'⟩
  | request connection c operation => exact request_split sound connection c operation
  | adapterDisposed k adapter =>
    obtain ⟨same, sound'⟩ := onAdapterDisposed_split sound k adapter
    exact ⟨Prod.ext rfl same, sound'⟩
  | closed connection =>
    obtain ⟨users, sound'⟩ := removeService_split sound .user connection
    obtain ⟨groups, sound''⟩ := removeService_split sound' .group connection
    rw [GumdDbusServerP2P.step, GumdDbusServerP2P.onConnectionClosed, users, groups]
    exact ⟨rfl, sound''⟩
  | dispose =>
    obtain ⟨groups, sound'⟩ := removeServices_split sound .group
    obtain ⟨users, sound''⟩ := removeServices_split sound' .user
    rw [GumdDbusServerP2P.step, GumdDbusServerP2P.dispose, groups, users]
    exact ⟨rfl, sound''⟩

theorem run_split (sound : s.Sound system) (events : List ConnectionEvent) :
    s.split.run events = ((s.run events).1, (s.run events).2.split) ∧ (s.run events).2.Sound system := by
  induction events generalizing s with
  | nil => exact ⟨rfl, sound⟩
  | cons e rest ih =>
    obtain ⟨same, sound'⟩ := step_split sound e
    obtain ⟨later, sound''⟩ := ih sound'
    rw [GumdDbusServerP2P.run, run, same]
    dsimp only
    rw [later]
    exact ⟨rfl, sound''⟩

end ConnectedServices

/-- A peer-to-peer server answers its clients like one message bus that has them as its peers: its services
are those of the bus, one for each connection, with the adapters of the clients that are connected. -/
theorem GumdDbusServerP2P.run_answers (system : System) (events : List ConnectionEvent) :
    ((init system).run events).1 = ((ConnectedServices.init system).run events).1 ∧
      ((init system).run events).2 = ((ConnectedServices.init system).run events).2.split ∧
      ((ConnectedServices.init system).run events).2.Sound system := by
  obtain ⟨same, sound⟩ := ConnectedServices.run_split (ConnectedServices.sound_init system) events
  have start : init system = (ConnectedServices.init system).split := rfl
  rw [start, same]
  exact ⟨rfl, rfl, sound⟩

end Gumd
