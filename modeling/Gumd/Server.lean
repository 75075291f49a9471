import Gumd.Services
import Gumd.Lib.RefCounts
import Gumd.Lib.Runs
import Gumd.Lib.TotalWp

/-!
# The references of the server

An adapter owns a reference to its object, and the tables of the daemon own none: an entry goes when the
last reference does.  A program that reads an object without references reads freed memory, and has no
result.  No call of the server does, and its objects live as long as the services say.

An adapter also connects a handler to its object.  The end of the adapter leaves the handler connected,
so that a change of the object reads the freed adapter if another one has kept the object alive.
-/

namespace Gumd

open RefCounts TotalWp

/-- The services, the references to each object, and the adapters whose handlers are connected to it. -/
structure Server extends Services where
  refs : ObjectKind → Nat → Nat
  handlers : ObjectKind → Nat → List Nat

/-- A program of the server; without a result if it reads freed memory. -/
abbrev ServerM := StateT Server Option

namespace Server

/-! ## References -/

def setRefs (k : ObjectKind) (i n : Nat) (s : Server) : Server :=
  { s with refs := Function.update s.refs k (Function.update (s.refs k) i n) }

def setHandlers (k : ObjectKind) (i : Nat) (adapters : List Nat) (s : Server) : Server :=
  { s with handlers := Function.update s.handlers k (Function.update (s.handlers k) i adapters) }

/-- A read of an object. -/
def touch (k : ObjectKind) (i : Nat) : ServerM Unit := fun s =>
  if s.refs k i = 0 then none else some ((), s)

/-- `g_object_ref`. -/
def gObjectRef (k : ObjectKind) (i : Nat) : ServerM Unit := do
  touch k i
  modify fun s => s.setRefs k i (s.refs k i + 1)

/-- Every adapter with a handler on the object is there. -/
def Hears (s : Server) (k : ObjectKind) (i : Nat) : Prop :=
  ∀ adapter ∈ s.handlers k i, adapter ∈ (s.peers k).map (·.adapter)

instance (s : Server) (k : ObjectKind) (i : Nat) : Decidable (s.Hears k i) :=
  inferInstanceAs (Decidable (∀ adapter ∈ s.handlers k i, _))

/-- The handlers of `notify` run, each of which reads its adapter. -/
def notify (k : ObjectKind) (i : Nat) : ServerM Unit := fun s =>
  if s.Hears k i then some ((), s) else none

/-- `g_object_unref`; the last one tells the daemon, and the handlers go with the object. -/
def gObjectUnref (k : ObjectKind) (i : Nat) : ServerM Unit := do
  touch k i
  modify fun s => s.setRefs k i (s.refs k i - 1)
  if (← get).refs k i = 0 then
    modify fun s => { s with daemon := s.daemon.onObjectDisposed k i }
    modify (·.setHandlers k i [])

/-- `gumd_daemon_user_new` and `gumd_daemon_group_new`: the caller has the reference. -/
def objectNew (k : ObjectKind) (c : Context) : ServerM Nat := do
  let (i, d) := (← get).daemon.objectNew k c
  modify fun s => { s with daemon := d }
  modify fun s => s.setRefs k i 1
  return i

/-- `gumd_daemon_get_user` and `gumd_daemon_get_group`: the caller has a reference. -/
def getObject (k : ObjectKind) (c : Context) (id : UInt32) : ServerM (Option Nat) := do
  match (← get).daemon.table k id with
  | some i =>
      gObjectRef k i
      return some i
  | none =>
      let (found, d) := (← get).daemon.getObject k c id
      modify fun s => { s with daemon := d }
      match found with
      | none => return none
      | some i =>
          modify fun s => s.setRefs k i 1
          return some i

/-! ## The requests of one kind -/

/-- The loop of `_get_user_adapter_from_cache`, which reads the object of every adapter of the peer that
it passes. -/
def findAdapter (k : ObjectKind) (sender : Str) (id : UInt32) : List Peer → ServerM (Option Nat)
  | [] => return none
  | p :: rest => do
      if sender = p.peerName then
        touch k p.object
        if (← get).daemon.objectId k p.object = id ∧ !p.deleteLater then return some p.adapter
      findAdapter k sender id rest

/-- `_get_user_adapter_from_cache` and `_get_dbus_group_from_cache`. -/
def getAdapterFromCache (k : ObjectKind) (sender : Str) (id : UInt32) : ServerM (Option Nat) := do
  if id = k.invalidId then return none
  findAdapter k sender id ((← get).peers k)

/-- `_create_and_cache_user_adapter` and `_create_and_cache_dbus_group`; the adapter takes the reference
over, copies the properties of the object, and connects its handler. -/
def createAndCacheAdapter (k : ObjectKind) (i : Nat) (sender : Str) : ServerM Nat := do
  touch k i
  let (adapter, s) := (← get).toServices.createAndCacheAdapter k i sender
  modify fun t => { t with toServices := s }
  modify fun t => t.setHandlers k i (t.handlers k i ++ [adapter])
  return adapter

/-- `_handle_create_new_user` and `_handle_create_new_group`. -/
def handleCreateNew (k : ObjectKind) (c : Context) (sender : Str) : ServerM ServerReply := do
  let i ← objectNew k c
  return .path (← createAndCacheAdapter k i sender)

/-- `_handle_get_user` and `_handle_get_group`. -/
def handleGet (k : ObjectKind) (c : Context) (sender : Str) (id : UInt32) : ServerM ServerReply := do
  match ← getAdapterFromCache k sender id with
  | some adapter => return .path adapter
  | none =>
      match ← getObject k c id with
      | none => return .error
      | some i => return .path (← createAndCacheAdapter k i sender)

/-- `_handle_get_user_by_name` and `_handle_get_group_by_name`. -/
def handleGetByName (k : ObjectKind) (c : Context) (sender : Str) (name : Option Str) :
    ServerM ServerReply := do
  let (id, w) := (k.getIdByName name).run ⟨(← get).daemon.system.files, c.faults, c.process, none⟩
  handleGet k ⟨c.env, w.faults, w.process⟩ sender id

/-- A method of an adapter, or a write of one of its properties.  Either may change properties of the
object; the handlers are taken to run, whether or not one has changed. -/
def onObject (k : ObjectKind) (adapter : Nat) (method : GumdDaemon → Nat → ServerReply × GumdDaemon) :
    ServerM ServerReply := do
  match (← get).toServices.peer k adapter with
  | none => return .error
  | some p =>
      touch k p.object
      notify k p.object
      let (reply, d) := method (← get).daemon p.object
      modify fun s => { s with daemon := d }
      return reply

/-- A method that deletes the object of an adapter. -/
def onDeleted (k : ObjectKind) (adapter : Nat) (method : GumdDaemon → Nat → ServerReply × GumdDaemon) :
    ServerM ServerReply := do
  let reply ← onObject k adapter method
  if reply = .done then modify fun s => { s with toServices := s.toServices.deleteLater k adapter }
  return reply

def leave (s : Server) (k : ObjectKind) (p : Peer) : Server :=
  { s with peers := Function.update s.peers k ((s.peers k).filter (·.adapter ≠ p.adapter)) }

/-- The end of an adapter: it leaves the list, and `_dispose` drops its reference.  Its handler stays
connected to an object that lives on. -/
def release (k : ObjectKind) (p : Peer) : ServerM Unit := do
  modify (·.leave k p)
  gObjectUnref k p.object

/-- `_on_dbus_user_adapter_disposed` and `_on_dbus_group_adapter_disposed`. -/
def onAdapterDisposed (k : ObjectKind) (adapter : Nat) : ServerM Unit := do
  match (← get).toServices.peer k adapter with
  | none => return
  | some p => release k p

def releases (k : ObjectKind) : List Peer → ServerM Unit
  | [] => return
  | p :: rest => do
      release k p
      releases k rest

/-- `_on_bus_name_lost` of either service. -/
def onBusNameLost (k : ObjectKind) (peerName : Str) : ServerM Unit := do
  releases k (((← get).peers k).filter (·.peerName = peerName))

/-! ## Calls -/

/-- What a call is answered with. -/
def call (c : ServerCall) : ServerM ServerReply := do
  match c.operation with
  | .request k (.createNew sender) => handleCreateNew k c.toContext sender
  | .request k (.get sender id) => handleGet k c.toContext sender id
  | .request k (.getByName sender name) => handleGetByName k c.toContext sender name
  | .request k (.dispose adapter) =>
      onAdapterDisposed k adapter
      return .done
  | .request k (.busNameLost peerName) =>
      onBusNameLost k peerName
      return .done
  | .method k adapter operation =>
      if operation.deletes then onDeleted k adapter (operation.handle c.toContext)
      else onObject k adapter (operation.handle c.toContext)

/-- What the calls are answered with, one after another. -/
def serve : List ServerCall → ServerM (List ServerReply)
  | [] => return []
  | c :: rest => do
      let reply ← call c
      return reply :: (← serve rest)

/-- A server that has created no adapter. -/
def new (system : System) : Server := ⟨.new system, fun _ _ => 0, fun _ _ => []⟩

/-- A call reaches no object with a handler of an adapter that is gone. -/
def Safe (s : Server) (c : ServerCall) : Prop :=
  match c.operation with
  | .request _ _ => True
  | .method k adapter _ => ∀ p ∈ s.toServices.peer k adapter, s.Hears k p.object

instance (s : Server) : (c : ServerCall) → Decidable (s.Safe c)
  | ⟨_, .request _ _⟩ => .isTrue trivial
  | ⟨_, .method k adapter _⟩ =>
      inferInstanceAs (Decidable (∀ p ∈ s.toServices.peer k adapter, s.Hears k p.object))

/-- The server after a call. -/
def step (s : Server) (c : ServerCall) : Option Server := ((call c).run s).map Prod.snd

/-- No call of a run reaches such an object. -/
def SafeRun (s : Server) (calls : List ServerCall) : Prop := Runs.EachSome step Safe s calls

instance (s : Server) (calls : List ServerCall) : Decidable (s.SafeRun calls) :=
  inferInstanceAs (Decidable (Runs.EachSome step Safe s calls))

/-! ## The invariant -/

/-- Every object has as many references as there are adapters with it, and those a call holds; the table
leads to objects with references. -/
structure Owns (k : ObjectKind) (held : List Nat) (s : Server) : Prop where
  counted : Counted (held ++ (s.peers k).map (·.object)) (s.refs k)
  created : ∀ i, s.refs k i ≠ 0 → i < s.daemon.created k
  table : ∀ id i, s.daemon.table k id = some i → s.refs k i ≠ 0
  distinct : ((s.peers k).map (·.adapter)).Nodup
  numbered : ∀ p ∈ s.peers k, p.adapter < s.objectCounter k

/-- What a server has between its calls. -/
def Sound (s : Server) : Prop := ∀ k, s.Owns k []

/-- A call of the kind holds references to objects. -/
def Holds (k : ObjectKind) (held : List Nat) (s : Server) : Prop :=
  s.Owns k held ∧ ∀ j, j ≠ k → s.Owns j []

theorem Sound.holds {s : Server} (sound : s.Sound) (k : ObjectKind) : s.Holds k [] :=
  ⟨sound k, fun j _ => sound j⟩

theorem Holds.sound {s : Server} {k : ObjectKind} (holds : s.Holds k []) : s.Sound := by
  intro j
  by_cases same : j = k
  · exact same ▸ holds.1
  · exact holds.2 j same

end Server

/-! ## What the daemon does to its tables -/

namespace GumdDaemon

/-- The daemon with the objects of a kind changed: those of the others are the same. -/
def Apart (k : ObjectKind) (d d' : GumdDaemon) : Prop :=
  ∀ j, j ≠ k → d'.table j = d.table j ∧ d'.created j = d.created j

variable {d : GumdDaemon} {k : ObjectKind}

theorem objectNew_spec (d : GumdDaemon) (k : ObjectKind) (c : Context) :
    (d.objectNew k c).1 = d.created k ∧ d.Apart k (d.objectNew k c).2 ∧
      (d.objectNew k c).2.created k = d.created k + 1 ∧
      (d.objectNew k c).2.table k = d.table k := by
  cases k <;> refine ⟨rfl, fun j other => ?_, rfl, rfl⟩ <;> cases j
  all_goals first
    | exact absurd rfl other
    | exact ⟨rfl, rfl⟩

theorem getObject_cached {id : UInt32} {i : Nat} (cached : d.table k id = some i) (c : Context) :
    d.getObject k c id = (some i, d) := by
  cases k
  · change d.users id = some i at cached
    rw [getObject, getUser, cached]
  · change d.groups id = some i at cached
    rw [getObject, getGroup, cached]

/-- An object that is not in the table is loaded into it, under the next number. -/
theorem getObject_uncached {id : UInt32} (missing : d.table k id = none) (c : Context) :
    d.Apart k (d.getObject k c id).2 ∧
      ((d.getObject k c id).1 = none ∧ (d.getObject k c id).2.created k = d.created k ∧
          (d.getObject k c id).2.table k = d.table k ∨
        (d.getObject k c id).1 = some (d.created k) ∧
          (d.getObject k c id).2.created k = d.created k + 1 ∧
          (d.getObject k c id).2.table k = Function.update (d.table k) id (some (d.created k))) := by
  cases k
  · change d.users id = none at missing
    rw [getObject, getUser, missing]
    dsimp only
    refine ⟨fun j other => ?_, ?_⟩
    · cases j
      · exact absurd rfl other
      · split_ifs <;> exact ⟨rfl, rfl⟩
    · split_ifs
      · exact Or.inr ⟨rfl, rfl, rfl⟩
      · exact Or.inl ⟨rfl, rfl, rfl⟩
  · change d.groups id = none at missing
    rw [getObject, getGroup, missing]
    dsimp only
    refine ⟨fun j other => ?_, ?_⟩
    · cases j
      · split_ifs <;> exact ⟨rfl, rfl⟩
      · exact absurd rfl other
    · split_ifs
      · exact Or.inr ⟨rfl, rfl, rfl⟩
      · exact Or.inl ⟨rfl, rfl, rfl⟩

theorem onObjectDisposed_spec (d : GumdDaemon) (k : ObjectKind) (i : Nat) :
    d.Apart k (d.onObjectDisposed k i) ∧ (d.onObjectDisposed k i).created k = d.created k ∧
      (d.onObjectDisposed k i).table k = fun id => (d.table k id).filter (· ≠ i) := by
  cases k <;> refine ⟨fun j other => ?_, rfl, rfl⟩ <;> cases j
  all_goals first
    | exact absurd rfl other
    | exact ⟨rfl, rfl⟩

/-- What a method of an object does to the tables: at most it enters the object. -/
structure Enters (k : ObjectKind) (i : Nat) (d d' : GumdDaemon) : Prop where
  apart : d.Apart k d'
  created : d'.created k = d.created k
  table : ∀ id j, d'.table k id = some j → d.table k id = some j ∨ j = i

theorem enters_system (k : ObjectKind) (i : Nat) (d : GumdDaemon) (system : System) :
    d.Enters k i { d with system := system } where
  apart j _ := by cases j <;> exact ⟨rfl, rfl⟩
  created := by cases k <;> rfl
  table id j held := Or.inl (by cases k <;> exact held)

theorem enters_refl (k : ObjectKind) (i : Nat) (d : GumdDaemon) : d.Enters k i d :=
  enters_system k i d d.system

theorem enters_users (i : Nat) (d : GumdDaemon) (system : System) (uid : UInt32) :
    d.Enters .user i { d with system := system, users := Function.update d.users uid (some i) } where
  apart j other := by
    cases j
    · exact absurd rfl other
    · exact ⟨rfl, rfl⟩
  created := rfl
  table id j held := by
    change Function.update d.users uid (some i) id = some j at held
    by_cases same : id = uid
    · rw [same, Function.update_self] at held
      exact Or.inr (Option.some.inj held).symm
    · rw [Function.update_of_ne same] at held
      exact Or.inl held

theorem enters_groups (i : Nat) (d : GumdDaemon) (system : System) (gid : UInt32) :
    d.Enters .group i { d with system := system, groups := Function.update d.groups gid (some i) } where
  apart j other := by
    cases j
    · exact ⟨rfl, rfl⟩
    · exact absurd rfl other
  created := rfl
  table id j held := by
    change Function.update d.groups gid (some i) id = some j at held
    by_cases same : id = gid
    · rw [same, Function.update_self] at held
      exact Or.inr (Option.some.inj held).symm
    · rw [Function.update_of_ne same] at held
      exact Or.inl held

theorem enters_addUser (d : GumdDaemon) (c : Context) (i : Nat) :
    d.Enters .user i (d.addUser c i).2.2 := by
  rw [addUser]
  dsimp only
  split_ifs
  · exact enters_system _ _ _ _
  · exact enters_users _ _ _ _
  · exact enters_system _ _ _ _
  · exact enters_refl _ _ _

theorem enters_addGroup (d : GumdDaemon) (c : Context) (i : Nat) :
    d.Enters .group i (d.addGroup c i).2.2 := by
  rw [addGroup]
  dsimp only
  split_ifs
  · exact enters_system _ _ _ _
  · exact enters_groups _ _ _ _
  · exact enters_system _ _ _ _
  · exact enters_refl _ _ _

theorem enters_changeMembers (d : GumdDaemon) (c : Context) (i : Nat) (operation : Operation) :
    d.Enters .group i (d.changeMembers c i operation).2 := by
  rw [changeMembers]
  dsimp only
  split_ifs
  · exact enters_system _ _ _ _
  · exact enters_refl _ _ _

theorem enters_setProperty (k : ObjectKind) (writable : Prop) [Decidable writable]
    (operation : Nat → Operation) (c : Context) (d : GumdDaemon) (i : Nat) :
    d.Enters k i (setProperty writable operation c d i).2 := by
  rw [setProperty]
  split_ifs
  · exact enters_system _ _ _ _
  · exact enters_refl _ _ _

theorem enters_handle (operation : MethodOperation k) (c : Context) (d : GumdDaemon) (i : Nat) :
    d.Enters k i (operation.handle c d i).2 := by
  cases operation with
  | setUserProperty property => exact enters_setProperty _ _ _ _ _ _
  | addUser => exact enters_addUser d c i
  | deleteUser remHomeDir =>
    simp only [MethodOperation.handle, UserAdapter.handleDeleteUser, deleteUser]
    split_ifs
    · exact enters_system _ _ _ _
    · exact enters_refl _ _ _
  | updateUser =>
    simp only [MethodOperation.handle, UserAdapter.handleUpdateUser, updateUser]
    split_ifs
    · exact enters_system _ _ _ _
    · exact enters_refl _ _ _
  | setGroupProperty property => exact enters_setProperty _ _ _ _ _ _
  | addGroup preferredGid => exact enters_addGroup d c i
  | deleteGroup =>
    simp only [MethodOperation.handle, GroupAdapter.handleDeleteGroup, deleteGroup]
    split_ifs
    · exact enters_system _ _ _ _
    · exact enters_refl _ _ _
  | updateGroup =>
    simp only [MethodOperation.handle, GroupAdapter.handleUpdateGroup, updateGroup]
    split_ifs
    · exact enters_system _ _ _ _
    · exact enters_refl _ _ _
  | addMember uid addAsAdmin => exact enters_changeMembers d c i (.groupAddMember i uid addAsAdmin)
  | deleteMember uid => exact enters_changeMembers d c i (.groupDeleteMember i uid)

end GumdDaemon

namespace Server

variable {s : Server} {k : ObjectKind} {held : List Nat} {i : Nat}

/-! ## What keeps the invariant -/

/-- The invariant of a kind is about what the server has of that kind. -/
theorem Owns.congr {t : Server} {j : ObjectKind} (owns : s.Owns j held) (refs : t.refs j = s.refs j)
    (peers : t.peers j = s.peers j) (counter : t.objectCounter j = s.objectCounter j)
    (table : t.daemon.table j = s.daemon.table j) (created : t.daemon.created j = s.daemon.created j) :
    t.Owns j held where
  counted := by rw [refs, peers]; exact owns.counted
  created := by rw [refs, created]; exact owns.created
  table := by rw [refs, table]; exact owns.table
  distinct := by rw [peers]; exact owns.distinct
  numbered := by rw [peers, counter]; exact owns.numbered

/-- The handlers play no part. -/
theorem Holds.setHandlers (holds : s.Holds k held) (j : ObjectKind) (i : Nat) (adapters : List Nat) :
    (s.setHandlers j i adapters).Holds k held :=
  ⟨holds.1.congr rfl rfl rfl rfl rfl, fun _ other => (holds.2 _ other).congr rfl rfl rfl rfl rfl⟩

/-- The references of another kind are changed. -/
theorem Owns.setRefs {j : ObjectKind} (owns : s.Owns j held) (other : j ≠ k) (i n : Nat) :
    (s.setRefs k i n).Owns j held :=
  owns.congr (Function.update_of_ne other _ _) rfl rfl rfl rfl

theorem refs_setRefs (s : Server) (k : ObjectKind) (i n : Nat) :
    (s.setRefs k i n).refs k = Function.update (s.refs k) i n := Function.update_self _ _ _

/-- The daemon makes objects of the kind, and enters those that have references. -/
theorem Holds.daemon (holds : s.Holds k held) {d : GumdDaemon} (apart : s.daemon.Apart k d)
    (created : s.daemon.created k ≤ d.created k)
    (table : ∀ id i, d.table k id = some i → s.daemon.table k id = some i ∨ s.refs k i ≠ 0) :
    { s with daemon := d }.Holds k held := by
  obtain ⟨own, others⟩ := holds
  refine ⟨⟨own.counted, fun i some => ?_, fun id i entered => ?_, own.distinct, own.numbered⟩, ?_⟩
  · exact Nat.lt_of_lt_of_le (own.created i some) created
  · rcases table id i entered with old | new
    · exact own.table id i old
    · exact new
  · exact fun j other => (others j other).congr rfl rfl rfl (apart j other).1 (apart j other).2

/-- The references of an object of the kind are changed. -/
theorem Holds.setRefs {held' : List Nat} (holds : s.Holds k held) {n : Nat} (some : n ≠ 0)
    (created : i < s.daemon.created k)
    (counted : Counted (held' ++ (s.peers k).map (·.object)) (Function.update (s.refs k) i n)) :
    (s.setRefs k i n).Holds k held' := by
  obtain ⟨own, others⟩ := holds
  refine ⟨⟨?_, ?_, ?_, own.distinct, own.numbered⟩, fun j other => (others j other).setRefs other i n⟩
  · rw [refs_setRefs]
    exact counted
  · rw [refs_setRefs]
    intro j nonzero
    by_cases same : j = i
    · exact same ▸ created
    · rw [Function.update_of_ne same] at nonzero
      exact own.created j nonzero
  · rw [refs_setRefs]
    intro id j entered
    by_cases same : j = i
    · rw [same, Function.update_self]
      exact some
    · rw [Function.update_of_ne same]
      exact own.table id j entered

/-- The reference of a call goes to a new adapter. -/
theorem Holds.adopt (holds : s.Holds k (i :: held)) (sender : Str) :
    { s with toServices := (s.toServices.createAndCacheAdapter k i sender).2 }.Holds k held := by
  obtain ⟨own, others⟩ := holds
  have peers : (s.toServices.createAndCacheAdapter k i sender).2.peers k =
      s.peers k ++ [⟨sender, s.objectCounter k, i, false⟩] := Function.update_self _ _ _
  have counter : (s.toServices.createAndCacheAdapter k i sender).2.objectCounter k =
      s.objectCounter k + 1 := Function.update_self _ _ _
  refine ⟨⟨?_, own.created, own.table, ?_, ?_⟩, fun j other => ?_⟩
  · rw [peers, List.map_append]
    refine own.counted.perm ?_
    rw [List.cons_append, ← List.append_assoc]
    exact (List.perm_append_singleton i _).symm
  · rw [peers, List.map_append]
    refine List.nodup_append.mpr ⟨own.distinct, List.nodup_singleton _, fun a old b new => ?_⟩
    obtain rfl := List.mem_singleton.mp new
    obtain ⟨p, mem, rfl⟩ := List.mem_map.mp old
    exact Nat.ne_of_lt (own.numbered p mem)
  · rw [peers, counter]
    intro p mem
    rcases List.mem_append.mp mem with old | new
    · exact Nat.lt_succ_of_lt (own.numbered p old)
    · obtain rfl := List.mem_singleton.mp new
      exact Nat.lt_succ_self _
  · exact (others j other).congr rfl (Function.update_of_ne other _ _)
      (Function.update_of_ne other _ _) rfl rfl

/-- An adapter leaves the list, and its reference is the call's. -/
theorem Holds.leave (holds : s.Holds k []) {p : Peer} (mem : p ∈ s.peers k) :
    (s.leave k p).Holds k [p.object] := by
  obtain ⟨own, others⟩ := holds
  have peers : (s.leave k p).peers k = (s.peers k).filter (·.adapter ≠ p.adapter) :=
    Function.update_self _ _ _
  have rest := perm_cons_filter own.distinct mem
  refine ⟨⟨?_, own.created, own.table, ?_, ?_⟩, fun j other => ?_⟩
  · rw [peers]
    exact own.counted.perm (rest.map _)
  · rw [peers]
    exact own.distinct.sublist (List.filter_sublist.map _)
  · rw [peers]
    exact fun q inside => own.numbered q (List.mem_filter.mp inside).1
  · exact (others j other).congr rfl (Function.update_of_ne other _ _) rfl rfl rfl

/-- The marks of adapters play no part. -/
theorem Holds.deleteLater (holds : s.Holds k held) (adapter : Nat) :
    { s with toServices := s.toServices.deleteLater k adapter }.Holds k held := by
  obtain ⟨own, others⟩ := holds
  have peers : (s.toServices.deleteLater k adapter).peers k = (s.peers k).map fun p =>
      if p.adapter = adapter then { p with deleteLater := true } else p := Function.update_self _ _ _
  have same : ∀ {α : Type} (field : Peer → α),
      (∀ p : Peer, field { p with deleteLater := true } = field p) →
        ((s.toServices.deleteLater k adapter).peers k).map field = (s.peers k).map field := by
    intro α field unmarked
    rw [peers, List.map_map]
    refine List.map_congr_left fun p _ => ?_
    simp only [Function.comp]
    split_ifs
    · exact unmarked p
    · rfl
  refine ⟨⟨?_, own.created, own.table, ?_, ?_⟩, fun j other => ?_⟩
  · rw [same _ fun _ => rfl]
    exact own.counted
  · rw [same _ fun _ => rfl]
    exact own.distinct
  · intro p mem
    have number : p.adapter ∈ (s.peers k).map (·.adapter) := by
      rw [← same _ fun _ => rfl]
      exact List.mem_map_of_mem mem
    obtain ⟨q, inside, number⟩ := List.mem_map.mp number
    exact number ▸ own.numbered q inside
  · exact (others j other).congr rfl (Function.update_of_ne other _ _) rfl rfl rfl

/-! ## References -/

theorem wp_touch {Q : Unit → Server → Prop} (alive : s.refs k i ≠ 0) :
    wp (touch k i) Q s ↔ Q () s := by
  have run : (touch k i).run s = some ((), s) := if_neg alive
  constructor
  · exact fun post => wp_of_run post run
  · exact fun post => ⟨(), s, run, post⟩

theorem wp_notify {Q : Unit → Server → Prop} (hears : s.Hears k i) :
    wp (notify k i) Q s ↔ Q () s := by
  have run : (notify k i).run s = some ((), s) := if_pos hears
  constructor
  · exact fun post => wp_of_run post run
  · exact fun post => ⟨(), s, run, post⟩

/-- What a call or an adapter has a reference to is alive. -/
theorem Holds.alive (holds : s.Holds k held) (mem : i ∈ held ++ (s.peers k).map (·.object)) :
    s.refs k i ≠ 0 :=
  Nat.ne_of_gt (holds.1.counted.pos mem)

theorem Holds.alive_peer (holds : s.Holds k held) {p : Peer} (mem : p ∈ s.peers k) :
    s.refs k p.object ≠ 0 :=
  holds.alive (List.mem_append_right _ (List.mem_map_of_mem mem))

theorem wp_gObjectRef (holds : s.Holds k held) (alive : s.refs k i ≠ 0) :
    wp (gObjectRef k i) (fun _ t => t.toServices = s.toServices ∧ t.Holds k (i :: held)) s := by
  rw [gObjectRef, wp_bind, wp_touch alive, wp_modify]
  refine ⟨rfl, holds.setRefs (Nat.succ_ne_zero _) (holds.1.created i alive) ?_⟩
  exact holds.1.counted.cons i

/-- A reference is dropped: the object goes unless an adapter has it. -/
theorem wp_gObjectUnref (holds : s.Holds k [i]) :
    wp (gObjectUnref k i) (fun _ t => t.toServices = { s.toServices with
      daemon := if (s.peers k).any (·.object = i) then s.daemon
        else s.daemon.onObjectDisposed k i } ∧ t.Holds k []) s := by
  have alive := holds.alive (List.mem_append_left _ (List.mem_singleton_self i))
  have counted : Counted (i :: (s.peers k).map (·.object)) (s.refs k) := holds.1.counted
  have dropped := counted.drop
  have last : s.refs k i - 1 = 0 ↔ ¬(s.peers k).any (·.object = i) = true := by
    rw [counted.last_iff, List.any_eq_true, List.mem_map]
    simp only [decide_eq_true_eq]
  rw [gObjectUnref, wp_bind, wp_touch alive, wp_bind, wp_modify, wp_bind, wp_get, wp_ite]
  rw [refs_setRefs, Function.update_self, wp_bind, wp_modify, wp_modify, wp_pure]
  refine ⟨fun none => ?_, fun some => ?_⟩
  · rw [if_neg (last.mp none)]
    refine ⟨rfl, Holds.setHandlers ?_ k i []⟩
    obtain ⟨apart, created, table⟩ := s.daemon.onObjectDisposed_spec k i
    obtain ⟨own, others⟩ := holds
    refine ⟨⟨?_, ?_, ?_, own.distinct, own.numbered⟩, fun j other => ?_⟩
    · rw [refs_setRefs]
      exact dropped
    · rw [refs_setRefs]
      intro j nonzero
      rw [Function.update_of_ne fun same => nonzero (by rw [same, Function.update_self, none])]
        at nonzero
      exact created ▸ own.created j nonzero
    · rw [refs_setRefs]
      intro id j entered
      rw [show (s.setRefs k i (s.refs k i - 1)).daemon = s.daemon from rfl, table] at entered
      obtain ⟨old, other⟩ := Option.filter_eq_some_iff.mp entered
      rw [Function.update_of_ne (by simpa using other)]
      exact own.table id j old
    · refine ((others j other).setRefs other i (s.refs k i - 1)).congr rfl rfl rfl ?_ ?_
      · exact (apart j other).1
      · exact (apart j other).2
  · have any : (s.peers k).any (·.object = i) = true := by
      by_contra absent
      exact some (last.mpr absent)
    rw [if_pos any]
    exact ⟨rfl, holds.setRefs some (holds.1.created i alive) dropped⟩

/-! ## The daemon -/

theorem wp_objectNew (holds : s.Holds k []) (c : Context) :
    wp (objectNew k c) (fun i t => i = (s.daemon.objectNew k c).1 ∧
      t.toServices = { s.toServices with daemon := (s.daemon.objectNew k c).2 } ∧
      t.Holds k [i]) s := by
  obtain ⟨number, apart, created, table⟩ := s.daemon.objectNew_spec k c
  have new : s.refs k (s.daemon.created k) = 0 := by
    by_contra alive
    exact Nat.lt_irrefl _ (holds.1.created _ alive)
  rw [objectNew, wp_bind, wp_get]
  simp only [wp_bind, wp_modify, wp_pure]
  refine ⟨trivial, rfl, ?_⟩
  have grown := holds.daemon apart (Nat.le_of_lt (created ▸ Nat.lt_succ_self _))
    fun id i entered => Or.inl (table ▸ entered)
  refine grown.setRefs Nat.one_ne_zero ?_ ?_
  · rw [number, created]
    exact Nat.lt_succ_self _
  · rw [number]
    exact holds.1.counted.first new

theorem wp_getObject (holds : s.Holds k []) (c : Context) (id : UInt32) :
    wp (getObject k c id) (fun found t => found = (s.daemon.getObject k c id).1 ∧
      t.toServices = { s.toServices with daemon := (s.daemon.getObject k c id).2 } ∧
      t.Holds k found.toList) s := by
  rw [getObject, wp_bind, wp_get]
  cases cached : s.daemon.table k id with
  | some i =>
    rw [GumdDaemon.getObject_cached cached c]
    simp only [wp_bind, wp_pure]
    refine wp_mono (wp_gObjectRef holds (holds.1.table id i cached)) ?_
    rintro _ t ⟨same, more⟩
    exact ⟨trivial, same, more⟩
  | none =>
    obtain ⟨apart, ⟨missing, created, table⟩ | ⟨found, created, table⟩⟩ :=
      GumdDaemon.getObject_uncached cached c
    · simp only [wp_bind, wp_get, wp_modify, missing, wp_pure]
      refine ⟨trivial, trivial, ?_⟩
      exact holds.daemon apart (Nat.le_of_eq created.symm) fun id i entered => Or.inl (table ▸ entered)
    · have new : s.refs k (s.daemon.created k) = 0 := by
        by_contra alive
        exact Nat.lt_irrefl _ (holds.1.created _ alive)
      simp only [wp_bind, wp_get, wp_modify, found, wp_pure]
      refine ⟨trivial, rfl, ?_⟩
      obtain ⟨own, others⟩ := holds
      refine ⟨⟨?_, ?_, ?_, own.distinct, own.numbered⟩, fun j other => ?_⟩
      · rw [refs_setRefs]
        exact own.counted.first new
      · rw [refs_setRefs]
        intro j nonzero
        change j < (s.daemon.getObject k c id).2.created k
        rw [created]
        by_cases same : j = s.daemon.created k
        · exact same ▸ Nat.lt_succ_self _
        · rw [Function.update_of_ne same] at nonzero
          exact Nat.lt_succ_of_lt (own.created j nonzero)
      · rw [refs_setRefs]
        intro u j entered
        change (s.daemon.getObject k c id).2.table k u = some j at entered
        by_cases same : j = s.daemon.created k
        · rw [same, Function.update_self]
          exact Nat.one_ne_zero
        · rw [Function.update_of_ne same]
          rw [table] at entered
          by_cases own' : u = id
          · rw [own', Function.update_self] at entered
            exact absurd (Option.some.inj entered).symm same
          · rw [Function.update_of_ne own'] at entered
            exact own.table u j entered
      · refine ((others j other).setRefs other (s.daemon.created k) 1).congr rfl rfl rfl ?_ ?_
        · exact (apart j other).1
        · exact (apart j other).2

/-! ## The requests of one kind -/

/-- A program ends as the services say, with the references it should have. -/
def Answers {α : Type} (k : ObjectKind) (held : List Nat) (answer : α × Services) (a : α)
    (t : Server) : Prop :=
  (a, t.toServices) = answer ∧ t.Holds k held

theorem wp_findAdapter {l : List Peer} (alive : ∀ p ∈ l, s.refs k p.object ≠ 0) (sender : Str)
    (id : UInt32) :
    wp (findAdapter k sender id l) (fun r t => t = s ∧ r = (l.find? fun p =>
      sender = p.peerName ∧ s.daemon.objectId k p.object = id ∧ !p.deleteLater).map (·.adapter)) s := by
  induction l with
  | nil =>
    rw [findAdapter, wp_pure]
    exact ⟨rfl, rfl⟩
  | cons p rest ih =>
    have later := ih fun q mem => alive q (List.mem_cons_of_mem _ mem)
    rw [findAdapter]
    by_cases own : sender = p.peerName
    · rw [if_pos own, wp_bind, wp_touch (alive p List.mem_cons_self), wp_bind, wp_get]
      by_cases found : s.daemon.objectId k p.object = id ∧ (!p.deleteLater) = true
      · rw [if_pos found, wp_pure, List.find?_cons, decide_eq_true ⟨own, found⟩]
        exact ⟨rfl, rfl⟩
      · rw [if_neg found, List.find?_cons_of_neg fun both => found (of_decide_eq_true both).2]
        exact later
    · rw [if_neg own, List.find?_cons_of_neg fun both => own (of_decide_eq_true both).1]
      exact later

theorem wp_getAdapterFromCache (holds : s.Holds k []) (sender : Str) (id : UInt32) :
    wp (getAdapterFromCache k sender id) (fun r t => t = s ∧
      r = s.toServices.getAdapterFromCache k sender id) s := by
  rw [getAdapterFromCache, Services.getAdapterFromCache]
  split_ifs with invalid
  · rw [wp_pure]
    exact ⟨rfl, rfl⟩
  · rw [wp_bind, wp_get]
    exact wp_findAdapter (fun p mem => holds.alive_peer mem) sender id

theorem wp_createAndCacheAdapter (holds : s.Holds k (i :: held)) (sender : Str) :
    wp (createAndCacheAdapter k i sender)
      (Answers k held (s.toServices.createAndCacheAdapter k i sender)) s := by
  have alive := holds.alive (List.mem_append_left _ List.mem_cons_self)
  rw [createAndCacheAdapter, wp_bind, wp_touch alive, wp_bind, wp_get]
  simp only [wp_bind, wp_modify, wp_pure]
  exact ⟨rfl, (holds.adopt sender).setHandlers _ _ _⟩

theorem wp_handleCreateNew (holds : s.Holds k []) (c : Context) (sender : Str) :
    wp (handleCreateNew k c sender) (Answers k [] (s.toServices.handleCreateNew k c sender)) s := by
  rw [handleCreateNew, wp_bind]
  refine wp_mono (wp_objectNew holds c) ?_
  rintro i t ⟨number, same, holds'⟩
  rw [wp_bind]
  refine wp_mono (wp_createAndCacheAdapter holds' sender) ?_
  rintro adapter u ⟨made, holds''⟩
  rw [wp_pure]
  refine ⟨?_, holds''⟩
  rw [Services.handleCreateNew]
  generalize s.daemon.objectNew k c = r at number same
  obtain ⟨i', d⟩ := r
  obtain rfl : i = i' := number
  dsimp only at same ⊢
  rw [← same, ← made]

theorem wp_handleGet (holds : s.Holds k []) (c : Context) (sender : Str) (id : UInt32) :
    wp (handleGet k c sender id) (Answers k [] (s.toServices.handleGet k c sender id)) s := by
  rw [handleGet, wp_bind]
  refine wp_mono (wp_getAdapterFromCache holds sender id) ?_
  rintro r t ⟨rfl, cached⟩
  rw [Services.handleGet, ← cached]
  cases r with
  | some adapter =>
    rw [wp_pure]
    exact ⟨rfl, holds⟩
  | none =>
    rw [wp_bind]
    refine wp_mono (wp_getObject holds c id) ?_
    rintro found u ⟨same, services, holds'⟩
    generalize t.daemon.getObject k c id = r at same services
    obtain ⟨found', d⟩ := r
    obtain rfl : found = found' := same
    cases found with
    | none =>
      rw [wp_pure]
      exact ⟨by rw [services], holds'⟩
    | some i =>
      rw [wp_bind]
      refine wp_mono (wp_createAndCacheAdapter holds' sender) ?_
      rintro adapter v ⟨made, holds''⟩
      rw [wp_pure]
      refine ⟨?_, holds''⟩
      dsimp only at services ⊢
      rw [← services, ← made]

theorem wp_handleGetByName (holds : s.Holds k []) (c : Context) (sender : Str) (name : Option Str) :
    wp (handleGetByName k c sender name) (Answers k [] (s.toServices.handleGetByName k c sender name))
      s := by
  rw [handleGetByName, wp_bind, wp_get]
  exact wp_handleGet holds _ sender _

theorem wp_onObject (holds : s.Holds k []) (adapter : Nat)
    {method : GumdDaemon → Nat → ServerReply × GumdDaemon}
    (enters : ∀ (d : GumdDaemon) i, d.Enters k i (method d i).2)
    (safe : ∀ p ∈ s.toServices.peer k adapter, s.Hears k p.object) :
    wp (onObject k adapter method) (Answers k [] (s.toServices.onObject k adapter method)) s := by
  rw [onObject, wp_bind, wp_get, Services.onObject]
  cases found : s.toServices.peer k adapter with
  | none =>
    rw [wp_pure]
    exact ⟨rfl, holds⟩
  | some p =>
    have alive := holds.alive_peer (List.mem_of_find?_eq_some found)
    obtain ⟨apart, created, table⟩ := enters s.daemon p.object
    rw [wp_bind, wp_touch alive, wp_bind, wp_notify (safe p found), wp_bind, wp_get]
    simp only [wp_bind, wp_modify, wp_pure]
    refine ⟨rfl, holds.daemon apart (Nat.le_of_eq created.symm) fun id i entered => ?_⟩
    rcases table id i entered with old | rfl
    · exact Or.inl old
    · exact Or.inr alive

theorem wp_onDeleted (holds : s.Holds k []) (adapter : Nat)
    {method : GumdDaemon → Nat → ServerReply × GumdDaemon}
    (enters : ∀ (d : GumdDaemon) i, d.Enters k i (method d i).2)
    (safe : ∀ p ∈ s.toServices.peer k adapter, s.Hears k p.object) :
    wp (onDeleted k adapter method) (Answers k [] (s.toServices.onDeleted k adapter method)) s := by
  rw [onDeleted, wp_bind]
  refine wp_mono (wp_onObject holds adapter enters safe) ?_
  rintro reply t ⟨same, holds'⟩
  rw [Services.onDeleted, ← same]
  simp only [wp_bind, wp_ite, wp_modify, wp_pure]
  refine ⟨fun done => ?_, fun failed => ?_⟩
  · rw [if_pos done]
    exact ⟨rfl, holds'.deleteLater adapter⟩
  · rw [if_neg failed]
    exact ⟨rfl, holds'⟩

/-! ## The end of adapters -/

theorem wp_release (holds : s.Holds k []) {p : Peer} (mem : p ∈ s.peers k) :
    wp (release k p) (fun _ t => t.toServices = s.toServices.release k p ∧ t.Holds k []) s := by
  rw [release, wp_bind, wp_modify]
  refine wp_mono (wp_gObjectUnref (holds.leave mem)) ?_
  rintro _ t ⟨same, holds'⟩
  refine ⟨?_, holds'⟩
  rw [same, Services.release]
  simp only [leave, Function.update_self]

theorem wp_onAdapterDisposed (holds : s.Holds k []) (adapter : Nat) :
    wp (onAdapterDisposed k adapter) (fun _ t =>
      t.toServices = s.toServices.onAdapterDisposed k adapter ∧ t.Holds k []) s := by
  rw [onAdapterDisposed, wp_bind, wp_get, Services.onAdapterDisposed]
  cases found : s.toServices.peer k adapter with
  | none =>
    rw [wp_pure]
    exact ⟨rfl, holds⟩
  | some p => exact wp_release holds (List.mem_of_find?_eq_some found)

/-- The adapters of a list of distinct ones go one after another. -/
theorem wp_releases {going : List Peer} {s : Server} (holds : s.Holds k [])
    (inside : ∀ p ∈ going, p ∈ s.peers k) (distinct : (going.map (·.adapter)).Nodup) :
    wp (releases k going) (fun _ t =>
      t.toServices = going.foldl (Services.release · k) s.toServices ∧ t.Holds k []) s := by
  induction going generalizing s with
  | nil =>
    rw [releases, wp_pure]
    exact ⟨rfl, holds⟩
  | cons p rest ih =>
    rw [List.map_cons, List.nodup_cons] at distinct
    rw [releases, wp_bind]
    refine wp_mono (wp_release holds (inside p List.mem_cons_self)) ?_
    rintro _ t ⟨same, holds'⟩
    rw [List.foldl_cons, ← same]
    refine ih holds' (fun q mem => ?_) distinct.2
    -- the adapters still to go are not the one that has gone
    have other : q.adapter ≠ p.adapter := fun number => distinct.1 (number ▸ List.mem_map_of_mem mem)
    rw [same, Services.release]
    dsimp only
    rw [Function.update_self]
    exact List.mem_filter.mpr ⟨inside q (List.mem_cons_of_mem _ mem), decide_eq_true other⟩

theorem wp_onBusNameLost (holds : s.Holds k []) (peerName : Str) :
    wp (onBusNameLost k peerName) (fun _ t =>
      t.toServices = s.toServices.onBusNameLost k peerName ∧ t.Holds k []) s := by
  rw [onBusNameLost, wp_bind, wp_get]
  refine wp_releases holds (fun p mem => (List.mem_filter.mp mem).1) ?_
  exact holds.1.distinct.sublist (List.filter_sublist.map _)

/-! ## Runs -/

/-- A safe call of a server reads no freed memory, and is answered as the services answer it. -/
theorem wp_call (sound : s.Sound) {c : ServerCall} (safe : s.Safe c) :
    wp (call c) (fun reply t => (reply, t.toServices) = s.toServices.call c ∧ t.Sound) s := by
  have answered : ∀ {k : ObjectKind} {m : ServerM ServerReply} {answer : ServerReply × Services},
      wp m (Answers k [] answer) s →
        wp m (fun reply t => (reply, t.toServices) = answer ∧ t.Sound) s := by
    intro k m answer spec
    exact wp_mono spec fun reply t answers => ⟨answers.1, answers.2.sound⟩
  rw [Safe] at safe
  rw [call, Services.call]
  cases op : c.operation with
  | request k operation =>
    have holds := sound.holds k
    cases operation with
    | createNew sender => exact answered (wp_handleCreateNew holds c.toContext sender)
    | get sender id => exact answered (wp_handleGet holds c.toContext sender id)
    | getByName sender name => exact answered (wp_handleGetByName holds c.toContext sender name)
    | dispose adapter =>
      simp only [wp_bind, wp_pure]
      refine wp_mono (wp_onAdapterDisposed holds adapter) ?_
      rintro _ t ⟨same, holds'⟩
      exact ⟨by rw [same], holds'.sound⟩
    | busNameLost peerName =>
      simp only [wp_bind, wp_pure]
      refine wp_mono (wp_onBusNameLost holds peerName) ?_
      rintro _ t ⟨same, holds'⟩
      exact ⟨by rw [same], holds'.sound⟩
  | method k adapter operation =>
    have holds := sound.holds k
    have enters := GumdDaemon.enters_handle operation c.toContext
    rw [op] at safe
    dsimp only
    split_ifs
    · exact answered (wp_onDeleted holds adapter enters safe)
    · exact answered (wp_onObject holds adapter enters safe)

theorem wp_serve {calls : List ServerCall} {s : Server} (sound : s.Sound) (safe : s.SafeRun calls) :
    wp (serve calls) (fun replies t =>
      (replies, t.toServices) = s.toServices.serve calls ∧ t.Sound) s := by
  induction calls generalizing s with
  | nil =>
    rw [serve, wp_pure]
    exact ⟨rfl, sound⟩
  | cons c rest ih =>
    obtain ⟨reply, t, ran, answer, sound'⟩ := wp_call sound safe.1
    rw [serve, wp_bind]
    refine ⟨reply, t, ran, ?_⟩
    change wp _ _ t
    rw [wp_bind]
    have later : t.SafeRun rest := safe.2 t (by rw [step, ran]; rfl)
    refine wp_mono (ih sound' later) ?_
    rintro replies u ⟨answers, sound''⟩
    rw [wp_pure]
    refine ⟨?_, sound''⟩
    rw [Services.serve, ← answer]
    dsimp only
    rw [← answers]

theorem sound_new (system : System) : (new system).Sound := by
  intro k
  refine ⟨counted_nil, fun i alive => absurd rfl alive, fun id i entered => ?_, List.nodup_nil, ?_⟩
  · cases k <;> cases entered
  · exact fun p mem => absurd mem List.not_mem_nil

end Server

/-- Whatever its peers ask a server for, whenever its adapters are disposed of and whichever peers
disappear, in any order, as long as nothing reaches an object with a handler of an adapter that is gone:
no call reads freed memory, every call is answered as the services answer it, every object has one
reference for each adapter with it, and the tables of the daemon lead to objects that have adapters. -/
theorem Server.serve_sound {system : System} {calls : List ServerCall}
    (safe : (Server.new system).SafeRun calls) :
    ∃ replies s, (Server.serve calls).run (.new system) = some (replies, s) ∧
      (replies, s.toServices) = (Services.new system).serve calls ∧
      ∀ k, (∀ i, s.refs k i = (s.peers k).countP (·.object = i)) ∧
        ∀ id i, s.daemon.table k id = some i → ∃ p ∈ s.peers k, p.object = i := by
  obtain ⟨replies, s, run, answers, sound⟩ := Server.wp_serve (Server.sound_new system) safe
  refine ⟨replies, s, run, answers, fun k => ?_⟩
  obtain ⟨counted, -, table, -, -⟩ := sound k
  constructor
  · intro i
    rw [counted i, List.nil_append, List.count_eq_countP, List.countP_map]
    exact List.countP_congr fun p _ => by simp
  · intro id i entered
    exact List.mem_map.mp (counted.mem (Nat.pos_of_ne_zero (table id i entered)))

namespace Sample

/-- Two peers get the object of alice, and the first changes her real name. -/
def sharedUser : List ServerCall :=
  let ask (operation : ServerOperation) : ServerCall :=
    ⟨⟨env, (call (.userNew 0)).faults, (call (.userNew 0)).process⟩, operation⟩
  [ask (.request .user (.get (str ":1.1") 1000)), ask (.request .user (.get (str ":1.2") 1000)),
    ask (.method .user 0 (.setUserProperty (.realname (some (str "Al"))))),
    ask (.request .user (.busNameLost (str ":1.1")))]

theorem serve_sound_sharedUser : ∃ replies s,
    (Server.serve sharedUser).run (.new system) = some (replies, s) ∧
      (replies, s.toServices) = (Services.new system).serve sharedUser ∧
      ∀ k, (∀ i, s.refs k i = (s.peers k).countP (·.object = i)) ∧
        ∀ id i, s.daemon.table k id = some i → ∃ p ∈ s.peers k, p.object = i :=
  Server.serve_sound (by decide +kernel)

/-- Once the first peer has gone, a change by the second runs the handler of the first. -/
theorem sharedUser_orphaned : ((Server.serve (sharedUser ++
    [⟨⟨env, (call (.userNew 0)).faults, (call (.userNew 0)).process⟩,
      .method .user 1 (.setUserProperty (.realname (some (str "Ali"))))⟩])).run
        (.new system)).isNone = true := by
  decide +kernel

end Sample

end Gumd
