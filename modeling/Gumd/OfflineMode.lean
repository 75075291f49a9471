import Gumd.ObjectFrames
import Gumd.ServerLife

/-!
# Objects with and without a server

The client library makes a synchronous call on an object either over the bus, or offline with the daemon of
its own process.  As long as nobody else has the object, a client cannot tell which, whatever the server is
asked for in the meantime.
-/

namespace Gumd

open StateWp EntryLoop

variable {k : ObjectKind}

/-- How a client gets an object: `gum_user_create_sync`, `gum_user_get_sync`, `gum_user_get_by_name_sync`,
and the same for groups. -/
inductive Opening where
  | createSync
  | getSync (id : UInt32)
  | getByNameSync (name : Option Str)
  deriving DecidableEq, Repr

/-- What a lookup of an id by a name finds, and the surroundings it leaves. -/
def ObjectKind.idByName (k : ObjectKind) (c : Context) (files : Files) (name : Option Str) :
    UInt32 × Context :=
  let (id, w) := (k.getIdByName name).run ⟨files, c.faults, c.process, none⟩
  (id, ⟨c.env, w.faults, w.process⟩)

/-! ## Offline -/

/-- What happens to an offline object: its owner makes a call, or others have changed the files. -/
inductive OfflineEvent (k : ObjectKind) where
  | own (c : Context) (operation : MethodOperation k)
  | rewritten (files : Files)

/-- A call on an offline object: `_set_property`, `gum_user_add_sync` and its siblings. -/
def MethodOperation.runOffline (operation : MethodOperation k) (c : Context) (d : GumdDaemon) (i : Nat) :
    Bool × GumdDaemon :=
  match operation with
  | .setUserProperty property =>
      if property.Writable then (true, { d with system := d.system.step (c.call (.userSet i property)) })
      else (false, d)
  | .addUser =>
      let (added, _, d) := d.addUser c i
      (added, d)
  | .deleteUser remHomeDir =>
      let (deleted, _, d) := d.deleteUser c i remHomeDir
      (deleted, d)
  | .updateUser =>
      let (updated, _, d) := d.updateUser c i
      (updated, d)
  | .setGroupProperty property =>
      if property.Writable then (true, { d with system := d.system.step (c.call (.groupSet i property)) })
      else (false, d)
  -- the preferred gid is for the bus only
  | .addGroup _ =>
      let (added, _, d) := d.addGroup c i
      (added, d)
  | .deleteGroup =>
      let (deleted, _, d) := d.deleteGroup c i
      (deleted, d)
  | .updateGroup =>
      let (updated, _, d) := d.updateGroup c i
      (updated, d)
  | .addMember uid addAsAdmin => d.addGroupMember c i uid addAsAdmin
  | .deleteMember uid => d.deleteGroupMember c i uid

namespace GumdDaemon

/-- `gumd_daemon_get_user_by_name` and `gumd_daemon_get_group_by_name`. -/
def getObjectByName (d : GumdDaemon) : ObjectKind → Context → Option Str → Option Nat × GumdDaemon
  | .user => d.getUserByName
  | .group => d.getGroupByName

/-- An object is opened offline. -/
def openSync (d : GumdDaemon) (k : ObjectKind) (c : Context) : Opening → Option Nat × GumdDaemon
  | .createSync =>
      let (object, d) := d.objectNew k c
      (some object, d)
  | .getSync id => d.getObject k c id
  | .getByNameSync name => if name.isNone then (none, d) else d.getObjectByName k c name

/-- What the calls on an offline object return, and the files they leave. -/
def session (object : Nat) : GumdDaemon → List (OfflineEvent k) → List Bool × Files
  | d, [] => ([], d.system.files)
  | d, .own c operation :: rest =>
      let (done, d) := operation.runOffline c d object
      let (results, files) := d.session object rest
      (done :: results, files)
  | d, .rewritten files :: rest =>
      session object { d with system := { d.system with files := files } } rest

/-- The daemon has not handed out the object that is opened. -/
def Opens (d : GumdDaemon) (k : ObjectKind) (c : Context) : Opening → Prop
  | .createSync => True
  | .getSync id => d.table k id = none
  | .getByNameSync name => d.table k (k.idByName c d.system.files name).1 = none

/-- An object that is opened and used offline. -/
def offlineSession (d : GumdDaemon) (k : ObjectKind) (c : Context) (opening : Opening)
    (events : List (OfflineEvent k)) : Option (List Bool × Files) :=
  match d.openSync k c opening with
  | (none, _) => none
  | (some object, d) => some (d.session object events)

end GumdDaemon

/-! ## On the bus -/

/-- What happens while a client has an object: it makes a call on it, or the server is asked for something
else. -/
inductive SessionEvent (k : ObjectKind) where
  | own (c : Context) (operation : MethodOperation k)
  | other (c : ServerCall)

/-- The object whose path a call is answered with. -/
def ServerReply.adapter : ServerReply → Option Nat
  | .path adapter => some adapter
  | _ => none

/-- The operation takes nothing from the owner of an adapter: it neither disposes of the adapter nor calls a
method of the object. -/
def ServerOperation.Spares (s : Services) (k : ObjectKind) (p : Peer) : ServerOperation → Prop
  | .request j (.dispose adapter) => j = k → adapter ≠ p.adapter
  | .request j (.busNameLost peerName) => j = k → peerName ≠ p.peerName
  | .request _ _ => True
  | .method j adapter _ => j = k → ∀ q ∈ s.peers k, q.adapter = adapter → q.object ≠ p.object

namespace Services

/-- An object is opened over the bus. -/
def openSync (s : Services) (k : ObjectKind) (c : Context) (sender : Str) : Opening → Option Nat × Services
  | .createSync =>
      let (reply, s) := s.call ⟨c, .request k (.createNew sender)⟩
      (reply.adapter, s)
  | .getSync id =>
      let (reply, s) := s.call ⟨c, .request k (.get sender id)⟩
      (reply.adapter, s)
  | .getByNameSync name =>
      if name.isNone then (none, s)
      else
        let (reply, s) := s.call ⟨c, .request k (.getByName sender name)⟩
        (reply.adapter, s)

/-- What the calls of an adapter return to its owner, and the files that are left. -/
def session (adapter : Nat) : Services → List (SessionEvent k) → List Bool × Files
  | s, [] => ([], s.daemon.system.files)
  | s, .own c operation :: rest =>
      let (reply, s) := s.call ⟨c, .method k adapter operation⟩
      let (results, files) := s.session adapter rest
      (reply.succeeds :: results, files)
  | s, .other c :: rest => session adapter (s.call c).2 rest

/-- What an offline client would see of the same events. -/
def seen (adapter : Nat) : Services → List (SessionEvent k) → List (OfflineEvent k)
  | _, [] => []
  | s, .own c operation :: rest =>
      .own c operation :: seen adapter (s.call ⟨c, .method k adapter operation⟩).2 rest
  | s, .other c :: rest => .rewritten (s.call c).2.daemon.system.files :: seen adapter (s.call c).2 rest

/-- Nobody else takes anything from the owner of the adapter. -/
def Undisturbed (adapter : Nat) : Services → List (SessionEvent k) → Prop
  | _, [] => True
  | s, .own c operation :: rest => Undisturbed adapter (s.call ⟨c, .method k adapter operation⟩).2 rest
  | s, .other c :: rest =>
      (∀ p ∈ s.peers k, p.adapter = adapter → c.operation.Spares s k p) ∧
        Undisturbed adapter (s.call c).2 rest

/-- An object that is opened and used over the bus. -/
def remoteSession (s : Services) (k : ObjectKind) (c : Context) (sender : Str) (opening : Opening)
    (events : List (SessionEvent k)) : Option (List Bool × Files) :=
  match s.openSync k c sender opening with
  | (none, _) => none
  | (some adapter, s) => some (s.session adapter events)

/-- The server has handed out no object of the id. -/
def Unshared (s : Services) (k : ObjectKind) (sender : Str) (id : UInt32) : Prop :=
  s.getAdapterFromCache k sender id = none ∧ s.daemon.table k id = none

/-- The server has not handed out the object that is opened. -/
def Opens (s : Services) (k : ObjectKind) (c : Context) (sender : Str) : Opening → Prop
  | .createSync => True
  | .getSync id => s.Unshared k sender id
  | .getByNameSync name => s.Unshared k sender (k.idByName c s.daemon.system.files name).1

end Services

/-! ## Opening an object -/

theorem MethodOperation.runOffline_eq (operation : MethodOperation k) (c : Context) (d : GumdDaemon)
    (i : Nat) : operation.runOffline c d i =
      ((operation.handle c d i).1.succeeds, (operation.handle c d i).2) := by
  have done : ∀ done : Bool, (ServerReply.ofDone done).succeeds = done := by decide
  have added : ∀ (answer : Bool × List Signal × GumdDaemon) (k : ObjectKind),
      (if answer.1 then ServerReply.id (answer.2.2.objectId k i) else .error).succeeds = answer.1 := by
    rintro ⟨done, signals, d⟩ k
    cases done <;> rfl
  cases operation with
  | setUserProperty property =>
    rw [runOffline, handle, UserAdapter.setProperty, GumdDaemon.setProperty]
    split_ifs <;> rfl
  | addUser => exact Prod.ext (added (d.addUser c i) .user).symm rfl
  | deleteUser remHomeDir => exact Prod.ext (done _).symm rfl
  | updateUser => exact Prod.ext (done _).symm rfl
  | setGroupProperty property =>
    rw [runOffline, handle, GroupAdapter.setProperty, GumdDaemon.setProperty]
    split_ifs <;> rfl
  | addGroup preferredGid => exact Prod.ext (added (d.addGroup c i) .group).symm rfl
  | deleteGroup => exact Prod.ext (done _).symm rfl
  | updateGroup => exact Prod.ext (done _).symm rfl
  | addMember uid addAsAdmin => exact Prod.ext (done _).symm rfl
  | deleteMember uid => exact Prod.ext (done _).symm rfl

/-- `gumd_daemon_user_new_by_uid` and `gumd_daemon_group_new_by_gid`. -/
def ObjectKind.load (k : ObjectKind) (env : Env) (id : UInt32) : StateM World (Option k.Object) :=
  match k with
  | .user => gumdDaemonUserNewByUid env id
  | .group => gumdDaemonGroupNewByGid id

/-- Nothing is loaded for the id that no object has. -/
theorem ObjectKind.load_invalid (k : ObjectKind) (env : Env) (w : World) :
    ((k.load env k.invalidId).run w).1 = none := by
  cases k with
  | user =>
    have copies := gumdDaemonUserNewByUid_copies env gumUserInvalidUid w
    rw [wp] at copies
    obtain ⟨-, valid⟩ := copies
    cases loaded : ((gumdDaemonUserNewByUid env gumUserInvalidUid).run w).1 with
    | none => exact loaded
    | some u => exact absurd rfl (valid u loaded).1
  | group =>
    have nothing : wp (gumdDaemonGroupNewByGid gumGroupInvalidGid) (fun r _ => r = none) w := by
      rw [gumdDaemonGroupNewByGid, loadGroup, wp_bind, wp_gumLockPwdfLock, wp_guard]
      refine ⟨fun _ => rfl, fun _ => ?_⟩
      rw [wp_bind, wp_withNullError, wp_runOn]
      simp only [GumdDaemonGroup.copyGroupData, GumdDaemonGroup.getGroup, wp_bind, wp_getSelf,
        wp_liftM, lookupIf, GumdDaemonGroup.setGidProperty, gumdDaemonGroupNew, ne_eq, not_true_eq_false,
        if_false, wp_pure, Option.isSome_none, Option.isNone_none, Bool.false_eq_true, false_and,
        Option.filter_none, wp_gumReturnWithError, wp_gumLockPwdfUnlock, if_true]
    exact nothing

theorem System.loadUser_eq {s : System} {c : Call} {i : Nat} {m : StateM World (Option GumdDaemonUser)}
    {r : Option GumdDaemonUser} {w : World} (load : m.run (s.world c) = (r, w)) :
    s.loadUser c i m = (r.isSome, { s with
      files := w.files, users := Function.update s.users i (r.getD (s.users i)) }) := by
  rw [System.loadUser, load]

theorem System.loadGroup_eq {s : System} {c : Call} {i : Nat} {m : StateM World (Option GumdDaemonGroup)}
    {r : Option GumdDaemonGroup} {w : World} (load : m.run (s.world c) = (r, w)) :
    s.loadGroup c i m = (r.isSome, { s with
      files := w.files, groups := Function.update s.groups i (r.getD (s.groups i)) }) := by
  rw [System.loadGroup, load]

namespace GumdDaemon

variable {d e : GumdDaemon} {id : UInt32}

/-- An object that is not in the table is loaded under the next number. -/
theorem getObject_loads (missing : d.table k id = none) (c : Context) {r : Option k.Object} {w : World}
    (load : (k.load c.env id).run ⟨d.system.files, c.faults, c.process, none⟩ = (r, w)) :
    (d.getObject k c id).1 = r.map (fun _ => d.created k) ∧
      (d.getObject k c id).2.system.files = w.files ∧
      ∀ object, r = some object → (d.getObject k c id).2.system.objects k (d.created k) = object ∧
        d.created k < (d.getObject k c id).2.created k := by
  cases k with
  | user =>
    have called := @System.loadUser_eq d.system (c.call (.userNewByUid d.userCount id)) d.userCount
      (gumdDaemonUserNewByUid c.env id) r w load
    change d.system.call (c.call (.userNewByUid d.userCount id)) = _ at called
    have missing' : d.users id = none := missing
    rw [getObject, getUser, missing']
    dsimp only
    rw [called]
    cases r with
    | none => exact ⟨rfl, rfl, fun object loaded => by cases loaded⟩
    | some loaded =>
      refine ⟨rfl, rfl, fun object same => ?_⟩
      obtain rfl := Option.some.inj same
      exact ⟨Function.update_self .., Nat.lt_succ_self _⟩
  | group =>
    have called := @System.loadGroup_eq d.system (c.call (.groupNewByGid d.groupCount id)) d.groupCount
      (gumdDaemonGroupNewByGid id) r w load
    change d.system.call (c.call (.groupNewByGid d.groupCount id)) = _ at called
    have missing' : d.groups id = none := missing
    rw [getObject, getGroup, missing']
    dsimp only
    rw [called]
    cases r with
    | none => exact ⟨rfl, rfl, fun object loaded => by cases loaded⟩
    | some loaded =>
      refine ⟨rfl, rfl, fun object same => ?_⟩
      obtain rfl := Option.some.inj same
      exact ⟨Function.update_self .., Nat.lt_succ_self _⟩

/-- Two daemons with the same files, neither of which has handed out the object, load the same. -/
theorem getObject_alike (files : d.system.files = e.system.files) (missing : d.table k id = none)
    (missing' : e.table k id = none) (c : Context) :
    (d.getObject k c id).1 = none ∧ (e.getObject k c id).1 = none ∨
      (d.getObject k c id).1 = some (d.created k) ∧ (e.getObject k c id).1 = some (e.created k) ∧
        System.Alike k (d.created k) (e.created k) (d.getObject k c id).2.system
          (e.getObject k c id).2.system ∧ e.created k < (e.getObject k c id).2.created k := by
  rcases load : (k.load c.env id).run ⟨d.system.files, c.faults, c.process, none⟩ with ⟨r, w⟩
  obtain ⟨found, files₁, object⟩ := getObject_loads missing c load
  rw [files] at load
  obtain ⟨found', files₂, object'⟩ := getObject_loads missing' c load
  rw [found, found']
  cases r with
  | none => exact Or.inl ⟨rfl, rfl⟩
  | some loaded =>
    obtain ⟨own, -⟩ := object loaded rfl
    obtain ⟨own', created⟩ := object' loaded rfl
    exact Or.inr ⟨rfl, rfl, ⟨files₁.trans files₂.symm, own.trans own'.symm⟩, created⟩

/-- A new object is the same everywhere. -/
theorem objectNew_alike (files : d.system.files = e.system.files) (c : Context) :
    System.Alike k (d.created k) (e.created k) (d.objectNew k c).2.system (e.objectNew k c).2.system ∧
      e.created k < (e.objectNew k c).2.created k := by
  cases k with
  | user =>
    refine ⟨⟨files, ?_⟩, Nat.lt_succ_self _⟩
    change Function.update d.system.users d.userCount gumdDaemonUserNew d.userCount =
      Function.update e.system.users e.userCount gumdDaemonUserNew e.userCount
    rw [Function.update_self, Function.update_self]
  | group =>
    refine ⟨⟨files, ?_⟩, Nat.lt_succ_self _⟩
    change Function.update d.system.groups d.groupCount gumdDaemonGroupNew d.groupCount =
      Function.update e.system.groups e.groupCount gumdDaemonGroupNew e.groupCount
    rw [Function.update_self, Function.update_self]

end GumdDaemon

/-! ## What other calls leave to the owner of an adapter -/

namespace Services

variable {s : Services} {p : Peer}

/-- An adapter is still listed, with its object. -/
def Lists (s : Services) (k : ObjectKind) (p : Peer) : Prop :=
  ∃ q ∈ s.peers k, q.adapter = p.adapter ∧ q.object = p.object

theorem lists_of_mem (mem : p ∈ s.peers k) : s.Lists k p := ⟨p, mem, rfl, rfl⟩

theorem lists_createAndCacheAdapter (mem : p ∈ s.peers k) (j : ObjectKind) (object : Nat) (sender : Str) :
    (s.createAndCacheAdapter j object sender).2.Lists k p := by
  apply lists_of_mem
  change p ∈ Function.update s.peers j _ k
  by_cases same : k = j
  · subst same
    rw [Function.update_self]
    exact List.mem_append_left _ mem
  · rwa [Function.update_of_ne same]

theorem lists_handleGet (mem : p ∈ s.peers k) (j : ObjectKind) (c : Context) (sender : Str) (id : UInt32) :
    (s.handleGet j c sender id).2.Lists k p := by
  rw [handleGet]
  cases s.getAdapterFromCache j sender id with
  | some adapter => exact lists_of_mem mem
  | none =>
    obtain ⟨found, d⟩ := s.daemon.getObject j c id
    cases found with
    | none => exact lists_of_mem mem
    | some object => exact @lists_createAndCacheAdapter _ { s with daemon := d } p mem j object sender

theorem lists_method (mem : p ∈ s.peers k) (c : Context) {j : ObjectKind} (adapter : Nat)
    (operation : MethodOperation j) : (s.call ⟨c, .method j adapter operation⟩).2.Lists k p := by
  have peers := (ServerLoop.onObject_frame s j adapter (operation.handle c)).1
  rw [call]
  dsimp only
  rw [onDeleted]
  generalize s.onObject j adapter (operation.handle c) = answer at peers ⊢
  obtain ⟨reply, t⟩ := answer
  have listed : t.Lists k p := lists_of_mem (by rw [peers]; exact mem)
  dsimp only
  split_ifs
  · obtain ⟨q, inside, own, object⟩ := listed
    rw [deleteLater, Lists]
    dsimp only
    by_cases same : k = j
    · subst same
      rw [Function.update_self]
      refine ⟨_, List.mem_map_of_mem inside, ?_⟩
      split_ifs <;> exact ⟨own, object⟩
    · rw [Function.update_of_ne same]
      exact ⟨q, inside, own, object⟩
  · exact listed
  · exact listed

/-- A call that spares the owner of an adapter leaves it in the list. -/
theorem lists_call (tracked : s.Tracked) (mem : p ∈ s.peers k) {c : ServerCall}
    (spares : c.operation.Spares s k p) : (s.call c).2.Lists k p := by
  obtain ⟨c, operation⟩ := c
  cases operation with
  | method j adapter operation => exact lists_method mem c adapter operation
  | request j operation =>
    cases operation with
    | createNew sender =>
      exact @lists_createAndCacheAdapter _ { s with daemon := (s.daemon.objectNew j c).2 } p mem j _ sender
    | get sender id => exact lists_handleGet mem j c sender id
    | getByName sender name => exact lists_handleGet mem j _ sender _
    | dispose adapter =>
      apply lists_of_mem
      change p ∈ (s.onAdapterDisposed j adapter).peers k
      rw [onAdapterDisposed]
      cases found : s.peer j adapter with
      | none => exact mem
      | some q =>
        have own : q.adapter = adapter := by simpa using List.find?_some found
        exact mem_release mem fun same => own ▸ spares same
    | busNameLost peerName =>
      apply lists_of_mem
      refine mem_releases mem fun same q going => ?_
      subst same
      obtain ⟨inside, named⟩ := List.mem_filter.mp going
      intro own
      have both := List.inj_on_of_nodup_map (tracked.distinct j) inside mem own
      have name : q.peerName = peerName := by simpa using named
      exact spares rfl (name ▸ both ▸ rfl)

/-- Nor does it change the object. -/
theorem objects_call (tracked : s.Tracked) (mem : p ∈ s.peers k) {c : ServerCall}
    (spares : c.operation.Spares s k p) :
    (s.call c).2.daemon.system.objects k p.object = s.daemon.system.objects k p.object := by
  have created := tracked.created mem
  have new : ∀ j, some (j, s.daemon.created j) ≠ some (k, p.object) := by
    intro j same
    obtain ⟨rfl, number⟩ := Prod.mk.inj (Option.some.inj same)
    exact Nat.ne_of_gt created number
  have get : ∀ j c sender id, (s.handleGet j c sender id).2.daemon.system.objects k p.object =
      s.daemon.system.objects k p.object := by
    intro j c sender id
    have loaded := s.daemon.objects_getObject j c id (new j)
    rw [handleGet]
    cases s.getAdapterFromCache j sender id with
    | some adapter => rfl
    | none =>
      generalize s.daemon.getObject j c id = answer at loaded ⊢
      obtain ⟨found, d⟩ := answer
      cases found with
      | none => exact loaded
      | some object => exact loaded
  obtain ⟨c, operation⟩ := c
  cases operation with
  | request j operation =>
    cases operation with
    | createNew sender => exact s.daemon.objects_objectNew j c (new j)
    | get sender id => exact get j c sender id
    | getByName sender name => exact get j _ sender _
    | dispose adapter =>
      change (s.onAdapterDisposed j adapter).daemon.system.objects k p.object = _
      rw [onAdapterDisposed]
      cases s.peer j adapter with
      | none => rfl
      | some q => exact congrArg (System.objects · k p.object) (s.system_release j q)
    | busNameLost peerName => exact congrArg (System.objects · k p.object) (system_releases _ s j)
  | method j adapter operation =>
    have kept : (s.onObject j adapter (operation.handle c)).2.daemon.system.objects k p.object =
        s.daemon.system.objects k p.object := by
      rw [onObject]
      cases found : s.peer j adapter with
      | none => rfl
      | some q =>
        apply operation.objects_handle c s.daemon
        intro both
        obtain ⟨same, object⟩ := Prod.mk.inj (Option.some.inj both)
        subst same
        have own : q.adapter = adapter := by simpa using List.find?_some found
        exact spares rfl q (List.mem_of_find?_eq_some found) own object
    rw [call]
    dsimp only
    rw [onDeleted]
    generalize s.onObject j adapter (operation.handle c) = answer at kept ⊢
    obtain ⟨reply, t⟩ := answer
    dsimp only
    split_ifs <;> exact kept

/-- A call of the owner is the method of the object. -/
theorem call_method (tracked : s.Tracked) (mem : p ∈ s.peers k) (c : Context)
    (operation : MethodOperation k) :
    (s.call ⟨c, .method k p.adapter operation⟩).1 = (operation.handle c s.daemon p.object).1 ∧
      (s.call ⟨c, .method k p.adapter operation⟩).2.daemon = (operation.handle c s.daemon p.object).2 := by
  have found := peer_of_mem (tracked.distinct k) mem
  rw [call]
  dsimp only
  rw [onDeleted, onObject, found]
  dsimp only
  split_ifs <;> exact ⟨rfl, rfl⟩

end Services

/-! ## Sessions -/

/-- An adapter has the object that a daemon without a server has under a number of its own. -/
structure Mirrors (k : ObjectKind) (adapter object : Nat) (s : Services) (d : GumdDaemon) : Prop where
  tracked : s.Tracked
  listed : ∃ p ∈ s.peers k, p.adapter = adapter ∧
    System.Alike k p.object object s.daemon.system d.system
  created : object < d.created k

namespace Mirrors

variable {adapter object : Nat} {s : Services} {d : GumdDaemon}

theorem files (mirrors : Mirrors k adapter object s d) : s.daemon.system.files = d.system.files := by
  obtain ⟨p, -, -, alike⟩ := mirrors.listed
  exact alike.files

/-- A call of the owner. -/
theorem own (mirrors : Mirrors k adapter object s d) (c : Context) (operation : MethodOperation k) :
    (s.call ⟨c, .method k adapter operation⟩).1.succeeds = (operation.runOffline c d object).1 ∧
      Mirrors k adapter object (s.call ⟨c, .method k adapter operation⟩).2
        (operation.runOffline c d object).2 := by
  obtain ⟨tracked, ⟨p, mem, rfl, alike⟩, created⟩ := mirrors
  obtain ⟨reply, daemon⟩ := Services.call_method tracked mem c operation
  obtain ⟨q, inside, same, number⟩ := Services.lists_method mem c p.adapter operation
  obtain ⟨done, alike'⟩ := operation.handle_alike c alike (tracked.created mem) created
  rw [operation.runOffline_eq, reply]
  refine ⟨done, tracked.call _, ⟨q, inside, same, ?_⟩, ?_⟩
  · rw [daemon, number]
    exact alike'
  · rw [(GumdDaemon.enters_handle operation c d object).created]
    exact created

/-- A call of somebody else, who spares the owner. -/
theorem other (mirrors : Mirrors k adapter object s d) {c : ServerCall}
    (spares : ∀ p ∈ s.peers k, p.adapter = adapter → c.operation.Spares s k p) :
    Mirrors k adapter object (s.call c).2
      { d with system := { d.system with files := (s.call c).2.daemon.system.files } } := by
  obtain ⟨tracked, ⟨p, mem, own, alike⟩, created⟩ := mirrors
  have spared := spares p mem own
  obtain ⟨q, inside, same, number⟩ := Services.lists_call tracked mem spared
  have kept := Services.objects_call tracked mem spared
  refine ⟨tracked.call c, ⟨q, inside, same.trans own, rfl, ?_⟩, ?_⟩
  · rw [number, kept, alike.object]
    cases k <;> rfl
  · cases k <;> exact created

theorem session (mirrors : Mirrors k adapter object s d) {events : List (SessionEvent k)}
    (undisturbed : s.Undisturbed adapter events) :
    s.session adapter events = d.session object (s.seen adapter events) := by
  induction events generalizing s d with
  | nil => exact Prod.ext rfl mirrors.files
  | cons e rest ih =>
    cases e with
    | own c operation =>
      obtain ⟨done, mirrors'⟩ := mirrors.own c operation
      have later := ih mirrors' undisturbed
      rw [Services.session, Services.seen, GumdDaemon.session]
      dsimp only
      rw [later, done]
    | other c => exact ih (mirrors.other undisturbed.1) undisturbed.2

end Mirrors

namespace Services

variable {s : Services} {d : GumdDaemon}

/-- An object of its own, for which the service makes an adapter. -/
theorem mirrors_createAndCacheAdapter {object number : Nat} {sender : Str}
    (tracked : (s.createAndCacheAdapter k object sender).2.Tracked)
    (alike : System.Alike k object number s.daemon.system d.system) (created : number < d.created k) :
    Mirrors k (s.objectCounter k) number (s.createAndCacheAdapter k object sender).2 d := by
  refine ⟨tracked, ⟨⟨sender, s.objectCounter k, object, false⟩, ?_, rfl, alike⟩, created⟩
  change _ ∈ Function.update s.peers k _ k
  rw [Function.update_self]
  exact List.mem_append_right _ List.mem_cons_self

/-- An object is found both ways or neither, and then the same. -/
theorem handleGet_mirrors {sender : Str} {id : UInt32} {c : Context}
    (tracked : (s.handleGet k c sender id).2.Tracked) (unshared : s.Unshared k sender id)
    (files : s.daemon.system.files = d.system.files) (missing : d.table k id = none) :
    (s.handleGet k c sender id).1.adapter = none ∧ (d.getObject k c id).1 = none ∨
      ∃ adapter object, (s.handleGet k c sender id).1.adapter = some adapter ∧
        (d.getObject k c id).1 = some object ∧
        Mirrors k adapter object (s.handleGet k c sender id).2 (d.getObject k c id).2 := by
  have found := GumdDaemon.getObject_alike files unshared.2 missing c
  rw [handleGet, unshared.1] at tracked ⊢
  dsimp only at tracked ⊢
  rcases found with ⟨none, none'⟩ | ⟨here, there, alike, created⟩
  · refine Or.inl ⟨?_, none'⟩
    generalize s.daemon.getObject k c id = answer at none ⊢
    obtain ⟨r, d'⟩ := answer
    obtain rfl : r = Option.none := none
    rfl
  · refine Or.inr ⟨s.objectCounter k, d.created k, ?_, there, ?_⟩
    all_goals
      generalize s.daemon.getObject k c id = answer at here alike tracked ⊢
      obtain ⟨r, d'⟩ := answer
      obtain rfl : r = some (s.daemon.created k) := here
    · rfl
    · exact @mirrors_createAndCacheAdapter _ { s with daemon := d' } _ _ _ sender tracked alike created

theorem getObjectByName_eq (d : GumdDaemon) (k : ObjectKind) (c : Context) (name : Option Str) :
    d.getObjectByName k c name =
      if (k.idByName c d.system.files name).1 = k.invalidId then (none, d)
      else d.getObject k (k.idByName c d.system.files name).2 (k.idByName c d.system.files name).1 := by
  cases k <;> rfl

/-- An object is opened both ways or neither. -/
theorem openSync_mirrors {sender : Str} {c : Context} {opening : Opening} (tracked : s.Tracked)
    (opens : s.Opens k c sender opening) (files : s.daemon.system.files = d.system.files)
    (missing : d.Opens k c opening) :
    (s.openSync k c sender opening).1 = none ∧ (d.openSync k c opening).1 = none ∨
      ∃ adapter object, (s.openSync k c sender opening).1 = some adapter ∧
        (d.openSync k c opening).1 = some object ∧
        Mirrors k adapter object (s.openSync k c sender opening).2 (d.openSync k c opening).2 := by
  cases opening with
  | createSync =>
    have tracked' := tracked.call ⟨c, .request k (.createNew sender)⟩
    have alike := @GumdDaemon.objectNew_alike k _ _ files c
    have number := (s.daemon.objectNew_spec k c).1
    have number' := (d.objectNew_spec k c).1
    refine Or.inr ⟨s.objectCounter k, d.created k, rfl, congrArg some number', ?_⟩
    rw [← number, ← number'] at alike
    rw [← number']
    exact @mirrors_createAndCacheAdapter _ { s with daemon := (s.daemon.objectNew k c).2 } _ _ _ sender
      tracked' alike.1 alike.2
  | getSync id =>
    exact handleGet_mirrors (tracked.call ⟨c, .request k (.get sender id)⟩) opens files missing
  | getByNameSync name =>
    rw [openSync, GumdDaemon.openSync]
    by_cases absent : name.isNone = true
    · rw [if_pos absent, if_pos absent]
      exact Or.inl ⟨rfl, rfl⟩
    have missing' : d.table k (k.idByName c s.daemon.system.files name).1 = none := by
      rw [files]
      exact missing
    rw [if_neg absent, if_neg absent, getObjectByName_eq, ← files]
    have found := @handleGet_mirrors k s d sender (k.idByName c s.daemon.system.files name).1
      (k.idByName c s.daemon.system.files name).2 (tracked.call ⟨c, .request k (.getByName sender name)⟩)
      opens files missing'
    by_cases invalid : (k.idByName c s.daemon.system.files name).1 = k.invalidId
    · -- the server asks its daemon for the id that no object has
      rw [if_pos invalid]
      rcases found with ⟨none, -⟩ | ⟨-, object, -, there, -⟩
      · exact Or.inl ⟨none, rfl⟩
      · have nothing := k.load_invalid (k.idByName c s.daemon.system.files name).2.env
          ⟨d.system.files, (k.idByName c s.daemon.system.files name).2.faults,
            (k.idByName c s.daemon.system.files name).2.process, none⟩
        obtain ⟨loads, -⟩ := GumdDaemon.getObject_loads (invalid ▸ missing')
          (k.idByName c s.daemon.system.files name).2 rfl
        rw [invalid, loads] at there
        exact absurd (there.symm.trans (congrArg (Option.map _) nothing)) (by simp)
    · rw [if_neg invalid]
      exact found

/-- What an offline client would see of a session on the bus. -/
def offlineEvents (s : Services) (k : ObjectKind) (c : Context) (sender : Str) (opening : Opening)
    (events : List (SessionEvent k)) : List (OfflineEvent k) :=
  (s.openSync k c sender opening).1.elim []
    ((s.openSync k c sender opening).2.seen · events)

end Services

namespace Sample

def surroundings : Context :=
  ⟨env, (call (.userNew 0)).faults, (call (.userNew 0)).process⟩

/-- A client adds a user while the server makes another one for somebody else. -/
def addEvents : List (SessionEvent .user) :=
  [.own surroundings (.setUserProperty (.username (some (str "bob")))),
    .own surroundings (.setUserProperty (.usertype 8)),
    .other ⟨surroundings, .request .user (.createNew (str ":1.2"))⟩,
    .own surroundings .addUser, .own surroundings (.deleteUser false)]

end Sample

end Gumd
