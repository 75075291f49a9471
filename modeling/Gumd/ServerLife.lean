import Gumd.DisposableLife
import Gumd.ServerLoop

/-!
# The life of the server

Whatever the main loop dispatches, every adapter and every service has a reason to be there: it is in use,
or a source is pending that will dispose of it.  What has gone leaves no source behind, and the services are
those that calls of the server lead to.
-/

namespace Gumd

/-! ## Services that calls lead to -/

namespace Services

/-- Some calls lead from one to the other. -/
def Serves (s t : Services) : Prop := ∃ calls, (s.serve calls).2 = t

/-- The references of a server with these services can be counted. -/
def Tracked (s : Services) : Prop := ∃ refs, Server.Sound ⟨s, refs, fun _ _ => []⟩

variable {s t u : Services} {k : ObjectKind}

theorem Serves.refl (s : Services) : s.Serves s := ⟨[], rfl⟩

theorem serves_call (s : Services) (c : ServerCall) : s.Serves (s.call c).2 := ⟨[c], rfl⟩

theorem serve_append (s : Services) (calls rest : List ServerCall) :
    (s.serve (calls ++ rest)).2 = ((s.serve calls).2.serve rest).2 := by
  induction calls generalizing s with
  | nil => rfl
  | cons c calls ih => exact ih (s.call c).2

theorem Serves.trans (first : s.Serves t) (second : t.Serves u) : s.Serves u := by
  obtain ⟨calls, rfl⟩ := first
  obtain ⟨rest, rfl⟩ := second
  exact ⟨calls ++ rest, serve_append s calls rest⟩

/-- The handlers of the adapters play no part in the counts. -/
theorem tracked_of_sound {t : Server} (sound : t.Sound) : t.toServices.Tracked :=
  ⟨t.refs, fun k => (sound k).congr rfl rfl rfl rfl rfl⟩

theorem Tracked.call (tracked : s.Tracked) (c : ServerCall) : (s.call c).2.Tracked := by
  obtain ⟨refs, sound⟩ := tracked
  have safe : Server.Safe ⟨s, refs, fun _ _ => []⟩ c := by
    rw [Server.Safe]
    cases c.operation with
    | request k operation => trivial
    | method k adapter operation => exact fun p _ a mem => absurd mem List.not_mem_nil
  obtain ⟨reply, t, -, answer, sound'⟩ := Server.wp_call sound safe
  have same : t.toServices = (s.call c).2 := congrArg Prod.snd answer
  exact same ▸ tracked_of_sound sound'

theorem tracked_of_serves {system : System} (serves : (new system).Serves s) : s.Tracked := by
  obtain ⟨calls, rfl⟩ := serves
  have start : (new system).Tracked := tracked_of_sound (Server.sound_new system)
  generalize new system = s at start ⊢
  induction calls generalizing s with
  | nil => exact start
  | cons c rest ih => exact ih _ (start.call c)

theorem Tracked.distinct (tracked : s.Tracked) (k : ObjectKind) :
    ((s.peers k).map (·.adapter)).Nodup := by
  obtain ⟨refs, sound⟩ := tracked
  exact (sound k).distinct

theorem Tracked.numbered (tracked : s.Tracked) : ∀ p ∈ s.peers k, p.adapter < s.objectCounter k := by
  obtain ⟨refs, sound⟩ := tracked
  exact (sound k).numbered

/-- An adapter has an object that the daemon has created. -/
theorem Tracked.created (tracked : s.Tracked) {p : Peer} (mem : p ∈ s.peers k) :
    p.object < s.daemon.created k := by
  obtain ⟨refs, sound⟩ := tracked
  have listed : p.object ∈ [] ++ (s.peers k).map (·.object) := List.mem_map_of_mem mem
  exact (sound k).created p.object (Nat.ne_of_gt ((sound k).counted.pos listed))

/-- Without adapters no table has an object. -/
theorem Tracked.table_of_nil (tracked : s.Tracked) (none : s.peers k = []) (id : UInt32) :
    s.daemon.table k id = Option.none := by
  obtain ⟨refs, sound⟩ := tracked
  cases entry : s.daemon.table k id with
  | none => rfl
  | some i =>
    have counted := (sound k).counted i
    rw [show (Server.toServices ⟨s, refs, fun _ _ => []⟩).peers k = [] from none] at counted
    exact absurd counted ((sound k).table id i entry)

/-- A daemon that has handed out nothing is as good as a new one. -/
theorem Tracked.forgotten (tracked : s.Tracked) (unused : ∀ k, s.peers k = []) :
    { s with daemon := { s.daemon with users := fun _ => none, groups := fun _ => none } } = s := by
  have users : s.daemon.users = fun _ => none := funext (tracked.table_of_nil (unused .user))
  have groups : s.daemon.groups = fun _ => none := funext (tracked.table_of_nil (unused .group))
  obtain ⟨⟨system, userCount, groupCount, users', groups'⟩, peers, counter⟩ := s
  dsimp only at users groups ⊢
  rw [users, groups]

/-- The context of a call that depends on none. -/
def noContext : Context where
  env := ⟨⟨[]⟩, fun _ _ => Option.none, id, [], 0, 0, ⟨true, false, false, false⟩,
    fun _ _ _ _ => Option.none, fun _ => Option.none⟩
  faults := ⟨.const true, .const true, .const true, .const true, .const Option.none⟩
  process := ⟨0, false, 0, 0, 0⟩

theorem peer_of_mem (distinct : ((s.peers k).map (·.adapter)).Nodup) {p : Peer} (mem : p ∈ s.peers k) :
    s.peer k p.adapter = some p := by
  have found : ((s.peers k).find? (·.adapter = p.adapter)).isSome := by
    rw [List.find?_isSome]
    exact ⟨p, mem, by simp⟩
  obtain ⟨q, eq⟩ := Option.isSome_iff_exists.mp found
  have same : q.adapter = p.adapter := by simpa using List.find?_some eq
  rw [peer, eq, List.inj_on_of_nodup_map distinct (List.mem_of_find?_eq_some eq) mem same]

theorem serves_release (distinct : ((s.peers k).map (·.adapter)).Nodup) {p : Peer}
    (mem : p ∈ s.peers k) : s.Serves (s.release k p) := by
  have disposed : s.onAdapterDisposed k p.adapter = s.release k p := by
    rw [onAdapterDisposed, peer_of_mem distinct mem]
    rfl
  rw [← disposed]
  exact s.serves_call ⟨noContext, .request k (.dispose p.adapter)⟩

theorem peers_release (s : Services) (k : ObjectKind) (p : Peer) :
    (s.release k p).peers = Function.update s.peers k ((s.peers k).filter (·.adapter ≠ p.adapter)) := rfl

/-- A peer stays whose adapter is another one. -/
theorem mem_release {p : Peer} (mem : p ∈ s.peers k) {j : ObjectKind} {q : Peer}
    (other : j = k → q.adapter ≠ p.adapter) : p ∈ (s.release j q).peers k := by
  rw [peers_release]
  by_cases same : k = j
  · subst same
    rw [Function.update_self, List.mem_filter]
    exact ⟨mem, by simpa using Ne.symm (other rfl)⟩
  · rwa [Function.update_of_ne same]

theorem mem_releases {p : Peer} {going : List Peer} (mem : p ∈ s.peers k) {j : ObjectKind}
    (others : j = k → ∀ q ∈ going, q.adapter ≠ p.adapter) :
    p ∈ (going.foldl (release · j) s).peers k := by
  induction going generalizing s with
  | nil => exact mem
  | cons q rest ih =>
    refine ih (mem_release mem fun same => others same q List.mem_cons_self) fun same q' mem' => ?_
    exact others same q' (List.mem_cons_of_mem _ mem')

/-- Peers that are released one after another are disposed of by so many calls. -/
theorem serves_releases {going : List Peer} (known : ∀ p ∈ going, p ∈ s.peers k)
    (distinct : ((s.peers k).map (·.adapter)).Nodup) (once : (going.map (·.adapter)).Nodup) :
    s.Serves (going.foldl (release · k) s) := by
  induction going generalizing s with
  | nil => exact .refl s
  | cons p rest ih =>
    rw [List.map_cons, List.nodup_cons] at once
    refine (serves_release distinct (known p List.mem_cons_self)).trans (ih ?_ ?_ once.2)
    · intro q mem
      refine mem_release (known q (List.mem_cons_of_mem _ mem)) fun _ same => once.1 ?_
      exact same ▸ List.mem_map_of_mem mem
    · rw [peers_release, Function.update_self]
      exact distinct.sublist (List.filter_sublist.map _)

end Services

namespace ServerLoop

variable {s : ServerLoop} {k : ObjectKind}

/-! ## The services of a loop -/

theorem services_keepIf (s : ServerLoop) (c : Prop) [Decidable c] (k : ObjectKind) (dispose : Bool) :
    (if c then s.setAutoDispose k dispose else s).services = s.services := by
  split_ifs <;> rfl

theorem services_createAndCacheAdapter (s : ServerLoop) (object : Nat) (sender : Str) :
    ((s.createAndCacheAdapter k object sender).1, (s.createAndCacheAdapter k object sender).2.services) =
      s.services.createAndCacheAdapter k object sender := by
  rw [createAndCacheAdapter]
  split_ifs <;> rfl

theorem services_answerGet (s : ServerLoop) (c : Context) (sender : Str) (id : UInt32) :
    ((s.answerGet k c sender id).1, (s.answerGet k c sender id).2.services) =
      s.services.handleGet k c sender id := by
  rw [answerGet, Services.handleGet]
  cases s.services.getAdapterFromCache k sender id with
  | some adapter => rfl
  | none =>
    obtain ⟨found, d⟩ := s.services.daemon.getObject k c id
    cases found with
    | none => rfl
    | some object =>
      have created := @services_createAndCacheAdapter k (s.withDaemon d) object sender
      have services : (s.withDaemon d).services = { s.services with daemon := d } := rfl
      rw [services] at created
      dsimp only
      rw [← created]

theorem services_keepAdapter (s : ServerLoop) (operation : MethodOperation k) (adapter : Nat)
    (dispose : Bool) : (s.keepAdapter operation adapter dispose).services = s.services := by
  rw [keepAdapter]
  split_ifs <;> rfl

theorem services_runMethod (s : ServerLoop) (c : Context) (adapter : Nat) (operation : MethodOperation k) :
    ((s.runMethod c adapter operation).1, (s.runMethod c adapter operation).2.services) =
      s.services.onObject k adapter (operation.handle c) := by
  rw [runMethod]
  dsimp only
  rw [services_keepAdapter, services_keepAdapter]

theorem services_handleMethod (s : ServerLoop) (c : Context) (adapter : Nat)
    (operation : MethodOperation k) :
    ((s.handleMethod c adapter operation).1, (s.handleMethod c adapter operation).2.services) =
      s.services.call ⟨c, .method k adapter operation⟩ := by
  have ran := s.services_runMethod c adapter operation
  rw [handleMethod, Services.call]
  dsimp only
  by_cases missing : (s.services.peer k adapter).isNone
  · have none := Option.isNone_iff_eq_none.mp missing
    rw [if_pos missing, Services.onDeleted, Services.onObject, none]
    split_ifs <;> rfl
  rw [if_neg missing, Services.onDeleted, ← ran]
  generalize s.runMethod c adapter operation = answer
  obtain ⟨reply, t⟩ := answer
  dsimp only
  by_cases deletes : operation.deletes = true
  · rw [if_pos deletes]
    by_cases done : reply = .done
    · rw [if_pos ⟨deletes, done⟩, if_pos done]
      rfl
    · rw [if_neg fun both => done both.2, if_neg done]
  · rw [if_neg fun both => deletes both.1, if_neg deletes]

/-- A call is answered as the services answer it, or finds nothing that could answer. -/
theorem services_call (s : ServerLoop) (c : ServerCall) :
    ((s.call c).1, (s.call c).2.services) = s.services.call c ∨ s.call c = (.error, s) := by
  obtain ⟨c, operation⟩ := c
  cases operation with
  | method k adapter operation => exact Or.inl (services_handleMethod s c adapter operation)
  | request k operation =>
    rw [call]
    dsimp only
    by_cases dead : ¬s.alive k
    · exact Or.inr (if_pos dead)
    rw [if_neg dead]
    cases operation with
    | createNew sender =>
      have created := @services_createAndCacheAdapter k
        ((s.setAutoDispose k false).withDaemon (s.services.daemon.objectNew k c).2)
        (s.services.daemon.objectNew k c).1 sender
      have path := congrArg (ServerReply.path ·.1) created
      have services := congrArg Prod.snd created
      exact Or.inl (Prod.ext path services)
    | get sender id => exact Or.inl (services_answerGet (s.setAutoDispose k false) c sender id)
    | getByName sender name => exact Or.inl (services_answerGet (s.setAutoDispose k false) _ sender _)
    | dispose adapter => exact Or.inr rfl
    | busNameLost peerName => exact Or.inr rfl

theorem serves_call (s : ServerLoop) (c : ServerCall) : s.services.Serves (s.call c).2.services := by
  rcases s.services_call c with answered | missed
  · have same : (s.call c).2.services = (s.services.call c).2 := congrArg Prod.snd answered
    rw [same]
    exact s.services.serves_call c
  · rw [missed]
    exact .refl _

theorem services_releases (going : List Peer) (s : ServerLoop) :
    (going.foldl (release k) s).services = going.foldl (Services.release · k) s.services := by
  induction going generalizing s with
  | nil => rfl
  | cons p rest ih => exact ih (s.release k p)

theorem services_disposeIfUnused (s : ServerLoop) : (s.disposeIfUnused k).services = s.services :=
  services_keepIf s _ k true

/-! ## What is alive, and what has gone -/

/-- How often its adapters keep a service. -/
def uses (s : ServerLoop) (k : ObjectKind) : Int32 := if s.services.peers k = [] then 0 else 1

theorem uses_eq (s : ServerLoop) (k : ObjectKind) : s.uses k = 0 ∨ s.uses k = 1 := by
  rw [uses]
  split_ifs
  · exact Or.inl rfl
  · exact Or.inr rfl

/-- The adapters of the list are there; whatever adapter is not in it has gone. -/
structure AdaptersTended (k : ObjectKind) (s : ServerLoop) : Prop where
  numbered : ∀ p ∈ s.services.peers k, p.adapter < s.services.objectCounter k
  live : ∀ p ∈ s.services.peers k,
    (s.adapters k p.adapter).Live (s.timeouts.adapter k) 0 p.deleteLater
  gone : ∀ i, (∀ p ∈ s.services.peers k, p.adapter ≠ i) → (s.adapters k i).Gone

/-- A service that is kept by its adapters, and by `n` handlers that are running. -/
structure Working (k : ObjectKind) (n : Int32) (s : ServerLoop) : Prop where
  adapters : s.AdaptersTended k
  service : (s.service k).Live s.timeouts.service (s.uses k + n) false

/-- A service that has gone, after its adapters. -/
structure Ended (k : ObjectKind) (s : ServerLoop) : Prop where
  adapters : s.AdaptersTended k
  service : (s.service k).Gone
  peers : s.services.peers k = []

/-- Every service works, or has ended. -/
def Tended (s : ServerLoop) : Prop := ∀ k, s.Working k 0 ∨ s.Ended k

/-- The server of a loop, without its services. -/
def core (s : ServerLoop) := (s.server, s.refCount, s.acquired, s.closes, s.running)

/-- A change of one kind of adapters and of their service. -/
structure Apart (k : ObjectKind) (s t : ServerLoop) : Prop where
  core : t.core = s.core
  timeouts : t.timeouts = s.timeouts
  service : ∀ j, j ≠ k → t.service j = s.service j
  adapters : ∀ j, j ≠ k → t.adapters j = s.adapters j
  peers : ∀ j, j ≠ k → t.services.peers j = s.services.peers j
  counter : ∀ j, j ≠ k → t.services.objectCounter j = s.services.objectCounter j

variable {t u : ServerLoop} {n m : Int32}

theorem Apart.refl (k : ObjectKind) (s : ServerLoop) : s.Apart k s :=
  ⟨rfl, rfl, fun _ _ => rfl, fun _ _ => rfl, fun _ _ => rfl, fun _ _ => rfl⟩

theorem Apart.trans (first : s.Apart k t) (second : t.Apart k u) : s.Apart k u where
  core := second.core.trans first.core
  timeouts := second.timeouts.trans first.timeouts
  service j other := (second.service j other).trans (first.service j other)
  adapters j other := (second.adapters j other).trans (first.adapters j other)
  peers j other := (second.peers j other).trans (first.peers j other)
  counter j other := (second.counter j other).trans (first.counter j other)

theorem apart_modifyService (k : ObjectKind) (change : GumDisposable → GumDisposable) (s : ServerLoop) :
    s.Apart k (s.modifyService k change) :=
  { Apart.refl k s with service := fun _ other => Function.update_of_ne other _ _ }

theorem apart_modifyAdapter (k : ObjectKind) (adapter : Nat) (change : GumDisposable → GumDisposable)
    (s : ServerLoop) : s.Apart k (s.modifyAdapter k adapter change) :=
  { Apart.refl k s with adapters := fun _ other => Function.update_of_ne other _ _ }

theorem apart_services {v : Services} {orphans : ObjectKind → List Nat}
    (peers : ∀ j, j ≠ k → v.peers j = s.services.peers j)
    (counter : ∀ j, j ≠ k → v.objectCounter j = s.services.objectCounter j) :
    s.Apart k { s with services := v, orphans := orphans } :=
  { Apart.refl k s with peers := peers, counter := counter }

theorem AdaptersTended.congr (tended : s.AdaptersTended k) (timeouts : t.timeouts = s.timeouts)
    (adapters : t.adapters k = s.adapters k) (peers : t.services.peers k = s.services.peers k)
    (counter : t.services.objectCounter k = s.services.objectCounter k) : t.AdaptersTended k := by
  obtain ⟨numbered, live, gone⟩ := tended
  constructor
  · rw [peers, counter]
    exact numbered
  · rw [peers, timeouts, adapters]
    exact live
  · rw [peers, adapters]
    exact gone

/-- The other kinds do not notice a change of one. -/
theorem Apart.tended {j : ObjectKind} (apart : s.Apart k t) (other : j ≠ k)
    (tended : s.Working j 0 ∨ s.Ended j) : t.Working j 0 ∨ t.Ended j := by
  have adapters : s.AdaptersTended j → t.AdaptersTended j := fun tended =>
    tended.congr apart.timeouts (apart.adapters j other) (apart.peers j other) (apart.counter j other)
  rcases tended with working | ended
  · refine Or.inl ⟨adapters working.adapters, ?_⟩
    rw [uses, apart.service j other, apart.timeouts, apart.peers j other]
    exact working.service
  · refine Or.inr ⟨adapters ended.adapters, ?_, ?_⟩
    · rw [apart.service j other]
      exact ended.service
    · rw [apart.peers j other]
      exact ended.peers

theorem Tended.apart (tended : s.Tended) (apart : s.Apart k t) (changed : t.Working k 0 ∨ t.Ended k) :
    t.Tended := by
  intro j
  by_cases same : j = k
  · exact same ▸ changed
  · exact apart.tended same (tended j)

theorem Tended.congr (tended : s.Tended) (timeouts : t.timeouts = s.timeouts)
    (service : t.service = s.service) (adapters : t.adapters = s.adapters)
    (services : t.services = s.services) : t.Tended := by
  intro k
  have uses : t.uses k = s.uses k := by
    rw [ServerLoop.uses, services, ServerLoop.uses]
  have kept : s.AdaptersTended k → t.AdaptersTended k := fun tended =>
    tended.congr timeouts (by rw [adapters]) (by rw [services]) (by rw [services])
  rcases tended k with working | ended
  · refine Or.inl ⟨kept working.adapters, ?_⟩
    rw [service, timeouts, uses]
    exact working.service
  · refine Or.inr ⟨kept ended.adapters, ?_, ?_⟩
    · rw [service]
      exact ended.service
    · rw [services]
      exact ended.peers

theorem Working.alive (working : s.Working k n) : s.alive k := working.service.alive

theorem Ended.not_alive (ended : s.Ended k) : ¬s.alive k := fun alive => alive ended.service.refCount

theorem Tended.working (tended : s.Tended) (alive : s.alive k) : s.Working k 0 :=
  (tended k).resolve_right fun ended => ended.not_alive alive

theorem Tended.ended (tended : s.Tended) (dead : ¬s.alive k) : s.Ended k :=
  (tended k).resolve_left fun working => dead working.alive

/-! ## Handlers -/

/-- What a handler of one kind does, which takes the service from being kept `n` times more to `m`. -/
def Moves (k : ObjectKind) (n m : Int32) (s t : ServerLoop) : Prop :=
  s.Apart k t ∧ (s.Working k n → t.Working k m)

theorem Moves.trans {l : Int32} (first : Moves k n m s t) (second : Moves k m l t u) : Moves k n l s u :=
  ⟨first.1.trans second.1, fun working => second.2 (first.2 working)⟩

/-- A service is kept by its adapters and by two handlers at most, far from an overflow. -/
theorem uses_add (s : ServerLoop) (k : ObjectKind) (small : n = 0 ∨ n = 1) :
    s.uses k + n ≠ .maxValue ∧ s.uses k + n + 1 ≠ 0 := by
  rcases s.uses_eq k with used | used <;> rcases small with rfl | rfl <;> rw [used] <;> decide

theorem moves_begin (s : ServerLoop) (k : ObjectKind) (small : n = 0 ∨ n = 1) :
    Moves k n (n + 1) s (s.setAutoDispose k false) := by
  refine ⟨apart_modifyService k _ s, fun working => ⟨working.adapters.congr rfl rfl rfl rfl, ?_⟩⟩
  have kept := working.service.keep (s.uses_add k small).1
  rw [Int32.add_assoc] at kept
  rw [setAutoDispose, modifyService]
  dsimp only
  rw [Function.update_self]
  exact kept

theorem moves_finish (s : ServerLoop) (k : ObjectKind) (small : n = 0 ∨ n = 1) :
    Moves k (n + 1) n s (s.setAutoDispose k true) := by
  refine ⟨apart_modifyService k _ s, fun working => ⟨working.adapters.congr rfl rfl rfl rfl, ?_⟩⟩
  have service := working.service
  rw [← Int32.add_assoc] at service
  have let_go := service.release (s.uses_add k small).2
  rw [setAutoDispose, modifyService]
  dsimp only
  rw [Function.update_self]
  exact let_go

theorem moves_withDaemon (s : ServerLoop) (k : ObjectKind) (n : Int32) (d : GumdDaemon) :
    Moves k n n s (s.withDaemon d) :=
  ⟨apart_services (fun _ _ => rfl) fun _ _ => rfl,
    fun working => ⟨working.adapters.congr rfl rfl rfl rfl, working.service⟩⟩

theorem newDisposable_eq (timeout : UInt32) :
    newDisposable timeout = (gumDisposableInit 1 0).gumDisposableSetTimeout timeout := by
  rw [newDisposable]
  split_ifs with zero
  · rw [zero]
    rfl
  · rfl

/-- A list that has got the next adapter. -/
theorem AdaptersTended.adopt (tended : s.AdaptersTended k) (object : Nat) (sender : Str)
    (timeouts : t.timeouts = s.timeouts)
    (peers : t.services.peers k = s.services.peers k ++
      [⟨sender, s.services.objectCounter k, object, false⟩])
    (counter : t.services.objectCounter k = s.services.objectCounter k + 1)
    (adapters : t.adapters k = Function.update (s.adapters k) (s.services.objectCounter k)
      (newDisposable (s.timeouts.adapter k))) : t.AdaptersTended k := by
  have older : ∀ p ∈ s.services.peers k, p.adapter ≠ s.services.objectCounter k :=
    fun p mem => Nat.ne_of_lt (tended.numbered p mem)
  constructor
  · rw [peers, counter]
    intro p mem
    rcases List.mem_append.mp mem with old | new
    · exact Nat.lt_succ_of_lt (tended.numbered p old)
    · obtain rfl := List.mem_singleton.mp new
      exact Nat.lt_succ_self _
  · rw [peers, timeouts, adapters]
    intro p mem
    rcases List.mem_append.mp mem with old | new
    · rw [Function.update_of_ne (older p old)]
      exact tended.live p old
    · obtain rfl := List.mem_singleton.mp new
      rw [Function.update_self, newDisposable_eq]
      exact GumDisposable.live_newDisposable _
  · rw [peers, adapters]
    intro i absent
    have new : s.services.objectCounter k ≠ i :=
      absent ⟨sender, s.services.objectCounter k, object, false⟩ (by simp)
    rw [Function.update_of_ne (Ne.symm new)]
    exact tended.gone i fun p mem => absent p (List.mem_append_left _ mem)

theorem moves_createAndCacheAdapter (s : ServerLoop) (k : ObjectKind) (small : n = 0 ∨ n = 1)
    (object : Nat) (sender : Str) : Moves k n n s (s.createAndCacheAdapter k object sender).2 := by
  have added : ∀ t : ServerLoop, t.Apart k ({ t with
      services := (t.services.createAndCacheAdapter k object sender).2 }.modifyAdapter k
        (t.services.objectCounter k) fun _ => newDisposable (t.timeouts.adapter k)) := by
    intro t
    refine .trans (apart_services ?_ ?_) (apart_modifyAdapter k _ _ _)
    · exact fun j other => Function.update_of_ne other _ _
    · exact fun j other => Function.update_of_ne other _ _
  rw [createAndCacheAdapter]
  by_cases empty : s.services.peers k = []
  · -- the first adapter keeps the service
    obtain ⟨apart, keeps⟩ := moves_begin s k small
    rw [if_pos (by rw [empty, List.length_nil])]
    refine ⟨apart.trans (added _), fun working => ?_⟩
    obtain ⟨adapters, service⟩ := keeps working
    have used : (s.setAutoDispose k false).uses k + (n + 1) = 1 + n := by
      rw [uses, if_pos (by exact empty), Int32.zero_add, Int32.add_comm]
    rw [used] at service
    refine ⟨adapters.adopt object sender rfl ?_ ?_ ?_, ?_⟩
    · exact Function.update_self ..
    · exact Function.update_self ..
    · exact Function.update_self ..
    · rw [uses, if_neg]
      · exact service
      · change Function.update s.services.peers k _ k ≠ []
        rw [Function.update_self]
        simp
  · have some : (s.services.peers k).length ≠ 0 := fun zero => empty (List.length_eq_zero_iff.mp zero)
    rw [if_neg some]
    refine ⟨added s, fun working => ?_⟩
    obtain ⟨adapters, service⟩ := working
    rw [uses, if_neg empty] at service
    refine ⟨adapters.adopt object sender rfl ?_ ?_ ?_, ?_⟩
    · exact Function.update_self ..
    · exact Function.update_self ..
    · exact Function.update_self ..
    · rw [uses, if_neg]
      · exact service
      · change Function.update s.services.peers k _ k ≠ []
        rw [Function.update_self]
        simp

theorem moves_answerGet (s : ServerLoop) (k : ObjectKind) (small : n = 0 ∨ n = 1) (c : Context)
    (sender : Str) (id : UInt32) : Moves k n n s (s.answerGet k c sender id).2 := by
  rw [answerGet]
  cases s.services.getAdapterFromCache k sender id with
  | some adapter => exact ⟨.refl k s, fun working => working⟩
  | none =>
    obtain ⟨found, d⟩ := s.services.daemon.getObject k c id
    cases found with
    | none => exact moves_withDaemon s k n d
    | some object => exact (moves_withDaemon s k n d).trans (moves_createAndCacheAdapter _ k small object sender)

/-- A handler that keeps the service while it runs. -/
theorem Tended.handled (tended : s.Tended) (alive : s.alive k)
    (moves : Moves k 1 1 (s.setAutoDispose k false) t) : (t.setAutoDispose k true).Tended := by
  obtain ⟨apart, keeps⟩ := ((moves_begin s k (Or.inl rfl)).trans moves).trans (moves_finish t k (Or.inl rfl))
  exact tended.apart apart (Or.inl (keeps (tended.working alive)))

/-! ## Methods -/

theorem modifyAdapter_self (s : ServerLoop) (k : ObjectKind) (adapter : Nat)
    (change : GumDisposable → GumDisposable) :
    (s.modifyAdapter k adapter change).adapters k =
      Function.update (s.adapters k) adapter (change (s.adapters k adapter)) :=
  Function.update_self ..

/-- A change of one adapter of the list. -/
theorem AdaptersTended.change (tended : s.AdaptersTended k) {p : Peer} (mem : p ∈ s.services.peers k)
    (mark : Peer → Peer) (marks : ∀ q, (mark q).adapter = q.adapter)
    (peers : t.services.peers k = (s.services.peers k).map mark) (timeouts : t.timeouts = s.timeouts)
    (counter : t.services.objectCounter k = s.services.objectCounter k)
    (others : ∀ i, i ≠ p.adapter → t.adapters k i = s.adapters k i)
    (kept : ∀ q ∈ s.services.peers k, q.adapter ≠ p.adapter → (mark q).deleteLater = q.deleteLater)
    (own : ∀ q ∈ s.services.peers k, q.adapter = p.adapter →
      (t.adapters k p.adapter).Live (s.timeouts.adapter k) 0 (mark q).deleteLater) :
    t.AdaptersTended k := by
  constructor
  · rw [peers, counter]
    intro q' mem
    obtain ⟨q, inside, rfl⟩ := List.mem_map.mp mem
    exact marks q ▸ tended.numbered q inside
  · rw [peers, timeouts]
    intro q' mem
    obtain ⟨q, inside, rfl⟩ := List.mem_map.mp mem
    rw [marks]
    by_cases same : q.adapter = p.adapter
    · rw [same]
      exact own q inside same
    · rw [others _ same, kept q inside same]
      exact tended.live q inside
  · rw [peers]
    intro i absent
    have absent' : ∀ q ∈ s.services.peers k, q.adapter ≠ i := fun q inside =>
      marks q ▸ absent (mark q) (List.mem_map_of_mem inside)
    rw [others i (Ne.symm (absent' p mem))]
    exact tended.gone i absent'

theorem onObject_frame (v : Services) (k : ObjectKind) (adapter : Nat)
    (method : GumdDaemon → Nat → ServerReply × GumdDaemon) :
    (v.onObject k adapter method).2.peers = v.peers ∧
      (v.onObject k adapter method).2.objectCounter = v.objectCounter := by
  rw [Services.onObject]
  cases v.peer k adapter with
  | none => exact ⟨rfl, rfl⟩
  | some p => exact ⟨rfl, rfl⟩

/-- What a method does to the adapter it is called on: nothing, once it has returned. -/
structure Bracketed (k : ObjectKind) (adapter : Nat) (s t : ServerLoop) : Prop where
  apart : s.Apart k t
  peers : t.services.peers = s.services.peers
  counter : t.services.objectCounter = s.services.objectCounter
  service : t.service k = s.service k
  others : ∀ i, i ≠ adapter → t.adapters k i = s.adapters k i
  own : ∀ {limit later}, (s.adapters k adapter).Live limit 0 later →
    (t.adapters k adapter).Live limit 0 later

theorem bracketed_runMethod (s : ServerLoop) (c : Context) (adapter : Nat)
    (operation : MethodOperation k) : Bracketed k adapter s (s.runMethod c adapter operation).2 := by
  obtain ⟨peers, counter⟩ := onObject_frame s.services k adapter (operation.handle c)
  have services : s.Apart k { s with
      services := (s.services.onObject k adapter (operation.handle c)).2 } :=
    apart_services (fun _ _ => by rw [peers]) fun _ _ => by rw [counter]
  rw [runMethod]
  dsimp only
  rw [keepAdapter, keepAdapter]
  by_cases writes : operation.writes = true
  · rw [if_pos writes, if_pos writes]
    exact ⟨services, peers, counter, rfl, fun _ _ => rfl, fun live => live⟩
  · rw [if_neg writes, if_neg writes]
    refine ⟨?_, peers, counter, rfl, fun i other => ?_, fun live => ?_⟩
    · refine .trans (apart_modifyAdapter k adapter (·.gumDisposableSetAutoDispose false) s)
        (.trans (apart_services ?_ ?_) (apart_modifyAdapter k adapter _ _))
      · exact fun _ _ => congrFun peers _
      · exact fun _ _ => congrFun counter _
    · rw [modifyAdapter_self, Function.update_of_ne other]
      dsimp only
      rw [modifyAdapter_self, Function.update_of_ne other]
    · rw [modifyAdapter_self, Function.update_self]
      dsimp only
      rw [modifyAdapter_self, Function.update_self]
      exact (live.keep (by decide)).release (by decide)

theorem Tended.handleMethod (tended : s.Tended) (c : Context) (adapter : Nat)
    (operation : MethodOperation k) : (s.handleMethod c adapter operation).2.Tended := by
  rw [ServerLoop.handleMethod]
  cases found : s.services.peer k adapter with
  | none => exact tended
  | some p =>
  have mem : p ∈ s.services.peers k := List.mem_of_find?_eq_some found
  obtain rfl : p.adapter = adapter := by simpa using List.find?_some found
  have working : s.Working k 0 :=
    (tended k).resolve_right fun ended => absurd mem (by rw [ended.peers]; exact List.not_mem_nil)
  have spec := s.bracketed_runMethod c p.adapter operation
  rw [if_neg (by simp)]
  generalize s.runMethod c p.adapter operation = answer at spec ⊢
  obtain ⟨reply, t⟩ := answer
  obtain ⟨apart, peers, counter, service, others, own⟩ := spec
  have live := working.adapters.live
  have number : ∀ q ∈ s.services.peers k, q.adapter = p.adapter →
      (t.adapters k p.adapter).Live (s.timeouts.adapter k) 0 q.deleteLater :=
    fun q inside same => own (same ▸ live q inside)
  dsimp only at apart peers counter service others own number ⊢
  have used : ∀ {u : ServerLoop}, (u.services.peers k = [] ↔ s.services.peers k = []) →
      u.uses k = s.uses k := fun same => if_congr same rfl rfl
  split_ifs with deleted
  · -- the adapter is marked, and its source is an idle one now
    refine tended.apart (apart.trans (.trans (apart_services ?_ ?_) (apart_modifyAdapter k _ _ _)))
      (Or.inl ⟨?_, ?_⟩)
    · exact fun j other => Function.update_of_ne other _ _
    · exact fun _ _ => rfl
    · refine working.adapters.change mem
        (fun q => if q.adapter = p.adapter then { q with deleteLater := true } else q) ?_ ?_
        apart.timeouts (congrFun counter k) ?_ ?_ ?_
      · intro q
        split_ifs <;> rfl
      · rw [← peers]
        exact Function.update_self ..
      · intro i other
        rw [modifyAdapter_self, Function.update_of_ne other]
        exact others i other
      · exact fun q inside other => by rw [if_neg other]
      · intro q inside same
        rw [if_pos same, modifyAdapter_self, Function.update_self]
        exact (number q inside same).deleted
    · change (t.service k).Live t.timeouts.service _ false
      rw [service, apart.timeouts, used]
      · exact working.service
      · change Function.update t.services.peers k _ k = [] ↔ _
        rw [Function.update_self, List.map_eq_nil_iff, peers]
  · refine tended.apart apart (Or.inl ⟨?_, ?_⟩)
    · refine working.adapters.change mem id (fun _ => rfl) ?_ apart.timeouts (congrFun counter k) others
        (fun _ _ _ => rfl) number
      rw [List.map_id, peers]
    · rw [service, apart.timeouts, used (by rw [peers])]
      exact working.service

theorem Tended.call (tended : s.Tended) (c : ServerCall) : (s.call c).2.Tended := by
  obtain ⟨c, operation⟩ := c
  cases operation with
  | method k adapter operation => exact tended.handleMethod c adapter operation
  | request k operation =>
    rw [ServerLoop.call]
    dsimp only
    by_cases dead : ¬s.alive k
    · rw [if_pos dead]
      exact tended
    rw [if_neg dead]
    have alive := Decidable.not_not.mp dead
    cases operation with
    | createNew sender =>
      exact tended.handled alive ((moves_withDaemon _ k 1 _).trans (moves_createAndCacheAdapter _ k (Or.inr rfl) _ _))
    | get sender id => exact tended.handled alive (moves_answerGet _ k (Or.inr rfl) c sender id)
    | getByName sender name => exact tended.handled alive (moves_answerGet _ k (Or.inr rfl) _ sender _)
    | dispose adapter => exact tended
    | busNameLost peerName => exact tended

/-! ## Adapters that go -/

/-- An adapter has left the list, and has gone. -/
theorem AdaptersTended.leave (tended : s.AdaptersTended k) (adapter : Nat)
    (peers : t.services.peers k = (s.services.peers k).filter (·.adapter ≠ adapter))
    (timeouts : t.timeouts = s.timeouts)
    (counter : t.services.objectCounter k = s.services.objectCounter k)
    (others : ∀ i, i ≠ adapter → t.adapters k i = s.adapters k i)
    (gone : (t.adapters k adapter).Gone) : t.AdaptersTended k := by
  constructor
  · rw [peers, counter]
    exact fun q mem => tended.numbered q (List.mem_filter.mp mem).1
  · rw [peers, timeouts]
    intro q mem
    obtain ⟨inside, other⟩ := List.mem_filter.mp mem
    rw [others q.adapter (by simpa using other)]
    exact tended.live q inside
  · rw [peers]
    intro i absent
    by_cases same : i = adapter
    · exact same ▸ gone
    · rw [others i same]
      refine tended.gone i fun q inside eq => ?_
      have kept : q ∈ (s.services.peers k).filter (·.adapter ≠ adapter) := by
        rw [List.mem_filter]
        exact ⟨inside, by simpa [eq] using same⟩
      exact absent q kept eq

theorem apart_release (s : ServerLoop) (k : ObjectKind) (p : Peer) : s.Apart k (s.release k p) := by
  refine .trans (@apart_services s k (s.services.release k p) (s.orphan k p) ?_ fun _ _ => rfl)
    (apart_modifyAdapter k p.adapter _ _)
  exact fun j other => Function.update_of_ne other _ _

theorem AdaptersTended.release (tended : s.AdaptersTended k) {p : Peer}
    (mem : p ∈ s.services.peers k) : (s.release k p).AdaptersTended k := by
  refine tended.leave p.adapter ?_ rfl rfl ?_ ?_
  · exact Function.update_self ..
  · intro i other
    rw [ServerLoop.release, modifyAdapter_self, Function.update_of_ne other]
  · rw [ServerLoop.release, modifyAdapter_self, Function.update_self]
    exact (tended.live p mem).unref

/-- The peers that are left once some have been released. -/
theorem peers_releases (going : List Peer) (v : Services) :
    (going.foldl (Services.release · k) v).peers k =
      (v.peers k).filter fun q => going.all fun p => q.adapter ≠ p.adapter := by
  induction going generalizing v with
  | nil => simp
  | cons p rest ih =>
    rw [List.foldl_cons, ih, Services.peers_release, Function.update_self, List.filter_filter]
    apply List.filter_congr
    intro q _
    rw [List.all_cons, Bool.and_comm]

/-- Peers of the list are released one after another. -/
theorem releases_spec {going : List Peer} (known : ∀ p ∈ going, p ∈ s.services.peers k)
    (once : (going.map (·.adapter)).Nodup) (tended : s.AdaptersTended k) :
    (going.foldl (ServerLoop.release k) s).AdaptersTended k ∧
      s.Apart k (going.foldl (ServerLoop.release k) s) ∧
      (going.foldl (ServerLoop.release k) s).service k = s.service k := by
  induction going generalizing s with
  | nil => exact ⟨tended, .refl k s, rfl⟩
  | cons p rest ih =>
    rw [List.map_cons, List.nodup_cons] at once
    obtain ⟨tended', apart, service⟩ := @ih (s.release k p) (fun q mem =>
      Services.mem_release (known q (List.mem_cons_of_mem _ mem)) fun _ same =>
        once.1 (same ▸ List.mem_map_of_mem mem)) once.2 (tended.release (known p List.mem_cons_self))
    exact ⟨tended', (apart_release s k p).trans apart, service⟩

/-- What both handlers of lost adapters end with: the last adapter lets the service go. -/
theorem disposeIfUnused_spec (adapters : s.AdaptersTended k) {m : Int32} (one : m = 0 ∨ m = 1)
    (used : s.services.peers k ≠ [] → m = 1)
    (service : (s.service k).Live s.timeouts.service m false) :
    s.Apart k (s.disposeIfUnused k) ∧ (s.disposeIfUnused k).Working k 0 := by
  rw [disposeIfUnused]
  by_cases empty : s.services.peers k = []
  · rw [if_pos (by rw [empty, List.length_nil])]
    refine ⟨apart_modifyService k _ s, adapters.congr rfl rfl rfl rfl, ?_⟩
    rw [uses, if_pos (by exact empty), setAutoDispose, modifyService]
    dsimp only
    rw [Function.update_self]
    rcases one with rfl | rfl
    · rw [service.release_zero]
      exact service
    · exact GumDisposable.Live.release (n := 0) service (by decide)
  · rw [if_neg fun zero => empty (List.length_eq_zero_iff.mp zero)]
    refine ⟨.refl k s, adapters, ?_⟩
    rw [uses, if_neg empty]
    have kept := used empty
    subst kept
    exact service

theorem Tended.onBusNameLost (tended : s.Tended) (alive : s.alive k)
    (distinct : ((s.services.peers k).map (·.adapter)).Nodup) (peerName : Str) :
    (s.onBusNameLost k peerName).Tended := by
  obtain ⟨adapters, service⟩ := tended.working alive
  rw [Int32.add_zero] at service
  rw [ServerLoop.onBusNameLost]
  have spec := @releases_spec s k ((s.services.peers k).filter (·.peerName = peerName))
    (fun p mem => (List.mem_filter.mp mem).1) (distinct.sublist (List.filter_sublist.map _)) adapters
  have left := peers_releases (k := k) ((s.services.peers k).filter (·.peerName = peerName)) s.services
  rw [← services_releases] at left
  generalize ((s.services.peers k).filter (·.peerName = peerName)).foldl (release k) s = t at spec left ⊢
  obtain ⟨adapters', apart, same⟩ := spec
  have used : t.services.peers k ≠ [] → s.uses k = 1 := by
    intro some
    rw [uses, if_neg]
    rintro none
    rw [left, none] at some
    exact some rfl
  rw [← same, ← apart.timeouts] at service
  obtain ⟨apart', working⟩ := disposeIfUnused_spec adapters' (s.uses_eq k) used service
  exact tended.apart (apart.trans apart') (Or.inl working)

theorem modifyAdapter_of_same {adapter : Nat} {change : GumDisposable → GumDisposable}
    (same : change (s.adapters k adapter) = s.adapters k adapter) :
    s.modifyAdapter k adapter change = s := by
  rw [modifyAdapter, same, Function.update_eq_self, Function.update_eq_self]

theorem modifyService_of_same {change : GumDisposable → GumDisposable}
    (same : change (s.service k) = s.service k) : s.modifyService k change = s := by
  rw [modifyService, same, Function.update_eq_self]

theorem Tended.expireAdapter (tended : s.Tended) (adapter source : Nat) :
    (s.expireAdapter k adapter source).Tended := by
  have adapters : s.AdaptersTended k := (tended k).elim (·.adapters) (·.adapters)
  have idle : (s.adapters k adapter).expire source = s.adapters k adapter →
      (s.expireAdapter k adapter source).Tended := by
    intro same
    rw [ServerLoop.expireAdapter, modifyAdapter_of_same same]
    rw [if_neg fun both => both.1 both.2]
    exact tended
  by_cases listed : ∀ p ∈ s.services.peers k, p.adapter ≠ adapter
  · exact idle ((adapters.gone adapter listed).expire source)
  obtain ⟨p, mem, own⟩ : ∃ p ∈ s.services.peers k, p.adapter = adapter := by
    simpa using listed
  have live := adapters.live p mem
  rw [own] at live
  rcases live.expire source with same | ⟨gone, -⟩
  · exact idle same
  -- the adapter leaves the list
  have working : s.Working k 0 :=
    (tended k).resolve_right fun ended => absurd mem (by rw [ended.peers]; exact List.not_mem_nil)
  have service := working.service
  rw [Int32.add_zero] at service
  have updated : (s.modifyAdapter k adapter (·.expire source)).adapters k adapter =
      (s.adapters k adapter).expire source := by
    rw [modifyAdapter_self, Function.update_self]
  rw [ServerLoop.expireAdapter]
  rw [updated, if_pos ⟨live.alive, gone.refCount⟩, ServerLoop.onAdapterDisposed]
  have disposed : s.services.onAdapterDisposed k adapter =
      ((s.services.peer k adapter).elim s.services (s.services.release k)) := rfl
  have left : (s.services.onAdapterDisposed k adapter).peers =
      Function.update s.services.peers k ((s.services.peers k).filter (·.adapter ≠ adapter)) := by
    rw [disposed]
    cases found : s.services.peer k adapter with
    | none =>
      have missing := List.find?_eq_none.mp found p mem
      exact absurd own (by simpa using missing)
    | some q =>
      have same : q.adapter = adapter := by simpa using List.find?_some found
      rw [← same]
      rfl
  have counter : (s.services.onAdapterDisposed k adapter).objectCounter = s.services.objectCounter := by
    rw [disposed]
    cases s.services.peer k adapter with
    | none => rfl
    | some q => rfl
  have apart : s.Apart k { s.modifyAdapter k adapter (·.expire source) with
      services := s.services.onAdapterDisposed k adapter
      orphans := (s.services.peer k adapter).elim s.orphans (s.orphan k) } := by
    refine (apart_modifyAdapter k adapter (·.expire source) s).trans (apart_services ?_ ?_)
    · intro j other
      rw [left, Function.update_of_ne other]
      rfl
    · intro j _
      rw [counter]
      rfl
  have tended' : AdaptersTended k { s.modifyAdapter k adapter (·.expire source) with
      services := s.services.onAdapterDisposed k adapter
      orphans := (s.services.peer k adapter).elim s.orphans (s.orphan k) } := by
    refine adapters.leave adapter ?_ rfl (congrFun counter k) ?_ ?_
    · exact (congrFun left k).trans (Function.update_self ..)
    · intro i other
      exact (congrFun (modifyAdapter_self ..) i).trans (Function.update_of_ne other ..)
    · exact updated ▸ gone
  have used : s.uses k = 1 := by
    rw [uses, if_neg (List.ne_nil_of_mem mem)]
  obtain ⟨apart', working'⟩ := disposeIfUnused_spec tended' (s.uses_eq k) (fun _ => used) service
  exact tended.apart (apart.trans apart') (Or.inl working')

/-! ## Services that go -/

/-- The adapters of a service that has gone follow it. -/
theorem disposeService_spec (adapters : s.AdaptersTended k) (gone : (s.service k).Gone)
    (distinct : ((s.services.peers k).map (·.adapter)).Nodup) :
    s.Apart k (s.disposeService k) ∧ (s.disposeService k).Ended k := by
  obtain ⟨adapters', apart, same⟩ := releases_spec (fun _ mem => mem) distinct adapters
  have left := peers_releases (k := k) (s.services.peers k) s.services
  rw [← services_releases] at left
  rw [disposeService]
  refine ⟨⟨apart.core, apart.timeouts, apart.service, apart.adapters, apart.peers, apart.counter⟩,
    adapters'.congr rfl rfl rfl rfl, ?_, ?_⟩
  · change (((s.services.peers k).foldl (release k) s).service k).Gone
    rw [same]
    exact gone
  · change ((s.services.peers k).foldl (release k) s).services.peers k = []
    rw [left, List.filter_eq_nil_iff]
    intro q mem all
    have self := List.all_eq_true.mp all q mem
    simp at self

/-- A service that ends leaves the other one, or the server with it. -/
theorem Tended.expireService (tended : s.Tended) (source : Nat) :
    (s.expireService k source).Tended ∧ (∀ j, ¬s.alive j → ¬(s.expireService k source).alive j) ∧
      ∃ closes, (s.expireService k source).core = { s with closes := s.closes ++ closes }.core ∧
        (∀ server ∈ closes, server = s.server) ∧
        ((∀ j, ¬(s.expireService k source).alive j) → (∀ j, ¬s.alive j) ∨ s.server ∈ closes) := by
  have idle : (s.service k).expire source = s.service k →
      s.expireService k source = s := by
    intro same
    rw [ServerLoop.expireService, modifyService_of_same same]
    rw [if_neg fun both => both.2 both.1]
  have unchanged : s.core = { s with closes := s.closes ++ [] }.core := by
    rw [List.append_nil]
  rcases tended k with working | ended
  · rcases working.service.expire source with same | ⟨gone, reason⟩
    · rw [idle same]
      exact ⟨tended, fun _ dead => dead, [], unchanged, fun _ mem => absurd mem List.not_mem_nil, Or.inl⟩
    -- a service disposes of itself only when it has no adapters
    have unused : s.services.peers k = [] := by
      obtain ⟨zero, -⟩ := reason.resolve_left (by decide)
      rw [uses] at zero
      by_contra some
      rw [if_neg some] at zero
      exact absurd zero (by decide)
    have updated : ((s.modifyService k (·.expire source)).service k) = (s.service k).expire source :=
      Function.update_self ..
    have dead : ¬(s.modifyService k (·.expire source)).alive k := by
      rw [alive, updated]
      exact fun alive => alive gone.refCount
    rw [ServerLoop.expireService]
    rw [if_pos ⟨working.alive, dead⟩]
    obtain ⟨apart, ended⟩ := @disposeService_spec (s.modifyService k (·.expire source)) k
      (working.adapters.congr rfl rfl rfl rfl) (updated ▸ gone) (by
        change ((s.services.peers k).map _).Nodup
        rw [unused]
        exact List.nodup_nil)
    have apart' := (apart_modifyService k (·.expire source) s).trans apart
    have tended' := tended.apart apart' (Or.inr ended)
    have stays : ∀ j, ¬s.alive j → ¬((s.modifyService k (·.expire source)).disposeService k).alive j := by
      intro j dead
      by_cases same : j = k
      · exact same ▸ ended.not_alive
      · rw [alive, apart'.service j same]
        exact dead
    rw [onInterfaceDispose]
    split_ifs with other
    · exact ⟨tended', stays, [], apart'.core.trans unchanged, fun _ mem => absurd mem List.not_mem_nil,
        fun none => absurd other (none k.other)⟩
    · refine ⟨tended'.congr rfl rfl rfl rfl, stays, [s.server], ?_, fun _ => List.mem_singleton.mp,
        fun _ => ?_⟩
      · have core := apart'.core
        simp only [ServerLoop.core, Prod.mk.injEq] at core ⊢
        obtain ⟨server, refCount, acquired, closes, running⟩ := core
        exact ⟨server, refCount, acquired, by rw [closes, server], running⟩
      · exact Or.inr List.mem_cons_self
  · rw [idle (ended.service.expire source)]
    exact ⟨tended, fun _ dead => dead, [], unchanged, fun _ mem => absurd mem List.not_mem_nil, Or.inl⟩

theorem Tended.stopService (tended : s.Tended) (k : ObjectKind)
    (distinct : ∀ j, ((s.services.peers j).map (·.adapter)).Nodup) :
    (s.stopService k).Tended ∧ (s.stopService k).core = s.core ∧ ¬(s.stopService k).alive k ∧
      ∀ j, ¬s.alive j → ¬(s.stopService k).alive j := by
  rw [ServerLoop.stopService]
  by_cases alive : s.alive k
  · rw [if_pos alive]
    have working := tended.working alive
    have gone : ((s.modifyService k (·.gObjectUnref)).service k).Gone := by
      rw [modifyService]
      dsimp only
      rw [Function.update_self]
      exact working.service.unref
    obtain ⟨apart, ended⟩ := @disposeService_spec (s.modifyService k (·.gObjectUnref)) k
      (working.adapters.congr rfl rfl rfl rfl) gone (distinct k)
    have apart' := (apart_modifyService k (·.gObjectUnref) s).trans apart
    refine ⟨tended.apart apart' (Or.inr ended), apart'.core, ended.not_alive, fun j dead => ?_⟩
    by_cases same : j = k
    · exact same ▸ ended.not_alive
    · rw [ServerLoop.alive, apart'.service j same]
      exact dead
  · rw [if_neg alive]
    exact ⟨tended, rfl, alive, fun _ dead => dead⟩

/-! ## The services after an event -/

theorem serves_expireAdapter (s : ServerLoop) (adapter source : Nat) :
    s.services.Serves (s.expireAdapter k adapter source).services := by
  rw [expireAdapter]
  split_ifs
  · rw [onAdapterDisposed, services_disposeIfUnused]
    exact s.services.serves_call ⟨Services.noContext, .request k (.dispose adapter)⟩
  · exact .refl _

theorem serves_onBusNameLost (s : ServerLoop) (peerName : Str) :
    s.services.Serves (s.onBusNameLost k peerName).services := by
  rw [onBusNameLost, services_disposeIfUnused, services_releases]
  exact s.services.serves_call ⟨Services.noContext, .request k (.busNameLost peerName)⟩

theorem serves_disposeService (distinct : ((s.services.peers k).map (·.adapter)).Nodup) :
    s.services.Serves (s.disposeService k).services := by
  rw [disposeService]
  dsimp only
  rw [services_releases]
  exact Services.serves_releases (fun _ mem => mem) distinct distinct

theorem serves_expireService (distinct : ((s.services.peers k).map (·.adapter)).Nodup) (source : Nat) :
    s.services.Serves (s.expireService k source).services := by
  rw [expireService]
  split_ifs
  · have disposed := @serves_disposeService (s.modifyService k (·.expire source)) k distinct
    rw [onInterfaceDispose]
    split_ifs <;> exact disposed
  · exact .refl _

theorem serves_stopService (distinct : ((s.services.peers k).map (·.adapter)).Nodup) :
    s.services.Serves (s.stopService k).services := by
  rw [stopService]
  split_ifs
  · exact @serves_disposeService (s.modifyService k (·.gObjectUnref)) k distinct
  · exact .refl _

/-! ## What a handler leaves alone -/

/-- The server, and the references to its services. -/
def frame (s : ServerLoop) := (s.core, fun k => (s.service k).refCount)

theorem core_of_frame (same : t.frame = s.frame) : t.core = s.core := congrArg Prod.fst same

theorem alive_of_frame (same : t.frame = s.frame) (k : ObjectKind) : t.alive k ↔ s.alive k := by
  have counts : (t.service k).refCount = (s.service k).refCount :=
    congrFun (congrArg Prod.snd same) k
  rw [alive, alive, counts]

theorem frame_setAutoDispose (s : ServerLoop) (k : ObjectKind) (dispose : Bool) :
    (s.setAutoDispose k dispose).frame = s.frame := by
  refine Prod.ext rfl (funext fun j => ?_)
  change (Function.update s.service k _ j).refCount = (s.service j).refCount
  by_cases same : j = k
  · subst same
    rw [Function.update_self]
    exact ((s.service j).setAutoDispose_frame dispose).1
  · rw [Function.update_of_ne same]

theorem frame_createAndCacheAdapter (s : ServerLoop) (k : ObjectKind) (object : Nat) (sender : Str) :
    (s.createAndCacheAdapter k object sender).2.frame = s.frame := by
  rw [createAndCacheAdapter]
  split_ifs
  · exact s.frame_setAutoDispose k false
  · rfl

theorem frame_answerGet (s : ServerLoop) (k : ObjectKind) (c : Context) (sender : Str) (id : UInt32) :
    (s.answerGet k c sender id).2.frame = s.frame := by
  rw [answerGet]
  cases s.services.getAdapterFromCache k sender id with
  | some adapter => rfl
  | none =>
    obtain ⟨found, d⟩ := s.services.daemon.getObject k c id
    cases found with
    | none => rfl
    | some object => exact frame_createAndCacheAdapter _ k object sender

/-- A handler that keeps the service while it runs. -/
theorem frame_handled (same : t.frame = (s.setAutoDispose k false).frame) :
    (t.setAutoDispose k true).frame = s.frame :=
  (t.frame_setAutoDispose k true).trans (same.trans (s.frame_setAutoDispose k false))

theorem frame_keepAdapter (s : ServerLoop) (operation : MethodOperation k) (adapter : Nat)
    (dispose : Bool) : (s.keepAdapter operation adapter dispose).frame = s.frame := by
  rw [keepAdapter]
  split_ifs <;> rfl

theorem frame_handleMethod (s : ServerLoop) (c : Context) (adapter : Nat)
    (operation : MethodOperation k) : (s.handleMethod c adapter operation).2.frame = s.frame := by
  have ran : (s.runMethod c adapter operation).2.frame = s.frame := by
    rw [runMethod]
    exact (frame_keepAdapter ..).trans (s.frame_keepAdapter operation adapter false)
  rw [handleMethod]
  generalize s.runMethod c adapter operation = answer at ran ⊢
  obtain ⟨reply, t⟩ := answer
  split_ifs
  · rfl
  · dsimp only
    split_ifs <;> exact ran

theorem frame_call (s : ServerLoop) (c : ServerCall) : (s.call c).2.frame = s.frame := by
  obtain ⟨c, operation⟩ := c
  cases operation with
  | method k adapter operation => exact s.frame_handleMethod c adapter operation
  | request k operation =>
    rw [call]
    dsimp only
    by_cases dead : ¬s.alive k
    · rw [if_pos dead]
    rw [if_neg dead]
    cases operation with
    | createNew sender => exact frame_handled (frame_createAndCacheAdapter _ k _ sender)
    | get sender id => exact frame_handled (frame_answerGet _ k c sender id)
    | getByName sender name => exact frame_handled (frame_answerGet _ k _ sender _)
    | dispose adapter => rfl
    | busNameLost peerName => rfl

theorem frame_disposeIfUnused (s : ServerLoop) (k : ObjectKind) :
    (s.disposeIfUnused k).frame = s.frame := by
  rw [disposeIfUnused]
  split_ifs
  · exact s.frame_setAutoDispose k true
  · rfl

theorem frame_expireAdapter (s : ServerLoop) (k : ObjectKind) (adapter source : Nat) :
    (s.expireAdapter k adapter source).frame = s.frame := by
  rw [expireAdapter]
  split_ifs
  · exact frame_disposeIfUnused _ k
  · rfl

theorem frame_releases (going : List Peer) (s : ServerLoop) :
    (going.foldl (release k) s).frame = s.frame := by
  induction going generalizing s with
  | nil => rfl
  | cons p rest ih => exact ih (s.release k p)

theorem frame_onBusNameLost (s : ServerLoop) (k : ObjectKind) (peerName : Str) :
    (s.onBusNameLost k peerName).frame = s.frame :=
  (frame_disposeIfUnused _ k).trans (frame_releases _ s)

/-! ## Events -/

/-- The invariant of a loop: the services and their adapters are tended, calls of the server lead to what
they are, the server has its one reference until the loop is quit, and is about to be closed once it has no
service left. -/
structure Sound (system : System) (s : ServerLoop) : Prop where
  tended : s.Tended
  reached : (Services.new system).Serves s.services
  refCount : s.refCount = if s.running then 1 else 0
  closes : s.running = true → ∀ server ∈ s.closes, server = s.server
  serving : s.acquired = false ∨ s.running = false → ∀ k, ¬s.alive k
  closing : s.running = true → s.acquired = true → (∀ k, ¬s.alive k) → s.server ∈ s.closes

variable {system : System}

theorem Sound.distinct (sound : s.Sound system) (k : ObjectKind) :
    ((s.services.peers k).map (·.adapter)).Nodup :=
  (Services.tracked_of_serves sound.reached).distinct k

theorem sound_start (timeouts : Timeouts) (system : System) : (start timeouts system).Sound system where
  tended k := by
    refine Or.inr ⟨⟨fun _ mem => absurd mem List.not_mem_nil, fun _ mem => absurd mem List.not_mem_nil,
      fun _ _ => ?_⟩, ?_, rfl⟩
    · exact GumDisposable.gone_init
    · exact GumDisposable.gone_init
  reached := .refl _
  refCount := rfl
  closes _ _ mem := absurd mem List.not_mem_nil
  serving _ _ alive := alive rfl
  closing _ acquired _ := by cases acquired

/-- The services change, and the server does not. -/
theorem Sound.of_frame (sound : s.Sound system) (tended : t.Tended)
    (serves : s.services.Serves t.services) (frame : t.frame = s.frame) : t.Sound system := by
  have core := core_of_frame frame
  have alive := alive_of_frame frame
  simp only [ServerLoop.core, Prod.mk.injEq] at core
  obtain ⟨server, refCount, acquired, closes, running⟩ := core
  refine ⟨tended, sound.reached.trans serves, ?_, ?_, ?_, ?_⟩
  · rw [refCount, running]
    exact sound.refCount
  · rw [running, closes, server]
    exact sound.closes
  · rw [acquired, running]
    exact fun ended k living => sound.serving ended k ((alive k).mp living)
  · rw [running, acquired, closes, server]
    exact fun up has none => sound.closing up has fun k living => none k ((alive k).mpr living)

theorem Sound.call (sound : s.Sound system) (c : ServerCall) : (s.call c).2.Sound system :=
  sound.of_frame (sound.tended.call c) (s.serves_call c) (s.frame_call c)

theorem Sound.getUserList (sound : s.Sound system) (alive : s.alive .user) :
    s.handleGetUserList.Sound system :=
  sound.of_frame (sound.tended.handled alive ⟨.refl _ _, fun working => working⟩) (.refl _)
    (frame_handled rfl)

theorem Sound.expireAdapter (sound : s.Sound system) (k : ObjectKind) (adapter source : Nat) :
    (s.expireAdapter k adapter source).Sound system :=
  sound.of_frame (sound.tended.expireAdapter adapter source) (s.serves_expireAdapter adapter source)
    (s.frame_expireAdapter k adapter source)

theorem Sound.onBusNameLost (sound : s.Sound system) (alive : s.alive k) (peerName : Str) :
    (s.onBusNameLost k peerName).Sound system :=
  sound.of_frame (sound.tended.onBusNameLost alive (sound.distinct k) peerName)
    (s.serves_onBusNameLost peerName) (s.frame_onBusNameLost k peerName)

theorem Sound.expireService (sound : s.Sound system) (k : ObjectKind) (source : Nat) :
    (s.expireService k source).Sound system := by
  obtain ⟨tended, stays, closes, core, own, last⟩ := sound.tended.expireService (k := k) source
  have serves := s.serves_expireService (sound.distinct k) source
  generalize s.expireService k source = t at tended stays core last serves ⊢
  simp only [ServerLoop.core, Prod.mk.injEq] at core
  obtain ⟨server, refCount, acquired, closes', running⟩ := core
  refine ⟨tended, sound.reached.trans serves, ?_, ?_, ?_, ?_⟩
  · rw [refCount, running]
    exact sound.refCount
  · rw [running, closes', server]
    intro up c mem
    rcases List.mem_append.mp mem with old | new
    · exact sound.closes up c old
    · exact own c new
  · rw [acquired, running]
    exact fun ended j => stays j (sound.serving ended j)
  · rw [running, acquired, closes', server]
    intro up has none
    rcases last none with before | pending
    · exact List.mem_append_left _ (sound.closing up has before)
    · exact List.mem_append_right _ pending

/-- The services begin without adapters. -/
theorem Sound.onBusAcquired (sound : s.Sound system) (running : s.running = true)
    (unacquired : s.acquired = false) : s.onBusAcquired.Sound system := by
  have ended := fun k => sound.tended.ended (sound.serving (Or.inl unacquired) k)
  have begun : ∀ k, s.onBusAcquired.Working k 0 := by
    intro k
    refine ⟨(ended k).adapters.congr rfl rfl rfl rfl, ?_⟩
    have unused : s.onBusAcquired.uses k = 0 := if_pos (ended k).peers
    rw [unused, ServerLoop.onBusAcquired]
    dsimp only
    rw [newDisposable_eq]
    exact GumDisposable.live_newDisposable _
  refine ⟨fun k => Or.inl (begun k), sound.reached, sound.refCount, sound.closes, ?_, ?_⟩
  · rintro (acquired | stopped)
    · cases acquired
    · have same : s.onBusAcquired.running = s.running := rfl
      rw [same, running] at stopped
      cases stopped
  · exact fun _ _ none => absurd (begun .user).alive (none .user)

/-! ## The end of a server -/

/-- The last reference to the server takes the services and the adapters along. -/
theorem dropServer_spec (tended : s.Tended) (reached : (Services.new system).Serves s.services)
    (one : s.refCount = 1) :
    s.dropServer.Tended ∧ (Services.new system).Serves s.dropServer.services ∧
      s.dropServer.core = { s with refCount := 0 }.core ∧ ∀ k, ¬s.dropServer.alive k := by
  have last : s.dropServer = ({ s with refCount := 0 } : ServerLoop).stop := by
    rw [dropServer, one]
    rfl
  have tended' : ({ s with refCount := 0 } : ServerLoop).Tended := tended.congr rfl rfl rfl rfl
  have distinct := (Services.tracked_of_serves reached).distinct
  obtain ⟨tended₁, core₁, groups, -⟩ := tended'.stopService .group distinct
  have reached₁ := reached.trans (@serves_stopService { s with refCount := 0 } .group (distinct .group))
  have distinct₁ := (Services.tracked_of_serves reached₁).distinct
  obtain ⟨tended₂, core₂, users, stays⟩ := tended₁.stopService .user distinct₁
  rw [last, stop]
  refine ⟨tended₂, reached₁.trans (serves_stopService (distinct₁ .user)), core₂.trans core₁, fun k => ?_⟩
  cases k with
  | user => exact users
  | group => exact stays .group groups

/-- Afterwards the loop is quit. -/
theorem sound_unrefServer (tended : s.Tended) (reached : (Services.new system).Serves s.services)
    (one : s.refCount = 1) : s.unrefServer.Sound system := by
  obtain ⟨tended', reached', core, dead⟩ := dropServer_spec tended reached one
  have gone : s.dropServer.refCount = 0 := congrArg (·.2.1) core
  rw [unrefServer]
  rw [if_pos gone]
  refine ⟨tended'.congr rfl rfl rfl rfl, reached', gone, ?_, fun _ => dead, ?_⟩
  · intro running
    cases running
  · intro running
    cases running

theorem Sound.one (sound : s.Sound system) (running : s.running = true) : s.refCount = 1 := by
  rw [sound.refCount, if_pos running]

/-- A source closes the server it was added for. -/
theorem Sound.closeServer (sound : s.Sound system) (running : s.running = true) :
    ∃ t, s.closeServer = some t ∧ t.Sound system := by
  rw [ServerLoop.closeServer]
  cases pending : s.closes with
  | nil => exact ⟨s, rfl, sound⟩
  | cons server rest =>
    have own : server = s.server := sound.closes running server (by rw [pending]; exact List.mem_cons_self)
    have one := sound.one running
    dsimp only
    rw [if_pos ⟨own, by rw [one]; exact Nat.one_ne_zero⟩]
    exact ⟨_, rfl, sound_unrefServer (sound.tended.congr rfl rfl rfl rfl) sound.reached one⟩

theorem Sound.reload (sound : s.Sound system) (running : s.running = true) (quiet : s.closes = []) :
    s.reload.Sound system := by
  have one := sound.one running
  obtain ⟨tended, reached, core, dead⟩ := dropServer_spec sound.tended sound.reached one
  rw [ServerLoop.reload, if_neg (by rw [one]; exact Nat.one_ne_zero)]
  generalize s.dropServer = t at tended reached core dead ⊢
  simp only [ServerLoop.core, Prod.mk.injEq] at core
  obtain ⟨-, -, -, closes, running'⟩ := core
  have forgotten := (Services.tracked_of_serves reached).forgotten fun k => (tended.ended (dead k)).peers
  dsimp only
  rw [forgotten]
  refine ⟨tended.congr rfl rfl rfl rfl, reached, ?_, ?_, fun _ => dead, ?_⟩
  · exact (if_pos (running'.trans running)).symm
  · intro _ server mem
    have none : t.closes = [] := closes.trans quiet
    exact absurd (none ▸ mem : server ∈ []) List.not_mem_nil
  · intro _ acquired
    cases acquired

theorem Sound.quit (sound : s.Sound system) (running : s.running = true) : s.quit.Sound system := by
  have one := sound.one running
  rw [ServerLoop.quit]
  rw [if_neg (by exact one ▸ Nat.one_ne_zero)]
  exact sound_unrefServer (sound.tended.congr rfl rfl rfl rfl) sound.reached one

/-! ## Runs -/

/-- A server that is about to be closed is not replaced, and no call reaches an object that an adapter has
gone from. -/
def Settled (s : ServerLoop) : LoopEvent → Prop
  | .reload => s.closes = []
  | .call c => s.Safe c
  | _ => True

instance (s : ServerLoop) : (e : LoopEvent) → Decidable (s.Settled e)
  | .reload => inferInstanceAs (Decidable (s.closes = []))
  | .call c => inferInstanceAs (Decidable (s.Safe c))
  | .busAcquired | .getUserList | .expireAdapter _ _ _ | .expireService _ _ | .busNameLost _ _
  | .closeServer | .nameLost | .quit => .isTrue trivial

theorem Sound.step (sound : s.Sound system) {e : LoopEvent} (settled : s.Settled e) :
    ∃ t, s.step e = some t ∧ t.Sound system := by
  rw [ServerLoop.step]
  by_cases running : s.running = true
  · rw [if_pos running]
    have one := sound.one running
    have here : s.refCount ≠ 0 := one ▸ Nat.one_ne_zero
    cases e with
    | busAcquired =>
      rw [dispatch]
      by_cases acquired : s.acquired = true
      · rw [if_neg fun both => both.2 acquired]
        exact ⟨s, rfl, sound⟩
      · rw [if_pos ⟨here, acquired⟩]
        exact ⟨_, rfl, sound.onBusAcquired running (Bool.eq_false_iff.mpr acquired)⟩
    | call c => exact ⟨_, if_pos settled, sound.call c⟩
    | getUserList =>
      rw [dispatch]
      split_ifs with alive
      · exact ⟨_, rfl, sound.getUserList alive⟩
      · exact ⟨s, rfl, sound⟩
    | expireAdapter k adapter source => exact ⟨_, rfl, sound.expireAdapter k adapter source⟩
    | expireService k source => exact ⟨_, rfl, sound.expireService k source⟩
    | busNameLost k peerName =>
      rw [dispatch]
      split_ifs with alive
      · exact ⟨_, rfl, sound.onBusNameLost alive peerName⟩
      · exact ⟨s, rfl, sound⟩
    | closeServer => exact sound.closeServer running
    | nameLost =>
      rw [dispatch, if_pos here]
      exact ⟨_, rfl, sound_unrefServer sound.tended sound.reached one⟩
    | reload => exact ⟨_, rfl, sound.reload running settled⟩
    | quit => exact ⟨_, rfl, sound.quit running⟩
  · rw [if_neg running]
    exact ⟨s, rfl, sound⟩

/-- Every run in which no server is replaced that is about to be closed, and no call reaches an object that
an adapter has gone from, ends without having read freed memory, with every adapter and every service
tended. -/
theorem run_sound (timeouts : Timeouts) (system : System) (events : List LoopEvent)
    (settled : Runs.EachSome ServerLoop.step Settled (start timeouts system) events) :
    ∃ s, (start timeouts system).run events = some s ∧ s.Sound system :=
  settled.run (fun _ _ settled sound => sound.step settled) (sound_start timeouts system)

/-- The source that is left of a server that was replaced reads freed memory. -/
theorem Sound.closeServer_reload (sound : s.Sound system) (running : s.running = true)
    (pending : s.closes ≠ []) : s.reload.closeServer = none := by
  have one := sound.one running
  obtain ⟨-, -, core, -⟩ := dropServer_spec sound.tended sound.reached one
  obtain ⟨server, rest, closes⟩ := List.exists_cons_of_ne_nil pending
  have own : server = s.server := sound.closes running server (by rw [closes]; exact List.mem_cons_self)
  rw [ServerLoop.reload, if_neg (by rw [one]; exact Nat.one_ne_zero)]
  generalize s.dropServer = t at core ⊢
  simp only [ServerLoop.core, Prod.mk.injEq] at core
  obtain ⟨number, -, -, same, -⟩ := core
  have left : t.closes = server :: rest := same.trans closes
  rw [ServerLoop.closeServer]
  dsimp only
  rw [left]
  exact if_neg fun both => absurd both.1 (by omega)

end ServerLoop

namespace Sample

/-- A daemon that is restarted, makes a user for a peer, which gives it a name, and closes when nobody asks
for more. -/
def idleEvents : List LoopEvent :=
  let ask (operation : ServerOperation) : LoopEvent :=
    .call ⟨⟨env, (call (.userNew 0)).faults, (call (.userNew 0)).process⟩, operation⟩
  [.reload, .busAcquired, ask (.request .user (.createNew (str ":1.1"))),
    ask (.method .user 0 (.setUserProperty (.username (some (str "bob"))))),
    .expireAdapter .user 0 1, .expireService .user 2, .expireService .group 1, .closeServer]

theorem run_sound_idle :
    ∃ s, (ServerLoop.start ⟨10, fun _ => 10⟩ system).run idleEvents = some s ∧ s.Sound system := by
  apply ServerLoop.run_sound
  decide +kernel

example : ((ServerLoop.start ⟨10, fun _ => 10⟩ system).run idleEvents).map
    (fun s => (s.refCount, s.running)) = some (0, false) := by
  decide +kernel

end Sample

end Gumd
