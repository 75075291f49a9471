import Gumd.LineScope
import Gumd.Server
import Gumd.Simulation

/-!
# What a server does to the database

Every request of a peer comes down to calls of the daemon's operations, so the database files of a server
are those of a run of the system.  What all runs keep, a server keeps, whatever its peers ask for.
-/

namespace Gumd

open StateWp Accounts

/-! ## The requests as calls of operations -/

/-- A call of an operation that a request makes: its surroundings are those of the request, and it finds
the files readable if the request does. -/
structure Context.Covers (c : Context) (e : Call) : Prop where
  env : e.env = c.env
  readable : c.faults.read = .const true → e.Readable

/-- The second system is one the calls of a request lead to from the first. -/
def Context.Leads (c : Context) (s t : System) : Prop :=
  ∃ calls : List Call, t = s.run calls ∧ ∀ e ∈ calls, c.Covers e

namespace Context

variable {c : Context} {s t : System}

theorem leads_refl (c : Context) (s : System) : c.Leads s s :=
  ⟨[], rfl, fun _ mem => absurd mem List.not_mem_nil⟩

theorem leads_step (c : Context) (s : System) (operation : Operation) :
    c.Leads s (s.step (c.call operation)) := by
  refine ⟨[c.call operation], rfl, fun e mem => ?_⟩
  obtain rfl := List.mem_singleton.mp mem
  exact ⟨rfl, id⟩

/-- A part of a request runs in surroundings of its own. -/
theorem Leads.within {c' : Context} (leads : c'.Leads s t) (env : c'.env = c.env)
    (readable : c.faults.read = .const true → c'.faults.read = .const true) : c.Leads s t := by
  obtain ⟨calls, run, covers⟩ := leads
  exact ⟨calls, run, fun e mem => ⟨(covers e mem).env.trans env, (covers e mem).readable ∘ readable⟩⟩

end Context

namespace GumdDaemon

variable {k : ObjectKind}

theorem leads_objectNew (d : GumdDaemon) (k : ObjectKind) (c : Context) :
    c.Leads d.system (d.objectNew k c).2.system := by
  cases k <;> exact c.leads_step d.system _

theorem leads_getObject (d : GumdDaemon) (k : ObjectKind) (c : Context) (id : UInt32) :
    c.Leads d.system (d.getObject k c id).2.system := by
  cases k
  · rw [getObject, getUser]
    cases d.users id with
    | some user => exact c.leads_refl _
    | none =>
      dsimp only
      split_ifs <;> exact c.leads_step d.system (.userNewByUid d.userCount id)
  · rw [getObject, getGroup]
    cases d.groups id with
    | some group => exact c.leads_refl _
    | none =>
      dsimp only
      split_ifs <;> exact c.leads_step d.system (.groupNewByGid d.groupCount id)

theorem leads_handle (operation : MethodOperation k) (c : Context) (d : GumdDaemon) (i : Nat) :
    c.Leads d.system (operation.handle c d i).2.system := by
  have members : ∀ operation, c.Leads d.system (d.changeMembers c i operation).2.system := by
    intro operation
    rw [changeMembers]
    split_ifs
    · exact c.leads_step d.system operation
    · exact c.leads_refl _
  have property : ∀ (writable : Prop) [Decidable writable] (operation : Nat → Operation),
      c.Leads d.system (setProperty writable operation c d i).2.system := by
    intro writable _ operation
    rw [setProperty]
    split_ifs
    · exact c.leads_step d.system (operation i)
    · exact c.leads_refl _
  cases operation with
  | setUserProperty value => exact property value.Writable _
  | addUser =>
    simp only [MethodOperation.handle, UserAdapter.handleAddUser, addUser]
    split_ifs
    all_goals first
      | exact c.leads_refl _
      | exact c.leads_step d.system (.userAdd i)
  | deleteUser remHomeDir =>
    simp only [MethodOperation.handle, UserAdapter.handleDeleteUser, deleteUser]
    split_ifs
    · exact c.leads_step d.system (.userDelete i remHomeDir)
    · exact c.leads_refl _
  | updateUser =>
    simp only [MethodOperation.handle, UserAdapter.handleUpdateUser, updateUser]
    split_ifs
    · exact c.leads_step d.system (.userUpdate i)
    · exact c.leads_refl _
  | setGroupProperty value => exact property value.Writable _
  | addGroup preferredGid =>
    simp only [MethodOperation.handle, GroupAdapter.handleAddGroup, addGroup]
    split_ifs
    all_goals first
      | exact c.leads_refl _
      | exact c.leads_step d.system (.groupAdd i gumGroupInvalidGid)
  | deleteGroup =>
    simp only [MethodOperation.handle, GroupAdapter.handleDeleteGroup, deleteGroup]
    split_ifs
    · exact c.leads_step d.system (.groupDelete i)
    · exact c.leads_refl _
  | updateGroup =>
    simp only [MethodOperation.handle, GroupAdapter.handleUpdateGroup, updateGroup]
    split_ifs
    · exact c.leads_step d.system (.groupUpdate i)
    · exact c.leads_refl _
  | addMember uid addAsAdmin => exact members (.groupAddMember i uid addAsAdmin)
  | deleteMember uid => exact members (.groupDeleteMember i uid)

theorem system_onObjectDisposed (d : GumdDaemon) (k : ObjectKind) (i : Nat) :
    (d.onObjectDisposed k i).system = d.system := by
  cases k <;> rfl

end GumdDaemon

/-- A lookup of an id leaves the files as readable as they were. -/
theorem balanced_getIdByName (k : ObjectKind) (name : Option Str) (w : World) :
    w.Balanced ((k.getIdByName name).run w).2 := by
  cases name with
  | none => cases k <;> exact .refl w
  | some name =>
    have locked : ∀ {ε : Type} (m : StateM World (Option ε)) (id : ε → UInt32), Looks m →
        wp (do
          if !(← gumLockPwdfLock) then return gumUserInvalidUid
          let found ← m
          let _ ← gumLockPwdfUnlock
          return (found.map id).getD gumUserInvalidUid) (fun _ t => w.Balanced t) w := by
      intro ε m id looks
      rw [wp_bind, wp_gumLockPwdfLock, wp_guard]
      refine ⟨fun denied => (World.quiet_of_refused denied).balanced, fun granted => ?_⟩
      rw [wp_bind]
      refine wp_mono (looks w.afterLock) ?_
      intro found t quiet
      rw [wp_bind, wp_gumLockPwdfUnlock, wp_pure]
      exact World.balanced_of_released granted (quiet.balanced.released t.released_afterUnlock)
    cases k
    · exact locked _ (·.pwUid) (looks_gumFileGetpwnam (some name))
    · exact locked _ (·.grGid) (looks_gumFileGetgrnam (some name))

namespace Services

theorem leads_handleGet (s : Services) (k : ObjectKind) (c : Context) (sender : Str) (id : UInt32) :
    c.Leads s.daemon.system (s.handleGet k c sender id).2.daemon.system := by
  have leads := s.daemon.leads_getObject k c id
  rw [handleGet]
  cases s.getAdapterFromCache k sender id with
  | some adapter => exact c.leads_refl _
  | none =>
    generalize s.daemon.getObject k c id = r at leads ⊢
    obtain ⟨found, d⟩ := r
    cases found with
    | none => exact leads
    | some object => exact leads

theorem system_release (s : Services) (k : ObjectKind) (p : Peer) :
    (s.release k p).daemon.system = s.daemon.system := by
  rw [release]
  dsimp only
  split_ifs
  · rfl
  · exact GumdDaemon.system_onObjectDisposed _ _ _

theorem system_releases (going : List Peer) (s : Services) (k : ObjectKind) :
    (going.foldl (release · k) s).daemon.system = s.daemon.system := by
  induction going generalizing s with
  | nil => rfl
  | cons p rest ih =>
    rw [List.foldl_cons, ih, system_release]

theorem leads_onObject (s : Services) {k : ObjectKind} (adapter : Nat) (operation : MethodOperation k)
    (c : Context) :
    c.Leads s.daemon.system (s.onObject k adapter (operation.handle c)).2.daemon.system := by
  rw [onObject]
  cases s.peer k adapter with
  | none => exact c.leads_refl _
  | some p => exact GumdDaemon.leads_handle operation c s.daemon p.object

/-- A request comes down to calls of operations. -/
theorem leads_call (s : Services) (c : ServerCall) :
    c.toContext.Leads s.daemon.system (s.call c).2.daemon.system := by
  rw [call]
  cases c.operation with
  | request k operation =>
    cases operation with
    | createNew sender => exact s.daemon.leads_objectNew k c.toContext
    | get sender id => exact s.leads_handleGet k c.toContext sender id
    | getByName sender name =>
      have balanced := balanced_getIdByName k name
        ⟨s.daemon.system.files, c.faults, c.process, none⟩
      exact (s.leads_handleGet k _ sender _).within rfl balanced.read
    | dispose adapter =>
      have same : (s.onAdapterDisposed k adapter).daemon.system = s.daemon.system := by
        rw [onAdapterDisposed]
        cases s.peer k adapter with
        | none => rfl
        | some p => exact s.system_release k p
      exact same ▸ c.toContext.leads_refl _
    | busNameLost peerName =>
      have same : (s.onBusNameLost k peerName).daemon.system = s.daemon.system :=
        system_releases _ s k
      exact same ▸ c.toContext.leads_refl _
  | method k adapter operation =>
    dsimp only
    split_ifs
    · have leads := s.leads_onObject adapter operation c.toContext
      rw [onDeleted]
      generalize s.onObject k adapter (operation.handle c.toContext) = r at leads ⊢
      dsimp only
      split_ifs <;> exact leads
    · exact s.leads_onObject adapter operation c.toContext

/-- The system of the services after a list of calls is that of a run of operations. -/
theorem leads_serve (s : Services) (calls : List ServerCall) :
    ∃ operations : List Call, (s.serve calls).2.daemon.system = s.daemon.system.run operations ∧
      ∀ e ∈ operations, ∃ c ∈ calls, c.toContext.Covers e := by
  induction calls generalizing s with
  | nil => exact ⟨[], rfl, fun _ mem => absurd mem List.not_mem_nil⟩
  | cons c rest ih =>
    obtain ⟨first, reached, covers⟩ := s.leads_call c
    obtain ⟨later, reached', covers'⟩ := ih (s.call c).2
    refine ⟨first ++ later, ?_, fun e mem => ?_⟩
    · rw [System.run, List.foldl_append]
      change ((s.call c).2.serve rest).2.daemon.system = _
      rw [reached', reached]
      rfl
    · rcases List.mem_append.mp mem with mem | mem
      · exact ⟨c, List.mem_cons_self, covers e mem⟩
      · obtain ⟨c', inside, covered⟩ := covers' e mem
        exact ⟨c', List.mem_cons_of_mem _ inside, covered⟩

end Services

/-- A server whose files can be read answers all calls of its peers that reach no object with a handler
of an adapter that is gone, and leaves files in which names and ids are distinct, every user has a
primary group, and every line is one of its format. -/
theorem Server.serve_keepsDatabase {system : System} {calls : List ServerCall}
    (readable : ∀ c ∈ calls, c.faults.read = .const true)
    (plain : ∀ c ∈ calls, c.env.PlainCrypt) (users : ∀ i, system.users i = gumdDaemonUserNew)
    (groups : ∀ i, system.groups i = gumdDaemonGroupNew) (printable : system.files.Printable .fields)
    (distinct : system.files.Distinct) (linked : system.files.PrimaryGroups)
    (safe : (Server.new system).SafeRun calls) :
    ∃ replies s, (Server.serve calls).run (.new system) = some (replies, s) ∧
      s.daemon.system.files.Distinct ∧ s.daemon.system.files.PrimaryGroups ∧
      s.daemon.system.files.Lines := by
  obtain ⟨replies, s, run, answers, -⟩ := Server.wp_serve (Server.sound_new system) safe
  obtain ⟨operations, reached, covers⟩ := (Services.new system).leads_serve calls
  have final : s.daemon.system = system.run operations := by
    have same := congrArg (·.2.daemon.system) answers
    exact same.trans reached
  have readable' : ∀ e ∈ operations, e.Readable := by
    intro e mem
    obtain ⟨c, inside, covered⟩ := covers e mem
    exact covered.readable (readable c inside)
  have plain' : ∀ e ∈ operations, e.env.Plain .fields := by
    intro e mem
    obtain ⟨c, inside, covered⟩ := covers e mem
    exact covered.env ▸ (plain c inside).plain
  have leads := leads_run readable' system
  have start := System.printable_new printable users groups
  rw [← Files.unique_accounts] at distinct
  rw [← Files.linked_accounts] at linked
  refine ⟨replies, s, run, ?_⟩
  rw [final, ← Files.unique_accounts, ← Files.linked_accounts]
  refine ⟨leads.invariant Unique.step distinct, leads.invariant Linked.step linked, ?_⟩
  exact (printable_run plain' start).files.lines

namespace Sample

/-- Two peers, and what they ask for: one adds a user, the other makes it a member of a group and deletes
it; then the first disappears. -/
def twoPeers : List ServerCall :=
  let ask (operation : ServerOperation) : ServerCall :=
    ⟨⟨env, (call (.userNew 0)).faults, (call (.userNew 0)).process⟩, operation⟩
  [ask (.request .user (.createNew (str ":1.1"))),
    ask (.method .user 0 (.setUserProperty (.username (some (str "bob"))))),
    ask (.method .user 0 (.setUserProperty (.usertype 8))), ask (.method .user 0 .addUser),
    ask (.request .group (.getByName (str ":1.2") (some (str "bob")))),
    ask (.method .group 0 (.addMember 1000 false)),
    ask (.request .user (.get (str ":1.2") 1001)),
    ask (.method .user 1 (.deleteUser false)), ask (.request .user (.busNameLost (str ":1.1"))),
    ask (.request .user (.dispose 1))]

theorem serve_keepsDatabase_twoPeers : ∃ replies s, (Server.serve twoPeers).run
    (.new { system with users := fun _ => gumdDaemonUserNew, groups := fun _ => gumdDaemonGroupNew }) =
      some (replies, s) ∧ s.daemon.system.files.Distinct ∧ s.daemon.system.files.PrimaryGroups ∧
      s.daemon.system.files.Lines := by
  apply Server.serve_keepsDatabase _ _ (fun _ => rfl) (fun _ => rfl) printable_files
  · exact ⟨by decide, by decide, by decide, by decide⟩
  · simp [Files.PrimaryGroups, system, files, alice]
  · decide +kernel
  · simp [twoPeers, call]
  · intro c mem
    have same : c.env = env := by
      simp only [twoPeers, List.mem_cons, List.not_mem_nil, or_false] at mem
      rcases mem with rfl | rfl | rfl | rfl | rfl | rfl | rfl | rfl | rfl | rfl <;> rfl
    exact same ▸ plainCrypt

end Sample

end Gumd
