import Gumd.Disposable
import Gumd.UserService

/-!
# The life of the user service

The service is itself disposed of after a timeout.  Every handler keeps it for as long as it runs, and
the list of adapters keeps it while it is not empty.
-/

namespace Gumd

/-- The service with the part of it that is a `GumDisposable`. -/
structure KeptService where
  service : UserService
  disposable : GumDisposable

/-- What a service is asked for, a list of the users included. -/
inductive KeptOperation where
  | serve (operation : ServiceOperation)
  | getUserList (types : Option (List Str))
  deriving DecidableEq, Repr

structure KeptCall extends Context where
  operation : KeptOperation

namespace KeptService

/-- A service that has created no adapter, with the timeout it is constructed with and the references
others have to it. -/
def new (system : System) (timeout : UInt32) (others lastId : Nat) : KeptService where
  service := .new system
  disposable := (gumDisposableInit (others + 1) lastId).gumDisposableSetTimeout timeout

/-- `gum_disposable_set_auto_dispose` of the service. -/
def setAutoDispose (dispose : Bool) (s : KeptService) : KeptService :=
  { s with disposable := s.disposable.gumDisposableSetAutoDispose dispose }

/-- `_create_and_cache_user_adapter`. -/
def createAndCacheUserAdapter (s : KeptService) (user : Nat) (sender : Str) : Nat × KeptService :=
  let s := if s.service.peerUsers.length = 0 then s.setAutoDispose false else s
  let (adapter, service) := s.service.createAndCacheUserAdapter user sender
  (adapter, { s with service := service })

/-- `_handle_create_new_user`. -/
def handleCreateNewUser (s : KeptService) (c : Context) (sender : Str) :
    ServiceReply × KeptService :=
  let s := s.setAutoDispose false
  let (user, d) := s.service.daemon.userNew c
  let (adapter, s) :=
    { s with service := { s.service with daemon := d } }.createAndCacheUserAdapter user sender
  (.path adapter, s.setAutoDispose true)

/-- What `_handle_get_user` and `_handle_get_user_by_name` do for a uid. -/
def answerGetUser (s : KeptService) (c : Context) (sender : Str) (uid : UInt32) :
    ServiceReply × KeptService :=
  match s.service.getUserAdapterFromCache sender uid with
  | some adapter => (.path adapter, s)
  | none =>
      match s.service.daemon.getUser c uid with
      | (none, d) => (.error, { s with service := { s.service with daemon := d } })
      | (some user, d) =>
          let (adapter, s) := { s with service := { s.service with daemon := d } }
            |>.createAndCacheUserAdapter user sender
          (.path adapter, s)

/-- `_handle_get_user`. -/
def handleGetUser (s : KeptService) (c : Context) (sender : Str) (uid : UInt32) :
    ServiceReply × KeptService :=
  let (reply, s) := (s.setAutoDispose false).answerGetUser c sender uid
  (reply, s.setAutoDispose true)

/-- `_handle_get_user_by_name`. -/
def handleGetUserByName (s : KeptService) (c : Context) (sender : Str) (username : Option Str) :
    ServiceReply × KeptService :=
  let s := s.setAutoDispose false
  let (uid, w) := (gumdDaemonUserGetUidByName username).run
    ⟨s.service.daemon.system.files, c.faults, c.process, none⟩
  let (reply, s) := s.answerGetUser ⟨c.env, w.faults, w.process⟩ sender uid
  (reply, s.setAutoDispose true)

/-- `_handle_get_user_list`. -/
def handleGetUserList (s : KeptService) (c : Context) (types : Option (List Str)) :
    Option (List UInt32) × KeptService :=
  let s := s.setAutoDispose false
  let (users, _) := (gumdDaemonUserGetUserList c.env.config types).run
    ⟨s.service.daemon.system.files, c.faults, c.process, none⟩
  (users, s.setAutoDispose true)

/-- What both handlers of lost adapters end with. -/
def disposeIfUnused (s : KeptService) : KeptService :=
  if s.service.peerUsers.length = 0 then s.setAutoDispose true else s

/-- `_on_dbus_user_adapter_disposed`. -/
def onDbusUserAdapterDisposed (s : KeptService) (adapter : Nat) : KeptService :=
  disposeIfUnused { s with service := s.service.onDbusUserAdapterDisposed adapter }

/-- `_on_bus_name_lost`. -/
def onBusNameLost (s : KeptService) (peerName : Str) : KeptService :=
  disposeIfUnused { s with service := s.service.onBusNameLost peerName }

/-- The service after a call; the methods of an adapter are none of the service's own. -/
def step (s : KeptService) (c : KeptCall) : KeptService :=
  match c.operation with
  | .serve (.createNewUser sender) => (s.handleCreateNewUser c.toContext sender).2
  | .serve (.getUser sender uid) => (s.handleGetUser c.toContext sender uid).2
  | .serve (.getUserByName sender username) =>
      (s.handleGetUserByName c.toContext sender username).2
  | .serve (.dispose adapter) => s.onDbusUserAdapterDisposed adapter
  | .serve (.busNameLost peerName) => s.onBusNameLost peerName
  | .serve operation => { s with service := s.service.step ⟨c.toContext, operation⟩ }
  | .getUserList types => (s.handleGetUserList c.toContext types).2

abbrev Each (P : KeptService → KeptCall → Prop) : KeptService → List KeptCall → Prop :=
  Runs.Each step P

/-! ## What the counter leaves alone -/

theorem createAndCacheUserAdapter_service (s : KeptService) (user : Nat) (sender : Str) :
    (s.createAndCacheUserAdapter user sender).1 =
        (s.service.createAndCacheUserAdapter user sender).1 ∧
      (s.createAndCacheUserAdapter user sender).2.service =
        (s.service.createAndCacheUserAdapter user sender).2 := by
  rw [createAndCacheUserAdapter]
  split_ifs <;> exact ⟨rfl, rfl⟩

theorem answerGetUser_service (s : KeptService) (c : Context) (sender : Str) (uid : UInt32) :
    (s.answerGetUser c sender uid).1 = (s.service.handleGetUser c sender uid).1 ∧
      (s.answerGetUser c sender uid).2.service = (s.service.handleGetUser c sender uid).2 := by
  rw [answerGetUser, UserService.handleGetUser]
  cases s.service.getUserAdapterFromCache sender uid with
  | some adapter => exact ⟨rfl, rfl⟩
  | none =>
    obtain ⟨found, d⟩ := s.service.daemon.getUser c uid
    cases found with
    | none => exact ⟨rfl, rfl⟩
    | some user =>
      obtain ⟨adapter, service⟩ := createAndCacheUserAdapter_service
        { s with service := { s.service with daemon := d } } user sender
      exact ⟨congrArg ServiceReply.path adapter, service⟩

/-- Apart from its counter the service does what `UserService` says. -/
theorem service_step (s : KeptService) (c : Context) (operation : ServiceOperation) :
    (s.step ⟨c, .serve operation⟩).service = s.service.step ⟨c, operation⟩ := by
  have unused : ∀ t : KeptService, t.disposeIfUnused.service = t.service := by
    intro t
    rw [disposeIfUnused]
    split_ifs <;> rfl
  cases operation with
  | createNewUser sender => exact (createAndCacheUserAdapter_service _ _ sender).2
  | getUser sender uid => exact (answerGetUser_service _ c sender uid).2
  | getUserByName sender username => exact (answerGetUser_service _ _ sender _).2
  | dispose adapter => exact unused _
  | busNameLost peerName => exact unused _
  | setProperty adapter property => rfl
  | addUser adapter => rfl
  | deleteUser adapter remHomeDir => rfl
  | updateUser adapter => rfl

/-! ## The counter -/

/-- The counter is one while there are adapters and zero otherwise, and then alone a timer can be
armed. -/
structure KeptByAdapters (s : KeptService) : Prop where
  counter : s.disposable.keepObjCounter = if s.service.peerUsers = [] then 0 else 1
  armed : s.disposable.pending ≠ [] → s.service.peerUsers = []

/-- The invariant, while handlers that are running keep the service `n` times more. -/
structure Held (n : Int32) (s : KeptService) : Prop where
  sound : s.disposable.Sound
  alive : s.disposable.refCount ≠ 0
  unrefs : s.disposable.unrefs = 0
  stays : s.disposable.deleteLater = false
  counter : s.disposable.keepObjCounter = (if s.service.peerUsers = [] then 0 else 1) + n

variable {s : KeptService} {n : Int32}

theorem Held.keptByAdapters (held : s.Held 0) : s.KeptByAdapters := by
  have counter : s.disposable.keepObjCounter = if s.service.peerUsers = [] then 0 else 1 := by
    rw [held.counter, Int32.add_zero]
  refine ⟨counter, fun armed => ?_⟩
  have free := held.sound.unkept held.stays armed
  rw [counter] at free
  by_contra kept
  rw [if_neg kept] at free
  exact absurd free (by decide)

/-- A change of the service's counter. -/
theorem Held.setAutoDispose {m : Int32} (held : s.Held n) (dispose : Bool)
    (fits : dispose = false → s.disposable.keepObjCounter ≠ .maxValue) (counter : (s.setAutoDispose dispose).disposable.keepObjCounter =
      (if s.service.peerUsers = [] then 0 else 1) + m) : (s.setAutoDispose dispose).Held m := by
  obtain ⟨sound, alive, unrefs, stays, -⟩ := held
  obtain ⟨refCount, unrefs', deleteLater⟩ := s.disposable.setAutoDispose_frame dispose
  exact ⟨sound.gumDisposableSetAutoDispose alive ⟨fun _ _ _ _ => unrefs, fits⟩,
    fun gone => alive (refCount.symm.trans gone), unrefs'.trans unrefs, deleteLater.trans stays,
    counter⟩

/-- The adapters and at most two handlers keep the service, far from an overflow. -/
theorem kept_add (none : Prop) [Decidable none] (small : n = 0 ∨ n = 1) :
    (if none then 0 else 1) + n ≠ .maxValue ∧ (if none then 0 else 1) + (n + 1) ≠ 0 := by
  split_ifs <;> rcases small with rfl | rfl <;> decide

/-- A handler starts. -/
theorem Held.begin (held : s.Held n) (small : n = 0 ∨ n = 1) :
    (s.setAutoDispose false).Held (n + 1) := by
  apply held.setAutoDispose
  · intro _
    rw [held.counter]
    exact (kept_add _ small).1
  · rw [KeptService.setAutoDispose, GumDisposable.keepObjCounter_keep, held.counter, Int32.add_assoc]

/-- A handler ends. -/
theorem Held.finish (held : s.Held (n + 1)) (small : n = 0 ∨ n = 1) : (s.setAutoDispose true).Held n := by
  apply held.setAutoDispose
  · exact fun keeps => absurd keeps (by decide)
  · rw [KeptService.setAutoDispose, GumDisposable.keepObjCounter_release, held.counter,
      if_neg (kept_add _ small).2, ← Int32.add_assoc, Int32.add_sub_cancel]

/-- A change that neither makes nor empties the list of adapters. -/
theorem Held.of_peerUsers (held : s.Held n) {v : UserService}
    (same : v.peerUsers = [] ↔ s.service.peerUsers = []) :
    Held n { s with service := v } := by
  refine ⟨held.sound, held.alive, held.unrefs, held.stays, ?_⟩
  rw [held.counter]
  congr 1
  exact if_congr same.symm rfl rfl

theorem Held.createAndCacheUserAdapter (held : s.Held n) (small : n = 0 ∨ n = 1) (user : Nat) (sender : Str) :
    (s.createAndCacheUserAdapter user sender).2.Held n := by
  rw [KeptService.createAndCacheUserAdapter]
  by_cases empty : s.service.peerUsers = []
  · -- the first adapter keeps the service
    have zero : s.service.peerUsers.length = 0 := List.length_eq_zero_iff.mpr empty
    rw [if_pos zero]
    obtain ⟨sound, alive, unrefs, stays, counter⟩ := held.begin small
    refine ⟨sound, alive, unrefs, stays, ?_⟩
    change (s.setAutoDispose false).disposable.keepObjCounter =
      (if s.service.peerUsers ++ [_] = [] then 0 else 1) + n
    change _ = (if s.service.peerUsers = [] then 0 else 1) + (n + 1) at counter
    rw [counter, if_pos empty, if_neg (by simp), Int32.zero_add, Int32.add_comm]
  · have some : s.service.peerUsers.length ≠ 0 := fun zero =>
      empty (List.length_eq_zero_iff.mp zero)
    rw [if_neg some]
    refine held.of_peerUsers ?_
    change s.service.peerUsers ++ [_] = [] ↔ _
    simp [empty]

theorem Held.answerGetUser (held : s.Held n) (small : n = 0 ∨ n = 1) (c : Context) (sender : Str) (uid : UInt32) :
    (s.answerGetUser c sender uid).2.Held n := by
  rw [KeptService.answerGetUser]
  cases s.service.getUserAdapterFromCache sender uid with
  | some adapter => exact held
  | none =>
    obtain ⟨found, d⟩ := s.service.daemon.getUser c uid
    have kept : Held n { s with service := { s.service with daemon := d } } :=
      held.of_peerUsers Iff.rfl
    cases found with
    | none => exact kept
    | some user => exact kept.createAndCacheUserAdapter small user sender

/-- Adapters have gone: the last of them lets the service go. -/
theorem Held.disposeIfUnused {service : UserService} (held : s.Held 0)
    (fewer : s.service.peerUsers = [] → service.peerUsers = []) :
    (KeptService.disposeIfUnused { s with service := service }).Held 0 := by
  rw [KeptService.disposeIfUnused]
  by_cases empty : service.peerUsers = []
  · have zero : service.peerUsers.length = 0 := List.length_eq_zero_iff.mpr empty
    rw [if_pos zero]
    obtain ⟨sound, alive, unrefs, stays, counter⟩ := held
    obtain ⟨refCount, unrefs', deleteLater⟩ := s.disposable.setAutoDispose_frame true
    refine ⟨sound.gumDisposableSetAutoDispose alive
        ⟨fun _ _ _ _ => unrefs, fun keeps => absurd keeps (by decide)⟩,
      fun gone => alive (refCount.symm.trans gone), unrefs'.trans unrefs, deleteLater.trans stays, ?_⟩
    change (s.disposable.gumDisposableSetAutoDispose true).keepObjCounter =
      (if service.peerUsers = [] then 0 else 1) + 0
    rw [GumDisposable.keepObjCounter_release, counter, if_pos empty]
    by_cases none : s.service.peerUsers = []
    · rw [if_pos none]
      decide
    · rw [if_neg none]
      decide
  · have some : service.peerUsers.length ≠ 0 := fun zero =>
      empty (List.length_eq_zero_iff.mp zero)
    rw [if_neg some]
    exact held.of_peerUsers ⟨fun none => absurd none empty, fewer⟩

/-! ## Runs -/

section Adapters

/-! The methods of an adapter neither make nor end one. -/

variable (service : UserService) (c : Context) (adapter : Nat)

theorem peerUsers_setProperty (property : UserProperty) :
    (service.setProperty c adapter property).2.peerUsers = service.peerUsers := by
  rw [UserService.setProperty]
  split
  · rfl
  · split_ifs <;> rfl

theorem peerUsers_handleAddUser :
    (service.handleAddUser c adapter).2.peerUsers = service.peerUsers := by
  rw [UserService.handleAddUser]
  split
  · rfl
  · split <;> rfl

theorem peerUsers_handleUpdateUser :
    (service.handleUpdateUser c adapter).2.peerUsers = service.peerUsers := by
  rw [UserService.handleUpdateUser]
  split
  · rfl
  · split <;> rfl

theorem peerUsers_handleDeleteUser_eq_nil_iff (remHomeDir : Bool) :
    (service.handleDeleteUser c adapter remHomeDir).2.peerUsers = [] ↔ service.peerUsers = [] := by
  rw [UserService.handleDeleteUser]
  split
  · rfl
  · split
    · exact List.map_eq_nil_iff
    · rfl

end Adapters

theorem peerUsers_onDbusUserAdapterDisposed_of_nil {service : UserService}
    (none : service.peerUsers = []) (adapter : Nat) :
    (service.onDbusUserAdapterDisposed adapter).peerUsers = [] := by
  simp [UserService.onDbusUserAdapterDisposed, UserService.peerUser, none]

theorem peerUsers_onBusNameLost_of_nil {service : UserService} (none : service.peerUsers = [])
    (peerName : Str) : (service.onBusNameLost peerName).peerUsers = [] := by
  simp [UserService.onBusNameLost, none]

theorem Held.step (held : s.Held 0) (c : KeptCall) : (s.step c).Held 0 := by
  have began := held.begin (Or.inl rfl)
  rw [KeptService.step]
  cases op : c.operation with
  | getUserList types => exact began.finish (Or.inl rfl)
  | serve operation =>
    cases operation with
    | createNewUser sender =>
      have created := began.of_peerUsers
        (v := { s.service with daemon := (s.service.daemon.userNew c.toContext).2 }) Iff.rfl
      exact (created.createAndCacheUserAdapter (Or.inr rfl) _ sender).finish (Or.inl rfl)
    | getUser sender uid => exact (began.answerGetUser (Or.inr rfl) _ sender uid).finish (Or.inl rfl)
    | getUserByName sender name => exact (began.answerGetUser (Or.inr rfl) _ sender _).finish (Or.inl rfl)
    | dispose adapter =>
      exact held.disposeIfUnused fun none => peerUsers_onDbusUserAdapterDisposed_of_nil none adapter
    | busNameLost name =>
      exact held.disposeIfUnused fun none => peerUsers_onBusNameLost_of_nil none name
    | setProperty adapter property =>
      exact held.of_peerUsers (by rw [UserService.step, UserService.call, peerUsers_setProperty])
    | addUser adapter =>
      exact held.of_peerUsers (by rw [UserService.step, UserService.call, peerUsers_handleAddUser])
    | deleteUser adapter rem =>
      exact held.of_peerUsers (peerUsers_handleDeleteUser_eq_nil_iff _ _ _ rem)
    | updateUser adapter =>
      exact held.of_peerUsers
        (by rw [UserService.step, UserService.call, peerUsers_handleUpdateUser])

theorem held_new (system : System) (timeout : UInt32) (others lastId : Nat) :
    (new system timeout others lastId).Held 0 := by
  have alive : (gumDisposableInit (others + 1) lastId).refCount ≠ 0 := Nat.succ_ne_zero others
  have once : (gumDisposableInit (others + 1) lastId).ArmsOnce (.setTimeout timeout) :=
    fun _ _ _ => ⟨rfl, fun _ => rfl⟩
  have sound := (GumDisposable.sound_gumDisposableInit (others + 1) lastId).gumDisposableSetTimeout
    alive once
  obtain ⟨counter, refCount, unrefs, deleteLater⟩ :=
    (gumDisposableInit (others + 1) lastId).setTimeout_frame timeout
  exact ⟨sound, fun gone => alive (refCount.symm.trans gone), unrefs, deleteLater, counter⟩

end KeptService

/-- After every call the service's counter is one exactly while it has adapters, and its timer is armed
only while it has none. -/
theorem each_keptByAdapters (system : System) (timeout : UInt32) (others lastId : Nat)
    (calls : List KeptCall) :
    KeptService.Each (fun s c => (s.step c).KeptByAdapters)
      (.new system timeout others lastId) calls := by
  have all : ∀ s, s.Held 0 → KeptService.Each (fun s c => (s.step c).KeptByAdapters) s calls := by
    induction calls with
    | nil => exact fun _ _ => trivial
    | cons c rest ih => exact fun s held => ⟨(held.step c).keptByAdapters, ih _ (held.step c)⟩
  exact all _ (KeptService.held_new system timeout others lastId)

end Gumd
