import Gumd.Lib.Runs
import Mathlib.Data.Option.Basic
import Mathlib.Tactic.SplitIfs

/-!
# Asynchronous calls of the client library

A `GumUser` or `GumGroup` of a client has one slot for the call that is going on.  The reply of the
daemon puts an idle source into the client's main loop, and the source calls the client back.  Nothing
but the object holds what the source will need: a source that is dispatched when the object is gone
reads freed memory.  The two kinds of objects differ in what freeing the slot does to the source.
-/

namespace Gumd

/-- The error of a call as the client sees it. -/
inductive ClientError where
  | cancelled
  | failed (code : Nat)
  deriving DecidableEq, Repr

/-- `GumUserOp` and `GumGroupOp`; the callback stands for the function and its user data. -/
structure ClientOp where
  callback : Option Nat
  error : Option ClientError
  cbId : Nat
  deriving DecidableEq, Repr

/-- The private data of the object: whether it has a proxy of its remote object, and the slot. -/
structure ClientObject where
  proxy : Bool
  op : Option ClientOp
  deriving DecidableEq, Repr

/-- A call that has been sent, with the callback the client has passed for it.  The reply of one that
creates the remote object is also used to make the proxy. -/
structure SentCall where
  number : Nat
  creates : Bool
  callback : Option Nat
  deriving DecidableEq, Repr

/-- A client with one object, the calls it waits for and the sources of its main loop.  `invoked` are
the callbacks that have been called, and `answered` those whose calls have been answered. -/
structure Client where
  object : Option ClientObject
  sent : List SentCall
  sources : List Nat
  nextCall : Nat
  nextSource : Nat
  invoked : List (Nat × Option ClientError)
  answered : List (Nat × Option ClientError)
  deriving DecidableEq, Repr

/-- What the client does with its reference to the object. -/
inductive ClientAction where
  | call (callback : Option Nat)
  | unref
  deriving DecidableEq, Repr

/-- What happens in the client: it acts, a call is answered, the remote object goes, or the main loop
dispatches a source, and the callback acts. -/
inductive ClientEvent where
  | act (action : ClientAction)
  | reply (number : Nat) (error : Option ClientError) (proxy : Bool)
  | destroyed
  | dispatch (source : Nat) (actions : List ClientAction)
  deriving DecidableEq, Repr

namespace Client

/-! ## The slot -/

/-- `g_source_remove`. -/
def gSourceRemove (id : Nat) (c : Client) : Client :=
  { c with sources := c.sources.filter (· ≠ id) }

/-- `_free_op`; only that of a user removes the source. -/
def freeOp (removes : Bool) (self : ClientObject) (c : Client) : Client :=
  match self.op with
  | none => { c with object := some self }
  | some op =>
      let c := if removes ∧ op.cbId > 0 then c.gSourceRemove op.cbId else c
      { c with object := some { self with op := none } }

/-- `_create_op`. -/
def createOp (removes : Bool) (self : ClientObject) (callback : Option Nat) (c : Client) : Client :=
  let c := c.freeOp removes self
  { c with object := some { self with op := some ⟨callback, none, 0⟩ } }

/-- `_setup_idle_callback`, which reads the slot. -/
def setupIdleCallback (self : ClientObject) (error : Option ClientError) (c : Client) :
    Option Client :=
  self.op.map fun op =>
    if op.callback.isNone then { c with object := some self }
    else { c with
      object := some { self with op := some ⟨op.callback, error.or op.error, c.nextSource⟩ }
      sources := c.sources ++ [c.nextSource]
      nextSource := c.nextSource + 1 }

/-! ## Actions -/

/-- `gum_user_add`, `gum_user_delete`, `gum_user_update` and their like, by a client that has a
reference. -/
def call (removes : Bool) (callback : Option Nat) (c : Client) : Client :=
  match c.object with
  | none => c
  | some self =>
      if self.proxy then
        let c := c.createOp removes self callback
        { c with sent := c.sent ++ [⟨c.nextCall, false, callback⟩], nextCall := c.nextCall + 1 }
      else c

/-- The last `g_object_unref`: `_dispose` removes the source and cancels the calls. -/
def unref (c : Client) : Client :=
  match c.object with
  | none => c
  | some self =>
      let c := self.op.elim c fun op => if op.cbId > 0 then c.gSourceRemove op.cbId else c
      { c with object := none }

def act (removes : Bool) (c : Client) : ClientAction → Client
  | .call callback => c.call removes callback
  | .unref => c.unref

/-! ## Events -/

/-- `_on_new_user_cb`, `_on_user_add_cb` and their like.  The calls of an object that is gone have been
cancelled, and a cancelled call is not looked at. -/
def reply (number : Nat) (error : Option ClientError) (proxy : Bool) (c : Client) : Option Client :=
  match c.sent.find? (·.number = number) with
  | none => some c
  | some sent =>
      let c := { c with sent := c.sent.filter (·.number ≠ number) }
      match c.object with
      | none => some c
      | some self =>
          if error = some .cancelled then some c
          else
            let c := { c with
              answered := c.answered ++ (sent.callback.map fun callback => (callback, error)).toList }
            -- `_create_dbus_user` has no way to report that it failed
            let self := if sent.creates ∧ error.isNone then { self with proxy := proxy } else self
            c.setupIdleCallback self error

/-- `_on_user_remote_object_destroyed`. -/
def onRemoteObjectDestroyed (c : Client) : Client :=
  { c with object := c.object.map fun self => { self with proxy := false } }

/-- What `_trigger_callback` does after the callback: it writes the slot again. -/
def clearCbId (c : Client) : Option Client :=
  c.object.bind fun self => self.op.map fun op =>
    { c with object := some { self with op := some { op with cbId := 0 } } }

/-- The call of a callback. -/
def invoke (callback : Nat) (error : Option ClientError) (c : Client) : Client :=
  { c with invoked := c.invoked ++ [(callback, error)] }

/-- `_trigger_callback`; a source is dispatched with the object it has been added for. -/
def triggerCallback (removes : Bool) (actions : List ClientAction) (c : Client) : Option Client :=
  c.object.bind fun self => self.op.bind fun op =>
    match op.callback with
    | none => c.clearCbId
    | some callback =>
        (actions.foldl (act removes) (c.invoke callback op.error)).clearCbId

/-- The main loop dispatches a source, and destroys it as the callback returns `FALSE`. -/
def dispatch (removes : Bool) (source : Nat) (actions : List ClientAction) (c : Client) :
    Option Client :=
  if source ∈ c.sources then (c.triggerCallback removes actions).map (gSourceRemove source)
  else some c

/-- The client after an event, if no freed or missing memory is read. -/
def step (removes : Bool) (c : Client) : ClientEvent → Option Client
  | .act action => some (c.act removes action)
  | .reply number error proxy => c.reply number error proxy
  | .destroyed => some c.onRemoteObjectDestroyed
  | .dispatch source actions => c.dispatch removes source actions

/-- The client after the events. -/
def run (removes : Bool) (c : Client) (events : List ClientEvent) : Option Client :=
  events.foldlM (step removes) c

end Client

/-! ## Users and groups -/

/-- `_free_op` of `gum-user.c` removes the source of the slot. -/
def GumUser.removesSource : Bool := true

/-- `_free_op` of `gum-group.c` leaves it, and only `_dispose` removes it. -/
def GumGroup.removesSource : Bool := false

/-- `gum_user_create`, `gum_user_get` and `gum_user_get_by_name`, and those of groups: a new object
whose first call makes its remote object. -/
def Client.created (callback : Option Nat) : Client where
  object := some ⟨false, some ⟨callback, none, 0⟩⟩
  sent := [⟨0, true, callback⟩]
  sources := []
  nextCall := 1
  nextSource := 1
  invoked := []
  answered := []

/-- `gum_user_create_sync` and its like: an object with its remote object and no call. -/
def Client.createdSync : Client where
  object := some ⟨true, none⟩
  sent := []
  sources := []
  nextCall := 0
  nextSource := 1
  invoked := []
  answered := []

/-! ## Patient clients -/

/-- A call would be sent. -/
def Client.CanCall (c : Client) : Prop := ∃ self ∈ c.object, self.proxy = true

/-- In a callback a client makes a call when all others have been answered, and does not give up the
object. -/
def ClientAction.InCallback (c : Client) : ClientAction → Prop
  | .call _ => c.CanCall → c.sent = []
  | .unref => False

/-- A client makes a call when all others have been answered.  It may also do without their callbacks
(`loses`), as long as freeing the slot removes their sources. -/
def ClientEvent.Patient (removes : Bool) (loses : Prop) (c : Client) : ClientEvent → Prop
  | .act (.call _) => c.CanCall → c.sent = [] ∧ (c.sources = [] ∨ removes = true ∧ loses)
  | .act .unref => c.sources = [] ∨ loses
  | .dispatch _ actions => ∀ callback error,
      Runs.Each (Client.act removes) ClientAction.InCallback (c.invoke callback error) actions
  | .reply .. | .destroyed => True

namespace Client

/-- How what has been reported relates to what has been answered. -/
structure Reporting (loses : Prop)
    (R : List (Nat × Option ClientError) → List (Nat × Option ClientError) → Prop) : Prop where
  refl : R [] []
  append : ∀ {a b} x, R a b → R (a ++ [x]) (b ++ [x])
  lose : loses → ∀ {a b x}, R (a ++ [x]) b → R a b

theorem reporting_sublist (loses : Prop) : Reporting loses List.Sublist where
  refl := .slnil
  append x sub := sub.append_right [x]
  lose _ _ _ x sub := (List.sublist_append_left _ [x]).trans sub

theorem reporting_eq : Reporting False Eq where
  refl := rfl
  append x same := by rw [same]
  lose lost := lost.elim

section Phases

variable {removes : Bool} {loses : Prop}
  {R : List (Nat × Option ClientError) → List (Nat × Option ClientError) → Prop} {c : Client}

/-- The states of a patient client: its object is gone, no call is going on, one is waited for, or its
callback is scheduled. -/
inductive Phase (R : List (Nat × Option ClientError) → List (Nat × Option ClientError) → Prop)
    (c : Client) : Prop
  | gone (object : c.object = none) (sources : c.sources = []) (reported : R c.invoked c.answered)
  | idle {proxy op} (object : c.object = some ⟨proxy, op⟩) (cleared : ∀ o ∈ op, o.cbId = 0)
      (sent : c.sent = []) (sources : c.sources = []) (reported : R c.invoked c.answered)
  | waiting {proxy call} (object : c.object = some ⟨proxy, some ⟨call.callback, none, 0⟩⟩)
      (sent : c.sent = [call]) (sources : c.sources = []) (reported : R c.invoked c.answered)
  | scheduled {proxy callback error id}
      (object : c.object = some ⟨proxy, some ⟨some callback, error, id⟩⟩) (valid : 0 < id)
      (sent : c.sent = []) (sources : c.sources = [id])
      (reported : R (c.invoked ++ [(callback, error)]) c.answered)

structure Sound (R : List (Nat × Option ClientError) → List (Nat × Option ClientError) → Prop)
    (c : Client) : Prop where
  phase : c.Phase R
  valid : 0 < c.nextSource

/-- While a source is dispatched the slot is the one it was scheduled for, or that of a call the callback
has made. -/
inductive Dispatching
    (R : List (Nat × Option ClientError) → List (Nat × Option ClientError) → Prop)
    (source : Nat) (c : Client) : Prop
  | own {proxy op} (object : c.object = some ⟨proxy, some op⟩) (sent : c.sent = [])
      (sources : ∀ id ∈ c.sources, id = source) (reported : R c.invoked c.answered)
      (valid : 0 < c.nextSource)
  | other {proxy call} (object : c.object = some ⟨proxy, some ⟨call.callback, none, 0⟩⟩)
      (sent : c.sent = [call]) (sources : ∀ id ∈ c.sources, id = source)
      (reported : R c.invoked c.answered) (valid : 0 < c.nextSource)

/-! ### One event -/

/-- A call that is sent. -/
theorem call_sent {callback : Option Nat} {op : Option ClientOp}
    (object : c.object = some ⟨true, op⟩) : ∃ sources : List Nat,
      c.call removes callback = { c with
        object := some ⟨true, some ⟨callback, none, 0⟩⟩
        sources := sources
        sent := c.sent ++ [⟨c.nextCall, false, callback⟩]
        nextCall := c.nextCall + 1 } ∧
      (∀ id ∈ sources, id ∈ c.sources) ∧
      (removes = true → ∀ o ∈ op, 0 < o.cbId → o.cbId ∉ sources) := by
  cases op with
  | none =>
    refine ⟨c.sources, ?_, fun _ => id, nofun⟩
    rw [call, object]
    rfl
  | some o =>
    by_cases removed : removes = true ∧ o.cbId > 0
    · refine ⟨c.sources.filter (· ≠ o.cbId), ?_, fun _ mem => (List.mem_filter.mp mem).1, ?_⟩
      · rw [call, object]
        simp only [if_true, createOp, freeOp, if_pos removed]
        rfl
      · intro _ other mem _ kept
        obtain rfl := Option.some.inj mem
        simpa using (List.mem_filter.mp kept).2
    · refine ⟨c.sources, ?_, fun _ => id, ?_⟩
      · rw [call, object]
        simp only [if_true, createOp, freeOp, if_neg removed]
      · intro yes other mem valid
        obtain rfl := Option.some.inj mem
        exact absurd ⟨yes, valid⟩ removed

/-- A call that is refused. -/
theorem call_refused {callback : Option Nat} (refused : ¬c.CanCall) :
    c.call removes callback = c := by
  rw [call]
  cases object : c.object with
  | none => rfl
  | some self =>
    dsimp only
    rw [if_neg fun proxy => refused ⟨self, object, proxy⟩]

theorem eq_nil_of_subset {sources : List Nat} {id : Nat} (own : ∀ i ∈ sources, i = id)
    (other : id ∉ sources) : sources = [] := by
  rw [List.eq_nil_iff_forall_not_mem]
  intro i mem
  exact other (own i mem ▸ mem)

theorem Sound.call (reporting : Reporting loses R) (sound : c.Sound R) {callback : Option Nat}
    (patient : (ClientEvent.act (.call callback)).Patient removes loses c) :
    (c.call removes callback).Sound R := by
  by_cases can : c.CanCall
  swap
  · rwa [call_refused can]
  obtain ⟨unsent, waits⟩ := patient can
  obtain ⟨⟨proxy, op⟩, object, rfl⟩ := can
  obtain ⟨sources, called, kept, removed⟩ := @call_sent removes c callback op object
  rw [called]
  refine ⟨?_, sound.valid⟩
  have fresh : c.sent ++ [(⟨c.nextCall, false, callback⟩ : SentCall)] =
      [⟨c.nextCall, false, callback⟩] := by rw [unsent, List.nil_append]
  have none_of_none : c.sources = [] → sources = [] := by
    intro empty
    rw [empty] at kept
    exact List.eq_nil_iff_forall_not_mem.mpr fun i mem => absurd (kept i mem) List.not_mem_nil
  cases sound.phase with
  | gone gone => cases object.symm.trans gone
  | idle _ _ _ empty reported => exact .waiting rfl fresh (none_of_none empty) reported
  | waiting _ sent => cases unsent.symm.trans sent
  | @scheduled proxy callback' error id held valid _ single reported =>
    rcases waits with empty | ⟨removes, lossy⟩
    · cases empty.symm.trans single
    · have same : op = some ⟨some callback', error, id⟩ :=
        (ClientObject.mk.inj (Option.some.inj (object.symm.trans held))).2
      have gone := removed removes _ same valid
      have own : ∀ i ∈ sources, i = id := fun i mem => List.mem_singleton.mp (single ▸ kept i mem)
      exact .waiting rfl fresh (eq_nil_of_subset own gone) (reporting.lose lossy reported)

theorem Sound.unref (reporting : Reporting loses R) (sound : c.Sound R)
    (patient : (ClientEvent.act .unref).Patient removes loses c) : c.unref.Sound R := by
  rw [Client.unref]
  cases sound.phase with
  | gone object =>
    rw [object]
    exact sound
  | @idle proxy op object cleared sent sources reported =>
    rw [object]
    refine ⟨?_, ?_⟩
    · cases op with
      | none => exact .gone rfl sources reported
      | some o =>
        have zero := cleared o rfl
        simp only [Option.elim_some, zero, gt_iff_lt, Nat.lt_irrefl, if_false]
        exact .gone rfl sources reported
    · cases op with
      | none => exact sound.valid
      | some o =>
        simp only [Option.elim_some]
        split_ifs <;> exact sound.valid
  | waiting object sent sources reported =>
    rw [object]
    exact ⟨.gone rfl sources reported, sound.valid⟩
  | @scheduled proxy callback error id object valid sent sources reported =>
    rw [object]
    simp only [Option.elim_some, gt_iff_lt, valid, if_true]
    refine ⟨.gone rfl ?_ ?_, sound.valid⟩
    · simp [gSourceRemove, sources]
    · rcases patient with empty | lossy
      · cases empty.symm.trans sources
      · exact reporting.lose lossy reported

/-- The reply of the only call. -/
theorem Sound.reply (reporting : Reporting loses R) (sound : c.Sound R) (number : Nat)
    (error : Option ClientError) (proxy : Bool) :
    ∃ c', c.reply number error proxy = some c' ∧ c'.Sound R := by
  rw [Client.reply]
  cases found : c.sent.find? (·.number = number) with
  | none => exact ⟨c, rfl, sound⟩
  | some sent =>
    have mem := List.mem_of_find?_eq_some found
    have own : sent.number = number := by simpa using List.find?_some found
    dsimp only
    cases sound.phase with
    | gone object sources reported =>
      rw [object]
      exact ⟨_, rfl, .gone rfl sources reported, sound.valid⟩
    | idle _ _ unsent =>
      rw [unsent] at mem
      cases mem
    | scheduled _ _ unsent =>
      rw [unsent] at mem
      cases mem
    | @waiting proxy' call object single sources reported =>
      rw [single] at mem
      obtain rfl := List.mem_singleton.mp mem
      have rest : c.sent.filter (·.number ≠ number) = [] := by simp [single, own]
      rw [object, rest]
      dsimp only
      split_ifs with cancelled created
      · refine ⟨_, rfl, ?_, sound.valid⟩
        exact .idle rfl (fun o mem => Option.some.inj mem ▸ rfl) rfl sources reported
      all_goals
        rw [setupIdleCallback, Option.map_some]
        refine ⟨_, rfl, ?_⟩
        cases given : sent.callback with
        | none =>
          refine ⟨.idle rfl ?_ rfl sources ?_, sound.valid⟩
          · exact fun o mem => Option.some.inj mem ▸ rfl
          · simpa using reported
        | some callback =>
          refine ⟨.scheduled rfl sound.valid rfl ?_ ?_, Nat.succ_pos _⟩
          · simp [sources]
          · simpa using reporting.append (callback, error) reported

theorem Sound.onRemoteObjectDestroyed (sound : c.Sound R) : c.onRemoteObjectDestroyed.Sound R := by
  rw [Client.onRemoteObjectDestroyed]
  refine ⟨?_, sound.valid⟩
  cases sound.phase with
  | gone object sources reported => exact .gone (by rw [object]; rfl) sources reported
  | idle object cleared sent sources reported =>
    exact .idle (by rw [object]; rfl) cleared sent sources reported
  | waiting object sent sources reported =>
    exact .waiting (by rw [object]; rfl) sent sources reported
  | scheduled object valid sent sources reported =>
    exact .scheduled (by rw [object]; rfl) valid sent sources reported

/-! ### A dispatch -/

theorem Dispatching.act {source : Nat} (dispatching : c.Dispatching R source)
    {action : ClientAction} (patient : action.InCallback c) :
    (c.act removes action).Dispatching R source := by
  cases action with
  | unref => exact patient.elim
  | call callback =>
    rw [Client.act]
    by_cases can : c.CanCall
    swap
    · rwa [call_refused can]
    have unsent := patient can
    obtain ⟨⟨proxy, op⟩, object, rfl⟩ := can
    obtain ⟨sources, called, kept, -⟩ := @call_sent removes c callback op object
    rw [called]
    cases dispatching with
    | own _ _ own reported valid =>
      refine @Dispatching.other _ _ _ _ ⟨c.nextCall, false, callback⟩ rfl ?_
        (fun i mem => own i (kept i mem)) reported valid
      change c.sent ++ [_] = [_]
      rw [unsent, List.nil_append]
    | other _ sent => cases unsent.symm.trans sent

theorem Dispatching.acts {source : Nat} {actions : List ClientAction} {c : Client}
    (dispatching : c.Dispatching R source)
    (patient : Runs.Each (Client.act removes) ClientAction.InCallback c actions) :
    (actions.foldl (Client.act removes) c).Dispatching R source :=
  patient.foldl (fun _ _ patient dispatching => dispatching.act patient) dispatching

/-- The end of a dispatch. -/
theorem Dispatching.ended {source : Nat} (dispatching : c.Dispatching R source) :
    ∃ c', c.clearCbId = some c' ∧ (c'.gSourceRemove source).Sound R := by
  have removed : (∀ id ∈ c.sources, id = source) → c.sources.filter (· ≠ source) = [] := by
    intro own
    simpa using own
  cases dispatching with
  | @own proxy op object sent own reported valid =>
    refine ⟨{ c with object := some ⟨proxy, some { op with cbId := 0 }⟩ }, ?_, ?_, valid⟩
    · rw [clearCbId, object, Option.bind_some, Option.map_some]
    · exact .idle rfl (fun o mem => Option.some.inj mem ▸ rfl) sent (removed own) reported
  | @other proxy call object sent own reported valid =>
    refine ⟨{ c with object := some ⟨proxy, some ⟨call.callback, none, 0⟩⟩ }, ?_, ?_, valid⟩
    · rw [clearCbId, object, Option.bind_some, Option.map_some]
    · exact @Phase.waiting _ _ proxy call rfl sent (removed own) reported

theorem Sound.dispatch (sound : c.Sound R) {source : Nat} {actions : List ClientAction}
    (patient : (ClientEvent.dispatch source actions).Patient removes loses c) :
    ∃ c', c.dispatch removes source actions = some c' ∧ c'.Sound R := by
  rw [Client.dispatch]
  split_ifs with pending
  swap
  · exact ⟨c, rfl, sound⟩
  cases sound.phase with
  | gone _ empty =>
    rw [empty] at pending
    cases pending
  | idle _ _ _ empty =>
    rw [empty] at pending
    cases pending
  | waiting _ _ empty =>
    rw [empty] at pending
    cases pending
  | @scheduled proxy callback error id object valid sent sources reported =>
    have start : (c.invoke callback error).Dispatching R source := by
      refine .own object sent (fun i mem => ?_) reported sound.valid
      rw [sources] at pending
      have same : i ∈ [id] := sources ▸ mem
      exact (List.mem_singleton.mp same).trans (List.mem_singleton.mp pending).symm
    obtain ⟨c', cleared, sound'⟩ := (start.acts (patient callback error)).ended
    refine ⟨c'.gSourceRemove source, ?_, sound'⟩
    rw [triggerCallback, object]
    simp only [Option.bind_some, cleared, Option.map_some]

/-- Every event of a patient client reads the memory of the object only while the object is there. -/
theorem Sound.step (reporting : Reporting loses R) (sound : c.Sound R) {event : ClientEvent}
    (patient : event.Patient removes loses c) :
    ∃ c', c.step removes event = some c' ∧ c'.Sound R := by
  cases event with
  | act action =>
    cases action with
    | call callback => exact ⟨_, rfl, sound.call reporting patient⟩
    | unref => exact ⟨_, rfl, sound.unref reporting patient⟩
  | reply number error proxy => exact sound.reply reporting number error proxy
  | destroyed => exact ⟨_, rfl, sound.onRemoteObjectDestroyed⟩
  | dispatch source actions => exact sound.dispatch patient

/-! ### Runs -/

theorem sound_created (reporting : Reporting loses R) (callback : Option Nat) :
    (created callback).Sound R :=
  ⟨.waiting rfl rfl rfl reporting.refl, Nat.one_pos⟩

theorem sound_createdSync (reporting : Reporting loses R) : createdSync.Sound R :=
  ⟨.idle rfl nofun rfl rfl reporting.refl, Nat.one_pos⟩

/-- The object of a client that has just made it. -/
def New (c : Client) : Prop := c = createdSync ∨ ∃ callback, c = created callback

theorem New.sound (reporting : Reporting loses R) (new : c.New) : c.Sound R := by
  rcases new with rfl | ⟨callback, rfl⟩
  · exact sound_createdSync reporting
  · exact sound_created reporting callback

end Phases

/-- A client that waits for the answers, but not for the callbacks, reads no freed memory, and every
answer is reported to the callback of its call at most once, in the order of the answers.  Where freeing
the slot does not remove the source, the client has to wait for the callbacks as well. -/
theorem run_atMostOnce {removes : Bool} {c : Client} (new : c.New) {events : List ClientEvent}
    (patient : Runs.EachSome (step removes) (fun c e => e.Patient removes True c) c events) :
    ∃ c', c.run removes events = some c' ∧ c'.invoked.Sublist c'.answered ∧
      (c'.object = none → c'.sources = []) := by
  have reporting := reporting_sublist True
  obtain ⟨c', reached, sound⟩ := patient.run
    (fun c e patient sound => sound.step reporting patient) (new.sound reporting)
  refine ⟨c', reached, ?_⟩
  cases sound.phase with
  | gone object sources reported => exact ⟨reported, fun _ => sources⟩
  | idle object cleared sent sources reported => exact ⟨reported, fun _ => sources⟩
  | waiting object sent sources reported => exact ⟨reported, fun _ => sources⟩
  | scheduled object valid sent sources reported =>
    refine ⟨reporting.lose trivial reported, fun gone => ?_⟩
    cases object.symm.trans gone

/-- A client that waits for the callbacks too gets every answer reported, once and in order. -/
theorem run_exactlyOnce {removes : Bool} {c : Client} (new : c.New) {events : List ClientEvent}
    (patient : Runs.EachSome (step removes) (fun c e => e.Patient removes False c) c events) :
    ∃ c', c.run removes events = some c' ∧ (c'.sources = [] → c'.invoked = c'.answered) := by
  obtain ⟨c', reached, sound⟩ := patient.run
    (fun c e patient sound => sound.step reporting_eq patient) (new.sound reporting_eq)
  refine ⟨c', reached, fun done => ?_⟩
  cases sound.phase with
  | gone object sources reported => exact reported
  | idle object cleared sent sources reported => exact reported
  | waiting object sent sources reported => exact reported
  | scheduled object valid sent sources reported => cases done.symm.trans sources

/-- A client that calls a group again before its callback has been called: the source of the answered
call is still there, and calls the callback of the new call back, which the daemon has not answered. -/
theorem group_early_callback {c : Client} {callback error id} (next : Nat)
    (object : c.object = some ⟨true, some ⟨callback, error, id⟩⟩) (pending : id ∈ c.sources) :
    ∃ c', (c.call GumGroup.removesSource (some next)).dispatch GumGroup.removesSource id [] = some c' ∧
      c'.invoked = c.invoked ++ [(next, none)] ∧ c'.answered = c.answered ∧
      ⟨c.nextCall, false, some next⟩ ∈ c'.sent := by
  have called : c.call GumGroup.removesSource (some next) = { c with
      object := some ⟨true, some ⟨some next, none, 0⟩⟩
      sent := c.sent ++ [⟨c.nextCall, false, some next⟩]
      nextCall := c.nextCall + 1 } := by
    rw [call, object]
    rfl
  refine ⟨gSourceRemove id (invoke next none (c.call GumGroup.removesSource (some next))), ?_, ?_⟩
  · rw [called, dispatch, if_pos pending]
    rfl
  · rw [called]
    exact ⟨rfl, rfl, List.mem_append_right _ (List.mem_singleton_self _)⟩

end Client

namespace Sample

/-- A client that calls again from a callback, then before a callback, and gives the user up. -/
def userEvents : List ClientEvent :=
  [.reply 0 none true, .dispatch 1 [.call (some 1)], .reply 1 (some (.failed 3)) false,
    .act (.call (some 2)), .reply 2 none false, .act .unref]

theorem run_atMostOnce_user :
    ∃ c', (Client.created (some 0)).run GumUser.removesSource userEvents = some c' ∧
      c'.invoked.Sublist c'.answered ∧ (c'.object = none → c'.sources = []) := by
  refine Client.run_atMostOnce (.inr ⟨some 0, rfl⟩) ⟨trivial, ?_⟩
  intro c stepped
  obtain rfl := Option.some.inj stepped
  refine ⟨fun _ _ => ⟨fun _ => rfl, trivial⟩, ?_⟩
  intro c stepped
  obtain rfl := Option.some.inj stepped
  refine ⟨trivial, ?_⟩
  intro c stepped
  obtain rfl := Option.some.inj stepped
  refine ⟨fun _ => ⟨rfl, .inr ⟨rfl, trivial⟩⟩, ?_⟩
  intro c stepped
  obtain rfl := Option.some.inj stepped
  refine ⟨trivial, ?_⟩
  intro c stepped
  obtain rfl := Option.some.inj stepped
  exact ⟨.inr trivial, fun _ _ => trivial⟩

/-- A client that calls again from a callback and waits for the last one. -/
def groupEvents : List ClientEvent :=
  [.reply 0 none true, .dispatch 1 [.call (some 1)], .reply 1 (some (.failed 3)) false, .dispatch 2 [],
    .act .unref]

theorem run_exactlyOnce_group :
    ∃ c', (Client.created (some 0)).run GumGroup.removesSource groupEvents = some c' ∧
      (c'.sources = [] → c'.invoked = c'.answered) := by
  refine Client.run_exactlyOnce (.inr ⟨some 0, rfl⟩) ⟨trivial, ?_⟩
  intro c stepped
  obtain rfl := Option.some.inj stepped
  refine ⟨fun _ _ => ⟨fun _ => rfl, trivial⟩, ?_⟩
  intro c stepped
  obtain rfl := Option.some.inj stepped
  refine ⟨trivial, ?_⟩
  intro c stepped
  obtain rfl := Option.some.inj stepped
  refine ⟨fun _ _ => trivial, ?_⟩
  intro c stepped
  obtain rfl := Option.some.inj stepped
  exact ⟨.inl rfl, fun _ _ => trivial⟩

end Sample

end Gumd
