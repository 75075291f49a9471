import Gumd.Lib.Counters
import Gumd.Lib.Runs
import Mathlib.Tactic.SplitIfs

/-!
# `GumDisposable`

An object with a reference of its own that a source of the main loop gives up: a timeout while
nobody keeps the object, or an idle source once it is to be deleted.
-/

namespace Gumd

/-- The callbacks that unreference the object: `_timer_dispose` of a timeout source and
`_auto_dispose` of an idle source. -/
inductive DisposeSource where
  | timer
  | idle
  deriving DecidableEq, Repr

/-- The object, its references, and the main loop's sources for it by their ids.  The counter is the
`gint` of `g_atomic_int_add`, which wraps around. -/
structure GumDisposable where
  timeout : UInt32
  keepObjCounter : Int32
  timerId : Nat
  deleteLater : Bool
  refCount : Nat
  /-- How often its own sources have unreferenced the object. -/
  unrefs : Nat
  pending : List (Nat × DisposeSource)
  nextId : Nat
  deriving DecidableEq, Repr

/-- What happens to the object: calls, and the dispatch of a source. -/
inductive DisposableCall where
  | setTimeout (timeout : UInt32)
  | setAutoDispose (dispose : Bool)
  | deleteLater
  | expire (id : Nat)
  deriving DecidableEq, Repr

/-- `gum_disposable_init`, with the references the object gets and the ids the main loop has handed
out before. -/
def gumDisposableInit (refCount lastId : Nat) : GumDisposable where
  timeout := 0
  keepObjCounter := 0
  timerId := 0
  deleteLater := false
  refCount := refCount
  unrefs := 0
  pending := []
  nextId := lastId + 1

namespace GumDisposable

/-! ## Sources -/

/-- `g_source_remove`. -/
def gSourceRemove (id : Nat) (self : GumDisposable) : GumDisposable :=
  { self with pending := self.pending.filter (·.1 ≠ id) }

/-- `g_timeout_add_seconds` and `g_idle_add`, whose result becomes the timer id. -/
def addSource (source : DisposeSource) (self : GumDisposable) : GumDisposable :=
  { self with
    pending := self.pending ++ [(self.nextId, source)]
    timerId := self.nextId
    nextId := self.nextId + 1 }

/-- `_dispose`. -/
def dispose (self : GumDisposable) : GumDisposable :=
  if self.timerId ≠ 0 then { self.gSourceRemove self.timerId with timerId := 0 } else self

/-- `g_object_unref`; the last reference disposes the object. -/
def gObjectUnref (self : GumDisposable) : GumDisposable :=
  let self := { self with refCount := self.refCount - 1 }
  if self.refCount = 0 then self.dispose else self

/-- `_auto_dispose`, which leaves an object alone that is gone. -/
def autoDispose (self : GumDisposable) : GumDisposable :=
  if self.refCount = 0 then self else gObjectUnref { self with unrefs := self.unrefs + 1 }

/-- `_timer_dispose`. -/
def timerDispose (self : GumDisposable) : GumDisposable :=
  if self.refCount = 0 then self else autoDispose { self with timerId := 0 }

/-- The main loop dispatches a source, and destroys it as the callback returns `FALSE`. -/
def expire (id : Nat) (self : GumDisposable) : GumDisposable :=
  match self.pending.find? (·.1 == id) with
  | none => self
  | some (_, .timer) => self.timerDispose.gSourceRemove id
  | some (_, .idle) => self.autoDispose.gSourceRemove id

/-! ## Calls -/

/-- `_update_timer`. -/
def updateTimer (self : GumDisposable) : GumDisposable :=
  if self.deleteLater then self
  else if self.keepObjCounter = 0 then
    if self.timeout ≠ 0 then self.addSource .timer else self
  else if self.timerId ≠ 0 then { self.gSourceRemove self.timerId with timerId := 0 }
  else self

def gumDisposableSetAutoDispose (dispose : Bool) (self : GumDisposable) : GumDisposable :=
  if self.keepObjCounter = 0 ∧ dispose then self
  else updateTimer
    { self with keepObjCounter := self.keepObjCounter + (if !dispose then 1 else -1) }

def gumDisposableSetTimeout (timeout : UInt32) (self : GumDisposable) : GumDisposable :=
  if self.timeout = timeout then self else updateTimer { self with timeout := timeout }

def gumDisposableDeleteLater (self : GumDisposable) : GumDisposable :=
  let self := if self.timerId ≠ 0 then self.gSourceRemove self.timerId else self
  { self.addSource .idle with deleteLater := true }

/-- One step; a caller has a reference, so an object that is gone gets no more calls. -/
def step (self : GumDisposable) : DisposableCall → GumDisposable
  | .setTimeout timeout =>
      if self.refCount = 0 then self else self.gumDisposableSetTimeout timeout
  | .setAutoDispose dispose =>
      if self.refCount = 0 then self else self.gumDisposableSetAutoDispose dispose
  | .deleteLater => if self.refCount = 0 then self else self.gumDisposableDeleteLater
  | .expire id => self.expire id

abbrev Each (P : GumDisposable → DisposableCall → Prop) :
    GumDisposable → List DisposableCall → Prop :=
  Runs.Each step P

/-! ## What is pending -/

/-- At most one source is pending, the one of the timer id; a timeout is pending only while nobody
keeps the object; and the sources have unreferenced it once at most. -/
structure AtMostOne (d : GumDisposable) : Prop where
  single : d.pending.length ≤ 1
  recorded : ∀ source ∈ d.pending, source.1 = d.timerId
  unkept : ∀ source ∈ d.pending, source.2 = .timer →
    d.keepObjCounter = 0 ∧ d.timeout ≠ 0
  unrefs : d.unrefs ≤ 1

/-- The call arms no second source: a changed timeout is no news to an object that is kept or to be
deleted and otherwise finds no timer, no source is added once one has been dispatched, and the counter
does not overflow. -/
def ArmsOnce (d : GumDisposable) : DisposableCall → Prop
  | .setTimeout timeout => timeout ≠ d.timeout → d.deleteLater = false →
      d.keepObjCounter = 0 → d.timerId = 0 ∧ (timeout ≠ 0 → d.unrefs = 0)
  | .setAutoDispose dispose => (dispose = true → d.deleteLater = false →
      d.keepObjCounter = 1 → d.timeout ≠ 0 → d.unrefs = 0) ∧
        (dispose = false → d.keepObjCounter ≠ .maxValue)
  | .deleteLater => d.unrefs = 0
  | .expire _ => True

/-- The invariant: nothing is pending, or one source of the right kind is. -/
structure Sound (d : GumDisposable) : Prop where
  counted : 0 ≤ d.keepObjCounter
  fresh : 0 < d.nextId
  pending : d.pending = [] ∧ (d.deleteLater = false → d.timerId = 0) ∨
    d.timerId ≠ 0 ∧ d.timerId < d.nextId ∧ d.unrefs = 0 ∧
      (d.pending = [(d.timerId, .idle)] ∧ d.deleteLater = true ∨
        d.pending = [(d.timerId, .timer)] ∧ d.deleteLater = false ∧
          d.keepObjCounter = 0 ∧ d.timeout ≠ 0)
  unrefs : d.unrefs ≤ 1
  gone : d.refCount = 0 → d.pending = []

variable {d : GumDisposable}

theorem Sound.atMostOne (sound : d.Sound) : d.AtMostOne := by
  obtain ⟨-, -, pending, unrefs, -⟩ := sound
  rcases pending with ⟨none, -⟩ | ⟨-, -, -, ⟨idle, -⟩ | ⟨timer, -, kept, timeout⟩⟩
  · exact ⟨by simp [none], by simp [none], by simp [none], unrefs⟩
  · exact ⟨by simp [idle], by simp [idle], by simp [idle], unrefs⟩
  · exact ⟨by simp [timer], by simp [timer], by simp [timer, kept, timeout], unrefs⟩

theorem sound_gumDisposableInit (refCount lastId : Nat) :
    (gumDisposableInit refCount lastId).Sound :=
  ⟨Int32.le_refl 0, Nat.succ_pos lastId, Or.inl ⟨rfl, fun _ => rfl⟩, Nat.zero_le 1, fun _ => rfl⟩

/-- Removing the source of the timer id leaves nothing pending. -/
theorem Sound.pending_gSourceRemove (sound : d.Sound) :
    (if d.timerId ≠ 0 then d.gSourceRemove d.timerId else d).pending = [] := by
  rcases sound.pending with ⟨none, -⟩ | ⟨armed, -, -, ⟨idle, -⟩ | ⟨timer, -⟩⟩
  · split_ifs <;> simp [gSourceRemove, none]
  · simp [gSourceRemove, armed, idle]
  · simp [gSourceRemove, armed, timer]

/-- The timer is updated once the counter or the timeout has changed: nothing is pending, or the object
has become one that is kept. -/
theorem sound_updateTimer (alive : d.refCount ≠ 0) (counted : 0 ≤ d.keepObjCounter)
    (fresh : 0 < d.nextId) (unrefs : d.unrefs ≤ 1)
    (deleted : d.deleteLater = true → d.Sound)
    (kept : d.keepObjCounter ≠ 0 → d.deleteLater = false →
      d.pending = [] ∧ d.timerId = 0 ∨ d.timerId ≠ 0 ∧ d.pending = [(d.timerId, .timer)])
    (unkept : d.keepObjCounter = 0 → d.deleteLater = false →
      d.pending = [] ∧ d.timerId = 0 ∧ (d.timeout ≠ 0 → d.unrefs = 0)) :
    d.updateTimer.Sound := by
  rw [updateTimer]
  split_ifs with later free timeout armed
  · exact deleted later
  · obtain ⟨none, -, once⟩ := unkept free (Bool.eq_false_iff.mpr later)
    refine ⟨counted, Nat.succ_pos _, Or.inr ⟨Nat.ne_of_gt fresh, Nat.lt_succ_self _,
      once timeout, Or.inr ?_⟩, unrefs, fun gone => absurd gone alive⟩
    exact ⟨by simp [addSource, none], Bool.eq_false_iff.mpr later, free, timeout⟩
  · obtain ⟨none, unarmed, -⟩ := unkept free (Bool.eq_false_iff.mpr later)
    exact ⟨counted, fresh, Or.inl ⟨none, fun _ => unarmed⟩, unrefs, fun _ => none⟩
  · have none : (d.gSourceRemove d.timerId).pending = [] := by
      rcases kept free (Bool.eq_false_iff.mpr later) with ⟨none, -⟩ | ⟨-, timer⟩
      · simp [gSourceRemove, none]
      · simp [gSourceRemove, timer]
    exact ⟨counted, fresh, Or.inl ⟨none, fun _ => rfl⟩, unrefs, fun _ => none⟩
  · rcases kept free (Bool.eq_false_iff.mpr later) with ⟨none, unarmed⟩ | ⟨set, -⟩
    · exact ⟨counted, fresh, Or.inl ⟨none, fun _ => unarmed⟩, unrefs, fun _ => none⟩
    · exact absurd set armed

/-- An object that is to be deleted later stays sound while only its counter and timeout change. -/
theorem Sound.of_deleteLater {d' : GumDisposable} (sound : d.Sound) (later : d.deleteLater = true)
    (counted : 0 ≤ d'.keepObjCounter)
    (same : d' = { d with keepObjCounter := d'.keepObjCounter, timeout := d'.timeout }) :
    d'.Sound := by
  obtain ⟨-, fresh, pending, unrefs, gone⟩ := sound
  rw [same]
  refine ⟨counted, fresh, ?_, unrefs, gone⟩
  rcases pending with none | ⟨armed, older, first, source | ⟨-, alive, -⟩⟩
  · exact Or.inl none
  · exact Or.inr ⟨armed, older, first, Or.inl source⟩
  · exact absurd later (by simp [alive])

theorem Sound.gumDisposableSetAutoDispose (sound : d.Sound) (alive : d.refCount ≠ 0)
    {dispose : Bool} (once : d.ArmsOnce (.setAutoDispose dispose)) :
    (d.gumDisposableSetAutoDispose dispose).Sound := by
  obtain ⟨counted, fresh, pending, unrefs, -⟩ := id sound
  rw [GumDisposable.gumDisposableSetAutoDispose]
  by_cases idle : d.keepObjCounter = 0 ∧ dispose = true
  · rwa [if_pos idle]
  rw [if_neg idle]
  generalize counter : d.keepObjCounter + (if !dispose then 1 else -1) = n
  -- the counter comes down to zero only from one
  obtain ⟨last, counted'⟩ : (n = 0 → dispose = true ∧ d.keepObjCounter = 1) ∧ 0 ≤ n := by
    cases dispose with
    | false =>
      replace counter : d.keepObjCounter + 1 = n := counter
      have next : 0 ≤ n := counter ▸ (Counters.succ_nonneg_iff counted).mpr (once.2 rfl)
      refine ⟨fun zero => ?_, next⟩
      have value := Counters.toInt_succ (once.2 rfl)
      rw [counter, zero] at value
      rw [Int32.le_iff_toInt_le] at counted
      replace counted : 0 ≤ d.keepObjCounter.toInt := counted
      replace value : 0 = d.keepObjCounter.toInt + 1 := value
      omega
    | true =>
      replace counter : d.keepObjCounter - 1 = n := (Int32.sub_eq_add_neg _ _).trans counter
      have kept : 0 < d.keepObjCounter :=
        Counters.pos_of_ne_zero counted fun free => idle ⟨free, rfl⟩
      refine ⟨fun zero => ⟨rfl, Counters.eq_one_of_pred_eq_zero (counter.trans zero)⟩, ?_⟩
      exact counter ▸ Counters.pred_nonneg kept
  refine sound_updateTimer (d := { d with keepObjCounter := n }) alive counted' fresh unrefs
    (fun later => sound.of_deleteLater later counted' rfl) ?_ ?_
  · intro _ stays
    rcases pending with ⟨none, unarmed⟩ | ⟨armed, -, -, ⟨-, later⟩ | ⟨timer, -⟩⟩
    · exact Or.inl ⟨none, unarmed stays⟩
    · exact absurd later (by simpa using stays)
    · exact Or.inr ⟨armed, timer⟩
  · intro free stays
    obtain ⟨disposes, one⟩ := last free
    rcases pending with ⟨none, unarmed⟩ | ⟨-, -, -, ⟨-, later⟩ | ⟨-, -, zero, -⟩⟩
    · exact ⟨none, unarmed stays, once.1 disposes stays one⟩
    · exact absurd later (by simpa using stays)
    · exact absurd (zero.symm.trans one) (by decide)

theorem Sound.gumDisposableSetTimeout (sound : d.Sound) (alive : d.refCount ≠ 0)
    {timeout : UInt32} (once : d.ArmsOnce (.setTimeout timeout)) :
    (d.gumDisposableSetTimeout timeout).Sound := by
  obtain ⟨counted, fresh, pending, unrefs, -⟩ := id sound
  rw [GumDisposable.gumDisposableSetTimeout]
  split_ifs with same
  · exact sound
  refine sound_updateTimer (d := { d with timeout := timeout }) alive counted fresh unrefs
    (fun later => sound.of_deleteLater later counted rfl) ?_ ?_
  · intro kept stays
    rcases pending with ⟨none, unarmed⟩ | ⟨-, -, -, ⟨-, later⟩ | ⟨-, -, free, -⟩⟩
    · exact Or.inl ⟨none, unarmed stays⟩
    · exact absurd later (by simpa using stays)
    · exact absurd free kept
  · intro free stays
    obtain ⟨unarmed, first⟩ := once (Ne.symm same) stays free
    rcases pending with ⟨none, -⟩ | ⟨armed, -⟩
    · exact ⟨none, unarmed, first⟩
    · exact absurd unarmed armed

theorem Sound.gumDisposableDeleteLater (sound : d.Sound) (alive : d.refCount ≠ 0)
    (once : d.ArmsOnce .deleteLater) : d.gumDisposableDeleteLater.Sound := by
  have removed := sound.pending_gSourceRemove
  have same : ∀ d' : GumDisposable, d' = (if d.timerId ≠ 0 then d.gSourceRemove d.timerId else d) →
      d'.keepObjCounter = d.keepObjCounter ∧ d'.nextId = d.nextId ∧ d'.unrefs = d.unrefs ∧
        d'.refCount = d.refCount := by
    intro d' eq
    split_ifs at eq <;> simp [eq, gSourceRemove]
  rw [GumDisposable.gumDisposableDeleteLater]
  generalize eq : (if d.timerId ≠ 0 then d.gSourceRemove d.timerId else d) = d' at removed ⊢
  obtain ⟨counter, nextId, unrefs, refCount⟩ := same d' eq.symm
  have fresh := sound.fresh
  refine ⟨counter ▸ sound.counted, Nat.succ_pos _, Or.inr ⟨?_, Nat.lt_succ_self _,
    unrefs.trans once, Or.inl ⟨?_, rfl⟩⟩, unrefs ▸ sound.unrefs,
    fun gone => absurd (refCount.symm.trans gone) alive⟩
  · simp only [addSource]
    omega
  · simp [addSource, removed]

/-- What an update of the timer leaves alone. -/
theorem updateTimer_frame (d : GumDisposable) : d.updateTimer.keepObjCounter = d.keepObjCounter ∧
    d.updateTimer.refCount = d.refCount ∧ d.updateTimer.unrefs = d.unrefs ∧
    d.updateTimer.deleteLater = d.deleteLater := by
  rw [updateTimer]
  split_ifs <;> exact ⟨rfl, rfl, rfl, rfl⟩

theorem setTimeout_frame (d : GumDisposable) (timeout : UInt32) :
    (d.gumDisposableSetTimeout timeout).keepObjCounter = d.keepObjCounter ∧
      (d.gumDisposableSetTimeout timeout).refCount = d.refCount ∧
      (d.gumDisposableSetTimeout timeout).unrefs = d.unrefs ∧
      (d.gumDisposableSetTimeout timeout).deleteLater = d.deleteLater := by
  rw [gumDisposableSetTimeout]
  split_ifs
  · exact ⟨rfl, rfl, rfl, rfl⟩
  · exact updateTimer_frame _

theorem setAutoDispose_frame (d : GumDisposable) (dispose : Bool) :
    (d.gumDisposableSetAutoDispose dispose).refCount = d.refCount ∧
      (d.gumDisposableSetAutoDispose dispose).unrefs = d.unrefs ∧
      (d.gumDisposableSetAutoDispose dispose).deleteLater = d.deleteLater := by
  rw [gumDisposableSetAutoDispose]
  by_cases idle : d.keepObjCounter = 0 ∧ dispose = true
  · rw [if_pos idle]
    exact ⟨rfl, rfl, rfl⟩
  · rw [if_neg idle]
    exact (updateTimer_frame _).2

theorem keepObjCounter_keep (d : GumDisposable) :
    (d.gumDisposableSetAutoDispose false).keepObjCounter = d.keepObjCounter + 1 := by
  have kept : ¬(d.keepObjCounter = 0 ∧ false = true) := by simp
  rw [gumDisposableSetAutoDispose, if_neg kept]
  exact (updateTimer_frame _).1

theorem keepObjCounter_release (d : GumDisposable) :
    (d.gumDisposableSetAutoDispose true).keepObjCounter =
      if d.keepObjCounter = 0 then 0 else d.keepObjCounter - 1 := by
  rw [gumDisposableSetAutoDispose]
  by_cases idle : d.keepObjCounter = 0
  · rw [if_pos ⟨idle, rfl⟩, if_pos idle, idle]
  · rw [if_neg fun both => idle both.1, if_neg idle, Int32.sub_eq_add_neg]
    exact (updateTimer_frame _).1

/-- An armed timer that is not an idle source has found the object kept by nobody. -/
theorem Sound.unkept (sound : d.Sound) (stays : d.deleteLater = false) (armed : d.pending ≠ []) :
    d.keepObjCounter = 0 := by
  rcases sound.pending with ⟨none, -⟩ | ⟨-, -, -, ⟨-, later⟩ | ⟨-, -, free, -⟩⟩
  · exact absurd none armed
  · exact absurd later (by simp [stays])
  · exact free

/-- The object after its last source is dispatched: nothing is pending. -/
theorem sound_dispatched {d' : GumDisposable} (sound : d.Sound) (unrefs : d'.unrefs ≤ 1)
    (none : d'.pending = []) (counter : d'.keepObjCounter = d.keepObjCounter)
    (nextId : d'.nextId = d.nextId) (unarmed : d'.deleteLater = false → d'.timerId = 0) :
    d'.Sound :=
  ⟨counter ▸ sound.counted, nextId ▸ sound.fresh, Or.inl ⟨none, unarmed⟩, unrefs, fun _ => none⟩

theorem Sound.expire (sound : d.Sound) (source : Nat) : (d.expire source).Sound := by
  rw [GumDisposable.expire]
  cases found : d.pending.find? (·.1 == source) with
  | none => exact sound
  | some entry =>
    have mem := List.mem_of_find?_eq_some found
    have alive : d.refCount ≠ 0 := by
      intro gone
      rw [sound.gone gone] at mem
      cases mem
    rcases sound.pending with ⟨none, -⟩ | ⟨armed, -, first, ⟨idle, later⟩ | ⟨timer, stays, -⟩⟩
    · rw [none] at mem
      cases mem
    · obtain rfl : entry = (d.timerId, .idle) := by simpa [idle] using mem
      have own : d.timerId = source := by simpa using List.find?_some found
      simp only [autoDispose, if_neg alive, gObjectUnref, dispose]
      split_ifs <;> exact sound_dispatched sound (by simp [gSourceRemove, first])
        (by simp [gSourceRemove, idle, own]) rfl rfl (by simp [gSourceRemove, later])
    · obtain rfl : entry = (d.timerId, .timer) := by simpa [timer] using mem
      have own : d.timerId = source := by simpa using List.find?_some found
      simp only [timerDispose, autoDispose, if_neg alive, gObjectUnref, dispose]
      split_ifs <;> exact sound_dispatched sound (by simp [gSourceRemove, first])
        (by simp [gSourceRemove, timer, own]) rfl rfl (by simp [gSourceRemove])

/-- A step that arms no second source keeps the invariant. -/
theorem Sound.step (sound : d.Sound) {c : DisposableCall} (once : d.ArmsOnce c) :
    (d.step c).Sound := by
  cases c with
  | setTimeout timeout =>
    rw [GumDisposable.step]
    split_ifs with gone
    · exact sound
    · exact sound.gumDisposableSetTimeout gone once
  | setAutoDispose dispose =>
    rw [GumDisposable.step]
    split_ifs with gone
    · exact sound
    · exact sound.gumDisposableSetAutoDispose gone once
  | deleteLater =>
    rw [GumDisposable.step]
    split_ifs with gone
    · exact sound
    · exact sound.gumDisposableDeleteLater gone once
  | expire source => exact sound.expire source

end GumDisposable

/-- In every sequence of calls and dispatches none of which arms a second source, at most one source
is pending after each, and the object is unreferenced by its own sources once at most. -/
theorem each_atMostOne (refCount lastId : Nat) (calls : List DisposableCall)
    (each : GumDisposable.Each GumDisposable.ArmsOnce (gumDisposableInit refCount lastId) calls) :
    GumDisposable.Each (fun d c => (d.step c).AtMostOne) (gumDisposableInit refCount lastId)
      calls :=
  Runs.Each.invariant (fun _ _ once sound => ⟨(sound.step once).atMostOne, sound.step once⟩) each
    (GumDisposable.sound_gumDisposableInit refCount lastId)

namespace Sample

/-- A changed timeout arms a second timer and forgets the first. -/
theorem not_each_atMostOne :
    ¬GumDisposable.Each (fun d c => (d.step c).AtMostOne) (gumDisposableInit 1 0)
      [.setTimeout 5, .setTimeout 10] := by
  intro each
  exact absurd each.2.1.single (by decide)

theorem each_atMostOne_timeout :
    GumDisposable.Each (fun d c => (d.step c).AtMostOne) (gumDisposableInit 1 0)
      [.setTimeout 5, .setAutoDispose false, .setAutoDispose true, .expire 2] :=
  each_atMostOne 1 0 _
    ⟨fun _ _ _ => ⟨rfl, fun _ => rfl⟩, ⟨fun disposes => absurd disposes (by decide), fun _ => by decide⟩,
      ⟨fun _ _ _ _ => rfl, fun keeps => absurd keeps (by decide)⟩, trivial, trivial⟩

end Sample

end Gumd
