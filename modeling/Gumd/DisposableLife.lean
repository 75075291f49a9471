import Gumd.Disposable

/-!
# The life of a disposable object

From its creation to its disposal an object has the one reference that its own source gives up.  A source
is pending exactly if the object is to be deleted, or is kept by nobody and has a timeout.  Afterwards no
source is left.
-/

namespace Gumd.GumDisposable

/-- An object with its reference, kept `n` times. -/
structure Live (limit : UInt32) (n : Int32) (later : Bool) (d : GumDisposable) : Prop where
  sound : d.Sound
  refCount : d.refCount = 1
  unrefs : d.unrefs = 0
  timeout : d.timeout = limit
  counter : d.keepObjCounter = n
  deleteLater : d.deleteLater = later
  armed : later = true ∨ n = 0 ∧ limit ≠ 0 → d.pending ≠ []

/-- An object without references, and without sources. -/
structure Gone (d : GumDisposable) : Prop where
  refCount : d.refCount = 0
  pending : d.pending = []

variable {d : GumDisposable} {limit : UInt32} {n : Int32} {later : Bool}

theorem Live.alive (live : d.Live limit n later) : d.refCount ≠ 0 := by
  rw [live.refCount]
  exact Nat.one_ne_zero

/-- A source is pending only if there is a reason for it. -/
theorem Live.of_pending (live : d.Live limit n later) (pending : d.pending ≠ []) :
    later = true ∨ n = 0 ∧ limit ≠ 0 := by
  rcases live.sound.pending with ⟨none, -⟩ | ⟨-, -, -, ⟨-, deleted⟩ | ⟨-, -, free, timed⟩⟩
  · exact absurd none pending
  · exact Or.inl (live.deleteLater ▸ deleted)
  · exact Or.inr ⟨live.counter ▸ free, live.timeout ▸ timed⟩

theorem gone_init : (gumDisposableInit 0 0).Gone := ⟨rfl, rfl⟩

/-! ## Calls -/

/-- An update of the timer arms one where it has a reason to. -/
theorem pending_updateTimer (stays : d.deleteLater = false) (free : d.keepObjCounter = 0)
    (timed : d.timeout ≠ 0) : d.updateTimer.pending ≠ [] := by
  rw [updateTimer, if_neg (by simp [stays]), if_pos free, if_pos timed]
  simp [addSource]

theorem timeout_updateTimer (d : GumDisposable) : d.updateTimer.timeout = d.timeout := by
  rw [updateTimer]
  split_ifs <;> rfl

theorem updateTimer_of_deleteLater (deleted : d.deleteLater = true) : d.updateTimer = d := by
  rw [updateTimer, if_pos deleted]

/-- A change of the counter by one. -/
theorem Live.setAutoDispose {m : Int32} (live : d.Live limit n later) {dispose : Bool}
    (changes : ¬(n = 0 ∧ dispose = true)) (fits : dispose = false → n ≠ .maxValue)
    (m_eq : m = n + if !dispose then 1 else -1) :
    (d.gumDisposableSetAutoDispose dispose).Live limit m later := by
  obtain ⟨refCount, unrefs, deleteLater⟩ := d.setAutoDispose_frame dispose
  have once : d.ArmsOnce (.setAutoDispose dispose) :=
    ⟨fun _ _ _ _ => live.unrefs, fun keeps => live.counter ▸ fits keeps⟩
  have sound := live.sound.gumDisposableSetAutoDispose live.alive once
  have changes' : ¬(d.keepObjCounter = 0 ∧ dispose = true) := by
    rw [live.counter]
    exact changes
  refine ⟨sound, refCount.trans live.refCount, unrefs.trans live.unrefs, ?_, ?_,
    deleteLater.trans live.deleteLater, ?_⟩
  all_goals rw [gumDisposableSetAutoDispose, if_neg changes']
  · exact (timeout_updateTimer _).trans live.timeout
  · rw [(updateTimer_frame _).1, m_eq, live.counter]
  · intro reason
    cases deleted : later with
    | true =>
      rw [updateTimer_of_deleteLater (by exact live.deleteLater.trans deleted)]
      exact live.armed (Or.inl deleted)
    | false =>
      obtain ⟨zero, timed⟩ := reason.resolve_left (by simp [deleted])
      apply pending_updateTimer
      · exact live.deleteLater.trans deleted
      · change d.keepObjCounter + _ = 0
        rw [live.counter, ← m_eq, zero]
      · change d.timeout ≠ 0
        rwa [live.timeout]

theorem Live.keep (live : d.Live limit n later) (fits : n ≠ .maxValue) :
    (d.gumDisposableSetAutoDispose false).Live limit (n + 1) later :=
  live.setAutoDispose (by simp) (fun _ => fits) rfl

theorem Live.release (live : d.Live limit (n + 1) later) (kept : n + 1 ≠ 0) :
    (d.gumDisposableSetAutoDispose true).Live limit n later := by
  apply live.setAutoDispose
  · exact fun both => kept both.1
  · exact fun keeps => absurd keeps (by decide)
  · change n = n + 1 + -1
    rw [← Int32.sub_eq_add_neg, Int32.add_sub_cancel]

/-- An object nobody keeps does not notice that it is let go. -/
theorem Live.release_zero (live : d.Live limit 0 later) : d.gumDisposableSetAutoDispose true = d := by
  rw [gumDisposableSetAutoDispose, if_pos ⟨live.counter, rfl⟩]

theorem Live.deleted (live : d.Live limit n later) : d.gumDisposableDeleteLater.Live limit n true := by
  have sound := live.sound.gumDisposableDeleteLater live.alive live.unrefs
  rw [gumDisposableDeleteLater] at sound ⊢
  generalize eq : (if d.timerId ≠ 0 then d.gSourceRemove d.timerId else d) = d' at sound ⊢
  have same : d'.refCount = d.refCount ∧ d'.unrefs = d.unrefs ∧ d'.timeout = d.timeout ∧
      d'.keepObjCounter = d.keepObjCounter := by
    rw [← eq]
    split_ifs <;> exact ⟨rfl, rfl, rfl, rfl⟩
  obtain ⟨refCount, unrefs, timeout', counter⟩ := same
  refine ⟨sound, refCount.trans live.refCount, unrefs.trans live.unrefs, timeout'.trans live.timeout,
    counter.trans live.counter, rfl, fun _ => ?_⟩
  simp [addSource]

theorem live_newDisposable (limit : UInt32) :
    ((gumDisposableInit 1 0).gumDisposableSetTimeout limit).Live limit 0 false := by
  have once : (gumDisposableInit 1 0).ArmsOnce (.setTimeout limit) :=
    fun _ _ _ => ⟨rfl, fun _ => rfl⟩
  have sound := (sound_gumDisposableInit 1 0).gumDisposableSetTimeout (by decide) once
  obtain ⟨counter, refCount, unrefs, deleteLater⟩ := (gumDisposableInit 1 0).setTimeout_frame limit
  refine ⟨sound, refCount, unrefs, ?_, counter, deleteLater, fun reason => ?_⟩
  · rw [gumDisposableSetTimeout]
    split_ifs with same
    · exact same
    · exact timeout_updateTimer _
  · obtain ⟨-, timed⟩ := reason.resolve_left (by decide)
    rw [gumDisposableSetTimeout, if_neg (by exact Ne.symm timed)]
    exact pending_updateTimer rfl rfl timed

/-! ## Disposal -/

/-- The last reference takes the pending source along. -/
theorem Live.unref (live : d.Live limit n later) : d.gObjectUnref.Gone := by
  have removed := live.sound.pending_gSourceRemove
  rw [gObjectUnref]
  dsimp only
  rw [if_pos (by rw [live.refCount]), GumDisposable.dispose]
  split_ifs with armed
  · rw [if_pos armed] at removed
    exact ⟨by simp [gSourceRemove, live.refCount], removed⟩
  · rw [if_neg armed] at removed
    exact ⟨by simp [live.refCount], removed⟩

/-- Nothing happens, or the source that is pending disposes of the object. -/
theorem Live.expire (live : d.Live limit n later) (source : Nat) :
    d.expire source = d ∨ (d.expire source).Gone ∧ (later = true ∨ n = 0 ∧ limit ≠ 0) := by
  rw [GumDisposable.expire]
  cases found : d.pending.find? (·.1 == source) with
  | none => exact Or.inl rfl
  | some entry =>
    have mem := List.mem_of_find?_eq_some found
    have reason := live.of_pending (List.ne_nil_of_mem mem)
    have alive := live.alive
    have last : d.refCount - 1 = 0 := by rw [live.refCount]
    refine Or.inr ⟨?_, reason⟩
    rcases live.sound.pending with ⟨none, -⟩ | ⟨armed, -, -, ⟨idle, -⟩ | ⟨timer, -⟩⟩
    · rw [none] at mem
      cases mem
    · obtain rfl : entry = (d.timerId, .idle) := by simpa [idle] using mem
      have own : d.timerId = source := by simpa using List.find?_some found
      dsimp only
      rw [autoDispose, if_neg alive, gObjectUnref]
      dsimp only
      rw [if_pos last, GumDisposable.dispose, if_pos armed]
      exact ⟨last, by simp [gSourceRemove, idle]⟩
    · obtain rfl : entry = (d.timerId, .timer) := by simpa [timer] using mem
      have own : d.timerId = source := by simpa using List.find?_some found
      dsimp only
      rw [timerDispose, if_neg alive, autoDispose, if_neg alive, gObjectUnref]
      dsimp only
      rw [if_pos last, GumDisposable.dispose, if_neg (by simp)]
      exact ⟨last, by simp [gSourceRemove, timer, own]⟩

theorem Gone.expire (gone : d.Gone) (source : Nat) : d.expire source = d := by
  rw [GumDisposable.expire, gone.pending]
  rfl

end Gumd.GumDisposable
