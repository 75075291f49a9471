import Gumd.FileRules
import Gumd.Lib.Runs
import Gumd.Lib.Counters

/-!
# The database lock, call by call

`gum-lock.c` with every system call it makes: the nesting counter, a `gint` that wraps around as
compiled code does, the lock the operating system grants the process, and the effective uid.  `World`
keeps of it what the operations depend on, and its two functions simulate the ones here as long as the
counter does not overflow.
-/

namespace Gumd

open StateWp

/-- The process as `gum-lock.c` sees it, with the outcomes of its system calls to come. -/
structure PwdfLock where
  lockCount : Int32
  ruid : UInt32
  euid : UInt32
  /-- The process holds the lock of `lckpwdf`. -/
  held : Bool
  lckpwdf : Stream' Bool
  ulckpwdf : Stream' Bool
  seteuid : Stream' Bool

/-- A call to one of the two functions. -/
inductive LockCall where
  | lock
  | unlock
  deriving DecidableEq, Repr

namespace PwdfLock

/-! ## System calls -/

def callSeteuid (uid : UInt32) : StateM PwdfLock Bool := do
  let s ← get
  set { s with
    euid := if s.seteuid.head then uid else s.euid, seteuid := s.seteuid.tail }
  return s.seteuid.head

def callLckpwdf : StateM PwdfLock Bool := do
  let s ← get
  set { s with held := s.held || s.lckpwdf.head, lckpwdf := s.lckpwdf.tail }
  return s.lckpwdf.head

def callUlckpwdf : StateM PwdfLock Bool := do
  let s ← get
  set { s with held := s.held && !s.ulckpwdf.head, ulckpwdf := s.ulckpwdf.tail }
  return s.ulckpwdf.head

/-! ## The functions -/

def gumUtilsGainPrivileges : StateM PwdfLock Unit := do
  let _ ← callSeteuid 0

def gumUtilsDropPrivileges : StateM PwdfLock Unit := do
  let _ ← callSeteuid (← get).ruid

def gumLockPwdfLock : StateM PwdfLock Bool := do
  if (← get).lockCount = 0 then
    gumUtilsGainPrivileges
    if !(← callLckpwdf) then return false
  modify fun s => { s with lockCount := s.lockCount + 1 }
  return true

def gumLockPwdfUnlock : StateM PwdfLock Bool := do
  if 0 < (← get).lockCount then
    modify fun s => { s with lockCount := s.lockCount - 1 }
    if (← get).lockCount = 0 then
      if !(← callUlckpwdf) then return false
      gumUtilsDropPrivileges
    return true
  else return false

def call : LockCall → StateM PwdfLock Bool
  | .lock => gumLockPwdfLock
  | .unlock => gumLockPwdfUnlock

def step (s : PwdfLock) (c : LockCall) : PwdfLock := ((call c).run s).2

/-- Every call of a sequence satisfies `P` in the state it is made in. -/
abbrev Each (P : PwdfLock → LockCall → Prop) : PwdfLock → List LockCall → Prop :=
  Runs.Each step P

/-! ## What a call does -/

/-- The state in which `lckpwdf` is called. -/
def gained (s : PwdfLock) : PwdfLock :=
  { s with euid := if s.seteuid.head then 0 else s.euid, seteuid := s.seteuid.tail }

/-- The state after the privileges are dropped. -/
def dropped (s : PwdfLock) : PwdfLock :=
  { s with euid := if s.seteuid.head then s.ruid else s.euid, seteuid := s.seteuid.tail }

/-- The ways a call can go: what it returns, and the state after it. -/
inductive Stepped (s : PwdfLock) : LockCall → Bool → PwdfLock → Prop
  | nested (taken : s.lockCount ≠ 0) :
      Stepped s .lock true { s with lockCount := s.lockCount + 1 }
  | granted (free : s.lockCount = 0) (ok : s.lckpwdf.head = true) :
      Stepped s .lock true
        { s.gained with lockCount := 1, held := true, lckpwdf := s.lckpwdf.tail }
  | refused (free : s.lockCount = 0) (failed : s.lckpwdf.head = false) :
      Stepped s .lock false { s.gained with lckpwdf := s.lckpwdf.tail }
  | idle (zero : s.lockCount ≤ 0) : Stepped s .unlock false s
  | inner (more : 1 < s.lockCount) :
      Stepped s .unlock true { s with lockCount := s.lockCount - 1 }
  | released (last : s.lockCount = 1) (ok : s.ulckpwdf.head = true) :
      Stepped s .unlock true
        { s.dropped with lockCount := 0, held := false, ulckpwdf := s.ulckpwdf.tail }
  | stuck (last : s.lockCount = 1) (failed : s.ulckpwdf.head = false) :
      Stepped s .unlock false { s with lockCount := 0, ulckpwdf := s.ulckpwdf.tail }

variable {s : PwdfLock}

theorem stepped_lock (s : PwdfLock) : wp gumLockPwdfLock (Stepped s .lock) s := by
  simp only [gumLockPwdfLock, gumUtilsGainPrivileges, callSeteuid, callLckpwdf, wp_bind, wp_get,
    wp_ite, wp_set, wp_modify, wp_pure, ↓wp_guard]
  refine ⟨fun free => ⟨fun failed => ?_, fun ok => ?_⟩, Stepped.nested⟩
  · have held : (s.held || s.lckpwdf.head) = s.held := by rw [failed, Bool.or_false]
    rw [held]
    exact .refused free failed
  · have held : (s.held || s.lckpwdf.head) = true := by rw [ok, Bool.or_true]
    rw [held, free]
    exact .granted free ok

theorem stepped_unlock (s : PwdfLock) : wp gumLockPwdfUnlock (Stepped s .unlock) s := by
  simp only [gumLockPwdfUnlock, gumUtilsDropPrivileges, callSeteuid, callUlckpwdf, wp_bind, wp_get,
    wp_ite, wp_set, wp_modify, wp_pure, ↓wp_guard]
  refine ⟨fun some => ⟨fun last => ?_, fun more => .inner ?_⟩, fun zero => .idle (Int32.not_lt.mp zero)⟩
  swap
  · exact Counters.one_lt_of_pred_ne_zero some more
  have one : s.lockCount = 1 := Counters.eq_one_of_pred_eq_zero last
  rw [last]
  refine ⟨fun failed => ?_, fun ok => ?_⟩
  · have held : (s.held && !s.ulckpwdf.head) = s.held := by simp [failed]
    rw [held]
    exact .stuck one failed
  · have held : (s.held && !s.ulckpwdf.head) = false := by simp [ok]
    rw [held]
    exact .released one ok

theorem stepped_step (s : PwdfLock) (c : LockCall) : ∃ r, Stepped s c r (s.step c) := by
  cases c with
  | lock => exact ⟨_, stepped_lock s⟩
  | unlock => exact ⟨_, stepped_unlock s⟩

/-! ## The count and the lock of the operating system -/

/-- The counter is not increased at `G_MAXINT`. -/
def Fits (s : PwdfLock) (c : LockCall) : Prop := c = .lock → s.lockCount ≠ .maxValue

/-- As long as the counter does not overflow it is not negative, and only then. -/
theorem counted_step_iff (counted : 0 ≤ s.lockCount) (c : LockCall) :
    0 ≤ (s.step c).lockCount ↔ s.Fits c := by
  obtain ⟨r, stepped⟩ := s.stepped_step c
  generalize s.step c = t at stepped ⊢
  cases stepped with
  | nested taken => simp [Fits, Counters.succ_nonneg_iff counted]
  | granted free ok => simp [Fits, free, Counters.zero_ne_maxValue]
  | refused free failed => simp [Fits, free, Counters.zero_ne_maxValue, gained]
  | idle zero => simp [Fits, counted]
  | inner more => simp [Fits, Counters.pred_nonneg (Int32.lt_trans (by decide) more)]
  | released last ok => simp [Fits]
  | stuck last failed => simp [Fits]

/-- The process holds the lock exactly while the count is positive, and `ulckpwdf` succeeds. -/
structure Owned (s : PwdfLock) : Prop where
  counted : 0 ≤ s.lockCount
  held : s.held = true ↔ 0 < s.lockCount
  ulckpwdf : s.ulckpwdf = .const true

theorem owned_step (owned : s.Owned) {c : LockCall} (fits : s.Fits c) : (s.step c).Owned := by
  have counted := (counted_step_iff owned.counted c).mpr fits
  obtain ⟨r, stepped⟩ := s.stepped_step c
  generalize s.step c = t at stepped counted ⊢
  obtain ⟨counted₀, held, ulckpwdf⟩ := owned
  cases stepped with
  | nested taken =>
    have before : 0 < s.lockCount := Counters.pos_of_ne_zero counted₀ taken
    exact ⟨counted, by simp only [held, before, Counters.succ_pos before counted], ulckpwdf⟩
  | granted free ok => exact ⟨counted, by simp, ulckpwdf⟩
  | refused free failed => exact ⟨counted, held, ulckpwdf⟩
  | idle zero => exact ⟨counted, held, ulckpwdf⟩
  | inner more =>
    have before : 0 < s.lockCount := Int32.lt_trans (by decide) more
    exact ⟨counted, by simp only [held, before, Counters.pred_pos more], ulckpwdf⟩
  | released last ok => exact ⟨counted, by simp, by simp [ulckpwdf]⟩
  | stuck last failed => simp [ulckpwdf] at failed

/-- An overflow leaves the process with the lock and a negative count. -/
theorem held_step_iff (owned : s.Owned) (c : LockCall) :
    ((s.step c).held = true ↔ 0 < (s.step c).lockCount) ↔ s.Fits c := by
  refine ⟨fun tied lock => ?_, fun fits => (owned_step owned fits).held⟩
  subst lock
  intro largest
  have taken : s.lockCount ≠ 0 := fun zero => Counters.zero_ne_maxValue (zero.symm.trans largest)
  obtain ⟨r, stepped⟩ := s.stepped_step .lock
  generalize s.step .lock = t at stepped tied
  cases stepped with
  | nested taken =>
    have held : s.held = true := owned.held.mpr (Counters.pos_of_ne_zero owned.counted taken)
    have positive : 0 < s.lockCount + 1 := tied.mp held
    rw [largest] at positive
    exact absurd positive (by decide)
  | granted free ok => exact taken free
  | refused free failed => exact taken free

/-- The count is never negative exactly if it never overflows, whatever the system calls come to. -/
theorem each_counted_iff {s : PwdfLock} (calls : List LockCall) (counted : 0 ≤ s.lockCount) :
    Each (fun s c => 0 ≤ (s.step c).lockCount) s calls ↔ Each Fits s calls := by
  induction calls generalizing s with
  | nil => exact Iff.rfl
  | cons c rest ih =>
    have head := counted_step_iff counted c
    constructor
    · intro each
      exact ⟨head.mp each.1, (ih each.1).mp each.2⟩
    · intro each
      have next := head.mpr each.1
      exact ⟨next, (ih next).mpr each.2⟩

/-- The lock is held exactly while the count is positive, exactly if the count never overflows. -/
theorem each_held_iff {s : PwdfLock} (calls : List LockCall) (owned : s.Owned) :
    Each (fun s c => (s.step c).held = true ↔ 0 < (s.step c).lockCount) s calls ↔ Each Fits s calls := by
  induction calls generalizing s with
  | nil => exact Iff.rfl
  | cons c rest ih =>
    have head := held_step_iff owned c
    constructor
    · intro each
      have fits := head.mp each.1
      exact ⟨fits, (ih (owned_step owned fits)).mp each.2⟩
    · intro each
      exact ⟨head.mpr each.1, (ih (owned_step owned each.1)).mpr each.2⟩

/-- Releasing a lock that is not held does nothing. -/
theorem unlock_zero (zero : s.lockCount = 0) : gumLockPwdfUnlock.run s = (false, s) := by
  have unlocked := stepped_unlock s
  rw [wp] at unlocked
  generalize gumLockPwdfUnlock.run s = out at unlocked ⊢
  obtain ⟨r, t⟩ := out
  cases unlocked with
  | idle _ => rfl
  | inner more =>
    rw [zero] at more
    exact absurd more (by decide)
  | released last ok => exact absurd (zero.symm.trans last) (by decide)
  | stuck last failed => exact absurd (zero.symm.trans last) (by decide)

/-! ## The privileges -/

/-- The process has the privileges of root exactly while the count is positive. -/
def Privileged (s : PwdfLock) : Prop := s.euid = 0 ↔ 0 < s.lockCount

/-- The system call that the function makes, if it makes one, succeeds. -/
def Succeeds (s : PwdfLock) : LockCall → Prop
  | .lock => s.lockCount = 0 → s.lckpwdf.head = true
  | .unlock => s.lockCount = 1 → s.ulckpwdf.head = true

/-- A process that is not root has its own privileges outside the lock, and `seteuid` succeeds. -/
structure Dropped (s : PwdfLock) : Prop where
  counted : 0 ≤ s.lockCount
  ruid : s.ruid ≠ 0
  privileged : s.Privileged
  seteuid : s.seteuid = .const true

/-- From such a state on, a call keeps the privileges to the lock exactly if its system call
succeeds and the counter does not overflow. -/
theorem privileged_step_iff (dropped : s.Dropped) (c : LockCall) :
    (s.step c).Privileged ↔ s.Succeeds c ∧ s.Fits c := by
  have counts := counted_step_iff dropped.counted c
  obtain ⟨r, stepped⟩ := s.stepped_step c
  generalize s.step c = t at stepped counts ⊢
  obtain ⟨counted, ruid, privileged, seteuid⟩ := dropped
  cases stepped with
  | nested taken =>
    have before := Counters.pos_of_ne_zero counted taken
    have root : s.euid = 0 := privileged.mpr before
    rw [← counts]
    simp only [Privileged, Succeeds, root, taken, false_implies, true_and, true_iff]
    exact ⟨Int32.le_of_lt, Counters.succ_pos before⟩
  | granted free ok => simp [Privileged, Succeeds, Fits, gained, seteuid, ok, free, Counters.zero_ne_maxValue]
  | refused free failed => simp [Privileged, Succeeds, gained, seteuid, failed, free]
  | idle zero =>
    have other : s.lockCount ≠ 1 := by
      intro one
      rw [one] at zero
      exact absurd zero (by decide)
    simp [Succeeds, Fits, other, privileged]
  | inner more =>
    have root : s.euid = 0 := privileged.mpr (Int32.lt_trans (by decide) more)
    have other : s.lockCount ≠ 1 := by
      intro one
      rw [one] at more
      exact absurd more (by decide)
    simp [Privileged, Succeeds, Fits, root, other, Counters.pred_pos more]
  | released last ok => simp [Privileged, Succeeds, Fits, PwdfLock.dropped, seteuid, ok, ruid]
  | stuck last failed =>
    have root : s.euid = 0 := privileged.mpr (by rw [last]; decide)
    simp [Privileged, Succeeds, root, last, failed]

theorem dropped_step (dropped : s.Dropped) {c : LockCall} (privileged : (s.step c).Privileged) :
    (s.step c).Dropped := by
  have fits := ((privileged_step_iff dropped c).mp privileged).2
  have counted := (counted_step_iff dropped.counted c).mpr fits
  obtain ⟨r, stepped⟩ := s.stepped_step c
  generalize s.step c = t at stepped counted privileged ⊢
  obtain ⟨counted₀, ruid, -, seteuid⟩ := dropped
  cases stepped with
  | nested taken => exact ⟨counted, ruid, privileged, seteuid⟩
  | granted free ok => exact ⟨counted, ruid, privileged, by simp [gained, seteuid]⟩
  | refused free failed => exact ⟨counted, ruid, privileged, by simp [gained, seteuid]⟩
  | idle zero => exact ⟨counted, ruid, privileged, seteuid⟩
  | inner more => exact ⟨counted, ruid, privileged, seteuid⟩
  | released last ok => exact ⟨counted, ruid, privileged, by simp [PwdfLock.dropped, seteuid]⟩
  | stuck last failed => exact ⟨counted, ruid, privileged, seteuid⟩

/-- After every call the process is privileged exactly if it holds the lock, exactly if every
`lckpwdf` and every `ulckpwdf` of the sequence succeeds and the counter never overflows. -/
theorem each_privileged_iff {s : PwdfLock} (calls : List LockCall) (count : s.lockCount = 0)
    (ruid : s.ruid ≠ 0) (euid : s.euid = s.ruid) (seteuid : s.seteuid = .const true) :
    Each (fun s c => (s.step c).Privileged) s calls ↔
      Each (fun s c => s.Succeeds c ∧ s.Fits c) s calls := by
  have start : s.Dropped := by
    refine ⟨by rw [count]; decide, ruid, ?_, seteuid⟩
    rw [Privileged, euid, count]
    exact ⟨fun root => absurd root ruid, fun positive => absurd positive (by decide)⟩
  clear count ruid euid seteuid
  induction calls generalizing s with
  | nil => exact Iff.rfl
  | cons c rest ih =>
    have head := privileged_step_iff start c
    constructor
    · intro each
      exact ⟨head.mp each.1, (ih (dropped_step start each.1)).mp each.2⟩
    · intro each
      have privileged := head.mpr each.1
      exact ⟨privileged, (ih (dropped_step start privileged)).mpr each.2⟩

end PwdfLock

namespace Sample

/-- A process of user 1000 with its privileges dropped. -/
def droppedProcess : PwdfLock where
  lockCount := 0
  ruid := 1000
  euid := 1000
  held := false
  lckpwdf := .const true
  ulckpwdf := .const true
  seteuid := .const true

/-- A lock that is refused leaves the process with the privileges of root. -/
theorem not_each_privileged :
    ¬PwdfLock.Each (fun s c => (s.step c).Privileged)
      { droppedProcess with lckpwdf := .const false } [.lock] := by
  intro each
  have positive := each.1.mp rfl
  exact absurd positive (by decide)

theorem each_privileged_iff_droppedProcess :
    PwdfLock.Each (fun s c => (s.step c).Privileged) droppedProcess [.lock, .lock, .unlock, .unlock] ↔
      PwdfLock.Each (fun s c => s.Succeeds c ∧ s.Fits c) droppedProcess
        [.lock, .lock, .unlock, .unlock] :=
  PwdfLock.each_privileged_iff _ rfl (by decide) rfl rfl

end Sample

/-! ## The lock of `World` -/

/-- A world sees the same counter, user ids and outcomes, and its process was started by root. -/
structure PwdfLock.Shown (s : PwdfLock) (w : World) : Prop where
  lockCount : s.lockCount.toInt = w.process.lockCount
  ruid : s.ruid = w.process.ruid
  euid : s.euid = w.process.euid
  suid : w.process.suid = 0
  lckpwdf : s.lckpwdf = w.faults.lock
  ulckpwdf : s.ulckpwdf = w.faults.unlock
  seteuid : s.seteuid = .const true

/-- A process started by root can always set its effective uid. -/
theorem seteuid_of_suid {p : Process} (suid : p.suid = 0) :
    gumUtilsGainPrivileges p = { p with euid := 0 } ∧
      gumUtilsDropPrivileges p = { p with euid := p.ruid } := by
  simp [gumUtilsGainPrivileges, gumUtilsDropPrivileges, Process.seteuid, suid]

/-- The counter of the world is small enough for a `gint`, which has the value. -/
theorem PwdfLock.Shown.lockCount_eq_iff {s : PwdfLock} {w : World} (shown : s.Shown w) {n : Int32} {m : Nat}
    (value : n.toInt = m) : s.lockCount = n ↔ w.process.lockCount = m := by
  rw [← Int32.toInt_inj, shown.lockCount, value]
  exact Int.ofNat_inj

/-- The two functions do the same unless the counter overflows, which the world notes. -/
theorem shown_gumLockPwdfLock {s : PwdfLock} {w : World} (shown : s.Shown w) (fits : s.Fits .lock) :
    wp PwdfLock.gumLockPwdfLock (fun r t =>
      wp gumLockPwdfLock (fun r' w' => r' = r ∧ t.Shown w' ∧
        w'.process.overflowed = w.process.overflowed) w) s := by
  have free_iff : s.lockCount = 0 ↔ w.process.lockCount = 0 := shown.lockCount_eq_iff rfl
  have below : ¬gMaxint ≤ w.process.lockCount := by
    have other : s.lockCount.toInt ≠ 2 ^ 31 - 1 := fun largest => fits rfl (Int32.toInt_inj.mp largest)
    have upper := s.lockCount.toInt_lt
    have value := shown.lockCount
    rw [gMaxint]
    omega
  obtain ⟨lockCount, ruid, euid, suid, lckpwdf, ulckpwdf, seteuid⟩ := shown
  refine wp_mono (PwdfLock.stepped_lock s) ?_
  intro r t stepped
  simp only [gumLockPwdfLock, wp_bind, wp_get, wp_ite, wp_set, wp_pure, seteuid_of_suid suid,
    ← lckpwdf]
  cases stepped with
  | nested taken =>
    refine ⟨fun free => absurd (free_iff.mpr free) taken, fun _ => ⟨rfl, ?_, by simp [below]⟩⟩
    refine ⟨?_, ruid, euid, suid, lckpwdf, ulckpwdf, seteuid⟩
    rw [Counters.toInt_succ (fits rfl), lockCount]
    rfl
  | granted free ok =>
    refine ⟨fun _ => ⟨fun _ => ⟨rfl, ?_, trivial⟩, fun failed => absurd ok failed⟩,
      fun taken => absurd (free_iff.mp free) taken⟩
    exact ⟨rfl, ruid, by simp [PwdfLock.gained, seteuid], suid, rfl,
      ulckpwdf, by simp [PwdfLock.gained, seteuid]⟩
  | refused free failed =>
    refine ⟨fun _ => ⟨fun ok => absurd ok (by simp [failed]), fun _ => ⟨rfl, ?_, trivial⟩⟩,
      fun taken => absurd (free_iff.mp free) taken⟩
    exact ⟨lockCount, ruid, by simp [PwdfLock.gained, seteuid], suid,
      rfl, ulckpwdf, by simp [PwdfLock.gained, seteuid]⟩

theorem shown_gumLockPwdfUnlock {s : PwdfLock} {w : World} (shown : s.Shown w) :
    wp PwdfLock.gumLockPwdfUnlock (fun r t =>
      wp gumLockPwdfUnlock (fun r' w' => r' = r ∧ t.Shown w') w) s := by
  have one_iff : s.lockCount = 1 ↔ w.process.lockCount = 1 := shown.lockCount_eq_iff rfl
  obtain ⟨lockCount, ruid, euid, suid, lckpwdf, ulckpwdf, seteuid⟩ := shown
  refine wp_mono (PwdfLock.stepped_unlock s) ?_
  intro r t stepped
  have drop : ∀ n, gumUtilsDropPrivileges { w.process with lockCount := n } =
      { w.process with lockCount := n, euid := w.process.ruid } :=
    fun n => (seteuid_of_suid (p := { w.process with lockCount := n }) suid).2
  simp only [gumLockPwdfUnlock, wp_bind, wp_get, wp_ite, wp_set, wp_pure, drop, ← ulckpwdf]
  cases stepped with
  | idle zero =>
    have zero' : w.process.lockCount = 0 := by
      replace zero : s.lockCount.toInt ≤ 0 := Int32.le_iff_toInt_le.mp zero
      omega
    refine ⟨fun _ => ⟨rfl, ?_⟩, fun positive => absurd zero' positive⟩
    exact ⟨lockCount, ruid, euid, suid, lckpwdf, ulckpwdf, seteuid⟩
  | inner more =>
    have value : (s.lockCount - 1).toInt = s.lockCount.toInt - 1 :=
      Counters.toInt_pred (Int32.lt_trans (by decide) more)
    replace more : 1 < s.lockCount.toInt := Int32.lt_iff_toInt_lt.mp more
    have positive : w.process.lockCount ≠ 0 := by omega
    have left : w.process.lockCount - 1 ≠ 0 := by omega
    refine ⟨fun zero => absurd zero positive, fun _ => ⟨fun last => absurd last left,
      fun _ => ⟨rfl, ?_⟩⟩⟩
    exact ⟨by simp only; omega, ruid, euid, suid, lckpwdf, ulckpwdf, seteuid⟩
  | released last ok =>
    have last' : w.process.lockCount = 1 := one_iff.mp last
    refine ⟨fun zero => absurd zero (by omega), fun _ => ⟨fun _ => ⟨fun _ => ⟨rfl, ?_⟩,
      fun failed => absurd ok failed⟩, fun left => absurd last' (by omega)⟩⟩
    exact ⟨by simp [last'], ruid, by simp [PwdfLock.dropped, seteuid, ruid], suid, lckpwdf,
      rfl, by simp [PwdfLock.dropped, seteuid]⟩
  | stuck last failed =>
    have last' : w.process.lockCount = 1 := one_iff.mp last
    refine ⟨fun zero => absurd zero (by omega), fun _ => ⟨fun _ => ⟨fun ok => ?_,
      fun _ => ⟨rfl, ?_⟩⟩, fun left => absurd last' (by omega)⟩⟩
    · exact absurd ok (by simp [failed])
    · exact ⟨by simp [last'], ruid, euid, suid, lckpwdf, rfl, seteuid⟩

end Gumd
