import Gumd.Operation

/-!
# Rules for the file and lock functions

The weakest preconditions of the functions in `Gumd.File`, as the proofs about the operations use
them.  A world is `Steady` while the database lock is held and no file operation fails: there a
lookup is a pure function of the files and a rewrite succeeds exactly if its callback does.
-/

namespace Gumd

open StateWp EntryLoop

/-! ## Lifting -/

section Lift

variable {O P α : Type}

@[simp] theorem wp_liftM (m : StateM World α) (Q : α → St O → Prop) (s : St O) :
    wp (liftM m : GumM O α) Q s ↔ wp m (fun a w => Q a { s with world := w }) s.world := Iff.rfl

@[simp] theorem wp_runOn (object : O) (m : GumM O α) (Q : α × O → World → Prop) (w : World) :
    wp (runOn object m) Q w ↔ wp m (fun a t => Q (a, t.self) t.world) ⟨object, w⟩ := Iff.rfl

@[simp] theorem wp_modifySelf (f : O → O) (Q : Unit → St O → Prop) (s : St O) :
    wp (modifySelf f) Q s ↔ Q ⟨⟩ { s with self := f s.self } := Iff.rfl

@[simp] theorem wp_getSelf (Q : O → St O → Prop) (s : St O) :
    wp (getSelf : GumM O O) Q s ↔ Q s.self s := Iff.rfl

@[simp] theorem wp_gumReturnWithError (e : GError) (retval : α) (Q : α → World → Prop) (w : World) :
    wp (gumReturnWithError e retval) Q w ↔ Q retval { w with error := some e } := Iff.rfl

@[simp] theorem wp_withNullError (m : StateM World α) (Q : α → World → Prop) (w : World) :
    wp (withNullError m) Q w ↔ wp m (fun a t => Q a { t with error := w.error }) w := Iff.rfl

end Lift

/-! ## The lock

Every function of the model leaves the lock count as it found it and changes the streams of
outcomes only by using them up. -/

/-- What a balanced piece of an operation keeps: the files stay as readable and as writable as they
were, and the lock is held as often. -/
structure World.Balanced (w t : World) : Prop where
  read : w.faults.read = .const true → t.faults.read = .const true
  readShadow : w.faults.readShadow = .const true → t.faults.readShadow = .const true
  write : w.faults.write = .const none → t.faults.write = .const none
  lockCount : t.process.lockCount = w.process.lockCount

theorem World.Balanced.refl (w : World) : w.Balanced w := ⟨id, id, id, rfl⟩

theorem World.Balanced.trans {u v w : World} (first : u.Balanced v) (second : v.Balanced w) :
    u.Balanced w :=
  ⟨second.read ∘ first.read, second.readShadow ∘ first.readShadow, second.write ∘ first.write,
    second.lockCount.trans first.lockCount⟩

/-- What a step that rewrites no file keeps. -/
structure World.Quiet (w t : World) : Prop where
  files : t.files = w.files
  balanced : w.Balanced t
  overflowed : t.process.overflowed = w.process.overflowed

/-- Files and errors play no part. -/
theorem World.Balanced.of_same {w t : World} (faults : t.faults = w.faults)
    (process : t.process = w.process) : w.Balanced t :=
  ⟨fun read => faults ▸ read, fun read => faults ▸ read, fun write => faults ▸ write,
    congrArg _ process⟩

theorem World.Quiet.error (w : World) (e : Option GError) : w.Quiet { w with error := e } :=
  ⟨rfl, .of_same rfl rfl, rfl⟩

theorem World.Quiet.refl (w : World) : w.Quiet w := ⟨rfl, .refl w, rfl⟩

theorem World.Quiet.trans {u v w : World} (first : u.Quiet v) (second : v.Quiet w) : u.Quiet w :=
  ⟨second.files.trans first.files, first.balanced.trans second.balanced,
    second.overflowed.trans first.overflowed⟩

/-- What is left of a balanced piece once the lock is released. -/
structure World.Released (w t : World) : Prop where
  read : w.faults.read = .const true → t.faults.read = .const true
  readShadow : w.faults.readShadow = .const true → t.faults.readShadow = .const true
  write : w.faults.write = .const none → t.faults.write = .const none
  lockCount : t.process.lockCount = w.process.lockCount - 1

namespace World

/-- Whether the lock is granted. -/
def lockGranted (w : World) : Bool := (gumLockPwdfLock.run w).1

/-- The world after asking for the lock. -/
def afterLock (w : World) : World := (gumLockPwdfLock.run w).2

/-- The world after releasing the lock. -/
def afterUnlock (w : World) : World := (gumLockPwdfUnlock.run w).2

end World

@[simp] theorem wp_gumLockPwdfLock (Q : Bool → World → Prop) (w : World) :
    wp gumLockPwdfLock Q w ↔ Q w.lockGranted w.afterLock := Iff.rfl

@[simp] theorem wp_gumLockPwdfUnlock (Q : Bool → World → Prop) (w : World) :
    wp gumLockPwdfUnlock Q w ↔ Q (gumLockPwdfUnlock.run w).1 w.afterUnlock := Iff.rfl

/-- Asking for the lock, case by case. -/
theorem gumLockPwdfLock_spec (w : World) :
    wp gumLockPwdfLock (fun granted t => t.files = w.files ∧ t.faults.read = w.faults.read ∧
      t.faults.readShadow = w.faults.readShadow ∧ t.faults.write = w.faults.write ∧
      t.process.lockCount = w.process.lockCount + (if granted then 1 else 0) ∧
      (w.process.lockCount ≠ 0 → granted = true)) w := by
  simp only [gumLockPwdfLock, wp_bind, wp_get, wp_ite, wp_set, wp_pure]
  refine ⟨fun free => ⟨fun _ => ?_, fun _ => ?_⟩, fun held => ?_⟩
  · simp [free]
  · by_cases root : w.process.euid = 0 ∨ 0 = w.process.ruid ∨ 0 = w.process.suid <;>
      simp [gumUtilsGainPrivileges, Process.seteuid, root, free]
  · simp

theorem gumLockPwdfUnlock_spec (w : World) :
    wp gumLockPwdfUnlock (fun _ t => t.files = w.files ∧ t.faults.read = w.faults.read ∧
      t.faults.readShadow = w.faults.readShadow ∧ t.faults.write = w.faults.write ∧
      t.process.lockCount = w.process.lockCount - 1) w := by
  simp only [gumLockPwdfUnlock, wp_bind, wp_get, wp_ite, wp_set, wp_pure]
  refine ⟨fun free => ?_, fun held => ⟨fun last => ⟨fun _ => ?_, fun _ => ?_⟩, fun _ => ?_⟩⟩
  · simp [free]
  · simp only [gumUtilsDropPrivileges, Process.seteuid]
    split_ifs <;> simp
  · simp
  · simp

namespace World

@[simp] theorem files_afterLock (w : World) : w.afterLock.files = w.files :=
  (gumLockPwdfLock_spec w).1

@[simp] theorem read_afterLock (w : World) : w.afterLock.faults.read = w.faults.read :=
  (gumLockPwdfLock_spec w).2.1

@[simp] theorem readShadow_afterLock (w : World) :
    w.afterLock.faults.readShadow = w.faults.readShadow := (gumLockPwdfLock_spec w).2.2.1

@[simp] theorem write_afterLock (w : World) : w.afterLock.faults.write = w.faults.write :=
  (gumLockPwdfLock_spec w).2.2.2.1

theorem lockCount_afterLock (w : World) : w.afterLock.process.lockCount =
    w.process.lockCount + (if w.lockGranted then 1 else 0) :=
  (gumLockPwdfLock_spec w).2.2.2.2.1

/-- A lock that is held is granted again. -/
theorem lockGranted_of_held {w : World} (held : w.process.lockCount ≠ 0) :
    w.lockGranted = true :=
  (gumLockPwdfLock_spec w).2.2.2.2.2 held

@[simp] theorem files_afterUnlock (w : World) : w.afterUnlock.files = w.files :=
  (gumLockPwdfUnlock_spec w).1

/-- The counter can overflow only where the lock is granted. -/
theorem overflowed_afterLock (w : World) : w.afterLock.process.overflowed =
    (w.process.overflowed || (w.lockGranted && decide (gMaxint ≤ w.process.lockCount))) := by
  have taken : wp gumLockPwdfLock (fun granted t => t.process.overflowed =
      (w.process.overflowed || (granted && decide (gMaxint ≤ w.process.lockCount)))) w := by
    simp only [gumLockPwdfLock, wp_bind, wp_get, wp_ite, wp_set, wp_pure]
    refine ⟨fun free => ?_, fun held => by simp⟩
    have kept : (gumUtilsGainPrivileges w.process).overflowed = w.process.overflowed := by
      rw [gumUtilsGainPrivileges, Process.seteuid]
      split_ifs <;> rfl
    simp [free, gMaxint, kept]
  exact taken

theorem overflowed_afterUnlock (w : World) :
    w.afterUnlock.process.overflowed = w.process.overflowed := by
  have released : wp gumLockPwdfUnlock (fun _ t => t.process.overflowed = w.process.overflowed) w := by
    simp only [gumLockPwdfUnlock, gumUtilsDropPrivileges, Process.seteuid, wp_bind, wp_get, wp_ite,
      wp_set, wp_pure]
    refine ⟨fun _ => trivial, fun _ => ⟨fun _ => ⟨fun _ => ?_, fun _ => trivial⟩, fun _ => trivial⟩⟩
    split_ifs <;> rfl
  exact released

/-- A refused lock changes nothing an operation depends on. -/
theorem quiet_of_refused {w : World} (refused : w.lockGranted = false) :
    w.Quiet w.afterLock := by
  refine ⟨by simp, ⟨by simp, by simp, by simp, ?_⟩, ?_⟩
  · simp [lockCount_afterLock, refused]
  · simp [overflowed_afterLock, refused]

theorem released_afterUnlock (w : World) : w.Released w.afterUnlock := by
  obtain ⟨-, read, readShadow, write, lockCount⟩ := gumLockPwdfUnlock_spec w
  exact ⟨fun readable => read.trans readable, fun readable => readShadow.trans readable,
    fun writable => write.trans writable, lockCount⟩

theorem Balanced.released {u v w : World} (first : u.Balanced v) (second : v.Released w) :
    u.Released w := by
  refine ⟨second.read ∘ first.read, second.readShadow ∘ first.readShadow,
    second.write ∘ first.write, ?_⟩
  rw [second.lockCount, first.lockCount]

/-- Releasing the lock that was granted leaves it as it was. -/
theorem balanced_of_released {w t : World} (granted : w.lockGranted = true)
    (released : w.afterLock.Released t) : w.Balanced t := by
  refine ⟨fun readable => released.read (by simpa using readable),
    fun readable => released.readShadow (by simpa using readable),
    fun writable => released.write (by simpa using writable), ?_⟩
  rw [released.lockCount, lockCount_afterLock, granted]
  simp

end World

/-- Nothing disturbs an operation: it gets the lock, no rewrite fails, and every file but passwd
and group can be read. -/
structure World.Calm (w : World) : Prop where
  granted : w.lockGranted = true
  readShadow : w.faults.readShadow = .const true
  write : w.faults.write = .const none

/-- No file operation fails. -/
structure World.Faultless (w : World) : Prop where
  read : w.faults.read = .const true
  readShadow : w.faults.readShadow = .const true
  write : w.faults.write = .const none

theorem World.Faultless.calm {w : World} (faultless : w.Faultless)
    (granted : w.lockGranted = true) : w.Calm :=
  ⟨granted, faultless.readShadow, faultless.write⟩

theorem World.Calm.of_held {w : World} (held : w.process.lockCount ≠ 0)
    (readShadow : w.faults.readShadow = .const true) (write : w.faults.write = .const none) : w.Calm :=
  ⟨World.lockGranted_of_held held, readShadow, write⟩

/-- An operation that takes the lock: it is refused, or its body runs with the lock held and
releases it. -/
theorem wp_lockedObject {O α : Type} {exit body : GumM O α} {P : α → O → Files → Prop} {s : St O}
    (refused : s.world.lockGranted = false → ∀ t : St O, t.world.files = s.world.files →
      wp exit (fun r u => t.world.Quiet u.world ∧ P r u.self s.world.files) t)
    (granted : s.world.lockGranted = true → ∀ t : St O, t.self = s.self →
      t.world = s.world.afterLock →
      wp body (fun r u => t.world.Released u.world ∧ P r u.self u.world.files) t) :
    wp (liftM gumLockPwdfLock >>= fun ok => if !ok then exit else body)
      (fun r t => s.world.Balanced t.world ∧ P r t.self t.world.files) s := by
  simp only [wp_bind, wp_liftM, wp_gumLockPwdfLock, ↓wp_guard]
  refine ⟨fun denied => ?_, fun given => ?_⟩
  · refine wp_mono (refused denied ⟨s.self, s.world.afterLock⟩ (by simp)) ?_
    rintro r u ⟨quiet, result⟩
    have whole := (World.quiet_of_refused denied).trans quiet
    exact ⟨whole.balanced, by rwa [whole.files]⟩
  · refine wp_mono (granted given ⟨s.self, s.world.afterLock⟩ rfl rfl) ?_
    rintro r u ⟨released, result⟩
    exact ⟨World.balanced_of_released given released, result⟩

theorem wp_locked {O α : Type} {exit body : GumM O α} {P : α → Files → Prop} {s : St O}
    (refused : s.world.lockGranted = false → ∀ t : St O, t.world.files = s.world.files →
      wp exit (fun r u => t.world.Quiet u.world ∧ P r s.world.files) t)
    (granted : s.world.lockGranted = true → ∀ t : St O, t.self = s.self →
      t.world = s.world.afterLock →
      wp body (fun r u => t.world.Released u.world ∧ P r u.world.files) t) :
    wp (liftM gumLockPwdfLock >>= fun ok => if !ok then exit else body)
      (fun r t => s.world.Balanced t.world ∧ P r t.world.files) s :=
  @wp_lockedObject O α exit body (fun r _ f => P r f) s refused granted

/-- An operation that is refused the lock does what its exit does. -/
theorem wp_refused {O α : Type} {exit body : GumM O α} {Q : α → St O → Prop} {s : St O}
    (denied : s.world.lockGranted = false)
    (exits : ∀ t : St O, t.world.files = s.world.files → wp exit Q t) :
    wp (liftM gumLockPwdfLock >>= fun ok => if !ok then exit else body) Q s := by
  simp only [wp_bind, wp_liftM, wp_gumLockPwdfLock, ↓wp_guard, denied]
  exact ⟨fun _ => exits _ (World.files_afterLock _), by simp⟩

section Unlock

variable {O α : Type}

@[simp] theorem wp_unlockReturn (retval : α) (Q : α → St O → Prop) (s : St O) :
    wp (unlockReturn retval) Q s ↔
      Q retval { s with world := s.world.afterUnlock } := Iff.rfl

@[simp] theorem wp_unlockReturnWithError (e : GError) (retval : α) (Q : α → St O → Prop)
    (s : St O) :
    wp (unlockReturnWithError e retval) Q s ↔
      Q retval { s with world := { s.world.afterUnlock with error := some e } } := Iff.rfl

/-- The ends of an operation's body. -/
theorem unlockReturn_object {retval : α} {P : α → O → Files → Prop} {s t : St O}
    (balanced : s.world.Balanced t.world) (result : P retval t.self t.world.files) :
    wp (unlockReturn retval)
      (fun r u => s.world.Released u.world ∧ P r u.self u.world.files) t := by
  rw [wp_unlockReturn]
  exact ⟨balanced.released t.world.released_afterUnlock, by simpa using result⟩

theorem unlockReturnWithError_object (e : GError) {retval : α} {P : α → O → Files → Prop}
    {s t : St O} (balanced : s.world.Balanced t.world) (result : P retval t.self t.world.files) :
    wp (unlockReturnWithError e retval)
      (fun r u => s.world.Released u.world ∧ P r u.self u.world.files) t := by
  rw [wp_unlockReturnWithError]
  have released := balanced.released t.world.released_afterUnlock
  exact ⟨⟨released.read, released.readShadow, released.write, released.lockCount⟩, by simpa using result⟩

theorem unlockReturn_spec {retval : α} {P : α → Files → Prop} {s t : St O}
    (balanced : s.world.Balanced t.world) (result : P retval t.world.files) :
    wp (unlockReturn retval)
      (fun r u => s.world.Released u.world ∧ P r u.world.files) t :=
  @unlockReturn_object O α retval (fun r _ f => P r f) s t balanced result

theorem unlockReturnWithError_spec (e : GError) {retval : α} {P : α → Files → Prop} {s t : St O}
    (balanced : s.world.Balanced t.world) (result : P retval t.world.files) :
    wp (unlockReturnWithError e retval)
      (fun r u => s.world.Released u.world ∧ P r u.world.files) t :=
  @unlockReturnWithError_object O α e retval (fun r _ f => P r f) s t balanced result

end Unlock

/-! ## Lookups -/

section Lookup

variable {ε : Type} {w : World}

/-- A readable file answers a lookup from its entries. -/
theorem wp_gumFileLookup (readable : w.faults.read = .const true) (found : Files → Option ε)
    (Q : Option ε → World → Prop) :
    wp (gumFileLookup openFile found) Q w ↔ Q (found w.files) w := by
  obtain ⟨files, ⟨lock, unlock, read, readShadow, write⟩, process, error⟩ := w
  cases readable
  exact Iff.rfl

theorem wp_gumFileGetpwnam (readable : w.faults.read = .const true) (name : Option Str)
    (Q : Option Passwd → World → Prop) :
    wp (gumFileGetpwnam name) Q w ↔ Q (name.bind w.files.getpwnam) w := by
  cases name with
  | none => rfl
  | some name => exact wp_gumFileLookup readable _ Q

theorem wp_gumFileGetpwuid (readable : w.faults.read = .const true) (uid : UInt32)
    (Q : Option Passwd → World → Prop) :
    wp (gumFileGetpwuid uid) Q w ↔ Q (w.files.getpwuid uid) w :=
  wp_gumFileLookup readable _ Q

theorem wp_gumFileFindUserByGid (readable : w.faults.read = .const true) {gid : UInt32}
    (valid : gid ≠ gumGroupInvalidGid) (Q : Option Passwd → World → Prop) :
    wp (gumFileFindUserByGid gid) Q w ↔ Q (w.files.passwd.find? (·.pwGid == gid)) w := by
  rw [gumFileFindUserByGid, if_neg valid]
  exact wp_gumFileLookup readable _ Q

theorem wp_gumFileGetgrnam (readable : w.faults.read = .const true) (name : Option Str)
    (Q : Option Group → World → Prop) :
    wp (gumFileGetgrnam name) Q w ↔ Q (name.bind w.files.getgrnam) w := by
  cases name with
  | none => rfl
  | some name => exact wp_gumFileLookup readable _ Q

theorem wp_gumFileGetgrgid (readable : w.faults.read = .const true) (gid : UInt32)
    (Q : Option Group → World → Prop) :
    wp (gumFileGetgrgid gid) Q w ↔ Q (w.files.getgrgid gid) w :=
  wp_gumFileLookup readable _ Q

/-- What a lookup answers in a file that may fail to open; `clear` says that it never does. -/
def Answer (clear : Prop) (found r : Option ε) : Prop := r = found ∨ r = none ∧ ¬clear

theorem Answer.eq {clear : Prop} {found r : Option ε} (answer : Answer clear found r)
    (h : clear) : r = found :=
  answer.resolve_right fun failed => failed.2 h

theorem Answer.of_some {clear : Prop} {found : Option ε} {e : ε}
    (answer : Answer clear found (some e)) : found = some e :=
  (answer.resolve_right fun failed => nomatch failed.1).symm

theorem Answer.mono {clear clear' : Prop} {found r : Option ε} (weaken : clear' → clear)
    (answer : Answer clear found r) : Answer clear' found r :=
  answer.imp_right fun failed => ⟨failed.1, fun h => failed.2 (weaken h)⟩

/-- A lookup in the passwd or group file, which may fail to open. -/
theorem gumFileLookup_answer (found : Files → Option ε) (w : World) :
    wp (gumFileLookup openFile found) (fun r t =>
      Answer (w.faults.read = .const true) (found w.files) r ∧ w.Quiet t) w := by
  have quiet : w.Quiet { w with faults := { w.faults with read := w.faults.read.tail } } :=
    ⟨rfl, ⟨fun readable => by simp [readable], id, id, rfl⟩, rfl⟩
  simp only [gumFileLookup, openFile, wp_bind, wp_get, wp_set, wp_pure, wp_ite]
  refine ⟨fun _ => ⟨Or.inl rfl, quiet⟩, fun failed => ⟨Or.inr ⟨rfl, ?_⟩, quiet⟩⟩
  intro readable
  simp [readable] at failed

theorem gumFileGetpwuid_spec (uid : UInt32) (w : World) :
    wp (gumFileGetpwuid uid) (fun r t =>
      Answer (w.faults.read = .const true) (w.files.getpwuid uid) r ∧ w.Quiet t) w :=
  gumFileLookup_answer (·.getpwuid uid) w

theorem gumFileGetgrnam_spec (name : Str) (w : World) :
    wp (gumFileGetgrnam (some name)) (fun r t =>
      Answer (w.faults.read = .const true) (w.files.getgrnam name) r ∧ w.Quiet t) w :=
  gumFileLookup_answer (·.getgrnam name) w

/-- What a step keeps that opens files other than passwd and group. -/
structure World.Looked (w t : World) : Prop where
  quiet : w.Quiet t
  process : t.process = w.process

theorem World.Looked.refl (w : World) : w.Looked w := ⟨.refl w, rfl⟩

theorem World.Looked.trans {u v w : World} (first : u.Looked v) (second : v.Looked w) :
    u.Looked w :=
  ⟨first.quiet.trans second.quiet, second.process.trans first.process⟩

theorem World.Looked.error (w : World) (e : Option GError) : w.Looked { w with error := e } :=
  ⟨.error w e, rfl⟩

theorem gumFileLookup_spec (found : Files → Option ε) (w : World) :
    wp (gumFileLookup openShadowFile found) (fun r t =>
      Answer (w.faults.readShadow = .const true) (found w.files) r ∧ w.Looked t) w := by
  have looked : w.Looked { w with
      faults := { w.faults with readShadow := w.faults.readShadow.tail } } :=
    ⟨⟨rfl, ⟨id, fun readable => by simp [readable], id, rfl⟩, rfl⟩, rfl⟩
  simp only [gumFileLookup, openShadowFile, wp_bind, wp_get, wp_set, wp_pure, wp_ite]
  refine ⟨fun _ => ⟨Or.inl rfl, looked⟩, fun failed => ⟨Or.inr ⟨rfl, ?_⟩, looked⟩⟩
  intro readable
  simp [readable] at failed

theorem gumFileGetspnam_spec (name : Str) (w : World) :
    wp (gumFileGetspnam (some name)) (fun r t =>
      Answer (w.faults.readShadow = .const true) (w.files.getspnam name) r ∧ w.Looked t) w :=
  gumFileLookup_spec (·.getspnam name) w

theorem gumFileGetsgnam_spec (name : Str) (w : World) :
    wp (gumFileGetsgnam (some name)) (fun r t =>
      Answer (w.faults.readShadow = .const true) (w.files.getsgnam name) r ∧ w.Looked t) w := by
  simp only [gumFileGetsgnam, wp_bind, wp_get, wp_ite, wp_pure]
  refine ⟨fun absent => ⟨Or.inl ?_, .refl w⟩, fun _ => gumFileLookup_spec (·.getsgnam name) w⟩
  simp [Files.getsgnam, Option.isNone_iff_eq_none.mp absent]

theorem wp_lookupIf {c : Prop} [Decidable c] {m : StateM World (Option ε)}
    {found other : Option ε} (rule : ∀ Q, wp m Q w ↔ Q found w) (Q : Option ε → World → Prop) :
    wp (lookupIf c m other) Q w ↔ Q (if c then found else other) w := by
  rw [lookupIf]
  split_ifs
  · exact rule Q
  · exact Iff.rfl

end Lookup

/-! ## Rewrites -/

/-- The files after a rewrite whose system calls all succeed. -/
def DbFile.rewrite {ε : Type} (file : DbFile ε) (callback : List ε → Except GError (List ε))
    (f : Files) : Except GError Files :=
  match file.entries f with
  | none => .error FileFault.openSource.error
  | some entries => (callback entries).map (file.rename · f)

theorem DbFile.rewrite_ok {ε : Type} {file : DbFile ε}
    {callback : List ε → Except GError (List ε)} {f f' : Files}
    (written : file.rewrite callback f = .ok f') : ∃ entries out, file.entries f = some entries ∧
      callback entries = .ok out ∧ f' = file.rename out f := by
  rw [DbFile.rewrite] at written
  cases present : file.entries f with
  | none => simp [present] at written
  | some entries =>
    cases result : callback entries with
    | error e => simp [present, result, Except.map] at written
    | ok out =>
      rw [present] at written
      simp only [result, Except.map, Except.ok.injEq] at written
      exact ⟨entries, out, rfl, result, written.symm⟩

/-- What a rewrite can come to: it fails and changes no file, where `calm` says that no system
call fails, or it gives the result. -/
def Written (calm : Prop) (result : Except GError Files) (f : Files) (ok : Bool) (f' : Files) :
    Prop :=
  ok = false ∧ f' = f ∧ (calm → ∃ e, result = .error e) ∨ ok = true ∧ result = .ok f'

theorem gumFileUpdate_spec {ε : Type} (file : DbFile ε)
    (callback : List ε → Except GError (List ε)) (w : World) :
    wp (gumFileUpdate file callback) (fun ok t => w.Balanced t ∧
      Written (w.faults.write = .const none) (file.rewrite callback w.files) w.files ok t.files) w := by
  have balanced : ∀ files error, w.Balanced { w with
      files := files, faults := { w.faults with write := w.faults.write.tail }, error := error } :=
    fun _ _ => ⟨id, id, fun writable => by simp [writable], rfl⟩
  simp only [gumFileUpdate, wp_bind, wp_get, wp_set, DbFile.rewrite]
  cases present : file.entries w.files with
  | none => exact ⟨balanced _ _, Or.inl ⟨rfl, rfl, fun _ => ⟨_, rfl⟩⟩⟩
  | some entries =>
    dsimp only
    cases result : updateOutcome (w.faults.write.head) (callback entries) with
    | error e =>
      refine ⟨balanced _ _, Or.inl ⟨rfl, rfl, fun writable => ⟨e, ?_⟩⟩⟩
      have copied : callback entries = .error e := by
        simpa [writable, updateOutcome] using result
      rw [copied]
      rfl
    | ok out =>
      have copied : callback entries = .ok out := by
        cases fault : w.faults.write.head <;> cases copied : callback entries <;>
          simp_all [updateOutcome]
      exact ⟨balanced _ _, Or.inr ⟨rfl, by rw [copied]; rfl⟩⟩

/-! ## Rewriting two files

The operations rewrite their two files one after the other, and leave at the first failure. -/

/-- A call of an operation whose object is `self` rewrites the files by `result`. -/
def WritesAs {O : Type} (self : O) (m : GumM O Bool) (result : Files → Except GError Files) :
    Prop :=
  ∀ s : St O, s.self = self → wp m (fun ok t => t.self = self ∧ s.world.Balanced t.world ∧
    Written (s.world.faults.write = .const none) (result s.world.files) s.world.files ok t.world.files) s

/-- What two rewrites can come to. -/
inductive BothWritten (calm : Prop) (first second : Files → Except GError Files) (f : Files) :
    Bool → Files → Prop
  | neither : (calm → ∃ e, first f = .error e) → BothWritten calm first second f false f
  | one {f₁ : Files} : first f = .ok f₁ → (calm → ∃ e, second f₁ = .error e) →
      BothWritten calm first second f false f₁
  | both {f₁ f₂ : Files} : first f = .ok f₁ → second f₁ = .ok f₂ →
      BothWritten calm first second f true f₂

theorem BothWritten.mono {calm calm' : Prop} {first second : Files → Except GError Files}
    {f f' : Files} {ok : Bool} (written : BothWritten calm first second f ok f')
    (weaken : calm' → calm) : BothWritten calm' first second f ok f' := by
  cases written with
  | neither why => exact .neither fun h => why (weaken h)
  | one done why => exact .one done fun h => why (weaken h)
  | both done done' => exact .both done done'

theorem wp_writeBoth {O α : Type} {m₁ m₂ : GumM O Bool}
    {first second : Files → Except GError Files} {exit rest : GumM O α} {Q : α → St O → Prop}
    {s : St O} (writes₁ : WritesAs s.self m₁ first) (writes₂ : WritesAs s.self m₂ second)
    (failed : ∀ t : St O, t.self = s.self → s.world.Balanced t.world →
      BothWritten (s.world.faults.write = .const none) first second s.world.files false t.world.files →
      wp exit Q t)
    (done : ∀ t : St O, t.self = s.self → s.world.Balanced t.world →
      BothWritten (s.world.faults.write = .const none) first second s.world.files true t.world.files →
      wp rest Q t) :
    wp (m₁ >>= fun ok => if !ok then exit else m₂ >>= fun ok => if !ok then exit else rest) Q
      s := by
  rw [wp_bind]
  refine wp_mono (writes₁ s rfl) ?_
  rintro ok t ⟨self, balanced, written⟩
  rw [wp_guard, wp_bind]
  rcases written with ⟨rfl, same, why⟩ | ⟨rfl, written⟩
  · exact ⟨fun _ => failed t self balanced (by rw [same]; exact .neither why), by simp⟩
  refine ⟨by simp, fun _ => wp_mono (writes₂ t self) ?_⟩
  rintro ok u ⟨self', balanced', written'⟩
  rw [wp_guard]
  have balance := balanced.trans balanced'
  rcases written' with ⟨rfl, same, why⟩ | ⟨rfl, written'⟩
  · refine ⟨fun _ => failed u self' balance ?_, by simp⟩
    rw [same]
    exact .one written fun calm => why (balanced.write calm)
  · exact ⟨by simp, fun _ => done u self' balance (.both written written')⟩

end Gumd
