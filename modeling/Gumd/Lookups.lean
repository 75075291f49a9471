import Gumd.Daemon
import Gumd.Identity

/-!
# Looking an entry up

`_get_passwd` and `_get_group` take the first entry of the id, turn to the name where that gives nothing,
and check the entry they have against the object.  An entry whose id another one has before it is
never seen.  The lookups by name go through an id and back.
-/

namespace Gumd

open StateWp EntryLoop

/-! ## Two keys -/

section Keys

variable {ε : Type} {opens : Stream' Bool} {byId byName : Option (Option ε)} {agrees : ε → Bool}

/-- What the two lookups come to: `byId` and `byName` are the first entries of the keys that are set,
and `opens` says whether the file can be opened. -/
def lookedUp (opens : Stream' Bool) (byId byName : Option (Option ε)) : Option ε :=
  match byId with
  | none => if opens.head then byName.join else none
  | some first =>
      match if opens.head then first else none with
      | some e => some e
      | none => if opens.tail.head then byName.join else none

/-- The lookups lead to an entry that agrees: the first one of the id, or of the name where the
object has no id or the file cannot be opened for it. -/
inductive LeadsTo (opens : Stream' Bool) (byId byName : Option (Option ε)) (agrees : ε → Bool) : Prop
  | byId {e : ε} : byId = some (some e) → opens.head = true → agrees e = true →
      LeadsTo opens byId byName agrees
  | byName {e : ε} : byId = none → byName = some (some e) → opens.head = true →
      agrees e = true → LeadsTo opens byId byName agrees
  | unread {first : Option ε} {e : ε} : byId = some first → opens.head = false →
      byName = some (some e) → opens.tail.head = true → agrees e = true →
      LeadsTo opens byId byName agrees

theorem isSome_lookedUp_iff
    (other : byId = some none → ∀ e, byName = some (some e) → agrees e = false) :
    ((lookedUp opens byId byName).filter agrees).isSome = true ↔
      LeadsTo opens byId byName agrees := by
  constructor
  · intro found
    obtain ⟨e, found⟩ := Option.isSome_iff_exists.mp found
    obtain ⟨found, agree⟩ := Option.filter_eq_some_iff.mp found
    unfold lookedUp at found
    cases byId with
    | none =>
      dsimp only at found
      split_ifs at found with opened
      exact .byName rfl (Option.join_eq_some_iff.mp found) opened agree
    | some first =>
      cases opened : opens.head with
      | true =>
        cases first with
        | some x =>
          simp only [opened, if_true, Option.some.injEq] at found
          exact .byId (by rw [found]) opened agree
        | none =>
          simp only [opened, if_true] at found
          split_ifs at found
          rw [other rfl e (Option.join_eq_some_iff.mp found)] at agree
          cases agree
      | false =>
        simp only [opened, Bool.false_eq_true, if_false] at found
        split_ifs at found with reopened
        exact .unread rfl opened (Option.join_eq_some_iff.mp found) reopened agree
  · intro leads
    cases leads with
    | byId first opened agree => simp [lookedUp, first, opened, agree]
    | byName noId named opened agree => simp [lookedUp, noId, named, opened, agree]
    | unread first closed named reopened agree =>
      simp [lookedUp, first, closed, named, reopened, agree]

/-- The two lookups, one after the other. -/
theorem wp_lookups {c : Prop} [Decidable c] (look : Files → Option ε)
    (named : Option (Files → Option ε)) (w : World) :
    wp (lookupIf c (gumFileLookup openFile look) none >>= fun first =>
        lookupIf (named.isSome ∧ first.isNone) (gumFileLookup openFile fun f => named.bind (· f)) first)
      (fun found _ => found = lookedUp w.faults.read (if c then some (look w.files) else none)
        (named.map (· w.files))) w := by
  by_cases id : c
  · rw [wp_bind, lookupIf_pos id, wp_gumFileLookup_openFile, if_pos id, lookedUp]
    generalize (if w.faults.read.head = true then look w.files else none) = first
    cases first with
    | some e => rw [lookupIf, if_neg (by simp), wp_pure]
    | none =>
      cases named with
      | none =>
        rw [lookupIf, if_neg (by simp), wp_pure]
        simp
      | some look' =>
        rw [lookupIf_pos (by simp), wp_gumFileLookup_openFile]
        rfl
  · rw [wp_bind, lookupIf, if_neg id, wp_pure, if_neg id, lookedUp]
    cases named with
    | none =>
      rw [lookupIf, if_neg (by simp), wp_pure]
      simp
    | some look' =>
      rw [lookupIf_pos (by simp), wp_gumFileLookup_openFile]
      rfl

end Keys

/-! ## Objects -/

/-- The uid of a record that has one. -/
def PasswdRecord.uidSet (pw : PasswdRecord) : Option UInt32 :=
  if pw.pwUid ≠ gumUserInvalidUid then some pw.pwUid else none

/-- The gid of a record that has one. -/
def GroupRecord.gidSet (group : GroupRecord) : Option UInt32 :=
  if group.grGid ≠ gumGroupInvalidGid then some group.grGid else none

theorem PasswdRecord.map_uidSet {α : Type} (pw : PasswdRecord) (look : UInt32 → α) :
    pw.uidSet.map look = if pw.pwUid ≠ gumUserInvalidUid then some (look pw.pwUid) else none := by
  rw [uidSet]
  split_ifs <;> rfl

theorem GroupRecord.map_gidSet {α : Type} (group : GroupRecord) (look : UInt32 → α) :
    group.gidSet.map look =
      if group.grGid ≠ gumGroupInvalidGid then some (look group.grGid) else none := by
  rw [gidSet]
  split_ifs <;> rfl

theorem PasswdRecord.agrees_iff_set (pw : PasswdRecord) (e : Passwd) : pw.agrees e = true ↔
    (pw.uidSet = none ∨ pw.uidSet = some e.pwUid) ∧
      (ptr pw.pwName = none ∨ ptr pw.pwName = some e.pwName) := by
  rw [PasswdRecord.agrees_iff, uidSet]
  by_cases unset : pw.pwUid = gumUserInvalidUid
  · simp [unset, ptr]
  · simp [unset, ptr]

theorem GroupRecord.agrees_iff_set (group : GroupRecord) (e : Group) : group.agrees e = true ↔
    (group.gidSet = none ∨ group.gidSet = some e.grGid) ∧
      (ptr group.grName = none ∨ ptr group.grName = some e.grName) := by
  rw [GroupRecord.agrees_iff, gidSet]
  by_cases unset : group.grGid = gumGroupInvalidGid
  · simp [unset, ptr]
  · simp [unset, ptr]

/-- The result of a search among entries is right: there is one exactly if some entry agrees, and it
is such an entry. -/
def FindsAgreeing {ε : Type} (entries : List ε) (agrees : ε → Bool) (r : Option ε) : Prop :=
  (r.isSome = true ↔ ∃ e ∈ entries, agrees e = true) ∧
    ∀ e, r = some e → e ∈ entries ∧ agrees e = true

/-- A search that can only come to an entry that agrees is right unless it misses one. -/
theorem findsAgreeing_iff {ε : Type} {entries : List ε} {agrees : ε → Bool} {r : Option ε}
    (sound : ∀ e, r = some e → e ∈ entries ∧ agrees e = true) :
    FindsAgreeing entries agrees r ↔ ((∃ e ∈ entries, agrees e = true) → r.isSome = true) := by
  constructor
  · intro finds
    exact finds.1.mpr
  · intro complete
    refine ⟨⟨?_, complete⟩, sound⟩
    intro found
    obtain ⟨e, found⟩ := Option.isSome_iff_exists.mp found
    exact ⟨e, sound e found⟩

theorem findsAgreeing_lookedUp_iff {ε κ ν : Type} [BEq κ] [LawfulBEq κ] [BEq ν] [LawfulBEq ν]
    {idOf : ε → κ} {nameOf : ε → ν} {id : Option κ} {name : Option ν} {entries : List ε}
    {agrees : ε → Bool} (agree : ∀ e, agrees e = true ↔
      (id = none ∨ id = some (idOf e)) ∧ (name = none ∨ name = some (nameOf e)))
    (opens : Stream' Bool) :
    FindsAgreeing entries agrees ((lookedUp opens (id.map fun i => entries.find? (idOf · == i))
        (name.map fun n => entries.find? (nameOf · == n))).filter agrees) ↔
      ((∃ e ∈ entries, agrees e = true) →
        LeadsTo opens (id.map fun i => entries.find? (idOf · == i))
          (name.map fun n => entries.find? (nameOf · == n)) agrees) := by
  rw [findsAgreeing_iff, isSome_lookedUp_iff]
  · -- where no entry has the id, one of the name has another id
    intro noEntry e named
    obtain ⟨i, rfl, absent⟩ := Option.map_eq_some_iff.mp noEntry
    obtain ⟨n, -, found⟩ := Option.map_eq_some_iff.mp named
    rw [Bool.eq_false_iff]
    intro agreed
    have own : i = idOf e := by simpa using ((agree e).mp agreed).1
    have other := List.find?_eq_none.mp absent e (List.mem_of_find?_eq_some found)
    simp [own] at other
  · intro e found
    obtain ⟨found, agreed⟩ := Option.filter_eq_some_iff.mp found
    refine ⟨?_, agreed⟩
    have mem : ∀ {α : Type} {key : Option α} {p : α → ε → Bool},
        (key.map fun k => entries.find? (p k)).join = some e → e ∈ entries := by
      intro α key p first
      obtain ⟨k, -, first⟩ := Option.map_eq_some_iff.mp (Option.join_eq_some_iff.mp first)
      exact List.mem_of_find?_eq_some first
    unfold lookedUp at found
    cases id with
    | none =>
      simp only [Option.map_none] at found
      split_ifs at found
      exact mem found
    | some i =>
      simp only [Option.map_some] at found
      cases first : (if opens.head then entries.find? (idOf · == i) else none) with
      | some x =>
        rw [first] at found
        obtain rfl := Option.some.inj found
        split_ifs at first
        exact List.mem_of_find?_eq_some first
      | none =>
        rw [first] at found
        dsimp only at found
        split_ifs at found
        exact mem found

theorem GumdDaemonUser.wp_getPasswd_lookedUp (s : St GumdDaemonUser) :
    wp GumdDaemonUser.getPasswd (fun r _ => r = (lookedUp s.world.faults.read
      (s.self.pw.uidSet.map s.world.files.getpwuid) ((ptr s.self.pw.pwName).map s.world.files.getpwnam)).filter
        s.self.pw.agrees) s := by
  have search := wp_lookups (c := s.self.pw.pwUid ≠ gumUserInvalidUid) (·.getpwuid s.self.pw.pwUid)
    (s.self.pw.pwName.map fun name f => f.getpwnam name.val) s.world
  have lookups : wp (lookupIf (s.self.pw.pwUid ≠ gumUserInvalidUid)
        (gumFileGetpwuid s.self.pw.pwUid) none >>= fun byUid =>
        lookupIf (s.self.pw.pwName.isSome ∧ byUid.isNone) (gumFileGetpwnam (ptr s.self.pw.pwName)) byUid)
      (fun found _ => found = lookedUp s.world.faults.read (s.self.pw.uidSet.map s.world.files.getpwuid)
        ((ptr s.self.pw.pwName).map s.world.files.getpwnam)) s.world := by
    rw [PasswdRecord.map_uidSet]
    cases name : s.self.pw.pwName with
    | some n =>
      rw [name] at search
      exact search
    | none =>
      rw [name] at search
      simpa only [lookupIf, gumFileGetpwuid, Option.map_none, Option.isSome_none, Bool.false_eq_true,
        false_and, if_false, ptr_none] using search
  simp only [getPasswd, wp_bind, wp_getSelf, wp_liftM]
  refine (wp_bind _ _ _ _).mp (wp_mono lookups ?_)
  intro found w same
  rw [← same]
  cases found.filter s.self.pw.agrees with
  | none => rfl
  | some entry => rfl

theorem GumdDaemonGroup.wp_getGroup_lookedUp (s : St GumdDaemonGroup) :
    wp GumdDaemonGroup.getGroup (fun r _ => r = (lookedUp s.world.faults.read
      (s.self.group.gidSet.map s.world.files.getgrgid) ((ptr s.self.group.grName).map s.world.files.getgrnam)).filter
        s.self.group.agrees) s := by
  have search := wp_lookups (c := s.self.group.grGid ≠ gumGroupInvalidGid)
    (·.getgrgid s.self.group.grGid) (s.self.group.grName.map fun name f => f.getgrnam name.val) s.world
  have lookups : wp (lookupIf (s.self.group.grGid ≠ gumGroupInvalidGid)
        (gumFileGetgrgid s.self.group.grGid) none >>= fun byGid => lookupIf
        (s.self.group.grName.isSome ∧ byGid.isNone) (gumFileGetgrnam (ptr s.self.group.grName)) byGid)
      (fun found _ => found = lookedUp s.world.faults.read (s.self.group.gidSet.map s.world.files.getgrgid)
        ((ptr s.self.group.grName).map s.world.files.getgrnam)) s.world := by
    rw [GroupRecord.map_gidSet]
    cases name : s.self.group.grName with
    | some n =>
      rw [name] at search
      exact search
    | none =>
      rw [name] at search
      simpa only [lookupIf, gumFileGetgrgid, Option.map_none, Option.isSome_none, Bool.false_eq_true,
        false_and, if_false, ptr_none] using search
  simp only [getGroup, wp_bind, wp_getSelf, wp_liftM]
  refine (wp_bind _ _ _ _).mp (wp_mono lookups ?_)
  intro found w same
  rw [← same]
  cases found.filter s.self.group.agrees with
  | none => rfl
  | some entry => rfl

/-- `_get_passwd` is right exactly if an entry that agrees is one it is led to. -/
theorem GumdDaemonUser.getPasswd_findsAgreeing_iff (s : St GumdDaemonUser) :
    wp GumdDaemonUser.getPasswd (fun r _ => FindsAgreeing s.world.files.passwd s.self.pw.agrees r) s ↔
      ((∃ e ∈ s.world.files.passwd, s.self.pw.agrees e = true) →
        LeadsTo s.world.faults.read (s.self.pw.uidSet.map s.world.files.getpwuid)
          ((ptr s.self.pw.pwName).map s.world.files.getpwnam) s.self.pw.agrees) := by
  rw [wp_value (wp_getPasswd_lookedUp s)]
  exact findsAgreeing_lookedUp_iff s.self.pw.agrees_iff_set s.world.faults.read

theorem GumdDaemonGroup.getGroup_findsAgreeing_iff (s : St GumdDaemonGroup) :
    wp GumdDaemonGroup.getGroup
        (fun r _ => FindsAgreeing s.world.files.group s.self.group.agrees r) s ↔
      ((∃ e ∈ s.world.files.group, s.self.group.agrees e = true) →
        LeadsTo s.world.faults.read (s.self.group.gidSet.map s.world.files.getgrgid)
          ((ptr s.self.group.grName).map s.world.files.getgrnam) s.self.group.agrees) := by
  rw [wp_value (wp_getGroup_lookedUp s)]
  exact findsAgreeing_lookedUp_iff s.self.group.agrees_iff_set s.world.faults.read

/-! ## By name -/

/-- The lock is there: it is held, or can be had. -/
theorem World.lockGranted_iff (w : World) : w.lockGranted = true ↔
    w.process.lockCount ≠ 0 ∨ w.faults.lock.head = true := by
  have granted : wp gumLockPwdfLock (fun granted _ => granted = true ↔
      w.process.lockCount ≠ 0 ∨ w.faults.lock.head = true) w := by
    simp only [gumLockPwdfLock, wp_bind, wp_get, wp_ite, wp_set, wp_pure]
    refine ⟨fun free => ⟨fun given => ?_, fun denied => ?_⟩, fun held => ?_⟩
    · simp [given]
    · simp [free, denied]
    · simp [held]
  exact granted

theorem World.lock_afterLock (w : World) : w.afterLock.faults.lock =
    if w.process.lockCount = 0 then w.faults.lock.tail else w.faults.lock := by
  have used : wp gumLockPwdfLock (fun _ t => t.faults.lock =
      if w.process.lockCount = 0 then w.faults.lock.tail else w.faults.lock) w := by
    simp only [gumLockPwdfLock, wp_bind, wp_get, wp_ite, wp_set, wp_pure]
    refine ⟨fun free => ⟨fun _ => ?_, fun _ => ?_⟩, fun held => ?_⟩
    · rw [if_pos free]
    · rw [if_pos free]
    · rw [if_neg held]
  exact used

theorem World.lock_afterUnlock (w : World) : w.afterUnlock.faults.lock = w.faults.lock := by
  have kept : wp gumLockPwdfUnlock (fun _ t => t.faults.lock = w.faults.lock) w := by
    simp [gumLockPwdfUnlock]
  exact kept

/-- The lock can be had once more after it has been had and released. -/
def World.GrantedAgain (w : World) : Prop :=
  w.process.lockCount ≠ 0 ∨ w.faults.lock.tail.head = true

/-- What is left of the lock's outcomes after it has been had and released. -/
structure World.UsedOnce (w t : World) : Prop where
  lockCount : t.process.lockCount = w.process.lockCount
  lock : t.faults.lock = if w.process.lockCount = 0 then w.faults.lock.tail else w.faults.lock

theorem World.UsedOnce.lockGranted_iff {w t : World} (used : w.UsedOnce t) :
    t.lockGranted = true ↔ w.GrantedAgain := by
  rw [World.lockGranted_iff, used.lockCount, used.lock, World.GrantedAgain]
  by_cases held : w.process.lockCount = 0
  · simp [held]
  · simp [held]

/-- A lookup under the lock. -/
theorem World.UsedOnce.of_read {w t : World} (granted : w.lockGranted = true)
    (lock : t.faults.lock = w.afterLock.faults.lock)
    (lockCount : t.process.lockCount = w.afterLock.process.lockCount) : w.UsedOnce t.afterUnlock := by
  obtain ⟨-, -, -, -, released⟩ := gumLockPwdfUnlock_spec t
  refine ⟨?_, ?_⟩
  · rw [World.lockCount_afterLock, granted, if_pos rfl] at lockCount
    change t.afterUnlock.process.lockCount = t.process.lockCount - 1 at released
    omega
  · rw [World.lock_afterUnlock, lock, World.lock_afterLock]

/-- The uid that is reported for a name, and the world after the question. -/
theorem gumdDaemonUserGetUidByName_asked (n : Str) (w : World) :
    wp (gumdDaemonUserGetUidByName (some n)) (fun uid t =>
      uid = ((if w.lockGranted ∧ w.faults.read.head then w.files.getpwnam n else none).map
        Passwd.pwUid).getD gumUserInvalidUid ∧
      (w.lockGranted = true → t.faults.read = w.faults.read.tail ∧ w.UsedOnce t) ∧
      t.faults.readShadow = w.faults.readShadow) w := by
  rw [gumdDaemonUserGetUidByName, wp_bind, wp_gumLockPwdfLock, wp_guard]
  constructor
  · intro denied
    rw [wp_pure]
    simp [denied]
  · intro granted
    rw [wp_bind, gumFileGetpwnam, wp_gumFileLookup_openFile, wp_bind, wp_gumLockPwdfUnlock, wp_pure]
    have used := World.UsedOnce.of_read (t := { w.afterLock with
      faults := { w.afterLock.faults with read := w.afterLock.faults.read.tail } }) granted rfl rfl
    obtain ⟨-, read, readShadow, -, -⟩ := gumLockPwdfUnlock_spec
      { w.afterLock with faults := { w.afterLock.faults with read := w.afterLock.faults.read.tail } }
    simp only [World.read_afterLock, World.files_afterLock, World.readShadow_afterLock] at *
    refine ⟨?_, fun _ => ⟨read, used⟩, readShadow⟩
    simp [granted]

/-- The entry an object with a uid alone is loaded from. -/
theorem World.seenPasswd_uid (w : World) (uid : UInt32) :
    w.seenPasswd (gumdDaemonUserNew.setUidProperty uid).pw =
      if w.faults.read.head then w.files.getpwuid uid else none := by
  have agrees : ∀ e, w.files.getpwuid uid = some e →
      (gumdDaemonUserNew.setUidProperty uid).pw.agrees e = true := by
    intro e found
    have own : e.pwUid = uid := by simpa using List.find?_some found
    exact PasswdRecord.agrees_iff.mpr ⟨Or.inr own.symm, Or.inl rfl⟩
  unfold World.seenPasswd World.search
  cases w.faults.read.head with
  | false => rfl
  | true =>
    cases found : w.files.getpwuid uid with
    | none => simp [GumdDaemonUser.setUidProperty, gumdDaemonUserNew, found]
    | some e =>
      have agreed := agrees e found
      simp only [GumdDaemonUser.setUidProperty, gumdDaemonUserNew] at agreed
      simp [GumdDaemonUser.setUidProperty, gumdDaemonUserNew, found, Option.filter, agreed]

/-- The name a copy has of its entry. -/
theorem ptr_pwName_copied (uid : UInt32) (pent : Passwd) (spent : Spwd) (icon : Option Str) :
    ptr ((gumdDaemonUserNew.setUidProperty uid).copyPasswdEntries pent spent icon).pw.pwName =
      if gumValidateName (some pent.pwName) = .ok () then some pent.pwName else none :=
  ptr_setStringProperty_agreeing (Or.inl rfl)

/-- An object that is loaded by uid has the name that the first entry of the uid has, if there is a
shadow entry for it and the validator accepts it. -/
theorem gumdDaemonUserNewByUid_named (env : Env) {uid : UInt32} (valid : uid ≠ gumUserInvalidUid)
    (n : Str) (w : World) :
    wp (gumdDaemonUserNewByUid env uid) (fun r _ =>
      (∃ u, r = some u ∧ ptr u.pw.pwName = some n) ↔
        w.lockGranted = true ∧ w.faults.read.head = true ∧ w.faults.readShadow.head = true ∧
          (∃ e, w.files.getpwuid uid = some e ∧ e.pwName = n) ∧
          (w.files.getspnam n).isSome = true ∧ gumValidateName (some n) = .ok ()) w := by
  rw [gumdDaemonUserNewByUid, loadUser, wp_bind, wp_gumLockPwdfLock, wp_guard]
  constructor
  · intro denied
    rw [wp_pure]
    simp [denied]
  intro granted
  rw [wp_bind, wp_withNullError, wp_runOn, GumdDaemonUser.copyPasswdData, wp_bind]
  refine wp_mono (@GumdDaemonUser.wp_getPasswd_seen
    ⟨gumdDaemonUserNew.setUidProperty uid, w.afterLock⟩ valid) ?_
  intro found t spec
  obtain ⟨rfl, self, sought⟩ := spec
  have files : t.world.files = w.files := sought.quiet.files.trans (World.files_afterLock w)
  have readShadow : t.world.faults.readShadow = w.faults.readShadow :=
    sought.readShadow.trans (World.readShadow_afterLock w)
  rw [World.seenPasswd_uid, World.read_afterLock, World.files_afterLock]
  have seen : ∀ e, (if w.faults.read.head then w.files.getpwuid uid else none) = some e ↔
      w.faults.read.head = true ∧ w.files.getpwuid uid = some e := by
    intro e
    split_ifs with opened
    · simp [opened]
    · simp [opened]
  generalize (if w.faults.read.head then w.files.getpwuid uid else none) = first at seen ⊢
  cases first with
  | none =>
    simp only [wp_pure, wp_bind, wp_gumLockPwdfUnlock]
    constructor
    · rintro ⟨u, loaded, -⟩
      cases loaded
    · rintro ⟨-, opened, -, ⟨e, here, -⟩, -⟩
      cases (seen e).mpr ⟨opened, here⟩
  | some pent =>
    obtain ⟨opened, here⟩ := (seen pent).mp rfl
    rw [wp_bind, wp_liftM, gumFileGetspnam, wp_gumFileLookup_openShadowFile, readShadow, files]
    have shadowed : ∀ sp, (if w.faults.readShadow.head then w.files.getspnam pent.pwName else none) =
        some sp ↔ w.faults.readShadow.head = true ∧ w.files.getspnam pent.pwName = some sp := by
      intro sp
      split_ifs with opened
      · simp [opened]
      · simp [opened]
    generalize (if w.faults.readShadow.head then w.files.getspnam pent.pwName else none) = second
      at shadowed ⊢
    cases second with
    | none =>
      simp only [wp_liftM, wp_gumReturnWithError, wp_bind, wp_gumLockPwdfUnlock, wp_pure]
      constructor
      · rintro ⟨u, loaded, -⟩
        cases loaded
      · rintro ⟨-, -, opened', ⟨e, here', rfl⟩, isSome, -⟩
        obtain rfl : pent = e := Option.some.inj (here.symm.trans here')
        obtain ⟨sp, found⟩ := Option.isSome_iff_exists.mp isSome
        cases (shadowed sp).mpr ⟨opened', found⟩
    | some spent =>
      obtain ⟨opened', found⟩ := (shadowed spent).mp rfl
      dsimp only
      rw [wp_bind]
      refine wp_mono (GumdDaemonUser.wp_getUserinfo env.config) ?_
      rintro icon v ⟨-, self', -⟩
      rw [wp_bind, wp_modifySelf, wp_pure, wp_bind, wp_gumLockPwdfUnlock, wp_pure, self']
      dsimp only
      rw [self]
      constructor
      · rintro ⟨u, loaded, named⟩
        obtain rfl := Option.some.inj loaded
        rw [ptr_pwName_copied] at named
        split_ifs at named with accepted
        obtain rfl := Option.some.inj named
        exact ⟨granted, opened, opened', ⟨pent, here, rfl⟩, by rw [found]; rfl, accepted⟩
      · rintro ⟨-, -, -, ⟨e, here', rfl⟩, -, accepted⟩
        obtain rfl : pent = e := Option.some.inj (here.symm.trans here')
        refine ⟨_, rfl, ?_⟩
        rw [ptr_pwName_copied, if_pos accepted]

/-- The world a call of the daemon starts in. -/
def GumdDaemon.world (d : GumdDaemon) (c : Context) : World :=
  ⟨d.system.files, c.faults, c.process, none⟩

/-- The world `gumd_daemon_get_user` starts in once the uid of the name is known. -/
def GumdDaemon.worldOfName (d : GumdDaemon) (c : Context) (n : Str) : World :=
  let asked := ((gumdDaemonUserGetUidByName (some n)).run (d.world c)).2
  d.world ⟨c.env, asked.faults, asked.process⟩

/-- What `gumd_daemon_get_user_by_name` needs to hand out the entry `e` of the name `n`: it gets the
lock twice and can read the files, no other entry of the uid comes before `e`, and the object can
be loaded. -/
structure GumdDaemon.ResolvesUser (d : GumdDaemon) (c : Context) (n : Str) (e : Passwd) : Prop where
  granted : (d.world c).lockGranted = true
  opened : c.faults.read.head = true
  valid : e.pwUid ≠ gumUserInvalidUid
  grantedAgain : (d.world c).GrantedAgain
  openedAgain : c.faults.read.tail.head = true
  first : d.system.files.getpwuid e.pwUid = some e
  openedShadow : c.faults.readShadow.head = true
  shadow : (d.system.files.getspnam n).isSome = true
  name : gumValidateName (some n) = .ok ()

/-- The object that is handed out for a name has it. -/
def GumdDaemon.HandsOutUser (d : GumdDaemon) (c : Context) (n : Str) : Prop :=
  ∃ user, (d.getUserByName c (some n)).1 = some user ∧
    ptr ((d.getUserByName c (some n)).2.system.users user).pw.pwName = some n

theorem GumdDaemon.getUser_named (d : GumdDaemon) (c : Context) (uid : UInt32)
    (empty : d.users uid = none) (n : Str) :
    (∃ user, (d.getUser c uid).1 = some user ∧
      ptr ((d.getUser c uid).2.system.users user).pw.pwName = some n) ↔
      wp (gumdDaemonUserNewByUid c.env uid) (fun r _ => ∃ u, r = some u ∧
        ptr u.pw.pwName = some n) (d.world c) := by
  have loads : (d.system.call (c.call (.userNewByUid d.userCount uid))).1 =
      ((gumdDaemonUserNewByUid c.env uid).run (d.world c)).1.isSome := rfl
  have objects : (d.system.call (c.call (.userNewByUid d.userCount uid))).2.users =
      Function.update d.system.users d.userCount
        (((gumdDaemonUserNewByUid c.env uid).run (d.world c)).1.getD (d.system.users d.userCount)) :=
    rfl
  rw [GumdDaemon.getUser, empty, wp]
  dsimp only
  rw [loads]
  cases loaded : ((gumdDaemonUserNewByUid c.env uid).run (d.world c)).1 with
  | none => simp
  | some u =>
    rw [loaded] at objects
    simp [objects]

/-- By its name the first entry of that name is handed out, or none. -/
theorem GumdDaemon.handsOutUser_iff (d : GumdDaemon) (c : Context) (n : Str)
    (empty : ∀ uid, d.users uid = none) {e : Passwd} (found : d.system.files.getpwnam n = some e) :
    d.HandsOutUser c n ↔ d.ResolvesUser c n e := by
  have named : e.pwName = n := by simpa using List.find?_some found
  have asked := gumdDaemonUserGetUidByName_asked n (d.world c)
  rw [wp] at asked
  obtain ⟨uid, after, readShadow⟩ := asked
  have shape : d.getUserByName c (some n) =
      if ((gumdDaemonUserGetUidByName (some n)).run (d.world c)).1 = gumUserInvalidUid then (none, d)
      else d.getUser ⟨c.env, (d.worldOfName c n).faults, (d.worldOfName c n).process⟩
        ((gumdDaemonUserGetUidByName (some n)).run (d.world c)).1 := rfl
  rw [GumdDaemon.HandsOutUser, shape, uid]
  by_cases ready : (d.world c).lockGranted = true ∧ c.faults.read.head = true
  swap
  · have closed : ¬((d.world c).lockGranted = true ∧ (d.world c).faults.read.head = true) := ready
    rw [if_neg closed]
    constructor
    · rintro ⟨user, handed, -⟩
      cases handed
    · intro resolves
      exact absurd ⟨resolves.granted, resolves.opened⟩ ready
  have opened : (d.world c).lockGranted = true ∧ (d.world c).faults.read.head = true := ready
  have looked : (d.world c).files.getpwnam n = some e := found
  rw [if_pos opened, looked, Option.map_some, Option.getD_some]
  by_cases valid : e.pwUid = gumUserInvalidUid
  · rw [if_pos valid]
    constructor
    · rintro ⟨user, handed, -⟩
      cases handed
    · intro resolves
      exact absurd valid resolves.valid
  rw [if_neg valid, GumdDaemon.getUser_named _ _ _ (empty _)]
  have loads := gumdDaemonUserNewByUid_named c.env valid n (d.worldOfName c n)
  rw [wp] at loads
  obtain ⟨read, used⟩ := after ready.1
  have again : (d.worldOfName c n).lockGranted = true ↔ (d.world c).GrantedAgain :=
    World.UsedOnce.lockGranted_iff ⟨used.lockCount, used.lock⟩
  have read' : (d.worldOfName c n).faults.read = c.faults.read.tail := read
  have readShadow' : (d.worldOfName c n).faults.readShadow = c.faults.readShadow := readShadow
  rw [again, read', readShadow'] at loads
  refine Iff.trans loads ⟨?_, ?_⟩
  · rintro ⟨again, reopened, openedShadow, ⟨e', first, named'⟩, shadow, accepted⟩
    have own : e'.pwUid = e.pwUid := by simpa using List.find?_some first
    obtain rfl : e = e' := find?_eq_of_both found first (by simp) (by simp [named'])
    exact ⟨ready.1, ready.2, valid, again, reopened, first, openedShadow, shadow, accepted⟩
  · intro r
    exact ⟨r.grantedAgain, r.openedAgain, r.openedShadow, ⟨e, r.first, named⟩, r.shadow, r.name⟩

/-! ### Groups -/

theorem gumdDaemonGroupGetGidByName_asked (n : Str) (w : World) :
    wp (gumdDaemonGroupGetGidByName (some n)) (fun gid t =>
      gid = ((if w.lockGranted ∧ w.faults.read.head then w.files.getgrnam n else none).map
        Group.grGid).getD gumGroupInvalidGid ∧
      (w.lockGranted = true → t.faults.read = w.faults.read.tail ∧ w.UsedOnce t)) w := by
  rw [gumdDaemonGroupGetGidByName, wp_bind, wp_gumLockPwdfLock, wp_guard]
  constructor
  · intro denied
    rw [wp_pure]
    simp [denied]
  · intro granted
    rw [wp_bind, gumFileGetgrnam, wp_gumFileLookup_openFile, wp_bind, wp_gumLockPwdfUnlock, wp_pure]
    have used := World.UsedOnce.of_read (t := { w.afterLock with
      faults := { w.afterLock.faults with read := w.afterLock.faults.read.tail } }) granted rfl rfl
    obtain ⟨-, read, -, -, -⟩ := gumLockPwdfUnlock_spec
      { w.afterLock with faults := { w.afterLock.faults with read := w.afterLock.faults.read.tail } }
    simp only [World.read_afterLock, World.files_afterLock] at *
    refine ⟨?_, fun _ => ⟨read, used⟩⟩
    simp [granted]

theorem World.seenGroup_gid (w : World) (gid : UInt32) :
    w.seenGroup (gumdDaemonGroupNew.setGidProperty gid).group =
      if w.faults.read.head then w.files.getgrgid gid else none := by
  have agrees : ∀ e, w.files.getgrgid gid = some e →
      (gumdDaemonGroupNew.setGidProperty gid).group.agrees e = true := by
    intro e found
    have own : e.grGid = gid := by simpa using List.find?_some found
    exact GroupRecord.agrees_iff.mpr ⟨Or.inr own.symm, Or.inl rfl⟩
  unfold World.seenGroup World.search
  cases w.faults.read.head with
  | false => rfl
  | true =>
    cases found : w.files.getgrgid gid with
    | none => simp [GumdDaemonGroup.setGidProperty, gumdDaemonGroupNew, found]
    | some e =>
      have agreed := agrees e found
      simp only [GumdDaemonGroup.setGidProperty, gumdDaemonGroupNew] at agreed
      simp [GumdDaemonGroup.setGidProperty, gumdDaemonGroupNew, found, Option.filter, agreed]

theorem ptr_grName_copied (gid : UInt32) (entry : Group) (sg : Option Sgrp) :
    ptr ((gumdDaemonGroupNew.setGidProperty gid).copyGroupEntries entry sg).group.grName =
      if gumValidateName (some entry.grName) = .ok () then some entry.grName else none :=
  ptr_setStringProperty_agreeing (Or.inl rfl)

/-- An object that is loaded by gid has the name that the first entry of the gid has, if the
validator accepts it. -/
theorem gumdDaemonGroupNewByGid_named {gid : UInt32} (valid : gid ≠ gumGroupInvalidGid) (n : Str)
    (w : World) :
    wp (gumdDaemonGroupNewByGid gid) (fun r _ =>
      (∃ g, r = some g ∧ ptr g.group.grName = some n) ↔
        w.lockGranted = true ∧ w.faults.read.head = true ∧
          (∃ e, w.files.getgrgid gid = some e ∧ e.grName = n) ∧
          gumValidateName (some n) = .ok ()) w := by
  rw [gumdDaemonGroupNewByGid, loadGroup, wp_bind, wp_gumLockPwdfLock, wp_guard]
  constructor
  · intro denied
    rw [wp_pure]
    simp [denied]
  intro granted
  rw [wp_bind, wp_withNullError, wp_runOn, GumdDaemonGroup.copyGroupData, wp_bind]
  refine wp_mono (@GumdDaemonGroup.wp_getGroup_seen
    ⟨gumdDaemonGroupNew.setGidProperty gid, w.afterLock⟩ valid) ?_
  intro found t spec
  obtain ⟨rfl, self, -⟩ := spec
  rw [World.seenGroup_gid, World.read_afterLock, World.files_afterLock]
  have seen : ∀ e, (if w.faults.read.head then w.files.getgrgid gid else none) = some e ↔
      w.faults.read.head = true ∧ w.files.getgrgid gid = some e := by
    intro e
    split_ifs with opened
    · simp [opened]
    · simp [opened]
  generalize (if w.faults.read.head then w.files.getgrgid gid else none) = first at seen ⊢
  cases first with
  | none =>
    simp only [wp_pure, wp_bind, wp_gumLockPwdfUnlock]
    constructor
    · rintro ⟨g, loaded, -⟩
      cases loaded
    · rintro ⟨-, opened, ⟨e, here, -⟩, -⟩
      cases (seen e).mpr ⟨opened, here⟩
  | some entry =>
    obtain ⟨opened, here⟩ := (seen entry).mp rfl
    rw [wp_bind, wp_liftM]
    refine wp_mono (P := fun _ _ => True) trivial ?_
    intro sg v _
    rw [wp_bind, wp_modifySelf, wp_pure, wp_bind, wp_gumLockPwdfUnlock, wp_pure]
    dsimp only
    rw [self]
    constructor
    · rintro ⟨g, loaded, named⟩
      obtain rfl := Option.some.inj loaded
      rw [ptr_grName_copied] at named
      split_ifs at named with accepted
      obtain rfl := Option.some.inj named
      exact ⟨granted, opened, ⟨entry, here, rfl⟩, accepted⟩
    · rintro ⟨-, -, ⟨e, here', rfl⟩, accepted⟩
      obtain rfl : entry = e := Option.some.inj (here.symm.trans here')
      refine ⟨_, rfl, ?_⟩
      rw [ptr_grName_copied, if_pos accepted]

namespace GumdDaemon

/-- The world `gumd_daemon_get_group` starts in once the gid of the name is known. -/
def worldOfGroupname (d : GumdDaemon) (c : Context) (n : Str) : World :=
  let asked := ((gumdDaemonGroupGetGidByName (some n)).run (d.world c)).2
  d.world ⟨c.env, asked.faults, asked.process⟩

/-- What `gumd_daemon_get_group_by_name` needs to hand out the entry `e` of the name `n`. -/
structure ResolvesGroup (d : GumdDaemon) (c : Context) (n : Str) (e : Group) : Prop where
  granted : (d.world c).lockGranted = true
  opened : c.faults.read.head = true
  valid : e.grGid ≠ gumGroupInvalidGid
  grantedAgain : (d.world c).GrantedAgain
  openedAgain : c.faults.read.tail.head = true
  first : d.system.files.getgrgid e.grGid = some e
  name : gumValidateName (some n) = .ok ()

def HandsOutGroup (d : GumdDaemon) (c : Context) (n : Str) : Prop :=
  ∃ group, (d.getGroupByName c (some n)).1 = some group ∧
    ptr ((d.getGroupByName c (some n)).2.system.groups group).group.grName = some n

theorem getGroup_named (d : GumdDaemon) (c : Context) (gid : UInt32)
    (empty : d.groups gid = none) (n : Str) :
    (∃ group, (d.getGroup c gid).1 = some group ∧
      ptr ((d.getGroup c gid).2.system.groups group).group.grName = some n) ↔
      wp (gumdDaemonGroupNewByGid gid) (fun r _ => ∃ g, r = some g ∧
        ptr g.group.grName = some n) (d.world c) := by
  have loads : (d.system.call (c.call (.groupNewByGid d.groupCount gid))).1 =
      ((gumdDaemonGroupNewByGid gid).run (d.world c)).1.isSome := rfl
  have objects : (d.system.call (c.call (.groupNewByGid d.groupCount gid))).2.groups =
      Function.update d.system.groups d.groupCount
        (((gumdDaemonGroupNewByGid gid).run (d.world c)).1.getD (d.system.groups d.groupCount)) :=
    rfl
  rw [getGroup, empty, wp]
  dsimp only
  rw [loads]
  cases loaded : ((gumdDaemonGroupNewByGid gid).run (d.world c)).1 with
  | none => simp
  | some u =>
    rw [loaded] at objects
    simp [objects]

/-- By its name the first entry of that name is handed out, or none. -/
theorem handsOutGroup_iff (d : GumdDaemon) (c : Context) (n : Str)
    (empty : ∀ gid, d.groups gid = none) {e : Group} (found : d.system.files.getgrnam n = some e) :
    d.HandsOutGroup c n ↔ d.ResolvesGroup c n e := by
  have named : e.grName = n := by simpa using List.find?_some found
  have asked := gumdDaemonGroupGetGidByName_asked n (d.world c)
  rw [wp] at asked
  obtain ⟨gid, after⟩ := asked
  have shape : d.getGroupByName c (some n) =
      if ((gumdDaemonGroupGetGidByName (some n)).run (d.world c)).1 = gumGroupInvalidGid then (none, d)
      else d.getGroup ⟨c.env, (d.worldOfGroupname c n).faults, (d.worldOfGroupname c n).process⟩
        ((gumdDaemonGroupGetGidByName (some n)).run (d.world c)).1 := rfl
  rw [HandsOutGroup, shape, gid]
  by_cases ready : (d.world c).lockGranted = true ∧ c.faults.read.head = true
  swap
  · have closed : ¬((d.world c).lockGranted = true ∧ (d.world c).faults.read.head = true) := ready
    rw [if_neg closed]
    constructor
    · rintro ⟨group, handed, -⟩
      cases handed
    · intro resolves
      exact absurd ⟨resolves.granted, resolves.opened⟩ ready
  have opened : (d.world c).lockGranted = true ∧ (d.world c).faults.read.head = true := ready
  have looked : (d.world c).files.getgrnam n = some e := found
  rw [if_pos opened, looked, Option.map_some, Option.getD_some]
  by_cases valid : e.grGid = gumGroupInvalidGid
  · rw [if_pos valid]
    constructor
    · rintro ⟨group, handed, -⟩
      cases handed
    · intro resolves
      exact absurd valid resolves.valid
  rw [if_neg valid, getGroup_named _ _ _ (empty _)]
  have loads := gumdDaemonGroupNewByGid_named valid n (d.worldOfGroupname c n)
  rw [wp] at loads
  obtain ⟨read, used⟩ := after ready.1
  have again : (d.worldOfGroupname c n).lockGranted = true ↔ (d.world c).GrantedAgain :=
    World.UsedOnce.lockGranted_iff ⟨used.lockCount, used.lock⟩
  have read' : (d.worldOfGroupname c n).faults.read = c.faults.read.tail := read
  rw [again, read'] at loads
  refine Iff.trans loads ⟨?_, ?_⟩
  · rintro ⟨again, reopened, ⟨e', first, named'⟩, accepted⟩
    have own : e'.grGid = e.grGid := by simpa using List.find?_some first
    obtain rfl : e = e' := find?_eq_of_both found first (by simp) (by simp [named'])
    exact ⟨ready.1, ready.2, valid, again, reopened, first, accepted⟩
  · intro r
    exact ⟨r.grantedAgain, r.openedAgain, ⟨e, r.first, named⟩, r.name⟩

end GumdDaemon

/-- The lookups find what was asked for exactly if they are led to it: the first entry of the id is
the one, and it can be read. -/
theorem lookups_find_iff (s : St GumdDaemonUser) (t : St GumdDaemonGroup) (d : GumdDaemon)
    (c : Context) (n : Str) :
    (wp GumdDaemonUser.getPasswd
        (fun r _ => FindsAgreeing s.world.files.passwd s.self.pw.agrees r) s ↔
      ((∃ e ∈ s.world.files.passwd, s.self.pw.agrees e = true) →
        LeadsTo s.world.faults.read (s.self.pw.uidSet.map s.world.files.getpwuid)
          ((ptr s.self.pw.pwName).map s.world.files.getpwnam) s.self.pw.agrees)) ∧
    (wp GumdDaemonGroup.getGroup
        (fun r _ => FindsAgreeing t.world.files.group t.self.group.agrees r) t ↔
      ((∃ e ∈ t.world.files.group, t.self.group.agrees e = true) →
        LeadsTo t.world.faults.read (t.self.group.gidSet.map t.world.files.getgrgid)
          ((ptr t.self.group.grName).map t.world.files.getgrnam) t.self.group.agrees)) ∧
    ((∀ uid, d.users uid = none) →
      (((∃ e ∈ d.system.files.passwd, e.pwName = n) → d.HandsOutUser c n) ↔
        ∀ e, d.system.files.getpwnam n = some e → d.ResolvesUser c n e)) ∧
    ((∀ gid, d.groups gid = none) →
      (((∃ e ∈ d.system.files.group, e.grName = n) → d.HandsOutGroup c n) ↔
        ∀ e, d.system.files.getgrnam n = some e → d.ResolvesGroup c n e)) := by
  refine ⟨GumdDaemonUser.getPasswd_findsAgreeing_iff s,
    GumdDaemonGroup.getGroup_findsAgreeing_iff t, ?_, ?_⟩
  · intro empty
    constructor
    · intro hands e found
      have named : e.pwName = n := by simpa using List.find?_some found
      exact (d.handsOutUser_iff c n empty found).mp
        (hands ⟨e, List.mem_of_find?_eq_some found, named⟩)
    · rintro resolves ⟨e, mem, rfl⟩
      have present : (d.system.files.getpwnam e.pwName).isSome = true :=
        List.find?_isSome.mpr ⟨e, mem, by simp⟩
      obtain ⟨first, found⟩ := Option.isSome_iff_exists.mp present
      exact (d.handsOutUser_iff c e.pwName empty found).mpr (resolves first found)
  · intro empty
    constructor
    · intro hands e found
      have named : e.grName = n := by simpa using List.find?_some found
      exact (d.handsOutGroup_iff c n empty found).mp
        (hands ⟨e, List.mem_of_find?_eq_some found, named⟩)
    · rintro resolves ⟨e, mem, rfl⟩
      have present : (d.system.files.getgrnam e.grName).isSome = true :=
        List.find?_isSome.mpr ⟨e, mem, by simp⟩
      obtain ⟨first, found⟩ := Option.isSome_iff_exists.mp present
      exact (d.handsOutGroup_iff c e.grName empty found).mpr (resolves first found)

namespace Sample

/-- Two accounts with uid 0. -/
def rootFiles : Files :=
  { files with
    passwd := [{ alice with pwName := str "root", pwUid := 0 },
      { alice with pwName := str "toor", pwUid := 0 }]
    shadow := [{ aliceShadow with spNamp := str "root" }, { aliceShadow with spNamp := str "toor" }] }

/-- The object of an operation on the second account. -/
def toor : St GumdDaemonUser :=
  ⟨(gumdDaemonUserNew.setUidProperty 0).setUsernameProperty (some (str "toor")),
    { System.world system (call (.userUpdate 0)) with files := rootFiles }⟩

def rootDaemon : GumdDaemon := .new { system with files := rootFiles }

def rootContext : Context := ⟨env, (call (.userUpdate 0)).faults, ⟨0, false, 0, 0, 0⟩⟩

/-- The entry of `toor` is there, and is neither found by its uid and name nor handed out by its
name. -/
theorem getPasswd_not_findsAgreeing :
    (¬wp GumdDaemonUser.getPasswd
      (fun r _ => FindsAgreeing toor.world.files.passwd toor.self.pw.agrees r) toor) ∧
    ¬((∃ e ∈ rootDaemon.system.files.passwd, e.pwName = str "toor") →
      rootDaemon.HandsOutUser rootContext (str "toor")) := by
  have entry : rootFiles.getpwnam (str "toor") =
      some { alice with pwName := str "toor", pwUid := 0 } := by decide
  constructor
  · intro finds
    have missed : (GumdDaemonUser.getPasswd.run toor).1 = none := by decide +kernel
    have found : (GumdDaemonUser.getPasswd.run toor).1.isSome = true :=
      finds.1.mpr ⟨_, List.mem_of_find?_eq_some entry, by decide⟩
    rw [missed] at found
    cases found
  · intro hands
    have handed := hands ⟨_, List.mem_of_find?_eq_some entry, rfl⟩
    have resolves := (rootDaemon.handsOutUser_iff rootContext (str "toor") (fun _ => rfl) entry).mp
      handed
    have other := congrArg (Option.map Passwd.pwName) resolves.first
    exact absurd other (by decide)

theorem lookups_find_iff_alice :
    (GumdDaemon.new system).HandsOutUser rootContext (str "alice") := by
  have entry : files.getpwnam (str "alice") = some alice := by decide
  have resolves : (GumdDaemon.new system).ResolvesUser rootContext (str "alice") alice := by
    constructor
    · decide
    · rfl
    · decide
    · exact Or.inr rfl
    · rfl
    · decide
    · rfl
    · decide
    · decide
  obtain ⟨-, -, users, -⟩ := lookups_find_iff toor ⟨gumdDaemonGroupNew, toor.world⟩ (.new system)
    rootContext (str "alice")
  refine (users fun _ => rfl).mpr ?_ ⟨alice, List.mem_of_find?_eq_some entry, rfl⟩
  intro e found
  obtain rfl := Option.some.inj (entry.symm.trans found)
  exact resolves

end Sample

end Gumd
