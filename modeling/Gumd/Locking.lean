import Gumd.Simulation

/-!
# Locked users

A user is locked while an exclamation mark stands in front of the password.  The rewrite that locks
or unlocks a user writes an empty password where the field is as wanted already, and a deletion
that stops leaves it there.
-/

namespace Gumd

open StateWp EntryLoop

/-! ## The rewrite -/

/-- The password a user should have who is locked or unlocked. -/
def wantedPwdp (lock : Bool) (pwdp : Str) : Str :=
  if pwdp.head? = some lockMark then if lock then pwdp else pwdp.tail
  else if lock then lockMark :: pwdp else pwdp

/-- The first entry of the user has the wanted password, and nothing else has changed. -/
def Relocked (lock : Bool) (name : Str) (source out : List Spwd) : Prop :=
  ∃ before entry after, source = before ++ entry :: after ∧ (∀ x ∈ before, x.spNamp ≠ name) ∧
    entry.spNamp = name ∧
    out = before ++ { entry with spPwdp := wantedPwdp lock entry.spPwdp } :: after

section Entry

variable {lock : Bool} {entry : Spwd}

theorem Spwd.isLocked_iff : entry.isLocked = true ↔ entry.spPwdp.head? = some lockMark := by
  simp [Spwd.isLocked]

/-- The rewrite writes the wanted password, except where the field is as wanted already and not
empty. -/
theorem lockedPwdp_iff : (lockedPwdp lock entry).getD [] = wantedPwdp lock entry.spPwdp ↔
    lock ≠ entry.isLocked ∨ entry.spPwdp = [] := by
  cases locked : entry.isLocked with
  | true =>
    have mark := Spwd.isLocked_iff.mp locked
    have full : entry.spPwdp ≠ [] := by
      rintro empty
      simp [empty] at mark
    cases lock <;> simp [lockedPwdp, wantedPwdp, locked, mark, full, @eq_comm _ []]
  | false =>
    have mark := mt Spwd.isLocked_iff.mpr (Bool.eq_false_iff.mp locked)
    cases lock <;> simp [lockedPwdp, wantedPwdp, locked, mark, @eq_comm _ []]

/-- Locking and unlocking a user restores the entry exactly if the user was not locked. -/
theorem relock_relock_eq_self :
    (entry.relock true).relock false = entry ↔ entry.isLocked = false := by
  have field : ∀ pwdp, { entry with spPwdp := pwdp } = entry ↔ pwdp = entry.spPwdp := by
    obtain ⟨_, _, _, _, _, _, _, _, _⟩ := entry
    simp
  change { entry with spPwdp := (lockedPwdp false (entry.relock true)).getD [] } = entry ↔ _
  rw [field]
  cases locked : entry.isLocked with
  | true =>
    have full : entry.spPwdp ≠ [] := by
      rintro empty
      simp [Spwd.isLocked, empty] at locked
    have freed : (entry.relock true).spPwdp = [] := by simp [Spwd.relock, lockedPwdp, locked]
    simp [lockedPwdp, Spwd.isLocked, freed, full.symm]
  | false =>
    have marked : (entry.relock true).spPwdp = lockMark :: entry.spPwdp := by
      simp [Spwd.relock, lockedPwdp, locked]
    simp [lockedPwdp, Spwd.isLocked, marked]

end Entry

/-- When the rewrite does for the user of the object what it should. -/
theorem lockShadowEntry_iff {u : GumdDaemonUser} {name : ValidName} {source out : List Spwd}
    {entry : Spwd} (named : u.pw.pwName = some name)
    (found : source.find? (·.spNamp == name.val) = some entry) {lock : Bool}
    (rewritten : lockShadowEntry u lock source = .ok out) :
    Relocked lock name.val source out ↔ lock ≠ entry.isLocked ∨ entry.spPwdp = [] := by
  rw [← lockedPwdp_iff]
  rw [lockShadowEntry_eq, named, ptr_some] at rewritten
  split_ifs at rewritten
  have out_eq := (Except.ok.inj rewritten).symm
  have kept : ∀ {before : List Spwd}, (∀ x ∈ before, x.spNamp ≠ name.val) →
      ∀ x ∈ before, decide (some name.val = some x.spNamp) = false := fun others x mem =>
    decide_eq_false fun same => others x mem (Option.some.inj same).symm
  constructor
  · rintro ⟨before, entry', after, rfl, others, own, wanted⟩
    rw [modifyFirst_append (kept others) (by simp [own])] at out_eq
    have first : (before ++ entry' :: after).find? (·.spNamp == name.val) = some entry' := by
      rw [List.find?_append, List.find?_eq_none.mpr (by simpa using others)]
      simp [own]
    obtain rfl : entry' = entry := Option.some.inj (first.symm.trans found)
    have same := List.append_cancel_left (wanted.symm.trans out_eq)
    exact (congrArg Spwd.spPwdp (List.cons.inj same).1).symm
  · intro wanted
    obtain ⟨own, before, after, rfl, others⟩ := List.find?_eq_some_iff_append.mp found
    replace own : entry.spNamp = name.val := beq_iff_eq.mp own
    replace others : ∀ x ∈ before, x.spNamp ≠ name.val := by simpa using others
    refine ⟨before, entry, after, rfl, others, own, ?_⟩
    rw [out_eq, modifyFirst_append (kept others) (by simp [own]), Spwd.relock, wanted]

/-! ## Deleting users -/

section Files

variable {f : Files} {name : Str} {spent : Spwd}

theorem Files.find?_shadow (f : Files) (name : Str) :
    (f.shadow.find? fun e => name = e.spNamp) = f.getspnam name := by
  simp only [Files.getspnam, beq_eq_decide, @eq_comm _ name]

theorem Files.shadow_lockShadow {f₁ f₂ : Files} (same : f₂.shadow = f₁.shadow) (name : Str)
    (lock : Bool) : (f₂.lockShadow name lock).shadow = (f₁.lockShadow name lock).shadow :=
  congrArg (modifyFirst _ _) same

/-- A user's entry stays the user's. -/
theorem own_relock (name : Str) (lock : Bool) (e : Spwd) (own : decide (name = e.spNamp) = true) :
    decide (name = (e.relock lock).spNamp) = true := own

/-- Locking and unlocking a user restores the shadow file exactly if the user was not locked. -/
theorem Files.shadow_relock_relock (found : f.getspnam name = some spent) :
    ((f.lockShadow name true).lockShadow name false).shadow = f.shadow ↔
      spent.isLocked = false := by
  rw [← Files.find?_shadow] at found
  have twice : ((f.lockShadow name true).lockShadow name false).shadow =
      modifyFirst (fun e => name = e.spNamp) (fun e => (e.relock true).relock false) f.shadow :=
    modifyFirst_modifyFirst (own_relock name true) f.shadow
  rw [twice, modifyFirst_eq_self found, relock_relock_eq_self]

theorem Files.relock_relock_eq_self (found : f.getspnam name = some spent) :
    (f.lockShadow name true).lockShadow name false = f ↔ spent.isLocked = false := by
  rw [← Files.shadow_relock_relock found]
  refine ⟨congrArg Files.shadow, fun same => ?_⟩
  change { f with shadow := ((f.lockShadow name true).lockShadow name false).shadow } = f
  rw [same]

/-- Locking a user who is not locked empties no field. -/
theorem Files.mem_of_empty_locked (found : f.getspnam name = some spent)
    (unlocked : spent.isLocked = false) {e : Spwd} (mem : e ∈ (f.lockShadow name true).shadow)
    (empty : e.spPwdp = []) : e ∈ f.shadow := by
  rw [← Files.find?_shadow] at found
  rcases mem_modifyFirst_of_found found mem with old | rfl
  · exact old
  · simp [Spwd.relock, lockedPwdp, unlocked] at empty

/-- The removal of a user from the shadow file undoes the lock. -/
theorem Files.removeShadow_lockShadow (f : Files) (name : Str) (lock : Bool) :
    ((f.lockShadow name lock).removeShadow name).shadow = (f.removeShadow name).shadow :=
  eraseP_modifyFirst (own_relock name lock) f.shadow

end Files

namespace GumdDaemonUser

variable {calm : Prop} {u : GumdDaemonUser} {env : Env} {f f' : Files} {rem r : Bool}
  {euid : UInt32}

/-- A deletion that spares locked users empties no field. -/
theorem UserDeleted.mem_of_empty (deleted : u.UserDeleted calm env rem euid f r f')
    (spares : ∀ name pent spent, u.Located euid f name pent spent →
      spent.isLocked = false ∨ terminateUser env.logind = true ∧ calm)
    {e : Spwd} (mem : e ∈ f'.shadow) (empty : e.spPwdp = []) : e ∈ f.shadow := by
  -- what the shadow file holds once the user is removed
  have removed : ∀ {name : ValidName} {pent : Passwd} {f₁ : Files},
      (f.lockShadow name.val true).SameDb f₁ →
      e ∈ ((f₁.removePasswd pent).removeShadow name.val).shadow → e ∈ f.shadow := by
    intro name pent f₁ same mem
    change e ∈ f₁.shadow.eraseP _ at mem
    rw [same.shadow] at mem
    change e ∈ ((f.lockShadow name.val true).removeShadow name.val).shadow at mem
    rw [Files.removeShadow_lockShadow] at mem
    exact List.mem_of_mem_eraseP mem
  cases deleted with
  | refused why => exact mem
  | survived located alive result =>
    have found := located.name ▸ located.shadow
    have unlocked := (spares _ _ _ located).resolve_right (by simp [alive])
    rcases result with rfl | ⟨-, rfl⟩
    · rwa [(Files.shadow_relock_relock found).mpr unlocked] at mem
    · exact Files.mem_of_empty_locked found unlocked mem empty
  | @interrupted name pent spent f₁ f₂ _ faulty located terminated same after undone =>
    have found := located.name ▸ located.shadow
    have unlocked := (spares _ _ _ located).resolve_right fun h => faulty h.2
    have shadow : f₂.shadow = (f.lockShadow name.val true).shadow := by
      rcases after with rfl | rfl <;> exact same.shadow
    rcases undone with rfl | rfl
    · rw [shadow] at mem
      exact Files.mem_of_empty_locked found unlocked mem empty
    · rw [Files.shadow_lockShadow shadow] at mem
      rwa [(Files.shadow_relock_relock found).mpr unlocked] at mem
  | noGroup located terminated same deleted =>
    rw [deleted.frame.2] at mem
    exact removed same mem
  | memberships faulty located terminated same deleted parted =>
    rw [parted.frame.2, deleted.frame.2] at mem
    exact removed same mem
  | ended located terminated same deleted parted =>
    rw [parted.frame.2, deleted.frame.2] at mem
    exact removed same mem

end GumdDaemonUser

/-- The call deletes a user. -/
def Call.DeletesUser (c : Call) : Prop := ∃ i rem, c.operation = .userDelete i rem

/-- A user whose field began with an exclamation mark gets an entry with an empty password. -/
def Files.Opens (f f' : Files) : Prop :=
  ∃ name entry entry', f.getspnam name = some entry ∧ entry.isLocked = true ∧
    f'.getspnam name = some entry' ∧ entry'.spPwdp = [] ∧ entry' ∉ f.shadow

/-- A deletion finds a user who is not locked, or can end the user's sessions and is not disturbed
afterwards. -/
def Call.SparesLocked (s : System) (c : Call) : Prop :=
  ∀ i rem, c.operation = .userDelete i rem → c.Readable ∧
    ((s.world c).lockGranted = true → ∀ name pent spent,
      (s.users i).Located (s.world c).afterLock.process.euid s.files name pent spent →
      spent.isLocked = false ∨ GumdDaemonUser.terminateUser c.env.logind = true ∧ s.Calm c)

/-- A deletion that spares locked users opens no account. -/
theorem not_opens_of_spares {s : System} {c : Call} (spares : c.SparesLocked s)
    (deletes : c.DeletesUser) : ¬s.files.Opens (s.step c).files := by
  rintro ⟨name, entry, entry', -, -, found, empty, fresh⟩
  obtain ⟨i, rem, op⟩ := deletes
  obtain ⟨readable, spares⟩ := spares i rem op
  have mem : entry' ∈ (s.step c).files.shadow := List.mem_of_find?_eq_some found
  cases granted : (s.world c).lockGranted with
  | false =>
    rw [System.files_of_refused granted] at mem
    exact fresh mem
  | true =>
    have spec := @GumdDaemonUser.gumdDaemonUserDelete_spec ⟨s.users i, s.world c⟩ readable c.env rem
    have step : (s.step c).files = ((GumdDaemonUser.gumdDaemonUserDelete c.env rem).run
        ⟨s.users i, s.world c⟩).2.world.files := by
      rw [System.step, System.call, op]
      rfl
    rw [step] at mem
    exact fresh (spec.2.mem_of_empty (spares granted) mem empty)

/-- The lock rewrite does what it should exactly where the field is not yet as wanted or is empty, and
in every run whose deletions spare locked users no deletion opens the account of a locked user. -/
theorem relocked_iff_and_run_not_opens (u : GumdDaemonUser) (name : ValidName) (lock : Bool)
    (source out : List Spwd) (entry : Spwd) (s : System) (calls : List Call) :
    (u.pw.pwName = some name → source.find? (·.spNamp == name.val) = some entry →
        lockShadowEntry u lock source = .ok out →
        (Relocked lock name.val source out ↔ lock ≠ entry.isLocked ∨ entry.spPwdp = [])) ∧
      (System.Each Call.SparesLocked s calls →
        System.Each (fun s c => c.DeletesUser → ¬s.files.Opens (s.step c).files) s calls) := by
  constructor
  · intro named found rewritten
    exact lockShadowEntry_iff named found rewritten
  · intro each
    exact each.imp fun _ _ => not_opens_of_spares

namespace Sample

/-- The object of a user who is in the shadow file. -/
def aliceObject : GumdDaemonUser := gumdDaemonUserNew.setUsernameProperty (some (str "alice"))

def lockedAlice : Spwd := { aliceShadow with spPwdp := str "!hash" }

/-- Locking a user who is locked writes an empty password, and a deletion that cannot end the user's
sessions leaves it in the file. -/
theorem not_relocked :
    (∃ out, lockShadowEntry aliceObject true [lockedAlice] = .ok out ∧
      ¬Relocked true (str "alice") [lockedAlice] out) ∧
    Files.Opens { files with shadow := [lockedAlice] }
      (System.step { system with files := { files with shadow := [lockedAlice] } }
        { call (.userDelete 0 false) with env := { env with
          logind := { env.logind with reachable := false } } }).files := by
  refine ⟨⟨_, rfl, ?_⟩, str "alice", lockedAlice, { aliceShadow with spPwdp := [] }, rfl, rfl, rfl,
    rfl, by decide⟩
  have named : aliceObject.pw.pwName = some ⟨str "alice", by decide⟩ := rfl
  rw [lockShadowEntry_iff named rfl rfl]
  decide

theorem relocked_iff_and_run_not_opens_alice :
    Relocked true (str "alice") [aliceShadow] [{ aliceShadow with spPwdp := str "!hash" }] ∧
      System.Each (fun s c => c.DeletesUser → ¬s.files.Opens (s.step c).files) system
        [call (.userDelete 0 false)] := by
  obtain ⟨relocked, keeps⟩ := relocked_iff_and_run_not_opens aliceObject ⟨str "alice", by decide⟩
    true [aliceShadow] [{ aliceShadow with spPwdp := str "!hash" }] aliceShadow system
    [call (.userDelete 0 false)]
  constructor
  · exact (relocked rfl rfl rfl).mpr (by decide)
  · apply keeps
    exact ⟨fun _ _ _ => ⟨rfl, fun _ _ _ _ _ => Or.inr ⟨rfl, rfl, rfl, rfl⟩⟩, trivial⟩

end Sample

end Gumd
