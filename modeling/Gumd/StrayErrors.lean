import Gumd.Atomicity
import Gumd.ErrorContract
import Gumd.Searches

/-!
# Successes with an error

An addition of a user ignores the default groups it could not join and keeps their errors, and the
removal of a user from all groups forgets that the group file could not be rewritten when the
rewrite of the gshadow file succeeds.  The deletion of a user removes it from all groups.
-/

namespace Gumd

open StateWp EntryLoop Reports

/-! ## Joining groups -/

/-- The user can join the group of a name: nothing keeps the lock from being taken and the user and
the group from being found, the user is new to the group, and its files can be rewritten. -/
def World.Joinable (w : World) (uid : UInt32) (name : Str) : Prop :=
  w.lockGranted = true ∧ gumValidateName (some name) = .ok () ∧
    ∃ pent entry, w.faults.read.head = true ∧ w.files.getpwuid uid = some pent ∧
      w.faults.read.tail.head = true ∧ w.files.getgrnam name = some entry ∧
      pent.pwName ∉ entry.grMem ∧ w.faults.write.head = none ∧
      ((w.seenSgrp name).isSome = true → w.faults.write.tail.head = none)

/-- The world after an attempt to join a group. -/
def World.afterJoin (w : World) (uid : UInt32) (name : Str) : World :=
  ((runOn (gumdDaemonGroupNew.setGroupnameProperty (some name))
    (GumdDaemonGroup.gumdDaemonGroupAddMember uid false)).run w).2

/-- The user can join the groups one after the other. -/
def World.JoinsAll (uid : UInt32) : List Str → World → Prop
  | [], _ => True
  | name :: rest, w => w.Joinable uid name ∧ (w.afterJoin uid name).JoinsAll uid rest

/-- A rewrite whose callback accepts the entries succeeds unless a system call fails. -/
theorem gumFileUpdate_accepted {ε : Type} {file : DbFile ε}
    {callback : List ε → Except GError (List ε)} {entries out : List ε} {w : World}
    (present : file.entries w.files = some entries) (accepted : callback entries = .ok out) :
    wp (gumFileUpdate file callback) (fun ok t => (ok = true ↔ w.faults.write.head = none) ∧
      t.faults.write = w.faults.write.tail ∧
      t.files = if ok then file.rename out w.files else w.files) w := by
  simp only [gumFileUpdate, wp_bind, wp_get, wp_set, present, accepted]
  cases w.faults.write.head with
  | none => exact ⟨iff_of_true rfl rfl, rfl, rfl⟩
  | some fault => exact ⟨iff_of_false Bool.false_ne_true fun given => (by cases given), rfl, rfl⟩

/-- What is left of the outcomes of rewrites, and the files, are those before. -/
def World.Kept (w t : World) : Prop := t.files = w.files ∧ t.faults.write = w.faults.write

theorem World.Kept.refl (w : World) : w.Kept w := ⟨rfl, rfl⟩

theorem kept_gumFileGetsgnam (name : Str) (w : World) :
    wp (gumFileGetsgnam (some name)) (fun sg t => sg = w.seenSgrp name ∧ w.Kept t) w := by
  refine wp_mono (wp_and (wp_gumFileGetsgnam_seen name w) ?_) fun sg t spec => ⟨spec.1.1, spec.2⟩
  simp only [gumFileGetsgnam, wp_bind, wp_get, wp_ite, wp_pure, wp_gumFileLookup_openShadowFile]
  exact ⟨fun _ => .refl w, fun _ => ⟨rfl, rfl⟩⟩

namespace GumdDaemonGroup

/-- The search of an object that has no gid yet. -/
theorem wp_getGroup_named {s : St GumdDaemonGroup}
    (unnumbered : s.self.group.grGid = gumGroupInvalidGid) :
    wp getGroup (fun r t => (r = (ptr s.self.group.grName).bind fun name =>
        if s.world.faults.read.head then s.world.files.getgrnam name else none) ∧
      t.self = s.self ∧ s.world.Kept t.world ∧
      t.world.faults.readShadow = s.world.faults.readShadow) s := by
  have skipped : ∀ (m : StateM World (Option Group)), lookupIf
      (s.self.group.grGid ≠ gumGroupInvalidGid) m none = pure none :=
    fun m => if_neg (not_not_intro unnumbered)
  simp only [getGroup, wp_bind, wp_getSelf, wp_liftM, skipped, wp_pure, Option.isNone_none]
  cases name : s.self.group.grName with
  | none => exact ⟨rfl, rfl, .refl _, rfl⟩
  | some n =>
    simp only [lookupIf, Option.isSome_some, and_self, if_true, gumFileGetgrnam, ptr_some,
      wp_gumFileLookup_openFile, Option.bind_some]
    cases found : (if s.world.faults.read.head = true then s.world.files.getgrnam n.val
        else none) with
    | none => exact ⟨rfl, rfl, ⟨rfl, rfl⟩, rfl⟩
    | some entry =>
      have named : entry.grName = n.val := by
        split_ifs at found
        simpa using List.find?_some found
      have agrees : s.self.group.agrees entry = true := by
        rw [GroupRecord.agrees_iff, name]
        exact ⟨Or.inl unnumbered, Or.inr (congrArg some named.symm)⟩
      rw [Option.filter_some, if_pos agrees]
      exact ⟨rfl, rfl, ⟨rfl, rfl⟩, rfl⟩

/-- A copy of entries that were looked up before. -/
theorem copyGroupData_kept {s : St GumdDaemonGroup} (entry : Group) (sg : Option Sgrp) :
    wp (copyGroupData (some entry) sg) (fun ok t => ok = true ∧ s.world.Kept t.world ∧
      ∃ copied, t.self = s.self.copyGroupEntries entry copied ∧
        (sg.isSome = true → copied = sg)) s := by
  simp only [copyGroupData, wp_bind, Option.isNone_some, Bool.false_eq_true, if_false, wp_pure,
    wp_liftM]
  cases sg with
  | some sg => exact ⟨rfl, .refl _, some sg, rfl, fun _ => rfl⟩
  | none =>
    simp only [lookupIf, Option.isNone_none, if_true]
    refine wp_mono (kept_gumFileGetsgnam entry.grName s.world) ?_
    rintro copied w ⟨-, kept⟩
    exact ⟨rfl, kept, copied, rfl, fun present => by cases present⟩

/-- The two rewrites of an addition of a member succeed unless a system call fails. -/
theorem wp_writeJoined {t : St GumdDaemonGroup} {g : GumdDaemonGroup} {entry : Group}
    {sg copied : Option Sgrp} {member : Str} (self : t.self = g.joined entry sg copied member false)
    (agrees : g.group.agrees entry = true) (here : entry ∈ t.world.files.group)
    (valid : gumValidateName (some entry.grName) = .ok ())
    (shadowed : ∀ e, sg = some e → copied = some e ∧ t.world.files.getsgnam entry.grName = some e) :
    wp (updateGroupFile .modify none >>= fun ok => if !ok then unlockReturn false else
        updateGshadowFileIf sg.isSome .modify none >>= fun ok =>
          if !ok then unlockReturn false else unlockReturn true)
      (fun r _ => r = true ↔ t.world.faults.write.head = none ∧
        (sg.isSome = true → t.world.faults.write.tail.head = none)) t := by
  have key := joined_key g entry sg copied member false
  have named : ptr t.self.group.grName = some entry.grName := by
    rw [self, key.2, loaded_name agrees, if_pos valid]
  have gid : t.self.group.grGid = entry.grGid := by rw [self, key.1]
  obtain ⟨new, put⟩ : ∃ new, t.self.group.putgrent = some new := by
    cases name : t.self.group.grName with
    | none => simp [name] at named
    | some n => exact ⟨_, by rw [GroupRecord.putgrent, name, Option.map_some]⟩
  have listed : (t.world.files.group.any fun e => t.self.group.grGid = e.grGid ∧
      (none : Option Str).or (ptr t.self.group.grName) = some e.grName) = true := by
    refine List.any_eq_true.mpr ⟨entry, here, ?_⟩
    simp [gid, named]
  obtain ⟨out, accepted⟩ : ∃ out, updateDaemonGroupEntry t.self .modify none t.world.files.group =
      .ok out := by
    rw [updateDaemonGroupEntry_modify, if_pos listed, put]
    exact ⟨_, rfl⟩
  have first := @gumFileUpdate_accepted _ groupFile _ _ _ t.world rfl accepted
  simp only [wp_bind, updateGroupFile, wp_getSelf, wp_liftM]
  refine wp_mono first ?_
  rintro ok w ⟨wrote, streams, files⟩
  rw [wp_guard]
  constructor
  · intro failed
    refine iff_of_false Bool.false_ne_true fun both => ?_
    rw [wrote.mpr both.1] at failed
    cases failed
  intro done
  have head := wrote.mp done
  rw [if_pos done] at files
  cases sg with
  | none => exact iff_of_true rfl ⟨head, fun present => by cases present⟩
  | some e =>
    obtain ⟨rfl, found⟩ := shadowed e rfl
    have sgNamp : t.self.gshadow.sgNamp = some e.sgNamp := by
      rw [self, joined, addMemberLists]
      split_ifs <;> rfl
    obtain ⟨entries, present⟩ : ∃ entries, t.world.files.gshadow = some entries := by
      cases gshadow : t.world.files.gshadow with
      | none => simp [Files.getsgnam, gshadow] at found
      | some entries => exact ⟨entries, rfl⟩
    have mem : e ∈ entries := by
      rw [Files.getsgnam, present] at found
      exact List.mem_of_find?_eq_some found
    obtain ⟨out, accepted⟩ : ∃ out, updateGshadowEntry t.self .modify none entries = .ok out := by
      rw [updateGshadowEntry_modify, if_pos (List.any_eq_true.mpr ⟨e, mem, by simp [sgNamp]⟩),
        SgrpRecord.putsgent, sgNamp]
      exact ⟨_, rfl⟩
    have present' : w.files.gshadow = some entries := by
      rw [files]
      exact present
    have second := @gumFileUpdate_accepted _ gshadowFile _ _ _ w present' accepted
    simp only [updateGshadowFileIf, Option.isSome_some, wp_bind, wp_getSelf, wp_liftM,
      Bool.not_true, Bool.false_eq_true, if_false]
    refine wp_mono second ?_
    rintro ok w' ⟨wrote, -, -⟩
    rw [streams] at wrote
    cases ok with
    | false =>
      exact iff_of_false Bool.false_ne_true fun both =>
        absurd (wrote.mpr (both.2 trivial)) Bool.false_ne_true
    | true => exact iff_of_true rfl ⟨head, fun _ => wrote.mp rfl⟩

end GumdDaemonGroup

/-- `gumd_daemon_group_add_member` of an object that has only its name set. -/
theorem gumdDaemonGroupAddMember_joins (uid : UInt32) (name : Str) (w : World) :
    wp (GumdDaemonGroup.gumdDaemonGroupAddMember uid false)
      (fun r _ => r = true ↔ w.Joinable uid name)
      ⟨gumdDaemonGroupNew.setGroupnameProperty (some name), w⟩ := by
  simp only [GumdDaemonGroup.gumdDaemonGroupAddMember, wp_bind, wp_liftM, wp_gumLockPwdfLock,
    ↓wp_guard, wp_gumReturnWithError, gumFileGetpwuid, wp_gumFileLookup_openFile,
    World.read_afterLock, World.files_afterLock]
  constructor
  · intro denied
    refine iff_of_false Bool.false_ne_true fun joinable => ?_
    rw [joinable.1] at denied
    cases denied
  intro granted
  cases user : (if w.faults.read.head = true then w.files.getpwuid uid else none) with
  | none =>
    refine iff_of_false Bool.false_ne_true ?_
    rintro ⟨-, -, pent, entry, readable, byUid, -⟩
    rw [if_pos readable, byUid] at user
    cases user
  | some pent =>
    have named : ptr (gumdDaemonGroupNew.setGroupnameProperty (some name)).group.grName =
        if gumValidateName (some name) = .ok () then some name else none :=
      ptr_setStringProperty_agreeing (Or.inl rfl)
    simp only [wp_bind]
    refine wp_mono (GumdDaemonGroup.wp_getGroup_named rfl) ?_
    rintro found t ⟨looked, self, kept, streams⟩
    rw [named] at looked
    simp only [World.Kept, World.write_afterLock, World.readShadow_afterLock] at looked kept streams
    cases found with
    | none =>
      refine iff_of_false Bool.false_ne_true ?_
      rintro ⟨-, valid, pent', entry, -, -, readable, byName, -⟩
      rw [if_pos valid, Option.bind_some, if_pos readable, byName] at looked
      cases looked
    | some entry =>
      have valid : gumValidateName (some name) = .ok () := by
        by_contra invalid
        rw [if_neg invalid] at looked
        cases looked
      rw [if_pos valid, Option.bind_some] at looked
      have own : entry.grName = name := by
        split_ifs at looked
        simpa using List.find?_some looked.symm
      have joinable : w.Joinable uid name ↔ pent.pwName ∉ entry.grMem ∧
          w.faults.write.head = none ∧
          ((w.seenSgrp name).isSome = true → w.faults.write.tail.head = none) := by
        split_ifs at looked user with readable again
        constructor
        · rintro ⟨-, -, pent', entry', -, byUid, -, byName, rest⟩
          obtain rfl := Option.some.inj (user.symm.trans byUid)
          obtain rfl := Option.some.inj (looked.trans byName)
          exact rest
        · exact fun rest => ⟨granted, valid, pent, entry, again, user, readable, looked.symm, rest⟩
      rw [joinable]
      simp only [wp_ite, gumStringUtilsSearchStringv_some, wp_bind, wp_liftM]
      constructor
      · exact fun member => iff_of_false Bool.false_ne_true fun rest => rest.1 member
      intro new
      rw [own]
      refine wp_mono (kept_gumFileGetsgnam name t.world) ?_
      rintro sg w₂ ⟨looked₂, kept₂⟩
      have seen : sg = w.seenSgrp name := by
        rw [looked₂, World.seenSgrp, World.seenSgrp, streams, kept.1]
      refine wp_mono (GumdDaemonGroup.copyGroupData_kept entry sg) ?_
      rintro ok t₃ ⟨rfl, kept₃, copied, self₃, same⟩
      have write : t₃.world.faults.write = w.faults.write :=
        kept₃.2.trans (kept₂.2.trans kept.2)
      have files : t₃.world.files = w.files := kept₃.1.trans (kept₂.1.trans kept.1)
      simp only [Bool.not_true, Bool.false_eq_true, if_false]
      rw [wp_bind, wp_modifySelf]
      have agrees :
          (gumdDaemonGroupNew.setGroupnameProperty (some name)).group.agrees entry = true := by
        rw [GroupRecord.agrees_iff, named, if_pos valid, own]
        exact ⟨Or.inl rfl, Or.inr rfl⟩
      have self₄ : GumdDaemonGroup.addMemberLists entry sg pent.pwName false t₃.self =
          (gumdDaemonGroupNew.setGroupnameProperty (some name)).joined entry sg copied pent.pwName
            false := by
        rw [self₃, self]
        rfl
      have here : entry ∈ t₃.world.files.group := by
        split_ifs at looked
        rw [files]
        exact List.mem_of_find?_eq_some looked.symm
      have shadowed : ∀ e, sg = some e →
          copied = some e ∧ t₃.world.files.getsgnam entry.grName = some e := by
        intro e present
        refine ⟨(same (by rw [present]; rfl)).trans present, ?_⟩
        rw [files, own]
        rw [present, World.seenSgrp] at seen
        split_ifs at seen
        exact seen.symm
      have writes := GumdDaemonGroup.wp_writeJoined (t := ⟨_, t₃.world⟩) self₄ agrees here
        (own ▸ valid) shadowed
      rw [write, seen] at writes
      rw [seen]
      refine wp_mono writes fun r _ done => ?_
      rw [done]
      exact ⟨fun rest => ⟨new, rest⟩, fun rest => rest.2⟩

/-- The loop over the default groups has an error afterwards exactly if it could not join all. -/
theorem joinGroups_error (uid : UInt32) (added : Bool) (names : List Str) (w : World) :
    wp (GumdDaemonUser.joinGroups uid added names) (fun _ t =>
      (w.JoinsAll uid names → t.error = w.error) ∧
      (¬w.JoinsAll uid names ∨ w.error.isSome = true → t.error.isSome = true)) w := by
  induction names generalizing added w with
  | nil => exact ⟨fun _ => rfl, fun failed => failed.resolve_left (not_not_intro trivial)⟩
  | cons name rest ih =>
    obtain ⟨r, t, ran⟩ := wp_result (GumdDaemonGroup.gumdDaemonGroupAddMember uid false)
      ⟨gumdDaemonGroupNew.setGroupnameProperty (some name), w⟩
    have joins := (ran _).mp (gumdDaemonGroupAddMember_joins uid name w)
    have reports := (ran _).mp (GumdDaemonGroup.reporting_gumdDaemonGroupAddMember uid false _)
    have after : t.world = w.afterJoin uid name :=
      (ran fun _ u => u.world = w.afterJoin uid name).mp rfl
    simp only [GumdDaemonUser.joinGroups, wp_bind, wp_runOn, ran, after]
    refine wp_mono (ih r (w.afterJoin uid name)) ?_
    rintro _ u ⟨quiet, loud⟩
    change r = true ∧ t.world.error = w.error ∨ ¬r = true ∧ t.world.error.isSome = true at reports
    rw [after, joins] at reports
    simp only [World.JoinsAll]
    rcases reports with ⟨joined, same⟩ | ⟨refused, set⟩
    · rw [same] at quiet loud
      simp only [joined, true_and]
      exact ⟨quiet, loud⟩
    · simp only [refused, false_and, not_false_eq_true, true_or, forall_const, false_implies,
        true_and]
      exact loud (Or.inr set)

/-! ## Adding a user -/

namespace GumdDaemonUser

/-- The steps of `gumd_daemon_user_add` up to the default groups. -/
def enterUser (env : Env) : UserM Bool := do
  if (← getSelf).usertype = .none then return false
  modifySelf (setMissingShell env.config)
  if !(← gumLockPwdfLock) then return false
  if !(← setUid env) then return false
  if !(← setGroup env) then return false
  if !(← setShadowData env) then return false
  if !(← updatePasswdFile .add none) then return false
  if !(← updateShadowFile .add none) then return false
  let _ ← addUserinfo env.config
  return true

/-- The steps of `gumd_daemon_user_add` from the default groups on. -/
def equipUser (env : Env) : UserM (Option UInt32) := do
  let _ ← setDefaultGroups env
  if !(← createHomeDir env) then return ← unlockReturn none
  unlockReturn (some (← getSelf).pw.pwUid)

theorem starts_gumdDaemonUserAdd (env : Env) :
    Starts St.error (·.isSome = true) (enterUser env) (gumdDaemonUserAdd env) (equipUser env) := by
  apply Starts.after mute_getSelf
  intro self
  apply Starts.leave (fails_refusal _ (by simp))
  apply Starts.after (mute_modifySelf _)
  intro _
  apply Starts.after (mute_lift mute_gumLockPwdfLock)
  intro granted
  apply Starts.leave (fails_refusal _ (by simp))
  apply Starts.guard (reporting_setUid env) (failing_unlockReturn (by simp))
  apply Starts.guard (reporting_setGroup env) (failing_unlockReturn (by simp))
  apply Starts.guard (reporting_setShadowData env) (failing_unlockReturn (by simp))
  apply Starts.guard (reporting_updatePasswdFile _ _) (failing_unlockReturn (by simp))
  apply Starts.guard (reporting_updateShadowFile _ _) (failing_unlockReturn (by simp))
  exact Starts.after (mute_addUserinfo _) fun _ => Starts.done _

/-- The outcome of the creation of the user's home directory. -/
def homeDirCreated (env : Env) (self : GumdDaemonUser) : Option GError :=
  env.createHomeDir (ptr self.pw.pwDir) self.pw.pwUid self.pw.pwGid
    (gumConfigGetUint env.config gumConfigGeneralUmask gumUmask)

/-- A user who is entered has no default groups, can join all of them, or cannot get a home
directory. -/
def Equipped (env : Env) (s : St GumdDaemonUser) : Prop :=
  s.self.usertype = .system ∨ s.world.JoinsAll s.self.pw.pwUid (s.self.defaultGroups env.config) ∨
    (s.self.homeDirCreated env).isSome = true

theorem equipUser_agrees_iff (env : Env) {s : St GumdDaemonUser} (cleared : St.error s = none) :
    wp (equipUser env) (fun r t => r.isSome = true ↔ St.error t = none) s ↔ Equipped env s := by
  simp only [equipUser, setDefaultGroups, createHomeDir, wp_bind, wp_getSelf, Equipped]
  by_cases system : s.self.usertype = .system
  · simp only [system, if_true, true_or, iff_true, wp_pure, wp_bind, wp_getSelf, Bool.not_true,
      Bool.false_eq_true, if_false, wp_unlockReturn]
    exact iff_of_true rfl ((error_afterUnlock s.world).trans cleared)
  · obtain ⟨r, w, ran⟩ := wp_result
      (joinGroups s.self.pw.pwUid true (s.self.defaultGroups env.config)) s.world
    have joined := (ran _).mp (joinGroups_error _ _ _ _)
    rw [defaultGroups] at ran
    simp only [system, if_false, false_or, wp_bind, wp_getSelf, wp_liftM, ran, homeDirCreated]
    cases env.createHomeDir (ptr s.self.pw.pwDir) s.self.pw.pwUid s.self.pw.pwGid
        (gumConfigGetUint env.config gumConfigGeneralUmask gumUmask) with
    | some e =>
      refine iff_of_true (iff_of_false Bool.false_ne_true fun unset => ?_) (Or.inr rfl)
      cases (error_afterUnlock _).symm.trans unset
    | none =>
      simp only [returnOutcome, wp_pure, Bool.not_true, Bool.false_eq_true, if_false, wp_bind,
        wp_getSelf, wp_unlockReturn, Option.isSome_some, true_iff, Option.isSome_none, or_false]
      rw [St.error, error_afterUnlock]
      constructor
      · intro unset
        by_contra failed
        simpa [unset] using joined.2 (Or.inl failed)
      · exact fun all => (joined.1 all).trans cleared

end GumdDaemonUser

/-! ## Removing a user from all groups -/

/-- The removal of a user from all groups can forget the failure of its first rewrite: it happens
after the file was opened, and the second rewrite succeeds. -/
def World.ForgetsFailure (w : World) (userName : Option Str) : Prop :=
  gumValidateName userName = .ok () ∧ w.lockGranted = true ∧ w.files.gshadow.isSome = true ∧
    (∃ f, w.faults.write.head = some f ∧ (f.late || f == .put) = true) ∧
    w.faults.write.tail.head = none

theorem gumdDaemonGroupDeleteUserMembership_error (userName : Option Str) (w : World) :
    wp (gumdDaemonGroupDeleteUserMembership userName) (fun r t =>
      (w.ForgetsFailure userName → r = true ∧ t.error.isSome = true) ∧
      (¬w.ForgetsFailure userName → r = true ∧ t.error = w.error ∨
        ¬r = true ∧ t.error.isSome = true)) w := by
  have refused : ∀ {v : World} (e : GError), ¬w.ForgetsFailure userName →
      wp (gumReturnWithError e false) (fun r t =>
        (w.ForgetsFailure userName → r = true ∧ t.error.isSome = true) ∧
        (¬w.ForgetsFailure userName → r = true ∧ t.error = w.error ∨
          ¬r = true ∧ t.error.isSome = true)) v := by
    intro v e kept
    exact ⟨fun forgets => absurd forgets kept, fun _ => Or.inr ⟨Bool.false_ne_true, rfl⟩⟩
  cases userName with
  | none => exact refused _ fun forgets => by cases forgets.1
  | some name =>
    rw [gumdDaemonGroupDeleteUserMembership]
    cases valid : gumValidateName (some name) with
    | error e => exact refused _ fun forgets => by cases valid.symm.trans forgets.1
    | ok _ =>
      simp only [wp_bind, wp_gumLockPwdfLock, ↓wp_guard]
      constructor
      · intro denied
        exact refused _ fun forgets => by cases denied.symm.trans forgets.2.1
      intro granted
      simp only [wp_get]
      rw [wp_bind]
      refine wp_mono (wp_and (@gumFileUpdate_accepted _ groupFile _ w.files.group
        (w.files.group.map (Group.deleteMember name)) w.afterLock (by simp [groupFile]) rfl)
        (reporting_gumFileUpdate groupFile _ w.afterLock)) ?_
      rintro ok t ⟨⟨wrote, streams, files⟩, reports⟩
      rw [World.write_afterLock] at wrote streams
      rw [error_afterLock] at reports
      have gshadow : t.files.gshadow = w.files.gshadow := by
        rw [files, World.files_afterLock]
        split_ifs <;> rfl
      simp only [wp_ite, wp_bind, wp_get, wp_gumLockPwdfUnlock, wp_pure, error_afterUnlock,
        World.write_afterLock, gshadow]
      refine ⟨fun stop => ?_, fun go => ⟨fun absent => ?_, fun present => ?_⟩⟩
      · obtain ⟨failed, early⟩ := (Bool.and_eq_true _ _).mp stop
        have set := (reports.resolve_left fun ran => by simp [ran.1] at failed).2
        refine ⟨fun forgets => ?_, fun _ => Or.inr ⟨Bool.false_ne_true, set⟩⟩
        obtain ⟨fault, head, late⟩ := forgets.2.2.2.1
        simp [head, late] at early
      · refine ⟨fun forgets => ?_, fun _ => reports⟩
        have present := forgets.2.2.1
        rw [Option.isNone_iff_eq_none.mp absent] at present
        cases present
      · obtain ⟨entries, there⟩ := Option.ne_none_iff_exists'.mp
          (mt Option.isNone_iff_eq_none.mpr present)
        refine wp_mono (wp_and (@gumFileUpdate_accepted _ gshadowFile _ entries
          (entries.map (Sgrp.deleteMember name)) t (gshadow.trans there) rfl)
          (reporting_gumFileUpdate gshadowFile _ t)) ?_
        rintro ok₂ u ⟨⟨wrote₂, -, -⟩, reports₂⟩
        rw [streams] at wrote₂
        simp only [wp_bind, wp_gumLockPwdfUnlock, wp_pure, error_afterUnlock]
        -- the second result alone is returned
        have forgets_iff : w.ForgetsFailure (some name) ↔ ok = false ∧ ok₂ = true := by
          constructor
          · rintro ⟨-, -, -, ⟨fault, head, -⟩, second⟩
            refine ⟨Bool.eq_false_iff.mpr fun ran => ?_, wrote₂.mpr second⟩
            rw [wrote.mp ran] at head
            cases head
          · rintro ⟨rfl, rfl⟩
            refine ⟨valid, granted, by rw [there]; rfl, ?_, wrote₂.mp rfl⟩
            obtain ⟨fault, head⟩ := Option.ne_none_iff_exists'.mp
              (mt wrote.mpr Bool.false_ne_true)
            refine ⟨fault, head, ?_⟩
            simpa [head, Bool.or_eq_true, or_iff_not_imp_left] using go
        rw [forgets_iff]
        cases ok <;> cases ok₂ <;> simp_all

/-! ## Deleting a user -/

namespace GumdDaemonUser

/-- The steps of `gumd_daemon_user_delete` up to the end of the user's sessions. -/
def endSessions (env : Env) : UserM Bool := do
  if !(← gumLockPwdfLock) then return false
  if (← getSelf).pw.pwUid = gumUserInvalidUid then return false
  if !(← copyPasswdData env) then return false
  let s ← get
  if s.self.pw.pwUid = s.world.process.euid then return false
  if !(← lockUser true) then return false
  if !terminateUser env.logind then return false
  return true

/-- The steps of `gumd_daemon_user_delete` that remove the user's entries and group. -/
def removeEntries (env : Env) : UserM Bool := do
  deleteUserinfo env.config
  if !(← deleteEntries) then return false
  deleteGroup env

/-- The steps of `gumd_daemon_user_delete` up to the removal of the user from all groups. -/
def strikeUser (env : Env) : UserM Bool := do
  if !(← endSessions env) then return false
  removeEntries env

/-- The steps of `gumd_daemon_user_delete` from the removal of the user from all groups on. -/
def clearUser (env : Env) (remHomeDir : Bool) : UserM Bool := do
  if !(← gumdDaemonGroupDeleteUserMembership (ptr (← getSelf).pw.pwName)) then return false
  if remHomeDir then deleteHomeDir env else return true

theorem starts_endSessions (env : Env) (remHomeDir : Bool) :
    Starts St.error (· = true) (endSessions env) (gumdDaemonUserDelete env remHomeDir)
      (removeUser env remHomeDir >>= unlockReturn) := by
  apply Starts.after (mute_lift mute_gumLockPwdfLock)
  intro granted
  apply Starts.leave (fails_refusal _ (by simp))
  apply Starts.after mute_getSelf
  intro self
  apply Starts.leave (fails_unlockReturnWithError _ (by simp))
  apply Starts.guard (reporting_copyPasswdData env) fun s _ =>
    fails_unlockReturnWithError _ (by simp) s
  apply Starts.after mute_get
  intro s
  apply Starts.leave (fails_unlockReturnWithError _ (by simp))
  apply Starts.after (mute_lockUser true)
  intro locked
  apply Starts.leave (fails_unlockReturnWithError _ (by simp))
  apply Starts.leave _ (Starts.done _)
  intro s
  rw [wp_bind]
  exact wp_mono (mute_lockUser false s) fun _ t _ => fails_unlockReturnWithError _ (by simp) t

theorem starts_removeEntries (env : Env) (remHomeDir : Bool) :
    Starts St.error (· = true) (removeEntries env) (removeUser env remHomeDir)
      (clearUser env remHomeDir) := by
  apply Starts.after (mute_deleteUserinfo _)
  intro _
  apply Starts.guard reporting_deleteEntries
  · exact ((mute_lockUser false).bind fun _ => .pure _).failing fun _ => Bool.false_ne_true
  · exact Starts.last (reporting_deleteGroup env) (failing_pure (by simp))

theorem starts_gumdDaemonUserDelete (env : Env) (remHomeDir : Bool) :
    Starts St.error (· = true) (strikeUser env) (gumdDaemonUserDelete env remHomeDir)
      (clearUser env remHomeDir >>= unlockReturn) :=
  (starts_endSessions env remHomeDir).trans (starts_removeEntries env remHomeDir)
    fun _ bad => failing_unlockReturn bad

/-- The home directory is not to be deleted, or can be. -/
def HomeDirGoes (env : Env) (remHomeDir : Bool) (self : GumdDaemonUser) : Prop :=
  remHomeDir = true → self.usertype = .system ∨ env.deleteHomeDir (ptr self.pw.pwDir) = none

theorem clearUser_agrees_iff (env : Env) (remHomeDir : Bool) {s : St GumdDaemonUser}
    (cleared : St.error s = none) :
    wp (clearUser env remHomeDir >>= unlockReturn) (fun r t => r = true ↔ St.error t = none) s ↔
      ¬(s.world.ForgetsFailure (ptr s.self.pw.pwName) ∧ s.self.HomeDirGoes env remHomeDir) := by
  obtain ⟨r, w, ran⟩ := wp_result
    (gumdDaemonGroupDeleteUserMembership (ptr s.self.pw.pwName)) s.world
  obtain ⟨forgets, keeps⟩ := (ran _).mp (gumdDaemonGroupDeleteUserMembership_error _ _)
  have ended : ∀ b, wp (unlockReturn b : UserM Bool) (fun r t => r = true ↔ St.error t = none)
      = fun t => b = true ↔ St.error t = none := by
    intro b
    funext t
    rw [wp_unlockReturn, St.error, error_afterUnlock]
    rfl
  simp only [clearUser, wp_bind, wp_getSelf, wp_liftM, ran, ended, ↓wp_guard, wp_pure]
  by_cases forgotten : s.world.ForgetsFailure (ptr s.self.pw.pwName)
  · obtain ⟨rfl, set⟩ := forgets forgotten
    have loud : ¬(true = true ↔ w.error = none) := by
      intro same
      rw [same.mp rfl] at set
      cases set
    simp only [forgotten, true_and, Bool.true_eq_false, false_implies, forall_const]
    cases remHomeDir with
    | false => exact iff_of_false loud (not_not_intro fun wanted => by cases wanted)
    | true =>
      simp only [if_true, deleteHomeDir, wp_bind, wp_getSelf, HomeDirGoes, forall_const]
      by_cases system : s.self.usertype = .system
      · simp only [system, if_true, wp_pure]
        exact iff_of_false (fun same => loud ⟨fun _ => same.mp trivial, fun _ => rfl⟩)
          (not_not_intro (Or.inl trivial))
      · simp only [system, if_false, false_or, wp_liftM]
        cases env.deleteHomeDir (ptr s.self.pw.pwDir) with
        | none => exact iff_of_false loud (not_not_intro rfl)
        | some e => exact iff_of_true (iff_of_false Bool.false_ne_true (fun given => by cases given)) fun given => by cases given
  · have reports : Reporting St.error (· = true)
        (if remHomeDir then deleteHomeDir env else pure true : UserM Bool) :=
      .ite (fun _ => reporting_deleteHomeDir env) fun _ => .pure rfl
    refine iff_of_true ⟨fun failed => ?_, fun done => ?_⟩ fun both => forgotten both.1
    · have set := ((keeps forgotten).resolve_left fun ran => by simp [ran.1] at failed).2
      refine iff_of_false Bool.false_ne_true fun unset => ?_
      change w.error = none at unset
      rw [unset] at set
      cases set
    · have same := ((keeps forgotten).resolve_right fun ran => ran.1 done).2
      exact reports.success_iff (same.trans cleared)

end GumdDaemonUser

/-! ## The contract -/

/-- The calls that take a `GError`. -/
def CoreCall.TakesError : CoreCall → Prop
  | .userNewByUid _ | .userNewByName _ | .userGetUidByName _ => False
  | .groupNewByGid _ | .groupNewByName _ | .groupGetGidByName _ => False
  | _ => True

/-- The conditions under which the result and the error of a call agree.  Whether an addition or a deletion
gets as far as the step that drops a failure depends on each lookup and each write before it, so these
steps are run here up to that one. -/
def CoreCall.Agrees (env : Env) (w : World) : CoreCall → Prop
  | .userAdd self =>
      wp (GumdDaemonUser.enterUser env) (fun ok s => ok = true → GumdDaemonUser.Equipped env s)
        ⟨self, w⟩
  | .userDelete self remHomeDir =>
      wp (GumdDaemonUser.strikeUser env) (fun ok s => ok = true →
        ¬(s.world.ForgetsFailure (ptr s.self.pw.pwName) ∧ s.self.HomeDirGoes env remHomeDir))
        ⟨self, w⟩
  | .groupDeleteUserMembership userName => ¬w.ForgetsFailure userName
  | _ => True

/-- A call that takes a `GError` and finds it unset succeeds exactly if it leaves it unset. -/
theorem coreCall_agrees_iff (env : Env) {c : CoreCall} (takes : c.TakesError) {w : World}
    (cleared : w.error = none) :
    wp (c.run env) (fun ok t => ok = true ↔ t.error = none) w ↔ c.Agrees env w := by
  cases c with
  | userNewByUid uid => cases takes
  | userNewByName username => cases takes
  | userGetUidByName username => cases takes
  | groupNewByGid gid => cases takes
  | groupNewByName groupname => cases takes
  | groupGetGidByName groupname => cases takes
  | userAdd self =>
    exact (GumdDaemonUser.starts_gumdDaemonUserAdd env).success_iff (s := ⟨self, w⟩) cleared
      fun _ => GumdDaemonUser.equipUser_agrees_iff env
  | userDelete self remHomeDir =>
    exact (GumdDaemonUser.starts_gumdDaemonUserDelete env remHomeDir).success_iff (s := ⟨self, w⟩)
      cleared fun _ => GumdDaemonUser.clearUser_agrees_iff env remHomeDir
  | userUpdate self =>
    exact iff_of_true ((GumdDaemonUser.reporting_gumdDaemonUserUpdate env).success_iff
      (s := ⟨self, w⟩) cleared) trivial
  | userGetUserList types =>
    exact iff_of_true ((reporting_gumdDaemonUserGetUserList env.config types).success_iff cleared)
      trivial
  | groupAdd self preferredGid =>
    exact iff_of_true ((GumdDaemonGroup.reporting_gumdDaemonGroupAdd env preferredGid).success_iff
      (s := ⟨self, w⟩) cleared) trivial
  | groupDelete self =>
    exact iff_of_true ((GumdDaemonGroup.reporting_gumdDaemonGroupDelete env).success_iff
      (s := ⟨self, w⟩) cleared) trivial
  | groupUpdate self =>
    exact iff_of_true ((GumdDaemonGroup.reporting_gumdDaemonGroupUpdate env).success_iff
      (s := ⟨self, w⟩) cleared) trivial
  | groupAddMember self uid addAsAdmin =>
    have reports := GumdDaemonGroup.reporting_gumdDaemonGroupAddMember uid addAsAdmin
    exact iff_of_true (reports.success_iff (s := ⟨self, w⟩) cleared) trivial
  | groupDeleteMember self uid =>
    exact iff_of_true ((GumdDaemonGroup.reporting_gumdDaemonGroupDeleteMember uid).success_iff
      (s := ⟨self, w⟩) cleared) trivial
  | groupDeleteUserMembership userName =>
    obtain ⟨r, t, ran⟩ := wp_result (gumdDaemonGroupDeleteUserMembership userName) w
    obtain ⟨forgets, keeps⟩ := (ran _).mp (gumdDaemonGroupDeleteUserMembership_error userName w)
    simp only [CoreCall.run, CoreCall.Agrees, ran]
    by_cases forgotten : w.ForgetsFailure userName
    · obtain ⟨rfl, set⟩ := forgets forgotten
      refine iff_of_false (fun same => ?_) (not_not_intro forgotten)
      rw [same.mp rfl] at set
      cases set
    · refine iff_of_true ?_ forgotten
      rcases keeps forgotten with ⟨rfl, same⟩ | ⟨failed, set⟩
      · exact iff_of_true rfl (same.trans cleared)
      · refine iff_of_false failed fun unset => ?_
        rw [unset] at set
        cases set

namespace Sample

theorem coreCall_agrees_iff_bob :
    wp ((CoreCall.userAdd addition.self).run env) (fun ok t => ok = true ↔ t.error = none)
      addition.world ↔ (CoreCall.userAdd addition.self).Agrees env addition.world :=
  coreCall_agrees_iff env (c := .userAdd addition.self) trivial rfl

/-- Users are to join a group that does not exist. -/
def strayEnv : Env :=
  { env with config := ⟨(gumConfigGeneralDefUsrGroups, .string (str "users")) ::
    env.config.configTable⟩ }

/-- The user is added, and the error of the missing group is kept. -/
theorem not_coreCall_agrees : ¬∀ (env : Env) (c : CoreCall) (w : World), c.TakesError →
    w.error = none → wp (c.run env) (fun ok t => ok = true ↔ t.error = none) w := by
  intro agrees
  have same := agrees strayEnv (.userAdd addition.self) addition.world trivial rfl
  have added : ((CoreCall.userAdd addition.self).run strayEnv addition.world).1 = true := by
    decide +kernel
  have kept := same.mp added
  revert kept
  decide +kernel

end Sample

end Gumd
