import Gumd.FileSteps
import Gumd.UserMerge

/-!
# What operations leave alone

Whatever the lookups answer, an update or a deletion works on an entry that agrees with its object,
and so the object keeps its name and uid; the operations of groups never touch the files of users.
-/

namespace Gumd

open StateWp EntryLoop

/-! ## Group operations -/

/-- The passwd and shadow files are as they were. -/
def KeepsUsers {O : Type} (s t : St O) : Prop :=
  t.world.files.passwd = s.world.files.passwd ∧ t.world.files.shadow = s.world.files.shadow

/-- The rewrites of group operations are those of the group and gshadow files. -/
theorem keepsUsers_step {f f' : Files} (step : GroupStep f f') :
    f'.passwd = f.passwd ∧ f'.shadow = f.shadow := by
  cases step with
  | group g op userData written =>
    obtain ⟨entries, out, -, -, rfl⟩ := DbFile.rewrite_ok written
    exact ⟨rfl, rfl⟩
  | gshadow g op userData written =>
    obtain ⟨entries, out, -, -, rfl⟩ := DbFile.rewrite_ok written
    exact ⟨rfl, rfl⟩
  | groupMembers name written =>
    obtain ⟨entries, out, -, -, rfl⟩ := DbFile.rewrite_ok written
    exact ⟨rfl, rfl⟩
  | gshadowMembers name written =>
    obtain ⟨entries, out, -, -, rfl⟩ := DbFile.rewrite_ok written
    exact ⟨rfl, rfl⟩

/-- No group operation touches the files of users. -/
theorem keepsUsers_of_steps {O α : Type} {m : GumM O α} (steps : FileSteps GroupStep m) :
    Rewrites KeepsUsers m := by
  have frame : Frame fun f f' : Files => f'.passwd = f.passwd ∧ f'.shadow = f.shadow :=
    ⟨fun _ => ⟨rfl, rfl⟩, fun first second =>
      ⟨second.1.trans first.1, second.2.trans first.2⟩⟩
  have kept := steps.keeps frame fun _ _ => keepsUsers_step
  exact kept

namespace GumdDaemonGroup

variable {s : St GumdDaemonGroup}

/-! ### The group an operation works on -/

/-- A group is deleted, or found to be in use, only if an entry agrees with the object. -/
theorem gumdDaemonGroupDelete_seen (env : Env) :
    wp (gumdDaemonGroupDelete env) (fun r _ => r = true →
      s.self.group.grGid ≠ gumGroupInvalidGid ∧
        ∃ entry, s.world.seenGroup s.self.group = some entry) s := by
  rw [gumdDaemonGroupDelete, wp_bind, wp_liftM, wp_gumLockPwdfLock, wp_guard]
  refine ⟨fun denied done => (nomatch done), fun granted => ?_⟩
  rw [wp_bind, wp_getSelf, wp_ite]
  refine ⟨fun invalid done => (nomatch done), fun valid => ?_⟩
  rw [wp_bind, copyGroupData, wp_bind]
  refine wp_mono (@wp_getGroup_seen ⟨s.self, s.world.afterLock⟩ valid) ?_
  rintro found t ⟨rfl, -, -⟩
  have seen : (World.afterLock s.world).seenGroup s.self.group = s.world.seenGroup s.self.group :=
    World.search_afterLock _ _ _ _
  cases found : s.world.seenGroup s.self.group with
  | none =>
    simp only [seen, found, wp_pure, ↓wp_guard]
    exact ⟨fun _ done => (nomatch done), by simp⟩
  | some entry => exact wp_mono (P := fun _ _ => True) trivial fun _ _ _ _ => ⟨valid, entry, rfl⟩

theorem gumdDaemonGroupUpdate_seen (env : Env) :
    wp (gumdDaemonGroupUpdate env) (fun r _ => r = true →
      s.self.group.grGid ≠ gumGroupInvalidGid ∧
        ∃ entry, s.world.seenGroup s.self.group = some entry) s := by
  rw [gumdDaemonGroupUpdate, wp_bind, wp_liftM, wp_gumLockPwdfLock, wp_guard]
  refine ⟨fun denied done => (nomatch done), fun granted => ?_⟩
  rw [wp_bind, wp_getSelf, wp_ite]
  refine ⟨fun invalid done => (nomatch done), fun valid => ?_⟩
  rw [wp_bind]
  refine wp_mono (@wp_getGroup_seen ⟨s.self, s.world.afterLock⟩ valid) ?_
  rintro found t ⟨rfl, -, -⟩
  have seen : (World.afterLock s.world).seenGroup s.self.group = s.world.seenGroup s.self.group :=
    World.search_afterLock _ _ _ _
  cases found : s.world.seenGroup s.self.group with
  | none =>
    simp only [seen, found]
    exact fun done => (nomatch done)
  | some entry => exact wp_mono (P := fun _ _ => True) trivial fun _ _ _ _ => ⟨valid, entry, rfl⟩

/-- The object has the gid it had. -/
def KeepsGid (s t : St GumdDaemonGroup) : Prop := t.self.group.grGid = s.self.group.grGid

theorem frame_keepsGid : Frame KeepsGid := ⟨fun _ => rfl, fun first second => second.trans first⟩

theorem keepsGid_of_self {s t : St GumdDaemonGroup} (same : t.self = s.self) : KeepsGid s t := by
  rw [KeepsGid, same]

theorem keepsGid_lift {α : Type} (m : StateM World α) : Rewrites KeepsGid (liftM m : GroupM α) := by
  intro s
  rw [wp_liftM]
  exact keepsGid_of_self (t := ⟨s.self, _⟩) rfl

theorem keepsGid_unlockReturn {α : Type} (r : α) :
    Rewrites KeepsGid (unlockReturn r : GroupM α) := by
  intro s
  rw [wp_unlockReturn]
  exact keepsGid_of_self (t := ⟨s.self, _⟩) rfl

theorem keepsGid_unlockReturnWithError {α : Type} (e : GError) (r : α) :
    Rewrites KeepsGid (unlockReturnWithError e r : GroupM α) :=
  keepsGid_unlockReturn r

theorem keepsGid_of_writesAs {op : GumOpType} {userData : Option Str} :
    Rewrites KeepsGid (updateGroupFile op userData) ∧
      Rewrites KeepsGid (updateGshadowFile op userData) :=
  ⟨fun s => wp_mono (writesAs_updateGroupFile _ _ _ s rfl) fun _ _ h => keepsGid_of_self h.1,
    fun s => wp_mono (writesAs_updateGshadowFile _ _ _ s rfl) fun _ _ h => keepsGid_of_self h.1⟩

/-- A step that must succeed. -/
theorem keepsGid_guard {m : GroupM Bool} {rest : GroupM Bool} (step : Rewrites KeepsGid m)
    (continues : Rewrites KeepsGid rest) :
    Rewrites KeepsGid (m >>= fun ok => if !ok then unlockReturn false else rest) := by
  apply Rewrites.bind frame_keepsGid step
  intro ok
  exact .ite (fun _ => keepsGid_unlockReturn _) fun _ => continues

theorem grGid_mergeEntries (g : GumdDaemonGroup) (grp : Group) (gshadow : Option Sgrp) :
    (g.mergeEntries grp gshadow).group.grGid = g.group.grGid := by
  simp only [mergeEntries]
  split_ifs <;> rfl

theorem keepsGid_setSecret (env : Env) : Rewrites KeepsGid (setSecret env) := by
  intro s
  refine wp_mono (wp_setSecret env) ?_
  rintro ok t ⟨-, self, -⟩
  rw [KeepsGid, self]
  rfl

theorem keepsGid_gumdDaemonGroupUpdate (env : Env) :
    Rewrites KeepsGid (gumdDaemonGroupUpdate env) := by
  apply Rewrites.bind frame_keepsGid (keepsGid_lift _)
  intro granted
  apply Rewrites.ite
  · exact fun _ => .bind frame_keepsGid (keepsGid_lift _) fun _ => .pure frame_keepsGid _
  intro _
  apply Rewrites.bind frame_keepsGid (rewrites_getSelf frame_keepsGid)
  intro self
  apply Rewrites.ite
  · exact fun _ => keepsGid_unlockReturnWithError _ _
  intro valid
  apply Rewrites.bind frame_keepsGid (unmoved_getGroup.mono fun _ _ h => keepsGid_of_self h.1)
  intro found
  cases found with
  | none => exact keepsGid_unlockReturn _
  | some grp =>
    apply Rewrites.bind frame_keepsGid (keepsGid_lift _)
    intro gshadow
    apply Rewrites.bind frame_keepsGid (rewrites_getSelf frame_keepsGid)
    intro self
    apply Rewrites.ite
    · exact fun _ => keepsGid_unlockReturnWithError _ _
    intro changed
    apply Rewrites.bind frame_keepsGid
    · intro s
      rw [wp_modifySelf, KeepsGid, grGid_mergeEntries]
    intro _
    exact keepsGid_guard (keepsGid_setSecret env) (keepsGid_guard keepsGid_of_writesAs.1
      (keepsGid_guard keepsGid_of_writesAs.2 (keepsGid_unlockReturn _)))

end GumdDaemonGroup

/-- A load leaves the passwd file alone. -/
theorem passwd_loadGroup (object : GumdDaemonGroup) (w : World) :
    wp (loadGroup object) (fun _ t => t.files.passwd = w.files.passwd) w := by
  rw [loadGroup, wp_bind, wp_gumLockPwdfLock, wp_guard]
  have locked : w.afterLock.files.passwd = w.files.passwd :=
    congrArg Files.passwd (World.files_afterLock _)
  refine ⟨fun denied => locked, fun granted => ?_⟩
  rw [wp_bind, wp_withNullError, wp_runOn]
  refine wp_mono (keepsUsers_of_steps (GumdDaemonGroup.steps_copyGroupData none none) _) ?_
  rintro copied t ⟨passwd, -⟩
  rw [wp_bind, wp_gumLockPwdfUnlock, wp_pure, World.files_afterUnlock]
  exact passwd.trans locked

/-! ## User operations -/

namespace GumdDaemonUser

variable {s : St GumdDaemonUser}

/-- The object has the uid it had, and its name if it had one. -/
structure SameIdentity (u u' : GumdDaemonUser) : Prop where
  uid : u'.pw.pwUid = u.pw.pwUid
  name : ∀ name, u.pw.pwName = some name → u'.pw.pwName = some name

theorem SameIdentity.refl (u : GumdDaemonUser) : u.SameIdentity u := ⟨rfl, fun _ => id⟩

/-- An entry that agrees with an object that has a uid changes neither its uid nor its name. -/
theorem sameIdentity_of_agrees {u : GumdDaemonUser} {entry : Passwd}
    (valid : u.pw.pwUid ≠ gumUserInvalidUid) (agrees : u.pw.agrees entry = true) :
    entry.pwUid = u.pw.pwUid ∧ ∀ name, u.pw.pwName = some name →
      setStringProperty (some entry.pwName) u.pw.pwName = some name := by
  obtain ⟨uid, name⟩ := PasswdRecord.agrees_iff.mp agrees
  refine ⟨(uid.resolve_left valid).symm, fun own given => ?_⟩
  have same : ptr u.pw.pwName = some entry.pwName := name.resolve_left (by simp [given])
  rw [setStringProperty, same]
  simpa [gStrcmp0] using given

/-- The object after a load, whatever the lookups answer. -/
theorem wp_copyPasswdData_seen (valid : s.self.pw.pwUid ≠ gumUserInvalidUid) (env : Env) :
    wp (copyPasswdData env) (fun ok t => (ok = false ∧ t.self = s.self ∨ ok = true ∧
      ∃ pent spent icon, s.world.seenPasswd s.self.pw = some pent ∧
        s.world.files.getspnam pent.pwName = some spent ∧
        t.self = s.self.copyPasswdEntries pent spent icon) ∧ s.world.Quiet t.world) s := by
  rw [copyPasswdData, wp_bind]
  refine wp_mono (wp_getPasswd_seen valid) ?_
  rintro found t ⟨rfl, self, sought⟩
  cases found : s.world.seenPasswd s.self.pw with
  | none => exact ⟨Or.inl ⟨rfl, self⟩, sought.quiet⟩
  | some pent =>
    rw [wp_bind, wp_liftM]
    refine wp_mono (gumFileGetspnam_spec pent.pwName t.world) ?_
    rintro spent w ⟨answer, looked⟩
    rw [sought.quiet.files] at answer
    have quiet := sought.quiet.trans looked.quiet
    cases spent with
    | none => exact ⟨Or.inl ⟨rfl, self⟩, quiet.trans (.error _ _)⟩
    | some spent =>
      dsimp only
      rw [wp_bind]
      refine wp_mono (wp_getUserinfo env.config) ?_
      rintro icon v ⟨-, self', looked'⟩
      rw [wp_bind, wp_modifySelf, wp_pure, self']
      change (_ ∨ _ = _ ∧ ∃ pent' spent' icon', _ = _ ∧ _ = _ ∧
        t.self.copyPasswdEntries pent spent icon = _) ∧ _
      rw [self]
      exact ⟨Or.inr ⟨rfl, pent, spent, icon, rfl, answer.of_some, rfl⟩, quiet.trans looked'.quiet⟩

/-- A rewrite of an entry that keeps its uid and name keeps those of all entries. -/
theorem map_replacePasswd {f : Files} {pw new : Passwd} (uid : new.pwUid = pw.pwUid)
    (name : new.pwName = pw.pwName) :
    (f.replacePasswd pw new).passwd.map (fun e => (e.pwUid, e.pwName)) =
      f.passwd.map fun e => (e.pwUid, e.pwName) := by
  refine map_modifyFirst (f := fun _ => new) (fun e matching => ?_) f.passwd
  obtain ⟨uid', -, name'⟩ := of_decide_eq_true matching
  rw [uid, name, uid', name']

/-- Whatever an update writes, the entries and the object keep their uids and names. -/
theorem MergeWrites.identity {u u' : GumdDaemonUser} {env : Env} {w : World} {r : Bool}
    {f' : Files} (writes : u.MergeWrites env w r u' f') : u.SameIdentity u' ∧
      f'.passwd.map (fun e => (e.pwUid, e.pwName)) =
        w.files.passwd.map fun e => (e.pwUid, e.pwName) := by
  have object : ∀ {pw sp}, u.pw.pwUid ≠ gumUserInvalidUid → w.seenPasswd u.pw = some pw →
      u.SameIdentity (u.updated env pw sp) := by
    intro pw sp valid found
    obtain ⟨uid, name⟩ := sameIdentity_of_agrees valid (World.seenPasswd_some found).1
    obtain ⟨uid', -, name'⟩ := keys_updated u env pw sp
    exact ⟨uid'.trans uid, fun own given => name'.trans (name own given)⟩
  have icon : ∀ {f₁}, u.IconWritten w.files f₁ → f₁.passwd = w.files.passwd := by
    rintro f₁ (rfl | ⟨-, info, rfl⟩) <;> rfl
  cases writes with
  | nothing => exact ⟨.refl u, rfl⟩
  | icon valid found written => exact ⟨object valid found, by rw [icon written]⟩
  | passwdOnly valid found shadow written put =>
    obtain ⟨name, uid, -⟩ := keys_of_put (World.seenPasswd_some found).1 put
    exact ⟨object valid found, by rw [map_replacePasswd uid name, icon written]⟩
  | both valid merges =>
    obtain ⟨name, uid, -, -⟩ := merges.keys
    refine ⟨object valid merges.found, ?_⟩
    exact merges.replaces.map_passwd _ (by rw [uid, name])

/-! ### Deleting a user -/

/-- What a deletion can do to the passwd file: nothing, or it removes the entry it has found. -/
inductive Removes (u : GumdDaemonUser) (env : Env) (w : World) : Bool → List Passwd → Prop
  | nothing : Removes u env w false w.files.passwd
  | removed {r pent} : w.lockGranted = true → terminateUser env.logind = true →
      u.pw.pwUid ≠ gumUserInvalidUid → w.seenPasswd u.pw = some pent →
      Removes u env w r (w.files.removePasswd pent).passwd

/-- The entry a rewrite for a deletion drops. -/
theorem rewritePasswd_remove {u : GumdDaemonUser} {f f' : Files} {pent : Passwd}
    (uid : u.pw.pwUid = pent.pwUid) (gid : u.pw.pwGid = pent.pwGid)
    (name : ∀ own, u.pw.pwName = some own → own.val = pent.pwName)
    (written : passwdFile.rewrite (updatePasswdEntry u .delete none) f = .ok f') :
    f' = f.removePasswd pent := by
  simp only [DbFile.rewrite, passwdFile, updatePasswdEntry_delete, uid, gid] at written
  cases own : u.pw.pwName with
  | none => simp [own, Except.map] at written
  | some n =>
    simp only [own, ptr_some, Option.some.injEq, name n own] at written
    split_ifs at written with picked
    · simpa [Except.map, Files.removePasswd, @eq_comm _ f'] using written
    · simp [Except.map] at written

/-- The object and the passwd file are as they were. -/
def KeepsPasswd (s t : St GumdDaemonUser) : Prop :=
  t.self = s.self ∧ t.world.files.passwd = s.world.files.passwd

theorem frame_keepsPasswd : Frame KeepsPasswd :=
  ⟨fun _ => ⟨rfl, rfl⟩, fun first second =>
    ⟨second.1.trans first.1, second.2.trans first.2⟩⟩

/-- A rewrite of the shadow file. -/
theorem keepsPasswd_of_writesAs {u : GumdDaemonUser} {m : UserM Bool}
    {callback : List Spwd → Except GError (List Spwd)}
    (writes : WritesAs u m (shadowFile.rewrite callback)) (self : s.self = u) :
    wp m (fun _ t => KeepsPasswd s t) s := by
  refine wp_mono (writes s self) ?_
  rintro ok t ⟨self', -, ⟨-, same, -⟩ | ⟨-, written⟩⟩
  · exact ⟨self'.trans self.symm, congrArg Files.passwd same⟩
  · obtain ⟨entries, out, -, -, changed⟩ := DbFile.rewrite_ok written
    refine ⟨self'.trans self.symm, ?_⟩
    rw [changed]
    rfl

theorem keepsPasswd_lockUser (lock : Bool) : Rewrites KeepsPasswd (lockUser lock) :=
  fun s => keepsPasswd_of_writesAs (writesAs_lockUser s.self lock) rfl

theorem keepsPasswd_deleteUserinfo (config : GumConfig) :
    Rewrites KeepsPasswd (deleteUserinfo config) :=
  fun _ => wp_mono (wp_deleteUserinfo config) fun _ _ spec => ⟨spec.1, spec.2.2.passwd⟩

theorem keepsPasswd_deleteHomeDir (env : Env) : Rewrites KeepsPasswd (deleteHomeDir env) :=
  fun _ => wp_mono (wp_deleteHomeDir env) fun _ _ spec =>
    ⟨spec.2.1, congrArg Files.passwd spec.2.2.files⟩

theorem keepsPasswd_deleteGroup (env : Env) : Rewrites KeepsPasswd (deleteGroup env) := by
  intro s
  simp only [deleteGroup, wp_bind, wp_getSelf, wp_liftM, wp_runOn, wp_pure]
  refine wp_mono (keepsUsers_of_steps (GumdDaemonGroup.steps_gumdDaemonGroupDelete env) _) ?_
  exact fun _ t keeps => ⟨rfl, keeps.1⟩

theorem keepsPasswd_deleteUserMembership (userName : Option Str) :
    Rewrites KeepsPasswd (liftM (gumdDaemonGroupDeleteUserMembership userName) : UserM Bool) := by
  intro s
  cases userName with
  | none => exact ⟨rfl, rfl⟩
  | some name =>
    rw [wp_liftM]
    refine wp_mono (gumdDaemonGroupDeleteUserMembership_spec s.world name) ?_
    exact fun _ t spec => ⟨rfl, spec.2.frame.1⟩

/-- The rewrites that remove the entries. -/
theorem deleteEntries_removes {u : GumdDaemonUser} {pent : Passwd} (self : s.self = u)
    (uid : u.pw.pwUid = pent.pwUid) (gid : u.pw.pwGid = pent.pwGid)
    (name : ∀ own, u.pw.pwName = some own → own.val = pent.pwName) :
    wp deleteEntries (fun ok t => t.self = s.self ∧
      (t.world.files.passwd = (s.world.files.removePasswd pent).passwd ∨
        ok = false ∧ t.world.files.passwd = s.world.files.passwd)) s := by
  rw [deleteEntries, wp_bind]
  refine wp_mono (writesAs_updatePasswdFile u .delete none s self) ?_
  rintro ok t ⟨self₁, -, written⟩
  rw [wp_guard]
  rcases written with ⟨rfl, same, -⟩ | ⟨rfl, written⟩
  · exact ⟨fun _ => ⟨self₁.trans self.symm, Or.inr ⟨rfl, congrArg Files.passwd same⟩⟩, by simp⟩
  · have removed := rewritePasswd_remove uid gid name written
    refine ⟨by simp, fun _ => ?_⟩
    refine wp_mono (keepsPasswd_of_writesAs (writesAs_updateShadowFile u .delete none) self₁) ?_
    rintro ok v ⟨self₂, same⟩
    exact ⟨self₂.trans (self₁.trans self.symm), Or.inl (same.trans (by rw [removed]))⟩

/-- The last part of a deletion. -/
theorem removeUser_removes {u : GumdDaemonUser} {pent : Passwd} (self : s.self = u)
    (uid : u.pw.pwUid = pent.pwUid) (gid : u.pw.pwGid = pent.pwGid)
    (name : ∀ own, u.pw.pwName = some own → own.val = pent.pwName) (env : Env)
    (remHomeDir : Bool) :
    wp (removeUser env remHomeDir) (fun r t => t.self = s.self ∧
      (t.world.files.passwd = (s.world.files.removePasswd pent).passwd ∨
        r = false ∧ t.world.files.passwd = s.world.files.passwd)) s := by
  rw [removeUser, wp_bind]
  refine wp_mono (keepsPasswd_deleteUserinfo env.config s) ?_
  rintro _ t₁ ⟨self₁, passwd₁⟩
  rw [wp_bind]
  refine wp_mono (deleteEntries_removes (self₁.trans self) uid gid name) ?_
  rintro ok t₂ ⟨self₂, removed⟩
  have removed₂ : t₂.world.files.passwd = (s.world.files.removePasswd pent).passwd ∨
      ok = false ∧ t₂.world.files.passwd = s.world.files.passwd := by
    rw [Files.removePasswd, passwd₁] at removed
    exact removed
  rw [wp_guard]
  refine ⟨fun failed => ?_, fun done => ?_⟩
  · rw [wp_bind]
    refine wp_mono (keepsPasswd_lockUser false t₂) ?_
    rintro _ t₃ ⟨self₃, same⟩
    rw [wp_pure, same]
    exact ⟨self₃.trans (self₂.trans self₁), removed₂.imp_right fun h => ⟨rfl, h.2⟩⟩
  replace removed₂ := removed₂.resolve_right (by simp [done])
  have rest : Rewrites KeepsPasswd (deleteGroup env >>= fun ok => if !ok then pure false else
      getSelf >>= fun self =>
        liftM (gumdDaemonGroupDeleteUserMembership (ptr self.pw.pwName)) >>= fun ok =>
          if !ok then pure false
          else if remHomeDir then deleteHomeDir env else pure true : UserM Bool) := by
    apply Rewrites.bind frame_keepsPasswd (keepsPasswd_deleteGroup env)
    intro deleted
    apply Rewrites.ite
    · exact fun _ => .pure frame_keepsPasswd _
    intro _
    apply Rewrites.bind frame_keepsPasswd (rewrites_getSelf frame_keepsPasswd)
    intro self
    apply Rewrites.bind frame_keepsPasswd (keepsPasswd_deleteUserMembership _)
    intro parted
    apply Rewrites.ite
    · exact fun _ => .pure frame_keepsPasswd _
    intro _
    apply Rewrites.ite
    · exact fun _ => keepsPasswd_deleteHomeDir env
    · exact fun _ => .pure frame_keepsPasswd _
  refine wp_mono (rest t₂) ?_
  rintro r t₃ ⟨self₃, same⟩
  exact ⟨self₃.trans (self₂.trans self₁), Or.inl (same.trans removed₂)⟩

/-- A deletion removes no entry but the one it finds for its object, which keeps its identity. -/
theorem gumdDaemonUserDelete_removes (env : Env) (remHomeDir : Bool) (s : St GumdDaemonUser) :
    wp (gumdDaemonUserDelete env remHomeDir) (fun r t => s.self.SameIdentity t.self ∧
      s.self.Removes env s.world r t.world.files.passwd) s := by
  rw [gumdDaemonUserDelete, wp_bind, wp_liftM, wp_gumLockPwdfLock, wp_guard]
  have nothing : ∀ {f : Files}, f.passwd = s.world.files.passwd →
      s.self.Removes env s.world false f.passwd := by
    intro f same
    rw [same]
    exact .nothing
  have locked : s.world.afterLock.files.passwd = s.world.files.passwd :=
    congrArg Files.passwd (World.files_afterLock _)
  refine ⟨fun denied => ⟨.refl _, nothing locked⟩, fun granted => ?_⟩
  have unlocked : ∀ w : World, w.afterUnlock.files.passwd = w.files.passwd := fun w =>
    congrArg Files.passwd w.files_afterUnlock
  rw [wp_bind, wp_getSelf, wp_ite]
  refine ⟨fun invalid => ⟨.refl _, nothing ((unlocked _).trans locked)⟩, fun valid => ?_⟩
  rw [wp_bind]
  refine wp_mono (@wp_copyPasswdData_seen ⟨s.self, s.world.afterLock⟩ valid env) ?_
  rintro ok t₁ ⟨loaded, quiet₁⟩
  have passwd₁ : t₁.world.files.passwd = s.world.files.passwd :=
    (congrArg Files.passwd quiet₁.files).trans locked
  rw [wp_guard]
  rcases loaded with ⟨rfl, self₁⟩ | ⟨rfl, pent, spent, icon, found, -, self₁⟩
  · refine ⟨fun _ => ?_, by simp⟩
    rw [wp_unlockReturnWithError]
    exact ⟨by rw [self₁]; exact .refl _, nothing ((unlocked _).trans passwd₁)⟩
  refine ⟨by simp, fun _ => ?_⟩
  change (World.afterLock s.world).seenPasswd s.self.pw = some pent at found
  replace found : s.world.seenPasswd s.self.pw = some pent :=
    (World.search_afterLock _ _ _ _).symm.trans found
  change t₁.self = s.self.copyPasswdEntries pent spent icon at self₁
  have agrees := (World.seenPasswd_some found).1
  obtain ⟨uid, kept⟩ := sameIdentity_of_agrees valid agrees
  have same : s.self.SameIdentity t₁.self := by
    rw [self₁]
    exact ⟨uid, kept⟩
  have name : ∀ own, t₁.self.pw.pwName = some own → own.val = pent.pwName := by
    intro own given
    have loaded : ptr t₁.self.pw.pwName = if gumValidateName (some pent.pwName) = .ok () then
        some pent.pwName else none := by
      rw [self₁]
      exact ptr_setStringProperty_agreeing (PasswdRecord.agrees_iff.mp agrees).2
    rw [given, ptr_some] at loaded
    split_ifs at loaded
    exact Option.some.inj loaded
  have uid₁ : t₁.self.pw.pwUid = pent.pwUid := by
    rw [self₁]
    rfl
  have gid₁ : t₁.self.pw.pwGid = pent.pwGid := by
    rw [self₁]
    rfl
  rw [wp_bind, wp_get, wp_ite]
  refine ⟨fun own => ⟨same, nothing ((unlocked _).trans passwd₁)⟩, fun other => ?_⟩
  rw [wp_bind]
  refine wp_mono (keepsPasswd_lockUser true t₁) ?_
  rintro ok t₂ ⟨self₂, passwd₂⟩
  have same₂ : s.self.SameIdentity t₂.self := self₂ ▸ same
  rw [wp_guard]
  refine ⟨fun _ => ⟨same₂, nothing ((unlocked _).trans (passwd₂.trans passwd₁))⟩, fun _ => ?_⟩
  rw [wp_guard]
  refine ⟨fun alive => ?_, fun terminated => ?_⟩
  · rw [wp_bind]
    refine wp_mono (keepsPasswd_lockUser false t₂) ?_
    rintro ok t₃ ⟨self₃, passwd₃⟩
    exact ⟨self₃ ▸ same₂, nothing ((unlocked _).trans (passwd₃.trans (passwd₂.trans passwd₁)))⟩
  · rw [wp_bind]
    refine wp_mono (removeUser_removes self₂ uid₁ gid₁ name env remHomeDir) ?_
    rintro r t₃ ⟨self₃, removed⟩
    rw [wp_unlockReturn]
    refine ⟨self₃ ▸ same₂, ?_⟩
    change s.self.Removes env s.world r t₃.world.afterUnlock.files.passwd
    rw [unlocked]
    rcases removed with removed | ⟨rfl, kept⟩
    · rw [removed, Files.removePasswd, passwd₂, passwd₁]
      exact .removed granted terminated valid found
    · exact nothing (kept.trans (passwd₂.trans passwd₁))

/-! ### Adding a user -/

/-- An addition that fails has at most inserted an entry. -/
theorem Adds.passwd {u : GumdDaemonUser} {env : Env} {f f' : Files} {r : Option UInt32}
    (adds : u.Adds env f r f') : f'.passwd = f.passwd ∨
      ∃ pw, f'.passwd = insertFirst (pw.pwUid < ·.pwUid) pw f.passwd := by
  cases adds with
  | group same groups => exact Or.inl groups.frame.1
  | @passwdOnly _ _ _ pw _ same groups writes =>
    refine Or.inr ⟨pw, ?_⟩
    rw [← groups.frame.1]
    rfl
  | @both _ _ _ _ _ _ pw _ same groups writes fresh db joins result =>
    refine Or.inr ⟨pw, ?_⟩
    rw [joins.passwd, db.passwd, ← groups.frame.1]
    rfl

/-- The identity a new name or a missing real name leaves alone. -/
theorem sameIdentity_named {env : Env} {u u' : GumdDaemonUser} {name : ValidName}
    (given : u.pw.pwName = some name) (named : u.named env = some u') : u.SameIdentity u' := by
  rw [GumdDaemonUser.named, if_pos (by simp [given])] at named
  obtain rfl := Option.some.inj named
  rw [setMissingRealname]
  split_ifs
  · exact ⟨rfl, fun _ => id⟩
  · exact .refl u

theorem sameIdentity_setMissingShell (config : GumConfig) (u : GumdDaemonUser) :
    u.SameIdentity (u.setMissingShell config) := by
  rw [setMissingShell]
  split
  · exact ⟨rfl, fun _ => id⟩
  · exact .refl _

/-- An addition without the lock changes nothing. -/
theorem gumdDaemonUserAdd_denied (denied : s.world.lockGranted = false) (env : Env) :
    wp (gumdDaemonUserAdd env) (fun r t => r = none ∧ s.self.SameIdentity t.self ∧
      t.world.files = s.world.files) s := by
  rw [gumdDaemonUserAdd, wp_bind, wp_getSelf, wp_ite]
  refine ⟨fun untyped => ⟨rfl, .refl _, rfl⟩, fun typed => ?_⟩
  rw [wp_bind, wp_modifySelf, wp_bind, wp_liftM, wp_gumLockPwdfLock, wp_guard]
  refine ⟨fun _ => ⟨rfl, sameIdentity_setMissingShell _ _, World.files_afterLock _⟩,
    fun granted => ?_⟩
  exact absurd (granted.symm.trans denied) (by simp)

/-- A user who is in the files is not added again, and the object stays who it is. -/
theorem gumdDaemonUserAdd_existing (readable : s.world.faults.read = .const true) (env : Env)
    {name : ValidName} (given : s.self.pw.pwName = some name)
    (known : (s.world.files.getpwnam name.val).isSome = true) :
    wp (gumdDaemonUserAdd env) (fun r t => r = none ∧ s.self.SameIdentity t.self ∧
      t.world.files.passwd = s.world.files.passwd) s := by
  have shell := sameIdentity_setMissingShell env.config s.self
  have locked : s.world.afterLock.files = s.world.files := World.files_afterLock _
  rw [gumdDaemonUserAdd, wp_bind, wp_getSelf, wp_ite]
  refine ⟨fun untyped => ⟨rfl, .refl _, rfl⟩, fun typed => ?_⟩
  rw [wp_bind, wp_modifySelf, wp_bind, wp_liftM, wp_gumLockPwdfLock, wp_guard]
  refine ⟨fun denied => ⟨rfl, shell, congrArg Files.passwd locked⟩, fun granted => ?_⟩
  have given' : (s.self.setMissingShell env.config).pw.pwName = some name := shell.name name given
  obtain ⟨u, named⟩ : ∃ u, (s.self.setMissingShell env.config).named env = some u := by
    rw [GumdDaemonUser.named, if_pos (by simp [given'])]
    exact ⟨_, rfl⟩
  have same := sameIdentity_named given' named
  rw [wp_bind, setUid, wp_bind]
  refine wp_mono (wp_setDaemonUserName env) ?_
  rintro ok t ⟨rfl, self, quiet⟩
  replace self := self u named
  have files : t.world.files = s.world.files := quiet.files.trans locked
  have readable' : t.world.faults.read = .const true := by
    refine quiet.balanced.read ?_
    rwa [World.read_afterLock]
  have here : ((ptr t.self.pw.pwName).bind t.world.files.getpwnam).isSome = true := by
    rw [self, same.name name given', ptr_some, files]
    exact known
  rw [wp_guard]
  refine ⟨fun failed => by simp [named] at failed, fun _ => ?_⟩
  rw [wp_bind, wp_getSelf, wp_bind, wp_liftM, wp_gumFileGetpwnam readable', if_pos here]
  refine ⟨rfl, ⟨?_, fun own held => ?_⟩, ?_⟩
  · exact (congrArg (fun u => u.pw.pwUid) self).trans (same.uid.trans shell.uid)
  · exact (congrArg (fun u => u.pw.pwName) self).trans (same.name own (shell.name own held))
  · exact congrArg Files.passwd ((World.files_afterUnlock _).trans files)

section KeepsField

variable {φ : Type} {field : GumdDaemonUser → φ}

/-- A field of the object is the one it was. -/
def KeepsField (field : GumdDaemonUser → φ) (s t : St GumdDaemonUser) : Prop :=
  field t.self = field s.self

theorem frame_keepsField : Frame (KeepsField field) :=
  ⟨fun _ => rfl, fun first second => second.trans first⟩

theorem keepsField_lift {α : Type} (m : StateM World α) :
    Rewrites (KeepsField field) (liftM m : UserM α) := by
  intro s
  rw [wp_liftM]
  exact rfl

theorem keepsField_modifySelf {f : GumdDaemonUser → GumdDaemonUser}
    (same : ∀ u, field (f u) = field u) : Rewrites (KeepsField field) (modifySelf f) := by
  intro s
  rw [wp_modifySelf]
  exact same s.self

/-- The choice of a name keeps what neither the name nor the real name is part of. -/
theorem keepsField_setDaemonUserName (realname : ∀ u, field u.setMissingRealname = field u)
    (username : ∀ u name, field (u.setUsernameProperty name) = field u) (env : Env) :
    Rewrites (KeepsField field) (setDaemonUserName env) :=
  rewrites_setDaemonUserName frame_keepsField (fun _ => keepsField_lift _)
    (keepsField_modifySelf realname) (fun name => keepsField_modifySelf fun u => username u name) env

end KeepsField

/-- The object has the uid it had. -/
def KeepsUid (s t : St GumdDaemonUser) : Prop := t.self.pw.pwUid = s.self.pw.pwUid

theorem pwUid_setMissingRealname (u : GumdDaemonUser) :
    u.setMissingRealname.pw.pwUid = u.pw.pwUid := by
  rw [setMissingRealname]
  split_ifs <;> rfl

theorem keepsUid_setDaemonUserName (env : Env) : Rewrites KeepsUid (setDaemonUserName env) := by
  have kept : Rewrites (KeepsField fun u => u.pw.pwUid) (setDaemonUserName env) :=
    keepsField_setDaemonUserName pwUid_setMissingRealname (fun _ _ => rfl) env
  exact kept

/-- An object that gets no uid keeps the one it had. -/
theorem setUid_failed (env : Env) : wp (setUid env) (fun ok t => ok = false → KeepsUid s t) s := by
  rw [setUid, wp_bind]
  refine wp_mono (keepsUid_setDaemonUserName env s) ?_
  intro ok t same
  rw [wp_guard]
  refine ⟨fun _ _ => same, fun _ => ?_⟩
  rw [wp_bind, wp_getSelf, wp_bind, wp_liftM]
  refine wp_mono (looks_gumFileGetpwnam _ t.world) ?_
  intro taken w _
  rw [wp_ite]
  refine ⟨fun _ _ => same, fun _ => ?_⟩
  rw [wp_bind]
  refine wp_mono (unmoved_findFreeUid env.config _) ?_
  rintro found v ⟨self, -⟩
  cases found.join with
  | none => exact fun _ => (congrArg (fun u : GumdDaemonUser => u.pw.pwUid) self).trans same
  | some uid =>
    simp only [wp_bind, wp_modifySelf, wp_getSelf, wp_ite, wp_pure]
    simp

/-- The steps between the choice of a uid and the passwd entry pass: a primary group is found or can
be added, and the secret can be encrypted. -/
def Settles (u : GumdDaemonUser) (env : Env) (f : Files) : Prop :=
  ∀ u', u.Prepared env f u' → (u'.newPwdp env).isSome = true ∧
    ((gumConfigGetString env.config gumConfigGeneralUsrPrimaryGrpname).bind f.getgrnam = none →
      ∃ name gid passwd, (u'.primaryGroup env.config).Addable env u'.pw.pwUid f name gid passwd ∧
        ¬f.HasGshadow name.val)

/-- A user that settles gets a group. -/
theorem Settles.grouped {u u' : GumdDaemonUser} {env : Env} {f f' : Files} {calm : Prop}
    {gid : Option UInt32} (settles : u.Settles env f) (prepared : u.Prepared env f u')
    (undisturbed : calm) (grouped : u'.Grouped calm env f gid f') : gid.isSome = true := by
  cases grouped with
  | reused found => rfl
  | created missing added =>
    obtain ⟨name, gid, passwd, addable, fresh⟩ := (settles u' prepared).2 missing
    cases added with
    | refused why => exact absurd addable (why undisturbed name gid passwd)
    | groupOnly addable' why =>
      obtain rfl := Option.some.inj (addable'.name.symm.trans addable.name)
      exact absurd (why undisturbed) fresh
    | added addable' fresh' => rfl

theorem keepsPasswd_addUserinfo (config : GumConfig) : Rewrites KeepsPasswd (addUserinfo config) :=
  fun _ => wp_mono (wp_addUserinfo config) fun _ _ spec => ⟨spec.1, spec.2.2.passwd⟩

theorem keepsPasswd_setDefaultGroups (env : Env) : Rewrites KeepsPasswd (setDefaultGroups env) :=
  fun _ => wp_mono (setDefaultGroups_joins env) fun _ _ spec => ⟨spec.1, spec.2.2.passwd⟩

theorem keepsPasswd_createHomeDir (env : Env) : Rewrites KeepsPasswd (createHomeDir env) :=
  fun _ => wp_mono (wp_createHomeDir env) fun _ _ spec =>
    ⟨spec.2.1, congrArg Files.passwd spec.2.2.files⟩

theorem keepsPasswd_unlockReturn {α : Type} (r : α) :
    Rewrites KeepsPasswd (unlockReturn r : UserM α) := by
  intro s
  rw [wp_unlockReturn]
  exact ⟨rfl, congrArg Files.passwd (World.files_afterUnlock _)⟩

/-- The part of an addition after the passwd entry. -/
theorem keepsPasswd_rest (env : Env) : Rewrites KeepsPasswd (do
    if !(← updateShadowFile .add none) then return ← unlockReturn none
    let _ ← addUserinfo env.config
    let _ ← setDefaultGroups env
    if !(← createHomeDir env) then return ← unlockReturn none
    unlockReturn (some (← getSelf).pw.pwUid) : UserM (Option UInt32)) := by
  have refusal : Rewrites KeepsPasswd (unlockReturn none >>= pure : UserM (Option UInt32)) :=
    .bind frame_keepsPasswd (keepsPasswd_unlockReturn none) fun _ => .pure frame_keepsPasswd _
  apply Rewrites.bind frame_keepsPasswd
  · exact fun s => keepsPasswd_of_writesAs (writesAs_updateShadowFile s.self .add none) rfl
  intro shadowed
  apply Rewrites.ite
  · exact fun _ => refusal
  intro _
  apply Rewrites.bind frame_keepsPasswd (keepsPasswd_addUserinfo env.config)
  intro _
  apply Rewrites.bind frame_keepsPasswd (keepsPasswd_setDefaultGroups env)
  intro _
  apply Rewrites.bind frame_keepsPasswd (keepsPasswd_createHomeDir env)
  intro home
  apply Rewrites.ite
  · exact fun _ => refusal
  intro _
  apply Rewrites.bind frame_keepsPasswd (rewrites_getSelf frame_keepsPasswd)
  exact fun _ => keepsPasswd_unlockReturn _

/-- An undisturbed addition that settles leaves an object with the uid it had, or one whose entry is
in the passwd file. -/
theorem gumdDaemonUserAdd_settles (readable : s.world.faults.read = .const true) (env : Env)
    (settles : s.self.Settles env s.world.files)
    (write : s.world.faults.write = .const none) (readShadow : s.world.faults.readShadow = .const true) :
    wp (gumdDaemonUserAdd env) (fun _ t => KeepsUid s t ∨ ∃ pw ∈ t.world.files.passwd,
      t.self.pw.putpwent = some pw) s := by
  have shell := (sameIdentity_setMissingShell env.config s.self).uid
  have files : s.world.afterLock.files = s.world.files := World.files_afterLock _
  have readable₀ : s.world.afterLock.faults.read = .const true := by rwa [World.read_afterLock]
  rw [gumdDaemonUserAdd, wp_bind, wp_getSelf, wp_ite]
  refine ⟨fun untyped => Or.inl rfl, fun typed => ?_⟩
  rw [wp_bind, wp_modifySelf, wp_bind, wp_liftM, wp_gumLockPwdfLock, wp_guard]
  refine ⟨fun denied => Or.inl shell, fun granted => ?_⟩
  rw [wp_bind]
  refine wp_mono (wp_and (setUid_failed env) (@wp_setUid
    ⟨s.self.setMissingShell env.config, s.world.afterLock⟩ readable₀ env)) ?_
  rintro ok t₁ ⟨failed, rfl, self₁, quiet₁⟩
  rw [wp_guard]
  refine ⟨fun none => Or.inl ((failed none).trans shell), fun done => ?_⟩
  dsimp only at done self₁
  rw [files] at done self₁
  obtain ⟨u', alloc⟩ := Option.isSome_iff_exists.mp done
  have prepared : s.self.Prepared env s.world.files u' := ⟨typed, alloc⟩
  replace self₁ := self₁ u' alloc
  rw [wp_bind]
  refine wp_mono (wp_setGroup (quiet₁.balanced.read readable₀) env) ?_
  rintro ok t₂ ⟨balanced₂, gid, rfl, self₂, grouped⟩
  have calm : t₁.world.Calm := by
    refine World.Calm.of_held ?_ ?_ ?_
    · rw [quiet₁.balanced.lockCount, World.lockCount_afterLock, if_pos granted]
      exact Nat.succ_ne_zero _
    · exact quiet₁.balanced.readShadow (by rwa [World.readShadow_afterLock])
    · exact quiet₁.balanced.write (by rwa [World.write_afterLock])
  have files₁ : t₁.world.files = s.world.files := quiet₁.files.trans files
  rw [self₁, files₁] at grouped
  obtain ⟨gid, rfl⟩ := Option.isSome_iff_exists.mp (settles.grouped prepared calm grouped)
  rw [wp_guard]
  refine ⟨by simp, fun _ => ?_⟩
  rw [wp_bind]
  refine wp_mono (wp_setShadowData env) ?_
  rintro ok t₃ ⟨rfl, self₃, quiet₃⟩
  have encrypted : (u'.newPwdp env).isSome = true := (settles u' prepared).1
  obtain ⟨name, named, -⟩ := Files.allocUid_some prepared.uid
  obtain ⟨pw, sp, writes⟩ := exists_writes (Option.isSome_iff_exists.mpr ⟨name, named⟩) gid encrypted
  have own : t₃.self = u'.complete env gid := by
    rw [self₃ (by rw [self₂, self₁]; exact encrypted), self₂, self₁]
    rfl
  rw [wp_guard]
  refine ⟨fun failed => ?_, fun _ => ?_⟩
  · rw [self₂, self₁] at failed
    exact absurd (encrypted.symm.trans failed) (by simp)
  rw [wp_bind]
  refine wp_mono (writesAs_updatePasswdFile _ .add none t₃ own) ?_
  rintro ok t₄ ⟨self₄, -, written⟩
  rw [writes.rewritePasswd] at written
  rcases written with ⟨-, -, faulty⟩ | ⟨rfl, written⟩
  · obtain ⟨e, failed⟩ := faulty (quiet₃.balanced.write (balanced₂.write calm.write))
    cases failed
  rw [wp_guard]
  refine ⟨by simp, fun _ => ?_⟩
  refine wp_mono (keepsPasswd_rest env t₄) ?_
  rintro r t ⟨self, passwd⟩
  refine Or.inr ⟨pw, ?_, by rw [self, self₄]; exact writes.passwd⟩
  rw [passwd, ← Except.ok.inj written]
  exact (perm_insertFirst _ pw _).symm.subset List.mem_cons_self

end GumdDaemonUser

/-! ### Loading a user -/

/-- An object that is loaded by uid is a copy of the first entry of that uid. -/
theorem gumdDaemonUserNewByUid_copies (env : Env) (uid : UInt32) (w : World) :
    wp (gumdDaemonUserNewByUid env uid) (fun r t => t.files = w.files ∧ ∀ u, r = some u →
      uid ≠ gumUserInvalidUid ∧ ∃ pent spent icon, w.files.getpwuid uid = some pent ∧
        w.files.getspnam pent.pwName = some spent ∧
        u = (gumdDaemonUserNew.setUidProperty uid).copyPasswdEntries pent spent icon) w := by
  rw [gumdDaemonUserNewByUid, loadUser, wp_bind, wp_gumLockPwdfLock, wp_guard]
  refine ⟨fun denied => ⟨World.files_afterLock w, fun u loaded => by cases loaded⟩, fun granted => ?_⟩
  rw [wp_bind, wp_withNullError, wp_runOn]
  by_cases invalid : uid = gumUserInvalidUid
  · -- nothing is looked up for an object that has neither uid nor name
    subst invalid
    simp only [GumdDaemonUser.copyPasswdData, GumdDaemonUser.getPasswd, wp_bind, wp_getSelf,
      wp_liftM, lookupIf, GumdDaemonUser.setUidProperty, gumdDaemonUserNew, ne_eq, not_true_eq_false,
      if_false, wp_pure, Option.isSome_none, Bool.false_eq_true, false_and, Option.filter_none,
      wp_gumReturnWithError, wp_gumLockPwdfUnlock, World.files_afterUnlock, World.files_afterLock]
    exact ⟨trivial, fun u loaded => by cases loaded⟩
  refine wp_mono (@GumdDaemonUser.wp_copyPasswdData_seen
    ⟨gumdDaemonUserNew.setUidProperty uid, w.afterLock⟩ invalid env) ?_
  rintro copied t ⟨loaded, quiet⟩
  have files : t.world.files = w.files := quiet.files.trans (World.files_afterLock w)
  rw [wp_bind, wp_gumLockPwdfUnlock, wp_pure, World.files_afterUnlock]
  refine ⟨files, fun u same => ?_⟩
  rcases loaded with ⟨rfl, -⟩ | ⟨rfl, pent, spent, icon, found, shadow, self⟩
  · cases same
  obtain rfl : t.self = u := Option.some.inj same
  change w.afterLock.files.getspnam pent.pwName = some spent at shadow
  rw [World.files_afterLock] at shadow
  obtain ⟨-, byUid | ⟨look, named, -⟩⟩ := World.search_some found
  · rw [World.files_afterLock] at byUid
    exact ⟨invalid, pent, spent, icon, byUid, shadow, self⟩
  · cases named

/-- It has the uid, and the name of the entry if the validator accepts it. -/
theorem gumdDaemonUserNewByUid_loaded (env : Env) (uid : UInt32) (w : World) :
    wp (gumdDaemonUserNewByUid env uid) (fun r t => t.files = w.files ∧ ∀ u, r = some u →
      uid ≠ gumUserInvalidUid ∧ ∃ pent, w.files.getpwuid uid = some pent ∧ u.pw.pwUid = uid ∧
        ptr u.pw.pwName = if gumValidateName (some pent.pwName) = .ok () then some pent.pwName
          else none) w := by
  refine wp_mono (gumdDaemonUserNewByUid_copies env uid w) ?_
  rintro r t ⟨files, copies⟩
  refine ⟨files, fun u loaded => ?_⟩
  obtain ⟨valid, pent, spent, icon, byUid, -, rfl⟩ := copies u loaded
  have own : pent.pwUid = uid := by simpa using List.find?_some byUid
  exact ⟨valid, pent, byUid, own, ptr_setStringProperty_agreeing (Or.inl rfl)⟩

/-- The uid that is reported for a name is that of its first entry. -/
theorem gumdDaemonUserGetUidByName_found (username : Option Str) (w : World) :
    wp (gumdDaemonUserGetUidByName username) (fun uid _ => uid ≠ gumUserInvalidUid →
      ∃ name pw, username = some name ∧ w.files.getpwnam name = some pw ∧ pw.pwUid = uid) w := by
  cases username with
  | none => exact fun valid => absurd rfl valid
  | some name =>
    rw [gumdDaemonUserGetUidByName, wp_bind, wp_gumLockPwdfLock, wp_guard]
    refine ⟨fun denied valid => absurd rfl valid, fun granted => ?_⟩
    rw [wp_bind, gumFileGetpwnam, wp_gumFileLookup_openFile, World.files_afterLock]
    rw [wp_bind, wp_gumLockPwdfUnlock, wp_pure]
    intro valid
    split_ifs at valid ⊢ with opened
    · cases found : w.files.getpwnam name with
      | none => simp [found] at valid
      | some pw => exact ⟨name, pw, rfl, found, rfl⟩
    · exact absurd rfl valid

end Gumd
