import Gumd.UserEdits

/-!
# Failing updates

An update that returns `FALSE` should leave the files as they were.  It writes the icon before its
last checks, so a check that fails then leaves the new icon behind.  The theorem says exactly when
a failing update has changed nothing, whichever of its lookups fail, as long as no write does.
-/

namespace Gumd

open StateWp EntryLoop

/-- The icon an update reads from the information file, after it has looked into the shadow file. -/
def World.readIcon (w : World) (config : GumConfig) (uid : UInt32) : Option Str :=
  if w.faults.readShadow.tail.head then w.files.userIcon config uid else none

namespace GumdDaemonUser

variable {u : GumdDaemonUser} {env : Env} {w : World} {s : St GumdDaemonUser}

/-- The entries an update works with: it gets the lock and finds them. -/
structure Finds (u : GumdDaemonUser) (w : World) (pw : Passwd) (sp : Spwd) : Prop where
  granted : w.lockGranted = true
  valid : u.pw.pwUid ≠ gumUserInvalidUid
  entry : w.seenPasswd u.pw = some pw
  shadow : w.seenSpwd pw.pwName = some sp

/-- The icon of the object differs from the one that is read, and to write it changes the
information file.  (Where the file cannot be read it may hold the icon already.) -/
def WritesIcon (u : GumdDaemonUser) (env : Env) (w : World) : Prop :=
  u.iconChanged (w.readIcon env.config u.pw.pwUid) = true ∧ hasUserinfoPath env.config = true ∧
    w.files.userinfo u.pw.pwUid ≠ some { icon := ptr u.icon }

/-- The conditions under which an update that returns `FALSE` has changed nothing: once it has
written a new icon no later check can fail. -/
def UpdatesWhole (u : GumdDaemonUser) (env : Env) (w : World) : Prop :=
  ∀ pw sp, u.Finds w pw sp → u.WritesIcon env w →
    ¬u.SecretFails env pw sp ∧ ¬u.TypeConflict env pw sp ∧
      gumValidateName (some pw.pwName) = .ok ()

/-- Writing an information file changes the files unless it is the same. -/
theorem setUserinfo_eq_self_iff {f : Files} {uid : UInt32} {info : Option Userinfo} :
    f.setUserinfo uid info = f ↔ f.userinfo uid = info := by
  constructor
  · intro same
    have there := congrFun (congrArg Files.userinfo same) uid
    simpa [Files.setUserinfo] using there.symm
  · rintro rfl
    rw [Files.setUserinfo, Function.update_eq_self]

/-- What the icon step leaves: the files as they were, unless it writes another icon. -/
theorem wp_updateIcon_changes (writable : s.world.faults.write = .const none) (env : Env) :
    wp (updateIcon env) (fun changed t => t.self = s.self ∧
      (t.world.files = s.world.files ↔
        ¬(s.self.iconChanged (if s.world.faults.readShadow.head then
            s.world.files.userIcon env.config s.self.pw.pwUid else none) = true ∧
          hasUserinfoPath env.config = true ∧
          s.world.files.userinfo s.self.pw.pwUid ≠ some { icon := ptr s.self.icon })) ∧
      (t.world.files ≠ s.world.files → changed = true)) s := by
  rw [updateIcon, wp_bind]
  refine wp_mono (wp_getUserinfo_seen env.config) ?_
  intro seen t spec
  obtain ⟨rfl, self, files, write⟩ := spec
  rw [wp_bind, wp_getSelf, wp_ite, self]
  refine ⟨fun changed => ?_, fun same => ?_⟩
  · obtain ⟨own, given⟩ := Option.isSome_iff_exists.mp (of_decide_eq_true changed).1
    rw [wp_bind, wp_getSelf, self, given, ptr_some, wp_bind]
    refine wp_mono (wp_updateUserinfo env.config own.val) ?_
    intro _ t' spec
    obtain ⟨self', -, -, written⟩ := spec
    replace written := written (write.trans writable)
    rw [self, files] at written
    refine ⟨self'.trans self, ?_, fun _ => changed⟩
    change t'.world.files = _ ↔ _
    rw [written]
    by_cases path : hasUserinfoPath env.config = true
    · rw [if_pos path, setUserinfo_eq_self_iff]
      simp [changed, path]
    · rw [if_neg path]
      simp [path]
  · rw [wp_pure]
    exact ⟨self, iff_of_true files fun writes => same writes.1, fun differs => absurd files differs⟩

section Outcomes

variable {pw pw' : Passwd} {sp sp' : Spwd} {f' : Files}

/-- The lookups decide which entries are found. -/
theorem Finds.unique (first : u.Finds w pw sp) (second : u.Finds w pw' sp') : pw = pw' ∧ sp = sp' := by
  obtain rfl := Option.some.inj (first.entry.symm.trans second.entry)
  exact ⟨rfl, Option.some.inj (first.shadow.symm.trans second.shadow)⟩

/-- An update that has found its entries and fails changes nothing if it is not the icon that was
written before. -/
theorem Finds.failed_iff (finds : u.Finds w pw sp) (kept : f' = w.files ↔ ¬u.WritesIcon env w)
    (why : u.WritesIcon env w → u.SecretFails env pw sp ∨ u.TypeConflict env pw sp ∨
      ¬gumValidateName (some pw.pwName) = .ok ()) :
    (false = false → f' = w.files) ↔ u.UpdatesWhole env w := by
  constructor
  · intro same _ _ _ writes
    exact absurd writes (kept.mp (same rfl))
  · intro whole _
    refine kept.mpr fun writes => ?_
    obtain ⟨encrypts, typed, accepted⟩ := whole pw sp finds writes
    obtain failed | conflict | invalid := why writes
    · exact encrypts failed
    · exact typed conflict
    · exact invalid accepted

/-- An update that finds no entries fails and changes nothing. -/
theorem failed_iff_of_lost (lost : ∀ pw sp, ¬u.Finds w pw sp) (same : f' = w.files) :
    (false = false → f' = w.files) ↔ u.UpdatesWhole env w :=
  iff_of_true (fun _ => same) fun pw sp finds => absurd finds (lost pw sp)

end Outcomes

/-- An update that fails leaves the files as they were exactly under these conditions. -/
theorem gumdDaemonUserUpdate_failed_iff (writable : s.world.faults.write = .const none) (env : Env) :
    wp (gumdDaemonUserUpdate env) (fun r t => (r = false → t.world.files = s.world.files) ↔
      s.self.UpdatesWhole env s.world) s := by
  rw [gumdDaemonUserUpdate, wp_bind, wp_liftM, wp_gumLockPwdfLock, wp_guard]
  refine ⟨fun denied => ?_, fun granted => ?_⟩
  · refine failed_iff_of_lost (fun pw sp finds => ?_) (World.files_afterLock _)
    rw [finds.granted] at denied
    cases denied
  rw [wp_bind, wp_getSelf, wp_ite]
  refine ⟨fun invalid => ?_, fun valid => ?_⟩
  · rw [wp_unlockReturnWithError]
    exact failed_iff_of_lost (fun pw sp finds => finds.valid invalid)
      ((World.files_afterUnlock _).trans (World.files_afterLock _))
  rw [wp_bind]
  refine wp_mono (@wp_getPasswd_seen ⟨s.self, s.world.afterLock⟩ valid) ?_
  intro r t₁ spec
  obtain ⟨rfl, self₁, sought⟩ := spec
  change t₁.self = s.self at self₁
  have seen : (World.afterLock s.world).seenPasswd s.self.pw = s.world.seenPasswd s.self.pw :=
    World.search_afterLock _ _ _ _
  have files₁ : t₁.world.files = s.world.files := sought.quiet.files.trans (World.files_afterLock _)
  have shadow₁ : t₁.world.faults.readShadow = s.world.faults.readShadow :=
    sought.readShadow.trans (World.readShadow_afterLock _)
  have write₁ : t₁.world.faults.write = .const none :=
    (sought.write.trans (World.write_afterLock _)).trans writable
  dsimp only
  rw [seen]
  cases found : s.world.seenPasswd s.self.pw with
  | none =>
    rw [wp_unlockReturn, World.files_afterUnlock]
    refine failed_iff_of_lost (fun pw sp finds => ?_) files₁
    rw [finds.entry] at found
    cases found
  | some pw =>
    obtain ⟨agrees, first⟩ := World.seenPasswd_some found
    have seenSp : t₁.world.seenSpwd pw.pwName = s.world.seenSpwd pw.pwName := by
      rw [World.seenSpwd, World.seenSpwd, shadow₁, files₁]
    rw [wp_bind, wp_liftM, wp_gumFileGetspnam_seen, seenSp]
    cases shadow : s.world.seenSpwd pw.pwName with
    | none =>
      rw [wp_unlockReturnWithError, World.files_afterUnlock]
      refine failed_iff_of_lost (fun pw' sp finds => ?_) files₁
      obtain rfl := Option.some.inj (found.symm.trans finds.entry)
      rw [finds.shadow] at shadow
      cases shadow
    | some sp =>
      have finds : s.self.Finds s.world pw sp := ⟨granted, valid, found, shadow⟩
      have listed : s.world.files.getspnam pw.pwName = some sp := by
        rw [World.seenSpwd] at shadow
        split_ifs at shadow
        exact shadow
      dsimp only
      rw [wp_bind]
      -- the world of the icon step has the shadow file's lookup behind it
      let t₁' : St GumdDaemonUser := ⟨t₁.self, { t₁.world with
        faults := { t₁.world.faults with readShadow := t₁.world.faults.readShadow.tail } }⟩
      refine wp_mono (wp_and (@wp_updateIcon_changes t₁' write₁ env) (@wp_updateIcon t₁' env)) ?_
      intro changed t₂ spec
      obtain ⟨⟨self₂, kept, changes⟩, -, balanced₂, same₂, -⟩ := spec
      change t₂.self = t₁.self at self₂
      change t₁.world.files.SameDb t₂.world.files at same₂
      change t₂.world.files = t₁.world.files ↔ ¬(iconChanged
        (if t₁.world.faults.readShadow.tail.head then
          t₁.world.files.userIcon env.config t₁.self.pw.pwUid else none) t₁.self = true ∧
        hasUserinfoPath env.config = true ∧
        t₁.world.files.userinfo t₁.self.pw.pwUid ≠ some { icon := ptr t₁.self.icon }) at kept
      change t₂.world.files ≠ t₁.world.files → changed = true at changes
      have write₂ : t₂.world.faults.write = .const none := balanced₂.write write₁
      rw [files₁] at same₂ changes
      rw [shadow₁, files₁, self₁] at kept
      rw [self₁] at self₂
      replace kept : t₂.world.files = s.world.files ↔ ¬s.self.WritesIcon env s.world := kept
      simp only [wp_bind, wp_modifySelf, wp_getSelf, self₂]
      refine wp_mono (wp_updateSecret env pw) ?_
      intro ok t₃ spec
      obtain ⟨rfl, self₃, quiet₃⟩ := spec
      change t₃.self = s.self.updated env pw sp at self₃
      change t₂.world.Quiet t₃.world at quiet₃
      have write₃ : t₃.world.faults.write = .const none := quiet₃.balanced.write write₂
      rw [← quiet₃.files] at kept same₂ changes
      rw [wp_guard]
      refine ⟨fun unencrypted => ?_, fun done => ?_⟩
      · rw [wp_unlockReturn, World.files_afterUnlock]
        refine finds.failed_iff kept fun _ => Or.inl ?_
        simpa [SecretFails, newSecret] using unencrypted
      have encrypts : ¬s.self.SecretFails env pw sp := by
        rintro ⟨changed, failed⟩
        simp only [newSecret] at changed
        simp [changed, failed] at done
      simp only [wp_bind, wp_getSelf, wp_ite, self₃]
      refine ⟨fun conflict => ?_, fun typed => ⟨fun idle => ?_, fun _ => ?_⟩⟩
      · rw [wp_unlockReturnWithError, World.files_afterUnlock]
        exact finds.failed_iff kept fun _ => Or.inr (Or.inl conflict)
      · rw [wp_unlockReturnWithError, World.files_afterUnlock]
        refine finds.failed_iff kept fun writes => ?_
        have written := changes fun same => kept.mp same writes
        simp [written] at idle
      rw [← wp_bind]
      have mem : pw ∈ t₃.world.files.passwd := by
        rw [same₂.passwd]
        exact List.mem_of_find?_eq_some first
      have valid_iff := putpwent_updated_iff agrees env sp
      refine wp_writeBoth (writesAs_updatePasswdFile _ _ _) (writesAs_updateShadowFile _ _ _)
        (fun t₄ self₄ balanced₄ written => ?_) fun t₄ self₄ balanced₄ written => ?_
      all_goals
        rw [wp_unlockReturn, World.files_afterUnlock]
        rw [self₃] at written
        generalize t₄.world.files = f' at written ⊢
      · cases written with
        | neither why =>
          refine finds.failed_iff kept fun _ => Or.inr (Or.inr fun accepted => ?_)
          obtain ⟨new, put⟩ := valid_iff.mpr accepted
          obtain ⟨_, error⟩ := why write₃
          rw [rewritePasswd_updated mem, put] at error
          cases error
        | one rewritten why =>
          -- the shadow entry that was found is still there, so that its rewrite cannot fail
          rw [rewritePasswd_updated mem] at rewritten
          obtain ⟨_, error⟩ := why write₃
          cases put : (s.self.updated env pw sp).pw.putpwent with
          | none =>
            rw [put] at rewritten
            cases rewritten
          | some new =>
            rw [put] at rewritten
            obtain rfl := Except.ok.inj rewritten
            have left : (t₃.world.files.replacePasswd pw new).getspnam pw.pwName = some sp := by
              rw [Files.getspnam]
              change t₃.world.files.shadow.find? _ = _
              rw [same₂.shadow]
              exact listed
            obtain ⟨newSp, -, done⟩ := rewriteShadow_updated s.self env left
            rw [done] at error
            cases error
      · cases written with
        | both rewritten _ =>
          refine iff_of_true (by simp) fun pw' sp' finds' _ => ?_
          obtain ⟨rfl, rfl⟩ := finds.unique finds'
          refine ⟨encrypts, typed, valid_iff.mp ?_⟩
          rw [rewritePasswd_updated mem] at rewritten
          cases put : (s.self.updated env pw sp).pw.putpwent with
          | none =>
            rw [put] at rewritten
            cases rewritten
          | some new => exact ⟨new, rfl⟩

end GumdDaemonUser

namespace Sample

/-- The state in which a process sets the icon and the user type of the user. -/
def update : St GumdDaemonUser where
  self := ((gumdDaemonUserNew.setUidProperty 1000).setIconProperty (some (str "/icon"))).setUsertypeProperty
    GumUserType.admin.value
  world := system.world (call (.userUpdate 0))

/-- The user type cannot be changed: the update fails after the icon has been written. -/
theorem userUpdate_not_whole :
    ¬wp (GumdDaemonUser.gumdDaemonUserUpdate env) (fun r t => r = false → t.world.files = files)
      update := by
  intro whole
  have info := congrArg (fun f : Files => f.userinfo 1000) (whole rfl)
  revert info
  decide

theorem gumdDaemonUserUpdate_failed_iff_alice :
    wp (GumdDaemonUser.gumdDaemonUserUpdate env) (fun r t => (r = false → t.world.files = files) ↔
      update.self.UpdatesWhole env update.world) update :=
  GumdDaemonUser.gumdDaemonUserUpdate_failed_iff rfl env

end Sample

end Gumd
