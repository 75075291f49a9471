import Gumd.UserDeletion

/-!
# Outcomes of updating a user

An update writes the icon first, then completes the object from the user's entries, checks what has
changed, and rewrites both entries from the object.
-/

namespace Gumd

open StateWp EntryLoop

/-- The files with the user's passwd entry rewritten. -/
def Files.replacePasswd (f : Files) (pw new : Passwd) : Files :=
  { f with
    passwd := modifyFirst
      (fun e => pw.pwUid = e.pwUid ∧ pw.pwGid = e.pwGid ∧ pw.pwName = e.pwName)
      (fun _ => new) f.passwd }

/-- The files with the user's shadow entry rewritten. -/
def Files.replaceShadow (f : Files) (name : Str) (new : Spwd) : Files :=
  { f with shadow := modifyFirst (fun e => name = e.spNamp) (fun _ => new) f.shadow }

namespace GumdDaemonUser

variable {s : St GumdDaemonUser}

/-- The entries an update starts from. -/
structure Updatable (u : GumdDaemonUser) (f : Files) (pw : Passwd) (sp : Spwd) : Prop where
  valid : u.pw.pwUid ≠ gumUserInvalidUid
  entry : f.getPasswd u.pw = some pw
  shadow : f.getspnam pw.pwName = some sp

/-- Whether the icon of the object differs from the one in the files. -/
def newIcon (u : GumdDaemonUser) (env : Env) (f : Files) : Bool :=
  u.iconChanged (f.userIcon env.config u.pw.pwUid)

/-- The files after a successful update of the icon. -/
def withIcon (u : GumdDaemonUser) (env : Env) (f : Files) : Files :=
  if u.newIcon env f ∧ hasUserinfoPath env.config then
    f.setUserinfo u.pw.pwUid (some { icon := ptr u.icon })
  else f

/-- The secret of the completed object is a new one. -/
def newSecret (u : GumdDaemonUser) (env : Env) (pw : Passwd) (sp : Spwd) : Bool :=
  secretChanged env (u.mergeEntries pw sp)

/-- The object an update writes. -/
def updated (u : GumdDaemonUser) (env : Env) (pw : Passwd) (sp : Spwd) : GumdDaemonUser :=
  if u.newSecret env pw sp then (u.mergeEntries pw sp).withSecret env
  else (u.mergeEntries pw sp).setSecretProperty (some pw.pwPasswd)

/-- The new secret cannot be encrypted. -/
def SecretFails (u : GumdDaemonUser) (env : Env) (pw : Passwd) (sp : Spwd) : Prop :=
  u.newSecret env pw sp = true ∧ (u.mergeEntries pw sp).newPwdp env = none

/-- The user type of the completed object is not that of the entry. -/
def TypeConflict (u : GumdDaemonUser) (env : Env) (pw : Passwd) (sp : Spwd) : Prop :=
  gecosChanged pw (u.updated env pw sp) = true ∧ usertypeChanged pw (u.updated env pw sp) = true

/-- Nothing an update looks at has changed. -/
def Unchanged (u : GumdDaemonUser) (env : Env) (f : Files) (pw : Passwd) (sp : Spwd) : Prop :=
  u.newIcon env f = false ∧ u.newSecret env pw sp = false ∧
    gecosChanged pw (u.updated env pw sp) = false ∧
    shellChanged pw (u.updated env pw sp) = false

/-- How an update can end. -/
inductive UserUpdated (calm : Prop) (u : GumdDaemonUser) (env : Env) (f : Files) :
    Bool → Files → Prop
  | refused : (calm → ∀ pw sp, ¬u.Updatable f pw sp) → UserUpdated calm u env f false f
  | rejected {pw sp f'} : u.Updatable f pw sp → f.SameDb f' → (calm → f' = u.withIcon env f) →
      (calm → u.SecretFails env pw sp ∨ u.TypeConflict env pw sp ∨ u.Unchanged env f pw sp ∨
        ¬gumValidateName (some pw.pwName) = .ok ()) →
      UserUpdated calm u env f false f'
  | passwdOnly {pw sp f₁ new} : ¬calm → u.Updatable f pw sp → f.SameDb f₁ →
      (u.updated env pw sp).pw.putpwent = some new →
      UserUpdated calm u env f false (f₁.replacePasswd pw new)
  | updated {pw sp f₁ new newSp} : u.Updatable f pw sp → f.SameDb f₁ →
      (calm → f₁ = u.withIcon env f) → ¬u.SecretFails env pw sp →
      ¬u.TypeConflict env pw sp → (calm → ¬u.Unchanged env f pw sp) →
      (u.updated env pw sp).pw.putpwent = some new →
      (u.updated env pw sp).shadow.putspent = some newSp →
      UserUpdated calm u env f true ((f₁.replacePasswd pw new).replaceShadow pw.pwName newSp)

/-! ## The object an update writes -/

section Updated

variable {u : GumdDaemonUser} {env : Env} {f : Files} {pw : Passwd} {sp : Spwd}

theorem keys_updated (u : GumdDaemonUser) (env : Env) (pw : Passwd) (sp : Spwd) :
    (u.updated env pw sp).pw.pwUid = pw.pwUid ∧ (u.updated env pw sp).pw.pwGid = pw.pwGid ∧
    (u.updated env pw sp).pw.pwName = setStringProperty (some pw.pwName) u.pw.pwName := by
  rw [updated]
  split_ifs <;> exact ⟨rfl, rfl, rfl⟩

/-- The object that is written has a name if the entry's name is valid. -/
theorem name_updated (agrees : u.pw.agrees pw = true) (env : Env) (sp : Spwd) :
    ptr (u.updated env pw sp).pw.pwName =
      if gumValidateName (some pw.pwName) = .ok () then some pw.pwName else none := by
  rw [(keys_updated u env pw sp).2.2]
  exact ptr_setStringProperty_agreeing (PasswdRecord.agrees_iff.mp agrees).2

theorem Updatable.name (updatable : u.Updatable f pw sp) (env : Env) :
    ptr (u.updated env pw sp).pw.pwName =
      if gumValidateName (some pw.pwName) = .ok () then some pw.pwName else none :=
  name_updated (Files.getPasswd_some updatable.entry).2 env sp

/-- The passwd entry that is written has the keys of the old one. -/
theorem keys_of_put {new : Passwd} (agrees : u.pw.agrees pw = true)
    (put : (u.updated env pw sp).pw.putpwent = some new) :
    new.pwName = pw.pwName ∧ new.pwUid = pw.pwUid ∧ new.pwGid = pw.pwGid := by
  obtain ⟨uid, gid, -⟩ := keys_updated u env pw sp
  obtain ⟨name, given, rfl⟩ := Option.map_eq_some_iff.mp put
  have named := name_updated agrees env sp
  rw [given, ptr_some] at named
  split_ifs at named
  exact ⟨Option.some.inj named, uid, gid⟩

theorem rewritePasswd_updated (mem : pw ∈ f.passwd) :
    passwdFile.rewrite (updatePasswdEntry (u.updated env pw sp) .modify (some pw.pwName)) f =
      (u.updated env pw sp).pw.putpwent.elim (.error fileWriteFailure) fun new =>
        .ok (f.replacePasswd pw new) := by
  obtain ⟨uid, gid, -⟩ := keys_updated u env pw sp
  have here : (f.passwd.any fun e =>
      pw.pwUid = e.pwUid ∧ pw.pwGid = e.pwGid ∧ pw.pwName = e.pwName) = true :=
    List.any_eq_true.mpr ⟨pw, mem, by simp⟩
  simp only [DbFile.rewrite, passwdFile, updatePasswdEntry_modify, uid, gid, Option.some_or,
    Option.some.injEq, here, if_true]
  cases (u.updated env pw sp).pw.putpwent <;> rfl

theorem Updatable.rewritePasswd (updatable : u.Updatable f pw sp) {f₁ : Files}
    (same : f.SameDb f₁) :
    passwdFile.rewrite (updatePasswdEntry (u.updated env pw sp) .modify (some pw.pwName)) f₁ =
      (u.updated env pw sp).pw.putpwent.elim (.error fileWriteFailure) fun new =>
        .ok (f₁.replacePasswd pw new) := by
  apply rewritePasswd_updated
  rw [same.passwd]
  exact (Files.getPasswd_some updatable.entry).1

/-- A record that can be written exists exactly if the entry's name is valid. -/
theorem putpwent_updated_iff (agrees : u.pw.agrees pw = true) (env : Env) (sp : Spwd) :
    (∃ new, (u.updated env pw sp).pw.putpwent = some new) ↔
      gumValidateName (some pw.pwName) = .ok () := by
  have named := name_updated agrees env sp
  constructor
  · rintro ⟨new, put⟩
    obtain ⟨name, given, -⟩ := Option.map_eq_some_iff.mp put
    rw [given, ptr_some] at named
    split_ifs at named with valid
    exact valid
  · intro accepted
    rw [if_pos accepted] at named
    obtain ⟨name, given, -⟩ := Option.map_eq_some_iff.mp named
    exact ⟨_, Option.map_eq_some_iff.mpr ⟨name, given, rfl⟩⟩

theorem Updatable.putpwent (updatable : u.Updatable f pw sp) (env : Env)
    (accepted : gumValidateName (some pw.pwName) = .ok ()) :
    ∃ new, (u.updated env pw sp).pw.putpwent = some new :=
  (putpwent_updated_iff (Files.getPasswd_some updatable.entry).2 env sp).mpr accepted

theorem Updatable.rewritePasswd_ok (updatable : u.Updatable f pw sp) {f₁ f' : Files}
    (same : f.SameDb f₁)
    (written : passwdFile.rewrite
      (updatePasswdEntry (u.updated env pw sp) .modify (some pw.pwName)) f₁ = .ok f') :
    ∃ new, (u.updated env pw sp).pw.putpwent = some new ∧ f' = f₁.replacePasswd pw new := by
  rw [updatable.rewritePasswd same] at written
  cases put : (u.updated env pw sp).pw.putpwent with
  | none => simp [put] at written
  | some new => exact ⟨new, rfl, by simpa [put, @eq_comm _ f'] using written⟩

theorem spNamp_updated (u : GumdDaemonUser) (env : Env) (pw : Passwd) (sp : Spwd) :
    (u.updated env pw sp).shadow.spNamp = some (u.shadow.spNamp.getD sp.spNamp) := by
  have copied : (u.updated env pw sp).shadow.spNamp =
      (copyShadowStruct sp true u.shadow).spNamp := by
    rw [updated]
    split_ifs <;> rfl
  rw [copied, copyShadowStruct]
  cases u.shadow.spNamp <;> rfl

/-- The shadow entry an update writes has the user's name, unless the record has another one. -/
theorem Updatable.spNamp {newSp : Spwd} (updatable : u.Updatable f pw sp)
    (own : ∀ name, u.shadow.spNamp = some name → name = pw.pwName)
    (put : (u.updated env pw sp).shadow.putspent = some newSp) : newSp.spNamp = pw.pwName := by
  obtain ⟨name, named, rfl⟩ := Option.map_eq_some_iff.mp put
  rw [spNamp_updated] at named
  have name_eq : u.shadow.spNamp.getD sp.spNamp = name := Option.some.inj named
  cases unset : u.shadow.spNamp with
  | none =>
    rw [unset, Option.getD_none] at name_eq
    have found := List.find?_some updatable.shadow
    rw [← name_eq]
    exact eq_of_beq found
  | some own' =>
    rw [unset, Option.getD_some] at name_eq
    exact name_eq ▸ own own' unset

/-- The rewrite of the shadow file can fail only where a file operation does. -/
theorem rewriteShadow_updated (u : GumdDaemonUser) (env : Env)
    (found : f.getspnam pw.pwName = some sp) :
    ∃ newSp, (u.updated env pw sp).shadow.putspent = some newSp ∧
      shadowFile.rewrite (updateShadowEntry (u.updated env pw sp) .modify (some pw.pwName)) f =
        .ok (f.replaceShadow pw.pwName newSp) := by
  have named := spNamp_updated u env pw sp
  have put : ∃ newSp, (u.updated env pw sp).shadow.putspent = some newSp :=
    ⟨_, Option.map_eq_some_iff.mpr ⟨_, named, rfl⟩⟩
  obtain ⟨newSp, put⟩ := put
  have here : (f.shadow.any fun e => pw.pwName = e.spNamp) = true := by
    have own := List.find?_some found
    exact List.any_eq_true.mpr ⟨sp, List.mem_of_find?_eq_some found,
      decide_eq_true (beq_iff_eq.mp own).symm⟩
  refine ⟨newSp, put, ?_⟩
  simp only [DbFile.rewrite, shadowFile, updateShadowEntry_modify, Option.some_or,
    Option.some.injEq, here, if_true, put]
  rfl

theorem Updatable.rewriteShadow (updatable : u.Updatable f pw sp) (env : Env) (f₁ : Files)
    (same : f₁.shadow = f.shadow) : ∃ newSp, (u.updated env pw sp).shadow.putspent = some newSp ∧
    shadowFile.rewrite (updateShadowEntry (u.updated env pw sp) .modify (some pw.pwName)) f₁ =
        .ok (f₁.replaceShadow pw.pwName newSp) := by
  apply rewriteShadow_updated
  rw [Files.getspnam, same]
  exact updatable.shadow

end Updated

/-! ## The steps -/

theorem wp_updateUserinfo (config : GumConfig) (icon : Str) :
    wp (updateUserinfo config (some icon)) (fun _ t => t.self = s.self ∧
      s.world.Balanced t.world ∧ s.world.files.SameDb t.world.files ∧
      (s.world.faults.write = .const none → t.world.files = if hasUserinfoPath config then
        s.world.files.setUserinfo s.self.pw.pwUid (some { icon := some icon })
        else s.world.files)) s := by
  simp only [updateUserinfo, ↓wp_guard, wp_pure, wp_bind, wp_getSelf, wp_liftM]
  refine ⟨fun absent => ⟨trivial, .refl _, ⟨rfl, rfl, rfl, rfl⟩, fun _ => by simp [absent]⟩,
    fun present => wp_mono (gumFileLookup_spec _ s.world) ?_⟩
  rintro info w ⟨-, looked⟩
  refine wp_mono (wp_writeUserinfo _) ?_
  rintro ok t ⟨self, balanced, written⟩
  replace balanced := looked.quiet.balanced.trans balanced
  change ok = false ∧ t.world.files = w.files ∧ w.faults.write ≠ .const none ∨
    ok = true ∧ t.world.files = w.files.setUserinfo s.self.pw.pwUid _ at written
  rw [looked.quiet.files] at written
  refine ⟨self, balanced, sameDb_writeUserinfo written, fun writable => ?_⟩
  rcases written with ⟨-, -, faulty⟩ | ⟨-, same⟩
  · exact absurd (looked.quiet.balanced.write writable) faulty
  · simpa [present] using same

/-- The icon is written if it differs from the one that was read. -/
theorem wp_updateIcon (env : Env) :
    wp (updateIcon env) (fun changed t => t.self = s.self ∧ s.world.Balanced t.world ∧
      s.world.files.SameDb t.world.files ∧ (s.world.faults.readShadow = .const true →
        changed = s.self.newIcon env s.world.files ∧ (s.world.faults.write = .const none →
          t.world.files = s.self.withIcon env s.world.files))) s := by
  rw [updateIcon, wp_bind]
  refine wp_mono (wp_getUserinfo env.config) ?_
  rintro icon t ⟨answer, self, looked⟩
  have files := looked.quiet.files
  rw [wp_bind, wp_getSelf, wp_ite, self]
  refine ⟨fun changed => ?_, fun same => ?_⟩
  · obtain ⟨own, given⟩ := Option.isSome_iff_exists.mp (of_decide_eq_true changed).1
    rw [wp_bind, wp_getSelf, self, given, ptr_some, wp_bind]
    refine wp_mono (wp_updateUserinfo env.config own.val) ?_
    rintro _ t' ⟨self', balanced, same, written⟩
    rw [files] at same written
    refine ⟨self'.trans self, looked.quiet.balanced.trans balanced, same, fun clear => ?_⟩
    have icon_eq := answer.eq clear
    rw [icon_eq] at changed ⊢
    refine ⟨rfl, fun writable => ?_⟩
    change s.self.newIcon env s.world.files = true at changed
    change t'.world.files = _
    rw [written (looked.quiet.balanced.write writable), withIcon, given, self, ptr_some]
    simp [changed]
  · rw [wp_pure, self, files]
    refine ⟨rfl, looked.quiet.balanced, ⟨rfl, rfl, rfl, rfl⟩, fun clear => ?_⟩
    have icon_eq := answer.eq clear
    rw [icon_eq] at same ⊢
    refine ⟨rfl, fun _ => ?_⟩
    change ¬s.self.newIcon env s.world.files = true at same
    rw [withIcon, if_neg fun h => same h.1]

theorem wp_updateSecret (env : Env) (pw : Passwd) :
    wp (updateSecret env pw) (fun ok t =>
      ok = (!secretChanged env s.self || (s.self.newPwdp env).isSome) ∧
      t.self = (if secretChanged env s.self then s.self.withSecret env
        else s.self.setSecretProperty (some pw.pwPasswd)) ∧ s.world.Quiet t.world) s := by
  rw [updateSecret, wp_bind, wp_getSelf, wp_ite]
  refine ⟨fun changed => ?_, fun same => ?_⟩
  · refine wp_mono (wp_setSecret env) ?_
    rintro ok t ⟨rfl, self, quiet⟩
    exact ⟨by simp [changed], by rw [self, if_pos changed], quiet⟩
  · rw [wp_bind, wp_modifySelf, wp_pure]
    exact ⟨by simp [same], by rw [if_neg same], .refl _⟩

/-- Every way `gumd_daemon_user_update` can end. -/
theorem gumdDaemonUserUpdate_spec (readable : s.world.faults.read = .const true) (env : Env) :
    wp (gumdDaemonUserUpdate env) (fun r t => s.world.Balanced t.world ∧
      UserUpdated s.world.Calm s.self env s.world.files r t.world.files) s := by
  refine wp_locked (fun denied t files => ?_) fun granted t self world => ?_
  · simp only [wp_liftM, wp_gumReturnWithError]
    exact ⟨.error _ _, .refused fun calm => by simp [calm.granted] at denied⟩
  have files : t.world.files = s.world.files := by rw [world, World.files_afterLock]
  have calm_of : s.world.Calm → t.world.faults.readShadow = .const true ∧ t.world.faults.write = .const none :=
    fun calm => by
      rw [world, World.readShadow_afterLock, World.write_afterLock]
      exact ⟨calm.readShadow, calm.write⟩
  have readable₀ : t.world.faults.read = .const true := by rwa [world, World.read_afterLock]
  simp only [wp_bind, wp_getSelf, wp_ite, self]
  refine ⟨fun invalid => unlockReturnWithError_spec _ (.refl _) ?_, fun valid => ?_⟩
  · rw [files]
    exact .refused fun _ pw sp updatable => absurd invalid updatable.valid
  refine wp_mono (wp_getPasswd readable₀) ?_
  rintro r t₁ ⟨rfl, self₁, ⟨quiet₁, -⟩⟩
  rw [self, files]
  rw [self] at self₁
  have files₁ : t₁.world.files = s.world.files := quiet₁.files.trans files
  cases entry : s.world.files.getPasswd s.self.pw with
  | none =>
    refine unlockReturn_spec quiet₁.balanced ?_
    rw [files₁]
    exact .refused fun _ pw sp updatable => by simpa [entry] using updatable.entry
  | some pw =>
    rw [wp_bind, wp_liftM]
    refine wp_mono (gumFileGetspnam_spec pw.pwName t₁.world) ?_
    rintro found w ⟨answer, looked⟩
    rw [files₁] at answer
    replace answer := answer.mono quiet₁.balanced.readShadow
    replace quiet₁ := quiet₁.trans looked.quiet
    have files₂ : w.files = s.world.files := looked.quiet.files.trans files₁
    cases found with
    | none =>
      refine unlockReturnWithError_spec _ quiet₁.balanced ?_
      change UserUpdated _ _ _ _ _ w.files
      rw [files₂]
      refine .refused fun calm pw' sp updatable => ?_
      obtain rfl : pw = pw' := Option.some.inj (entry.symm.trans updatable.entry)
      have none := answer.eq (calm_of calm).1
      simp [updatable.shadow] at none
    | some sp =>
      have updatable : s.self.Updatable s.world.files pw sp := ⟨valid, entry, answer.of_some⟩
      dsimp only
      rw [wp_bind]
      refine wp_mono (wp_updateIcon env) ?_
      rintro changed t₂ ⟨self₂, balanced₂, same₂, icon⟩
      change t₂.self = t₁.self at self₂
      change w.files.SameDb t₂.world.files at same₂
      change w.faults.readShadow = .const true → changed = t₁.self.newIcon env w.files ∧
        (w.faults.write = .const none → t₂.world.files = t₁.self.withIcon env w.files) at icon
      rw [self₁] at self₂ icon
      rw [files₂] at same₂ icon
      have balanced := quiet₁.balanced.trans balanced₂
      simp only [wp_bind, wp_modifySelf, wp_getSelf, self₂]
      refine wp_mono (wp_updateSecret env pw) ?_
      rintro ok t₃ ⟨rfl, self₃, quiet₃⟩
      have balanced := balanced.trans quiet₃.balanced
      change t₃.self = s.self.updated env pw sp at self₃
      change t₂.world.Quiet t₃.world at quiet₃
      have same₃ : s.world.files.SameDb t₃.world.files := quiet₃.files ▸ same₂
      have newIcon : s.world.Calm → changed = s.self.newIcon env s.world.files := fun calm =>
        (icon (quiet₁.balanced.readShadow (calm_of calm).1)).1
      replace icon : s.world.Calm → t₃.world.files = s.self.withIcon env s.world.files :=
        fun calm => quiet₃.files.trans ((icon (quiet₁.balanced.readShadow (calm_of calm).1)).2
          (quiet₁.balanced.write (calm_of calm).2))
      rw [wp_guard]
      refine ⟨fun failed => unlockReturn_spec balanced ?_, fun done => ?_⟩
      · refine .rejected updatable same₃ icon fun _ => Or.inl ?_
        simpa [SecretFails, newSecret] using failed
      have encrypted : ¬s.self.SecretFails env pw sp := by
        rintro ⟨changed, failed⟩
        simp only [newSecret] at changed
        simp [changed, failed] at done
      simp only [wp_bind, wp_getSelf, wp_ite, self₃]
      refine ⟨fun conflict => unlockReturnWithError_spec _ balanced ?_, fun agreed => ⟨fun same =>
        unlockReturnWithError_spec _ balanced ?_, fun different => ?_⟩⟩
      · exact .rejected updatable same₃ icon fun _ => Or.inr (Or.inl conflict)
      · refine .rejected updatable same₃ icon fun calm => Or.inr (Or.inr (Or.inl ?_))
        rw [newIcon calm] at same
        simpa [Unchanged, newSecret] using same
      replace different : s.world.Calm → ¬s.self.Unchanged env s.world.files pw sp := by
        intro calm
        rw [newIcon calm] at different
        simpa [Unchanged, newSecret] using different
      rw [← wp_bind]
      refine wp_writeBoth (writesAs_updatePasswdFile _ _ _) (writesAs_updateShadowFile _ _ _)
        (fun t₄ self₄ balanced₄ written => ?_) fun t₄ self₄ balanced₄ written => ?_
      all_goals
        refine unlockReturn_spec (balanced.trans balanced₄) ?_
        rw [self₃] at written
        generalize t₄.world.files = f' at written
      · cases written with
        | neither why =>
          refine .rejected updatable same₃ icon fun calm => Or.inr (Or.inr (Or.inr fun accepted => ?_))
          obtain ⟨_, error⟩ := why (balanced.write (calm_of calm).2)
          rw [updatable.rewritePasswd same₃] at error
          obtain ⟨new, put⟩ := updatable.putpwent env accepted
          rw [put] at error
          cases error
        | one first why =>
          obtain ⟨new, put, rfl⟩ := updatable.rewritePasswd_ok same₃ first
          refine .passwdOnly (fun calm => ?_) updatable same₃ put
          obtain ⟨_, error⟩ := why (balanced.write (calm_of calm).2)
          obtain ⟨newSp, -, rewritten⟩ := updatable.rewriteShadow env
            (t₃.world.files.replacePasswd pw new) same₃.shadow
          rw [rewritten] at error
          cases error
      · cases written with
        | both first second =>
          obtain ⟨new, put, rfl⟩ := updatable.rewritePasswd_ok same₃ first
          obtain ⟨newSp, putSp, rewritten⟩ := updatable.rewriteShadow env
            (t₃.world.files.replacePasswd pw new) same₃.shadow
          rw [rewritten] at second
          obtain rfl := Except.ok.inj second
          exact .updated updatable same₃ icon encrypted agreed different put putSp

/-! ## The entries after an update -/

/-- The passwd entry an update writes has the keys of the old one. -/
theorem Updatable.keys {u : GumdDaemonUser} {env : Env} {f : Files} {pw new : Passwd} {sp : Spwd}
    (updatable : u.Updatable f pw sp) (put : (u.updated env pw sp).pw.putpwent = some new) :
    new.pwName = pw.pwName ∧ new.pwUid = pw.pwUid ∧ new.pwGid = pw.pwGid :=
  keys_of_put (Files.getPasswd_some updatable.entry).2 put

/-- The entry an update starts from is the first one of its uid, which is that of the object. -/
theorem Updatable.byUid {u : GumdDaemonUser} {f : Files} {pw : Passwd} {sp : Spwd}
    (updatable : u.Updatable f pw sp) :
    f.getpwuid u.pw.pwUid = some pw ∧ pw.pwUid = u.pw.pwUid := by
  have entry := updatable.entry
  rw [Files.getPasswd_of_uid f updatable.valid] at entry
  obtain ⟨found, agrees⟩ := Option.filter_eq_some_iff.mp entry
  exact ⟨found, ((PasswdRecord.agrees_iff.mp agrees).1.resolve_left updatable.valid).symm⟩

/-- The updated user is found by uid, and in the shadow file if the record has the user's name. -/
structure Renewed (u : GumdDaemonUser) (f f' : Files) (pw new : Passwd) (newSp : Spwd) : Prop where
  name : new.pwName = pw.pwName
  byUid : f'.getpwuid u.pw.pwUid = some new
  inShadow : newSp.spNamp = pw.pwName → f'.getspnam pw.pwName = some newSp

theorem Updatable.renewed {u : GumdDaemonUser} {env : Env} {f f₁ : Files} {pw new : Passwd}
    {sp n : Spwd} (updatable : u.Updatable f pw sp) (same : f.SameDb f₁)
    (put : (u.updated env pw sp).pw.putpwent = some new) :
    u.Renewed f ((f₁.replacePasswd pw new).replaceShadow pw.pwName n) pw new n := by
  obtain ⟨name, uid, -⟩ := updatable.keys put
  obtain ⟨found, own⟩ := updatable.byUid
  have picked : f₁.passwd.find? (fun e =>
      pw.pwUid = e.pwUid ∧ pw.pwGid = e.pwGid ∧ pw.pwName = e.pwName) = some pw := by
    rw [same.passwd]
    refine find?_of_imp found (by simp) fun e key => ?_
    have own' : pw.pwUid = e.pwUid := (of_decide_eq_true key).1
    rw [← own', own]
    exact beq_self_eq_true _
  refine ⟨name, ?_, fun renamed => ?_⟩
  · refine find?_modifyFirst (f := fun _ => new) picked ?_ ?_
    · rw [same.passwd]
      exact found
    · rw [uid, own]
      exact beq_self_eq_true _
  · have here := updatable.shadow
    refine find?_modifyFirst (f := fun _ => n) (e := sp) ?_ ?_ ?_
    · change f₁.shadow.find? _ = some sp
      rw [same.shadow]
      simpa only [Files.getspnam, beq_eq_decide, @eq_comm _ pw.pwName] using here
    · change f₁.shadow.find? _ = some sp
      rw [same.shadow]
      exact here
    · rw [renamed]
      exact beq_self_eq_true _

/-- The object after an update: it stays as it is, or is the one that is written. -/
theorem gumdDaemonUserUpdate_object (readable : s.world.faults.read = .const true) (env : Env) :
    wp (gumdDaemonUserUpdate env) (fun r t => r = false ∧ t.self = s.self ∨
      ∃ pw sp, s.self.Updatable s.world.files pw sp ∧ t.self = s.self.updated env pw sp) s := by
  rw [gumdDaemonUserUpdate, wp_bind, wp_liftM, wp_gumLockPwdfLock, wp_guard]
  refine ⟨fun denied => Or.inl ⟨rfl, rfl⟩, fun granted => ?_⟩
  have readable₀ : s.world.afterLock.faults.read = .const true := by rwa [World.read_afterLock]
  rw [wp_bind, wp_getSelf, wp_ite]
  refine ⟨fun invalid => Or.inl ⟨rfl, rfl⟩, fun valid => ?_⟩
  rw [wp_bind]
  refine wp_mono (wp_getPasswd readable₀) ?_
  rintro r t₁ ⟨rfl, self₁, ⟨quiet₁, -⟩⟩
  cases entry : s.world.afterLock.files.getPasswd s.self.pw with
  | none => exact Or.inl ⟨rfl, self₁⟩
  | some pw =>
    rw [World.files_afterLock] at entry
    rw [wp_bind, wp_liftM]
    refine wp_mono (gumFileGetspnam_spec pw.pwName t₁.world) ?_
    rintro found w ⟨answer, looked⟩
    rw [quiet₁.files] at answer
    change Answer _ (s.world.afterLock.files.getspnam pw.pwName) found at answer
    rw [World.files_afterLock] at answer
    cases found with
    | none => exact Or.inl ⟨rfl, self₁⟩
    | some sp =>
      have updatable : s.self.Updatable s.world.files pw sp := ⟨valid, entry, answer.of_some⟩
      dsimp only
      rw [wp_bind]
      refine wp_mono (wp_updateIcon env) ?_
      rintro changed t₂ ⟨self₂, -⟩
      change t₂.self = t₁.self at self₂
      simp only [wp_bind, wp_modifySelf, wp_getSelf, self₂, self₁]
      refine wp_mono (wp_updateSecret env pw) ?_
      rintro ok t₃ ⟨-, self₃, -⟩
      change t₃.self = s.self.updated env pw sp at self₃
      have written : ∀ (r : Bool) (t : St GumdDaemonUser), t.self = t₃.self →
          (r = false ∧ t.self = s.self ∨ ∃ pw sp, s.self.Updatable s.world.files pw sp ∧
            t.self = s.self.updated env pw sp) :=
        fun r t same => Or.inr ⟨pw, sp, updatable, same.trans self₃⟩
      rw [wp_guard]
      refine ⟨fun _ => written false _ rfl, fun _ => ?_⟩
      simp only [wp_bind, wp_getSelf, wp_ite]
      refine ⟨fun _ => written false _ rfl, fun _ => ⟨fun _ => written false _ rfl, fun _ => ?_⟩⟩
      rw [← wp_bind]
      exact wp_writeBoth (writesAs_updatePasswdFile _ _ _) (writesAs_updateShadowFile _ _ _)
        (fun t₄ self₄ _ _ => written false _ self₄) fun t₄ self₄ _ _ => written true _ self₄

end GumdDaemonUser

end Gumd
