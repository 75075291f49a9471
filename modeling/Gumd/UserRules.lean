import Gumd.MemberOutcomes

/-!
# Rules for the user operations

What the steps of the user operations compute where files can be read.
-/

namespace Gumd

open StateWp EntryLoop

/-! ## Lookup -/

/-- The entry `_get_passwd` finds for a record. -/
def Files.getPasswd (f : Files) (pw : PasswdRecord) : Option Passwd :=
  let byUid := if pw.pwUid ≠ gumUserInvalidUid then f.getpwuid pw.pwUid else none
  let pwd := if pw.pwName.isSome ∧ byUid.isNone then (ptr pw.pwName).bind f.getpwnam else byUid
  pwd.filter pw.agrees

theorem PasswdRecord.agrees_iff {pw : PasswdRecord} {entry : Passwd} :
    pw.agrees entry = true ↔ (pw.pwUid = gumUserInvalidUid ∨ pw.pwUid = entry.pwUid) ∧
      (pw.pwName = none ∨ ptr pw.pwName = some entry.pwName) := by
  simp [PasswdRecord.agrees]

/-- The keys of the entry a record is written as. -/
theorem PasswdRecord.keys_of_putpwent {pw : PasswdRecord} {entry : Passwd}
    (put : pw.putpwent = some entry) : ptr pw.pwName = some entry.pwName ∧
      pw.pwUid = entry.pwUid ∧ pw.pwGid = entry.pwGid := by
  obtain ⟨name, given, rfl⟩ := Option.map_eq_some_iff.mp put
  exact ⟨congrArg ptr given, rfl, rfl⟩

/-- The found entry is in the file and agrees with the properties that are set. -/
theorem Files.getPasswd_some {f : Files} {pw : PasswdRecord} {entry : Passwd}
    (found : f.getPasswd pw = some entry) : entry ∈ f.passwd ∧ pw.agrees entry = true := by
  obtain ⟨picked, agrees⟩ := Option.filter_eq_some_iff.mp found
  refine ⟨?_, agrees⟩
  split_ifs at picked
  all_goals first
    | exact List.mem_of_find?_eq_some picked
    | (obtain ⟨name, -, byName⟩ := Option.bind_eq_some_iff.mp picked
       exact List.mem_of_find?_eq_some byName)

/-- A record with a uid finds the first entry of that uid, if the names agree. -/
theorem Files.getPasswd_of_uid (f : Files) {pw : PasswdRecord} (valid : pw.pwUid ≠ gumUserInvalidUid) :
    f.getPasswd pw = (f.getpwuid pw.pwUid).filter pw.agrees := by
  cases byUid : f.getpwuid pw.pwUid with
  | some entry => simp [Files.getPasswd, valid, byUid]
  | none =>
    simp only [Files.getPasswd, valid, byUid, Option.filter_none, ne_eq, not_false_eq_true, if_true,
      Option.isNone_none, and_true]
    split_ifs
    · -- an entry found by name alone has another uid
      rw [Option.filter_eq_none_iff]
      intro entry byName agrees
      obtain ⟨name, -, byName⟩ := Option.bind_eq_some_iff.mp byName
      have uid := (PasswdRecord.agrees_iff.mp agrees).1.resolve_left valid
      have other := List.find?_eq_none.mp byUid entry (List.mem_of_find?_eq_some byName)
      simp [uid] at other
    · rfl

/-- The icon `_get_userinfo` reads. -/
def Files.userIcon (f : Files) (config : GumConfig) (uid : UInt32) : Option Str :=
  if GumdDaemonUser.hasUserinfoPath config then (f.userinfo uid).map (·.icon.getD []) else none

/-- How `_copy_passwd_data` can end; `clear` says that the shadow and information files can be
read. -/
inductive GumdDaemonUser.Loaded (clear : Prop) (u : GumdDaemonUser) (config : GumConfig)
    (f : Files) : Bool → GumdDaemonUser → Prop
  | missing : (clear → ∀ pent, f.getPasswd u.pw = some pent → f.getspnam pent.pwName = none) →
      Loaded clear u config f false u
  | found {pent spent icon} : f.getPasswd u.pw = some pent →
      f.getspnam pent.pwName = some spent → Answer clear (f.userIcon config u.pw.pwUid) icon →
      Loaded clear u config f true (u.copyPasswdEntries pent spent icon)

/-- The uid `_find_free_uid` finds. -/
def Files.findFreeUid (f : Files) (config : GumConfig) (u : GumdDaemonUser) : Option UInt32 :=
  match GumdDaemonUser.getDefaultUidRange config u.usertype with
  | none => none
  | some (uidMin, uidMax) =>
      (firstFree (fun uid => (f.getpwuid uid).isSome) uidMax idCount uidMin).join

theorem getpwuid_of_findFreeUid {f : Files} {config : GumConfig} {uid : UInt32}
    {u : GumdDaemonUser} (found : f.findFreeUid config u = some uid) :
    f.getpwuid uid = none := by
  simp only [Files.findFreeUid] at found
  cases range : GumdDaemonUser.getDefaultUidRange config u.usertype with
  | none => simp [range] at found
  | some range' =>
    simp only [range, Option.join_eq_some_iff] at found
    simpa using taken_of_firstFree found

namespace GumdDaemonUser

variable {s : St GumdDaemonUser}

theorem wp_getPasswd (readable : s.world.faults.read = .const true) :
    wp getPasswd (fun r t => r = s.world.files.getPasswd s.self.pw ∧ t.self = s.self ∧
      s.world.Looked t.world) s := by
  simp only [getPasswd, wp_bind, wp_getSelf, wp_liftM,
    wp_lookupIf (wp_gumFileGetpwuid readable _), wp_lookupIf (wp_gumFileGetpwnam readable _)]
  rw [Files.getPasswd]
  cases Option.filter s.self.pw.agrees _ with
  | none => exact ⟨rfl, rfl, .error _ _⟩
  | some entry => exact ⟨rfl, rfl, .refl _⟩

theorem wp_getUserinfo (config : GumConfig) :
    wp (getUserinfo config) (fun r t => Answer (s.world.faults.readShadow = .const true)
      (s.world.files.userIcon config s.self.pw.pwUid) r ∧ t.self = s.self ∧
      s.world.Looked t.world) s := by
  simp only [getUserinfo, ↓wp_guard, wp_bind, wp_getSelf, wp_liftM, wp_pure, Files.userIcon]
  refine ⟨fun absent => ⟨Or.inl (by simp [absent]), trivial, .refl _⟩, fun present => ?_⟩
  refine wp_mono (gumFileLookup_spec (·.userinfo s.self.pw.pwUid) s.world) ?_
  rintro info w ⟨answer, looked⟩
  rw [if_pos present]
  rcases answer with rfl | ⟨rfl, failed⟩
  · cases s.world.files.userinfo s.self.pw.pwUid <;> exact ⟨Or.inl rfl, rfl, looked⟩
  · exact ⟨Or.inr ⟨rfl, failed⟩, rfl, looked⟩

theorem wp_copyPasswdData (readable : s.world.faults.read = .const true) (env : Env) :
    wp (copyPasswdData env) (fun ok t =>
      s.self.Loaded (s.world.faults.readShadow = .const true) env.config s.world.files ok t.self ∧
      s.world.Looked t.world) s := by
  simp only [copyPasswdData, wp_bind]
  refine wp_mono (wp_getPasswd readable) ?_
  rintro r t ⟨rfl, self, looked⟩
  cases entry : s.world.files.getPasswd s.self.pw with
  | none =>
    rw [wp_pure, self]
    exact ⟨.missing (by simp [entry]), looked⟩
  | some pent =>
    rw [wp_bind, wp_liftM]
    refine wp_mono (gumFileGetspnam_spec pent.pwName t.world) ?_
    rintro found w ⟨answer, looked'⟩
    rw [looked.quiet.files] at answer
    replace answer := answer.mono looked.quiet.balanced.readShadow
    have looked := looked.trans looked'
    cases found with
    | none =>
      simp only [wp_liftM, wp_gumReturnWithError, self]
      refine ⟨.missing fun clear pent' entry' => ?_, looked.trans (.error _ _)⟩
      obtain rfl : pent = pent' := Option.some.inj (entry.symm.trans entry')
      exact (answer.eq clear).symm
    | some spent =>
      dsimp only
      rw [wp_bind]
      refine wp_mono (wp_getUserinfo env.config) ?_
      rintro icon v ⟨icon', self', looked'⟩
      simp only [wp_bind, wp_modifySelf, wp_pure, self', self, looked.quiet.files] at icon' ⊢
      exact ⟨.found entry answer.of_some (icon'.mono looked.quiet.balanced.readShadow),
        looked.trans looked'⟩

/-! ## Name, uid and secret of a new user -/

/-- The object `_set_daemon_user_name` leaves when it succeeds. -/
def named (env : Env) (u : GumdDaemonUser) : Option GumdDaemonUser :=
  if u.pw.pwName.isSome then some u.setMissingRealname
  else if u.nickName.isNone ∨ u.usertype = .system then none
  else
    match gumValidateGenerateUsername env.md5 (ptr u.nickName) with
    | .error _ => none
    | .ok tname => some (u.setUsernameProperty (some tname)).setMissingRealname

theorem gumValidateName_generated {md5 : Str → Str} {string : Option Str} {tname : Str}
    (generated : gumValidateGenerateUsername md5 string = .ok tname) :
    gumValidateName (some tname) = .ok () := by
  cases string with
  | none => simp [gumValidateGenerateUsername] at generated
  | some s =>
    simp only [gumValidateGenerateUsername] at generated
    split at generated
    · cases generated
    · split at generated
      · rename_i valid
        cases generated
        exact valid
      · cases generated

theorem pwName_setUsernameProperty {name : Str} (valid : gumValidateName (some name) = .ok ())
    (u : GumdDaemonUser) :
    (u.setUsernameProperty (some name)).pw.pwName = some ⟨name, valid⟩ :=
  setStringProperty_of_accepted valid _

theorem wp_setDaemonUserName (env : Env) :
    wp (setDaemonUserName env) (fun ok t => ok = (s.self.named env).isSome ∧
      (∀ u, s.self.named env = some u → t.self = u) ∧ s.world.Quiet t.world) s := by
  rw [named]
  cases name : s.self.pw.pwName with
  | some name' =>
    have valid : gumValidateName (some name'.val) = .ok () := name'.property
    simp only [setDaemonUserName, wp_bind, wp_getSelf, wp_ite, name, wp_liftM, ptr_some, valid,
      gumReturnValidated, wp_pure, wp_modifySelf]
    exact ⟨by simp, fun _ => ⟨fun _ => ⟨by simp, fun _ => ⟨rfl, fun u same => Option.some.inj same,
      .refl _⟩⟩, by simp⟩⟩
  | none =>
    simp only [setDaemonUserName, wp_bind, wp_getSelf, wp_ite, name, wp_liftM,
      wp_gumReturnWithError]
    refine ⟨fun missing => ?_, fun given => ⟨by simp, fun _ => ⟨fun system => ?_, fun other => ?_⟩⟩⟩
    · simp only [Option.isSome_none, Bool.false_eq_true, if_false, missing.2, true_or, if_true]
      exact ⟨trivial, by simp, .error _ _⟩
    · simp only [Option.isSome_none, Bool.false_eq_true, if_false, system, or_true, if_true]
      exact ⟨trivial, by simp, .error _ _⟩
    · have nick : s.self.nickName.isNone = false := Bool.eq_false_iff.mpr fun unset =>
        given ⟨rfl, unset⟩
      simp only [Option.isSome_none, Bool.false_eq_true, if_false, nick, other, or_self]
      cases generated : gumValidateGenerateUsername env.md5 (ptr s.self.nickName) with
      | error e => exact ⟨rfl, by simp, .error _ _⟩
      | ok tname =>
        have valid := gumValidateName_generated generated
        simp only [wp_bind, wp_modifySelf, wp_getSelf, pwName_setUsernameProperty valid, wp_ite]
        exact ⟨by simp, fun _ => ⟨rfl, fun u same => Option.some.inj same, .refl _⟩⟩

end GumdDaemonUser

/-- The object `_set_uid` leaves when it succeeds: it has a new name and a free uid. -/
def Files.allocUid (f : Files) (env : Env) (u : GumdDaemonUser) : Option GumdDaemonUser :=
  (u.named env).bind fun u =>
    if ((ptr u.pw.pwName).bind f.getpwnam).isSome then none
    else (f.findFreeUid env.config u).map fun uid =>
      let u := u.setUidProperty uid
      if u.usertype ≠ .system then u.setHomedirProperty (some (u.homedirPath env.config)) else u

namespace GumdDaemonUser

theorem pwName_setMissingRealname (u : GumdDaemonUser) :
    u.setMissingRealname.pw.pwName = u.pw.pwName := by
  rw [setMissingRealname]
  split_ifs <;> rfl

theorem pwName_named {env : Env} {u u' : GumdDaemonUser} (named : u.named env = some u') :
    ∃ name, u'.pw.pwName = some name := by
  simp only [GumdDaemonUser.named] at named
  split_ifs at named with given missing
  · obtain rfl := Option.some.inj named
    rw [pwName_setMissingRealname]
    exact Option.isSome_iff_exists.mp given
  · cases generated : gumValidateGenerateUsername env.md5 (ptr u.nickName) with
    | error e => simp [generated] at named
    | ok tname =>
      obtain rfl : (u.setUsernameProperty (some tname)).setMissingRealname = u' := by
        simpa [generated] using named
      rw [pwName_setMissingRealname,
        pwName_setUsernameProperty (gumValidateName_generated generated)]
      exact ⟨_, rfl⟩

end GumdDaemonUser

/-- An object that passed `_set_uid` has a name and a uid no entry has. -/
theorem Files.allocUid_some {f : Files} {env : Env} {u u' : GumdDaemonUser}
    (alloc : f.allocUid env u = some u') : ∃ name, u'.pw.pwName = some name ∧
      f.getpwnam name.val = none ∧ f.getpwuid u'.pw.pwUid = none := by
  obtain ⟨u₁, named, alloc⟩ := Option.bind_eq_some_iff.mp alloc
  obtain ⟨name, given⟩ := GumdDaemonUser.pwName_named named
  split_ifs at alloc with taken
  obtain ⟨uid, free, rfl⟩ := Option.map_eq_some_iff.mp alloc
  have fresh : f.getpwnam name.val = none := by simpa [given] using taken
  refine ⟨name, ?_, fresh, ?_⟩
  · dsimp only
    split_ifs <;> exact given
  · dsimp only
    split_ifs <;> exact getpwuid_of_findFreeUid free

namespace GumdDaemonUser

variable {s : St GumdDaemonUser}

theorem wp_findFreeUid (readable : s.world.faults.read = .const true) (config : GumConfig) :
    wp (findFreeUid config) (fun r t => t = s ∧
      r.join = s.world.files.findFreeUid config s.self) s := by
  simp only [findFreeUid, wp_bind, wp_getSelf, Files.findFreeUid]
  cases getDefaultUidRange config s.self.usertype with
  | none => exact ⟨rfl, rfl⟩
  | some range =>
    rw [wp_liftM, wp_findFreeLoop (wp_gumFileGetpwuid readable)]
    exact ⟨rfl, rfl⟩

theorem wp_setUid (readable : s.world.faults.read = .const true) (env : Env) :
    wp (setUid env) (fun ok t => ok = (s.world.files.allocUid env s.self).isSome ∧
      (∀ u, s.world.files.allocUid env s.self = some u → t.self = u) ∧
      s.world.Quiet t.world) s := by
  simp only [setUid, wp_bind]
  refine wp_mono (wp_setDaemonUserName env) ?_
  rintro ok ⟨object, w⟩ ⟨rfl, self, quiet⟩
  rw [wp_guard, Files.allocUid]
  cases named : s.self.named env with
  | none => exact ⟨fun _ => ⟨rfl, by simp, quiet⟩, by simp⟩
  | some u =>
    have readable' : w.faults.read = .const true := quiet.balanced.read readable
    have files : w.files = s.world.files := quiet.files
    obtain rfl : object = u := self u named
    simp only [wp_bind, wp_getSelf, wp_liftM, wp_gumFileGetpwnam readable', files, wp_ite,
      Option.bind_some]
    refine ⟨by simp, fun _ => ⟨fun taken => ?_, fun fresh => ?_⟩⟩
    · rw [if_pos taken]
      exact ⟨rfl, by simp, quiet.trans (.error _ _)⟩
    · rw [if_neg fresh]
      refine wp_mono (wp_findFreeUid readable' env.config) ?_
      rintro r t' ⟨rfl, joined⟩
      rw [joined, files]
      cases s.world.files.findFreeUid env.config object with
      | none => exact ⟨rfl, by simp, quiet.trans (.error _ _)⟩
      | some uid =>
        simp only [wp_bind, wp_modifySelf, wp_getSelf, wp_ite, wp_pure, Option.map_some]
        refine ⟨fun other => ?_, fun system => ?_⟩
        · rw [if_pos other]
          exact ⟨rfl, fun _ same => Option.some.inj same, quiet⟩
        · rw [if_neg system]
          exact ⟨rfl, fun _ same => Option.some.inj same, quiet⟩

/-- The password `_set_secret` puts into the shadow record; `none` if it cannot be encrypted. -/
def newPwdp (env : Env) (u : GumdDaemonUser) : Option Str :=
  match u.pw.pwPasswd with
  | none => some (defaultPwdp u.usertype)
  | some secret => gumCryptEncryptSecret env.crypt env.urandom secret.val
      (gumConfigGetString env.config gumConfigGeneralEncryptMethod)

/-- The object after `_set_secret`. -/
def withSecret (env : Env) (u : GumdDaemonUser) : GumdDaemonUser :=
  { u with
    pw := { u.pw with
      pwPasswd := if (u.newPwdp env).isSome then some secretMarker else u.pw.pwPasswd }
    shadow := { u.shadow with spPwdp := u.newPwdp env } }

theorem setSecretProperty_marker (u : GumdDaemonUser) :
    u.setSecretProperty (some (str "x")) = { u with pw := { u.pw with
      pwPasswd := some secretMarker } } := by
  rw [setSecretProperty, setStringProperty_of_accepted secretMarker.property]
  rfl

theorem wp_setSecret (env : Env) :
    wp (setSecret env) (fun ok t => ok = (s.self.newPwdp env).isSome ∧
      t.self = s.self.withSecret env ∧ s.world.Quiet t.world) s := by
  cases secret : s.self.pw.pwPasswd with
  | none =>
    simp only [setSecret, wp_bind, wp_getSelf, wp_modifySelf, wp_pure, newPwdp, withSecret, secret,
      setSecretProperty_marker]
    exact ⟨rfl, rfl, .refl _⟩
  | some plain =>
    simp only [setSecret, wp_bind, wp_getSelf, wp_modifySelf, wp_ite, newPwdp, withSecret, secret,
      setSecretProperty_marker]
    rcases Option.eq_none_or_eq_some (gumCryptEncryptSecret env.crypt env.urandom plain.val
        (gumConfigGetString env.config gumConfigGeneralEncryptMethod)) with failed | ⟨hash, done⟩
    · simp only [failed]
      refine ⟨fun _ => ⟨rfl, ?_, .error _ _⟩, by simp⟩
      rw [← secret]
      rfl
    · simp only [done]
      exact ⟨by simp, fun _ => ⟨rfl, rfl, .refl _⟩⟩

/-- The aging fields `_set_shadow_data` sets. -/
def withAging (env : Env) (u : GumdDaemonUser) : GumdDaemonUser :=
  { u with shadow :=
    { u.shadow with
      spLstchg := lastChange env.time
      spMin := gumConfigGetInt env.config gumConfigGeneralPassMinDays (-1)
      spMax := gumConfigGetInt env.config gumConfigGeneralPassMaxDays (-1)
      spWarn := gumConfigGetInt env.config gumConfigGeneralPassWarnAge (-1)
      spInact := -1
      spExpire := -1
      spFlag := 0xffffffffffffffff } }

/-- The object after `_set_shadow_data` succeeds. -/
def withShadow (env : Env) (u : GumdDaemonUser) : GumdDaemonUser :=
  (withSecret env { u with shadow := { u.shadow with spNamp := ptr u.pw.pwName } }).withAging env

theorem wp_setShadowData (env : Env) :
    wp (setShadowData env) (fun ok t => ok = (s.self.newPwdp env).isSome ∧
      (ok = true → t.self = s.self.withShadow env) ∧ s.world.Quiet t.world) s := by
  simp only [setShadowData, wp_bind, wp_modifySelf]
  refine wp_mono (wp_setSecret env) ?_
  rintro ok t ⟨rfl, self, quiet⟩
  rw [wp_guard]
  refine ⟨fun failed => ⟨failed.symm, by simp, quiet⟩, fun done => ⟨done.symm, fun _ => ?_, quiet⟩⟩
  change t.self.withAging env = _
  rw [self]
  rfl

end GumdDaemonUser

end Gumd
