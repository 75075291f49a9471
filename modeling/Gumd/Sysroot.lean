import Gumd.ConfigFile
import Gumd.FileUpdate
import Gumd.Identity
import Gumd.StrayErrors

/-!
# Writes below the sysroot

The paths the operations of the core write are made from the configuration, and the home directory
from the user's object.  The four database files and the home directory of a new user begin with the
sysroot; the user information file and the home directory of a user who is deleted need not.
-/

namespace Gumd

open StateWp EntryLoop Reports

/-! ## Paths -/

/-- `%d` of a uid, which is printed as a signed number. -/
def printedUid (uid : UInt32) : Str :=
  if uid < 0x80000000 then Lines.decimal uid.toNat
  else 0x2d :: Lines.decimal (4294967296 - uid.toNat)

/-- `GUMD_STR_LEN`. -/
def gumdStrLen : Nat := 4096

/-- `_get_userinfo_path`, which is cut to the length of its buffer. -/
def getUserinfoPath (config : GumConfig) (uid : UInt32) : Option Str :=
  (gumConfigGetString config gumConfigGeneralUserinfoDir).map fun dir =>
    (dir ++ printedUid uid).take (gumdStrLen - 1)

/-- The keys of the database files. -/
def databaseKeys : List Str :=
  [gumConfigGeneralPasswdFile, gumConfigGeneralShadowFile, gumConfigGeneralGroupFile,
    gumConfigGeneralGshadowFile]

/-- The paths `gum_file_update` writes. -/
def updatePaths (sourcePath : Str) (pid : Nat) : List Str :=
  [sourcePath, oldFilePath sourcePath, dupFilePath sourcePath pid]

/-- A rewrite leaves every other path as it is. -/
theorem Directory.gumFileUpdate_other {ε : Type} (callback : Option (GumFileUpdateCB ε))
    (sourcePath : Str) (pid : Nat) (d : Directory ε) :
    wp (Directory.gumFileUpdate callback sourcePath pid) (fun _ t =>
      ∀ path, path ∉ updatePaths sourcePath pid → t.files path = d.files path) d := by
  have ne : ∀ path, path ∉ updatePaths sourcePath pid → path ≠ sourcePath ∧
      path ≠ oldFilePath sourcePath ∧ path ≠ dupFilePath sourcePath pid := by
    intro path outside
    simpa [updatePaths] using outside
  cases callback with
  | none =>
    refine wp_mono (Directory.gumFileUpdate_none sourcePath pid d) ?_
    rintro r t ⟨-, kept⟩ path outside
    exact kept.other path (ne path outside).2.2 (ne path outside).2.1
  | some callback =>
    refine wp_mono (Directory.gumFileUpdate_spec callback sourcePath pid d) ?_
    intro r t spec path outside
    cases outcome : d.outcome callback sourcePath with
    | error e =>
      rw [outcome] at spec
      exact spec.2.2.other path (ne path outside).2.2 (ne path outside).2.1
    | ok out =>
      rw [outcome] at spec
      exact spec.2.other path (ne path outside).1 (ne path outside).2.2 (ne path outside).2.1

/-- The paths of a rewrite begin with what its source path begins with. -/
theorem begins_updatePaths {root source path : Str} {pid : Nat}
    (begins : Paths.Begins slash root source) (written : path ∈ updatePaths source pid) :
    Paths.Begins slash root path := by
  simp only [updatePaths, List.mem_cons, List.not_mem_nil, or_false] at written
  rcases written with rfl | rfl | rfl
  · exact begins
  · exact begins.append _
  · rw [dupFilePath, List.append_assoc]
    exact begins.append _

/-! ## What a call writes -/

namespace GumdDaemonUser

/-- The steps of `gumd_daemon_user_update` up to the user information file: whether the icon has
changed. -/
def compareIcon (env : Env) : UserM Bool := do
  if !(← gumLockPwdfLock) then return false
  if (← getSelf).pw.pwUid = gumUserInvalidUid then return false
  match ← getPasswd with
  | none => return false
  | some pw =>
      match ← gumFileGetspnam (some pw.pwName) with
      | none => return false
      | some _ => return iconChanged (← getUserinfo env.config) (← getSelf)

/-- The steps of `gumd_daemon_user_delete` up to the home directory. -/
def strikeGroups (env : Env) : UserM Bool := do
  if !(← strikeUser env) then return false
  gumdDaemonGroupDeleteUserMembership (ptr (← getSelf).pw.pwName)

end GumdDaemonUser

/-- The calls that write. -/
def CoreCall.Writes : CoreCall → Prop
  | .userNewByUid _ | .userNewByName _ | .userGetUidByName _ | .userGetUserList _ => False
  | .groupNewByGid _ | .groupNewByName _ | .groupGetGidByName _ => False
  | _ => True

/-- The steps `m` of a call succeed and leave a state in which `P` holds. -/
def Reaches {O : Type} (m : GumM O Bool) (P : St O → Prop) (self : O) (w : World) : Prop :=
  wp m (fun ok s => ok = true ∧ P s) ⟨self, w⟩

/-- The paths a call may create, modify or remove.  A home directory that is there already counts, and
an information file that is missing. -/
inductive CoreCall.Touches (env : Env) (pid : Nat) (w : World) : CoreCall → Str → Prop
  | database {c key source path} : c.Writes → key ∈ databaseKeys →
      gumConfigGetString env.config key = some source → path ∈ updatePaths source pid →
      Touches env pid w c path
  | addedInfo {self path} : Reaches (GumdDaemonUser.enterUser env)
        (fun s => getUserinfoPath env.config s.self.pw.pwUid = some path) self w →
      Touches env pid w (.userAdd self) path
  | addedHome {self path} : Reaches (GumdDaemonUser.enterUser env)
        (fun s => s.self.usertype ≠ .system ∧ ptr s.self.pw.pwDir = some path) self w →
      Touches env pid w (.userAdd self) path
  | updatedInfo {self path} : Reaches (GumdDaemonUser.compareIcon env)
        (fun s => getUserinfoPath env.config s.self.pw.pwUid = some path) self w →
      Touches env pid w (.userUpdate self) path
  | deletedInfo {self remHomeDir path} : Reaches (GumdDaemonUser.endSessions env)
        (fun s => getUserinfoPath env.config s.self.pw.pwUid = some path) self w →
      Touches env pid w (.userDelete self remHomeDir) path
  | deletedHome {self path} : Reaches (GumdDaemonUser.strikeGroups env)
        (fun s => s.self.usertype ≠ .system ∧ ptr s.self.pw.pwDir = some path) self w →
      Touches env pid w (.userDelete self true) path

/-! ## The user information directory -/

/-- The directory of the user information files, as the key file sets it last. -/
def ConfigSource.userinfoDir (source : ConfigSource) : Option Str :=
  (((source.keyFile.getD []).settings.filter fun setting =>
    setting.1 = gumConfigGeneralUserinfoDir ∧ (gVariantNewString setting.2).isSome).getLast?).map
      (·.2)

theorem getString_setString_other {key key' value : Str} (other : key' ≠ key) (sysroot : Option Str)
    (config : GumConfig) : gumConfigGetString (gumConfigSetString sysroot key value config) key' =
      gumConfigGetString config key' := by
  simp only [gumConfigSetString, gumDictionarySetString, gVariantNewString]
  split_ifs <;> simp [gumConfigGetString, gumDictionaryGet_set, other]

theorem getString_setInt_other {key key' : Str} (other : key' ≠ key) (value : Int)
    (config : GumConfig) : gumConfigGetString (gumConfigSetInt key value config) key' =
      gumConfigGetString config key' := by
  simp [gumConfigSetInt, gumConfigGetString, gumDictionaryGet_set, other]

theorem getString_setUint_other {key key' : Str} (other : key' ≠ key) (value : UInt32)
    (config : GumConfig) : gumConfigGetString (gumConfigSetUint key value config) key' =
      gumConfigGetString config key' := by
  simp [gumConfigSetUint, gumConfigGetString, gumDictionaryGet_set, other]

/-- The value of the key is stored as it is. -/
theorem getString_loadKey_userinfoDir (sysroot : Option Str) (key value : Str) (config : GumConfig) :
    gumConfigGetString (loadKey sysroot key value config) gumConfigGeneralUserinfoDir =
      if key = gumConfigGeneralUserinfoDir ∧ (gVariantNewString value).isSome then some value
      else gumConfigGetString config gumConfigGeneralUserinfoDir := by
  by_cases own : key = gumConfigGeneralUserinfoDir
  · subst own
    have plain : gumConfigGeneralUserinfoDir ∉ intKeys ∧ gumConfigGeneralUserinfoDir ∉ uintKeys ∧
        gumConfigGeneralUserinfoDir ∉ sysrootKeys := by decide +kernel
    simp only [loadKey, plain, if_false, gumConfigSetString, and_false, gumDictionarySetString,
      gVariantNewString, true_and]
    split_ifs
    · simp [gumConfigGetString, gumDictionaryGet_set]
    · simp_all
    · simp_all
    · rfl
  · have other : gumConfigGeneralUserinfoDir ≠ key := Ne.symm own
    rw [if_neg fun both => own both.1, loadKey]
    split_ifs
    · cases convertStrtol value with
      | none => rfl
      | some cv =>
        dsimp only
        split_ifs
        · exact getString_setInt_other other cv config
        · rfl
    · cases convertStrtoul value with
      | none => rfl
      | some cv =>
        dsimp only
        split_ifs
        · exact getString_setUint_other other _ config
        · rfl
    · exact getString_setString_other other sysroot config

/-- There is no default for the directory. -/
theorem getString_defaults_userinfoDir (source : ConfigSource) :
    gumConfigGetString source.defaults gumConfigGeneralUserinfoDir = none := by
  simp only [ConfigSource.defaults]
  repeat first
    | rw [getString_setString_other (by decide +kernel)]
    | rw [getString_setInt_other (by decide +kernel)]
    | rw [getString_setUint_other (by decide +kernel)]
  rfl

theorem userinfoDir_gumConfigNew (source : ConfigSource) :
    gumConfigGetString source.gumConfigNew gumConfigGeneralUserinfoDir = source.userinfoDir := by
  rw [ConfigSource.gumConfigNew, loadConfig, ConfigSource.userinfoDir]
  generalize (source.keyFile.getD []).settings = settings
  -- the last of the settings of the key stands
  have last : ∀ config : GumConfig,
      gumConfigGetString
          (settings.foldl (fun config setting => loadKey source.sysroot setting.1 setting.2 config)
            config) gumConfigGeneralUserinfoDir =
        ((settings.filter fun setting => setting.1 = gumConfigGeneralUserinfoDir ∧
          (gVariantNewString setting.2).isSome).getLast?.map (·.2)).or
            (gumConfigGetString config gumConfigGeneralUserinfoDir) := by
    induction settings with
    | nil => exact fun config => rfl
    | cons setting rest ih =>
      intro config
      rw [List.foldl_cons, ih, getString_loadKey_userinfoDir, List.filter_cons]
      split_ifs with set set' set'
      · rw [List.getLast?_cons]
        cases (rest.filter fun setting => decide (setting.1 = gumConfigGeneralUserinfoDir ∧
            (gVariantNewString setting.2).isSome = true)).getLast? <;> rfl
      · exact absurd (decide_eq_true set) set'
      · exact absurd (of_decide_eq_true set') set
      · rfl
  exact (last _).trans (by rw [getString_defaults_userinfoDir, Option.or_none])

/-! ## The home directory of a new user -/

namespace GumdDaemonUser

/-- The home directory, and what it and the creation of the directory depend on. -/
def home (u : GumdDaemonUser) : Option DbString × Option ValidName × Option Gecos :=
  (u.pw.pwDir, u.pw.pwName, u.pw.pwGecos)

section Steps

variable {φ : Type} {field : GumdDaemonUser → φ}

theorem keepsField_writeUserinfo (info : Option Userinfo) :
    Rewrites (KeepsField field) (writeUserinfo info) := by
  intro s
  simp only [writeUserinfo, wp_bind, wp_get, wp_ite, wp_set, wp_pure]
  exact ⟨fun _ => rfl, fun _ => rfl⟩

theorem keepsField_updatePasswdFile (op : GumOpType) (userData : Option Str) :
    Rewrites (KeepsField field) (updatePasswdFile op userData) :=
  .bind frame_keepsField (rewrites_getSelf frame_keepsField) fun _ => keepsField_lift _

theorem keepsField_updateShadowFile (op : GumOpType) (userData : Option Str) :
    Rewrites (KeepsField field) (updateShadowFile op userData) :=
  .bind frame_keepsField (rewrites_getSelf frame_keepsField) fun _ => keepsField_lift _

theorem keepsField_addUserinfo (config : GumConfig) :
    Rewrites (KeepsField field) (addUserinfo config) := by
  apply Rewrites.ite
  · exact fun _ => .pure frame_keepsField _
  · exact fun _ => .bind frame_keepsField (rewrites_getSelf frame_keepsField) fun _ =>
      keepsField_writeUserinfo _

end Steps

theorem keepsHome_setGroup (env : Env) : Rewrites (KeepsField home) (setGroup env) := by
  apply Rewrites.bind frame_keepsField (rewrites_getSelf frame_keepsField)
  intro self
  apply Rewrites.bind frame_keepsField (keepsField_lift _)
  intro found
  cases found with
  | some grp =>
    exact .bind frame_keepsField (keepsField_modifySelf (by intro u; rfl)) fun _ =>
      .pure frame_keepsField _
  | none =>
    apply Rewrites.bind frame_keepsField (keepsField_lift _)
    intro result
    obtain ⟨gid, group⟩ := result
    cases gid with
    | none => exact .pure frame_keepsField _
    | some gid =>
      exact .bind frame_keepsField (keepsField_modifySelf (by intro u; rfl)) fun _ =>
        .pure frame_keepsField _

theorem keepsHome_setSecret (env : Env) : Rewrites (KeepsField home) (setSecret env) := by
  apply Rewrites.bind frame_keepsField (rewrites_getSelf frame_keepsField)
  intro self
  cases self.pw.pwPasswd with
  | none =>
    exact .bind frame_keepsField (keepsField_modifySelf (by intro u; rfl)) fun _ =>
      .pure frame_keepsField _
  | some secret =>
    apply Rewrites.bind frame_keepsField (keepsField_modifySelf (by intro u; rfl))
    intro _
    apply Rewrites.ite
    · exact fun _ => .bind frame_keepsField (keepsField_lift _) fun _ => .pure frame_keepsField _
    · exact fun _ => .bind frame_keepsField (keepsField_modifySelf (by intro u; rfl)) fun _ =>
        .pure frame_keepsField _

theorem keepsHome_setShadowData (env : Env) : Rewrites (KeepsField home) (setShadowData env) := by
  apply Rewrites.bind frame_keepsField (keepsField_modifySelf (by intro u; rfl))
  intro _
  apply Rewrites.bind frame_keepsField (keepsHome_setSecret env)
  intro ok
  apply Rewrites.ite
  · exact fun _ => .pure frame_keepsField _
  · exact fun _ => .bind frame_keepsField (keepsField_modifySelf (by intro u; rfl)) fun _ =>
      .pure frame_keepsField _

/-- The home directory an add gives to the object, where it has one: the configured one, if the
validator accepts it. -/
def HomeSet (config : GumConfig) (old : Option DbString) (u : GumdDaemonUser) : Prop :=
  u.usertype ≠ .system → u.pw.pwDir = setStringProperty (some (homedirPath config u)) old

theorem setUid_home {s : St GumdDaemonUser} (env : Env) : wp (setUid env) (fun ok t =>
    ok = true → HomeSet env.config s.self.pw.pwDir t.self) s := by
  have realname : ∀ u : GumdDaemonUser, u.setMissingRealname.pw.pwDir = u.pw.pwDir := by
    intro u
    rw [setMissingRealname]
    split_ifs <;> rfl
  have kept : Rewrites (KeepsField fun u => u.pw.pwDir) (setDaemonUserName env) :=
    keepsField_setDaemonUserName realname (fun _ _ => rfl) env
  rw [setUid, wp_bind]
  refine wp_mono (kept s) ?_
  intro ok t same
  rw [wp_guard]
  refine ⟨fun _ failed => (by cases failed), fun _ => ?_⟩
  rw [wp_bind, wp_getSelf, wp_bind, wp_liftM]
  refine wp_mono (looks_gumFileGetpwnam _ t.world) ?_
  intro taken w _
  rw [wp_ite]
  refine ⟨fun _ failed => (by cases failed), fun _ => ?_⟩
  rw [wp_bind]
  refine wp_mono (unmoved_findFreeUid env.config _) ?_
  rintro found v ⟨self, -⟩
  cases found.join with
  | none => exact fun failed => by cases failed
  | some uid =>
    have dir : v.self.pw.pwDir = s.self.pw.pwDir :=
      (congrArg (fun u : GumdDaemonUser => u.pw.pwDir) self).trans same
    simp only [wp_bind, wp_modifySelf, wp_getSelf, wp_ite, wp_pure, ← dir]
    exact ⟨fun _ _ _ => rfl, fun system _ other => absurd other system⟩

theorem HomeSet.of_keeps {config : GumConfig} {old : Option DbString} {s t : St GumdDaemonUser}
    (set : HomeSet config old s.self) (kept : KeepsField home s t) : HomeSet config old t.self := by
  obtain ⟨dir, rest⟩ := Prod.ext_iff.mp kept
  obtain ⟨name, gecos⟩ := Prod.ext_iff.mp rest
  change t.self.pw.pwDir = s.self.pw.pwDir at dir
  change t.self.pw.pwName = s.self.pw.pwName at name
  change t.self.pw.pwGecos = s.self.pw.pwGecos at gecos
  rw [HomeSet, usertype, homedirPath] at set ⊢
  rw [dir, name, gecos]
  exact set

/-- The home directory of a user who is entered. -/
theorem enterUser_home {s : St GumdDaemonUser} (env : Env) : wp (enterUser env) (fun ok t =>
    ok = true → HomeSet env.config s.self.pw.pwDir t.self) s := by
  have shell : (s.self.setMissingShell env.config).pw.pwDir = s.self.pw.pwDir := by
    rw [setMissingShell]
    split_ifs <;> rfl
  simp only [enterUser, wp_bind, wp_getSelf, wp_ite, wp_pure, wp_modifySelf, wp_liftM,
    wp_gumLockPwdfLock, ↓wp_guard]
  refine ⟨fun _ failed => (by cases failed), fun _ => ⟨fun _ failed => (by cases failed), fun _ => ?_⟩⟩
  refine wp_mono (setUid_home env) ?_
  intro ok t set
  rw [wp_guard]
  refine ⟨fun _ failed => (by cases failed), fun done => ?_⟩
  have set' := set done
  rw [shell] at set'
  have rest : Rewrites (KeepsField home) (do
      if !(← setGroup env) then return false
      if !(← setShadowData env) then return false
      if !(← updatePasswdFile .add none) then return false
      if !(← updateShadowFile .add none) then return false
      let _ ← addUserinfo env.config
      return true : UserM Bool) := by
    apply Rewrites.bind frame_keepsField (keepsHome_setGroup env)
    intro ok
    apply Rewrites.ite fun _ => .pure frame_keepsField _
    intro _
    apply Rewrites.bind frame_keepsField (keepsHome_setShadowData env)
    intro ok
    apply Rewrites.ite fun _ => .pure frame_keepsField _
    intro _
    apply Rewrites.bind frame_keepsField (keepsField_updatePasswdFile _ _)
    intro ok
    apply Rewrites.ite fun _ => .pure frame_keepsField _
    intro _
    apply Rewrites.bind frame_keepsField (keepsField_updateShadowFile _ _)
    intro ok
    apply Rewrites.ite fun _ => .pure frame_keepsField _
    intro _
    exact .bind frame_keepsField (keepsField_addUserinfo _) fun _ => .pure frame_keepsField _
  exact wp_mono (rest t) fun _ _ kept _ => set'.of_keeps kept

/-! ## The home directory of a user who is deleted -/

/-- The object stays as it is. -/
theorem keepsSelf_lockUser (lock : Bool) : Rewrites (KeepsField id) (lockUser lock) :=
  .bind frame_keepsField (rewrites_getSelf frame_keepsField) fun _ => keepsField_lift _

theorem keepsSelf_removeEntries (env : Env) : Rewrites (KeepsField id) (removeEntries env) := by
  have info : Rewrites (KeepsField id) (deleteUserinfo env.config) := by
    apply Rewrites.ite
    · exact fun _ => .bind frame_keepsField (keepsField_writeUserinfo _) fun _ =>
        .pure frame_keepsField _
    · exact fun _ => .pure frame_keepsField _
  apply Rewrites.bind frame_keepsField info
  intro _
  apply Rewrites.bind frame_keepsField
  · apply Rewrites.bind frame_keepsField (keepsField_updatePasswdFile _ _)
    intro ok
    apply Rewrites.ite fun _ => .pure frame_keepsField _
    exact fun _ => keepsField_updateShadowFile _ _
  · intro ok
    apply Rewrites.ite fun _ => .pure frame_keepsField _
    intro _
    apply Rewrites.bind frame_keepsField (rewrites_getSelf frame_keepsField)
    intro self
    exact .bind frame_keepsField (keepsField_lift _) fun _ => .pure frame_keepsField _

/-- The home directory a deletion finds: the one of the user's entry, if the validator accepts it. -/
def HomeFound (w : World) (self : GumdDaemonUser) (u : GumdDaemonUser) : Prop :=
  ∃ pent, w.seenPasswd self.pw = some pent ∧
    u.pw.pwDir = setStringProperty (some pent.pwDir) self.pw.pwDir

theorem endSessions_home {s : St GumdDaemonUser} (env : Env) : wp (endSessions env) (fun ok t =>
    ok = true → HomeFound s.world s.self t.self) s := by
  simp only [endSessions, wp_bind, wp_liftM, wp_gumLockPwdfLock, ↓wp_guard, wp_getSelf, wp_ite,
    wp_pure]
  refine ⟨fun _ failed => (by cases failed), fun _ => ⟨fun _ failed => (by cases failed),
    fun valid => ?_⟩⟩
  refine wp_mono (wp_copyPasswdData_seen (s := ⟨s.self, s.world.afterLock⟩) valid env) ?_
  rintro ok t ⟨⟨rfl, -⟩ | ⟨rfl, pent, spent, icon, seen, -, copied⟩, -⟩
  · exact fun failed => by cases failed
  · have found : HomeFound s.world s.self t.self := by
      refine ⟨pent, ?_, by rw [copied]; rfl⟩
      rw [World.seenPasswd, World.search_afterLock] at seen
      exact seen
    have rest : Rewrites (KeepsField id) (do
        let s ← get
        if s.self.pw.pwUid = s.world.process.euid then return false
        if !(← lockUser true) then return false
        if !terminateUser env.logind then return false
        return true : UserM Bool) := by
      have looks : Rewrites (KeepsField id) (get : UserM (St GumdDaemonUser)) := by
        intro s
        rw [wp_get]
        exact rfl
      apply Rewrites.bind frame_keepsField looks
      intro u
      apply Rewrites.ite fun _ => .pure frame_keepsField _
      intro _
      apply Rewrites.bind frame_keepsField (keepsSelf_lockUser true)
      intro locked
      apply Rewrites.ite fun _ => .pure frame_keepsField _
      intro _
      exact Rewrites.ite (fun _ => .pure frame_keepsField _) fun _ => .pure frame_keepsField _
    refine wp_mono (rest t) fun _ u kept _ => ?_
    rw [show u.self = t.self from kept]
    exact found

theorem strikeGroups_home {s : St GumdDaemonUser} (env : Env) : wp (strikeGroups env) (fun ok t =>
    ok = true → HomeFound s.world s.self t.self) s := by
  simp only [strikeGroups, strikeUser, wp_bind]
  refine wp_mono (endSessions_home env) ?_
  intro ok t found
  have rest : Rewrites (KeepsField id) (do
      if !(← removeEntries env) then return false
      gumdDaemonGroupDeleteUserMembership (ptr (← getSelf).pw.pwName) : UserM Bool) := by
    apply Rewrites.bind frame_keepsField (keepsSelf_removeEntries env)
    intro ok
    apply Rewrites.ite fun _ => .pure frame_keepsField _
    intro _
    exact .bind frame_keepsField (rewrites_getSelf frame_keepsField) fun _ => keepsField_lift _
  cases ok with
  | false => exact fun failed => by cases failed
  | true =>
    refine wp_mono ((wp_bind _ _ _ _).mp (rest t)) fun removed u kept => ?_
    refine wp_mono kept fun _ v kept _ => ?_
    rw [show v.self = t.self from kept]
    exact found rfl

end GumdDaemonUser

/-! ## The user information file of an update -/

/-- The user information files stay as they are. -/
def KeepsInfo (s t : St GumdDaemonUser) : Prop :=
  t.world.files.userinfo = s.world.files.userinfo

theorem frame_keepsInfo : Frame KeepsInfo := ⟨fun _ => rfl, fun first second => second.trans first⟩

namespace GumdDaemonUser

theorem keepsInfo_modifySelf (f : GumdDaemonUser → GumdDaemonUser) :
    Rewrites KeepsInfo (modifySelf f) := by
  intro s
  rw [wp_modifySelf]
  exact rfl

theorem keepsInfo_gumFileUpdate {ε : Type} {file : DbFile ε}
    (renamed : ∀ out f, (file.rename out f).userinfo = f.userinfo)
    (callback : List ε → Except GError (List ε)) :
    Rewrites KeepsInfo (liftM (gumFileUpdate file callback) : UserM Bool) := by
  intro s
  rw [wp_liftM]
  refine wp_mono (gumFileUpdate_spec file callback s.world) ?_
  rintro ok t ⟨-, written⟩
  rcases written with ⟨-, same, -⟩ | ⟨-, result⟩
  · exact congrArg Files.userinfo same
  · obtain ⟨entries, out, -, -, result⟩ := DbFile.rewrite_ok result
    rw [KeepsInfo, result]
    exact renamed out _

theorem keepsInfo_updatePasswdFile (op : GumOpType) (userData : Option Str) :
    Rewrites KeepsInfo (updatePasswdFile op userData) :=
  .bind frame_keepsInfo (rewrites_getSelf frame_keepsInfo) fun _ =>
    keepsInfo_gumFileUpdate (fun _ _ => rfl) _

theorem keepsInfo_updateShadowFile (op : GumOpType) (userData : Option Str) :
    Rewrites KeepsInfo (updateShadowFile op userData) :=
  .bind frame_keepsInfo (rewrites_getSelf frame_keepsInfo) fun _ =>
    keepsInfo_gumFileUpdate (fun _ _ => rfl) _

theorem keepsInfo_of_looks {α : Type} {m : StateM World α} (looks : Looks m) :
    Rewrites KeepsInfo (liftM m : UserM α) :=
  Rewrites.lift looks fun _ _ quiet => congrArg Files.userinfo quiet.files

theorem keepsInfo_unlockReturn (retval : Bool) :
    Rewrites KeepsInfo (unlockReturn retval : UserM Bool) := by
  intro s
  rw [wp_unlockReturn]
  exact congrArg Files.userinfo (World.files_afterUnlock s.world)

theorem keepsInfo_unlockReturnWithError (e : GError) (retval : Bool) :
    Rewrites KeepsInfo (unlockReturnWithError e retval : UserM Bool) := by
  intro s
  rw [wp_unlockReturnWithError]
  exact congrArg Files.userinfo (World.files_afterUnlock s.world)

theorem keepsInfo_updateSecret (env : Env) (pw : Passwd) :
    Rewrites KeepsInfo (updateSecret env pw) := by
  have stays : ∀ f, Rewrites KeepsInfo (modifySelf f >>= fun _ => pure true : UserM Bool) := fun f =>
    .bind frame_keepsInfo (keepsInfo_modifySelf f) fun _ => .pure frame_keepsInfo _
  apply Rewrites.bind frame_keepsInfo (rewrites_getSelf frame_keepsInfo)
  intro self
  apply Rewrites.ite
  · intro _
    apply Rewrites.bind frame_keepsInfo (rewrites_getSelf frame_keepsInfo)
    intro self
    cases self.pw.pwPasswd with
    | none => exact stays _
    | some secret =>
      apply Rewrites.bind frame_keepsInfo (keepsInfo_modifySelf _)
      intro _
      apply Rewrites.ite
      · exact fun _ => keepsInfo_of_looks (looks_gumReturnWithError _ _)
      · exact fun _ => stays _
  · exact fun _ => stays _

theorem keepsInfo_getPasswd : Rewrites KeepsInfo getPasswd := by
  apply Rewrites.bind frame_keepsInfo (rewrites_getSelf frame_keepsInfo)
  intro self
  apply Rewrites.bind frame_keepsInfo
    (keepsInfo_of_looks (looks_lookupIf (looks_gumFileGetpwuid _) _))
  intro byUid
  apply Rewrites.bind frame_keepsInfo
    (keepsInfo_of_looks (looks_lookupIf (looks_gumFileGetpwnam _) _))
  intro pwd
  cases pwd.filter self.pw.agrees with
  | none => exact keepsInfo_of_looks (looks_gumReturnWithError _ _)
  | some entry => exact .pure frame_keepsInfo _

/-- An update that does not change the icon leaves the information files alone. -/
theorem gumdDaemonUserUpdate_keepsInfo {s : St GumdDaemonUser} (env : Env) :
    wp (compareIcon env) (fun changed _ => changed = false →
      wp (gumdDaemonUserUpdate env) (fun _ t => KeepsInfo s t) s) s := by
  have after : ∀ {m : UserM Bool} {t}, KeepsInfo s t → Rewrites KeepsInfo m →
      wp m (fun _ u => KeepsInfo s u) t :=
    fun kept keeps => wp_mono (keeps _) fun _ _ kept' => frame_keepsInfo.trans kept kept'
  have locked : KeepsInfo s ⟨s.self, s.world.afterLock⟩ :=
    congrArg Files.userinfo (World.files_afterLock s.world)
  simp only [compareIcon, gumdDaemonUserUpdate, wp_bind, wp_liftM, wp_gumLockPwdfLock]
  cases s.world.lockGranted with
  | false => exact fun _ => locked
  | true =>
    simp only [Bool.not_true, Bool.false_eq_true, if_false, wp_bind, wp_getSelf]
    by_cases invalid : s.self.pw.pwUid = gumUserInvalidUid
    · simp only [invalid, if_true]
      exact fun _ => after locked (keepsInfo_unlockReturnWithError _ _)
    simp only [invalid, if_false, wp_bind]
    obtain ⟨found, t, ran⟩ := wp_result getPasswd ⟨s.self, s.world.afterLock⟩
    have searched := frame_keepsInfo.trans locked ((ran _).mp (keepsInfo_getPasswd _))
    simp only [ran]
    cases found with
    | none => exact fun _ => after searched (keepsInfo_unlockReturn _)
    | some pw =>
      simp only [wp_bind, wp_liftM]
      obtain ⟨shadow, w, ran⟩ := wp_result (gumFileGetspnam (some pw.pwName)) t.world
      have looked : KeepsInfo s ⟨t.self, w⟩ := by
        have spec := (ran _).mp (gumFileGetspnam_spec pw.pwName t.world)
        exact (congrArg Files.userinfo spec.2.quiet.files).trans searched
      simp only [ran]
      cases shadow with
      | none => exact fun _ => after looked (keepsInfo_unlockReturnWithError _ _)
      | some shadow =>
        simp only [updateIcon, wp_bind]
        obtain ⟨icon, u, ran⟩ := wp_result (getUserinfo env.config) ⟨t.self, w⟩
        have read : KeepsInfo s u := by
          have spec := (ran _).mp (wp_getUserinfo env.config)
          exact (congrArg Files.userinfo spec.2.2.quiet.files).trans looked
        simp only [ran, wp_bind, wp_getSelf, wp_pure]
        intro unchanged
        simp only [unchanged, Bool.false_eq_true, if_false, wp_pure]
        apply after read
        apply Rewrites.bind frame_keepsInfo (keepsInfo_modifySelf _)
        intro _
        apply Rewrites.bind frame_keepsInfo (rewrites_getSelf frame_keepsInfo)
        intro merged
        apply Rewrites.bind frame_keepsInfo (keepsInfo_updateSecret env pw)
        intro ok
        apply Rewrites.ite fun _ => keepsInfo_unlockReturn _
        intro _
        apply Rewrites.bind frame_keepsInfo (rewrites_getSelf frame_keepsInfo)
        intro self
        apply Rewrites.bind frame_keepsInfo (rewrites_getSelf frame_keepsInfo)
        intro self
        apply Rewrites.ite fun _ => keepsInfo_unlockReturnWithError _ _
        intro _
        apply Rewrites.bind frame_keepsInfo (rewrites_getSelf frame_keepsInfo)
        intro self
        apply Rewrites.ite fun _ => keepsInfo_unlockReturnWithError _ _
        intro _
        apply Rewrites.bind frame_keepsInfo (keepsInfo_updatePasswdFile _ _)
        intro ok
        apply Rewrites.ite fun _ => keepsInfo_unlockReturn _
        intro _
        apply Rewrites.bind frame_keepsInfo (keepsInfo_updateShadowFile _ _)
        intro ok
        exact Rewrites.ite (fun _ => keepsInfo_unlockReturn _) fun _ => keepsInfo_unlockReturn _

theorem keepsSelf_compareIcon (env : Env) : Rewrites (KeepsField id) (compareIcon env) := by
  apply Rewrites.bind frame_keepsField (keepsField_lift _)
  intro granted
  apply Rewrites.ite fun _ => .pure frame_keepsField _
  intro _
  apply Rewrites.bind frame_keepsField (rewrites_getSelf frame_keepsField)
  intro self
  apply Rewrites.ite fun _ => .pure frame_keepsField _
  intro _
  have search : Rewrites (KeepsField id) getPasswd := by
    apply Rewrites.bind frame_keepsField (rewrites_getSelf frame_keepsField)
    intro self
    apply Rewrites.bind frame_keepsField (keepsField_lift _)
    intro byUid
    apply Rewrites.bind frame_keepsField (keepsField_lift _)
    intro pwd
    cases pwd.filter self.pw.agrees with
    | none => exact keepsField_lift _
    | some entry => exact .pure frame_keepsField _
  apply Rewrites.bind frame_keepsField search
  intro found
  cases found with
  | none => exact .pure frame_keepsField _
  | some pw =>
    apply Rewrites.bind frame_keepsField (keepsField_lift _)
    intro shadow
    cases shadow with
    | none => exact .pure frame_keepsField _
    | some shadow =>
      have read : Rewrites (KeepsField id) (getUserinfo env.config) := by
        apply Rewrites.ite fun _ => .pure frame_keepsField _
        intro _
        apply Rewrites.bind frame_keepsField (rewrites_getSelf frame_keepsField)
        intro self
        apply Rewrites.bind frame_keepsField (keepsField_lift _)
        intro info
        cases info <;> exact .pure frame_keepsField _
      apply Rewrites.bind frame_keepsField read
      intro icon
      exact .bind frame_keepsField (rewrites_getSelf frame_keepsField) fun _ =>
        .pure frame_keepsField _

end GumdDaemonUser

/-! ## What a call may not touch -/

namespace CoreCall

variable {env : Env} {pid : Nat} {w : World}

/-- A rewrite of a database file leaves the paths alone that the call may not touch. -/
theorem untouched_rewrite {ε : Type} {c : CoreCall} {key source : Str} (writes : c.Writes)
    (database : key ∈ databaseKeys) (config : gumConfigGetString env.config key = some source)
    (callback : Option (GumFileUpdateCB ε)) (d : Directory ε) :
    wp (Directory.gumFileUpdate callback source pid) (fun _ t =>
      ∀ path, ¬c.Touches env pid w path → t.files path = d.files path) d := by
  refine wp_mono (Directory.gumFileUpdate_other callback source pid d) ?_
  intro _ t other path untouched
  exact other path fun written => untouched (.database writes database config written)

/-- An update leaves the information files alone if it may not touch the one of its uid. -/
theorem untouched_info {self : GumdDaemonUser} {path : Str}
    (named : getUserinfoPath env.config self.pw.pwUid = some path)
    (untouched : ¬(CoreCall.userUpdate self).Touches env pid w path) :
    wp (GumdDaemonUser.gumdDaemonUserUpdate env) (fun _ t => KeepsInfo ⟨self, w⟩ t) ⟨self, w⟩ := by
  obtain ⟨changed, t, ran⟩ := wp_result (GumdDaemonUser.compareIcon env) ⟨self, w⟩
  have same : t.self = self := (ran _).mp (GumdDaemonUser.keepsSelf_compareIcon env ⟨self, w⟩)
  refine (ran _).mp (GumdDaemonUser.gumdDaemonUserUpdate_keepsInfo env) ?_
  cases changed with
  | false => rfl
  | true =>
    refine absurd (.updatedInfo ((ran _).mpr ⟨rfl, ?_⟩)) untouched
    change getUserinfoPath env.config t.self.pw.pwUid = some path
    rw [same]
    exact named

end CoreCall

/-! ## What stays below the sysroot -/

/-- The file of a uid in the user information directory begins with the root. -/
def InfoInside (root : Str) (userinfoDir : Option Str) (uid : UInt32) : Prop :=
  ∀ dir, userinfoDir = some dir →
    Paths.Begins slash root ((dir ++ printedUid uid).take (gumdStrLen - 1))

/-- A home directory begins with the root. -/
def HomeInside (root : Str) (pwDir : Option DbString) : Prop :=
  ∀ dir, pwDir = some dir → Paths.Begins slash root dir.val

/-- The home directory of a new user is not the configured one: none is configured, or the validator
refuses it. -/
def HomeRefused (config : GumConfig) (u : GumdDaemonUser) : Prop :=
  gumConfigGetString config gumConfigGeneralHomeDirPref = none ∨
    gumValidateDbStringEntry (some (u.homedirPath config)) ≠ .ok ()

/-- The conditions under which a call writes below the sysroot only.  Each is about the object as it is
where the path is built; `Reaches` says that the call gets that far. -/
def CoreCall.StaysInside (source : ConfigSource) (env : Env) (root : Str) (w : World) :
    CoreCall → Prop
  | .userAdd self => ∀ s, Reaches (GumdDaemonUser.enterUser env) (· = s) self w →
      InfoInside root source.userinfoDir s.self.pw.pwUid ∧
      (s.self.usertype ≠ .system → HomeRefused env.config s.self →
        HomeInside root (setStringProperty (some (s.self.homedirPath env.config)) self.pw.pwDir))
  | .userUpdate self => ∀ s, Reaches (GumdDaemonUser.compareIcon env) (· = s) self w →
      InfoInside root source.userinfoDir s.self.pw.pwUid
  | .userDelete self remHomeDir =>
      (∀ s, Reaches (GumdDaemonUser.endSessions env) (· = s) self w →
        InfoInside root source.userinfoDir s.self.pw.pwUid) ∧
      (remHomeDir = true → ∀ s, Reaches (GumdDaemonUser.strikeGroups env) (· = s) self w →
        s.self.usertype ≠ .system → ∀ pent, w.seenPasswd self.pw = some pent →
          HomeInside root (setStringProperty (some pent.pwDir) self.pw.pwDir))
  | _ => True

theorem Reaches.iff {O : Type} {m : GumM O Bool} {P : St O → Prop} {self : O} {w : World} :
    Reaches m P self w ↔ ∃ s, Reaches m (· = s) self w ∧ P s := by
  constructor
  · rintro ⟨ok, holds⟩
    exact ⟨_, ⟨ok, rfl⟩, holds⟩
  · rintro ⟨s, ⟨ok, rfl⟩, holds⟩
    exact ⟨ok, holds⟩

section Sysroot

variable {source : ConfigSource} {root : Str} {env : Env} {pid : Nat} {w : World}

/-- The database files are below the sysroot. -/
theorem begins_database (built : source.sysroot = some root) (given : root ≠ []) {key dir path : Str}
    (database : key ∈ databaseKeys) (config : gumConfigGetString source.gumConfigNew key = some dir)
    (written : path ∈ updatePaths dir pid) : Paths.Begins slash root path := by
  have listed : key ∈ sysrootKeys := by
    have sub : ∀ key ∈ databaseKeys, key ∈ sysrootKeys := by decide +kernel
    exact sub key database
  exact begins_updatePaths (rooted_gumConfigNew built given key listed dir config) written

theorem begins_userinfo_iff (config : env.config = source.gumConfigNew) {uid : UInt32} :
    (∀ path, getUserinfoPath env.config uid = some path → Paths.Begins slash root path) ↔
      InfoInside root source.userinfoDir uid := by
  rw [getUserinfoPath, config, userinfoDir_gumConfigNew, InfoInside]
  cases source.userinfoDir with
  | none => exact ⟨fun _ dir none => (nomatch none), fun _ path none => (nomatch none)⟩
  | some dir =>
    constructor
    · rintro all dir' ⟨rfl⟩
      exact all _ rfl
    · rintro all path ⟨rfl⟩
      exact all _ rfl

/-- The configured home directory is below the sysroot. -/
theorem homeInside_of_accepted (built : source.sysroot = some root) (given : root ≠ [])
    (config : env.config = source.gumConfigNew) {u : GumdDaemonUser} {old : Option DbString}
    (accepted : ¬HomeRefused env.config u) :
    HomeInside root (setStringProperty (some (u.homedirPath env.config)) old) := by
  obtain ⟨set, valid⟩ := not_or.mp accepted
  obtain ⟨prefix', prefixed⟩ := Option.ne_none_iff_exists'.mp set
  have begins : Paths.Begins slash root prefix' :=
    rooted_gumConfigNew built given _ (by decide +kernel) prefix' (config ▸ prefixed)
  rintro dir same
  rw [setStringProperty_of_accepted (not_not.mp valid)] at same
  obtain rfl := Option.some.inj same
  change Paths.Begins slash root (u.homedirPath env.config)
  rw [GumdDaemonUser.homedirPath, prefixed, Option.getD_some, List.append_assoc]
  exact begins.append _

/-- The paths a call writes begin with the sysroot exactly if the user information file and the home
directory do where they can be elsewhere. -/
theorem coreCall_staysInside_iff (built : source.sysroot = some root) (given : root ≠ [])
    (config : env.config = source.gumConfigNew) (c : CoreCall) (pid : Nat) (w : World) :
    (∀ path, c.Touches env pid w path → Paths.Begins slash root path) ↔
      c.StaysInside source env root w := by
  have database : ∀ {key dir path : Str}, key ∈ databaseKeys →
      gumConfigGetString env.config key = some dir → path ∈ updatePaths dir pid →
      Paths.Begins slash root path := by
    intro key dir path listed stored written
    rw [config] at stored
    exact begins_database built given listed stored written
  cases c with
  | userAdd self =>
    constructor
    · intro all s reaches
      refine ⟨(begins_userinfo_iff config).mp fun path named => all path ?_, fun other refused => ?_⟩
      · exact .addedInfo (Reaches.iff.mpr ⟨s, reaches, named⟩)
      · intro dir set
        have home : s.self.pw.pwDir = some dir := by
          obtain ⟨ok, rfl⟩ := reaches
          exact (GumdDaemonUser.enterUser_home env ok other).trans set
        refine all dir.val (.addedHome (Reaches.iff.mpr ⟨s, reaches, other, ?_⟩))
        rw [home, ptr_some]
    · intro inside path touches
      cases touches with
      | database _ listed stored written => exact database listed stored written
      | addedInfo reaches =>
        obtain ⟨s, reaches, named⟩ := Reaches.iff.mp reaches
        exact (begins_userinfo_iff config).mpr (inside s reaches).1 path named
      | addedHome reached =>
        obtain ⟨s, reaches, other, named⟩ := Reaches.iff.mp reached
        have home : s.self.pw.pwDir =
            setStringProperty (some (s.self.homedirPath env.config)) self.pw.pwDir := by
          obtain ⟨ok, rfl⟩ := reaches
          exact GumdDaemonUser.enterUser_home env ok other
        obtain ⟨dir, own, rfl⟩ := Option.map_eq_some_iff.mp named
        by_cases refused : HomeRefused env.config s.self
        · exact (inside s reaches).2 other refused dir (home.symm.trans own)
        · exact homeInside_of_accepted built given config refused dir (home.symm.trans own)
  | userUpdate self =>
    constructor
    · intro all s reaches
      refine (begins_userinfo_iff config).mp fun path named => all path ?_
      exact .updatedInfo (Reaches.iff.mpr ⟨s, reaches, named⟩)
    · intro inside path touches
      cases touches with
      | database _ listed stored written => exact database listed stored written
      | updatedInfo reaches =>
        obtain ⟨s, reaches, named⟩ := Reaches.iff.mp reaches
        exact (begins_userinfo_iff config).mpr (inside s reaches) path named
  | userDelete self remHomeDir =>
    have found : ∀ {s}, Reaches (GumdDaemonUser.strikeGroups env) (· = s) self w →
        GumdDaemonUser.HomeFound w self s.self := by
      rintro s ⟨ok, rfl⟩
      exact GumdDaemonUser.strikeGroups_home env ok
    constructor
    · intro all
      refine ⟨fun s reaches => ?_, ?_⟩
      · refine (begins_userinfo_iff config).mp fun path named => all path ?_
        exact .deletedInfo (Reaches.iff.mpr ⟨s, reaches, named⟩)
      · rintro rfl s reaches other pent seen dir set
        have home : s.self.pw.pwDir = some dir := by
          obtain ⟨pent', seen', own⟩ := found reaches
          obtain rfl := Option.some.inj (seen.symm.trans seen')
          exact own.trans set
        refine all dir.val (.deletedHome (Reaches.iff.mpr ⟨s, reaches, other, ?_⟩))
        rw [home, ptr_some]
    · intro inside path touches
      cases touches with
      | database _ listed stored written => exact database listed stored written
      | deletedInfo reaches =>
        obtain ⟨s, reaches, named⟩ := Reaches.iff.mp reaches
        exact (begins_userinfo_iff config).mpr (inside.1 s reaches) path named
      | deletedHome reached =>
        obtain ⟨s, reaches, other, named⟩ := Reaches.iff.mp reached
        obtain ⟨pent, seen, own⟩ := found reaches
        obtain ⟨dir, home, rfl⟩ := Option.map_eq_some_iff.mp named
        exact inside.2 rfl s reaches other pent seen dir (own.symm.trans home)
  | _ =>
    refine iff_of_true (fun path touches => ?_) trivial
    cases touches with
    | database _ listed stored written => exact database listed stored written

end Sysroot

namespace Sample

/-- The configuration of an image, whose key file names the user information directory. -/
def imageSource : ConfigSource where
  defines :=
    { gumPasswdFile := str "/etc/passwd", gumShadowFile := str "/etc/shadow",
      gumGroupFile := str "/etc/group", gumGshadowFile := str "/etc/gshadow",
      gumHomeDirPrefix := str "/home", gumShell := str "/bin/bash", gumSkelDir := str "/etc/skel",
      gumDefGroups := [], gumDefAdminGroups := [], gumEncryptMethod := str "SHA512" }
  tzSysHome := none
  sysroot := some (str "/img")
  keyFile := some [(str "General", [(str "USERINFO_DIR", str "/var/lib/gumd/user/")])]

def imageEnv : Env := { env with config := imageSource.gumConfigNew }

theorem coreCall_staysInside_iff_bob :
    (∀ path, (CoreCall.userAdd addition.self).Touches imageEnv 1 addition.world path →
        Paths.Begins slash (str "/img") path) ↔
      (CoreCall.userAdd addition.self).StaysInside imageSource imageEnv (str "/img") addition.world :=
  coreCall_staysInside_iff rfl (by decide) rfl _ 1 _

/-- The information file of a new user is written to the host. -/
theorem userAdd_not_inside : ¬∀ path,
    (CoreCall.userAdd addition.self).Touches imageEnv 1 addition.world path →
      Paths.Begins slash (str "/img") path := by
  intro inside
  have outside := inside (str "/var/lib/gumd/user/1001")
    (.addedInfo ⟨by decide +kernel, by decide +kernel⟩)
  revert outside
  decide +kernel

end Sample

end Gumd
