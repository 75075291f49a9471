import Gumd.DaemonGroup

/-!
# `GumdDaemonUser`

The user object, its properties and its operations on the passwd and shadow files.
-/

namespace Gumd

open StateWp EntryLoop

/-! ## The object -/

/-- The `struct passwd` of an object. -/
structure PasswdRecord where
  pwName : Option ValidName
  pwPasswd : Option DbSecret
  pwUid : UInt32
  pwGid : UInt32
  pwGecos : Option Gecos
  pwDir : Option DbString
  pwShell : Option DbString
  deriving DecidableEq

/-- The `struct spwd` of an object. -/
structure SpwdRecord where
  spNamp : Option Str
  spPwdp : Option Str
  spLstchg : Int
  spMin : Int
  spMax : Int
  spWarn : Int
  spInact : Int
  spExpire : Int
  spFlag : UInt64
  deriving DecidableEq, Repr

structure GumdDaemonUser where
  nickName : Option DbString
  pw : PasswdRecord
  shadow : SpwdRecord
  icon : Option DbString
  deriving DecidableEq

abbrev UserM := GumM GumdDaemonUser

/-- `gumd_daemon_user_new`. -/
def gumdDaemonUserNew : GumdDaemonUser where
  nickName := none
  pw :=
    { pwName := none, pwPasswd := none, pwUid := gumUserInvalidUid, pwGid := gumGroupInvalidGid,
      pwGecos := none, pwDir := none, pwShell := none }
  shadow :=
    { spNamp := none, spPwdp := none, spLstchg := 0, spMin := 0, spMax := 0, spWarn := 0,
      spInact := 0, spExpire := 0, spFlag := 0 }
  icon := none

/-- `putpwent` rejects a record without a name and writes its other `NULL` fields as empty. -/
def PasswdRecord.putpwent (pw : PasswdRecord) : Option Passwd :=
  pw.pwName.map fun name =>
    { pwName := name.val, pwPasswd := (ptr pw.pwPasswd).getD [], pwUid := pw.pwUid,
      pwGid := pw.pwGid, pwGecos := (ptr pw.pwGecos).getD [], pwDir := (ptr pw.pwDir).getD [],
      pwShell := (ptr pw.pwShell).getD [] }

/-- `putspent` writes a `NULL` password as empty.  A record that is written has a name. -/
def SpwdRecord.putspent (sp : SpwdRecord) : Option Spwd :=
  sp.spNamp.map fun name =>
    { spNamp := name, spPwdp := sp.spPwdp.getD [], spLstchg := sp.spLstchg, spMin := sp.spMin,
      spMax := sp.spMax, spWarn := sp.spWarn, spInact := sp.spInact, spExpire := sp.spExpire,
      spFlag := sp.spFlag }

/-! ## Properties -/

/-- `_get_usertype_from_gecos`. -/
def getUsertypeFromGecos (pwGecos : Option Str) : GumUserType :=
  match pwGecos with
  | none => .none
  | some gecos =>
      gumUserTypeFromString
        (gumStringUtilsGetString (some gecos) comma GecosField.usertype.index)

/-- Put a string into one field of the gecos. -/
def insertGecosField (gecos : Option Gecos) (value : DbString) (field : GecosField) : Gecos :=
  ⟨(gumStringUtilsInsertString (ptr gecos) comma (some value.val) field.index gecosFieldCount).getD [],
    by rw [gumStringUtilsInsertString_gecos]; exact isGecos_insertedParts gecos value field⟩

theorem insertGecosField_val (gecos : Option Gecos) (value : DbString) (field : GecosField) :
    (insertGecosField gecos value field).val =
      gStrjoinv comma (insertedParts (gecosParts gecos) value.val field.index gecosFieldCount) :=
  congrArg (·.getD []) (gumStringUtilsInsertString_gecos gecos value field)

/-- The setters' rule for a text field of the gecos. -/
def setGecosText (field : GecosField) (value : Option Str) (gecos : Option Gecos) :
    Option Gecos :=
  if gStrcmp0 value (gumStringUtilsGetString (ptr gecos) comma field.index) ≠ 0 then
    match value with
    | none => gecos
    | some s =>
        if accepted : gumValidateDbStringEntry (some s) = .ok () then
          some (insertGecosField gecos ⟨s, accepted⟩ field)
        else gecos
  else gecos

/-- The names of the user types are accepted strings. -/
theorem accepted_gumUserTypeToString {type : UInt32} {name : Str}
    (known : gumUserTypeToString type = some name) :
    gumValidateDbStringEntry (some name) = .ok () := by
  have accepted : ∀ name ∈ userTypeStrings.map (·.2),
      gumValidateDbStringEntry (some name) = .ok () := by decide
  refine accepted name ?_
  simp only [gumUserTypeToString] at known
  split at known
  · exact absurd known (by simp)
  · obtain ⟨entry, at_index, rfl⟩ := Option.map_eq_some_iff.mp known
    exact List.mem_map_of_mem (List.mem_of_getElem? at_index)

/-- The setter's rule for the user type in the gecos. -/
def setGecosUsertype (value : UInt32) (gecos : Option Gecos) : Option Gecos :=
  if 0 < value ∧ value < gumUsertypeMaxValue then
    if (getUsertypeFromGecos (ptr gecos)).value ≠ value then
      match known : gumUserTypeToString value with
      | none => none
      | some name =>
          some (insertGecosField gecos ⟨name, accepted_gumUserTypeToString known⟩ .usertype)
    else gecos
  else gecos

/-- The text of one gecos field of a passwd entry. -/
def gecosFieldOf (pw : Passwd) (field : GecosField) : Option Str :=
  gumStringUtilsGetString (some pw.pwGecos) comma field.index

/-- The rule of `_update_gecos_field`: a field that is missing or empty is taken from the entry. -/
def mergeGecosField (src : Passwd) (field : GecosField) (gecos : Option Gecos) : Option Gecos :=
  match gumStringUtilsGetString (ptr gecos) comma field.index with
  | some (_ :: _) => gecos
  | _ =>
      match field with
      | .usertype => setGecosUsertype (gumUserTypeFromString (gecosFieldOf src field)).value gecos
      | _ => setGecosText field (gecosFieldOf src field) gecos

namespace GumdDaemonUser

def setUidProperty (value : UInt32) (self : GumdDaemonUser) : GumdDaemonUser :=
  { self with pw := { self.pw with pwUid := value } }

def setGidProperty (value : UInt32) (self : GumdDaemonUser) : GumdDaemonUser :=
  { self with pw := { self.pw with pwGid := value } }

def setUsertypeProperty (value : UInt32) (self : GumdDaemonUser) : GumdDaemonUser :=
  { self with pw := { self.pw with pwGecos := setGecosUsertype value self.pw.pwGecos } }

def setUsernameProperty (value : Option Str) (self : GumdDaemonUser) : GumdDaemonUser :=
  { self with pw := { self.pw with pwName := setStringProperty value self.pw.pwName } }

def setSecretProperty (value : Option Str) (self : GumdDaemonUser) : GumdDaemonUser :=
  { self with pw := { self.pw with pwPasswd := setStringProperty value self.pw.pwPasswd } }

def setNicknameProperty (value : Option Str) (self : GumdDaemonUser) : GumdDaemonUser :=
  { self with nickName := setStringProperty value self.nickName }

/-- `_set_realname_property`, `_set_office_property`, `_set_officephone_property` and
`_set_homephone_property`, which differ in the field. -/
def setGecosProperty (field : GecosField) (value : Option Str) (self : GumdDaemonUser) :
    GumdDaemonUser :=
  { self with pw := { self.pw with pwGecos := setGecosText field value self.pw.pwGecos } }

def setRealnameProperty := setGecosProperty .realname
def setOfficeProperty := setGecosProperty .office
def setOfficephoneProperty := setGecosProperty .officephone
def setHomephoneProperty := setGecosProperty .homephone

def setHomedirProperty (value : Option Str) (self : GumdDaemonUser) : GumdDaemonUser :=
  { self with pw := { self.pw with pwDir := setStringProperty value self.pw.pwDir } }

def setShellProperty (value : Option Str) (self : GumdDaemonUser) : GumdDaemonUser :=
  { self with pw := { self.pw with pwShell := setStringProperty value self.pw.pwShell } }

def setIconProperty (value : Option Str) (self : GumdDaemonUser) : GumdDaemonUser :=
  { self with icon := setStringProperty value self.icon }

/-! ## Copies -/

/-- `_copy_passwd_struct`. -/
def copyPasswdStruct (src : Passwd) (self : GumdDaemonUser) : GumdDaemonUser :=
  self
    |> setUsernameProperty (some src.pwName)
    |> setSecretProperty (some src.pwPasswd)
    |> setUidProperty src.pwUid
    |> setGidProperty src.pwGid
    |> setRealnameProperty (gecosFieldOf src .realname)
    |> setOfficeProperty (gecosFieldOf src .office)
    |> setOfficephoneProperty (gecosFieldOf src .officephone)
    |> setHomephoneProperty (gecosFieldOf src .homephone)
    |> setUsertypeProperty (getUsertypeFromGecos (some src.pwGecos)).value
    |> setHomedirProperty (some src.pwDir)
    |> setShellProperty (some src.pwShell)

/-- `_update_gecos_field`. -/
def updateGecosField (src : Passwd) (field : GecosField) (self : GumdDaemonUser) :
    GumdDaemonUser :=
  { self with pw := { self.pw with pwGecos := mergeGecosField src field self.pw.pwGecos } }

end GumdDaemonUser

/-- `_copy_shadow_struct`. -/
def copyShadowStruct (src : Spwd) (copyOnlyIfInvalid : Bool) (dest : SpwdRecord) : SpwdRecord where
  spNamp := if !copyOnlyIfInvalid || dest.spNamp.isNone then some src.spNamp else dest.spNamp
  spPwdp := if !copyOnlyIfInvalid || dest.spPwdp.isNone then some src.spPwdp else dest.spPwdp
  spLstchg := src.spLstchg
  spMin := src.spMin
  spMax := src.spMax
  spWarn := src.spWarn
  spInact := src.spInact
  spExpire := src.spExpire
  spFlag := src.spFlag

/-! ## The rewrite callbacks -/

/-- The error of a callback that edited nothing. -/
def operationIncomplete : GError := ⟨.fileWrite, "Operation did not complete"⟩

/-- The error of a failing `put*ent` after the loop. -/
def addEntryFailure : GError := ⟨.fileWrite, "Add entry failure"⟩

/-- `_update_passwd_entry`. -/
def updatePasswdEntry (self : GumdDaemonUser) (op : GumOpType) (userData : Option Str)
    (source : List Passwd) : Except GError (List Passwd) :=
  let put := self.pw.putpwent
  let visit (entry : Passwd) : Visit Passwd GError :=
    match op with
    | .add => if self.pw.pwUid < entry.pwUid then putVisit put .insert else .keep
    | .delete =>
        if self.pw.pwUid = entry.pwUid ∧ self.pw.pwGid = entry.pwGid ∧
            gStrcmp0 (ptr self.pw.pwName) (some entry.pwName) = 0 then .drop
        else .keep
    | .modify =>
        let oldName := userData.or (ptr self.pw.pwName)
        if self.pw.pwUid = entry.pwUid ∧ self.pw.pwGid = entry.pwGid ∧
            gStrcmp0 oldName (some entry.pwName) = 0 then putVisit put .replace
        else .keep
  finishUpdate op put addEntryFailure operationIncomplete (copyLoop visit false source)

/-- The exclamation mark in front of the password of a locked user. -/
def lockMark : UInt8 := 0x21

/-- `entry->sp_pwdp[0] == '!'`. -/
def Spwd.isLocked (entry : Spwd) : Bool := entry.spPwdp.head? == some lockMark

/-- The password `_lock_shadow_entry` writes; it is freed first, and `NULL` where the entry
already is as wanted. -/
def lockedPwdp (lock : Bool) (entry : Spwd) : Option Str :=
  if lock && !entry.isLocked then some (lockMark :: entry.spPwdp)
  else if !lock && entry.isLocked then some entry.spPwdp.tail
  else none

/-- The entry `_lock_shadow_entry` writes. -/
def Spwd.relock (lock : Bool) (entry : Spwd) : Spwd :=
  { entry with spPwdp := (lockedPwdp lock entry).getD [] }

/-- `_lock_shadow_entry`, always called with `GUM_OPTYPE_MODIFY` and the address of `lock`. -/
def lockShadowEntry (self : GumdDaemonUser) (lock : Bool) (source : List Spwd) :
    Except GError (List Spwd) :=
  let visit (entry : Spwd) : Visit Spwd GError :=
    if gStrcmp0 (ptr self.pw.pwName) (some entry.spNamp) = 0 then
      .replace (entry.relock lock)
    else .keep
  finishUpdate .modify none addEntryFailure operationIncomplete (copyLoop visit false source)

/-- `_update_shadow_entry`. -/
def updateShadowEntry (self : GumdDaemonUser) (op : GumOpType) (userData : Option Str)
    (source : List Spwd) : Except GError (List Spwd) :=
  let put := self.shadow.putspent
  let visit (entry : Spwd) : Visit Spwd GError :=
    match op with
    | .add =>
        if gStrcmp0 self.shadow.spNamp (some entry.spNamp) = 0 then
          .refuse ⟨.userAlreadyExists, "File write failure"⟩
        else .keep
    | .delete =>
        if gStrcmp0 self.shadow.spNamp (some entry.spNamp) = 0 then .drop else .keep
    | .modify =>
        let oldName := userData.or self.shadow.spNamp
        if gStrcmp0 oldName (some entry.spNamp) = 0 then putVisit put .replace else .keep
  finishUpdate op put addEntryFailure operationIncomplete (copyLoop visit false source)

/-! ## Steps of the operations -/

/-- The basic checks `_get_passwd` makes on the entry it found. -/
def PasswdRecord.agrees (pw : PasswdRecord) (entry : Passwd) : Bool :=
  (pw.pwUid = gumUserInvalidUid ∨ pw.pwUid = entry.pwUid) ∧
    (pw.pwName.isNone ∨ gStrcmp0 (ptr pw.pwName) (some entry.pwName) = 0)

namespace GumdDaemonUser

/-- `_get_usertype_from_gecos` of an object. -/
def usertype (self : GumdDaemonUser) : GumUserType := getUsertypeFromGecos (ptr self.pw.pwGecos)

/-- A name without a real name becomes the real name as well. -/
def setMissingRealname (self : GumdDaemonUser) : GumdDaemonUser :=
  if (gumStringUtilsGetString (ptr self.pw.pwGecos) comma 0).isNone then
    self.setRealnameProperty (ptr self.pw.pwName)
  else self

/-- `_set_daemon_user_name`. -/
def setDaemonUserName (env : Env) : UserM Bool := do
  let self ← getSelf
  if self.pw.pwName.isNone ∧ self.nickName.isNone then
    return ← gumReturnWithError ⟨.invalidName, "User name not specified"⟩ false
  if self.pw.pwName.isSome then
    if !(← gumReturnValidated (gumValidateName (ptr self.pw.pwName))) then return false
    modifySelf setMissingRealname
    return true
  if self.usertype = .system then
    return ← gumReturnWithError ⟨.invalidName, "System user name must exist with pattern " ++
      gumNamePattern⟩ false
  match gumValidateGenerateUsername env.md5 (ptr self.nickName) with
  | .error e => gumReturnWithError e false
  | .ok tname =>
      modifySelf (setUsernameProperty (some tname))
      if (← getSelf).pw.pwName.isNone then return false
      modifySelf setMissingRealname
      return true

/-- `_get_default_uid_range`. -/
def getDefaultUidRange (config : GumConfig) (ut : GumUserType) : Option (UInt32 × UInt32) :=
  let min := gumConfigGetUint config
    (match ut with
      | .system => gumConfigGeneralSysUidMin
      | .security => gumConfigGeneralSecUidMin
      | _ => gumConfigGeneralUidMin) gumUserInvalidUid
  let max := gumConfigGetUint config
    (match ut with
      | .system => gumConfigGeneralSysUidMax
      | .security => gumConfigGeneralSecUidMax
      | _ => gumConfigGeneralUidMax) gumUserInvalidUid
  if min < max then some (min, max) else none

/-- `_find_free_uid`. -/
def findFreeUid (config : GumConfig) : UserM (Option (Option UInt32)) := do
  match getDefaultUidRange config (← getSelf).usertype with
  | none => return some none
  | some (uidMin, uidMax) => findFreeLoop gumFileGetpwuid uidMax idCount uidMin

/-- `"%s/%s"` of the home directory prefix and the name. -/
def homedirPath (config : GumConfig) (self : GumdDaemonUser) : Str :=
  (gumConfigGetString config gumConfigGeneralHomeDirPref).getD (str "(null)") ++ str "/" ++
    (ptr self.pw.pwName).getD (str "(null)")

/-- `_set_uid`.  A search that never ends is taken as one that finds no id. -/
def setUid (env : Env) : UserM Bool := do
  if !(← setDaemonUserName env) then return false
  if (← gumFileGetpwnam (ptr (← getSelf).pw.pwName)).isSome then
    return ← gumReturnWithError ⟨.userAlreadyExists, "User already exists"⟩ false
  match (← findFreeUid env.config).join with
  | none => gumReturnWithError ⟨.userUidNotAvailable, "UID not available"⟩ false
  | some uid =>
      modifySelf (setUidProperty uid)
      if (← getSelf).usertype ≠ .system then
        modifySelf fun self => self.setHomedirProperty (some (homedirPath env.config self))
      return true

/-- The password field of a user without a secret. -/
def defaultPwdp (ut : GumUserType) : Str :=
  match ut with
  | .system => str "*"
  | .guest => []
  | _ => str "!"

/-- `_set_secret`. -/
def setSecret (env : Env) : UserM Bool := do
  let self ← getSelf
  match self.pw.pwPasswd with
  | none =>
      modifySelf fun self =>
        setSecretProperty (some (str "x"))
          { self with shadow := { self.shadow with spPwdp := some (defaultPwdp self.usertype) } }
      return true
  | some secret =>
      let spPwdp := gumCryptEncryptSecret env.crypt env.urandom secret.val
        (gumConfigGetString env.config gumConfigGeneralEncryptMethod)
      modifySelf fun self => { self with shadow := { self.shadow with spPwdp := spPwdp } }
      if spPwdp.isNone then
        return ← gumReturnWithError
          ⟨.userSecretEncryptFailure, "Secret encryption failed."⟩ false
      -- the plain secret is cleared in place before the marker replaces it
      modifySelf fun self =>
        setSecretProperty (some (str "x"))
          { self with pw := { self.pw with pwPasswd := some emptySecret } }
      return true

/-- `time (0) / GUMD_DAY`; day zero would require a password change, so aging is disabled. -/
def lastChange (time : Int) : Int := if time.tdiv 86400 = 0 then -1 else time.tdiv 86400

/-- `_set_shadow_data`. -/
def setShadowData (env : Env) : UserM Bool := do
  modifySelf fun self =>
    { self with shadow := { self.shadow with spNamp := ptr self.pw.pwName } }
  if !(← setSecret env) then return false
  modifySelf fun self =>
    { self with shadow :=
      { self.shadow with
        spLstchg := lastChange env.time
        spMin := gumConfigGetInt env.config gumConfigGeneralPassMinDays (-1)
        spMax := gumConfigGetInt env.config gumConfigGeneralPassMaxDays (-1)
        spWarn := gumConfigGetInt env.config gumConfigGeneralPassWarnAge (-1)
        spInact := -1
        spExpire := -1
        spFlag := 0xffffffffffffffff } }
  return true

/-- The group `_set_group` creates. -/
def primaryGroup (config : GumConfig) (self : GumdDaemonUser) : GumdDaemonGroup :=
  gumdDaemonGroupNew
    |>.setGroupnameProperty
      ((gumConfigGetString config gumConfigGeneralUsrPrimaryGrpname).or (ptr self.pw.pwName))
    |>.setGrouptypeProperty
      (if self.usertype = .system then gumGrouptypeSystem else gumGrouptypeUser)

/-- `_set_group`: the configured primary group if it exists, else a new group. -/
def setGroup (env : Env) : UserM Bool := do
  let self ← getSelf
  match ← gumFileGetgrnam
      (gumConfigGetString env.config gumConfigGeneralUsrPrimaryGrpname) with
  | some grp =>
      modifySelf (setGidProperty grp.grGid)
      return true
  | none =>
      let (gid, _) ← runOn (self.primaryGroup env.config)
        (GumdDaemonGroup.gumdDaemonGroupAdd env self.pw.pwUid)
      match gid with
      | none => return false
      | some gid =>
          modifySelf (setGidProperty gid)
          return true

/-- The loop of `_set_default_groups`; it returns whether the last group was joined. -/
def joinGroups (uid : UInt32) : Bool → List Str → StateM World Bool
  | added, [] => return added
  | _, name :: rest => do
      let group := gumdDaemonGroupNew.setGroupnameProperty (some name)
      let (added, _) ← runOn group (GumdDaemonGroup.gumdDaemonGroupAddMember uid false)
      joinGroups uid added rest

/-- `_set_default_groups`. -/
def setDefaultGroups (env : Env) : UserM Bool := do
  let self ← getSelf
  if self.usertype = .system then return true
  let defGroups := gumConfigGetString env.config
    (if self.usertype = .admin then gumConfigGeneralDefAdminGroups
      else gumConfigGeneralDefUsrGroups)
  joinGroups self.pw.pwUid true ((defGroups.map (gStrsplit · comma)).getD [])

/-- The result of a home directory function. -/
def returnOutcome (outcome : Option GError) : StateM World Bool :=
  match outcome with
  | none => return true
  | some e => gumReturnWithError e false

/-- `_create_home_dir`. -/
def createHomeDir (env : Env) : UserM Bool := do
  let self ← getSelf
  if self.usertype = .system then return true
  returnOutcome (env.createHomeDir (ptr self.pw.pwDir) self.pw.pwUid self.pw.pwGid
    (gumConfigGetUint env.config gumConfigGeneralUmask gumUmask))

/-- `_delete_home_dir`. -/
def deleteHomeDir (env : Env) : UserM Bool := do
  let self ← getSelf
  if self.usertype = .system then return true
  returnOutcome (env.deleteHomeDir (ptr self.pw.pwDir))

/-- `_delete_group`. -/
def deleteGroup (env : Env) : UserM Bool := do
  let group := gumdDaemonGroupNew.setGidProperty (← getSelf).pw.pwGid
  let (deleted, _) ← runOn group (GumdDaemonGroup.gumdDaemonGroupDelete env)
  return deleted

/-! ## The user information file -/

/-- `_get_userinfo_path` fails without a configured directory.  The path is the directory followed
by the uid of the object, so the file is named by that uid. -/
def hasUserinfoPath (config : GumConfig) : Bool :=
  (gumConfigGetString config gumConfigGeneralUserinfoDir).isSome

/-- Write or remove the file of the object's uid; a failure is only logged. -/
def writeUserinfo (info : Option Userinfo) : UserM Bool := do
  let s ← get
  let faults := { s.world.faults with write := s.world.faults.write.tail }
  let files := { s.world.files with
    userinfo := Function.update s.world.files.userinfo s.self.pw.pwUid info }
  if (s.world.faults.write.head).isSome then
    set { s with world := { s.world with faults := faults } }
    return false
  set { s with world := { s.world with faults := faults, files := files } }
  return true

/-- `_delete_userinfo`. -/
def deleteUserinfo (config : GumConfig) : UserM Unit := do
  if hasUserinfoPath config then
    let _ ← writeUserinfo none

/-- `_add_userinfo`. -/
def addUserinfo (config : GumConfig) : UserM Bool := do
  if !hasUserinfoPath config then return false
  writeUserinfo (some { icon := ptr (← getSelf).icon })

/-- `_get_userinfo`: the icon, empty if the file has none, `NULL` if there is no file. -/
def getUserinfo (config : GumConfig) : UserM (Option Str) := do
  if !hasUserinfoPath config then return none
  let uid := (← getSelf).pw.pwUid
  match ← gumFileLookup openShadowFile (·.userinfo uid) with
  | none => return none
  | some info => return some (info.icon.getD [])

/-- `_update_userinfo`: an icon is written over the loaded file. -/
def updateUserinfo (config : GumConfig) (icon : Option Str) : UserM Bool := do
  if !hasUserinfoPath config then return false
  let uid := (← getSelf).pw.pwUid
  let loaded ← gumFileLookup openShadowFile (·.userinfo uid)
  writeUserinfo (some { icon := icon.or (loaded.bind (·.icon)) })

/-! ## Loading -/

/-- `_get_passwd`: by uid, then by name, and the found entry must agree with both. -/
def getPasswd : UserM (Option Passwd) := do
  let pw := (← getSelf).pw
  let byUid ← lookupIf (pw.pwUid ≠ gumUserInvalidUid) (gumFileGetpwuid pw.pwUid) none
  let pwd ← lookupIf (pw.pwName.isSome ∧ byUid.isNone) (gumFileGetpwnam (ptr pw.pwName)) byUid
  match pwd.filter pw.agrees with
  | some entry => return some entry
  | none => gumReturnWithError ⟨.userNotFound, "User not found"⟩ none

/-- What `_copy_passwd_data` takes from the entries and the information file. -/
def copyPasswdEntries (pent : Passwd) (spent : Spwd) (icon : Option Str) (self : GumdDaemonUser) :
    GumdDaemonUser :=
  let self := self.copyPasswdStruct pent
  let self := { self with shadow := copyShadowStruct spent false self.shadow }
  self.setIconProperty icon

/-- `_copy_passwd_data`. -/
def copyPasswdData (env : Env) : UserM Bool := do
  match ← getPasswd with
  | none => return false
  | some pent =>
      match ← gumFileGetspnam (some pent.pwName) with
      | none => gumReturnWithError ⟨.userNotFound, "User not found"⟩ false
      | some spent =>
          let icon ← getUserinfo env.config
          modifySelf (copyPasswdEntries pent spent icon)
          return true

/-! ## Operations -/

def updatePasswdFile (op : GumOpType) (userData : Option Str) : UserM Bool := do
  gumFileUpdate passwdFile (updatePasswdEntry (← getSelf) op userData)

def updateShadowFile (op : GumOpType) (userData : Option Str) : UserM Bool := do
  gumFileUpdate shadowFile (updateShadowEntry (← getSelf) op userData)

/-- The shell a new user gets if none is set. -/
def setMissingShell (config : GumConfig) (self : GumdDaemonUser) : GumdDaemonUser :=
  if self.pw.pwShell.isNone then
    self.setShellProperty (gumConfigGetString config
      (if self.usertype = .security then gumConfigGeneralSecShell else gumConfigGeneralShell))
  else self

/-- `gumd_daemon_user_add`; the uid it reports is that of the object. -/
def gumdDaemonUserAdd (env : Env) : UserM (Option UInt32) := do
  if (← getSelf).usertype = .none then
    return ← gumReturnWithError ⟨.userInvalidUserType, "Invalid user type"⟩ none
  modifySelf (setMissingShell env.config)
  if !(← gumLockPwdfLock) then
    return ← gumReturnWithError ⟨.dbAlreadyLocked, "Database already locked"⟩ none
  if !(← setUid env) then return ← unlockReturn none
  if !(← setGroup env) then return ← unlockReturn none
  if !(← setShadowData env) then return ← unlockReturn none
  if !(← updatePasswdFile .add none) then return ← unlockReturn none
  if !(← updateShadowFile .add none) then return ← unlockReturn none
  let _ ← addUserinfo env.config
  let _ ← setDefaultGroups env
  if !(← createHomeDir env) then return ← unlockReturn none
  unlockReturn (some (← getSelf).pw.pwUid)

/-- `_terminate_user`: the error of `TerminateUser` counts only if the user is still logged in
afterwards. -/
def terminateUser (logind : Logind) : Bool :=
  if !logind.reachable then false
  else if logind.isUserLoggedIn then logind.terminateUser || !logind.isStillLoggedIn
  else true

/-- The rewrite of the shadow file that locks or unlocks the user. -/
def lockUser (lock : Bool) : UserM Bool := do
  let self ← getSelf
  withNullError (gumFileUpdate shadowFile (lockShadowEntry self lock))

/-- The rewrites of the passwd and shadow files that remove the user. -/
def deleteEntries : UserM Bool := do
  if !(← updatePasswdFile .delete none) then return false
  updateShadowFile .delete none

/-- What is left of `gumd_daemon_user_delete` when the user's sessions have ended; the caller
releases the lock. -/
def removeUser (env : Env) (remHomeDir : Bool) : UserM Bool := do
  deleteUserinfo env.config
  if !(← deleteEntries) then
    let _ ← lockUser false
    return false
  if !(← deleteGroup env) then return false
  if !(← gumdDaemonGroupDeleteUserMembership (ptr (← getSelf).pw.pwName)) then return false
  if remHomeDir then deleteHomeDir env else return true

def gumdDaemonUserDelete (env : Env) (remHomeDir : Bool) : UserM Bool := do
  if !(← gumLockPwdfLock) then
    return ← gumReturnWithError ⟨.dbAlreadyLocked, "Database already locked"⟩ false
  if (← getSelf).pw.pwUid = gumUserInvalidUid then
    return ← unlockReturnWithError ⟨.userNotFound, "User uid invalid"⟩ false
  if !(← copyPasswdData env) then
    return ← unlockReturnWithError ⟨.userNotFound, "User not found"⟩ false
  let s ← get
  if s.self.pw.pwUid = s.world.process.euid then
    return ← unlockReturnWithError ⟨.userSelfDestruction, "Self-destruction not possible"⟩ false
  if !(← lockUser true) then
    return ← unlockReturnWithError ⟨.userLockFailure, "unable to lock user to login"⟩ false
  if !terminateUser env.logind then
    let _ ← lockUser false
    return ← unlockReturnWithError
      ⟨.userSessionTermFailure, "unable to terminate user active sessions"⟩ false
  unlockReturn (← removeUser env remHomeDir)

/-- What `gumd_daemon_user_update` takes from the entries it found before it looks at the
secret. -/
def mergeEntries (pw : Passwd) (shadow : Spwd) (self : GumdDaemonUser) : GumdDaemonUser :=
  { self with shadow := copyShadowStruct shadow true self.shadow }
    |> setUsernameProperty (some pw.pwName)
    |> setUidProperty pw.pwUid
    |> setGidProperty pw.pwGid
    |> setHomedirProperty (some pw.pwDir)
    |> updateGecosField pw .realname
    |> updateGecosField pw .office
    |> updateGecosField pw .officephone
    |> updateGecosField pw .homephone
    |> updateGecosField pw .usertype

/-- Whether the object's secret is a new one. -/
def secretChanged (env : Env) (self : GumdDaemonUser) : Bool :=
  self.pw.pwPasswd.isSome ∧ gStrcmp0 (ptr self.pw.pwPasswd) (some (str "x")) ≠ 0 ∧
    gumCryptCmpSecret env.crypt (ptr self.pw.pwPasswd) self.shadow.spPwdp ≠ 0

/-- Whether the object's gecos differs from the entry's. -/
def gecosChanged (pw : Passwd) (self : GumdDaemonUser) : Bool :=
  self.pw.pwGecos.isSome ∧ gStrcmp0 (some pw.pwGecos) (ptr self.pw.pwGecos) ≠ 0

/-- Whether the user type of the object's gecos differs from the entry's. -/
def usertypeChanged (pw : Passwd) (self : GumdDaemonUser) : Bool :=
  gStrcmp0 (gumStringUtilsGetString (ptr self.pw.pwGecos) comma GecosField.usertype.index)
    (gecosFieldOf pw .usertype) ≠ 0

def shellChanged (pw : Passwd) (self : GumdDaemonUser) : Bool :=
  self.pw.pwShell.isSome ∧ gStrcmp0 (some pw.pwShell) (ptr self.pw.pwShell) ≠ 0

/-- Whether the object has an icon that differs from the one in the information file. -/
def iconChanged (icon : Option Str) (self : GumdDaemonUser) : Bool :=
  self.icon.isSome ∧ gStrcmp0 icon (ptr self.icon) ≠ 0

/-- The update of the information file; it returns whether the icon has changed. -/
def updateIcon (env : Env) : UserM Bool := do
  let changed := iconChanged (← getUserinfo env.config) (← getSelf)
  if changed then
    let _ ← updateUserinfo env.config (ptr (← getSelf).icon)
  return changed

/-- The secret of an update: a new one is encrypted, and otherwise the entry's is kept. -/
def updateSecret (env : Env) (pw : Passwd) : UserM Bool := do
  if secretChanged env (← getSelf) then setSecret env
  else
    modifySelf (setSecretProperty (some pw.pwPasswd))
    return true

def gumdDaemonUserUpdate (env : Env) : UserM Bool := do
  if !(← gumLockPwdfLock) then
    return ← gumReturnWithError ⟨.dbAlreadyLocked, "Database already locked"⟩ false
  if (← getSelf).pw.pwUid = gumUserInvalidUid then
    return ← unlockReturnWithError ⟨.userNotFound, "User uid invalid"⟩ false
  match ← getPasswd with
  | none => unlockReturn false
  | some pw =>
      match ← gumFileGetspnam (some pw.pwName) with
      | none => unlockReturnWithError ⟨.userNotFound, "User not found in Shadow"⟩ false
      | some shadow =>
          let iconChange ← updateIcon env
          modifySelf (mergeEntries pw shadow)
          let secretChange := secretChanged env (← getSelf)
          if !(← updateSecret env pw) then return ← unlockReturn false
          let gecosChange := gecosChanged pw (← getSelf)
          if gecosChange ∧ usertypeChanged pw (← getSelf) then
            return ← unlockReturnWithError
              ⟨.userInvalidUserType, "User type cannot be updated"⟩ false
          if !iconChange ∧ !secretChange ∧ !gecosChange ∧ !shellChanged pw (← getSelf) then
            return ← unlockReturnWithError ⟨.userNoChanges, "No changes registered"⟩ false
          let oldName := some pw.pwName
          if !(← updatePasswdFile .modify oldName) then return ← unlockReturn false
          if !(← updateShadowFile .modify oldName) then return ← unlockReturn false
          unlockReturn true

end GumdDaemonUser

/-- `gumd_daemon_user_new_by_uid` and `gumd_daemon_user_new_by_name`: load an object that has only
the key set. -/
def loadUser (env : Env) (object : GumdDaemonUser) : StateM World (Option GumdDaemonUser) := do
  if !(← gumLockPwdfLock) then return none
  let (copied, usr) ← withNullError (runOn object (GumdDaemonUser.copyPasswdData env))
  let _ ← gumLockPwdfUnlock
  return if copied then some usr else none

def gumdDaemonUserNewByUid (env : Env) (uid : UInt32) : StateM World (Option GumdDaemonUser) :=
  loadUser env (gumdDaemonUserNew.setUidProperty uid)

def gumdDaemonUserNewByName (env : Env) (username : Option Str) :
    StateM World (Option GumdDaemonUser) :=
  match username with
  | none => return none
  | some name => loadUser env (gumdDaemonUserNew.setUsernameProperty (some name))

/-- `gumd_daemon_user_get_uid_by_name`. -/
def gumdDaemonUserGetUidByName (username : Option Str) : StateM World UInt32 := do
  match username with
  | none => return gumUserInvalidUid
  | some name =>
      if !(← gumLockPwdfLock) then return gumUserInvalidUid
      let pwd ← gumFileGetpwnam (some name)
      let _ ← gumLockPwdfUnlock
      return (pwd.map (·.pwUid)).getD gumUserInvalidUid

/-- The user types `gumd_daemon_user_get_user_list` lists; without any, all but security users. -/
def listedTypes (types : Option (List Str)) : UInt32 :=
  if types.getD [] = [] then
    GumUserType.system.value ||| GumUserType.admin.value ||| GumUserType.guest.value |||
      GumUserType.normal.value
  else gumUserTypeFromStrv types

/-- The type an entry counts for: without one in the gecos, the uid tells the system users. -/
def listedType (config : GumConfig) (pent : Passwd) : GumUserType :=
  let sysUidMin := gumConfigGetUint config gumConfigGeneralSysUidMin gumUserInvalidUid
  let sysUidMax := gumConfigGetUint config gumConfigGeneralSysUidMax gumUserInvalidUid
  let ut := getUsertypeFromGecos (some pent.pwGecos)
  if ut = .none ∧ sysUidMin ≤ pent.pwUid ∧ pent.pwUid ≤ sysUidMax then .system else ut

/-- `gumd_daemon_user_get_user_list`. -/
def gumdDaemonUserGetUserList (config : GumConfig) (types : Option (List Str)) :
    StateM World (Option (List UInt32)) := do
  let inTypes := listedTypes types
  if inTypes = GumUserType.none.value then
    return ← gumReturnWithError ⟨.userInvalidUserType, "Invalid user type specified"⟩ none
  if !(← gumLockPwdfLock) then
    return ← gumReturnWithError ⟨.dbAlreadyLocked, "Database already locked"⟩ none
  if !(← openFile) then
    let _ ← gumLockPwdfUnlock
    return ← gumReturnWithError ⟨.fileOpen, "Opening passwd file failed"⟩ none
  let listed := (← get).files.passwd.filter fun pent =>
    (listedType config pent).value &&& inTypes ≠ 0
  let _ ← gumLockPwdfUnlock
  return some (listed.map (·.pwUid))

end Gumd
