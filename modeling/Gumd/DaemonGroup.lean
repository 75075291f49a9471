import Gumd.Crypt
import Gumd.Operation

/-!
# `GumdDaemonGroup`

The group object, its properties and its operations on the group and gshadow files.
-/

namespace Gumd

open StateWp EntryLoop

/-! ## The object -/

/-- The `struct group` of an object. -/
structure GroupRecord where
  grName : Option ValidName
  grPasswd : Option DbSecret
  grGid : UInt32
  grMem : Option (List Str)
  deriving DecidableEq

/-- The `struct sgrp` of an object. -/
structure SgrpRecord where
  sgNamp : Option Str
  sgPasswd : Option Str
  sgAdm : Option (List Str)
  sgMem : Option (List Str)
  deriving DecidableEq, Repr

structure GumdDaemonGroup where
  groupType : UInt32
  group : GroupRecord
  gshadow : SgrpRecord
  deriving DecidableEq

abbrev GroupM := GumM GumdDaemonGroup

/-- `gumd_daemon_group_new`. -/
def gumdDaemonGroupNew : GumdDaemonGroup where
  groupType := 0
  group := { grName := none, grPasswd := none, grGid := gumGroupInvalidGid, grMem := none }
  gshadow := { sgNamp := none, sgPasswd := none, sgAdm := none, sgMem := none }

/-- `putgrent` rejects a record without a name and writes its other `NULL` fields as empty. -/
def GroupRecord.putgrent (gr : GroupRecord) : Option Group :=
  gr.grName.map fun name =>
    { grName := name.val, grPasswd := (ptr gr.grPasswd).getD [], grGid := gr.grGid,
      grMem := gr.grMem.getD [] }

/-- `putsgent` rejects a record without a name and writes its other `NULL` fields as empty. -/
def SgrpRecord.putsgent (sg : SgrpRecord) : Option Sgrp :=
  sg.sgNamp.map fun name =>
    { sgNamp := name, sgPasswd := sg.sgPasswd.getD [], sgAdm := sg.sgAdm.getD [],
      sgMem := sg.sgMem.getD [] }

/-! ## Properties

A string property is written if the value differs from the old one and the validator accepts
it. -/

/-- The setters' rule for a string field with a validator. -/
def setStringProperty {p : Str → Prop} [DecidablePred p] (value : Option Str)
    (old : Option (Subtype p)) : Option (Subtype p) :=
  if gStrcmp0 value (ptr old) ≠ 0 then
    match value with
    | none => old
    | some s => if accepted : p s then some ⟨s, accepted⟩ else old
  else old

namespace GumdDaemonGroup

def setGidProperty (value : UInt32) (self : GumdDaemonGroup) : GumdDaemonGroup :=
  { self with group := { self.group with grGid := value } }

def setGrouptypeProperty (value : UInt32) (self : GumdDaemonGroup) : GumdDaemonGroup :=
  { self with groupType := value }

def setGroupnameProperty (value : Option Str) (self : GumdDaemonGroup) : GumdDaemonGroup :=
  { self with group := { self.group with grName := setStringProperty value self.group.grName } }

def setSecretProperty (value : Option Str) (self : GumdDaemonGroup) : GumdDaemonGroup :=
  { self with
    group := { self.group with grPasswd := setStringProperty value self.group.grPasswd } }

/-! ## Copies -/

/-- `_copy_group_prop`. -/
def copyGroupProp (src : Group) (self : GumdDaemonGroup) : GumdDaemonGroup :=
  let dest := ((self.setGroupnameProperty (some src.grName)).setGidProperty src.grGid)
    |>.setSecretProperty (some src.grPasswd)
  { dest with group := { dest.group with grMem := some src.grMem } }

end GumdDaemonGroup

/-- `_copy_gshadow_struct`; nothing is copied from a missing entry. -/
def copyGshadowStruct (src : Option Sgrp) (copyOnlyIfInvalid : Bool) (dest : SgrpRecord) :
    SgrpRecord :=
  match src with
  | none => dest
  | some src =>
      { sgNamp := if !copyOnlyIfInvalid || dest.sgNamp.isNone then some src.sgNamp
          else dest.sgNamp
        sgPasswd := if !copyOnlyIfInvalid || dest.sgPasswd.isNone then some src.sgPasswd
          else dest.sgPasswd
        sgAdm := if !copyOnlyIfInvalid || dest.sgAdm.isNone then some src.sgAdm
          else dest.sgAdm
        sgMem := if !copyOnlyIfInvalid || dest.sgMem.isNone then some src.sgMem
          else dest.sgMem }

/-! ## The rewrite callbacks -/

/-- `_update_daemon_group_entry`. -/
def updateDaemonGroupEntry (self : GumdDaemonGroup) (op : GumOpType) (userData : Option Str)
    (source : List Group) : Except GError (List Group) :=
  let put := self.group.putgrent
  let visit (entry : Group) : Visit Group GError :=
    match op with
    | .add => if self.group.grGid < entry.grGid then putVisit put .insert else .keep
    | .delete =>
        if self.group.grGid = entry.grGid ∧
            gStrcmp0 (ptr self.group.grName) (some entry.grName) = 0 then .drop
        else .keep
    | .modify =>
        let oldName := userData.or (ptr self.group.grName)
        if self.group.grGid = entry.grGid ∧ gStrcmp0 oldName (some entry.grName) = 0 then
          putVisit put .replace
        else .keep
  finishUpdate op put fileWriteFailure fileWriteFailure (copyLoop visit false source)

/-- `_update_gshadow_entry`. -/
def updateGshadowEntry (self : GumdDaemonGroup) (op : GumOpType) (userData : Option Str)
    (source : List Sgrp) : Except GError (List Sgrp) :=
  let put := self.gshadow.putsgent
  let visit (entry : Sgrp) : Visit Sgrp GError :=
    match op with
    | .add =>
        if gStrcmp0 self.gshadow.sgNamp (some entry.sgNamp) = 0 then
          .refuse ⟨.groupAlreadyExists, "Group already exists"⟩
        else .keep
    | .delete =>
        if gStrcmp0 self.gshadow.sgNamp (some entry.sgNamp) = 0 then .drop else .keep
    | .modify =>
        let oldName := userData.or self.gshadow.sgNamp
        if gStrcmp0 oldName (some entry.sgNamp) = 0 then putVisit put .replace else .keep
  finishUpdate op put fileWriteFailure fileWriteFailure (copyLoop visit false source)

/-! ## Steps of the operations -/

/-- `_get_default_gid_range`. -/
def getDefaultGidRange (config : GumConfig) (self : GumdDaemonGroup) : Option (UInt32 × UInt32) :=
  let system := self.groupType = gumGrouptypeSystem
  let min := gumConfigGetUint config
    (if system then gumConfigGeneralSysGidMin else gumConfigGeneralGidMin) gumGroupInvalidGid
  let max := gumConfigGetUint config
    (if system then gumConfigGeneralSysGidMax else gumConfigGeneralGidMax) gumGroupInvalidGid
  if min < max then some (min, max) else none

/-- The loop that selects the first id no entry has.  `none` is the loop still running when the
fuel is used up: the 32-bit counter wraps around at the largest id. -/
def findFreeLoop {ε : Type} (lookup : UInt32 → StateM World (Option ε)) (idMax : UInt32) :
    Nat → UInt32 → StateM World (Option (Option UInt32))
  | 0, _ => return none
  | fuel + 1, tmpId => do
      if tmpId ≤ idMax then
        if (← lookup tmpId).isNone then return some (some tmpId)
        findFreeLoop lookup idMax fuel (tmpId + 1)
      else return some none

/-- The number of ids; no loop that ends takes longer. -/
def idCount : Nat := 4294967296

/-- `_find_free_gid`. -/
def findFreeGid (config : GumConfig) (preferredGid : UInt32) : GroupM (Option (Option UInt32)) := do
  if preferredGid ≠ gumGroupInvalidGid then
    if (← gumFileGetgrgid preferredGid).isNone then return some (some preferredGid)
  match getDefaultGidRange config (← getSelf) with
  | none => return some none
  | some (gidMin, gidMax) => findFreeLoop gumFileGetgrgid gidMax idCount gidMin

/-- The error a validator leaves behind. -/
def gumReturnValidated (result : Except GError Unit) : StateM World Bool :=
  match result with
  | .ok () => return true
  | .error e => gumReturnWithError e false

/-- The basic checks `_get_group` makes on the entry it found. -/
def GroupRecord.agrees (group : GroupRecord) (entry : Group) : Bool :=
  (group.grGid = gumGroupInvalidGid ∨ group.grGid = entry.grGid) ∧
    (group.grName.isNone ∨ gStrcmp0 (ptr group.grName) (some entry.grName) = 0)

namespace GumdDaemonGroup

/-- `_set_gid`.  A search that never ends is taken as one that finds no id. -/
def setGid (config : GumConfig) (preferredGid : UInt32) : GroupM Bool := do
  let name := ptr (← getSelf).group.grName
  if !(← gumReturnValidated (gumValidateName name)) then return false
  if (← gumFileGetgrnam name).isSome then
    return ← gumReturnWithError ⟨.groupAlreadyExists, "Group already exists"⟩ false
  match (← findFreeGid config preferredGid).join with
  | none => gumReturnWithError ⟨.groupGidNotAvailable, "GID not available"⟩ false
  | some gid =>
      modifySelf (setGidProperty gid)
      return true

/-- `_set_secret`. -/
def setSecret (env : Env) : GroupM Bool := do
  let self ← getSelf
  match self.group.grPasswd with
  | none =>
      let sgPasswd := if self.groupType = gumGrouptypeSystem then str "*" else str "!"
      modifySelf fun self =>
        { self with
          group := { self.group with grPasswd := some secretMarker }
          gshadow := { self.gshadow with sgPasswd := some sgPasswd } }
      return true
  | some secret =>
      let sgPasswd := gumCryptEncryptSecret env.crypt env.urandom secret.val
        (gumConfigGetString env.config gumConfigGeneralEncryptMethod)
      modifySelf fun self => { self with gshadow := { self.gshadow with sgPasswd := sgPasswd } }
      if sgPasswd.isNone then
        return ← gumReturnWithError
          ⟨.groupSecretEncryptFailure, "Secret encryption failed."⟩ false
      -- the plain secret is cleared in place before the marker replaces it
      modifySelf fun self =>
        setSecretProperty (some (str "x"))
          { self with group := { self.group with grPasswd := some emptySecret } }
      return true

/-- `_set_gshadow_data`. -/
def setGshadowData (env : Env) : GroupM Bool := do
  modifySelf fun self =>
    { self with gshadow := { self.gshadow with sgNamp := ptr self.group.grName } }
  if !(← setSecret env) then return false
  modifySelf fun self => { self with gshadow := { self.gshadow with sgMem := self.group.grMem } }
  return true

/-- `_check_group_type`. -/
def checkGroupType : GroupM Bool := do
  let self ← getSelf
  if self.groupType = gumGrouptypeSystem ∨ self.groupType = gumGrouptypeUser then return true
  gumReturnWithError ⟨.groupInvalidGroupType, "Invalid group type"⟩ false

/-- `_get_group`: by gid, then by name, and the found entry must agree with both. -/
def getGroup : GroupM (Option Group) := do
  let group := (← getSelf).group
  let byGid ← lookupIf (group.grGid ≠ gumGroupInvalidGid) (gumFileGetgrgid group.grGid) none
  let grp ← lookupIf (group.grName.isSome ∧ byGid.isNone)
    (gumFileGetgrnam (ptr group.grName)) byGid
  match grp.filter group.agrees with
  | some entry => return some entry
  | none => gumReturnWithError ⟨.groupNotFound, "Group not found"⟩ none

/-- What `_copy_group_data` takes from the entries of the group and gshadow files. -/
def copyGroupEntries (gent : Group) (sgent : Option Sgrp) (self : GumdDaemonGroup) :
    GumdDaemonGroup :=
  let self := self.copyGroupProp gent
  { self with gshadow := copyGshadowStruct sgent false self.gshadow }

/-- `_copy_group_data`; missing entries are looked up. -/
def copyGroupData (gent : Option Group) (sgent : Option Sgrp) : GroupM Bool := do
  let found ← (if gent.isNone then getGroup else pure gent : GroupM (Option Group))
  match found with
  | none => return false
  | some entry =>
      let sentry ← lookupIf sgent.isNone (gumFileGetsgnam (some entry.grName)) sgent
      modifySelf (copyGroupEntries entry sentry)
      return true

/-- The rewrite of the gshadow file, made under a condition. -/
def updateGshadowFileIf (wanted : Bool) (op : GumOpType) (userData : Option Str) :
    GroupM Bool := do
  if !wanted then return true
  gumFileUpdate gshadowFile (updateGshadowEntry (← getSelf) op userData)

/-- The rewrite of the gshadow file, which is skipped while the file does not exist. -/
def updateGshadowFile (op : GumOpType) (userData : Option Str) : GroupM Bool := do
  updateGshadowFileIf (← get).world.files.gshadow.isSome op userData

def updateGroupFile (op : GumOpType) (userData : Option Str) : GroupM Bool := do
  gumFileUpdate groupFile (updateDaemonGroupEntry (← getSelf) op userData)

/-! ## Operations -/

/-- `gumd_daemon_group_add`; the gid it reports is that of the object. -/
def gumdDaemonGroupAdd (env : Env) (preferredGid : UInt32) : GroupM (Option UInt32) := do
  if !(← checkGroupType) then return none
  if !(← gumLockPwdfLock) then
    return ← gumReturnWithError ⟨.dbAlreadyLocked, "Database already locked"⟩ none
  if !(← setGid env.config preferredGid) then return ← unlockReturn none
  if !(← setGshadowData env) then return ← unlockReturn none
  if !(← updateGroupFile .add none) then return ← unlockReturn none
  if !(← updateGshadowFile .add none) then return ← unlockReturn none
  unlockReturn (some (← getSelf).group.grGid)

def gumdDaemonGroupDelete (env : Env) : GroupM Bool := do
  if !(← gumLockPwdfLock) then
    return ← gumReturnWithError ⟨.dbAlreadyLocked, "Database already locked"⟩ false
  if (← getSelf).group.grGid = gumGroupInvalidGid then
    return ← unlockReturnWithError ⟨.groupNotFound, "Group gid invalid"⟩ false
  if !(← copyGroupData none none) then return ← unlockReturn false
  if (← getSelf).group.grGid = env.egid then
    return ← unlockReturnWithError ⟨.groupSelfDestruction, "Self-destruction not possible"⟩ false
  -- the primary group of a remaining user stays, and the deletion still succeeds
  if (← gumFileFindUserByGid (← getSelf).group.grGid).isSome then return ← unlockReturn true
  if !(← updateGroupFile .delete none) then return ← unlockReturn false
  if !(← updateGshadowFile .delete none) then return ← unlockReturn false
  unlockReturn true

/-- What `gumd_daemon_group_update` takes from the entries it found before it encrypts the
secret. -/
def mergeEntries (grp : Group) (gshadow : Option Sgrp) (self : GumdDaemonGroup) :
    GumdDaemonGroup :=
  let self := { self with gshadow := copyGshadowStruct gshadow true self.gshadow }
  let self := if self.group.grName.isNone then self.setGroupnameProperty (some grp.grName)
    else self
  if self.group.grMem.isNone then { self with group := { self.group with grMem := some grp.grMem } }
  else self

def gumdDaemonGroupUpdate (env : Env) : GroupM Bool := do
  if !(← gumLockPwdfLock) then
    return ← gumReturnWithError ⟨.dbAlreadyLocked, "Database already locked"⟩ false
  if (← getSelf).group.grGid = gumGroupInvalidGid then
    return ← unlockReturnWithError ⟨.groupNotFound, "Group gid invalid"⟩ false
  match ← getGroup with
  | none => unlockReturn false
  | some grp =>
      let gshadow ← gumFileGetsgnam (some grp.grName)
      let passwd := ptr (← getSelf).group.grPasswd
      if passwd.isNone ∨ gStrcmp0 passwd (some (str "x")) = 0 ∨
          (gshadow.isSome ∧
            gumCryptCmpSecret env.crypt passwd (gshadow.map (·.sgPasswd)) = 0) then
        return ← unlockReturnWithError ⟨.groupNoChanges, "No changes registered"⟩ false
      modifySelf (mergeEntries grp gshadow)
      if !(← setSecret env) then return ← unlockReturn false
      let oldName := some grp.grName
      if !(← updateGroupFile .modify oldName) then return ← unlockReturn false
      if !(← updateGshadowFile .modify oldName) then return ← unlockReturn false
      unlockReturn true

/-- The member lists `gumd_daemon_group_add_member` gives to the loaded object. -/
def addMemberLists (grp : Group) (gshadow : Option Sgrp) (pwName : Str) (addAsAdmin : Bool)
    (self : GumdDaemonGroup) : GumdDaemonGroup :=
  let grMem := gumStringUtilsAppendString (some grp.grMem) pwName
  let self := { self with
    group := { self.group with grMem := some grMem }
    gshadow := { self.gshadow with sgMem := some grMem } }
  let sgAdm := gshadow.map (·.sgAdm)
  if addAsAdmin ∧ gshadow.isSome ∧ !gumStringUtilsSearchStringv sgAdm (some pwName) then
    { self with gshadow := { self.gshadow with
        sgAdm := some (gumStringUtilsAppendString sgAdm pwName) } }
  else self

def gumdDaemonGroupAddMember (uid : UInt32) (addAsAdmin : Bool) : GroupM Bool := do
  if !(← gumLockPwdfLock) then
    return ← gumReturnWithError ⟨.dbAlreadyLocked, "Database already locked"⟩ false
  match ← gumFileGetpwuid uid with
  | none => unlockReturnWithError ⟨.userNotFound, "User not found"⟩ false
  | some pent =>
      match ← getGroup with
      | none => unlockReturn false
      | some grp =>
          if gumStringUtilsSearchStringv (some grp.grMem) (some pent.pwName) then
            return ← unlockReturnWithError
              ⟨.groupUserAlreadyAMember, "User already a member of the group"⟩ false
          let gshadow ← gumFileGetsgnam (some grp.grName)
          if !(← copyGroupData (some grp) gshadow) then return ← unlockReturn false
          modifySelf (addMemberLists grp gshadow pent.pwName addAsAdmin)
          if !(← updateGroupFile .modify none) then return ← unlockReturn false
          if !(← updateGshadowFileIf gshadow.isSome .modify none) then
            return ← unlockReturn false
          unlockReturn true

/-- The member lists `gumd_daemon_group_delete_member` gives to the loaded object; the
administrators are those of the object if the group has no gshadow entry. -/
def deleteMemberLists (grp : Group) (gshadow : Option Sgrp) (pwName : Str)
    (self : GumdDaemonGroup) : GumdDaemonGroup :=
  let grMem := gumStringUtilsDeleteString (some grp.grMem) (some pwName)
  let self := { self with
    group := { self.group with grMem := grMem }
    gshadow := { self.gshadow with sgMem := grMem } }
  let sgAdm := gshadow.map (·.sgAdm)
  if gumStringUtilsSearchStringv sgAdm (some pwName) then
    { self with gshadow := { self.gshadow with
        sgAdm := gumStringUtilsDeleteString sgAdm (some pwName) } }
  else self

def gumdDaemonGroupDeleteMember (uid : UInt32) : GroupM Bool := do
  if !(← gumLockPwdfLock) then
    return ← gumReturnWithError ⟨.dbAlreadyLocked, "Database already locked"⟩ false
  match ← gumFileGetpwuid uid with
  | none => unlockReturnWithError ⟨.userNotFound, "User not found"⟩ false
  | some pent =>
      match ← getGroup with
      | none => unlockReturn false
      | some grp =>
          if !gumStringUtilsSearchStringv (some grp.grMem) (some pent.pwName) then
            return ← unlockReturnWithError
              ⟨.userNotFound, "User not a member of the group"⟩ false
          let gshadow ← gumFileGetsgnam (some grp.grName)
          if !(← copyGroupData (some grp) gshadow) then return ← unlockReturn false
          modifySelf (deleteMemberLists grp gshadow pent.pwName)
          if !(← updateGroupFile .modify none) then return ← unlockReturn false
          -- the rewrite does not depend on the group having an entry in gshadow
          if !(← updateGshadowFile .modify none) then return ← unlockReturn false
          unlockReturn true

end GumdDaemonGroup

/-- `gumd_daemon_group_new_by_gid` and `gumd_daemon_group_new_by_name`: load an object that has
only the key set. -/
def loadGroup (object : GumdDaemonGroup) : StateM World (Option GumdDaemonGroup) := do
  if !(← gumLockPwdfLock) then return none
  let (copied, grp) ← withNullError (runOn object (GumdDaemonGroup.copyGroupData none none))
  let _ ← gumLockPwdfUnlock
  return if copied then some grp else none

def gumdDaemonGroupNewByGid (gid : UInt32) : StateM World (Option GumdDaemonGroup) :=
  loadGroup (gumdDaemonGroupNew.setGidProperty gid)

def gumdDaemonGroupNewByName (groupname : Option Str) : StateM World (Option GumdDaemonGroup) :=
  match groupname with
  | none => return none
  | some name => loadGroup (gumdDaemonGroupNew.setGroupnameProperty (some name))

/-- `gumd_daemon_group_get_gid_by_name`. -/
def gumdDaemonGroupGetGidByName (groupname : Option Str) : StateM World UInt32 := do
  match groupname with
  | none => return gumGroupInvalidGid
  | some name =>
      if !(← gumLockPwdfLock) then return gumGroupInvalidGid
      let grp ← gumFileGetgrnam (some name)
      let _ ← gumLockPwdfUnlock
      return (grp.map (·.grGid)).getD gumGroupInvalidGid

/-! ## Removing a user from all groups -/

/-- The list of `entry` without the user, when the user is in it. -/
def withoutMember (members : List Str) (userName : Str) : List Str :=
  if gumStringUtilsSearchStringv (some members) (some userName) then
    (gumStringUtilsDeleteString (some members) (some userName)).getD []
  else members

def Group.deleteMember (userName : Str) (entry : Group) : Group :=
  { entry with grMem := withoutMember entry.grMem userName }

def Sgrp.deleteMember (userName : Str) (entry : Sgrp) : Sgrp :=
  { entry with
    sgMem := withoutMember entry.sgMem userName
    sgAdm := withoutMember entry.sgAdm userName }

/-- `gumd_daemon_group_delete_user_membership`.  The group and gshadow files are rewritten like
`gum_file_update` does, but a failing rewrite of the group file that could be opened does not
stop the rewrite of the gshadow file, whose result is returned. -/
def gumdDaemonGroupDeleteUserMembership (userName : Option Str) : StateM World Bool := do
  match userName with
  | none => gumReturnWithError ⟨.groupInvalidData, "Invalid input data"⟩ false
  | some name =>
      match gumValidateName (some name) with
      | .error e => gumReturnWithError e false
      | .ok () =>
          if !(← gumLockPwdfLock) then
            return ← gumReturnWithError ⟨.dbAlreadyLocked, "Database already locked"⟩ false
          let opened := ((← get).faults.write.head).all fun f => f.late || f == .put
          let retval ← gumFileUpdate groupFile fun entries =>
            .ok (entries.map (Group.deleteMember name))
          if !retval && !opened then
            let _ ← gumLockPwdfUnlock
            return false
          if (← get).files.gshadow.isNone then
            let _ ← gumLockPwdfUnlock
            return retval
          let retval ← gumFileUpdate gshadowFile fun entries =>
            .ok (entries.map (Sgrp.deleteMember name))
          let _ ← gumLockPwdfUnlock
          return retval

end Gumd
