import Gumd.StringUtils

/-!
# Configuration

`GumConfig` is a table of typed values.  Reading an absent key gives the caller's default; reading
a value of another type gives zero or `NULL`, as the `GVariant` getters do.

The four database paths are not read here: the configuration always holds them, and the model
keeps one file for each.
-/

namespace Gumd

/-- The values a configuration table holds. -/
inductive GVariant where
  | string (value : Str)
  | int32 (value : Int)
  | uint32 (value : UInt32)
  deriving DecidableEq, Repr

structure GumConfig where
  configTable : List (Str × GVariant)
  deriving DecidableEq, Repr

/-- `gum_dictionary_get`. -/
def gumDictionaryGet (dict : List (Str × GVariant)) (key : Str) : Option GVariant :=
  (dict.find? (·.1 == key)).map (·.2)

def gumConfigGetString (self : GumConfig) (key : Str) : Option Str :=
  match gumDictionaryGet self.configTable key with
  | some (.string value) => some value
  | _ => none

def gumConfigGetInt (self : GumConfig) (key : Str) (retval : Int) : Int :=
  match gumDictionaryGet self.configTable key with
  | none => retval
  | some (.int32 value) => value
  | some _ => 0

def gumConfigGetUint (self : GumConfig) (key : Str) (retval : UInt32) : UInt32 :=
  match gumDictionaryGet self.configTable key with
  | none => retval
  | some (.uint32 value) => value
  | some _ => 0

/-! ## The keys -/

/-- `GUM_UMASK`, octal 077. -/
def gumUmask : UInt32 := 0x3f

def gumConfigGeneralDefUsrGroups : Str := str "General/DEFAULT_USR_GROUPS"
def gumConfigGeneralUsrPrimaryGrpname : Str := str "General/USR_PRIMARY_GRPNAME"
def gumConfigGeneralDefAdminGroups : Str := str "General/DEFAULT_ADMIN_GROUPS"
def gumConfigGeneralHomeDirPref : Str := str "General/HOME_DIR"
def gumConfigGeneralShell : Str := str "General/SHELL"
def gumConfigGeneralSecShell : Str := str "General/SEC_SHELL"
def gumConfigGeneralUserinfoDir : Str := str "General/USERINFO_DIR"
def gumConfigGeneralUidMin : Str := str "General/UID_MIN"
def gumConfigGeneralUidMax : Str := str "General/UID_MAX"
def gumConfigGeneralSysUidMin : Str := str "General/SYS_UID_MIN"
def gumConfigGeneralSysUidMax : Str := str "General/SYS_UID_MAX"
def gumConfigGeneralSecUidMin : Str := str "General/SEC_UID_MIN"
def gumConfigGeneralSecUidMax : Str := str "General/SEC_UID_MAX"
def gumConfigGeneralGidMin : Str := str "General/GID_MIN"
def gumConfigGeneralGidMax : Str := str "General/GID_MAX"
def gumConfigGeneralSysGidMin : Str := str "General/SYS_GID_MIN"
def gumConfigGeneralSysGidMax : Str := str "General/SYS_GID_MAX"
def gumConfigGeneralPassMinDays : Str := str "General/PASS_MIN_DAYS"
def gumConfigGeneralPassMaxDays : Str := str "General/PASS_MAX_DAYS"
def gumConfigGeneralPassWarnAge : Str := str "General/PASS_WARN_AGE"
def gumConfigGeneralUmask : Str := str "General/UMASK"
def gumConfigGeneralEncryptMethod : Str := str "General/ENCRYPT_METHOD"

end Gumd
