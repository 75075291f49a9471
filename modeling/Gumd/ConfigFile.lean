import Gumd.Config
import Gumd.Crypt
import Gumd.Lib.Lines
import Gumd.Lib.Paths

/-!
# `gum-config`

How the configuration is built: the defaults of the build are overwritten by the key file, and the
values of six keys are put below the sysroot when they are stored.
-/

namespace Gumd

/-! ## The other keys -/

def gumConfigGeneralPasswdFile : Str := str "General/PASSWD_FILE"
def gumConfigGeneralShadowFile : Str := str "General/SHADOW_FILE"
def gumConfigGeneralGroupFile : Str := str "General/GROUP_FILE"
def gumConfigGeneralGshadowFile : Str := str "General/GSHADOW_FILE"
def gumConfigGeneralSkelDir : Str := str "General/SKEL_DIR"
def gumConfigDbusDaemonTimeout : Str := str "ObjectTimeouts/DAEMON_TIMEOUT"
def gumConfigDbusUserTimeout : Str := str "ObjectTimeouts/USER_TIMEOUT"
def gumConfigDbusGroupTimeout : Str := str "ObjectTimeouts/GROUP_TIMEOUT"

/-! ## Conversions -/

/-- `isspace` in the POSIX locale. -/
def isSpace (c : UInt8) : Bool := c == 0x20 || (0x09 ≤ c && c ≤ 0x0d)

/-- The sign of a text, and what follows it. -/
def splitSign : Str → Bool × Str
  | 0x2d :: rest => (true, rest)
  | 0x2b :: rest => (false, rest)
  | rest => (false, rest)

/-- The decimal number `strtol` and `strtoul` read where they use up the whole text. -/
def decimalNumber (text : Str) : Option Int :=
  let (negative, digits) := splitSign (text.dropWhile isSpace)
  if digits ≠ [] ∧ digits.all isDigit then
    some (if negative then -(Lines.ofDecimal digits : Int) else (Lines.ofDecimal digits : Int))
  else none

/-- `_convert_strtol` to base 10; a `long` has 64 bits. -/
def convertStrtol (text : Str) : Option Int :=
  (decimalNumber text).filter fun v => -0x8000000000000000 ≤ v ∧ v ≤ 0x7fffffffffffffff

/-- `_convert_strtoul` to base 10, which refuses a minus sign. -/
def convertStrtoul (text : Str) : Option Nat :=
  if (text.dropWhile isSpace).head? = some 0x2d then none
  else ((decimalNumber text).map Int.toNat).filter (· ≤ 0xffffffffffffffff)

/-! ## The table -/

/-- `gum_dictionary_set`. -/
def gumDictionarySet (dict : List (Str × GVariant)) (key : Str) (value : GVariant) :
    List (Str × GVariant) :=
  (key, value) :: dict.filter (·.1 != key)

/-- `g_variant_new_string` refuses a text that is not in UTF-8. -/
def gVariantNewString (value : Str) : Option GVariant :=
  if (ByteArray.mk value.toArray).validateUTF8 then some (.string value) else none

/-- `gum_dictionary_set_string`; nothing is set where there is no value. -/
def gumDictionarySetString (dict : List (Str × GVariant)) (key value : Str) :
    List (Str × GVariant) :=
  match gVariantNewString value with
  | some variant => gumDictionarySet dict key variant
  | none => dict

def slash : UInt8 := 0x2f

/-- `g_build_filename` of two elements. -/
def gBuildFilename (first second : Str) : Str := Paths.build slash first second

/-- The keys whose values are put below the sysroot. -/
def sysrootKeys : List Str :=
  [gumConfigGeneralPasswdFile, gumConfigGeneralShadowFile, gumConfigGeneralGroupFile,
    gumConfigGeneralGshadowFile, gumConfigGeneralSkelDir, gumConfigGeneralHomeDirPref]

def gumConfigSetInt (key : Str) (value : Int) (self : GumConfig) : GumConfig :=
  ⟨gumDictionarySet self.configTable key (.int32 value)⟩

def gumConfigSetUint (key : Str) (value : UInt32) (self : GumConfig) : GumConfig :=
  ⟨gumDictionarySet self.configTable key (.uint32 value)⟩

def gumConfigSetString (sysroot : Option Str) (key value : Str) (self : GumConfig) : GumConfig :=
  let root := sysroot.getD []
  if root ≠ [] ∧ key ∈ sysrootKeys then
    ⟨gumDictionarySetString self.configTable key (gBuildFilename root value)⟩
  else ⟨gumDictionarySetString self.configTable key value⟩

/-! ## The key file -/

/-- The groups of a key file with their keys and values, in the order of the file. -/
abbrev KeyFile := List (Str × List (Str × Str))

/-- The keys whose values are signed numbers. -/
def intKeys : List Str :=
  [gumConfigDbusDaemonTimeout, gumConfigDbusUserTimeout, gumConfigGeneralPassMaxDays,
    gumConfigGeneralPassMinDays, gumConfigGeneralPassWarnAge, gumConfigDbusGroupTimeout]

/-- The keys whose values are unsigned numbers. -/
def uintKeys : List Str :=
  [gumConfigGeneralUidMin, gumConfigGeneralUidMax, gumConfigGeneralSysUidMin,
    gumConfigGeneralSysUidMax, gumConfigGeneralSecUidMin, gumConfigGeneralSecUidMax,
    gumConfigGeneralGidMin, gumConfigGeneralGidMax, gumConfigGeneralSysGidMin,
    gumConfigGeneralSysGidMax, gumConfigGeneralUmask]

/-- What `_load_config` does with one key; a number that cannot be converted is only logged. -/
def loadKey (sysroot : Option Str) (key value : Str) (self : GumConfig) : GumConfig :=
  if key ∈ intKeys then
    match convertStrtol value with
    | some cv => if cv ≤ 0x7fffffff ∧ -0x80000000 ≤ cv then gumConfigSetInt key cv self else self
    | none => self
  else if key ∈ uintKeys then
    match convertStrtoul value with
    | some cv => if cv ≤ 0xffffffff then gumConfigSetUint key (UInt32.ofNat cv) self else self
    | none => self
  else gumConfigSetString sysroot key value self

/-- `"%s/%s"` of the group and the key. -/
def keyPath (group key : Str) : Str := group ++ slash :: key

/-- The keys of a file under the names of the configuration, in the order they are loaded. -/
def KeyFile.settings (file : KeyFile) : List (Str × Str) :=
  file.flatMap fun (group, keys) => keys.map fun (key, value) => (keyPath group key, value)

/-- `_load_config` of the key file that was found. -/
def loadConfig (sysroot : Option Str) (file : KeyFile) (self : GumConfig) : GumConfig :=
  file.settings.foldl (fun config (key, value) => loadKey sysroot key value config) self

/-! ## Construction -/

/-- The paths and texts the build defines. -/
structure BuildDefines where
  gumPasswdFile : Str
  gumShadowFile : Str
  gumGroupFile : Str
  gumGshadowFile : Str
  gumHomeDirPrefix : Str
  gumShell : Str
  gumSkelDir : Str
  gumDefGroups : Str
  gumDefAdminGroups : Str
  gumEncryptMethod : Str
  deriving DecidableEq, Repr

/-- What a configuration is built from: besides the defines, the home path the platform names, the
sysroot and the key file, if one was found and could be read. -/
structure ConfigSource where
  defines : BuildDefines
  tzSysHome : Option Str
  sysroot : Option Str
  keyFile : Option KeyFile
  deriving DecidableEq, Repr

/-- `_gum_config_initialize` before the key file is read. -/
def ConfigSource.defaults (source : ConfigSource) : GumConfig :=
  let set := gumConfigSetString source.sysroot
  ⟨[]⟩
    |> set gumConfigGeneralPasswdFile source.defines.gumPasswdFile
    |> set gumConfigGeneralShadowFile source.defines.gumShadowFile
    |> set gumConfigGeneralGroupFile source.defines.gumGroupFile
    |> set gumConfigGeneralGshadowFile source.defines.gumGshadowFile
    |> set gumConfigGeneralHomeDirPref (source.tzSysHome.getD source.defines.gumHomeDirPrefix)
    |> set gumConfigGeneralShell source.defines.gumShell
    |> set gumConfigGeneralSecShell source.defines.gumShell
    |> set gumConfigGeneralSkelDir source.defines.gumSkelDir
    |> gumConfigSetUint gumConfigGeneralUidMin 1000
    |> gumConfigSetUint gumConfigGeneralUidMax 60000
    |> gumConfigSetUint gumConfigGeneralSysUidMin 100
    |> gumConfigSetUint gumConfigGeneralSysUidMax 999
    |> gumConfigSetUint gumConfigGeneralSecUidMin 60001
    |> gumConfigSetUint gumConfigGeneralSecUidMax 60100
    |> gumConfigSetUint gumConfigGeneralGidMin 1000
    |> gumConfigSetUint gumConfigGeneralGidMax 60000
    |> gumConfigSetUint gumConfigGeneralSysGidMin 100
    |> gumConfigSetUint gumConfigGeneralSysGidMax 999
    |> gumConfigSetInt gumConfigGeneralPassMaxDays 99999
    |> gumConfigSetInt gumConfigGeneralPassMinDays 0
    |> gumConfigSetInt gumConfigGeneralPassWarnAge 7
    |> gumConfigSetUint gumConfigGeneralUmask gumUmask
    |> set gumConfigGeneralDefUsrGroups source.defines.gumDefGroups
    |> set gumConfigGeneralDefAdminGroups source.defines.gumDefAdminGroups
    |> set gumConfigGeneralEncryptMethod source.defines.gumEncryptMethod

/-- The configuration `gum_config_new` makes. -/
def ConfigSource.gumConfigNew (source : ConfigSource) : GumConfig :=
  loadConfig source.sysroot (source.keyFile.getD []) source.defaults

/-! ## Values below the sysroot -/

theorem gumDictionaryGet_set (dict : List (Str × GVariant)) (key key' : Str) (value : GVariant) :
    gumDictionaryGet (gumDictionarySet dict key value) key' =
      if key' = key then some value else gumDictionaryGet dict key' := by
  rw [gumDictionaryGet, gumDictionarySet, gumDictionaryGet, List.find?_cons]
  by_cases same : key' = key
  · simp [same]
  · have other : (key == key') = false := by simpa using Ne.symm same
    have kept : (dict.filter (·.1 != key)).find? (·.1 == key') = dict.find? (·.1 == key') := by
      rw [List.find?_filter]
      congr 1
      funext entry
      by_cases here : entry.1 = key'
      · simp [here, same]
      · simp [here]
    simp only [other, if_neg same, kept]

/-- The paths a configuration holds begin with the sysroot, except that of the user information
directory. -/
def GumConfig.Rooted (root : Str) (config : GumConfig) : Prop :=
  ∀ key ∈ sysrootKeys, ∀ value, gumConfigGetString config key = some value →
    Paths.Begins slash root value

namespace GumConfig.Rooted

variable {root : Str} {config : GumConfig}

theorem empty : Rooted root ⟨[]⟩ := by
  intro key _ value given
  cases given

/-- A value that is no string is no path. -/
theorem set {key : Str} {value : GVariant} (rooted : config.Rooted root)
    (fits : key ∈ sysrootKeys → ∀ s, value = .string s → Paths.Begins slash root s) :
    Rooted root ⟨gumDictionarySet config.configTable key value⟩ := by
  intro key' mem s given
  rw [gumConfigGetString, gumDictionaryGet_set] at given
  split_ifs at given with same
  · subst same
    cases value with
    | string t =>
      obtain rfl := Option.some.inj given
      exact fits mem t rfl
    | int32 v => cases given
    | uint32 v => cases given
  · exact rooted key' mem s given

theorem setInt (rooted : config.Rooted root) (key : Str) (value : Int) :
    (gumConfigSetInt key value config).Rooted root :=
  rooted.set fun _ s same => by cases same

theorem setUint (rooted : config.Rooted root) (key : Str) (value : UInt32) :
    (gumConfigSetUint key value config).Rooted root :=
  rooted.set fun _ s same => by cases same

theorem setString (given : root ≠ []) (rooted : config.Rooted root) (key value : Str) :
    (gumConfigSetString (some root) key value config).Rooted root := by
  simp only [gumConfigSetString, Option.getD_some, given, ne_eq, not_false_eq_true, true_and,
    gumDictionarySetString, gVariantNewString]
  split_ifs with path valid valid
  · refine rooted.set fun _ s same => ?_
    cases same
    exact Paths.begins_build given value
  · exact rooted
  · exact rooted.set fun mem => absurd mem path
  · exact rooted

theorem loadKey (given : root ≠ []) (rooted : config.Rooted root) (key value : Str) :
    (Gumd.loadKey (some root) key value config).Rooted root := by
  rw [Gumd.loadKey]
  split_ifs
  · cases convertStrtol value with
    | none => exact rooted
    | some cv =>
      dsimp only
      split_ifs
      · exact rooted.setInt key cv
      · exact rooted
  · cases convertStrtoul value with
    | none => exact rooted
    | some cv =>
      dsimp only
      split_ifs
      · exact rooted.setUint key _
      · exact rooted
  · exact rooted.setString given key value

/-- A key file keeps the paths below the sysroot, key by key. -/
theorem loadConfig (given : root ≠ []) (file : KeyFile) (rooted : config.Rooted root) :
    (Gumd.loadConfig (some root) file config).Rooted root := by
  rw [Gumd.loadConfig]
  induction file.settings generalizing config with
  | nil => exact rooted
  | cons setting rest ih => exact ih (rooted.loadKey given setting.1 setting.2)

end GumConfig.Rooted

/-- The paths of a configuration that is built with a sysroot begin with it. -/
theorem rooted_gumConfigNew {source : ConfigSource} {root : Str} (built : source.sysroot = some root)
    (given : root ≠ []) : source.gumConfigNew.Rooted root := by
  have set : ∀ key value {config : GumConfig}, config.Rooted root →
      (gumConfigSetString source.sysroot key value config).Rooted root := by
    intro key value config rooted
    rw [built]
    exact rooted.setString given key value
  rw [ConfigSource.gumConfigNew, built]
  apply GumConfig.Rooted.loadConfig given
  simp only [ConfigSource.defaults]
  repeat first
    | apply set
    | apply GumConfig.Rooted.setUint
    | apply GumConfig.Rooted.setInt
  exact GumConfig.Rooted.empty

end Gumd
