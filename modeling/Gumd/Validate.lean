import Gumd.UserTypes

/-!
# Errors and validation

The validators of `gum-validate`, with the errors they set, and the types of the strings they
accept: an object never holds a string its setter has rejected, so the fields of the daemon
objects carry the validator's verdict.
-/

namespace Gumd

/-- The codes of `GumError`. -/
inductive GumError where
  | unknown
  | internalServer
  | permissionDenied
  | userAlreadyExists
  | userGroupAddFailure
  | userUidNotAvailable
  | userInvalidUserType
  | userSecretEncryptFailure
  | userNotFound
  | userInvalidData
  | userGroupDeleteFailure
  | userSelfDestruction
  | userSessionTermFailure
  | userNoChanges
  | userLockFailure
  | groupAlreadyExists
  | groupGidNotAvailable
  | groupInvalidGroupType
  | groupSecretEncryptFailure
  | groupNotFound
  | groupUserAlreadyAMember
  | groupInvalidData
  | groupSelfDestruction
  | groupHasUser
  | groupNoChanges
  | dbAlreadyLocked
  | fileOpen
  | fileAttribute
  | fileMove
  | fileWrite
  | homeDirCreateFailure
  | homeDirDeleteFailure
  | homeDirCopyFailure
  | invalidName
  | invalidNickname
  | invalidSecret
  | invalidStr
  | invalidStrLen
  | invalidInput
  deriving DecidableEq, Repr

/-- A `GError` of the `GUM_ERROR` domain. -/
structure GError where
  code : GumError
  message : String
  deriving DecidableEq, Repr

/-! ## Names -/

/-- `UT_NAMESIZE` of `utmp.h`. -/
def utNamesize : Nat := 32

def isAsciiAlpha (c : UInt8) : Bool :=
  (0x41 ≤ c && c ≤ 0x5a) || (0x61 ≤ c && c ≤ 0x7a)

/-- `[A-Za-z_]`. -/
def isNameFirst (c : UInt8) : Bool :=
  isAsciiAlpha c || c == 0x5f

/-- `[A-Za-z0-9_.-]`. -/
def isNameMiddle (c : UInt8) : Bool :=
  isNameFirst c || (0x30 ≤ c && c ≤ 0x39) || c == 0x2e || c == 0x2d

/-- `[A-Za-z0-9_.-]*[A-Za-z0-9_.$-]\?` up to the end of the string: a `$` only as the last byte. -/
def nameRestMatches : Str → Bool
  | [] => true
  | [c] => isNameMiddle c || c == 0x24
  | c :: rest => isNameMiddle c && nameRestMatches rest

/-- `GUM_NAME_PATTERN`. -/
def gumNamePattern : String := "^[A-Za-z_][A-Za-z0-9_.-]*[A-Za-z0-9_.$-]\\?$"

/-- `regexec` with `GUM_NAME_PATTERN`. -/
def gumNamePatternMatches : Str → Bool
  | [] => false
  | c :: rest => isNameFirst c && nameRestMatches rest

def gumValidateName (name : Option Str) : Except GError Unit :=
  match name with
  | none => .error ⟨.invalidName, "Invalid name. len must be > 0 and less than UT_NAMESIZE"⟩
  | some s =>
      if s.length = 0 ∨ utNamesize < s.length then
        .error ⟨.invalidName, "Invalid name len. len must be > 0 and less than UT_NAMESIZE"⟩
      else if gumNamePatternMatches s then .ok ()
      else .error ⟨.invalidName, "Name failed pattern match for " ++ gumNamePattern⟩

/-- `gum_validate_generate_username`.  `md5` is the hexadecimal digest of `g_checksum`. -/
def gumValidateGenerateUsername (md5 : Str → Str) (string : Option Str) : Except GError Str :=
  match string with
  | none => .error ⟨.invalidName, "Unable to generate name for 0 len str"⟩
  | some s =>
      if s.length = 0 then .error ⟨.invalidName, "Unable to generate name for 0 len str"⟩
      else
        let genName := match md5 s with
          | [] => []
          | c :: rest => if isAsciiAlpha c then c :: rest else 0x55 :: rest
        match gumValidateName (some genName) with
        | .ok () => .ok genName
        | .error e => .error e

/-! ## Database entries -/

/-- The control characters both entry validators list. -/
def controlChars : List UInt8 :=
  [0x01, 0x02, 0x03, 0x04, 0x05, 0x06, 0x07, 0x08, 0x09, 0x0a, 0x0b, 0x0c, 0x0d, 0x0e, 0x0f,
    0x10, 0x11, 0x12, 0x13, 0x14, 0x15, 0x16, 0x17, 0x18, 0x19, 0x1a, 0x1b, 0x1c, 0x1d, 0x1e,
    0x1f, 0x7f]

/-- `strpbrk (s, chars) != NULL`. -/
def strpbrk (s : Str) (chars : List UInt8) : Bool := s.any (chars.contains ·)

def gumValidateDbStringEntry (string : Option Str) : Except GError Unit :=
  match string with
  | none => .error ⟨.invalidStr, "Invalid input str."⟩
  | some s =>
      if 0 < s.length ∧ strpbrk s (controlChars ++ [0x2c, 0x3a]) then
        .error ⟨.invalidStr, "No control characters or ':' or ',' is allowed"⟩
      else .ok ()

def gumValidateDbSecretEntry (string : Option Str) : Except GError Unit :=
  match string with
  | none => .error ⟨.invalidSecret, "Invalid input str."⟩
  | some s =>
      if strpbrk s (controlChars ++ [0x3a]) then
        .error ⟨.invalidSecret, "No control characters or ':' is allowed"⟩
      else .ok ()

/-! ## Accepted strings -/

/-- A name `gum_validate_name` accepts. -/
abbrev ValidName := { s : Str // gumValidateName (some s) = .ok () }

/-- A string `gum_validate_db_string_entry` accepts. -/
abbrev DbString := { s : Str // gumValidateDbStringEntry (some s) = .ok () }

/-- A string `gum_validate_db_secret_entry` accepts. -/
abbrev DbSecret := { s : Str // gumValidateDbSecretEntry (some s) = .ok () }

/-- The nullable C string of a nullable validated field. -/
def ptr {p : Str → Prop} (s : Option (Subtype p)) : Option Str := s.map Subtype.val

@[simp] theorem ptr_none {p : Str → Prop} : ptr (none : Option (Subtype p)) = none := rfl

@[simp] theorem ptr_some {p : Str → Prop} (s : Subtype p) : ptr (some s) = some s.val := rfl

theorem ptr_eq_none {p : Str → Prop} {s : Option (Subtype p)} : ptr s = none ↔ s = none := by
  cases s <;> simp

theorem ptr_injective {p : Str → Prop} : Function.Injective (@ptr p) :=
  Option.map_injective Subtype.val_injective

/-- The secret marker `"x"` of the passwd and group files. -/
def secretMarker : DbSecret := ⟨str "x", by decide⟩

/-- The empty secret a cleared buffer reads as. -/
def emptySecret : DbSecret := ⟨[], by decide⟩

/-- A string the entry validator accepts holds no comma. -/
theorem comma_not_mem_dbString (s : DbString) : comma ∉ s.val := by
  intro mem
  have accepted := s.property
  have nonempty : 0 < s.val.length := List.length_pos_of_mem mem
  have found : strpbrk s.val (controlChars ++ [0x2c, 0x3a]) = true := by
    rw [strpbrk, List.any_eq_true]
    exact ⟨comma, mem, by decide⟩
  simp [gumValidateDbStringEntry, nonempty, found] at accepted

/-! ## The gecos field

`realname,officelocation,officephone,homephone,usertype` -/

inductive GecosField where
  | realname
  | office
  | officephone
  | homephone
  | usertype
  deriving DecidableEq, Repr

/-- The value of the enumerator. -/
def GecosField.index : GecosField → Nat
  | .realname => 0
  | .office => 1
  | .officephone => 2
  | .homephone => 3
  | .usertype => 4

/-- `GECOS_FIELD_COUNT`. -/
def gecosFieldCount : Nat := 5

theorem GecosField.index_lt (field : GecosField) : field.index < gecosFieldCount := by
  cases field <;> decide

/-- The gecos of an object: five accepted strings joined by commas. -/
def IsGecos (s : Str) : Prop :=
  ∃ fields : List DbString, fields.length = gecosFieldCount ∧
    s = gStrjoinv comma (fields.map Subtype.val)

abbrev Gecos := { s : Str // IsGecos s }

/-- Splitting a gecos gives back its five fields. -/
theorem gStrsplit_fields {fields : List DbString} (five : fields.length = gecosFieldCount) :
    gStrsplit (gStrjoinv comma (fields.map Subtype.val)) comma = fields.map Subtype.val := by
  apply gStrsplit_gStrjoinv
  · intro p mem
    obtain ⟨field, -, rfl⟩ := List.mem_map.mp mem
    exact comma_not_mem_dbString field
  · simp [five, gecosFieldCount]

theorem length_split_gecos (g : Gecos) : (gStrsplit g.val comma).length = gecosFieldCount := by
  obtain ⟨fields, five, same⟩ := g.property
  rw [same, gStrsplit_fields five, List.length_map, five]

/-- Every part of an object's gecos is an accepted string. -/
theorem accepted_of_mem_gecos (g : Gecos) {p : Str} (mem : p ∈ gStrsplit g.val comma) :
    gumValidateDbStringEntry (some p) = .ok () := by
  obtain ⟨fields, five, same⟩ := g.property
  rw [same, gStrsplit_fields five] at mem
  obtain ⟨field, -, rfl⟩ := List.mem_map.mp mem
  exact field.property

/-- Accepted strings are a list of validated ones. -/
theorem exists_dbStrings {parts : List Str}
    (accepted : ∀ p ∈ parts, gumValidateDbStringEntry (some p) = .ok ()) :
    ∃ fields : List DbString, fields.map Subtype.val = parts :=
  ⟨parts.attach.map fun p => ⟨p.val, accepted p.val p.property⟩, by
    simp [List.map_map, Function.comp_def]⟩

/-- The old parts an insertion into a nullable gecos reads. -/
def gecosParts (old : Option Gecos) : List Str :=
  match old with
  | none => []
  | some g => gStrsplit g.val comma

/-- An insertion of an accepted string joins accepted strings. -/
theorem accepted_of_mem_insertedParts (old : Option Gecos) (value : DbString) (field : GecosField)
    {p : Str} (mem : p ∈ insertedParts (gecosParts old) value field.index gecosFieldCount) :
    gumValidateDbStringEntry (some p) = .ok () := by
  rcases mem_insertedParts mem with rfl | inOld | rfl
  · exact value.property
  · cases old with
    | none => simp [gecosParts] at inOld
    | some g => exact accepted_of_mem_gecos g inOld
  · decide

theorem isGecos_insertedParts (old : Option Gecos) (value : DbString) (field : GecosField) :
    IsGecos (gStrjoinv comma
      (insertedParts (gecosParts old) value field.index gecosFieldCount)) := by
  obtain ⟨fields, same⟩ := exists_dbStrings fun _ mem => accepted_of_mem_insertedParts old value
    field mem
  refine ⟨fields, ?_, by rw [same]⟩
  rw [← List.length_map (f := Subtype.val), same, length_insertedParts]

theorem gumStringUtilsInsertString_gecos (old : Option Gecos) (value : DbString)
    (field : GecosField) :
    gumStringUtilsInsertString (ptr old) comma (some value.val) field.index
        gecosFieldCount =
      some (gStrjoinv comma
        (insertedParts (gecosParts old) value field.index gecosFieldCount)) := by
  have inside : ¬(gecosFieldCount ≤ field.index ∨ gMaxint < gecosFieldCount) := by
    have index := field.index_lt
    unfold gMaxint gecosFieldCount at *
    omega
  have parts : stringParts (ptr old) comma = gecosParts old := by cases old <;> rfl
  have few : (gecosParts old).length ≤ gecosFieldCount := by
    cases old with
    | none => simp [gecosParts]
    | some g => exact Nat.le_of_eq (length_split_gecos g)
  have counted : toGint (gecosParts old).length = (gecosParts old).length :=
    toGint_of_le (Nat.le_trans few (by decide))
  simp only [gumStringUtilsInsertString, if_neg inside, parts, counted, Int.toNat_natCast,
    List.take_length]

end Gumd
