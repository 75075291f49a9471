import Gumd.StringUtils

/-!
# User and group types

`GumUserType` is a flag enumeration; the `usertype` property holds any 16-bit value, so the
conversion to a string takes the raw value.
-/

namespace Gumd

inductive GumUserType where
  | none
  | system
  | admin
  | guest
  | normal
  | security
  deriving DecidableEq, Repr

def GumUserType.value : GumUserType → UInt32
  | .none => 0x00
  | .system => 0x01
  | .admin => 0x02
  | .guest => 0x04
  | .normal => 0x08
  | .security => 0x10

/-- `GUM_USERTYPE_COUNT`. -/
def gumUsertypeCount : Nat := 6

/-- `GUM_USERTYPE_MAX_VALUE`. -/
def gumUsertypeMaxValue : UInt32 := 0x20

/-- `user_type_strings`. -/
def userTypeStrings : List (GumUserType × Str) :=
  [(.none, str "none"), (.system, str "system"), (.admin, str "admin"), (.guest, str "guest"),
    (.normal, str "normal"), (.security, str "security")]

/-- The loop of `_get_user_type_strings_index`: how often `type` can be halved. -/
def userTypeBits : Nat → UInt32 → Nat
  | 0, _ => 0
  | fuel + 1, type => if type = 0 then 0 else userTypeBits fuel (type >>> 1) + 1

/-- `_get_user_type_strings_index`; a 32-bit value is zero after 32 halvings. -/
def getUserTypeStringsIndex (type : UInt32) : Int :=
  if gumUsertypeMaxValue ≤ type then -1 else userTypeBits 32 type

def gumUserTypeToString (type : UInt32) : Option Str :=
  let ind := getUserTypeStringsIndex type
  if ind ≤ 0 ∨ gumUsertypeCount ≤ ind then none
  else userTypeStrings[ind.toNat]?.map (·.2)

def gumUserTypeFromString (type : Option Str) : GumUserType :=
  match type with
  | none => .none
  | some s =>
      if s = [] then .none
      else match userTypeStrings.find? (·.2 == s) with
        | some entry => entry.1
        | none => .none

/-- `gum_user_type_from_strv`: the types named are joined into one set of flags. -/
def gumUserTypeFromStrv (types : Option (List Str)) : UInt32 :=
  (types.getD []).foldl (fun res type => res ||| (gumUserTypeFromString (some type)).value) 0

/-- `GUM_GROUPTYPE_SYSTEM`; the `grouptype` property holds any 16-bit value. -/
def gumGrouptypeSystem : UInt32 := 0x1

/-- `GUM_GROUPTYPE_USER`. -/
def gumGrouptypeUser : UInt32 := 0x2

end Gumd
