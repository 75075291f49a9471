import Gumd.DaemonUser

/-!
# Rules for the gecos field

The five texts an object's gecos holds, and how the setters change them: a setter writes its own
text and keeps the other four.
-/

namespace Gumd

/-- The text of one field of a nullable gecos, empty where it is missing. -/
def gecosText (gecos : Option Str) (field : GecosField) : Str :=
  (gumStringUtilsGetString gecos comma field.index).getD []

/-- The fields have different places. -/
theorem GecosField.index_injective : Function.Injective GecosField.index := by
  intro a b same
  cases a <;> cases b <;> first | rfl | cases same

/-- A gecos an object holds has every field. -/
theorem getString_gecos (g : Gecos) (field : GecosField) :
    gumStringUtilsGetString (some g.val) comma field.index = some (gecosText (some g.val) field) := by
  have inside : field.index < (gStrsplit g.val comma).length := by
    rw [length_split_gecos]
    exact field.index_lt
  simp only [gecosText, gumStringUtilsGetString, List.getElem?_eq_getElem inside, Option.getD_some]

/-- Splitting undoes the join of an insertion. -/
theorem gStrsplit_insertGecosField (gecos : Option Gecos) (value : DbString) (field : GecosField) :
    gStrsplit (insertGecosField gecos value field).val comma =
      insertedParts (gecosParts gecos) value.val field.index gecosFieldCount := by
  rw [insertGecosField_val]
  apply gStrsplit_gStrjoinv
  · intro p mem
    exact comma_not_mem_dbString ⟨p, accepted_of_mem_insertedParts gecos value field mem⟩
  · rw [length_insertedParts]
    decide

/-- The old part an insertion keeps is the text of its field. -/
theorem getD_gecosParts (gecos : Option Gecos) (field : GecosField) :
    (gecosParts gecos).getD field.index [] = gecosText (ptr gecos) field := by
  cases gecos with
  | none => rfl
  | some g => rw [List.getD_eq_getElem?_getD]; rfl

/-- An insertion writes its own text and keeps the others. -/
theorem gecosText_insertGecosField (gecos : Option Gecos) (value : DbString)
    (field other : GecosField) :
    gecosText (some (insertGecosField gecos value field).val) other =
      if other = field then value.val else gecosText (ptr gecos) other := by
  have parts : gumStringUtilsGetString (some (insertGecosField gecos value field).val) comma
      other.index = some (if other.index = field.index then value.val
        else (gecosParts gecos).getD other.index []) := by
    rw [gumStringUtilsGetString, gStrsplit_insertGecosField]
    exact getElem?_insertedParts _ _ other.index_lt
  rw [gecosText, parts, Option.getD_some, getD_gecosParts]
  simp only [GecosField.index_injective.eq_iff]

/-! ## The setters -/

/-- A setter of a text writes an accepted string. -/
theorem gecosText_setGecosText {value : Str} (field : GecosField) (gecos : Option Gecos)
    (accepted : gumValidateDbStringEntry (some value) = .ok ()) (other : GecosField) :
    gecosText (ptr (setGecosText field (some value) gecos)) other =
      if other = field then value else gecosText (ptr gecos) other := by
  rw [setGecosText]
  split_ifs with changed same same
  · simp only [ptr_some, gecosText_insertGecosField, same, if_true]
  · simp only [ptr_some, gecosText_insertGecosField, same, if_false]
  · have kept : some value = gumStringUtilsGetString (ptr gecos) comma field.index := by
      simpa using changed
    rw [gecosText, same, ← kept, Option.getD_some]
  · rfl

/-- A setter of a text keeps the other texts, whatever is written. -/
theorem gecosText_setGecosText_other {field other : GecosField} (differs : other ≠ field)
    (value : Option Str) (gecos : Option Gecos) :
    gecosText (ptr (setGecosText field value gecos)) other = gecosText (ptr gecos) other := by
  cases value with
  | none =>
    rw [setGecosText]
    split_ifs <;> rfl
  | some s =>
    by_cases accepted : gumValidateDbStringEntry (some s) = .ok ()
    · rw [gecosText_setGecosText field gecos accepted, if_neg differs]
    · rw [setGecosText]
      simp only [accepted, dite_false, ite_self]

/-- The user type of a gecos is named by its last text. -/
theorem getUsertypeFromGecos_eq (gecos : Option Str) :
    getUsertypeFromGecos gecos = gumUserTypeFromString (some (gecosText gecos .usertype)) := by
  cases gecos with
  | none => rfl
  | some s =>
    rw [getUsertypeFromGecos, gecosText]
    cases gumStringUtilsGetString (some s) comma GecosField.usertype.index <;> rfl

/-- A setter of a text keeps the user type. -/
theorem getUsertypeFromGecos_setGecosText {field : GecosField} (text : field ≠ .usertype)
    (value : Option Str) (gecos : Option Gecos) :
    getUsertypeFromGecos (ptr (setGecosText field value gecos)) =
      getUsertypeFromGecos (ptr gecos) := by
  rw [getUsertypeFromGecos_eq, getUsertypeFromGecos_eq, gecosText_setGecosText_other text.symm]

/-- Every value the setter of the user type accepts has a name. -/
theorem exists_gumUserTypeToString {type : UInt32} (positive : 0 < type)
    (bounded : type < gumUsertypeMaxValue) : ∃ name, gumUserTypeToString type = some name := by
  have named : ∀ n : Fin 32, 0 < n.val →
      (gumUserTypeToString (UInt32.ofNat n.val)).isSome = true := by decide
  have lower : 0 < type.toNat := UInt32.lt_iff_toNat_lt.mp positive
  have upper : type.toNat < 32 := UInt32.lt_iff_toNat_lt.mp bounded
  have known := named ⟨type.toNat, upper⟩ lower
  rw [UInt32.ofNat_toNat] at known
  exact Option.isSome_iff_exists.mp known

/-- The setter of the user type keeps the texts. -/
theorem gecosText_setGecosUsertype {other : GecosField} (text : other ≠ .usertype) (value : UInt32)
    (gecos : Option Gecos) :
    gecosText (ptr (setGecosUsertype value gecos)) other = gecosText (ptr gecos) other := by
  rw [setGecosUsertype]
  split_ifs with valid changed
  · obtain ⟨name, known⟩ := exists_gumUserTypeToString valid.1 valid.2
    split
    · rename_i unknown
      rw [known] at unknown
      cases unknown
    · rw [ptr_some, gecosText_insertGecosField, if_neg text]
  · rfl
  · rfl

/-- The name of a user type is read back as the user type. -/
theorem gumUserTypeFromString_toString {type : GumUserType} {name : Str}
    (known : gumUserTypeToString type.value = some name) :
    gumUserTypeFromString (some name) = type := by
  cases type with
  | none =>
    have unknown : gumUserTypeToString GumUserType.none.value = none := by decide
    rw [unknown] at known
    cases known
  | _ =>
    obtain rfl := Option.some.inj known
    decide

/-- The setter of the user type gives the gecos the type. -/
theorem getUsertypeFromGecos_setGecosUsertype (type : GumUserType) (gecos : Option Gecos) :
    getUsertypeFromGecos (ptr (setGecosUsertype type.value gecos)) =
      if type = .none then getUsertypeFromGecos (ptr gecos) else type := by
  rw [setGecosUsertype]
  split_ifs with valid changed untyped untyped
  · subst untyped
    exact absurd valid (by decide)
  · split
    · rename_i unknown
      obtain ⟨name, known⟩ := exists_gumUserTypeToString valid.1 valid.2
      rw [known] at unknown
      cases unknown
    · rename_i name known
      rw [ptr_some, getUsertypeFromGecos_eq, gecosText_insertGecosField, if_pos rfl,
        gumUserTypeFromString_toString known]
  · rfl
  · have same : (getUsertypeFromGecos (ptr gecos)).value = type.value := not_not.mp changed
    revert same
    generalize getUsertypeFromGecos (ptr gecos) = old
    intro same
    cases old <;> cases type <;> first | rfl | exact absurd same (by decide)
  · rfl
  · rename_i typed
    refine absurd ?_ valid
    cases type <;> first | exact absurd rfl typed | decide

end Gumd
