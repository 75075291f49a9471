import Gumd.ConfigFile
import Gumd.Lib.Binding
import Mathlib.Tactic.Ring

/-!
# Numbers of the configuration

A numeric key is read back as it was before the key file was read, or as the number its text in
the file stands for.
-/

namespace Gumd

/-! ## `strtol` and `strtoul` -/

/-- What `strtol` and `strtoul` deliver: the value, the text at the end pointer, and whether `errno`
is set. -/
structure Strto where
  value : Int
  rest : Str
  erange : Bool

/-- Add the digits at the beginning of a text to a number. -/
def scanDigits : Nat → Str → Nat × Str
  | number, [] => (number, [])
  | number, c :: rest =>
      if isDigit c then scanDigits (10 * number + (c - 0x30).toNat) rest else (number, c :: rest)

/-- `strtol (text, &end, 10)`; a `long` has 64 bits. -/
def strtol (text : Str) : Strto :=
  let (negative, digits) := splitSign (text.dropWhile isSpace)
  if (digits.head?.map isDigit).getD false then
    let (number, rest) := scanDigits 0 digits
    let v : Int := if negative then -(number : Int) else number
    if v < -0x8000000000000000 then ⟨-0x8000000000000000, rest, true⟩
    else if 0x7fffffffffffffff < v then ⟨0x7fffffffffffffff, rest, true⟩
    else ⟨v, rest, false⟩
  -- without digits the end pointer is the beginning of the text
  else ⟨0, text, false⟩

/-- `strtoul (text, &end, 10)`; a negative number is negated as an `unsigned long`. -/
def strtoul (text : Str) : Strto :=
  let (negative, digits) := splitSign (text.dropWhile isSpace)
  if (digits.head?.map isDigit).getD false then
    let (number, rest) := scanDigits 0 digits
    if 0xffffffffffffffff < number then ⟨0xffffffffffffffff, rest, true⟩
    else ⟨if negative then (-(number : Int)) % 0x10000000000000000 else number, rest, false⟩
  else ⟨0, text, false⟩

/-- The conversions give up on a range error, on a text without a number, and on what follows the
number. -/
def Strto.whole (text : Str) (result : Strto) : Option Int :=
  if result.erange ∨ result.rest = text ∨ result.rest ≠ [] then none else some result.value

/-! ## Numerals -/

/-- The text consists of blanks, a sign and digits. -/
structure IsNumeral (text blanks sign digits : Str) : Prop where
  split : text = blanks ++ sign ++ digits
  blank : ∀ c ∈ blanks, isSpace c = true
  some : digits ≠ []
  digit : ∀ c ∈ digits, isDigit c = true

/-- The whole text is a decimal number without a minus sign. -/
def UnsignedText (text : Str) (n : Nat) : Prop :=
  ∃ blanks digits, (IsNumeral text blanks [] digits ∨ IsNumeral text blanks (str "+") digits) ∧
    n = Lines.ofDecimal digits

/-- The whole text is a decimal number. -/
def SignedText (text : Str) (v : Int) : Prop :=
  (∃ n, UnsignedText text n ∧ v = n) ∨
    ∃ blanks digits, IsNumeral text blanks (str "-") digits ∧ v = -(Lines.ofDecimal digits : Int)

theorem isSpace_of_isDigit {c : UInt8} (digit : isDigit c = true) : isSpace c = false := by
  have table : ∀ n : Fin 256, isDigit (UInt8.ofNat n.val) = true →
      isSpace (UInt8.ofNat n.val) = false := by decide +kernel
  have own := table ⟨c.toNat, c.toNat_lt⟩
  simp only [UInt8.ofNat_toNat] at own
  exact own digit

/-- The scanner stops behind the digits and has their value. -/
theorem scanDigits_eq (number : Nat) (text : Str) :
    scanDigits number text =
      (number * 10 ^ (text.takeWhile isDigit).length + Lines.ofDecimal (text.takeWhile isDigit),
        text.dropWhile isDigit) := by
  induction text generalizing number with
  | nil => simp [scanDigits, Lines.ofDecimal]
  | cons c rest ih =>
      unfold scanDigits
      cases digit : isDigit c with
      | false => simp [digit, Lines.ofDecimal]
      | true =>
          rw [if_pos rfl, ih, List.takeWhile_cons_of_pos digit, List.dropWhile_cons_of_pos digit]
          simp only [List.length_cons, Prod.mk.injEq, and_true, Lines.ofDecimal, List.reverse_cons,
            List.map_append, List.map_cons, List.map_nil, Nat.ofDigits_append, List.length_map,
            List.length_reverse, Nat.ofDigits_singleton]
          ring

/-- A text is its sign and what follows it. -/
theorem splitSign_eq (text : Str) :
    ((splitSign text).1 = true ∧ text = str "-" ++ (splitSign text).2) ∨
      ((splitSign text).1 = false ∧
        (text = (splitSign text).2 ∨ text = str "+" ++ (splitSign text).2)) := by
  unfold splitSign
  split
  · exact Or.inl ⟨rfl, rfl⟩
  · exact Or.inr ⟨rfl, Or.inr rfl⟩
  · exact Or.inr ⟨rfl, Or.inl rfl⟩

/-- Digits have no sign. -/
theorem splitSign_digits {digits : Str} (digit : ∀ c ∈ digits, isDigit c = true) :
    splitSign digits = (false, digits) := by
  unfold splitSign
  split
  · exact absurd (digit _ List.mem_cons_self) (by decide)
  · exact absurd (digit _ List.mem_cons_self) (by decide)
  · rfl

/-- What follows the blanks of a numeral. -/
theorem IsNumeral.dropWhile {text blanks sign digits : Str} (numeral : IsNumeral text blanks sign digits)
    (noBlank : ∀ c ∈ sign.head?, isSpace c = false) :
    text.dropWhile isSpace = sign ++ digits := by
  rw [numeral.split, List.append_assoc, List.dropWhile_append_of_pos numeral.blank]
  obtain ⟨d, rest, rfl⟩ := List.exists_cons_of_ne_nil numeral.some
  cases sign with
  | nil =>
      have digit := isSpace_of_isDigit (numeral.digit d List.mem_cons_self)
      rw [List.nil_append, List.dropWhile_cons_of_neg (by simp [digit])]
  | cons c others =>
      have other := noBlank c rfl
      rw [List.cons_append, List.dropWhile_cons_of_neg (by simp [other])]

/-- A text that is blanks, a sign and digits is a numeral. -/
theorem isNumeral_of_split {text sign digits : Str} (split : text.dropWhile isSpace = sign ++ digits)
    (some : digits ≠ []) (digit : digits.all isDigit = true) :
    IsNumeral text (text.takeWhile isSpace) sign digits := by
  constructor
  · rw [List.append_assoc, ← split, List.takeWhile_append_dropWhile]
  · intro c mem
    exact List.mem_takeWhile_imp mem
  · exact some
  · exact List.all_eq_true.mp digit

/-- The number that is read from a whole text. -/
theorem decimalNumber_eq_some_iff (text : Str) (v : Int) :
    decimalNumber text = some v ↔ SignedText text v := by
  constructor
  · intro number
    unfold decimalNumber at number
    obtain ⟨negative, rest⟩ | ⟨positive, rest⟩ := splitSign_eq (text.dropWhile isSpace)
    · dsimp only at number
      rw [negative] at number
      split_ifs at number with digits
      · cases number
        exact Or.inr ⟨_, _, isNumeral_of_split rest digits.1 digits.2, rfl⟩
      · contradiction
    · dsimp only at number
      rw [positive] at number
      split_ifs at number with digits
      · contradiction
      · cases number
        refine Or.inl ⟨_, ⟨text.takeWhile isSpace, _, ?_, rfl⟩, rfl⟩
        rcases rest with plain | plus
        · exact Or.inl (isNumeral_of_split plain digits.1 digits.2)
        · exact Or.inr (isNumeral_of_split plus digits.1 digits.2)
  · intro signed
    have read : ∀ {blanks sign digits : Str} {negative : Bool}, IsNumeral text blanks sign digits →
        (∀ c ∈ sign.head?, isSpace c = false) → splitSign (sign ++ digits) = (negative, digits) →
        decimalNumber text = some (if negative then -(Lines.ofDecimal digits : Int)
          else (Lines.ofDecimal digits : Int)) := by
      intro blanks sign digits negative numeral noBlank split
      unfold decimalNumber
      rw [numeral.dropWhile noBlank, split]
      exact if_pos ⟨numeral.some, List.all_eq_true.mpr numeral.digit⟩
    rcases signed with ⟨n, ⟨blanks, digits, plain | plus, rfl⟩, rfl⟩ | ⟨blanks, digits, minus, rfl⟩
    · exact read plain (by simp) (splitSign_digits plain.digit)
    · exact read plus (by decide +kernel) rfl
    · exact read minus (by decide +kernel) rfl

/-! ## The conversions -/

/-- The number is read if and only if the scanner uses up the text. -/
theorem decimalNumber_eq (text : Str) :
    decimalNumber text =
      let (negative, digits) := splitSign (text.dropWhile isSpace)
      if (digits.head?.map isDigit).getD false ∧ (scanDigits 0 digits).2 = [] then
        some (if negative then -((scanDigits 0 digits).1 : Int) else (scanDigits 0 digits).1)
      else none := by
  unfold decimalNumber
  generalize splitSign (text.dropWhile isSpace) = parts
  obtain ⟨negative, digits⟩ := parts
  dsimp only
  rw [scanDigits_eq]
  dsimp only
  have numeral : (digits ≠ [] ∧ digits.all isDigit = true) ↔
      ((digits.head?.map isDigit).getD false = true ∧ digits.dropWhile isDigit = []) := by
    rw [List.dropWhile_eq_nil_iff, List.all_eq_true]
    cases digits with
    | nil => simp
    | cons d rest => simp
  by_cases whole : digits ≠ [] ∧ digits.all isDigit = true
  · have all : digits.takeWhile isDigit = digits := by
      rw [List.takeWhile_eq_self_iff]
      exact List.all_eq_true.mp whole.2
    rw [if_pos whole, if_pos (numeral.mp whole), all, Nat.zero_mul, Nat.zero_add]
  · rw [if_neg whole, if_neg fun scanned => whole (numeral.mpr scanned)]

/-- A scan that leaves nothing of a text has moved on. -/
theorem whole_eq_none_of_rest {text : Str} {result : Strto} (left : result.rest ≠ []) :
    result.whole text = none :=
  if_pos (Or.inr (Or.inr left))

theorem ne_nil_of_numeral {text : Str}
    (digit : (((splitSign (text.dropWhile isSpace)).2).head?.map isDigit).getD false = true) :
    [] ≠ text := by
  intro same
  subst same
  contradiction

/-- `_convert_strtol` refuses what `strtol` does not use up or cannot represent. -/
theorem convertStrtol_eq (text : Str) : convertStrtol text = (strtol text).whole text := by
  rw [convertStrtol, decimalNumber_eq]
  unfold strtol
  have moved := @ne_nil_of_numeral text
  generalize splitSign (text.dropWhile isSpace) = parts at moved ⊢
  obtain ⟨negative, digits⟩ := parts
  dsimp only at moved ⊢
  by_cases digit : (digits.head?.map isDigit).getD false = true
  · rw [if_pos digit]
    generalize scanDigits 0 digits = scanned
    obtain ⟨number, rest⟩ := scanned
    dsimp only
    generalize (if negative then -(number : Int) else (number : Int)) = v
    by_cases used : rest = []
    · subst used
      rw [if_pos ⟨digit, rfl⟩, Option.filter_some]
      unfold Strto.whole
      split_ifs with inRange low high <;> simp_all
      all_goals omega
    · rw [if_neg fun both => used both.2, Option.filter_none]
      split_ifs
      · exact (whole_eq_none_of_rest used).symm
      · exact (whole_eq_none_of_rest used).symm
      · exact (whole_eq_none_of_rest used).symm
  · rw [if_neg fun both => digit both.1, if_neg digit, Option.filter_none]
    simp [Strto.whole]

/-- A minus sign is the first character that is not blank. -/
theorem splitSign_fst (text : Str) : (splitSign text).1 = true ↔ text.head? = some 0x2d := by
  unfold splitSign
  split
  · simp
  · simp
  · rename_i rest notMinus notPlus
    refine iff_of_false Bool.false_ne_true ?_
    intro minus
    obtain ⟨d, others, rfl⟩ := List.exists_cons_of_ne_nil (List.ne_nil_of_mem (List.mem_of_head? minus))
    cases minus
    exact notMinus _ rfl

/-- `_convert_strtoul` looks for a minus sign first, as `strtoul` would negate the number. -/
theorem convertStrtoul_eq (text : Str) :
    convertStrtoul text =
      if (text.dropWhile isSpace).head? = some 0x2d then none
      else ((strtoul text).whole text).map Int.toNat := by
  rw [convertStrtoul]
  split_ifs with minus
  · rfl
  have positive : (splitSign (text.dropWhile isSpace)).1 = false := by
    rw [← Bool.not_eq_true, splitSign_fst]
    exact minus
  rw [decimalNumber_eq]
  unfold strtoul
  have moved := @ne_nil_of_numeral text
  generalize splitSign (text.dropWhile isSpace) = parts at moved positive ⊢
  obtain ⟨negative, digits⟩ := parts
  dsimp only at moved positive ⊢
  subst positive
  by_cases digit : (digits.head?.map isDigit).getD false = true
  · rw [if_pos digit]
    generalize scanDigits 0 digits = scanned
    obtain ⟨number, rest⟩ := scanned
    dsimp only
    simp only [Bool.false_eq_true, if_false]
    by_cases used : rest = []
    · subst used
      rw [if_pos ⟨digit, rfl⟩, Option.map_some, Option.filter_some]
      unfold Strto.whole
      split_ifs with inRange high <;> simp_all
      omega
    · rw [if_neg fun both => used both.2, Option.map_none, Option.filter_none]
      split_ifs
      · rw [whole_eq_none_of_rest used, Option.map_none]
      · rw [whole_eq_none_of_rest used, Option.map_none]
  · rw [if_neg fun both => digit both.1, if_neg digit, Option.map_none, Option.filter_none]
    simp [Strto.whole]

/-- A numeral without a minus sign does not begin with one. -/
theorem UnsignedText.head_ne {text : Str} {n : Nat} (unsigned : UnsignedText text n) :
    (text.dropWhile isSpace).head? ≠ some 0x2d := by
  obtain ⟨blanks, digits, plain | plus, -⟩ := unsigned
  · rw [plain.dropWhile (by simp), List.nil_append]
    intro minus
    exact absurd (plain.digit _ (List.mem_of_head? minus)) (by decide)
  · have head : (str "+" ++ digits).head? = some 0x2b := rfl
    rw [plus.dropWhile (by decide +kernel), head]
    decide

/-- `_convert_strtol` reads the numbers a `long` can hold. -/
theorem convertStrtol_eq_some_iff (text : Str) (v : Int) :
    convertStrtol text = some v ↔
      SignedText text v ∧ -0x8000000000000000 ≤ v ∧ v ≤ 0x7fffffffffffffff := by
  rw [convertStrtol, Option.filter_eq_some_iff, decimalNumber_eq_some_iff, decide_eq_true_iff]

/-- `_convert_strtoul` reads the numbers without a minus sign that an `unsigned long` can hold. -/
theorem convertStrtoul_eq_some_iff (text : Str) (n : Nat) :
    convertStrtoul text = some n ↔ UnsignedText text n ∧ n ≤ 0xffffffffffffffff := by
  constructor
  · intro read
    unfold convertStrtoul at read
    split_ifs at read with minus
    rw [Option.filter_eq_some_iff, Option.map_eq_some_iff, decide_eq_true_iff] at read
    obtain ⟨⟨v, number, rfl⟩, fits⟩ := read
    rcases (decimalNumber_eq_some_iff text v).mp number with ⟨m, unsigned, rfl⟩ | negative
    · exact ⟨unsigned, fits⟩
    · obtain ⟨blanks, digits, numeral, -⟩ := negative
      rw [numeral.dropWhile (by decide +kernel)] at minus
      exact absurd rfl minus
  · intro ⟨unsigned, fits⟩
    have number := (decimalNumber_eq_some_iff text n).mpr (Or.inl ⟨n, unsigned, rfl⟩)
    rw [convertStrtoul, if_neg unsigned.head_ne, number, Option.map_some, Int.toNat_natCast,
      Option.filter_some, if_pos (decide_eq_true fits)]

/-! ## The settings of a key -/

/-- The keys that are read with `gum_config_get_int`: password ages and timeouts. -/
def signedReads : List Str :=
  [gumConfigGeneralPassMinDays, gumConfigGeneralPassMaxDays, gumConfigGeneralPassWarnAge,
    gumConfigDbusDaemonTimeout, gumConfigDbusUserTimeout, gumConfigDbusGroupTimeout]

/-- The keys that are read with `gum_config_get_uint`: the ranges of ids, and the umask. -/
def unsignedReads : List Str :=
  [gumConfigGeneralSysUidMin, gumConfigGeneralSecUidMin, gumConfigGeneralUidMin,
    gumConfigGeneralSysUidMax, gumConfigGeneralSecUidMax, gumConfigGeneralUidMax,
    gumConfigGeneralSysGidMin, gumConfigGeneralGidMin, gumConfigGeneralSysGidMax,
    gumConfigGeneralGidMax, gumConfigGeneralUmask]

/-- The text sets a signed key: it is one decimal number a `gint` can hold. -/
def SignedSetting (text : Str) (v : Int) : Prop :=
  SignedText text v ∧ -0x80000000 ≤ v ∧ v ≤ 0x7fffffff

/-- The text sets an unsigned key: it is one decimal number without a minus sign that a `guint` can
hold. -/
def UnsignedSetting (text : Str) (n : Nat) : Prop := UnsignedText text n ∧ n ≤ 0xffffffff

/-- The value read after a file was loaded: that of the last setting of the key, or the one in force
before the file was read if the file has no setting of the key. -/
def ReadsLast {V : Type} (Setting : Str → V → Prop) (settings : List (Str × Str)) (key : Str)
    (before after : V) : Prop :=
  (after = before ∧ ∀ entry ∈ settings, entry.1 = key → ∀ v, ¬Setting entry.2 v) ∨
    ∃ earlier text later, settings = earlier ++ (key, text) :: later ∧ Setting text after ∧
      ∀ entry ∈ later, entry.1 = key → ∀ v, ¬Setting entry.2 v

/-- Every numeric key is stored with the type its getter reads. -/
structure GumConfig.Typed (config : GumConfig) : Prop where
  signed : ∀ key ∈ signedReads, ∀ value, gumDictionaryGet config.configTable key = some value →
    ∃ v, value = .int32 v ∧ -0x80000000 ≤ v ∧ v ≤ 0x7fffffff
  unsigned : ∀ key ∈ unsignedReads, ∀ value, gumDictionaryGet config.configTable key = some value →
    ∃ v, value = .uint32 v

theorem mem_signedReads (key : Str) : key ∈ signedReads ↔ key ∈ intKeys := by
  have perm : signedReads.Perm intKeys := by decide +kernel
  exact perm.mem_iff

theorem mem_unsignedReads (key : Str) : key ∈ unsignedReads ↔ key ∈ uintKeys := by
  have perm : unsignedReads.Perm uintKeys := by decide +kernel
  exact perm.mem_iff

/-- No key has both types. -/
theorem not_mem_intKeys {key : Str} (unsigned : key ∈ uintKeys) : key ∉ intKeys := by
  have disjoint : ∀ key ∈ uintKeys, key ∉ intKeys := by decide +kernel
  exact disjoint key unsigned

/-! ## Loading a file -/

/-- A text that is set does not change the other keys. -/
theorem gumDictionaryGet_setString (sysroot : Option Str) {name key : Str} (other : key ≠ name)
    (text : Str) (config : GumConfig) :
    gumDictionaryGet (gumConfigSetString sysroot name text config).configTable key =
      gumDictionaryGet config.configTable key := by
  have set : ∀ value,
      gumDictionaryGet (gumDictionarySetString config.configTable name value) key =
        gumDictionaryGet config.configTable key := by
    intro value
    unfold gumDictionarySetString
    cases gVariantNewString value with
    | none => rfl
    | some variant =>
        dsimp only
        rw [gumDictionaryGet_set, if_neg other]
  unfold gumConfigSetString
  dsimp only
  split_ifs
  · exact set _
  · exact set _

/-- A key of the file does not change the other keys. -/
theorem gumDictionaryGet_loadKey (sysroot : Option Str) {name key : Str} (other : key ≠ name)
    (text : Str) (config : GumConfig) :
    gumDictionaryGet (loadKey sysroot name text config).configTable key =
      gumDictionaryGet config.configTable key := by
  have set : ∀ value, gumDictionaryGet (gumDictionarySet config.configTable name value) key =
      gumDictionaryGet config.configTable key := by
    intro value
    rw [gumDictionaryGet_set, if_neg other]
  unfold loadKey
  split_ifs
  · cases convertStrtol text with
    | none => rfl
    | some v =>
        dsimp only
        split_ifs
        · exact set _
        · rfl
  · cases convertStrtoul text with
    | none => rfl
    | some v =>
        dsimp only
        split_ifs
        · exact set _
        · rfl
  · exact gumDictionaryGet_setString sysroot other text config

/-- The number a text sets a signed key to. -/
def signedSetting (text : Str) : Option Int :=
  (convertStrtol text).filter fun v => v ≤ 0x7fffffff ∧ -0x80000000 ≤ v

/-- The number a text sets an unsigned key to. -/
def unsignedSetting (text : Str) : Option UInt32 :=
  ((convertStrtoul text).filter (· ≤ 0xffffffff)).map UInt32.ofNat

theorem signedSetting_eq_some_iff (text : Str) (v : Int) :
    signedSetting text = some v ↔ SignedSetting text v := by
  rw [signedSetting, Option.filter_eq_some_iff, convertStrtol_eq_some_iff, decide_eq_true_iff]
  constructor
  · intro read
    exact ⟨read.1.1, read.2.2, read.2.1⟩
  · intro ⟨number, low, high⟩
    exact ⟨⟨number, by omega, by omega⟩, high, low⟩

theorem unsignedSetting_eq_some_iff (text : Str) (v : UInt32) :
    unsignedSetting text = some v ↔ UnsignedSetting text v.toNat := by
  have bound := v.toNat_lt
  rw [unsignedSetting, Option.map_eq_some_iff]
  constructor
  · intro ⟨n, read, same⟩
    rw [Option.filter_eq_some_iff, convertStrtoul_eq_some_iff, decide_eq_true_iff] at read
    have value : v.toNat = n := by
      rw [← same, UInt32.toNat_ofNat', Nat.mod_eq_of_lt (by omega)]
    rw [value]
    exact ⟨read.1.1, read.2⟩
  · intro ⟨number, high⟩
    refine ⟨v.toNat, ?_, UInt32.ofNat_toNat⟩
    rw [Option.filter_eq_some_iff, convertStrtoul_eq_some_iff, decide_eq_true_iff]
    exact ⟨⟨number, by omega⟩, high⟩

/-- A signed key is set to the number of its text. -/
theorem gumDictionaryGet_loadKey_signed (sysroot : Option Str) {key : Str} (signed : key ∈ intKeys)
    (text : Str) (config : GumConfig) :
    gumDictionaryGet (loadKey sysroot key text config).configTable key =
      ((signedSetting text).map GVariant.int32).or (gumDictionaryGet config.configTable key) := by
  rw [loadKey, if_pos signed, signedSetting]
  cases convertStrtol text with
  | none => rfl
  | some v =>
      rw [Option.filter_some]
      dsimp only
      split_ifs with range taken taken
      · rw [gumConfigSetInt, gumDictionaryGet_set, if_pos rfl]
        rfl
      · exact absurd (decide_eq_true range) taken
      · exact absurd (of_decide_eq_true taken) range
      · rfl

/-- An unsigned key is set to the number of its text. -/
theorem gumDictionaryGet_loadKey_unsigned (sysroot : Option Str) {key : Str}
    (unsigned : key ∈ uintKeys) (text : Str) (config : GumConfig) :
    gumDictionaryGet (loadKey sysroot key text config).configTable key =
      ((unsignedSetting text).map GVariant.uint32).or (gumDictionaryGet config.configTable key) := by
  rw [loadKey, if_neg (not_mem_intKeys unsigned), if_pos unsigned, unsignedSetting]
  cases convertStrtoul text with
  | none => rfl
  | some v =>
      rw [Option.filter_some]
      dsimp only
      split_ifs with range taken taken
      · rw [gumConfigSetUint, gumDictionaryGet_set, if_pos rfl]
        rfl
      · exact absurd (decide_eq_true range) taken
      · exact absurd (of_decide_eq_true taken) range
      · rfl

/-- What one key of a file does to the value of a signed key. -/
theorem gumConfigGetInt_loadKey (sysroot : Option Str) {key : Str} (signed : key ∈ intKeys)
    (config : GumConfig) (retval : Int) (name text : Str) :
    gumConfigGetInt (loadKey sysroot name text config) key retval =
      (if name = key then signedSetting text else none).getD (gumConfigGetInt config key retval) := by
  by_cases same : name = key
  · subst same
    rw [if_pos rfl, gumConfigGetInt, gumDictionaryGet_loadKey_signed sysroot signed]
    cases signedSetting text <;> rfl
  · rw [if_neg same, Option.getD_none, gumConfigGetInt, gumDictionaryGet_loadKey _ (Ne.symm same),
      gumConfigGetInt]

/-- What one key of a file does to the value of an unsigned key. -/
theorem gumConfigGetUint_loadKey (sysroot : Option Str) {key : Str} (unsigned : key ∈ uintKeys)
    (config : GumConfig) (retval : UInt32) (name text : Str) :
    gumConfigGetUint (loadKey sysroot name text config) key retval =
      (if name = key then unsignedSetting text else none).getD
        (gumConfigGetUint config key retval) := by
  by_cases same : name = key
  · subst same
    rw [if_pos rfl, gumConfigGetUint, gumDictionaryGet_loadKey_unsigned sysroot unsigned]
    cases unsignedSetting text <;> rfl
  · rw [if_neg same, Option.getD_none, gumConfigGetUint, gumDictionaryGet_loadKey _ (Ne.symm same),
      gumConfigGetUint]

/-- A key of the file that is loaded with one lookup of the settings reads the last of them. -/
theorem readsLast_loadConfig {V : Type} {Setting : Str → V → Prop} {setting : Str → Option V}
    (view : GumConfig → V) (reads : ∀ text v, setting text = some v ↔ Setting text v) {key : Str}
    {sysroot : Option Str}
    (one : ∀ config name text, view (loadKey sysroot name text config) =
      (if name = key then setting text else none).getD (view config))
    (file : KeyFile) (config : GumConfig) :
    ReadsLast Setting file.settings key (view config) (view (loadConfig sysroot file config)) := by
  have silent : ∀ entry : Str × Str, (if entry.1 = key then setting entry.2 else none) = none →
      entry.1 = key → ∀ v, ¬Setting entry.2 v := by
    intro entry unset same v given
    rw [if_pos same, (reads _ v).mpr given] at unset
    cases unset
  have last := Binding.foldl_last
    (fun config (entry : Str × Str) => loadKey sysroot entry.1 entry.2 config)
    (fun config entry => one config entry.1 entry.2) file.settings config
  rcases last with ⟨kept, unset⟩ | ⟨earlier, ⟨name, text⟩, later, split, written, unset⟩
  · exact Or.inl ⟨kept, fun entry mem => silent entry (unset entry mem)⟩
  · dsimp only at written
    split_ifs at written with same
    subst same
    exact Or.inr ⟨earlier, text, later, split, (reads text _).mp written,
      fun entry mem => silent entry (unset entry mem)⟩

/-! ## Types -/

namespace GumConfig.Typed

variable {config : GumConfig}

theorem empty : Typed ⟨[]⟩ := by
  constructor
  · intro key mem value stored
    cases stored
  · intro key mem value stored
    cases stored

/-- A value of the right type may be set. -/
theorem set {key : Str} {value : GVariant} (typed : config.Typed)
    (signed : key ∈ signedReads → ∃ v, value = .int32 v ∧ -0x80000000 ≤ v ∧ v ≤ 0x7fffffff)
    (unsigned : key ∈ unsignedReads → ∃ v, value = .uint32 v) :
    Typed ⟨gumDictionarySet config.configTable key value⟩ := by
  constructor
  · intro other mem read stored
    rw [gumDictionaryGet_set] at stored
    split_ifs at stored with same
    · obtain rfl := Option.some.inj stored
      exact signed (same ▸ mem)
    · exact typed.signed other mem read stored
  · intro other mem read stored
    rw [gumDictionaryGet_set] at stored
    split_ifs at stored with same
    · obtain rfl := Option.some.inj stored
      exact unsigned (same ▸ mem)
    · exact typed.unsigned other mem read stored

/-- A text is set for a key that is no number. -/
theorem setString (typed : config.Typed) (sysroot : Option Str) {key : Str}
    (noSigned : key ∉ signedReads) (noUnsigned : key ∉ unsignedReads) (value : Str) :
    (gumConfigSetString sysroot key value config).Typed := by
  have set : ∀ text, Typed ⟨gumDictionarySetString config.configTable key text⟩ := by
    intro text
    unfold gumDictionarySetString
    cases gVariantNewString text with
    | none => exact typed
    | some variant =>
        exact typed.set (fun mem => absurd mem noSigned) (fun mem => absurd mem noUnsigned)
  unfold gumConfigSetString
  dsimp only
  split_ifs
  · exact set _
  · exact set _

/-- Every key of a file is stored with its type. -/
theorem loadKey (typed : config.Typed) (sysroot : Option Str) (key text : Str) :
    (Gumd.loadKey sysroot key text config).Typed := by
  by_cases signed : key ∈ intKeys
  · have noUnsigned : key ∉ unsignedReads := by
      intro unsigned
      exact not_mem_intKeys ((mem_unsignedReads key).mp unsigned) signed
    unfold Gumd.loadKey
    rw [if_pos signed]
    cases convertStrtol text with
    | none => exact typed
    | some v =>
        dsimp only
        split_ifs with range
        · exact typed.set (fun _ => ⟨v, rfl, range.2, range.1⟩) fun mem => absurd mem noUnsigned
        · exact typed
  · have noSigned : key ∉ signedReads := by rwa [mem_signedReads]
    unfold Gumd.loadKey
    rw [if_neg signed]
    split_ifs with unsigned
    · cases convertStrtoul text with
      | none => exact typed
      | some v =>
          dsimp only
          split_ifs
          · exact typed.set (fun mem => absurd mem noSigned) fun _ => ⟨_, rfl⟩
          · exact typed
    · exact typed.setString sysroot noSigned (by rwa [mem_unsignedReads]) text

theorem loadConfig (typed : config.Typed) (sysroot : Option Str) (file : KeyFile) :
    (Gumd.loadConfig sysroot file config).Typed := by
  rw [Gumd.loadConfig]
  induction file.settings generalizing config with
  | nil => exact typed
  | cons setting rest ih => exact ih (typed.loadKey sysroot setting.1 setting.2)

end GumConfig.Typed

/-- The defaults have their types. -/
theorem typed_defaults (source : ConfigSource) : source.defaults.Typed := by
  have setInt : ∀ key, key ∉ unsignedReads → ∀ v : Int, -0x80000000 ≤ v ∧ v ≤ 0x7fffffff →
      ∀ {config : GumConfig}, config.Typed → (gumConfigSetInt key v config).Typed := by
    intro key noUnsigned v range config typed
    exact typed.set (fun _ => ⟨v, rfl, range⟩) fun mem => absurd mem noUnsigned
  have setUint : ∀ key, key ∉ signedReads → ∀ v, ∀ {config : GumConfig}, config.Typed →
      (gumConfigSetUint key v config).Typed := by
    intro key noSigned v config typed
    exact typed.set (fun mem => absurd mem noSigned) fun _ => ⟨v, rfl⟩
  have setString : ∀ key, key ∉ signedReads → key ∉ unsignedReads → ∀ value,
      ∀ {config : GumConfig}, config.Typed →
        (gumConfigSetString source.sysroot key value config).Typed := by
    intro key noSigned noUnsigned value config typed
    exact typed.setString source.sysroot noSigned noUnsigned value
  simp only [ConfigSource.defaults]
  repeat first
    | refine setString _ (by decide +kernel) (by decide +kernel) _ ?_
    | refine setUint _ (by decide +kernel) _ ?_
    | refine setInt _ (by decide +kernel) _ (by decide) ?_
  exact GumConfig.Typed.empty

namespace Sample

/-- A key file with a number, a number past the range, and a negative one. -/
def numbersFile : KeyFile :=
  [(str "General", [(str "PASS_MAX_DAYS", str "30"), (str "PASS_MIN_DAYS", str "2147483648"),
    (str "UID_MIN", str "-1000")])]

example :
    gumConfigGetInt (loadConfig none numbersFile ⟨[]⟩) gumConfigGeneralPassMaxDays (-1) = 30 ∧
    gumConfigGetInt (loadConfig none numbersFile ⟨[]⟩) gumConfigGeneralPassMinDays (-1) = -1 ∧
    gumConfigGetUint (loadConfig none numbersFile ⟨[]⟩) gumConfigGeneralUidMin 7 = 7 := by
  decide +kernel

end Sample

end Gumd
