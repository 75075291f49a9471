import Gumd.DaemonUser
import Gumd.NumericConfig

/-!
# The umask setting

The umask of the configuration is written in octal, as the default of the build is, but is read as
a decimal number.
-/

namespace Gumd

/-- The text consists of octal digits. -/
structure IsOctal (text : Str) : Prop where
  some : text ≠ []
  digit : ∀ c ∈ text, 0x30 ≤ c ∧ c ≤ 0x37

/-- The number a text of octal digits stands for. -/
def octalValue (text : Str) : Nat :=
  Nat.ofDigits 8 (text.reverse.map fun c => (c - 0x30).toNat)

/-- The file gives a key this text; a key file has one text for a key. -/
structure KeyFile.Gives (file : KeyFile) (key text : Str) : Prop where
  given : (key, text) ∈ file.settings
  only : ∀ entry ∈ file.settings, entry.1 = key → entry.2 = text

/-- The mask home directories are created with. -/
def homeDirUmask (config : GumConfig) : UInt32 :=
  gumConfigGetUint config gumConfigGeneralUmask gumUmask

/-- `_create_home_dir` passes the mask on. -/
theorem createHomeDir_umask (env : Env) : GumdDaemonUser.createHomeDir env = (do
    let self ← getSelf
    if self.usertype = .system then return true
    GumdDaemonUser.returnOutcome (env.createHomeDir (ptr self.pw.pwDir) self.pw.pwUid self.pw.pwGid
      (homeDirUmask env.config))) := rfl

/-! ## Digits in two bases -/

/-- Digits whose number is zero are zeros. -/
theorem ofDigits_eq_zero_iff {base : Nat} (positive : 0 < base) (digits : List Nat) :
    Nat.ofDigits base digits = 0 ↔ ∀ d ∈ digits, d = 0 := by
  induction digits with
  | nil => simp
  | cons d rest ih =>
      rw [Nat.ofDigits_cons, List.forall_mem_cons, ← ih, Nat.add_eq_zero_iff, Nat.mul_eq_zero]
      simp [positive.ne']

/-- A number reads the same in both bases if and only if it has one digit. -/
theorem ofDigits_ten_eq_eight_iff (d : Nat) (rest : List Nat) :
    Nat.ofDigits 10 (d :: rest) = Nat.ofDigits 8 (d :: rest) ↔ ∀ e ∈ rest, e = 0 := by
  have less : Nat.ofDigits 8 rest ≤ Nat.ofDigits 10 rest := Nat.ofDigits_monotone rest (by decide)
  rw [← ofDigits_eq_zero_iff (by decide : 0 < 10), Nat.ofDigits_cons, Nat.ofDigits_cons]
  constructor
  · intro same
    omega
  · intro zero
    omega

/-- A number that is small in octal is small in decimal. -/
theorem ofDigits_ten_lt {digits : List Nat} (octal : ∀ d ∈ digits, d < 8)
    (small : Nat.ofDigits 8 digits < 64) : Nat.ofDigits 10 digits < 80 := by
  cases digits with
  | nil => simp
  | cons a more =>
      have first := octal a List.mem_cons_self
      rw [Nat.ofDigits_cons] at small ⊢
      cases more with
      | nil =>
          rw [Nat.ofDigits_nil]
          omega
      | cons b rest =>
          have second := octal b (List.mem_cons_of_mem _ List.mem_cons_self)
          rw [Nat.ofDigits_cons] at small ⊢
          have zero : Nat.ofDigits 8 rest = 0 := by omega
          have decimal : Nat.ofDigits 10 rest = 0 :=
            (ofDigits_eq_zero_iff (by decide) rest).mpr
              ((ofDigits_eq_zero_iff (by decide) rest).mp zero)
          omega

/-! ## Octal texts -/

namespace IsOctal

variable {text : Str}

theorem digits (octal : IsOctal text) : ∀ d ∈ text.reverse.map (fun c => (c - 0x30).toNat), d < 8 := by
  intro d mem
  obtain ⟨c, inText, rfl⟩ := List.mem_map.mp mem
  have range := octal.digit c (List.mem_reverse.mp inText)
  have table : ∀ n : Fin 256, 0x30 ≤ UInt8.ofNat n.val ∧ UInt8.ofNat n.val ≤ 0x37 →
      (UInt8.ofNat n.val - 0x30).toNat < 8 := by decide +kernel
  have own := table ⟨c.toNat, c.toNat_lt⟩
  simp only [UInt8.ofNat_toNat] at own
  exact own range

/-- A text of octal digits is a decimal number. -/
theorem unsignedText (octal : IsOctal text) : UnsignedText text (Lines.ofDecimal text) := by
  refine ⟨[], text, Or.inl ?_, rfl⟩
  constructor
  · rfl
  · simp
  · exact octal.some
  · intro c mem
    obtain ⟨low, high⟩ := octal.digit c mem
    have nine : c ≤ 0x39 := UInt8.le_trans high (by decide)
    simp [isDigit, low, nine]

/-- The decimal value is the octal one if and only if all digits but the last are zero. -/
theorem ofDecimal_eq_iff (octal : IsOctal text) :
    Lines.ofDecimal text = octalValue text ↔ ∀ c ∈ text.dropLast, c = 0x30 := by
  obtain ⟨before, last, rfl⟩ : ∃ before last, text = before ++ [last] :=
    ⟨_, _, (List.dropLast_append_getLast octal.some).symm⟩
  have zero : ∀ c ∈ before, (c - 0x30).toNat = 0 ↔ c = 0x30 := by
    intro c mem
    have low := (octal.digit c (List.mem_append_left _ mem)).1
    constructor
    · intro none
      have same : c - 0x30 = 0 := UInt8.toNat_inj.mp none
      rw [← UInt8.sub_add_cancel c 0x30, same, UInt8.zero_add]
    · intro same
      rw [same]
      rfl
  rw [Lines.ofDecimal, octalValue, List.reverse_append, List.reverse_singleton, List.singleton_append,
    List.map_cons, ofDigits_ten_eq_eight_iff, List.dropLast_concat]
  constructor
  · intro digits c mem
    exact (zero c mem).mp (digits _ (List.mem_map_of_mem (List.mem_reverse.mpr mem)))
  · intro zeros d mem
    obtain ⟨c, inBefore, rfl⟩ := List.mem_map.mp mem
    rw [List.mem_reverse] at inBefore
    exact (zero c inBefore).mpr (zeros c inBefore)

end IsOctal

/-! ## The setting -/

/-- Before the key file is read the mask is that of the build. -/
theorem homeDirUmask_defaults (source : ConfigSource) : homeDirUmask source.defaults = gumUmask := by
  have set : gumDictionaryGet source.defaults.configTable gumConfigGeneralUmask =
      some (.uint32 gumUmask) := by
    simp only [ConfigSource.defaults]
    rw [gumDictionaryGet_setString _ (by decide +kernel), gumDictionaryGet_setString _ (by decide +kernel),
      gumDictionaryGet_setString _ (by decide +kernel), gumConfigSetUint, gumDictionaryGet_set, if_pos rfl]
  rw [homeDirUmask, gumConfigGetUint, set]

/-- The mask is the octal value of its text if and only if all digits but the last are zero. -/
theorem homeDirUmask_octal_iff {source : ConfigSource} {file : KeyFile} {text : Str}
    (read : source.keyFile = some file) (gives : file.Gives gumConfigGeneralUmask text)
    (octal : IsOctal text) (fits : octalValue text < 2 ^ 32) :
    (homeDirUmask source.gumConfigNew).toNat = octalValue text ↔ ∀ c ∈ text.dropLast, c = 0x30 := by
  have unsigned : gumConfigGeneralUmask ∈ uintKeys := by decide +kernel
  have reads := readsLast_loadConfig homeDirUmask unsignedSetting_eq_some_iff
    (fun config name value => gumConfigGetUint_loadKey source.sysroot unsigned config gumUmask name
      value) file source.defaults
  have built : source.gumConfigNew = loadConfig source.sysroot file source.defaults := by
    rw [ConfigSource.gumConfigNew, read, Option.getD_some]
  rw [built]
  generalize homeDirUmask (loadConfig source.sysroot file source.defaults) = mask at reads
  rw [homeDirUmask_defaults] at reads
  rcases reads with ⟨rfl, unset⟩ | ⟨earlier, value, later, split, setting, -⟩
  · -- the decimal number does not fit, so the octal one is far above the default
    have large : 0xffffffff < Lines.ofDecimal text := by
      by_contra small
      have given := unset _ gives.given rfl (UInt32.ofNat (Lines.ofDecimal text))
      apply given
      rw [UnsignedSetting, UInt32.toNat_ofNat', Nat.mod_eq_of_lt (by omega)]
      exact ⟨octal.unsignedText, by omega⟩
    have far : ¬octalValue text < 64 := by
      intro small
      have decimal : Lines.ofDecimal text < 80 := ofDigits_ten_lt octal.digits small
      omega
    refine iff_of_false ?_ ?_
    · intro same
      have default : gumUmask.toNat = 63 := rfl
      omega
    · intro zeros
      have same := octal.ofDecimal_eq_iff.mpr zeros
      omega
  · obtain rfl : value = text := by
      apply gives.only (gumConfigGeneralUmask, value) _ rfl
      rw [split]
      simp
    have decimal : mask.toNat = Lines.ofDecimal value := by
      have first := (decimalNumber_eq_some_iff value _).mpr (Or.inl ⟨_, setting.1, rfl⟩)
      have second := (decimalNumber_eq_some_iff value _).mpr (Or.inl ⟨_, octal.unsignedText, rfl⟩)
      exact Int.ofNat_inj.mp (Option.some.inj (first.symm.trans second))
    rw [decimal]
    exact octal.ofDecimal_eq_iff

namespace Sample

/-- A build without a sysroot. -/
def umaskSource (text : String) : ConfigSource where
  defines :=
    { gumPasswdFile := str "/etc/passwd", gumShadowFile := str "/etc/shadow",
      gumGroupFile := str "/etc/group", gumGshadowFile := str "/etc/gshadow",
      gumHomeDirPrefix := str "/home", gumShell := str "/bin/bash", gumSkelDir := str "/etc/skel",
      gumDefGroups := [], gumDefAdminGroups := [], gumEncryptMethod := str "SHA512" }
  tzSysHome := none
  sysroot := none
  keyFile := some [(str "General", [(str "UMASK", str text)])]

/-- The private mask 077 leaves the home directory open. -/
theorem homeDirUmask_077 :
    homeDirUmask (umaskSource "077").gumConfigNew = 77 ∧ octalValue (str "077") = 63 := by
  decide +kernel

theorem homeDirUmask_octal_iff_077 :
    (homeDirUmask (umaskSource "077").gumConfigNew).toNat = octalValue (str "077") ↔
      ∀ c ∈ (str "077").dropLast, c = 0x30 := by
  have settings : KeyFile.settings [(str "General", [(str "UMASK", str "077")])] =
      [(gumConfigGeneralUmask, str "077")] := by decide +kernel
  refine @homeDirUmask_octal_iff (umaskSource "077") _ _ rfl ⟨?_, ?_⟩ ⟨?_, ?_⟩ ?_
  · rw [settings]
    exact List.mem_singleton_self _
  · intro entry mem same
    rw [settings, List.mem_singleton] at mem
    rw [mem]
  · decide +kernel
  · decide +kernel
  · decide +kernel

end Sample

end Gumd
