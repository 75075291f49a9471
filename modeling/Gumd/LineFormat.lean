import Gumd.DaemonUser
import Gumd.Lib.TextFile

/-!
# The lines of the database files

How `put*ent` prints the entries, and how `fgetpwent` reads those of the passwd file: one line an
entry, with colons between its fields.  Lists of names have commas between the names.
-/

namespace Gumd

open Lines

/-- The separator of the fields, `":"`. -/
def colon : UInt8 := 0x3a

def newline : UInt8 := 0x0a

/-- A field that stays one field of one line. -/
def Clean (s : Str) : Prop := colon ∉ s ∧ newline ∉ s

instance : DecidablePred Clean := fun s => inferInstanceAs (Decidable (colon ∉ s ∧ newline ∉ s))

/-! ## Entries -/

/-- A number of a shadow entry; `-1` is printed as nothing. -/
def shadowNumber (n : Int) : Str :=
  if n = -1 then [] else if n < 0 then 0x2d :: decimal n.natAbs else decimal n.toNat

def Passwd.fields (e : Passwd) : List Str :=
  [e.pwName, e.pwPasswd, decimal e.pwUid.toNat, decimal e.pwGid.toNat, e.pwGecos, e.pwDir, e.pwShell]

def Spwd.fields (e : Spwd) : List Str :=
  [e.spNamp, e.spPwdp, shadowNumber e.spLstchg, shadowNumber e.spMin, shadowNumber e.spMax,
    shadowNumber e.spWarn, shadowNumber e.spInact, shadowNumber e.spExpire,
    if e.spFlag = 0xffffffffffffffff then [] else decimal e.spFlag.toNat]

def Group.fields (e : Group) : List Str :=
  [e.grName, e.grPasswd, decimal e.grGid.toNat, join comma e.grMem]

def Sgrp.fields (e : Sgrp) : List Str :=
  [e.sgNamp, e.sgPasswd, join comma e.sgAdm, join comma e.sgMem]

/-- The line of an entry. -/
def line (fields : List Str) : Str := join colon fields

/-- A line of exactly `n` fields. -/
structure IsLine (n : Nat) (s : Str) : Prop where
  fields : (s.splitOn colon).length = n
  unbroken : newline ∉ s

/-- Clean fields make a line. -/
theorem isLine_line {fields : List Str} (clean : ∀ field ∈ fields, Clean field) (some : fields ≠ []) :
    IsLine fields.length (line fields) where
  fields := by rw [line, splitOn_join (fun field mem => (clean field mem).1) some]
  unbroken := by
    intro mem
    rcases mem_join mem with same | ⟨field, mem, inside⟩
    · exact absurd same (by decide)
    · exact (clean field mem).2 inside

/-! ## Clean fields -/

theorem clean_nil : Clean [] := ⟨List.not_mem_nil, List.not_mem_nil⟩

theorem clean_decimal (n : Nat) : Clean (decimal n) := by
  constructor
  · exact fun mem => absurd (digit_of_mem_decimal mem).2 (by decide)
  · exact fun mem => absurd (digit_of_mem_decimal mem).1 (by decide)

theorem clean_shadowNumber (n : Int) : Clean (shadowNumber n) := by
  rw [shadowNumber]
  split_ifs
  · exact clean_nil
  · constructor
    · simp only [List.mem_cons, not_or]
      exact ⟨by decide, (clean_decimal _).1⟩
    · simp only [List.mem_cons, not_or]
      exact ⟨by decide, (clean_decimal _).2⟩
  · exact clean_decimal _

/-- Clean parts make a clean list. -/
theorem clean_join {parts : List Str} (clean : ∀ part ∈ parts, Clean part) :
    Clean (join comma parts) := by
  constructor
  · intro mem
    rcases mem_join mem with same | ⟨part, mem, inside⟩
    · exact absurd same (by decide)
    · exact (clean part mem).1 inside
  · intro mem
    rcases mem_join mem with same | ⟨part, mem, inside⟩
    · exact absurd same (by decide)
    · exact (clean part mem).2 inside

theorem strpbrk_eq_false {s : Str} {chars : List UInt8} (free : strpbrk s chars = false) {c : UInt8}
    (listed : c ∈ chars) : c ∉ s := by
  intro mem
  have found : strpbrk s chars = true := by
    rw [strpbrk, List.any_eq_true]
    exact ⟨c, mem, by simpa using listed⟩
  rw [free] at found
  cases found

/-- What the entry validator accepts is clean. -/
theorem clean_dbString (s : DbString) : Clean s.val := by
  have accepted := s.property
  simp only [gumValidateDbStringEntry] at accepted
  split_ifs at accepted with rejected
  by_cases empty : s.val = []
  · rw [empty]
    exact clean_nil
  · have free : strpbrk s.val (controlChars ++ [0x2c, 0x3a]) = false := by
      rw [← Bool.not_eq_true]
      exact fun found => rejected ⟨List.length_pos_iff.mpr empty, found⟩
    exact ⟨strpbrk_eq_false free (by decide), strpbrk_eq_false free (by decide)⟩

/-- What the secret validator accepts is clean. -/
theorem clean_dbSecret (s : DbSecret) : Clean s.val := by
  have accepted := s.property
  simp only [gumValidateDbSecretEntry] at accepted
  split_ifs at accepted with rejected
  have free := Bool.eq_false_iff.mpr rejected
  exact ⟨strpbrk_eq_false free (by decide), strpbrk_eq_false free (by decide)⟩

/-- The bytes of a name. -/
theorem nameByte_of_nameRestMatches {s : Str} (accepted : nameRestMatches s = true) {c : UInt8}
    (mem : c ∈ s) : isNameMiddle c = true ∨ c = 0x24 := by
  induction s with
  | nil => cases mem
  | cons a rest ih =>
    cases rest with
    | nil =>
      obtain rfl := List.mem_singleton.mp mem
      simpa [nameRestMatches] using accepted
    | cons b rest =>
      obtain ⟨first, others⟩ : isNameMiddle a = true ∧ nameRestMatches (b :: rest) = true := by
        simpa [nameRestMatches] using accepted
      rcases List.mem_cons.mp mem with rfl | later
      · exact Or.inl first
      · exact ih others later

/-- What the name validator accepts is clean. -/
theorem clean_of_validName {s : Str} (accepted : gumValidateName (some s) = .ok ()) : Clean s := by
  simp only [gumValidateName] at accepted
  split_ifs at accepted with size pattern
  have named : ∀ c ∈ s, isNameMiddle c = true ∨ c = 0x24 := by
    cases s with
    | nil => exact fun c mem => nomatch mem
    | cons a rest =>
      rw [gumNamePatternMatches, Bool.and_eq_true] at pattern
      intro c mem
      rcases List.mem_cons.mp mem with rfl | later
      · exact Or.inl (by rw [isNameMiddle, pattern.1, Bool.true_or, Bool.true_or, Bool.true_or])
      · exact nameByte_of_nameRestMatches pattern.2 later
  exact ⟨fun mem => absurd (named _ mem) (by decide), fun mem => absurd (named _ mem) (by decide)⟩

theorem clean_gecos (g : Gecos) : Clean g.val := by
  obtain ⟨fields, -, same⟩ := g.property
  rw [same]
  refine clean_join fun part mem => ?_
  obtain ⟨field, -, rfl⟩ := List.mem_map.mp mem
  exact clean_dbString field

/-- A nullable field that is written as empty. -/
theorem clean_getD {p : Str → Prop} (clean : ∀ s : Subtype p, Clean s.val) (s : Option (Subtype p)) :
    Clean ((ptr s).getD []) := by
  cases s with
  | none => exact clean_nil
  | some s => exact clean s

/-! ## The passwd file -/

/-- An entry whose line reads as the entry. -/
def Passwd.Printable (e : Passwd) : Prop := ∀ field ∈ e.fields, Clean field

instance : DecidablePred Passwd.Printable := fun e =>
  inferInstanceAs (Decidable (∀ field ∈ e.fields, Clean field))

/-- What an object's record is written as is printable. -/
theorem printable_of_putpwent {pw : PasswdRecord} {entry : Passwd} (put : pw.putpwent = some entry) :
    entry.Printable := by
  obtain ⟨name, given, rfl⟩ := Option.map_eq_some_iff.mp put
  intro field mem
  simp only [Passwd.fields, List.mem_cons, List.not_mem_nil, or_false] at mem
  rcases mem with rfl | rfl | rfl | rfl | rfl | rfl | rfl
  · exact clean_of_validName name.property
  · exact clean_getD clean_dbSecret _
  · exact clean_decimal _
  · exact clean_decimal _
  · exact clean_getD clean_gecos _
  · exact clean_getD clean_dbString _
  · exact clean_getD clean_dbString _

/-- The entry of the seven fields of a line. -/
def Passwd.ofFields : List Str → Option Passwd
  | [name, passwd, uid, gid, gecos, dir, shell] => some
      { pwName := name, pwPasswd := passwd, pwUid := UInt32.ofNat (ofDecimal uid),
        pwGid := UInt32.ofNat (ofDecimal gid), pwGecos := gecos, pwDir := dir, pwShell := shell }
  | _ => none

theorem Passwd.ofFields_fields (e : Passwd) : Passwd.ofFields e.fields = some e := by
  simp [Passwd.ofFields, Passwd.fields, ofDecimal_decimal]

/-- The lines `putpwent` prints, read field by field. -/
def passwdLines : LineCodec UInt8 Passwd where
  print e := line e.fields
  parse s := Passwd.ofFields (s.splitOn colon)

/-- The line of a printable entry is read as the entry. -/
theorem Passwd.Printable.reads {e : Passwd} (printable : e.Printable) :
    passwdLines.Reads newline e where
  unbroken := (isLine_line printable (by simp [Passwd.fields])).unbroken
  parse := by
    have fields : (line e.fields).splitOn colon = e.fields :=
      splitOn_join (fun field mem => (printable field mem).1) (by simp [Passwd.fields])
    dsimp only [passwdLines]
    rw [fields, Passwd.ofFields_fields]

end Gumd
