import Gumd.ConfigFile
import Gumd.Lib.Runs
import Gumd.Lib.TextFile
import Gumd.LineScope

/-!
# The texts of the database

The four files are texts, of which the `fget*ent` functions read the entries and to which the `put*ent`
functions print them.  What the operations leave is read as they have left it.
-/

namespace Gumd

open Lines

/-! ## Lines -/

/-- The entry of a line; blanks before it, empty lines and lines of comments are skipped. -/
def readLine {ε : Type} (parse : List Str → Option ε) (s : Str) : Option ε :=
  match s.dropWhile isSpace with
  | [] => none
  | c :: rest => if c = 0x23 then none else parse ((c :: rest).splitOn colon)

/-- A number of a shadow entry, of 32 bits where it is larger, and `-1` where it is missing. -/
def readShadowNumber : Str → Int
  | [] => -1
  | c :: rest =>
      if c = 0x2d then if ofDecimal rest = 0 then 0 else -1
      else (BitVec.ofNat 32 (min (ofDecimal (c :: rest)) 0xffffffff)).toInt

def readShadowFlag (s : Str) : UInt64 :=
  if s = [] then 0xffffffffffffffff else UInt64.ofNat (min (ofDecimal s) 0xffffffff)

/-- `fgetpwent` and `putpwent`. -/
def pwent : LineCodec UInt8 Passwd where
  print e := line e.fields
  parse := readLine Passwd.ofFields

/-- `fgetspent` and `putspent`. -/
def spent : LineCodec UInt8 Spwd where
  print e := line e.fields
  parse := readLine fun
    | [name, pwdp, lstchg, min, max, warn, inact, expire, flag] => some
        { spNamp := name, spPwdp := pwdp, spLstchg := readShadowNumber lstchg,
          spMin := readShadowNumber min, spMax := readShadowNumber max,
          spWarn := readShadowNumber warn, spInact := readShadowNumber inact,
          spExpire := readShadowNumber expire, spFlag := readShadowFlag flag }
    | _ => none

/-- `fgetgrent` and `putgrent`. -/
def grent : LineCodec UInt8 Group where
  print e := line e.fields
  parse := readLine fun
    | [name, passwd, gid, mem] => some
        { grName := name, grPasswd := passwd, grGid := UInt32.ofNat (ofDecimal gid),
          grMem := items isSpace comma mem }
    | _ => none

/-- `fgetsgent` and `putsgent`. -/
def sgent : LineCodec UInt8 Sgrp where
  print e := line e.fields
  parse := readLine fun
    | [name, passwd, adm, mem] => some
        { sgNamp := name, sgPasswd := passwd, sgAdm := items isSpace comma adm,
          sgMem := items isSpace comma mem }
    | _ => none

/-! ## What is read as it was printed -/

/-- A name that starts no comment and is none of NIS. -/
structure EntryName (n : Str) : Prop where
  clean : Clean n
  item : Item isSpace comma n
  plain : ∀ c ∈ n.head?, c ∉ [0x23, 0x2b, 0x2d]

/-- A number of 32 bits is read as it was printed, unless it is less than `-1`. -/
theorem readShadowNumber_shadowNumber (n : Int) :
    readShadowNumber (shadowNumber n) = n ↔ -1 ≤ n ∧ n < 2 ^ 31 := by
  have bytes : ∀ {m : Nat} {c : UInt8} {rest : Str}, decimal m = c :: rest → c ≠ 0x2d := by
    rintro m c rest digits rfl
    have digit := (@digit_of_mem_decimal m 0x2d (by rw [digits]; exact List.mem_cons_self)).1
    exact absurd digit (by decide)
  have some : ∀ m : Nat, decimal m ≠ [] := by
    intro m
    rw [decimal]
    split_ifs with zero
    · simp
    · simp [Nat.digits_ne_nil_iff_ne_zero.mpr zero]
  rw [shadowNumber]
  split_ifs with unset negative
  · simp [readShadowNumber, unset]
  · -- no such number is read
    rw [readShadowNumber, if_pos rfl, ofDecimal_decimal, if_neg (by omega)]
    omega
  · obtain ⟨m, rfl⟩ := Int.eq_ofNat_of_zero_le (Int.not_lt.mp negative)
    rw [Int.toNat_natCast]
    cases digits : decimal m with
    | nil => exact absurd digits (some m)
    | cons c rest =>
      rw [readShadowNumber, if_neg (bytes digits), ← digits, ofDecimal_decimal]
      rw [BitVec.toInt_eq_toNat_cond, BitVec.toNat_ofNat]
      split_ifs <;> omega

theorem readShadowFlag_fields {flag : UInt64} (fits : flag = 0xffffffffffffffff ∨ flag.toNat < 2 ^ 32) :
    readShadowFlag (if flag = 0xffffffffffffffff then [] else decimal flag.toNat) = flag := by
  have some : decimal flag.toNat ≠ [] := by
    rw [decimal]
    split_ifs with zero
    · simp
    · simp [Nat.digits_ne_nil_iff_ne_zero.mpr zero]
  rw [readShadowFlag]
  by_cases unset : flag = 0xffffffffffffffff
  · rw [if_pos unset, if_pos rfl, unset]
  · have small := fits.resolve_left unset
    rw [if_neg unset, if_neg some, ofDecimal_decimal, min_eq_left (by omega), UInt64.ofNat_toNat]

/-- The bytes of a name the validator accepts. -/
theorem entryName_of_validName {n : Str} (accepted : gumValidateName (some n) = .ok ()) :
    EntryName n := by
  have clean := clean_of_validName accepted
  simp only [gumValidateName] at accepted
  split_ifs at accepted with size pattern
  cases n with
  | nil => exact absurd (Or.inl rfl) size
  | cons a rest =>
    rw [gumNamePatternMatches, Bool.and_eq_true] at pattern
    obtain ⟨first, others⟩ := pattern
    have letters : ∀ b : Fin 256, isNameFirst (.ofFin b) = true →
        isSpace (.ofFin b) = false ∧ UInt8.ofFin b ∉ [0x23, 0x2b, 0x2d] ∧ comma ≠ .ofFin b := by
      decide +kernel
    obtain ⟨visible, plain, noComma⟩ : isSpace a = false ∧ a ∉ [0x23, 0x2b, 0x2d] ∧ comma ≠ a :=
      letters a.toFin first
    refine ⟨clean, ⟨by simp, ?_, ?_⟩, ?_⟩
    · intro mem
      rcases List.mem_cons.mp mem with same | later
      · exact noComma same
      · exact (nameByte_of_nameRestMatches others later).elim (absurd · (by decide)) (absurd · (by decide))
    · rw [List.dropWhile_cons, visible]
      rfl
    · intro c mem
      obtain rfl := Option.some.inj mem
      exact plain

/-- The reader that `fget*ent` are. -/
def LineReader.entries : LineReader where
  name := EntryName
  number n := -1 ≤ n ∧ n < 2 ^ 31
  flag f := f = 0xffffffffffffffff ∨ f.toNat < 2 ^ 32
  clean := EntryName.clean
  valid := entryName_of_validName
  zero := by decide
  unset := by decide
  noFlag := Or.inr (by decide)
  allFlags := Or.inl rfl

/-- A line that begins with a name is read field by field. -/
theorem readLine_line {ε : Type} {parse : List Str → Option ε} {n : Str} {rest : List Str}
    (name : EntryName n) (clean : ∀ field ∈ n :: rest, Clean field) :
    readLine parse (line (n :: rest)) = parse (n :: rest) := by
  have split : (line (n :: rest)).splitOn colon = n :: rest :=
    splitOn_join (fun field mem => (clean field mem).1) (by simp)
  obtain ⟨c, tail, rfl⟩ := List.exists_cons_of_ne_nil name.item.some
  obtain ⟨later, starts⟩ : ∃ later, line ((c :: tail) :: rest) = c :: later := by
    cases rest with
    | nil => exact ⟨tail, by simp [line, join, List.intercalate]⟩
    | cons next rest => exact ⟨tail ++ colon :: join colon (next :: rest), by
        rw [line, join_cons _ (by simp), List.cons_append]⟩
  have visible : isSpace c = false := by
    have start := name.item.start
    rw [List.dropWhile_cons] at start
    split_ifs at start with blank
    · have shorter := congrArg List.length start
      have bound := (List.dropWhile_suffix isSpace (l := tail)).length_le
      rw [List.length_cons] at shorter
      omega
    · simpa using blank
  have noComment : c ≠ 0x23 := by
    rintro rfl
    exact name.plain 0x23 rfl (by decide)
  have kept : (c :: later).dropWhile isSpace = c :: later := by
    rw [List.dropWhile_cons, visible]
    rfl
  rw [starts] at split ⊢
  rw [readLine, kept]
  dsimp only
  rw [if_neg noComment, split]

theorem unbroken_line {fields : List Str} (clean : ∀ field ∈ fields, Clean field) (some : fields ≠ []) :
    newline ∉ line fields := (isLine_line clean some).unbroken

theorem Passwd.Readable.reads {e : Passwd} (readable : e.Readable .entries) :
    pwent.Reads newline e where
  unbroken := unbroken_line readable.1 (by simp [Passwd.fields])
  parse := by
    dsimp only [pwent]
    rw [← Passwd.ofFields_fields e]
    exact readLine_line readable.2 readable.1

theorem Spwd.Printable.reads {e : Spwd} (printable : e.Printable .entries) :
    spent.Reads newline e where
  unbroken := unbroken_line printable.clean (by simp [Spwd.fields])
  parse := by
    have number : ∀ {n : Int}, LineReader.entries.number n → readShadowNumber (shadowNumber n) = n :=
      fun fits => (readShadowNumber_shadowNumber _).mpr fits
    obtain ⟨lstchg, min, max, warn, inact, expire, flag⟩ := printable.ages
    dsimp only [spent]
    rw [Spwd.fields, readLine_line printable.spNamp printable.clean]
    dsimp only
    rw [number lstchg, number min, number max, number warn, number inact, number expire,
      readShadowFlag_fields flag]

theorem Group.Printable.reads {e : Group} (printable : e.Printable .entries) :
    grent.Reads newline e where
  unbroken := unbroken_line printable.clean (by simp [Group.fields])
  parse := by
    dsimp only [grent]
    rw [Group.fields, readLine_line printable.grName printable.clean]
    dsimp only
    rw [items_join fun n mem => (printable.grMem n mem).item, ofDecimal_decimal, UInt32.ofNat_toNat]

theorem Sgrp.Printable.reads {e : Sgrp} (printable : e.Printable .entries) :
    sgent.Reads newline e where
  unbroken := unbroken_line printable.clean (by simp [Sgrp.fields])
  parse := by
    dsimp only [sgent]
    rw [Sgrp.fields, readLine_line printable.sgNamp printable.clean]
    dsimp only
    rw [items_join fun n mem => (printable.sgAdm n mem).item,
      items_join fun n mem => (printable.sgMem n mem).item]

/-! ## Texts of files -/

/-- The contents of the four files; gshadow may be missing. -/
structure Texts where
  passwd : Str
  shadow : Str
  group : Str
  gshadow : Option Str
  deriving DecidableEq, Repr

/-- The system with texts in the place of entries. -/
structure TextSystem where
  texts : Texts
  userinfo : UInt32 → Option Userinfo
  users : Nat → GumdDaemonUser
  groups : Nat → GumdDaemonGroup

/-- What the `put*ent` functions print. -/
def Files.texts (f : Files) : Texts where
  passwd := pwent.write newline f.passwd
  shadow := spent.write newline f.shadow
  group := grent.write newline f.group
  gshadow := f.gshadow.map (sgent.write newline)

/-- What the `fget*ent` functions read. -/
def Texts.files (t : Texts) (userinfo : UInt32 → Option Userinfo) : Files where
  passwd := pwent.read newline t.passwd
  shadow := spent.read newline t.shadow
  group := grent.read newline t.group
  gshadow := t.gshadow.map (sgent.read newline)
  userinfo := userinfo

theorem Files.Printable.files_texts {f : Files} (printable : f.Printable .entries) :
    f.texts.files f.userinfo = f := by
  have passwd := LineCodec.read_write fun e mem => (printable.passwd e mem).reads
  have shadow := LineCodec.read_write fun e mem => (printable.shadow e mem).reads
  have group := LineCodec.read_write fun e mem => (printable.group e mem).reads
  have gshadow := printable.gshadow
  obtain ⟨_, _, _, gsh, _⟩ := f
  have gshadow' : (gsh.map (sgent.write newline)).map (sgent.read newline) = gsh := by
    cases gsh with
    | none => rfl
    | some entries => exact congrArg some (LineCodec.read_write fun e mem => (gshadow e mem).reads)
  rw [texts, Texts.files]
  dsimp only
  rw [passwd, shadow, group, gshadow']

/-! ## Runs on texts -/

def System.store (s : System) : TextSystem := ⟨s.files.texts, s.files.userinfo, s.users, s.groups⟩

namespace TextSystem

def load (t : TextSystem) : System := ⟨t.texts.files t.userinfo, t.users, t.groups⟩

/-- An operation, which reads the texts and prints what it leaves. -/
def step (t : TextSystem) (c : Call) : TextSystem := (t.load.step c).store

def run (t : TextSystem) (calls : List Call) : TextSystem := calls.foldl step t

end TextSystem

theorem System.Printable.load_store {s : System} (printable : s.Printable .entries) :
    s.store.load = s := by
  rw [TextSystem.load, store]
  dsimp only
  rw [printable.files.files_texts]

/-- A run on the texts prints what the run on the entries leaves, and that is read from them. -/
theorem run_texts {s : System} {calls : List Call} (plain : ∀ c ∈ calls, c.env.Plain .entries)
    (files : s.files.Printable .entries) (users : ∀ i, s.users i = gumdDaemonUserNew)
    (groups : ∀ i, s.groups i = gumdDaemonGroupNew) :
    s.store.run calls = (s.run calls).store ∧ (s.store.run calls).load = s.run calls := by
  have start := System.printable_new files users groups
  have stored : s.store.run calls = (s.run calls).store :=
    Runs.foldl_stored (I := System.Printable .entries) (fun _ printable => printable.load_store)
      (fun c mem _ printable => printable_step (plain c mem) printable) start
  refine ⟨stored, ?_⟩
  rw [stored]
  exact (printable_run plain start).load_store

namespace Sample

theorem ages_unset {rd : LineReader} : rd.Ages (-1) (-1) (-1) (-1) (-1) (-1) 0xffffffffffffffff :=
  ⟨rd.unset, rd.unset, rd.unset, rd.unset, rd.unset, rd.unset, rd.allFlags⟩

theorem plain_env : env.Plain .entries := ⟨plainCrypt, ages_unset⟩

theorem printable_entries : files.Printable .entries := by
  have alice : EntryName (str "alice") := entryName_of_validName (by decide)
  have staff : EntryName (str "staff") := entryName_of_validName (by decide)
  refine ⟨fun e mem => ?_, fun e mem => ?_, fun e mem => ?_, fun e mem => absurd mem List.not_mem_nil⟩
  · obtain rfl := List.mem_singleton.mp mem
    exact ⟨printable_files.passwd _ mem |>.1, alice⟩
  · obtain rfl := List.mem_singleton.mp mem
    exact ⟨alice, (printable_files.shadow _ mem).spPwdp, ages_unset⟩
  · have plain := (printable_files.group e mem).grPasswd
    rcases List.mem_cons.mp mem with rfl | mem
    · exact ⟨staff, plain, fun n member => List.mem_singleton.mp member ▸ alice⟩
    · obtain rfl := List.mem_singleton.mp mem
      exact ⟨alice, plain, fun n member => absurd member List.not_mem_nil⟩

/-- A user is added, changed through an object that was loaded, and deleted, on the texts. -/
theorem run_texts_bob :
    let system := { system with users := fun _ => gumdDaemonUserNew, groups := fun _ => gumdDaemonGroupNew }
    let calls := ([.userSet 0 (.username (some (str "bob"))), .userSet 0 (.usertype 8), .userAdd 0,
      .userNewByUid 1 1000, .userSet 1 (.realname (some (str "Al"))), .userUpdate 1,
      .userDelete 0 false] : List Operation).map call
    system.store.run calls = (system.run calls).store ∧
      (system.store.run calls).load = system.run calls := by
  apply run_texts _ printable_entries (fun _ => rfl) fun _ => rfl
  intro c mem
  obtain ⟨operation, -, rfl⟩ := List.mem_map.mp mem
  exact plain_env

end Sample

end Gumd
