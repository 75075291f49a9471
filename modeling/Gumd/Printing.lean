import Gumd.FileSteps
import Gumd.LineFormat

/-!
# What is printed to the files

Every text that an object holds has passed a validator, was made by the program or was read from one of
the files.  So no line that an operation prints has a separator inside a field.
-/

namespace Gumd

open StateWp EntryLoop Lines

/-! ## Entries and files -/

/-- What a reader of the lines expects, besides clean fields, of the names and the numbers in them.  It
expects nothing that the program does not write. -/
structure LineReader where
  name : Str → Prop
  number : Int → Prop
  flag : UInt64 → Prop
  clean : ∀ {n}, name n → Clean n
  valid : ∀ {n}, gumValidateName (some n) = .ok () → name n
  zero : number 0
  unset : number (-1)
  noFlag : flag 0
  allFlags : flag 0xffffffffffffffff

variable {rd : LineReader}

def Passwd.Readable (rd : LineReader) (e : Passwd) : Prop := e.Printable ∧ rd.name e.pwName

/-- The numbers of a shadow entry or of a shadow record. -/
structure LineReader.Ages (rd : LineReader) (lstchg min max warn inact expire : Int) (flag : UInt64) :
    Prop where
  lstchg : rd.number lstchg
  min : rd.number min
  max : rd.number max
  warn : rd.number warn
  inact : rd.number inact
  expire : rd.number expire
  flag : rd.flag flag

/-- An entry of the shadow file without separators in its texts. -/
structure Spwd.Printable (rd : LineReader) (e : Spwd) : Prop where
  spNamp : rd.name e.spNamp
  spPwdp : Clean e.spPwdp
  ages : rd.Ages e.spLstchg e.spMin e.spMax e.spWarn e.spInact e.spExpire e.spFlag

structure Group.Printable (rd : LineReader) (e : Group) : Prop where
  grName : rd.name e.grName
  grPasswd : Clean e.grPasswd
  grMem : ∀ n ∈ e.grMem, rd.name n

structure Sgrp.Printable (rd : LineReader) (e : Sgrp) : Prop where
  sgNamp : rd.name e.sgNamp
  sgPasswd : Clean e.sgPasswd
  sgAdm : ∀ n ∈ e.sgAdm, rd.name n
  sgMem : ∀ n ∈ e.sgMem, rd.name n

/-- Entries as the `fget*ent` functions read them from lines. -/
structure Files.Printable (rd : LineReader) (f : Files) : Prop where
  passwd : ∀ e ∈ f.passwd, e.Readable rd
  shadow : ∀ e ∈ f.shadow, e.Printable rd
  group : ∀ e ∈ f.group, e.Printable rd
  gshadow : ∀ e ∈ f.gshadow.getD [], e.Printable rd

/-- Every line has the fields of its format. -/
structure Files.Lines (f : Files) : Prop where
  passwd : ∀ e ∈ f.passwd, IsLine 7 (line e.fields)
  shadow : ∀ e ∈ f.shadow, IsLine 9 (line e.fields)
  group : ∀ e ∈ f.group, IsLine 4 (line e.fields)
  gshadow : ∀ e ∈ f.gshadow.getD [], IsLine 4 (line e.fields)

theorem Spwd.Printable.clean {e : Spwd} (printable : e.Printable rd) : ∀ field ∈ e.fields, Clean field := by
  intro field mem
  simp only [Spwd.fields, List.mem_cons, List.not_mem_nil, or_false] at mem
  rcases mem with rfl | rfl | rfl | rfl | rfl | rfl | rfl | rfl | rfl
  · exact rd.clean printable.spNamp
  · exact printable.spPwdp
  · exact clean_shadowNumber _
  · exact clean_shadowNumber _
  · exact clean_shadowNumber _
  · exact clean_shadowNumber _
  · exact clean_shadowNumber _
  · exact clean_shadowNumber _
  · split_ifs
    · exact clean_nil
    · exact clean_decimal _

theorem Group.Printable.clean {e : Group} (printable : e.Printable rd) :
    ∀ field ∈ e.fields, Clean field := by
  intro field mem
  simp only [Group.fields, List.mem_cons, List.not_mem_nil, or_false] at mem
  rcases mem with rfl | rfl | rfl | rfl
  · exact rd.clean printable.grName
  · exact printable.grPasswd
  · exact clean_decimal _
  · exact clean_join fun n mem => rd.clean (printable.grMem n mem)

theorem Sgrp.Printable.clean {e : Sgrp} (printable : e.Printable rd) : ∀ field ∈ e.fields, Clean field := by
  intro field mem
  simp only [Sgrp.fields, List.mem_cons, List.not_mem_nil, or_false] at mem
  rcases mem with rfl | rfl | rfl | rfl
  · exact rd.clean printable.sgNamp
  · exact printable.sgPasswd
  · exact clean_join fun n mem => rd.clean (printable.sgAdm n mem)
  · exact clean_join fun n mem => rd.clean (printable.sgMem n mem)

theorem Files.Printable.lines {f : Files} (printable : f.Printable rd) : f.Lines where
  passwd e mem := isLine_line (printable.passwd e mem).1 (by simp [Passwd.fields])
  shadow e mem := isLine_line (printable.shadow e mem).clean (by simp [Spwd.fields])
  group e mem := isLine_line (printable.group e mem).clean (by simp [Group.fields])
  gshadow e mem := isLine_line (printable.gshadow e mem).clean (by simp [Sgrp.fields])

theorem Files.Printable.of_same {f f' : Files} (printable : f.Printable rd) (same : f.SameDb f') :
    f'.Printable rd where
  passwd := by rw [same.passwd]; exact printable.passwd
  shadow := by rw [same.shadow]; exact printable.shadow
  group := by rw [same.group]; exact printable.group
  gshadow := by rw [same.gshadow]; exact printable.gshadow

/-! ## Objects -/

/-- The shadow record of a user object is the one that holds what no setter has checked. -/
structure GumdDaemonUser.Printable (rd : LineReader) (u : GumdDaemonUser) : Prop where
  spNamp : ∀ s ∈ u.shadow.spNamp, rd.name s
  spPwdp : ∀ s ∈ u.shadow.spPwdp, Clean s
  ages : rd.Ages u.shadow.spLstchg u.shadow.spMin u.shadow.spMax u.shadow.spWarn u.shadow.spInact
    u.shadow.spExpire u.shadow.spFlag

/-- The same of a group object, with the member list of its group record. -/
structure GumdDaemonGroup.Printable (rd : LineReader) (g : GumdDaemonGroup) : Prop where
  grMem : ∀ l ∈ g.group.grMem, ∀ n ∈ l, rd.name n
  sgNamp : ∀ s ∈ g.gshadow.sgNamp, rd.name s
  sgPasswd : ∀ s ∈ g.gshadow.sgPasswd, Clean s
  sgAdm : ∀ l ∈ g.gshadow.sgAdm, ∀ n ∈ l, rd.name n
  sgMem : ∀ l ∈ g.gshadow.sgMem, ∀ n ∈ l, rd.name n

/-- `crypt` returns printable characters and no colon. -/
def Env.PlainCrypt (env : Env) : Prop :=
  ∀ secret setting hash, env.crypt secret setting = some hash → Clean hash

/-- What the environment puts into the files is as the reader expects it. -/
structure Env.Plain (rd : LineReader) (env : Env) : Prop where
  crypt : env.PlainCrypt
  ages : rd.Ages (GumdDaemonUser.lastChange env.time) (gumConfigGetInt env.config gumConfigGeneralPassMinDays (-1))
    (gumConfigGetInt env.config gumConfigGeneralPassMaxDays (-1))
    (gumConfigGetInt env.config gumConfigGeneralPassWarnAge (-1)) (-1) (-1) 0xffffffffffffffff

/-- A reader that takes fields of any kind. -/
def LineReader.fields : LineReader where
  name := Clean
  number _ := True
  flag _ := True
  clean := id
  valid := clean_of_validName
  zero := trivial
  unset := trivial
  noFlag := trivial
  allFlags := trivial

theorem Env.PlainCrypt.plain {env : Env} (crypt : env.PlainCrypt) : env.Plain .fields :=
  ⟨crypt, trivial, trivial, trivial, trivial, trivial, trivial, trivial⟩

theorem name_ptr (name : Option ValidName) : ∀ s ∈ ptr name, rd.name s := by
  intro s mem
  obtain ⟨name, -, rfl⟩ := Option.map_eq_some_iff.mp mem
  exact rd.valid name.property

/-- A `NULL` text is written as empty. -/
theorem clean_text {s : Option Str} (clean : ∀ t ∈ s, Clean t) : Clean (s.getD []) := by
  cases s with
  | none => exact clean_nil
  | some s => exact clean s rfl

/-- A `NULL` list is written as empty. -/
theorem name_getD {l : Option (List Str)} (named : ∀ names ∈ l, ∀ n ∈ names, rd.name n) :
    ∀ n ∈ l.getD [], rd.name n := by
  cases l with
  | none => exact fun n mem => absurd mem List.not_mem_nil
  | some names => exact named names rfl

theorem readable_of_putpwent {pw : PasswdRecord} {e : Passwd} (put : pw.putpwent = some e) :
    e.Readable rd := by
  refine ⟨printable_of_putpwent put, ?_⟩
  obtain ⟨name, -, rfl⟩ := Option.map_eq_some_iff.mp put
  exact rd.valid name.property

theorem printable_of_putspent {u : GumdDaemonUser} {e : Spwd} (printable : u.Printable rd)
    (put : u.shadow.putspent = some e) : e.Printable rd := by
  obtain ⟨name, named, rfl⟩ := Option.map_eq_some_iff.mp put
  exact ⟨printable.spNamp name named, clean_text printable.spPwdp, printable.ages⟩

theorem printable_of_putgrent {g : GumdDaemonGroup} {e : Group} (printable : g.Printable rd)
    (put : g.group.putgrent = some e) : e.Printable rd := by
  obtain ⟨name, -, rfl⟩ := Option.map_eq_some_iff.mp put
  exact ⟨rd.valid name.property, clean_getD clean_dbSecret _, name_getD printable.grMem⟩

theorem printable_of_putsgent {g : GumdDaemonGroup} {e : Sgrp} (printable : g.Printable rd)
    (put : g.gshadow.putsgent = some e) : e.Printable rd := by
  obtain ⟨name, named, rfl⟩ := Option.map_eq_some_iff.mp put
  exact ⟨printable.sgNamp name named, clean_text printable.sgPasswd,
    name_getD printable.sgAdm, name_getD printable.sgMem⟩

/-- A lock mark in front of a password, or taken away, leaves it clean. -/
theorem Spwd.Printable.relock {e : Spwd} (printable : e.Printable rd) (lock : Bool) :
    (e.relock lock).Printable rd := by
  refine ⟨printable.spNamp, ?_, printable.ages⟩
  change Clean ((lockedPwdp lock e).getD [])
  rw [lockedPwdp]
  split_ifs
  · constructor
    · exact List.not_mem_cons_of_ne_of_not_mem (by decide) printable.spPwdp.1
    · exact List.not_mem_cons_of_ne_of_not_mem (by decide) printable.spPwdp.2
  · exact ⟨fun mem => printable.spPwdp.1 (List.mem_of_mem_tail mem),
      fun mem => printable.spPwdp.2 (List.mem_of_mem_tail mem)⟩
  · exact clean_nil

/-! ## Rewrites -/

/-- Every entry a callback leaves is one of the file, or the record it puts. -/
theorem mem_finishUpdate {ε : Type} {op : GumOpType} {put : Option ε} {addError incomplete : GError}
    {visit : ε → Visit ε GError} {source out : List ε}
    (writes : ∀ e x, visit e = .insert x ∨ visit e = .replace x → put = some x)
    (finished : finishUpdate op put addError incomplete (copyLoop visit false source) = .ok out) :
    ∀ e ∈ out, e ∈ source ∨ put = some e := by
  cases copied : copyLoop visit false source with
  | error err => simp [copied, finishUpdate] at finished
  | ok r =>
    obtain ⟨edited, copy⟩ := r
    have kept := mem_copyLoop writes copied
    rw [copied] at finished
    cases edited with
    | true =>
      obtain rfl := Except.ok.inj finished
      exact kept
    | false =>
      cases op with
      | add =>
        cases put with
        | none => cases finished
        | some new =>
          obtain rfl := Except.ok.inj finished
          intro e mem
          rcases List.mem_append.mp mem with mem | mem
          · exact kept e mem
          · exact Or.inr (congrArg some (List.mem_singleton.mp mem).symm)
      | delete => cases finished
      | modify => cases finished

theorem putVisit_insert {ε : Type} {put : Option ε} {x : ε}
    (written : (putVisit put .insert : Visit ε GError) = .insert x ∨
      (putVisit put .insert : Visit ε GError) = .replace x) : put = some x := by
  cases put with
  | none => rcases written with written | written <;> cases written
  | some new =>
    rcases written with written | written
    · exact congrArg some (Visit.insert.inj written)
    · cases written

theorem putVisit_replace {ε : Type} {put : Option ε} {x : ε}
    (written : (putVisit put .replace : Visit ε GError) = .insert x ∨
      (putVisit put .replace : Visit ε GError) = .replace x) : put = some x := by
  cases put with
  | none => rcases written with written | written <;> cases written
  | some new =>
    rcases written with written | written
    · cases written
    · exact congrArg some (Visit.replace.inj written)

section Callbacks

variable {op : GumOpType} {userData : Option Str}

theorem mem_updatePasswdEntry {u : GumdDaemonUser} {source out : List Passwd}
    (edited : updatePasswdEntry u op userData source = .ok out) :
    ∀ e ∈ out, e ∈ source ∨ u.pw.putpwent = some e := by
  apply mem_finishUpdate _ edited
  intro e x written
  cases op <;> dsimp only at written <;> split_ifs at written
  · exact putVisit_insert written
  all_goals first
    | exact putVisit_replace written
    | rcases written with written | written <;> cases written

theorem mem_updateShadowEntry {u : GumdDaemonUser} {source out : List Spwd}
    (edited : updateShadowEntry u op userData source = .ok out) :
    ∀ e ∈ out, e ∈ source ∨ u.shadow.putspent = some e := by
  apply mem_finishUpdate _ edited
  intro e x written
  cases op <;> dsimp only at written <;> split_ifs at written
  all_goals first
    | exact putVisit_replace written
    | rcases written with written | written <;> cases written

theorem mem_lockShadowEntry {u : GumdDaemonUser} {lock : Bool} {source out : List Spwd}
    (edited : lockShadowEntry u lock source = .ok out) :
    ∀ e ∈ out, e ∈ source ∨ ∃ old ∈ source, e = old.relock lock := by
  rw [lockShadowEntry_eq] at edited
  split_ifs at edited
  obtain rfl := Except.ok.inj edited
  intro e mem
  refine (mem_modifyFirst mem).imp_right ?_
  exact fun relocked => relocked.imp fun old found => ⟨found.1, found.2.2⟩

theorem mem_updateDaemonGroupEntry {g : GumdDaemonGroup} {source out : List Group}
    (edited : updateDaemonGroupEntry g op userData source = .ok out) :
    ∀ e ∈ out, e ∈ source ∨ g.group.putgrent = some e := by
  apply mem_finishUpdate _ edited
  intro e x written
  cases op <;> dsimp only at written <;> split_ifs at written
  · exact putVisit_insert written
  all_goals first
    | exact putVisit_replace written
    | rcases written with written | written <;> cases written

theorem mem_updateGshadowEntry {g : GumdDaemonGroup} {source out : List Sgrp}
    (edited : updateGshadowEntry g op userData source = .ok out) :
    ∀ e ∈ out, e ∈ source ∨ g.gshadow.putsgent = some e := by
  apply mem_finishUpdate _ edited
  intro e x written
  cases op <;> dsimp only at written <;> split_ifs at written
  all_goals first
    | exact putVisit_replace written
    | rcases written with written | written <;> cases written

end Callbacks

/-- Printable files hold the file with entries that satisfy `P`, and with no others. -/
structure DbFile.Holds {ε : Type} (rd : LineReader) (file : DbFile ε) (P : ε → Prop) : Prop where
  entries : ∀ {f : Files}, f.Printable rd → ∀ entries, file.entries f = some entries → ∀ e ∈ entries, P e
  rename : ∀ {f : Files}, f.Printable rd → ∀ out, (∀ e ∈ out, P e) → (file.rename out f).Printable rd

theorem holds_passwdFile : passwdFile.Holds rd (Passwd.Readable rd) where
  entries printable entries present := by
    obtain rfl := Option.some.inj present
    exact printable.passwd
  rename printable _ out := { printable with passwd := out }

theorem holds_shadowFile : shadowFile.Holds rd (Spwd.Printable rd) where
  entries printable entries present := by
    obtain rfl := Option.some.inj present
    exact printable.shadow
  rename printable _ out := { printable with shadow := out }

theorem holds_groupFile : groupFile.Holds rd (Group.Printable rd) where
  entries printable entries present := by
    obtain rfl := Option.some.inj present
    exact printable.group
  rename printable _ out := { printable with group := out }

theorem holds_gshadowFile : gshadowFile.Holds rd (Sgrp.Printable rd) where
  entries {f} printable entries present := by
    have old := printable.gshadow
    rwa [show f.gshadow = some entries from present] at old
  rename printable _ out := { printable with gshadow := out }

/-- A rewrite that makes printable entries of printable ones leaves printable files. -/
theorem DbFile.Holds.rewrite {ε : Type} {file : DbFile ε} {P : ε → Prop} (holds : file.Holds rd P)
    {callback : List ε → Except GError (List ε)}
    (puts : ∀ source out, callback source = .ok out → (∀ e ∈ source, P e) → ∀ e ∈ out, P e)
    {f f' : Files} (printable : f.Printable rd) (written : file.rewrite callback f = .ok f') :
    f'.Printable rd := by
  obtain ⟨entries, out, present, result, rfl⟩ := DbFile.rewrite_ok written
  apply holds.rename printable out
  exact puts entries out result (holds.entries printable entries present)

/-! ## The parts of an operation -/

/-- A program on the files that leaves them printable. -/
abbrev PrintsFiles {α : Type} (rd : LineReader) (P : α → Prop) (m : StateM World α) : Prop :=
  Maintains (fun w : World => w.files.Printable rd) P m

/-- A program of an object that leaves the files printable, and what the object holds. -/
abbrev Prints {O α : Type} (rd : LineReader) (own : O → Prop) (P : α → Prop) (m : GumM O α) : Prop :=
  Maintains (fun s : St O => s.world.files.Printable rd ∧ own s.self) P m

/-- The fact about a value nothing depends on. -/
abbrev Any {α : Type} : α → Prop := fun _ => True

section Parts

variable {O α ε : Type} {own : O → Prop} {P : α → Prop}

theorem printsFiles_of_looks {m : StateM World α} (looks : Looks m) : PrintsFiles rd Any m := by
  apply Maintains.of_rewrites looks
  intro w t quiet printable
  rwa [quiet.files]

theorem printsFiles_gumFileLookup {fopen : StateM World Bool} {found : Files → Option ε}
    {Q : ε → Prop} (opens : Looks fopen)
    (holds : ∀ f : Files, f.Printable rd → ∀ e ∈ found f, Q e) :
    PrintsFiles rd (fun r => ∀ e ∈ r, Q e) (gumFileLookup fopen found) := by
  apply Maintains.bind (printsFiles_of_looks opens)
  intro opened _
  apply Maintains.ite
  · exact fun _ w printable => ⟨printable, holds w.files printable⟩
  · exact fun _ => .pure fun e mem => by cases mem

theorem printsFiles_gumFileUpdate {file : DbFile ε} {Q : ε → Prop} (holds : file.Holds rd Q)
    {callback : List ε → Except GError (List ε)}
    (puts : ∀ source out, callback source = .ok out → (∀ e ∈ source, Q e) → ∀ e ∈ out, Q e) :
    PrintsFiles rd Any (gumFileUpdate file callback) := by
  intro w printable
  refine wp_mono (gumFileUpdate_spec file callback w) ?_
  intro ok t spec
  refine ⟨?_, trivial⟩
  rcases spec.2 with ⟨-, same, -⟩ | ⟨-, written⟩
  · rwa [same]
  · exact holds.rewrite puts printable written

theorem printsFiles_lock : PrintsFiles rd Any gumLockPwdfLock := by
  intro w printable
  refine ⟨?_, trivial⟩
  change w.afterLock.files.Printable rd
  rwa [World.files_afterLock]

theorem printsFiles_unlock : PrintsFiles rd Any gumLockPwdfUnlock := by
  intro w printable
  refine ⟨?_, trivial⟩
  change w.afterUnlock.files.Printable rd
  rwa [World.files_afterUnlock]

theorem printsFiles_runOn {object : O} (held : own object) {m : GumM O α} (prints : Prints rd own P m) :
    PrintsFiles rd (fun r => P r.1) (runOn object m) := by
  intro w printable
  rw [wp_runOn]
  refine wp_mono (prints ⟨object, w⟩ ⟨printable, held⟩) ?_
  exact fun a t kept => ⟨kept.1.1, kept.2⟩

namespace Prints

theorem lift {m : StateM World α} (prints : PrintsFiles rd P m) : Prints rd own P (liftM m : GumM O α) := by
  intro s kept
  have after := prints s.world kept.1
  exact ⟨⟨after.1, kept.2⟩, after.2⟩

theorem of_looks {m : StateM World α} (looks : Looks m) : Prints rd own Any (liftM m : GumM O α) :=
  lift (printsFiles_of_looks looks)

/-- A program that keeps the object and changes no entry. -/
theorem of_same {m : GumM O α} (same : Rewrites (fun s t => t.self = s.self ∧
    s.world.files.SameDb t.world.files) m) : Prints rd own Any m := by
  apply Maintains.of_rewrites same
  intro s t moved kept
  refine ⟨kept.1.of_same moved.2, ?_⟩
  rw [moved.1]
  exact kept.2

theorem getSelf : Prints rd own own (Gumd.getSelf : GumM O O) := fun _ kept => ⟨kept, kept.2⟩

theorem modifySelf {change : O → O} (keeps : ∀ o, own o → own (change o)) :
    Prints rd own Any (Gumd.modifySelf change) :=
  fun s kept => ⟨⟨kept.1, keeps s.self kept.2⟩, trivial⟩

theorem returnWithError (e : GError) {retval : α} (holds : P retval) :
    Prints rd own P (liftM (gumReturnWithError e retval) : GumM O α) :=
  fun _ kept => ⟨kept, holds⟩

theorem unlockReturn (retval : α) : Prints rd own Any (Gumd.unlockReturn retval : GumM O α) :=
  .bind (lift printsFiles_unlock) fun _ _ => .pure trivial

theorem unlockReturnWithError (e : GError) (retval : α) :
    Prints rd own Any (Gumd.unlockReturnWithError e retval : GumM O α) :=
  .bind (lift printsFiles_unlock) fun _ _ => returnWithError e trivial

/-- An early return with an error. -/
theorem refusal (e : GError) (retval : α) :
    Prints rd own Any (liftM (gumReturnWithError e retval) >>= Pure.pure : GumM O α) :=
  .bind (P := Any) (returnWithError e trivial) fun _ _ => .pure trivial

/-- An operation that takes the lock first. -/
theorem locked {body : GumM O α} (e : GError) (retval : α) (prints : Prints rd own Any body) :
    Prints rd own Any (liftM gumLockPwdfLock >>= fun ok =>
      if !ok then liftM (gumReturnWithError e retval) >>= Pure.pure else body) :=
  .guard (lift printsFiles_lock) (refusal e retval) prints

end Prints

end Parts

/-! ## Groups -/

theorem printable_getgrnam {f : Files} (printable : f.Printable rd) (name : Str) :
    ∀ e ∈ f.getgrnam name, e.Printable rd :=
  fun e found => printable.group e (List.mem_of_find?_eq_some found)

theorem printable_getgrgid {f : Files} (printable : f.Printable rd) (gid : UInt32) :
    ∀ e ∈ f.getgrgid gid, e.Printable rd :=
  fun e found => printable.group e (List.mem_of_find?_eq_some found)

theorem printable_getsgnam {f : Files} (printable : f.Printable rd) (name : Str) :
    ∀ e ∈ f.getsgnam name, e.Printable rd :=
  fun e found => printable.gshadow e (List.mem_of_find?_eq_some found)

theorem printsFiles_gumFileGetsgnam (name : Option Str) :
    PrintsFiles rd (fun r => ∀ e ∈ r, e.Printable rd) (gumFileGetsgnam name) := by
  cases name with
  | none => exact .pure fun e mem => by cases mem
  | some name =>
    apply Maintains.bind (P := fun _ => True) (fun w printable => ⟨printable, trivial⟩)
    intro w _
    apply Maintains.ite
    · exact fun _ => .pure fun e mem => by cases mem
    · exact fun _ => printsFiles_gumFileLookup looks_openShadowFile fun f printable =>
        printable_getsgnam printable name

theorem printsFiles_lookupIf {ε : Type} {c : Prop} [Decidable c] {m : StateM World (Option ε)}
    {other : Option ε} {P : Option ε → Prop} (looks : PrintsFiles rd P m) (given : P other) :
    PrintsFiles rd P (lookupIf c m other) :=
  .ite (fun _ => looks) fun _ => .pure given

namespace GumdDaemonGroup

theorem printable_new : gumdDaemonGroupNew.Printable rd := by
  constructor <;> exact fun _ mem => by cases mem

/-- The setters keep what no setter checks. -/
theorem Printable.of_same {g g' : GumdDaemonGroup} (printable : g.Printable rd)
    (grMem : g'.group.grMem = g.group.grMem) (gshadow : g'.gshadow = g.gshadow) : g'.Printable rd where
  grMem := by rw [grMem]; exact printable.grMem
  sgNamp := by rw [gshadow]; exact printable.sgNamp
  sgPasswd := by rw [gshadow]; exact printable.sgPasswd
  sgAdm := by rw [gshadow]; exact printable.sgAdm
  sgMem := by rw [gshadow]; exact printable.sgMem

theorem prints_getGroup : Prints rd (Printable rd) (fun r => ∀ e ∈ r, e.Printable rd) getGroup := by
  apply Maintains.bind Prints.getSelf
  intro self _
  apply Maintains.bind (P := fun r => ∀ e ∈ r, e.Printable rd)
  · apply Prints.lift
    apply printsFiles_lookupIf
    · exact printsFiles_gumFileLookup looks_openFile fun f printable => printable_getgrgid printable _
    · exact fun e mem => by cases mem
  intro byGid listed
  apply Maintains.bind (P := fun r => ∀ e ∈ r, e.Printable rd)
  · apply Prints.lift
    apply printsFiles_lookupIf _ listed
    cases ptr self.group.grName with
    | none => exact .pure fun e mem => by cases mem
    | some name =>
      exact printsFiles_gumFileLookup looks_openFile fun f printable => printable_getgrnam printable name
  intro grp listed
  cases picked : grp.filter self.group.agrees with
  | none => exact Prints.returnWithError _ fun e mem => by cases mem
  | some entry =>
    apply Maintains.pure
    intro e mem
    obtain rfl := Option.some.inj mem
    exact listed entry (Option.filter_eq_some_iff.mp picked).1

theorem printable_copyGroupEntries {g : GumdDaemonGroup} (printable : g.Printable rd) {gent : Group}
    (group : gent.Printable rd) {sgent : Option Sgrp} (gshadow : ∀ e ∈ sgent, e.Printable rd) :
    (g.copyGroupEntries gent sgent).Printable rd := by
  have grMem : ∀ l ∈ (g.copyGroupEntries gent sgent).group.grMem, ∀ n ∈ l, rd.name n := by
    intro l mem
    obtain rfl := Option.some.inj mem
    exact group.grMem
  cases sgent with
  | none => exact { printable with grMem := grMem }
  | some e =>
    have clean := gshadow e rfl
    refine ⟨grMem, ?_, ?_, ?_, ?_⟩
    all_goals
      intro text mem
      obtain rfl := Option.some.inj mem
    exacts [clean.sgNamp, clean.sgPasswd, clean.sgAdm, clean.sgMem]

theorem prints_copyGroupData {gent : Option Group} (group : ∀ e ∈ gent, e.Printable rd)
    {sgent : Option Sgrp} (gshadow : ∀ e ∈ sgent, e.Printable rd) :
    Prints rd (Printable rd) Any (copyGroupData gent sgent) := by
  apply Maintains.bind (P := fun r => ∀ e ∈ r, e.Printable rd)
  · exact .ite (fun _ => prints_getGroup) fun _ => .pure group
  intro found listed
  cases found with
  | none => exact .pure trivial
  | some entry =>
    apply Maintains.bind (P := fun r => ∀ e ∈ r, e.Printable rd)
    · exact Prints.lift (printsFiles_lookupIf (printsFiles_gumFileGetsgnam _) gshadow)
    intro sentry listed'
    apply Maintains.bind
    · exact Prints.modifySelf fun g printable =>
        printable_copyGroupEntries printable (listed entry rfl) listed'
    · exact fun _ _ => .pure trivial

theorem prints_updateGroupFile (op : GumOpType) (userData : Option Str) :
    Prints rd (Printable rd) Any (updateGroupFile op userData) := by
  apply Maintains.bind Prints.getSelf
  intro self printable
  apply Prints.lift
  apply printsFiles_gumFileUpdate holds_groupFile
  intro source out edited kept e mem
  exact (mem_updateDaemonGroupEntry edited e mem).elim (kept e) (printable_of_putgrent printable)

theorem prints_updateGshadowFileIf (wanted : Bool) (op : GumOpType) (userData : Option Str) :
    Prints rd (Printable rd) Any (updateGshadowFileIf wanted op userData) := by
  apply Maintains.ite
  · exact fun _ => .pure trivial
  intro _
  apply Maintains.bind Prints.getSelf
  intro self printable
  apply Prints.lift
  apply printsFiles_gumFileUpdate holds_gshadowFile
  intro source out edited kept e mem
  exact (mem_updateGshadowEntry edited e mem).elim (kept e) (printable_of_putsgent printable)

theorem prints_updateGshadowFile (op : GumOpType) (userData : Option Str) :
    Prints rd (Printable rd) Any (updateGshadowFile op userData) := by
  apply Maintains.bind (P := Any) (fun s kept => ⟨kept, trivial⟩)
  exact fun s _ => prints_updateGshadowFileIf _ op userData

theorem prints_writeBoth {α : Type} {exit rest : GroupM α} (op : GumOpType)
    (userData : Option Str) (leave : Prints rd (Printable rd) Any exit) (stay : Prints rd (Printable rd) Any rest) :
    Prints rd (Printable rd) Any (updateGroupFile op userData >>= fun ok => if !ok then exit else
      updateGshadowFile op userData >>= fun ok => if !ok then exit else rest) :=
  .guard (prints_updateGroupFile op userData) leave
    (.guard (prints_updateGshadowFile op userData) leave stay)

/-! ### The secret -/

variable {env : Env}

theorem clean_encrypted {secret : Str} {encrypAlgo : Option Str} (plain : env.PlainCrypt) :
    ∀ hash ∈ gumCryptEncryptSecret env.crypt env.urandom secret encrypAlgo, Clean hash := by
  intro hash mem
  rw [gumCryptEncryptSecret] at mem
  cases salt : generateSalt env.urandom encrypAlgo with
  | none => simp [salt] at mem
  | some setting =>
    rw [salt] at mem
    exact plain secret setting hash mem

theorem prints_setSecret (plain : env.PlainCrypt) : Prints rd (Printable rd) Any (setSecret env) := by
  apply Maintains.bind Prints.getSelf
  intro self _
  cases self.group.grPasswd with
  | none =>
    apply Maintains.bind
    · apply Prints.modifySelf
      intro g printable
      refine { printable with sgPasswd := fun s mem => ?_ }
      obtain rfl := Option.some.inj mem
      split_ifs <;> decide
    · exact fun _ _ => .pure trivial
  | some secret =>
    have clean := @clean_encrypted env secret.val
      (gumConfigGetString env.config gumConfigGeneralEncryptMethod) plain
    apply Maintains.bind
    · exact Prints.modifySelf fun g printable => { printable with sgPasswd := clean }
    intro _ _
    apply Maintains.ite
    · exact fun _ => Prints.refusal _ _
    intro _
    apply Maintains.bind
    · exact Prints.modifySelf fun g printable => printable.of_same rfl rfl
    · exact fun _ _ => .pure trivial

theorem prints_setGshadowData (plain : env.PlainCrypt) :
    Prints rd (Printable rd) Any (setGshadowData env) := by
  apply Maintains.bind
  · exact Prints.modifySelf fun g printable => { printable with sgNamp := name_ptr _ }
  intro _ _
  apply Maintains.guard (prints_setSecret plain) (.pure trivial)
  apply Maintains.bind
  · exact Prints.modifySelf fun g printable => { printable with sgMem := printable.grMem }
  · exact fun _ _ => .pure trivial

/-! ### Operations -/

theorem prints_setGid (config : GumConfig) (preferredGid : UInt32) :
    Prints rd (Printable rd) Any (setGid config preferredGid) := by
  apply Maintains.of_rewrites (renumbered_setGid config preferredGid)
  rintro s t ⟨⟨gid, self⟩, quiet⟩ ⟨files, printable⟩
  refine ⟨by rwa [quiet.files], ?_⟩
  rw [self]
  exact printable.of_same rfl rfl

theorem prints_gumdDaemonGroupAdd (plain : env.PlainCrypt) (preferredGid : UInt32) :
    Prints rd (Printable rd) Any (gumdDaemonGroupAdd env preferredGid) := by
  apply Maintains.guard (R := Any)
  · apply Maintains.bind Prints.getSelf
    intro self _
    exact .ite (fun _ => .pure trivial) fun _ => Prints.returnWithError _ trivial
  · exact .pure trivial
  apply Prints.locked
  apply Maintains.guard (prints_setGid _ _) (Prints.unlockReturn _)
  apply Maintains.guard (prints_setGshadowData plain) (Prints.unlockReturn _)
  apply prints_writeBoth _ _ (Prints.unlockReturn _)
  apply Maintains.bind Prints.getSelf
  exact fun self _ => Prints.unlockReturn _

/-- What an object has merged from entries of the files. -/
theorem printable_mergeEntries {g : GumdDaemonGroup} (printable : g.Printable rd) {grp : Group}
    (group : grp.Printable rd) {sg : Option Sgrp} (gshadow : ∀ e ∈ sg, e.Printable rd) :
    (g.mergeEntries grp sg).Printable rd := by
  have record : ({ g with gshadow := copyGshadowStruct sg true g.gshadow } : GumdDaemonGroup).Printable rd := by
    cases sg with
    | none => exact printable
    | some e =>
      have clean := gshadow e rfl
      refine ⟨printable.grMem, ?_, ?_, ?_, ?_⟩
      all_goals
        dsimp only [copyGshadowStruct]
        split_ifs
      · exact fun s mem => Option.some.inj mem ▸ clean.sgNamp
      · exact printable.sgNamp
      · exact fun s mem => Option.some.inj mem ▸ clean.sgPasswd
      · exact printable.sgPasswd
      · exact fun s mem => Option.some.inj mem ▸ clean.sgAdm
      · exact printable.sgAdm
      · exact fun s mem => Option.some.inj mem ▸ clean.sgMem
      · exact printable.sgMem
  have named : ∀ {g' : GumdDaemonGroup}, g'.Printable rd → (if g'.group.grName.isNone then
      g'.setGroupnameProperty (some grp.grName) else g').Printable rd := by
    intro g' printable'
    split_ifs
    · exact printable'.of_same rfl rfl
    · exact printable'
  have listed : ∀ {g' : GumdDaemonGroup}, g'.Printable rd → (if g'.group.grMem.isNone then
      { g' with group := { g'.group with grMem := some grp.grMem } } else g').Printable rd := by
    intro g' printable'
    split_ifs
    · exact { printable' with grMem := fun l mem => Option.some.inj mem ▸ group.grMem }
    · exact printable'
  exact listed (named record)

theorem prints_gumdDaemonGroupUpdate (plain : env.PlainCrypt) :
    Prints rd (Printable rd) Any (gumdDaemonGroupUpdate env) := by
  apply Prints.locked
  apply Maintains.bind Prints.getSelf
  intro self _
  apply Maintains.ite
  · exact fun _ => Prints.unlockReturnWithError _ _
  intro _
  apply Maintains.bind prints_getGroup
  intro found listed
  cases found with
  | none => exact Prints.unlockReturn _
  | some grp =>
    apply Maintains.bind (Prints.lift (printsFiles_gumFileGetsgnam _))
    intro gshadow listed'
    apply Maintains.bind Prints.getSelf
    intro self _
    apply Maintains.ite
    · exact fun _ => Prints.unlockReturnWithError _ _
    intro _
    apply Maintains.bind
    · exact Prints.modifySelf fun g printable =>
        printable_mergeEntries printable (listed grp rfl) listed'
    intro _ _
    apply Maintains.guard (prints_setSecret plain) (Prints.unlockReturn _)
    exact prints_writeBoth _ _ (Prints.unlockReturn _) (Prints.unlockReturn _)

theorem prints_gumdDaemonGroupDelete (env : Env) :
    Prints rd (Printable rd) Any (gumdDaemonGroupDelete env) := by
  have none : ∀ {ε : Type} {P : ε → Prop}, ∀ e ∈ (none : Option ε), P e :=
    fun e mem => by cases mem
  apply Prints.locked
  apply Maintains.bind Prints.getSelf
  intro self _
  apply Maintains.ite
  · exact fun _ => Prints.unlockReturnWithError _ _
  intro _
  apply Maintains.guard (prints_copyGroupData none none) (Prints.unlockReturn _)
  apply Maintains.bind Prints.getSelf
  intro self _
  apply Maintains.ite
  · exact fun _ => Prints.unlockReturnWithError _ _
  intro _
  apply Maintains.bind Prints.getSelf
  intro self _
  apply Maintains.bind (Prints.of_looks (looks_gumFileFindUserByGid _))
  intro used _
  apply Maintains.ite
  · exact fun _ => Prints.unlockReturn _
  · exact fun _ => prints_writeBoth _ _ (Prints.unlockReturn _) (Prints.unlockReturn _)

theorem printable_addMemberLists {g : GumdDaemonGroup} (printable : g.Printable rd) {grp : Group}
    (group : grp.Printable rd) {sg : Option Sgrp} (gshadow : ∀ e ∈ sg, e.Printable rd) {name : Str}
    (named : rd.name name) (addAsAdmin : Bool) :
    (g.addMemberLists grp sg name addAsAdmin).Printable rd := by
  have appended : ∀ {names : List Str}, (∀ n ∈ names, rd.name n) →
      ∀ n ∈ names ++ [name], rd.name n := by
    intro names old n mem
    rcases List.mem_append.mp mem with mem | mem
    · exact old n mem
    · exact List.mem_singleton.mp mem ▸ named
  have members : ∀ l ∈ some (gumStringUtilsAppendString (some grp.grMem) name),
      ∀ n ∈ l, rd.name n :=
    fun l mem => Option.some.inj mem ▸ appended group.grMem
  rw [addMemberLists]
  split_ifs with admin
  · obtain ⟨e, rfl⟩ := Option.isSome_iff_exists.mp admin.2.1
    have admins : ∀ l ∈ some (gumStringUtilsAppendString (some e.sgAdm) name),
        ∀ n ∈ l, rd.name n :=
      fun l mem => Option.some.inj mem ▸ appended (gshadow e rfl).sgAdm
    exact { printable with grMem := members, sgMem := members, sgAdm := admins }
  · exact { printable with grMem := members, sgMem := members }

theorem prints_gumdDaemonGroupAddMember (uid : UInt32) (addAsAdmin : Bool) :
    Prints rd (Printable rd) Any (gumdDaemonGroupAddMember uid addAsAdmin) := by
  apply Prints.locked
  apply Maintains.bind (P := fun r : Option Passwd => ∀ e ∈ r, e.Readable rd)
  · exact Prints.lift (printsFiles_gumFileLookup looks_openFile fun f printable e found =>
      printable.passwd e (List.mem_of_find?_eq_some found))
  intro user known
  cases user with
  | none => exact Prints.unlockReturnWithError _ _
  | some pent =>
    have named : rd.name pent.pwName := (known pent rfl).2
    apply Maintains.bind prints_getGroup
    intro found listed
    cases found with
    | none => exact Prints.unlockReturn _
    | some grp =>
      have group := listed grp rfl
      apply Maintains.ite
      · exact fun _ => Prints.unlockReturnWithError _ _
      intro _
      apply Maintains.bind (Prints.lift (printsFiles_gumFileGetsgnam _))
      intro gshadow listed'
      apply Maintains.guard (prints_copyGroupData listed listed') (Prints.unlockReturn _)
      apply Maintains.bind
      · exact Prints.modifySelf fun g printable =>
          printable_addMemberLists printable group listed' named addAsAdmin
      intro _ _
      apply Maintains.guard (prints_updateGroupFile _ _) (Prints.unlockReturn _)
      exact .guard (prints_updateGshadowFileIf _ _ _) (Prints.unlockReturn _) (Prints.unlockReturn _)

/-- A list a name is taken from. -/
theorem name_deleteString {names : List Str} (named : ∀ n ∈ names, rd.name n) (name : Str) :
    ∀ l ∈ gumStringUtilsDeleteString (some names) (some name), ∀ n ∈ l, rd.name n := by
  intro l deleted n mem
  have kept : n ∈ (gumStringUtilsDeleteString (some names) (some name)).getD [] := by
    rw [show gumStringUtilsDeleteString (some names) (some name) = some l from deleted]
    exact mem
  exact named n (mem_gumStringUtilsDeleteString kept).1

theorem printable_deleteMemberLists {g : GumdDaemonGroup} (printable : g.Printable rd) {grp : Group}
    (group : grp.Printable rd) {sg : Option Sgrp} (gshadow : ∀ e ∈ sg, e.Printable rd) (name : Str) :
    (g.deleteMemberLists grp sg name).Printable rd := by
  have members := name_deleteString group.grMem name
  rw [deleteMemberLists]
  dsimp only
  split_ifs with admin
  · cases sg with
    | none =>
      have admins : ∀ l ∈ (none : Option (List Str)), ∀ n ∈ l, rd.name n := by simp
      exact { printable with grMem := members, sgMem := members, sgAdm := admins }
    | some e =>
      have admins := name_deleteString (gshadow e rfl).sgAdm name
      exact { printable with grMem := members, sgMem := members, sgAdm := admins }
  · exact { printable with grMem := members, sgMem := members }

theorem prints_gumdDaemonGroupDeleteMember (uid : UInt32) :
    Prints rd (Printable rd) Any (gumdDaemonGroupDeleteMember uid) := by
  apply Prints.locked
  apply Maintains.bind (Prints.of_looks (looks_gumFileGetpwuid uid))
  intro user _
  cases user with
  | none => exact Prints.unlockReturnWithError _ _
  | some pent =>
    apply Maintains.bind prints_getGroup
    intro found listed
    cases found with
    | none => exact Prints.unlockReturn _
    | some grp =>
      have group := listed grp rfl
      apply Maintains.ite
      · exact fun _ => Prints.unlockReturnWithError _ _
      intro _
      apply Maintains.bind (Prints.lift (printsFiles_gumFileGetsgnam _))
      intro gshadow listed'
      apply Maintains.guard (prints_copyGroupData listed listed') (Prints.unlockReturn _)
      apply Maintains.bind
      · exact Prints.modifySelf fun g printable =>
          printable_deleteMemberLists printable group listed' pent.pwName
      intro _ _
      exact prints_writeBoth _ _ (Prints.unlockReturn _) (Prints.unlockReturn _)

end GumdDaemonGroup

/-! ### Removing a user from all groups -/

theorem name_withoutMember {names : List Str} (named : ∀ n ∈ names, rd.name n) (name : Str) :
    ∀ n ∈ withoutMember names name, rd.name n := by
  intro n mem
  rw [withoutMember] at mem
  split_ifs at mem
  · exact named n (mem_gumStringUtilsDeleteString mem).1
  · exact named n mem

theorem Group.Printable.deleteMember {e : Group} (printable : e.Printable rd) (name : Str) :
    (e.deleteMember name).Printable rd :=
  ⟨printable.grName, printable.grPasswd, name_withoutMember printable.grMem name⟩

theorem Sgrp.Printable.deleteMember {e : Sgrp} (printable : e.Printable rd) (name : Str) :
    (e.deleteMember name).Printable rd :=
  ⟨printable.sgNamp, printable.sgPasswd, name_withoutMember printable.sgAdm name,
    name_withoutMember printable.sgMem name⟩

/-- A rewrite that changes every entry by itself. -/
theorem printsFiles_mapEntries {ε : Type} {file : DbFile ε} {Q : ε → Prop} (holds : file.Holds rd Q)
    {change : ε → ε} (keeps : ∀ e, Q e → Q (change e)) :
    PrintsFiles rd Any (gumFileUpdate file fun entries => .ok (entries.map change)) := by
  apply printsFiles_gumFileUpdate holds
  intro source out edited kept e mem
  obtain rfl := Except.ok.inj edited
  obtain ⟨old, inFile, rfl⟩ := List.mem_map.mp mem
  exact keeps old (kept old inFile)

theorem printsFiles_gumdDaemonGroupDeleteUserMembership (userName : Option Str) :
    PrintsFiles rd Any (gumdDaemonGroupDeleteUserMembership userName) := by
  have refusal : ∀ e : GError, PrintsFiles rd Any (gumReturnWithError e false) :=
    fun e => printsFiles_of_looks (looks_gumReturnWithError e false)
  have leave : ∀ r : Bool, PrintsFiles rd Any (do
      let _ ← gumLockPwdfUnlock
      return r) := fun _ => .bind printsFiles_unlock fun _ _ => .pure trivial
  cases userName with
  | none => exact refusal _
  | some name =>
    unfold gumdDaemonGroupDeleteUserMembership
    dsimp only
    cases gumValidateName (some name) with
    | error e => exact refusal e
    | ok _ =>
      apply Maintains.guard printsFiles_lock (.bind (refusal _) fun _ _ => .pure trivial)
      apply Maintains.bind (P := fun _ => True) (fun w printable => ⟨printable, trivial⟩)
      intro w _
      apply Maintains.bind
      · exact printsFiles_mapEntries holds_groupFile fun e printable => printable.deleteMember name
      intro retval _
      apply Maintains.ite
      · exact fun _ => leave false
      intro _
      apply Maintains.bind (P := fun _ => True) (fun w printable => ⟨printable, trivial⟩)
      intro w _
      apply Maintains.ite
      · exact fun _ => leave retval
      intro _
      apply Maintains.bind
      · exact printsFiles_mapEntries holds_gshadowFile fun e printable => printable.deleteMember name
      · exact fun retval _ => leave retval

/-- A load that is given a printable object returns one. -/
theorem printsFiles_loadGroup {object : GumdDaemonGroup} (printable : object.Printable rd) :
    PrintsFiles rd (fun r => ∀ g ∈ r, g.Printable rd) (loadGroup object) := by
  apply Maintains.guard printsFiles_lock
  · exact .pure fun g mem => by cases mem
  apply Maintains.bind (P := fun r => r.2.Printable rd)
  · intro w files
    rw [wp_withNullError, wp_runOn]
    have none : ∀ {ε : Type} {P : ε → Prop}, ∀ e ∈ (none : Option ε), P e :=
      fun e mem => by cases mem
    have kept := GumdDaemonGroup.prints_copyGroupData none none ⟨object, w⟩ ⟨files, printable⟩
    exact kept.1
  intro loaded held
  apply Maintains.bind printsFiles_unlock
  intro _ _
  apply Maintains.pure
  intro g mem
  split_ifs at mem
  · obtain rfl := Option.some.inj mem
    exact held
  · cases mem

/-! ## Users -/

namespace GumdDaemonUser

variable {env : Env}

theorem printable_new : gumdDaemonUserNew.Printable rd where
  spNamp := fun _ mem => by cases mem
  spPwdp := fun _ mem => by cases mem
  ages := ⟨rd.zero, rd.zero, rd.zero, rd.zero, rd.zero, rd.zero, rd.noFlag⟩

/-- The setters keep the shadow record. -/
theorem Printable.of_shadow {u u' : GumdDaemonUser} (printable : u.Printable rd)
    (shadow : u'.shadow = u.shadow) : u'.Printable rd where
  spNamp := by rw [shadow]; exact printable.spNamp
  spPwdp := by rw [shadow]; exact printable.spPwdp
  ages := by rw [shadow]; exact printable.ages

theorem printable_copyShadowStruct {u u' : GumdDaemonUser} (printable : u.Printable rd) {sp : Spwd}
    (entry : sp.Printable rd) {onlyIfInvalid : Bool}
    (copied : u'.shadow = copyShadowStruct sp onlyIfInvalid u.shadow) : u'.Printable rd := by
  refine ⟨?_, ?_, ?_⟩ <;> rw [copied]
  · dsimp only [copyShadowStruct]
    split_ifs
    · exact fun s mem => Option.some.inj mem ▸ entry.spNamp
    · exact printable.spNamp
  · dsimp only [copyShadowStruct]
    split_ifs
    · exact fun s mem => Option.some.inj mem ▸ entry.spPwdp
    · exact printable.spPwdp
  · exact entry.ages

theorem clean_newPwdp (plain : env.PlainCrypt) (u : GumdDaemonUser) :
    ∀ hash ∈ u.newPwdp env, Clean hash := by
  intro hash mem
  rw [newPwdp] at mem
  cases secret : u.pw.pwPasswd with
  | none =>
    rw [secret] at mem
    obtain rfl := Option.some.inj mem
    cases u.usertype <;> decide
  | some secret' =>
    rw [secret] at mem
    exact GumdDaemonGroup.clean_encrypted plain hash mem

theorem prints_setSecret (plain : env.PlainCrypt) : Prints rd (Printable rd) Any (setSecret env) := by
  intro s kept
  refine wp_mono (wp_setSecret env) ?_
  rintro ok t ⟨-, self, quiet⟩
  refine ⟨⟨?_, ?_⟩, trivial⟩
  · rw [quiet.files]
    exact kept.1
  · rw [self]
    exact ⟨kept.2.spNamp, clean_newPwdp plain s.self, kept.2.ages⟩

theorem prints_setShadowData (plain : env.Plain rd) :
    Prints rd (Printable rd) Any (setShadowData env) := by
  apply Maintains.bind
  · exact Prints.modifySelf fun u printable => { printable with spNamp := name_ptr _ }
  intro _ _
  apply Maintains.guard (prints_setSecret plain.crypt) (.pure trivial)
  apply Maintains.bind
  · exact Prints.modifySelf fun u printable => ⟨printable.spNamp, printable.spPwdp, plain.ages⟩
  · exact fun _ _ => .pure trivial

theorem prints_updatePasswdFile (op : GumOpType) (userData : Option Str) :
    Prints rd (Printable rd) Any (updatePasswdFile op userData) := by
  apply Maintains.bind Prints.getSelf
  intro self _
  apply Prints.lift
  apply printsFiles_gumFileUpdate holds_passwdFile
  intro source out edited kept e mem
  exact (mem_updatePasswdEntry edited e mem).elim (kept e) readable_of_putpwent

theorem prints_updateShadowFile (op : GumOpType) (userData : Option Str) :
    Prints rd (Printable rd) Any (updateShadowFile op userData) := by
  apply Maintains.bind Prints.getSelf
  intro self printable
  apply Prints.lift
  apply printsFiles_gumFileUpdate holds_shadowFile
  intro source out edited kept e mem
  exact (mem_updateShadowEntry edited e mem).elim (kept e) (printable_of_putspent printable)

theorem prints_setUid : Prints rd (Printable rd) Any (setUid env) := by
  intro s kept
  refine wp_mono (setUid_identified env) ?_
  rintro ok t ⟨⟨same, quiet⟩, -⟩
  refine ⟨⟨?_, kept.2.of_shadow same.shadow⟩, trivial⟩
  rw [quiet.files]
  exact kept.1

theorem prints_setGroup (plain : env.PlainCrypt) : Prints rd (Printable rd) Any (setGroup env) := by
  apply Maintains.bind Prints.getSelf
  intro self _
  apply Maintains.bind (Prints.of_looks (looks_gumFileGetgrnam _))
  intro found _
  cases found with
  | some grp =>
    apply Maintains.bind
    · exact Prints.modifySelf fun u printable => printable.of_shadow rfl
    · exact fun _ _ => .pure trivial
  | none =>
    apply Maintains.bind
    · apply Prints.lift
      apply printsFiles_runOn _ (GumdDaemonGroup.prints_gumdDaemonGroupAdd plain _)
      exact GumdDaemonGroup.printable_new.of_same rfl rfl
    · intro added _
      obtain ⟨gid, group⟩ := added
      cases gid with
      | none => exact .pure trivial
      | some gid =>
        apply Maintains.bind
        · exact Prints.modifySelf fun u printable => printable.of_shadow rfl
        · exact fun _ _ => .pure trivial

theorem printsFiles_joinGroups (uid : UInt32) (added : Bool) (names : List Str) :
    PrintsFiles rd Any (joinGroups uid added names) := by
  induction names generalizing added with
  | nil => exact .pure trivial
  | cons name rest ih =>
    apply Maintains.bind
    · apply printsFiles_runOn _ (GumdDaemonGroup.prints_gumdDaemonGroupAddMember uid false)
      exact GumdDaemonGroup.printable_new.of_same rfl rfl
    · exact fun joined _ => ih joined.1

theorem prints_setDefaultGroups : Prints rd (Printable rd) Any (setDefaultGroups env) := by
  apply Maintains.bind Prints.getSelf
  intro self _
  apply Maintains.ite
  · exact fun _ => .pure trivial
  · exact fun _ => Prints.lift (printsFiles_joinGroups _ _ _)

theorem prints_gumdDaemonUserAdd (plain : env.Plain rd) :
    Prints rd (Printable rd) Any (gumdDaemonUserAdd env) := by
  apply Maintains.bind Prints.getSelf
  intro self _
  apply Maintains.ite
  · exact fun _ => Prints.refusal _ _
  intro _
  apply Maintains.bind
  · apply Prints.modifySelf
    exact fun u printable => printable.of_shadow (sameSecret_setMissingShell env.config u).shadow
  intro _ _
  apply Prints.locked
  apply Maintains.guard prints_setUid (Prints.unlockReturn _)
  apply Maintains.guard (prints_setGroup plain.crypt) (Prints.unlockReturn _)
  apply Maintains.guard (prints_setShadowData plain) (Prints.unlockReturn _)
  apply Maintains.guard (prints_updatePasswdFile _ _) (Prints.unlockReturn _)
  apply Maintains.guard (prints_updateShadowFile _ _) (Prints.unlockReturn _)
  apply Maintains.bind
  · exact Prints.of_same fun s => wp_mono (wp_addUserinfo _) fun _ _ spec => ⟨spec.1, spec.2.2⟩
  intro _ _
  apply Maintains.bind prints_setDefaultGroups
  intro _ _
  have home : Prints rd (Printable rd) Any (createHomeDir env) :=
    Prints.of_same fun s => wp_mono (wp_createHomeDir env) fun _ _ spec =>
      ⟨spec.2.1, .of_eq spec.2.2.files⟩
  apply Maintains.guard home (Prints.unlockReturn _)
  apply Maintains.bind Prints.getSelf
  exact fun self _ => Prints.unlockReturn _

theorem prints_getPasswd : Prints rd (Printable rd) Any getPasswd := by
  apply Prints.of_same
  apply unmoved_getPasswd.mono
  exact fun s t unmoved => ⟨unmoved.1, .of_eq unmoved.2.files⟩

theorem printsFiles_gumFileGetspnam (name : Str) :
    PrintsFiles rd (fun r => ∀ e ∈ r, e.Printable rd) (gumFileGetspnam (some name)) :=
  printsFiles_gumFileLookup looks_openShadowFile fun _ printable e found =>
    printable.shadow e (List.mem_of_find?_eq_some found)

theorem prints_gumdDaemonUserUpdate (plain : env.PlainCrypt) :
    Prints rd (Printable rd) Any (gumdDaemonUserUpdate env) := by
  apply Prints.locked
  apply Maintains.bind Prints.getSelf
  intro self _
  apply Maintains.ite
  · exact fun _ => Prints.unlockReturnWithError _ _
  intro _
  apply Maintains.bind prints_getPasswd
  intro found _
  cases found with
  | none => exact Prints.unlockReturn _
  | some pw =>
    apply Maintains.bind (Prints.lift (printsFiles_gumFileGetspnam _))
    intro found listed
    cases found with
    | none => exact Prints.unlockReturnWithError _ _
    | some sp =>
      apply Maintains.bind
      · exact Prints.of_same fun s => wp_mono (wp_updateIcon env) fun _ _ spec =>
          ⟨spec.1, spec.2.2.1⟩
      intro iconChange _
      apply Maintains.bind
      · exact Prints.modifySelf fun u printable =>
          printable_copyShadowStruct printable (listed sp rfl) rfl
      intro _ _
      apply Maintains.bind Prints.getSelf
      intro self _
      apply Maintains.guard (R := Any)
      · apply Maintains.bind Prints.getSelf
        intro self _
        apply Maintains.ite
        · exact fun _ => prints_setSecret plain
        · intro _
          apply Maintains.bind
          · exact Prints.modifySelf fun u printable => printable.of_shadow rfl
          · exact fun _ _ => .pure trivial
      · exact Prints.unlockReturn _
      apply Maintains.bind Prints.getSelf
      intro self _
      apply Maintains.bind Prints.getSelf
      intro self _
      apply Maintains.ite
      · exact fun _ => Prints.unlockReturnWithError _ _
      intro _
      apply Maintains.bind Prints.getSelf
      intro self _
      apply Maintains.ite
      · exact fun _ => Prints.unlockReturnWithError _ _
      intro _
      apply Maintains.guard (prints_updatePasswdFile _ _) (Prints.unlockReturn _)
      exact .guard (prints_updateShadowFile _ _) (Prints.unlockReturn _) (Prints.unlockReturn _)

theorem prints_copyPasswdData : Prints rd (Printable rd) Any (copyPasswdData env) := by
  apply Maintains.bind prints_getPasswd
  intro found _
  cases found with
  | none => exact .pure trivial
  | some pent =>
    apply Maintains.bind (Prints.lift (printsFiles_gumFileGetspnam _))
    intro found listed
    cases found with
    | none => exact Prints.returnWithError _ trivial
    | some spent =>
      apply Maintains.bind (P := Any)
      · exact Prints.of_same fun s => wp_mono (wp_getUserinfo env.config) fun _ _ spec =>
          ⟨spec.2.1, .of_eq spec.2.2.quiet.files⟩
      intro icon _
      apply Maintains.bind
      · exact Prints.modifySelf fun u printable =>
          printable_copyShadowStruct printable (listed spent rfl) rfl
      · exact fun _ _ => .pure trivial

theorem prints_lockUser (lock : Bool) : Prints rd (Printable rd) Any (lockUser lock) := by
  apply Maintains.bind Prints.getSelf
  intro self _
  apply Prints.lift
  intro w printable
  rw [wp_withNullError]
  apply printsFiles_gumFileUpdate holds_shadowFile _ w printable
  intro source out edited kept e mem
  rcases mem_lockShadowEntry edited e mem with old | ⟨old, inFile, rfl⟩
  · exact kept e old
  · exact (kept old inFile).relock lock

theorem prints_removeUser (remHomeDir : Bool) :
    Prints rd (Printable rd) Any (removeUser env remHomeDir) := by
  apply Maintains.bind
  · exact Prints.of_same fun s => wp_mono (wp_deleteUserinfo env.config) fun _ _ spec =>
      ⟨spec.1, spec.2.2⟩
  intro _ _
  apply Maintains.guard (R := Any)
  · exact .guard (prints_updatePasswdFile _ _) (.pure trivial) (prints_updateShadowFile _ _)
  · exact .bind (prints_lockUser false) fun _ _ => .pure trivial
  apply Maintains.guard (R := Any)
  · apply Maintains.bind Prints.getSelf
    intro self _
    apply Maintains.bind
    · apply Prints.lift
      apply printsFiles_runOn _ (GumdDaemonGroup.prints_gumdDaemonGroupDelete env)
      exact GumdDaemonGroup.printable_new.of_same rfl rfl
    · exact fun _ _ => .pure trivial
  · exact .pure trivial
  apply Maintains.bind Prints.getSelf
  intro self _
  apply Maintains.guard (R := Any)
  · exact Prints.lift (printsFiles_gumdDaemonGroupDeleteUserMembership _)
  · exact .pure trivial
  apply Maintains.ite
  · intro _
    exact Prints.of_same fun s => wp_mono (wp_deleteHomeDir env) fun _ _ spec =>
      ⟨spec.2.1, .of_eq spec.2.2.files⟩
  · exact fun _ => .pure trivial

theorem prints_gumdDaemonUserDelete (remHomeDir : Bool) :
    Prints rd (Printable rd) Any (gumdDaemonUserDelete env remHomeDir) := by
  apply Prints.locked
  apply Maintains.bind Prints.getSelf
  intro self _
  apply Maintains.ite
  · exact fun _ => Prints.unlockReturnWithError _ _
  intro _
  apply Maintains.guard prints_copyPasswdData (Prints.unlockReturnWithError _ _)
  apply Maintains.bind (P := fun _ => True) (fun s kept => ⟨kept, trivial⟩)
  intro s _
  apply Maintains.ite
  · exact fun _ => Prints.unlockReturnWithError _ _
  intro _
  apply Maintains.guard (prints_lockUser true) (Prints.unlockReturnWithError _ _)
  apply Maintains.ite
  · exact fun _ => .bind (prints_lockUser false) fun _ _ => Prints.unlockReturnWithError _ _
  · exact fun _ => .bind (prints_removeUser remHomeDir) fun _ _ => Prints.unlockReturn _

end GumdDaemonUser

/-- A load that is given a printable object returns one. -/
theorem printsFiles_loadUser {env : Env} {object : GumdDaemonUser} (printable : object.Printable rd) :
    PrintsFiles rd (fun r => ∀ u ∈ r, u.Printable rd) (loadUser env object) := by
  apply Maintains.guard printsFiles_lock
  · exact .pure fun u mem => by cases mem
  apply Maintains.bind (P := fun r => r.2.Printable rd)
  · intro w files
    rw [wp_withNullError, wp_runOn]
    have kept := @GumdDaemonUser.prints_copyPasswdData rd env ⟨object, w⟩ ⟨files, printable⟩
    exact kept.1
  intro loaded held
  apply Maintains.bind printsFiles_unlock
  intro _ _
  apply Maintains.pure
  intro u mem
  split_ifs at mem
  · obtain rfl := Option.some.inj mem
    exact held
  · cases mem

/-! ## Runs -/

/-- The files and every object are printable. -/
structure System.Printable (rd : LineReader) (s : System) : Prop where
  files : s.files.Printable rd
  users : ∀ i, (s.users i).Printable rd
  groups : ∀ i, (s.groups i).Printable rd

section System

variable {s : System} {c : Call}

theorem printable_update {O : Type} {own : O → Prop} {objects : Nat → O} (all : ∀ i, own (objects i))
    (i : Nat) {object : O} (new : own object) : ∀ j, own (Function.update objects i object j) := by
  intro j
  by_cases same : j = i
  · rw [same, Function.update_self]
    exact new
  · rw [Function.update_of_ne same]
    exact all j

theorem System.Printable.runUser {α : Type} {m : UserM α} (printable : s.Printable rd) (i : Nat)
    (prints : Prints rd (GumdDaemonUser.Printable rd) Any m) : (s.runUser c i m).2.Printable rd := by
  have kept := prints ⟨s.users i, s.world c⟩ ⟨printable.files, printable.users i⟩
  exact ⟨kept.1.1, printable_update printable.users i kept.1.2, printable.groups⟩

theorem System.Printable.runGroup {α : Type} {m : GroupM α} (printable : s.Printable rd) (i : Nat)
    (prints : Prints rd (GumdDaemonGroup.Printable rd) Any m) : (s.runGroup c i m).2.Printable rd := by
  have kept := prints ⟨s.groups i, s.world c⟩ ⟨printable.files, printable.groups i⟩
  exact ⟨kept.1.1, printable.users, printable_update printable.groups i kept.1.2⟩

theorem System.Printable.loadUser {m : StateM World (Option GumdDaemonUser)}
    (printable : s.Printable rd) (i : Nat) (prints : PrintsFiles rd (fun r => ∀ u ∈ r, u.Printable rd) m) :
    (s.loadUser c i m).2.Printable rd := by
  have kept := prints (s.world c) printable.files
  have loaded : ((m.run (s.world c)).1.getD (s.users i)).Printable rd := by
    cases result : (m.run (s.world c)).1 with
    | none => exact printable.users i
    | some u => exact kept.2 u result
  exact ⟨kept.1, printable_update printable.users i loaded, printable.groups⟩

theorem System.Printable.loadGroup {m : StateM World (Option GumdDaemonGroup)}
    (printable : s.Printable rd) (i : Nat) (prints : PrintsFiles rd (fun r => ∀ g ∈ r, g.Printable rd) m) :
    (s.loadGroup c i m).2.Printable rd := by
  have kept := prints (s.world c) printable.files
  have loaded : ((m.run (s.world c)).1.getD (s.groups i)).Printable rd := by
    cases result : (m.run (s.world c)).1 with
    | none => exact printable.groups i
    | some g => exact kept.2 g result
  exact ⟨kept.1, printable.users, printable_update printable.groups i loaded⟩

theorem printable_step (plain : c.env.Plain rd) (printable : s.Printable rd) : (s.step c).Printable rd := by
  have users : ∀ (i : Nat) {u : GumdDaemonUser}, u.Printable rd →
      System.Printable rd { s with users := Function.update s.users i u } :=
    fun i _ new => { printable with users := printable_update printable.users i new }
  have groups : ∀ (i : Nat) {g : GumdDaemonGroup}, g.Printable rd →
      System.Printable rd { s with groups := Function.update s.groups i g } :=
    fun i _ new => { printable with groups := printable_update printable.groups i new }
  rw [System.step, System.call]
  cases op : c.operation with
  | userNew i => exact users i GumdDaemonUser.printable_new
  | userNewByUid i uid =>
    exact printable.loadUser i (printsFiles_loadUser (GumdDaemonUser.printable_new.of_shadow rfl))
  | userNewByName i username =>
    apply printable.loadUser i
    cases username with
    | none => exact .pure fun u mem => by cases mem
    | some name => exact printsFiles_loadUser (GumdDaemonUser.printable_new.of_shadow rfl)
  | userSet i property =>
    apply users i
    cases property <;> exact (printable.users i).of_shadow rfl
  | userAdd i =>
    have added := @System.Printable.runUser rd s c _ _ printable i
      (GumdDaemonUser.prints_gumdDaemonUserAdd plain)
    exact added
  | userUpdate i => exact printable.runUser i (GumdDaemonUser.prints_gumdDaemonUserUpdate plain.crypt)
  | groupNew i => exact groups i GumdDaemonGroup.printable_new
  | groupNewByGid i gid =>
    exact printable.loadGroup i
      (printsFiles_loadGroup (GumdDaemonGroup.printable_new.of_same rfl rfl))
  | groupNewByName i groupname =>
    apply printable.loadGroup i
    cases groupname with
    | none => exact .pure fun g mem => by cases mem
    | some name => exact printsFiles_loadGroup (GumdDaemonGroup.printable_new.of_same rfl rfl)
  | groupSet i property =>
    apply groups i
    cases property <;> exact (printable.groups i).of_same rfl rfl
  | groupAdd i preferredGid =>
    exact printable.runGroup i (GumdDaemonGroup.prints_gumdDaemonGroupAdd plain.crypt preferredGid)
  | groupUpdate i => exact printable.runGroup i (GumdDaemonGroup.prints_gumdDaemonGroupUpdate plain.crypt)
  | userDelete i remHomeDir =>
    exact printable.runUser i (GumdDaemonUser.prints_gumdDaemonUserDelete remHomeDir)
  | groupDelete i =>
    exact printable.runGroup i (GumdDaemonGroup.prints_gumdDaemonGroupDelete c.env)
  | groupAddMember i uid addAsAdmin =>
    exact printable.runGroup i (GumdDaemonGroup.prints_gumdDaemonGroupAddMember uid addAsAdmin)
  | groupDeleteMember i uid =>
    exact printable.runGroup i (GumdDaemonGroup.prints_gumdDaemonGroupDeleteMember uid)
  | deleteUserMembership userName =>
    have kept := printsFiles_gumdDaemonGroupDeleteUserMembership userName (s.world c) printable.files
    exact { printable with files := kept.1 }

theorem System.printable_new (files : s.files.Printable rd) (users : ∀ i, s.users i = gumdDaemonUserNew)
    (groups : ∀ i, s.groups i = gumdDaemonGroupNew) : s.Printable rd := by
  refine ⟨files, fun i => ?_, fun i => ?_⟩
  · rw [users i]
    exact GumdDaemonUser.printable_new
  · rw [groups i]
    exact GumdDaemonGroup.printable_new

/-- What every call keeps of the objects and the files, a run keeps. -/
theorem printable_run {calls : List Call} (plain : ∀ c ∈ calls, c.env.Plain rd)
    (printable : s.Printable rd) : (s.run calls).Printable rd := by
  induction calls generalizing s with
  | nil => exact printable
  | cons c rest ih =>
    refine ih (fun d mem => plain d (List.mem_cons_of_mem _ mem)) ?_
    exact printable_step (plain c List.mem_cons_self) printable

end System

end Gumd
