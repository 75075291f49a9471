import Gumd.Atomicity
import Gumd.GecosRules
import Gumd.Identity
import Gumd.LineFormat

/-!
# Reading a new user back

What an addition writes goes through the line format and the decoder of a load, and comes back as
the properties of the object.  Only a user whose uid is the invalid one cannot be loaded by it.
-/

namespace Gumd

open StateWp EntryLoop

/-! ## The search for a uid -/

/-- The id after one that is not the last. -/
theorem toNat_succ {id : UInt32} (last : id ≠ 0xffffffff) : (id + 1).toNat = id.toNat + 1 := by
  have size := UInt32.toNat_lt id
  have other : id.toNat ≠ 4294967295 := fun same => last (UInt32.toNat_inj.mp same)
  rw [UInt32.toNat_add]
  apply Nat.mod_eq_of_lt
  change id.toNat + 1 < 4294967296
  omega

/-- No id is greater than the last one. -/
theorem le_last (id : UInt32) : id ≤ 0xffffffff := by
  have size := UInt32.toNat_lt id
  rw [UInt32.le_iff_toNat_le]
  change id.toNat ≤ 4294967295
  omega

/-- A search ends with the last id only if it is in the range and the ones before it are taken. -/
theorem taken_of_firstFree_last {taken : UInt32 → Bool} {idMax start : UInt32} {fuel : Nat}
    (found : firstFree taken idMax fuel start = some (some 0xffffffff)) :
    idMax = 0xffffffff ∧ ∀ id, start ≤ id → id < 0xffffffff → taken id = true := by
  induction fuel generalizing start with
  | zero => simp [firstFree] at found
  | succ fuel ih =>
    have free := taken_of_firstFree found
    rw [firstFree] at found
    split_ifs at found with inside used
    · have last : start ≠ 0xffffffff := by
        rintro rfl
        rw [used] at free
        cases free
      obtain ⟨full, later⟩ := ih found
      refine ⟨full, fun id above below => ?_⟩
      by_cases same : start = id
      · exact same ▸ used
      · refine later id ?_ below
        have differs : start.toNat ≠ id.toNat := fun h => same (UInt32.toNat_inj.mp h)
        rw [UInt32.le_iff_toNat_le] at above
        rw [UInt32.le_iff_toNat_le, toNat_succ last]
        omega
    · obtain rfl : start = 0xffffffff := by simpa using found
      refine ⟨UInt32.le_antisymm (le_last idMax) inside, fun id above below => ?_⟩
      exact absurd above (UInt32.not_le.mpr below)
    · cases found

/-- A search through a range whose ids are taken but for the last one ends with that. -/
theorem firstFree_last {taken : UInt32 → Bool} (free : taken 0xffffffff = false) {fuel : Nat}
    {start : UInt32} (enough : 4294967296 ≤ start.toNat + fuel)
    (used : ∀ id, start ≤ id → id < 0xffffffff → taken id = true) :
    firstFree taken 0xffffffff fuel start = some (some 0xffffffff) := by
  induction fuel generalizing start with
  | zero =>
    have size := UInt32.toNat_lt start
    omega
  | succ fuel ih =>
    rw [firstFree, if_pos (le_last start)]
    by_cases last : start = 0xffffffff
    · subst last
      rw [free]
      rfl
    · have next := toNat_succ last
      have below : start < 0xffffffff := UInt32.lt_of_le_of_ne (le_last start) last
      rw [used start (UInt32.le_refl _) below, if_pos rfl]
      apply ih
      · omega
      · intro id above
        apply used id
        rw [UInt32.le_iff_toNat_le] at above ⊢
        omega

namespace GumdDaemonUser

/-- The range of the user type ends with the invalid uid, and that is its first free one. -/
def LastUid (u : GumdDaemonUser) (config : GumConfig) (f : Files) : Prop :=
  ∃ uidMin, getDefaultUidRange config u.usertype = some (uidMin, gumUserInvalidUid) ∧
    (∀ uid, uidMin ≤ uid → uid < gumUserInvalidUid → (f.getpwuid uid).isSome = true) ∧
    f.getpwuid gumUserInvalidUid = none

theorem findFreeUid_eq_invalid_iff {u : GumdDaemonUser} {config : GumConfig} {f : Files} :
    f.findFreeUid config u = some gumUserInvalidUid ↔ u.LastUid config f := by
  constructor
  · intro found
    have free := getpwuid_of_findFreeUid found
    rw [Files.findFreeUid] at found
    cases range : getDefaultUidRange config u.usertype with
    | none => simp [range] at found
    | some bounds =>
      obtain ⟨uidMin, uidMax⟩ := bounds
      simp only [range, Option.join_eq_some_iff] at found
      obtain ⟨full, taken⟩ := taken_of_firstFree_last found
      exact ⟨uidMin, by rw [range, full]; rfl, taken, free⟩
  · rintro ⟨uidMin, range, taken, free⟩
    rw [Files.findFreeUid, range]
    dsimp only
    rw [gumUserInvalidUid, firstFree_last (by simpa [gumUserInvalidUid] using free) _ taken]
    · rfl
    · rw [idCount]
      omega

/-! ## The decoder -/

/-- Two objects have the same properties, a string that is unset counting as empty. -/
structure SameProperties (u v : GumdDaemonUser) : Prop where
  uid : v.pw.pwUid = u.pw.pwUid
  gid : v.pw.pwGid = u.pw.pwGid
  username : (ptr v.pw.pwName).getD [] = (ptr u.pw.pwName).getD []
  texts : ∀ field, field ≠ .usertype →
    gecosText (ptr v.pw.pwGecos) field = gecosText (ptr u.pw.pwGecos) field
  usertype : v.usertype = u.usertype
  homedir : (ptr v.pw.pwDir).getD [] = (ptr u.pw.pwDir).getD []
  shell : (ptr v.pw.pwShell).getD [] = (ptr u.pw.pwShell).getD []

/-- The texts of a written gecos are those of the record. -/
theorem gecosText_written (gecos : Option Gecos) (field : GecosField) :
    gecosText (some ((ptr gecos).getD [])) field = gecosText (ptr gecos) field := by
  cases gecos with
  | none => rfl
  | some g => rfl

/-- A field of a written gecos is missing, or accepted by the setters. -/
theorem gecosFieldOf_written {pw : PasswdRecord} {entry : Passwd} (put : pw.putpwent = some entry)
    (field : GecosField) {value : Str} (given : gecosFieldOf entry field = some value) :
    gumValidateDbStringEntry (some value) = .ok () := by
  obtain ⟨name, -, rfl⟩ := Option.map_eq_some_iff.mp put
  cases gecos : pw.pwGecos with
  | none =>
    simp [gecosFieldOf, gecos, gumStringUtilsGetString, gStrsplit] at given
  | some g =>
    refine accepted_of_mem_gecos g ?_
    have part : (gStrsplit g.val comma)[field.index]? = some value := by
      simpa [gecosFieldOf, gecos, gumStringUtilsGetString] using given
    exact List.mem_of_getElem? part

/-- A setter that is given a field of a written gecos writes its text over an empty one. -/
theorem gecosText_copy {pw : PasswdRecord} {entry : Passwd} (put : pw.putpwent = some entry)
    (field : GecosField) {gecos : Option Gecos} (empty : gecosText (ptr gecos) field = [])
    (other : GecosField) :
    gecosText (ptr (setGecosText field (gecosFieldOf entry field) gecos)) other =
      if other = field then gecosText (ptr pw.pwGecos) field else gecosText (ptr gecos) other := by
  have text : (gecosFieldOf entry field).getD [] = gecosText (ptr pw.pwGecos) field := by
    obtain ⟨name, -, rfl⟩ := Option.map_eq_some_iff.mp put
    exact gecosText_written pw.pwGecos field
  cases given : gecosFieldOf entry field with
  | some value =>
    rw [gecosText_setGecosText field gecos (gecosFieldOf_written put field given), ← text, given]
    rfl
  | none =>
    rw [given] at text
    have kept : setGecosText field none gecos = gecos := by
      rw [setGecosText]
      split_ifs <;> rfl
    rw [kept]
    split_ifs with same
    · rw [same, empty]
      exact text
    · rfl

/-- An object that has at most the key of an entry. -/
structure Bare (o : GumdDaemonUser) : Prop where
  gecos : o.pw.pwGecos = none
  dir : o.pw.pwDir = none
  shell : o.pw.pwShell = none

/-- The texts of the four fields, one after another. -/
theorem gecosText_copies {pw : PasswdRecord} {entry : Passwd} (put : pw.putpwent = some entry)
    (field : GecosField) :
    gecosText (ptr (setGecosText .homephone (gecosFieldOf entry .homephone)
      (setGecosText .officephone (gecosFieldOf entry .officephone)
        (setGecosText .office (gecosFieldOf entry .office)
          (setGecosText .realname (gecosFieldOf entry .realname) none))))) field =
      if field = .usertype then [] else gecosText (ptr pw.pwGecos) field := by
  have first := gecosText_copy put .realname
    (show gecosText (ptr (none : Option Gecos)) .realname = [] from rfl)
  generalize setGecosText .realname (gecosFieldOf entry .realname) none = g₁ at *
  have second := gecosText_copy put .office (show gecosText (ptr g₁) .office = [] by
    rw [first]
    rfl)
  generalize setGecosText .office (gecosFieldOf entry .office) g₁ = g₂ at *
  have third := gecosText_copy put .officephone (show gecosText (ptr g₂) .officephone = [] by
    rw [second, first]
    rfl)
  generalize setGecosText .officephone (gecosFieldOf entry .officephone) g₂ = g₃ at *
  have fourth := gecosText_copy put .homephone (show gecosText (ptr g₃) .homephone = [] by
    rw [third, second, first]
    rfl)
  rw [fourth, third, second, first]
  cases field <;> rfl

/-- What an object is written as is decoded to its properties. -/
theorem sameProperties_copy {u o : GumdDaemonUser} {entry : Passwd} (bare : o.Bare)
    (put : u.pw.putpwent = some entry) (spent : Spwd) (icon : Option Str) :
    u.SameProperties (o.copyPasswdEntries entry spent icon) := by
  have texts := gecosText_copies put
  obtain ⟨name, given, rfl⟩ := Option.map_eq_some_iff.mp put
  have string : ∀ {p : Str → Prop} [DecidablePred p] (value : Option (Subtype p)), p [] →
      (ptr (setStringProperty (some ((ptr value).getD [])) (none : Option (Subtype p)))).getD [] =
        (ptr value).getD [] := by
    intro p _ value empty
    cases value with
    | none => rw [ptr_none, Option.getD_none, setStringProperty_of_accepted empty, ptr_some]; rfl
    | some v => rw [ptr_some, Option.getD_some, setStringProperty_of_accepted v.property, ptr_some]; rfl
  constructor
  · rfl
  · rfl
  · change (ptr (setStringProperty (some name.val) o.pw.pwName)).getD [] = _
    rw [setStringProperty_of_accepted name.property, given]
  · intro field text
    have loaded := texts field
    rw [if_neg text, ← bare.gecos] at loaded
    rw [← loaded]
    exact gecosText_setGecosUsertype text _ _
  · have loaded := texts .usertype
    rw [if_pos rfl, ← bare.gecos] at loaded
    refine (getUsertypeFromGecos_setGecosUsertype _ _).trans ?_
    have written : getUsertypeFromGecos (some ((ptr u.pw.pwGecos).getD [])) = u.usertype := by
      rw [getUsertypeFromGecos_eq, gecosText_written, ← getUsertypeFromGecos_eq]
      rfl
    rw [written]
    split_ifs with untyped
    · rw [getUsertypeFromGecos_eq]
      refine (congrArg (fun text => gumUserTypeFromString (some text)) loaded).trans ?_
      rw [untyped]
      rfl
    · rfl
  · change (ptr (setStringProperty _ o.pw.pwDir)).getD [] = _
    rw [bare.dir]
    exact string u.pw.pwDir (by decide)
  · change (ptr (setStringProperty _ o.pw.pwShell)).getD [] = _
    rw [bare.shell]
    exact string u.pw.pwShell (by decide)

end GumdDaemonUser

/-! ## The load -/

/-- A load that nothing disturbs takes the entries it looks for. -/
theorem loadUser_loaded {w : World} (faultless : w.Faultless) (granted : w.lockGranted = true)
    (env : Env) {object : GumdDaemonUser} {pent : Passwd} {spent : Spwd}
    (entry : w.files.getPasswd object.pw = some pent)
    (shadow : w.files.getspnam pent.pwName = some spent) :
    wp (loadUser env object) (fun r _ => r = some (object.copyPasswdEntries pent spent
      (w.files.userIcon env.config object.pw.pwUid))) w := by
  have files : w.afterLock.files = w.files := World.files_afterLock w
  rw [loadUser, wp_bind, wp_gumLockPwdfLock, wp_guard]
  refine ⟨fun denied => absurd (granted.symm.trans denied) (by simp), fun _ => ?_⟩
  rw [wp_bind, wp_withNullError, wp_runOn]
  have readable : w.afterLock.faults.read = .const true := by
    rw [World.read_afterLock]
    exact faultless.read
  have clear : w.afterLock.faults.readShadow = .const true := by
    rw [World.readShadow_afterLock]
    exact faultless.readShadow
  refine wp_mono (@GumdDaemonUser.wp_copyPasswdData ⟨object, w.afterLock⟩ readable env) ?_
  rintro copied t ⟨loaded, -⟩
  dsimp only at loaded
  rw [files] at loaded
  rw [wp_bind, wp_gumLockPwdfUnlock, wp_pure]
  generalize t.self = v at loaded ⊢
  cases loaded with
  | missing why => exact absurd shadow (by rw [why clear pent entry]; simp)
  | found entry' shadow' icon =>
    obtain rfl := Option.some.inj (entry.symm.trans entry')
    obtain rfl := Option.some.inj (shadow.symm.trans shadow')
    rw [icon.eq clear]
    rfl

/-- The files when they are read again: the passwd file goes through its lines. -/
def Files.reread (f : Files) : Files :=
  { f with passwd := passwdLines.read newline (passwdLines.write newline f.passwd) }

theorem Files.reread_eq {f : Files} (printable : ∀ e ∈ f.passwd, e.Printable) : f.reread = f := by
  rw [Files.reread, Lines.LineCodec.read_write fun e mem => (printable e mem).reads]

namespace GumdDaemonUser

/-- A load by the uid, and one by the name, of what the files hold when they are read again, both
succeed with the properties of the object. -/
def ReadsBack (u : GumdDaemonUser) (env : Env) (uid : UInt32) (f : Files) : Prop :=
  ∀ w : World, w.files = f.reread → w.Faultless → w.lockGranted = true →
    (∃ v, ((gumdDaemonUserNewByUid env uid).run w).1 = some v ∧ u.SameProperties v) ∧
      ∃ v, ((gumdDaemonUserNewByName env (ptr u.pw.pwName)).run w).1 = some v ∧ u.SameProperties v

theorem bare_setUidProperty (uid : UInt32) : (gumdDaemonUserNew.setUidProperty uid).Bare :=
  ⟨rfl, rfl, rfl⟩

theorem bare_setUsernameProperty (name : Option Str) :
    (gumdDaemonUserNew.setUsernameProperty name).Bare := ⟨rfl, rfl, rfl⟩

/-- An object whose entry is the first of its uid and of its name is read back. -/
theorem readsBack_of_found {u : GumdDaemonUser} {env : Env} {f : Files} {pw : Passwd} {sp : Spwd}
    (put : u.pw.putpwent = some pw) (printable : ∀ e ∈ f.passwd, e.Printable)
    (valid : pw.pwUid ≠ gumUserInvalidUid) (byUid : f.getpwuid pw.pwUid = some pw)
    (byName : f.getpwnam pw.pwName = some pw) (shadow : f.getspnam pw.pwName = some sp) :
    u.ReadsBack env pw.pwUid f := by
  intro w files faultless granted
  rw [Files.reread_eq printable] at files
  subst files
  constructor
  · have entry : w.files.getPasswd (gumdDaemonUserNew.setUidProperty pw.pwUid).pw = some pw := by
      rw [Files.getPasswd_of_uid _ valid]
      change Option.filter _ (w.files.getpwuid pw.pwUid) = _
      rw [byUid, Option.filter_some, if_pos]
      exact PasswdRecord.agrees_iff.mpr ⟨Or.inr rfl, Or.inl rfl⟩
    have loaded := loadUser_loaded faultless granted env entry shadow
    exact ⟨_, loaded, sameProperties_copy (bare_setUidProperty _) put sp _⟩
  · obtain ⟨given, -⟩ := PasswdRecord.keys_of_putpwent put
    obtain ⟨name, held, same⟩ := Option.map_eq_some_iff.mp given
    have named : (gumdDaemonUserNew.setUsernameProperty (some name.val)).pw.pwName = some name :=
      pwName_setUsernameProperty name.property _
    have unset : (gumdDaemonUserNew.setUsernameProperty (some name.val)).pw.pwUid =
        gumUserInvalidUid := rfl
    have entry : w.files.getPasswd (gumdDaemonUserNew.setUsernameProperty (some name.val)).pw =
        some pw := by
      refine Option.filter_eq_some_iff.mpr ⟨?_, PasswdRecord.agrees_iff.mpr ⟨Or.inl unset, Or.inr ?_⟩⟩
      · rw [unset, if_neg (not_not.mpr rfl), named, if_pos ⟨rfl, rfl⟩, ptr_some, Option.bind_some, same]
        exact byName
      · rw [named, ptr_some, same]
    rw [held, ptr_some]
    have loaded := loadUser_loaded faultless granted env entry shadow
    exact ⟨_, loaded, sameProperties_copy (bare_setUsernameProperty _) put sp _⟩

/-- A world in which nothing is disturbed. -/
def calmWorld (f : Files) : World :=
  ⟨f, ⟨.const true, .const true, .const true, .const true, .const none⟩, ⟨0, false, 0, 0, 0⟩, none⟩

theorem usertype_setMissingShell (config : GumConfig) (u : GumdDaemonUser) :
    (u.setMissingShell config).usertype = u.usertype := by
  rw [setMissingShell]
  split_ifs <;> rfl

theorem usertype_setMissingRealname (u : GumdDaemonUser) :
    u.setMissingRealname.usertype = u.usertype := by
  rw [setMissingRealname]
  split_ifs
  · exact getUsertypeFromGecos_setGecosText (by decide) _ _
  · rfl

theorem usertype_named {env : Env} {u u' : GumdDaemonUser} (named : u.named env = some u') :
    u'.usertype = u.usertype := by
  rw [GumdDaemonUser.named] at named
  split_ifs at named with given missing
  · obtain rfl := Option.some.inj named
    exact usertype_setMissingRealname u
  · cases generated : gumValidateGenerateUsername env.md5 (ptr u.nickName) with
    | error e => simp [generated] at named
    | ok tname =>
      obtain rfl : (u.setUsernameProperty (some tname)).setMissingRealname = u' := by
        simpa [generated] using named
      exact usertype_setMissingRealname _

/-- The uid of a user who is added is the one that is searched for the user's type. -/
theorem Prepared.findFreeUid {u u' : GumdDaemonUser} {env : Env} {f : Files}
    (prepared : u.Prepared env f u') : f.findFreeUid env.config u = some u'.pw.pwUid := by
  obtain ⟨u₁, named, alloc⟩ := Option.bind_eq_some_iff.mp prepared.uid
  split_ifs at alloc with taken
  obtain ⟨uid, free, rfl⟩ := Option.map_eq_some_iff.mp alloc
  have type := (usertype_named named).trans (usertype_setMissingShell env.config u)
  rw [Files.findFreeUid, type] at free
  refine free.trans (congrArg some ?_)
  dsimp only
  split_ifs <;> rfl

/-- Nothing is loaded by the invalid uid. -/
theorem not_readsBack_invalid (u : GumdDaemonUser) (env : Env) (f : Files) :
    ¬u.ReadsBack env gumUserInvalidUid f := by
  intro back
  obtain ⟨⟨v, loaded, -⟩, -⟩ := back (calmWorld f.reread) rfl ⟨rfl, rfl, rfl⟩ rfl
  exact ((gumdDaemonUserNewByUid_loaded env gumUserInvalidUid _).2 v loaded).1 rfl

/-- A user who has been added is read back, unless its uid is the invalid one. -/
theorem gumdDaemonUserAdd_readsBack_iff {s : St GumdDaemonUser}
    (readable : s.world.faults.read = .const true)
    (printable : ∀ e ∈ s.world.files.passwd, e.Printable) (env : Env) :
    wp (gumdDaemonUserAdd env) (fun r t => ∀ uid, r = some uid →
      (t.self.ReadsBack env uid t.world.files ↔ ¬s.self.LastUid env.config s.world.files)) s := by
  have spec := wp_and (gumdDaemonUserAdd_object env) (gumdDaemonUserAdd_spec readable env)
  refine wp_mono spec ?_
  rintro r t ⟨object, -, added⟩ uid rfl
  obtain ⟨own, pw, put, inserted⟩ := object uid rfl
  obtain ⟨u', gid, pw', sp, prepared, writes, rfl, written⟩ := added.written
  -- the new entry is the object's
  have same : pw = pw' := by
    have number : pw.pwUid = pw'.pwUid := (PasswdRecord.keys_of_putpwent put).2.1.symm.trans own
    have found : t.world.files.getpwuid pw'.pwUid = some pw := by
      rw [Files.getpwuid, inserted]
      exact find?_insertFirst written.freshUid (by simpa using number)
    exact Option.some.inj (found.symm.trans written.byUid)
  subst same
  have searched : s.world.files.findFreeUid env.config s.self = some pw.pwUid := by
    rw [prepared.findFreeUid, ← (PasswdRecord.keys_of_putpwent writes.passwd).2.1]
    rfl
  rw [← findFreeUid_eq_invalid_iff, searched, Option.some.injEq]
  constructor
  · intro back invalid
    rw [invalid] at back
    exact not_readsBack_invalid _ _ _ back
  · intro valid
    refine readsBack_of_found put ?_ valid written.byUid written.byName written.inShadow
    intro e mem
    rw [inserted] at mem
    rcases mem_insertFirst.mp mem with rfl | old
    · exact printable_of_putpwent put
    · exact printable e old

end GumdDaemonUser

namespace Sample

theorem gumdDaemonUserAdd_readsBack_iff_bob :
    wp (GumdDaemonUser.gumdDaemonUserAdd env) (fun r t => ∀ uid, r = some uid →
      (t.self.ReadsBack env uid t.world.files ↔ ¬addition.self.LastUid env.config files)) addition :=
  GumdDaemonUser.gumdDaemonUserAdd_readsBack_iff rfl (by decide) env

/-- The uids of users end with the largest one. -/
def lastEnv : Env :=
  { env with config := ⟨(gumConfigGeneralUidMin, .uint32 0xfffffffe) ::
    (gumConfigGeneralUidMax, .uint32 0xffffffff) :: env.config.configTable⟩ }

/-- The uid before the last one is taken. -/
def lastAddition : St GumdDaemonUser :=
  { addition with world := { addition.world with
    files := { files with passwd := [{ alice with pwUid := 0xfffffffe }] } } }

/-- The second user gets the invalid uid, and cannot be loaded by it. -/
theorem userAdd_not_readsBack : ¬wp (GumdDaemonUser.gumdDaemonUserAdd lastEnv) (fun r t =>
    ∀ uid, r = some uid → t.self.ReadsBack lastEnv uid t.world.files) lastAddition := by
  intro back
  refine GumdDaemonUser.not_readsBack_invalid _ _ _ (back gumUserInvalidUid ?_)
  decide +kernel

end Sample

end Gumd
