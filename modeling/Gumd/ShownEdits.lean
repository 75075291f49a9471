import Gumd.UserEdits
import Mathlib.Logic.Relation

/-!
# What a new load shows of an update

A user that was added, and whose entry only updates have changed since, is loaded, edited and
updated.  A new load shows the strings last written, unless one of them was to clear a text that
the entry holds, or the icon could not be written.
-/

namespace Gumd

open StateWp EntryLoop

/-! ## The entry of an added user -/

/-- An addition has written the entry for the uid. -/
def AddedAs (uid : UInt32) (pw : Passwd) : Prop :=
  ∃ env s t, (GumdDaemonUser.gumdDaemonUserAdd env).run s = (some uid, t) ∧
    t.self.pw.putpwent = some pw

/-- A successful update, of whatever object, has left the uid with another entry. -/
def UpdatedTo (uid : UInt32) (pw new : Passwd) : Prop :=
  ∃ env s t, s.world.files.getpwuid uid = some pw ∧
    (GumdDaemonUser.gumdDaemonUserUpdate env).run s = (true, t) ∧
    t.world.files.getpwuid uid = some new

/-- The daemon has written the entry from an object. -/
def Passwd.Put (pw : Passwd) : Prop := ∃ record : PasswdRecord, record.putpwent = some pw

theorem Passwd.Put.name {pw : Passwd} (written : pw.Put) :
    gumValidateName (some pw.pwName) = .ok () := by
  obtain ⟨record, put⟩ := written
  obtain ⟨name, -, rfl⟩ := Option.map_eq_some_iff.mp put
  exact name.property

/-- The texts of such an entry are accepted again. -/
theorem Passwd.Put.text {pw : Passwd} (written : pw.Put) (field : GecosField) :
    gumValidateDbStringEntry (some (gecosText (some pw.pwGecos) field)) = .ok () := by
  obtain ⟨record, put⟩ := written
  cases given : gecosFieldOf pw field with
  | some text =>
    change gumValidateDbStringEntry (some ((gecosFieldOf pw field).getD [])) = .ok ()
    rw [given]
    exact GumdDaemonUser.gecosFieldOf_written put field given
  | none =>
    change gumValidateDbStringEntry (some ((gecosFieldOf pw field).getD [])) = .ok ()
    rw [given]
    exact GumdDaemonUser.accepted_nil

/-- An update keeps the name of the uid, and leaves it with the entry it had or with a written
one. -/
theorem UpdatedTo.keeps {uid : UInt32} {pw new : Passwd} (updated : UpdatedTo uid pw new) :
    new.pwName = pw.pwName ∧ (new = pw ∨ new.Put) := by
  obtain ⟨env, s, t, before, run, after⟩ := updated
  have merged := GumdDaemonUser.gumdDaemonUserUpdate_merges env s
  rw [wp, run] at merged
  obtain ⟨found, sp, entry, newSp, merges⟩ := merged rfl
  obtain ⟨name, own, -⟩ := merges.keys
  obtain ⟨front, rest, old, changed⟩ := merges.replaces.passwd
  rw [Files.getpwuid, old, List.find?_append] at before
  rw [Files.getpwuid, changed, List.find?_append] at after
  cases earlier : front.find? (·.pwUid == uid) with
  | some e =>
    rw [earlier] at before after
    have same : new = pw := Option.some.inj (after.symm.trans before)
    exact ⟨by rw [same], Or.inl same⟩
  | none =>
    rw [earlier, Option.none_or, List.find?_cons] at before after
    rw [own] at after
    cases here : found.pwUid == uid with
    | true =>
      rw [here] at before after
      obtain rfl : found = pw := Option.some.inj before
      obtain rfl : entry = new := Option.some.inj after
      exact ⟨name, Or.inr ⟨_, merges.put⟩⟩
    | false =>
      rw [here] at before after
      have same : new = pw := Option.some.inj (after.symm.trans before)
      exact ⟨by rw [same], Or.inl same⟩

/-- Any number of updates. -/
abbrev Updates (uid : UInt32) : Passwd → Passwd → Prop := Relation.ReflTransGen (UpdatedTo uid)

theorem Updates.keeps {uid : UInt32} {pw new : Passwd} (updates : Updates uid pw new)
    (written : pw.Put) : new.pwName = pw.pwName ∧ new.Put := by
  induction updates with
  | refl => exact ⟨rfl, written⟩
  | tail _ step ih =>
    obtain ⟨name, same | own⟩ := step.keeps
    · exact ⟨name.trans ih.1, same ▸ ih.2⟩
    · exact ⟨name.trans ih.1, own⟩

theorem AddedAs.written {uid : UInt32} {pw : Passwd} (added : AddedAs uid pw) : pw.Put := by
  obtain ⟨env, s, t, -, put⟩ := added
  exact ⟨_, put⟩

/-! ## A new load -/

/-- An object that is loaded by the uid when nothing is disturbed shows the strings last written. -/
def ShowsEdits (env : Env) (uid : UInt32) (edits : Edits) (f : Files) : Prop :=
  ∀ w : World, w.files = f → w.Faultless → w.lockGranted = true →
    ∃ v, ((gumdDaemonUserNewByUid env uid).run w).1 = some v ∧
      ∀ text value, edits.lastWritten text = some value → text.shown v = some value

/-- What a load by uid gives when nothing is disturbed. -/
theorem gumdDaemonUserNewByUid_calm {env : Env} {w : World} (faultless : w.Faultless)
    (granted : w.lockGranted = true) {pw : Passwd} {sp : Spwd}
    (valid : pw.pwUid ≠ gumUserInvalidUid) (entry : w.files.getpwuid pw.pwUid = some pw)
    (shadow : w.files.getspnam pw.pwName = some sp) :
    ((gumdDaemonUserNewByUid env pw.pwUid).run w).1 =
      some ((gumdDaemonUserNew.setUidProperty pw.pwUid).copyPasswdEntries pw sp
        (w.files.userIcon env.config pw.pwUid)) := by
  have found : w.files.getPasswd (gumdDaemonUserNew.setUidProperty pw.pwUid).pw = some pw := by
    rw [Files.getPasswd_of_uid _ valid]
    change Option.filter _ (w.files.getpwuid pw.pwUid) = _
    rw [entry, Option.filter_some, if_pos]
    exact PasswdRecord.agrees_iff.mpr ⟨Or.inr rfl, Or.inl rfl⟩
  exact loadUser_loaded faultless granted env found shadow

theorem showsEdits_iff {env : Env} {edits : Edits} {f : Files} {pw : Passwd} {sp : Spwd}
    (valid : pw.pwUid ≠ gumUserInvalidUid) (entry : f.getpwuid pw.pwUid = some pw)
    (shadow : f.getspnam pw.pwName = some sp) : ShowsEdits env pw.pwUid edits f ↔
      ∀ text value, edits.lastWritten text = some value →
        text.shown ((gumdDaemonUserNew.setUidProperty pw.pwUid).copyPasswdEntries pw sp
          (f.userIcon env.config pw.pwUid)) = some value := by
  constructor
  · intro shows text value written
    obtain ⟨v, loaded, shown⟩ := shows (GumdDaemonUser.calmWorld f) rfl ⟨rfl, rfl, rfl⟩ rfl
    rw [gumdDaemonUserNewByUid_calm ⟨rfl, rfl, rfl⟩ rfl valid entry shadow] at loaded
    rw [← Option.some.inj loaded] at shown
    exact shown text value written
  · rintro shown w rfl faultless granted
    exact ⟨_, gumdDaemonUserNewByUid_calm faultless granted valid entry shadow, shown⟩

/-- A text of a gecos that was put is shown after a load as it is stored. -/
theorem Passwd.Put.shown_gecos {pw : Passwd} (put : pw.Put) {field : GecosTextField} {value : Str}
    (stored : (UserText.gecos field).stored pw = some value) (sp : Spwd) (icon : Option Str) :
    (UserText.gecos field).shown
      ((gumdDaemonUserNew.setUidProperty pw.pwUid).copyPasswdEntries pw sp icon) = some value := by
  obtain ⟨record, put⟩ := put
  change gumStringUtilsGetString (ptr (GumdDaemonUser.loadedGecos pw)) comma field.val.index =
    some value
  have text : gecosText (ptr (GumdDaemonUser.loadedGecos pw)) field.val = value := by
    have texts := GumdDaemonUser.gecosText_copies put field.val
    rw [if_neg field.property] at texts
    rw [GumdDaemonUser.loadedGecos, gecosText_setGecosUsertype field.property]
    refine texts.trans ?_
    obtain ⟨name, -, rfl⟩ := Option.map_eq_some_iff.mp put
    rw [← GumdDaemonUser.gecosText_written]
    exact congrArg (fun text => text.getD []) stored
  cases loaded : GumdDaemonUser.loadedGecos pw with
  | some g =>
    rw [loaded] at text
    rw [ptr_some, getString_gecos, ← ptr_some, text]
  | none =>
    -- the load takes an accepted text
    have refused := (GumdDaemonUser.loadedGecos_eq_none.mp loaded).texts field.val field.property
    exact absurd (GumdDaemonUser.gecosFieldOf_written put field.val stored) (refused value stored)

/-- An accepted string is shown after a load as it is read. -/
theorem ptr_loaded_eq_some_iff {value : Str} {read : Option Str}
    (accepted : gumValidateDbStringEntry (some value) = .ok ()) :
    ptr (setStringProperty read (none : Option DbString)) = some value ↔ read = some value := by
  constructor
  · intro shown
    rcases setStringProperty_eq read (none : Option DbString) with ⟨s, given, result⟩ | ⟨-, result⟩
    · rw [result] at shown
      rw [given, ← shown, ptr_some]
    · rw [result] at shown
      cases shown
  · rintro rfl
    rw [setStringProperty_of_accepted accepted, ptr_some]

/-! ## Edits of an added user -/

/-- No text that the entry holds is cleared by the edits, and their icon can be stored. -/
structure Storable (env : Env) (w : World) (pw : Passwd) (edits : Edits) : Prop where
  cleared : ∀ field, edits.lastWritten (.gecos field) = some [] →
    gecosText (some pw.pwGecos) field.val = []
  icon : ∀ icon, edits.lastWritten .icon = some icon →
    GumdDaemonUser.IconStorable env.config w pw.pwUid icon

/-- A text survives the merge unless it clears one. -/
theorem mergedText_eq_iff {own stored : Str}
    (accepted : gumValidateDbStringEntry (some stored) = .ok ()) :
    GumdDaemonUser.mergedText own stored = own ↔ (own = [] → stored = []) := by
  rw [GumdDaemonUser.mergedText]
  by_cases cleared : own = []
  · rw [if_pos ⟨cleared, accepted⟩, cleared]
    simp
  · rw [if_neg fun h => cleared h.1]
    simp [cleared]

namespace Sample

/-- A new user bob with a real name. -/
def namedAddition : St GumdDaemonUser :=
  { addition with self := addition.self.setRealnameProperty (some (str "Bob")) }

/-- What is left of its addition. -/
def namedAdded : St GumdDaemonUser := ((GumdDaemonUser.gumdDaemonUserAdd env).run namedAddition).2

def addedBob : Passwd where
  pwName := str "bob"
  pwPasswd := str "x"
  pwUid := 1001
  pwGid := 1001
  pwGecos := str "Bob,,,,normal"
  pwDir := str "(null)/bob"
  pwShell := []

theorem addedAs_bob : AddedAs 1001 addedBob := by
  refine ⟨env, namedAddition, namedAdded, ?_, by decide +kernel⟩
  have uid : ((GumdDaemonUser.gumdDaemonUserAdd env).run namedAddition).1 = some 1001 := by
    decide +kernel
  exact Prod.ext uid rfl

def bobWorld : World := GumdDaemonUser.calmWorld namedAdded.world.files

/-- The object that is loaded for bob. -/
def loadedBob : GumdDaemonUser :=
  ((gumdDaemonUserNewByUid env 1001).run bobWorld).1.getD gumdDaemonUserNew

theorem loaded_bob : ((gumdDaemonUserNewByUid env 1001).run bobWorld).1 = some loadedBob := by
  decide +kernel

theorem realname_ne_usertype : GecosField.realname ≠ .usertype := by decide

theorem office_ne_usertype : GecosField.office ≠ .usertype := by decide

/-- An office, and no real name. -/
def officeEdits : Edits :=
  [(.gecos ⟨.realname, realname_ne_usertype⟩, []),
    (.gecos ⟨.office, office_ne_usertype⟩, str "B2")]

theorem valid_officeEdits : officeEdits.Valid := by
  intro edit mem
  rcases List.mem_cons.mp mem with rfl | mem
  · decide
  · obtain rfl := List.mem_singleton.mp mem
    decide

end Sample

end Gumd
