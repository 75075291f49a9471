import Gumd.ReadBack
import Gumd.UserMerge
import Mathlib.Data.List.Induction

/-!
# What an update stores

A client edits the texts of a user it has loaded, and updates the user.  The update stores the
strings last written where the gecos codec and the merge let it.
-/

namespace Gumd

open StateWp EntryLoop

/-! ## Edits -/

/-- The texts of a user that a client edits. -/
inductive UserText where
  | gecos (field : GecosTextField)
  | shell
  | icon
  deriving DecidableEq

/-- A write to the property of a text. -/
def UserText.property : UserText → Str → UserProperty
  | .gecos ⟨.realname, _⟩, value => .realname (some value)
  | .gecos ⟨.office, _⟩, value => .office (some value)
  | .gecos ⟨.officephone, _⟩, value => .officephone (some value)
  | .gecos ⟨.homephone, _⟩, value => .homephone (some value)
  | .gecos ⟨.usertype, text⟩, _ => absurd rfl text
  | .shell, value => .shell (some value)
  | .icon, value => .icon (some value)

/-- What the property of a text shows. -/
def UserText.shown (u : GumdDaemonUser) : UserText → Option Str
  | .gecos field => gumStringUtilsGetString (ptr u.pw.pwGecos) comma field.val.index
  | .shell => ptr u.pw.pwShell
  | .icon => ptr u.icon

/-- What a passwd entry holds of a text. -/
def UserText.stored (pw : Passwd) : UserText → Option Str
  | .gecos field => gecosFieldOf pw field.val
  | .shell => some pw.pwShell
  | .icon => none

/-- The texts and the strings that are written to them, in order. -/
abbrev Edits := List (UserText × Str)

/-- Every string that is written is accepted by its setter. -/
def Edits.Valid (edits : Edits) : Prop :=
  ∀ edit ∈ edits, gumValidateDbStringEntry (some edit.2) = .ok ()

/-- The string last written to a text. -/
def Edits.lastWritten (edits : Edits) : UserText → Option Str :=
  edits.foldl (fun last edit => Function.update last edit.1 (some edit.2)) fun _ => none

namespace GumdDaemonUser

/-- The object after the edits. -/
def edited (u : GumdDaemonUser) (edits : Edits) : GumdDaemonUser :=
  edits.foldl (fun u edit => (edit.1.property edit.2).set u) u

/-- A write of a gecos text is a write of its field of the gecos. -/
theorem set_gecos (field : GecosTextField) (value : Str) (u : GumdDaemonUser) :
    ((UserText.gecos field).property value).set u = u.setGecosProperty field.val (some value) := by
  obtain ⟨field, text⟩ := field
  cases field with
  | usertype => exact absurd rfl text
  | _ => rfl

/-- An edit touches the texts only. -/
structure SameButTexts (u v : GumdDaemonUser) : Prop where
  pw : v.pw = { u.pw with pwGecos := v.pw.pwGecos, pwShell := v.pw.pwShell }
  shadow : v.shadow = u.shadow

theorem SameButTexts.refl (u : GumdDaemonUser) : u.SameButTexts u := ⟨rfl, rfl⟩

/-- What two writes of texts leave alone, both together do. -/
theorem SameButTexts.trans {u v w : GumdDaemonUser} (first : u.SameButTexts v)
    (second : v.SameButTexts w) : u.SameButTexts w := by
  refine ⟨?_, second.shadow.trans first.shadow⟩
  rw [second.pw, first.pw]

/-- A write of a text leaves the rest of the object alone, whether or not it is accepted. -/
theorem sameButTexts_set (text : UserText) (value : Str) (u : GumdDaemonUser) :
    u.SameButTexts ((text.property value).set u) := by
  cases text with
  | gecos field =>
    rw [set_gecos]
    exact ⟨rfl, rfl⟩
  | shell => exact ⟨rfl, rfl⟩
  | icon => exact ⟨rfl, rfl⟩

/-- So do any number of them: induction on the edits. -/
theorem sameButTexts_edited (edits : Edits) (u : GumdDaemonUser) :
    u.SameButTexts (u.edited edits) := by
  induction edits generalizing u with
  | nil => exact .refl u
  | cons edit rest ih => exact (sameButTexts_set edit.1 edit.2 u).trans (ih _)

/-- A write is shown. -/
theorem shown_set {value : Str} (accepted : gumValidateDbStringEntry (some value) = .ok ())
    (text : UserText) (u : GumdDaemonUser) :
    text.shown ((text.property value).set u) = some value := by
  cases text with
  | gecos field =>
    rw [set_gecos]
    change gumStringUtilsGetString (ptr (setGecosText field.val (some value) u.pw.pwGecos)) comma _ = _
    have written := gecosText_setGecosText field.val u.pw.pwGecos accepted field.val
    rw [if_pos rfl] at written
    cases given : setGecosText field.val (some value) u.pw.pwGecos with
    | some g => rw [ptr_some, getString_gecos, ← written, given, ptr_some]
    | none =>
      -- an accepted string is inserted, also into a missing gecos
      rw [setGecosText, dif_pos accepted] at given
      split_ifs at given with changed
      rw [given] at changed
      exact absurd changed (by simp [gumStringUtilsGetString])
  | shell =>
    change ptr (setStringProperty (some value) u.pw.pwShell) = _
    rw [setStringProperty_of_accepted accepted]
    rfl
  | icon =>
    change ptr (setStringProperty (some value) u.icon) = _
    rw [setStringProperty_of_accepted accepted]
    rfl

/-- A write keeps what is shown of another text. -/
theorem shown_set_other {value shown : Str} {text other : UserText} {u : GumdDaemonUser}
    (accepted : gumValidateDbStringEntry (some value) = .ok ()) (differs : other ≠ text)
    (before : other.shown u = some shown) :
    other.shown ((text.property value).set u) = some shown := by
  cases text with
  | shell =>
    cases other with
    | shell => exact absurd rfl differs
    | gecos other => exact before
    | icon => exact before
  | icon =>
    cases other with
    | icon => exact absurd rfl differs
    | gecos other => exact before
    | shell => exact before
  | gecos field =>
    rw [set_gecos]
    cases other with
    | shell => exact before
    | icon => exact before
    | gecos other =>
      have apart : other.val ≠ field.val := fun same => differs (congrArg _ (Subtype.ext same))
      have kept := gecosText_setGecosText_other apart (some value) u.pw.pwGecos
      change gumStringUtilsGetString (ptr (setGecosText field.val (some value) u.pw.pwGecos)) comma _ =
        some shown
      cases given : setGecosText field.val (some value) u.pw.pwGecos with
      | some g =>
        rw [ptr_some, getString_gecos, ← ptr_some, ← given, kept, gecosText]
        change gumStringUtilsGetString (ptr u.pw.pwGecos) comma other.val.index = some shown at before
        rw [before, Option.getD_some]
      | none =>
        have written := shown_set accepted (.gecos field) u
        rw [set_gecos] at written
        change gumStringUtilsGetString (ptr (setGecosText field.val (some value) u.pw.pwGecos)) comma _ =
          some value at written
        rw [given] at written
        cases written

/-- The last edit is made to the object that the others have left. -/
theorem edited_concat (edits : Edits) (edit : UserText × Str) (u : GumdDaemonUser) :
    u.edited (edits ++ [edit]) = (edit.1.property edit.2).set (u.edited edits) :=
  List.foldl_concat _ _ _ _

/-- The last edit decides for its own text, and the edits before it for the others. -/
theorem lastWritten_concat (edits : Edits) (edit : UserText × Str) :
    Edits.lastWritten (edits ++ [edit]) =
      Function.update edits.lastWritten edit.1 (some edit.2) :=
  List.foldl_concat _ _ _ _

/-- The object shows the strings last written. -/
theorem shown_edited {edits : Edits} (valid : edits.Valid) {text : UserText} {value : Str}
    (written : edits.lastWritten text = some value) (u : GumdDaemonUser) :
    text.shown (u.edited edits) = some value := by
  induction edits using List.reverseRecOn with
  | nil => cases written
  | append_singleton edits edit ih =>
    have accepted := valid edit (List.mem_append_right _ List.mem_cons_self)
    rw [edited_concat]
    rw [lastWritten_concat] at written
    by_cases same : text = edit.1
    · subst same
      rw [Function.update_self] at written
      rw [← written]
      exact shown_set accepted edit.1 _
    · rw [Function.update_of_ne same] at written
      apply shown_set_other accepted same
      exact ih (fun e mem => valid e (List.mem_append_left _ mem)) written

/-- The edits keep the user type. -/
theorem usertype_edited (edits : Edits) (u : GumdDaemonUser) :
    gecosText (ptr (u.edited edits).pw.pwGecos) .usertype = gecosText (ptr u.pw.pwGecos) .usertype := by
  induction edits using List.reverseRecOn with
  | nil => rfl
  | append_singleton edits edit ih =>
    obtain ⟨text, value⟩ := edit
    rw [edited_concat, ← ih]
    cases text with
    | gecos field =>
      dsimp only
      rw [set_gecos]
      exact gecosText_setGecosText_other field.property.symm _ _
    | shell => rfl
    | icon => rfl

/-- Edits that write no text of the gecos keep it. -/
theorem gecos_edited {edits : Edits} (other : ∀ edit ∈ edits, ∀ field, edit.1 ≠ .gecos field)
    (u : GumdDaemonUser) : (u.edited edits).pw.pwGecos = u.pw.pwGecos := by
  induction edits using List.reverseRecOn with
  | nil => rfl
  | append_singleton edits edit ih =>
    have apart := other edit (List.mem_append_right _ List.mem_cons_self)
    obtain ⟨text, value⟩ := edit
    rw [edited_concat, ← ih fun e mem => other e (List.mem_append_left _ mem)]
    cases text with
    | gecos field => exact absurd rfl (apart field)
    | shell => rfl
    | icon => rfl

end GumdDaemonUser

/-! ## What an update finds and writes -/

/-- The entry `gum_file_getspnam` finds. -/
def World.seenSpwd (w : World) (name : Str) : Option Spwd :=
  if w.faults.readShadow.head then w.files.getspnam name else none

/-- `gum_file_getspnam` returns what a lookup sees, and changes neither the files nor what the next lookups
see. -/
theorem wp_gumFileGetspnam_seen (name : Str) (Q : Option Spwd → World → Prop) (w : World) :
    wp (gumFileGetspnam (some name)) Q w ↔ Q (w.seenSpwd name)
      { w with faults := { w.faults with readShadow := w.faults.readShadow.tail } } :=
  wp_gumFileLookup_openShadowFile _ Q w

namespace GumdDaemonUser

variable {s : St GumdDaemonUser}

/-- The information file of the uid is there to hold the icon, and holds it or can be written. -/
def IconStorable (config : GumConfig) (w : World) (uid : UInt32) (icon : Str) : Prop :=
  hasUserinfoPath config = true ∧
    (w.files.userIcon config uid = some icon ∨ w.faults.write.head = none)

/-- The icon that is read: nothing where the information file cannot be opened. -/
theorem wp_getUserinfo_seen (config : GumConfig) :
    wp (getUserinfo config) (fun r t => r = (if s.world.faults.readShadow.head then
        s.world.files.userIcon config s.self.pw.pwUid else none) ∧ t.self = s.self ∧
      t.world.files = s.world.files ∧ t.world.faults.write = s.world.faults.write) s := by
  rw [getUserinfo, wp_guard]
  refine ⟨fun absent => ⟨?_, rfl, rfl, rfl⟩, fun present => ?_⟩
  · rw [Files.userIcon, absent, if_neg Bool.false_ne_true, ite_self]
    rfl
  · rw [wp_bind, wp_getSelf, wp_bind, wp_liftM, wp_gumFileLookup_openShadowFile, Files.userIcon,
      if_pos present]
    cases s.world.faults.readShadow.head with
    | false => exact ⟨rfl, rfl, rfl, rfl⟩
    | true => cases s.world.files.userinfo s.self.pw.pwUid <;> exact ⟨rfl, rfl, rfl, rfl⟩

/-- The first outcome of a write decides about the information file. -/
theorem wp_writeUserinfo_head (info : Option Userinfo) :
    wp (writeUserinfo info) (fun _ t => t.self = s.self ∧ t.world.files =
      if s.world.faults.write.head = none then
        s.world.files.setUserinfo s.self.pw.pwUid info else s.world.files) s := by
  simp only [writeUserinfo, wp_bind, wp_get, wp_ite, wp_set, wp_pure]
  cases s.world.faults.write.head with
  | none => exact ⟨by simp, fun _ => ⟨trivial, rfl⟩⟩
  | some fault => exact ⟨fun _ => ⟨trivial, rfl⟩, by simp⟩

/-- The update of the information file leaves it with the object's icon if it can. -/
theorem wp_updateIcon_stores (env : Env) :
    wp (updateIcon env) (fun _ t => t.self = s.self ∧ ∀ icon, ptr s.self.icon = some icon →
      (t.world.files.userIcon env.config s.self.pw.pwUid = some icon ↔
        IconStorable env.config s.world s.self.pw.pwUid icon)) s := by
  by_cases path : hasUserinfoPath env.config = true
  swap
  · refine wp_mono (wp_updateIcon_written env) ?_
    rintro _ t ⟨self, -⟩
    refine ⟨self, fun icon given => ?_⟩
    simp [Files.userIcon, IconStorable, path]
  rw [updateIcon, wp_bind]
  refine wp_mono (wp_getUserinfo_seen env.config) ?_
  rintro seen t ⟨seen_eq, self, files, write⟩
  rw [wp_bind, wp_getSelf, wp_ite, self]
  refine ⟨fun changed => ?_, fun same => ⟨self, fun icon given => ?_⟩⟩
  · rw [wp_bind, wp_getSelf, self, wp_bind, updateUserinfo, path, wp_guard]
    refine ⟨by simp, fun _ => ?_⟩
    rw [wp_bind, wp_getSelf, wp_bind, wp_liftM, wp_gumFileLookup_openShadowFile]
    refine wp_mono (wp_writeUserinfo_head _) ?_
    rintro _ v ⟨self', files'⟩
    refine ⟨self'.trans self, fun icon given => ?_⟩
    dsimp only at files'
    rw [files, write, self] at files'
    change v.world.files.userIcon env.config s.self.pw.pwUid = some icon ↔ _
    rw [IconStorable, files']
    by_cases writable : s.world.faults.write.head = none
    · rw [if_pos writable, given]
      simp [Files.userIcon, Files.setUserinfo, path, writable]
    · rw [if_neg writable]
      simp [path, writable]
  · -- the icon that was read is the object's
    have own : s.self.icon.isSome = true := by
      obtain ⟨value, unset, -⟩ := Option.map_eq_some_iff.mp given
      rw [unset, Option.isSome_some]
    have read : seen = some icon := by simpa [iconChanged, given, own] using same
    rw [read] at seen_eq
    split_ifs at seen_eq
    change t.world.files.userIcon env.config s.self.pw.pwUid = some icon ↔ _
    simp [IconStorable, path, files, ← seen_eq]

/-- An update whose writes cannot fail succeeds exactly if these hold: it gets the lock and finds
the entries, and neither the secret nor the user type stands in the way. -/
structure Succeeds (u : GumdDaemonUser) (env : Env) (w : World) (pw : Passwd) (sp : Spwd) : Prop where
  granted : w.lockGranted = true
  found : w.seenPasswd u.pw = some pw
  shadow : w.seenSpwd pw.pwName = some sp
  encrypts : ¬u.SecretFails env pw sp
  typed : ¬u.TypeConflict env pw sp

/-- The object differs from the entry in the gecos or the shell. -/
def Differs (u : GumdDaemonUser) (env : Env) (pw : Passwd) (sp : Spwd) : Prop :=
  gecosChanged pw (u.updated env pw sp) = true ∨ shellChanged pw (u.updated env pw sp) = true

/-- The entry that is found for an object is the one it can be updated from. -/
theorem Updatable.seen {u : GumdDaemonUser} {w : World} {pw found : Passwd} {sp : Spwd}
    (updatable : u.Updatable w.files pw sp) (seen : w.seenPasswd u.pw = some found) : found = pw := by
  obtain ⟨byUid, own⟩ := updatable.byUid
  obtain ⟨agrees, found' | ⟨look, named, byName⟩⟩ := World.search_some seen
  · exact Option.some.inj (found'.symm.trans byUid)
  -- each of the two entries is the first one with the uid and the name
  obtain ⟨name, given, rfl⟩ := Option.map_eq_some_iff.mp named
  obtain ⟨uid, -⟩ := PasswdRecord.agrees_iff.mp agrees
  obtain ⟨-, pwName⟩ := PasswdRecord.agrees_iff.mp (Files.getPasswd_some updatable.entry).2
  have uid := uid.resolve_left updatable.valid
  have pwName := pwName.resolve_left (by simp [given])
  rw [given, ptr_some] at pwName
  have first := find?_of_imp byName (q := fun e => e.pwUid = u.pw.pwUid ∧ e.pwName = name.val)
    (by simpa [uid] using List.find?_some byName) (by simp)
  have second := find?_of_imp byUid (q := fun e => e.pwUid = u.pw.pwUid ∧ e.pwName = name.val)
    (by simp [own, Option.some.inj pwName]) fun e key => by simpa using (of_decide_eq_true key).1
  exact Option.some.inj (first.symm.trans second)

/-- Whether an update succeeds, and what the information file holds afterwards. -/
structure UpdateEnds (u : GumdDaemonUser) (env : Env) (w : World) (pw : Passwd) (sp : Spwd) (r : Bool)
    (f' : Files) : Prop where
  succeeds : w.faults.write = .const none → u.Differs env pw sp → (r = true ↔ u.Succeeds env w pw sp)
  icon : r = true → ∀ icon, ptr u.icon = some icon →
    (f'.userIcon env.config u.pw.pwUid = some icon ↔ IconStorable env.config w u.pw.pwUid icon)

/-- An update ends unsuccessfully where one of the conditions fails. -/
theorem UpdateEnds.failed {u : GumdDaemonUser} {env : Env} {w : World} {pw : Passwd} {sp : Spwd}
    (f' : Files) (why : w.faults.write = .const none → u.Differs env pw sp →
      ¬u.Succeeds env w pw sp) : u.UpdateEnds env w pw sp false f' where
  succeeds writable differs := by simp [why writable differs]
  icon done := nomatch done

/-- The whole update, step by step: the lookups, the lock, the merge of the two entries, the rewrite of both
files if they differ, and the icon. -/
theorem gumdDaemonUserUpdate_ends {env : Env} {pw : Passwd} {sp : Spwd}
    (updatable : s.self.Updatable s.world.files pw sp)
    (accepted : gumValidateName (some pw.pwName) = .ok ()) :
    wp (gumdDaemonUserUpdate env) (fun r t =>
      s.self.UpdateEnds env s.world pw sp r t.world.files) s := by
  rw [gumdDaemonUserUpdate, wp_bind, wp_liftM, wp_gumLockPwdfLock, wp_guard]
  refine ⟨fun denied => ?_, fun granted => ?_⟩
  · refine .failed _ fun _ _ succeeds => ?_
    rw [succeeds.granted] at denied
    cases denied
  rw [wp_bind, wp_getSelf, wp_ite]
  refine ⟨fun invalid => absurd invalid updatable.valid, fun valid => ?_⟩
  rw [wp_bind]
  refine wp_mono (@wp_getPasswd_seen ⟨s.self, s.world.afterLock⟩ valid) ?_
  rintro r t₁ ⟨rfl, self₁, sought⟩
  change t₁.self = s.self at self₁
  have seen : (World.afterLock s.world).seenPasswd s.self.pw = s.world.seenPasswd s.self.pw :=
    World.search_afterLock _ _ _ _
  dsimp only
  rw [seen]
  cases found : s.world.seenPasswd s.self.pw with
  | none =>
    refine .failed _ fun _ _ succeeds => ?_
    rw [succeeds.found] at found
    cases found
  | some entry =>
    obtain rfl := updatable.seen found
    have files₁ : t₁.world.files = s.world.files :=
      sought.quiet.files.trans (World.files_afterLock _)
    have seenSp : t₁.world.seenSpwd entry.pwName = s.world.seenSpwd entry.pwName := by
      rw [World.seenSpwd, World.seenSpwd, sought.readShadow, files₁, World.readShadow_afterLock]
    rw [wp_bind, wp_liftM, wp_gumFileGetspnam_seen, seenSp]
    cases shadow : s.world.seenSpwd entry.pwName with
    | none =>
      refine .failed _ fun _ _ succeeds => ?_
      rw [succeeds.shadow] at shadow
      cases shadow
    | some spent =>
      have same : spent = sp := by
        rw [World.seenSpwd] at shadow
        split_ifs at shadow
        exact Option.some.inj (shadow.symm.trans updatable.shadow)
      subst same
      dsimp only
      rw [wp_bind]
      refine wp_mono (wp_and (wp_updateIcon_stores env) (wp_updateIcon env)) ?_
      rintro changed t₂ ⟨⟨self₂, icon₂⟩, -, balanced₂, same₂, -⟩
      change t₂.self = t₁.self at self₂
      change t₁.world.files.SameDb t₂.world.files at same₂
      have writes : t₁.world.faults.write = s.world.faults.write :=
        sought.write.trans (World.write_afterLock _)
      have writable : s.world.faults.write = .const none → t₂.world.faults.write = .const none :=
        fun calm => balanced₂.write (writes.trans calm)
      simp only [IconStorable, files₁, writes] at icon₂
      rw [files₁] at same₂
      rw [self₁] at self₂ icon₂
      simp only [wp_bind, wp_modifySelf, wp_getSelf, self₂]
      refine wp_mono (wp_updateSecret env entry) ?_
      rintro ok t₃ ⟨rfl, self₃, quiet₃⟩
      change t₃.self = s.self.updated env entry spent at self₃
      change t₂.world.Quiet t₃.world at quiet₃
      replace writable := fun calm => quiet₃.balanced.write (writable calm)
      replace same₂ := quiet₃.files ▸ same₂
      rw [← quiet₃.files] at icon₂
      rw [wp_guard]
      refine ⟨fun unencrypted => .failed _ fun _ _ succeeds => succeeds.encrypts ?_, fun done => ?_⟩
      · simpa [SecretFails, newSecret] using unencrypted
      have encrypts : ¬s.self.SecretFails env entry spent := by
        rintro ⟨changed, failed⟩
        simp only [newSecret] at changed
        simp [changed, failed] at done
      simp only [wp_bind, wp_getSelf, wp_ite, self₃]
      refine ⟨fun conflict => .failed _ fun _ _ succeeds => succeeds.typed conflict, fun typed =>
        ⟨fun idle => .failed _ fun _ differs _ => ?_, fun _ => ?_⟩⟩
      · obtain ⟨-, -, gecos, shell⟩ := idle
        rcases differs with differs | differs
        · simp [differs] at gecos
        · simp [differs] at shell
      rw [← wp_bind]
      refine wp_writeBoth (writesAs_updatePasswdFile _ _ _) (writesAs_updateShadowFile _ _ _)
        (fun t₄ self₄ balanced₄ written => ?_) fun t₄ self₄ balanced₄ written => ?_
      all_goals
        rw [wp_unlockReturn, World.files_afterUnlock]
        rw [self₃] at written
        generalize t₄.world.files = f' at written ⊢
      · refine .failed _ fun calm _ _ => ?_
        obtain ⟨new, put⟩ := updatable.putpwent env accepted
        cases written with
        | neither why =>
          obtain ⟨_, error⟩ := why (writable calm)
          rw [updatable.rewritePasswd same₂, put] at error
          cases error
        | one first why =>
          obtain ⟨new, put, rfl⟩ := updatable.rewritePasswd_ok same₂ first
          obtain ⟨_, error⟩ := why (writable calm)
          obtain ⟨newSp, -, rewritten⟩ := updatable.rewriteShadow env
            (t₃.world.files.replacePasswd entry new) same₂.shadow
          rw [rewritten] at error
          cases error
      · refine ⟨fun _ _ => ⟨fun _ => ⟨granted, found, shadow, encrypts, typed⟩, fun _ => rfl⟩,
          fun _ icon given => ?_⟩
        cases written with
        | both first second =>
          obtain ⟨new, put, rfl⟩ := updatable.rewritePasswd_ok same₂ first
          obtain ⟨newSp, -, rfl⟩ := rewriteShadow_modify second
          exact icon₂ icon given

end GumdDaemonUser

/-! ## The gecos that stays missing -/

section Gecos

open GumdDaemonUser

/-- A text is missing from an entry, or the setters refuse it. -/
def Refused (pw : Passwd) (field : GecosField) : Prop :=
  ∀ text, gecosFieldOf pw field = some text → ¬gumValidateDbStringEntry (some text) = .ok ()

/-- A setter of a text leaves a gecos missing only if there is nothing to insert. -/
theorem setGecosText_eq_none {field : GecosField} {value : Option Str} {gecos : Option Gecos} :
    setGecosText field value gecos = none ↔
      gecos = none ∧ ∀ text, value = some text → ¬gumValidateDbStringEntry (some text) = .ok () := by
  constructor
  · intro missing
    cases value with
    | none =>
      refine ⟨?_, by simp⟩
      rw [setGecosText] at missing
      split_ifs at missing <;> exact missing
    | some text =>
      have refused : ¬gumValidateDbStringEntry (some text) = .ok () := by
        intro accepted
        rw [setGecosText, dif_pos accepted] at missing
        split_ifs at missing with changed
        rw [missing] at changed
        exact absurd changed (by simp [gumStringUtilsGetString])
      rw [setGecosText, dif_neg refused] at missing
      refine ⟨?_, fun other same => ?_⟩
      · split_ifs at missing <;> exact missing
      · rwa [← Option.some.inj same]
  · rintro ⟨rfl, refused⟩
    cases value with
    | none =>
      rw [setGecosText]
      split_ifs <;> rfl
    | some text =>
      rw [setGecosText, dif_neg (refused text rfl)]
      split_ifs <;> rfl

/-- Setting a type leaves no gecos exactly if there was none and the type is none. -/
theorem setGecosUsertype_eq_none {type : GumUserType} {gecos : Option Gecos} :
    setGecosUsertype type.value gecos = none ↔ gecos = none ∧ type = .none := by
  constructor
  · intro missing
    rw [setGecosUsertype] at missing
    split_ifs at missing with valid changed
    · obtain ⟨name, known⟩ := exists_gumUserTypeToString valid.1 valid.2
      split at missing
      · rename_i unknown
        rw [known] at unknown
        cases unknown
      · cases missing
    · rw [missing] at changed
      have untyped : type.value = GumUserType.none.value := (not_not.mp changed).symm
      refine ⟨missing, ?_⟩
      cases type <;> first | rfl | exact absurd untyped (by decide)
    · refine ⟨missing, ?_⟩
      cases type <;> first | rfl | exact absurd (by decide) valid
  · rintro ⟨rfl, rfl⟩
    rfl

/-- Merging a text leaves no gecos exactly if there was none and the text of the entry is refused. -/
theorem mergeGecosField_eq_none {field : GecosField} (text : field ≠ .usertype) {src : Passwd}
    {gecos : Option Gecos} :
    mergeGecosField src field gecos = none ↔ gecos = none ∧ Refused src field := by
  by_cases held : gecosText (ptr gecos) field = []
  · rw [mergeGecosField_missing src text held, setGecosText_eq_none]
    rfl
  · rw [mergeGecosField_held src held]
    constructor
    · rintro rfl
      exact absurd rfl held
    · exact fun missing => missing.1

/-- Merging the type leaves no gecos exactly if there was none and the entry has no type. -/
theorem mergeUsertype_eq_none {src : Passwd} {gecos : Option Gecos} :
    mergeGecosField src .usertype gecos = none ↔
      gecos = none ∧ getUsertypeFromGecos (some src.pwGecos) = .none := by
  by_cases held : gecosText (ptr gecos) .usertype = []
  · rw [mergeGecosField_usertype src held, setGecosUsertype_eq_none]
  · rw [mergeGecosField_held src held]
    constructor
    · rintro rfl
      exact absurd rfl held
    · exact fun missing => missing.1

/-- The setters refuse every text of the entry, and it names no user type. -/
structure Gecosless (pw : Passwd) : Prop where
  texts : ∀ field, field ≠ .usertype → Refused pw field
  untyped : getUsertypeFromGecos (some pw.pwGecos) = .none

/-- The merge of all fields leaves no gecos exactly if there was none and the entry has none to give. -/
theorem mergedGecos_eq_none {src : Passwd} {gecos : Option Gecos} :
    mergedGecos src gecos = none ↔ gecos = none ∧ Gecosless src := by
  rw [mergedGecos, mergeUsertype_eq_none, mergeGecosField_eq_none (by decide),
    mergeGecosField_eq_none (by decide), mergeGecosField_eq_none (by decide),
    mergeGecosField_eq_none (by decide)]
  constructor
  · rintro ⟨⟨⟨⟨⟨rfl, realname⟩, office⟩, officephone⟩, homephone⟩, untyped⟩
    refine ⟨rfl, fun field text => ?_, untyped⟩
    cases field with
    | realname => exact realname
    | office => exact office
    | officephone => exact officephone
    | homephone => exact homephone
    | usertype => exact absurd rfl text
  · rintro ⟨rfl, texts, untyped⟩
    exact ⟨⟨⟨⟨⟨rfl, texts _ (by decide)⟩, texts _ (by decide)⟩, texts _ (by decide)⟩,
      texts _ (by decide)⟩, untyped⟩

/-! ## The user type in the gecos -/

/-- The text a user type is written as; none is written for no type. -/
def GumUserType.text (type : GumUserType) : Str := (gumUserTypeToString type.value).getD []

/-- A gecos without a type gets the text of the type that is set. -/
theorem text_setGecosUsertype {gecos : Option Gecos} (type : GumUserType)
    (missing : gecosText (ptr gecos) .usertype = []) :
    gecosText (ptr (setGecosUsertype type.value gecos)) .usertype = type.text := by
  have untyped : getUsertypeFromGecos (ptr gecos) = .none := by
    rw [getUsertypeFromGecos_eq, missing]
    rfl
  rw [setGecosUsertype, untyped]
  split_ifs with valid changed
  · split
    · rename_i unknown
      obtain ⟨name, known⟩ := exists_gumUserTypeToString valid.1 valid.2
      rw [known] at unknown
      cases unknown
    · rename_i name known
      rw [ptr_some, gecosText_insertGecosField, if_pos rfl]
      exact (congrArg (fun text => text.getD []) known).symm
  · refine missing.trans ?_
    cases type <;> first | rfl | exact absurd (by decide) changed
  · refine missing.trans ?_
    cases type <;> first | rfl | exact absurd (by decide) valid

/-- The entry's last text is empty or names a user type, as the daemon writes it. -/
def ReadableType (pw : Passwd) : Prop :=
  ∃ text, gecosFieldOf pw .usertype = some text ∧
    (text = [] ∨ ∃ type : GumUserType, gumUserTypeToString type.value = some text)

/-- The text of the user type that is read from the entry. -/
def readTypeText (pw : Passwd) : Str := (getUsertypeFromGecos (some pw.pwGecos)).text

/-- The type is read back exactly if the text of the entry is one the daemon prints. -/
theorem readableType_iff {pw : Passwd} :
    ReadableType pw ↔ gecosFieldOf pw .usertype = some (readTypeText pw) := by
  constructor
  · rintro ⟨text, given, named⟩
    have type : getUsertypeFromGecos (some pw.pwGecos) = gumUserTypeFromString (some text) := by
      rw [getUsertypeFromGecos_eq, gecosText]
      change gumUserTypeFromString (some ((gecosFieldOf pw .usertype).getD [])) = _
      rw [given, Option.getD_some]
    rw [given, readTypeText, type]
    rcases named with rfl | ⟨type, known⟩
    · rfl
    · rw [gumUserTypeFromString_toString known, GumUserType.text, known, Option.getD_some]
  · intro given
    refine ⟨_, given, ?_⟩
    rw [readTypeText, GumUserType.text]
    cases known : gumUserTypeToString (getUsertypeFromGecos (some pw.pwGecos)).value with
    | none => exact Or.inl rfl
    | some name => exact Or.inr ⟨_, known⟩

/-- A user type is read from its name. -/
theorem toString_gumUserTypeFromString {text : Str}
    (typed : gumUserTypeFromString (some text) ≠ .none) :
    gumUserTypeToString (gumUserTypeFromString (some text)).value = some text := by
  have names : ∀ entry ∈ userTypeStrings, entry.1 ≠ .none →
      gumUserTypeToString entry.1.value = some entry.2 := by decide
  simp only [gumUserTypeFromString] at typed ⊢
  split_ifs at typed ⊢ with empty
  · exact absurd rfl typed
  · cases found : userTypeStrings.find? (·.2 == text) with
    | none => simp [found] at typed
    | some entry =>
      rw [found] at typed
      have named : entry.2 = text := by simpa using List.find?_some found
      rw [← named]
      exact names entry (List.mem_of_find?_eq_some found) typed

/-- An entry that names a type has a readable one. -/
theorem readableType_of_typed {pw : Passwd}
    (typed : getUsertypeFromGecos (some pw.pwGecos) ≠ .none) : ReadableType pw := by
  rw [getUsertypeFromGecos_eq] at typed
  have named := toString_gumUserTypeFromString typed
  cases given : gecosFieldOf pw .usertype with
  | none =>
    have missing : gecosText (some pw.pwGecos) .usertype = [] := by
      change (gecosFieldOf pw .usertype).getD [] = []
      rw [given]
      rfl
    rw [missing] at typed
    exact absurd rfl typed
  | some text =>
    have own : gecosText (some pw.pwGecos) .usertype = text := by
      change (gecosFieldOf pw .usertype).getD [] = text
      rw [given]
      rfl
    rw [own] at named
    exact ⟨text, given, Or.inr ⟨_, named⟩⟩

end Gecos

/-! ## The object after a load -/

namespace GumdDaemonUser

/-- The gecos of an object that is loaded from an entry. -/
def loadedGecos (pent : Passwd) : Option Gecos :=
  none
    |> setGecosText .realname (gecosFieldOf pent .realname)
    |> setGecosText .office (gecosFieldOf pent .office)
    |> setGecosText .officephone (gecosFieldOf pent .officephone)
    |> setGecosText .homephone (gecosFieldOf pent .homephone)
    |> setGecosUsertype (getUsertypeFromGecos (some pent.pwGecos)).value

/-- A user is loaded with the type of its entry. -/
theorem usertype_loadedGecos (pent : Passwd) :
    gecosText (ptr (loadedGecos pent)) .usertype = readTypeText pent := by
  rw [loadedGecos]
  apply text_setGecosUsertype
  rw [gecosText_setGecosText_other (by decide), gecosText_setGecosText_other (by decide),
    gecosText_setGecosText_other (by decide), gecosText_setGecosText_other (by decide)]
  rfl

/-- A user is loaded without a gecos exactly if the entry has none. -/
theorem loadedGecos_eq_none {pent : Passwd} : loadedGecos pent = none ↔ Gecosless pent := by
  rw [loadedGecos, setGecosUsertype_eq_none, setGecosText_eq_none, setGecosText_eq_none,
    setGecosText_eq_none, setGecosText_eq_none]
  constructor
  · rintro ⟨⟨⟨⟨⟨-, realname⟩, office⟩, officephone⟩, homephone⟩, untyped⟩
    refine ⟨fun field text => ?_, untyped⟩
    cases field with
    | realname => exact realname
    | office => exact office
    | officephone => exact officephone
    | homephone => exact homephone
    | usertype => exact absurd rfl text
  · rintro ⟨texts, untyped⟩
    exact ⟨⟨⟨⟨⟨rfl, texts .realname (by decide)⟩, texts .office (by decide)⟩,
      texts .officephone (by decide)⟩, texts .homephone (by decide)⟩, untyped⟩

/-- An object that is loaded by uid from the given entries. -/
structure LoadedFrom (v : GumdDaemonUser) (pent : Passwd) (spent : Spwd) : Prop where
  pw : v.pw =
    { pwName := setStringProperty (some pent.pwName) none
      pwPasswd := setStringProperty (some pent.pwPasswd) none
      pwUid := pent.pwUid
      pwGid := pent.pwGid
      pwGecos := loadedGecos pent
      pwDir := setStringProperty (some pent.pwDir) none
      pwShell := setStringProperty (some pent.pwShell) none }
  spNamp : v.shadow.spNamp = some spent.spNamp
  spPwdp : v.shadow.spPwdp = some spent.spPwdp
  valid : pent.pwUid ≠ gumUserInvalidUid

/-- What `gumd_daemon_user_new_by_uid` makes of the two entries of a user. -/
theorem loadedFrom_of_loaded {env : Env} {uid : UInt32} {w : World} {v : GumdDaemonUser}
    {pent : Passwd} {spent : Spwd}
    (loaded : ((gumdDaemonUserNewByUid env uid).run w).1 = some v)
    (entry : w.files.getpwuid uid = some pent)
    (shadow : w.files.getspnam pent.pwName = some spent) : v.LoadedFrom pent spent := by
  obtain ⟨-, copies⟩ := gumdDaemonUserNewByUid_copies env uid w
  obtain ⟨valid, pent', spent', icon, entry', shadow', rfl⟩ := copies v loaded
  obtain rfl := Option.some.inj (entry.symm.trans entry')
  obtain rfl := Option.some.inj (shadow.symm.trans shadow')
  have own : pent.pwUid = uid := by simpa using List.find?_some entry
  exact ⟨rfl, rfl, rfl, own ▸ valid⟩

/-- Every edit leaves a string as the last one that is written to its text. -/
theorem exists_lastWritten {edits : Edits} {edit : UserText × Str} (mem : edit ∈ edits) :
    ∃ value, edits.lastWritten edit.1 = some value := by
  induction edits using List.reverseRecOn with
  | nil => cases mem
  | append_singleton edits last ih =>
    rw [lastWritten_concat]
    by_cases same : edit.1 = last.1
    · exact ⟨last.2, by rw [same, Function.update_self]⟩
    · rw [Function.update_of_ne same]
      rcases List.mem_append.mp mem with before | here
      · exact ih before
      · obtain rfl := List.mem_singleton.mp here
        exact absurd rfl same

/-- The string last written is that of an edit. -/
theorem mem_of_lastWritten {edits : Edits} {text : UserText} {value : Str}
    (written : edits.lastWritten text = some value) : (text, value) ∈ edits := by
  induction edits using List.reverseRecOn with
  | nil => cases written
  | append_singleton edits last ih =>
    rw [lastWritten_concat] at written
    by_cases same : text = last.1
    · subst same
      rw [Function.update_self] at written
      rw [← Option.some.inj written]
      exact List.mem_append_right _ List.mem_cons_self
    · rw [Function.update_of_ne same] at written
      exact List.mem_append_left _ (ih written)

/-- No edit writes a text of the gecos. -/
def Ungecosed (edits : Edits) : Prop := ∀ edit ∈ edits, ∀ field, edit.1 ≠ .gecos field

/-- Edits leave an object without a gecos exactly if there was none and no edit is of a gecos field. -/
theorem edited_gecos_eq_none {edits : Edits} (valid : edits.Valid) {u : GumdDaemonUser} :
    (u.edited edits).pw.pwGecos = none ↔ Ungecosed edits ∧ u.pw.pwGecos = none := by
  constructor
  · intro missing
    have apart : Ungecosed edits := by
      intro edit mem field same
      obtain ⟨value, written⟩ := exists_lastWritten mem
      have shown := shown_edited valid written u
      rw [same] at shown
      change gumStringUtilsGetString (ptr (u.edited edits).pw.pwGecos) comma _ = some value at shown
      rw [missing] at shown
      cases shown
    exact ⟨apart, gecos_edited apart u ▸ missing⟩
  · rintro ⟨apart, missing⟩
    exact (gecos_edited apart u).trans missing

section Edited

variable {env : Env} {v : GumdDaemonUser} {pw new : Passwd} {sp newSp : Spwd} {edits : Edits}

/-- An object that is loaded and edited can be updated from the entries of its user. -/
theorem LoadedFrom.updatable {f : Files} {pw' : Passwd} {sp' : Spwd} (loaded : v.LoadedFrom pw sp)
    (entry : f.getpwuid pw.pwUid = some pw') (name : pw'.pwName = pw.pwName)
    (shadow : f.getspnam pw'.pwName = some sp') : (v.edited edits).Updatable f pw' sp' := by
  have same := (sameButTexts_edited edits v).pw
  have uid : (v.edited edits).pw.pwUid = pw.pwUid := by
    rw [same, loaded.pw]
  have own : (v.edited edits).pw.pwName = setStringProperty (some pw.pwName) none := by
    rw [same, loaded.pw]
  have found : pw'.pwUid = pw.pwUid := by simpa using List.find?_some entry
  have valid : (v.edited edits).pw.pwUid ≠ gumUserInvalidUid := uid ▸ loaded.valid
  refine ⟨valid, ?_, shadow⟩
  rw [Files.getPasswd_of_uid f valid, uid, entry, Option.filter_some, if_pos]
  refine PasswdRecord.agrees_iff.mpr ⟨Or.inr (uid.trans found.symm), ?_⟩
  have given := ptr_setStringProperty_agreeing (p := fun s => gumValidateName (some s) = .ok ())
    (v := pw.pwName) (Or.inl (Eq.refl none))
  rw [own, name]
  split_ifs at given with accepted
  · exact Or.inr given
  · exact Or.inl (ptr_eq_none.mp given)

/-- The merge keeps the type that the user was loaded with, whatever the edits. -/
theorem LoadedFrom.usertype_mergedGecos (loaded : v.LoadedFrom pw sp) (edits : Edits) :
    gecosText (ptr (mergedGecos pw (v.edited edits).pw.pwGecos)) .usertype = readTypeText pw := by
  have own : gecosText (ptr (v.edited edits).pw.pwGecos) .usertype = readTypeText pw := by
    rw [usertype_edited, loaded.pw, usertype_loadedGecos]
  rw [mergedGecos]
  have texts : gecosText (ptr ((v.edited edits).pw.pwGecos
      |> mergeGecosField pw .realname
      |> mergeGecosField pw .office
      |> mergeGecosField pw .officephone
      |> mergeGecosField pw .homephone)) .usertype = readTypeText pw := by
    simp [gecosText_mergeGecosField, own]
  generalize mergeGecosField pw .homephone _ = gecos at texts ⊢
  by_cases held : gecosText (ptr gecos) .usertype = []
  · rw [mergeGecosField_usertype pw held]
    exact text_setGecosUsertype _ held
  · rw [mergeGecosField_held pw held, texts]

/-- The user type stands in the way exactly if it is not readable and there is a gecos to write. -/
theorem LoadedFrom.typeConflict_iff (loaded : v.LoadedFrom pw sp) (valid : edits.Valid) (sp' : Spwd) :
    (v.edited edits).TypeConflict env pw sp' ↔
      ¬(ReadableType pw ∨ Ungecosed edits ∧ ∀ field, field ≠ .usertype → Refused pw field) := by
  obtain ⟨-, -, gecos⟩ := pw_updated (v.edited edits) env pw sp'
  have type := loaded.usertype_mergedGecos edits
  have missing : mergedGecos pw (v.edited edits).pw.pwGecos = none ↔
      Ungecosed edits ∧ Gecosless pw := by
    rw [mergedGecos_eq_none, edited_gecos_eq_none valid, loaded.pw, loadedGecos_eq_none, and_assoc,
      and_self]
  rw [TypeConflict, gecosChanged, usertypeChanged, gecos]
  cases merged : mergedGecos pw (v.edited edits).pw.pwGecos with
  | none =>
    obtain ⟨apart, gecosless⟩ := missing.mp merged
    constructor
    · rintro ⟨gone, -⟩
      simp at gone
    · exact fun forbidden => absurd (Or.inr ⟨apart, gecosless.texts⟩) forbidden
  | some g =>
    rw [merged] at type
    rw [ptr_some, getString_gecos, ← ptr_some, type]
    have written : ¬(Ungecosed edits ∧ Gecosless pw) := fun h => by
      rw [missing.mpr h] at merged
      cases merged
    constructor
    · rintro ⟨-, differs⟩ allowed
      have differs : some (readTypeText pw) ≠ gecosFieldOf pw .usertype := by simpa using differs
      have unreadable : ¬ReadableType pw := fun readable =>
        differs (readableType_iff.mp readable).symm
      obtain ⟨apart, texts⟩ := allowed.resolve_left unreadable
      refine written ⟨apart, texts, ?_⟩
      by_contra typed
      exact unreadable (readableType_of_typed typed)
    · intro forbidden
      have unreadable : gecosFieldOf pw .usertype ≠ some (readTypeText pw) := fun same =>
        forbidden (Or.inl (readableType_iff.mpr same))
      refine ⟨?_, by simpa using unreadable.symm⟩
      have changed : pw.pwGecos ≠ g.val := by
        intro same
        apply unreadable
        rw [gecosFieldOf, same, getString_gecos, ← ptr_some, type]
      simpa using changed

/-- The passwd entry's password counts as a new secret, and cannot be encrypted. -/
structure SecretStuck (env : Env) (pw : Passwd) (sp : Spwd) : Prop where
  accepted : gumValidateDbSecretEntry (some pw.pwPasswd) = .ok ()
  unmarked : pw.pwPasswd ≠ str "x"
  unverified : gumCryptCmpSecret env.crypt (some pw.pwPasswd) (some sp.spPwdp) ≠ 0
  unencrypted : gumCryptEncryptSecret env.crypt env.urandom pw.pwPasswd
    (gumConfigGetString env.config gumConfigGeneralEncryptMethod) = none

/-- Whether the secret of a loaded user can be merged is up to the two entries, whatever the edits. -/
theorem LoadedFrom.secretFails_iff (loaded : v.LoadedFrom pw sp) :
    (v.edited edits).SecretFails env pw sp ↔ SecretStuck env pw sp := by
  obtain ⟨same, shadow⟩ := sameButTexts_edited edits v
  have secret : ((v.edited edits).mergeEntries pw sp).pw.pwPasswd =
      setStringProperty (some pw.pwPasswd) none := by
    change (v.edited edits).pw.pwPasswd = _
    rw [same, loaded.pw]
  have stored : ((v.edited edits).mergeEntries pw sp).shadow.spPwdp = some sp.spPwdp := by
    change (copyShadowStruct sp true (v.edited edits).shadow).spPwdp = _
    rw [copyShadowStruct, shadow, loaded.spPwdp]
    rfl
  rw [SecretFails, newSecret, secretChanged, newPwdp, secret, stored]
  by_cases accepted : gumValidateDbSecretEntry (some pw.pwPasswd) = .ok ()
  · rw [setStringProperty_of_accepted accepted]
    constructor
    · rintro ⟨changed, unencrypted⟩
      obtain ⟨-, unmarked, unverified⟩ := of_decide_eq_true changed
      exact ⟨accepted, by simpa using unmarked, unverified, unencrypted⟩
    · rintro ⟨-, unmarked, unverified, unencrypted⟩
      exact ⟨decide_eq_true ⟨rfl, by simpa using unmarked, unverified⟩, unencrypted⟩
  · have refused : ∀ s, some pw.pwPasswd = some s → ¬gumValidateDbSecretEntry (some s) = .ok () := by
      rintro s ⟨rfl⟩
      exact accepted
    rw [setStringProperty_of_rejected refused]
    constructor
    · rintro ⟨changed, -⟩
      simp at changed
    · exact fun stuck => absurd stuck.accepted accepted

/-- What an update stores of a text of the gecos that the object shows. -/
theorem Merges.stored_gecos {u : GumdDaemonUser} {w : World} {f' : Files} {field : GecosTextField}
    {value : Str} (merges : u.Merges env w pw sp new newSp f')
    (shown : (UserText.gecos field).shown u = some value) :
    (UserText.gecos field).stored new =
      some (mergedText value (gecosText (some pw.pwGecos) field.val)) := by
  have own : gecosText (ptr u.pw.pwGecos) field.val = value := by
    change (UserText.shown u (.gecos field)).getD [] = value
    rw [shown]
    rfl
  have text := merges.gecos_eq field.property
  rw [own] at text
  rw [← text]
  obtain ⟨name, -, rfl⟩ := merges.new_eq
  cases merged : mergedGecos pw u.pw.pwGecos with
  | some g => exact getString_gecos g field.val
  | none =>
    have missing := (mergedGecos_eq_none.mp merged).1
    change gumStringUtilsGetString (ptr u.pw.pwGecos) comma _ = some value at shown
    rw [missing] at shown
    cases shown

/-- The shell that an object shows is stored. -/
theorem Merges.stored_shell {u : GumdDaemonUser} {w : World} {f' : Files} {value : Str}
    (merges : u.Merges env w pw sp new newSp f') (shown : UserText.shell.shown u = some value) :
    UserText.shell.stored new = some value := by
  obtain ⟨name, -, rfl⟩ := merges.new_eq
  change ptr u.pw.pwShell = some value at shown
  change some ((ptr u.pw.pwShell).getD []) = some value
  rw [shown]
  rfl

/-- A string that is not what the entry holds makes the object differ from it. -/
theorem differs_of_shown {u : GumdDaemonUser} {text : UserText} {value : Str} (sp : Spwd)
    (shown : text.shown u = some value) (nonempty : value ≠ []) (stored : text.stored pw ≠ some value)
    (entry : text ≠ .icon) : u.Differs env pw sp := by
  obtain ⟨shell, -, gecos⟩ := pw_updated u env pw sp
  cases text with
  | icon => exact absurd rfl entry
  | shell =>
    change ptr u.pw.pwShell = some value at shown
    refine Or.inr (decide_eq_true ⟨?_, ?_⟩)
    · rw [shell]
      cases unset : u.pw.pwShell with
      | none => simp [unset] at shown
      | some given => rfl
    · rw [shell, shown]
      simpa [UserText.stored] using stored
  | gecos field =>
    have own : gecosText (ptr u.pw.pwGecos) field.val = value := by
      change (UserText.shown u (.gecos field)).getD [] = value
      rw [shown]
      rfl
    have merged := gecosText_mergedGecos field.property pw u.pw.pwGecos
    rw [own, mergedText, if_neg fun h => nonempty h.1] at merged
    refine Or.inl ?_
    rw [gecosChanged, gecos]
    cases written : mergedGecos pw u.pw.pwGecos with
    | none =>
      rw [written] at merged
      exact absurd merged.symm nonempty
    | some g =>
      rw [written, ptr_some] at merged
      have changed : pw.pwGecos ≠ g.val := by
        intro same
        apply stored
        change gumStringUtilsGetString (some pw.pwGecos) comma field.val.index = some value
        rw [same, getString_gecos, merged]
      simpa using changed

end Edited

/-! ## Updating an existing user -/

/-- The conditions under which an update after the edits stores them. -/
structure Editable (env : Env) (w : World) (pw : Passwd) (sp : Spwd) (edits : Edits) : Prop where
  granted : w.lockGranted = true
  passwd : w.faults.read.head = true ∨
    w.faults.read.tail.head = true ∧ w.files.getpwnam pw.pwName = some pw
  shadow : w.faults.readShadow.head = true
  secret : ¬SecretStuck env pw sp
  gecos : ReadableType pw ∨ Ungecosed edits ∧ ∀ field, field ≠ .usertype → Refused pw field

/-- The name of a loaded object, if it is a valid one. -/
theorem LoadedFrom.name {v : GumdDaemonUser} {pw : Passwd} {sp : Spwd} (loaded : v.LoadedFrom pw sp)
    (accepted : gumValidateName (some pw.pwName) = .ok ()) (edits : Edits) :
    (v.edited edits).pw.pwName = some ⟨pw.pwName, accepted⟩ := by
  rw [(sameButTexts_edited edits v).pw, loaded.pw]
  exact setStringProperty_of_accepted (p := fun s => gumValidateName (some s) = .ok ()) accepted none

/-- The entry that is seen for the loaded object has its name. -/
theorem LoadedFrom.name_of_seen {v : GumdDaemonUser} {pw found : Passwd} {sp : Spwd} {w : World}
    (loaded : v.LoadedFrom pw sp) (accepted : gumValidateName (some pw.pwName) = .ok ())
    {edits : Edits} (seen : w.seenPasswd (v.edited edits).pw = some found) :
    found.pwName = pw.pwName := by
  have given := loaded.name accepted edits
  have agrees := (PasswdRecord.agrees_iff.mp (World.seenPasswd_some seen).1).2
  replace agrees := agrees.resolve_left (by simp [given])
  rw [given, ptr_some] at agrees
  exact (Option.some.inj agrees).symm

/-- The entry of the loaded object is seen where one of the two searches can read the file. -/
theorem LoadedFrom.seen_iff {v : GumdDaemonUser} {pw : Passwd} {sp : Spwd} {w : World}
    (loaded : v.LoadedFrom pw sp) (accepted : gumValidateName (some pw.pwName) = .ok ())
    (entry : w.files.getpwuid pw.pwUid = some pw) (edits : Edits) :
    w.seenPasswd (v.edited edits).pw = some pw ↔ w.faults.read.head = true ∨
      w.faults.read.tail.head = true ∧ w.files.getpwnam pw.pwName = some pw := by
  have uid : (v.edited edits).pw.pwUid = pw.pwUid := by
    rw [(sameButTexts_edited edits v).pw, loaded.pw]
  have name := loaded.name accepted edits
  have agrees : (v.edited edits).pw.agrees pw = true :=
    PasswdRecord.agrees_iff.mpr ⟨Or.inr uid, Or.inr (by rw [name, ptr_some])⟩
  rw [World.seenPasswd, World.search, uid, name, entry]
  cases w.faults.read.head with
  | true => simp [agrees]
  | false =>
    cases w.faults.read.tail.head with
    | false => simp
    | true =>
      simp only [Option.map_some, Option.bind_some]
      rw [if_pos ⟨rfl, rfl⟩, if_pos trivial, Option.filter_eq_some_iff]
      simp [agrees]

end GumdDaemonUser

/-- An update of an existing user whose texts have been edited succeeds and stores them exactly if
the conditions hold. -/
theorem gumdDaemonUserUpdate_edits_iff (env₀ env : Env) {uid : UInt32} {w w' : World}
    {v : GumdDaemonUser} {pw : Passwd} {sp : Spwd} {edits : Edits}
    (loaded : ((gumdDaemonUserNewByUid env₀ uid).run w).1 = some v)
    (entry : w.files.getpwuid uid = some pw) (shadow : w.files.getspnam pw.pwName = some sp)
    (named : gumValidateName (some pw.pwName) = .ok ()) (valid : edits.Valid)
    (entries : ∀ edit ∈ edits, edit.1 ≠ .icon) (nonempty : ∀ edit ∈ edits, edit.2 ≠ [])
    (differs : ∃ text value, edits.lastWritten text = some value ∧ text.stored pw ≠ some value)
    (files : w'.files = w.files) (writable : w'.faults.write = .const none) :
    wp (GumdDaemonUser.gumdDaemonUserUpdate env) (fun r t => (r = true ∧
        ∃ new, t.world.files.getpwuid uid = some new ∧
          ∀ text value, edits.lastWritten text = some value → text.stored new = some value) ↔
      GumdDaemonUser.Editable env w' pw sp edits) ⟨v.edited edits, w'⟩ := by
  have source := GumdDaemonUser.loadedFrom_of_loaded loaded entry shadow
  have own : pw.pwUid = uid := by simpa using List.find?_some entry
  subst own
  rw [← files] at entry shadow
  have updatable : (v.edited edits).Updatable w'.files pw sp := source.updatable entry rfl shadow
  have merges := GumdDaemonUser.gumdDaemonUserUpdate_merges env ⟨v.edited edits, w'⟩
  refine wp_mono (wp_and (GumdDaemonUser.gumdDaemonUserUpdate_ends updatable named) merges) ?_
  rintro r t ⟨ends, merged⟩
  have succeeds : r = true ↔ GumdDaemonUser.Editable env w' pw sp edits := by
    obtain ⟨text, value, written, stored⟩ := differs
    have edit := GumdDaemonUser.mem_of_lastWritten written
    have differs : (v.edited edits).Differs env pw sp := GumdDaemonUser.differs_of_shown sp
      (GumdDaemonUser.shown_edited valid written v) (nonempty _ edit) stored (entries _ edit)
    have seen := source.seen_iff named entry edits
    have seenSp : w'.seenSpwd pw.pwName = some sp ↔ w'.faults.readShadow.head = true := by
      rw [World.seenSpwd, shadow]
      simp
    rw [ends.succeeds writable differs]
    constructor
    · rintro ⟨granted, found, shadow, encrypts, typed⟩
      refine ⟨granted, seen.mp found, seenSp.mp shadow, source.secretFails_iff.not.mp encrypts, ?_⟩
      by_contra forbidden
      exact typed ((source.typeConflict_iff valid sp).mpr forbidden)
    · rintro ⟨granted, passwd, shadow, secret, gecos⟩
      exact ⟨granted, seen.mpr passwd, seenSp.mpr shadow, source.secretFails_iff.not.mpr secret,
        fun conflict => (source.typeConflict_iff valid sp).mp conflict gecos⟩
  rw [← succeeds]
  refine ⟨fun h => h.1, fun done => ⟨done, ?_⟩⟩
  obtain ⟨pw', sp', new, newSp, merges⟩ := merged done
  obtain rfl := (updatable.seen merges.found).symm
  obtain rfl := Option.some.inj (shadow.symm.trans merges.shadow)
  obtain ⟨f₁, icon, files'⟩ := merges.files
  refine ⟨new, ?_, fun text value written => ?_⟩
  · rw [files', updatable.byUid.2]
    exact (updatable.renewed icon.sameDb merges.put).byUid
  have edit := GumdDaemonUser.mem_of_lastWritten written
  have shown := GumdDaemonUser.shown_edited valid written v
  cases text with
  | icon => exact absurd rfl (entries _ edit)
  | shell => exact merges.stored_shell shown
  | gecos field =>
    rw [merges.stored_gecos shown, GumdDaemonUser.mergedText, if_neg fun h => nonempty _ edit h.1]

namespace Sample

/-- Another shell. -/
def shellEdits : Edits := [(.shell, str "/bin/bash")]

/-- The object that is loaded for alice. -/
def loadedUser (pent : Passwd) : GumdDaemonUser :=
  (gumdDaemonUserNew.setUidProperty pent.pwUid).copyPasswdEntries pent aliceShadow none

theorem gumdDaemonUserUpdate_edits_iff_alice :
    wp (GumdDaemonUser.gumdDaemonUserUpdate env) (fun r t => (r = true ∧
        ∃ new, t.world.files.getpwuid 1000 = some new ∧
          ∀ text value, shellEdits.lastWritten text = some value → text.stored new = some value) ↔
      GumdDaemonUser.Editable env (GumdDaemonUser.calmWorld files) alice aliceShadow shellEdits)
      ⟨(loadedUser alice).edited shellEdits, GumdDaemonUser.calmWorld files⟩ :=
  gumdDaemonUserUpdate_edits_iff env env (w := GumdDaemonUser.calmWorld files) (by decide +kernel) rfl
    rfl (by decide) (by simp [Edits.Valid, shellEdits]; decide) (by simp [shellEdits])
    (by simp [shellEdits]; decide) ⟨.shell, str "/bin/bash", by decide, by decide⟩ rfl rfl

/-- A user with a gecos that gumd has not written. -/
def plainAlice : Passwd := { alice with pwGecos := str "Alice" }

def plainWorld : World := GumdDaemonUser.calmWorld { files with passwd := [plainAlice] }

/-- The shell of such a user cannot be changed. -/
theorem userUpdate_not_plain :
    ((gumdDaemonUserNewByUid env 1000).run plainWorld).1 = some (loadedUser plainAlice) ∧
      ¬wp (GumdDaemonUser.gumdDaemonUserUpdate env) (fun r _ => r = true)
        ⟨(loadedUser plainAlice).edited shellEdits, plainWorld⟩ := by
  have ends : ((GumdDaemonUser.gumdDaemonUserUpdate env).run
      ⟨(loadedUser plainAlice).edited shellEdits, plainWorld⟩).1 = false := by
    decide +kernel
  refine ⟨by decide +kernel, fun done => ?_⟩
  rw [wp, ends] at done
  cases done

end Sample

end Gumd
