import Gumd.Searches
import Gumd.System

/-!
# What an update of a user keeps

`gumd_daemon_user_update` completes its object from the user's entries and writes both entries from
the object.  What a field holds afterwards depends on what the object holds of it.
-/

namespace Gumd

open StateWp EntryLoop

/-! ## The entries an update writes -/

namespace GumdDaemonUser

variable {s : St GumdDaemonUser}

/-- The icon is written to the information file of the object's uid, if the object has one. -/
def IconWritten (u : GumdDaemonUser) (f f' : Files) : Prop :=
  f' = f ∨ u.icon.isSome = true ∧ ∃ info, f' = f.setUserinfo u.pw.pwUid (some info)

theorem IconWritten.sameDb {u : GumdDaemonUser} {f f' : Files} (written : u.IconWritten f f') :
    f.SameDb f' := by
  rcases written with rfl | ⟨-, info, rfl⟩
  · exact ⟨rfl, rfl, rfl, rfl⟩
  · exact ⟨rfl, rfl, rfl, rfl⟩

theorem wp_updateIcon_written (env : Env) :
    wp (updateIcon env) (fun _ t => t.self = s.self ∧ s.self.IconWritten s.world.files t.world.files)
      s := by
  rw [updateIcon, wp_bind]
  refine wp_mono (wp_getUserinfo env.config) ?_
  rintro icon t ⟨-, self, looked⟩
  have files := looked.quiet.files
  rw [wp_bind, wp_getSelf, wp_ite, self]
  refine ⟨fun changed => ?_, fun same => ⟨self, Or.inl files⟩⟩
  have own : s.self.icon.isSome = true := (of_decide_eq_true changed).1
  rw [wp_bind, wp_getSelf, self, wp_bind]
  simp only [updateUserinfo, ↓wp_guard, wp_pure, wp_bind, wp_getSelf, wp_liftM]
  refine ⟨fun absent => ⟨self, Or.inl files⟩, fun present => wp_mono (gumFileLookup_spec _ t.world) ?_⟩
  rintro info w ⟨-, looked'⟩
  refine wp_mono (wp_writeUserinfo _) ?_
  rintro ok v ⟨self', -, written⟩
  refine ⟨self'.trans self, ?_⟩
  change ok = false ∧ v.world.files = w.files ∧ w.faults.write ≠ .const none ∨
    ok = true ∧ v.world.files = w.files.setUserinfo t.self.pw.pwUid _ at written
  rw [looked'.quiet.files, files, self] at written
  rcases written with ⟨-, same, -⟩ | ⟨-, same⟩
  · exact Or.inl same
  · exact Or.inr ⟨own, _, same⟩

/-- What a successful update has found and written. -/
structure Merges (u : GumdDaemonUser) (env : Env) (w : World) (pw : Passwd) (sp : Spwd)
    (new : Passwd) (newSp : Spwd) (f' : Files) : Prop where
  found : w.seenPasswd u.pw = some pw
  shadow : w.files.getspnam pw.pwName = some sp
  encrypts : ¬u.SecretFails env pw sp
  typed : ¬u.TypeConflict env pw sp
  put : (u.updated env pw sp).pw.putpwent = some new
  putSp : (u.updated env pw sp).shadow.putspent = some newSp
  files : ∃ f₁, u.IconWritten w.files f₁ ∧
    f' = (f₁.replacePasswd pw new).replaceShadow pw.pwName newSp

/-- A rewrite of the passwd file that looks for the entry replaces it by the object's record. -/
theorem rewritePasswd_modify {u : GumdDaemonUser} {f f' : Files} {pw : Passwd}
    (uid : u.pw.pwUid = pw.pwUid) (gid : u.pw.pwGid = pw.pwGid)
    (written : passwdFile.rewrite (updatePasswdEntry u .modify (some pw.pwName)) f = .ok f') :
    ∃ new, u.pw.putpwent = some new ∧ f' = f.replacePasswd pw new := by
  simp only [DbFile.rewrite, passwdFile, updatePasswdEntry_modify, uid, gid] at written
  split_ifs at written with picked
  · cases put : u.pw.putpwent with
    | none => simp [put, Except.map] at written
    | some new =>
      refine ⟨new, rfl, ?_⟩
      simpa [put, Except.map, Files.replacePasswd, @eq_comm _ _ f'] using written
  · simp [Except.map] at written

theorem rewriteShadow_modify {u : GumdDaemonUser} {f f' : Files} {name : Str}
    (written : shadowFile.rewrite (updateShadowEntry u .modify (some name)) f = .ok f') :
    ∃ new, u.shadow.putspent = some new ∧ f' = f.replaceShadow name new := by
  simp only [DbFile.rewrite, shadowFile, updateShadowEntry_modify] at written
  split_ifs at written with picked
  · cases put : u.shadow.putspent with
    | none => simp [put, Except.map] at written
    | some new =>
      refine ⟨new, rfl, ?_⟩
      simpa [put, Except.map, Files.replaceShadow, @eq_comm _ _ f'] using written
  · simp [Except.map] at written

/-- Everything an update can write, with the object it leaves. -/
inductive MergeWrites (u : GumdDaemonUser) (env : Env) (w : World) :
    Bool → GumdDaemonUser → Files → Prop
  | nothing : MergeWrites u env w false u w.files
  | icon {pw sp f'} : u.pw.pwUid ≠ gumUserInvalidUid → w.seenPasswd u.pw = some pw →
      u.IconWritten w.files f' → MergeWrites u env w false (u.updated env pw sp) f'
  | passwdOnly {pw sp new f₁} : u.pw.pwUid ≠ gumUserInvalidUid → w.seenPasswd u.pw = some pw →
      w.files.getspnam pw.pwName = some sp → u.IconWritten w.files f₁ →
      (u.updated env pw sp).pw.putpwent = some new →
      MergeWrites u env w false (u.updated env pw sp) (f₁.replacePasswd pw new)
  | both {pw sp new newSp f'} : u.pw.pwUid ≠ gumUserInvalidUid →
      u.Merges env w pw sp new newSp f' → MergeWrites u env w true (u.updated env pw sp) f'

theorem gumdDaemonUserUpdate_writes (env : Env) (s : St GumdDaemonUser) :
    wp (gumdDaemonUserUpdate env) (fun r t =>
      s.self.MergeWrites env s.world r t.self t.world.files) s := by
  have nothing : ∀ {f}, f = s.world.files → s.self.MergeWrites env s.world false s.self f := by
    rintro f rfl
    exact .nothing
  rw [gumdDaemonUserUpdate, wp_bind, wp_liftM, wp_gumLockPwdfLock, wp_guard]
  refine ⟨fun denied => nothing (World.files_afterLock _), fun granted => ?_⟩
  rw [wp_bind, wp_getSelf, wp_ite]
  refine ⟨fun invalid => ?_, fun valid => ?_⟩
  · rw [wp_unlockReturnWithError]
    exact nothing ((World.files_afterUnlock _).trans (World.files_afterLock _))
  rw [wp_bind]
  refine wp_mono (@wp_getPasswd_seen ⟨s.self, s.world.afterLock⟩ valid) ?_
  rintro r t₁ ⟨rfl, self₁, sought⟩
  change t₁.self = s.self at self₁
  have files₁ : t₁.world.files = s.world.files :=
    sought.quiet.files.trans (World.files_afterLock _)
  have seen : (World.afterLock s.world).seenPasswd s.self.pw = s.world.seenPasswd s.self.pw :=
    World.search_afterLock _ _ _ _
  dsimp only
  rw [seen]
  cases found : s.world.seenPasswd s.self.pw with
  | none =>
    rw [wp_unlockReturn, self₁]
    exact nothing ((World.files_afterUnlock _).trans files₁)
  | some pw =>
    rw [wp_bind, wp_liftM]
    refine wp_mono (gumFileGetspnam_spec pw.pwName t₁.world) ?_
    rintro spent w ⟨answer, looked⟩
    rw [files₁] at answer
    have files₂ : w.files = s.world.files := looked.quiet.files.trans files₁
    cases spent with
    | none =>
      rw [wp_unlockReturnWithError, self₁]
      exact nothing ((World.files_afterUnlock _).trans files₂)
    | some sp =>
      dsimp only
      rw [wp_bind]
      refine wp_mono (wp_updateIcon_written env) ?_
      rintro changed t₂ ⟨self₂, icon⟩
      change t₂.self = t₁.self at self₂
      change t₁.self.IconWritten w.files t₂.world.files at icon
      rw [self₁, files₂] at icon
      simp only [wp_bind, wp_modifySelf, wp_getSelf, self₂, self₁]
      refine wp_mono (wp_updateSecret env pw) ?_
      rintro ok t₃ ⟨rfl, self₃, quiet₃⟩
      change t₃.self = s.self.updated env pw sp at self₃
      change t₂.world.Quiet t₃.world at quiet₃
      rw [← quiet₃.files] at icon
      have iconOnly : s.self.MergeWrites env s.world false t₃.self t₃.world.afterUnlock.files := by
        rw [self₃, World.files_afterUnlock]
        exact .icon valid found icon
      rw [wp_guard]
      refine ⟨fun _ => iconOnly, fun done => ?_⟩
      have encrypts : ¬s.self.SecretFails env pw sp := by
        rintro ⟨changed, failed⟩
        simp only [newSecret] at changed
        simp [changed, failed] at done
      simp only [wp_bind, wp_getSelf, wp_ite]
      refine ⟨fun _ => iconOnly, fun agreed => ⟨fun _ => iconOnly, fun _ => ?_⟩⟩
      rw [self₃] at agreed
      rw [← wp_bind]
      obtain ⟨uid, gid, -⟩ := keys_updated s.self env pw sp
      refine wp_writeBoth (writesAs_updatePasswdFile _ _ _) (writesAs_updateShadowFile _ _ _)
        (fun t₄ self₄ _ written => ?_) fun t₄ self₄ _ written => ?_
      all_goals
        rw [wp_unlockReturn]
        change s.self.MergeWrites env s.world _ t₄.self t₄.world.afterUnlock.files
        rw [World.files_afterUnlock, self₄, self₃]
        rw [self₃] at written
        generalize t₄.world.files = f' at written ⊢
      · cases written with
        | neither _ => exact .icon valid found icon
        | one first _ =>
          obtain ⟨new, put, rfl⟩ := rewritePasswd_modify uid gid first
          exact .passwdOnly valid found answer.of_some icon put
      · cases written with
        | both first second =>
          obtain ⟨new, put, rfl⟩ := rewritePasswd_modify uid gid first
          obtain ⟨newSp, putSp, rfl⟩ := rewriteShadow_modify second
          exact .both valid ⟨found, answer.of_some, encrypts, agreed, put, putSp, _, icon, rfl⟩

theorem gumdDaemonUserUpdate_merges (env : Env) (s : St GumdDaemonUser) :
    wp (gumdDaemonUserUpdate env) (fun r t => r = true → ∃ pw sp new newSp,
      s.self.Merges env s.world pw sp new newSp t.world.files) s := by
  refine wp_mono (gumdDaemonUserUpdate_writes env s) ?_
  rintro r t writes done
  subst done
  generalize t.world.files = f', t.self = u' at writes ⊢
  cases writes with
  | both _ merges => exact ⟨_, _, _, _, merges⟩

/-! ## The fields of the entries -/

/-- What a merge makes of a text: a missing one is taken from the entry, if it is accepted. -/
def mergedText (own stored : Str) : Str :=
  if own = [] ∧ gumValidateDbStringEntry (some stored) = .ok () then stored else own

theorem accepted_nil : gumValidateDbStringEntry (some []) = .ok () := by decide

/-- A field the object holds is not merged. -/
theorem mergeGecosField_held {field : GecosField} {gecos : Option Gecos} (src : Passwd)
    (held : gecosText (ptr gecos) field ≠ []) : mergeGecosField src field gecos = gecos := by
  unfold mergeGecosField
  rw [gecosText] at held
  split
  · rfl
  · rename_i missing
    cases found : gumStringUtilsGetString (ptr gecos) comma field.index with
    | none => simp [found] at held
    | some text =>
      cases text with
      | nil => simp [found] at held
      | cons c rest => exact absurd found (missing c rest)

/-- A missing text is written from the entry. -/
theorem mergeGecosField_missing {field : GecosField} {gecos : Option Gecos} (src : Passwd)
    (text : field ≠ .usertype) (missing : gecosText (ptr gecos) field = []) :
    mergeGecosField src field gecos = setGecosText field (gecosFieldOf src field) gecos := by
  unfold mergeGecosField
  rw [gecosText] at missing
  split
  · rename_i c rest found
    simp [found] at missing
  · cases field <;> first | rfl | exact absurd rfl text

theorem mergeGecosField_usertype {gecos : Option Gecos} (src : Passwd)
    (missing : gecosText (ptr gecos) .usertype = []) :
    mergeGecosField src .usertype gecos =
      setGecosUsertype (getUsertypeFromGecos (some src.pwGecos)).value gecos := by
  unfold mergeGecosField
  rw [gecosText] at missing
  split
  · rename_i c rest found
    simp [found] at missing
  · rfl

/-- A merge of a text. -/
theorem gecosText_mergeGecosField {field : GecosField} (text : field ≠ .usertype) (src : Passwd)
    (gecos : Option Gecos) (other : GecosField) :
    gecosText (ptr (mergeGecosField src field gecos)) other =
      if other = field then
        mergedText (gecosText (ptr gecos) field) (gecosText (some src.pwGecos) field)
      else gecosText (ptr gecos) other := by
  by_cases missing : gecosText (ptr gecos) field = []
  swap
  · have held : mergedText (gecosText (ptr gecos) field) (gecosText (some src.pwGecos) field) =
        gecosText (ptr gecos) field := if_neg fun h => missing h.1
    rw [mergeGecosField_held src missing, held]
    split_ifs with same
    · rw [same]
    · rfl
  rw [mergeGecosField_missing src text missing]
  split_ifs with same
  swap
  · exact gecosText_setGecosText_other same _ _
  subst same
  rw [mergedText, missing]
  have stored : gecosText (some src.pwGecos) other = (gecosFieldOf src other).getD [] := rfl
  cases found : gecosFieldOf src other with
  | none =>
    rw [stored, found]
    have kept : setGecosText other none gecos = gecos := by
      rw [setGecosText]
      split_ifs <;> rfl
    rw [kept, missing]
    simp
  | some value =>
    rw [stored, found, Option.getD_some]
    split_ifs with accepted
    · rw [gecosText_setGecosText other gecos accepted.2, if_pos rfl]
    · have rejected : ¬gumValidateDbStringEntry (some value) = .ok () := fun h => accepted ⟨rfl, h⟩
      have kept : setGecosText other (some value) gecos = gecos := by
        rw [setGecosText]
        simp only [rejected, dite_false, ite_self]
      rw [kept, missing]

/-- A merge of the user type keeps the texts. -/
theorem gecosText_mergeUsertype {other : GecosField} (text : other ≠ .usertype) (src : Passwd)
    (gecos : Option Gecos) :
    gecosText (ptr (mergeGecosField src .usertype gecos)) other = gecosText (ptr gecos) other := by
  by_cases missing : gecosText (ptr gecos) .usertype = []
  · rw [mergeGecosField_usertype src missing, gecosText_setGecosUsertype text]
  · rw [mergeGecosField_held src missing]

/-- The gecos of the completed object. -/
def mergedGecos (src : Passwd) (gecos : Option Gecos) : Option Gecos :=
  gecos
    |> mergeGecosField src .realname
    |> mergeGecosField src .office
    |> mergeGecosField src .officephone
    |> mergeGecosField src .homephone
    |> mergeGecosField src .usertype

theorem gecosText_mergedGecos {field : GecosField} (text : field ≠ .usertype) (src : Passwd)
    (gecos : Option Gecos) : gecosText (ptr (mergedGecos src gecos)) field =
      mergedText (gecosText (ptr gecos) field) (gecosText (some src.pwGecos) field) := by
  rw [mergedGecos, gecosText_mergeUsertype text]
  cases field with
  | usertype => exact absurd rfl text
  | _ => simp [gecosText_mergeGecosField]

/-- A gecos that stays missing comes from an entry without a user type. -/
theorem usertype_of_mergedGecos_none {src : Passwd} {gecos : Option Gecos}
    (none : mergedGecos src gecos = none) : getUsertypeFromGecos (some src.pwGecos) = .none := by
  rw [mergedGecos] at none
  generalize mergeGecosField src .homephone _ = texts at none
  have missing : gecosText (ptr texts) .usertype = [] := by
    by_contra held
    rw [mergeGecosField_held src held] at none
    rw [none] at held
    exact held rfl
  rw [mergeGecosField_usertype src missing] at none
  have type := getUsertypeFromGecos_setGecosUsertype (getUsertypeFromGecos (some src.pwGecos)) texts
  rw [none] at type
  by_contra typed
  rw [if_neg typed] at type
  exact typed type.symm

/-- The text of a gecos as it is written. -/
theorem gecosText_getD (gecos : Option Gecos) (field : GecosField) :
    gecosText (some ((ptr gecos).getD [])) field = gecosText (ptr gecos) field := by
  cases gecos with
  | none => cases field <;> rfl
  | some g => rfl

section Merges

variable {u : GumdDaemonUser} {env : Env} {w : World} {pw new : Passwd} {sp newSp : Spwd} {f' : Files}

theorem pw_updated (u : GumdDaemonUser) (env : Env) (pw : Passwd) (sp : Spwd) :
    (u.updated env pw sp).pw.pwShell = u.pw.pwShell ∧
    (u.updated env pw sp).pw.pwDir = setStringProperty (some pw.pwDir) u.pw.pwDir ∧
    (u.updated env pw sp).pw.pwGecos = mergedGecos pw u.pw.pwGecos := by
  rw [updated]
  split_ifs <;> exact ⟨rfl, rfl, rfl⟩

theorem secret_updated (u : GumdDaemonUser) (env : Env) (pw : Passwd) (sp : Spwd)
    (encrypts : ¬u.SecretFails env pw sp) :
    (u.updated env pw sp).pw.pwPasswd = if u.newSecret env pw sp then some secretMarker
      else setStringProperty (some pw.pwPasswd) u.pw.pwPasswd := by
  rw [updated]
  split_ifs with changed
  · have encrypted : ((u.mergeEntries pw sp).newPwdp env).isSome = true := by
      by_contra failed
      exact encrypts ⟨changed, by simpa using failed⟩
    rw [withSecret, if_pos encrypted]
  · rfl

theorem shadow_updated (u : GumdDaemonUser) (env : Env) (pw : Passwd) (sp : Spwd) :
    (u.updated env pw sp).shadow = { copyShadowStruct sp true u.shadow with
      spPwdp := if u.newSecret env pw sp then (u.mergeEntries pw sp).newPwdp env
        else some (u.shadow.spPwdp.getD sp.spPwdp) } := by
  rw [updated]
  split_ifs
  · rfl
  · change copyShadowStruct sp true u.shadow = _
    rw [copyShadowStruct]
    cases u.shadow.spPwdp <;> rfl

/-- The passwd entry that is written. -/
theorem Merges.new_eq (merges : u.Merges env w pw sp new newSp f') : ∃ name,
    (u.updated env pw sp).pw.pwName = some name ∧ new =
      { pwName := name.val, pwPasswd := (ptr (u.updated env pw sp).pw.pwPasswd).getD [],
        pwUid := pw.pwUid, pwGid := pw.pwGid,
        pwGecos := (ptr (mergedGecos pw u.pw.pwGecos)).getD [],
        pwDir := (ptr (setStringProperty (some pw.pwDir) u.pw.pwDir)).getD [],
        pwShell := (ptr u.pw.pwShell).getD [] } := by
  obtain ⟨name, given, rfl⟩ := Option.map_eq_some_iff.mp merges.put
  obtain ⟨uid, gid, -⟩ := keys_updated u env pw sp
  obtain ⟨shell, dir, gecos⟩ := pw_updated u env pw sp
  exact ⟨name, given, by rw [uid, gid, shell, dir, gecos]⟩

/-- An update keeps the name, the ids and the user type. -/
theorem Merges.keys (merges : u.Merges env w pw sp new newSp f') :
    new.pwName = pw.pwName ∧ new.pwUid = pw.pwUid ∧ new.pwGid = pw.pwGid ∧
      getUsertypeFromGecos (some new.pwGecos) = getUsertypeFromGecos (some pw.pwGecos) := by
  obtain ⟨pwName, -, -⟩ := keys_of_put (World.seenPasswd_some merges.found).1 merges.put
  obtain ⟨name, given, rfl⟩ := merges.new_eq
  refine ⟨pwName, rfl, rfl, ?_⟩
  · dsimp only
    cases merged : mergedGecos pw u.pw.pwGecos with
    | none =>
      rw [usertype_of_mergedGecos_none merged]
      rfl
    | some g =>
      have gecos := (pw_updated u env pw sp).2.2
      rw [merged] at gecos
      rw [ptr_some, Option.getD_some]
      by_cases changed : pw.pwGecos = g.val
      · rw [changed]
      · have same : gumStringUtilsGetString (some g.val) comma GecosField.usertype.index =
            gecosFieldOf pw .usertype := by
          by_contra differs
          refine merges.typed ⟨?_, ?_⟩
          · simp [gecosChanged, gecos, changed]
          · simp [usertypeChanged, gecos, differs]
        rw [getUsertypeFromGecos, getUsertypeFromGecos, same]
        rfl

/-- The texts of the gecos that is written. -/
theorem Merges.gecos_eq (merges : u.Merges env w pw sp new newSp f') {field : GecosField}
    (text : field ≠ .usertype) : gecosText (some new.pwGecos) field =
      mergedText (gecosText (ptr u.pw.pwGecos) field) (gecosText (some pw.pwGecos) field) := by
  obtain ⟨name, -, rfl⟩ := merges.new_eq
  rw [gecosText_getD, gecosText_mergedGecos text]

/-- The shadow entry that is written. -/
theorem Merges.newSp_eq (merges : u.Merges env w pw sp new newSp f') : newSp =
    { sp with
      spNamp := u.shadow.spNamp.getD sp.spNamp
      spPwdp := if u.newSecret env pw sp then ((u.mergeEntries pw sp).newPwdp env).getD []
        else u.shadow.spPwdp.getD sp.spPwdp } := by
  obtain ⟨name, given, rfl⟩ := Option.map_eq_some_iff.mp merges.putSp
  rw [spNamp_updated] at given
  rw [shadow_updated, ← Option.some.inj given]
  dsimp only [copyShadowStruct]
  split_ifs <;> rfl

end Merges

/-! ## What is not set is kept -/

/-- The entries of one user are replaced, and nothing else changes besides the icon of the object. -/
structure Replaces (u : GumdDaemonUser) (f f' : Files) (pw new : Passwd) (sp newSp : Spwd) : Prop where
  passwd : ∃ before after, f.passwd = before ++ pw :: after ∧ f'.passwd = before ++ new :: after
  shadow : ∃ before after, f.shadow = before ++ sp :: after ∧ f'.shadow = before ++ newSp :: after
  group : f'.group = f.group
  gshadow : f'.gshadow = f.gshadow
  userinfo : ∀ uid, u.icon = none ∨ uid ≠ u.pw.pwUid → f'.userinfo uid = f.userinfo uid

theorem Replaces.map_passwd {κ : Type} {u : GumdDaemonUser} {f f' : Files} {pw new : Passwd}
    {sp newSp : Spwd} (replaces : u.Replaces f f' pw new sp newSp) (key : Passwd → κ)
    (same : key new = key pw) : f'.passwd.map key = f.passwd.map key := by
  obtain ⟨before, after, old, changed⟩ := replaces.passwd
  rw [old, changed, List.map_append, List.map_append, List.map_cons, List.map_cons, same]

/-- The new entries keep what the object has not set. -/
structure Keeps (u : GumdDaemonUser) (pw new : Passwd) (sp newSp : Spwd) : Prop where
  pwName : new.pwName = pw.pwName
  pwUid : new.pwUid = pw.pwUid
  pwGid : new.pwGid = pw.pwGid
  usertype : getUsertypeFromGecos (some new.pwGecos) = getUsertypeFromGecos (some pw.pwGecos)
  gecos : ∀ field, field ≠ .usertype → gecosText (ptr u.pw.pwGecos) field = [] →
    gecosText (some new.pwGecos) field = gecosText (some pw.pwGecos) field
  pwDir : new.pwDir = pw.pwDir
  pwShell : u.pw.pwShell = none → new.pwShell = pw.pwShell
  pwPasswd : u.pw.pwPasswd = none → new.pwPasswd = pw.pwPasswd
  shadow : newSp = { sp with spPwdp := newSp.spPwdp }
  spPwdp : u.pw.pwPasswd = none → newSp.spPwdp = sp.spPwdp

/-- What the object has not set can be copied from the passwd entry: there is no shell to copy, and
the validators accept the rest. -/
structure Mergeable (u : GumdDaemonUser) (pw : Passwd) : Prop where
  pwShell : u.pw.pwShell = none → pw.pwShell = []
  pwDir : gumValidateDbStringEntry (some pw.pwDir) = .ok ()
  pwPasswd : u.pw.pwPasswd = none → gumValidateDbSecretEntry (some pw.pwPasswd) = .ok ()
  gecos : ∀ field, field ≠ .usertype → gecosText (ptr u.pw.pwGecos) field = [] →
    gumValidateDbStringEntry (some (gecosText (some pw.pwGecos) field)) = .ok ()

section Merges

variable {u : GumdDaemonUser} {env : Env} {w : World} {pw new : Passwd} {sp newSp : Spwd} {f' : Files}

theorem Merges.replaces (merges : u.Merges env w pw sp new newSp f') :
    u.Replaces w.files f' pw new sp newSp := by
  obtain ⟨f₁, icon, rfl⟩ := merges.files
  have same := icon.sameDb
  have userinfo : ∀ uid, u.icon = none ∨ uid ≠ u.pw.pwUid →
      f₁.userinfo uid = w.files.userinfo uid := by
    intro uid other
    rcases icon with rfl | ⟨own, info, rfl⟩
    · rfl
    · rcases other with missing | other
      · simp [missing] at own
      · exact Function.update_of_ne other _ _
  have inPasswd : w.files.passwd.find? (fun e =>
      pw.pwUid = e.pwUid ∧ pw.pwGid = e.pwGid ∧ pw.pwName = e.pwName) = some pw := by
    refine find?_of_imp (World.seenPasswd_some merges.found).2 (by simp) fun e key => ?_
    obtain ⟨uid, -, name⟩ := of_decide_eq_true key
    exact decide_eq_true ⟨uid, name⟩
  have inShadow : w.files.shadow.find? (fun e => pw.pwName = e.spNamp) = some sp := by
    have found := merges.shadow
    rw [Files.getspnam] at found
    simpa only [beq_eq_decide, @eq_comm _ pw.pwName] using found
  refine ⟨?_, ?_, same.group, same.gshadow, userinfo⟩
  · obtain ⟨before, after, split, -, changed⟩ := modifyFirst_eq (f := fun _ => new) inPasswd
    refine ⟨before, after, split, ?_⟩
    rw [← changed, ← same.passwd]
    rfl
  · obtain ⟨before, after, split, -, changed⟩ := modifyFirst_eq (f := fun _ => newSp) inShadow
    refine ⟨before, after, split, ?_⟩
    rw [← changed, ← same.shadow]
    rfl

/-- A missing text is kept exactly if it is accepted. -/
theorem mergedText_nil_eq_iff (stored : Str) :
    mergedText [] stored = stored ↔ gumValidateDbStringEntry (some stored) = .ok () := by
  rw [mergedText]
  split_ifs with accepted
  · exact ⟨fun _ => accepted.2, fun _ => rfl⟩
  · constructor
    · rintro rfl
      exact accepted_nil
    · exact fun valid => absurd ⟨rfl, valid⟩ accepted

/-- So is a missing property that is copied. -/
theorem copied_eq_iff {p : Str → Prop} [DecidablePred p] (empty : p []) (stored : Str) :
    (ptr (setStringProperty (some stored) (none : Option (Subtype p)))).getD [] = stored ↔
      p stored := by
  rw [ptr_setStringProperty_agreeing (Or.inl rfl)]
  split_ifs with accepted
  · exact ⟨fun _ => accepted, fun _ => rfl⟩
  · constructor
    · rintro rfl
      exact empty
    · exact fun valid => absurd valid accepted

/-- An object without a name or a password of its own in the shadow record. -/
structure Unstored (u : GumdDaemonUser) : Prop where
  pwDir : u.pw.pwDir = none
  spNamp : u.shadow.spNamp = none
  spPwdp : u.shadow.spPwdp = none

/-- An object without a secret has no new one. -/
theorem newSecret_of_unset (unset : u.pw.pwPasswd = none) : u.newSecret env pw sp = false := by
  have own : (u.mergeEntries pw sp).pw.pwPasswd = none := unset
  rw [newSecret, secretChanged, own]
  simp

theorem Merges.keeps_iff (merges : u.Merges env w pw sp new newSp f') (unstored : u.Unstored) :
    u.Keeps pw new sp newSp ↔ u.Mergeable pw := by
  obtain ⟨pwName, pwUid, pwGid, usertype⟩ := merges.keys
  have texts : ∀ field, field ≠ .usertype → gecosText (ptr u.pw.pwGecos) field = [] →
      (gecosText (some new.pwGecos) field = gecosText (some pw.pwGecos) field ↔
        gumValidateDbStringEntry (some (gecosText (some pw.pwGecos) field)) = .ok ()) := by
    intro field text unset
    rw [merges.gecos_eq text, unset]
    exact mergedText_nil_eq_iff _
  have shadow := merges.newSp_eq
  rw [unstored.spNamp, unstored.spPwdp, Option.getD_none, Option.getD_none] at shadow
  obtain ⟨name, -, rfl⟩ := merges.new_eq
  have pwDir := copied_eq_iff (p := fun s => gumValidateDbStringEntry (some s) = .ok ()) accepted_nil
    pw.pwDir
  have pwPasswd : u.pw.pwPasswd = none →
      ((ptr (u.updated env pw sp).pw.pwPasswd).getD [] = pw.pwPasswd ↔
        gumValidateDbSecretEntry (some pw.pwPasswd) = .ok ()) := by
    intro unset
    rw [secret_updated u env pw sp merges.encrypts, newSecret_of_unset unset, if_neg (by simp), unset]
    exact copied_eq_iff (by decide) _
  constructor
  · intro keeps
    refine ⟨fun unset => ?_, pwDir.mp ?_, fun unset => (pwPasswd unset).mp (keeps.pwPasswd unset),
      fun field text unset => (texts field text unset).mp (keeps.gecos field text unset)⟩
    · have shell := keeps.pwShell unset
      rw [← shell, unset]
      rfl
    · have dir := keeps.pwDir
      rwa [unstored.pwDir] at dir
  · intro mergeable
    refine ⟨pwName, pwUid, pwGid, usertype, fun field text unset =>
      (texts field text unset).mpr (mergeable.gecos field text unset), ?_, fun unset => ?_,
      fun unset => (pwPasswd unset).mpr (mergeable.pwPasswd unset), ?_, fun unset => ?_⟩
    · rw [unstored.pwDir]
      exact pwDir.mpr mergeable.pwDir
    · rw [unset, mergeable.pwShell unset]
      rfl
    · rw [shadow]
    · rw [shadow, newSecret_of_unset unset]
      rfl

end Merges

/-! ## New objects -/

end GumdDaemonUser

/-- A property that can be set to update a user, or tells which one. -/
def UserProperty.Edits : UserProperty → Prop
  | .gid _ | .nickname _ | .homedir _ => False
  | _ => True

/-- A new object on which the properties have been set. -/
def editedUser (writes : List UserProperty) : GumdDaemonUser :=
  writes.foldl (fun u p => p.set u) gumdDaemonUserNew

namespace GumdDaemonUser

theorem unstored_editedUser {writes : List UserProperty} (edits : ∀ p ∈ writes, p.Edits) :
    (editedUser writes).Unstored := by
  have start : gumdDaemonUserNew.Unstored := ⟨rfl, rfl, rfl⟩
  rw [editedUser]
  generalize gumdDaemonUserNew = u at start
  induction writes generalizing u with
  | nil => exact start
  | cons p rest ih =>
    refine ih (fun q mem => edits q (List.mem_cons_of_mem _ mem)) (p.set u) ?_
    have allowed := edits p List.mem_cons_self
    obtain ⟨pwDir, spNamp, spPwdp⟩ := start
    cases p <;> first | exact ⟨pwDir, spNamp, spPwdp⟩ | exact False.elim allowed

/-- An update from a new object keeps what was not set exactly if that can be copied. -/
theorem gumdDaemonUserUpdate_keeps_iff (env : Env) {writes : List UserProperty}
    (edits : ∀ p ∈ writes, p.Edits) (w : World) :
    wp (gumdDaemonUserUpdate env) (fun r t => r = true → ∃ pw sp new newSp,
      w.seenPasswd (editedUser writes).pw = some pw ∧
      (editedUser writes).Replaces w.files t.world.files pw new sp newSp ∧
      ((editedUser writes).Keeps pw new sp newSp ↔ (editedUser writes).Mergeable pw))
      ⟨editedUser writes, w⟩ := by
  refine wp_mono (gumdDaemonUserUpdate_merges env ⟨editedUser writes, w⟩) ?_
  intro r t merged done
  obtain ⟨pw, sp, new, newSp, merges⟩ := merged done
  exact ⟨pw, sp, new, newSp, merges.found, merges.replaces,
    merges.keeps_iff (unstored_editedUser edits)⟩

end GumdDaemonUser

namespace Sample

/-- A new object for alice with another real name. -/
def renamed : List UserProperty := [.uid 1000, .realname (str "Alicia")]

theorem gumdDaemonUserUpdate_keeps_iff_alice :
    wp (GumdDaemonUser.gumdDaemonUserUpdate env) (fun r t => r = true → ∃ pw sp new newSp,
      (system.world (call (.userUpdate 0))).seenPasswd (editedUser renamed).pw = some pw ∧
      (editedUser renamed).Replaces files t.world.files pw new sp newSp ∧
      ((editedUser renamed).Keeps pw new sp newSp ↔ (editedUser renamed).Mergeable pw))
      ⟨editedUser renamed, system.world (call (.userUpdate 0))⟩ :=
  GumdDaemonUser.gumdDaemonUserUpdate_keeps_iff env (by simp [renamed, UserProperty.Edits])
    (system.world (call (.userUpdate 0)))

/-- The update of the real name erases the login shell. -/
theorem userUpdate_erases_shell :
    wp (GumdDaemonUser.gumdDaemonUserUpdate env) (fun r t => r = true ∧ ¬∃ pw sp new newSp,
      (editedUser renamed).Replaces files t.world.files pw new sp newSp ∧
      (editedUser renamed).Keeps pw new sp newSp)
      ⟨editedUser renamed, system.world (call (.userUpdate 0))⟩ := by
  refine ⟨by decide +kernel, ?_⟩
  rintro ⟨pw, sp, new, newSp, replaces, keeps⟩
  have shells := replaces.map_passwd (·.pwShell) (keeps.pwShell (by decide))
  revert shells
  decide +kernel

end Sample

/-! ## Several holders of one user -/

/-- A text of the gecos a client can set. -/
abbrev GecosTextField := { field : GecosField // field ≠ .usertype }

/-- The fields of a user an update is for. -/
inductive UserField where
  | hash
  | text (field : GecosTextField)
  | shell
  deriving DecidableEq

/-- What the entries of a user hold in a field. -/
def UserField.value (pw : Passwd) (sp : Spwd) : UserField → Str
  | .hash => sp.spPwdp
  | .text field => gecosText (some pw.pwGecos) field.val
  | .shell => pw.pwShell

/-- The field a property is written to. -/
def UserProperty.field : UserProperty → Option UserField
  | .secret _ => some .hash
  | .realname _ => some (.text ⟨.realname, by decide⟩)
  | .office _ => some (.text ⟨.office, by decide⟩)
  | .officephone _ => some (.text ⟨.officephone, by decide⟩)
  | .homephone _ => some (.text ⟨.homephone, by decide⟩)
  | .shell _ => some .shell
  | _ => none

/-- The fields that are set after a call: those that have been set since the object was loaded or
its last update succeeded. -/
def fieldsSet (h : Nat → List UserField) (s : System) (c : Call) : Nat → List UserField :=
  match c.operation with
  | .userSet i property => Function.update h i (property.field.toList ++ h i)
  | .userNew i | .userNewByUid i _ | .userNewByName i _ | .userUpdate i =>
      if (s.call c).1 then Function.update h i [] else h
  | _ => h

/-- The object would write to the field what the entries hold: it has the same, or nothing and the
merge copies it. -/
def GumdDaemonUser.Holds (u : GumdDaemonUser) (env : Env) (pw : Passwd) (sp : Spwd) :
    UserField → Prop
  | .hash => u.newSecret env pw sp = false ∧ u.shadow.spPwdp.getD sp.spPwdp = sp.spPwdp
  | .text field => gecosText (ptr u.pw.pwGecos) field.val = gecosText (some pw.pwGecos) field.val ∨
      gecosText (ptr u.pw.pwGecos) field.val = [] ∧
        gumValidateDbStringEntry (some (gecosText (some pw.pwGecos) field.val)) = .ok ()
  | .shell => (ptr u.pw.pwShell).getD [] = pw.pwShell

/-- A field the object holds is kept by its update. -/
theorem GumdDaemonUser.Merges.value_eq {u : GumdDaemonUser} {env : Env} {w : World}
    {pw new : Passwd} {sp newSp : Spwd} {f' : Files} (merges : u.Merges env w pw sp new newSp f')
    {field : UserField} (holds : u.Holds env pw sp field) :
    field.value new newSp = field.value pw sp := by
  cases field with
  | hash =>
    obtain ⟨same, cached⟩ := holds
    rw [UserField.value, merges.newSp_eq]
    dsimp only
    rw [same, if_neg (by simp), cached]
    rfl
  | text field =>
    rw [UserField.value, merges.gecos_eq field.property, mergedText]
    rcases holds with same | ⟨unset, accepted⟩
    · rw [same, ite_self]
      rfl
    · rw [if_pos ⟨unset, accepted⟩]
      rfl
  | shell =>
    obtain ⟨name, -, rfl⟩ := merges.new_eq
    exact holds

/-- A successful update replaces the entries of its user and keeps every field that is not
recorded as set. -/
def Call.KeepsFields (c : Call) (h : Nat → List UserField) (s : System) : Prop :=
  ∀ i, c.operation = .userUpdate i → (s.call c).1 = true → ∃ pw sp new newSp,
    (s.world c).seenPasswd (s.users i).pw = some pw ∧
    (s.users i).Replaces s.files (s.step c).files pw new sp newSp ∧ newSp.spNamp = pw.pwName ∧
    ∀ field, field ∉ h i → field.value new newSp = field.value pw sp

/-- An object to be updated holds every field that is not recorded as set, and its shadow record has
no other user's name. -/
def Call.HoldsFields (c : Call) (h : Nat → List UserField) (s : System) : Prop :=
  ∀ i, c.operation = .userUpdate i → ∀ pw sp, (s.world c).seenPasswd (s.users i).pw = some pw →
    s.files.getspnam pw.pwName = some sp →
    (s.users i).shadow.spNamp.getD pw.pwName = pw.pwName ∧
    ∀ field, field ∉ h i → (s.users i).Holds c.env pw sp field

/-- A successful update, with what it has found and written. -/
theorem System.userMerges {s : System} {c : Call} {i : Nat} (op : c.operation = .userUpdate i)
    (done : (s.call c).1 = true) : ∃ pw sp new newSp,
      (s.users i).Merges c.env (s.world c) pw sp new newSp (s.step c).files := by
  have merges := GumdDaemonUser.gumdDaemonUserUpdate_merges c.env ⟨s.users i, s.world c⟩
  rw [System.call, op] at done
  rw [System.step, System.call, op]
  exact merges done

/-- In every run whose updates find what was not set in their objects. -/
theorem run_keepsFields {calls : List Call} {h : Nat → List UserField} {s : System}
    (each : System.EachWith fieldsSet (fun h s c => c.HoldsFields h s) h s calls) :
    System.EachWith fieldsSet (fun h s c => c.KeepsFields h s) h s calls := by
  refine each.imp fun h s c _ holds => ?_
  intro i op done
  obtain ⟨pw, sp, new, newSp, merges⟩ := System.userMerges op done
  obtain ⟨named, held⟩ := holds i op pw sp merges.found merges.shadow
  refine ⟨pw, sp, new, newSp, merges.found, merges.replaces, ?_, fun field other =>
    merges.value_eq (held field other)⟩
  have own : sp.spNamp = pw.pwName := by simpa using List.find?_some merges.shadow
  rw [merges.newSp_eq, own]
  exact named

namespace Sample

/-- Two holders load alice, and one of them gives her another real name. -/
def renamedByOther : List Call :=
  [call (.userNewByUid 0 1000), call (.userNewByUid 1 1000),
    call (.userSet 1 (.realname (str "Alicia"))), call (.userUpdate 1)]

theorem run_keepsFields_alice : System.EachWith fieldsSet (fun h s c => c.KeepsFields h s)
    (fun _ => []) system renamedByOther := by
  apply run_keepsFields
  have idle : ∀ {h s c}, (∀ i, c.operation ≠ .userUpdate i) → Call.HoldsFields c h s :=
    fun other i op => absurd op (other i)
  refine ⟨idle (by simp [call]), idle (by simp [call]), idle (by simp [call]), ?_, trivial⟩
  intro i op pw sp found shadow
  obtain rfl : 1 = i := by simpa [call] using op
  obtain rfl : alice = pw := Option.some.inj (Eq.trans (by decide +kernel) found)
  obtain rfl : aliceShadow = sp := Option.some.inj (Eq.trans (by decide +kernel) shadow)
  refine ⟨by decide +kernel, fun field other => ?_⟩
  cases field with
  | hash => exact ⟨by decide +kernel, by decide +kernel⟩
  | shell =>
    change (ptr _).getD [] = _
    decide +kernel
  | text field =>
    obtain ⟨field, text⟩ := field
    cases field with
    | usertype => exact absurd rfl text
    | realname => exact absurd List.mem_cons_self other
    | _ =>
      refine Or.inl ?_
      dsimp only
      decide +kernel

/-- The other holder sets the office, and the real name is lost. -/
theorem run_not_keepsFields :
    ¬System.EachWith fieldsSet (fun h s c => c.KeepsFields h s) (fun _ => []) system
      (renamedByOther ++ [call (.userSet 0 (.office (str "B2"))), call (.userUpdate 0)]) := by
  rintro ⟨-, -, -, -, -, keeps, -⟩
  obtain ⟨pw, sp, new, newSp, -, replaces, -, kept⟩ := keeps 0 rfl (by decide +kernel)
  have realname := kept (.text ⟨.realname, by decide⟩) (by decide +kernel)
  have names := replaces.map_passwd (fun e => gecosText (some e.pwGecos) .realname) realname
  revert names
  decide +kernel

end Sample

end Gumd
