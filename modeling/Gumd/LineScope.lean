import Gumd.GroupUpdate
import Gumd.Identity
import Gumd.Printing
import Gumd.Simulation
import Gumd.UserMerge

/-!
# The lines an operation is about

An addition adds one line at most to each file, and an update adds none.  The other lines stay as they
are, apart from the groups a new user joins.
-/

namespace Gumd

open StateWp EntryLoop Lines

/-! ## What changes in the files -/

/-- The name an addition gives to the user of the object. -/
def GumdDaemonUser.newName (env : Env) (u : GumdDaemonUser) : Option Str :=
  if u.pw.pwName.isSome then ptr u.pw.pwName
  else (gumValidateGenerateUsername env.md5 (ptr u.nickName)).toOption

/-- The name of the primary group of a new user. -/
def GumdDaemonUser.newGroupName (env : Env) (u : GumdDaemonUser) : Option Str :=
  (gumConfigGetString env.config gumConfigGeneralUsrPrimaryGrpname).or (u.newName env)

/-- The group and gshadow files have got a line of the group at most. -/
structure Files.GainsGroup (name : Option Str) (f f' : Files) : Prop where
  passwd : f'.passwd = f.passwd
  shadow : f'.shadow = f.shadow
  group : Extends (fun e => name = some e.grName) Eq f.group f'.group
  gshadow : Option.Rel (Extends (fun e => name = some e.sgNamp) Eq) f.gshadow f'.gshadow

/-- The passwd and shadow files have got a line of the user at most, and the other files one of its
primary group.  The default groups of the user may have got another member list. -/
structure Files.GainsUser (env : Env) (u : GumdDaemonUser) (uid : UInt32) (f f' : Files) : Prop where
  passwd : Extends (fun e => u.newName env = some e.pwName ∧ e.pwUid = uid ∧
    (e.pwGecos.splitOn comma).length = gecosFieldCount) Eq f.passwd f'.passwd
  shadow : Extends (fun e => u.newName env = some e.spNamp) Eq f.shadow f'.shadow
  group : Extends (fun e => u.newGroupName env = some e.grName)
    (Group.Gains (u.defaultGroups env.config) (f'.IsNamed uid)) f.group f'.group
  gshadow : Option.Rel (Extends (fun e => u.newGroupName env = some e.sgNamp)
    (Sgrp.Gains (u.defaultGroups env.config))) f.gshadow f'.gshadow

/-- The lines of the entry are other ones, with its name and ids in the passwd file. -/
structure Files.EditsPasswd (pw : Passwd) (f f' : Files) : Prop where
  passwd : List.Forall₂ (fun e e' => e' = e ∨ e.key = pw.key ∧ e'.key = pw.key) f.passwd f'.passwd
  shadow : List.Forall₂ (fun e e' => e' = e ∨ e.spNamp = pw.pwName) f.shadow f'.shadow
  group : f'.group = f.group
  gshadow : f'.gshadow = f.gshadow

/-- The lines of the entry are other ones, with its name and gid in the group file. -/
structure Files.EditsGroup (entry : Group) (f f' : Files) : Prop where
  passwd : f'.passwd = f.passwd
  shadow : f'.shadow = f.shadow
  group : List.Forall₂ (fun e e' => e' = e ∨ e.key = entry.key ∧ e'.key = entry.key)
    f.group f'.group
  gshadow : Option.Rel (List.Forall₂ fun e e' => e' = e ∨ e.sgNamp = entry.grName)
    f.gshadow f'.gshadow

/-! ## Adding a group -/

section Gains

variable {f f' : Files} {name : Option Str}

theorem extends_refl_gshadow {new : Sgrp → Prop} (gshadow : Option (List Sgrp)) :
    Option.Rel (Extends new Eq) gshadow gshadow := by
  cases gshadow with
  | none => exact .none
  | some entries => exact .some (.refl entries)

theorem Files.GainsGroup.refl (name : Option Str) (f : Files) : f.GainsGroup name f :=
  ⟨rfl, rfl, .refl _, extends_refl_gshadow _⟩

theorem gainsGroup_insertGroup {new : Group} (named : name = some new.grName) :
    f.GainsGroup name (f.insertGroup new) :=
  ⟨rfl, rfl, @extends_insertFirst _ (fun e : Group => name = some e.grName) _ named _ _,
    extends_refl_gshadow _⟩

theorem GumdDaemonGroup.Adds.gains {g : GumdDaemonGroup} {env : Env} {gid : Option UInt32}
    (adds : g.Adds env f gid f') : f.GainsGroup (ptr g.group.grName) f' := by
  cases adds with
  | nothing => exact .refl _ f
  | groupOnly writable =>
    apply gainsGroup_insertGroup
    rw [writable.name]
    rfl
  | @both name gid passwd writable fresh =>
    have named : ptr g.group.grName = some name.val := by
      rw [writable.name]
      rfl
    have group := @gainsGroup_insertGroup f _ (g.newEntry name gid) named
    refine ⟨rfl, rfl, group.group, ?_⟩
    change Option.Rel _ f.gshadow (f.gshadow.map (· ++ [_]))
    cases f.gshadow with
    | none => exact .none
    | some entries =>
      exact .some (@extends_append _ (fun e : Sgrp => ptr g.group.grName = some e.sgNamp) _ named
        entries)

/-- The group `_set_group` creates has the configured name, or that of the user. -/
theorem GumdDaemonUser.name_of_primaryGroup {u : GumdDaemonUser} {config : GumConfig} {n : Str}
    (named : ptr (u.primaryGroup config).group.grName = some n) :
    (gumConfigGetString config gumConfigGeneralUsrPrimaryGrpname).or (ptr u.pw.pwName) = some n := by
  rcases setStringProperty_eq (p := fun s => gumValidateName (some s) = .ok ())
    ((gumConfigGetString config gumConfigGeneralUsrPrimaryGrpname).or (ptr u.pw.pwName)) none with
    ⟨v, given, result⟩ | ⟨-, result⟩
  · have own : (u.primaryGroup config).group.grName = some v := result
    rw [own] at named
    rw [given]
    exact named
  · have own : (u.primaryGroup config).group.grName = none := result
    rw [own] at named
    cases named

theorem Files.GainsGroup.mono {name' : Option Str} (weaken : ∀ n, name = some n → name' = some n)
    (gains : f.GainsGroup name f') : f.GainsGroup name' f' := by
  have more : ∀ {ε : Type} {key : ε → Str} {old out : List ε},
      Extends (fun e => name = some (key e)) Eq old out →
      Extends (fun e => name' = some (key e)) Eq old out := by
    intro ε key old out extended
    cases extended with
    | same equal => exact .same equal
    | more holds equal => exact .more (weaken _ holds) equal
  refine ⟨gains.passwd, gains.shadow, more gains.group, ?_⟩
  have gshadow := gains.gshadow
  generalize f.gshadow = old at gshadow ⊢
  generalize f'.gshadow = out at gshadow ⊢
  cases gshadow with
  | none => exact .none
  | some extended => exact .some (more extended)

theorem GumdDaemonUser.Groups.gains {u : GumdDaemonUser} {env : Env} {gid : Option UInt32}
    (groups : u.Groups env f gid f') : f.GainsGroup
      ((gumConfigGetString env.config gumConfigGeneralUsrPrimaryGrpname).or (ptr u.pw.pwName)) f' := by
  cases groups with
  | found => exact .refl _ f
  | created adds => exact adds.gains.mono fun n named => GumdDaemonUser.name_of_primaryGroup named

end Gains

/-! ## Adding a user -/

namespace GumdDaemonUser

variable {s : St GumdDaemonUser} {u u' : GumdDaemonUser} {env : Env}

theorem ptr_pwName_named (named : u.named env = some u') : u.newName env = ptr u'.pw.pwName := by
  simp only [GumdDaemonUser.named] at named
  split_ifs at named with given missing
  · obtain rfl := Option.some.inj named
    rw [newName, if_pos given, pwName_setMissingRealname]
  · cases generated : gumValidateGenerateUsername env.md5 (ptr u.nickName) with
    | error e => simp [generated] at named
    | ok tname =>
      obtain rfl : (u.setUsernameProperty (some tname)).setMissingRealname = u' := by
        simpa [generated] using named
      rw [newName, if_neg given, generated, pwName_setMissingRealname,
        pwName_setUsernameProperty (gumValidateName_generated generated)]
      rfl

theorem newName_setMissingShell (config : GumConfig) :
    (u.setMissingShell config).newName env = u.newName env := by
  rw [setMissingShell]
  split_ifs <;> rfl

/-- The object gets its name at the start of `_set_uid`. -/
theorem setUid_named (env : Env) : wp (setUid env) (fun ok t => ok = true →
    s.self.newName env = ptr t.self.pw.pwName) s := by
  rw [setUid, wp_bind]
  refine wp_mono (wp_setDaemonUserName env) ?_
  rintro ok t ⟨rfl, self, -⟩
  rw [wp_guard]
  refine ⟨fun _ done => (by cases done), fun done => ?_⟩
  obtain ⟨u, named⟩ := Option.isSome_iff_exists.mp done
  have name := ptr_pwName_named named
  rw [← self u named] at name
  rw [wp_bind, wp_getSelf, wp_bind, wp_liftM]
  refine wp_mono (looks_gumFileGetpwnam _ t.world) ?_
  intro taken w _
  rw [wp_ite]
  refine ⟨fun _ done => (by cases done), fun _ => ?_⟩
  rw [wp_bind]
  refine wp_mono (unmoved_findFreeUid env.config ⟨t.self, w⟩) ?_
  rintro found ⟨object, w₂⟩ ⟨rfl, -⟩
  cases found.join with
  | none => exact fun done => by cases done
  | some uid =>
    simp only [wp_bind, wp_modifySelf, wp_getSelf, wp_ite, wp_pure]
    exact ⟨fun _ _ => name, fun _ _ => name⟩

/-- The gecos of an object with a user type has five fields. -/
theorem gecos_of_typed {pw : Passwd} (typed : u.usertype ≠ .none) (put : u.pw.putpwent = some pw) :
    (pw.pwGecos.splitOn comma).length = gecosFieldCount := by
  obtain ⟨name, -, rfl⟩ := Option.map_eq_some_iff.mp put
  cases gecos : u.pw.pwGecos with
  | none =>
    refine absurd ?_ typed
    rw [usertype, gecos]
    rfl
  | some gecos' =>
    obtain ⟨fields, five, joined⟩ := gecos'.property
    have split : (join comma (fields.map Subtype.val)).splitOn comma = fields.map Subtype.val := by
      apply splitOn_join
      · intro part mem
        obtain ⟨field, -, rfl⟩ := List.mem_map.mp mem
        exact comma_not_mem_dbString field
      · intro empty
        rw [List.map_eq_nil_iff] at empty
        rw [empty] at five
        cases five
    have text : gecos'.val = join comma (fields.map Subtype.val) := joined
    change (gecos'.val.splitOn comma).length = gecosFieldCount
    rw [text, split, List.length_map, five]

/-- What `_set_uid` makes sure of. -/
structure Titled (env : Env) (u u' : GumdDaemonUser) : Prop where
  name : u.newName env = ptr u'.pw.pwName
  same : u.SameSecret u'
  typed : u.usertype ≠ .none

/-- The entry a titled object writes. -/
theorem Titled.passwd {gid : UInt32} {pw : Passwd} {sp : Spwd} (titled : Titled env u u')
    (writes : u'.Writes env gid pw sp) : u.newName env = some pw.pwName ∧
      (pw.pwGecos.splitOn comma).length = gecosFieldCount := by
  have typed : (u'.complete env gid).usertype ≠ .none := by
    have typed := titled.typed
    rwa [← titled.same.usertype] at typed
  refine ⟨?_, gecos_of_typed typed writes.passwd⟩
  obtain ⟨name, given, rfl⟩ := Option.map_eq_some_iff.mp writes.passwd
  have given : u'.pw.pwName = some name := given
  rw [titled.name, given]
  rfl

theorem Titled.shadow {gid : UInt32} {pw : Passwd} {sp : Spwd} (titled : Titled env u u')
    (writes : u'.Writes env gid pw sp) : u.newName env = some sp.spNamp := by
  obtain ⟨name, given, rfl⟩ := Option.map_eq_some_iff.mp writes.shadow
  rw [titled.name]
  exact given

theorem Titled.groups {f f' : Files} {gid : Option UInt32} (titled : Titled env u u')
    (groups : u'.Groups env f gid f') : f.GainsGroup (u.newGroupName env) f' := by
  have gains := groups.gains
  rwa [← titled.name] at gains

/-- A new group, lines of the user, and the groups it joins. -/
theorem gainsUser_of_joins {f f₁ f₂ f₃ : Files} {uid : UInt32}
    (group : f.GainsGroup (u.newGroupName env) f₁)
    (passwd : Extends (fun e => u.newName env = some e.pwName ∧ e.pwUid = uid ∧
      (e.pwGecos.splitOn comma).length = gecosFieldCount) Eq f.passwd f₃.passwd)
    (shadow : Extends (fun e => u.newName env = some e.spNamp) Eq f.shadow f₃.shadow)
    (sameGroup : f₂.group = f₁.group) (sameGshadow : f₂.gshadow = f₁.gshadow)
    (joins : f₂.Joins (u.defaultGroups env.config) (f₂.IsNamed uid) f₃) :
    f.GainsUser env u uid f₃ := by
  refine ⟨passwd, shadow, ?_, ?_⟩
  · rw [Files.isNamed_congr joins.passwd]
    have changed := joins.group
    rw [sameGroup] at changed
    refine group.group.changed ?_ changed
    intro a b named gains
    rcases gains with rfl | joined
    · exact named
    · rw [joined.grName]
      exact named
  · have old := group.gshadow
    have changed := joins.gshadow
    rw [sameGshadow] at changed
    generalize f.gshadow = a at old ⊢
    generalize f₁.gshadow = b at old changed
    generalize f₃.gshadow = c at changed ⊢
    cases old with
    | none =>
      cases changed with
      | none => exact .none
    | some extended =>
      cases changed with
      | some changed =>
        refine .some (extended.changed ?_ changed)
        intro a b named gains
        rcases gains with rfl | joined
        · exact named
        · rw [joined.sgNamp]
          exact named

theorem AddsAs.gains {f f' : Files} {r : Option UInt32} (adds : AddsAs (Titled env u) env f r f') :
    ∃ uid, f.GainsUser env u uid f' := by
  have alone : ∀ {f₁ : Files}, f.GainsGroup (u.newGroupName env) f₁ → f.GainsUser env u 0 f₁ := by
    intro f₁ group
    refine gainsUser_of_joins group ?_ ?_ rfl rfl (.refl _ _ f₁)
    · rw [group.passwd]
      exact .refl _
    · rw [group.shadow]
      exact .refl _
  cases adds with
  | nothing => exact ⟨0, alone (.refl _ f)⟩
  | group titled groups => exact ⟨0, alone (titled.groups groups)⟩
  | @passwdOnly u' gid f₁ pw sp titled groups writes =>
    have group := titled.groups groups
    obtain ⟨name, five⟩ := titled.passwd writes
    have joins := Files.Joins.refl (u.defaultGroups env.config)
      ((f₁.insertPasswd pw).IsNamed pw.pwUid) (f₁.insertPasswd pw)
    refine ⟨pw.pwUid, @gainsUser_of_joins u env f f₁ (f₁.insertPasswd pw) _ _ group ?_ ?_ rfl rfl
      joins⟩
    · rw [← group.passwd]
      exact extends_insertFirst ⟨name, rfl, five⟩ _ _
    · change Extends _ _ f.shadow f₁.shadow
      rw [group.shadow]
      exact .refl _
  | @both r u' gid f₁ f₂ f₃ pw sp titled groups writes fresh db joins result =>
    have group := titled.groups groups
    obtain ⟨name, five⟩ := titled.passwd writes
    have names : u'.defaultGroups env.config = u.defaultGroups env.config := by
      rw [defaultGroups, defaultGroups, titled.same.usertype]
    rw [names] at joins
    refine ⟨pw.pwUid, gainsUser_of_joins group ?_ ?_ db.group db.gshadow joins⟩
    · rw [joins.passwd, db.passwd, ← group.passwd]
      exact extends_insertFirst ⟨name, rfl, five⟩ _ _
    · rw [joins.shadow, db.shadow, ← group.shadow]
      exact @extends_append _ (fun e : Spwd => u.newName env = some e.spNamp) _
        (titled.shadow writes) _

theorem gumdDaemonUserAdd_gains (env : Env) :
    wp (gumdDaemonUserAdd env) (fun _ t => ∃ uid,
      s.world.files.GainsUser env s.self uid t.world.files) s := by
  have shell := sameSecret_setMissingShell env.config s.self
  refine wp_mono (gumdDaemonUserAdd_addsAs (R := Titled env s.self) env fun typed w => ?_) ?_
  · refine wp_mono (wp_and (setUid_identified env) (setUid_named env)) ?_
    rintro ok t ⟨⟨⟨same, -⟩, -⟩, name⟩ done
    refine ⟨?_, shell.trans same, typed⟩
    rw [← name done]
    exact (newName_setMissingShell env.config).symm
  · exact fun r t spec => spec.2.gains

/-! ## Updating a user -/

theorem editsPasswd_of_same {f f' : Files} (pw : Passwd) (same : f.SameDb f') : f.EditsPasswd pw f' where
  passwd := by
    rw [same.passwd]
    exact List.forall₂_same.mpr fun _ _ => Or.inl rfl
  shadow := by
    rw [same.shadow]
    exact List.forall₂_same.mpr fun _ _ => Or.inl rfl
  group := same.group
  gshadow := same.gshadow

/-- A new entry with the keys of the old one. -/
theorem editsPasswd_replacePasswd {f f₁ : Files} {pw new : Passwd} (same : f.SameDb f₁)
    (keys : new.pwName = pw.pwName ∧ new.pwUid = pw.pwUid ∧ new.pwGid = pw.pwGid) :
    f.EditsPasswd pw (f₁.replacePasswd pw new) where
  passwd := by
    rw [← same.passwd]
    refine forall₂_modifyFirst_of_picked (fun e picked => ?_) _
    obtain ⟨uid, gid, name⟩ := of_decide_eq_true picked
    obtain ⟨newName, newUid, newGid⟩ := keys
    constructor
    · rw [Passwd.key, Passwd.key, uid, gid, name]
    · rw [Passwd.key, Passwd.key, newName, newUid, newGid]
  shadow := (editsPasswd_of_same pw same).shadow
  group := same.group
  gshadow := same.gshadow

theorem MergeWrites.edits {u u' : GumdDaemonUser} {w : World} {r : Bool} {f' : Files}
    (writes : u.MergeWrites env w r u' f') : w.files.SameDb f' ∨
      ∃ pw ∈ w.files.passwd, pw.pwUid = u.pw.pwUid ∧ w.files.EditsPasswd pw f' := by
  have entry : ∀ {pw : Passwd}, u.pw.pwUid ≠ gumUserInvalidUid → w.seenPasswd u.pw = some pw →
      pw ∈ w.files.passwd ∧ pw.pwUid = u.pw.pwUid ∧ u.pw.agrees pw = true := by
    intro pw valid found
    obtain ⟨agrees, here⟩ := World.seenPasswd_some found
    have uid := (PasswdRecord.agrees_iff.mp agrees).1.resolve_left valid
    exact ⟨List.mem_of_find?_eq_some here, uid.symm, agrees⟩
  cases writes with
  | nothing => exact Or.inl (.of_eq rfl)
  | icon valid found icon => exact Or.inl icon.sameDb
  | passwdOnly valid found shadow icon put =>
    obtain ⟨mem, uid, agrees⟩ := entry valid found
    exact Or.inr ⟨_, mem, uid, editsPasswd_replacePasswd icon.sameDb (keys_of_put agrees put)⟩
  | @both pw sp new newSp f' valid merges =>
    obtain ⟨mem, uid, agrees⟩ := entry valid merges.found
    obtain ⟨f₁, icon, rfl⟩ := merges.files
    have edits := editsPasswd_replacePasswd icon.sameDb (keys_of_put agrees merges.put)
    refine Or.inr ⟨pw, mem, uid, { edits with shadow := ?_ }⟩
    rw [← icon.sameDb.shadow]
    refine forall₂_modifyFirst_of_picked (fun e picked => ?_) _
    exact (of_decide_eq_true picked).symm

end GumdDaemonUser

/-! ## Updating a group -/

namespace GumdDaemonGroup

variable {s : St GumdDaemonGroup}

theorem editsGroup_refl_gshadow (entry : Group) (gshadow : Option (List Sgrp)) :
    Option.Rel (List.Forall₂ fun e e' => e' = e ∨ e.sgNamp = entry.grName) gshadow gshadow := by
  cases gshadow with
  | none => exact .none
  | some entries => exact .some (List.forall₂_same.mpr fun _ _ => Or.inl rfl)

/-- A new entry with the keys of the old one. -/
theorem editsGroup_replaceGroup {f : Files} {entry new : Group} (name : new.grName = entry.grName)
    (gid : new.grGid = entry.grGid) : f.EditsGroup entry (f.replaceGroup entry new) where
  passwd := rfl
  shadow := rfl
  group := by
    refine forall₂_modifyFirst_of_picked (fun e picked => ?_) _
    obtain ⟨sameGid, sameName⟩ := of_decide_eq_true picked
    constructor
    · rw [Group.key, Group.key, sameGid, sameName]
    · rw [Group.key, Group.key, name, gid]
  gshadow := editsGroup_refl_gshadow entry _

theorem Rewritten.edits {g : GumdDaemonGroup} {f f' : Files} {entry : Group} {r : Bool}
    (keys : ∀ new, g.group.putgrent = some new → new.grName = entry.grName ∧ new.grGid = entry.grGid)
    (written : Rewritten g entry
      (Files.rewriteGshadow (updateGshadowEntry g .modify (some entry.grName))) f r f') :
    f' = f ∨ f.EditsGroup entry f' := by
  cases written with
  | neither => exact Or.inl rfl
  | groupOnly put => exact Or.inr (editsGroup_replaceGroup (keys _ put).1 (keys _ put).2)
  | both put second =>
    have edits := @editsGroup_replaceGroup f entry _ (keys _ put).1 (keys _ put).2
    rcases Files.rewriteGshadow_ok second with ⟨-, rfl⟩ | ⟨entries, out, present, edited, rfl⟩
    · exact Or.inr edits
    · obtain ⟨e, new, -, -, rfl⟩ := updateGshadowEntry_ok edited
      refine Or.inr { edits with gshadow := ?_ }
      rw [show f.gshadow = some entries from present]
      apply Option.Rel.some
      refine forall₂_modifyFirst_of_picked (fun e picked => ?_) _
      exact (of_decide_eq_true picked).symm

theorem gumdDaemonGroupUpdate_edits (env : Env) :
    wp (gumdDaemonGroupUpdate env) (fun _ t => t.world.files = s.world.files ∨
      ∃ entry ∈ s.world.files.group, entry.grGid = s.self.group.grGid ∧
        s.world.files.EditsGroup entry t.world.files) s := by
  refine wp_mono (@gumdDaemonGroupUpdate_updates s (fun entry _ =>
    s.self.group.grGid ≠ gumGroupInvalidGid ∧ entry ∈ s.world.files.group)
    (fun valid => ?_) env) ?_
  · refine wp_mono (@wp_getGroup_seen ⟨s.self, s.world.afterLock⟩ valid) ?_
    rintro r u ⟨rfl, self, sought⟩
    refine ⟨fun entry found => ?_, self, sought.quiet⟩
    obtain ⟨agrees, here⟩ := World.seenGroup_some found
    rw [World.files_afterLock] at here
    refine ⟨agrees, wp_mono (wp_gumFileGetsgnam_seen _ _) ?_⟩
    rintro sg w ⟨-, quiet, -⟩
    exact ⟨⟨valid, List.mem_of_find?_eq_some here⟩, quiet⟩
  · rintro r t ⟨-, updates⟩
    generalize t.world.files = f' at updates ⊢
    cases updates with
    | refused => exact Or.inl rfl
    | @rewritten entry sg r f' sought agrees rekeys written =>
      obtain ⟨valid, mem⟩ := sought
      have gid : s.self.group.grGid = entry.grGid :=
        (GroupRecord.agrees_iff.mp agrees).1.resolve_left valid
      have keys : ∀ new, (s.self.updated env entry sg).group.putgrent = some new →
          new.grName = entry.grName ∧ new.grGid = entry.grGid := by
        intro new put
        obtain ⟨n, given, rfl⟩ := Option.map_eq_some_iff.mp put
        refine ⟨eq_of_updated_name agrees (by rw [given, ptr_some]), ?_⟩
        exact (grGid_updated s.self env entry sg).trans gid
      rcases Rewritten.edits keys written with same | edits
      · exact Or.inl same
      · exact Or.inr ⟨entry, mem, gid.symm, edits⟩

end GumdDaemonGroup

/-! ## Deleting a user -/

theorem GumdDaemonUser.Removes.confined {u : GumdDaemonUser} {env : Env} {w : World} {r : Bool}
    {passwd : List Passwd} (removes : u.Removes env w r passwd) : passwd = w.files.passwd ∨
      ∃ pw ∈ w.files.passwd, pw.pwUid = u.pw.pwUid ∧ passwd = (w.files.removePasswd pw).passwd := by
  cases removes with
  | nothing => exact Or.inl rfl
  | removed granted terminated valid found =>
    obtain ⟨agrees, here⟩ := World.seenPasswd_some found
    have own := (PasswdRecord.agrees_iff.mp agrees).1.resolve_left valid
    exact Or.inr ⟨_, List.mem_of_find?_eq_some here, own.symm, rfl⟩

/-! ## Runs -/

/-- The entries a call may add and change, and those of users it may remove. -/
def Call.Confined (c : Call) (s : System) : Prop :=
  match c.operation with
  | .userAdd i => ∃ uid, s.files.GainsUser c.env (s.users i) uid (s.step c).files
  | .userUpdate i => s.files.SameDb (s.step c).files ∨ ∃ pw ∈ s.files.passwd,
      pw.pwUid = (s.users i).pw.pwUid ∧ s.files.EditsPasswd pw (s.step c).files
  | .userDelete i _ => (s.step c).files.passwd = s.files.passwd ∨ ∃ pw ∈ s.files.passwd,
      pw.pwUid = (s.users i).pw.pwUid ∧
        (s.step c).files.passwd = (s.files.removePasswd pw).passwd
  | .groupAdd i _ => s.files.GainsGroup (ptr (s.groups i).group.grName) (s.step c).files
  | .groupUpdate i => (s.step c).files = s.files ∨ ∃ entry ∈ s.files.group,
      entry.grGid = (s.groups i).group.grGid ∧ s.files.EditsGroup entry (s.step c).files
  | .groupDelete _ | .groupAddMember .. | .groupDeleteMember .. | .deleteUserMembership _ =>
      (s.step c).files.passwd = s.files.passwd ∧ (s.step c).files.shadow = s.files.shadow
  | _ => (s.step c).files = s.files

theorem confined_step (s : System) (c : Call) : c.Confined s := by
  have users : ∀ {α : Type} (i : Nat) {m : GroupM α}, FileSteps GroupStep m →
      (s.runGroup c i m).2.files.passwd = s.files.passwd ∧
        (s.runGroup c i m).2.files.shadow = s.files.shadow :=
    fun i _ steps => keepsUsers_of_steps steps ⟨s.groups i, s.world c⟩
  rw [Call.Confined, System.step, System.call]
  cases op : c.operation with
  | userNew i => rfl
  | userNewByUid i uid => exact (reaches_loadUser c.env _).same (s.world c)
  | userNewByName i username =>
    exact (reaches_gumdDaemonUserNewByName c.env username).same (s.world c)
  | userSet i property => rfl
  | userAdd i => exact @GumdDaemonUser.gumdDaemonUserAdd_gains ⟨s.users i, s.world c⟩ c.env
  | userUpdate i =>
    have written := GumdDaemonUser.gumdDaemonUserUpdate_writes c.env ⟨s.users i, s.world c⟩
    exact written.edits
  | userDelete i remHomeDir =>
    have removes := (GumdDaemonUser.gumdDaemonUserDelete_removes c.env remHomeDir
      ⟨s.users i, s.world c⟩).2
    exact removes.confined
  | groupNew i => rfl
  | groupNewByGid i gid => exact (reaches_loadGroup _).same (s.world c)
  | groupNewByName i groupname =>
    exact (reaches_gumdDaemonGroupNewByName groupname).same (s.world c)
  | groupSet i property => rfl
  | groupAdd i preferredGid =>
    have adds := @GumdDaemonGroup.gumdDaemonGroupAdd_adds ⟨s.groups i, s.world c⟩ c.env preferredGid
    exact adds.2.gains
  | groupUpdate i =>
    exact @GumdDaemonGroup.gumdDaemonGroupUpdate_edits ⟨s.groups i, s.world c⟩ c.env
  | groupDelete i => exact users i (GumdDaemonGroup.steps_gumdDaemonGroupDelete c.env)
  | groupAddMember i uid addAsAdmin =>
    exact users i (GumdDaemonGroup.steps_gumdDaemonGroupAddMember uid addAsAdmin)
  | groupDeleteMember i uid =>
    exact users i (GumdDaemonGroup.steps_gumdDaemonGroupDeleteMember uid)
  | deleteUserMembership userName =>
    have frame : Frame fun f f' : Files => f'.passwd = f.passwd ∧ f'.shadow = f.shadow :=
      ⟨fun _ => ⟨rfl, rfl⟩, fun first second =>
        ⟨second.1.trans first.1, second.2.trans first.2⟩⟩
    exact (reaches_gumdDaemonGroupDeleteUserMembership userName).keeps frame
      (fun _ _ => keepsUsers_step) (s.world c)

/-- Every line is one of its format after each call, and a call touches the lines it is about. -/
theorem run_confined {s : System} {calls : List Call} (plain : ∀ c ∈ calls, c.env.PlainCrypt)
    (files : s.files.Printable .fields) (users : ∀ i, s.users i = gumdDaemonUserNew)
    (groups : ∀ i, s.groups i = gumdDaemonGroupNew) :
    System.Each (fun s c => (s.step c).files.Lines ∧ c.Confined s) s calls := by
  have printable := System.printable_new files users groups
  clear files users groups
  induction calls generalizing s with
  | nil => trivial
  | cons c rest ih =>
    have next := printable_step (plain c List.mem_cons_self).plain printable
    refine ⟨⟨next.files.lines, confined_step s c⟩, ih (fun d mem => ?_) next⟩
    exact plain d (List.mem_cons_of_mem _ mem)

namespace Sample

theorem plainCrypt : env.PlainCrypt := by
  intro secret text hash result
  change crypt secret text = some hash at result
  rw [crypt] at result
  split_ifs at result
  obtain rfl := Option.some.inj result
  rw [hashBody]
  split_ifs <;> decide +kernel

theorem printable_files : files.Printable .fields where
  passwd := by
    have clean : ∀ e ∈ files.passwd, e.Printable ∧ Clean e.pwName := by decide +kernel
    exact clean
  shadow := by
    intro e mem
    obtain rfl := List.mem_singleton.mp mem
    have clean : Clean aliceShadow.spNamp ∧ Clean aliceShadow.spPwdp := by decide +kernel
    exact ⟨clean.1, clean.2, trivial, trivial, trivial, trivial, trivial, trivial, trivial⟩
  group := by
    have clean : ∀ e ∈ files.group, Clean e.grName ∧ Clean e.grPasswd ∧ ∀ n ∈ e.grMem, Clean n := by
      decide +kernel
    exact fun e mem => ⟨(clean e mem).1, (clean e mem).2.1, (clean e mem).2.2⟩
  gshadow := fun e mem => absurd mem List.not_mem_nil

/-- A client that writes a colon and a line break to the real name of a user it adds. -/
theorem run_confined_bob : System.Each (fun s c => (s.step c).files.Lines ∧ c.Confined s)
    { system with users := fun _ => gumdDaemonUserNew, groups := fun _ => gumdDaemonGroupNew }
    ([.userSet 0 (.username (some (str "bob"))), .userSet 0 (.realname (some (str "x:0:0\n"))),
      .userSet 0 (.usertype 8), .userAdd 0, .userNewByUid 1 1000, .userDelete 1 false].map call) := by
  apply run_confined _ printable_files (fun _ => rfl) fun _ => rfl
  intro c mem
  obtain ⟨operation, -, rfl⟩ := List.mem_map.mp mem
  exact plainCrypt

end Sample

end Gumd
