import Gumd.GroupOutcomes

/-!
# Outcomes of the updates of a group and its members

Which entries the updates write, for an object with any history.
-/

namespace Gumd

open StateWp EntryLoop

/-! ## Rewritten entries -/

/-- The files with the first entry that has the gid and name of `entry` rewritten. -/
def Files.replaceGroup (f : Files) (entry new : Group) : Files :=
  { f with
    group := modifyFirst (fun e => entry.grGid = e.grGid ∧ entry.grName = e.grName)
      (fun _ => new) f.group }

/-- A rewrite of the group file that looks for an entry of the file replaces it by the object's
record. -/
theorem rewriteGroup_modify {g : GumdDaemonGroup} {f f' : Files} {entry : Group}
    {userData : Option Str} (gid : g.group.grGid = entry.grGid)
    (name : ∀ n, userData.or (ptr g.group.grName) = some n → n = entry.grName)
    (written : groupFile.rewrite (updateDaemonGroupEntry g .modify userData) f = .ok f') :
    ∃ new, g.group.putgrent = some new ∧ f' = f.replaceGroup entry new := by
  simp only [DbFile.rewrite, groupFile, updateDaemonGroupEntry_modify] at written
  split_ifs at written with picked
  · obtain ⟨e, -, same⟩ := List.any_eq_true.mp picked
    have oldName : userData.or (ptr g.group.grName) = some entry.grName := by
      have same := (of_decide_eq_true same).2
      rw [same, name _ same]
    cases put : g.group.putgrent with
    | none => simp [put, Except.map] at written
    | some new =>
      refine ⟨new, rfl, ?_⟩
      simpa [put, gid, oldName, Except.map, Files.replaceGroup, @eq_comm _ _ f'] using written
  · simp [Except.map] at written

/-- How the rewrites of `entry` and its gshadow entry from the object `g` can end. -/
inductive Rewritten (g : GumdDaemonGroup) (entry : Group) (second : Files → Except GError Files)
    (f : Files) : Bool → Files → Prop
  | neither : Rewritten g entry second f false f
  | groupOnly {new} : g.group.putgrent = some new →
      Rewritten g entry second f false (f.replaceGroup entry new)
  | both {new f'} : g.group.putgrent = some new → second (f.replaceGroup entry new) = .ok f' →
      Rewritten g entry second f true f'

/-- A rewrite of the gshadow file keeps the passwd and shadow files. -/
theorem rewriteGshadow_frame {callback : List Sgrp → Except GError (List Sgrp)} {f f' : Files}
    (written : Files.rewriteGshadow callback f = .ok f') :
    f'.passwd = f.passwd ∧ f'.shadow = f.shadow := by
  rcases Files.rewriteGshadow_ok written with ⟨-, rfl⟩ | ⟨entries, out, -, -, rfl⟩
  · exact ⟨rfl, rfl⟩
  · exact ⟨rfl, rfl⟩

/-- The rewrites of a group and its gshadow entry keep the other files. -/
theorem Rewritten.frame {g : GumdDaemonGroup} {f f' : Files} {entry : Group} {r : Bool}
    {second : Files → Except GError Files}
    (keeps : ∀ f₁ f₂, second f₁ = .ok f₂ → f₂.passwd = f₁.passwd ∧ f₂.shadow = f₁.shadow)
    (written : Rewritten g entry second f r f') :
    f'.passwd = f.passwd ∧ f'.shadow = f.shadow := by
  cases written with
  | neither => exact ⟨rfl, rfl⟩
  | groupOnly put => exact ⟨rfl, rfl⟩
  | both put later =>
    have frame := keeps _ _ later
    exact frame

theorem BothWritten.rewritten {calm : Prop} {g : GumdDaemonGroup} {f f' : Files} {entry : Group}
    {userData : Option Str} {second : Files → Except GError Files} {ok : Bool}
    (gid : g.group.grGid = entry.grGid)
    (name : ∀ n, userData.or (ptr g.group.grName) = some n → n = entry.grName)
    (written : BothWritten calm
      (groupFile.rewrite (updateDaemonGroupEntry g .modify userData)) second f ok f') :
    Rewritten g entry second f ok f' := by
  cases written with
  | neither why => exact .neither
  | one first why =>
    obtain ⟨new, put, rfl⟩ := rewriteGroup_modify gid name first
    exact .groupOnly put
  | both first second =>
    obtain ⟨new, put, rfl⟩ := rewriteGroup_modify gid name first
    exact .both put second

namespace GumdDaemonGroup

variable {s : St GumdDaemonGroup}

/-! ## Updating a group -/

/-- The entry an update rewrites. -/
structure Updating (g : GumdDaemonGroup) (f : Files) (entry : Group) : Prop where
  valid : g.group.grGid ≠ gumGroupInvalidGid
  found : f.getGroup g.group = some entry

/-- The entry has the gid of the object. -/
theorem Updating.gid {g : GumdDaemonGroup} {f : Files} {entry : Group}
    (updating : g.Updating f entry) : g.group.grGid = entry.grGid :=
  (GroupRecord.agrees_iff.mp (Files.getGroup_some updating.found).2).1.resolve_left updating.valid

/-- The secret of the object is a new one and can be encrypted. -/
structure Rekeys (g : GumdDaemonGroup) (env : Env) (entry : Group) (sg : Option Sgrp) : Prop where
  changed : ¬((ptr g.group.grPasswd).isNone ∨
    gStrcmp0 (ptr g.group.grPasswd) (some (str "x")) = 0 ∨
    sg.isSome ∧ gumCryptCmpSecret env.crypt (ptr g.group.grPasswd) (sg.map (·.sgPasswd)) = 0)
  encrypted : ((g.mergeEntries entry sg).newPasswd env).isSome = true

/-- The object an update writes. -/
def updated (g : GumdDaemonGroup) (env : Env) (entry : Group) (sg : Option Sgrp) :
    GumdDaemonGroup :=
  (g.mergeEntries entry sg).withSecret env

/-- How an update can end; `clear` says that the gshadow file can be read. -/
inductive Updated (clear : Prop) (g : GumdDaemonGroup) (env : Env) (f : Files) :
    Bool → Files → Prop
  | refused : Updated clear g env f false f
  | rewritten {entry sg r f'} : g.Updating f entry →
      Answer clear (f.getsgnam entry.grName) sg → g.Rekeys env entry sg →
      Rewritten (g.updated env entry sg) entry
        (Files.rewriteGshadow
          (updateGshadowEntry (g.updated env entry sg) .modify (some entry.grName))) f r f' →
      Updated clear g env f r f'

theorem grGid_updated (g : GumdDaemonGroup) (env : Env) (entry : Group) (sg : Option Sgrp) :
    (g.updated env entry sg).group.grGid = g.group.grGid := by
  simp only [updated, withSecret, mergeEntries]
  split_ifs <;> rfl

theorem grMem_updated (g : GumdDaemonGroup) (env : Env) (entry : Group) (sg : Option Sgrp) :
    (g.updated env entry sg).group.grMem = some (g.group.grMem.getD entry.grMem) := by
  simp only [updated, withSecret, mergeEntries]
  cases listed : g.group.grMem <;> split_ifs <;> simp_all [setGroupnameProperty]

theorem gshadow_updated (g : GumdDaemonGroup) (env : Env) (entry : Group) (sg : Option Sgrp) :
    (g.updated env entry sg).gshadow = { copyGshadowStruct sg true g.gshadow with
      sgPasswd := (g.mergeEntries entry sg).newPasswd env } := by
  simp only [updated, withSecret, mergeEntries]
  split_ifs <;> rfl

/-- The name an update writes is the entry's. -/
theorem eq_of_updated_name {g : GumdDaemonGroup} {env : Env} {entry : Group} {sg : Option Sgrp}
    {n : Str} (agrees : g.group.agrees entry = true)
    (name : ptr (g.updated env entry sg).group.grName = some n) : n = entry.grName := by
  have agrees := (GroupRecord.agrees_iff.mp agrees).2
  have written : (g.updated env entry sg).group.grName =
      if g.group.grName.isNone then setStringProperty (some entry.grName) g.group.grName
      else g.group.grName := by
    simp only [updated, withSecret, mergeEntries]
    split_ifs <;> rfl
  rw [written] at name
  split_ifs at name with unset
  · rw [ptr_setStringProperty_agreeing agrees] at name
    split_ifs at name
    exact (Option.some.inj name).symm
  · rcases agrees with missing | same
    · simp [missing] at unset
    · exact Option.some.inj (name.symm.trans same)

/-- What an update writes, where `sought` says which entries the searches find. -/
inductive Updates (g : GumdDaemonGroup) (env : Env) (sought : Group → Option Sgrp → Prop)
    (f : Files) : Bool → Files → Prop
  | refused : Updates g env sought f false f
  | rewritten {entry sg r f'} : sought entry sg → g.group.agrees entry = true →
      g.Rekeys env entry sg →
      Rewritten (g.updated env entry sg) entry
        (Files.rewriteGshadow
          (updateGshadowEntry (g.updated env entry sg) .modify (some entry.grName))) f r f' →
      Updates g env sought f r f'

/-- An update, whatever the searches for its entries answer. -/
theorem gumdDaemonGroupUpdate_updates {sought : Group → Option Sgrp → Prop}
    (seeks : s.self.group.grGid ≠ gumGroupInvalidGid →
      wp getGroup (fun r u => (∀ entry, r = some entry →
        s.self.group.agrees entry = true ∧
        wp (gumFileGetsgnam (some entry.grName)) (fun sg w => sought entry sg ∧ u.world.Quiet w)
          u.world) ∧
        u.self = s.self ∧ s.world.afterLock.Quiet u.world) ⟨s.self, s.world.afterLock⟩)
    (env : Env) :
    wp (gumdDaemonGroupUpdate env) (fun r t => s.world.Balanced t.world ∧
      Updates s.self env sought s.world.files r t.world.files) s := by
  refine wp_locked (fun denied t files => ?_) fun granted t self world => ?_
  · simp only [wp_liftM, wp_gumReturnWithError]
    exact ⟨.error _ _, .refused⟩
  have files : t.world.files = s.world.files := by rw [world, World.files_afterLock]
  simp only [wp_bind, wp_getSelf, wp_ite, self]
  refine ⟨fun invalid => unlockReturnWithError_spec _ (.refl _) ?_, fun valid => ?_⟩
  · rw [files]
    exact .refused
  have start : t = ⟨s.self, s.world.afterLock⟩ := by rw [← self, ← world]
  subst start
  refine wp_mono (seeks valid) ?_
  rintro r t₁ ⟨seek, self₁, quiet₁⟩
  have files₁ : t₁.world.files = s.world.files := quiet₁.files.trans files
  cases r with
  | none =>
    refine unlockReturn_spec quiet₁.balanced ?_
    rw [files₁]
    exact .refused
  | some entry =>
    obtain ⟨agrees, answers⟩ := seek entry rfl
    have own : s.self.group.grGid = entry.grGid :=
      (GroupRecord.agrees_iff.mp agrees).1.resolve_left valid
    rw [wp_bind, wp_liftM]
    refine wp_mono answers ?_
    rintro sg w ⟨answered, looked⟩
    have quiet₁ := quiet₁.trans looked
    simp only [wp_bind, wp_getSelf, wp_ite, wp_modifySelf, self₁]
    refine ⟨fun same => unlockReturnWithError_spec (s := ⟨s.self, s.world.afterLock⟩) _
      quiet₁.balanced ?_, fun changed => ?_⟩
    · rw [quiet₁.files, files]
      exact .refused
    refine wp_mono (wp_setSecret env) ?_
    rintro ok t₂ ⟨rfl, self₂, quiet₂⟩
    have quiet := quiet₁.trans quiet₂
    rw [wp_guard]
    refine ⟨fun failed => unlockReturn_spec (s := ⟨s.self, s.world.afterLock⟩)
      quiet.balanced ?_, fun done => ?_⟩
    · rw [quiet.files, files]
      exact .refused
    change t₂.self = s.self.updated env entry sg at self₂
    have gid : (s.self.updated env entry sg).group.grGid = entry.grGid :=
      (grGid_updated _ _ _ _).trans own
    refine wp_writeBoth (writesAs_updateGroupFile _ _ _) (writesAs_updateGshadowFile _ _ _)
      (fun t₃ self₃ balanced₃ written => ?_) fun t₃ self₃ balanced₃ written => ?_
    all_goals
      refine unlockReturn_spec (s := ⟨s.self, s.world.afterLock⟩)
        (quiet.balanced.trans balanced₃) (.rewritten answered agrees ⟨changed, done⟩ ?_)
      rw [self₂, quiet.files, files] at written
      exact written.rewritten gid (by simp)

/-- Every way `gumd_daemon_group_update` can end. -/
theorem gumdDaemonGroupUpdate_spec (readable : s.world.faults.read = .const true) (env : Env) :
    wp (gumdDaemonGroupUpdate env) (fun r t => s.world.Balanced t.world ∧
      Updated (s.world.faults.readShadow = .const true) s.self env s.world.files r t.world.files) s := by
  have readable₀ : s.world.afterLock.faults.read = .const true := by rwa [World.read_afterLock]
  refine wp_mono (@gumdDaemonGroupUpdate_updates s (fun entry sg =>
    s.self.Updating s.world.files entry ∧
      Answer (s.world.faults.readShadow = .const true) (s.world.files.getsgnam entry.grName) sg)
    (fun valid => ?_) env) ?_
  · refine wp_mono (@wp_getGroup ⟨s.self, s.world.afterLock⟩ readable₀) ?_
    rintro r u ⟨rfl, self, quiet⟩
    have files : u.world.files = s.world.files := by rw [quiet.files, World.files_afterLock]
    refine ⟨fun entry found => ?_, self, quiet⟩
    change s.world.afterLock.files.getGroup s.self.group = some entry at found
    rw [World.files_afterLock] at found
    refine ⟨(Files.getGroup_some found).2, wp_mono (gumFileGetsgnam_spec _ _) ?_⟩
    rintro sg w ⟨answer, looked⟩
    rw [files] at answer
    refine ⟨⟨⟨valid, found⟩, answer.mono fun clear => ?_⟩, looked.quiet⟩
    exact quiet.balanced.readShadow (by rwa [World.readShadow_afterLock])
  · rintro r t ⟨balanced, updates⟩
    refine ⟨balanced, ?_⟩
    generalize t.world.files = f' at updates
    cases updates with
    | refused => exact .refused
    | rewritten sought agrees rekeys written =>
      exact .rewritten sought.1 sought.2 rekeys written

/-! ## Members -/

/-- The gshadow entries an operation has looked up: the answer it decides by, and the one it has
copied to its object, which is looked up again if the first has failed. -/
structure Answers (clear : Prop) (f : Files) (entry : Group) (sg copied : Option Sgrp) : Prop where
  first : Answer clear (f.getsgnam entry.grName) sg
  same : sg.isSome → copied = sg
  again : sg = none → Answer clear (f.getsgnam entry.grName) copied

theorem Answers.copied_eq {clear : Prop} {f : Files} {entry : Group} {sg copied : Option Sgrp}
    (answers : Answers clear f entry sg copied) :
    Answer clear (f.getsgnam entry.grName) copied := by
  cases sg with
  | none => exact answers.again rfl
  | some sg => exact answers.same rfl ▸ answers.first

/-- The object `gumd_daemon_group_add_member` writes. -/
def joined (g : GumdDaemonGroup) (entry : Group) (sg copied : Option Sgrp) (name : Str)
    (addAsAdmin : Bool) : GumdDaemonGroup :=
  (g.copyGroupEntries entry copied).addMemberLists entry sg name addAsAdmin

/-- The object `gumd_daemon_group_delete_member` writes. -/
def parted (g : GumdDaemonGroup) (entry : Group) (sg copied : Option Sgrp) (name : Str) :
    GumdDaemonGroup :=
  (g.copyGroupEntries entry copied).deleteMemberLists entry sg name

section Key

variable (g : GumdDaemonGroup) (entry : Group) (sg copied : Option Sgrp) (name : Str)

theorem joined_key (addAsAdmin : Bool) :
    (g.joined entry sg copied name addAsAdmin).group.grGid = entry.grGid ∧
      (g.joined entry sg copied name addAsAdmin).group.grName =
        (g.copyGroupEntries entry copied).group.grName := by
  rw [joined, addMemberLists]
  split_ifs <;> exact ⟨rfl, rfl⟩

theorem grMem_joined (addAsAdmin : Bool) :
    (g.joined entry sg copied name addAsAdmin).group.grMem = some (entry.grMem ++ [name]) := by
  rw [joined, addMemberLists]
  split_ifs <;> rfl

theorem grMem_parted (g : GumdDaemonGroup) (entry : Group) (sg copied : Option Sgrp)
    (name : Str) : (g.parted entry sg copied name).group.grMem =
      gumStringUtilsDeleteString (some entry.grMem) (some name) := by
  rw [parted, deleteMemberLists]
  dsimp only
  split_ifs <;> rfl

theorem parted_key : (g.parted entry sg copied name).group.grGid = entry.grGid ∧
    (g.parted entry sg copied name).group.grName =
      (g.copyGroupEntries entry copied).group.grName := by
  rw [parted, deleteMemberLists]
  dsimp only
  split_ifs <;> exact ⟨rfl, rfl⟩

end Key

/-- How an addition of a member can end. -/
inductive MemberAdded (clear : Prop) (g : GumdDaemonGroup) (uid : UInt32) (addAsAdmin : Bool)
    (f : Files) : Bool → Files → Prop
  | refused : MemberAdded clear g uid addAsAdmin f false f
  | rewritten {pent entry sg copied r f'} : f.getpwuid uid = some pent →
      f.getGroup g.group = some entry → pent.pwName ∉ entry.grMem →
      Answers clear f entry sg copied →
      Rewritten (g.joined entry sg copied pent.pwName addAsAdmin) entry
        (fun f₁ => if sg.isSome then
          gshadowFile.rewrite
            (updateGshadowEntry (g.joined entry sg copied pent.pwName addAsAdmin) .modify none) f₁
          else .ok f₁) f r f' →
      MemberAdded clear g uid addAsAdmin f r f'

/-- The name of a loaded object is the entry's. -/
theorem eq_of_loaded_name {g : GumdDaemonGroup} {entry : Group} {n : Str}
    (sg : Option Sgrp) (agrees : g.group.agrees entry = true)
    (name : ptr (g.copyGroupEntries entry sg).group.grName = some n) : n = entry.grName := by
  rw [loaded_name agrees] at name
  split_ifs at name
  exact (Option.some.inj name).symm

/-- The end both membership operations share: the loaded object gets its new member lists and is
written to the files. -/
theorem wp_rewriteLoaded {g : GumdDaemonGroup} {f : Files} {entry : Group}
    {copied : Option Sgrp} {m₂ : GroupM Bool}
    {second : Files → Except GError Files} {lists : GumdDaemonGroup → GumdDaemonGroup}
    {P : Bool → Files → Prop} {t t₁ : St GumdDaemonGroup}
    (balanced : t.world.Balanced t₁.world) (self : t₁.self = g.copyGroupEntries entry copied)
    (files : t₁.world.files = f) (agrees : g.group.agrees entry = true)
    (key : (lists (g.copyGroupEntries entry copied)).group.grGid = entry.grGid ∧
      (lists (g.copyGroupEntries entry copied)).group.grName = (g.copyGroupEntries entry copied).group.grName)
    (writes : WritesAs (lists (g.copyGroupEntries entry copied)) m₂ second)
    (result : ∀ r f', Rewritten (lists (g.copyGroupEntries entry copied)) entry second f r f' → P r f') :
    wp (modifySelf lists >>= fun _ => updateGroupFile .modify none >>= fun ok =>
        if !ok then unlockReturn false
        else m₂ >>= fun ok => if !ok then unlockReturn false else unlockReturn true)
      (fun r u => t.world.Released u.world ∧ P r u.world.files) t₁ := by
  rw [wp_bind, wp_modifySelf, self]
  refine wp_writeBoth (writesAs_updateGroupFile _ _ _) writes
    (fun t₂ self₂ balanced₂ written => ?_) fun t₂ self₂ balanced₂ written => ?_
  all_goals
    refine unlockReturn_spec (balanced.trans balanced₂) (result _ _ ?_)
    rw [files] at written
    refine written.rewritten key.1 fun n named => eq_of_loaded_name copied agrees ?_
    rw [← key.2]
    exact named

/-- What an addition of a member to a group writes that was sought among the entries. -/
inductive MemberAdds (clear : Prop) (g : GumdDaemonGroup) (uid : UInt32) (addAsAdmin : Bool)
    (sought : Group → Prop) (f : Files) : Bool → Files → Prop
  | refused : MemberAdds clear g uid addAsAdmin sought f false f
  | rewritten {pent entry sg copied r f'} : f.getpwuid uid = some pent → sought entry →
      g.group.agrees entry = true → pent.pwName ∉ entry.grMem →
      Answers clear f entry sg copied →
      Rewritten (g.joined entry sg copied pent.pwName addAsAdmin) entry
        (fun f₁ => if sg.isSome then
          gshadowFile.rewrite
            (updateGshadowEntry (g.joined entry sg copied pent.pwName addAsAdmin) .modify none) f₁
          else .ok f₁) f r f' →
      MemberAdds clear g uid addAsAdmin sought f r f'

/-- An addition of a member, whatever the search for the group answers. -/
theorem gumdDaemonGroupAddMember_adds {sought : Group → Prop}
    (seeks : ∀ t : St GumdDaemonGroup, t.self = s.self → t.world.files = s.world.files →
      (s.world.faults.read = .const true → t.world.faults.read = .const true) →
      wp getGroup (fun r u => (∀ entry, r = some entry →
        sought entry ∧ t.self.group.agrees entry = true) ∧ u.self = t.self ∧
        t.world.Quiet u.world) t)
    (uid : UInt32) (addAsAdmin : Bool) :
    wp (gumdDaemonGroupAddMember uid addAsAdmin) (fun r t => s.world.Balanced t.world ∧
      MemberAdds (s.world.faults.readShadow = .const true) s.self uid addAsAdmin sought
        s.world.files r t.world.files) s := by
  refine wp_locked (fun denied t files => ?_) fun granted t self world => ?_
  · simp only [wp_liftM, wp_gumReturnWithError]
    exact ⟨.error _ _, .refused⟩
  have files : t.world.files = s.world.files := by rw [world, World.files_afterLock]
  rw [wp_bind, wp_liftM]
  refine wp_mono (gumFileGetpwuid_spec uid t.world) ?_
  rintro user w ⟨answer, quiet₀⟩
  rw [files] at answer
  have files₀ : w.files = s.world.files := quiet₀.files.trans files
  cases user with
  | none =>
    refine unlockReturnWithError_spec _ quiet₀.balanced ?_
    change MemberAdds _ _ _ _ _ _ _ w.files
    rw [files₀]
    exact .refused
  | some pent =>
    dsimp only
    rw [wp_bind]
    refine wp_mono (seeks ⟨t.self, w⟩ self files₀ fun readable => quiet₀.balanced.read
      (by rwa [world, World.read_afterLock])) ?_
    rintro r t₁ ⟨seek, self₁, quiet₁⟩
    replace quiet₁ := quiet₀.trans quiet₁
    have files₁ : t₁.world.files = s.world.files := quiet₁.files.trans files
    change t₁.self = t.self at self₁
    change ∀ entry, r = some entry → sought entry ∧ t.self.group.agrees entry = true at seek
    rw [self] at self₁ seek
    cases r with
    | none =>
      refine unlockReturn_spec quiet₁.balanced ?_
      rw [files₁]
      exact .refused
    | some entry =>
      obtain ⟨found, agrees⟩ := seek entry rfl
      have clear_of : s.world.faults.readShadow = .const true →
          t₁.world.faults.readShadow = .const true := fun clear => quiet₁.balanced.readShadow (by
        rwa [world, World.readShadow_afterLock])
      simp only [wp_ite]
      refine ⟨fun member => unlockReturnWithError_spec _ quiet₁.balanced ?_, fun new => ?_⟩
      · rw [files₁]
        exact .refused
      rw [wp_bind, wp_liftM]
      refine wp_mono (gumFileGetsgnam_spec _ _) ?_
      rintro sg w₂ ⟨first, looked⟩
      rw [wp_bind]
      refine wp_mono (wp_copyGroupData_some entry sg) ?_
      rintro ok t₂ ⟨rfl, ⟨copied, self₂, same, again⟩, quiet₂⟩
      have files₂ : t₂.world.files = s.world.files :=
        quiet₂.files.trans (looked.quiet.files.trans files₁)
      rw [self₁] at self₂
      rw [files₁] at first
      rw [looked.quiet.files, files₁] at again
      have answers : GumdDaemonGroup.Answers (s.world.faults.readShadow = .const true)
          s.world.files entry sg copied :=
        ⟨first.mono (clear_of ·), same, fun failed =>
          (again failed).mono fun clear => looked.quiet.balanced.readShadow (clear_of clear)⟩
      rw [wp_guard]
      refine ⟨by simp, fun _ => wp_rewriteLoaded
        (quiet₁.balanced.trans (looked.quiet.balanced.trans quiet₂.balanced)) self₂ files₂ agrees
        (joined_key _ _ _ _ _ _) (writesAs_updateGshadowFileIf _ _ _ _) fun r f' written => ?_⟩
      exact .rewritten answer.of_some found agrees (by simpa using new) answers written

/-- Every way `gumd_daemon_group_add_member` can end. -/
theorem gumdDaemonGroupAddMember_spec (readable : s.world.faults.read = .const true) (uid : UInt32)
    (addAsAdmin : Bool) :
    wp (gumdDaemonGroupAddMember uid addAsAdmin) (fun r t => s.world.Balanced t.world ∧
      MemberAdded (s.world.faults.readShadow = .const true) s.self uid addAsAdmin s.world.files r
        t.world.files) s := by
  refine wp_mono (@gumdDaemonGroupAddMember_adds s
    (fun entry => s.world.files.getGroup s.self.group = some entry)
    (fun t self files read => ?_) uid addAsAdmin) ?_
  · refine wp_mono (wp_getGroup (read readable)) ?_
    rintro r u ⟨rfl, self', quiet⟩
    refine ⟨fun entry found => ?_, self', quiet⟩
    rw [← files, ← self]
    exact ⟨found, (Files.getGroup_some found).2⟩
  · rintro r t ⟨balanced, added⟩
    refine ⟨balanced, ?_⟩
    generalize t.world.files = f' at added
    cases added with
    | refused => exact .refused
    | rewritten user found agrees new answers written =>
      exact .rewritten user found new answers written

/-- How a removal of a member can end. -/
inductive MemberDeleted (clear : Prop) (g : GumdDaemonGroup) (uid : UInt32) (f : Files) :
    Bool → Files → Prop
  | refused : MemberDeleted clear g uid f false f
  | rewritten {pent entry sg copied r f'} : f.getpwuid uid = some pent →
      f.getGroup g.group = some entry → pent.pwName ∈ entry.grMem →
      Answers clear f entry sg copied →
      Rewritten (g.parted entry sg copied pent.pwName) entry
        (Files.rewriteGshadow
          (updateGshadowEntry (g.parted entry sg copied pent.pwName) .modify none)) f r f' →
      MemberDeleted clear g uid f r f'

/-- Every way `gumd_daemon_group_delete_member` can end. -/
theorem gumdDaemonGroupDeleteMember_spec (readable : s.world.faults.read = .const true) (uid : UInt32) :
    wp (gumdDaemonGroupDeleteMember uid) (fun r t => s.world.Balanced t.world ∧
      MemberDeleted (s.world.faults.readShadow = .const true) s.self uid s.world.files r
        t.world.files) s := by
  refine wp_locked (fun denied t files => ?_) fun granted t self world => ?_
  · simp only [wp_liftM, wp_gumReturnWithError]
    exact ⟨.error _ _, .refused⟩
  have files : t.world.files = s.world.files := by rw [world, World.files_afterLock]
  have readable₀ : t.world.faults.read = .const true := by rwa [world, World.read_afterLock]
  simp only [wp_bind, wp_liftM, wp_gumFileGetpwuid readable₀, files]
  cases user : s.world.files.getpwuid uid with
  | none =>
    refine unlockReturnWithError_spec _ (.refl _) ?_
    rw [files]
    exact .refused
  | some pent =>
    dsimp only
    rw [wp_bind]
    refine wp_mono (wp_getGroup readable₀) ?_
    rintro r t₁ ⟨rfl, self₁, quiet₁⟩
    rw [self, files]
    rw [self] at self₁
    cases found : s.world.files.getGroup s.self.group with
    | none =>
      refine unlockReturn_spec quiet₁.balanced ?_
      rw [quiet₁.files, files]
      exact .refused
    | some entry =>
      have clear_of : s.world.faults.readShadow = .const true → t₁.world.faults.readShadow = .const true :=
        fun clear => quiet₁.balanced.readShadow (by
          change t.world.faults.readShadow = .const true
          rwa [world, World.readShadow_afterLock])
      simp only [↓wp_guard]
      refine ⟨fun other => unlockReturnWithError_spec _ quiet₁.balanced ?_, fun member => ?_⟩
      · rw [quiet₁.files, files]
        exact .refused
      rw [wp_bind, wp_liftM]
      refine wp_mono (gumFileGetsgnam_spec _ _) ?_
      rintro sg w ⟨first, looked⟩
      rw [wp_bind]
      refine wp_mono (wp_copyGroupData_some entry sg) ?_
      rintro ok t₂ ⟨rfl, ⟨copied, self₂, same, again⟩, quiet₂⟩
      have files₁ : t₁.world.files = s.world.files := quiet₁.files.trans files
      have files₂ : t₂.world.files = s.world.files :=
        quiet₂.files.trans (looked.quiet.files.trans files₁)
      rw [self₁] at self₂
      rw [files₁] at first
      rw [looked.quiet.files, files₁] at again
      have answers : GumdDaemonGroup.Answers (s.world.faults.readShadow = .const true) s.world.files entry sg
          copied :=
        ⟨first.mono (clear_of ·), same, fun failed =>
          (again failed).mono fun clear => looked.quiet.balanced.readShadow (clear_of clear)⟩
      rw [wp_guard]
      refine ⟨by simp, fun _ => wp_rewriteLoaded
        (quiet₁.balanced.trans (looked.quiet.balanced.trans quiet₂.balanced)) self₂ files₂ (Files.getGroup_some found).2
        (parted_key _ _ _ _ _) (writesAs_updateGshadowFile _ _ _) fun r f' written => ?_⟩
      exact .rewritten user found (by simpa using member) answers written

/-! ## What the group operations leave alone -/

section Frame

variable {g : GumdDaemonGroup} {f f' : Files} {clear : Prop} {r : Bool}

/-- An addition of a member keeps the passwd and shadow files. -/
theorem MemberAdded.frame {uid : UInt32} {addAsAdmin : Bool}
    (added : g.MemberAdded clear uid addAsAdmin f r f') :
    f'.passwd = f.passwd ∧ f'.shadow = f.shadow := by
  cases added with
  | refused => exact ⟨rfl, rfl⟩
  | rewritten user found absent answers written =>
    apply written.frame
    intro f₁ f₂ second
    split_ifs at second
    · exact rewriteGshadow_frame (Files.rewriteGshadow_of_rewrite second)
    · cases second
      exact ⟨rfl, rfl⟩

/-- A removal of a member keeps the passwd and shadow files. -/
theorem MemberDeleted.frame {uid : UInt32} (deleted : g.MemberDeleted clear uid f r f') :
    f'.passwd = f.passwd ∧ f'.shadow = f.shadow := by
  cases deleted with
  | refused => exact ⟨rfl, rfl⟩
  | rewritten user found member answers written =>
    apply written.frame
    intro f₁ f₂ second
    exact rewriteGshadow_frame second

/-- An update of a group keeps the passwd and shadow files. -/
theorem Updated.frame {env : Env} (updated : g.Updated clear env f r f') :
    f'.passwd = f.passwd ∧ f'.shadow = f.shadow := by
  cases updated with
  | refused => exact ⟨rfl, rfl⟩
  | rewritten updating answer rekeys written =>
    apply written.frame
    intro f₁ f₂ second
    exact rewriteGshadow_frame second

end Frame

end GumdDaemonGroup

/-! ## Removing a user from all groups -/

def Files.deleteGroupMember (name : Str) (f : Files) : Files :=
  { f with group := f.group.map (Group.deleteMember name) }

def Files.deleteGshadowMember (name : Str) (f : Files) : Files :=
  { f with gshadow := f.gshadow.map (List.map (Sgrp.deleteMember name)) }

theorem Files.deleteGshadowMember_of_none {f : Files} (absent : f.gshadow = none) (name : Str) :
    f.deleteGshadowMember name = f := by
  rw [Files.deleteGshadowMember, absent, Option.map_none, ← absent]

theorem Files.deleteGshadowMember_of_some {f : Files} {entries : List Sgrp}
    (present : f.gshadow = some entries) {name : Str} : f.deleteGshadowMember name =
      gshadowFile.rename (entries.map (Sgrp.deleteMember name)) f := by
  rw [Files.deleteGshadowMember, present]
  rfl

/-- How the removal of a user from all groups can end.  A failing rewrite of the group file does
not always keep the gshadow file from being rewritten. -/
inductive MembershipDeleted (calm : Prop) (name : Str) (f : Files) : Bool → Files → Prop
  | refused : (calm → ¬gumValidateName (some name) = .ok ()) →
      MembershipDeleted calm name f false f
  | failed {f'} : ¬calm →
      f' = f ∨ f' = f.deleteGroupMember name ∨ f' = f.deleteGshadowMember name →
      MembershipDeleted calm name f false f'
  | gshadowOnly : ¬calm → MembershipDeleted calm name f true (f.deleteGshadowMember name)
  | deleted : MembershipDeleted calm name f true
      ((f.deleteGroupMember name).deleteGshadowMember name)

theorem MembershipDeleted.mono {calm calm' : Prop} {name : Str} {f f' : Files} {r : Bool}
    (weaken : calm' → calm) (parted : MembershipDeleted calm name f r f') :
    MembershipDeleted calm' name f r f' := by
  cases parted with
  | refused why => exact .refused fun h => why (weaken h)
  | failed faulty result => exact .failed (fun h => faulty (weaken h)) result
  | gshadowOnly faulty => exact .gshadowOnly fun h => faulty (weaken h)
  | deleted => exact .deleted

/-- The removal of a user from all groups changes the group and gshadow files. -/
theorem MembershipDeleted.frame {calm : Prop} {name : Str} {f f' : Files} {r : Bool}
    (parted : MembershipDeleted calm name f r f') :
    f'.passwd = f.passwd ∧ f'.shadow = f.shadow := by
  cases parted with
  | refused why => exact ⟨rfl, rfl⟩
  | failed faulty result => rcases result with rfl | rfl | rfl <;> exact ⟨rfl, rfl⟩
  | gshadowOnly faulty => exact ⟨rfl, rfl⟩
  | deleted => exact ⟨rfl, rfl⟩

theorem MembershipDeleted.faulty {calm : Prop} {name : Str} {f f' : Files}
    (valid : gumValidateName (some name) = .ok ())
    (parted : MembershipDeleted calm name f false f') : ¬calm := by
  cases parted with
  | refused why => exact fun h => why h valid
  | failed faulty result => exact faulty

/-- A rewrite whose callback cannot fail. -/
theorem gumFileUpdate_map {ε : Type} (file : DbFile ε) {entries : List ε} {w : World}
    (present : file.entries w.files = some entries) (change : ε → ε) :
    wp (gumFileUpdate file fun entries => .ok (entries.map change)) (fun ok t =>
      w.Balanced t ∧ (ok = false ∧ t.files = w.files ∧ w.faults.write ≠ .const none ∨
        ok = true ∧ t.files = file.rename (entries.map change) w.files)) w := by
  refine wp_mono (gumFileUpdate_spec _ _ _) ?_
  rintro ok t ⟨balanced, written⟩
  simp only [DbFile.rewrite, present, Except.map] at written
  refine ⟨balanced, ?_⟩
  rcases written with ⟨rfl, same, why⟩ | ⟨rfl, result⟩
  · refine Or.inl ⟨rfl, same, fun writable => ?_⟩
    obtain ⟨e, failed⟩ := why writable
    cases failed
  · exact Or.inr ⟨rfl, (Except.ok.inj result).symm⟩

theorem gumdDaemonGroupDeleteUserMembership_spec (w : World) (name : Str) :
    wp (gumdDaemonGroupDeleteUserMembership (some name)) (fun r t => w.Balanced t ∧
      MembershipDeleted w.Calm name w.files r t.files) w := by
  rw [gumdDaemonGroupDeleteUserMembership]
  cases valid : gumValidateName (some name) with
  | error e => exact ⟨.of_same rfl rfl, .refused fun _ => by simp [valid]⟩
  | ok _ =>
    simp only [wp_bind, wp_gumLockPwdfLock, ↓wp_guard, wp_gumReturnWithError]
    refine ⟨fun denied => ?_, fun granted => ?_⟩
    · have balanced := (World.quiet_of_refused denied).balanced
      refine ⟨⟨balanced.read, balanced.readShadow, balanced.write, balanced.lockCount⟩, ?_⟩
      simp only [World.files_afterLock]
      exact .refused fun calm => by simp [calm.granted] at denied
    have calm_of : w.afterLock.faults.write ≠ .const none → ¬w.Calm := by
      rw [World.write_afterLock]
      exact fun faulty calm => faulty calm.write
    have ended : ∀ {u}, w.afterLock.Balanced u → w.Balanced u.afterUnlock := fun balanced =>
      World.balanced_of_released granted (balanced.released (World.released_afterUnlock _))
    simp only [wp_get]
    rw [wp_bind]
    refine wp_mono (gumFileUpdate_map groupFile rfl _) ?_
    rintro ok t ⟨balanced, written⟩
    rw [World.files_afterLock] at written
    simp only [wp_ite, wp_bind, wp_get, wp_gumLockPwdfUnlock, wp_pure]
    refine ⟨fun stop => ⟨ended balanced, ?_⟩, fun _ => ⟨fun absent => ⟨ended balanced, ?_⟩,
      fun present => ?_⟩⟩
    · rw [World.files_afterUnlock]
      rcases written with ⟨rfl, same, faulty⟩ | ⟨rfl, -⟩
      · exact .failed (calm_of faulty) (Or.inl same)
      · simp at stop
    · rw [World.files_afterUnlock]
      rcases written with ⟨rfl, same, faulty⟩ | ⟨rfl, same⟩
      · exact .failed (calm_of faulty) (Or.inl same)
      · have whole : t.files = (w.files.deleteGroupMember name).deleteGshadowMember name := by
          rw [← Files.deleteGshadowMember_of_none (Option.isNone_iff_eq_none.mp absent) name, same]
          rfl
        rw [whole]
        exact .deleted
    · obtain ⟨entries, present⟩ := Option.ne_none_iff_exists'.mp
        (mt Option.isNone_iff_eq_none.mpr present)
      refine wp_mono (gumFileUpdate_map gshadowFile present _) ?_
      rintro ok₂ u ⟨balanced₂, written₂⟩
      refine ⟨ended (balanced.trans balanced₂), ?_⟩
      change MembershipDeleted _ _ _ ok₂ u.afterUnlock.files
      rw [World.files_afterUnlock]
      rw [← Files.deleteGshadowMember_of_some present] at written₂
      rcases written with ⟨-, same, faulty⟩ | ⟨-, same⟩
      · rw [same] at written₂
        rcases written₂ with ⟨rfl, same₂, -⟩ | ⟨rfl, same₂⟩
        · exact .failed (calm_of faulty) (Or.inl same₂)
        · rw [same₂]
          exact .gshadowOnly (calm_of faulty)
      · rw [same] at written₂
        rcases written₂ with ⟨rfl, same₂, faulty⟩ | ⟨rfl, same₂⟩
        · exact .failed (calm_of fun writable => faulty (balanced.write writable))
            (Or.inr (Or.inl same₂))
        · rw [same₂]
          exact .deleted

end Gumd
