import Gumd.Pairing

/-!
# The two member lists of a group

The group and gshadow files hold the member list of a group once each.  An object may hold both lists
from earlier calls, so the lists of the files stay equal only with those of every object.
-/

namespace Gumd

open StateWp EntryLoop Pairs

/-! ## The lists in the files -/

/-- The group and gshadow files list the same groups, each with one member list. -/
structure Files.ListsAgree (f : Files) : Prop where
  paired : f.GroupsPaired
  members : ∀ e ∈ f.group, ∀ sg ∈ f.gshadow.getD [], sg.sgNamp = e.grName → sg.sgMem = e.grMem

/-- A search by gid that finds an entry whose name the validator rejects finds one of that name
afterwards. -/
def Files.KeepsUnnamed (f f' : Files) : Prop :=
  ∀ gid e, f.getgrgid gid = some e → ¬gumValidateName (some e.grName) = .ok () →
    ∃ e', f'.getgrgid gid = some e' ∧ e'.grName = e.grName

section Files

variable {f f' f'' : Files}

theorem Files.KeepsUnnamed.refl (f : Files) : f.KeepsUnnamed f :=
  fun _ e found _ => ⟨e, found, rfl⟩

theorem Files.KeepsUnnamed.trans (first : f.KeepsUnnamed f') (second : f'.KeepsUnnamed f'') :
    f.KeepsUnnamed f'' := by
  intro gid e found unnamed
  obtain ⟨e', found', named'⟩ := first gid e found unnamed
  obtain ⟨e'', found'', named''⟩ := second gid e' found' (by rwa [named'])
  exact ⟨e'', found'', named''.trans named'⟩

/-- The first entry of a gid is determined by the keys of the entries. -/
theorem getgrgid_of_keys (same : f'.group.map Group.key = f.group.map Group.key) {gid : UInt32}
    {e : Group} (found : f.getgrgid gid = some e) :
    ∃ e', f'.getgrgid gid = some e' ∧ e'.key = e.key := by
  have keys : ∀ l : List Group, (l.find? (·.grGid == gid)).map Group.key =
      (l.map Group.key).find? (·.gid == gid) := by
    intro l
    rw [List.find?_map]
    rfl
  have searched := congrArg (List.find? (·.gid == gid)) same
  rw [← keys, ← keys] at searched
  have found : f.group.find? (·.grGid == gid) = some e := found
  rw [found, Option.map_some] at searched
  obtain ⟨e', found', key⟩ := Option.map_eq_some_iff.mp searched
  exact ⟨e', found', key⟩

theorem Files.KeepsUnnamed.of_keys (same : f'.group.map Group.key = f.group.map Group.key) :
    f.KeepsUnnamed f' := by
  intro gid e found _
  obtain ⟨e', found', key⟩ := getgrgid_of_keys same found
  exact ⟨e', found', congrArg (·.name) key⟩

theorem Files.KeepsUnnamed.of_same (same : f'.group = f.group) : f.KeepsUnnamed f' :=
  .of_keys (congrArg (List.map Group.key) same)

theorem keepsUnnamed_insertGroup {new : Group} (free : f.getgrgid new.grGid = none) :
    f.KeepsUnnamed (f.insertGroup new) := by
  intro gid e found _
  refine ⟨e, ?_, rfl⟩
  have found : f.group.find? (·.grGid == gid) = some e := found
  have other : (new.grGid == gid) = false := by
    rw [beq_eq_false_iff_ne]
    rintro rfl
    exact absurd (free.symm.trans found) (by simp)
  obtain ⟨before, after, split, inserted⟩ := exists_insertFirst (new.grGid < ·.grGid) new f.group
  change (insertFirst (new.grGid < ·.grGid) new f.group).find? (·.grGid == gid) = some e
  rw [split, List.find?_append] at found
  rw [inserted, List.find?_append, List.find?_cons, other]
  exact found

/-- The entry of another group stays the first of its gid. -/
theorem keepsUnnamed_removeGroup {entry : Group}
    (valid : gumValidateName (some entry.grName) = .ok ()) :
    f.KeepsUnnamed (f.removeGroup entry) := by
  intro gid e found unnamed
  refine ⟨e, ?_, rfl⟩
  have found : f.group.find? (·.grGid == gid) = some e := found
  have kept : ¬(entry.grGid = e.grGid ∧ entry.grName = e.grName) := by
    rintro ⟨-, same⟩
    exact unnamed (same ▸ valid)
  change (f.group.eraseP fun e => entry.grGid = e.grGid ∧ entry.grName = e.grName).find?
    (·.grGid == gid) = some e
  generalize f.group = entries at found ⊢
  induction entries with
  | nil => cases found
  | cons x rest ih =>
    rw [List.find?_cons] at found
    rw [List.eraseP_cons]
    cases own : x.grGid == gid with
    | true =>
      rw [own] at found
      obtain rfl := Option.some.inj found
      rw [decide_eq_false kept, cond_false, List.find?_cons, own]
    | false =>
      rw [own] at found
      cases decide (entry.grGid = x.grGid ∧ entry.grName = x.grName) with
      | true => exact found
      | false =>
        rw [cond_false, List.find?_cons, own]
        exact ih found

/-! ## Rewrites of the lists -/

theorem Files.ListsAgree.of_same (agree : f.ListsAgree) (group : f'.group = f.group)
    (gshadow : f'.gshadow = f.gshadow) : f'.ListsAgree where
  paired := agree.paired.of_same group gshadow
  members := by
    rw [group, gshadow]
    exact agree.members

/-- A new group has one list. -/
theorem Files.ListsAgree.insert (agree : f.ListsAgree) {new : Group} {sg : Sgrp}
    (fresh : f.getgrnam new.grName = none) (named : sg.sgNamp = new.grName)
    (lists : sg.sgMem = new.grMem) : ((f.insertGroup new).appendGshadow sg).ListsAgree := by
  refine ⟨agree.paired.insert fresh named, ?_⟩
  obtain ⟨others, listed, same⟩ := agree.paired
  obtain ⟨entries, present, rfl⟩ := Option.map_eq_some_iff.mp listed
  have absent : ∀ e ∈ f.group, e.grName ≠ new.grName := by
    intro e mem taken
    exact List.find?_eq_none.mp fresh e mem (by simpa using taken)
  have absentGshadow : ∀ e ∈ entries, e.sgNamp ≠ new.grName := by
    intro e mem taken
    obtain ⟨g, inside, own⟩ := List.mem_map.mp ((same.same e.sgNamp).mpr (List.mem_map_of_mem mem))
    exact absent g inside (own.trans taken)
  intro e left s inside own
  have within : s ∈ entries ∨ s = sg := by
    simpa [Files.appendGshadow, Files.insertGroup, present] using inside
  rcases mem_insertFirst.mp left with rfl | before
  · rcases within with old | rfl
    · exact absurd own (absentGshadow s old)
    · exact lists
  · rcases within with old | rfl
    · exact agree.members e before s (by simpa [present] using old) own
    · exact absurd (own.symm.trans named) (absent e before)

/-- Entries that are left after a removal have the lists they had. -/
theorem Files.ListsAgree.remove (agree : f.ListsAgree) {g : GumdDaemonGroup} {entry : Group}
    (mem : entry ∈ f.group) (named : g.gshadow.sgNamp = some entry.grName)
    (written : Files.rewriteGshadow (updateGshadowEntry g .delete none) (f.removeGroup entry) =
      .ok f') : f'.ListsAgree := by
  obtain ⟨f₂, written', paired⟩ := agree.paired.remove mem named
  obtain rfl := Except.ok.inj (written'.symm.trans written)
  refine ⟨paired, ?_⟩
  rcases Files.rewriteGshadow_ok written with ⟨absent, rfl⟩ | ⟨entries, out, present, result, rfl⟩
  · obtain ⟨others, listed, -⟩ := paired
    rw [Files.gshadowNames, absent] at listed
    cases listed
  rw [updateGshadowEntry_delete] at result
  split_ifs at result
  obtain rfl := Except.ok.inj result
  intro e left sg inside own
  have present : f.gshadow = some entries := present
  refine agree.members e (List.mem_of_mem_eraseP left) sg ?_ own
  rw [present]
  exact List.mem_of_mem_eraseP inside

/-- Both entries of a group are replaced by entries with one list. -/
theorem Files.ListsAgree.replace (agree : f.ListsAgree) {g : GumdDaemonGroup} {entry new : Group}
    {newSg : Sgrp} {userData : Option Str} (mem : entry ∈ f.group)
    (name : new.grName = entry.grName) (gid : new.grGid = entry.grGid)
    (old : userData.or g.gshadow.sgNamp = some entry.grName)
    (put : g.gshadow.putsgent = some newSg) (named : newSg.sgNamp = entry.grName)
    (lists : newSg.sgMem = new.grMem) :
    ∃ f', Files.rewriteGshadow (updateGshadowEntry g .modify userData) (f.replaceGroup entry new) =
      .ok f' ∧ f'.ListsAgree := by
  obtain ⟨entries, present, sg, inside, same⟩ := agree.paired.hasGshadow_iff.mpr ⟨entry, mem, rfl⟩
  have here : (entries.any fun e => userData.or g.gshadow.sgNamp = some e.sgNamp) = true :=
    List.any_eq_true.mpr ⟨sg, inside, by simp [old, same]⟩
  have written : Files.rewriteGshadow (updateGshadowEntry g .modify userData)
      (f.replaceGroup entry new) = .ok { f.replaceGroup entry new with
        gshadow := some (modifyFirst (fun e => userData.or g.gshadow.sgNamp = some e.sgNamp)
          (fun _ => newSg) entries) } := by
    simp only [Files.rewriteGshadow, Files.replaceGroup, present, updateGshadowEntry_modify, here,
      if_true, put, Option.elim_some]
    rfl
  refine ⟨_, written, ?_⟩
  have paired := (agree.paired.of_accounts (accounts_replaceGroup name gid) rfl).of_accounts
    (accounts_rewriteGshadow written) <| gshadowNames_modify (fun other given => by
      obtain rfl := Option.some.inj (put.symm.trans given)
      rw [old, named]) written
  refine ⟨paired, ?_⟩
  obtain ⟨others, listed, unique⟩ := paired
  rw [Files.gshadowNames, Option.map_some, Option.some.injEq] at listed
  subst listed
  intro e left sg' inside' own
  -- names are unique, so the entries of the name are the new ones
  have group := mem_replaceFirst unique.nodup
    (List.any_eq_true.mpr ⟨entry, mem, by simp⟩) left
  have gshadow := mem_replaceFirst unique.othersNodup here inside'
  rw [name] at group
  rw [named] at gshadow
  rcases group with rfl | ⟨before, other⟩
  · rcases gshadow with rfl | ⟨-, other⟩
    · exact lists
    · exact absurd (own.trans name) other
  · rcases gshadow with rfl | ⟨before', -⟩
    · exact absurd (own.symm.trans named) other
    · exact agree.members e before sg' (by rwa [present]) own

theorem MembershipDeleted.listsAgree {calm : Prop} {name : Str} {r : Bool} (undisturbed : calm)
    (parted : MembershipDeleted calm name f r f') (agree : f.ListsAgree) : f'.ListsAgree := by
  have paired := parted.paired agree.paired
  cases parted with
  | refused why => exact agree
  | failed faulty result => exact absurd undisturbed faulty
  | gshadowOnly faulty => exact absurd undisturbed faulty
  | deleted =>
    refine ⟨paired, ?_⟩
    intro e left sg inside own
    obtain ⟨before, mem, rfl⟩ := List.mem_map.mp left
    obtain ⟨before', mem', rfl⟩ := Files.mem_deleteGshadowMember inside
    have same := agree.members before mem before' mem' own
    simp only [Sgrp.deleteMember, Group.deleteMember, same]

theorem MembershipDeleted.keepsUnnamed {calm : Prop} {name : Str} {r : Bool} (undisturbed : calm)
    (parted : MembershipDeleted calm name f r f') : f.KeepsUnnamed f' := by
  cases parted with
  | refused why => exact .refl f
  | failed faulty result => exact absurd undisturbed faulty
  | gshadowOnly faulty => exact absurd undisturbed faulty
  | deleted =>
    apply Files.KeepsUnnamed.of_keys
    change (f.group.map (Group.deleteMember name)).map Group.key = f.group.map Group.key
    rw [List.map_map]
    rfl

end Files

/-! ## The lists in the objects -/

/-- A group found without a name the validator accepts was found by its gid. -/
theorem getgrgid_of_unnamed {f : Files} {group : GroupRecord} {entry : Group}
    (found : f.getGroup group = some entry)
    (unnamed : ¬gumValidateName (some entry.grName) = .ok ()) :
    group.grName = none ∧ f.getgrgid entry.grGid = some entry := by
  obtain ⟨picked, agrees⟩ := Option.filter_eq_some_iff.mp found
  have nameless : group.grName = none := by
    rcases (GroupRecord.agrees_iff.mp agrees).2 with missing | same
    · exact missing
    · obtain ⟨name, -, own⟩ := Option.map_eq_some_iff.mp same
      exact absurd (own ▸ name.property) unnamed
  refine ⟨nameless, ?_⟩
  rw [nameless] at picked
  simp only [Option.isSome_none, Bool.false_eq_true, false_and, if_false] at picked
  split_ifs at picked with valid
  have own := List.find?_some picked
  rwa [← eq_of_beq own] at picked

namespace GumdDaemonGroup

/-- The object holds one member list, and its gshadow record is that of the group it finds. -/
structure Own (g : GumdDaemonGroup) (f : Files) : Prop where
  lists : g.gshadow.sgMem = g.group.grMem
  named : ∀ n, g.gshadow.sgNamp = some n → ptr g.group.grName = some n ∨
    g.group.grName = none ∧ ∃ e, f.getgrgid g.group.grGid = some e ∧ e.grName = n ∧
      ¬gumValidateName (some n) = .ok ()

/-- The object has the keys of the entry, its gshadow record too, and one member list. -/
structure Shows (g : GumdDaemonGroup) (entry : Group) : Prop where
  gid : g.group.grGid = entry.grGid
  name : ptr g.group.grName =
    if gumValidateName (some entry.grName) = .ok () then some entry.grName else none
  sgNamp : g.gshadow.sgNamp = some entry.grName
  lists : g.gshadow.sgMem = g.group.grMem

section Own

variable {g g' : GumdDaemonGroup} {env : Env} {f f' : Files} {entry : Group} {e : Sgrp}

theorem Own.mono (own : g.Own f) (keeps : f.KeepsUnnamed f') : g.Own f' where
  lists := own.lists
  named n given := by
    rcases own.named n given with same | ⟨nameless, e, found, rfl, unnamed⟩
    · exact Or.inl same
    · obtain ⟨e', found', named'⟩ := keeps _ e found unnamed
      exact Or.inr ⟨nameless, e', found', named', unnamed⟩

theorem Shows.own (shows : g'.Shows entry) (found : f.getGroup g.group = some entry) :
    g'.Own f where
  lists := shows.lists
  named n given := by
    obtain rfl := Option.some.inj (shows.sgNamp.symm.trans given)
    have name := shows.name
    split_ifs at name with valid
    · exact Or.inl name
    · refine Or.inr ⟨Option.map_eq_none_iff.mp name, entry, ?_, rfl, valid⟩
      rw [shows.gid]
      exact (getgrgid_of_unnamed found valid).2

theorem shows_copied (agrees : g.group.agrees entry = true) (named : e.sgNamp = entry.grName)
    (lists : e.sgMem = entry.grMem) : (g.copyGroupEntries entry (some e)).Shows entry where
  gid := rfl
  name := loaded_name agrees
  sgNamp := congrArg some named
  lists := congrArg some lists

theorem shows_joined (agrees : g.group.agrees entry = true) (named : e.sgNamp = entry.grName)
    (lists : e.sgMem = entry.grMem) (sg : Option Sgrp) (name : Str) (admin : Bool) :
    (g.joined entry sg (some e) name admin).Shows entry := by
  have copied := shows_copied agrees named lists
  obtain ⟨gid, key⟩ := joined_key g entry sg (some e) name admin
  refine ⟨gid, ?_, ?_, ?_⟩
  · rw [key]
    exact copied.name
  all_goals
    rw [joined, addMemberLists]
    split_ifs
  exacts [copied.sgNamp, copied.sgNamp, rfl, rfl]

theorem shows_parted (agrees : g.group.agrees entry = true) (named : e.sgNamp = entry.grName)
    (lists : e.sgMem = entry.grMem) (sg : Option Sgrp) (name : Str) :
    (g.parted entry sg (some e) name).Shows entry := by
  have copied := shows_copied agrees named lists
  obtain ⟨gid, key⟩ := parted_key g entry sg (some e) name
  refine ⟨gid, ?_, ?_, ?_⟩
  · rw [key]
    exact copied.name
  all_goals
    rw [parted, deleteMemberLists]
    dsimp only
    split_ifs
  exacts [copied.sgNamp, copied.sgNamp, rfl, rfl]

theorem name_updated (agrees : g.group.agrees entry = true) (env : Env) (sg : Option Sgrp) :
    ptr (g.updated env entry sg).group.grName =
      if gumValidateName (some entry.grName) = .ok () then some entry.grName else none := by
  have agrees := (GroupRecord.agrees_iff.mp agrees).2
  have written : (g.updated env entry sg).group.grName =
      if g.group.grName.isNone then setStringProperty (some entry.grName) g.group.grName
      else g.group.grName := by
    simp only [updated, withSecret, mergeEntries]
    split_ifs <;> rfl
  rw [written]
  split_ifs with unset valid valid
  · rw [ptr_setStringProperty_agreeing agrees, if_pos valid]
  · rw [ptr_setStringProperty_agreeing agrees, if_neg valid]
  · exact agrees.resolve_left (by simpa using unset)
  · have same := agrees.resolve_left (by simpa using unset)
    obtain ⟨name, -, own⟩ := Option.map_eq_some_iff.mp same
    exact absurd (own ▸ name.property) valid

/-- The object an update writes, with lists that were cached or copied from both entries. -/
theorem shows_updated (own : g.Own f) (updating : g.Updating f entry)
    (named : e.sgNamp = entry.grName) (lists : e.sgMem = entry.grMem) (env : Env) :
    (g.updated env entry (some e)).Shows entry := by
  have agrees := (Files.getGroup_some updating.found).2
  refine ⟨(grGid_updated _ _ _ _).trans updating.gid, name_updated agrees env _, ?_, ?_⟩
  · rw [gshadow_updated]
    cases unset : g.gshadow.sgNamp with
    | none => simp [copyGshadowStruct, unset, named]
    | some n =>
      simp only [copyGshadowStruct, unset, Option.isNone_some, Bool.not_true, Bool.or_self,
        Bool.false_eq_true, if_false, Option.some.injEq]
      rcases own.named n unset with same | ⟨nameless, e', found', rfl, unnamed⟩
      · rcases (GroupRecord.agrees_iff.mp agrees).2 with missing | same'
        · rw [missing] at same
          cases same
        · exact Option.some.inj (same.symm.trans same')
      · -- the update finds the group by its gid too
        have found := updating.found
        rw [Files.getGroup, nameless, if_pos updating.valid] at found
        have picked := (Option.filter_eq_some_iff.mp found).1
        simp only [Option.isSome_none, Bool.false_eq_true, false_and, if_false] at picked
        exact congrArg Group.grName (Option.some.inj (found'.symm.trans picked))
  · rw [gshadow_updated, grMem_updated, ← own.lists, ← lists]
    cases unset : g.gshadow.sgMem <;> simp [copyGshadowStruct, unset]

/-- The rewrites of both entries from such an object leave the files with one list for each
group. -/
theorem Shows.bothWritten {calm : Prop} {userData : Option Str} {r : Bool}
    {second : Files → Except GError Files} (shows : g.Shows entry) (undisturbed : calm)
    (agree : f.ListsAgree) (mem : entry ∈ f.group)
    (old : ∀ n, userData = some n → n = entry.grName)
    (same : ∀ f₁ : Files, f₁.gshadow = f.gshadow →
      second f₁ = Files.rewriteGshadow (updateGshadowEntry g .modify userData) f₁)
    (written : BothWritten calm (groupFile.rewrite (updateDaemonGroupEntry g .modify userData))
      second f r f') : f'.ListsAgree ∧ f.KeepsUnnamed f' := by
  have name : ∀ n, ptr g.group.grName = some n → n = entry.grName := by
    intro n given
    have own := shows.name
    rw [given] at own
    split_ifs at own
    exact Option.some.inj own
  have whole : ∀ f₁, groupFile.rewrite (updateDaemonGroupEntry g .modify userData) f = .ok f₁ →
      ∃ f₂, second f₁ = .ok f₂ ∧ f₂.ListsAgree ∧ f.KeepsUnnamed f₂ := by
    intro f₁ first
    have oldName : ∀ n, userData.or (ptr g.group.grName) = some n → n = entry.grName := by
      intro n given
      cases userData with
      | none => exact name n given
      | some m => exact Option.some.inj given ▸ old m rfl
    obtain ⟨new, put, rfl⟩ := rewriteGroup_modify shows.gid oldName first
    have keys : new.grName = entry.grName ∧ new.grGid = entry.grGid ∧
        new.grMem = g.group.grMem.getD [] := by
      obtain ⟨own, given, rfl⟩ := Option.map_eq_some_iff.mp put
      exact ⟨name own.val (by rw [given, ptr_some]), shows.gid, rfl⟩
    obtain ⟨ownName, ownGid, list⟩ := keys
    have record : g.gshadow.putsgent = some ⟨entry.grName, g.gshadow.sgPasswd.getD [],
        g.gshadow.sgAdm.getD [], g.gshadow.sgMem.getD []⟩ :=
      Option.map_eq_some_iff.mpr ⟨_, shows.sgNamp, rfl⟩
    have oldGshadow : userData.or g.gshadow.sgNamp = some entry.grName := by
      cases userData with
      | none => exact shows.sgNamp
      | some m => exact congrArg some (old m rfl)
    obtain ⟨f₂, rewritten, agree₂⟩ := agree.replace mem ownName ownGid oldGshadow record rfl
      ((congrArg (Option.getD · []) shows.lists).trans list.symm)
    refine ⟨f₂, (same (f.replaceGroup entry new) rfl).trans rewritten, agree₂, .of_keys ?_⟩
    have group : f₂.group = (f.replaceGroup entry new).group := by
      rcases Files.rewriteGshadow_ok rewritten with ⟨-, rfl⟩ | ⟨_, _, -, -, rfl⟩ <;> rfl
    rw [group]
    apply map_modifyFirst
    intro x picked
    obtain ⟨sameGid, sameName⟩ := of_decide_eq_true picked
    simp only [Group.key, ownName, ownGid, sameName, sameGid]
  cases written with
  | neither why => exact ⟨agree, .refl f⟩
  | one first why =>
    obtain ⟨f₂, written, -⟩ := whole _ first
    obtain ⟨e, failed⟩ := why undisturbed
    cases written.symm.trans failed
  | both first later =>
    obtain ⟨f₂, written, result⟩ := whole _ first
    obtain rfl := Except.ok.inj (written.symm.trans later)
    exact result

end Own

end GumdDaemonGroup

/-- The gshadow entry of a group of the group file. -/
theorem Files.ListsAgree.entry {f : Files} (agree : f.ListsAgree) {entry : Group}
    (mem : entry ∈ f.group) : ∃ e, f.getsgnam entry.grName = some e ∧ e.sgNamp = entry.grName ∧
      e.sgMem = entry.grMem := by
  obtain ⟨e, found, named⟩ := agree.paired.getsgnam mem
  have inside : e ∈ f.gshadow.getD [] := List.mem_of_find?_eq_some found
  exact ⟨e, found, named, agree.members entry mem e inside named⟩

/-! ## The operations of a group -/

/-- Every file can be read and written, and every group has one member list. -/
structure World.Tidy (w : World) : Prop where
  read : w.faults.read = .const true
  readShadow : w.faults.readShadow = .const true
  write : w.faults.write = .const none
  agree : w.files.ListsAgree

section Tidy

variable {w t : World}

theorem World.Tidy.balanced (tidy : w.Tidy) (balanced : w.Balanced t) (agree : t.files.ListsAgree) :
    t.Tidy :=
  ⟨balanced.read tidy.read, balanced.readShadow tidy.readShadow, balanced.write tidy.write, agree⟩

theorem World.Tidy.quiet (tidy : w.Tidy) (quiet : w.Quiet t) : t.Tidy :=
  tidy.balanced quiet.balanced (by rw [quiet.files]; exact tidy.agree)

theorem World.Tidy.afterLock (tidy : w.Tidy) : w.afterLock.Tidy where
  read := by rw [World.read_afterLock, tidy.read]
  readShadow := by rw [World.readShadow_afterLock, tidy.readShadow]
  write := by rw [World.write_afterLock, tidy.write]
  agree := by rw [World.files_afterLock]; exact tidy.agree

theorem World.Tidy.afterUnlock (tidy : w.Tidy) : w.afterUnlock.Tidy := by
  have released := w.released_afterUnlock
  refine ⟨released.read tidy.read, released.readShadow tidy.readShadow,
    released.write tidy.write, ?_⟩
  rw [World.files_afterUnlock]
  exact tidy.agree

/-- An undisturbed operation, once it has the lock. -/
theorem World.Tidy.calm (tidy : w.Tidy) (granted : w.lockGranted = true) : w.Calm :=
  ⟨granted, tidy.readShadow, tidy.write⟩

end Tidy

namespace GumdDaemonGroup

/-- The files have stayed tidy since they were `f`, and the object's lists agree with them. -/
structure Tidied (f : Files) (t : St GumdDaemonGroup) : Prop where
  tidy : t.world.Tidy
  keeps : f.KeepsUnnamed t.world.files
  own : t.self.Own t.world.files

section Tidied

variable {f : Files} {s t : St GumdDaemonGroup} {env : Env}

theorem Tidied.quiet (tidied : Tidied f s) (self : t.self = s.self)
    (quiet : s.world.Quiet t.world) : Tidied f t where
  tidy := tidied.tidy.quiet quiet
  keeps := by rw [quiet.files]; exact tidied.keeps
  own := by rw [quiet.files, self]; exact tidied.own

theorem Tidied.unlockReturn {α : Type} (tidied : Tidied f s) (retval : α) :
    wp (unlockReturn retval) (fun _ t => Tidied f t) s := by
  rw [wp_unlockReturn]
  refine ⟨tidied.tidy.afterUnlock, ?_, ?_⟩ <;> rw [World.files_afterUnlock]
  exacts [tidied.keeps, tidied.own]

theorem Tidied.unlockReturnWithError {α : Type} (tidied : Tidied f s) (e : GError) (retval : α) :
    wp (unlockReturnWithError e retval) (fun _ t => Tidied f t) s :=
  (tidied.unlockReturn retval).quiet rfl (.error _ _)

/-- The start of an operation. -/
theorem tidied_afterLock (tidy : s.world.Tidy) (own : s.self.Own s.world.files) :
    Tidied s.world.files ⟨s.self, s.world.afterLock⟩ where
  tidy := tidy.afterLock
  keeps := by
    rw [World.files_afterLock]
    exact .refl _
  own := by rwa [World.files_afterLock]

/-- The rewrites of both entries from an object that shows the entry it has found. -/
theorem Tidied.rewrite {g : GumdDaemonGroup} {entry : Group} {userData : Option Str} {r : Bool}
    {second : Files → Except GError Files} (tidied : Tidied f s) (shows : s.self.Shows entry)
    (found : s.world.files.getGroup g.group = some entry)
    (old : ∀ n, userData = some n → n = entry.grName)
    (same : ∀ f₁ : Files, f₁.gshadow = s.world.files.gshadow →
      second f₁ = Files.rewriteGshadow (updateGshadowEntry s.self .modify userData) f₁)
    (self : t.self = s.self) (balanced : s.world.Balanced t.world)
    (written : BothWritten (s.world.faults.write = .const none)
      (groupFile.rewrite (updateDaemonGroupEntry s.self .modify userData)) second s.world.files r
      t.world.files) : Tidied f t := by
  obtain ⟨agree, keeps⟩ := shows.bothWritten tidied.tidy.write tidied.tidy.agree
    (Files.getGroup_some found).1 old same written
  refine ⟨tidied.tidy.balanced balanced agree, tidied.keeps.trans keeps, ?_⟩
  rw [self]
  exact (shows.own found).mono keeps

theorem gumdDaemonGroupUpdate_tidied (tidy : s.world.Tidy) (own : s.self.Own s.world.files) :
    wp (gumdDaemonGroupUpdate env) (fun _ t => Tidied s.world.files t) s := by
  have start := tidied_afterLock tidy own
  rw [gumdDaemonGroupUpdate, wp_bind, wp_liftM, wp_gumLockPwdfLock, wp_guard]
  refine ⟨fun denied => start.quiet rfl (.error _ _), fun granted => ?_⟩
  rw [wp_bind, wp_getSelf, wp_ite]
  refine ⟨fun invalid => start.unlockReturnWithError _ _, fun valid => ?_⟩
  rw [wp_bind]
  refine wp_mono (wp_getGroup start.tidy.read) ?_
  rintro r t₁ ⟨rfl, self₁, quiet₁⟩
  have tidied₁ := start.quiet self₁ quiet₁
  change t₁.self = s.self at self₁
  cases found : s.world.afterLock.files.getGroup s.self.group with
  | none => exact tidied₁.unlockReturn _
  | some entry =>
    rw [World.files_afterLock] at found
    have files₁ : t₁.world.files = s.world.files := quiet₁.files.trans (World.files_afterLock _)
    have updating : s.self.Updating s.world.files entry := ⟨valid, found⟩
    obtain ⟨e, entryFound, named, lists⟩ := tidy.agree.entry (Files.getGroup_some found).1
    rw [wp_bind, wp_liftM]
    refine wp_mono (gumFileGetsgnam_spec _ _) ?_
    rintro sg w ⟨answer, looked⟩
    rw [files₁] at answer
    obtain rfl : sg = some e := (answer.eq tidied₁.tidy.readShadow).trans entryFound
    have tidied₂ : Tidied s.world.files ⟨t₁.self, w⟩ := tidied₁.quiet rfl looked.quiet
    simp only [wp_bind, wp_getSelf, wp_ite, wp_modifySelf, self₁]
    rw [self₁] at tidied₂
    refine ⟨fun same => tidied₂.unlockReturnWithError _ _, fun changed => ?_⟩
    refine wp_mono (wp_setSecret env) ?_
    rintro ok t₃ ⟨rfl, self₃, quiet₃⟩
    change t₃.self = s.self.updated env entry (some e) at self₃
    have shows : t₃.self.Shows entry := self₃ ▸ shows_updated own updating named lists env
    have files₃ : t₃.world.files = s.world.files :=
      quiet₃.files.trans (looked.quiet.files.trans files₁)
    have tidied₃ : Tidied s.world.files t₃ := by
      refine ⟨tidied₂.tidy.quiet quiet₃, ?_, ?_⟩ <;> rw [files₃]
      exacts [.refl _, shows.own found]
    rw [← files₃] at found
    rw [wp_guard]
    refine ⟨fun failed => tidied₃.unlockReturn _, fun done => ?_⟩
    refine wp_writeBoth (writesAs_updateGroupFile _ _ _) (writesAs_updateGshadowFile _ _ _)
      (fun t₄ self₄ balanced₄ written => ?_) fun t₄ self₄ balanced₄ written => ?_
    all_goals
      exact (tidied₃.rewrite shows found (fun n given => (Option.some.inj given).symm)
        (fun _ _ => rfl) self₄ balanced₄ written).unlockReturn _

/-- The end both membership operations share: the group's entries are looked up and copied, the object
gets its new lists and is written to the files. -/
theorem wp_rewriteMembers (lists : Option Sgrp → GumdDaemonGroup → GumdDaemonGroup)
    (m₂ : Option Sgrp → GroupM Bool) {entry : Group} {e : Sgrp}
    {second : Files → Except GError Files} (tidied : Tidied f s)
    (found : s.world.files.getGroup s.self.group = some entry)
    (entryFound : s.world.files.getsgnam entry.grName = some e)
    (shows : (lists (some e) (s.self.copyGroupEntries entry (some e))).Shows entry)
    (writes : WritesAs (lists (some e) (s.self.copyGroupEntries entry (some e))) (m₂ (some e))
      second)
    (same : ∀ f₁ : Files, f₁.gshadow = s.world.files.gshadow → second f₁ = Files.rewriteGshadow
      (updateGshadowEntry (lists (some e) (s.self.copyGroupEntries entry (some e))) .modify none)
      f₁) :
    wp (liftM (gumFileGetsgnam (some entry.grName)) >>= fun gshadow =>
        copyGroupData (some entry) gshadow >>= fun ok => if !ok then unlockReturn false else
        modifySelf (lists gshadow) >>= fun _ => updateGroupFile .modify none >>= fun ok =>
        if !ok then unlockReturn false
        else m₂ gshadow >>= fun ok => if !ok then unlockReturn false else unlockReturn true)
      (fun _ t => Tidied f t) s := by
  rw [wp_bind, wp_liftM]
  refine wp_mono (gumFileGetsgnam_spec _ _) ?_
  rintro sg w ⟨answer, looked⟩
  obtain rfl : sg = some e := (answer.eq tidied.tidy.readShadow).trans entryFound
  rw [wp_bind]
  refine wp_mono (wp_copyGroupData_some entry (some e)) ?_
  rintro ok t₁ ⟨rfl, ⟨copied, self₁, copiedEq, -⟩, quiet₁⟩
  obtain rfl := copiedEq rfl
  rw [wp_guard]
  refine ⟨by simp, fun _ => ?_⟩
  have quiet : s.world.Quiet t₁.world := looked.quiet.trans quiet₁
  rw [wp_bind, wp_modifySelf, self₁]
  have tidied₂ : Tidied f ⟨lists (some e) (s.self.copyGroupEntries entry (some e)), t₁.world⟩ := by
    refine ⟨tidied.tidy.quiet quiet, ?_, ?_⟩ <;> rw [quiet.files]
    exacts [tidied.keeps, shows.own found]
  rw [← quiet.files] at found same
  refine wp_writeBoth (writesAs_updateGroupFile _ _ _) writes
    (fun t₃ self₃ balanced₃ written => ?_) fun t₃ self₃ balanced₃ written => ?_
  all_goals
    exact (tidied₂.rewrite shows found (by simp) same self₃ balanced₃
      written).unlockReturn _

/-- A lookup of the operations keeps what is tidied. -/
theorem Tidied.looks {α : Type} {m : StateM World α} {rest : α → GroupM Bool} (looks : Looks m)
    (tidied : Tidied f s)
    (later : ∀ a t, t.self = s.self → s.world.Quiet t.world → Tidied f t →
      wp (rest a) (fun _ u => Tidied f u) t) :
    wp (liftM m >>= rest) (fun _ u => Tidied f u) s := by
  rw [wp_bind, wp_liftM]
  refine wp_mono (looks s.world) ?_
  exact fun a w quiet => later a ⟨s.self, w⟩ rfl quiet (tidied.quiet rfl quiet)

theorem gumdDaemonGroupAddMember_tidied (tidy : s.world.Tidy) (own : s.self.Own s.world.files)
    (uid : UInt32) (addAsAdmin : Bool) :
    wp (gumdDaemonGroupAddMember uid addAsAdmin) (fun _ t => Tidied s.world.files t) s := by
  have start := tidied_afterLock tidy own
  rw [gumdDaemonGroupAddMember, wp_bind, wp_liftM, wp_gumLockPwdfLock, wp_guard]
  refine ⟨fun denied => start.quiet rfl (.error _ _), fun granted => ?_⟩
  refine start.looks (looks_gumFileGetpwuid uid) fun user t self quiet tidied => ?_
  cases user with
  | none => exact tidied.unlockReturnWithError _ _
  | some pent =>
    dsimp only
    rw [wp_bind]
    refine wp_mono (wp_getGroup tidied.tidy.read) ?_
    rintro r t₁ ⟨rfl, self₁, quiet₁⟩
    have tidied₁ := tidied.quiet self₁ quiet₁
    cases found : t.world.files.getGroup t.self.group with
    | none => exact tidied₁.unlockReturn _
    | some entry =>
      rw [← quiet₁.files, ← self₁] at found
      obtain ⟨mem, agrees⟩ := Files.getGroup_some found
      obtain ⟨e, entryFound, named, lists⟩ := tidied₁.tidy.agree.entry mem
      rw [wp_ite]
      refine ⟨fun member => tidied₁.unlockReturnWithError _ _, fun new => ?_⟩
      refine wp_rewriteMembers (fun sg => addMemberLists entry sg pent.pwName addAsAdmin)
        (fun sg => updateGshadowFileIf sg.isSome .modify none) tidied₁ found entryFound
        (shows_joined agrees named lists _ _ _) (writesAs_updateGshadowFileIf _ _ _ _) ?_
      intro f₁ same
      obtain ⟨entries, present⟩ : ∃ entries, f₁.gshadow = some entries := by
        obtain ⟨_, listed, -⟩ := tidied₁.tidy.agree.paired
        obtain ⟨entries, present, -⟩ := Option.map_eq_some_iff.mp listed
        exact ⟨entries, same.trans present⟩
      exact (Files.rewriteGshadow_some present _).symm

theorem gumdDaemonGroupDeleteMember_tidied (tidy : s.world.Tidy)
    (own : s.self.Own s.world.files) (uid : UInt32) :
    wp (gumdDaemonGroupDeleteMember uid) (fun _ t => Tidied s.world.files t) s := by
  have start := tidied_afterLock tidy own
  rw [gumdDaemonGroupDeleteMember, wp_bind, wp_liftM, wp_gumLockPwdfLock, wp_guard]
  refine ⟨fun denied => start.quiet rfl (.error _ _), fun granted => ?_⟩
  refine start.looks (looks_gumFileGetpwuid uid) fun user t self quiet tidied => ?_
  cases user with
  | none => exact tidied.unlockReturnWithError _ _
  | some pent =>
    dsimp only
    rw [wp_bind]
    refine wp_mono (wp_getGroup tidied.tidy.read) ?_
    rintro r t₁ ⟨rfl, self₁, quiet₁⟩
    have tidied₁ := tidied.quiet self₁ quiet₁
    cases found : t.world.files.getGroup t.self.group with
    | none => exact tidied₁.unlockReturn _
    | some entry =>
      rw [← quiet₁.files, ← self₁] at found
      obtain ⟨mem, agrees⟩ := Files.getGroup_some found
      obtain ⟨e, entryFound, named, lists⟩ := tidied₁.tidy.agree.entry mem
      rw [wp_guard]
      refine ⟨fun other => tidied₁.unlockReturnWithError _ _, fun member => ?_⟩
      exact wp_rewriteMembers (fun sg => deleteMemberLists entry sg pent.pwName)
        (fun _ => updateGshadowFile .modify none) tidied₁ found entryFound
        (shows_parted agrees named lists _ _) (writesAs_updateGshadowFile _ _ _) fun _ _ => rfl

/-- The object a deletion has loaded. -/
theorem gumdDaemonGroupDelete_own (tidy : s.world.Tidy) (own : s.self.Own s.world.files) :
    wp (gumdDaemonGroupDelete env) (fun _ t => t.self.Own s.world.files) s := by
  rw [gumdDaemonGroupDelete, wp_bind, wp_liftM, wp_gumLockPwdfLock, wp_guard]
  refine ⟨fun denied => own, fun granted => ?_⟩
  rw [wp_bind, wp_getSelf, wp_ite]
  refine ⟨fun invalid => own, fun valid => ?_⟩
  rw [wp_bind]
  refine wp_mono (wp_copyGroupData tidy.afterLock.read) ?_
  rintro ok t ⟨loaded, quiet⟩
  have kept : t.self.Own s.world.files := by
    change Loaded _ s.world.afterLock.files s.self ok t.self at loaded
    rw [World.files_afterLock] at loaded
    generalize t.self = g at loaded ⊢
    cases loaded with
    | missing found => exact own
    | found found answer =>
      obtain ⟨mem, agrees⟩ := Files.getGroup_some found
      obtain ⟨e, entryFound, named, lists⟩ := tidy.agree.entry mem
      obtain rfl := (answer.eq tidy.afterLock.readShadow).trans entryFound
      exact (shows_copied agrees named lists).own found
  rw [wp_guard]
  refine ⟨fun _ => kept, fun _ => ?_⟩
  simp only [wp_bind, wp_getSelf, wp_ite, wp_liftM]
  refine ⟨fun _ => kept, fun _ => ?_⟩
  refine wp_mono (P := fun _ _ => True) trivial fun used w _ => ⟨fun _ => kept, fun _ => ?_⟩
  rw [← wp_bind]
  exact wp_writeBoth (writesAs_updateGroupFile _ _ _) (writesAs_updateGshadowFile _ _ _)
    (fun u self _ _ => by rw [wp_unlockReturn, self]; exact kept)
    fun u self _ _ => by rw [wp_unlockReturn, self]; exact kept

/-- An object with one name for both records. -/
theorem own_of_named {g : GumdDaemonGroup} (named : g.gshadow.sgNamp = ptr g.group.grName)
    (lists : g.gshadow.sgMem = g.group.grMem) (f : Files) : g.Own f :=
  ⟨lists, fun _ given => Or.inl (named.symm.trans given)⟩

theorem setGshadowData_own (lists : s.self.gshadow.sgMem = s.self.group.grMem) (f : Files) :
    wp (setGshadowData env) (fun _ t => t.self.Own f) s := by
  simp only [setGshadowData, wp_bind, wp_modifySelf]
  refine wp_mono (wp_setSecret env) ?_
  rintro ok t ⟨-, self, -⟩
  have named : t.self.gshadow.sgNamp = ptr t.self.group.grName := by
    rw [self]
    rfl
  rw [wp_guard]
  refine ⟨fun _ => own_of_named named ?_ f, fun _ => ?_⟩
  · rw [self]
    exact lists
  · rw [wp_bind, wp_modifySelf]
    exact @own_of_named { t.self with
      gshadow := { t.self.gshadow with sgMem := t.self.group.grMem } } named rfl f

/-- The object an addition leaves has one list, whether it has been added or not. -/
theorem gumdDaemonGroupAdd_own (tidy : s.world.Tidy) (own : s.self.Own s.world.files)
    (preferredGid : UInt32) :
    wp (gumdDaemonGroupAdd env preferredGid) (fun _ t => t.self.Own s.world.files) s := by
  simp only [gumdDaemonGroupAdd, checkGroupType, wp_bind, wp_getSelf]
  rw [wp_ite]
  refine ⟨fun type => ?_, fun other => own⟩
  rw [wp_pure, wp_guard]
  refine ⟨fun failed => (nomatch failed), fun _ => ?_⟩
  rw [wp_bind, wp_liftM, wp_gumLockPwdfLock, wp_guard]
  refine ⟨fun denied => own, fun granted => ?_⟩
  rw [wp_bind]
  refine wp_mono (wp_setGid tidy.afterLock.read _ _) ?_
  rintro ok t ⟨rfl, self, -⟩
  change t.self = (s.world.afterLock.files.allocGid _ _ s.self).elim s.self _ at self
  have lists : t.self.gshadow.sgMem = t.self.group.grMem := by
    rw [self]
    cases s.world.afterLock.files.allocGid _ _ s.self <;> exact own.lists
  rw [wp_guard]
  refine ⟨fun failed => ?_, fun _ => ?_⟩
  · have unchanged : t.self = s.self := by
      rw [self, Option.isSome_eq_false_iff.mp failed |> Option.isNone_iff_eq_none.mp]
      rfl
    rw [wp_unlockReturn, unchanged]
    exact own
  rw [wp_bind]
  refine wp_mono (setGshadowData_own lists s.world.files) ?_
  rintro ok u own₁
  rw [wp_guard]
  refine ⟨fun _ => own₁, fun _ => ?_⟩
  exact wp_writeBoth (writesAs_updateGroupFile _ _ _) (writesAs_updateGshadowFile _ _ _)
    (fun v self _ _ => by rw [wp_unlockReturn, self]; exact own₁)
    fun v self _ _ => by
      simp only [wp_bind, wp_getSelf, wp_unlockReturn, self]
      exact own₁

theorem Added.listsAgree {calm : Prop} {g : GumdDaemonGroup} {f f' : Files} {preferredGid : UInt32}
    {r : Option UInt32} (undisturbed : calm) (added : g.Added calm env preferredGid f r f')
    (agree : f.ListsAgree) : f'.ListsAgree ∧ f.KeepsUnnamed f' := by
  cases added with
  | refused why => exact ⟨agree, .refl f⟩
  | groupOnly addable why =>
    -- the entry in gshadow would belong to a group that is there already
    have free := (Addable.free addable).1
    obtain ⟨e, mem, named⟩ := agree.paired.hasGshadow_iff.mp (why undisturbed)
    exact absurd (List.find?_eq_none.mp free e mem) (by simp [named])
  | added addable fresh =>
    obtain ⟨freeName, freeGid⟩ := Addable.free addable
    exact ⟨agree.insert freeName rfl rfl,
      (keepsUnnamed_insertGroup freeGid).trans (.of_same rfl)⟩

theorem Deleted.listsAgree {calm : Prop} {g : GumdDaemonGroup} {f f' : Files} {r : Bool}
    (undisturbed : calm) (deleted : g.Deleted calm env f r f') (agree : f.ListsAgree) :
    f'.ListsAgree ∧ f.KeepsUnnamed f' := by
  have shown : ∀ {entry sg}, g.Found env f entry → (calm → sg = f.getsgnam entry.grName) →
      (g.copyGroupEntries entry sg).Shows entry := by
    intro entry sg fits answer
    obtain ⟨mem, agrees⟩ := Files.getGroup_some fits.found
    obtain ⟨e, found, named, lists⟩ := agree.entry mem
    obtain rfl := (answer undisturbed).trans found
    exact shows_copied agrees named lists
  cases deleted with
  | refused why => exact ⟨agree, .refl f⟩
  | kept fits used => exact ⟨agree, .refl f⟩
  | groupOnly fits unused valid answer why =>
    have mem := (Files.getGroup_some fits.found).1
    obtain ⟨f₂, written, -⟩ := agree.paired.remove mem (shown fits answer).sgNamp
    obtain ⟨e, failed⟩ := why undisturbed
    cases written.symm.trans failed
  | deleted fits unused valid answer written =>
    have mem := (Files.getGroup_some fits.found).1
    refine ⟨agree.remove mem (shown fits answer).sgNamp written, ?_⟩
    refine (keepsUnnamed_removeGroup valid).trans (.of_same ?_)
    rcases Files.rewriteGshadow_ok written with ⟨-, rfl⟩ | ⟨_, _, -, -, rfl⟩ <;> rfl

/-- An operation whose outcomes are known: it is refused the lock, or is not disturbed. -/
theorem tidied_of_outcome {α : Type} {m : GroupM α} {P : α → Files → Prop} (tidy : s.world.Tidy)
    (own : wp m (fun _ t => t.self.Own s.world.files) s)
    (spec : wp m (fun r t => s.world.Balanced t.world ∧ P r t.world.files) s)
    (refused : s.world.lockGranted = false → wp m (fun _ t => t.world.files = s.world.files) s)
    (outcome : s.world.Calm → ∀ r f', P r f' → f'.ListsAgree ∧ s.world.files.KeepsUnnamed f') :
    wp m (fun _ t => Tidied s.world.files t) s := by
  cases granted : s.world.lockGranted with
  | false =>
    refine wp_mono (wp_and own (wp_and spec (refused granted))) ?_
    rintro r t ⟨own₁, ⟨balanced, -⟩, files⟩
    refine ⟨tidy.balanced balanced (files ▸ tidy.agree), ?_, ?_⟩ <;> rw [files]
    exacts [.refl _, own₁]
  | true =>
    refine wp_mono (wp_and own spec) ?_
    rintro r t ⟨own₁, balanced, ends⟩
    obtain ⟨agree, keeps⟩ := outcome (tidy.calm granted) r t.world.files ends
    exact ⟨tidy.balanced balanced agree, keeps, own₁.mono keeps⟩

theorem gumdDaemonGroupAdd_tidied (tidy : s.world.Tidy) (own : s.self.Own s.world.files)
    (preferredGid : UInt32) :
    wp (gumdDaemonGroupAdd env preferredGid) (fun _ t => Tidied s.world.files t) s :=
  tidied_of_outcome tidy (gumdDaemonGroupAdd_own tidy own preferredGid)
    (gumdDaemonGroupAdd_spec tidy.read env preferredGid)
    (fun denied => gumdDaemonGroupAdd_refused denied env preferredGid)
    fun calm _ _ added => added.listsAgree calm tidy.agree

theorem gumdDaemonGroupDelete_tidied (tidy : s.world.Tidy) (own : s.self.Own s.world.files) :
    wp (gumdDaemonGroupDelete env) (fun _ t => Tidied s.world.files t) s :=
  tidied_of_outcome tidy (gumdDaemonGroupDelete_own tidy own)
    (gumdDaemonGroupDelete_spec tidy.read env) files_of_refused
    fun calm _ _ deleted => deleted.listsAgree calm tidy.agree

end Tidied

end GumdDaemonGroup

/-- The object a load delivers. -/
theorem loadGroup_own {w : World} (tidy : w.Tidy) (object : GumdDaemonGroup) :
    wp (loadGroup object) (fun r t => t.files = w.files ∧ ∀ g, r = some g → g.Own w.files) w := by
  simp only [loadGroup, wp_bind, wp_gumLockPwdfLock, ↓wp_guard, wp_pure]
  refine ⟨fun denied => ⟨w.files_afterLock, fun g given => by cases given⟩, fun granted => ?_⟩
  rw [wp_withNullError, wp_runOn]
  refine wp_mono (GumdDaemonGroup.wp_copyGroupData tidy.afterLock.read) ?_
  rintro copied t ⟨loaded, quiet⟩
  simp only [wp_bind, wp_gumLockPwdfUnlock, wp_pure, World.files_afterUnlock]
  refine ⟨quiet.files.trans w.files_afterLock, fun g given => ?_⟩
  cases copied with
  | false => cases given
  | true =>
    obtain rfl : t.self = g := Option.some.inj given
    change GumdDaemonGroup.Loaded _ w.afterLock.files object true t.self at loaded
    rw [World.files_afterLock] at loaded
    generalize t.self = g at loaded ⊢
    cases loaded with
    | found found answer =>
      obtain ⟨mem, agrees⟩ := Files.getGroup_some found
      obtain ⟨e, entryFound, named, lists⟩ := tidy.agree.entry mem
      obtain rfl := (answer.eq tidy.afterLock.readShadow).trans entryFound
      exact (GumdDaemonGroup.shows_copied agrees named lists).own found

/-- An object without a gshadow record. -/
theorem own_of_unnamed {g : GumdDaemonGroup} (unnamed : g.gshadow.sgNamp = none)
    (lists : g.gshadow.sgMem = g.group.grMem) (f : Files) : g.Own f :=
  ⟨lists, fun _ given => (nomatch unnamed.symm.trans given)⟩

/-! ## The operations of a user -/

/-- A tidy world stays tidy. -/
def World.Tidies (w t : World) : Prop := w.Tidy → t.Tidy ∧ w.files.KeepsUnnamed t.files

theorem tidies_of_same {w t : World} (balanced : w.Balanced t) (group : t.files.group = w.files.group)
    (gshadow : t.files.gshadow = w.files.gshadow) : w.Tidies t :=
  fun tidy => ⟨tidy.balanced balanced (tidy.agree.of_same group gshadow), .of_same group⟩

theorem tidies_of_quiet {w t : World} (quiet : w.Quiet t) : w.Tidies t :=
  tidies_of_same quiet.balanced (congrArg Files.group quiet.files)
    (congrArg Files.gshadow quiet.files)

namespace GumdDaemonUser

/-- The world of the user object stays tidy. -/
def KeepsTidy (s t : St GumdDaemonUser) : Prop := s.world.Tidies t.world

theorem frame_keepsTidy : Frame KeepsTidy where
  refl s tidy := ⟨tidy, .refl _⟩
  trans first second tidy := by
    obtain ⟨tidy₁, keeps₁⟩ := first tidy
    obtain ⟨tidy₂, keeps₂⟩ := second tidy₁
    exact ⟨tidy₂, keeps₁.trans keeps₂⟩

theorem keepsTidy_of_looks {α : Type} {m : StateM World α} (looks : Looks m) :
    Rewrites KeepsTidy (liftM m : UserM α) :=
  Rewrites.lift looks fun _ _ quiet => tidies_of_quiet quiet

theorem keepsTidy_unlockReturn {α : Type} (retval : α) :
    Rewrites KeepsTidy (unlockReturn retval : UserM α) := by
  intro s
  rw [wp_unlockReturn]
  intro tidy
  refine ⟨tidy.afterUnlock, ?_⟩
  rw [World.files_afterUnlock]
  exact .refl _

/-- A rewrite of a file other than group and gshadow. -/
theorem keepsTidy_of_writesAs {ε : Type} {m : UserM Bool} {file : DbFile ε} {s : St GumdDaemonUser}
    {callback : List ε → Except GError (List ε)}
    (other : ∀ out f, (file.rename out f).group = f.group ∧ (file.rename out f).gshadow = f.gshadow)
    (writes : WritesAs s.self m (file.rewrite callback)) : wp m (fun _ t => KeepsTidy s t) s := by
  refine wp_mono (writes s rfl) ?_
  rintro ok t ⟨-, balanced, ⟨-, same, -⟩ | ⟨-, written⟩⟩
  · exact tidies_of_same balanced (congrArg Files.group same) (congrArg Files.gshadow same)
  · obtain ⟨entries, out, -, -, changed⟩ := DbFile.rewrite_ok written
    obtain ⟨group, gshadow⟩ := other out s.world.files
    rw [← changed] at group gshadow
    exact tidies_of_same balanced group gshadow

/-- A step of an addition that must succeed. -/
theorem keepsTidy_orNone {α : Type} {m : UserM Bool} {rest : UserM (Option α)}
    (step : Rewrites KeepsTidy m) (continues : Rewrites KeepsTidy rest) :
    Rewrites KeepsTidy (m >>= fun ok => if !ok then unlockReturn none else rest) := by
  apply Rewrites.bind frame_keepsTidy step
  intro ok
  exact .ite (fun _ => keepsTidy_unlockReturn _) fun _ => continues

theorem keepsTidy_setGroup (env : Env) : Rewrites KeepsTidy (setGroup env) := by
  apply Rewrites.bind frame_keepsTidy (rewrites_getSelf frame_keepsTidy)
  intro self
  apply Rewrites.bind frame_keepsTidy (keepsTidy_of_looks (looks_gumFileGetgrnam _))
  intro found
  cases found with
  | some grp =>
    apply Rewrites.bind frame_keepsTidy
    · exact fun s tidy => ⟨tidy, .refl _⟩
    · exact fun _ => .pure frame_keepsTidy _
  | none =>
    apply Rewrites.bind frame_keepsTidy
    · intro s
      rw [wp_liftM, wp_runOn]
      intro tidy
      have added := @GumdDaemonGroup.gumdDaemonGroupAdd_tidied
        ⟨self.primaryGroup env.config, s.world⟩ env tidy (own_of_unnamed rfl rfl _) self.pw.pwUid
      exact ⟨added.tidy, added.keeps⟩
    · rintro ⟨added, group⟩
      cases added with
      | none => exact .pure frame_keepsTidy _
      | some gid =>
        apply Rewrites.bind frame_keepsTidy
        · exact fun s tidy => ⟨tidy, .refl _⟩
        · exact fun _ => .pure frame_keepsTidy _

theorem joinGroups_tidies (uid : UInt32) (added : Bool) (names : List Str) (w : World) :
    wp (joinGroups uid added names) (fun _ t => w.Tidies t) w := by
  induction names generalizing w added with
  | nil => exact tidies_of_quiet (.refl w)
  | cons name rest ih =>
    rw [joinGroups, wp_bind, wp_runOn]
    intro tidy
    have own : (gumdDaemonGroupNew.setGroupnameProperty (some name)).Own w.files :=
      own_of_unnamed rfl rfl _
    have joined := @GumdDaemonGroup.gumdDaemonGroupAddMember_tidied
      ⟨gumdDaemonGroupNew.setGroupnameProperty (some name), w⟩ tidy own uid false
    obtain ⟨tidy', keeps⟩ := ih _ _ joined.tidy
    exact ⟨tidy', joined.keeps.trans keeps⟩

theorem keepsTidy_gumdDaemonUserAdd (env : Env) : Rewrites KeepsTidy (gumdDaemonUserAdd env) := by
  apply Rewrites.bind frame_keepsTidy (rewrites_getSelf frame_keepsTidy)
  intro self
  apply Rewrites.ite
  · exact fun _ => .bind frame_keepsTidy (keepsTidy_of_looks (looks_gumReturnWithError _ _))
      fun _ => .pure frame_keepsTidy _
  intro _
  apply Rewrites.bind frame_keepsTidy
  · exact fun s tidy => ⟨tidy, .refl _⟩
  intro _
  apply Rewrites.bind frame_keepsTidy
  · intro s
    rw [wp_liftM, wp_gumLockPwdfLock]
    exact fun tidy => ⟨tidy.afterLock, .of_same (congrArg Files.group (World.files_afterLock _))⟩
  intro granted
  apply Rewrites.ite
  · exact fun _ => .bind frame_keepsTidy (keepsTidy_of_looks (looks_gumReturnWithError _ _))
      fun _ => .pure frame_keepsTidy _
  intro _
  apply keepsTidy_orNone
  · exact fun s => wp_mono (setUid_identified env) fun _ _ spec => tidies_of_quiet spec.1.2
  apply keepsTidy_orNone (keepsTidy_setGroup env)
  apply keepsTidy_orNone
  · exact fun s => wp_mono (wp_setShadowData env) fun _ _ spec => tidies_of_quiet spec.2.2
  apply keepsTidy_orNone
  · exact fun s => keepsTidy_of_writesAs (fun _ _ => ⟨rfl, rfl⟩) (writesAs_updatePasswdFile _ _ _)
  apply keepsTidy_orNone
  · exact fun s => keepsTidy_of_writesAs (fun _ _ => ⟨rfl, rfl⟩) (writesAs_updateShadowFile _ _ _)
  apply Rewrites.bind frame_keepsTidy
  · exact fun s => wp_mono (wp_addUserinfo _) fun _ _ spec =>
      tidies_of_same spec.2.1 spec.2.2.group spec.2.2.gshadow
  intro _
  apply Rewrites.bind frame_keepsTidy
  · intro s
    simp only [setDefaultGroups, wp_bind, wp_getSelf, wp_ite, wp_pure, wp_liftM]
    exact ⟨fun _ => tidies_of_quiet (.refl _), fun _ => joinGroups_tidies _ _ _ _⟩
  intro _
  apply keepsTidy_orNone
  · exact fun s => wp_mono (wp_createHomeDir env) fun _ _ spec => tidies_of_quiet spec.2.2
  apply Rewrites.bind frame_keepsTidy (rewrites_getSelf frame_keepsTidy)
  exact fun _ => keepsTidy_unlockReturn _

end GumdDaemonUser

/-! ## Runs -/

/-- The files have one member list for each group, and every object agrees with them. -/
structure System.Tidy (s : System) : Prop where
  agree : s.files.ListsAgree
  own : ∀ i, (s.groups i).Own s.files

/-- Every file can be read and written during the call, and no gid or name is given to a group object
that has a gshadow record already. -/
def Call.KeepsLists (s : System) (c : Call) : Prop :=
  c.Readable ∧ c.Clear ∧ c.faults.write = .const none ∧
    match c.operation with
    | .groupSet i (.gid _) | .groupSet i (.groupname _) => (s.groups i).gshadow.sgNamp = none
    | _ => True

section Step

variable {s : System} {c : Call}

/-- A call of a user object keeps the group objects. -/
theorem System.Tidy.runUser {α : Type} {m : UserM α} (tidy : s.Tidy) (world : (s.world c).Tidy)
    (i : Nat) (spec : wp m (fun _ t => (s.world c).Tidies t.world) ⟨s.users i, s.world c⟩) :
    (s.runUser c i m).2.Tidy := by
  obtain ⟨tidy', keeps⟩ := spec world
  exact ⟨tidy'.agree, fun j => (tidy.own j).mono keeps⟩

theorem System.Tidy.runGroup {α : Type} {m : GroupM α} (tidy : s.Tidy) (i : Nat)
    (spec : wp m (fun _ t => GumdDaemonGroup.Tidied s.files t) ⟨s.groups i, s.world c⟩) :
    (s.runGroup c i m).2.Tidy := by
  refine ⟨spec.tidy.agree, fun j => ?_⟩
  change (Function.update s.groups i _ j).Own _
  by_cases same : j = i
  · rw [same, Function.update_self]
    exact spec.own
  · rw [Function.update_of_ne same]
    exact (tidy.own j).mono spec.keeps

theorem System.Tidy.setGroup (tidy : s.Tidy) (i : Nat) {g : GumdDaemonGroup} (own : g.Own s.files) :
    System.Tidy { s with groups := Function.update s.groups i g } := by
  refine ⟨tidy.agree, fun j => ?_⟩
  change (Function.update s.groups i g j).Own s.files
  by_cases same : j = i
  · rwa [same, Function.update_self]
  · rw [Function.update_of_ne same]
    exact tidy.own j

theorem System.Tidy.of_files {s' : System} (tidy : s.Tidy) (files : s'.files = s.files)
    (groups : s'.groups = s.groups) : s'.Tidy := by
  refine ⟨files ▸ tidy.agree, fun j => ?_⟩
  rw [groups, files]
  exact tidy.own j

theorem System.Tidy.loadUser {m : StateM World (Option GumdDaemonUser)} (tidy : s.Tidy) (i : Nat)
    (spec : wp m (fun _ t => t.files = s.files) (s.world c)) : (s.loadUser c i m).2.Tidy :=
  tidy.of_files spec rfl

theorem System.Tidy.loadGroup (tidy : s.Tidy) (world : (s.world c).Tidy) (i : Nat)
    (object : GumdDaemonGroup) : (s.loadGroup c i (Gumd.loadGroup object)).2.Tidy := by
  obtain ⟨files, own⟩ := loadGroup_own world object
  have loaded : (((Gumd.loadGroup object).run (s.world c)).1.getD (s.groups i)).Own s.files := by
    cases result : ((Gumd.loadGroup object).run (s.world c)).1 with
    | none => exact tidy.own i
    | some g => exact own g result
  exact (tidy.setGroup i loaded).of_files files rfl

theorem UserDeleted.listsAgree {calm : Prop} {u : GumdDaemonUser} {env : Env} {f f' : Files}
    {rem r : Bool} {euid : UInt32} (undisturbed : calm)
    (deleted : u.UserDeleted calm env rem euid f r f') (agree : f.ListsAgree) :
    f'.ListsAgree ∧ f.KeepsUnnamed f' := by
  have removed : ∀ {name : ValidName} {pent : Passwd} {f₁ f₂ : Files} {r : Bool},
      (f.lockShadow name.val true).SameDb f₁ →
      GumdDaemonGroup.Deleted calm (GumdDaemonUser.doomedGroup pent) env
        ((f₁.removePasswd pent).removeShadow name.val) r f₂ →
      f₂.ListsAgree ∧ f.KeepsUnnamed f₂ := by
    intro name pent f₁ f₂ r same deleted
    obtain ⟨agree', keeps⟩ := deleted.listsAgree undisturbed (agree.of_same same.group same.gshadow)
    exact ⟨agree', (Files.KeepsUnnamed.of_same same.group).trans keeps⟩
  cases deleted with
  | refused why => exact ⟨agree, .refl f⟩
  | survived located alive result =>
    rcases result with rfl | ⟨faulty, -⟩
    · exact ⟨agree.of_same rfl rfl, .of_same rfl⟩
    · exact absurd undisturbed faulty
  | interrupted faulty located terminated same after undone => exact absurd undisturbed faulty
  | noGroup located terminated same deleted => exact removed same deleted
  | memberships faulty located terminated same deleted parted => exact absurd undisturbed faulty
  | ended located terminated same deleted parted =>
    obtain ⟨agree', keeps⟩ := removed same deleted
    exact ⟨parted.listsAgree undisturbed agree', keeps.trans (parted.keepsUnnamed undisturbed)⟩

theorem tidy_step (keeps : c.KeepsLists s) (tidy : s.Tidy) : (s.step c).Tidy := by
  obtain ⟨readable, clear, writable, keeps⟩ := keeps
  have world : (s.world c).Tidy := ⟨readable, clear, writable, tidy.agree⟩
  have readable' : (s.world c).faults.read = .const true := readable
  rw [System.step, System.call]
  cases op : c.operation with
  | userNew i => exact tidy.of_files rfl rfl
  | userSet i property => exact tidy.of_files rfl rfl
  | userNewByUid i uid => exact tidy.loadUser i (loadUser_spec readable' c.env _)
  | userNewByName i username =>
    cases username with
    | none => exact tidy.of_files rfl rfl
    | some name => exact tidy.loadUser i (loadUser_spec readable' c.env _)
  | userAdd i =>
    have spec := GumdDaemonUser.keepsTidy_gumdDaemonUserAdd c.env ⟨s.users i, s.world c⟩
    exact tidy.runUser world i spec
  | userUpdate i =>
    have spec := @GumdDaemonUser.gumdDaemonUserUpdate_spec ⟨s.users i, s.world c⟩ readable' c.env
    apply tidy.runUser world i
    refine wp_mono spec ?_
    rintro r t ⟨balanced, updated⟩
    exact tidies_of_same balanced updated.frame.1 updated.frame.2
  | userDelete i rem =>
    have spec := @GumdDaemonUser.gumdDaemonUserDelete_spec ⟨s.users i, s.world c⟩ readable' c.env
      rem
    apply tidy.runUser world i
    cases granted : (s.world c).lockGranted with
    | false =>
      have refused : wp (GumdDaemonUser.gumdDaemonUserDelete c.env rem)
          (fun _ t => t.world.files = s.files) ⟨s.users i, s.world c⟩ :=
        @Gumd.files_of_refused _ _ _ _ _ ⟨s.users i, s.world c⟩ granted
      refine wp_mono (wp_and spec refused) ?_
      rintro r t ⟨⟨balanced, -⟩, files⟩
      exact tidies_of_same balanced (congrArg Files.group files) (congrArg Files.gshadow files)
    | true =>
      refine wp_mono spec ?_
      rintro r t ⟨balanced, deleted⟩ -
      obtain ⟨agree, keeps⟩ := UserDeleted.listsAgree (world.calm granted) deleted tidy.agree
      exact ⟨world.balanced balanced agree, keeps⟩
  | groupNew i => exact tidy.setGroup i (own_of_unnamed rfl rfl _)
  | groupNewByGid i gid => exact tidy.loadGroup world i _
  | groupNewByName i groupname =>
    cases groupname with
    | none => exact tidy.setGroup i (tidy.own i)
    | some name => exact tidy.loadGroup world i _
  | groupSet i property =>
    rw [op] at keeps
    apply tidy.setGroup i
    have own := tidy.own i
    cases property with
    | gid value =>
      exact @own_of_unnamed ((s.groups i).setGidProperty value) keeps own.lists _
    | groupname value =>
      exact @own_of_unnamed ((s.groups i).setGroupnameProperty value) keeps own.lists _
    | grouptype value => exact ⟨own.lists, own.named⟩
    | secret value => exact ⟨own.lists, own.named⟩
  | groupAdd i preferredGid =>
    have spec := @GumdDaemonGroup.gumdDaemonGroupAdd_tidied ⟨s.groups i, s.world c⟩ c.env world
      (tidy.own i) preferredGid
    exact tidy.runGroup i spec
  | groupUpdate i =>
    have spec := @GumdDaemonGroup.gumdDaemonGroupUpdate_tidied ⟨s.groups i, s.world c⟩ c.env world
      (tidy.own i)
    exact tidy.runGroup i spec
  | groupDelete i =>
    have spec := @GumdDaemonGroup.gumdDaemonGroupDelete_tidied ⟨s.groups i, s.world c⟩ c.env world
      (tidy.own i)
    exact tidy.runGroup i spec
  | groupAddMember i uid admin =>
    have spec := @GumdDaemonGroup.gumdDaemonGroupAddMember_tidied ⟨s.groups i, s.world c⟩ world
      (tidy.own i) uid admin
    exact tidy.runGroup i spec
  | groupDeleteMember i uid =>
    have spec := @GumdDaemonGroup.gumdDaemonGroupDeleteMember_tidied ⟨s.groups i, s.world c⟩ world
      (tidy.own i) uid
    exact tidy.runGroup i spec
  | deleteUserMembership userName =>
    cases granted : (s.world c).lockGranted with
    | false =>
      exact tidy.of_files (gumdDaemonGroupDeleteUserMembership_refused granted userName) rfl
    | true =>
      cases userName with
      | none => exact tidy.of_files rfl rfl
      | some name =>
        obtain ⟨-, parted⟩ := gumdDaemonGroupDeleteUserMembership_spec (s.world c) name
        exact ⟨parted.listsAgree (world.calm granted) tidy.agree,
          fun j => (tidy.own j).mono (parted.keepsUnnamed (world.calm granted))⟩

/-- Every group keeps one member list over every run of such calls. -/
theorem run_listsAgree {s : System} {calls : List Call}
    (each : System.Each Call.KeepsLists s calls) (start : s.files.ListsAgree)
    (fresh : ∀ i, s.groups i = gumdDaemonGroupNew) : (s.run calls).files.ListsAgree := by
  have tidy : s.Tidy := ⟨start, fun i => by rw [fresh i]; exact own_of_unnamed rfl rfl _⟩
  clear start fresh
  induction calls generalizing s with
  | nil => exact tidy.agree
  | cons c rest ih => exact ih each.2 (tidy_step each.1 tidy)

end Step

namespace Sample

/-- The paired files, with new group objects. -/
def newGroupsSystem : System := { pairedSystem with groups := fun _ => gumdDaemonGroupNew }

theorem listsAgree_newGroupsSystem : newGroupsSystem.files.ListsAgree :=
  ⟨paired_pairedSystem.groups, by decide⟩

/-- The second user is added to a group while the gshadow file cannot be opened. -/
def unseenGshadow : List Call :=
  [call (.groupSet 0 (.gid 50)),
    { call (.groupAddMember 0 1001 false) with
      faults := { (call (.groupNew 0)).faults with readShadow := .const false } }]

/-- The user is then a member in the group file only. -/
theorem run_not_listsAgree : newGroupsSystem.files.ListsAgree ∧
    (∀ c ∈ unseenGshadow, c.faults.write = .const none) ∧
    ¬(newGroupsSystem.run unseenGshadow).files.ListsAgree := by
  refine ⟨listsAgree_newGroupsSystem, ?_, fun agree => ?_⟩
  · simp [unseenGshadow, call]
  · have same := agree.members ⟨str "staff", str "x", 50, [str "alice", str "bob"]⟩
      (by decide +kernel) ⟨str "staff", str "!", [], [str "alice"]⟩ (by decide +kernel) rfl
    revert same
    decide

theorem run_listsAgree_alice : (newGroupsSystem.run
    [call (.groupSet 0 (.gid 50)), call (.groupAddMember 0 1001 true),
      call (.userDelete 0 false)]).files.ListsAgree := by
  refine run_listsAgree ⟨⟨rfl, rfl, rfl, rfl⟩, ⟨rfl, rfl, rfl, trivial⟩, ⟨rfl, rfl, rfl, trivial⟩,
    trivial⟩ listsAgree_newGroupsSystem fun i => rfl

end Sample

end Gumd
