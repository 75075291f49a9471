import Gumd.GroupFailures
import Gumd.MemberEnds
import Gumd.ReadBack

/-!
# Adding and removing a member

The removal of a new member undoes the addition where it finds the group again and writes the same
records.  It tests for the gshadow file where the addition tests for the group's entry.
-/

namespace Gumd

open StateWp EntryLoop

/-! ## Lookups that nothing disturbs -/

theorem World.soughtGroup_of_readable {w : World} (readable : w.faults.read = .const true)
    (group : GroupRecord) : w.soughtGroup group = w.files.getGroup group := by
  have first : w.faults.read.head = true := by rw [readable]; rfl
  have second : w.faults.read.tail.head = true := by rw [readable]; rfl
  unfold World.soughtGroup World.seenGroup World.search Files.getGroup
  simp only [first, second, if_true]
  by_cases valid : group.grGid = gumGroupInvalidGid
  · rw [if_neg (not_not.mpr valid), if_neg (not_not.mpr valid)]
    cases group.grName <;> rfl
  · rw [if_pos valid, if_pos valid]
    cases group.grName <;> rfl

namespace GumdDaemonGroup

/-- Where nothing is disturbed the lookups of a change find the entries of the files. -/
theorem sees_iff {g : GumdDaemonGroup} {w : World} {uid : UInt32} {pent : Passwd} {entry : Group}
    (faultless : w.Faultless) (granted : w.lockGranted = true) :
    g.Sees w uid pent entry ↔
      w.files.getpwuid uid = some pent ∧ w.files.getGroup g.group = some entry := by
  have user : w.seenUser uid = w.files.getpwuid uid := by
    rw [World.seenUser, faultless.read]
    rfl
  have readable : w.afterRead.faults.read = .const true := by
    rw [World.afterRead, faultless.read]
    rfl
  have group : w.afterRead.soughtGroup g.group = w.files.getGroup g.group :=
    World.soughtGroup_of_readable readable _
  constructor
  · intro sees
    exact ⟨user ▸ sees.user, group ▸ sees.group⟩
  · intro found
    exact ⟨granted, user.trans found.1, group.trans found.2⟩

end GumdDaemonGroup

theorem World.Faultless.sgrps {w : World} (faultless : w.Faultless) (name : Str) :
    w.seenSgrp name = w.files.getsgnam name ∧ w.copiedSgrp name = w.files.getsgnam name := by
  rw [World.seenSgrp, World.copiedSgrp, faultless.readShadow]
  exact ⟨rfl, rfl⟩

/-! ## Finding the group again -/

/-- The search by gid finds the entry, or the entry has no gid to be found by. -/
def Files.FirstOfGid (f : Files) (entry : Group) : Prop :=
  entry.grGid = gumGroupInvalidGid ∨ f.getgrgid entry.grGid = some entry

/-- A loaded object finds the entry it has replaced only if the entry is the first one of its
gid. -/
theorem Files.getGroup_replaceGroup_iff {f : Files} {entry new e : Group} {group : GroupRecord}
    (found : f.group.find? (fun e => entry.grGid = e.grGid ∧ entry.grName = e.grName) = some entry)
    (key : new.grGid = entry.grGid ∧ new.grName = entry.grName) (gid : group.grGid = entry.grGid)
    (name : ptr group.grName = some entry.grName)
    (byName : entry.grGid = gumGroupInvalidGid → f.getgrnam entry.grName = some entry) :
    (f.replaceGroup entry new).getGroup group = some e ↔ f.FirstOfGid entry ∧ e = new := by
  have agrees : group.agrees new = true := by
    rw [GroupRecord.agrees_iff, gid, name, key.1, key.2]
    exact ⟨Or.inr rfl, Or.inr rfl⟩
  by_cases invalid : entry.grGid = gumGroupInvalidGid
  · have kept : (f.replaceGroup entry new).getgrnam entry.grName = some new :=
      find?_modifyFirst found (byName invalid) (by simp [key.2])
    obtain ⟨n, held, same⟩ := Option.map_eq_some_iff.mp name
    have whole : (f.replaceGroup entry new).getGroup group = some new := by
      rw [Files.getGroup, gid, if_neg (not_not.mpr invalid), name, Option.bind_some, kept]
      simp [held, agrees]
    rw [whole, Files.FirstOfGid]
    simp [invalid, @eq_comm _ new]
  · rw [Files.getGroup_of_gid _ (by rw [gid]; exact invalid), gid]
    by_cases first : f.getgrgid entry.grGid = some entry
    · have kept : (f.replaceGroup entry new).getgrgid entry.grGid = some new :=
        find?_modifyFirst found first (by simp [key.1])
      rw [kept, Option.filter_some, if_pos agrees, Files.FirstOfGid]
      simp [first, @eq_comm _ new]
    · refine iff_of_false (fun again => ?_) (fun spec => spec.1.elim invalid first)
      obtain ⟨e₀, other⟩ : ∃ e₀, f.getgrgid entry.grGid = some e₀ := by
        apply Option.isSome_iff_exists.mp
        exact List.find?_isSome.mpr ⟨entry, List.mem_of_find?_eq_some found, by simp⟩
      have ownGid : e₀.grGid = entry.grGid := by simpa using List.find?_some other
      have ownName : entry.grName ≠ e₀.grName := by
        intro same
        have equal : e₀ = entry := find?_eq_of_both other found (by simp [ownGid, same]) (by simp)
        exact first (equal ▸ other)
      have kept : (f.replaceGroup entry new).getgrgid entry.grGid = some e₀ :=
        find?_modifyFirst_of_other other (by simp [ownName]) fun x picked => by
          simp [(of_decide_eq_true picked).1]
      rw [kept, Option.filter_some] at again
      split_ifs at again with agrees₀
      rcases (GroupRecord.agrees_iff.mp agrees₀).2 with none | named
      · rw [none] at name
        cases name
      · exact ownName (Option.some.inj (name.symm.trans named))

/-- An object without a gid finds its group by name. -/
theorem Files.getgrnam_of_getGroup {f : Files} {group : GroupRecord} {entry : Group}
    (found : f.getGroup group = some entry) (invalid : entry.grGid = gumGroupInvalidGid) :
    f.getgrnam entry.grName = some entry := by
  have own : group.grGid = gumGroupInvalidGid := by
    rcases (GroupRecord.agrees_iff.mp (Files.getGroup_some found).2).1 with unset | same
    · exact unset
    · exact same.trans invalid
  obtain ⟨picked, agrees⟩ := Option.filter_eq_some_iff.mp found
  rw [if_neg (not_not.mpr own)] at picked
  split_ifs at picked with named
  obtain ⟨name, given, byName⟩ := Option.bind_eq_some_iff.mp picked
  have same : entry.grName = name := by simpa using List.find?_some byName
  rw [same]
  exact byName

/-! ## The records of the two changes -/

/-- The files with the first gshadow entry of a name replaced. -/
def Files.replaceSgrp (f : Files) (new : Option Sgrp) : Files :=
  { f with gshadow := new.elim f.gshadow fun sg =>
      f.gshadow.map (modifyFirst (sg.sgNamp = ·.sgNamp) fun _ => sg) }

/-- A written field is what a setter was given if the validator accepts that. -/
theorem written_eq_iff {p : Str → Prop} [DecidablePred p] (empty : p []) {v : Str}
    {old : Option (Subtype p)} :
    (ptr (setStringProperty (some v) old)).getD [] = v ↔ p v := by
  by_cases accepted : p v
  · rw [setStringProperty_of_accepted accepted]
    exact iff_of_true rfl accepted
  · have kept : setStringProperty (some v) old = old := by
      apply setStringProperty_of_rejected
      intro s same
      obtain rfl := Option.some.inj same
      exact accepted
    rw [kept]
    refine iff_of_false (fun same => accepted ?_) accepted
    cases old with
    | none => exact same ▸ empty
    | some o => exact same ▸ o.property

/-- Setting a written field to what was written writes it again. -/
theorem written_again {p : Str → Prop} [DecidablePred p] (empty : p []) (old : Option (Subtype p)) :
    (ptr (setStringProperty (some ((ptr old).getD [])) old)).getD [] = (ptr old).getD [] := by
  rw [written_eq_iff empty]
  cases old with
  | none => exact empty
  | some o => exact o.property

namespace GumdDaemonGroup

/-- The password a loaded object writes for its group. -/
def writtenPasswd (g : GumdDaemonGroup) (entry : Group) : Str :=
  (ptr (setStringProperty (some entry.grPasswd) g.group.grPasswd)).getD []

/-- The gshadow entry of a group with a new member. -/
def joinedSgrp (entry : Group) (name : Str) (addAsAdmin : Bool) (sg : Sgrp) : Sgrp :=
  { sg with
    sgMem := entry.grMem ++ [name]
    sgAdm := if addAsAdmin && !gumStringUtilsSearchStringv (some sg.sgAdm) (some name) then
        sg.sgAdm ++ [name]
      else sg.sgAdm }

/-- The gshadow entry of a group without a member. -/
def partedSgrp (entry : Group) (name : Str) (sg : Sgrp) : Sgrp :=
  { sg with sgMem := entry.grMem.filter (· ≠ name), sgAdm := sg.sgAdm.filter (· ≠ name) }

variable {g : GumdDaemonGroup} {entry : Group} {name : Str}

theorem putsgent_joined (addAsAdmin : Bool) (sg : Sgrp) :
    (g.joined entry (some sg) (some sg) name addAsAdmin).gshadow.putsgent =
      some (joinedSgrp entry name addAsAdmin sg) := by
  simp only [joined, addMemberLists, joinedSgrp, Option.map_some]
  generalize gumStringUtilsSearchStringv (some sg.sgAdm) (some name) = listed
  cases addAsAdmin <;> cases listed <;>
    simp [copyGroupEntries, copyGshadowStruct, SgrpRecord.putsgent, gumStringUtilsAppendString]

theorem putsgent_parted (mem : name ∈ entry.grMem) (sg : Sgrp) :
    (g.parted entry (some sg) (some sg) name).gshadow.putsgent =
      some (partedSgrp entry name sg) := by
  rw [parted, deleteMemberLists, partedSgrp]
  by_cases listed : name ∈ sg.sgAdm
  · have found : gumStringUtilsSearchStringv (some sg.sgAdm) (some name) = true := by
      simpa using listed
    simp [found, gumStringUtilsDeleteString_of_mem mem, gumStringUtilsDeleteString_of_mem listed,
      copyGroupEntries, copyGshadowStruct, SgrpRecord.putsgent]
  · have found : gumStringUtilsSearchStringv (some sg.sgAdm) (some name) = false := by
      simpa [Bool.eq_false_iff] using listed
    have kept : sg.sgAdm.filter (· ≠ name) = sg.sgAdm := by
      refine List.filter_eq_self.mpr fun n here => decide_eq_true fun same => ?_
      exact listed (same ▸ here)
    rw [kept]
    simp [found, gumStringUtilsDeleteString_of_mem mem, copyGroupEntries, copyGshadowStruct,
      SgrpRecord.putsgent]

theorem gshadow_joined_none (addAsAdmin : Bool) :
    (g.joined entry none none name addAsAdmin).gshadow =
      { g.gshadow with sgMem := some (entry.grMem ++ [name]) } := by
  rw [joined, addMemberLists]
  simp [copyGroupEntries, copyGshadowStruct, copyGroupProp, setGroupnameProperty, setGidProperty,
    setSecretProperty, gumStringUtilsAppendString]

theorem gshadow_parted_none (mem : name ∈ entry.grMem) :
    (g.parted entry none none name).gshadow =
      { g.gshadow with sgMem := some (entry.grMem.filter (· ≠ name)) } := by
  rw [parted, deleteMemberLists, gumStringUtilsDeleteString_of_mem mem]
  simp [copyGroupEntries, copyGshadowStruct, copyGroupProp, setGroupnameProperty, setGidProperty,
    setSecretProperty, gumStringUtilsSearchStringv]

/-- The rewrite of the gshadow file for an entry that is found. -/
theorem rewriteGshadow_own {h : GumdDaemonGroup} {f : Files} {sg new : Sgrp} {n : Str}
    (found : f.getsgnam n = some sg) (put : h.gshadow.putsgent = some new)
    (named : new.sgNamp = sg.sgNamp) :
    gshadowFile.rewrite (updateGshadowEntry h .modify none) f = .ok (f.replaceSgrp (some new)) := by
  rw [Files.getsgnam] at found
  cases present : f.gshadow with
  | none =>
    rw [present] at found
    cases found
  | some entries =>
    rw [present, Option.getD_some] at found
    have written := updateGshadowEntry_own_ok_iff.mpr
      ⟨new, put, ⟨sg, List.mem_of_find?_eq_some found, named⟩, rfl⟩
    simp only [DbFile.rewrite, gshadowFile, present, written, Except.map, Files.replaceSgrp,
      Option.elim_some, Option.map_some]

/-! ## The two changes where nothing is disturbed -/

variable {s : St GumdDaemonGroup} {pent : Passwd}

/-- An addition succeeds if the name of the group is valid. -/
theorem addMember_succeeds_iff (faultless : s.world.Faultless)
    (granted : s.world.lockGranted = true) {uid : UInt32} (addAsAdmin : Bool)
    (user : s.world.files.getpwuid uid = some pent)
    (group : s.world.files.getGroup s.self.group = some entry) (absent : pent.pwName ∉ entry.grMem)
    (P : GumdDaemonGroup → Files → Prop) :
    wp (gumdDaemonGroupAddMember uid addAsAdmin) (fun r t => r = true ∧ P t.self t.world.files) s ↔
      gumValidateName (some entry.grName) = .ok () ∧
        P (s.self.joined entry (s.world.files.getsgnam entry.grName)
            (s.world.files.getsgnam entry.grName) pent.pwName addAsAdmin)
          ((s.world.files.replaceGroup entry { entry with
              grPasswd := s.self.writtenPasswd entry
              grMem := entry.grMem ++ [pent.pwName] }).replaceSgrp
            ((s.world.files.getsgnam entry.grName).map
              (joinedSgrp entry pent.pwName addAsAdmin))) := by
  obtain ⟨mem, agrees⟩ := Files.getGroup_some group
  obtain ⟨seen, copied⟩ := faultless.sgrps entry.grName
  have sees : s.self.Sees s.world uid pent entry := (sees_iff faultless granted).mpr ⟨user, group⟩
  have allowed : gumStringUtilsSearchStringv (some entry.grMem) (some pent.pwName) = false := by
    simpa [Bool.eq_false_iff] using absent
  have object : addMemberLists entry (s.world.seenSgrp entry.grName) pent.pwName addAsAdmin
      (s.self.withEntries s.world entry) = s.self.joined entry
        (s.world.files.getsgnam entry.grName) (s.world.files.getsgnam entry.grName) pent.pwName
        addAsAdmin := by
    rw [withEntries, seen, copied]
    rfl
  -- the gshadow file is rewritten if the group has an entry there
  have second : ∀ new, (if (s.world.files.getsgnam entry.grName).isSome then gshadowFile.rewrite
        (updateGshadowEntry (s.self.joined entry (s.world.files.getsgnam entry.grName)
          (s.world.files.getsgnam entry.grName) pent.pwName addAsAdmin) .modify none)
        (s.world.files.replaceGroup entry new)
      else .ok (s.world.files.replaceGroup entry new)) =
      .ok ((s.world.files.replaceGroup entry new).replaceSgrp
        ((s.world.files.getsgnam entry.grName).map (joinedSgrp entry pent.pwName addAsAdmin))) := by
    intro new
    have same : (s.world.files.replaceGroup entry new).getsgnam entry.grName =
        s.world.files.getsgnam entry.grName := rfl
    cases found : s.world.files.getsgnam entry.grName with
    | none => rfl
    | some sg =>
      rw [found] at same
      exact rewriteGshadow_own same (putsgent_joined addAsAdmin sg) rfl
  rw [gumdDaemonGroupAddMember_eq, changeMember_succeeds_iff
    (fun sg g => writesAs_updateGshadowFileIf g sg.isSome .modify none) faultless.write]
  constructor
  · intro succeeds
    obtain ⟨g', f₁, f₂, ⟨⟨pent', entry', sees', -, rfl, written⟩, first⟩, holds⟩ := succeeds
    obtain ⟨rfl, rfl⟩ := sees.eq sees'
    rw [object] at first written holds
    obtain ⟨valid, rfl⟩ := (rewriteGroup_ofLoaded_ok_iff agrees mem (group_joined ..)).mp first
    rw [seen, second] at written
    rw [← Except.ok.inj written] at holds
    exact ⟨valid, holds⟩
  · intro spec
    obtain ⟨valid, holds⟩ := spec
    have joins := group_joined s.self entry (s.world.files.getsgnam entry.grName)
      (s.world.files.getsgnam entry.grName) pent.pwName addAsAdmin
    have first := (rewriteGroup_ofLoaded_ok_iff agrees mem joins).mpr ⟨valid, rfl⟩
    rw [← object] at first holds
    refine ⟨_, _, _, ⟨⟨pent, entry, sees, allowed, rfl, ?_⟩, first⟩, holds⟩
    rw [object, seen]
    exact second _

/-- A removal succeeds if the name of the group is valid and the record of the object can be written
to the gshadow file, should there be one. -/
theorem deleteMember_succeeds_iff (faultless : s.world.Faultless)
    (granted : s.world.lockGranted = true) {uid : UInt32}
    (user : s.world.files.getpwuid uid = some pent) (P : Files → Prop) :
    wp (gumdDaemonGroupDeleteMember uid) (fun r t => r = true ∧ P t.world.files) s ↔
      ∃ entry f', s.world.files.getGroup s.self.group = some entry ∧ pent.pwName ∈ entry.grMem ∧
        gumValidateName (some entry.grName) = .ok () ∧
        Files.rewriteGshadow
          (updateGshadowEntry (s.self.parted entry (s.world.files.getsgnam entry.grName)
            (s.world.files.getsgnam entry.grName) pent.pwName) .modify none)
          (s.world.files.replaceGroup entry { entry with
            grPasswd := s.self.writtenPasswd entry
            grMem := entry.grMem.filter (· ≠ pent.pwName) }) = .ok f' ∧ P f' := by
  have object : ∀ entry, deleteMemberLists entry (s.world.seenSgrp entry.grName) pent.pwName
      (s.self.withEntries s.world entry) = s.self.parted entry
        (s.world.files.getsgnam entry.grName) (s.world.files.getsgnam entry.grName)
        pent.pwName := by
    intro entry
    obtain ⟨seen, copied⟩ := faultless.sgrps entry.grName
    rw [withEntries, seen, copied]
    rfl
  rw [gumdDaemonGroupDeleteMember_eq, changeMember_succeeds_iff
    (fun _ g => writesAs_updateGshadowFile g .modify none) faultless.write uid _ fun _ f => P f]
  constructor
  · intro succeeds
    obtain ⟨g', f₁, f₂, ⟨⟨pent', entry, sees, allowed, rfl, written⟩, first⟩, holds⟩ := succeeds
    obtain ⟨user', group⟩ := (sees_iff faultless granted).mp sees
    obtain rfl := Option.some.inj (user.symm.trans user')
    obtain ⟨mem, agrees⟩ := Files.getGroup_some group
    have member : pent.pwName ∈ entry.grMem := by simpa using allowed
    rw [object] at first written
    obtain ⟨valid, rfl⟩ := (rewriteGroup_ofLoaded_ok_iff agrees mem (group_parted member)).mp first
    exact ⟨entry, f₂, group, member, valid, written, holds⟩
  · intro spec
    obtain ⟨entry, f', group, member, valid, written, holds⟩ := spec
    obtain ⟨mem, agrees⟩ := Files.getGroup_some group
    have sees : s.self.Sees s.world uid pent entry :=
      (sees_iff faultless granted).mpr ⟨user, group⟩
    have parts := @group_parted s.self entry (s.world.files.getsgnam entry.grName)
      (s.world.files.getsgnam entry.grName) pent.pwName member
    have first := (rewriteGroup_ofLoaded_ok_iff agrees mem parts).mpr ⟨valid, rfl⟩
    have allowed : (!gumStringUtilsSearchStringv (some entry.grMem) (some pent.pwName)) = false := by
      simpa using member
    rw [← object] at first
    refine ⟨_, _, _, ⟨⟨pent, entry, sees, allowed, rfl, ?_⟩, first⟩, holds⟩
    rw [object]
    exact written

/-! ## The round trip -/

/-- The addition of a member and then its removal both succeed, and the groups are as before. -/
def RoundTrip (g : GumdDaemonGroup) (w : World) (uid : UInt32) (addAsAdmin : Bool) : Prop :=
  wp (gumdDaemonGroupAddMember uid addAsAdmin) (fun r t => r = true ∧ ∀ w' : World,
    w'.files = t.world.files → w'.Faultless → w'.lockGranted = true →
      wp (gumdDaemonGroupDeleteMember uid) (fun r' u => r' = true ∧
        w.files.SameGroups u.world.files) ⟨t.self, w'⟩) ⟨g, w⟩

/-- A user is in none of the lists of a group, whose gshadow entry has the same members if there is
one. -/
structure Outside (f : Files) (entry : Group) (name : Str) : Prop where
  grMem : name ∉ entry.grMem
  sgMem : ∀ sg, f.getsgnam entry.grName = some sg → sg.sgMem = entry.grMem
  sgAdm : ∀ sg, f.getsgnam entry.grName = some sg → name ∉ sg.sgAdm

/-- The removal writes the gshadow file as it was: there is no such file, or the group has an entry
there, or the record the object still holds is the one of another entry. -/
def RestoresGshadow (g : GumdDaemonGroup) (f : Files) (entry : Group) : Prop :=
  f.gshadow = none ∨ (f.getsgnam entry.grName).isSome ∨
    ∃ sg, { g.gshadow with sgMem := some entry.grMem }.putsgent = some sg ∧
      f.getsgnam sg.sgNamp = some sg

/-- The removal finds the group that the addition has found, and writes its entries as they were. -/
structure Restorable (g : GumdDaemonGroup) (f : Files) (entry : Group) : Prop where
  name : gumValidateName (some entry.grName) = .ok ()
  passwd : gumValidateDbSecretEntry (some entry.grPasswd) = .ok ()
  first : f.FirstOfGid entry
  gshadow : g.RestoresGshadow f entry

theorem filter_append_absent {l : List Str} (absent : name ∉ l) :
    (l ++ [name]).filter (· ≠ name) = l := by
  rw [List.filter_append]
  have kept : l.filter (· ≠ name) = l := by
    refine List.filter_eq_self.mpr fun n here => decide_eq_true fun same => ?_
    exact absent (same ▸ here)
  rw [kept]
  simp

/-- Removing a new member from a gshadow entry restores it. -/
theorem partedSgrp_joinedSgrp {new : Group} {sg : Sgrp} (addAsAdmin : Bool)
    (members : new.grMem = entry.grMem ++ [name]) (absent : name ∉ entry.grMem)
    (sgMem : sg.sgMem = entry.grMem) (sgAdm : name ∉ sg.sgAdm) :
    partedSgrp new name (joinedSgrp entry name addAsAdmin sg) = sg := by
  have admins : (if (addAsAdmin && !gumStringUtilsSearchStringv (some sg.sgAdm) (some name)) = true
      then sg.sgAdm ++ [name] else sg.sgAdm).filter (· ≠ name) = sg.sgAdm := by
    split_ifs
    · exact filter_append_absent sgAdm
    · refine List.filter_eq_self.mpr fun n here => decide_eq_true fun same => ?_
      exact sgAdm (same ▸ here)
  rw [partedSgrp, joinedSgrp, members, filter_append_absent absent]
  dsimp only
  rw [admins, ← sgMem]

theorem group_rewriteGshadow {callback : List Sgrp → Except GError (List Sgrp)} {f f' : Files}
    (written : Files.rewriteGshadow callback f = .ok f') : f'.group = f.group := by
  rcases Files.rewriteGshadow_ok written with ⟨-, rfl⟩ | ⟨entries, out, -, -, rfl⟩
  · rfl
  · rfl

/-- A rewrite of an existing gshadow file succeeds with what its callback makes of the entries. -/
theorem rewriteGshadow_gives_iff {callback : List Sgrp → Except GError (List Sgrp)} {f : Files}
    {entries out : List Sgrp} (present : f.gshadow = some entries) :
    (∃ f', Files.rewriteGshadow callback f = .ok f' ∧ f'.gshadow = some out) ↔
      callback entries = .ok out := by
  unfold Files.rewriteGshadow
  rw [present]
  cases result : callback entries <;> simp [Except.map, result]

theorem getsgnam_eq {f : Files} {entries : List Sgrp} (present : f.gshadow = some entries)
    (n : Str) : f.getsgnam n = entries.find? (n = ·.sgNamp) := by
  rw [Files.getsgnam, present, Option.getD_some]
  congr 1
  funext e
  rw [Bool.eq_iff_iff, beq_iff_eq, decide_eq_true_eq]
  exact eq_comm

/-- A record that is put over an entry leaves the entries as they are if it is the first of its
name. -/
theorem updateGshadowEntry_keeps_iff {h : GumdDaemonGroup} {f : Files} {entries : List Sgrp}
    (present : f.gshadow = some entries) :
    updateGshadowEntry h .modify none entries = .ok entries ↔
      ∃ sg, h.gshadow.putsgent = some sg ∧ f.getsgnam sg.sgNamp = some sg := by
  rw [updateGshadowEntry_own_ok_iff]
  have search := getsgnam_eq present
  constructor
  · intro kept
    obtain ⟨new, put, ⟨e, mem, named⟩, same⟩ := kept
    obtain ⟨x, found⟩ : ∃ x, entries.find? (new.sgNamp = ·.sgNamp) = some x :=
      Option.isSome_iff_exists.mp (List.find?_isSome.mpr ⟨e, mem, decide_eq_true named⟩)
    have equal : new = x := (modifyFirst_eq_self found).mp same.symm
    exact ⟨new, put, by rw [search, found, equal]⟩
  · intro own
    obtain ⟨sg, put, found⟩ := own
    rw [search] at found
    exact ⟨sg, put, ⟨sg, List.mem_of_find?_eq_some found, rfl⟩,
      ((modifyFirst_eq_self found).mpr rfl).symm⟩

/-- What the removal makes of the gshadow file. -/
theorem restoresGshadow_iff {f f₁ : Files} {new : Group} (addAsAdmin : Bool)
    (outside : Outside f entry name) (members : new.grMem = entry.grMem ++ [name])
    (gshadow : f₁.gshadow = (f.replaceSgrp ((f.getsgnam entry.grName).map
      (joinedSgrp entry name addAsAdmin))).gshadow) :
    (∃ f', Files.rewriteGshadow (updateGshadowEntry
        ((g.joined entry (f.getsgnam entry.grName) (f.getsgnam entry.grName) name addAsAdmin).parted
          new (f₁.getsgnam entry.grName) (f₁.getsgnam entry.grName) name) .modify none) f₁ =
        .ok f' ∧ f'.gshadow = f.gshadow) ↔ g.RestoresGshadow f entry := by
  have member : name ∈ new.grMem := by simp [members]
  cases found : f.getsgnam entry.grName with
  | none =>
    replace gshadow : f₁.gshadow = f.gshadow := by rw [gshadow, found]; rfl
    have again : f₁.getsgnam entry.grName = none := by
      rw [← found, Files.getsgnam, Files.getsgnam, gshadow]
    rw [again, RestoresGshadow, found]
    cases present : f.gshadow with
    | none =>
      rw [present] at gshadow
      refine iff_of_true ⟨f₁, Files.rewriteGshadow_none gshadow _, gshadow⟩ (Or.inl rfl)
    | some entries =>
      rw [present] at gshadow
      rw [rewriteGshadow_gives_iff gshadow, updateGshadowEntry_keeps_iff present,
        gshadow_parted_none member, gshadow_joined_none, members,
        filter_append_absent outside.grMem]
      simp
  | some sg =>
    have named : sg.sgNamp = entry.grName := by simpa using List.find?_some found
    obtain ⟨entries, present⟩ : ∃ entries, f.gshadow = some entries := by
      cases present : f.gshadow with
      | none => simp [Files.getsgnam, present] at found
      | some entries => exact ⟨entries, rfl⟩
    have picked : entries.find? (sg.sgNamp = ·.sgNamp) = some sg := by
      rw [named, ← getsgnam_eq present, found]
    rw [found, Option.map_some, Files.replaceSgrp, Option.elim_some, present, Option.map_some]
      at gshadow
    change f₁.gshadow = some (modifyFirst (sg.sgNamp = ·.sgNamp) _ entries) at gshadow
    have again : f₁.getsgnam entry.grName = some (joinedSgrp entry name addAsAdmin sg) := by
      rw [getsgnam_eq gshadow, ← named]
      exact find?_modifyFirst picked picked (decide_eq_true rfl)
    have put := @putsgent_parted (g.joined entry (some sg) (some sg) name addAsAdmin) new name
      member (joinedSgrp entry name addAsAdmin sg)
    rw [partedSgrp_joinedSgrp addAsAdmin members outside.grMem (outside.sgMem sg found)
      (outside.sgAdm sg found)] at put
    rw [again, present, rewriteGshadow_gives_iff gshadow, updateGshadowEntry_own_ok_iff]
    refine iff_of_true ⟨sg, put, ?_, ?_⟩ (Or.inr (Or.inl (by rw [found]; rfl)))
    · rw [getsgnam_eq gshadow] at again
      exact ⟨_, List.mem_of_find?_eq_some again, rfl⟩
    · have once := @modifyFirst_modifyFirst Sgrp (sg.sgNamp = ·.sgNamp)
        (fun _ => joinedSgrp entry name addAsAdmin sg) (fun _ => sg)
        (fun _ _ => decide_eq_true rfl) entries
      rw [once]
      exact ((modifyFirst_eq_self picked).mpr rfl).symm

/-- The entry of a group with a new member, as a loaded object writes it. -/
def joinedEntry (g : GumdDaemonGroup) (entry : Group) (name : Str) : Group :=
  { entry with grPasswd := g.writtenPasswd entry, grMem := entry.grMem ++ [name] }

/-- What the removal makes of the group file. -/
theorem restoresGroup_iff {f : Files} {sg : Option Sgrp} (addAsAdmin : Bool)
    (found : f.group.find? (fun e => entry.grGid = e.grGid ∧ entry.grName = e.grName) = some entry)
    (absent : name ∉ entry.grMem) :
    ((f.replaceGroup entry (g.joinedEntry entry name)).replaceGroup (g.joinedEntry entry name)
      { g.joinedEntry entry name with
        grPasswd := (g.joined entry sg sg name addAsAdmin).writtenPasswd (g.joinedEntry entry name)
        grMem := (g.joinedEntry entry name).grMem.filter (· ≠ name) }).group = f.group ↔
      gumValidateDbSecretEntry (some entry.grPasswd) = .ok () := by
  have empty : gumValidateDbSecretEntry (some []) = .ok () := emptySecret.property
  have passwd : (g.joined entry sg sg name addAsAdmin).writtenPasswd (g.joinedEntry entry name) =
      g.writtenPasswd entry := by
    rw [writtenPasswd, group_joined]
    exact written_again empty _
  have members : (g.joinedEntry entry name).grMem.filter (· ≠ name) = entry.grMem :=
    filter_append_absent absent
  rw [passwd, members]
  have once := @modifyFirst_modifyFirst Group
    (fun e => entry.grGid = e.grGid ∧ entry.grName = e.grName)
    (fun _ => g.joinedEntry entry name)
    (fun _ => { entry with grPasswd := g.writtenPasswd entry })
    (fun _ _ => decide_eq_true ⟨rfl, rfl⟩) f.group
  refine (iff_of_eq (congrArg (· = f.group) once)).trans ?_
  rw [modifyFirst_eq_self found]
  refine Iff.trans ?_ (@written_eq_iff _ _ empty entry.grPasswd g.group.grPasswd)
  constructor
  · intro same
    exact congrArg Group.grPasswd same
  · intro same
    rw [writtenPasswd, same]

/-- The removal of a member who has been added succeeds and restores the groups. -/
theorem removal_restores_iff {f : Files} {w : World} (faultless : w.Faultless)
    (granted : w.lockGranted = true) {uid : UInt32} {pent : Passwd} (addAsAdmin : Bool)
    (user : f.getpwuid uid = some pent) (group : f.getGroup g.group = some entry)
    (found : f.group.find? (fun e => entry.grGid = e.grGid ∧ entry.grName = e.grName) = some entry)
    (outside : Outside f entry pent.pwName)
    (valid : gumValidateName (some entry.grName) = .ok ())
    (files : w.files = (f.replaceGroup entry (g.joinedEntry entry pent.pwName)).replaceSgrp
      ((f.getsgnam entry.grName).map (joinedSgrp entry pent.pwName addAsAdmin))) :
    wp (gumdDaemonGroupDeleteMember uid) (fun r u => r = true ∧ f.SameGroups u.world.files)
        ⟨g.joined entry (f.getsgnam entry.grName) (f.getsgnam entry.grName) pent.pwName addAsAdmin,
          w⟩ ↔
      gumValidateDbSecretEntry (some entry.grPasswd) = .ok () ∧ f.FirstOfGid entry ∧
        g.RestoresGshadow f entry := by
  have user' : w.files.getpwuid uid = some pent := by rw [files]; exact user
  have named : ptr (g.joined entry (f.getsgnam entry.grName) (f.getsgnam entry.grName) pent.pwName
      addAsAdmin).group.grName = some entry.grName := by
    rw [group_joined]
    refine (@loaded_name g entry (f.getsgnam entry.grName) (Files.getGroup_some group).2).trans ?_
    rw [if_pos valid]
  have again : ∀ e, w.files.getGroup (g.joined entry (f.getsgnam entry.grName)
      (f.getsgnam entry.grName) pent.pwName addAsAdmin).group = some e ↔
      f.FirstOfGid entry ∧ e = g.joinedEntry entry pent.pwName := by
    intro e
    rw [files]
    refine Files.getGroup_replaceGroup_iff found ⟨rfl, rfl⟩ ?_ named
      (Files.getgrnam_of_getGroup group)
    rw [group_joined]
    rfl
  rw [@deleteMember_succeeds_iff ⟨_, w⟩ pent faultless granted uid user'
    fun f' => f.SameGroups f']
  have gshadow : (w.files.replaceGroup (g.joinedEntry entry pent.pwName)
      { g.joinedEntry entry pent.pwName with
        grPasswd := (g.joined entry (f.getsgnam entry.grName) (f.getsgnam entry.grName) pent.pwName
          addAsAdmin).writtenPasswd (g.joinedEntry entry pent.pwName)
        grMem := (g.joinedEntry entry pent.pwName).grMem.filter (· ≠ pent.pwName) }).gshadow =
      (f.replaceSgrp ((f.getsgnam entry.grName).map
        (joinedSgrp entry pent.pwName addAsAdmin))).gshadow := by
    rw [files]
    rfl
  have gshadowIff := @restoresGshadow_iff g entry pent.pwName f _ (g.joinedEntry entry pent.pwName)
    addAsAdmin outside rfl gshadow
  have groupIff := @restoresGroup_iff g entry pent.pwName f (f.getsgnam entry.grName) addAsAdmin
    found outside.grMem
  constructor
  · intro spec
    obtain ⟨entry', f', group', -, -, written, same⟩ := spec
    obtain ⟨first, rfl⟩ := (again entry').mp group'
    refine ⟨groupIff.mp ?_, first, gshadowIff.mp ⟨f', written, same.2⟩⟩
    rw [← same.1, group_rewriteGshadow written, files]
    rfl
  · intro spec
    obtain ⟨accepted, first, restores⟩ := spec
    obtain ⟨f', written, same⟩ := gshadowIff.mpr restores
    refine ⟨_, f', (again _).mpr ⟨first, rfl⟩, ?_, valid, written, ?_, same⟩
    · simp [joinedEntry]
    · refine Eq.trans ?_ (groupIff.mpr accepted)
      rw [group_rewriteGshadow written, files]
      rfl

/-- Adding and removing a member cancel out where the group is restorable. -/
theorem roundTrip_iff {w : World} (faultless : w.Faultless) (granted : w.lockGranted = true)
    {uid : UInt32} {pent : Passwd} (addAsAdmin : Bool)
    (user : w.files.getpwuid uid = some pent) (group : w.files.getGroup g.group = some entry)
    (outside : Outside w.files entry pent.pwName) :
    g.RoundTrip w uid addAsAdmin ↔ g.Restorable w.files entry := by
  rw [RoundTrip, @addMember_succeeds_iff entry ⟨g, w⟩ pent faultless granted uid addAsAdmin user group
    outside.grMem fun g' f' => ∀ w' : World, w'.files = f' → w'.Faultless →
      w'.lockGranted = true → wp (gumdDaemonGroupDeleteMember uid) (fun r' u => r' = true ∧
        w.files.SameGroups u.world.files) ⟨g', w'⟩]
  have sees : g.Sees w uid pent entry := (sees_iff faultless granted).mpr ⟨user, group⟩
  have found := (World.soughtGroup_some sees.group).2
  constructor
  · intro trip
    obtain ⟨valid, removal⟩ := trip
    have restored := removal (GumdDaemonUser.calmWorld _) rfl ⟨rfl, rfl, rfl⟩ rfl
    rw [removal_restores_iff ⟨rfl, rfl, rfl⟩ rfl addAsAdmin user group found outside valid rfl]
      at restored
    exact ⟨valid, restored.1, restored.2.1, restored.2.2⟩
  · intro restorable
    refine ⟨restorable.name, fun w' files faultless' granted' => ?_⟩
    rw [removal_restores_iff faultless' granted' addAsAdmin user group found outside
      restorable.name files]
    exact ⟨restorable.passwd, restorable.first, restorable.gshadow⟩

/-! ## Failures -/

/-- An addition that fails has changed nothing. -/
theorem addMember_unchanged (calm : s.world.faults.write = .const none) (uid : UInt32)
    (addAsAdmin : Bool) : wp (gumdDaemonGroupAddMember uid addAsAdmin)
      (fun r t => r = false → s.world.files.SameGroups t.world.files) s := by
  rw [gumdDaemonGroupAddMember_eq, changeMember_fails_iff
    (fun sg g => writesAs_updateGshadowFileIf g sg.isSome .modify none) calm uid _
    (show s.world.files.SameGroups s.world.files from ⟨rfl, rfl⟩)]
  intro g' f₁ e changes
  obtain ⟨⟨pent, entry, sees, -, object, second⟩, first⟩ := changes
  obtain ⟨agrees, found⟩ := World.soughtGroup_some sees.group
  cases seen : s.world.seenSgrp entry.grName with
  | none =>
    rw [seen] at second
    cases second
  | some sg =>
    have copied := copiedSgrp_of_seen seen
    have listed : s.world.files.getsgnam entry.grName = some sg := by
      rw [World.seenSgrp] at seen
      split_ifs at seen
      exact seen
    have joins : g' = s.self.joined entry (some sg) (some sg) pent.pwName addAsAdmin := by
      rw [object, seen, withEntries, copied]
      rfl
    have put : g'.gshadow.putsgent = some (joinedSgrp entry pent.pwName addAsAdmin sg) := by
      rw [joins, putsgent_joined]
    have group : g'.group = { (s.self.copyGroupEntries entry (some sg)).group with
        grMem := some (entry.grMem ++ [pent.pwName]) } := by
      rw [joins, group_joined]
    obtain ⟨-, replaced⟩ := (rewriteGroup_ofLoaded_ok_iff agrees (List.mem_of_find?_eq_some found)
      group).mp first
    have again : f₁.getsgnam entry.grName = some sg := by rw [replaced]; exact listed
    rw [seen, Option.isSome_some, if_pos rfl, rewriteGshadow_own again put rfl] at second
    cases second

/-- A removal writes the group file, and finds no entry of the object's name in the gshadow file. -/
def StrandedByRemoval (g : GumdDaemonGroup) (w : World) (uid : UInt32) : Prop :=
  ∃ pent entry entries, g.Sees w uid pent entry ∧ pent.pwName ∈ entry.grMem ∧
    gumValidateName (some entry.grName) = .ok () ∧ w.files.gshadow = some entries ∧
    ∀ e ∈ entries, (g.withEntries w entry).gshadow.sgNamp ≠ some e.sgNamp

theorem sgNamp_deleteMemberLists (sg : Option Sgrp) (g : GumdDaemonGroup) :
    (deleteMemberLists entry sg name g).gshadow.sgNamp = g.gshadow.sgNamp := by
  rw [deleteMemberLists]
  dsimp only
  split_ifs <;> rfl

/-- A removal that fails has changed nothing, unless it is stranded. -/
theorem deleteMember_unchanged_iff (calm : s.world.faults.write = .const none) (uid : UInt32) :
    wp (gumdDaemonGroupDeleteMember uid)
        (fun r t => r = false → s.world.files.SameGroups t.world.files) s ↔
      ¬s.self.StrandedByRemoval s.world uid := by
  rw [gumdDaemonGroupDeleteMember_eq, changeMember_fails_iff
    (fun _ g => writesAs_updateGshadowFile g .modify none) calm uid _
    (show s.world.files.SameGroups s.world.files from ⟨rfl, rfl⟩)]
  have object : ∀ {pent : Passwd} {entry : Group}, pent.pwName ∈ entry.grMem →
      (deleteMemberLists entry (s.world.seenSgrp entry.grName) pent.pwName
        (s.self.withEntries s.world entry)).group =
      { (s.self.copyGroupEntries entry (s.world.copiedSgrp entry.grName)).group with
        grMem := some (entry.grMem.filter (· ≠ pent.pwName)) } := fun member => group_parted member
  constructor
  · intro unchanged stranded
    obtain ⟨pent, entry, entries, sees, member, valid, present, unlisted⟩ := stranded
    obtain ⟨agrees, found⟩ := World.soughtGroup_some sees.group
    have mem := List.mem_of_find?_eq_some found
    have first := (rewriteGroup_ofLoaded_ok_iff agrees mem (object member)).mpr ⟨valid, rfl⟩
    have refused := updateGshadowEntry_own_error_iff.mpr (show ∀ e ∈ entries,
      (deleteMemberLists entry (s.world.seenSgrp entry.grName) pent.pwName
        (s.self.withEntries s.world entry)).gshadow.sgNamp ≠ some e.sgNamp by
      rw [sgNamp_deleteMemberLists]
      exact unlisted)
    obtain ⟨e, second⟩ := (@rewriteGshadow_error_iff _ (s.world.files.replaceGroup entry { entry with
      grPasswd := s.self.writtenPasswd entry
      grMem := entry.grMem.filter (· ≠ pent.pwName) })).mpr ⟨entries, present, refused⟩
    have allowed : (!gumStringUtilsSearchStringv (some entry.grMem) (some pent.pwName)) = false := by
      simpa using member
    have same := unchanged _ _ e ⟨⟨pent, entry, sees, allowed, rfl, second⟩, first⟩
    have members := congrArg Group.grMem ((modifyFirst_eq_self found).mp same.1)
    rw [← members] at member
    simp at member
  · intro unstranded g' f₁ e changes
    exfalso
    apply unstranded
    obtain ⟨⟨pent, entry, sees, allowed, rfl, second⟩, first⟩ := changes
    obtain ⟨agrees, found⟩ := World.soughtGroup_some sees.group
    have member : pent.pwName ∈ entry.grMem := by simpa using allowed
    obtain ⟨valid, rfl⟩ := (rewriteGroup_ofLoaded_ok_iff agrees (List.mem_of_find?_eq_some found)
      (object member)).mp first
    obtain ⟨entries, present, refused⟩ := rewriteGshadow_error_iff.mp ⟨e, second⟩
    rw [updateGshadowEntry_own_error_iff, sgNamp_deleteMemberLists] at refused
    exact ⟨pent, entry, entries, sees, member, valid, present, refused⟩

end GumdDaemonGroup

/-- Adding and removing a member cancel out exactly where the group is restorable, and a change that
fails has changed nothing, but for a removal that is stranded between the two files. -/
theorem memberChanges_cancel_iff {s : St GumdDaemonGroup}
    (calm : s.world.faults.write = .const none) (uid : UInt32) (addAsAdmin : Bool) :
    (s.world.Faultless → s.world.lockGranted = true → ∀ pent entry,
      s.world.files.getpwuid uid = some pent → s.world.files.getGroup s.self.group = some entry →
      GumdDaemonGroup.Outside s.world.files entry pent.pwName →
      (s.self.RoundTrip s.world uid addAsAdmin ↔ s.self.Restorable s.world.files entry)) ∧
    wp (GumdDaemonGroup.gumdDaemonGroupAddMember uid addAsAdmin)
      (fun r t => r = false → s.world.files.SameGroups t.world.files) s ∧
    (wp (GumdDaemonGroup.gumdDaemonGroupDeleteMember uid)
        (fun r t => r = false → s.world.files.SameGroups t.world.files) s ↔
      ¬s.self.StrandedByRemoval s.world uid) := by
  refine ⟨fun faultless granted pent entry user group outside => ?_,
    GumdDaemonGroup.addMember_unchanged calm uid addAsAdmin,
    GumdDaemonGroup.deleteMember_unchanged_iff calm uid⟩
  exact GumdDaemonGroup.roundTrip_iff faultless granted addAsAdmin user group outside

namespace Sample

/-- A group without an entry in the gshadow file. -/
def club : Group := ⟨str "club", str "x", 60, []⟩

/-- The group `club` and a gshadow file. -/
def clubWorld : World :=
  { system.world (call (.groupAddMember 0 1000 true)) with
    files := { files with group := [club], gshadow := some [] } }

def clubObject : GumdDaemonGroup := gumdDaemonGroupNew.setGidProperty 60

theorem outside_club : GumdDaemonGroup.Outside clubWorld.files club (str "alice") where
  grMem := by decide
  sgMem sg found := by cases found
  sgAdm sg found := by cases found

/-- The group with an entry in the gshadow file. -/
def listedClub : World :=
  { clubWorld with files := { clubWorld.files with
    gshadow := some [⟨str "club", str "!", [], []⟩] } }

theorem outside_listedClub : GumdDaemonGroup.Outside listedClub.files club (str "alice") where
  grMem := by decide
  sgMem sg found := by
    obtain rfl := Option.some.inj found
    decide
  sgAdm sg found := by
    obtain rfl := Option.some.inj found
    decide

/-- With the entry the two changes cancel out. -/
theorem memberChanges_cancel_iff_club :
    clubObject.Restorable listedClub.files club ∧ clubObject.RoundTrip listedClub 1000 true ∧
    wp (GumdDaemonGroup.gumdDaemonGroupAddMember 1000 true)
      (fun r t => r = false → listedClub.files.SameGroups t.world.files) ⟨clubObject, listedClub⟩ ∧
    (wp (GumdDaemonGroup.gumdDaemonGroupDeleteMember 1000)
        (fun r t => r = false → listedClub.files.SameGroups t.world.files) ⟨clubObject, listedClub⟩ ↔
      ¬clubObject.StrandedByRemoval listedClub 1000) := by
  have changes := @memberChanges_cancel_iff ⟨clubObject, listedClub⟩ rfl 1000 true
  have cancel := changes.1 ⟨rfl, rfl, rfl⟩ rfl alice club rfl rfl outside_listedClub
  have restorable : clubObject.Restorable listedClub.files club :=
    ⟨by decide, by decide, Or.inr rfl, Or.inr (Or.inl rfl)⟩
  exact ⟨restorable, cancel.mpr restorable, changes.2⟩

/-- The gshadow file is there but has no entry of the group: alice is added, and her removal changes
the group file and fails. -/
theorem memberChanges_not_cancel :
    GumdDaemonGroup.Outside clubWorld.files club (str "alice") ∧
      ¬clubObject.RoundTrip clubWorld 1000 true := by
  refine ⟨outside_club, fun trip => ?_⟩
  have restorable := (GumdDaemonGroup.roundTrip_iff ⟨rfl, rfl, rfl⟩ rfl true
    (show clubWorld.files.getpwuid 1000 = some alice from rfl)
    (show clubWorld.files.getGroup clubObject.group = some club from rfl) outside_club).mp trip
  rcases restorable.gshadow with absent | listed | kept
  · cases absent
  · cases listed
  · obtain ⟨sg, put, -⟩ := kept
    cases put

end Sample

end Gumd
