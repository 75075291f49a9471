import Gumd.MemberRemoval
import Gumd.MemberRoundTrip
import Gumd.Membership
import Gumd.Simulation
import Gumd.Atomicity
import Gumd.Secrets

/-!
# Adding and deleting a user

The deletion takes back what the addition has written, entry by entry and list by list.  A configured
primary group that was there before and is nobody else's goes with the user.
-/

namespace Gumd

open StateWp EntryLoop

/-! ## Files that fit together -/

/-- The group and gshadow files list the same members of a group, and the passwords of the groups are
accepted. -/
structure Files.GroupsFit (f : Files) : Prop where
  lists : ∀ e ∈ f.group, ∀ sg ∈ f.gshadow.getD [], sg.sgNamp = e.grName → sg.sgMem = e.grMem
  passwd : ∀ e ∈ f.group, gumValidateDbSecretEntry (some e.grPasswd) = .ok ()

/-- Names and ids are given once, the members and the primary groups exist, and the groups fit. -/
structure Files.WellFormed (f : Files) : Prop where
  distinct : f.Distinct
  members : f.MembersKnown
  primary : f.PrimaryGroups
  groups : f.GroupsFit

/-- Where all members are known a new name is in no list. -/
theorem Files.MembersKnown.listsNowhere {f : Files} (known : f.MembersKnown) {name : Str}
    (fresh : f.getpwnam name = none) : f.ListsNowhere name := by
  have unknown : ¬f.HasUser name := by
    intro user
    obtain ⟨e, mem, named⟩ := user
    have other := List.find?_eq_none.mp fresh e mem
    simp [named] at other
  constructor
  · exact fun e mem inList => unknown (known.grMem e mem name inList)
  · intro e mem
    exact ⟨fun inList => unknown (known.sgMem e mem name inList),
      fun inList => unknown (known.sgAdm e mem name inList)⟩

theorem Files.withoutUser_of_listsNowhere {f : Files} {name : Str} (nowhere : f.ListsNowhere name) :
    f.withoutUser name = f := by
  obtain ⟨group, gshadow⟩ := Files.deleteMember_of_listsNowhere nowhere
  rw [← Files.deleteMembers_eq, group, gshadow]

theorem Files.find?_of_getGroup {f : Files} {group : GroupRecord} {entry : Group}
    (found : f.getGroup group = some entry) :
    f.group.find? (fun e => entry.grGid = e.grGid ∧ entry.grName = e.grName) = some entry := by
  have sought : (GumdDaemonUser.calmWorld f).soughtGroup group = some entry :=
    (World.soughtGroup_of_readable rfl group).trans found
  exact (World.soughtGroup_some sought).2

/-! ## Joining groups -/

/-- The entry without the user, as `Files.withoutUser` leaves it. -/
abbrev Group.withoutUser (name : Str) (e : Group) : Group :=
  { e with grMem := e.grMem.filter (· ≠ name) }

abbrev Sgrp.withoutUser (name : Str) (e : Sgrp) : Sgrp :=
  { e with sgMem := e.sgMem.filter (· ≠ name), sgAdm := e.sgAdm.filter (· ≠ name) }

section Join

variable {f f' : Files} {name : Str} {entry : Group}

theorem mem_withoutUser (same : f.SameGroups (f'.withoutUser name)) (mem : entry ∈ f'.group) :
    entry.withoutUser name ∈ f.group := by
  rw [← same.1]
  exact List.mem_map_of_mem mem

theorem mem_gshadow_withoutUser (same : f.SameGroups (f'.withoutUser name)) {sg : Sgrp}
    (mem : sg ∈ f'.gshadow.getD []) : sg.withoutUser name ∈ f.gshadow.getD [] := by
  rw [← same.2]
  cases present : f'.gshadow with
  | none =>
    rw [present] at mem
    cases mem
  | some entries =>
    rw [present] at mem
    rw [Files.withoutUser, present]
    exact List.mem_map_of_mem mem

/-- A new member in the group file. -/
theorem sameGroups_replaceGroup (same : f.SameGroups (f'.withoutUser name))
    (found : f'.group.find? (fun e => entry.grGid = e.grGid ∧ entry.grName = e.grName) = some entry) :
    f.SameGroups ((f'.replaceGroup entry
      { entry with grMem := entry.grMem ++ [name] }).withoutUser name) := by
  refine ⟨?_, same.2⟩
  rw [← same.1]
  apply map_replaceFirst found
  simp [List.filter_append]

/-- A new member in the gshadow file. -/
theorem sameGroups_replaceSgrp (same : f.SameGroups (f'.withoutUser name)) (fit : f.GroupsFit)
    {sg : Sgrp} (mem : entry.withoutUser name ∈ f.group)
    (found : f'.getsgnam entry.grName = some sg) :
    f.SameGroups ((f'.replaceSgrp
      (some (GumdDaemonGroup.joinedSgrp entry name false sg))).withoutUser name) := by
  have inside : sg ∈ f'.gshadow.getD [] := List.mem_of_find?_eq_some found
  have named : sg.sgNamp = entry.grName := by simpa using List.find?_some found
  have lists : sg.sgMem.filter (· ≠ name) = entry.grMem.filter (· ≠ name) :=
    fit.lists _ mem _ (mem_gshadow_withoutUser same inside) named
  refine ⟨same.1, ?_⟩
  rw [← same.2]
  cases present : f'.gshadow with
  | none =>
    rw [present] at inside
    cases inside
  | some entries =>
    have picked : entries.find? (sg.sgNamp = ·.sgNamp) = some sg := by
      rw [named, ← GumdDaemonGroup.getsgnam_eq present, found]
    simp only [Files.withoutUser, Files.replaceSgrp, Option.elim_some, present, Option.map_some,
      Option.some.injEq]
    apply map_replaceFirst picked
    simpa [GumdDaemonGroup.joinedSgrp, List.filter_append] using lists.symm

end Join

namespace GumdDaemonUser

/-- The record of an object that has copied a group and joined a member to it. -/
theorem putgrent_joined {g : GumdDaemonGroup} {entry new : Group} {sg copied : Option Sgrp} {n : Str}
    (unset : g.group.grPasswd = none) (agrees : g.group.agrees entry = true)
    (accepted : gumValidateDbSecretEntry (some entry.grPasswd) = .ok ())
    (put : (g.joined entry sg copied n false).group.putgrent = some new) :
    new = { entry with grMem := entry.grMem ++ [n] } := by
  obtain ⟨grName, grGid, grPasswd, grMem⟩ := GumdDaemonGroup.joined_putgrent unset agrees put
  obtain ⟨newName, newPasswd, newGid, newMem⟩ := new
  obtain rfl : newName = entry.grName := grName
  obtain rfl : newGid = entry.grGid := grGid
  obtain rfl : newPasswd = entry.grPasswd := grPasswd accepted
  obtain rfl : newMem = entry.grMem ++ [n] := grMem
  rfl

/-- One group that is joined. -/
theorem sameGroups_memberAdded {clear : Prop} {g : GumdDaemonGroup} {uid : UInt32} {f f₁ f₂ : Files}
    {pw : Passwd} {r : Bool} (unset : g.group.grPasswd = none) (fit : f.GroupsFit)
    (user : f₁.getpwuid uid = some pw) (same : f.SameGroups (f₁.withoutUser pw.pwName))
    (added : g.MemberAdded clear uid false f₁ r f₂) : f.SameGroups (f₂.withoutUser pw.pwName) := by
  cases added with
  | refused => exact same
  | @rewritten pent entry sg copied _ _ user' group absent answers written =>
    obtain rfl : pent = pw := Option.some.inj (user'.symm.trans user)
    obtain ⟨mem, agrees⟩ := Files.getGroup_some group
    have inside := mem_withoutUser same mem
    have found := Files.find?_of_getGroup group
    have accepted : gumValidateDbSecretEntry (some entry.grPasswd) = .ok () :=
      fit.passwd (entry.withoutUser pent.pwName) inside
    have first : ∀ {new : Group},
        (g.joined entry sg copied pent.pwName false).group.putgrent = some new →
        f.SameGroups ((f₁.replaceGroup entry new).withoutUser pent.pwName) := by
      intro new put
      rw [putgrent_joined unset agrees accepted put]
      exact sameGroups_replaceGroup same found
    cases written with
    | neither => exact same
    | groupOnly put => exact first put
    | @both new _ put second =>
      split_ifs at second with listed
      · obtain ⟨sg, rfl⟩ := Option.isSome_iff_exists.mp listed
        obtain rfl := answers.same rfl
        have looked : (f₁.replaceGroup entry new).getsgnam entry.grName = some sg :=
          answers.first.of_some
        rw [GumdDaemonGroup.rewriteGshadow_own looked
          (GumdDaemonGroup.putsgent_joined false sg) rfl] at second
        obtain rfl := Except.ok.inj second
        exact sameGroups_replaceSgrp (first put) fit inside looked
      · obtain rfl := Except.ok.inj second
        exact first put

/-- Whatever groups a user has joined, without the user they are as before. -/
theorem Joined.sameGroups {f f₁ f₂ : Files} {pw : Passwd} (joined : Joined pw.pwUid f₁ f₂)
    (fit : f.GroupsFit) (user : f₁.getpwuid pw.pwUid = some pw)
    (same : f.SameGroups (f₁.withoutUser pw.pwName)) : f.SameGroups (f₂.withoutUser pw.pwName) := by
  induction joined with
  | done => exact same
  | join first _ ih =>
    apply ih
    · rw [Files.getpwuid, first.frame.1]
      exact user
    · exact sameGroups_memberAdded rfl fit user same first

end GumdDaemonUser

/-! ## The group of the user -/

/-- The files without a group. -/
def Files.withoutGroup (f : Files) (entry : Group) : Files :=
  { f with
    group := f.group.eraseP fun e => entry.grGid = e.grGid ∧ entry.grName = e.grName
    gshadow := f.gshadow.map (List.eraseP fun e => entry.grName = e.sgNamp) }

/-- A group may be dropped before or after a user has left the lists. -/
theorem Files.withoutGroup_withoutUser (f : Files) (entry : Group) (name : Str) :
    (f.withoutGroup entry).withoutUser name =
      (f.withoutUser name).withoutGroup (entry.withoutUser name) := by
  simp only [Files.withoutGroup, Files.withoutUser, List.eraseP_map, Option.map_map]
  congr 1
  cases f.gshadow with
  | none => rfl
  | some entries =>
    simp only [Option.map_some, Function.comp_apply, List.eraseP_map]
    rfl

namespace GumdDaemonUser

/-- What the deletion of the primary group leaves. -/
theorem deleted_doomed {env : Env} {f f' : Files} {pent : Passwd}
    (deleted : (doomedGroup pent).Deleted True env f true f') :
    ∃ entry, (doomedGroup pent).Found env f entry ∧
      (f.UsesGid entry.grGid ∧ f' = f ∨ ¬f.UsesGid entry.grGid ∧ f' = f.withoutGroup entry) := by
  cases deleted with
  | kept found used => exact ⟨_, found, Or.inl ⟨used, rfl⟩⟩
  | @deleted entry sg _ found unused _ looked written =>
    refine ⟨entry, found, Or.inr ⟨unused, ?_⟩⟩
    obtain rfl := looked trivial
    rcases Files.rewriteGshadow_ok written with ⟨absent, rfl⟩ | ⟨entries, out, present, edited, rfl⟩
    · replace absent : f.gshadow = none := absent
      simp only [Files.withoutGroup, Files.removeGroup, absent, Option.map_none]
    · replace present : f.gshadow = some entries := present
      rw [updateGshadowEntry_delete] at edited
      split_ifs at edited with listed
      obtain rfl := Except.ok.inj edited
      cases known : f.getsgnam entry.grName with
      | none =>
        have unnamed : ((doomedGroup pent).copyGroupEntries entry none).gshadow.sgNamp = none := rfl
        rw [known, unnamed] at listed
        simp at listed
      | some sg =>
        have named : ((doomedGroup pent).copyGroupEntries entry (some sg)).gshadow.sgNamp =
            some entry.grName := by
          have own := List.find?_some known
          rw [← eq_of_beq own]
          rfl
        simp only [Files.withoutGroup, Files.removeGroup, present, Option.map_some, named,
          Option.some.injEq]

section Created

variable {g : GumdDaemonGroup} {env : Env} {preferredGid gid : UInt32} {f : Files}
  {name : ValidName} {passwd : Str}

/-- The files with a group that has been created. -/
abbrev created (g : GumdDaemonGroup) (name : ValidName) (gid : UInt32) (passwd : Str) (f : Files) :
    Files :=
  (f.insertGroup (g.newEntry name gid)).appendGshadow (g.newGshadowEntry name passwd)

theorem mem_group_created {e : Group} :
    e ∈ (created g name gid passwd f).group ↔ e = g.newEntry name gid ∨ e ∈ f.group :=
  (perm_insertFirst _ _ f.group).mem_iff.trans List.mem_cons

theorem mem_gshadow_created {sg : Sgrp}
    (mem : sg ∈ (created g name gid passwd f).gshadow.getD []) :
    sg = g.newGshadowEntry name passwd ∨ sg ∈ f.gshadow.getD [] := by
  cases present : f.gshadow with
  | none =>
    rw [created, Files.appendGshadow, Files.insertGroup, present] at mem
    cases mem
  | some entries =>
    rw [created, Files.appendGshadow, Files.insertGroup, present] at mem
    rcases List.mem_append.mp mem with old | new
    · exact Or.inr old
    · exact Or.inl (List.mem_singleton.mp new)

theorem mem_hasGshadow {sg : Sgrp} (mem : sg ∈ f.gshadow.getD []) : f.HasGshadow sg.sgNamp := by
  cases present : f.gshadow with
  | none =>
    rw [present] at mem
    cases mem
  | some entries =>
    rw [present] at mem
    exact ⟨entries, present, sg, mem, rfl⟩

/-- A new group without members fits. -/
theorem groupsFit_created (fit : f.GroupsFit) (freshName : f.getgrnam name.val = none)
    (unlisted : ¬f.HasGshadow name.val) (unset : g.group.grMem = none) :
    (created g name gid passwd f).GroupsFit := by
  have entryMem : (g.newEntry name gid).grMem = [] := by
    rw [GumdDaemonGroup.newEntry, unset]
    rfl
  have sgMem : (g.newGshadowEntry name passwd).sgMem = [] := by
    rw [GumdDaemonGroup.newGshadowEntry, unset]
    rfl
  constructor
  · intro e mem sg mem' named
    rcases mem_group_created.mp mem with rfl | old
    · rcases mem_gshadow_created mem' with rfl | old'
      · rw [entryMem, sgMem]
      · have listed := mem_hasGshadow old'
        rw [named] at listed
        exact absurd listed unlisted
    · rcases mem_gshadow_created mem' with rfl | old'
      · have other := List.find?_eq_none.mp freshName e old
        exact absurd (beq_iff_eq.mpr named.symm) other
      · exact fit.lists e old sg old' named
  · intro e mem
    rcases mem_group_created.mp mem with rfl | old
    · change gumValidateDbSecretEntry (some (str "x")) = .ok ()
      decide +kernel
    · exact fit.passwd e old

theorem listsNowhere_created {other : Str} (nowhere : f.ListsNowhere other)
    (unset : g.group.grMem = none) (unsetAdm : g.gshadow.sgAdm = none) :
    (created g name gid passwd f).ListsNowhere other := by
  constructor
  · intro e mem
    rcases mem_group_created.mp mem with rfl | old
    · rw [GumdDaemonGroup.newEntry, unset]
      exact List.not_mem_nil
    · exact nowhere.1 e old
  · intro sg mem
    rcases mem_gshadow_created mem with rfl | old
    · rw [GumdDaemonGroup.newGshadowEntry, unset, unsetAdm]
      exact ⟨List.not_mem_nil, List.not_mem_nil⟩
    · exact nowhere.2 sg old

/-- A new group and its removal cancel out. -/
theorem withoutGroup_created (freshGid : f.getgrgid gid = none) (unlisted : ¬f.HasGshadow name.val) :
    (created g name gid passwd f).withoutGroup (g.newEntry name gid) = f := by
  have group : (created g name gid passwd f).group.eraseP (fun e =>
      (g.newEntry name gid).grGid = e.grGid ∧ (g.newEntry name gid).grName = e.grName) = f.group := by
    apply eraseP_insertFirst
    · simp
    · intro e mem
      have other := List.find?_eq_none.mp freshGid e mem
      have differs : gid ≠ e.grGid := by
        intro same
        exact other (beq_iff_eq.mpr same.symm)
      simp [GumdDaemonGroup.newEntry, differs]
  have gshadow : (created g name gid passwd f).gshadow.map (List.eraseP fun e =>
      (g.newEntry name gid).grName = e.sgNamp) = f.gshadow := by
    cases present : f.gshadow with
    | none =>
      rw [created, Files.appendGshadow, Files.insertGroup, present]
      rfl
    | some entries =>
      rw [created, Files.appendGshadow, Files.insertGroup, present, Option.map_some, Option.map_some]
      congr 1
      have others : ∀ e ∈ entries, ¬decide (name.val = e.sgNamp) = true := by
        intro e mem same
        exact unlisted ⟨entries, present, e, mem, (of_decide_eq_true same).symm⟩
      refine (List.eraseP_append_right _ others).trans ?_
      simp [GumdDaemonGroup.newGshadowEntry]
  rw [Files.withoutGroup, group, gshadow]
  rfl

end Created

end GumdDaemonUser

/-! ## Adding and deleting -/

/-- The configured primary group, if the group file has it. -/
def Files.configuredGroup (f : Files) (config : GumConfig) : Option Group :=
  (gumConfigGetString config gumConfigGeneralUsrPrimaryGrpname).bind f.getgrnam

/-- The files are as before, but that a configured primary group is gone that nobody has. -/
structure Files.Restored (config : GumConfig) (f f' : Files) : Prop where
  passwd : f'.passwd = f.passwd
  shadow : f'.shadow = f.shadow
  groups : (∀ grp, f.configuredGroup config = some grp → f.UsesGid grp.grGid) → f.SameGroups f'
  unusedGroup : ∀ grp, f.configuredGroup config = some grp → ¬f.UsesGid grp.grGid →
    (f.withoutGroup grp).SameGroups f'

theorem Files.SameGroups.withoutGroup {f f' : Files} (same : f.SameGroups f') (entry : Group) :
    (f.withoutGroup entry).SameGroups (f'.withoutGroup entry) := by
  unfold Files.SameGroups Files.withoutGroup
  rw [same.1, same.2]
  exact ⟨rfl, rfl⟩

theorem Files.SameGroups.withoutUser {f f' : Files} (same : f.SameGroups f') (name : Str) :
    (f.withoutUser name).SameGroups (f'.withoutUser name) := by
  unfold Files.SameGroups Files.withoutUser
  rw [same.1, same.2]
  exact ⟨rfl, rfl⟩

theorem Files.usesGid_congr {f f' : Files} (passwd : f'.passwd = f.passwd) (gid : UInt32) :
    f'.UsesGid gid ↔ f.UsesGid gid := by
  rw [Files.UsesGid, passwd, Files.UsesGid]

namespace GumdDaemonUser

section Restored

variable {calm : Prop} {u : GumdDaemonUser} {env env' : Env} {f f₁ f₃ f₄ f₅ : Files} {pw : Passwd}
  {gid : UInt32}

/-- The deletion of the primary group takes back what `_set_group` has done. -/
theorem restored_groups (well : f.WellFormed) (grouped : u.Grouped calm env f (some gid) f₁)
    (ownGid : pw.pwGid = gid) (joined : f₁.SameGroups (f₃.withoutUser pw.pwName))
    (passwd : f₄.passwd = f.passwd) (groups : f₃.SameGroups f₄)
    (deleted : (doomedGroup pw).Deleted True env' f₄ true f₅) :
    ((∀ grp, f.configuredGroup env.config = some grp → f.UsesGid grp.grGid) →
        f.SameGroups (f₅.withoutUser pw.pwName)) ∧
      ∀ grp, f.configuredGroup env.config = some grp → ¬f.UsesGid grp.grGid →
        (f.withoutGroup grp).SameGroups (f₅.withoutUser pw.pwName) := by
  obtain ⟨entry, found, outcome⟩ := deleted_doomed deleted
  have sameGid : entry.grGid = gid := found.gid.symm.trans ownGid
  have without : f₁.SameGroups (f₄.withoutUser pw.pwName) := by
    have later := groups.withoutUser pw.pwName
    exact ⟨later.1.trans joined.1, later.2.trans joined.2⟩
  have inside : entry.withoutUser pw.pwName ∈ f₁.group :=
    mem_withoutUser without (Files.getGroup_some found.found).1
  rw [Files.usesGid_congr passwd] at outcome
  cases grouped with
  | @reused grp configured =>
    have there : grp ∈ f.group := by
      obtain ⟨name, -, named⟩ := Option.bind_eq_some_iff.mp configured
      exact List.mem_of_find?_eq_some named
    have same : entry.withoutUser pw.pwName = grp :=
      List.inj_on_of_nodup_map well.distinct.gids inside there sameGid
    have only : ∀ grp', f.configuredGroup env.config = some grp' → grp' = grp :=
      fun grp' found' => Option.some.inj (found'.symm.trans configured)
    rcases outcome with ⟨used, rfl⟩ | ⟨unused, rfl⟩
    · refine ⟨fun _ => without, ?_⟩
      intro grp' found' unused
      rw [only grp' found', ← sameGid] at unused
      exact absurd used unused
    · constructor
      · intro used
        rw [sameGid] at unused
        exact absurd (used grp configured) unused
      · intro grp' found' _
        rw [only grp' found', Files.withoutGroup_withoutUser, same]
        exact without.withoutGroup grp
  | created missing added =>
    cases added with
    | @added name _ passwd addable fresh =>
      obtain ⟨freshName, freshGid⟩ := Addable.free addable
      have unknown : ∀ e ∈ f.group, e.grGid ≠ gid := by
        intro e mem same
        exact List.find?_eq_none.mp freshGid e mem (beq_iff_eq.mpr same)
      have none : ∀ grp, f.configuredGroup env.config ≠ some grp := by
        intro grp configured
        rw [Files.configuredGroup, missing] at configured
        cases configured
      refine ⟨fun _ => ?_, fun grp configured => absurd configured (none grp)⟩
      rcases outcome with ⟨used, -⟩ | ⟨-, rfl⟩
      · obtain ⟨e, mem, same⟩ := used
        obtain ⟨grp, there, primary⟩ := well.primary e mem
        exact absurd (primary.trans (same.trans sameGid)) (unknown grp there)
      · have same : entry.withoutUser pw.pwName = (u.primaryGroup env.config).newEntry name gid := by
          rcases mem_group_created.mp inside with new | old
          · exact new
          · exact (unknown _ old sameGid).elim
        rw [Files.withoutGroup_withoutUser, same]
        have dropped := without.withoutGroup ((u.primaryGroup env.config).newEntry name gid)
        rw [show ((f.insertGroup _).appendGshadow _).withoutGroup _ = f from
          withoutGroup_created freshGid fresh] at dropped
        exact dropped

/-- What a deletion that succeeds has done. -/
theorem UserDeleted.done {remHomeDir : Bool} {euid : UInt32}
    (deleted : u.UserDeleted True env remHomeDir euid f true f₅) :
    ∃ name pent spent f₁ f₂, u.Located euid f name pent spent ∧
      (f.lockShadow name.val true).SameDb f₁ ∧ (doomedGroup pent).Deleted True env
        ((f₁.removePasswd pent).removeShadow name.val) true f₂ ∧ f₅ = f₂.withoutUser name.val := by
  obtain ⟨r, success⟩ : ∃ r, r = true := ⟨true, rfl⟩
  rw [← success] at deleted
  cases deleted with
  | refused why => cases success
  | survived located alive why => cases success
  | interrupted faulty located terminated same removed unlocked => cases success
  | noGroup located terminated same group => cases success
  | memberships faulty located terminated same group parted => cases success
  | ended located terminated same group parted =>
    refine ⟨_, _, _, _, _, located, same, group, ?_⟩
    cases parted with
    | gshadowOnly faulty => exact absurd trivial faulty
    | deleted => exact Files.deleteMembers_eq _ _

/-- The entries of a new user are the only ones a deletion takes. -/
theorem Written.removed {sp : Spwd} (written : Written f f₃ pw sp)
    (fresh : ¬f.HasShadow sp.spNamp) (same : (f₃.lockShadow pw.pwName true).SameDb f₄) :
    ((f₄.removePasswd pw).removeShadow pw.pwName).passwd = f.passwd ∧
      ((f₄.removePasswd pw).removeShadow pw.pwName).shadow = f.shadow := by
  have named : sp.spNamp = pw.pwName := by
    have own := List.find?_some written.inShadow
    exact eq_of_beq own
  constructor
  · change f₄.passwd.eraseP _ = f.passwd
    rw [same.passwd]
    change f₃.passwd.eraseP _ = f.passwd
    rw [written.passwd]
    apply eraseP_insertFirst
    · simp
    · intro e mem
      have other := List.find?_eq_none.mp written.freshUid e mem
      have differs : pw.pwUid ≠ e.pwUid := by
        intro same
        exact other (beq_iff_eq.mpr same.symm)
      simp [differs]
  · change f₄.shadow.eraseP _ = f.shadow
    rw [same.shadow]
    change (modifyFirst _ _ f₃.shadow).eraseP _ = f.shadow
    have keeps : ∀ e : Spwd, decide (pw.pwName = e.spNamp) = true →
        decide (pw.pwName = (Spwd.relock true e).spNamp) = true := fun _ picked => picked
    rw [eraseP_modifyFirst keeps, written.shadow]
    have others : ∀ e ∈ f.shadow, ¬decide (pw.pwName = e.spNamp) = true := by
      intro e mem same
      exact fresh ⟨e, mem, by rw [named]; exact (of_decide_eq_true same).symm⟩
    refine (List.eraseP_append_right _ others).trans ?_
    simp [named]

/-- Without the new user the groups are those after `_set_group`. -/
theorem joinedGroups {f₂ : Files} {sp : Spwd} (well : f.WellFormed)
    (grouped : u.Grouped calm env f (some gid) f₁) (nowhere : f.ListsNowhere pw.pwName)
    (same : ((f₁.insertPasswd pw).appendShadow sp).SameDb f₂) (joined : Joined pw.pwUid f₂ f₃)
    (user : f₂.getpwuid pw.pwUid = some pw) : f₁.SameGroups (f₃.withoutUser pw.pwName) := by
  have groups : f₁.SameGroups f₂ := ⟨same.group, same.gshadow⟩
  have start : f₁.GroupsFit ∧ f₁.ListsNowhere pw.pwName := by
    cases grouped with
    | reused found => exact ⟨well.groups, nowhere⟩
    | created missing added =>
      cases added with
      | added addable fresh =>
        exact ⟨groupsFit_created well.groups (Addable.free addable).1 fresh rfl,
          listsNowhere_created nowhere rfl rfl⟩
  have without := groups.withoutUser pw.pwName
  rw [Files.withoutUser_of_listsNowhere start.2] at without
  exact joined.sameGroups start.1 user without

/-- Where nothing disturbs the deletion of a new user, it takes back what the addition has done. -/
theorem restored {uid euid : UInt32} {v : GumdDaemonUser} {remHomeDir : Bool} (well : f.WellFormed)
    (added : u.UserAdded calm env f (some uid) f₃) (sameUid : v.pw.pwUid = uid)
    (deleted : v.UserDeleted True env' remHomeDir euid f₃ true f₅) :
    f.Restored env.config f₅ := by
  cases added with
  | @added u' gid f₁ f₂ _ pw sp prepared grouped writes fresh same joined home =>
    have written := writes.written prepared grouped fresh same joined
    have before := writes.written prepared grouped fresh same Joined.done
    obtain ⟨freshName, -, ownGid⟩ := key_writes prepared writes
    obtain ⟨name, pent, spent, f₄, f₆, located, locked, group, rfl⟩ := deleted.done
    -- the entry that is found is the new one
    obtain rfl : pent = pw := by
      have entry := located.entry
      rw [Files.getPasswd_of_uid _ located.valid, sameUid, written.byUid] at entry
      exact (Option.some.inj (Option.filter_eq_some_iff.mp entry).1).symm
    obtain ⟨name, valid⟩ := name
    obtain rfl : name = pent.pwName := located.name
    obtain ⟨passwd, shadow⟩ := written.removed fresh locked
    have nowhere := well.members.listsNowhere freshName
    have joins := joinedGroups well grouped nowhere same joined before.byUid
    obtain ⟨groups, unusedGroup⟩ := restored_groups well grouped ownGid joins passwd
      ⟨locked.group, locked.gshadow⟩ group
    have frame := group.frame
    exact ⟨frame.1.trans passwd, frame.2.trans shadow, groups, unusedGroup⟩

end Restored

/-- Adding a user and then deleting it leaves the four files as they were, entry by entry and in the
same order; only a configured primary group that no other user has goes with it. -/
theorem userAdd_userDelete_restores {s : St GumdDaemonUser} (well : s.world.files.WellFormed)
    (readable : s.world.faults.read = .const true) (env env' : Env) (remHomeDir : Bool) :
    wp (gumdDaemonUserAdd env) (fun r t => ∀ uid, r = some uid → ∀ (v : GumdDaemonUser) (w : World),
      w.files = t.world.files → w.Faultless → v.pw.pwUid = uid →
      wp (gumdDaemonUserDelete env' remHomeDir) (fun ok x => ok = true →
        s.world.files.Restored env.config x.world.files) ⟨v, w⟩) s := by
  refine wp_mono (gumdDaemonUserAdd_spec readable env) ?_
  intro r t spec
  obtain ⟨-, added⟩ := spec
  intro uid success v w files faultless sameUid
  rw [success, ← files] at added
  by_cases granted : w.lockGranted = true
  · refine wp_mono (@gumdDaemonUserDelete_spec ⟨v, w⟩ faultless.read env' remHomeDir) ?_
    intro ok x spec
    obtain ⟨-, deleted⟩ := spec
    intro done
    have calm : w.Calm := faultless.calm granted
    dsimp only at deleted
    rw [done, eq_true calm] at deleted
    exact restored well added sameUid deleted
  · refine wp_refused (s := ⟨v, w⟩) (Bool.eq_false_iff.mpr granted) ?_
    intro t _
    simp only [wp_liftM, wp_gumReturnWithError]
    intro done
    cases done

end GumdDaemonUser

namespace Sample

theorem wellFormed_files : files.WellFormed := by
  have members : ∀ e ∈ files.group, ∀ n ∈ e.grMem, ∃ x ∈ files.passwd, x.pwName = n := by
    decide +kernel
  have primary : ∀ e ∈ files.passwd, ∃ g ∈ files.group, g.grGid = e.pwGid := by
    decide +kernel
  have passwd : ∀ e ∈ files.group, gumValidateDbSecretEntry (some e.grPasswd) = .ok () := by
    decide +kernel
  have empty : ∀ sg : Sgrp, ¬sg ∈ files.gshadow.getD [] := fun sg => List.not_mem_nil
  constructor
  · constructor <;> decide +kernel
  · exact ⟨members, fun sg mem => absurd mem (empty sg), fun sg mem => absurd mem (empty sg)⟩
  · exact primary
  · exact ⟨fun e _ sg mem => absurd mem (empty sg), passwd⟩

theorem userAdd_userDelete_restores_bob :
    wp (GumdDaemonUser.gumdDaemonUserAdd env) (fun r t => ∀ uid, r = some uid →
      ∀ (v : GumdDaemonUser) (w : World), w.files = t.world.files → w.Faultless →
      v.pw.pwUid = uid → wp (GumdDaemonUser.gumdDaemonUserDelete env false) (fun ok x => ok = true →
        files.Restored env.config x.world.files) ⟨v, w⟩) addition :=
  @GumdDaemonUser.userAdd_userDelete_restores addition wellFormed_files rfl env env false

/-- The configured group of the new user, of which alice is a member, goes with it. -/
theorem userAdd_userDelete_not_same :
    wp (GumdDaemonUser.gumdDaemonUserAdd staffEnv) (fun r t => r = some 1001 ∧
      wp (GumdDaemonUser.gumdDaemonUserDelete staffEnv false) (fun ok x => ok = true ∧
        ¬files.SameDb x.world.files) ⟨t.self, GumdDaemonUser.calmWorld t.world.files⟩) addition := by
  refine ⟨by decide +kernel, by decide +kernel, ?_⟩
  intro same
  have group := same.group
  revert group
  decide +kernel

end Sample

end Gumd
