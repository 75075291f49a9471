import Gumd.Atomicity

/-!
# Members of groups

Whether every name in a member list is the name of a user.  The operations that write lists their
object has cached, and the deletion of a user that stops before the memberships, are the ones that can
break this.
-/

namespace Gumd

open StateWp EntryLoop

/-! ## Names in member lists -/

/-- Every name in a member list of the group and gshadow files has the property. -/
structure Files.Members (f : Files) (P : Str → Prop) : Prop where
  grMem : ∀ e ∈ f.group, ∀ n ∈ e.grMem, P n
  sgMem : ∀ e ∈ f.gshadow.getD [], ∀ n ∈ e.sgMem, P n
  sgAdm : ∀ e ∈ f.gshadow.getD [], ∀ n ∈ e.sgAdm, P n

/-- The name is the name of a user. -/
def Files.HasUser (f : Files) (name : Str) : Prop := ∃ e ∈ f.passwd, e.pwName = name

/-- Every name in a member list is the name of a user. -/
def Files.MembersKnown (f : Files) : Prop := f.Members f.HasUser

/-- The lists a record writes to the gshadow file have the property. -/
structure SgrpRecord.Lists (sg : SgrpRecord) (P : Str → Prop) : Prop where
  sgMem : ∀ n ∈ sg.sgMem.getD [], P n
  sgAdm : ∀ n ∈ sg.sgAdm.getD [], P n

section Members

variable {f f' : Files} {P Q : Str → Prop}

theorem Files.Members.mono (members : f.Members P) (weaken : ∀ n, P n → Q n) : f.Members Q where
  grMem e mem n inList := weaken n (members.grMem e mem n inList)
  sgMem e mem n inList := weaken n (members.sgMem e mem n inList)
  sgAdm e mem n inList := weaken n (members.sgAdm e mem n inList)

theorem Files.Members.of_same (members : f.Members P) (group : f'.group = f.group)
    (gshadow : f'.gshadow = f.gshadow) : f'.Members P where
  grMem e mem := members.grMem e (group ▸ mem)
  sgMem e mem := members.sgMem e (gshadow ▸ mem)
  sgAdm e mem := members.sgAdm e (gshadow ▸ mem)

theorem Files.Members.and (first : f.Members P) (second : f.Members Q) :
    f.Members fun n => P n ∧ Q n where
  grMem e mem n inList := ⟨first.grMem e mem n inList, second.grMem e mem n inList⟩
  sgMem e mem n inList := ⟨first.sgMem e mem n inList, second.sgMem e mem n inList⟩
  sgAdm e mem n inList := ⟨first.sgAdm e mem n inList, second.sgAdm e mem n inList⟩

theorem Files.hasUser_iff {n : Str} : f.HasUser n ↔ ∃ u ∈ f.accounts.users, u.name = n := by
  simp [Files.HasUser, Files.accounts, Passwd.key]

/-- Names stay known while no user goes. -/
theorem Files.Members.known (members : f'.Members f.HasUser)
    (users : f'.accounts.users = f.accounts.users) : f'.MembersKnown := by
  refine members.mono fun n user => ?_
  rwa [Files.hasUser_iff, users, ← Files.hasUser_iff]

theorem Files.MembersKnown.of_same (known : f.MembersKnown) (passwd : f'.passwd = f.passwd)
    (group : f'.group = f.group) (gshadow : f'.gshadow = f.gshadow) : f'.MembersKnown :=
  (Files.Members.of_same known group gshadow).known (by rw [Files.accounts, passwd, Files.accounts])

/-- A change of the group file that adds only entries with such members. -/
theorem Files.Members.setGroup (members : f.Members P) {group : List Group}
    (new : ∀ e ∈ group, e ∈ f.group ∨ ∀ n ∈ e.grMem, P n) :
    Files.Members { f with group := group } P := by
  refine ⟨fun e mem => ?_, members.sgMem, members.sgAdm⟩
  rcases new e mem with old | new
  · exact members.grMem e old
  · exact new

/-- A change of the gshadow file that adds only entries with such names. -/
theorem Files.Members.setGshadow (members : f.Members P) {gshadow : Option (List Sgrp)}
    (new : ∀ e ∈ gshadow.getD [], e ∈ f.gshadow.getD [] ∨
      (∀ n ∈ e.sgMem, P n) ∧ ∀ n ∈ e.sgAdm, P n) :
    Files.Members { f with gshadow := gshadow } P := by
  refine ⟨members.grMem, fun e mem => ?_, fun e mem => ?_⟩
  · rcases new e mem with old | new
    · exact members.sgMem e old
    · exact new.1
  · rcases new e mem with old | new
    · exact members.sgAdm e old
    · exact new.2

theorem Files.Members.insertGroup (members : f.Members P) {new : Group}
    (lists : ∀ n ∈ new.grMem, P n) : (f.insertGroup new).Members P := by
  refine members.setGroup fun e mem => ?_
  rcases mem_insertFirst.mp mem with rfl | old
  · exact Or.inr lists
  · exact Or.inl old

theorem Files.Members.replaceGroup (members : f.Members P) {entry new : Group}
    (lists : ∀ n ∈ new.grMem, P n) : (f.replaceGroup entry new).Members P := by
  refine members.setGroup fun e mem => ?_
  rcases mem_modifyFirst mem with old | ⟨_, _, _, rfl⟩
  · exact Or.inl old
  · exact Or.inr lists

theorem Files.Members.removeGroup (members : f.Members P) (entry : Group) :
    (f.removeGroup entry).Members P :=
  members.setGroup fun _ mem => Or.inl (List.mem_of_mem_eraseP mem)

theorem Files.Members.appendGshadow (members : f.Members P) {new : Sgrp}
    (lists : f.gshadow.isSome → (∀ n ∈ new.sgMem, P n) ∧ ∀ n ∈ new.sgAdm, P n) :
    (f.appendGshadow new).Members P := by
  refine members.setGshadow fun e mem => ?_
  cases present : f.gshadow with
  | none => simp [present] at mem
  | some entries =>
    simp only [present, Option.map_some, Option.getD_some] at mem
    rcases List.mem_append.mp mem with old | new
    · exact Or.inl (by simpa using old)
    · obtain rfl := List.mem_singleton.mp new
      exact Or.inr (lists (by simp [present]))

/-- Copied lists have the property if those of both sides have it. -/
theorem SgrpRecord.Lists.copyGshadowStruct {dest : SgrpRecord} {src : Option Sgrp} {b : Bool}
    (own : dest.Lists P) (copied : ∀ e, src = some e → (∀ n ∈ e.sgMem, P n) ∧ ∀ n ∈ e.sgAdm, P n) :
    (Gumd.copyGshadowStruct src b dest).Lists P := by
  cases src with
  | none => exact own
  | some e =>
    obtain ⟨sgMem, sgAdm⟩ := copied e rfl
    constructor <;> simp only [Gumd.copyGshadowStruct] <;> split_ifs
    exacts [sgMem, own.sgMem, sgAdm, own.sgAdm]

/-- The entry an answer delivers is in the gshadow file. -/
theorem Files.Members.of_getsgnam (members : f.Members P) {name : Str} {e : Sgrp}
    (found : f.getsgnam name = some e) : (∀ n ∈ e.sgMem, P n) ∧ ∀ n ∈ e.sgAdm, P n := by
  have mem := List.mem_of_find?_eq_some found
  exact ⟨members.sgMem e mem, members.sgAdm e mem⟩

/-- A rewrite of the gshadow file that drops an entry or replaces one by the object's record. -/
theorem Files.Members.rewriteGshadow (members : f.Members P) {g : GumdDaemonGroup}
    {op : GumOpType} {userData : Option Str}
    (lists : ∀ name, op = .modify → userData.or g.gshadow.sgNamp = some name →
      (f.getsgnam name).isSome → g.gshadow.Lists P) (notAdd : op ≠ .add)
    (written : Files.rewriteGshadow (updateGshadowEntry g op userData) f = .ok f') :
    f'.Members P := by
  rcases Files.rewriteGshadow_ok written with ⟨-, rfl⟩ | ⟨entries, out, present, result, rfl⟩
  · exact members
  refine members.setGshadow fun e mem => ?_
  rw [present, Option.getD_some]
  cases op with
  | add => exact absurd rfl notAdd
  | delete =>
    rw [updateGshadowEntry_delete] at result
    split_ifs at result
    obtain rfl := Except.ok.inj result
    exact Or.inl (List.mem_of_mem_eraseP mem)
  | modify =>
    rw [updateGshadowEntry_modify] at result
    split_ifs at result with picked
    cases put : g.gshadow.putsgent with
    | none => simp [put] at result
    | some new =>
      simp only [put, Option.elim_some, Except.ok.injEq] at result
      subst result
      rcases mem_modifyFirst mem with old | ⟨x, inFile, same, rfl⟩
      · exact Or.inl old
      · have named := of_decide_eq_true same
        have found : (f.getsgnam x.sgNamp).isSome := by
          rw [Files.getsgnam, present, Option.getD_some, List.find?_isSome]
          exact ⟨x, inFile, by simp⟩
        obtain ⟨sgMem, sgAdm⟩ := lists _ rfl named found
        obtain ⟨name, -, rfl⟩ := Option.map_eq_some_iff.mp put
        exact Or.inr ⟨sgMem, sgAdm⟩

end Members

/-! ## Group operations -/

section Group

variable {calm clear : Prop} {g : GumdDaemonGroup} {env : Env} {f f' : Files} {P : Str → Prop}
  {r : Bool}

theorem Rewritten.members {entry : Group} {second : Files → Except GError Files}
    (written : Rewritten g entry second f r f') (grMem : ∀ n ∈ g.group.grMem.getD [], P n)
    (later : ∀ f₁, f₁.gshadow = f.gshadow → f₁.Members P → second f₁ = .ok f' → f'.Members P)
    (members : f.Members P) : f'.Members P := by
  have lists : ∀ {new}, g.group.putgrent = some new → ∀ n ∈ new.grMem, P n := by
    intro new put
    obtain ⟨name, -, rfl⟩ := Option.map_eq_some_iff.mp put
    exact grMem
  cases written with
  | neither => exact members
  | groupOnly put => exact members.replaceGroup (lists put)
  | both put written =>
    exact later (f.replaceGroup entry _) rfl (members.replaceGroup (lists put)) written

namespace GumdDaemonGroup

/-- The lists an addition writes have the property. -/
def AddsMembers (g : GumdDaemonGroup) (env : Env) (preferredGid : UInt32) (f : Files)
    (P : Str → Prop) : Prop :=
  ∀ name gid passwd, g.Addable env preferredGid f name gid passwd →
    (∀ n ∈ g.group.grMem.getD [], P n) ∧
      (f.gshadow.isSome → ¬f.HasGshadow name.val → ∀ n ∈ g.gshadow.sgAdm.getD [], P n)

theorem Added.members {preferredGid : UInt32} {r : Option UInt32}
    (added : g.Added calm env preferredGid f r f') (lists : g.AddsMembers env preferredGid f P)
    (members : f.Members P) : f'.Members P := by
  cases added with
  | refused why => exact members
  | groupOnly addable why => exact members.insertGroup (lists _ _ _ addable).1
  | added addable fresh =>
    obtain ⟨grMem, sgAdm⟩ := lists _ _ _ addable
    exact (members.insertGroup grMem).appendGshadow fun present => ⟨grMem, sgAdm present fresh⟩

theorem Deleted.members (deleted : g.Deleted calm env f r f') (members : f.Members P) :
    f'.Members P := by
  cases deleted with
  | refused why => exact members
  | kept fits used => exact members
  | groupOnly fits unused valid answer why => exact members.removeGroup _
  | deleted fits unused valid answer written =>
    exact (members.removeGroup _).rewriteGshadow (by simp) (by simp) written

/-- The lists an update writes from the object have the property. -/
def UpdatesMembers (clear : Prop) (g : GumdDaemonGroup) (env : Env) (f : Files)
    (P : Str → Prop) : Prop :=
  ∀ entry sg, g.Updating f entry → Answer clear (f.getsgnam entry.grName) sg →
    g.Rekeys env entry sg →
    (∀ n ∈ g.group.grMem.getD [], P n) ∧
      ((f.getsgnam entry.grName).isSome → g.gshadow.Lists P)

theorem Updated.members (updated : g.Updated clear env f r f')
    (lists : g.UpdatesMembers clear env f P) (members : f.Members P) : f'.Members P := by
  cases updated with
  | refused => exact members
  | @rewritten entry sg _ _ updating answer rekeys written =>
    obtain ⟨grMem, own⟩ := lists entry sg updating answer rekeys
    refine written.members ?_ (fun f₁ same members₁ second => ?_) members
    · rw [grMem_updated, Option.getD_some]
      cases listed : g.group.grMem with
      | none => exact members.grMem entry (Files.getGroup_some updating.found).1
      | some names => simpa [listed] using grMem
    · refine members₁.rewriteGshadow ?_ (by simp) second
      rintro name - named found
      obtain rfl : entry.grName = name := by simpa using named
      rw [Files.getsgnam, same, ← Files.getsgnam] at found
      have copied : (copyGshadowStruct sg true g.gshadow).Lists P := by
        refine (own found).copyGshadowStruct fun e looked => ?_
        rw [looked] at answer
        exact members.of_getsgnam answer.of_some
      rw [gshadow_updated]
      exact ⟨copied.sgMem, copied.sgAdm⟩

/-- The lists that come from the files have the property. -/
theorem Answers.lists {entry : Group} {sg copied : Option Sgrp} {e : Sgrp}
    (answers : Answers clear f entry sg copied) (looked : copied = some e)
    (members : f.Members P) : (∀ n ∈ e.sgMem, P n) ∧ ∀ n ∈ e.sgAdm, P n := by
  have answer := answers.copied_eq
  rw [looked] at answer
  exact members.of_getsgnam answer.of_some

/-- The lists of the object an addition of a member writes. -/
theorem lists_joined (g : GumdDaemonGroup) {entry : Group} {e : Sgrp} {name : Str}
    (addAsAdmin : Bool) (grMem : ∀ n ∈ entry.grMem ++ [name], P n) (sgAdm : ∀ n ∈ e.sgAdm, P n) :
    (g.joined entry (some e) (some e) name addAsAdmin).gshadow.Lists P := by
  have own : P name := grMem name (by simp)
  rw [joined, addMemberLists]
  split_ifs
  · refine ⟨grMem, fun n mem => ?_⟩
    rcases List.mem_append.mp mem with old | new
    · exact sgAdm n old
    · exact List.mem_singleton.mp new ▸ own
  · exact ⟨grMem, sgAdm⟩

theorem MemberAdded.members {uid : UInt32} {admin : Bool}
    (added : g.MemberAdded clear uid admin f r f')
    (user : ∀ pent, f.getpwuid uid = some pent → P pent.pwName) (members : f.Members P) :
    f'.Members P := by
  cases added with
  | refused => exact members
  | @rewritten pent entry sg copied _ _ found group absent answers written =>
    have joinedList : ∀ n ∈ entry.grMem ++ [pent.pwName], P n := by
      intro n mem
      rcases List.mem_append.mp mem with old | new
      · exact members.grMem entry (Files.getGroup_some group).1 n old
      · exact List.mem_singleton.mp new ▸ user pent found
    refine written.members ?_ (fun f₁ same members₁ second => ?_) members
    · rw [grMem_joined]
      exact joinedList
    · split_ifs at second with shown
      · obtain ⟨e, rfl⟩ := Option.isSome_iff_exists.mp shown
        obtain rfl := answers.same shown
        obtain ⟨-, sgAdm⟩ := answers.lists rfl members
        exact members₁.rewriteGshadow (fun _ _ _ _ => lists_joined g admin joinedList sgAdm)
          (by simp) (Files.rewriteGshadow_of_rewrite second)
      · obtain rfl := Except.ok.inj second
        exact members₁

/-- The administrators a removal of a member writes from the object have the property; it writes them
where the group has no gshadow entry, but the object's gshadow name does. -/
def PartsMembers (clear : Prop) (g : GumdDaemonGroup) (uid : UInt32) (f : Files)
    (P : Str → Prop) : Prop :=
  ∀ pent entry name, f.getpwuid uid = some pent → f.getGroup g.group = some entry →
    pent.pwName ∈ entry.grMem → Answers clear f entry none none → g.gshadow.sgNamp = some name →
    (f.getsgnam name).isSome → ∀ n ∈ g.gshadow.sgAdm.getD [], P n

/-- The lists of the object a removal of a member writes. -/
theorem lists_parted (g : GumdDaemonGroup) {entry : Group} {sg copied : Option Sgrp} {name : Str}
    (grMem : ∀ n ∈ entry.grMem, P n) (looked : ∀ e, sg = some e → ∀ n ∈ e.sgAdm, P n)
    (kept : ∀ n ∈ (copyGshadowStruct copied false g.gshadow).sgAdm.getD [], P n) :
    (g.parted entry sg copied name).gshadow.Lists P := by
  have shorter : ∀ {v : List Str}, (∀ n ∈ v, P n) →
      ∀ n ∈ (gumStringUtilsDeleteString (some v) (some name)).getD [], P n :=
    fun all n mem => all n (mem_gumStringUtilsDeleteString mem).1
  rw [parted, deleteMemberLists]
  dsimp only
  split_ifs with admin
  · refine ⟨shorter grMem, ?_⟩
    cases sg with
    | none => simp [gumStringUtilsSearchStringv] at admin
    | some e => exact shorter (looked e rfl)
  · exact ⟨shorter grMem, kept⟩

theorem MemberDeleted.members {uid : UInt32} (deleted : g.MemberDeleted clear uid f r f')
    (lists : g.PartsMembers clear uid f P) (members : f.Members P) : f'.Members P := by
  cases deleted with
  | refused => exact members
  | @rewritten pent entry sg copied _ _ found group present answers written =>
    have grMem := members.grMem entry (Files.getGroup_some group).1
    refine written.members ?_ (fun f₁ same members₁ second => ?_) members
    · rw [grMem_parted]
      exact fun n mem => grMem n (mem_gumStringUtilsDeleteString mem).1
    · refine members₁.rewriteGshadow (fun name _ named shown => ?_) (by simp) second
      refine lists_parted g grMem (fun e looked => ?_) ?_
      · exact (answers.lists ((answers.same (by simp [looked])).trans looked) members).2
      · cases copied with
        | some e => exact (answers.lists rfl members).2
        | none =>
          obtain rfl : sg = none := by
            cases sg with
            | none => rfl
            | some e => exact (answers.same rfl).symm
          have own : (g.parted entry none none pent.pwName).gshadow.sgNamp = g.gshadow.sgNamp := by
            rw [parted, deleteMemberLists]
            dsimp only
            split_ifs <;> rfl
          rw [Option.none_or, own] at named
          rw [Files.getsgnam, same, ← Files.getsgnam] at shown
          exact lists pent entry name found group present answers named shown

end GumdDaemonGroup

theorem mem_withoutMember {v : List Str} {name n : Str} :
    n ∈ withoutMember v name ↔ n ∈ v ∧ n ≠ name := by
  rw [withoutMember]
  split_ifs with member
  · rw [gumStringUtilsDeleteString_of_mem (by simpa using member)]
    simp
  · have absent : name ∉ v := by simpa using member
    refine ⟨fun mem => ⟨mem, ?_⟩, fun mem => mem.1⟩
    rintro rfl
    exact absent mem

theorem Files.Members.deleteGroupMember (members : f.Members P) (name : Str) :
    (f.deleteGroupMember name).Members P := by
  refine ⟨fun e mem n inList => ?_, members.sgMem, members.sgAdm⟩
  obtain ⟨e, old, rfl⟩ := List.mem_map.mp mem
  exact members.grMem e old n (mem_withoutMember.mp inList).1

theorem Files.mem_deleteGshadowMember {name : Str} {e : Sgrp}
    (mem : e ∈ (f.deleteGshadowMember name).gshadow.getD []) :
    ∃ old ∈ f.gshadow.getD [], e = old.deleteMember name := by
  rw [Files.deleteGshadowMember] at mem
  cases present : f.gshadow with
  | none => simp [present] at mem
  | some entries =>
    simp only [present, Option.map_some, Option.getD_some] at mem
    obtain ⟨old, inFile, rfl⟩ := List.mem_map.mp mem
    exact ⟨old, inFile, rfl⟩

theorem Files.Members.deleteGshadowMember (members : f.Members P) (name : Str) :
    (f.deleteGshadowMember name).Members P := by
  refine ⟨members.grMem, fun e mem n inList => ?_, fun e mem n inList => ?_⟩
  · obtain ⟨old, inFile, rfl⟩ := Files.mem_deleteGshadowMember mem
    exact members.sgMem old inFile n (mem_withoutMember.mp inList).1
  · obtain ⟨old, inFile, rfl⟩ := Files.mem_deleteGshadowMember mem
    exact members.sgAdm old inFile n (mem_withoutMember.mp inList).1

/-- The removal of a user from all groups adds no member. -/
theorem MembershipDeleted.members {name : Str} (parted : MembershipDeleted calm name f r f')
    (members : f.Members P) : f'.Members P := by
  cases parted with
  | refused why => exact members
  | failed faulty result =>
    rcases result with rfl | rfl | rfl
    exacts [members, members.deleteGroupMember name, members.deleteGshadowMember name]
  | gshadowOnly faulty => exact members.deleteGshadowMember name
  | deleted => exact (members.deleteGroupMember name).deleteGshadowMember name

/-- After a removal that is not disturbed the user is in no list. -/
theorem MembershipDeleted.others {name : Str} (undisturbed : calm)
    (parted : MembershipDeleted calm name f true f') (members : f.Members P) :
    f'.Members fun n => P n ∧ n ≠ name := by
  cases parted with
  | gshadowOnly faulty => exact absurd undisturbed faulty
  | deleted =>
    refine ⟨fun e mem n inList => ?_, fun e mem n inList => ?_, fun e mem n inList => ?_⟩
    · obtain ⟨old, inFile, rfl⟩ := List.mem_map.mp mem
      obtain ⟨before, other⟩ := mem_withoutMember.mp inList
      exact ⟨members.grMem old inFile n before, other⟩
    · obtain ⟨old, inFile, rfl⟩ := Files.mem_deleteGshadowMember mem
      obtain ⟨before, other⟩ := mem_withoutMember.mp inList
      exact ⟨members.sgMem old inFile n before, other⟩
    · obtain ⟨old, inFile, rfl⟩ := Files.mem_deleteGshadowMember mem
      obtain ⟨before, other⟩ := mem_withoutMember.mp inList
      exact ⟨members.sgAdm old inFile n before, other⟩

end Group

/-! ## User operations -/

section User

variable {calm : Prop} {u : GumdDaemonUser} {env : Env} {f f' : Files} {P : Str → Prop}

namespace GumdDaemonUser

/-- The primary group of a new user has no members. -/
theorem Grouped.members {gid : Option UInt32} (grouped : u.Grouped calm env f gid f')
    (members : f.Members P) : f'.Members P := by
  cases grouped with
  | reused found => exact members
  | created missing added =>
    refine added.members (fun _ _ _ _ => ⟨?_, fun _ _ => ?_⟩) members
    · simp [primaryGroup, gumdDaemonGroupNew, GumdDaemonGroup.setGroupnameProperty,
        GumdDaemonGroup.setGrouptypeProperty]
    · simp [primaryGroup, gumdDaemonGroupNew, GumdDaemonGroup.setGroupnameProperty,
        GumdDaemonGroup.setGrouptypeProperty]

/-- The user who joins groups is a user. -/
theorem Joined.known {uid : UInt32} (joined : Joined uid f f') (known : f.MembersKnown) :
    f'.MembersKnown := by
  induction joined with
  | done => exact known
  | join first _ ih =>
    refine ih (Files.Members.known (first.members (fun pent found => ?_) known) ?_)
    · exact ⟨pent, List.mem_of_find?_eq_some found, rfl⟩
    · rw [accounts_memberAdded first]

theorem UserAdded.known {r : Option UInt32} (added : u.UserAdded calm env f r f')
    (known : f.MembersKnown) : f'.MembersKnown := by
  have afterGroup : ∀ {u' : GumdDaemonUser} {gid f₁}, u'.Grouped calm env f gid f₁ →
      f₁.MembersKnown := fun grouped =>
    (grouped.members known).known (by rw [Files.accounts, grouped.frame.1, Files.accounts])
  have afterPasswd : ∀ {f₁ : Files} (pw : Passwd), f₁.MembersKnown →
      (f₁.insertPasswd pw).MembersKnown := by
    intro f₁ pw known₁
    have members : (f₁.insertPasswd pw).Members f₁.HasUser :=
      Files.Members.of_same known₁ rfl rfl
    refine members.mono ?_
    rintro n ⟨e, mem, named⟩
    exact ⟨e, mem_insertFirst.mpr (Or.inr mem), named⟩
  cases added with
  | refused why => exact known
  | noGroup prepared grouped => exact afterGroup grouped
  | noSecret prepared grouped why => exact afterGroup grouped
  | passwdOnly prepared grouped writes why => exact afterPasswd _ (afterGroup grouped)
  | homeless prepared grouped writes fresh same joined why =>
    exact joined.known ((afterPasswd _ (afterGroup grouped)).of_same same.passwd same.group
      same.gshadow)
  | added prepared grouped writes fresh same joined home =>
    exact joined.known ((afterPasswd _ (afterGroup grouped)).of_same same.passwd same.group
      same.gshadow)

theorem UserUpdated.frame {r : Bool} (updated : u.UserUpdated calm env f r f') :
    f'.group = f.group ∧ f'.gshadow = f.gshadow := by
  cases updated with
  | refused why => exact ⟨rfl, rfl⟩
  | rejected updatable same icon why => exact ⟨same.group, same.gshadow⟩
  | passwdOnly faulty updatable same put => exact ⟨same.group, same.gshadow⟩
  | updated updatable same icon encrypted agreed changed put putSp =>
    exact ⟨same.group, same.gshadow⟩

/-- A deletion ends with the memberships, or the user had none. -/
def PartsWhole (calm : Prop) (u : GumdDaemonUser) (env : Env) (euid : UInt32) (f : Files) :
    Prop :=
  ∀ name pent spent, u.Located euid f name pent spent → terminateUser env.logind = true →
    f.Members (· ≠ name.val) ∨ calm ∧ PrimaryGroupGoes env (f.removePasswd pent) pent

variable {rem r : Bool} {euid : UInt32}

/-- A deletion adds no members. -/
theorem UserDeleted.members (deleted : u.UserDeleted calm env rem euid f r f')
    (members : f.Members P) : f'.Members P := by
  have removed : ∀ {name : ValidName} {pent : Passwd} {f₁ : Files},
      (f.lockShadow name.val true).SameDb f₁ →
      ((f₁.removePasswd pent).removeShadow name.val).Members P := fun same =>
    members.of_same same.group same.gshadow
  cases deleted with
  | refused why => exact members
  | survived located alive result =>
    rcases result with rfl | ⟨-, rfl⟩ <;> exact members.of_same rfl rfl
  | interrupted faulty located terminated same after undone =>
    rcases undone with rfl | rfl <;> rcases after with rfl | rfl <;>
      exact members.of_same same.group same.gshadow
  | noGroup located terminated same deleted => exact deleted.members (removed same)
  | memberships faulty located terminated same deleted parted =>
    exact parted.members (deleted.members (removed same))
  | ended located terminated same deleted parted =>
    exact parted.members (deleted.members (removed same))

/-- A deletion removes at most the user's entry, once the user's sessions have ended. -/
theorem UserDeleted.passwd (deleted : u.UserDeleted calm env rem euid f r f') :
    f'.passwd = f.passwd ∨ ∃ name pent spent, u.Located euid f name pent spent ∧
      terminateUser env.logind = true ∧ f'.passwd = (f.removePasswd pent).passwd := by
  have removed : ∀ {name : ValidName} {pent : Passwd} {f₁ : Files},
      (f.lockShadow name.val true).SameDb f₁ →
      ((f₁.removePasswd pent).removeShadow name.val).passwd = (f.removePasswd pent).passwd :=
    fun same => congrArg (List.eraseP _) same.passwd
  cases deleted with
  | refused why => exact Or.inl rfl
  | survived located alive result =>
    rcases result with rfl | ⟨-, rfl⟩ <;> exact Or.inl rfl
  | @interrupted name pent spent f₁ f₂ _ faulty located terminated same after undone =>
    rcases after with rfl | rfl
    · rcases undone with rfl | rfl <;> exact Or.inl same.passwd
    · have passwd : (f₁.removePasswd pent).passwd = (f.removePasswd pent).passwd :=
        congrArg (List.eraseP _) same.passwd
      rcases undone with rfl | rfl <;> exact Or.inr ⟨_, _, _, located, terminated, passwd⟩
  | noGroup located terminated same deleted =>
    exact Or.inr ⟨_, _, _, located, terminated, deleted.frame.1.trans (removed same)⟩
  | memberships faulty located terminated same deleted parted =>
    exact Or.inr ⟨_, _, _, located, terminated,
      parted.frame.1.trans (deleted.frame.1.trans (removed same))⟩
  | ended located terminated same deleted parted =>
    exact Or.inr ⟨_, _, _, located, terminated,
      parted.frame.1.trans (deleted.frame.1.trans (removed same))⟩

/-- An undisturbed deletion whose group goes takes the user out of every list. -/
theorem UserDeleted.others (undisturbed : calm)
    (deleted : u.UserDeleted calm env rem euid f r f') {name : ValidName} {pent : Passwd}
    {spent : Spwd} (located : u.Located euid f name pent spent)
    (terminated : terminateUser env.logind = true)
    (goes : PrimaryGroupGoes env (f.removePasswd pent) pent) (members : f.Members P) :
    f'.Members fun n => P n ∧ n ≠ name.val := by
  cases deleted with
  | refused why => exact absurd located (why undisturbed _ _ _)
  | survived located' alive result => simp [terminated] at alive
  | interrupted faulty located' terminated' same after undone => exact absurd undisturbed faulty
  | noGroup located' terminated' same deleted =>
    obtain ⟨rfl, -⟩ := located.unique located'
    have done := (deleted_doomed_iff undisturbed deleted).mpr
      ((primaryGroupGoes_removed same).mpr goes)
    cases done
  | memberships faulty located' terminated' same deleted parted =>
    exact absurd undisturbed faulty
  | ended located' terminated' same deleted parted =>
    obtain ⟨rfl, -⟩ := located.unique located'
    rw [located.name, ← located'.name]
    exact parted.others undisturbed (deleted.members (members.of_same same.group same.gshadow))

theorem UserDeleted.known (deleted : u.UserDeleted calm env rem euid f r f')
    (whole : u.PartsWhole calm env euid f) (known : f.MembersKnown) : f'.MembersKnown := by
  rcases deleted.passwd with same | ⟨name, pent, spent, located, terminated, passwd⟩
  · exact (deleted.members known).known (by rw [Files.accounts, same, Files.accounts])
  have others : f'.Members fun n => f.HasUser n ∧ n ≠ name.val := by
    rcases whole name pent spent located terminated with absent | ⟨undisturbed, goes⟩
    · exact deleted.members (known.and absent)
    · exact deleted.others undisturbed located terminated goes known
  refine others.mono ?_
  rintro n ⟨⟨e, mem, named⟩, other⟩
  refine ⟨e, ?_, named⟩
  rw [passwd, Files.removePasswd, List.mem_eraseP_of_neg]
  · exact mem
  · -- the removed entry has the user's name
    intro removed
    obtain ⟨-, -, same⟩ := of_decide_eq_true removed
    exact other (named.symm.trans (same.symm.trans located.name.symm))

end GumdDaemonUser

end User

/-! ## Runs -/

/-- The call cannot leave the name of somebody who is no user in a member list: a list it writes from
its object holds users only, and a deletion of a member of groups ends with the memberships. -/
def Call.KeepsMembers (s : System) (c : Call) : Prop :=
  c.Readable ∧ ((s.world c).lockGranted = true →
    match c.operation with
    | .groupAdd i preferredGid =>
        (s.groups i).AddsMembers c.env preferredGid s.files s.files.HasUser
    | .groupUpdate i => (s.groups i).UpdatesMembers c.Clear c.env s.files s.files.HasUser
    | .groupDeleteMember i uid => (s.groups i).PartsMembers c.Clear uid s.files s.files.HasUser
    | .userDelete i _ =>
        (s.users i).PartsWhole (s.Calm c) c.env (s.world c).afterLock.process.euid s.files
    | _ => True)

theorem membersKnown_step {s : System} {c : Call} (keeps : c.KeepsMembers s)
    (known : s.files.MembersKnown) : (s.step c).files.MembersKnown := by
  obtain ⟨readable, keeps⟩ := keeps
  cases granted : (s.world c).lockGranted with
  | false => rwa [System.files_of_refused granted]
  | true =>
    replace keeps := keeps granted
    have outcome := System.outcome (s := s) readable
    generalize (s.call c).1 = r at outcome
    generalize (s.step c).files = f at outcome
    cases outcome with
    | idle => exact known
    | userAdd _ added => exact added.known known
    | userUpdate _ updated =>
      have members := Files.Members.of_same known updated.frame.1 updated.frame.2
      exact members.known (by rw [accounts_userUpdated updated])
    | userDelete op deleted =>
      rw [op] at keeps
      exact deleted.known keeps known
    | groupAdd op added =>
      rw [op] at keeps
      have users : f.accounts.users = s.files.accounts.users := by cases added <;> rfl
      exact (added.members keeps known).known users
    | groupUpdate op updated =>
      rw [op] at keeps
      exact (updated.members keeps known).known (by rw [accounts_updated updated])
    | groupDelete _ deleted =>
      exact (deleted.members known).known (by rw [Files.accounts, deleted.frame.1, Files.accounts])
    | @groupAddMember _ uid _ _ _ _ added =>
      have user : ∀ pent, s.files.getpwuid uid = some pent → s.files.HasUser pent.pwName :=
        fun pent found => ⟨pent, List.mem_of_find?_eq_some found, rfl⟩
      exact (added.members user known).known (by rw [accounts_memberAdded added])
    | groupDeleteMember op deleted =>
      rw [op] at keeps
      exact (deleted.members keeps known).known (by rw [accounts_memberDeleted deleted])
    | deleteUserMembership _ parted =>
      exact (parted.members known).known (by rw [accounts_membershipDeleted parted])

/-- Every member of a group stays a user over every run of such calls. -/
theorem run_membersKnown {s : System} {calls : List Call}
    (each : System.Each Call.KeepsMembers s calls) (start : s.files.MembersKnown) :
    (s.run calls).files.MembersKnown :=
  System.run_invariant (fun _ _ => membersKnown_step) each start

namespace Sample

theorem membersKnown_files : files.MembersKnown := by
  refine ⟨fun e mem n inList => ?_, fun e mem => ?_, fun e mem => ?_⟩
  · have user : n = str "alice" := by
      revert n
      revert e
      decide
    exact ⟨alice, by simp [files], user.symm⟩
  · simp [files] at mem
  · simp [files] at mem

/-- The deletion of the user by a process whose effective group is the user's primary group. -/
def ownGroupDeletion : Call :=
  { call (.userDelete 0 false) with env := { env with egid := 1000 } }

/-- It leaves the user in the other groups. -/
theorem run_not_membersKnown : files.MembersKnown ∧
    ¬(system.run [ownGroupDeletion]).files.MembersKnown := by
  refine ⟨membersKnown_files, fun known => ?_⟩
  obtain ⟨e, mem, -⟩ := known.grMem staff (by decide) (str "alice") (by decide)
  have gone : (system.run [ownGroupDeletion]).files.passwd = [] := by decide
  rw [gone] at mem
  cases mem

theorem run_membersKnown_alice :
    (system.run [call (.userDelete 0 false)]).files.MembersKnown := by
  refine run_membersKnown (s := system) ⟨⟨rfl, fun _ name pent spent located _ => ?_⟩, trivial⟩
    membersKnown_files
  obtain rfl : alice = pent := Option.some.inj located.entry
  refine Or.inr ⟨⟨rfl, rfl, rfl⟩, ⟨str "alice", str "x", 1000, []⟩, ⟨by decide, rfl, by decide⟩,
    Or.inr ⟨by decide, by simp [Files.removePasswd, system, files]⟩⟩

end Sample

end Gumd
