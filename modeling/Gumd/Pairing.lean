import Gumd.Lib.Pairs
import Gumd.Membership
import Gumd.Secrets

/-!
# Paired files

The passwd and shadow files list the same users, and the group and gshadow files the same groups.
An operation rewrites the two files of a pair one after the other; while every rewrite succeeds, only
an update through an object whose shadow record has another name than its user can part them.
-/

namespace Gumd

open StateWp EntryLoop Pairs

/-! ## Pairs of files -/

/-- The names the gshadow file lists, if there is such a file. -/
def Files.gshadowNames (f : Files) : Option (List Str) := f.gshadow.map (List.map (·.sgNamp))

/-- The passwd and shadow files list the same users. -/
def Files.UsersPaired (f : Files) : Prop :=
  SameKeys (f.passwd.map (·.pwName)) (f.shadow.map (·.spNamp))

/-- There is a gshadow file, and it lists the same groups as the group file. -/
def Files.GroupsPaired (f : Files) : Prop :=
  ∃ others, f.gshadowNames = some others ∧ SameKeys (f.group.map (·.grName)) others

structure Files.Paired (f : Files) : Prop where
  users : f.UsersPaired
  groups : f.GroupsPaired

section Pairs

variable {f f' : Files}

theorem Files.gshadowNames_eq (same : f'.gshadow = f.gshadow) :
    f'.gshadowNames = f.gshadowNames := by
  rw [Files.gshadowNames, same, Files.gshadowNames]

/-- The names of the users are those of the accounts. -/
theorem Files.UsersPaired.of_accounts (paired : f.UsersPaired) (accounts : f'.accounts = f.accounts)
    (shadow : f'.shadow.map (·.spNamp) = f.shadow.map (·.spNamp)) : f'.UsersPaired := by
  have names := congrArg (fun a => a.users.map (·.name)) accounts
  simp only [Files.accounts, Multiset.map_coe, List.map_map, Multiset.coe_eq_coe] at names
  exact SameKeys.perm paired names (List.Perm.of_eq shadow)

theorem Files.GroupsPaired.of_accounts (paired : f.GroupsPaired)
    (accounts : f'.accounts = f.accounts) (gshadow : f'.gshadowNames = f.gshadowNames) :
    f'.GroupsPaired := by
  have names := congrArg (fun a => a.groups.map (·.name)) accounts
  simp only [Files.accounts, Multiset.map_coe, List.map_map, Multiset.coe_eq_coe] at names
  obtain ⟨others, listed, same⟩ := paired
  exact ⟨others, gshadow.trans listed, same.perm names (.refl _)⟩

theorem Files.GroupsPaired.of_same (paired : f.GroupsPaired) (group : f'.group = f.group)
    (gshadow : f'.gshadow = f.gshadow) : f'.GroupsPaired := by
  rwa [Files.GroupsPaired, Files.gshadowNames_eq gshadow, group]

theorem Files.UsersPaired.of_same (paired : f.UsersPaired) (passwd : f'.passwd = f.passwd)
    (shadow : f'.shadow.map (·.spNamp) = f.shadow.map (·.spNamp)) : f'.UsersPaired := by
  rwa [Files.UsersPaired, passwd, shadow]

theorem Files.UsersPaired.of_frame (paired : f.UsersPaired)
    (frame : f'.passwd = f.passwd ∧ f'.shadow = f.shadow) : f'.UsersPaired := by
  rwa [Files.UsersPaired, frame.1, frame.2]

/-- A user of a paired file has a shadow entry. -/
theorem Files.UsersPaired.hasShadow_iff (paired : f.UsersPaired) {name : Str} :
    f.HasShadow name ↔ f.HasUser name := by
  have same := paired.same name
  simpa only [List.mem_map, Files.HasShadow, Files.HasUser] using same.symm

/-- A group of a paired file has a gshadow entry. -/
theorem Files.GroupsPaired.hasGshadow_iff (paired : f.GroupsPaired) {name : Str} :
    f.HasGshadow name ↔ ∃ e ∈ f.group, e.grName = name := by
  obtain ⟨others, listed, same⟩ := paired
  obtain ⟨entries, present, rfl⟩ := Option.map_eq_some_iff.mp listed
  have same := same.same name
  simp only [List.mem_map] at same
  simp only [Files.HasGshadow, present, Option.some.injEq, exists_eq_left', same]

/-- The search for the gshadow entry of a group of a paired file finds it. -/
theorem Files.GroupsPaired.getsgnam (paired : f.GroupsPaired) {entry : Group}
    (mem : entry ∈ f.group) : ∃ e, f.getsgnam entry.grName = some e ∧ e.sgNamp = entry.grName := by
  obtain ⟨entries, present, e, inside, named⟩ := paired.hasGshadow_iff.mpr ⟨entry, mem, rfl⟩
  have some : (f.getsgnam entry.grName).isSome := by
    rw [Files.getsgnam, present, Option.getD_some, List.find?_isSome]
    exact ⟨e, inside, by simpa using named⟩
  obtain ⟨e, found⟩ := Option.isSome_iff_exists.mp some
  have own := List.find?_some found
  exact ⟨e, found, eq_of_beq own⟩

/-! ## Single rewrites -/

theorem Files.GroupsPaired.insert (paired : f.GroupsPaired) {new : Group} {sg : Sgrp}
    (fresh : f.getgrnam new.grName = none) (named : sg.sgNamp = new.grName) :
    ((f.insertGroup new).appendGshadow sg).GroupsPaired := by
  obtain ⟨others, listed, same⟩ := paired
  obtain ⟨entries, present, rfl⟩ := Option.map_eq_some_iff.mp listed
  refine ⟨(entries ++ [sg]).map (·.sgNamp), ?_, ?_⟩
  · simp only [Files.gshadowNames, Files.appendGshadow, Files.insertGroup, present, Option.map_some]
  · have absent : new.grName ∉ f.group.map (·.grName) := by
      intro mem
      obtain ⟨e, inside, taken⟩ := List.mem_map.mp mem
      exact List.find?_eq_none.mp fresh e inside (by simpa using taken)
    apply (same.cons absent).perm
    · exact (perm_insertFirst _ new f.group).map (·.grName)
    · rw [List.map_append, ← named]
      exact List.perm_append_singleton _ _

theorem Files.UsersPaired.insert (paired : f.UsersPaired) {new : Passwd} {sp : Spwd}
    (fresh : f.getpwnam new.pwName = none) (named : sp.spNamp = new.pwName) :
    ((f.insertPasswd new).appendShadow sp).UsersPaired := by
  have absent : new.pwName ∉ f.passwd.map (·.pwName) := by
    intro mem
    obtain ⟨e, inside, taken⟩ := List.mem_map.mp mem
    exact List.find?_eq_none.mp fresh e inside (by simpa using taken)
  apply (SameKeys.cons paired absent).perm
  · exact (perm_insertFirst _ new f.passwd).map (·.pwName)
  · rw [← named]
    change ((f.shadow ++ [sp]).map (·.spNamp)).Perm _
    rw [List.map_append]
    exact List.perm_append_singleton _ _

/-- A user goes from both files. -/
theorem Files.UsersPaired.remove (paired : f.UsersPaired) {pent : Passwd}
    (mem : pent ∈ f.passwd) : ((f.removePasswd pent).removeShadow pent.pwName).UsersPaired := by
  obtain ⟨sp, inside, named⟩ := paired.hasShadow_iff.mpr ⟨pent, mem, rfl⟩
  have removed : (f.removePasswd pent).passwd.map (·.pwName) =
      (f.passwd.map (·.pwName)).erase pent.pwName := by
    apply map_eraseP_of_nodup paired.nodup
    · intro e picked
      exact (of_decide_eq_true picked).2.2.symm
    · exact List.any_eq_true.mpr ⟨pent, mem, by simp⟩
  have removedShadow : (f.shadow.eraseP fun e => pent.pwName = e.spNamp).map (·.spNamp) =
      (f.shadow.map (·.spNamp)).erase pent.pwName := by
    apply map_eraseP_of_nodup paired.othersNodup
    · intro e picked
      exact (of_decide_eq_true picked).symm
    · exact List.any_eq_true.mpr ⟨sp, inside, by simp [named]⟩
  change SameKeys ((f.removePasswd pent).passwd.map (·.pwName))
    ((f.shadow.eraseP fun e => pent.pwName = e.spNamp).map (·.spNamp))
  rw [removed, removedShadow]
  exact SameKeys.erase paired _

/-- A rewrite of the gshadow file that drops the entry of a group that has gone from the group
file. -/
theorem Files.GroupsPaired.remove (paired : f.GroupsPaired) {g : GumdDaemonGroup} {entry : Group}
    (mem : entry ∈ f.group) (named : g.gshadow.sgNamp = some entry.grName) :
    ∃ f', Files.rewriteGshadow (updateGshadowEntry g .delete none) (f.removeGroup entry) = .ok f' ∧
      f'.GroupsPaired := by
  obtain ⟨entries, present, sg, inside, same⟩ := paired.hasGshadow_iff.mpr ⟨entry, mem, rfl⟩
  obtain ⟨others, listed, paired⟩ := paired
  rw [Files.gshadowNames, present, Option.map_some, Option.some.injEq] at listed
  subst listed
  have here : (entries.any fun e => g.gshadow.sgNamp = some e.sgNamp) = true :=
    List.any_eq_true.mpr ⟨sg, inside, by simp [named, same]⟩
  refine ⟨{ f.removeGroup entry with
    gshadow := some (entries.eraseP fun e => g.gshadow.sgNamp = some e.sgNamp) }, ?_, ?_⟩
  · simp only [Files.rewriteGshadow, Files.removeGroup, present, updateGshadowEntry_delete, here,
      if_true]
    rfl
  have removed : (f.removeGroup entry).group.map (·.grName) =
      (f.group.map (·.grName)).erase entry.grName := by
    apply map_eraseP_of_nodup paired.nodup
    · intro e picked
      exact (of_decide_eq_true picked).2.symm
    · exact List.any_eq_true.mpr ⟨entry, mem, by simp⟩
  have removedGshadow :
      (entries.eraseP fun e => g.gshadow.sgNamp = some e.sgNamp).map (·.sgNamp) =
        (entries.map (·.sgNamp)).erase entry.grName := by
    apply map_eraseP_of_nodup paired.othersNodup
    · intro e picked
      have own := of_decide_eq_true picked
      rw [named] at own
      exact (Option.some.inj own).symm
    · exact here
  refine ⟨_, rfl, ?_⟩
  change SameKeys ((f.removeGroup entry).group.map (·.grName))
    ((entries.eraseP fun e => g.gshadow.sgNamp = some e.sgNamp).map (·.sgNamp))
  rw [removed, removedGshadow]
  exact paired.erase _

/-- A rewrite of the gshadow file that keeps the name of the entry it replaces. -/
theorem gshadowNames_modify {g : GumdDaemonGroup} {userData : Option Str}
    (own : ∀ new, g.gshadow.putsgent = some new →
      userData.or g.gshadow.sgNamp = some new.sgNamp)
    (written : Files.rewriteGshadow (updateGshadowEntry g .modify userData) f = .ok f') :
    f'.gshadowNames = f.gshadowNames := by
  rcases Files.rewriteGshadow_ok written with ⟨-, rfl⟩ | ⟨entries, out, present, result, rfl⟩
  · rfl
  rw [updateGshadowEntry_modify] at result
  split_ifs at result with picked
  cases put : g.gshadow.putsgent with
  | none => simp [put] at result
  | some new =>
    simp only [put, Option.elim_some, Except.ok.injEq] at result
    subst result
    simp only [Files.gshadowNames, present, Option.map_some, Option.some.injEq]
    apply map_modifyFirst
    intro e same
    have named := of_decide_eq_true same
    exact Option.some.inj ((own new put).symm.trans named)

/-- The entry a record without another name is written to has its name. -/
theorem SgrpRecord.sgNamp_of_putsgent {sg : SgrpRecord} {new : Sgrp}
    (put : sg.putsgent = some new) : sg.sgNamp = some new.sgNamp := by
  obtain ⟨name, given, rfl⟩ := Option.map_eq_some_iff.mp put
  exact given

end Pairs

/-! ## Group operations -/

section Group

variable {calm clear : Prop} {g : GumdDaemonGroup} {env : Env} {f f' : Files} {r : Bool}

theorem Rewritten.gshadowNames {entry : Group} {second : Files → Except GError Files}
    (written : Rewritten g entry second f r f')
    (later : ∀ f₁, second f₁ = .ok f' → f'.gshadowNames = f₁.gshadowNames) :
    f'.gshadowNames = f.gshadowNames := by
  cases written with
  | neither => rfl
  | groupOnly put => rfl
  | both put written => exact later (f.replaceGroup entry _) written

namespace GumdDaemonGroup

theorem Added.paired {preferredGid : UInt32} {r : Option UInt32} (undisturbed : calm)
    (added : g.Added calm env preferredGid f r f') (paired : f.GroupsPaired) :
    f'.GroupsPaired := by
  cases added with
  | refused why => exact paired
  | groupOnly addable why =>
    -- the entry in gshadow would belong to a group that is there already
    obtain ⟨e, mem, named⟩ := paired.hasGshadow_iff.mp (why undisturbed)
    have free := List.find?_eq_none.mp (Addable.free addable).1 e mem
    simp [named] at free
  | added addable fresh => exact paired.insert (Addable.free addable).1 rfl

theorem Deleted.paired (undisturbed : calm) (deleted : g.Deleted calm env f r f')
    (paired : f.GroupsPaired) : f'.GroupsPaired := by
  have whole : ∀ {entry sg}, g.Found env f entry → (calm → sg = f.getsgnam entry.grName) →
      ∃ f₂, Files.rewriteGshadow (updateGshadowEntry (g.copyGroupEntries entry sg) .delete none)
        (f.removeGroup entry) = .ok f₂ ∧ f₂.GroupsPaired := by
    intro entry sg fits answer
    have mem := (Files.getGroup_some fits.found).1
    obtain ⟨e, found, named⟩ := paired.getsgnam mem
    obtain rfl := (answer undisturbed).trans found
    exact paired.remove mem (congrArg some named)
  cases deleted with
  | refused why => exact paired
  | kept fits used => exact paired
  | groupOnly fits unused valid answer why =>
    obtain ⟨f₂, written, -⟩ := whole fits answer
    obtain ⟨e, failed⟩ := why undisturbed
    cases written.symm.trans failed
  | deleted fits unused valid answer written =>
    obtain ⟨f₂, written', paired₂⟩ := whole fits answer
    obtain rfl := Except.ok.inj (written'.symm.trans written)
    exact paired₂

theorem MemberAdded.paired {uid : UInt32} {admin : Bool}
    (added : g.MemberAdded clear uid admin f r f') (paired : f.GroupsPaired) :
    f'.GroupsPaired := by
  refine paired.of_accounts (accounts_memberAdded added) ?_
  cases added with
  | refused => rfl
  | rewritten user found absent answers written =>
    apply written.gshadowNames
    intro f₁ second
    split_ifs at second
    · exact gshadowNames_modify (fun new put => SgrpRecord.sgNamp_of_putsgent put)
        (Files.rewriteGshadow_of_rewrite second)
    · obtain rfl := Except.ok.inj second
      rfl

theorem MemberDeleted.paired {uid : UInt32} (deleted : g.MemberDeleted clear uid f r f')
    (paired : f.GroupsPaired) : f'.GroupsPaired := by
  refine paired.of_accounts (accounts_memberDeleted deleted) ?_
  cases deleted with
  | refused => rfl
  | rewritten user found member answers written =>
    apply written.gshadowNames
    intro f₁ second
    exact gshadowNames_modify (fun new put => SgrpRecord.sgNamp_of_putsgent put) second

/-- An update that writes has a gshadow record without a name, or with the group's. -/
def UpdatesOwn (clear : Prop) (g : GumdDaemonGroup) (env : Env) (f : Files) : Prop :=
  ∀ entry sg, g.Updating f entry → Answer clear (f.getsgnam entry.grName) sg →
    g.Rekeys env entry sg → ∀ name, g.gshadow.sgNamp = some name → name = entry.grName

theorem Updated.paired (updated : g.Updated clear env f r f') (own : g.UpdatesOwn clear env f)
    (paired : f.GroupsPaired) : f'.GroupsPaired := by
  refine paired.of_accounts (accounts_updated updated) ?_
  cases updated with
  | refused => rfl
  | @rewritten entry sg _ _ updating answer rekeys written =>
    apply written.gshadowNames
    intro f₁ second
    refine gshadowNames_modify (fun new put => ?_) second
    have named := SgrpRecord.sgNamp_of_putsgent put
    rw [gshadow_updated] at named
    change (copyGshadowStruct sg true g.gshadow).sgNamp = some new.sgNamp at named
    change some entry.grName = some new.sgNamp
    cases sg with
    | none => rw [own entry none updating answer rekeys _ named]
    | some e =>
      have found := List.find?_some answer.of_some
      cases unset : g.gshadow.sgNamp with
      | none =>
        simp only [copyGshadowStruct, unset, Option.isNone_none, Bool.or_true, if_true] at named
        rw [← named, eq_of_beq found]
      | some name =>
        simp only [copyGshadowStruct, unset, Option.isNone_some, Bool.not_true, Bool.or_self,
          Bool.false_eq_true, if_false] at named
        rw [← named, own entry (some e) updating answer rekeys name unset]

end GumdDaemonGroup

theorem MembershipDeleted.paired {name : Str} (parted : MembershipDeleted calm name f r f')
    (paired : f.GroupsPaired) : f'.GroupsPaired := by
  refine paired.of_accounts (accounts_membershipDeleted parted) ?_
  have kept : ∀ f : Files, (f.deleteGshadowMember name).gshadowNames = f.gshadowNames := by
    intro f
    simp only [Files.gshadowNames, Files.deleteGshadowMember, Option.map_map]
    congr 1
    funext entries
    simp [Sgrp.deleteMember]
  cases parted with
  | refused why => rfl
  | failed faulty result =>
    rcases result with rfl | rfl | rfl
    exacts [rfl, rfl, kept f]
  | gshadowOnly faulty => exact kept f
  | deleted => exact kept (f.deleteGroupMember name)

end Group

/-! ## User operations -/

section User

variable {calm : Prop} {u : GumdDaemonUser} {env : Env} {f f' : Files}

namespace GumdDaemonUser

theorem Grouped.paired {gid : Option UInt32} (undisturbed : calm)
    (grouped : u.Grouped calm env f gid f') (paired : f.Paired) : f'.Paired := by
  refine ⟨paired.users.of_frame grouped.frame, ?_⟩
  cases grouped with
  | reused found => exact paired.groups
  | created missing added => exact added.paired undisturbed paired.groups

theorem Joined.paired {uid : UInt32} (joined : Joined uid f f') (paired : f.Paired) :
    f'.Paired := by
  refine ⟨paired.users.of_frame joined.frame, ?_⟩
  replace paired := paired.groups
  induction joined with
  | done => exact paired
  | join first _ ih => exact ih (first.paired paired)

/-- The passwd and shadow entries of an addition. -/
theorem Prepared.paired {u' : GumdDaemonUser} {gid : UInt32} {f₁ : Files} {pw : Passwd}
    {sp : Spwd} (undisturbed : calm) (prepared : u.Prepared env f u')
    (grouped : u'.Grouped calm env f (some gid) f₁) (writes : u'.Writes env gid pw sp)
    (same : ((f₁.insertPasswd pw).appendShadow sp).SameDb f') (paired : f.Paired) : f'.Paired := by
  have paired₁ := grouped.paired undisturbed paired
  have free : f₁.getpwnam pw.pwName = none := by
    rw [Files.getpwnam, grouped.frame.1]
    exact (key_writes prepared writes).1
  have inserted := paired₁.users.insert free writes.spNamp
  exact ⟨inserted.of_frame ⟨same.passwd, same.shadow⟩,
    paired₁.groups.of_same same.group same.gshadow⟩

theorem UserAdded.paired {r : Option UInt32} (undisturbed : calm)
    (added : u.UserAdded calm env f r f') (paired : f.Paired) : f'.Paired := by
  cases added with
  | refused why => exact paired
  | noGroup prepared grouped => exact grouped.paired undisturbed paired
  | noSecret prepared grouped why => exact grouped.paired undisturbed paired
  | passwdOnly prepared grouped writes why =>
    -- the entry in shadow would belong to a user who is there already
    obtain ⟨e, mem, named⟩ := paired.users.hasShadow_iff.mp (why undisturbed)
    have free := List.find?_eq_none.mp (key_writes prepared writes).1 e mem
    rw [writes.spNamp] at named
    simp [named] at free
  | homeless prepared grouped writes fresh same joined why =>
    exact joined.paired (prepared.paired undisturbed grouped writes same paired)
  | added prepared grouped writes fresh same joined home =>
    exact joined.paired (prepared.paired undisturbed grouped writes same paired)

/-- An update that writes has a shadow record without a name, or with the user's. -/
def UpdatesOwn (calm : Prop) (u : GumdDaemonUser) (env : Env) (f : Files) : Prop :=
  ∀ pw sp, u.Updatable f pw sp → ¬u.SecretFails env pw sp → ¬u.TypeConflict env pw sp →
    (calm → ¬u.Unchanged env f pw sp) → ∀ name, u.shadow.spNamp = some name → name = pw.pwName

theorem UserUpdated.paired {r : Bool} (undisturbed : calm)
    (updated : u.UserUpdated calm env f r f') (own : u.UpdatesOwn calm env f)
    (paired : f.Paired) : f'.Paired := by
  refine ⟨?_, paired.groups.of_same updated.frame.1 updated.frame.2⟩
  have accounts := accounts_userUpdated updated
  cases updated with
  | refused why => exact paired.users
  | rejected updatable same icon why =>
    exact paired.users.of_frame ⟨same.passwd, same.shadow⟩
  | passwdOnly faulty updatable same put => exact absurd undisturbed faulty
  | @updated pw sp f₁ new newSp updatable same icon encrypted agreed changed put putSp =>
    have named := updatable.spNamp (own pw sp updatable encrypted agreed changed) putSp
    apply paired.users.of_accounts accounts
    rw [← same.shadow]
    apply map_modifyFirst
    intro e picked
    exact named.trans (of_decide_eq_true picked)

theorem UserDeleted.paired {rem r : Bool} {euid : UInt32} (undisturbed : calm)
    (deleted : u.UserDeleted calm env rem euid f r f') (paired : f.Paired) : f'.Paired := by
  have locked : ∀ {name : ValidName} {lock : Bool} {f : Files}, f.Paired →
      (f.lockShadow name.val lock).Paired := by
    intro name lock f paired
    exact ⟨paired.users.of_same rfl (f.map_spNamp_lockShadow name.val lock),
      paired.groups.of_same rfl rfl⟩
  have removed : ∀ {name : ValidName} {pent : Passwd} {spent : Spwd} {f₁ : Files},
      u.Located euid f name pent spent → (f.lockShadow name.val true).SameDb f₁ →
      ((f₁.removePasswd pent).removeShadow name.val).Paired := by
    intro name pent spent f₁ located same
    have paired₀ : (f.lockShadow name.val true).Paired := locked paired
    have users₁ := paired₀.users.of_frame ⟨same.passwd, same.shadow⟩
    have mem : pent ∈ f₁.passwd := by
      rw [same.passwd]
      exact (Files.getPasswd_some located.entry).1
    rw [located.name]
    exact ⟨users₁.remove mem, paired₀.groups.of_same same.group same.gshadow⟩
  cases deleted with
  | refused why => exact paired
  | survived located alive result =>
    rcases result with rfl | ⟨faulty, -⟩
    · exact locked (locked paired)
    · exact absurd undisturbed faulty
  | interrupted faulty located terminated same after undone => exact absurd undisturbed faulty
  | noGroup located terminated same deleted =>
    have paired₁ := removed located same
    exact ⟨paired₁.users.of_frame deleted.frame, deleted.paired undisturbed paired₁.groups⟩
  | memberships faulty located terminated same deleted parted => exact absurd undisturbed faulty
  | ended located terminated same deleted parted =>
    have paired₁ := removed located same
    have frame := And.intro (parted.frame.1.trans deleted.frame.1)
      (parted.frame.2.trans deleted.frame.2)
    exact ⟨paired₁.users.of_frame frame,
      parted.paired (deleted.paired undisturbed paired₁.groups)⟩

end GumdDaemonUser

end User

/-! ## Runs -/

/-- Every file can be read during the call and every rewrite succeeds, and an update writes the shadow
record of its own user or group. -/
def Call.KeepsPairs (s : System) (c : Call) : Prop :=
  c.Readable ∧ c.Clear ∧ c.faults.write = .const none ∧ ((s.world c).lockGranted = true →
    match c.operation with
    | .userUpdate i => (s.users i).UpdatesOwn (s.Calm c) c.env s.files
    | .groupUpdate i => (s.groups i).UpdatesOwn c.Clear c.env s.files
    | _ => True)

theorem paired_step {s : System} {c : Call} (keeps : c.KeepsPairs s)
    (paired : s.files.Paired) : (s.step c).files.Paired := by
  obtain ⟨readable, clear, writable, keeps⟩ := keeps
  cases granted : (s.world c).lockGranted with
  | false => rwa [System.files_of_refused granted]
  | true =>
    replace keeps := keeps granted
    have calm : s.Calm c := ⟨granted, clear, writable⟩
    have outcome := System.outcome (s := s) readable
    generalize (s.call c).1 = r at outcome
    generalize (s.step c).files = f at outcome
    cases outcome with
    | idle => exact paired
    | userAdd _ added => exact added.paired calm paired
    | userUpdate op updated =>
      rw [op] at keeps
      exact updated.paired calm keeps paired
    | userDelete _ deleted => exact deleted.paired calm paired
    | groupAdd _ added =>
      exact ⟨paired.users.of_frame added.frame, added.paired calm paired.groups⟩
    | groupUpdate op updated =>
      rw [op] at keeps
      exact ⟨paired.users.of_frame updated.frame, updated.paired keeps paired.groups⟩
    | groupDelete _ deleted =>
      exact ⟨paired.users.of_frame deleted.frame, deleted.paired calm paired.groups⟩
    | groupAddMember _ added =>
      exact ⟨paired.users.of_frame added.frame, added.paired paired.groups⟩
    | groupDeleteMember _ deleted =>
      exact ⟨paired.users.of_frame deleted.frame, deleted.paired paired.groups⟩
    | deleteUserMembership _ parted =>
      exact ⟨paired.users.of_frame parted.frame, parted.paired paired.groups⟩

/-- The pairs of files stay paired over every run of such calls. -/
theorem run_paired {s : System} {calls : List Call}
    (each : System.Each Call.KeepsPairs s calls) (start : s.files.Paired) :
    (s.run calls).files.Paired :=
  System.run_invariant (fun _ _ => paired_step) each start

namespace Sample

def bob : Passwd := { alice with pwName := str "bob", pwUid := 1001 }

/-- The files of the small system with a second user and a gshadow file. -/
def pairedSystem : System :=
  { system with
    files := { files with
      passwd := [alice, bob]
      shadow := [aliceShadow, { aliceShadow with spNamp := str "bob" }]
      gshadow := some [⟨str "staff", str "!", [], [str "alice"]⟩, ⟨str "alice", str "!", [], []⟩] } }

theorem paired_pairedSystem : pairedSystem.files.Paired := by
  refine ⟨⟨by decide, by decide, fun name => ?_⟩, _, rfl, by decide, by decide, fun name => ?_⟩
  · simp [pairedSystem, alice, bob, aliceShadow]
  · simp [pairedSystem, files, staff]

/-- Alice's object is given the keys of the other user and updated. -/
def borrowedShadow : List Call :=
  [call (.userNewByUid 0 1000), call (.userSet 0 (.username (some (str "bob")))),
    call (.userSet 0 (.uid 1001)), call (.userSet 0 (.realname (some (str "Bob")))),
    call (.userUpdate 0)]

/-- The update writes Alice's name over the other user's in the shadow file. -/
theorem run_not_paired : pairedSystem.files.Paired ∧
    (∀ c ∈ borrowedShadow, c.Readable ∧ c.Clear ∧ c.faults.write = .const none) ∧
    ¬(pairedSystem.run borrowedShadow).files.Paired := by
  refine ⟨paired_pairedSystem, ?_, fun paired => ?_⟩
  · simp [borrowedShadow, Call.Readable, Call.Clear, call]
  · have twice : ¬((pairedSystem.run borrowedShadow).files.shadow.map (·.spNamp)).Nodup := by
      decide +kernel
    exact twice paired.users.othersNodup

theorem run_paired_alice : (pairedSystem.run
    [call (.groupAddMember 0 1001 true), call (.userDelete 0 false)]).files.Paired := by
  refine run_paired ⟨⟨rfl, rfl, rfl, fun _ => trivial⟩, ⟨rfl, rfl, rfl, fun _ => trivial⟩, trivial⟩
    paired_pairedSystem

end Sample

end Gumd
