import Gumd.Accounts
import Gumd.System

/-!
# The operations as steps of an account database

The keys of the passwd and group entries, in any order, are an account database.  Whatever an
operation does to the files, whether it succeeds or stops midway, it does to the keys by steps of
that database; rewrites of other fields leave the keys as they are.
-/

namespace Gumd

open StateWp EntryLoop Accounts

/-! ## The keys of the files -/

def Passwd.key (e : Passwd) : Accounts.User Str UInt32 := ⟨e.pwName, e.pwUid, e.pwGid⟩

def Group.key (e : Group) : Accounts.Group Str UInt32 := ⟨e.grName, e.grGid⟩

/-- The account database the files hold. -/
def Files.accounts (f : Files) : Db Str UInt32 where
  users := f.passwd.map Passwd.key
  groups := f.group.map Group.key

/-- The accounts of `f'` come from those of `f` by steps. -/
abbrev Files.Leads (f f' : Files) : Prop := Steps f.accounts f'.accounts

theorem Files.accounts_eq {f f' : Files} (users : f'.passwd.map Passwd.key = f.passwd.map Passwd.key)
    (groups : f'.group.map Group.key = f.group.map Group.key) : f'.accounts = f.accounts := by
  rw [Files.accounts, users, groups, Files.accounts]

theorem Files.Leads.same {f f' : Files} (same : f'.accounts = f.accounts) : f.Leads f' := by
  rw [Files.Leads, same]

theorem Files.SameDb.accounts {f f' : Files} (same : f.SameDb f') : f'.accounts = f.accounts := by
  rw [Files.accounts, same.passwd, same.group, Files.accounts]

/-! ## Single rewrites -/

theorem accounts_insertPasswd (f : Files) (new : Passwd) :
    (f.insertPasswd new).accounts = { f.accounts with users := new.key ::ₘ f.accounts.users } := by
  have perm := (perm_insertFirst (new.pwUid < ·.pwUid) new f.passwd).map Passwd.key
  rw [Files.accounts, Files.insertPasswd, Multiset.coe_eq_coe.mpr perm]
  rfl

theorem accounts_insertGroup (f : Files) (new : Group) :
    (f.insertGroup new).accounts = { f.accounts with groups := new.key ::ₘ f.accounts.groups } := by
  have perm := (perm_insertFirst (new.grGid < ·.grGid) new f.group).map Group.key
  rw [Files.accounts, Files.insertGroup, Multiset.coe_eq_coe.mpr perm]
  rfl

/-- A removal of the first picked entry takes away one entry or none. -/
theorem map_eraseP {ε κ : Type} (key : ε → κ) (p : ε → Bool) (l : List ε) :
    l.eraseP p = l ∨ ∃ e, p e = true ∧
      (l.map key : Multiset κ) = key e ::ₘ ((l.eraseP p).map key : Multiset κ) := by
  rcases List.exists_or_eq_self_of_eraseP p l with same | ⟨e, before, after, -, picked, split, erased⟩
  · exact Or.inl same
  · refine Or.inr ⟨e, picked, ?_⟩
    rw [erased, split, Multiset.cons_coe, Multiset.coe_eq_coe, List.map_append, List.map_cons,
      List.map_append]
    exact List.perm_middle

theorem leads_removePasswd (f : Files) (pent : Passwd) : f.Leads (f.removePasswd pent) := by
  rcases map_eraseP Passwd.key (fun e =>
    pent.pwUid = e.pwUid ∧ pent.pwGid = e.pwGid ∧ pent.pwName = e.pwName) f.passwd with
    same | ⟨e, -, split⟩
  · exact .same (by rw [Files.accounts, Files.removePasswd, same, Files.accounts])
  · rw [Files.Leads, Files.accounts, split]
    exact .single (.removeUser e.key)

theorem leads_removeGroup {f : Files} {entry : Group} (unused : ¬f.UsesGid entry.grGid) :
    f.Leads (f.removeGroup entry) := by
  rcases map_eraseP Group.key (fun e => entry.grGid = e.grGid ∧ entry.grName = e.grName)
    f.group with same | ⟨e, picked, split⟩
  · exact .same (by rw [Files.accounts, Files.removeGroup, same, Files.accounts])
  · rw [Files.Leads, Files.accounts, split]
    refine .single (.removeGroup e.key fun u mem same => unused ?_)
    obtain ⟨pent, inside, rfl⟩ := List.mem_map.mp (Multiset.mem_coe.mp mem)
    exact ⟨pent, inside, same.trans (of_decide_eq_true picked).1.symm⟩

/-- A new group entry with a free name and gid adds a group. -/
theorem leads_insertGroup {f : Files} {new : Group} (name : f.getgrnam new.grName = none)
    (gid : f.getgrgid new.grGid = none) : f.Leads (f.insertGroup new) := by
  rw [Files.Leads, accounts_insertGroup]
  refine .single (.addGroup new.key fun h mem => ?_)
  obtain ⟨entry, inside, rfl⟩ := List.mem_map.mp (Multiset.mem_coe.mp mem)
  have otherName := List.find?_eq_none.mp name entry inside
  have otherGid := List.find?_eq_none.mp gid entry inside
  exact ⟨by simpa [Group.key] using otherName, by simpa [Group.key] using otherGid⟩

/-- A new passwd entry with a free name and uid and an existing gid adds a user. -/
theorem leads_insertPasswd {f : Files} {new : Passwd} {grp : Group}
    (name : f.getpwnam new.pwName = none) (uid : f.getpwuid new.pwUid = none)
    (mem : grp ∈ f.group) (gid : grp.grGid = new.pwGid) : f.Leads (f.insertPasswd new) := by
  rw [Files.Leads, accounts_insertPasswd]
  refine .single (.addUser new.key grp.key (fun v known => ?_) ?_ gid)
  · obtain ⟨entry, inside, rfl⟩ := List.mem_map.mp (Multiset.mem_coe.mp known)
    have otherName := List.find?_eq_none.mp name entry inside
    have otherUid := List.find?_eq_none.mp uid entry inside
    exact ⟨by simpa [Passwd.key] using otherName, by simpa [Passwd.key] using otherUid⟩
  · exact Multiset.mem_coe.mpr (List.mem_map_of_mem mem)

/-- A rewrite that keeps the keys of the entry it replaces keeps the accounts. -/
theorem accounts_replaceGroup {f : Files} {entry new : Group} (name : new.grName = entry.grName)
    (gid : new.grGid = entry.grGid) : (f.replaceGroup entry new).accounts = f.accounts := by
  refine Files.accounts_eq rfl ?_
  refine map_modifyFirst ?_ f.group
  intro e picked
  obtain ⟨sameGid, sameName⟩ := of_decide_eq_true picked
  rw [Group.key, name, gid, sameGid, sameName, Group.key]

theorem accounts_replacePasswd {f : Files} {pw new : Passwd} (name : new.pwName = pw.pwName)
    (uid : new.pwUid = pw.pwUid) (gid : new.pwGid = pw.pwGid) :
    (f.replacePasswd pw new).accounts = f.accounts := by
  refine Files.accounts_eq ?_ rfl
  refine map_modifyFirst ?_ f.passwd
  intro e picked
  obtain ⟨sameUid, sameGid, sameName⟩ := of_decide_eq_true picked
  rw [Passwd.key, name, uid, gid, sameUid, sameGid, sameName, Passwd.key]

theorem accounts_deleteGroupMember (f : Files) (name : Str) :
    (f.deleteGroupMember name).accounts = f.accounts := by
  refine Files.accounts_eq rfl ?_
  rw [Files.deleteGroupMember, List.map_map]
  rfl

/-- A rewrite of the gshadow file keeps the accounts. -/
theorem accounts_rewriteGshadow {callback : List Sgrp → Except GError (List Sgrp)} {f f' : Files}
    (written : Files.rewriteGshadow callback f = .ok f') : f'.accounts = f.accounts := by
  rcases Files.rewriteGshadow_ok written with ⟨-, rfl⟩ | ⟨entries, out, -, -, rfl⟩ <;> rfl

/-! ## Group operations -/

section Group

variable {calm clear : Prop} {g : GumdDaemonGroup} {env : Env} {f f' : Files}

theorem Addable.free {preferredGid gid : UInt32} {name : ValidName} {passwd : Str}
    (addable : g.Addable env preferredGid f name gid passwd) :
    f.getgrnam name.val = none ∧ f.getgrgid gid = none := by
  have alloc := addable.gid
  rw [Files.allocGid, addable.name] at alloc
  dsimp only at alloc
  split_ifs at alloc with taken
  exact ⟨by simpa using taken, getgrgid_of_findFreeGid alloc⟩

theorem leads_added {preferredGid : UInt32} {r : Option UInt32}
    (added : g.Added calm env preferredGid f r f') : f.Leads f' := by
  cases added with
  | refused why => exact .refl
  | groupOnly addable why => exact leads_insertGroup (Addable.free addable).1 (Addable.free addable).2
  | added addable fresh =>
    exact (leads_insertGroup (Addable.free addable).1 (Addable.free addable).2).trans
      (Files.Leads.same rfl)

theorem leads_deleted {r : Bool} (deleted : g.Deleted calm env f r f') : f.Leads f' := by
  cases deleted with
  | refused why => exact .refl
  | kept fits used => exact .refl
  | groupOnly fits unused valid answer why => exact leads_removeGroup unused
  | deleted fits unused valid answer written =>
    exact (leads_removeGroup unused).trans (Files.Leads.same (accounts_rewriteGshadow written))

theorem accounts_rewritten {entry : Group} {second : Files → Except GError Files} {r : Bool}
    (key : ∀ new, g.group.putgrent = some new →
      new.grName = entry.grName ∧ new.grGid = entry.grGid)
    (keeps : ∀ f₁ f₂, second f₁ = .ok f₂ → f₂.accounts = f₁.accounts)
    (written : Rewritten g entry second f r f') : f'.accounts = f.accounts := by
  cases written with
  | neither => rfl
  | groupOnly put => exact accounts_replaceGroup (key _ put).1 (key _ put).2
  | both put second =>
    rw [keeps _ _ second]
    exact accounts_replaceGroup (key _ put).1 (key _ put).2

theorem key_joined {entry new : Group} {sg copied : Option Sgrp} {name : Str} {admin : Bool}
    (found : f.getGroup g.group = some entry)
    (put : (g.joined entry sg copied name admin).group.putgrent = some new) :
    new.grName = entry.grName ∧ new.grGid = entry.grGid := by
  obtain ⟨gid, named⟩ := GumdDaemonGroup.joined_key g entry sg copied name admin
  obtain ⟨n, given, rfl⟩ := Option.map_eq_some_iff.mp put
  refine ⟨GumdDaemonGroup.eq_of_loaded_name copied (Files.getGroup_some found).2 ?_, gid⟩
  rw [← named, given, ptr_some]

theorem accounts_memberAdded {uid : UInt32} {admin r : Bool}
    (added : g.MemberAdded clear uid admin f r f') : f'.accounts = f.accounts := by
  cases added with
  | refused => rfl
  | rewritten user found absent answers written =>
    refine accounts_rewritten (fun new put => key_joined found put) (fun f₁ f₂ second => ?_) written
    split_ifs at second
    · exact accounts_rewriteGshadow (Files.rewriteGshadow_of_rewrite second)
    · cases second
      rfl

theorem key_parted {entry new : Group} {sg copied : Option Sgrp} {name : Str}
    (found : f.getGroup g.group = some entry)
    (put : (g.parted entry sg copied name).group.putgrent = some new) :
    new.grName = entry.grName ∧ new.grGid = entry.grGid := by
  obtain ⟨gid, named⟩ := GumdDaemonGroup.parted_key g entry sg copied name
  obtain ⟨n, given, rfl⟩ := Option.map_eq_some_iff.mp put
  refine ⟨GumdDaemonGroup.eq_of_loaded_name copied (Files.getGroup_some found).2 ?_, gid⟩
  rw [← named, given, ptr_some]

theorem accounts_memberDeleted {uid : UInt32} {r : Bool}
    (deleted : g.MemberDeleted clear uid f r f') : f'.accounts = f.accounts := by
  cases deleted with
  | refused => rfl
  | rewritten user found present answers written =>
    exact accounts_rewritten (fun new put => key_parted found put)
      (fun _ _ second => accounts_rewriteGshadow second) written

theorem key_updated {entry new : Group} {sg : Option Sgrp} (updating : g.Updating f entry)
    (put : (g.updated env entry sg).group.putgrent = some new) :
    new.grName = entry.grName ∧ new.grGid = entry.grGid := by
  obtain ⟨n, given, rfl⟩ := Option.map_eq_some_iff.mp put
  refine ⟨GumdDaemonGroup.eq_of_updated_name (Files.getGroup_some updating.found).2
    (by rw [given, ptr_some]), ?_⟩
  exact (GumdDaemonGroup.grGid_updated g env entry sg).trans updating.gid

theorem accounts_updated {r : Bool} (updated : g.Updated clear env f r f') :
    f'.accounts = f.accounts := by
  cases updated with
  | refused => rfl
  | rewritten updating answer rekeys written =>
    exact accounts_rewritten (fun new put => key_updated updating put)
      (fun _ _ second => accounts_rewriteGshadow second) written

theorem accounts_membershipDeleted {name : Str} {r : Bool}
    (parted : MembershipDeleted calm name f r f') : f'.accounts = f.accounts := by
  cases parted with
  | refused why => rfl
  | failed faulty result =>
    rcases result with rfl | rfl | rfl
    · rfl
    · exact accounts_deleteGroupMember f name
    · rfl
  | gshadowOnly faulty => rfl
  | deleted => exact accounts_deleteGroupMember f name

end Group

/-! ## User operations -/

section User

variable {calm : Prop} {u : GumdDaemonUser} {env : Env} {f f' : Files}

/-- After `_set_group` the accounts have a group of the reported gid. -/
theorem leads_grouped {gid : Option UInt32} (grouped : u.Grouped calm env f gid f') :
    f.Leads f' ∧ ∀ id, gid = some id → ∃ grp ∈ f'.group, grp.grGid = id := by
  cases grouped with
  | reused found =>
    refine ⟨.refl, ?_⟩
    rintro _ ⟨⟩
    obtain ⟨name, -, found⟩ := Option.bind_eq_some_iff.mp found
    exact ⟨_, List.mem_of_find?_eq_some found, rfl⟩
  | created missing added =>
    refine ⟨leads_added added, ?_⟩
    rintro id rfl
    cases added with
    | added addable fresh => exact ⟨_, mem_insertFirst.mpr (Or.inl rfl), rfl⟩

theorem accounts_joined {uid : UInt32} (joined : GumdDaemonUser.Joined uid f f') :
    f'.accounts = f.accounts := by
  induction joined with
  | done => rfl
  | join first _ ih => exact ih.trans (accounts_memberAdded first)

/-- The passwd entry of an addition has a free name and uid, and the gid of the group. -/
theorem key_writes {u' : GumdDaemonUser} {gid : UInt32} {pw : Passwd} {sp : Spwd}
    (prepared : u.Prepared env f u') (writes : u'.Writes env gid pw sp) :
    f.getpwnam pw.pwName = none ∧ f.getpwuid pw.pwUid = none ∧ pw.pwGid = gid := by
  obtain ⟨name, named, freeName, freeUid⟩ := Files.allocUid_some prepared.uid
  obtain ⟨n, given, rfl⟩ := Option.map_eq_some_iff.mp writes.passwd
  obtain rfl : name = n := Option.some.inj (named.symm.trans given)
  exact ⟨freeName, freeUid, rfl⟩

/-- The group and the passwd entry of an addition. -/
theorem leads_insertUser {u' : GumdDaemonUser} {gid : UInt32} {pw : Passwd} {sp : Spwd}
    (prepared : u.Prepared env f u') (grouped : u'.Grouped calm env f (some gid) f')
    (writes : u'.Writes env gid pw sp) : f.Leads (f'.insertPasswd pw) := by
  obtain ⟨leads, hasGroup⟩ := leads_grouped grouped
  obtain ⟨grp, mem, same⟩ := hasGroup gid rfl
  obtain ⟨name, uid, pwGid⟩ := key_writes prepared writes
  refine leads.trans (leads_insertPasswd ?_ ?_ mem (same.trans pwGid.symm))
  · rwa [Files.getpwnam, grouped.frame.1]
  · rwa [Files.getpwuid, grouped.frame.1]

theorem leads_userAdded {r : Option UInt32} (added : u.UserAdded calm env f r f') :
    f.Leads f' := by
  cases added with
  | refused why => exact .refl
  | noGroup prepared grouped => exact (leads_grouped grouped).1
  | noSecret prepared grouped why => exact (leads_grouped grouped).1
  | passwdOnly prepared grouped writes why => exact leads_insertUser prepared grouped writes
  | homeless prepared grouped writes fresh same joined why =>
    exact (leads_insertUser prepared grouped writes).trans
      (Files.Leads.same ((accounts_joined joined).trans same.accounts))
  | added prepared grouped writes fresh same joined home =>
    exact (leads_insertUser prepared grouped writes).trans
      (Files.Leads.same ((accounts_joined joined).trans same.accounts))

theorem leads_userDeleted {rem : Bool} {euid : UInt32} {r : Bool}
    (deleted : u.UserDeleted calm env rem euid f r f') : f.Leads f' := by
  -- locking the user and removing the information file keep the accounts
  have locked : ∀ {name : ValidName} {f₁ : Files},
      (f.lockShadow name.val true).SameDb f₁ → f.Leads f₁ := fun same =>
    Files.Leads.same same.accounts
  have removed : ∀ {name : ValidName} {pent : Passwd} {f₁ : Files},
      (f.lockShadow name.val true).SameDb f₁ →
      f.Leads ((f₁.removePasswd pent).removeShadow name.val) := fun same =>
    ((locked same).trans (leads_removePasswd _ _)).trans (Files.Leads.same rfl)
  cases deleted with
  | refused why => exact .refl
  | survived located alive result =>
    rcases result with rfl | ⟨-, rfl⟩ <;> exact Files.Leads.same rfl
  | @interrupted name pent spent f₁ f₂ _ faulty located terminated same removed unlocked =>
    have leads : f.Leads f₂ := by
      rcases removed with rfl | rfl
      · exact locked same
      · exact (locked same).trans (leads_removePasswd _ _)
    rcases unlocked with rfl | rfl
    · exact leads
    · exact leads.trans (Files.Leads.same rfl)
  | noGroup located terminated same deleted => exact (removed same).trans (leads_deleted deleted)
  | memberships faulty located terminated same deleted parted =>
    exact ((removed same).trans (leads_deleted deleted)).trans
      (Files.Leads.same (accounts_membershipDeleted parted))
  | ended located terminated same deleted parted =>
    exact ((removed same).trans (leads_deleted deleted)).trans
      (Files.Leads.same (accounts_membershipDeleted parted))

theorem accounts_userUpdated {r : Bool} (updated : u.UserUpdated calm env f r f') :
    f'.accounts = f.accounts := by
  cases updated with
  | refused why => rfl
  | rejected updatable same icon why => exact same.accounts
  | passwdOnly faulty updatable same put =>
    obtain ⟨name, uid, gid⟩ := updatable.keys put
    exact (accounts_replacePasswd name uid gid).trans same.accounts
  | updated updatable same icon encrypted agreed changed put putSp =>
    obtain ⟨name, uid, gid⟩ := updatable.keys put
    exact (accounts_replacePasswd name uid gid).trans same.accounts

end User

/-! ## Runs -/

/-- The passwd and group files can be read throughout the call. -/
def Call.Readable (c : Call) : Prop := c.faults.read = .const true

/-- A call is a run of the account database. -/
theorem leads_step {s : System} {c : Call} (readable : c.Readable) :
    s.files.Leads (s.step c).files := by
  have outcome := System.outcome (s := s) readable
  generalize (s.call c).1 = r at outcome
  generalize (s.step c).files = f at outcome
  cases outcome with
  | idle => exact .refl
  | userAdd _ added => exact leads_userAdded added
  | userUpdate _ updated => exact Files.Leads.same (accounts_userUpdated updated)
  | userDelete _ deleted => exact leads_userDeleted deleted
  | groupAdd _ added => exact leads_added added
  | groupUpdate _ updated => exact Files.Leads.same (accounts_updated updated)
  | groupDelete _ deleted => exact leads_deleted deleted
  | groupAddMember _ added => exact Files.Leads.same (accounts_memberAdded added)
  | groupDeleteMember _ deleted => exact Files.Leads.same (accounts_memberDeleted deleted)
  | deleteUserMembership _ parted => exact Files.Leads.same (accounts_membershipDeleted parted)

/-- A run of the system is a run of the account database. -/
theorem leads_run {calls : List Call} (readable : ∀ c ∈ calls, c.Readable) (s : System) :
    s.files.Leads (s.run calls).files := by
  induction calls generalizing s with
  | nil => exact .refl
  | cons c rest ih =>
    exact (leads_step (readable c (by simp))).trans
      (ih (fun d mem => readable d (by simp [mem])) (s.step c))

/-- Uids and user names are pairwise distinct in the passwd file, and gids and group names are in the
group file. -/
structure Files.Distinct (f : Files) : Prop where
  userNames : (f.passwd.map (·.pwName)).Nodup
  uids : (f.passwd.map (·.pwUid)).Nodup
  groupNames : (f.group.map (·.grName)).Nodup
  gids : (f.group.map (·.grGid)).Nodup

theorem Files.unique_accounts (f : Files) : Unique f.accounts ↔ f.Distinct := by
  constructor
  · rintro ⟨userNames, uids, groupNames, gids⟩
    simp only [Files.accounts, Multiset.map_coe, Multiset.coe_nodup, List.map_map] at *
    exact ⟨userNames, uids, groupNames, gids⟩
  · rintro ⟨userNames, uids, groupNames, gids⟩
    constructor <;> simp only [Files.accounts, Multiset.map_coe, Multiset.coe_nodup, List.map_map]
    exacts [userNames, uids, groupNames, gids]

/-- The gid of every passwd entry is the gid of a group entry. -/
def Files.PrimaryGroups (f : Files) : Prop := ∀ e ∈ f.passwd, ∃ g ∈ f.group, g.grGid = e.pwGid

theorem Files.linked_accounts (f : Files) : Linked f.accounts ↔ f.PrimaryGroups := by
  simp [Linked, Files.accounts, Files.PrimaryGroups, Passwd.key, Group.key]

/-- Names and ids stay distinct over every run. -/
theorem run_distinct {s : System} {calls : List Call} (readable : ∀ c ∈ calls, c.Readable)
    (start : s.files.Distinct) : (s.run calls).files.Distinct := by
  rw [← Files.unique_accounts] at start ⊢
  exact (leads_run readable s).invariant Unique.step start

namespace Sample

/-- A user is added and updated, and another one becomes a member of a group and is deleted. -/
def turnover : List Call :=
  [call (.userNew 1), call (.userSet 1 (.username (some (str "bob")))),
    call (.userSet 1 (.usertype 8)), call (.userAdd 1),
    call (.userSet 1 (.realname (some (str "Bob")))), call (.userUpdate 1),
    call (.groupAddMember 0 1000 true), call (.userDelete 0 false)]

theorem run_distinct_alice : (system.run turnover).files.Distinct :=
  run_distinct (by simp [Call.Readable, turnover, call]) ⟨by decide, by decide, by decide, by decide⟩

end Sample

/-- Every user keeps an existing primary group over every run. -/
theorem run_primaryGroups {s : System} {calls : List Call} (readable : ∀ c ∈ calls, c.Readable)
    (start : s.files.PrimaryGroups) : (s.run calls).files.PrimaryGroups := by
  rw [← Files.linked_accounts] at start ⊢
  exact (leads_run readable s).invariant Linked.step start

namespace Sample

theorem run_primaryGroups_alice : (system.run turnover).files.PrimaryGroups :=
  run_primaryGroups (by simp [Call.Readable, turnover, call])
    (by simp [Files.PrimaryGroups, system, files, alice])

end Sample

end Gumd
