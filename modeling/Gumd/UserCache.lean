import Gumd.Daemon
import Gumd.Identity

/-!
# The daemon's table of users

The table is filled from the files and by additions, and emptied when objects are finalised.  What
it hands out is the user of the uid as long as no user is deleted under the table and no object in
it is given another identity.
-/

namespace Gumd

open StateWp EntryLoop

/-! ## An object and its entry -/

/-- The object has the uid, and the name of an entry of that uid. -/
structure GumdDaemonUser.Mirrors (u : GumdDaemonUser) (uid : UInt32) (passwd : List Passwd) :
    Prop where
  own : u.pw.pwUid = uid
  entry : ∃ pw ∈ passwd, pw.pwUid = uid ∧ ptr u.pw.pwName = some pw.pwName

theorem GumdDaemonUser.Mirrors.keep {u u' : GumdDaemonUser} {uid : UInt32}
    {passwd passwd' : List Passwd} (mirrors : u.Mirrors uid passwd) (same : u.SameIdentity u')
    (kept : ∀ pw ∈ passwd, pw.pwUid = uid →
      ∃ pw' ∈ passwd', pw'.pwUid = pw.pwUid ∧ pw'.pwName = pw.pwName) :
    u'.Mirrors uid passwd' := by
  obtain ⟨pw, mem, own, named⟩ := mirrors.entry
  obtain ⟨pw', mem', uid', name'⟩ := kept pw mem own
  refine ⟨same.uid.trans mirrors.own, pw', mem', uid'.trans own, ?_⟩
  obtain ⟨name, given, val⟩ := Option.map_eq_some_iff.mp named
  rw [same.name name given, ptr_some, name', val]

/-- The name of an object that mirrors an entry is found. -/
theorem GumdDaemonUser.Mirrors.known {u : GumdDaemonUser} {uid : UInt32} {f : Files}
    (mirrors : u.Mirrors uid f.passwd) : ∃ name, u.pw.pwName = some name ∧
      (f.getpwnam name.val).isSome = true := by
  obtain ⟨pw, mem, -, named⟩ := mirrors.entry
  obtain ⟨name, given, val⟩ := Option.map_eq_some_iff.mp named
  refine ⟨name, given, List.find?_isSome.mpr ⟨pw, mem, ?_⟩⟩
  exact beq_iff_eq.mpr val.symm

/-- Entries that keep their uids and names. -/
theorem exists_of_map_eq {passwd passwd' : List Passwd}
    (same : passwd'.map (fun e => (e.pwUid, e.pwName)) = passwd.map fun e => (e.pwUid, e.pwName)) :
    ∀ pw ∈ passwd, ∃ pw' ∈ passwd', pw'.pwUid = pw.pwUid ∧ pw'.pwName = pw.pwName := by
  intro pw mem
  have key : (pw.pwUid, pw.pwName) ∈ passwd'.map fun e => (e.pwUid, e.pwName) := by
    rw [same]
    exact List.mem_map_of_mem mem
  obtain ⟨pw', mem', same'⟩ := List.mem_map.mp key
  exact ⟨pw', mem', (Prod.mk.inj same').1, (Prod.mk.inj same').2⟩

/-! ## What system calls do to the users -/

namespace System

theorem runUser_other (s : System) (c : Call) {i j : Nat} (other : j ≠ i) {α : Type}
    (m : UserM α) : (s.runUser c i m).2.users j = s.users j :=
  Function.update_of_ne other ..

/-- An update keeps every uid and name. -/
theorem userUpdate_keeps {s : System} {c : Call} {i : Nat} (op : c.operation = .userUpdate i) :
    (∀ j, (s.users j).SameIdentity ((s.step c).users j)) ∧
      (s.step c).files.passwd.map (fun e => (e.pwUid, e.pwName)) =
        s.files.passwd.map fun e => (e.pwUid, e.pwName) := by
  have spec := (GumdDaemonUser.gumdDaemonUserUpdate_writes c.env ⟨s.users i, s.world c⟩).identity
  rw [System.step, System.call, op]
  refine ⟨fun j => ?_, spec.2⟩
  by_cases own : j = i
  · subst own
    rw [System.runUser_self]
    exact spec.1
  · rw [System.runUser_other s c own]
    exact .refl _

/-- A deletion keeps every identity, and removes at most the entry of its object. -/
theorem userDelete_keeps {s : System} {c : Call} {i : Nat} {rem : Bool}
    (op : c.operation = .userDelete i rem) :
    (∀ j, (s.users j).SameIdentity ((s.step c).users j)) ∧
      (s.users i).Removes c.env (s.world c) (s.call c).1 (s.step c).files.passwd := by
  have spec := GumdDaemonUser.gumdDaemonUserDelete_removes c.env rem ⟨s.users i, s.world c⟩
  rw [System.step, System.call, op]
  refine ⟨fun j => ?_, spec.2⟩
  by_cases own : j = i
  · subst own
    rw [System.runUser_self]
    exact spec.1
  · rw [System.runUser_other s c own]
    exact .refl _

/-- An addition inserts at most one entry, and leaves the other objects alone. -/
theorem userAdd_keeps {s : System} {c : Call} {i : Nat} (op : c.operation = .userAdd i) :
    (∀ j, j ≠ i → (s.step c).users j = s.users j) ∧
      ∀ pw ∈ s.files.passwd, pw ∈ (s.step c).files.passwd := by
  have adds := (GumdDaemonUser.gumdDaemonUserAdd_adds (s := ⟨s.users i, s.world c⟩) c.env).2.passwd
  rw [System.step, System.call, op]
  refine ⟨fun j other => s.runUser_other c other _, fun pw mem => ?_⟩
  rcases adds with same | ⟨new, inserted⟩
  · exact same ▸ mem
  · exact inserted ▸ (perm_insertFirst _ new s.files.passwd).symm.subset (List.mem_cons_of_mem _ mem)

/-- A user who is in the files is not added again. -/
theorem userAdd_existing {s : System} {c : Call} {i : Nat} (op : c.operation = .userAdd i)
    (readable : c.faults.read = .const true) {name : ValidName}
    (given : (s.users i).pw.pwName = some name)
    (known : (s.files.getpwnam name.val).isSome = true) : (s.call c).1 = false ∧
      (s.users i).SameIdentity ((s.step c).users i) ∧
      (s.step c).files.passwd = s.files.passwd := by
  obtain ⟨refused, same, passwd⟩ := GumdDaemonUser.gumdDaemonUserAdd_existing
    (s := ⟨s.users i, s.world c⟩) readable c.env given known
  rw [System.step, System.call, op]
  refine ⟨congrArg Option.isSome refused, ?_, passwd⟩
  rw [← s.runUser_self c i] at same
  exact same

/-- A user who has been added mirrors the new entry. -/
theorem userAdd_mirrors {s : System} {c : Call} {i : Nat} (op : c.operation = .userAdd i)
    (done : (s.call c).1 = true) : ∃ pw, pw.pwUid = ((s.step c).users i).pw.pwUid ∧
      (s.step c).files.passwd = insertFirst (pw.pwUid < ·.pwUid) pw s.files.passwd ∧
      ((s.step c).users i).Mirrors pw.pwUid (s.step c).files.passwd := by
  have object := GumdDaemonUser.gumdDaemonUserAdd_object (s := ⟨s.users i, s.world c⟩) c.env
  rw [System.call, op] at done
  obtain ⟨uid, returned⟩ := Option.isSome_iff_exists.mp done
  obtain ⟨own, pw, put, inserted⟩ := object uid returned
  rw [System.step, System.call, op]
  have self := s.runUser_self c i (GumdDaemonUser.gumdDaemonUserAdd c.env)
  obtain ⟨named, own', -⟩ := PasswdRecord.keys_of_putpwent put
  have uid := (congrArg (fun u => u.pw.pwUid) self).trans own'
  refine ⟨pw, uid.symm, inserted, uid, pw, ?_, rfl, ?_⟩
  · refine (congrArg (pw ∈ ·) inserted).mpr ?_
    exact (perm_insertFirst _ pw s.files.passwd).symm.subset List.mem_cons_self
  · exact (congrArg (fun u => ptr u.pw.pwName) self).trans named

/-- A load by uid changes no file, and no object but the loaded one. -/
theorem userLoad_keeps {s : System} {c : Call} {i : Nat} {uid : UInt32}
    (op : c.operation = .userNewByUid i uid) : (s.step c).files = s.files ∧
      (∀ j, j ≠ i → (s.step c).users j = s.users j) ∧
      ((s.call c).1 = true → uid ≠ gumUserInvalidUid ∧
        ∃ pent, s.files.getpwuid uid = some pent ∧
          ((s.step c).users i).pw.pwUid = uid ∧ ptr ((s.step c).users i).pw.pwName =
            if gumValidateName (some pent.pwName) = .ok () then some pent.pwName else none) := by
  obtain ⟨files, loaded⟩ := gumdDaemonUserNewByUid_loaded c.env uid (s.world c)
  rw [System.step, System.call, op]
  refine ⟨files, fun j other => Function.update_of_ne other .., fun done => ?_⟩
  obtain ⟨u, same⟩ := Option.isSome_iff_exists.mp done
  have self : (s.loadUser c i (gumdDaemonUserNewByUid c.env uid)).2.users i = u := by
    refine (Function.update_self ..).trans ?_
    rw [same, Option.getD_some]
  obtain ⟨valid, pent, found, own, named⟩ := loaded u same
  refine ⟨valid, pent, found, ?_, ?_⟩
  · exact (congrArg (fun u => u.pw.pwUid) self).trans own
  · exact (congrArg (fun u => ptr u.pw.pwName) self).trans named

/-- The operations of group objects. -/
def OfGroup : Operation → Prop
  | .groupNew _ | .groupNewByGid .. | .groupNewByName .. | .groupSet .. | .groupAdd ..
  | .groupUpdate _ | .groupDelete _ | .groupAddMember .. | .groupDeleteMember .. => True
  | _ => False

/-- An operation of a group leaves the users and their entries alone. -/
theorem group_keeps {s : System} {c : Call} (group : OfGroup c.operation) :
    (s.step c).users = s.users ∧ (s.step c).files.passwd = s.files.passwd := by
  have run : ∀ {α : Type} {m : GroupM α} (i : Nat), FileSteps GroupStep m →
      (s.runGroup c i m).2.users = s.users ∧ (s.runGroup c i m).2.files.passwd = s.files.passwd :=
    fun i steps => ⟨rfl, (keepsUsers_of_steps steps ⟨s.groups i, s.world c⟩).1⟩
  rw [step, System.call]
  cases op : c.operation with
  | groupNew i => exact ⟨rfl, rfl⟩
  | groupSet i property => exact ⟨rfl, rfl⟩
  | groupNewByGid i gid => exact ⟨rfl, passwd_loadGroup _ (s.world c)⟩
  | groupNewByName i groupname =>
    cases groupname with
    | none => exact ⟨rfl, rfl⟩
    | some name => exact ⟨rfl, passwd_loadGroup _ (s.world c)⟩
  | groupAdd i preferredGid =>
    have added := run i (GumdDaemonGroup.steps_gumdDaemonGroupAdd c.env preferredGid)
    exact added
  | groupUpdate i => exact run i (GumdDaemonGroup.steps_gumdDaemonGroupUpdate c.env)
  | groupDelete i => exact run i (GumdDaemonGroup.steps_gumdDaemonGroupDelete c.env)
  | groupAddMember i uid admin =>
    exact run i (GumdDaemonGroup.steps_gumdDaemonGroupAddMember uid admin)
  | groupDeleteMember i uid =>
    exact run i (GumdDaemonGroup.steps_gumdDaemonGroupDeleteMember uid)
  | _ => simp [OfGroup, op] at group

end System

/-! ## The table -/

namespace GumdDaemon

/-- Every object in the table is the user of its uid. -/
def Coherent (d : GumdDaemon) : Prop :=
  ∀ uid i, d.users uid = some i →
    i < d.userCount ∧ (d.system.users i).Mirrors uid d.system.files.passwd

/-- A change of the system that keeps the users of the table and their entries. -/
theorem Coherent.evolve {d : GumdDaemon} {s : System} (coherent : d.Coherent)
    (same : ∀ uid i, d.users uid = some i → (d.system.users i).SameIdentity (s.users i))
    (kept : ∀ uid i, d.users uid = some i → ∀ pw ∈ d.system.files.passwd, pw.pwUid = uid →
      ∃ pw' ∈ s.files.passwd, pw'.pwUid = pw.pwUid ∧ pw'.pwName = pw.pwName) :
    { d with system := s }.Coherent := by
  intro uid i cached
  obtain ⟨exists_, mirrors⟩ := coherent uid i cached
  exact ⟨exists_, mirrors.keep (same uid i cached) (kept uid i cached)⟩

/-- A new entry of the table. -/
theorem Coherent.insert {d : GumdDaemon} (coherent : d.Coherent) {uid : UInt32} {user : Nat}
    (created : user < d.userCount) (mirrors : (d.system.users user).Mirrors uid d.system.files.passwd) :
    { d with users := Function.update d.users uid (some user) }.Coherent := by
  intro uid' i cached
  by_cases same : uid' = uid
  · subst same
    obtain rfl : user = i := by simpa using cached
    exact ⟨created, mirrors⟩
  · exact coherent uid' i (by simpa [Function.update_of_ne same] using cached)

/-- More objects may exist. -/
theorem Coherent.grow {d : GumdDaemon} (coherent : d.Coherent) :
    { d with userCount := d.userCount + 1 }.Coherent := fun uid i cached =>
  ⟨Nat.lt_succ_of_lt (coherent uid i cached).1, (coherent uid i cached).2⟩

/-- The new object is none of those in the table. -/
theorem Coherent.fresh {d : GumdDaemon} (coherent : d.Coherent) {uid : UInt32} {i : Nat}
    (cached : d.users uid = some i) : i ≠ d.userCount :=
  Nat.ne_of_lt (coherent uid i cached).1

/-- The object is in the table. -/
def Caches (d : GumdDaemon) (user : Nat) : Prop := ∃ uid, d.users uid = some user

/-- An entry that is loaded for the uid has a name the validator accepts. -/
def LoadsNamed (d : GumdDaemon) (uid : UInt32) : Prop :=
  d.users uid = none → ∀ pw, d.system.files.getpwuid uid = some pw →
    gumValidateName (some pw.pwName) = .ok ()

/-- How `gumd_daemon_get_user` can end: with the object of the table, with nothing, or with a new
object, which is the user of the uid if the entry's name is valid. -/
inductive Gets (d : GumdDaemon) (uid : UInt32) : Option Nat → GumdDaemon → Prop
  | cached {i} : d.users uid = some i → Gets d uid (some i) d
  | missing {s : System} : s.files = d.system.files →
      (∀ j, j ≠ d.userCount → s.users j = d.system.users j) →
      Gets d uid none { d with system := s }
  | loaded {s : System} : uid ≠ gumUserInvalidUid → s.files = d.system.files →
      (∀ j, j ≠ d.userCount → s.users j = d.system.users j) →
      (d.LoadsNamed uid → (s.users d.userCount).Mirrors uid s.files.passwd) →
      Gets d uid (some d.userCount) { d with
        system := s, userCount := d.userCount + 1
        users := Function.update d.users uid (some d.userCount) }

theorem getUser_gets (d : GumdDaemon) (c : Context) (uid : UInt32) :
    d.Gets uid (d.getUser c uid).1 (d.getUser c uid).2 := by
  rw [getUser]
  cases cached : d.users uid with
  | some user => exact .cached cached
  | none =>
    obtain ⟨files, others, loads⟩ := System.userLoad_keeps (s := d.system)
      (c := c.call (.userNewByUid d.userCount uid)) rfl
    rw [System.step] at files others loads
    dsimp only
    generalize d.system.call (c.call (.userNewByUid d.userCount uid)) = result at *
    obtain ⟨loaded, s⟩ := result
    cases loaded with
    | false => exact .missing files others
    | true =>
      obtain ⟨valid, pent, found, own, name⟩ := loads rfl
      refine .loaded valid files others fun named => ⟨own, pent, ?_, ?_, ?_⟩
      · exact files ▸ List.mem_of_find?_eq_some found
      · simpa using List.find?_some found
      · rwa [if_pos (named cached pent found)] at name

theorem getUser_coherent {d : GumdDaemon} (coherent : d.Coherent) (c : Context) {uid : UInt32}
    (named : d.LoadsNamed uid) : (d.getUser c uid).2.Coherent ∧
      ∀ i, (d.getUser c uid).1 = some i →
        ((d.getUser c uid).2.system.users i).Mirrors uid (d.getUser c uid).2.system.files.passwd := by
  have evolve : ∀ {s : System}, s.files = d.system.files →
      (∀ j, j ≠ d.userCount → s.users j = d.system.users j) → { d with system := s }.Coherent := by
    intro s files others
    refine coherent.evolve (fun uid' i cached => ?_) fun uid' i _ pw mem _ => ⟨pw, ?_, rfl, rfl⟩
    · exact others i (coherent.fresh cached) ▸ .refl _
    · exact files ▸ mem
  have gets := d.getUser_gets c uid
  generalize d.getUser c uid = result at gets
  obtain ⟨found, d'⟩ := result
  cases gets with
  | @cached i held =>
    refine ⟨coherent, fun j same => ?_⟩
    obtain rfl : i = j := Option.some.inj same
    exact (coherent uid i held).2
  | missing files others => exact ⟨evolve files others, fun i same => nomatch same⟩
  | @loaded s valid files others mirrors =>
    replace mirrors := mirrors named
    refine ⟨Coherent.insert (d := { d with system := s, userCount := d.userCount + 1 })
      (evolve files others).grow (Nat.lt_succ_self _) mirrors, fun i same => ?_⟩
    obtain rfl : d.userCount = i := Option.some.inj same
    exact mirrors

theorem addUser_coherent {d : GumdDaemon} (coherent : d.Coherent) (c : Context) {user : Nat}
    (readable : d.Caches user → c.faults.read = .const true) :
    (d.addUser c user).2.2.Coherent := by
  rw [addUser]
  split_ifs with created
  swap
  · exact coherent
  have op : (c.call (.userAdd user)).operation = .userAdd user := rfl
  obtain ⟨others, inserted⟩ := System.userAdd_keeps (s := d.system) op
  have mirrors := System.userAdd_mirrors (s := d.system) op
  have existing := fun readable name => @System.userAdd_existing d.system _ _ op readable name
  rw [System.step] at others inserted mirrors
  simp only [System.step] at existing
  dsimp only
  generalize d.system.call (c.call (.userAdd user)) = result at *
  obtain ⟨added, s⟩ := result
  have kept : ∀ pw ∈ d.system.files.passwd, ∃ pw' ∈ s.files.passwd,
      pw'.pwUid = pw.pwUid ∧ pw'.pwName = pw.pwName := fun pw mem => ⟨pw, inserted pw mem, rfl, rfl⟩
  by_cases cached : d.Caches user
  · obtain ⟨uid, held⟩ := id cached
    obtain ⟨name, given, known⟩ := (coherent uid user held).2.known
    obtain ⟨refused, same, -⟩ := existing (readable cached) name given known
    obtain rfl : added = false := refused
    refine coherent.evolve (fun uid' i held' => ?_) fun _ _ _ pw mem _ => kept pw mem
    by_cases own : i = user
    · exact own ▸ same
    · exact others i own ▸ .refl _
  have stepped : { d with system := s }.Coherent := by
    refine coherent.evolve (fun uid' i held' => ?_) fun _ _ _ pw mem _ => kept pw mem
    have other : i ≠ user := fun own => cached ⟨uid', own ▸ held'⟩
    exact others i other ▸ .refl _
  cases added with
  | false => exact stepped
  | true =>
    obtain ⟨pw, own, -, mirrors⟩ := mirrors rfl
    simp only [Bool.not_true, Bool.false_eq_true, if_false]
    split_ifs
    · rw [← own]
      exact stepped.insert created mirrors
    · exact stepped

theorem updateUser_coherent {d : GumdDaemon} (coherent : d.Coherent) (c : Context) (user : Nat) :
    (d.updateUser c user).2.2.Coherent := by
  rw [updateUser]
  split_ifs with created
  swap
  · exact coherent
  obtain ⟨same, keys⟩ := System.userUpdate_keeps (s := d.system) (c := c.call (.userUpdate user)) rfl
  exact coherent.evolve (fun _ i _ => same i) fun _ _ _ pw mem _ => exists_of_map_eq keys pw mem

/-- A deletion that gets as far as the entry is not of a user of the table. -/
def Uncached (d : GumdDaemon) (c : Context) (user : Nat) (remHomeDir : Bool) : Prop :=
  let w := d.system.world (c.call (.userDelete user remHomeDir))
  let u := d.system.users user
  w.lockGranted = true → GumdDaemonUser.terminateUser c.env.logind = true →
    u.pw.pwUid ≠ gumUserInvalidUid →
    ∀ pent, w.seenPasswd u.pw = some pent → d.users pent.pwUid = none

theorem deleteUser_coherent {d : GumdDaemon} (coherent : d.Coherent) (c : Context) {user : Nat}
    {remHomeDir : Bool} (uncached : d.Uncached c user remHomeDir) :
    (d.deleteUser c user remHomeDir).2.2.Coherent := by
  rw [deleteUser]
  split_ifs with created
  swap
  · exact coherent
  obtain ⟨same, removes⟩ := System.userDelete_keeps (s := d.system)
    (c := c.call (.userDelete user remHomeDir)) rfl
  refine coherent.evolve (fun _ i _ => same i) fun uid i cached pw mem own => ⟨pw, ?_, rfl, rfl⟩
  change pw ∈ (d.system.step (c.call (.userDelete user remHomeDir))).files.passwd
  generalize (d.system.step (c.call (.userDelete user remHomeDir))).files.passwd = passwd',
    (d.system.call (c.call (.userDelete user remHomeDir))).1 = r at *
  cases removes with
  | nothing => exact mem
  | @removed _ pent granted terminated valid found =>
    have gone := uncached granted terminated valid pent found
    refine (List.mem_eraseP_of_neg fun picked => ?_).mpr mem
    have uid' : pent.pwUid = pw.pwUid := (of_decide_eq_true picked).1
    rw [uid', own, cached] at gone
    cases gone

theorem getUserByName_coherent {d : GumdDaemon} (coherent : d.Coherent) (c : Context)
    {username : Option Str} (named : ∀ name pw, username = some name →
      d.system.files.getpwnam name = some pw → d.LoadsNamed pw.pwUid) :
    (d.getUserByName c username).2.Coherent := by
  rw [getUserByName]
  have found := gumdDaemonUserGetUidByName_found username ⟨d.system.files, c.faults, c.process, none⟩
  rw [wp] at found
  generalize (gumdDaemonUserGetUidByName username).run _ = result at *
  obtain ⟨uid, w⟩ := result
  dsimp only
  split_ifs with invalid
  · exact coherent
  · obtain ⟨name, pw, rfl, byName, rfl⟩ := found invalid
    exact (getUser_coherent coherent _ (named name pw rfl byName)).1

/-- A release only empties the table. -/
theorem onUserDisposed_coherent {d : GumdDaemon} (coherent : d.Coherent) (user : Nat) :
    (d.onUserDisposed user).Coherent := fun uid i cached =>
  coherent uid i (Option.filter_eq_some_iff.mp cached).1

/-- The table of users, its objects and the passwd file are as they were. -/
structure SameUsers (d d' : GumdDaemon) : Prop where
  users : d'.users = d.users
  userCount : d'.userCount = d.userCount
  objects : d'.system.users = d.system.users
  passwd : d'.system.files.passwd = d.system.files.passwd

theorem Coherent.group {d d' : GumdDaemon} (coherent : d.Coherent) (same : d.SameUsers d') :
    d'.Coherent := by
  intro uid i cached
  rw [same.userCount, same.objects, same.passwd]
  exact coherent uid i (same.users ▸ cached)

theorem getGroup_sameUsers (d : GumdDaemon) (c : Context) (gid : UInt32) :
    d.SameUsers (d.getGroup c gid).2 := by
  obtain ⟨objects, passwd⟩ := System.group_keeps (s := d.system)
    (c := c.call (.groupNewByGid d.groupCount gid)) trivial
  rw [getGroup]
  cases d.groups gid with
  | some group => exact ⟨rfl, rfl, rfl, rfl⟩
  | none =>
    dsimp only
    split_ifs
    · exact ⟨rfl, rfl, objects, passwd⟩
    · exact ⟨rfl, rfl, objects, passwd⟩

theorem changeMembers_sameUsers (d : GumdDaemon) (c : Context) (group : Nat)
    {operation : Operation} (member : System.OfGroup operation) :
    d.SameUsers (d.changeMembers c group operation).2 := by
  obtain ⟨objects, passwd⟩ := System.group_keeps (s := d.system) (c := c.call operation) member
  rw [changeMembers]
  split_ifs
  · exact ⟨rfl, rfl, objects, passwd⟩
  · exact ⟨rfl, rfl, rfl, rfl⟩

/-- The calls for groups. -/
def OfGroup : DaemonOperation → Prop
  | .groupNew | .getGroup _ | .getGroupByName _ | .groupSet .. | .addGroup _ | .deleteGroup _
  | .updateGroup _ | .releaseGroup _ | .addGroupMember .. | .deleteGroupMember .. => True
  | _ => False

/-- The calls for groups do not touch the table of users. -/
theorem sameUsers_step {d : GumdDaemon} {c : DaemonCall} (group : OfGroup c.operation) :
    d.SameUsers (d.step c) := by
  rw [step, GumdDaemon.call]
  cases op : c.operation with
  | groupNew => exact ⟨rfl, rfl, rfl, rfl⟩
  | groupSet group property => exact ⟨rfl, rfl, rfl, rfl⟩
  | releaseGroup group => exact ⟨rfl, rfl, rfl, rfl⟩
  | getGroup gid => exact getGroup_sameUsers d c.toContext gid
  | getGroupByName groupname =>
    dsimp only
    rw [getGroupByName]
    generalize (gumdDaemonGroupGetGidByName groupname).run _ = result
    obtain ⟨gid, w⟩ := result
    dsimp only
    split_ifs
    · exact ⟨rfl, rfl, rfl, rfl⟩
    · exact getGroup_sameUsers d _ _
  | addGroup group =>
    obtain ⟨objects, passwd⟩ := System.group_keeps (s := d.system)
      (c := c.toContext.call (.groupAdd group gumGroupInvalidGid)) trivial
    simp only [addGroup]
    split_ifs
    · exact ⟨rfl, rfl, objects, passwd⟩
    · exact ⟨rfl, rfl, objects, passwd⟩
    · exact ⟨rfl, rfl, objects, passwd⟩
    · exact ⟨rfl, rfl, rfl, rfl⟩
  | deleteGroup group =>
    obtain ⟨objects, passwd⟩ := System.group_keeps (s := d.system)
      (c := c.toContext.call (.groupDelete group)) trivial
    simp only [deleteGroup]
    split_ifs
    · exact ⟨rfl, rfl, objects, passwd⟩
    · exact ⟨rfl, rfl, rfl, rfl⟩
  | updateGroup group =>
    obtain ⟨objects, passwd⟩ := System.group_keeps (s := d.system)
      (c := c.toContext.call (.groupUpdate group)) trivial
    simp only [updateGroup]
    split_ifs
    · exact ⟨rfl, rfl, objects, passwd⟩
    · exact ⟨rfl, rfl, rfl, rfl⟩
  | addGroupMember group uid addAsAdmin => exact changeMembers_sameUsers d _ _ trivial
  | deleteGroupMember group uid => exact changeMembers_sameUsers d _ _ trivial
  | _ => simp [OfGroup, op] at group

end GumdDaemon

/-- A write that changes neither the uid nor the name. -/
def UserProperty.KeepsIdentity : UserProperty → Prop
  | .uid _ | .username _ => False
  | _ => True

theorem UserProperty.sameIdentity {property : UserProperty} (keeps : property.KeepsIdentity)
    (u : GumdDaemonUser) : u.SameIdentity (property.set u) := by
  cases property with
  | uid value => exact keeps.elim
  | username value => exact keeps.elim
  | _ => exact ⟨rfl, fun _ => id⟩

/-- The calls that keep the table: an entry is loaded under a name the validator accepts, an object
of the table keeps its uid and name and is added again only while passwd can be read, and no user of
the table is deleted. -/
def DaemonCall.KeepsCache (d : GumdDaemon) (c : DaemonCall) : Prop :=
  match c.operation with
  | .getUser uid => d.LoadsNamed uid
  | .getUserByName username => ∀ name pw, username = some name →
      d.system.files.getpwnam name = some pw → d.LoadsNamed pw.pwUid
  | .userSet user property => d.Caches user → property.KeepsIdentity
  | .addUser user => d.Caches user → c.faults.read = .const true
  | .deleteUser user remHomeDir => d.Uncached c.toContext user remHomeDir
  | _ => True

/-- An object that is handed out for a uid has it, with the name of an entry of that uid. -/
def DaemonCall.HandsOutUser (d : GumdDaemon) (c : DaemonCall) : Prop :=
  ∀ uid i, c.operation = .getUser uid → (d.call c).1.object = some i →
    ((d.step c).system.users i).Mirrors uid (d.step c).system.files.passwd

namespace GumdDaemon

theorem coherent_step {d : GumdDaemon} {c : DaemonCall} (keeps : c.KeepsCache d)
    (coherent : d.Coherent) : c.HandsOutUser d ∧ (d.step c).Coherent := by
  have other : (∀ uid, c.operation ≠ .getUser uid) → c.HandsOutUser d := fun none uid i op =>
    absurd op (none uid)
  rw [DaemonCall.KeepsCache] at keeps
  rw [step, GumdDaemon.call]
  cases op : c.operation with
  | getUser uid =>
    simp only [op] at keeps
    obtain ⟨after, handed⟩ := getUser_coherent coherent c.toContext keeps
    refine ⟨fun uid' i op' found => ?_, after⟩
    obtain rfl : uid = uid' := by simpa [op] using op'
    rw [GumdDaemon.call, op] at found
    rw [step, GumdDaemon.call, op]
    exact handed i found
  | getUserByName username =>
    simp only [op] at keeps
    exact ⟨other (by simp [op]), getUserByName_coherent coherent _ keeps⟩
  | userNew =>
    refine ⟨other (by simp [op]), ?_⟩
    refine Coherent.grow (d := { d with system := _ }) (coherent.evolve (fun uid i cached => ?_)
      fun _ _ _ pw mem _ => ⟨pw, mem, rfl, rfl⟩)
    have others : (d.system.step (c.toContext.call (.userNew d.userCount))).users i =
        d.system.users i := Function.update_of_ne (coherent.fresh cached) ..
    exact others ▸ .refl _
  | userSet user property =>
    simp only [op] at keeps
    refine ⟨other (by simp [op]), coherent.evolve (fun uid i cached => ?_)
      fun _ _ _ pw mem _ => ⟨pw, mem, rfl, rfl⟩⟩
    change (d.system.users i).SameIdentity
      (Function.update d.system.users user (property.set (d.system.users user)) i)
    by_cases own : i = user
    · subst own
      rw [Function.update_self]
      exact UserProperty.sameIdentity (keeps ⟨uid, cached⟩) _
    · rw [Function.update_of_ne own]
      exact .refl _
  | addUser user =>
    simp only [op] at keeps
    exact ⟨other (by simp [op]), addUser_coherent coherent _ keeps⟩
  | deleteUser user remHomeDir =>
    simp only [op] at keeps
    exact ⟨other (by simp [op]), deleteUser_coherent coherent _ keeps⟩
  | updateUser user => exact ⟨other (by simp [op]), updateUser_coherent coherent _ _⟩
  | releaseUser user => exact ⟨other (by simp [op]), onUserDisposed_coherent coherent user⟩
  | _ =>
    have same := sameUsers_step (d := d) (c := c) (by simp [OfGroup, op])
    rw [step, GumdDaemon.call] at same
    simp only [op] at same
    exact ⟨other (by simp [op]), coherent.group same⟩

end GumdDaemon

/-- From a daemon that has handed out nothing, every run that keeps the table hands out the right
users. -/
theorem run_handsOutUser {calls : List DaemonCall} {s : System}
    (each : GumdDaemon.Each (fun d c => c.KeepsCache d) (.new s) calls) :
    GumdDaemon.Each (fun d c => c.HandsOutUser d) (.new s) calls :=
  each.invariant (fun _ _ keeps coherent => GumdDaemon.coherent_step keeps coherent)
    fun _ _ cached => nomatch cached

namespace Sample

def ask (operation : DaemonOperation) : DaemonCall where
  env := env
  faults := ⟨.const true, .const true, .const true, .const true, .const none⟩
  process := ⟨0, false, 0, 0, 0⟩
  operation := operation

/-- A user is loaded, updated, and asked for again. -/
theorem run_handsOutUser_alice : GumdDaemon.Each (fun d c => c.HandsOutUser d) (.new system)
    [ask (.getUser 1000), ask (.updateUser 0), ask (.getUser 1000)] := by
  apply run_handsOutUser
  refine ⟨fun _ pw found => ?_, trivial, fun empty => ?_, trivial⟩
  · obtain rfl : alice = pw := Option.some.inj (found ▸ rfl)
    decide
  · exact absurd empty (by decide)

/-- The daemon still hands out the object of a user it has deleted. -/
theorem run_not_handsOutUser : ¬GumdDaemon.Each (fun d c => c.HandsOutUser d) (.new system)
    [ask (.getUser 1000), ask (.deleteUser 0 false), ask (.getUser 1000)] := by
  rintro ⟨-, -, handed, -⟩
  obtain ⟨pw, mem, -⟩ := (handed 1000 0 rfl (by decide +kernel)).entry
  revert pw
  decide +kernel

end Sample

end Gumd
