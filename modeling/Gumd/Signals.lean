import Gumd.UserCache

/-!
# The daemon's signals

A deletion and an update announce the id of the entry they have found.  An addition of a user
announces the new uid unless the table already has it, and an addition of a group announces nothing.
-/

namespace Gumd

open StateWp EntryLoop

/-- A call that succeeds emits one signal, with the id of what it is about, and one that fails emits
none. -/
def Reply.Announces (reply : Reply) (signal : UInt32 → Signal) (about : UInt32 → Prop) : Prop :=
  if reply.done then ∃ id, about id ∧ reply.signals = [signal id] else reply.signals = []

/-- A call announces its success, and nothing else. -/
def DaemonCall.Announces (d : GumdDaemon) (c : DaemonCall) : Prop :=
  let reply := (d.call c).1
  let f := d.system.files
  let f' := (d.step c).system.files
  match c.operation with
  | .addUser _ => reply.Announces .userAdded fun uid =>
      ∃ pw, pw.pwUid = uid ∧ f'.passwd = insertFirst (pw.pwUid < ·.pwUid) pw f.passwd
  | .deleteUser user _ => reply.Announces .userDeleted fun uid =>
      ∃ pent ∈ f.passwd, pent.pwUid = uid ∧ (d.system.users user).pw.agrees pent = true ∧
        f'.passwd = (f.removePasswd pent).passwd
  | .updateUser user => reply.Announces .userUpdated fun uid =>
      ∃ pw sp new newSp, pw.pwUid = uid ∧ (d.system.users user).pw.agrees pw = true ∧
        (d.system.users user).Replaces f f' pw new sp newSp
  | .addGroup _ => reply.Announces .groupAdded fun gid =>
      ∃ entry, entry.grGid = gid ∧ f'.group = insertFirst (entry.grGid < ·.grGid) entry f.group
  | .deleteGroup group => reply.Announces .groupDeleted fun gid =>
      ∃ entry ∈ f.group, entry.grGid = gid ∧ (d.system.groups group).group.agrees entry = true
  | .updateGroup group => reply.Announces .groupUpdated fun gid =>
      ∃ entry ∈ f.group, entry.grGid = gid ∧ (d.system.groups group).group.agrees entry = true
  | _ => reply.signals = []

/-- A group with the object's properties can be added. -/
def GumdDaemonGroup.CanAdd (g : GumdDaemonGroup) (env : Env) (f : Files) : Prop :=
  ∃ name gid passwd, g.Addable env gumGroupInvalidGid f name gid passwd ∧ ¬f.HasGshadow name.val

/-- The additions that are announced: that of a user whose new uid is not in the table, and no
addition of a group that succeeds. -/
def DaemonCall.Announceable (d : GumdDaemon) (c : DaemonCall) : Prop :=
  match c.operation with
  | .addUser user => c.faults.read = .const true ∧
      ∀ u, (d.system.users user).Prepared c.env d.system.files u → d.users u.pw.pwUid = none
  | .addGroup group =>
      (d.system.world (c.toContext.call (.groupAdd group gumGroupInvalidGid))).lockGranted = false ∨
        c.faults.read = .const true ∧ ¬(d.system.groups group).CanAdd c.env d.system.files
  | _ => True

/-! ## What a successful operation has found -/

/-- A group is not added without the lock. -/
theorem gumdDaemonGroupAdd_denied {s : St GumdDaemonGroup}
    (denied : s.world.lockGranted = false) (env : Env) (preferredGid : UInt32) :
    wp (GumdDaemonGroup.gumdDaemonGroupAdd env preferredGid) (fun r _ => r = none) s := by
  rw [GumdDaemonGroup.gumdDaemonGroupAdd, GumdDaemonGroup.checkGroupType, wp_bind, wp_bind,
    wp_getSelf, wp_ite]
  refine ⟨fun _ => ?_, fun _ => rfl⟩
  rw [wp_pure]
  exact wp_refused denied fun _ _ => rfl

namespace System

/-- The entry of a group that is deleted or updated. -/
theorem exists_of_seenGroup {s : System} {c : Call} {g : GumdDaemonGroup}
    (seen : g.group.grGid ≠ gumGroupInvalidGid ∧
      ∃ entry, (s.world c).seenGroup g.group = some entry) :
    g.group.grGid ≠ gumGroupInvalidGid ∧ ∃ entry ∈ s.files.group,
      entry.grGid = g.group.grGid ∧ g.group.agrees entry = true := by
  obtain ⟨valid, entry, found⟩ := seen
  obtain ⟨agrees, first⟩ := World.seenGroup_some found
  refine ⟨valid, entry, List.mem_of_find?_eq_some first, ?_, agrees⟩
  exact ((GroupRecord.agrees_iff.mp agrees).1.resolve_left valid).symm

theorem groupDelete_finds {s : System} {c : Call} {i : Nat} (op : c.operation = .groupDelete i)
    (done : (s.call c).1 = true) : (s.groups i).group.grGid ≠ gumGroupInvalidGid ∧
      ∃ entry ∈ s.files.group, entry.grGid = (s.groups i).group.grGid ∧
        (s.groups i).group.agrees entry = true := by
  have spec := GumdDaemonGroup.gumdDaemonGroupDelete_seen (s := ⟨s.groups i, s.world c⟩) c.env
  rw [System.call, op] at done
  exact exists_of_seenGroup (spec done)

theorem groupUpdate_finds {s : System} {c : Call} {i : Nat} (op : c.operation = .groupUpdate i) :
    ((s.step c).groups i).group.grGid = (s.groups i).group.grGid ∧
      ((s.call c).1 = true → (s.groups i).group.grGid ≠ gumGroupInvalidGid ∧
        ∃ entry ∈ s.files.group, entry.grGid = (s.groups i).group.grGid ∧
          (s.groups i).group.agrees entry = true) := by
  have spec := GumdDaemonGroup.gumdDaemonGroupUpdate_seen (s := ⟨s.groups i, s.world c⟩) c.env
  have keeps := GumdDaemonGroup.keepsGid_gumdDaemonGroupUpdate c.env ⟨s.groups i, s.world c⟩
  rw [System.step, System.call, op]
  refine ⟨?_, fun done => exists_of_seenGroup (spec done)⟩
  refine Eq.trans ?_ keeps
  exact congrArg (fun g : GumdDaemonGroup => g.group.grGid) (s.runGroup_self c i _)

theorem userUpdate_finds {s : System} {c : Call} {i : Nat} (op : c.operation = .userUpdate i)
    (done : (s.call c).1 = true) : (s.users i).pw.pwUid ≠ gumUserInvalidUid ∧
      ∃ pw sp new newSp, pw.pwUid = (s.users i).pw.pwUid ∧ (s.users i).pw.agrees pw = true ∧
        (s.users i).Replaces s.files (s.step c).files pw new sp newSp := by
  have spec := GumdDaemonUser.gumdDaemonUserUpdate_writes c.env ⟨s.users i, s.world c⟩
  rw [System.call, op] at done
  rw [System.step, System.call, op]
  generalize valid : (s.users i).pw.pwUid = uid
  rw [wp] at spec
  change ((GumdDaemonUser.gumdDaemonUserUpdate c.env).run ⟨s.users i, s.world c⟩).1 = true at done
  change uid ≠ _ ∧ ∃ pw sp new newSp, _ ∧ _ ∧ (s.users i).Replaces s.files
    ((GumdDaemonUser.gumdDaemonUserUpdate c.env).run ⟨s.users i, s.world c⟩).2.world.files pw new sp newSp
  generalize (GumdDaemonUser.gumdDaemonUserUpdate c.env).run ⟨s.users i, s.world c⟩ = result at *
  obtain ⟨r, t⟩ := result
  obtain rfl : r = true := done
  dsimp only at spec ⊢
  generalize t.self = u', t.world.files = f' at spec ⊢
  cases spec with
  | @both pw sp new newSp _ valid' merges =>
    have agrees := (World.seenPasswd_some merges.found).1
    subst valid
    refine ⟨valid', pw, sp, new, newSp, ?_, agrees, merges.replaces⟩
    exact (GumdDaemonUser.sameIdentity_of_agrees valid' agrees).1

/-- A group is added only if the lock is granted and its object can be. -/
theorem groupAdd_fits {s : System} {c : Call} {i : Nat}
    (op : c.operation = .groupAdd i gumGroupInvalidGid)
    (done : (s.call c).1 = true) : (s.world c).lockGranted = true ∧
      (c.faults.read = .const true → (s.groups i).CanAdd c.env s.files) := by
  rw [System.call, op] at done
  have added : ((GumdDaemonGroup.gumdDaemonGroupAdd c.env gumGroupInvalidGid).run
    ⟨s.groups i, s.world c⟩).1.isSome = true := done
  refine ⟨by_contra fun denied => ?_, fun readable => ?_⟩
  · have refused := gumdDaemonGroupAdd_denied (s := ⟨s.groups i, s.world c⟩)
      (Bool.eq_false_iff.mpr denied) c.env gumGroupInvalidGid
    rw [refused] at added
    cases added
  · have spec := (GumdDaemonGroup.gumdDaemonGroupAdd_spec (s := ⟨s.groups i, s.world c⟩) readable
      c.env gumGroupInvalidGid).2
    dsimp only at spec
    generalize StateT.run _ _ = result at added spec
    obtain ⟨r, t⟩ := result
    dsimp only at added spec
    generalize t.world.files = f' at spec
    cases spec with
    | @added name _ passwd addable fresh => exact ⟨name, _, passwd, addable, fresh⟩
    | _ => cases added

end System

/-! ## Single calls -/

section Announce

variable {signal : UInt32 → Signal} {about : UInt32 → Prop} {object : Option Nat}

/-- A call that announces a valid id. -/
theorem announces_announce {done : Bool} {id invalid : UInt32} (valid : done = true → id ≠ invalid)
    (affected : done = true → about id) :
    Reply.Announces ⟨done, object, announce done signal id invalid⟩ signal about := by
  rw [Reply.Announces, announce]
  cases done with
  | false => simp
  | true => exact ⟨id, affected rfl, if_pos ⟨rfl, valid rfl⟩⟩

theorem announces_nothing : Reply.Announces ⟨false, object, []⟩ signal about := rfl

end Announce

namespace GumdDaemon

theorem addUser_announces {d : GumdDaemon} {c : Context} {user : Nat}
    (readable : c.faults.read = .const true)
    (free : ∀ u, (d.system.users user).Prepared c.env d.system.files u → d.users u.pw.pwUid = none) :
    (report (d.addUser c user)).1.Announces .userAdded fun uid =>
      ∃ pw, pw.pwUid = uid ∧ (d.addUser c user).2.2.system.files.passwd =
        insertFirst (pw.pwUid < ·.pwUid) pw d.system.files.passwd := by
  rw [addUser]
  split_ifs with created
  swap
  · exact announces_nothing
  have op : (c.call (.userAdd user)).operation = .userAdd user := rfl
  have added := System.userAdded (s := d.system) readable op
  have mirrors := System.userAdd_mirrors (s := d.system) op
  rw [System.step] at added mirrors
  dsimp only
  generalize d.system.call (c.call (.userAdd user)) = result at *
  obtain ⟨done, s⟩ := result
  cases done with
  | false => exact announces_nothing
  | true =>
    obtain ⟨uid, own, outcome⟩ := added rfl
    obtain ⟨pw, uid', inserted, -⟩ := mirrors rfl
    obtain ⟨u, gid, new, sp, prepared, writes, uid'', -⟩ := outcome.written
    have same : u.pw.pwUid = uid := (PasswdRecord.keys_of_putpwent writes.passwd).2.1.trans uid''
    have missing : d.users (s.users user).pw.pwUid = none := by
      rw [own, ← same]
      exact free u prepared
    simp only [Bool.not_true, Bool.false_eq_true, if_false, missing, Option.isNone_none, if_true]
    exact ⟨_, ⟨pw, uid', inserted⟩, rfl⟩

theorem deleteUser_announces (d : GumdDaemon) (c : Context) (user : Nat) (remHomeDir : Bool) :
    (report (d.deleteUser c user remHomeDir)).1.Announces .userDeleted fun uid =>
      ∃ pent ∈ d.system.files.passwd, pent.pwUid = uid ∧
        (d.system.users user).pw.agrees pent = true ∧
        (d.deleteUser c user remHomeDir).2.2.system.files.passwd =
          (d.system.files.removePasswd pent).passwd := by
  rw [deleteUser]
  split_ifs with created
  swap
  · exact announces_nothing
  obtain ⟨-, removes⟩ := System.userDelete_keeps (s := d.system)
    (c := c.call (.userDelete user remHomeDir)) rfl
  rw [System.step] at removes
  dsimp only
  generalize d.system.call (c.call (.userDelete user remHomeDir)) = result at *
  obtain ⟨done, s⟩ := result
  have found : done = true → (d.system.users user).pw.pwUid ≠ gumUserInvalidUid ∧
      ∃ pent ∈ d.system.files.passwd, pent.pwUid = (d.system.users user).pw.pwUid ∧
        (d.system.users user).pw.agrees pent = true ∧
        s.files.passwd = (d.system.files.removePasswd pent).passwd := by
    rintro rfl
    dsimp only at removes
    generalize s.files.passwd = passwd' at removes ⊢
    cases removes with
    | @removed _ pent granted terminated valid seen =>
      obtain ⟨agrees, first⟩ := World.seenPasswd_some seen
      refine ⟨valid, pent, List.mem_of_find?_eq_some first, ?_, agrees, rfl⟩
      exact (GumdDaemonUser.sameIdentity_of_agrees valid agrees).1
  exact announces_announce (fun done => (found done).1) fun done => (found done).2

theorem updateUser_announces (d : GumdDaemon) (c : Context) (user : Nat) :
    (report (d.updateUser c user)).1.Announces .userUpdated fun uid =>
      ∃ pw sp new newSp, pw.pwUid = uid ∧ (d.system.users user).pw.agrees pw = true ∧
        (d.system.users user).Replaces d.system.files (d.updateUser c user).2.2.system.files
          pw new sp newSp := by
  rw [updateUser]
  split_ifs with created
  swap
  · exact announces_nothing
  have op : (c.call (.userUpdate user)).operation = .userUpdate user := rfl
  have finds := System.userUpdate_finds (s := d.system) op
  have own := ((System.userUpdate_keeps (s := d.system) op).1 user).uid
  rw [System.step] at finds own
  dsimp only
  generalize d.system.call (c.call (.userUpdate user)) = result at *
  obtain ⟨done, s⟩ := result
  dsimp only at own
  rw [report, own]
  exact announces_announce (fun done => (finds done).1) fun done => (finds done).2

/-- A group is added only where the addition cannot be announced. -/
theorem addGroup_fails {d : GumdDaemon} {c : Context} {group : Nat}
    (fails : (d.system.world (c.call (.groupAdd group gumGroupInvalidGid))).lockGranted = false ∨
      c.faults.read = .const true ∧ ¬(d.system.groups group).CanAdd c.env d.system.files)
    {about : UInt32 → Prop} :
    (report (d.addGroup c group)).1.Announces .groupAdded about := by
  rw [addGroup]
  split_ifs with created
  swap
  · exact announces_nothing
  have fits := System.groupAdd_fits (s := d.system)
    (c := c.call (.groupAdd group gumGroupInvalidGid)) rfl
  dsimp only
  generalize d.system.call (c.call (.groupAdd group gumGroupInvalidGid)) = result at *
  obtain ⟨done, s⟩ := result
  cases done with
  | false => exact announces_nothing
  | true =>
    obtain ⟨granted, canAdd⟩ := fits rfl
    rcases fails with denied | ⟨readable, cannot⟩
    · exact absurd granted (Bool.eq_false_iff.mp denied)
    · exact absurd (canAdd readable) cannot

theorem deleteGroup_announces (d : GumdDaemon) (c : Context) (group : Nat) :
    (report (d.deleteGroup c group)).1.Announces .groupDeleted fun gid =>
      ∃ entry ∈ d.system.files.group, entry.grGid = gid ∧
        (d.system.groups group).group.agrees entry = true := by
  rw [deleteGroup]
  split_ifs with created
  swap
  · exact announces_nothing
  have finds := System.groupDelete_finds (s := d.system) (c := c.call (.groupDelete group)) rfl
  exact announces_announce (fun done => (finds done).1) fun done => (finds done).2

theorem updateGroup_announces (d : GumdDaemon) (c : Context) (group : Nat) :
    (report (d.updateGroup c group)).1.Announces .groupUpdated fun gid =>
      ∃ entry ∈ d.system.files.group, entry.grGid = gid ∧
        (d.system.groups group).group.agrees entry = true := by
  rw [updateGroup]
  split_ifs with created
  swap
  · exact announces_nothing
  obtain ⟨own, finds⟩ := System.groupUpdate_finds (s := d.system)
    (c := c.call (.groupUpdate group)) rfl
  rw [System.step] at own
  dsimp only
  generalize d.system.call (c.call (.groupUpdate group)) = result at *
  obtain ⟨done, s⟩ := result
  dsimp only at own
  rw [report, own]
  exact announces_announce (fun done => (finds done).1) fun done => (finds done).2

end GumdDaemon

theorem DaemonCall.Announceable.announces {d : GumdDaemon} {c : DaemonCall}
    (announceable : c.Announceable d) : c.Announces d := by
  rw [DaemonCall.Announceable] at announceable
  rw [DaemonCall.Announces, GumdDaemon.step, GumdDaemon.call]
  cases op : c.operation with
  | addUser user =>
    simp only [op] at announceable
    exact GumdDaemon.addUser_announces announceable.1 announceable.2
  | deleteUser user remHomeDir => exact GumdDaemon.deleteUser_announces d _ user remHomeDir
  | updateUser user => exact GumdDaemon.updateUser_announces d _ user
  | addGroup group =>
    simp only [op] at announceable
    exact GumdDaemon.addGroup_fails announceable
  | deleteGroup group => exact GumdDaemon.deleteGroup_announces d _ group
  | updateGroup group => exact GumdDaemon.updateGroup_announces d _ group
  | _ => rfl

/-- In a run whose additions can all be announced, every success is announced once, and nothing
else is. -/
theorem run_announces {calls : List DaemonCall} {d : GumdDaemon}
    (each : GumdDaemon.Each (fun d c => c.Announceable d) d calls) :
    GumdDaemon.Each (fun d c => c.Announces d) d calls :=
  each.invariant (I := fun _ => True) (fun _ _ announceable _ => ⟨announceable.announces, trivial⟩)
    trivial

namespace Sample

/-- A new user with a name and a type. -/
def newBob : List DaemonCall :=
  [ask .userNew, ask (.userSet 0 (.username (some (str "bob")))), ask (.userSet 0 (.usertype 8))]

/-- A user is added and announced, and another one is loaded, updated and deleted. -/
theorem run_announces_alice :
    ((newBob.foldl GumdDaemon.step (.new system)).call (ask (.addUser 0))).1 =
        ⟨true, none, [.userAdded 1001]⟩ ∧
      GumdDaemon.Each (fun d c => c.Announces d) (.new system)
        (newBob ++ [ask (.addUser 0), ask (.getUser 1000), ask (.updateUser 1),
          ask (.deleteUser 1 false)]) := by
  refine ⟨by decide +kernel, run_announces ?_⟩
  exact ⟨trivial, trivial, trivial, ⟨rfl, fun _ _ => rfl⟩, trivial, trivial, trivial, trivial⟩

/-- A new group is not announced. -/
theorem run_not_announces : ¬GumdDaemon.Each (fun d c => c.Announces d) (.new system)
    [ask .groupNew, ask (.groupSet 0 (.grouptype gumGrouptypeUser)),
      ask (.groupSet 0 (.groupname (some (str "new")))), ask (.addGroup 0)] := by
  rintro ⟨-, -, -, announces, -⟩
  change Reply.Announces (GumdDaemon.call _ _).1 _ _ at announces
  have silent : (((((GumdDaemon.new system).step (ask .groupNew)).step
      (ask (.groupSet 0 (.grouptype gumGrouptypeUser)))).step
      (ask (.groupSet 0 (.groupname (some (str "new")))))).call (ask (.addGroup 0))).1 =
      ⟨true, none, []⟩ := by decide +kernel
  rw [silent, Reply.Announces, if_pos rfl] at announces
  obtain ⟨gid, -, announced⟩ := announces
  cases announced

end Sample

end Gumd
