import Gumd.Frames

/-!
# Processes, objects and runs

Any number of processes share the database files, and each holds user and group objects as long as
it likes.  A call runs one operation on one object, with everything the call depends on besides the
files: its surroundings, the outcomes of its system calls, and the state of its process.  Calls
follow one another in any order, since the database lock keeps operations apart.
-/

namespace Gumd

open StateWp EntryLoop

/-! ## Operations -/

/-- A write to one of the properties of a user object. -/
inductive UserProperty where
  | uid (value : UInt32)
  | gid (value : UInt32)
  | usertype (value : UInt32)
  | username (value : Option Str)
  | secret (value : Option Str)
  | nickname (value : Option Str)
  | realname (value : Option Str)
  | office (value : Option Str)
  | officephone (value : Option Str)
  | homephone (value : Option Str)
  | homedir (value : Option Str)
  | shell (value : Option Str)
  | icon (value : Option Str)
  deriving DecidableEq, Repr

/-- `_set_property` of a user object. -/
def UserProperty.set : UserProperty → GumdDaemonUser → GumdDaemonUser
  | .uid value => GumdDaemonUser.setUidProperty value
  | .gid value => GumdDaemonUser.setGidProperty value
  | .usertype value => GumdDaemonUser.setUsertypeProperty value
  | .username value => GumdDaemonUser.setUsernameProperty value
  | .secret value => GumdDaemonUser.setSecretProperty value
  | .nickname value => GumdDaemonUser.setNicknameProperty value
  | .realname value => GumdDaemonUser.setRealnameProperty value
  | .office value => GumdDaemonUser.setOfficeProperty value
  | .officephone value => GumdDaemonUser.setOfficephoneProperty value
  | .homephone value => GumdDaemonUser.setHomephoneProperty value
  | .homedir value => GumdDaemonUser.setHomedirProperty value
  | .shell value => GumdDaemonUser.setShellProperty value
  | .icon value => GumdDaemonUser.setIconProperty value

/-- A write to one of the properties of a group object. -/
inductive GroupProperty where
  | gid (value : UInt32)
  | grouptype (value : UInt32)
  | groupname (value : Option Str)
  | secret (value : Option Str)
  deriving DecidableEq, Repr

/-- `_set_property` of a group object. -/
def GroupProperty.set : GroupProperty → GumdDaemonGroup → GumdDaemonGroup
  | .gid value => GumdDaemonGroup.setGidProperty value
  | .grouptype value => GumdDaemonGroup.setGrouptypeProperty value
  | .groupname value => GumdDaemonGroup.setGroupnameProperty value
  | .secret value => GumdDaemonGroup.setSecretProperty value

/-- An operation on the object of the given number. -/
inductive Operation where
  | userNew (object : Nat)
  | userNewByUid (object : Nat) (uid : UInt32)
  | userNewByName (object : Nat) (username : Option Str)
  | userSet (object : Nat) (property : UserProperty)
  | userAdd (object : Nat)
  | userUpdate (object : Nat)
  | userDelete (object : Nat) (remHomeDir : Bool)
  | groupNew (object : Nat)
  | groupNewByGid (object : Nat) (gid : UInt32)
  | groupNewByName (object : Nat) (groupname : Option Str)
  | groupSet (object : Nat) (property : GroupProperty)
  | groupAdd (object : Nat) (preferredGid : UInt32)
  | groupUpdate (object : Nat)
  | groupDelete (object : Nat)
  | groupAddMember (object : Nat) (uid : UInt32) (addAsAdmin : Bool)
  | groupDeleteMember (object : Nat) (uid : UInt32)
  | deleteUserMembership (userName : Option Str)
  deriving DecidableEq, Repr

structure Call where
  env : Env
  faults : Faults
  process : Process
  operation : Operation

/-- The files and the objects of all processes. -/
structure System where
  files : Files
  users : Nat → GumdDaemonUser
  groups : Nat → GumdDaemonGroup

/-! ## Steps and runs -/

namespace System

/-- The world a call starts in. -/
def world (s : System) (c : Call) : World := ⟨s.files, c.faults, c.process, none⟩

/-- Run an operation of a user object. -/
def runUser {α : Type} (s : System) (c : Call) (object : Nat) (m : UserM α) : α × System :=
  let (r, t) := m.run ⟨s.users object, s.world c⟩
  (r, { s with files := t.world.files, users := Function.update s.users object t.self })

/-- Run an operation of a group object. -/
def runGroup {α : Type} (s : System) (c : Call) (object : Nat) (m : GroupM α) : α × System :=
  let (r, t) := m.run ⟨s.groups object, s.world c⟩
  (r, { s with files := t.world.files, groups := Function.update s.groups object t.self })

/-- Load a user object; a failing load leaves no new object. -/
def loadUser (s : System) (c : Call) (object : Nat)
    (m : StateM World (Option GumdDaemonUser)) : Bool × System :=
  let (r, t) := m.run (s.world c)
  (r.isSome, { s with
    files := t.files, users := Function.update s.users object (r.getD (s.users object)) })

/-- Load a group object; a failing load leaves no new object. -/
def loadGroup (s : System) (c : Call) (object : Nat)
    (m : StateM World (Option GumdDaemonGroup)) : Bool × System :=
  let (r, t) := m.run (s.world c)
  (r.isSome, { s with
    files := t.files, groups := Function.update s.groups object (r.getD (s.groups object)) })

/-- What a call returns, and the system after it. -/
def call (s : System) (c : Call) : Bool × System :=
  match c.operation with
  | .userNew i => (true, { s with users := Function.update s.users i gumdDaemonUserNew })
  | .userNewByUid i uid => s.loadUser c i (gumdDaemonUserNewByUid c.env uid)
  | .userNewByName i username => s.loadUser c i (gumdDaemonUserNewByName c.env username)
  | .userSet i property =>
      (true, { s with users := Function.update s.users i (property.set (s.users i)) })
  | .userAdd i => (s.runUser c i (GumdDaemonUser.gumdDaemonUserAdd c.env)).map Option.isSome id
  | .userUpdate i => s.runUser c i (GumdDaemonUser.gumdDaemonUserUpdate c.env)
  | .userDelete i remHomeDir =>
      s.runUser c i (GumdDaemonUser.gumdDaemonUserDelete c.env remHomeDir)
  | .groupNew i => (true, { s with groups := Function.update s.groups i gumdDaemonGroupNew })
  | .groupNewByGid i gid => s.loadGroup c i (gumdDaemonGroupNewByGid gid)
  | .groupNewByName i groupname => s.loadGroup c i (gumdDaemonGroupNewByName groupname)
  | .groupSet i property =>
      (true, { s with groups := Function.update s.groups i (property.set (s.groups i)) })
  | .groupAdd i preferredGid =>
      (s.runGroup c i (GumdDaemonGroup.gumdDaemonGroupAdd c.env preferredGid)).map Option.isSome id
  | .groupUpdate i => s.runGroup c i (GumdDaemonGroup.gumdDaemonGroupUpdate c.env)
  | .groupDelete i => s.runGroup c i (GumdDaemonGroup.gumdDaemonGroupDelete c.env)
  | .groupAddMember i uid addAsAdmin =>
      s.runGroup c i (GumdDaemonGroup.gumdDaemonGroupAddMember uid addAsAdmin)
  | .groupDeleteMember i uid => s.runGroup c i (GumdDaemonGroup.gumdDaemonGroupDeleteMember uid)
  | .deleteUserMembership userName =>
      let (r, t) := (gumdDaemonGroupDeleteUserMembership userName).run (s.world c)
      (r, { s with files := t.files })

def step (s : System) (c : Call) : System := (s.call c).2

/-- The system after the calls, one after another. -/
def run (s : System) (calls : List Call) : System := calls.foldl step s

@[simp] theorem run_nil (s : System) : s.run [] = s := rfl

@[simp] theorem run_cons (s : System) (c : Call) (rest : List Call) :
    s.run (c :: rest) = (s.step c).run rest := rfl

/-- Every call of a run is made in a system that satisfies `P`. -/
def Each (P : System → Call → Prop) : System → List Call → Prop
  | _, [] => True
  | s, c :: rest => P s c ∧ Each P (s.step c) rest

theorem Each.imp {P Q : System → Call → Prop} (weaken : ∀ s c, P s c → Q s c)
    {calls : List Call} {s : System} (each : Each P s calls) : Each Q s calls := by
  induction calls generalizing s with
  | nil => trivial
  | cons c rest ih => exact ⟨weaken s c each.1, ih each.2⟩

/-- Every call of a run satisfies `P` together with what `next` has recorded of the calls before. -/
def EachWith {H : Type} (next : H → System → Call → H) (P : H → System → Call → Prop) :
    H → System → List Call → Prop
  | _, _, [] => True
  | h, s, c :: rest => P h s c ∧ EachWith next P (next h s c) (s.step c) rest

theorem EachWith.imp {H : Type} {next : H → System → Call → H} {P Q : H → System → Call → Prop}
    {calls : List Call} (weaken : ∀ h s, ∀ c ∈ calls, P h s c → Q h s c) {h : H} {s : System}
    (each : EachWith next P h s calls) : EachWith next Q h s calls := by
  induction calls generalizing h s with
  | nil => trivial
  | cons c rest ih =>
    refine ⟨weaken h s c List.mem_cons_self each.1, ih (fun h s d mem => ?_) each.2⟩
    exact weaken h s d (List.mem_cons_of_mem _ mem)

/-- What holds of every call holds with every record. -/
theorem EachWith.of_mem {H : Type} {next : H → System → Call → H} {P : H → System → Call → Prop}
    {calls : List Call} (all : ∀ h s, ∀ c ∈ calls, P h s c) (h : H) (s : System) :
    EachWith next P h s calls := by
  induction calls generalizing h s with
  | nil => trivial
  | cons c rest ih =>
    refine ⟨all h s c List.mem_cons_self, ih (fun h s d mem => ?_) _ _⟩
    exact all h s d (List.mem_cons_of_mem _ mem)

/-- What every call keeps, every run keeps. -/
theorem run_invariant {P : System → Call → Prop} {Inv : Files → Prop}
    (keeps : ∀ s c, P s c → Inv s.files → Inv (s.step c).files) {calls : List Call} {s : System}
    (each : Each P s calls) (start : Inv s.files) : Inv (s.run calls).files := by
  induction calls generalizing s with
  | nil => exact start
  | cons c rest ih => exact ih each.2 (keeps s c each.1 start)

end System

/-! ## Outcomes of a call -/

/-- Nothing disturbs the call: it gets the lock, no rewrite fails, and every file but passwd and
group can be read. -/
abbrev System.Calm (s : System) (c : Call) : Prop := (s.world c).Calm

/-- The files other than passwd and group can be read during the call. -/
abbrev Call.Clear (c : Call) : Prop := c.faults.readShadow = .const true

/-- Every way a call can end while the passwd and group files can be read: what it returns and the
files it leaves. -/
inductive Call.Outcome (c : Call) (s : System) : Bool → Files → Prop
  | idle {r} : Outcome c s r s.files
  | userAdd {i r f} : c.operation = .userAdd i →
      (s.users i).UserAdded (s.Calm c) c.env s.files r f → Outcome c s r.isSome f
  | userUpdate {i r f} : c.operation = .userUpdate i →
      (s.users i).UserUpdated (s.Calm c) c.env s.files r f → Outcome c s r f
  | userDelete {i rem r f} : c.operation = .userDelete i rem →
      (s.users i).UserDeleted (s.Calm c) c.env rem (s.world c).afterLock.process.euid s.files r f →
      Outcome c s r f
  | groupAdd {i preferredGid r f} : c.operation = .groupAdd i preferredGid →
      (s.groups i).Added (s.Calm c) c.env preferredGid s.files r f → Outcome c s r.isSome f
  | groupUpdate {i r f} : c.operation = .groupUpdate i →
      (s.groups i).Updated c.Clear c.env s.files r f → Outcome c s r f
  | groupDelete {i r f} : c.operation = .groupDelete i →
      (s.groups i).Deleted (s.Calm c) c.env s.files r f → Outcome c s r f
  | groupAddMember {i uid admin r f} : c.operation = .groupAddMember i uid admin →
      (s.groups i).MemberAdded c.Clear uid admin s.files r f → Outcome c s r f
  | groupDeleteMember {i uid r f} : c.operation = .groupDeleteMember i uid →
      (s.groups i).MemberDeleted c.Clear uid s.files r f → Outcome c s r f
  | deleteUserMembership {name r f} : c.operation = .deleteUserMembership (some name) →
      MembershipDeleted (s.Calm c) name s.files r f → Outcome c s r f

/-- Loading a user reads the files and changes nothing. -/
theorem loadUser_spec {w : World} (readable : w.faults.read = .const true) (env : Env)
    (object : GumdDaemonUser) : wp (loadUser env object) (fun _ t => t.files = w.files) w := by
  simp only [loadUser, wp_bind, wp_gumLockPwdfLock, ↓wp_guard, wp_pure]
  refine ⟨fun denied => w.files_afterLock, fun granted => ?_⟩
  rw [wp_withNullError, wp_runOn]
  have readable' : w.afterLock.faults.read = .const true := by rwa [World.read_afterLock]
  refine wp_mono (GumdDaemonUser.wp_copyPasswdData readable' env) ?_
  rintro copied t ⟨-, ⟨quiet, -⟩⟩
  simp only [wp_bind, wp_gumLockPwdfUnlock, wp_pure, World.files_afterUnlock]
  exact quiet.files.trans w.files_afterLock

/-- Loading a group reads the files and changes nothing. -/
theorem loadGroup_spec {w : World} (readable : w.faults.read = .const true) (object : GumdDaemonGroup) :
    wp (loadGroup object) (fun _ t => t.files = w.files) w := by
  simp only [loadGroup, wp_bind, wp_gumLockPwdfLock, ↓wp_guard, wp_pure]
  refine ⟨fun denied => w.files_afterLock, fun granted => ?_⟩
  rw [wp_withNullError, wp_runOn]
  have readable' : w.afterLock.faults.read = .const true := by rwa [World.read_afterLock]
  refine wp_mono (GumdDaemonGroup.wp_copyGroupData readable') ?_
  rintro copied t ⟨-, quiet⟩
  simp only [wp_bind, wp_gumLockPwdfUnlock, wp_pure, World.files_afterUnlock]
  exact quiet.files.trans w.files_afterLock

theorem System.outcome {s : System} {c : Call} (readable : c.faults.read = .const true) :
    c.Outcome s (s.call c).1 (s.step c).files := by
  rw [System.step, System.call]
  have readable' : (s.world c).faults.read = .const true := readable
  have idle : ∀ {r : Bool} {f : Files}, f = s.files → c.Outcome s r f := by
    rintro r f rfl
    exact .idle
  cases op : c.operation with
  | userNew i => exact .idle
  | userSet i property => exact .idle
  | groupNew i => exact .idle
  | groupSet i property => exact .idle
  | userNewByUid i uid => exact idle (loadUser_spec readable' c.env _)
  | userNewByName i username =>
    cases username with
    | none => exact .idle
    | some name => exact idle (loadUser_spec readable' c.env _)
  | groupNewByGid i gid => exact idle (loadGroup_spec readable' _)
  | groupNewByName i groupname =>
    cases groupname with
    | none => exact .idle
    | some name => exact idle (loadGroup_spec readable' _)
  | userAdd i =>
    have spec := @GumdDaemonUser.gumdDaemonUserAdd_spec ⟨s.users i, s.world c⟩ readable' c.env
    exact .userAdd op spec.2
  | userUpdate i =>
    have spec := @GumdDaemonUser.gumdDaemonUserUpdate_spec ⟨s.users i, s.world c⟩ readable' c.env
    exact .userUpdate op spec.2
  | userDelete i rem =>
    have spec := @GumdDaemonUser.gumdDaemonUserDelete_spec ⟨s.users i, s.world c⟩ readable' c.env
      rem
    exact .userDelete op spec.2
  | groupAdd i preferredGid =>
    have spec := @GumdDaemonGroup.gumdDaemonGroupAdd_spec ⟨s.groups i, s.world c⟩ readable' c.env
      preferredGid
    exact .groupAdd op spec.2
  | groupUpdate i =>
    have spec := @GumdDaemonGroup.gumdDaemonGroupUpdate_spec ⟨s.groups i, s.world c⟩ readable'
      c.env
    exact .groupUpdate op spec.2
  | groupDelete i =>
    have spec := @GumdDaemonGroup.gumdDaemonGroupDelete_spec ⟨s.groups i, s.world c⟩ readable'
      c.env
    exact .groupDelete op spec.2
  | groupAddMember i uid admin =>
    have spec := @GumdDaemonGroup.gumdDaemonGroupAddMember_spec ⟨s.groups i, s.world c⟩ readable'
      uid admin
    exact .groupAddMember op spec.2
  | groupDeleteMember i uid =>
    have spec := @GumdDaemonGroup.gumdDaemonGroupDeleteMember_spec ⟨s.groups i, s.world c⟩
      readable' uid
    exact .groupDeleteMember op spec.2
  | deleteUserMembership userName =>
    cases userName with
    | none => exact .idle
    | some name =>
      have spec := gumdDaemonGroupDeleteUserMembership_spec (s.world c) name
      exact .deleteUserMembership op spec.2

/-- The object an operation was run on is as the operation left it. -/
theorem System.runUser_self (s : System) (c : Call) (i : Nat) {α : Type} (m : UserM α) :
    (s.runUser c i m).2.users i = (m.run ⟨s.users i, s.world c⟩).2.self :=
  Function.update_self ..

theorem System.runGroup_self (s : System) (c : Call) (i : Nat) {α : Type} (m : GroupM α) :
    (s.runGroup c i m).2.groups i = (m.run ⟨s.groups i, s.world c⟩).2.self :=
  Function.update_self ..

/-- A successful addition, with the uid of the object after it. -/
theorem System.userAdded {s : System} {c : Call} {i : Nat}
    (readable : c.faults.read = .const true) (op : c.operation = .userAdd i)
    (done : (s.call c).1 = true) : ∃ uid, ((s.step c).users i).pw.pwUid = uid ∧
      (s.users i).UserAdded (s.Calm c) c.env s.files (some uid) (s.step c).files := by
  have spec := @GumdDaemonUser.gumdDaemonUserAdd_spec ⟨s.users i, s.world c⟩ readable c.env
  have object := @GumdDaemonUser.gumdDaemonUserAdd_object ⟨s.users i, s.world c⟩ c.env
  rw [System.call, op] at done
  obtain ⟨uid, returned⟩ := Option.isSome_iff_exists.mp done
  refine ⟨uid, ?_, ?_⟩
  · rw [System.step, System.call, op]
    exact (congrArg (fun u => u.pw.pwUid) (s.runUser_self c i _)).trans (object uid returned).1
  · rw [← returned, System.step, System.call, op]
    exact spec.2

/-- A successful update; the object keeps its uid. -/
theorem System.userUpdated {s : System} {c : Call} {i : Nat}
    (readable : c.faults.read = .const true) (op : c.operation = .userUpdate i)
    (done : (s.call c).1 = true) : ((s.step c).users i).pw.pwUid = (s.users i).pw.pwUid ∧
      (s.users i).UserUpdated (s.Calm c) c.env s.files true (s.step c).files := by
  have spec := @GumdDaemonUser.gumdDaemonUserUpdate_spec ⟨s.users i, s.world c⟩ readable c.env
  have object := @GumdDaemonUser.gumdDaemonUserUpdate_object ⟨s.users i, s.world c⟩ readable c.env
  have returned := done
  rw [System.call, op] at returned
  rw [System.step, System.call, op]
  refine ⟨?_, ?_⟩
  · rw [System.runUser_self]
    rcases object with ⟨failed, -⟩ | ⟨pw, sp, updatable, self⟩
    · exact absurd (returned.symm.trans failed) (by simp)
    · exact (congrArg (fun u => u.pw.pwUid) self).trans <|
        (GumdDaemonUser.keys_updated _ _ _ _).1.trans updatable.byUid.2
  · rw [← returned]
    exact spec.2

/-! ## Refused calls -/

section Refused

variable {O α : Type} {e : GError} {retval : α} {body : GumM O α} {st : St O}

/-- The operations of objects that ask for the lock first change no file where it is refused. -/
theorem files_of_refused (denied : st.world.lockGranted = false) :
    wp (liftM gumLockPwdfLock >>= fun ok =>
        if !ok then liftM (gumReturnWithError e retval) >>= pure else body)
      (fun _ t => t.world.files = st.world.files) st :=
  wp_refused denied fun _ files => files

theorem gumdDaemonUserAdd_refused {st : St GumdDaemonUser}
    (denied : st.world.lockGranted = false) (env : Env) :
    wp (GumdDaemonUser.gumdDaemonUserAdd env) (fun _ t => t.world.files = st.world.files) st := by
  rw [GumdDaemonUser.gumdDaemonUserAdd, wp_bind, wp_getSelf, wp_ite]
  refine ⟨fun _ => rfl, fun _ => ?_⟩
  rw [wp_bind, wp_modifySelf]
  exact files_of_refused denied

theorem gumdDaemonGroupAdd_refused {st : St GumdDaemonGroup}
    (denied : st.world.lockGranted = false) (env : Env) (preferredGid : UInt32) :
    wp (GumdDaemonGroup.gumdDaemonGroupAdd env preferredGid)
      (fun _ t => t.world.files = st.world.files) st := by
  rw [GumdDaemonGroup.gumdDaemonGroupAdd, GumdDaemonGroup.checkGroupType, wp_bind, wp_bind,
    wp_getSelf, wp_ite]
  refine ⟨fun _ => ?_, fun _ => rfl⟩
  rw [wp_pure]
  exact files_of_refused denied

theorem gumdDaemonGroupDeleteUserMembership_refused {w : World} (denied : w.lockGranted = false)
    (userName : Option Str) :
    wp (gumdDaemonGroupDeleteUserMembership userName) (fun _ t => t.files = w.files) w := by
  cases userName with
  | none => rfl
  | some name =>
    rw [gumdDaemonGroupDeleteUserMembership]
    cases gumValidateName (some name) with
    | error e => rfl
    | ok _ =>
      simp only [wp_bind, wp_gumLockPwdfLock, ↓wp_guard, denied, wp_gumReturnWithError]
      exact ⟨fun _ => w.files_afterLock, by simp⟩

/-- A load that is refused the lock reads nothing. -/
theorem load_refused {β : Type} {rest : StateM World (Option β)} {w : World}
    (denied : w.lockGranted = false) :
    wp (gumLockPwdfLock >>= fun ok => if !ok then pure none else rest)
      (fun _ t => t.files = w.files) w := by
  simp only [wp_bind, wp_gumLockPwdfLock, ↓wp_guard, denied, wp_pure]
  exact ⟨fun _ => w.files_afterLock, by simp⟩

end Refused

/-- A call that is refused the lock changes no file. -/
theorem System.files_of_refused {s : System} {c : Call}
    (denied : (s.world c).lockGranted = false) : (s.step c).files = s.files := by
  rw [System.step, System.call]
  cases op : c.operation with
  | userNew i => rfl
  | userSet i property => rfl
  | groupNew i => rfl
  | groupSet i property => rfl
  | userNewByUid i uid => exact load_refused denied
  | userNewByName i username =>
    cases username with
    | none => rfl
    | some name => exact load_refused denied
  | groupNewByGid i gid => exact load_refused denied
  | groupNewByName i groupname =>
    cases groupname with
    | none => rfl
    | some name => exact load_refused denied
  | userAdd i => exact @gumdDaemonUserAdd_refused ⟨s.users i, s.world c⟩ denied _
  | userUpdate i => exact @Gumd.files_of_refused _ _ _ _ _ ⟨s.users i, s.world c⟩ denied
  | userDelete i rem => exact @Gumd.files_of_refused _ _ _ _ _ ⟨s.users i, s.world c⟩ denied
  | groupAdd i preferredGid => exact @gumdDaemonGroupAdd_refused ⟨s.groups i, s.world c⟩ denied _ _
  | groupUpdate i => exact @Gumd.files_of_refused _ _ _ _ _ ⟨s.groups i, s.world c⟩ denied
  | groupDelete i => exact @Gumd.files_of_refused _ _ _ _ _ ⟨s.groups i, s.world c⟩ denied
  | groupAddMember i uid admin =>
    exact @Gumd.files_of_refused _ _ _ _ _ ⟨s.groups i, s.world c⟩ denied
  | groupDeleteMember i uid =>
    exact @Gumd.files_of_refused _ _ _ _ _ ⟨s.groups i, s.world c⟩ denied
  | deleteUserMembership userName =>
    exact gumdDaemonGroupDeleteUserMembership_refused denied userName

/-! ## A small system

One user with an own group and one membership, and a root process no system call of which fails. -/

namespace Sample

/-- The setting that is drawn from a device that delivers zeros. -/
def setting : Str := str "$6$................"

/-- What SHA-512 makes of the secrets of the sample under this setting. -/
def hashBody (secret : Str) : Str :=
  if secret = str "pw" then
    str "oi.0zzqJ1lNGlbbmHmrzKwDhVvPmE4769iZyJzHhLV8WFXl16JyFFVR7Y02jRbYRPZ0OLA6ge0Dn3SecnBdoj."
  else if secret = str "x" then
    str "UcMT8Dadch7OI8X5ysVH.tywu7i3KzVUhW.ImXMp5poGkvWKJNTl0PUqDD3Bfmn41zhgTcFl/VkQFJ3GcYjXX."
  else []

/-- The hash of a secret under the setting or under a hash that begins with it. -/
def crypt (secret text : Str) : Option Str :=
  if text.take setting.length = setting then some (setting ++ str "$" ++ hashBody secret) else none

def env : Env where
  config := ⟨[(gumConfigGeneralUidMin, .uint32 1000), (gumConfigGeneralUidMax, .uint32 2000),
    (gumConfigGeneralGidMin, .uint32 1000), (gumConfigGeneralGidMax, .uint32 2000),
    (gumConfigGeneralEncryptMethod, .string (str "SHA512")),
    (gumConfigGeneralUserinfoDir, .string (str "/var/lib/gumd"))]⟩
  crypt := crypt
  md5 := id
  urandom := List.replicate saltLen 0
  time := 0
  egid := 0
  logind := ⟨true, false, false, false⟩
  createHomeDir := fun _ _ _ _ => none
  deleteHomeDir := fun _ => none

def alice : Passwd where
  pwName := str "alice"
  pwPasswd := str "x"
  pwUid := 1000
  pwGid := 1000
  pwGecos := str "Alice,,,,normal"
  pwDir := str "/home/alice"
  pwShell := str "/bin/sh"

def aliceShadow : Spwd where
  spNamp := str "alice"
  spPwdp := str "hash"
  spLstchg := -1
  spMin := -1
  spMax := -1
  spWarn := -1
  spInact := -1
  spExpire := -1
  spFlag := 0xffffffffffffffff

def staff : Group := ⟨str "staff", str "x", 50, [str "alice"]⟩

def files : Files where
  passwd := [alice]
  shadow := [aliceShadow]
  group := [staff, ⟨str "alice", str "x", 1000, []⟩]
  gshadow := none
  userinfo := fun _ => none

def system : System where
  files := files
  users := fun _ => gumdDaemonUserNew.setUidProperty 1000
  groups := fun _ => gumdDaemonGroupNew.setGidProperty 50

def call (operation : Operation) : Call where
  env := env
  faults := ⟨.const true, .const true, .const true, .const true, .const none⟩
  process := ⟨0, false, 0, 0, 0⟩
  operation := operation

end Sample

end Gumd
