import Gumd.SaltRoundTrip
import Gumd.Simulation

/-!
# Secrets

Which passwords additions and updates store, over runs that record the secrets the clients have
set.  A stored password verifies a string if `gum_crypt_cmp_secret` says so.
-/

namespace Gumd

open StateWp EntryLoop

/-- The string verifies against the stored password. -/
def Verifies (crypt : Str → Str → Option Str) (secret hash : Str) : Prop :=
  gumCryptCmpSecret crypt (some secret) (some hash) = 0

instance (crypt : Str → Str → Option Str) (secret hash : Str) :
    Decidable (Verifies crypt secret hash) := inferInstanceAs (Decidable (_ = _))

/-- A secret verifies against what it is encrypted to. -/
def Env.Verifiable (env : Env) : Prop :=
  ∀ secret hash, gumCryptEncryptSecret env.crypt env.urandom secret
    (gumConfigGetString env.config gumConfigGeneralEncryptMethod) = some hash →
    Verifies env.crypt secret hash

/-- `crypt` gives none of the passwords `*`, `!` and the empty one, which stand for no secret. -/
def Env.Hashes (env : Env) : Prop :=
  ∀ secret setting, ∀ hash ∈ env.crypt secret setting, hash ∉ [str "*", str "!", []]

theorem Env.Hashes.encrypted {env : Env} (hashes : env.Hashes) {secret : Str} {method : Option Str}
    {hash : Str} (made : gumCryptEncryptSecret env.crypt env.urandom secret method = some hash) :
    hash ∉ [str "*", str "!", []] := by
  rw [gumCryptEncryptSecret] at made
  cases salt : generateSalt env.urandom method with
  | none => simp [salt] at made
  | some setting =>
    rw [salt] at made
    exact hashes secret setting hash made

/-- Nothing verifies against a password that holds no salt. -/
theorem not_verifies_of_no_salt {crypt : Str → Str → Option Str} {hash : Str}
    (unsalted : extractSalt (some hash) = none) (secret : Str) : ¬Verifies crypt secret hash := by
  rw [Verifies, gumCryptCmpSecret]
  simp only [unsalted]
  decide

/-! ## Users without a secret -/

namespace GumdDaemonUser

theorem extractSalt_defaultPwdp (type : GumUserType) :
    extractSalt (some (defaultPwdp type)) = none := by
  cases type <;> decide

theorem defaultPwdp_mem (type : GumUserType) : defaultPwdp type ∈ [str "*", str "!", []] := by
  cases type <;> decide

/-- The password an addition writes is the one `_set_secret` has made. -/
theorem Writes.newPwdp_eq {u : GumdDaemonUser} {env : Env} {gid : UInt32} {pw : Passwd} {sp : Spwd}
    (writes : u.Writes env gid pw sp) : u.newPwdp env = some sp.spPwdp := by
  obtain ⟨hash, encrypted⟩ := Option.isSome_iff_exists.mp writes.encrypted
  obtain ⟨name, -, rfl⟩ := Option.map_eq_some_iff.mp writes.shadow
  have stored : (u.complete env gid).shadow.spPwdp = u.newPwdp env := rfl
  rw [stored, encrypted]
  rfl

/-- The entries an addition writes have one name. -/
theorem Writes.spNamp {u : GumdDaemonUser} {env : Env} {gid : UInt32} {pw : Passwd} {sp : Spwd}
    (writes : u.Writes env gid pw sp) : sp.spNamp = pw.pwName := by
  obtain ⟨name, named, rfl⟩ := Option.map_eq_some_iff.mp writes.passwd
  obtain ⟨spName, spNamed, rfl⟩ := Option.map_eq_some_iff.mp writes.shadow
  change u.pw.pwName = some name at named
  change ptr u.pw.pwName = some spName at spNamed
  rw [named, ptr_some] at spNamed
  exact (Option.some.inj spNamed).symm

theorem newPwdp_congr {u u' : GumdDaemonUser} (same : u.SameSecret u') (env : Env) :
    u'.newPwdp env = u.newPwdp env := by
  rw [newPwdp, newPwdp, same.secret, same.usertype]

end GumdDaemonUser

/-- The entries added for a new user hold the password of a user without a secret, against which no
string verifies. -/
def Files.LocksNewUser (f f' : Files) (crypt : Str → Str → Option Str) (type : GumUserType) :
    Prop :=
  ∃ pw sp, f'.passwd = insertFirst (pw.pwUid < ·.pwUid) pw f.passwd ∧
    f'.shadow = f.shadow ++ [sp] ∧ sp.spNamp = pw.pwName ∧
    sp.spPwdp = GumdDaemonUser.defaultPwdp type ∧ ∀ secret, ¬Verifies crypt secret sp.spPwdp

section NewUser

open GumdDaemonUser

variable {u : GumdDaemonUser} {env : Env} {f f' : Files} {uid : UInt32}

/-- The entries an addition writes for the user, and the password in them. -/
theorem GumdDaemonUser.Adds.entries (adds : u.Adds env f (some uid) f') : ∃ pw sp,
    f'.passwd = insertFirst (pw.pwUid < ·.pwUid) pw f.passwd ∧ f'.shadow = f.shadow ++ [sp] ∧
      sp.spNamp = pw.pwName ∧ u.newPwdp env = some sp.spPwdp := by
  cases adds with
  | @both _ u' gid f₁ f₂ f₃ pw sp same groups writes fresh db joins result =>
    have passwd : f'.passwd = insertFirst (pw.pwUid < ·.pwUid) pw f.passwd := by
      rw [joins.passwd, db.passwd, ← groups.frame.1]
      rfl
    have shadow : f'.shadow = f.shadow ++ [sp] := by
      rw [joins.shadow, db.shadow, ← groups.frame.2]
      rfl
    exact ⟨pw, sp, passwd, shadow, writes.spNamp, (newPwdp_congr same env) ▸ writes.newPwdp_eq⟩

theorem GumdDaemonUser.Adds.locksNewUser (adds : u.Adds env f (some uid) f')
    (unset : u.pw.pwPasswd = none) : f.LocksNewUser f' env.crypt u.usertype := by
  obtain ⟨pw, sp, passwd, shadow, named, stored⟩ := adds.entries
  rw [newPwdp, unset] at stored
  have default : sp.spPwdp = defaultPwdp u.usertype := (Option.some.inj stored).symm
  refine ⟨pw, sp, passwd, shadow, named, default, ?_⟩
  rw [default]
  exact not_verifies_of_no_salt (extractSalt_defaultPwdp _)

theorem GumdDaemonUser.Adds.locksNewUser_iff (hashes : env.Hashes)
    (adds : u.Adds env f (some uid) f') :
    f.LocksNewUser f' env.crypt u.usertype ↔ u.pw.pwPasswd = none := by
  refine ⟨fun locks => ?_, adds.locksNewUser⟩
  obtain ⟨pw, sp, -, shadow, -, stored⟩ := adds.entries
  obtain ⟨pw', sp', -, shadow', -, default, -⟩ := locks
  obtain rfl : sp = sp' := by simpa [shadow] using shadow'
  cases secret : u.pw.pwPasswd with
  | none => rfl
  | some plain =>
    rw [newPwdp, secret] at stored
    exact absurd (default ▸ defaultPwdp_mem _) (hashes.encrypted stored)

end NewUser

/-! ## Groups without a secret -/

/-- The password of a group without a secret. -/
def GumdDaemonGroup.defaultPasswd (type : UInt32) : Str :=
  if type = gumGrouptypeSystem then str "*" else str "!"

theorem GumdDaemonGroup.extractSalt_defaultPasswd (type : UInt32) :
    extractSalt (some (GumdDaemonGroup.defaultPasswd type)) = none := by
  rw [GumdDaemonGroup.defaultPasswd]
  split_ifs <;> decide

theorem GumdDaemonGroup.defaultPasswd_mem (type : UInt32) :
    GumdDaemonGroup.defaultPasswd type ∈ [str "*", str "!", []] := by
  rw [GumdDaemonGroup.defaultPasswd]
  split_ifs <;> decide

/-- The gshadow entry added for a new group holds the password of a group without a secret, against
which no string verifies. -/
def Files.LocksNewGroup (f f' : Files) (crypt : Str → Str → Option Str) (type : UInt32) : Prop :=
  ∀ entries, f.gshadow = some entries → ∃ sg, f'.gshadow = some (entries ++ [sg]) ∧
    sg.sgPasswd = GumdDaemonGroup.defaultPasswd type ∧ ∀ secret, ¬Verifies crypt secret sg.sgPasswd

section NewGroup

variable {g : GumdDaemonGroup} {env : Env} {f f' : Files} {gid : UInt32}

theorem GumdDaemonGroup.Adds.locksNewGroup (adds : g.Adds env f (some gid) f')
    (unset : g.group.grPasswd = none ∨ f.gshadow = none) :
    f.LocksNewGroup f' env.crypt g.groupType := by
  cases adds with
  | @both name gid passwd writable fresh =>
    intro entries present
    have stored := writable.passwd
    rw [newPasswd, unset.resolve_right (by simp [present])] at stored
    refine ⟨g.newGshadowEntry name passwd, ?_, ?_⟩
    · simp [Files.appendGshadow, Files.insertGroup, present]
    · have default : (g.newGshadowEntry name passwd).sgPasswd = defaultPasswd g.groupType :=
        (Option.some.inj stored).symm
      rw [default]
      exact ⟨rfl, not_verifies_of_no_salt (extractSalt_defaultPasswd _)⟩

theorem GumdDaemonGroup.Adds.locksNewGroup_iff (hashes : env.Hashes)
    (adds : g.Adds env f (some gid) f') :
    f.LocksNewGroup f' env.crypt g.groupType ↔ g.group.grPasswd = none ∨ f.gshadow = none := by
  refine ⟨fun locks => ?_, adds.locksNewGroup⟩
  cases adds with
  | @both name gid passwd writable fresh =>
    have stored := writable.passwd
    rw [newPasswd] at stored
    cases secret : g.group.grPasswd with
    | none => exact Or.inl rfl
    | some plain =>
      cases present : f.gshadow with
      | none => exact Or.inr rfl
      | some entries =>
        obtain ⟨sg, appended, default, -⟩ := locks entries present
        have own : g.newGshadowEntry name passwd = sg := by
          simpa [Files.appendGshadow, Files.insertGroup, present] using appended
        rw [secret] at stored
        subst own
        have default : passwd = defaultPasswd g.groupType := default
        exact absurd (default ▸ defaultPasswd_mem _) (hashes.encrypted stored)

end NewGroup

/-! ## Runs that record the secrets -/

/-- The last secret a client has set on each object. -/
structure SecretsSet where
  users : Nat → Option DbSecret
  groups : Nat → Option DbSecret

/-- What is recorded after a call: a secret that is set and accepted, and none after a load or a
successful addition of the object. -/
def SecretsSet.next (h : SecretsSet) (s : System) (c : Call) : SecretsSet :=
  match c.operation with
  | .userSet i (.secret value) =>
      { h with users := Function.update h.users i (setStringProperty value (h.users i)) }
  | .userNew i | .userNewByUid i _ | .userNewByName i _ | .userAdd i =>
      if (s.call c).1 then { h with users := Function.update h.users i none } else h
  | .groupSet i (.secret value) =>
      { h with groups := Function.update h.groups i (setStringProperty value (h.groups i)) }
  | .groupNew i | .groupNewByGid i _ | .groupNewByName i _ | .groupAdd i _ =>
      if (s.call c).1 then { h with groups := Function.update h.groups i none } else h
  | _ => h

theorem System.call_userAdd {s : System} {c : Call} {i : Nat} (op : c.operation = .userAdd i)
    (added : (s.call c).1 = true) : ∃ uid,
      (s.users i).Adds c.env s.files (some uid) (s.step c).files := by
  have spec := @GumdDaemonUser.gumdDaemonUserAdd_adds ⟨s.users i, s.world c⟩ c.env
  have result : (s.call c).1 = ((GumdDaemonUser.gumdDaemonUserAdd c.env).run
      ⟨s.users i, s.world c⟩).1.isSome := by
    rw [System.call, op]
    rfl
  have files : (s.step c).files = ((GumdDaemonUser.gumdDaemonUserAdd c.env).run
      ⟨s.users i, s.world c⟩).2.world.files := by
    rw [System.step, System.call, op]
    rfl
  rw [result] at added
  obtain ⟨uid, returned⟩ := Option.isSome_iff_exists.mp added
  have adds := spec.2
  rw [returned, ← files] at adds
  exact ⟨uid, adds⟩

theorem System.call_groupAdd {s : System} {c : Call} {i : Nat} {preferredGid : UInt32}
    (op : c.operation = .groupAdd i preferredGid) (added : (s.call c).1 = true) : ∃ gid,
      (s.groups i).Adds c.env s.files (some gid) (s.step c).files := by
  have spec := @GumdDaemonGroup.gumdDaemonGroupAdd_adds ⟨s.groups i, s.world c⟩ c.env preferredGid
  have result : (s.call c).1 = ((GumdDaemonGroup.gumdDaemonGroupAdd c.env preferredGid).run
      ⟨s.groups i, s.world c⟩).1.isSome := by
    rw [System.call, op]
    rfl
  have files : (s.step c).files = ((GumdDaemonGroup.gumdDaemonGroupAdd c.env preferredGid).run
      ⟨s.groups i, s.world c⟩).2.world.files := by
    rw [System.step, System.call, op]
    rfl
  rw [result] at added
  obtain ⟨gid, returned⟩ := Option.isSome_iff_exists.mp added
  have adds := spec.2
  rw [returned, ← files] at adds
  exact ⟨gid, adds⟩

/-- A successful addition of an object no secret is recorded for stores a password nothing verifies
against. -/
def Call.LocksNew (c : Call) (h : SecretsSet) (s : System) : Prop :=
  (∀ i, c.operation = .userAdd i → (s.call c).1 = true → h.users i = none →
    s.files.LocksNewUser (s.step c).files c.env.crypt (s.users i).usertype) ∧
  ∀ i preferredGid, c.operation = .groupAdd i preferredGid → (s.call c).1 = true →
    h.groups i = none → s.files.LocksNewGroup (s.step c).files c.env.crypt (s.groups i).groupType

/-- An addition of an object that holds no secret does so. -/
def Call.LocksUnset (c : Call) (s : System) : Prop :=
  (∀ i, c.operation = .userAdd i → (s.call c).1 = true → (s.users i).pw.pwPasswd = none →
    s.files.LocksNewUser (s.step c).files c.env.crypt (s.users i).usertype) ∧
  ∀ i preferredGid, c.operation = .groupAdd i preferredGid → (s.call c).1 = true →
    (s.groups i).group.grPasswd = none ∨ s.files.gshadow = none →
    s.files.LocksNewGroup (s.step c).files c.env.crypt (s.groups i).groupType

/-- Such an addition does so exactly if the object holds no secret; for a group it does too while
there is no gshadow file. -/
def Call.LocksNewIff (c : Call) (h : SecretsSet) (s : System) : Prop :=
  (∀ i, c.operation = .userAdd i → (s.call c).1 = true → h.users i = none →
    (s.files.LocksNewUser (s.step c).files c.env.crypt (s.users i).usertype ↔
      (s.users i).pw.pwPasswd = none)) ∧
  ∀ i preferredGid, c.operation = .groupAdd i preferredGid → (s.call c).1 = true →
    h.groups i = none →
    (s.files.LocksNewGroup (s.step c).files c.env.crypt (s.groups i).groupType ↔
      (s.groups i).group.grPasswd = none ∨ s.files.gshadow = none)

/-- In every run, whatever the objects have gone through before.  That no other addition does so needs
a `crypt` that makes hashes. -/
theorem run_locksNew_iff (h : SecretsSet) (s : System) (calls : List Call) :
    System.EachWith SecretsSet.next (fun _ s c => c.LocksUnset s) h s calls ∧
      ((∀ c ∈ calls, c.env.Hashes) →
        System.EachWith SecretsSet.next (fun h s c => c.LocksNewIff h s) h s calls) := by
  constructor
  · apply System.EachWith.of_mem
    intro h s c mem
    constructor
    · intro i op added unset
      obtain ⟨uid, adds⟩ := System.call_userAdd op added
      exact adds.locksNewUser unset
    · intro i preferredGid op added unset
      obtain ⟨gid, adds⟩ := System.call_groupAdd op added
      exact adds.locksNewGroup unset
  · intro hashes
    apply System.EachWith.of_mem
    intro h s c mem
    constructor
    · intro i op added _
      obtain ⟨uid, adds⟩ := System.call_userAdd op added
      exact adds.locksNewUser_iff (hashes c mem)
    · intro i preferredGid op added _
      obtain ⟨gid, adds⟩ := System.call_groupAdd op added
      exact adds.locksNewGroup_iff (hashes c mem)

namespace Sample

theorem encrypted_eq (secret : Str) : gumCryptEncryptSecret env.crypt env.urandom secret
    (gumConfigGetString env.config gumConfigGeneralEncryptMethod) =
      some (setting ++ str "$" ++ hashBody secret) := rfl

theorem verifies_hashBody (secret : Str) :
    Verifies env.crypt secret (setting ++ str "$" ++ hashBody secret) := by
  have named : setting = saltMethodId (some CryptMethod.sha512.name) ++ str "................" := by
    decide
  have cmp := @cmpSecret_hash crypt .sha512 (by decide) (str "................") (hashBody secret)
    (by decide) secret
  rw [← named] at cmp
  exact cmp.mpr rfl

theorem verifiable : env.Verifiable := by
  intro secret hash encrypted
  obtain rfl := Option.some.inj (encrypted.symm.trans (encrypted_eq secret))
  exact verifies_hashBody secret

def nothingSet : SecretsSet := ⟨fun _ => none, fun _ => none⟩

/-- A user who is loaded, deleted and added again without a secret. -/
def readded : List Call :=
  [call (.userNewByUid 0 1000), call (.userDelete 0 false), call (.userAdd 0)]

theorem hashes : env.Hashes := by
  intro secret text hash made
  change crypt secret text = some hash at made
  rw [crypt] at made
  split_ifs at made
  obtain rfl := Option.some.inj made
  rw [hashBody]
  split_ifs <;> decide +kernel

theorem run_locksNew_iff_alice :
    System.EachWith SecretsSet.next (fun h s c => c.LocksNewIff h s) nothingSet system readded :=
  (run_locksNew_iff nothingSet system readded).2 (by simp [readded, call, hashes])

/-- The marker the object has been loaded with is taken for a secret: it is the password of the user
who is added again. -/
theorem run_not_locksNew :
    ¬System.EachWith SecretsSet.next (fun h s c => c.LocksNew h s) nothingSet system readded := by
  rintro ⟨-, -, ⟨users, -⟩, -⟩
  have added : ((system.run (readded.take 2)).call (call (.userAdd 0))).1 = true := by decide +kernel
  obtain ⟨uid, adds⟩ := System.call_userAdd (i := 0) rfl added
  have unset := (adds.locksNewUser_iff hashes).mp (users 0 rfl added rfl)
  revert unset
  decide +kernel

end Sample

/-! ## Secrets that were set -/

/-- The passwords the passwd and shadow files hold for the user of the uid. -/
def Files.passwords (f : Files) (uid : UInt32) : Option (Str × Str) :=
  (f.getpwuid uid).bind fun pent =>
    (f.getspnam pent.pwName).map fun spent => (pent.pwPasswd, spent.spPwdp)

/-- The passwd file holds the marker for the user, and the shadow file a password the secret verifies
against. -/
def Files.Stores (f : Files) (crypt : Str → Str → Option Str) (uid : UInt32) (secret : Str) : Prop :=
  ∃ hash, f.passwords uid = some (str "x", hash) ∧ Verifies crypt secret hash

namespace GumdDaemonUser

/-- The passwd entry an addition writes has the marker. -/
theorem Writes.pwPasswd {u : GumdDaemonUser} {env : Env} {gid : UInt32} {pw : Passwd} {sp : Spwd}
    (writes : u.Writes env gid pw sp) : pw.pwPasswd = str "x" := by
  obtain ⟨name, -, rfl⟩ := Option.map_eq_some_iff.mp writes.passwd
  have marked : (u.complete env gid).pw.pwPasswd =
      if (u.newPwdp env).isSome then some secretMarker else u.pw.pwPasswd := rfl
  change (ptr (u.complete env gid).pw.pwPasswd).getD [] = _
  rw [marked, if_pos writes.encrypted]
  rfl

theorem sameSecret_allocUid {u u' : GumdDaemonUser} {env : Env} {f : Files}
    (alloc : f.allocUid env u = some u') : u.SameSecret u' := by
  obtain ⟨u₁, named, alloc⟩ := Option.bind_eq_some_iff.mp alloc
  have first : u.SameSecret u₁ := by
    simp only [GumdDaemonUser.named] at named
    split_ifs at named
    · obtain rfl := Option.some.inj named
      exact sameSecret_setMissingRealname u
    · cases generated : gumValidateGenerateUsername env.md5 (ptr u.nickName) with
      | error e => simp [generated] at named
      | ok tname =>
        obtain rfl : (u.setUsernameProperty (some tname)).setMissingRealname = u₁ := by
          simpa [generated] using named
        have renamed : u.SameSecret (u.setUsernameProperty (some tname)) := ⟨rfl, rfl, rfl⟩
        exact renamed.trans (sameSecret_setMissingRealname _)
  split_ifs at alloc
  obtain ⟨uid, -, rfl⟩ := Option.map_eq_some_iff.mp alloc
  refine first.trans ?_
  dsimp only
  split_ifs <;> exact ⟨rfl, rfl, rfl⟩

theorem Prepared.sameSecret {u u' : GumdDaemonUser} {env : Env} {f : Files}
    (prepared : u.Prepared env f u') : u.SameSecret u' :=
  (sameSecret_setMissingShell env.config u).trans (sameSecret_allocUid prepared.uid)

/-- A successful addition stores the secret the object holds. -/
theorem UserAdded.stores {calm : Prop} {u : GumdDaemonUser} {env : Env} {f f' : Files} {uid : UInt32}
    {secret : DbSecret} (verifiable : env.Verifiable) (holds : u.pw.pwPasswd = some secret)
    (added : u.UserAdded calm env f (some uid) f') : f'.Stores env.crypt uid secret.val := by
  obtain ⟨u', gid, pw, sp, prepared, writes, rfl, written⟩ := added.written
  have encrypted : u.newPwdp env = some sp.spPwdp :=
    (newPwdp_congr prepared.sameSecret env) ▸ writes.newPwdp_eq
  rw [newPwdp, holds] at encrypted
  refine ⟨sp.spPwdp, ?_, verifiable _ _ encrypted⟩
  rw [Files.passwords, written.byUid, Option.bind_some, written.inShadow, Option.map_some,
    writes.pwPasswd]

/-- An update is about to store the secret: a new secret is it, and otherwise the stored password
verifies it.  The shadow record has no other user's name. -/
structure UpdatesSecret (u : GumdDaemonUser) (env : Env) (secret : DbSecret) (pw : Passwd)
    (sp : Spwd) : Prop where
  name : ∀ name, u.shadow.spNamp = some name → name = pw.pwName
  new : u.newSecret env pw sp = true → u.pw.pwPasswd = some secret
  kept : u.newSecret env pw sp = false → pw.pwPasswd = str "x" ∧
    Verifies env.crypt secret.val (u.shadow.spPwdp.getD sp.spPwdp)

/-- The entries such an update writes. -/
theorem UpdatesSecret.passwords {u : GumdDaemonUser} {env : Env} {secret : DbSecret}
    {pw new : Passwd} {sp newSp : Spwd} (updates : u.UpdatesSecret env secret pw sp)
    (verifiable : env.Verifiable) (encrypts : ¬u.SecretFails env pw sp)
    (put : (u.updated env pw sp).pw.putpwent = some new)
    (putSp : (u.updated env pw sp).shadow.putspent = some newSp) :
    new.pwPasswd = str "x" ∧ Verifies env.crypt secret.val newSp.spPwdp := by
  obtain ⟨name, -, rfl⟩ := Option.map_eq_some_iff.mp put
  obtain ⟨spName, -, rfl⟩ := Option.map_eq_some_iff.mp putSp
  change (ptr (u.updated env pw sp).pw.pwPasswd).getD [] = _ ∧
    Verifies env.crypt secret.val ((u.updated env pw sp).shadow.spPwdp.getD [])
  rw [updated]
  cases changed : u.newSecret env pw sp with
  | true =>
    have merged : (u.mergeEntries pw sp).pw.pwPasswd = some secret := updates.new changed
    rcases Option.eq_none_or_eq_some ((u.mergeEntries pw sp).newPwdp env) with
      failed | ⟨hash, encrypted⟩
    · exact absurd ⟨changed, failed⟩ encrypts
    rw [if_pos rfl, withSecret, encrypted]
    refine ⟨rfl, verifiable _ _ ?_⟩
    rw [newPwdp, merged] at encrypted
    exact encrypted
  | false =>
    obtain ⟨marked, verifies⟩ := updates.kept changed
    rw [if_neg (by simp), marked, setSecretProperty_marker]
    refine ⟨rfl, ?_⟩
    have kept : (u.mergeEntries pw sp).shadow.spPwdp = some (u.shadow.spPwdp.getD sp.spPwdp) := by
      change (copyShadowStruct sp true u.shadow).spPwdp = _
      rw [copyShadowStruct]
      cases u.shadow.spPwdp <;> rfl
    change Verifies env.crypt secret.val ((u.mergeEntries pw sp).shadow.spPwdp.getD [])
    rw [kept]
    exact verifies

/-- A successful update stores such a secret. -/
theorem UserUpdated.stores {calm : Prop} {u : GumdDaemonUser} {env : Env} {f f' : Files}
    {secret : DbSecret} (verifiable : env.Verifiable)
    (updates : ∀ pw sp, u.Updatable f pw sp → u.UpdatesSecret env secret pw sp)
    (updated : u.UserUpdated calm env f true f') :
    f'.Stores env.crypt u.pw.pwUid secret.val := by
  cases updated with
  | @updated pw sp f₁ new newSp updatable same icon encrypts agreed changed put putSp =>
    have updates := updates pw sp updatable
    have renewed : u.Renewed f ((f₁.replacePasswd pw new).replaceShadow pw.pwName newSp) pw new newSp :=
      updatable.renewed same put
    have inShadow := renewed.inShadow (updatable.spNamp updates.name putSp)
    obtain ⟨marked, verifies⟩ := updates.passwords verifiable encrypts put putSp
    refine ⟨newSp.spPwdp, ?_, verifies⟩
    rw [Files.passwords, renewed.byUid, Option.bind_some, renewed.name, inShadow, Option.map_some,
      marked]

end GumdDaemonUser

/-- What is recorded after a call: a secret that is set and accepted, and none after a load or a
successful addition or update of the object. -/
def lastSecret (h : Nat → Option DbSecret) (s : System) (c : Call) : Nat → Option DbSecret :=
  match c.operation with
  | .userSet i (.secret value) => Function.update h i (setStringProperty value (h i))
  | .userNew i | .userNewByUid i _ | .userNewByName i _ | .userAdd i | .userUpdate i =>
      if (s.call c).1 then Function.update h i none else h
  | _ => h

/-- A successful addition or update of an object stores the secret that is recorded for it. -/
def Call.StoresSecret (c : Call) (h : Nat → Option DbSecret) (s : System) : Prop :=
  ∀ i secret, c.operation = .userAdd i ∨ c.operation = .userUpdate i → (s.call c).1 = true →
    h i = some secret →
    (s.step c).files.Stores c.env.crypt ((s.step c).users i).pw.pwUid secret.val

/-- An object to be added holds the secret that is recorded for it, and one to be updated is about to
store it. -/
def Call.HoldsSecret (c : Call) (h : Nat → Option DbSecret) (s : System) : Prop :=
  ∀ i secret, h i = some secret →
    (c.operation = .userAdd i → c.Readable ∧ (s.users i).pw.pwPasswd = some secret) ∧
    (c.operation = .userUpdate i → c.Readable ∧ ∀ pw sp, (s.users i).Updatable s.files pw sp →
      (s.users i).UpdatesSecret c.env secret pw sp)

/-- In every run whose additions and updates find what was set in the object they start from. -/
theorem run_storesSecret {calls : List Call} (verifiable : ∀ c ∈ calls, c.env.Verifiable)
    {h : Nat → Option DbSecret} {s : System}
    (each : System.EachWith lastSecret (fun h s c => c.HoldsSecret h s) h s calls) :
    System.EachWith lastSecret (fun h s c => c.StoresSecret h s) h s calls := by
  refine each.imp fun h s c mem holds => ?_
  rintro i secret (op | op) done recorded
  · obtain ⟨readable, held⟩ := (holds i secret recorded).1 op
    obtain ⟨uid, own, added⟩ := System.userAdded readable op done
    rw [own]
    exact added.stores (verifiable c mem) held
  · obtain ⟨readable, updates⟩ := (holds i secret recorded).2 op
    obtain ⟨own, updated⟩ := System.userUpdated readable op done
    rw [own]
    exact updated.stores (verifiable c mem) updates

namespace Sample

/-- Every new user belongs to the group of alice. -/
def staffEnv : Env :=
  { env with config :=
    ⟨(gumConfigGeneralUsrPrimaryGrpname, .string (str "staff")) :: env.config.configTable⟩ }

/-- A client sets the name, type and secret of a new user. -/
def described : List Call :=
  [call (.userNew 0), call (.userSet 0 (.username (str "bob"))), call (.userSet 0 (.usertype 8)),
    call (.userSet 0 (.secret (str "pw")))]

def addUser : Call := { call (.userAdd 0) with env := staffEnv }

theorem verifiable_staffEnv : staffEnv.Verifiable := by
  intro secret hash encrypted
  exact verifiable secret hash encrypted

theorem verifiable_of_described {rest : List Call} (later : ∀ c ∈ rest, c.env = staffEnv) :
    ∀ c ∈ described ++ rest, c.env.Verifiable := by
  intro c mem
  rcases List.mem_append.mp mem with first | last
  · simp only [described, List.mem_cons, List.not_mem_nil, or_false] at first
    rcases first with rfl | rfl | rfl | rfl <;> exact verifiable
  · rw [later c last]
    exact verifiable_staffEnv

/-- The addition stores the secret. -/
theorem run_storesSecret_bob : System.EachWith lastSecret (fun h s c => c.StoresSecret h s)
    (fun _ => none) system (described ++ [addUser]) := by
  refine run_storesSecret (verifiable_of_described (by simp [addUser])) ?_
  have idle : ∀ {h s c}, (∀ i, c.operation ≠ .userAdd i ∧ c.operation ≠ .userUpdate i) →
      Call.HoldsSecret c h s := fun other i secret recorded =>
    ⟨fun op => absurd op (other i).1, fun op => absurd op (other i).2⟩
  refine ⟨idle ?_, idle ?_, idle ?_, idle ?_, ?_, trivial⟩
  iterate 4 exact fun i => ⟨by simp [call], by simp [call]⟩
  intro i secret recorded
  refine ⟨fun op => ?_, fun op => by simp [addUser, call] at op⟩
  obtain rfl : 0 = i := by simpa [addUser, call] using op
  refine ⟨rfl, Eq.trans ?_ recorded⟩
  decide +kernel

/-- An addition stops when the passwd file cannot be rewritten; the marker it has left in the object
is the secret that the next one stores. -/
theorem run_not_storesSecret :
    ¬System.EachWith lastSecret (fun h s c => c.StoresSecret h s) (fun _ => none) system
      (described ++ [{ addUser with faults :=
        { addUser.faults with write := Stream'.cons (some .openDup) (.const none) } }, addUser]) := by
  rintro ⟨-, -, -, -, -, stores, -⟩
  obtain ⟨hash, stored, verifies⟩ := stores 0 ⟨str "pw", by decide⟩ (Or.inl rfl) (by decide +kernel)
    (by decide +kernel)
  have marker : hash = setting ++ str "$" ++ hashBody (str "x") := by
    have found := congrArg (Option.map Prod.snd) stored
    refine (Option.some.inj (Eq.trans ?_ found)).symm
    decide +kernel
  rw [marker] at verifies
  revert verifies
  decide

end Sample

end Gumd
