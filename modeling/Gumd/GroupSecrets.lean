import Gumd.GroupEnds
import Gumd.GroupUpdate

/-!
# The secret of a group

An addition or an update encrypts the secret into the gshadow record and leaves a marker in the
group record.  Without a gshadow file the encrypted secret is written nowhere.
-/

namespace Gumd

open StateWp EntryLoop

/-! ## Held secrets -/

/-- Encrypted with the hash as its setting, the secret gives the hash. -/
def CryptVerifies (crypt : Str → Str → Option Str) (secret hash : Str) : Prop :=
  crypt secret hash = some hash

/-- What `crypt` promises: a hash is its own setting, and the marker is no hash. -/
structure Env.Rehashes (env : Env) : Prop where
  again : ∀ secret hash, gumCryptEncryptSecret env.crypt env.urandom secret
    (gumConfigGetString env.config gumConfigGeneralEncryptMethod) = some hash →
    CryptVerifies env.crypt secret hash
  marker : ∀ secret, ¬CryptVerifies env.crypt secret (str "x")

/-- The database holds a hash of the secret for the group: in the gshadow file, if there is one. -/
def Files.HoldsSecret (f : Files) (crypt : Str → Str → Option Str) (name secret : Str) : Prop :=
  f.gshadow.elim (∃ e ∈ f.group, e.grName = name ∧ CryptVerifies crypt secret e.grPasswd)
    fun entries => ∃ e ∈ entries, e.sgNamp = name ∧ CryptVerifies crypt secret e.sgPasswd

theorem Files.holdsSecret_none {f : Files} (absent : f.gshadow = none)
    {crypt : Str → Str → Option Str} {name secret : Str} : f.HoldsSecret crypt name secret ↔
      ∃ e ∈ f.group, e.grName = name ∧ CryptVerifies crypt secret e.grPasswd := by
  rw [Files.HoldsSecret, absent, Option.elim_none]

theorem Files.holdsSecret_some {f : Files} {entries : List Sgrp} (present : f.gshadow = some entries)
    {crypt : Str → Str → Option Str} {name secret : Str} : f.HoldsSecret crypt name secret ↔
      ∃ e ∈ entries, e.sgNamp = name ∧ CryptVerifies crypt secret e.sgPasswd := by
  rw [Files.HoldsSecret, present, Option.elim_some]

/-- The files without the entries of the group that an update rewrites. -/
def Files.dropGroup (f : Files) (entry : Group) : Files :=
  { f.removeGroup entry with gshadow := f.gshadow.map (List.eraseP (entry.grName = ·.sgNamp)) }

namespace GumdDaemonGroup

/-- A valid secret that is set is the secret of the object. -/
theorem grPasswd_setSecretProperty (g : GumdDaemonGroup) {secret : Str}
    (valid : gumValidateDbSecretEntry (some secret) = .ok ()) :
    (g.setSecretProperty (some secret)).group.grPasswd = some ⟨secret, valid⟩ :=
  setStringProperty_of_accepted (p := fun s => gumValidateDbSecretEntry (some s) = .ok ()) valid _

/-! ## An addition -/

theorem Adds.holdsSecret_iff {g : GumdDaemonGroup} {env : Env} {f f' : Files} {gid : UInt32}
    {secret : DbSecret} (rehashes : env.Rehashes) (set : g.group.grPasswd = some secret)
    (adds : g.Adds env f (some gid) f') : ∃ name, g.group.grName = some name ∧
      (f'.HoldsSecret env.crypt name.val secret.val ↔
        f.gshadow.isSome = true ∨ f.HoldsSecret env.crypt name.val secret.val) := by
  cases adds with
  | @both name gid passwd writable fresh =>
    refine ⟨name, writable.name, ?_⟩
    have stored := writable.passwd
    rw [newPasswd, set] at stored
    have verifies := rehashes.again _ _ stored
    cases present : f.gshadow with
    | some entries =>
      have appended : ((f.insertGroup (g.newEntry name gid)).appendGshadow
          (g.newGshadowEntry name passwd)).gshadow = some (entries ++ [g.newGshadowEntry name passwd]) := by
        simp [Files.appendGshadow, Files.insertGroup, present]
      rw [Files.holdsSecret_some appended]
      exact iff_of_true ⟨_, List.mem_append_right _ List.mem_cons_self, rfl, verifies⟩ (Or.inl rfl)
    | none =>
      have absent : ((f.insertGroup (g.newEntry name gid)).appendGshadow
          (g.newGshadowEntry name passwd)).gshadow = none := by
        simp [Files.appendGshadow, Files.insertGroup, present]
      rw [Files.holdsSecret_none absent, Files.holdsSecret_none present]
      constructor
      · intro held
        obtain ⟨e, mem, named, verified⟩ := held
        rcases mem_insertFirst.mp mem with rfl | old
        · exact absurd verified (rehashes.marker secret.val)
        · exact Or.inr ⟨e, old, named, verified⟩
      · intro held
        obtain ⟨e, old, named, verified⟩ := held.resolve_left Bool.false_ne_true
        exact ⟨e, mem_insertFirst.mpr (Or.inr old), named, verified⟩

/-! ## An update -/

/-- An update that succeeds is about to write the group's own name to the gshadow file. -/
def OwnGshadowName (g : GumdDaemonGroup) (entry : Group) : Prop :=
  g.gshadow.sgNamp.getD entry.grName = entry.grName

/-- The records an update writes hold the marker and the hash of the secret. -/
theorem merged_secret {g : GumdDaemonGroup} {env : Env} {w : World} {entry : Group}
    {secret : DbSecret} (rehashes : env.Rehashes) (set : g.group.grPasswd = some secret)
    (rekeys : g.Rekeys env entry (w.seenSgrp entry.grName)) :
    ptr (g.merged env w entry).group.grPasswd = some (str "x") ∧
      ∃ hash, (g.merged env w entry).gshadow.sgPasswd = some hash ∧
        CryptVerifies env.crypt secret.val hash := by
  have kept : (g.mergeEntries entry (w.seenSgrp entry.grName)).group.grPasswd = some secret := by
    rw [← set, mergeEntries]
    dsimp only
    split_ifs <;> rfl
  obtain ⟨hash, encrypted⟩ := Option.isSome_iff_exists.mp rekeys.encrypted
  have stored := encrypted
  rw [newPasswd, kept] at stored
  rw [merged, updated, withSecret, encrypted]
  exact ⟨rfl, hash, rfl, rehashes.again _ _ stored⟩

theorem Revision.holdsSecret_iff {g : GumdDaemonGroup} {env : Env} {w : World} {f' : Files}
    {secret : DbSecret} (rehashes : env.Rehashes) (set : g.group.grPasswd = some secret)
    (revision : g.Revision env w true f') : ∃ entry, w.seenGroup g.group = some entry ∧
      (f'.HoldsSecret env.crypt entry.grName secret.val ↔
        w.files.gshadow.isSome = true ∧ g.OwnGshadowName entry ∨
          (w.files.dropGroup entry).HoldsSecret env.crypt entry.grName secret.val) := by
  cases revision with
  | @revised entry new f' updatable written =>
    refine ⟨entry, updatable.seen, ?_⟩
    obtain ⟨agrees, found⟩ := World.seenGroup_some updatable.seen
    obtain ⟨marked, hash, stored, verifies⟩ := merged_secret rehashes set updatable.rekeys
    rcases Files.rewriteGshadow_ok written with ⟨absent, rfl⟩ | ⟨entries, out, present, edited, rfl⟩
    · have absent : w.files.gshadow = none := absent
      have dropped : (w.files.dropGroup entry).gshadow = none := by
        rw [Files.dropGroup, absent]
        rfl
      have marker : new.grPasswd = str "x" := by
        obtain ⟨name, -, rfl⟩ := Option.map_eq_some_iff.mp updatable.put
        rw [marked]
        rfl
      rw [Files.holdsSecret_none (f := w.files.replaceGroup entry new) absent,
        Files.holdsSecret_none dropped, absent]
      have lists : ∀ e, e ∈ (w.files.replaceGroup entry new).group ↔
          e = new ∨ e ∈ (w.files.dropGroup entry).group := fun e => mem_modifyFirst_iff found
      simp only [lists]
      constructor
      · intro held
        obtain ⟨e, rfl | old, named, verified⟩ := held
        · rw [marker] at verified
          exact absurd verified (rehashes.marker secret.val)
        · exact Or.inr ⟨e, old, named, verified⟩
      · intro held
        obtain ⟨e, old, named, verified⟩ := held.resolve_left (by simp)
        exact ⟨e, Or.inr old, named, verified⟩
    · have present : w.files.gshadow = some entries := present
      obtain ⟨sg, newSg, listed, putSg, rfl⟩ := updateGshadowEntry_ok edited
      have dropped : (w.files.dropGroup entry).gshadow =
          some (entries.eraseP (entry.grName = ·.sgNamp)) := by
        rw [Files.dropGroup, present]
        rfl
      obtain ⟨n, given, rfl⟩ := Option.map_eq_some_iff.mp putSg
      have seen : ∀ x, w.seenSgrp entry.grName = some x → x.sgNamp = entry.grName := by
        intro x seen
        rw [World.seenSgrp] at seen
        split_ifs at seen
        simpa using List.find?_some seen
      have name : g.gshadow.sgNamp.getD entry.grName = n := by
        rw [merged, gshadow_updated] at given
        exact (copyGshadowStruct_unset seen g.gshadow).1 n given
      rw [Files.holdsSecret_some rfl, Files.holdsSecret_some dropped, present, OwnGshadowName, name]
      simp only [mem_modifyFirst_iff listed, stored, Option.getD_some]
      constructor
      · intro held
        obtain ⟨e, rfl | old, named, verified⟩ := held
        · exact Or.inl ⟨rfl, named⟩
        · exact Or.inr ⟨e, old, named, verified⟩
      · intro held
        rcases held with ⟨-, own⟩ | ⟨e, old, named, verified⟩
        · exact ⟨_, Or.inl rfl, own, verifies⟩
        · exact ⟨e, Or.inr old, named, verified⟩

end GumdDaemonGroup

/-- A secret that is set on a group is held by the database after an addition or an update that
succeeds exactly if there is a gshadow file, or another entry of the group has held it before. -/
theorem group_holdsSecret_iff {env : Env} (rehashes : env.Rehashes) {secret : Str}
    (valid : gumValidateDbSecretEntry (some secret) = .ok ()) (g : GumdDaemonGroup) (w : World)
    (preferredGid : UInt32) :
    wp (GumdDaemonGroup.gumdDaemonGroupAdd env preferredGid) (fun r t => r.isSome = true →
      ∃ name, g.group.grName = some name ∧
        (t.world.files.HoldsSecret env.crypt name.val secret ↔
          w.files.gshadow.isSome = true ∨ w.files.HoldsSecret env.crypt name.val secret))
      ⟨g.setSecretProperty (some secret), w⟩ ∧
    wp (GumdDaemonGroup.gumdDaemonGroupUpdate env) (fun r t => r = true →
      ∃ entry, w.seenGroup (g.setSecretProperty (some secret)).group = some entry ∧
        (t.world.files.HoldsSecret env.crypt entry.grName secret ↔
          w.files.gshadow.isSome = true ∧ g.OwnGshadowName entry ∨
            (w.files.dropGroup entry).HoldsSecret env.crypt entry.grName secret))
      ⟨g.setSecretProperty (some secret), w⟩ := by
  have set := g.grPasswd_setSecretProperty valid
  constructor
  · refine wp_mono (GumdDaemonGroup.gumdDaemonGroupAdd_adds env preferredGid) ?_
    intro r t spec added
    obtain ⟨gid, rfl⟩ := Option.isSome_iff_exists.mp added
    exact spec.2.holdsSecret_iff rehashes set
  · refine wp_mono (GumdDaemonGroup.gumdDaemonGroupUpdate_ends env _) ?_
    intro r t revision done
    subst done
    exact revision.holdsSecret_iff rehashes set

namespace Sample

theorem rehashes : env.Rehashes := by
  constructor
  · intro secret hash encrypted
    have made : gumCryptEncryptSecret env.crypt env.urandom secret
        (gumConfigGetString env.config gumConfigGeneralEncryptMethod) =
          some (setting ++ str "$" ++ hashBody secret) := rfl
    obtain rfl := Option.some.inj (encrypted.symm.trans made)
    rfl
  · intro secret marker
    cases marker

/-- A new group, which gets a secret, in a database without a gshadow file. -/
def crew : GumdDaemonGroup :=
  (gumdDaemonGroupNew.setGroupnameProperty (some (str "crew"))).setGrouptypeProperty
    gumGrouptypeUser

theorem group_holdsSecret_iff_crew :
    wp (GumdDaemonGroup.gumdDaemonGroupAdd env gumGroupInvalidGid) (fun r t =>
      r.isSome = true → ∃ name, crew.group.grName = some name ∧
        (t.world.files.HoldsSecret env.crypt name.val (str "pw") ↔
          files.gshadow.isSome = true ∨ files.HoldsSecret env.crypt name.val (str "pw")))
      ⟨crew.setSecretProperty (some (str "pw")), system.world (call (.groupAdd 0 gumGroupInvalidGid))⟩ :=
  (group_holdsSecret_iff rehashes (by decide) crew _ gumGroupInvalidGid).1

/-- The addition of the group succeeds, and nothing holds its secret. -/
theorem groupAdd_not_holdsSecret :
    ¬wp (GumdDaemonGroup.gumdDaemonGroupAdd env gumGroupInvalidGid) (fun r t =>
      r.isSome = true → t.world.files.HoldsSecret env.crypt (str "crew") (str "pw"))
      ⟨crew.setSecretProperty (some (str "pw")), system.world (call (.groupAdd 0 gumGroupInvalidGid))⟩ := by
  intro holds
  have held := holds (by decide +kernel)
  rw [Files.holdsSecret_none (by decide +kernel)] at held
  obtain ⟨e, mem, named, verified⟩ := held
  have marked : ∀ e ∈ ((GumdDaemonGroup.gumdDaemonGroupAdd env gumGroupInvalidGid).run
      ⟨crew.setSecretProperty (some (str "pw")),
        system.world (call (.groupAdd 0 gumGroupInvalidGid))⟩).2.world.files.group,
      e.grPasswd = str "x" := by
    decide +kernel
  rw [marked e mem] at verified
  exact rehashes.marker _ verified

end Sample

end Gumd
