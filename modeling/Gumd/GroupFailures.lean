import Gumd.Daemon
import Gumd.GroupEnds

/-!
# What group operations report

A deletion that reports success has removed the group or kept it for a user.  An operation that
fails has changed the groups only where it was stranded between its two files.
-/

namespace Gumd

open StateWp EntryLoop

/-! ## Success -/

/-- An entry of the group file for the same group. -/
def Group.Same (entry e : Group) : Prop := entry.grGid = e.grGid ∧ entry.grName = e.grName

instance (entry e : Group) : Decidable (entry.Same e) :=
  inferInstanceAs (Decidable (entry.grGid = e.grGid ∧ entry.grName = e.grName))

/-- The group has no entry. -/
def Files.Lacks (f : Files) (entry : Group) : Prop :=
  (∀ e ∈ f.group, ¬entry.Same e) ∧ ∀ e ∈ f.gshadow.getD [], entry.grName ≠ e.sgNamp

/-- The first entries of the group are gone, and so all of them where there was one at most.
Nothing is said of the gshadow file where the object holds a record of another group. -/
structure Files.Loses (f : Files) (entry : Group) (own readable : Prop) (f' : Files) : Prop where
  passwd : f'.passwd = f.passwd
  shadow : f'.shadow = f.shadow
  group : f'.group = f.group.eraseP (entry.Same ·)
  gshadow : own → f'.gshadow = f.gshadow.map (List.eraseP (entry.grName = ·.sgNamp))
  gone : f.group.countP (entry.Same ·) ≤ 1 → ∀ e ∈ f'.group, ¬entry.Same e
  forgotten : own ∨ readable → (f.gshadow.getD []).countP (entry.grName = ·.sgNamp) ≤ 1 →
    ∀ e ∈ f'.gshadow.getD [], entry.grName ≠ e.sgNamp

namespace GumdDaemonGroup

/-- The gshadow record a deletion works with is the group's: the object has none or that of the
group, or the gshadow file can be read and lists the group. -/
def OwnsSgrp (g : GumdDaemonGroup) (w : World) (entry : Group) : Prop :=
  g.gshadow.sgNamp = none ∨ g.gshadow.sgNamp = some entry.grName ∨
    w.seenSgrp entry.grName ≠ none

theorem sgNamp_loaded_own {g : GumdDaemonGroup} {w : World} {entry : Group}
    (own : g.OwnsSgrp w entry) {name : Str}
    (named : (g.loaded w entry).gshadow.sgNamp = some name) : name = entry.grName := by
  change (copyGshadowStruct (w.seenSgrp entry.grName) false g.gshadow).sgNamp = _ at named
  cases seen : w.seenSgrp entry.grName with
  | none =>
    rw [seen] at named
    replace named : g.gshadow.sgNamp = some name := named
    obtain unset | same | listed := own
    · rw [unset] at named
      cases named
    · rw [same] at named
      exact (Option.some.inj named).symm
    · exact absurd seen listed
  | some sg =>
    rw [seen] at named
    replace named : sg.sgNamp = name := Option.some.inj named
    rw [World.seenSgrp] at seen
    split_ifs at seen
    have found : sg.sgNamp = entry.grName := by simpa using List.find?_some seen
    rw [← named, found]

/-- The gshadow name of the object a deletion works with: it is the group's, if the gshadow file can
be read and has an entry of the group. -/
theorem sgNamp_loaded (g : GumdDaemonGroup) {w : World} {entry : Group}
    (readable : w.faults.readShadow.head = true) :
    (g.loaded w entry).gshadow.sgNamp = some entry.grName ∨ w.files.getsgnam entry.grName = none := by
  change (copyGshadowStruct (w.seenSgrp entry.grName) false g.gshadow).sgNamp = _ ∨ _
  rw [World.seenSgrp, if_pos readable]
  cases found : w.files.getsgnam entry.grName with
  | none => exact Or.inr rfl
  | some sg =>
    have named : sg.sgNamp = entry.grName := by simpa using List.find?_some found
    exact Or.inl (congrArg some named)

/-- A deletion that has rewritten its files has removed the group. -/
theorem loses_of_written {g : GumdDaemonGroup} {env : Env} {w : World} {entry : Group}
    {calm : Prop} {f' : Files} (deletable : g.Deletable env w entry)
    (written : BothWritten calm
      (groupFile.rewrite (updateDaemonGroupEntry (g.loaded w entry) .delete none))
      (Files.rewriteGshadow (updateGshadowEntry (g.loaded w entry) .delete none)) w.files true f') :
    w.files.Loses entry (g.OwnsSgrp w entry) (w.faults.readShadow.head = true) f' := by
  obtain ⟨agrees, found⟩ := World.seenGroup_some deletable.seen
  have dropped := rewriteGroup_loaded (f := w.files) (w.seenSgrp entry.grName)
    (List.mem_of_find?_eq_some found) agrees
  cases written with
  | both first second =>
    rw [loaded, dropped] at first
    split_ifs at first
    obtain rfl := Except.ok.inj first
    have gone : w.files.group.countP (entry.Same ·) ≤ 1 →
        ∀ e ∈ (w.files.removeGroup entry).group, ¬entry.Same e := by
      intro one e mem
      exact of_decide_eq_false (Bool.eq_false_iff.mpr (not_of_mem_eraseP one e mem))
    rcases Files.rewriteGshadow_ok second with ⟨absent, rfl⟩ | ⟨entries, out, present, edited, rfl⟩
    · replace absent : w.files.gshadow = none := absent
      have none_left : ∀ e ∈ (w.files.removeGroup entry).gshadow.getD [], entry.grName ≠ e.sgNamp := by
        intro e mem
        change e ∈ w.files.gshadow.getD [] at mem
        rw [absent] at mem
        cases mem
      refine ⟨rfl, rfl, rfl, fun _ => ?_, gone, fun _ _ => none_left⟩
      change w.files.gshadow = _
      rw [absent]
      rfl
    · replace present : w.files.gshadow = some entries := present
      rw [updateGshadowEntry_delete] at edited
      split_ifs at edited with listed
      obtain rfl := Except.ok.inj edited
      obtain ⟨x, -, named⟩ := List.any_eq_true.mp listed
      have name := of_decide_eq_true named
      generalize x.sgNamp = n at name
      have drops : (entries.eraseP fun e => (g.loaded w entry).gshadow.sgNamp = some e.sgNamp) =
          entries.eraseP (n = ·.sgNamp) := by
        rw [name]
        simp only [Option.some.injEq]
      refine ⟨rfl, rfl, rfl, fun own => ?_, gone, fun known one e mem => ?_⟩
      · obtain rfl := sgNamp_loaded_own own name
        rw [present, Option.map_some, ← drops]
      · rw [present, Option.getD_some] at one
        replace mem : e ∈ entries.eraseP (n = ·.sgNamp) := by
          rw [← drops]
          exact mem
        have named : n = entry.grName ∨ w.files.getsgnam entry.grName = none := by
          obtain own | readable := known
          · exact Or.inl (sgNamp_loaded_own own name)
          · exact (@sgNamp_loaded g w entry readable).imp_left
              fun own => Option.some.inj (name.symm.trans own)
        obtain rfl | unlisted := named
        · simpa using not_of_mem_eraseP one e mem
        · have here : e ∈ w.files.gshadow.getD [] := by
            rw [present]
            exact List.mem_of_mem_eraseP mem
          have other := List.find?_eq_none.mp unlisted e here
          intro same
          exact other (by simp [same])

/-- A deletion that reports success works on an entry that agrees with the object.  The entry is
the primary group of a user and kept, or it is gone. -/
theorem gumdDaemonGroupDelete_loses (env : Env) (s : St GumdDaemonGroup) :
    wp (gumdDaemonGroupDelete env) (fun r t => r = true → ∃ entry ∈ s.world.files.group,
      s.self.group.agrees entry = true ∧ entry.grGid = s.self.group.grGid ∧
      (s.world.files.UsesGid entry.grGid ∧ t.world.files = s.world.files ∨
        s.world.files.Loses entry (s.self.OwnsSgrp s.world entry)
          (s.world.faults.readShadow.head = true) t.world.files)) s := by
  refine wp_mono (gumdDaemonGroupDelete_ends env s) ?_
  intro r t spec done
  obtain ⟨-, ends⟩ := spec
  subst done
  generalize t.world.files = f' at ends ⊢
  have works : ∀ entry, s.self.Deletable env s.world entry → entry ∈ s.world.files.group ∧
      s.self.group.agrees entry = true ∧ entry.grGid = s.self.group.grGid := by
    intro entry deletable
    obtain ⟨agrees, found⟩ := World.seenGroup_some deletable.seen
    have own := (GroupRecord.agrees_iff.mp agrees).1.resolve_left deletable.valid
    exact ⟨List.mem_of_find?_eq_some found, agrees, own.symm⟩
  cases ends with
  | kept deletable used =>
    obtain ⟨mem, agrees, own⟩ := works _ deletable
    exact ⟨_, mem, agrees, own, Or.inl ⟨used.2, rfl⟩⟩
  | written deletable unused written =>
    obtain ⟨mem, agrees, own⟩ := works _ deletable
    exact ⟨_, mem, agrees, own, Or.inr (loses_of_written deletable written)⟩

end GumdDaemonGroup

/-- A deletion that reports success has removed the group, or left it as the primary group of a
user; and a group that is nobody's primary group is announced only if it has been removed. -/
theorem groupDelete_loses_or_keeps :
    (∀ (env : Env) (s : St GumdDaemonGroup),
      wp (GumdDaemonGroup.gumdDaemonGroupDelete env) (fun r t => r = true →
        ∃ entry ∈ s.world.files.group, s.self.group.agrees entry = true ∧
          entry.grGid = s.self.group.grGid ∧
          (s.world.files.UsesGid entry.grGid ∧ t.world.files = s.world.files ∨
            s.world.files.Loses entry (s.self.OwnsSgrp s.world entry)
              (s.world.faults.readShadow.head = true) t.world.files)) s) ∧
    ∀ (d : GumdDaemon) (c : Context) (group : Nat) (gid : UInt32),
      ¬d.system.files.UsesGid gid → Signal.groupDeleted gid ∈ (d.deleteGroup c group).2.1 →
        ∃ entry ∈ d.system.files.group, (d.system.groups group).group.agrees entry = true ∧
          entry.grGid = gid ∧
          d.system.files.Loses entry
            ((d.system.groups group).OwnsSgrp (d.system.world (c.call (.groupDelete group))) entry)
            (c.faults.readShadow.head = true) (d.deleteGroup c group).2.2.system.files := by
  refine ⟨GumdDaemonGroup.gumdDaemonGroupDelete_loses, ?_⟩
  intro d c group gid unused announced
  have spec := GumdDaemonGroup.gumdDaemonGroupDelete_loses c.env
    ⟨d.system.groups group, d.system.world (c.call (.groupDelete group))⟩
  rw [GumdDaemon.deleteGroup] at announced ⊢
  split_ifs at announced ⊢ with created
  · dsimp only at announced ⊢
    unfold announce at announced
    split_ifs at announced with done
    · obtain rfl : gid = (d.system.groups group).group.grGid := by simpa using announced
      obtain ⟨entry, mem, agrees, own, disposed⟩ := spec done.1
      rw [own] at disposed
      obtain kept | lost := disposed
      · exact absurd kept.1 unused
      · exact ⟨entry, mem, agrees, own, lost⟩
    · cases announced
  · cases announced

namespace Sample

/-- The own group of alice. -/
def aliceGroup : Group := ⟨str "alice", str "x", 1000, []⟩

/-- The deletion of the primary group of alice reports success, and the group is still there. -/
theorem groupDelete_not_lacks :
    ¬wp (GumdDaemonGroup.gumdDaemonGroupDelete env) (fun r t => r = true →
      ∀ entry ∈ files.group, (gumdDaemonGroupNew.setGidProperty 1000).group.agrees entry = true →
        t.world.files.Lacks entry)
      ⟨gumdDaemonGroupNew.setGidProperty 1000, system.world (call (.groupDelete 0))⟩ := by
  intro lacks
  have done : ((GumdDaemonGroup.gumdDaemonGroupDelete env).run
      ⟨gumdDaemonGroupNew.setGidProperty 1000, system.world (call (.groupDelete 0))⟩).1 = true := by
    decide +kernel
  have left : aliceGroup ∈ ((GumdDaemonGroup.gumdDaemonGroupDelete env).run
      ⟨gumdDaemonGroupNew.setGidProperty 1000,
        system.world (call (.groupDelete 0))⟩).2.world.files.group := by
    decide +kernel
  exact (lacks done aliceGroup (by decide) (by decide)).1 aliceGroup left ⟨rfl, rfl⟩

end Sample

/-! ## Failures -/

/-- The groups are listed as before. -/
def Files.SameGroups (f f' : Files) : Prop := f'.group = f.group ∧ f'.gshadow = f.gshadow

namespace GumdDaemonGroup

variable {s : St GumdDaemonGroup}

/-- An addition writes the group file, and finds a stale entry in the gshadow file. -/
def StrandedByAdd (g : GumdDaemonGroup) (env : Env) (preferredGid : UInt32) (w : World) : Prop :=
  ∃ name gid passwd, g.Insertable env preferredGid w name gid passwd ∧ w.files.HasGshadow name.val

/-- A deletion writes the group file, and finds no entry in the gshadow file. -/
def StrandedByDelete (g : GumdDaemonGroup) (env : Env) (w : World) : Prop :=
  ∃ entry entries, g.Deletable env w entry ∧ ¬w.SeesUse g.group entry.grGid ∧
    gumValidateName (some entry.grName) = .ok () ∧ w.files.gshadow = some entries ∧
    ∀ e ∈ entries, (g.loaded w entry).gshadow.sgNamp ≠ some e.sgNamp

/-- An update writes a change to the group file, and finds no entry in the gshadow file or has no
record to put there. -/
def StrandedByUpdate (g : GumdDaemonGroup) (env : Env) (w : World) : Prop :=
  ∃ entry new entries, g.Updatable env w entry new ∧ new ≠ entry ∧ w.files.gshadow = some entries ∧
    ((∀ e ∈ entries, entry.grName ≠ e.sgNamp) ∨ (g.merged env w entry).gshadow.sgNamp = none)

/-- A rewrite of the gshadow file fails where its callback does. -/
theorem rewriteGshadow_error_iff {callback : List Sgrp → Except GError (List Sgrp)} {f : Files} :
    (∃ err, Files.rewriteGshadow callback f = .error err) ↔
      ∃ entries, f.gshadow = some entries ∧ ∃ err, callback entries = .error err := by
  unfold Files.rewriteGshadow
  cases f.gshadow with
  | none => simp
  | some entries => cases result : callback entries <;> simp [Except.map, result]

theorem updateGshadowEntry_delete_error_iff {g : GumdDaemonGroup} {entries : List Sgrp} :
    (∃ err, updateGshadowEntry g .delete none entries = .error err) ↔
      ∀ e ∈ entries, g.gshadow.sgNamp ≠ some e.sgNamp := by
  rw [updateGshadowEntry_delete]
  split_ifs with listed
  · obtain ⟨e, mem, named⟩ := List.any_eq_true.mp listed
    exact iff_of_false (by simp) fun unlisted => unlisted e mem (of_decide_eq_true named)
  · refine iff_of_true ⟨_, rfl⟩ fun e mem named => listed ?_
    exact List.any_eq_true.mpr ⟨e, mem, decide_eq_true named⟩

theorem updateGshadowEntry_modify_error_iff {g : GumdDaemonGroup} {name : Str}
    {entries : List Sgrp} :
    (∃ err, updateGshadowEntry g .modify (some name) entries = .error err) ↔
      (∀ e ∈ entries, name ≠ e.sgNamp) ∨ g.gshadow.sgNamp = none := by
  rw [updateGshadowEntry_modify]
  split_ifs with listed
  · obtain ⟨e, mem, named⟩ := List.any_eq_true.mp listed
    have own : name = e.sgNamp := Option.some.inj (of_decide_eq_true named)
    cases record : g.gshadow.sgNamp with
    | none => simp [SgrpRecord.putsgent, record]
    | some n =>
      refine iff_of_false (by simp [SgrpRecord.putsgent, record]) fun refuses => ?_
      rcases refuses with unlisted | unnamed
      · exact unlisted e mem own
      · cases unnamed
  · refine iff_of_true ⟨_, rfl⟩ (Or.inl fun e mem named => listed ?_)
    exact List.any_eq_true.mpr ⟨e, mem, decide_eq_true (congrArg some named)⟩

theorem groupAdd_unchanged_iff (calm : s.world.faults.write = .const none) (env : Env)
    (preferredGid : UInt32) :
    wp (gumdDaemonGroupAdd env preferredGid)
      (fun r t => r = none → s.world.files.SameGroups t.world.files) s ↔
    ¬s.self.StrandedByAdd env preferredGid s.world := by
  have ends := gumdDaemonGroupAdd_ends env preferredGid s
  obtain ⟨r, t, run⟩ := wp_result (gumdDaemonGroupAdd env preferredGid) s
  rw [run] at ends ⊢
  generalize t.world.files = f' at ends ⊢
  cases ends with
  | refused why =>
    refine iff_of_true (fun _ => ⟨rfl, rfl⟩) fun stranded => ?_
    obtain ⟨name, gid, passwd, insertable, -⟩ := stranded
    exact why calm name gid passwd insertable
  | groupOnly insertable stale =>
    refine iff_of_false (fun same => ?_) fun unstranded => unstranded ⟨_, _, _, insertable, stale calm⟩
    exact insertFirst_ne_self _ _ _ (same rfl).1
  | added insertable fresh =>
    refine iff_of_true (fun failed => by cases failed) fun stranded => ?_
    obtain ⟨name, gid, passwd, insertable', stale⟩ := stranded
    obtain rfl := Option.some.inj (insertable.name.symm.trans insertable'.name)
    exact fresh stale

theorem groupDelete_unchanged_iff (calm : s.world.faults.write = .const none) (env : Env) :
    wp (gumdDaemonGroupDelete env)
      (fun r t => r = false → s.world.files.SameGroups t.world.files) s ↔
    ¬s.self.StrandedByDelete env s.world := by
  have ends := gumdDaemonGroupDelete_ends env s
  obtain ⟨r, t, run⟩ := wp_result (gumdDaemonGroupDelete env) s
  rw [run] at ends ⊢
  replace ends := ends.2
  generalize t.world.files = f' at ends ⊢
  cases ends with
  | refused why =>
    refine iff_of_true (fun _ => ⟨rfl, rfl⟩) fun stranded => ?_
    obtain ⟨entry, -, deletable, -⟩ := stranded
    exact why entry deletable
  | kept deletable used =>
    refine iff_of_true (fun failed => by cases failed) fun stranded => ?_
    obtain ⟨entry, -, deletable', unused, -⟩ := stranded
    obtain rfl := Option.some.inj (deletable.seen.symm.trans deletable'.seen)
    exact unused used
  | @written entry _ _ deletable unused written =>
    obtain ⟨agrees, found⟩ := World.seenGroup_some deletable.seen
    have mem := List.mem_of_find?_eq_some found
    have dropped := rewriteGroup_loaded (f := s.world.files) (s.world.seenSgrp entry.grName) mem
      agrees
    have gshadow : s.self.StrandedByDelete env s.world ↔
        gumValidateName (some entry.grName) = .ok () ∧ ∃ err, Files.rewriteGshadow
          (updateGshadowEntry (s.self.loaded s.world entry) .delete none)
          (s.world.files.removeGroup entry) = .error err := by
      rw [rewriteGshadow_error_iff]
      constructor
      · intro stranded
        obtain ⟨entry', entries, deletable', -, valid, present, unlisted⟩ := stranded
        obtain rfl := Option.some.inj (deletable.seen.symm.trans deletable'.seen)
        exact ⟨valid, entries, present, updateGshadowEntry_delete_error_iff.mpr unlisted⟩
      · intro fails
        obtain ⟨valid, entries, present, err⟩ := fails
        exact ⟨entry, entries, deletable, unused, valid, present,
          updateGshadowEntry_delete_error_iff.mp err⟩
    rw [gshadow]
    cases written with
    | neither why =>
      refine iff_of_true (fun _ => ⟨rfl, rfl⟩) fun stranded => ?_
      obtain ⟨err, failed⟩ := why calm
      rw [loaded, dropped, if_pos stranded.1] at failed
      cases failed
    | one first why =>
      rw [loaded, dropped] at first
      split_ifs at first with valid
      obtain rfl := Except.ok.inj first
      refine iff_of_false (fun same => ?_) fun unstranded => unstranded ⟨valid, why calm⟩
      have kept : s.world.files.group.eraseP (fun e => entry.grGid = e.grGid ∧
        entry.grName = e.grName) = s.world.files.group := (same rfl).1
      exact List.eraseP_eq_self_iff.mp kept entry mem (by simp)
    | both first second =>
      refine iff_of_true (fun failed => by cases failed) fun stranded => ?_
      obtain ⟨valid, err, failed⟩ := stranded
      rw [loaded, dropped, if_pos valid] at first
      obtain rfl := Except.ok.inj first
      rw [failed] at second
      cases second

theorem groupUpdate_unchanged_iff (calm : s.world.faults.write = .const none) (env : Env) :
    wp (gumdDaemonGroupUpdate env)
      (fun r t => r = false → s.world.files.SameGroups t.world.files) s ↔
    ¬s.self.StrandedByUpdate env s.world := by
  have ends := gumdDaemonGroupUpdate_ends env s
  obtain ⟨r, t, run⟩ := wp_result (gumdDaemonGroupUpdate env) s
  rw [run] at ends ⊢
  generalize t.world.files = f' at ends ⊢
  have gshadow : ∀ {entry new}, s.self.Updatable env s.world entry new →
      (s.self.StrandedByUpdate env s.world ↔ new ≠ entry ∧ ∃ err, Files.rewriteGshadow
        (updateGshadowEntry (s.self.merged env s.world entry) .modify (some entry.grName))
        (s.world.files.replaceGroup entry new) = .error err) := by
    intro entry new updatable
    rw [rewriteGshadow_error_iff]
    constructor
    · intro stranded
      obtain ⟨entry', new', entries, updatable', changed, present, refuses⟩ := stranded
      obtain ⟨rfl, rfl⟩ := updatable.eq updatable'
      exact ⟨changed, entries, present, updateGshadowEntry_modify_error_iff.mpr refuses⟩
    · intro fails
      obtain ⟨changed, entries, present, err⟩ := fails
      exact ⟨entry, new, entries, updatable, changed, present,
        updateGshadowEntry_modify_error_iff.mp err⟩
  cases ends with
  | refused why =>
    refine iff_of_true (fun _ => ⟨rfl, rfl⟩) fun stranded => ?_
    obtain ⟨entry, new, -, updatable, -⟩ := stranded
    exact why calm entry new updatable
  | @groupOnly entry new updatable why =>
    obtain ⟨-, found⟩ := World.seenGroup_some updatable.seen
    have kept : s.world.files.SameGroups (s.world.files.replaceGroup entry new) ↔ new = entry :=
      ⟨fun same => (modifyFirst_eq_self found).mp same.1, fun same =>
        ⟨(modifyFirst_eq_self found).mpr same, rfl⟩⟩
    rw [gshadow updatable, kept]
    constructor
    · intro same stranded
      exact stranded.1 (same rfl)
    · intro unstranded _
      by_contra changed
      exact unstranded ⟨changed, why calm⟩
  | revised updatable written =>
    rw [gshadow updatable]
    refine iff_of_true (fun failed => by cases failed) fun stranded => ?_
    obtain ⟨-, err, failed⟩ := stranded
    rw [failed] at written
    cases written

end GumdDaemonGroup

/-- A failed operation has left the groups as they were, unless it is stranded between the group and
the gshadow file. -/
theorem groupFailures_unchanged_iff {s : St GumdDaemonGroup}
    (calm : s.world.faults.write = .const none) (env : Env) (preferredGid : UInt32) :
    (wp (GumdDaemonGroup.gumdDaemonGroupAdd env preferredGid)
        (fun r t => r = none → s.world.files.SameGroups t.world.files) s ↔
      ¬s.self.StrandedByAdd env preferredGid s.world) ∧
    (wp (GumdDaemonGroup.gumdDaemonGroupDelete env)
        (fun r t => r = false → s.world.files.SameGroups t.world.files) s ↔
      ¬s.self.StrandedByDelete env s.world) ∧
    (wp (GumdDaemonGroup.gumdDaemonGroupUpdate env)
        (fun r t => r = false → s.world.files.SameGroups t.world.files) s ↔
      ¬s.self.StrandedByUpdate env s.world) :=
  ⟨GumdDaemonGroup.groupAdd_unchanged_iff calm env preferredGid,
    GumdDaemonGroup.groupDelete_unchanged_iff calm env,
    GumdDaemonGroup.groupUpdate_unchanged_iff calm env⟩

namespace Sample

/-- The groups with a gshadow entry that is left of an old group. -/
def staleFiles : Files := { files with gshadow := some [⟨str "crew", str "!", [], []⟩] }

/-- A new group gets the name of the old one. -/
def staleAddition : St GumdDaemonGroup where
  self := (gumdDaemonGroupNew.setGroupnameProperty (some (str "crew"))).setGrouptypeProperty
    gumGrouptypeUser
  world := { system.world (call (.groupAdd 0 gumGroupInvalidGid)) with files := staleFiles }

theorem groupFailures_unchanged_iff_crew :
    (wp (GumdDaemonGroup.gumdDaemonGroupAdd env gumGroupInvalidGid)
        (fun r t => r = none → staleFiles.SameGroups t.world.files) staleAddition ↔
      ¬staleAddition.self.StrandedByAdd env gumGroupInvalidGid staleAddition.world) ∧
    (wp (GumdDaemonGroup.gumdDaemonGroupDelete env)
        (fun r t => r = false → staleFiles.SameGroups t.world.files) staleAddition ↔
      ¬staleAddition.self.StrandedByDelete env staleAddition.world) ∧
    (wp (GumdDaemonGroup.gumdDaemonGroupUpdate env)
        (fun r t => r = false → staleFiles.SameGroups t.world.files) staleAddition ↔
      ¬staleAddition.self.StrandedByUpdate env staleAddition.world) :=
  groupFailures_unchanged_iff (s := staleAddition) rfl env gumGroupInvalidGid

/-- The addition fails, and the group file has the new group. -/
theorem groupAdd_not_sameGroups :
    ¬wp (GumdDaemonGroup.gumdDaemonGroupAdd env gumGroupInvalidGid)
      (fun r t => r = none → staleFiles.SameGroups t.world.files) staleAddition := by
  intro unchanged
  have failed : ((GumdDaemonGroup.gumdDaemonGroupAdd env gumGroupInvalidGid).run
      staleAddition).1 = none := by
    decide +kernel
  have group := congrArg List.length (unchanged failed).1
  revert group
  decide +kernel

end Sample

end Gumd
