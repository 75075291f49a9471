import Gumd.MemberOutcomes
import Gumd.System

/-!
# Removing members

The removal of a user from all groups filters three lists, and the removal of one member undoes its
addition where the two files tell the same.
-/

namespace Gumd

open StateWp EntryLoop

/-! ## Removing a user from all groups -/

/-- The files with the user in no list of a group. -/
def Files.withoutUser (f : Files) (name : Str) : Files :=
  { f with
    group := f.group.map fun e => { e with grMem := e.grMem.filter (· ≠ name) }
    gshadow := f.gshadow.map (List.map fun e =>
      { e with sgMem := e.sgMem.filter (· ≠ name), sgAdm := e.sgAdm.filter (· ≠ name) }) }

/-- The user is in no list of a group. -/
def Files.ListsNowhere (f : Files) (name : Str) : Prop :=
  (∀ e ∈ f.group, name ∉ e.grMem) ∧
    ∀ e ∈ f.gshadow.getD [], name ∉ e.sgMem ∧ name ∉ e.sgAdm

theorem withoutMember_eq_filter (members : List Str) (name : Str) :
    withoutMember members name = members.filter (· ≠ name) := by
  unfold withoutMember
  split_ifs with found
  · have mem : name ∈ members := by simpa using found
    rw [gumStringUtilsDeleteString_of_mem mem, Option.getD_some]
  · have absent : name ∉ members := by simpa using found
    refine (List.filter_eq_self.mpr fun member mem => ?_).symm
    apply decide_eq_true
    intro same
    subst same
    exact absent mem

theorem Files.deleteMembers_eq (f : Files) (name : Str) :
    (f.deleteGroupMember name).deleteGshadowMember name = f.withoutUser name := by
  have group : Group.deleteMember name =
      fun e => { e with grMem := e.grMem.filter (· ≠ name) } := by
    funext e
    rw [Group.deleteMember, withoutMember_eq_filter]
  have gshadow : Sgrp.deleteMember name =
      fun e => { e with sgMem := e.sgMem.filter (· ≠ name), sgAdm := e.sgAdm.filter (· ≠ name) } := by
    funext e
    rw [Sgrp.deleteMember, withoutMember_eq_filter, withoutMember_eq_filter]
  rw [Files.deleteGshadowMember, Files.deleteGroupMember, group, gshadow]
  rfl

theorem Files.listsNowhere_withoutUser (f : Files) (name : Str) :
    (f.withoutUser name).ListsNowhere name := by
  have removed : ∀ members : List Str, name ∉ members.filter (· ≠ name) := by
    intro members mem
    exact of_decide_eq_true (List.mem_filter.mp mem).2 rfl
  constructor
  · intro e mem
    obtain ⟨old, -, rfl⟩ := List.mem_map.mp mem
    exact removed old.grMem
  · intro e mem
    cases present : f.gshadow with
    | none =>
      rw [Files.withoutUser, present] at mem
      cases mem
    | some entries =>
      rw [Files.withoutUser, present] at mem
      obtain ⟨old, -, rfl⟩ := List.mem_map.mp mem
      exact ⟨removed old.sgMem, removed old.sgAdm⟩

/-- Where the user is in no list, its removal changes nothing, and neither does a part of it. -/
theorem Files.deleteMember_of_listsNowhere {f : Files} {name : Str} (nowhere : f.ListsNowhere name) :
    f.deleteGroupMember name = f ∧ f.deleteGshadowMember name = f := by
  have kept : ∀ {members : List Str}, name ∉ members → withoutMember members name = members := by
    intro members absent
    rw [withoutMember, if_neg (by simpa using absent)]
  constructor
  · have group : f.group.map (Group.deleteMember name) = f.group := by
      refine (List.map_congr_left fun e mem => ?_).trans (List.map_id _)
      rw [Group.deleteMember, kept (nowhere.1 e mem)]
      rfl
    rw [Files.deleteGroupMember, group]
  · have gshadow : f.gshadow.map (List.map (Sgrp.deleteMember name)) = f.gshadow := by
      cases present : f.gshadow with
      | none => rfl
      | some entries =>
        rw [Option.map_some]
        refine congrArg some ((List.map_congr_left fun e mem => ?_).trans (List.map_id _))
        obtain ⟨mem', adm⟩ := nowhere.2 e (by rw [present]; exact mem)
        rw [Sgrp.deleteMember, kept mem', kept adm]
        rfl
    rw [Files.deleteGshadowMember, gshadow]

/-- A rewrite whose callback cannot fail succeeds exactly if its system calls do. -/
theorem gumFileUpdate_map_iff {ε : Type} (file : DbFile ε) {entries : List ε} {w : World}
    (present : file.entries w.files = some entries) (change : ε → ε) :
    wp (gumFileUpdate file fun entries => .ok (entries.map change)) (fun ok t =>
      (ok = true ↔ w.faults.write.head = none) ∧ t.faults.write = w.faults.write.tail ∧
      t.files = if ok then file.rename (entries.map change) w.files else w.files) w := by
  rw [gumFileUpdate, wp_bind, wp_get, wp_bind, wp_set]
  simp only [present]
  cases fault : w.faults.write.head with
  | none => exact ⟨iff_of_true rfl rfl, rfl, rfl⟩
  | some fault => exact ⟨iff_of_false Bool.false_ne_true (by simp), rfl, rfl⟩

/-- The group file is opened for its rewrite, which fails, and a rewrite of the gshadow file
follows. -/
def World.Masked (w : World) : Prop :=
  w.files.gshadow.isSome = true ∧
    ∃ fault, w.faults.write.head = some fault ∧ (fault.late = true ∨ fault = .put)

theorem gumdDaemonGroupDeleteUserMembership_ends {name : Str} {w : World}
    (valid : gumValidateName (some name) = .ok ()) (unmasked : ¬w.Masked) :
    wp (gumdDaemonGroupDeleteUserMembership (some name)) (fun r t =>
      (r = true ↔ w.lockGranted = true ∧ w.faults.write.head = none ∧
        (w.files.gshadow.isSome = true → w.faults.write.tail.head = none)) ∧
      (r = true → t.files = (w.files.deleteGroupMember name).deleteGshadowMember name) ∧
      (r = false → t.files = w.files ∨ t.files = w.files.deleteGroupMember name)) w := by
  rw [gumdDaemonGroupDeleteUserMembership]
  simp only [valid]
  rw [wp_bind, wp_gumLockPwdfLock, wp_guard]
  refine ⟨fun denied => ?_, fun granted => ?_⟩
  · refine ⟨iff_of_false Bool.false_ne_true fun fine => ?_, fun done => (by cases done),
      fun _ => Or.inl (World.files_afterLock w)⟩
    rw [fine.1] at denied
    cases denied
  rw [wp_bind, wp_get, wp_bind]
  refine wp_mono (gumFileUpdate_map_iff groupFile rfl (Group.deleteMember name)) ?_
  intro ok t spec
  obtain ⟨wrote, rest, files⟩ := spec
  rw [World.write_afterLock] at wrote rest
  rw [World.files_afterLock] at files
  cases ok with
  | false =>
    -- the rewrite has failed: only without a gshadow file is the outcome that of the group file
    have failed : w.faults.write.head ≠ none := fun fine => Bool.false_ne_true (wrote.mpr fine)
    have files : t.files = w.files := files
    have stops : ∀ u : World, u.files = w.files → (false = true ↔ w.lockGranted = true ∧
        w.faults.write.head = none ∧
        (w.files.gshadow.isSome = true → w.faults.write.tail.head = none)) ∧
        (false = true → u.files = (w.files.deleteGroupMember name).deleteGshadowMember name) ∧
        (false = false → u.files = w.files ∨ u.files = w.files.deleteGroupMember name) :=
      fun u same => ⟨iff_of_false Bool.false_ne_true fun fine => failed fine.2.1,
        fun done => (by cases done), fun _ => Or.inl same⟩
    rw [wp_ite]
    refine ⟨fun _ => ?_, fun opened => ?_⟩
    · rw [wp_bind, wp_gumLockPwdfUnlock, wp_pure]
      exact stops _ ((World.files_afterUnlock t).trans files)
    · rw [wp_bind, wp_get, wp_ite]
      refine ⟨fun _ => ?_, fun present => absurd ?_ unmasked⟩
      · rw [wp_bind, wp_gumLockPwdfUnlock, wp_pure]
        exact stops _ ((World.files_afterUnlock t).trans files)
      · obtain ⟨fault, head⟩ := Option.ne_none_iff_exists'.mp failed
        rw [World.write_afterLock, head] at opened
        have early : fault.late = false → fault = .put := by simpa using opened
        refine ⟨?_, fault, head, ?_⟩
        · rw [← files]
          simpa [Option.isSome_iff_ne_none] using present
        · cases late : fault.late with
          | true => exact Or.inl rfl
          | false => exact Or.inr (early late)
  | true =>
    have fine : w.faults.write.head = none := wrote.mp rfl
    have files : t.files = w.files.deleteGroupMember name := files
    rw [wp_ite]
    refine ⟨fun stop => (by simp at stop), fun _ => ?_⟩
    rw [wp_bind, wp_get, wp_ite]
    refine ⟨fun absent => ?_, fun present => ?_⟩
    · have absent : w.files.gshadow = none := by
        have absent := Option.isNone_iff_eq_none.mp absent
        rw [files] at absent
        exact absent
      rw [wp_bind, wp_gumLockPwdfUnlock, wp_pure]
      refine ⟨iff_of_true rfl ⟨granted, fine, by simp [absent]⟩, fun _ => ?_,
        fun failed => (by cases failed)⟩
      rw [Files.deleteGshadowMember_of_none (f := w.files.deleteGroupMember name) absent,
        World.files_afterUnlock, files]
    · obtain ⟨entries, present⟩ := Option.ne_none_iff_exists'.mp
        (mt Option.isNone_iff_eq_none.mpr present)
      rw [wp_bind]
      refine wp_mono (gumFileUpdate_map_iff gshadowFile present (Sgrp.deleteMember name)) ?_
      intro ok u spec
      obtain ⟨wrote₂, -, files₂⟩ := spec
      rw [wp_bind, wp_gumLockPwdfUnlock, wp_pure, World.files_afterUnlock, files₂]
      rw [rest] at wrote₂
      have listed : w.files.gshadow.isSome = true := by
        have listed := congrArg Option.isSome present
        rw [files] at listed
        exact listed
      refine ⟨wrote₂.trans ⟨fun fine₂ => ⟨granted, fine, fun _ => fine₂⟩, fun all =>
        all.2.2 listed⟩, fun done => ?_, fun failed => ?_⟩
      · subst done
        rw [if_pos rfl, ← Files.deleteGshadowMember_of_some present, files]
      · subst failed
        rw [if_neg Bool.false_ne_true]
        exact Or.inr files

/-- The removal of a user who is in no list changes nothing, however it ends. -/
theorem gumdDaemonGroupDeleteUserMembership_nowhere {name : Str} {w : World}
    (nowhere : w.files.ListsNowhere name) :
    wp (gumdDaemonGroupDeleteUserMembership (some name)) (fun _ t => t.files = w.files) w := by
  refine wp_mono (gumdDaemonGroupDeleteUserMembership_spec w name) ?_
  intro r t spec
  have parted := spec.2
  obtain ⟨group, gshadow⟩ := Files.deleteMember_of_listsNowhere nowhere
  generalize t.files = f' at parted ⊢
  cases parted with
  | refused why => rfl
  | failed faulty result =>
    rcases result with rfl | rfl | rfl
    · rfl
    · exact group
    · exact gshadow
  | gshadowOnly faulty => exact gshadow
  | deleted => rw [group, gshadow]

/-- The removal of a user from all groups succeeds exactly if its lock and its rewrites do, and then
the user is filtered from every list.  A rewrite of the group file that fails after it has been
opened, before a rewrite of the gshadow file, is left out. -/
theorem deleteUserMembership_iff {name : Str} (valid : gumValidateName (some name) = .ok ())
    {w : World} (unmasked : ¬w.Masked) :
    wp (gumdDaemonGroupDeleteUserMembership (some name)) (fun r t =>
      (r = true ↔ w.lockGranted = true ∧ w.faults.write.head = none ∧
        (w.files.gshadow.isSome = true → w.faults.write.tail.head = none)) ∧
      (r = true → t.files = w.files.withoutUser name ∧ t.files.ListsNowhere name ∧
        ∀ w' : World, w'.files = t.files →
          wp (gumdDaemonGroupDeleteUserMembership (some name)) (fun _ t' => t'.files = t.files) w') ∧
      (r = false → t.files = w.files ∨
        t.files = { w.files with group := (w.files.withoutUser name).group })) w := by
  refine wp_mono (gumdDaemonGroupDeleteUserMembership_ends valid unmasked) ?_
  intro r t ends
  obtain ⟨returns, removed, failed⟩ := ends
  refine ⟨returns, fun done => ?_, fun undone => ?_⟩
  · have files : t.files = w.files.withoutUser name := (removed done).trans (Files.deleteMembers_eq _ _)
    have nowhere : t.files.ListsNowhere name := by
      rw [files]
      exact Files.listsNowhere_withoutUser w.files name
    refine ⟨files, nowhere, fun w' same => ?_⟩
    rw [← same] at nowhere ⊢
    exact gumdDaemonGroupDeleteUserMembership_nowhere nowhere
  · rcases failed undone with same | groupOnly
    · exact Or.inl same
    · right
      rw [groupOnly, ← Files.deleteMembers_eq]
      rfl

namespace Sample

/-- The world in which a user is removed from all groups. -/
def removal : World := system.world (call (.deleteUserMembership none))

/-- The lock on the database is refused. -/
def locked : World := { removal with faults := { removal.faults with lock := .const false } }

theorem deleteUserMembership_iff_alice :
    wp (gumdDaemonGroupDeleteUserMembership (some (str "alice"))) (fun r t =>
      (r = true ↔ removal.lockGranted = true ∧ removal.faults.write.head = none ∧
        (removal.files.gshadow.isSome = true → removal.faults.write.tail.head = none)) ∧
      (r = true → t.files = removal.files.withoutUser (str "alice") ∧
        t.files.ListsNowhere (str "alice") ∧ ∀ w' : World, w'.files = t.files →
          wp (gumdDaemonGroupDeleteUserMembership (some (str "alice")))
            (fun _ t' => t'.files = t.files) w') ∧
      (r = false → t.files = removal.files ∨
        t.files = { removal.files with group := (removal.files.withoutUser (str "alice")).group }))
      removal :=
  deleteUserMembership_iff (by decide) fun masked => Bool.false_ne_true masked.1

/-- Bob is in no list, and his removal fails while the database is locked. -/
theorem deleteUserMembership_not_listsNowhere :
    ¬wp (gumdDaemonGroupDeleteUserMembership (some (str "bob")))
      (fun r t => r = true ↔ t.files.ListsNowhere (str "bob")) locked := by
  intro same
  have nowhere : ((gumdDaemonGroupDeleteUserMembership (some (str "bob"))).run
      locked).2.files.ListsNowhere (str "bob") := by
    have files : ((gumdDaemonGroupDeleteUserMembership (some (str "bob"))).run locked).2.files =
        files := by
      refine gumdDaemonGroupDeleteUserMembership_nowhere ⟨?_, ?_⟩
      all_goals decide
    rw [files]
    refine ⟨?_, ?_⟩
    all_goals decide
  have failed : ((gumdDaemonGroupDeleteUserMembership (some (str "bob"))).run locked).1 = false := by
    decide +kernel
  exact Bool.false_ne_true (failed.symm.trans (same.mpr nowhere))

end Sample

end Gumd
