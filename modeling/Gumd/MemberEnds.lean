import Gumd.GroupEnds

/-!
# How changes of members end

An addition or a removal of a member looks up the user, the group and its gshadow entry, and then
rewrites both files.  What the lookups find is said of the world the operation starts in, so that
the outcome, the object and the files are determined by that world.
-/

namespace Gumd

open StateWp EntryLoop

/-! ## What the lookups find -/

/-- The world after a lookup in the passwd or group file. -/
def World.afterRead (w : World) : World :=
  { w with faults := { w.faults with read := w.faults.read.tail } }

/-- The entry `gum_file_getpwuid` finds. -/
def World.seenUser (w : World) (uid : UInt32) : Option Passwd :=
  if w.faults.read.head then w.files.getpwuid uid else none

/-- The entry `_get_group` finds. -/
def World.soughtGroup (w : World) (group : GroupRecord) : Option Group :=
  if group.grGid ≠ gumGroupInvalidGid then w.seenGroup group
  else Option.filter group.agrees
    (if w.faults.read.head then group.grName.bind fun name => w.files.getgrnam name.val else none)

/-- The gshadow entry that is copied to the object: it is looked up again if it was not found. -/
def World.copiedSgrp (w : World) (name : Str) : Option Sgrp :=
  if w.faults.readShadow.head || w.faults.readShadow.tail.head then w.files.getsgnam name else none

theorem World.quiet_afterRead (w : World) : w.Quiet w.afterRead :=
  ⟨rfl, ⟨fun readable => by simp [World.afterRead, readable], id, id, rfl⟩, rfl⟩

/-- The entry that is found agrees with the record, and is the first one of its gid and name. -/
theorem World.soughtGroup_some {w : World} {group : GroupRecord} {entry : Group}
    (found : w.soughtGroup group = some entry) : group.agrees entry = true ∧
      w.files.group.find? (fun e => entry.grGid = e.grGid ∧ entry.grName = e.grName) =
        some entry := by
  by_cases valid : group.grGid = gumGroupInvalidGid
  swap
  · rw [World.soughtGroup, if_pos valid] at found
    exact World.seenGroup_some found
  · rw [World.soughtGroup, if_neg (not_not.mpr valid)] at found
    obtain ⟨seen, agrees⟩ := Option.filter_eq_some_iff.mp found
    split_ifs at seen
    obtain ⟨name, -, byName⟩ := Option.bind_eq_some_iff.mp seen
    have own : entry.grName = name.val := by simpa using List.find?_some byName
    refine ⟨agrees, find?_of_imp byName (by simp) fun e key => ?_⟩
    rw [← (of_decide_eq_true key).2, own]
    exact beq_self_eq_true _

/-- The search for a group depends on the files and the outcomes of opening them. -/
theorem World.soughtGroup_congr {w t : World} (files : t.files = w.files)
    (read : t.faults.read = w.faults.read) (group : GroupRecord) :
    t.soughtGroup group = w.soughtGroup group := by
  unfold World.soughtGroup World.seenGroup World.search
  rw [files, read]

namespace GumdDaemonGroup

variable {s : St GumdDaemonGroup}

theorem wp_getGroup_sought : wp getGroup (fun r t => r = s.world.soughtGroup s.self.group ∧
    t.self = s.self ∧ t.world.faults.readShadow = s.world.faults.readShadow ∧
    s.world.Quiet t.world) s := by
  by_cases valid : s.self.group.grGid = gumGroupInvalidGid
  · have byGid : lookupIf (s.self.group.grGid ≠ gumGroupInvalidGid)
        (gumFileGetgrgid s.self.group.grGid) none = pure none := if_neg (not_not.mpr valid)
    simp only [getGroup, wp_bind, wp_getSelf, wp_liftM, byGid, wp_pure, World.soughtGroup,
      if_neg (not_not.mpr valid)]
    cases name : s.self.group.grName with
    | none =>
      simp only [lookupIf, Option.isSome_none, Bool.false_eq_true, false_and, if_false, wp_pure,
        Option.filter_none, Option.bind_none, ite_self, wp_liftM, wp_gumReturnWithError]
      exact ⟨trivial, trivial, trivial, .error _ _⟩
    | some n =>
      simp only [lookupIf, Option.isSome_some, Option.isNone_none, and_self, if_true, ptr_some,
        gumFileGetgrnam, wp_gumFileLookup_openFile, Option.bind_some]
      cases Option.filter s.self.group.agrees
        (if s.world.faults.read.head then s.world.files.getgrnam n.val else none) with
      | none => exact ⟨rfl, rfl, rfl, s.world.quiet_afterRead.trans (.error _ _)⟩
      | some entry => exact ⟨rfl, rfl, rfl, s.world.quiet_afterRead⟩
  · rw [World.soughtGroup, if_pos valid]
    refine wp_mono (wp_getGroup_seen valid) ?_
    intro r t spec
    obtain ⟨found, self, sought⟩ := spec
    exact ⟨found, self, sought.readShadow, sought.quiet⟩

/-- A lookup in the gshadow file uses up an outcome of opening it. -/
theorem wp_gumFileGetsgnam_readShadow (name : Str) (w : World) :
    wp (gumFileGetsgnam (some name)) (fun _ t => w.files.gshadow ≠ none →
      t.faults.readShadow = w.faults.readShadow.tail) w := by
  simp only [gumFileGetsgnam, wp_bind, wp_get, wp_ite, wp_pure, wp_gumFileLookup_openShadowFile]
  exact ⟨fun absent present => absurd (Option.isNone_iff_eq_none.mp absent) present, fun _ _ => trivial⟩

/-- What a lookup finds that is made again after one that found nothing. -/
theorem seenSgrp_again {w t : World} {name : Str} (quiet : w.Quiet t)
    (again : w.files.gshadow ≠ none → t.faults.readShadow = w.faults.readShadow.tail)
    (missing : w.seenSgrp name = none) : t.seenSgrp name = w.copiedSgrp name := by
  rw [World.seenSgrp, World.copiedSgrp, quiet.files]
  by_cases present : w.files.gshadow = none
  · have none : w.files.getsgnam name = none := by simp [Files.getsgnam, present]
    rw [none, ite_self, ite_self]
  · rw [again present]
    rw [World.seenSgrp] at missing
    cases opened : w.faults.readShadow.head with
    | false => rfl
    | true =>
      rw [if_pos opened] at missing
      rw [missing, ite_self, ite_self]

theorem copiedSgrp_of_seen {w : World} {name : Str} {sg : Sgrp} (seen : w.seenSgrp name = some sg) :
    w.copiedSgrp name = some sg := by
  rw [World.seenSgrp] at seen
  split_ifs at seen with opened
  rw [World.copiedSgrp, opened, Bool.true_or, if_pos rfl, seen]

/-- The object gets the entries of the group before its member lists change. -/
theorem wp_loadEntries {α : Type} {exit : GroupM α} {rest : Option Sgrp → GroupM α}
    {Q : α → St GumdDaemonGroup → Prop} {entry : Group}
    (loaded : ∀ t : St GumdDaemonGroup,
      t.self = s.self.copyGroupEntries entry (s.world.copiedSgrp entry.grName) →
      s.world.Quiet t.world → wp (rest (s.world.seenSgrp entry.grName)) Q t) :
    wp (liftM (gumFileGetsgnam (some entry.grName)) >>= fun sg =>
      copyGroupData (some entry) sg >>= fun ok => if !ok then exit else rest sg) Q s := by
  rw [wp_bind, wp_liftM]
  refine wp_mono (wp_and (wp_gumFileGetsgnam_seen entry.grName s.world)
    (wp_gumFileGetsgnam_readShadow entry.grName s.world)) ?_
  intro sg w spec
  obtain ⟨⟨rfl, quiet, -⟩, again⟩ := spec
  simp only [copyGroupData, wp_bind, Option.isNone_some, Bool.false_eq_true, if_false, wp_pure,
    wp_liftM]
  cases found : s.world.seenSgrp entry.grName with
  | some sg =>
    simp only [lookupIf, Option.isNone_some, Bool.false_eq_true, if_false, wp_pure, wp_modifySelf,
      ↓wp_guard]
    rw [found] at loaded
    rw [copiedSgrp_of_seen found] at loaded
    exact ⟨by simp, fun _ => loaded _ rfl quiet⟩
  | none =>
    simp only [lookupIf, Option.isNone_none, if_true]
    refine wp_mono (wp_gumFileGetsgnam_seen entry.grName w) ?_
    intro sg w' spec
    obtain ⟨rfl, quiet', -⟩ := spec
    rw [seenSgrp_again quiet again found]
    simp only [wp_modifySelf, wp_pure, ↓wp_guard]
    rw [found] at loaded
    exact ⟨by simp, fun _ => loaded _ rfl (quiet.trans quiet')⟩

/-! ## The course of a change -/

/-- The course the changes of members share.  `refuses` tells the users the change is refused for,
`lists` gives the object its new member lists. -/
def changeMember (uid : UInt32) (refuses : Group → Str → Bool) (error : GError)
    (lists : Group → Option Sgrp → Str → GumdDaemonGroup → GumdDaemonGroup)
    (rewriteGshadow : Option Sgrp → GroupM Bool) : GroupM Bool := do
  if !(← gumLockPwdfLock) then
    return ← gumReturnWithError ⟨.dbAlreadyLocked, "Database already locked"⟩ false
  match ← gumFileGetpwuid uid with
  | none => unlockReturnWithError ⟨.userNotFound, "User not found"⟩ false
  | some pent =>
      match ← getGroup with
      | none => unlockReturn false
      | some grp =>
          if refuses grp pent.pwName then return ← unlockReturnWithError error false
          let gshadow ← gumFileGetsgnam (some grp.grName)
          if !(← copyGroupData (some grp) gshadow) then return ← unlockReturn false
          modifySelf (lists grp gshadow pent.pwName)
          if !(← updateGroupFile .modify none) then return ← unlockReturn false
          if !(← rewriteGshadow gshadow) then return ← unlockReturn false
          unlockReturn true

theorem gumdDaemonGroupAddMember_eq (uid : UInt32) (addAsAdmin : Bool) :
    gumdDaemonGroupAddMember uid addAsAdmin = changeMember uid
      (fun grp pwName => gumStringUtilsSearchStringv (some grp.grMem) (some pwName))
      ⟨.groupUserAlreadyAMember, "User already a member of the group"⟩
      (fun grp gshadow pwName => addMemberLists grp gshadow pwName addAsAdmin)
      (fun gshadow => updateGshadowFileIf gshadow.isSome .modify none) := rfl

theorem gumdDaemonGroupDeleteMember_eq (uid : UInt32) :
    gumdDaemonGroupDeleteMember uid = changeMember uid
      (fun grp pwName => !gumStringUtilsSearchStringv (some grp.grMem) (some pwName))
      ⟨.userNotFound, "User not a member of the group"⟩ deleteMemberLists
      (fun _ => updateGshadowFile .modify none) := rfl

/-- The lookups of a change find the user and the group. -/
structure Sees (g : GumdDaemonGroup) (w : World) (uid : UInt32) (pent : Passwd) (entry : Group) :
    Prop where
  granted : w.lockGranted = true
  user : w.seenUser uid = some pent
  group : w.afterRead.soughtGroup g.group = some entry

theorem Sees.eq {g : GumdDaemonGroup} {w : World} {uid : UInt32} {pent pent' : Passwd}
    {entry entry' : Group} (sees : g.Sees w uid pent entry) (sees' : g.Sees w uid pent' entry') :
    pent = pent' ∧ entry = entry' :=
  ⟨Option.some.inj (sees.user.symm.trans sees'.user),
    Option.some.inj (sees.group.symm.trans sees'.group)⟩

/-- The object with the entries of the group that are found. -/
def withEntries (g : GumdDaemonGroup) (w : World) (entry : Group) : GumdDaemonGroup :=
  g.copyGroupEntries entry (w.copiedSgrp entry.grName)

/-- How a change of members ends, and the object it leaves. -/
inductive MemberChange (g : GumdDaemonGroup) (w : World) (uid : UInt32)
    (refuses : Group → Str → Bool)
    (lists : Group → Option Sgrp → Str → GumdDaemonGroup → GumdDaemonGroup)
    (second : Option Sgrp → GumdDaemonGroup → Files → Except GError Files) :
    Bool → GumdDaemonGroup → Files → Prop
  | refused {g'} :
      (∀ pent entry, g.Sees w uid pent entry → refuses entry pent.pwName = true) →
      MemberChange g w uid refuses lists second false g' w.files
  | written {pent entry g' ok f'} : g.Sees w uid pent entry →
      refuses entry pent.pwName = false →
      g' = lists entry (w.seenSgrp entry.grName) pent.pwName (g.withEntries w entry) →
      BothWritten (w.faults.write = .const none)
        (groupFile.rewrite (updateDaemonGroupEntry g' .modify none))
        (second (w.seenSgrp entry.grName) g') w.files ok f' →
      MemberChange g w uid refuses lists second ok g' f'

theorem changeMember_ends {refuses : Group → Str → Bool}
    {lists : Group → Option Sgrp → Str → GumdDaemonGroup → GumdDaemonGroup}
    {rewriteGshadow : Option Sgrp → GroupM Bool}
    {second : Option Sgrp → GumdDaemonGroup → Files → Except GError Files}
    (writes : ∀ sg g, WritesAs g (rewriteGshadow sg) (second sg g)) (uid : UInt32) (error : GError)
    (s : St GumdDaemonGroup) :
    wp (changeMember uid refuses error lists rewriteGshadow) (fun r t =>
      s.world.Balanced t.world ∧
        s.self.MemberChange s.world uid refuses lists second r t.self t.world.files) s := by
  refine wp_lockedObject (fun denied t files => ?_) fun granted t self world => ?_
  · simp only [wp_liftM, wp_gumReturnWithError]
    refine ⟨.error _ _, .refused fun pent entry sees => ?_⟩
    rw [sees.granted] at denied
    cases denied
  have files : t.world.files = s.world.files := by rw [world, World.files_afterLock]
  have user : (if t.world.faults.read.head then t.world.files.getpwuid uid else none) =
      s.world.seenUser uid := by
    rw [world, World.seenUser, World.files_afterLock, World.read_afterLock]
  have calm : s.world.faults.write = .const none → t.world.faults.write = .const none := by
    intro calm
    rw [world, World.write_afterLock, calm]
  rw [wp_bind, wp_liftM, gumFileGetpwuid, wp_gumFileLookup_openFile, user]
  have quiet₀ := t.world.quiet_afterRead
  cases seen : s.world.seenUser uid with
  | none =>
    refine unlockReturnWithError_object _ quiet₀.balanced ?_
    change MemberChange _ _ _ _ _ _ _ _ t.world.files
    rw [files]
    refine .refused fun pent entry sees => ?_
    rw [sees.user] at seen
    cases seen
  | some pent =>
    dsimp only
    rw [wp_bind]
    refine wp_mono (@wp_getGroup_sought ⟨t.self, t.world.afterRead⟩) ?_
    intro r t₁ spec
    obtain ⟨rfl, self₁, shadow₁, quiet₁⟩ := spec
    replace quiet₁ := quiet₀.trans quiet₁
    have group : t.world.afterRead.soughtGroup t.self.group =
        s.world.afterRead.soughtGroup s.self.group := by
      have read : t.world.afterRead.faults.read = s.world.afterRead.faults.read := by
        rw [World.afterRead, World.afterRead, world, World.read_afterLock]
      rw [self]
      exact @World.soughtGroup_congr s.world.afterRead t.world.afterRead files read _
    rw [group]
    cases found : s.world.afterRead.soughtGroup s.self.group with
    | none =>
      refine unlockReturn_object quiet₁.balanced ?_
      rw [quiet₁.files, files]
      refine .refused fun pent' entry sees => ?_
      rw [sees.group] at found
      cases found
    | some entry =>
      have sees : s.self.Sees s.world uid pent entry := ⟨granted, seen, found⟩
      rw [wp_ite]
      refine ⟨fun refused => ?_, fun allowed => ?_⟩
      · refine unlockReturnWithError_object _ quiet₁.balanced ?_
        rw [quiet₁.files, files]
        refine .refused fun pent' entry' sees' => ?_
        obtain ⟨rfl, rfl⟩ := sees.eq sees'
        exact refused
      have shadow : t₁.world.faults.readShadow = s.world.faults.readShadow := by
        rw [shadow₁, World.afterRead, world, World.readShadow_afterLock]
      have sgrp : t₁.world.seenSgrp entry.grName = s.world.seenSgrp entry.grName := by
        rw [World.seenSgrp, World.seenSgrp, shadow, quiet₁.files, files]
      have copied : t₁.self.copyGroupEntries entry (t₁.world.copiedSgrp entry.grName) =
          s.self.withEntries s.world entry := by
        rw [self₁, self, withEntries, World.copiedSgrp, World.copiedSgrp, shadow, quiet₁.files,
          files]
      refine wp_loadEntries fun t₂ self₂ quiet₂ => ?_
      have quiet := quiet₁.trans quiet₂
      rw [sgrp, wp_bind, wp_modifySelf, self₂, copied]
      refine wp_writeBoth (writesAs_updateGroupFile _ _ _) (writes _ _)
        (fun t₃ self₃ balanced₃ written => ?_) fun t₃ self₃ balanced₃ written => ?_
      all_goals
        refine unlockReturn_object (quiet.balanced.trans balanced₃) ?_
        rw [quiet.files, files] at written
        refine .written sees (Bool.eq_false_iff.mpr allowed) self₃ ?_
        rw [self₃]
        exact written.mono fun writable => quiet.balanced.write (calm writable)

section Ends

variable {refuses : Group → Str → Bool}
  {lists : Group → Option Sgrp → Str → GumdDaemonGroup → GumdDaemonGroup}
  {rewriteGshadow : Option Sgrp → GroupM Bool}
  {second : Option Sgrp → GumdDaemonGroup → Files → Except GError Files}

/-- What a change that no write disturbs does: the checks pass, and the two rewrites come to the
given results. -/
structure Changes (g : GumdDaemonGroup) (w : World) (uid : UInt32) (refuses : Group → Str → Bool)
    (lists : Group → Option Sgrp → Str → GumdDaemonGroup → GumdDaemonGroup)
    (second : Option Sgrp → GumdDaemonGroup → Files → Except GError Files)
    (g' : GumdDaemonGroup) (f₁ : Files) (result : Except GError Files) : Prop where
  checked : ∃ pent entry, g.Sees w uid pent entry ∧ refuses entry pent.pwName = false ∧
    g' = lists entry (w.seenSgrp entry.grName) pent.pwName (g.withEntries w entry) ∧
    second (w.seenSgrp entry.grName) g' f₁ = result
  first : groupFile.rewrite (updateDaemonGroupEntry g' .modify none) w.files = .ok f₁

/-- The rewrites of a change are determined. -/
theorem Changes.eq {g g' g'' : GumdDaemonGroup} {w : World} {uid : UInt32} {f₁ f₁' : Files}
    {result result' : Except GError Files}
    (changes : g.Changes w uid refuses lists second g' f₁ result)
    (changes' : g.Changes w uid refuses lists second g'' f₁' result') :
    g' = g'' ∧ f₁ = f₁' ∧ result = result' := by
  obtain ⟨⟨pent, entry, sees, -, rfl, rfl⟩, first⟩ := changes
  obtain ⟨⟨pent', entry', sees', -, rfl, rfl⟩, first'⟩ := changes'
  obtain ⟨rfl, rfl⟩ := sees.eq sees'
  obtain rfl := Except.ok.inj (first.symm.trans first')
  exact ⟨rfl, rfl, rfl⟩

/-- How a change ends that no write disturbs. -/
theorem changeMember_calm (writes : ∀ sg g, WritesAs g (rewriteGshadow sg) (second sg g))
    (calm : s.world.faults.write = .const none) (uid : UInt32) (error : GError) :
    wp (changeMember uid refuses error lists rewriteGshadow) (fun r t =>
      (r = false ∧ t.world.files = s.world.files ∧
        ∀ g' f₁ result, ¬s.self.Changes s.world uid refuses lists second g' f₁ result) ∨
      (r = false ∧
        ∃ e, s.self.Changes s.world uid refuses lists second t.self t.world.files (.error e)) ∨
      (r = true ∧
        ∃ f₁, s.self.Changes s.world uid refuses lists second t.self f₁ (.ok t.world.files))) s := by
  refine wp_mono (changeMember_ends writes uid error s) ?_
  intro r t ends
  replace ends := ends.2
  generalize t.world.files = f' at ends ⊢
  generalize t.self = g' at ends ⊢
  cases ends with
  | refused why =>
    refine Or.inl ⟨rfl, rfl, fun g'' f₁ result changes => ?_⟩
    obtain ⟨⟨pent, entry, sees, allowed, -⟩, -⟩ := changes
    rw [why pent entry sees] at allowed
    cases allowed
  | @written pent entry _ _ _ sees allowed object written =>
    cases written with
    | neither why =>
      refine Or.inl ⟨rfl, rfl, fun g'' f₁ result changes => ?_⟩
      obtain ⟨⟨pent', entry', sees', -, rfl, -⟩, first⟩ := changes
      obtain ⟨rfl, rfl⟩ := sees.eq sees'
      obtain ⟨e, failed⟩ := why calm
      rw [object, first] at failed
      cases failed
    | one first why =>
      obtain ⟨e, failed⟩ := why calm
      exact Or.inr (Or.inl ⟨rfl, e, ⟨pent, entry, sees, allowed, object, failed⟩, first⟩)
    | both first second' =>
      exact Or.inr (Or.inr ⟨rfl, _, ⟨pent, entry, sees, allowed, object, second'⟩, first⟩)

/-- A change succeeds if both rewrites do. -/
theorem changeMember_succeeds_iff (writes : ∀ sg g, WritesAs g (rewriteGshadow sg) (second sg g))
    (calm : s.world.faults.write = .const none) (uid : UInt32) (error : GError)
    (P : GumdDaemonGroup → Files → Prop) :
    wp (changeMember uid refuses error lists rewriteGshadow)
        (fun r t => r = true ∧ P t.self t.world.files) s ↔
      ∃ g' f₁ f₂, s.self.Changes s.world uid refuses lists second g' f₁ (.ok f₂) ∧ P g' f₂ := by
  have ends := @changeMember_calm s refuses lists _ _ writes calm uid error
  obtain ⟨r, t, run⟩ := wp_result (changeMember uid refuses error lists rewriteGshadow) s
  rw [run] at ends ⊢
  rcases ends with ⟨rfl, -, none⟩ | ⟨rfl, e, changes⟩ | ⟨rfl, f₁, changes⟩
  · refine iff_of_false (by simp) fun succeeds => ?_
    obtain ⟨g', f₁, f₂, changes, -⟩ := succeeds
    exact none g' f₁ _ changes
  · refine iff_of_false (by simp) fun succeeds => ?_
    obtain ⟨g', f₁, f₂, changes', -⟩ := succeeds
    cases (changes.eq changes').2.2
  · constructor
    · intro holds
      exact ⟨_, f₁, _, changes, holds.2⟩
    · intro succeeds
      obtain ⟨g', f₁', f₂, changes', holds⟩ := succeeds
      obtain ⟨object, -, same⟩ := changes.eq changes'
      rw [object, Except.ok.inj same]
      exact ⟨rfl, holds⟩

/-- A change that fails leaves what it has written to the group file. -/
theorem changeMember_fails_iff (writes : ∀ sg g, WritesAs g (rewriteGshadow sg) (second sg g))
    (calm : s.world.faults.write = .const none) (uid : UInt32) (error : GError)
    {P : Files → Prop} (same : P s.world.files) :
    wp (changeMember uid refuses error lists rewriteGshadow)
        (fun r t => r = false → P t.world.files) s ↔
      ∀ g' f₁ e, s.self.Changes s.world uid refuses lists second g' f₁ (.error e) → P f₁ := by
  have ends := @changeMember_calm s refuses lists _ _ writes calm uid error
  obtain ⟨r, t, run⟩ := wp_result (changeMember uid refuses error lists rewriteGshadow) s
  rw [run] at ends ⊢
  rcases ends with ⟨rfl, files, none⟩ | ⟨rfl, e, changes⟩ | ⟨rfl, f₁, changes⟩
  · rw [files]
    exact iff_of_true (fun _ => same) fun g' f₁ e changes => absurd changes (none g' f₁ _)
  · constructor
    · intro left g' f₁ e' changes'
      obtain ⟨-, rfl, -⟩ := changes.eq changes'
      exact left rfl
    · intro left _
      exact left _ _ _ changes
  · refine iff_of_true (fun failed => by cases failed) fun g' f₂ e changes' => ?_
    cases (changes.eq changes').2.2

end Ends

/-! ## The record of the group -/

/-- A rewrite of the group file for a loaded entry replaces it by the object's record, which cannot
be put if the name of the entry is not valid. -/
theorem rewriteGroup_ofLoaded {g h : GumdDaemonGroup} {f : Files} {entry : Group} {sg : Option Sgrp}
    (agrees : g.group.agrees entry = true) (mem : entry ∈ f.group)
    (gid : h.group.grGid = entry.grGid)
    (name : h.group.grName = (g.copyGroupEntries entry sg).group.grName) :
    groupFile.rewrite (updateDaemonGroupEntry h .modify none) f =
      h.group.putgrent.elim (.error fileWriteFailure) fun new => .ok (f.replaceGroup entry new) := by
  have named : ptr h.group.grName =
      if gumValidateName (some entry.grName) = .ok () then some entry.grName else none := by
    rw [name, loaded_name agrees]
  simp only [DbFile.rewrite, groupFile, updateDaemonGroupEntry_modify, Option.none_or, gid]
  by_cases valid : gumValidateName (some entry.grName) = .ok ()
  · rw [if_pos valid] at named
    have picked : (f.group.any fun e => entry.grGid = e.grGid ∧
        ptr h.group.grName = some e.grName) = true :=
      List.any_eq_true.mpr ⟨entry, mem, by simp [named]⟩
    rw [if_pos picked, named]
    cases h.group.putgrent with
    | none => rfl
    | some new => simp [Except.map, Files.replaceGroup]
  · rw [if_neg valid] at named
    have unnamed : h.group.grName = none := by simpa [ptr] using named
    simp [GroupRecord.putgrent, unnamed, Except.map]

/-- The record of a loaded object whose members have changed. -/
theorem putgrent_ofLoaded {g h : GumdDaemonGroup} {entry : Group} {sg : Option Sgrp}
    {members : List Str} (agrees : g.group.agrees entry = true)
    (group : h.group = { (g.copyGroupEntries entry sg).group with grMem := some members }) :
    h.group.putgrent = if gumValidateName (some entry.grName) = .ok () then
      some { entry with
        grPasswd := (ptr (setStringProperty (some entry.grPasswd) g.group.grPasswd)).getD []
        grMem := members }
    else none := by
  have named := @loaded_name g entry sg agrees
  rw [group, GroupRecord.putgrent]
  change ((g.copyGroupEntries entry sg).group.grName).map _ = _
  split_ifs at named ⊢ with valid
  · obtain ⟨name, held, same⟩ := Option.map_eq_some_iff.mp named
    rw [held, Option.map_some, same]
    rfl
  · obtain held := Option.map_eq_none_iff.mp named
    rw [held, Option.map_none]

/-- Where the record can be put, the rewrite of the group file succeeds. -/
theorem rewriteGroup_ofLoaded_ok_iff {g h : GumdDaemonGroup} {f f₁ : Files} {entry : Group}
    {sg : Option Sgrp} {members : List Str} (agrees : g.group.agrees entry = true)
    (mem : entry ∈ f.group)
    (group : h.group = { (g.copyGroupEntries entry sg).group with grMem := some members }) :
    groupFile.rewrite (updateDaemonGroupEntry h .modify none) f = .ok f₁ ↔
      gumValidateName (some entry.grName) = .ok () ∧ f₁ = f.replaceGroup entry { entry with
        grPasswd := (ptr (setStringProperty (some entry.grPasswd) g.group.grPasswd)).getD []
        grMem := members } := by
  have gid : h.group.grGid = entry.grGid := by rw [group]; rfl
  have name : h.group.grName = (g.copyGroupEntries entry sg).group.grName := by rw [group]
  rw [rewriteGroup_ofLoaded agrees mem gid name, putgrent_ofLoaded agrees group]
  split_ifs with valid
  · simp only [Option.elim_some, Except.ok.injEq, valid, true_and, @eq_comm _ _ f₁]
  · simp [valid]

theorem group_joined (g : GumdDaemonGroup) (entry : Group) (sg copied : Option Sgrp) (name : Str)
    (addAsAdmin : Bool) : (g.joined entry sg copied name addAsAdmin).group =
      { (g.copyGroupEntries entry copied).group with grMem := some (entry.grMem ++ [name]) } := by
  rw [joined, addMemberLists]
  split_ifs <;> rfl

theorem group_parted {g : GumdDaemonGroup} {entry : Group} {sg copied : Option Sgrp} {name : Str}
    (mem : name ∈ entry.grMem) : (g.parted entry sg copied name).group =
      { (g.copyGroupEntries entry copied).group with
        grMem := some (entry.grMem.filter (· ≠ name)) } := by
  rw [← gumStringUtilsDeleteString_of_mem mem, parted, deleteMemberLists]
  dsimp only
  split_ifs <;> rfl

/-! ## The record of the gshadow entry -/

/-- The rewrite of the gshadow file replaces the first entry of the record's name. -/
theorem updateGshadowEntry_own_ok_iff {g : GumdDaemonGroup} {entries out : List Sgrp} :
    updateGshadowEntry g .modify none entries = .ok out ↔
      ∃ new, g.gshadow.putsgent = some new ∧ (∃ e ∈ entries, new.sgNamp = e.sgNamp) ∧
        out = modifyFirst (new.sgNamp = ·.sgNamp) (fun _ => new) entries := by
  rw [updateGshadowEntry_modify]
  cases named : g.gshadow.sgNamp with
  | none => simp [SgrpRecord.putsgent, named]
  | some n =>
    have put : ∃ new, g.gshadow.putsgent = some new ∧ new.sgNamp = n :=
      ⟨_, by rw [SgrpRecord.putsgent, named, Option.map_some], rfl⟩
    obtain ⟨new, put, rfl⟩ := put
    have listed : (entries.any fun e => (none : Option Str).or (some new.sgNamp) = some e.sgNamp) =
        true ↔ ∃ e ∈ entries, new.sgNamp = e.sgNamp := by
      simp
    rw [put]
    simp only [Option.elim_some, Option.some.injEq, exists_eq_left', ← listed]
    split_ifs with picked
    · constructor
      · intro same
        exact ⟨picked, by simpa using (Except.ok.inj same).symm⟩
      · intro spec
        rw [spec.2]
        simp
    · refine iff_of_false (by simp) fun spec => picked spec.1

theorem updateGshadowEntry_own_error_iff {g : GumdDaemonGroup} {entries : List Sgrp} :
    (∃ err, updateGshadowEntry g .modify none entries = .error err) ↔
      ∀ e ∈ entries, g.gshadow.sgNamp ≠ some e.sgNamp := by
  rw [updateGshadowEntry_modify]
  split_ifs with listed
  · obtain ⟨e, mem, named⟩ := List.any_eq_true.mp listed
    have own : g.gshadow.sgNamp = some e.sgNamp := of_decide_eq_true named
    refine iff_of_false (by simp [SgrpRecord.putsgent, own]) fun unlisted => ?_
    exact unlisted e mem own
  · refine iff_of_true ⟨_, rfl⟩ fun e mem named => listed ?_
    exact List.any_eq_true.mpr ⟨e, mem, decide_eq_true named⟩

end GumdDaemonGroup

end Gumd
