import Gumd.GecosRules
import Gumd.UserUpdate

/-!
# What additions write

The files an addition writes and the secret it stores, whatever the lookups answer: a lookup that
fails finds nothing, and changes no file.
-/

namespace Gumd

open StateWp EntryLoop

/-! ## Looking at files -/

section Looks

variable {α ε : Type}

/-- A program that changes no file. -/
abbrev Looks (m : StateM World α) : Prop := Rewrites World.Quiet m

theorem frame_quiet : Frame World.Quiet := ⟨.refl, .trans⟩

theorem looks_gumReturnWithError (e : GError) (retval : α) : Looks (gumReturnWithError e retval) :=
  fun w => .error w _

theorem looks_gumFileLookup {fopen : StateM World Bool} (opens : Looks fopen)
    (found : Files → Option ε) : Looks (gumFileLookup fopen found) := by
  apply Rewrites.bind frame_quiet opens
  intro opened
  apply Rewrites.ite
  · exact fun _ => .bind frame_quiet (fun w => .refl w) fun _ => .pure frame_quiet _
  · exact fun _ => .pure frame_quiet _

theorem looks_openFile : Looks openFile := by
  intro w
  have quiet : w.Quiet { w with faults := { w.faults with read := w.faults.read.tail } } :=
    ⟨rfl, ⟨fun readable => by simp [readable], id, id, rfl⟩, rfl⟩
  exact quiet

theorem looks_openShadowFile : Looks openShadowFile := by
  intro w
  have quiet : w.Quiet
      { w with faults := { w.faults with readShadow := w.faults.readShadow.tail } } :=
    ⟨rfl, ⟨id, fun readable => by simp [readable], id, rfl⟩, rfl⟩
  exact quiet

theorem looks_gumFileGetpwnam (username : Option Str) : Looks (gumFileGetpwnam username) := by
  cases username with
  | none => exact .pure frame_quiet _
  | some name => exact looks_gumFileLookup looks_openFile _

theorem looks_gumFileGetpwuid (uid : UInt32) : Looks (gumFileGetpwuid uid) :=
  looks_gumFileLookup looks_openFile _

theorem looks_gumFileGetgrnam (grname : Option Str) : Looks (gumFileGetgrnam grname) := by
  cases grname with
  | none => exact .pure frame_quiet _
  | some name => exact looks_gumFileLookup looks_openFile _

theorem looks_gumFileGetgrgid (gid : UInt32) : Looks (gumFileGetgrgid gid) :=
  looks_gumFileLookup looks_openFile _

theorem looks_lookupIf {c : Prop} [Decidable c] {m : StateM World (Option ε)}
    (looks : Looks m) (other : Option ε) : Looks (lookupIf c m other) :=
  .ite (fun _ => looks) fun _ => .pure frame_quiet _

theorem looks_gumFileGetsgnam (name : Option Str) : Looks (gumFileGetsgnam name) := by
  cases name with
  | none => exact .pure frame_quiet _
  | some name => exact fun w => wp_mono (gumFileGetsgnam_spec name w) fun _ _ spec => spec.2.quiet

theorem looks_gumFileGetspnam (name : Option Str) : Looks (gumFileGetspnam name) := by
  cases name with
  | none => exact .pure frame_quiet _
  | some name => exact looks_gumFileLookup looks_openShadowFile _

theorem looks_gumFileFindUserByGid (gid : UInt32) : Looks (gumFileFindUserByGid gid) :=
  .ite (fun _ => .pure frame_quiet _) fun _ => looks_gumFileLookup looks_openFile _

theorem looks_findFreeLoop {lookup : UInt32 → StateM World (Option ε)}
    (looks : ∀ id, Looks (lookup id)) (idMax : UInt32) (fuel : Nat) (start : UInt32) :
    Looks (findFreeLoop lookup idMax fuel start) := by
  induction fuel generalizing start with
  | zero => exact .pure frame_quiet _
  | succ fuel ih =>
    apply Rewrites.ite
    · intro inside
      apply Rewrites.bind frame_quiet (looks start)
      intro r
      exact .ite (fun _ => .pure frame_quiet _) fun _ => ih _
    · exact fun _ => .pure frame_quiet _

theorem rewrites_getSelf {O : Type} {R : St O → St O → Prop} (frame : Frame R) :
    Rewrites R (getSelf : GumM O O) := by
  intro s
  rw [wp_getSelf]
  exact frame.refl s

/-- A look at the files is a step of an operation that says nothing of the rest of the world. -/
theorem Rewrites.lift {O : Type} {R : St O → St O → Prop} {m : StateM World α} (looks : Looks m)
    (world : ∀ (s : St O) (w : World), s.world.Quiet w → R s { s with world := w }) :
    Rewrites R (liftM m : GumM O α) :=
  fun s => world s _ (looks s.world)

/-- The object stays, and no file is changed. -/
def Unmoved {O : Type} (s t : St O) : Prop := t.self = s.self ∧ s.world.Quiet t.world

theorem frame_unmoved {O : Type} : Frame (@Unmoved O) :=
  ⟨fun _ => ⟨rfl, .refl _⟩, fun first second =>
    ⟨second.1.trans first.1, first.2.trans second.2⟩⟩

theorem unmoved_of_looks {O : Type} {m : StateM World α} (looks : Looks m) :
    Rewrites Unmoved (liftM m : GumM O α) :=
  Rewrites.lift looks fun _ _ quiet => ⟨rfl, quiet⟩

end Looks

/-! ## Adding a group -/

namespace GumdDaemonGroup

variable {s : St GumdDaemonGroup}

/-- The object has got another gid at most, and no file is changed. -/
def Renumbered (s t : St GumdDaemonGroup) : Prop :=
  (∃ gid, t.self = s.self.setGidProperty gid) ∧ s.world.Quiet t.world

theorem frame_renumbered : Frame Renumbered where
  refl s := ⟨⟨s.self.group.grGid, rfl⟩, .refl _⟩
  trans := by
    rintro a b c ⟨⟨gid, self⟩, quiet⟩ ⟨⟨gid', self'⟩, quiet'⟩
    refine ⟨⟨gid', ?_⟩, quiet.trans quiet'⟩
    rw [self', self]
    rfl

theorem renumbered_of_looks {α : Type} {m : StateM World α} (looks : Looks m) :
    Rewrites Renumbered (liftM m : GroupM α) :=
  Rewrites.lift looks fun s _ quiet => ⟨⟨s.self.group.grGid, rfl⟩, quiet⟩

theorem renumbered_findFreeGid (config : GumConfig) (preferredGid : UInt32) :
    Rewrites Renumbered (findFreeGid config preferredGid) := by
  rw [findFreeGid]
  apply Rewrites.ite <;> intro valid
  on_goal 1 =>
    apply Rewrites.bind frame_renumbered (renumbered_of_looks (looks_gumFileGetgrgid _))
    intro r
    apply Rewrites.ite (fun _ => .pure frame_renumbered _)
    intro unused
  all_goals
    apply Rewrites.bind frame_renumbered (rewrites_getSelf frame_renumbered)
    intro self
    cases getDefaultGidRange config self with
    | none => exact .pure frame_renumbered _
    | some range => exact renumbered_of_looks (looks_findFreeLoop looks_gumFileGetgrgid _ _ _)

theorem renumbered_setGid (config : GumConfig) (preferredGid : UInt32) :
    Rewrites Renumbered (setGid config preferredGid) := by
  apply Rewrites.bind frame_renumbered (rewrites_getSelf frame_renumbered)
  intro self
  apply Rewrites.bind frame_renumbered
  · apply renumbered_of_looks
    cases gumValidateName (ptr self.group.grName) with
    | ok _ => exact .pure frame_quiet _
    | error e => exact looks_gumReturnWithError _ _
  intro valid
  apply Rewrites.ite
  · exact fun _ => .pure frame_renumbered _
  intro _
  apply Rewrites.bind frame_renumbered (renumbered_of_looks (looks_gumFileGetgrnam _))
  intro taken
  apply Rewrites.ite
  · exact fun _ => .bind frame_renumbered (renumbered_of_looks (looks_gumReturnWithError _ _))
      fun _ => .pure frame_renumbered _
  intro _
  apply Rewrites.bind frame_renumbered (renumbered_findFreeGid config preferredGid)
  intro found
  cases found.join with
  | none => exact renumbered_of_looks (looks_gumReturnWithError _ _)
  | some gid =>
    apply Rewrites.bind frame_renumbered
    · exact fun s => ⟨⟨gid, rfl⟩, .refl _⟩
    · exact fun _ => .pure frame_renumbered _

/-- An object without a name gets no gid. -/
theorem grName_of_setGid (config : GumConfig) (preferredGid : UInt32) :
    wp (setGid config preferredGid) (fun ok _ => ok = true → s.self.group.grName.isSome = true)
      s := by
  cases name : s.self.group.grName with
  | none =>
    simp only [setGid, wp_bind, wp_getSelf, wp_liftM, name]
    intro done
    cases done
  | some name' => exact fun _ => rfl

/-- What an addition can write. -/
inductive Adds (g : GumdDaemonGroup) (env : Env) (f : Files) : Option UInt32 → Files → Prop
  | nothing : Adds g env f none f
  | groupOnly {name gid passwd} : g.Writable env name passwd →
      Adds g env f none (f.insertGroup (g.newEntry name gid))
  | both {name gid passwd} : g.Writable env name passwd → ¬f.HasGshadow name.val →
      Adds g env f (some gid)
        ((f.insertGroup (g.newEntry name gid)).appendGshadow (g.newGshadowEntry name passwd))

/-- Everything a successful or failing addition writes. -/
theorem gumdDaemonGroupAdd_adds (env : Env) (preferredGid : UInt32) :
    wp (gumdDaemonGroupAdd env preferredGid) (fun r t => s.world.Balanced t.world ∧
      Adds s.self env s.world.files r t.world.files) s := by
  by_cases type : s.self.groupType = gumGrouptypeSystem ∨ s.self.groupType = gumGrouptypeUser
  swap
  · simp only [gumdDaemonGroupAdd, checkGroupType, wp_bind, wp_getSelf, wp_ite, type, wp_liftM,
      wp_gumReturnWithError, ↓wp_guard]
    exact ⟨False.elim, fun _ => ⟨fun _ => ⟨.of_same rfl rfl, .nothing⟩, by simp⟩⟩
  simp only [gumdDaemonGroupAdd, checkGroupType]
  rw [wp_bind, wp_bind, wp_getSelf, if_pos type, wp_pure]
  refine wp_locked (fun denied t files => ?_) fun granted t self world => ?_
  · simp only [wp_liftM, wp_gumReturnWithError]
    exact ⟨.error _ _, .nothing⟩
  have files : t.world.files = s.world.files := by rw [world, World.files_afterLock]
  rw [wp_bind]
  refine wp_mono (wp_and (renumbered_setGid _ _ t) (grName_of_setGid _ _)) ?_
  rintro ok t₁ ⟨⟨⟨gid, self₁⟩, quiet₁⟩, isSome⟩
  rw [self] at self₁ isSome
  rw [wp_guard]
  refine ⟨fun _ => ?_, fun numbered => ?_⟩
  · refine unlockReturn_spec quiet₁.balanced ?_
    rw [quiet₁.files, files]
    exact .nothing
  rw [wp_bind]
  refine wp_mono (wp_setGshadowData env) ?_
  rintro ok t₂ ⟨rfl, self₂, quiet₂⟩
  have quiet := quiet₁.trans quiet₂
  rw [self₁] at self₂ ⊢
  rw [wp_guard]
  refine ⟨fun _ => ?_, fun done => ?_⟩
  · refine unlockReturn_spec quiet.balanced ?_
    rw [quiet.files, files]
    exact .nothing
  obtain ⟨passwd, encrypted⟩ := Option.isSome_iff_exists.mp done
  obtain ⟨name, named⟩ := Option.isSome_iff_exists.mp (isSome numbered)
  have files₂ : t₂.world.files = s.world.files := quiet.files.trans files
  have writable : s.self.Writable env name passwd := ⟨named, encrypted⟩
  refine wp_addEntries writable (self₂ done) quiet.balanced ?_ ?_
  all_goals rw [files₂]
  · rintro f (⟨rfl, -⟩ | ⟨rfl, -⟩)
    · exact .nothing
    · exact .groupOnly writable
  · exact .both writable

end GumdDaemonGroup

/-! ## Joining the default groups -/

/-- A group that is one of the named ones has got new members; a password the validator rejects is
not written back. -/
structure Group.Joined (names : List Str) (member : Str → Prop) (e e' : Group) : Prop where
  named : e.grName ∈ names
  grName : e'.grName = e.grName
  grGid : e'.grGid = e.grGid
  grPasswd : gumValidateDbSecretEntry (some e.grPasswd) = .ok () → e'.grPasswd = e.grPasswd
  grMem : ∃ added, e'.grMem = e.grMem ++ added ∧ ∀ n ∈ added, member n

/-- The gshadow entry of such a group has got another member list. -/
structure Sgrp.Joined (names : List Str) (e e' : Sgrp) : Prop where
  named : e.sgNamp ∈ names
  sgNamp : e'.sgNamp = e.sgNamp
  sgPasswd : e'.sgPasswd = e.sgPasswd
  sgAdm : e'.sgAdm = e.sgAdm

def Group.Gains (names : List Str) (member : Str → Prop) (e e' : Group) : Prop :=
  e' = e ∨ e.Joined names member e'

def Sgrp.Gains (names : List Str) (e e' : Sgrp) : Prop := e' = e ∨ e.Joined names e'

theorem Group.Gains.trans {names : List Str} {member : Str → Prop} {a b c : Group}
    (first : a.Gains names member b) (second : b.Gains names member c) :
    a.Gains names member c := by
  rcases first with rfl | first
  · exact second
  rcases second with rfl | second
  · exact Or.inr first
  obtain ⟨added, mem, members⟩ := first.grMem
  obtain ⟨added', mem', members'⟩ := second.grMem
  refine Or.inr ⟨first.named, second.grName.trans first.grName, second.grGid.trans first.grGid,
    fun valid => ?_, added ++ added', ?_, ?_⟩
  · have same := first.grPasswd valid
    exact (second.grPasswd (by rwa [same])).trans same
  · rw [mem', mem, List.append_assoc]
  · intro n inside
    rcases List.mem_append.mp inside with inside | inside
    · exact members n inside
    · exact members' n inside

theorem Sgrp.Gains.trans {names : List Str} {a b c : Sgrp} (first : a.Gains names b)
    (second : b.Gains names c) : a.Gains names c := by
  rcases first with rfl | first
  · exact second
  rcases second with rfl | second
  · exact Or.inr first
  exact Or.inr ⟨first.named, second.sgNamp.trans first.sgNamp,
    second.sgPasswd.trans first.sgPasswd, second.sgAdm.trans first.sgAdm⟩

/-- Members are added to the named groups, and nothing else is changed. -/
structure Files.Joins (names : List Str) (member : Str → Prop) (f f' : Files) : Prop where
  passwd : f'.passwd = f.passwd
  shadow : f'.shadow = f.shadow
  group : List.Forall₂ (Group.Gains names member) f.group f'.group
  gshadow : Option.Rel (List.Forall₂ (Sgrp.Gains names)) f.gshadow f'.gshadow

theorem gains_refl (names : List Str) (gshadow : Option (List Sgrp)) :
    Option.Rel (List.Forall₂ (Sgrp.Gains names)) gshadow gshadow := by
  cases gshadow with
  | none => exact .none
  | some entries => exact .some (List.forall₂_same.mpr fun _ _ => Or.inl rfl)

theorem Files.Joins.refl (names : List Str) (member : Str → Prop) (f : Files) :
    f.Joins names member f :=
  ⟨rfl, rfl, List.forall₂_same.mpr fun _ _ => Or.inl rfl, gains_refl names f.gshadow⟩

theorem Files.Joins.trans {names : List Str} {member : Str → Prop} {f f' f'' : Files}
    (first : f.Joins names member f') (second : f'.Joins names member f'') :
    f.Joins names member f'' := by
  refine ⟨second.passwd.trans first.passwd, second.shadow.trans first.shadow,
    forall₂_trans (R := Group.Gains names member)
    (fun _ _ _ => Group.Gains.trans) first.group second.group, ?_⟩
  have first := first.gshadow
  have second := second.gshadow
  generalize f.gshadow = a at first ⊢
  generalize f'.gshadow = b at first second
  generalize f''.gshadow = c at second ⊢
  cases first with
  | none => exact second
  | some first =>
    cases second with
    | some second => exact .some (forall₂_trans (R := Sgrp.Gains names)
      (fun _ _ _ => Sgrp.Gains.trans) first second)

theorem Files.Joins.mono {names names' : List Str} {member : Str → Prop} {f f' : Files}
    (weaken : ∀ n ∈ names, n ∈ names') (joins : f.Joins names member f') :
    f.Joins names' member f' := by
  have group : ∀ a b : Group, a.Gains names member b → a.Gains names' member b :=
    fun a b => Or.imp id fun h => { h with named := weaken _ h.named }
  have gshadow : ∀ a b : Sgrp, a.Gains names b → a.Gains names' b :=
    fun a b => Or.imp id fun h => { h with named := weaken _ h.named }
  refine ⟨joins.passwd, joins.shadow, joins.group.imp group, ?_⟩
  have old := joins.gshadow
  generalize f.gshadow = a at old ⊢
  generalize f'.gshadow = b at old ⊢
  cases old with
  | none => exact .none
  | some entries => exact .some (entries.imp gshadow)

namespace GumdDaemonGroup

variable {s : St GumdDaemonGroup}

/-- An object that has a name only finds the entry of that name. -/
theorem getGroup_named {name : Str}
    (self : s.self = gumdDaemonGroupNew.setGroupnameProperty (some name)) :
    wp getGroup (fun r t => (∀ entry, r = some entry →
      s.world.files.getgrnam name = some entry ∧ s.self.group.agrees entry = true) ∧
      t.self = s.self ∧ s.world.Quiet t.world) s := by
  have unset : s.self.group.grGid = gumGroupInvalidGid := by
    rw [self]
    rfl
  have own : ∀ n, s.self.group.grName = some n → n.val = name := by
    intro n named
    rw [self] at named
    rcases setStringProperty_eq (p := fun s => gumValidateName (some s) = .ok ()) (some name)
      none with ⟨v, same, result⟩ | ⟨-, result⟩
    · obtain rfl : v = n := Option.some.inj (result.symm.trans named)
      exact (Option.some.inj same).symm
    · cases result.symm.trans named
  simp only [getGroup, wp_bind, wp_getSelf, wp_liftM, lookupIf, unset, ne_eq, not_true_eq_false,
    if_false, wp_pure, Option.isNone_none, and_true]
  cases named : s.self.group.grName with
  | none =>
    simp only [Option.isSome_none, Bool.false_eq_true, if_false, wp_pure, Option.filter_none,
      wp_liftM, wp_gumReturnWithError]
    exact ⟨by simp, trivial, .error _ _⟩
  | some n =>
    simp only [Option.isSome_some, if_true, ptr_some]
    refine wp_mono (gumFileGetgrnam_spec n.val s.world) ?_
    rintro r w ⟨answer, quiet⟩
    rw [own n named] at answer
    cases picked : Option.filter s.self.group.agrees r with
    | none => exact ⟨fun _ h => (by cases h), rfl, quiet.trans (.error _ _)⟩
    | some entry =>
      refine ⟨fun entry' same => ?_, rfl, quiet⟩
      obtain rfl := Option.some.inj same
      obtain ⟨found, agrees⟩ := Option.filter_eq_some_iff.mp picked
      subst found
      exact ⟨answer.of_some, agrees⟩

/-- The first entry of a name is the first entry of its name and gid. -/
theorem find?_of_getgrnam {f : Files} {name : Str} {entry : Group}
    (found : f.getgrnam name = some entry) :
    f.group.find? (fun e => entry.grGid = e.grGid ∧ entry.grName = e.grName) = some entry := by
  obtain ⟨own, before, after, split, others⟩ := List.find?_eq_some_iff_append.mp found
  refine List.find?_eq_some_iff_append.mpr ⟨by simp, before, after, split, fun e mem => ?_⟩
  have differs : ¬e.grName = name := by simpa using others e mem
  have same : entry.grName = name := by simpa using own
  simp only [Bool.not_eq_true', Bool.decide_and, Bool.and_eq_false_imp, decide_eq_true_eq,
    decide_eq_false_iff_not]
  intro _ key
  exact differs (key.symm.trans same)

section Joined

variable {g : GumdDaemonGroup} {f f' : Files} {clear : Prop} {entry : Group}
  {sg copied : Option Sgrp} {n : Str}

/-- The record of an object that has copied a group and joined a member to it. -/
theorem joined_putgrent {new : Group} (unset : g.group.grPasswd = none)
    (agrees : g.group.agrees entry = true)
    (put : (g.joined entry sg copied n false).group.putgrent = some new) :
    new.grName = entry.grName ∧ new.grGid = entry.grGid ∧
      (gumValidateDbSecretEntry (some entry.grPasswd) = .ok () →
        new.grPasswd = entry.grPasswd) ∧ new.grMem = entry.grMem ++ [n] := by
  obtain ⟨name, named, rfl⟩ := Option.map_eq_some_iff.mp put
  obtain ⟨gid, key⟩ := joined_key g entry sg copied n false
  refine ⟨?_, gid, fun valid => ?_, ?_⟩
  · apply eq_of_loaded_name copied agrees
    rw [← key, named, ptr_some]
  · have secret : (g.joined entry sg copied n false).group.grPasswd =
        setStringProperty (some entry.grPasswd) g.group.grPasswd := by
      rw [joined, addMemberLists]
      rfl
    change (ptr (g.joined entry sg copied n false).group.grPasswd).getD [] = entry.grPasswd
    rw [secret, unset, setStringProperty_of_accepted valid, ptr_some, Option.getD_some]
  · change (g.joined entry sg copied n false).group.grMem.getD [] = _
    rw [grMem_joined, Option.getD_some]

/-- The gshadow record of such an object is the entry it has copied, with another member list. -/
theorem joined_gshadow (sg : Sgrp) : (g.joined entry (some sg) (some sg) n false).gshadow =
    { sgNamp := some sg.sgNamp, sgPasswd := some sg.sgPasswd, sgAdm := some sg.sgAdm,
      sgMem := some (entry.grMem ++ [n]) } := rfl

/-- The rewrite of the gshadow entry. -/
theorem joins_gshadow {member : Str → Prop} {name : Str} {sg : Sgrp}
    (found : f.getsgnam name = some sg)
    (written : gshadowFile.rewrite (updateGshadowEntry
      (g.joined entry (some sg) (some sg) n false) .modify none) f = .ok f') :
    f.Joins [name] member f' := by
  rcases Files.rewriteGshadow_ok (Files.rewriteGshadow_of_rewrite written) with
    ⟨absent, -⟩ | ⟨entries, out, present, result, rfl⟩
  · simp [Files.getsgnam, absent] at found
  have here : entries.find? (fun e => some sg.sgNamp = some e.sgNamp) = some sg := by
    have named : sg.sgNamp = name := by simpa using List.find?_some found
    simp only [Files.getsgnam, present, Option.getD_some, beq_eq_decide] at found
    simp only [Option.some.injEq, named, @eq_comm _ name]
    exact found
  have any : (entries.any fun e => some sg.sgNamp = some e.sgNamp) = true :=
    List.any_eq_true.mpr ⟨sg, List.mem_of_find?_eq_some here, by simp⟩
  rw [updateGshadowEntry_modify, joined_gshadow, Option.none_or, if_pos any] at result
  obtain rfl := Except.ok.inj result
  have named : sg.sgNamp ∈ [name] := by simpa using List.find?_some found
  refine ⟨rfl, rfl, List.forall₂_same.mpr fun _ _ => Or.inl rfl, ?_⟩
  rw [present]
  refine .some (forall₂_modifyFirst (fun e => Or.inl rfl) here (Or.inr ⟨named, rfl, rfl, rfl⟩))

/-- An addition of a member to a named group. -/
theorem MemberAdds.joins {uid : UInt32} {name : Str} {r : Bool} (unset : g.group.grPasswd = none)
    (added : g.MemberAdds clear uid false (fun e => f.getgrnam name = some e) f r f') :
    f.Joins [name] (fun n => ∃ pent, f.getpwuid uid = some pent ∧ pent.pwName = n) f' := by
  cases added with
  | refused => exact .refl _ _ _
  | @rewritten pent entry sg copied _ _ user found agrees new answers written =>
    have named : entry.grName ∈ [name] := by simpa using List.find?_some found
    have group : ∀ {new : Group},
        (g.joined entry sg copied pent.pwName false).group.putgrent = some new →
        f.Joins [name] (fun n => ∃ pent, f.getpwuid uid = some pent ∧ pent.pwName = n)
          (f.replaceGroup entry new) := by
      intro new put
      obtain ⟨grName, grGid, grPasswd, grMem⟩ := joined_putgrent unset agrees put
      have gains : entry.Gains [name]
          (fun n => ∃ pent, f.getpwuid uid = some pent ∧ pent.pwName = n) new :=
        Or.inr ⟨named, grName, grGid, grPasswd, [pent.pwName], grMem, fun n mem =>
          ⟨pent, user, (List.mem_singleton.mp mem).symm⟩⟩
      exact ⟨rfl, rfl, forall₂_modifyFirst (fun e => Or.inl rfl) (find?_of_getgrnam found) gains,
        gains_refl _ _⟩
    cases written with
    | neither => exact .refl _ _ _
    | groupOnly put => exact group put
    | both put second =>
      refine (group put).trans ?_
      split_ifs at second with present
      · obtain ⟨sg, rfl⟩ := Option.isSome_iff_exists.mp present
        obtain rfl := answers.same rfl
        have copied : f.getsgnam entry.grName = some sg := answers.first.of_some
        rw [List.mem_singleton.mp named] at copied
        refine joins_gshadow ?_ second
        exact copied
      · cases second
        exact .refl _ _ _

end Joined

end GumdDaemonGroup

/-! ## Adding a user -/

/-- The user of the uid has the name. -/
def Files.IsNamed (f : Files) (uid : UInt32) (name : Str) : Prop :=
  ∃ pent, f.getpwuid uid = some pent ∧ pent.pwName = name

theorem Files.isNamed_congr {f f' : Files} (same : f'.passwd = f.passwd) (uid : UInt32) :
    f'.IsNamed uid = f.IsNamed uid := by
  funext name
  rw [Files.IsNamed, Files.getpwuid, same]
  rfl

namespace GumdDaemonUser

variable {s : St GumdDaemonUser}

/-- The secret, the shadow record and the user type are as they were. -/
structure SameSecret (u u' : GumdDaemonUser) : Prop where
  shadow : u'.shadow = u.shadow
  secret : u'.pw.pwPasswd = u.pw.pwPasswd
  usertype : u'.usertype = u.usertype

theorem SameSecret.refl (u : GumdDaemonUser) : u.SameSecret u := ⟨rfl, rfl, rfl⟩

theorem SameSecret.trans {u v w : GumdDaemonUser} (first : u.SameSecret v)
    (second : v.SameSecret w) : u.SameSecret w :=
  ⟨second.shadow.trans first.shadow, second.secret.trans first.secret,
    second.usertype.trans first.usertype⟩

/-- A gecos setter of a text keeps the secret and the user type. -/
theorem sameSecret_setGecosProperty {field : GecosField} (text : field ≠ .usertype)
    (value : Option Str) (u : GumdDaemonUser) : u.SameSecret (u.setGecosProperty field value) :=
  ⟨rfl, rfl, getUsertypeFromGecos_setGecosText text value u.pw.pwGecos⟩

theorem sameSecret_setMissingRealname (u : GumdDaemonUser) : u.SameSecret u.setMissingRealname := by
  rw [setMissingRealname]
  split_ifs
  · exact sameSecret_setGecosProperty (by decide) _ u
  · exact .refl u

theorem sameSecret_setMissingShell (config : GumConfig) (u : GumdDaemonUser) :
    u.SameSecret (u.setMissingShell config) := by
  rw [setMissingShell]
  split
  · exact ⟨rfl, rfl, rfl⟩
  · exact .refl u

/-- The object has got another identity at most, and no file is changed. -/
def Identified (s t : St GumdDaemonUser) : Prop :=
  s.self.SameSecret t.self ∧ s.world.Quiet t.world

theorem frame_identified : Frame Identified :=
  ⟨fun _ => ⟨.refl _, .refl _⟩, fun first second =>
    ⟨first.1.trans second.1, first.2.trans second.2⟩⟩

theorem identified_of_looks {α : Type} {m : StateM World α} (looks : Looks m) :
    Rewrites Identified (liftM m : UserM α) :=
  Rewrites.lift looks fun _ _ quiet => ⟨.refl _, quiet⟩

theorem identified_modifySelf {change : GumdDaemonUser → GumdDaemonUser}
    (same : ∀ u : GumdDaemonUser, u.SameSecret (change u)) : Rewrites Identified (modifySelf change) :=
  fun s => ⟨same s.self, .refl _⟩

/-- The choice of a name is made of looks, and of writes of the name and the real name. -/
theorem rewrites_setDaemonUserName {R : St GumdDaemonUser → St GumdDaemonUser → Prop}
    (frame : Frame R)
    (looks : ∀ {m : StateM World Bool}, Looks m → Rewrites R (liftM m : UserM Bool))
    (realname : Rewrites R (modifySelf setMissingRealname))
    (username : ∀ name, Rewrites R (modifySelf (setUsernameProperty name))) (env : Env) :
    Rewrites R (setDaemonUserName env) := by
  have failing : ∀ e : GError, Rewrites R
      (liftM (gumReturnWithError e false) >>= pure : UserM Bool) := fun e =>
    .bind frame (looks (looks_gumReturnWithError e false)) fun _ => .pure frame _
  have named : Rewrites R (modifySelf setMissingRealname >>= fun _ => pure true : UserM Bool) :=
    .bind frame realname fun _ => .pure frame _
  apply Rewrites.bind frame (rewrites_getSelf frame)
  intro self
  apply Rewrites.ite
  · exact fun _ => failing _
  intro _
  apply Rewrites.ite
  · intro _
    apply Rewrites.bind frame
    · apply looks
      cases gumValidateName (ptr self.pw.pwName) with
      | ok _ => exact .pure frame_quiet _
      | error e => exact looks_gumReturnWithError _ _
    intro valid
    apply Rewrites.ite
    · exact fun _ => .pure frame _
    · exact fun _ => named
  intro _
  apply Rewrites.ite
  · exact fun _ => failing _
  intro _
  cases gumValidateGenerateUsername env.md5 (ptr self.nickName) with
  | error e => exact looks (looks_gumReturnWithError _ _)
  | ok tname =>
    apply Rewrites.bind frame (username _)
    intro _
    apply Rewrites.bind frame (rewrites_getSelf frame)
    intro _
    apply Rewrites.ite
    · exact fun _ => .pure frame _
    · exact fun _ => named

theorem identified_setDaemonUserName (env : Env) :
    Rewrites Identified (setDaemonUserName env) :=
  rewrites_setDaemonUserName frame_identified identified_of_looks
    (identified_modifySelf sameSecret_setMissingRealname)
    (fun _ => identified_modifySelf fun _ => ⟨rfl, rfl, rfl⟩) env

theorem unmoved_findFreeUid (config : GumConfig) : Rewrites Unmoved (findFreeUid config) := by
  apply Rewrites.bind frame_unmoved (rewrites_getSelf frame_unmoved)
  intro self
  cases getDefaultUidRange config self.usertype with
  | none => exact .pure frame_unmoved _
  | some range => exact unmoved_of_looks (looks_findFreeLoop looks_gumFileGetpwuid _ _ _)

/-- The search for a uid; an object that gets one has a name. -/
theorem setUid_identified (env : Env) :
    wp (setUid env) (fun ok t => Identified s t ∧ (ok = true → t.self.pw.pwName.isSome = true))
      s := by
  rw [setUid, wp_bind]
  refine wp_mono (wp_and (identified_setDaemonUserName env s) (wp_setDaemonUserName env)) ?_
  rintro ok t ⟨⟨same, quiet⟩, rfl, self, -⟩
  rw [wp_guard]
  refine ⟨fun _ => ⟨⟨same, quiet⟩, by simp⟩, fun done => ?_⟩
  obtain ⟨u, named⟩ := Option.isSome_iff_exists.mp done
  obtain ⟨name, given⟩ := pwName_named named
  rw [← self u named] at given
  rw [wp_bind, wp_getSelf, wp_bind, wp_liftM]
  refine wp_mono (looks_gumFileGetpwnam _ t.world) ?_
  intro taken w quiet₁
  replace quiet := quiet.trans quiet₁
  rw [wp_ite]
  refine ⟨fun _ => ⟨⟨same, quiet.trans (.error _ _)⟩, fun done => by cases done⟩, fun _ => ?_⟩
  rw [wp_bind]
  refine wp_mono (unmoved_findFreeUid env.config ⟨t.self, w⟩) ?_
  rintro found ⟨object, w₂⟩ ⟨rfl, quiet₂⟩
  replace quiet := quiet.trans quiet₂
  have named : t.self.pw.pwName.isSome = true := Option.isSome_iff_exists.mpr ⟨name, given⟩
  cases found.join with
  | none => exact ⟨⟨same, quiet.trans (.error _ _)⟩, fun done => by cases done⟩
  | some uid =>
    simp only [wp_bind, wp_modifySelf, wp_getSelf, wp_ite, wp_pure]
    have numbered : t.self.SameSecret (t.self.setUidProperty uid) := ⟨rfl, rfl, rfl⟩
    refine ⟨fun _ => ⟨⟨?_, quiet⟩, fun _ => named⟩,
      fun _ => ⟨⟨same.trans numbered, quiet⟩, fun _ => named⟩⟩
    exact (same.trans numbered).trans ⟨rfl, rfl, rfl⟩

/-- What `_set_group` can write. -/
inductive Groups (u : GumdDaemonUser) (env : Env) (f : Files) : Option UInt32 → Files → Prop
  | found {gid} : Groups u env f (some gid) f
  | created {gid f'} : (u.primaryGroup env.config).Adds env f gid f' → Groups u env f gid f'

/-- A new group changes the group and gshadow files. -/
theorem Groups.frame {u : GumdDaemonUser} {env : Env} {f f' : Files} {gid : Option UInt32}
    (groups : u.Groups env f gid f') : f'.passwd = f.passwd ∧ f'.shadow = f.shadow := by
  cases groups with
  | found => exact ⟨rfl, rfl⟩
  | created adds => cases adds <;> exact ⟨rfl, rfl⟩

theorem setGroup_groups (env : Env) :
    wp (setGroup env) (fun ok t => s.world.Balanced t.world ∧ ∃ gid, ok = gid.isSome ∧
      t.self = gid.elim s.self (setGidProperty · s.self) ∧
      s.self.Groups env s.world.files gid t.world.files) s := by
  rw [setGroup, wp_bind, wp_getSelf, wp_bind, wp_liftM]
  refine wp_mono (looks_gumFileGetgrnam _ s.world) ?_
  intro grp w quiet
  cases grp with
  | some grp =>
    refine ⟨quiet.balanced, some grp.grGid, rfl, rfl, ?_⟩
    change s.self.Groups env s.world.files (some grp.grGid) w.files
    rw [quiet.files]
    exact .found
  | none =>
    simp only [wp_bind, wp_liftM, wp_runOn]
    refine wp_mono (GumdDaemonGroup.gumdDaemonGroupAdd_adds env _) ?_
    rintro gid t ⟨balanced, adds⟩
    change (s.self.primaryGroup env.config).Adds env w.files gid t.world.files at adds
    rw [quiet.files] at adds
    replace balanced := quiet.balanced.trans balanced
    cases gid with
    | none => exact ⟨balanced, none, rfl, rfl, .created adds⟩
    | some gid => exact ⟨balanced, some gid, rfl, rfl, .created adds⟩

/-- The names of the groups a new user joins. -/
def defaultGroups (config : GumConfig) (u : GumdDaemonUser) : List Str :=
  ((gumConfigGetString config
    (if u.usertype = .admin then gumConfigGeneralDefAdminGroups
      else gumConfigGeneralDefUsrGroups)).map (gStrsplit · comma)).getD []

theorem joinGroups_joins (uid : UInt32) (added : Bool) (names : List Str) (w : World) :
    wp (joinGroups uid added names) (fun _ t => w.Balanced t ∧
      w.files.Joins names (w.files.IsNamed uid) t.files) w := by
  induction names generalizing added w with
  | nil => exact ⟨.refl _, .refl _ _ _⟩
  | cons name rest ih =>
    rw [joinGroups, wp_bind, wp_runOn]
    have fresh : (gumdDaemonGroupNew.setGroupnameProperty (some name)).group.grPasswd = none := rfl
    refine wp_mono (@GumdDaemonGroup.gumdDaemonGroupAddMember_adds _
      (fun e => w.files.getgrnam name = some e) (fun t self files _ => ?_) uid false) ?_
    · rw [← files]
      exact GumdDaemonGroup.getGroup_named self
    rintro r t ⟨balanced, adds⟩
    have first := adds.joins fresh
    refine wp_mono (ih r t.world) ?_
    rintro _ t' ⟨balanced', later⟩
    rw [Files.isNamed_congr first.passwd] at later
    refine ⟨balanced.trans balanced', (first.mono ?_).trans (later.mono ?_)⟩
    · intro n mem
      exact List.mem_cons.mpr (Or.inl (List.mem_singleton.mp mem))
    · exact fun n mem => List.mem_cons_of_mem _ mem

theorem setDefaultGroups_joins (env : Env) :
    wp (setDefaultGroups env) (fun _ t => t.self = s.self ∧ s.world.Balanced t.world ∧
      s.world.files.Joins (s.self.defaultGroups env.config)
        (s.world.files.IsNamed s.self.pw.pwUid) t.world.files) s := by
  simp only [setDefaultGroups, wp_bind, wp_getSelf, wp_ite, wp_pure, wp_liftM]
  refine ⟨fun _ => ⟨trivial, .refl _, .refl _ _ _⟩, fun _ => ?_⟩
  refine wp_mono (joinGroups_joins _ _ _ _) ?_
  exact fun _ t spec => ⟨trivial, spec⟩

/-- What an addition can write. -/
inductive Adds (u : GumdDaemonUser) (env : Env) (f : Files) : Option UInt32 → Files → Prop
  | group {u' gid f'} : u.SameSecret u' → u'.Groups env f gid f' → Adds u env f none f'
  | passwdOnly {u' gid f₁ pw sp} : u.SameSecret u' → u'.Groups env f (some gid) f₁ →
      u'.Writes env gid pw sp → Adds u env f none (f₁.insertPasswd pw)
  | both {r u' gid f₁ f₂ f₃ pw sp} : u.SameSecret u' → u'.Groups env f (some gid) f₁ →
      u'.Writes env gid pw sp → ¬f.HasShadow sp.spNamp →
      ((f₁.insertPasswd pw).appendShadow sp).SameDb f₂ →
      f₂.Joins (u'.defaultGroups env.config) (f₂.IsNamed pw.pwUid) f₃ →
      r = none ∨ r = some pw.pwUid → Adds u env f r f₃

/-- What an addition can write, where `R` is what `_set_uid` makes sure of. -/
inductive AddsAs (R : GumdDaemonUser → Prop) (env : Env) (f : Files) : Option UInt32 → Files → Prop
  | nothing : AddsAs R env f none f
  | group {u' gid f'} : R u' → u'.Groups env f gid f' → AddsAs R env f none f'
  | passwdOnly {u' gid f₁ pw sp} : R u' → u'.Groups env f (some gid) f₁ →
      u'.Writes env gid pw sp → AddsAs R env f none (f₁.insertPasswd pw)
  | both {r u' gid f₁ f₂ f₃ pw sp} : R u' → u'.Groups env f (some gid) f₁ →
      u'.Writes env gid pw sp → ¬f.HasShadow sp.spNamp →
      ((f₁.insertPasswd pw).appendShadow sp).SameDb f₂ →
      f₂.Joins (u'.defaultGroups env.config) (f₂.IsNamed pw.pwUid) f₃ →
      r = none ∨ r = some pw.pwUid → AddsAs R env f r f₃

/-- Everything a successful or failing addition writes, with a fact about the object it writes. -/
theorem gumdDaemonUserAdd_addsAs (env : Env) {R : GumdDaemonUser → Prop}
    (numbered : s.self.usertype ≠ .none → ∀ w, wp (setUid env) (fun ok t => ok = true → R t.self)
      ⟨s.self.setMissingShell env.config, w⟩) :
    wp (gumdDaemonUserAdd env) (fun r t => s.world.Balanced t.world ∧
      AddsAs R env s.world.files r t.world.files) s := by
  rw [gumdDaemonUserAdd, wp_bind, wp_getSelf, wp_ite]
  refine ⟨fun untyped => ⟨.of_same rfl rfl, .nothing⟩, fun typed => ?_⟩
  rw [wp_bind, wp_modifySelf]
  refine @wp_locked _ _ _ _ (AddsAs R env s.world.files)
    ⟨s.self.setMissingShell env.config, s.world⟩
    (fun denied t files => ⟨.error _ _, .nothing⟩) fun granted t self world => ?_
  change t.world = s.world.afterLock at world
  have files : t.world.files = s.world.files := by rw [world, World.files_afterLock]
  have start : t = ⟨s.self.setMissingShell env.config, t.world⟩ := by
    change t.self = s.self.setMissingShell env.config at self
    rw [← self]
  have holds := numbered typed t.world
  rw [← start] at holds
  rw [wp_bind]
  refine wp_mono (wp_and (setUid_identified env) holds) ?_
  rintro ok t₁ ⟨⟨⟨-, quiet₁⟩, named⟩, holds⟩
  have files₁ : t₁.world.files = s.world.files := quiet₁.files.trans files
  rw [wp_guard]
  refine ⟨fun _ => unlockReturn_spec quiet₁.balanced (by rw [files₁]; exact .nothing), fun done => ?_⟩
  replace named := named done
  replace holds := holds done
  rw [wp_bind]
  refine wp_mono (setGroup_groups env) ?_
  rintro ok t₂ ⟨balanced₂, gid, rfl, self₂, groups⟩
  rw [files₁] at groups
  have balanced := quiet₁.balanced.trans balanced₂
  rw [wp_guard]
  refine ⟨fun _ => unlockReturn_spec balanced (.group holds groups), fun done => ?_⟩
  obtain ⟨gid, rfl⟩ := Option.isSome_iff_exists.mp done
  rw [wp_bind]
  refine wp_mono (wp_setShadowData env) ?_
  rintro ok t₃ ⟨rfl, self₃, quiet₃⟩
  rw [self₂] at self₃ ⊢
  replace balanced := balanced.trans quiet₃.balanced
  rw [← quiet₃.files] at groups
  rw [wp_guard]
  refine ⟨fun _ => unlockReturn_spec balanced (.group holds groups), fun encrypted => ?_⟩
  obtain ⟨pw, sp, writes⟩ := exists_writes named gid encrypted
  have uid : (t₁.self.complete env gid).pw.pwUid = pw.pwUid := by
    obtain ⟨name, -, rfl⟩ := Option.map_eq_some_iff.mp writes.passwd
    rfl
  refine @wp_addEntries _ _ _ _ _ _ writes (self₃ encrypted)
    (fun f f' => f.Joins (t₁.self.defaultGroups env.config) (f.IsNamed pw.pwUid) f')
    (fun v self later => ?_) _ balanced _ ?_ ?_
  · have joins := @setDefaultGroups_joins v env
    rw [self, uid] at joins
    rw [self]
    exact joins
  · rintro f (⟨rfl, -⟩ | ⟨rfl, -⟩)
    · exact .group holds groups
    · exact .passwdOnly holds groups writes
  · intro fresh f₂ f₃ db joins
    refine .both holds groups writes ?_ db joins ?_
    · rwa [Files.HasShadow, groups.frame.2] at fresh
    · split_ifs
      · exact Or.inl rfl
      · exact Or.inr rfl

/-- Everything a successful or failing addition writes. -/
theorem gumdDaemonUserAdd_adds (env : Env) :
    wp (gumdDaemonUserAdd env) (fun r t => s.world.Balanced t.world ∧
      Adds s.self env s.world.files r t.world.files) s := by
  have shell := sameSecret_setMissingShell env.config s.self
  have numbered : ∀ w, wp (setUid env) (fun ok t => ok = true → s.self.SameSecret t.self)
      ⟨s.self.setMissingShell env.config, w⟩ := by
    intro w
    refine wp_mono (setUid_identified env) ?_
    exact fun ok t spec _ => shell.trans spec.1.1
  refine wp_mono (gumdDaemonUserAdd_addsAs env fun _ => numbered) ?_
  rintro r t ⟨balanced, adds⟩
  refine ⟨balanced, ?_⟩
  generalize t.world.files = f' at adds ⊢
  cases adds with
  | nothing => exact .group (.refl _) (@Groups.found _ _ _ 0)
  | group same groups => exact .group same groups
  | passwdOnly same groups writes => exact .passwdOnly same groups writes
  | both same groups writes fresh db joins result =>
    exact .both same groups writes fresh db joins result

/-- A step that must succeed for the operation to return a value. -/
theorem wp_orNone {α : Type} {m : UserM Bool} {rest : UserM (Option α)}
    {Q : Option α → St GumdDaemonUser → Prop} (exits : ∀ t, Q none t)
    (step : wp m (fun ok t => ok = true → wp rest Q t) s) :
    wp (m >>= fun ok => if !ok then unlockReturn none else rest) Q s := by
  rw [wp_bind]
  refine wp_mono step ?_
  intro ok t continues
  rw [wp_guard]
  exact ⟨fun _ => exits _, continues⟩

/-- The object of a successful addition is the one whose record is in the passwd file, and the uid it
reports is the object's. -/
theorem gumdDaemonUserAdd_object (env : Env) :
    wp (gumdDaemonUserAdd env) (fun r t => ∀ uid, r = some uid → t.self.pw.pwUid = uid ∧
      ∃ pw, t.self.pw.putpwent = some pw ∧
        t.world.files.passwd = insertFirst (pw.pwUid < ·.pwUid) pw s.world.files.passwd) s := by
  rw [gumdDaemonUserAdd, wp_bind, wp_getSelf, wp_ite]
  refine ⟨fun untyped _ returned => (by cases returned), fun typed => ?_⟩
  rw [wp_bind, wp_modifySelf, wp_bind, wp_liftM, wp_gumLockPwdfLock, wp_guard]
  refine ⟨fun denied _ returned => (by cases returned), fun granted => ?_⟩
  refine wp_orNone (fun _ _ returned => by cases returned) (wp_mono (setUid_identified env) ?_)
  rintro ok t₁ ⟨⟨-, quiet₁⟩, -⟩ -
  refine wp_orNone (fun _ _ returned => by cases returned) (wp_mono (setGroup_groups env) ?_)
  rintro ok t₂ ⟨-, gid, -, -, groups⟩ -
  refine wp_orNone (fun _ _ returned => by cases returned) (wp_mono (wp_setShadowData env) ?_)
  rintro ok t₃ ⟨-, -, quiet₃⟩ -
  have passwd₃ : t₃.world.files.passwd = s.world.files.passwd := by
    rw [quiet₃.files, groups.frame.1, quiet₁.files]
    exact congrArg Files.passwd (World.files_afterLock _)
  refine wp_orNone (fun _ _ returned => by cases returned)
    (wp_mono (writesAs_updatePasswdFile t₃.self .add none t₃ rfl) ?_)
  rintro ok t₄ ⟨self₄, -, written⟩ rfl
  obtain ⟨pw, put, passwd₄⟩ : ∃ pw, t₃.self.pw.putpwent = some pw ∧ t₄.world.files.passwd =
      insertFirst (pw.pwUid < ·.pwUid) pw s.world.files.passwd := by
    rcases written with ⟨failed, -⟩ | ⟨-, written⟩
    · cases failed
    simp only [DbFile.rewrite, passwdFile, updatePasswdEntry_add] at written
    cases put : t₃.self.pw.putpwent with
    | none => simp [put, Except.map] at written
    | some pw =>
      have uid : t₃.self.pw.pwUid = pw.pwUid := by
        obtain ⟨name, -, rfl⟩ := Option.map_eq_some_iff.mp put
        rfl
      simp only [put, Option.elim_some, Except.map, Except.ok.injEq, uid, passwd₃] at written
      exact ⟨pw, rfl, by rw [← written]⟩
  refine wp_orNone (fun _ _ returned => by cases returned)
    (wp_mono (writesAs_updateShadowFile t₄.self .add none t₄ rfl) ?_)
  rintro ok t₅ ⟨self₅, -, written⟩ rfl
  have passwd₅ : t₅.world.files.passwd = t₄.world.files.passwd := by
    rcases written with ⟨failed, -⟩ | ⟨-, written⟩
    · cases failed
    · obtain ⟨entries, out, -, -, changed⟩ := DbFile.rewrite_ok written
      rw [changed]
      rfl
  rw [wp_bind]
  refine wp_mono (wp_addUserinfo _) ?_
  rintro _ t₆ ⟨self₆, -, db⟩
  rw [wp_bind]
  refine wp_mono (setDefaultGroups_joins env) ?_
  rintro _ t₇ ⟨self₇, -, joins⟩
  refine wp_orNone (fun _ _ returned => by cases returned) (wp_mono (wp_createHomeDir env) ?_)
  rintro ok t₈ ⟨-, self₈, quiet₈⟩ -
  rw [wp_bind, wp_getSelf, wp_unlockReturn]
  intro uid returned
  refine ⟨Option.some.inj returned, pw, ?_, ?_⟩
  · rw [self₈, self₇, self₆, self₅, self₄]
    exact put
  · rw [World.files_afterUnlock, quiet₈.files, joins.passwd, db.passwd, passwd₅, passwd₄]

end GumdDaemonUser

end Gumd
