import Gumd.FileSteps

/-!
# One entry at a time

A rewrite of the passwd or group file adds, removes or replaces one entry and leaves the others where
they are.  A file sorted by id stays sorted, and so it does over every run.
-/

namespace Gumd

open StateWp EntryLoop

/-! ## One edit -/

section Edit

variable {ε : Type} {fits : ε → Prop} {put : Option ε} {key : ε → UInt32} {entries : List ε}

/-- What one edit makes of a list: `fits` tells the entries it may remove or replace, and `put` is the
entry it writes. -/
inductive EditsOne (fits : ε → Prop) (put : Option ε) : GumOpType → List ε → List ε → Prop
  | add {new : ε} {before after : List ε} : put = some new →
      EditsOne fits put .add (before ++ after) (before ++ new :: after)
  | delete {old : ε} {before after : List ε} : fits old →
      EditsOne fits put .delete (before ++ old :: after) (before ++ after)
  | modify {old new : ε} {before after : List ε} : fits old → put = some new →
      EditsOne fits put .modify (before ++ old :: after) (before ++ new :: after)

/-- The entries are in the order of a number. -/
def SortedBy (key : ε → UInt32) (entries : List ε) : Prop :=
  entries.Pairwise fun a b => key a ≤ key b

instance (key : ε → UInt32) (entries : List ε) : Decidable (SortedBy key entries) :=
  inferInstanceAs (Decidable (entries.Pairwise _))

/-- A rewrite that edits one entry, keeps an order, and fails only where no entry fits, as long as
the entry it writes is accepted. -/
structure RewritesOne (key : ε → UInt32) (fits : ε → Prop) (put : Option ε) (op : GumOpType)
    (entries : List ε) (result : Except GError (List ε)) : Prop where
  edits : ∀ out, result = .ok out → EditsOne fits put op entries out
  sorted : ∀ out, result = .ok out → SortedBy key entries → SortedBy key out
  refuses : ∀ e, result = .error e → op = .delete ∨ put.isSome = true →
    op ≠ .add ∧ ∀ x ∈ entries, ¬fits x

theorem rewritesOne_insert {id : UInt32} {e : GError} (own : ∀ new, put = some new → key new = id) :
    RewritesOne key fits put .add entries
      (put.elim (.error e) fun new => .ok (insertFirst (id < key ·) new entries)) := by
  cases put with
  | none => exact ⟨by simp, by simp, by simp⟩
  | some new =>
    obtain rfl := own new rfl
    refine ⟨?_, ?_, by simp⟩
    · intro out written
      cases written
      obtain ⟨before, after, rfl, inserted⟩ :=
        exists_insertFirst (fun e => decide (key new < key e)) new entries
      rw [inserted]
      exact .add rfl
    · intro out written sorted
      cases written
      apply pairwise_insertFirst _ _ _ sorted
      · exact fun a b c => UInt32.le_trans
      · intro x picked
        exact UInt32.le_of_lt (of_decide_eq_true picked)
      · intro x passed
        exact UInt32.not_lt.mp (of_decide_eq_false passed)

variable [DecidablePred fits]

theorem rewritesOne_erase {e : GError} :
    RewritesOne key fits put .delete entries
      (if entries.any (fits ·) then .ok (entries.eraseP (fits ·)) else .error e) := by
  constructor
  · intro out written
    split_ifs at written with found
    cases written
    obtain ⟨x, mem, fit⟩ := List.any_eq_true.mp found
    obtain ⟨old, before, after, -, picked, rfl, erased⟩ := List.exists_of_eraseP (p := (fits ·)) mem fit
    rw [erased]
    exact .delete (of_decide_eq_true picked)
  · intro out written sorted
    split_ifs at written with found
    cases written
    exact sorted.sublist List.eraseP_sublist
  · intro e failed _
    split_ifs at failed with found
    refine ⟨by simp, ?_⟩
    intro x mem fit
    exact found (List.any_eq_true.mpr ⟨x, mem, decide_eq_true fit⟩)

theorem rewritesOne_modify {e e' : GError}
    (same : ∀ new old, put = some new → fits old → key new = key old) :
    RewritesOne key fits put .modify entries
      (if entries.any (fits ·) then
        put.elim (.error e) fun new => .ok (modifyFirst (fits ·) (fun _ => new) entries)
      else .error e') := by
  constructor
  · intro out written
    split_ifs at written with found
    cases put with
    | none => cases written
    | some new =>
      cases written
      obtain ⟨old, first⟩ := Option.isSome_iff_exists.mp
        (List.find?_isSome.mpr (List.any_eq_true.mp found))
      have picked := List.find?_some first
      obtain ⟨before, after, rfl, -, modified⟩ := modifyFirst_eq (f := fun _ => new) first
      rw [modified]
      exact .modify (of_decide_eq_true picked) rfl
  · intro out written sorted
    split_ifs at written with found
    cases put with
    | none => cases written
    | some new =>
      cases written
      have keys : (modifyFirst (fits ·) (fun _ => new) entries).map key = entries.map key :=
        map_modifyFirst (fun old picked => same new old rfl (of_decide_eq_true picked)) entries
      rw [SortedBy, ← List.pairwise_map] at sorted ⊢
      rwa [keys]
  · intro e failed accepted
    split_ifs at failed with found
    · cases put with
      | none => simp at accepted
      | some new => cases failed
    · refine ⟨by simp, ?_⟩
      intro x mem fit
      exact found (List.any_eq_true.mpr ⟨x, mem, decide_eq_true fit⟩)

end Edit

/-! ## The callbacks -/

/-- The name by which a callback finds its entry: a change is made at the old name. -/
def matchedName (op : GumOpType) (userData name : Option Str) : Option Str :=
  if op = .modify then userData.or name else name

/-- The entries that are the user's, by the name the callback looks for. -/
def GumdDaemonUser.Matches (u : GumdDaemonUser) (name : Option Str) (e : Passwd) : Prop :=
  u.pw.pwUid = e.pwUid ∧ u.pw.pwGid = e.pwGid ∧ name = some e.pwName

/-- The entries that are the group's, by the name the callback looks for. -/
def GumdDaemonGroup.Matches (g : GumdDaemonGroup) (name : Option Str) (e : Group) : Prop :=
  g.group.grGid = e.grGid ∧ name = some e.grName

instance (u : GumdDaemonUser) (name : Option Str) : DecidablePred (u.Matches name) :=
  fun e => inferInstanceAs (Decidable (_ ∧ _ ∧ name = some e.pwName))

instance (g : GumdDaemonGroup) (name : Option Str) : DecidablePred (g.Matches name) :=
  fun e => inferInstanceAs (Decidable (_ ∧ name = some e.grName))

theorem PasswdRecord.pwUid_of_putpwent {pw : PasswdRecord} {new : Passwd}
    (put : pw.putpwent = some new) : new.pwUid = pw.pwUid := by
  obtain ⟨name, -, rfl⟩ := Option.map_eq_some_iff.mp put
  rfl

theorem GroupRecord.grGid_of_putgrent {gr : GroupRecord} {new : Group}
    (put : gr.putgrent = some new) : new.grGid = gr.grGid := by
  obtain ⟨name, -, rfl⟩ := Option.map_eq_some_iff.mp put
  rfl

theorem rewritesOne_updatePasswdEntry (u : GumdDaemonUser) (op : GumOpType)
    (userData : Option Str) (entries : List Passwd) :
    RewritesOne Passwd.pwUid (u.Matches (matchedName op userData (ptr u.pw.pwName))) u.pw.putpwent
      op entries (updatePasswdEntry u op userData entries) := by
  cases op with
  | add =>
    rw [updatePasswdEntry_add]
    exact rewritesOne_insert fun new put => PasswdRecord.pwUid_of_putpwent put
  | delete =>
    rw [updatePasswdEntry_delete]
    exact rewritesOne_erase
  | modify =>
    rw [updatePasswdEntry_modify]
    apply rewritesOne_modify
    intro new old put fit
    exact (PasswdRecord.pwUid_of_putpwent put).trans fit.1

theorem rewritesOne_updateDaemonGroupEntry (g : GumdDaemonGroup) (op : GumOpType)
    (userData : Option Str) (entries : List Group) :
    RewritesOne Group.grGid (g.Matches (matchedName op userData (ptr g.group.grName)))
      g.group.putgrent op entries (updateDaemonGroupEntry g op userData entries) := by
  cases op with
  | add =>
    rw [updateDaemonGroupEntry_add]
    exact rewritesOne_insert fun new put => GroupRecord.grGid_of_putgrent put
  | delete =>
    rw [updateDaemonGroupEntry_delete]
    exact rewritesOne_erase
  | modify =>
    rw [updateDaemonGroupEntry_modify]
    apply rewritesOne_modify
    intro new old put fit
    exact (GroupRecord.grGid_of_putgrent put).trans fit.1

/-! ## Runs -/

/-- What one rewrite keeps of the order of the entries. -/
def KeepsOrder (f f' : Files) : Prop :=
  (SortedBy Passwd.pwUid f.passwd → SortedBy Passwd.pwUid f'.passwd) ∧
    (SortedBy Group.grGid f.group → SortedBy Group.grGid f'.group)

theorem frame_keepsOrder : Frame KeepsOrder :=
  ⟨fun _ => ⟨id, id⟩, fun first second => ⟨second.1 ∘ first.1, second.2 ∘ first.2⟩⟩

theorem GroupStep.keepsOrder {f f' : Files} (step : GroupStep f f') : KeepsOrder f f' := by
  cases step with
  | group g op userData written =>
    obtain ⟨entries, out, present, copied, rfl⟩ := DbFile.rewrite_ok written
    cases present
    exact ⟨id, (rewritesOne_updateDaemonGroupEntry g op userData f.group).sorted out copied⟩
  | gshadow g op userData written =>
    obtain ⟨entries, out, -, -, rfl⟩ := DbFile.rewrite_ok written
    exact ⟨id, id⟩
  | groupMembers name written =>
    obtain ⟨entries, out, present, copied, rfl⟩ := DbFile.rewrite_ok written
    cases present
    cases copied
    refine ⟨id, ?_⟩
    intro sorted
    exact List.pairwise_map.mpr sorted
  | gshadowMembers name written =>
    obtain ⟨entries, out, -, -, rfl⟩ := DbFile.rewrite_ok written
    exact ⟨id, id⟩

theorem UserStep.keepsOrder {f f' : Files} (step : UserStep f f') : KeepsOrder f f' := by
  cases step with
  | group step => exact step.keepsOrder
  | passwd u op userData written =>
    obtain ⟨entries, out, present, copied, rfl⟩ := DbFile.rewrite_ok written
    cases present
    exact ⟨(rewritesOne_updatePasswdEntry u op userData f.passwd).sorted out copied, id⟩
  | shadow u op userData written =>
    obtain ⟨entries, out, -, -, rfl⟩ := DbFile.rewrite_ok written
    exact ⟨id, id⟩
  | lock u lock written =>
    obtain ⟨entries, out, -, -, rfl⟩ := DbFile.rewrite_ok written
    exact ⟨id, id⟩
  | userinfo uid info => exact ⟨id, id⟩

/-- A rewrite of the passwd or group file edits one entry and keeps the order by id, and so does every
run of operations. -/
theorem rewrites_edit_one_and_keep_order :
    (∀ (u : GumdDaemonUser) (op : GumOpType) (userData : Option Str) (entries : List Passwd),
      RewritesOne Passwd.pwUid (u.Matches (matchedName op userData (ptr u.pw.pwName)))
        u.pw.putpwent op entries (updatePasswdEntry u op userData entries)) ∧
      (∀ (g : GumdDaemonGroup) (op : GumOpType) (userData : Option Str) (entries : List Group),
        RewritesOne Group.grGid (g.Matches (matchedName op userData (ptr g.group.grName)))
          g.group.putgrent op entries (updateDaemonGroupEntry g op userData entries)) ∧
      ∀ (s : System) (calls : List Call), KeepsOrder s.files (s.run calls).files := by
  refine ⟨rewritesOne_updatePasswdEntry, rewritesOne_updateDaemonGroupEntry, ?_⟩
  intro s calls
  exact frame_keepsOrder.of_steps (fun _ _ step => step.keepsOrder) (s.run_steps calls)

end Gumd
