import Gumd.Searches
import Gumd.System

/-!
# What an update of a group changes

`gumd_daemon_group_update` writes the member lists of its object.  An object that has been used
before holds the lists of an earlier time.
-/

namespace Gumd

open StateWp EntryLoop

/-! ## The lists of the group -/

/-- The files differ at most in the passwords of the group. -/
def Files.OnlyPasswords (f f' : Files) (entry : Group) : Prop :=
  ∃ grPasswd sgPasswd, f' = { f with
    group := modifyFirst (fun e => entry.grGid = e.grGid ∧ entry.grName = e.grName)
      (fun e => { e with grPasswd := grPasswd }) f.group
    gshadow := f.gshadow.map (modifyFirst (fun e => entry.grName = e.sgNamp)
      fun e => { e with sgPasswd := sgPasswd }) }

/-- Such files list the same members. -/
theorem Files.OnlyPasswords.grMem {f f' : Files} {entry : Group} (only : f.OnlyPasswords f' entry) :
    f'.group.map (·.grMem) = f.group.map (·.grMem) := by
  obtain ⟨grPasswd, sgPasswd, rfl⟩ := only
  refine map_modifyFirst ?_ f.group
  exact fun _ _ => rfl

namespace GumdDaemonGroup

/-- What the object would write besides its passwords is what the files hold: it holds no name and
no lists of its own, or the same ones. -/
structure Current (g : GumdDaemonGroup) (w : World) (entry : Group) : Prop where
  grMem : g.group.grMem.getD entry.grMem = entry.grMem
  gshadow : ∀ sg, w.files.getsgnam entry.grName = some sg →
    g.gshadow.sgNamp.getD entry.grName = entry.grName ∧
    g.gshadow.sgAdm.getD ((w.seenSgrp entry.grName).elim [] (·.sgAdm)) = sg.sgAdm ∧
    g.gshadow.sgMem.getD ((w.seenSgrp entry.grName).elim [] (·.sgMem)) = sg.sgMem

/-- What an update takes from the gshadow entry it has found. -/
theorem copyGshadowStruct_unset {name : Str} {sg : Option Sgrp}
    (named : ∀ e, sg = some e → e.sgNamp = name) (record : SgrpRecord) :
    (∀ n, (copyGshadowStruct sg true record).sgNamp = some n → record.sgNamp.getD name = n) ∧
      (copyGshadowStruct sg true record).sgAdm.getD [] =
        record.sgAdm.getD (sg.elim [] (·.sgAdm)) ∧
      (copyGshadowStruct sg true record).sgMem.getD [] =
        record.sgMem.getD (sg.elim [] (·.sgMem)) := by
  obtain ⟨sgNamp, sgPasswd, sgAdm, sgMem⟩ := record
  cases sg with
  | none =>
    refine ⟨fun n own => ?_, rfl, rfl⟩
    change sgNamp = some n at own
    rw [own]
    rfl
  | some e =>
    rw [← named e rfl]
    cases sgNamp <;> cases sgAdm <;> cases sgMem <;> simp [copyGshadowStruct]

/-- A rewrite of a gshadow entry by name. -/
theorem updateGshadowEntry_ok {g : GumdDaemonGroup} {name : Str} {entries out : List Sgrp}
    (edited : updateGshadowEntry g .modify (some name) entries = .ok out) :
    ∃ e new, entries.find? (fun e => name = e.sgNamp) = some e ∧ g.gshadow.putsgent = some new ∧
      out = modifyFirst (fun e => name = e.sgNamp) (fun _ => new) entries := by
  rw [updateGshadowEntry_modify] at edited
  split_ifs at edited with listed
  obtain ⟨x, mem, same⟩ := List.any_eq_true.mp listed
  have named : name = x.sgNamp := Option.some.inj (of_decide_eq_true same)
  obtain ⟨e, found⟩ := Option.isSome_iff_exists.mp
    (List.find?_isSome (p := fun e : Sgrp => decide (name = e.sgNamp)) |>.mpr
      ⟨x, mem, decide_eq_true named⟩)
  cases put : g.gshadow.putsgent with
  | none => simp [put] at edited
  | some new =>
    refine ⟨e, new, found, rfl, ?_⟩
    simpa [put, @eq_comm _ _ out] using edited

/-- Such an update keeps everything but the passwords exactly if the object is current. -/
theorem onlyPasswords_iff {g : GumdDaemonGroup} {env : Env} {w : World} {entry : Group} {f' : Files}
    (found : w.seenGroup g.group = some entry) (valid : g.group.grGid ≠ gumGroupInvalidGid)
    (written : Rewritten (g.updated env entry (w.seenSgrp entry.grName)) entry
      (Files.rewriteGshadow (updateGshadowEntry (g.updated env entry (w.seenSgrp entry.grName))
        .modify (some entry.grName))) w.files true f') :
    w.files.OnlyPasswords f' entry ↔ g.Current w entry := by
  obtain ⟨agrees, picked⟩ := World.seenGroup_some found
  cases written with
  | @both new _ put second =>
    -- the group entry
    have key : new.grName = entry.grName ∧ new.grGid = entry.grGid ∧
        new.grMem = g.group.grMem.getD entry.grMem := by
      obtain ⟨n, given, rfl⟩ := Option.map_eq_some_iff.mp put
      refine ⟨eq_of_updated_name agrees (by rw [given, ptr_some]), ?_, ?_⟩
      · have own := (GroupRecord.agrees_iff.mp agrees).1.resolve_left valid
        exact (grGid_updated g env entry _).trans own
      · simp only [grMem_updated, Option.getD_some]
    have group : ∀ p, modifyFirst (fun e => entry.grGid = e.grGid ∧ entry.grName = e.grName)
        (fun _ => new) w.files.group =
      modifyFirst (fun e => entry.grGid = e.grGid ∧ entry.grName = e.grName)
        (fun e => { e with grPasswd := p }) w.files.group ↔
      p = new.grPasswd ∧ g.group.grMem.getD entry.grMem = entry.grMem := by
      intro p
      rw [modifyFirst_inj picked]
      obtain ⟨grName, grPasswd, grGid, grMem⟩ := new
      obtain ⟨rfl, rfl, rfl⟩ := key
      simp [@eq_comm _ p]
    have whole : ∀ gshadow, w.files.OnlyPasswords
        { w.files.replaceGroup entry new with gshadow := gshadow } entry ↔
        g.group.grMem.getD entry.grMem = entry.grMem ∧ ∃ q, gshadow = w.files.gshadow.map
          (modifyFirst (fun e => entry.grName = e.sgNamp) fun e => { e with sgPasswd := q }) := by
      intro gshadow
      constructor
      · rintro ⟨p, q, same⟩
        exact ⟨((group p).mp (congrArg Files.group same)).2, q, congrArg Files.gshadow same⟩
      · rintro ⟨kept, q, rfl⟩
        refine ⟨new.grPasswd, q, ?_⟩
        rw [← (group new.grPasswd).mpr ⟨rfl, kept⟩]
        rfl
    rcases Files.rewriteGshadow_ok second with ⟨absent, rfl⟩ | ⟨entries, out, present, edited, rfl⟩
    · change w.files.gshadow = none at absent
      have unlisted : w.files.getsgnam entry.grName = none := by
        rw [Files.getsgnam, absent]
        rfl
      refine (whole w.files.gshadow).trans ⟨fun kept => ⟨kept.1, by simp [unlisted]⟩, fun current =>
        ⟨current.grMem, [], ?_⟩⟩
      rw [absent]
      rfl
    · change w.files.gshadow = some entries at present
      obtain ⟨e, newSg, listed, putSg, rfl⟩ := updateGshadowEntry_ok edited
      have stored : w.files.getsgnam entry.grName = some e := by
        rw [Files.getsgnam, present, Option.getD_some]
        simpa only [beq_eq_decide, @eq_comm _ entry.grName] using listed
      have own : entry.grName = e.sgNamp := by simpa using List.find?_some listed
      have seen : ∀ x, w.seenSgrp entry.grName = some x → x.sgNamp = entry.grName := by
        intro x seen
        rw [World.seenSgrp] at seen
        split_ifs at seen
        simpa using List.find?_some seen
      obtain ⟨sgNamp, sgAdm, sgMem⟩ := copyGshadowStruct_unset seen g.gshadow
      obtain ⟨n, given, rfl⟩ := Option.map_eq_some_iff.mp putSg
      rw [gshadow_updated] at given
      rw [whole, present]
      simp only [gshadow_updated, Option.map_some, Option.some.injEq, modifyFirst_inj listed,
        Sgrp.mk.injEq, sgAdm, sgMem, ← sgNamp n given]
      constructor
      · rintro ⟨grMem, q, name, -, adm, mem⟩
        refine ⟨grMem, fun sg found => ?_⟩
        obtain rfl := Option.some.inj (stored.symm.trans found)
        exact ⟨name.trans own.symm, adm, mem⟩
      · intro current
        obtain ⟨name, adm, mem⟩ := current.gshadow e stored
        exact ⟨current.grMem, _, name.trans own, rfl, adm, mem⟩

/-- An update that succeeds keeps everything but the passwords exactly if its object is current. -/
theorem gumdDaemonGroupUpdate_onlyPasswords_iff (env : Env) (s : St GumdDaemonGroup) :
    wp (gumdDaemonGroupUpdate env) (fun r t => r = true → ∃ entry,
      s.world.seenGroup s.self.group = some entry ∧
      (s.world.files.OnlyPasswords t.world.files entry ↔ s.self.Current s.world entry)) s := by
  refine wp_mono (@gumdDaemonGroupUpdate_updates s (fun entry sg =>
    s.self.group.grGid ≠ gumGroupInvalidGid ∧ s.world.seenGroup s.self.group = some entry ∧
      sg = s.world.seenSgrp entry.grName) (fun valid => ?_) env) ?_
  · refine wp_mono (@wp_getGroup_seen ⟨s.self, s.world.afterLock⟩ valid) ?_
    rintro r u ⟨rfl, self, sought⟩
    refine ⟨fun entry found => ?_, self, sought.quiet⟩
    replace found : s.world.seenGroup s.self.group = some entry := by
      rw [World.seenGroup, ← World.search_afterLock]
      exact found
    refine ⟨(World.seenGroup_some found).1, wp_mono (wp_gumFileGetsgnam_seen _ _) ?_⟩
    rintro sg w ⟨rfl, quiet, -⟩
    refine ⟨⟨valid, found, ?_⟩, quiet⟩
    rw [World.seenSgrp, World.seenSgrp, sought.readShadow, sought.quiet.files,
      World.files_afterLock, World.readShadow_afterLock]
  · rintro r t ⟨-, updates⟩ rfl
    generalize t.world.files = f' at updates ⊢
    cases updates with
    | rewritten sought agrees rekeys written =>
      obtain ⟨valid, found, rfl⟩ := sought
      exact ⟨_, found, onlyPasswords_iff found valid written⟩

end GumdDaemonGroup

namespace Sample

/-- Two objects of one group are loaded, alice is removed from the group through one of them, and the
other gets a new secret. -/
def revoked : System := system.run
  [call (.groupNewByGid 0 50), call (.groupNewByGid 1 50), call (.groupDeleteMember 1 1000),
    call (.groupSet 0 (.secret (str "pw")))]

/-- The update of the other object makes alice a member again. -/
theorem groupUpdate_restores_member :
    (revoked.call (call (.groupUpdate 0))).1 = true ∧ ¬∃ entry,
      revoked.files.OnlyPasswords (revoked.step (call (.groupUpdate 0))).files entry := by
  constructor
  · decide +kernel
  · rintro ⟨entry, only⟩
    have members := only.grMem
    revert members
    decide +kernel

end Sample

end Gumd
