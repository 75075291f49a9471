import Gumd.DaemonUser

/-!
# Rules for the rewrite callbacks

What the `_update_*_entry` callbacks make of the entries of a file, as list functions.
-/

namespace Gumd

open StateWp EntryLoop

/-! ## The loops with their ends -/

section Finish

variable {ε : Type} {p : ε → Prop} [DecidablePred p] {addError incomplete : GError}

theorem finishUpdate_insert (put : Option ε) (entries : List ε) :
    finishUpdate .add put addError incomplete
        (copyLoop (fun e => if p e then putVisit put .insert else .keep) false entries) =
      put.elim (.error (if entries.any (p ·) then fileWriteFailure else addError)) fun new =>
          .ok (insertFirst (p ·) new entries) := by
  cases put with
  | none =>
    simp only [putVisit, copyLoop_refuse]
    split_ifs <;> rfl
  | some new =>
    simp only [putVisit, copyLoop_insert]
    cases picked : entries.any (p ·) with
    | true => rfl
    | false => simp [finishUpdate, insertFirst_of_not_any picked]

theorem finishUpdate_drop (put : Option ε) (entries : List ε) :
    finishUpdate .delete put addError incomplete
        (copyLoop (fun e => if p e then .drop else .keep) false entries) =
      if entries.any (p ·) then .ok (entries.eraseP (p ·)) else .error incomplete := by
  rw [copyLoop_drop]
  cases entries.any (p ·) <;> rfl

theorem finishUpdate_replace (put : Option ε) (f : ε → ε) (entries : List ε) :
    finishUpdate .modify put addError incomplete
        (copyLoop (fun e => if p e then .replace (f e) else .keep) false entries) =
      if entries.any (p ·) then .ok (modifyFirst (p ·) f entries) else .error incomplete := by
  rw [copyLoop_replace]
  cases entries.any (p ·) <;> rfl

theorem finishUpdate_put (put : Option ε) (entries : List ε) :
    finishUpdate .modify put addError incomplete
        (copyLoop (fun e => if p e then putVisit put .replace else .keep) false entries) =
      if entries.any (p ·) then
        put.elim (.error fileWriteFailure) fun new =>
          .ok (modifyFirst (p ·) (fun _ => new) entries)
      else .error incomplete := by
  cases put with
  | none =>
    simp only [putVisit, copyLoop_refuse]
    split_ifs <;> rfl
  | some new =>
    simp only [putVisit]
    exact finishUpdate_replace _ (fun _ => new) entries

theorem finishUpdate_refuse (put : Option ε) (err : GError) (entries : List ε) :
    finishUpdate .add put addError incomplete
        (copyLoop (fun e => if p e then .refuse err else .keep) false entries) =
      if entries.any (p ·) then .error err
      else put.elim (.error addError) fun new => .ok (entries ++ [new]) := by
  rw [copyLoop_refuse]
  split_ifs
  · rfl
  · cases put <;> rfl

end Finish

/-! ## Group entries -/

section Group

variable (g : GumdDaemonGroup)

theorem updateDaemonGroupEntry_add (userData : Option Str) (entries : List Group) :
    updateDaemonGroupEntry g .add userData entries =
      g.group.putgrent.elim (.error fileWriteFailure) fun new =>
        .ok (insertFirst (g.group.grGid < ·.grGid) new entries) := by
  simp only [updateDaemonGroupEntry, finishUpdate_insert, ite_self]

theorem updateDaemonGroupEntry_delete (userData : Option Str) (entries : List Group) :
    updateDaemonGroupEntry g .delete userData entries =
      if entries.any fun e => g.group.grGid = e.grGid ∧ ptr g.group.grName = some e.grName then
        .ok (entries.eraseP fun e =>
          g.group.grGid = e.grGid ∧ ptr g.group.grName = some e.grName)
      else .error fileWriteFailure := by
  simp only [updateDaemonGroupEntry, finishUpdate_drop, gStrcmp0_eq_zero]

theorem updateDaemonGroupEntry_modify (userData : Option Str) (entries : List Group) :
    updateDaemonGroupEntry g .modify userData entries =
      if entries.any fun e =>
          g.group.grGid = e.grGid ∧ userData.or (ptr g.group.grName) = some e.grName then
        g.group.putgrent.elim (.error fileWriteFailure) fun new =>
          .ok (modifyFirst (fun e =>
            g.group.grGid = e.grGid ∧ userData.or (ptr g.group.grName) = some e.grName)
            (fun _ => new) entries)
      else .error fileWriteFailure := by
  simp only [updateDaemonGroupEntry, finishUpdate_put, gStrcmp0_eq_zero]

theorem updateGshadowEntry_add (userData : Option Str) (entries : List Sgrp) :
    updateGshadowEntry g .add userData entries =
      if entries.any fun e => g.gshadow.sgNamp = some e.sgNamp then
        .error ⟨.groupAlreadyExists, "Group already exists"⟩
      else g.gshadow.putsgent.elim (.error fileWriteFailure) fun new => .ok (entries ++ [new]) := by
  simp only [updateGshadowEntry, finishUpdate_refuse, gStrcmp0_eq_zero]

theorem updateGshadowEntry_delete (userData : Option Str) (entries : List Sgrp) :
    updateGshadowEntry g .delete userData entries =
      if entries.any fun e => g.gshadow.sgNamp = some e.sgNamp then
        .ok (entries.eraseP fun e => g.gshadow.sgNamp = some e.sgNamp)
      else .error fileWriteFailure := by
  simp only [updateGshadowEntry, finishUpdate_drop, gStrcmp0_eq_zero]

theorem updateGshadowEntry_modify (userData : Option Str) (entries : List Sgrp) :
    updateGshadowEntry g .modify userData entries =
      if entries.any fun e => userData.or g.gshadow.sgNamp = some e.sgNamp then
        g.gshadow.putsgent.elim (.error fileWriteFailure) fun new =>
          .ok (modifyFirst (fun e => userData.or g.gshadow.sgNamp = some e.sgNamp)
            (fun _ => new) entries)
      else .error fileWriteFailure := by
  simp only [updateGshadowEntry, finishUpdate_put, gStrcmp0_eq_zero]

end Group

/-! ## User entries -/

section User

variable (u : GumdDaemonUser)

theorem updatePasswdEntry_add (userData : Option Str) (entries : List Passwd) :
    updatePasswdEntry u .add userData entries =
      u.pw.putpwent.elim (.error (if entries.any (u.pw.pwUid < ·.pwUid) then fileWriteFailure
        else addEntryFailure)) fun new => .ok (insertFirst (u.pw.pwUid < ·.pwUid) new entries) := by
  simp only [updatePasswdEntry, finishUpdate_insert]

theorem updatePasswdEntry_delete (userData : Option Str) (entries : List Passwd) :
    updatePasswdEntry u .delete userData entries =
      if entries.any fun e => u.pw.pwUid = e.pwUid ∧ u.pw.pwGid = e.pwGid ∧
          ptr u.pw.pwName = some e.pwName then
        .ok (entries.eraseP fun e => u.pw.pwUid = e.pwUid ∧ u.pw.pwGid = e.pwGid ∧
          ptr u.pw.pwName = some e.pwName)
      else .error operationIncomplete := by
  simp only [updatePasswdEntry, finishUpdate_drop, gStrcmp0_eq_zero]

theorem updatePasswdEntry_modify (userData : Option Str) (entries : List Passwd) :
    updatePasswdEntry u .modify userData entries =
      if entries.any fun e => u.pw.pwUid = e.pwUid ∧ u.pw.pwGid = e.pwGid ∧
          userData.or (ptr u.pw.pwName) = some e.pwName then
        u.pw.putpwent.elim (.error fileWriteFailure) fun new =>
          .ok (modifyFirst (fun e => u.pw.pwUid = e.pwUid ∧ u.pw.pwGid = e.pwGid ∧
            userData.or (ptr u.pw.pwName) = some e.pwName) (fun _ => new) entries)
      else .error operationIncomplete := by
  simp only [updatePasswdEntry, finishUpdate_put, gStrcmp0_eq_zero]

theorem lockShadowEntry_eq (lock : Bool) (entries : List Spwd) :
    lockShadowEntry u lock entries =
      if entries.any fun e => ptr u.pw.pwName = some e.spNamp then
        .ok (modifyFirst (fun e => ptr u.pw.pwName = some e.spNamp) (Spwd.relock lock) entries)
      else .error operationIncomplete := by
  simp only [lockShadowEntry, finishUpdate_replace _ (Spwd.relock lock), gStrcmp0_eq_zero]

theorem updateShadowEntry_add (userData : Option Str) (entries : List Spwd) :
    updateShadowEntry u .add userData entries =
      if entries.any fun e => u.shadow.spNamp = some e.spNamp then
        .error ⟨.userAlreadyExists, "File write failure"⟩
      else u.shadow.putspent.elim (.error addEntryFailure) fun new => .ok (entries ++ [new]) := by
  simp only [updateShadowEntry, finishUpdate_refuse, gStrcmp0_eq_zero]

theorem updateShadowEntry_delete (userData : Option Str) (entries : List Spwd) :
    updateShadowEntry u .delete userData entries =
      if entries.any fun e => u.shadow.spNamp = some e.spNamp then
        .ok (entries.eraseP fun e => u.shadow.spNamp = some e.spNamp)
      else .error operationIncomplete := by
  simp only [updateShadowEntry, finishUpdate_drop, gStrcmp0_eq_zero]

theorem updateShadowEntry_modify (userData : Option Str) (entries : List Spwd) :
    updateShadowEntry u .modify userData entries =
      if entries.any fun e => userData.or u.shadow.spNamp = some e.spNamp then
        u.shadow.putspent.elim (.error fileWriteFailure) fun new =>
          .ok (modifyFirst (fun e => userData.or u.shadow.spNamp = some e.spNamp)
            (fun _ => new) entries)
      else .error operationIncomplete := by
  simp only [updateShadowEntry, finishUpdate_put, gStrcmp0_eq_zero]

end User

end Gumd
