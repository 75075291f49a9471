import Gumd.File
import Gumd.Lib.Lines
import Mathlib.Tactic.SplitIfs

/-!
# Rewriting a file

`gum_file_update` path by path: the duplicate beside the source file, the backup, and every system
call that can fail.  `File.gumFileUpdate` is what it comes to for the entries of the source file.
-/

namespace Gumd

open StateWp

/-- Which of the system calls of a rewrite succeed; removing the duplicate always does. -/
structure FileCalls where
  fopenSource : Bool
  fopenDup : Bool
  setSmack64Attr : Bool
  copyFileAttributes : Bool
  fflush : Bool
  fsync : Bool
  fclose : Bool
  unlinkOld : Bool
  link : Bool
  rename : Bool
  deriving DecidableEq, Repr

/-- The files by their paths, with the outcomes of the calls and the caller's `GError`. -/
structure Directory (ε : Type) where
  files : Str → Option (List ε)
  calls : FileCalls
  error : Option GError

/-- The duplicate, opened to be written: its path and what has been written to the stream. -/
structure DupFile (ε : Type) where
  path : Str
  buffer : List ε

/-- A callback writes entries to the duplicate, and may fail after some of them. -/
abbrev GumFileUpdateCB (ε : Type) := List ε → List ε × Option GError

abbrev FileM (ε : Type) := StateM (Directory ε)

namespace Directory

variable {ε : Type}

/-! ## System calls -/

def setFile (path : Str) (content : Option (List ε)) (d : Directory ε) : Directory ε :=
  { d with files := Function.update d.files path content }

/-- `g_unlink` of the duplicate. -/
def gUnlink (path : Str) : FileM ε Unit := modify (setFile path none)

/-- `GUM_SET_ERROR`. -/
def gumSetError (e : GError) : FileM ε Unit := modify fun d => { d with error := some e }

/-- `fopen` to read, which needs the file to exist. -/
def fopenSource (path : Str) : FileM ε (Option (List ε)) := do
  let d ← get
  return if d.calls.fopenSource then d.files path else none

/-- `fopen` to write, which creates the file or empties it. -/
def fopenDup (path : Str) : FileM ε (Option (DupFile ε)) := do
  if !(← get).calls.fopenDup then return none
  modify (setFile path (some []))
  return some ⟨path, []⟩

/-- `fflush`, `fsync` and `fclose` one after another; what the stream holds reaches the file with the
first of them. -/
def flushAndClose (dup : DupFile ε) : FileM ε Bool := do
  if !(← get).calls.fflush then return false
  modify (setFile dup.path (some dup.buffer))
  let calls := (← get).calls
  return calls.fsync && calls.fclose

/-- Unlinking the obsolete backup file, if there is one. -/
def unlinkOld (path : Str) : FileM ε Unit := do
  if (← get).calls.unlinkOld then modify (setFile path none)

/-- `link`, which fails if the new path exists. -/
def link (path newPath : Str) : FileM ε Bool := do
  let d ← get
  if !d.calls.link || (d.files newPath).isSome then return false
  set (d.setFile newPath (d.files path))
  return true

def gRename (path newPath : Str) : FileM ε Bool := do
  let d ← get
  if !d.calls.rename then return false
  set ((d.setFile newPath (d.files path)).setFile path none)
  return true

end Directory

/-! ## `gum-file` -/

section GumFile

variable {ε : Type}

open Directory

/-- `gum_file_open_db_files`: the entries of the source file and the duplicate. -/
def gumFileOpenDbFiles (sourceFilePath dupFilePath : Option Str) :
    FileM ε (Option (List ε × DupFile ε)) := do
  match sourceFilePath, dupFilePath with
  | some sourcePath, some dupPath =>
      match ← fopenSource sourcePath with
      | none =>
          gumSetError FileFault.openSource.error
          return none
      | some source =>
          match ← fopenDup dupPath with
          | none =>
              gumSetError FileFault.openDup.error
              return none
          | some dup =>
              if !(← get).calls.setSmack64Attr then
                gumSetError FileFault.smackAttr.error
                gUnlink dupPath
                return none
              if !(← get).calls.copyFileAttributes then
                gumSetError FileFault.copyAttr.error
                gUnlink dupPath
                return none
              return some (source, dup)
  | _, _ =>
      gumSetError ⟨.fileOpen, "Invalid arguments"⟩
      return none

/-- `"%s.old"`. -/
def oldFilePath (sourcePath : Str) : Str := sourcePath ++ str ".old"

/-- `gum_file_close_db_files`; closing the source file is not checked. -/
def gumFileCloseDbFiles (sourceFilePath : Option Str) (dup : DupFile ε) : FileM ε Bool := do
  if !(← flushAndClose dup) then
    gumSetError FileFault.sync.error
    gUnlink dup.path
    return false
  match sourceFilePath with
  | none =>
      gumSetError ⟨.fileWrite, "null source file path"⟩
      gUnlink dup.path
      return false
  | some sourcePath =>
      unlinkOld (oldFilePath sourcePath)
      -- a missing backup is only logged
      let _ ← link sourcePath (oldFilePath sourcePath)
      if !(← gRename dup.path sourcePath) then
        gumSetError FileFault.move.error
        gUnlink (oldFilePath sourcePath)
        gUnlink dup.path
        return false
      gUnlink dup.path
      return true

/-- `"%s-tmp.%lu"` of the source file and the process. -/
def dupFilePath (sourcePath : Str) (pid : Nat) : Str :=
  sourcePath ++ str "-tmp." ++ Lines.decimal pid

/-- `gum_file_update` of the file at a path. -/
def Directory.gumFileUpdate (callback : Option (GumFileUpdateCB ε)) (sourcePath : Str)
    (pid : Nat) : FileM ε Bool := do
  match ← gumFileOpenDbFiles (some sourcePath) (some (dupFilePath sourcePath pid)) with
  | none => return false
  | some (source, dup) =>
      match callback with
      | none =>
          gumSetError ⟨.fileWrite, "File write function not specified"⟩
          gUnlink dup.path
          return false
      | some callback =>
          match callback source with
          | (_, some e) =>
              gumSetError e
              gUnlink dup.path
              return false
          | (written, none) =>
              gumFileCloseDbFiles (some sourcePath) { dup with buffer := dup.buffer ++ written }

/-! ## What a rewrite comes to -/

/-- The first of the calls that fails before the callback runs. -/
def FileCalls.openFault (calls : FileCalls) : Option FileFault :=
  if !calls.fopenSource then some .openSource
  else if !calls.fopenDup then some .openDup
  else if !calls.setSmack64Attr then some .smackAttr
  else if !calls.copyFileAttributes then some .copyAttr
  else none

/-- The first of the calls that fails after it; a missing backup is no failure. -/
def FileCalls.closeFault (calls : FileCalls) : Option FileFault :=
  if !(calls.fflush && calls.fsync && calls.fclose) then some .sync
  else if !calls.rename then some .move
  else none

theorem FileCalls.late_openFault {calls : FileCalls} {fault : FileFault}
    (first : calls.openFault = some fault) : fault.late = false := by
  rw [FileCalls.openFault] at first
  split_ifs at first <;> cases first <;> rfl

theorem FileCalls.late_closeFault {calls : FileCalls} {fault : FileFault}
    (first : calls.closeFault = some fault) : fault.late = true := by
  rw [FileCalls.closeFault] at first
  split_ifs at first <;> cases first <;> rfl

/-- The failing call, as `File.gumFileUpdate` is told of it. -/
def FileCalls.fault (calls : FileCalls) : Option FileFault := calls.openFault.or calls.closeFault

/-- A callback without what it had written when it failed. -/
def GumFileUpdateCB.result (callback : GumFileUpdateCB ε) (source : List ε) :
    Except GError (List ε) :=
  match callback source with
  | (_, some e) => .error e
  | (written, none) => .ok written

namespace Directory

/-- The new content of the file, or the error. -/
def outcome (d : Directory ε) (callback : GumFileUpdateCB ε) (sourcePath : Str) :
    Except GError (List ε) :=
  match d.files sourcePath with
  | none => .error FileFault.openSource.error
  | some source => updateOutcome d.calls.fault (callback.result source)

/-- Creating the backup link fails. -/
def BackupFails (d : Directory ε) (sourcePath : Str) : Prop :=
  d.calls.link = false ∨
    d.calls.unlinkOld = false ∧ (d.files (oldFilePath sourcePath)).isSome = true

/-- The source file is as it was, and there is no duplicate that was not there before. -/
structure Kept (d t : Directory ε) (sourcePath : Str) (pid : Nat) : Prop where
  source : t.files sourcePath = d.files sourcePath
  dup : ∀ content, t.files (dupFilePath sourcePath pid) = some content →
    d.files (dupFilePath sourcePath pid) = some content
  other : ∀ path, path ≠ dupFilePath sourcePath pid → path ≠ oldFilePath sourcePath →
    t.files path = d.files path

/-- The source file has the new content, and its backup the old one. -/
structure Replaced (d t : Directory ε) (sourcePath : Str) (pid : Nat) (out : List ε) : Prop where
  source : t.files sourcePath = some out
  dup : t.files (dupFilePath sourcePath pid) = none
  old : ¬d.BackupFails sourcePath → t.files (oldFilePath sourcePath) = d.files sourcePath
  other : ∀ path, path ≠ sourcePath → path ≠ dupFilePath sourcePath pid →
    path ≠ oldFilePath sourcePath → t.files path = d.files path

end Directory

/-! ## The paths -/

section Paths

variable (sourcePath : Str) (pid : Nat)

theorem dupFilePath_ne : dupFilePath sourcePath pid ≠ sourcePath := by
  intro same
  have longer := congrArg List.length same
  have tail : (str "-tmp.").length = 5 := by decide
  simp only [dupFilePath, List.length_append, tail] at longer
  omega

theorem oldFilePath_ne : oldFilePath sourcePath ≠ sourcePath := by
  intro same
  have longer := congrArg List.length same
  have tail : (str ".old").length = 4 := by decide
  simp only [oldFilePath, List.length_append, tail] at longer
  omega

theorem oldFilePath_ne_dupFilePath : oldFilePath sourcePath ≠ dupFilePath sourcePath pid := by
  intro same
  rw [oldFilePath, dupFilePath, List.append_assoc] at same
  have heads := congrArg List.head? (List.append_cancel_left same)
  rw [List.head?_append_of_ne_nil _ (by decide)] at heads
  exact absurd heads (by decide)

end Paths

/-! ## The functions -/

variable {d : Directory ε} {sourcePath : Str} {pid : Nat}

theorem gumFileOpenDbFiles_spec (d : Directory ε) (sourcePath dupPath : Str) :
    wp (gumFileOpenDbFiles (some sourcePath) (some dupPath)) (fun r t =>
      t.calls = d.calls ∧
      (r = none ∧ (∃ fault, t.error = some fault.error ∧
          (d.files sourcePath = none ∧ fault = .openSource ∨
            d.files sourcePath ≠ none ∧ d.calls.openFault = some fault)) ∧
          (t.files = d.files ∨ t.files = Function.update d.files dupPath none) ∨
        ∃ source, r = some (source, ⟨dupPath, []⟩) ∧ d.files sourcePath = some source ∧
          t.files = Function.update d.files dupPath (some []) ∧
          d.calls.openFault = none)) d := by
  simp only [gumFileOpenDbFiles, fopenSource, wp_bind, wp_get, wp_pure]
  cases opened : d.calls.fopenSource with
  | false =>
    refine ⟨rfl, Or.inl ⟨rfl, ⟨.openSource, rfl, ?_⟩, Or.inl rfl⟩⟩
    by_cases absent : d.files sourcePath = none
    · exact Or.inl ⟨absent, rfl⟩
    · exact Or.inr ⟨absent, by simp [FileCalls.openFault, opened]⟩
  | true =>
    cases present : d.files sourcePath with
    | none => exact ⟨rfl, Or.inl ⟨rfl, ⟨.openSource, rfl, Or.inl ⟨rfl, rfl⟩⟩, Or.inl rfl⟩⟩
    | some source =>
      simp only [if_true, fopenDup, wp_bind, wp_get, ↓wp_guard, wp_pure, wp_modify, gumSetError,
        gUnlink]
      refine ⟨fun failed => ?_, fun created => ⟨fun failed => ?_, fun labelled =>
        ⟨fun failed => ?_, fun copied => ?_⟩⟩⟩
      · exact ⟨trivial, Or.inl ⟨trivial, ⟨.openDup, rfl,
          Or.inr ⟨by simp, by simp [FileCalls.openFault, opened, failed]⟩⟩, Or.inl trivial⟩⟩
      · have failed : d.calls.setSmack64Attr = false := failed
        exact ⟨rfl, Or.inl ⟨trivial, ⟨.smackAttr, rfl,
          Or.inr ⟨by simp, by simp [FileCalls.openFault, opened, created, failed]⟩⟩,
          Or.inr (by simp [setFile])⟩⟩
      · have labelled : d.calls.setSmack64Attr = true := labelled
        have failed : d.calls.copyFileAttributes = false := failed
        exact ⟨rfl, Or.inl ⟨trivial, ⟨.copyAttr, rfl,
          Or.inr ⟨by simp, by simp [FileCalls.openFault, opened, created, labelled, failed]⟩⟩,
          Or.inr (by simp [setFile])⟩⟩
      · have labelled : d.calls.setSmack64Attr = true := labelled
        have copied : d.calls.copyFileAttributes = true := copied
        exact ⟨rfl, Or.inr ⟨source, rfl, rfl, rfl,
          by simp [FileCalls.openFault, opened, created, labelled, copied]⟩⟩

/-- The backup is the source file, unless the link fails. -/
theorem wp_backup (d : Directory ε) (sourcePath : Str) :
    wp (unlinkOld (oldFilePath sourcePath)) (fun _ t =>
      wp (link sourcePath (oldFilePath sourcePath)) (fun _ u =>
        u.calls = d.calls ∧
        (∀ path, path ≠ oldFilePath sourcePath → u.files path = d.files path) ∧
        (¬d.BackupFails sourcePath → u.files (oldFilePath sourcePath) = d.files sourcePath)) t)
      d := by
  have distinct := (oldFilePath_ne sourcePath).symm
  simp only [unlinkOld, link, wp_bind, wp_get, wp_ite, wp_modify, wp_set, wp_pure]
  refine ⟨fun unlinked => ⟨fun failed => ?_, fun linked => ?_⟩, fun stuck => ⟨fun failed => ?_,
    fun linked => ?_⟩⟩
  · refine ⟨rfl, fun path other => by simp [setFile, other], fun works => absurd ?_ works⟩
    exact Or.inl (by simpa [setFile] using failed)
  · exact ⟨rfl, fun path other => by simp [setFile, other],
      fun _ => by simp [setFile, distinct]⟩
  · refine ⟨trivial, fun _ _ => trivial, fun works => absurd ?_ works⟩
    have stuck : d.calls.unlinkOld = false := by simpa using stuck
    rcases Bool.or_eq_true_iff.mp failed with failed | failed
    · exact Or.inl (by simpa using failed)
    · exact Or.inr ⟨stuck, failed⟩
  · exact ⟨rfl, fun path other => by simp [setFile, other],
      fun _ => by simp [setFile]⟩

theorem wp_flushAndClose (d : Directory ε) (dup : DupFile ε) :
    wp (flushAndClose dup) (fun ok t =>
      ok = (d.calls.fflush && d.calls.fsync && d.calls.fclose) ∧ t.calls = d.calls ∧
      (∀ path, path ≠ dup.path → t.files path = d.files path) ∧
      (ok = true → t.files dup.path = some dup.buffer)) d := by
  simp only [flushAndClose, wp_bind, wp_get, ↓wp_guard, wp_pure, wp_modify]
  refine ⟨fun failed => ⟨by simp [failed], trivial, fun _ _ => trivial, fun done => by cases done⟩,
    fun flushed => ⟨by simp [flushed, setFile], rfl, fun path other => by simp [setFile, other],
      fun _ => by simp [setFile]⟩⟩

theorem wp_gRename (d : Directory ε) (path newPath : Str) :
    wp (gRename path newPath) (fun ok t => ok = d.calls.rename ∧
      t.files = if ok then Function.update (Function.update d.files newPath (d.files path)) path none
        else d.files) d := by
  simp only [gRename, wp_bind, wp_get, ↓wp_guard, wp_pure, wp_set]
  exact ⟨fun failed => ⟨failed.symm, rfl⟩, fun renamed => ⟨renamed.symm, rfl⟩⟩

theorem gumFileCloseDbFiles_spec (d : Directory ε) (sourcePath : Str) (pid : Nat)
    (buffer : List ε) :
    wp (gumFileCloseDbFiles (some sourcePath) ⟨dupFilePath sourcePath pid, buffer⟩) (fun r t =>
      r = false ∧ (∃ fault, d.calls.closeFault = some fault ∧ t.error = some fault.error) ∧
          t.files (dupFilePath sourcePath pid) = none ∧ d.Kept t sourcePath pid ∨
        r = true ∧ d.calls.closeFault = none ∧ d.Replaced t sourcePath pid buffer) d := by
  have source_dup := (dupFilePath_ne sourcePath pid).symm
  have source_old := (oldFilePath_ne sourcePath).symm
  have old_dup := oldFilePath_ne_dupFilePath sourcePath pid
  rw [gumFileCloseDbFiles, wp_bind]
  refine wp_mono (wp_flushAndClose d _) ?_
  rintro ok t₁ ⟨synced, calls₁, same₁, written⟩
  dsimp only at same₁ written
  rw [wp_guard]
  refine ⟨fun failed => ?_, fun done => ?_⟩
  · simp only [gumSetError, gUnlink, wp_bind, wp_modify, wp_pure]
    refine Or.inl ⟨trivial, ⟨.sync, ?_, rfl⟩, by simp [setFile], ?_, ?_, ?_⟩
    · rw [FileCalls.closeFault, ← synced, failed]
      rfl
    · simp [setFile, source_dup, same₁]
    · intro content left
      simp [setFile] at left
    · intro path notDup _
      simp [setFile, notDup, same₁ path notDup]
  rw [wp_bind]
  refine wp_mono (wp_backup t₁ sourcePath) ?_
  intro _ t₂ backup
  rw [wp_bind]
  refine wp_mono backup ?_
  rintro _ t₃ ⟨calls₃, same₃, old⟩
  have calls : t₃.calls = d.calls := calls₃.trans calls₁
  have same : ∀ path, path ≠ dupFilePath sourcePath pid → path ≠ oldFilePath sourcePath →
      t₃.files path = d.files path := fun path notDup notOld =>
    (same₃ path notOld).trans (same₁ path notDup)
  have synced : (d.calls.fflush && d.calls.fsync && d.calls.fclose) = true := synced ▸ done
  rw [wp_bind]
  refine wp_mono (wp_gRename t₃ _ _) ?_
  rintro moved t₄ ⟨outcome, files⟩
  simp only [gumSetError, gUnlink, wp_bind, ↓wp_guard, wp_pure, wp_modify]
  refine ⟨fun failed => Or.inl ⟨trivial, ⟨.move, ?_, rfl⟩, by simp [setFile], ?_, ?_, ?_⟩,
    fun renamed => Or.inr ⟨trivial, ?_, ?_, ?_, ?_, ?_⟩⟩
  · have rename : d.calls.rename = false := by rw [← calls, ← outcome, failed]
    simp [FileCalls.closeFault, synced, rename]
  · simp [setFile, source_dup, source_old, files, failed, same]
  · intro content left
    simp [setFile] at left
  · intro path notDup notOld
    simp [setFile, notDup, notOld, files, failed, same]
  · have rename : d.calls.rename = true := by rw [← calls, ← outcome, renamed]
    simp [FileCalls.closeFault, synced, rename]
  · have content := (same₃ _ old_dup.symm).trans (written done)
    simp [setFile, source_dup, files, renamed, content]
  · simp [setFile]
  · intro works
    have works₁ : ¬t₁.BackupFails sourcePath := by
      rw [BackupFails, calls₁, same₁ _ old_dup]
      exact works
    simp [setFile, old_dup, source_old.symm, files, renamed, old works₁, same₁ _ source_dup]
  · intro path notSource notDup notOld
    simp [setFile, notSource, notDup, files, renamed, same path notDup notOld]

/-- Nothing but the duplicate has been touched, and it is gone or was there before. -/
theorem Directory.Kept.of_files {t : Directory ε} (files : t.files = d.files ∨
    t.files = Function.update d.files (dupFilePath sourcePath pid) none) :
    d.Kept t sourcePath pid := by
  rcases files with same | unlinked
  · exact ⟨congrFun same _, fun content left => same ▸ left, fun path _ _ => congrFun same path⟩
  · refine ⟨?_, fun content left => ?_, fun path notDup _ => ?_⟩
    · rw [unlinked, Function.update_of_ne (dupFilePath_ne sourcePath pid).symm]
    · rw [unlinked, Function.update_self] at left
      cases left
    · rw [unlinked, Function.update_of_ne notDup]

/-- The steps after the duplicate is created. -/
theorem Directory.Kept.of_created {d₁ t : Directory ε}
    (created : d₁.files = Function.update d.files (dupFilePath sourcePath pid) (some []))
    (gone : t.files (dupFilePath sourcePath pid) = none) (kept : d₁.Kept t sourcePath pid) :
    d.Kept t sourcePath pid := by
  refine ⟨?_, fun content left => ?_, fun path notDup notOld => ?_⟩
  · rw [kept.source, created, Function.update_of_ne (dupFilePath_ne sourcePath pid).symm]
  · rw [gone] at left
    cases left
  · rw [kept.other path notDup notOld, created, Function.update_of_ne notDup]

theorem Directory.Replaced.of_created {d₁ t : Directory ε} {out : List ε}
    (created : d₁.files = Function.update d.files (dupFilePath sourcePath pid) (some []))
    (calls : d₁.calls = d.calls) (replaced : d₁.Replaced t sourcePath pid out) :
    d.Replaced t sourcePath pid out := by
  refine ⟨replaced.source, replaced.dup, fun works => ?_, fun path notSource notDup notOld => ?_⟩
  · have works₁ : ¬d₁.BackupFails sourcePath := by
      rw [BackupFails, calls, created,
        Function.update_of_ne (oldFilePath_ne_dupFilePath sourcePath pid)]
      exact works
    rw [replaced.old works₁, created, Function.update_of_ne (dupFilePath_ne sourcePath pid).symm]
  · rw [replaced.other path notSource notDup notOld, created, Function.update_of_ne notDup]

/-- A rewrite does what its outcome says. -/
theorem Directory.gumFileUpdate_spec (callback : GumFileUpdateCB ε) (sourcePath : Str) (pid : Nat)
    (d : Directory ε) :
    wp (Directory.gumFileUpdate (some callback) sourcePath pid) (fun r t =>
      match d.outcome callback sourcePath with
      | .ok out => r = true ∧ d.Replaced t sourcePath pid out
      | .error e => r = false ∧ t.error = some e ∧ d.Kept t sourcePath pid) d := by
  rw [Directory.gumFileUpdate, wp_bind]
  refine wp_mono (gumFileOpenDbFiles_spec d sourcePath _) ?_
  rintro r d₁ ⟨calls, ⟨rfl, ⟨fault, error, first⟩, files⟩ | ⟨source, rfl, present, created, early⟩⟩
  · -- the files could not be opened
    have outcome : d.outcome callback sourcePath = .error fault.error := by
      rw [Directory.outcome]
      rcases first with ⟨absent, rfl⟩ | ⟨present, first⟩
      · rw [absent]
      · obtain ⟨source, present⟩ := Option.ne_none_iff_exists'.mp present
        have early := FileCalls.late_openFault first
        rw [present, FileCalls.fault, first]
        change updateOutcome (some fault) (callback.result source) = _
        cases callback.result source <;> simp [updateOutcome, early]
    rw [outcome]
    exact ⟨rfl, error, .of_files files⟩
  · have fault : d.calls.fault = d.calls.closeFault := by rw [FileCalls.fault, early, Option.none_or]
    cases result : callback source with
    | mk written failure =>
      cases failure with
      | some e =>
        have outcome : d.outcome callback sourcePath = .error e := by
          simp only [Directory.outcome, present, GumFileUpdateCB.result, result, fault]
          cases late : d.calls.closeFault with
          | none => rfl
          | some fault => simp [updateOutcome, FileCalls.late_closeFault late]
        simp only [outcome, result, gumSetError, gUnlink, wp_bind, wp_modify, wp_pure]
        refine ⟨trivial, rfl, .of_created created (by simp [setFile]) (.of_files (Or.inr ?_))⟩
        simp [setFile]
      | none =>
        have outcome : d.outcome callback sourcePath =
            updateOutcome d.calls.closeFault (.ok written) := by
          simp only [Directory.outcome, present, GumFileUpdateCB.result, result, fault]
        simp only [result, List.nil_append]
        refine wp_mono (gumFileCloseDbFiles_spec d₁ sourcePath pid written) ?_
        rintro r t (⟨rfl, ⟨fault, late, error⟩, gone, kept⟩ | ⟨rfl, none, replaced⟩)
        · rw [outcome, ← calls, late]
          exact ⟨rfl, error, .of_created created gone kept⟩
        · rw [outcome, ← calls, none]
          exact ⟨rfl, .of_created created calls replaced⟩

/-- A rewrite that succeeds has read the file, and its callback has not failed. -/
theorem Directory.outcome_ok {callback : GumFileUpdateCB ε} {out : List ε}
    (outcome : d.outcome callback sourcePath = .ok out) :
    ∃ source, d.files sourcePath = some source ∧ callback source = (out, none) := by
  rw [Directory.outcome] at outcome
  cases present : d.files sourcePath with
  | none => simp [present] at outcome
  | some source =>
    refine ⟨source, rfl, ?_⟩
    simp only [present, GumFileUpdateCB.result] at outcome
    generalize callback source = ran at outcome ⊢
    obtain ⟨written, failure⟩ := ran
    cases fault : d.calls.fault with
    | some first => cases failure <;> simp [fault, updateOutcome] at outcome
    | none =>
      cases failure with
      | some e => simp [fault, updateOutcome] at outcome
      | none =>
        simp only [fault, updateOutcome, Except.ok.injEq] at outcome
        rw [outcome]

/-- Without a callback nothing is rewritten. -/
theorem Directory.gumFileUpdate_none (sourcePath : Str) (pid : Nat) (d : Directory ε) :
    wp (Directory.gumFileUpdate none sourcePath pid) (fun r t =>
      r = false ∧ d.Kept t sourcePath pid) d := by
  rw [Directory.gumFileUpdate, wp_bind]
  refine wp_mono (gumFileOpenDbFiles_spec d sourcePath _) ?_
  rintro r d₁ ⟨-, ⟨rfl, -, files⟩ | ⟨source, rfl, -, created, -⟩⟩
  · exact ⟨rfl, .of_files files⟩
  · simp only [gumSetError, gUnlink, wp_bind, wp_modify, wp_pure]
    refine ⟨trivial, .of_created created (by simp [setFile]) (.of_files (Or.inr ?_))⟩
    simp [setFile]

/-- A rewrite is all or nothing: if it fails the source file is as it was and there is no duplicate that
was not there before, and otherwise the source file is what the callback wrote, there is no duplicate,
and the backup has the old content unless the link failed. -/
theorem Directory.gumFileUpdate_allOrNothing (callback : Option (GumFileUpdateCB ε))
    (sourcePath : Str) (pid : Nat) (d : Directory ε) :
    wp (Directory.gumFileUpdate callback sourcePath pid) (fun r t =>
      (r = false → d.Kept t sourcePath pid) ∧
      (r = true → ∃ cb source written, callback = some cb ∧ d.files sourcePath = some source ∧
        cb source = (written, none) ∧ d.Replaced t sourcePath pid written)) d := by
  cases callback with
  | none =>
    refine wp_mono (Directory.gumFileUpdate_none sourcePath pid d) ?_
    rintro r t ⟨rfl, kept⟩
    exact ⟨fun _ => kept, fun done => (nomatch done)⟩
  | some callback =>
    refine wp_mono (Directory.gumFileUpdate_spec callback sourcePath pid d) ?_
    intro r t spec
    cases outcome : d.outcome callback sourcePath with
    | error e =>
      rw [outcome] at spec
      obtain ⟨rfl, -, kept⟩ := spec
      exact ⟨fun _ => kept, fun done => (nomatch done)⟩
    | ok out =>
      rw [outcome] at spec
      obtain ⟨rfl, replaced⟩ := spec
      refine ⟨fun failed => (nomatch failed), fun _ => ?_⟩
      obtain ⟨source, present, result⟩ := outcome_ok outcome
      exact ⟨callback, source, out, rfl, present, result, replaced⟩

/-- On the entries of a database file, a rewrite is the one of `File.gumFileUpdate` that is told which
call fails. -/
theorem gumFileUpdate_simulates {file : DbFile ε} {w : World} {callback : GumFileUpdateCB ε}
    (renamed : ∀ out f, file.entries (file.rename out f) = some out)
    (shown : d.files sourcePath = file.entries w.files)
    (fault : w.faults.write.head = d.calls.fault) :
    wp (Directory.gumFileUpdate (some callback) sourcePath pid) (fun r t =>
      wp (gumFileUpdate file callback.result) (fun r' w' => r' = r ∧
        t.files sourcePath = file.entries w'.files ∧ (r = false → t.error = w'.error)) w) d := by
  refine wp_mono (Directory.gumFileUpdate_spec callback sourcePath pid d) ?_
  intro r t spec
  rw [Directory.outcome, shown] at spec
  simp only [gumFileUpdate, wp_bind, wp_get, wp_set, fault]
  cases present : file.entries w.files with
  | none =>
    rw [present] at spec
    obtain ⟨rfl, error, kept⟩ := spec
    exact ⟨rfl, kept.source.trans (shown.trans rfl), fun _ => error⟩
  | some source =>
    rw [present] at spec
    simp only at spec ⊢
    cases outcome : updateOutcome d.calls.fault (callback.result source) with
    | error e =>
      rw [outcome] at spec
      obtain ⟨rfl, error, kept⟩ := spec
      exact ⟨rfl, kept.source.trans (shown.trans rfl), fun _ => error⟩
    | ok out =>
      rw [outcome] at spec
      obtain ⟨rfl, replaced⟩ := spec
      exact ⟨rfl, replaced.source.trans (renamed out w.files).symm, fun h => by cases h⟩

end GumFile

end Gumd
