import Gumd.FileUpdate
import Gumd.Lib.Calls
import Gumd.Lib.Volume

/-!
# A rewrite call by call

`gum_file_update` on a volume, where the process may be stopped before any of its system calls.  Until
the rename the file under its name is the one that was there, and from then on it is the new one; neither
is ever written to.  So a rewrite is seen at once and whole, or not at all.
-/

namespace Gumd

open Calls Volume StateWp

namespace Rewrite

variable {ε : Type}

/-! ## `gum-file` -/

section GumFile

variable (calls : FileCalls)

/-- Give up after the duplicate has been opened. -/
def fail (dupPath : Str) (e : GError) {α : Type} : Calls (Volume Str ε) (Except GError α) := do
  change (Volume.unlink dupPath)
  return .error e

/-- `gum_file_open_db_files`: the source file and the duplicate. -/
def gumFileOpenDbFiles (sourcePath dupPath : Str) : Calls (Volume Str ε) (Except GError (Nat × Nat)) := do
  match ← perform fun v => (if calls.fopenSource then v.entries sourcePath else none, v) with
  | none => return .error FileFault.openSource.error
  | some source =>
      if !calls.fopenDup then return .error FileFault.openDup.error
      let dup ← perform (Volume.create dupPath)
      if !calls.setSmack64Attr then fail dupPath FileFault.smackAttr.error
      else if !calls.copyFileAttributes then fail dupPath FileFault.copyAttr.error
      else return .ok (source, dup)

/-- The entries are put to the stream of the duplicate, which hands over what it holds now and then; what it
still holds in the end is returned. -/
def put (flushes : Nat → Bool) (dup : Nat) : List ε → List ε → Calls (Volume Str ε) (List ε)
  | held, [] => return held
  | held, e :: rest => do
      if flushes rest.length then
        change (Volume.append dup (held ++ [e]))
        put flushes dup [] rest
      else put flushes dup (held ++ [e]) rest

/-- The old content gets the name of the backup, and the new one that of the source file. -/
def move (sourcePath dupPath : Str) : Calls (Volume Str ε) (Except GError Unit) := do
  change fun v => if calls.unlinkOld then v.unlink (oldFilePath sourcePath) else v
  change fun v => if calls.link then v.link sourcePath (oldFilePath sourcePath) else v
  if !calls.rename then
    change (Volume.unlink (oldFilePath sourcePath))
    fail dupPath FileFault.move.error
  else
    change (Volume.rename dupPath sourcePath)
    change (Volume.unlink dupPath)
    return .ok ()

/-- `gum_file_close_db_files`, with what the stream of the duplicate holds. -/
def gumFileCloseDbFiles (sourcePath dupPath : Str) (dup : Nat) (held : List ε) :
    Calls (Volume Str ε) (Except GError Unit) := do
  if !calls.fflush then fail dupPath FileFault.sync.error
  else
    change (Volume.append dup held)
    if !calls.fsync then fail dupPath FileFault.sync.error
    else
      change (Volume.sync dup)
      if !calls.fclose then fail dupPath FileFault.sync.error
      else move calls sourcePath dupPath

/-- `gum_file_update`. -/
def gumFileUpdate (flushes : Nat → Bool) (callback : GumFileUpdateCB ε) (sourcePath : Str) (pid : Nat) :
    Calls (Volume Str ε) (Except GError Unit) := do
  match ← gumFileOpenDbFiles calls sourcePath (dupFilePath sourcePath pid) with
  | .error e => return .error e
  | .ok (source, dup) =>
      let (written, failure) := callback (← perform fun v => (v.content source, v))
      let held ← put flushes dup [] written
      match failure with
      | some e =>
          -- closing the duplicate writes what the stream holds
          change (Volume.append dup held)
          fail (dupFilePath sourcePath pid) e
      | none => gumFileCloseDbFiles calls sourcePath (dupFilePath sourcePath pid) dup held

/-- What it comes to: one call. -/
def update (callback : GumFileUpdateCB ε) (sourcePath : Str) :
    Calls (Str → Option (List ε)) (Except GError Unit) :=
  perform fun files =>
    match Directory.outcome ⟨files, calls, none⟩ callback sourcePath with
    | .ok out => (.ok (), Function.update files sourcePath (some out))
    | .error e => (.error e, files)

end GumFile

end Rewrite

/-! ## The paths of the database files -/

/-- The database files; none is a duplicate or a backup of one of them, and no backup is a duplicate. -/
structure DbPaths where
  paths : List Str
  separate : ∀ a ∈ paths, ∀ b ∈ paths, oldFilePath a ≠ b ∧ ¬(a ++ str "-tmp.") <+: b ∧
    ¬(a ++ str "-tmp.") <+: oldFilePath b

namespace DbPaths

variable {db : DbPaths} {a b : Str}

/-- The names of duplicates, whatever process made them. -/
def Scratch (db : DbPaths) (name : Str) : Prop := ∃ path ∈ db.paths, ∃ pid, name = dupFilePath path pid

theorem scratch (mem : a ∈ db.paths) (pid : Nat) : db.Scratch (dupFilePath a pid) := ⟨a, mem, pid, rfl⟩

theorem not_scratch (mem : a ∈ db.paths) : ¬db.Scratch a := by
  rintro ⟨b, other, pid, rfl⟩
  exact (db.separate b other _ mem).2.1 (List.prefix_append _ _)

theorem old_not_scratch (mem : a ∈ db.paths) : ¬db.Scratch (oldFilePath a) := by
  rintro ⟨b, other, pid, same⟩
  apply (db.separate b other a mem).2.2
  rw [same]
  exact List.prefix_append _ _

theorem ne_of_scratch (scratch : db.Scratch b) (mem : a ∈ db.paths) : a ≠ b := by
  rintro rfl
  exact not_scratch mem scratch

end DbPaths

/-! ## What a volume shows -/

namespace Rewrite

variable {ε : Type} {db : DbPaths}

/-- Under the paths of the database are the given files.  They no longer change, and duplicates that have
been left behind are files of their own. -/
structure Represents (db : DbPaths) (v : Volume Str ε) (files : Str → Option (List ε)) : Prop where
  shown : ∀ path ∈ db.paths, v.read path = files path
  still : ∀ path ∈ db.paths, ∀ i, v.entries path = some i → v.Sealed db.Scratch i
  leftover : ∀ a b, db.Scratch a → db.Scratch b → ∀ i,
    v.entries a = some i → v.entries b = some i → a = b

variable {v w : Volume Str ε} {files : Str → Option (List ε)} {dupPath sourcePath : Str} {dup : Nat}

/-- Nothing has been left behind, and all is on the disk. -/
theorem represents_read {v : Volume Str ε} (names : ∀ path i, v.entries path = some i → path ∈ db.paths)
    (synced : ∀ i, (v.inodes i).synced = true) : Represents db v v.read := by
  have absent : ∀ name i, db.Scratch name → v.entries name ≠ some i := fun name i isScratch found =>
    DbPaths.not_scratch (names name i found) isScratch
  exact ⟨fun _ _ => rfl, fun path _ i found => ⟨v.fresh path i found, synced i, fun name isScratch =>
    absent name i isScratch⟩, fun a _ isA _ i found => absurd found (absent a i isA)⟩

theorem Represents.frame (shows : Represents db v files) (preserves : v.Preserves db.Scratch w)
    (same : ∀ path ∈ db.paths, w.entries path = v.entries path)
    (leftover : ∀ a b, db.Scratch a → db.Scratch b → ∀ i,
      w.entries a = some i → w.entries b = some i → a = b) : Represents db w files := by
  refine ⟨fun path mem => ?_, fun path mem i found => ?_, leftover⟩
  · rw [← shows.shown path mem, Volume.read, Volume.read, same path mem]
    cases found : v.entries path with
    | none => rfl
    | some i => exact congrArg some (preserves i (shows.still path mem i found)).2
  · rw [same path mem] at found
    exact (preserves i (shows.still path mem i found)).1

/-- A duplicate is written to. -/
theorem Represents.setInode (shows : Represents db v files) (scratch : db.Scratch dupPath)
    (opened : v.entries dupPath = some dup) (inode : Inode ε) :
    Represents db (v.setInode dup inode) files :=
  shows.frame (preserves_setInode scratch opened inode) (fun _ _ => rfl) shows.leftover

/-- A duplicate is opened. -/
theorem Represents.create (shows : Represents db v files) (scratch : db.Scratch dupPath) :
    Represents db (v.create dupPath).2 files ∧
      (v.create dupPath).2.entries dupPath = some (v.create dupPath).1 ∧
      (v.create dupPath).2.content (v.create dupPath).1 = [] := by
  have preserves := preserves_create (v := v) scratch
  rw [Volume.create] at preserves ⊢
  cases found : v.entries dupPath with
  | some i =>
    exact ⟨shows.setInode scratch found _, found, content_setInode ..⟩
  | none =>
    simp only [found] at preserves
    refine ⟨shows.frame preserves (fun path mem => ?_) (fun a b isA isB i atA atB => ?_), ?_, ?_⟩
    · exact Function.update_of_ne (DbPaths.ne_of_scratch scratch mem) ..
    · dsimp only at atA atB
      by_cases isDup : a = dupPath
      · subst isDup
        by_contra other
        rw [Function.update_self] at atA
        rw [Function.update_of_ne (Ne.symm other)] at atB
        cases atA
        exact Nat.lt_irrefl _ (v.fresh b _ atB)
      · rw [Function.update_of_ne isDup] at atA
        by_cases isDup' : b = dupPath
        · subst isDup'
          rw [Function.update_self] at atB
          cases atB
          exact absurd (v.fresh a _ atA) (Nat.lt_irrefl _)
        · rw [Function.update_of_ne isDup'] at atB
          exact shows.leftover a b isA isB i atA atB
    · exact Function.update_self ..
    · dsimp only [content]
      rw [Function.update_self]

/-- A duplicate or a backup is removed. -/
theorem Represents.unlink (shows : Represents db v files) (path : Str) (other : path ∉ db.paths) :
    Represents db (v.unlink path) files := by
  refine shows.frame (preserves_unlink path v) (fun name mem => entries_unlink_of_ne ?_)
    fun a b isA isB i atA atB =>
      shows.leftover a b isA isB i (entries_of_unlink atA).2 (entries_of_unlink atB).2
  rintro rfl
  exact other mem

/-- A backup is made. -/
theorem Represents.link (shows : Represents db v files) (path newPath : Str) (other : newPath ∉ db.paths)
    (kept : ¬db.Scratch newPath) : Represents db (v.link path newPath) files := by
  refine shows.frame (preserves_link kept path v) (fun name mem => entries_link_of_ne ?_)
    fun a b isA isB i atA atB => ?_
  · rintro rfl
    exact other mem
  · have same : ∀ name, db.Scratch name → (v.link path newPath).entries name = v.entries name := by
      intro name isScratch
      refine entries_link_of_ne ?_
      rintro rfl
      exact kept isScratch
    rw [same a isA] at atA
    rw [same b isB] at atB
    exact shows.leftover a b isA isB i atA atB

/-- A duplicate that is on the disk becomes the source file. -/
theorem Represents.rename (shows : Represents db v files) (mem : sourcePath ∈ db.paths)
    (scratch : db.Scratch dupPath) (opened : v.entries dupPath = some dup)
    (synced : (v.inodes dup).synced = true) :
    Represents db (v.rename dupPath sourcePath)
      (Function.update files sourcePath (some (v.content dup))) := by
  have other : v.entries sourcePath ≠ some dup := fun same =>
    (shows.still sourcePath mem dup same).kept dupPath scratch opened
  have same := inodes_rename dupPath sourcePath v
  have notDup : ∀ path ∈ db.paths, path ≠ dupPath := fun _ => DbPaths.ne_of_scratch scratch
  have elsewhere : ∀ path ∈ db.paths, path ≠ sourcePath →
      (v.rename dupPath sourcePath).entries path = v.entries path := fun path isSource notIt =>
    entries_rename_of_ne opened other notIt (notDup path isSource)
  have left : ∀ name i, db.Scratch name → (v.rename dupPath sourcePath).entries name = some i →
      name ≠ dupPath ∧ v.entries name = some i := by
    intro name i isScratch found
    rw [rename_eq opened other] at found
    obtain ⟨notDup, found⟩ := entries_of_unlink found
    rw [entries_setEntry_of_ne (DbPaths.ne_of_scratch isScratch mem).symm] at found
    exact ⟨notDup, found⟩
  have preserves := preserves_rename (DbPaths.not_scratch mem) dupPath v
  refine ⟨fun path isSource => ?_, fun path isSource i found => ?_, fun a b isA isB i atA atB =>
    shows.leftover a b isA isB i (left a i isA atA).2 (left b i isB atB).2⟩
  · by_cases isIt : path = sourcePath
    · subst isIt
      rw [Volume.read, entries_rename opened other, Function.update_self, Option.map_some, content, same]
      rfl
    · rw [Volume.read, elsewhere path isSource isIt, Function.update_of_ne isIt,
        ← shows.shown path isSource, Volume.read]
      congr 1
      funext i
      rw [content, same, content]
  · by_cases isIt : path = sourcePath
    · subst isIt
      rw [entries_rename opened other] at found
      cases found
      refine ⟨(v.rename dupPath path).fresh path _ (entries_rename opened other), ?_,
        fun name isScratch found => ?_⟩
      · rw [same]
        exact synced
      · -- a leftover duplicate would be the same file
        obtain ⟨notIt, found⟩ := left name _ isScratch found
        exact notIt (shows.leftover name dupPath isScratch scratch _ found opened)
    · rw [elsewhere path isSource isIt] at found
      exact (preserves i (shows.still path isSource i found)).1

/-! ## Until the rename nothing shows -/

/-- A part of a rewrite that does not show. -/
abbrev Hidden (db : DbPaths) (files : Str → Option (List ε)) {α : Type} (p : Calls (Volume Str ε) α)
    (Q : α → Volume Str ε → Prop) (v : Volume Str ε) : Prop :=
  p.Keeps (Represents db · files) (Volume.Preserves db.Scratch) Q v

/-- The duplicate is open, and will have been written `written` when the stream hands over what it
holds. -/
structure Writing (db : DbPaths) (files : Str → Option (List ε)) (dupPath : Str) (dup : Nat)
    (held written : List ε) (v : Volume Str ε) : Prop where
  represents : Represents db v files
  opened : v.entries dupPath = some dup
  content : v.content dup ++ held = written

theorem Writing.append {held written rest : List ε} (writing : Writing db files dupPath dup held written v)
    (scratch : db.Scratch dupPath) (more : List ε) (all : written ++ more = rest) :
    Writing db files dupPath dup [] rest (v.append dup (held ++ more)) := by
  refine ⟨writing.represents.setInode scratch writing.opened _, writing.opened, ?_⟩
  rw [List.append_nil, ← all, ← writing.content, Volume.append, content_setInode, List.append_assoc]

theorem hidden_put (scratch : db.Scratch dupPath) (flushes : Nat → Bool) {rest held written : List ε}
    (writing : Writing db files dupPath dup held written v) :
    Hidden db files (put flushes dup held rest)
      (fun held w => Writing db files dupPath dup held (written ++ rest) w) v := by
  induction rest generalizing held written v with
  | nil =>
    rw [List.append_nil]
    exact ⟨writing.represents, writing⟩
  | cons e rest ih =>
    have assoc : written ++ e :: rest = (written ++ [e]) ++ rest := by simp
    rw [put, assoc]
    split_ifs
    · exact ⟨writing.represents, preserves_setInode scratch writing.opened _,
        ih (writing.append scratch [e] rfl)⟩
    · refine ih ⟨writing.represents, writing.opened, ?_⟩
      rw [← List.append_assoc, writing.content]

variable {calls : FileCalls} {callback : GumFileUpdateCB ε}

/-- A rewrite that comes to an error has not shown. -/
theorem simulates_error {e : GError} (shows : Represents db v files)
    (outcome : Directory.outcome ⟨files, calls, none⟩ callback sourcePath = .error e) :
    Simulates (Represents db) (Volume.Preserves db.Scratch) (.done (.error e)) v
      (update calls callback sourcePath) files := by
  refine .later shows ?_
  dsimp only
  rw [outcome]
  exact .done shows

theorem simulates_fail {e : GError} (shows : Represents db v files) (scratch : db.Scratch dupPath)
    (outcome : Directory.outcome ⟨files, calls, none⟩ callback sourcePath = .error e) :
    Simulates (Represents db) (Volume.Preserves db.Scratch) (fail dupPath e) v
      (update calls callback sourcePath) files := by
  have other : dupPath ∉ db.paths := fun mem => DbPaths.not_scratch mem scratch
  exact .silent shows (preserves_unlink _ _) (simulates_error (shows.unlink dupPath other) outcome)

theorem old_not_mem (mem : sourcePath ∈ db.paths) : oldFilePath sourcePath ∉ db.paths :=
  fun other => (db.separate sourcePath mem _ other).1 rfl

/-- The duplicate is on the disk with its whole content. -/
structure Complete (db : DbPaths) (files : Str → Option (List ε)) (dupPath : Str) (dup : Nat)
    (out : List ε) (v : Volume Str ε) : Prop where
  represents : Represents db v files
  opened : v.entries dupPath = some dup
  inode : v.inodes dup = ⟨out, true⟩

/-- What happens to the backup does not matter. -/
theorem Complete.unlinkOld {out : List ε} (complete : Complete db files dupPath dup out v)
    (mem : sourcePath ∈ db.paths) (scratch : db.Scratch dupPath) (unlinks : Bool) :
    Complete db files dupPath dup out (if unlinks then v.unlink (oldFilePath sourcePath) else v) ∧
      v.Preserves db.Scratch (if unlinks then v.unlink (oldFilePath sourcePath) else v) := by
  have other : dupPath ≠ oldFilePath sourcePath := by
    rintro rfl
    exact DbPaths.old_not_scratch mem scratch
  split_ifs
  · exact ⟨⟨complete.represents.unlink _ (old_not_mem mem),
      (entries_unlink_of_ne other).trans complete.opened, complete.inode⟩, preserves_unlink _ v⟩
  · exact ⟨complete, .refl v⟩

theorem Complete.linkOld {out : List ε} (complete : Complete db files dupPath dup out v)
    (mem : sourcePath ∈ db.paths) (scratch : db.Scratch dupPath) (links : Bool) :
    Complete db files dupPath dup out (if links then v.link sourcePath (oldFilePath sourcePath) else v) ∧
      v.Preserves db.Scratch (if links then v.link sourcePath (oldFilePath sourcePath) else v) := by
  have kept := DbPaths.old_not_scratch mem
  have other : dupPath ≠ oldFilePath sourcePath := by
    rintro rfl
    exact kept scratch
  split_ifs
  · refine ⟨⟨complete.represents.link _ _ (old_not_mem mem) kept,
      (entries_link_of_ne other).trans complete.opened, ?_⟩, preserves_link kept _ v⟩
    rw [inodes_link]
    exact complete.inode
  · exact ⟨complete, .refl v⟩

/-- Where the duplicate becomes the source file. -/
theorem simulates_move {out : List ε} (mem : sourcePath ∈ db.paths) (scratch : db.Scratch dupPath)
    (complete : Complete db files dupPath dup out v)
    (outcome : Directory.outcome ⟨files, calls, none⟩ callback sourcePath =
      if calls.rename then .ok out else .error FileFault.move.error) :
    Simulates (Represents db) (Volume.Preserves db.Scratch) (move calls sourcePath dupPath) v
      (update calls callback sourcePath) files := by
  obtain ⟨unlinked, preserves⟩ := complete.unlinkOld mem scratch calls.unlinkOld
  obtain ⟨linked, preserves'⟩ := unlinked.linkOld mem scratch calls.link
  refine .silent complete.represents preserves (.silent unlinked.represents preserves' ?_)
  dsimp only
  generalize (if calls.link then _ else _ : Volume Str ε) = w at linked ⊢
  cases renamed : calls.rename with
  | false =>
    rw [renamed] at outcome
    refine .silent linked.represents (preserves_unlink _ _) ?_
    exact simulates_fail (linked.represents.unlink _ (old_not_mem mem)) scratch outcome
  | true =>
    rw [renamed] at outcome
    have shows := linked.represents.rename mem scratch linked.opened (congrArg Inode.synced linked.inode)
    refine .both linked.represents (preserves_rename (DbPaths.not_scratch mem) _ _) ?_
    rw [show w.content dup = out from congrArg Inode.content linked.inode] at shows
    dsimp only
    rw [outcome]
    exact .silent shows (preserves_unlink _ _)
      (.done (shows.unlink _ fun mem => DbPaths.not_scratch mem scratch))

/-- The duplicate is completed and takes the place of the source file. -/
theorem simulates_gumFileCloseDbFiles {held out : List ε} (mem : sourcePath ∈ db.paths)
    (scratch : db.Scratch dupPath) (writing : Writing db files dupPath dup held out v)
    (outcome : Directory.outcome ⟨files, calls, none⟩ callback sourcePath =
      updateOutcome calls.closeFault (.ok out)) :
    Simulates (Represents db) (Volume.Preserves db.Scratch)
      (gumFileCloseDbFiles calls sourcePath dupPath dup held) v (update calls callback sourcePath)
      files := by
  rw [gumFileCloseDbFiles]
  cases flushed : calls.fflush with
  | false =>
    rw [FileCalls.closeFault, flushed] at outcome
    exact simulates_fail writing.represents scratch outcome
  | true =>
    have written := writing.append scratch [] (List.append_nil out)
    rw [List.append_nil] at written
    refine .silent writing.represents (preserves_setInode scratch writing.opened _) ?_
    dsimp only
    cases synced : calls.fsync with
    | false =>
      rw [FileCalls.closeFault, flushed, synced] at outcome
      exact simulates_fail written.represents scratch outcome
    | true =>
      refine .silent written.represents (preserves_setInode scratch written.opened _) ?_
      have shows := written.represents.setInode scratch written.opened
        ⟨(v.append dup held).content dup, true⟩
      dsimp only
      cases closed : calls.fclose with
      | false =>
        rw [FileCalls.closeFault, flushed, synced, closed] at outcome
        exact simulates_fail shows scratch outcome
      | true =>
        have content := written.content
        rw [List.append_nil] at content
        have complete : Complete db files dupPath dup out ((v.append dup held).sync dup) :=
          ⟨shows, written.opened, by rw [Volume.sync, setInode_inodes, content]⟩
        refine simulates_move mem scratch complete ?_
        rw [outcome, FileCalls.closeFault, flushed, synced, closed]
        cases calls.rename <;> rfl

theorem outcome_of_openFault {fault : FileFault} (first : calls.openFault = some fault)
    (absent : files sourcePath = none → fault = .openSource) (callback : GumFileUpdateCB ε) :
    Directory.outcome ⟨files, calls, none⟩ callback sourcePath = .error fault.error := by
  have early := FileCalls.late_openFault first
  rw [Directory.outcome]
  cases found : files sourcePath with
  | none => simp only [found, absent found]
  | some source =>
    simp only [found, FileCalls.fault, first]
    cases callback.result source <;> simp [updateOutcome, early]

/-- The files are opened. -/
theorem hidden_gumFileOpenDbFiles (mem : sourcePath ∈ db.paths) (scratch : db.Scratch dupPath)
    (shows : Represents db v files) :
    Hidden db files (gumFileOpenDbFiles calls sourcePath dupPath) (fun r w =>
      (∃ e, r = .error e ∧ Represents db w files ∧ ∀ callback : GumFileUpdateCB ε,
        Directory.outcome ⟨files, calls, none⟩ callback sourcePath = .error e) ∨
      ∃ i dup source, r = .ok (i, dup) ∧ Writing db files dupPath dup [] [] w ∧
        files sourcePath = some source ∧ w.content i = source ∧ calls.openFault = none) v := by
  have other : dupPath ∉ db.paths := fun mem => DbPaths.not_scratch mem scratch
  have shown := shows.shown sourcePath mem
  refine ⟨shows, .refl v, ?_⟩
  cases opened : calls.fopenSource with
  | false =>
    exact ⟨shows, Or.inl ⟨_, rfl, shows,
      outcome_of_openFault (by simp [FileCalls.openFault, opened]) fun _ => rfl⟩⟩
  | true =>
    cases found : v.entries sourcePath with
    | none =>
      simp only [if_true, found]
      refine ⟨shows, Or.inl ⟨_, rfl, shows, fun callback => ?_⟩⟩
      rw [Volume.read, found] at shown
      simp only [Directory.outcome, ← shown, Option.map_none]
    | some i =>
      rw [Volume.read, found] at shown
      have present : files sourcePath ≠ none := by simp [← shown]
      obtain ⟨created, opened', empty⟩ := shows.create scratch
      have preserves := preserves_create (v := v) scratch
      have same := (preserves i (shows.still sourcePath mem i found)).2
      simp only [if_true, found]
      cases created' : calls.fopenDup with
      | false =>
        exact ⟨shows, Or.inl ⟨_, rfl, shows, outcome_of_openFault
          (by simp [FileCalls.openFault, opened, created']) fun absent => absurd absent present⟩⟩
      | true =>
        refine ⟨shows, preserves, ?_⟩
        cases labelled : calls.setSmack64Attr with
        | false =>
          refine ⟨created, preserves_unlink _ _, created.unlink dupPath other, Or.inl ⟨_, rfl,
            created.unlink dupPath other, outcome_of_openFault
              (by simp [FileCalls.openFault, opened, created', labelled])
              fun absent => absurd absent present⟩⟩
        | true =>
          cases copied : calls.copyFileAttributes with
          | false =>
            refine ⟨created, preserves_unlink _ _, created.unlink dupPath other, Or.inl ⟨_, rfl,
              created.unlink dupPath other, outcome_of_openFault
                (by simp [FileCalls.openFault, opened, created', labelled, copied])
                fun absent => absurd absent present⟩⟩
          | true =>
            refine ⟨created, Or.inr ⟨i, _, _, rfl, ⟨created, opened', ?_⟩, shown.symm, same, ?_⟩⟩
            · rw [empty]
              rfl
            · simp [FileCalls.openFault, opened, created', labelled, copied]

/-- A rewrite is seen at once and whole, or not at all. -/
theorem simulates_gumFileUpdate (shows : Represents db v files) (mem : sourcePath ∈ db.paths)
    (flushes : Nat → Bool) (pid : Nat) :
    Simulates (Represents db) (Volume.Preserves db.Scratch)
      (gumFileUpdate calls flushes callback sourcePath pid) v (update calls callback sourcePath) files := by
  have scratch := DbPaths.scratch mem pid
  refine .of_keeps ((hidden_gumFileOpenDbFiles mem scratch shows).mono ?_)
  rintro r w (⟨e, rfl, shows, outcome⟩ | ⟨i, dup, source, rfl, writing, present, content, early⟩)
  · exact simulates_error shows (outcome callback)
  have fault : calls.fault = calls.closeFault := by rw [FileCalls.fault, early, Option.none_or]
  refine .silent writing.represents (.refl w) ?_
  obtain ⟨written, failure, ran⟩ : ∃ written failure, callback source = (written, failure) :=
    ⟨_, _, rfl⟩
  change Simulates _ _ (put flushes dup [] (callback (w.content i)).1 >>= _) _ _ _
  dsimp only
  rw [content, ran]
  refine .of_keeps ((hidden_put scratch flushes writing).mono ?_)
  intro held x writing
  rw [List.nil_append] at writing
  cases failure with
  | some e =>
    have outcome : Directory.outcome ⟨files, calls, none⟩ callback sourcePath = .error e := by
      simp only [Directory.outcome, present, GumFileUpdateCB.result, ran, fault]
      cases late : calls.closeFault with
      | none => rfl
      | some fault => simp [updateOutcome, FileCalls.late_closeFault late]
    have written' := writing.append scratch [] (List.append_nil written)
    rw [List.append_nil] at written'
    exact .silent writing.represents (preserves_setInode scratch writing.opened _)
      (simulates_fail written'.represents scratch outcome)
  | none =>
    refine simulates_gumFileCloseDbFiles mem scratch writing ?_
    simp only [Directory.outcome, present, GumFileUpdateCB.result, ran, fault]

/-- A process that is not stopped does what `gum_file_update` does to the paths. -/
theorem gumFileUpdate_run (shows : Represents db v files) (mem : sourcePath ∈ db.paths)
    (flushes : Nat → Bool) (pid : Nat) :
    wp (Directory.gumFileUpdate (some callback) sourcePath pid) (fun ok t =>
      (ok = true ↔ ((gumFileUpdate calls flushes callback sourcePath pid).run v).1 = .ok ()) ∧
      ∀ path ∈ db.paths,
        ((gumFileUpdate calls flushes callback sourcePath pid).run v).2.read path = t.files path)
      ⟨files, calls, none⟩ := by
  have simulates : Simulates (Represents db) (Volume.Preserves db.Scratch)
      (gumFileUpdate calls flushes callback sourcePath pid) v (update calls callback sourcePath) files :=
    simulates_gumFileUpdate shows mem flushes pid
  obtain ⟨result, shows'⟩ := simulates.run
  refine wp_mono (Directory.gumFileUpdate_spec callback sourcePath pid _) ?_
  intro ok t spec
  have others : ∀ path ∈ db.paths, path ≠ dupFilePath sourcePath pid ∧ path ≠ oldFilePath sourcePath :=
    fun path isSource => ⟨DbPaths.ne_of_scratch (DbPaths.scratch mem pid) isSource,
      fun same => old_not_mem mem (same ▸ isSource)⟩
  have shown := shows'.shown
  rw [result]
  cases outcome : Directory.outcome ⟨files, calls, none⟩ callback sourcePath with
  | error e =>
    rw [outcome] at spec
    obtain ⟨rfl, -, kept⟩ := spec
    have ran : (update calls callback sourcePath).run files = (.error e, files) := by
      simp only [update, perform, Calls.run, outcome]
    rw [ran] at shown ⊢
    refine ⟨by simp, fun path isSource => ?_⟩
    rw [shown path isSource, kept.other path (others path isSource).1 (others path isSource).2]
  | ok out =>
    rw [outcome] at spec
    obtain ⟨rfl, replaced⟩ := spec
    have ran : (update calls callback sourcePath).run files =
        (.ok (), Function.update files sourcePath (some out)) := by
      simp only [update, perform, Calls.run, outcome]
    rw [ran] at shown ⊢
    refine ⟨by simp, fun path isSource => ?_⟩
    rw [shown path isSource]
    dsimp only
    by_cases isIt : path = sourcePath
    · rw [isIt, Function.update_self, replaced.source]
    · rw [Function.update_of_ne isIt,
        replaced.other path isIt (others path isSource).1 (others path isSource).2]

end Rewrite

end Gumd
