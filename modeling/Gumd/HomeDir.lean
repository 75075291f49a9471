import Gumd.Lib.FileTree
import Gumd.Lib.TotalWp
import Gumd.Validate

/-!
# Home directories

The functions of `gum-file` that create and delete home directories, over a tree of files.

A path is the list of its names from the root on.  Every call that resolves a path can fail, also
when the path leads to an entry: `faults` says which of the calls to come do.  `stat`, `chmod`,
`chown` and the opening of a directory follow a link at the end of the path; `lstat`, the removal
and the copy of a file do not.  What a call creates belongs to the process.

The extended attributes are not modelled, nor the SMACK label, which is set only where the build
asks for it.
-/

namespace Gumd

open FileTree

/-! ## Files -/

abbrev FilePath := List Name

structure FileAttr where
  mode : UInt32
  uid : UInt32
  gid : UInt32
  deriving DecidableEq, Repr

abbrev FileNode := Node FileAttr Str

/-- The files, the outcomes of the calls to come, and the process. -/
structure FileWorld where
  tree : Tree FileAttr Str
  faults : List Bool
  euid : UInt32
  egid : UInt32
  processUmask : UInt32

/-- A program over the files; it may not end. -/
abbrev TreeM := StateT FileWorld Option

/-- The id that leaves an owner as it is. -/
def noId : UInt32 := 0xffffffff

/-- `GUM_PERM`. -/
def gumPerm : UInt32 := 0x1ff

/-! ## System calls -/

/-- Where a path leads to, if the call does not fail. -/
def resolve (follow : Bool) (path : FilePath) : TreeM (Option Place) := do
  let w ← get
  set { w with faults := w.faults.tail }
  if w.faults.headD false then return none
  return w.tree.locate follow path

/-- `stat`, and without `follow` `lstat`. -/
def fileStat (follow : Bool) (path : FilePath) : TreeM (Option FileNode) := do
  let place ← resolve follow path
  let w ← get
  return place.bind w.tree.lookup

def changeAttr (path : FilePath) (change : FileNode → FileAttr) : TreeM Bool := do
  match ← resolve true path with
  | none => return false
  | some place =>
      modify fun w => { w with tree := w.tree.setAttr place change }
      return true

/-- `chmod`. -/
def fileChmod (path : FilePath) (mode : UInt32) : TreeM Bool :=
  changeAttr path fun node => { node.attr with mode := mode &&& 0xfff }

/-- The mode that is left when the owner changes: a file loses its set-id bits. -/
def chownMode (node : FileNode) : UInt32 :=
  match node.kind with
  | .file _ => if node.attr.mode &&& 0x8 = 0 then node.attr.mode &&& 0x7ff else node.attr.mode &&& 0x3ff
  | _ => node.attr.mode

/-- `chown`. -/
def fileChown (path : FilePath) (uid gid : UInt32) : TreeM Bool :=
  changeAttr path fun node =>
    { mode := chownMode node
      uid := if uid = noId then node.attr.uid else uid
      gid := if gid = noId then node.attr.gid else gid }

/-- `g_dir_open`, and the names `g_dir_read_name` returns until the end. -/
def gDirOpen (path : FilePath) : TreeM (Option (List Name)) := do
  let place ← resolve true path
  let w ← get
  return place.bind fun p => if w.tree.kindAt p = some .dir then some (w.tree.children p) else none

/-- `g_remove`. -/
def gRemove (path : FilePath) : TreeM Bool := do
  let place ← resolve false path
  let w ← get
  match place.bind w.tree.remove with
  | none => return false
  | some tree =>
      set { w with tree := tree }
      return true

/-- `g_file_test` for `G_FILE_TEST_EXISTS`, and `g_access` for `F_OK`. -/
def fileExists (path : FilePath) : TreeM Bool := do
  return (← resolve true path).isSome

/-- `g_file_test` for `G_FILE_TEST_IS_DIR`. -/
def fileIsDir (path : FilePath) : TreeM Bool := do
  let place ← resolve true path
  let w ← get
  return place.bind w.tree.kindAt = some .dir

/-- Put an entry where the path says, in the place of another file or link only to overwrite it. -/
def attachAt (overwrite : Bool) (path : FilePath) (node : FileNode) : TreeM Bool := do
  let parent ← resolve true path.dropLast
  let w ← get
  match parent, path.getLast? with
  | some d, some n =>
      if overwrite = false ∧ w.tree.kindAt (n :: d) ≠ none then return false
      match w.tree.attach (n :: d) node with
      | none => return false
      | some tree =>
          set { w with tree := tree }
          return true
  | _, _ => return false

/-- `g_mkdir`. -/
def gMkdir (path : FilePath) (mode : UInt32) : TreeM Bool := do
  let w ← get
  attachAt false path ⟨.dir, ⟨mode &&& ~~~w.processUmask, w.euid, w.egid⟩⟩

/-- `g_mkdir_with_parents` of the names behind a path. -/
def mkdirFrom (mode : UInt32) : FilePath → List Name → TreeM Bool
  | _, [] => return true
  | path, n :: rest => do
      let path := path ++ [n]
      if ← fileExists path then
        if ← fileIsDir path then mkdirFrom mode path rest else return false
      else if ← gMkdir path mode then mkdirFrom mode path rest
      else return false

def gMkdirWithParents (path : FilePath) (mode : UInt32) : TreeM Bool := mkdirFrom mode [] path

/-- `g_file_copy` with `G_FILE_COPY_OVERWRITE` and `G_FILE_COPY_NOFOLLOW_SYMLINKS`: the copy of a
link is a link. -/
def gFileCopy (source destination : FilePath) : TreeM Bool := do
  let w ← get
  match ← fileStat false source with
  | none => return false
  | some node =>
      match node.kind with
      | .dir => return false
      | .file content =>
          attachAt true destination ⟨.file content, ⟨node.attr.mode, w.euid, w.egid⟩⟩
      | .link text => attachAt true destination ⟨.link text, ⟨gumPerm, w.euid, w.egid⟩⟩

/-! ## `gum-file` -/

/-- `_copy_file_attributes`. -/
def copyFileAttributes (fromPath : Option FilePath) (toPath : FilePath) : TreeM Bool := do
  match fromPath with
  | none => return false
  | some fromPath =>
      match ← fileStat true fromPath with
      | none => return false
      | some fromStat =>
          if !(← fileChmod toPath fromStat.attr.mode) then return false
          fileChown toPath fromStat.attr.uid fromStat.attr.gid

/-- What the loop of `_copy_dir_recursively` does with one name. -/
def copyEntry (copyDir : FilePath → FilePath → TreeM (Option GError)) (srcFilepath destFilepath : FilePath)
    (uid gid umask : UInt32) : TreeM Bool := do
  match ← fileStat false srcFilepath with
  | none => return false
  | some statEntry =>
      if statEntry.kind = .dir then
        let _ ← gMkdirWithParents destFilepath (gumPerm &&& ~~~umask)
        if (← copyDir srcFilepath destFilepath).isSome then return false
      else
        if !(← gFileCopy srcFilepath destFilepath) then return false
      if !(← copyFileAttributes (some srcFilepath) destFilepath) then return false
      fileChown destFilepath uid gid

/-- The loop of `_copy_dir_recursively` over the names it reads. -/
def copyEntries (copyDir : FilePath → FilePath → TreeM (Option GError)) (src dest : FilePath)
    (uid gid umask : UInt32) : List Name → TreeM Bool
  | [] => return true
  | srcFname :: rest => do
      if !(← copyEntry copyDir (src ++ [srcFname]) (dest ++ [srcFname]) uid gid umask) then return false
      copyEntries copyDir src dest uid gid umask rest

/-- `_copy_dir_recursively`. -/
def copyDirRecursively (uid gid umask : UInt32) :
    Nat → Option FilePath → FilePath → TreeM (Option GError)
  | 0, _, _ => failure
  | _ + 1, none, _ => return some ⟨.homeDirCopyFailure, "Invalid directory path(s)"⟩
  | fuel + 1, some src, dest => do
      match ← gDirOpen src with
      | none => return some ⟨.homeDirCopyFailure, "Invalid source directory path"⟩
      | some names =>
          let copyDir := fun src dest => copyDirRecursively uid gid umask fuel (some src) dest
          if !(← copyEntries copyDir src dest uid gid umask names) then
            return some ⟨.homeDirCopyFailure, "Home directory copy failure"⟩
          return none

/-- `gum_file_create_home_dir`; `skelDir` is that of the configuration. -/
def gumFileCreateHomeDir (skelDir homeDir : Option FilePath) (uid gid umask : UInt32) :
    TreeM (Option GError) := do
  match homeDir with
  | none => return some ⟨.homeDirCreateFailure, "Invalid home directory path"⟩
  | some homeDir =>
      if ← fileExists homeDir then return none
      if !(← fileExists homeDir) then
        let _ ← gMkdirWithParents homeDir (gumPerm &&& ~~~umask)
      if !(← fileIsDir homeDir) then
        return some ⟨.homeDirCreateFailure, "Home directory creation failure"⟩
      if !(← copyFileAttributes skelDir homeDir) then
        return some ⟨.fileAttribute, "Unable to get/set dir attributes"⟩
      if !(← fileChown homeDir uid gid) then
        return some ⟨.homeDirCreateFailure, "Home directory chown failure"⟩
      -- no directory lies deeper, so the recursion ends before the fuel does
      copyDirRecursively uid gid umask ((← get).tree.depth + 1) skelDir homeDir

/-- The loop of `gum_file_delete_home_dir` over the names it reads. -/
def deleteEntries (deleteDir : FilePath → TreeM (Option GError)) (dir : FilePath) :
    List Name → TreeM Bool
  | [] => return true
  | fname :: rest => do
      if fname = dot ∨ fname = dotDot then deleteEntries deleteDir dir rest
      else
        match ← fileStat false (dir ++ [fname]) with
        | none => return false
        | some sent =>
            if sent.kind = .dir then
              if (← deleteDir (dir ++ [fname])).isSome then return false
              deleteEntries deleteDir dir rest
            else
              if !(← gRemove (dir ++ [fname])) then return false
              deleteEntries deleteDir dir rest

/-- `gum_file_delete_home_dir` down to a depth. -/
def deleteHomeDirWithin : Nat → Option FilePath → TreeM (Option GError)
  | 0, _ => failure
  | _ + 1, none => return some ⟨.homeDirDeleteFailure, "Invalid home directory path"⟩
  | fuel + 1, some dir => do
      match ← gDirOpen dir with
      | none => return some ⟨.homeDirDeleteFailure, "Invalid home directory path"⟩
      | some names =>
          if !(← deleteEntries (fun dir => deleteHomeDirWithin fuel (some dir)) dir names) then
            return some ⟨.homeDirDeleteFailure, "Unable to delete files in the directory"⟩
          if !(← gRemove dir) then
            return some ⟨.homeDirDeleteFailure, "Unable to delete home directory"⟩
          return none

/-- `gum_file_delete_home_dir`. -/
def gumFileDeleteHomeDir (dir : Option FilePath) : TreeM (Option GError) := do
  deleteHomeDirWithin ((← get).tree.depth + 1) dir

/-! ## What a call does -/

section Calls

open FileTree.Tree TotalWp

variable {w w' w'' : FileWorld} {t t' t'' : Tree FileAttr Str}

/-- The world after calls that left this tree. -/
structure After (w : FileWorld) (t : Tree FileAttr Str) (w' : FileWorld) : Prop where
  same : w' = { w with tree := t, faults := w'.faults }
  calm : w.faults = [] → w'.faults = []

namespace After

theorem tree (after : After w t w') : w'.tree = t := by rw [after.same]

theorem euid (after : After w t w') : w'.euid = w.euid := by rw [after.same]

theorem egid (after : After w t w') : w'.egid = w.egid := by rw [after.same]

theorem refl (w : FileWorld) : After w w.tree w := ⟨rfl, id⟩

theorem trans (first : After w t w') (second : After w' t' w'') : After w t' w'' := by
  constructor
  · rw [second.same, first.same]
  · intro calm
    exact second.calm (first.calm calm)

/-- A call that reads only. -/
theorem read (first : After w t w') (second : After w' w'.tree w'') : After w t w'' := by
  rw [first.tree] at second
  exact first.trans second

end After

/-- A path is resolved where it leads to, unless the call fails. -/
theorem resolve_spec (follow : Bool) (path : FilePath) (w : FileWorld) :
    wp (resolve follow path) (fun place w' => After w w.tree w' ∧
      (∀ p, place = some p → w.tree.locate follow path = some p) ∧
      (w.faults = [] → place = w.tree.locate follow path)) w := by
  simp only [resolve, wp_bind, wp_get, wp_set, wp_ite, wp_pure]
  have after : After w w.tree { w with faults := w.faults.tail } := by
    constructor
    · rfl
    · intro calm
      rw [calm]
      rfl
  constructor
  · intro fault
    refine ⟨after, by simp, ?_⟩
    intro calm
    rw [calm] at fault
    contradiction
  · intro _
    exact ⟨after, fun p leads => leads, fun _ => trivial⟩

theorem fileStat_spec (follow : Bool) (path : FilePath) (w : FileWorld) :
    wp (fileStat follow path) (fun found w' => After w w.tree w' ∧
      (∀ node, found = some node → ∃ p, w.tree.locate follow path = some p ∧
        w.tree.lookup p = some node) ∧
      (w.faults = [] → found = (w.tree.locate follow path).bind w.tree.lookup)) w := by
  simp only [fileStat, wp_bind, wp_get, wp_pure]
  refine wp_mono (resolve_spec follow path w) ?_
  intro place w' spec
  obtain ⟨after, leads, calm⟩ := spec
  rw [after.tree]
  refine ⟨after, ?_, ?_⟩
  · intro node found
    obtain ⟨p, rfl, here⟩ := Option.bind_eq_some_iff.mp found
    exact ⟨p, leads p rfl, here⟩
  · intro quiet
    rw [calm quiet]

theorem gDirOpen_spec (path : FilePath) (w : FileWorld) :
    wp (gDirOpen path) (fun names w' => After w w.tree w' ∧
      (∀ found, names = some found → ∃ p, w.tree.locate true path = some p ∧
        w.tree.kindAt p = some .dir ∧ found = w.tree.children p) ∧
      (w.faults = [] → ∀ p, w.tree.locate true path = some p → w.tree.kindAt p = some .dir →
        names = some (w.tree.children p))) w := by
  simp only [gDirOpen, wp_bind, wp_get, wp_pure]
  refine wp_mono (resolve_spec true path w) ?_
  intro place w' spec
  obtain ⟨after, leads, calm⟩ := spec
  rw [after.tree]
  refine ⟨after, ?_, ?_⟩
  · intro found read
    obtain ⟨p, rfl, here⟩ := Option.bind_eq_some_iff.mp read
    split_ifs at here with dir
    cases here
    exact ⟨p, leads p rfl, dir, rfl⟩
  · intro quiet p located dir
    rw [calm quiet, located, Option.bind_some, if_pos dir]

theorem gRemove_spec (path : FilePath) (w : FileWorld) :
    wp (gRemove path) (fun removed w' =>
      (removed = false ∧ After w w.tree w') ∨
        (removed = true ∧ ∃ p t, w.tree.locate false path = some p ∧ w.tree.remove p = some t ∧
          After w t w')) w := by
  simp only [gRemove, wp_bind, wp_get]
  refine wp_mono (resolve_spec false path w) ?_
  intro place w' spec
  obtain ⟨after, leads, calm⟩ := spec
  rw [after.tree]
  cases removed : place.bind w.tree.remove with
  | none =>
      dsimp only
      rw [wp_pure]
      exact Or.inl ⟨rfl, after⟩
  | some t =>
      obtain ⟨p, rfl, here⟩ := Option.bind_eq_some_iff.mp removed
      dsimp only
      rw [wp_bind, wp_set, wp_pure]
      refine Or.inr ⟨rfl, p, t, leads p rfl, here, ?_⟩
      exact after.trans ⟨rfl, id⟩

/-- A path exists if it leads to an entry. -/
theorem fileExists_spec (path : FilePath) (w : FileWorld) :
    wp (fileExists path) (fun found w' => After w w.tree w' ∧
      (found = true → ∃ p, w.tree.locate true path = some p) ∧
      (w.faults = [] → found = (w.tree.locate true path).isSome)) w := by
  simp only [fileExists, wp_bind, wp_pure]
  refine wp_mono (resolve_spec true path w) ?_
  intro place w' spec
  obtain ⟨after, leads, calm⟩ := spec
  refine ⟨after, ?_, ?_⟩
  · intro found
    obtain ⟨p, rfl⟩ := Option.isSome_iff_exists.mp found
    exact ⟨p, leads p rfl⟩
  · intro quiet
    rw [calm quiet]

theorem fileIsDir_spec (path : FilePath) (w : FileWorld) :
    wp (fileIsDir path) (fun isDir w' => After w w.tree w' ∧
      (isDir = true → ∃ p, w.tree.locate true path = some p ∧ w.tree.kindAt p = some .dir) ∧
      (w.faults = [] → ∀ p, w.tree.locate true path = some p → w.tree.kindAt p = some .dir →
        isDir = true)) w := by
  simp only [fileIsDir, wp_bind, wp_get, wp_pure]
  refine wp_mono (resolve_spec true path w) ?_
  intro place w' spec
  obtain ⟨after, leads, calm⟩ := spec
  rw [after.tree]
  refine ⟨after, ?_, ?_⟩
  · intro isDir
    obtain ⟨p, rfl, dir⟩ := Option.bind_eq_some_iff.mp (of_decide_eq_true isDir)
    exact ⟨p, leads p rfl, dir⟩
  · intro quiet p located dir
    rw [calm quiet, located, Option.bind_some, dir]
    rfl

theorem changeAttr_spec (path : FilePath) (change : FileNode → FileAttr) (w : FileWorld) :
    wp (changeAttr path change) (fun changed w' =>
      ((changed = false ∧ After w w.tree w') ∨
        (changed = true ∧ ∃ p, w.tree.locate true path = some p ∧
          After w (w.tree.setAttr p change) w')) ∧
      (w.faults = [] → changed = (w.tree.locate true path).isSome)) w := by
  simp only [changeAttr, wp_bind]
  refine wp_mono (resolve_spec true path w) ?_
  intro place w' spec
  obtain ⟨after, leads, calm⟩ := spec
  cases place with
  | none =>
      dsimp only
      rw [wp_pure]
      refine ⟨Or.inl ⟨rfl, after⟩, ?_⟩
      intro quiet
      rw [← calm quiet]
      rfl
  | some p =>
      dsimp only
      rw [wp_bind, wp_modify, wp_pure]
      refine ⟨Or.inr ⟨rfl, p, leads p rfl, ?_⟩, ?_⟩
      · rw [← after.tree]
        exact after.trans ⟨rfl, id⟩
      · intro quiet
        rw [← calm quiet]
        rfl

theorem attachAt_spec (overwrite : Bool) (path : FilePath) (n : Name) (node : FileNode)
    (w : FileWorld) :
    wp (attachAt overwrite (path ++ [n]) node) (fun attached w' =>
      ((attached = false ∧ After w w.tree w') ∨
        (attached = true ∧ ∃ d t, w.tree.locate true path = some d ∧
          (overwrite = true ∨ w.tree.kindAt (n :: d) = none) ∧
          w.tree.attach (n :: d) node = some t ∧ After w t w')) ∧
      (w.faults = [] → ∀ d, w.tree.locate true path = some d → w.tree.kindAt d = some .dir →
        IsName n → w.tree.kindAt (n :: d) ≠ some .dir →
        (overwrite = true ∨ w.tree.kindAt (n :: d) = none) → attached = true)) w := by
  simp only [attachAt, wp_bind, wp_get, List.dropLast_concat, List.getLast?_concat]
  refine wp_mono (resolve_spec true path w) ?_
  intro place w' spec
  obtain ⟨after, leads, calm⟩ := spec
  rw [after.tree]
  cases place with
  | none =>
      dsimp only
      rw [wp_pure]
      refine ⟨Or.inl ⟨rfl, after⟩, ?_⟩
      intro quiet d located
      rw [← calm quiet] at located
      cases located
  | some d =>
      dsimp only
      have located := leads d rfl
      by_cases taken : overwrite = false ∧ w.tree.kindAt (n :: d) ≠ none
      · rw [if_pos taken, wp_pure]
        refine ⟨Or.inl ⟨rfl, after⟩, ?_⟩
        intro _ d' located' _ _ _ free
        obtain rfl := Option.some.inj (located.symm.trans located')
        rcases free with past | none
        · rw [taken.1] at past
          cases past
        · exact absurd none taken.2
      · rw [if_neg taken]
        have free : overwrite = true ∨ w.tree.kindAt (n :: d) = none := by
          rw [not_and_or, Bool.not_eq_false, not_not] at taken
          exact taken
        cases attached : w.tree.attach (n :: d) node with
        | none =>
            dsimp only
            rw [wp_pure]
            refine ⟨Or.inl ⟨rfl, after⟩, ?_⟩
            intro _ d' located' dir name notDir _
            obtain rfl := Option.some.inj (located.symm.trans located')
            obtain ⟨t, possible⟩ := attach_of_dir node name dir notDir
            rw [attached] at possible
            cases possible
        | some t =>
            dsimp only
            rw [wp_bind, wp_set, wp_pure]
            refine ⟨Or.inr ⟨rfl, d, t, located, free, attached, ?_⟩, fun _ _ _ _ _ _ _ => rfl⟩
            exact after.trans ⟨rfl, id⟩

/-- A directory is made where nothing lies. -/
theorem gMkdir_spec (path : FilePath) (n : Name) (mode : UInt32) (w : FileWorld) :
    wp (gMkdir (path ++ [n]) mode) (fun made w' =>
      ((made = false ∧ After w w.tree w') ∨
        (made = true ∧ ∃ d t attr, w.tree.locate true path = some d ∧ w.tree.kindAt (n :: d) = none ∧
          w.tree.attach (n :: d) ⟨.dir, attr⟩ = some t ∧ After w t w')) ∧
      (w.faults = [] → ∀ d, w.tree.locate true path = some d → w.tree.kindAt d = some .dir →
        IsName n → w.tree.kindAt (n :: d) = none → made = true)) w := by
  simp only [gMkdir, wp_bind, wp_get]
  refine wp_mono (attachAt_spec false path n _ w) ?_
  intro made w' spec
  obtain ⟨outcome, calm⟩ := spec
  constructor
  · rcases outcome with failed | ⟨rfl, d, t, located, free, attached, after⟩
    · exact Or.inl failed
    · have none := free.resolve_left Bool.false_ne_true
      exact Or.inr ⟨rfl, d, t, _, located, none, attached, after⟩
  · intro quiet d located dir name none
    have notDir : w.tree.kindAt (n :: d) ≠ some .dir := by
      rw [none]
      simp
    exact calm quiet d located dir name notDir (Or.inr none)

/-- A name of a path belongs to the one part of it or to the other. -/
theorem name_of_path {known names path rest : FilePath} {n : Name}
    (way : path ++ n :: rest = known ++ names) :
    (∃ more, known = path ++ [n] ++ more) ∨
      ∃ before, path = known ++ before ∧ names = before ++ n :: rest := by
  rcases List.append_eq_append_iff.mp way with ⟨more, split, last⟩ | inside
  · cases more with
    | nil => exact Or.inr ⟨[], by simpa using split.symm, by simpa using last.symm⟩
    | cons m more =>
        rw [List.cons_append, List.cons.injEq] at last
        obtain ⟨rfl, -⟩ := last
        exact Or.inl ⟨more, by rw [split]; simp⟩
  · exact Or.inr inside

/-- At a beginning of the path lies a directory, or one can be made there. -/
def Passable (I : Tree FileAttr Str → Prop) (whole : FilePath) : Prop :=
  ∀ path n rest d t, path ++ n :: rest = whole → I t → t.locate true path = some d →
    t.kindAt d = some .dir →
    (∃ e, t.locate true (path ++ [n]) = some e ∧ t.kindAt e = some .dir) ∨
      (t.locate true (path ++ [n]) = none ∧ IsName n ∧ t.kindAt (n :: d) = none)

/-- What is put where nothing lies leaves what lies there. -/
theorem grows_attach {p : Place} {node : FileNode} (free : t.kindAt p = none)
    (attached : t.attach p node = some t') : Grows t t' := by
  obtain ⟨-, -, -, -, -, -, found⟩ := attach_spec attached
  intro q k here
  have other : q ≠ p := by
    intro same
    rw [same, free] at here
    cases here
  rw [kindAt, found, if_neg other]
  exact here

/-- `g_mkdir_with_parents` keeps what the making of one directory keeps, and succeeds where every
beginning of the path can be passed. -/
theorem mkdirFrom_spec {I : Tree FileAttr Str → Prop} {whole : FilePath} {mode : UInt32}
    (makes : ∀ path n rest d t t' attr, path ++ n :: rest = whole → I t →
      t.locate true path = some d → t.kindAt (n :: d) = none →
      t.attach (n :: d) ⟨.dir, attr⟩ = some t' → I t')
    (rest path : FilePath) (way : path ++ rest = whole) (w : FileWorld) (holds : I w.tree) :
    wp (mkdirFrom mode path rest) (fun made w' => I w'.tree ∧ w'.euid = w.euid ∧
      (w.faults = [] → Passable I whole → ∀ d, w.tree.locate true path = some d →
        w.tree.kindAt d = some .dir → made = true ∧ w'.faults = [] ∧
          ∃ e, w'.tree.locate true whole = some e ∧ w'.tree.kindAt e = some .dir)) w := by
  induction rest generalizing path w with
  | nil =>
      rw [mkdirFrom, wp_pure]
      refine ⟨holds, rfl, ?_⟩
      intro quiet _ d located isDir
      rw [List.append_nil] at way
      subst way
      exact ⟨rfl, quiet, d, located, isDir⟩
  | cons n rest ih =>
      have onwards : path ++ [n] ++ rest = whole := by
        rw [← way]
        simp
      rw [mkdirFrom, wp_bind]
      refine wp_mono (fileExists_spec (path ++ [n]) w) ?_
      intro found w₁ spec
      obtain ⟨read, -, exists'⟩ := spec
      have holds₁ : I w₁.tree := by rw [read.tree]; exact holds
      cases found with
      | true =>
          simp only [if_true, wp_bind]
          refine wp_mono (fileIsDir_spec (path ++ [n]) w₁) ?_
          intro isDir w₂ spec
          obtain ⟨read₂, -, dirFound⟩ := spec
          have after := read.read read₂
          have holds₂ : I w₂.tree := by rw [after.tree]; exact holds
          cases isDir with
          | false =>
              simp only [Bool.false_eq_true, if_false, wp_pure]
              refine ⟨holds₂, after.euid, ?_⟩
              intro quiet passable d located dir
              rcases passable path n rest d _ way holds located dir with
                ⟨e, leads, dirE⟩ | ⟨missing, -, -⟩
              · rw [← read.tree] at leads dirE
                have success := dirFound (read.calm quiet) e leads dirE
                cases success
              · have absent := exists' quiet
                rw [missing] at absent
                cases absent
          | true =>
              simp only [if_true]
              refine wp_mono (ih (path ++ [n]) onwards w₂ holds₂) ?_
              intro made w₃ spec
              obtain ⟨holds₃, same, calm⟩ := spec
              refine ⟨holds₃, same.trans after.euid, ?_⟩
              intro quiet passable d located dir
              rcases passable path n rest d _ way holds located dir with
                ⟨e, leads, dirE⟩ | ⟨missing, -, -⟩
              · rw [← after.tree] at leads dirE
                exact calm (after.calm quiet) passable e leads dirE
              · have absent := exists' quiet
                rw [missing] at absent
                cases absent
      | false =>
          simp only [Bool.false_eq_true, if_false, wp_bind]
          refine wp_mono (gMkdir_spec path n mode w₁) ?_
          intro done w₂ spec
          obtain ⟨outcome, succeeds⟩ := spec
          rw [read.tree] at outcome succeeds
          -- where nothing was found the directory can be made
          have possible : w.faults = [] → Passable I whole → ∀ d, w.tree.locate true path = some d →
              w.tree.kindAt d = some .dir → done = true := by
            intro quiet passable d located dir
            rcases passable path n rest d _ way holds located dir with
              ⟨e, leads, -⟩ | ⟨-, name, free⟩
            · have present := exists' quiet
              rw [leads] at present
              cases present
            · exact succeeds (read.calm quiet) d located dir name free
          rcases outcome with ⟨rfl, after⟩ | ⟨rfl, d, t', attr, located, free, attached, after⟩
          · simp only [Bool.false_eq_true, if_false, wp_pure]
            have whole' : After w w.tree w₂ := read.trans after
            refine ⟨by rw [whole'.tree]; exact holds, whole'.euid, ?_⟩
            intro quiet passable d located dir
            have success := possible quiet passable d located dir
            cases success
          · simp only [if_true]
            have after' : After w t' w₂ := read.trans after
            have holds₂ : I w₂.tree := by
              rw [after'.tree]
              exact makes path n rest d _ t' attr way holds located free attached
            refine wp_mono (ih (path ++ [n]) onwards w₂ holds₂) ?_
            intro made w₃ spec
            obtain ⟨holds₃, same, calm⟩ := spec
            refine ⟨holds₃, same.trans after'.euid, ?_⟩
            intro quiet passable d' located' _
            obtain rfl := Option.some.inj (located.symm.trans located')
            obtain ⟨-, -, -, -, -, -, self⟩ := attach_spec attached
            have made' : t'.kindAt (n :: d) = some .dir := by
              rw [kindAt, self, if_pos rfl, Option.map_some]
            have noLink : t'.NoLink (n :: d) := by
              intro text
              rw [made']
              simp
            have leads : t'.locate true (path ++ [n]) = some (n :: d) := by
              apply locate_entry
              · rw [made']
                simp
              · exact Or.inl noLink
              · exact (grows_attach free attached).locate located
            rw [← after'.tree] at leads made'
            exact calm (after'.calm quiet) passable _ leads made'

end Calls

end Gumd
