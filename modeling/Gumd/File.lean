import Gumd.Database
import Gumd.Lib.StateWp
import Gumd.Lib.EntryLoop
import Mathlib.Data.Stream.Init

/-!
# The process and its database files

`World` is what an operation reads and writes besides its object: the files, the process holding
the database lock, the caller's `GError`, and the streams of outcomes of the system calls to come.
-/

namespace Gumd

open StateWp EntryLoop

/-- The system call of a rewrite that fails. -/
inductive FileFault where
  | openSource
  | openDup
  | smackAttr
  | copyAttr
  | put
  | sync
  | move
  deriving DecidableEq, Repr

def FileFault.error : FileFault → GError
  | .openSource => ⟨.fileOpen, "Unable to open orig file"⟩
  | .openDup => ⟨.fileOpen, "Unable to open new file"⟩
  | .smackAttr => ⟨.fileAttribute, "Unable to set smack file attributes"⟩
  | .copyAttr => ⟨.fileAttribute, "Unable to get/set file attributes"⟩
  | .put => ⟨.fileWrite, "File write failure"⟩
  | .sync => ⟨.fileWrite, "File write failure"⟩
  | .move => ⟨.fileMove, "Unable to move file"⟩

/-- Whether the failure comes after the callback has run. -/
def FileFault.late : FileFault → Bool
  | .sync | .move => true
  | _ => false

/-- The outcomes of the next system calls: `lckpwdf`, `ulckpwdf`, opening the passwd or group file to
read it, opening one of the other files to read it, and rewriting a file. -/
structure Faults where
  lock : Stream' Bool
  unlock : Stream' Bool
  read : Stream' Bool
  readShadow : Stream' Bool
  write : Stream' (Option FileFault)

/-- The process: `lock_count` and its user ids.  `lock_count` is a `gint`; what happens when it is
increased at `G_MAXINT` is undefined in C, and here only noted. -/
structure Process where
  lockCount : Nat
  overflowed : Bool
  ruid : UInt32
  euid : UInt32
  suid : UInt32
  deriving DecidableEq, Repr

structure World where
  files : Files
  faults : Faults
  process : Process
  error : Option GError

/-! ## `gum-utils` and `gum-lock` -/

/-- `seteuid`: only the real, the saved and, for root, any uid can be set. -/
def Process.seteuid (p : Process) (uid : UInt32) : Process :=
  if p.euid = 0 ∨ uid = p.ruid ∨ uid = p.suid then { p with euid := uid } else p

def gumUtilsGainPrivileges (p : Process) : Process := p.seteuid 0

def gumUtilsDropPrivileges (p : Process) : Process := p.seteuid p.ruid

def gumLockPwdfLock : StateM World Bool := do
  let w ← get
  if w.process.lockCount = 0 then
    let p := gumUtilsGainPrivileges w.process
    let faults := { w.faults with lock := w.faults.lock.tail }
    if w.faults.lock.head then
      set { w with faults := faults, process := { p with lockCount := 1 } }
      return true
    else
      set { w with faults := faults, process := p }
      return false
  else
    set { w with process := { w.process with
      lockCount := w.process.lockCount + 1
      overflowed := w.process.overflowed || decide (gMaxint ≤ w.process.lockCount) } }
    return true

def gumLockPwdfUnlock : StateM World Bool := do
  let w ← get
  if w.process.lockCount = 0 then return false
  let p := { w.process with lockCount := w.process.lockCount - 1 }
  if p.lockCount = 0 then
    let faults := { w.faults with unlock := w.faults.unlock.tail }
    if w.faults.unlock.head then
      set { w with faults := faults, process := gumUtilsDropPrivileges p }
      return true
    else
      set { w with faults := faults, process := p }
      return false
  else
    set { w with process := p }
    return true

/-! ## Errors -/

/-- `GUM_RETURN_WITH_ERROR`. -/
def gumReturnWithError {α : Type} (error : GError) (retval : α) : StateM World α := do
  modify fun w => { w with error := some error }
  return retval

/-- A call whose `GError` argument is `NULL`. -/
def withNullError {α : Type} (m : StateM World α) : StateM World α := do
  let error := (← get).error
  let retval ← m
  modify fun w => { w with error := error }
  return retval

/-! ## `gum-file` -/

/-- The outcome of opening the passwd or group file to read it. -/
def openFile : StateM World Bool := do
  let w ← get
  set { w with faults := { w.faults with read := w.faults.read.tail } }
  return w.faults.read.head

/-- The outcome of opening the shadow, gshadow or a user information file to read it. -/
def openShadowFile : StateM World Bool := do
  let w ← get
  set { w with faults := { w.faults with readShadow := w.faults.readShadow.tail } }
  return w.faults.readShadow.head

/-- A lookup opens the file, reads it up to the wanted entry and closes it.  A file that cannot be
opened has no entries. -/
def gumFileLookup {ε : Type} (fopen : StateM World Bool) (found : Files → Option ε) :
    StateM World (Option ε) := do
  if ← fopen then return found (← get).files
  return none

def gumFileGetpwnam (username : Option Str) : StateM World (Option Passwd) :=
  match username with
  | none => return none
  | some name => gumFileLookup openFile (·.getpwnam name)

def gumFileGetpwuid (uid : UInt32) : StateM World (Option Passwd) :=
  gumFileLookup openFile (·.getpwuid uid)

def gumFileFindUserByGid (primaryGid : UInt32) : StateM World (Option Passwd) :=
  if primaryGid = gumGroupInvalidGid then return none
  else gumFileLookup openFile (·.passwd.find? (·.pwGid == primaryGid))

def gumFileGetspnam (username : Option Str) : StateM World (Option Spwd) :=
  match username with
  | none => return none
  | some name => gumFileLookup openShadowFile (·.getspnam name)

def gumFileGetgrnam (grname : Option Str) : StateM World (Option Group) :=
  match grname with
  | none => return none
  | some name => gumFileLookup openFile (·.getgrnam name)

def gumFileGetgrgid (gid : UInt32) : StateM World (Option Group) :=
  gumFileLookup openFile (·.getgrgid gid)

/-- `gum_file_getsgnam`, which tests that the file exists before it opens it. -/
def gumFileGetsgnam (grname : Option Str) : StateM World (Option Sgrp) := do
  match grname with
  | none => return none
  | some name =>
      if (← get).files.gshadow.isNone then return none
      gumFileLookup openShadowFile (·.getsgnam name)

/-- A lookup made under a condition, with the value that stands otherwise. -/
def lookupIf {ε : Type} (c : Prop) [Decidable c] (m : StateM World (Option ε))
    (other : Option ε) : StateM World (Option ε) :=
  if c then m else pure other

/-- `GumOpType`. -/
inductive GumOpType where
  | add
  | delete
  | modify
  deriving DecidableEq, Repr

/-- What a rewrite comes to: the failing system call decides, unless the callback had already
failed before it. -/
def updateOutcome {ε : Type} (fault : Option FileFault) (result : Except GError (List ε)) :
    Except GError (List ε) :=
  match fault, result with
  | none, result => result
  | some fault, .ok _ => .error fault.error
  | some fault, .error e => .error (if fault.late then e else fault.error)

/-- `gum_file_update`: the callback turns the entries of the source file into those of the
duplicate, which replaces the source file once it is closed. -/
def gumFileUpdate {ε : Type} (file : DbFile ε)
    (callback : List ε → Except GError (List ε)) : StateM World Bool := do
  let w ← get
  set { w with faults := { w.faults with write := w.faults.write.tail } }
  match file.entries w.files with
  | none => gumReturnWithError FileFault.openSource.error false
  | some entries =>
      match updateOutcome (w.faults.write.head) (callback entries) with
      | .error e => gumReturnWithError e false
      | .ok out =>
          modify fun w => { w with files := file.rename out w.files }
          return true

/-! ## Rewriting entries

The four `_update_*_entry` callbacks copy the entries and edit once. -/

/-- What a callback does after its loop: append the new entry of an `ADD` that was not inserted,
and fail if nothing was edited.  `put` is `NULL` where `put*ent` rejects the record. -/
def finishUpdate {ε : Type} (op : GumOpType) (put : Option ε) (addError incomplete : GError)
    (copied : Except GError (Bool × List ε)) : Except GError (List ε) :=
  match copied with
  | .error e => .error e
  | .ok (true, out) => .ok out
  | .ok (false, out) =>
      if op = .add then
        match put with
        | some new => .ok (out ++ [new])
        | none => .error addError
      else .error incomplete

/-- The error of every failing `put*ent` inside the loops. -/
def fileWriteFailure : GError := ⟨.fileWrite, "File write failure"⟩

/-- Replace the entry by the record, unless `put*ent` rejects it. -/
def putVisit {ε : Type} (put : Option ε) (visit : ε → Visit ε GError) : Visit ε GError :=
  match put with
  | some new => visit new
  | none => .refuse fileWriteFailure

end Gumd
