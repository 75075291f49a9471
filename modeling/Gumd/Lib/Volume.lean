import Mathlib.Logic.Function.Basic
import Mathlib.Order.Basic
import Mathlib.Tactic.SplitIfs

/-!
# Names and files of a volume

A name leads to a file, and several names may lead to the same one.  What has been written to a file is
lost in a power failure unless it has been synchronised; changes of names are not lost.
-/

namespace Gumd

/-- A file: its content, and whether all of it is on the disk. -/
structure Inode (ε : Type) where
  content : List ε
  synced : Bool

/-- A volume; the files numbered from `next` on do not exist yet. -/
structure Volume (π ε : Type) where
  entries : π → Option Nat
  inodes : Nat → Inode ε
  next : Nat
  fresh : ∀ path i, entries path = some i → i < next

namespace Volume

variable {π ε : Type}

/-! ## Calls -/

def content (v : Volume π ε) (i : Nat) : List ε := (v.inodes i).content

/-- What is found under a name. -/
def read (v : Volume π ε) (path : π) : Option (List ε) := (v.entries path).map v.content

/-- Change a file that exists. -/
def setInode (i : Nat) (inode : Inode ε) (v : Volume π ε) : Volume π ε :=
  { v with inodes := Function.update v.inodes i inode }

@[simp] theorem setInode_inodes (v : Volume π ε) (i : Nat) (inode : Inode ε) :
    (v.setInode i inode).inodes i = inode := Function.update_self ..

@[simp] theorem content_setInode (v : Volume π ε) (i : Nat) (inode : Inode ε) :
    (v.setInode i inode).content i = inode.content := congrArg Inode.content (setInode_inodes v i inode)

/-- `write` at the end. -/
def append (i : Nat) (written : List ε) (v : Volume π ε) : Volume π ε :=
  v.setInode i ⟨v.content i ++ written, false⟩

/-- `fsync`. -/
def sync (i : Nat) (v : Volume π ε) : Volume π ε := v.setInode i ⟨v.content i, true⟩

section Names

variable [DecidableEq π]

/-- `open` to write: the file is emptied if there is one, and created otherwise. -/
def create (path : π) (v : Volume π ε) : Nat × Volume π ε :=
  match v.entries path with
  | some i => (i, v.setInode i ⟨[], false⟩)
  | none =>
      (v.next,
        { entries := Function.update v.entries path (some v.next)
          inodes := Function.update v.inodes v.next ⟨[], false⟩
          next := v.next + 1
          fresh := by
            intro other i found
            by_cases same : other = path
            · subst same
              rw [Function.update_self] at found
              cases found
              exact v.next.lt_succ_self
            · rw [Function.update_of_ne same] at found
              exact Nat.lt_succ_of_lt (v.fresh other i found) })

def unlink (path : π) (v : Volume π ε) : Volume π ε :=
  { v with
    entries := Function.update v.entries path none
    fresh := by
      intro other i found
      by_cases same : other = path
      · subst same
        rw [Function.update_self] at found
        cases found
      · rw [Function.update_of_ne same] at found
        exact v.fresh other i found }

/-- Make a name lead to where another one does. -/
def setEntry (path newPath : π) (v : Volume π ε) : Volume π ε :=
  { v with
    entries := Function.update v.entries newPath (v.entries path)
    fresh := by
      intro other i found
      by_cases same : other = newPath
      · subst same
        rw [Function.update_self] at found
        exact v.fresh path i found
      · rw [Function.update_of_ne same] at found
        exact v.fresh other i found }

/-- `link`, for a new name only. -/
def link (path newPath : π) (v : Volume π ε) : Volume π ε :=
  if (v.entries path).isSome ∧ v.entries newPath = none then v.setEntry path newPath else v

/-- `rename`, which does nothing to two names of one file. -/
def rename (path newPath : π) (v : Volume π ε) : Volume π ε :=
  if v.entries path = none ∨ v.entries path = v.entries newPath then v
  else (v.setEntry path newPath).unlink path

end Names

/-- What has not been synchronised is lost. -/
def powerFailure (garbage : Nat → List ε) (v : Volume π ε) : Volume π ε :=
  { v with inodes := fun i => if (v.inodes i).synced then v.inodes i else ⟨garbage i, true⟩ }

/-! ## Files that no longer change -/

variable (Scratch : π → Prop)

/-- A file on the disk under none of the names that are written to. -/
structure Sealed (v : Volume π ε) (i : Nat) : Prop where
  exist : i < v.next
  synced : (v.inodes i).synced = true
  kept : ∀ path, Scratch path → v.entries path ≠ some i

/-- Files that no longer change have not changed. -/
def Preserves (v w : Volume π ε) : Prop :=
  ∀ i, v.Sealed Scratch i → w.Sealed Scratch i ∧ w.content i = v.content i

variable {Scratch} {v w : Volume π ε} {path newPath : π} {i : Nat}

theorem Preserves.refl (v : Volume π ε) : v.Preserves Scratch v := fun _ still => ⟨still, rfl⟩

theorem Preserves.trans {x : Volume π ε} (first : v.Preserves Scratch w)
    (second : w.Preserves Scratch x) : v.Preserves Scratch x := by
  intro i still
  obtain ⟨still, same⟩ := first i still
  obtain ⟨still, same'⟩ := second i still
  exact ⟨still, same'.trans same⟩

theorem preserves_setInode (scratch : Scratch path) (open_ : v.entries path = some i)
    (inode : Inode ε) : v.Preserves Scratch (v.setInode i inode) := by
  intro j still
  have other : j ≠ i := by
    rintro rfl
    exact still.kept path scratch open_
  have same : (v.setInode i inode).inodes j = v.inodes j := Function.update_of_ne other ..
  refine ⟨⟨still.exist, ?_, still.kept⟩, ?_⟩
  · rw [same]
    exact still.synced
  · rw [content, same, content]

theorem preserves_powerFailure (garbage : Nat → List ε) (v : Volume π ε) :
    v.Preserves Scratch (v.powerFailure garbage) := by
  intro j still
  have same : (v.powerFailure garbage).inodes j = v.inodes j := if_pos still.synced
  refine ⟨⟨still.exist, ?_, still.kept⟩, ?_⟩
  · rw [same]
    exact still.synced
  · rw [content, same, content]

section Names

variable [DecidableEq π]

/-! ## Where the names lead -/

@[simp] theorem entries_unlink (path : π) (v : Volume π ε) : (v.unlink path).entries path = none :=
  Function.update_self ..

theorem entries_unlink_of_ne {name : π} (other : name ≠ path) :
    (v.unlink path).entries name = v.entries name := Function.update_of_ne other ..

/-- What a name leads to has been there before another name was removed. -/
theorem entries_of_unlink {name : π} (found : (v.unlink path).entries name = some i) :
    name ≠ path ∧ v.entries name = some i := by
  have other : name ≠ path := by
    rintro rfl
    rw [entries_unlink] at found
    cases found
  rw [entries_unlink_of_ne other] at found
  exact ⟨other, found⟩

@[simp] theorem entries_setEntry (path newPath : π) (v : Volume π ε) :
    (v.setEntry path newPath).entries newPath = v.entries path := Function.update_self ..

theorem entries_setEntry_of_ne {name : π} (other : name ≠ newPath) :
    (v.setEntry path newPath).entries name = v.entries name := Function.update_of_ne other ..

theorem entries_link_of_ne {name : π} (other : name ≠ newPath) :
    (v.link path newPath).entries name = v.entries name := by
  rw [link]
  split_ifs
  · exact entries_setEntry_of_ne other
  · rfl

@[simp] theorem inodes_link (path newPath : π) (v : Volume π ε) :
    (v.link path newPath).inodes = v.inodes := by
  rw [link]
  split_ifs <;> rfl

@[simp] theorem inodes_rename (path newPath : π) (v : Volume π ε) :
    (v.rename path newPath).inodes = v.inodes := by
  rw [rename]
  split_ifs <;> rfl

section Rename

variable (found : v.entries path = some i) (other : v.entries newPath ≠ some i)

include found other

/-- The names of two files. -/
theorem rename_eq : v.rename path newPath = (v.setEntry path newPath).unlink path := by
  rw [rename, if_neg]
  rintro (absent | same)
  · rw [found] at absent
    cases absent
  · exact other (same ▸ found)

theorem entries_rename : (v.rename path newPath).entries newPath = some i := by
  have differs : newPath ≠ path := by
    rintro rfl
    exact other found
  rw [rename_eq found other, entries_unlink_of_ne differs, entries_setEntry, found]

theorem entries_rename_of_ne {name : π} (notNew : name ≠ newPath) (notOld : name ≠ path) :
    (v.rename path newPath).entries name = v.entries name := by
  rw [rename_eq found other, entries_unlink_of_ne notOld, entries_setEntry_of_ne notNew]

end Rename

/-! ## What the calls preserve -/

theorem preserves_create (scratch : Scratch path) : v.Preserves Scratch (v.create path).2 := by
  rw [create]
  cases found : v.entries path with
  | some i => exact preserves_setInode scratch found _
  | none =>
    intro j still
    have other : j ≠ v.next := Nat.ne_of_lt still.exist
    refine ⟨⟨Nat.lt_succ_of_lt still.exist, ?_, fun name isScratch => ?_⟩, ?_⟩
    · dsimp only
      rw [Function.update_of_ne other]
      exact still.synced
    · dsimp only
      by_cases same : name = path
      · subst same
        rw [Function.update_self]
        exact fun leads => other (Option.some.inj leads).symm
      · rw [Function.update_of_ne same]
        exact still.kept name isScratch
    · dsimp only [content]
      rw [Function.update_of_ne other]

theorem preserves_unlink (path : π) (v : Volume π ε) : v.Preserves Scratch (v.unlink path) := by
  intro j still
  exact ⟨⟨still.exist, still.synced, fun name isScratch found =>
    still.kept name isScratch (entries_of_unlink found).2⟩, rfl⟩

theorem preserves_setEntry (kept : ¬Scratch newPath) (path : π) (v : Volume π ε) :
    v.Preserves Scratch (v.setEntry path newPath) := by
  intro j still
  refine ⟨⟨still.exist, still.synced, fun name isScratch => ?_⟩, rfl⟩
  have other : name ≠ newPath := fun same => kept (same ▸ isScratch)
  rw [entries_setEntry_of_ne other]
  exact still.kept name isScratch

theorem preserves_link (kept : ¬Scratch newPath) (path : π) (v : Volume π ε) :
    v.Preserves Scratch (v.link path newPath) := by
  rw [link]
  split_ifs
  · exact preserves_setEntry kept path v
  · exact .refl v

theorem preserves_rename (kept : ¬Scratch newPath) (path : π) (v : Volume π ε) :
    v.Preserves Scratch (v.rename path newPath) := by
  rw [rename]
  split_ifs
  · exact .refl v
  · exact (preserves_setEntry kept path v).trans (preserves_unlink path _)

end Names

end Volume

end Gumd
