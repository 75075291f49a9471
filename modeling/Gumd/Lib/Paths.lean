import Mathlib.Data.List.DropRight
import Mathlib.Tactic.SplitIfs

/-!
# Paths

A path is a text with separators.  Two paths are joined with one separator between them; a path
begins with a root if the root is a prefix of it, where the separators at the end of the root count
as one.
-/

namespace Paths

variable {α : Type} [DecidableEq α] {sep : α}

/-- A path without the separators at its end. -/
def trim (sep : α) (path : List α) : List α := path.rdropWhile (· = sep)

/-- A path with at most one separator at its end. -/
def collapse (sep : α) (path : List α) : List α :=
  if path.getLast? = some sep then trim sep path ++ [sep] else path

/-- The second path below the first one.  An empty path is ignored, and the separators between the
two are collapsed to one. -/
def build (sep : α) (first second : List α) : List α :=
  let rest := second.dropWhile (· = sep)
  if second = [] then first
  else if first = [] then second
  else if rest = [] then trim sep first ++ second
  else if trim sep first = [] then first ++ rest
  else trim sep first ++ sep :: rest

/-- A path begins with a root. -/
def Begins (sep : α) (root path : List α) : Prop := collapse sep root <+: path

instance (root path : List α) : Decidable (Begins sep root path) :=
  inferInstanceAs (Decidable (collapse sep root <+: path))

/-- Separators are cut off a path. -/
theorem trim_append (sep : α) (path : List α) :
    ∃ n, path = trim sep path ++ List.replicate n sep := by
  refine ⟨(path.rtakeWhile (· = sep)).length, ?_⟩
  have seps : path.rtakeWhile (· = sep) = List.replicate (path.rtakeWhile (· = sep)).length sep :=
    List.eq_replicate_of_mem fun c mem => by simpa using List.mem_rtakeWhile_imp mem
  rw [← seps]
  exact List.rdropWhile_append_rtakeWhile.symm

/-- A path that does not end with a separator is not cut. -/
theorem trim_of_getLast? {path : List α} (last : path.getLast? ≠ some sep) : trim sep path = path := by
  rw [trim, List.rdropWhile_eq_self_iff]
  intro given same
  rw [List.getLast?_eq_some_getLast given, of_decide_eq_true same] at last
  exact last rfl

theorem collapse_start (sep : α) (path : List α) : collapse sep path <+: path := by
  obtain ⟨n, split⟩ := trim_append sep path
  rw [collapse]
  split_ifs with last
  · cases n with
    | zero =>
      -- a path that is not cut does not end with a separator
      rw [List.replicate_zero, List.append_nil] at split
      have given : path ≠ [] := by
        rintro rfl
        cases last
      have kept := (List.rdropWhile_eq_self_iff (p := fun c => decide (c = sep))).mp split.symm given
      rw [List.getLast?_eq_some_getLast given] at last
      exact absurd (decide_eq_true (Option.some.inj last)) kept
    | succ n =>
      refine ⟨List.replicate n sep, ?_⟩
      rw [List.append_assoc, List.singleton_append, ← List.replicate_succ]
      exact split.symm
  · exact List.prefix_rfl

/-! ## Paths below a root -/

theorem Begins.append {root path : List α} (begins : Begins sep root path) (more : List α) :
    Begins sep root (path ++ more) :=
  begins.trans (List.prefix_append path more)

/-- A path that is built begins with its first part. -/
theorem begins_build {root : List α} (given : root ≠ []) (path : List α) :
    Begins sep root (build sep root path) := by
  have whole : ∀ more, Begins sep root (root ++ more) :=
    fun more => (collapse_start sep root).trans (List.prefix_append root more)
  -- what is put behind the trimmed root starts with a separator
  have below : ∀ more, Begins sep root (trim sep root ++ sep :: more) := by
    intro more
    rw [Begins, collapse]
    split_ifs with last
    · exact ⟨more, by simp⟩
    · rw [trim_of_getLast? last]
      exact List.prefix_append _ _
  simp only [build, given, if_false]
  split_ifs with empty seps slashes
  · exact collapse_start sep root
  · cases path with
    | nil => exact absurd rfl empty
    | cons c more =>
      have all := List.dropWhile_eq_nil_iff.mp seps c List.mem_cons_self
      rw [of_decide_eq_true all]
      exact below more
  · exact whole _
  · exact below _

end Paths
