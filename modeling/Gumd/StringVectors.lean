import Gumd.Lib.Cells
import Gumd.StringUtils

/-!
# String vectors in memory

The vector helpers of `gum-string-utils` as they run over blocks of cells, with the allocations,
the counters and the writes of the sources.  The results are those of the list functions, and every
write falls inside the block that was allocated.

A run without a result is one that the program does not survive or that is undefined: an access
outside a block, a counter that pastflows, an allocation of a negative size.
-/

namespace Gumd

open Cells

variable {v : List Str} {x y : Str}

/-! ## The functions -/

/-- `g_malloc0 (sizeof (gchar *) * len)`: a negative `len` is an enormous size, and the program is
aborted. -/
def gMalloc0 (len : Int) : Option (Block Str) :=
  if 0 ≤ len then some (List.replicate len.toNat none) else none

/-- `len + n` of a `gint`. -/
def gintAdd (len : Int) (n : Nat) : Option Int :=
  if len + n ≤ gMaxint then some (len + n) else none

/-- `g_strv_length`, kept in a `gint`. -/
def gStrvLength (strv : Block Str) : Option Int := (vector strv).map fun v => toGint v.length

/-- `gum_string_utils_search_stringv`. -/
def searchStringv (stringv : Block Str) (searchStr : Str) : Option Bool :=
  searchLoop gMaxint searchStr stringv 0

/-- `gum_string_utils_delete_string`, which returns `NULL` where the string is not found. -/
def deleteString (srcStrv : Block Str) (string : Str) : Option (Option (Block Str)) := do
  let found ← searchStringv srcStrv string
  if !found then return none
  let len ← gStrvLength srcStrv
  let destStrv ← gMalloc0 len
  let (_, dind, destStrv) ← copyLoop gMaxint (· ≠ string) srcStrv 0 0 destStrv
  let destStrv ← write destStrv dind none
  return some destStrv

/-- `gum_string_utils_append_string`. -/
def appendString (srcStrv : Block Str) (string : Str) : Option (Block Str) := do
  let len ← gStrvLength srcStrv
  let size ← gintAdd len 2
  let destStrv ← gMalloc0 size
  let (ind, _, destStrv) ← copyLoop gMaxint (fun _ => true) srcStrv 0 0 destStrv
  let destStrv ← write destStrv ind (some string)
  let ind ← next gMaxint ind
  write destStrv ind none

/-- What the edits of a vector promise: the elements of the results, the sizes of their blocks,
and what a search finds in them. -/
structure EditedExactly (v : List Str) (x y : Str) : Prop where
  delete : x ∈ v → ∃ cells, deleteString (ofVector v) x = some (some cells) ∧
    cells.length = v.length ∧ vector cells = some (v.filter (· ≠ x))
  append : ∃ cells, appendString (ofVector v) x = some cells ∧
    cells.length = v.length + 2 ∧ vector cells = some (v ++ [x])
  search_append : ∀ cells, appendString (ofVector v) x = some cells →
    ∃ found, searchStringv cells y = some found ∧ (found = true ↔ y = x ∨ y ∈ v)
  search_delete : ∀ cells, deleteString (ofVector v) x = some (some cells) →
    ∃ found, searchStringv cells y = some found ∧ (found = true ↔ y ∈ v ∧ y ≠ x)
  delete_append : x ∉ v → ∀ appended, appendString (ofVector v) x = some appended →
    ∃ cells, deleteString appended x = some (some cells) ∧ vector cells = some v

/-! ## Their results -/

theorem gMalloc0_eq (n : Nat) : gMalloc0 n = some (filled [] n) := by
  rw [gMalloc0, if_pos (Int.natCast_nonneg n), Int.toNat_natCast]
  rfl

/-- The search is that of the list. -/
theorem searchStringv_eq {block : Block Str} (holds : vector block = some v)
    (bound : v.length ≤ gMaxint) :
    searchStringv block x = some (gumStringUtilsSearchStringv (some v) (some x)) := by
  have listed : (v.any fun y => decide (x = y)) =
      gumStringUtilsSearchStringv (some v) (some x) := by
    rw [Bool.eq_iff_iff, gumStringUtilsSearchStringv_some]
    simp
  rw [← listed]
  exact searchLoop_eq holds (by omega)

/-- A deletion drops an element. -/
theorem length_filter_lt (mem : x ∈ v) : (v.filter (· ≠ x)).length < v.length := by
  apply List.length_filter_lt_length_iff_exists.mpr
  exact ⟨x, mem, by simp⟩

/-- A deletion of a string that is found fills a block of `length (v)` cells. -/
theorem deleteString_of_mem {block : Block Str} (holds : vector block = some v)
    (bound : v.length ≤ gMaxint) (mem : x ∈ v) :
    ∃ free, (v.filter (· ≠ x)).length + (free + 1) = v.length ∧
      deleteString block x = some (some (filled (v.filter (· ≠ x)) (free + 1))) := by
  have shorter := length_filter_lt mem
  have found : searchStringv block x = some true := by
    rw [searchStringv_eq holds bound, (gumStringUtilsSearchStringv_some v x).mpr mem]
  have copied := copyLoop_eq gMaxint (· ≠ x) [] v.length 0 holds
    (by omega) Nat.le.refl (Nat.le_of_lt shorter)
  obtain ⟨free, left⟩ : ∃ free, v.length - (v.filter (· ≠ x)).length = free + 1 :=
    ⟨v.length - (v.filter (· ≠ x)).length - 1, by omega⟩
  refine ⟨free, by omega, ?_⟩
  rw [left] at copied
  simp only [List.length_nil, List.nil_append, Nat.zero_add] at copied
  have allocated : gStrvLength block = some (v.length : Int) := by
    rw [gStrvLength, holds, Option.map_some, toGint_of_le bound]
  simp only [deleteString, found, allocated, gMalloc0_eq, copied, write_terminator, Option.bind_eq_bind,
    Option.bind_some, Bool.not_true, Bool.false_eq_true, if_false, Option.pure_def]

/-- A deletion of a string that is not found returns `NULL`. -/
theorem deleteString_of_not_mem {block : Block Str} (holds : vector block = some v)
    (bound : v.length ≤ gMaxint) (absent : x ∉ v) : deleteString block x = some none := by
  have missing : searchStringv block x = some false := by
    rw [searchStringv_eq holds bound, Option.some.injEq, ← Bool.not_eq_true,
      gumStringUtilsSearchStringv_some]
    exact absent
  simp only [deleteString, missing, Option.bind_eq_bind, Option.bind_some, Bool.not_false, if_true,
    Option.pure_def]

/-- An addition fills a block of `length (v) + 2` cells. -/
theorem appendString_eq {block : Block Str} (holds : vector block = some v)
    (bound : v.length + 2 ≤ gMaxint) :
    appendString block x = some (filled (v ++ [x]) 1) := by
  have allocated : gStrvLength block = some (v.length : Int) := by
    rw [gStrvLength, holds, Option.map_some, toGint_of_le (by omega)]
  have size : gintAdd v.length 2 = some ((v.length + 2 : Nat) : Int) := by
    rw [gintAdd, if_pos (by omega)]
    rfl
  have copied := copyLoop_eq gMaxint (fun _ => true) [] (v.length + 2) 0 holds
    (by omega) Nat.le.refl (by simp)
  simp only [List.length_nil, List.nil_append, Nat.zero_add, List.filter_true,
    Nat.add_sub_cancel_left] at copied
  have terminated : write (filled (v ++ [x]) 1) (v.length + 1) none =
      some (filled (v ++ [x]) 1) := by
    have at_end := write_terminator (v ++ [x]) 0
    rwa [List.length_append, List.length_singleton] at at_end
  have counted : next gMaxint v.length = some (v.length + 1) := next_of_lt (by omega)
  unfold appendString
  rw [allocated, Option.bind_eq_bind, Option.bind_some, size, Option.bind_eq_bind, Option.bind_some,
    gMalloc0_eq, Option.bind_eq_bind, Option.bind_some, copied, Option.bind_eq_bind, Option.bind_some]
  dsimp only
  rw [write_filled, Option.bind_some, counted, Option.bind_some, terminated]

/-- A vector that is too long is not extended. -/
theorem appendString_of_gt (past : gMaxint < v.length + 2) : appendString (ofVector v) x = none := by
  have stuck : ∀ dest, gMaxint < v.length →
      copyLoop gMaxint (fun _ => true) (ofVector v) 0 0 dest = none := by
    intro dest far
    exact copyLoop_of_gt (vector_ofVector v) (Nat.zero_le _) (by omega)
  have len : gStrvLength (ofVector v) = some (toGint v.length) := by
    rw [gStrvLength, vector_ofVector, Option.map_some]
  unfold appendString
  by_cases far : gMaxint < v.length
  · simp only [stuck _ far, Option.bind_eq_bind, Option.bind_none, Option.bind_eq_none_iff,
      implies_true]
  · have size : gintAdd (toGint v.length) 2 = none := by
      rw [toGint_of_le (Nat.not_lt.mp far), gintAdd, if_neg (by omega)]
    rw [len, Option.bind_eq_bind, Option.bind_some, size]
    rfl

/-- The list functions are what the functions over blocks compute. -/
theorem stringVectors_refine {block : Block Str} (holds : vector block = some v)
    (bound : v.length + 2 ≤ gMaxint) (x : Str) :
    searchStringv block x = some (gumStringUtilsSearchStringv (some v) (some x)) ∧
    (∃ result, deleteString block x = some result ∧
      result.bind vector = gumStringUtilsDeleteString (some v) (some x)) ∧
    (∃ cells, appendString block x = some cells ∧
      vector cells = some (gumStringUtilsAppendString (some v) x)) := by
  refine ⟨searchStringv_eq holds (by omega), ?_, ?_⟩
  · by_cases mem : x ∈ v
    · obtain ⟨free, -, deleted⟩ := deleteString_of_mem holds (by omega) mem
      refine ⟨_, deleted, ?_⟩
      rw [Option.bind_some, vector_filled, gumStringUtilsDeleteString_of_mem mem]
    · refine ⟨none, deleteString_of_not_mem holds (by omega) mem, ?_⟩
      have missing : gumStringUtilsSearchStringv (some v) (some x) = false := by
        rw [← Bool.not_eq_true, gumStringUtilsSearchStringv_some]
        exact mem
      simp only [gumStringUtilsDeleteString, missing, Bool.false_eq_true, if_false, Option.bind_none]
  · exact ⟨_, appendString_eq holds bound, vector_filled (v ++ [x]) 0⟩

/-- A search in a block reports membership. -/
theorem searchStringv_found {block : Block Str} (holds : vector block = some v)
    (bound : v.length ≤ gMaxint) (y : Str) :
    ∃ found, searchStringv block y = some found ∧ (found = true ↔ y ∈ v) :=
  ⟨_, searchStringv_eq holds bound, gumStringUtilsSearchStringv_some v y⟩

/-- The vector helpers edit exactly and within bounds if and only if the counters can count the
extended vector. -/
theorem editedExactly_iff (v : List Str) (x y : Str) :
    EditedExactly v x y ↔ v.length + 2 ≤ gMaxint := by
  have source : vector (ofVector v) = some v := vector_ofVector v
  constructor
  · intro exact
    by_contra past
    obtain ⟨cells, appended, -⟩ := exact.append
    rw [appendString_of_gt (Nat.lt_of_not_le past)] at appended
    cases appended
  · intro bound
    have appendedHolds : vector (filled (v ++ [x]) 1) = some (v ++ [x]) := vector_filled (v ++ [x]) 0
    have appendedBound : (v ++ [x]).length ≤ gMaxint := by
      rw [List.length_append, List.length_singleton]
      omega
    constructor
    · intro mem
      obtain ⟨free, size, deleted⟩ := deleteString_of_mem source (by omega) mem
      exact ⟨_, deleted, (length_filled _ _).trans size, vector_filled _ free⟩
    · refine ⟨_, appendString_eq source bound, ?_, appendedHolds⟩
      rw [length_filled, List.length_append, List.length_singleton]
    · intro cells appended
      obtain rfl := Option.some.inj ((appendString_eq source bound).symm.trans appended)
      obtain ⟨found, searched, iff⟩ := searchStringv_found appendedHolds appendedBound y
      refine ⟨found, searched, iff.trans ?_⟩
      rw [List.mem_append, List.mem_singleton]
      exact or_comm
    · intro cells deleted
      by_cases mem : x ∈ v
      · obtain ⟨free, size, result⟩ := deleteString_of_mem source (by omega) mem
        obtain rfl := Option.some.inj (Option.some.inj (result.symm.trans deleted))
        obtain ⟨found, searched, iff⟩ := searchStringv_found
          (vector_filled (v.filter (· ≠ x)) free) (by omega) y
        refine ⟨found, searched, iff.trans ?_⟩
        rw [List.mem_filter, decide_eq_true_iff]
      · rw [deleteString_of_not_mem source (by omega) mem] at deleted
        cases deleted
    · intro absent appended result
      obtain rfl := Option.some.inj ((appendString_eq source bound).symm.trans result)
      obtain ⟨free, -, deleted⟩ := deleteString_of_mem (x := x) appendedHolds appendedBound (by simp)
      have left : (v ++ [x]).filter (· ≠ x) = v := by
        rw [List.filter_append, List.filter_eq_self.mpr]
        · simp
        · intro name mem
          exact decide_eq_true fun same => absent (same ▸ mem)
      rw [left] at deleted
      exact ⟨_, deleted, vector_filled v free⟩

namespace Sample

/-- A vector of `2 ^ 31` strings has no result to append to. -/
theorem appendString_huge :
    ¬EditedExactly (List.replicate 2147483648 (str "u")) (str "v") (str "v") := by
  intro exact
  obtain ⟨cells, appended, -⟩ := exact.append
  rw [appendString_of_gt (by rw [List.length_replicate]; decide)] at appended
  cases appended

end Sample

end Gumd
