import Mathlib.Data.List.Basic
import Mathlib.Tactic.SplitIfs

/-!
# Null-terminated vectors in blocks of cells

A block of memory is a list of cells, each of which holds a pointer or `NULL`.  A read or a write
outside the block has no result, so a run that has one stayed inside.  The loops count with
integers that have no value past a maximum.
-/

namespace Cells

variable {α : Type}

/-- The cells of a block; an empty cell holds `NULL`. -/
abbrev Block (α : Type) := List (Option α)

/-- Write a cell of the block. -/
def write (block : Block α) (i : Nat) (cell : Option α) : Option (Block α) :=
  if i < block.length then some (block.set i cell) else none

/-- The block that holds a vector and its terminator. -/
def ofVector (v : List α) : Block α := v.map some ++ [none]

/-- The vector a block begins with: what is read up to the first empty cell. -/
def vector : Block α → Option (List α)
  | [] => none
  | none :: _ => some []
  | some x :: rest => (vector rest).map (x :: ·)

/-- The next value of a counter. -/
def next (max n : Nat) : Option Nat := if n < max then some (n + 1) else none

/-- Search the vector of a block.  The list is what lies from the counter on. -/
def searchLoop [DecidableEq α] (max : Nat) (x : α) : Block α → Nat → Option Bool
  | [], _ => none
  | none :: _, _ => some false
  | some y :: rest, ind =>
      if x = y then some true else (next max ind).bind fun ind => searchLoop max x rest ind

/-- Copy the elements to keep to the other block, and return both counters.  The list is what
lies from the first counter on. -/
def copyLoop (max : Nat) (keep : α → Bool) : Block α → Nat → Nat → Block α →
    Option (Nat × Nat × Block α)
  | [], _, _, _ => none
  | none :: _, ind, dind, dest => some (ind, dind, dest)
  | some x :: rest, ind, dind, dest =>
      if keep x then
        (write dest dind (some x)).bind fun dest =>
          (next max dind).bind fun dind =>
            (next max ind).bind fun ind => copyLoop max keep rest ind dind dest
      else (next max ind).bind fun ind => copyLoop max keep rest ind dind dest

/-! ## Blocks being filled -/

/-- A block whose first cells hold these elements, the others being empty. -/
def filled (elements : List α) (free : Nat) : Block α :=
  elements.map some ++ List.replicate free none

@[simp] theorem length_filled (elements : List α) (free : Nat) :
    (filled elements free).length = elements.length + free := by
  simp [filled]

theorem write_filled (elements : List α) (free : Nat) (x : α) :
    write (filled elements (free + 1)) elements.length (some x) =
      some (filled (elements ++ [x]) free) := by
  have inside : elements.length < (filled elements (free + 1)).length := by
    rw [length_filled]
    omega
  rw [write, if_pos inside, filled, List.set_append_right _ _ (by simp)]
  simp [filled, List.replicate_succ]

/-- Writing the terminator changes nothing. -/
theorem write_terminator (elements : List α) (free : Nat) :
    write (filled elements (free + 1)) elements.length none =
      some (filled elements (free + 1)) := by
  have inside : elements.length < (filled elements (free + 1)).length := by
    rw [length_filled]
    omega
  rw [write, if_pos inside, filled, List.set_append_right _ _ (by simp)]
  simp [List.replicate_succ]

theorem vector_filled (elements : List α) (free : Nat) :
    vector (filled elements (free + 1)) = some elements := by
  induction elements with
  | nil => simp [filled, List.replicate_succ, vector]
  | cons x rest ih =>
      have head : filled (x :: rest) (free + 1) = some x :: filled rest (free + 1) := rfl
      rw [head, vector, ih, Option.map_some]

@[simp] theorem vector_ofVector (v : List α) : vector (ofVector v) = some v :=
  vector_filled v 0

theorem next_of_lt {max n : Nat} (room : n < max) : next max n = some (n + 1) := if_pos room

/-! ## The loops -/

/-- The search is membership in the vector. -/
theorem searchLoop_eq [DecidableEq α] {max : Nat} {x : α} {block : Block α} {v : List α} {ind : Nat}
    (holds : vector block = some v) (room : ind + v.length ≤ max) :
    searchLoop max x block ind = some (v.any fun y => decide (x = y)) := by
  induction block generalizing v ind with
  | nil => cases holds
  | cons cell rest ih =>
      cases cell with
      | none =>
          cases holds
          rfl
      | some y =>
          obtain ⟨w, tail, rfl⟩ := Option.map_eq_some_iff.mp holds
          rw [List.length_cons] at room
          unfold searchLoop
          split_ifs with same
          · simp [same]
          · rw [next_of_lt (by omega), Option.bind_some, ih tail (by omega)]
            simp [same]

/-- The copy fills the other block with the elements to keep. -/
theorem copyLoop_eq (max : Nat) (keep : α → Bool) {block : Block α} {v : List α} (out : List α)
    (free ind : Nat) (holds : vector block = some v) (room : ind + v.length ≤ max) (behind : out.length ≤ ind)
    (space : (v.filter keep).length ≤ free) :
    copyLoop max keep block ind out.length (filled out free) =
      some (ind + v.length, out.length + (v.filter keep).length,
        filled (out ++ v.filter keep) (free - (v.filter keep).length)) := by
  induction block generalizing v out free ind with
  | nil => cases holds
  | cons cell rest ih =>
      cases cell with
      | none =>
          cases holds
          simp [copyLoop]
      | some x =>
          obtain ⟨w, tail, rfl⟩ := Option.map_eq_some_iff.mp holds
          rw [List.length_cons] at room
          have counted : next max ind = some (ind + 1) := next_of_lt (by omega)
          unfold copyLoop
          cases kept : keep x with
          | false =>
              rw [List.filter_cons_of_neg (by simp [kept])] at space ⊢
              rw [if_neg Bool.false_ne_true, counted, Option.bind_some,
                ih _ _ _ tail (by omega) (by omega) space]
              simp only [List.length_cons, Option.some.injEq, Prod.mk.injEq, and_true]
              omega
          | true =>
              rw [List.filter_cons_of_pos kept, List.length_cons] at space ⊢
              obtain ⟨left, rfl⟩ : ∃ left, free = left + 1 := ⟨free - 1, by omega⟩
              have step := ih (out ++ [x]) left (ind + 1) tail (by omega)
                (by simpa using behind) (by omega)
              rw [List.length_append, List.length_singleton] at step
              rw [if_pos rfl, write_filled, Option.bind_some, next_of_lt (by omega),
                Option.bind_some, counted, Option.bind_some, step]
              simp only [List.length_cons, List.append_assoc, List.singleton_append,
                Option.some.injEq, Prod.mk.injEq]
              refine ⟨by omega, by omega, ?_⟩
              congr 1
              omega

/-- A vector the counter cannot count is not copied. -/
theorem copyLoop_of_gt {max : Nat} {keep : α → Bool} {block dest : Block α} {v : List α}
    {ind dind : Nat} (holds : vector block = some v) (start : ind ≤ max)
    (past : max < ind + v.length) :
    copyLoop max keep block ind dind dest = none := by
  induction block generalizing v dest ind dind with
  | nil => rfl
  | cons cell rest ih =>
      cases cell with
      | none =>
          cases holds
          simp only [List.length_nil] at past
          omega
      | some x =>
          obtain ⟨w, tail, rfl⟩ := Option.map_eq_some_iff.mp holds
          rw [List.length_cons] at past
          have stuck : ∀ dind dest,
              ((next max ind).bind fun ind => copyLoop max keep rest ind dind dest) = none := by
            intro dind dest
            unfold next
            split_ifs with room
            · exact ih tail room (by omega)
            · rfl
          unfold copyLoop
          split_ifs with kept
          · simp only [stuck, Option.bind_eq_none_iff, implies_true]
          · exact stuck dind dest

end Cells
