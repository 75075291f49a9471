/-!
# Counters of 32 bits

What counting up and down does to a signed counter that wraps around: away from its largest value it
counts as the integers do.
-/

namespace Counters

variable {n : Int32}

theorem zero_ne_maxValue : (0 : Int32) ≠ .maxValue := by decide

theorem pos_of_ne_zero (counted : 0 ≤ n) (some : n ≠ 0) : 0 < n := by
  rw [Int32.le_iff_toInt_le] at counted
  have other : n.toInt ≠ 0 := fun zero => some (Int32.toInt_inj.mp zero)
  rw [Int32.lt_iff_toInt_lt]
  replace counted : 0 ≤ n.toInt := counted
  change 0 < n.toInt
  omega

/-- Counting up does not wrap around below the largest value. -/
theorem toInt_succ (below : n ≠ .maxValue) : (n + 1).toInt = n.toInt + 1 := by
  have other : n.toInt ≠ 2 ^ 31 - 1 := fun largest => below (Int32.toInt_inj.mp largest)
  have upper := n.toInt_lt
  have lower := n.le_toInt
  rw [Int32.toInt_add]
  apply Int.bmod_eq_of_le
  · change -2 ^ 31 ≤ n.toInt + 1
    omega
  · change n.toInt + 1 < 2 ^ 31
    omega

/-- Counting down does not wrap around above zero. -/
theorem toInt_pred (positive : 0 < n) : (n - 1).toInt = n.toInt - 1 := by
  rw [Int32.lt_iff_toInt_lt] at positive
  replace positive : 0 < n.toInt := positive
  have upper := n.toInt_lt
  rw [Int32.toInt_sub]
  apply Int.bmod_eq_of_le
  · change -2 ^ 31 ≤ n.toInt - 1
    omega
  · change n.toInt - 1 < 2 ^ 31
    omega

/-- A counter that is not negative stays so, unless it is at its largest value. -/
theorem succ_nonneg_iff (counted : 0 ≤ n) : 0 ≤ n + 1 ↔ n ≠ .maxValue := by
  constructor
  · intro next largest
    rw [largest] at next
    exact absurd next (by decide)
  · intro below
    rw [Int32.le_iff_toInt_le] at counted ⊢
    rw [toInt_succ below]
    exact Int.le_trans counted (by omega)

theorem succ_pos (positive : 0 < n) (next : 0 ≤ n + 1) : 0 < n + 1 := by
  have counted : 0 ≤ n := Int32.le_of_lt positive
  have below := (succ_nonneg_iff counted).mp next
  rw [Int32.lt_iff_toInt_lt] at positive ⊢
  rw [toInt_succ below]
  exact Int.lt_trans positive (by omega)

theorem pred_pos (more : 1 < n) : 0 < n - 1 := by
  have positive : 0 < n := Int32.lt_trans (by decide) more
  rw [Int32.lt_iff_toInt_lt] at more ⊢
  rw [toInt_pred positive]
  replace more : 1 < n.toInt := more
  change 0 < n.toInt - 1
  omega

theorem pred_nonneg (positive : 0 < n) : 0 ≤ n - 1 := by
  have value := toInt_pred positive
  rw [Int32.lt_iff_toInt_lt] at positive
  rw [Int32.le_iff_toInt_le, value]
  replace positive : 0 < n.toInt := positive
  change 0 ≤ n.toInt - 1
  omega

theorem eq_one_of_pred_eq_zero (last : n - 1 = 0) : n = 1 := by
  have same := congrArg (· + 1) last
  simpa using same

theorem one_lt_of_pred_ne_zero (positive : 0 < n) (more : n - 1 ≠ 0) : 1 < n := by
  have other : n.toInt ≠ 1 := by
    intro one
    have here : n = 1 := Int32.toInt_inj.mp one
    exact more (by rw [here]; decide)
  rw [Int32.lt_iff_toInt_lt] at positive ⊢
  replace positive : 0 < n.toInt := positive
  change 1 < n.toInt
  omega

end Counters
