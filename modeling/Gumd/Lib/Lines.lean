import Mathlib.Data.Nat.Digits.Defs
import Mathlib.Data.List.Basic

/-!
# Texts of separated fields

A line joins its fields with a separator, and a text ends each of its lines with a terminator.  What
is joined from fields free of the separator is split into them again.  Numbers are written in
decimal notation.
-/

namespace Lines

section Texts

variable {α : Type} [BEq α] [LawfulBEq α] {sep nl : α}

/-- A line of fields. -/
def join (sep : α) (fields : List (List α)) : List α := [sep].intercalate fields

/-- A text of lines. -/
def render (nl : α) (lines : List (List α)) : List α := lines.flatMap (· ++ [nl])

/-- The lines of a text. -/
def split (nl : α) (text : List α) : List (List α) := (text.splitOn nl).dropLast

/-- A line is split into its fields. -/
theorem splitOn_join {fields : List (List α)} (free : ∀ field ∈ fields, sep ∉ field)
    (some : fields ≠ []) : (join sep fields).splitOn sep = fields :=
  List.splitOn_intercalate sep free some

omit [BEq α] [LawfulBEq α] in
theorem join_cons (field : List α) {rest : List (List α)} (some : rest ≠ []) :
    join sep (field :: rest) = field ++ sep :: join sep rest := by
  obtain ⟨next, rest, rfl⟩ := List.exists_cons_of_ne_nil some
  simp [join, List.intercalate, List.intersperse]

omit [BEq α] [LawfulBEq α] in
/-- Every element of a line is the separator or of a field. -/
theorem mem_join {fields : List (List α)} {a : α} (mem : a ∈ join sep fields) :
    a = sep ∨ ∃ field ∈ fields, a ∈ field := by
  induction fields with
  | nil => simp [join, List.intercalate] at mem
  | cons field rest ih =>
    by_cases last : rest = []
    · subst last
      refine Or.inr ⟨field, List.mem_cons_self, ?_⟩
      simpa [join, List.intercalate] using mem
    · rw [join_cons field last] at mem
      rcases List.mem_append.mp mem with own | later
      · exact Or.inr ⟨field, List.mem_cons_self, own⟩
      rcases List.mem_cons.mp later with same | later
      · exact Or.inl same
      · rcases ih later with same | ⟨other, mem, inside⟩
        · exact Or.inl same
        · exact Or.inr ⟨other, List.mem_cons_of_mem _ mem, inside⟩

omit [BEq α] [LawfulBEq α] in
/-- A text is a line of its lines and an empty one. -/
theorem render_eq_join (lines : List (List α)) : render nl lines = join nl (lines ++ [[]]) := by
  induction lines with
  | nil => rfl
  | cons line rest ih =>
    rw [List.cons_append, join_cons line (by simp), ← ih]
    simp [render]

/-- A text is split into its lines. -/
theorem split_render {lines : List (List α)} (free : ∀ line ∈ lines, nl ∉ line) :
    split nl (render nl lines) = lines := by
  rw [split, render_eq_join, splitOn_join, List.dropLast_concat]
  · intro line mem
    rcases List.mem_append.mp mem with own | last
    · exact free line own
    · obtain rfl := List.mem_singleton.mp last
      simp
  · simp

end Texts

/-! ## Numbers -/

/-- The digits of a number, as the bytes of a text. -/
def decimal (n : Nat) : List UInt8 :=
  if n = 0 then [0x30] else ((Nat.digits 10 n).map fun d => 0x30 + UInt8.ofNat d).reverse

/-- The number a text of digits stands for. -/
def ofDecimal (text : List UInt8) : Nat :=
  Nat.ofDigits 10 (text.reverse.map fun c => (c - 0x30).toNat)

/-- The byte of a digit is read back, and lies among the digits. -/
theorem digit_byte {d : Nat} (small : d < 10) : (0x30 + UInt8.ofNat d - 0x30).toNat = d ∧
    0x30 ≤ 0x30 + UInt8.ofNat d ∧ 0x30 + UInt8.ofNat d ≤ 0x39 := by
  have digits : ∀ d : Fin 10, (0x30 + UInt8.ofNat d.val - 0x30).toNat = d.val ∧
      0x30 ≤ 0x30 + UInt8.ofNat d.val ∧ 0x30 + UInt8.ofNat d.val ≤ 0x39 := by decide
  exact digits ⟨d, small⟩

/-- A number is read back. -/
theorem ofDecimal_decimal (n : Nat) : ofDecimal (decimal n) = n := by
  rw [ofDecimal, decimal]
  split_ifs with zero
  · subst zero
    rfl
  · rw [List.reverse_reverse, List.map_map]
    have kept : ∀ d ∈ Nat.digits 10 n,
        ((fun c : UInt8 => (c - 0x30).toNat) ∘ fun d => 0x30 + UInt8.ofNat d) d = d := by
      intro d mem
      exact (digit_byte (Nat.digits_lt_base (by decide) mem)).1
    rw [List.map_congr_left kept, List.map_id', Nat.ofDigits_digits]

/-- Every byte of a number is a digit. -/
theorem digit_of_mem_decimal {n : Nat} {c : UInt8} (mem : c ∈ decimal n) : 0x30 ≤ c ∧ c ≤ 0x39 := by
  rw [decimal] at mem
  split_ifs at mem with zero
  · obtain rfl := List.mem_singleton.mp mem
    decide
  · obtain ⟨d, inside, rfl⟩ := List.mem_map.mp (List.mem_reverse.mp mem)
    exact (digit_byte (Nat.digits_lt_base (by decide) inside)).2

end Lines
