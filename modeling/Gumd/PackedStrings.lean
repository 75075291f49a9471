import Gumd.StringUtils

/-!
# Packed strings

A string packed by its separator behaves as independent fields: an insertion writes one part and
keeps the others.
-/

namespace Gumd

variable {s : Option Str} {sep : UInt8} {v w : Str} {i j n : Nat}

/-- The laws of two fields of a packed string. -/
structure IndependentFields (s : Option Str) (sep : UInt8) (v w : Str) (i j n : Nat) : Prop where
  get_inserted :
    gumStringUtilsGetString (gumStringUtilsInsertString s sep (some v) i n) sep i = some v
  get_other :
    gumStringUtilsGetString (gumStringUtilsInsertString s sep (some v) i n) sep j =
      some ((stringParts s sep).getD j [])
  parts :
    ∃ packed, gumStringUtilsInsertString s sep (some v) i n = some packed ∧
      (gStrsplit packed sep).length = n
  replaces :
    gumStringUtilsInsertString (gumStringUtilsInsertString s sep (some v) i n) sep (some w) i n =
      gumStringUtilsInsertString s sep (some w) i n
  commutes :
    gumStringUtilsInsertString (gumStringUtilsInsertString s sep (some v) i n) sep (some w) j n =
      gumStringUtilsInsertString (gumStringUtilsInsertString s sep (some w) j n) sep (some v) i n

/-- The part at an index is empty, or the `gint` that counts the parts counts it. -/
def PartCounted (parts : List Str) (j : Nat) : Prop :=
  parts.getD j [] = [] ∨ (j : Int) < toGint parts.length

/-- The parts an insertion reads. -/
def keptParts (s : Option Str) (sep : UInt8) : List Str :=
  (stringParts s sep).take (toGint (stringParts s sep).length).toNat

/-! ## The parts of an insertion -/

/-- No part of a split string holds the separator. -/
theorem sep_not_mem_splitOn (text : Str) : ∀ p ∈ text.splitOn sep, sep ∉ p := by
  induction text with
  | nil => simp
  | cons c rest ih =>
      rw [List.splitOn_cons_eq_if_modifyHead]
      obtain ⟨first, parts, split⟩ := List.exists_cons_of_ne_nil (List.splitOn_ne_nil sep rest)
      rw [split] at ih ⊢
      split_ifs with same
      · simpa using ih
      · have other : sep ≠ c := fun eq => same (by simp [eq])
        simpa [other] using ih

theorem sep_not_mem_keptParts {p : Str} (mem : p ∈ keptParts s sep) : sep ∉ p := by
  have part := List.mem_of_mem_take mem
  unfold stringParts gStrsplit at part
  cases s with
  | none => simp at part
  | some text =>
      dsimp only at part
      split_ifs at part with empty
      · simp at part
      · exact sep_not_mem_splitOn text p part

/-- An insertion joins the new parts. -/
theorem gumStringUtilsInsertString_eq (inside : i < n) (bound : n ≤ gMaxint) :
    gumStringUtilsInsertString s sep (some v) i n =
      some (gStrjoinv sep (insertedParts (keptParts s sep) v i n)) := by
  have result : ¬(n ≤ i ∨ gMaxint < n) := by omega
  simp only [gumStringUtilsInsertString, if_neg result, keptParts]

/-- Past `G_MAXINT` nothing is inserted. -/
theorem gumStringUtilsInsertString_of_gt (past : gMaxint < n) :
    gumStringUtilsInsertString s sep (some v) i n = none := by
  simp only [gumStringUtilsInsertString, if_pos (Or.inr past)]

/-- Splitting undoes the join of an insertion. -/
theorem gStrsplit_insertedParts (free : sep ∉ v) (two : 2 ≤ n) :
    gStrsplit (gStrjoinv sep (insertedParts (keptParts s sep) v i n)) sep =
      insertedParts (keptParts s sep) v i n := by
  apply gStrsplit_gStrjoinv
  · intro p mem
    rcases mem_insertedParts mem with rfl | old | rfl
    · exact free
    · exact sep_not_mem_keptParts old
    · simp
  · rwa [length_insertedParts]

/-- The next insertion keeps all parts of an insertion. -/
theorem keptParts_inserted (free : sep ∉ v) (two : 2 ≤ n) (bound : n ≤ gMaxint) :
    keptParts (some (gStrjoinv sep (insertedParts (keptParts s sep) v i n))) sep =
      insertedParts (keptParts s sep) v i n := by
  have parts : stringParts (some (gStrjoinv sep (insertedParts (keptParts s sep) v i n))) sep =
      insertedParts (keptParts s sep) v i n := gStrsplit_insertedParts free two
  rw [keptParts, parts, length_insertedParts, toGint_of_le bound, Int.toNat_natCast]
  exact List.take_of_length_le (Nat.le_of_eq (length_insertedParts _ v i n))

/-- A part of the inserted vector, also past its end. -/
theorem getD_insertedParts (src : List Str) (bound : j < n) :
    (insertedParts src v i n).getD j [] = if j = i then v else src.getD j [] := by
  rw [List.getD_eq_getElem?_getD, getElem?_insertedParts src v bound, Option.getD_some]

/-- A second insertion at an index replaces the first. -/
theorem insertedParts_again (src : List Str) :
    insertedParts (insertedParts src v i n) w i n = insertedParts src w i n := by
  apply List.map_congr_left
  intro j mem
  split_ifs with same
  · rfl
  · rw [getD_insertedParts src (List.mem_range.mp mem), if_neg same]

/-- Insertions at two indices commute. -/
theorem insertedParts_comm (src : List Str) (ne : i ≠ j) :
    insertedParts (insertedParts src v i n) w j n =
      insertedParts (insertedParts src w j n) v i n := by
  apply List.map_congr_left
  intro k mem
  have bound := List.mem_range.mp mem
  rw [getD_insertedParts src bound, getD_insertedParts src bound]
  split_ifs with atJ atI
  · exact absurd (atI.symm.trans atJ) ne
  · rfl
  · rfl
  · rfl

/-! ## The laws -/

/-- What is read back after an insertion. -/
theorem getString_insertString (free : sep ∉ v) (two : 2 ≤ n) (bound : n ≤ gMaxint)
    (inside : i < n) (other : j < n) :
    gumStringUtilsGetString (gumStringUtilsInsertString s sep (some v) i n) sep j =
      some (if j = i then v else (keptParts s sep).getD j []) := by
  rw [gumStringUtilsInsertString_eq inside bound]
  dsimp only [gumStringUtilsGetString]
  rw [gStrsplit_insertedParts free two, getElem?_insertedParts _ v other]

/-- A part is kept by an insertion if and only if it is counted. -/
theorem getD_keptParts_iff :
    (keptParts s sep).getD j [] = (stringParts s sep).getD j [] ↔
      PartCounted (stringParts s sep) j := by
  unfold keptParts PartCounted
  rw [List.getD_eq_getElem?_getD, List.getElem?_take]
  split_ifs with counted
  · refine iff_of_true ?_ (Or.inr (by omega))
    rw [List.getD_eq_getElem?_getD]
  · have late : ¬((j : Int) < toGint (stringParts s sep).length) := by omega
    simp only [late, or_false, Option.getD_none]
    exact eq_comm

/-- A packed string behaves as independent fields if and only if the total number of strings fits
the counter and the other part is counted. -/
theorem insertString_independent (two : 2 ≤ n) (inside : i < n) (other : j < n) (ne : i ≠ j)
    (vFree : sep ∉ v) (wFree : sep ∉ w) :
    IndependentFields s sep v w i j n ↔ n ≤ gMaxint ∧ PartCounted (stringParts s sep) j := by
  constructor
  · intro laws
    have bound : n ≤ gMaxint := by
      by_contra past
      obtain ⟨packed, inserted, -⟩ := laws.parts
      rw [gumStringUtilsInsertString_of_gt (Nat.lt_of_not_le past)] at inserted
      cases inserted
    have kept := laws.get_other
    rw [getString_insertString vFree two bound inside other, if_neg ne.symm] at kept
    exact ⟨bound, getD_keptParts_iff.mp (Option.some.inj kept)⟩
  · intro ⟨bound, counted⟩
    have first : gumStringUtilsInsertString s sep (some v) i n = some _ :=
      gumStringUtilsInsertString_eq inside bound
    have second : gumStringUtilsInsertString s sep (some w) j n = some _ :=
      gumStringUtilsInsertString_eq other bound
    constructor
    · rw [getString_insertString vFree two bound inside inside, if_pos rfl]
    · rw [getString_insertString vFree two bound inside other, if_neg ne.symm,
        getD_keptParts_iff.mpr counted]
    · refine ⟨_, first, ?_⟩
      rw [gStrsplit_insertedParts vFree two, length_insertedParts]
    · rw [first, gumStringUtilsInsertString_eq inside bound, keptParts_inserted vFree two bound,
        insertedParts_again, gumStringUtilsInsertString_eq inside bound]
    · rw [first, second, gumStringUtilsInsertString_eq other bound,
        gumStringUtilsInsertString_eq inside bound, keptParts_inserted vFree two bound,
        keptParts_inserted wFree two bound, insertedParts_comm _ ne]

namespace Sample

/-- With the largest total number of strings the inserted text is not read back. -/
theorem insertString_largest :
    gumStringUtilsGetString
      (gumStringUtilsInsertString (some (str "a,b")) comma (some (str "v")) 0 4294967295) comma 0 ≠
      some (str "v") := by
  decide

theorem insertString_independent_office :
    IndependentFields (some (str "name,,12")) comma (str "office") (str "") 1 2 5 ↔
      5 ≤ gMaxint ∧ PartCounted (stringParts (some (str "name,,12")) comma) 2 :=
  insertString_independent (by decide) (by decide) (by decide) (by decide) (by decide) (by decide)

end Sample

end Gumd
