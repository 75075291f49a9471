import Mathlib.Data.List.Basic
import Mathlib.Data.List.GetD
import Mathlib.Tactic.SplitIfs

/-!
# Strings and string vectors

A C string is the list of its bytes, a nullable one an `Option`, and a `NULL`-terminated vector
the list of its strings.  `g_strcmp0 (a, b) == 0` is equality of the nullable strings.

The separator of the string helpers is one byte: every call in the sources passes `","`.
-/

namespace Gumd

/-- The bytes of a C string, without the terminator. -/
abbrev Str := List UInt8

/-- The bytes of a literal of the sources. -/
def str (s : String) : Str := s.toByteArray.data.toList

/-- The separator of the gecos fields, `","`. -/
def comma : UInt8 := 0x2c

/-- `g_strcmp0`: a `NULL` string sorts before every other string. -/
def gStrcmp0 : Option Str → Option Str → Int
  | none, none => 0
  | none, some _ => -1
  | some _, none => 1
  | some a, some b => if a = b then 0 else if a < b then -1 else 1

@[simp] theorem gStrcmp0_eq_zero (a b : Option Str) : gStrcmp0 a b = 0 ↔ a = b := by
  cases a with
  | none => cases b <;> simp [gStrcmp0]
  | some a =>
      cases b with
      | none => simp [gStrcmp0]
      | some b =>
          simp only [gStrcmp0, Option.some.injEq]
          split_ifs with same less
          · simp [same]
          · simp [same]
          · simp [same]

/-- `g_strsplit (s, sep, -1)`: the empty string has no parts. -/
def gStrsplit (s : Str) (sep : UInt8) : List Str :=
  if s = [] then [] else s.splitOn sep

/-- `g_strjoinv`. -/
def gStrjoinv (sep : UInt8) (parts : List Str) : Str :=
  [sep].intercalate parts

/-- Splitting undoes joining parts that do not hold the separator, except where the joined
string is empty. -/
theorem gStrsplit_gStrjoinv {sep : UInt8} {parts : List Str}
    (free : ∀ p ∈ parts, sep ∉ p) (two : 2 ≤ parts.length) :
    gStrsplit (gStrjoinv sep parts) sep = parts := by
  have nonempty : parts ≠ [] := by rintro rfl; simp at two
  have joined : gStrjoinv sep parts ≠ [] := by
    match parts, two with
    | a :: b :: rest, _ => simp [gStrjoinv, List.intercalate, List.intersperse]
  rw [gStrsplit, if_neg joined, gStrjoinv, List.splitOn_intercalate sep free nonempty]

/-! ## `gum-string-utils` -/

/-- `G_MAXINT`. -/
def gMaxint : Nat := 0x7fffffff

/-- A `guint` kept in a `gint`. -/
def toGint (n : Nat) : Int := (n : Int).bmod 0x100000000

theorem toGint_of_le {n : Nat} (bound : n ≤ gMaxint) : toGint n = n := by
  have range : n ≤ 0x7fffffff := bound
  apply Int.bmod_eq_of_le
  · omega
  · omega

def gumStringUtilsSearchStringv (stringv : Option (List Str)) (searchStr : Option Str) : Bool :=
  match stringv, searchStr with
  | some v, some s => v.any (· == s)
  | _, _ => false

def gumStringUtilsGetString (strings : Option Str) (sep : UInt8) (strInd : Nat) : Option Str :=
  match strings with
  | none => none
  | some s => (gStrsplit s sep)[strInd]?

/-- The parts `gum_string_utils_insert_string` joins: the old part at every other index, padded
with empty ones, and what does not fit in the total number of strings is dropped. -/
def insertedParts (srcStrv : List Str) (strToInsert : Str) (strInd totalStrings : Nat) :
    List Str :=
  (List.range totalStrings).map fun destInd =>
    if destInd = strInd then strToInsert else srcStrv.getD destInd []

/-- The parts of a nullable string. -/
def stringParts (strings : Option Str) (sep : UInt8) : List Str :=
  match strings with
  | none => []
  | some s => gStrsplit s sep

/-- For the largest `total_strings` there is nothing to allocate and the result is `NULL`; for
the others past `G_MAXINT` the counter `dest_ind` overflows, and there is no result. -/
def gumStringUtilsInsertString (strings : Option Str) (sep : UInt8) (strToInsert : Option Str)
    (strInd totalStrings : Nat) : Option Str :=
  match strToInsert with
  | none => none
  | some v =>
      if totalStrings ≤ strInd ∨ gMaxint < totalStrings then none
      else
        let srcStrv := stringParts strings sep
        -- `src_len` is a `gint`: a longer vector has a negative length and no part of it is kept
        let srcLen := toGint srcStrv.length
        some (gStrjoinv sep (insertedParts (srcStrv.take srcLen.toNat) v strInd totalStrings))

def gumStringUtilsDeleteString (srcStrv : Option (List Str)) (string : Option Str) :
    Option (List Str) :=
  match srcStrv, string with
  | some v, some s => if gumStringUtilsSearchStringv srcStrv string then
      some (v.filter (· ≠ s)) else none
  | _, _ => none

def gumStringUtilsAppendString (srcStrv : Option (List Str)) (string : Str) : List Str :=
  srcStrv.getD [] ++ [string]

@[simp] theorem gumStringUtilsSearchStringv_some (v : List Str) (s : Str) :
    gumStringUtilsSearchStringv (some v) (some s) = true ↔ s ∈ v := by
  simp [gumStringUtilsSearchStringv]

theorem gumStringUtilsDeleteString_of_mem {v : List Str} {s : Str} (mem : s ∈ v) :
    gumStringUtilsDeleteString (some v) (some s) = some (v.filter (· ≠ s)) := by
  have found : gumStringUtilsSearchStringv (some v) (some s) = true := by simpa using mem
  simp [gumStringUtilsDeleteString, found]

/-- What is left of a vector after a deletion. -/
theorem mem_gumStringUtilsDeleteString {v : List Str} {s n : Str}
    (mem : n ∈ (gumStringUtilsDeleteString (some v) (some s)).getD []) : n ∈ v ∧ n ≠ s := by
  simp only [gumStringUtilsDeleteString] at mem
  split_ifs at mem
  · simpa using mem
  · simp at mem

@[simp] theorem length_insertedParts (src : List Str) (v : Str) (i n : Nat) :
    (insertedParts src v i n).length = n := by
  simp [insertedParts]

theorem getElem?_insertedParts (src : List Str) (v : Str) {i j n : Nat} (bound : j < n) :
    (insertedParts src v i n)[j]? = some (if j = i then v else src.getD j []) := by
  simp [insertedParts, bound]

/-- Every joined part is the inserted string, an old part, or empty. -/
theorem mem_insertedParts {src : List Str} {v p : Str} {i n : Nat}
    (mem : p ∈ insertedParts src v i n) : p = v ∨ p ∈ src ∨ p = [] := by
  obtain ⟨j, -, rfl⟩ := List.mem_map.mp mem
  by_cases at_index : j = i
  · exact Or.inl (if_pos at_index)
  · rw [if_neg at_index]
    by_cases inside : j < src.length
    · rw [List.getD_eq_getElem _ _ inside]
      exact Or.inr (Or.inl (List.getElem_mem inside))
    · rw [List.getD_eq_default _ _ (Nat.not_lt.mp inside)]
      exact Or.inr (Or.inr rfl)

end Gumd
