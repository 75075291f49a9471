import Gumd.Lib.Regex
import Gumd.LineFormat

/-!
# The pattern of database entries

The entry validator that scans with a table of bytes accepts the strings the one that matches a pattern
accepts.
-/

namespace Gumd

open Regex

/-- `iscntrl` in the POSIX locale. -/
def isCntrl (c : UInt8) : Bool := c < 0x20 || c == 0x7f

/-- `GUM_DB_ENTRY_PATTERN`. -/
def gumDbEntryPattern : String := "^[^,:[:cntrl:]]*$"

/-- What `regcomp` makes of `GUM_DB_ENTRY_PATTERN` with `REG_EXTENDED`. -/
def gumDbEntryRegex : Ere UInt8 :=
  .seq .bol (.seq (.star (.bracket ⟨true, [0x2c, 0x3a], [isCntrl]⟩)) .eol)

/-- `gum_validate_db_string_entry_regx`. -/
def gumValidateDbStringEntryRegx (string : Option Str) : Except GError Unit :=
  match string with
  | none => .error ⟨.invalidStr, "Invalid input str."⟩
  | some s =>
      if gumDbEntryRegex.exec s then .ok ()
      else .error ⟨.invalidStr, "No control characters or ':' or ',' is allowed." ++
        "String failed pattern match for " ++ gumDbEntryPattern⟩

/-- The byte may stand in an entry. -/
def IsEntryByte (c : UInt8) : Prop := isCntrl c = false ∧ c ≠ comma ∧ c ≠ colon

instance : DecidablePred IsEntryByte := fun c =>
  inferInstanceAs (Decidable (isCntrl c = false ∧ c ≠ comma ∧ c ≠ colon))

/-- The table lists the bytes that may not stand in an entry, but for the terminator. -/
theorem mem_invalid_iff {c : UInt8} (nul : c ≠ 0) :
    c ∈ controlChars ++ [0x2c, 0x3a] ↔ ¬IsEntryByte c := by
  have table : ∀ n : Fin 256, UInt8.ofNat n.val ≠ 0 →
      (UInt8.ofNat n.val ∈ controlChars ++ [0x2c, 0x3a] ↔ ¬IsEntryByte (UInt8.ofNat n.val)) := by
    decide +kernel
  have own := table ⟨c.toNat, c.toNat_lt⟩
  simp only [UInt8.ofNat_toNat] at own
  exact own nul

theorem accepts_iff (c : UInt8) :
    (⟨true, [0x2c, 0x3a], [isCntrl]⟩ : Bracket UInt8).accepts c = true ↔ IsEntryByte c := by
  unfold Bracket.accepts IsEntryByte comma colon
  cases control : isCntrl c <;> simp [control]

/-- The table accepts the strings of entry bytes. -/
theorem gumValidateDbStringEntry_iff {s : Str} (nulFree : 0 ∉ s) :
    gumValidateDbStringEntry (some s) = .ok () ↔ ∀ c ∈ s, IsEntryByte c := by
  have scanned : strpbrk s (controlChars ++ [0x2c, 0x3a]) = true ↔ ∃ c ∈ s, ¬IsEntryByte c := by
    rw [strpbrk, List.any_eq_true]
    apply exists_congr
    intro c
    apply and_congr_right
    intro mem
    rw [List.contains_iff_mem, mem_invalid_iff]
    intro nul
    exact nulFree (nul ▸ mem)
  unfold gumValidateDbStringEntry
  dsimp only
  split_ifs with rejected
  · obtain ⟨c, mem, invalid⟩ := scanned.mp rejected.2
    refine iff_of_false (by simp) ?_
    intro all
    exact invalid (all c mem)
  · refine iff_of_true rfl ?_
    intro c mem
    by_contra invalid
    exact rejected ⟨List.length_pos_of_mem mem, scanned.mpr ⟨c, mem, invalid⟩⟩

/-- The pattern accepts the strings of entry bytes. -/
theorem gumValidateDbStringEntryRegx_iff {s : Str} :
    gumValidateDbStringEntryRegx (some s) = .ok () ↔ ∀ c ∈ s, IsEntryByte c := by
  have matched := exec_anchored_star ⟨true, [0x2c, 0x3a], [isCntrl]⟩ s
  simp only [accepts_iff] at matched
  rw [← matched]
  unfold gumValidateDbStringEntryRegx gumDbEntryRegex
  dsimp only
  split_ifs with found
  · exact iff_of_true rfl found
  · exact iff_of_false (by simp) found

/-- The two entry validators accept the same strings, those without control characters, comma and
colon. -/
theorem dbStringEntry_validators_agree {s : Str} (nulFree : 0 ∉ s) :
    (gumValidateDbStringEntry (some s) = .ok () ↔
      gumValidateDbStringEntryRegx (some s) = .ok ()) ∧
    (gumValidateDbStringEntry (some s) = .ok () ↔
      ∀ c ∈ s, isCntrl c = false ∧ c ≠ comma ∧ c ≠ colon) := by
  have table := gumValidateDbStringEntry_iff nulFree
  exact ⟨table.trans gumValidateDbStringEntryRegx_iff.symm, table⟩

namespace Sample

theorem dbStringEntry_validators_agree_office :
    (gumValidateDbStringEntry (some (str "Room 7, hall")) = .ok () ↔
      gumValidateDbStringEntryRegx (some (str "Room 7, hall")) = .ok ()) ∧
    (gumValidateDbStringEntry (some (str "Room 7, hall")) = .ok () ↔
      ∀ c ∈ str "Room 7, hall", isCntrl c = false ∧ c ≠ comma ∧ c ≠ colon) :=
  dbStringEntry_validators_agree (by decide)

end Sample

end Gumd
