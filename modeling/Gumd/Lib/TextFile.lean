import Gumd.Lib.Lines

/-!
# Files of one line a record

A codec prints a record as a line and reads a line as a record, or skips it.  If every record is read
from its own line, a file is read from its own text.
-/

namespace Lines

/-- How records are printed as lines, and which record a line is read as. -/
structure LineCodec (α β : Type) where
  print : β → List α
  parse : List α → Option β

namespace LineCodec

variable {α β : Type} [BEq α] [LawfulBEq α] (codec : LineCodec α β) (nl : α)

/-- The text of the records. -/
def write (records : List β) : List α := render nl (records.map codec.print)

/-- The records of a text. -/
def read (text : List α) : List β := (split nl text).filterMap codec.parse

/-- The record is read from its line. -/
structure Reads (record : β) : Prop where
  unbroken : nl ∉ codec.print record
  parse : codec.parse (codec.print record) = some record

variable {codec nl}

theorem read_write {records : List β} (reads : ∀ record ∈ records, codec.Reads nl record) :
    codec.read nl (codec.write nl records) = records := by
  have lines : split nl (codec.write nl records) = records.map codec.print := by
    apply split_render
    intro line mem
    obtain ⟨record, inside, rfl⟩ := List.mem_map.mp mem
    exact (reads record inside).unbroken
  rw [read, lines, List.filterMap_map, List.filterMap_congr (g := some)]
  · exact List.filterMap_some
  · exact fun record mem => (reads record mem).parse

end LineCodec

/-! ## Lists in a field -/

section Items

variable {α : Type} [BEq α] [LawfulBEq α]

/-- The items of a list, without blanks before them; empty ones are none. -/
def items (blank : α → Bool) (sep : α) (text : List α) : List (List α) :=
  ((text.splitOn sep).map (·.dropWhile blank)).filter (!·.isEmpty)

/-- An item that is read as itself. -/
structure Item (blank : α → Bool) (sep : α) (item : List α) : Prop where
  some : item ≠ []
  free : sep ∉ item
  start : item.dropWhile blank = item

/-- A list of items is read back. -/
theorem items_join {blank : α → Bool} {sep : α} {list : List (List α)}
    (wellFormed : ∀ item ∈ list, Item blank sep item) : items blank sep (join sep list) = list := by
  by_cases empty : list = []
  · subst empty
    simp [items, join, List.intercalate]
  rw [items, splitOn_join (fun item mem => (wellFormed item mem).free) empty]
  have starts : list.map (·.dropWhile blank) = list := by
    rw [List.map_congr_left fun item mem => (wellFormed item mem).start]
    exact List.map_id' list
  rw [starts, List.filter_eq_self]
  intro item mem
  simp [(wellFormed item mem).some]

end Items

end Lines
