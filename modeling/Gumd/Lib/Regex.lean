import Mathlib.Data.List.Basic
import Mathlib.Tactic.SplitIfs

/-!
# Regular expressions

A fragment of the POSIX extended regular expressions: anchors, bracket expressions, repetition and
sequence.  A match is found by the positions at which it can end.
-/

namespace Regex

variable {α : Type} [DecidableEq α]

/-- A bracket expression: what it lists, by themselves or as a class, or what it does not list. -/
structure Bracket (α : Type) where
  negated : Bool
  chars : List α
  classes : List (α → Bool)

def Bracket.accepts (b : Bracket α) (c : α) : Bool :=
  (b.chars.contains c || b.classes.any (· c)) != b.negated

inductive Ere (α : Type) where
  | bol
  | eol
  | bracket (b : Bracket α)
  | star (e : Ere α)
  | seq (e e' : Ere α)

/-- The positions repetitions of a step lead to. -/
def starEnds (step : Nat → List Nat) : Nat → Nat → List Nat
  | 0, i => [i]
  | n + 1, i => i :: (step i).flatMap (starEnds step n)

/-- The positions at which a match that begins at a position can end.  A repetition that moves on takes
no more turns than the text has characters. -/
def Ere.ends (text : List α) : Ere α → Nat → List Nat
  | .bol, i => if i = 0 then [i] else []
  | .eol, i => if i = text.length then [i] else []
  | .bracket b, i => if text[i]?.any b.accepts then [i + 1] else []
  | .star e, i => starEnds (e.ends text) text.length i
  | .seq e e', i => (e.ends text i).flatMap (e'.ends text)

/-- `regexec`: the expression matches somewhere in the text. -/
def Ere.exec (e : Ere α) (text : List α) : Bool :=
  (List.range (text.length + 1)).any fun i => !(e.ends text i).isEmpty

/-- A repeated bracket expression leads over characters it accepts. -/
theorem mem_starEnds_bracket {text : List α} {b : Bracket α} {n i j : Nat} :
    j ∈ starEnds ((Ere.bracket b).ends text) n i ↔
      i ≤ j ∧ j ≤ i + n ∧ ∀ k, i ≤ k → k < j → text[k]?.any b.accepts = true := by
  induction n generalizing i with
  | zero =>
    simp only [starEnds, List.mem_singleton, Nat.add_zero]
    constructor
    · rintro rfl
      exact ⟨Nat.le_refl _, Nat.le_refl _, fun k from' to' => absurd to' (Nat.not_lt.mpr from')⟩
    · exact fun spec => Nat.le_antisymm spec.2.1 spec.1
  | succ n ih =>
    rw [starEnds, List.mem_cons, List.mem_flatMap]
    constructor
    · rintro (rfl | ⟨next, mem, later⟩)
      · exact ⟨Nat.le_refl _, Nat.le_add_right _ _, fun k from' to' => absurd to' (Nat.not_lt.mpr from')⟩
      · rw [Ere.ends] at mem
        split_ifs at mem with accepted
        · obtain rfl := List.mem_singleton.mp mem
          obtain ⟨after, bound, rest⟩ := ih.mp later
          refine ⟨by omega, by omega, fun k from' to' => ?_⟩
          rcases Nat.eq_or_lt_of_le from' with rfl | beyond
          · exact accepted
          · exact rest k beyond to'
        · cases mem
    · intro spec
      obtain ⟨after, bound, accepted⟩ := spec
      rcases Nat.eq_or_lt_of_le after with rfl | beyond
      · exact Or.inl rfl
      · refine Or.inr ⟨i + 1, ?_, ih.mpr ⟨beyond, by omega, fun k from' to' => ?_⟩⟩
        · rw [Ere.ends, if_pos (accepted i (Nat.le_refl i) beyond)]
          exact List.mem_singleton_self _
        · exact accepted k (by omega) to'

/-- A repeated bracket expression between anchors matches the texts all of whose characters it
accepts. -/
theorem exec_anchored_star (b : Bracket α) (text : List α) :
    (Ere.seq .bol (.seq (.star (.bracket b)) .eol)).exec text = true ↔
      ∀ c ∈ text, b.accepts c = true := by
  have whole : ∀ i, (Ere.seq .bol (.seq (.star (.bracket b)) .eol)).ends text i ≠ [] ↔
      i = 0 ∧ text.length ∈ starEnds ((Ere.bracket b).ends text) text.length 0 := by
    intro i
    simp only [Ere.ends]
    by_cases first : i = 0
    · subst first
      simp [List.flatMap_eq_nil_iff]
    · simp [first]
  have accepts : (∀ k, 0 ≤ k → k < text.length → text[k]?.any b.accepts = true) ↔
      ∀ c ∈ text, b.accepts c = true := by
    constructor
    · intro all c mem
      obtain ⟨k, inside, rfl⟩ := List.mem_iff_getElem.mp mem
      simpa [inside] using all k (Nat.zero_le _) inside
    · intro all k _ inside
      simpa [inside] using all text[k] (List.getElem_mem inside)
  rw [Ere.exec, List.any_eq_true]
  simp only [Bool.not_eq_true', List.isEmpty_eq_false_iff, whole, mem_starEnds_bracket, accepts]
  constructor
  · intro found
    obtain ⟨i, -, -, -, -, all⟩ := found
    exact all
  · intro all
    exact ⟨0, by simp, rfl, Nat.zero_le _, by omega, all⟩

end Regex
