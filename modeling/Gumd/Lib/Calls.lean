import Mathlib.Logic.Relation

/-!
# Programs of calls

A program changes a state by one call after another, and may be stopped before any of them.  What it is
when it is stopped is the rest of the program, so nothing is lost if a property of the rest is what is
kept.
-/

namespace Gumd

/-- A program: its result, or a call with what comes after it in each state the call is made in. -/
inductive Calls (σ α : Type) where
  | done (result : α)
  | call (effect : σ → σ) (next : σ → Calls σ α)

namespace Calls

variable {σ τ α β : Type}

/-- A single call. -/
def perform (m : σ → α × σ) : Calls σ α := .call (fun s => (m s).2) fun s => .done (m s).1

/-- A single call without an answer. -/
def change (f : σ → σ) : Calls σ Unit := .call f fun _ => .done ()

def bind : Calls σ α → (α → Calls σ β) → Calls σ β
  | .done a, k => k a
  | .call f next, k => .call f fun s => (next s).bind k

instance : Monad (Calls σ) where
  pure := .done
  bind := bind

/-- The program without a stop. -/
def run : Calls σ α → σ → α × σ
  | .done a, s => (a, s)
  | .call f next, s => (next s).run (f s)

/-! ## What holds between the calls -/

section Keeps

variable (I : σ → Prop) (G : σ → σ → Prop)

/-- Each call of the program changes the state within `G`, `I` holds wherever it is stopped, and in the
end `Q` holds. -/
def Keeps : Calls σ α → (α → σ → Prop) → σ → Prop
  | .done a, Q, s => I s ∧ Q a s
  | .call f next, Q, s => I s ∧ G s (f s) ∧ (next s).Keeps Q (f s)

variable {I G} {Q Q' : α → σ → Prop} {s : σ}

theorem Keeps.mono {p : Calls σ α} (keeps : p.Keeps I G Q s) (weaker : ∀ a s, Q a s → Q' a s) :
    p.Keeps I G Q' s := by
  induction p generalizing s with
  | done a => exact ⟨keeps.1, weaker a s keeps.2⟩
  | call f next ih => exact ⟨keeps.1, keeps.2.1, ih s keeps.2.2⟩

end Keeps

/-! ## Simulation -/

section Simulation

variable (R : σ → τ → Prop) (G : σ → σ → Prop)

/-- Wherever the first program is stopped, the second can have been stopped in a state that `R` relates to
the state of the first, and their results are the same. -/
inductive Simulates : Calls σ α → σ → Calls τ α → τ → Prop
  | done {a : α} {s : σ} {t : τ} : R s t → Simulates (.done a) s (.done a) t
  | silent {f : σ → σ} {next : σ → Calls σ α} {s : σ} {q : Calls τ α} {t : τ} :
      R s t → G s (f s) → Simulates (next s) (f s) q t → Simulates (.call f next) s q t
  | both {f : σ → σ} {next : σ → Calls σ α} {s : σ} {g : τ → τ} {after : τ → Calls τ α} {t : τ} :
      R s t → G s (f s) → Simulates (next s) (f s) (after t) (g t) →
      Simulates (.call f next) s (.call g after) t
  | later {p : Calls σ α} {s : σ} {g : τ → τ} {after : τ → Calls τ α} {t : τ} :
      R s t → Simulates p s (after t) (g t) → Simulates p s (.call g after) t

/-- A program and its state after some of its calls. -/
inductive Goes : Calls τ α → τ → Nat → Calls τ α → τ → Prop
  | refl {q : Calls τ α} {t : τ} : Goes q t 0 q t
  | call {g : τ → τ} {after : τ → Calls τ α} {t : τ} {n : Nat} {q : Calls τ α} {t' : τ} :
      Goes (after t) (g t) n q t' → Goes (.call g after) t (n + 1) q t'

/-- One call more. -/
theorem Goes.next {q : Calls τ α} {t t' : τ} {n : Nat} {g : τ → τ} {after : τ → Calls τ α}
    (goes : Goes q t n (.call g after) t') : Goes q t (n + 1) (after t') (g t') := by
  generalize reached : (Calls.call g after : Calls τ α) = r at goes
  induction goes with
  | refl =>
    subst reached
    exact .call .refl
  | call _ ih => exact .call (ih reached)

/-- A program that has been stopped would end as the whole. -/
theorem Goes.run {q q' : Calls τ α} {t t' : τ} {n : Nat} (goes : Goes q t n q' t') :
    q.run t = q'.run t' := by
  induction goes with
  | refl => rfl
  | call _ ih => exact ih

variable {R G} {p : Calls σ α} {q : Calls τ α} {s : σ} {t : τ}

namespace Simulates

theorem related (simulates : Simulates R G p s q t) : R s t := by
  cases simulates <;> assumption

/-- The first program has ended: so can the second. -/
theorem ends {a : α} (simulates : Simulates R G (.done a) s q t) :
    ∃ n t', Goes q t n (.done a) t' ∧ R s t' := by
  generalize ended : (Calls.done a : Calls σ α) = p at simulates
  induction simulates with
  | done related =>
    cases ended
    exact ⟨0, _, .refl, related⟩
  | silent => cases ended
  | both => cases ended
  | later _ _ ih =>
    obtain ⟨n, t', goes, related⟩ := ih ended
    exact ⟨n + 1, t', .call goes, related⟩

/-- The first program makes a call: the second can follow. -/
theorem follows {f : σ → σ} {next : σ → Calls σ α} (simulates : Simulates R G (.call f next) s q t) :
    G s (f s) ∧ ∃ n q' t', Goes q t n q' t' ∧ Simulates R G (next s) (f s) q' t' := by
  generalize started : (Calls.call f next : Calls σ α) = p at simulates
  induction simulates with
  | done => cases started
  | silent _ within rest =>
    cases started
    exact ⟨within, 0, _, _, .refl, rest⟩
  | both _ within rest =>
    cases started
    exact ⟨within, 1, _, _, .call .refl, rest⟩
  | later _ _ ih =>
    obtain ⟨within, n, q', t', goes, rest⟩ := ih started
    exact ⟨within, n + 1, q', t', .call goes, rest⟩

theorem bind {k : α → Calls σ β} {l : α → Calls τ β} (first : Simulates R G p s q t)
    (rest : ∀ a s t, R s t → Simulates R G (k a) s (l a) t) :
    Simulates R G (p >>= k) s (q >>= l) t := by
  induction first with
  | done related => exact rest _ _ _ related
  | silent related within _ ih => exact .silent related within ih
  | both related within _ ih => exact .both related within ih
  | later related _ ih => exact .later related ih

/-- Without a stop both come to the same. -/
theorem run (simulates : Simulates R G p s q t) : (p.run s).1 = (q.run t).1 ∧ R (p.run s).2 (q.run t).2 := by
  induction simulates with
  | done related => exact ⟨rfl, related⟩
  | silent _ _ _ ih => exact ih
  | both _ _ _ ih => exact ih
  | later _ _ ih => exact ih

/-- A part of the first program that the second does not show. -/
theorem of_keeps {k : α → Calls σ β} {q : Calls τ β}
    (keeps : p.Keeps (R · t) G (fun a s => Simulates R G (k a) s q t) s) :
    Simulates R G (p >>= k) s q t := by
  induction p generalizing s with
  | done a => exact keeps.2
  | call f next ih => exact .silent keeps.1 keeps.2.1 (ih s keeps.2.2)

end Simulates

end Simulation

end Calls

end Gumd
