import Liveness.Config
import Liveness.Proofs.Text.Trim

/-!
# The rules of a configuration

A configuration keeps the rules if its host has something in it and none of its numbers is zero.
The rules are checked in a fixed order, and of those that are broken the first is reported, however
many others are broken with it.

The host is looked at without the white space at its ends, and nothing is left of it exactly if all
of it is white space.
-/

namespace Liveness

namespace Config

variable {c : Config} {v v' : Violation}

namespace Violation

/-- The place of a rule in the order in which the rules are checked. -/
def rank : Violation → Nat
  | .blankHost => 0
  | .zeroPort => 1
  | .zeroCount => 2
  | .zeroConcurrency => 3

theorem rank_inj (h : v.rank = v'.rank) : v = v' := by
  cases v <;> cases v' <;> first | rfl | cases h

end Violation

def Breaks (c : Config) : Violation → Prop
  | .blankHost => ∀ ch ∈ c.host.toList, isBlank ch = true
  | .zeroPort => c.port = 0
  | .zeroCount => c.count = 0
  | .zeroConcurrency => c.concurrency = 0

/-- Broken, and no rule before it is. -/
def BreaksFirst (c : Config) (v : Violation) : Prop :=
  c.Breaks v ∧ ∀ v' : Violation, v'.rank < v.rank → ¬ c.Breaks v'

theorem BreaksFirst.unique (h : c.BreaksFirst v) (h' : c.BreaksFirst v') : v = v' := by
  refine Violation.rank_inj (Nat.le_antisymm ?_ ?_)
  · exact Nat.not_lt.mp fun hlt => h.2 v' hlt h'.1
  · exact Nat.not_lt.mp fun hlt => h'.2 v hlt h.1

theorem violation?_spec (c : Config) :
    (c.violation? = none ∧ ∀ v, ¬ c.Breaks v) ∨ ∃ v, c.violation? = some v ∧ c.BreaksFirst v := by
  have hblank : (trim c.host.toList).isEmpty = true ↔ c.Breaks .blankHost := by
    rw [List.isEmpty_iff, trim_eq_nil_iff]
    rfl
  rw [violation?]
  split_ifs with hhost hport hcount hconcurrency
  · refine .inr ⟨_, rfl, hblank.mp hhost, fun v hlt => ?_⟩
    cases v <;> cases hlt
  · refine .inr ⟨_, rfl, hport, fun v hlt => ?_⟩
    cases v with
    | blankHost => exact fun h => hhost (hblank.mpr h)
    | _ => exact absurd hlt (by decide)
  · refine .inr ⟨_, rfl, hcount, fun v hlt => ?_⟩
    cases v with
    | blankHost => exact fun h => hhost (hblank.mpr h)
    | zeroPort => exact hport
    | _ => exact absurd hlt (by decide)
  · refine .inr ⟨_, rfl, hconcurrency, fun v hlt => ?_⟩
    cases v with
    | blankHost => exact fun h => hhost (hblank.mpr h)
    | zeroPort => exact hport
    | zeroCount => exact hcount
    | _ => exact absurd hlt (by decide)
  · refine .inl ⟨rfl, fun v => ?_⟩
    cases v with
    | blankHost => exact fun h => hhost (hblank.mpr h)
    | zeroPort => exact hport
    | zeroCount => exact hcount
    | zeroConcurrency => exact hconcurrency

theorem violation?_eq_none_iff : c.violation? = none ↔
    (∃ ch ∈ c.host.toList, isBlank ch = false) ∧ c.port ≠ 0 ∧ c.count ≠ 0
      ∧ c.concurrency ≠ 0 := by
  have hall : c.violation? = none ↔ ∀ v, ¬ c.Breaks v := by
    constructor
    · intro h v hbreaks
      rcases c.violation?_spec with ⟨-, hnone⟩ | ⟨v', hsome, -⟩
      · exact hnone v hbreaks
      · cases hsome.symm.trans h
    · intro h
      rcases c.violation?_spec with ⟨hnone, -⟩ | ⟨v, -, hfirst⟩
      · exact hnone
      · exact absurd hfirst.1 (h v)
  rw [hall]
  constructor
  · intro h
    refine ⟨?_, h .zeroPort, h .zeroCount, h .zeroConcurrency⟩
    simpa [Breaks] using h .blankHost
  · rintro ⟨⟨ch, hmem, hch⟩, hport, hcount, hconcurrency⟩ v
    cases v with
    | blankHost => exact fun h => Bool.false_ne_true (hch.symm.trans (h ch hmem))
    | zeroPort => exact hport
    | zeroCount => exact hcount
    | zeroConcurrency => exact hconcurrency

end Config

end Liveness
