/-
  Pairs of sprites.

  * `Pair` is an unordered pair of ids, kept with the smaller id first;
  * `MetPairs` is a set of pairs, the ones that have met already;
  * `Pair.of_comm`: the order in which two ids are named does not matter.
-/
import Std.Data.TreeSet

namespace SpriteScript

/-- An unordered pair of ids, the smaller one first. -/
structure Pair where
  low : String
  high : String
  deriving DecidableEq, Repr, Inhabited

namespace Pair

/-- The pair of two ids. -/
def of (a b : String) : Pair := if a ≤ b then ⟨a, b⟩ else ⟨b, a⟩

/-- The pair as a text. -/
def text (p : Pair) : String := p.low ++ "-" ++ p.high

/-- Pairs are ordered by their smaller ids, then by their greater ones. -/
instance : Ord Pair := ⟨compareLex (compareOn Pair.low) (compareOn Pair.high)⟩

instance : Std.TransOrd Pair :=
  inferInstanceAs (Std.TransCmp (compareLex (compareOn Pair.low) (compareOn Pair.high)))

instance : Std.LawfulEqOrd Pair where
  compare_self := Std.ReflOrd.compare_self
  eq_of_compare {p q} h := by
    have h : compareLex (compareOn Pair.low) (compareOn Pair.high) p q = .eq := h
    simp only [compareLex_eq_eq, compareOn, Std.compare_eq_iff_eq] at h
    obtain ⟨_, _⟩ := p
    obtain ⟨_, _⟩ := q
    simp_all

/-- **The order in which two ids are named does not matter.** -/
theorem of_comm (a b : String) : of a b = of b a := by
  unfold of
  split <;> split
  · next h h' => rw [String.le_antisymm h h']
  · rfl
  · rfl
  · next h h' => exact absurd (String.le_total a b) (by simp [h, h'])

end Pair

/-- The pairs that have met. -/
abbrev MetPairs := Std.TreeSet Pair

end SpriteScript
