/-
  Random choices.

  * `RandomSource` is anything that hands out random words of 64 bits;
  * `SplitMix` is a source with 64 bits of state;
  * `chooseIndex` picks a place in a list evenly, `fraction` a float below a given one.

  Both draw again when a draw would favour some results, at most `maxDraws` times.
-/

namespace SpriteScript

/-- Something that hands out random words. -/
class RandomSource (ρ : Type) where
  word : ρ → UInt64 × ρ

/-- A source with 64 bits of state: the state moves on by a constant, and its bits are mixed by
shifts and multiplications. -/
structure SplitMix where
  state : UInt64 := 0
  deriving DecidableEq, Repr, Inhabited

namespace SplitMix

/-- The mixed bits of a state. -/
def mix (z : UInt64) : UInt64 :=
  let z := (z ^^^ (z >>> 30)) * 0xBF58476D1CE4E5B9
  let z := (z ^^^ (z >>> 27)) * 0x94D049BB133111EB
  z ^^^ (z >>> 31)

instance : RandomSource SplitMix where
  word s :=
    let state := s.state + 0x9E3779B97F4A7C15
    (mix state, ⟨state⟩)

end SplitMix

section
variable {ρ : Type} [RandomSource ρ]

/-- A random word of 32 bits: the high half of one of 64 bits. -/
def halfWord (r : ρ) : Nat × ρ :=
  let (w, r) := RandomSource.word r
  (w.toNat / 0x100000000, r)

/-- How often a draw is repeated at most. -/
def maxDraws : Nat := 1024

/-- The greatest low half of a product that is accepted when choosing among `n`: the products
below it favour no result. -/
def acceptedLow (n : Nat) : Nat := n <<< (31 - n.log2) - 1

/-- Draws words until one is accepted; the high half of its product with `n` is the choice. -/
def drawIndex (n : Nat) : Nat → ρ → Nat × ρ
  | 0, r => (0, r)
  | draws + 1, r =>
    let (v, r) := halfWord r
    if v * n % 0x100000000 ≤ acceptedLow n then (v * n / 0x100000000, r) else drawIndex n draws r

/-- A place in a list of `n` items, for `0 < n < 2 ^ 32`. -/
def chooseIndex (n : Nat) (r : ρ) : Nat × ρ := drawIndex n maxDraws r

/-- An item of a list that is not empty. -/
def choose {α : Type} (items : List α) (fallback : α) (r : ρ) : α × ρ :=
  let (i, r) := chooseIndex items.length r
  (items.getD i fallback, r)

/-- Draws words until the float of their upper 52 bits, scaled, is below the limit. -/
def drawFraction (limit : Float) : Nat → ρ → Float × ρ
  | 0, r => (0, r)
  | draws + 1, r =>
    let (w, r) := RandomSource.word r
    let v := (w >>> 12).toFloat / 4503599627370496 * limit
    if v < limit then (v, r) else drawFraction limit draws r

/-- A float between 0 and a limit, which is left out. -/
def fraction (limit : Float) (r : ρ) : Float × ρ := drawFraction limit maxDraws r

end

end SpriteScript
