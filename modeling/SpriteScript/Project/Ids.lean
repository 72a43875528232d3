/-
  Sources of ids.

  * `IdSource` is anything that hands out ids one at a time;
  * `SequentialIds` counts: the ids are `stem-1`, `stem-2` and so on;
  * `RandomIds` writes 128 random bits in groups of hexadecimal digits, marked as random ids are.
-/
import SpriteScript.Project.Random

namespace SpriteScript

/-- Something that hands out ids. -/
class IdSource (ι : Type) where
  next : ι → String × ι

/-! ## Counted ids -/

/-- Ids that count up from 1. -/
structure SequentialIds where
  stem : String := "id"
  /-- How many ids were handed out. -/
  count : Nat := 0
  deriving DecidableEq, Repr, Inhabited

namespace SequentialIds

/-- The id with a number. -/
def nth (stem : String) (n : Nat) : String := stem ++ "-" ++ toString n

instance : IdSource SequentialIds :=
  ⟨fun s => (nth s.stem (s.count + 1), { s with count := s.count + 1 })⟩

end SequentialIds

/-! ## Random ids -/

/-- Ids of random bits. -/
structure RandomIds (ρ : Type) where
  source : ρ
  deriving Inhabited

namespace RandomIds

/-- The low hexadecimal digits of a number, so many of them. -/
def hexDigits (count n : Nat) : String :=
  let digits := Nat.toDigits 16 (n % Nat.pow 16 count)
  String.ofList (List.replicate (count - digits.length) '0' ++ digits)

/-- The id of two words: the third group starts with the digit 4, and the first two bits of the
fourth group are 1 and 0. -/
def ofWords (a b : UInt64) : String :=
  let a := a.toNat
  let b := b.toNat
  String.intercalate "-"
    [hexDigits 8 (a >>> 32), hexDigits 4 (a >>> 16), hexDigits 4 (0x4000 + a % 0x1000),
      hexDigits 4 (0x8000 + (b >>> 48) % 0x4000), hexDigits 12 b]

instance {ρ : Type} [RandomSource ρ] : IdSource (RandomIds ρ) where
  next ids :=
    let (a, source) := RandomSource.word ids.source
    let (b, source) := RandomSource.word source
    (ofWords a b, ⟨source⟩)

end RandomIds

end SpriteScript
