/-
  The text of a number.

  * `numberText v` writes a whole number plainly and any other number with at most six decimals;
  * a number closer to a whole number than `nearWhole` counts as whole;
  * `Binary.wholeText` and `Binary.placesText` are the two forms, chosen by `Binary.text`.

  Whole numbers beyond 64 signed bits are written as the nearest end of that range.
-/
import SpriteScript.Number.Binary

namespace SpriteScript

/-! ## Digits -/

/-- The six decimal digits of a number below a million, the leading one first. -/
def sixDigits (n : Nat) : List Nat :=
  [n / 100000 % 10, n / 10000 % 10, n / 1000 % 10, n / 100 % 10, n / 10 % 10, n % 10]

/-- A list of digits without the zeros it ends in. -/
def dropTrailingZeros (ds : List Nat) : List Nat :=
  (ds.reverse.dropWhile (· == 0)).reverse

/-- The digits after the decimal point, with the point; nothing when there are none. -/
def fractionText (ds : List Nat) : String :=
  if ds.isEmpty then "" else "." ++ String.join (ds.map (toString ·))

namespace Binary

/-- The mantissa of the distance `1e-9` below which a number counts as whole, in units of
`2 ^ -82`. -/
def nearWhole : Nat := 0x112E0BE826D695

/-- Whether the value is whole, or closer to a whole number than `1e-9`. -/
def isWhole (b : Binary) : Bool := b.offset <<< 82 < nearWhole * b.den

/-- The nearest whole number, inside the range of 64 signed bits. -/
def wholeText (b : Binary) : String :=
  if b.negative then toString (-(min b.round 9223372036854775808 : Nat) : Int)
  else toString (min b.round 9223372036854775807)

/-- The value with six decimals, ties to the even neighbour, less the zeros it ends in. -/
def placesText (b : Binary) : String :=
  let millionths := roundHalfEven (b.num * 1000000) b.den
  (if b.negative then "-" else "") ++ toString (millionths / 1000000) ++
    fractionText (dropTrailingZeros (sixDigits (millionths % 1000000)))

/-- The text of an exact value. -/
def text (b : Binary) : String := if b.isWhole then b.wholeText else b.placesText

end Binary

/-- The text of a number, with names for the values that are not finite. -/
def numberText (v : Float) : String :=
  match Binary.ofFloat? v with
  | some b => b.text
  | none => if v.isNaN then "NaN" else if v < 0 then "-inf" else "inf"

end SpriteScript
