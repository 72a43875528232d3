/-
  Shortest decimal digits of a float.

  * `Binary.shortest` gives the digits and the scale of the shortest decimal number that reads
    back as the float, the nearest such number when there are several;
  * `FloatFormat` says how such digits are laid out, and `FloatFormat.write` lays them out.

  A float `m · 2 ^ q` is the nearest float of every real between the midpoints to its neighbours.
  On the grid of decimals with `n` digits only the two grid points around the value can lie
  between those midpoints, so they are the only candidates for each `n`.
-/
import SpriteScript.Number.Binary

namespace SpriteScript

namespace Binary

/-- The value and the two midpoints around it, in quarters of the unit of the mantissa. The lower
gap is half as wide at a power of two, unless the exponent is the least one. -/
structure Interval where
  low : Nat
  value : Nat
  high : Nat
  /-- Whether the midpoints themselves read back as the float. -/
  closed : Bool

/-- The reals that read back as the float. -/
def interval (b : Binary) : Interval where
  low := if b.mantissa = hiddenBit ∧ -1074 < b.exponent then 4 * b.mantissa - 1
    else 4 * b.mantissa - 2
  value := 4 * b.mantissa
  high := 4 * b.mantissa + 2
  closed := b.mantissa % 2 == 0

/-- Whether `d / s` lies in the interval, whose unit is `u / s`. -/
def Interval.holds (i : Interval) (u d : Nat) : Bool :=
  if i.closed then i.low * u ≤ d && d ≤ i.high * u else i.low * u < d && d < i.high * u

/-- The better of two neighbouring grid points `c` and `c + 1` (in units of `step`) inside the
interval; an exact tie goes to the even one. -/
def Interval.pick (i : Interval) (u step : Nat) : Option Nat :=
  let c := i.value * u / step
  let below := i.holds u (c * step)
  let above := i.holds u ((c + 1) * step)
  let left := i.value * u - c * step
  let right := (c + 1) * step - i.value * u
  if below && above then
    some (if left < right then c else if right < left then c + 1 else c + c % 2)
  else if below then some c
  else if above then some (c + 1)
  else none

/-- The number of digits of the whole part of `n / d`, or minus the number of zeros after the
point of a fraction. -/
def magnitude (n d : Nat) : Int :=
  let whole := (Nat.toDigits 10 (n / d)).length
  if n / d = 0 then 1 - ((Nat.toDigits 10 ((d - 1) / n)).length : Int) else whole

/-- Digits `c` and scale `e` of the shortest decimal `c · 10 ^ e` that reads back as the value. -/
def shortest (b : Binary) : Nat × Int :=
  let i := b.interval
  let top := magnitude b.num b.den
  let attempt (n : Nat) : Option (Nat × Int) :=
    let scale := top - n
    -- A quarter of the unit is `2 ^ (q - 2)`; both sides are brought to whole numbers.
    let quarter := b.exponent - 2
    let u := Nat.pow 10 (-scale).toNat <<< quarter.toNat
    let step := Nat.pow 10 scale.toNat <<< (-quarter).toNat
    (i.pick u step).map (·, scale)
  ((List.range' 1 17).findSome? attempt).getD (0, 0)

end Binary

/-- How the digits of a float are laid out. -/
structure FloatFormat where
  /-- The least power of ten written with leading zeros. -/
  positionalFrom : Int
  /-- The first power of ten written with an exponent. -/
  positionalBelow : Int
  /-- What follows the digits of a whole number. -/
  wholeTail : String
  /-- What stands before an exponent that is not negative. -/
  exponentSign : String

namespace FloatFormat

/-- Digits and scale without the zeros that the digits end in. -/
def normal : List Char → Int → List Char × Int
  | ds, e =>
    let tail := ds.reverse.takeWhile (· == '0')
    (ds.take (ds.length - tail.length), e + tail.length)

/-- The text of `ds · 10 ^ e`, where `ds` does not end in a zero. -/
def layOut (f : FloatFormat) (ds : List Char) (e : Int) : String :=
  let top := e + ds.length - 1
  if f.positionalFrom ≤ top ∧ top < f.positionalBelow then
    if 0 ≤ e then String.ofList (ds ++ List.replicate e.toNat '0') ++ f.wholeTail
    else if 0 ≤ top then
      let whole := (top + 1).toNat
      String.ofList (ds.take whole) ++ "." ++ String.ofList (ds.drop whole)
    else "0." ++ String.ofList (List.replicate (-top - 1).toNat '0' ++ ds)
  else
    let sign := if top < 0 then "-" else f.exponentSign
    let fraction := if ds.length ≤ 1 then "" else "." ++ String.ofList (ds.drop 1)
    String.ofList (ds.take 1) ++ fraction ++ "e" ++ sign ++ toString top.natAbs

/-- The text of an exact value. -/
def write (f : FloatFormat) (b : Binary) : String :=
  let sign := if b.negative then "-" else ""
  if b.isZero then sign ++ "0" ++ f.wholeTail
  else
    let (digits, e) := b.shortest
    let (ds, e) := normal (Nat.toDigits 10 digits) e
    sign ++ f.layOut ds e

end FloatFormat

end SpriteScript
