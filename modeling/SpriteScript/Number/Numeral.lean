/-
  Decimal numerals and the floats they denote.

  * `Numeral` is `± digits · 10 ^ exponent`, `Numeral.toFloat` the nearest float;
  * `Numeral.scan` takes the digits, the decimals and the exponent off the front of a text and
    reports how many digits stood on each side of the point, so that a format can refuse some of
    the forms; the JSON reader is one such format;
  * `readFloat?` reads a text that is a number as a whole, names of special values included.
-/

namespace SpriteScript

/-- A decimal numeral `± digits · 10 ^ exponent`. -/
structure Numeral where
  negative : Bool
  digits : Nat
  exponent : Int
  deriving DecidableEq, Repr

/-- The number that decimal digits denote. -/
def digitsValue (ds : List Char) : Nat :=
  ds.foldl (fun n c => 10 * n + (c.toNat - '0'.toNat)) 0

namespace Numeral

/-- The nearest float. A numeral of at least `10 ^ 309` is beyond all floats and one below
`10 ^ -330` is closest to zero; only between them are powers of ten computed. -/
def toFloat (n : Numeral) : Float :=
  let top : Int := (Nat.toDigits 10 n.digits).length + n.exponent
  let size : Float :=
    if n.digits = 0 ∨ top < -330 then 0
    else if 310 ≤ top then 1 / 0
    else Float.ofScientific n.digits (n.exponent < 0) n.exponent.natAbs
  if n.negative then -size else size

/-! ## Scanning -/

/-- The parts of an unsigned numeral at the front of a text. -/
structure Parts where
  /-- Digits before the point. -/
  whole : List Char
  /-- Digits after the point, if there is a point. -/
  decimals : Option (List Char)
  /-- Sign and digits of the exponent, if there is an exponent mark. -/
  power : Option (Bool × List Char)

/-- Takes a sign off the front of a text; a plus sign only where it is allowed. -/
def scanSign (plus : Bool) : List Char → Bool × List Char
  | '-' :: cs => (true, cs)
  | '+' :: cs => if plus then (false, cs) else (false, '+' :: cs)
  | cs => (false, cs)

/-- Takes a point and the digits after it off the front of a text. -/
def scanDecimals : List Char → Option (List Char) × List Char
  | '.' :: cs => (some (cs.takeWhile Char.isDigit), cs.dropWhile Char.isDigit)
  | cs => (none, cs)

/-- Takes an exponent mark, a sign and digits off the front of a text. -/
def scanPower : List Char → Option (Bool × List Char) × List Char
  | c :: cs =>
    if c = 'e' ∨ c = 'E' then
      let (negative, cs) := scanSign true cs
      (some (negative, cs.takeWhile Char.isDigit), cs.dropWhile Char.isDigit)
    else (none, c :: cs)
  | [] => (none, [])

/-- Takes the parts of an unsigned numeral off the front of a text. -/
def scan (cs : List Char) : Parts × List Char :=
  let (decimals, rest) := scanDecimals (cs.dropWhile Char.isDigit)
  let (power, rest) := scanPower rest
  (⟨cs.takeWhile Char.isDigit, decimals, power⟩, rest)

/-- An exponent mark is followed by at least one digit. -/
def Parts.powerOk (p : Parts) : Bool :=
  p.power.all fun (_, ds) => !ds.isEmpty

/-- The numeral that the parts denote. -/
def ofParts (negative : Bool) (p : Parts) : Numeral :=
  let decimals := p.decimals.getD []
  let power : Int := match p.power with
    | some (true, ds) => -(digitsValue ds : Int)
    | some (false, ds) => digitsValue ds
    | none => 0
  ⟨negative, digitsValue (p.whole ++ decimals), power - decimals.length⟩

end Numeral

/-! ## Whole texts -/

/-- The special value that a text names, in any case of letters. -/
def specialFloat? (cs : List Char) : Option Float :=
  let name := String.ofList (cs.map Char.toLower)
  if name = "inf" ∨ name = "infinity" then some (1 / 0)
  else if name = "nan" then some (0 / 0)
  else none

/-- Reads a number: an optional sign, then the name of a special value, or digits with at most one
point among them and an optional exponent. -/
def readFloat? (s : String) : Option Float :=
  let (negative, cs) := Numeral.scanSign true s.toList
  match specialFloat? cs with
  | some v => some (if negative then -v else v)
  | none =>
    let (parts, rest) := Numeral.scan cs
    let digits := parts.whole ++ parts.decimals.getD []
    if rest.isEmpty && !digits.isEmpty && parts.powerOk then
      some (Numeral.ofParts negative parts).toFloat
    else none

end SpriteScript
