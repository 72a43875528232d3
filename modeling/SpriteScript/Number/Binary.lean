/-
  Exact reading of floating-point numbers.

  A finite float is `± mantissa · 2 ^ exponent` with natural mantissa.  Every decision of this
  library that depends on the size of a float (its text, loop counts, durations, wrapped angles)
  is taken on that exact value, in `Nat` and `Int`.

  * `Binary` is the exact value, `Binary.ofFloat?` reads it off the bits of a float;
  * `Binary.num` and `Binary.den` give its size as a fraction, `Binary.isInteger` says that the
    fraction is whole, `Binary.ceil` and `Binary.round` (half away from zero) its neighbours;
  * `roundHalfEven` divides and rounds a tie to the even neighbour;
  * `remainder` is the exact remainder of a float by a natural number, with the sign of the float.
-/

namespace SpriteScript

/-- The exact value of a finite float: `± mantissa · 2 ^ exponent`. -/
structure Binary where
  negative : Bool
  mantissa : Nat
  exponent : Int
  deriving DecidableEq, Repr

namespace Binary

/-! ## Reading the bits -/

/-- The leading bit of a mantissa, which is not stored. -/
def hiddenBit : Nat := 0x10000000000000

/-- The value behind 64 bits of the binary interchange format; nothing for infinities and NaN. -/
def ofBits? (bits : Nat) : Option Binary :=
  let negative := bits / 0x8000000000000000 % 2 == 1
  let scale : Nat := bits / hiddenBit % 2048
  let fraction : Nat := bits % hiddenBit
  if scale = 2047 then none
  else if scale = 0 then some ⟨negative, fraction, -1074⟩
  else some ⟨negative, fraction + hiddenBit, (scale : Int) - 1075⟩

/-- The exact value of a finite float. -/
def ofFloat? (v : Float) : Option Binary :=
  ofBits? v.toBits.toNat

/-! ## The size as a fraction -/

/-- Numerator of the absolute value. -/
def num (b : Binary) : Nat := b.mantissa <<< b.exponent.toNat

/-- Denominator of the absolute value, a power of two. -/
def den (b : Binary) : Nat := 1 <<< (-b.exponent).toNat

theorem den_pos (b : Binary) : 0 < b.den := by
  rw [den, Nat.one_shiftLeft]
  exact Nat.two_pow_pos _

/-- A value of zero, of either sign. -/
def isZero (b : Binary) : Bool := b.mantissa == 0

/-- The absolute value, rounded up to a whole number. -/
def ceil (b : Binary) : Nat := (b.num + (b.den - 1)) / b.den

/-- The absolute value, rounded to a whole number; a half goes up. -/
def round (b : Binary) : Nat := (2 * b.num + b.den) / (2 * b.den)

/-- The distance of the absolute value from `round`, in units of `1 / den`. -/
def offset (b : Binary) : Nat := min (b.num % b.den) (b.den - b.num % b.den)

end Binary

/-! ## Quotients -/

/-- `n / d` to the nearest whole number; a tie goes to the even neighbour. -/
def roundHalfEven (n d : Nat) : Nat :=
  let q := n / d
  let r := n % d
  if 2 * r < d then q
  else if d < 2 * r then q + 1
  else q + q % 2

/-! ## Remainders -/

/-- `2 ^ e` as a float, for `-1074 ≤ e ≤ 1023`. -/
def powerOfTwo (e : Int) : Float :=
  if e < -1022 then Float.ofBits (UInt64.ofNat (1 <<< (e + 1074).toNat))
  else Float.ofBits (UInt64.ofNat ((e + 1023).toNat * Binary.hiddenBit))

/-- The remainder of the division of `v` by `m`, exactly, with the sign of `v`; it has no value
for an infinite `v`.  The result has at most the mantissa of `v`, so that the product below is not
rounded. -/
def remainder (v : Float) (m : Nat) : Float :=
  match Binary.ofFloat? v with
  | none => 0 / 0
  | some b =>
    let rest := Float.ofNat (b.num % (m * b.den)) * powerOfTwo (min b.exponent 0)
    if b.negative then -rest else rest

end SpriteScript
