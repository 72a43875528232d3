/-
  The exact values of floats.

  * `exactValue?` is the rational number that the bits of a float denote, as the model of floats
    takes them apart; `isSome_exactValue?` says that just the finite floats have one, and
    `Binary.value` is the one that an exact reading stands for;
  * `exactValue?_eq`: **reading a float exactly loses nothing**. `Binary.mantissa_lt` bounds the
    mantissas that are read, and `Binary.value_eq` ties a value to its fraction of `num` and `den`;
  * `roundHalfEven_near`: a rounded quotient is off by half a unit at most; `Binary.round_near`: a
    rounded number is off by its `offset`.
-/
import SpriteScript.Number.Binary
import Mathlib

namespace SpriteScript

open Float.Model (UnpackedFloat)

/-! ## Values -/

/-- The rational number that a float denotes whose bits are taken apart; there is none for
infinities and NaN. -/
def unpackedValue? : UnpackedFloat → Option ℚ
  | .zero _ => some 0
  | .finite sign mantissa exponent _ => some (sign.apply mantissa * 2 ^ exponent)
  | .infinity _ | .notANumber => none

/-- The rational number that the bits of a float denote; there is none for infinities and NaN. -/
def exactValue? (v : Float) : Option ℚ := unpackedValue? v.toModel.unpack

/-- The floats with a value are the finite ones. -/
theorem isSome_exactValue? (v : Float) : (exactValue? v).isSome = v.isFinite := by
  change (unpackedValue? v.toModel.unpack).isSome = v.toModel.unpack.isFinite
  cases v.toModel.unpack <;> rfl

/-- A sign as a factor. -/
def signFactor (negative : Bool) : ℚ := if negative then -1 else 1

theorem abs_signFactor (negative : Bool) : |signFactor negative| = 1 := by
  cases negative <;> simp [signFactor]

namespace Binary

/-- The rational number that an exact reading stands for. -/
def value (b : Binary) : ℚ := signFactor b.negative * (b.mantissa * 2 ^ b.exponent)

theorem num_div_den (b : Binary) : (b.num / b.den : ℚ) = b.mantissa * 2 ^ b.exponent := by
  obtain ⟨n, hn | hn⟩ := b.exponent.eq_nat_or_neg
  · simp [num, den, hn, Nat.shiftLeft_eq]
  · simp [num, den, hn, Nat.shiftLeft_eq, div_eq_mul_inv]

theorem value_eq (b : Binary) : b.value = signFactor b.negative * (b.num / b.den) := by
  rw [value, num_div_den]

theorem abs_value (b : Binary) : |b.value| = b.num / b.den := by
  rw [value_eq, abs_mul, abs_signFactor, one_mul, abs_of_nonneg (by positivity)]

theorem num_of_value_eq {b : Binary} {n : Int} (h : b.value = n) : b.num = n.natAbs * b.den := by
  have hden : (b.den : ℚ) ≠ 0 := by exact_mod_cast b.den_pos.ne'
  have habs := b.abs_value
  rw [h, eq_div_iff hden] at habs
  have hnum : (n.natAbs * b.den : ℚ) = b.num := by rwa [Nat.cast_natAbs, Int.cast_abs]
  exact_mod_cast hnum.symm

end Binary

/-! ## Reading the bits -/

section
variable (bits : BitVec 64)

theorem toNat_unpackMantissa :
    (@UnpackedFloat.unpackMantissa .binary64 bits).toNat = bits.toNat % Binary.hiddenBit := by
  rw [UnpackedFloat.unpackMantissa_def, BitVec.extractLsb'_toNat]
  rfl

theorem toNat_unpackExponent :
    (@UnpackedFloat.unpackExponent .binary64 bits).toNat =
      bits.toNat / Binary.hiddenBit % 2048 := by
  rw [UnpackedFloat.unpackExponent_def, BitVec.extractLsb'_toNat, Nat.shiftRight_eq_div_pow]
  rfl

theorem toNat_unpackSign :
    (@UnpackedFloat.unpackSign .binary64 bits).toNat = bits.toNat / 0x8000000000000000 % 2 := by
  rw [UnpackedFloat.unpackSign_def, BitVec.extractLsb'_toNat, Nat.shiftRight_eq_div_pow]
  rfl

end

/-- The leading bit, which is not stored, stands in front of the mantissa. -/
theorem toNat_one_append (m : BitVec 52) :
    (1#1 ++ m : BitVec (1 + 52)).toNat = m.toNat + Binary.hiddenBit := by
  rw [BitVec.toNat_append, ← Nat.shiftLeft_add_eq_or_of_lt m.isLt, Nat.add_comm]
  rfl

theorem unpackedValue?_finite (s : BitVec 1) (m : Nat) (e : Int) (hm : 0 < m) :
    unpackedValue? (.finite (.ofBitVec s) m e hm) = some (Binary.value ⟨s.toNat == 1, m, e⟩) := by
  have hs : s = 0#1 ∨ s = 1#1 := by
    revert s
    decide
  rcases hs with rfl | rfl
  · simp [unpackedValue?, Binary.value, signFactor, UnpackedFloat.Sign.ofBitVec,
      UnpackedFloat.Sign.apply]
  · simp [unpackedValue?, Binary.value, signFactor, UnpackedFloat.Sign.ofBitVec,
      UnpackedFloat.Sign.apply]

/-- **Reading a float exactly loses nothing**: it gives the value of each finite float, and nothing
for the others. -/
theorem exactValue?_eq (v : Float) : exactValue? v = (Binary.ofFloat? v).map Binary.value := by
  have hunpack : v.toModel.unpack = UnpackedFloat.unpack .binary64 v.toBits.toBitVec := rfl
  have hmantissa := toNat_unpackMantissa v.toBits.toBitVec
  have hscale := toNat_unpackExponent v.toBits.toBitVec
  have hsign := toNat_unpackSign v.toBits.toBitVec
  rw [UInt64.toNat_toBitVec] at hmantissa hscale hsign
  have hlast : @UnpackedFloat.unpackExponent .binary64 v.toBits.toBitVec = -1#11 ↔
      v.toBits.toNat / Binary.hiddenBit % 2048 = 2047 := by
    rw [← BitVec.toNat_inj, hscale]
    rfl
  have hfirst : @UnpackedFloat.unpackExponent .binary64 v.toBits.toBitVec = 0#11 ↔
      v.toBits.toNat / Binary.hiddenBit % 2048 = 0 := by
    rw [← BitVec.toNat_inj, hscale]
    rfl
  have hbias : Float.Model.Format.binary64.exponentBias = 1023 := rfl
  rw [exactValue?, hunpack, UnpackedFloat.unpack, Binary.ofFloat?, Binary.ofBits?]
  simp only [hlast, hfirst, hbias]
  -- the infinities, NaN, the zeros, the floats without a leading bit and those with one
  split_ifs with hnone hinfinite hsmall hzero
  · rfl
  · rfl
  · have hfraction : v.toBits.toNat % Binary.hiddenBit = 0 := by
      rw [← hmantissa, hzero]
      rfl
    simp [unpackedValue?, Binary.value, hfraction]
  · rw [unpackedValue?_finite, hsign, hmantissa, hscale, hsmall]
    rfl
  · rw [unpackedValue?_finite, hsign, toNat_one_append, hmantissa, hscale]
    rfl

/-- A mantissa has at most 53 bits, the leading one included. -/
theorem Binary.mantissa_lt {v : Float} {b : Binary} (h : ofFloat? v = some b) :
    b.mantissa < 2 * hiddenBit := by
  have hfraction : v.toBits.toNat % hiddenBit < hiddenBit := Nat.mod_lt _ (by decide)
  unfold ofFloat? ofBits? at h
  dsimp only at h
  split_ifs at h with hnone hsmall
  · cases h
    exact Nat.lt_of_lt_of_le hfraction (Nat.le_mul_of_pos_left _ Nat.two_pos)
  · cases h
    dsimp only
    omega

/-! ## Rounding -/

/-- A rounded quotient is off by half a unit at most. -/
theorem roundHalfEven_near {n d : Nat} (hd : 0 < d) :
    2 * (roundHalfEven n d * d) ≤ 2 * n + d ∧ 2 * n ≤ 2 * (roundHalfEven n d * d) + d := by
  have hdivide := Nat.div_add_mod' n d
  have hrest := Nat.mod_lt n hd
  unfold roundHalfEven
  dsimp only
  split_ifs with hbelow habove
  · omega
  · rw [Nat.add_mul, Nat.one_mul]
    omega
  · -- at a tie both neighbours are half a unit away
    rcases Nat.mod_two_eq_zero_or_one (n / d) with heven | hodd
    · rw [heven, Nat.add_zero]
      omega
    · rw [hodd, Nat.add_mul, Nat.one_mul]
      omega

namespace Binary

/-- The nearest whole number is `offset` away, below or above. -/
theorem round_near (b : Binary) :
    b.round * b.den = b.num + b.offset ∨ b.num = b.round * b.den + b.offset := by
  have hden := b.den_pos
  have hdivide := Nat.div_add_mod' b.num b.den
  have hrest := Nat.mod_lt b.num hden
  have hround : b.round = b.num / b.den + (2 * (b.num % b.den) + b.den) / (2 * b.den) := by
    have hsplit : 2 * b.num + b.den =
        2 * (b.num % b.den) + b.den + 2 * b.den * (b.num / b.den) := by
      rw [Nat.mul_assoc, Nat.mul_comm b.den]
      omega
    rw [round, hsplit, Nat.add_mul_div_left _ _ (by omega), Nat.add_comm]
  by_cases h : 2 * (b.num % b.den) < b.den
  · have hdown : (2 * (b.num % b.den) + b.den) / (2 * b.den) = 0 := Nat.div_eq_of_lt (by omega)
    rw [hround, hdown, offset, Nat.add_zero]
    omega
  · have hup : (2 * (b.num % b.den) + b.den) / (2 * b.den) = 1 :=
      Nat.div_eq_of_lt_le (by omega) (by omega)
    rw [hround, hup, offset, Nat.add_mul, Nat.one_mul]
    omega

/-- A whole number is its own nearest whole number. -/
theorem round_of_value_eq {b : Binary} {n : Int} (h : b.value = n) :
    b.round = n.natAbs ∧ b.offset = 0 := by
  have hnum := num_of_value_eq h
  have hoffset : b.offset = 0 := by rw [offset, hnum, Nat.mul_mod_left, Nat.zero_min]
  refine ⟨Nat.eq_of_mul_eq_mul_right b.den_pos ?_, hoffset⟩
  have hnear := b.round_near
  omega

/-- A float whose size is in the range of 64 signed bits is rounded to a number in that range, since
those that are not whole have less than 54 bits. -/
theorem round_lt {v : Float} {b : Binary} (h : ofFloat? v = some b) (hsize : |b.value| < 2 ^ 63) :
    b.round < 2 ^ 63 := by
  have hmantissa := mantissa_lt h
  have hden := b.den_pos
  have hnum : b.num < 2 ^ 63 * b.den := by
    rw [abs_value, div_lt_iff₀ (by exact_mod_cast hden)] at hsize
    exact_mod_cast hsize
  obtain ⟨n, hn | hn⟩ := b.exponent.eq_nat_or_neg
  · have hwhole : b.den = 1 := by simp [den, hn]
    rw [hwhole] at hnum
    rw [round, hwhole]
    omega
  · have hfew : b.num = b.mantissa := by simp [num, hn]
    have hround : b.round ≤ b.num + 1 := by
      refine Nat.div_le_of_le_mul ?_
      have hle := Nat.le_mul_of_pos_left (2 * b.num) hden
      rw [Nat.mul_add, Nat.mul_one, Nat.mul_assoc, Nat.mul_left_comm]
      omega
    have hbits : 2 * hiddenBit + 1 < 2 ^ 63 := by decide
    omega

end Binary

end SpriteScript
