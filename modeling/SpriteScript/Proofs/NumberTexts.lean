/-
  The texts of numbers.

  * `Decimal` is a decimal of at most six places in canonical form, `Decimal.text` how it is
    written and `Decimal.value` the number that the text denotes; `Decimal.text_injective` says
    that no other decimal has this text;
  * `Decimal.ofMillionths` is the decimal for a number of millionths; `text_ofMillionths` and
    `value_ofMillionths` say how it is written and what it denotes;
  * `Binary.decimal` is what a number is rounded to for its text: `Binary.text_decimal` says that
    this is what is written, and `Binary.decimal_near` that it is close to the number;
  * `numberText_decimal`: **the text of a number is canonical, accurate and for a whole number
    exact**.
-/
import SpriteScript.Number.Numeral
import SpriteScript.Number.Places
import SpriteScript.Proofs.FloatValues

namespace SpriteScript

/-! ## Digits -/

theorem digitsValue_append (as bs : List Char) :
    digitsValue (as ++ bs) = 10 ^ bs.length * digitsValue as + digitsValue bs := by
  change Nat.ofDigitChars 10 (as ++ bs) 0 = _
  rw [Nat.ofDigitChars_append, Nat.ofDigitChars_eq_ofDigitChars_zero]
  rfl

theorem digitsValue_append_zeros (cs : List Char) (k : Nat) :
    digitsValue (cs ++ List.replicate k '0') = 10 ^ k * digitsValue cs := by
  have hzeros : digitsValue (List.replicate k '0') = 0 := by
    change Nat.ofDigitChars 10 _ 0 = 0
    rw [Nat.ofDigitChars_replicate_zero, Nat.mul_zero]
  rw [digitsValue_append, hzeros, List.length_replicate, Nat.add_zero]

theorem digitsValue_toDigits (n : Nat) : digitsValue (Nat.toDigits 10 n) = n :=
  Nat.ofDigitChars_ten_toDigits

/-- Only zero is written with a zero in front. -/
theorem toDigits_of_head?_eq {n : Nat} (h : (Nat.toDigits 10 n).head? = some '0') :
    Nat.toDigits 10 n = ['0'] := by
  induction n using Nat.strongRecOn with
  | ind n ih =>
    by_cases hn : n < 10
    · rw [Nat.toDigits_of_lt_base hn] at h ⊢
      rw [List.head?_cons, Option.some.injEq] at h
      rw [h]
    · -- the leading digit is that of a tenth of the number, which is not zero
      have hten : Nat.toDigits 10 (n / 10) = ['0'] := by
        refine ih (n / 10) (by omega) ?_
        rwa [Nat.toDigits_of_base_le (by decide) (by omega),
          List.head?_append_of_ne_nil _ Nat.toDigits_ne_nil] at h
      have hvalue := digitsValue_toDigits (n / 10)
      rw [hten] at hvalue
      have : n / 10 = 0 := hvalue.symm
      omega

theorem lt_of_mem_sixDigits {n d : Nat} (h : d ∈ sixDigits n) : d < 10 := by
  simp only [sixDigits, List.mem_cons, List.not_mem_nil, or_false] at h
  omega

theorem digitsValue_sixDigits {n : Nat} (h : n < 1000000) :
    digitsValue ((sixDigits n).map Nat.digitChar) = n := by
  change Nat.ofDigitChars 10 _ 0 = n
  simp only [sixDigits, List.map_cons, List.map_nil, Nat.mod_lt _ (by decide : 0 < 10),
    Nat.ofDigitChars_cons_digitChar_of_lt_ten, Nat.ofDigitChars_nil]
  omega

theorem dropTrailingZeros_append (ds : List Nat) :
    ∃ k, dropTrailingZeros ds ++ List.replicate k 0 = ds := by
  refine ⟨(ds.rtakeWhile (· == 0)).length, ?_⟩
  have hzeros : List.replicate (ds.rtakeWhile (· == 0)).length 0 = ds.rtakeWhile (· == 0) :=
    (List.eq_replicate_of_mem fun d hd => by simpa using List.mem_rtakeWhile_imp hd).symm
  rw [hzeros]
  exact List.rdropWhile_append_rtakeWhile

theorem getLast?_dropTrailingZeros (ds : List Nat) :
    (dropTrailingZeros ds).getLast? ≠ some 0 := by
  intro h
  obtain ⟨hne, hlast⟩ := List.mem_getLast?_eq_getLast h
  exact List.rdropWhile_last_not (· == 0) ds hne (beq_iff_eq.mpr hlast.symm)

/-- The places of a number of millionths are digits. -/
theorem lt_of_mem_places {n d : Nat} (h : d ∈ dropTrailingZeros (sixDigits n)) : d < 10 :=
  lt_of_mem_sixDigits ((List.rdropWhile_prefix (· == 0) _).subset h)

theorem toList_fractionText {ds : List Nat} (h : ∀ d ∈ ds, d < 10) :
    (fractionText ds).toList = if ds.isEmpty then [] else '.' :: ds.map Nat.digitChar := by
  have hdigits : (String.join (ds.map (toString ·))).toList = ds.map Nat.digitChar := by
    rw [String.toList_join, List.flatMap_map, List.map_eq_flatMap]
    refine List.flatMap_congr fun d hd => ?_
    rw [Nat.toString_eq_repr, Nat.repr_of_lt (h d hd), String.toList_singleton]
  rw [fractionText]
  split
  · rfl
  · rw [String.toList_append, hdigits]
    rfl

/-! ## Decimals -/

/-- A decimal of at most six places in canonical form: no zero stands in front of other digits or at
the end of the places. -/
@[ext] structure Decimal where
  negative : Bool
  /-- The digits in front of the point. -/
  whole : List Char
  /-- The digits behind the point, which is left out if there are none. -/
  places : List Char
  whole_ne_nil : whole ≠ []
  whole_digits : ∀ c ∈ whole, c.isDigit = true
  places_digits : ∀ c ∈ places, c.isDigit = true
  whole_leads : whole.head? = some '0' → whole = ['0']
  places_end : places.getLast? ≠ some '0'
  length_places_le : places.length ≤ 6

namespace Decimal

/-- What is written behind the sign. -/
def unsigned (d : Decimal) : List Char :=
  d.whole ++ if d.places.isEmpty then [] else '.' :: d.places

/-- How a decimal is written. -/
def text (d : Decimal) : String :=
  String.ofList (if d.negative then '-' :: d.unsigned else d.unsigned)

/-- The number that a decimal denotes. -/
def value (d : Decimal) : ℚ :=
  signFactor d.negative * (digitsValue (d.whole ++ d.places) / 10 ^ d.places.length)

/-! ### Reading -/

theorem scanSign_text (d : Decimal) :
    Numeral.scanSign true d.text.toList = (d.negative, d.unsigned) := by
  rw [text, String.toList_ofList]
  cases hsign : d.negative with
  | true => rfl
  | false =>
    -- the text starts with a digit, which is neither of the signs
    obtain ⟨c, cs, hwhole⟩ := List.exists_cons_of_ne_nil d.whole_ne_nil
    have hdigit := d.whole_digits c (hwhole ▸ List.mem_cons_self)
    have hminus : c ≠ '-' := fun h => absurd (h ▸ hdigit) (by decide)
    have hplus : c ≠ '+' := fun h => absurd (h ▸ hdigit) (by decide)
    simp [unsigned, hwhole, Numeral.scanSign, hminus, hplus]

/-- The parts of a decimal behind the sign, as a reader of numerals tells them apart. -/
def parts (d : Decimal) : Numeral.Parts :=
  ⟨d.whole, if d.places.isEmpty then none else some d.places, none⟩

theorem getD_decimals_parts (d : Decimal) : d.parts.decimals.getD [] = d.places := by
  by_cases hnone : d.places = []
  · simp [parts, hnone]
  · simp [parts, hnone]

theorem scan_unsigned (d : Decimal) : Numeral.scan d.unsigned = (d.parts, []) := by
  have hpoint : Char.isDigit '.' = false := rfl
  have hplaces : d.places.takeWhile Char.isDigit = d.places :=
    List.takeWhile_eq_self_iff.mpr d.places_digits
  have hrest : d.places.dropWhile Char.isDigit = [] :=
    List.dropWhile_eq_nil_iff.mpr d.places_digits
  rw [Numeral.scan, unsigned, parts, List.takeWhile_append_of_pos d.whole_digits,
    List.dropWhile_append_of_pos d.whole_digits]
  by_cases hnone : d.places.isEmpty = true
  · simp only [if_pos hnone]
    simp [Numeral.scanDecimals, Numeral.scanPower]
  · simp only [if_neg hnone]
    simp [Numeral.scanDecimals, Numeral.scanPower, hpoint, hplaces, hrest]

/-- **A text belongs to one decimal**, the one that is read off it. -/
theorem text_injective : Function.Injective text := by
  intro d d' h
  have hsigned : (d.negative, d.unsigned) = (d'.negative, d'.unsigned) := by
    rw [← scanSign_text, ← scanSign_text, h]
  have hparts : (d.parts, ([] : List Char)) = (d'.parts, []) := by
    rw [← scan_unsigned, ← scan_unsigned, (Prod.mk.inj hsigned).2]
  have hwhole := congrArg Numeral.Parts.whole (Prod.mk.inj hparts).1
  have hplaces : d.places = d'.places := by
    rw [← getD_decimals_parts, ← getD_decimals_parts, (Prod.mk.inj hparts).1]
  exact Decimal.ext (Prod.mk.inj hsigned).1 hwhole hplaces

/-! ### Millionths -/

/-- The decimal for so many millionths. -/
def ofMillionths (negative : Bool) (n : Nat) : Decimal where
  negative
  whole := Nat.toDigits 10 (n / 1000000)
  places := (dropTrailingZeros (sixDigits (n % 1000000))).map Nat.digitChar
  whole_ne_nil := Nat.toDigits_ne_nil
  whole_digits _ h := Nat.isDigit_of_mem_toDigits (by decide) (by decide) h
  places_digits := by
    intro c hc
    obtain ⟨d, hd, rfl⟩ := List.mem_map.mp hc
    rw [Nat.isDigit_digitChar]
    exact decide_eq_true (lt_of_mem_places hd)
  whole_leads := toDigits_of_head?_eq
  places_end := by
    rw [List.getLast?_map]
    intro h
    obtain ⟨d, hlast, hzero⟩ := Option.map_eq_some_iff.mp h
    rw [Nat.digitChar_eq_zero.mp hzero] at hlast
    exact getLast?_dropTrailingZeros _ hlast
  length_places_le := by
    rw [List.length_map]
    exact (List.rdropWhile_prefix (· == 0) _).length_le

theorem text_ofMillionths (negative : Bool) (n : Nat) :
    (ofMillionths negative n).text = (if negative then "-" else "") ++ toString (n / 1000000) ++
      fractionText (dropTrailingZeros (sixDigits (n % 1000000))) := by
  apply String.toList_injective
  rw [String.toList_append, String.toList_append, toList_fractionText fun _ => lt_of_mem_places,
    Nat.toString_eq_ofList_toDigits, String.toList_ofList, text, String.toList_ofList]
  cases negative <;> simp [ofMillionths, unsigned]

/-- A whole number is written without a point, and zero without a sign. -/
theorem text_ofMillionths_whole (negative : Bool) (n : Nat) :
    (ofMillionths (negative && n != 0) (n * 1000000)).text =
      toString (if negative then -(n : Int) else n) := by
  have hpoint : fractionText (dropTrailingZeros (sixDigits 0)) = "" := rfl
  rw [text_ofMillionths, Nat.mul_div_cancel _ (by decide), Nat.mul_mod_left, hpoint,
    String.append_empty]
  cases negative with
  | false => rfl
  | true =>
    cases n with
    | zero => rfl
    | succ n => rfl

/-- With the zeros that are left out, the digits of a decimal count its millionths. -/
theorem digitsValue_ofMillionths (negative : Bool) (n : Nat) :
    let d := ofMillionths negative n
    ∃ k, d.places.length + k = 6 ∧ 10 ^ k * digitsValue (d.whole ++ d.places) = n := by
  intro d
  obtain ⟨k, hk⟩ := dropTrailingZeros_append (sixDigits (n % 1000000))
  have hplaces : d.places ++ List.replicate k '0' =
      (sixDigits (n % 1000000)).map Nat.digitChar := by
    rw [← hk, List.map_append, List.map_replicate]
    rfl
  refine ⟨k, ?_, ?_⟩
  · have hlength := congrArg List.length hplaces
    rwa [List.length_append, List.length_replicate, List.length_map] at hlength
  · calc 10 ^ k * digitsValue (d.whole ++ d.places)
        = digitsValue (Nat.toDigits 10 (n / 1000000) ++
            (sixDigits (n % 1000000)).map Nat.digitChar) := by
          rw [← digitsValue_append_zeros, List.append_assoc, hplaces]
          rfl
      _ = 10 ^ 6 * (n / 1000000) + n % 1000000 := by
          rw [digitsValue_append, digitsValue_toDigits,
            digitsValue_sixDigits (Nat.mod_lt _ (by decide)), List.length_map]
          rfl
      _ = n := by omega

theorem value_ofMillionths (negative : Bool) (n : Nat) :
    (ofMillionths negative n).value = signFactor negative * (n / 10 ^ 6) := by
  obtain ⟨k, hlength, hdigits⟩ := digitsValue_ofMillionths negative n
  have hnegative : (ofMillionths negative n).negative = negative := rfl
  generalize ofMillionths negative n = d at hlength hdigits hnegative ⊢
  have hn : (n : ℚ) = 10 ^ k * digitsValue (d.whole ++ d.places) := by
    exact_mod_cast hdigits.symm
  rw [value, hnegative, hn, ← hlength, pow_add]
  field_simp

theorem value_ofMillionths_whole (negative : Bool) (n : Nat) :
    (ofMillionths (negative && n != 0) (n * 1000000)).value = signFactor negative * n := by
  have hcancel : ((n * 1000000 : Nat) / 10 ^ 6 : ℚ) = n := by
    push_cast
    field_simp
    norm_num
  rw [value_ofMillionths, hcancel]
  by_cases hzero : n = 0
  · simp [hzero]
  · have hnonzero : (n != 0) = true := bne_iff_ne.mpr hzero
    rw [hnonzero, Bool.and_true]

end Decimal

/-! ## Numbers -/

/-- Half a millionth is the most by which `n` millionths are off. -/
theorem abs_sub_le_of_near {n num den : Nat} (hden : 0 < den)
    (hupper : 2 * (n * den) ≤ 2 * (num * 1000000) + den)
    (hlower : 2 * (num * 1000000) ≤ 2 * (n * den) + den) :
    |(n / 10 ^ 6 - num / den : ℚ)| ≤ 5 / 10 ^ 7 := by
  have hpos : (0 : ℚ) < den := by exact_mod_cast hden
  obtain ⟨q, hq⟩ : ∃ q : ℚ, (num : ℚ) = q * den := ⟨num / den, by field_simp⟩
  have hupper' : 2 * (n * den : ℚ) ≤ 2 * (q * den * 1000000) + den := by
    rw [← hq]
    exact_mod_cast hupper
  have hlower' : 2 * (q * den * 1000000) ≤ 2 * (n * den : ℚ) + den := by
    rw [← hq]
    exact_mod_cast hlower
  have hle : 2 * (n : ℚ) ≤ 2 * (q * 1000000) + 1 :=
    le_of_mul_le_mul_right (by linarith) hpos
  have hge : 2 * (q * 1000000) ≤ 2 * (n : ℚ) + 1 :=
    le_of_mul_le_mul_right (by linarith) hpos
  rw [hq, mul_div_cancel_right₀ _ hpos.ne', abs_le]
  constructor <;> linarith

namespace Binary

/-- The decimal that a number is rounded to for its text. -/
def decimal (b : Binary) : Decimal :=
  if b.isWhole then .ofMillionths (b.negative && b.round != 0) (b.round * 1000000)
  else .ofMillionths b.negative (roundHalfEven (b.num * 1000000) b.den)

/-- In the range of 64 signed bits the nearest whole number is written as it is. -/
theorem wholeText_eq {b : Binary} (h : b.round < 2 ^ 63) :
    b.wholeText = toString (if b.negative then -(b.round : Int) else b.round) := by
  rw [wholeText, Nat.min_eq_left (by omega), Nat.min_eq_left (by omega)]
  cases b.negative <;> rfl

theorem text_decimal {b : Binary} (h : b.round < 2 ^ 63) : b.decimal.text = b.text := by
  unfold decimal text
  split
  · rw [Decimal.text_ofMillionths_whole, wholeText_eq h]
  · exact Decimal.text_ofMillionths _ _

theorem decimal_near (b : Binary) : |b.decimal.value - b.value| ≤ 5 / 10 ^ 7 := by
  obtain ⟨n, hvalue, hupper, hlower⟩ : ∃ n : Nat,
      b.decimal.value = signFactor b.negative * (n / 10 ^ 6) ∧
      2 * (n * b.den) ≤ 2 * (b.num * 1000000) + b.den ∧
      2 * (b.num * 1000000) ≤ 2 * (n * b.den) + b.den := by
    unfold decimal
    split
    case isTrue hwhole =>
      refine ⟨b.round * 1000000, ?_, ?_⟩
      · rw [Decimal.value_ofMillionths_whole]
        push_cast
        field_simp
        norm_num
      · have hoffset : b.offset * 2 ^ 82 < nearWhole * b.den := by
          simpa [isWhole, Nat.shiftLeft_eq] using hwhole
        have hround := b.round_near
        rw [nearWhole] at hoffset
        rw [Nat.mul_right_comm]
        omega
    case isFalse =>
      exact ⟨_, Decimal.value_ofMillionths _ _, roundHalfEven_near b.den_pos⟩
  rw [hvalue, value_eq, ← mul_sub, abs_mul, abs_signFactor, one_mul]
  exact abs_sub_le_of_near b.den_pos hupper hlower

/-- A whole number is written as it is. -/
theorem text_of_value_eq {b : Binary} (h : b.round < 2 ^ 63) {n : Int} (hn : b.value = n) :
    b.text = toString n := by
  obtain ⟨hround, hoffset⟩ := round_of_value_eq hn
  have hwhole : b.isWhole = true := by
    rw [isWhole, hoffset, Nat.zero_shiftLeft]
    exact decide_eq_true (Nat.mul_pos (by decide) b.den_pos)
  have hvalue : (if b.negative then -(b.round : Int) else b.round) = n := by
    have hden : (b.den : ℚ) ≠ 0 := by exact_mod_cast b.den_pos.ne'
    have hsigned : signFactor b.negative * b.round = n := by
      rw [← hn, value_eq, num_of_value_eq hn, hround, Nat.cast_mul, mul_div_cancel_right₀ _ hden]
    cases hsign : b.negative with
    | true =>
      simp only [signFactor, hsign, if_true, neg_one_mul] at hsigned ⊢
      exact_mod_cast hsigned
    | false =>
      simp only [signFactor, hsign, Bool.false_eq_true, if_false, one_mul] at hsigned ⊢
      exact_mod_cast hsigned
  rw [text, if_pos hwhole, wholeText_eq h, hvalue]

end Binary

/-- **The text of a number is canonical and accurate.** The text of each finite number in the range
of 64 signed bits is that of a decimal of at most six places, without superfluous zeros; what this
text denotes is at most half a millionth off; and a whole number is written as it is. -/
theorem numberText_decimal {v : Float} {x : ℚ} (hx : exactValue? v = some x)
    (hsize : |x| < 2 ^ 63) :
    (∃ d : Decimal, d.text = numberText v) ∧
    (∀ d : Decimal, d.text = numberText v → |d.value - x| ≤ 5 / 10 ^ 7) ∧
    ∀ n : Int, x = n → numberText v = toString n := by
  rw [exactValue?_eq] at hx
  obtain ⟨b, hb, rfl⟩ := Option.map_eq_some_iff.mp hx
  have hround := Binary.round_lt hb hsize
  have htext : numberText v = b.text := by rw [numberText, hb]
  rw [htext]
  refine ⟨⟨b.decimal, Binary.text_decimal hround⟩, ?_, ?_⟩
  · intro d hd
    rw [← Binary.text_decimal hround] at hd
    rw [Decimal.text_injective hd]
    exact b.decimal_near
  · intro n hn
    exact Binary.text_of_value_eq hround hn

/-- A number in the middle between two decimals is written as the even one, and the zero that has a
sign without it. -/
theorem numberText_decimal_tie :
    exactValue? (-0.0078125) = some (-1 / 128) ∧ |(-1 / 128 : ℚ)| < 2 ^ 63 ∧
    (∃ d : Decimal, d.text = "-0.007812" ∧ |d.value - -1 / 128| ≤ 5 / 10 ^ 7) ∧
    exactValue? (-0.0) = some 0 ∧ |(0 : ℚ)| < 2 ^ 63 ∧ numberText (-0.0) = "0" := by
  have htie : exactValue? (-0.0078125) = some (-1 / 128) := by
    have hread : Binary.ofFloat? (-0.0078125) = some ⟨true, 2 ^ 52, -59⟩ := by decide
    rw [exactValue?_eq, hread, Option.map_some, Binary.value, signFactor]
    norm_num
  have hzero : exactValue? (-0.0) = some 0 := rfl
  have htext : numberText (-0.0078125) = "-0.007812" := by decide
  have hsmall : |(-1 / 128 : ℚ)| < 2 ^ 63 := by norm_num [abs_lt]
  have hnone : |(0 : ℚ)| < 2 ^ 63 := by norm_num
  obtain ⟨⟨d, hd⟩, hnear, -⟩ := numberText_decimal htie hsmall
  obtain ⟨-, -, hwhole⟩ := numberText_decimal hzero hnone
  exact ⟨htie, hsmall, ⟨d, hd.trans htext, hnear d hd⟩, hzero, hnone, hwhole 0 Int.cast_zero.symm⟩

/-- A number that is not whole keeps its sign when no decimal is left of it. -/
example : numberText (-0.0000003) = "-0" := by decide

end SpriteScript
