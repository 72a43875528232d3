/-
  Tokens of JSON text.

  * `Token` is a punctuation mark or a value without parts, `Token.scan?` takes one off the front
    of a text, and `Token.ofChars?` cuts a whole text into tokens;
  * `length_scan?`: a token is never empty, so cutting ends.

  Blanks are the space, the tab and the two line breaks only. A string holds no raw control
  character, and its escapes denote characters: a surrogate stands only in a pair.
-/
import SpriteScript.Json.Value

namespace SpriteScript

namespace Json

/-- A token of JSON text. -/
inductive Token where
  | openArray
  | closeArray
  | openObject
  | closeObject
  | comma
  | colon
  /-- A value without parts: null, a truth value, a number or a string. -/
  | scalar (v : Json)

namespace Token

/-! ## Strings -/

/-- The value of a hexadecimal digit. -/
def hexValue? (c : Char) : Option Nat :=
  if '0' ≤ c ∧ c ≤ '9' then some (c.toNat - 48)
  else if 'a' ≤ c ∧ c ≤ 'f' then some (c.toNat - 87)
  else if 'A' ≤ c ∧ c ≤ 'F' then some (c.toNat - 55)
  else none

/-- The value of four hexadecimal digits. -/
def hexUnit? (a b c d : Char) : Option Nat := do
  return ((← hexValue? a) * 4096 + (← hexValue? b) * 256 + (← hexValue? c) * 16 + (← hexValue? d))

/-- The character that a short escape denotes. -/
def shortEscape? : Char → Option Char
  | '"' => some '"'
  | '\\' => some '\\'
  | '/' => some '/'
  | 'b' => some '\x08'
  | 'f' => some '\x0c'
  | 'n' => some '\n'
  | 'r' => some '\r'
  | 't' => some '\t'
  | _ => none

/-- Reads a string after its opening quote, up to and with the closing one. -/
def scanString (read : List Char) : List Char → Option (String × List Char)
  | [] => none
  | '"' :: cs => some (String.ofList read.reverse, cs)
  | '\\' :: 'u' :: a :: b :: c :: d :: cs =>
    match hexUnit? a b c d with
    | none => none
    | some unit =>
      if 0xDC00 ≤ unit ∧ unit ≤ 0xDFFF then none
      else if 0xD800 ≤ unit ∧ unit ≤ 0xDBFF then
        match cs with
        | '\\' :: 'u' :: a' :: b' :: c' :: d' :: cs' =>
          match hexUnit? a' b' c' d' with
          | none => none
          | some low =>
            if 0xDC00 ≤ low ∧ low ≤ 0xDFFF then
              let code := 0x10000 + (unit - 0xD800) * 0x400 + (low - 0xDC00)
              scanString (Char.ofNat code :: read) cs'
            else none
        | _ => none
      else scanString (Char.ofNat unit :: read) cs
  | '\\' :: e :: cs =>
    match shortEscape? e with
    | some c => scanString (c :: read) cs
    | none => none
  | c :: cs => if c.toNat < 0x20 ∨ c = '\\' then none else scanString (c :: read) cs

theorem length_scanString (read cs : List Char) (s : String) (rest : List Char)
    (h : scanString read cs = some (s, rest)) : rest.length < cs.length := by
  fun_induction scanString read cs <;> simp_all <;> omega

/-! ## Numbers -/

/-- The parts of a numeral in JSON: no superfluous zero in front, and digits on both sides of a
point. -/
def partsOk (p : Numeral.Parts) : Bool :=
  let wholeOk := match p.whole with
    | [] => false
    | ['0'] => true
    | c :: _ => c != '0'
  wholeOk && p.decimals.all (!·.isEmpty) && p.powerOk

/-- A float as a value, if it is finite. -/
def ofFloat? (v : Float) : Option Json :=
  if v.isFinite then some (.float v) else none

/-- The value of a numeral: a whole number if it is written as one and fits in 64 bits, else the
nearest float. Minus zero is a float. -/
def ofNumeral? (p : Numeral.Parts) (n : Numeral) : Option Json :=
  if p.decimals.isNone && p.power.isNone then
    if n.negative then
      if 0 < n.digits ∧ n.digits ≤ 9223372036854775808 then some (.int (-(n.digits : Int)))
      else ofFloat? n.toFloat
    else if n.digits ≤ 18446744073709551615 then some (.int n.digits)
    else ofFloat? n.toFloat
  else ofFloat? n.toFloat

/-- Reads a number. -/
def scanNumber? (cs : List Char) : Option (Json × List Char) :=
  let (negative, cs) := Numeral.scanSign false cs
  let (parts, rest) := Numeral.scan cs
  if partsOk parts then
    (ofNumeral? parts (Numeral.ofParts negative parts)).map (·, rest)
  else none

/-! ## Tokens -/

/-- Takes one token off the front of a text that does not start with a blank. -/
def scan? : List Char → Option (Token × List Char)
  | '[' :: cs => some (.openArray, cs)
  | ']' :: cs => some (.closeArray, cs)
  | '\x7b' :: cs => some (.openObject, cs)
  | '\x7d' :: cs => some (.closeObject, cs)
  | ',' :: cs => some (.comma, cs)
  | ':' :: cs => some (.colon, cs)
  | 'n' :: 'u' :: 'l' :: 'l' :: cs => some (.scalar .null, cs)
  | 't' :: 'r' :: 'u' :: 'e' :: cs => some (.scalar (.bool true), cs)
  | 'f' :: 'a' :: 'l' :: 's' :: 'e' :: cs => some (.scalar (.bool false), cs)
  | '"' :: cs => (scanString [] cs).map fun (s, rest) => (.scalar (.string s), rest)
  | cs => (scanNumber? cs).map fun (v, rest) => (.scalar v, rest)

theorem length_dropWhile_le (p : Char → Bool) (cs : List Char) :
    (cs.dropWhile p).length ≤ cs.length :=
  (List.dropWhile_sublist p).length_le

theorem length_scanSign_le (plus : Bool) (cs : List Char) :
    (Numeral.scanSign plus cs).2.length ≤ cs.length := by
  unfold Numeral.scanSign
  split
  · simp
  · split <;> simp
  · simp

theorem length_scanPower_le (cs : List Char) : (Numeral.scanPower cs).2.length ≤ cs.length := by
  unfold Numeral.scanPower
  split
  · next c cs =>
    split
    · have := length_scanSign_le true cs
      have := length_dropWhile_le Char.isDigit (Numeral.scanSign true cs).2
      simp only [List.length_cons]
      omega
    · simp
  · simp

theorem length_scanDecimals_le (cs : List Char) :
    (Numeral.scanDecimals cs).2.length ≤ cs.length := by
  unfold Numeral.scanDecimals
  split
  · next cs =>
    have := length_dropWhile_le Char.isDigit cs
    simp only [List.length_cons]
    omega
  · simp

theorem length_scan_le (cs : List Char) :
    (Numeral.scan cs).2.length ≤ (cs.dropWhile Char.isDigit).length := by
  have := length_scanDecimals_le (cs.dropWhile Char.isDigit)
  have := length_scanPower_le (Numeral.scanDecimals (cs.dropWhile Char.isDigit)).2
  simp only [Numeral.scan]
  omega

theorem length_scanNumber? (cs : List Char) (v : Json) (rest : List Char)
    (h : scanNumber? cs = some (v, rest)) : rest.length < cs.length := by
  simp only [scanNumber?] at h
  split at h
  · next ok =>
    simp only [Option.map_eq_some_iff, Prod.mk.injEq] at h
    obtain ⟨_, _, _, rfl⟩ := h
    have hs := length_scanSign_le false cs
    have hr := length_scan_le (Numeral.scanSign false cs).2
    have hne : (Numeral.scan (Numeral.scanSign false cs).2).1.whole ≠ [] := by
      intro e
      simp [partsOk, e] at ok
    generalize (Numeral.scanSign false cs).2 = ds at *
    have hw : ds.takeWhile Char.isDigit ≠ [] := hne
    have := congrArg List.length (List.takeWhile_append_dropWhile (p := Char.isDigit) (l := ds))
    have := List.length_pos_iff.mpr hw
    simp only [List.length_append] at *
    omega
  · simp at h

/-- **A token is never empty.** -/
theorem length_scan? (cs : List Char) (t : Token) (rest : List Char)
    (h : scan? cs = some (t, rest)) : rest.length < cs.length := by
  unfold scan? at h
  split at h
  case h_10 cs =>
    simp only [Option.map_eq_some_iff, Prod.mk.injEq, Prod.exists] at h
    obtain ⟨s, r, hs, _, rfl⟩ := h
    have := length_scanString [] cs s r hs
    simp only [List.length_cons]
    omega
  case h_11 =>
    simp only [Option.map_eq_some_iff, Prod.mk.injEq, Prod.exists] at h
    obtain ⟨v, r, hv, _, rfl⟩ := h
    exact length_scanNumber? _ v r hv
  all_goals
    simp only [Option.some.injEq, Prod.mk.injEq] at h
    obtain ⟨_, rfl⟩ := h
    simp only [List.length_cons]
    omega

/-- The blanks between tokens. -/
def isGap (c : Char) : Bool := c == ' ' || c == '\t' || c == '\n' || c == '\r'

/-- Cuts a text into tokens, in front of those that were read before (the latest one first). -/
def cut (read : List Token) (cs : List Char) : Option (List Token) :=
  match cs with
  | [] => some read.reverse
  | c :: cs =>
    if isGap c then cut read cs
    else
      match _h : scan? (c :: cs) with
      | none => none
      | some (t, rest) => cut (t :: read) rest
termination_by cs.length
decreasing_by
  · simp
  · exact length_scan? _ t rest _h

/-- The tokens of a text. -/
def ofChars? (cs : List Char) : Option (List Token) := cut [] cs

end Token

end Json

end SpriteScript
