/-
  White space in the sense of the Unicode property `White_Space`.

  * `isBlank` is the property, `trim` removes it from both ends of a text, and `isBlankText` holds
    of a text that has nothing else.
-/

namespace SpriteScript

/-- The characters with the property `White_Space`. -/
def isBlank (c : Char) : Bool :=
  let n := c.toNat
  (0x9 ≤ n && n ≤ 0xD) || n == 0x20 || n == 0x85 || n == 0xA0 || n == 0x1680 ||
    (0x2000 ≤ n && n ≤ 0x200A) || n == 0x2028 || n == 0x2029 || n == 0x202F || n == 0x205F ||
    n == 0x3000

/-- A text without the white space at its ends. -/
def trim (s : String) : String :=
  String.ofList ((s.toList.dropWhile isBlank).reverse.dropWhile isBlank).reverse

/-- A text of white space only. -/
def isBlankText (s : String) : Bool := s.toList.all isBlank

end SpriteScript
