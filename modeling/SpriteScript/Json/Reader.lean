/-
  Reading JSON text.

  The reader is a stack machine over tokens: the stack holds the arrays and objects that are open,
  and `Expect` what may come next.

  * `Reader.step` takes one token;
  * `Json.read?` reads a whole text, in which at most `depth` arrays and objects are open at once.
-/
import SpriteScript.Json.Token

namespace SpriteScript

namespace Json

namespace Reader

/-- An array or object whose next part is being read. -/
inductive Frame where
  /-- An array, with the items before the one being read, the latest first. -/
  | array (items : List Json)
  /-- An object, with the fields before the one being read, and the key of that one. -/
  | object (fields : List (String × Json)) (key : String)

/-- What may come next. -/
inductive Expect where
  /-- A value. -/
  | value
  /-- The first item of an array that was just opened, or its end. -/
  | firstItem
  /-- The first key of an object that was just opened, or its end. -/
  | firstKey
  /-- Another key of an object. -/
  | key (fields : List (String × Json))
  /-- The colon after a key. -/
  | colon (fields : List (String × Json)) (key : String)
  /-- Whatever follows the value that was just completed. -/
  | after (v : Json)

/-- What to expect, and the open arrays and objects, the innermost first. -/
abbrev State := Expect × List Frame

/-- Takes the first token of a value. -/
def beginValue (depth : Nat) (frames : List Frame) : Token → Option State
  | .scalar v => some (.after v, frames)
  | .openArray => if frames.length < depth then some (.firstItem, .array [] :: frames) else none
  | .openObject => if frames.length < depth then some (.firstKey, frames) else none
  | _ => none

/-- Takes the token after a value. -/
def afterValue (v : Json) : Token → List Frame → Option State
  | .comma, .array items :: frames => some (.value, .array (v :: items) :: frames)
  | .comma, .object fields key :: frames => some (.key (insertField key v fields), frames)
  | .closeArray, .array items :: frames => some (.after (.array (v :: items).reverse), frames)
  | .closeObject, .object fields key :: frames =>
    some (.after (.object (insertField key v fields)), frames)
  | _, _ => none

/-- Takes one token. -/
def step (depth : Nat) : State → Token → Option State
  | (.value, frames), t => beginValue depth frames t
  | (.firstItem, .array _ :: frames), .closeArray => some (.after (.array []), frames)
  | (.firstItem, frames), t => beginValue depth frames t
  | (.firstKey, frames), .scalar (.string key) => some (.colon [] key, frames)
  | (.firstKey, frames), .closeObject => some (.after (.object []), frames)
  | (.firstKey, _), _ => none
  | (.key fields, frames), .scalar (.string key) => some (.colon fields key, frames)
  | (.key _, _), _ => none
  | (.colon fields key, frames), .colon => some (.value, .object fields key :: frames)
  | (.colon _ _, _), _ => none
  | (.after v, frames), t => afterValue v t frames

/-- The value that was read, when nothing is left open. -/
def result? : State → Option Json
  | (.after v, []) => some v
  | _ => none

end Reader

/-- The number of arrays and objects that may be open at once in a document. -/
def documentDepth : Nat := 127

/-- The value of a text with at most `depth` arrays and objects open at once. -/
def read? (depth : Nat) (text : String) : Option Json := do
  let tokens ← Token.ofChars? text.toList
  let state ← tokens.foldlM (Reader.step depth) (.value, [])
  Reader.result? state

end Json

end SpriteScript
