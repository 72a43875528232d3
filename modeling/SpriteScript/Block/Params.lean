/-
  Parameters of blocks.

  * `ParamValue` is a number, a text or nothing, and is read as a number (`number?`) or as a text
    (`text`) whatever it is;
  * `Params` maps keys to values, in the order of the keys;
  * `getElem?_merge`: a patch wins where it has a value, and nothing else changes.
-/
import Std.Data.TreeMap
import SpriteScript.Block.Kind
import SpriteScript.Number.Numeral
import SpriteScript.Number.Places
import SpriteScript.Text.Blank

namespace SpriteScript

/-! ## Values -/

/-- The value of a parameter. -/
inductive ParamValue where
  | number (v : Float)
  | text (s : String)
  | absent
  deriving BEq, Inhabited

namespace ParamValue

/-- The value as a finite number. A text is read without the white space at its ends. -/
def number? (v : ParamValue) : Option Float :=
  let read := match v with
    | number v => some v
    | text s => readFloat? (trim s)
    | absent => none
  read.filter Float.isFinite

/-- The value as a text. -/
def toText : ParamValue → String
  | number v => numberText v
  | text s => s
  | absent => ""

end ParamValue

/-! ## Maps of values -/

/-- The parameters of a block, by key. -/
abbrev Params := Std.TreeMap String ParamValue

namespace Params

/-- Parameters from a list of keys and values. -/
def ofPairs (entries : List (String × ParamValue)) : Params := .ofList entries

/-- Lays a patch over parameters. -/
def merge (params patch : Params) : Params := params ∪ patch

/-- A parameter as a finite number. -/
def number? (params : Params) (key : String) : Option Float :=
  params[key]?.bind ParamValue.number?

/-- A parameter as a finite number, with a value to fall back on. -/
def numberD (params : Params) (key : String) (fallback : Float) : Float :=
  (params.number? key).getD fallback

/-- A parameter as a text, with a text to fall back on when there is no value. -/
def textD (params : Params) (key fallback : String) : String :=
  match params[key]? with
  | none | some .absent => fallback
  | some v => v.toText

/-- **A patch wins where it has a value, and nothing else changes.** -/
theorem getElem?_merge (params patch : Params) (key : String) :
    (params.merge patch)[key]? = patch[key]?.or params[key]? :=
  Std.TreeMap.getElem?_union

end Params

/-- The parameters that a new block of a kind has. -/
def BlockKind.defaults : BlockKind → Params
  | .move => .ofPairs [("steps", .number 20)]
  | .turn => .ofPairs [("degrees", .number 90)]
  | .goto => .ofPairs [("x", .number 0), ("y", .number 0)]
  | .loop => .ofPairs [("times", .number 2)]
  | .say => .ofPairs [("text", .text "Hello!"), ("seconds", .number 2)]
  | .think => .ofPairs [("text", .text "Hmm..."), ("seconds", .number 2)]

end SpriteScript
