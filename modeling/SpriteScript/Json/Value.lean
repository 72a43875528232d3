/-
  JSON values.

  * `Json` is a value; an object is the list of its fields, in the order of their keys and without
    repeated keys when it is built by `Json.ofFields` or `Json.insertField`;
  * `Json.field?`, `Json.string?`, `Json.items?`, `Json.fields?` and `Json.float?` look inside.

  A number is a whole number of 64 bits or a float, as it was written.
-/
import SpriteScript.Number.Numeral

namespace SpriteScript

/-- A JSON value. -/
inductive Json where
  | null
  | bool (b : Bool)
  /-- A whole number between `-2 ^ 63` and `2 ^ 64 - 1`. -/
  | int (n : Int)
  /-- Any other finite number. -/
  | float (v : Float)
  | string (s : String)
  | array (items : List Json)
  | object (fields : List (String × Json))
  deriving Inhabited

namespace Json

/-! ## Building -/

/-- Sets a field, keeping the order of the keys. -/
def insertField (key : String) (v : Json) : List (String × Json) → List (String × Json)
  | [] => [(key, v)]
  | (k, w) :: rest =>
    if key < k then (key, v) :: (k, w) :: rest
    else if key = k then (key, v) :: rest
    else (k, w) :: insertField key v rest

/-- The object with the given fields; of fields with one key the last counts. -/
def ofFields (fields : List (String × Json)) : Json :=
  .object (fields.foldl (fun fs (k, v) => insertField k v fs) [])

/-- A text, or null. -/
def ofString? : Option String → Json
  | some s => .string s
  | none => .null

/-! ## Looking inside -/

/-- The value of a field of an object. -/
def field? (key : String) : Json → Option Json
  | .object fields => fields.lookup key
  | _ => none

/-- The text of a string. -/
def string? : Json → Option String
  | .string s => some s
  | _ => none

/-- The items of an array. -/
def items? : Json → Option (List Json)
  | .array items => some items
  | _ => none

/-- The fields of an object. -/
def fields? : Json → Option (List (String × Json))
  | .object fields => some fields
  | _ => none

/-- The float nearest to a number. -/
def float? : Json → Option Float
  | .int n => some (Float.ofInt n)
  | .float v => some v
  | _ => none

/-! ## Laws of fields -/

/-- A field that was set is found. -/
theorem lookup_insertField_self (key : String) (v : Json) (fs : List (String × Json)) :
    (insertField key v fs).lookup key = some v := by
  induction fs with
  | nil => simp [insertField]
  | cons f fs ih =>
    obtain ⟨k, w⟩ := f
    rw [insertField]
    split
    · exact List.lookup_cons_self
    · next h =>
      split
      · exact List.lookup_cons_self
      · next e => rw [List.lookup_cons, beq_eq_false_iff_ne.mpr e, ih]

end Json

end SpriteScript
