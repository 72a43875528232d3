/-
  Reading projects from JSON.

  A project is an object with a list `sprites`; a sprite has a `name`, a place and scripts; a script
  has a list `blocks`; a block has a `type`, parameters, and blocks inside it if it is a loop.
  Sprites, scripts and blocks without a usable `id` are given one, in the order of the document, an
  element before its parts.

  * `Project.ofJson` reads a value, `Project.ofText` a text;
  * `Reading` is a step of reading, which may fail and may draw ids.

  The first fault in the order of the checks is reported, and nothing is read after it.
-/
import SpriteScript.Json.Reader
import SpriteScript.Json.Writer
import SpriteScript.Project.Edit

namespace SpriteScript

/-- A step of reading: it draws ids from a source and may fail. -/
abbrev Reading (ι α : Type) := StateT ι (Except ProjectError) α

namespace Reading

variable {ι : Type}

/-- Fails with a fault in a context. -/
def fault {α : Type} (context : String) (f : Fault) : Reading ι α := throw (.invalid context f)

/-- A value that has to be there. -/
def require {α : Type} (v : Option α) (context : String) (f : Fault) : Reading ι α :=
  match v with
  | some v => pure v
  | none => fault context f

/-! ## Fields -/

/-- A text that is not blank. -/
def usableText? (v : Option Json) : Option String :=
  (v.bind Json.string?).filter fun s => !isBlankText s

/-- A number that may be missing or null. -/
def optionalNumber (fields : List (String × Json)) (key context : String) :
    Reading ι (Option Float) :=
  match fields.lookup key with
  | none | some .null => pure none
  | some v => do
    let number ← require (v.float?.filter Float.isFinite) context (.notANumber key)
    return some number

/-- A number that has to be there. -/
def requiredNumber (fields : List (String × Json)) (key context : String) : Reading ι Float := do
  let number ← optionalNumber fields key context
  require number context (.noCoordinate key)

/-- The value of a parameter. -/
def readParam (context : String) : Json → Reading ι ParamValue
  | .int n => pure (.number (Float.ofInt n))
  | .float v => pure (.number v)
  | .string s => pure (.text s)
  | .null => pure .absent
  | v => fault context (.badParameter v.compact)

/-- Parameters, put over others. -/
def readParamFields (context : String) (params : Params) (fields : List (String × Json)) :
    Reading ι Params :=
  fields.foldlM (fun params (key, v) => do return params.insert key (← readParam context v)) params

/-- The parameters of a block of a kind. -/
def readParams (context : String) (kind : BlockKind) (fields : List (String × Json)) :
    Reading ι Params :=
  match fields.lookup "params" with
  | none => pure kind.defaults
  | some v => do
    let entries ← require v.fields? context .paramsNotAnObject
    readParamFields context kind.defaults entries

/-- The kind of a block. -/
def readKind (context : String) (fields : List (String × Json)) : Reading ι BlockKind := do
  let name ← require ((fields.lookup "type").bind Json.string?) context .blockWithoutType
  match BlockKind.ofName? name with
  | some kind => return kind
  | none => throw (.unknownBlockType context name)

variable [IdSource ι]

/-- An id that is drawn from the source. -/
def drawId : Reading ι String := modifyGet IdSource.next

/-- The id of an element, drawn if it has no usable one. -/
def readId (fields : List (String × Json)) : Reading ι String :=
  match usableText? (fields.lookup "id") with
  | some id => pure id
  | none => drawId

/-! ## Blocks -/

mutual

/-- A block. -/
def readBlock (context : String) : Json → Reading ι Block
  | .object fields => do
    let kind ← readKind context fields
    let id ← readId fields
    let params ← readParams context kind fields
    let children ← readChildren context kind fields
    return ⟨id, kind, params, children⟩
  | _ => fault context .blockNotAnObject

/-- The blocks inside a block of a kind, found among its fields. -/
def readChildren (context : String) (kind : BlockKind) :
    List (String × Json) → Reading ι (List Block)
  | [] => pure []
  | (key, v) :: rest =>
    if key = "children" then do
      let children ← readBlocks context v
      if kind.isLoop || children.isEmpty then return children
      else throw (.unexpectedChildren context kind)
    else readChildren context kind rest

/-- A list of blocks. -/
def readBlocks (context : String) : Json → Reading ι (List Block)
  | .array items => readBlockItems context items
  | _ => fault context .blocksNotAList

/-- The blocks of a list, one after the other. -/
def readBlockItems (context : String) : List Json → Reading ι (List Block)
  | [] => pure []
  | v :: vs => do
    let b ← readBlock context v
    let bs ← readBlockItems context vs
    return b :: bs

end

/-! ## Scripts and sprites -/

/-- A script. -/
def readScript (context : String) (v : Json) : Reading ι Script := do
  let fields ← require v.fields? context .scriptNotAnObject
  let id ← readId fields
  let blocks ← match fields.lookup "blocks" with
    | some v => readBlocks context v
    | none => pure []
  return ⟨id, blocks⟩

/-- The scripts of a sprite. -/
def readScripts (context : String) (fields : List (String × Json)) : Reading ι (List Script) :=
  match fields.lookup "scripts" with
  | none => pure []
  | some v => do
    let items ← require v.items? context .scriptsNotAList
    items.mapM (readScript context)

/-- The first text that stands in a list twice, where it stands again; `seen` stood before. -/
def firstRepeated? (seen : List String) : List String → Option String
  | [] => none
  | s :: ss => if seen.contains s then some s else firstRepeated? (s :: seen) ss

/-- The colour of a sprite. -/
def readColor (context : String) (fields : List (String × Json)) : Reading ι String := do
  let color := ((fields.lookup "color").bind Json.string?).getD fallbackColor
  if isColor color then return color else throw (.invalidColor context color)

/-- The sprite at a place of the list. -/
def readSprite (v : Json) (index : Nat) : Reading ι Sprite := do
  let place := "sprite #" ++ toString index
  let fields ← require v.fields? place .notAnObject
  let name ← require (usableText? (fields.lookup "name")) place .noName
  let context := "sprite '" ++ name ++ "'"
  let id ← readId fields
  let color ← readColor context fields
  let x ← requiredNumber fields "x" context
  let y ← requiredNumber fields "y" context
  let rotation ← optionalNumber fields "rotation" context
  let width ← optionalNumber fields "width" context
  let height ← optionalNumber fields "height" context
  let width := width.getD defaultSize
  let height := height.getD defaultSize
  if width ≤ 0 || height ≤ 0 then fault context .notPositive
  else
    let scripts ← readScripts context fields
    let sprite : Sprite :=
      ⟨id, name, color, ⟨x, y, rotation.getD 0⟩, width, height, scripts, .calm⟩
    match firstRepeated? [] sprite.blockIds with
    | some id => throw (.duplicateBlockId name id)
    | none => return sprite

/-- The sprites of a list from a place on; `seen` holds the ids of those before. -/
def readSprites (seen : List String) (index : Nat) : List Json → Reading ι (List Sprite)
  | [] => pure []
  | v :: vs => do
    let sprite ← readSprite v index
    if seen.contains sprite.id then throw (.duplicateSpriteId sprite.id)
    else
      let sprites ← readSprites (sprite.id :: seen) (index + 1) vs
      return sprite :: sprites

/-- A project. -/
def readProject (root : Json) : Reading ι Project := do
  let items ← require ((root.field? "sprites").bind Json.items?) "project" .noSpriteList
  if items.isEmpty then throw .noSprites
  else return ⟨← readSprites [] 0 items⟩

end Reading

namespace Project

variable {ι : Type} [IdSource ι]

/-- Reads a project from a value; gives the source of ids as it is afterwards. -/
def ofJson (root : Json) (ids : ι) : Except ProjectError (Project × ι) :=
  (Reading.readProject root).run ids

/-- Reads a project from JSON text. -/
def ofText (text : String) (ids : ι) : Except ProjectError (Project × ι) :=
  match Json.read? Json.documentDepth text with
  | some root => ofJson root ids
  | none => .error .notJson

end Project

end SpriteScript
