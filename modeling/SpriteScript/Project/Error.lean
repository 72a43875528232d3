/-
  What can be wrong with a project.

  * `ProjectError` lists the faults, `ProjectError.message` words them;
  * `Fault` lists what can be wrong with a part of a document, in its context.
-/
import SpriteScript.Block.Kind

namespace SpriteScript

/-- What is wrong with a part of a document. -/
inductive Fault where
  /-- There is no list of sprites. -/
  | noSpriteList
  | notAnObject
  | noName
  | noCoordinate (key : String)
  | notANumber (key : String)
  | notPositive
  | scriptsNotAList
  | scriptNotAnObject
  | blocksNotAList
  | blockNotAnObject
  | blockWithoutType
  | paramsNotAnObject
  /-- A parameter has a value of the wrong kind, given as JSON text. -/
  | badParameter (value : String)
  deriving DecidableEq, Repr, Inhabited

/-- The wording of a fault. -/
def Fault.message : Fault → String
  | noSpriteList => "missing 'sprites' array"
  | notAnObject => "expected an object"
  | noName => "missing 'name'"
  | noCoordinate key => "missing numeric '" ++ key ++ "'"
  | notANumber key => "'" ++ key ++ "' must be a number"
  | notPositive => "width and height must be positive"
  | scriptsNotAList => "'scripts' must be an array"
  | scriptNotAnObject => "script must be an object"
  | blocksNotAList => "'blocks' must be an array"
  | blockNotAnObject => "block must be an object"
  | blockWithoutType => "block is missing 'type'"
  | paramsNotAnObject => "'params' must be an object"
  | badParameter value => "parameter values must be numbers, strings or null, got " ++ value

/-- What is wrong with a project. The context names the part that is at fault. -/
inductive ProjectError where
  /-- A project file cannot be read. -/
  | unreadable (path reason : String)
  /-- A text is not JSON. -/
  | notJson
  | invalid (context : String) (fault : Fault)
  | unknownBlockType (context kind : String)
  | unexpectedChildren (context : String) (kind : BlockKind)
  | duplicateBlockId (sprite id : String)
  | duplicateSpriteId (id : String)
  | invalidColor (context color : String)
  | noSprites
  | lastSprite
  | unknownSprite (id : String)
  deriving DecidableEq, Repr, Inhabited

/-- The wording of an error. -/
def ProjectError.message : ProjectError → String
  | unreadable path reason => "failed to read project file " ++ path ++ ": " ++ reason
  | notJson => "project is not valid JSON"
  | invalid context fault => context ++ ": " ++ fault.message
  | unknownBlockType context kind => context ++ ": unknown block type '" ++ kind ++ "'"
  | unexpectedChildren context kind =>
    context ++ ": '" ++ kind.name ++ "' blocks cannot have children"
  | duplicateBlockId sprite id =>
    "sprite '" ++ sprite ++ "' uses block id '" ++ id ++ "' more than once"
  | duplicateSpriteId id => "sprite id '" ++ id ++ "' is used more than once"
  | invalidColor context color => context ++ ": '" ++ color ++ "' is not a #rrggbb colour"
  | noSprites => "project must define at least one sprite"
  | lastSprite => "you must keep at least one sprite"
  | unknownSprite id => "unknown sprite '" ++ id ++ "'"

end SpriteScript
