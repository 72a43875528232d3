/-
  The kinds of blocks.

  * `BlockKind` lists the six kinds, `BlockKind.name` and `BlockKind.ofName?` their names;
  * `SpeechKind` is how a sprite speaks, and `BlockKind.speech?` picks the kinds that do;
  * `ofName?_eq_some_iff`: names are read exactly as they are written.
-/

namespace SpriteScript

/-- What a block does. -/
inductive BlockKind where
  | move
  | turn
  | goto
  /-- Runs the blocks inside it several times. -/
  | loop
  | say
  | think
  deriving DecidableEq, Repr, Inhabited

/-- How a sprite speaks: aloud or in thought. -/
inductive SpeechKind where
  | say
  | think
  deriving DecidableEq, Repr, Inhabited

/-- The name of a way to speak. -/
def SpeechKind.name : SpeechKind → String
  | say => "say"
  | think => "think"

namespace BlockKind

/-- All kinds. -/
def all : List BlockKind := [move, turn, goto, loop, say, think]

/-- The name of a kind. -/
def name : BlockKind → String
  | move => "move"
  | turn => "turn"
  | goto => "goto"
  | loop => "repeat"
  | say => "say"
  | think => "think"

/-- The kind with a name. -/
def ofName? (s : String) : Option BlockKind := all.find? (·.name == s)

/-- The way of speaking of a kind that speaks. -/
def speech? : BlockKind → Option SpeechKind
  | say => some .say
  | think => some .think
  | _ => none

/-- Kinds that speak concern the looks of a sprite; all others its motion. -/
def isLooks (k : BlockKind) : Bool := k.speech?.isSome

/-- Only loops hold other blocks. -/
def isLoop (k : BlockKind) : Bool := k == loop

/-- **Names are read exactly as they are written.** -/
theorem ofName?_eq_some_iff (s : String) (k : BlockKind) : ofName? s = some k ↔ s = k.name := by
  constructor
  · intro h
    have := List.find?_some h
    exact (beq_iff_eq.mp this).symm
  · rintro rfl
    cases k <;> rfl

end BlockKind

end SpriteScript
