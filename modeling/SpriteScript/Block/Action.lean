/-
  What the blocks do.

  * `Action` is a block with its parameters read, `Action.ofBlock` reads them, putting a default in
    the place of each one that cannot be read;
  * `Action.apply` is the effect of an action on a pose;
  * `Block.delay` is how long a block takes.
-/
import SpriteScript.Run.Settings
import SpriteScript.Sprite.Basic
import SpriteScript.Time.Instant

namespace SpriteScript

/-- What a block does. -/
inductive Action where
  /-- Goes forward. -/
  | move (steps : Float)
  | turn (degrees : Float)
  /-- Goes to a place; a coordinate that is missing stays as it is. -/
  | goto (x y : Option Float)
  /-- Runs the blocks inside it. -/
  | loop (times : Nat)
  /-- Shows a bubble for some milliseconds. -/
  | speak (kind : SpeechKind) (text : String) (ms : Nat)
  deriving DecidableEq, Inhabited

namespace Action

/-- The action of a block that speaks. -/
def ofSpeech (kind : SpeechKind) (params : Params) : Action :=
  .speak kind (params.textD "text" "") (durationOf (params.numberD "seconds" 1))

/-- The action of a block; `limit` is the greatest number of rounds of a loop. -/
def ofBlock (limit : Nat) (b : Block) : Action :=
  match b.kind with
  | .move => .move (b.params.numberD "steps" 20)
  | .turn => .turn (b.params.numberD "degrees" 90)
  | .goto => .goto (b.params.number? "x") (b.params.number? "y")
  | .loop => .loop (loopCount limit b.params)
  | .say => ofSpeech .say b.params
  | .think => ofSpeech .think b.params

/-- One degree as an angle in radians. -/
def degree : Float := 3.141592653589793 / 180

/-- The pose after an action. Going forward follows the direction the sprite faces, and a
direction is kept below a full turn. -/
def apply : Action → Pose → Pose
  | .move steps, p =>
    let angle := p.rotation * degree
    { p with x := p.x + angle.cos * steps, y := p.y + angle.sin * steps }
  | .turn degrees, p => { p with rotation := remainder (p.rotation + degrees) 360 }
  | .goto x y, p => { p with x := x.getD p.x, y := y.getD p.y }
  | .loop _, p | .speak .., p => p

/-- How long an action takes; the blocks inside a loop take time of their own. -/
def delay (cfg : Settings) : Action → Nat
  | .move _ => cfg.moveDelay
  | .turn _ => cfg.turnDelay
  | .goto .. => cfg.gotoDelay
  | .loop _ => 0
  | .speak _ _ ms => ms

end Action

/-- What a block does under some settings. -/
def Block.action (cfg : Settings) (b : Block) : Action := .ofBlock cfg.maxRepeat b

/-- How long a block takes. -/
def Block.delay (cfg : Settings) (b : Block) : Nat := (b.action cfg).delay cfg

end SpriteScript
