/-
  Sprites.

  * `Pose` is where a sprite stands and where it faces;
  * `Transient` is what a sprite shows only while scripts run: the kind of its current block, its
    bubble, and whether it flashes;
  * `Sprite` has both beside its name, colour, size and scripts, and `Sprite.blockIds` lists the
    ids of all its blocks.
-/
import SpriteScript.Block.Basic

namespace SpriteScript

/-- Where a sprite stands, and the direction it faces in degrees. -/
structure Pose where
  x : Float
  y : Float
  rotation : Float
  deriving DecidableEq, BEq, Inhabited

/-- What a sprite is heard to utter. -/
structure Bubble where
  text : String
  kind : SpeechKind
  deriving DecidableEq, Repr, Inhabited

/-- What a sprite shows only while scripts run. -/
structure Transient where
  /-- The kind of the block the sprite is shown to carry out. -/
  animation : Option BlockKind
  bubble : Option Bubble
  flash : Bool
  deriving DecidableEq, Repr, Inhabited

/-- Nothing to show. -/
def Transient.calm : Transient := ⟨none, none, false⟩

/-- The width and height of a sprite, if nothing else is set. -/
def defaultSize : Float := 72

/-- A sprite; its upper left corner is at its pose. -/
structure Sprite where
  id : String
  name : String
  color : String
  pose : Pose
  width : Float
  height : Float
  scripts : List Script
  transient : Transient
  deriving BEq, Inhabited

namespace Sprite

/-- A sprite of the default size that faces right and has one empty script. -/
def blank (id name color : String) (x y : Float) (script : String) : Sprite where
  id := id
  name := name
  color := color
  pose := ⟨x, y, 0⟩
  width := defaultSize
  height := defaultSize
  scripts := [⟨script, []⟩]
  transient := .calm

/-- The sprite with nothing transient to show. -/
def calm (s : Sprite) : Sprite := { s with transient := .calm }

/-- Whether the sprite is shown to speak. -/
def isSpeaking (s : Sprite) : Bool := s.transient.animation.any BlockKind.isLooks

/-- The sprite shown to carry out a block of a kind, or none. -/
def animate (s : Sprite) (kind : Option BlockKind) : Sprite :=
  { s with transient.animation := kind }

/-- The sprite with a bubble, or without. -/
def withBubble (s : Sprite) (bubble : Option Bubble) : Sprite :=
  { s with transient.bubble := bubble }

/-- The sprite flashing, or not. -/
def withFlash (s : Sprite) (flash : Bool) : Sprite := { s with transient.flash := flash }

/-- All blocks of the sprite, each before the blocks inside it. -/
def blocks (s : Sprite) : List Block := s.scripts.flatMap fun script => script.blocks.walk

/-- The ids of all blocks of the sprite. -/
def blockIds (s : Sprite) : List String := s.blocks.map (·.id)

end Sprite

end SpriteScript
