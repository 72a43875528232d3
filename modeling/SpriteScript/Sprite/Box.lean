/-
  The boxes that sprites cover.

  The vertical axis points down, so the top of a box has the smaller coordinate.

  * `Box.ofSprite` is the box of a sprite, `Box.overlaps` whether two boxes meet;
  * `overlaps_comm`: it does not matter which box comes first.
-/
import SpriteScript.Sprite.Basic

namespace SpriteScript

/-- A box with sides along the axes. -/
structure Box where
  left : Float
  top : Float
  right : Float
  bottom : Float
  deriving BEq, Inhabited

namespace Box

/-- The box that a sprite covers. -/
def ofSprite (s : Sprite) : Box where
  left := s.pose.x
  top := s.pose.y
  right := s.pose.x + s.width
  bottom := s.pose.y + s.height

/-- Two boxes overlap unless one of them is past the other; touching edges overlap, and so does a
box with a side that is not a number. -/
def overlaps (a b : Box) : Bool :=
  !(a.right < b.left || b.right < a.left || a.bottom < b.top || b.bottom < a.top)

/-- **Overlap is mutual.** -/
theorem overlaps_comm (a b : Box) : a.overlaps b = b.overlaps a := by
  simp only [overlaps]
  cases decide (a.right < b.left) <;> cases decide (b.right < a.left) <;>
    cases decide (a.bottom < b.top) <;> cases decide (b.bottom < a.top) <;> rfl

end Box

end SpriteScript
