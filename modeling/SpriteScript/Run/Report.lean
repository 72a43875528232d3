/-
  What is told of a run when it is over.

  * `Report` holds the time it took, the names of the sprites that met, whether it was stopped, and
    how many blocks were started;
  * `summary` is a text for the sprites and the report.
-/
import SpriteScript.Sprite.Basic

namespace SpriteScript

/-- What is told of a run when it is over. -/
structure Report where
  elapsed : Nat
  /-- The names of any two sprites that met, in the order in which they met. -/
  collisions : List (String × String)
  stopped : Bool
  /-- How many blocks were started. -/
  blocks : Nat
  deriving DecidableEq, Repr, Inhabited

/-- The line of a sprite. -/
def poseLine (s : Sprite) : String :=
  "  " ++ s.name ++ ": x=" ++ numberText s.pose.x ++ " y=" ++ numberText s.pose.y ++
    " rotation=" ++ numberText s.pose.rotation ++ "\n"

/-- The line of two sprites that met. -/
def collisionLine (names : String × String) : String :=
  "  collision: " ++ names.1 ++ " <-> " ++ names.2 ++ "\n"

/-- How long the run took, where the sprites are, and which of them met. -/
def summary (sprites : List Sprite) (r : Report) : String :=
  let head := "Finished after " ++ toString r.elapsed ++ " ms (" ++ toString r.blocks ++
    " blocks" ++ (if r.stopped then ", stopped" else "") ++ ")\n"
  let tail :=
    if r.collisions.isEmpty then "No collisions.\n"
    else String.join (r.collisions.map collisionLine)
  head ++ String.join (sprites.map poseLine) ++ tail

end SpriteScript
