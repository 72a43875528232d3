/-
  Edits of forests.

  An edit gives the new forest, or nothing when it leaves the forest as it is. The block that an
  edit is about is the first one with a given id: the path to it is located first, and then followed
  to change what stands there.

  * `Edit.append`, `Edit.update` and `Edit.remove` are the edits of an editor;
  * `Edit.rebuild` and `Edit.keep` change no block.
-/
import SpriteScript.Block.Path

namespace SpriteScript

/-- A change of a forest; nothing when the forest stays as it is. -/
abbrev Edit := Forest → Option Forest

namespace Edit

/-- Puts a block at the end of the forest, or at the end of the loop `parent`. -/
def append (parent : Option String) (b : Block) : Edit := fun forest =>
  match parent with
  | none => some (forest ++ [b])
  | some id => do
    let path ← forest.locate? id
    let s ← forest.spot? path
    if s.block.kind.isLoop then some (s.put { s.block with children := s.block.children ++ [b] })
    else none

/-- Lays a patch over the parameters of a block. -/
def update (id : String) (patch : Params) : Edit := fun forest => do
  let path ← forest.locate? id
  (forest.spot? path).map fun s => s.put { s.block with params := s.block.params.merge patch }

/-- Takes a block out, with everything inside it. -/
def remove (id : String) : Edit := fun forest => do
  let path ← forest.locate? id
  forest.removeAt? path

/-- Puts the same blocks in the place of all blocks. -/
def rebuild : Edit := some

/-- Leaves every forest as it is. -/
def keep : Edit := fun _ => none

end Edit

end SpriteScript
