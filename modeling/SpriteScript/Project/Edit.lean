/-
  Editing projects.

  * `Project.editFirstScript` applies an edit to the first script of a sprite, `appendBlock`,
    `updateBlock` and `removeBlock` are the edits of an editor;
  * `Project.addSprite` adds a sprite with a colour and a name of its own, `Project.removeSprite`
    takes one out;
  * `freshName` is the first of a series of names that is not used yet.

  An edit that fails leaves the project and the source of ids as they are.
-/
import SpriteScript.Block.Edit
import SpriteScript.Project.Basic
import SpriteScript.Project.Error

namespace SpriteScript

/-- The colours of new sprites. -/
def palette : List String :=
  ["#ff6b6b", "#4ecdc4", "#45b7d1", "#f9ca24", "#6c5ce7", "#fd79a8", "#fdcb6e", "#55efc4"]

/-- The names of new sprites. -/
def spriteNames : List String :=
  ["Star", "Flash", "Spark", "Blaze", "Glow", "Shine", "Beam", "Ray", "Luna", "Sol"]

/-- The colour of a sprite that has none of its own. -/
def fallbackColor : String := "#888888"

/-! ## Fresh names -/

/-- The names in the series of a base: the base itself, then with 1, 2 and so on behind it. -/
def seriesName (base : String) : Nat → String
  | 0 => base
  | n + 1 => base ++ toString (n + 1)

/-- The first name in the series of a base that is not used. Of one name more than are used, one
is not used. -/
def freshName (base : String) (used : List String) : String :=
  let names := (List.range (used.length + 1)).map (seriesName base)
  (names.find? fun name => !used.contains name).getD base

namespace Project

section
variable {ι : Type} [IdSource ι]

/-! ## Scripts -/

/-- Applies an edit to the first script of a sprite; a sprite without scripts gets one first, with
an id that is drawn for it. -/
def editSprite (e : Edit) (sprite : Sprite) (ids : ι) : Bool × Sprite × ι :=
  match sprite.scripts with
  | [] =>
    let (id, ids) := IdSource.next ids
    (true, { sprite with scripts := [⟨id, (e []).getD []⟩] }, ids)
  | script :: rest =>
    match e script.blocks with
    | none => (false, sprite, ids)
    | some blocks => (true, { sprite with scripts := { script with blocks } :: rest }, ids)

/-- Applies an edit to the first script of the first sprite with an id; tells whether the project
has changed. -/
def editFirstScript (p : Project) (id : String) (e : Edit) (ids : ι) :
    Except ProjectError (Bool × Project × ι) :=
  match p.sprites.findIdx? (·.id == id) with
  | none => .error (.unknownSprite id)
  | some i =>
    match p.sprites[i]? with
    | none => .error (.unknownSprite id)
    | some sprite =>
      let (changed, sprite, ids) := editSprite e sprite ids
      .ok (changed, ⟨p.sprites.set i sprite⟩, ids)

/-- Puts a block into the first script of a sprite. -/
def appendBlock (p : Project) (sprite : String) (parent : Option String) (b : Block) (ids : ι) :
    Except ProjectError (Bool × Project × ι) :=
  p.editFirstScript sprite (.append parent b) ids

/-- Changes parameters of a block in the first script of a sprite. -/
def updateBlock (p : Project) (sprite block : String) (patch : Params) (ids : ι) :
    Except ProjectError (Bool × Project × ι) :=
  p.editFirstScript sprite (.update block patch) ids

/-- Takes a block out of the first script of a sprite. -/
def removeBlock (p : Project) (sprite block : String) (ids : ι) :
    Except ProjectError (Bool × Project × ι) :=
  p.editFirstScript sprite (.remove block) ids

/-! ## Sprites -/

variable {ρ : Type} [RandomSource ρ]

/-- The first colour of the palette that is not used, or a random one. -/
def pickColor (p : Project) (random : ρ) : String × ρ :=
  match palette.find? fun color => !(p.sprites.map (·.color)).contains color with
  | some color => (color, random)
  | none => choose palette fallbackColor random

/-- Adds a sprite at a random place; gives its id. -/
def addSprite (p : Project) (ids : ι) (random : ρ) : String × Project × ι × ρ :=
  let (color, random) := p.pickColor random
  let (base, random) := choose spriteNames "Sprite" random
  let name := freshName base (p.sprites.map (·.name))
  let (dx, random) := fraction 200 random
  let (dy, random) := fraction 150 random
  let (sprite, ids) := newSprite name color (50 + dx) (50 + dy) ids
  (sprite.id, ⟨p.sprites ++ [sprite]⟩, ids, random)

end

/-- Takes the first sprite with an id out of a project; one sprite has to stay. -/
def removeSprite (p : Project) (id : String) : Except ProjectError (Sprite × Project) :=
  match p.sprites.findIdx? (·.id == id) with
  | none => .error (.unknownSprite id)
  | some i =>
    match p.sprites[i]? with
    | none => .error (.unknownSprite id)
    | some sprite =>
      if p.sprites.length ≤ 1 then .error .lastSprite
      else .ok (sprite, ⟨p.sprites.eraseIdx i⟩)

end Project

end SpriteScript
