/-
  Projects: sprites with their scripts.

  * `Project.sprite?` finds a sprite, `Project.starter` and `Project.demo` are projects to begin
    with, and `Project.run` runs the scripts of a project;
  * `isColor` says which texts are colours.
-/
import SpriteScript.Project.Ids
import SpriteScript.Run.Player

namespace SpriteScript

/-- Sprites with their scripts. -/
structure Project where
  sprites : List Sprite
  deriving Inhabited

/-- A hexadecimal digit in either case. -/
def isHexDigit (c : Char) : Bool :=
  c.isDigit || ('a' ≤ c && c ≤ 'f') || ('A' ≤ c && c ≤ 'F')

/-- A colour is a number sign and six hexadecimal digits. -/
def isColor (s : String) : Bool :=
  match s.toList with
  | '#' :: digits => digits.length == 6 && digits.all isHexDigit
  | _ => false

namespace Project

/-- The first sprite with an id. -/
def sprite? (p : Project) (id : String) : Option Sprite := p.sprites.find? (·.id == id)

/-! ## New sprites and blocks -/

section
variable {ι : Type} [IdSource ι]

/-- A sprite with an empty script; its id is drawn first, then that of the script. -/
def newSprite (name color : String) (x y : Float) (ids : ι) : Sprite × ι :=
  let (id, ids) := IdSource.next ids
  let (script, ids) := IdSource.next ids
  (.blank id name color x y script, ids)

/-- A block of a kind with an id of its own. -/
def newBlock (kind : BlockKind) (ids : ι) : Block × ι :=
  let (id, ids) := IdSource.next ids
  (.fresh id kind, ids)

/-! ## Projects to begin with -/

/-- A block yet without an id. -/
inductive Sketch where
  | block (kind : BlockKind) (params : List (String × ParamValue)) (children : List Sketch)

mutual

/-- Gives a sketched block and those inside it ids, its own first. -/
def Sketch.build : Sketch → ι → Block × ι
  | .block kind params children, ids =>
    let (b, ids) := newBlock kind ids
    let (children, ids) := buildAll children ids
    ((params.foldl (fun b (key, v) => b.withParam key v) b).withChildren children, ids)

/-- Gives sketched blocks ids, one after the other. -/
def buildAll : List Sketch → ι → List Block × ι
  | [], ids => ([], ids)
  | s :: ss, ids =>
    let (b, ids) := s.build ids
    let (bs, ids) := buildAll ss ids
    (b :: bs, ids)

end

/-- Comet, Bolt and Nova, each with one empty script. -/
def starter (ids : ι) : Project × ι :=
  let (comet, ids) := newSprite "Comet" "#ffbf69" 60 60 ids
  let (bolt, ids) := newSprite "Bolt" "#40c9ff" 180 160 ids
  let (nova, ids) := newSprite "Nova" "#a29bfe" 320 80 ids
  (⟨[comet, bolt, nova]⟩, ids)

/-- The scripts of the demonstration: they steer Comet and Bolt into each other. -/
def demoScripts : List (List Sketch) :=
  [[.block .turn [("degrees", .number 45)] [],
    .block .loop [("times", .number 4)] [.block .move [("steps", .number 40)] []],
    .block .say [("text", .text "Made it!"), ("seconds", .number 1)] []],
   [.block .think [("seconds", .number 0.5)] [],
    .block .turn [("degrees", .number 180)] [],
    .block .move [("steps", .number 30)] [],
    .block .move [("steps", .number 30)] []],
   [.block .loop [("times", .number 3)] [.block .turn [("degrees", .number 120)] []],
    .block .goto [("x", .number 300), ("y", .number 200)] []]]

/-- Puts scripts into the first scripts of sprites, drawing the ids of all blocks in order. -/
def fillScripts : List Sprite → List (List Sketch) → ι → List Sprite × ι
  | sprite :: sprites, sketches :: more, ids =>
    let (blocks, ids) := buildAll sketches ids
    let scripts := sprite.scripts.modify 0 fun script => { script with blocks }
    let (sprites, ids) := fillScripts sprites more ids
    ({ sprite with scripts } :: sprites, ids)
  | sprites, _, ids => (sprites, ids)

/-- The starter project with short scripts. -/
def demo (ids : ι) : Project × ι :=
  let (p, ids) := starter ids
  let (sprites, ids) := fillScripts p.sprites demoScripts ids
  (⟨sprites⟩, ids)

end

/-! ## Running -/

/-- Runs the scripts of the project; its sprites take the poses in which the run left them. -/
def run {σ : Type} (p : Project) (player : Player) (o : Observer σ) (watcher : σ) :
    Project × Player × Outcome σ :=
  let (player, outcome) := player.runAll o p.sprites watcher
  (⟨outcome.sprites⟩, player, outcome)

end Project

end SpriteScript
