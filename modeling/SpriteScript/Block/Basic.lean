/-
  Blocks, the commands that scripts are made of.

  * `Block` is a command with its parameters and the blocks inside it;
  * `Forest` is a sequence of blocks;
  * `Block.walk` and `Forest.walk` list a block, or each block of a forest, with everything inside
    it, every block before the blocks inside it;
  * `Script` is a forest with a name;
  * `Forest.walk_append`: walking is block by block;
  * `Forest.induction`: what holds of a sequence of blocks follows from what holds of the blocks
    inside the first one and of those behind it.
-/
import SpriteScript.Block.Params

namespace SpriteScript

/-- A command. Blocks inside it run only if its kind is a loop. -/
structure Block where
  id : String
  kind : BlockKind
  params : Params
  children : List Block
  deriving BEq, Inhabited

/-- A sequence of blocks, each with everything inside it. -/
abbrev Forest := List Block

namespace Block

/-- A new block of a kind, with the parameters such blocks start with. -/
def fresh (id : String) (kind : BlockKind) : Block := ⟨id, kind, kind.defaults, []⟩

/-- The block with a parameter set. -/
def withParam (b : Block) (key : String) (v : ParamValue) : Block :=
  { b with params := b.params.insert key v }

/-- The block with other blocks inside it; nothing changes unless it is a loop. -/
def withChildren (b : Block) (children : List Block) : Block :=
  if b.kind.isLoop then { b with children } else b

/-- Whether the block speaks. -/
def isLooks (b : Block) : Bool := b.kind.isLooks

end Block

/-! ## Walking -/

mutual

/-- A block and everything inside it, each block before the blocks inside it. -/
def Block.walk : Block → List Block
  | ⟨id, kind, params, children⟩ => ⟨id, kind, params, children⟩ :: Forest.walk children

/-- Each block of a forest with everything inside it. -/
def Forest.walk : Forest → List Block
  | [] => []
  | b :: bs => b.walk ++ Forest.walk bs

end

theorem Block.walk_eq (b : Block) : b.walk = b :: Forest.walk b.children := by
  cases b
  rw [Block.walk]

@[simp] theorem Forest.walk_nil : Forest.walk [] = [] := by rw [Forest.walk]

@[simp] theorem Forest.walk_cons (b : Block) (bs : Forest) :
    Forest.walk (b :: bs) = b.walk ++ Forest.walk bs := by rw [Forest.walk]

/-- **Walking is block by block.** -/
theorem Forest.walk_append (bs cs : Forest) :
    Forest.walk (bs ++ cs) = Forest.walk bs ++ Forest.walk cs := by
  induction bs with
  | nil => simp
  | cons b bs ih => simp [ih]

/-- What holds of a sequence of blocks if it holds of the blocks inside the first one and of those
behind it. -/
theorem Forest.induction {motive : Forest → Prop} (nil : motive [])
    (cons : ∀ b bs, motive b.children → motive bs → motive (b :: bs)) : ∀ forest, motive forest
  | [] => nil
  | ⟨id, kind, params, children⟩ :: bs =>
    cons ⟨id, kind, params, children⟩ bs (induction nil cons children) (induction nil cons bs)

/-! ## Scripts -/

/-- A forest with a name of its own. -/
structure Script where
  id : String
  blocks : Forest
  deriving BEq, Inhabited

end SpriteScript
