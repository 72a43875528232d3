/-
  Run queues: the blocks of each sprite that have not started yet.

  * `RunQueues` maps sprite ids to queues; an id without a queue is one without blocks, but
    `RunQueues.get?` tells the two apart;
  * `splitLooks` splits a queue into motion and looks, and `RunQueues.swapMotion` lets two sprites
    exchange their motion, each putting its own looks behind;
  * `get?_set` and `get?_swapMotion_of_ne`: only the queues named are touched.
-/
import SpriteScript.Block.Plan
import SpriteScript.Sprite.Basic

namespace SpriteScript

/-- The queue of each sprite, by the id of the sprite. -/
structure RunQueues where
  byId : Std.TreeMap String (List Block) := {}
  deriving Inhabited

/-- A queue split into the blocks that move and the blocks that speak, each in order. -/
def splitLooks (queue : List Block) : List Block × List Block :=
  queue.partition fun b => !b.isLooks

/-- The plan of a sprite: the plans of its scripts, one after the other. -/
def Sprite.plan (limit : Nat) (s : Sprite) : List Block :=
  s.scripts.flatMap fun script => Forest.plan limit script.blocks

/-- The number of blocks in the plan of a sprite. -/
def Sprite.planSize (limit : Nat) (s : Sprite) : Nat :=
  Forest.planSize limit (s.scripts.flatMap (·.blocks))

/-- The plan of a sprite is the plan of all its blocks in a row. -/
theorem Sprite.plan_eq (limit : Nat) (s : Sprite) :
    s.plan limit = Forest.plan limit (s.scripts.flatMap (·.blocks)) := by
  unfold Sprite.plan
  induction s.scripts with
  | nil => simp
  | cons script scripts ih => simp [Forest.plan_append, ih]

theorem Sprite.length_plan (limit : Nat) (s : Sprite) :
    (s.plan limit).length = s.planSize limit := by
  rw [Sprite.plan_eq, Forest.length_plan, Sprite.planSize]

namespace RunQueues

/-! ## Access -/

/-- The queue of a sprite, if it has one. -/
def get? (q : RunQueues) (id : String) : Option (List Block) := q.byId[id]?

/-- The queue of a sprite. -/
def get (q : RunQueues) (id : String) : List Block := (q.get? id).getD []

/-- Whether a sprite has a queue. -/
def has (q : RunQueues) (id : String) : Bool := (q.get? id).isSome

/-- Gives a sprite a queue. -/
def set (q : RunQueues) (id : String) (queue : List Block) : RunQueues :=
  ⟨q.byId.insert id queue⟩

/-- Takes the queue of a sprite away. -/
def take (q : RunQueues) (id : String) : List Block × RunQueues := (q.get id, ⟨q.byId.erase id⟩)

/-- Takes the first block of the queue of a sprite. -/
def pop? (q : RunQueues) (id : String) : Option (Block × RunQueues) :=
  match q.get? id with
  | some (b :: rest) => some (b, q.set id rest)
  | _ => none

/-- Gives a sprite its whole plan as its queue. -/
def seed (q : RunQueues) (limit : Nat) (s : Sprite) : RunQueues := q.set s.id (s.plan limit)

/-- The number of blocks that wait in any queue. -/
def total (q : RunQueues) : Nat := q.byId.foldl (fun n _ queue => n + queue.length) 0

/-! ## Exchange -/

/-- Each of two sprites gets the motion of the other one, followed by its own looks. -/
def swapMotion (q : RunQueues) (a b : String) : RunQueues :=
  let (queueA, q) := q.take a
  let (queueB, q) := q.take b
  let (motionA, looksA) := splitLooks queueA
  let (motionB, looksB) := splitLooks queueB
  (q.set a (motionB ++ looksA)).set b (motionA ++ looksB)

/-! ## Laws -/

theorem get?_set (q : RunQueues) (a b : String) (queue : List Block) :
    (q.set a queue).get? b = if a = b then some queue else q.get? b := by
  simp only [get?, set, Std.TreeMap.getElem?_insert, Std.compare_eq_iff_eq]

theorem get?_take (q : RunQueues) (a b : String) :
    (q.take a).2.get? b = if a = b then none else q.get? b := by
  simp only [get?, take, Std.TreeMap.getElem?_erase, Std.compare_eq_iff_eq]

/-- **An exchange leaves all other queues alone.** -/
theorem get?_swapMotion_of_ne (q : RunQueues) (a b c : String) (ha : a ≠ c) (hb : b ≠ c) :
    (q.swapMotion a b).get? c = q.get? c := by
  simp only [swapMotion, get?_set, get?_take, if_neg ha, if_neg hb]

end RunQueues

end SpriteScript
