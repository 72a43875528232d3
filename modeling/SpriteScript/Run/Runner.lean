/-
  Runners: what lets the blocks of a sprite run one after the other.

  A runner is woken, does what can be done at once, and tells how long to wait before it is woken
  again, if at all.

  * `Runner` is the interface, `Runner.wake` one wakeup and `Runner.size` a number of blocks that
    the runner will at most take from somewhere else than a queue;
  * `ScriptRunner` works off the queue of a sprite, which it fills first;
  * `BlockRunner` carries out a single block, loops included, without a queue; `Open` is a loop
    that it is inside of.
-/
import SpriteScript.Run.Session

namespace SpriteScript

/-- Something that is woken to carry out blocks. -/
class Runner (ρ : Type) where
  /-- One wakeup: what it makes of the session, and the runner and the delay until it is woken
  again, unless it is done. -/
  wake : {σ : Type} → Observer σ → Settings → ρ → Session σ → Session σ × Option (Nat × ρ)
  /-- How many blocks the runner can still start that are in no queue yet. -/
  size : Settings → List Sprite → ρ → Nat

/-- How many blocks some runners can still start that are in no queue yet; `none` stands for a
runner that is done. -/
def Runner.sizes {ρ : Type} [Runner ρ] (cfg : Settings) (sprites : List Sprite) :
    List (Option ρ) → Nat
  | [] => 0
  | none :: rest => Runner.sizes cfg sprites rest
  | some r :: rest => Runner.size cfg sprites r + Runner.sizes cfg sprites rest

/-! ## The runner of a queue -/

/-- Works off the queue of the sprite at a place. -/
structure ScriptRunner where
  sprite : Nat
  /-- The block whose time is running; there is none before the first wakeup. -/
  busy : Option Block := none
  deriving Inhabited

namespace ScriptRunner

variable {σ : Type} (o : Observer σ) (cfg : Settings)

/-- Ends the block whose time is over, or fills the queue at the first wakeup. -/
def settleBusy (r : ScriptRunner) (s : Session σ) : Session σ :=
  match r.busy with
  | some b => s.complete o cfg r.sprite b
  | none => s.seed cfg r.sprite

/-- Starts the next block of the queue. The runner is done when there is none, or when a stop was
asked for. -/
def proceed (r : ScriptRunner) (s : Session σ) : Session σ × Option (Nat × ScriptRunner) :=
  if s.stopping then (s.finish o r.sprite, none)
  else
    match s.pop? r.sprite with
    | none => (s.finish o r.sprite, none)
    | some (b, s) => (s.start o cfg r.sprite b, some (b.delay cfg, { r with busy := some b }))

/-- One wakeup. -/
def wake (r : ScriptRunner) (s : Session σ) : Session σ × Option (Nat × ScriptRunner) :=
  r.proceed o cfg (r.settleBusy o cfg s)

/-- The plan of the sprite counts until it is put into the queue. -/
def size (cfg : Settings) (sprites : List Sprite) (r : ScriptRunner) : Nat :=
  match r.busy with
  | some _ => 0
  | none => (sprites[r.sprite]?.map (·.planSize cfg.maxRepeat)).getD 0

instance : Runner ScriptRunner := ⟨wake, size⟩

end ScriptRunner

/-! ## The runner of a block -/

/-- Something that is still to be carried out. -/
inductive Open where
  /-- A block that has not started. -/
  | once (b : Block)
  /-- A loop inside a round, of which `todo` is left, with so many rounds of the body after it. -/
  | loop (todo body : List Block) (rounds : Nat)
  deriving Inhabited

mutual

/-- How many steps it takes to carry out a block: one to start it, and one to end each round and
the whole of a loop. -/
def Block.steps (limit : Nat) : Block → Nat
  | ⟨_, kind, params, children⟩ =>
    if kind.isLoop then loopCount limit params * (Forest.steps limit children + 1) + 2 else 1

/-- How many steps it takes to carry out a forest. -/
def Forest.steps (limit : Nat) : Forest → Nat
  | [] => 0
  | b :: bs => b.steps limit + Forest.steps limit bs

end

namespace Open

/-- A loop that is about to begin its first round. -/
def ofLoop (body : List Block) (times : Nat) : Open :=
  match body, times with
  | [], _ => .loop [] [] 0
  | _, 0 => .loop [] [] 0
  | body, n + 1 => .loop body body n

/-- How many steps are left. -/
def steps (limit : Nat) : Open → Nat
  | once b => b.steps limit
  | loop todo body rounds => Forest.steps limit todo + rounds * (Forest.steps limit body + 1) + 1

theorem steps_once (limit : Nat) (b : Block) : (once b).steps limit = b.steps limit := rfl

theorem steps_loop (limit : Nat) (todo body : List Block) (rounds : Nat) :
    (loop todo body rounds).steps limit =
      Forest.steps limit todo + rounds * (Forest.steps limit body + 1) + 1 := rfl

/-- **Entering a loop takes a step.** -/
theorem steps_ofLoop_lt (limit : Nat) (b : Block) (h : b.kind.isLoop) :
    (ofLoop b.children (loopCount limit b.params)).steps limit < b.steps limit := by
  obtain ⟨id, kind, params, children⟩ := b
  simp only at h
  rw [Block.steps, if_pos h]
  simp only [ofLoop]
  split
  · simp [steps, Forest.steps]
  · simp [steps, Forest.steps]
  · next n hn =>
    simp only [hn, steps, Nat.succ_mul]
    omega

end Open

/-- Carries out a single block of the sprite at a place. -/
structure BlockRunner where
  sprite : Nat
  /-- The block whose time is running. -/
  busy : Option Block := none
  /-- What is still to be carried out, the innermost first. -/
  todo : List Open
  deriving Inhabited

namespace BlockRunner

/-- The runner of a block. -/
def ofBlock (sprite : Nat) (b : Block) : BlockRunner where
  sprite := sprite
  todo := [.once b]

/-- How many steps are left. -/
def stepsLeft (limit : Nat) : List Open → Nat
  | [] => 0
  | x :: rest => x.steps limit + stepsLeft limit rest

theorem stepsLeft_cons (limit : Nat) (x : Open) (rest : List Open) :
    stepsLeft limit (x :: rest) = x.steps limit + stepsLeft limit rest := rfl

variable {σ : Type} (o : Observer σ) (cfg : Settings)

/-- Goes on until a block takes time, nothing is left, or a stop is asked for. The end of a loop is
followed by a collision pass like the end of any block. -/
def proceed (sprite : Nat) (todo : List Open) (s : Session σ) :
    Session σ × Option (Nat × BlockRunner) :=
  if s.stopping then (s, none)
  else
    match todo with
    | [] => (s, none)
    | .once b :: rest =>
      let s := s.start o cfg sprite b
      if _h : b.kind.isLoop then
        proceed sprite (.ofLoop b.children (loopCount cfg.maxRepeat b.params) :: rest) s
      else (s, some (b.delay cfg, ⟨sprite, some b, rest⟩))
    | .loop (b :: todo) body rounds :: rest =>
      let s := s.start o cfg sprite b
      let rest := .loop todo body rounds :: rest
      if _h : b.kind.isLoop then
        proceed sprite (.ofLoop b.children (loopCount cfg.maxRepeat b.params) :: rest) s
      else (s, some (b.delay cfg, ⟨sprite, some b, rest⟩))
    | .loop [] body (n + 1) :: rest => proceed sprite (.loop body body n :: rest) s
    | .loop [] _ 0 :: rest => proceed sprite rest (s.collide o cfg)
termination_by stepsLeft cfg.maxRepeat todo
decreasing_by
  · have := Open.steps_ofLoop_lt cfg.maxRepeat b _h
    simp only [stepsLeft_cons, Open.steps_once]
    omega
  · have := Open.steps_ofLoop_lt cfg.maxRepeat b _h
    simp only [stepsLeft_cons, Open.steps_loop, Forest.steps]
    omega
  · simp only [stepsLeft_cons, Open.steps_loop, Forest.steps, Nat.succ_mul]
    omega
  · simp only [stepsLeft_cons, Open.steps_loop]
    omega

/-- One wakeup: ends the block whose time is over and goes on. -/
def wake (r : BlockRunner) (s : Session σ) : Session σ × Option (Nat × BlockRunner) :=
  let s := match r.busy with
    | some b => s.complete o cfg r.sprite b
    | none => s
  proceed o cfg r.sprite r.todo s

/-- The steps that are left. -/
def size (cfg : Settings) (_ : List Sprite) (r : BlockRunner) : Nat :=
  stepsLeft cfg.maxRepeat r.todo

instance : Runner BlockRunner := ⟨wake, size⟩

end BlockRunner

end SpriteScript
