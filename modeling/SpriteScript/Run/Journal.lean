/-
  The journal of a run: everything that happened, with the instant at which it happened.

  * `Milestone` is a step of the run, with its weight, its name and its details;
  * `Happening` is a milestone or a notice that an observer was told;
  * `Entry` is a happening with its instant, and a journal lists entries, the latest first.
-/
import SpriteScript.Run.Notice
import SpriteScript.Run.Report
import SpriteScript.Run.Settings

namespace SpriteScript

/-- A step of a run. Sprites are given by their places and names. -/
inductive Milestone where
  | runStarted (sprites : Nat) (clock : ClockMode)
  | queueSeeded (sprite : Nat) (name : String) (blocks : Nat)
  | blockStarted (sprite : Nat) (name : String) (block : Block)
  /-- Two sprites swapped motion; their queues have so many blocks after the pass. -/
  | collisionSwap (a b : String) (queueA queueB : Nat)
  /-- A sprite that is done was left with blocks. -/
  | blocksStranded (sprite : Nat) (name : String) (blocks : Nat)
  | spriteFinished (sprite : Nat) (name : String)
  | stopRequested (now : Nat)
  | runFinished (report : Report)
  deriving Inhabited

/-- How much a milestone matters. -/
inductive Weight where
  | info
  | debug
  deriving DecidableEq, Repr, Inhabited

namespace Milestone

/-- How much a milestone matters. -/
def weight : Milestone → Weight
  | runStarted .. | collisionSwap .. | stopRequested _ | runFinished _ => .info
  | queueSeeded .. | blockStarted .. | blocksStranded .. | spriteFinished .. => .debug

/-- The name of a milestone. -/
def name : Milestone → String
  | runStarted .. => "run_started"
  | queueSeeded .. => "queue_seeded"
  | blockStarted .. => "block_started"
  | collisionSwap .. => "collision_swap"
  | blocksStranded .. => "blocks_stranded"
  | spriteFinished .. => "sprite_finished"
  | stopRequested _ => "stop_requested"
  | runFinished _ => "run_finished"

/-- The details of a milestone, with their names. -/
def details : Milestone → List (String × String)
  | runStarted sprites clock => [("sprites", toString sprites), ("clock", clock.name)]
  | queueSeeded _ name blocks => [("sprite", name), ("blocks", toString blocks)]
  | blockStarted _ name block => [("sprite", name), ("block", block.kind.name)]
  | collisionSwap a b queueA queueB =>
    [("a", a), ("b", b), ("queue_a", toString queueA), ("queue_b", toString queueB)]
  | blocksStranded _ name blocks => [("sprite", name), ("blocks", toString blocks)]
  | spriteFinished _ name => [("sprite", name)]
  | stopRequested now => [("at_ms", toString now)]
  | runFinished r =>
    [("elapsed_ms", toString r.elapsed), ("collisions", toString r.collisions.length),
      ("blocks", toString r.blocks), ("stopped", if r.stopped then "true" else "false")]

end Milestone

/-- Something that happened. -/
inductive Happening where
  | reached (m : Milestone)
  | told (n : Notice)
  deriving Inhabited

/-- Something that happened, and when. -/
structure Entry where
  time : Nat
  happening : Happening
  deriving Inhabited

/-- Everything that happened, the latest first. -/
abbrev Journal := List Entry

namespace Journal

/-- The milestones of a journal, the earliest first. -/
def milestones (j : Journal) : List Milestone :=
  j.reverse.filterMap fun e => match e.happening with
    | .reached m => some m
    | .told _ => none

/-- The notices of a journal, the earliest first. -/
def notices (j : Journal) : List Notice :=
  j.reverse.filterMap fun e => match e.happening with
    | .told n => some n
    | .reached _ => none

/-- The instants that an observer was told, the earliest first. -/
def ticks (j : Journal) : List Nat :=
  j.notices.filterMap fun n => match n with
    | .clock now => some now
    | _ => none

end Journal

end SpriteScript
