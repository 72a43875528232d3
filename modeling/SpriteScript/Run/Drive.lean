/-
  Driving runners along the timeline.

  * `Drive` is a session with the runners that work in it, `Drive.step` carries out one task;
  * `Drive.after` is the drive after a number of tasks, and `Drive.last` the one in which nothing is
    left to do, reached within `Drive.budget` tasks;
  * `Session.runAll`, `Session.runSprite?` and `Session.runBlock?` run the scripts of all sprites,
    those of one sprite, and a single block.

  A task either wakes a runner, which finds one block the fewer unless it is done, or lets an alarm
  go off. Alarms are only set when two sprites meet, three at a time.
-/
import SpriteScript.Run.Runner

namespace SpriteScript

/-- A session and the runners that work in it; `none` stands for a runner that is done. -/
structure Drive (σ ρ : Type) where
  session : Session σ
  runners : List (Option ρ)
  /-- The instant that the observer was told of last. -/
  tick : Nat

namespace Drive

variable {σ ρ : Type} [Runner ρ] (o : Observer σ) (cfg : Settings)

/-- Runners that are about to work in a session, each with a wakeup that is due at once. -/
def begin (s : Session σ) (runners : List ρ) : Drive σ ρ where
  session := (List.range runners.length).foldl
    (fun s i => { s with timeline := s.timeline.schedule 0 (.runner i) }) s
  runners := runners.map some
  tick := s.now

/-- Whether all runners are done. -/
def isOver (d : Drive σ ρ) : Bool := d.runners.all Option.isNone

/-- Tells the observer the time, if it has changed since it was told. -/
def tellTime (d : Drive σ ρ) : Drive σ ρ :=
  let now := d.session.now
  if now = d.tick then d else { d with session := d.session.tell o (.clock now), tick := now }

/-- Wakes the runner at a place. -/
def wake (i : Nat) (d : Drive σ ρ) : Drive σ ρ :=
  match d.runners[i]?.join with
  | none => d
  | some r =>
    match Runner.wake o cfg r d.session with
    | (session, none) => { d with session, runners := d.runners.set i none }
    | (session, some (delay, r)) =>
      { d with
        session := { session with timeline := session.timeline.schedule delay (.runner i) }
        runners := d.runners.set i (some r) }

/-- Carries out a task. -/
def perform (task : Task) (d : Drive σ ρ) : Drive σ ρ :=
  match task with
  | .runner i => d.wake o cfg i
  | .alarm key number => { d with session := d.session.ring o key number }

/-- Carries out the next task; nothing when all runners are done, or no task is left. -/
def step (d : Drive σ ρ) : Option (Drive σ ρ) :=
  if d.isOver then none
  else
    match d.session.timeline.next? with
    | none => none
    | some (task, timeline) =>
      let d := { d with session := { d.session with timeline } }
      let d := (d.tellTime o).perform o cfg task
      some { d with session := d.session.heedStop }

/-- The drive after a number of tasks, or after all of them if they are fewer. -/
def after : Nat → Drive σ ρ → Drive σ ρ
  | 0, d => d
  | n + 1, d =>
    match d.step o cfg with
    | none => d
    | some d => after n d

/-- As many tasks as there can be: the wakeups that are there, one for each block that waits in a
queue or in a runner, and three for any two sprites. -/
def budget (d : Drive σ ρ) : Nat :=
  let s := d.session
  s.timeline.pending + s.stage.queues.total +
    Runner.sizes cfg s.sprites d.runners +
    3 * (placePairs s.sprites.length).length

/-- The drive in which nothing is left to do. -/
def last (d : Drive σ ρ) : Drive σ ρ := d.after o cfg (d.budget cfg)

end Drive

namespace Session

variable {σ ρ : Type} [Runner ρ] (o : Observer σ) (cfg : Settings)

/-- Lets runners work until all are done, then calls off the alarms that are left. -/
def drive (runners : List ρ) (s : Session σ) : Session σ :=
  ((Drive.begin s runners).last o cfg).session.cancelAlarms

/-- The runners of all sprites. -/
def scriptRunners (s : Session σ) : List ScriptRunner :=
  (List.range s.sprites.length).map fun i => { sprite := i }

/-- Runs the scripts of all sprites side by side, and clears what they still show when all are
over. -/
def runAll (s : Session σ) : Report × Session σ :=
  let s := s.reach (.runStarted s.sprites.length cfg.clock)
  let s := (s.drive o cfg s.scriptRunners).settle o
  (s.report, s.reach (.runFinished s.report))

/-- Runs the scripts of the first sprite with an id. -/
def runSprite? (id : String) (s : Session σ) : Option (Report × Session σ) := do
  let i ← s.indexOf? id
  let s := s.drive o cfg [({ sprite := i } : ScriptRunner)]
  return (s.report, s)

/-- Runs a block for the first sprite with an id. -/
def runBlock? (id : String) (b : Block) (s : Session σ) : Option (Report × Session σ) := do
  let i ← s.indexOf? id
  let s := s.drive o cfg [BlockRunner.ofBlock i b]
  return (s.report, s)

end Session

end SpriteScript
