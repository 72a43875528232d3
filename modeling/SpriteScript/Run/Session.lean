/-
  Sessions: the state that all runners of a run share.

  * `Session` holds the stage, the timeline, the alarms and the banner, the state of the observer,
    whether a stop was asked for, and what the report and the journal will tell;
  * `Session.start` and `Session.complete` begin and end a block of a sprite;
  * `Session.collide` is the collision pass after a block, with all that follows from it;
  * `Session.ring` lets an alarm go off, `Session.finish` ends the part of a sprite,
    `Session.heedStop` follows a request to stop, and `Session.settle` clears what is left when a
    run is over.

  Whatever is told to the observer is told through `Session.tell`, which enters it in the journal.
-/
import SpriteScript.Block.Action
import SpriteScript.Run.Journal
import SpriteScript.Stage.Collision
import SpriteScript.Time.Timeline

namespace SpriteScript

/-- The state that all runners of a run share; `σ` is the state of the observer. -/
structure Session (σ : Type) where
  stage : Stage
  timeline : Timeline := {}
  alarms : Alarms := {}
  /-- The text of the banner, while it is up. -/
  banner : Option String := none
  watcher : σ
  /-- Whether a stop was asked for. -/
  stopping : Bool := false
  /-- Whether the journal tells of the stop. -/
  stopNoted : Bool := false
  /-- The names of any two sprites that met, in the order in which they met. -/
  collisions : List (String × String) := []
  /-- How many blocks were started. -/
  started : Nat := 0
  /-- The places of the sprites whose scripts are over. -/
  finished : List Nat := []
  journal : Journal := []

/-- The text of the banner for two sprites that met. -/
def bannerText (a b : Sprite) : String :=
  "Collision! " ++ a.name ++ " ↔ " ++ b.name ++ " - Animations swapped!"

namespace Session

variable {σ : Type}

/-- A session that has not begun. -/
def begin (sprites : List Sprite) (watcher : σ) (stopping : Bool) : Session σ where
  stage := { sprites }
  watcher := watcher
  stopping := stopping

/-! ## Sprites and the journal -/

/-- The present instant. -/
def now (s : Session σ) : Nat := s.timeline.now

/-- The sprites as they are now. -/
def sprites (s : Session σ) : List Sprite := s.stage.sprites

/-- The place of the first sprite with an id. -/
def indexOf? (s : Session σ) (id : String) : Option Nat := s.sprites.findIdx? (·.id == id)

/-- Changes the sprite at a place. -/
def modifySprite (i : Nat) (f : Sprite → Sprite) (s : Session σ) : Session σ :=
  { s with stage.sprites := s.stage.sprites.modify i f }

/-- Enters something in the journal. -/
def record (h : Happening) (s : Session σ) : Session σ :=
  { s with journal := ⟨s.now, h⟩ :: s.journal }

/-- Enters a milestone in the journal. -/
def reach (m : Milestone) (s : Session σ) : Session σ := s.record (.reached m)

/-- What is known of a run so far. -/
def report (s : Session σ) : Report where
  elapsed := s.now
  collisions := s.collisions
  stopped := s.stopping
  blocks := s.started

section
variable (o : Observer σ) (cfg : Settings)

/-! ## Telling the observer -/

/-- Tells the observer something; a request to stop holds from then on. -/
def tell (n : Notice) (s : Session σ) : Session σ :=
  let (watcher, stop) := o.hear s.watcher n
  { s.record (.told n) with watcher, stopping := s.stopping || stop }

/-- Tells the observer something about the sprite at a place. -/
def tellOf (i : Nat) (n : Sprite → Notice) (s : Session σ) : Session σ :=
  match s.sprites[i]? with
  | some sprite => s.tell o (n sprite)
  | none => s

/-- Tells the observer that the sprite at a place has changed. -/
def update (i : Nat) (s : Session σ) : Session σ := s.tellOf o i .update

/-- Enters a milestone of the sprite at a place, given its name, in the journal. -/
def reachOf (i : Nat) (m : String → Milestone) (s : Session σ) : Session σ :=
  match s.sprites[i]? with
  | some sprite => s.reach (m sprite.name)
  | none => s

/-! ## Alarms -/

/-- Sets an alarm that goes off after a delay. -/
def arm (key : AlarmKey) (delay : Nat) (s : Session σ) : Session σ :=
  let (number, alarms) := s.alarms.arm key
  { s with alarms, timeline := s.timeline.schedule delay (.alarm key number) }

/-- Lets an alarm go off, if it is still set with that number. -/
def ring (key : AlarmKey) (number : Nat) (s : Session σ) : Session σ :=
  match s.alarms.fire key number with
  | (false, _) => s
  | (true, alarms) =>
    let s := { s with alarms }
    match key with
    | .flash i => (s.modifySprite i (·.withFlash false)).update o i
    | .banner => { s with banner := none }.tell o (.banner none)

/-- Calls all alarms off, with their wakeups. -/
def cancelAlarms (s : Session σ) : Session σ :=
  if s.alarms.pending = 0 then s
  else { s with alarms := s.alarms.clear, timeline := s.timeline.dropAlarms }

/-! ## Collisions -/

/-- Tells the observer of two sprites that met. -/
def tellEncounter (s : Session σ) (e : Encounter) : Session σ :=
  ((s.tell o (.update e.a)).tell o (.update e.b)).tell o (.collision e.a e.b)

/-- Notes it if the sprite at a place was left with blocks after its scripts were over. -/
def noteStranded (i : Nat) (sprite : Sprite) (s : Session σ) : Session σ :=
  let waiting := (s.stage.queues.get sprite.id).length
  if 0 < waiting ∧ i ∈ s.finished then s.reach (.blocksStranded i sprite.name waiting) else s

/-- What follows when two sprites met: the report, the banner and the alarms. -/
def followEncounter (s : Session σ) (e : Encounter) : Session σ :=
  let queues := s.stage.queues
  let s := s.reach (.collisionSwap e.a.name e.b.name (queues.get e.a.id).length
    (queues.get e.b.id).length)
  let text := bannerText e.a e.b
  let s := { s with collisions := s.collisions ++ [(e.a.name, e.b.name)] }.tell o (.banner text)
  let s := { s with banner := some text }
  let s := s.arm (.flash e.i) cfg.flashTime
  let s := s.arm (.flash e.j) cfg.flashTime
  let s := s.arm .banner cfg.bannerTime
  (s.noteStranded e.i e.a).noteStranded e.j e.b

/-- The collision pass over the stage. The observer is told of all encounters first. -/
def collide (s : Session σ) : Session σ :=
  let (stage, es) := s.stage.collide
  es.foldl (followEncounter o cfg) (es.foldl (tellEncounter o) { s with stage })

/-! ## Blocks -/

/-- Shows a bubble and tells the observer of it. -/
def speak (i : Nat) (kind : SpeechKind) (text : String) (ms : Nat) (s : Session σ) : Session σ :=
  (s.modifySprite i (·.withBubble (some ⟨text, kind⟩))).tellOf o i (.speech kind · text ms)

/-- Begins a block of the sprite at a place: all that it does at once. -/
def start (i : Nat) (b : Block) (s : Session σ) : Session σ :=
  let act := b.action cfg
  let s := { s with started := s.started + 1 }.modifySprite i (·.animate (some b.kind))
  let s := s.reachOf i (.blockStarted i · b)
  let s := s.modifySprite i fun sprite => { sprite with pose := act.apply sprite.pose }
  let s := s.update o i
  match act with
  | .speak kind text ms => s.speak o i kind text ms
  | _ => s

/-- Ends a block of the sprite at a place when its time is over: a bubble is taken away, and the
collision pass follows. -/
def complete (i : Nat) (b : Block) (s : Session σ) : Session σ :=
  let s := match b.kind.speech? with
    | some kind => (s.modifySprite i (·.withBubble none)).tellOf o i (.speech kind · "" 0)
    | none => s
  s.collide o cfg

/-- Fills the queue of the sprite at a place with its plan. -/
def seed (i : Nat) (s : Session σ) : Session σ :=
  match s.sprites[i]? with
  | some sprite =>
    let queues := s.stage.queues.seed cfg.maxRepeat sprite
    { s with stage.queues := queues }.reach
      (.queueSeeded i sprite.name (queues.get sprite.id).length)
  | none => s

/-- Takes the first block that waits for the sprite at a place. -/
def pop? (i : Nat) (s : Session σ) : Option (Block × Session σ) := do
  let sprite ← s.sprites[i]?
  let (b, queues) ← s.stage.queues.pop? sprite.id
  return (b, { s with stage.queues := queues })

/-- Ends the part of the sprite at a place: its scripts are over, or a stop was asked for. -/
def finish (i : Nat) (s : Session σ) : Session σ :=
  let s := { s with finished := i :: s.finished, alarms := s.alarms.disarm (.flash i) }
  let s := s.modifySprite i Sprite.calm
  (s.reachOf i (.spriteFinished i)).update o i

/-! ## The end of a run -/

/-- Follows a request to stop: the journal tells of it once, and all alarms are called off. -/
def heedStop (s : Session σ) : Session σ :=
  if s.stopping then
    let s := if s.stopNoted then s else { s with stopNoted := true }.reach (.stopRequested s.now)
    s.cancelAlarms
  else s

/-- Clears what the sprite at a place still shows, and tells the observer of it. -/
def settleSprite (s : Session σ) (i : Nat) : Session σ :=
  match s.sprites[i]? with
  | some sprite =>
    if sprite.transient = .calm then s else (s.modifySprite i Sprite.calm).update o i
  | none => s

/-- Clears what the sprites still show, then the banner. -/
def settle (s : Session σ) : Session σ :=
  let s := (List.range s.sprites.length).foldl (settleSprite o) s
  if s.banner.isSome then { s with banner := none }.tell o (.banner none) else s

end

end Session

end SpriteScript
