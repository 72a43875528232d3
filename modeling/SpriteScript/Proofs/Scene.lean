/-
  Scenes: what is left of a session when its alarms and all that passes are set aside.

  A scene keeps the poses of the sprites but nothing transient, the queues, the pairs that met, the
  wakeups of runners, and of the journal what it tells of blocks and of collisions. No alarm and no
  observer changes it, which is why most of what holds of runs is shown of their scenes.

  * `Beat` is what a wakeup of a runner comes to, and `Journal.beats` lists the beats of a journal;
  * `Journal.encounters` and `Journal.bannerTexts` are what an observer is told of collisions;
  * `pairsOf` lists every two entries of a list, in order;
  * `Scene` is the scene of a session (`Session.scene`), and `Scene.collide`, `Scene.seed`,
    `Scene.pop?`, `Scene.start` and `Scene.finish` are what happens in it.
-/
import SpriteScript.Run.Drive

namespace SpriteScript

/-! ## What a journal tells -/

/-- What a wakeup of a runner comes to: the sprite at a place starts a block, or, if there is no
block, its part is over. -/
structure Beat where
  time : Nat
  place : Nat
  block : Option Block
  deriving Inhabited

/-- The beat of an entry. -/
def Entry.beat? (e : Entry) : Option Beat :=
  match e.happening with
  | .reached (.blockStarted i _ b) => some ⟨e.time, i, some b⟩
  | .reached (.spriteFinished i _) => some ⟨e.time, i, none⟩
  | _ => none

/-- The two sprites that a notice says have met. -/
def Notice.encounter? : Notice → Option (Sprite × Sprite)
  | collision a b => some (a, b)
  | _ => none

/-- The text of the banner that a notice says is up. -/
def Notice.bannerText? : Notice → Option String
  | banner text => text
  | _ => none

/-- The blocks started by the sprite at a place, with their instants. -/
def startsOf (i : Nat) (beats : List Beat) : List (Nat × Block) :=
  beats.filterMap fun e => if e.place = i then e.block.map (e.time, ·) else none

/-- The instants at which the part of the sprite at a place was over. -/
def endsOf (i : Nat) (beats : List Beat) : List Nat :=
  beats.filterMap fun e => if e.place = i ∧ e.block.isNone then some e.time else none

/-- All blocks that were started, each with the place of its sprite. -/
def allStarts (beats : List Beat) : List (Nat × Block) :=
  beats.filterMap fun e => e.block.map (e.place, ·)

namespace Journal

/-- The beats of a journal, the earliest first. -/
def beats (j : Journal) : List Beat := j.reverse.filterMap Entry.beat?

/-- The sprites that met, as the observer was told of them, the earliest first. -/
def encounters (j : Journal) : List (Sprite × Sprite) := j.notices.filterMap Notice.encounter?

/-- The texts of the banners that the observer was told are up, the earliest first. -/
def bannerTexts (j : Journal) : List String := j.notices.filterMap Notice.bannerText?

theorem beats_cons (e : Entry) (j : Journal) : beats (e :: j) = beats j ++ e.beat?.toList := by
  simp only [beats, List.reverse_cons, List.filterMap_append, List.filterMap_cons,
    List.filterMap_nil]
  cases e.beat? <;> rfl

@[simp] theorem notices_told (t : Nat) (n : Notice) (j : Journal) :
    notices (⟨t, .told n⟩ :: j) = notices j ++ [n] := by simp [notices]

@[simp] theorem notices_reached (t : Nat) (m : Milestone) (j : Journal) :
    notices (⟨t, .reached m⟩ :: j) = notices j := by simp [notices]

end Journal

/-! ## Pairs of entries -/

/-- Every two entries of a list: each with all that come after it. -/
def pairsOf {α : Type} : List α → List (α × α)
  | [] => []
  | a :: l => l.map (a, ·) ++ pairsOf l

/-- The pair of the ids of two sprites. -/
def Pair.ofSprites (p : Sprite × Sprite) : Pair := .of p.1.id p.2.id

/-- Whether the boxes of two sprites overlap. -/
def Touching (p : Sprite × Sprite) : Prop := (Box.ofSprite p.1).overlaps (Box.ofSprite p.2) = true

instance (p : Sprite × Sprite) : Decidable (Touching p) := inferInstanceAs (Decidable (_ = true))

/-! ## Scenes -/

/-- A session without alarms and without anything transient. -/
structure Scene where
  now : Nat := 0
  /-- The sprites, with nothing transient to show. -/
  bodies : List Sprite
  queues : RunQueues := {}
  met : MetPairs := {}
  /-- The bodies of any two sprites that met, with the poses they had then. -/
  encounters : List (Sprite × Sprite) := []
  collisions : List (String × String) := []
  banners : List String := []
  started : Nat := 0
  beats : List Beat := []
  /-- The wakeups of runners. -/
  wakeups : List Wakeup := []

/-- The scene of a session. -/
def Session.scene {σ : Type} (s : Session σ) : Scene where
  now := s.now
  bodies := s.sprites.map Sprite.calm
  queues := s.stage.queues
  met := s.stage.met
  encounters := s.journal.encounters.map fun p => (p.1.calm, p.2.calm)
  collisions := s.collisions
  banners := s.journal.bannerTexts
  started := s.started
  beats := s.journal.beats
  wakeups := s.timeline.queue.filter (·.task.isRunner)

namespace Scene

/-- Two sprites meet: they exchange the motion that waits for them. -/
def meet (p : Sprite × Sprite) (c : Scene) : Scene :=
  { c with
    queues := c.queues.swapMotion p.1.id p.2.id
    met := c.met.insert (.ofSprites p)
    encounters := c.encounters ++ [p]
    collisions := c.collisions ++ [(p.1.name, p.2.name)]
    banners := c.banners ++ [bannerText p.1 p.2] }

/-- Two sprites are looked at, and meet if they overlap for the first time. -/
def compare (c : Scene) (p : Sprite × Sprite) : Scene :=
  if c.met.contains (.ofSprites p) = false ∧ Touching p then c.meet p else c

/-- A collision pass. -/
def collide (c : Scene) : Scene := (pairsOf c.bodies).foldl compare c

/-- Fills the queue of the sprite at a place with its plan. -/
def seed (cfg : Settings) (i : Nat) (c : Scene) : Scene :=
  match c.bodies[i]? with
  | some body => { c with queues := c.queues.seed cfg.maxRepeat body }
  | none => c

/-- Takes the first block that waits for the sprite at a place. -/
def pop? (i : Nat) (c : Scene) : Option (Block × Scene) := do
  let body ← c.bodies[i]?
  let (b, queues) ← c.queues.pop? body.id
  return (b, { c with queues })

/-- Begins a block of the sprite at a place. -/
def start (cfg : Settings) (i : Nat) (b : Block) (c : Scene) : Scene :=
  { c with
    started := c.started + 1
    beats := c.beats ++ [⟨c.now, i, some b⟩]
    bodies := c.bodies.modify i fun s => { s with pose := (b.action cfg).apply s.pose } }

/-- Ends the part of the sprite at a place. -/
def finish (i : Nat) (c : Scene) : Scene := { c with beats := c.beats ++ [⟨c.now, i, none⟩] }

/-- Leaves a wakeup for the runner at a place. -/
def schedule (delay i : Nat) (c : Scene) : Scene :=
  { c with wakeups := insertWakeup ⟨after c.now delay, .runner i⟩ c.wakeups }

end Scene

end SpriteScript
