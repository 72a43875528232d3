/-
  Players: whoever plays the scripts of sprites on behalf of their owner.

  * `Player` is the settings together with a request to stop that may come before a run;
  * `Player.runAll` runs the scripts of sprites on copies of them, writes the poses back, and
    withdraws the request to stop.
-/
import SpriteScript.Run.Drive

namespace SpriteScript

/-- The settings of runs, and whether the next one is asked to stop. -/
structure Player where
  settings : Settings := {}
  stopRequested : Bool := false
  deriving DecidableEq, Repr, Inhabited

/-- What a run leaves behind. -/
structure Outcome (σ : Type) where
  sprites : List Sprite
  report : Report
  watcher : σ
  journal : Journal
  /-- How long was waited each time that time moved, the first wait first. -/
  waits : List Nat

/-- The copy of a sprite that a run works on. -/
def Sprite.working (s : Sprite) : Sprite := (s.withBubble none).withFlash false

/-- A sprite after a run: its pose is that of the copy, and it has nothing transient to show. -/
def Sprite.takePose (s finished : Sprite) : Sprite := { s.calm with pose := finished.pose }

namespace Player

/-- Asks the next run to stop. -/
def stop (p : Player) : Player := { p with stopRequested := true }

/-- Runs the scripts of all sprites; the player that comes back is not asked to stop. -/
def runAll {σ : Type} (p : Player) (o : Observer σ) (sprites : List Sprite) (watcher : σ) :
    Player × Outcome σ :=
  let session := Session.begin (sprites.map Sprite.working) watcher p.stopRequested
  let (report, session) := session.runAll o p.settings
  ({ p with stopRequested := false },
    { sprites := List.zipWith Sprite.takePose sprites session.sprites
      report := report
      watcher := session.watcher
      journal := session.journal
      waits := session.timeline.waits.reverse })

end Player

end SpriteScript
