/-
  Settings of a run: how long things take, how often loops run, and whether a run waits for real.
-/
import SpriteScript.Block.Plan

namespace SpriteScript

/-- Whether the delays of a run are waited for or only counted. -/
inductive ClockMode where
  | simulated
  | realtime
  deriving DecidableEq, Repr, Inhabited

/-- The name of a mode. -/
def ClockMode.name : ClockMode → String
  | simulated => "virtual"
  | realtime => "realtime"

/-- Settings of a run; durations are in milliseconds. -/
structure Settings where
  moveDelay : Nat := 250
  turnDelay : Nat := 150
  gotoDelay : Nat := 250
  /-- The greatest number of rounds of a loop. -/
  maxRepeat : Nat := defaultMaxRepeat
  /-- How long sprites flash after a collision. -/
  flashTime : Nat := 300
  /-- How long the banner of a collision stays up. -/
  bannerTime : Nat := 3000
  clock : ClockMode := .simulated
  deriving DecidableEq, Repr, Inhabited

end SpriteScript
