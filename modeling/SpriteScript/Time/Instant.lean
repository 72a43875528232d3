/-
  Instants of simulated time, in milliseconds.

  Time is counted in 64 bits and ends at `lastInstant`: whatever would come later happens then.

  * `after now delay` is the instant `delay` after `now`, and `durationOf` a number of seconds as a
    duration;
  * `after_after`: delays add up, also when they reach the end of time.
-/
import SpriteScript.Number.Binary

namespace SpriteScript

/-- The last instant of time. -/
def lastInstant : Nat := 18446744073709551615

/-- The instant a delay after another one. -/
def after (now delay : Nat) : Nat := min (now + delay) lastInstant

/-- **Delays add up.** -/
theorem after_after (now d e : Nat) : after (after now d) e = after now (d + e) := by
  unfold after
  omega

theorem after_le_last (now delay : Nat) : after now delay ≤ lastInstant := Nat.min_le_right _ _

/-- Seconds as a duration in whole milliseconds, a half going up; a duration is not negative and
not longer than time. -/
def durationOf (seconds : Float) : Nat :=
  let ms := seconds * 1000
  match Binary.ofFloat? ms with
  | some b => if b.negative then 0 else min b.round lastInstant
  | none => if 0 < ms then lastInstant else 0

end SpriteScript
