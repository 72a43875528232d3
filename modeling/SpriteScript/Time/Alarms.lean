/-
  Alarms: timers that can be set anew or called off.

  Setting an alarm gives it a new number, and a wakeup for an alarm counts only if it carries the
  number that the alarm was last set with.

  * `Alarms` holds the alarms that are set, with their numbers;
  * `Alarms.arm`, `Alarms.fire`, `Alarms.disarm` and `Alarms.clear` set one, let one go off, call
    one off and call off all;
  * `current?_arm`, `current?_disarm` and `fire_eq` say what they do to the number of each alarm.
-/

namespace SpriteScript

/-- What an alarm is for. -/
inductive AlarmKey where
  /-- The end of the flashing of the sprite at a place. -/
  | flash (sprite : Nat)
  /-- The end of the banner. -/
  | banner
  deriving DecidableEq, Repr, Inhabited

/-- The alarms that are set. -/
structure Alarms where
  /-- Each alarm that is set, with the number it was set with; no key twice. -/
  armed : List (AlarmKey × Nat) := []
  /-- The number given out last. -/
  issued : Nat := 0
  deriving DecidableEq, Repr, Inhabited

namespace Alarms

/-- The number that an alarm was last set with, if it is set. -/
def current? (a : Alarms) (key : AlarmKey) : Option Nat := a.armed.lookup key

/-- Calls an alarm off. -/
def disarm (a : Alarms) (key : AlarmKey) : Alarms :=
  { a with armed := a.armed.filter fun e => e.1 != key }

/-- Sets an alarm, anew if it is set, and gives its number. -/
def arm (a : Alarms) (key : AlarmKey) : Nat × Alarms :=
  (a.issued + 1, ⟨(key, a.issued + 1) :: (a.disarm key).armed, a.issued + 1⟩)

/-- Lets an alarm go off if it is still set with the given number. -/
def fire (a : Alarms) (key : AlarmKey) (number : Nat) : Bool × Alarms :=
  if a.current? key = some number then (true, a.disarm key) else (false, a)

/-- Calls all alarms off. -/
def clear (a : Alarms) : Alarms := { a with armed := [] }

/-- The number of alarms that are set. -/
def pending (a : Alarms) : Nat := a.armed.length

/-! ## Laws -/

theorem lookup_filter_ne (key other : AlarmKey) (es : List (AlarmKey × Nat)) :
    (es.filter fun e => e.1 != key).lookup other =
      if other = key then none else es.lookup other := by
  induction es with
  | nil => simp
  | cons e es ih =>
    obtain ⟨k, n⟩ := e
    by_cases hk : k = key
    · subst hk
      by_cases ho : other = k
      · simpa [ho] using ih
      · simpa [ho, List.lookup_cons, beq_eq_false_iff_ne.mpr ho] using ih
    · by_cases ho : other = k
      · subst ho
        simp [hk]
      · simpa [hk, List.lookup_cons, beq_eq_false_iff_ne.mpr ho] using ih

/-- **An alarm that was called off is not set; the others are as before.** -/
theorem current?_disarm (a : Alarms) (key other : AlarmKey) :
    (a.disarm key).current? other = if other = key then none else a.current? other :=
  lookup_filter_ne key other a.armed

/-- **An alarm that was set has its new number; the others are as before.** -/
theorem current?_arm (a : Alarms) (key other : AlarmKey) :
    (a.arm key).2.current? other =
      if other = key then some (a.arm key).1 else a.current? other := by
  by_cases h : other = key
  · simp [arm, current?, h]
  · simp only [arm, current?, List.lookup_cons, beq_eq_false_iff_ne.mpr h, if_neg h]
    exact (lookup_filter_ne key other a.armed).trans (if_neg h)

/-- **A wakeup counts only with the current number.** -/
theorem fire_eq (a : Alarms) (key : AlarmKey) (number : Nat) :
    (a.fire key number).1 = (a.current? key == some number) := by
  unfold fire
  split
  · next h => simp [h]
  · next h => simp [h]

end Alarms

end SpriteScript
