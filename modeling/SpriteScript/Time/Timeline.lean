/-
  The timeline of a run.

  Whoever wants to go on later leaves a wakeup on the timeline. Wakeups are taken in the order of
  their instants, those of one instant in the order in which they were left, and time moves on to
  each wakeup that is taken.

  A wakeup does not keep the number under which it was scheduled. Its place in the queue tells as
  much: a new wakeup comes in behind all that are not later, so of two that are due at one instant
  the one with the lower number stands in front. The numbers of all wakeups, those taken or dropped
  before included, come back in `Proofs/Register` as the order of the tickets of a register.

  * `Task` is what a wakeup is for, `Wakeup` a task with its instant;
  * `Timeline` holds the wakeups that are outstanding, in the order in which they will be taken;
  * `Timeline.schedule` leaves a wakeup, `Timeline.next?` takes one, and `Timeline.dropAlarms`
    removes all that are for alarms;
  * `perm_insertWakeup` and `sorted_insertWakeup`: a new wakeup comes in after all that are not
    later, and nothing else changes.
-/
import SpriteScript.Time.Alarms
import SpriteScript.Time.Instant

namespace SpriteScript

/-- What a wakeup is for. -/
inductive Task where
  /-- Lets the runner at a place go on. -/
  | runner (index : Nat)
  /-- Lets an alarm go off that was set with a number. -/
  | alarm (key : AlarmKey) (number : Nat)
  deriving DecidableEq, Repr, Inhabited

/-- Whether a task is for a runner. -/
def Task.isRunner : Task → Bool
  | runner _ => true
  | alarm .. => false

/-- A task and the instant it is due. -/
structure Wakeup where
  due : Nat
  task : Task
  deriving DecidableEq, Repr, Inhabited

/-- Puts a wakeup behind all that are not later. -/
def insertWakeup (w : Wakeup) : List Wakeup → List Wakeup
  | [] => [w]
  | v :: vs => if v.due ≤ w.due then v :: insertWakeup w vs else w :: v :: vs

/-- The wakeups outstanding at an instant. -/
structure Timeline where
  now : Nat := 0
  /-- Outstanding wakeups, in the order in which they will be taken. -/
  queue : List Wakeup := []
  /-- How long was waited each time that time moved, the latest wait first. -/
  waits : List Nat := []
  deriving DecidableEq, Repr, Inhabited

namespace Timeline

/-- Leaves a wakeup that is due after a delay. -/
def schedule (t : Timeline) (delay : Nat) (task : Task) : Timeline :=
  { t with queue := insertWakeup ⟨after t.now delay, task⟩ t.queue }

/-- Takes the next wakeup and moves time on to it. -/
def next? (t : Timeline) : Option (Task × Timeline) :=
  match t.queue with
  | [] => none
  | w :: rest =>
    if t.now < w.due then
      some (w.task, { now := w.due, queue := rest, waits := (w.due - t.now) :: t.waits })
    else some (w.task, { t with queue := rest })

/-- Removes all wakeups that are for alarms. -/
def dropAlarms (t : Timeline) : Timeline :=
  { t with queue := t.queue.filter (·.task.isRunner) }

/-- The number of outstanding wakeups. -/
def pending (t : Timeline) : Nat := t.queue.length

end Timeline

/-! ## Laws -/

/-- **Nothing is lost when a wakeup comes in.** -/
theorem perm_insertWakeup (w : Wakeup) (vs : List Wakeup) :
    (insertWakeup w vs).Perm (w :: vs) := by
  induction vs with
  | nil => exact .refl _
  | cons v vs ih =>
    rw [insertWakeup]
    split
    · exact (ih.cons v).trans (.swap w v vs)
    · exact .refl _

/-- **Wakeups stay in the order of their instants.** -/
theorem sorted_insertWakeup (w : Wakeup) (vs : List Wakeup)
    (h : vs.Pairwise fun u v => u.due ≤ v.due) :
    (insertWakeup w vs).Pairwise fun u v => u.due ≤ v.due := by
  induction vs with
  | nil => simp [insertWakeup]
  | cons v vs ih =>
    rw [insertWakeup]
    obtain ⟨hv, hvs⟩ := List.pairwise_cons.mp h
    split
    · next hle =>
      refine List.pairwise_cons.mpr ⟨fun u hu => ?_, ih hvs⟩
      rcases List.mem_cons.mp ((perm_insertWakeup w vs).mem_iff.mp hu) with rfl | hu
      · exact hle
      · exact hv u hu
    · next hgt =>
      refine List.pairwise_cons.mpr ⟨fun u hu => ?_, h⟩
      rcases List.mem_cons.mp hu with rfl | hu
      · omega
      · have := hv u hu
        omega

end SpriteScript
