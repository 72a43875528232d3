/-
  How many wakeups a run takes.

  A runner is woken once for each block that it starts, and once more to be done; each collision
  sets three alarms. As blocks are only started out of plans, and no two sprites meet twice, that
  makes an end to every run.

  * `Drive.active` is the number of runners that are not done;
  * `Does.counted`: a task of a runner ends the runner or starts a block;
  * `runnerTasks_after` and `alarmTasks_le`: **the tasks of a run, counted**;
  * `sizes_opening` and `length_placePairs`: how many blocks and how many collisions there can be;
  * `runAll_wakeups`: **every run ends, and no runner is lost or woken twice**.
-/
import Mathlib.Data.Nat.Choose.Basic
import SpriteScript.Proofs.Quiet
import SpriteScript.Proofs.Tasks

namespace SpriteScript

/-! ## How many collisions and blocks there can be -/

/-- **So many pairs of places there are.** -/
theorem length_placePairs (n : Nat) : (placePairs n).length = n * (n - 1) / 2 := by
  induction n with
  | zero => rfl
  | succ n ih =>
    rw [placePairs_succ, List.length_append, List.length_map, List.length_map, List.length_range,
      ih, Nat.triangle_succ, Nat.add_comm]

theorem sizes_map_some (cfg : Settings) (sprites : List Sprite) (rs : List ScriptRunner) :
    Runner.sizes cfg sprites (rs.map some) = (rs.map (ScriptRunner.size cfg sprites)).sum := by
  induction rs with
  | nil => rfl
  | cons r rs ih =>
    rw [List.map_cons, List.map_cons, List.sum_cons, Runner.sizes, ih]
    rfl

/-- As a run begins, the blocks that wait for runners are those of all plans. -/
theorem Plot.sizes_opening (cfg : Settings) (sprites : List Sprite) :
    Runner.sizes cfg sprites (Plot.opening sprites).runners =
      (sprites.map fun s => (s.plan cfg.maxRepeat).length).sum := by
  have hrunners : (Plot.opening sprites).runners =
      ((List.range sprites.length).map fun i => ({ sprite := i } : ScriptRunner)).map some := by
    rw [List.map_map]
    rfl
  rw [hrunners, sizes_map_some, List.map_map]
  refine congrArg List.sum (List.ext_getElem? ?_)
  intro i
  by_cases hi : i < sprites.length
  · simp [hi, ScriptRunner.size, Sprite.length_plan]
  · simp [hi]

/-! ## Runners that are not done -/

namespace Drive

variable {σ : Type} {o : Observer σ} {cfg : Settings} {sprites : List Sprite}
  {d t d' : Drive σ ScriptRunner}

/-- How many runners of a drive are not done. -/
def active (d : Drive σ ScriptRunner) : Nat := d.runners.countP Option.isSome

theorem active_eq_zero (h : d.isOver = true) : d.active = 0 := by
  refine List.countP_eq_zero.mpr ?_
  intro x hx
  rw [Option.isNone_iff_eq_none.mp (List.all_eq_true.mp h x hx)]
  simp

/-- The runner at a place is done, or goes on. -/
theorem active_set {i : Nat} {r : ScriptRunner} (h : d.plot.runner? i = some r)
    (x : Option ScriptRunner) (s : Session σ) (tick : Nat) :
    (Drive.mk s (d.runners.set i x) tick).active + 1 = d.active + if x.isSome then 1 else 0 := by
  have hjoin : d.runners[i]?.join = some r := h
  obtain ⟨y, hy, rfl⟩ : ∃ y, d.runners[i]? = some y ∧ y = some r := by
    cases hy : d.runners[i]? with
    | none => simp [hy] at hjoin
    | some y => exact ⟨y, rfl, by simpa [hy] using hjoin⟩
  obtain ⟨hlt, hget⟩ := List.getElem?_eq_some_iff.mp hy
  have hpos : 0 < d.runners.countP Option.isSome :=
    List.countP_pos_iff.mpr ⟨some r, List.mem_of_getElem? hy, rfl⟩
  simp only [active, List.countP_set hlt, hget, Option.isSome_some, if_true]
  omega

theorem Ticks.task? {due : Nat} {task : Task} {timeline : Timeline}
    (h : Ticks o due task timeline d t) : d.task? = some task := by
  rw [Drive.task?, h.ongoing, h.next]
  rfl

/-- **The task of a runner ends the runner or starts a block**, and that of an alarm does neither. -/
theorem Does.counted (h : Does o cfg d d') (hcourse : d.plot.OnCourse cfg sprites) :
    ∃ task, d.task? = some task ∧
      (if task.isRunner then 1 else 0) + d'.active + d.plot.scene.started =
        d.active + d'.plot.scene.started := by
  cases h with
  | @alarm due number key timeline t hticks =>
    refine ⟨_, hticks.task?, ?_⟩
    have hactive : t.active = d.active := congrArg (List.countP Option.isSome) hticks.runners
    rw [hticks.plot_alarm]
    exact congrArg (· + d.plot.scene.started) ((Nat.zero_add _).trans hactive)
  | @finish t i r s hwoken hpop =>
    obtain ⟨timeline, hticks⟩ := hwoken.ticks
    obtain ⟨rest, hturn⟩ := hwoken.turn
    have hactive := active_set hwoken.runner none (s.finish o i).heedStop t.tick
    have hstarted : (s.scene.finish i).started = d.plot.scene.started := hturn.frame.2.2.2.2
    refine ⟨_, hticks.task?, ?_⟩
    rw [hwoken.plot_finish hcourse, hstarted]
    simp only [Task.isRunner, Option.isSome_none, Bool.false_eq_true, if_true, if_false] at hactive ⊢
    omega
  | @start t i r b s s' hwoken hstop hpop =>
    obtain ⟨timeline, hticks⟩ := hwoken.ticks
    obtain ⟨rest, hturn⟩ := hwoken.turn
    obtain ⟨hpop', -⟩ := hwoken.scene_start hcourse hpop
    have hactive := active_set hwoken.runner (some ⟨i, some b⟩) ({ s'.start o cfg i b with
      timeline := (s'.start o cfg i b).timeline.schedule (b.delay cfg) (.runner i) } :
        Session σ).heedStop t.tick
    have hstarted : ((s'.scene.start cfg i b).schedule (b.delay cfg) i).started =
        d.plot.scene.started + 1 := by
      rw [(s.scene.start_frame cfg hpop').2.2.2.1, hturn.frame.2.2.2.2]
    refine ⟨_, hticks.task?, ?_⟩
    rw [hwoken.plot_start hcourse hpop, hstarted]
    simp only [Task.isRunner, Option.isSome_some, if_true] at hactive ⊢
    omega

variable (o cfg sprites) (watcher : σ) (stopping : Bool)

theorem active_opening : (Drive.opening cfg sprites watcher stopping).active = sprites.length := by
  have hrunners : (Drive.opening cfg sprites watcher stopping).runners =
      (Plot.opening sprites).runners :=
    congrArg Plot.runners (plot_opening cfg sprites watcher stopping)
  have hall : ∀ x ∈ (Plot.opening sprites).runners, x.isSome = true := by
    simp [Plot.opening]
  rw [active, hrunners, List.countP_eq_length.mpr hall]
  simp [Plot.opening]

/-- **Each runner is woken once for each block that it starts, and once to be done.** -/
theorem runnerTasks_after (n : Nat) :
    let d := (Drive.opening cfg sprites watcher stopping).after o cfg n
    ((Drive.opening cfg sprites watcher stopping).tasks o cfg n).countP Task.isRunner + d.active =
      sprites.length + d.plot.scene.started := by
  induction n with
  | zero =>
    simp only [after, active_opening, plot_opening]
    simp [Plot.opening, tasks]
  | succ n ih =>
    have hruns := runs_after o cfg sprites watcher stopping n
    rw [after_succ, tasks_succ]
    cases hstep : ((Drive.opening cfg sprites watcher stopping).after o cfg n).step o cfg with
    | none => simpa [task?_of_step_eq_none o cfg hstep] using ih
    | some d' =>
      obtain ⟨task, htask, hcount⟩ := (hruns.does hstep).counted hruns.reachable.onCourse
      simp only [htask, Option.toList_some, List.countP_append, List.countP_singleton,
        Option.getD_some] at ih ⊢
      omega

theorem active_last : ((Drive.opening cfg sprites watcher stopping).after o cfg
    ((Drive.opening cfg sprites watcher stopping).budget cfg)).active = 0 :=
  active_eq_zero (isOver_last o cfg sprites watcher stopping)

theorem runnerTasks_eq :
    ((Drive.opening cfg sprites watcher stopping).tasks o cfg
        ((Drive.opening cfg sprites watcher stopping).budget cfg)).countP Task.isRunner =
      sprites.length + (Plot.atEnd o cfg sprites watcher stopping).scene.started := by
  have hrunners := runnerTasks_after o cfg sprites watcher stopping
    ((Drive.opening cfg sprites watcher stopping).budget cfg)
  simp only [Plot.atEnd, last, active_last] at hrunners ⊢
  omega

/-- **Each collision makes for three alarms at most.** -/
theorem alarmTasks_le :
    ((Drive.opening cfg sprites watcher stopping).tasks o cfg
        ((Drive.opening cfg sprites watcher stopping).budget cfg)).countP (fun t => !t.isRunner) ≤
      3 * (Plot.atEnd o cfg sprites watcher stopping).scene.encounters.length := by
  have hrunners := runnerTasks_eq o cfg sprites watcher stopping
  have hall := pending_after o cfg sprites watcher stopping
    ((Drive.opening cfg sprites watcher stopping).budget cfg)
  have hsplit := List.length_eq_countP_add_countP Task.isRunner
    (l := (Drive.opening cfg sprites watcher stopping).tasks o cfg
      ((Drive.opening cfg sprites watcher stopping).budget cfg))
  have hnot : (fun t : Task => decide ¬t.isRunner = true) = fun t => !t.isRunner := by
    funext t
    cases t <;> rfl
  rw [hnot] at hsplit
  simp only [Plot.atEnd, last] at hrunners hall ⊢
  omega

/-! ## One wakeup each -/

/-- **Each runner that is not done has one wakeup**, when the blocks that it has started are over. -/
theorem wakeups_after (n i : Nat) :
    let d := (Drive.opening cfg sprites watcher stopping).after o cfg n
    d.session.timeline.queue.filter (fun w => w.task = .runner i) =
      if d.runners[i]?.join.isSome then
        [⟨endTime cfg (blocksOf i d.session.journal.beats), .runner i⟩] else [] := by
  have hcourse := (runs_after o cfg sprites watcher stopping n).reachable.onCourse
  refine Eq.trans ?_ (hcourse.wakeups i)
  rw [plot, Session.scene, List.filter_filter]
  refine List.filter_congr ?_
  intro w _
  by_cases hw : w.task = .runner i <;> simp [hw, Task.isRunner]

theorem step_eq_none_iff (n : Nat) :
    ((Drive.opening cfg sprites watcher stopping).after o cfg n).step o cfg = none ↔
      ((Drive.opening cfg sprites watcher stopping).after o cfg n).isOver = true := by
  constructor
  · intro hstep
    exact (runs_after o cfg sprites watcher stopping n).isOver_of_step o cfg sprites hstep
  · intro hover
    rw [step, if_pos hover]

end Drive

/-- **Every run ends, and no runner is lost or woken twice.** Before each task there is one wakeup
for each runner that is not done, and none for the others; so no task is left only when all runners
are done, which they are within the budget of the drive. A run takes one task for each sprite and
one for each block that is started, and three for any two sprites that meet, at most. It does not
start more blocks than there are in the plans of the sprites, and any two sprites meet once. -/
theorem Session.runAll_wakeups {σ : Type} (o : Observer σ) (cfg : Settings) (sprites : List Sprite)
    (watcher : σ) (stopping : Bool) :
    let opening := Drive.opening cfg sprites watcher stopping
    let run := (Session.begin sprites watcher stopping).runAll o cfg
    let tasks := opening.tasks o cfg (opening.budget cfg)
    (∀ n i, (opening.after o cfg n).session.timeline.queue.filter (fun w => w.task = .runner i) =
      if (opening.after o cfg n).runners[i]?.join.isSome then
        [⟨endTime cfg (blocksOf i (opening.after o cfg n).session.journal.beats), .runner i⟩]
      else []) ∧
    (∀ n, (opening.after o cfg n).step o cfg = none ↔ (opening.after o cfg n).isOver = true) ∧
    (opening.last o cfg).isOver = true ∧
    (∀ n, opening.budget cfg ≤ n → opening.after o cfg n = opening.last o cfg) ∧
    tasks.countP Task.isRunner = sprites.length + run.1.blocks ∧
    tasks.countP (fun t => !t.isRunner) ≤ 3 * run.1.collisions.length ∧
    run.1.blocks ≤ (sprites.map fun s => (s.plan cfg.maxRepeat).length).sum ∧
    run.1.collisions.length ≤ sprites.length * (sprites.length - 1) / 2 := by
  have hover := Drive.isOver_last o cfg sprites watcher stopping
  have hrunners := Drive.runnerTasks_eq o cfg sprites watcher stopping
  have halarms := Drive.alarmTasks_le o cfg sprites watcher stopping
  have hreach := Plot.reachable_atEnd o cfg sprites watcher stopping
  have hcollisions := hreach.told.collisions
  have hmet := hreach.length_encounters_le
  have hstarted := hreach.started_le
  rw [Plot.sizes_opening] at hstarted
  rw [length_placePairs] at hmet
  dsimp only
  rw [blocks_runAll, collisions_runAll, hcollisions, List.length_map]
  refine ⟨Drive.wakeups_after o cfg sprites watcher stopping,
    Drive.step_eq_none_iff o cfg sprites watcher stopping, hover, ?_, hrunners, halarms, by omega,
    hmet⟩
  intro n hn
  obtain ⟨k, rfl⟩ := Nat.exists_eq_add_of_le hn
  exact Drive.after_of_isOver o cfg hover k

end SpriteScript
