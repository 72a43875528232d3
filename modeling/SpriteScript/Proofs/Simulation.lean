/-
  A drive goes on as its plot does.

  * `Drive.Goes` is what a task makes of a drive: it takes the plot to a next plot, takes one wakeup
    and leaves no more than it accounts for, and the session advances;
  * `Drive.Ticks`: the first wakeup is taken, and the time is told; `Ticks.goes_alarm`,
    `Ticks.goes_idle` and `Ticks.goes_runner` say what its task then does;
  * `Drive.goes_step`: **each task of a drive is one of these**;
  * `Drive.runs_after`: **a run can come to the plots of its drives**, and their timelines are in
    order;
  * `Session.runAll_eq`: a run is its drive, then what is called off and cleared.
-/
import SpriteScript.Proofs.Course

namespace SpriteScript

/-! ## A runner goes on -/

namespace ScriptRunner

variable {σ : Type} (o : Observer σ) (cfg : Settings) (r : ScriptRunner) (s : Session σ)

/-- A runner leaves a wakeup for each block that it starts. -/
theorem advance_proceed (h : s.timeline.InOrder) (hi : r.sprite < s.sprites.length) (i : Nat)
    (runners : List (Option ScriptRunner)) :
    let next := settled i runners (r.proceed o cfg s)
    ∃ k, s.Advance o k next.1 ∧ next.1.scene.started = s.scene.started + k ∧
      next.1.scene.encounters = s.scene.encounters := by
  unfold proceed
  cases s.stopping with
  | true =>
    refine ⟨0, s.advance_finish o r.sprite, ?_⟩
    simp only [if_true, settled]
    rw [Session.scene_finish o s hi]
    exact ⟨rfl, rfl⟩
  | false =>
    simp only [Bool.false_eq_true, if_false]
    cases hp : s.pop? r.sprite with
    | none =>
      refine ⟨0, s.advance_finish o r.sprite, ?_⟩
      simp only [settled]
      rw [Session.scene_finish o s hi]
      exact ⟨rfl, rfl⟩
    | some bs =>
      obtain ⟨b, t⟩ := bs
      have ht := s.advance_pop? o hp
      have hstart := ht.trans (t.advance_start o cfg r.sprite b)
      have hlen : r.sprite < t.sprites.length := by
        obtain ⟨queues, rfl⟩ := s.eq_of_pop? hp
        exact hi
      refine ⟨1, hstart.trans (advance_schedule o _ (b.delay cfg) i), ?_⟩
      simp only [settled]
      rw [scene_schedule _ (hstart.inOrder h), Session.scene_start o cfg t hlen]
      obtain ⟨queues, rfl⟩ := s.eq_of_pop? hp
      exact ⟨rfl, rfl⟩

end ScriptRunner

/-! ## Tasks -/

namespace Drive

variable {σ : Type} (o : Observer σ) (cfg : Settings)

/-- Each runner is at the place of its sprite. -/
def Placed (d : Drive σ ScriptRunner) : Prop :=
  ∀ i r, d.plot.runner? i = some r → r.sprite = i ∧ i < d.session.sprites.length

/-- What a task makes of a drive. -/
structure Goes (d d' : Drive σ ScriptRunner) : Prop where
  ongoing : d.isOver = false
  next : ∃ stopped, d.plot.Next cfg stopped d'.plot ∧
    (stopped = true → d'.session.stopping = true)
  /-- The wakeup of the task is gone; what is new is that of a block, or three for a collision. -/
  advance : ∃ timeline k, timeline.InOrder ∧ timeline.pending + 1 = d.session.timeline.pending ∧
    Session.Advance o k { d.session with timeline } d'.session ∧
    k + 3 * d.plot.scene.encounters.length + d.plot.scene.started ≤
      3 * d'.plot.scene.encounters.length + d'.plot.scene.started
  /-- What the runner finds is told before what it does. -/
  found : ∀ {i r rest c}, d.plot.Turn cfg i r rest c → d'.plot.scene.beats ≠ d.plot.scene.beats →
    ∃ s : Session σ, s.scene = c ∧ s.journal <:+ d'.session.journal

namespace Goes

variable {o cfg} {d d' : Drive σ ScriptRunner}

theorem inOrder (h : d.Goes o cfg d') : d'.session.timeline.InOrder := by
  obtain ⟨timeline, k, horder, -, hadv, -⟩ := h.advance
  exact hadv.inOrder horder

theorem stopping (h : d.Goes o cfg d') (hs : d.session.stopping = true) :
    d'.session.stopping = true := by
  obtain ⟨timeline, k, -, -, hadv, -⟩ := h.advance
  exact hadv.stopping hs

theorem quiet (h : d.Goes o cfg d') (hs : d'.session.stopping = false) :
    d.session.stopping = false := by
  rw [Bool.eq_false_iff] at hs ⊢
  exact fun hstop => hs (h.stopping hstop)

theorem journal (h : d.Goes o cfg d') : d.session.journal <:+ d'.session.journal := by
  obtain ⟨timeline, k, -, -, hadv, -⟩ := h.advance
  exact hadv.journal

theorem heard (h : d.Goes o cfg d') {w : σ} (hw : d.session.HeardFrom o w) :
    d'.session.HeardFrom o w := by
  obtain ⟨timeline, k, -, -, hadv, -⟩ := h.advance
  exact hadv.heard w hw

theorem pending (h : d.Goes o cfg d') : d'.session.timeline.pending + 1 +
      3 * d.plot.scene.encounters.length + d.plot.scene.started ≤
    d.session.timeline.pending + 3 * d'.plot.scene.encounters.length +
      d'.plot.scene.started := by
  obtain ⟨timeline, k, -, hone, hadv, hcount⟩ := h.advance
  have hpending := hadv.pending
  dsimp only at hpending
  omega

end Goes

theorem plot_tellTime (d : Drive σ ScriptRunner) : (d.tellTime o).plot = d.plot := by
  unfold tellTime
  dsimp only
  split
  · rfl
  · exact congrArg (fun c => Plot.mk c d.runners)
      ((d.session.scene_tell o _).trans (Scene.hear_clock _ _))

theorem advance_tellTime (d : Drive σ ScriptRunner) :
    d.session.Advance o 0 (d.tellTime o).session := by
  unfold tellTime
  dsimp only
  split
  · exact .refl o _
  · exact d.session.advance_tell o _

theorem wake_eq (d : Drive σ ScriptRunner) {i : Nat} {r : ScriptRunner}
    (h : d.runners[i]?.join = some r) :
    d.wake o cfg i =
      let next := ScriptRunner.settled i d.runners
        (r.proceed o cfg (r.settleBusy o cfg d.session))
      { d with session := next.1, runners := next.2 } := by
  have hwake : Runner.wake o cfg r d.session =
    r.proceed o cfg (r.settleBusy o cfg d.session) := rfl
  simp only [wake, h, hwake]
  rcases r.proceed o cfg (r.settleBusy o cfg d.session) with ⟨s, _ | ⟨delay, r'⟩⟩ <;> rfl

/-- What waking the runner `r` at place `i` makes of a drive. -/
structure Wakes (i : Nat) (r : ScriptRunner) (d d' : Drive σ ScriptRunner) : Prop where
  proceed : ∃ stopped, d'.plot =
      .proceed cfg stopped i r (d.session.scene.settleBusy cfg r) d.runners ∧
    (stopped = true → d'.session.stopping = true)
  advance : ∃ k, d.session.Advance o k d'.session ∧
    k + 3 * d.plot.scene.encounters.length + d.plot.scene.started ≤
      3 * d'.plot.scene.encounters.length + d'.plot.scene.started
  found : ∃ s : Session σ, s.scene = d.session.scene.settleBusy cfg r ∧
    s.journal <:+ d'.session.journal

theorem wakes_wake (d : Drive σ ScriptRunner) (h : d.session.timeline.InOrder) {i : Nat}
    {r : ScriptRunner} (hr : d.runners[i]?.join = some r)
    (hi : r.sprite < d.session.sprites.length) : Wakes o cfg i r d (d.wake o cfg i) := by
  obtain ⟨n, hadv, hn⟩ := r.advance_settleBusy o cfg d.session
  have hscene := r.scene_settleBusy o cfg d.session
  have hlen : r.sprite < (r.settleBusy o cfg d.session).sprites.length := by
    rw [← Session.length_bodies, hscene, (Scene.settleBusy_frame cfg r _).1,
      Session.length_bodies]
    exact hi
  have hplot := r.plot_proceed o cfg _ (hadv.inOrder h) hlen i d.runners
  obtain ⟨k, hadv', hstarted, hencounters⟩ :=
    r.advance_proceed o cfg _ (hadv.inOrder h) hlen i d.runners
  rw [hscene] at hplot hstarted hencounters
  rw [(Scene.settleBusy_frame cfg r _).2.2.2.2] at hstarted
  rw [wake_eq o cfg d hr]
  refine ⟨⟨_, hplot, hadv'.stopping⟩, ⟨_, hadv.trans hadv', ?_⟩, ⟨_, hscene, hadv'.journal⟩⟩
  simp only [plot, hstarted, hencounters, hn]
  omega

/-- To follow a request to stop only takes wakeups away. -/
theorem Goes.heed {d d' : Drive σ ScriptRunner} (h : d.Goes o cfg d') :
    d.Goes o cfg { d' with session := d'.session.heedStop } := by
  have hplot : ({ d' with session := d'.session.heedStop } : Drive σ ScriptRunner).plot =
      d'.plot := by
    simp only [Drive.plot, Session.scene_heedStop]
  have hheed := d'.session.advance_heedStop o
  obtain ⟨stopped, hnext, hstopped⟩ := h.next
  obtain ⟨timeline, k, horder, hone, hadv, hcount⟩ := h.advance
  refine ⟨h.ongoing, ⟨stopped, hplot ▸ hnext, fun hs => hheed.stopping (hstopped hs)⟩,
    ⟨timeline, k, horder, hone, hadv.trans hheed, hplot ▸ hcount⟩, ?_⟩
  intro i r rest c ht hbeats
  obtain ⟨s, hs, hjournal⟩ := h.found ht (hplot ▸ hbeats)
  exact ⟨s, hs, hjournal.trans hheed.journal⟩

/-- The drive `t` is what `d` is when its first wakeup has been taken, which was due at the instant
`due`, and the time has been told. -/
structure Ticks (due : Nat) (task : Task) (timeline : Timeline) (d t : Drive σ ScriptRunner) :
    Prop where
  ongoing : d.isOver = false
  next : d.session.timeline.next? = some (task, timeline)
  told : t = ({ d with session := { d.session with timeline } } : Drive σ ScriptRunner).tellTime o
  first : d.session.timeline.queue = ⟨due, task⟩ :: timeline.queue
  ahead : d.plot.scene.now ≤ due
  inOrder : timeline.InOrder
  plot : t.plot = Plot.mk { d.plot.scene with
    now := due
    wakeups := timeline.queue.filter (·.task.isRunner) } d.runners
  advance : Session.Advance o 0 { d.session with timeline } t.session

theorem ticks_of_step {d d' : Drive σ ScriptRunner} (h : d.session.timeline.InOrder)
    (hstep : d.step o cfg = some d') : ∃ due task timeline t, Ticks o due task timeline d t ∧
      d' = { t.perform o cfg task with session := (t.perform o cfg task).session.heedStop } := by
  unfold step at hstep
  split at hstep
  · simp at hstep
  next hover =>
  split at hstep
  · simp at hstep
  next task timeline hnext =>
  obtain ⟨due, hqueue, hnow⟩ := h.next?_eq hnext
  refine ⟨due, task, timeline, _, ?_, (Option.some.inj hstep).symm⟩
  constructor
  case ongoing => simpa using hover
  case next => exact hnext
  case told => rfl
  case first => exact hqueue
  case ahead => exact h.ahead ⟨due, task⟩ (by simp [hqueue])
  case inOrder => exact h.next? hnext
  case plot =>
    rw [plot_tellTime, ← hnow]
    rfl
  case advance => exact advance_tellTime o { d with session := { d.session with timeline } }

namespace Ticks

variable {o cfg} {due i : Nat} {task : Task} {timeline : Timeline} {d t : Drive σ ScriptRunner}

theorem pending (h : Ticks o due task timeline d t) :
    timeline.pending + 1 = d.session.timeline.pending := by
  simp only [Timeline.pending, h.first, List.length_cons]

theorem runners (h : Ticks o due task timeline d t) : t.runners = d.runners :=
  congrArg Plot.runners h.plot

theorem scene (h : Ticks o due task timeline d t) : t.session.scene = { d.plot.scene with
    now := due, wakeups := timeline.queue.filter (·.task.isRunner) } :=
  congrArg Plot.scene h.plot

theorem wakeups (h : Ticks o due (.runner i) timeline d t) :
    d.plot.scene.wakeups = ⟨due, .runner i⟩ :: timeline.queue.filter (·.task.isRunner) := by
  simp [Drive.plot, Session.scene, h.first, Task.isRunner]

/-- An alarm lets time pass. -/
theorem goes_alarm {key : AlarmKey} {number : Nat}
    (h : Ticks o due (.alarm key number) timeline d t) :
    d.Goes o cfg (t.perform o cfg (.alarm key number)) := by
  have hsame : (t.perform o cfg (.alarm key number)).plot = d.plot.wait due := by
    have hscene : (t.perform o cfg (.alarm key number)).plot = t.plot := by
      simp only [perform, Drive.plot, Session.scene_ring]
    rw [hscene, h.plot, Plot.wait]
    simp [Drive.plot, Session.scene, h.first, Task.isRunner]
  constructor
  case ongoing => exact h.ongoing
  case next => exact ⟨false, hsame ▸ .wait due h.ahead, by simp⟩
  case advance =>
    refine ⟨timeline, _, h.inOrder, h.pending,
      h.advance.trans (t.session.advance_ring o key number), ?_⟩
    rw [hsame]
    simp only [Plot.wait]
    omega
  case found =>
    intro i r rest c _ hbeats
    rw [hsame] at hbeats
    exact absurd rfl hbeats

/-- The wakeup of a runner that is done makes no difference. -/
theorem goes_idle (h : Ticks o due (.runner i) timeline d t) (hr : d.runners[i]?.join = none) :
    d.Goes o cfg (t.perform o cfg (.runner i)) := by
  have hidle : t.perform o cfg (.runner i) = t := by
    simp only [perform]
    unfold wake
    rw [h.runners, hr]
  have hwake : t.plot = d.plot.wake cfg false := by
    rw [h.plot, Plot.wake, h.wakeups]
    simp [hr, Drive.plot]
  rw [hidle]
  constructor
  case ongoing => exact h.ongoing
  case next => exact ⟨false, hwake ▸ .wake false, by simp⟩
  case advance =>
    refine ⟨timeline, 0, h.inOrder, h.pending, h.advance, ?_⟩
    rw [h.plot]
    simp only
    omega
  case found =>
    intro i r rest c _ hbeats
    rw [h.plot] at hbeats
    exact absurd rfl hbeats

/-- The wakeup of any other runner wakes it in the plot. -/
theorem goes_runner (h : Ticks o due (.runner i) timeline d t) (hplaced : d.Placed)
    {r : ScriptRunner} (hr : d.runners[i]?.join = some r) :
    d.Goes o cfg (t.perform o cfg (.runner i)) := by
  obtain ⟨hsprite, hlt⟩ := hplaced i r hr
  have hlen : r.sprite < t.session.sprites.length := by
    rw [← Session.length_bodies, h.scene, hsprite]
    simpa [Drive.plot, Session.length_bodies] using hlt
  have hwakes := t.wakes_wake o cfg (h.advance.inOrder h.inOrder) (h.runners ▸ hr) hlen
  obtain ⟨stopped, hwake, hstopped⟩ := hwakes.proceed
  obtain ⟨k, hadv, hcount⟩ := hwakes.advance
  have hnext : (t.wake o cfg i).plot = d.plot.wake cfg stopped := by
    rw [hwake, h.runners, h.scene, Plot.wake, h.wakeups]
    simp only
    rw [show d.plot.runners[i]?.join = some r from hr]
    rfl
  constructor
  case ongoing => exact h.ongoing
  case next => exact ⟨stopped, hnext ▸ .wake stopped, hstopped⟩
  case advance =>
    refine ⟨timeline, _, h.inOrder, h.pending, h.advance.trans hadv, ?_⟩
    rw [h.plot] at hcount
    simp only [perform] at hcount ⊢
    omega
  case found =>
    -- the runner woken is the one whose turn it is
    intro i' r' rest c hturn _
    obtain ⟨s, hs, hjournal⟩ := hwakes.found
    obtain ⟨hfirst, hrest⟩ := List.cons.inj (h.wakeups.symm.trans hturn.first)
    obtain ⟨hdue, htask⟩ := Wakeup.mk.inj hfirst
    obtain rfl := Task.runner.inj htask
    obtain rfl := Option.some.inj (hr.symm.trans hturn.runner)
    refine ⟨s, ?_, hjournal⟩
    rw [hs, h.scene, hturn.scene, ← hdue, ← hrest]

end Ticks

/-- **What a task makes of a drive.** -/
theorem goes_step {d d' : Drive σ ScriptRunner} (h : d.session.timeline.InOrder)
    (hplaced : d.Placed) (hstep : d.step o cfg = some d') : d.Goes o cfg d' := by
  obtain ⟨due, task, timeline, t, hticks, rfl⟩ := ticks_of_step o cfg h hstep
  refine Goes.heed o cfg ?_
  cases task with
  | alarm key number => exact hticks.goes_alarm
  | runner i =>
    cases hr : d.runners[i]?.join with
    | none => exact hticks.goes_idle hr
    | some r => exact hticks.goes_runner hplaced hr

end Drive

/-! ## The drive of all sprites -/

namespace Drive

variable {σ : Type} (o : Observer σ) (cfg : Settings)

theorem after_succ (n : Nat) (d : Drive σ ScriptRunner) :
    d.after o cfg (n + 1) = ((d.after o cfg n).step o cfg).getD (d.after o cfg n) := by
  induction n generalizing d with
  | zero =>
    simp only [after]
    cases d.step o cfg <;> rfl
  | succ n ih =>
    rw [after]
    cases hstep : d.step o cfg with
    | none => simp [after, hstep]
    | some d' =>
      simp only [after, hstep]
      exact ih d'

/-- What holds of a drive and is left by no task holds after any number of them. -/
theorem after_induction {motive : Drive σ ScriptRunner → Prop} {d : Drive σ ScriptRunner}
    (begin : motive d) (step : ∀ d d', motive d → d.step o cfg = some d' → motive d') (n : Nat) :
    motive (d.after o cfg n) := by
  induction n with
  | zero => exact begin
  | succ n ih =>
    rw [after_succ]
    cases hstep : (d.after o cfg n).step o cfg with
    | none => exact ih
    | some d' => exact step _ d' ih hstep

variable (sprites : List Sprite) (watcher : σ) (stopping : Bool)

theorem foldl_schedule (s : Session σ) (h : s.timeline = {}) (n : Nat) :
    (List.range n).foldl (fun s i => { s with timeline := s.timeline.schedule 0 (.runner i) }) s =
      { s with timeline := { queue := (List.range n).map fun i => ⟨0, .runner i⟩ } } := by
  induction n with
  | zero =>
    change s = { s with timeline := {} }
    rw [← h]
  | succ n ih =>
    rw [List.range_succ, List.foldl_append, ih, List.map_append]
    have hlast : insertWakeup ⟨0, .runner n⟩ ((List.range n).map (fun i => ⟨0, .runner i⟩) ++ []) =
        (List.range n).map (fun i => ⟨0, .runner i⟩) ++ [⟨0, .runner n⟩] :=
      insertWakeup_append (by simp)
    rw [List.append_nil] at hlast
    exact congrArg (fun q => ({ s with timeline := { queue := q } } : Session σ)) hlast

theorem session_opening : (Drive.opening cfg sprites watcher stopping).session =
    { (Session.begin sprites watcher stopping).reach (.runStarted sprites.length cfg.clock) with
      timeline := { queue := (List.range sprites.length).map fun i => ⟨0, .runner i⟩ } } := by
  have h := foldl_schedule
    ((Session.begin sprites watcher stopping).reach (.runStarted sprites.length cfg.clock)) rfl
    ((Session.begin sprites watcher stopping).reach
      (.runStarted sprites.length cfg.clock)).scriptRunners.length
  have hlen : ((Session.begin sprites watcher stopping).reach
      (.runStarted sprites.length cfg.clock)).scriptRunners.length = sprites.length := by
    simp [Session.scriptRunners, Session.sprites, Session.reach, Session.record, Session.begin]
  rw [hlen] at h
  unfold opening begin
  simp only [hlen]
  exact h

theorem plot_opening :
    (Drive.opening cfg sprites watcher stopping).plot = Plot.opening sprites := by
  have hwakeups : ((List.range sprites.length).map fun i => (⟨0, .runner i⟩ : Wakeup)).filter
      (·.task.isRunner) = (List.range sprites.length).map fun i => ⟨0, .runner i⟩ := by
    rw [List.filter_eq_self]
    intro w hw
    obtain ⟨i, -, rfl⟩ := List.mem_map.mp hw
    rfl
  unfold plot
  rw [session_opening]
  simp only [Session.scene, hwakeups]
  simp [Plot.opening, Session.reach, Session.record, Session.begin, Session.now, Session.sprites,
    Journal.encounters, Journal.notices, Journal.bannerTexts, Journal.beats, Entry.beat?, opening,
    begin, Session.scriptRunners]

theorem inOrder_opening :
    (Drive.opening cfg sprites watcher stopping).session.timeline.InOrder := by
  rw [session_opening]
  constructor
  case ascending => exact List.pairwise_map.mpr (List.pairwise_of_forall fun _ _ => Nat.le_refl 0)
  case ahead => intro _ _; exact Nat.zero_le _
  case inTime =>
    intro w hw
    obtain ⟨i, -, rfl⟩ := List.mem_map.mp hw
    exact Nat.zero_le _
  case nowInTime => exact Nat.zero_le _

theorem placed_of_onCourse {d : Drive σ ScriptRunner} (h : d.plot.OnCourse cfg sprites) :
    d.Placed := by
  intro i r hr
  have hlen : d.session.sprites.length = sprites.length := by
    have hroles := congrArg List.length h.roles
    simpa [plot, Session.length_bodies] using hroles
  exact ⟨h.placed i r hr, hlen ▸ h.lt_of_runner? hr⟩

/-- A drive in the course of a run: its timeline is in order, and the run can come to its plot. -/
structure Runs (d : Drive σ ScriptRunner) : Prop where
  inOrder : d.session.timeline.InOrder
  reachable : d.plot.Reachable cfg sprites

variable {cfg sprites}

theorem Runs.goes {d d' : Drive σ ScriptRunner} (h : d.Runs cfg sprites)
    (hstep : d.step o cfg = some d') : d.Goes o cfg d' :=
  goes_step o cfg h.inOrder (placed_of_onCourse cfg sprites h.reachable.onCourse) hstep

theorem Runs.step {d d' : Drive σ ScriptRunner} (h : d.Runs cfg sprites)
    (hstep : d.step o cfg = some d') : d'.Runs cfg sprites := by
  have hgoes := h.goes o hstep
  obtain ⟨stopped, hnext, -⟩ := hgoes.next
  exact ⟨hgoes.inOrder, h.reachable.next hgoes.ongoing hnext⟩

variable (cfg sprites)

theorem runs_opening : (Drive.opening cfg sprites watcher stopping).Runs cfg sprites :=
  ⟨inOrder_opening cfg sprites watcher stopping,
    plot_opening cfg sprites watcher stopping ▸ Plot.Reachable.opening⟩

/-- **A run is in its course after any number of tasks.** -/
theorem runs_after (n : Nat) :
    ((Drive.opening cfg sprites watcher stopping).after o cfg n).Runs cfg sprites := by
  refine after_induction o cfg (runs_opening cfg sprites watcher stopping) ?_ n
  intro d d' h hstep
  exact h.step o hstep

/-- **What holds as a run begins, and is left by no task in its course, holds throughout.** -/
theorem runs_induction {motive : Drive σ ScriptRunner → Prop}
    (opening : motive (Drive.opening cfg sprites watcher stopping))
    (step : ∀ d d', d.Runs cfg sprites → d.step o cfg = some d' → motive d → motive d') (n : Nat) :
    motive ((Drive.opening cfg sprites watcher stopping).after o cfg n) := by
  refine (after_induction o cfg (motive := fun d => d.Runs cfg sprites ∧ motive d)
    ⟨runs_opening cfg sprites watcher stopping, opening⟩ ?_ n).2
  rintro d d' ⟨hruns, hd⟩ hstep
  exact ⟨hruns.step o hstep, step d d' hruns hstep hd⟩

/-- As long as a runner is not done, there is a wakeup. -/
theorem Runs.pending_pos {d : Drive σ ScriptRunner} (h : d.Runs cfg sprites)
    (hover : d.isOver = false) : 0 < d.session.timeline.pending := by
  obtain ⟨i, r, rest, c, ht⟩ := h.reachable.onCourse.turn hover
  refine List.length_pos_of_ne_nil ?_
  intro hnil
  have hfirst := ht.first
  simp [plot, Session.scene, hnil] at hfirst

/-- No task is left only when all runners are done. -/
theorem Runs.isOver_of_step {d : Drive σ ScriptRunner} (h : d.Runs cfg sprites)
    (hstep : d.step o cfg = none) : d.isOver = true := by
  by_contra hover
  have hqueue := List.ne_nil_of_length_pos (h.pending_pos cfg sprites (Bool.eq_false_iff.mpr hover))
  obtain ⟨⟨task, timeline⟩, hnext⟩ := Option.isSome_iff_exists.mp (Timeline.next?_isSome hqueue)
  simp [Drive.step, hover, hnext] at hstep

end Drive

/-- **A run is its drive, then what is called off and cleared.** -/
theorem Session.runAll_eq {σ : Type} (o : Observer σ) (cfg : Settings) (sprites : List Sprite)
    (watcher : σ) (stopping : Bool) :
    (Session.begin sprites watcher stopping).runAll o cfg =
      let s := ((Drive.opening cfg sprites watcher stopping).last o cfg).session.cancelAlarms.settle o
      (s.report, s.reach (.runFinished s.report)) := rfl

end SpriteScript
