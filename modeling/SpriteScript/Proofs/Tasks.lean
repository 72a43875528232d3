/-
  What a task of a run does.

  * `Drive.Woken`: the first wakeup is that of a runner, the time has been told, and the runner has
    ended its block or filled its queue;
  * `Drive.Does`: a task lets an alarm go off, or a runner that is woken is done or starts a block;
  * `Runs.does`: **each task of a run does one of these**;
  * `Does.deeds` and `deeds_after`: it does so by deeds.
-/
import SpriteScript.Proofs.Deeds
import SpriteScript.Proofs.Simulation

namespace SpriteScript

/-- What the sprite with an id utters when its runner is woken, before the runner goes on. -/
def ScriptRunner.ending (id : String) (r : ScriptRunner) (time : Nat) : List Utterance :=
  match r.busy with
  | some b => b.ending id time
  | none => []

theorem Block.speaker_of_mem_opening (cfg : Settings) {id : String} {b : Block} {t : Nat}
    {u : Utterance} (h : u ∈ b.opening cfg id t) : u.speaker = id := by
  unfold opening at h
  split at h
  · rw [List.mem_singleton.mp h]
  · simp at h

namespace ScriptRunner

theorem ending_busy (id : String) (i : Nat) (b : Block) (time : Nat) :
    ending id ⟨i, some b⟩ time = b.ending id time := rfl

theorem speaker_of_mem_ending {id : String} {r : ScriptRunner} {t : Nat} {u : Utterance}
    (h : u ∈ r.ending id t) : u.speaker = id := by
  unfold ending Block.ending at h
  split at h
  · split at h
    · rw [List.mem_singleton.mp h]
    · simp at h
  · simp at h

variable {σ : Type} (o : Observer σ) (cfg : Settings)

theorem deeds_settleBusy {r : ScriptRunner} {s : Session σ} {x : Sprite}
    (hx : s.sprites[r.sprite]? = some x) :
    s.Deeds o cfg (r.ending x.id s.now) (r.settleBusy o cfg s) := by
  obtain ⟨i, busy⟩ := r
  cases busy with
  | none => exact Session.deeds_seed o cfg s i
  | some b => exact Session.deeds_complete o cfg hx b

end ScriptRunner

namespace Drive

variable {σ : Type} (o : Observer σ) (cfg : Settings)

/-- The first wakeup of the drive `d` is that of the runner `r` at place `i`. In the drive `t` the
time has been told, and the session `s` is the one that the runner finds when it has ended its block
or filled its queue. -/
structure Woken (d t : Drive σ ScriptRunner) (i : Nat) (r : ScriptRunner) (s : Session σ) :
    Prop where
  ticks : ∃ timeline, Ticks o (endTime cfg (blocksOf i d.plot.scene.beats)) (.runner i) timeline d t
  turn : ∃ rest, d.plot.Turn cfg i r rest s.scene
  found : s = r.settleBusy o cfg t.session

/-- What a task of a run does. -/
inductive Does (d : Drive σ ScriptRunner) : Drive σ ScriptRunner → Prop where
  /-- It lets an alarm go off, or does nothing as the alarm was called off or set anew. -/
  | alarm {due number : Nat} {key : AlarmKey} {timeline : Timeline} {t : Drive σ ScriptRunner} :
      Ticks o due (.alarm key number) timeline d t →
      Does d { t with session := (t.session.ring o key number).heedStop }
  /-- A runner is done, as a stop was asked for or no block is left. -/
  | finish {t : Drive σ ScriptRunner} {i : Nat} {r : ScriptRunner} {s : Session σ} :
      Woken o cfg d t i r s → (s.stopping = false → s.pop? i = none) →
      Does d { t with session := (s.finish o i).heedStop, runners := d.runners.set i none }
  /-- A runner starts a block, as no stop was asked for. -/
  | start {t : Drive σ ScriptRunner} {i : Nat} {r : ScriptRunner} {b : Block} {s s' : Session σ} :
      Woken o cfg d t i r s → s.stopping = false → s.pop? i = some (b, s') →
      Does d { t with
        session := ({ s'.start o cfg i b with
          timeline := (s'.start o cfg i b).timeline.schedule (b.delay cfg) (.runner i) } :
            Session σ).heedStop
        runners := d.runners.set i (some ⟨i, some b⟩) }

variable {o cfg} {sprites : List Sprite} {d t d' : Drive σ ScriptRunner}

theorem now_tellTime (d : Drive σ ScriptRunner) : (d.tellTime o).session.now = d.session.now := by
  unfold tellTime
  dsimp only
  split <;> rfl

/-- Time passes, and the observer is told. -/
theorem Ticks.deeds {due : Nat} {task : Task} {timeline : Timeline}
    (h : Ticks o due task timeline d t) : d.session.Deeds o cfg [] t.session := by
  have hnow : t.session.now = due := congrArg Scene.now h.scene
  rw [h.told, now_tellTime] at hnow
  have hlater : d.session.Deeds o cfg [] { d.session with timeline } :=
    .of_unseen rfl rfl rfl rfl rfl (hnow ▸ h.ahead)
  rw [h.told]
  unfold tellTime
  dsimp only
  split
  · exact hlater
  · exact hlater.next (.clock _)

theorem Ticks.turn {due i : Nat} {timeline : Timeline} (h : Ticks o due (.runner i) timeline d t)
    (hcourse : d.plot.OnCourse cfg sprites) :
    ∃ r rest c, d.plot.Turn cfg i r rest c ∧ due = endTime cfg (blocksOf i d.plot.scene.beats) := by
  obtain ⟨j, r, rest, c, ht⟩ := hcourse.turn h.ongoing
  obtain ⟨hdue, htask⟩ := Wakeup.mk.inj (List.cons.inj (h.wakeups.symm.trans ht.first)).1
  obtain rfl := Task.runner.inj htask
  exact ⟨r, rest, c, ht, hdue⟩

/-- **What a task of a run does.** -/
theorem Runs.does (h : d.Runs cfg sprites) (hstep : d.step o cfg = some d') : Does o cfg d d' := by
  have hcourse := h.reachable.onCourse
  obtain ⟨due, task, timeline, t, hticks, rfl⟩ := ticks_of_step o cfg h.inOrder hstep
  cases task with
  | alarm key number => exact .alarm hticks
  | runner i =>
    obtain ⟨⟨j, busy⟩, rest, c, hturn, rfl⟩ := hticks.turn hcourse
    obtain rfl : j = i := hturn.sprite
    have hrunner : t.runners[j]?.join = some ⟨j, busy⟩ := hticks.runners ▸ hturn.runner
    have hscene : (ScriptRunner.settleBusy o cfg ⟨j, busy⟩ t.session).scene = c := by
      have hrest := (List.cons.inj (hticks.wakeups.symm.trans hturn.first)).2
      rw [ScriptRunner.scene_settleBusy, hticks.scene, hrest]
      exact hturn.scene.symm
    have hwoken : Woken o cfg d t j ⟨j, busy⟩ (ScriptRunner.settleBusy o cfg ⟨j, busy⟩ t.session) :=
      ⟨⟨timeline, hticks⟩, ⟨rest, hscene ▸ hturn⟩, rfl⟩
    simp only [perform, wake_eq o cfg t hrunner, hticks.runners]
    unfold ScriptRunner.proceed
    split
    · next hstop => exact .finish hwoken (by simp [hstop])
    · next hstop =>
      rw [Bool.not_eq_true] at hstop
      split
      · next hpop => exact .finish hwoken fun _ => hpop
      · next b s' hpop => exact .start hwoken hstop hpop

theorem Ticks.scene_alarm {due number : Nat} {key : AlarmKey} {timeline : Timeline}
    (h : Ticks o due (.alarm key number) timeline d t) :
    (t.session.ring o key number).heedStop.scene = { d.plot.scene with now := due } := by
  have hwakeups : d.plot.scene.wakeups = timeline.queue.filter (·.task.isRunner) := by
    simp [Drive.plot, Session.scene, h.first, Task.isRunner]
  rw [Session.scene_heedStop, Session.scene_ring, h.scene, ← hwakeups]

theorem Ticks.plot_alarm {due number : Nat} {key : AlarmKey} {timeline : Timeline}
    (h : Ticks o due (.alarm key number) timeline d t) :
    ({ t with session := (t.session.ring o key number).heedStop } : Drive σ ScriptRunner).plot =
      d.plot.wait due := congrArg₂ Plot.mk h.scene_alarm h.runners

/-! ## Deeds of a task -/

theorem Ticks.deeds_alarm {due number : Nat} {key : AlarmKey} {timeline : Timeline}
    (h : Ticks o due (.alarm key number) timeline d t) :
    d.session.Deeds o cfg [] (t.session.ring o key number).heedStop :=
  (h.deeds.quietly (t.session.deeds_ring o cfg key number)).quietly (Session.deeds_heedStop o cfg _)

namespace Woken

variable {i : Nat} {r : ScriptRunner} {b : Block} {s s' : Session σ}

theorem runner (h : Woken o cfg d t i r s) : d.plot.runner? i = some r := by
  obtain ⟨rest, hturn⟩ := h.turn
  exact hturn.runner

theorem sprite_eq (h : Woken o cfg d t i r s) : r.sprite = i := by
  obtain ⟨rest, hturn⟩ := h.turn
  exact hturn.sprite

theorem now (h : Woken o cfg d t i r s) :
    t.session.now = endTime cfg (blocksOf i d.plot.scene.beats) ∧
      s.now = endTime cfg (blocksOf i d.plot.scene.beats) := by
  obtain ⟨timeline, hticks⟩ := h.ticks
  obtain ⟨rest, hturn⟩ := h.turn
  exact ⟨congrArg Scene.now hticks.scene, hturn.frame.2.2.1⟩

/-- The sprite at a place is there all the time. -/
theorem sprite (h : Woken o cfg d t i r s) (hcourse : d.plot.OnCourse cfg sprites) :
    ∃ hi : i < sprites.length, ∃ x y, t.session.sprites[i]? = some x ∧ x.id = sprites[i].id ∧
      s.sprites[i]? = some y ∧ y.id = sprites[i].id := by
  have hi := hcourse.lt_of_runner? h.runner
  obtain ⟨timeline, hticks⟩ := h.ticks
  obtain ⟨rest, hturn⟩ := h.turn
  have hbody (u : Session σ) (hu : u.scene.bodies = d.plot.scene.bodies) :
      ∃ x, u.sprites[i]? = some x ∧ x.id = sprites[i].id := by
    have hrole := hcourse.role_eq i
    rw [← hu, u.getElem?_bodies, List.getElem?_eq_getElem hi, Option.map_map,
      Option.map_some] at hrole
    obtain ⟨x, hx, hx'⟩ := Option.map_eq_some_iff.mp hrole
    exact ⟨x, hx, Sprite.id_of_role hx'⟩
  obtain ⟨x, hx, hxid⟩ := hbody t.session (by rw [hticks.scene])
  obtain ⟨y, hy, hyid⟩ := hbody s hturn.frame.1
  exact ⟨hi, x, y, hx, hxid, hy, hyid⟩

/-- A runner that is woken ends the bubble of its block. -/
theorem deeds (h : Woken o cfg d t i r s) (hcourse : d.plot.OnCourse cfg sprites)
    (hi : i < sprites.length) : d.session.Deeds o cfg (r.ending sprites[i].id s.now) s := by
  obtain ⟨_, x, _, hx, hxid, -, -⟩ := h.sprite hcourse
  have hsettle := r.deeds_settleBusy o cfg (h.sprite_eq ▸ hx)
  rw [← h.found, hxid, h.now.1, ← h.now.2] at hsettle
  obtain ⟨timeline, hticks⟩ := h.ticks
  exact hticks.deeds.then hsettle

/-- A runner that is done utters nothing more. -/
theorem deeds_finish (h : Woken o cfg d t i r s) (hcourse : d.plot.OnCourse cfg sprites)
    (hi : i < sprites.length) :
    d.session.Deeds o cfg (r.ending sprites[i].id s.now) (s.finish o i).heedStop := by
  obtain ⟨_, _, y, -, -, hy, -⟩ := h.sprite hcourse
  exact ((h.deeds hcourse hi).quietly (s.deeds_finish o cfg hy)).quietly
    (Session.deeds_heedStop o cfg _)

/-- A runner that starts a block opens the bubble of it. -/
theorem deeds_start (h : Woken o cfg d t i r s) (hcourse : d.plot.OnCourse cfg sprites)
    (hi : i < sprites.length) (hstop : s.stopping = false) (hpop : s.pop? i = some (b, s')) :
    d.session.Deeds o cfg (r.ending sprites[i].id s.now ++ b.opening cfg sprites[i].id s.now)
      ({ s'.start o cfg i b with
        timeline := (s'.start o cfg i b).timeline.schedule (b.delay cfg) (.runner i) } :
          Session σ).heedStop := by
  obtain ⟨_, _, y, -, -, hy, hyid⟩ := h.sprite hcourse
  obtain ⟨queues, rfl⟩ := s.eq_of_pop? hpop
  have hstart := Session.deeds_start o cfg (s := { s with stage.queues := queues }) hstop hy b
  rw [hyid] at hstart
  have hboth := ((h.deeds hcourse hi).quietly (Session.deeds_pop? o cfg hpop)).trans hstart
  exact (hboth.quietly (Session.deeds_schedule o cfg _ (b.delay cfg) (.runner i))).quietly
    (Session.deeds_heedStop o cfg _)

/-! ## The plot after a task -/

theorem length (h : Woken o cfg d t i r s) (hcourse : d.plot.OnCourse cfg sprites) :
    i < s.sprites.length := by
  obtain ⟨_, _, y, -, -, hy, -⟩ := h.sprite hcourse
  exact (List.getElem?_eq_some_iff.mp hy).1

theorem inOrder (h : Woken o cfg d t i r s) : s.timeline.InOrder := by
  obtain ⟨timeline, hticks⟩ := h.ticks
  obtain ⟨n, hadvance, -⟩ := r.advance_settleBusy o cfg t.session
  exact h.found ▸ hadvance.inOrder (hticks.advance.inOrder hticks.inOrder)

theorem scene_finish (h : Woken o cfg d t i r s) (hcourse : d.plot.OnCourse cfg sprites) :
    (s.finish o i).heedStop.scene = s.scene.finish i := by
  rw [Session.scene_heedStop, Session.scene_finish o s (h.length hcourse)]

theorem plot_finish (h : Woken o cfg d t i r s) (hcourse : d.plot.OnCourse cfg sprites) :
    ({ t with session := (s.finish o i).heedStop, runners := d.runners.set i none } :
      Drive σ ScriptRunner).plot = ⟨s.scene.finish i, d.plot.runners.set i none⟩ :=
  congrArg (Plot.mk · (d.runners.set i none)) (h.scene_finish hcourse)

theorem scene_start (h : Woken o cfg d t i r s) (hcourse : d.plot.OnCourse cfg sprites)
    (hpop : s.pop? i = some (b, s')) :
    s.scene.pop? i = some (b, s'.scene) ∧
      ({ s'.start o cfg i b with
        timeline := (s'.start o cfg i b).timeline.schedule (b.delay cfg) (.runner i) } :
          Session σ).heedStop.scene = (s'.scene.start cfg i b).schedule (b.delay cfg) i := by
  have hlen : i < s'.sprites.length := by
    obtain ⟨queues, rfl⟩ := s.eq_of_pop? hpop
    exact h.length hcourse
  have horder := (s'.advance_start o cfg i b).inOrder ((s.advance_pop? o hpop).inOrder h.inOrder)
  refine ⟨by rw [← s.scene_pop?, hpop]; rfl, ?_⟩
  rw [Session.scene_heedStop, ScriptRunner.scene_schedule _ horder,
    Session.scene_start o cfg s' hlen]

theorem plot_start (h : Woken o cfg d t i r s) (hcourse : d.plot.OnCourse cfg sprites)
    (hpop : s.pop? i = some (b, s')) :
    ({ t with
      session := ({ s'.start o cfg i b with
        timeline := (s'.start o cfg i b).timeline.schedule (b.delay cfg) (.runner i) } :
          Session σ).heedStop
      runners := d.runners.set i (some ⟨i, some b⟩) } : Drive σ ScriptRunner).plot =
      ⟨(s'.scene.start cfg i b).schedule (b.delay cfg) i,
        d.plot.runners.set i (some ⟨i, some b⟩)⟩ :=
  congrArg (Plot.mk · (d.runners.set i (some ⟨i, some b⟩))) (h.scene_start hcourse hpop).2

end Woken

/-- A runner that is done after a task was done before it, or the task ended it. -/
theorem Does.ended {d d' : Drive σ ScriptRunner} (h : Does o cfg d d') {i : Nat}
    (hdone : d'.plot.runner? i = none) : d.plot.runner? i = none ∨
      ∃ t r s, Woken o cfg d t i r s ∧ d'.session = (s.finish o i).heedStop := by
  cases h with
  | alarm hticks =>
    simp only [plot, hticks.runners] at hdone
    exact .inl hdone
  | @finish t j r s hwoken hpop =>
    by_cases hj : j = i
    · subst hj
      exact .inr ⟨t, r, s, hwoken, rfl⟩
    · have hset := Plot.runner?_set (x := none) hwoken.runner s.scene i
      rw [if_neg hj] at hset
      exact .inl (hset.symm.trans hdone)
  | @start t j r b s s' hwoken hstop hpop =>
    have hset := Plot.runner?_set (x := some ⟨j, some b⟩) hwoken.runner s.scene i
    have hrunner := hset.symm.trans hdone
    by_cases hj : j = i
    · simp [hj] at hrunner
    · rw [if_neg hj] at hrunner
      exact .inl hrunner

end Drive

/-! ## What a plot utters -/

/-- How a plot goes on, with what is uttered. -/
inductive Plot.Utters (cfg : Settings) (sprites : List Sprite) (p : Plot) :
    List Utterance → Plot → Prop where
  | wait (t : Nat) : Utters cfg sprites p [] (p.wait t)
  /-- A runner ends the bubble of its block, and is done. -/
  | finish {i : Fin sprites.length} {r : ScriptRunner} {rest : List Wakeup} {c : Scene} :
      p.Turn cfg i r rest c → Utters cfg sprites p (r.ending (sprites.get i).id c.now)
        ⟨c.finish i, p.runners.set i none⟩
  /-- A runner ends the bubble of its block, and starts the next one. -/
  | start {i : Fin sprites.length} {r : ScriptRunner} {rest : List Wakeup} {c c' : Scene}
      {b : Block} : p.Turn cfg i r rest c → c.pop? i = some (b, c') →
      Utters cfg sprites p
        (r.ending (sprites.get i).id c.now ++ b.opening cfg (sprites.get i).id c.now)
        ⟨(c'.start cfg i b).schedule (b.delay cfg) i, p.runners.set i (some ⟨i, some b⟩)⟩

/-- Only the sprite whose runner is woken utters something. -/
theorem Plot.Utters.speaker {cfg : Settings} {sprites : List Sprite} {p p' : Plot}
    {us : List Utterance} (h : p.Utters cfg sprites us p') {u : Utterance} (hu : u ∈ us) :
    ∃ i : Fin sprites.length, u.speaker = (sprites.get i).id ∧ (p.runner? i).isSome := by
  cases h with
  | wait => simp at hu
  | @finish i r rest c ht =>
    exact ⟨i, ScriptRunner.speaker_of_mem_ending hu, by rw [ht.runner]; rfl⟩
  | @start i r rest c c' b ht =>
    refine ⟨i, ?_, by rw [ht.runner]; rfl⟩
    rcases List.mem_append.mp hu with hu | hu
    · exact ScriptRunner.speaker_of_mem_ending hu
    · exact Block.speaker_of_mem_opening cfg hu

namespace Drive

variable {σ : Type} {o : Observer σ} {cfg : Settings} {sprites : List Sprite}
  {d d' : Drive σ ScriptRunner}

/-- **What a task utters it utters in the plot.** -/
theorem Does.utters (h : Does o cfg d d') (hcourse : d.plot.OnCourse cfg sprites) :
    ∃ us, d.plot.Utters cfg sprites us d'.plot ∧ d.session.Deeds o cfg us d'.session := by
  cases h with
  | @alarm due number key timeline t hticks =>
    exact ⟨[], hticks.plot_alarm ▸ .wait due, hticks.deeds_alarm⟩
  | @finish t i r s hwoken hpop =>
    have hi := hcourse.lt_of_runner? hwoken.runner
    obtain ⟨rest, hturn⟩ := hwoken.turn
    exact ⟨_, hwoken.plot_finish hcourse ▸ .finish (i := ⟨i, hi⟩) hturn,
      hwoken.deeds_finish hcourse hi⟩
  | @start t i r b s s' hwoken hstop hpop =>
    have hi := hcourse.lt_of_runner? hwoken.runner
    obtain ⟨rest, hturn⟩ := hwoken.turn
    have hpop' := (hwoken.scene_start hcourse hpop).1
    exact ⟨_, hwoken.plot_start hcourse hpop ▸ .start (i := ⟨i, hi⟩) hturn hpop',
      hwoken.deeds_start hcourse hi hstop hpop⟩

variable (o cfg sprites) (watcher : σ) (stopping : Bool)

/-- **A run goes on by deeds.** -/
theorem deeds_after (n : Nat) : ∃ us, (Drive.opening cfg sprites watcher stopping).session.Deeds o cfg
    us ((Drive.opening cfg sprites watcher stopping).after o cfg n).session := by
  refine runs_induction o cfg sprites watcher stopping (motive := fun d => ∃ us,
    (Drive.opening cfg sprites watcher stopping).session.Deeds o cfg us d.session) ⟨[], .refl⟩ ?_ n
  rintro d d' hruns hstep ⟨us, hdeeds⟩
  obtain ⟨vs, -, hmore⟩ := (hruns.does hstep).utters hruns.reachable.onCourse
  exact ⟨us ++ vs, hdeeds.trans hmore⟩

/-- As a run begins no runner is done. -/
theorem runner?_opening_ne_none (i : Fin sprites.length) :
    (Drive.opening cfg sprites watcher stopping).plot.runner? i ≠ none := by
  rw [plot_opening, Plot.OnCourse.runner?_opening, if_pos i.2]
  simp

theorem obeys_opening :
    (Drive.opening cfg sprites watcher stopping).session.Obeys o watcher stopping := by
  rw [session_opening]
  exact ⟨rfl, (Bool.or_false _).symm⟩

/-- **After any number of tasks a stop is asked for just if it was asked for before the run, or the
observer has asked for it.** -/
theorem obeys_after (n : Nat) : ((Drive.opening cfg sprites watcher stopping).after o cfg n).session.Obeys
    o watcher stopping := by
  obtain ⟨us, hdeeds⟩ := deeds_after o cfg sprites watcher stopping n
  exact hdeeds.obeys (obeys_opening o cfg sprites watcher stopping)

end Drive

namespace Session

variable {σ : Type} (o : Observer σ) (cfg : Settings) (sprites : List Sprite) (watcher : σ)
  (stopping : Bool)

/-- The deeds that come after those of the drive utter nothing. -/
theorem deeds_runAll : ((Drive.opening cfg sprites watcher stopping).last o cfg).session.Deeds o cfg
    [] ((Session.begin sprites watcher stopping).runAll o cfg).2 := by
  simp only [runAll_eq]
  exact deeds_close o cfg _

/-- All of a run goes on by deeds. -/
theorem runs_by_deeds : ∃ us, (Drive.opening cfg sprites watcher stopping).session.Deeds o cfg us
    ((Session.begin sprites watcher stopping).runAll o cfg).2 := by
  obtain ⟨us, hdeeds⟩ := Drive.deeds_after o cfg sprites watcher stopping
    ((Drive.opening cfg sprites watcher stopping).budget cfg)
  exact ⟨us, hdeeds.quietly (deeds_runAll o cfg sprites watcher stopping)⟩

/-- **A run reports a stop if one was asked for before it, or the observer asks for one.** -/
theorem stopped_runAll :
    ((Session.begin sprites watcher stopping).runAll o cfg).2.Obeys o watcher stopping ∧
      ((Session.begin sprites watcher stopping).runAll o cfg).1.stopped =
        ((Session.begin sprites watcher stopping).runAll o cfg).2.stopping := by
  obtain ⟨us, hdeeds⟩ := runs_by_deeds o cfg sprites watcher stopping
  exact ⟨hdeeds.obeys (Drive.obeys_opening o cfg sprites watcher stopping), rfl⟩

end Session

end SpriteScript
