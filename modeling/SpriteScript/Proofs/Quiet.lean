/-
  Runs in which no stop is heeded.

  Such a run is a matter of its sprites alone: each task that is not for an alarm wakes the runner
  whose wakeup comes first, and alarms do nothing but let time pass.

  * `Plot.Quiet` are the plots that such a run can come to;
  * `Quiet.eq_of_isOver`: **there is only one of them in which all runners are done**, but for the
    time;
  * `quiet_atEnd`: a run that does not report a stop comes to it;
  * `Quiet.started_pos`: if there is a plan with blocks, some block has been started by then.
-/
import SpriteScript.Proofs.Ending
import Mathlib.Logic.Function.Iterate

namespace SpriteScript

namespace Plot

/-- The plots that a run of some sprites can come to without heeding a stop. -/
inductive Quiet (cfg : Settings) (sprites : List Sprite) : Plot → Prop where
  | opening : Quiet cfg sprites (opening sprites)
  | wait {p : Plot} (t : Nat) : Quiet cfg sprites p → p.isOver = false → p.scene.now ≤ t →
      Quiet cfg sprites (p.wait t)
  | wake {p : Plot} : Quiet cfg sprites p → p.isOver = false → Quiet cfg sprites (p.wake cfg false)

variable {cfg : Settings} {sprites : List Sprite} {p q : Plot}

theorem Quiet.reachable (h : Quiet cfg sprites p) : p.Reachable cfg sprites := by
  induction h with
  | opening => exact .opening
  | wait t _ hover hle ih => exact ih.next hover (.wait t hle)
  | wake _ hover ih => exact ih.next hover (.wake false)

/-- A wakeup does not depend on the time that was. -/
theorem wait_wake (t : Nat) (p : Plot) :
    ((p.wait t).wake cfg false).wait 0 = (p.wake cfg false).wait 0 := by
  unfold wake
  simp only [wait]
  split
  · rfl
  · rfl
  · split <;> rfl

/-- A plot of such a run is that after a number of wakeups, but for the time. -/
theorem Quiet.iterate (h : Quiet cfg sprites p) : ∃ k,
    p.wait 0 = ((Plot.wake cfg false)^[k] (Plot.opening sprites)).wait 0 ∧
      ∀ j < k, ((Plot.wake cfg false)^[j] (Plot.opening sprites)).isOver = false := by
  induction h with
  | opening =>
    refine ⟨0, rfl, ?_⟩
    intro j hj
    omega
  | wait t _ _ _ ih => exact ih
  | @wake p _ hover ih =>
    obtain ⟨k, heq, hbefore⟩ := ih
    refine ⟨k + 1, ?_, ?_⟩
    · rw [Function.iterate_succ_apply', ← wait_wake 0, heq, wait_wake]
    · intro j hj
      rcases Nat.lt_succ_iff_lt_or_eq.mp hj with hj | rfl
      · exact hbefore j hj
      · have hsame : (p.wait 0).isOver = _ := congrArg isOver heq
        exact hsame.symm.trans hover

/-- **All runs in which no stop is heeded end alike.** -/
theorem Quiet.eq_of_isOver (hp : Quiet cfg sprites p) (hq : Quiet cfg sprites q)
    (hover : p.isOver = true) (hover' : q.isOver = true) : p.wait 0 = q.wait 0 := by
  obtain ⟨k, hk, hbefore⟩ := hp.iterate
  obtain ⟨m, hm, hbefore'⟩ := hq.iterate
  have hkover : ((Plot.wake cfg false)^[k] (Plot.opening sprites)).isOver = true :=
    (congrArg isOver hk).symm.trans hover
  have hmover : ((Plot.wake cfg false)^[m] (Plot.opening sprites)).isOver = true :=
    (congrArg isOver hm).symm.trans hover'
  rcases Nat.lt_trichotomy k m with hlt | rfl | hlt
  · simp [hbefore' k hlt] at hkover
  · rw [hk, hm]
  · simp [hbefore m hlt] at hmover

/-- As long as no block has been started, the runners of plans with blocks have not been woken. -/
theorem Quiet.fresh (h : Quiet cfg sprites p) (hnone : p.scene.started = 0) {i : Nat} {s : Sprite}
    (hs : sprites[i]? = some s) (hplan : s.plan cfg.maxRepeat ≠ []) :
    ∃ r, p.runner? i = some r ∧ r.busy = none := by
  induction h with
  | opening =>
    have hi := (List.getElem?_eq_some_iff.mp hs).1
    exact ⟨{ sprite := i }, by rw [OnCourse.runner?_opening, if_pos hi], rfl⟩
  | wait t _ _ _ ih => exact ih hnone
  | wake hquiet hover ih =>
    have hcourse := hquiet.reachable.onCourse
    obtain ⟨j, r, rest, c, ht⟩ := hcourse.turn hover
    have hwake := ht.wake false
    generalize Plot.wake cfg false _ = p' at hnone hwake ⊢
    obtain ⟨hbodies, -, -, -, hstarted⟩ := ht.frame
    cases hwake with
    | start hpop =>
      obtain ⟨-, -, -, hone, -⟩ := c.start_frame cfg hpop
      simp [hone] at hnone
    | finish _ hpop =>
      obtain ⟨r', hr', hfresh⟩ := ih (hstarted.symm.trans hnone)
      refine ⟨r', ?_, hfresh⟩
      by_cases hj : j = i
      · -- a plan with blocks has just been put into the queue
        subst hj
        obtain rfl := Option.some.inj (ht.runner.symm.trans hr')
        have hsame := hcourse.role_eq j
        rw [hs] at hsame
        obtain ⟨body, hbody, hrole⟩ := Option.map_eq_some_iff.mp hsame
        have hempty := hpop rfl
        rw [ht.scene_of_fresh hfresh] at hempty
        simp only [Scene.seed, hbody, Scene.pop?, RunQueues.seed, RunQueues.pop?,
          Sprite.plan_of_role cfg.maxRepeat hrole, RunQueues.get?_set] at hempty
        cases hlist : s.plan cfg.maxRepeat with
        | nil => exact absurd hlist hplan
        | cons b bs => simp [hlist] at hempty
      · rw [runner?_set ht.runner, if_neg hj, hr']

theorem Quiet.started_pos (h : Quiet cfg sprites p) (hover : p.isOver = true)
    (hplan : ∃ s ∈ sprites, s.plan cfg.maxRepeat ≠ []) : 0 < p.scene.started := by
  obtain ⟨s, hs, hblocks⟩ := hplan
  obtain ⟨i, hi⟩ := List.mem_iff_getElem?.mp hs
  by_contra hnone
  obtain ⟨r, hr, -⟩ := h.fresh (Nat.eq_zero_of_not_pos hnone) hi hblocks
  simp [runner?_eq_none hover i] at hr

end Plot

/-! ## Runs that report no stop -/

section
variable {σ : Type} (o : Observer σ) (cfg : Settings) (sprites : List Sprite) (watcher : σ)
  (stopping : Bool)

theorem Drive.quiet_after (n : Nat)
    (h : ((Drive.opening cfg sprites watcher stopping).after o cfg n).session.stopping = false) :
    ((Drive.opening cfg sprites watcher stopping).after o cfg n).plot.Quiet cfg sprites := by
  induction n with
  | zero =>
    simp only [after, plot_opening]
    exact .opening
  | succ n ih =>
    have hruns := runs_after o cfg sprites watcher stopping n
    rw [after_succ] at h ⊢
    cases hstep : ((Drive.opening cfg sprites watcher stopping).after o cfg n).step o cfg with
    | none =>
      rw [hstep] at h
      exact ih h
    | some d =>
      rw [hstep] at h
      have hgoes := hruns.goes o hstep
      have hbefore := hgoes.quiet h
      obtain ⟨stopped, hnext, hheeded⟩ := hgoes.next
      obtain rfl : stopped = false := by
        rw [Bool.eq_false_iff]
        intro hs
        simp [hheeded hs] at h
      have hquiet := ih hbefore
      have hongoing := hgoes.ongoing
      simp only [Option.getD_some]
      rw [← Plot.isOver_plot] at hongoing
      generalize d.plot = p' at hnext ⊢
      cases hnext with
      | wait t hle => exact .wait t hquiet hongoing hle
      | wake => exact .wake hquiet hongoing

theorem Drive.after_of_isOver {d : Drive σ ScriptRunner} {n : Nat}
    (h : (d.after o cfg n).isOver = true) (k : Nat) : d.after o cfg (n + k) = d.after o cfg n := by
  induction k with
  | zero => rfl
  | succ k ih =>
    have hnone : (d.after o cfg n).step o cfg = none := by
      unfold step
      rw [if_pos h]
    rw [← Nat.add_assoc, after_succ, ih, hnone]
    rfl

/-- What holds after some tasks of a run, and is left by no task in its course, holds in the end. -/
theorem Drive.last_induction {motive : Drive σ ScriptRunner → Prop} {n : Nat}
    (begin : motive ((Drive.opening cfg sprites watcher stopping).after o cfg n))
    (step : ∀ d d', d.Runs cfg sprites → d.step o cfg = some d' → motive d → motive d') :
    motive ((Drive.opening cfg sprites watcher stopping).last o cfg) := by
  have hlater (k : Nat) :
      motive ((Drive.opening cfg sprites watcher stopping).after o cfg (n + k)) := by
    induction k with
    | zero => exact begin
    | succ k ih =>
      have hruns := runs_after o cfg sprites watcher stopping (n + k)
      rw [← Nat.add_assoc, after_succ]
      cases hstep : ((Drive.opening cfg sprites watcher stopping).after o cfg (n + k)).step o cfg with
      | none => exact ih
      | some d => exact step _ d hruns hstep ih
  -- there is nothing to come after the last drive
  have hover := isOver_last o cfg sprites watcher stopping
  unfold last at hover ⊢
  rw [← after_of_isOver o cfg hover n, Nat.add_comm]
  exact hlater _

/-- The journal of a run goes on from that of its drive. -/
theorem Session.journal_last :
    ((Drive.opening cfg sprites watcher stopping).last o cfg).session.journal <:+
      ((Session.begin sprites watcher stopping).runAll o cfg).2.journal := by
  simp only [runAll_eq]
  generalize ((Drive.opening cfg sprites watcher stopping).last o cfg).session = s
  exact (((s.advance_cancelAlarms o).trans (advance_settle o _)).trans
    (advance_reach o _ (.runFinished _))).journal

theorem Session.journal_after (n : Nat) :
    ((Drive.opening cfg sprites watcher stopping).after o cfg n).session.journal <:+
      ((Session.begin sprites watcher stopping).runAll o cfg).2.journal := by
  have hlast := Drive.last_induction o cfg sprites watcher stopping (n := n)
    (motive := fun d => ((Drive.opening cfg sprites watcher stopping).after o cfg n).session.journal
      <:+ d.session.journal) (List.suffix_refl _)
    fun _ _ hruns hstep hd => hd.trans (hruns.goes o hstep).journal
  exact hlast.trans (journal_last o cfg sprites watcher stopping)

/-- **If a run reports no stop, none was asked for at any time.** -/
theorem Drive.stopping_after
    (h : ((Session.begin sprites watcher stopping).runAll o cfg).1.stopped = false) (n : Nat) :
    ((Drive.opening cfg sprites watcher stopping).after o cfg n).session.stopping = false := by
  rw [Bool.eq_false_iff]
  intro hs
  -- a request is not withdrawn
  have hlast := last_induction o cfg sprites watcher stopping
    (motive := fun d => d.session.stopping = true) hs
    fun _ _ hruns hstep => (hruns.goes o hstep).stopping
  simp only [Session.runAll_eq] at h
  generalize (Drive.opening cfg sprites watcher stopping).last o cfg = d at h hlast
  have hclose := ((Session.advance_cancelAlarms o d.session).trans
    (Session.advance_settle o _)).stopping hlast
  exact absurd (hclose.symm.trans h) (by simp)

/-- **A run that reports no stop ends as one in which no stop is heeded.** -/
theorem Plot.quiet_atEnd
    (h : ((Session.begin sprites watcher stopping).runAll o cfg).1.stopped = false) :
    (Plot.atEnd o cfg sprites watcher stopping).Quiet cfg sprites :=
  Drive.quiet_after o cfg sprites watcher stopping _
    (Drive.stopping_after o cfg sprites watcher stopping h _)

end

end SpriteScript
