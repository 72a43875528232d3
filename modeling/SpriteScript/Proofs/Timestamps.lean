/-
  What a recorder that is new says of time.

  Such a recorder has no other clock than what it is told. It hears of each later instant before
  anything happens at it, so it always knows the time.

  * `Recorder.beside` is a recorder that hears all that another observer hears, who may ask for a
    stop;
  * `Timely.tick`, `Punctual.times` and `Punctual.ticks`: **the instants of a punctual journal never
    go back, and those that the clock tells are later each time**;
  * `Session.Punctual.recorder`: **a recorder knows the time and has kept all that happened**;
  * `Player.runAll_timestamps`: **what the events of a run are stamped with**.
-/
import SpriteScript.Proofs.Recorders

namespace SpriteScript

/-! ## Instants of a journal -/

theorem Entry.eq_clock {e : Entry} (h : e.isClock = true) :
    ∃ t now, e = ⟨t, .told (.clock now)⟩ := by
  obtain ⟨t, happening⟩ := e
  cases happening with
  | reached m => simp [isClock] at h
  | told n =>
    cases n with
    | clock now => exact ⟨t, now, rfl⟩
    | update | speech | collision | banner => simp [isClock] at h

namespace Journal

variable {e : Entry} {j : Journal}

theorem ticks_cons (h : e.isClock = false) : ticks (e :: j) = j.ticks := by
  obtain ⟨t, happening⟩ := e
  cases happening with
  | reached m => simp [ticks]
  | told n => cases n <;> simp [ticks, Entry.isClock] at h ⊢

theorem ticks_clock (t now : Nat) (j : Journal) :
    ticks (⟨t, .told (.clock now)⟩ :: j) = j.ticks ++ [now] := by simp [ticks]

/-- The clock told of the instant of an entry last, and of no later one before. -/
theorem Timely.tick (h : Timely e j) : e.time = tick (e :: j) ∧ j.tick ≤ tick (e :: j) := by
  cases hclock : e.isClock with
  | false =>
    rw [tick_cons hclock]
    exact ⟨(timely_of_not hclock).mp h, Nat.le_refl _⟩
  | true =>
    obtain ⟨t, now, rfl⟩ := Entry.eq_clock hclock
    obtain ⟨rfl, hlater⟩ := h
    rw [tick_clock]
    exact ⟨rfl, Nat.le_of_lt hlater⟩

namespace Punctual

theorem le_tick (h : j.Punctual) : ∀ e ∈ j, e.time ≤ j.tick := by
  induction j with
  | nil => simp
  | cons e j ih =>
    obtain ⟨htimely, hpunctual⟩ := h
    obtain ⟨htime, htick⟩ := htimely.tick
    refine List.forall_mem_cons.mpr ⟨Nat.le_of_eq htime, ?_⟩
    intro earlier hmem
    exact Nat.le_trans (ih hpunctual earlier hmem) htick

/-- **Time never goes back from one entry to the next.** -/
theorem times (h : j.Punctual) : j.Pairwise fun later earlier => earlier.time ≤ later.time := by
  induction j with
  | nil => exact .nil
  | cons e j ih =>
    obtain ⟨htimely, hpunctual⟩ := h
    obtain ⟨htime, htick⟩ := htimely.tick
    refine List.pairwise_cons.mpr ⟨?_, ih hpunctual⟩
    intro earlier hmem
    exact htime ▸ Nat.le_trans (le_tick hpunctual earlier hmem) htick

/-- **The clock tells of a later instant each time.** -/
theorem ticks (h : j.Punctual) :
    (Journal.ticks j).Pairwise (· < ·) ∧ ∀ now ∈ Journal.ticks j, 0 < now ∧ now ≤ tick j := by
  induction j with
  | nil => simp [Journal.ticks, notices]
  | cons e j ih =>
    obtain ⟨htimely, hpunctual⟩ := h
    obtain ⟨hsorted, hbounds⟩ := ih hpunctual
    cases hclock : e.isClock with
    | false =>
      rw [ticks_cons hclock, tick_cons hclock]
      exact ⟨hsorted, hbounds⟩
    | true =>
      obtain ⟨t, now, rfl⟩ := Entry.eq_clock hclock
      have hlater : tick j < now := htimely.2
      rw [ticks_clock, tick_clock]
      refine ⟨List.pairwise_append.mpr ⟨hsorted, List.pairwise_singleton .., ?_⟩, ?_⟩
      · intro earlier hmem later heq
        rw [List.mem_singleton.mp heq]
        exact Nat.lt_of_le_of_lt (hbounds earlier hmem).2 hlater
      · intro told hmem
        rcases List.mem_append.mp hmem with hmem | hmem
        · have := hbounds told hmem
          omega
        · rw [List.mem_singleton.mp hmem]
          omega

end Punctual

/-! ## Events of a journal -/

theorem recorded_append (later earlier : Journal) :
    recorded (later ++ earlier) = recorded earlier ++ recorded later := by simp [recorded]

/-- An event has the instant of its entry. -/
theorem time_of_recorded? {x : Recorded} (h : e.recorded? = some x) : x.time = e.time := by
  unfold Entry.recorded? at h
  split at h
  · simp at h
  · simp at h
  · exact (congrArg Recorded.time (Option.some.inj h)).symm

/-- **Time never goes back from one event to the next.** -/
theorem Punctual.recorded (h : j.Punctual) :
    (Journal.recorded j).Pairwise fun x y => x.time ≤ y.time := by
  refine List.Pairwise.filterMap _ ?_ (List.pairwise_reverse.mpr h.times)
  intro earlier later hle x hx y hy
  rw [time_of_recorded? hx, time_of_recorded? hy]
  exact hle

/-- Events that happen while time stands still. -/
theorem time_of_mem_recorded {t : Nat} (h : ∀ e ∈ j, e.time = t) :
    ∀ x ∈ j.recorded, x.time = t := by
  intro x hx
  obtain ⟨e, he, hevent⟩ := List.mem_filterMap.mp hx
  rw [time_of_recorded? hevent]
  exact h e (List.mem_reverse.mp he)

end Journal

/-! ## Recorders -/

namespace Recorder

variable {σ : Type} (o : Observer σ)

/-- A recorder that hears all that another observer hears. Only the other one asks for a stop. -/
def beside : Observer (σ × Recorder) where
  hear := fun (w, r) n => (((o.hear w n).1, r.hear n), (o.hear w n).2)

/-- Each of the two hears all notices. -/
theorem foldl_beside (w : σ) (r : Recorder) (ns : List Notice) :
    ns.foldl (fun w n => ((beside o).hear w n).1) (w, r) =
      (ns.foldl (fun w n => (o.hear w n).1) w, ns.foldl hear r) := by
  induction ns generalizing w r with
  | nil => rfl
  | cons n ns ih => exact ih _ _

end Recorder

/-- **A recorder knows the time and has kept all that happened**, if it was new when the session
began. -/
theorem Session.Punctual.recorder {σ : Type} {o : Observer σ} {w : σ} {s : Session (σ × Recorder)}
    (h : s.Punctual) (hheard : s.HeardFrom (Recorder.beside o) (w, {})) :
    s.watcher.2.now = s.now ∧ s.watcher.2.events = s.journal.recorded := by
  have hwatcher : s.watcher.2 = s.journal.notices.foldl Recorder.hear {} := by
    rw [hheard, Recorder.foldl_beside]
  rw [hwatcher, h.journal.foldl_hear]
  refine ⟨?_, by simp [Recorder.events, Recorded.resumed_zero]⟩
  show (if s.journal.tick = 0 then 0 else s.journal.tick) = s.now
  rw [← h.tick]
  split
  · next hzero => exact hzero.symm
  · rfl

section
variable {σ : Type} (o : Observer σ) (cfg : Settings) (sprites : List Sprite) (watcher : σ)
  (stopping : Bool)

/-- Between any two tasks a recorder knows the time and has kept all that happened. -/
theorem Drive.recorder_after (n : Nat) :
    let s := ((Drive.opening cfg sprites (watcher, {}) stopping).after (Recorder.beside o) cfg
      n).session
    s.watcher.2.now = s.now ∧ s.watcher.2.events = s.journal.recorded :=
  (punctual_after (Recorder.beside o) cfg sprites (watcher, {}) stopping n).session.recorder
    (obeys_after (Recorder.beside o) cfg sprites (watcher, {}) stopping n).heard

/-- When the run is over it has kept all, and what came after the last task has its instant. -/
theorem Session.recorder_runAll :
    let done := ((Drive.opening cfg sprites (watcher, {}) stopping).last (Recorder.beside o)
      cfg).session
    let run := (Session.begin sprites (watcher, {}) stopping).runAll (Recorder.beside o) cfg
    run.2.watcher.2.events = run.2.journal.recorded ∧
      ∃ cleared, run.2.watcher.2.events = done.watcher.2.events ++ cleared ∧
        ∀ x ∈ cleared, x.time = run.1.elapsed := by
  have hdone := (Drive.punctual_after (Recorder.beside o) cfg sprites (watcher, {}) stopping
    ((Drive.opening cfg sprites (watcher, ({} : Recorder)) stopping).budget cfg)).session
  have hkept := (Drive.recorder_after o cfg sprites watcher stopping
    ((Drive.opening cfg sprites (watcher, ({} : Recorder)) stopping).budget cfg)).2
  have hheard := (stopped_runAll (Recorder.beside o) cfg sprites (watcher, {}) stopping).1.heard
  simp only [runAll_eq] at hheard ⊢
  rw [← Drive.last] at hdone hkept
  generalize ((Drive.opening cfg sprites (watcher, ({} : Recorder)) stopping).last
    (Recorder.beside o) cfg).session = done at *
  have hclosed := moment_close (Recorder.beside o) done
  generalize done.cancelAlarms.settle (Recorder.beside o) = s at *
  have hover := ((hclosed.punctual hdone).recorder hheard).2
  obtain ⟨hnow, later, hjournal, hlater⟩ := hclosed
  refine ⟨hover, Journal.recorded later, ?_, ?_⟩
  · rw [hover, hkept, hjournal, Journal.recorded_append]
  · intro x hx
    have helapsed : s.report.elapsed = done.now := hnow
    rw [helapsed]
    exact Journal.time_of_mem_recorded (fun e he => (hlater e he).1) x hx

end

/-- **What the events of a run are stamped with.** A recorder is new as a run begins; another
observer hears the run with it and may ask for a stop. Then between any two tasks the recorder knows
the time, and has kept all that was told, each notice with the instant at which it was told; so it
has when the run is over. The events are in the order of their instants. The clock told of a later
instant each time, none of them the beginning, and of the end of the run last, unless the run took no
time. What is told as the sprites are cleared, when all tasks are done, has the end of the run as its
instant. -/
theorem Player.runAll_timestamps {σ : Type} (p : Player) (o : Observer σ) (sprites : List Sprite)
    (watcher : σ) :
    let opening := Drive.opening p.settings (sprites.map Sprite.working) (watcher, {})
      p.stopRequested
    let done := (opening.last (Recorder.beside o) p.settings).session
    let outcome := (p.runAll (Recorder.beside o) sprites (watcher, {})).2
    let events := outcome.watcher.2.events
    let ticks := outcome.journal.ticks
    (∀ n, let s := (opening.after (Recorder.beside o) p.settings n).session
      s.watcher.2.now = s.now ∧ s.watcher.2.events = s.journal.recorded) ∧
    events = outcome.journal.recorded ∧ (events.Pairwise fun x y => x.time ≤ y.time) ∧
    ticks.Pairwise (· < ·) ∧ (∀ now ∈ ticks, 0 < now) ∧
    ticks.getLast?.getD 0 = outcome.report.elapsed ∧
    ∃ cleared, events = done.watcher.2.events ++ cleared ∧
      ∀ x ∈ cleared, x.time = outcome.report.elapsed := by
  have hkept := Drive.recorder_after o p.settings (sprites.map Sprite.working) watcher
    p.stopRequested
  obtain ⟨hpunctual, htick⟩ := Session.punctual_runAll (Recorder.beside o) p.settings
    (sprites.map Sprite.working) (watcher, {}) p.stopRequested
  obtain ⟨hevents, hcleared⟩ := Session.recorder_runAll o p.settings (sprites.map Sprite.working)
    watcher p.stopRequested
  simp only [runAll_eq]
  generalize (Session.begin (sprites.map Sprite.working) (watcher, ({} : Recorder))
    p.stopRequested).runAll (Recorder.beside o) p.settings = run at *
  obtain ⟨hsorted, hbounds⟩ := hpunctual.ticks
  refine ⟨hkept, hevents, hevents ▸ hpunctual.recorded, hsorted, ?_, htick, hcleared⟩
  intro now hnow
  exact (hbounds now hnow).1

end SpriteScript
