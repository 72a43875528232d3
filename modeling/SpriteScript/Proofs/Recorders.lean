/-
  Recorders that hear several runs.

  A recorder believes it to be the time that the clock told it last, and a run begins without a word
  of the clock. So a recorder that has heard a run before takes the beginning of the next one for a
  part of it, as far as time is concerned.

  * `Journal.recorded` is all that is told but for the time, each notice with its own instant;
  * `Recorded.resumed` is the event that such a recorder makes of one at the beginning of a run;
  * `Punctual.foldl_hear`: **what a recorder makes of a journal**;
  * `Project.reruns` are runs of a project one after the other, all heard by the same recorder;
  * `Project.run_recorder`: **what a recorder adds in a run that comes after others**, beside what a
    recorder has that hears this run only;
  * `Project.not_run_alike`: the two are not the same.
-/
import SpriteScript.Project.Basic
import SpriteScript.Proofs.Punctual
import SpriteScript.Proofs.Shadows
import SpriteScript.Run.Recorder

namespace SpriteScript

/-! ## Journals and events -/

/-- What an entry tells of, with its instant; what the clock tells is left out. -/
def Entry.recorded? (e : Entry) : Option Recorded :=
  match e.happening with
  | .told (.clock _) | .reached _ => none
  | .told n => some ⟨e.time, n⟩

/-- All that is told but for the time, with its instants, the earliest first. -/
def Journal.recorded (j : Journal) : List Recorded := j.reverse.filterMap Entry.recorded?

theorem Journal.recorded_cons (e : Entry) (j : Journal) :
    recorded (e :: j) = recorded j ++ e.recorded?.toList := by
  simp only [recorded, List.reverse_cons, List.filterMap_append, List.filterMap_cons,
    List.filterMap_nil]
  cases e.recorded? <;> rfl

/-- An event as it is kept by a recorder that was told the time `now` in an earlier run: if it
happens at the beginning of its run, it has this time. -/
def Recorded.resumed (now : Nat) (e : Recorded) : Recorded :=
  if e.time = 0 then { e with time := now } else e

theorem Recorded.resumed_zero (e : Recorded) : e.resumed 0 = e := by
  unfold resumed
  split
  · next h => rw [← h]
  · rfl

/-- **What a recorder makes of a journal.** -/
theorem Journal.Punctual.foldl_hear {j : Journal} (h : j.Punctual) (r : Recorder) :
    j.notices.foldl Recorder.hear r =
      { now := if j.tick = 0 then r.now else j.tick
        heard := (j.recorded.map (·.resumed r.now)).reverse ++ r.heard } := by
  induction j with
  | nil => rfl
  | cons e j ih =>
    obtain ⟨htimely, hpunctual⟩ := h
    obtain ⟨t, happening⟩ := e
    rw [recorded_cons]
    cases happening with
    | reached m =>
      rw [notices_reached, ih hpunctual, tick_cons rfl]
      simp [Entry.recorded?]
    | told n =>
      rw [notices_told, List.foldl_append, ih hpunctual]
      cases n with
      | clock now =>
        have hlater : tick j < now := htimely.2
        rw [tick_clock, if_neg (Nat.ne_of_gt (Nat.zero_lt_of_lt hlater))]
        simp [Recorder.hear, Entry.recorded?]
      | update | speech | collision | banner =>
        obtain rfl : t = tick j := htimely
        rw [tick_cons rfl]
        by_cases hzero : tick j = 0 <;>
          simp [Recorder.hear, Entry.recorded?, Recorded.resumed, hzero]

/-! ## Runs -/

/-- A recorder never asks for a stop. -/
theorem Recorder.shadows : Observer.silent.Shadows (fun _ => ()) Recorder.observer := fun _ _ => rfl

/-- **What a recorder adds in a run.** -/
theorem Player.runAll_recorder (p : Player) (sprites : List Sprite) (r : Recorder) :
    let silent := p.runAll .silent sprites ()
    let result := p.runAll Recorder.observer sprites r
    result.1 = silent.1 ∧ result.2.map (fun _ => ()) = silent.2 ∧
      result.2.watcher =
        { now := if silent.2.report.elapsed = 0 then r.now else silent.2.report.elapsed
          heard := (silent.2.journal.recorded.map (·.resumed r.now)).reverse ++ r.heard } := by
  have hshadow := runAll_shadow Recorder.shadows p sprites r
  obtain ⟨hheard, hpunctual, htick⟩ := p.runAll_punctual Recorder.observer sprites r
  rw [hshadow]
  generalize p.runAll Recorder.observer sprites r = result at *
  refine ⟨rfl, rfl, hheard.trans ((hpunctual.foldl_hear r).trans ?_)⟩
  rw [htick]
  rfl

namespace Project

/-- Runs of a project one after the other, each by a player of its own, all heard by the same
recorder. -/
def reruns : List Player → Project → Recorder → Project × Recorder
  | [], p, r => (p, r)
  | player :: players, p, r =>
    let (p, _, outcome) := p.run player Recorder.observer r
    reruns players p outcome.watcher

/-- How long runs of a project take that come one after the other. -/
def elapses : List Player → Project → List Nat
  | [], _ => []
  | player :: players, p =>
    let (p, _, outcome) := p.run player .silent ()
    outcome.report.elapsed :: elapses players p

/-- A recorder believes it to be the time at which the last run was over that took any. -/
theorem now_reruns (players : List Player) (p : Project) (r : Recorder) :
    (reruns players p r).2.now =
      (elapses players p).foldl (fun now t => if t = 0 then now else t) r.now := by
  induction players generalizing p r with
  | nil => rfl
  | cons player players ih =>
    obtain ⟨-, houtcome, hwatcher⟩ := player.runAll_recorder p.sprites r
    have hsprites : (player.runAll Recorder.observer p.sprites r).2.sprites =
        (player.runAll .silent p.sprites ()).2.sprites := congrArg (·.sprites) houtcome
    simp only [reruns, elapses, run, List.foldl_cons, hsprites, ih, hwatcher]

/-- **What a recorder adds in a run that comes after others.** The run itself is the same as for a
recorder that has heard nothing before. Such a recorder keeps all that happens with the instants at
which it happens. One that has heard the runs before adds the same events, but those at the
beginning of the run have the time at which the last run was over that took any. -/
theorem run_recorder (p : Project) (players : List Player) (player : Player) (r : Recorder) :
    let before := reruns players p r
    let fresh := before.1.run player Recorder.observer {}
    let used := before.1.run player Recorder.observer before.2
    (used.1 = fresh.1 ∧ used.2.1 = fresh.2.1 ∧ used.2.2.report = fresh.2.2.report ∧
      used.2.2.journal = fresh.2.2.journal ∧ used.2.2.waits = fresh.2.2.waits) ∧
    fresh.2.2.watcher.events = fresh.2.2.journal.recorded ∧
    used.2.2.watcher.events =
      before.2.events ++ fresh.2.2.watcher.events.map (·.resumed before.2.now) ∧
    before.2.now = (elapses players p).foldl (fun now t => if t = 0 then now else t) r.now := by
  have hnow := now_reruns players p r
  generalize reruns players p r = before at *
  obtain ⟨hplayer, houtcome, hwatcher⟩ := player.runAll_recorder before.1.sprites {}
  obtain ⟨hplayer', houtcome', hwatcher'⟩ := player.runAll_recorder before.1.sprites before.2
  simp only [run]
  generalize player.runAll Recorder.observer before.1.sprites {} = fresh at *
  generalize player.runAll Recorder.observer before.1.sprites before.2 = used at *
  generalize player.runAll .silent before.1.sprites () = silent at *
  have hsame := houtcome'.trans houtcome.symm
  have hjournal : silent.2.journal = fresh.2.journal := (congrArg (·.journal) houtcome).symm
  have hfresh : fresh.2.watcher.events = fresh.2.journal.recorded := by
    simp [hwatcher, Recorder.events, Recorded.resumed_zero, hjournal]
  have hused : used.2.watcher.events =
      before.2.events ++ fresh.2.watcher.events.map (·.resumed before.2.now) := by
    rw [hfresh, ← hjournal]
    simp [hwatcher', Recorder.events]
  refine ⟨⟨?_, hplayer'.trans hplayer.symm, congrArg (·.report) hsame, congrArg (·.journal) hsame,
    congrArg (·.waits) hsame⟩, hfresh, hused, hnow⟩
  exact congrArg (fun outcome : Outcome Unit => (⟨outcome.sprites⟩ : Project)) hsame

/-- **A recorder that has heard a run before does not add what one does that has not.** -/
theorem not_run_alike : ¬ ∀ (p : Project) (players : List Player) (player : Player),
    let before := reruns players p {}
    (before.1.run player Recorder.observer before.2).2.2.watcher.events =
      before.2.events ++ (before.1.run player Recorder.observer {}).2.2.watcher.events := by
  intro h
  have htimes := congrArg (List.map Recorded.time) (h ⟨catAtRest⟩ [{}] {})
  revert htimes
  decide +kernel

end Project

end SpriteScript
