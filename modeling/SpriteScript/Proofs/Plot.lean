/-
  Plots: what is left of a drive when only its scene and its runners are kept.

  Alarms, notices and looks never bear on which block is started when and by which sprite, so a
  drive goes on as its plot does: each task of the drive either leaves the plot alone but for the
  time, or wakes the runner whose wakeup comes first.

  * `Plot.wake` is a wakeup of a runner, `Plot.wait` lets time pass, and `Plot.Next` says how a plot
    goes on; whether a runner heeds a request to stop is left open, as it is up to the observer;
  * `Drive.opening` is the drive of all sprites as it begins, `Plot.opening` its plot;
  * `plot_proceed`: a runner goes on in the plot as in the session;
  * `Plot.Reachable` are the plots that a run can come to.
-/
import SpriteScript.Proofs.Advance

namespace SpriteScript

/-- The scene and the runners of a drive. -/
structure Plot where
  scene : Scene
  runners : List (Option ScriptRunner)

/-- The plot of a drive. -/
def Drive.plot {σ : Type} (d : Drive σ ScriptRunner) : Plot := ⟨d.session.scene, d.runners⟩

/-- Ends the block whose time is over, or fills the queue at the first wakeup. -/
def Scene.settleBusy (cfg : Settings) (r : ScriptRunner) (c : Scene) : Scene :=
  match r.busy with
  | some _ => c.collide
  | none => c.seed cfg r.sprite

namespace Plot

/-- Whether all runners are done. -/
def isOver (p : Plot) : Bool := p.runners.all Option.isNone

theorem isOver_plot {σ : Type} (d : Drive σ ScriptRunner) : d.plot.isOver = d.isOver := rfl

/-- Time passes. -/
def wait (t : Nat) (p : Plot) : Plot := { p with scene.now := t }

/-- The runner at a place starts the next block of its sprite, or is done if there is none or a
stop is heeded. -/
def proceed (cfg : Settings) (stopped : Bool) (i : Nat) (r : ScriptRunner) (c : Scene)
    (runners : List (Option ScriptRunner)) : Plot :=
  match if stopped then none else c.pop? r.sprite with
  | none => ⟨c.finish r.sprite, runners.set i none⟩
  | some (b, c) =>
    ⟨(c.start cfg r.sprite b).schedule (b.delay cfg) i, runners.set i (some { r with busy := some b })⟩

/-- The runner whose wakeup comes first is woken. -/
def wake (cfg : Settings) (stopped : Bool) (p : Plot) : Plot :=
  match p.scene.wakeups with
  | [] => p
  | ⟨_, .alarm ..⟩ :: _ => p
  | ⟨due, .runner i⟩ :: rest =>
    let c := { p.scene with now := due, wakeups := rest }
    match p.runners[i]?.join with
    | none => { p with scene := c }
    | some r => proceed cfg stopped i r (c.settleBusy cfg r) p.runners

/-- How a plot goes on; the truth value is whether a stop was heeded. -/
inductive Next (cfg : Settings) (p : Plot) : Bool → Plot → Prop where
  | wait (t : Nat) : p.scene.now ≤ t → Next cfg p false (p.wait t)
  | wake (stopped : Bool) : Next cfg p stopped (p.wake cfg stopped)

/-- The plot of all sprites as it begins. -/
def opening (sprites : List Sprite) : Plot where
  scene :=
    { bodies := sprites.map Sprite.calm
      wakeups := (List.range sprites.length).map fun i => ⟨0, .runner i⟩ }
  runners := (List.range sprites.length).map fun i => some { sprite := i }

/-- The plots that a run of some sprites can come to. -/
inductive Reachable (cfg : Settings) (sprites : List Sprite) : Plot → Prop where
  | opening : Reachable cfg sprites (opening sprites)
  | next {p p' : Plot} {stopped : Bool} : Reachable cfg sprites p → p.isOver = false →
      Next cfg p stopped p' → Reachable cfg sprites p'

end Plot

/-- The drive of all sprites as it begins. -/
def Drive.opening {σ : Type} (cfg : Settings) (sprites : List Sprite) (watcher : σ)
    (stopping : Bool) : Drive σ ScriptRunner :=
  let s := (Session.begin sprites watcher stopping).reach (.runStarted sprites.length cfg.clock)
  .begin s s.scriptRunners

/-! ## Collision passes -/

namespace Scene

theorem compare_frame (c : Scene) (p : Sprite × Sprite) :
    (c.compare p).bodies = c.bodies ∧ (c.compare p).wakeups = c.wakeups ∧
      (c.compare p).now = c.now ∧ (c.compare p).beats = c.beats ∧
        (c.compare p).started = c.started := by
  unfold compare
  split
  · exact ⟨rfl, rfl, rfl, rfl, rfl⟩
  · exact ⟨rfl, rfl, rfl, rfl, rfl⟩

/-- **What is left by comparing any two bodies is left by a collision pass.** -/
theorem collide_induction {motive : Scene → Prop} {c : Scene} (start : motive c)
    (compare : ∀ d, motive d → ∀ p ∈ pairsOf c.bodies, motive (d.compare p)) : motive c.collide :=
  List.foldlRecOn _ _ start compare

variable (cfg : Settings) (r : ScriptRunner) (c : Scene)

theorem collide_frame :
    c.collide.bodies = c.bodies ∧ c.collide.wakeups = c.wakeups ∧ c.collide.now = c.now ∧
      c.collide.beats = c.beats ∧ c.collide.started = c.started := by
  refine collide_induction (motive := fun d => d.bodies = c.bodies ∧ d.wakeups = c.wakeups ∧
    d.now = c.now ∧ d.beats = c.beats ∧ d.started = c.started) ⟨rfl, rfl, rfl, rfl, rfl⟩ ?_
  rintro d ⟨h₁, h₂, h₃, h₄, h₅⟩ p -
  obtain ⟨g₁, g₂, g₃, g₄, g₅⟩ := compare_frame d p
  exact ⟨g₁.trans h₁, g₂.trans h₂, g₃.trans h₃, g₄.trans h₄, g₅.trans h₅⟩

@[simp] theorem bodies_collide : c.collide.bodies = c.bodies := (collide_frame c).1

theorem settleBusy_frame :
    (c.settleBusy cfg r).bodies = c.bodies ∧ (c.settleBusy cfg r).wakeups = c.wakeups ∧
      (c.settleBusy cfg r).now = c.now ∧ (c.settleBusy cfg r).beats = c.beats ∧
        (c.settleBusy cfg r).started = c.started := by
  unfold settleBusy
  split
  · exact collide_frame c
  · unfold seed
    split <;> exact ⟨rfl, rfl, rfl, rfl, rfl⟩

end Scene

/-! ## Wakeups of runners -/

namespace ScriptRunner

variable {σ : Type} (o : Observer σ) (cfg : Settings) (r : ScriptRunner) (s : Session σ)

theorem scene_settleBusy : (r.settleBusy o cfg s).scene = s.scene.settleBusy cfg r := by
  obtain ⟨i, busy⟩ := r
  cases busy with
  | none => exact s.scene_seed cfg i
  | some b => exact s.scene_complete o cfg i b

/-- What ends a block leaves three wakeups for each collision. -/
theorem advance_settleBusy : ∃ n, s.Advance o (3 * n) (r.settleBusy o cfg s) ∧
    (s.scene.settleBusy cfg r).encounters.length = s.scene.encounters.length + n := by
  obtain ⟨i, busy⟩ := r
  cases busy with
  | none =>
    refine ⟨0, s.advance_seed o cfg i, ?_⟩
    simp only [Scene.settleBusy, Scene.seed]
    split <;> rfl
  | some b => exact s.advance_complete o cfg i b

/-- The session and the runners after the runner at a place has been woken. -/
def settled (i : Nat) (runners : List (Option ScriptRunner)) :
    Session σ × Option (Nat × ScriptRunner) → Session σ × List (Option ScriptRunner)
  | (s, none) => (s, runners.set i none)
  | (s, some (delay, r)) =>
    ({ s with timeline := s.timeline.schedule delay (.runner i) }, runners.set i (some r))

theorem scene_schedule (h : s.timeline.InOrder) (delay i : Nat) :
    ({ s with timeline := s.timeline.schedule delay (.runner i) } : Session σ).scene =
      s.scene.schedule delay i :=
  congrArg (fun l => { s.scene with wakeups := l })
    (filter_insertWakeup_of_pos rfl h.ascending)

theorem advance_schedule (delay i : Nat) :
    s.Advance o 1 { s with timeline := s.timeline.schedule delay (.runner i) } where
  inOrder h := h.schedule _ _
  stopping := id
  pending := Nat.le_of_eq (length_insertWakeup _ _)
  journal := List.suffix_refl _
  heard _ := id

/-- **A runner goes on in the plot as in the session.** -/
theorem plot_proceed (h : s.timeline.InOrder) (hi : r.sprite < s.sprites.length) (i : Nat)
    (runners : List (Option ScriptRunner)) :
    let next := settled i runners (r.proceed o cfg s)
    Plot.mk next.1.scene next.2 = Plot.proceed cfg s.stopping i r s.scene runners := by
  unfold proceed Plot.proceed
  cases s.stopping with
  | true => simp only [if_true, settled]; rw [Session.scene_finish o s hi]
  | false =>
    simp only [Bool.false_eq_true, if_false, ← s.scene_pop? r.sprite]
    cases hp : s.pop? r.sprite with
    | none => simp only [settled, Option.map_none]; rw [Session.scene_finish o s hi]
    | some bs =>
      obtain ⟨b, t⟩ := bs
      have ht := s.advance_pop? o hp
      have hlen : r.sprite < t.sprites.length := by
        obtain ⟨queues, rfl⟩ := s.eq_of_pop? hp
        exact hi
      simp only [settled, Option.map_some]
      rw [scene_schedule _ ((t.advance_start o cfg r.sprite b).inOrder (ht.inOrder h)),
        Session.scene_start o cfg t hlen]

end ScriptRunner

end SpriteScript
