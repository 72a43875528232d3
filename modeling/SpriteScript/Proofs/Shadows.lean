/-
  What an observer remembers.

  A run learns of its observer only when it asks for a stop. So it makes no difference to a run what
  the observer remembers beside that.

  * `Observer.Shadows`: an observer keeps a part of the state of another one, and asks for a stop
    just when the other one does;
  * `Session.map`, `Drive.map` and `Outcome.map` replace the state of the observer;
  * `map_tell`: a shadow hears what the other one hears, and `map_collide`, `map_start`,
    `map_finish`, `map_settle`, `map_wake`, `map_step`: **each part of a run is the same for both**;
  * `Player.runAll_shadow`: **so is the whole of it**.
-/
import SpriteScript.Run.Player

namespace SpriteScript

variable {σ τ : Type}

/-- An observer keeps of the state of another one what `f` makes of it, and asks for a stop just
when the other one does. -/
def Observer.Shadows (o' : Observer τ) (f : σ → τ) (o : Observer σ) : Prop :=
  ∀ watcher n, o'.hear (f watcher) n = (f (o.hear watcher n).1, (o.hear watcher n).2)

/-! ## Sessions -/

namespace Session

/-- The session as a shadow of its observer sees it. -/
def map (f : σ → τ) (s : Session σ) : Session τ where
  stage := s.stage
  timeline := s.timeline
  alarms := s.alarms
  banner := s.banner
  watcher := f s.watcher
  stopping := s.stopping
  stopNoted := s.stopNoted
  collisions := s.collisions
  started := s.started
  finished := s.finished
  journal := s.journal

variable {o : Observer σ} {o' : Observer τ} {f : σ → τ} (s : Session σ)

@[simp] theorem stage_map : (s.map f).stage = s.stage := rfl

@[simp] theorem sprites_map : (s.map f).sprites = s.sprites := rfl

@[simp] theorem timeline_map : (s.map f).timeline = s.timeline := rfl

@[simp] theorem alarms_map : (s.map f).alarms = s.alarms := rfl

@[simp] theorem banner_map : (s.map f).banner = s.banner := rfl

@[simp] theorem stopping_map : (s.map f).stopping = s.stopping := rfl

@[simp] theorem stopNoted_map : (s.map f).stopNoted = s.stopNoted := rfl

@[simp] theorem finished_map : (s.map f).finished = s.finished := rfl

theorem map_reach (m : Milestone) : (s.reach m).map f = (s.map f).reach m := rfl

theorem map_arm (key : AlarmKey) (delay : Nat) :
    (s.map f).arm key delay = (s.arm key delay).map f := rfl

theorem map_reachOf (i : Nat) (m : String → Milestone) :
    (s.map f).reachOf i m = (s.reachOf i m).map f := by
  simp only [reachOf, sprites_map]
  split <;> rfl

theorem map_noteStranded (i : Nat) (x : Sprite) :
    (s.map f).noteStranded i x = (s.noteStranded i x).map f := by
  unfold noteStranded
  dsimp only
  rw [apply_ite (map f)]
  rfl

theorem map_cancelAlarms : (s.map f).cancelAlarms = s.cancelAlarms.map f := by
  unfold cancelAlarms
  rw [apply_ite (map f)]
  rfl

theorem map_heedStop : (s.map f).heedStop = s.heedStop.map f := by
  unfold heedStop
  dsimp only
  rw [apply_ite (map f), ← map_cancelAlarms, apply_ite (map f)]
  rfl

theorem map_seed (cfg : Settings) (i : Nat) : (s.map f).seed cfg i = (s.seed cfg i).map f := by
  simp only [seed, sprites_map, stage_map]
  split <;> rfl

theorem map_pop? (i : Nat) : (s.map f).pop? i = (s.pop? i).map fun p => (p.1, p.2.map f) := by
  simp only [pop?, sprites_map, stage_map]
  cases s.sprites[i]? with
  | none => rfl
  | some x => cases hq : s.stage.queues.pop? x.id <;> simp [hq, map]

section
variable (h : o'.Shadows f o) (cfg : Settings)
include h

/-- **A shadow hears what the observer hears.** -/
theorem map_tell (n : Notice) : (s.map f).tell o' n = (s.tell o n).map f := by
  have hhear : o'.hear (s.map f).watcher n = _ := h s.watcher n
  rw [tell, hhear]
  rfl

theorem map_tellOf (i : Nat) (n : Sprite → Notice) :
    (s.map f).tellOf o' i n = (s.tellOf o i n).map f := by
  simp only [tellOf, sprites_map]
  split
  · exact s.map_tell h _
  · rfl

theorem map_update (i : Nat) : (s.map f).update o' i = (s.update o i).map f :=
  s.map_tellOf h i .update

/-! ### Alarms and collisions -/

theorem map_ring (key : AlarmKey) (number : Nat) :
    (s.map f).ring o' key number = (s.ring o key number).map f := by
  simp only [ring, alarms_map]
  split
  · rfl
  · next alarms _ =>
    cases key with
    | flash i => exact map_update (modifySprite i (·.withFlash false) { s with alarms }) h i
    | banner => exact map_tell { s with alarms, banner := none } h (.banner none)

theorem map_tellEncounter (e : Encounter) :
    (s.map f).tellEncounter o' e = (s.tellEncounter o e).map f := by
  simp only [tellEncounter, map_tell _ h]

theorem map_followEncounter (e : Encounter) :
    (s.map f).followEncounter o' cfg e = (s.followEncounter o cfg e).map f := by
  have hbanner (t : Session σ) (names : List (String × String)) (text : String) :
      ({ Session.tell o' (.banner (some text)) { t.map f with collisions := names } with
        banner := some text } : Session τ) =
      map f { Session.tell o (.banner (some text)) { t with collisions := names } with
        banner := some text } := by
    have htell := map_tell { t with collisions := names } h (.banner (some text))
    exact congrArg (fun u : Session τ => { u with banner := some text }) htell
  unfold followEncounter
  dsimp only
  rw [← map_noteStranded, ← map_noteStranded, ← map_arm, ← map_arm, ← map_arm, ← hbanner, map_reach]
  rfl

theorem map_collide : (s.map f).collide o' cfg = (s.collide o cfg).map f := by
  have htold (t : Session σ) (es : List Encounter) : es.foldl (tellEncounter o') (t.map f) =
      (es.foldl (tellEncounter o) t).map f :=
    List.foldl_hom (map f) fun t e => t.map_tellEncounter h e
  have hfollowed (t : Session σ) (es : List Encounter) :
      es.foldl (followEncounter o' cfg) (t.map f) = (es.foldl (followEncounter o cfg) t).map f :=
    List.foldl_hom (map f) fun t e => t.map_followEncounter h cfg e
  unfold collide
  dsimp only
  rw [← hfollowed, ← htold]
  rfl

/-! ### Blocks -/

theorem map_speak (i : Nat) (kind : SpeechKind) (text : String) (ms : Nat) :
    (s.map f).speak o' i kind text ms = (s.speak o i kind text ms).map f :=
  map_tellOf (s.modifySprite i _) h i _

theorem map_start (i : Nat) (b : Block) :
    (s.map f).start o' cfg i b = (s.start o cfg i b).map f := by
  have hmoves (t : Session σ) (g g' : Sprite → Sprite) (m : String → Milestone) :
      ((((t.map f).modifySprite i g).reachOf i m).modifySprite i g').update o' i =
        ((((t.modifySprite i g).reachOf i m).modifySprite i g').update o i).map f := by
    rw [← map_update _ h]
    exact congrArg (fun t : Session τ => (t.modifySprite i g').update o' i)
      (map_reachOf (t.modifySprite i g) i m)
  have hmoved := hmoves { s with started := s.started + 1 }
  unfold start
  dsimp only
  split
  · rw [← map_speak _ h, ← hmoved]
    rfl
  · rw [← hmoved]
    rfl

theorem map_complete (i : Nat) (b : Block) :
    (s.map f).complete o' cfg i b = (s.complete o cfg i b).map f := by
  unfold complete
  dsimp only
  rw [← map_collide _ h]
  split
  · rw [← map_tellOf _ h]
    rfl
  · rfl

theorem map_finish (i : Nat) : (s.map f).finish o' i = (s.finish o i).map f := by
  unfold finish
  dsimp only
  rw [← map_update _ h, ← map_reachOf]
  rfl

/-! ### The end of a run -/

theorem map_settleSprite (i : Nat) : (s.map f).settleSprite o' i = (s.settleSprite o i).map f := by
  simp only [settleSprite, sprites_map]
  split
  · split
    · rfl
    · exact map_update (s.modifySprite i Sprite.calm) h i
  · rfl

theorem map_settle : (s.map f).settle o' = (s.settle o).map f := by
  have hsettled : (List.range s.sprites.length).foldl (settleSprite o') (s.map f) =
      ((List.range s.sprites.length).foldl (settleSprite o) s).map f :=
    List.foldl_hom (map f) fun t i => t.map_settleSprite h i
  simp only [settle, sprites_map, hsettled, banner_map]
  split
  · exact map_tell { (List.range s.sprites.length).foldl (settleSprite o) s with banner := none } h
      (.banner none)
  · rfl

end

end Session

/-! ## Runners -/

namespace ScriptRunner

variable {o : Observer σ} {o' : Observer τ} {f : σ → τ} (h : o'.Shadows f o) (cfg : Settings)
  (r : ScriptRunner) (s : Session σ)
include h

theorem map_settleBusy : r.settleBusy o' cfg (s.map f) = (r.settleBusy o cfg s).map f := by
  unfold settleBusy
  cases r.busy with
  | none => exact s.map_seed cfg r.sprite
  | some b => exact s.map_complete h cfg r.sprite b

theorem map_proceed :
    r.proceed o' cfg (s.map f) = ((r.proceed o cfg s).1.map f, (r.proceed o cfg s).2) := by
  unfold proceed
  rw [s.stopping_map, s.map_pop?, s.map_finish h]
  cases s.stopping with
  | true => rfl
  | false =>
    cases s.pop? r.sprite with
    | none => rfl
    | some next =>
      obtain ⟨b, s'⟩ := next
      exact congrArg (·, some (b.delay cfg, { r with busy := some b }))
        (s'.map_start h cfg r.sprite b)

theorem map_wake : r.wake o' cfg (s.map f) = ((r.wake o cfg s).1.map f, (r.wake o cfg s).2) := by
  rw [wake, map_settleBusy h, map_proceed h]
  rfl

end ScriptRunner

/-! ## Drives -/

namespace Drive

/-- The drive as a shadow of its observer sees it. -/
def map (f : σ → τ) (d : Drive σ ScriptRunner) : Drive τ ScriptRunner where
  session := d.session.map f
  runners := d.runners
  tick := d.tick

variable {f : σ → τ}

theorem map_begin (s : Session σ) (runners : List ScriptRunner) :
    begin (s.map f) runners = (begin s runners).map f := by
  have hscheduled : (List.range runners.length).foldl
      (fun t i => { t with timeline := t.timeline.schedule 0 (.runner i) }) (s.map f) =
      Session.map f ((List.range runners.length).foldl
        (fun t i => { t with timeline := t.timeline.schedule 0 (.runner i) }) s) :=
    List.foldl_hom (Session.map f) fun _ _ => rfl
  exact congrArg (fun t : Session τ => (⟨t, runners.map some, s.now⟩ : Drive τ ScriptRunner))
    hscheduled

variable {o : Observer σ} {o' : Observer τ} (h : o'.Shadows f o) (cfg : Settings)
  (d : Drive σ ScriptRunner)
include h

theorem map_tellTime : (d.map f).tellTime o' = (d.tellTime o).map f := by
  unfold tellTime
  dsimp only
  rw [apply_ite (map f)]
  rw [show (d.map f).session = d.session.map f from rfl, d.session.map_tell h]
  rfl

theorem map_wake (i : Nat) : (d.map f).wake o' cfg i = (d.wake o cfg i).map f := by
  unfold wake
  rw [show (d.map f).runners = d.runners from rfl]
  cases d.runners[i]?.join with
  | none => rfl
  | some r =>
    have hwake : Runner.wake o' cfg r (d.map f).session =
      ((Runner.wake o cfg r d.session).1.map f, (Runner.wake o cfg r d.session).2) :=
      r.map_wake h cfg d.session
    dsimp only
    rw [hwake]
    rcases Runner.wake o cfg r d.session with ⟨s, next⟩
    cases next <;> rfl

theorem map_perform (task : Task) :
    (d.map f).perform o' cfg task = (d.perform o cfg task).map f := by
  cases task with
  | runner i => exact d.map_wake h cfg i
  | alarm key number =>
    have hring := d.session.map_ring h key number
    exact congrArg (fun t : Session τ => (⟨t, d.runners, d.tick⟩ : Drive τ ScriptRunner)) hring

theorem map_step : (d.map f).step o' cfg = (d.step o cfg).map (map f) := by
  unfold step
  rw [show (d.map f).isOver = d.isOver from rfl,
    show (d.map f).session.timeline = d.session.timeline from rfl]
  split
  · rfl
  · cases d.session.timeline.next? with
    | none => rfl
    | some next =>
      obtain ⟨task, timeline⟩ := next
      have htold := map_tellTime h { d with session := { d.session with timeline } }
      have hperformed := map_perform h cfg
        (tellTime o { d with session := { d.session with timeline } }) task
      rw [← htold] at hperformed
      have hheeded := congrArg (fun e : Drive τ ScriptRunner => some { e with
        session := e.session.heedStop }) hperformed
      exact hheeded.trans (congrArg (fun t : Session τ => some (⟨t, _, _⟩ : Drive τ ScriptRunner))
        (Session.map_heedStop _))

theorem map_after (n : Nat) : (d.map f).after o' cfg n = (d.after o cfg n).map f := by
  induction n generalizing d with
  | zero => rfl
  | succ n ih =>
    rw [after, after, d.map_step h cfg]
    cases d.step o cfg with
    | none => rfl
    | some d' => exact ih d'

theorem map_last : (d.map f).last o' cfg = (d.last o cfg).map f := d.map_after h cfg (d.budget cfg)

end Drive

/-! ## Runs -/

/-- What a run leaves behind, as a shadow of its observer sees it. -/
def Outcome.map (f : σ → τ) (outcome : Outcome σ) : Outcome τ where
  sprites := outcome.sprites
  report := outcome.report
  watcher := f outcome.watcher
  journal := outcome.journal
  waits := outcome.waits

section
variable {o : Observer σ} {o' : Observer τ} {f : σ → τ} (h : o'.Shadows f o)
include h

theorem Session.map_runAll (cfg : Settings) (s : Session σ) :
    (s.map f).runAll o' cfg = ((s.runAll o cfg).1, (s.runAll o cfg).2.map f) := by
  have hdriven (t : Session σ) : (t.map f).drive o' cfg t.scriptRunners =
      (t.drive o cfg t.scriptRunners).map f := by
    rw [drive, drive, Drive.map_begin, Drive.map_last h]
    exact map_cancelAlarms _
  unfold runAll
  dsimp only
  rw [show (s.map f).sprites = s.sprites from rfl, ← map_reach]
  have hrunners := hdriven (s.reach (.runStarted s.sprites.length cfg.clock))
  generalize s.reach (.runStarted s.sprites.length cfg.clock) = t at hrunners ⊢
  rw [show (t.map f).scriptRunners = t.scriptRunners from rfl, hrunners, map_settle _ h]
  generalize (t.drive o cfg t.scriptRunners).settle o = u
  rfl

/-- **What an observer remembers makes no difference to a run**, as long as it does not change when
it asks for a stop. -/
theorem Player.runAll_shadow (p : Player) (sprites : List Sprite) (watcher : σ) :
    p.runAll o' sprites (f watcher) =
      ((p.runAll o sprites watcher).1, (p.runAll o sprites watcher).2.map f) := by
  have hrun := (Session.begin (sprites.map Sprite.working) watcher p.stopRequested).map_runAll h
    p.settings
  have hbegin : (Session.begin (sprites.map Sprite.working) watcher p.stopRequested).map f =
      Session.begin (sprites.map Sprite.working) (f watcher) p.stopRequested := rfl
  unfold runAll
  dsimp only
  rw [← hbegin, hrun]
  generalize (Session.begin (sprites.map Sprite.working) watcher p.stopRequested).runAll o
    p.settings = run
  rfl

end

end SpriteScript
