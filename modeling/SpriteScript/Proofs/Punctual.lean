/-
  Time, and what an observer is told of it.

  A session enters everything in the journal with the instant at which it happens. The observer is
  told of the time by the clock only, so this is the instant that the clock told last.

  * `Journal.tick` is the instant that the clock told last;
  * `Journal.Punctual`: all that happens does so at that instant, and the clock only tells of a
    later one;
  * `Session.Moment`: time stands still, and the clock tells nothing. `moment_ring`,
    `moment_collide`, `moment_start`, `moment_finish`, `moment_settle`: whatever a session does, it
    does so in a moment;
  * `Ticks.punctual`: **when time moves on, the clock tells of it**;
  * `Player.runAll_punctual`: **the journal of a run is punctual until its end**.
-/
import SpriteScript.Proofs.Stopping

namespace SpriteScript

/-! ## Punctual journals -/

/-- Whether an entry is what the clock told. -/
def Entry.isClock (e : Entry) : Bool :=
  match e.happening with
  | .told (.clock _) => true
  | _ => false

namespace Journal

/-- The instant that the clock told last; 0 before that. -/
def tick (j : Journal) : Nat := j.ticks.getLast?.getD 0

/-- An entry fits the time: the clock tells of the instant, which is later than the one it told
last, and all else happens at the instant that it told last. -/
def Timely (e : Entry) (earlier : Journal) : Prop :=
  match e.happening with
  | .told (.clock now) => now = e.time ∧ earlier.tick < now
  | _ => e.time = earlier.tick

/-- All entries fit the time. -/
def Punctual (j : Journal) : Prop := j.Each Timely

theorem tick_clock (t now : Nat) (j : Journal) : tick (⟨t, .told (.clock now)⟩ :: j) = now := by
  simp [tick, ticks]

variable {e : Entry} {j : Journal}

theorem tick_cons (h : e.isClock = false) : tick (e :: j) = j.tick := by
  obtain ⟨t, happening⟩ := e
  cases happening with
  | reached m => simp [tick, ticks]
  | told n => cases n <;> simp [tick, ticks, Entry.isClock] at h ⊢

theorem timely_of_not (h : e.isClock = false) : Timely e j ↔ e.time = j.tick := by
  obtain ⟨t, happening⟩ := e
  cases happening with
  | reached m => rfl
  | told n => cases n <;> first | rfl | simp [Entry.isClock] at h

/-- All that happens while time stands still fits the time. -/
theorem Punctual.append {later earlier : Journal} (h : earlier.Punctual)
    (hlater : ∀ e ∈ later, e.time = earlier.tick ∧ e.isClock = false) :
    Punctual (later ++ earlier) ∧ tick (later ++ earlier) = earlier.tick := by
  induction later with
  | nil => exact ⟨h, rfl⟩
  | cons e later ih =>
    obtain ⟨htime, hclock⟩ := hlater e List.mem_cons_self
    obtain ⟨hpunctual, htick⟩ := ih fun e he => hlater e (List.mem_cons_of_mem _ he)
    exact ⟨⟨(timely_of_not hclock).mpr (htime.trans htick.symm), hpunctual⟩,
      (tick_cons hclock).trans htick⟩

end Journal

/-! ## Moments -/

namespace Session

variable {σ : Type}

/-- What leads from `s` to `s'` happens while time stands still, and the clock tells nothing. -/
structure Moment (s s' : Session σ) : Prop where
  now : s'.now = s.now
  journal : ∃ later, s'.journal = later ++ s.journal ∧
    ∀ e ∈ later, e.time = s.now ∧ e.isClock = false

theorem Moment.trans {s s' s'' : Session σ} (h : s.Moment s') (h' : s'.Moment s'') :
    s.Moment s'' := by
  obtain ⟨hnow, later, hjournal, hlater⟩ := h
  obtain ⟨hnow', later', hjournal', hlater'⟩ := h'
  refine ⟨hnow'.trans hnow, later' ++ later, by rw [hjournal', hjournal, List.append_assoc], ?_⟩
  intro e he
  rcases List.mem_append.mp he with he | he
  · exact hnow ▸ hlater' e he
  · exact hlater e he

theorem Moment.of_eq {s s' : Session σ} (hnow : s'.now = s.now)
    (hjournal : s'.journal = s.journal) : s.Moment s' := ⟨hnow, [], hjournal, by simp⟩

variable (o : Observer σ) (cfg : Settings) (s : Session σ)

theorem Moment.refl : s.Moment s := .of_eq rfl rfl

variable {s} in
/-- What goes before does not matter if it leaves time and the journal as they are. -/
theorem Moment.congr {t u : Session σ} (h : t.Moment u) (hnow : t.now = s.now)
    (hjournal : t.journal = s.journal) : s.Moment u := (Moment.of_eq hnow hjournal).trans h

theorem moment_foldl {α : Type} (g : Session σ → α → Session σ)
    (h : ∀ (s : Session σ) (a : α), s.Moment (g s a))
    (l : List α) : s.Moment (l.foldl g s) := by
  induction l generalizing s with
  | nil => exact .refl s
  | cons a l ih => exact (h s a).trans (ih _)

theorem moment_reach (m : Milestone) : s.Moment (s.reach m) :=
  ⟨rfl, [_], rfl, List.forall_mem_singleton.mpr ⟨rfl, rfl⟩⟩

theorem moment_tell {n : Notice} (hn : n.topic ≠ .clock) : s.Moment (s.tell o n) := by
  refine ⟨rfl, [_], rfl, List.forall_mem_singleton.mpr ⟨rfl, ?_⟩⟩
  cases n with
  | clock => exact absurd rfl hn
  | update | speech | collision | banner => rfl

theorem moment_tellOf (i : Nat) {n : Sprite → Notice} (hn : ∀ x, (n x).topic ≠ .clock) :
    s.Moment (s.tellOf o i n) := by
  unfold tellOf
  split
  · exact s.moment_tell o (hn _)
  · exact .refl s

theorem moment_update (i : Nat) : s.Moment (s.update o i) :=
  s.moment_tellOf o i (by simp [Notice.topic])

theorem moment_speech (i : Nat) (kind : SpeechKind) (text : String) (ms : Nat) :
    s.Moment (s.tellOf o i (.speech kind · text ms)) :=
  s.moment_tellOf o i (by simp [Notice.topic])

theorem moment_banner (text : Option String) : s.Moment (s.tell o (.banner text)) :=
  s.moment_tell o (by simp [Notice.topic])

theorem moment_reachOf (i : Nat) (m : String → Milestone) : s.Moment (s.reachOf i m) := by
  unfold reachOf
  split
  · exact s.moment_reach _
  · exact .refl s

/-! ### Alarms and collisions -/

theorem moment_ring (key : AlarmKey) (number : Nat) : s.Moment (s.ring o key number) := by
  unfold ring
  split
  · exact .refl s
  · next alarms _ =>
    cases key with
    | flash i =>
      have hdark := moment_update o (modifySprite i (·.withFlash false) { s with alarms }) i
      exact hdark.congr rfl rfl
    | banner =>
      exact (moment_banner o { s with alarms, banner := none } none).congr rfl rfl

theorem moment_schedule (delay : Nat) (task : Task) :
    s.Moment { s with timeline := s.timeline.schedule delay task } := .of_eq rfl rfl

theorem moment_cancelAlarms : s.Moment s.cancelAlarms := by
  unfold cancelAlarms
  split
  · exact .refl s
  · exact .of_eq rfl rfl

theorem moment_heedStop : s.Moment s.heedStop := by
  unfold heedStop
  split
  · refine Moment.trans ?_ (moment_cancelAlarms _)
    split
    · exact .refl s
    · exact (moment_reach { s with stopNoted := true } _).congr rfl rfl
  · exact .refl s

theorem moment_tellEncounter (e : Encounter) : s.Moment (s.tellEncounter o e) := by
  have hupdate (t : Session σ) (x : Sprite) : t.Moment (t.tell o (.update x)) :=
    t.moment_tell o (by simp [Notice.topic])
  exact ((hupdate s e.a).trans (hupdate _ e.b)).trans (moment_tell o _ (by simp [Notice.topic]))

theorem moment_noteStranded (i : Nat) (x : Sprite) : s.Moment (s.noteStranded i x) := by
  unfold noteStranded
  dsimp only
  split
  · exact s.moment_reach _
  · exact .refl s

theorem moment_followEncounter (e : Encounter) : s.Moment (s.followEncounter o cfg e) := by
  unfold followEncounter
  refine Moment.trans ?_ (moment_noteStranded _ _ _)
  refine Moment.trans ?_ (moment_noteStranded _ _ _)
  have hswap := s.moment_reach (.collisionSwap e.a.name e.b.name
    (s.stage.queues.get e.a.id).length (s.stage.queues.get e.b.id).length)
  have hbanner (t : Session σ) (names : List (String × String)) (text : String) : t.Moment
      (Session.tell o (.banner (some text)) { t with collisions := names }) :=
    (moment_banner o { t with collisions := names } _).congr rfl rfl
  exact (hswap.trans (hbanner _ _ _)).trans (.of_eq rfl rfl)

theorem moment_collide : s.Moment (s.collide o cfg) := by
  have hstage : s.Moment { s with stage := s.stage.collide.1 } := .of_eq rfl rfl
  exact (hstage.trans (moment_foldl _ _ (moment_tellEncounter o) _)).trans
    (moment_foldl _ _ (moment_followEncounter o cfg) _)

/-! ### Blocks -/

theorem moment_start (i : Nat) (b : Block) : s.Moment (s.start o cfg i b) := by
  have hmodify (t : Session σ) (g : Sprite → Sprite) : t.Moment (t.modifySprite i g) :=
    .of_eq rfl rfl
  have hcount : s.Moment { s with started := s.started + 1 } := .of_eq rfl rfl
  have hmoved := (((hcount.trans (hmodify _ (·.animate (some b.kind)))).trans
    (moment_reachOf _ i (.blockStarted i · b))).trans
      (hmodify _ fun x => { x with pose := (b.action cfg).apply x.pose })).trans
        (moment_update o _ i)
  unfold start
  dsimp only
  split
  · exact (hmoved.trans (hmodify _ _)).trans (moment_speech o _ i _ _ _)
  · exact hmoved

theorem moment_complete (i : Nat) (b : Block) : s.Moment (s.complete o cfg i b) := by
  unfold complete
  refine Moment.trans ?_ (moment_collide o cfg _)
  split
  · have hquiet : s.Moment (s.modifySprite i (·.withBubble none)) := .of_eq rfl rfl
    exact hquiet.trans (moment_speech o _ i _ _ _)
  · exact .refl s

theorem moment_seed (i : Nat) : s.Moment (s.seed cfg i) := by
  unfold seed
  split
  · exact (moment_reach { s with stage.queues := _ } _).congr rfl rfl
  · exact .refl s

theorem moment_finish (i : Nat) : s.Moment (s.finish o i) := by
  have hover : s.Moment (modifySprite i Sprite.calm
      { s with finished := i :: s.finished, alarms := s.alarms.disarm (.flash i) }) :=
    .of_eq rfl rfl
  exact (hover.trans (moment_reachOf _ i _)).trans (moment_update o _ i)

/-! ### The end of a run -/

theorem moment_settleSprite (i : Nat) : s.Moment (s.settleSprite o i) := by
  unfold settleSprite
  split
  · split
    · exact .refl s
    · exact (moment_update o (s.modifySprite i Sprite.calm) i).congr rfl rfl
  · exact .refl s

theorem moment_settle : s.Moment (s.settle o) := by
  have hsprites := s.moment_foldl _ (moment_settleSprite o) (List.range s.sprites.length)
  unfold settle
  dsimp only
  split
  · have hdown := moment_banner o { (List.range s.sprites.length).foldl (settleSprite o) s with
      banner := none } none
    exact hsprites.trans (hdown.congr rfl rfl)
  · exact hsprites

/-- A run is cleared and reported while time stands still. -/
theorem moment_close : s.Moment
    ((s.cancelAlarms.settle o).reach (.runFinished (s.cancelAlarms.settle o).report)) :=
  (s.moment_cancelAlarms.trans (moment_settle o _)).trans (moment_reach _ _)

/-! ### Punctual sessions -/

/-- The journal fits the time, and the clock told of the present instant last. -/
structure Punctual (s : Session σ) : Prop where
  journal : s.journal.Punctual
  tick : s.journal.tick = s.now

variable {s} in
/-- **Nothing happens between two instants.** -/
theorem Moment.punctual {s' : Session σ} (h : s.Moment s') (hs : s.Punctual) : s'.Punctual := by
  obtain ⟨hnow, later, hjournal, hlater⟩ := h
  have hlater' : ∀ e ∈ later, e.time = s.journal.tick ∧ e.isClock = false := by rwa [hs.tick]
  obtain ⟨hpunctual, htick⟩ := hs.journal.append hlater'
  exact ⟨hjournal ▸ hpunctual, by rw [hjournal, htick, hs.tick, hnow]⟩

end Session

/-! ## Tasks -/

theorem ScriptRunner.moment_settleBusy {σ : Type} (o : Observer σ) (cfg : Settings)
    (r : ScriptRunner) (s : Session σ) : s.Moment (r.settleBusy o cfg s) := by
  unfold settleBusy
  split
  · exact s.moment_complete o cfg _ _
  · exact s.moment_seed cfg _

namespace Drive

variable {σ : Type} {o : Observer σ} {cfg : Settings} {d t d' : Drive σ ScriptRunner}

/-- The session is punctual, and the observer was told of the present instant. -/
structure Punctual (d : Drive σ ScriptRunner) : Prop where
  session : d.session.Punctual
  tick : d.tick = d.session.now

/-- **When time moves on, the clock tells of it.** -/
theorem Ticks.punctual {due : Nat} {task : Task} {timeline : Timeline}
    (h : Ticks o due task timeline d t) (hd : d.Punctual) : t.Punctual := by
  have hnow : t.session.now = due := congrArg Scene.now h.scene
  have hahead : d.session.now ≤ due := h.ahead
  rw [h.told, now_tellTime] at hnow
  rw [h.told]
  unfold tellTime
  dsimp only
  split
  · next hsame =>
    have hstill : d.session.now = Session.now { d.session with timeline } :=
      hd.tick.symm.trans hsame.symm
    exact ⟨⟨hd.session.journal, hd.session.tick.trans hstill⟩, hd.tick.trans hstill⟩
  · next hmoved =>
    refine ⟨⟨⟨⟨rfl, ?_⟩, hd.session.journal⟩, Journal.tick_clock _ _ _⟩, rfl⟩
    rw [hd.session.tick, hnow]
    rw [hnow, hd.tick] at hmoved
    omega

/-- A task is over at the instant at which it begins. -/
theorem Does.punctual (h : Does o cfg d d') (hd : d.Punctual) : d'.Punctual := by
  have hkeeps {t d' : Drive σ ScriptRunner} (ht : t.Punctual)
      (hmoment : t.session.Moment d'.session) (htick : d'.tick = t.tick) : d'.Punctual :=
    ⟨hmoment.punctual ht.session, htick.trans (ht.tick.trans hmoment.now.symm)⟩
  cases h with
  | @alarm due number key timeline t hticks =>
    exact hkeeps (hticks.punctual hd)
      ((t.session.moment_ring o key number).trans (Session.moment_heedStop _)) rfl
  | @finish t i r s hwoken hpop =>
    obtain ⟨timeline, hticks⟩ := hwoken.ticks
    have hsettled : t.session.Moment s := hwoken.found ▸ r.moment_settleBusy o cfg t.session
    exact hkeeps (hticks.punctual hd)
      ((hsettled.trans (s.moment_finish o i)).trans (Session.moment_heedStop _)) rfl
  | @start t i r b s s' hwoken hstop hpop =>
    obtain ⟨timeline, hticks⟩ := hwoken.ticks
    obtain ⟨queues, rfl⟩ := s.eq_of_pop? hpop
    have hsettled : t.session.Moment s := hwoken.found ▸ r.moment_settleBusy o cfg t.session
    have hstarted := Session.moment_start o cfg { s with stage.queues := queues } i b
    have hscheduled := hstarted.trans (Session.moment_schedule _ (b.delay cfg) (.runner i))
    exact hkeeps (hticks.punctual hd) ((hsettled.trans (hscheduled.congr rfl rfl)).trans
      (Session.moment_heedStop _)) rfl

variable (o cfg) (sprites : List Sprite) (watcher : σ) (stopping : Bool)

theorem punctual_opening : (Drive.opening cfg sprites watcher stopping).Punctual where
  session := by
    rw [session_opening]
    exact ⟨⟨rfl, trivial⟩, rfl⟩
  tick := by
    rw [session_opening]
    rfl

/-- **After any number of tasks the observer has been told the time.** -/
theorem punctual_after (n : Nat) :
    ((Drive.opening cfg sprites watcher stopping).after o cfg n).Punctual := by
  refine runs_induction o cfg sprites watcher stopping
    (punctual_opening cfg sprites watcher stopping) ?_ n
  intro d d' hruns hstep hd
  exact (hruns.does hstep).punctual hd

end Drive

/-- **The journal of a run is punctual until its end.** -/
theorem Session.punctual_runAll {σ : Type} (o : Observer σ) (cfg : Settings) (sprites : List Sprite)
    (watcher : σ) (stopping : Bool) :
    let run := (Session.begin sprites watcher stopping).runAll o cfg
    run.2.journal.Punctual ∧ run.2.journal.tick = run.1.elapsed := by
  have hlast := (Drive.punctual_after o cfg sprites watcher stopping
    ((Drive.opening cfg sprites watcher stopping).budget cfg)).session
  simp only [runAll_eq]
  rw [← Drive.last] at hlast
  generalize ((Drive.opening cfg sprites watcher stopping).last o cfg).session = s at *
  obtain ⟨hjournal, htick⟩ := (moment_close o s).punctual hlast
  exact ⟨hjournal, htick⟩

/-- **An observer hears what the journal tells, and the journal is punctual.** -/
theorem Player.runAll_punctual {σ : Type} (p : Player) (o : Observer σ) (sprites : List Sprite)
    (watcher : σ) : let outcome := (p.runAll o sprites watcher).2
    outcome.watcher = outcome.journal.notices.foldl (fun w n => (o.hear w n).1) watcher ∧
      outcome.journal.Punctual ∧ outcome.journal.tick = outcome.report.elapsed := by
  have hheard := (Session.stopped_runAll o p.settings (sprites.map Sprite.working) watcher
    p.stopRequested).1.heard
  have hpunctual := Session.punctual_runAll o p.settings (sprites.map Sprite.working) watcher
    p.stopRequested
  simp only [runAll_eq]
  generalize (Session.begin (sprites.map Sprite.working) watcher p.stopRequested).runAll o
    p.settings = run at *
  exact ⟨hheard, hpunctual⟩

end SpriteScript
