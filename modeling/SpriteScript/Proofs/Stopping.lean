/-
  Requests to stop.

  A request to stop may come before a run, or with any notice that the observer hears. From then on
  a run only brings to its end what has been started.

  * `Journal.Each`: what each entry of a journal says fits what came before it;
  * `Session.Recorded`: blocks are started only before a request to stop, sprites are shown where
    the blocks that they have started took them, and time does not go back;
  * `Deeds.recorded`: **deeds keep it so**;
  * `Drive.Heeds`: how a task heeds a request to stop, and `Runs.heeds`: **each task does so**;
  * `Journal.Stops`: what a run comes to from a request to stop on;
  * `runAll_stop`: **a run comes to that, wherever the request came**.
-/
import SpriteScript.Proofs.Speech
import SpriteScript.Proofs.View

namespace SpriteScript

/-! ## What started blocks come to -/

/-- Where a sprite gets to when it starts some blocks. -/
def Pose.moved (cfg : Settings) (p : Pose) (bs : List Block) : Pose :=
  bs.foldl (fun p b => (b.action cfg).apply p) p

theorem Pose.moved_append (cfg : Settings) (p : Pose) (bs : List Block) (b : Block) :
    p.moved cfg (bs ++ [b]) = (b.action cfg).apply (p.moved cfg bs) := by
  rw [moved, List.foldl_append]
  rfl

/-- When the block that a sprite started last is over; 0 if it has started none. -/
def completion (cfg : Settings) (starts : List (Nat × Block)) : Nat :=
  match starts.getLast? with
  | some (t, b) => after t (b.delay cfg)
  | none => 0

/-- A runner that does not idle is done with its blocks when the last of them is over. -/
theorem Plot.OnCourse.completion_eq {cfg : Settings} {sprites : List Sprite} {p : Plot}
    (h : p.OnCourse cfg sprites) (i : Nat) :
    completion cfg (startsOf i p.scene.beats) = endTime cfg (blocksOf i p.scene.beats) := by
  have hstarts := h.starts i
  unfold blocksOf at hstarts ⊢
  rcases List.eq_nil_or_concat (startsOf i p.scene.beats) with hnil | ⟨starts, ⟨t, b⟩, hlast⟩
  · simp [hnil, completion, endTime, totalDelay]
  · rw [hlast, List.concat_eq_append] at hstarts ⊢
    simp only [List.map_append, List.map_cons, List.map_nil, startTimes_append] at hstarts ⊢
    obtain ⟨-, ht⟩ := List.append_inj' hstarts rfl
    rw [endTime_append, ← (List.singleton_inj.mp ht)]
    simp [completion]

/-! ## Entries and what came before them -/

namespace Journal

/-- The instant of the latest entry. -/
def now : Journal → Nat
  | [] => 0
  | e :: _ => e.time

/-- Each entry has a property, given what came before it. -/
def Each (P : Entry → Journal → Prop) : Journal → Prop
  | [] => True
  | e :: earlier => P e earlier ∧ Each P earlier

theorem Each.of_append {P : Entry → Journal → Prop} {later earlier : Journal}
    (h : Each P (later ++ earlier)) : Each P earlier := by
  induction later with
  | nil => exact h
  | cons e later ih => exact ih h.2

variable (e : Entry) (j : Journal)

/-- Only the start of a block adds to the blocks that were started. -/
theorem starts_cons (h : ∀ i name b, e.happening ≠ .reached (.blockStarted i name b)) :
    (∀ i, startsOf i (beats (e :: j)) = startsOf i j.beats) ∧
      allStarts (beats (e :: j)) = allStarts j.beats := by
  rw [beats_cons]
  obtain ⟨t, happening⟩ := e
  cases happening with
  | told n => simp [Entry.beat?]
  | reached m =>
    cases m with
    | blockStarted i name b => exact absurd rfl (h i name b)
    | spriteFinished i name =>
      have hbeat : Entry.beat? ⟨t, .reached (.spriteFinished i name)⟩ = some ⟨t, i, none⟩ := rfl
      rw [hbeat]
      exact ⟨fun k => startsOf_finish i k t j.beats, allStarts_finish i t j.beats⟩
    | _ => simp [Entry.beat?]

/-- A sprite is where the blocks took it that the sprite at a place has started. -/
def Places (cfg : Settings) (sprites : List Sprite) (j : Journal) (i : Nat) (x : Sprite) : Prop :=
  ∃ t, sprites[i]? = some t ∧ x.id = t.id ∧ x.pose = t.pose.moved cfg (blocksOf i j.beats)

variable {j}

theorem Places.congr {cfg : Settings} {sprites : List Sprite} {j' : Journal} {i : Nat} {x : Sprite}
    (h : j.Places cfg sprites i x) (hstarts : startsOf i j'.beats = startsOf i j.beats) :
    j'.Places cfg sprites i x := by
  obtain ⟨t, ht, hid, hpose⟩ := h
  refine ⟨t, ht, hid, ?_⟩
  rw [hpose, blocksOf, blocksOf, hstarts]

end Journal

section
variable {σ : Type} (o : Observer σ) (cfg : Settings) (sprites : List Sprite) (watcher : σ)
  (stopping : Bool)

/-- What an entry says fits what came before it. -/
structure Entry.Fits (e : Entry) (earlier : Journal) : Prop where
  start : ∀ i name b, e.happening = .reached (.blockStarted i name b) →
    (stopping || o.asks watcher earlier.notices) = false
  shown : ∀ n, e.happening = .told n → ∀ x ∈ n.sprites, ∃ i, earlier.Places cfg sprites i x
  time : earlier.now ≤ e.time

/-- The journal of a session fits, and it says where the sprites are. -/
structure Session.Recorded (s : Session σ) : Prop where
  obeys : s.Obeys o watcher stopping
  length : s.sprites.length = sprites.length
  placed : ∀ i x, s.sprites[i]? = some x → s.journal.Places cfg sprites i x
  time : s.journal.now ≤ s.now
  each : s.journal.Each (Entry.Fits o cfg sprites watcher stopping)

end

namespace Session.Recorded

variable {σ : Type} {o : Observer σ} {cfg : Settings} {sprites : List Sprite} {watcher : σ}
  {stopping : Bool} {s s' : Session σ}

theorem congr (h : s.Recorded o cfg sprites watcher stopping) (hsprites : s'.sprites = s.sprites)
    (hwatcher : s'.watcher = s.watcher) (hstopping : s'.stopping = s.stopping)
    (hjournal : s'.journal = s.journal) (hnow : s.now ≤ s'.now) :
    s'.Recorded o cfg sprites watcher stopping where
  obeys := h.obeys.congr hwatcher hstopping hjournal
  length := by rw [hsprites, h.length]
  placed i x hx := by
    rw [hsprites] at hx
    rw [hjournal]
    exact h.placed i x hx
  time := by
    rw [hjournal]
    exact Nat.le_trans h.time hnow
  each := hjournal ▸ h.each

theorem reach (h : s.Recorded o cfg sprites watcher stopping) {m : Milestone}
    (hm : ∀ i name b, m ≠ .blockStarted i name b) :
    (s.reach m).Recorded o cfg sprites watcher stopping where
  obeys := h.obeys.reach m
  length := h.length
  placed i x hx :=
    (h.placed i x hx).congr ((Journal.starts_cons ⟨s.now, .reached m⟩ _ (by simpa using hm)).1 i)
  time := Nat.le_refl _
  each := by
    refine ⟨⟨?_, by simp, h.time⟩, h.each⟩
    intro i name b hstart
    exact absurd (Happening.reached.inj hstart) (hm i name b)

theorem tell (h : s.Recorded o cfg sprites watcher stopping) {n : Notice}
    (hn : ∀ x ∈ n.sprites, x ∈ s.sprites) :
    (s.tell o n).Recorded o cfg sprites watcher stopping where
  obeys := h.obeys.tell n
  length := h.length
  placed i x hx :=
    (h.placed i x hx).congr ((Journal.starts_cons ⟨s.now, .told n⟩ _ (by simp)).1 i)
  time := Nat.le_refl _
  each := by
    refine ⟨⟨by simp, ?_, h.time⟩, h.each⟩
    intro n' hn' x hx
    obtain rfl := Happening.told.inj hn'
    obtain ⟨i, hi⟩ := List.mem_iff_getElem?.mp (hn x hx)
    exact ⟨i, h.placed i x hi⟩

/-- What is transient does not matter. -/
theorem put (h : s.Recorded o cfg sprites watcher stopping) {i : Nat} {x x' : Sprite}
    (hx : s.sprites[i]? = some x) (hcalm : x'.calm = x.calm) :
    (s.put i x').Recorded o cfg sprites watcher stopping where
  obeys := h.obeys.put i x'
  length := (List.length_set ..).trans h.length
  placed j y hy := by
    rcases place_of_set hy with ⟨rfl, rfl⟩ | ⟨-, hold⟩
    · obtain ⟨t, ht, hid, hpose⟩ := h.placed i x hx
      exact ⟨t, ht, (Sprite.id_of_calm hcalm).trans hid,
        (congrArg Sprite.pose hcalm : x'.calm.pose = x.calm.pose).trans hpose⟩
    · exact h.placed j y hold
  time := h.time
  each := h.each

/-- **A block is started before a request to stop only, and moves its sprite.** -/
theorem start (h : s.Recorded o cfg sprites watcher stopping) (hstop : s.stopping = false) {i : Nat}
    {x : Sprite} (hx : s.sprites[i]? = some x) (b : Block) :
    ((s.put i (x.starting cfg b)).reach (.blockStarted i x.name b)).Recorded o cfg sprites watcher
      stopping where
  obeys := (h.obeys.put _ _).reach _
  length := (List.length_set ..).trans h.length
  placed j y hy := by
    have hbeats : Journal.beats (⟨s.now, .reached (.blockStarted i x.name b)⟩ :: s.journal) =
        s.journal.beats ++ [⟨s.now, i, some b⟩] := Journal.beats_cons _ _
    have hplaces : ∃ t, sprites[j]? = some t ∧ y.id = t.id ∧ y.pose =
        t.pose.moved cfg (blocksOf j (s.journal.beats ++ [⟨s.now, i, some b⟩])) := by
      rw [blocksOf_start]
      rcases place_of_set hy with ⟨rfl, rfl⟩ | ⟨hij, hold⟩
      · obtain ⟨t, ht, hid, hpose⟩ := h.placed i x hx
        refine ⟨t, ht, hid, ?_⟩
        rw [if_pos rfl, Pose.moved_append, ← hpose]
        rfl
      · obtain ⟨t, ht, hid, hpose⟩ := h.placed j y hold
        exact ⟨t, ht, hid, by rw [if_neg hij, List.append_nil]; exact hpose⟩
    rw [← hbeats] at hplaces
    exact hplaces
  time := Nat.le_refl _
  each := by
    refine ⟨⟨?_, by simp, h.time⟩, h.each⟩
    intro _ _ _ _
    exact h.obeys.stopping.symm.trans hstop

end Session.Recorded

namespace Session

variable {σ : Type} {o : Observer σ} {cfg : Settings} {sprites : List Sprite} {watcher : σ}
  {stopping : Bool} {s s' : Session σ} {us : List Utterance}

theorem Deed.recorded (h : s.Deed o cfg us s') (hs : s.Recorded o cfg sprites watcher stopping) :
    s'.Recorded o cfg sprites watcher stopping := by
  cases h with
  | unseen hsprites _ hwatcher hstopping hjournal hnow =>
    exact hs.congr hsprites hwatcher hstopping hjournal hnow
  | reach hm => exact hs.reach hm
  | clock => exact hs.tell (by simp [Notice.sprites])
  | banner => exact (hs.tell (by simp [Notice.sprites])).congr rfl rfl rfl rfl (Nat.le_refl _)
  | shift hx hcalm hn =>
    refine (hs.put hx hcalm).tell ?_
    rw [hn]
    exact List.forall_mem_singleton.mpr (List.mem_of_getElem? (getElem?_put hx _))
  | @meet e a b hne ha hb hexchange =>
    have hb' : (s.put e.i e.a).sprites[e.j]? = some b := (List.getElem?_set_ne hne).trans hb
    have hcalm : e.a.calm = a.calm ∧ e.b.calm = b.calm := by
      rw [← exchange_fst_calm a b, ← exchange_snd_calm a b, hexchange]
      exact ⟨rfl, rfl⟩
    have hfst : e.a ∈ ((s.put e.i e.a).put e.j e.b).sprites :=
      List.mem_of_getElem? ((List.getElem?_set_ne hne.symm).trans (getElem?_put ha e.a))
    have hsnd : e.b ∈ ((s.put e.i e.a).put e.j e.b).sprites :=
      List.mem_of_getElem? (getElem?_put hb' e.b)
    have hboth := (hs.put ha hcalm.1).put hb' hcalm.2
    refine ((hboth.tell ?_).tell ?_).tell ?_
    · exact List.forall_mem_singleton.mpr hfst
    · exact List.forall_mem_singleton.mpr hsnd
    · exact List.forall_mem_cons.mpr ⟨hfst, List.forall_mem_singleton.mpr hsnd⟩
  | @start i x b hstop hx =>
    refine (hs.start hstop hx b).tell ?_
    exact List.forall_mem_singleton.mpr (List.mem_of_getElem? (getElem?_put hx _))

/-- **Deeds keep the journal fitting.** -/
theorem Deeds.recorded (h : s.Deeds o cfg us s') (hs : s.Recorded o cfg sprites watcher stopping) :
    s'.Recorded o cfg sprites watcher stopping := by
  induction h with
  | refl => exact hs
  | next _ hdeed ih => exact hdeed.recorded ih

end Session

/-! ## Tasks -/

namespace Session

variable {σ : Type} (o : Observer σ) (s : Session σ)

theorem armed_cancelAlarms : s.cancelAlarms.alarms.armed = [] := by
  unfold cancelAlarms
  split
  · next hnone => exact List.length_eq_zero_iff.mp hnone
  · rfl

theorem stopping_heedStop : s.heedStop.stopping = s.stopping := by
  have hcancel (t : Session σ) : t.cancelAlarms.stopping = t.stopping := by
    unfold cancelAlarms
    split <;> rfl
  unfold heedStop
  split
  · rw [hcancel]
    split <;> rfl
  · rfl

theorem heedStop_of_not (h : s.stopping = false) : s.heedStop = s := by
  rw [heedStop, if_neg (by simp [h])]

/-- Whoever heeds a request to stop calls all alarms off. -/
theorem armed_heedStop (h : s.heedStop.stopping = true) : s.heedStop.alarms.armed = [] := by
  unfold heedStop at h ⊢
  split
  · exact armed_cancelAlarms _
  · next hstop =>
    rw [if_neg hstop] at h
    exact absurd h hstop

variable {s} in
/-- An alarm that was called off does not go off. -/
theorem ring_of_armed (h : s.alarms.armed = []) (key : AlarmKey) (number : Nat) :
    s.ring o key number = s := by
  have hfire : s.alarms.fire key number = (false, s.alarms) := by
    simp [Alarms.fire, Alarms.current?, h]
  rw [ring, hfire]

end Session

namespace Drive

variable {σ : Type} (o : Observer σ) (cfg : Settings)

/-- The next task of a drive, and the drive when the task has been taken and the observer has been
told the time. -/
def taken? (d : Drive σ ScriptRunner) : Option (Task × Drive σ ScriptRunner) :=
  d.session.timeline.next?.map fun (task, timeline) =>
    (task, ({ d with session := { d.session with timeline } } : Drive σ ScriptRunner).tellTime o)

/-- How a task heeds a request to stop. -/
inductive Heeds (d d' : Drive σ ScriptRunner) : Prop where
  /-- An alarm does not go off if a stop was asked for before its task was taken. -/
  | alarm {key : AlarmKey} {number : Nat} {t : Drive σ ScriptRunner} :
      d.taken? o = some (.alarm key number, t) →
      (d.session.stopping = true → t.session.ring o key number = t.session) →
      d' = { t with session := (t.session.ring o key number).heedStop } → Heeds d d'
  /-- A runner ends its block in any case, and is done if a stop is asked for by then. -/
  | runner {i : Nat} {r : ScriptRunner} {t : Drive σ ScriptRunner} :
      d.taken? o = some (.runner i, t) → d.runners[i]?.join = some r → r.sprite = i →
      ((r.settleBusy o cfg t.session).stopping = true → d' = { t with
        session := ((r.settleBusy o cfg t.session).finish o i).heedStop
        runners := d.runners.set i none }) → Heeds d d'

variable {o cfg} {sprites : List Sprite} {d t d' : Drive σ ScriptRunner}

theorem Ticks.taken {due : Nat} {task : Task} {timeline : Timeline}
    (h : Ticks o due task timeline d t) : d.taken? o = some (task, t) := by
  rw [taken?, h.next, h.told]
  rfl

theorem Ticks.alarms {due : Nat} {task : Task} {timeline : Timeline}
    (h : Ticks o due task timeline d t) : t.session.alarms = d.session.alarms := by
  rw [h.told]
  unfold tellTime
  dsimp only
  split <;> rfl

/-- **Each task heeds a request to stop**, if all alarms were called off at the request. -/
theorem Does.heeds (h : Does o cfg d d')
    (hcalled : d.session.stopping = true → d.session.alarms.armed = []) : Heeds o cfg d d' := by
  cases h with
  | @alarm due number key timeline t hticks =>
    refine .alarm hticks.taken ?_ rfl
    intro hstop
    exact Session.ring_of_armed o (hticks.alarms ▸ hcalled hstop) key number
  | @finish t i r s hwoken hpop =>
    obtain ⟨timeline, hticks⟩ := hwoken.ticks
    refine .runner hticks.taken hwoken.runner hwoken.sprite_eq ?_
    intro _
    rw [← hwoken.found]
  | @start t i r b s s' hwoken hstop hpop =>
    obtain ⟨timeline, hticks⟩ := hwoken.ticks
    refine .runner hticks.taken hwoken.runner hwoken.sprite_eq ?_
    intro hasked
    rw [← hwoken.found, hstop] at hasked
    simp at hasked

variable (o cfg sprites) (watcher : σ) (stopping : Bool) (n : Nat)

/-- **Between two tasks no alarm is set if a stop was asked for.** -/
theorem armed_after
    (h : ((Drive.opening cfg sprites watcher stopping).after o cfg n).session.stopping = true) :
    ((Drive.opening cfg sprites watcher stopping).after o cfg n).session.alarms.armed = [] := by
  refine runs_induction o cfg sprites watcher stopping
    (motive := fun d => d.session.stopping = true → d.session.alarms.armed = []) ?_ ?_ n h
  · intro _
    rw [session_opening]
    rfl
  · intro d d' hruns hstep _
    obtain ⟨due, task, timeline, t, -, rfl⟩ := ticks_of_step o cfg hruns.inOrder hstep
    exact Session.armed_heedStop _

theorem heeds_after {d' : Drive σ ScriptRunner}
    (hstep : ((Drive.opening cfg sprites watcher stopping).after o cfg n).step o cfg = some d') :
    Heeds o cfg ((Drive.opening cfg sprites watcher stopping).after o cfg n) d' := by
  have hruns := runs_after o cfg sprites watcher stopping n
  exact (hruns.does hstep).heeds
    (armed_after o cfg sprites watcher stopping n)

end Drive

/-! ## What a journal says after a request -/

namespace Journal

variable {σ : Type} {o : Observer σ} {cfg : Settings} {sprites : List Sprite} {watcher : σ}
  {stopping : Bool} {later earlier : Journal}

/-- **After a request to stop no block is started.** -/
theorem Each.starts_of_asks (h : Each (Entry.Fits o cfg sprites watcher stopping) (later ++ earlier))
    (hasks : (stopping || o.asks watcher earlier.notices) = true) :
    (∀ i, startsOf i (later ++ earlier).beats = startsOf i earlier.beats) ∧
      allStarts (later ++ earlier).beats = allStarts earlier.beats := by
  induction later with
  | nil => exact ⟨fun _ => rfl, rfl⟩
  | cons e later ih =>
    obtain ⟨hfits, heach⟩ := h
    obtain ⟨hstarts, hall⟩ := ih heach
    have hstill : (stopping || o.asks watcher (notices (later ++ earlier))) = true := by
      rw [notices_append, o.asks_append, ← Bool.or_assoc, hasks, Bool.true_or]
    have hnone : ∀ i name b, e.happening ≠ .reached (.blockStarted i name b) := by
      intro i name b hstart
      have hnot := hfits.start i name b hstart
      rw [List.append_eq, hstill] at hnot
      simp at hnot
    obtain ⟨hstarts', hall'⟩ := starts_cons e (later ++ earlier) hnone
    exact ⟨fun i => (hstarts' i).trans (hstarts i), hall'.trans hall⟩

/-- Time does not go back. -/
theorem Each.now_le (h : Each (Entry.Fits o cfg sprites watcher stopping) (later ++ earlier)) :
    earlier.now ≤ Journal.now (later ++ earlier) := by
  induction later with
  | nil => exact Nat.le_refl _
  | cons e later ih => exact Nat.le_trans (ih h.2) h.1.time

theorem Each.time_le (h : Each (Entry.Fits o cfg sprites watcher stopping) earlier) {e : Entry}
    (he : e ∈ earlier) : e.time ≤ earlier.now := by
  obtain ⟨late, before, rfl⟩ := List.append_of_mem he
  have hle : Journal.now (e :: before) ≤ Journal.now (late ++ e :: before) := h.now_le
  exact hle

theorem exists_of_mem_notices {n : Notice} {j : Journal} (h : n ∈ j.notices) :
    ∃ e ∈ j, e.happening = .told n := by
  obtain ⟨e, he, hn⟩ := List.mem_filterMap.mp h
  refine ⟨e, List.mem_reverse.mp he, ?_⟩
  cases hhappening : e.happening with
  | told n' =>
    rw [hhappening] at hn
    rw [Option.some.inj hn]
  | reached m => simp [hhappening] at hn

/-- **After a request to stop no sprite moves.** -/
theorem Each.shown_of_asks (h : Each (Entry.Fits o cfg sprites watcher stopping) (later ++ earlier))
    (hasks : (stopping || o.asks watcher earlier.notices) = true) {n : Notice}
    (hn : n ∈ later.notices) {x : Sprite} (hx : x ∈ n.sprites) :
    ∃ i, earlier.Places cfg sprites i x := by
  obtain ⟨e, he, htold⟩ := exists_of_mem_notices hn
  obtain ⟨late, before, rfl⟩ := List.append_of_mem he
  rw [List.append_assoc] at h
  have hfits := h.of_append
  obtain ⟨i, hplaces⟩ := hfits.1.shown n htold x hx
  have heach : Each (Entry.Fits o cfg sprites watcher stopping) (before ++ earlier) := hfits.2
  have hstarts := (heach.starts_of_asks hasks).1 i
  exact ⟨i, hplaces.congr hstarts.symm⟩

/-- What a run comes to, given its journal until some instant at which a stop was asked for and what
its journal says later. -/
structure Stops (cfg : Settings) (sprites : List Sprite) (later earlier : Journal)
    (report : Report) : Prop where
  stopped : report.stopped = true
  /-- No block is started any more. -/
  starts : ∀ i, startsOf i (later ++ earlier).beats = startsOf i earlier.beats
  blocks : report.blocks = (allStarts earlier.beats).length
  /-- No sprite moves any more. -/
  shown : ∀ n ∈ later.notices, ∀ x ∈ n.sprites, ∃ i, earlier.Places cfg sprites i x
  /-- Each runner is done when the block that it started last is over. -/
  ends : ∀ i < sprites.length,
    endsOf i (later ++ earlier).beats = [completion cfg (startsOf i earlier.beats)]
  /-- Each bubble that was opened is ended in time. -/
  bubbles : ∀ i t, sprites[i]? = some t →
    utterancesOf t.id (later ++ earlier) = bubblesOf cfg t.id (startsOf i earlier.beats)
  /-- The run is over when the blocks of all runners are that were not done by then. -/
  elapsed : report.elapsed = max earlier.now
    (((Finset.range sprites.length).filter fun i => endsOf i earlier.beats = []).sup
      fun i => completion cfg (startsOf i earlier.beats))

end Journal

/-! ## Instants -/

theorem mem_endsOf {i t : Nat} {beats : List Beat} :
    t ∈ endsOf i beats ↔ (⟨t, i, none⟩ : Beat) ∈ beats := by
  simp only [endsOf, List.mem_filterMap]
  constructor
  · rintro ⟨⟨time, place, block⟩, he, hsome⟩
    split at hsome
    · next h =>
      obtain ⟨rfl, hblock⟩ := h
      obtain rfl : block = none := by simpa using hblock
      exact Option.some.inj hsome ▸ he
    · simp at hsome
  · intro h
    exact ⟨_, h, by simp⟩

theorem Journal.exists_of_mem_beats {j : Journal} {beat : Beat} (h : beat ∈ j.beats) :
    ∃ e ∈ j, e.time = beat.time := by
  obtain ⟨e, he, hbeat⟩ := List.mem_filterMap.mp h
  refine ⟨e, List.mem_reverse.mp he, ?_⟩
  unfold Entry.beat? at hbeat
  split at hbeat
  · exact Option.some.inj hbeat ▸ rfl
  · exact Option.some.inj hbeat ▸ rfl
  · simp at hbeat

/-- A run is over when its last runner is done. -/
theorem Plot.Reachable.present {cfg : Settings} {sprites : List Sprite} {p : Plot}
    (h : p.Reachable cfg sprites) (hover : p.isOver = true) :
    (∀ i < sprites.length, endsOf i p.scene.beats = [completion cfg (startsOf i p.scene.beats)] ∧
      completion cfg (startsOf i p.scene.beats) ≤ p.scene.now) ∧
    (p.scene.now = 0 ∨ ∃ i < sprites.length,
      p.scene.now = completion cfg (startsOf i p.scene.beats)) := by
  have hcourse := h.onCourse
  have hends : ∀ i < sprites.length,
      endsOf i p.scene.beats = [completion cfg (startsOf i p.scene.beats)] := by
    intro i hi
    rw [hcourse.ends i hi, runner?_eq_none hover i, hcourse.completion_eq]
    rfl
  refine ⟨fun i hi => ⟨hends i hi, ?_⟩, ?_⟩
  · have hmem : completion cfg (startsOf i p.scene.beats) ∈ endsOf i p.scene.beats := by
      rw [hends i hi]
      exact List.mem_singleton_self _
    exact h.beaten.inTime _ (mem_endsOf.mp hmem)
  · refine (h.beaten.ended hover).imp_right ?_
    rintro ⟨i, hi⟩
    have hlt := h.beaten.inPlace _ hi
    have hmem := mem_endsOf.mpr hi
    rw [hends i hlt] at hmem
    exact ⟨i, hlt, List.mem_singleton.mp hmem⟩

section
variable {σ : Type} (o : Observer σ) (cfg : Settings) (sprites : List Sprite) (watcher : σ)
  (stopping : Bool)

theorem Session.recorded_opening : (Drive.opening cfg sprites watcher stopping).session.Recorded o
    cfg sprites watcher stopping where
  obeys := Drive.obeys_opening o cfg sprites watcher stopping
  length := by rw [sprites_opening]
  placed i x hx := by
    rw [sprites_opening] at hx
    rw [Drive.session_opening]
    exact ⟨x, hx, rfl, rfl⟩
  time := by
    rw [Drive.session_opening]
    exact Nat.le_refl _
  each := by
    rw [Drive.session_opening]
    exact ⟨⟨by simp, by simp, Nat.le_refl _⟩, trivial⟩

theorem Session.recorded_runAll : ((Session.begin sprites watcher stopping).runAll o cfg).2.Recorded
    o cfg sprites watcher stopping := by
  obtain ⟨us, hdeeds⟩ := runs_by_deeds o cfg sprites watcher stopping
  exact hdeeds.recorded (recorded_opening o cfg sprites watcher stopping)

/-- **From a request to stop on, a run only brings to its end what has been started.** -/
theorem Session.stops_runAll (hids : (sprites.map (·.id)).Nodup) (later earlier : Journal)
    (hjournal : ((Session.begin sprites watcher stopping).runAll o cfg).2.journal = later ++ earlier)
    (hasks : (stopping || o.asks watcher earlier.notices) = true) :
    Journal.Stops cfg sprites later earlier
      ((Session.begin sprites watcher stopping).runAll o cfg).1 := by
  have hrecorded := recorded_runAll o cfg sprites watcher stopping
  have hbubbles := utterancesOf_runAll o cfg sprites watcher stopping hids
  have hscene := scene_runAll o cfg sprites watcher stopping
  have hblocks := blocks_runAll o cfg sprites watcher stopping
  have helapsed := elapsed_runAll o cfg sprites watcher stopping
  have hreach := Plot.reachable_atEnd o cfg sprites watcher stopping
  have hover := Plot.isOver_atEnd o cfg sprites watcher stopping
  have hstopped := (stopped_runAll o cfg sprites watcher stopping).2
  generalize (Session.begin sprites watcher stopping).runAll o cfg = run at *
  generalize Plot.atEnd o cfg sprites watcher stopping = p at *
  have hbeats : p.scene.beats = (later ++ earlier).beats := by rw [← hscene, ← hjournal]; rfl
  have hnow : run.2.now = p.scene.now := congrArg Scene.now hscene
  have heach := hjournal ▸ hrecorded.each
  obtain ⟨hstarts, hall⟩ := heach.starts_of_asks hasks
  obtain ⟨hends, hpresent⟩ := hreach.present hover
  simp only [hbeats, hstarts] at hends hpresent hbubbles
  constructor
  case stopped =>
    rw [hstopped, hrecorded.obeys.stopping, hjournal, Journal.notices_append, o.asks_append,
      ← Bool.or_assoc, hasks, Bool.true_or]
  case starts => exact hstarts
  case blocks => rw [hblocks, hreach.onCourse.started, hbeats, hall]
  case shown => intro n hn x hx; exact heach.shown_of_asks hasks hn hx
  case ends => intro i hi; exact (hends i hi).1
  case bubbles =>
    intro i t ht
    obtain ⟨hi, rfl⟩ := List.getElem?_eq_some_iff.mp ht
    exact hjournal ▸ hbubbles ⟨i, hi⟩
  case elapsed =>
    rw [helapsed]
    apply Nat.le_antisymm
    · rcases hpresent with hzero | ⟨i, hi, heq⟩
      · omega
      · by_cases hbusy : endsOf i earlier.beats = []
        · rw [heq]
          refine Nat.le_trans ?_ (Nat.le_max_right _ _)
          exact Finset.le_sup (f := fun i => completion cfg (startsOf i earlier.beats))
            (Finset.mem_filter.mpr ⟨Finset.mem_range.mpr hi, hbusy⟩)
        · -- the runner was done before, and that is in the journal
          obtain ⟨t, ht⟩ := List.exists_mem_of_ne_nil _ hbusy
          have hlast : t ∈ endsOf i (later ++ earlier).beats := by
            rw [Journal.beats_append, endsOf, List.filterMap_append]
            exact List.mem_append_left _ ht
          rw [(hends i hi).1, ← heq] at hlast
          obtain ⟨e, he, htime⟩ := Journal.exists_of_mem_beats (mem_endsOf.mp ht)
          have hle : e.time ≤ earlier.now := heach.of_append.time_le he
          rw [htime] at hle
          rw [← List.mem_singleton.mp hlast]
          exact Nat.le_trans hle (Nat.le_max_left _ _)
    · refine Nat.max_le.mpr ⟨?_, Finset.sup_le fun i hi => ?_⟩
      · rw [← hnow]
        exact Nat.le_trans heach.now_le (hjournal ▸ hrecorded.time)
      · exact (hends i (Finset.mem_range.mp (Finset.mem_filter.mp hi).1)).2

end

/-! ## Players -/

/-- The copies of sprites are where the sprites are. -/
theorem Journal.Places.of_working {cfg : Settings} {sprites : List Sprite} {j : Journal} {i : Nat}
    {x : Sprite} (h : j.Places cfg (sprites.map Sprite.working) i x) : j.Places cfg sprites i x := by
  obtain ⟨t, ht, hid, hpose⟩ := h
  rw [List.getElem?_map] at ht
  obtain ⟨u, hu, rfl⟩ := Option.map_eq_some_iff.mp ht
  exact ⟨u, hu, hid, hpose⟩

theorem Journal.Stops.of_working {cfg : Settings} {sprites : List Sprite} {later earlier : Journal}
    {report : Report} (h : Stops cfg (sprites.map Sprite.working) later earlier report) :
    Stops cfg sprites later earlier report where
  stopped := h.stopped
  starts := h.starts
  blocks := h.blocks
  shown n hn x hx := (h.shown n hn x hx).imp fun _ => Places.of_working
  ends i hi := h.ends i (by rwa [List.length_map])
  bubbles i t ht := h.bubbles i t.working (by rw [List.getElem?_map, ht]; rfl)
  elapsed := by
    have helapsed := h.elapsed
    rwa [List.length_map] at helapsed

/-- **From a request to stop on, a run only brings to its end what has been started**, wherever the
request came. Each task that is taken later lets no alarm go off, and a runner that is woken ends
its block and is done. No block is started and no sprite moves any more, each bubble is ended in
time, and the run is over with the last of the blocks that were in progress. Sprites are left with
nothing transient, where the blocks took them that had been started, and the next run is not
stopped by the request. -/
theorem Player.runAll_stop {σ : Type} (p : Player) (o : Observer σ) (sprites : List Sprite)
    (watcher : σ) (hids : (sprites.map (·.id)).Nodup) :
    let opening := Drive.opening p.settings (sprites.map Sprite.working) watcher p.stopRequested
    let result := p.runAll o sprites watcher
    (∀ m d, (opening.after o p.settings m).step o p.settings = some d →
      (opening.after o p.settings m).Heeds o p.settings d) ∧
    (∀ later earlier, result.2.journal = later ++ earlier →
      (p.stopRequested || o.asks watcher earlier.notices) = true →
        Journal.Stops p.settings sprites later earlier result.2.report ∧
        ∀ (i : Nat) (s : Sprite), sprites[i]? = some s → result.2.sprites[i]? = some { s.calm with
          pose := s.pose.moved p.settings (blocksOf i earlier.beats) }) ∧
    result.1.stopRequested = false ∧
    ∀ sprites' watcher', (result.1.runAll o sprites' watcher').2.report.stopped =
      o.asks watcher' (result.1.runAll o sprites' watcher').2.journal.notices := by
  have hids' : ((sprites.map Sprite.working).map (·.id)).Nodup := by
    rw [List.map_map]
    exact hids
  have hheeds := Drive.heeds_after o p.settings (sprites.map Sprite.working) watcher
    p.stopRequested
  have hstops := Session.stops_runAll o p.settings (sprites.map Sprite.working) watcher
    p.stopRequested hids'
  have hrecorded := Session.recorded_runAll o p.settings (sprites.map Sprite.working) watcher
    p.stopRequested
  simp only [runAll_eq]
  generalize (Session.begin (sprites.map Sprite.working) watcher p.stopRequested).runAll o
    p.settings = run at *
  refine ⟨fun m d => hheeds m, ?_, trivial, ?_⟩
  · intro later earlier hjournal hasks
    refine ⟨(hstops later earlier hjournal hasks).of_working, ?_⟩
    intro i s hs
    have hlt : i < run.2.sprites.length := by
      rw [hrecorded.length, List.length_map]
      exact (List.getElem?_eq_some_iff.mp hs).1
    have hx := List.getElem?_eq_getElem hlt
    have hstarts := (hstops later earlier hjournal hasks).starts i
    rw [← hjournal] at hstarts
    obtain ⟨t, ht, -, hpose⟩ := (hrecorded.placed i _ hx).of_working.congr hstarts.symm
    obtain rfl := Option.some.inj (ht.symm.trans hs)
    rw [List.getElem?_zipWith, hs, hx]
    exact congrArg (fun pose => some { t.calm with pose := pose }) hpose
  · intro sprites' watcher'
    obtain ⟨hobeys, hstopped⟩ := Session.stopped_runAll o p.settings (sprites'.map Sprite.working)
      watcher' false
    rw [hstopped, hobeys.stopping, Bool.false_or]

/-- A cat that turns on top of a dog, and speaks then. -/
def catOnDog : List Sprite :=
  [{ Sprite.blank "cat" "Cat" "#FF6680" 0 0 "Script 1" with
      scripts := [⟨"Script 1", [⟨"b1", .turn, {}, []⟩,
        ⟨"b2", .say, .ofPairs [("seconds", .number 1)], []⟩]⟩] },
    Sprite.blank "dog" "Dog" "#4C97FF" 0 0 "Script 1"]

/-- Someone who asks for a stop when time moves on for the second time. -/
def Observer.secondTick : Observer (Unit × Nat) :=
  Observer.silent.stopAt (some { topic := .clock, nth := 2 })

theorem Player.runAll_stop_catOnDog :
    let outcome := (({} : Player).runAll .secondTick catOnDog ((), 0)).2
    (catOnDog.map (·.id)).Nodup ∧
      Journal.Stops {} catOnDog (outcome.journal.take 9) (outcome.journal.drop 9) outcome.report := by
  have hids : (catOnDog.map (·.id)).Nodup := by decide
  have hasks : (false || Observer.secondTick.asks ((), 0) (Journal.notices
      ((({} : Player).runAll .secondTick catOnDog ((), 0)).2.journal.drop 9))) = true := by
    decide +kernel
  obtain ⟨-, hstops, -⟩ := runAll_stop {} .secondTick catOnDog ((), 0) hids
  exact ⟨hids, (hstops _ _ (List.take_append_drop 9 _).symm hasks).1⟩

/-- **An alarm may go off although a stop was asked for**, if the request came when the observer was
told the time to which the task of that very alarm has moved it. -/
theorem Drive.ring_of_stopping : ¬ ∀ m key number t,
    ((Drive.opening {} catOnDog ((), 0) false).after .secondTick {} m).taken? .secondTick =
      some (.alarm key number, t) → t.session.stopping = true →
        t.session.ring .secondTick key number = t.session := by
  intro h
  have htask : (((Drive.opening {} catOnDog ((), 0) false).after .secondTick {} 3).taken?
      .secondTick).map Prod.fst = some (.alarm (.flash 0) 1) := by decide +kernel
  have hrings : (((Drive.opening {} catOnDog ((), 0) false).after .secondTick {} 3).taken?
      .secondTick).all (fun r => r.2.session.stopping &&
        (r.2.session.ring .secondTick (.flash 0) 1).journal.length !=
          r.2.session.journal.length) = true := by decide +kernel
  obtain ⟨⟨task, t⟩, htaken, rfl⟩ := Option.map_eq_some_iff.mp htask
  rw [htaken, Option.all_some] at hrings
  obtain ⟨hstop, hlonger⟩ := (Bool.and_eq_true _ _).mp hrings
  rw [h 3 _ _ t htaken hstop] at hlonger
  simp at hlonger

end SpriteScript
