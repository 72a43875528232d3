/-
  What sprites showed before a run does not show in it.

  A run works on copies of the sprites. The copies have no bubbles and do not flash, but they have
  kept their animations. Each runner changes the animation of its sprite when it is woken first, and
  all runners are woken once before anything else happens, so nobody gets to see what was there.

  * `AlikeBut fresh l m`: two casts of sprites are the same but for the animations at the places
    `fresh`; `Session.AlikeBut` and `Drive.AlikeBut` are sessions and drives with such casts;
  * `Drive.FirstRound`: the runners at the places `fresh` are the next ones to be woken, each for
    the first time;
  * `FirstRound.allWoken_after`: **when the first round is over, all runners have been woken**;
  * `AlikeBut.wake`: **a runner that is woken first makes its sprite the same**, and
    `AlikeBut.after_eq`: after the first round two such drives are one;
  * `runAll_of_calm_eq`: **runs of sprites that differ in what is transient are the same**.
-/
import SpriteScript.Proofs.Stopping
import SpriteScript.Run.Recorder

namespace SpriteScript

/-! ## Casts -/

/-- What does not depend on its animation is the same of a sprite and of the sprite without it. -/
theorem Sprite.eq_of_animate {α : Type} (f : Sprite → α) (hf : ∀ x, f (x.animate none) = f x)
    {x y : Sprite} (h : y.animate none = x.animate none) : f y = f x :=
  (hf y).symm.trans ((congrArg f h).trans (hf x))

/-- Two casts of sprites that are the same but for the animations at some places. -/
structure AlikeBut (fresh : List Nat) (l m : List Sprite) : Prop where
  still : l.map (·.animate none) = m.map (·.animate none)
  same : ∀ i, i ∉ fresh → l[i]? = m[i]?

namespace AlikeBut

variable {fresh : List Nat} {l m : List Sprite} {i : Nat}

theorem length (h : AlikeBut fresh l m) : l.length = m.length := by
  simpa using congrArg List.length h.still

/-- Without their animations, they differ at none but the places that there are. -/
theorem of_still (hstill : l.map (·.animate none) = m.map (·.animate none)) :
    AlikeBut (List.range m.length) l m where
  still := hstill
  same i hi := by
    have hlength : l.length = m.length := by simpa using congrArg List.length hstill
    rw [List.mem_range, Nat.not_lt] at hi
    rw [List.getElem?_eq_none (hlength ▸ hi), List.getElem?_eq_none hi]

theorem eq_of_nil (h : AlikeBut [] l m) : l = m := by
  ext1 i
  exact h.same i List.not_mem_nil

theorem getElem? (h : AlikeBut fresh l m) {x : Sprite} (hx : m[i]? = some x) :
    ∃ y, l[i]? = some y ∧ y.animate none = x.animate none := by
  have hstill := congrArg (·[i]?) h.still
  simp only [List.getElem?_map, hx, Option.map_some] at hstill
  exact Option.map_eq_some_iff.mp hstill

theorem getElem?_eq_none (h : AlikeBut fresh l m) (hm : m[i]? = none) : l[i]? = none := by
  rw [List.getElem?_eq_none_iff] at hm ⊢
  exact h.length ▸ hm

theorem map_eq (h : AlikeBut fresh l m) {α : Type} (f : Sprite → α)
    (hf : ∀ x, f (x.animate none) = f x) : l.map f = m.map f := by
  have hstill := congrArg (List.map f) h.still
  simpa only [List.map_map, Function.comp_def, hf] using hstill

/-- When both have the same sprite at a place, nothing is left to differ there. -/
theorem set (h : AlikeBut (i :: fresh) l m) (x : Sprite) :
    AlikeBut fresh (l.set i x) (m.set i x) where
  still := by rw [List.map_set, List.map_set, h.still]
  same j hj := by
    rw [List.getElem?_set, List.getElem?_set, h.length]
    split
    · rfl
    · next hij => exact h.same j (by simp [hj, Ne.symm hij])

end AlikeBut

/-! ## Sessions -/

namespace Session

variable {σ : Type}

/-- The session with another cast of sprites. -/
def recast (l : List Sprite) (s : Session σ) : Session σ := { s with stage.sprites := l }

/-- Two sessions that are the same but for the animations at some places. -/
inductive AlikeBut (fresh : List Nat) (s : Session σ) : Session σ → Prop where
  | recast {l : List Sprite} : SpriteScript.AlikeBut fresh l s.sprites →
      AlikeBut fresh s (s.recast l)

section
variable (o : Observer σ) (cfg : Settings) {s : Session σ} {i : Nat} {x : Sprite}

theorem start_frame (hx : s.sprites[i]? = some x) (b : Block) :
    (s.start o cfg i b).timeline = s.timeline ∧
      (s.start o cfg i b).sprites.length = s.sprites.length := by
  rw [start_eq o cfg hx]
  cases b.action cfg <;> exact ⟨rfl, by simp [sprites, tell, reach, record, put]⟩

theorem finish_frame (hx : s.sprites[i]? = some x) : (s.finish o i).timeline = s.timeline ∧
    (s.finish o i).sprites.length = s.sprites.length := by
  rw [finish_eq o hx]
  exact ⟨rfl, by simp [sprites, tell, reach, record, put]⟩

end

namespace AlikeBut

variable {o : Observer σ} {cfg : Settings} {fresh : List Nat} {i : Nat} {s t : Session σ}

theorem eq_of_nil (h : s.AlikeBut [] t) : t = s := by
  cases h with
  | recast hl => rw [hl.eq_of_nil]; rfl

variable (cfg) in
/-- A queue is filled the same way. -/
theorem seed (h : s.AlikeBut fresh t) (i : Nat) :
    (s.seed cfg i).AlikeBut fresh (t.seed cfg i) := by
  cases h with
  | @recast l hl =>
    unfold Session.seed
    cases hx : s.sprites[i]? with
    | none =>
      have hnone : (s.recast l).sprites[i]? = none := hl.getElem?_eq_none hx
      rw [hnone]
      exact .recast hl
    | some x =>
      obtain ⟨y, hy, hyx⟩ := hl.getElem? hx
      have hid : y.id = x.id := Sprite.eq_of_animate Sprite.id (fun _ => rfl) hyx
      have hname : y.name = x.name := Sprite.eq_of_animate Sprite.name (fun _ => rfl) hyx
      have hplan : y.plan cfg.maxRepeat = x.plan cfg.maxRepeat :=
        Sprite.eq_of_animate (Sprite.plan cfg.maxRepeat) (fun _ => rfl) hyx
      have hrecast : (s.recast l).sprites[i]? = some y := hy
      rw [hrecast]
      simp only [RunQueues.seed, hid, hname, hplan]
      exact .recast hl

/-- The same block is taken from a queue. -/
theorem pop? (h : s.AlikeBut fresh t) (i : Nat) : (s.pop? i = none ∧ t.pop? i = none) ∨
    ∃ b s' t', s.pop? i = some (b, s') ∧ t.pop? i = some (b, t') ∧ s'.AlikeBut fresh t' := by
  cases h with
  | @recast l hl =>
    simp only [Session.pop?]
    cases hx : s.sprites[i]? with
    | none =>
      have hnone : (s.recast l).sprites[i]? = none := hl.getElem?_eq_none hx
      rw [hnone]
      exact .inl ⟨rfl, rfl⟩
    | some x =>
      obtain ⟨y, hy, hyx⟩ := hl.getElem? hx
      have hid : y.id = x.id := Sprite.eq_of_animate Sprite.id (fun _ => rfl) hyx
      have hrecast : (s.recast l).sprites[i]? = some y := hy
      have hqueues : (s.recast l).stage.queues = s.stage.queues := rfl
      simp only [hrecast, Option.bind_eq_bind, Option.bind_some, hid, hqueues]
      cases s.stage.queues.pop? x.id with
      | none => exact .inl ⟨rfl, rfl⟩
      | some bq => exact .inr ⟨bq.1, _, _, rfl, rfl, .recast hl⟩

theorem schedule (h : s.AlikeBut fresh t) (delay : Nat) (task : Task) :
    ({ s with timeline := s.timeline.schedule delay task } : Session σ).AlikeBut fresh
      { t with timeline := t.timeline.schedule delay task } := by
  cases h with
  | recast hl => exact .recast hl

/-- A sprite that starts a block shows the kind of this block, whatever it showed before. -/
theorem start (h : s.AlikeBut (i :: fresh) t) (hi : i < s.sprites.length) (b : Block) :
    (s.start o cfg i b).AlikeBut fresh (t.start o cfg i b) := by
  cases h with
  | @recast l hl =>
    have hx := List.getElem?_eq_getElem hi
    obtain ⟨y, hy, hyx⟩ := hl.getElem? hx
    have hname : y.name = s.sprites[i].name :=
      Sprite.eq_of_animate Sprite.name (fun _ => rfl) hyx
    have hstarting : y.starting cfg b = s.sprites[i].starting cfg b :=
      Sprite.eq_of_animate (Sprite.starting cfg b) (fun _ => rfl) hyx
    have hcast := hl.set (s.sprites[i].starting cfg b)
    rw [start_eq o cfg hx, start_eq o cfg (s := s.recast l) hy, hname, hstarting]
    cases b.action cfg with
    | speak kind text ms =>
      have hagain (m : List Sprite) (z w : Sprite) : (m.set i z).set i w = m.set i w :=
        List.set_set z
      refine .recast ?_
      simp only [Session.tell, Session.record, Session.reach, Session.put, Session.sprites,
        Session.recast, hagain]
      exact hl.set _
    | move | turn | goto | loop => exact .recast hcast

/-- A sprite whose part ends shows nothing, whatever it showed before. -/
theorem finish (h : s.AlikeBut (i :: fresh) t) (hi : i < s.sprites.length) :
    (s.finish o i).AlikeBut fresh (t.finish o i) := by
  cases h with
  | @recast l hl =>
    have hx := List.getElem?_eq_getElem hi
    obtain ⟨y, hy, hyx⟩ := hl.getElem? hx
    have hname : y.name = s.sprites[i].name :=
      Sprite.eq_of_animate Sprite.name (fun _ => rfl) hyx
    have hcalm : y.calm = s.sprites[i].calm :=
      Sprite.eq_of_animate Sprite.calm (fun _ => rfl) hyx
    rw [finish_eq o hx, finish_eq o (s := s.recast l) hy, hname, hcalm]
    exact .recast (hl.set _)

theorem cancelAlarms (h : s.AlikeBut fresh t) : s.cancelAlarms.AlikeBut fresh t.cancelAlarms := by
  cases h with
  | @recast l hl =>
    unfold Session.cancelAlarms
    by_cases hnone : s.alarms.pending = 0
    · rw [if_pos hnone, if_pos (show (s.recast l).alarms.pending = 0 from hnone)]
      exact .recast hl
    · rw [if_neg hnone, if_neg (show ¬ (s.recast l).alarms.pending = 0 from hnone)]
      exact .recast hl

theorem heedStop (h : s.AlikeBut fresh t) : s.heedStop.AlikeBut fresh t.heedStop := by
  cases h with
  | @recast l hl =>
    have hstopping : (s.recast l).stopping = s.stopping := rfl
    have hnoted : (s.recast l).stopNoted = s.stopNoted := rfl
    unfold Session.heedStop
    rw [hstopping, hnoted]
    split
    · refine cancelAlarms ?_
      split <;> exact .recast hl
    · exact .recast hl

end AlikeBut

end Session

/-! ## A runner that is woken first -/

namespace ScriptRunner

variable {σ : Type} (o : Observer σ) (cfg : Settings) (r : ScriptRunner) {s : Session σ}

/-- What a runner that goes on leaves as it is: only its own wakeup is new, if any. -/
theorem proceed_frame (hi : r.sprite < s.sprites.length) (runners : List (Option ScriptRunner)) :
    let next := settled r.sprite runners (r.proceed o cfg s)
    next.1.sprites.length = s.sprites.length ∧
      (∃ x, next.2 = runners.set r.sprite x ∧ ∀ r', x = some r' → r'.busy.isSome) ∧
      (next.1.timeline = s.timeline ∨
        ∃ delay, next.1.timeline = s.timeline.schedule delay (.runner r.sprite)) := by
  have hx := List.getElem?_eq_getElem hi
  obtain ⟨htimeline, hlength⟩ := s.finish_frame o hx
  unfold proceed
  split
  · exact ⟨hlength, ⟨none, rfl, by simp⟩, .inl htimeline⟩
  · split
    · exact ⟨hlength, ⟨none, rfl, by simp⟩, .inl htimeline⟩
    · next b s' hpop =>
      obtain ⟨queues, rfl⟩ := s.eq_of_pop? hpop
      obtain ⟨htimeline, hlength⟩ :=
        Session.start_frame o cfg (s := { s with stage.queues := queues }) hx b
      refine ⟨hlength, ⟨some ⟨r.sprite, some b⟩, rfl, ?_⟩, .inr ⟨b.delay cfg, ?_⟩⟩
      · intro r' hr'
        rw [← Option.some.inj hr']
        rfl
      · exact congrArg (·.schedule (b.delay cfg) (.runner r.sprite)) htimeline

theorem seed_frame (i : Nat) : (s.seed cfg i).sprites = s.sprites ∧
    (s.seed cfg i).timeline = s.timeline := by
  unfold Session.seed
  split <;> exact ⟨rfl, rfl⟩

end ScriptRunner

namespace Session.AlikeBut

variable {σ : Type} {o : Observer σ} {cfg : Settings} {fresh : List Nat} {i : Nat}
  {s t : Session σ}

theorem timeline (h : s.AlikeBut fresh t) : t.timeline = s.timeline := by
  cases h with
  | recast => rfl

theorem stopping (h : s.AlikeBut fresh t) : t.stopping = s.stopping := by
  cases h with
  | recast => rfl

variable (o cfg) in
/-- A runner goes on the same way, and its sprite is then the same. -/
theorem proceed (h : s.AlikeBut (i :: fresh) t) (hi : i < s.sprites.length)
    (busy : Option Block) (runners : List (Option ScriptRunner)) :
    let next := ScriptRunner.settled i runners (ScriptRunner.proceed o cfg ⟨i, busy⟩ s)
    let next' := ScriptRunner.settled i runners (ScriptRunner.proceed o cfg ⟨i, busy⟩ t)
    next.1.AlikeBut fresh next'.1 ∧ next'.2 = next.2 := by
  unfold ScriptRunner.proceed
  rw [h.stopping]
  split
  · exact ⟨h.finish hi, rfl⟩
  · rcases h.pop? i with ⟨hs, ht⟩ | ⟨b, s', t', hs, ht, halike⟩
    · simp only [hs, ht]
      exact ⟨h.finish hi, rfl⟩
    · have hi' : i < s'.sprites.length := by
        obtain ⟨queues, rfl⟩ := s.eq_of_pop? hs
        exact hi
      simp only [hs, ht]
      exact ⟨(halike.start hi' b).schedule _ _, rfl⟩

end Session.AlikeBut

/-! ## The first round -/

namespace Drive

variable {σ : Type} {o : Observer σ} {cfg : Settings} {fresh : List Nat} {i : Nat}
  {d e : Drive σ ScriptRunner}

/-- The next ones to be woken are the runners at some places, each for the first time. -/
structure FirstRound (fresh : List Nat) (d : Drive σ ScriptRunner) : Prop where
  queue : ∃ rest, d.session.timeline.queue = fresh.map (fun i => ⟨0, .runner i⟩) ++ rest
  runners : ∀ i ∈ fresh, d.runners[i]?.join = some ⟨i, none⟩
  places : ∀ i ∈ fresh, i < d.session.sprites.length
  nodup : fresh.Nodup

/-- Two drives that are the same but for the animations of the sprites at some places. -/
inductive AlikeBut (fresh : List Nat) (d : Drive σ ScriptRunner) : Drive σ ScriptRunner → Prop where
  | session {t : Session σ} : d.session.AlikeBut fresh t → AlikeBut fresh d { d with session := t }

theorem step_of_taken (hover : d.isOver = false) {task : Task} {t : Drive σ ScriptRunner}
    (htaken : d.taken? o = some (task, t)) : d.step o cfg =
      some { t.perform o cfg task with session := (t.perform o cfg task).session.heedStop } := by
  obtain ⟨⟨task', timeline⟩, hnext, heq⟩ := Option.map_eq_some_iff.mp htaken
  obtain ⟨rfl, rfl⟩ := Prod.mk.inj heq
  unfold step
  rw [hover, hnext]
  rfl

namespace FirstRound

theorem ongoing (h : d.FirstRound (i :: fresh)) : d.isOver = false := by
  have hr := h.runners i List.mem_cons_self
  rw [isOver, List.all_eq_false]
  refine ⟨some ⟨i, none⟩, List.mem_of_getElem? (i := i) ?_, by simp⟩
  simpa [Option.join_eq_some_iff] using hr

/-- The first of the wakeups is taken. -/
theorem taken (h : d.FirstRound (i :: fresh)) : ∃ t, d.taken? o = some (.runner i, t) ∧
    t.FirstRound fresh ∧ t.runners = d.runners ∧ t.session.sprites = d.session.sprites := by
  obtain ⟨rest, hqueue⟩ := h.queue
  have hnext : d.session.timeline.next? = some (.runner i, { d.session.timeline with
      queue := fresh.map (fun i => ⟨0, .runner i⟩) ++ rest }) := by
    simp only [Timeline.next?, hqueue, List.map_cons, List.cons_append]
    rw [if_neg (Nat.not_lt_zero _)]
  rw [taken?, hnext]
  refine ⟨_, rfl, ?_⟩
  unfold tellTime
  dsimp only
  split
  all_goals
    refine ⟨⟨⟨rest, rfl⟩, ?_, ?_, h.nodup.of_cons⟩, rfl, rfl⟩
    · intro j hj
      exact h.runners j (List.mem_cons_of_mem _ hj)
    · intro j hj
      exact h.places j (List.mem_cons_of_mem _ hj)

variable (o cfg) in
/-- A runner leaves its wakeup behind those of the others. -/
theorem wake (h : d.FirstRound fresh) (hi : i ∉ fresh) (hr : d.runners[i]?.join = some ⟨i, none⟩)
    (hlt : i < d.session.sprites.length) : (d.wake o cfg i).FirstRound fresh ∧
      ∃ x, (d.wake o cfg i).runners = d.runners.set i x ∧ ∀ r, x = some r → r.busy.isSome := by
  obtain ⟨hsprites, htimeline⟩ := ScriptRunner.seed_frame cfg (s := d.session) i
  obtain ⟨hlength, ⟨x, hrunners, hbusy⟩, hleft⟩ := ScriptRunner.proceed_frame o cfg ⟨i, none⟩
    (s := d.session.seed cfg i) (hsprites ▸ hlt) d.runners
  rw [hsprites] at hlength
  rw [htimeline] at hleft
  rw [wake_eq o cfg d hr]
  refine ⟨?_, x, hrunners, hbusy⟩
  simp only [ScriptRunner.settleBusy]
  constructor
  case queue =>
    obtain ⟨rest, hqueue⟩ := h.queue
    rcases hleft with hsame | ⟨delay, hnew⟩
    · exact ⟨rest, hsame ▸ hqueue⟩
    · refine ⟨insertWakeup ⟨SpriteScript.after d.session.timeline.now delay, .runner i⟩ rest, ?_⟩
      simp only [hnew, Timeline.schedule, hqueue]
      apply insertWakeup_append
      intro u hu
      obtain ⟨j, -, rfl⟩ := List.mem_map.mp hu
      exact Nat.zero_le _
  case runners =>
    intro j hj
    have hne : i ≠ j := fun heq => hi (heq ▸ hj)
    dsimp only at hrunners ⊢
    rw [hrunners, List.getElem?_set_ne hne]
    exact h.runners j hj
  case places =>
    intro j hj
    rw [hlength]
    exact h.places j hj
  case nodup => exact h.nodup

theorem heedStop (h : d.FirstRound fresh) :
    FirstRound fresh { d with session := d.session.heedStop } := by
  have hsprites : d.session.heedStop.sprites = d.session.sprites := by
    unfold Session.heedStop Session.cancelAlarms
    dsimp only
    split_ifs <;> rfl
  have htimeline : d.session.heedStop.timeline = d.session.timeline ∨
      d.session.heedStop.timeline = d.session.timeline.dropAlarms := by
    unfold Session.heedStop Session.cancelAlarms
    dsimp only
    split_ifs <;> first | exact .inl rfl | exact .inr rfl
  refine ⟨?_, h.runners, fun i hi => hsprites ▸ h.places i hi, h.nodup⟩
  obtain ⟨rest, hqueue⟩ := h.queue
  rcases htimeline with hsame | hdropped
  · exact ⟨rest, hsame ▸ hqueue⟩
  · refine ⟨rest.filter (·.task.isRunner), ?_⟩
    have hfresh : (fresh.map fun i => (⟨0, .runner i⟩ : Wakeup)).filter (·.task.isRunner) =
        fresh.map fun i => ⟨0, .runner i⟩ := by
      rw [List.filter_eq_self]
      intro w hw
      obtain ⟨i, -, rfl⟩ := List.mem_map.mp hw
      rfl
    simp only [hdropped, Timeline.dropAlarms, hqueue, List.filter_append, hfresh]

variable (o cfg) in
/-- A task of the first round wakes one of the runners that have not been woken yet. -/
theorem step (h : d.FirstRound (i :: fresh)) : ∃ d', d.step o cfg = some d' ∧
    d'.FirstRound fresh ∧
      ∃ x, d'.runners = d.runners.set i x ∧ ∀ r, x = some r → r.busy.isSome := by
  obtain ⟨t, htaken, hround, hrunners, hsprites⟩ := h.taken (o := o)
  have hr : t.runners[i]?.join = some ⟨i, none⟩ := hrunners ▸ h.runners i List.mem_cons_self
  have hi : i < t.session.sprites.length := hsprites ▸ h.places i List.mem_cons_self
  obtain ⟨hwake, x, hset, hbusy⟩ := hround.wake o cfg (List.nodup_cons.mp h.nodup).1 hr hi
  exact ⟨_, step_of_taken h.ongoing htaken, hwake.heedStop, x, hrunners ▸ hset, hbusy⟩

variable (o cfg) in
/-- **When the first round is over, all runners have been woken.** -/
theorem allWoken_after (h : d.FirstRound fresh)
    (hfresh : ∀ j r, d.plot.runner? j = some r → r.busy.isSome ∨ j ∈ fresh) :
    (d.after o cfg fresh.length).plot.AllWoken := by
  induction fresh generalizing d with
  | nil =>
    intro j r hr
    exact (hfresh j r hr).resolve_right List.not_mem_nil
  | cons i fresh ih =>
    obtain ⟨d', hstep, hround, x, hset, hbusy⟩ := h.step o cfg
    simp only [List.length_cons, after, hstep]
    refine ih hround ?_
    intro j r hr
    have hfirst : d.plot.runner? i = some ⟨i, none⟩ := h.runners i List.mem_cons_self
    have hplot : d'.plot = ⟨d'.session.scene, d.plot.runners.set i x⟩ := congrArg (Plot.mk _) hset
    rw [hplot, Plot.runner?_set hfirst] at hr
    split at hr
    · exact .inl (hbusy r hr)
    · next hj =>
      rcases hfresh j r hr with hwoken | hmem
      · exact .inl hwoken
      · exact .inr ((List.mem_cons.mp hmem).resolve_left (Ne.symm hj))

end FirstRound

namespace AlikeBut

theorem eq_of_nil (h : d.AlikeBut [] e) : e = d := by
  cases h with
  | session ht => rw [ht.eq_of_nil]

theorem tellTime (h : d.AlikeBut fresh e) : (d.tellTime o).AlikeBut fresh (e.tellTime o) := by
  cases h with
  | @session t ht =>
    cases ht with
    | @recast l hl =>
      unfold Drive.tellTime
      by_cases hnow : d.session.now = d.tick
      · rw [if_pos hnow, if_pos (show (d.session.recast l).now = d.tick from hnow)]
        exact .session (.recast hl)
      · rw [if_neg hnow, if_neg (show ¬ (d.session.recast l).now = d.tick from hnow)]
        exact .session (.recast hl)

theorem taken (h : d.AlikeBut fresh e) {task : Task} {t : Drive σ ScriptRunner}
    (htaken : d.taken? o = some (task, t)) :
    ∃ u, e.taken? o = some (task, u) ∧ t.AlikeBut fresh u := by
  unfold taken? at htaken ⊢
  obtain ⟨⟨task', timeline⟩, hnext, heq⟩ := Option.map_eq_some_iff.mp htaken
  obtain ⟨rfl, rfl⟩ := Prod.mk.inj heq
  cases h with
  | session ht =>
    rw [ht.timeline, hnext]
    refine ⟨_, rfl, tellTime ?_⟩
    cases ht with
    | recast hl => exact .session (.recast hl)

theorem heedStop (h : d.AlikeBut fresh e) : AlikeBut fresh
    { d with session := d.session.heedStop } { e with session := e.session.heedStop } := by
  cases h with
  | session ht => exact .session ht.heedStop

/-- **A runner that is woken first makes its sprite the same.** -/
theorem wake (h : d.AlikeBut (i :: fresh) e) (hr : d.runners[i]?.join = some ⟨i, none⟩)
    (hi : i < d.session.sprites.length) :
    (d.wake o cfg i).AlikeBut fresh (e.wake o cfg i) := by
  cases h with
  | @session t ht =>
    obtain ⟨hsprites, -⟩ := ScriptRunner.seed_frame cfg (s := d.session) i
    obtain ⟨halike, hrunners⟩ := (ht.seed cfg i).proceed o cfg (hsprites ▸ hi) none d.runners
    rw [wake_eq o cfg d hr, wake_eq o cfg { d with session := t } hr]
    simp only [ScriptRunner.settleBusy, hrunners]
    exact .session halike

variable (o cfg) in
/-- A task of the first round leaves two drives alike, and one place the fewer at which they may
differ. -/
theorem step (h : d.AlikeBut (i :: fresh) e) (hd : d.FirstRound (i :: fresh))
    {d' : Drive σ ScriptRunner} (hstep : d.step o cfg = some d') :
    ∃ e', e.step o cfg = some e' ∧ d'.AlikeBut fresh e' := by
  obtain ⟨t, htaken, -, hrunners, hsprites⟩ := hd.taken (o := o)
  obtain ⟨u, htaken', halike⟩ := h.taken htaken
  have hover : e.isOver = false := by
    cases h with
    | session => exact hd.ongoing
  have hr : t.runners[i]?.join = some ⟨i, none⟩ := hrunners ▸ hd.runners i List.mem_cons_self
  have hi : i < t.session.sprites.length := hsprites ▸ hd.places i List.mem_cons_self
  obtain rfl := Option.some.inj (hstep.symm.trans (step_of_taken hd.ongoing htaken))
  exact ⟨_, step_of_taken hover htaken', (halike.wake hr hi).heedStop⟩

/-- **After the first round two drives that were alike are one.** -/
theorem after_eq (h : d.AlikeBut fresh e) (hd : d.FirstRound fresh) {n : Nat}
    (hn : fresh.length ≤ n) : e.after o cfg n = d.after o cfg n := by
  induction fresh generalizing d e n with
  | nil => rw [h.eq_of_nil]
  | cons i fresh ih =>
    obtain ⟨n, rfl⟩ : ∃ m, n = m + 1 := Nat.exists_eq_succ_of_ne_zero (by simp at hn; omega)
    obtain ⟨d', hstep, hround, -⟩ := hd.step o cfg
    obtain ⟨e', hstep', halike⟩ := h.step o cfg hd hstep
    simp only [after, hstep, hstep']
    exact ih halike hround (Nat.le_of_succ_le_succ hn)

/-- Two drives that are alike may take as many tasks. -/
theorem budget (h : d.AlikeBut fresh e) : e.budget cfg = d.budget cfg := by
  cases h with
  | @session t ht =>
    cases ht with
    | @recast l hl =>
      have hlength : (d.session.recast l).sprites.length = d.session.sprites.length := hl.length
      have hplans := hl.map_eq (Sprite.planSize cfg.maxRepeat) fun _ => rfl
      have hsize (r : ScriptRunner) :
          Runner.size cfg (d.session.recast l).sprites r = Runner.size cfg d.session.sprites r := by
        have hplan := congrArg (·[r.sprite]?) hplans
        simp only [List.getElem?_map] at hplan
        simp only [Runner.size, ScriptRunner.size]
        cases r.busy with
        | some => rfl
        | none => exact congrArg (·.getD 0) hplan
      have hsizes (runners : List (Option ScriptRunner)) :
          Runner.sizes cfg (d.session.recast l).sprites runners =
            Runner.sizes cfg d.session.sprites runners := by
        induction runners with
        | nil => rfl
        | cons r runners ih => cases r <;> simp only [Runner.sizes, hsize, ih]
      simp only [Drive.budget, hlength, hsizes]
      rfl

variable (o cfg) in
theorem last_eq (h : d.AlikeBut fresh e) (hd : d.FirstRound fresh) : e.last o cfg = d.last o cfg := by
  obtain ⟨rest, hqueue⟩ := hd.queue
  have hlength : fresh.length ≤ d.budget cfg := by
    simp only [Drive.budget, Timeline.pending, hqueue, List.length_append, List.length_map]
    omega
  rw [last, h.budget, last]
  exact h.after_eq hd hlength

end AlikeBut

section
variable (cfg : Settings) {l m : List Sprite} (watcher : σ) (stopping : Bool)

theorem opening_eq (sprites : List Sprite) : Drive.opening cfg sprites watcher stopping =
    { session := { (Session.begin sprites watcher stopping).reach
        (.runStarted sprites.length cfg.clock) with
          timeline := { queue := (List.range sprites.length).map fun i => ⟨0, .runner i⟩ } }
      runners := (List.range sprites.length).map fun i => some { sprite := i }
      tick := 0 } := by
  have hsession := session_opening cfg sprites watcher stopping
  have hrunners := congrArg Plot.runners (plot_opening cfg sprites watcher stopping)
  exact congr (congrArg₂ Drive.mk hsession hrunners) rfl

/-- A run begins with its first round. -/
theorem firstRound_opening (sprites : List Sprite) :
    (Drive.opening cfg sprites watcher stopping).FirstRound (List.range sprites.length) := by
  rw [opening_eq]
  constructor
  case queue => exact ⟨[], (List.append_nil _).symm⟩
  case runners =>
    intro i hi
    simp [List.mem_range.mp hi]
  case places =>
    intro i hi
    exact List.mem_range.mp hi
  case nodup => exact List.nodup_range

theorem alikeBut_opening (hstill : l.map (·.animate none) = m.map (·.animate none)) :
    (Drive.opening cfg m watcher stopping).AlikeBut (List.range m.length)
      (Drive.opening cfg l watcher stopping) := by
  have hlength : l.length = m.length := by simpa using congrArg List.length hstill
  rw [opening_eq, opening_eq, hlength]
  exact .session (.recast (.of_still hstill))

end

end Drive

/-! ## The whole run -/

/-- **What sprites showed before a run does not show in it.** If the sprites of two owners are the
same but for what is transient, whatever was left over of an earlier run, then the players of both
tell the observer the same, in the same order, and leave them the same report and the same
sprites. -/
theorem Player.runAll_of_calm_eq {σ : Type} (p : Player) (o : Observer σ)
    {sprites sprites' : List Sprite} (hcalm : sprites'.map Sprite.calm = sprites.map Sprite.calm)
    (watcher : σ) : p.runAll o sprites' watcher = p.runAll o sprites watcher := by
  have hstill : (sprites'.map Sprite.working).map (·.animate none) =
      (sprites.map Sprite.working).map (·.animate none) := by
    rw [List.map_map, List.map_map]
    exact hcalm
  have hlast := (Drive.alikeBut_opening p.settings watcher p.stopRequested hstill).last_eq o
    p.settings (Drive.firstRound_opening p.settings watcher p.stopRequested _)
  have hposes (run : List Sprite) : List.zipWith Sprite.takePose sprites' run =
      List.zipWith Sprite.takePose sprites run := by
    have htake (l : List Sprite) : List.zipWith Sprite.takePose l run =
        List.zipWith (fun x finished : Sprite => { x with pose := finished.pose })
          (l.map Sprite.calm) run := by
      rw [List.zipWith_map_left]
      rfl
    rw [htake, htake, hcalm]
  simp only [runAll_eq, Session.runAll_eq, hlast, hposes]

theorem Player.runAll_of_calm_eq_catAndDog :
    let leftOver := catAndDog.map fun x =>
      { x with transient := ⟨some .say, some ⟨"Hello!", .say⟩, true⟩ }
    leftOver.map (·.transient) ≠ catAndDog.map (·.transient) ∧
      leftOver.map Sprite.calm = catAndDog.map Sprite.calm ∧
      ({} : Player).runAll Recorder.observer leftOver {} =
        ({} : Player).runAll Recorder.observer catAndDog {} := by
  have hcalm : (catAndDog.map fun x : Sprite =>
      { x with transient := ⟨some .say, some ⟨"Hello!", .say⟩, true⟩ }).map Sprite.calm =
        catAndDog.map Sprite.calm := List.map_map
  exact ⟨by decide, hcalm, runAll_of_calm_eq {} Recorder.observer hcalm {}⟩

end SpriteScript
