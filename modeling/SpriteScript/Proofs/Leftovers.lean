/-
  What is left in queues when a run is over.

  A runner goes on until its queue is empty, unless a stop is asked for. But a sprite whose runner
  is done can still be met by another one, and is then left with the motion that it gets.

  * `Journal.MetAfterEnd`: a sprite has met another one after its part was over;
  * `collide_get`: a collision pass changes the queues of sprites that meet only;
  * `Drive.Spent`: the queues of all sprites whose runners are done are empty, but for those that
    met after their end, and `spent_after`: **in a run without a stop it is so all the time**;
  * `Ledger.perm`: if nothing waits, what was started is what the plans hold;
  * `runAll_leftovers`: **blocks are left only with sprites that met after their end**.
-/
import Mathlib.Data.List.Perm.Basic
import SpriteScript.Proofs.Conservation
import SpriteScript.Proofs.Elapsed
import SpriteScript.Proofs.Quiet
import SpriteScript.Proofs.Tasks

namespace SpriteScript

/-! ## Sorting by places -/

/-- What is sorted by keys is all there. -/
theorem perm_flatMap_filter {α κ : Type} [DecidableEq κ] (key : α → κ) {keys : List κ}
    (hkeys : keys.Nodup) (l : List α) :
    (keys.flatMap fun k => l.filter (key · = k)).Perm (l.filter (key · ∈ keys)) := by
  induction keys with
  | nil => simp
  | cons k keys ih =>
    obtain ⟨hk, hrest⟩ := List.nodup_cons.mp hkeys
    have hfirst : (l.filter (key · ∈ k :: keys)).filter (key · = k) = l.filter (key · = k) := by
      rw [List.filter_filter]
      apply List.filter_congr
      intro a _
      by_cases ha : key a = k <;> simp [ha]
    have hothers : (l.filter (key · ∈ k :: keys)).filter (fun a => !decide (key a = k)) =
        l.filter (key · ∈ keys) := by
      rw [List.filter_filter]
      apply List.filter_congr
      intro a _
      by_cases ha : key a = k
      · simp [ha, hk]
      · simp [ha]
    have hsplit := List.filter_append_perm (fun a => decide (key a = k))
      (l.filter (key · ∈ k :: keys))
    rw [hfirst, hothers] at hsplit
    rw [List.flatMap_cons]
    exact ((ih hrest).append_left _).trans hsplit

theorem perm_flatMap_filter_of_forall {α κ : Type} [DecidableEq κ] (key : α → κ) {keys : List κ}
    (hkeys : keys.Nodup) {l : List α} (hl : ∀ a ∈ l, key a ∈ keys) :
    (keys.flatMap fun k => l.filter (key · = k)).Perm l := by
  have hall : l.filter (key · ∈ keys) = l := by
    rw [List.filter_eq_self]
    intro a ha
    exact decide_eq_true (hl a ha)
  have hperm := perm_flatMap_filter key hkeys l
  rwa [hall] at hperm

theorem filter_allStarts (i : Nat) (beats : List Beat) :
    ((allStarts beats).filter (·.1 = i)).map (·.2) = blocksOf i beats := by
  induction beats with
  | nil => rfl
  | cons e beats ih =>
    obtain ⟨t, j, _ | b⟩ := e
    · simpa [allStarts, blocksOf, startsOf] using ih
    · by_cases hj : j = i <;> simpa [allStarts, blocksOf, startsOf, hj] using ih

/-! ## Accounts that are closed -/

theorem motion_append_looks_perm (bs : List Block) : (motionOf bs ++ looksOf bs).Perm bs := by
  have hsplit := List.filter_append_perm (fun b : Block => !b.isLooks) bs
  simp only [Bool.not_not] at hsplit
  exact hsplit

/-- **If nothing waits, the blocks that were started are those of the plans.** -/
theorem Ledger.perm {n : Nat} {plans waiting : Fin n → List Block} {beats : List Beat}
    {π : Equiv.Perm (Fin n)} {owned : List (Fin n × Block)}
    (h : Ledger plans beats waiting π owned) (hnone : ∀ i, waiting i = [])
    (hplaces : ∀ e ∈ beats, e.place < n) :
    ((allStarts beats).map (·.2)).Perm ((List.finRange n).flatMap plans) := by
  have hmotion : ((List.finRange n).flatMap fun k => motionOf (plans k)).Perm
      (motionOf ((allStarts beats).map (·.2))) := by
    have hsorted := (perm_flatMap_filter_of_forall Prod.fst (List.nodup_finRange n)
      (l := owned) fun _ _ => List.mem_finRange _).map Prod.snd
    rw [List.map_flatMap, h.started] at hsorted
    refine .trans (.of_eq ?_) hsorted
    apply List.flatMap_congr
    intro k _
    obtain ⟨i, rfl⟩ := π.surjective k
    rw [h.motion i, hnone i]
    exact List.append_nil _
  have hlooks : ((List.finRange n).flatMap fun k => looksOf (plans k)).Perm
      (looksOf ((allStarts beats).map (·.2))) := by
    have hmem : ∀ e ∈ allStarts beats, e.1 ∈ List.range n := by
      intro e he
      obtain ⟨beat, hbeat, hsome⟩ := List.mem_filterMap.mp he
      obtain ⟨b, -, rfl⟩ := Option.map_eq_some_iff.mp hsome
      exact List.mem_range.mpr (hplaces beat hbeat)
    have hsorted := (perm_flatMap_filter_of_forall Prod.fst List.nodup_range hmem).map Prod.snd
    simp only [List.map_flatMap, filter_allStarts] at hsorted
    have hfilter := hsorted.filter fun b => b.isLooks
    rw [List.filter_flatMap, ← List.map_coe_finRange_eq_range, List.flatMap_map] at hfilter
    refine .trans (.of_eq ?_) hfilter
    apply List.flatMap_congr
    intro k _
    rw [h.looks k, hnone k]
    exact List.append_nil _
  have hsplit := motion_append_looks_perm ((allStarts beats).map (·.2))
  refine (hsplit.symm.trans (hmotion.append hlooks).symm).trans ?_
  refine (List.flatMap_append_perm _ _ _).trans (List.Perm.flatMap_left _ ?_)
  intro k _
  exact motion_append_looks_perm (plans k)

/-! ## Collision passes -/

/-- **A collision pass changes the queues of sprites that meet only.** -/
theorem Scene.collide_get (c : Scene) (id : String) :
    ∃ new, c.collide.encounters = c.encounters ++ new ∧
      ((∀ p ∈ new, p.1.id ≠ id ∧ p.2.id ≠ id) → c.collide.queues.get id = c.queues.get id) := by
  refine collide_induction (motive := fun d => ∃ new, d.encounters = c.encounters ++ new ∧
    ((∀ p ∈ new, p.1.id ≠ id ∧ p.2.id ≠ id) → d.queues.get id = c.queues.get id))
    ⟨[], (List.append_nil _).symm, fun _ => rfl⟩ ?_
  rintro d ⟨new, hnew, hqueue⟩ p -
  unfold compare
  split
  · refine ⟨new ++ [p], by simp [meet, hnew], ?_⟩
    intro hspared
    obtain ⟨hfst, hsnd⟩ := hspared p (by simp)
    rw [← hqueue fun q hq => hspared q (List.mem_append_left _ hq)]
    exact RunQueues.get_swapMotion_of_ne _ hfst hsnd
  · exact ⟨new, hnew, hqueue⟩

theorem Scene.get_of_pop?_eq_none {c : Scene} {i : Nat} {body : Sprite}
    (hbody : c.bodies[i]? = some body) (hpop : c.pop? i = none) : c.queues.get body.id = [] := by
  simp only [pop?, hbody, Option.bind_eq_bind, Option.bind_some, Option.bind_eq_none_iff] at hpop
  unfold RunQueues.get
  cases hget : c.queues.get? body.id with
  | none => rfl
  | some queue =>
    cases queue with
    | nil => rfl
    | cons b rest => simp [RunQueues.pop?, hget] at hpop

/-! ## Meetings after the end -/

namespace Journal

/-- The sprite at a place, which has the given id, met another one after its part was over. -/
def MetAfterEnd (i : Nat) (id : String) (j : Journal) : Prop :=
  ∃ late t a b earlier, j = late ++ ⟨t, .told (.collision a b)⟩ :: earlier ∧
    endsOf i (beats earlier) ≠ [] ∧ (a.id = id ∨ b.id = id)

variable {i : Nat} {id : String} {j j' : Journal}

theorem MetAfterEnd.of_suffix (h : j.MetAfterEnd i id) (hsuffix : j <:+ j') :
    j'.MetAfterEnd i id := by
  obtain ⟨late, t, a, b, earlier, rfl, hends, hid⟩ := h
  obtain ⟨later, rfl⟩ := hsuffix
  exact ⟨later ++ late, t, a, b, earlier, (List.append_assoc _ _ _).symm, hends, hid⟩

theorem mem_of_mem_encounters {p : Sprite × Sprite} (h : p ∈ j.encounters) :
    ∃ t, ⟨t, .told (.collision p.1 p.2)⟩ ∈ j := by
  simp only [encounters, notices, List.mem_filterMap, List.mem_reverse] at h
  obtain ⟨n, ⟨⟨t, happening⟩, he, hn⟩, hp⟩ := h
  cases happening with
  | reached m => simp at hn
  | told n' =>
    obtain rfl := Option.some.inj hn
    cases n' with
    | collision a b =>
      obtain rfl := Option.some.inj hp
      exact ⟨t, he⟩
    | update | speech | banner | clock => simp [Notice.encounter?] at hp

/-- A meeting is told of after the part of a sprite was over. -/
theorem MetAfterEnd.of_append {late : Journal} {p : Sprite × Sprite} (hends : endsOf i j.beats ≠ [])
    (hp : p ∈ late.encounters) (hid : p.1.id = id ∨ p.2.id = id) :
    (late ++ j).MetAfterEnd i id := by
  obtain ⟨t, ht⟩ := mem_of_mem_encounters hp
  obtain ⟨later, before, rfl⟩ := List.append_of_mem ht
  refine ⟨later, t, p.1, p.2, before ++ j, by simp, ?_, hid⟩
  rw [beats_append, endsOf, List.filterMap_append]
  intro hnil
  exact hends (List.append_eq_nil_iff.mp hnil).1

end Journal

/-! ## Tasks of a run without a stop -/

namespace Drive

variable {σ : Type}

/-- The queue of each sprite whose runner is done is empty, unless the sprite met another one after
its end. -/
def Spent (sprites : List Sprite) (d : Drive σ ScriptRunner) : Prop :=
  ∀ i : Fin sprites.length, d.plot.runner? i = none →
    queueAt sprites d.session.stage.queues i = [] ∨
      d.session.journal.MetAfterEnd i (sprites.get i).id

variable {o : Observer σ} {cfg : Settings} {sprites : List Sprite} {d t d' : Drive σ ScriptRunner}

/-- **What a runner that is woken finds leaves the queue of another sprite alone, or tells that it
has met.** -/
theorem Woken.spent {j : Nat} {r : ScriptRunner} {s : Session σ} (h : Woken o cfg d t j r s)
    (hids : (sprites.map (·.id)).Nodup) (hcourse : d.plot.OnCourse cfg sprites)
    {i : Fin sprites.length} (hne : j ≠ i) (hdone : d.plot.runner? i = none)
    (hspent : queueAt sprites d.session.stage.queues i = [] ∨
      d.session.journal.MetAfterEnd i (sprites.get i).id) :
    queueAt sprites s.stage.queues i = [] ∨ s.journal.MetAfterEnd i (sprites.get i).id := by
  have hj := hcourse.lt_of_runner? h.runner
  obtain ⟨late, hlate⟩ := (h.deeds hcourse hj).journal
  rcases hspent with hempty | hmet
  case inr => exact .inr (hmet.of_suffix ⟨late, hlate⟩)
  obtain ⟨rest, hturn⟩ := h.turn
  have hqueue : s.stage.queues = s.scene.queues := rfl
  rw [hqueue]
  cases hbusy : r.busy with
  | none =>
    obtain ⟨_, hqueues⟩ := hturn.queues_of_fresh hcourse hbusy
    have hother : sprites[j].id ≠ sprites[i].id :=
      id_ne hids (i := ⟨j, hj⟩) fun heq => hne (congrArg Fin.val heq)
    refine .inl ?_
    rw [hqueues, queueAt, RunQueues.get_set, if_neg hother]
    exact hempty
  | some b =>
    have hscene := hturn.scene_of_busy hbusy
    obtain ⟨new, hnew, hget⟩ := Scene.collide_get { d.plot.scene with
      now := endTime cfg (blocksOf j d.plot.scene.beats), wakeups := rest } sprites[i].id
    rw [← hscene] at hnew hget
    by_cases hspared : ∀ p ∈ new, p.1.id ≠ sprites[i].id ∧ p.2.id ≠ sprites[i].id
    · exact .inl ((hget hspared).trans hempty)
    · -- the encounters that the pass tells of come after all that the journal told before
      have hcalm : new = (Journal.encounters late).map fun p => (p.1.calm, p.2.calm) := by
        simp only [plot, Session.scene_encounters, ← hlate, Journal.encounters_append,
          List.map_append] at hnew
        exact (List.append_cancel_left hnew).symm
      push Not at hspared
      obtain ⟨p, hp, hid⟩ := hspared
      rw [hcalm] at hp
      obtain ⟨q, hq, rfl⟩ := List.mem_map.mp hp
      have hends : endsOf i d.session.journal.beats ≠ [] := by
        have hone := hcourse.ends i i.2
        rw [hdone] at hone
        simp only [plot, Session.scene_beats] at hone
        simp [hone]
      refine .inr (hlate ▸ .of_append hends hq ?_)
      by_cases hfst : q.1.id = sprites[i].id
      · exact .inl hfst
      · exact .inr (hid hfst)

/-- **In a task of a run without a stop a runner is done only when its queue is empty**, and nothing
comes into the queue of a sprite whose runner is done unless it meets another one. -/
theorem Does.spent (h : Does o cfg d d') (hids : (sprites.map (·.id)).Nodup)
    (hcourse : d.plot.OnCourse cfg sprites) (hquiet : d'.session.stopping = false)
    (i : Fin sprites.length) (hdone : d'.plot.runner? i = none) :
    ((d.plot.runner? i).isSome → queueAt sprites d'.session.stage.queues i = []) ∧
      (d.plot.runner? i = none →
        queueAt sprites d.session.stage.queues i = [] ∨
          d.session.journal.MetAfterEnd i (sprites.get i).id →
        queueAt sprites d'.session.stage.queues i = [] ∨
          d'.session.journal.MetAfterEnd i (sprites.get i).id) := by
  cases h with
  | @alarm due number key timeline t hticks =>
    have hrunner : d.plot.runner? i = none := by
      simp only [plot, hticks.runners] at hdone
      exact hdone
    have hscene := hticks.scene_alarm
    have hqueues : (t.session.ring o key number).heedStop.stage.queues = d.session.stage.queues :=
      congrArg Scene.queues hscene
    refine ⟨by simp [hrunner], ?_⟩
    intro _ hspent
    rw [hqueues]
    have hdeeds : d.session.Deeds o cfg [] _ := hticks.deeds_alarm
    exact hspent.imp_right fun hmet => hmet.of_suffix hdeeds.journal
  | @finish t j r s hwoken hpop =>
    have hqueues : (s.finish o j).heedStop.stage.queues = s.stage.queues :=
      congrArg Scene.queues (hwoken.scene_finish hcourse)
    have hadvance := (s.advance_finish o j).trans (Session.advance_heedStop o _)
    rw [hqueues]
    by_cases hj : j = i
    · subst hj
      refine ⟨?_, by simp [hwoken.runner]⟩
      intro _
      have hstop : s.stopping = false := by
        rw [Bool.eq_false_iff]
        intro hs
        simp [hadvance.stopping hs] at hquiet
      obtain ⟨_, _, y, -, -, hy, hyid⟩ := hwoken.sprite hcourse
      have hbody : s.scene.bodies[(i : Nat)]? = some y.calm := by rw [s.getElem?_bodies, hy]; rfl
      have hnone : s.scene.pop? i = none := by rw [← s.scene_pop?, hpop hstop]; rfl
      have hempty := Scene.get_of_pop?_eq_none hbody hnone
      rw [Sprite.id_calm, hyid] at hempty
      exact hempty
    · have hrunner : d.plot.runner? i = none := by
        have hset := Plot.runner?_set (x := none) hwoken.runner s.scene i
        rw [if_neg hj] at hset
        exact hset.symm.trans hdone
      refine ⟨by simp [hrunner], ?_⟩
      intro _ hspent
      exact (hwoken.spent hids hcourse hj hrunner hspent).imp_right
        fun hmet => hmet.of_suffix hadvance.journal
  | @start t j r b s s' hwoken hstop hpop =>
    have hset := Plot.runner?_set (x := some ⟨j, some b⟩) hwoken.runner s.scene i
    have hrunner := hset.symm.trans hdone
    by_cases hj : j = i
    · simp [hj] at hrunner
    · rw [if_neg hj] at hrunner
      obtain ⟨hscene, hscene'⟩ := hwoken.scene_start hcourse hpop
      obtain ⟨body, queue, hbody, -, hqueue⟩ := Scene.pop?_eq_some hscene
      obtain ⟨rest, hturn⟩ := hwoken.turn
      obtain ⟨hj', hrole⟩ := hcourse.body (hturn.frame.1 ▸ hbody)
      have hother : body.id ≠ sprites[i].id := by
        rw [Sprite.id_of_role hrole]
        exact id_ne hids (i := ⟨j, hj'⟩) fun heq => hj (congrArg Fin.val heq)
      have hadvance := (((s.advance_pop? o hpop).trans (s'.advance_start o cfg j b)).trans
        (ScriptRunner.advance_schedule o _ (b.delay cfg) j)).trans (Session.advance_heedStop o _)
      refine ⟨by simp [hrunner], ?_⟩
      intro _ hspent
      rcases hwoken.spent hids hcourse hj hrunner hspent with hempty | hmet
      · refine .inl ?_
        have hqueues := congrArg Scene.queues hscene'
        rw [hqueue] at hqueues
        refine (congrArg (queueAt sprites · i) hqueues).trans ?_
        simp only [Scene.schedule, Scene.start, queueAt, RunQueues.get_set, if_neg hother]
        exact hempty
      · exact .inr (hmet.of_suffix hadvance.journal)

variable (o cfg sprites) (watcher : σ) (stopping : Bool)

/-- **In a run without a stop, what is left in the queue of a sprite that is done has come from
sprites that it met after its end.** -/
theorem spent_after (hids : (sprites.map (·.id)).Nodup) (n : Nat)
    (hquiet : ((Drive.opening cfg sprites watcher stopping).after o cfg n).session.stopping = false) :
    ((Drive.opening cfg sprites watcher stopping).after o cfg n).Spent sprites := by
  refine runs_induction o cfg sprites watcher stopping
    (motive := fun d => d.session.stopping = false → d.Spent sprites) ?_ ?_ n hquiet
  · intro _ i hdone
    exact absurd hdone (runner?_opening_ne_none cfg sprites watcher stopping i)
  · intro d d' hruns hstep ih hquiet i hdone
    have hbefore := (hruns.goes o hstep).quiet hquiet
    obtain ⟨hends, hkeeps⟩ :=
      (hruns.does hstep).spent hids hruns.reachable.onCourse hquiet i hdone
    cases hrunner : d.plot.runner? i with
    | none => exact hkeeps hrunner (ih hbefore i hrunner)
    | some r => exact .inl (hends (by rw [hrunner]; rfl))

end Drive

/-! ## The whole run -/

theorem flatMap_planAt (cfg : Settings) (sprites : List Sprite) :
    (List.finRange sprites.length).flatMap (planAt cfg sprites) =
      sprites.flatMap (·.plan cfg.maxRepeat) := by
  have hmap : (List.finRange sprites.length).map (fun i => sprites[i]) = sprites :=
    List.map_get_finRange sprites
  calc (List.finRange sprites.length).flatMap (planAt cfg sprites)
      = ((List.finRange sprites.length).map (fun i => sprites[i])).flatMap
          (·.plan cfg.maxRepeat) := by rw [List.flatMap_map]; rfl
    _ = sprites.flatMap (·.plan cfg.maxRepeat) := by rw [hmap]

/-- **If all queues are empty when all runners are done, all blocks of all plans were started.** -/
theorem Plot.Reachable.perm_of_empty {cfg : Settings} {sprites : List Sprite} {p : Plot}
    (h : p.Reachable cfg sprites) (hids : (sprites.map (·.id)).Nodup) (hover : p.isOver = true)
    (hempty : ∀ i, queueAt sprites p.scene.queues i = []) :
    ((allStarts p.scene.beats).map (·.2)).Perm (sprites.flatMap (·.plan cfg.maxRepeat)) ∧
      (∀ i : Fin sprites.length,
        looksOf (blocksOf i p.scene.beats) = looksOf (planAt cfg sprites i)) ∧
      p.scene.started = (sprites.map (·.planSize cfg.maxRepeat)).sum := by
  obtain ⟨π, owned, hledger⟩ := h.ledger hids
  have hwaiting (i : Fin sprites.length) : p.waiting cfg sprites i = [] := by
    rw [waiting, runner?_eq_none hover]
    exact hempty i
  have hperm := hledger.perm hwaiting h.beaten.inPlace
  rw [flatMap_planAt] at hperm
  refine ⟨hperm, ?_, ?_⟩
  · intro i
    rw [hledger.looks i, hwaiting i]
    exact (List.append_nil _).symm
  · rw [h.onCourse.started, ← List.length_map (f := Prod.snd), hperm.length_eq,
      List.length_flatMap]
    simp only [Sprite.length_plan]

/-- If blocks wait for a sprite when the run is over, it met another sprite after its end. -/
theorem Session.left_runAll {σ : Type} (o : Observer σ) (cfg : Settings) (sprites : List Sprite)
    (watcher : σ) (stopping : Bool) (hids : (sprites.map (·.id)).Nodup)
    (hquiet : ((Session.begin sprites watcher stopping).runAll o cfg).1.stopped = false)
    (i : Fin sprites.length) :
    queueAt sprites ((Session.begin sprites watcher stopping).runAll o cfg).2.scene.queues i = [] ∨
      ((Session.begin sprites watcher stopping).runAll o cfg).2.journal.MetAfterEnd i
        (sprites.get i).id := by
  have hspent : ((Drive.opening cfg sprites watcher stopping).last o cfg).Spent sprites :=
    Drive.spent_after o cfg sprites watcher stopping hids _
      (Drive.stopping_after o cfg sprites watcher stopping hquiet _)
  have hjournal := journal_last o cfg sprites watcher stopping
  have hover := Drive.isOver_last o cfg sprites watcher stopping
  rw [scene_runAll, Plot.atEnd]
  generalize (Drive.opening cfg sprites watcher stopping).last o cfg = d at *
  have hdone := Plot.runner?_eq_none (p := d.plot) hover i
  exact (hspent i hdone).imp_right fun hmet => hmet.of_suffix hjournal

/-- **A runner stops only when its queue is empty, and blocks are left only with sprites that met
after their end.** In a run in which no stop is asked for, the queue of a sprite is empty when its
part ends; if blocks wait for it when the run is over, it met another sprite after its end; and if
no sprite did, the blocks that were started are those of all plans, each as often as it is there,
though its motion may have been carried out by another sprite. -/
theorem Session.runAll_leftovers {σ : Type} (o : Observer σ) (cfg : Settings)
    (sprites : List Sprite) (watcher : σ) (stopping : Bool) (hids : (sprites.map (·.id)).Nodup)
    (hquiet : ((Session.begin sprites watcher stopping).runAll o cfg).1.stopped = false) :
    let opening := Drive.opening cfg sprites watcher stopping
    let run := (Session.begin sprites watcher stopping).runAll o cfg
    (∀ m d, (opening.after o cfg m).step o cfg = some d → ∀ i : Fin sprites.length,
      ((opening.after o cfg m).plot.runner? i).isSome → d.plot.runner? i = none →
        queueAt sprites d.session.stage.queues i = []) ∧
    (∀ i : Fin sprites.length, queueAt sprites run.2.stage.queues i ≠ [] →
      run.2.journal.MetAfterEnd i (sprites.get i).id) ∧
    ((∀ i : Fin sprites.length, ¬ run.2.journal.MetAfterEnd i (sprites.get i).id) →
      ((allStarts run.2.journal.beats).map (·.2)).Perm (sprites.flatMap (·.plan cfg.maxRepeat)) ∧
      (∀ i : Fin sprites.length,
        looksOf (blocksOf i run.2.journal.beats) = looksOf (planAt cfg sprites i)) ∧
      run.1.blocks = (sprites.map (·.planSize cfg.maxRepeat)).sum) := by
  intro opening run
  have hreach := Plot.reachable_atEnd o cfg sprites watcher stopping
  have hover := Plot.isOver_atEnd o cfg sprites watcher stopping
  have hscene : run.2.scene = _ := scene_runAll o cfg sprites watcher stopping
  have hblocks : run.1.blocks = _ := blocks_runAll o cfg sprites watcher stopping
  have hleft (i : Fin sprites.length) : queueAt sprites run.2.scene.queues i = [] ∨
      run.2.journal.MetAfterEnd i (sprites.get i).id :=
    left_runAll o cfg sprites watcher stopping hids hquiet i
  clear_value run
  generalize Plot.atEnd o cfg sprites watcher stopping = p at hreach hover hscene hblocks
  refine ⟨?_, ?_, ?_⟩
  · intro m d hstep i hbusy hdone
    have hruns := Drive.runs_after o cfg sprites watcher stopping m
    have hstop := Drive.stopping_after o cfg sprites watcher stopping hquiet (m + 1)
    rw [Drive.after_succ, hstep] at hstop
    exact ((hruns.does hstep).spent hids hruns.reachable.onCourse hstop i hdone).1 hbusy
  · intro i hwaits
    exact (hleft i).resolve_left hwaits
  · intro hnone
    have hempty (i : Fin sprites.length) : queueAt sprites p.scene.queues i = [] :=
      hscene ▸ (hleft i).resolve_right (hnone i)
    rw [← run.2.scene_beats, hscene, hblocks]
    exact hreach.perm_of_empty hids hover hempty

/-- A cat that rests, and a dog that comes by and would turn then. -/
def catAtRest : List Sprite :=
  [Sprite.blank "cat" "Cat" "#FF6680" 0 0 "Script 1",
    { Sprite.blank "dog" "Dog" "#4C97FF" 300 0 "Script 1" with
      scripts := [⟨"Script 1", [⟨"b1", .goto, .ofPairs [("x", .number 0)], []⟩,
        ⟨"b2", .turn, {}, []⟩]⟩] }]

theorem Session.runAll_leftovers_catAtRest : (catAtRest.map (·.id)).Nodup ∧
    ((Session.begin catAtRest () false).runAll .silent {}).1.stopped = false ∧
    queueAt catAtRest ((Session.begin catAtRest () false).runAll .silent {}).2.stage.queues
      (⟨0, by decide⟩ : Fin catAtRest.length) ≠ [] ∧
    ((Session.begin catAtRest () false).runAll .silent {}).2.journal.MetAfterEnd 0 "cat" := by
  have hids : (catAtRest.map (·.id)).Nodup := by decide
  have hquiet : ((Session.begin catAtRest () false).runAll .silent {}).1.stopped = false := by
    decide +kernel
  have hwaits : (queueAt catAtRest
      ((Session.begin catAtRest () false).runAll .silent {}).2.stage.queues
        (⟨0, by decide⟩ : Fin catAtRest.length)).isEmpty = false := by decide +kernel
  obtain ⟨-, hleft, -⟩ := runAll_leftovers .silent {} catAtRest () false hids hquiet
  have hne := List.isEmpty_eq_false_iff.mp hwaits
  have hmet := hleft _ hne
  exact ⟨hids, hquiet, hne, hmet⟩

end SpriteScript
