/-
  Bystanders.

  A sprite that meets no other one is put among some sprites. What its runner does leaves the
  others alone, except that each of its blocks is followed by a collision pass. Such a pass comes
  earlier than without the bystander, but it finds the poses and the queues that the next pass
  would have found, as these only change when a runner goes on.

  * `Plot.Follows`: the run with the bystander is where the run without it is, or a pass ahead;
  * `Follows.wake_self` and `Follows.wake_other`: **each wakeup keeps it so**;
  * `Quiet.follows`: so that each plot with the bystander follows one without it;
  * `runAll_bystander`: **a bystander does not change the run of the others**.
-/
import SpriteScript.Proofs.FirstRound
import SpriteScript.Proofs.Quiet
import SpriteScript.Proofs.Without

namespace SpriteScript

/-! ## One wakeup -/

namespace Plot

/-- The plot `p'` is where `p` is but for the sprite at place `pos`, or a collision pass ahead. -/
structure Follows (pos : Nat) (id : String) (p p' : Plot) : Prop where
  runners : ∀ k, (p.runner? k).map (·.busy) = (p'.runner? (skip pos k)).map (·.busy)
  scene : p.scene.Without pos id p'.scene ∨
    p'.AllWoken ∧ p.scene.collide.Without pos id p'.scene

variable {cfg : Settings} {sprites sprites' : List Sprite} {pos : Nat} {id : String}
  {p p' q' : Plot} {r' : ScriptRunner} {rest' : List Wakeup} {c' : Scene}

theorem AllWoken.wake {i : Nat} {r : ScriptRunner} {rest : List Wakeup} {c : Scene}
    {stopped : Bool} (h : p.AllWoken) (ht : p.Turn cfg i r rest c)
    (hwake : p.Wake cfg i c stopped p') : p'.AllWoken := by
  intro j r' hr'
  cases hwake with
  | finish =>
    rw [runner?_set ht.runner] at hr'
    split at hr'
    · simp at hr'
    · exact h j r' hr'
  | start =>
    rw [runner?_set ht.runner] at hr'
    split at hr'
    · rw [← Option.some.inj hr']
      rfl
    · exact h j r' hr'

theorem Wake.without_self {c : Scene} (h : c.Without pos id c')
    (hwake : p'.Wake cfg pos c' false q') : c.Without pos id q'.scene := by
  cases hwake with
  | finish => exact h.finish_self
  | start hpop => exact (h.pop?_self hpop).start_self cfg _ _

/-- What is left of the wakeups when that of the bystander is taken. -/
theorem Turn.retime_self {c : Scene} (ht : p'.Turn cfg pos r' rest' c')
    (h : c.Without pos id p'.scene) : c.Without pos id { p'.scene with
      now := endTime cfg (blocksOf pos p'.scene.beats), wakeups := rest' } := by
  have hws := h.wakeups
  rw [ht.first, List.filter_cons_of_neg (by simp)] at hws
  exact h.retime c.now _ hws

/-- **A wakeup of the bystander leaves the others alone, but for a pass.** -/
theorem Follows.wake_self (h : Follows pos id p p') (hround : p'.Round)
    (ht : p'.Turn cfg pos r' rest' c') (hwake : p'.Wake cfg pos c' false q')
    (hno : ∀ e ∈ q'.scene.encounters, e.1.id ≠ id ∧ e.2.id ≠ id) : Follows pos id p q' := by
  have hrunners : ∀ k, (p.runner? k).map (·.busy) = (q'.runner? (skip pos k)).map (·.busy) := by
    intro k
    rw [h.runners k]
    cases hwake <;> rw [runner?_set ht.runner, if_neg (Ne.symm (skip_ne pos k))]
  refine ⟨hrunners, ?_⟩
  rw [hwake.frame.1] at hno
  cases hbusy : r'.busy with
  | none =>
    have hc := ht.scene_of_fresh hbusy
    have hseed {c : Scene} (hc' : c.Without pos id p'.scene) : c.Without pos id q'.scene :=
      Wake.without_self (hc ▸ (ht.retime_self hc').seed_self cfg) hwake
    rcases h.scene with heven | ⟨hwoken, hahead⟩
    · exact .inl (hseed heven)
    · exact .inr ⟨hwoken.wake ht hwake, hseed hahead⟩
  | some b =>
    have hc := ht.scene_of_busy hbusy
    have hpass {c : Scene} (hc' : c.Without pos id p'.scene) :
        c.collide.Without pos id q'.scene :=
      Wake.without_self (hc ▸ (ht.retime_self hc').collide (hc ▸ hno)) hwake
    have hwoken := (ht.all_woken hround (by simp [hbusy])).wake ht hwake
    rcases h.scene with heven | ⟨-, hahead⟩
    · exact .inr ⟨hwoken, hpass heven⟩
    · have hagain := hpass hahead
      rw [Scene.collide_of_settled (Scene.settled_collide p.scene)] at hagain
      exact .inr ⟨hwoken, hagain⟩

/-- Another runner goes on on both sides. -/
theorem Wake.without {k : Nat} {r : ScriptRunner} {rest : List Wakeup} {c : Scene} {q : Plot}
    (ht : p.Turn cfg k r rest c) (ht' : p'.Turn cfg (skip pos k) r' rest' c')
    (hsorted : Ascending c'.wakeups) (h : c.Without pos id c') (hnow : c.now = c'.now)
    (hrunners : ∀ j, (p.runner? j).map (·.busy) = (p'.runner? (skip pos j)).map (·.busy))
    (hwake : p.Wake cfg k c false q) (hwake' : p'.Wake cfg (skip pos k) c' false q') :
    Follows pos id q q' := by
  cases hwake' with
  | finish _ hnone' =>
    have hnone := h.pop?_eq_none (hnone' rfl)
    cases hwake with
    | start hpop => simp [hnone] at hpop
    | finish =>
      refine ⟨?_, .inl (h.finish hnow k)⟩
      intro j
      rw [runner?_set ht.runner, runner?_set ht'.runner]
      simp only [skip_inj]
      split
      · rfl
      · exact hrunners j
  | @start b d' hpop' =>
    obtain ⟨d, hpop, hd⟩ := h.pop?_eq_some hpop'
    cases hwake with
    | finish _ hnone => simp [hnone rfl] at hpop
    | @start b₂ d₂ hpop₂ =>
      obtain ⟨rfl, rfl⟩ := Prod.mk.inj (Option.some.inj (hpop₂.symm.trans hpop))
      obtain ⟨_, _, -, -, rfl⟩ := Scene.pop?_eq_some hpop
      obtain ⟨_, _, -, -, rfl⟩ := Scene.pop?_eq_some hpop'
      refine ⟨?_, .inl (hd.start hnow hsorted cfg k _ _)⟩
      intro j
      rw [runner?_set ht.runner, runner?_set ht'.runner]
      simp only [skip_inj]
      split
      · rfl
      · exact hrunners j

/-- The wakeup that comes first without the bystander is that of the same runner. -/
theorem Turn.retime {i k : Nat} {r : ScriptRunner} {rest : List Wakeup} {c d : Scene}
    (ht : p.Turn cfg i r rest c) (ht' : p'.Turn cfg (skip pos k) r' rest' c')
    (h : d.Without pos id p'.scene) (hd : d.wakeups = p.scene.wakeups) :
    i = k ∧ endTime cfg (blocksOf i p.scene.beats) =
        endTime cfg (blocksOf (skip pos k) p'.scene.beats) ∧
      ∀ t, { d with now := t, wakeups := rest }.Without pos id { p'.scene with
        now := endTime cfg (blocksOf (skip pos k) p'.scene.beats), wakeups := rest' } := by
  have hws := h.wakeups
  rw [hd, ht.first, ht'.first, List.filter_cons_of_pos (by simp), List.map_cons] at hws
  obtain ⟨hfirst, hrest⟩ := List.cons.inj hws
  obtain ⟨hdue, htask⟩ := Wakeup.mk.inj hfirst
  exact ⟨skip_inj.mp (Task.runner.inj htask), hdue, fun t => h.retime t _ hrest⟩

theorem Follows.aligned (h : Follows pos id p p') {i k : Nat} {r : ScriptRunner}
    {rest : List Wakeup} {c : Scene} (ht : p.Turn cfg i r rest c)
    (ht' : p'.Turn cfg (skip pos k) r' rest' c') :
    i = k ∧ endTime cfg (blocksOf i p.scene.beats) =
      endTime cfg (blocksOf (skip pos k) p'.scene.beats) := by
  rcases h.scene with heven | ⟨-, hahead⟩
  · obtain ⟨hi, hdue, -⟩ := ht.retime ht' heven rfl
    exact ⟨hi, hdue⟩
  · obtain ⟨hi, hdue, -⟩ := ht.retime ht' hahead (Scene.collide_frame p.scene).2.1
    exact ⟨hi, hdue⟩

/-- What another runner finds when it has filled its queue or ended its block is the same on both
sides, whether a pass came before or not. -/
theorem Follows.found (h : Follows pos id p p') {i : Nat} {r : ScriptRunner}
    {rest : List Wakeup} {c : Scene} (ht : p.Turn cfg i r rest c)
    (ht' : p'.Turn cfg (skip pos i) r' rest' c') (hsame : r.busy = r'.busy)
    (hno : ∀ e ∈ c'.encounters, e.1.id ≠ id ∧ e.2.id ≠ id) : c.Without pos id c' := by
  cases hbusy : r.busy with
  | none =>
    have hbusy' : r'.busy = none := hsame.symm.trans hbusy
    rw [ht.scene_of_fresh hbusy, ht'.scene_of_fresh hbusy']
    rcases h.scene with heven | ⟨hwoken, -⟩
    · obtain ⟨-, -, hretime⟩ := ht.retime ht' heven rfl
      exact (hretime _).seed cfg i
    · -- a pass ahead there is no runner that has not been woken
      have hsome := hwoken _ r' ht'.runner
      simp [hbusy'] at hsome
  | some b =>
    have hbusy' : r'.busy = some b := hsame.symm.trans hbusy
    have hc := ht.scene_of_busy hbusy
    have hc' := ht'.scene_of_busy hbusy'
    rw [hc'] at hno
    rcases h.scene with heven | ⟨-, hahead⟩
    · obtain ⟨-, -, hretime⟩ := ht.retime ht' heven rfl
      rw [hc, hc']
      exact (hretime _).collide hno
    · -- the pass that comes now changes nothing of what the one before has left
      obtain ⟨-, -, hretime⟩ := ht.retime ht' hahead (Scene.collide_frame p.scene).2.1
      have hpass := (hretime (endTime cfg (blocksOf i p.scene.beats))).collide hno
      rw [← hc', ← Scene.collide_retime, ← hc,
        Scene.collide_of_settled (hc ▸ Scene.settled_collide _)] at hpass
      exact hpass

/-- **A wakeup of another runner brings both sides together.** -/
theorem Follows.wake_other (h : Follows pos id p p') (hcourse : p.OnCourse cfg sprites)
    (hcourse' : p'.OnCourse cfg sprites') {k : Nat} (ht' : p'.Turn cfg (skip pos k) r' rest' c')
    (hwake' : p'.Wake cfg (skip pos k) c' false q')
    (hno : ∀ e ∈ q'.scene.encounters, e.1.id ≠ id ∧ e.2.id ≠ id) :
    p.isOver = false ∧ Follows pos id (p.wake cfg false) q' := by
  have hsame := h.runners k
  rw [ht'.runner] at hsame
  obtain ⟨r₀, hr₀, hbusy⟩ := Option.map_eq_some_iff.mp hsame
  have hover : p.isOver = false := by
    rw [Bool.eq_false_iff]
    intro hover
    simp [runner?_eq_none hover k] at hr₀
  refine ⟨hover, ?_⟩
  rw [hwake'.frame.1] at hno
  obtain ⟨i, r, rest, c, ht⟩ := hcourse.turn hover
  obtain ⟨rfl, hdue⟩ := h.aligned ht ht'
  obtain rfl := Option.some.inj (ht.runner.symm.trans hr₀)
  have hfound := h.found ht ht' hbusy hno
  have hnow : c.now = c'.now := by rw [ht.frame.2.2.1, ht'.frame.2.2.1, hdue]
  have hsorted : Ascending c'.wakeups := by
    rw [ht'.frame.2.1]
    exact (hcourse'.rest_ahead ht').1
  exact (ht.wake false).without ht ht' hsorted hfound hnow h.runners hwake'

end Plot

/-! ## The whole run -/

section
variable {cfg : Settings} {sprites : List Sprite} {t : Sprite} {pos : Nat}

theorem getElem?_insertIdx_skip (sprites : List Sprite) (t : Sprite) (pos k : Nat) :
    (sprites.insertIdx pos t)[skip pos k]? = sprites[k]? := by
  rw [List.getElem?_insertIdx]
  unfold skip
  by_cases hk : k < pos
  · simp [hk]
  · rw [if_neg hk, if_neg (by omega), if_neg (by omega), Nat.add_sub_cancel]

theorem nodup_insertIdx (hids : (sprites.map (·.id)).Nodup) (hnew : t.id ∉ sprites.map (·.id))
    (hpos : pos ≤ sprites.length) : ((sprites.insertIdx pos t).map (·.id)).Nodup := by
  have hperm := (List.perm_insertIdx t sprites hpos).map (·.id)
  rw [hperm.nodup_iff, List.map_cons]
  exact List.nodup_cons.mpr ⟨hnew, hids⟩

namespace Plot

theorem without_opening (hids : ((sprites.insertIdx pos t).map (·.id)).Nodup)
    (hpos : pos ≤ sprites.length) :
    (Plot.opening sprites).scene.Without pos t.id
      (Plot.opening (sprites.insertIdx pos t)).scene where
  ids := by
    simp only [Plot.opening, List.map_map]
    exact hids
  there := by
    refine ⟨t.calm, ?_, rfl⟩
    rw [Plot.opening, List.getElem?_map, List.getElem?_insertIdx_self, if_pos hpos]
    rfl
  bodies := by
    ext1 k
    simp only [Plot.opening]
    rw [getElem?_eraseIdx_skip, List.getElem?_map, List.getElem?_map, getElem?_insertIdx_skip]
  queues _ _ := rfl
  met _ := rfl
  encounters := rfl
  collisions := rfl
  beats := rfl
  wakeups := by
    have hskip : Wakeup.skip pos ∘ (fun i => ⟨0, .runner i⟩) =
        (fun i => (⟨0, .runner i⟩ : Wakeup)) ∘ skip pos := rfl
    have hspares : Wakeup.spares pos ∘ (fun i => ⟨0, .runner i⟩) =
        fun i => decide (i ≠ pos) := by
      funext i
      simp [Wakeup.spares]
    simp only [Plot.opening]
    rw [List.length_insertIdx_of_le_length hpos, List.map_map, hskip, List.filter_map, hspares,
      filter_range_skip hpos, List.map_map]

theorem follows_opening (hids : ((sprites.insertIdx pos t).map (·.id)).Nodup)
    (hpos : pos ≤ sprites.length) :
    Follows pos t.id (Plot.opening sprites) (Plot.opening (sprites.insertIdx pos t)) := by
  refine ⟨?_, .inl (without_opening hids hpos)⟩
  intro k
  have hlt : skip pos k < sprites.length + 1 ↔ k < sprites.length := by
    unfold skip
    split <;> omega
  rw [OnCourse.runner?_opening, OnCourse.runner?_opening,
    List.length_insertIdx_of_le_length hpos]
  simp only [hlt]
  split <;> rfl

/-- **Each plot with a bystander follows one without it.** -/
theorem Quiet.follows (hids : ((sprites.insertIdx pos t).map (·.id)).Nodup)
    (hpos : pos ≤ sprites.length) {p' : Plot} (h : Quiet cfg (sprites.insertIdx pos t) p')
    (hno : ∀ e ∈ p'.scene.encounters, e.1.id ≠ t.id ∧ e.2.id ≠ t.id) :
    ∃ p, Quiet cfg sprites p ∧ Follows pos t.id p p' := by
  induction h with
  | opening => exact ⟨_, .opening, follows_opening hids hpos⟩
  | wait t' _ _ _ ih =>
    obtain ⟨p, hp, hfollows⟩ := ih hno
    refine ⟨p, hp, hfollows.runners, ?_⟩
    rcases hfollows.scene with heven | ⟨hwoken, hahead⟩
    · exact .inl (heven.retime _ t' heven.wakeups)
    · exact .inr ⟨hwoken, hahead.retime _ t' hahead.wakeups⟩
  | @wake p' hquiet hover ih =>
    have hcourse' := hquiet.reachable.onCourse
    obtain ⟨i, r', rest', c', ht'⟩ := hcourse'.turn hover
    have hwake' := ht'.wake false
    -- nobody was told of a meeting with the bystander before
    obtain ⟨new, hnew, -⟩ := Scene.settleBusy_encounters cfg r'
      { p'.scene with now := endTime cfg (blocksOf i p'.scene.beats), wakeups := rest' }
    have hbefore : ∀ e ∈ p'.scene.encounters, e.1.id ≠ t.id ∧ e.2.id ≠ t.id := by
      intro e he
      refine hno e ?_
      rw [hwake'.frame.1, ht'.scene, hnew]
      exact List.mem_append_left _ he
    obtain ⟨p, hp, hfollows⟩ := ih hbefore
    by_cases hi : i = pos
    · subst hi
      exact ⟨p, hp, hfollows.wake_self hquiet.reachable.round ht' hwake' hno⟩
    · obtain ⟨k, rfl⟩ := exists_skip hi
      obtain ⟨hongoing, hnext⟩ :=
        hfollows.wake_other hp.reachable.onCourse hcourse' ht' hwake' hno
      exact ⟨_, .wake hp hongoing, hnext⟩

/-- When all runners are done, no pass is missing. -/
theorem Follows.without_of_isOver {p p' : Plot} (h : Follows pos t.id p p')
    (hp : Quiet cfg sprites p) (hover' : p'.isOver = true)
    (hplan : ∃ s ∈ sprites, s.plan cfg.maxRepeat ≠ []) :
    p.isOver = true ∧ p.scene.Without pos t.id p'.scene := by
  have hnone (k : Nat) : p.runner? k = none := by
    have hsame := h.runners k
    rw [runner?_eq_none hover'] at hsame
    exact Option.map_eq_none_iff.mp hsame
  have hover : p.isOver = true := isOver_of_runner? hnone
  refine ⟨hover, ?_⟩
  rcases h.scene with heven | ⟨-, hahead⟩
  · exact heven
  · have hsettled : p.scene.Settled := by
      rcases hp.reachable.settled with h | ⟨i, r, hr, -⟩ | h
      · exact h
      · simp [hnone i] at hr
      · exact absurd (hp.started_pos hover hplan) (by omega)
    rwa [Scene.collide_of_settled hsettled] at hahead

/-- **Where the runs with and without a bystander end, only the bystander makes a difference.** -/
theorem Quiet.without (hids : ((sprites.insertIdx pos t).map (·.id)).Nodup)
    (hpos : pos ≤ sprites.length) (hplan : ∃ s ∈ sprites, s.plan cfg.maxRepeat ≠ []) {q p' : Plot}
    (hq : Quiet cfg sprites q) (hover : q.isOver = true)
    (h : Quiet cfg (sprites.insertIdx pos t) p') (hover' : p'.isOver = true)
    (hno : ∀ e ∈ p'.scene.encounters, e.1.id ≠ t.id ∧ e.2.id ≠ t.id) :
    q.scene.Without pos t.id p'.scene := by
  obtain ⟨p, hp, hfollows⟩ := h.follows hids hpos hno
  obtain ⟨hpover, hwithout⟩ := hfollows.without_of_isOver hp hover' hplan
  -- the plot that is followed is the one in which the run without the bystander ends
  have hsame : { p.scene with now := 0 } = ({ q.scene with now := 0 } : Scene) :=
    congrArg Plot.scene (hp.eq_of_isOver hq hpover hover)
  have hlate := hwithout.retime 0 p'.scene.now hwithout.wakeups
  rw [hsame] at hlate
  exact hlate.retime q.scene.now p'.scene.now hlate.wakeups

end Plot

theorem Scene.Without.startsOf {id : String} {c c' : Scene} (h : c.Without pos id c') (k : Nat) :
    startsOf (skip pos k) c'.beats = SpriteScript.startsOf k c.beats := by
  have hdrop : SpriteScript.startsOf (skip pos k) c'.beats =
      SpriteScript.startsOf (skip pos k) (c'.beats.filter (Beat.spares pos)) := by
    unfold SpriteScript.startsOf
    rw [List.filterMap_filter]
    apply List.filterMap_congr
    intro e _
    by_cases he : e.place = skip pos k
    · simp [he, Beat.spares, skip_ne]
    · simp [he]
  rw [hdrop, ← h.beats]
  unfold SpriteScript.startsOf
  rw [List.filterMap_map]
  apply List.filterMap_congr
  intro e _
  simp only [Function.comp_apply, Beat.skip, skip_inj]

theorem Scene.Without.poses {σ σ' : Type} {s : Session σ} {s' : Session σ'} {id : String}
    (h : s.scene.Without pos id s'.scene) (k : Nat) :
    s'.sprites[skip pos k]?.map (·.pose) = s.sprites[k]?.map (·.pose) := by
  have hpose {τ : Type} (s : Session τ) (k : Nat) :
      s.sprites[k]?.map (·.pose) = s.scene.bodies[k]?.map (·.pose) := by
    rw [Session.getElem?_bodies, Option.map_map]
    rfl
  rw [hpose, hpose, h.getElem?_bodies]

theorem Scene.Without.queue {σ σ' : Type} {s : Session σ} {s' : Session σ'} {id other : String}
    (h : s.scene.Without pos id s'.scene) (hother : other ≠ id) :
    s'.stage.queues.get other = s.stage.queues.get other := by
  have hqueue : s.stage.queues.get? other = s'.stage.queues.get? other := h.queues other hother
  rw [RunQueues.get, RunQueues.get, hqueue]

end

/-- With a bystander that meets no other sprite, a run ends with the same scene but for it. -/
theorem Session.without_runAll {σ σ' : Type} (o : Observer σ) (o' : Observer σ') (cfg : Settings)
    {sprites : List Sprite} {t : Sprite} {pos : Nat} (watcher : σ) (watcher' : σ')
    (hids : ((sprites.insertIdx pos t).map (·.id)).Nodup) (hpos : pos ≤ sprites.length)
    (hplan : ∃ s ∈ sprites, s.plan cfg.maxRepeat ≠ [])
    (hgoes : ((Session.begin sprites watcher false).runAll o cfg).1.stopped = false)
    (hgoes' : ((Session.begin (sprites.insertIdx pos t) watcher' false).runAll o' cfg).1.stopped =
      false)
    (hno : ∀ e ∈ ((Session.begin (sprites.insertIdx pos t) watcher' false).runAll o'
        cfg).2.scene.encounters, e.1.id ≠ t.id ∧ e.2.id ≠ t.id) :
    ((Session.begin sprites watcher false).runAll o cfg).2.scene.Without pos t.id
      ((Session.begin (sprites.insertIdx pos t) watcher' false).runAll o' cfg).2.scene := by
  have hquiet := Plot.quiet_atEnd o cfg sprites watcher false hgoes
  have hquiet' := Plot.quiet_atEnd o' cfg (sprites.insertIdx pos t) watcher' false hgoes'
  have hover := Plot.isOver_atEnd o cfg sprites watcher false
  have hover' := Plot.isOver_atEnd o' cfg (sprites.insertIdx pos t) watcher' false
  rw [scene_runAll] at hno
  rw [scene_runAll, scene_runAll]
  generalize Plot.atEnd o cfg sprites watcher false = q at hquiet hover ⊢
  generalize Plot.atEnd o' cfg (sprites.insertIdx pos t) watcher' false = p at hquiet' hover' hno ⊢
  exact hquiet.without hids hpos hplan hover hquiet' hover' hno

/-- **A bystander does not change the run of the others.** If a sprite that is put among others
meets none of them, each of the others starts the same blocks at the same instants and is left with
the same pose and the same queue, and the same collisions are reported. -/
theorem Session.runAll_bystander {σ σ' : Type} (o : Observer σ) (o' : Observer σ')
    (cfg : Settings) (sprites : List Sprite) (t : Sprite) (pos : Nat) (watcher : σ) (watcher' : σ')
    (hids : (sprites.map (·.id)).Nodup) (hnew : t.id ∉ sprites.map (·.id))
    (hpos : pos ≤ sprites.length) (hplan : ∃ s ∈ sprites, s.plan cfg.maxRepeat ≠ [])
    (hgoes : ((Session.begin sprites watcher false).runAll o cfg).1.stopped = false)
    (hgoes' : ((Session.begin (sprites.insertIdx pos t) watcher' false).runAll o' cfg).1.stopped =
      false)
    (hno : ∀ e ∈ Journal.encounters
        ((Session.begin (sprites.insertIdx pos t) watcher' false).runAll o' cfg).2.journal,
      e.1.id ≠ t.id ∧ e.2.id ≠ t.id) :
    let run := (Session.begin sprites watcher false).runAll o cfg
    let run' := (Session.begin (sprites.insertIdx pos t) watcher' false).runAll o' cfg
    (∀ k, startsOf (skip pos k) run'.2.journal.beats = startsOf k run.2.journal.beats) ∧
    (∀ k, run'.2.sprites[skip pos k]?.map (·.pose) = run.2.sprites[k]?.map (·.pose)) ∧
    (∀ s ∈ sprites, run'.2.stage.queues.get s.id = run.2.stage.queues.get s.id) ∧
    run'.1.collisions = run.1.collisions := by
  have hcollisions := Session.collisions_runAll o cfg sprites watcher false
  have hcollisions' := Session.collisions_runAll o' cfg (sprites.insertIdx pos t) watcher' false
  rw [← scene_runAll] at hcollisions hcollisions'
  have hwithout := Session.without_runAll o o' cfg watcher watcher'
    (nodup_insertIdx hids hnew hpos) hpos hplan hgoes hgoes'
  clear hgoes hgoes'
  generalize (Session.begin sprites watcher false).runAll o cfg = run at hcollisions hwithout ⊢
  generalize (Session.begin (sprites.insertIdx pos t) watcher' false).runAll o' cfg = run'
    at hno hcollisions' hwithout ⊢
  have hscene : ∀ e ∈ run'.2.scene.encounters, e.1.id ≠ t.id ∧ e.2.id ≠ t.id := by
    intro e he
    rw [scene_encounters] at he
    obtain ⟨e', he', rfl⟩ := List.mem_map.mp he
    exact hno e' he'
  have h := hwithout hscene
  refine ⟨h.startsOf, h.poses, ?_, ?_⟩
  · intro s hs
    refine h.queue ?_
    intro heq
    exact hnew (heq ▸ List.mem_map.mpr ⟨s, hs, rfl⟩)
  · rw [hcollisions, hcollisions', h.collisions]

/-- A sprite far off that turns about. -/
def bird : Sprite :=
  { Sprite.blank "bird" "Bird" "#59C059" 0 900 "Script 1" with
    scripts := [⟨"Script 1", [⟨"b5", .turn, {}, []⟩, ⟨"b6", .turn, {}, []⟩]⟩] }

theorem Session.runAll_bystander_catAndDog :
    let run := (Session.begin catAndDog () false).runAll .silent {}
    let run' := (Session.begin (catAndDog.insertIdx 1 bird) () false).runAll .silent {}
    startsOf (skip 1 1) run'.2.journal.beats = startsOf 1 run.2.journal.beats ∧
      run'.1.collisions = run.1.collisions := by
  obtain ⟨hstarts, -, -, hcollisions⟩ := runAll_bystander .silent .silent {} catAndDog bird 1 () ()
    (by decide) (by decide) (by decide) (by decide) (by decide +kernel) (by decide +kernel)
    (by decide +kernel)
  exact ⟨hstarts 1, hcollisions⟩

end SpriteScript
