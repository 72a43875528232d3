/-
  The course of a plot.

  * `startTimes` and `endTime`: when a runner that never idles starts some blocks, and when it is
    done with them;
  * `Sprite.role` is what a sprite keeps throughout a run;
  * `Plot.OnCourse`: each runner that is not done has one wakeup, at the instant its blocks are
    over, and has started its blocks without idling;
  * `Plot.Wake` says what a wakeup comes to, and `OnCourse.wake` that it comes to that;
  * `Reachable.onCourse`: **all plots of a run are on course**, so that `Reachable.rec_wake` proves
    what holds of all of them wakeup by wakeup.
-/
import Mathlib.Algebra.GroupWithZero.Nat
import SpriteScript.Proofs.Plot

namespace SpriteScript

/-! ## Instants -/

section
variable (cfg : Settings)

/-- How long some blocks take one after the other. -/
def totalDelay (bs : List Block) : Nat := (bs.map (·.delay cfg)).sum

/-- When a runner is done with the blocks it has started, if it never idles. -/
def endTime (bs : List Block) : Nat := min (totalDelay cfg bs) lastInstant

/-- When a runner starts each of its blocks, if it never idles. -/
def startTimes (bs : List Block) : List Nat :=
  (List.range bs.length).map fun k => endTime cfg (bs.take k)

theorem endTime_append (bs : List Block) (b : Block) :
    endTime cfg (bs ++ [b]) = after (endTime cfg bs) (b.delay cfg) := by
  simp only [endTime, totalDelay, after, List.map_append, List.sum_append, List.map_cons,
    List.map_nil, List.sum_cons, List.sum_nil]
  omega

theorem startTimes_append (bs : List Block) (b : Block) :
    startTimes cfg (bs ++ [b]) = startTimes cfg bs ++ [endTime cfg bs] := by
  simp only [startTimes, List.length_append, List.length_cons, List.length_nil, List.range_succ,
    List.map_append, List.map_cons, List.map_nil, Nat.zero_add]
  congr 1
  · apply List.map_congr_left
    intro k hk
    rw [List.take_append_of_le_length (Nat.le_of_lt (List.mem_range.mp hk))]
  · rw [List.take_left]

end

/-! ## Beats -/

/-- The blocks started by the sprite at a place. -/
def blocksOf (i : Nat) (beats : List Beat) : List Block := (startsOf i beats).map (·.2)

section
variable (i j t : Nat) (b : Block) (beats : List Beat)

@[simp] theorem startsOf_start :
    startsOf j (beats ++ [⟨t, i, some b⟩]) =
      startsOf j beats ++ if i = j then [(t, b)] else [] := by
  simp only [startsOf, List.filterMap_append]
  by_cases h : i = j <;> simp [h]

@[simp] theorem startsOf_finish :
    startsOf j (beats ++ [⟨t, i, none⟩]) = startsOf j beats := by simp [startsOf]

@[simp] theorem endsOf_start :
    endsOf j (beats ++ [⟨t, i, some b⟩]) = endsOf j beats := by simp [endsOf]

@[simp] theorem endsOf_finish :
    endsOf j (beats ++ [⟨t, i, none⟩]) = endsOf j beats ++ if i = j then [t] else [] := by
  simp only [endsOf, List.filterMap_append]
  by_cases h : i = j <;> simp [h]

@[simp] theorem allStarts_start :
    allStarts (beats ++ [⟨t, i, some b⟩]) = allStarts beats ++ [(i, b)] := by simp [allStarts]

@[simp] theorem allStarts_finish :
    allStarts (beats ++ [⟨t, i, none⟩]) = allStarts beats := by simp [allStarts]

@[simp] theorem blocksOf_finish :
    blocksOf j (beats ++ [⟨t, i, none⟩]) = blocksOf j beats := by simp [blocksOf]

theorem blocksOf_start :
    blocksOf j (beats ++ [⟨t, i, some b⟩]) = blocksOf j beats ++ if i = j then [b] else [] := by
  simp only [blocksOf, startsOf_start, List.map_append]
  split <;> rfl

end

/-! ## Plots on course -/

/-- What a sprite keeps throughout a run: all but its pose and what is transient. -/
def Sprite.role (s : Sprite) : Sprite := { s.calm with pose := default }

section
variable {a b : Sprite}

theorem Sprite.id_of_role (h : a.role = b.role) : a.id = b.id :=
  (congrArg Sprite.id h : a.role.id = b.role.id)

theorem Sprite.name_of_role (h : a.role = b.role) : a.name = b.name :=
  (congrArg Sprite.name h : a.role.name = b.role.name)

theorem Sprite.plan_of_role (limit : Nat) (h : a.role = b.role) : a.plan limit = b.plan limit :=
  (congrArg (Sprite.plan limit) h : a.role.plan limit = b.role.plan limit)

end

/-- The runner at a place, unless it is done. -/
def Plot.runner? (p : Plot) (i : Nat) : Option ScriptRunner := p.runners[i]?.join

theorem Plot.runner?_eq_none {p : Plot} (h : p.isOver = true) (i : Nat) : p.runner? i = none := by
  have hall : ∀ x ∈ p.runners, x.isNone := List.all_eq_true.mp h
  unfold runner?
  cases hi : p.runners[i]? with
  | none => rfl
  | some x => exact Option.isNone_iff_eq_none.mp (hall x (List.mem_of_getElem? hi))

theorem Plot.isOver_of_runner? {p : Plot} (h : ∀ i, p.runner? i = none) : p.isOver = true := by
  refine List.all_eq_true.mpr ?_
  intro x hx
  obtain ⟨i, hi⟩ := List.mem_iff_getElem?.mp hx
  have hnone := h i
  rw [runner?, hi] at hnone
  exact Option.isNone_iff_eq_none.mpr hnone

/-- A plot in which no runner idles. -/
structure Plot.OnCourse (cfg : Settings) (sprites : List Sprite) (p : Plot) : Prop where
  length : p.runners.length = sprites.length
  roles : p.scene.bodies.map Sprite.role = sprites.map Sprite.role
  placed : ∀ i r, p.runner? i = some r → r.sprite = i
  ordered : Ascending p.scene.wakeups
  tasks : ∀ w ∈ p.scene.wakeups, ∃ i, w.task = .runner i
  wakeups : ∀ i, p.scene.wakeups.filter (fun w => w.task = .runner i) =
    if (p.runner? i).isSome then [⟨endTime cfg (blocksOf i p.scene.beats), .runner i⟩] else []
  starts : ∀ i, (startsOf i p.scene.beats).map (·.1) = startTimes cfg (blocksOf i p.scene.beats)
  ends : ∀ i < sprites.length, endsOf i p.scene.beats =
    if (p.runner? i).isSome then [] else [endTime cfg (blocksOf i p.scene.beats)]
  busy : ∀ i r, p.runner? i = some r → (r.busy = none ↔ blocksOf i p.scene.beats = [])
  past : ∀ e ∈ p.scene.beats, ∀ w ∈ p.scene.wakeups, e.time ≤ w.due
  started : p.scene.started = (allStarts p.scene.beats).length

/-- What the wakeup of the runner at place `i` comes to, in the scene `c` that it finds. -/
inductive Plot.Wake (cfg : Settings) (p : Plot) (i : Nat) (c : Scene) : Bool → Plot → Prop where
  /-- There is no block, or a stop is heeded. -/
  | finish (stopped : Bool) : (stopped = false → c.pop? i = none) →
      Wake cfg p i c stopped ⟨c.finish i, p.runners.set i none⟩
  | start {b : Block} {c' : Scene} : c.pop? i = some (b, c') →
      Wake cfg p i c false
        ⟨(c'.start cfg i b).schedule (b.delay cfg) i, p.runners.set i (some ⟨i, some b⟩)⟩

/-- The wakeup that comes first is that of the runner `r` at place `i`; `c` is the scene that it
finds when it has ended its block or filled its queue. -/
structure Plot.Turn (cfg : Settings) (p : Plot) (i : Nat) (r : ScriptRunner) (rest : List Wakeup)
    (c : Scene) : Prop where
  runner : p.runner? i = some r
  sprite : r.sprite = i
  first : p.scene.wakeups = ⟨endTime cfg (blocksOf i p.scene.beats), .runner i⟩ :: rest
  alone : rest.filter (fun w => w.task = .runner i) = []
  scene : c = Scene.settleBusy cfg r
    { p.scene with now := endTime cfg (blocksOf i p.scene.beats), wakeups := rest }

namespace Plot.OnCourse

variable {cfg : Settings} {sprites : List Sprite} {p : Plot}

theorem lt_of_runner? (h : p.OnCourse cfg sprites) {i : Nat} {r : ScriptRunner}
    (hr : p.runner? i = some r) : i < sprites.length := by
  rw [← h.length]
  by_contra hi
  simp [runner?, List.getElem?_eq_none (Nat.le_of_not_lt hi)] at hr

theorem role_eq (h : p.OnCourse cfg sprites) (i : Nat) :
    p.scene.bodies[i]?.map Sprite.role = sprites[i]?.map Sprite.role := by
  rw [← List.getElem?_map, ← List.getElem?_map, h.roles]

/-- **As long as a runner is not done, the first wakeup is that of a runner that is not.** -/
theorem turn (h : p.OnCourse cfg sprites) (hover : p.isOver = false) :
    ∃ i r rest c, p.Turn cfg i r rest c := by
  obtain ⟨x, hx, hsome⟩ : ∃ x ∈ p.runners, x.isSome := by
    simpa [isOver, Option.isSome_iff_ne_none] using hover
  obtain ⟨k, hk⟩ := List.mem_iff_getElem?.mp hx
  have hrunner : (p.runner? k).isSome := by simpa [runner?, hk] using hsome
  have hfilter := h.wakeups k
  rw [if_pos hrunner] at hfilter
  cases hw : p.scene.wakeups with
  | nil => simp [hw] at hfilter
  | cons w rest =>
    obtain ⟨i, hi⟩ := h.tasks w (by simp [hw])
    have hone := h.wakeups i
    rw [hw, List.filter_cons, if_pos (by simpa using hi)] at hone
    split at hone
    · next hsome =>
      obtain ⟨r, hr⟩ := Option.isSome_iff_exists.mp hsome
      obtain ⟨rfl, hrest⟩ := List.cons.inj hone
      exact ⟨i, r, rest, _, hr, h.placed i r hr, hw, hrest, rfl⟩
    · simp at hone

end Plot.OnCourse

namespace Plot

variable {cfg : Settings} {sprites : List Sprite} {p : Plot} {i : Nat} {r : ScriptRunner}
  {rest : List Wakeup} {c : Scene}

theorem runner?_set {x : Option ScriptRunner} (h : p.runner? i = some r) (c : Scene) (j : Nat) :
    (Plot.mk c (p.runners.set i x)).runner? j = if i = j then x else p.runner? j := by
  have hi : i < p.runners.length := by
    by_contra hi
    simp [runner?, List.getElem?_eq_none (Nat.le_of_not_lt hi)] at h
  simp only [runner?, List.getElem?_set]
  by_cases hj : i = j
  · simp [hj, hj ▸ hi]
  · simp [hj]

/-- **What a wakeup comes to.** -/
theorem Turn.wake (h : p.Turn cfg i r rest c) (stopped : Bool) :
    p.Wake cfg i c stopped (p.wake cfg stopped) := by
  have hproceed : p.wake cfg stopped = proceed cfg stopped i r c p.runners := by
    unfold Plot.wake
    rw [h.first, h.scene]
    dsimp only
    rw [show p.runners[i]?.join = some r from h.runner]
  rw [hproceed]
  unfold proceed
  rw [h.sprite]
  cases hnext : if stopped then none else c.pop? i with
  | none =>
    refine .finish stopped ?_
    intro hs
    simpa [hs] using hnext
  | some bc =>
    obtain ⟨b, c'⟩ := bc
    cases stopped with
    | true => simp at hnext
    | false => exact .start hnext

theorem Turn.frame (h : p.Turn cfg i r rest c) :
    c.bodies = p.scene.bodies ∧ c.wakeups = rest ∧
      c.now = endTime cfg (blocksOf i p.scene.beats) ∧ c.beats = p.scene.beats ∧
        c.started = p.scene.started := by
  rw [h.scene]
  exact Scene.settleBusy_frame cfg r _

/-- A runner that is woken for the first time fills the queue of its sprite. -/
theorem Turn.scene_of_fresh (h : p.Turn cfg i r rest c) (hbusy : r.busy = none) :
    c = Scene.seed cfg i
      { p.scene with now := endTime cfg (blocksOf i p.scene.beats), wakeups := rest } := by
  rw [h.scene, Scene.settleBusy, hbusy, h.sprite]

/-- A runner that is woken within a block ends it with a collision pass. -/
theorem Turn.scene_of_busy (h : p.Turn cfg i r rest c) {b : Block} (hbusy : r.busy = some b) :
    c = Scene.collide
      { p.scene with now := endTime cfg (blocksOf i p.scene.beats), wakeups := rest } := by
  rw [h.scene, Scene.settleBusy, hbusy]

end Plot

theorem Scene.pop?_eq_some {c c' : Scene} {i : Nat} {b : Block} (h : c.pop? i = some (b, c')) :
    ∃ body rest, c.bodies[i]? = some body ∧ c.queues.get? body.id = some (b :: rest) ∧
      c' = { c with queues := c.queues.set body.id rest } := by
  simp only [pop?, Option.bind_eq_bind, Option.bind_eq_some_iff] at h
  obtain ⟨body, hbody, ⟨b', queues⟩, hpop, h⟩ := h
  obtain ⟨rfl, rfl⟩ := Prod.mk.inj (Option.some.inj h)
  unfold RunQueues.pop? at hpop
  split at hpop
  · next b' rest hq =>
    obtain ⟨rfl, rfl⟩ := Prod.mk.inj (Option.some.inj hpop)
    exact ⟨body, rest, hbody, hq, rfl⟩
  · simp at hpop

theorem Scene.pop?_of_get? {c : Scene} {i : Nat} {body : Sprite} {b : Block} {rest : List Block}
    (hbody : c.bodies[i]? = some body) (hget : c.queues.get? body.id = some (b :: rest)) :
    c.pop? i = some (b, { c with queues := c.queues.set body.id rest }) := by
  simp [pop?, hbody, RunQueues.pop?, hget]

theorem Scene.start_frame (cfg : Settings) {c c' : Scene} {i : Nat} {b : Block}
    (h : c.pop? i = some (b, c')) :
    let d := (c'.start cfg i b).schedule (b.delay cfg) i
    d.beats = c.beats ++ [⟨c.now, i, some b⟩] ∧
      d.wakeups = insertWakeup ⟨after c.now (b.delay cfg), .runner i⟩ c.wakeups ∧
      d.bodies = c.bodies.modify i (fun s => { s with pose := (b.action cfg).apply s.pose }) ∧
      d.started = c.started + 1 ∧ d.now = c.now := by
  obtain ⟨body, rest, -, -, rfl⟩ := pop?_eq_some h
  exact ⟨rfl, rfl, rfl, rfl, rfl⟩

/-! ## Every plot of a run -/

theorem filter_range_eq (i n : Nat) :
    (List.range n).filter (· = i) = if i < n then [i] else [] := by
  induction n with
  | zero => rfl
  | succ n ih =>
    rw [List.range_succ, List.filter_append, ih]
    by_cases hi : n = i
    · simp [hi]
    · have hlt : i < n ↔ i < n + 1 := by omega
      simp [hi, hlt]

namespace Plot.OnCourse

variable {cfg : Settings} {sprites : List Sprite} {p : Plot} {i : Nat} {r : ScriptRunner}
  {rest : List Wakeup} {c : Scene}

theorem runner?_opening (i : Nat) : (Plot.opening sprites).runner? i =
    if i < sprites.length then some { sprite := i } else none := by
  simp only [runner?, Plot.opening, List.getElem?_map]
  by_cases hi : i < sprites.length
  · simp [hi]
  · simp [hi]

theorem opening : (Plot.opening sprites).OnCourse cfg sprites where
  length := by simp [Plot.opening]
  roles := by
    simp only [Plot.opening, List.map_map]
    rfl
  placed i r hr := by
    rw [runner?_opening] at hr
    split at hr
    · exact (Option.some.inj hr) ▸ rfl
    · simp at hr
  ordered := List.pairwise_map.mpr (List.pairwise_of_forall fun _ _ => Nat.le_refl 0)
  tasks w hw := by
    obtain ⟨i, -, rfl⟩ := List.mem_map.mp hw
    exact ⟨i, rfl⟩
  wakeups i := by
    have hfilter : (Plot.opening sprites).scene.wakeups.filter (fun w => w.task = .runner i) =
        if i < sprites.length then [⟨0, .runner i⟩] else [] := by
      rw [Plot.opening, List.filter_map]
      have hpred : (fun w : Wakeup => decide (w.task = .runner i)) ∘
          (fun j => ⟨0, .runner j⟩) = fun j => decide (j = i) := by
        funext j
        simp
      rw [hpred, filter_range_eq]
      split <;> rfl
    rw [hfilter, runner?_opening]
    by_cases hi : i < sprites.length
    · simp only [hi, if_true, Option.isSome_some]
      rfl
    · simp [hi]
  starts _ := rfl
  ends i hi := by
    rw [runner?_opening, if_pos hi]
    rfl
  busy i r hr := by
    rw [runner?_opening] at hr
    split at hr
    · exact (Option.some.inj hr) ▸ ⟨fun _ => rfl, fun _ => rfl⟩
    · simp at hr
  past e he := by simp [Plot.opening] at he
  started := rfl

theorem rest_ahead (h : p.OnCourse cfg sprites) (ht : p.Turn cfg i r rest c) :
    Ascending rest ∧ ∀ w ∈ rest, endTime cfg (blocksOf i p.scene.beats) ≤ w.due := by
  have hordered := ht.first ▸ h.ordered
  obtain ⟨hfirst, hrest⟩ := List.pairwise_cons.mp hordered
  exact ⟨hrest, hfirst⟩

theorem filter_rest (h : p.OnCourse cfg sprites) (ht : p.Turn cfg i r rest c) {j : Nat}
    (hj : i ≠ j) : rest.filter (fun w => w.task = .runner j) =
      if (p.runner? j).isSome then [⟨endTime cfg (blocksOf j p.scene.beats), .runner j⟩] else [] := by
  rw [← h.wakeups j, ht.first, List.filter_cons, if_neg (by simpa using hj)]

theorem finish (h : p.OnCourse cfg sprites) (ht : p.Turn cfg i r rest c) :
    (Plot.mk (c.finish i) (p.runners.set i none)).OnCourse cfg sprites := by
  obtain ⟨hbodies, hwakeups, hnow, hbeats, hstarted⟩ := ht.frame
  obtain ⟨hordered, hahead⟩ := h.rest_ahead ht
  have hrunner := runner?_set (x := none) ht.runner (c.finish i)
  have hblocks (j : Nat) : blocksOf j (c.finish i).beats = blocksOf j p.scene.beats := by
    simp [Scene.finish, hbeats]
  have hsub : ∀ w ∈ rest, w ∈ p.scene.wakeups := by
    intro w hw
    rw [ht.first]
    exact List.mem_cons_of_mem _ hw
  constructor
  case length => simpa using h.length
  case roles => simpa [Scene.finish, hbodies] using h.roles
  case placed =>
    intro j r' hr'
    rw [hrunner] at hr'
    split at hr'
    · simp at hr'
    · exact h.placed j r' hr'
  case ordered => simpa [Scene.finish, hwakeups] using hordered
  case tasks => intro w hw; exact h.tasks w (hsub w (by simpa [Scene.finish, hwakeups] using hw))
  case wakeups =>
    intro j
    rw [hrunner, hblocks]
    by_cases hj : i = j
    · subst hj
      simpa [Scene.finish, hwakeups] using ht.alone
    · simpa [Scene.finish, hwakeups, hj] using h.filter_rest ht hj
  case starts =>
    intro j
    rw [hblocks]
    simpa [Scene.finish, hbeats] using h.starts j
  case ends =>
    intro j hlt
    have hends := h.ends j hlt
    rw [hrunner, hblocks]
    by_cases hj : i = j
    · subst hj
      rw [ht.runner] at hends
      simpa [Scene.finish, hbeats, hnow] using hends
    · simpa [Scene.finish, hbeats, hj] using hends
  case busy =>
    intro j r' hr'
    rw [hrunner] at hr'
    split at hr'
    · simp at hr'
    · rw [hblocks]
      exact h.busy j r' hr'
  case past =>
    intro e he w hw
    have hw' : w ∈ rest := by simpa [Scene.finish, hwakeups] using hw
    rcases List.mem_append.mp he with he | he
    · exact h.past e (hbeats ▸ he) w (hsub w hw')
    · rw [List.mem_singleton.mp he, hnow]
      exact hahead w hw'
  case started =>
    simpa [Scene.finish, hbeats, hstarted] using h.started

theorem start (h : p.OnCourse cfg sprites) (ht : p.Turn cfg i r rest c) {b : Block} {c' : Scene}
    (hpop : c.pop? i = some (b, c')) :
    (Plot.mk ((c'.start cfg i b).schedule (b.delay cfg) i)
      (p.runners.set i (some ⟨i, some b⟩))).OnCourse cfg sprites := by
  obtain ⟨hbodies, hwakeups, hnow, hbeats, hstarted⟩ := ht.frame
  obtain ⟨hordered, hahead⟩ := h.rest_ahead ht
  obtain ⟨hdbeats, hdwakeups, hdbodies, hdstarted, -⟩ := c.start_frame cfg hpop
  generalize (c'.start cfg i b).schedule (b.delay cfg) i = d at *
  rw [hbeats, hnow] at hdbeats
  rw [hwakeups, hnow, ← endTime_append] at hdwakeups
  rw [hbodies] at hdbodies
  have hrunner := runner?_set (x := some ⟨i, some b⟩) ht.runner d
  have hdue : ∀ w ∈ d.wakeups, endTime cfg (blocksOf i p.scene.beats) ≤ w.due := by
    intro w hw
    rw [hdwakeups] at hw
    rcases mem_insertWakeup.mp hw with rfl | hw
    · rw [endTime_append, after]
      have hle : endTime cfg (blocksOf i p.scene.beats) ≤ lastInstant := Nat.min_le_right _ _
      simp only
      omega
    · exact hahead w hw
  constructor
  case length => simpa using h.length
  case roles =>
    rw [← h.roles, hdbodies]
    refine map_modify_of_eq ?_ i p.scene.bodies
    intro s
    rfl
  case placed =>
    intro j r' hr'
    rw [hrunner] at hr'
    split at hr'
    · next hj => exact (Option.some.inj hr') ▸ hj
    · exact h.placed j r' hr'
  case ordered => exact hdwakeups ▸ sorted_insertWakeup _ _ hordered
  case tasks =>
    intro w hw
    rcases mem_insertWakeup.mp (hdwakeups ▸ hw) with rfl | hw
    · exact ⟨i, rfl⟩
    · exact h.tasks w (ht.first ▸ List.mem_cons_of_mem _ hw)
  case wakeups =>
    intro j
    rw [hrunner, hdwakeups, hdbeats, blocksOf_start]
    by_cases hj : i = j
    · subst hj
      simpa using filter_insertWakeup_self ht.alone
    · rw [filter_insertWakeup_of_neg (by simpa using hj), h.filter_rest ht hj]
      simp [hj]
  case starts =>
    intro j
    simp only [hdbeats, blocksOf_start, startsOf_start, List.map_append, h.starts j]
    by_cases hj : i = j
    · subst hj
      simp [startTimes_append]
    · simp [hj]
  case ends =>
    intro j hj
    have hends := h.ends j hj
    rw [hrunner, hdbeats, endsOf_start, blocksOf_start]
    by_cases hj : i = j
    · subst hj
      rw [ht.runner] at hends
      simpa using hends
    · simpa [hj] using hends
  case busy =>
    intro j r' hr'
    rw [hrunner] at hr'
    rw [hdbeats, blocksOf_start]
    split at hr'
    · next hj =>
      rw [← Option.some.inj hr', if_pos hj]
      simp
    · next hj => simpa [hj] using h.busy j r' hr'
  case past =>
    intro e he w hw
    rcases List.mem_append.mp (hdbeats ▸ he) with he | he
    · refine Nat.le_trans (h.past e he ⟨endTime cfg (blocksOf i p.scene.beats), .runner i⟩ ?_)
        (hdue w hw)
      rw [ht.first]
      exact List.mem_cons_self
    · rw [List.mem_singleton.mp he]
      exact hdue w hw
  case started =>
    rw [hdbeats, allStarts_start, List.length_append, ← h.started, ← hstarted, hdstarted]
    rfl

theorem wait (h : p.OnCourse cfg sprites) (t : Nat) : (p.wait t).OnCourse cfg sprites :=
  ⟨h.length, h.roles, h.placed, h.ordered, h.tasks, h.wakeups, h.starts, h.ends, h.busy, h.past,
    h.started⟩

end Plot.OnCourse

namespace Plot

variable {cfg : Settings} {sprites : List Sprite} {p : Plot}

/-- **A plot on course stays so.** -/
theorem OnCourse.wake (h : p.OnCourse cfg sprites) {i : Nat} {r : ScriptRunner}
    {rest : List Wakeup} {c : Scene} (ht : p.Turn cfg i r rest c) {stopped : Bool} {p' : Plot}
    (hw : p.Wake cfg i c stopped p') : p'.OnCourse cfg sprites := by
  cases hw with
  | finish => exact h.finish ht
  | start hpop => exact h.start ht hpop

/-- **No runner idles in any plot of a run.** -/
theorem Reachable.onCourse (h : Reachable cfg sprites p) : p.OnCourse cfg sprites := by
  induction h with
  | opening => exact OnCourse.opening
  | next _ hover hnext ih =>
    cases hnext with
    | wait t => exact ih.wait t
    | wake =>
      obtain ⟨i, r, rest, c, ht⟩ := ih.turn hover
      exact ih.wake ht (ht.wake _)

/-- **What holds as a run begins, and is left by no passing of time and no wakeup, holds
throughout.** -/
theorem Reachable.rec_wake {motive : Plot → Prop} (opening : motive (Plot.opening sprites))
    (wait : ∀ p t, motive p → p.isOver = false → p.scene.now ≤ t → motive (p.wait t))
    (wake : ∀ p i r rest c stopped p', motive p → p.OnCourse cfg sprites →
      p.Turn cfg i r rest c → p.Wake cfg i c stopped p' → motive p')
    (h : Reachable cfg sprites p) : motive p := by
  induction h with
  | opening => exact opening
  | next hreach hover hnext ih =>
    cases hnext with
    | wait t hle => exact wait _ t ih hover hle
    | wake =>
      obtain ⟨i, r, rest, c, ht⟩ := hreach.onCourse.turn hover
      exact wake _ i r rest c _ _ ih hreach.onCourse ht (ht.wake _)

end Plot

end SpriteScript
