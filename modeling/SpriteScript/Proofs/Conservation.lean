/-
  No block gets lost.

  * `motionOf` and `looksOf` are the blocks that move and those that speak;
  * `Ledger` accounts for all blocks of the plans: the motion of each plan is in one queue but for
    what was started, the looks are in the queue of their own sprite but for what it started;
  * `Ledger.start` and `Ledger.exchange`: what a start and a meeting make of the accounts;
  * `Reachable.ledger`: **the accounts are in order throughout a run**, counting the plan of a
    sprite as long as its queue has not been filled;
  * `Drive.ledger_after`: **no block is lost, doubled or put before another one**.
-/
import SpriteScript.Proofs.FirstRound
import SpriteScript.Proofs.Encounters
import Mathlib.Logic.Equiv.Basic
import Mathlib.Algebra.Group.End

namespace SpriteScript

/-! ## Motion and looks -/

/-- The blocks that move, in order. -/
def motionOf (bs : List Block) : List Block := bs.filter fun b => !b.isLooks

/-- The blocks that speak, in order. -/
def looksOf (bs : List Block) : List Block := bs.filter fun b => b.isLooks

section
variable (bs bs' : List Block)

theorem splitLooks_eq : splitLooks bs = (motionOf bs, looksOf bs) := by
  simp [splitLooks, motionOf, looksOf, List.partition_eq_filter_filter, Function.comp_def]

@[simp] theorem motionOf_append : motionOf (bs ++ bs') = motionOf bs ++ motionOf bs' := by
  simp [motionOf]

@[simp] theorem looksOf_append : looksOf (bs ++ bs') = looksOf bs ++ looksOf bs' := by
  simp [looksOf]

@[simp] theorem motionOf_motionOf : motionOf (motionOf bs) = motionOf bs := by simp [motionOf]

@[simp] theorem looksOf_looksOf : looksOf (looksOf bs) = looksOf bs := by simp [looksOf]

@[simp] theorem motionOf_looksOf : motionOf (looksOf bs) = [] := by simp [motionOf, looksOf]

@[simp] theorem looksOf_motionOf : looksOf (motionOf bs) = [] := by simp [motionOf, looksOf]

end

namespace RunQueues

theorem get?_swapMotion (q : RunQueues) {a b : String} (hab : a ≠ b) :
    (q.swapMotion a b).get? a = some (motionOf (q.get b) ++ looksOf (q.get a)) ∧
      (q.swapMotion a b).get? b = some (motionOf (q.get a) ++ looksOf (q.get b)) := by
  have htake : (q.take a).2.get b = q.get b := by rw [get, get?_take, if_neg hab, get]
  have hfst : (q.take a).1 = q.get a := rfl
  have hsnd : ((q.take a).2.take b).1 = (q.take a).2.get b := rfl
  unfold swapMotion
  simp only [hfst, hsnd, htake, splitLooks_eq]
  constructor
  · rw [get?_set, if_neg (Ne.symm hab), get?_set, if_pos rfl]
  · rw [get?_set, if_pos rfl]

theorem get_swapMotion (q : RunQueues) {a b : String} (hab : a ≠ b) :
    (q.swapMotion a b).get a = motionOf (q.get b) ++ looksOf (q.get a) ∧
      (q.swapMotion a b).get b = motionOf (q.get a) ++ looksOf (q.get b) := by
  obtain ⟨ha, hb⟩ := q.get?_swapMotion hab
  exact ⟨congrArg (·.getD []) ha, congrArg (·.getD []) hb⟩

theorem get_swapMotion_of_ne (q : RunQueues) {a b c : String} (ha : a ≠ c) (hb : b ≠ c) :
    (q.swapMotion a b).get c = q.get c := by
  rw [get, get?_swapMotion_of_ne q a b c ha hb, get]

theorem get_set (q : RunQueues) (a b : String) (queue : List Block) :
    (q.set a queue).get b = if a = b then queue else q.get b := by
  rw [get, get?_set]
  split <;> rfl

end RunQueues

/-! ## Accounts -/

/-- The accounts of some sprites with their plans: what was started and what waits. The motion that
waits for the sprite at place `i` is from the plan of the sprite at place `π i`; `owned` lists the
motion that was started, each block with the place of the sprite whose plan it is from. -/
structure Ledger {n : Nat} (plans : Fin n → List Block) (beats : List Beat)
    (waiting : Fin n → List Block) (π : Equiv.Perm (Fin n)) (owned : List (Fin n × Block)) :
    Prop where
  started : owned.map (·.2) = motionOf ((allStarts beats).map (·.2))
  motion : ∀ i, motionOf (plans (π i)) =
    (owned.filter (·.1 = π i)).map (·.2) ++ motionOf (waiting i)
  looks : ∀ i : Fin n, looksOf (plans i) = looksOf (blocksOf i beats) ++ looksOf (waiting i)

namespace Ledger

variable {n : Nat} {plans waiting waiting' : Fin n → List Block} {beats : List Beat}
  {π : Equiv.Perm (Fin n)} {owned : List (Fin n × Block)}

theorem opening : Ledger plans [] plans 1 [] := ⟨rfl, fun _ => rfl, fun _ => rfl⟩

theorem congr (h : Ledger plans beats waiting π owned) (hw : ∀ i, waiting' i = waiting i) :
    Ledger plans beats waiting' π owned := by
  rwa [show waiting' = waiting from funext hw]

theorem finish (h : Ledger plans beats waiting π owned) (t i : Nat) :
    Ledger plans (beats ++ [⟨t, i, none⟩]) waiting π owned where
  started := by rw [allStarts_finish, h.started]
  motion := h.motion
  looks j := by rw [blocksOf_finish, h.looks]

theorem start (h : Ledger plans beats waiting π owned) (t : Nat) {i : Fin n} {b : Block}
    {rest : List Block} (hi : waiting i = b :: rest) (hi' : waiting' i = rest)
    (hothers : ∀ j, i ≠ j → waiting' j = waiting j) :
    ∃ owned', Ledger plans (beats ++ [⟨t, i, some b⟩]) waiting' π owned' := by
  have hplace (j : Fin n) : (i : Nat) = j ↔ i = j := Fin.val_inj
  have hlooks : ∀ j : Fin n, looksOf (plans j) =
      looksOf (blocksOf j (beats ++ [⟨t, i, some b⟩])) ++ looksOf (waiting' j) := by
    intro j
    rw [h.looks j, blocksOf_start, looksOf_append, List.append_assoc]
    by_cases hj : i = j
    · subst hj
      have hb : looksOf (b :: rest) = looksOf [b] ++ looksOf rest := looksOf_append [b] rest
      rw [if_pos rfl, hi, hi', hb]
    · rw [if_neg fun heq => hj ((hplace j).mp heq), hothers j hj]
      rfl
  have hstarted : motionOf ((allStarts (beats ++ [⟨t, i, some b⟩])).map (·.2)) =
      owned.map (·.2) ++ motionOf [b] := by
    rw [allStarts_start, List.map_append, motionOf_append, h.started]
    rfl
  cases hb : b.isLooks with
  | true =>
    refine ⟨owned, ?_, ?_, hlooks⟩
    · rw [hstarted]
      simp [motionOf, hb]
    · intro j
      rw [h.motion j]
      by_cases hj : i = j
      · subst hj
        rw [hi, hi']
        simp [motionOf, hb]
      · rw [hothers j hj]
  | false =>
    refine ⟨owned ++ [(π i, b)], ?_, ?_, hlooks⟩
    · rw [hstarted]
      simp [motionOf, hb]
    · intro j
      rw [h.motion j, List.filter_append, List.map_append, List.append_assoc]
      by_cases hj : i = j
      · subst hj
        rw [hi, hi']
        simp [motionOf, hb]
      · rw [hothers j hj]
        simp [hj]

/-- Two sprites that meet exchange the plans whose motion waits for them. -/
theorem exchange (h : Ledger plans beats waiting π owned) {a b : Fin n}
    (ha : waiting' a = motionOf (waiting b) ++ looksOf (waiting a))
    (hb : waiting' b = motionOf (waiting a) ++ looksOf (waiting b))
    (hothers : ∀ i, i ≠ a → i ≠ b → waiting' i = waiting i) :
    Ledger plans beats waiting' (π * Equiv.swap a b) owned where
  started := h.started
  motion i := by
    rw [Equiv.Perm.mul_apply]
    by_cases hia : i = a
    · subst hia
      rw [Equiv.swap_apply_left, ha, h.motion b]
      simp
    · by_cases hib : i = b
      · subst hib
        rw [Equiv.swap_apply_right, hb, h.motion a]
        simp
      · rw [Equiv.swap_apply_of_ne_of_ne hia hib, hothers i hia hib, h.motion i]
  looks i := by
    rw [h.looks i]
    by_cases hia : i = a
    · subst hia
      rw [ha]
      simp
    · by_cases hib : i = b
      · subst hib
        rw [hb]
        simp
      · rw [hothers i hia hib]

end Ledger

/-! ## Scenes and plots -/

section
variable (cfg : Settings) (sprites : List Sprite)

/-- The plan of the sprite at a place. -/
def planAt (i : Fin sprites.length) : List Block := sprites[i].plan cfg.maxRepeat

/-- The queue of the sprite at a place. -/
def queueAt (queues : RunQueues) (i : Fin sprites.length) : List Block := queues.get sprites[i].id

/-- What waits for the sprite at a place: its plan as long as its runner has not been woken. -/
def Plot.waiting (p : Plot) (i : Fin sprites.length) : List Block :=
  if (p.runner? i).any (·.busy.isNone) then planAt cfg sprites i
  else queueAt sprites p.scene.queues i

end

section
variable {cfg : Settings} {sprites : List Sprite}

theorem id_ne (hids : (sprites.map (·.id)).Nodup) {i j : Fin sprites.length} (h : i ≠ j) :
    sprites[i].id ≠ sprites[j].id := fun heq =>
  h (Fin.ext (place_eq hids (List.getElem?_eq_getElem i.2) (List.getElem?_eq_getElem j.2) heq))

theorem Plot.waiting_of_allWoken {p : Plot} (h : p.AllWoken) (i : Fin sprites.length) :
    p.waiting cfg sprites i = queueAt sprites p.scene.queues i := by
  refine if_neg ?_
  cases hr : p.runner? i with
  | none => simp
  | some r => simpa using Option.isSome_iff_ne_none.mp (h i r hr)

theorem Plot.OnCourse.body {p : Plot} (h : p.OnCourse cfg sprites) {i : Nat} {body : Sprite}
    (hbody : p.scene.bodies[i]? = some body) :
    ∃ hi : i < sprites.length, body.role = sprites[i].role := by
  have hroles := h.role_eq i
  rw [hbody] at hroles
  cases hs : sprites[i]? with
  | none => simp [hs] at hroles
  | some sprite =>
    obtain ⟨hi, heq⟩ := List.getElem?_eq_some_iff.mp hs
    exact ⟨hi, by simpa [hs, heq] using hroles⟩

variable {beats : List Beat} {π : Equiv.Perm (Fin sprites.length)}
  {owned : List (Fin sprites.length × Block)}

/-- Two sprites that are compared exchange their motion, or nothing. -/
theorem Ledger.compare (hids : (sprites.map (·.id)).Nodup) {c : Scene}
    (h : Ledger (planAt cfg sprites) beats (queueAt sprites c.queues) π owned)
    {p : Sprite × Sprite} {a b : Fin sprites.length} (hab : a ≠ b) (ha : p.1.id = sprites[a].id)
    (hb : p.2.id = sprites[b].id) :
    ∃ π', Ledger (planAt cfg sprites) beats (queueAt sprites (c.compare p).queues) π' owned := by
  unfold Scene.compare
  split
  · obtain ⟨hfst, hsnd⟩ := c.queues.get_swapMotion (id_ne hids hab)
    refine ⟨_, h.exchange (a := a) (b := b) ?_ ?_ ?_⟩
    · simp only [Scene.meet, queueAt, ha, hb, hfst]
    · simp only [Scene.meet, queueAt, ha, hb, hsnd]
    · intro i hia hib
      simp only [Scene.meet, queueAt, ha, hb]
      exact RunQueues.get_swapMotion_of_ne _ (id_ne hids (Ne.symm hia)) (id_ne hids (Ne.symm hib))
  · exact ⟨π, h⟩

theorem Ledger.collide (hids : (sprites.map (·.id)).Nodup) {p : Plot}
    (hcourse : p.OnCourse cfg sprites) {c : Scene} (hbodies : c.bodies = p.scene.bodies)
    (h : Ledger (planAt cfg sprites) beats (queueAt sprites c.queues) π owned) :
    ∃ π', Ledger (planAt cfg sprites) beats (queueAt sprites c.collide.queues) π' owned := by
  refine Scene.collide_induction (motive := fun d =>
    ∃ π', Ledger (planAt cfg sprites) beats (queueAt sprites d.queues) π' owned) ⟨π, h⟩ ?_
  rintro d ⟨π', h'⟩ q hq
  obtain ⟨k, l, hkl, hk, hl⟩ := mem_pairsOf.mp hq
  obtain ⟨hk', hrole⟩ := hcourse.body (hbodies ▸ hk)
  obtain ⟨hl', hrole'⟩ := hcourse.body (hbodies ▸ hl)
  have hne : (⟨k, hk'⟩ : Fin sprites.length) ≠ ⟨l, hl'⟩ := by
    intro heq
    exact Nat.ne_of_lt hkl (Fin.mk.inj heq)
  exact h'.compare hids hne (Sprite.id_of_role hrole) (Sprite.id_of_role hrole')

end

namespace Plot

variable {cfg : Settings} {sprites : List Sprite} {p : Plot} {i : Nat} {r : ScriptRunner}
  {rest : List Wakeup} {c : Scene} {π : Equiv.Perm (Fin sprites.length)}
  {owned : List (Fin sprites.length × Block)}

/-- What waits when the runner at a place is not counted as one that has not been woken. -/
theorem waiting_set (ht : p.Turn cfg i r rest c) {x : Option ScriptRunner}
    (hx : x.any (·.busy.isNone) = false) (c' : Scene) (j : Fin sprites.length) :
    (Plot.mk c' (p.runners.set i x)).waiting cfg sprites j =
      if i ≠ j ∧ (p.runner? j).any (·.busy.isNone) then planAt cfg sprites j
      else queueAt sprites c'.queues j := by
  unfold waiting
  rw [runner?_set ht.runner]
  by_cases hj : i = j
  · simp [hj, hx]
  · simp [hj]

/-- A runner that is woken for the first time puts the plan of its sprite into its queue. -/
theorem Turn.queues_of_fresh (ht : p.Turn cfg i r rest c) (hcourse : p.OnCourse cfg sprites)
    (hbusy : r.busy = none) : ∃ hi : i < sprites.length,
      c.queues = p.scene.queues.set sprites[i].id (sprites[i].plan cfg.maxRepeat) := by
  have hi := hcourse.lt_of_runner? ht.runner
  have hsame := hcourse.role_eq i
  rw [List.getElem?_eq_getElem hi] at hsame
  obtain ⟨body, hbody, hrole⟩ := Option.map_eq_some_iff.mp hsame
  refine ⟨hi, ?_⟩
  rw [ht.scene_of_fresh hbusy]
  simp only [Scene.seed, hbody, RunQueues.seed, Sprite.id_of_role hrole,
    Sprite.plan_of_role _ hrole]

/-- Once all have been woken, they still are when one of them is not counted. -/
theorem Turn.allWoken_set (ht : p.Turn cfg i r rest c) (h : p.AllWoken) (c' : Scene) :
    (Plot.mk c' (p.runners.set i none)).AllWoken := by
  intro k r' hr'
  rw [runner?_set ht.runner] at hr'
  split at hr'
  · simp at hr'
  · exact h k r' hr'

/-- **The accounts stay in order when a runner ends its block or fills its queue.** -/
theorem Turn.ledger (hids : (sprites.map (·.id)).Nodup) (hcourse : p.OnCourse cfg sprites)
    (hround : p.Round) (ht : p.Turn cfg i r rest c)
    (h : Ledger (planAt cfg sprites) p.scene.beats (p.waiting cfg sprites) π owned) :
    ∃ π', Ledger (planAt cfg sprites) p.scene.beats
      ((Plot.mk c (p.runners.set i none)).waiting cfg sprites) π' owned := by
  cases hbusy : r.busy with
  | none =>
    -- the plan that was counted is now in the queue
    obtain ⟨hi, hqueues⟩ := ht.queues_of_fresh hcourse hbusy
    refine ⟨π, h.congr ?_⟩
    intro j
    rw [waiting_set ht rfl]
    by_cases hj : i = j
    · subst hj
      simp [waiting, ht.runner, hbusy, queueAt, planAt, hqueues, RunQueues.get_set]
    · have hne : sprites[i].id ≠ sprites[j].id :=
        id_ne hids (i := ⟨i, hi⟩) fun heq => hj (congrArg Fin.val heq)
      simp only [waiting, hj, ne_eq, not_false_eq_true, true_and, queueAt, hqueues,
        RunQueues.get_set, if_neg hne]
  | some b =>
    have hwoken : p.AllWoken := ht.all_woken hround (by simp [hbusy])
    have hqueues := h.congr fun j => (waiting_of_allWoken hwoken j).symm
    obtain ⟨π', h'⟩ := Ledger.collide hids hcourse
      (c := { p.scene with now := endTime cfg (blocksOf i p.scene.beats), wakeups := rest })
      rfl hqueues
    rw [← ht.scene_of_busy hbusy] at h'
    exact ⟨π', h'.congr (waiting_of_allWoken (ht.allWoken_set hwoken c))⟩

/-- **The accounts stay in order when the runner goes on.** -/
theorem Wake.ledger (hids : (sprites.map (·.id)).Nodup) (hcourse : p.OnCourse cfg sprites)
    (ht : p.Turn cfg i r rest c) {stopped : Bool} {p' : Plot} (hwake : p.Wake cfg i c stopped p')
    (h : Ledger (planAt cfg sprites) p.scene.beats
      ((Plot.mk c (p.runners.set i none)).waiting cfg sprites) π owned) :
    ∃ owned', Ledger (planAt cfg sprites) p'.scene.beats (p'.waiting cfg sprites) π owned' := by
  obtain ⟨hbodies, -, -, hbeats, -⟩ := ht.frame
  rw [← hbeats] at h
  cases hwake with
  | finish => exact ⟨owned, (h.finish c.now i).congr fun _ => rfl⟩
  | @start b c' hpop =>
    obtain ⟨body, queue, hbody, hget, rfl⟩ := Scene.pop?_eq_some hpop
    obtain ⟨hi, hrole⟩ := hcourse.body (hbodies ▸ hbody)
    have hid := Sprite.id_of_role hrole
    have hqueue : (Plot.mk c (p.runners.set i none)).waiting cfg sprites ⟨i, hi⟩ = b :: queue := by
      rw [waiting_set ht rfl, if_neg (by simp)]
      simp [queueAt, RunQueues.get, ← hid, hget]
    refine h.start c.now (i := ⟨i, hi⟩) hqueue ?_ ?_
    · rw [waiting_set ht rfl, if_neg (by simp)]
      simp [Scene.schedule, Scene.start, queueAt, RunQueues.get_set, hid]
    · intro j hj
      have hne : body.id ≠ sprites[j].id := by
        rw [hid]
        exact id_ne hids hj
      rw [waiting_set ht rfl, waiting_set ht rfl]
      simp only [Scene.schedule, Scene.start, queueAt, RunQueues.get_set, if_neg hne]

theorem ledger_opening :
    Ledger (planAt cfg sprites) [] ((Plot.opening sprites).waiting cfg sprites) 1 [] := by
  refine Ledger.opening.congr ?_
  intro i
  rw [waiting, OnCourse.runner?_opening, if_pos i.2]
  simp

/-- **The accounts are in order throughout a run.** -/
theorem Reachable.ledger (hids : (sprites.map (·.id)).Nodup) (h : Reachable cfg sprites p) :
    ∃ π owned, Ledger (planAt cfg sprites) p.scene.beats (p.waiting cfg sprites) π owned := by
  have hboth : p.Round ∧ ∃ π owned,
      Ledger (planAt cfg sprites) p.scene.beats (p.waiting cfg sprites) π owned := by
    refine rec_wake (motive := fun p => p.Round ∧ ∃ π owned,
      Ledger (planAt cfg sprites) p.scene.beats (p.waiting cfg sprites) π owned) ?_ ?_ ?_ h
    · exact ⟨round_opening, 1, [], ledger_opening⟩
    · intro p t ih _ _
      exact ih
    · rintro p i r rest c stopped p' ⟨hround, π, owned, hledger⟩ hcourse ht hwake
      obtain ⟨π', hsettled⟩ := ht.ledger hids hcourse hround hledger
      obtain ⟨owned', hledger'⟩ := hwake.ledger hids hcourse ht hsettled
      exact ⟨hround.wake ht hwake, π', owned', hledger'⟩
  exact hboth.2

end Plot

/-- **No block is lost, doubled or put before another one of its kind, and no block that speaks
changes hands.** Between any two tasks of a run in which every runner has been woken, the motion
that waits in each queue is the end of the motion of some plan, a different one for each queue,
and what comes before it are the blocks of that plan that were started, by whichever sprites; the
looks that wait are the end of the looks of the own plan, and what comes before them is what the
sprite itself has started. -/
theorem Drive.ledger_after {σ : Type} (o : Observer σ) (cfg : Settings) (sprites : List Sprite)
    (watcher : σ) (stopping : Bool) (m : Nat) (hids : (sprites.map (·.id)).Nodup)
    (hwoken : ∀ x ∈ ((Drive.opening cfg sprites watcher stopping).after o cfg m).runners,
      ∀ r ∈ x, r.busy.isSome) :
    let s := ((Drive.opening cfg sprites watcher stopping).after o cfg m).session
    ∃ π owned, Ledger (planAt cfg sprites) s.journal.beats (queueAt sprites s.stage.queues)
      π owned := by
  have hruns := runs_after o cfg sprites watcher stopping m
  generalize (Drive.opening cfg sprites watcher stopping).after o cfg m = d at hruns hwoken ⊢
  obtain ⟨π, owned, hledger⟩ := hruns.reachable.ledger hids
  have hall : d.plot.AllWoken := by
    intro i r hr
    cases hx : d.runners[i]? with
    | none => simp [plot, Plot.runner?, hx] at hr
    | some x =>
      have hr : x = some r := by simpa [plot, Plot.runner?, hx] using hr
      exact hwoken x (List.mem_of_getElem? hx) r hr
  refine ⟨π, owned, hledger.congr ?_⟩
  intro i
  exact (Plot.waiting_of_allWoken hall i).symm

theorem Drive.ledger_after_catAndDog : (catAndDog.map (·.id)).Nodup ∧
    (∀ x ∈ ((Drive.opening {} catAndDog () false).after .silent {} 3).runners,
      ∀ r ∈ x, r.busy.isSome) ∧
    let s := ((Drive.opening {} catAndDog () false).after .silent {} 3).session
    ∃ π owned, Ledger (planAt {} catAndDog) s.journal.beats (queueAt catAndDog s.stage.queues)
      π owned := by
  have hids : (catAndDog.map (·.id)).Nodup := by decide
  have hwoken : ∀ x ∈ ((Drive.opening {} catAndDog () false).after .silent {} 3).runners,
      ∀ r ∈ x, r.busy.isSome := by decide +kernel
  exact ⟨hids, hwoken, ledger_after .silent {} catAndDog () false 3 hids hwoken⟩

end SpriteScript
