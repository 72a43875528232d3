/-
  Scenes without one of their sprites.

  * `skip pos k` is where the sprite at place `k` is found when another one is put at place `pos`;
  * `Scene.Without pos id c c'`: the scene `c` is what `c'` is without the sprite with that id, which
    is at place `pos`;
  * `Without.collide`: **a pass in which that sprite meets no other one is the same without it**;
  * `Without.seed`, `Without.pop?`, `Without.start` and `Without.finish`: so is what the other
    sprites do, and what that sprite does itself makes no difference.
-/
import SpriteScript.Proofs.Meetings
import SpriteScript.Proofs.Encounters

namespace SpriteScript

/-! ## Places -/

/-- Where the sprite at a place is found when another one is put at place `pos`. -/
def skip (pos k : Nat) : Nat := if k < pos then k else k + 1

theorem skip_ne (pos k : Nat) : skip pos k ≠ pos := by
  unfold skip
  split <;> omega

theorem skip_inj {pos j k : Nat} : skip pos j = skip pos k ↔ j = k := by
  unfold skip
  split <;> split <;> omega

/-- Every other place is that of some sprite. -/
theorem exists_skip {pos i : Nat} (h : i ≠ pos) : ∃ k, skip pos k = i := by
  rcases Nat.lt_or_gt_of_ne h with hlt | hgt
  · exact ⟨i, if_pos hlt⟩
  · refine ⟨i - 1, ?_⟩
    unfold skip
    split <;> omega

theorem getElem?_eraseIdx_skip {α : Type} (l : List α) (pos k : Nat) :
    (l.eraseIdx pos)[k]? = l[skip pos k]? := by
  rw [List.getElem?_eraseIdx]
  unfold skip
  split <;> rfl

theorem filter_range_skip {pos n : Nat} (h : pos ≤ n) :
    (List.range (n + 1)).filter (· ≠ pos) = (List.range n).map (skip pos) := by
  obtain ⟨m, rfl⟩ := Nat.exists_eq_add_of_le h
  have hlong : List.range (pos + m + 1) =
      List.range pos ++ pos :: (List.range m).map (pos + 1 + ·) := by
    rw [show pos + m + 1 = pos + (m + 1) by omega, List.range_add, List.range_succ_eq_map,
      List.map_cons, List.map_map]
    congr 2
    apply List.map_congr_left
    intro i _
    simp; omega
  have hlow : (List.range pos).map (skip pos) = List.range pos := by
    refine Eq.trans (List.map_congr_left ?_) (List.map_id' _)
    intro i hi
    exact if_pos (List.mem_range.mp hi)
  have hhigh : ((List.range m).map (pos + ·)).map (skip pos) =
      (List.range m).map (pos + 1 + ·) := by
    rw [List.map_map]
    apply List.map_congr_left
    intro i _
    simp only [Function.comp_apply, skip]
    split <;> omega
  rw [hlong, List.range_add, List.map_append, hlow, hhigh, List.filter_append,
    List.filter_cons_of_neg (by simp)]
  congr 1
  · rw [List.filter_eq_self]
    intro i hi
    simpa using Nat.ne_of_lt (List.mem_range.mp hi)
  · rw [List.filter_eq_self]
    intro i hi
    obtain ⟨k, -, rfl⟩ := List.mem_map.mp hi
    simp only [ne_eq, decide_eq_true_eq]
    omega

/-- Without the entry at a place a list is as it is without its id. -/
theorem eraseIdx_eq_filter {t : Sprite} {l : List Sprite} {pos : Nat}
    (hids : (l.map (·.id)).Nodup) (h : l[pos]? = some t) :
    l.eraseIdx pos = l.filter (·.id ≠ t.id) := by
  induction l generalizing pos with
  | nil => simp at h
  | cons s l ih =>
    obtain ⟨hnew, hids⟩ := List.nodup_cons.mp hids
    cases pos with
    | zero =>
      obtain rfl : s = t := by simpa using h
      rw [List.eraseIdx_cons_zero, List.filter_cons_of_neg (by simp), eq_comm,
        List.filter_eq_self]
      intro s' hs'
      simp only [ne_eq, decide_eq_true_eq]
      intro heq
      exact hnew (List.mem_map.mpr ⟨s', hs', heq⟩)
    | succ pos =>
      have ht : l[pos]? = some t := by simpa using h
      have hne : s.id ≠ t.id := by
        intro heq
        exact hnew (List.mem_map.mpr ⟨t, List.mem_of_getElem? ht, heq.symm⟩)
      rw [List.eraseIdx_cons_succ, List.filter_cons_of_pos (by simpa using hne), ih hids ht]

theorem pairsOf_filter {α : Type} (P : α → Bool) (l : List α) :
    pairsOf (l.filter P) = (pairsOf l).filter fun p => P p.1 && P p.2 := by
  induction l with
  | nil => rfl
  | cons a l ih =>
    rw [pairsOf, List.filter_append, List.filter_map, ← ih]
    cases ha : P a with
    | true =>
      rw [List.filter_cons_of_pos ha, pairsOf]
      congr 2
      apply List.filter_congr
      intro b _
      simp [ha]
    | false =>
      have hnone : l.filter ((fun p : α × α => P p.1 && P p.2) ∘ (a, ·)) = [] := by
        rw [List.filter_eq_nil_iff]
        intro b _
        simp [ha]
      rw [List.filter_cons_of_neg (by simp [ha]), hnone, List.map_nil, List.nil_append]

/-! ## Queues -/

/-- An exchange between two sprites depends on their queues only. -/
theorem RunQueues.get?_swapMotion_congr {q q' : RunQueues} {a b id : String}
    (ha : q.get? a = q'.get? a) (hb : q.get? b = q'.get? b) (hid : q.get? id = q'.get? id) :
    (q.swapMotion a b).get? id = (q'.swapMotion a b).get? id := by
  have hfst (q : RunQueues) : (q.take a).1 = (q.get? a).getD [] := rfl
  have hsnd (q : RunQueues) : ((q.take a).2.take b).1 = ((q.take a).2.get? b).getD [] := rfl
  unfold swapMotion
  simp only [get?_set, hfst, hsnd, get?_take, ha, hb, hid]

/-! ## The relation -/

/-- A beat with its place counted among more sprites. -/
def Beat.skip (pos : Nat) (e : Beat) : Beat := { e with place := SpriteScript.skip pos e.place }

/-- Whether a beat is not that of the sprite at a place. -/
def Beat.spares (pos : Nat) (e : Beat) : Bool := e.place ≠ pos

/-- A wakeup with its place counted among more sprites. -/
def Wakeup.skip (pos : Nat) (w : Wakeup) : Wakeup :=
  match w.task with
  | .runner i => { w with task := .runner (SpriteScript.skip pos i) }
  | .alarm .. => w

/-- Whether a wakeup is not for the runner at a place. -/
def Wakeup.spares (pos : Nat) (w : Wakeup) : Bool := w.task ≠ .runner pos

section
variable (pos t k : Nat) (b : Option Block)

@[simp] theorem Beat.spares_self : Beat.spares pos ⟨t, pos, b⟩ = false := by simp [spares]

@[simp] theorem Beat.spares_skip : Beat.spares pos ⟨t, SpriteScript.skip pos k, b⟩ = true := by
  simp [spares, skip_ne]

@[simp] theorem Wakeup.spares_self : Wakeup.spares pos ⟨t, .runner pos⟩ = false := by simp [spares]

@[simp] theorem Wakeup.spares_skip :
    Wakeup.spares pos ⟨t, .runner (SpriteScript.skip pos k)⟩ = true := by
  simp [spares, skip_ne]

theorem Wakeup.due_skip (w : Wakeup) : (w.skip pos).due = w.due := by
  unfold skip
  split <;> rfl

end

/-- What `c'` is without the sprite with an id, which is at place `pos`. -/
structure Scene.Without (pos : Nat) (id : String) (c c' : Scene) : Prop where
  ids : (c'.bodies.map (·.id)).Nodup
  there : ∃ t, c'.bodies[pos]? = some t ∧ t.id = id
  bodies : c.bodies = c'.bodies.eraseIdx pos
  queues : ∀ other, other ≠ id → c.queues.get? other = c'.queues.get? other
  met : ∀ q, c.met.contains q = c'.met.contains q
  encounters : c.encounters = c'.encounters
  collisions : c.collisions = c'.collisions
  beats : c.beats.map (Beat.skip pos) = c'.beats.filter (Beat.spares pos)
  wakeups : c.wakeups.map (Wakeup.skip pos) = c'.wakeups.filter (Wakeup.spares pos)

namespace Scene.Without

variable {pos : Nat} {id : String} {c c' : Scene}

theorem getElem?_bodies (h : Without pos id c c') (k : Nat) :
    c.bodies[k]? = c'.bodies[skip pos k]? := by
  rw [h.bodies, getElem?_eraseIdx_skip]

theorem id_ne (h : Without pos id c c') {k : Nat} {body : Sprite}
    (hbody : c.bodies[k]? = some body) : body.id ≠ id := by
  obtain ⟨t, ht, rfl⟩ := h.there
  rw [h.getElem?_bodies] at hbody
  intro heq
  exact skip_ne pos k (place_eq h.ids hbody ht heq)

/-- Time and wakeups may be changed on both sides. -/
theorem retime (h : Without pos id c c') (t t' : Nat) {ws ws' : List Wakeup}
    (hws : ws.map (Wakeup.skip pos) = ws'.filter (Wakeup.spares pos)) :
    Without pos id { c with now := t, wakeups := ws } { c' with now := t', wakeups := ws' } :=
  ⟨h.ids, h.there, h.bodies, h.queues, h.met, h.encounters, h.collisions, h.beats, hws⟩

/-- Queues may be changed on both sides if those of the others stay alike. -/
theorem requeue (h : Without pos id c c') {q q' : RunQueues}
    (hq : ∀ other, other ≠ id → q.get? other = q'.get? other) :
    Without pos id { c with queues := q } { c' with queues := q' } :=
  ⟨h.ids, h.there, h.bodies, hq, h.met, h.encounters, h.collisions, h.beats, h.wakeups⟩

/-! ## Collisions -/

/-- A pair that does not involve the sprite meets, or does not, on both sides. -/
theorem compare (h : Without pos id c c') {p : Sprite × Sprite} (hfst : p.1.id ≠ id)
    (hsnd : p.2.id ≠ id) : Without pos id (c.compare p) (c'.compare p) := by
  unfold Scene.compare
  rw [h.met]
  split
  · refine ⟨h.ids, h.there, h.bodies, ?_, ?_, ?_, ?_, h.beats, h.wakeups⟩
    · intro other hother
      exact RunQueues.get?_swapMotion_congr (h.queues _ hfst) (h.queues _ hsnd)
        (h.queues _ hother)
    · intro q
      simp only [meet, Std.TreeSet.contains_insert, h.met]
    · simp only [meet, h.encounters]
    · simp only [meet, h.collisions]
  · exact h

theorem foldl_compare (ps : List (Sprite × Sprite)) {c c' : Scene} (h : Without pos id c c')
    (hno : ∀ e ∈ (ps.foldl Scene.compare c').encounters, e.1.id ≠ id ∧ e.2.id ≠ id) :
    Without pos id
      ((ps.filter fun p => p.1.id ≠ id && p.2.id ≠ id).foldl Scene.compare c)
      (ps.foldl Scene.compare c') := by
  induction ps generalizing c c' with
  | nil => exact h
  | cons p ps ih =>
    obtain ⟨new, hnew, -⟩ := foldl_compare_encounters ps (c'.compare p)
    rw [List.foldl_cons] at hno ⊢
    by_cases hp : p.1.id ≠ id ∧ p.2.id ≠ id
    · rw [List.filter_cons_of_pos (by simpa using hp)]
      exact ih (h.compare hp.1 hp.2) hno
    · -- the pair does not meet, as it would be told of
      have hsame : c'.compare p = c' := by
        refine if_neg ?_
        intro hmeet
        refine hp (hno p ?_)
        rw [hnew, Scene.compare, if_pos hmeet]
        simp [meet]
      rw [hsame] at hno ⊢
      rw [List.filter_cons_of_neg (by simpa using hp)]
      exact ih h hno

/-- **A pass in which the sprite meets no other one is the same without it.** -/
theorem collide (h : Without pos id c c')
    (hno : ∀ e ∈ c'.collide.encounters, e.1.id ≠ id ∧ e.2.id ≠ id) :
    Without pos id c.collide c'.collide := by
  obtain ⟨t, ht, rfl⟩ := h.there
  have hpairs : pairsOf c.bodies =
      (pairsOf c'.bodies).filter fun p => p.1.id ≠ t.id && p.2.id ≠ t.id := by
    rw [h.bodies, eraseIdx_eq_filter h.ids ht, pairsOf_filter]
  have hpass := foldl_compare _ h hno
  rwa [← hpairs] at hpass

/-! ## Blocks -/

theorem seed (h : Without pos id c c') (cfg : Settings) (k : Nat) :
    Without pos id (c.seed cfg k) (c'.seed cfg (skip pos k)) := by
  unfold Scene.seed
  rw [h.getElem?_bodies]
  split
  · refine h.requeue ?_
    intro other hother
    simp only [RunQueues.seed, RunQueues.get?_set, h.queues other hother]
  · exact h

theorem seed_self (h : Without pos id c c') (cfg : Settings) :
    Without pos id c (c'.seed cfg pos) := by
  obtain ⟨t, ht, rfl⟩ := h.there
  unfold Scene.seed
  rw [ht]
  refine h.requeue (q := c.queues) ?_
  intro other hother
  simp only [RunQueues.seed, RunQueues.get?_set, if_neg (Ne.symm hother), h.queues other hother]

theorem pop?_eq_none (h : Without pos id c c') {k : Nat} (hpop : c'.pop? (skip pos k) = none) :
    c.pop? k = none := by
  rw [Option.eq_none_iff_forall_ne_some]
  rintro ⟨b, d⟩ hsome
  obtain ⟨body, rest, hbody, hget, -⟩ := Scene.pop?_eq_some hsome
  rw [h.queues _ (h.id_ne hbody)] at hget
  rw [h.getElem?_bodies] at hbody
  simp [Scene.pop?_of_get? hbody hget] at hpop

theorem pop?_eq_some (h : Without pos id c c') {k : Nat} {b : Block} {d' : Scene}
    (hpop : c'.pop? (skip pos k) = some (b, d')) :
    ∃ d, c.pop? k = some (b, d) ∧ Without pos id d d' := by
  obtain ⟨body, rest, hbody, hget, rfl⟩ := Scene.pop?_eq_some hpop
  rw [← h.getElem?_bodies] at hbody
  rw [← h.queues _ (h.id_ne hbody)] at hget
  refine ⟨_, Scene.pop?_of_get? hbody hget, h.requeue ?_⟩
  intro other hother
  simp only [RunQueues.get?_set, h.queues other hother]

theorem pop?_self (h : Without pos id c c') {b : Block} {d' : Scene}
    (hpop : c'.pop? pos = some (b, d')) : Without pos id c d' := by
  obtain ⟨t, ht, rfl⟩ := h.there
  obtain ⟨body, rest, hbody, -, rfl⟩ := Scene.pop?_eq_some hpop
  obtain rfl := Option.some.inj (ht.symm.trans hbody)
  refine h.requeue (q := c.queues) ?_
  intro other hother
  simp only [RunQueues.get?_set, if_neg (Ne.symm hother), h.queues other hother]

theorem start_self (h : Without pos id c c') (cfg : Settings) (b : Block) (delay : Nat) :
    Without pos id c ((c'.start cfg pos b).schedule delay pos) := by
  obtain ⟨t, ht, rfl⟩ := h.there
  refine ⟨?_, ?_, ?_, h.queues, h.met, h.encounters, h.collisions, ?_, ?_⟩
  · simp only [schedule, Scene.start]
    rw [map_modify_of_eq]
    · exact h.ids
    · intro s; rfl
  · simp only [schedule, Scene.start, List.getElem?_modify_eq, ht]
    exact ⟨_, rfl, rfl⟩
  · simp only [schedule, Scene.start, h.bodies]
    ext1 k
    rw [getElem?_eraseIdx_skip, getElem?_eraseIdx_skip, List.getElem?_modify]
    simp [Ne.symm (skip_ne pos k)]
  · simp [schedule, Scene.start, h.beats]
  · simp only [schedule, Scene.start, h.wakeups]
    exact (filter_insertWakeup_of_neg (Wakeup.spares_self pos _) _).symm

theorem finish_self (h : Without pos id c c') : Without pos id c (c'.finish pos) :=
  ⟨h.ids, h.there, h.bodies, h.queues, h.met, h.encounters, h.collisions,
    by simp [Scene.finish, h.beats], h.wakeups⟩

theorem start (h : Without pos id c c') (hnow : c.now = c'.now) (hsorted : Ascending c'.wakeups)
    (cfg : Settings) (k : Nat) (b : Block) (delay : Nat) :
    Without pos id ((c.start cfg k b).schedule delay k)
      ((c'.start cfg (skip pos k) b).schedule delay (skip pos k)) := by
  refine ⟨?_, ?_, ?_, h.queues, h.met, h.encounters, h.collisions, ?_, ?_⟩
  · simp only [schedule, Scene.start]
    rw [map_modify_of_eq]
    · exact h.ids
    · intro s; rfl
  · simp only [schedule, Scene.start, List.getElem?_modify]
    simpa [skip_ne pos k] using h.there
  · simp only [schedule, Scene.start, h.bodies]
    ext1 j
    rw [getElem?_eraseIdx_skip, List.getElem?_modify, List.getElem?_modify, getElem?_eraseIdx_skip]
    simp only [skip_inj]
  · simp [schedule, Scene.start, h.beats, Beat.skip, hnow]
  · simp only [schedule, Scene.start]
    rw [map_insertWakeup (Wakeup.due_skip pos), h.wakeups, hnow,
      filter_insertWakeup_of_pos (Wakeup.spares_skip pos _ k) hsorted]
    rfl

theorem finish (h : Without pos id c c') (hnow : c.now = c'.now) (k : Nat) :
    Without pos id (c.finish k) (c'.finish (skip pos k)) :=
  ⟨h.ids, h.there, h.bodies, h.queues, h.met, h.encounters, h.collisions,
    by simp [Scene.finish, h.beats, Beat.skip, hnow], h.wakeups⟩

end Scene.Without

end SpriteScript
