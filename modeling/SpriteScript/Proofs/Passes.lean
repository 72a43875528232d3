/-
  What a collision pass comes to.

  Several meetings of one pass may involve the same sprite, so each one finds what the meetings
  before it have left. All in all the motion of the queues is permuted by the transpositions of the
  meetings, one after the other, and the animations by those in which nobody is shown to speak.

  * `Stage.meetings` are the places of the sprites that meet in a pass, as the stage is before it;
  * `swaps` is the permutation that some transpositions come to, `placesOf` lists the places that
    they name;
  * `Stage.After`: what is left of a stage by some meetings, and `After.meet`: **what one more
    meeting makes of it**;
  * `After.visit`: **what a sequence of meetings makes of it**;
  * `HookCall` is one call of a hook, `Stage.Snapshots` says which sprites hooks are shown;
  * `Stage.detect_meetings`: **the net effect of a pass**.
-/
import Mathlib.Data.List.Induction
import SpriteScript.Proofs.Conservation

namespace SpriteScript

/-! ## Pairs of places -/

/-- The lexicographic order of pairs of places. -/
def Precedes (p q : Nat × Nat) : Prop := p.1 < q.1 ∨ p.1 = q.1 ∧ p.2 < q.2

theorem mem_placePairs {n : Nat} {ij : Nat × Nat} :
    ij ∈ placePairs n ↔ ij.1 < ij.2 ∧ ij.2 < n := by
  obtain ⟨i, j⟩ := ij
  simp only [placePairs, List.mem_flatMap, List.mem_range, List.mem_map, List.mem_range'_1,
    Prod.mk.injEq]
  constructor
  · rintro ⟨i, hi, j, hj, rfl, rfl⟩
    omega
  · rintro ⟨hij, hj⟩
    exact ⟨i, by omega, j, by omega, rfl, rfl⟩

theorem placePairs_sorted (n : Nat) : (placePairs n).Pairwise Precedes := by
  refine List.pairwise_flatMap.mpr ⟨fun i _ => ?_, ?_⟩
  · refine List.pairwise_map.mpr (List.Pairwise.imp ?_ List.pairwise_lt_range')
    intro j k hjk
    exact .inr ⟨rfl, hjk⟩
  · refine List.pairwise_lt_range.imp ?_
    intro i k hik p hp q hq
    obtain ⟨j, -, rfl⟩ := List.mem_map.mp hp
    obtain ⟨l, -, rfl⟩ := List.mem_map.mp hq
    exact .inl hik

/-- The places that some pairs name. -/
def placesOf (ps : List (Nat × Nat)) : List Nat := ps.flatMap fun ij => [ij.1, ij.2]

/-- The permutation that some transpositions come to. -/
def swaps (ps : List (Nat × Nat)) : Equiv.Perm Nat := (ps.map fun ij => Equiv.swap ij.1 ij.2).prod

section
variable {ps : List (Nat × Nat)} {i j k : Nat}

theorem mem_placesOf_concat : k ∈ placesOf (ps ++ [(i, j)]) ↔ k ∈ placesOf ps ∨ k = i ∨ k = j := by
  simp [placesOf]

theorem swaps_concat : swaps (ps ++ [(i, j)]) k = swaps ps (Equiv.swap i j k) := by simp [swaps]

theorem swaps_concat_left : swaps (ps ++ [(i, j)]) i = swaps ps j := by
  rw [swaps_concat, Equiv.swap_apply_left]

theorem swaps_concat_right : swaps (ps ++ [(i, j)]) j = swaps ps i := by
  rw [swaps_concat, Equiv.swap_apply_right]

theorem swaps_concat_of_ne (hi : k ≠ i) (hj : k ≠ j) : swaps (ps ++ [(i, j)]) k = swaps ps k := by
  rw [swaps_concat, Equiv.swap_apply_of_ne_of_ne hi hj]

/-- A place that no transposition names stays where it is. -/
theorem swaps_of_notMem (h : k ∉ placesOf ps) : swaps ps k = k := by
  induction ps using List.reverseRecOn with
  | nil => rfl
  | append_singleton ps ij ih =>
    rw [mem_placesOf_concat, not_or, not_or] at h
    obtain ⟨hps, hi, hj⟩ := h
    rw [swaps_concat_of_ne hi hj, ih hps]

theorem placesOf_filter (p : Nat × Nat → Bool) (h : k ∈ placesOf (ps.filter p)) :
    ∃ ij ∈ ps, p ij = true ∧ (k = ij.1 ∨ k = ij.2) := by
  obtain ⟨ij, hij, hk⟩ := List.mem_flatMap.mp h
  obtain ⟨hmem, hp⟩ := List.mem_filter.mp hij
  exact ⟨ij, hmem, hp, by simpa using hk⟩

end

/-! ## Meetings -/

namespace Stage

/-- Whether the sprites at two places overlap and have not met. -/
def meeting (stage : Stage) (ij : Nat × Nat) : Bool :=
  match stage.sprites[ij.1]?, stage.sprites[ij.2]? with
  | some a, some b =>
    (Box.ofSprite a).overlaps (Box.ofSprite b) && !stage.met.contains (Pair.of a.id b.id)
  | _, _ => false

/-- The places of the sprites that overlap and have not met, in lexicographic order. -/
def meetings (stage : Stage) : List (Nat × Nat) :=
  (placePairs stage.sprites.length).filter stage.meeting

/-- The pair of the sprites at two places. -/
def pairAt? (stage : Stage) (ij : Nat × Nat) : Option Pair :=
  match stage.sprites[ij.1]?, stage.sprites[ij.2]? with
  | some a, some b => some (Pair.of a.id b.id)
  | _, _ => none

/-- The animation of the sprite at a place. -/
def animation? (stage : Stage) (k : Nat) : Option BlockKind :=
  stage.sprites[k]?.bind (·.transient.animation)

/-- Whether the sprite at a place is shown to speak. -/
def speaks (stage : Stage) (k : Nat) : Bool := (stage.animation? k).any BlockKind.isLooks

/-- Whether neither of the sprites at two places is shown to speak. -/
def quiet (stage : Stage) (ij : Nat × Nat) : Bool := !(stage.speaks ij.1 || stage.speaks ij.2)

/-- The queue of the sprite at a place. -/
def queueAt (stage : Stage) (k : Nat) : List Block :=
  (stage.sprites[k]?.map fun x => stage.queues.get x.id).getD []

theorem mem_meetings {stage : Stage} {ij : Nat × Nat} :
    ij ∈ stage.meetings ↔ ij.1 < ij.2 ∧ stage.meeting ij = true := by
  rw [meetings, List.mem_filter, mem_placePairs, and_assoc]
  refine and_congr_right fun _ => and_iff_right_of_imp fun hmeeting => ?_
  unfold meeting at hmeeting
  split at hmeeting
  · next hj => exact (List.getElem?_eq_some_iff.mp hj).1
  · simp at hmeeting

theorem meeting_eq_true {stage : Stage} {i j : Nat} (h : stage.meeting (i, j) = true) :
    ∃ a b, stage.sprites[i]? = some a ∧ stage.sprites[j]? = some b := by
  unfold meeting at h
  split at h
  · next a b hi hj => exact ⟨a, b, hi, hj⟩
  · simp at h

/-! ## What meetings leave -/

/-- The sprite at a place after some meetings. -/
def shown (stage : Stage) (ps : List (Nat × Nat)) (k : Nat) (x : Sprite) : Sprite :=
  { x with transient :=
    { x.transient with
      animation := stage.animation? (swaps (ps.filter stage.quiet) k)
      flash := x.transient.flash || decide (k ∈ placesOf ps) } }

/-- The stage that is left of another one by meetings of the sprites at some places. -/
structure After (origin : Stage) (ps : List (Nat × Nat)) (stage : Stage) : Prop where
  /-- Animations are permuted and sprites flash; all else that sprites show is as it was. -/
  sprites : ∀ k, stage.sprites[k]? = origin.sprites[k]?.map (origin.shown ps k)
  /-- Motion is permuted and put before looks; the queue of a sprite that meets nobody is as it was,
  or is still missing. -/
  queues : ∀ k x, origin.sprites[k]? = some x → stage.queues.get? x.id =
    if k ∈ placesOf ps then
      some (motionOf (origin.queueAt (swaps ps k)) ++ looksOf (origin.queueAt k))
    else origin.queues.get? x.id
  /-- Nobody else has another queue than before. -/
  others : ∀ id, (∀ x ∈ origin.sprites, x.id ≠ id) → stage.queues.get? id = origin.queues.get? id
  /-- Those who met have met. -/
  met : ∀ p, stage.met.contains p = true ↔
    origin.met.contains p = true ∨ ∃ ij ∈ ps, origin.pairAt? ij = some p

section
variable {origin stage : Stage} {ps : List (Nat × Nat)} {i j k : Nat} {x y : Sprite}

/-- Nobody begins or ceases to be shown to speak. -/
theorem speaks_swaps (ps : List (Nat × Nat)) (k : Nat) :
    origin.speaks (swaps (ps.filter origin.quiet) k) = origin.speaks k := by
  induction ps using List.reverseRecOn generalizing k with
  | nil => rfl
  | append_singleton ps ij ih =>
    obtain ⟨i, j⟩ := ij
    rw [List.filter_append]
    cases hquiet : origin.quiet (i, j) with
    | false => simp [hquiet, ih]
    | true =>
      have hsame : origin.speaks i = origin.speaks j := by
        simp only [quiet, Bool.not_or, Bool.and_eq_true, Bool.not_eq_true'] at hquiet
        rw [hquiet.1, hquiet.2]
      rw [List.filter_cons_of_pos hquiet, List.filter_nil, swaps_concat, ih]
      rcases eq_or_ne k i with rfl | hi
      · rw [Equiv.swap_apply_left, hsame]
      · rcases eq_or_ne k j with rfl | hj
        · rw [Equiv.swap_apply_right, hsame]
        · rw [Equiv.swap_apply_of_ne_of_ne hi hj]

/-- Whoever is shown to speak keeps the animation. -/
theorem swaps_of_speaks (h : origin.speaks k = true) (ps : List (Nat × Nat)) :
    swaps (ps.filter origin.quiet) k = k := by
  refine swaps_of_notMem fun hmem => ?_
  obtain ⟨ij, -, hquiet, hk⟩ := placesOf_filter _ hmem
  rcases hk with rfl | rfl <;> simp [quiet, h] at hquiet

theorem isSpeaking_shown : (origin.shown ps k x).isSpeaking = origin.speaks k :=
  origin.speaks_swaps ps k

theorem animation_shown : (origin.shown ps k x).transient.animation =
    origin.animation? (swaps (ps.filter origin.quiet) k) := rfl

/-- **Two sprites that meet are shown as after one meeting more.** -/
theorem exchange_shown : exchange (origin.shown ps i x) (origin.shown ps j y) =
    (origin.shown (ps ++ [(i, j)]) i x, origin.shown (ps ++ [(i, j)]) j y) := by
  have hi : i ∈ placesOf (ps ++ [(i, j)]) := mem_placesOf_concat.mpr (.inr (.inl rfl))
  have hj : j ∈ placesOf (ps ++ [(i, j)]) := mem_placesOf_concat.mpr (.inr (.inr rfl))
  unfold exchange
  rw [isSpeaking_shown, isSpeaking_shown, animation_shown, animation_shown]
  cases hquiet : origin.quiet (i, j) with
  | false =>
    have hspeaking : (origin.speaks i || origin.speaks j) = true := by
      rwa [quiet, Bool.not_eq_false'] at hquiet
    have hfilter : (ps ++ [(i, j)]).filter origin.quiet = ps.filter origin.quiet := by
      simp [hquiet]
    simp only [hspeaking, if_true, shown, hfilter, Sprite.withFlash, hi, hj, decide_true,
      Bool.or_true]
  | true =>
    have hsilent : (origin.speaks i || origin.speaks j) = false := by
      rwa [quiet, Bool.not_eq_true'] at hquiet
    have hfilter : (ps ++ [(i, j)]).filter origin.quiet = ps.filter origin.quiet ++ [(i, j)] := by
      simp [hquiet]
    simp only [hsilent, Bool.false_eq_true, if_false, shown, hfilter, Sprite.withFlash,
      Sprite.animate, hi, hj, decide_true, Bool.or_true, swaps_concat_left, swaps_concat_right]

/-- A meeting of others makes no difference. -/
theorem shown_concat_of_ne (hi : k ≠ i) (hj : k ≠ j) :
    origin.shown (ps ++ [(i, j)]) k x = origin.shown ps k x := by
  have hplaces : k ∈ placesOf (ps ++ [(i, j)]) ↔ k ∈ placesOf ps := by
    simp [mem_placesOf_concat, hi, hj]
  have hswaps : swaps ((ps ++ [(i, j)]).filter origin.quiet) k =
      swaps (ps.filter origin.quiet) k := by
    rw [List.filter_append]
    cases hquiet : origin.quiet (i, j) with
    | false => simp [hquiet]
    | true => rw [List.filter_cons_of_pos hquiet, List.filter_nil, swaps_concat_of_ne hi hj]
  simp only [shown, hplaces, hswaps]

theorem box_shown : Box.ofSprite (origin.shown ps k x) = Box.ofSprite x := rfl

end

namespace After

variable {origin stage : Stage} {ps : List (Nat × Nat)} {i j k : Nat} {a b x : Sprite}

theorem refl (origin : Stage) : origin.After [] origin where
  sprites k := by
    cases hx : origin.sprites[k]? with
    | none => rfl
    | some x =>
      have hshown : origin.shown [] k x = x := by
        simp [shown, placesOf, swaps, animation?, hx]
      rw [Option.map_some, hshown]
  queues k x _ := rfl
  others id _ := rfl
  met p := by simp

/-- The motion of a queue is that of another one, its looks are its own. -/
theorem split (h : origin.After ps stage) (hx : origin.sprites[k]? = some x) :
    motionOf (stage.queues.get x.id) = motionOf (origin.queueAt (swaps ps k)) ∧
      looksOf (stage.queues.get x.id) = looksOf (origin.queueAt k) := by
  have hown : origin.queueAt k = origin.queues.get x.id := by rw [queueAt, hx]; rfl
  rw [RunQueues.get, h.queues k x hx]
  split
  · simp
  · next hk =>
    rw [swaps_of_notMem hk, hown]
    exact ⟨rfl, rfl⟩

theorem sprite (h : origin.After ps stage) (hx : origin.sprites[k]? = some x) :
    stage.sprites[k]? = some (origin.shown ps k x) := by rw [h.sprites, hx, Option.map_some]

theorem queueAt (h : origin.After ps stage) (hx : origin.sprites[k]? = some x) :
    stage.queueAt k = stage.queues.get x.id := by
  rw [Stage.queueAt, h.sprite hx]
  rfl

/-- Two sprites that do not meet pass each other by. -/
theorem meet?_eq_none (h : origin.After ps stage) (hmeeting : origin.meeting (i, j) = false) :
    stage.meet? i j = none := by
  unfold meet?
  rw [h.sprites i, h.sprites j]
  cases ha : origin.sprites[i]? with
  | none => rfl
  | some a =>
    cases hb : origin.sprites[j]? with
    | none => rfl
    | some b =>
      simp only [meeting, ha, hb, Bool.and_eq_false_iff, Bool.not_eq_false'] at hmeeting
      simp only [Option.map_some]
      split
      · rfl
      · next hnew =>
        rcases hmeeting with hapart | hmet
        · exact if_neg (by rw [box_shown, box_shown, hapart]; exact Bool.false_ne_true)
        · exact absurd ((h.met _).mpr (.inl hmet)) hnew

/-- Ids tell the pairs of places apart. -/
theorem new (h : origin.After ps stage) (hids : (origin.sprites.map (·.id)).Nodup)
    (hordered : ∀ ij ∈ ps, ij.1 < ij.2) (hij : i < j) (hfresh : (i, j) ∉ ps)
    (ha : origin.sprites[i]? = some a) (hb : origin.sprites[j]? = some b)
    (hnew : origin.met.contains (Pair.of a.id b.id) = false) :
    stage.met.contains (Pair.of a.id b.id) = false := by
  rw [← Bool.not_eq_true, h.met]
  rintro (hmet | ⟨⟨k, l⟩, hmem, hpair⟩)
  · simp [hnew] at hmet
  · have hkl : k < l := hordered _ hmem
    unfold pairAt? at hpair
    split at hpair
    · next c d hc hd =>
      rcases Pair.of_eq_of (Option.some.inj hpair) with ⟨hfst, hsnd⟩ | ⟨hfst, hsnd⟩
      · obtain rfl := place_eq hids hc ha hfst
        obtain rfl := place_eq hids hd hb hsnd
        exact hfresh hmem
      · obtain rfl := place_eq hids hc hb hfst
        obtain rfl := place_eq hids hd ha hsnd
        omega
    · simp at hpair

/-- The stage after a meeting of the sprites at two places. -/
theorem concat (h : origin.After ps stage) (hids : (origin.sprites.map (·.id)).Nodup)
    (hij : i ≠ j) (ha : origin.sprites[i]? = some a) (hb : origin.sprites[j]? = some b) :
    origin.After (ps ++ [(i, j)])
      { sprites := (stage.sprites.set i (origin.shown (ps ++ [(i, j)]) i a)).set j
          (origin.shown (ps ++ [(i, j)]) j b)
        queues := stage.queues.swapMotion a.id b.id
        met := stage.met.insert (Pair.of a.id b.id) } where
  sprites k := by
    have hlt {k : Nat} {x : Sprite} (hx : origin.sprites[k]? = some x) :
        k < stage.sprites.length := (List.getElem?_eq_some_iff.mp (h.sprite hx)).1
    dsimp only
    by_cases hj : k = j
    · subst hj
      rw [List.getElem?_set_self (by rw [List.length_set]; exact hlt hb), hb, Option.map_some]
    · rw [List.getElem?_set_ne (Ne.symm hj)]
      by_cases hi : k = i
      · subst hi
        rw [List.getElem?_set_self (hlt ha), ha, Option.map_some]
      · rw [List.getElem?_set_ne (Ne.symm hi), h.sprites k]
        cases origin.sprites[k]? with
        | none => rfl
        | some x => rw [Option.map_some, Option.map_some, shown_concat_of_ne hi hj]
  queues k x hx := by
    have hne : a.id ≠ b.id := fun hid => hij (place_eq hids ha hb hid)
    obtain ⟨hswapa, hswapb⟩ := stage.queues.get?_swapMotion hne
    dsimp only
    by_cases hi : k = i
    · subst hi
      obtain rfl := Option.some.inj (ha.symm.trans hx)
      rw [if_pos (mem_placesOf_concat.mpr (.inr (.inl rfl))), hswapa, swaps_concat_left,
        (h.split hb).1, (h.split ha).2]
    · by_cases hj : k = j
      · subst hj
        obtain rfl := Option.some.inj (hb.symm.trans hx)
        rw [if_pos (mem_placesOf_concat.mpr (.inr (.inr rfl))), hswapb, swaps_concat_right,
          (h.split ha).1, (h.split hb).2]
      · have hplaces : k ∈ placesOf (ps ++ [(i, j)]) ↔ k ∈ placesOf ps := by
          simp [mem_placesOf_concat, hi, hj]
        have hida : a.id ≠ x.id := fun hid => hi (place_eq hids hx ha hid.symm)
        have hidb : b.id ≠ x.id := fun hid => hj (place_eq hids hx hb hid.symm)
        rw [RunQueues.get?_swapMotion_of_ne _ _ _ _ hida hidb, h.queues k x hx,
          swaps_concat_of_ne hi hj]
        simp only [hplaces]
  others id hid := by
    have hida := hid a (List.mem_of_getElem? ha)
    have hidb := hid b (List.mem_of_getElem? hb)
    rw [RunQueues.get?_swapMotion_of_ne _ _ _ _ hida hidb, h.others id hid]
  met p := by
    have hpair : origin.pairAt? (i, j) = some (Pair.of a.id b.id) := by simp [pairAt?, ha, hb]
    simp only [Std.TreeSet.contains_insert, Bool.or_eq_true, beq_iff_eq, Std.compare_eq_iff_eq,
      h.met, List.mem_append, List.mem_singleton, or_and_right, exists_or, exists_eq_left, hpair,
      Option.some.injEq]
    rw [or_comm, or_assoc]

/-- **What one more meeting makes of a stage.** -/
theorem meet (h : origin.After ps stage) (hids : (origin.sprites.map (·.id)).Nodup)
    (hordered : ∀ ij ∈ ps, ij.1 < ij.2) (hij : i < j) (hfresh : (i, j) ∉ ps)
    (hmeeting : origin.meeting (i, j) = true) : ∃ stage' e a b, stage.meet? i j = some (stage', e) ∧
      origin.After (ps ++ [(i, j)]) stage' ∧ origin.sprites[i]? = some a ∧
      origin.sprites[j]? = some b ∧ e = ⟨i, j, origin.shown (ps ++ [(i, j)]) i a,
        origin.shown (ps ++ [(i, j)]) j b⟩ := by
  obtain ⟨a, b, ha, hb⟩ := meeting_eq_true hmeeting
  simp only [meeting, ha, hb, Bool.and_eq_true, Bool.not_eq_true'] at hmeeting
  refine ⟨_, _, a, b, ?_, h.concat hids (Nat.ne_of_lt hij) ha hb, ha, hb, rfl⟩
  have hnew := h.new hids hordered hij hfresh ha hb hmeeting.2
  have hpair : Pair.of (origin.shown ps i a).id (origin.shown ps j b).id = Pair.of a.id b.id := rfl
  unfold meet?
  rw [h.sprite ha, h.sprite hb]
  dsimp only
  rw [hpair, hnew, box_shown, box_shown, hmeeting.1, exchange_shown]
  rfl

end After

/-! ## A whole pass -/

/-- What is told of meetings: the sprites that meet are shown as they are right after it. -/
structure Snapshots (origin : Stage) (before ps : List (Nat × Nat)) (es : List Encounter) :
    Prop where
  places : es.map (fun e => (e.i, e.j)) = ps
  shown : ∀ n e, es[n]? = some e → e.a.transient.flash = true ∧ e.b.transient.flash = true ∧
    origin.sprites[e.i]?.map (origin.shown (before ++ ps.take (n + 1)) e.i) = some e.a ∧
    origin.sprites[e.j]?.map (origin.shown (before ++ ps.take (n + 1)) e.j) = some e.b

theorem Snapshots.cons {origin : Stage} {before ps : List (Nat × Nat)} {es : List Encounter}
    {i j : Nat} {a b : Sprite} (h : origin.Snapshots (before ++ [(i, j)]) ps es)
    (ha : origin.sprites[i]? = some a) (hb : origin.sprites[j]? = some b) :
    origin.Snapshots before ((i, j) :: ps) (⟨i, j, origin.shown (before ++ [(i, j)]) i a,
      origin.shown (before ++ [(i, j)]) j b⟩ :: es) where
  places := congrArg ((i, j) :: ·) h.places
  shown n e hn := by
    cases n with
    | zero =>
      obtain rfl := Option.some.inj hn
      simp [Stage.shown, mem_placesOf_concat, ha, hb]
    | succ n =>
      have hshown := h.shown n e hn
      rwa [List.append_assoc] at hshown

/-- **What a sequence of meetings makes of a stage.** -/
theorem After.visit {origin stage : Stage} (hids : (origin.sprites.map (·.id)).Nodup)
    {before ps : List (Nat × Nat)} (h : origin.After before stage)
    (hordered : ∀ ij ∈ before ++ ps, ij.1 < ij.2) (honce : (before ++ ps).Nodup) :
    origin.After (before ++ ps.filter origin.meeting) (stage.visit ps).1 ∧
      origin.Snapshots before (ps.filter origin.meeting) (stage.visit ps).2 := by
  induction ps generalizing before stage with
  | nil => exact ⟨by simpa [Stage.visit] using h, rfl, by simp [Stage.visit]⟩
  | cons ij ps ih =>
    obtain ⟨i, j⟩ := ij
    cases hmeeting : origin.meeting (i, j) with
    | false =>
      have hordered' : ∀ ij ∈ before ++ ps, ij.1 < ij.2 := by
        intro ij hmem
        refine hordered ij ?_
        simp only [List.mem_append, List.mem_cons] at hmem ⊢
        tauto
      have honce' : (before ++ ps).Nodup :=
        honce.sublist ((List.sublist_cons_self _ ps).append_left before)
      rw [Stage.visit, h.meet?_eq_none hmeeting, List.filter_cons_of_neg (by simp [hmeeting])]
      exact ih h hordered' honce'
    | true =>
      have hfresh : (i, j) ∉ before := by
        intro hmem
        exact (List.nodup_append.mp honce).2.2 _ hmem _ List.mem_cons_self rfl
      obtain ⟨stage', e, a, b, hmeet, hafter, ha, hb, rfl⟩ := h.meet hids
        (fun ij hmem => hordered ij (List.mem_append_left _ hmem))
        (hordered (i, j) (by simp)) hfresh hmeeting
      rw [List.append_cons] at hordered honce
      obtain ⟨hrest, hsnapshots⟩ := ih hafter hordered honce
      rw [Stage.visit, hmeet, List.filter_cons_of_pos hmeeting, List.append_cons]
      exact ⟨hrest, hsnapshots.cons ha hb⟩

end Stage

/-! ## Hooks -/

/-- A call of a hook. -/
inductive HookCall where
  | swap (a b : Sprite)
  | collision (a b : Sprite)

/-- The calls for an encounter. -/
def Encounter.calls (e : Encounter) : List HookCall := [.swap e.a e.b, .collision e.a e.b]

/-- What hooks make of a call; a hook that is missing makes nothing of it. -/
def Hooks.answer {τ : Type} (hooks : Hooks τ) (t : τ) : HookCall → τ
  | .swap a b => match hooks.onSwap with
    | some f => f a b t
    | none => t
  | .collision a b => match hooks.onCollision with
    | some f => f a b t
    | none => t

theorem Hooks.foldl_tell {τ : Type} (hooks : Hooks τ) (es : List Encounter) (t : τ) :
    es.foldl hooks.tell t = (es.flatMap Encounter.calls).foldl hooks.answer t := by
  induction es generalizing t with
  | nil => rfl
  | cons e es ih =>
    rw [List.foldl_cons, ih, List.flatMap_cons, List.foldl_append]
    rfl

/-- **The net effect of a pass.** The sprites that meet are those that overlap and have not met, in
the lexicographic order of their places. All of them have met afterwards, and hooks are told of each
meeting once, the one for swaps first, with the sprites as they are right after it. Motion is
permuted by all transpositions and put before looks, animations by those of sprites that are not
shown to speak; whoever is shown to speak keeps the animation, and all who meet flash. -/
theorem Stage.detect_meetings {τ : Type} (stage : Stage) (hids : (stage.sprites.map (·.id)).Nodup)
    (hooks : Hooks τ) (t : τ) :
    let ps := stage.meetings
    let result := stage.detect hooks t
    ((∀ ij, ij ∈ ps ↔ ij.1 < ij.2 ∧ stage.meeting ij = true) ∧ ps.Pairwise Precedes) ∧
    result.2.1 = ps ∧
    (∃ es, stage.Snapshots [] ps es ∧
      result.2.2 = (es.flatMap Encounter.calls).foldl hooks.answer t) ∧
    stage.After ps result.1 ∧
    (∀ k, k < stage.sprites.length →
      motionOf (result.1.queueAt k) = motionOf (stage.queueAt (swaps ps k)) ∧
        looksOf (result.1.queueAt k) = looksOf (stage.queueAt k)) ∧
    ∀ k, stage.speaks (swaps (ps.filter stage.quiet) k) = stage.speaks k ∧
      (stage.speaks k = true → swaps (ps.filter stage.quiet) k = k) := by
  have hsorted := placePairs_sorted stage.sprites.length
  have honce : (placePairs stage.sprites.length).Nodup := by
    refine hsorted.imp ?_
    rintro p q hpq rfl
    rcases hpq with hlt | ⟨-, hlt⟩ <;> exact Nat.lt_irrefl _ hlt
  obtain ⟨hafter, hsnapshots⟩ := (After.refl stage).visit hids
    (fun ij hij => (mem_placePairs.mp hij).1) honce
  refine ⟨⟨fun ij => mem_meetings, hsorted.filter _⟩, hsnapshots.places,
    ⟨_, hsnapshots, hooks.foldl_tell _ t⟩, hafter, ?_, ?_⟩
  · intro k hk
    have hx := List.getElem?_eq_getElem hk
    have hqueue := hafter.queueAt hx
    have hsplit := hafter.split hx
    rw [← hqueue] at hsplit
    exact hsplit
  · intro k
    exact ⟨speaks_swaps _ k, fun hspeaks => swaps_of_speaks hspeaks _⟩

/-- Three sprites in one place, the last of which is shown to think, and whose queues are yet to be
carried out. -/
def Stage.crowd : Stage where
  sprites :=
    [(Sprite.blank "cat" "Cat" "#FF6680" 0 0 "Script 1").animate (some .goto),
      (Sprite.blank "dog" "Dog" "#4C97FF" 0 0 "Script 1").animate (some .turn),
      (Sprite.blank "owl" "Owl" "#59C059" 0 0 "Script 1").animate (some .think)]
  queues := (({} : RunQueues).set "cat" [⟨"b1", .say, {}, []⟩, ⟨"b2", .move, {}, []⟩]).set "owl"
    [⟨"b3", .turn, {}, []⟩]

theorem Stage.detect_meetings_crowd : (Stage.crowd.sprites.map (·.id)).Nodup ∧
    (Stage.crowd.detect ({} : Hooks Unit) ()).2.1 = [(0, 1), (0, 2), (1, 2)] ∧
    motionOf ((Stage.crowd.detect ({} : Hooks Unit) ()).1.queueAt 0) =
      motionOf (Stage.crowd.queueAt 2) ∧
    Stage.crowd.speaks (swaps (Stage.crowd.meetings.filter Stage.crowd.quiet) 2) = true := by
  have hids : (Stage.crowd.sprites.map (·.id)).Nodup := by decide
  have hmeetings : Stage.crowd.meetings = [(0, 1), (0, 2), (1, 2)] := by decide +kernel
  have hcycle : swaps [(0, 1), (0, 2), (1, 2)] 0 = 2 := by decide
  have hspeaks : Stage.crowd.speaks 2 = true := by decide
  obtain ⟨-, hplaces, -, -, hqueues, hvoices⟩ := Stage.crowd.detect_meetings hids {} ()
  refine ⟨hids, hplaces.trans hmeetings, ?_, (hvoices 2).1.trans hspeaks⟩
  have hcat := (hqueues 0 (by decide)).1
  rwa [hmeetings, hcycle] at hcat

end SpriteScript
