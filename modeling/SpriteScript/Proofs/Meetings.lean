/-
  Meetings: what a scene keeps of the sprites that met.

  * `collide_encounters`: a collision pass tells of touching pairs of bodies only;
  * `settled_collide`: after a pass every touching pair has met, and `collide_of_settled`: a pass
    over such a scene changes nothing;
  * `Scene.Told`: every pair that met was told of once, with the names and the text that go with it;
  * `Reachable.told` and `Reachable.settled`: **both hold throughout a run**, the latter whenever
    blocks were started and no runner is within one.
-/
import SpriteScript.Proofs.Course

namespace SpriteScript

/-! ## Pairs of entries -/

theorem pairsOf_map {α β : Type} (f : α → β) (l : List α) :
    pairsOf (l.map f) = (pairsOf l).map fun p => (f p.1, f p.2) := by
  induction l with
  | nil => rfl
  | cons a l ih =>
    rw [List.map_cons, pairsOf, ih, pairsOf, List.map_append, List.map_map, List.map_map]
    rfl

theorem length_pairsOf_le {α : Type} (l : List α) :
    (pairsOf l).length ≤ (placePairs l.length).length := by
  rw [← filterMap_placePairs]
  exact List.length_filterMap_le _ _

theorem mem_pairsOf {α : Type} {p : α × α} {l : List α} :
    p ∈ pairsOf l ↔ ∃ i j : Nat, i < j ∧ l[i]? = some p.1 ∧ l[j]? = some p.2 := by
  induction l with
  | nil => simp [pairsOf]
  | cons a l ih =>
    obtain ⟨x, y⟩ := p
    rw [pairsOf, List.mem_append, ih]
    constructor
    · rintro (h | ⟨i, j, hij, hi, hj⟩)
      · obtain ⟨y', hy, heq⟩ := List.mem_map.mp h
        obtain ⟨rfl, rfl⟩ := Prod.mk.inj heq
        obtain ⟨j, hj⟩ := List.mem_iff_getElem?.mp hy
        exact ⟨0, j + 1, by omega, rfl, hj⟩
      · exact ⟨i + 1, j + 1, by omega, hi, hj⟩
    · rintro ⟨i, j, hij, hi, hj⟩
      cases i with
      | zero =>
        obtain ⟨j, rfl⟩ := Nat.exists_eq_add_of_lt hij
        obtain rfl := Option.some.inj hi
        have hj : l[j]? = some y := by simpa using hj
        exact .inl (List.mem_map.mpr ⟨y, List.mem_of_getElem? hj, rfl⟩)
      | succ i =>
        cases j with
        | zero => omega
        | succ j => exact .inr ⟨i, j, by omega, hi, hj⟩

/-! ## A collision pass -/

namespace Scene

/-- Every touching pair of bodies has met. -/
def Settled (c : Scene) : Prop :=
  ∀ p ∈ pairsOf c.bodies, Touching p → c.met.contains (.ofSprites p) = true

theorem contains_meet (c : Scene) (p : Sprite × Sprite) (q : Pair) :
    (c.meet p).met.contains q = true ↔ Pair.ofSprites p = q ∨ c.met.contains q = true := by
  simp only [meet, Std.TreeSet.contains_insert, Bool.or_eq_true, beq_iff_eq,
    Std.compare_eq_iff_eq]

theorem contains_compare (c : Scene) (p : Sprite × Sprite) {q : Pair}
    (h : c.met.contains q = true) : (c.compare p).met.contains q = true := by
  unfold compare
  split
  · exact (c.contains_meet p q).mpr (.inr h)
  · exact h

theorem contains_compare_self (c : Scene) (p : Sprite × Sprite) (h : Touching p) :
    (c.compare p).met.contains (.ofSprites p) = true := by
  unfold compare
  split
  · exact (c.contains_meet p _).mpr (.inl rfl)
  · next hn => simpa [h] using hn

/-- **After a pass every touching pair has met.** -/
theorem settled_collide (c : Scene) : c.collide.Settled := by
  intro p hp htouch
  rw [bodies_collide] at hp
  -- the pair has met when it has been looked at, and no other pair undoes it
  obtain ⟨before, behind, hpairs⟩ := List.append_of_mem hp
  rw [collide, hpairs, List.foldl_append, List.foldl_cons]
  refine List.foldlRecOn (motive := fun d => d.met.contains (.ofSprites p) = true) behind compare
    (contains_compare_self _ p htouch) ?_
  intro d hd q _
  exact d.contains_compare q hd

/-- **A pass changes nothing if every touching pair has met.** -/
theorem collide_of_settled {c : Scene} (h : c.Settled) : c.collide = c := by
  refine collide_induction (motive := fun d => d = c) rfl ?_
  intro d hd p hp
  subst hd
  refine if_neg ?_
  rintro ⟨hnew, htouch⟩
  simp [h p hp htouch] at hnew

/-- A pass does not depend on the time or on wakeups. -/
theorem collide_retime (t : Nat) (ws : List Wakeup) (c : Scene) :
    collide { c with now := t, wakeups := ws } = { c.collide with now := t, wakeups := ws } := by
  refine List.foldl_hom (fun c : Scene => { c with now := t, wakeups := ws }) ?_
  intro d p
  unfold compare
  dsimp only
  split <;> rfl

/-! ## What is told of meetings -/

/-- Every pair that met was told of once. -/
structure Told (sprites : List Sprite) (c : Scene) : Prop where
  once : (c.encounters.map Pair.ofSprites).Nodup
  met : ∀ q, c.met.contains q = true ↔ q ∈ c.encounters.map Pair.ofSprites
  touching : ∀ p ∈ c.encounters, Touching p
  among : ∀ p ∈ c.encounters, (p.1.role, p.2.role) ∈ pairsOf (sprites.map Sprite.role)
  collisions : c.collisions = c.encounters.map fun p => (p.1.name, p.2.name)
  banners : c.banners = c.encounters.map fun p => bannerText p.1 p.2

theorem Told.compare {sprites : List Sprite} {c : Scene} (h : c.Told sprites)
    {p : Sprite × Sprite} (hp : (p.1.role, p.2.role) ∈ pairsOf (sprites.map Sprite.role)) :
    (c.compare p).Told sprites := by
  unfold Scene.compare
  split
  · next hmeet =>
    obtain ⟨hnew, htouching⟩ := hmeet
    have hfresh : Pair.ofSprites p ∉ c.encounters.map Pair.ofSprites := by
      rw [← h.met, hnew]
      exact Bool.false_ne_true
    constructor
    case once =>
      simp only [meet, List.map_append, List.map_cons, List.map_nil]
      refine List.nodup_append.mpr ⟨h.once, List.pairwise_singleton _ _, ?_⟩
      intro q hq q' hq' heq
      rw [List.mem_singleton.mp hq'] at heq
      exact hfresh (heq ▸ hq)
    case met =>
      intro q
      rw [contains_meet, h.met, meet, List.map_append, List.mem_append, Or.comm]
      simp [eq_comm]
    case touching =>
      intro q hq
      rcases List.mem_append.mp hq with hq | hq
      · exact h.touching q hq
      · exact List.mem_singleton.mp hq ▸ htouching
    case among =>
      intro q hq
      rcases List.mem_append.mp hq with hq | hq
      · exact h.among q hq
      · exact List.mem_singleton.mp hq ▸ hp
    case collisions => simp [meet, h.collisions]
    case banners => simp [meet, h.banners]
  · exact h

theorem Told.collide {sprites : List Sprite} {c : Scene} (h : c.Told sprites)
    (hroles : c.bodies.map Sprite.role = sprites.map Sprite.role) : c.collide.Told sprites := by
  refine collide_induction h ?_
  intro d hd p hp
  refine hd.compare ?_
  rw [← hroles, pairsOf_map]
  exact List.mem_map.mpr ⟨p, hp, rfl⟩

theorem foldl_compare_encounters (ps : List (Sprite × Sprite)) (c : Scene) :
    ∃ new, (ps.foldl compare c).encounters = c.encounters ++ new ∧
      ∀ p ∈ new, p ∈ ps ∧ Touching p := by
  refine List.foldlRecOn (motive := fun d => ∃ new, d.encounters = c.encounters ++ new ∧
    ∀ p ∈ new, p ∈ ps ∧ Touching p) ps compare ⟨[], (List.append_nil _).symm, by simp⟩ ?_
  rintro d ⟨new, hnew, hmem⟩ p hp
  by_cases h : d.met.contains (.ofSprites p) = false ∧ Touching p
  · refine ⟨new ++ [p], ?_, ?_⟩
    · simp [compare, if_pos h, meet, hnew]
    · intro q hq
      rcases List.mem_append.mp hq with hq | hq
      · exact hmem q hq
      · rw [List.mem_singleton.mp hq]
        exact ⟨hp, h.2⟩
  · rw [compare, if_neg h]
    exact ⟨new, hnew, hmem⟩

/-- **A pass tells of touching pairs of bodies only.** -/
theorem collide_encounters (c : Scene) : ∃ new, c.collide.encounters = c.encounters ++ new ∧
    ∀ p ∈ new, p ∈ pairsOf c.bodies ∧ Touching p :=
  foldl_compare_encounters _ c

theorem settleBusy_encounters (cfg : Settings) (r : ScriptRunner) (c : Scene) :
    ∃ new, (c.settleBusy cfg r).encounters = c.encounters ++ new ∧
      ∀ p ∈ new, p ∈ pairsOf c.bodies ∧ Touching p := by
  unfold settleBusy
  split
  · exact c.collide_encounters
  · refine ⟨[], ?_, by simp⟩
    unfold seed
    split <;> simp

/-- What neither takes nor tells of a meeting leaves meetings as they are. -/
theorem Told.of_eq {sprites : List Sprite} {c c' : Scene} (h : c.Told sprites)
    (hencounters : c'.encounters = c.encounters) (hmet : c'.met = c.met)
    (hcollisions : c'.collisions = c.collisions) (hbanners : c'.banners = c.banners) :
    c'.Told sprites where
  once := hencounters ▸ h.once
  met := hencounters ▸ hmet ▸ h.met
  touching := hencounters ▸ h.touching
  among := hencounters ▸ h.among
  collisions := hencounters ▸ hcollisions ▸ h.collisions
  banners := hencounters ▸ hbanners ▸ h.banners

theorem Told.settleBusy {sprites : List Sprite} {c : Scene} (h : c.Told sprites)
    (hroles : c.bodies.map Sprite.role = sprites.map Sprite.role) (cfg : Settings)
    (r : ScriptRunner) : (c.settleBusy cfg r).Told sprites := by
  unfold Scene.settleBusy
  split
  · exact h.collide hroles
  · unfold seed
    split
    · exact h.of_eq rfl rfl rfl rfl
    · exact h

end Scene

/-! ## Throughout a run -/

namespace Plot

variable {cfg : Settings} {sprites : List Sprite} {p : Plot}

theorem Wake.frame {i : Nat} {c : Scene} {stopped : Bool} {p' : Plot}
    (h : p.Wake cfg i c stopped p') :
    p'.scene.encounters = c.encounters ∧ p'.scene.met = c.met ∧
      p'.scene.collisions = c.collisions ∧ p'.scene.banners = c.banners := by
  cases h with
  | finish => exact ⟨rfl, rfl, rfl, rfl⟩
  | start hpop =>
    obtain ⟨body, queue, -, -, rfl⟩ := Scene.pop?_eq_some hpop
    exact ⟨rfl, rfl, rfl, rfl⟩

/-- **Every pair that met was told of once.** -/
theorem Reachable.told (h : Reachable cfg sprites p) : p.scene.Told sprites := by
  refine rec_wake (motive := fun p => p.scene.Told sprites) ?_ ?_ ?_ h
  · constructor
    case once => exact .nil
    case met => intro q; simp [Plot.opening]
    case touching => intro q hq; simp [Plot.opening] at hq
    case among => intro q hq; simp [Plot.opening] at hq
    case collisions => rfl
    case banners => rfl
  · intro p t ih _ _
    exact ih.of_eq rfl rfl rfl rfl
  · intro p i r rest c stopped p' ih hcourse ht hwake
    have hlater : Scene.Told sprites
        { p.scene with now := endTime cfg (blocksOf i p.scene.beats), wakeups := rest } :=
      ih.of_eq rfl rfl rfl rfl
    have hc : c.Told sprites := by
      rw [ht.scene]
      exact hlater.settleBusy hcourse.roles cfg r
    obtain ⟨hencounters, hmet, hcollisions, hbanners⟩ := hwake.frame
    exact hc.of_eq hencounters hmet hcollisions hbanners

theorem Reachable.length_encounters_le (h : Reachable cfg sprites p) :
    p.scene.encounters.length ≤ (placePairs sprites.length).length := by
  have hsub : p.scene.encounters.map Pair.ofSprites ⊆
      (pairsOf (sprites.map Sprite.role)).map Pair.ofSprites := by
    intro q hq
    obtain ⟨e, he, rfl⟩ := List.mem_map.mp hq
    exact List.mem_map.mpr ⟨_, h.told.among e he, rfl⟩
  calc p.scene.encounters.length
      = (p.scene.encounters.map Pair.ofSprites).length := (List.length_map _).symm
    _ ≤ ((pairsOf (sprites.map Sprite.role)).map Pair.ofSprites).length :=
        List.Nodup.length_le_of_subset h.told.once hsub
    _ = (pairsOf (sprites.map Sprite.role)).length := List.length_map _
    _ ≤ (placePairs (sprites.map Sprite.role).length).length := length_pairsOf_le _
    _ = (placePairs sprites.length).length := by rw [List.length_map]

/-- A runner is within a block. -/
def Busy (p : Plot) : Prop := ∃ i r, p.runner? i = some r ∧ r.busy.isSome

/-- **Once blocks were started and no runner is within one, every touching pair has met.** -/
theorem Reachable.settled (h : Reachable cfg sprites p) :
    p.scene.Settled ∨ p.Busy ∨ p.scene.started = 0 := by
  refine rec_wake (motive := fun p => p.scene.Settled ∨ p.Busy ∨ p.scene.started = 0)
    (.inr (.inr rfl)) (fun p t ih _ _ => ih) ?_ h
  intro p i r rest c stopped p' ih hcourse ht hwake
  obtain ⟨hbodies, -, -, -, hstarted⟩ := ht.frame
  cases hwake with
  | @start b c' hpop =>
    refine .inr (.inl ⟨i, ⟨i, some b⟩, ?_, rfl⟩)
    rw [runner?_set ht.runner, if_pos rfl]
  | finish stopped' hstop =>
    cases hbusy : r.busy with
    | some b =>
      have hc : c.Settled := ht.scene_of_busy hbusy ▸ Scene.settled_collide _
      exact .inl hc
    | none =>
      have hmet : c.met = p.scene.met := by
        rw [ht.scene_of_fresh hbusy, Scene.seed]
        split <;> rfl
      rcases ih with ih | ⟨j, r', hj, hr'⟩ | ih
      · exact .inl fun q hq htouch => hmet ▸ ih q (hbodies ▸ hq) htouch
      · refine .inr (.inl ⟨j, r', ?_, hr'⟩)
        have hne : i ≠ j := by
          rintro rfl
          obtain rfl := Option.some.inj (ht.runner.symm.trans hj)
          simp [hbusy] at hr'
        rw [runner?_set ht.runner, if_neg hne, hj]
      · exact .inr (.inr (hstarted.trans ih))

end Plot

end SpriteScript
