/-
  What sessions do to their scenes.

  * `scene_tell`, `scene_arm`, `scene_ring`, `scene_cancelAlarms`, `scene_heedStop`,
    `scene_settle`: neither notices nor alarms show in the scene, but for collisions and banners;
  * `scene_collide`, `scene_seed`, `scene_pop?`, `scene_start`, `scene_finish`: the rest happens in
    the scene as it does in the session;
  * `foldl_compare_eq`: a collision pass meets the sprites of a scene two by two.
-/
import Mathlib.Data.List.Basic
import SpriteScript.Proofs.Order
import SpriteScript.Proofs.Scene

namespace SpriteScript

/-! ## Bodies -/

@[simp] theorem Sprite.calm_animate (s : Sprite) (k : Option BlockKind) :
    (s.animate k).calm = s.calm := rfl

@[simp] theorem Sprite.calm_withBubble (s : Sprite) (b : Option Bubble) :
    (s.withBubble b).calm = s.calm := rfl

@[simp] theorem Sprite.calm_withFlash (s : Sprite) (f : Bool) : (s.withFlash f).calm = s.calm := rfl

@[simp] theorem Sprite.calm_calm (s : Sprite) : s.calm.calm = s.calm := rfl

@[simp] theorem Sprite.id_calm (s : Sprite) : s.calm.id = s.id := rfl

@[simp] theorem Sprite.name_calm (s : Sprite) : s.calm.name = s.name := rfl

theorem bannerText_calm (a b : Sprite) : bannerText a.calm b.calm = bannerText a b := rfl

theorem exchange_fst_calm (a b : Sprite) : (exchange a b).1.calm = a.calm := by
  unfold exchange; dsimp only; split <;> rfl

theorem exchange_snd_calm (a b : Sprite) : (exchange a b).2.calm = b.calm := by
  unfold exchange; dsimp only; split <;> rfl

/-- What a change of an entry leaves of it, it leaves of the list. -/
theorem map_modify_of_eq {α β : Type} {f : α → α} {g : α → β} (h : ∀ a, g (f a) = g a) (i : Nat)
    (l : List α) : (l.modify i f).map g = l.map g := by
  ext1 k
  simp only [List.getElem?_map, List.getElem?_modify]
  cases l[k]? with
  | none => rfl
  | some a => by_cases hk : i = k <;> simp [hk, h]

/-- What an entry that takes the place of another one has in common with it, the lists have. -/
theorem map_set_of_eq {α β : Type} {f : α → β} {l : List α} {i : Nat} {a a' : α}
    (ha : l[i]? = some a) (h : f a' = f a) : (l.set i a').map f = l.map f := by
  obtain ⟨hlt, rfl⟩ := List.getElem?_eq_some_iff.mp ha
  rw [List.map_set, h, ← List.getElem_map f (h := by simpa using hlt), List.set_getElem_self]

theorem map_calm_set {l : List Sprite} {i : Nat} {a : Sprite}
    (h : (l.map Sprite.calm)[i]? = some a.calm) :
    (l.set i a).map Sprite.calm = l.map Sprite.calm := by
  rw [List.getElem?_map] at h
  obtain ⟨b, hb, hcalm⟩ := Option.map_eq_some_iff.mp h
  exact map_set_of_eq hb hcalm.symm

/-! ## Notices and milestones -/

/-- What a notice leaves in a scene. -/
def Scene.hear (n : Notice) (c : Scene) : Scene :=
  { c with
    encounters := c.encounters ++ (n.encounter?.map fun p => (p.1.calm, p.2.calm)).toList
    banners := c.banners ++ n.bannerText?.toList }

@[simp] theorem Scene.hear_update (s : Sprite) (c : Scene) : c.hear (.update s) = c := by
  simp [hear, Notice.encounter?, Notice.bannerText?]

@[simp] theorem Scene.hear_speech (k : SpeechKind) (s : Sprite) (text : String) (ms : Nat)
    (c : Scene) : c.hear (.speech k s text ms) = c := by
  simp [hear, Notice.encounter?, Notice.bannerText?]

@[simp] theorem Scene.hear_banner_none (c : Scene) : c.hear (.banner none) = c := by
  simp [hear, Notice.encounter?, Notice.bannerText?]

@[simp] theorem Scene.hear_clock (t : Nat) (c : Scene) : c.hear (.clock t) = c := by
  simp [hear, Notice.encounter?, Notice.bannerText?]

namespace Session

variable {σ : Type} (o : Observer σ) (cfg : Settings) (s : Session σ)

theorem length_bodies : s.scene.bodies.length = s.sprites.length := List.length_map _

theorem scene_beats : s.scene.beats = s.journal.beats := rfl

theorem scene_encounters :
    s.scene.encounters = s.journal.encounters.map fun p => (p.1.calm, p.2.calm) := rfl

theorem getElem?_bodies (i : Nat) : s.scene.bodies[i]? = s.sprites[i]?.map Sprite.calm :=
  List.getElem?_map

@[simp] theorem scene_tell (n : Notice) : (s.tell o n).scene = s.scene.hear n := by
  simp only [tell, record, scene, Scene.hear, Journal.encounters, Journal.bannerTexts,
    Journal.notices_told, Journal.beats_cons, List.filterMap_append, List.map_append,
    Entry.beat?, Option.toList_none, List.append_nil]
  congr 1
  cases h : n.encounter? <;> simp [h]

theorem scene_reach (m : Milestone) : (s.reach m).scene =
    { s.scene with beats := s.scene.beats ++ (Entry.beat? ⟨s.now, .reached m⟩).toList } := by
  simp only [reach, record, scene, Journal.encounters, Journal.bannerTexts,
    Journal.notices_reached, Journal.beats_cons]
  rfl

theorem scene_reach_of_quiet {m : Milestone} (hm : ∀ t, Entry.beat? ⟨t, .reached m⟩ = none) :
    (s.reach m).scene = s.scene := by
  rw [scene_reach, hm, Option.toList_none, List.append_nil]

theorem scene_tellOf (i : Nat) {n : Sprite → Notice} (hn : ∀ x (c : Scene), c.hear (n x) = c) :
    (s.tellOf o i n).scene = s.scene := by
  unfold tellOf
  split
  · rw [scene_tell, hn]
  · rfl

@[simp] theorem scene_update (i : Nat) : (s.update o i).scene = s.scene :=
  scene_tellOf o s i Scene.hear_update

theorem scene_modifySprite {f : Sprite → Sprite} (hf : ∀ x, (f x).calm = x.calm) (i : Nat) :
    (s.modifySprite i f).scene = s.scene := by
  have h : (s.sprites.modify i f).map Sprite.calm = s.sprites.map Sprite.calm :=
    map_modify_of_eq hf i s.sprites
  exact congrArg (fun l => { s.scene with bodies := l }) h

/-! ## Alarms -/

@[simp] theorem scene_arm (key : AlarmKey) (delay : Nat) : (s.arm key delay).scene = s.scene :=
  congrArg (fun l => { s.scene with wakeups := l }) (filter_insertWakeup_of_neg rfl s.timeline.queue)

@[simp] theorem scene_ring (key : AlarmKey) (number : Nat) :
    (s.ring o key number).scene = s.scene := by
  unfold ring
  split
  · rfl
  · cases key with
    | flash i => exact (scene_update o _ i).trans (scene_modifySprite _ (Sprite.calm_withFlash · false) i)
    | banner => exact (scene_tell o _ _).trans (Scene.hear_banner_none _)

@[simp] theorem scene_cancelAlarms : s.cancelAlarms.scene = s.scene := by
  unfold cancelAlarms
  split
  · rfl
  · have h : (s.timeline.dropAlarms.queue.filter (·.task.isRunner)) =
        s.timeline.queue.filter (·.task.isRunner) := List.filter_filter.trans (by simp)
    exact congrArg (fun l => { s.scene with wakeups := l }) h

@[simp] theorem scene_heedStop : s.heedStop.scene = s.scene := by
  unfold heedStop
  split
  · split
    · exact scene_cancelAlarms s
    · exact (scene_cancelAlarms _).trans (scene_reach_of_quiet _ fun _ => rfl)
  · rfl

end Session

/-! ## Collision passes -/

/-- The entries of a list at two places. -/
def entriesAt {α : Type} (l : List α) (ij : Nat × Nat) : Option (α × α) :=
  match l[ij.1]?, l[ij.2]? with
  | some a, some b => some (a, b)
  | _, _ => none

theorem placePairs_succ (n : Nat) : placePairs (n + 1) =
    (List.range n).map (fun j => (0, j + 1)) ++
      (placePairs n).map fun ij => (ij.1 + 1, ij.2 + 1) := by
  unfold placePairs
  rw [List.range_succ_eq_map, List.flatMap_cons]
  congr 1
  · simp [List.range_eq_range', List.range'_succ_left]
  · simp only [List.map_flatMap, List.flatMap_map]
    apply List.flatMap_congr
    intro i _
    simp [List.range'_succ_left, Nat.add_sub_add_right]

theorem filterMap_range {α β : Type} (f : α → β) (l : List α) :
    (List.range l.length).filterMap (fun j => l[j]?.map f) = l.map f := by
  induction l with
  | nil => rfl
  | cons a l ih =>
    rw [List.length_cons, List.range_succ_eq_map, List.filterMap_cons, List.filterMap_map]
    exact congrArg (f a :: ·) ih

/-- **The pairs of places are those of the entries.** -/
theorem filterMap_placePairs {α : Type} (l : List α) :
    (placePairs l.length).filterMap (entriesAt l) = pairsOf l := by
  induction l with
  | nil => rfl
  | cons a l ih =>
    have hfirst : ((List.range l.length).map fun j => (0, j + 1)).filterMap (entriesAt (a :: l)) =
        l.map (a, ·) := by
      rw [List.filterMap_map, ← filterMap_range]
      apply List.filterMap_congr
      intro j _
      simp only [Function.comp, entriesAt, List.getElem?_cons_succ, List.getElem?_cons_zero]
      cases l[j]? <;> rfl
    have hrest : ((placePairs l.length).map fun ij => (ij.1 + 1, ij.2 + 1)).filterMap
        (entriesAt (a :: l)) = (placePairs l.length).filterMap (entriesAt l) := by
      rw [List.filterMap_map]; rfl
    rw [List.length_cons, placePairs_succ, List.filterMap_append, hfirst, hrest, ih, pairsOf]

/-- What two sprites that met leave in a scene. -/
def Scene.noteAll (es : List Encounter) (c : Scene) : Scene :=
  { c with
    encounters := c.encounters ++ es.map fun e => (e.a.calm, e.b.calm)
    collisions := c.collisions ++ es.map fun e => (e.a.name, e.b.name)
    banners := c.banners ++ es.map fun e => bannerText e.a e.b }

/-- The scene `c` has the bodies, queues and pairs of a stage. -/
structure Scene.Shows (c : Scene) (stage : Stage) : Prop where
  bodies : c.bodies = stage.sprites.map Sprite.calm
  queues : c.queues = stage.queues
  met : c.met = stage.met

theorem entriesAt_calm {stage : Stage} {i j : Nat} {a b : Sprite}
    (hi : stage.sprites[i]? = some a) (hj : stage.sprites[j]? = some b) :
    entriesAt (stage.sprites.map Sprite.calm) (i, j) = some (a.calm, b.calm) := by
  simp [entriesAt, hi, hj]

theorem compare_of_meet?_eq_none {stage : Stage} {c : Scene} (hc : c.Shows stage) {i j : Nat}
    (h : stage.meet? i j = none) {p : Sprite × Sprite}
    (hp : entriesAt c.bodies (i, j) = some p) : c.compare p = c := by
  unfold Stage.meet? at h
  split at h
  · next a b hi hj =>
    rw [hc.bodies, entriesAt_calm hi hj, Option.some.injEq] at hp
    subst hp
    refine if_neg ?_
    rintro ⟨hmet, htouch⟩
    have hmet : stage.met.contains (Pair.of a.id b.id) = false := hc.met ▸ hmet
    have htouch : (Box.ofSprite a).overlaps (Box.ofSprite b) = true := htouch
    simp [hmet, htouch] at h
  · next hno =>
    rw [hc.bodies] at hp
    simp only [entriesAt, List.getElem?_map] at hp
    cases hi : stage.sprites[i]? <;> cases hj : stage.sprites[j]? <;> simp [hi, hj] at hp
    exact absurd hj (hno _ _ hi)

theorem compare_of_meet?_eq_some {stage stage' : Stage} {c : Scene} (hc : c.Shows stage)
    {i j : Nat} {e : Encounter} (h : stage.meet? i j = some (stage', e)) :
    ∃ p, entriesAt c.bodies (i, j) = some p ∧ p = (e.a.calm, e.b.calm) ∧
      c.compare p = c.meet p ∧ (c.meet p).Shows stage' := by
  unfold Stage.meet? at h
  split at h
  · next a b hi hj =>
    dsimp only at h
    split at h
    · simp at h
    · next hmet =>
      split at h
      · next htouch =>
        simp only [Option.some.injEq, Prod.mk.injEq] at h
        obtain ⟨rfl, rfl⟩ := h
        refine ⟨(a.calm, b.calm), by rw [hc.bodies, entriesAt_calm hi hj], ?_, ?_, ?_⟩
        · rw [exchange_fst_calm, exchange_snd_calm]
        · exact if_pos ⟨by rw [hc.met]; exact (Bool.not_eq_true _).mp hmet, htouch⟩
        · refine ⟨?_, by simp only [Scene.meet, hc.queues]; rfl,
            by simp only [Scene.meet, hc.met]; rfl⟩
          have hcalm : (stage.sprites.map Sprite.calm)[i]? = some (exchange a b).1.calm := by
            rw [exchange_fst_calm, List.getElem?_map, hi]; rfl
          rw [map_calm_set, map_calm_set hcalm]
          · exact hc.bodies
          · rw [map_calm_set hcalm, exchange_snd_calm, List.getElem?_map, hj]; rfl
      · simp at h
  · simp at h

/-- **A pass meets the sprites of a scene two by two**: the pairs of places may be gone through in
the scene as well, and it then shows the stage after the pass and tells of its encounters. -/
theorem foldl_compare_eq (ps : List (Nat × Nat)) {stage : Stage} {c : Scene} (hc : c.Shows stage) :
    ∃ d : Scene, d.Shows (Stage.visit ps stage).1 ∧
      (ps.filterMap (entriesAt c.bodies)).foldl Scene.compare c =
        { c.noteAll (Stage.visit ps stage).2 with
          bodies := d.bodies, queues := d.queues, met := d.met } := by
  induction ps generalizing stage c with
  | nil => exact ⟨c, hc, by simp [Stage.visit, Scene.noteAll]⟩
  | cons ij rest ih =>
    obtain ⟨i, j⟩ := ij
    rw [Stage.visit]
    cases h : stage.meet? i j with
    | none =>
      obtain ⟨d, hd, hrest⟩ := ih hc
      refine ⟨d, hd, ?_⟩
      rw [← hrest, List.filterMap_cons]
      cases hp : entriesAt c.bodies (i, j) with
      | none => rfl
      | some p => rw [List.foldl_cons, compare_of_meet?_eq_none hc h hp]
    | some r =>
      obtain ⟨stage', e⟩ := r
      obtain ⟨p, hp, rfl, hmeet, hc'⟩ := compare_of_meet?_eq_some hc h
      obtain ⟨d, hd, hrest⟩ := ih hc'
      refine ⟨d, hd, ?_⟩
      have hbodies : (c.meet (e.a.calm, e.b.calm)).bodies = c.bodies := rfl
      rw [hbodies] at hrest
      rw [List.filterMap_cons, hp, List.foldl_cons, hmeet, hrest]
      simp [Scene.noteAll, Scene.meet, bannerText_calm]

namespace Session

variable {σ : Type} (o : Observer σ) (cfg : Settings) (s : Session σ)

theorem scene_shows : s.scene.Shows s.stage := ⟨rfl, rfl, rfl⟩

@[simp] theorem scene_noteStranded (i : Nat) (sprite : Sprite) :
    (s.noteStranded i sprite).scene = s.scene := by
  unfold noteStranded
  dsimp only
  split
  · exact scene_reach_of_quiet s fun _ => rfl
  · rfl

theorem scene_tellEncounter (e : Encounter) : (s.tellEncounter o e).scene =
    { s.scene with encounters := s.scene.encounters ++ [(e.a.calm, e.b.calm)] } := by
  unfold tellEncounter
  simp only [scene_tell, Scene.hear_update]
  simp [Scene.hear, Notice.encounter?, Notice.bannerText?]

theorem scene_announce (names : String × String) (text : String) :
    ({ Session.tell o (.banner (some text)) { s with collisions := s.collisions ++ [names] } with
        banner := some text } : Session σ).scene =
      { s.scene with
        collisions := s.scene.collisions ++ [names]
        banners := s.scene.banners ++ [text] } := by
  refine (scene_tell o { s with collisions := s.collisions ++ [names] } _).trans ?_
  simp only [Scene.hear, Notice.encounter?, Notice.bannerText?, Option.map_none,
    Option.toList_none, List.append_nil]
  rfl

theorem scene_followEncounter (e : Encounter) : (s.followEncounter o cfg e).scene =
    { s.scene with
      collisions := s.scene.collisions ++ [(e.a.name, e.b.name)]
      banners := s.scene.banners ++ [bannerText e.a e.b] } := by
  unfold followEncounter
  simp only [scene_noteStranded, scene_arm]
  exact (scene_announce o _ _ _).trans (by rw [scene_reach_of_quiet s fun _ => rfl])

theorem scene_foldl_tellEncounter (es : List Encounter) (s : Session σ) :
    (es.foldl (tellEncounter o) s).scene =
      { s.scene with
        encounters := s.scene.encounters ++ es.map fun e => (e.a.calm, e.b.calm) } := by
  induction es generalizing s with
  | nil => simp
  | cons e es ih =>
    rw [List.foldl_cons, ih, scene_tellEncounter]
    simp

theorem scene_foldl_followEncounter (es : List Encounter) (s : Session σ) :
    (es.foldl (followEncounter o cfg) s).scene =
      { s.scene with
        collisions := s.scene.collisions ++ es.map fun e => (e.a.name, e.b.name)
        banners := s.scene.banners ++ es.map fun e => bannerText e.a e.b } := by
  induction es generalizing s with
  | nil => simp
  | cons e es ih =>
    rw [List.foldl_cons, ih, scene_followEncounter]
    simp

/-- **A collision pass takes place in the scene as in the session.** -/
theorem scene_collide : (s.collide o cfg).scene = s.scene.collide := by
  obtain ⟨d, hd, hpass⟩ := foldl_compare_eq (placePairs s.stage.sprites.length) (scene_shows s)
  have hpairs : (placePairs s.stage.sprites.length).filterMap (entriesAt s.scene.bodies) =
      pairsOf s.scene.bodies := by
    rw [← filterMap_placePairs, length_bodies]; rfl
  rw [hpairs] at hpass
  rw [Scene.collide, hpass]
  unfold collide Stage.collide
  simp only [scene_foldl_followEncounter, scene_foldl_tellEncounter]
  rw [Scene.noteAll, hd.bodies, hd.queues, hd.met]
  rfl

/-! ## Blocks -/

theorem scene_complete (i : Nat) (b : Block) :
    (s.complete o cfg i b).scene = s.scene.collide := by
  unfold complete
  rw [scene_collide]
  split
  · rw [scene_tellOf o _ i fun x c => Scene.hear_speech _ x _ _ c,
      scene_modifySprite _ (Sprite.calm_withBubble · none)]
  · rfl

theorem scene_seed (i : Nat) : (s.seed cfg i).scene = s.scene.seed cfg i := by
  unfold seed Scene.seed
  rw [getElem?_bodies]
  cases s.sprites[i]? with
  | none => rfl
  | some sprite => exact scene_reach_of_quiet _ fun _ => rfl

theorem scene_pop? (i : Nat) :
    (s.pop? i).map (fun r => (r.1, r.2.scene)) = s.scene.pop? i := by
  unfold pop? Scene.pop?
  rw [getElem?_bodies]
  cases s.sprites[i]? with
  | none => rfl
  | some sprite =>
    simp only [Option.map_some, Option.bind_eq_bind, Option.bind_some, Sprite.id_calm]
    change _ = (s.stage.queues.pop? sprite.id).bind _
    cases s.stage.queues.pop? sprite.id <;> rfl

theorem scene_reachOf {i : Nat} (hi : i < s.sprites.length) (m : String → Milestone) :
    ∃ name, (s.reachOf i m).scene = (s.reach (m name)).scene := by
  unfold reachOf
  rw [List.getElem?_eq_getElem hi]
  exact ⟨_, rfl⟩

theorem scene_pose (i : Nat) (f : Pose → Pose) :
    (s.modifySprite i fun x => { x with pose := f x.pose }).scene =
      { s.scene with bodies := s.scene.bodies.modify i fun x => { x with pose := f x.pose } } := by
  have h : (s.sprites.modify i fun x => { x with pose := f x.pose }).map Sprite.calm =
      (s.sprites.map Sprite.calm).modify i fun x => { x with pose := f x.pose } := by
    ext1 k
    simp only [List.getElem?_map, List.getElem?_modify]
    by_cases hk : i = k <;> cases s.sprites[k]? <;> simp [hk, Sprite.calm]
  exact congrArg (fun l => { s.scene with bodies := l }) h

theorem scene_speak (i : Nat) (kind : SpeechKind) (text : String) (ms : Nat) :
    (s.speak o i kind text ms).scene = s.scene := by
  unfold speak
  rw [scene_tellOf o _ i fun x c => Scene.hear_speech _ x _ _ c,
    scene_modifySprite _ (Sprite.calm_withBubble · _)]

theorem scene_start {i : Nat} (hi : i < s.sprites.length) (b : Block) :
    (s.start o cfg i b).scene = s.scene.start cfg i b := by
  have hlen : i < ({ s with started := s.started + 1 }.modifySprite i
      (·.animate (some b.kind))).sprites.length := by
    simpa [modifySprite, sprites] using hi
  obtain ⟨name, hname⟩ := scene_reachOf _ hlen (.blockStarted i · b)
  have hcore : (((({ s with started := s.started + 1 }.modifySprite i
      (·.animate (some b.kind))).reachOf i (.blockStarted i · b)).modifySprite i
        fun x => { x with pose := (b.action cfg).apply x.pose }).update o i).scene =
      s.scene.start cfg i b := by
    rw [scene_update, scene_pose, hname, scene_reach,
      scene_modifySprite _ (Sprite.calm_animate · _)]
    rfl
  unfold start
  dsimp only
  split
  · rw [scene_speak]; exact hcore
  · exact hcore

theorem scene_finish {i : Nat} (hi : i < s.sprites.length) :
    (s.finish o i).scene = s.scene.finish i := by
  have hlen : i < ({ s with finished := i :: s.finished, alarms := s.alarms.disarm (.flash i) }
      |>.modifySprite i Sprite.calm).sprites.length := by
    simpa [modifySprite, sprites] using hi
  obtain ⟨name, hname⟩ := scene_reachOf _ hlen (.spriteFinished i)
  unfold finish
  dsimp only
  rw [scene_update, hname, scene_reach, scene_modifySprite _ Sprite.calm_calm]
  rfl

/-! ## The end of a run -/

theorem scene_settleSprite (i : Nat) : (s.settleSprite o i).scene = s.scene := by
  unfold settleSprite
  split
  · split
    · rfl
    · rw [scene_update, scene_modifySprite _ Sprite.calm_calm]
  · rfl

@[simp] theorem scene_settle : (s.settle o).scene = s.scene := by
  have hfold : ∀ (is : List Nat) (t : Session σ), (is.foldl (settleSprite o) t).scene = t.scene := by
    intro is
    induction is with
    | nil => intro t; rfl
    | cons i is ih => intro t; exact (ih _).trans (scene_settleSprite o t i)
  unfold settle
  dsimp only
  split
  · exact (scene_tell o _ _).trans ((Scene.hear_banner_none _).trans (hfold _ s))
  · exact hfold _ s

end Session

end SpriteScript
