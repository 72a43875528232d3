/-
  How sessions advance.

  * `Session.Advance o k s s'`: what leads from the session `s` to `s'` keeps the timeline in order,
    does not withdraw a request to stop, leaves at most `k` new wakeups, and tells the observer `o`
    all notices that it enters in the journal;
  * `advance_tell`, `advance_ring`, `advance_start`, `advance_finish`, `advance_heedStop`: nothing
    but a collision leaves wakeups, and `advance_complete` says that each one leaves three.
-/
import SpriteScript.Proofs.Staging

namespace SpriteScript

namespace Session

variable {σ : Type} (o : Observer σ) (cfg : Settings)

/-- The state of the observer is what hearing all notices of the journal has made of a state. -/
def HeardFrom (watcher : σ) (s : Session σ) : Prop :=
  s.watcher = s.journal.notices.foldl (fun w n => (o.hear w n).1) watcher

/-- What leads from `s` to `s'` keeps the timeline in order, does not withdraw a request to stop,
leaves at most `k` new wakeups, only adds to the journal, and lets the observer hear what it adds. -/
structure Advance (k : Nat) (s s' : Session σ) : Prop where
  inOrder : s.timeline.InOrder → s'.timeline.InOrder
  stopping : s.stopping = true → s'.stopping = true
  pending : s'.timeline.pending ≤ s.timeline.pending + k
  journal : s.journal <:+ s'.journal
  heard : ∀ w, s.HeardFrom o w → s'.HeardFrom o w

theorem Advance.refl (s : Session σ) : Advance o 0 s s :=
  ⟨id, id, Nat.le_refl _, List.suffix_refl _, fun _ => id⟩

variable {o} in
theorem Advance.trans {k l : Nat} {s s' s'' : Session σ} (h : Advance o k s s')
    (h' : Advance o l s' s'') : Advance o (k + l) s s'' where
  inOrder hs := h'.inOrder (h.inOrder hs)
  stopping hs := h'.stopping (h.stopping hs)
  pending := by have := h.pending; have := h'.pending; omega
  journal := h.journal.trans h'.journal
  heard w hw := h'.heard w (h.heard w hw)

theorem Advance.of_eq {s s' : Session σ} (ht : s'.timeline = s.timeline)
    (hs : s'.stopping = s.stopping) (hj : s'.journal = s.journal)
    (hw : s'.watcher = s.watcher) : Advance o 0 s s' where
  inOrder h := ht ▸ h
  stopping h := hs.trans h
  pending := by rw [ht]; exact Nat.le_refl _
  journal := hj ▸ List.suffix_refl _
  heard w h := by unfold HeardFrom; rw [hw, hj]; exact h

variable (s : Session σ)

/-! ## Notices -/

theorem advance_tell (n : Notice) : Advance o 0 s (s.tell o n) where
  inOrder := id
  stopping h := by simp [tell, h]
  pending := Nat.le_refl _
  journal := List.suffix_cons _ _
  heard w h := by
    simp only [HeardFrom, tell, record, Journal.notices_told, List.foldl_append] at h ⊢
    rw [← h]
    rfl

theorem advance_reach (m : Milestone) : Advance o 0 s (s.reach m) where
  inOrder := id
  stopping := id
  pending := Nat.le_refl _
  journal := List.suffix_cons _ _
  heard w h := by
    simp only [HeardFrom, reach, record, Journal.notices_reached] at h ⊢
    exact h

theorem advance_modifySprite (i : Nat) (f : Sprite → Sprite) : Advance o 0 s (s.modifySprite i f) :=
  .of_eq o rfl rfl rfl rfl

theorem advance_tellOf (i : Nat) (n : Sprite → Notice) : Advance o 0 s (s.tellOf o i n) := by
  unfold tellOf
  split
  · exact advance_tell o s _
  · exact .refl o s

theorem advance_update (i : Nat) : Advance o 0 s (s.update o i) := advance_tellOf o s i _

theorem advance_reachOf (i : Nat) (m : String → Milestone) : Advance o 0 s (s.reachOf i m) := by
  unfold reachOf
  split
  · exact advance_reach o s _
  · exact .refl o s

/-! ## Alarms -/

theorem advance_arm (key : AlarmKey) (delay : Nat) : Advance o 1 s (s.arm key delay) where
  inOrder h := h.schedule _ _
  stopping := id
  pending := Nat.le_of_eq (length_insertWakeup _ _)
  journal := List.suffix_refl _
  heard _ := id

theorem advance_ring (key : AlarmKey) (number : Nat) : Advance o 0 s (s.ring o key number) := by
  unfold ring
  split
  · exact .refl o s
  · next alarms _ =>
    cases key with
    | flash i =>
      have h : Advance o 0 s { s with alarms } := .of_eq o rfl rfl rfl rfl
      exact h.trans ((advance_modifySprite o _ i _).trans (advance_update o _ i))
    | banner =>
      have h : Advance o 0 s { s with alarms, banner := none } := .of_eq o rfl rfl rfl rfl
      exact h.trans (advance_tell o _ _)

theorem advance_cancelAlarms : Advance o 0 s s.cancelAlarms := by
  unfold cancelAlarms
  split
  · exact .refl o s
  · exact ⟨fun h => h.dropAlarms, id, List.length_filter_le _ _, List.suffix_refl _, fun _ => id⟩

theorem advance_heedStop : Advance o 0 s s.heedStop := by
  unfold heedStop
  split
  · split
    · exact advance_cancelAlarms o s
    · have h : Advance o 0 s { s with stopNoted := true } := .of_eq o rfl rfl rfl rfl
      exact (h.trans (advance_reach o _ (.stopRequested s.now))).trans (advance_cancelAlarms o _)
  · exact .refl o s

/-! ## Collisions -/

theorem advance_tellEncounter (e : Encounter) : Advance o 0 s (s.tellEncounter o e) :=
  ((advance_tell o s _).trans (advance_tell o _ _)).trans (advance_tell o _ _)

theorem advance_noteStranded (i : Nat) (sprite : Sprite) :
    Advance o 0 s (s.noteStranded i sprite) := by
  unfold noteStranded
  dsimp only
  split
  · exact advance_reach o s _
  · exact .refl o s

theorem advance_announce (names : String × String) (text : String) :
    Advance o 0 s { Session.tell o (.banner (some text))
      { s with collisions := s.collisions ++ [names] } with banner := some text } := by
  have h : Advance o 0 s { s with collisions := s.collisions ++ [names] } := .of_eq o rfl rfl rfl rfl
  have h' := h.trans (advance_tell o _ (.banner (some text)))
  exact ⟨h'.inOrder, h'.stopping, h'.pending, h'.journal, h'.heard⟩

theorem advance_followEncounter (e : Encounter) : Advance o 3 s (s.followEncounter o cfg e) := by
  unfold followEncounter
  refine Advance.trans (k := 3) (l := 0) ?_ (advance_noteStranded o _ _ _)
  refine Advance.trans (k := 3) (l := 0) ?_ (advance_noteStranded o _ _ _)
  refine Advance.trans (k := 2) ?_ (advance_arm o _ _ _)
  refine Advance.trans (k := 1) ?_ (advance_arm o _ _ _)
  refine Advance.trans (k := 0) ?_ (advance_arm o _ _ _)
  exact (advance_reach o s _).trans (advance_announce o _ _ _)

theorem advance_foldl_tellEncounter (es : List Encounter) (s : Session σ) :
    Advance o 0 s (es.foldl (tellEncounter o) s) := by
  induction es generalizing s with
  | nil => exact .refl o s
  | cons e es ih => exact (advance_tellEncounter o s e).trans (ih _)

theorem advance_foldl_followEncounter (es : List Encounter) (s : Session σ) :
    Advance o (3 * es.length) s (es.foldl (followEncounter o cfg) s) := by
  induction es generalizing s with
  | nil => exact .refl o s
  | cons e es ih =>
    have h := (advance_followEncounter o cfg s e).trans (ih _)
    rwa [show 3 + 3 * es.length = 3 * (e :: es).length by simp; omega] at h

theorem length_encounters_collide :
    s.scene.collide.encounters.length =
      s.scene.encounters.length + s.stage.collide.2.length := by
  rw [← scene_collide ⟨fun w _ => (w, false)⟩ {} s]
  simp only [collide, scene_foldl_followEncounter, scene_foldl_tellEncounter,
    List.length_append, List.length_map]
  rfl

theorem advance_collide : Advance o (3 * s.stage.collide.2.length) s (s.collide o cfg) := by
  have h₁ : Advance o 0 s { s with stage := s.stage.collide.1 } := .of_eq o rfl rfl rfl rfl
  have h₂ := h₁.trans (advance_foldl_tellEncounter o s.stage.collide.2 _)
  have h₃ := h₂.trans (advance_foldl_followEncounter o cfg s.stage.collide.2 _)
  simpa [collide] using h₃

/-! ## Blocks -/

/-- **Each collision leaves three wakeups.** -/
theorem advance_complete (i : Nat) (b : Block) : ∃ n, Advance o (3 * n) s (s.complete o cfg i b) ∧
    s.scene.collide.encounters.length = s.scene.encounters.length + n := by
  have key : ∀ t : Session σ, Advance o 0 s t → t.scene = s.scene →
      ∃ n, Advance o (3 * n) s (t.collide o cfg) ∧
        s.scene.collide.encounters.length = s.scene.encounters.length + n := by
    intro t ht hscene
    have h := ht.trans (advance_collide o cfg t)
    rw [Nat.zero_add] at h
    exact ⟨_, h, by rw [← hscene, length_encounters_collide]⟩
  unfold complete
  split
  · next kind _ =>
    refine key _ ((advance_modifySprite o s i _).trans (advance_tellOf o _ i _)) ?_
    rw [scene_tellOf o _ i fun x c => Scene.hear_speech _ x _ _ c,
      scene_modifySprite _ (Sprite.calm_withBubble · none)]
  · exact key s (.refl o s) rfl

theorem advance_seed (i : Nat) : Advance o 0 s (s.seed cfg i) := by
  unfold seed
  split
  · next sprite _ =>
    have h : Advance o 0 s { s with stage.queues := s.stage.queues.seed cfg.maxRepeat sprite } :=
      .of_eq o rfl rfl rfl rfl
    exact h.trans (advance_reach o _ _)
  · exact .refl o s

theorem eq_of_pop? {i : Nat} {b : Block} {s' : Session σ} (h : s.pop? i = some (b, s')) :
    ∃ queues, s' = { s with stage.queues := queues } := by
  simp only [pop?, Option.bind_eq_bind, Option.bind_eq_some_iff] at h
  obtain ⟨sprite, -, ⟨b', queues⟩, -, h⟩ := h
  exact ⟨queues, (Prod.mk.inj (Option.some.inj h)).2.symm⟩

theorem advance_pop? {i : Nat} {b : Block} {s' : Session σ} (h : s.pop? i = some (b, s')) :
    Advance o 0 s s' := by
  obtain ⟨queues, rfl⟩ := s.eq_of_pop? h
  exact .of_eq o rfl rfl rfl rfl

theorem advance_speak (i : Nat) (kind : SpeechKind) (text : String) (ms : Nat) :
    Advance o 0 s (s.speak o i kind text ms) :=
  (advance_modifySprite o s i _).trans (advance_tellOf o _ i _)

theorem advance_start (i : Nat) (b : Block) : Advance o 0 s (s.start o cfg i b) := by
  have h : Advance o 0 s { s with started := s.started + 1 } := .of_eq o rfl rfl rfl rfl
  have hcore := (((h.trans (advance_modifySprite o _ i (·.animate (some b.kind)))).trans
    (advance_reachOf o _ i (.blockStarted i · b))).trans
      (advance_modifySprite o _ i fun x => { x with pose := (b.action cfg).apply x.pose })).trans
        (advance_update o _ i)
  unfold start
  dsimp only
  split
  · exact hcore.trans (advance_speak o _ _ _ _ _)
  · exact hcore

theorem advance_finish (i : Nat) : Advance o 0 s (s.finish o i) := by
  have h : Advance o 0 s
      { s with finished := i :: s.finished, alarms := s.alarms.disarm (.flash i) } :=
    .of_eq o rfl rfl rfl rfl
  exact ((h.trans (advance_modifySprite o _ i Sprite.calm)).trans
    (advance_reachOf o _ i (.spriteFinished i))).trans (advance_update o _ i)

theorem advance_settleSprite (i : Nat) : Advance o 0 s (s.settleSprite o i) := by
  unfold settleSprite
  split
  · split
    · exact .refl o s
    · exact (advance_modifySprite o s i _).trans (advance_update o _ i)
  · exact .refl o s

theorem advance_settle : Advance o 0 s (s.settle o) := by
  have hfold : ∀ (is : List Nat) (t : Session σ), Advance o 0 t (is.foldl (settleSprite o) t) := by
    intro is
    induction is with
    | nil => intro t; exact .refl o t
    | cons i is ih => intro t; exact (advance_settleSprite o t i).trans (ih _)
  unfold settle
  dsimp only
  split
  · have h : Advance o 0 ((List.range s.sprites.length).foldl (settleSprite o) s)
        { (List.range s.sprites.length).foldl (settleSprite o) s with banner := none } :=
      .of_eq o rfl rfl rfl rfl
    exact ((hfold _ s).trans h).trans (advance_tell o _ _)
  · exact hfold _ s

end Session

end SpriteScript
