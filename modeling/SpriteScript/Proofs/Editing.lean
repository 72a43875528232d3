/-
  Sessions with an editor.

  * `Project.wellFormed_editFirstScript`, `wellFormed_addSprite`, `wellFormed_removeSprite` and
    `wellFormed_run`: a well-formed project stays so when it is edited and when it is run;
  * `Request` lists what an editor can be asked to do, `Project.perform` does it, and
    `Project.Admits` says what new ids and blocks have to be like;
  * `Project.wellFormed_perform` and `wellFormed_foldl_perform`: **a request, and then any number
    of them, leaves a project well formed**;
  * `Project.wellFormed_throughout`: **projects are well formed from the beginning on**.
-/
import SpriteScript.Proofs.Stopping
import SpriteScript.Proofs.WellFormed

namespace SpriteScript

/-! ## Editing a sprite -/

/-- In front of other blocks, too, an edit leaves sound blocks with distinct ids. -/
theorem Edit.Tidy.wellFormed {new : List String} {e : Edit} (he : e.Tidy new)
    {forest forest' behind : Forest} (hsound : Forest.Sound (forest ++ behind))
    (hids : (Forest.ids (forest ++ behind) ++ new).Nodup) (h : e forest = some forest') :
    Forest.Sound (forest' ++ behind) ∧ (Forest.ids (forest' ++ behind)).Nodup := by
  rw [Forest.sound_append] at hsound ⊢
  rw [Forest.ids_append] at hids ⊢
  obtain ⟨hsound', hsub⟩ := he forest forest' hsound.1 h
  refine ⟨⟨hsound', hsound.2⟩, ?_⟩
  have hperm : ((Forest.ids forest ++ new) ++ Forest.ids behind).Perm
      (Forest.ids forest ++ Forest.ids behind ++ new) := by
    rw [List.append_assoc, List.append_assoc]
    exact List.perm_append_comm.append_left _
  obtain ⟨l, hl, hlsub⟩ := hsub.append (.refl (Forest.ids behind))
  exact hl.nodup_iff.mp ((hperm.nodup_iff.mpr hids).sublist hlsub)

namespace Project

section
variable {ι : Type} [IdSource ι] {new : List String} {e : Edit}

theorem wellFormed_editSprite {sprite : Sprite} (h : sprite.WellFormed) (he : e.Tidy new)
    (hnew : new.Nodup) (hfresh : ∀ id ∈ new, id ∉ sprite.blockIds) (ids : ι) :
    (editSprite e sprite ids).2.1.WellFormed := by
  rw [Sprite.wellFormed_iff] at h
  rw [Sprite.blockIds_eq] at hfresh
  have hids : (sprite.forest.ids ++ new).Nodup := List.nodup_append.mpr
    ⟨h.2, hnew, fun id hid id' hid' heq => hfresh id' hid' (heq ▸ hid)⟩
  unfold editSprite
  split
  · next hscripts =>
    have hforest : sprite.forest = [] ++ [] := by rw [Sprite.forest, hscripts]; rfl
    rw [hforest] at h hids
    cases hedit : e [] with
    | none => simp [Sprite.wellFormed_iff, Sprite.forest]
    | some blocks =>
      have hblocks := he.wellFormed h.1 hids hedit
      simpa [Sprite.wellFormed_iff, Sprite.forest] using hblocks
  · next script rest hscripts =>
    have hforest : sprite.forest = script.blocks ++ rest.flatMap (·.blocks) := by
      rw [Sprite.forest, hscripts, List.flatMap_cons]
    split
    · exact (Sprite.wellFormed_iff sprite).mpr h
    · next blocks hedit =>
      rw [hforest] at h hids
      exact (Sprite.wellFormed_iff _).mpr (he.wellFormed h.1 hids hedit)

@[simp] theorem id_editSprite (sprite : Sprite) (ids : ι) :
    (editSprite e sprite ids).2.1.id = sprite.id := by
  unfold editSprite
  split
  · rfl
  · split <;> rfl

/-- An edit changes the first sprite with an id, and no other. -/
theorem editFirstScript_eq_ok {p p' : Project} {id : String} {ids ids' : ι} {changed : Bool}
    (h : p.editFirstScript id e ids = .ok (changed, p', ids')) :
    ∃ i sprite, p.sprites[i]? = some sprite ∧ p.sprite? id = some sprite ∧
      p' = ⟨p.sprites.set i (editSprite e sprite ids).2.1⟩ := by
  unfold editFirstScript at h
  split at h
  · exact nomatch h
  · next i hi =>
    split at h
    · exact nomatch h
    · next sprite hsprite =>
      refine ⟨i, sprite, hsprite, ?_, ?_⟩
      · obtain ⟨-, hfirst⟩ := List.findIdx?_eq_some_iff_findIdx_eq.mp hi
        rw [sprite?, List.find?_eq_getElem?_findIdx, hfirst, hsprite]
      · exact (Prod.mk.inj (Prod.mk.inj (Except.ok.inj h)).2).1.symm

/-! ## Editing a project -/

variable {p : Project}

/-- **An edit leaves a project well formed if its new ids are new to the sprite.** -/
theorem wellFormed_editFirstScript (h : p.WellFormed) {p' : Project} {id : String} {ids ids' : ι}
    {changed : Bool} (he : e.Tidy new) (hnew : new.Nodup)
    (hfresh : ∀ sprite ∈ p.sprite? id, ∀ x ∈ new, x ∉ sprite.blockIds)
    (hedit : p.editFirstScript id e ids = .ok (changed, p', ids')) : p'.WellFormed := by
  obtain ⟨i, sprite, hi, hsprite, rfl⟩ := editFirstScript_eq_ok hedit
  refine ⟨?_, ?_, ?_⟩
  · simpa using h.nonempty
  · rw [map_id_set hi (id_editSprite sprite ids)]
    exact h.ids
  · intro s hs
    rcases List.mem_or_eq_of_mem_set hs with hs | rfl
    · exact h.sprites s hs
    · exact wellFormed_editSprite (h.sprites sprite (List.mem_of_getElem? hi)) he hnew
        (hfresh sprite hsprite) ids

variable {ρ : Type} [RandomSource ρ]

/-- **A project stays well formed with one more sprite, if its id is new.** -/
theorem wellFormed_addSprite (h : p.WellFormed) (ids : ι) (random : ρ)
    (hfresh : (IdSource.next ids).1 ∉ p.sprites.map (·.id)) :
    (p.addSprite ids random).2.1.WellFormed := by
  rw [addSprite]
  dsimp only
  refine ⟨by simp, ?_, ?_⟩
  · rw [List.map_append, List.nodup_append]
    refine ⟨h.ids, by simp, ?_⟩
    rintro id hid id' hid' rfl
    obtain rfl := List.mem_singleton.mp hid'
    exact hfresh hid
  · rw [List.forall_mem_append, List.forall_mem_singleton]
    exact ⟨h.sprites, (newSprite_spec ..).1⟩

end

/-- **A project stays well formed with one sprite less.** -/
theorem wellFormed_removeSprite {p p' : Project} (h : p.WellFormed) {id : String} {sprite : Sprite}
    (hremove : p.removeSprite id = .ok (sprite, p')) : p'.WellFormed := by
  unfold removeSprite at hremove
  split at hremove
  · exact nomatch hremove
  · next i hi =>
    split at hremove
    · exact nomatch hremove
    · split at hremove
      · exact nomatch hremove
      · next hmany =>
        obtain rfl := (Prod.mk.inj (Except.ok.inj hremove)).2
        have hsub := List.eraseIdx_sublist p.sprites i
        refine ⟨?_, h.ids.sublist (hsub.map _), fun s hs => h.sprites s (hsub.subset hs)⟩
        obtain ⟨hlt, -⟩ := List.findIdx?_eq_some_iff_findIdx_eq.mp hi
        refine List.ne_nil_of_length_pos ?_
        rw [List.length_eraseIdx_of_lt hlt]
        omega

/-- **A run leaves a project well formed.** -/
theorem wellFormed_run {p : Project} (h : p.WellFormed) {σ : Type} (player : Player)
    (o : Observer σ) (watcher : σ) : (p.run player o watcher).1.WellFormed := by
  have hlength := (Session.recorded_runAll o player.settings (p.sprites.map Sprite.working) watcher
    player.stopRequested).length
  have hrun : (p.run player o watcher).1 = ⟨List.zipWith Sprite.takePose p.sprites
    ((Session.begin (p.sprites.map Sprite.working) watcher player.stopRequested).runAll o
      player.settings).2.sprites⟩ := rfl
  rw [hrun]
  generalize ((Session.begin (p.sprites.map Sprite.working) watcher player.stopRequested).runAll o
    player.settings).2.sprites = finished at hlength
  rw [List.length_map] at hlength
  refine ⟨?_, ?_, ?_⟩
  · have hpos := List.length_pos_iff.mpr h.nonempty
    refine List.ne_nil_of_length_pos ?_
    rwa [List.length_zipWith, hlength, Nat.min_self]
  · have hmap : (List.zipWith Sprite.takePose p.sprites finished).map (·.id) =
        p.sprites.map (·.id) :=
      List.ext_getElem (by simp [hlength]) (by simp [Sprite.takePose, Sprite.calm])
    exact hmap.symm ▸ h.ids
  · intro s hs
    obtain ⟨i, hi, rfl⟩ := List.mem_iff_getElem.mp hs
    rw [List.getElem_zipWith]
    have hwell := h.sprites _ (List.getElem_mem (List.lt_length_left_of_zipWith hi))
    exact ⟨hwell.ids, hwell.sound⟩

end Project

/-! ## Requests -/

/-- What an editor can be asked to do. Each request brings the source of ids it draws from, which
may or may not be as the requests before have left it. -/
inductive Request : Type 1 where
  | addSprite {ι ρ : Type} [IdSource ι] [RandomSource ρ] (ids : ι) (random : ρ)
  | removeSprite (id : String)
  | appendBlock {ι : Type} [IdSource ι] (sprite : String) (parent : Option String) (b : Block)
    (ids : ι)
  | updateBlock {ι : Type} [IdSource ι] (sprite block : String) (patch : Params) (ids : ι)
  | removeBlock {ι : Type} [IdSource ι] (sprite block : String) (ids : ι)
  | run {σ : Type} (player : Player) (o : Observer σ) (watcher : σ)

/-- What is asked of a request to a project: a new sprite has a new id; and a new block is as it
should be, with everything inside it, and brings distinct ids that are new to the sprite. -/
def Request.Admissible (p : Project) : Request → Prop
  | @addSprite _ _ _ _ ids _ => (IdSource.next ids).1 ∉ p.sprites.map (·.id)
  | @appendBlock _ _ id _ b _ => Forest.Sound [b] ∧ (Forest.ids [b]).Nodup ∧
      ∀ sprite ∈ p.sprite? id, ∀ x ∈ Forest.ids [b], x ∉ sprite.blockIds
  | removeSprite _ | @updateBlock .. | @removeBlock .. | run .. => True

namespace Project

/-- The project after an operation, which leaves it as it is if it fails. -/
def after (p : Project) : Except ProjectError Project → Project
  | .ok p' => p'
  | .error _ => p

/-- The project after a request. -/
def perform (p : Project) : Request → Project
  | @Request.addSprite _ _ _ _ ids random => (p.addSprite ids random).2.1
  | .removeSprite id => p.after ((p.removeSprite id).map (·.2))
  | @Request.appendBlock _ _ sprite parent b ids =>
    p.after ((p.appendBlock sprite parent b ids).map (·.2.1))
  | @Request.updateBlock _ _ sprite block patch ids =>
    p.after ((p.updateBlock sprite block patch ids).map (·.2.1))
  | @Request.removeBlock _ _ sprite block ids =>
    p.after ((p.removeBlock sprite block ids).map (·.2.1))
  | .run player o watcher => (p.run player o watcher).1

/-- What is asked of requests to a project, one after the other. -/
def Admits : Project → List Request → Prop
  | _, [] => True
  | p, r :: requests => r.Admissible p ∧ Admits (p.perform r) requests

/-- An operation leaves a project well formed if it does so when it succeeds. -/
theorem wellFormed_after {p : Project} (h : p.WellFormed) {α : Type} {done : Except ProjectError α}
    {f : α → Project} (hdone : ∀ a, done = .ok a → (f a).WellFormed) :
    (p.after (done.map f)).WellFormed := by
  cases done with
  | error => exact h
  | ok a => exact hdone a rfl

/-- **A request leaves a project well formed.** -/
theorem wellFormed_perform {p : Project} (h : p.WellFormed) (r : Request) (hr : r.Admissible p) :
    (p.perform r).WellFormed := by
  cases r with
  | addSprite ids random => exact wellFormed_addSprite h ids random hr
  | removeSprite id => exact wellFormed_after h fun _ hdone => wellFormed_removeSprite h hdone
  | appendBlock sprite parent b ids =>
    obtain ⟨hsound, hnew, hfresh⟩ := hr
    exact wellFormed_after h fun _ hdone =>
      wellFormed_editFirstScript h (Edit.tidy_append parent hsound) hnew hfresh hdone
  | updateBlock sprite block patch ids =>
    exact wellFormed_after h fun _ hdone =>
      wellFormed_editFirstScript h (Edit.tidy_update block patch) .nil (by simp) hdone
  | removeBlock sprite block ids =>
    exact wellFormed_after h fun _ hdone =>
      wellFormed_editFirstScript h (Edit.tidy_remove block) .nil (by simp) hdone
  | run player o watcher => exact wellFormed_run h player o watcher

/-- **Any number of requests leaves a project well formed.** -/
theorem wellFormed_foldl_perform {p : Project} (h : p.WellFormed) {requests : List Request}
    (hrequests : p.Admits requests) (n : Nat) :
    ((requests.take n).foldl perform p).WellFormed := by
  induction requests generalizing p n with
  | nil =>
    rw [List.take_nil]
    exact h
  | cons r requests ih =>
    cases n with
    | zero => exact h
    | succ n => exact ih (wellFormed_perform h r hrequests.1) hrequests.2 n

/-- **Projects are well formed from the beginning on.** So is what is read from a document, with any
source of ids, and what a project begins with, if no id is drawn twice. And a well-formed project
stays so in every session with an editor, after each request that is asked in it. -/
theorem wellFormed_throughout :
    (∀ {ι : Type} [IdSource ι] (root : Json) (ids : ι) (p : Project) (ids' : ι),
      ofJson root ids = .ok (p, ids') → p.WellFormed) ∧
    (∀ {ι : Type} [IdSource ι] (ids : ι), IdSource.NeverRepeats ids →
      (starter ids).1.WellFormed ∧ (demo ids).1.WellFormed) ∧
    ∀ (p : Project) (requests : List Request), p.WellFormed → p.Admits requests →
      ∀ n, ((requests.take n).foldl perform p).WellFormed := by
  refine ⟨?_, ?_, ?_⟩
  · intro _ _ root ids p ids' hread
    exact wellFormed_ofJson hread
  · intro _ _ ids hids
    exact ⟨wellFormed_starter hids, wellFormed_demo hids⟩
  · intro p requests h hrequests n
    exact wellFormed_foldl_perform h hrequests n

/-- In the starter project a loop is put into a script and a block into the loop, one sprite comes
and another goes, and the scripts run. -/
theorem wellFormed_throughout_starter :
    let ids : SequentialIds := ⟨"new", 0⟩
    let requests : List Request :=
      [.appendBlock "id-1" none (.fresh "round" .loop) ids,
        .appendBlock "id-1" (some "round") (.fresh "step" .move) ids,
        .addSprite ids ({} : SplitMix), .removeSprite "id-3", .removeSprite "id-3",
        .run {} .silent ()]
    let p := (starter ({} : SequentialIds)).1
    IdSource.NeverRepeats ({} : SequentialIds) ∧ p.WellFormed ∧ p.Admits requests ∧
      (requests.foldl perform p).WellFormed := by
  intro ids requests p
  have hids := SequentialIds.neverRepeats {}
  have hwell : p.WellFormed := (wellFormed_throughout.2.1 _ hids).1
  have hadmits : p.Admits requests := by
    refine ⟨⟨Forest.sound_fresh _ _, by decide, by decide⟩,
      ⟨Forest.sound_fresh _ _, by decide, by decide⟩, ?_, trivial, trivial, trivial, trivial⟩
    change (IdSource.next ids).1 ∉ _
    decide
  exact ⟨hids, hwell, hadmits, wellFormed_throughout.2.2 p requests hwell hadmits 6⟩

end Project

end SpriteScript
