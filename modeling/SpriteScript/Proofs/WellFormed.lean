/-
  Well-formed projects, and where they come from.

  * `Sprite.WellFormed` and `Project.WellFormed`: ids do not repeat, and all blocks are as they
    should be;
  * `Project.wellFormed_ofJson`: **what is read from a document is well formed**;
  * `IdSource.Yields` relates a source of ids to what is drawn from it, `IdSource.NeverRepeats` are
    the sources that draw no id twice; `SequentialIds.neverRepeats`: counted ids are such a source;
  * `Project.wellFormed_starter` and `Project.wellFormed_demo`: **so are the projects to begin
    with, if no id is drawn twice**.
-/
import Std.Data.String.ToNat
import SpriteScript.Proofs.Documents
import SpriteScript.Proofs.Edits

namespace SpriteScript

/-! ## Well-formed projects -/

/-- The blocks of a sprite have distinct ids, and are as they should be. -/
structure Sprite.WellFormed (s : Sprite) : Prop where
  ids : s.blockIds.Nodup
  sound : ∀ b ∈ s.blocks, b.Sound

/-- A project has sprites with distinct ids, and each of them is well formed. -/
structure Project.WellFormed (p : Project) : Prop where
  nonempty : p.sprites ≠ []
  ids : (p.sprites.map (·.id)).Nodup
  sprites : ∀ s ∈ p.sprites, s.WellFormed

namespace Sprite

/-- The blocks of all scripts, as one forest. -/
def forest (s : Sprite) : Forest := s.scripts.flatMap (·.blocks)

theorem blocks_eq (s : Sprite) : s.blocks = s.forest.walk := by
  unfold blocks forest
  induction s.scripts with
  | nil => rw [List.flatMap_nil, List.flatMap_nil, Forest.walk_nil]
  | cons script scripts ih =>
    rw [List.flatMap_cons, List.flatMap_cons, Forest.walk_append, ih]

theorem blockIds_eq (s : Sprite) : s.blockIds = s.forest.ids := by
  rw [blockIds, blocks_eq, Forest.ids]

theorem wellFormed_iff (s : Sprite) : s.WellFormed ↔ s.forest.Sound ∧ s.forest.ids.Nodup := by
  rw [← blockIds_eq, Forest.Sound, ← blocks_eq]
  exact ⟨fun h => ⟨h.sound, h.ids⟩, fun h => ⟨h.2, h.1⟩⟩

/-- A sprite whose only script is empty is well formed. -/
theorem wellFormed_blank (id name color : String) (x y : Float) (script : String) :
    (blank id name color x y script).WellFormed := by
  simp [wellFormed_iff, blank, forest]

end Sprite

/-! ## Sound blocks -/

theorem Forest.sound_of_forall {forest : Forest} (h : ∀ b ∈ forest, Forest.Sound [b]) :
    forest.Sound := by
  induction forest with
  | nil => exact sound_nil
  | cons b bs ih =>
    rw [List.forall_mem_cons] at h
    have hb := (sound_cons b []).mp h.1
    exact (sound_cons b bs).mpr ⟨hb.1, hb.2.1, ih h.2⟩

/-- A new block is as it should be. -/
theorem Forest.sound_fresh (id : String) (kind : BlockKind) : Forest.Sound [Block.fresh id kind] :=
  (sound_cons _ _).mpr ⟨⟨fun h => absurd rfl h, fun _ hkey => hkey⟩, sound_nil, sound_nil⟩

/-- No parameter goes missing when others are put in. -/
theorem Params.mem_foldl_insert {key : String} {params : Params} (h : key ∈ params)
    (values : List (String × ParamValue)) :
    key ∈ values.foldl (fun params value => params.insert value.1 value.2) params := by
  induction values generalizing params with
  | nil => exact h
  | cons value values ih => exact ih (Std.TreeMap.mem_insert.mpr (.inr h))

/-! ## Reading -/

section
variable {ι : Type}

theorem Draws.forall {α β : Type} {R : α → ι → β → ι → Prop} {P : β → Prop} {items : List α}
    {bs : List β} {ids ids' : ι} (h : Draws R items ids bs ids')
    (hitems : ∀ v ∈ items, ∀ ids b ids', R v ids b ids' → P b) : ∀ b ∈ bs, P b := by
  induction h with
  | nil => exact fun _ hb => absurd hb List.not_mem_nil
  | cons hb _ ih =>
    rw [List.forall_mem_cons] at hitems ⊢
    exact ⟨hitems.1 _ _ _ hb, ih hitems.2⟩

theorem ListOf.forall {β : Type} {R : Json → ι → β → ι → Prop} {P : β → Prop} {field : Option Json}
    {bs : List β} {ids ids' : ι} (h : ListOf R field ids bs ids')
    (hfield : ∀ items, field = some (.array items) → ∀ v ∈ items, ∀ ids b ids',
      R v ids b ids' → P b) : ∀ b ∈ bs, P b := by
  cases h with
  | missing => exact fun _ hb => absurd hb List.not_mem_nil
  | given hdraws => exact hdraws.forall (hfield _ rfl)

theorem ParamsOf.mem {kind : BlockKind} {field : Option Json} {params : Params}
    (h : ParamsOf kind field params) {key : String} (hkey : key ∈ kind.defaults) :
    key ∈ params := by
  cases h with
  | missing => exact hkey
  | given => exact Params.mem_foldl_insert hkey _

variable [IdSource ι]

/-- What a block of a document describes is as it should be, with everything inside it. -/
theorem BlockOf.sound {v : Json} {ids ids' : ι} {b : Block} (h : BlockOf v ids b ids') :
    Forest.Sound [b] := by
  induction v using Json.inside_induction generalizing ids b ids' with
  | step v ih =>
    cases h with
    | @object fields id kind params children _ _ _ _ _ hparams hchildren hloop =>
      have hinside : Forest.Sound children := Forest.sound_of_forall <|
        hchildren.forall fun items hitems w hw _ _ _ hblock =>
          ih fields "children" items w rfl hitems hw hblock
      rw [Forest.sound_cons]
      exact ⟨⟨hloop, fun _ hkey => hparams.mem hkey⟩, hinside, Forest.sound_nil⟩

theorem SpriteOf.sound {v : Json} {ids ids' : ι} {s : Sprite} (h : SpriteOf v ids s ids') :
    s.forest.Sound := by
  cases h with
  | object _ _ _ _ _ _ _ _ _ _ _ hscripts =>
    refine Forest.sound_of_forall ?_
    intro b hb
    obtain ⟨script, hscript, hb⟩ := List.mem_flatMap.mp hb
    -- of each script, and then of each block of it
    refine hscripts.forall (P := fun script => ∀ b ∈ script.blocks, Forest.Sound [b]) ?_ script
      hscript b hb
    rintro _ _ _ _ _ script _ h
    cases h with
    | object _ hblocks => exact hblocks.forall fun _ _ _ _ _ _ _ hblock => hblock.sound

/-- **What is read from a document is well formed.** -/
theorem Project.wellFormed_ofJson {root : Json} {ids ids' : ι} {p : Project}
    (h : ofJson root ids = .ok (p, ids')) : p.WellFormed := by
  obtain ⟨hdescribed, hdistinct⟩ := Reading.gives_readProject.mp h
  cases hdescribed with
  | object _ hne hdraws =>
    refine ⟨hdraws.ne_nil_iff.mpr hne, hdistinct.sprites, ?_⟩
    intro s hs
    have hsound := hdraws.forall (fun _ _ _ _ _ hsprite => hsprite.sound) s hs
    have hids := hdistinct.blocks s hs
    rw [Sprite.blockIds_eq] at hids
    exact (Sprite.wellFormed_iff s).mpr ⟨hsound, hids⟩

end

/-! ## Sources of ids -/

namespace IdSource

section
variable {ι : Type} [IdSource ι]

/-- The next ids of a source, so many of them. -/
def take : Nat → ι → List String
  | 0, _ => []
  | n + 1, ids => (next ids).1 :: take n (next ids).2

/-- However many ids are drawn, none is drawn twice. -/
def NeverRepeats (ids : ι) : Prop := ∀ n, (take n ids).Nodup

/-- Between two states of a source the ids `xs` are drawn in this order, and maybe others. -/
inductive Yields : ι → List String → ι → Prop where
  | refl (ids : ι) : Yields ids [] ids
  | keep {ids ids' : ι} {xs : List String} : Yields (next ids).2 xs ids' →
      Yields ids ((next ids).1 :: xs) ids'
  | skip {ids ids' : ι} {xs : List String} : Yields (next ids).2 xs ids' → Yields ids xs ids'

namespace Yields

variable {ids ids₁ ids' : ι} {xs ys : List String}

theorem append (h : Yields ids xs ids₁) (h' : Yields ids₁ ys ids') :
    Yields ids (xs ++ ys) ids' := by
  induction h with
  | refl => exact h'
  | keep _ ih => exact .keep (ih h')
  | skip _ ih => exact .skip (ih h')

theorem sublist (h : Yields ids xs ids') (hsub : ys.Sublist xs) : Yields ids ys ids' := by
  induction h generalizing ys with
  | refl ids =>
    obtain rfl := List.eq_nil_of_sublist_nil hsub
    exact .refl ids
  | keep _ ih =>
    cases hsub with
    | cons _ hsub => exact .skip (ih hsub)
    | cons_cons _ hsub => exact .keep (ih hsub)
  | skip _ ih => exact .skip (ih hsub)

/-- What is drawn stands among the next ids. -/
theorem exists_sublist_take (h : Yields ids xs ids') : ∃ n, xs.Sublist (take n ids) := by
  induction h with
  | refl => exact ⟨0, .refl _⟩
  | keep _ ih =>
    obtain ⟨n, hsub⟩ := ih
    exact ⟨n + 1, hsub.cons_cons _⟩
  | skip _ ih =>
    obtain ⟨n, hsub⟩ := ih
    exact ⟨n + 1, hsub.cons _⟩

theorem nodup (h : Yields ids xs ids') (hids : NeverRepeats ids) : xs.Nodup := by
  obtain ⟨n, hsub⟩ := h.exists_sublist_take
  exact (hids n).sublist hsub

/-- A source that draws no id twice goes on doing so. -/
theorem neverRepeats (h : Yields ids xs ids') (hids : NeverRepeats ids) : NeverRepeats ids' := by
  induction h with
  | refl => exact hids
  | keep _ ih | skip _ ih => exact ih fun n => (List.nodup_cons.mp (hids (n + 1))).2

end Yields

end

end IdSource

theorem SequentialIds.mem_take {n : Nat} {ids : SequentialIds} {id : String}
    (h : id ∈ IdSource.take n ids) : ∃ k, ids.count < k ∧ id = nth ids.stem k := by
  induction n generalizing ids with
  | zero => exact absurd h List.not_mem_nil
  | succ n ih =>
    rcases List.mem_cons.mp h with rfl | h
    · exact ⟨ids.count + 1, Nat.lt_succ_self _, rfl⟩
    · obtain ⟨k, hk, hid⟩ := ih h
      exact ⟨k, Nat.lt_of_succ_lt hk, hid⟩

/-- **No id is counted twice.** -/
theorem SequentialIds.neverRepeats (ids : SequentialIds) : IdSource.NeverRepeats ids := by
  intro n
  induction n generalizing ids with
  | zero => exact .nil
  | succ n ih =>
    refine List.nodup_cons.mpr ⟨?_, ih _⟩
    intro h
    obtain ⟨k, hk, hid⟩ := mem_take h
    have hnumber : Nat.repr (ids.count + 1) = Nat.repr k := (String.append_right_inj _).mp hid
    have heq := Nat.repr_injective hnumber
    change ids.count + 1 < k at hk
    omega

/-! ## Sketches -/

namespace Project

theorem foldl_withParam (b : Block) (params : List (String × ParamValue)) :
    params.foldl (fun b (key, v) => b.withParam key v) b = { b with
      params := params.foldl (fun params value => params.insert value.1 value.2) b.params } := by
  induction params generalizing b with
  | nil =>
    cases b
    rfl
  | cons param params ih => exact ih _

section
variable {ι : Type} [IdSource ι]

mutual

/-- A block that is built is as it should be, and its ids and those inside it are drawn. -/
theorem Sketch.build_spec (s : Sketch) (ids : ι) : Forest.Sound [(s.build ids).1] ∧
    IdSource.Yields ids (Forest.ids [(s.build ids).1]) (s.build ids).2 := by
  obtain ⟨kind, params, children⟩ := s
  rw [Sketch.build]
  dsimp only [newBlock]
  obtain ⟨hchildren, hyields⟩ := buildAll_spec children (IdSource.next ids).2
  generalize buildAll children (IdSource.next ids).2 = built at hchildren hyields
  rw [foldl_withParam, Block.withChildren]
  have hparams (key : String) (hkey : key ∈ kind.defaults) :=
    Params.mem_foldl_insert hkey params
  split
  · next hloop =>
    have hkind : kind = .loop := by simpa [Block.fresh, BlockKind.isLoop] using hloop
    refine ⟨(Forest.sound_cons _ _).mpr
      ⟨⟨fun _ => hkind, hparams⟩, hchildren, Forest.sound_nil⟩, ?_⟩
    simpa [Block.fresh] using hyields.keep
  · refine ⟨(Forest.sound_cons _ _).mpr ⟨⟨fun h => absurd rfl h, hparams⟩, Forest.sound_nil,
      Forest.sound_nil⟩, ?_⟩
    exact hyields.keep.sublist (by simp [Block.fresh])

/-- Blocks that are built are as they should be, and their ids are drawn. -/
theorem buildAll_spec (sketches : List Sketch) (ids : ι) : Forest.Sound (buildAll sketches ids).1 ∧
    IdSource.Yields ids (Forest.ids (buildAll sketches ids).1) (buildAll sketches ids).2 := by
  match sketches with
  | [] =>
    rw [buildAll]
    exact ⟨Forest.sound_nil, by simpa using .refl ids⟩
  | s :: sketches =>
    rw [buildAll]
    dsimp only
    obtain ⟨hb, hyields⟩ := Sketch.build_spec s ids
    obtain ⟨hbs, hyields'⟩ := buildAll_spec sketches (s.build ids).2
    have hb := (Forest.sound_cons _ _).mp hb
    refine ⟨(Forest.sound_cons _ _).mpr ⟨hb.1, hb.2.1, hbs⟩, ?_⟩
    simpa using hyields.append hyields'

end

/-! ## Projects to begin with -/

/-- Sprites with one script each stay well formed when it is filled, and keep their ids. -/
theorem fillScripts_spec {sprites : List Sprite} (sketches : List (List Sketch)) {ids : ι}
    (hids : IdSource.NeverRepeats ids)
    (hsprites : ∀ s ∈ sprites, s.WellFormed ∧ ∃ script, s.scripts = [script]) :
    (fillScripts sprites sketches ids).1.map (·.id) = sprites.map (·.id) ∧
      ∀ s ∈ (fillScripts sprites sketches ids).1, s.WellFormed := by
  induction sprites generalizing sketches ids with
  | nil => simp [fillScripts]
  | cons sprite sprites ih =>
    cases sketches with
    | nil => exact ⟨rfl, fun s hs => (hsprites s hs).1⟩
    | cons sketch sketches =>
      rw [List.forall_mem_cons] at hsprites
      obtain ⟨⟨-, script, hscript⟩, hsprites⟩ := hsprites
      obtain ⟨hsound, hyields⟩ := buildAll_spec sketch ids
      obtain ⟨hmap, hwell⟩ := ih sketches (hyields.neverRepeats hids) hsprites
      rw [fillScripts]
      dsimp only
      refine ⟨by rw [List.map_cons, List.map_cons, hmap], ?_⟩
      rw [List.forall_mem_cons]
      refine ⟨?_, hwell⟩
      rw [Sprite.wellFormed_iff]
      simpa [Sprite.forest, hscript] using ⟨hsound, hyields.nodup hids⟩

variable {ids : ι}

/-- A new sprite is well formed, and has one script. -/
theorem newSprite_spec (name color : String) (x y : Float) (ids : ι) :
    (newSprite name color x y ids).1.WellFormed ∧
      ∃ script, (newSprite name color x y ids).1.scripts = [script] :=
  ⟨Sprite.wellFormed_blank .., _, rfl⟩

/-- The sprites of the starter project have one script each, and their ids are drawn. -/
theorem starter_spec (ids : ι) :
    (∀ s ∈ (starter ids).1.sprites, s.WellFormed ∧ ∃ script, s.scripts = [script]) ∧
      IdSource.Yields ids ((starter ids).1.sprites.map (·.id)) (starter ids).2 := by
  constructor
  · simp only [starter, List.forall_mem_cons]
    exact ⟨newSprite_spec .., newSprite_spec .., newSprite_spec .., by simp⟩
  · exact .keep (.skip (.keep (.skip (.keep (.skip (.refl _))))))

/-- **The starter project is well formed if no id is drawn twice.** -/
theorem wellFormed_starter (hids : IdSource.NeverRepeats ids) : (starter ids).1.WellFormed := by
  obtain ⟨hsprites, hyields⟩ := starter_spec ids
  exact ⟨List.cons_ne_nil _ _, hyields.nodup hids, fun s hs => (hsprites s hs).1⟩

/-- **The demonstration is well formed if no id is drawn twice.** -/
theorem wellFormed_demo (hids : IdSource.NeverRepeats ids) : (demo ids).1.WellFormed := by
  obtain ⟨hsprites, hyields⟩ := starter_spec ids
  obtain ⟨hmap, hwell⟩ := fillScripts_spec demoScripts (hyields.neverRepeats hids) hsprites
  refine ⟨List.cons_ne_nil _ _, ?_, hwell⟩
  exact hmap.symm ▸ hyields.nodup hids

end

end Project

end SpriteScript
