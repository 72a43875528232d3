/-
  What edits keep of a forest.

  * `Block.Sound`: only a loop has blocks inside it, and a block has all parameters that a block of
    its kind starts with; `Forest.Sound` says so of all blocks of a forest;
  * `Forest.ids` lists the ids of all blocks of a forest, in the order of the walk;
  * `Forest.Replaced`: a block somewhere in a forest is replaced by others, and
    `replaced_of_replaceFirst?`: **`Forest.replaceFirst?` replaces the first block with an id**;
  * `Edit.Tidy`: an edit keeps sound forests sound, and takes ids only from the forest and from some
    new ones; `tidy_append`, `tidy_update` and `tidy_remove`: **the edits of an editor do so**.
-/
import Mathlib.Data.List.Perm.Subperm
import SpriteScript.Proofs.Located

namespace SpriteScript

/-! ## Sound forests -/

/-- A block that is as it should be, whatever the blocks inside it are. -/
structure Block.Sound (b : Block) : Prop where
  /-- Only a loop has blocks inside it. -/
  loop : b.children ≠ [] → b.kind = .loop
  /-- No parameter is missing that blocks of the kind start with. -/
  params : ∀ key, key ∈ b.kind.defaults → key ∈ b.params

namespace Forest

/-- All blocks of a forest are as they should be. -/
def Sound (forest : Forest) : Prop := ∀ b ∈ walk forest, b.Sound

/-- The ids of all blocks of a forest. -/
def ids (forest : Forest) : List String := (walk forest).map (·.id)

section
variable (b : Block) (bs cs : Forest)

@[simp] theorem ids_nil : ids [] = [] := by rw [ids, walk_nil, List.map_nil]

@[simp] theorem ids_cons : ids (b :: bs) = b.id :: (ids b.children ++ ids bs) := by
  simp [ids, Block.walk_eq]

@[simp] theorem ids_append : ids (bs ++ cs) = ids bs ++ ids cs := by simp [ids, walk_append]

@[simp] theorem sound_nil : Sound [] := by simp [Sound]

@[simp] theorem sound_cons : Sound (b :: bs) ↔ b.Sound ∧ Sound b.children ∧ Sound bs := by
  simp only [Sound, walk_cons, Block.walk_eq, List.mem_append, List.mem_cons]
  constructor
  · intro h
    exact ⟨h b (.inl (.inl rfl)), fun c hc => h c (.inl (.inr hc)), fun c hc => h c (.inr hc)⟩
  · rintro ⟨hb, hchildren, hbs⟩ c ((rfl | hc) | hc)
    · exact hb
    · exact hchildren c hc
    · exact hbs c hc

@[simp] theorem sound_append : Sound (bs ++ cs) ↔ Sound bs ∧ Sound cs := by
  simp [Sound, walk_append, or_imp, forall_and]

end

/-! ## Replacing a block -/

/-- Some block `c` of a forest is replaced by the blocks `new`. -/
inductive Replaced (c : Block) (new : Forest) : Forest → Forest → Prop where
  | here (bs : Forest) : Replaced c new (c :: bs) (new ++ bs)
  | inside (bs : Forest) {b : Block} {children : Forest} : Replaced c new b.children children →
      Replaced c new (b :: bs) ({ b with children } :: bs)
  | behind (b : Block) {bs bs' : Forest} : Replaced c new bs bs' →
      Replaced c new (b :: bs) (b :: bs')

namespace Replaced

variable {c : Block} {new forest forest' : Forest}

theorem ne_nil (h : Replaced c new forest forest') : forest ≠ [] := by cases h <;> simp

/-- What was sound stays so if the new blocks are sound. -/
theorem sound (h : Replaced c new forest forest') (hforest : Sound forest) (hnew : Sound new) :
    Sound forest' := by
  induction h with
  | here bs =>
    rw [sound_cons] at hforest
    rw [sound_append]
    exact ⟨hnew, hforest.2.2⟩
  | @inside bs b children hchildren ih =>
    rw [sound_cons] at hforest ⊢
    obtain ⟨hb, hinside, hbs⟩ := hforest
    have hloop := hb.loop hchildren.ne_nil
    exact ⟨⟨fun _ => hloop, hb.params⟩, ih hinside, hbs⟩
  | behind b _ ih =>
    rw [sound_cons] at hforest ⊢
    exact ⟨hforest.1, hforest.2.1, ih hforest.2.2⟩

/-- The block that is replaced is sound. -/
theorem sound_old (h : Replaced c new forest forest') (hforest : Sound forest) : Sound [c] := by
  induction h with
  | here bs =>
    rw [sound_cons] at hforest ⊢
    exact ⟨hforest.1, hforest.2.1, sound_nil⟩
  | inside bs _ ih =>
    rw [sound_cons] at hforest
    exact ih hforest.2.1
  | behind b _ ih =>
    rw [sound_cons] at hforest
    exact ih hforest.2.2

/-- **The ids of the new blocks come in where those of the block were**, and no others change. -/
theorem ids (h : Replaced c new forest forest') : ∃ before behind,
    Forest.ids forest = before ++ Forest.ids [c] ++ behind ∧
      Forest.ids forest' = before ++ Forest.ids new ++ behind := by
  induction h with
  | here bs => exact ⟨[], Forest.ids bs, by simp, by simp⟩
  | @inside bs b children _ ih =>
    obtain ⟨before, behind, hold, hnew⟩ := ih
    exact ⟨b.id :: before, behind ++ Forest.ids bs, by rw [ids_cons, hold]; simp,
      by rw [ids_cons, hnew]; simp⟩
  | behind b _ ih =>
    obtain ⟨before, behind, hold, hnew⟩ := ih
    exact ⟨b.id :: (Forest.ids b.children ++ before), behind, by rw [ids_cons, hold]; simp,
      by rw [ids_cons, hnew]; simp⟩

end Replaced

end Forest

/-- **The first block with an id is replaced.** -/
theorem Forest.replaced_of_replaceFirst? (id : String) (f : Block → Forest) (forest : Forest)
    {forest' : Forest} (h : replaceFirst? id f forest = some forest') :
    ∃ c, forest.find? id = some c ∧ Replaced c (f c) forest forest' := by
  induction forest using Forest.induction generalizing forest' with
  | nil => simp at h
  | cons b bs ihchildren ih =>
    by_cases hid : b.id = id
    · rw [replaceFirst?_cons_of_eq hid] at h
      obtain rfl := Option.some.inj h
      exact ⟨b, find?_cons_of_eq hid, .here bs⟩
    · rw [replaceFirst?_cons_of_ne hid] at h
      rw [find?_cons_of_ne hid]
      cases hinside : replaceFirst? id f b.children with
      | some children =>
        rw [hinside] at h
        obtain rfl := Option.some.inj h
        obtain ⟨c, hfind, hreplaced⟩ := ihchildren hinside
        exact ⟨c, by rw [hfind, Option.some_or], .inside bs hreplaced⟩
      | none =>
        rw [hinside] at h
        obtain ⟨bs', hbs, rfl⟩ := Option.map_eq_some_iff.mp h
        obtain ⟨c, hfind, hreplaced⟩ := ih hbs
        have hnone := (replaceFirst?_eq_none_iff id f b.children).mp hinside
        exact ⟨c, by rw [hnone, Option.none_or, hfind], .behind b hreplaced⟩

/-! ## Edits -/

namespace Edit

/-- An edit that keeps sound forests sound and uses no id more often than it stands in the forest
and among some new ids. -/
def Tidy (new : List String) (e : Edit) : Prop := ∀ forest forest', Forest.Sound forest →
  e forest = some forest' →
    Forest.Sound forest' ∧ (Forest.ids forest').Subperm (Forest.ids forest ++ new)

theorem tidy_append (parent : Option String) {b : Block} (hb : Forest.Sound [b]) :
    Tidy (Forest.ids [b]) (append parent b) := by
  intro forest forest' hforest h
  cases parent with
  | none =>
    obtain rfl := Option.some.inj h
    rw [Forest.sound_append, Forest.ids_append]
    exact ⟨⟨hforest, hb⟩, .refl _⟩
  | some id =>
    rw [append_eq] at h
    split at h
    · next hloop =>
      obtain ⟨c, hfind, hreplaced⟩ := Forest.replaced_of_replaceFirst? id _ forest h
      rw [hfind] at hloop
      have hkind : c.kind = .loop := by simpa [BlockKind.isLoop] using hloop
      have hold := (Forest.sound_cons c []).mp (hreplaced.sound_old hforest)
      refine ⟨hreplaced.sound hforest ?_, ?_⟩
      · rw [Forest.sound_cons, Forest.sound_append]
        exact ⟨⟨fun _ => hkind, hold.1.params⟩, ⟨hold.2.1, hb⟩, Forest.sound_nil⟩
      · obtain ⟨before, behind, hids, hids'⟩ := hreplaced.ids
        refine List.Perm.subperm ?_
        have hinside : Forest.ids [{ c with children := c.children ++ [b] }] =
            Forest.ids [c] ++ Forest.ids [b] := by simp
        rw [hids, hids', hinside, List.append_assoc, List.append_assoc, List.append_assoc,
          List.append_assoc]
        exact (List.perm_append_comm.append_left _).append_left _
    · simp at h

theorem tidy_update (id : String) (patch : Params) : Tidy [] (update id patch) := by
  intro forest forest' hforest h
  rw [update_eq] at h
  obtain ⟨c, -, hreplaced⟩ := Forest.replaced_of_replaceFirst? id _ forest h
  have hold := (Forest.sound_cons c []).mp (hreplaced.sound_old hforest)
  refine ⟨hreplaced.sound hforest ?_, ?_⟩
  · rw [Forest.sound_cons]
    refine ⟨⟨hold.1.loop, ?_⟩, hold.2.1, Forest.sound_nil⟩
    intro key hkey
    exact Std.TreeMap.mem_union_of_left (hold.1.params key hkey)
  · obtain ⟨before, behind, hids, hids'⟩ := hreplaced.ids
    have hsame : Forest.ids [{ c with params := c.params.merge patch }] = Forest.ids [c] := by simp
    rw [hids, hids', hsame, List.append_nil]

theorem tidy_remove (id : String) : Tidy [] (remove id) := by
  intro forest forest' hforest h
  rw [remove_eq] at h
  obtain ⟨c, -, hreplaced⟩ := Forest.replaced_of_replaceFirst? id _ forest h
  refine ⟨hreplaced.sound hforest Forest.sound_nil, ?_⟩
  obtain ⟨before, behind, hids, hids'⟩ := hreplaced.ids
  rw [hids, hids', Forest.ids_nil, List.append_nil, List.append_nil]
  exact ((List.sublist_append_left before _).append (.refl behind)).subperm

end Edit

end SpriteScript
