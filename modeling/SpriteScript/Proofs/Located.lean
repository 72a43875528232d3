/-
  The first block with an id, and the path to it.

  Edits locate a path and follow it. What they do can be said without paths: it is about the first
  block that the walk meets with the id.

  * `Forest.find?` is that block, and `Forest.replaceFirst?` puts blocks in its place, in one pass
    over the forest;
  * `Forest.Located`: a path leads to the first block with an id, to be read, replaced or taken out;
    `locate?_cases`: **the path that is located does so, and one is located if there is such a
    block**;
  * `find?_eq_spot?`, `replaceFirst?_eq_put` and `replaceFirst?_eq_removeAt?`: **following the path
    is the same as the one pass**, for every forest;
  * `Edit.append_eq`, `Edit.update_eq` and `Edit.remove_eq` say so of the edits of an editor.
-/
import SpriteScript.Block.Edit

namespace SpriteScript

/-! ## The first block with an id -/

/-- The first block with an id, each block being looked at before the blocks inside it. -/
def Forest.find? (id : String) (forest : Forest) : Option Block :=
  forest.walk.find? (·.id == id)

mutual

/-- Puts blocks in the place of the first block with an id, among a block and everything inside
it. -/
def Block.replaceFirst? (id : String) (f : Block → Forest) : Block → Option Forest
  | ⟨own, kind, params, children⟩ =>
    if own = id then some (f ⟨own, kind, params, children⟩)
    else (Forest.replaceFirst? id f children).map fun cs => [⟨own, kind, params, cs⟩]

/-- Puts blocks in the place of the first block with an id. -/
def Forest.replaceFirst? (id : String) (f : Block → Forest) : Forest → Option Forest
  | [] => none
  | b :: bs =>
    match b.replaceFirst? id f with
    | some front => some (front ++ bs)
    | none => (Forest.replaceFirst? id f bs).map (b :: ·)

end

namespace Forest

section
variable {id : String} {b : Block} {bs : Forest}

@[simp] theorem find?_nil : find? id [] = none := by simp [find?]

theorem find?_cons_of_eq (h : b.id = id) : find? id (b :: bs) = some b := by
  simp [find?, Block.walk_eq, h]

theorem find?_cons_of_ne (h : b.id ≠ id) :
    find? id (b :: bs) = (find? id b.children).or (find? id bs) := by
  simp [find?, Block.walk_eq, h]

@[simp] theorem replaceFirst?_nil (f : Block → Forest) : replaceFirst? id f [] = none := by
  rw [replaceFirst?]

theorem replaceFirst?_cons_of_eq (h : b.id = id) (f : Block → Forest) :
    replaceFirst? id f (b :: bs) = some (f b ++ bs) := by
  obtain ⟨own, kind, params, children⟩ := b
  rw [replaceFirst?, Block.replaceFirst?, if_pos h]

theorem replaceFirst?_cons_of_ne (h : b.id ≠ id) (f : Block → Forest) :
    replaceFirst? id f (b :: bs) = match replaceFirst? id f b.children with
      | some children => some ({ b with children } :: bs)
      | none => (replaceFirst? id f bs).map (b :: ·) := by
  obtain ⟨own, kind, params, children⟩ := b
  rw [replaceFirst?, Block.replaceFirst?, if_neg h]
  cases replaceFirst? id f children <;> rfl

end

/-- **Blocks are replaced exactly if one of them has the id.** -/
theorem replaceFirst?_eq_none_iff (id : String) (f : Block → Forest) (forest : Forest) :
    replaceFirst? id f forest = none ↔ find? id forest = none := by
  induction forest using Forest.induction with
  | nil => simp
  | cons b bs ihchildren ih =>
    by_cases h : b.id = id
    · simp [replaceFirst?_cons_of_eq h f, find?_cons_of_eq h]
    · rw [replaceFirst?_cons_of_ne h f, find?_cons_of_ne h, Option.or_eq_none_iff, ← ihchildren,
        ← ih]
      cases replaceFirst? id f b.children <;> simp

theorem replaceFirst?_eq_none {id : String} {forest : Forest} (h : find? id forest = none)
    (f : Block → Forest) : replaceFirst? id f forest = none :=
  (replaceFirst?_eq_none_iff id f forest).mpr h

/-! ## Located blocks -/

/-- A path leads to the first block with an id: this is the block of its spot, what is put there
comes in the place of this block, and to remove at the path is to take this block out. -/
structure Located (id : String) (forest : Forest) (path : Path) (s : Spot) : Prop where
  spot : spot? path forest = some s
  find : find? id forest = some s.block
  put : ∀ f : Block → Block, replaceFirst? id (fun b => [f b]) forest = some (s.put (f s.block))
  remove : ∃ forest', removeAt? path forest = some forest' ∧
    replaceFirst? id (fun _ => []) forest = some forest'

namespace Located

variable {id : String} {b : Block} {bs : Forest} {path : Path} {s : Spot}

theorem ne_nil (h : Located id bs path s) : path ≠ [] := by
  rintro rfl
  simpa using h.spot

theorem here (hid : b.id = id) : Located id (b :: bs) [0] ⟨b, (· :: bs)⟩ where
  spot := spot?_here b bs
  find := find?_cons_of_eq hid
  put _ := replaceFirst?_cons_of_eq hid _
  remove := ⟨bs, removeAt?_here b bs, replaceFirst?_cons_of_eq hid _⟩

theorem inside (hne : b.id ≠ id) (h : Located id b.children path s) :
    Located id (b :: bs) (0 :: path) (s.inside (b :: bs) 0 b) where
  spot := by rw [spot?_inside b bs h.ne_nil, h.spot, Option.map_some]
  find := by
    rw [find?_cons_of_ne hne, h.find]
    rfl
  put f := by
    rw [replaceFirst?_cons_of_ne hne, h.put]
    rfl
  remove := by
    obtain ⟨children, hremove, hreplace⟩ := h.remove
    refine ⟨{ b with children } :: bs, ?_, ?_⟩
    · rw [removeAt?_inside b bs h.ne_nil, hremove, Option.map_some]
    · rw [replaceFirst?_cons_of_ne hne, hreplace]

theorem behind (hne : b.id ≠ id) (hnone : find? id b.children = none) (h : Located id bs path s) :
    Located id (b :: bs) path.behind (s.behind b) where
  spot := by rw [spot?_behind, h.spot, Option.map_some]
  find := by
    rw [find?_cons_of_ne hne, hnone, Option.none_or, h.find]
    rfl
  put f := by
    rw [replaceFirst?_cons_of_ne hne, replaceFirst?_eq_none hnone, h.put]
    rfl
  remove := by
    obtain ⟨bs', hremove, hreplace⟩ := h.remove
    refine ⟨b :: bs', ?_, ?_⟩
    · rw [removeAt?_behind, hremove, Option.map_some]
    · rw [replaceFirst?_cons_of_ne hne, replaceFirst?_eq_none hnone, hreplace]
      rfl

end Located

/-- **The path that is located leads to the first block with the id**, and if none is located, no
block has it. -/
theorem locate?_cases (id : String) (forest : Forest) :
    (locate? id forest = none ∧ find? id forest = none) ∨
      ∃ path s, locate? id forest = some path ∧ Located id forest path s := by
  induction forest using Forest.induction with
  | nil => exact .inl ⟨locate?_nil, find?_nil⟩
  | cons b bs ihchildren ih =>
    by_cases hid : b.id = id
    · exact .inr ⟨_, _, locate?_cons_of_eq bs hid, .here hid⟩
    · rw [locate?_cons_of_ne bs hid, find?_cons_of_ne hid]
      obtain ⟨hinside, hnone⟩ | ⟨path, s, hinside, hs⟩ := ihchildren
      · rw [hinside, hnone, Option.map_none, Option.none_or, Option.none_or]
        obtain ⟨hbehind, hfind⟩ | ⟨path, s, hbehind, hs⟩ := ih
        · exact .inl ⟨by rw [hbehind, Option.map_none], hfind⟩
        · exact .inr ⟨_, _, by rw [hbehind, Option.map_some], hs.behind hid hnone⟩
      · exact .inr ⟨_, _, by rw [hinside, Option.map_some, Option.some_or], hs.inside hid⟩

/-! ## One pass over the forest -/

section
variable (id : String) (forest : Forest)

/-- **The first block with an id is the one that the located path leads to.** -/
theorem find?_eq_spot? : find? id forest =
    (locate? id forest).bind fun path => (spot? path forest).map (·.block) := by
  obtain ⟨hpath, hnone⟩ | ⟨path, s, hpath, hs⟩ := locate?_cases id forest
  · rw [hpath, hnone, Option.bind_none]
  · rw [hpath, hs.find, Option.bind_some, hs.spot, Option.map_some]

/-- **To replace the first block with an id is to put another one where the located path leads.** -/
theorem replaceFirst?_eq_put (f : Block → Block) : replaceFirst? id (fun b => [f b]) forest =
    (locate? id forest).bind fun path => (spot? path forest).map fun s => s.put (f s.block) := by
  obtain ⟨hpath, hnone⟩ | ⟨path, s, hpath, hs⟩ := locate?_cases id forest
  · rw [hpath, replaceFirst?_eq_none hnone, Option.bind_none]
  · rw [hpath, hs.put, Option.bind_some, hs.spot, Option.map_some]

/-- **To take out the first block with an id is to take out the one that the located path leads
to.** -/
theorem replaceFirst?_eq_removeAt? : replaceFirst? id (fun _ => []) forest =
    (locate? id forest).bind fun path => removeAt? path forest := by
  obtain ⟨hpath, hnone⟩ | ⟨path, s, hpath, hs⟩ := locate?_cases id forest
  · rw [hpath, replaceFirst?_eq_none hnone, Option.bind_none]
  · obtain ⟨forest', hremove, hreplace⟩ := hs.remove
    rw [hpath, hreplace, Option.bind_some, hremove]

end

end Forest

/-! ## Edits -/

namespace Edit

theorem append_eq (id : String) (b : Block) (forest : Forest) : append (some id) b forest =
    if (forest.find? id).any (·.kind.isLoop) then
      forest.replaceFirst? id fun p => [{ p with children := p.children ++ [b] }]
    else none := by
  obtain ⟨hpath, hnone⟩ | ⟨path, s, hpath, hs⟩ := forest.locate?_cases id
  · simp [append, hpath, hnone]
  · simp [append, hpath, hs.spot, hs.find, hs.put]

theorem update_eq (id : String) (patch : Params) : update id patch =
    Forest.replaceFirst? id fun b => [{ b with params := b.params.merge patch }] := by
  funext forest
  rw [Forest.replaceFirst?_eq_put]
  rfl

theorem remove_eq (id : String) : remove id = Forest.replaceFirst? id fun _ => [] := by
  funext forest
  exact (Forest.replaceFirst?_eq_removeAt? id forest).symm

end Edit

end SpriteScript
