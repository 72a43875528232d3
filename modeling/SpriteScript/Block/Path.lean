/-
  Paths to the blocks of a forest.

  A path leads from a forest to one of its blocks by the indices on the way down: which block of the
  forest, which of the blocks inside that one, and so on. To follow it no ids are compared.

  * `Forest.locate?` is the path to the first block with an id;
  * `Spot` is a block in a forest, with what becomes of the forest if another block is put there,
    and `Forest.spot?` the spot that a path leads to;
  * `Forest.removeAt?` takes out the block that a path leads to;
  * `locate?_cons_of_ne`, `spot?_inside`, `spot?_behind`, `removeAt?_inside` and `removeAt?_behind`:
    a path goes on inside the first block of a forest or among the blocks behind it.
-/
import SpriteScript.Block.Basic

namespace SpriteScript

/-- The indices on the way down to a block, the outermost first. -/
abbrev Forest.Path := List Nat

/-! ## The path to a block -/

mutual

/-- The path from a block to the first one with an id among it and everything inside it. -/
def Block.locate? (id : String) : Block → Option Forest.Path
  | ⟨own, _, _, children⟩ => if own = id then some [] else Forest.locateFrom? id 0 children

/-- The path to the first block with an id, if the indices of the forest start at `index`. -/
def Forest.locateFrom? (id : String) (index : Nat) : Forest → Option Forest.Path
  | [] => none
  | b :: bs =>
    match b.locate? id with
    | some path => some (index :: path)
    | none => Forest.locateFrom? id (index + 1) bs

end

namespace Forest

/-- The path to the first block with an id, each block being looked at before the blocks inside
it. -/
def locate? (id : String) (forest : Forest) : Option Path := locateFrom? id 0 forest

/-! ## The block that a path leads to -/

/-- A block in a forest, and the forest that comes about if another block is put in its place. -/
structure Spot where
  block : Block
  put : Block → Forest

/-- A spot inside of the block `b`, which stands at an index of a forest. -/
def Spot.inside (bs : Forest) (index : Nat) (b : Block) (s : Spot) : Spot :=
  ⟨s.block, fun c => bs.set index { b with children := s.put c }⟩

/-- The spot that a path leads to. -/
def spot? : Path → Forest → Option Spot
  | [], _ => none
  | index :: rest, bs => do
    let b ← bs[index]?
    if rest.isEmpty then some ⟨b, bs.set index⟩
    else (spot? rest b.children).map (.inside bs index b)

/-- Takes out the block at an index. -/
def eraseAt? (index : Nat) (bs : Forest) : Option Forest :=
  if index < bs.length then some (bs.eraseIdx index) else none

/-- Takes out the block that a path leads to, of the forest or of the blocks inside another one. -/
def removeAt? (path : Path) (forest : Forest) : Option Forest := do
  let index ← path.getLast?
  if path.dropLast.isEmpty then forest.eraseAt? index
  else
    let parent ← forest.spot? path.dropLast
    (eraseAt? index parent.block.children).map fun children =>
      parent.put { parent.block with children }

/-! ## Paths through the first block, and past it -/

/-- The path to the same block when one more block stands in front of the forest. -/
def Path.behind : Path → Path
  | [] => []
  | index :: rest => (index + 1) :: rest

/-- The same spot when one more block stands in front of the forest. -/
def Spot.behind (b : Block) (s : Spot) : Spot := ⟨s.block, fun c => b :: s.put c⟩

theorem locateFrom?_succ (id : String) (bs : Forest) (index : Nat) :
    locateFrom? id (index + 1) bs = (locateFrom? id index bs).map Path.behind := by
  induction bs generalizing index with
  | nil => simp [locateFrom?]
  | cons b bs ih =>
    rw [locateFrom?, locateFrom?]
    cases b.locate? id with
    | some path => rfl
    | none => exact ih (index + 1)

section
variable {id : String} {b : Block} (bs : Forest)

@[simp] theorem locate?_nil : locate? id [] = none := by rw [locate?, locateFrom?]

theorem locate?_cons_of_eq (h : b.id = id) : locate? id (b :: bs) = some [0] := by
  obtain ⟨own, kind, params, children⟩ := b
  rw [locate?, locateFrom?, Block.locate?, if_pos h]

theorem locate?_cons_of_ne (h : b.id ≠ id) : locate? id (b :: bs) =
    ((locate? id b.children).map (0 :: ·)).or ((locate? id bs).map Path.behind) := by
  obtain ⟨own, kind, params, children⟩ := b
  rw [locate?, locateFrom?, Block.locate?, if_neg h, locateFrom?_succ]
  cases hinside : locateFrom? id 0 children <;> simp [locate?, hinside]

end

section
variable (b : Block) (bs : Forest) {path : Path}

@[simp] theorem spot?_nil : spot? [] bs = none := rfl

theorem spot?_here : spot? [0] (b :: bs) = some ⟨b, (· :: bs)⟩ := rfl

theorem spot?_inside (h : path ≠ []) :
    spot? (0 :: path) (b :: bs) = (spot? path b.children).map (.inside (b :: bs) 0 b) := by
  have hrest : path.isEmpty = false := by simpa using h
  rw [spot?, hrest]
  rfl

theorem spot?_behind : spot? path.behind (b :: bs) = (spot? path bs).map (.behind b) := by
  cases path with
  | nil => rfl
  | cons index rest =>
    rw [Path.behind, spot?, spot?, List.getElem?_cons_succ]
    cases bs[index]? with
    | none => rfl
    | some c =>
      simp only [Option.bind_eq_bind, Option.bind_some]
      split
      · rfl
      · rw [Option.map_map]
        rfl

theorem eraseAt?_succ (index : Nat) :
    eraseAt? (index + 1) (b :: bs) = (eraseAt? index bs).map (b :: ·) := by
  simp only [eraseAt?, List.length_cons, Nat.add_lt_add_iff_right, List.eraseIdx_cons_succ]
  split <;> rfl

/-- Below the forest itself, a block is taken out of the blocks inside the one that the rest of the
path leads to. -/
theorem removeAt?_append (h : path ≠ []) (index : Nat) : removeAt? (path ++ [index]) bs =
    (spot? path bs).bind fun parent => (eraseAt? index parent.block.children).map fun children =>
      parent.put { parent.block with children } := by
  have hparents : path.isEmpty = false := by simpa using h
  rw [removeAt?, List.getLast?_concat, List.dropLast_concat, hparents]
  rfl

theorem removeAt?_here : removeAt? [0] (b :: bs) = some bs := rfl

theorem removeAt?_inside (h : path ≠ []) : removeAt? (0 :: path) (b :: bs) =
    (removeAt? path b.children).map fun children => { b with children } :: bs := by
  obtain rfl | ⟨parents, index, rfl⟩ := List.eq_nil_or_concat path
  · exact absurd rfl h
  · by_cases hparents : parents = []
    · subst hparents
      rfl
    · rw [List.concat_eq_append, ← List.cons_append, removeAt?_append _ (List.cons_ne_nil _ _),
        removeAt?_append _ hparents, spot?_inside b bs hparents]
      cases spot? parents b.children <;> simp [Spot.inside, Function.comp_def]

theorem removeAt?_behind : removeAt? path.behind (b :: bs) = (removeAt? path bs).map (b :: ·) := by
  obtain rfl | ⟨parents, index, rfl⟩ := List.eq_nil_or_concat path
  · rfl
  · cases parents with
    | nil => exact eraseAt?_succ b bs index
    | cons head rest =>
      have hparents : head :: rest ≠ [] := List.cons_ne_nil _ _
      have hmoved : Path.behind (head :: rest) ≠ [] := List.cons_ne_nil _ _
      have hbehind : Path.behind ((head :: rest) ++ [index]) =
        Path.behind (head :: rest) ++ [index] := rfl
      rw [List.concat_eq_append, hbehind, removeAt?_append _ hmoved, removeAt?_append _ hparents,
        spot?_behind]
      cases spot? (head :: rest) bs <;> simp [Spot.behind, Function.comp_def]

end

end Forest

end SpriteScript
