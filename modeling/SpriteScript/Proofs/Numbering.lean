/-
  The ids of what is read from a document.

  The elements of a document are its sprites, scripts and blocks, each before its parts. Those
  without an id of their own are numbered in this order.

  * `Json.elements` lists the `id` fields of a document, `Project.elements` the ids of a project,
    each with the number of elements that the element stands inside of;
  * `ProjectOf.elements`: **the elements of a project are those of its document**, each with its own
    id or the next one;
  * `Project.ofJson_numbers`: **counted ids number the elements that have none**.
-/
import SpriteScript.Proofs.Documents
import SpriteScript.Proofs.Outline

namespace SpriteScript

/-! ## Elements of documents -/

namespace Json

/-- The items of the list in a field; there are none if it holds no list. -/
def itemsIn (key : String) (v : Json) : List Json := ((v.field? key).bind items?).getD []

theorem itemsIn_object (key : String) (fields : List (String × Json)) :
    (object fields).itemsIn key = ((fields.lookup key).bind items?).getD [] := rfl

theorem exists_of_mem_itemsIn {key : String} {v w : Json} (h : w ∈ v.itemsIn key) :
    ∃ fields items, v = object fields ∧ fields.lookup key = some (array items) ∧ w ∈ items := by
  unfold itemsIn at h
  cases hlist : (v.field? key).bind items? with
  | none => simp [hlist] at h
  | some items =>
    rw [hlist] at h
    obtain ⟨list, hfield, hitems⟩ := Option.bind_eq_some_iff.mp hlist
    obtain rfl := Reading.items?_eq_some.mp hitems
    cases v with
    | object fields => exact ⟨fields, items, rfl, hfield, h⟩
    | null | bool | int | float | string | array => simp [field?] at hfield

theorem sizeOf_lt_of_mem_itemsIn {key : String} {v w : Json} (h : w ∈ v.itemsIn key) :
    sizeOf w < sizeOf v := by
  obtain ⟨fields, items, rfl, hfield, hw⟩ := exists_of_mem_itemsIn h
  have hlist := sizeOf_lt_of_lookup hfield
  have hitem := List.sizeOf_lt_of_mem hw
  rw [array.sizeOf_spec] at hlist
  rw [object.sizeOf_spec]
  omega

/-- The `id` fields of a block and of all blocks inside it, each with the depth of its block. -/
def blockElements (depth : Nat) (v : Json) : List (Nat × Option Json) :=
  (depth, v.field? "id") ::
    (v.itemsIn "children").attach.flatMap fun w => w.1.blockElements (depth + 1)
termination_by sizeOf v
decreasing_by exact sizeOf_lt_of_mem_itemsIn w.2

theorem blockElements_eq (depth : Nat) (v : Json) : v.blockElements depth =
    (depth, v.field? "id") :: (v.itemsIn "children").flatMap (blockElements (depth + 1)) := by
  rw [blockElements]
  simp

/-- The `id` fields of a script and of its blocks. -/
def scriptElements (v : Json) : List (Nat × Option Json) :=
  (1, v.field? "id") :: (v.itemsIn "blocks").flatMap (blockElements 2)

/-- The `id` fields of a sprite and of all its scripts. -/
def spriteElements (v : Json) : List (Nat × Option Json) :=
  (0, v.field? "id") :: (v.itemsIn "scripts").flatMap scriptElements

/-- The `id` fields of all elements of a document. -/
def elements (v : Json) : List (Nat × Option Json) := (v.itemsIn "sprites").flatMap spriteElements

/-- Whether an `id` field holds no usable id: it is missing, or holds no text or a blank one. -/
def lacksId : Option Json → Bool
  | some (.string id) => isBlankText id
  | _ => true

end Json

/-! ## Elements of projects -/

/-- The ids of the blocks of a forest, each with the depth of its block. -/
def Forest.elements (depth : Nat) (forest : Forest) : List (Nat × String) :=
  (forest.outline depth).map fun line => (line.depth, line.id)

/-- The ids of a script and of its blocks. -/
def Script.elements (script : Script) : List (Nat × String) :=
  (1, script.id) :: script.blocks.elements 2

/-- The ids of a sprite, of its scripts and of their blocks. -/
def Sprite.elements (sprite : Sprite) : List (Nat × String) :=
  (0, sprite.id) :: sprite.scripts.flatMap Script.elements

/-- The ids of all elements of a project. -/
def Project.elements (p : Project) : List (Nat × String) := p.sprites.flatMap Sprite.elements

theorem Forest.elements_eq (depth : Nat) (forest : Forest) : forest.elements depth =
    forest.flatMap fun b => (depth, b.id) :: Forest.elements (depth + 1) b.children := by
  induction forest with
  | nil => simp [elements]
  | cons b bs ih =>
    rw [List.flatMap_cons, ← ih]
    simp [elements, Block.outline_eq]

/-! ## Reading elements -/

section
variable {ι α β γ δ : Type} {R : α → ι → β → ι → Prop} {S : γ → ι → δ → ι → Prop}
  {ids ids₁ ids' : ι}

theorem Draws.append {as as' : List α} {bs bs' : List β} (h : Draws R as ids bs ids₁)
    (h' : Draws R as' ids₁ bs' ids') : Draws R (as ++ as') ids (bs ++ bs') ids' := by
  induction h with
  | nil => exact h'
  | cons hb _ ih => exact .cons hb (ih h')

/-- What is drawn for the items of a list makes up what is drawn for the list. -/
theorem Draws.flatMap {items : List γ} {xs : List δ} {f : γ → List α} {g : δ → List β}
    (h : Draws S items ids xs ids')
    (hS : ∀ v ∈ items, ∀ ids x ids', S v ids x ids' → Draws R (f v) ids (g x) ids') :
    Draws R (items.flatMap f) ids (xs.flatMap g) ids' := by
  induction h with
  | nil => exact .nil
  | cons hx _ ih =>
    rw [List.forall_mem_cons] at hS
    exact (hS.1 _ _ _ hx).append (ih hS.2)

theorem ListOf.draws {S : Json → ι → δ → ι → Prop} {key : String} {fields : List (String × Json)}
    {xs : List δ} (h : ListOf S (fields.lookup key) ids xs ids') :
    Draws S ((Json.object fields).itemsIn key) ids xs ids' := by
  rw [Json.itemsIn_object]
  generalize fields.lookup key = field at h
  cases h with
  | missing => exact .nil
  | given hdraws => exact hdraws

end

section
variable {ι : Type} [IdSource ι] {ids ids' : ι}

/-- An element has its own id or the next one, and stands as deep as in the document. -/
def ElementOf (given : Nat × Option Json) (ids : ι) (got : Nat × String) (ids' : ι) : Prop :=
  got.1 = given.1 ∧ IdOf given.2 ids got.2 ids'

theorem BlockOf.elements {v : Json} {b : Block} (h : BlockOf v ids b ids') (depth : Nat) :
    Draws ElementOf (v.blockElements depth) ids
      ((depth, b.id) :: Forest.elements (depth + 1) b.children) ids' := by
  induction v using Json.inside_induction generalizing ids b ids' depth with
  | step v ih =>
    cases h with
    | @object fields id kind params children _ _ _ _ hid _ hchildren _ =>
      rw [Json.blockElements_eq, Forest.elements_eq]
      refine .cons ⟨rfl, hid⟩ (hchildren.draws.flatMap ?_)
      intro w hw _ _ _ hb
      obtain ⟨fields, items, hv, hitems, hw⟩ := Json.exists_of_mem_itemsIn hw
      exact ih fields "children" items w hv hitems hw hb (depth + 1)

theorem ScriptOf.elements {v : Json} {script : Script} (h : ScriptOf v ids script ids') :
    Draws ElementOf v.scriptElements ids script.elements ids' := by
  cases h with
  | object hid hblocks =>
    rw [Script.elements, Forest.elements_eq]
    exact .cons ⟨rfl, hid⟩ (hblocks.draws.flatMap fun _ _ _ _ _ hb => hb.elements 2)

theorem SpriteOf.elements {v : Json} {sprite : Sprite} (h : SpriteOf v ids sprite ids') :
    Draws ElementOf v.spriteElements ids sprite.elements ids' := by
  cases h with
  | object _ _ hid _ _ _ _ _ _ _ _ hscripts =>
    exact .cons ⟨rfl, hid⟩ (hscripts.draws.flatMap fun _ _ _ _ _ hscript => hscript.elements)

/-- **The elements of a project are those of its document**, each with its own id or the next. -/
theorem ProjectOf.elements {root : Json} {p : Project} (h : ProjectOf root ids p ids') :
    Draws ElementOf root.elements ids p.elements ids' := by
  cases h with
  | @object fields items sprites _ _ hsprites _ hdraws =>
    have hitems : (Json.object fields).itemsIn "sprites" = items := by
      rw [Json.itemsIn_object, hsprites]
      rfl
    rw [Json.elements, hitems]
    exact hdraws.flatMap fun _ _ _ _ _ hsprite => hsprite.elements

end

/-! ## Counted ids -/

/-- An element that has an id keeps it, and one that has none gets the next one. -/
theorem IdOf.own_or_next {v : Option Json} {ids ids' : SequentialIds} {id : String}
    (h : IdOf v ids id ids') :
    Json.lacksId v = false ∧ v = some (.string id) ∧ ids' = ids ∨
    Json.lacksId v = true ∧ id = SequentialIds.nth ids.stem (ids.count + 1) ∧
      ids' = ⟨ids.stem, ids.count + 1⟩ := by
  cases h with
  | own hblank => exact .inl ⟨hblank, rfl, rfl⟩
  | drawn hnone =>
    refine .inr ⟨?_, rfl, rfl⟩
    unfold Json.lacksId
    split
    · next id => exact hnone id rfl
    · rfl

/-- **The elements without an id get the next numbers in their order**; the others keep theirs. -/
theorem Draws.numbers {given : List (Nat × Option Json)} {got : List (Nat × String)}
    {ids ids' : SequentialIds} (h : Draws ElementOf given ids got ids') :
    got.map (·.1) = given.map (·.1) ∧
    (∀ e ∈ given.zip got, Json.lacksId e.1.2 = false → e.1.2 = some (.string e.2.2)) ∧
    ((given.zip got).filter fun e => Json.lacksId e.1.2).map (·.2.2) =
      (List.range (given.countP fun e => Json.lacksId e.2)).map
        (fun k => SequentialIds.nth ids.stem (ids.count + (k + 1))) ∧
    ids' = ⟨ids.stem, ids.count + given.countP fun e => Json.lacksId e.2⟩ := by
  induction h with
  | nil => simp
  | @cons v given e got ids ids₁ ids' he _ ih =>
    obtain ⟨hdepth, hid⟩ := he
    obtain ⟨hdepths, hown, hdrawn, hcount⟩ := ih
    have hdepths' : (e :: got).map (·.1) = (v :: given).map (·.1) := by simp [hdepth, hdepths]
    rw [List.zip_cons_cons, List.forall_mem_cons]
    -- The rest is numbered from `ids₁` on: from the same number, or from the one after it.
    rcases hid.own_or_next with ⟨hlacks, hgiven, rfl⟩ | ⟨hlacks, hnext, rfl⟩
    · exact ⟨hdepths', ⟨fun _ => hgiven, hown⟩, by simpa [hlacks] using hdrawn,
        by simpa [hlacks] using hcount⟩
    · have hmore : (v :: given).countP (fun e => Json.lacksId e.2) =
          given.countP (fun e => Json.lacksId e.2) + 1 := List.countP_cons_of_pos hlacks
      have hfirst : ((v, e) :: given.zip got).filter (fun e => Json.lacksId e.1.2) =
          (v, e) :: (given.zip got).filter (fun e => Json.lacksId e.1.2) :=
        List.filter_cons_of_pos hlacks
      refine ⟨hdepths', ⟨fun hown => absurd hown (by simp [hlacks]), hown⟩, ?_, ?_⟩
      · rw [hfirst, hmore, List.range_succ_eq_map, List.map_cons, List.map_cons, List.map_map,
          hdrawn, hnext]
        simp [Function.comp_def, Nat.add_assoc, Nat.add_comm 1]
      · rw [hcount, hmore, Nat.add_right_comm, Nat.add_assoc]

/-- **Counted ids number the elements that have none**, in the order of the document, an element
before its parts. The elements of the project are those of the document, at the same depths. An
element with an id of its own keeps it just as it is given. Of the others, the first has the number
that comes next, the second the one after that and so on, and the count goes on from the last of
these numbers. -/
theorem Project.ofJson_numbers {root : Json} {stem : String} {count : Nat} {p : Project}
    {ids' : SequentialIds} (h : ofJson root (⟨stem, count⟩ : SequentialIds) = .ok (p, ids')) :
    let both := root.elements.zip p.elements
    let lacking := root.elements.countP fun e => Json.lacksId e.2
    p.elements.map (·.1) = root.elements.map (·.1) ∧
    (∀ e ∈ both, Json.lacksId e.1.2 = false → e.1.2 = some (.string e.2.2)) ∧
    (both.filter fun e => Json.lacksId e.1.2).map (·.2.2) =
      (List.range lacking).map (fun k => stem ++ "-" ++ toString (count + (k + 1))) ∧
    ids' = ⟨stem, count + lacking⟩ :=
  (Reading.gives_readProject.mp h).1.elements.numbers

/-- A document with ids that are blank, no text or missing, and with two that can be used. -/
def Json.catAndDog : Json := .object [("sprites", .array [
  .object [("id", .string " "), ("name", .string "Cat"),
    ("scripts", .array [.object [("blocks", .array [
      .object [("children", .array [.object [("type", .string "say")]]), ("id", .string "b"),
        ("type", .string "repeat")],
      .object [("id", .string ""), ("type", .string "move")]]), ("id", .int 7)]]),
    ("x", .int 1), ("y", .int 2)],
  .object [("id", .string "dog"), ("name", .string "Dog"), ("x", .int 3), ("y", .int 4)]])]

/-- Four elements of the document are numbered from the fifth id on. -/
theorem Project.ofJson_numbers_catAndDog :
    ∃ p, ofJson Json.catAndDog (⟨"gen", 4⟩ : SequentialIds) = .ok (p, ⟨"gen", 8⟩) ∧
      p.elements.map (·.1) = [0, 1, 2, 3, 2, 0] ∧
      ((Json.catAndDog.elements.zip p.elements).filter fun e => Json.lacksId e.1.2).map (·.2.2) =
        ["gen-5", "gen-6", "gen-7", "gen-8"] := by
  have helements : Json.catAndDog.elements = [(0, some (.string " ")), (1, some (.int 7)),
      (2, some (.string "b")), (3, none), (2, some (.string "")), (0, some (.string "dog"))] := by
    simp [Json.elements, Json.spriteElements, Json.scriptElements, Json.blockElements_eq,
      Json.catAndDog, Json.itemsIn, Json.field?, Json.items?, List.lookup_cons]
  obtain ⟨p, ids', hread⟩ : ∃ p ids', ofJson Json.catAndDog (⟨"gen", 4⟩ : SequentialIds) =
      .ok (p, ids') := ⟨_, _, rfl⟩
  obtain ⟨hdepths, -, hnumbers, rfl⟩ := ofJson_numbers hread
  rw [helements] at hread hdepths hnumbers
  exact ⟨p, hread, hdepths, helements ▸ hnumbers⟩

end SpriteScript
