/-
  Where edits of a forest apply.

  The outline of a forest lists its blocks in the order of the walk, each on a line of its own that
  tells how deep the block stands. An edit takes lines out of the outline, puts lines in or changes
  a line, always at the first block with an id.

  * `Line` is such a line, `Block.outline` and `Forest.outline` are outlines;
  * `Forest.Site`: between which lines the first block with an id stands, and that whatever is put
    in its place comes in there; `site_of_find?`: **each first block with an id has such a site**;
  * `Edit.hits_first`: **edits apply to the first block with an id and to nothing else**;
  * `Edit.apply` is the forest after an edit, and `Edit.remove_append`: **a removal takes an addition
    back**.
-/
import SpriteScript.Proofs.Edits

namespace SpriteScript

/-! ## Outlines -/

/-- A block without the blocks inside it, and the number of blocks that it stands inside of. -/
structure Line where
  depth : Nat
  id : String
  kind : BlockKind
  params : Params
  deriving Inhabited

mutual

/-- The lines of a block and of everything inside it. -/
def Block.outline (depth : Nat) : Block → List Line
  | ⟨id, kind, params, children⟩ =>
    ⟨depth, id, kind, params⟩ :: Forest.outline (depth + 1) children

/-- The lines of the blocks of a forest and of everything inside them. -/
def Forest.outline (depth : Nat) : Forest → List Line
  | [] => []
  | b :: bs => b.outline depth ++ Forest.outline depth bs

end

theorem Block.outline_eq (depth : Nat) (b : Block) : b.outline depth =
    ⟨depth, b.id, b.kind, b.params⟩ :: Forest.outline (depth + 1) b.children := by
  cases b
  rw [Block.outline]

namespace Forest

variable (depth : Nat) (b : Block) (bs cs : Forest)

@[simp] theorem outline_nil : outline depth [] = [] := by rw [outline]

@[simp] theorem outline_cons : outline depth (b :: bs) = b.outline depth ++ outline depth bs := by
  rw [outline]

/-- **Outlines are written block by block.** -/
@[simp] theorem outline_append :
    outline depth (bs ++ cs) = outline depth bs ++ outline depth cs := by
  induction bs with
  | nil => simp
  | cons b bs ih => simp [ih]

/-- **The lines of an outline are those of the blocks of the walk**, in this order. -/
theorem map_id_outline (forest : Forest) (depth : Nat) :
    (outline depth forest).map (·.id) = ids forest := by
  induction forest using Forest.induction generalizing depth with
  | nil => simp
  | cons b bs ihchildren ih => simp [Block.outline_eq, ihchildren, ih]

/-! ## The first block with an id -/

variable {id : String} {b : Block} {bs : Forest}

theorem notMem_ids_cons : id ∉ ids (b :: bs) ↔ b.id ≠ id ∧ id ∉ ids b.children ∧ id ∉ ids bs := by
  simp [eq_comm]

theorem find?_eq_none_iff_notMem : find? id bs = none ↔ id ∉ ids bs := by simp [find?, ids]

theorem find?_eq_none : find? id bs = none ↔ ∀ line ∈ outline depth bs, line.id ≠ id := by
  rw [find?_eq_none_iff_notMem, ← map_id_outline bs depth]
  simp

/-- Blocks without the id stay in front of those in which it is looked for. -/
theorem replaceFirst?_append {cs : Forest} (h : id ∉ ids cs) (f : Block → Forest) :
    replaceFirst? id f (cs ++ bs) = (replaceFirst? id f bs).map (cs ++ ·) := by
  induction cs with
  | nil => simp
  | cons c cs ih =>
    obtain ⟨hne, hinside, hbehind⟩ := notMem_ids_cons.mp h
    have hnone := replaceFirst?_eq_none (find?_eq_none_iff_notMem.mpr hinside) f
    rw [List.cons_append, replaceFirst?_cons_of_ne hne, hnone, ih hbehind]
    simp [Function.comp_def]

/-- The first block `c` with an id stands between the lines `before` and `after`, and whatever is
put in its place comes in there. -/
structure Site (id : String) (top : Nat) (forest : Forest) (c : Block) (before : List Line)
    (depth : Nat) (after : List Line) : Prop where
  outline : forest.outline top = before ++ c.outline depth ++ after
  own : c.id = id
  first : ∀ line ∈ before, line.id ≠ id
  replace : ∀ f, ∃ forest', replaceFirst? id f forest = some forest' ∧
    forest'.outline top = before ++ Forest.outline depth (f c) ++ after

namespace Site

variable {top depth : Nat} {c : Block} {before after : List Line}

theorem here (h : b.id = id) : Site id top (b :: bs) b [] top (Forest.outline top bs) where
  outline := by simp
  own := h
  first := by simp
  replace f := ⟨f b ++ bs, replaceFirst?_cons_of_eq h f, by simp⟩

theorem inside (hne : b.id ≠ id) (h : Site id (top + 1) b.children c before depth after) :
    Site id top (b :: bs) c (⟨top, b.id, b.kind, b.params⟩ :: before) depth
      (after ++ Forest.outline top bs) where
  outline := by simp [Block.outline_eq top b, h.outline]
  own := h.own
  first := by simpa [hne] using h.first
  replace f := by
    obtain ⟨children, hchildren, houtline⟩ := h.replace f
    refine ⟨{ b with children } :: bs, ?_, ?_⟩
    · rw [replaceFirst?_cons_of_ne hne, hchildren]
    · simp [Block.outline_eq top { b with children }, houtline]

theorem behind (hne : b.id ≠ id) (hnone : find? id b.children = none)
    (h : Site id top bs c before depth after) :
    Site id top (b :: bs) c (b.outline top ++ before) depth after where
  outline := by simp [h.outline]
  own := h.own
  first := by
    have hinside := (find?_eq_none (top + 1)).mp hnone
    intro line hline
    rw [Block.outline_eq] at hline
    rcases List.mem_append.mp hline with hline | hline
    · rcases List.mem_cons.mp hline with rfl | hline
      · exact hne
      · exact hinside line hline
    · exact h.first line hline
  replace f := by
    obtain ⟨bs', hbs, houtline⟩ := h.replace f
    refine ⟨b :: bs', ?_, by simp [houtline]⟩
    rw [replaceFirst?_cons_of_ne hne, replaceFirst?_eq_none hnone, hbs]
    rfl

end Site

/-- **Each first block with an id stands somewhere in the outline.** -/
theorem site_of_find? {forest : Forest} {c : Block} (h : find? id forest = some c) (top : Nat) :
    ∃ before depth after, Site id top forest c before depth after := by
  induction forest using Forest.induction generalizing top with
  | nil => simp [find?] at h
  | cons b bs ihchildren ih =>
    by_cases hid : b.id = id
    · rw [find?_cons_of_eq hid] at h
      obtain rfl := Option.some.inj h
      exact ⟨_, _, _, .here hid⟩
    · rw [find?_cons_of_ne hid] at h
      cases hinside : find? id b.children with
      | some c' =>
        rw [hinside] at h
        obtain rfl := Option.some.inj h
        obtain ⟨before, depth, after, hsite⟩ := ihchildren hinside (top + 1)
        exact ⟨_, _, _, hsite.inside hid⟩
      | none =>
        rw [hinside] at h
        obtain ⟨before, depth, after, hsite⟩ := ih h top
        exact ⟨_, _, _, hsite.behind hid hinside⟩

end Forest

/-! ## Edits -/

/-- **Edits apply to the first block with an id and to nothing else.** If no block has the id, the
forest stays as it is. Otherwise an update changes the parameters on the line of the block, a
removal takes its lines out together with those of everything inside it, and an addition puts the
lines of the new block behind those, one level deeper than the block, if the block is a loop; if it
is none, the forest stays as it is. Without an id a new block comes at the end. -/
theorem Edit.hits_first (forest : Forest) (id : String) :
    (∀ b, ∃ forest', append none b forest = some forest' ∧
      forest'.outline 0 = forest.outline 0 ++ b.outline 0) ∧
    match forest.find? id with
    | none => (∀ patch, update id patch forest = none) ∧ remove id forest = none ∧
        ∀ b, append (some id) b forest = none
    | some target => ∃ before depth after,
        forest.outline 0 = before ++ target.outline depth ++ after ∧
        target.id = id ∧ (∀ line ∈ before, line.id ≠ id) ∧
        (∀ patch, ∃ forest' params, update id patch forest = some forest' ∧
          forest'.outline 0 = before ++ { target with params }.outline depth ++ after ∧
          ∀ key : String, params[key]? = patch[key]?.or target.params[key]?) ∧
        (∃ forest', remove id forest = some forest' ∧ forest'.outline 0 = before ++ after) ∧
        ∀ b, if target.kind.isLoop then ∃ forest', append (some id) b forest = some forest' ∧
            forest'.outline 0 = before ++ target.outline depth ++ b.outline (depth + 1) ++ after
          else append (some id) b forest = none := by
  refine ⟨fun b => ⟨forest ++ [b], rfl, by simp⟩, ?_⟩
  simp only [append_eq, update_eq, remove_eq]
  cases hfind : forest.find? id with
  | none =>
    exact ⟨fun patch => Forest.replaceFirst?_eq_none hfind _,
      Forest.replaceFirst?_eq_none hfind _, fun b => rfl⟩
  | some target =>
    obtain ⟨before, depth, after, hsite⟩ := Forest.site_of_find? hfind 0
    refine ⟨before, depth, after, hsite.outline, hsite.own, hsite.first, ?_, ?_, ?_⟩
    · intro patch
      obtain ⟨forest', hupdate, houtline⟩ :=
        hsite.replace fun b => [{ b with params := b.params.merge patch }]
      refine ⟨forest', target.params.merge patch, hupdate, by simpa using houtline, ?_⟩
      exact Params.getElem?_merge target.params patch
    · obtain ⟨forest', hremove, houtline⟩ := hsite.replace fun _ => []
      exact ⟨forest', hremove, by simpa using houtline⟩
    · intro b
      cases hloop : target.kind.isLoop with
      | false => simp [hloop]
      | true =>
        obtain ⟨forest', happend, houtline⟩ :=
          hsite.replace fun p => [{ p with children := p.children ++ [b] }]
        refine ⟨forest', ?_, ?_⟩
        · simpa [hloop] using happend
        · simpa [Block.outline_eq] using houtline

/-! ## Taking an addition back -/

/-- What is inside the first block comes back to what it was, and so does the block. -/
theorem Forest.replaceFirst?_cons_back {id : String} {f : Block → Forest} {b : Block}
    {bs children : Forest} (hne : b.id ≠ id) (h : replaceFirst? id f children = some b.children) :
    replaceFirst? id f ({ b with children } :: bs) = some (b :: bs) := by
  obtain ⟨own, kind, params, inside⟩ := b
  have hother : (⟨own, kind, params, children⟩ : Block).id ≠ id := hne
  rw [replaceFirst?_cons_of_ne hother, h]

/-- A block that was put at the end of another one is the first with its id, if the id is new, and
is all that is taken out. -/
theorem Forest.Replaced.remove_last {c b : Block} {forest forest' : Forest}
    (h : Replaced c [{ c with children := c.children ++ [b] }] forest forest')
    (hnew : b.id ∉ Forest.ids forest) : replaceFirst? b.id (fun _ => []) forest' = some forest := by
  induction h with
  | here bs =>
    obtain ⟨hne, hinside, -⟩ := notMem_ids_cons.mp hnew
    have hlast : replaceFirst? b.id (fun _ => []) (c.children ++ [b]) = some c.children := by
      rw [replaceFirst?_append hinside, replaceFirst?_cons_of_eq rfl]
      simp
    exact replaceFirst?_cons_back hne hlast
  | @inside bs d children _ ih =>
    obtain ⟨hne, hinside, -⟩ := notMem_ids_cons.mp hnew
    exact replaceFirst?_cons_back hne (ih hinside)
  | @behind d bs bs' _ ih =>
    obtain ⟨hne, hinside, hbehind⟩ := notMem_ids_cons.mp hnew
    have hnone := replaceFirst?_eq_none (find?_eq_none_iff_notMem.mpr hinside) fun _ => []
    rw [replaceFirst?_cons_of_ne hne, hnone, ih hbehind]
    rfl

namespace Edit

/-- The forest after an edit, changed or not. -/
def apply (e : Edit) (forest : Forest) : Forest := (e forest).getD forest

/-- An addition that changes a forest is taken back by a removal. -/
theorem remove_of_append {forest forest' : Forest} {parent : Option String} {b : Block}
    (hnew : b.id ∉ Forest.ids forest) (h : append parent b forest = some forest') :
    remove b.id forest' = some forest := by
  cases parent with
  | none =>
    obtain rfl := Option.some.inj h
    rw [remove_eq, Forest.replaceFirst?_append hnew, Forest.replaceFirst?_cons_of_eq rfl]
    simp
  | some id =>
    rw [append_eq] at h
    split at h
    · obtain ⟨c, -, hreplaced⟩ := Forest.replaced_of_replaceFirst? id _ forest h
      rw [remove_eq]
      exact hreplaced.remove_last hnew
    · simp at h

/-- **A removal takes an addition back**, wherever the block was put, if no block of the forest has
its id; the blocks inside it may have any. The removal changes the forest exactly if the addition
did. -/
theorem remove_append (forest : Forest) (parent : Option String) (b : Block)
    (hnew : b.id ∉ Forest.ids forest) :
    (remove b.id).apply ((append parent b).apply forest) = forest ∧
      (remove b.id ((append parent b).apply forest) = none ↔ append parent b forest = none) := by
  cases hadded : append parent b forest with
  | none =>
    have hnone : remove b.id forest = none := by
      rw [remove_eq]
      exact Forest.replaceFirst?_eq_none (Forest.find?_eq_none_iff_notMem.mpr hnew) _
    simp [apply, hadded, hnone]
  | some forest' => simp [apply, hadded, remove_of_append hnew hadded]

/-- Loops with one id inside and behind each other. -/
def nest : Forest :=
  [⟨"b1", .move, {}, []⟩, ⟨"b2", .loop, {}, [⟨"b3", .loop, {}, [⟨"b1", .turn, {}, []⟩]⟩]⟩,
    ⟨"b3", .loop, {}, []⟩]

/-- A loop that holds a block with its own id and one with an id of the forest comes to the end of
the first of two loops, and goes. -/
theorem remove_append_nest :
    let b : Block := ⟨"b4", .loop, {}, [⟨"b3", .loop, {}, []⟩, ⟨"b4", .say, {}, []⟩]⟩
    b.id ∉ Forest.ids nest ∧
      (append (some "b3") b nest).map Forest.ids =
        some ["b1", "b2", "b3", "b1", "b4", "b3", "b4", "b3"] ∧
      (remove b.id).apply ((append (some "b3") b).apply nest) = nest ∧
      (remove b.id ((append (some "b3") b).apply nest) = none ↔
        append (some "b3") b nest = none) :=
  ⟨by decide, by decide, remove_append nest (some "b3") _ (by decide)⟩

end Edit

end SpriteScript
