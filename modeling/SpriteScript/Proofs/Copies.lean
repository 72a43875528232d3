/-
  Which blocks a plan has copies of, and how many.

  Equal blocks can stand at several places of a forest, and blocks with the same id, so it is the
  place that tells one block from another. A plan does not say where its commands come from: its
  origins are the places of the blocks that they are copies of.

  * `Place` is a place in a forest, `Forest.node?` the block there, `Forest.around` the blocks that
    it stands inside of, and `Forest.times` the product of the rounds of these, if all are loops;
  * `Forest.origins` are the origins of a plan; `Forest.node?_origins`: the commands of a plan are
    the blocks at its origins;
  * `Forest.label` gives each block an id that tells its place, and `Forest.id_plan_label`: **these
    ids, in a plan, tell its origins**;
  * `Forest.count_origins`: **how often a plan has a copy of a command**;
  * `Forest.plan_of_commands`: commands are their own plan;
  * `Forest.plan_copies`: **what a plan holds, and how often**.
-/
import SpriteScript.Proofs.Loops
import SpriteScript.Proofs.Outline

namespace SpriteScript

/-! ## Places -/

/-- A place in a forest: that of its first block, a place among the blocks inside the first one, or
a place among those behind it. -/
inductive Place where
  | here
  | inside (p : Place)
  | behind (p : Place)
  deriving DecidableEq

namespace Place

theorem inside_injective : Function.Injective inside := fun _ _ => Place.inside.inj

theorem behind_injective : Function.Injective behind := fun _ _ => Place.behind.inj

end Place

namespace Forest

/-- The block at a place. -/
def node? : Place → Forest → Option Block
  | _, [] => none
  | .here, b :: _ => some b
  | .inside p, b :: _ => node? p b.children
  | .behind p, _ :: bs => node? p bs

/-- The blocks that the block at a place stands inside of, the outermost first. -/
def around : Place → Forest → List Block
  | _, [] => []
  | .here, _ :: _ => []
  | .inside p, b :: _ => b :: around p b.children
  | .behind p, _ :: bs => around p bs

/-- How often a command at a place is carried out: once in each round of each loop that it stands
inside of, and never if it stands inside a block that is no loop. -/
def times (limit : Nat) (p : Place) (forest : Forest) : Nat :=
  if (around p forest).all (·.kind.isLoop) then
    ((around p forest).map (loopCount limit ·.params)).prod
  else 0

section
variable (limit : Nat) (p : Place) (b : Block) (bs : Forest)

theorem times_here : times limit .here (b :: bs) = 1 := rfl

theorem times_behind : times limit (.behind p) (b :: bs) = times limit p bs := rfl

variable {b}

/-- A loop multiplies by its rounds. -/
theorem times_inside_of_isLoop (h : b.kind.isLoop) :
    times limit (.inside p) (b :: bs) = loopCount limit b.params * times limit p b.children := by
  simp only [times, around, List.all_cons, h, Bool.true_and, List.map_cons, List.prod_cons]
  split
  · rfl
  · exact (Nat.mul_zero _).symm

theorem times_inside_of_not_isLoop (h : ¬ b.kind.isLoop) :
    times limit (.inside p) (b :: bs) = 0 := by
  simp [times, around, h]

end

end Forest

/-! ## Origins -/

mutual

/-- The places of the blocks that the plan of a block has copies of, in the order of the plan. -/
def Block.origins (limit : Nat) : Block → List Place
  | ⟨_, kind, params, children⟩ =>
    if kind.isLoop then
      (List.replicate (loopCount limit params) ((Forest.origins limit children).map .inside)).flatten
    else [.here]

/-- The places of the blocks that a plan has copies of, in the order of the plan. -/
def Forest.origins (limit : Nat) : Forest → List Place
  | [] => []
  | b :: bs => b.origins limit ++ (Forest.origins limit bs).map .behind

end

theorem Block.origins_of_isLoop (limit : Nat) (b : Block) (h : b.kind.isLoop) :
    b.origins limit = (List.replicate (loopCount limit b.params)
      ((Forest.origins limit b.children).map .inside)).flatten := by
  obtain ⟨id, kind, params, children⟩ := b
  rw [Block.origins, if_pos h]

theorem Block.origins_of_not_isLoop (limit : Nat) (b : Block) (h : ¬ b.kind.isLoop) :
    b.origins limit = [.here] := by
  obtain ⟨id, kind, params, children⟩ := b
  rw [Block.origins, if_neg h]

/-- A plan of a block has no copies of what stands behind it. -/
theorem Block.behind_notMem_origins (limit : Nat) (b : Block) (p : Place) :
    .behind p ∉ b.origins limit := by
  by_cases h : b.kind.isLoop
  · simp [b.origins_of_isLoop limit h]
  · simp [b.origins_of_not_isLoop limit h]

mutual

/-- The block and everything inside it with other ids, which depend on the place. -/
def Block.label (f : Place → String) : Block → Block
  | ⟨_, kind, params, children⟩ => ⟨f .here, kind, params, Forest.label (f ∘ .inside) children⟩

/-- The forest with other ids, which depend on the place. -/
def Forest.label (f : Place → String) : Forest → Forest
  | [] => []
  | b :: bs => b.label f :: Forest.label (f ∘ .behind) bs

end

namespace Forest

variable (limit : Nat)

@[simp] theorem origins_nil : origins limit [] = [] := by rw [origins]

@[simp] theorem origins_cons (b : Block) (bs : Forest) :
    origins limit (b :: bs) = b.origins limit ++ (origins limit bs).map .behind := by rw [origins]

/-- **The commands of a plan are the blocks at its origins**, with everything inside them. -/
theorem node?_origins (forest : Forest) :
    (origins limit forest).map (node? · forest) = (plan limit forest).map some := by
  induction forest using Forest.induction with
  | nil => simp
  | cons b bs ihchildren ih =>
    have hfirst : (b.origins limit).map (node? · (b :: bs)) = (b.plan limit).map some := by
      by_cases h : b.kind.isLoop
      · rw [b.origins_of_isLoop limit h, b.plan_of_isLoop limit h]
        simp only [List.map_flatten, List.map_replicate, List.map_map]
        rw [← ihchildren]
        rfl
      · rw [b.origins_of_not_isLoop limit h, b.plan_of_not_isLoop limit h]
        rfl
    rw [origins_cons, plan_cons, List.map_append, List.map_append, hfirst, ← ih, List.map_map]
    rfl

/-- **Ids that tell the place tell the origins of a plan.** -/
theorem id_plan_label (f : Place → String) (forest : Forest) :
    (plan limit (label f forest)).map (·.id) = (origins limit forest).map f := by
  induction forest using Forest.induction generalizing f with
  | nil => simp [label]
  | cons b bs ihchildren ih =>
    obtain ⟨id, kind, params, children⟩ := b
    have hfirst : ((Block.label f ⟨id, kind, params, children⟩).plan limit).map (·.id) =
        (Block.origins limit ⟨id, kind, params, children⟩).map f := by
      rw [Block.label]
      by_cases h : kind.isLoop
      · rw [Block.origins_of_isLoop limit _ h, Block.plan_of_isLoop limit _ h]
        simp only [List.map_flatten, List.map_replicate, List.map_map]
        rw [ihchildren]
      · rw [Block.origins_of_not_isLoop limit _ h, Block.plan_of_not_isLoop limit _ h]
        rfl
    rw [label, origins_cons, plan_cons, List.map_append, List.map_append, hfirst, ih, List.map_map]

/-- **How often a plan has a copy of a command.** -/
theorem count_origins {p : Place} {forest : Forest} {c : Block} (hc : node? p forest = some c)
    (hcommand : ¬ c.kind.isLoop) : (origins limit forest).count p = times limit p forest := by
  induction forest using Forest.induction generalizing p with
  | nil => simp [node?] at hc
  | cons b bs ihchildren ih =>
    rw [origins_cons, List.count_append]
    cases p with
    | here =>
      obtain rfl := Option.some.inj hc
      rw [Block.origins_of_not_isLoop limit _ hcommand, times_here]
      have hrest : Place.here ∉ (origins limit bs).map .behind := by simp
      rw [List.count_eq_zero_of_not_mem hrest]
      rfl
    | inside p =>
      have hrest : Place.inside p ∉ (origins limit bs).map .behind := by simp
      rw [List.count_eq_zero_of_not_mem hrest, Nat.add_zero]
      by_cases h : b.kind.isLoop
      · rw [b.origins_of_isLoop limit h, times_inside_of_isLoop limit p bs h, ← ihchildren hc]
        simp [List.count_flatten, List.count_map_of_injective _ _ Place.inside_injective]
      · rw [b.origins_of_not_isLoop limit h, times_inside_of_not_isLoop limit p bs h]
        rfl
    | behind p =>
      rw [List.count_eq_zero_of_not_mem (b.behind_notMem_origins limit p), Nat.zero_add,
        List.count_map_of_injective _ _ Place.behind_injective, times_behind, ih hc]

/-! ## Plans of plans -/

/-- Commands are their own plan. -/
theorem plan_of_commands {bs : Forest} (h : ∀ b ∈ bs, b.kind.isLoop = false) :
    plan limit bs = bs := by
  induction bs with
  | nil => rfl
  | cons b bs ih =>
    obtain ⟨hb, hbs⟩ := List.forall_mem_cons.mp h
    rw [plan_cons, b.plan_of_not_isLoop limit (Bool.eq_false_iff.mp hb), ih hbs]
    rfl

/-- **What a plan holds, and how often.** There are no loops in it. Its commands are copies of the
blocks at its origins, with everything inside them; these are the places that a plan shows if ids
tell places. A command has as many copies as the product of the rounds of the loops that it stands
inside of, one if it stands inside of nothing, and none if it stands inside of a block that is no
loop. The plan of two forests, one behind the other, is that of the one and then that of the other.
A plan is its own plan, whatever the limit. -/
theorem plan_copies (forest : Forest) :
    (∀ b ∈ plan limit forest, b.kind.isLoop = false) ∧
    (origins limit forest).map (node? · forest) = (plan limit forest).map some ∧
    (∀ f : Place → String,
      (plan limit (label f forest)).map (·.id) = (origins limit forest).map f) ∧
    (∀ p c, node? p forest = some c → c.kind.isLoop = false →
      (origins limit forest).count p = times limit p forest) ∧
    (∀ more : Forest, plan limit (forest ++ more) = plan limit forest ++ plan limit more) ∧
    ∀ other, plan other (plan limit forest) = plan limit forest := by
  have hcommands := isLoop_of_mem_plan limit forest
  refine ⟨hcommands, node?_origins limit forest, fun f => id_plan_label limit f forest, ?_,
    plan_append limit forest, fun other => plan_of_commands other hcommands⟩
  intro p c hc hcommand
  exact count_origins limit hc (Bool.eq_false_iff.mp hcommand)

/-- Three rounds of a step that holds a turn, and of two turns in a loop of their own. -/
def nested : Forest :=
  [⟨"b1", .say, {}, []⟩, ⟨"b2", .loop, .ofPairs [("times", .number 3)],
    [⟨"b3", .move, {}, [⟨"b4", .turn, {}, []⟩]⟩,
      ⟨"b5", .loop, .ofPairs [("times", .number 2)], [⟨"b6", .turn, {}, []⟩]⟩]⟩]

/-- The plan has no copy of the turn inside the step, and six of the turn in the inner loop. -/
theorem plan_copies_nested :
    let held : Place := .behind (.inside (.inside .here))
    let looped : Place := .behind (.inside (.behind (.inside .here)))
    node? held nested = some ⟨"b4", .turn, {}, []⟩ ∧
      node? looped nested = some ⟨"b6", .turn, {}, []⟩ ∧
      (origins 50 nested).count held = 0 ∧ (origins 50 nested).count looped = 6 := by
  intro held looped
  obtain ⟨-, -, -, hcount, -⟩ := plan_copies 50 nested
  have hheld : times 50 held nested = 0 := by decide +kernel
  have hlooped : times 50 looped nested = 6 := by decide +kernel
  exact ⟨rfl, rfl, (hcount held _ rfl rfl).trans hheld, (hcount looped _ rfl rfl).trans hlooped⟩

end Forest

end SpriteScript
