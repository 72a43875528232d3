/-
  Plans: loops written out.

  * `loopCount` is how often a loop runs, `rounds` so many rounds of its body;
  * `Block.plan` and `Forest.plan` are the commands that a block, or a forest, stands for, with
    every loop written out;
  * `Block.planSize` and `Forest.planSize` count those commands without writing them out
    (`Forest.length_plan`);
  * `Forest.plan_append`: the plan of a sequence is the sequence of the plans.
-/
import SpriteScript.Block.Basic

namespace SpriteScript

/-- The greatest number of rounds of a loop, if nothing else is set. -/
def defaultMaxRepeat : Nat := 50

/-- How often a loop runs: the number `times` rounded up, at least 0 and at most `limit`; a
parameter that is no number counts as 0. -/
def loopCount (limit : Nat) (params : Params) : Nat :=
  match (params.number? "times").bind Binary.ofFloat? with
  | some times => if times.negative then 0 else min times.ceil limit
  | none => 0

theorem loopCount_le (limit : Nat) (params : Params) : loopCount limit params ≤ limit := by
  unfold loopCount
  split
  · split
    · exact Nat.zero_le _
    · exact Nat.min_le_right _ _
  · exact Nat.zero_le _

/-! ## Plans -/

/-- So many rounds of a body, one after the other. Rounds of nothing are nothing, and are not gone
through however many they are. -/
def rounds (times : Nat) (body : List Block) : List Block :=
  if body.isEmpty then [] else (List.replicate times body).flatten

theorem rounds_eq (times : Nat) (body : List Block) :
    rounds times body = (List.replicate times body).flatten := by
  unfold rounds
  split
  · next h => simp [List.isEmpty_iff.mp h]
  · rfl

mutual

/-- The commands that a block stands for. Blocks inside a block that is no loop stay where they
are. -/
def Block.plan (limit : Nat) : Block → List Block
  | ⟨id, kind, params, children⟩ =>
    if kind.isLoop then
      let times := loopCount limit params
      if times = 0 then [] else rounds times (Forest.plan limit children)
    else [⟨id, kind, params, children⟩]

/-- The commands that a sequence of blocks stands for. -/
def Forest.plan (limit : Nat) : Forest → List Block
  | [] => []
  | b :: bs => b.plan limit ++ Forest.plan limit bs

end

theorem Block.plan_of_isLoop (limit : Nat) (b : Block) (h : b.kind.isLoop) :
    b.plan limit =
      (List.replicate (loopCount limit b.params) (Forest.plan limit b.children)).flatten := by
  obtain ⟨id, kind, params, children⟩ := b
  simp only at h
  rw [Block.plan, if_pos h]
  dsimp only
  split
  · next e => simp [e]
  · exact rounds_eq _ _

theorem Block.plan_of_not_isLoop (limit : Nat) (b : Block) (h : ¬ b.kind.isLoop) :
    b.plan limit = [b] := by
  obtain ⟨id, kind, params, children⟩ := b
  rw [Block.plan, if_neg h]

@[simp] theorem Forest.plan_nil (limit : Nat) : Forest.plan limit [] = [] := by rw [Forest.plan]

@[simp] theorem Forest.plan_cons (limit : Nat) (b : Block) (bs : Forest) :
    Forest.plan limit (b :: bs) = b.plan limit ++ Forest.plan limit bs := by rw [Forest.plan]

/-- **The plan of a sequence is the sequence of the plans.** -/
theorem Forest.plan_append (limit : Nat) (bs cs : Forest) :
    Forest.plan limit (bs ++ cs) = Forest.plan limit bs ++ Forest.plan limit cs := by
  induction bs with
  | nil => simp
  | cons b bs ih => simp [ih]

/-! ## Sizes -/

mutual

/-- The number of commands in the plan of a block. -/
def Block.planSize (limit : Nat) : Block → Nat
  | ⟨_, kind, params, children⟩ =>
    if kind.isLoop then loopCount limit params * Forest.planSize limit children else 1

/-- The number of commands in the plan of a sequence. -/
def Forest.planSize (limit : Nat) : Forest → Nat
  | [] => 0
  | b :: bs => b.planSize limit + Forest.planSize limit bs

end

mutual

theorem Block.length_plan (limit : Nat) (b : Block) :
    (b.plan limit).length = b.planSize limit := by
  obtain ⟨id, kind, params, children⟩ := b
  by_cases h : kind.isLoop
  · rw [Block.plan_of_isLoop limit ⟨id, kind, params, children⟩ h, Block.planSize, if_pos h]
    simp [Forest.length_plan limit children]
  · rw [Block.plan_of_not_isLoop limit ⟨id, kind, params, children⟩ h, Block.planSize, if_neg h]
    rfl

/-- **A plan has as many commands as its size says.** -/
theorem Forest.length_plan (limit : Nat) (bs : Forest) :
    (Forest.plan limit bs).length = Forest.planSize limit bs := by
  match bs with
  | [] => rw [Forest.plan_nil, Forest.planSize]; rfl
  | b :: bs =>
    rw [Forest.plan_cons, Forest.planSize, List.length_append, Block.length_plan limit b,
      Forest.length_plan limit bs]

end

end SpriteScript
