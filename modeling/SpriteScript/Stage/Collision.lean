/-
  Collisions.

  A stage holds the sprites, their run queues and the pairs that have met. A collision pass looks
  at every two sprites, in the order of their places; two that overlap and have not met yet
  exchange the motion in their queues and, unless one of them speaks, their animations.

  * `Stage.meet?` is the effect of one pair of places, `Stage.collide` that of a whole pass;
  * `Encounter` is what a pass reports of two sprites that met;
  * `Hooks` are told of encounters, and `Stage.detect` is a pass with hooks;
  * `length_visit`: a pass neither adds nor removes sprites.
-/
import SpriteScript.Sprite.Box
import SpriteScript.Stage.Pairs
import SpriteScript.Stage.Queues

namespace SpriteScript

/-- The sprites, their run queues, and the pairs that have met. -/
structure Stage where
  sprites : List Sprite
  queues : RunQueues := {}
  met : MetPairs := {}
  deriving Inhabited

/-- Two sprites that met: their places, and themselves right after the exchange. -/
structure Encounter where
  i : Nat
  j : Nat
  a : Sprite
  b : Sprite
  deriving Inhabited

/-- All pairs of places below `n`, the smaller place first, in lexicographic order. -/
def placePairs (n : Nat) : List (Nat × Nat) :=
  (List.range n).flatMap fun i => (List.range' (i + 1) (n - (i + 1))).map fun j => (i, j)

/-- Two sprites that meet: both flash, and they exchange their animations unless one of them is
shown to speak. -/
def exchange (a b : Sprite) : Sprite × Sprite :=
  let (a, b) :=
    if a.isSpeaking || b.isSpeaking then (a, b)
    else (a.animate b.transient.animation, b.animate a.transient.animation)
  (a.withFlash true, b.withFlash true)

namespace Stage

/-! ## A pass -/

/-- The effect of the sprites at two places on the stage, if they meet. -/
def meet? (stage : Stage) (i j : Nat) : Option (Stage × Encounter) :=
  match stage.sprites[i]?, stage.sprites[j]? with
  | some a, some b =>
    let pair := Pair.of a.id b.id
    if stage.met.contains pair then none
    else if (Box.ofSprite a).overlaps (Box.ofSprite b) then
      let (a', b') := exchange a b
      some ({ sprites := (stage.sprites.set i a').set j b'
              queues := stage.queues.swapMotion a.id b.id
              met := stage.met.insert pair }, ⟨i, j, a', b'⟩)
    else none
  | _, _ => none

/-- The effect of the given pairs of places, one after the other. -/
def visit : List (Nat × Nat) → Stage → Stage × List Encounter
  | [], stage => (stage, [])
  | (i, j) :: rest, stage =>
    match stage.meet? i j with
    | none => visit rest stage
    | some (stage, e) =>
      let (stage, es) := visit rest stage
      (stage, e :: es)

/-- A collision pass over the whole stage. -/
def collide (stage : Stage) : Stage × List Encounter :=
  visit (placePairs stage.sprites.length) stage

end Stage

/-! ## Hooks -/

/-- What is told of each encounter, with what is told first; either may be missing. -/
structure Hooks (τ : Type) where
  onSwap : Option (Sprite → Sprite → τ → τ) := none
  onCollision : Option (Sprite → Sprite → τ → τ) := none

/-- Calls a hook, if it is there. -/
def callHook {τ : Type} (hook : Option (Sprite → Sprite → τ → τ)) (e : Encounter) (t : τ) : τ :=
  match hook with
  | some f => f e.a e.b t
  | none => t

/-- Tells the hooks of one encounter. -/
def Hooks.tell {τ : Type} (hooks : Hooks τ) (t : τ) (e : Encounter) : τ :=
  callHook hooks.onCollision e (callHook hooks.onSwap e t)

/-- A collision pass that tells hooks of every encounter; gives the places that met. -/
def Stage.detect {τ : Type} (stage : Stage) (hooks : Hooks τ) (t : τ) :
    Stage × List (Nat × Nat) × τ :=
  let (stage, es) := stage.collide
  (stage, es.map fun e => (e.i, e.j), es.foldl hooks.tell t)

/-! ## Laws -/

namespace Stage

theorem length_meet? (stage stage' : Stage) (i j : Nat) (e : Encounter)
    (h : stage.meet? i j = some (stage', e)) : stage'.sprites.length = stage.sprites.length := by
  unfold meet? at h
  split at h
  · dsimp only at h
    split at h
    · simp at h
    · split at h
      · simp only [Option.some.injEq, Prod.mk.injEq] at h
        rw [← h.1]
        simp
      · simp at h
  · simp at h

/-- **A pass neither adds nor removes sprites.** -/
theorem length_visit (ps : List (Nat × Nat)) (stage : Stage) :
    (visit ps stage).1.sprites.length = stage.sprites.length := by
  fun_induction visit ps stage with
  | case1 => rfl
  | case2 stage i j rest _ ih => exact ih
  | case3 stage i j rest stage' e h stage'' es hv ih =>
    rw [hv] at ih
    exact ih.trans (length_meet? _ _ _ _ _ h)

end Stage

end SpriteScript
