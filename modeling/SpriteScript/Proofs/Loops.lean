/-
  Loops that are carried out, and loops that are written out.

  The runner of a queue gets the blocks of its sprite with all loops written out. The runner of a
  block enters the loops that it comes to, and keeps for each loop that it is inside of what is left
  of the round and how many rounds come after it.

  * `Open.plan` is what is left of a loop, written out, and `planLeft` what is left for the runner
    of a block; `planLeft_ofLoop`: entering a loop leaves the same;
  * `proceed_woke`: however deep in loops it is, **the runner of a block goes on with the first
    command that is left**;
  * `BlockRunner.worksOff` and `ScriptRunner.worksOff`: both runners work off the plan;
  * `runBlock?_runSprite?`: **a block plays as the script that consists of it**.
-/
import SpriteScript.Proofs.Performance

namespace SpriteScript

/-! ## Plans and steps -/

mutual

theorem Block.isLoop_of_mem_plan (limit : Nat) (b : Block) :
    ∀ c ∈ b.plan limit, c.kind.isLoop = false := by
  obtain ⟨id, kind, params, children⟩ := b
  by_cases h : kind.isLoop
  · rw [Block.plan_of_isLoop limit ⟨id, kind, params, children⟩ h]
    intro c hc
    obtain ⟨round, hround, hc⟩ := List.mem_flatten.mp hc
    rw [List.eq_of_mem_replicate hround] at hc
    exact Forest.isLoop_of_mem_plan limit children c hc
  · rw [Block.plan_of_not_isLoop limit ⟨id, kind, params, children⟩ h]
    exact List.forall_mem_singleton.mpr (Bool.eq_false_iff.mpr h)

/-- **Plans hold no loops.** -/
theorem Forest.isLoop_of_mem_plan (limit : Nat) (bs : Forest) :
    ∀ c ∈ Forest.plan limit bs, c.kind.isLoop = false := by
  match bs with
  | [] => simp
  | b :: bs =>
    rw [Forest.plan_cons]
    exact List.forall_mem_append.mpr
      ⟨Block.isLoop_of_mem_plan limit b, Forest.isLoop_of_mem_plan limit bs⟩

end

mutual

theorem Block.planSize_le_steps (limit : Nat) (b : Block) : b.planSize limit ≤ b.steps limit := by
  obtain ⟨id, kind, params, children⟩ := b
  by_cases h : kind.isLoop
  · have hbody := Forest.planSize_le_steps limit children
    rw [Block.planSize, Block.steps, if_pos h, if_pos h]
    exact (Nat.mul_le_mul_left _ (Nat.le_succ_of_le hbody)).trans (Nat.le_add_right _ _)
  · rw [Block.planSize, Block.steps, if_neg h, if_neg h]

/-- Each command of a plan takes a step. -/
theorem Forest.planSize_le_steps (limit : Nat) (bs : Forest) :
    Forest.planSize limit bs ≤ Forest.steps limit bs := by
  match bs with
  | [] => rw [Forest.planSize, Forest.steps]
  | b :: bs =>
    rw [Forest.planSize, Forest.steps]
    exact Nat.add_le_add (Block.planSize_le_steps limit b) (Forest.planSize_le_steps limit bs)

end

/-! ## What is left of loops -/

/-- What is left of something that is carried out, written out. -/
def Open.plan (limit : Nat) : Open → List Block
  | once b => b.plan limit
  | loop todo body rounds =>
    Forest.plan limit todo ++ (List.replicate rounds (Forest.plan limit body)).flatten

/-- What is left for the runner of a block, written out. -/
def BlockRunner.planLeft (limit : Nat) (todo : List Open) : List Block := todo.flatMap (·.plan limit)

namespace BlockRunner

variable (limit : Nat) (rest : List Open)

@[simp] theorem planLeft_nil : planLeft limit [] = [] := rfl

theorem planLeft_once (b : Block) :
    planLeft limit (.once b :: rest) = b.plan limit ++ planLeft limit rest := by
  simp [planLeft, Open.plan]

/-- A block is taken out of the round. -/
theorem planLeft_loop_cons (b : Block) (todo body : List Block) (rounds : Nat) :
    planLeft limit (.loop (b :: todo) body rounds :: rest) =
      b.plan limit ++ planLeft limit (.loop todo body rounds :: rest) := by
  simp [planLeft, Open.plan]

/-- A round begins. -/
theorem planLeft_loop_succ (body : List Block) (rounds : Nat) :
    planLeft limit (.loop [] body (rounds + 1) :: rest) =
      planLeft limit (.loop body body rounds :: rest) := by
  simp [planLeft, Open.plan, List.replicate_succ]

/-- The last round is over. -/
theorem planLeft_loop_zero (body : List Block) :
    planLeft limit (.loop [] body 0 :: rest) = planLeft limit rest := by
  simp [planLeft, Open.plan]

/-- **Entering a loop leaves the same.** A loop without rounds, or without a body, is nothing. -/
theorem planLeft_ofLoop {b : Block} (h : b.kind.isLoop = true) :
    planLeft limit (.ofLoop b.children (loopCount limit b.params) :: rest) =
      b.plan limit ++ planLeft limit rest := by
  have hplan : (Open.ofLoop b.children (loopCount limit b.params)).plan limit = b.plan limit := by
    rw [Block.plan_of_isLoop limit b h]
    unfold Open.ofLoop
    split
    · next hbody => simp [Open.plan, hbody]
    · next hcount _ => simp [Open.plan, hcount]
    · next hcount _ => simp [Open.plan, hcount, List.replicate_succ]
  rw [← hplan]
  rfl

end BlockRunner

/-! ## The runner of a block -/

namespace BlockRunner

variable {σ : Type} {o : Observer σ} {cfg : Settings} {begun s : Session σ} {x : Sprite}
  {timeline : Timeline} {queues : RunQueues} {bs : List Block}

/-- What is left for the runner of a block. -/
structure Left (cfg : Settings) (r : BlockRunner) (rest : List Block) : Prop where
  sprite : r.sprite = 0
  plan : rest = planLeft cfg.maxRepeat r.todo

section
variable (hbegun : begun.now ≤ lastInstant) (hnow : timeline.now = begun.overAt cfg bs)
  (h : Session.Solo o cfg begun x timeline queues bs s)
include hbegun hnow h

/-- To enter a loop carries out nothing. -/
theorem solo_enter {b : Block} (hloop : b.kind.isLoop = true) :
    Session.Solo o cfg begun x timeline queues bs (s.start o cfg 0 b) := by
  have hstart := h.start hbegun hnow b
  rwa [Block.command, if_pos hloop, List.append_nil] at hstart

/-- A command takes time, and what comes after it is left for the next wakeup. -/
theorem woke_start {b : Block} (hloop : ¬ b.kind.isLoop = true) (rest : List Open) :
    Runner.Woke o cfg begun x (fun r _ => Left cfg r) timeline bs
      (b.plan cfg.maxRepeat ++ planLeft cfg.maxRepeat rest)
      (s.start o cfg 0 b, some (b.delay cfg, ⟨0, some b, rest⟩)) := by
  have hstart := h.start hbegun hnow b
  rw [Block.command, if_neg hloop] at hstart
  rw [Block.plan_of_not_isLoop _ b hloop]
  exact .goes rfl hstart ⟨rfl, rfl⟩

/-- **The runner goes on with the first command that is left**, through all loops that it has to
enter, to begin anew or to leave on the way. -/
theorem proceed_woke (todo : List Open) :
    Runner.Woke o cfg begun x (fun r _ => Left cfg r) timeline bs (planLeft cfg.maxRepeat todo)
      (proceed o cfg 0 todo s) := by
  -- along the recursion of the runner: a loop that starts, begins anew or ends leaves the same plan,
  -- so only a command, a stop and the end of everything tell
  fun_induction proceed o cfg 0 todo s with
  | case1 todo s hstop => exact .done h fun hgoing => absurd (hstop.symm.trans hgoing) (by simp)
  | case2 s hgoing => exact .done h fun _ => rfl
  | case3 s hgoing b rest t hloop ih =>
    rw [planLeft_once, ← planLeft_ofLoop _ _ hloop]
    exact ih (solo_enter hbegun hnow h hloop)
  | case4 s hgoing b rest t hloop =>
    rw [planLeft_once]
    exact woke_start hbegun hnow h hloop rest
  | case5 s hgoing b todo body rounds rest t rest' hloop ih =>
    rw [planLeft_loop_cons, ← planLeft_ofLoop _ _ hloop]
    exact ih (solo_enter hbegun hnow h hloop)
  | case6 s hgoing b todo body rounds rest t rest' hloop =>
    rw [planLeft_loop_cons]
    exact woke_start hbegun hnow h hloop rest'
  | case7 s hgoing body n rest ih =>
    rw [planLeft_loop_succ]
    exact ih h
  | case8 s hgoing body rest ih =>
    -- the pass after the loop finds no one to meet
    rw [planLeft_loop_zero]
    rw [h.collide] at ih ⊢
    exact ih h

end

/-- **The runner of a block works off its plan.** -/
theorem worksOff : Runner.WorksOff o cfg x fun r _ => Left cfg r := by
  intro begun s timeline queues bs rest r hleft hsolo hbegun hnow
  obtain ⟨sprite, busy, todo⟩ := r
  obtain ⟨rfl, rfl⟩ : sprite = 0 ∧ rest = planLeft cfg.maxRepeat todo := ⟨hleft.sprite, hleft.plan⟩
  cases busy with
  | none => exact proceed_woke hbegun hnow hsolo todo
  | some b => exact proceed_woke hbegun hnow (hsolo.complete b) todo

end BlockRunner

/-! ## The runner of a queue -/

namespace ScriptRunner

variable {σ : Type} {o : Observer σ} {cfg : Settings} {x : Sprite}

/-- What is left for the runner of a queue: the plan of its sprite until that is in the queue, then
what is in the queue. -/
structure Left (cfg : Settings) (x : Sprite) (r : ScriptRunner) (queues : RunQueues)
    (rest : List Block) : Prop where
  sprite : r.sprite = 0
  queued : match r.busy with
    | none => rest = x.plan cfg.maxRepeat
    | some _ => queues.get? x.id = some rest
  commands : ∀ b ∈ rest, b.kind.isLoop = false

/-- Once the runner has settled what was before, the queue holds what is left. -/
theorem Left.settle {begun s : Session σ} {timeline : Timeline} {queues : RunQueues}
    {bs rest : List Block} {r : ScriptRunner} (h : Left cfg x r queues rest)
    (hsolo : Session.Solo o cfg begun x timeline queues bs s) : ∃ queues',
      Session.Solo o cfg begun x timeline queues' bs (r.settleBusy o cfg s) ∧
        queues'.get? x.id = some rest := by
  obtain ⟨sprite, busy⟩ := r
  obtain rfl : sprite = 0 := h.sprite
  have hrest := h.queued
  cases busy with
  | none =>
    obtain rfl : rest = x.plan cfg.maxRepeat := hrest
    exact ⟨_, hsolo.seed, by rw [RunQueues.get?_set, if_pos rfl]⟩
  | some b => exact ⟨queues, hsolo.complete b, hrest⟩

/-- **The runner of a queue works off the plan of its sprite.** -/
theorem worksOff : Runner.WorksOff o cfg x (Left cfg x) := by
  intro begun s timeline queues bs rest r hleft hsolo hbegun hnow
  obtain ⟨queues', hsettled, hqueue⟩ := hleft.settle hsolo
  show Runner.Woke o cfg begun x (Left cfg x) timeline bs rest
    (r.proceed o cfg (r.settleBusy o cfg s))
  generalize r.settleBusy o cfg s = t at *
  unfold proceed
  rw [hleft.sprite]
  have hpop := hsettled.pop?
  rw [RunQueues.pop?, hqueue] at hpop
  split
  · next hstop =>
    refine .done hsettled.finish ?_
    intro hgoing
    have hstill := (t.advance_finish o 0).stopping hstop
    exact absurd (hstill.symm.trans hgoing) (by simp)
  · cases rest with
    | nil =>
      rw [hpop]
      exact .done hsettled.finish fun _ => rfl
    | cons b rest =>
      have hpopped : Session.Solo o cfg begun x timeline (queues'.set x.id rest) bs
          { t with stage.queues := queues'.set x.id rest } :=
        ⟨hsettled.sprite, hsettled.plays, hsettled.unasked, hsettled.timeline, rfl, hsettled.armed⟩
      have hstart := hpopped.start hbegun hnow b
      rw [Block.command, if_neg (by simp [hleft.commands b List.mem_cons_self])] at hstart
      rw [hpop]
      refine .goes rfl hstart ⟨rfl, ?_, ?_⟩
      · show (queues'.set x.id rest).get? x.id = some rest
        rw [RunQueues.get?_set, if_pos rfl]
      · intro c hc
        exact hleft.commands c (List.mem_cons_of_mem b hc)

end ScriptRunner

/-! ## Blocks and scripts -/

namespace Session

theorem Idle.indexOf? {σ : Type} {x : Sprite} {s : Session σ} (h : s.Idle x) :
    s.indexOf? x.id = some 0 := by
  rw [Session.indexOf?, h.sprites]
  simp

theorem Idle.runBlock? {σ : Type} {x : Sprite} {s : Session σ} (h : s.Idle x) (o : Observer σ)
    (cfg : Settings) (b : Block) :
    let t := s.drive o cfg [BlockRunner.ofBlock 0 b]
    s.runBlock? o cfg x.id b = some (t.report, t) := by
  unfold Session.runBlock?
  rw [h.indexOf?]
  rfl

theorem Idle.runSprite? {σ : Type} {x : Sprite} {s : Session σ} (h : s.Idle x) (o : Observer σ)
    (cfg : Settings) :
    let t := s.drive o cfg [({ sprite := 0 } : ScriptRunner)]
    s.runSprite? o cfg x.id = some (t.report, t) := by
  unfold Session.runSprite?
  rw [h.indexOf?]
  rfl

/-- **A block plays as the script that consists of it.** Carried out by itself in a session with one
sprite, a block starts the commands of its plan in order, loops aside, or the first of them if a stop
is asked for. As long as no stop is asked for, the sprite whose only script is that block starts the
same commands, each at the same instant and leading to the same pose, and is over at the same time.
-/
theorem runBlock_plays {σ τ : Type} (o : Observer σ) (o' : Observer τ) (cfg : Settings)
    (x : Sprite) (name : String) (b : Block) {s : Session σ} {s' : Session τ} (hs : s.Idle x)
    (hs' : s'.Idle { x with scripts := [⟨name, [b]⟩] }) (hnow : s.now = s'.now) :
    ∃ r t r' t', s.runBlock? o cfg x.id b = some (r, t) ∧
      s'.runSprite? o' cfg x.id = some (r', t') ∧
      (∃ es, Journal.Plays es s.journal t.journal ∧
        es.map Played.block <+: Forest.plan cfg.maxRepeat [b]) ∧
      (r.stopped = false → r'.stopped = false → r.elapsed = r'.elapsed ∧
        t.sprites.map Sprite.pose = t'.sprites.map Sprite.pose ∧
        ∃ es, Journal.Plays es s.journal t.journal ∧ Journal.Plays es s'.journal t'.journal ∧
          es.map Played.block = Forest.plan cfg.maxRepeat [b]) ∧
      (o.NeverAsks → s.stopping = false → r.stopped = false) ∧
      (o'.NeverAsks → s'.stopping = false → r'.stopped = false) := by
  -- one block, and one script
  have hleft : BlockRunner.Left cfg (.ofBlock 0 b) (Forest.plan cfg.maxRepeat [b]) :=
    ⟨rfl, by simp [BlockRunner.ofBlock, BlockRunner.planLeft_once]⟩
  have hleft' : ScriptRunner.Left cfg { x with scripts := [⟨name, [b]⟩] } { sprite := 0 }
      s'.stage.queues (Forest.plan cfg.maxRepeat [b]) :=
    ⟨rfl, by simp [Sprite.plan], Forest.isLoop_of_mem_plan cfg.maxRepeat [b]⟩
  have hsize : (Forest.plan cfg.maxRepeat [b]).length ≤
      Runner.size cfg s.sprites (BlockRunner.ofBlock 0 b) := by
    rw [Forest.length_plan]
    exact Forest.planSize_le_steps cfg.maxRepeat [b]
  have hsize' : (Forest.plan cfg.maxRepeat [b]).length ≤
      Runner.size cfg s'.sprites ({ sprite := 0 } : ScriptRunner) := by
    rw [Forest.length_plan, hs'.sprites]
    exact Nat.le_refl _
  obtain ⟨bs, hprefix, hbs, hall⟩ := hs.drive (o := o) BlockRunner.worksOff hleft hsize
  obtain ⟨bs', -, hbs', hall'⟩ := hs'.drive (o := o') ScriptRunner.worksOff hleft' hsize'
  have hrun := hs.runBlock? o cfg b
  have hrun' := hs'.runSprite? o' cfg
  generalize s.drive o cfg [BlockRunner.ofBlock 0 b] = t at *
  generalize s'.drive o' cfg [({ sprite := 0 } : ScriptRunner)] = t' at *
  refine ⟨t.report, t, t'.report, t', hrun, hrun', ⟨_, hbs.plays, ?_⟩, ?_, hbs.unasked,
    hbs'.unasked⟩
  · rw [block_performance]
    exact hprefix
  · intro hgoing hgoing'
    obtain rfl := hall hgoing
    obtain rfl := hall' hgoing'
    obtain ⟨y, hy, -, hpose⟩ := hbs.idle
    obtain ⟨y', hy', -, hpose'⟩ := hbs'.idle
    have hplays := hbs'.plays
    rw [← hnow] at hplays
    refine ⟨?_, ?_, _, hbs.plays, hplays, block_performance ..⟩
    · show t.now = t'.now
      rw [hbs.now, hbs'.now, overAt, overAt, hnow]
    · rw [hy.sprites, hy'.sprites, List.map_singleton, List.map_singleton, hpose, hpose']

/-- Three rounds of a step, of a loop without a body, and of two turns; what is inside of the step
never runs. -/
def spin : Block :=
  ⟨"b1", .loop, .ofPairs [("times", .number 3)],
    [⟨"b2", .move, {}, [⟨"b3", .turn, {}, []⟩]⟩, ⟨"b4", .loop, .ofPairs [("times", .number 9)], []⟩,
      ⟨"b5", .loop, .ofPairs [("times", .number 2)], [⟨"b6", .turn, {}, []⟩]⟩]⟩

theorem runBlock_plays_spin :
    let cat := Sprite.blank "cat" "Cat" "#FF6680" 0 0 "Script 1"
    let s := Session.begin [cat] () false
    let s' := Session.begin [{ cat with scripts := [⟨"Script 1", [spin]⟩] }] () false
    s.Idle cat ∧ s'.Idle { cat with scripts := [⟨"Script 1", [spin]⟩] } ∧ s.now = s'.now ∧
      ∃ r t r' t', s.runBlock? .silent {} "cat" spin = some (r, t) ∧
        s'.runSprite? .silent {} "cat" = some (r', t') ∧ r.stopped = false ∧ r'.stopped = false ∧
        r.elapsed = r'.elapsed ∧ ∃ es, Journal.Plays es [] t.journal ∧
          Journal.Plays es [] t'.journal ∧ es.map Played.block = Forest.plan 50 [spin] := by
  intro cat s s'
  have hs : s.Idle cat := idle_begin cat () false
  have hs' : s'.Idle { cat with scripts := [⟨"Script 1", [spin]⟩] } := idle_begin _ () false
  have hnever : Observer.silent.NeverAsks := fun _ _ => rfl
  obtain ⟨r, t, r', t', hrun, hrun', -, hplays, hstopped, hstopped'⟩ :=
    runBlock_plays .silent .silent {} cat "Script 1" spin hs hs' rfl
  have hgoing := hstopped hnever rfl
  have hgoing' := hstopped' hnever rfl
  obtain ⟨helapsed, -, hes⟩ := hplays hgoing hgoing'
  exact ⟨hs, hs', rfl, r, t, r', t', hrun, hrun', hgoing, hgoing', helapsed, hes⟩

end Session

end SpriteScript
