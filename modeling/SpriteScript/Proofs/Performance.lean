/-
  Performances: what a sprite does that is alone, block by block.

  * `Journal.played` reads off a journal which blocks were started, loops aside, when, and to which
    pose each of them led, and `Journal.Plays` says so of what one journal adds to another;
  * `performance` is what carrying out some blocks one after the other comes to;
  * `Session.Solo`: what has become of a session with one sprite when some blocks have been carried
    out, and `Solo.start`: **a block that starts is carried out in its turn**;
  * `Runner.WorksOff`: a runner starts the blocks that are left, one a wakeup, until none is left or
    a stop is asked for;
  * `Performing.after`: **a drive of such a runner starts all that is left**, or what comes before
    the stop, and `Idle.drive` is that for a whole drive, which ends in a session as quiet as the one
    in which it began.
-/
import SpriteScript.Proofs.Stopping

namespace SpriteScript

/-! ## Blocks and poses -/

/-- A block that was started: when, and the pose to which it led. -/
structure Played where
  time : Nat
  block : Block
  pose : Pose

/-- The block that an entry shows to have been started, unless it is a loop: the observer is shown
the sprite right after the start. -/
def Entry.played? (e : Entry) (earlier : Journal) : Option Played :=
  match e.happening, earlier with
  | .told (.update x), ⟨t, .reached (.blockStarted _ _ b)⟩ :: _ =>
    if b.kind.isLoop then none else some ⟨t, b, x.pose⟩
  | _, _ => none

/-- All blocks that a journal shows to have been started, loops aside, the earliest first. -/
def Journal.played : Journal → List Played
  | [] => []
  | e :: earlier => played earlier ++ (e.played? earlier).toList

/-- The blocks that the first sprite has started, loops aside, each with its instant. -/
def Journal.commands (j : Journal) : List (Nat × Block) :=
  (startsOf 0 j.beats).filter fun e => !e.2.kind.isLoop

/-- What of a block is carried out at once: the block itself, unless it is a loop. -/
def Block.command (b : Block) : List Block := if b.kind.isLoop then [] else [b]

/-- The blocks that were started between two journals, loops aside: none is missing, and each led to
the pose that the observer was shown. -/
structure Journal.Plays (es : List Played) (j j' : Journal) : Prop where
  played : j'.played = j.played ++ es
  commands : j'.commands = j.commands ++ es.map fun e => (e.time, e.block)

theorem Journal.Plays.refl (j : Journal) : Plays [] j j :=
  ⟨(List.append_nil _).symm, (List.append_nil _).symm⟩

/-- Only the start of a block, and what is told right after it, count. -/
theorem Journal.Plays.cons {es : List Played} {j j' : Journal} (h : Plays es j j') {e : Entry}
    (hstart : ∀ i name b, e.happening ≠ .reached (.blockStarted i name b))
    (hplayed : e.played? j' = none) : Plays es j (e :: j') where
  played := by
    rw [Journal.played, hplayed]
    exact (List.append_nil _).trans h.played
  commands := (congrArg (List.filter _) ((starts_cons e j' hstart).1 0)).trans h.commands

/-- A sprite starts a block, and the observer is shown where the block led. -/
theorem Journal.Plays.start {es : List Played} {j j' : Journal} (h : Plays es j j') (t t' : Nat)
    (name : String) (b : Block) (x : Sprite) :
    Plays (es ++ b.command.map (⟨t, ·, x.pose⟩)) j
      (⟨t', .told (.update x)⟩ :: ⟨t, .reached (.blockStarted 0 name b)⟩ :: j') := by
  have hbeats : beats (⟨t', .told (.update x)⟩ :: ⟨t, .reached (.blockStarted 0 name b)⟩ :: j') =
      beats j' ++ [⟨t, 0, some b⟩] := by
    rw [beats_cons, beats_cons]
    exact List.append_nil _
  constructor
  case played =>
    simp only [Journal.played, Entry.played?, Option.toList_none, List.append_nil, h.played,
      Block.command]
    split <;> simp
  case commands =>
    have hcommands := h.commands
    unfold Journal.commands at hcommands ⊢
    rw [hbeats, startsOf_start, if_pos rfl, List.filter_append, hcommands, Block.command]
    split
    · next hloop => simp [hloop]
    · next hloop => simp [hloop]

/-- What it comes to when some blocks are carried out one after the other. -/
def performance (cfg : Settings) : Nat → Pose → List Block → List Played
  | _, _, [] => []
  | t, p, b :: bs => ⟨t, b, (b.action cfg).apply p⟩ ::
      performance cfg (after t (b.delay cfg)) ((b.action cfg).apply p) bs

/-- The next block starts when the ones before it are over, where they led to. -/
theorem performance_append (cfg : Settings) {t : Nat} (ht : t ≤ lastInstant) (p : Pose)
    (bs : List Block) (b : Block) :
    performance cfg t p (bs ++ [b]) = performance cfg t p bs ++
      [⟨after t (totalDelay cfg bs), b, p.moved cfg (bs ++ [b])⟩] := by
  induction bs generalizing t p with
  | nil =>
    have hzero : after t (totalDelay cfg []) = t := by simp [totalDelay, after, ht]
    rw [hzero]
    rfl
  | cons c bs ih =>
    have hsum : after (after t (c.delay cfg)) (totalDelay cfg bs) =
        after t (totalDelay cfg (c :: bs)) := by
      rw [after_after]
      simp [totalDelay]
    rw [List.cons_append, performance, ih (after_le_last _ _), hsum]
    rfl

theorem block_performance (cfg : Settings) (t : Nat) (p : Pose) (bs : List Block) :
    (performance cfg t p bs).map Played.block = bs := by
  induction bs generalizing t p with
  | nil => rfl
  | cons b bs ih => rw [performance, List.map_cons, ih]

/-- Loops move nothing themselves. -/
theorem Pose.moved_command (cfg : Settings) (p : Pose) (bs : List Block) (b : Block) :
    p.moved cfg (bs ++ b.command) = (b.action cfg).apply (p.moved cfg bs) := by
  unfold Block.command
  split
  · next hloop =>
    obtain ⟨id, kind, params, children⟩ := b
    obtain rfl : kind = .loop := eq_of_beq hloop
    rw [List.append_nil]
    rfl
  · exact p.moved_append cfg bs b

/-! ## Sessions with one sprite -/

/-- An observer who asks for a stop at no notice. -/
def Observer.NeverAsks {σ : Type} (o : Observer σ) : Prop := ∀ watcher n, (o.hear watcher n).2 = false

section
variable {σ : Type} (cfg : Settings) (s : Session σ)

/-- When some blocks are over that are carried out one after the other from now on. -/
def Session.overAt (bs : List Block) : Nat := after s.now (totalDelay cfg bs)

theorem Session.overAt_nil (h : s.now ≤ lastInstant) : s.overAt cfg [] = s.now := by
  simp [overAt, totalDelay, after, h]

theorem Session.overAt_append (bs : List Block) (b : Block) :
    s.overAt cfg (bs ++ [b]) = after (s.overAt cfg bs) (b.delay cfg) := by
  rw [overAt, overAt, after_after]
  simp [totalDelay]

end

theorem Session.cancelAlarms_of_armed {σ : Type} {s : Session σ} (h : s.alarms.armed = []) :
    s.cancelAlarms = s := by
  rw [cancelAlarms, if_pos (by simp [Alarms.pending, h])]

/-- A session whose only sprite is `x`, and in which some blocks have been carried out since it was
as `begun`; it has no alarm set, and its timeline and its queues are the given ones. -/
structure Session.Solo {σ : Type} (o : Observer σ) (cfg : Settings) (begun : Session σ) (x : Sprite)
    (timeline : Timeline) (queues : RunQueues) (bs : List Block) (s : Session σ) : Prop where
  sprite : ∃ y : Sprite, s.sprites = [y] ∧ y.role = x.role ∧ y.pose = x.pose.moved cfg bs
  plays : Journal.Plays (performance cfg begun.now x.pose bs) begun.journal s.journal
  unasked : o.NeverAsks → begun.stopping = false → s.stopping = false
  timeline : s.timeline = timeline
  queues : s.stage.queues = queues
  armed : s.alarms.armed = []

/-- A session with one sprite in which nothing is going on. -/
structure Session.Idle {σ : Type} (x : Sprite) (s : Session σ) : Prop where
  sprites : s.sprites = [x]
  queue : s.timeline.queue = []
  armed : s.alarms.armed = []
  now : s.now ≤ lastInstant

theorem Session.idle_begin {σ : Type} (x : Sprite) (watcher : σ) (stopping : Bool) :
    (Session.begin [x] watcher stopping).Idle x :=
  ⟨rfl, rfl, rfl, Nat.zero_le _⟩

/-- A session that was idle as `begun`, and is idle again when some blocks have been carried out. -/
structure Session.Performed {σ : Type} (o : Observer σ) (cfg : Settings) (begun : Session σ)
    (x : Sprite) (bs : List Block) (s : Session σ) : Prop where
  idle : ∃ y : Sprite, s.Idle y ∧ y.role = x.role ∧ y.pose = x.pose.moved cfg bs
  plays : Journal.Plays (performance cfg begun.now x.pose bs) begun.journal s.journal
  unasked : o.NeverAsks → begun.stopping = false → s.stopping = false
  now : s.now = begun.overAt cfg bs

namespace Session.Solo

variable {σ : Type} {o : Observer σ} {cfg : Settings} {begun s : Session σ} {x y : Sprite}
  {timeline : Timeline} {queues : RunQueues} {bs : List Block}

/-- Time passes, or wakeups come and go. -/
theorem retime (h : Solo o cfg begun x timeline queues bs s) (timeline' : Timeline) :
    Solo o cfg begun x timeline' queues bs { s with timeline := timeline' } :=
  ⟨h.sprite, h.plays, h.unasked, rfl, h.queues, h.armed⟩

theorem reach (h : Solo o cfg begun x timeline queues bs s) {m : Milestone}
    (hm : ∀ i name b, m ≠ .blockStarted i name b) :
    Solo o cfg begun x timeline queues bs (s.reach m) where
  sprite := h.sprite
  plays := h.plays.cons (by simpa using hm) rfl
  unasked := h.unasked
  timeline := h.timeline
  queues := h.queues
  armed := h.armed

theorem tell (h : Solo o cfg begun x timeline queues bs s) {n : Notice}
    (hn : Entry.played? ⟨s.now, .told n⟩ s.journal = none) :
    Solo o cfg begun x timeline queues bs (s.tell o n) where
  sprite := h.sprite
  plays := h.plays.cons (by simp) hn
  unasked hnever hgoing := by simp [Session.tell, h.unasked hnever hgoing, hnever s.watcher n]
  timeline := h.timeline
  queues := h.queues
  armed := h.armed

/-- The only sprite, as it is now. -/
theorem getElem? (h : Solo o cfg begun x timeline queues bs s) :
    ∃ y : Sprite, s.sprites[0]? = some y ∧ y.id = x.id := by
  obtain ⟨y, hy, hrole, -⟩ := h.sprite
  exact ⟨y, by rw [hy]; rfl, Sprite.id_of_role hrole⟩

theorem of_getElem? (h : Solo o cfg begun x timeline queues bs s) (hy : s.sprites[0]? = some y) :
    s.sprites = [y] ∧ y.role = x.role ∧ y.pose = x.pose.moved cfg bs := by
  obtain ⟨z, hz, hrole, hpose⟩ := h.sprite
  rw [hz] at hy
  obtain rfl : z = y := Option.some.inj hy
  exact ⟨hz, hrole, hpose⟩

/-- The sprite changes what is transient. -/
theorem put (h : Solo o cfg begun x timeline queues bs s) (hy : s.sprites[0]? = some y) {y' : Sprite}
    (hcalm : y'.calm = y.calm) : Solo o cfg begun x timeline queues bs (s.put 0 y') where
  sprite := by
    obtain ⟨hone, hrole, hpose⟩ := h.of_getElem? hy
    refine ⟨y', congrArg (List.set · 0 y') hone, ?_, ?_⟩
    · exact (congrArg Sprite.role hcalm : y'.calm.role = y.calm.role).trans hrole
    · exact (congrArg Sprite.pose hcalm : y'.calm.pose = y.calm.pose).trans hpose
  plays := h.plays
  unasked := h.unasked
  timeline := h.timeline
  queues := h.queues
  armed := h.armed

/-! ## Blocks -/

/-- A block starts when all before it are over, and moves the sprite. -/
theorem begin (h : Solo o cfg begun x timeline queues bs s) (hbegun : begun.now ≤ lastInstant)
    (hnow : timeline.now = begun.overAt cfg bs) (hy : s.sprites[0]? = some y) (b : Block) :
    Solo o cfg begun x timeline queues (bs ++ b.command)
      (((s.put 0 (y.starting cfg b)).reach (.blockStarted 0 y.name b)).tell o
        (.update (y.starting cfg b))) where
  sprite := by
    obtain ⟨hone, hrole, hpose⟩ := h.of_getElem? hy
    refine ⟨y.starting cfg b, congrArg (List.set · 0 _) hone, hrole, ?_⟩
    rw [Pose.moved_command, ← hpose]
    rfl
  plays := by
    obtain ⟨-, -, hpose⟩ := h.of_getElem? hy
    have htime : s.now = begun.overAt cfg bs := by rw [Session.now, h.timeline, hnow]
    have hperformance : performance cfg begun.now x.pose (bs ++ b.command) =
        performance cfg begun.now x.pose bs ++
          b.command.map (⟨s.now, ·, (y.starting cfg b).pose⟩) := by
      unfold Block.command
      split
      · simp
      · rw [performance_append cfg hbegun, htime, Pose.moved_append, ← hpose]
        rfl
    rw [hperformance]
    exact h.plays.start s.now s.now y.name b (y.starting cfg b)
  unasked hnever hgoing := by
    have hstill : (s.stopping || (o.hear s.watcher (.update (y.starting cfg b))).2) = false := by
      simp [h.unasked hnever hgoing, hnever s.watcher]
    exact hstill
  timeline := h.timeline
  queues := h.queues
  armed := h.armed

/-- **A block that starts is carried out in its turn**, when all before it are over. -/
theorem start (h : Solo o cfg begun x timeline queues bs s) (hbegun : begun.now ≤ lastInstant)
    (hnow : timeline.now = begun.overAt cfg bs) (b : Block) :
    Solo o cfg begun x timeline queues (bs ++ b.command) (s.start o cfg 0 b) := by
  obtain ⟨y, hy, -⟩ := h.getElem?
  have hcount : Solo o cfg begun x timeline queues bs { s with started := s.started + 1 } :=
    ⟨h.sprite, h.plays, h.unasked, h.timeline, h.queues, h.armed⟩
  have hbegin := hcount.begin (o := o) hbegun hnow hy b
  unfold Session.start
  dsimp only
  rw [moves_eq o cfg (s := { s with started := s.started + 1 }) hy]
  cases b.action cfg with
  | speak kind text ms =>
    have hmoved : (((({ s with started := s.started + 1 } : Session σ).put 0
        (y.starting cfg b)).reach (.blockStarted 0 y.name b)).tell o
          (.update (y.starting cfg b))).sprites[0]? = some (y.starting cfg b) :=
      getElem?_put (s := { s with started := s.started + 1 }) hy _
    dsimp only
    rw [speak, modifySprite_eq hmoved, tellOf_eq o (getElem?_put hmoved _)]
    exact (hbegin.put hmoved (Sprite.calm_withBubble _ _)).tell rfl
  | move | turn | goto | loop => exact hbegin

/-- A lone sprite meets no one. -/
theorem collide (h : Solo o cfg begun x timeline queues bs s) : s.collide o cfg = s := by
  obtain ⟨y, hy, -, -⟩ := h.sprite
  have hstage : s.stage.collide = (s.stage, []) := by
    have hlength : s.stage.sprites.length = 1 := congrArg List.length hy
    unfold Stage.collide
    rw [hlength]
    rfl
  rw [Session.collide, hstage]
  rfl

theorem complete (h : Solo o cfg begun x timeline queues bs s) (b : Block) :
    Solo o cfg begun x timeline queues bs (s.complete o cfg 0 b) := by
  obtain ⟨y, hy, -⟩ := h.getElem?
  unfold Session.complete
  cases b.kind.speech? with
  | none =>
    dsimp only
    rw [h.collide]
    exact h
  | some kind =>
    dsimp only
    rw [modifySprite_eq hy, tellOf_eq o (getElem?_put hy _)]
    have hquiet : Solo o cfg begun x timeline queues bs
        ((s.put 0 (y.withBubble none)).tell o (.speech kind (y.withBubble none) "" 0)) :=
      (h.put hy (Sprite.calm_withBubble y none)).tell rfl
    rw [hquiet.collide]
    exact hquiet

/-- The queue of the sprite is filled with its plan. -/
theorem seed (h : Solo o cfg begun x timeline queues bs s) :
    Solo o cfg begun x timeline (queues.set x.id (x.plan cfg.maxRepeat)) bs (s.seed cfg 0) := by
  obtain ⟨y, hy, hrole, -⟩ := h.sprite
  have hfill : Solo o cfg begun x timeline (queues.set x.id (x.plan cfg.maxRepeat)) bs
      { s with stage.queues := s.stage.queues.seed cfg.maxRepeat y } :=
    ⟨h.sprite, h.plays, h.unasked, h.timeline, by
      simp only [RunQueues.seed, h.queues, Sprite.id_of_role hrole, Sprite.plan_of_role _ hrole],
      h.armed⟩
  unfold Session.seed
  rw [hy]
  exact hfill.reach (by simp)

/-- The sprite takes its blocks from the queue with its id. -/
theorem pop? (h : Solo o cfg begun x timeline queues bs s) : s.pop? 0 =
    (queues.pop? x.id).map fun next => (next.1, { s with stage.queues := next.2 }) := by
  obtain ⟨y, hy, hid⟩ := h.getElem?
  unfold Session.pop?
  rw [hy, ← h.queues, ← hid]
  show (s.stage.queues.pop? y.id).bind _ = _
  cases s.stage.queues.pop? y.id <;> rfl

/-- The part of the sprite ends. -/
theorem finish (h : Solo o cfg begun x timeline queues bs s) :
    Solo o cfg begun x timeline queues bs (s.finish o 0) := by
  obtain ⟨y, hy, -⟩ := h.getElem?
  have hover : Solo o cfg begun x timeline queues bs
      { s with finished := 0 :: s.finished, alarms := s.alarms.disarm (.flash 0) } :=
    ⟨h.sprite, h.plays, h.unasked, h.timeline, h.queues, by simp [Alarms.disarm, h.armed]⟩
  rw [finish_eq o hy]
  exact ((hover.reach (by simp)).put hy y.calm_calm).tell rfl

/-- A request to stop finds no alarm to call off. -/
theorem heedStop (h : Solo o cfg begun x timeline queues bs s) :
    Solo o cfg begun x timeline queues bs s.heedStop := by
  have hsame : Solo o cfg begun x timeline queues bs { s with stopNoted := true } :=
    ⟨h.sprite, h.plays, h.unasked, h.timeline, h.queues, h.armed⟩
  have hnoted := hsame.reach (m := .stopRequested s.now) (by simp)
  unfold Session.heedStop
  split
  · dsimp only
    split
    · rw [cancelAlarms_of_armed h.armed]
      exact h
    · rw [cancelAlarms_of_armed hnoted.armed]
      exact hnoted
  · exact h

/-- Nothing is going on once no wakeup is left. -/
theorem performed (h : Solo o cfg begun x timeline queues bs s) (hqueue : timeline.queue = [])
    (hnow : timeline.now = begun.overAt cfg bs) : Performed o cfg begun x bs s where
  idle := by
    obtain ⟨y, hy, hrole, hpose⟩ := h.sprite
    have hlast : s.now ≤ lastInstant := by
      rw [Session.now, h.timeline, hnow]
      exact after_le_last _ _
    exact ⟨y, ⟨hy, h.timeline ▸ hqueue, h.armed, hlast⟩, hrole, hpose⟩
  plays := h.plays
  unasked := h.unasked
  now := by rw [Session.now, h.timeline, hnow]

end Session.Solo

/-! ## Runners that work off blocks -/

section
variable {σ ρ : Type}

/-- What a wakeup of a runner comes to if `rest` is what is left after `bs`: the runner is done when
nothing is left, or when a stop is asked for, and otherwise it starts the next block. -/
inductive Runner.Woke (o : Observer σ) (cfg : Settings) (begun : Session σ) (x : Sprite)
    (Left : ρ → RunQueues → List Block → Prop) (timeline : Timeline) (bs rest : List Block) :
    Session σ × Option (Nat × ρ) → Prop where
  | done {s : Session σ} {queues : RunQueues} :
      Session.Solo o cfg begun x timeline queues bs s → (s.stopping = false → rest = []) →
      Woke o cfg begun x Left timeline bs rest (s, none)
  | goes {s : Session σ} {queues : RunQueues} {b : Block} {rest' : List Block} {r : ρ} :
      rest = b :: rest' → Session.Solo o cfg begun x timeline queues (bs ++ [b]) s →
      Left r queues rest' → Woke o cfg begun x Left timeline bs rest (s, some (b.delay cfg, r))

variable [Runner ρ] (o : Observer σ) (cfg : Settings) (x : Sprite)
  (Left : ρ → RunQueues → List Block → Prop)

/-- Whatever is left for a runner, each wakeup that comes when the blocks so far are over starts the
next block; `Left` says what is left. -/
def Runner.WorksOff : Prop :=
  ∀ {begun s : Session σ} {timeline : Timeline} {queues : RunQueues} {bs rest : List Block} {r : ρ},
    Left r queues rest → Session.Solo o cfg begun x timeline queues bs s →
    begun.now ≤ lastInstant → timeline.now = begun.overAt cfg bs →
    Woke o cfg begun x Left timeline bs rest (Runner.wake o cfg r s)

end

namespace Drive

section
variable {σ ρ : Type} (o : Observer σ) (cfg : Settings) (x : Sprite)
  (Left : ρ → RunQueues → List Block → Prop)

/-- A drive of one runner, which has carried out some blocks and will be woken when they are over;
`rest` is what is left for it. -/
structure Performing (begun : Session σ) (bs rest : List Block) (d : Drive σ ρ) : Prop where
  solo : Session.Solo o cfg begun x d.session.timeline d.session.stage.queues bs d.session
  runner : ∃ r, d.runners = [some r] ∧ Left r d.session.stage.queues rest
  queue : d.session.timeline.queue = [⟨begun.overAt cfg bs, .runner 0⟩]
  now : d.session.now ≤ begun.overAt cfg bs

/-- A drive whose only runner is done, when the blocks that it carried out are over. -/
structure Performed (begun : Session σ) (bs : List Block) (d : Drive σ ρ) : Prop where
  session : Session.Performed o cfg begun x bs d.session
  isOver : d.isOver = true

end

section
variable {σ ρ : Type} {o : Observer σ} {cfg : Settings} {x : Sprite}
  {Left : ρ → RunQueues → List Block → Prop} {begun : Session σ} {bs rest : List Block}
  {d : Drive σ ρ}

/-- Time is told before the runner is woken. -/
theorem tellTime_solo {timeline : Timeline} {queues : RunQueues}
    (h : Session.Solo o cfg begun x timeline queues bs d.session) :
    Session.Solo o cfg begun x timeline queues bs (d.tellTime o).session ∧
      (d.tellTime o).runners = d.runners := by
  unfold tellTime
  dsimp only
  split
  · exact ⟨h, rfl⟩
  · exact ⟨h.tell rfl, rfl⟩

variable [Runner ρ]

/-- **A task of such a drive starts the next block**, unless none is left or a stop is asked for. -/
theorem Performing.step (h : Performing o cfg x Left begun bs rest d)
    (hworks : Runner.WorksOff o cfg x Left) (hbegun : begun.now ≤ lastInstant) :
    ∃ d', d.step o cfg = some d' ∧
      ((∃ b rest', rest = b :: rest' ∧ Performing o cfg x Left begun (bs ++ [b]) rest' d') ∨
        (Performed o cfg x begun bs d' ∧ (d'.session.stopping = false → rest = []))) := by
  obtain ⟨r, hrunners, hleft⟩ := h.runner
  obtain ⟨timeline, hnext, hnow, hempty⟩ := Timeline.next?_of_queue_eq h.queue h.now
  obtain ⟨htold, hsame⟩ := tellTime_solo (o := o)
    (d := { d with session := { d.session with timeline } }) (h.solo.retime timeline)
  have hover : d.isOver = false := by
    rw [isOver, hrunners]
    rfl
  unfold Drive.step
  rw [if_neg (by simp [hover]), hnext]
  refine ⟨_, rfl, ?_⟩
  dsimp only [perform]
  generalize ({ d with session := { d.session with timeline } } : Drive σ ρ).tellTime o = t at *
  have hrunner : t.runners[0]?.join = some r := by
    rw [hsame, hrunners]
    rfl
  have hset (y : Option ρ) : t.runners.set 0 y = [y] := by
    rw [hsame, hrunners]
    rfl
  have hwake := hworks hleft htold hbegun hnow
  unfold Drive.wake
  simp only [hrunner, hset]
  cases hwoken : Runner.wake o cfg r t.session with
  | mk s next =>
    rw [hwoken] at hwake
    cases hwake with
    | done hsolo hstop =>
      refine .inr ⟨⟨hsolo.heedStop.performed hempty hnow, rfl⟩, ?_⟩
      intro hgoing
      rw [Session.stopping_heedStop] at hgoing
      exact hstop hgoing
    | @goes _ _ b rest' r' hrest hsolo hleft' =>
      have hheeded := (hsolo.retime (s.timeline.schedule (b.delay cfg) (.runner 0))).heedStop
      have hdue : begun.overAt cfg (bs ++ [b]) = SpriteScript.after timeline.now (b.delay cfg) := by
        rw [Session.overAt_append]
        exact congrArg (SpriteScript.after · (b.delay cfg)) hnow.symm
      refine .inl ⟨b, rest', hrest, ?_, ⟨r', rfl, ?_⟩, ?_, ?_⟩
      · rw [hheeded.timeline, hheeded.queues]
        exact hheeded
      · rw [hheeded.queues]
        exact hleft'
      · rw [hheeded.timeline, Timeline.schedule, hsolo.timeline, hempty, hdue]
        rfl
      · rw [Session.now, hheeded.timeline, hsolo.timeline, hdue]
        exact le_after (hnow ▸ after_le_last _ _) _

/-- Nothing is left to do when the only runner is done. -/
theorem Performed.after (h : Performed o cfg x begun bs d) (n : Nat) : d.after o cfg n = d := by
  cases n with
  | zero => rfl
  | succ n =>
    have hnone : d.step o cfg = none := by
      unfold step
      rw [if_pos h.isOver]
    rw [Drive.after, hnone]

/-- **A drive of one runner carries out what is left for it**, or a part of that if a stop is asked
for. -/
theorem Performing.after (h : Performing o cfg x Left begun bs rest d)
    (hworks : Runner.WorksOff o cfg x Left) (hbegun : begun.now ≤ lastInstant) {n : Nat}
    (hn : rest.length < n) : ∃ more, more <+: rest ∧
      Performed o cfg x begun (bs ++ more) (d.after o cfg n) ∧
      ((d.after o cfg n).session.stopping = false → more = rest) := by
  induction n generalizing d bs rest with
  | zero => omega
  | succ n ih =>
    obtain ⟨d', hstep, ⟨b, rest', rfl, hgoes⟩ | ⟨hover, hstop⟩⟩ := h.step hworks hbegun
    · obtain ⟨more, hprefix, hperformed, hall⟩ := ih hgoes (by simpa using hn)
      rw [Drive.after, hstep]
      refine ⟨b :: more, (List.prefix_cons_inj b).mpr hprefix, ?_, ?_⟩
      · rw [List.append_cons]
        exact hperformed
      · intro hgoing
        rw [hall hgoing]
    · rw [Drive.after, hstep]
      dsimp only
      rw [hover.after]
      refine ⟨[], List.nil_prefix, ?_, ?_⟩
      · rw [List.append_nil]
        exact hover
      · intro hgoing
        exact (hstop hgoing).symm

end

end Drive

/-! ## Whole drives -/

namespace Session

variable {σ ρ : Type} [Runner ρ] {o : Observer σ} {cfg : Settings} {x : Sprite}
  {Left : ρ → RunQueues → List Block → Prop} {s : Session σ} {rest : List Block} {r : ρ}

theorem Idle.solo (h : s.Idle x) (o : Observer σ) (cfg : Settings) :
    Solo o cfg s x s.timeline s.stage.queues [] s where
  sprite := ⟨x, h.sprites, rfl, rfl⟩
  plays := .refl _
  unasked _ hgoing := hgoing
  timeline := rfl
  queues := rfl
  armed := h.armed

/-- **The drive of a runner that works off some blocks carries them out**, or a part of them if a
stop is asked for, and then the last block is over. -/
theorem Idle.drive (h : s.Idle x) (hworks : Runner.WorksOff o cfg x Left)
    (hleft : Left r s.stage.queues rest) (hsize : rest.length ≤ Runner.size cfg s.sprites r) :
    ∃ bs, bs <+: rest ∧ Performed o cfg s x bs (s.drive o cfg [r]) ∧
      ((s.drive o cfg [r]).stopping = false → bs = rest) := by
  have hbegun : s.overAt cfg [] = s.now := s.overAt_nil cfg h.now
  have hperforming : Drive.Performing o cfg x Left s [] rest (Drive.begin s [r]) := by
    constructor
    case solo => exact (h.solo o cfg).retime _
    case runner => exact ⟨r, rfl, hleft⟩
    case queue =>
      show insertWakeup _ s.timeline.queue = _
      rw [h.queue, hbegun]
      show [(⟨after s.now 0, .runner 0⟩ : Wakeup)] = _
      rw [after, Nat.add_zero, Nat.min_eq_left h.now]
    case now => exact Nat.le_of_eq hbegun.symm
  have hbudget : rest.length < (Drive.begin s [r]).budget cfg := by
    have hpending : (Drive.begin s [r]).session.timeline.pending = 1 :=
      congrArg List.length hperforming.queue
    have hsizes : Runner.sizes cfg (Drive.begin s [r]).session.sprites (Drive.begin s [r]).runners =
        Runner.size cfg s.sprites r := Nat.add_zero _
    simp only [Drive.budget, hpending, hsizes]
    omega
  obtain ⟨bs, hprefix, hperformed, hall⟩ := hperforming.after hworks h.now hbudget
  have hcancel : s.drive o cfg [r] = ((Drive.begin s [r]).last o cfg).session := by
    obtain ⟨y, hy, -⟩ := hperformed.session.idle
    exact cancelAlarms_of_armed hy.armed
  rw [List.nil_append] at hperformed
  rw [hcancel]
  exact ⟨bs, hprefix, hperformed.session, hall⟩

end Session

end SpriteScript
