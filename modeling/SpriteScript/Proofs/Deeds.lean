/-
  What a session does, deed by deed.

  Whatever changes what a session shows is told to the observer at once. So a session goes on by
  deeds, each of which changes one thing that shows, or two sprites that meet, and tells of it; what
  a collision pass does at first for all sprites may as well be done encounter by encounter.

  * `Utterance` is what a sprite is heard to say or think, `Journal.utterances` lists them;
  * `Session.Deed` lists the deeds, each with what is uttered, and `Session.Deeds` are any number of
    them, one after the other;
  * `deeds_ring`, `deeds_collide`, `deeds_complete`, `deeds_start`, `deeds_finish`, `deeds_settle`:
    **whatever a session does it does by deeds**, and it utters the openings and endings of bubbles
    only.
-/
import SpriteScript.Proofs.Advance

namespace SpriteScript

/-! ## What notices show and utter -/

/-- What a sprite utters: a bubble opens, or, if there is neither text nor time, it ends. -/
structure Utterance where
  time : Nat
  speaker : String
  kind : SpeechKind
  text : String
  ms : Nat
  deriving DecidableEq, Repr, Inhabited

namespace Notice

/-- The sprites that a notice shows. -/
def sprites : Notice → List Sprite
  | update s | speech _ s .. => [s]
  | collision a b => [a, b]
  | banner _ | clock _ => []

/-- What is uttered when a notice is told. -/
def utterances (time : Nat) : Notice → List Utterance
  | speech kind s text ms => [⟨time, s.id, kind, text, ms⟩]
  | _ => []

end Notice

/-- What an entry says is uttered. -/
def Entry.utterances (e : Entry) : List Utterance :=
  match e.happening with
  | .told n => n.utterances e.time
  | .reached _ => []

/-- What is uttered, the earliest first. -/
def Journal.utterances (j : Journal) : List Utterance := j.reverse.flatMap Entry.utterances

theorem Journal.utterances_cons (e : Entry) (j : Journal) :
    utterances (e :: j) = utterances j ++ e.utterances := by simp [utterances]

/-- What the sprite with an id utters when it begins a block. -/
def Block.opening (cfg : Settings) (id : String) (b : Block) (time : Nat) : List Utterance :=
  match b.action cfg with
  | .speak kind text ms => [⟨time, id, kind, text, ms⟩]
  | _ => []

/-- What the sprite with an id utters when a block is over. -/
def Block.ending (id : String) (b : Block) (time : Nat) : List Utterance :=
  match b.kind.speech? with
  | some kind => [⟨time, id, kind, "", 0⟩]
  | none => []

/-- Whether an observer asks for a stop at one of some notices. -/
def Observer.asks {σ : Type} (o : Observer σ) : σ → List Notice → Bool
  | _, [] => false
  | watcher, n :: ns => (o.hear watcher n).2 || o.asks (o.hear watcher n).1 ns

theorem Observer.asks_append {σ : Type} (o : Observer σ) (watcher : σ) (ns ms : List Notice) :
    o.asks watcher (ns ++ ms) =
      (o.asks watcher ns || o.asks (ns.foldl (fun w n => (o.hear w n).1) watcher) ms) := by
  induction ns generalizing watcher with
  | nil => rfl
  | cons n ns ih => rw [List.cons_append, asks, ih, asks, List.foldl_cons, Bool.or_assoc]

/-- A sprite as it starts a block. -/
def Sprite.starting (cfg : Settings) (b : Block) (x : Sprite) : Sprite :=
  { x.animate (some b.kind) with pose := (b.action cfg).apply x.pose }

namespace Session

variable {σ : Type}

/-- A sprite takes the place of another one. -/
def put (i : Nat) (x : Sprite) (s : Session σ) : Session σ :=
  { s with stage.sprites := s.stage.sprites.set i x }

section
variable (o : Observer σ) (cfg : Settings)

/-- What a session does at once, with what is uttered. -/
inductive Deed : Session σ → List Utterance → Session σ → Prop where
  /-- Something that does not show; time may pass. -/
  | unseen {s s' : Session σ} : s'.sprites = s.sprites → s'.banner = s.banner →
      s'.watcher = s.watcher → s'.stopping = s.stopping → s'.journal = s.journal →
      s.now ≤ s'.now → Deed s [] s'
  /-- A milestone other than the start of a block. -/
  | reach {s : Session σ} {m : Milestone} : (∀ i name b, m ≠ .blockStarted i name b) →
      Deed s [] (s.reach m)
  | clock {s : Session σ} (now : Nat) : Deed s [] (s.tell o (.clock now))
  | banner {s : Session σ} (text : Option String) :
      Deed s [] { s.tell o (.banner text) with banner := text }
  /-- A sprite changes what is transient, and perhaps speaks. -/
  | shift {s : Session σ} {i : Nat} {x x' : Sprite} {n : Notice} : s.sprites[i]? = some x →
      x'.calm = x.calm → n.sprites = [x'] → Deed s (n.utterances s.now) ((s.put i x').tell o n)
  /-- Two sprites meet. -/
  | meet {s : Session σ} {e : Encounter} {a b : Sprite} : e.i ≠ e.j → s.sprites[e.i]? = some a →
      s.sprites[e.j]? = some b → exchange a b = (e.a, e.b) →
      Deed s [] (((s.put e.i e.a).put e.j e.b).tellEncounter o e)
  /-- A sprite starts a block, unless a stop was asked for. -/
  | start {s : Session σ} {i : Nat} {x : Sprite} {b : Block} : s.stopping = false →
      s.sprites[i]? = some x → Deed s [] (((s.put i (x.starting cfg b)).reach
        (.blockStarted i x.name b)).tell o (.update (x.starting cfg b)))

/-- What a session does deed by deed, with all that is uttered. -/
inductive Deeds (s : Session σ) : List Utterance → Session σ → Prop where
  | refl : Deeds s [] s
  | next {us vs : List Utterance} {s' s'' : Session σ} : Deeds s us s' → s'.Deed o cfg vs s'' →
      Deeds s (us ++ vs) s''

end

section
variable {o : Observer σ} {cfg : Settings} {s s' s'' : Session σ} {us vs : List Utterance}

theorem Deed.deeds (h : s.Deed o cfg us s') : s.Deeds o cfg us s' := Deeds.refl.next h

theorem Deeds.trans (h : s.Deeds o cfg us s') (h' : s'.Deeds o cfg vs s'') :
    s.Deeds o cfg (us ++ vs) s'' := by
  induction h' with
  | refl => rwa [List.append_nil]
  | next _ hdeed ih =>
    rw [← List.append_assoc]
    exact ih.next hdeed

/-- Deeds that utter nothing, and then others. -/
theorem Deeds.then (h : s.Deeds o cfg [] s') (h' : s'.Deeds o cfg us s'') :
    s.Deeds o cfg us s'' := h.trans h'

/-- Deeds, and then others that utter nothing. -/
theorem Deeds.quietly (h : s.Deeds o cfg us s') (h' : s'.Deeds o cfg [] s'') :
    s.Deeds o cfg us s'' := by
  have htrans := h.trans h'
  rwa [List.append_nil] at htrans

theorem Deeds.of_unseen (hsprites : s'.sprites = s.sprites) (hbanner : s'.banner = s.banner)
    (hwatcher : s'.watcher = s.watcher) (hstopping : s'.stopping = s.stopping)
    (hjournal : s'.journal = s.journal) (hnow : s.now ≤ s'.now) : s.Deeds o cfg [] s' :=
  (Deed.unseen hsprites hbanner hwatcher hstopping hjournal hnow).deeds

end

variable (o : Observer σ) (cfg : Settings) (s : Session σ)

/-! ## Sprites and alarms -/

variable {s} in
theorem modifySprite_eq {i : Nat} {x : Sprite} (h : s.sprites[i]? = some x)
    (f : Sprite → Sprite) : s.modifySprite i f = s.put i (f x) := by
  obtain ⟨hlt, rfl⟩ := List.getElem?_eq_some_iff.mp h
  exact congrArg (fun l => { s with stage.sprites := l }) (List.modify_eq_set_get f hlt)

variable {s} in
theorem modifySprite_of_none {i : Nat} (h : s.sprites[i]? = none) (f : Sprite → Sprite) :
    s.modifySprite i f = s := by
  have hle : s.sprites.length ≤ i := List.getElem?_eq_none_iff.mp h
  exact congrArg (fun l => { s with stage.sprites := l }) (List.modify_eq_self hle)

variable {s} in
theorem getElem?_put {i : Nat} {x : Sprite} (h : s.sprites[i]? = some x) (x' : Sprite) :
    (s.put i x').sprites[i]? = some x' := by
  obtain ⟨hlt, -⟩ := List.getElem?_eq_some_iff.mp h
  exact List.getElem?_set_self hlt

theorem put_put (i : Nat) (x y : Sprite) : (s.put i x).put i y = s.put i y :=
  congrArg (fun l => { s with stage.sprites := l }) (List.set_set x)

variable {s} in
theorem tellOf_eq {i : Nat} {x : Sprite} (h : s.sprites[i]? = some x) (n : Sprite → Notice) :
    s.tellOf o i n = s.tell o (n x) := by rw [tellOf, h]

variable {s} in
theorem reachOf_eq {i : Nat} {x : Sprite} (h : s.sprites[i]? = some x) (m : String → Milestone) :
    s.reachOf i m = s.reach (m x.name) := by rw [reachOf, h]

variable {s} in
/-- A sprite changes what is transient, and the observer is told of it. -/
theorem deeds_shift {i : Nat} {x : Sprite} (h : s.sprites[i]? = some x) {f : Sprite → Sprite}
    (hf : (f x).calm = x.calm) {n : Sprite → Notice} (hn : (n (f x)).sprites = [f x]) :
    s.Deeds o cfg ((n (f x)).utterances s.now) ((s.modifySprite i f).tellOf o i n) := by
  rw [modifySprite_eq h, tellOf_eq o (getElem?_put h _)]
  exact (Deed.shift h hf hn).deeds

theorem deeds_ring (key : AlarmKey) (number : Nat) :
    s.Deeds o cfg [] (s.ring o key number) := by
  unfold ring
  split
  · exact .refl
  · next alarms _ =>
    have hunset : s.Deeds o cfg [] { s with alarms } :=
      .of_unseen rfl rfl rfl rfl rfl (Nat.le_refl _)
    refine hunset.then ?_
    cases key with
    | banner => exact (Deed.banner (s := { s with alarms }) none).deeds
    | flash i =>
      generalize ({ s with alarms } : Session σ) = t
      dsimp only
      cases hx : t.sprites[i]? with
      | some x => exact deeds_shift o cfg hx (n := .update) (Sprite.calm_withFlash x false) rfl
      | none =>
        rw [modifySprite_of_none hx, update, tellOf, hx]
        exact .refl

theorem deeds_schedule (delay : Nat) (task : Task) :
    s.Deeds o cfg [] { s with timeline := s.timeline.schedule delay task } :=
  .of_unseen rfl rfl rfl rfl rfl (Nat.le_refl _)

theorem deeds_cancelAlarms : s.Deeds o cfg [] s.cancelAlarms := by
  unfold cancelAlarms
  split
  · exact .refl
  · exact .of_unseen rfl rfl rfl rfl rfl (Nat.le_refl _)

theorem deeds_heedStop : s.Deeds o cfg [] s.heedStop := by
  unfold heedStop
  split
  · refine Deeds.then ?_ (deeds_cancelAlarms o cfg _)
    split
    · exact .refl
    · have hnoted : s.Deeds o cfg [] { s with stopNoted := true } :=
        .of_unseen rfl rfl rfl rfl rfl (Nat.le_refl _)
      exact hnoted.next (.reach (by simp))
  · exact .refl

end Session

/-! ## Collision passes -/

theorem lt_of_mem_placePairs {n : Nat} {ij : Nat × Nat} (h : ij ∈ placePairs n) : ij.1 < ij.2 := by
  simp only [placePairs, List.mem_flatMap, List.mem_map, List.mem_range'_1] at h
  obtain ⟨i, -, j, ⟨hlt, -⟩, rfl⟩ := h
  exact hlt

theorem Stage.meet?_eq_some {stage stage' : Stage} {i j : Nat} {e : Encounter}
    (h : stage.meet? i j = some (stage', e)) : ∃ a b, stage.sprites[i]? = some a ∧
      stage.sprites[j]? = some b ∧ e.i = i ∧ e.j = j ∧ exchange a b = (e.a, e.b) ∧
      stage'.sprites = (stage.sprites.set i e.a).set j e.b := by
  unfold meet? at h
  split at h
  · next a b hi hj =>
    dsimp only at h
    split at h
    · simp at h
    · split at h
      · simp only [Option.some.injEq, Prod.mk.injEq] at h
        obtain ⟨rfl, rfl⟩ := h
        exact ⟨a, b, hi, hj, rfl, rfl, rfl, rfl⟩
      · simp at h
  · simp at h

namespace Session

variable {σ : Type} (o : Observer σ) (cfg : Settings)

variable {o} in
/-- **The encounters of a pass may be told of one by one**, as the observer is told of all of them
before anything else happens. -/
theorem visit_induction {motive : Session σ → Prop}
    (unseen : ∀ s s' : Session σ, motive s → s'.sprites = s.sprites → s'.banner = s.banner →
      s'.watcher = s.watcher → s'.stopping = s.stopping → s'.journal = s.journal →
      s'.now = s.now → motive s')
    (meet : ∀ (s : Session σ) (e : Encounter) (a b : Sprite), motive s → e.i ≠ e.j →
      s.sprites[e.i]? = some a → s.sprites[e.j]? = some b → exchange a b = (e.a, e.b) →
      motive (((s.put e.i e.a).put e.j e.b).tellEncounter o e))
    (ps : List (Nat × Nat)) (hps : ∀ ij ∈ ps, ij.1 < ij.2) (s : Session σ) (stage : Stage)
    (hs : s.sprites = stage.sprites) (h : motive s) :
    motive ((stage.visit ps).2.foldl (tellEncounter o)
      { s with stage := (stage.visit ps).1 }) := by
  induction ps generalizing s stage with
  | nil => exact unseen s _ h hs.symm rfl rfl rfl rfl rfl
  | cons ij rest ih =>
    obtain ⟨i, j⟩ := ij
    have hrest : ∀ ij ∈ rest, ij.1 < ij.2 := by
      intro ij hij; exact hps ij (List.mem_cons_of_mem _ hij)
    rw [Stage.visit]
    cases hmeet : stage.meet? i j with
    | none => exact ih hrest s stage hs h
    | some r =>
      obtain ⟨stage', e⟩ := r
      obtain ⟨a, b, ha, hb, rfl, rfl, hexchange, hstage'⟩ := Stage.meet?_eq_some hmeet
      have hne : e.i ≠ e.j := Nat.ne_of_lt (hps (e.i, e.j) List.mem_cons_self)
      refine ih hrest _ stage' ?_ (meet s e a b h hne (hs ▸ ha) (hs ▸ hb) hexchange)
      simp only [tellEncounter, tell, record, put, sprites, hstage'] at hs ⊢
      rw [hs]

theorem deeds_visit (ps : List (Nat × Nat)) (hps : ∀ ij ∈ ps, ij.1 < ij.2) (s : Session σ)
    (stage : Stage) (hs : s.sprites = stage.sprites) :
    s.Deeds o cfg [] ((stage.visit ps).2.foldl (tellEncounter o)
      { s with stage := (stage.visit ps).1 }) := by
  refine visit_induction (motive := fun t => s.Deeds o cfg [] t) ?_ ?_ ps hps s stage hs .refl
  · intro t t' ht hsprites hbanner hwatcher hstopping hjournal hnow
    exact ht.then (.of_unseen hsprites hbanner hwatcher hstopping hjournal (Nat.le_of_eq hnow.symm))
  · intro t e a b ht hne ha hb hexchange
    exact ht.then (Deed.meet hne ha hb hexchange).deeds

theorem deeds_noteStranded (i : Nat) (x : Sprite) (s : Session σ) :
    s.Deeds o cfg [] (s.noteStranded i x) := by
  unfold noteStranded
  dsimp only
  split
  · exact (Deed.reach (by simp)).deeds
  · exact .refl

theorem deeds_arm (key : AlarmKey) (delay : Nat) (s : Session σ) :
    s.Deeds o cfg [] (s.arm key delay) := .of_unseen rfl rfl rfl rfl rfl (Nat.le_refl _)

theorem deeds_followEncounter (s : Session σ) (e : Encounter) :
    s.Deeds o cfg [] (s.followEncounter o cfg e) := by
  unfold followEncounter
  refine Deeds.then ?_ (deeds_noteStranded o cfg _ _ _)
  refine Deeds.then ?_ (deeds_noteStranded o cfg _ _ _)
  refine Deeds.then ?_ (deeds_arm o cfg _ _ _)
  refine Deeds.then ?_ (deeds_arm o cfg _ _ _)
  refine Deeds.then ?_ (deeds_arm o cfg _ _ _)
  refine Deeds.quietly ?_ (Deed.banner _).deeds
  have hswap : s.Deed o cfg [] (s.reach (.collisionSwap e.a.name e.b.name
      (s.stage.queues.get e.a.id).length (s.stage.queues.get e.b.id).length)) := .reach (by simp)
  exact hswap.deeds.then (.of_unseen rfl rfl rfl rfl rfl (Nat.le_refl _))

/-- A collision pass utters nothing. -/
theorem deeds_collide (s : Session σ) : s.Deeds o cfg [] (s.collide o cfg) := by
  have hfollow (es : List Encounter) (t : Session σ) :
      t.Deeds o cfg [] (es.foldl (followEncounter o cfg) t) := by
    induction es generalizing t with
    | nil => exact .refl
    | cons e es ih => exact (deeds_followEncounter o cfg t e).then (ih _)
  have hvisit := deeds_visit o cfg (placePairs s.stage.sprites.length)
    (fun _ => lt_of_mem_placePairs) s s.stage rfl
  exact hvisit.then (hfollow _ _)

/-! ## Blocks -/

variable {s : Session σ} {i : Nat} {x : Sprite}

/-- A block that is over takes its bubble with it. -/
theorem deeds_complete (hx : s.sprites[i]? = some x) (b : Block) :
    s.Deeds o cfg (b.ending x.id s.now) (s.complete o cfg i b) := by
  unfold complete Block.ending
  cases b.kind.speech? with
  | none => exact deeds_collide o cfg s
  | some kind =>
    have hshift := deeds_shift o cfg hx (f := (·.withBubble none)) (Sprite.calm_withBubble x none)
      (n := (.speech kind · "" 0)) rfl
    exact hshift.trans (deeds_collide o cfg _)

theorem deeds_seed (s : Session σ) (i : Nat) : s.Deeds o cfg [] (s.seed cfg i) := by
  unfold seed
  cases s.sprites[i]? with
  | none => exact .refl
  | some x =>
    have hqueues : s.Deeds o cfg []
        { s with stage.queues := s.stage.queues.seed cfg.maxRepeat x } :=
      .of_unseen rfl rfl rfl rfl rfl (Nat.le_refl _)
    exact hqueues.next (.reach (by simp))

theorem deeds_pop? {b : Block} {s' : Session σ} (h : s.pop? i = some (b, s')) :
    s.Deeds o cfg [] s' := by
  obtain ⟨queues, rfl⟩ := s.eq_of_pop? h
  exact .of_unseen rfl rfl rfl rfl rfl (Nat.le_refl _)

/-- A sprite that starts a block has moved when the observer is told of it. -/
theorem moves_eq (hx : s.sprites[i]? = some x) (b : Block) :
    (((s.modifySprite i (·.animate (some b.kind))).reachOf i (.blockStarted i · b)).modifySprite i
      fun y => { y with pose := (b.action cfg).apply y.pose }).update o i =
      ((s.put i (x.starting cfg b)).reach (.blockStarted i x.name b)).tell o
        (.update (x.starting cfg b)) := by
  have hanimated := getElem?_put hx (x.animate (some b.kind))
  rw [modifySprite_eq hx, reachOf_eq hanimated, modifySprite_eq (x := x.animate (some b.kind)),
    update, tellOf_eq o (getElem?_put (x := x.animate (some b.kind)) _ _)]
  · exact congrArg (fun s : Session σ => (s.reach _).tell o _) (put_put s i _ _)
  · exact hanimated
  · exact hanimated

/-- What a session is when the sprite `x` at place `i` has started a block. -/
theorem start_eq (hx : s.sprites[i]? = some x) (b : Block) : s.start o cfg i b =
    let t := ((({ s with started := s.started + 1 } : Session σ).put i (x.starting cfg b)).reach
      (.blockStarted i x.name b)).tell o (.update (x.starting cfg b))
    match b.action cfg with
    | .speak kind text ms =>
      let y := (x.starting cfg b).withBubble (some ⟨text, kind⟩)
      (t.put i y).tell o (.speech kind y text ms)
    | _ => t := by
  unfold start
  dsimp only
  rw [moves_eq o cfg (s := { s with started := s.started + 1 }) hx]
  cases b.action cfg with
  | speak kind text ms =>
    have hput := getElem?_put (s := { s with started := s.started + 1 }) hx (x.starting cfg b)
    dsimp only
    rw [speak, modifySprite_eq (x := x.starting cfg b)]
    · refine tellOf_eq o ?_ (.speech kind · text ms)
      exact getElem?_put (x := x.starting cfg b) hput _
    · exact hput
  | move | turn | goto | loop => rfl

/-- A block that speaks opens a bubble as it starts. -/
theorem deeds_start (hstop : s.stopping = false) (hx : s.sprites[i]? = some x) (b : Block) :
    s.Deeds o cfg (b.opening cfg x.id s.now) (s.start o cfg i b) := by
  have hcount : s.Deeds o cfg [] { s with started := s.started + 1 } :=
    .of_unseen rfl rfl rfl rfl rfl (Nat.le_refl _)
  have hstart := hcount.next (.start hstop hx (b := b))
  rw [start_eq o cfg hx]
  unfold Block.opening
  cases b.action cfg with
  | speak kind text ms =>
    refine hstart.trans (Deed.shift (x := x.starting cfg b) ?_ (Sprite.calm_withBubble _ _)
      (n := .speech kind _ text ms) rfl).deeds
    exact getElem?_put (s := { s with started := s.started + 1 }) hx _
  | move | turn | goto | loop => exact hstart

/-- The last that the observer is told when the part of a sprite ends is an update. -/
theorem finish_eq (hx : s.sprites[i]? = some x) : s.finish o i =
    ((({ s with finished := i :: s.finished, alarms := s.alarms.disarm (.flash i) } : Session σ).reach
      (.spriteFinished i x.name)).put i x.calm).tell o (.update x.calm) := by
  unfold finish
  generalize hs' : ({ s with finished := i :: s.finished, alarms := s.alarms.disarm (.flash i) } :
    Session σ) = s'
  have hx' : s'.sprites[i]? = some x := hs' ▸ hx
  have hput := getElem?_put hx' x.calm
  dsimp only
  rw [modifySprite_eq hx', reachOf_eq hput]
  refine tellOf_eq o (x := x.calm) ?_ .update
  exact hput

theorem deeds_finish (hx : s.sprites[i]? = some x) : s.Deeds o cfg [] (s.finish o i) := by
  rw [finish_eq o hx]
  have hover : s.Deeds o cfg []
      { s with finished := i :: s.finished, alarms := s.alarms.disarm (.flash i) } :=
    .of_unseen rfl rfl rfl rfl rfl (Nat.le_refl _)
  have hreach := hover.next (.reach (m := .spriteFinished i x.name) (by simp))
  exact hreach.next (.shift (n := .update x.calm) (x := x) hx x.calm_calm rfl)

/-! ## The end of a run -/

theorem deeds_settleSprite (s : Session σ) (i : Nat) :
    s.Deeds o cfg [] (s.settleSprite o i) := by
  unfold settleSprite
  cases hx : s.sprites[i]? with
  | none => exact .refl
  | some x =>
    dsimp only
    split
    · exact .refl
    · exact deeds_shift o cfg hx (n := .update) x.calm_calm rfl

theorem deeds_settle (s : Session σ) : s.Deeds o cfg [] (s.settle o) := by
  have hfold (is : List Nat) (t : Session σ) :
      t.Deeds o cfg [] (is.foldl (settleSprite o) t) := by
    induction is generalizing t with
    | nil => exact .refl
    | cons i is ih => exact (deeds_settleSprite o cfg t i).then (ih _)
  unfold settle
  dsimp only
  split
  · exact (hfold _ s).next (.banner none)
  · exact hfold _ s

/-! ## What deeds come to -/

section
variable {o cfg} {s s' : Session σ} {us : List Utterance}

theorem Deed.journal (h : s.Deed o cfg us s') : s.journal <:+ s'.journal := by
  cases h with
  | unseen _ _ _ _ hjournal _ => exact hjournal ▸ List.suffix_refl _
  | reach | clock | banner | shift => exact List.suffix_cons _ _
  | meet => exact ⟨_ :: _ :: [_], rfl⟩
  | start => exact ⟨_ :: [_], rfl⟩

/-- Deeds only add to the journal. -/
theorem Deeds.journal (h : s.Deeds o cfg us s') : s.journal <:+ s'.journal := by
  induction h with
  | refl => exact List.suffix_refl _
  | next _ hdeed ih => exact ih.trans hdeed.journal

theorem Deed.utterances (h : s.Deed o cfg us s') :
    s'.journal.utterances = s.journal.utterances ++ us := by
  cases h with
  | unseen _ _ _ _ hjournal _ => rw [hjournal, List.append_nil]
  | reach | clock | banner | shift => exact Journal.utterances_cons _ _
  | meet | start =>
    simp [tellEncounter, tell, record, put, Session.reach, Journal.utterances_cons,
      Entry.utterances, Notice.utterances]

/-- **Nothing else is uttered.** -/
theorem Deeds.utterances (h : s.Deeds o cfg us s') :
    s'.journal.utterances = s.journal.utterances ++ us := by
  induction h with
  | refl => exact (List.append_nil _).symm
  | next _ hdeed ih => rw [hdeed.utterances, ih, List.append_assoc]

/-- The observer has heard what the journal says it was told, and a stop is asked for if it was
before, or the observer asks for it at one of these notices. -/
structure Obeys (o : Observer σ) (watcher : σ) (stopping : Bool) (s : Session σ) : Prop where
  heard : s.HeardFrom o watcher
  stopping : s.stopping = (stopping || o.asks watcher s.journal.notices)

variable {watcher : σ} {stopping : Bool}

theorem Obeys.congr (h : s.Obeys o watcher stopping) (hwatcher : s'.watcher = s.watcher)
    (hstopping : s'.stopping = s.stopping) (hjournal : s'.journal = s.journal) :
    s'.Obeys o watcher stopping where
  heard := by rw [HeardFrom, hwatcher, hjournal]; exact h.heard
  stopping := by rw [hstopping, hjournal]; exact h.stopping

theorem Obeys.reach (h : s.Obeys o watcher stopping) (m : Milestone) :
    (s.reach m).Obeys o watcher stopping where
  heard := (s.advance_reach o m).heard watcher h.heard
  stopping := by
    rw [Session.reach, record, Journal.notices_reached]
    exact h.stopping

theorem Obeys.tell (h : s.Obeys o watcher stopping) (n : Notice) :
    (s.tell o n).Obeys o watcher stopping where
  heard := (s.advance_tell o n).heard watcher h.heard
  stopping := by
    have hheard := h.heard
    rw [HeardFrom] at hheard
    have hasks : o.asks s.watcher [n] = (o.hear s.watcher n).2 := Bool.or_false _
    simp only [Session.tell, record, Journal.notices_told, o.asks_append, ← hheard, hasks,
      h.stopping, Bool.or_assoc]

theorem Obeys.put (h : s.Obeys o watcher stopping) (i : Nat) (x : Sprite) :
    (s.put i x).Obeys o watcher stopping := h.congr rfl rfl rfl

theorem Deed.obeys (h : s.Deed o cfg us s') (hs : s.Obeys o watcher stopping) :
    s'.Obeys o watcher stopping := by
  cases h with
  | unseen _ _ hwatcher hstopping hjournal _ => exact hs.congr hwatcher hstopping hjournal
  | reach => exact hs.reach _
  | clock => exact hs.tell _
  | banner => exact (hs.tell _).congr rfl rfl rfl
  | shift => exact (hs.put _ _).tell _
  | meet => exact ((((hs.put _ _).put _ _).tell _).tell _).tell _
  | start => exact ((hs.put _ _).reach _).tell _

/-- **A stop is asked for just when the observer asks for it.** -/
theorem Deeds.obeys (h : s.Deeds o cfg us s') (hs : s.Obeys o watcher stopping) :
    s'.Obeys o watcher stopping := by
  induction h with
  | refl => exact hs
  | next _ hdeed ih => exact hdeed.obeys ih

end

/-- What is called off and cleared when a run is over is so by deeds. -/
theorem deeds_close (s : Session σ) : s.Deeds o cfg []
    ((s.cancelAlarms.settle o).reach (.runFinished (s.cancelAlarms.settle o).report)) :=
  ((deeds_cancelAlarms o cfg s).then (deeds_settle o cfg _)).next (.reach (by simp))

end Session

end SpriteScript
