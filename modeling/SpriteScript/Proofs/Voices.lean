/-
  Who is shown to speak, and who speaks.

  That a sprite speaks is kept three times over: its runner is busy with a block that speaks, the
  sprite has a bubble, and its animation is the kind of such a block. Runners, bubbles and
  animations change at different times, and sprites that meet exchange their animations; but what is
  exchanged are never the animations of sprites that speak.

  * `Voice` is what a sprite shows of speaking, `Block.voice` what a block lets it show;
  * `voices_collide`: **a collision pass changes no voice**, `voices_start`, `voices_complete` and
    `voices_finish` say which ones blocks change;
  * `Drive.InVoice`: each sprite has the voice of the block that its runner is busy with, and
    `Does.inVoice`: **each task of a run keeps it so**;
  * `runAll_voices`: **once all runners have been woken, whoever speaks is shown so, and nobody
    else**.
-/
import SpriteScript.Proofs.CleanSlate
import SpriteScript.Proofs.Speech

namespace SpriteScript

/-! ## Voices -/

/-- What a sprite shows of speaking. -/
structure Voice where
  /-- The kind of block that speaks which it is shown to carry out. -/
  indicator : Option BlockKind
  bubble : Option Bubble
  deriving DecidableEq, Repr, Inhabited

/-- Nothing is shown of speaking. -/
def Voice.silent : Voice := ⟨none, none⟩

/-- What a sprite shows of speaking; an animation that is no such block is not part of it. -/
def Sprite.voice (x : Sprite) : Voice where
  indicator := x.transient.animation.filter BlockKind.isLooks
  bubble := x.transient.bubble

/-- What a sprite shows of speaking while a block takes its time. -/
def Block.voice (cfg : Settings) (b : Block) : Voice :=
  match b.action cfg with
  | .speak kind text _ => ⟨some b.kind, some ⟨text, kind⟩⟩
  | _ => .silent

/-- A block that does not speak lets a sprite show nothing of it. -/
theorem Block.voice_of_not_isLooks (cfg : Settings) {b : Block} (h : b.isLooks = false) :
    b.voice cfg = .silent := by
  obtain ⟨id, kind, params, children⟩ := b
  cases kind <;> first | rfl | simp [Block.isLooks, BlockKind.isLooks, BlockKind.speech?] at h

theorem Sprite.isSpeaking_eq (x : Sprite) : x.isSpeaking = x.voice.indicator.isSome := by
  unfold isSpeaking voice
  cases h : x.transient.animation with
  | none => rfl
  | some kind => cases kind <;> rfl

/-- Who starts a block without having a bubble has the voice of the block. -/
theorem Sprite.voice_starting (cfg : Settings) {x : Sprite} (hx : x.voice.bubble = none)
    (b : Block) : (match b.action cfg with
      | .speak kind text _ => ((x.starting cfg b).withBubble (some ⟨text, kind⟩)).voice
      | _ => (x.starting cfg b).voice) = b.voice cfg := by
  obtain ⟨id, kind, params, children⟩ := b
  have hbubble : x.transient.bubble = none := hx
  cases kind <;> first | rfl | exact congrArg (Voice.mk none) hbubble

/-! ## Meetings -/

/-- Two sprites that meet keep their voices: they exchange their animations only if neither is shown
to speak. -/
theorem exchange_voice (a b : Sprite) :
    (exchange a b).1.voice = a.voice ∧ (exchange a b).2.voice = b.voice := by
  unfold exchange
  dsimp only
  split
  · exact ⟨rfl, rfl⟩
  · next hquiet =>
    rw [Bool.or_eq_true, not_or, Bool.not_eq_true, Bool.not_eq_true, Sprite.isSpeaking_eq,
      Sprite.isSpeaking_eq, Option.isSome_eq_false_iff, Option.isSome_eq_false_iff,
      Option.isNone_iff_eq_none, Option.isNone_iff_eq_none] at hquiet
    obtain ⟨ha, hb⟩ := hquiet
    have hvoice (x y : Sprite) (hx : x.voice.indicator = none) (hy : y.voice.indicator = none) :
        ((x.animate y.transient.animation).withFlash true).voice = x.voice :=
      congrArg (Voice.mk · x.transient.bubble) (hy.trans hx.symm)
    exact ⟨hvoice a b ha hb, hvoice b a hb ha⟩

/-- **Two sprites that meet leave all voices as they are.** -/
theorem Stage.meet?_voices {stage stage' : Stage} {i j : Nat} {e : Encounter}
    (h : stage.meet? i j = some (stage', e)) :
    stage'.sprites.map Sprite.voice = stage.sprites.map Sprite.voice := by
  obtain ⟨a, b, ha, hb, rfl, rfl, hexchange, hsprites⟩ := Stage.meet?_eq_some h
  obtain ⟨hvoicea, hvoiceb⟩ := exchange_voice a b
  rw [hexchange] at hvoicea hvoiceb
  have hseta := map_set_of_eq (f := Sprite.voice) ha hvoicea
  have hget := congrArg (·[e.j]?) hseta
  simp only [List.getElem?_map, hb, Option.map_some] at hget
  obtain ⟨y, hy, hvoice⟩ := Option.map_eq_some_iff.mp hget
  rw [hsprites, map_set_of_eq hy (hvoiceb.trans hvoice.symm), hseta]

theorem Stage.visit_voices (ps : List (Nat × Nat)) (stage : Stage) :
    (visit ps stage).1.sprites.map Sprite.voice = stage.sprites.map Sprite.voice := by
  fun_induction visit ps stage with
  | case1 => rfl
  | case2 stage i j rest _ ih => exact ih
  | case3 stage i j rest stage' e h stage'' es hv ih =>
    rw [hv] at ih
    exact ih.trans (meet?_voices h)

/-! ## Sessions -/

namespace Session

variable {σ : Type} (o : Observer σ) (cfg : Settings)

/-- What the sprites of a session show of speaking. -/
def voices (s : Session σ) : List Voice := s.sprites.map Sprite.voice

theorem getElem?_voices {s : Session σ} {i : Nat} {x : Sprite} (hx : s.sprites[i]? = some x) :
    s.voices[i]? = some x.voice := by
  rw [voices, List.getElem?_map, hx]
  rfl

theorem sprites_followEncounter (s : Session σ) (e : Encounter) :
    (s.followEncounter o cfg e).sprites = s.sprites := by
  have hnote (i : Nat) (x : Sprite) (t : Session σ) : (t.noteStranded i x).sprites = t.sprites := by
    unfold noteStranded
    dsimp only
    split <;> rfl
  unfold followEncounter
  rw [hnote, hnote]
  rfl

/-- **A collision pass changes no voice.** -/
theorem voices_collide (s : Session σ) : (s.collide o cfg).voices = s.voices := by
  have htell (es : List Encounter) (t : Session σ) :
      (es.foldl (tellEncounter o) t).sprites = t.sprites := by
    induction es generalizing t with
    | nil => rfl
    | cons e es ih => exact (ih _).trans rfl
  have hfollow (es : List Encounter) (t : Session σ) :
      (es.foldl (followEncounter o cfg) t).sprites = t.sprites := by
    induction es generalizing t with
    | nil => rfl
    | cons e es ih => exact (ih _).trans (sprites_followEncounter o cfg t e)
  unfold collide
  dsimp only
  rw [voices, hfollow, htell]
  exact Stage.visit_voices _ s.stage

theorem voices_ring (s : Session σ) (key : AlarmKey) (number : Nat) :
    (s.ring o key number).voices = s.voices := by
  unfold ring
  split
  · rfl
  · next alarms _ =>
    cases key with
    | banner => rfl
    | flash i =>
      unfold update tellOf
      have hsame := map_modify_of_eq (f := (·.withFlash false)) (g := Sprite.voice)
        (fun _ => rfl) i s.sprites
      dsimp only
      split <;> exact hsame

theorem voices_heedStop (s : Session σ) : s.heedStop.voices = s.voices := by
  unfold heedStop cancelAlarms
  dsimp only
  split_ifs <;> rfl

theorem voices_seed (s : Session σ) (i : Nat) : (s.seed cfg i).voices = s.voices := by
  unfold seed
  split <;> rfl

variable {s : Session σ} {i : Nat} {x : Sprite} (hx : s.sprites[i]? = some x)
include hx

/-- A block that is over takes its bubble with it, but not its animation. -/
theorem voices_complete (b : Block) : (s.complete o cfg i b).voices =
    if b.isLooks then s.voices.set i ⟨x.voice.indicator, none⟩ else s.voices := by
  unfold complete Block.isLooks BlockKind.isLooks
  rw [voices_collide]
  cases b.kind.speech? with
  | none => rfl
  | some kind =>
    dsimp only
    rw [modifySprite_eq hx, tellOf_eq o (getElem?_put hx _), Option.isSome_some, if_pos rfl]
    exact List.map_set

/-- **A sprite without a bubble that starts a block has the voice of the block.** -/
theorem voices_start (hbubble : x.voice.bubble = none) (b : Block) :
    (s.start o cfg i b).voices = s.voices.set i (b.voice cfg) := by
  rw [start_eq o cfg hx, ← x.voice_starting cfg hbubble]
  cases b.action cfg with
  | speak kind text ms =>
    dsimp only [voices, sprites, tell, reach, record, put]
    rw [List.set_set, List.map_set]
  | move | turn | goto | loop => exact List.map_set

/-- A sprite whose part ends falls silent. -/
theorem voices_finish : (s.finish o i).voices = s.voices.set i .silent := by
  rw [finish_eq o hx]
  exact List.map_set

end Session

/-! ## Tasks -/

/-- The voice of a sprite fits its runner: a sprite is silent when its runner is done, has no bubble
as long as its runner has not been woken, and has the voice of the block that its runner is busy
with. -/
def ScriptRunner.Voiced (cfg : Settings) (r : Option ScriptRunner) (v : Voice) : Prop :=
  match r with
  | none => v = .silent
  | some ⟨_, none⟩ => v.bubble = none
  | some ⟨_, some b⟩ => v = b.voice cfg

/-- A runner that is woken leaves its sprite without a bubble, and all other voices as they are. -/
theorem ScriptRunner.voices_settleBusy {σ : Type} (o : Observer σ) {cfg : Settings}
    {r : ScriptRunner} {s : Session σ} {x : Sprite} (hx : s.sprites[r.sprite]? = some x)
    (hvoiced : Voiced cfg (some r) x.voice) : ∃ v : Voice, v.bubble = none ∧
      (r.settleBusy o cfg s).voices = s.voices.set r.sprite v := by
  have hkept : s.voices.set r.sprite x.voice = s.voices := by
    obtain ⟨hlt, heq⟩ := List.getElem?_eq_some_iff.mp (Session.getElem?_voices hx)
    rw [← heq, List.set_getElem_self]
  obtain ⟨i, busy⟩ := r
  cases busy with
  | none => exact ⟨x.voice, hvoiced, (Session.voices_seed cfg s i).trans hkept.symm⟩
  | some b =>
    have hcomplete := Session.voices_complete o cfg hx b
    cases hlooks : b.isLooks with
    | true =>
      rw [hlooks, if_pos rfl] at hcomplete
      exact ⟨⟨x.voice.indicator, none⟩, rfl, hcomplete⟩
    | false =>
      have hsilent : x.voice = .silent := hvoiced.trans (b.voice_of_not_isLooks cfg hlooks)
      rw [hlooks, if_neg (by simp)] at hcomplete
      exact ⟨x.voice, congrArg Voice.bubble hsilent, hcomplete.trans hkept.symm⟩

/-- The voice of each sprite fits its runner. -/
def Drive.InVoice {σ : Type} (cfg : Settings) (d : Drive σ ScriptRunner) : Prop :=
  ∀ i v, d.session.voices[i]? = some v → ScriptRunner.Voiced cfg (d.plot.runner? i) v

namespace Drive

variable {σ : Type} {o : Observer σ} {cfg : Settings} {sprites : List Sprite} {i : Nat}
  {d d' t : Drive σ ScriptRunner} {r : ScriptRunner} {s : Session σ}

theorem Ticks.voices {due : Nat} {task : Task} {timeline : Timeline}
    (h : Ticks o due task timeline d t) : t.session.voices = d.session.voices := by
  rw [h.told]
  unfold tellTime
  dsimp only
  split <;> rfl

/-- **A runner that is woken takes the bubble of its block away, if it has one**, and changes no
other voice. -/
theorem Woken.voices (h : Woken o cfg d t i r s) (hcourse : d.plot.OnCourse cfg sprites)
    (hd : d.InVoice cfg) : ∃ x, s.sprites[i]? = some x ∧ x.voice.bubble = none ∧
      s.voices = d.session.voices.set i x.voice := by
  obtain ⟨-, y, x, hy, -, hx, -⟩ := h.sprite hcourse
  obtain ⟨timeline, hticks⟩ := h.ticks
  have hbefore := Session.getElem?_voices hy
  have hvoiced := hd i y.voice (hticks.voices ▸ hbefore)
  rw [h.runner] at hvoiced
  obtain ⟨v, hbubble, hvoices⟩ := ScriptRunner.voices_settleBusy o (h.sprite_eq ▸ hy) hvoiced
  rw [← h.found, h.sprite_eq] at hvoices
  have hget : s.voices[i]? = some v := by
    rw [hvoices, List.getElem?_set_self (List.getElem?_eq_some_iff.mp hbefore).1]
  have hv : x.voice = v := Option.some.inj ((Session.getElem?_voices hx).symm.trans hget)
  subst hv
  exact ⟨x, hx, hbubble, hticks.voices ▸ hvoices⟩

/-- When a task has changed the voice of the sprite whose runner it woke, to one that fits the
runner, all other voices still fit. -/
theorem InVoice.set (hd : d.InVoice cfg) (hr : d.plot.runner? i = some r) {x : Option ScriptRunner}
    {v w : Voice} (hv : ScriptRunner.Voiced cfg x v)
    (hvoices : d'.session.voices = (d.session.voices.set i w).set i v)
    (hrunners : d'.runners = d.runners.set i x) : d'.InVoice cfg := by
  intro j u hu
  have hplot : d'.plot = ⟨d'.session.scene, d.plot.runners.set i x⟩ :=
    congrArg (Plot.mk _) hrunners
  rw [hplot, Plot.runner?_set hr]
  rw [hvoices, List.set_set, List.getElem?_set] at hu
  split at hu
  · next hij =>
    rw [if_pos hij]
    split at hu
    · rwa [← Option.some.inj hu]
    · simp at hu
  · next hij =>
    rw [if_neg hij]
    exact hd j u hu

/-- **Each task of a run lets the voice of each sprite fit its runner.** -/
theorem Does.inVoice (h : Does o cfg d d') (hcourse : d.plot.OnCourse cfg sprites)
    (hd : d.InVoice cfg) : d'.InVoice cfg := by
  cases h with
  | @alarm due number key timeline t hticks =>
    intro i v hv
    rw [Session.voices_heedStop, Session.voices_ring, hticks.voices] at hv
    rw [hticks.plot_alarm]
    exact hd i v hv
  | @finish t i r s hwoken _ =>
    obtain ⟨x, hx, -, hvoices⟩ := hwoken.voices hcourse hd
    refine hd.set hwoken.runner (x := none) (v := .silent) (w := x.voice) rfl ?_ rfl
    rw [Session.voices_heedStop, Session.voices_finish o hx, hvoices]
  | @start t i r b s s' hwoken _ hpop =>
    obtain ⟨x, hx, hbubble, hvoices⟩ := hwoken.voices hcourse hd
    obtain ⟨queues, rfl⟩ := s.eq_of_pop? hpop
    have hstart := Session.voices_start o cfg (s := { s with stage.queues := queues }) hx hbubble b
    refine hd.set hwoken.runner (x := some ⟨i, some b⟩) (w := x.voice) rfl ?_ rfl
    rw [Session.voices_heedStop, ← hvoices]
    exact hstart

theorem Does.allWoken (h : Does o cfg d d') (hd : d.plot.AllWoken) : d'.plot.AllWoken := by
  cases h with
  | alarm hticks =>
    rw [hticks.plot_alarm]
    exact hd
  | finish hwoken =>
    intro j r' hr'
    have hset := (Plot.runner?_set (x := none) hwoken.runner d.session.scene j).symm.trans hr'
    split at hset
    · simp at hset
    · exact hd j r' hset
  | @start t i r b s s' hwoken =>
    intro j r' hr'
    have hset := (Plot.runner?_set (x := some ⟨i, some b⟩) hwoken.runner d.session.scene
      j).symm.trans hr'
    split at hset
    · rw [← Option.some.inj hset]
      rfl
    · exact hd j r' hset

theorem voices_of_taken {task : Task} (h : d.taken? o = some (task, t)) :
    t.session.voices = d.session.voices := by
  obtain ⟨⟨task', timeline⟩, -, heq⟩ := Option.map_eq_some_iff.mp h
  obtain ⟨rfl, rfl⟩ := Prod.mk.inj heq
  unfold tellTime
  dsimp only
  split <;> rfl

/-- **A task that ends a block takes its bubble away**; the collision pass that follows changes no
voice. -/
theorem InVoice.complete (hd : d.InVoice cfg) (hcourse : d.plot.OnCourse cfg sprites)
    (htaken : d.taken? o = some (.runner i, t)) {b : Block}
    (hbusy : d.plot.runner? i = some ⟨i, some b⟩) : (t.session.complete o cfg i b).voices =
      if b.isLooks then d.session.voices.set i ⟨some b.kind, none⟩ else d.session.voices := by
  have hvoices := voices_of_taken htaken
  have hlt : i < t.session.sprites.length := by
    rw [← List.length_map Sprite.voice]
    change i < t.session.voices.length
    rw [hvoices, Session.voices, List.length_map]
    exact (placed_of_onCourse cfg sprites hcourse i _ hbusy).2
  have hx := List.getElem?_eq_getElem hlt
  have hvoice : t.session.sprites[i].voice = b.voice cfg := by
    have hvoiced := hd i _ (hvoices ▸ Session.getElem?_voices hx)
    rwa [hbusy] at hvoiced
  rw [Session.voices_complete o cfg hx b, hvoices, hvoice]
  cases hlooks : b.isLooks with
  | false => rfl
  | true =>
    obtain ⟨kind, text, ms, -, haction⟩ := b.action_of_isLooks cfg hlooks
    rw [Block.voice, haction]

section
variable (o cfg) (sprites : List Sprite) (watcher : σ) (stopping : Bool)

theorem inVoice_after (hbubble : ∀ x ∈ sprites, x.voice.bubble = none) (n : Nat) :
    ((Drive.opening cfg sprites watcher stopping).after o cfg n).InVoice cfg := by
  refine runs_induction o cfg sprites watcher stopping ?_ ?_ n
  · intro i v hv
    rw [Session.voices, Session.sprites_opening, List.getElem?_map] at hv
    obtain ⟨x, hx, rfl⟩ := Option.map_eq_some_iff.mp hv
    rw [plot_opening, Plot.OnCourse.runner?_opening,
      if_pos (List.getElem?_eq_some_iff.mp hx).1]
    exact hbubble x (List.mem_of_getElem? hx)
  · intro d d' hruns hstep hd
    exact (hruns.does hstep).inVoice hruns.reachable.onCourse hd

theorem allWoken_after {n : Nat} (hn : sprites.length ≤ n) :
    ((Drive.opening cfg sprites watcher stopping).after o cfg n).plot.AllWoken := by
  induction n, hn using Nat.le_induction with
  | base =>
    have hround := firstRound_opening cfg watcher stopping sprites
    have hwoken := hround.allWoken_after o cfg ?_
    · rwa [List.length_range] at hwoken
    · intro i r hr
      rw [plot_opening, Plot.OnCourse.runner?_opening] at hr
      split at hr
      · next hi => exact .inr (List.mem_range.mpr hi)
      · simp at hr
  | succ n hn ih =>
    rw [after_succ]
    cases hstep : ((Drive.opening cfg sprites watcher stopping).after o cfg n).step o cfg with
    | none => exact ih
    | some d' => exact ((runs_after o cfg sprites watcher stopping n).does hstep).allWoken ih

end

end Drive

/-! ## The whole run -/

/-- The block that the runner at a place is busy with, if it is one that speaks. -/
def Drive.spoken? {σ : Type} (i : Nat) (d : Drive σ ScriptRunner) : Option Block :=
  ((d.plot.runner? i).bind (·.busy)).filter Block.isLooks

/-- A sprite shows that a block makes it speak, if there is one: it has a bubble and is shown to
speak just if there is, and then the bubble is that of the block, and the animation its kind. -/
structure Sprite.ShowsSpeech (cfg : Settings) (spoken : Option Block) (x : Sprite) : Prop where
  bubble : x.transient.bubble.isSome = spoken.isSome
  indicator : x.isSpeaking = spoken.isSome
  said : ∀ b, spoken = some b → ∃ kind text ms, b.action cfg = .speak kind text ms ∧
    b.kind.speech? = some kind ∧ x.transient.bubble = some ⟨text, kind⟩ ∧
      x.transient.animation = some b.kind

namespace Sprite.ShowsSpeech

variable {cfg : Settings} {x : Sprite}

theorem of_silent (h : x.voice = .silent) : x.ShowsSpeech cfg none where
  bubble := congrArg (·.bubble.isSome) h
  indicator := x.isSpeaking_eq.trans (congrArg (·.indicator.isSome) h)
  said := by simp

theorem of_block {b : Block} (h : x.voice = b.voice cfg) :
    x.ShowsSpeech cfg ((some b).filter Block.isLooks) := by
  cases hlooks : b.isLooks with
  | false =>
    rw [Option.filter_some_neg (by simp [hlooks])]
    exact .of_silent (h.trans (b.voice_of_not_isLooks cfg hlooks))
  | true =>
    obtain ⟨kind, text, ms, hkind, haction⟩ := b.action_of_isLooks cfg hlooks
    rw [Option.filter_some_pos hlooks]
    rw [Block.voice, haction] at h
    have hbubble : x.transient.bubble = some ⟨text, kind⟩ := congrArg Voice.bubble h
    have hindicator : x.voice.indicator = some b.kind := congrArg Voice.indicator h
    constructor
    case bubble => rw [hbubble]; rfl
    case indicator => rw [x.isSpeaking_eq, hindicator]; rfl
    case said =>
      rintro b' hb'
      obtain rfl := Option.some.inj hb'
      exact ⟨kind, text, ms, haction, hkind, hbubble, (Option.filter_eq_some_iff.mp hindicator).1⟩

end Sprite.ShowsSpeech

/-- **Whoever speaks is shown to speak, and nobody else.** Once each runner has been woken or is
done, which is so after as many tasks as there are sprites, the following holds between any two
tasks. A sprite has a bubble just if its runner is busy with a block that speaks, and just if its
animation is such a kind of block; then the bubble has the kind and the text of this block, and the
animation is its kind. A task that ends a block takes its bubble away and changes no other bubble or
indicator in the collision pass that follows, as no two sprites that meet exchange any. -/
theorem Player.runAll_voices {σ : Type} (p : Player) (o : Observer σ) (sprites : List Sprite)
    (watcher : σ) :
    let opening := Drive.opening p.settings (sprites.map Sprite.working) watcher p.stopRequested
    (∀ m, sprites.length ≤ m → (opening.after o p.settings m).plot.AllWoken) ∧
    (∀ m, (opening.after o p.settings m).plot.AllWoken → ∀ i : Fin sprites.length, ∃ x,
      (opening.after o p.settings m).session.sprites[(i : Nat)]? = some x ∧
        x.id = (sprites.get i).id ∧
        x.ShowsSpeech p.settings ((opening.after o p.settings m).spoken? i)) ∧
    (∀ m i t b, (opening.after o p.settings m).taken? o = some (.runner i, t) →
      (opening.after o p.settings m).plot.runner? i = some ⟨i, some b⟩ →
        (t.session.complete o p.settings i b).voices =
          if b.isLooks then (opening.after o p.settings m).session.voices.set i ⟨some b.kind, none⟩
          else (opening.after o p.settings m).session.voices) ∧
    ∀ (stage stage' : Stage) (i j : Nat) (e : Encounter), stage.meet? i j = some (stage', e) →
      stage'.sprites.map Sprite.voice = stage.sprites.map Sprite.voice := by
  have hruns := Drive.runs_after o p.settings (sprites.map Sprite.working) watcher p.stopRequested
  have hvoice := Drive.inVoice_after o p.settings (sprites.map Sprite.working) watcher
    p.stopRequested (by
      intro x hx
      obtain ⟨y, -, rfl⟩ := List.mem_map.mp hx
      rfl)
  refine ⟨?_, ?_, ?_, ?_⟩
  · intro m hm
    exact Drive.allWoken_after o p.settings _ watcher p.stopRequested (by rwa [List.length_map])
  · intro m hwoken i
    obtain ⟨us, hdeeds⟩ := Drive.deeds_after o p.settings (sprites.map Sprite.working) watcher
      p.stopRequested m
    have hids := congrArg (·[(i : Nat)]?) hdeeds.ids
    simp only [Session.sprites_opening, List.getElem?_map, List.getElem?_eq_getElem i.2,
      Option.map_some] at hids
    obtain ⟨x, hx, hid⟩ := Option.map_eq_some_iff.mp hids
    refine ⟨x, hx, hid, ?_⟩
    have hvoiced := hvoice m i x.voice (Session.getElem?_voices hx)
    unfold Drive.spoken?
    cases hr : ((Drive.opening p.settings (sprites.map Sprite.working) watcher
        p.stopRequested).after o p.settings m).plot.runner? i with
    | none =>
      rw [hr] at hvoiced
      exact .of_silent hvoiced
    | some r =>
      obtain ⟨b, hb⟩ := Option.isSome_iff_exists.mp (hwoken i r hr)
      obtain ⟨j, busy⟩ := r
      obtain rfl : busy = some b := hb
      rw [hr] at hvoiced
      exact .of_block hvoiced
  · intro m i t b htaken hbusy
    exact (hvoice m).complete (hruns m).reachable.onCourse htaken hbusy
  · intro stage stage' i j e h
    exact Stage.meet?_voices h

/-- When both have been woken, the dog speaks and is shown to. -/
theorem Player.runAll_voices_catAndDog : ∃ x,
    ((Drive.opening {} (catAndDog.map Sprite.working) () false).after .silent {}
      2).session.sprites[1]? = some x ∧ x.id = "dog" ∧ x.isSpeaking = true ∧
        x.transient.bubble.isSome = true := by
  have hspoken : (((Drive.opening {} (catAndDog.map Sprite.working) () false).after .silent {}
      2).spoken? 1).isSome = true := by decide +kernel
  obtain ⟨hwoken, hspeech, -, -⟩ := runAll_voices {} .silent catAndDog ()
  obtain ⟨x, hx, hid, hshows⟩ := hspeech 2 (hwoken 2 (by decide)) ⟨1, by decide⟩
  exact ⟨x, hx, hid, hshows.indicator.trans hspoken, hshows.bubble.trans hspoken⟩

end SpriteScript
