/-
  Signals: what two sprites that meet make visible for a while, and the alarms that end it.

  A sprite that has met another one flashes, and a banner is up. An alarm is set for each, with a
  number of its own and a wakeup that carries the number; it is set anew at the next meeting, and
  called off when the part of the sprite ends, which leaves its wakeup where it is.

  * `Meeting` is what a journal tells of two sprites that met, and `lastSet?` when an alarm was last
    set by a meeting;
  * `Signals` is what of a session bears on all this (`Session.signals`): `signals_tell`,
    `signals_start`, `signals_seed` and the like say what leaves it as it is;
  * `Signals.InStep`: what is visible, the alarms and the wakeups are in step, and
    `Signals.InStepBut` allows for alarms that are still to be set in a collision pass;
  * `InStep.clear`, `inStep_collide` and `Does.inStep`: **alarms that end or are called off,
    collisions and so all tasks keep them in step**;
  * `Drive.Rings` is what the task of an alarm comes to;
  * `runAll_signals`: **they are in step throughout a run, and an alarm goes off in time or not at
    all**.
-/
import SpriteScript.Proofs.Stopping

namespace SpriteScript

/-! ## Meetings -/

/-- Two sprites that met, by their ids, and when. -/
structure Meeting where
  time : Nat
  a : String
  b : String
  deriving DecidableEq, Repr, Inhabited

/-- The meeting that an entry tells of. -/
def Entry.meeting? (e : Entry) : Option Meeting :=
  match e.happening with
  | .told n => n.encounter?.map fun p => ⟨e.time, p.1.id, p.2.id⟩
  | .reached _ => none

/-- The meetings that a journal tells of, the latest first. -/
def Journal.meetings (j : Journal) : List Meeting := j.filterMap Entry.meeting?

namespace AlarmKey

/-- How long after it is set an alarm goes off. -/
def delay (cfg : Settings) : AlarmKey → Nat
  | flash _ => cfg.flashTime
  | banner => cfg.bannerTime

/-- Whether an alarm is set by a meeting, among sprites with some ids. -/
def setBy (ids : List String) (m : Meeting) : AlarmKey → Bool
  | flash i => ids[i]? = some m.a || ids[i]? = some m.b
  | banner => true

end AlarmKey

/-- When an alarm was set last, given all meetings so far, the latest first. -/
def lastSet? (ids : List String) (key : AlarmKey) (meetings : List Meeting) : Option Nat :=
  (meetings.find? fun m => key.setBy ids m).map (·.time)

section
variable {ids : List String} {key : AlarmKey} {new : List Meeting}

theorem lastSet?_append_of_exists {now : Nat} (hnow : ∀ m ∈ new, m.time = now)
    (hset : ∃ m ∈ new, key.setBy ids m = true) (old : List Meeting) :
    lastSet? ids key (new ++ old) = some now := by
  obtain ⟨m, hm⟩ := Option.isSome_iff_exists.mp (List.find?_isSome.mpr hset)
  rw [lastSet?, List.find?_append, hm]
  exact congrArg some (hnow m (List.mem_of_find?_eq_some hm))

theorem lastSet?_append_of_forall (hset : ∀ m ∈ new, key.setBy ids m = false)
    (old : List Meeting) : lastSet? ids key (new ++ old) = lastSet? ids key old := by
  have hnone : new.find? (fun m => key.setBy ids m) = none :=
    List.find?_eq_none.mpr fun m hm => by simp [hset m hm]
  rw [lastSet?, List.find?_append, hnone]
  rfl

end

/-! ## Signals -/

/-- What of a session bears on what is visible for a while. -/
structure Signals where
  now : Nat
  /-- Which of the sprites flash. -/
  flashes : List Bool
  /-- Whether the banner is up. -/
  banner : Bool
  alarms : Alarms
  /-- The wakeups for alarms. -/
  wakeups : List Wakeup
  meetings : List Meeting

/-- The signals of a session. -/
def Session.signals {σ : Type} (s : Session σ) : Signals where
  now := s.now
  flashes := s.sprites.map (·.transient.flash)
  banner := s.banner.isSome
  alarms := s.alarms
  wakeups := s.timeline.queue.filter (!·.task.isRunner)
  meetings := s.journal.meetings

namespace Signals

/-- Whether that is visible which an alarm ends. -/
def shows (g : Signals) : AlarmKey → Bool
  | .flash i => g.flashes[i]?.getD false
  | .banner => g.banner

/-- An alarm has ended, or is called off, and so has what it ends. -/
def clear (key : AlarmKey) (g : Signals) : Signals :=
  match key with
  | .flash i => { g with alarms := g.alarms.disarm key, flashes := g.flashes.set i false }
  | .banner => { g with alarms := g.alarms.disarm key, banner := false }

/-- What an alarm ends is visible just if the alarm is set, and then there is one wakeup with the
number of the alarm, which is due when its time since the latest meeting is over. -/
structure Fits (cfg : Settings) (ids : List String) (key : AlarmKey) (g : Signals) : Prop where
  shown : g.shows key = (g.alarms.current? key).isSome
  timed : ∀ number, g.alarms.current? key = some number → ∃ instant,
    lastSet? ids key g.meetings = some instant ∧
      g.wakeups.filter (fun w => w.task = .alarm key number) =
        [⟨after instant (key.delay cfg), .alarm key number⟩]

/-- No wakeup carries a number that has not been given out. -/
def Numbered (g : Signals) : Prop := ∀ key number, g.alarms.issued < number →
  g.wakeups.filter (fun w => w.task = .alarm key number) = []

/-- What is visible, the alarms and the wakeups are in step. -/
structure InStep (cfg : Settings) (ids : List String) (g : Signals) : Prop where
  fits : ∀ key, g.Fits cfg ids key
  numbered : g.Numbered

/-- Signals are in step but for some alarms, which are still to be set for a meeting that has just
been told of. -/
structure InStepBut (cfg : Settings) (ids : List String) (due : List AlarmKey) (g : Signals) :
    Prop where
  fits : ∀ key ∉ due, g.Fits cfg ids key
  met : ∀ key ∈ due, lastSet? ids key g.meetings = some g.now
  lit : ∀ i, .flash i ∈ due → g.shows (.flash i) = true
  numbered : g.Numbered

variable {cfg : Settings} {ids : List String} {key : AlarmKey} {due : List AlarmKey} {g : Signals}

theorem InStepBut.inStep (h : g.InStepBut cfg ids []) : g.InStep cfg ids :=
  ⟨fun key => h.fits key List.not_mem_nil, h.numbered⟩

@[simp] theorem alarms_clear : (g.clear key).alarms = g.alarms.disarm key := by cases key <;> rfl

@[simp] theorem wakeups_clear : (g.clear key).wakeups = g.wakeups := by cases key <;> rfl

@[simp] theorem meetings_clear : (g.clear key).meetings = g.meetings := by cases key <;> rfl

theorem shows_clear (other : AlarmKey) :
    (g.clear key).shows other = if other = key then false else g.shows other := by
  cases key with
  | banner => cases other <;> rfl
  | flash i =>
    cases other with
    | banner => rfl
    | flash j =>
      simp only [clear, shows, List.getElem?_set, AlarmKey.flash.injEq]
      by_cases hij : j = i
      · subst hij
        by_cases hj : j < g.flashes.length <;> simp [hj]
      · rw [if_neg hij, if_neg (Ne.symm hij)]

/-- **When an alarm has ended or is called off, all others are in step as before.** -/
theorem InStep.clear (h : ∀ other ≠ key, g.Fits cfg ids other) (hnumbered : g.Numbered) :
    (g.clear key).InStep cfg ids where
  fits other := by
    by_cases hother : other = key
    · subst hother
      constructor
      case shown => rw [shows_clear, if_pos rfl, alarms_clear, Alarms.current?_disarm, if_pos rfl]; rfl
      case timed =>
        intro number hnumber
        rw [alarms_clear, Alarms.current?_disarm, if_pos rfl] at hnumber
        simp at hnumber
    · have hfits := h other hother
      constructor
      case shown =>
        rw [shows_clear, if_neg hother, alarms_clear, Alarms.current?_disarm, if_neg hother,
          hfits.shown]
      case timed =>
        intro number hnumber
        rw [alarms_clear, Alarms.current?_disarm, if_neg hother] at hnumber
        rw [meetings_clear, wakeups_clear]
        exact hfits.timed number hnumber
  numbered other number hissued := by
    rw [alarms_clear] at hissued
    rw [wakeups_clear]
    exact hnumbered other number hissued

/-! ### A wakeup is taken -/

section
variable {number instant : Nat} {rest : List Wakeup}
  (hfirst : g.wakeups = ⟨instant, .alarm key number⟩ :: rest)
include hfirst

theorem Numbered.take (h : g.Numbered) :
    ({ g with now := instant, wakeups := rest } : Signals).Numbered := by
  intro other n hissued
  have hnone := h other n hissued
  rw [hfirst, List.filter_cons] at hnone
  split at hnone
  · simp at hnone
  · exact hnone

/-- A wakeup counts for nothing but the alarm that was last set with its number. -/
theorem Fits.take {other : AlarmKey} (h : g.Fits cfg ids other)
    (hother : other = key → g.alarms.current? other ≠ some number) :
    ({ g with now := instant, wakeups := rest } : Signals).Fits cfg ids other where
  shown := h.shown
  timed n hn := by
    obtain ⟨t, ht, hone⟩ := h.timed n hn
    refine ⟨t, ht, ?_⟩
    have htask : ¬Task.alarm key number = .alarm other n := by
      intro heq
      obtain ⟨rfl, rfl⟩ := Task.alarm.inj heq
      exact hother rfl hn
    rwa [hfirst, List.filter_cons, if_neg (by simpa using htask)] at hone

end

/-! ### Alarms are set -/

/-- The banner goes up before its alarm is set. -/
theorem InStepBut.raise (h : g.InStepBut cfg ids due) (hmem : .banner ∈ due) :
    ({ g with banner := true } : Signals).InStepBut cfg ids due where
  fits key hkey := by
    have hfits := h.fits key hkey
    cases key with
    | flash i => exact ⟨hfits.shown, hfits.timed⟩
    | banner => exact absurd hmem hkey
  met := h.met
  lit := h.lit
  numbered := h.numbered

end Signals

/-! ## What leaves signals as they are -/

theorem Sprite.flash_animate (x : Sprite) (kind : Option BlockKind) :
    (x.animate kind).transient.flash = x.transient.flash := rfl

theorem Sprite.flash_withBubble (x : Sprite) (bubble : Option Bubble) :
    (x.withBubble bubble).transient.flash = x.transient.flash := rfl

namespace Session

variable {σ : Type} (o : Observer σ) (cfg : Settings) (s : Session σ)

theorem signals_reach (m : Milestone) : (s.reach m).signals = s.signals := rfl

theorem signals_tell {n : Notice} (hn : n.encounter? = none) : (s.tell o n).signals = s.signals := by
  have hnone : Entry.meeting? ⟨s.now, .told n⟩ = none := by
    rw [Entry.meeting?]
    exact congrArg (Option.map _) hn
  exact congrArg (fun ms => { s.signals with meetings := ms }) (List.filterMap_cons_none hnone)

theorem signals_tellOf (i : Nat) {n : Sprite → Notice} (hn : ∀ x, (n x).encounter? = none) :
    (s.tellOf o i n).signals = s.signals := by
  unfold tellOf
  split
  · exact signals_tell o s (hn _)
  · rfl

theorem signals_update (i : Nat) : (s.update o i).signals = s.signals :=
  signals_tellOf o s i fun _ => rfl

theorem signals_reachOf (i : Nat) (m : String → Milestone) :
    (s.reachOf i m).signals = s.signals := by
  unfold reachOf
  split
  · exact signals_reach s _
  · rfl

theorem signals_modifySprite {f : Sprite → Sprite}
    (hf : ∀ x, (f x).transient.flash = x.transient.flash) (i : Nat) :
    (s.modifySprite i f).signals = s.signals :=
  congrArg (fun fs => { s.signals with flashes := fs }) (map_modify_of_eq hf i s.sprites)

theorem signals_speak (i : Nat) (kind : SpeechKind) (text : String) (ms : Nat) :
    (s.speak o i kind text ms).signals = s.signals := by
  unfold speak
  rw [signals_tellOf o _ i fun _ => rfl, signals_modifySprite _ (Sprite.flash_withBubble · _)]

theorem signals_start (i : Nat) (b : Block) : (s.start o cfg i b).signals = s.signals := by
  have hmoves : (((({ s with started := s.started + 1 } : Session σ).modifySprite i
      (·.animate (some b.kind))).reachOf i (.blockStarted i · b)).modifySprite i fun x =>
        { x with pose := (b.action cfg).apply x.pose }).signals = s.signals := by
    have hpose (x : Sprite) : ({ x with pose := (b.action cfg).apply x.pose } :
      Sprite).transient.flash = x.transient.flash := rfl
    rw [signals_modifySprite _ hpose, signals_reachOf,
      signals_modifySprite _ (Sprite.flash_animate · _)]
    rfl
  unfold start
  dsimp only
  split
  · rw [signals_speak, signals_update, hmoves]
  · rw [signals_update, hmoves]

theorem signals_seed (i : Nat) : (s.seed cfg i).signals = s.signals := by
  unfold seed
  split <;> rfl

theorem signals_noteStranded (i : Nat) (x : Sprite) : (s.noteStranded i x).signals = s.signals := by
  unfold noteStranded
  dsimp only
  split <;> rfl

theorem signals_schedule (delay i : Nat) :
    ({ s with timeline := s.timeline.schedule delay (.runner i) } : Session σ).signals =
      s.signals :=
  congrArg (fun ws => { s.signals with wakeups := ws })
    (filter_insertWakeup_of_neg rfl s.timeline.queue)

/-! ## What clears a signal -/

theorem signals_modifySprite_of_clear {f : Sprite → Sprite}
    (hf : ∀ x, (f x).transient.flash = false) (i : Nat) :
    (s.modifySprite i f).signals =
      { s.signals with flashes := s.signals.flashes.set i false } := by
  have hset : (s.sprites.modify i f).map (·.transient.flash) =
      (s.sprites.map (·.transient.flash)).set i false := by
    ext1 k
    simp only [List.getElem?_map, List.getElem?_modify, List.getElem?_set, List.length_map]
    by_cases hik : i = k
    · subst hik
      by_cases hi : i < s.sprites.length <;> simp [hi, hf]
    · simp [hik]
  exact congrArg (fun fs => { s.signals with flashes := fs }) hset

/-- An alarm that goes off ends what it is for, and nothing else. -/
theorem signals_ring {key : AlarmKey} {number : Nat}
    (h : s.alarms.current? key = some number) :
    (s.ring o key number).signals = s.signals.clear key := by
  have hfire : s.alarms.fire key number = (true, s.alarms.disarm key) := by
    rw [Alarms.fire, if_pos h]
  rw [ring, hfire]
  cases key with
  | flash i =>
    dsimp only
    rw [signals_update, signals_modifySprite_of_clear _ fun _ => rfl]
    rfl
  | banner => exact signals_tell o _ rfl

/-- **An alarm that was set anew or called off does not go off.** -/
theorem ring_of_ne {key : AlarmKey} {number : Nat} (h : s.alarms.current? key ≠ some number) :
    s.ring o key number = s := by
  rw [ring, Alarms.fire, if_neg h]

theorem signals_finish (i : Nat) : (s.finish o i).signals = s.signals.clear (.flash i) := by
  unfold finish
  dsimp only
  rw [signals_update, signals_reachOf, signals_modifySprite_of_clear _ fun _ => rfl]
  rfl

end Session

/-! ## Collision passes -/

/-- The alarms that are set when two sprites meet. -/
def Encounter.alarms (e : Encounter) : List AlarmKey := [.flash e.i, .flash e.j, .banner]

/-- The meeting of two sprites that met. -/
def Encounter.meeting (now : Nat) (e : Encounter) : Meeting := ⟨now, e.a.id, e.b.id⟩

/-- A pass from the stage `stage` to `stage'` keeps the ids of sprites, names those that met by
them, and makes them flash. -/
structure Stage.Lights (stage : Stage) (es : List Encounter) (stage' : Stage) : Prop where
  ids : stage'.sprites.map (·.id) = stage.sprites.map (·.id)
  names : ∀ e ∈ es, (stage.sprites.map (·.id))[e.i]? = some e.a.id ∧
    (stage.sprites.map (·.id))[e.j]? = some e.b.id
  flashes : ∀ k : Nat, (stage'.sprites.map (·.transient.flash))[k]? =
    (stage.sprites.map (·.transient.flash))[k]?.map
      (· || es.any fun e => .flash k ∈ e.alarms)

namespace Stage

theorem Lights.refl (stage : Stage) : stage.Lights [] stage where
  ids := rfl
  names := by simp
  flashes k := by
    cases (stage.sprites.map (·.transient.flash))[k]? <;> simp

theorem Lights.trans {stage stage' stage'' : Stage} {es es' : List Encounter}
    (h : stage.Lights es stage') (h' : stage'.Lights es' stage'') :
    stage.Lights (es ++ es') stage'' where
  ids := h'.ids.trans h.ids
  names e he := by
    rcases List.mem_append.mp he with he | he
    · exact h.names e he
    · exact h.ids ▸ h'.names e he
  flashes k := by
    rw [h'.flashes, h.flashes, Option.map_map]
    refine congrArg (Option.map · _) ?_
    funext flash
    simp only [Function.comp, List.any_append, Bool.or_assoc]

theorem meet?_lights {stage stage' : Stage} {i j : Nat} {e : Encounter} (hne : i ≠ j)
    (h : stage.meet? i j = some (stage', e)) : stage.Lights [e] stage' := by
  obtain ⟨a, b, ha, hb, rfl, rfl, hexchange, hsprites⟩ := meet?_eq_some h
  obtain ⟨hida, hidb⟩ := Session.exchange_id hexchange
  have hflasha : true = e.a.transient.flash := congrArg (·.1.transient.flash) hexchange
  have hflashb : true = e.b.transient.flash := congrArg (·.2.transient.flash) hexchange
  have hi := (List.getElem?_eq_some_iff.mp ha).1
  have hj := (List.getElem?_eq_some_iff.mp hb).1
  constructor
  case ids =>
    have hb' : (stage.sprites.set e.i e.a)[e.j]? = some b := by rwa [List.getElem?_set_ne hne]
    rw [hsprites, map_id_set hb' hidb, map_id_set ha hida]
  case names =>
    intro e' he'
    rw [List.mem_singleton.mp he', List.getElem?_map, List.getElem?_map, ha, hb, hida, hidb]
    exact ⟨rfl, rfl⟩
  case flashes =>
    intro k
    simp only [hsprites, List.map_set, ← hflasha, ← hflashb, List.getElem?_set, List.length_set,
      List.length_map, List.any_cons, List.any_nil, Bool.or_false, Encounter.alarms]
    by_cases hjk : e.j = k
    · subst hjk
      simp [hj]
    · by_cases hik : e.i = k
      · subst hik
        simp [hi, hjk]
      · simp [hik, hjk, Ne.symm hik, Ne.symm hjk, Function.comp_def]

/-- **Those sprites flash after a pass that met another one in it**, and those that did before. -/
theorem visit_lights (ps : List (Nat × Nat)) (hps : ∀ ij ∈ ps, ij.1 < ij.2) (stage : Stage) :
    stage.Lights (stage.visit ps).2 (stage.visit ps).1 := by
  induction ps generalizing stage with
  | nil => exact .refl stage
  | cons ij rest ih =>
    obtain ⟨i, j⟩ := ij
    have hrest : ∀ ij ∈ rest, ij.1 < ij.2 := by
      intro ij hij; exact hps ij (List.mem_cons_of_mem _ hij)
    have hlt : i < j := hps (i, j) List.mem_cons_self
    rw [visit]
    cases hmeet : stage.meet? i j with
    | none => exact ih hrest stage
    | some r =>
      obtain ⟨stage', e⟩ := r
      exact (meet?_lights (Nat.ne_of_lt hlt) hmeet).trans (ih hrest stage')

end Stage

/-- A meeting sets the alarms of the two sprites and of the banner. -/
theorem setBy_meeting {ids : List String} {e : Encounter} (hids : ids.Nodup)
    (ha : ids[e.i]? = some e.a.id) (hb : ids[e.j]? = some e.b.id) (now : Nat) (key : AlarmKey) :
    key.setBy ids (e.meeting now) = true ↔ key ∈ e.alarms := by
  have hplace (i k : Nat) (id : String) (hi : ids[i]? = some id) :
      ids[k]? = some id ↔ k = i := by
    constructor
    · intro hk
      have hlt := (List.getElem?_eq_some_iff.mp hk).1
      exact (List.getElem?_inj hlt hids).mp (hk.trans hi.symm)
    · rintro rfl
      exact hi
  cases key with
  | banner => simp [AlarmKey.setBy, Encounter.alarms]
  | flash k =>
    simp [AlarmKey.setBy, Encounter.alarms, Encounter.meeting, hplace e.i k _ ha,
      hplace e.j k _ hb]

namespace Session

variable {σ : Type} (o : Observer σ) {cfg : Settings} {ids : List String} {key : AlarmKey}
  {due : List AlarmKey} {s : Session σ}

/-! ### Alarms are set -/

theorem wakeups_filter (s : Session σ) (key : AlarmKey) (number : Nat) :
    s.signals.wakeups.filter (fun w => w.task = .alarm key number) =
      s.timeline.queue.filter fun w => w.task = .alarm key number := by
  rw [signals, List.filter_filter]
  refine List.filter_congr ?_
  intro w _
  by_cases hw : w.task = .alarm key number <;> simp [hw, Task.isRunner]

theorem wakeups_arm_of_ne (key : AlarmKey) (delay : Nat) {other : AlarmKey} {number : Nat}
    (hne : Task.alarm key (s.alarms.issued + 1) ≠ .alarm other number) :
    (s.arm key delay).signals.wakeups.filter (fun w => w.task = .alarm other number) =
      s.signals.wakeups.filter fun w => w.task = .alarm other number := by
  rw [wakeups_filter, wakeups_filter]
  exact filter_insertWakeup_of_neg (by simpa using hne) _

theorem wakeups_arm_self (delay : Nat) (h : s.signals.Numbered) :
    (s.arm key delay).signals.wakeups.filter
        (fun w => w.task = .alarm key (s.alarms.issued + 1)) =
      [⟨after s.now delay, .alarm key (s.alarms.issued + 1)⟩] := by
  have hnone := h key _ (Nat.lt_succ_self s.alarms.issued)
  rw [wakeups_filter] at hnone ⊢
  exact filter_insertWakeup_self hnone

/-- **An alarm that is set is in step**, if what it ends is visible. -/
theorem inStepBut_arm (h : s.signals.InStepBut cfg ids (key :: due))
    (hshows : s.signals.shows key = true) :
    (s.arm key (key.delay cfg)).signals.InStepBut cfg ids due where
  fits other hother := by
    have hcurrent : (s.arm key (key.delay cfg)).signals.alarms.current? other =
        if other = key then some (s.alarms.issued + 1) else s.alarms.current? other :=
      Alarms.current?_arm s.alarms key other
    have hsame : (s.arm key (key.delay cfg)).signals.shows other = s.signals.shows other := by
      cases other <;> rfl
    by_cases hkey : other = key
    · subst hkey
      rw [if_pos rfl] at hcurrent
      constructor
      case shown => rw [hsame, hshows, hcurrent]; rfl
      case timed =>
        intro number hnumber
        rw [hcurrent] at hnumber
        obtain rfl := Option.some.inj hnumber
        exact ⟨s.now, h.met other List.mem_cons_self, wakeups_arm_self _ h.numbered⟩
    · rw [if_neg hkey] at hcurrent
      have hfits := h.fits other (by simp [hkey, hother])
      constructor
      case shown => rw [hsame, hcurrent]; exact hfits.shown
      case timed =>
        intro number hnumber
        rw [hcurrent] at hnumber
        rw [wakeups_arm_of_ne]
        · exact hfits.timed number hnumber
        · intro heq
          exact hkey (Task.alarm.inj heq).1.symm
  met other hother := h.met other (List.mem_cons_of_mem _ hother)
  lit i hi := h.lit i (List.mem_cons_of_mem _ hi)
  numbered other number hissued := by
    have hissued' : s.alarms.issued + 1 < number := hissued
    rw [wakeups_arm_of_ne]
    · exact h.numbered other number (Nat.lt_of_succ_lt hissued')
    · intro heq
      have hnumber := (Task.alarm.inj heq).2
      omega

theorem inStepBut_followEncounter {e : Encounter}
    (h : s.signals.InStepBut cfg ids (e.alarms ++ due)) :
    (s.followEncounter o cfg e).signals.InStepBut cfg ids due := by
  unfold followEncounter
  rw [signals_noteStranded, signals_noteStranded]
  generalize hs' : ({ Session.tell o (.banner (some (bannerText e.a e.b))) _ with
    banner := some (bannerText e.a e.b) } : Session σ) = s'
  have hraise : s'.signals = { s.signals with banner := true } := by
    rw [← hs']
    rfl
  have hbanner : .banner ∈ e.alarms ++ due := by simp [Encounter.alarms]
  have hraised : s'.signals.InStepBut cfg ids (e.alarms ++ due) := hraise ▸ h.raise hbanner
  have hfst := inStepBut_arm hraised (hraised.lit e.i List.mem_cons_self)
  have hsnd := inStepBut_arm hfst (hfst.lit e.j List.mem_cons_self)
  refine inStepBut_arm hsnd ?_
  exact congrArg Signals.banner hraise

theorem inStepBut_foldl_followEncounter (es : List Encounter) (s : Session σ)
    (h : s.signals.InStepBut cfg ids (es.flatMap Encounter.alarms ++ due)) :
    (es.foldl (followEncounter o cfg) s).signals.InStepBut cfg ids due := by
  induction es generalizing s with
  | nil => exact h
  | cons e es ih =>
    rw [List.flatMap_cons, List.append_assoc] at h
    exact ih _ (inStepBut_followEncounter o h)

/-! ### Encounters are told of -/

theorem signals_tellEncounter (s : Session σ) (e : Encounter) :
    (s.tellEncounter o e).signals =
      { s.signals with meetings := e.meeting s.now :: s.signals.meetings } := rfl

theorem signals_foldl_tellEncounter (es : List Encounter) (s : Session σ) :
    (es.foldl (tellEncounter o) s).signals = { s.signals with
      meetings := (es.map (Encounter.meeting s.now)).reverse ++ s.signals.meetings } := by
  induction es generalizing s with
  | nil => rfl
  | cons e es ih =>
    have hnow : (s.tellEncounter o e).now = s.now := rfl
    rw [List.foldl_cons, ih, signals_tellEncounter, hnow]
    simp

/-- What a pass has told of, and lit, before any alarm is set. -/
theorem inStepBut_foldl_tellEncounter (hids : ids.Nodup) (hsame : s.sprites.map (·.id) = ids)
    (h : s.signals.InStep cfg ids) {stage : Stage} {es : List Encounter}
    (hlights : s.stage.Lights es stage) :
    (es.foldl (tellEncounter o) { s with stage }).signals.InStepBut cfg ids
      (es.flatMap Encounter.alarms) := by
  have hsets (e : Encounter) (he : e ∈ es) (key : AlarmKey) :
      key.setBy ids (e.meeting s.now) = true ↔ key ∈ e.alarms := by
    obtain ⟨ha, hb⟩ := hlights.names e he
    exact setBy_meeting hids (hsame ▸ ha) (hsame ▸ hb) s.now key
  have hshows (i : Nat) : ({ s with stage } : Session σ).signals.shows (.flash i) =
      (s.signals.flashes[i]?.map (· || es.any fun e => .flash i ∈ e.alarms)).getD false :=
    congrArg (·.getD false) (hlights.flashes i)
  rw [signals_foldl_tellEncounter]
  constructor
  case fits =>
    intro key hkey
    have hnone : ∀ e ∈ es, key ∉ e.alarms := by
      intro e he hmem
      exact hkey (List.mem_flatMap.mpr ⟨e, he, hmem⟩)
    have hfits := h.fits key
    constructor
    case shown =>
      refine Eq.trans ?_ hfits.shown
      cases key with
      | banner => rfl
      | flash i =>
        have hany : (es.any fun e => .flash i ∈ e.alarms) = false := by simpa using hnone
        refine (hshows i).trans ?_
        rw [hany]
        simp [Signals.shows]
    case timed =>
      intro number hnumber
      obtain ⟨instant, hinstant, hone⟩ := hfits.timed number hnumber
      refine ⟨instant, ?_, hone⟩
      rw [lastSet?_append_of_forall]
      · exact hinstant
      · intro m hm
        obtain ⟨e, he, rfl⟩ := List.mem_map.mp (List.mem_reverse.mp hm)
        exact Bool.eq_false_iff.mpr fun hset => hnone e he ((hsets e he key).mp hset)
  case met =>
    intro key hkey
    obtain ⟨e, he, hmem⟩ := List.mem_flatMap.mp hkey
    refine lastSet?_append_of_exists ?_ ?_ _
    · intro m hm
      obtain ⟨e', -, rfl⟩ := List.mem_map.mp (List.mem_reverse.mp hm)
      rfl
    · exact ⟨_, List.mem_reverse.mpr (List.mem_map_of_mem he), (hsets e he key).mpr hmem⟩
  case lit =>
    intro i hi
    obtain ⟨e, he, hmem⟩ := List.mem_flatMap.mp hi
    obtain ⟨ha, hb⟩ := hlights.names e he
    have hany : (es.any fun e => .flash i ∈ e.alarms) = true :=
      List.any_eq_true.mpr ⟨e, he, by simpa using hmem⟩
    have hplace : i = e.i ∨ i = e.j := by simpa [Encounter.alarms] using hmem
    have hlt : i < s.stage.sprites.length := by
      rcases hplace with rfl | rfl
      · simpa using (List.getElem?_eq_some_iff.mp ha).1
      · simpa using (List.getElem?_eq_some_iff.mp hb).1
    refine (hshows i).trans ?_
    rw [hany, signals, sprites]
    simp [hlt]
  case numbered => exact h.numbered

/-- **A collision pass keeps signals in step.** -/
theorem inStep_collide (hids : ids.Nodup) (hsame : s.sprites.map (·.id) = ids)
    (h : s.signals.InStep cfg ids) : (s.collide o cfg).signals.InStep cfg ids := by
  have hlights := s.stage.visit_lights (placePairs s.stage.sprites.length)
    fun _ => lt_of_mem_placePairs
  refine (inStepBut_foldl_followEncounter o _ _ ?_).inStep
  rw [List.append_nil]
  exact inStepBut_foldl_tellEncounter o hids hsame h hlights

theorem inStep_complete (hids : ids.Nodup) (hsame : s.sprites.map (·.id) = ids) (i : Nat)
    (b : Block) (h : s.signals.InStep cfg ids) : (s.complete o cfg i b).signals.InStep cfg ids := by
  unfold complete
  dsimp only
  split
  · next kind _ =>
    have hsame' : ((s.modifySprite i (·.withBubble none)).tellOf o i
        (.speech kind · "" 0)).sprites.map (·.id) = ids := by
      have hmodify : (s.modifySprite i (·.withBubble none)).sprites.map (·.id) = ids :=
        (map_modify_of_eq (f := (·.withBubble none)) (g := (·.id)) (fun _ => rfl) i s.sprites).trans hsame
      unfold tellOf
      split
      · exact hmodify
      · exact hmodify
    refine inStep_collide o hids hsame' ?_
    rw [signals_tellOf o _ i fun _ => rfl, signals_modifySprite _ (Sprite.flash_withBubble · _)]
    exact h
  · exact inStep_collide o hids hsame h

end Session

/-! ## Tasks -/

namespace Drive

variable {σ : Type} {o : Observer σ} {cfg : Settings} {sprites : List Sprite} {ids : List String}
  {d t d' : Drive σ ScriptRunner}

theorem signals_tellTime (d : Drive σ ScriptRunner) :
    (d.tellTime o).session.signals = d.session.signals := by
  unfold tellTime
  dsimp only
  split
  · rfl
  · exact Session.signals_tell o _ rfl

theorem Ticks.signals {due : Nat} {task : Task} {timeline : Timeline}
    (h : Ticks o due task timeline d t) : t.session.signals = { d.session.signals with
      now := due, wakeups := timeline.queue.filter (!·.task.isRunner) } := by
  have hnow : timeline.now = due := by
    have hscene := congrArg Scene.now h.scene
    rw [h.told] at hscene
    exact (now_tellTime (o := o) _).symm.trans hscene
  rw [h.told, signals_tellTime, ← hnow]
  rfl

/-- What comes first is a wakeup for an alarm. -/
theorem Ticks.first_alarm {due number : Nat} {key : AlarmKey} {timeline : Timeline}
    (h : Ticks o due (.alarm key number) timeline d t) :
    d.session.signals.wakeups =
      ⟨due, .alarm key number⟩ :: timeline.queue.filter (!·.task.isRunner) := by
  show d.session.timeline.queue.filter (!·.task.isRunner) = _
  rw [h.first]
  rfl

/-- **An alarm that goes off, or is out of date, leaves signals in step.** -/
theorem Ticks.inStep_ring {due number : Nat} {key : AlarmKey} {timeline : Timeline}
    (h : Ticks o due (.alarm key number) timeline d t) (hstep : d.session.signals.InStep cfg ids) :
    (t.session.ring o key number).signals.InStep cfg ids := by
  have hnumbered := hstep.numbered.take h.first_alarm
  have hfits (other : AlarmKey) := (hstep.fits other).take h.first_alarm
  rw [← h.signals] at hnumbered hfits
  have halarms : t.session.alarms = d.session.alarms := h.alarms
  by_cases hcurrent : t.session.alarms.current? key = some number
  · rw [Session.signals_ring o _ hcurrent]
    refine Signals.InStep.clear ?_ hnumbered
    intro other hother
    exact hfits other fun heq => absurd heq hother
  · rw [Session.ring_of_ne o _ hcurrent]
    refine ⟨?_, hnumbered⟩
    intro other
    refine hfits other ?_
    rintro rfl
    show d.session.alarms.current? other ≠ some number
    rwa [← halarms]

theorem Ticks.inStep_runner {due i : Nat} {timeline : Timeline}
    (h : Ticks o due (.runner i) timeline d t) (hstep : d.session.signals.InStep cfg ids) :
    t.session.signals.InStep cfg ids := by
  have hwakeups : d.session.signals.wakeups = timeline.queue.filter (!·.task.isRunner) := by
    show d.session.timeline.queue.filter (!·.task.isRunner) = _
    rw [h.first]
    rfl
  rw [h.signals, ← hwakeups]
  exact ⟨fun key => ⟨(hstep.fits key).shown, (hstep.fits key).timed⟩, hstep.numbered⟩

/-- A runner that is woken ends its block in step, or fills its queue. -/
theorem Woken.inStep {i : Nat} {r : ScriptRunner} {s : Session σ} (h : Woken o cfg d t i r s)
    (hids : ids.Nodup) (hsame : d.session.sprites.map (·.id) = ids)
    (hstep : d.session.signals.InStep cfg ids) : s.signals.InStep cfg ids := by
  obtain ⟨timeline, hticks⟩ := h.ticks
  have htick := hticks.inStep_runner hstep
  have hdeeds : d.session.Deeds o cfg [] t.session := hticks.deeds
  have hsame' : t.session.sprites.map (·.id) = ids := hdeeds.ids.trans hsame
  obtain ⟨j, busy⟩ := r
  rw [h.found]
  cases busy with
  | none => exact (Session.signals_seed cfg t.session j) ▸ htick
  | some b => exact Session.inStep_complete o hids hsame' j b htick

/-- **Each task leaves signals in step**, as long as no stop is asked for. -/
theorem Does.inStep (h : Does o cfg d d') (hids : ids.Nodup)
    (hsame : d.session.sprites.map (·.id) = ids) (hstop : d'.session.stopping = false)
    (hstep : d.session.signals.InStep cfg ids) : d'.session.signals.InStep cfg ids := by
  cases h with
  | @alarm due number key timeline t hticks =>
    rw [Session.stopping_heedStop] at hstop
    rw [Session.heedStop_of_not _ hstop]
    exact hticks.inStep_ring hstep
  | @finish t i r s hwoken hpop =>
    rw [Session.stopping_heedStop] at hstop
    have hfound := hwoken.inStep hids hsame hstep
    rw [Session.heedStop_of_not _ hstop, Session.signals_finish]
    exact Signals.InStep.clear (fun other _ => hfound.fits other) hfound.numbered
  | @start t i r b s s' hwoken hasked hpop =>
    rw [Session.stopping_heedStop] at hstop
    have hfound := hwoken.inStep hids hsame hstep
    obtain ⟨queues, rfl⟩ := s.eq_of_pop? hpop
    rw [Session.heedStop_of_not _ hstop, Session.signals_schedule, Session.signals_start]
    exact hfound

/-- What a task for an alarm comes to: nothing, if the alarm was set anew or called off; otherwise it
is carried out when the time of the alarm since the latest meeting that set it is over, and ends what
is visible. -/
inductive Rings (o : Observer σ) (cfg : Settings) (ids : List String) (key : AlarmKey)
    (number : Nat) (d t : Drive σ ScriptRunner) : Prop where
  | stale : d.session.alarms.current? key ≠ some number →
      t.session.ring o key number = t.session → Rings o cfg ids key number d t
  | due {instant : Nat} : d.session.alarms.current? key = some number →
      lastSet? ids key d.session.journal.meetings = some instant →
      t.session.now = SpriteScript.after instant (key.delay cfg) → t.session.signals.shows key = true →
      (t.session.ring o key number).signals = t.session.signals.clear key →
      Rings o cfg ids key number d t

/-- **An alarm goes off in time or not at all.** -/
theorem Ticks.rings {due number : Nat} {key : AlarmKey} {timeline : Timeline}
    (h : Ticks o due (.alarm key number) timeline d t)
    (hstep : d.session.stopping = false → d.session.signals.InStep cfg ids)
    (hcalled : d.session.stopping = true → d.session.alarms.armed = []) :
    Rings o cfg ids key number d t := by
  have halarms : t.session.alarms = d.session.alarms := h.alarms
  by_cases hcurrent : d.session.alarms.current? key = some number
  · have hstop : d.session.stopping = false := by
      rw [Bool.eq_false_iff]
      intro hasked
      rw [Alarms.current?, hcalled hasked] at hcurrent
      simp at hcurrent
    have hfits := (hstep hstop).fits key
    obtain ⟨instant, hinstant, hone⟩ := hfits.timed number hcurrent
    rw [h.first_alarm, List.filter_cons, if_pos (by simp)] at hone
    obtain ⟨hdue, -⟩ := Wakeup.mk.inj (List.cons.inj hone).1
    refine .due hcurrent hinstant ?_ ?_ ?_
    · exact (congrArg Signals.now h.signals).trans hdue
    · have hshows : d.session.signals.shows key = true := by
        rw [hfits.shown]
        exact Option.isSome_iff_exists.mpr ⟨number, hcurrent⟩
      rw [h.signals]
      cases key <;> exact hshows
    · exact Session.signals_ring o _ (halarms ▸ hcurrent)
  · exact .stale hcurrent (Session.ring_of_ne o _ (halarms ▸ hcurrent))

end Drive

/-! ## The whole run -/

theorem Drive.Runs.ids {σ : Type} {cfg : Settings} {sprites : List Sprite}
    {d : Drive σ ScriptRunner} (h : d.Runs cfg sprites) :
    d.session.sprites.map (·.id) = sprites.map (·.id) := by
  have hroles := congrArg (List.map Sprite.id) h.reachable.onCourse.roles
  simpa [Drive.plot, Session.scene, Sprite.role, Sprite.calm, Function.comp_def] using hroles

section
variable {σ : Type} (o : Observer σ) (cfg : Settings) (sprites : List Sprite) (watcher : σ)
  (stopping : Bool) (ids : List String)

/-- As a run begins nothing is visible, and no alarm is set. -/
theorem Session.inStep_opening (hcalm : ∀ x ∈ sprites, x.transient.flash = false) :
    (Drive.opening cfg sprites watcher stopping).session.signals.InStep cfg ids := by
  rw [Drive.session_opening]
  constructor
  case fits =>
    intro key
    constructor
    case shown =>
      cases key with
      | banner => rfl
      | flash i =>
        show ((sprites.map (·.transient.flash))[i]?.getD false) = false
        rw [List.getElem?_map]
        cases hi : sprites[i]? with
        | none => rfl
        | some x => exact hcalm x (List.mem_of_getElem? hi)
    case timed => intro number hnumber; simp [signals, Alarms.current?, reach, record, begin] at hnumber
  case numbered =>
    intro key number _
    rw [wakeups_filter]
    simp

/-- **Signals are in step between any two tasks**, as long as no stop is asked for. -/
theorem Drive.inStep_after (hids : (sprites.map (·.id)).Nodup)
    (hcalm : ∀ x ∈ sprites, x.transient.flash = false) (n : Nat)
    (h : ((Drive.opening cfg sprites watcher stopping).after o cfg n).session.stopping = false) :
    ((Drive.opening cfg sprites watcher stopping).after o cfg n).session.signals.InStep cfg
      (sprites.map (·.id)) := by
  refine runs_induction o cfg sprites watcher stopping (motive := fun d =>
    d.session.stopping = false → d.session.signals.InStep cfg (sprites.map (·.id))) ?_ ?_ n h
  · intro _
    exact Session.inStep_opening cfg sprites watcher stopping _ hcalm
  · intro d d' hruns hstep ih hstop
    have hbefore := (hruns.goes o hstep).quiet hstop
    exact (hruns.does hstep).inStep hids hruns.ids hstop (ih hbefore)

end

/-- **Signals are in step throughout a run, and an alarm goes off in time or not at all.** Between
any two tasks, as long as no stop is asked for, a sprite flashes just if the alarm is set that ends
it, and so for the banner; there is one wakeup with the number of an alarm that is set, and it is due
when the time of the alarm since the latest meeting that set it is over. When a stop is asked for no
alarm is set. So the task of an alarm does nothing if the alarm was set anew or called off, and
otherwise ends what is visible at just that instant. -/
theorem Player.runAll_signals {σ : Type} (p : Player) (o : Observer σ) (sprites : List Sprite)
    (watcher : σ) (hids : (sprites.map (·.id)).Nodup) :
    let opening := Drive.opening p.settings (sprites.map Sprite.working) watcher p.stopRequested
    let ids := sprites.map (·.id)
    (∀ m, (opening.after o p.settings m).session.stopping = false →
      (opening.after o p.settings m).session.signals.InStep p.settings ids) ∧
    (∀ m, (opening.after o p.settings m).session.stopping = true →
      (opening.after o p.settings m).session.alarms.armed = []) ∧
    ∀ m d key number t, (opening.after o p.settings m).step o p.settings = some d →
      (opening.after o p.settings m).taken? o = some (.alarm key number, t) →
      (opening.after o p.settings m).Rings o p.settings ids key number t := by
  have hsame : (sprites.map Sprite.working).map (·.id) = sprites.map (·.id) := by
    rw [List.map_map]
    rfl
  have hcalm : ∀ x ∈ sprites.map Sprite.working, x.transient.flash = false := by
    intro x hx
    obtain ⟨y, -, rfl⟩ := List.mem_map.mp hx
    rfl
  have hstep (m : Nat) := Drive.inStep_after o p.settings (sprites.map Sprite.working) watcher
    p.stopRequested (hsame ▸ hids) hcalm m
  have hcalled (m : Nat) := Drive.armed_after o p.settings (sprites.map Sprite.working) watcher
    p.stopRequested m
  rw [hsame] at hstep
  refine ⟨hstep, hcalled, ?_⟩
  intro m d key number t hd htaken
  have hruns := Drive.runs_after o p.settings (sprites.map Sprite.working) watcher
    p.stopRequested m
  obtain ⟨due, task, timeline, t', hticks, -⟩ := Drive.ticks_of_step o p.settings hruns.inOrder hd
  obtain ⟨rfl, rfl⟩ := Prod.mk.inj (Option.some.inj (hticks.taken.symm.trans htaken))
  exact hticks.rings (hstep m) (hcalled m)

/-- When the cat has turned on top of the dog it flashes, and will for 300 ms. -/
theorem Player.runAll_signals_catOnDog :
    let s := ((Drive.opening {} (catOnDog.map Sprite.working) () false).after .silent {} 3).session
    (catOnDog.map (·.id)).Nodup ∧ s.stopping = false ∧
      s.alarms.current? (.flash 0) = some 1 ∧ s.signals.shows (.flash 0) = true ∧
      ∃ instant, lastSet? (catOnDog.map (·.id)) (.flash 0) s.journal.meetings = some instant ∧
        s.signals.wakeups.filter (fun w => w.task = .alarm (.flash 0) 1) =
          [⟨after instant 300, .alarm (.flash 0) 1⟩] := by
  have hids : (catOnDog.map (·.id)).Nodup := by decide
  have hquiet : ((Drive.opening {} (catOnDog.map Sprite.working) () false).after .silent {}
      3).session.stopping = false := by decide +kernel
  have hset : ((Drive.opening {} (catOnDog.map Sprite.working) () false).after .silent {}
      3).session.alarms.current? (.flash 0) = some 1 := by decide +kernel
  obtain ⟨hstep, -, -⟩ := runAll_signals {} .silent catOnDog () hids
  have hfits := (hstep 3 hquiet).fits (.flash 0)
  refine ⟨hids, hquiet, hset, ?_, hfits.timed 1 hset⟩
  exact hfits.shown.trans (congrArg Option.isSome hset)

end SpriteScript
