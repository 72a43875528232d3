/-
  What sprites say and think in the course of a run.

  * `Block.bubble` is what a sprite utters in the course of a block: a bubble opens with the block,
    and ends with it;
  * `Drive.Voiced`: what a sprite has uttered, and what it will utter when the block that it is
    within is over, are the bubbles of the blocks that it has started;
  * `Does.voiced`: **each task of a run keeps it so**;
  * `looks_after`: in a run without a stop, a sprite whose runner is done has started all of its
    blocks that speak;
  * `runAll_speech`: **each bubble opens once, for the sprite that it is for, and ends in time**.
-/
import SpriteScript.Proofs.Leftovers

namespace SpriteScript

/-! ## Bubbles -/

/-- What the sprite with an id utters in the course of a block that starts at an instant. -/
def Block.bubble (cfg : Settings) (id : String) (start : Nat) (b : Block) : List Utterance :=
  match b.action cfg with
  | .speak kind text ms => [⟨start, id, kind, text, ms⟩, ⟨after start ms, id, kind, "", 0⟩]
  | _ => []

section
variable (cfg : Settings) (id : String) (b : Block)

/-- A bubble is opened by the start of a block, and ended by its end. -/
theorem Block.opening_append_ending (t : Nat) :
    b.opening cfg id t ++ b.ending id (after t (b.delay cfg)) = b.bubble cfg id t := by
  obtain ⟨bid, kind, params, children⟩ := b
  cases kind <;> rfl

/-- Only blocks that speak have bubbles. -/
theorem Block.bubble_of_not_isLooks (t : Nat) (h : b.isLooks = false) :
    b.bubble cfg id t = [] := by
  obtain ⟨bid, kind, params, children⟩ := b
  cases kind <;> first | rfl | simp [Block.isLooks, BlockKind.isLooks, BlockKind.speech?] at h

theorem Block.action_of_isLooks (h : b.isLooks = true) :
    ∃ kind text ms, b.kind.speech? = some kind ∧ b.action cfg = .speak kind text ms := by
  obtain ⟨bid, kind, params, children⟩ := b
  cases kind <;> first
    | exact ⟨_, _, _, rfl, rfl⟩
    | simp [Block.isLooks, BlockKind.isLooks, BlockKind.speech?] at h

end

/-- What the sprite with an id utters, the earliest first. -/
def Journal.utterancesOf (id : String) (j : Journal) : List Utterance :=
  j.utterances.filter (·.speaker = id)

section
variable {us : List Utterance} {id : String}

theorem filter_speaker_self (h : ∀ u ∈ us, u.speaker = id) : us.filter (·.speaker = id) = us := by
  rw [List.filter_eq_self]
  intro u hu
  exact decide_eq_true (h u hu)

theorem filter_speaker_of_ne {other : String} (h : ∀ u ∈ us, u.speaker = other) (hne : other ≠ id) :
    us.filter (·.speaker = id) = [] := by
  rw [List.filter_eq_nil_iff]
  intro u hu
  simpa [h u hu] using hne

end

/-- What a sprite utters in the course of the blocks that it has started. -/
def bubblesOf (cfg : Settings) (id : String) (starts : List (Nat × Block)) : List Utterance :=
  starts.flatMap fun p => p.2.bubble cfg id p.1

section
variable (cfg : Settings) (id : String) (starts : List (Nat × Block))

/-- The bubbles are those of the blocks that speak. -/
theorem bubblesOf_filter : bubblesOf cfg id (starts.filter (·.2.isLooks)) = bubblesOf cfg id starts := by
  induction starts with
  | nil => rfl
  | cons p starts ih =>
    unfold bubblesOf at ih ⊢
    rw [List.filter_cons, List.flatMap_cons, ← ih]
    cases hp : p.2.isLooks with
    | true => rfl
    | false =>
      rw [Block.bubble_of_not_isLooks cfg id p.2 p.1 hp]
      rfl

end

theorem zip_map_append {α β : Type} (ps : List (α × β)) (rest : List β) :
    (ps.map (·.1)).zip (ps.map (·.2) ++ rest) = ps := by
  induction ps with
  | nil => rfl
  | cons p ps ih => rw [List.map_cons, List.map_cons, List.cons_append, List.zip_cons_cons, ih]

/-- The looks that a sprite has started, with their instants. -/
theorem zip_looksOf {i : Nat} {beats : List Beat} {plan rest : List Block}
    (h : looksOf plan = looksOf (blocksOf i beats) ++ rest) :
    (((startsOf i beats).filter (·.2.isLooks)).map (·.1)).zip (looksOf plan) =
      (startsOf i beats).filter (·.2.isLooks) := by
  have hlooks : looksOf (blocksOf i beats) = ((startsOf i beats).filter (·.2.isLooks)).map (·.2) := by
    rw [looksOf, blocksOf, List.filter_map]
    rfl
  rw [h, hlooks, zip_map_append]

/-! ## Plots -/

namespace Plot

/-- What the sprite with an id will utter when the block that it is within is over. -/
def pending (cfg : Settings) (id : String) (i : Nat) (p : Plot) : List Utterance :=
  match p.runner? i with
  | some r => r.ending id (endTime cfg (blocksOf i p.scene.beats))
  | none => []

/-- What sprites have uttered and will utter are the bubbles of the blocks that they started. -/
def Voiced (cfg : Settings) (sprites : List Sprite) (us : List Utterance) (p : Plot) : Prop :=
  ∀ i : Fin sprites.length,
    us.filter (·.speaker = (sprites.get i).id) ++ p.pending cfg (sprites.get i).id i =
      bubblesOf cfg (sprites.get i).id (startsOf i p.scene.beats)

variable {cfg : Settings} {sprites : List Sprite} {p p' : Plot} {us vs : List Utterance}

theorem voiced_opening : (Plot.opening sprites).Voiced cfg sprites [] := by
  intro i
  rw [pending, OnCourse.runner?_opening, if_pos i.2]
  rfl

/-- What another sprite utters does not count. -/
theorem filter_speaker_other (hids : (sprites.map (·.id)).Nodup) {i j : Fin sprites.length}
    (hne : i ≠ j) (h : ∀ u ∈ us, u.speaker = (sprites.get i).id) :
    us.filter (·.speaker = (sprites.get j).id) = [] := filter_speaker_of_ne h (id_ne hids hne)

/-- **Bubbles open and end with blocks.** -/
theorem Utters.voiced (h : p.Utters cfg sprites vs p') (hids : (sprites.map (·.id)).Nodup)
    (hvoiced : p.Voiced cfg sprites us) : p'.Voiced cfg sprites (us ++ vs) := by
  intro j
  have hj := hvoiced j
  rw [List.filter_append]
  cases h with
  | wait t =>
    rw [List.filter_nil, List.append_nil]
    exact hj
  | @finish i r rest c ht =>
    obtain ⟨-, -, hnow, hbeats, -⟩ := ht.frame
    have hrunner := runner?_set (x := none) ht.runner (c.finish i) j
    have hending : ∀ u ∈ r.ending (sprites.get i).id c.now, u.speaker = (sprites.get i).id :=
      fun _ => ScriptRunner.speaker_of_mem_ending
    have hfinish : (c.finish i).beats = p.scene.beats ++ [⟨c.now, i, none⟩] := by
      rw [← hbeats]
      rfl
    simp only [pending, hrunner, hfinish, startsOf_finish, blocksOf_finish]
    by_cases hij : i = j
    · subst hij
      rw [pending, ht.runner] at hj
      rw [filter_speaker_self hending, if_pos rfl, List.append_nil, hnow]
      exact hj
    · rw [filter_speaker_other hids hij hending, List.append_nil,
        if_neg fun heq => hij (Fin.ext heq)]
      exact hj
  | @start i r rest c c' b ht hpop =>
    obtain ⟨-, -, hnow, hbeats, -⟩ := ht.frame
    obtain ⟨hdbeats, -⟩ := c.start_frame cfg hpop
    have hrunner := runner?_set (x := some ⟨i, some b⟩) ht.runner
      ((c'.start cfg i b).schedule (b.delay cfg) i) j
    have hending : ∀ u ∈ r.ending (sprites.get i).id c.now, u.speaker = (sprites.get i).id :=
      fun _ => ScriptRunner.speaker_of_mem_ending
    have hopening : ∀ u ∈ b.opening cfg (sprites.get i).id c.now, u.speaker = (sprites.get i).id :=
      fun _ => Block.speaker_of_mem_opening cfg
    rw [List.filter_append]
    rw [hbeats] at hdbeats
    simp only [pending, hrunner, hdbeats, startsOf_start, blocksOf_start]
    by_cases hij : i = j
    · subst hij
      rw [pending, ht.runner] at hj
      simp only [if_true, filter_speaker_self hending, filter_speaker_self hopening,
        endTime_append, ← hnow, ScriptRunner.ending_busy, bubblesOf, List.flatMap_append] at hj ⊢
      rw [List.flatMap_singleton, ← hj, ← Block.opening_append_ending]
      simp only [List.append_assoc]
    · have hne : (i : Nat) ≠ j := fun heq => hij (Fin.ext heq)
      rw [filter_speaker_other hids hij hending, filter_speaker_other hids hij hopening,
        if_neg hne, if_neg hne, if_neg hne]
      simpa [pending] using hj

/-- A sprite whose runner is done starts no block. -/
theorem Utters.blocksOf (h : p.Utters cfg sprites vs p') {i : Nat} (hdone : p.runner? i = none) :
    blocksOf i p'.scene.beats = blocksOf i p.scene.beats := by
  cases h with
  | wait t => rfl
  | finish ht => simp [Scene.finish, ht.frame.2.2.2.1]
  | @start j r rest c c' b ht hpop =>
    obtain ⟨hdbeats, -⟩ := c.start_frame cfg hpop
    have hne : (j : Nat) ≠ i := by
      rintro rfl
      simp [ht.runner] at hdone
    simp only [hdbeats, blocksOf_start, if_neg hne, List.append_nil, ht.frame.2.2.2.1]

end Plot

/-! ## Tasks -/

namespace Drive

variable {σ : Type} (o : Observer σ) (cfg : Settings) (sprites : List Sprite) (watcher : σ)
  (stopping : Bool)

/-- **Throughout a run, bubbles open and end with blocks.** -/
theorem voiced_after (hids : (sprites.map (·.id)).Nodup) (n : Nat) :
    ((Drive.opening cfg sprites watcher stopping).after o cfg n).plot.Voiced cfg sprites
      ((Drive.opening cfg sprites watcher stopping).after o cfg n).session.journal.utterances := by
  refine runs_induction o cfg sprites watcher stopping
    (motive := fun d => d.plot.Voiced cfg sprites d.session.journal.utterances) ?_ ?_ n
  · simp only [plot_opening, session_opening]
    exact Plot.voiced_opening
  · intro d d' hruns hstep ih
    obtain ⟨us, hutters, hdeeds⟩ := (hruns.does hstep).utters hruns.reachable.onCourse
    rw [hdeeds.utterances]
    exact hutters.voiced hids ih

/-- **In a run without a stop, a sprite whose runner is done has started all of its blocks that
speak.** -/
theorem looks_after (hids : (sprites.map (·.id)).Nodup) (n : Nat)
    (hquiet : ((Drive.opening cfg sprites watcher stopping).after o cfg n).session.stopping = false)
    (i : Fin sprites.length)
    (hdone : ((Drive.opening cfg sprites watcher stopping).after o cfg n).plot.runner? i = none) :
    looksOf (planAt cfg sprites i) = looksOf (blocksOf i
      ((Drive.opening cfg sprites watcher stopping).after o cfg n).plot.scene.beats) := by
  refine runs_induction o cfg sprites watcher stopping (motive := fun d =>
    d.session.stopping = false → d.plot.runner? i = none →
      looksOf (planAt cfg sprites i) = looksOf (blocksOf i d.plot.scene.beats)) ?_ ?_ n hquiet hdone
  · intro _ hdone
    exact absurd hdone (runner?_opening_ne_none cfg sprites watcher stopping i)
  · intro d d' hruns hstep ih hquiet hdone
    have hcourse := hruns.reachable.onCourse
    have hdoes := hruns.does hstep
    cases hrunner : d.plot.runner? i with
    | some r =>
      -- the queue is empty as the runner is done
      obtain ⟨π, owned, hledger⟩ := (hruns.step o hstep).reachable.ledger hids
      have hempty := (hdoes.spent hids hcourse hquiet i hdone).1 (by simp [hrunner])
      have hwaiting : d'.plot.waiting cfg sprites i = [] := by
        rw [Plot.waiting, hdone]
        exact hempty
      have hlooks := hledger.looks i
      rw [hwaiting] at hlooks
      exact hlooks.trans (List.append_nil _)
    | none =>
      obtain ⟨us, hutters, -⟩ := hdoes.utters hcourse
      rw [hutters.blocksOf hrunner]
      exact ih ((hruns.goes o hstep).quiet hquiet) hrunner

end Drive

/-! ## The whole run -/

/-- The bubbles of the sprite at a place are those of the first of its blocks that speak. -/
theorem bubblesOf_startsOf (cfg : Settings) (id : String) {i : Nat} {beats : List Beat}
    {plan rest : List Block} (h : looksOf plan = looksOf (blocksOf i beats) ++ rest) :
    ∃ times : List Nat, bubblesOf cfg id (startsOf i beats) =
      (times.zip (looksOf plan)).flatMap (fun p => p.2.bubble cfg id p.1) ∧
        times.length = (looksOf (blocksOf i beats)).length := by
  refine ⟨((startsOf i beats).filter (·.2.isLooks)).map (·.1), ?_, ?_⟩
  · rw [zip_looksOf h, ← bubblesOf_filter]
    rfl
  · rw [looksOf, blocksOf, List.filter_map, List.length_map, List.length_map]
    rfl

/-- What a sprite utters in a run are the bubbles of the blocks that it starts. -/
theorem Session.utterancesOf_runAll {σ : Type} (o : Observer σ) (cfg : Settings)
    (sprites : List Sprite) (watcher : σ) (stopping : Bool) (hids : (sprites.map (·.id)).Nodup)
    (i : Fin sprites.length) :
    ((Session.begin sprites watcher stopping).runAll o cfg).2.journal.utterancesOf
        (sprites.get i).id =
      bubblesOf cfg (sprites.get i).id
        (startsOf i (Plot.atEnd o cfg sprites watcher stopping).scene.beats) := by
  have hvoiced := Drive.voiced_after o cfg sprites watcher stopping hids
    ((Drive.opening cfg sprites watcher stopping).budget cfg)
  rw [← Drive.last] at hvoiced
  have hover := Drive.isOver_last o cfg sprites watcher stopping
  have hclose := (deeds_runAll o cfg sprites watcher stopping).utterances
  rw [Plot.atEnd, Journal.utterancesOf, hclose, List.append_nil]
  generalize (Drive.opening cfg sprites watcher stopping).last o cfg = d at hvoiced hover
  have hdone := Plot.runner?_eq_none (p := d.plot) hover i
  have hsaid := hvoiced i
  rw [Plot.pending, hdone, List.append_nil] at hsaid
  exact hsaid

/-- **Each bubble opens once, for the sprite that it is for, and ends in time.** Whatever the
observer asks for and whoever meets whom, what the observer hears a sprite say and think is, for the
first blocks that speak in the plan of that sprite, in order, the text of each block and then the
end of its bubble, as much later as the block tells. If no stop is asked for, these are all blocks
of the plan that speak. -/
theorem Session.runAll_speech {σ : Type} (o : Observer σ) (cfg : Settings) (sprites : List Sprite)
    (watcher : σ) (stopping : Bool) (hids : (sprites.map (·.id)).Nodup) :
    let run := (Session.begin sprites watcher stopping).runAll o cfg
    run.2.HeardFrom o watcher ∧
    run.1.stopped = (stopping || o.asks watcher run.2.journal.notices) ∧
    ∀ i : Fin sprites.length,
      (∀ b ∈ looksOf (planAt cfg sprites i),
        ∃ kind text ms, b.kind.speech? = some kind ∧ b.action cfg = .speak kind text ms) ∧
      ∃ times : List Nat,
        run.2.journal.utterancesOf (sprites.get i).id =
          (times.zip (looksOf (planAt cfg sprites i))).flatMap
            (fun p => p.2.bubble cfg (sprites.get i).id p.1) ∧
        times.length ≤ (looksOf (planAt cfg sprites i)).length ∧
        (run.1.stopped = false → times.length = (looksOf (planAt cfg sprites i)).length) := by
  have hobeys := stopped_runAll o cfg sprites watcher stopping
  have hreach := Plot.reachable_atEnd o cfg sprites watcher stopping
  have hover := Plot.isOver_atEnd o cfg sprites watcher stopping
  have hsaid := utterancesOf_runAll o cfg sprites watcher stopping hids
  have hall (hquiet : ((Session.begin sprites watcher stopping).runAll o cfg).1.stopped = false)
      (i : Fin sprites.length) := Drive.looks_after o cfg sprites watcher stopping hids _
    (Drive.stopping_after o cfg sprites watcher stopping hquiet _) i (Plot.runner?_eq_none hover i)
  generalize (Session.begin sprites watcher stopping).runAll o cfg = run at *
  refine ⟨hobeys.1.heard, hobeys.2.trans hobeys.1.stopping, ?_⟩
  intro i
  obtain ⟨π, owned, hledger⟩ := hreach.ledger hids
  obtain ⟨times, hbubbles, hlength⟩ := bubblesOf_startsOf cfg (sprites.get i).id (hledger.looks i)
  refine ⟨?_, times, (hsaid i).trans hbubbles, ?_, ?_⟩
  · intro b hb
    exact b.action_of_isLooks cfg (List.mem_filter.mp hb).2
  · rw [hlength, hledger.looks i, List.length_append]
    exact Nat.le_add_right _ _
  · intro hquiet
    rw [hlength, hall hquiet i]
    rfl

/-- The dog speaks once, and ends it. -/
theorem Session.runAll_speech_catAndDog : (catAndDog.map (·.id)).Nodup ∧ ∃ t,
    ((Session.begin catAndDog () false).runAll .silent {}).2.journal.utterancesOf "dog" =
      Block.bubble {} "dog" t ⟨"b3", .say, .ofPairs [("seconds", .number 1)], []⟩ := by
  have hids : (catAndDog.map (·.id)).Nodup := by decide
  have hquiet : ((Session.begin catAndDog () false).runAll .silent {}).1.stopped = false := by
    decide +kernel
  obtain ⟨-, -, hspeech⟩ := runAll_speech .silent {} catAndDog () false hids
  obtain ⟨-, times, hsaid, -, hall⟩ := hspeech ⟨1, by decide⟩
  have hplan : looksOf (planAt {} catAndDog ⟨1, by decide⟩) =
      [⟨"b3", .say, .ofPairs [("seconds", .number 1)], []⟩] := rfl
  rw [hplan] at hsaid hall
  obtain ⟨t, rfl⟩ := List.length_eq_one_iff.mp (hall hquiet)
  exact ⟨hids, t, hsaid.trans (List.append_nil _)⟩

end SpriteScript
