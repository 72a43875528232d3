/-
  What a run tells of collisions.

  * `Journal.Tells`: a journal tells that two sprites have met;
  * `Drive.Faithful`: a task tells of sprites that touch only, and before it starts a block that is
    not the first of its sprite, of all that touch;
  * `Runs.faithful`: **each task of a run is faithful**;
  * `runAll_encounters`: **the report lists all sprites that met, each two once**.
-/
import SpriteScript.Proofs.Ending

namespace SpriteScript

/-! ## Journals -/

namespace Journal

variable (late j : Journal)

theorem notices_append : notices (late ++ j) = notices j ++ notices late := by
  simp [notices]

theorem encounters_append : encounters (late ++ j) = encounters j ++ encounters late := by
  simp [encounters, notices_append]

theorem beats_append : beats (late ++ j) = beats j ++ beats late := by
  simp [beats]

/-- Two sprites have met, as the journal tells. -/
def Tells (j : Journal) (p : Sprite × Sprite) : Prop :=
  ∃ q ∈ j.encounters, q.1.role = p.1.role ∧ q.2.role = p.2.role

variable {late j} in
theorem Tells.of_suffix {p : Sprite × Sprite} (h : j.Tells p) (hsuffix : j <:+ late) :
    late.Tells p := by
  obtain ⟨q, hq, hrole⟩ := h
  obtain ⟨new, rfl⟩ := hsuffix
  refine ⟨q, ?_, hrole⟩
  rw [encounters_append]
  exact List.mem_append_left _ hq

end Journal

/-! ## Pairs of sprites -/

theorem Pair.of_eq_of {a b c d : String} (h : Pair.of a b = Pair.of c d) :
    a = c ∧ b = d ∨ a = d ∧ b = c := by
  unfold Pair.of at h
  split at h <;> split at h <;> simp only [Pair.mk.injEq] at h
  · exact .inl h
  · exact .inr h
  · exact .inr h.symm
  · exact .inl h.symm

theorem place_eq {l : List Sprite} (hids : (l.map (·.id)).Nodup) {i j : Nat} {a b : Sprite}
    (ha : l[i]? = some a) (hb : l[j]? = some b) (hid : a.id = b.id) : i = j := by
  have hlt : i < (l.map (·.id)).length := by
    rw [List.length_map]
    exact (List.getElem?_eq_some_iff.mp ha).1
  refine (List.getElem?_inj hlt hids).mp ?_
  rw [List.getElem?_map, List.getElem?_map, ha, hb, Option.map_some, Option.map_some, hid]

/-- Ids tell pairs apart if they tell sprites apart. -/
theorem eq_of_ofSprites_eq {l : List Sprite} (hids : (l.map (·.id)).Nodup)
    {p q : Sprite × Sprite} (hp : p ∈ pairsOf l) (hq : q ∈ pairsOf l)
    (h : Pair.ofSprites p = Pair.ofSprites q) : p = q := by
  obtain ⟨i, j, hij, hi, hj⟩ := mem_pairsOf.mp hp
  obtain ⟨k, m, hkm, hk, hm⟩ := mem_pairsOf.mp hq
  rcases Pair.of_eq_of h with ⟨hfst, hsnd⟩ | ⟨hfst, hsnd⟩
  · obtain rfl := place_eq hids hi hk hfst
    obtain rfl := place_eq hids hj hm hsnd
    exact Prod.ext (Option.some.inj (hi.symm.trans hk)) (Option.some.inj (hj.symm.trans hm))
  · obtain rfl := place_eq hids hi hm hfst
    obtain rfl := place_eq hids hj hk hsnd
    omega

/-! ## Scenes and journals -/

namespace Session

variable {σ : Type} {s : Session σ} {sprites : List Sprite}

theorem tells_of_contains (hids : (sprites.map (·.id)).Nodup) (htold : s.scene.Told sprites)
    {p : Sprite × Sprite} (hp : (p.1.role, p.2.role) ∈ pairsOf (sprites.map Sprite.role))
    (hmet : s.scene.met.contains (.ofSprites p) = true) : s.journal.Tells p := by
  have hids' : ((sprites.map Sprite.role).map (·.id)).Nodup := by
    rw [List.map_map]
    exact hids
  obtain ⟨q, hq, heq⟩ := List.mem_map.mp ((htold.met _).mp hmet)
  have hsame : ((q.1.role, q.2.role) : Sprite × Sprite) = (p.1.role, p.2.role) :=
    eq_of_ofSprites_eq hids' (htold.among q hq) hp heq
  obtain ⟨e, he, rfl⟩ := List.mem_map.mp hq
  exact ⟨e, he, congrArg Prod.fst hsame, congrArg Prod.snd hsame⟩

/-- If the scene is settled, all sprites that touch were told of. -/
theorem tells_of_settled (hids : (sprites.map (·.id)).Nodup) (htold : s.scene.Told sprites)
    (hroles : s.scene.bodies.map Sprite.role = sprites.map Sprite.role)
    (hsettled : s.scene.Settled) {p : Sprite × Sprite}
    (hp : (p.1.calm, p.2.calm) ∈ pairsOf s.scene.bodies) (htouch : Touching p) :
    s.journal.Tells p := by
  have hmet : s.scene.met.contains (.ofSprites p) = true :=
    hsettled (p.1.calm, p.2.calm) hp htouch
  refine tells_of_contains hids htold ?_ hmet
  rw [← hroles, pairsOf_map]
  exact List.mem_map.mpr ⟨_, hp, rfl⟩

end Session

/-! ## Tasks -/

namespace Drive

variable {σ : Type}

/-- What a task tells of meetings. -/
structure Faithful (d d' : Drive σ ScriptRunner) : Prop where
  /-- Only sprites that touch are told of, with the poses that they have. -/
  sound : ∃ new, d'.session.journal.encounters = d.session.journal.encounters ++ new ∧
    ∀ q ∈ new, Touching q ∧ (q.1.calm, q.2.calm) ∈ pairsOf (d.session.sprites.map Sprite.calm)
  /-- If the task starts a block that is not the first of its sprite, all sprites that touch have
  been told of before. -/
  complete : ∀ later t i name b earlier,
    d'.session.journal = later ++ ⟨t, .reached (.blockStarted i name b)⟩ :: earlier →
    d.session.journal <:+ earlier → blocksOf i (Journal.beats earlier) ≠ [] →
    ∀ p ∈ pairsOf d.session.sprites, Touching p → Journal.Tells earlier p

variable {o : Observer σ} {cfg : Settings} {sprites : List Sprite} {d d' : Drive σ ScriptRunner}

theorem Goes.sound (h : d.Goes o cfg d') (hcourse : d.plot.OnCourse cfg sprites) :
    ∃ new, d'.session.journal.encounters = d.session.journal.encounters ++ new ∧
      ∀ q ∈ new, Touching q ∧
        (q.1.calm, q.2.calm) ∈ pairsOf (d.session.sprites.map Sprite.calm) := by
  obtain ⟨late, hlate⟩ := h.journal
  have hnew : ∃ new, d'.plot.scene.encounters = d.plot.scene.encounters ++ new ∧
      ∀ q ∈ new, q ∈ pairsOf d.plot.scene.bodies ∧ Touching q := by
    obtain ⟨stopped, hnext, -⟩ := h.next
    generalize d'.plot = p' at hnext
    cases hnext with
    | wait t => exact ⟨[], by simp [Plot.wait], by simp⟩
    | wake =>
      obtain ⟨i, r, rest, c, ht⟩ := hcourse.turn h.ongoing
      obtain ⟨hencounters, -⟩ := (ht.wake stopped).frame
      rw [hencounters, ht.scene]
      exact Scene.settleBusy_encounters cfg r _
  obtain ⟨new, heq, hmem⟩ := hnew
  refine ⟨Journal.encounters late, by rw [← hlate, Journal.encounters_append], ?_⟩
  intro q hq
  have hcalm : new = (Journal.encounters late).map fun q => (q.1.calm, q.2.calm) := by
    simp only [plot, Session.scene, ← hlate, Journal.encounters_append, List.map_append] at heq
    exact (List.append_cancel_left heq).symm
  obtain ⟨hpair, htouch⟩ := hmem _ (hcalm ▸ List.mem_map.mpr ⟨q, hq, rfl⟩)
  exact ⟨htouch, hpair⟩

/-- What a task adds to the beats, if it adds the start of a block. -/
theorem Goes.turn_of_start (h : d.Goes o cfg d') (hcourse : d.plot.OnCourse cfg sprites)
    {early later : List Beat} {t i : Nat} {b : Block}
    (hbeats : d'.plot.scene.beats =
      d.plot.scene.beats ++ early ++ ⟨t, i, some b⟩ :: later) :
    ∃ r rest c, d.plot.Turn cfg i r rest c ∧ early = [] := by
  obtain ⟨stopped, hnext, -⟩ := h.next
  generalize d'.plot = p' at hnext hbeats
  cases hnext with
  | wait t' =>
    have hlen := congrArg List.length hbeats
    simp [Plot.wait] at hlen
  | wake =>
    obtain ⟨i', r, rest, c, ht⟩ := hcourse.turn h.ongoing
    obtain ⟨-, -, -, hc, -⟩ := ht.frame
    -- the one beat of a wakeup is the start that was added
    have hone : ∀ e : Beat, d.plot.scene.beats ++ [e] =
        d.plot.scene.beats ++ early ++ ⟨t, i, some b⟩ :: later →
        e = ⟨t, i, some b⟩ ∧ early = [] := by
      intro e he
      rw [List.append_assoc] at he
      cases early with
      | nil => exact ⟨(List.cons.inj (List.append_cancel_left he)).1, rfl⟩
      | cons e' early =>
        have hlen := congrArg List.length he
        simp at hlen
    have hwake := ht.wake stopped
    generalize d.plot.wake cfg stopped = p' at hwake hbeats
    cases hwake with
    | finish =>
      have hfinish : (c.finish i').beats = d.plot.scene.beats ++ [⟨c.now, i', none⟩] := by
        rw [← hc]
        rfl
      obtain ⟨heq, -⟩ := hone _ (hfinish.symm.trans hbeats)
      exact absurd (congrArg Beat.block heq) (by simp)
    | @start b' c' hpop =>
      obtain ⟨hstart, -⟩ := c.start_frame cfg hpop
      rw [hc] at hstart
      obtain ⟨heq, hearly⟩ := hone _ (hstart.symm.trans hbeats)
      obtain rfl : i' = i := congrArg Beat.place heq
      exact ⟨r, rest, c, ht, hearly⟩

/-- If a task starts a block, the entry of its start comes after all that it tells of meetings. -/
theorem Goes.journal_of_start (h : d.Goes o cfg d') (hcourse : d.plot.OnCourse cfg sprites)
    {later earlier : Journal} {t i : Nat} {name : String} {b : Block}
    (hjournal : d'.session.journal = later ++ ⟨t, .reached (.blockStarted i name b)⟩ :: earlier)
    (hsuffix : d.session.journal <:+ earlier) :
    ∃ r rest, ∃ s : Session σ, d.plot.Turn cfg i r rest s.scene ∧
      earlier.beats = d.plot.scene.beats ∧ s.journal <:+ earlier := by
  obtain ⟨early, rfl⟩ := hsuffix
  have hbeats : d'.plot.scene.beats = d.plot.scene.beats ++ Journal.beats early ++
      ⟨t, i, some b⟩ :: later.beats := by
    simp only [plot, Session.scene_beats, hjournal, Journal.beats_append, Journal.beats_cons,
      List.append_assoc]
    rfl
  obtain ⟨r, rest, c, ht, hearly⟩ := h.turn_of_start hcourse hbeats
  have hsame : Journal.beats (early ++ d.session.journal) = d.plot.scene.beats := by
    rw [Journal.beats_append, hearly, List.append_nil]
    rfl
  have hmore : d'.plot.scene.beats ≠ d.plot.scene.beats := by
    rw [hbeats]
    intro heq
    have hlen := congrArg List.length heq
    simp at hlen
  obtain ⟨s, rfl, hs⟩ := h.found ht hmore
  refine ⟨r, rest, s, ht, hsame, ?_⟩
  have hscene : s.journal.beats = d.plot.scene.beats := ht.frame.2.2.2.1
  have hlong {j : Journal} (hj : (⟨t, .reached (.blockStarted i name b)⟩ ::
      (early ++ d.session.journal) : Journal) <:+ j) : j.beats ≠ d.plot.scene.beats := by
    obtain ⟨new, rfl⟩ := hj
    intro heq
    have hlen := congrArg List.length heq
    rw [Journal.beats_append, Journal.beats_cons, hsame] at hlen
    simp [Entry.beat?] at hlen
  rcases List.suffix_or_suffix_of_suffix hs (hjournal ▸ List.suffix_append _ _) with hle | hge
  · rcases List.suffix_cons_iff.mp hle with heq | hle
    · exact absurd hscene (hlong (heq ▸ List.suffix_refl _))
    · exact hle
  · exact absurd hscene (hlong hge)

/-- **A task of a run is faithful.** -/
theorem Runs.faithful (hids : (sprites.map (·.id)).Nodup) (h : d.Runs cfg sprites)
    (hstep : d.step o cfg = some d') : d.Faithful d' := by
  have hgoes := h.goes o hstep
  have hcourse := h.reachable.onCourse
  refine ⟨hgoes.sound hcourse, ?_⟩
  intro later t i name b earlier hjournal hsuffix hblocks p hp htouch
  obtain ⟨r, rest, s, ht, hbeats, hs⟩ := hgoes.journal_of_start hcourse hjournal hsuffix
  rw [hbeats] at hblocks
  have hbusy : r.busy ≠ none := by
    intro hnone
    exact hblocks ((hcourse.busy i r ht.runner).mp hnone)
  obtain ⟨b', hb'⟩ := Option.ne_none_iff_exists'.mp hbusy
  -- a runner within a block finds the scene after a collision pass
  have hscene := ht.scene_of_busy hb'
  have hbodies := ht.frame.1
  have htold : s.scene.Told sprites := by
    rw [hscene]
    exact .collide (h.reachable.told.of_eq rfl rfl rfl rfl) hcourse.roles
  have hpair : (p.1.calm, p.2.calm) ∈ pairsOf s.scene.bodies := by
    rw [hbodies, plot, Session.scene, pairsOf_map]
    exact List.mem_map.mpr ⟨p, hp, rfl⟩
  refine Journal.Tells.of_suffix ?_ hs
  exact Session.tells_of_settled hids htold (hbodies ▸ hcourse.roles)
    (hscene ▸ Scene.settled_collide _) hpair htouch

end Drive

/-! ## The whole run -/

namespace Session

variable {σ : Type} (o : Observer σ) (cfg : Settings) (sprites : List Sprite) (watcher : σ)
  (stopping : Bool)

/-- **The observer hears what the journal says it is told.** -/
theorem heard_runAll :
    ((Session.begin sprites watcher stopping).runAll o cfg).2.HeardFrom o watcher := by
  have hdrive (n : Nat) :
      ((Drive.opening cfg sprites watcher stopping).after o cfg n).Runs cfg sprites ∧
        ((Drive.opening cfg sprites watcher stopping).after o cfg n).session.HeardFrom o watcher := by
    refine Drive.after_induction o cfg (motive := fun d => d.Runs cfg sprites ∧
      d.session.HeardFrom o watcher) ⟨Drive.runs_opening cfg sprites watcher stopping, ?_⟩ ?_ n
    · rw [Drive.session_opening]
      rfl
    · rintro d d' ⟨hruns, hheard⟩ hstep
      exact ⟨hruns.step o hstep, (hruns.goes o hstep).heard hheard⟩
  have hclose (s : Session σ) : s.Advance o 0
      ((s.cancelAlarms.settle o).reach (.runFinished (s.cancelAlarms.settle o).report)) :=
    ((s.advance_cancelAlarms o).trans (advance_settle o _)).trans (advance_reach o _ _)
  simp only [runAll_eq]
  exact (hclose _).heard watcher (hdrive _).2

end Session

/-- What a report and a journal tell of collisions: the same pairs, each once, and only pairs of
sprites that touched. -/
structure Report.Accounts (sprites : List Sprite) (report : Report) (j : Journal) : Prop where
  collisions : report.collisions = j.encounters.map fun p => (p.1.name, p.2.name)
  banners : j.bannerTexts = j.encounters.map fun p => bannerText p.1 p.2
  once : (j.encounters.map Pair.ofSprites).Nodup
  touching : ∀ p ∈ j.encounters, Touching p
  among : ∀ p ∈ j.encounters, (p.1.role, p.2.role) ∈ pairsOf (sprites.map Sprite.role)

theorem Scene.Told.accounts {σ : Type} {s : Session σ} {sprites : List Sprite} {report : Report}
    (h : s.scene.Told sprites) (hreport : report.collisions = s.scene.collisions) :
    report.Accounts sprites s.journal where
  collisions := by
    rw [hreport, h.collisions, Session.scene, List.map_map]
    rfl
  banners := by
    have hbanners : s.journal.bannerTexts = s.scene.banners := rfl
    rw [hbanners, h.banners, Session.scene, List.map_map]
    rfl
  once := by
    have honce := h.once
    rw [Session.scene, List.map_map] at honce
    exact honce
  touching p hp := h.touching (p.1.calm, p.2.calm) (List.mem_map.mpr ⟨p, hp, rfl⟩)
  among p hp := h.among (p.1.calm, p.2.calm) (List.mem_map.mpr ⟨p, hp, rfl⟩)

/-- **Collisions are reported soundly, completely, and once for each pair.** What the observer
hears, the report and the journal agree on them; no task of the run reports a pair that does not
touch, or starts a block that is not the first of its sprite before all pairs that touch are
reported; and if any block was started, the pairs that touch in the end are reported. -/
theorem Session.runAll_encounters {σ : Type} (o : Observer σ) (cfg : Settings)
    (sprites : List Sprite) (watcher : σ) (stopping : Bool)
    (hids : (sprites.map (·.id)).Nodup) :
    let opening := Drive.opening cfg sprites watcher stopping
    let run := (Session.begin sprites watcher stopping).runAll o cfg
    run.2.HeardFrom o watcher ∧
    run.1.Accounts sprites run.2.journal ∧
    (∀ m d, (opening.after o cfg m).step o cfg = some d → (opening.after o cfg m).Faithful d) ∧
    (0 < run.1.blocks → ∀ p ∈ pairsOf run.2.sprites, Touching p →
      run.2.journal.Tells p ∧ (p.1.name, p.2.name) ∈ run.1.collisions) := by
  intro opening run
  have hreach := Plot.reachable_atEnd o cfg sprites watcher stopping
  have hover := Plot.isOver_atEnd o cfg sprites watcher stopping
  have hscene : run.2.scene = _ := scene_runAll o cfg sprites watcher stopping
  have hcollisions : run.1.collisions = _ := collisions_runAll o cfg sprites watcher stopping
  have hblocks : run.1.blocks = _ := blocks_runAll o cfg sprites watcher stopping
  have htold : run.2.scene.Told sprites := hscene ▸ hreach.told
  have haccounts : run.1.Accounts sprites run.2.journal :=
    htold.accounts (hcollisions.trans (congrArg Scene.collisions hscene.symm))
  refine ⟨heard_runAll o cfg sprites watcher stopping, haccounts, ?_, ?_⟩
  · intro m d hstep
    exact (Drive.runs_after o cfg sprites watcher stopping m).faithful hids hstep
  intro hpos p hp htouch
  have hsettled : run.2.scene.Settled := by
    rw [hscene]
    rcases hreach.settled with h | ⟨i, r, hr, -⟩ | h
    · exact h
    · simp [Plot.runner?_eq_none hover i] at hr
    · exact absurd hpos (by rw [hblocks, h]; exact Nat.lt_irrefl 0)
  have hpair : (p.1.calm, p.2.calm) ∈ pairsOf run.2.scene.bodies := by
    rw [scene, pairsOf_map]
    exact List.mem_map.mpr ⟨p, hp, rfl⟩
  have htells := tells_of_settled hids htold
    (hscene ▸ hreach.onCourse.roles) hsettled hpair htouch
  refine ⟨htells, ?_⟩
  obtain ⟨q, hq, hfst, hsnd⟩ := htells
  rw [haccounts.collisions]
  refine List.mem_map.mpr ⟨q, hq, Prod.ext ?_ ?_⟩
  · exact Sprite.name_of_role hfst
  · exact Sprite.name_of_role hsnd

theorem Session.runAll_encounters_catAndDog :
    (catAndDog.map (·.id)).Nodup ∧
      ("Cat", "Dog") ∈ ((Session.begin catAndDog () false).runAll .silent {}).1.collisions := by
  have hids : (catAndDog.map (·.id)).Nodup := by decide
  obtain ⟨-, -, -, hall⟩ := runAll_encounters .silent {} catAndDog () false hids
  obtain ⟨p, hp, htouch, hname⟩ :
      ∃ p ∈ pairsOf ((Session.begin catAndDog () false).runAll .silent {}).2.sprites,
        Touching p ∧ (p.1.name, p.2.name) = ("Cat", "Dog") := by decide +kernel
  exact ⟨hids, hname ▸ (hall (by decide +kernel) p hp htouch).2⟩

end SpriteScript
