/-
  What the observer of a run has in view.

  * `Journal.lastOf?` is the latest notice that shows a sprite, `Journal.lastBanner` the banner as
    the observer was told of it last;
  * `Session.InView`: the observer has been shown all sprites and the banner as they are, as far as
    they were shown at all;
  * `Deeds.inView`: **deeds keep them in view**, as each tells of what it changes;
  * `Journal.Hushed`: the latest notice that shows a sprite is not that it speaks, which holds as
    soon as its runner is done;
  * `runAll_view`: **the view of the observer is never stale**.
-/
import SpriteScript.Proofs.Conservation
import SpriteScript.Proofs.Encounters
import SpriteScript.Proofs.Quiet
import SpriteScript.Proofs.Tasks
import SpriteScript.Run.Player

namespace SpriteScript

/-! ## What was shown last -/

/-- What a notice shows of the sprite with an id. -/
def Notice.shown? (id : String) (n : Notice) : Option Sprite := n.sprites.find? (·.id = id)

/-- What a notice tells of the banner. -/
def Notice.banner? : Notice → Option (Option String)
  | banner text => some text
  | _ => none

namespace Journal

/-- The latest notice that shows the sprite with an id. -/
def lastOf? (id : String) (j : Journal) : Option Notice :=
  j.notices.reverse.find? fun n => (n.shown? id).isSome

/-- The banner as the observer was told of it last; before that there is none. -/
def lastBanner (j : Journal) : Option String := (j.notices.reverse.findSome? Notice.banner?).join

section
variable (id : String) (t : Nat) (n : Notice) (m : Milestone) (j : Journal)

theorem lastOf?_told : lastOf? id (⟨t, .told n⟩ :: j) =
    if (n.shown? id).isSome then some n else j.lastOf? id := by
  rw [lastOf?, notices_told, List.reverse_concat, List.find?_cons]
  cases (n.shown? id).isSome <;> rfl

@[simp] theorem lastOf?_reached : lastOf? id (⟨t, .reached m⟩ :: j) = j.lastOf? id := by
  rw [lastOf?, notices_reached]
  rfl

theorem lastBanner_told : lastBanner (⟨t, .told n⟩ :: j) = n.banner?.getD j.lastBanner := by
  rw [lastBanner, notices_told, List.reverse_concat, List.findSome?_cons]
  cases n.banner? <;> rfl

@[simp] theorem lastBanner_reached : lastBanner (⟨t, .reached m⟩ :: j) = j.lastBanner := by
  rw [lastBanner, notices_reached]
  rfl

end

/-- The sprite is as the observer was shown it last, if it was shown at all. -/
def Shows (x : Sprite) (j : Journal) : Prop :=
  ∀ n, j.lastOf? x.id = some n → n.shown? x.id = some x

variable {x : Sprite} {t : Nat} {n : Notice} {j : Journal}

/-- A notice either shows the sprite as it is, or does not show it. -/
theorem Shows.told (hshown : ∀ y ∈ n.sprites, y.id = x.id → y = x)
    (hbefore : (∀ y ∈ n.sprites, y.id ≠ x.id) → j.Shows x) : Shows x (⟨t, .told n⟩ :: j) := by
  intro n' hlast
  rw [lastOf?_told] at hlast
  cases hn : n.shown? x.id with
  | some y =>
    rw [hn] at hlast
    obtain rfl := Option.some.inj hlast
    have hid : y.id = x.id := by simpa using List.find?_some hn
    rw [hn, hshown y (List.mem_of_find?_eq_some hn) hid]
  | none =>
    rw [hn] at hlast
    have hnone : ∀ y ∈ n.sprites, y.id ≠ x.id := by simpa [Notice.shown?] using hn
    exact hbefore hnone n' hlast

theorem Shows.told_of_ne (hne : ∀ y ∈ n.sprites, y.id ≠ x.id) (h : j.Shows x) :
    Shows x (⟨t, .told n⟩ :: j) :=
  .told (fun y hy hid => absurd hid (hne y hy)) fun _ => h

end Journal

/-! ## Sprites with ids of their own -/

theorem Sprite.id_of_calm {a b : Sprite} (h : a.calm = b.calm) : a.id = b.id :=
  (congrArg Sprite.id h : a.calm.id = b.calm.id)

section
variable {l : List Sprite} {i : Nat} {x x' : Sprite}

theorem map_id_set (hx : l[i]? = some x) (hid : x'.id = x.id) :
    (l.set i x').map (·.id) = l.map (·.id) := map_set_of_eq hx hid

/-- Where sprites are when one has taken the place of another one. -/
theorem place_of_set {j : Nat} {y : Sprite} (hy : (l.set i x')[j]? = some y) :
    (i = j ∧ x' = y) ∨ (i ≠ j ∧ l[j]? = some y) := by
  rw [List.getElem?_set] at hy
  split at hy
  · next hij =>
    split at hy
    · exact .inl ⟨hij, Option.some.inj hy⟩
    · simp at hy
  · next hij => exact .inr ⟨hij, hy⟩

/-- Which sprites there are when one has taken the place of another one with its id. -/
theorem mem_set_of_nodup (hids : (l.map (·.id)).Nodup) (hx : l[i]? = some x) (hid : x'.id = x.id)
    {y : Sprite} (hy : y ∈ l.set i x') : y = x' ∨ y ∈ l ∧ x'.id ≠ y.id := by
  obtain ⟨j, hj⟩ := List.mem_iff_getElem?.mp hy
  rcases place_of_set hj with ⟨-, rfl⟩ | ⟨hij, hj⟩
  · exact .inl rfl
  · refine .inr ⟨List.mem_iff_getElem?.mpr ⟨j, hj⟩, ?_⟩
    rw [hid]
    exact fun heq => hij (place_eq hids hx hj heq)

end

/-! ## Deeds -/

namespace Session

variable {σ : Type} {o : Observer σ} {cfg : Settings} {s s' : Session σ} {us : List Utterance}

/-- The observer has been shown the sprites and the banner as they are. -/
structure InView (s : Session σ) : Prop where
  sprites : ∀ x ∈ s.sprites, s.journal.Shows x
  banner : s.journal.lastBanner = s.banner

theorem exchange_id {a b : Sprite} {e : Encounter} (h : exchange a b = (e.a, e.b)) :
    e.a.id = a.id ∧ e.b.id = b.id := by
  have hfst := exchange_fst_calm a b
  have hsnd := exchange_snd_calm a b
  rw [h] at hfst hsnd
  exact ⟨Sprite.id_of_calm hfst, Sprite.id_of_calm hsnd⟩

/-- Whatever a session does, sprites keep their ids. -/
theorem Deed.ids (h : s.Deed o cfg us s') : s'.sprites.map (·.id) = s.sprites.map (·.id) := by
  cases h with
  | unseen hsprites => rw [hsprites]
  | reach | clock | banner => rfl
  | shift hx hcalm => exact map_id_set hx (Sprite.id_of_calm hcalm)
  | @meet e a b hne ha hb hexchange =>
    obtain ⟨hida, hidb⟩ := exchange_id hexchange
    have hb' : (s.sprites.set e.i e.a)[e.j]? = some b := by rwa [List.getElem?_set_ne hne]
    exact (map_id_set hb' hidb).trans (map_id_set ha hida)
  | start _ hx => exact map_id_set hx rfl

theorem Deeds.ids (h : s.Deeds o cfg us s') : s'.sprites.map (·.id) = s.sprites.map (·.id) := by
  induction h with
  | refl => rfl
  | next _ hdeed ih => exact hdeed.ids.trans ih

/-- A notice of one sprite shows it. -/
theorem InView.shift (h : s.InView) (hids : (s.sprites.map (·.id)).Nodup) {i : Nat} {x x' : Sprite}
    (hx : s.sprites[i]? = some x) (hid : x'.id = x.id) {n : Notice} (hn : n.sprites = [x']) :
    ((s.put i x').tell o n).InView where
  sprites y hy := by
    rcases mem_set_of_nodup hids hx hid hy with rfl | ⟨hmem, hne⟩
    · exact .told (by simp [hn]) (by simp [hn])
    · exact .told_of_ne (by simpa [hn] using hne) (h.sprites y hmem)
  banner := by
    have hbanner : n.banner? = none := by cases n <;> first | rfl | simp [Notice.sprites] at hn
    refine (Journal.lastBanner_told _ n _).trans ?_
    rw [hbanner]
    exact h.banner

theorem InView.reach (h : s.InView) (m : Milestone) : (s.reach m).InView where
  sprites x hx n hn := by
    rw [Session.reach, record, Journal.lastOf?_reached] at hn
    exact h.sprites x hx n hn
  banner := (Journal.lastBanner_reached _ m _).trans h.banner

/-- The notice that two sprites met shows both, whatever was told of them just before. -/
theorem InView.meet (h : s.InView) (hids : (s.sprites.map (·.id)).Nodup) {e : Encounter}
    {a b : Sprite} (hne : e.i ≠ e.j) (ha : s.sprites[e.i]? = some a) (hb : s.sprites[e.j]? = some b)
    (hexchange : exchange a b = (e.a, e.b)) :
    (((s.put e.i e.a).put e.j e.b).tellEncounter o e).InView where
  sprites y hy := by
    obtain ⟨hida, hidb⟩ := exchange_id hexchange
    have hb' : (s.sprites.set e.i e.a)[e.j]? = some b := by rwa [List.getElem?_set_ne hne]
    have hids' : ((s.sprites.set e.i e.a).map (·.id)).Nodup := by rwa [map_id_set ha hida]
    have hab : e.a.id ≠ e.b.id := by
      rw [hida, hidb]
      exact fun heq => hne (place_eq hids ha hb heq)
    rcases mem_set_of_nodup hids' hb' hidb hy with rfl | ⟨hmem, hneb⟩
    · exact .told (by simp [Notice.sprites, hab]) (by simp [Notice.sprites])
    · rcases mem_set_of_nodup hids ha hida hmem with rfl | ⟨hmem, hnea⟩
      · exact .told (by simp [Notice.sprites, hneb]) (by simp [Notice.sprites])
      · refine .told_of_ne (by simp [Notice.sprites, hnea, hneb]) ?_
        refine .told_of_ne (by simp [Notice.sprites, hneb]) ?_
        exact .told_of_ne (by simp [Notice.sprites, hnea]) (h.sprites y hmem)
  banner := by
    simp only [tellEncounter, tell, record, put, Journal.lastBanner_told, Notice.banner?,
      Option.getD_none]
    exact h.banner

/-- **Each deed tells of what it changes.** -/
theorem Deed.inView (h : s.Deed o cfg us s') (hids : (s.sprites.map (·.id)).Nodup)
    (hs : s.InView) : s'.InView := by
  cases h with
  | unseen hsprites hbanner _ _ hjournal _ =>
    exact ⟨by rw [hsprites, hjournal]; exact hs.sprites,
      by rw [hbanner, hjournal]; exact hs.banner⟩
  | reach => exact hs.reach _
  | clock =>
    refine ⟨?_, (Journal.lastBanner_told _ _ _).trans hs.banner⟩
    intro x hx
    exact .told_of_ne (by simp [Notice.sprites]) (hs.sprites x hx)
  | banner text =>
    refine ⟨?_, Journal.lastBanner_told _ _ _⟩
    intro x hx
    exact .told_of_ne (by simp [Notice.sprites]) (hs.sprites x hx)
  | shift hx hcalm hn => exact hs.shift hids hx (Sprite.id_of_calm hcalm) hn
  | meet hne ha hb hexchange => exact hs.meet hids hne ha hb hexchange
  | @start i x b _ hx =>
    have hreach := hs.reach (.blockStarted i x.name b)
    exact hreach.shift hids hx (rfl : (x.starting cfg b).id = x.id)
      (rfl : (Notice.update (x.starting cfg b)).sprites = [x.starting cfg b])

/-- **Deeds keep all sprites and the banner in view.** -/
theorem Deeds.inView (h : s.Deeds o cfg us s') (hids : (s.sprites.map (·.id)).Nodup)
    (hs : s.InView) : s'.InView := by
  induction h with
  | refl => exact hs
  | next hdeeds hdeed ih => exact hdeed.inView (by rwa [hdeeds.ids]) ih

end Session

/-! ## The latest notice -/

namespace Journal

/-- The latest notice that shows the sprite with an id is there, and is not that it speaks. -/
def Hushed (id : String) (j : Journal) : Prop :=
  ∃ n, j.lastOf? id = some n ∧ ∀ kind, n.topic ≠ .speech kind

/-- All sprites that the observer was told to have met flashed then. -/
def Flashes (j : Journal) : Prop :=
  ∀ a b, .collision a b ∈ j.notices → a.transient.flash = true ∧ b.transient.flash = true

variable {id : String} {t : Nat} {n : Notice} {j : Journal}

theorem Hushed.told (hn : ∀ u ∈ n.utterances t, u.speaker ≠ id) (h : j.Hushed id) :
    Hushed id (⟨t, .told n⟩ :: j) := by
  obtain ⟨n', hlast, htopic⟩ := h
  cases hshown : n.shown? id with
  | none => exact ⟨n', by rw [lastOf?_told, hshown]; exact hlast, htopic⟩
  | some x =>
    refine ⟨n, by rw [lastOf?_told, hshown]; rfl, ?_⟩
    intro kind hkind
    cases n with
    | speech kind' y text ms =>
      have hid := List.find?_some hshown
      obtain rfl : x = y := by simpa [Notice.sprites] using List.mem_of_find?_eq_some hshown
      exact hn _ (List.mem_singleton_self _) (by simpa using hid)
    | update | collision | banner | clock => simp [Notice.topic] at hkind

theorem Flashes.told (hn : n.topic ≠ .collision) (h : j.Flashes) : Flashes (⟨t, .told n⟩ :: j) := by
  intro a b hmem
  rw [notices_told] at hmem
  rcases List.mem_append.mp hmem with hmem | hmem
  · exact h a b hmem
  · rw [← List.mem_singleton.mp hmem] at hn
    exact absurd rfl hn

/-- **A sprite that is calm and hushed was shown by an update last.** -/
theorem Hushed.lastOf? {x : Sprite} (h : j.Hushed x.id) (hshows : j.Shows x) (hflashes : j.Flashes)
    (hcalm : x.transient = .calm) : j.lastOf? x.id = some (.update x) := by
  obtain ⟨n, hlast, htopic⟩ := h
  have hshown := hshows n hlast
  have hmem := List.mem_of_find?_eq_some hshown
  cases n with
  | update y =>
    obtain rfl : x = y := by simpa [Notice.sprites] using hmem
    exact hlast
  | speech kind => exact absurd rfl (htopic kind)
  | collision a b =>
    obtain ⟨ha, hb⟩ := hflashes a b (List.mem_reverse.mp (List.mem_of_find?_eq_some hlast))
    have hflash : x.transient.flash = true := by
      rcases (by simpa [Notice.sprites] using hmem : x = a ∨ x = b) with rfl | rfl
      · exact ha
      · exact hb
    simp [hcalm, Transient.calm] at hflash
  | banner | clock => simp [Notice.sprites] at hmem

end Journal

namespace Session

variable {σ : Type} {o : Observer σ} {cfg : Settings} {s s' : Session σ} {us : List Utterance}
  {id : String}

theorem Deed.hushed (h : s.Deed o cfg us s') (hus : ∀ u ∈ us, u.speaker ≠ id)
    (hs : s.journal.Hushed id) : s'.journal.Hushed id := by
  have hreached {t : Nat} {m : Milestone} : Journal.Hushed id (⟨t, .reached m⟩ :: s.journal) := by
    rw [Journal.Hushed, Journal.lastOf?_reached]
    exact hs
  cases h with
  | unseen _ _ _ _ hjournal => exact hjournal ▸ hs
  | reach => exact hreached
  | clock | banner => exact hs.told (by simp [Notice.utterances])
  | shift => exact hs.told hus
  | meet =>
    exact ((hs.told (by simp [Notice.utterances])).told (by simp [Notice.utterances])).told
      (by simp [Notice.utterances])
  | start => exact hreached.told (by simp [Notice.utterances])

/-- A sprite that does not utter anything stays hushed. -/
theorem Deeds.hushed (h : s.Deeds o cfg us s') (hus : ∀ u ∈ us, u.speaker ≠ id)
    (hs : s.journal.Hushed id) : s'.journal.Hushed id := by
  induction h with
  | refl => exact hs
  | next _ hdeed ih =>
    simp only [List.mem_append] at hus
    exact hdeed.hushed (fun u hu => hus u (.inr hu)) (ih fun u hu => hus u (.inl hu))

theorem Deed.flashes (h : s.Deed o cfg us s') (hs : s.journal.Flashes) : s'.journal.Flashes := by
  have hreached {t : Nat} {m : Milestone} : Journal.Flashes (⟨t, .reached m⟩ :: s.journal) := by
    rw [Journal.Flashes, Journal.notices_reached]
    exact hs
  cases h with
  | unseen _ _ _ _ hjournal => exact hjournal ▸ hs
  | reach => exact hreached
  | clock | banner => exact hs.told (by simp [Notice.topic])
  | @shift i x x' n _ _ hn =>
    refine hs.told ?_
    cases n <;> simp [Notice.topic, Notice.sprites] at hn ⊢
  | @meet e a b hne ha hb hexchange =>
    have hupdates : Journal.Flashes (⟨s.now, .told (.update e.b)⟩ :: ⟨s.now, .told (.update e.a)⟩ ::
        s.journal) := (hs.told (by simp [Notice.topic])).told (by simp [Notice.topic])
    intro a' b' hmem
    simp only [tellEncounter, tell, record, put] at hmem
    rw [Journal.notices_told] at hmem
    rcases List.mem_append.mp hmem with hmem | hmem
    · exact hupdates a' b' hmem
    · obtain ⟨rfl, rfl⟩ := Notice.collision.inj (List.mem_singleton.mp hmem)
      obtain ⟨hfst, hsnd⟩ := Prod.mk.inj hexchange
      rw [← hfst, ← hsnd]
      exact ⟨rfl, rfl⟩
  | start => exact hreached.told (by simp [Notice.topic])

theorem Deeds.flashes (h : s.Deeds o cfg us s') (hs : s.journal.Flashes) : s'.journal.Flashes := by
  induction h with
  | refl => exact hs
  | next _ hdeed ih => exact hdeed.flashes ih

/-- The last that is told of a sprite whose part ends is an update. -/
theorem hushed_finish {i : Nat} {x : Sprite} (hx : s.sprites[i]? = some x) :
    (s.finish o i).journal.Hushed x.id := by
  rw [finish_eq o hx]
  refine ⟨.update x.calm, ?_, by simp [Notice.topic]⟩
  rw [tell, record, Journal.lastOf?_told]
  simp [Notice.shown?, Notice.sprites]

end Session

/-! ## Sprites whose runners are done -/

namespace Drive

variable {σ : Type} {o : Observer σ} {cfg : Settings} {sprites : List Sprite}
  {d d' : Drive σ ScriptRunner}

/-- Each sprite whose runner is done is hushed. -/
def Hushed (sprites : List Sprite) (d : Drive σ ScriptRunner) : Prop :=
  ∀ i : Fin sprites.length, d.plot.runner? i = none → d.session.journal.Hushed (sprites.get i).id

/-- **A task leaves each sprite whose runner is done hushed**, as only sprites speak whose runners
are woken. -/
theorem Does.hushed (h : Does o cfg d d') (hids : (sprites.map (·.id)).Nodup)
    (hcourse : d.plot.OnCourse cfg sprites) (hd : d.Hushed sprites) : d'.Hushed sprites := by
  intro i hdone
  rcases h.ended hdone with hbefore | ⟨t, r, s, hwoken, hsession⟩
  · obtain ⟨us, hutters, hdeeds⟩ := h.utters hcourse
    refine hdeeds.hushed ?_ (hd i hbefore)
    intro u hu hspeaker
    obtain ⟨j, hj, hrunner⟩ := hutters.speaker hu
    obtain rfl : j = i := by
      by_contra hne
      exact id_ne hids hne (hj.symm.trans hspeaker)
    simp [hbefore] at hrunner
  · obtain ⟨_, _, y, -, -, hy, hyid⟩ := hwoken.sprite hcourse
    have hfinish := Session.hushed_finish (o := o) hy
    rw [hyid] at hfinish
    rw [hsession]
    exact (Session.deeds_heedStop o cfg _).hushed (by simp) hfinish

end Drive

/-! ## The end of a run -/

namespace Session

variable {σ : Type} (o : Observer σ) (s : Session σ)

theorem sprites_settleSprite (i : Nat) :
    (s.settleSprite o i).sprites = s.sprites.modify i Sprite.calm := by
  unfold settleSprite
  cases hx : s.sprites[i]? with
  | none => exact (List.modify_eq_self (List.getElem?_eq_none_iff.mp hx)).symm
  | some x =>
    dsimp only
    split
    · next hcalm =>
      obtain ⟨hlt, rfl⟩ := List.getElem?_eq_some_iff.mp hx
      have hsame : s.sprites[i].calm = s.sprites[i] := by rw [Sprite.calm, ← hcalm]
      rw [List.modify_eq_set_get Sprite.calm hlt, List.get_eq_getElem, hsame,
        List.set_getElem_self]
    · unfold update tellOf
      split <;> rfl

/-- Whatever the sprites at some places still show is cleared. -/
theorem getElem?_settleSprites (is : List Nat) (s : Session σ) (j : Nat) :
    (is.foldl (settleSprite o) s).sprites[j]? =
      s.sprites[j]?.map fun x => if j ∈ is then x.calm else x := by
  induction is generalizing s with
  | nil => simp
  | cons i is ih =>
    rw [List.foldl_cons, ih, sprites_settleSprite, List.getElem?_modify, Option.map_eq_map,
      Option.map_map]
    refine congrArg (s.sprites[j]?.map ·) ?_
    funext x
    by_cases hij : i = j
    · by_cases hmem : j ∈ is <;> simp [hij, hmem]
    · simp [hij, Ne.symm hij]

/-- **When a run is over, no sprite shows anything, and there is no banner.** -/
theorem calm_settle : (∀ x ∈ (s.settle o).sprites, x.transient = .calm) ∧
    (s.settle o).banner = none := by
  have hsprites : ∀ x ∈ ((List.range s.sprites.length).foldl (settleSprite o) s).sprites,
      x.transient = .calm := by
    intro x hx
    obtain ⟨j, hj⟩ := List.mem_iff_getElem?.mp hx
    rw [getElem?_settleSprites] at hj
    obtain ⟨y, hy, rfl⟩ := Option.map_eq_some_iff.mp hj
    rw [if_pos (List.mem_range.mpr (List.getElem?_eq_some_iff.mp hy).1)]
    rfl
  unfold settle
  dsimp only
  split
  · exact ⟨hsprites, rfl⟩
  · next hnone =>
    exact ⟨hsprites, by simpa using hnone⟩

variable {o s}

/-- **When all that outlived the runners is cleared, each sprite is calm and was shown by an update
last**, if it was hushed before. -/
theorem lastOf?_close (cfg : Settings) (hids : (s.sprites.map (·.id)).Nodup) (hview : s.InView)
    (hflashes : s.journal.Flashes) (hhushed : ∀ x ∈ s.sprites, s.journal.Hushed x.id)
    {s' : Session σ} (hs' : s' = (s.cancelAlarms.settle o).reach
      (.runFinished (s.cancelAlarms.settle o).report)) :
    s'.sprites.map (·.id) = s.sprites.map (·.id) ∧ s'.journal.lastBanner = none ∧
      ∀ x ∈ s'.sprites, x.transient = .calm ∧ s'.journal.lastOf? x.id = some (.update x) := by
  have hdeeds : s.Deeds o cfg [] s' := hs' ▸ s.deeds_close o cfg
  obtain ⟨hcalm, hbanner⟩ := calm_settle o s.cancelAlarms
  have hview' := hdeeds.inView hids hview
  have hsame := hdeeds.ids
  have hsprites : s'.sprites = (s.cancelAlarms.settle o).sprites := by rw [hs']; rfl
  have hbanner' : s'.banner = none := by rw [hs']; exact hbanner
  refine ⟨hsame, hview'.banner.trans hbanner', ?_⟩
  intro x hx
  have htransient := hcalm x (hsprites ▸ hx)
  obtain ⟨y, hy, hid⟩ : ∃ y ∈ s.sprites, y.id = x.id := by
    have hmem : x.id ∈ s'.sprites.map (·.id) := List.mem_map_of_mem hx
    rw [hsame] at hmem
    exact List.mem_map.mp hmem
  have hhushed' := hdeeds.hushed (by simp) (hid ▸ hhushed y hy)
  exact ⟨htransient, hhushed'.lastOf? (hview'.sprites x hx) (hdeeds.flashes hflashes) htransient⟩

end Session

section
variable {σ : Type} (o : Observer σ) (cfg : Settings) (sprites : List Sprite) (watcher : σ)
  (stopping : Bool)

theorem Session.sprites_opening :
    (Drive.opening cfg sprites watcher stopping).session.sprites = sprites := by
  rw [Drive.session_opening]
  rfl

theorem Session.notices_opening :
    (Drive.opening cfg sprites watcher stopping).session.journal.notices = [] := by
  rw [Drive.session_opening]
  rfl

theorem Session.inView_opening : (Drive.opening cfg sprites watcher stopping).session.InView where
  sprites x _ n hlast := by
    rw [Journal.lastOf?, notices_opening] at hlast
    simp at hlast
  banner := by
    rw [Journal.lastBanner, notices_opening, Drive.session_opening]
    rfl

variable (hids : (sprites.map (·.id)).Nodup)
include hids

namespace Drive

variable (n : Nat)

/-- **All sprites and the banner are in view after any number of tasks.** -/
theorem inView_after :
    ((Drive.opening cfg sprites watcher stopping).after o cfg n).session.InView := by
  obtain ⟨us, hdeeds⟩ := deeds_after o cfg sprites watcher stopping n
  refine hdeeds.inView ?_ (Session.inView_opening cfg sprites watcher stopping)
  rw [Session.sprites_opening]
  exact hids

theorem hushed_after :
    ((Drive.opening cfg sprites watcher stopping).after o cfg n).Hushed sprites := by
  refine runs_induction o cfg sprites watcher stopping ?_ ?_ n
  · intro i hdone
    exact absurd hdone (runner?_opening_ne_none cfg sprites watcher stopping i)
  · intro d d' hruns hstep hd
    exact (hruns.does hstep).hushed hids hruns.reachable.onCourse hd

end Drive

/-- When a run is over, each sprite is calm and was shown by an update last, and the observer was
told that there is no banner. -/
theorem Session.lastOf?_runAll : let s := ((Session.begin sprites watcher stopping).runAll o cfg).2
    s.sprites.map (·.id) = sprites.map (·.id) ∧ s.journal.lastBanner = none ∧
      ∀ x ∈ s.sprites, x.transient = .calm ∧ s.journal.lastOf? x.id = some (.update x) := by
  obtain ⟨us, hdeeds⟩ := Drive.deeds_after o cfg sprites watcher stopping
    ((Drive.opening cfg sprites watcher stopping).budget cfg)
  have hview := Drive.inView_after o cfg sprites watcher stopping hids
    ((Drive.opening cfg sprites watcher stopping).budget cfg)
  have hhushed := Drive.hushed_after o cfg sprites watcher stopping hids
    ((Drive.opening cfg sprites watcher stopping).budget cfg)
  have hover := Drive.isOver_last o cfg sprites watcher stopping
  have hflashes := hdeeds.flashes (by
    intro a b hmem
    simp [notices_opening] at hmem)
  have hsame := hdeeds.ids
  rw [sprites_opening] at hsame
  simp only [runAll_eq, ← hsame]
  rw [← Drive.last] at hsame hview hhushed hflashes ⊢
  generalize (Drive.opening cfg sprites watcher stopping).last o cfg = d at *
  refine lastOf?_close cfg (hsame ▸ hids) hview hflashes ?_ rfl
  intro x hx
  have hmem : x.id ∈ sprites.map (·.id) := hsame ▸ List.mem_map_of_mem hx
  obtain ⟨y, hy, hid⟩ := List.mem_map.mp hmem
  obtain ⟨i, hi, rfl⟩ := List.getElem_of_mem hy
  have hdone : d.plot.runner? i = none := Plot.runner?_eq_none (p := d.plot) hover i
  exact hid ▸ hhushed ⟨i, hi⟩ hdone

end

/-! ## The whole run -/

/-- A player runs the scripts of copies. -/
theorem Player.runAll_eq {σ : Type} (p : Player) (o : Observer σ) (sprites : List Sprite)
    (watcher : σ) : p.runAll o sprites watcher =
      let run := (Session.begin (sprites.map Sprite.working) watcher p.stopRequested).runAll o
        p.settings
      ({ p with stopRequested := false },
        { sprites := List.zipWith Sprite.takePose sprites run.2.sprites
          report := run.1
          watcher := run.2.watcher
          journal := run.2.journal
          waits := run.2.timeline.waits.reverse }) := rfl

/-- **The view of the observer is never stale.** At any time between two tasks the observer has been
shown each sprite as it is, if it was shown at all, and was told what the banner is. When the run is
over, each sprite was shown by an update last, with nothing transient and with the pose that its
owner finds, and there is no banner. -/
theorem Player.runAll_view {σ : Type} (p : Player) (o : Observer σ) (sprites : List Sprite)
    (watcher : σ) (hids : (sprites.map (·.id)).Nodup) :
    let opening := Drive.opening p.settings (sprites.map Sprite.working) watcher p.stopRequested
    let outcome := (p.runAll o sprites watcher).2
    (∀ m, (opening.after o p.settings m).session.journal <:+ outcome.journal ∧
      (opening.after o p.settings m).session.HeardFrom o watcher ∧
      (opening.after o p.settings m).session.InView) ∧
    outcome.watcher = outcome.journal.notices.foldl (fun w n => (o.hear w n).1) watcher ∧
    outcome.journal.lastBanner = none ∧
    ∀ i : Fin sprites.length, ∃ x : Sprite,
      outcome.journal.lastOf? (sprites.get i).id = some (.update x) ∧ x.id = (sprites.get i).id ∧
      x.transient = .calm ∧
      outcome.sprites[(i : Nat)]? = some { (sprites.get i).calm with pose := x.pose } := by
  have hids' : ((sprites.map Sprite.working).map (·.id)).Nodup := by
    rw [List.map_map]
    exact hids
  have hviews := Drive.inView_after o p.settings (sprites.map Sprite.working) watcher
    p.stopRequested hids'
  have hheard := Drive.obeys_after o p.settings (sprites.map Sprite.working) watcher
    p.stopRequested
  have hjournal := Session.journal_after o p.settings (sprites.map Sprite.working) watcher
    p.stopRequested
  obtain ⟨hobeys, -⟩ := Session.stopped_runAll o p.settings (sprites.map Sprite.working) watcher
    p.stopRequested
  obtain ⟨hsame, hbanner, hsprites⟩ := Session.lastOf?_runAll o p.settings
    (sprites.map Sprite.working) watcher p.stopRequested hids'
  simp only [runAll_eq]
  generalize (Session.begin (sprites.map Sprite.working) watcher p.stopRequested).runAll o
    p.settings = run at *
  refine ⟨fun m => ⟨hjournal m, (hheard m).heard, hviews m⟩, hobeys.heard, hbanner, ?_⟩
  intro i
  have hid := congrArg (·[(i : Nat)]?) hsame
  simp only [List.getElem?_map, List.getElem?_eq_getElem i.2, Option.map_some] at hid
  obtain ⟨x, hx, hid⟩ := Option.map_eq_some_iff.mp hid
  have hxid : x.id = (sprites.get i).id := hid
  obtain ⟨hcalm, hlast⟩ := hsprites x (List.mem_of_getElem? hx)
  refine ⟨x, hxid ▸ hlast, hxid, hcalm, ?_⟩
  rw [List.getElem?_zipWith, List.getElem?_eq_getElem i.2, hx]
  rfl

theorem Player.runAll_view_catAndDog : (catAndDog.map (·.id)).Nodup ∧ ∃ x,
    (({} : Player).runAll .silent catAndDog ()).2.journal.lastOf? "cat" = some (.update x) ∧
      x.transient = .calm := by
  have hids : (catAndDog.map (·.id)).Nodup := by decide
  obtain ⟨-, -, -, hlast⟩ := runAll_view {} .silent catAndDog () hids
  obtain ⟨x, hx, -, hcalm, -⟩ := hlast ⟨0, by decide⟩
  exact ⟨hids, x, hx, hcalm⟩

end SpriteScript
