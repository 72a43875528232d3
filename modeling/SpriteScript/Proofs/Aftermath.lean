/-
  What the observer is told of sprites after a request to stop.

  Blocks that are in progress at a request to stop go on to their ends, and a collision pass follows
  each of them. So sprites may still meet, and the observer is told of it. Beside that a sprite is
  shown only to be cleared: when its runner is done, and once more if it shows something when all
  runners are.

  * `Journal.updatesOf` is what updates show of a sprite, `Journal.meetingsOf` the number of
    encounters that the observer is told of it;
  * `Journal.Spares`: an account of both, which leaves room for what is still to be cleared;
  * `Session.Sparing`: the accounts of all sprites are kept, wherever the request to stop came;
  * `Sparing.ring`, `Sparing.settleBusy`, `Sparing.start`, `Sparing.finish`, `Sparing.settle`: **all
    that a session does keeps them**, but for an alarm that goes off at the request;
  * `Drive.sparing_after` and `Session.sparing_runAll`: they are kept throughout a run;
  * `Player.runAll_spares`: **what the observer is told of a sprite after a request to stop**;
  * `Player.not_runAll_hushed`: it may be more than one update.
-/
import SpriteScript.Proofs.Stopping

namespace SpriteScript

/-! ## Updates and meetings -/

/-- What an entry shows by an update of the sprite with an id. -/
def Entry.updateOf? (id : String) (e : Entry) : Option Transient :=
  match e.happening with
  | .told (.update x) => if x.id = id then some x.transient else none
  | _ => none

/-- Whether the observer is told that the sprite with an id has met another one. -/
def Entry.meets (id : String) (e : Entry) : Bool :=
  match e.happening with
  | .told (.collision a b) => a.id == id || b.id == id
  | _ => false

namespace Journal

/-- What is shown by updates of the sprite with an id, the earliest first. -/
def updatesOf (id : String) (j : Journal) : List Transient :=
  j.reverse.filterMap (Entry.updateOf? id)

/-- How often the observer is told that the sprite with an id has met another one. -/
def meetingsOf (id : String) (j : Journal) : Nat := j.countP (Entry.meets id)

/-- How often an update shows the sprite with an id cleared. -/
def clearingsOf (id : String) (j : Journal) : Nat := (j.updatesOf id).count .calm

theorem updatesOf_cons (id : String) (e : Entry) (j : Journal) :
    updatesOf id (e :: j) = updatesOf id j ++ (e.updateOf? id).toList := by
  simp only [updatesOf, List.reverse_cons, List.filterMap_append, List.filterMap_cons,
    List.filterMap_nil]
  cases e.updateOf? id <;> rfl

theorem meetingsOf_cons (id : String) (e : Entry) (j : Journal) :
    meetingsOf id (e :: j) = meetingsOf id j + if e.meets id then 1 else 0 := List.countP_cons

/-- An account of what is told of a sprite since a request to stop. There is an update for each
meeting at most that shows it flash, and all others show it cleared. If it is not cleared yet, it
may be once more: altogether once, or twice if it meets another sprite. -/
structure Spares (x : Sprite) (bound : Nat) (j : Journal) : Prop where
  shown : ∀ t ∈ j.updatesOf x.id, t = .calm ∨ t.flash = true
  reports : (j.updatesOf x.id).countP (·.flash) ≤ j.meetingsOf x.id
  cleared : j.clearingsOf x.id + (if x.transient = .calm then 0 else 1) ≤
    if j.meetingsOf x.id = 0 then 1 else 2
  bounded : j.clearingsOf x.id ≤ bound

namespace Spares

variable {x x' : Sprite} {n n' t : Nat} {e : Entry} {j : Journal}

/-- As long as there are no updates of a sprite, there is not much to say. -/
theorem of_nil (h : j.updatesOf x.id = []) : j.Spares x n where
  shown := by simp [h]
  reports := by simp [h]
  cleared := by
    simp only [clearingsOf, h, List.count_nil]
    split <;> split <;> omega
  bounded := by simp [clearingsOf, h]

/-- What is not shown may change, but nothing is to be cleared that was not before. -/
theorem congr (h : j.Spares x n) (hid : x'.id = x.id)
    (hcalm : x.transient = .calm → x'.transient = .calm) (hn : n ≤ n') : j.Spares x' n' where
  shown := hid ▸ h.shown
  reports := hid ▸ h.reports
  cleared := by
    have hcleared := h.cleared
    rw [hid]
    by_cases hx : x.transient = .calm
    · rw [if_pos hx] at hcleared
      rwa [if_pos (hcalm hx)]
    · rw [if_neg hx] at hcleared
      refine Nat.le_trans (Nat.add_le_add_left ?_ _) hcleared
      split <;> omega
  bounded := hid ▸ Nat.le_trans h.bounded hn

/-- An entry that is about something else. -/
theorem mute (h : j.Spares x n) (hupdate : e.updateOf? x.id = none)
    (hmeets : e.meets x.id = false) : Spares x n (e :: j) := by
  have hupdates : updatesOf x.id (e :: j) = j.updatesOf x.id := by
    rw [updatesOf_cons, hupdate]
    exact List.append_nil _
  have hmeetings : meetingsOf x.id (e :: j) = j.meetingsOf x.id := by
    rw [meetingsOf_cons, hmeets]
    rfl
  have hclearings : clearingsOf x.id (e :: j) = j.clearingsOf x.id := by
    rw [clearingsOf, hupdates]
    rfl
  exact ⟨hupdates ▸ h.shown, hupdates ▸ hmeetings ▸ h.reports,
    hclearings ▸ hmeetings ▸ h.cleared, hclearings ▸ h.bounded⟩

/-- **A sprite is cleared**, for the first time or because it shows something. -/
theorem clear (h : j.Spares x n) (hroom : n = 0 ∨ x.transient ≠ .calm)
    (hn : n + 1 ≤ n' ∨ 2 ≤ n') : Spares x.calm n' (⟨t, .told (.update x.calm)⟩ :: j) := by
  have hupdates : updatesOf x.id (⟨t, .told (.update x.calm)⟩ :: j) =
      j.updatesOf x.id ++ [.calm] := by
    rw [updatesOf_cons]
    simp [Entry.updateOf?, Sprite.calm]
  have hmeetings : meetingsOf x.id (⟨t, .told (.update x.calm)⟩ :: j) = j.meetingsOf x.id := rfl
  have hclearings : clearingsOf x.id (⟨t, .told (.update x.calm)⟩ :: j) =
      j.clearingsOf x.id + 1 := by
    rw [clearingsOf, hupdates, List.count_append]
    rfl
  have hcleared := h.cleared
  have hbounded := h.bounded
  constructor
  case shown =>
    intro u hu
    change u ∈ updatesOf x.id _ at hu
    rw [hupdates] at hu
    rcases List.mem_append.mp hu with hu | hu
    · exact h.shown u hu
    · exact .inl (List.mem_singleton.mp hu)
  case reports =>
    change List.countP _ (updatesOf x.id _) ≤ meetingsOf x.id _
    rw [hupdates, hmeetings, List.countP_append]
    exact h.reports
  case cleared =>
    change clearingsOf x.id _ + _ ≤ if meetingsOf x.id _ = 0 then 1 else 2
    rw [hclearings, hmeetings, if_pos (show x.calm.transient = .calm from rfl)]
    rcases hroom with hzero | hshows
    · split at hcleared <;> split <;> omega
    · rwa [if_neg hshows] at hcleared
  case bounded =>
    change clearingsOf x.id _ ≤ n'
    rw [hclearings]
    have htwo : j.clearingsOf x.id + 1 ≤ 2 := by
      rcases hroom with hzero | hshows
      · omega
      · rw [if_neg hshows] at hcleared
        split at hcleared <;> omega
    omega

/-- **A sprite is told to have met another one**, after an update that shows it flash. -/
theorem report (h : j.Spares x n) (es : Journal) (hn : n ≤ 1) (hid : x'.id = x.id)
    (hflash : x'.transient.flash = true)
    (hupdates : updatesOf x.id (es ++ j) = j.updatesOf x.id ++ [x'.transient])
    (hmeetings : meetingsOf x.id (es ++ j) = j.meetingsOf x.id + 1) : Spares x' n (es ++ j) := by
  have hshows : x'.transient ≠ .calm := by
    intro hcalm
    simp [hcalm, Transient.calm] at hflash
  have hclearings : clearingsOf x.id (es ++ j) = j.clearingsOf x.id := by
    rw [clearingsOf, hupdates, List.count_append, List.count_singleton,
      if_neg (by simpa using hshows)]
    rfl
  have hreports := h.reports
  have hbounded := h.bounded
  constructor
  case shown =>
    intro u hu
    rw [hid, hupdates] at hu
    rcases List.mem_append.mp hu with hu | hu
    · exact h.shown u hu
    · exact .inr (List.mem_singleton.mp hu ▸ hflash)
  case reports =>
    rw [hid, hupdates, hmeetings, List.countP_append]
    simpa [hflash] using hreports
  case cleared =>
    rw [hid, hclearings, hmeetings, if_neg hshows]
    simp
    omega
  case bounded => rwa [hid, hclearings]

end Spares

end Journal

/-! ## Sessions -/

/-- A sprite that has met another one, or one that has not. -/
theorem place_of_met {l : List Sprite} {a b a' b' : Sprite} {i j : Nat}
    (hids : (l.map (·.id)).Nodup) (ha : l[i]? = some a) (hb : l[j]? = some b) {k : Nat} {y : Sprite}
    (hy : ((l.set i a').set j b')[k]? = some y) :
    (k = i ∧ y = a') ∨ (k = j ∧ y = b') ∨ (l[k]? = some y ∧ a.id ≠ y.id ∧ b.id ≠ y.id) := by
  rcases place_of_set hy with ⟨rfl, rfl⟩ | ⟨hj, hy⟩
  · exact .inr (.inl ⟨rfl, rfl⟩)
  · rcases place_of_set hy with ⟨rfl, rfl⟩ | ⟨hi, hy⟩
    · exact .inl ⟨rfl, rfl⟩
    · exact .inr (.inr ⟨hy, fun hid => hi (place_eq hids ha hy hid),
        fun hid => hj (place_eq hids hb hy hid)⟩)

namespace Session

variable {σ : Type} (asked : Journal → Prop) (Rung : Journal → Journal → Prop)

/-- Wherever the journal says that a stop has been `asked` for, the accounts of all sprites are kept
since then, up to a `Rung` that an alarm has added which went off at the request. -/
structure Sparing (bound : Nat → Nat) (s : Session σ) : Prop where
  ids : (s.sprites.map (·.id)).Nodup
  since : ∀ later earlier, s.journal = later ++ earlier → asked earlier → ∃ rest rung,
    later = rest ++ rung ∧ (rung = [] ∨ Rung earlier rung) ∧
      ∀ i x, s.sprites[i]? = some x → rest.Spares x (bound i)

namespace Sparing

variable {asked Rung} {bound bound' : Nat → Nat} {o : Observer σ} {cfg : Settings}
  {s s' : Session σ} {i : Nat} {x x' : Sprite} {e : Entry} {j : Journal}

/-- A journal that goes on. The request to stop may come between the new entries. -/
theorem extend (h : s.Sparing asked Rung bound) (es : Journal)
    (hids : (s'.sprites.map (·.id)).Nodup) (hjournal : s'.journal = es ++ s.journal)
    (hcut : ∀ late early, es = late ++ early → early ≠ [] →
      ∀ i x, s'.sprites[i]? = some x → late.Spares x (bound' i))
    (hkeep : ∀ rest : Journal, (∀ i x, s.sprites[i]? = some x → rest.Spares x (bound i)) →
      ∀ i x, s'.sprites[i]? = some x → Journal.Spares x (bound' i) (es ++ rest)) :
    s'.Sparing asked Rung bound' where
  ids := hids
  since later earlier hsplit hasked := by
    rw [hjournal] at hsplit
    rcases List.append_eq_append_iff.mp hsplit with ⟨more, rfl, hold⟩ | ⟨early, rfl, rfl⟩
    · obtain ⟨rest, rung, rfl, hrung, hspares⟩ := h.since more earlier hold hasked
      exact ⟨es ++ rest, rung, (List.append_assoc ..).symm, hrung, hkeep rest hspares⟩
    · refine ⟨later, [], (List.append_nil _).symm, .inl rfl, ?_⟩
      by_cases hearly : early = []
      · subst hearly
        have hnew := hkeep [] fun i x _ => .of_nil rfl
        rwa [List.append_nil, List.append_nil] at hnew
      · exact hcut later early rfl hearly

/-- A journal with one more entry. -/
theorem cons (h : s.Sparing asked Rung bound) (hids : (s'.sprites.map (·.id)).Nodup)
    (hjournal : s'.journal = e :: s.journal)
    (hkeep : ∀ rest : Journal, (∀ i x, s.sprites[i]? = some x → rest.Spares x (bound i)) →
      ∀ i x, s'.sprites[i]? = some x → Journal.Spares x (bound' i) (e :: rest)) :
    s'.Sparing asked Rung bound' := by
  refine h.extend [e] hids hjournal ?_ hkeep
  intro late early hcut hearly i x _
  rcases List.singleton_eq_append_iff.mp hcut with ⟨rfl, -⟩ | ⟨-, hnil⟩
  · exact .of_nil rfl
  · exact absurd hnil hearly

/-- An entry that is about no sprite. -/
theorem mute (h : s.Sparing asked Rung bound) (hsprites : s'.sprites = s.sprites)
    (hjournal : s'.journal = e :: s.journal)
    (he : ∀ id, e.updateOf? id = none ∧ e.meets id = false) : s'.Sparing asked Rung bound := by
  refine h.cons (hsprites ▸ h.ids) hjournal ?_
  intro rest hrest i x hx
  exact (hrest i x (hsprites ▸ hx)).mute (he x.id).1 (he x.id).2

/-- What is not in the journal does not matter, but for sprites that show something. -/
theorem still (h : s.Sparing asked Rung bound) (hids : (s'.sprites.map (·.id)).Nodup)
    (hjournal : s'.journal = s.journal)
    (hsprites : ∀ (i : Nat) (x' : Sprite), s'.sprites[i]? = some x' → ∃ x : Sprite,
      s.sprites[i]? = some x ∧ x'.id = x.id ∧ (x.transient = .calm → x'.transient = .calm))
    (hbound : ∀ i, bound i ≤ bound' i) : s'.Sparing asked Rung bound' := by
  refine h.extend [] hids hjournal ?_ ?_
  · intro late early hcut hearly
    exact absurd (List.append_eq_nil_iff.mp hcut.symm).2 hearly
  · intro rest hrest i x' hx'
    obtain ⟨x, hx, hid, hcalm⟩ := hsprites i x' hx'
    exact (hrest i x hx).congr hid hcalm (hbound i)

theorem mono (h : s.Sparing asked Rung bound) (hbound : ∀ i, bound i ≤ bound' i) :
    s.Sparing asked Rung bound' :=
  h.still h.ids rfl (fun _ x hx => ⟨x, hx, rfl, id⟩) hbound

theorem congr (h : s.Sparing asked Rung bound) (hsprites : s'.sprites = s.sprites)
    (hjournal : s'.journal = s.journal) : s'.Sparing asked Rung bound := by
  refine h.still (hsprites ▸ h.ids) hjournal ?_ fun _ => Nat.le_refl _
  intro i x hx
  exact ⟨x, hsprites ▸ hx, rfl, id⟩

theorem reach (h : s.Sparing asked Rung bound) (m : Milestone) :
    (s.reach m).Sparing asked Rung bound := h.mute rfl rfl fun _ => ⟨rfl, rfl⟩

theorem put (h : s.Sparing asked Rung bound) (hx : s.sprites[i]? = some x) (hid : x'.id = x.id)
    (hcalm : x.transient = .calm → x'.transient = .calm) :
    (s.put i x').Sparing asked Rung bound := by
  refine h.still ?_ rfl ?_ fun _ => Nat.le_refl _
  · exact (map_id_set hx hid).symm ▸ h.ids
  · intro j y hy
    rcases place_of_set hy with ⟨rfl, rfl⟩ | ⟨-, hold⟩
    · exact ⟨x, hx, hid, hcalm⟩
    · exact ⟨y, hold, rfl, id⟩

/-- An entry that can only be the first one after a request to stop, and is not accounted for. -/
theorem rung (hids : (s.sprites.map (·.id)).Nodup) (hjournal : s.journal = e :: j)
    (hrung : ∀ later earlier, j = later ++ earlier → asked earlier →
      later = [] ∧ Rung earlier [e]) : s.Sparing asked Rung bound where
  ids := hids
  since later earlier hsplit hasked := by
    rw [hjournal] at hsplit
    rcases List.cons_eq_append_iff.mp hsplit with ⟨rfl, -⟩ | ⟨more, rfl, hj⟩
    · exact ⟨[], [], rfl, .inl rfl, fun _ _ _ => .of_nil rfl⟩
    · obtain ⟨rfl, hearlier⟩ := hrung more earlier hj hasked
      exact ⟨[], [e], rfl, .inr hearlier, fun _ _ _ => .of_nil rfl⟩

/-- **A sprite is cleared**, for the first time or because it shows something. -/
theorem clear (h : s.Sparing asked Rung bound) (hx : s.sprites[i]? = some x)
    (hroom : bound i = 0 ∨ x.transient ≠ .calm) (hbound : ∀ k, bound k ≤ bound' k)
    (hbound' : bound i + 1 ≤ bound' i ∨ 2 ≤ bound' i) :
    ((s.put i x.calm).tell o (.update x.calm)).Sparing asked Rung bound' := by
  refine h.cons ?_ rfl ?_
  · exact (map_id_set hx (rfl : x.calm.id = x.id)).symm ▸ h.ids
  · intro rest hrest j y hy
    rcases place_of_set hy with ⟨rfl, rfl⟩ | ⟨hij, hold⟩
    · exact (hrest i x hx).clear hroom hbound'
    · have hid : x.calm.id ≠ y.id := fun hid => hij (place_eq h.ids hx hold hid)
      exact ((hrest j y hold).congr rfl id (hbound j)).mute (if_neg hid) rfl

/-- **When sprites meet, the observer is told of it**, after an update that shows each flash. -/
theorem meet (h : s.Sparing asked Rung bound) (hbound : ∀ k, bound k ≤ 1) {m : Encounter}
    {a b : Sprite} (hne : m.i ≠ m.j) (ha : s.sprites[m.i]? = some a)
    (hb : s.sprites[m.j]? = some b) (hexchange : exchange a b = (m.a, m.b)) :
    (((s.put m.i m.a).put m.j m.b).tellEncounter o m).Sparing asked Rung bound := by
  have hdeed : s.Deed o {} [] (((s.put m.i m.a).put m.j m.b).tellEncounter o m) :=
    .meet hne ha hb hexchange
  obtain ⟨hida, hidb⟩ := exchange_id hexchange
  have hids := h.ids
  rw [← hdeed.ids] at hids
  have hflasha : m.a.transient.flash = true := (congrArg (·.1.transient.flash) hexchange).symm
  have hflashb : m.b.transient.flash = true := (congrArg (·.2.transient.flash) hexchange).symm
  have hab : a.id ≠ b.id := fun hid => hne (place_eq h.ids ha hb hid)
  have hplace (k : Nat) (y : Sprite)
      (hy : (((s.put m.i m.a).put m.j m.b).tellEncounter o m).sprites[k]? = some y) :=
    place_of_met h.ids ha hb hy
  refine h.extend [⟨s.now, .told (.collision m.a m.b)⟩, ⟨s.now, .told (.update m.b)⟩,
    ⟨s.now, .told (.update m.a)⟩] hids rfl ?_ ?_
  · intro late early hcut hearly k y hy
    match late, hcut with
    | [], _ => exact .of_nil rfl
    | [_], hcut =>
      obtain ⟨rfl, -⟩ := List.cons.inj hcut
      exact .of_nil rfl
    | [_, _], hcut =>
      simp only [List.cons_append, List.cons.injEq] at hcut
      obtain ⟨rfl, rfl, -⟩ := hcut
      rcases hplace k y hy with ⟨rfl, rfl⟩ | ⟨rfl, rfl⟩ | ⟨-, -, hneb⟩
      · refine .of_nil ?_
        simp [Journal.updatesOf, Entry.updateOf?, hida, hidb, hab.symm]
      · refine Journal.Spares.report (x := b) (j := []) (.of_nil rfl) [_, _] (hbound _) hidb hflashb
          ?_ ?_
        · simp [Journal.updatesOf, Entry.updateOf?, hidb]
        · simp [Journal.meetingsOf, Entry.meets, hidb]
      · refine .of_nil ?_
        simp [Journal.updatesOf, Entry.updateOf?, hidb, hneb]
    | _ :: _ :: _ :: late, hcut =>
      simp only [List.cons_append, List.cons.injEq, List.nil_eq, List.append_eq_nil_iff] at hcut
      exact absurd hcut.2.2.2.2 hearly
  · intro rest hrest k y hy
    rcases hplace k y hy with ⟨rfl, rfl⟩ | ⟨rfl, rfl⟩ | ⟨hold, hnea, hneb⟩
    · refine (hrest m.i a ha).report _ (hbound _) hida hflasha ?_ ?_
      · simp [Journal.updatesOf, Entry.updateOf?, hida, hidb, hab.symm]
      · simp [Journal.meetingsOf, Entry.meets, hida]
    · refine (hrest m.j b hb).report _ (hbound _) hidb hflashb ?_ ?_
      · simp [Journal.updatesOf, Entry.updateOf?, hida, hidb, hab]
      · simp [Journal.meetingsOf, Entry.meets, hidb]
    · rw [← hida] at hnea
      rw [← hidb] at hneb
      refine (((hrest k y hold).mute ?_ rfl).mute ?_ rfl).mute rfl ?_
      · exact if_neg hnea
      · exact if_neg hneb
      · simp [Entry.meets, hnea, hneb]

/-! ### What a session does -/

/-- A bubble that is taken away. -/
theorem endSpeech (h : s.Sparing asked Rung bound) (i : Nat) (kind : SpeechKind) :
    ((s.modifySprite i (·.withBubble none)).tellOf o i
      (.speech kind · "" 0)).Sparing asked Rung bound := by
  cases hx : s.sprites[i]? with
  | none =>
    rw [modifySprite_of_none hx, tellOf, hx]
    exact h
  | some x =>
    rw [modifySprite_eq hx, tellOf_eq o (getElem?_put hx _)]
    have hid : (x.withBubble none).id = x.id := rfl
    have hsilent := h.put hx hid fun hcalm => by rw [Sprite.withBubble, hcalm]; rfl
    exact hsilent.mute rfl rfl fun _ => ⟨rfl, rfl⟩

theorem noteStranded (h : s.Sparing asked Rung bound) (i : Nat) (x : Sprite) :
    (s.noteStranded i x).Sparing asked Rung bound := by
  unfold Session.noteStranded
  dsimp only
  split
  · exact h.reach _
  · exact h

theorem followEncounter (h : s.Sparing asked Rung bound) (m : Encounter) :
    (s.followEncounter o cfg m).Sparing asked Rung bound := by
  unfold Session.followEncounter
  refine Sparing.noteStranded (Sparing.noteStranded ?_ _ _) _ _
  exact (h.reach (.collisionSwap m.a.name m.b.name (s.stage.queues.get m.a.id).length
    (s.stage.queues.get m.b.id).length)).mute rfl rfl fun _ => ⟨rfl, rfl⟩

theorem collide (h : s.Sparing asked Rung bound) (hbound : ∀ k, bound k ≤ 1) :
    (s.collide o cfg).Sparing asked Rung bound := by
  have hfollow (ms : List Encounter) (t : Session σ) (ht : t.Sparing asked Rung bound) :
      (ms.foldl (Session.followEncounter o cfg) t).Sparing asked Rung bound :=
    List.foldlRecOn ms _ ht fun _ hs m _ => hs.followEncounter m
  refine hfollow _ _ ?_
  refine visit_induction (motive := fun t => t.Sparing asked Rung bound) ?_ ?_ _
    (fun _ => lt_of_mem_placePairs) s s.stage rfl h
  · intro t t' ht hsprites _ _ _ hjournal _
    exact ht.congr hsprites hjournal
  · intro t m a b ht hne ha hb hexchange
    exact ht.meet hbound hne ha hb hexchange

/-- A block that is over: what follows is a collision pass at most. -/
theorem settleBusy (h : s.Sparing asked Rung bound) (hbound : ∀ k, bound k ≤ 1)
    (r : ScriptRunner) : (r.settleBusy o cfg s).Sparing asked Rung bound := by
  unfold ScriptRunner.settleBusy
  cases r.busy with
  | none =>
    dsimp only
    unfold Session.seed
    split
    · exact h.mute rfl rfl fun _ => ⟨rfl, rfl⟩
    · exact h
  | some b =>
    refine Sparing.collide ?_ hbound
    cases b.kind.speech? with
    | none => exact h
    | some kind => exact h.endSpeech r.sprite kind

/-- A block is started before a request to stop only. The request may come as it is. -/
theorem start (hids : (s.sprites.map (·.id)).Nodup) (hx : s.sprites[i]? = some x) (b : Block)
    (hquiet : ∀ later earlier, (s.reach (.blockStarted i x.name b)).journal = later ++ earlier →
      ¬ asked earlier) : (s.start o cfg i b).Sparing asked Rung bound := by
  have hupdate : ((((({ s with started := s.started + 1 } : Session σ).put i
      (x.starting cfg b)).reach (.blockStarted i x.name b)).tell o
        (.update (x.starting cfg b))).Sparing asked Rung bound) := by
    refine .rung ?_ rfl ?_
    · exact (map_id_set hx (rfl : (x.starting cfg b).id = x.id)).symm ▸ hids
    · intro later earlier hsplit hasked
      exact absurd hasked (hquiet later earlier hsplit)
  rw [start_eq o cfg hx]
  dsimp only
  cases b.action cfg with
  | speak kind text ms =>
    have hshows : (x.starting cfg b).transient ≠ .calm := by
      simp [Sprite.starting, Sprite.animate, Transient.calm]
    have hid : ((x.starting cfg b).withBubble (some ⟨text, kind⟩)).id = (x.starting cfg b).id := rfl
    have hspeaks := hupdate.put (i := i) (getElem?_put hx _) hid fun hcalm => absurd hcalm hshows
    exact hspeaks.mute rfl rfl fun _ => ⟨rfl, rfl⟩
  | move | turn | goto | loop => exact hupdate

/-- An alarm that goes off ends a flash, which is not accounted for, or takes down the banner. -/
theorem ring (h : s.Sparing asked Rung bound) (key : AlarmKey) (number : Nat)
    (hrung : ∀ i x, key = .flash i → s.sprites[i]? = some x → ∀ later earlier,
      s.journal = later ++ earlier → asked earlier → later = [] ∧
        Rung earlier [⟨s.now, .told (.update (x.withFlash false))⟩]) :
    (s.ring o key number).Sparing asked Rung bound := by
  unfold Session.ring
  split
  · exact h
  · next alarms _ =>
    cases key with
    | banner => exact h.mute rfl rfl fun _ => ⟨rfl, rfl⟩
    | flash i =>
      have hunset : Sparing asked Rung bound { s with alarms } := h.congr rfl rfl
      dsimp only
      cases hx : s.sprites[i]? with
      | none =>
        rw [modifySprite_of_none (s := { s with alarms }) hx, update, Session.tellOf]
        have hx' : ({ s with alarms } : Session σ).sprites[i]? = none := hx
        rw [hx']
        exact hunset
      | some x =>
        rw [modifySprite_eq (s := { s with alarms }) (x := x) hx, update,
          tellOf_eq o (getElem?_put (s := { s with alarms }) hx _)]
        refine .rung ?_ rfl (hrung i x rfl hx)
        exact (map_id_set hx (rfl : (x.withFlash false).id = x.id)).symm ▸ h.ids

theorem schedule (h : s.Sparing asked Rung bound) (delay : Nat) (task : Task) :
    ({ s with timeline := s.timeline.schedule delay task } : Session σ).Sparing asked Rung bound :=
  h.congr rfl rfl

theorem cancelAlarms (h : s.Sparing asked Rung bound) :
    s.cancelAlarms.Sparing asked Rung bound := by
  unfold Session.cancelAlarms
  split
  · exact h
  · exact h.congr rfl rfl

theorem heedStop (h : s.Sparing asked Rung bound) : s.heedStop.Sparing asked Rung bound := by
  unfold Session.heedStop
  split
  · refine Sparing.cancelAlarms ?_
    split
    · exact h
    · exact h.mute rfl rfl fun _ => ⟨rfl, rfl⟩
  · exact h

/-- **A runner that is done clears its sprite**, for the first time. -/
theorem finish (h : s.Sparing asked Rung bound) (hx : s.sprites[i]? = some x)
    (hfirst : bound i = 0) (hbound : ∀ k, bound k ≤ bound' k) (hbound' : bound' i = 1) :
    (s.finish o i).Sparing asked Rung bound' := by
  have hover : Sparing asked Rung bound (Session.reach (.spriteFinished i x.name)
      { s with finished := i :: s.finished, alarms := s.alarms.disarm (.flash i) }) :=
    h.mute rfl rfl fun _ => ⟨rfl, rfl⟩
  rw [finish_eq o hx]
  refine hover.clear hx (.inl hfirst) hbound (.inl ?_)
  rw [hfirst, hbound']

/-- **Sprites that show something when all runners are done are cleared once more.** -/
theorem settle (h : s.Sparing asked Rung (fun _ => 2)) :
    (s.settle o).Sparing asked Rung (fun _ => 2) := by
  have hsprite (t : Session σ) (i : Nat) (ht : t.Sparing asked Rung (fun _ => 2)) :
      (t.settleSprite o i).Sparing asked Rung (fun _ => 2) := by
    unfold settleSprite
    cases hx : t.sprites[i]? with
    | none => exact ht
    | some x =>
      dsimp only
      split
      · exact ht
      · next hshows =>
        rw [modifySprite_eq hx, update, tellOf_eq o (getElem?_put hx x.calm)]
        exact ht.clear hx (.inr hshows) (fun _ => Nat.le_refl _) (.inr (Nat.le_refl _))
  have hall (is : List Nat) : (is.foldl (settleSprite o) s).Sparing asked Rung (fun _ => 2) :=
    List.foldlRecOn is _ h fun t ht i _ => hsprite t i ht
  unfold Session.settle
  dsimp only
  split
  · exact (hall _).mute rfl rfl fun _ => ⟨rfl, rfl⟩
  · exact hall _

end Sparing

end Session

/-! ## Tasks -/

/-- A stop was asked for before a run, or the observer has asked for one by the end of a journal. -/
def Observer.Asked {σ : Type} (o : Observer σ) (watcher : σ) (stopping : Bool)
    (j : Journal) : Prop := (stopping || o.asks watcher j.notices) = true

/-- As long as a session is not stopping, no stop has been asked for. -/
theorem Session.Obeys.not_asked {σ : Type} {o : Observer σ} {watcher : σ} {stopping : Bool}
    {s : Session σ} (h : s.Obeys o watcher stopping) (hstop : s.stopping = false)
    (later earlier : Journal) (hsplit : s.journal = later ++ earlier) :
    ¬ o.Asked watcher stopping earlier := by
  have hasks := h.stopping.symm.trans hstop
  rw [hsplit, Journal.notices_append, o.asks_append, ← Bool.or_assoc,
    Bool.or_eq_false_iff] at hasks
  rw [Observer.Asked, hasks.1]
  exact Bool.false_ne_true

namespace Drive

variable {σ : Type} (o : Observer σ) (cfg : Settings)

/-- An alarm that goes off although a stop is asked for: its task was taken before the request,
which came when the observer was told the time to which the task moves it. So a sprite that flashes
is shown without its flash. -/
def RingsLate (opening : Drive σ ScriptRunner) (earlier rung : Journal) : Prop :=
  ∃ m i number t x, (opening.after o cfg m).taken? o = some (.alarm (.flash i) number, t) ∧
    (opening.after o cfg m).session.stopping = false ∧ t.session.journal = earlier ∧
    t.session.sprites[i]? = some x ∧
    rung = [⟨t.session.now, .told (.update (x.withFlash false))⟩]

/-- How often the sprite at a place may have been cleared by its runner. -/
def clearings (d : Drive σ ScriptRunner) (i : Nat) : Nat :=
  if (d.plot.runner? i).isSome then 0 else 1

variable {o cfg} {sprites : List Sprite} {d t d' : Drive σ ScriptRunner} {asked : Journal → Prop}
  {Rung : Journal → Journal → Prop}

theorem clearings_le (d : Drive σ ScriptRunner) (i : Nat) : d.clearings i ≤ 1 := by
  unfold clearings
  split <;> omega

/-- At most the observer is told the time. -/
theorem Ticks.told_or {due : Nat} {task : Task} {timeline : Timeline}
    (h : Ticks o due task timeline d t) : t.session.sprites = d.session.sprites ∧
      (t.session.journal = d.session.journal ∨
        ∃ time, t.session.journal = ⟨time, .told (.clock time)⟩ :: d.session.journal) := by
  rw [h.told]
  unfold tellTime
  dsimp only
  split
  · exact ⟨rfl, .inl rfl⟩
  · exact ⟨rfl, .inr ⟨_, rfl⟩⟩

theorem Ticks.sparing {due : Nat} {task : Task} {timeline : Timeline} {bound : Nat → Nat}
    (h : Ticks o due task timeline d t) (hd : d.session.Sparing asked Rung bound) :
    t.session.Sparing asked Rung bound := by
  obtain ⟨hsprites, hjournal | ⟨time, hjournal⟩⟩ := h.told_or
  · exact hd.congr hsprites hjournal
  · exact hd.mute hsprites hjournal fun _ => ⟨rfl, rfl⟩

/-- A runner that is woken ends its block, or fills its queue. -/
theorem Woken.sparing {i : Nat} {r : ScriptRunner} {s : Session σ} (h : Woken o cfg d t i r s)
    (hd : d.session.Sparing asked Rung d.clearings) : s.Sparing asked Rung d.clearings := by
  obtain ⟨timeline, hticks⟩ := h.ticks
  rw [h.found]
  exact (hticks.sparing hd).settleBusy d.clearings_le r

/-- A runner that is done has cleared its sprite. -/
theorem Woken.clearings_finish {i : Nat} {r : ScriptRunner} {s : Session σ}
    (h : Woken o cfg d t i r s) (hcourse : d.plot.OnCourse cfg sprites) (k : Nat) :
    ({ t with session := (s.finish o i).heedStop, runners := d.runners.set i none } :
      Drive σ ScriptRunner).clearings k = if i = k then 1 else d.clearings k := by
  rw [clearings, h.plot_finish hcourse, Plot.runner?_set (x := none) h.runner]
  split
  · rfl
  · rfl

/-- If no stop was asked for before a task, the request came with the notice of the time. -/
theorem Ticks.later_eq_nil {due : Nat} {task : Task} {timeline : Timeline}
    (h : Ticks o due task timeline d t)
    (hquiet : ∀ later earlier, d.session.journal = later ++ earlier → ¬ asked earlier)
    {later earlier : Journal} (hsplit : t.session.journal = later ++ earlier)
    (hasked : asked earlier) : later = [] := by
  obtain ⟨-, hjournal | ⟨time, hjournal⟩⟩ := h.told_or
  · exact absurd hasked (hquiet later earlier (hjournal.symm.trans hsplit))
  · rw [hjournal] at hsplit
    rcases List.cons_eq_append_iff.mp hsplit with ⟨hnil, -⟩ | ⟨more, -, hmore⟩
    · exact hnil
    · exact absurd hasked (hquiet more earlier hmore)

/-- **Each task keeps the accounts**, but for an alarm that goes off at the request. -/
theorem Does.sparing {watcher : σ} {stopping : Bool} (h : Does o cfg d d')
    (hcourse : d.plot.OnCourse cfg sprites) (hobeys : d.session.Obeys o watcher stopping)
    (hcalled : d.session.stopping = true → d.session.alarms.armed = [])
    (hrung : ∀ i number t x, d.taken? o = some (.alarm (.flash i) number, t) →
      d.session.stopping = false → t.session.sprites[i]? = some x →
      Rung t.session.journal [⟨t.session.now, .told (.update (x.withFlash false))⟩])
    (hd : d.session.Sparing (o.Asked watcher stopping) Rung d.clearings) :
    d'.session.Sparing (o.Asked watcher stopping) Rung d'.clearings := by
  cases h with
  | @alarm due number key timeline t hticks =>
    have ht := hticks.sparing hd
    have hrings : (t.session.ring o key number).Sparing (o.Asked watcher stopping) Rung
        d.clearings := by
      by_cases hstop : d.session.stopping = true
      · rw [Session.ring_of_armed o (hticks.alarms ▸ hcalled hstop)]
        exact ht
      · rw [Bool.not_eq_true] at hstop
        refine ht.ring key number ?_
        rintro i x rfl hx later earlier hsplit hasked
        obtain rfl := hticks.later_eq_nil (hobeys.not_asked hstop) hsplit hasked
        obtain rfl : t.session.journal = earlier := hsplit
        exact ⟨rfl, hrung i number t x hticks.taken hstop hx⟩
    refine hrings.heedStop.mono fun i => ?_
    rw [clearings, clearings, hticks.plot_alarm]
    exact Nat.le_refl _
  | @finish t i r s hwoken hpop =>
    obtain ⟨-, -, y, -, -, hy, -⟩ := hwoken.sprite hcourse
    have hs := hwoken.sparing hd
    refine (hs.finish hy ?_ ?_ ?_).heedStop
    · rw [clearings, hwoken.runner]
      rfl
    · intro k
      rw [hwoken.clearings_finish hcourse]
      split
      · exact clearings_le d k
      · exact Nat.le_refl _
    · rw [hwoken.clearings_finish hcourse, if_pos rfl]
  | @start t i r b s s' hwoken hstop hpop =>
    obtain ⟨hi, -, y, -, -, hy, -⟩ := hwoken.sprite hcourse
    have hs := hwoken.sparing hd
    have hobeys' := (hwoken.deeds hcourse hi).obeys hobeys
    obtain ⟨queues, rfl⟩ := s.eq_of_pop? hpop
    have hstart (bound : Nat → Nat) :
        (({ s with stage.queues := queues } : Session σ).start o cfg i b).Sparing
          (o.Asked watcher stopping) Rung bound := by
      refine .start (s := { s with stage.queues := queues }) hs.ids hy b ?_
      exact (hobeys'.reach (.blockStarted i y.name b)).not_asked hstop
    exact ((hstart _).schedule (b.delay cfg) (.runner i)).heedStop

section
variable (o cfg sprites) (watcher : σ) (stopping : Bool)

/-- **The accounts are kept after any number of tasks.** -/
theorem sparing_after (hids : (sprites.map (·.id)).Nodup) (n : Nat) :
    ((Drive.opening cfg sprites watcher stopping).after o cfg n).session.Sparing
      (o.Asked watcher stopping) (RingsLate o cfg (Drive.opening cfg sprites watcher stopping))
      ((Drive.opening cfg sprites watcher stopping).after o cfg n).clearings := by
  induction n with
  | zero =>
    rw [after, session_opening]
    refine Session.Sparing.mute (s := Session.begin sprites watcher stopping) ⟨hids, ?_⟩ rfl rfl
      fun _ => ⟨rfl, rfl⟩
    intro later earlier hsplit _
    obtain ⟨rfl, rfl⟩ := List.append_eq_nil_iff.mp hsplit.symm
    exact ⟨[], [], rfl, .inl rfl, fun _ _ _ => .of_nil rfl⟩
  | succ n ih =>
    rw [after_succ]
    cases hstep : ((Drive.opening cfg sprites watcher stopping).after o cfg n).step o cfg with
    | none => exact ih
    | some d' =>
      have hruns := runs_after o cfg sprites watcher stopping n
      refine (hruns.does hstep).sparing hruns.reachable.onCourse
        (obeys_after o cfg sprites watcher stopping n)
        (armed_after o cfg sprites watcher stopping n) ?_ ih
      intro i number t x htaken hstop hx
      exact ⟨n, i, number, t, x, htaken, hstop, rfl, hx, rfl⟩

end

end Drive

/-- **The accounts are kept when a run is over.** -/
theorem Session.sparing_runAll {σ : Type} (o : Observer σ) (cfg : Settings) (sprites : List Sprite)
    (watcher : σ) (stopping : Bool) (hids : (sprites.map (·.id)).Nodup) :
    ((Session.begin sprites watcher stopping).runAll o cfg).2.Sparing
      (o.Asked watcher stopping)
      (Drive.RingsLate o cfg (Drive.opening cfg sprites watcher stopping)) (fun _ => 2) := by
  have hlast := Drive.sparing_after o cfg sprites watcher stopping hids
    ((Drive.opening cfg sprites watcher stopping).budget cfg)
  rw [runAll_eq]
  dsimp only
  refine Sparing.reach (Sparing.settle (hlast.cancelAlarms.mono fun i => ?_)) _
  exact Nat.le_trans (Drive.clearings_le _ i) (by omega)

/-! ## Players -/

/-- What is told of the sprite with an id from a request to stop on. There is an update for each
meeting at most that shows it flash. All others show it cleared; there is one of them at most, or
two if it meets another sprite. -/
structure Journal.Spared (id : String) (j : Journal) : Prop where
  shown : ∀ t ∈ j.updatesOf id, t = .calm ∨ t.flash = true
  reports : (j.updatesOf id).countP (·.flash) ≤ j.meetingsOf id
  cleared : j.clearingsOf id ≤ if j.meetingsOf id = 0 then 1 else 2
  /-- A sprite that meets no other one is shown at most once, cleared. -/
  alone : j.meetingsOf id = 0 → j.updatesOf id = [] ∨ j.updatesOf id = [.calm]

theorem Journal.Spares.spared {x : Sprite} {n : Nat} {j : Journal} (h : j.Spares x n) :
    j.Spared x.id where
  shown := h.shown
  reports := h.reports
  cleared := Nat.le_trans (Nat.le_add_right _ _) h.cleared
  alone hmeetings := by
    have hreports := h.reports
    have hcleared := Nat.le_trans (Nat.le_add_right _ _) h.cleared
    rw [hmeetings, Nat.le_zero, List.countP_eq_zero] at hreports
    rw [hmeetings, if_pos rfl] at hcleared
    have hcalm : ∀ t ∈ j.updatesOf x.id, t = .calm := by
      intro t ht
      exact (h.shown t ht).resolve_right (hreports t ht)
    rw [clearingsOf, List.count_eq_length.mpr fun t ht => (hcalm t ht).symm] at hcleared
    match hupdates : j.updatesOf x.id with
    | [] => exact .inl rfl
    | [t] => exact .inr (by rw [hcalm t (by simp [hupdates])])
    | _ :: _ :: _ => simp [hupdates] at hcleared

/-- **What the observer is told of a sprite after a request to stop**, wherever the request came. A
sprite that meets no other one any more is shown once at most, with nothing transient. A sprite that
does is shown flashing once for each meeting at most, and with nothing transient twice at most. What
an alarm shows that goes off although a stop is asked for comes first, and is left out. -/
theorem Player.runAll_spares {σ : Type} (p : Player) (o : Observer σ) (sprites : List Sprite)
    (watcher : σ) (hids : (sprites.map (·.id)).Nodup) :
    let opening := Drive.opening p.settings (sprites.map Sprite.working) watcher p.stopRequested
    ∀ later earlier, (p.runAll o sprites watcher).2.journal = later ++ earlier →
      (p.stopRequested || o.asks watcher earlier.notices) = true →
      ∃ rest rung, later = rest ++ rung ∧
        (rung = [] ∨ opening.RingsLate o p.settings earlier rung) ∧
        ∀ s ∈ sprites, rest.Spared s.id := by
  have hids' : ((sprites.map Sprite.working).map (·.id)).Nodup := by
    rw [List.map_map]
    exact hids
  have hsparing := Session.sparing_runAll o p.settings (sprites.map Sprite.working) watcher
    p.stopRequested hids'
  obtain ⟨us, hdeeds⟩ := Session.runs_by_deeds o p.settings (sprites.map Sprite.working) watcher
    p.stopRequested
  have hsame := hdeeds.ids
  rw [Session.sprites_opening] at hsame
  intro opening later earlier hsplit hasked
  obtain ⟨rest, rung, hlater, hrung, hspares⟩ := hsparing.since later earlier hsplit hasked
  refine ⟨rest, rung, hlater, hrung, ?_⟩
  intro s hs
  have hmem : s.id ∈ (sprites.map Sprite.working).map (·.id) :=
    List.mem_map.mpr ⟨s.working, List.mem_map_of_mem hs, rfl⟩
  rw [← hsame] at hmem
  obtain ⟨x, hx, hid⟩ := List.mem_map.mp hmem
  obtain ⟨i, hi⟩ := List.mem_iff_getElem?.mp hx
  rw [← hid]
  exact (hspares i x hi).spared

/-- Someone who asks for a stop at the first update. -/
def Observer.firstUpdate : Observer (Unit × Nat) :=
  Observer.silent.stopAt (some { topic := .update, nth := 1 })

/-- The cat has started to turn when a stop is asked for. -/
theorem Player.runAll_spares_catOnDog :
    let journal := (({} : Player).runAll .firstUpdate catOnDog ((), 0)).2.journal
    let opening := Drive.opening {} (catOnDog.map Sprite.working) ((), 0) false
    (catOnDog.map (·.id)).Nodup ∧
      (false || Observer.firstUpdate.asks ((), 0) (Journal.notices (journal.drop 15))) = true ∧
      ∃ rest rung, journal.take 15 = rest ++ rung ∧
        (rung = [] ∨ opening.RingsLate .firstUpdate {} (journal.drop 15) rung) ∧
        ∀ s ∈ catOnDog, Journal.Spared s.id rest := by
  have hids : (catOnDog.map (·.id)).Nodup := by decide
  have hasked : (false || Observer.firstUpdate.asks ((), 0) (Journal.notices
      ((({} : Player).runAll .firstUpdate catOnDog ((), 0)).2.journal.drop 15))) = true := by
    decide +kernel
  exact ⟨hids, hasked, runAll_spares {} .firstUpdate catOnDog ((), 0) hids _ _
    (List.take_append_drop 15 _).symm hasked⟩

/-- **More than one update of a sprite may follow a request to stop.** The dog is shown cleared when
its runner is done, then flashing, as the cat ends the turn that it had started and meets the dog,
and cleared once more in the end. -/
theorem Player.not_runAll_hushed : ¬ ∀ (p : Player) (o : Observer (Unit × Nat))
    (sprites : List Sprite) (watcher : Unit × Nat), (sprites.map (·.id)).Nodup →
    ∀ later earlier, (p.runAll o sprites watcher).2.journal = later ++ earlier →
      (p.stopRequested || o.asks watcher (Journal.notices earlier.tail)) = false →
      o.asks watcher earlier.notices = true →
      ∀ s ∈ sprites, later.updatesOf s.id = [] ∨ later.updatesOf s.id = [.calm] := by
  intro h
  have hall := h {} .firstUpdate catOnDog ((), 0) (by decide) _ _ (List.take_append_drop 15 _).symm
    (by decide +kernel) (by decide +kernel)
  have hdog : Journal.updatesOf "dog"
      ((({} : Player).runAll .firstUpdate catOnDog ((), 0)).2.journal.take 15) =
        [.calm, ⟨some .turn, none, true⟩, .calm] := by decide +kernel
  rcases hall _ (List.mem_cons_of_mem _ List.mem_cons_self) with hnone | hone
  · exact absurd (hdog.symm.trans hnone) (by decide)
  · exact absurd (hdog.symm.trans hone) (by decide)

end SpriteScript
