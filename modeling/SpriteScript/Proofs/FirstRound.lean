/-
  The first round.

  All runners are woken once before any of them is woken again: as a run begins each of them has a
  wakeup that is due at once, and whatever is left later goes behind.

  * `Plot.Round`: the wakeups of the runners that have not been woken yet come first;
  * `Turn.all_woken`: **when a runner is woken again, all have been woken**.
-/
import SpriteScript.Proofs.Course

namespace SpriteScript

/-- The wakeups of the runners that have not been woken yet come first. -/
def Plot.Round (p : Plot) : Prop :=
  ∃ (fresh : List Nat) (rest : List Wakeup),
    p.scene.wakeups = fresh.map (fun i => ⟨0, .runner i⟩) ++ rest ∧
      ∀ i r, p.runner? i = some r → (r.busy = none ↔ i ∈ fresh)

namespace Plot

variable {cfg : Settings} {sprites : List Sprite} {p : Plot} {i : Nat} {r : ScriptRunner}
  {rest : List Wakeup} {c : Scene}

theorem round_opening : (Plot.opening sprites).Round := by
  refine ⟨List.range sprites.length, [], by rw [List.append_nil]; rfl, ?_⟩
  intro i r hr
  rw [OnCourse.runner?_opening] at hr
  split at hr
  · next hi =>
    rw [← Option.some.inj hr]
    exact ⟨fun _ => List.mem_range.mpr hi, fun _ => rfl⟩
  · simp at hr

/-- Whoever is woken is the first of those that have not been woken, if there are any. -/
theorem Turn.round (ht : p.Turn cfg i r rest c) (h : p.Round) :
    ∃ (fresh : List Nat) (rest' : List Wakeup),
      rest = fresh.map (fun j => ⟨0, .runner j⟩) ++ rest' ∧ i ∉ fresh ∧
        (r.busy.isSome → fresh = []) ∧
        ∀ j r', i ≠ j → p.runner? j = some r' → (r'.busy = none ↔ j ∈ fresh) := by
  obtain ⟨fresh, tail, hwakeups, hfresh⟩ := h
  rw [ht.first] at hwakeups
  cases fresh with
  | nil =>
    rw [List.map_nil, List.nil_append] at hwakeups
    exact ⟨[], rest, rfl, List.not_mem_nil, fun _ => rfl, fun j r' _ => hfresh j r'⟩
  | cons k fresh =>
    rw [List.map_cons, List.cons_append] at hwakeups
    obtain ⟨hhead, htail⟩ := List.cons.inj hwakeups
    obtain rfl : i = k := Task.runner.inj (Wakeup.mk.inj hhead).2
    refine ⟨fresh, tail, htail, ?_, ?_, ?_⟩
    · -- there is no second wakeup of the runner
      intro hmem
      have halone := ht.alone
      rw [htail, List.filter_append, List.append_eq_nil_iff] at halone
      have hnone := List.filter_eq_nil_iff.mp halone.1 ⟨0, .runner i⟩
        (List.mem_map.mpr ⟨i, hmem, rfl⟩)
      simp at hnone
    · intro hbusy
      have hnone := (hfresh i r ht.runner).mpr List.mem_cons_self
      rw [hnone] at hbusy
      simp at hbusy
    · intro j r' hj hr'
      rw [hfresh j r' hr', List.mem_cons]
      exact ⟨fun h => h.resolve_left (Ne.symm hj), .inr⟩

theorem Round.wake {stopped : Bool} {p' : Plot} (h : p.Round) (ht : p.Turn cfg i r rest c)
    (hwake : p.Wake cfg i c stopped p') : p'.Round := by
  obtain ⟨fresh, rest', hrest, hi, -, hothers⟩ := ht.round h
  obtain ⟨-, hwakeups, -⟩ := ht.frame
  cases hwake with
  | finish =>
    refine ⟨fresh, rest', hwakeups.trans hrest, ?_⟩
    intro j r' hr'
    rw [runner?_set ht.runner] at hr'
    split at hr'
    · simp at hr'
    · next hj => exact hothers j r' hj hr'
  | @start b c' hpop =>
    obtain ⟨-, hdwakeups, -⟩ := c.start_frame cfg hpop
    refine ⟨fresh, insertWakeup ⟨after c.now (b.delay cfg), .runner i⟩ rest', ?_, ?_⟩
    · simp only [hdwakeups, hwakeups, hrest]
      apply insertWakeup_append
      intro u hu
      obtain ⟨j, -, rfl⟩ := List.mem_map.mp hu
      exact Nat.zero_le _
    · intro j r' hr'
      rw [runner?_set ht.runner] at hr'
      split at hr'
      · next hj =>
        rw [← Option.some.inj hr', ← hj]
        exact ⟨fun hnone => absurd hnone (by simp), fun hmem => absurd hmem hi⟩
      · next hj => exact hothers j r' hj hr'

theorem Reachable.round (h : Reachable cfg sprites p) : p.Round :=
  rec_wake (motive := Round) round_opening (fun _ _ ih _ _ => ih)
    (fun _ _ _ _ _ _ _ ih _ ht hwake => ih.wake ht hwake) h

/-- All runners that are not done have been woken. -/
def AllWoken (p : Plot) : Prop := ∀ i r, p.runner? i = some r → r.busy.isSome

/-- **When a runner is woken again, all have been woken.** -/
theorem Turn.all_woken (ht : p.Turn cfg i r rest c) (h : p.Round) (hbusy : r.busy.isSome) :
    p.AllWoken := by
  obtain ⟨fresh, rest', -, -, hnil, hothers⟩ := ht.round h
  intro j r' hr'
  by_cases hj : i = j
  · subst hj
    rwa [← Option.some.inj (ht.runner.symm.trans hr')]
  · by_contra hnone
    have hmem := (hothers j r' hj hr').mp (by simpa using hnone)
    simp [hnil hbusy] at hmem

end Plot

end SpriteScript
