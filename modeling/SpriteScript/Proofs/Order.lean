/-
  The order of the timeline.

  * `Ascending`: wakeups stand in the order of their instants;
  * `Timeline.InOrder`: so do those of a timeline, none of them is past, and all are in time;
  * `InOrder.schedule`, `InOrder.next?`, `InOrder.dropAlarms`: what is done to a timeline keeps it
    in order, and `next?_eq` says that time moves on to the instant of the first wakeup;
  * `filter_insertWakeup_of_pos` and `filter_insertWakeup_of_neg`: a new wakeup comes to the same
    place among those of a kind, whether the others are there or not; `filter_insertWakeup_self` is
    the case of a kind of its own.
-/
import SpriteScript.Time.Timeline

namespace SpriteScript

theorem le_after {now : Nat} (h : now ≤ lastInstant) (delay : Nat) : now ≤ after now delay :=
  Nat.le_min.mpr ⟨Nat.le_add_right _ _, h⟩

/-- Wakeups stand in the order of their instants. -/
abbrev Ascending (ws : List Wakeup) : Prop := ws.Pairwise fun u v => u.due ≤ v.due

/-! ## New wakeups -/

theorem mem_insertWakeup {w v : Wakeup} {vs : List Wakeup} :
    v ∈ insertWakeup w vs ↔ v = w ∨ v ∈ vs := by
  rw [(perm_insertWakeup w vs).mem_iff, List.mem_cons]

theorem length_insertWakeup (w : Wakeup) (vs : List Wakeup) :
    (insertWakeup w vs).length = vs.length + 1 := (perm_insertWakeup w vs).length_eq

theorem filter_insertWakeup_of_neg {p : Wakeup → Bool} {w : Wakeup} (hw : p w = false)
    (vs : List Wakeup) : (insertWakeup w vs).filter p = vs.filter p := by
  induction vs with
  | nil => simp [insertWakeup, hw]
  | cons v vs ih =>
    rw [insertWakeup]
    split
    · rw [List.filter_cons, List.filter_cons, ih]
    · rw [List.filter_cons, hw]; rfl

theorem insertWakeup_of_forall_lt {w : Wakeup} {vs : List Wakeup} (h : ∀ v ∈ vs, w.due < v.due) :
    insertWakeup w vs = w :: vs := by
  cases vs with
  | nil => rfl
  | cons v vs =>
    have := h v (by simp)
    rw [insertWakeup, if_neg (by omega)]

/-- **A wakeup comes to the same place among those of its kind**, if all stand in order. -/
theorem filter_insertWakeup_of_pos {p : Wakeup → Bool} {w : Wakeup} (hw : p w = true)
    {vs : List Wakeup} (h : Ascending vs) :
    (insertWakeup w vs).filter p = insertWakeup w (vs.filter p) := by
  induction vs with
  | nil => simp [insertWakeup, hw]
  | cons v vs ih =>
    obtain ⟨hv, hvs⟩ := List.pairwise_cons.mp h
    rw [insertWakeup]
    split
    · next hle =>
      rw [List.filter_cons, List.filter_cons, ih hvs]
      split
      · rw [insertWakeup, if_pos hle]
      · rfl
    · next hgt =>
      rw [List.filter_cons, hw, if_pos rfl, insertWakeup_of_forall_lt]
      intro u hu
      have hmem := (List.mem_filter.mp hu).1
      rcases List.mem_cons.mp hmem with rfl | hu
      · omega
      · have := hv u hu
        omega

/-- A new wakeup for a task is the only one if there was none. -/
theorem filter_insertWakeup_self {due : Nat} {task : Task} {vs : List Wakeup}
    (h : vs.filter (fun v => v.task = task) = []) :
    (insertWakeup ⟨due, task⟩ vs).filter (fun v => v.task = task) = [⟨due, task⟩] := by
  refine List.perm_singleton.mp (((perm_insertWakeup _ vs).filter _).trans ?_)
  rw [List.filter_cons, if_pos (by simp), h]

/-- Whatever is not later stays in front of a new wakeup. -/
theorem insertWakeup_append {w : Wakeup} {us vs : List Wakeup} (h : ∀ u ∈ us, u.due ≤ w.due) :
    insertWakeup w (us ++ vs) = us ++ insertWakeup w vs := by
  induction us with
  | nil => rfl
  | cons u us ih =>
    have hrest : ∀ u' ∈ us, u'.due ≤ w.due := by
      intro u' hu'; exact h u' (List.mem_cons_of_mem _ hu')
    rw [List.cons_append, insertWakeup, if_pos (h u List.mem_cons_self), ih hrest,
      List.cons_append]

theorem map_insertWakeup {f : Wakeup → Wakeup} (hf : ∀ v, (f v).due = v.due) (w : Wakeup)
    (vs : List Wakeup) : (insertWakeup w vs).map f = insertWakeup (f w) (vs.map f) := by
  induction vs with
  | nil => rfl
  | cons v vs ih =>
    simp only [insertWakeup, List.map_cons, hf]
    split
    · rw [List.map_cons, ih]
    · rfl

/-! ## Timelines -/

namespace Timeline

/-- The wakeups of a timeline stand in order, none of them is past, and none is out of time. -/
structure InOrder (t : Timeline) : Prop where
  ascending : Ascending t.queue
  ahead : ∀ w ∈ t.queue, t.now ≤ w.due
  inTime : ∀ w ∈ t.queue, w.due ≤ lastInstant
  nowInTime : t.now ≤ lastInstant

theorem InOrder.schedule {t : Timeline} (h : t.InOrder) (delay : Nat) (task : Task) :
    (t.schedule delay task).InOrder where
  ascending := sorted_insertWakeup _ _ h.ascending
  ahead w hw := by
    rcases mem_insertWakeup.mp hw with rfl | hw
    · have := h.nowInTime
      simp only [Timeline.schedule, after]; omega
    · exact h.ahead w hw
  inTime w hw := by
    rcases mem_insertWakeup.mp hw with rfl | hw
    · exact after_le_last _ _
    · exact h.inTime w hw
  nowInTime := h.nowInTime

theorem InOrder.dropAlarms {t : Timeline} (h : t.InOrder) : t.dropAlarms.InOrder where
  ascending := h.ascending.filter _
  ahead w hw := h.ahead w (List.mem_filter.mp hw).1
  inTime w hw := h.inTime w (List.mem_filter.mp hw).1
  nowInTime := h.nowInTime

/-- **Time moves on to the instant of the first wakeup.** -/
theorem InOrder.next?_eq {t t' : Timeline} (h : t.InOrder) {task : Task}
    (hn : t.next? = some (task, t')) :
    ∃ due, t.queue = ⟨due, task⟩ :: t'.queue ∧ t'.now = due := by
  unfold next? at hn
  split at hn
  · simp at hn
  · next w rest hq =>
    have hw := h.ahead w (by rw [hq]; simp)
    split at hn <;>
      simp only [Option.some.injEq, Prod.mk.injEq] at hn <;> obtain ⟨rfl, rfl⟩ := hn
    · exact ⟨w.due, hq, rfl⟩
    · exact ⟨w.due, hq, by simp only; omega⟩

theorem InOrder.next? {t t' : Timeline} (h : t.InOrder) {task : Task}
    (hn : t.next? = some (task, t')) : t'.InOrder := by
  obtain ⟨due, hq, hnow⟩ := h.next?_eq hn
  obtain ⟨hfirst, hrest⟩ := List.pairwise_cons.mp (hq ▸ h.ascending)
  constructor
  case ascending => exact hrest
  case ahead => intro w hw; exact hnow ▸ hfirst w hw
  case inTime => intro w hw; exact h.inTime w (by rw [hq]; simp [hw])
  case nowInTime => exact hnow ▸ h.inTime ⟨due, task⟩ (by rw [hq]; simp)

theorem next?_isSome {t : Timeline} (h : t.queue ≠ []) : t.next?.isSome := by
  unfold next?
  split
  · next hq => exact absurd hq h
  · split <;> rfl

/-- The only wakeup is taken when it is due. -/
theorem next?_of_queue_eq {t : Timeline} {w : Wakeup} (hqueue : t.queue = [w])
    (hle : t.now ≤ w.due) : ∃ t', t.next? = some (w.task, t') ∧ t'.now = w.due ∧ t'.queue = [] := by
  unfold Timeline.next?
  rw [hqueue]
  by_cases hlt : t.now < w.due
  · exact ⟨_, if_pos hlt, rfl, rfl⟩
  · exact ⟨_, if_neg hlt, Nat.le_antisymm hle (Nat.le_of_not_lt hlt), rfl⟩

end Timeline

end SpriteScript
