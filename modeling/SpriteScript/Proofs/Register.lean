/-
  The timeline, and a register of all that was ever scheduled.

  The register keeps a ticket for each wakeup, in the order in which they were scheduled, and notes
  on it what became of the wakeup. It says which wakeup comes next without keeping any order of
  instants: the one with the least instant, of several the one that was scheduled first.

  * `Timeline.Call` is a call of a timeline, `Timeline.replies` what calls give;
  * `Ticket` and `Register` are as above, and `Register.Answers` says what a call may give and what
    it changes in the register;
  * `inOrder` are wakeups in the order of their instants, and `inOrder_eq_cons`: **the first of them
    is the one that comes next**;
  * `Timeline.Keeps`: a timeline holds what waits in a register; `Keeps.call`: **each call is
    answered as the register says**;
  * `Timeline.follows_register`: **so are all calls of a new timeline**, and nothing is lost.
-/
import Mathlib.Algebra.GroupWithZero.Nat
import Mathlib.Data.List.Induction
import SpriteScript.Proofs.Order

namespace SpriteScript

/-! ## Calls -/

namespace Timeline

/-- A call of a timeline. -/
inductive Call where
  | schedule (delay : Nat) (task : Task)
  | next
  | dropAlarms

/-- The task that a call schedules. -/
def Call.task? : Call → Option Task
  | schedule _ task => some task
  | next | dropAlarms => none

/-- What a call gives and what it makes of a timeline; only `next` gives a task, if there is one. -/
def call (t : Timeline) : Call → Option Task × Timeline
  | .schedule delay task => (none, t.schedule delay task)
  | .next =>
    match t.next? with
    | some (task, t) => (some task, t)
    | none => (none, t)
  | .dropAlarms => (none, t.dropAlarms)

/-- The timeline after some calls. -/
def afterCalls (t : Timeline) (calls : List Call) : Timeline :=
  calls.foldl (fun t c => (t.call c).2) t

/-- What calls give, each with the instant after it. -/
def replies (t : Timeline) : List Call → List (Option Task × Nat)
  | [] => []
  | c :: calls => ((t.call c).1, (t.call c).2.now) :: (t.call c).2.replies calls

end Timeline

/-! ## Registers -/

/-- What became of a wakeup. -/
inductive Fate where
  | waiting
  | taken
  | dropped
  deriving DecidableEq

/-- A wakeup that was scheduled, and what became of it. -/
structure Ticket extends Wakeup where
  fate : Fate := .waiting

/-- The wakeup of a ticket, if it still waits. -/
def Ticket.waiting? (x : Ticket) : Option Wakeup :=
  if x.fate = .waiting then some x.toWakeup else none

/-- The task of a ticket, if it was taken. -/
def Ticket.taken? (x : Ticket) : Option Task := if x.fate = .taken then some x.task else none

/-- A ticket after all alarms that wait were dropped. -/
def Ticket.dropAlarm (x : Ticket) : Ticket :=
  if x.fate = .waiting ∧ x.task.isRunner = false then { x with fate := .dropped } else x

/-- All wakeups that were ever scheduled, in the order in which they were scheduled, and the present
instant. -/
structure Register where
  now : Nat := 0
  tickets : List Ticket := []

namespace Register

/-- The wakeups that wait, in the order in which they were scheduled. -/
def waiting (r : Register) : List Wakeup := r.tickets.filterMap Ticket.waiting?

/-- The tasks that were taken, in the order in which they were scheduled. -/
def taken (r : Register) : List Task := r.tickets.filterMap Ticket.taken?

/-- What a call gives, together with the instant after it, and what it changes. -/
inductive Answers (r : Register) : Timeline.Call → Option Task × Nat → Register → Prop where
  /-- A wakeup is due after the delay, at the end of time at the latest. -/
  | schedule (delay : Nat) (task : Task) : Answers r (.schedule delay task) (none, r.now)
      { r with tickets := r.tickets ++ [{ due := after r.now delay, task }] }
  /-- What is taken waits, all that was scheduled before it and waits too is due later, and nothing
  that was scheduled after it and waits is due earlier. -/
  | take {earlier later : List Ticket} {w : Wakeup}
      (tickets : r.tickets = earlier ++ { w with fate := .waiting } :: later)
      (first : ∀ x ∈ earlier, x.fate = .waiting → w.due < x.due)
      (least : ∀ x ∈ later, x.fate = .waiting → w.due ≤ x.due) (ahead : r.now ≤ w.due) :
      Answers r .next (some w.task, w.due)
        { now := w.due, tickets := earlier ++ { w with fate := .taken } :: later }
  /-- Nothing is taken only if nothing waits. -/
  | idle (still : ∀ x ∈ r.tickets, x.fate ≠ .waiting) : Answers r .next (none, r.now) r
  | dropAlarms :
      Answers r .dropAlarms (none, r.now) { r with tickets := r.tickets.map Ticket.dropAlarm }

/-- What calls give one after the other, and what they change. -/
inductive Follows : Register → List Timeline.Call → List (Option Task × Nat) → Register → Prop where
  | nil (r : Register) : Follows r [] [] r
  | cons {r r' r'' : Register} {c : Timeline.Call} {calls : List Timeline.Call}
      {reply : Option Task × Nat} {replies : List (Option Task × Nat)} :
      r.Answers c reply r' → Follows r' calls replies r'' →
      Follows r (c :: calls) (reply :: replies) r''

end Register

/-! ## Wakeups in order -/

/-- Wakeups in the order of their instants, those of one instant in the order of the list. -/
def inOrder (ws : List Wakeup) : List Wakeup := ws.foldl (fun vs w => insertWakeup w vs) []

@[simp] theorem inOrder_concat (ws : List Wakeup) (w : Wakeup) :
    inOrder (ws ++ [w]) = insertWakeup w (inOrder ws) := by simp [inOrder]

theorem perm_inOrder (ws : List Wakeup) : (inOrder ws).Perm ws := by
  induction ws using List.reverseRecOn with
  | nil => exact .refl _
  | append_singleton ws w ih =>
    rw [inOrder_concat]
    exact ((perm_insertWakeup w _).trans (ih.cons w)).trans (List.perm_append_singleton w ws).symm

theorem ascending_inOrder (ws : List Wakeup) : Ascending (inOrder ws) := by
  induction ws using List.reverseRecOn with
  | nil => exact .nil
  | append_singleton ws w ih =>
    rw [inOrder_concat]
    exact sorted_insertWakeup w _ ih

/-- The order of some wakeups does not depend on the others. -/
theorem filter_inOrder (p : Wakeup → Bool) (ws : List Wakeup) :
    (inOrder ws).filter p = inOrder (ws.filter p) := by
  induction ws using List.reverseRecOn with
  | nil => rfl
  | append_singleton ws w ih =>
    rw [inOrder_concat, List.filter_append]
    cases hw : p w with
    | true =>
      rw [filter_insertWakeup_of_pos hw (ascending_inOrder ws), ih]
      simp [hw]
    | false =>
      rw [filter_insertWakeup_of_neg hw, ih]
      simp [hw]

/-- **The first in order is the one with the least instant, of several the first.** -/
theorem inOrder_eq_cons {ws rest : List Wakeup} {w : Wakeup} (h : inOrder ws = w :: rest) :
    ∃ earlier later, ws = earlier ++ w :: later ∧ (∀ v ∈ earlier, w.due < v.due) ∧
      (∀ v ∈ later, w.due ≤ v.due) ∧ inOrder (earlier ++ later) = rest := by
  induction ws using List.reverseRecOn generalizing rest with
  | nil => simp [inOrder] at h
  | append_singleton ws x ih =>
    rw [inOrder_concat] at h
    cases hws : inOrder ws with
    | nil =>
      have hnil : ws = [] := List.perm_nil.mp (hws ▸ (perm_inOrder ws).symm)
      rw [hws, insertWakeup] at h
      obtain ⟨rfl, rfl⟩ := List.cons.inj h
      exact ⟨[], [], by simp [hnil], by simp, by simp, rfl⟩
    | cons v vs =>
      rw [hws, insertWakeup] at h
      split at h
      · next hle =>
        -- the new wakeup comes in behind the first one
        obtain ⟨rfl, rfl⟩ := List.cons.inj h
        obtain ⟨earlier, later, rfl, hearlier, hlater, hrest⟩ := ih hws
        refine ⟨earlier, later ++ [x], by simp, hearlier, ?_, ?_⟩
        · intro u hu
          rcases List.mem_append.mp hu with hu | hu
          · exact hlater u hu
          · exact (List.mem_singleton.mp hu) ▸ hle
        · rw [← List.append_assoc, inOrder_concat, hrest]
      · next hlt =>
        -- the new wakeup is due before the first one, and so before all of them
        obtain ⟨rfl, rfl⟩ := List.cons.inj h
        refine ⟨ws, [], rfl, ?_, by simp, by simpa using hws⟩
        intro u hu
        have hfirst := List.pairwise_cons.mp (hws ▸ ascending_inOrder ws)
        rcases List.mem_cons.mp (hws ▸ (perm_inOrder ws).mem_iff.mpr hu) with rfl | hu
        · omega
        · have := hfirst.1 u hu
          omega

/-! ## Timelines and registers -/

theorem Ticket.waiting?_dropAlarm (x : Ticket) :
    x.dropAlarm.waiting? = x.waiting?.filter (·.task.isRunner) := by
  unfold dropAlarm waiting?
  by_cases hfate : x.fate = .waiting <;> cases hkind : x.task.isRunner <;>
    simp [hfate, hkind, Option.filter]

theorem Ticket.taken?_dropAlarm (x : Ticket) : x.dropAlarm.taken? = x.taken? := by
  unfold dropAlarm taken?
  split
  · next h => simp [h.1]
  · rfl

theorem Ticket.mem_waiting {x : Ticket} {tickets : List Ticket} (hx : x ∈ tickets)
    (hwaits : x.fate = .waiting) : x.toWakeup ∈ tickets.filterMap Ticket.waiting? :=
  List.mem_filterMap.mpr ⟨x, hx, if_pos hwaits⟩

/-- Each wakeup that waits has its ticket. -/
theorem Register.exists_ticket (r : Register) {w : Wakeup} {before behind : List Wakeup}
    (h : r.waiting = before ++ w :: behind) : ∃ earlier later,
      r.tickets = earlier ++ { w with fate := .waiting } :: later ∧
        earlier.filterMap Ticket.waiting? = before ∧ later.filterMap Ticket.waiting? = behind := by
  obtain ⟨earlier, tickets, htickets, hearlier, hmore⟩ := List.filterMap_eq_append_iff.mp h
  obtain ⟨others, ⟨⟨due, task⟩, fate⟩, later, rfl, hothers, hx, hlater⟩ :=
    List.filterMap_eq_cons_iff.mp hmore
  have hnone : others.filterMap Ticket.waiting? = [] := List.filterMap_eq_nil_iff.mpr hothers
  obtain ⟨hfate, hw⟩ := Option.ite_none_right_eq_some.mp hx
  obtain rfl : fate = .waiting := hfate
  obtain rfl : (⟨due, task⟩ : Wakeup) = w := Option.some.inj hw
  exact ⟨earlier ++ others, later, by simp [htickets], by simp [hearlier, hnone], hlater⟩

namespace Timeline

/-- Each wait took some time, and all together took the time that it is. -/
structure Paced (t : Timeline) : Prop where
  positive : ∀ wait ∈ t.waits, 0 < wait
  sum : t.waits.sum = t.now

theorem Paced.next? {t t' : Timeline} {task : Task} (h : t.Paced)
    (hn : t.next? = some (task, t')) : t'.Paced := by
  unfold Timeline.next? at hn
  split at hn
  · simp at hn
  · next w rest hqueue =>
    split at hn <;>
      simp only [Option.some.injEq, Prod.mk.injEq] at hn <;> obtain ⟨rfl, rfl⟩ := hn
    · next hlater =>
      refine ⟨List.forall_mem_cons.mpr ⟨by omega, h.positive⟩, ?_⟩
      have := h.sum
      simp only [List.sum_cons]
      omega
    · exact ⟨h.positive, h.sum⟩

/-- A timeline holds what waits in a register, at the same instant. -/
structure Keeps (t : Timeline) (r : Register) : Prop where
  now : t.now = r.now
  queue : t.queue = SpriteScript.inOrder r.waiting
  inOrder : t.InOrder
  paced : t.Paced

namespace Keeps

variable {t t' : Timeline} {r : Register}

theorem schedule (h : t.Keeps r) (delay : Nat) (task : Task) : (t.schedule delay task).Keeps
    { r with tickets := r.tickets ++ [{ due := after r.now delay, task }] } where
  now := h.now
  queue := by
    have hnew : Register.waiting
        { r with tickets := r.tickets ++ [{ due := after r.now delay, task }] } =
          r.waiting ++ [⟨after r.now delay, task⟩] := by simp [Register.waiting, Ticket.waiting?]
    rw [hnew, inOrder_concat, ← h.queue, ← h.now]
    rfl
  inOrder := h.inOrder.schedule delay task
  paced := ⟨h.paced.positive, h.paced.sum⟩

theorem dropAlarms (h : t.Keeps r) :
    t.dropAlarms.Keeps { r with tickets := r.tickets.map Ticket.dropAlarm } where
  now := h.now
  queue := by
    have hrunners : Register.waiting { r with tickets := r.tickets.map Ticket.dropAlarm } =
        r.waiting.filter (·.task.isRunner) := by
      simp only [Register.waiting, List.filterMap_map, List.filter_filterMap, Function.comp_def,
        Ticket.waiting?_dropAlarm]
    rw [hrunners, ← filter_inOrder, ← h.queue]
    rfl
  inOrder := h.inOrder.dropAlarms
  paced := ⟨h.paced.positive, h.paced.sum⟩

/-- **What a timeline gives is what comes next according to the register.** -/
theorem take {task : Task} (h : t.Keeps r) (hn : t.next? = some (task, t')) :
    ∃ r', r.Answers .next (some task, t'.now) r' ∧ t'.Keeps r' := by
  obtain ⟨due, hqueue, hdue⟩ := h.inOrder.next?_eq hn
  obtain ⟨before, behind, hwaiting, hbefore, hbehind, hrest⟩ :=
    inOrder_eq_cons (h.queue.symm.trans hqueue)
  obtain ⟨earlier, later, htickets, rfl, rfl⟩ := r.exists_ticket hwaiting
  have hahead : r.now ≤ due := h.now ▸ h.inOrder.ahead ⟨due, task⟩ (by simp [hqueue])
  rw [hdue]
  refine ⟨_, .take htickets ?_ ?_ hahead, hdue, ?_, h.inOrder.next? hn, h.paced.next? hn⟩
  · intro x hx hwaits
    exact hbefore x.toWakeup (Ticket.mem_waiting hx hwaits)
  · intro x hx hwaits
    exact hbehind x.toWakeup (Ticket.mem_waiting hx hwaits)
  · rw [← hrest]
    simp [Register.waiting, Ticket.waiting?]

theorem idle (h : t.Keeps r) (hn : t.next? = none) : r.Answers .next (none, t.now) r := by
  rw [h.now]
  refine .idle fun x hx hwaits => ?_
  have hqueue : t.queue = [] := by
    by_contra hne
    have hsome := next?_isSome hne
    simp [hn] at hsome
  have hmem : x.toWakeup ∈ SpriteScript.inOrder r.waiting :=
    (perm_inOrder _).mem_iff.mpr (Ticket.mem_waiting hx hwaits)
  rw [← h.queue, hqueue] at hmem
  simp at hmem

/-- **Each call is answered as the register says.** -/
theorem call (h : t.Keeps r) (c : Call) :
    ∃ r', r.Answers c ((t.call c).1, (t.call c).2.now) r' ∧ (t.call c).2.Keeps r' := by
  cases c with
  | schedule delay task =>
    refine ⟨_, ?_, h.schedule delay task⟩
    show r.Answers _ (none, t.now) _
    rw [h.now]
    exact .schedule delay task
  | next =>
    unfold Timeline.call
    cases hn : t.next? with
    | none => exact ⟨r, h.idle hn, h⟩
    | some taken => exact h.take hn
  | dropAlarms =>
    refine ⟨_, ?_, h.dropAlarms⟩
    show r.Answers _ (none, t.now) _
    rw [h.now]
    exact .dropAlarms

theorem follows (h : t.Keeps r) (calls : List Call) :
    ∃ r', Register.Follows r calls (t.replies calls) r' ∧ (t.afterCalls calls).Keeps r' := by
  induction calls generalizing t r with
  | nil => exact ⟨r, .nil r, h⟩
  | cons c calls ih =>
    obtain ⟨r', hanswer, hkeeps⟩ := h.call c
    obtain ⟨r'', hfollows, hlast⟩ := ih hkeeps
    exact ⟨r'', .cons hanswer hfollows, hlast⟩

end Keeps

end Timeline

/-! ## Nothing is lost -/

namespace Register

variable {r r' : Register} {c : Timeline.Call} {reply : Option Task × Nat}

theorem Answers.tasks (h : r.Answers c reply r') :
    r'.tickets.map (·.task) = r.tickets.map (·.task) ++ c.task?.toList := by
  cases h with
  | schedule delay task => simp [Timeline.Call.task?]
  | take tickets _ _ _ => simp [Timeline.Call.task?, tickets]
  | idle _ => simp [Timeline.Call.task?]
  | dropAlarms =>
    have hsame (x : Ticket) : x.dropAlarm.task = x.task := by
      unfold Ticket.dropAlarm
      split <;> rfl
    simp [Timeline.Call.task?, hsame]

theorem Answers.taken (h : r.Answers c reply r') : r'.taken.Perm (r.taken ++ reply.1.toList) := by
  cases h with
  | schedule delay task => simp [Register.taken, Ticket.taken?]
  | @take earlier later w tickets _ _ _ =>
    have hbefore : r.taken =
        earlier.filterMap Ticket.taken? ++ later.filterMap Ticket.taken? := by
      simp [Register.taken, Ticket.taken?, tickets]
    have hafter : Register.taken ⟨w.due, earlier ++ { w with fate := .taken } :: later⟩ =
        earlier.filterMap Ticket.taken? ++ w.task :: later.filterMap Ticket.taken? := by
      simp [Register.taken, Ticket.taken?]
    rw [hafter, hbefore, List.append_assoc]
    exact (List.perm_append_singleton w.task _).symm.append_left _
  | idle _ => simp
  | dropAlarms =>
    simp only [Register.taken, List.filterMap_map, Function.comp_def, Ticket.taken?_dropAlarm,
      Option.toList_none, List.append_nil]
    exact .refl _

theorem Answers.now (h : r.Answers c reply r') : reply.2 = r'.now ∧ r.now ≤ r'.now := by
  cases h with
  | schedule | idle | dropAlarms => exact ⟨rfl, Nat.le_refl _⟩
  | take _ _ _ ahead => exact ⟨rfl, ahead⟩

variable {calls : List Timeline.Call} {replies : List (Option Task × Nat)}

/-- Each task that was scheduled has its ticket. -/
theorem Follows.tasks (h : Follows r calls replies r') : r'.tickets.map (·.task) =
    r.tickets.map (·.task) ++ calls.filterMap Timeline.Call.task? := by
  induction h with
  | nil => simp
  | @cons r r' r'' c calls reply replies hanswer _ ih =>
    rw [ih, hanswer.tasks, List.append_assoc]
    cases hc : c.task? <;> simp [hc]

/-- A task is taken as often as it was given. -/
theorem Follows.taken (h : Follows r calls replies r') :
    r'.taken.Perm (r.taken ++ replies.filterMap Prod.fst) := by
  induction h with
  | nil => simp
  | @cons r r' r'' c calls reply replies hanswer _ ih =>
    have hfirst : (reply :: replies).filterMap Prod.fst =
        reply.1.toList ++ replies.filterMap Prod.fst := by
      cases hreply : reply.1 <;> simp [hreply]
    rw [hfirst, ← List.append_assoc]
    exact ih.trans (hanswer.taken.append_right _)

/-- Time never goes back. -/
theorem Follows.times (h : Follows r calls replies r') :
    (r.now :: replies.map Prod.snd).Pairwise (· ≤ ·) := by
  induction h with
  | nil => simp
  | @cons r r' r'' c calls reply replies hanswer _ ih =>
    obtain ⟨hreply, hnow⟩ := hanswer.now
    rw [List.map_cons, hreply]
    refine List.pairwise_cons.mpr ⟨fun time htime => ?_, ih⟩
    rcases List.mem_cons.mp htime with rfl | htime
    · exact hnow
    · exact Nat.le_trans hnow ((List.pairwise_cons.mp ih).1 time htime)

end Register

/-- A timeline that nothing was scheduled on keeps what an empty register says. -/
theorem Timeline.keeps_begin : ({} : Timeline).Keeps {} where
  now := rfl
  queue := rfl
  inOrder := ⟨.nil, by simp, by simp, Nat.zero_le _⟩
  paced := ⟨by simp, rfl⟩

/-- **A timeline follows its register.** Whatever the calls of a new timeline are, what it gives is
what the register says: the wakeup with the least instant of all that wait, of several the one that
was scheduled first, and nothing only if nothing waits; and it is then the instant of that wakeup.
Nothing that waits is past, and time never goes back. All waits took some time, and together the time
that it is. Each task that was scheduled has one ticket, and those with tickets that were taken are
the ones that were given. -/
theorem Timeline.follows_register (calls : List Call) :
    let t := afterCalls {} calls
    let given := replies {} calls
    ∃ r, Register.Follows {} calls given r ∧ t.now = r.now ∧ t.queue.Perm r.waiting ∧
      (∀ w ∈ r.waiting, t.now ≤ w.due) ∧ (given.map Prod.snd).Pairwise (· ≤ ·) ∧
      (∀ wait ∈ t.waits, 0 < wait) ∧ t.waits.sum = t.now ∧
      r.tickets.map (·.task) = calls.filterMap Call.task? ∧
      r.taken.Perm (given.filterMap Prod.fst) := by
  obtain ⟨r, hfollows, hkeeps⟩ := keeps_begin.follows calls
  have hperm : (afterCalls {} calls).queue.Perm r.waiting := hkeeps.queue ▸ perm_inOrder r.waiting
  refine ⟨r, hfollows, hkeeps.now, hperm, ?_, (List.pairwise_cons.mp hfollows.times).2,
    hkeeps.paced.positive, hkeeps.paced.sum, hfollows.tasks, hfollows.taken⟩
  intro w hw
  exact hkeeps.inOrder.ahead w (hperm.mem_iff.mpr hw)

/-- Wakeups beyond the end of time are due at its end, in the order in which they were scheduled. -/
example : ({} : Timeline).replies [.schedule 5 (.alarm .banner 1), .schedule lastInstant (.runner 0),
      .schedule (lastInstant + 7) (.runner 1), .schedule 3 (.runner 2), .next, .dropAlarms,
      .schedule lastInstant (.runner 3), .next, .next, .next, .next] =
    [(none, 0), (none, 0), (none, 0), (none, 0), (some (.runner 2), 3), (none, 3), (none, 3),
      (some (.runner 0), lastInstant), (some (.runner 1), lastInstant),
      (some (.runner 3), lastInstant), (none, lastInstant)] := by decide

end SpriteScript
