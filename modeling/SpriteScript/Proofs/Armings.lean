/-
  Alarms, and the history of all that was done with them.

  The history tells of each call what it gave, and keeps no table of alarms: which of them are set,
  and with which numbers, is read off the calls that were made.

  * `Alarms.Call` is a call of alarms, `Alarms.Event` a call with what it gave, and
    `Alarms.history` tells of calls one after the other;
  * `Alarms.Live`: by a history, an alarm is set with a number;
  * `Alarms.Tells`: a history tells which alarms are set; `Tells.call`: **it goes on to do so with
    each call**;
  * `Alarms.fires_latest`: **a wakeup counts just for the latest setting of its alarm**, and once at
    most.
-/
import Mathlib.Data.List.Nodup
import Mathlib.Data.List.Pairwise
import SpriteScript.Time.Alarms

namespace SpriteScript

namespace Alarms

/-! ## Histories -/

/-- A call of alarms. -/
inductive Call where
  | arm (key : AlarmKey)
  | fire (key : AlarmKey) (number : Nat)
  | disarm (key : AlarmKey)
  | clear

/-- A call, with what it gave. -/
inductive Event where
  | armed (key : AlarmKey) (number : Nat)
  | fired (key : AlarmKey) (number : Nat) (counts : Bool)
  | disarmed (key : AlarmKey)
  | cleared
  deriving DecidableEq

/-- What a call gives, and what it makes of alarms. -/
def call (a : Alarms) : Call → Event × Alarms
  | .arm key => (.armed key (a.arm key).1, (a.arm key).2)
  | .fire key number => (.fired key number (a.fire key number).1, (a.fire key number).2)
  | .disarm key => (.disarmed key, a.disarm key)
  | .clear => (.cleared, a.clear)

/-- The alarms after some calls. -/
def afterCalls (a : Alarms) (calls : List Call) : Alarms :=
  calls.foldl (fun a c => (a.call c).2) a

/-- What comes of some calls, one after the other. -/
def history (a : Alarms) : List Call → List Event
  | [] => []
  | c :: calls => (a.call c).1 :: (a.call c).2.history calls

namespace Event

/-- Whether what an alarm was set for is over with an event: it is set anew or called off, or a
wakeup counts for it. -/
def ends (key : AlarmKey) : Event → Bool
  | armed other _ | disarmed other => other = key
  | fired other _ counts => other = key && counts
  | cleared => true

/-- The number that an alarm is set with. -/
def issued? : Event → Option Nat
  | armed _ number => some number
  | fired .. | disarmed _ | cleared => none

/-- The number of a wakeup that counts. -/
def counted? : Event → Option Nat
  | fired _ number true => some number
  | fired _ _ false | armed .. | disarmed _ | cleared => none

theorem issued?_eq_some {e : Event} {number : Nat} :
    e.issued? = some number ↔ ∃ key, e = armed key number := by
  cases e <;> simp [issued?]

theorem counted?_eq_some {e : Event} {number : Nat} :
    e.counted? = some number ↔ ∃ key, e = fired key number true := by
  cases e with
  | fired key n counts => cases counts <;> simp [counted?]
  | armed | disarmed | cleared => simp [counted?]

end Event

theorem filterMap_concat {β : Type} (f : Event → Option β) (h : List Event) (e : Event) :
    (h ++ [e]).filterMap f = h.filterMap f ++ (f e).toList := by
  cases he : f e <;> simp [he]

/-- An event that comes somewhere in a longer history is the last one, or comes there before. -/
theorem concat_eq_append_cons {h earlier later : List Event} {last e : Event}
    (heq : h ++ [last] = earlier ++ e :: later) :
    later = [] ∧ h = earlier ∧ last = e ∨
      ∃ later', later = later' ++ [last] ∧ h = earlier ++ e :: later' := by
  rcases List.eq_nil_or_concat' later with rfl | ⟨later', last', rfl⟩
  · obtain ⟨rfl, hlast⟩ := List.append_inj' heq rfl
    exact .inl ⟨rfl, rfl, List.singleton_inj.mp hlast⟩
  · rw [← List.cons_append, ← List.append_assoc] at heq
    obtain ⟨rfl, hlast⟩ := List.append_inj' heq rfl
    obtain rfl := List.singleton_inj.mp hlast
    exact .inr ⟨later', rfl, rfl⟩

/-- The number was given out when the alarm was set last, and since then the alarm was not called
off and no wakeup has counted for it. -/
def Live (h : List Event) (key : AlarmKey) (number : Nat) : Prop :=
  ∃ earlier later, h = earlier ++ .armed key number :: later ∧ ∀ e ∈ later, e.ends key = false

theorem not_live_nil (key : AlarmKey) (number : Nat) : ¬ Live [] key number := by
  rintro ⟨earlier, later, h, -⟩
  simp at h

/-- **An alarm is set with a number by the last event, or was before and the last event is not its
end.** -/
theorem live_concat {h : List Event} {e : Event} {key : AlarmKey} {number : Nat} :
    Live (h ++ [e]) key number ↔
      e = .armed key number ∨ Live h key number ∧ e.ends key = false := by
  constructor
  · rintro ⟨earlier, later, heq, hlater⟩
    rcases concat_eq_append_cons heq with ⟨-, -, rfl⟩ | ⟨later', rfl, rfl⟩
    · exact .inl rfl
    · rw [List.forall_mem_append, List.forall_mem_singleton] at hlater
      exact .inr ⟨⟨earlier, later', rfl, hlater.1⟩, hlater.2⟩
  · rintro (rfl | ⟨⟨earlier, later, rfl, hlater⟩, hlast⟩)
    · exact ⟨h, [], rfl, by simp⟩
    · refine ⟨earlier, later ++ [e], by simp, ?_⟩
      rw [List.forall_mem_append, List.forall_mem_singleton]
      exact ⟨hlater, hlast⟩

theorem Live.mem {h : List Event} {key : AlarmKey} {number : Nat} (hl : Live h key number) :
    .armed key number ∈ h := by
  obtain ⟨earlier, later, rfl, -⟩ := hl
  simp

/-! ## Tables and histories -/

/-- A history tells which alarms are set. -/
structure Tells (a : Alarms) (h : List Event) : Prop where
  current : ∀ key number, a.current? key = some number ↔ Live h key number
  keys : (a.armed.map Prod.fst).Nodup
  /-- Numbers go up. -/
  numbers : (h.filterMap Event.issued?).Pairwise (· < ·)
  issued : ∀ number ∈ h.filterMap Event.issued?, number ≤ a.issued
  bounded : a.issued ≤ h.length
  fires : ∀ earlier key number counts later, h = earlier ++ .fired key number counts :: later →
    (counts = true ↔ Live earlier key number)
  /-- No wakeup has counted twice, and none will count again. -/
  counted : (h.filterMap Event.counted?).Nodup
  spent : ∀ number ∈ h.filterMap Event.counted?, ∀ key, a.current? key ≠ some number

namespace Tells

variable {a : Alarms} {h : List Event}

/-- A wakeup that counts has the number of its own alarm. -/
theorem armed_of_fired (ht : a.Tells h) {key : AlarmKey} {number : Nat}
    (hmem : .fired key number true ∈ h) : .armed key number ∈ h := by
  obtain ⟨earlier, later, rfl⟩ := List.append_of_mem hmem
  have hlive := (ht.fires earlier key number true later rfl).mp rfl
  exact List.mem_append_left _ hlive.mem

theorem counted_le (ht : a.Tells h) {number : Nat} (hmem : number ∈ h.filterMap Event.counted?) :
    number ≤ a.issued := by
  obtain ⟨e, he, hnumber⟩ := List.mem_filterMap.mp hmem
  obtain ⟨key, rfl⟩ := Event.counted?_eq_some.mp hnumber
  exact ht.issued number (List.mem_filterMap.mpr ⟨_, ht.armed_of_fired he, rfl⟩)

/-- One more event tells of wakeups if it does so itself. -/
theorem fires_concat (ht : a.Tells h) {e : Event}
    (he : ∀ key number counts, e = .fired key number counts →
      (counts = true ↔ Live h key number))
    (earlier : List Event) (key : AlarmKey) (number : Nat) (counts : Bool) (later : List Event)
    (heq : h ++ [e] = earlier ++ .fired key number counts :: later) :
    counts = true ↔ Live earlier key number := by
  rcases concat_eq_append_cons heq with ⟨-, rfl, rfl⟩ | ⟨later', -, rfl⟩
  · exact he key number counts rfl
  · exact ht.fires earlier key number counts later' rfl

/-- Alarms are set with a number of their own. -/
theorem arm (ht : a.Tells h) (key : AlarmKey) :
    (a.arm key).2.Tells (h ++ [.armed key (a.arm key).1]) where
  current other number := by
    rw [current?_arm, live_concat, ← ht.current]
    by_cases hother : other = key
    · subst hother
      simp [Event.ends, eq_comm]
    · simp [Event.ends, hother, Ne.symm hother]
  keys := by
    have hsub : ((a.disarm key).armed.map Prod.fst).Nodup :=
      ht.keys.sublist (List.filter_sublist.map _)
    refine List.nodup_cons.mpr ⟨?_, hsub⟩
    simp [disarm]
  numbers := by
    rw [filterMap_concat, List.pairwise_append]
    refine ⟨ht.numbers, List.pairwise_singleton .., ?_⟩
    intro number hnumber last hlast
    obtain rfl := List.mem_singleton.mp hlast
    exact Nat.lt_succ_of_le (ht.issued number hnumber)
  issued number hnumber := by
    rw [filterMap_concat, List.mem_append] at hnumber
    rcases hnumber with hnumber | hnumber
    · exact Nat.le_succ_of_le (ht.issued number hnumber)
    · exact Nat.le_of_eq (List.mem_singleton.mp hnumber)
  bounded := by
    rw [List.length_append]
    exact Nat.succ_le_succ ht.bounded
  fires := ht.fires_concat (by simp)
  counted := by
    rw [filterMap_concat]
    simpa [Event.counted?] using ht.counted
  spent number hnumber other := by
    have hold : number ∈ h.filterMap Event.counted? := by
      rw [filterMap_concat] at hnumber
      simpa [Event.counted?] using hnumber
    rw [current?_arm]
    split
    · intro heq
      have hnew : a.issued + 1 = number := Option.some.inj heq
      have hle := ht.counted_le hold
      omega
    · exact ht.spent number hold other

/-- A call that sets no alarm leaves each alarm as it is or ends it. -/
theorem settle (ht : a.Tells h) {a' : Alarms} {e : Event} (hissued : e.issued? = none)
    (hsame : a'.issued = a.issued) (hsub : a'.armed.Sublist a.armed)
    (hcurrent : ∀ key, a'.current? key = if e.ends key then none else a.current? key)
    (hfires : ∀ key number counts, e = .fired key number counts →
      (counts = true ↔ Live h key number))
    (hcounted : ∀ number, e.counted? = some number →
      (∃ key, a.current? key = some number) ∧ ∀ key, a'.current? key ≠ some number) :
    a'.Tells (h ++ [e]) where
  current key number := by
    have harmed : e ≠ .armed key number := by
      rintro rfl
      simp [Event.issued?] at hissued
    rw [hcurrent, live_concat, ← ht.current]
    cases e.ends key <;> simp [harmed]
  keys := ht.keys.sublist (hsub.map _)
  numbers := by
    rw [filterMap_concat, hissued]
    simpa using ht.numbers
  issued number hnumber := by
    rw [filterMap_concat, hissued] at hnumber
    rw [hsame]
    exact ht.issued number (by simpa using hnumber)
  bounded := by
    rw [hsame, List.length_append]
    exact Nat.le_succ_of_le ht.bounded
  fires := ht.fires_concat hfires
  counted := by
    rw [filterMap_concat]
    cases hlast : e.counted? with
    | none => simpa using ht.counted
    | some number =>
      obtain ⟨⟨key, hkey⟩, -⟩ := hcounted number hlast
      rw [List.nodup_append]
      refine ⟨ht.counted, List.nodup_singleton number, ?_⟩
      rintro old hold last hmem rfl
      obtain rfl := List.mem_singleton.mp hmem
      exact ht.spent old hold key hkey
  spent number hnumber key := by
    rw [filterMap_concat, List.mem_append] at hnumber
    rcases hnumber with hnumber | hnumber
    · rw [hcurrent]
      split
      · simp
      · exact ht.spent number hnumber key
    · exact (hcounted number (Option.mem_toList.mp hnumber)).2 key

/-- No number is given to two alarms. -/
theorem key_unique (ht : a.Tells h) {key other : AlarmKey} {number : Nat}
    (hkey : .armed key number ∈ h) (hother : .armed other number ∈ h) : other = key := by
  have hdistinct : h.Pairwise fun e e' => ∀ n, e.issued? = some n → e'.issued? ≠ some n := by
    refine (List.pairwise_filterMap.mp ht.numbers).imp ?_
    intro e e' hlt n hn hn'
    exact Nat.lt_irrefl n (hlt n hn n hn')
  have : Std.Symm fun e e' : Event => ∀ n, e.issued? = some n → e'.issued? ≠ some n :=
    ⟨fun e e' hee' n hn hn' => hee' n hn' hn⟩
  by_contra hne
  exact hdistinct.forall hkey hother (by simp [Ne.symm hne]) number rfl rfl

/-- A wakeup counts if it carries the number of its alarm, and ends what the alarm was set for. -/
theorem fire (ht : a.Tells h) (key : AlarmKey) (number : Nat) :
    (a.fire key number).2.Tells (h ++ [.fired key number (a.fire key number).1]) := by
  by_cases hset : a.current? key = some number
  · have hfire : a.fire key number = (true, a.disarm key) := if_pos hset
    rw [hfire]
    have hlive := (ht.current key number).mp hset
    refine ht.settle rfl rfl List.filter_sublist ?_ ?_ ?_
    · intro other
      rw [current?_disarm]
      simp [Event.ends, eq_comm]
    · rintro _ _ _ ⟨⟩
      exact iff_of_true rfl hlive
    · rintro _ ⟨⟩
      refine ⟨⟨key, hset⟩, fun other => ?_⟩
      rw [current?_disarm]
      split
      · simp
      · next hother =>
        -- Another alarm that is set with this number would have been given it, too.
        intro hcurrent
        exact hother (ht.key_unique hlive.mem ((ht.current other number).mp hcurrent).mem)
  · have hfire : a.fire key number = (false, a) := if_neg hset
    rw [hfire]
    refine ht.settle rfl rfl (.refl _) (by simp [Event.ends]) ?_ (by simp [Event.counted?])
    rintro _ _ _ ⟨⟩
    rw [← ht.current]
    exact iff_of_false Bool.false_ne_true hset

theorem disarm (ht : a.Tells h) (key : AlarmKey) : (a.disarm key).Tells (h ++ [.disarmed key]) := by
  refine ht.settle rfl rfl List.filter_sublist ?_ (by simp) (by simp [Event.counted?])
  intro other
  rw [current?_disarm]
  simp [Event.ends, eq_comm]

theorem clear (ht : a.Tells h) : a.clear.Tells (h ++ [.cleared]) :=
  ht.settle rfl rfl (List.nil_sublist _) (fun _ => rfl) (by simp) (by simp [Event.counted?])

/-- **With each call the history goes on to tell which alarms are set.** -/
theorem call (ht : a.Tells h) (c : Call) : (a.call c).2.Tells (h ++ [(a.call c).1]) := by
  cases c with
  | arm key => exact ht.arm key
  | fire key number => exact ht.fire key number
  | disarm key => exact ht.disarm key
  | clear => exact ht.clear

theorem afterCalls (ht : a.Tells h) (calls : List Call) :
    (a.afterCalls calls).Tells (h ++ a.history calls) := by
  induction calls generalizing a h with
  | nil => simpa [Alarms.afterCalls, history] using ht
  | cons c calls ih => simpa [Alarms.afterCalls, history] using ih (ht.call c)

end Tells

/-- With no alarm set there is nothing to tell. -/
theorem tells_nil : ({} : Alarms).Tells [] where
  current key number := iff_of_false (by simp [current?]) (not_live_nil key number)
  keys := .nil
  numbers := .nil
  issued := by simp
  bounded := Nat.le_refl _
  fires := by simp
  counted := .nil
  spent := by simp

theorem length_history (a : Alarms) (calls : List Call) :
    (a.history calls).length = calls.length := by
  induction calls generalizing a with
  | nil => rfl
  | cons c calls ih => simp [history, ih]

/-- An alarm is among those that are set just if it has a number. -/
theorem mem_armed_iff (a : Alarms) (key : AlarmKey) :
    key ∈ a.armed.map Prod.fst ↔ ∃ number, a.current? key = some number := by
  rw [current?, ← Option.isSome_iff_exists, List.lookup_isSome_iff]
  simp

/-- **A wakeup counts just for the latest setting of its alarm, and once at most.** Whatever is done
with alarms that were not set before, each wakeup counts exactly if its number was given out when
its alarm was set last, and since then the alarm was not called off and no wakeup has counted for
it. No two wakeups that count have the same number. The numbers go up, whichever alarms they are
for, so that a wakeup never counts with the number of another alarm; and they do not go beyond the
number of calls. As many alarms are set as there are keys for which, by the history, one is set. -/
theorem fires_latest (calls : List Call) :
    let h := history {} calls
    (∀ earlier key number counts later, h = earlier ++ .fired key number counts :: later →
      (counts = true ↔ Live earlier key number)) ∧
    (h.filterMap Event.counted?).Nodup ∧
    (h.filterMap Event.issued?).Pairwise (· < ·) ∧
    (∀ key other number, .armed key number ∈ h → .fired other number true ∈ h → other = key) ∧
    (∀ number ∈ h.filterMap Event.issued?, number ≤ calls.length) ∧
    ∃ keys : List AlarmKey, keys.Nodup ∧ (∀ key, key ∈ keys ↔ ∃ number, Live h key number) ∧
      (Alarms.afterCalls {} calls).pending = keys.length := by
  intro h
  have ht : (Alarms.afterCalls {} calls).Tells h := tells_nil.afterCalls calls
  refine ⟨ht.fires, ht.counted, ht.numbers, ?_, ?_,
    (Alarms.afterCalls {} calls).armed.map Prod.fst, ht.keys, ?_, ?_⟩
  · intro key other number harmed hfired
    exact ht.key_unique harmed (ht.armed_of_fired hfired)
  · intro number hnumber
    exact length_history {} calls ▸ Nat.le_trans (ht.issued number hnumber) ht.bounded
  · intro key
    simp only [mem_armed_iff, ht.current]
  · exact (List.length_map _).symm

/-- Wakeups with the number of another alarm and with one that is out of date do not count, and one
that counts does so only once. -/
theorem fires_latest_thrice :
    let calls : List Call := [.arm (.flash 0), .arm .banner, .fire .banner 1, .arm (.flash 0),
      .fire (.flash 0) 1, .fire (.flash 0) 3, .fire (.flash 0) 3]
    let earlier : List Event := [.armed (.flash 0) 1, .armed .banner 2, .fired .banner 1 false,
      .armed (.flash 0) 3, .fired (.flash 0) 1 false]
    history {} calls = earlier ++ [.fired (.flash 0) 3 true, .fired (.flash 0) 3 false] ∧
      Live earlier (.flash 0) 3 ∧ ¬ Live (earlier ++ [.fired (.flash 0) 3 true]) (.flash 0) 3 ∧
      ∃ keys : List AlarmKey, keys.Nodup ∧
        (∀ key, key ∈ keys ↔ ∃ number, Live (history {} calls) key number) ∧ keys.length = 1 := by
  intro calls earlier
  obtain ⟨hfires, -, -, -, -, keys, hnodup, hkeys, hpending⟩ := fires_latest calls
  refine ⟨by decide, (hfires earlier _ _ true [.fired (.flash 0) 3 false] (by decide)).mp rfl, ?_,
    keys, hnodup, hkeys, hpending ▸ by decide⟩
  intro hlive
  have hagain := (hfires (earlier ++ [.fired (.flash 0) 3 true]) _ _ false [] (by decide)).mpr hlive
  exact Bool.false_ne_true hagain

end Alarms

end SpriteScript
