/-
  Every run ends.

  * `total_set`, `total_pop?` and `total_swapMotion_le`: what the operations on queues make of the
    number of blocks that wait;
  * `Reachable.started_le`: the blocks that were started and those that wait are no more than the
    plans hold;
  * `Drive.tasks` are the tasks that a drive carries out, and `pending_after` bounds their number;
  * `Drive.isOver_last`: **the budget of a drive suffices**, whatever the observer asks for;
  * `Plot.atEnd` is the plot in which a run ends: `scene_runAll`, `elapsed_runAll`,
    `collisions_runAll` and `blocks_runAll` read the session and the report of the run off it.
-/
import SpriteScript.Proofs.Meetings
import SpriteScript.Proofs.Simulation

namespace SpriteScript

/-! ## How many blocks wait -/

namespace RunQueues

theorem total_eq (q : RunQueues) : q.total = (q.byId.toList.map fun e => e.2.length).sum := by
  unfold total
  rw [Std.TreeMap.foldl_eq_foldl_toList, List.sum_eq_foldl, List.foldl_map]

theorem total_congr {q q' : RunQueues} (h : ∀ id, q.get? id = q'.get? id) :
    q.total = q'.total := by
  have hnodup (t : Std.TreeMap String (List Block)) : t.toList.Nodup :=
    Std.TreeMap.distinct_keys_toList.imp fun hab heq =>
      hab (Std.compare_eq_iff_eq.mpr (congrArg Prod.fst heq))
  have hperm : q.byId.toList.Perm q'.byId.toList := by
    refine (List.perm_ext_iff_of_nodup (hnodup _) (hnodup _)).mpr ?_
    rintro ⟨id, queue⟩
    simp only [Std.TreeMap.mem_toList_iff_getElem?_eq_some]
    rw [show q.byId[id]? = q'.byId[id]? from h id]
  rw [total_eq, total_eq, (hperm.map _).sum_nat]

theorem total_set_of_none {q : RunQueues} {id : String} (h : q.get? id = none)
    (queue : List Block) : (q.set id queue).total = queue.length + q.total := by
  have hall : q.byId.toList.filter (fun e => ¬id == e.1) = q.byId.toList := by
    refine List.filter_eq_self.mpr ?_
    intro e he
    have hget := Std.TreeMap.mem_toList_iff_getElem?_eq_some.mp he
    simp only [beq_iff_eq, decide_eq_true_eq]
    rintro rfl
    exact absurd (hget.symm.trans h) (by simp)
  have hperm := Std.TreeMap.toList_insert_perm (t := q.byId) (k := id) (v := queue)
  rw [hall] at hperm
  rw [total_eq, total_eq, set, (hperm.map _).sum_nat, List.map_cons, List.sum_cons]

theorem total_take (q : RunQueues) (id : String) :
    q.total = (q.get id).length + (q.take id).2.total := by
  cases h : q.get? id with
  | none =>
    simp only [get, h, Option.getD_none, List.length_nil, Nat.zero_add]
    refine total_congr ?_
    intro id'
    rw [get?_take]
    split
    · next heq => rw [← heq, h]
    · rfl
  | some queue =>
    have hnone : (q.take id).2.get? id = none := by rw [get?_take, if_pos rfl]
    rw [get, h, Option.getD_some, ← total_set_of_none hnone]
    refine total_congr ?_
    intro id'
    rw [get?_set, get?_take]
    split
    · next heq => rw [← heq, h]
    · rfl

/-- **A queue takes the place of the one that was there.** -/
theorem total_set (q : RunQueues) (id : String) (queue : List Block) :
    (q.set id queue).total + (q.get id).length = queue.length + q.total := by
  have hnone : (q.take id).2.get? id = none := by rw [get?_take, if_pos rfl]
  have hset : (q.set id queue).total = ((q.take id).2.set id queue).total := by
    refine total_congr ?_
    intro id'
    rw [get?_set, get?_set, get?_take]
    split <;> rfl
  have htake := q.total_take id
  rw [hset, total_set_of_none hnone]
  omega

theorem total_pop? {q q' : RunQueues} {id : String} {b : Block} (h : q.pop? id = some (b, q')) :
    q.total = q'.total + 1 := by
  unfold pop? at h
  split at h
  · next b' rest hget =>
    obtain ⟨rfl, rfl⟩ := Prod.mk.inj (Option.some.inj h)
    have hset := q.total_set id rest
    simp only [get, hget, Option.getD_some, List.length_cons] at hset
    omega
  · simp at h

theorem length_splitLooks (queue : List Block) :
    (splitLooks queue).1.length + (splitLooks queue).2.length = queue.length := by
  simp only [splitLooks, List.partition_eq_filter_filter]
  induction queue with
  | nil => rfl
  | cons b queue ih =>
    cases hb : b.isLooks <;> simp [hb] at ih ⊢ <;> omega

/-- **No block is added by an exchange.** -/
theorem total_swapMotion_le (q : RunQueues) (a b : String) :
    (q.swapMotion a b).total ≤ q.total := by
  have hlen := length_splitLooks (q.get a)
  have hlen' := length_splitLooks ((q.take a).2.get b)
  have htake := q.total_take a
  have htake' := (q.take a).2.total_take b
  unfold swapMotion
  simp only [take] at *
  have hset := RunQueues.total_set ⟨(q.byId.erase a).erase b⟩ a
    ((splitLooks (RunQueues.get ⟨q.byId.erase a⟩ b)).1 ++ (splitLooks (q.get a)).2)
  have hset' := RunQueues.total_set (RunQueues.set ⟨(q.byId.erase a).erase b⟩ a
    ((splitLooks (RunQueues.get ⟨q.byId.erase a⟩ b)).1 ++ (splitLooks (q.get a)).2)) b
    ((splitLooks (q.get a)).1 ++ (splitLooks (RunQueues.get ⟨q.byId.erase a⟩ b)).2)
  simp only [List.length_append] at hset hset'
  omega

end RunQueues

/-! ## How many blocks are started -/

namespace Scene

theorem total_compare_le (c : Scene) (p : Sprite × Sprite) :
    (c.compare p).queues.total ≤ c.queues.total := by
  unfold compare
  split
  · exact RunQueues.total_swapMotion_le _ _ _
  · exact Nat.le_refl _

theorem total_collide_le (c : Scene) : c.collide.queues.total ≤ c.queues.total := by
  refine collide_induction (motive := fun d => d.queues.total ≤ c.queues.total)
    (Nat.le_refl _) ?_
  intro d hd p _
  exact Nat.le_trans (d.total_compare_le p) hd

theorem total_settleBusy_le (cfg : Settings) (r : ScriptRunner) (c : Scene) :
    (c.settleBusy cfg r).queues.total ≤ c.queues.total + r.size cfg c.bodies := by
  unfold settleBusy ScriptRunner.size
  cases r.busy with
  | some b => exact total_collide_le c
  | none =>
    simp only [seed]
    cases c.bodies[r.sprite]? with
    | none => exact Nat.le_refl _
    | some body =>
      have hset := c.queues.total_set body.id (body.plan cfg.maxRepeat)
      rw [body.length_plan] at hset
      simp only [RunQueues.seed, Option.map_some, Option.getD_some]
      omega

end Scene

namespace ScriptRunner

theorem size_congr (cfg : Settings) {l l' : List Sprite}
    (h : l.map Sprite.role = l'.map Sprite.role) (r : ScriptRunner) :
    r.size cfg l = r.size cfg l' := by
  have hsize (l : List Sprite) : l[r.sprite]?.map (·.planSize cfg.maxRepeat) =
      ((l.map Sprite.role)[r.sprite]?).map (·.planSize cfg.maxRepeat) := by
    rw [List.getElem?_map, Option.map_map]
    rfl
  unfold size
  rw [hsize l, hsize l', h]

end ScriptRunner

theorem sizes_set (cfg : Settings) (sprites : List Sprite) {r : ScriptRunner}
    (x : Option ScriptRunner) {runners : List (Option ScriptRunner)} {i : Nat}
    (h : runners[i]?.join = some r) :
    Runner.sizes cfg sprites (runners.set i x) + r.size cfg sprites =
      Runner.sizes cfg sprites runners + Runner.sizes cfg sprites [x] := by
  induction runners generalizing i with
  | nil => simp at h
  | cons y runners ih =>
    cases i with
    | zero =>
      obtain rfl : y = some r := by simpa using h
      have hsize : Runner.size cfg sprites r = r.size cfg sprites := rfl
      cases x with
      | none =>
        simp only [List.set_cons_zero, Runner.sizes, hsize]
        omega
      | some r' =>
        simp only [List.set_cons_zero, Runner.sizes, hsize]
        omega
    | succ i =>
      have hrest := ih (i := i) (by simpa using h)
      cases y with
      | none => exact hrest
      | some r' =>
        simp only [List.set_cons_succ, Runner.sizes] at hrest ⊢
        omega

namespace Plot

variable {cfg : Settings} {sprites : List Sprite} {p : Plot}

/-- **The blocks that were started and those that wait are no more than the plans hold.** -/
theorem Reachable.started_le (h : Reachable cfg sprites p) :
    p.scene.queues.total + Runner.sizes cfg sprites p.runners + p.scene.started ≤
      Runner.sizes cfg sprites (Plot.opening sprites).runners := by
  refine rec_wake (motive := fun p =>
    p.scene.queues.total + Runner.sizes cfg sprites p.runners + p.scene.started ≤
      Runner.sizes cfg sprites (Plot.opening sprites).runners) ?_ ?_ ?_ h
  · have hempty : ({} : RunQueues).total = 0 := by decide
    simp [Plot.opening, hempty]
  · intro p t ih _ _
    exact ih
  · intro p i r rest c stopped p' ih hcourse ht hwake
    obtain ⟨-, -, -, -, hstarted⟩ := ht.frame
    have htotal : c.queues.total ≤ p.scene.queues.total + r.size cfg sprites := by
      rw [ht.scene, ← r.size_congr cfg hcourse.roles]
      exact Scene.total_settleBusy_le cfg r _
    have hsizes (x : Option ScriptRunner) := sizes_set cfg sprites x ht.runner
    cases hwake with
    | finish =>
      have hset := hsizes none
      simp only [Scene.finish, hstarted, Runner.sizes] at hset ⊢
      omega
    | @start b c' hpop =>
      have hset := hsizes (some ⟨i, some b⟩)
      have hfree : Runner.sizes cfg sprites [some (⟨i, some b⟩ : ScriptRunner)] = 0 := rfl
      obtain ⟨body, queue, -, hget, rfl⟩ := Scene.pop?_eq_some hpop
      have hpop' : c.queues.pop? body.id = some (b, c.queues.set body.id queue) := by
        simp [RunQueues.pop?, hget]
      have hone := RunQueues.total_pop? hpop'
      simp only [Scene.schedule, Scene.start, hstarted] at hset ⊢
      omega

end Plot

/-! ## The budget -/

namespace Drive

variable {σ : Type} (o : Observer σ) (cfg : Settings)

/-- The task that a drive carries out next, if there is one left. -/
def task? (d : Drive σ ScriptRunner) : Option Task :=
  if d.isOver then none else d.session.timeline.next?.map (·.1)

/-- The first tasks that a drive carries out, the earliest first; all of them if they are fewer. -/
def tasks (n : Nat) (d : Drive σ ScriptRunner) : List Task :=
  (List.range n).filterMap fun m => (d.after o cfg m).task?

theorem task?_of_step_eq_none {d : Drive σ ScriptRunner} (h : d.step o cfg = none) :
    d.task? = none := by
  unfold step at h
  unfold task?
  split
  · rfl
  · next hover =>
    rw [if_neg hover] at h
    cases hnext : d.session.timeline.next? with
    | none => rfl
    | some next => simp [hnext] at h

theorem task?_of_step_eq_some {d d' : Drive σ ScriptRunner} (h : d.step o cfg = some d') :
    ∃ task, d.task? = some task := by
  unfold step at h
  unfold task?
  split
  · next hover => simp [hover] at h
  · next hover =>
    rw [if_neg hover] at h
    cases hnext : d.session.timeline.next? with
    | none => simp [hnext] at h
    | some next => exact ⟨next.1, rfl⟩

theorem tasks_succ (n : Nat) (d : Drive σ ScriptRunner) :
    d.tasks o cfg (n + 1) = d.tasks o cfg n ++ (d.after o cfg n).task?.toList := by
  rw [tasks, List.range_succ, List.filterMap_append, tasks]
  cases htask : (d.after o cfg n).task? <;> simp [htask]

variable (sprites : List Sprite) (watcher : σ) (stopping : Bool)

/-- As long as a run is not over, there is a task left. -/
theorem length_tasks (n : Nat) :
    ((Drive.opening cfg sprites watcher stopping).after o cfg n).isOver = true ∨
      ((Drive.opening cfg sprites watcher stopping).tasks o cfg n).length = n := by
  induction n with
  | zero => exact .inr rfl
  | succ n ih =>
    have hruns := runs_after o cfg sprites watcher stopping n
    rw [after_succ, tasks_succ]
    cases hstep : ((Drive.opening cfg sprites watcher stopping).after o cfg n).step o cfg with
    | none => exact .inl (hruns.isOver_of_step o cfg sprites hstep)
    | some d' =>
      obtain ⟨task, htask⟩ := task?_of_step_eq_some o cfg hstep
      rcases ih with ih | ih
      · simp [(hruns.goes o hstep).ongoing] at ih
      · exact .inr (by simp [htask, ih])

/-- Each task has taken a wakeup. -/
theorem pending_after (n : Nat) :
    let d := (Drive.opening cfg sprites watcher stopping).after o cfg n
    d.session.timeline.pending +
        ((Drive.opening cfg sprites watcher stopping).tasks o cfg n).length ≤
      sprites.length + 3 * d.plot.scene.encounters.length + d.plot.scene.started := by
  induction n with
  | zero =>
    simp only [after, plot_opening, session_opening]
    simp [Timeline.pending, Plot.opening, tasks]
  | succ n ih =>
    have hruns := runs_after o cfg sprites watcher stopping n
    rw [after_succ, tasks_succ]
    cases hstep : ((Drive.opening cfg sprites watcher stopping).after o cfg n).step o cfg with
    | none => simpa [task?_of_step_eq_none o cfg hstep] using ih
    | some d' =>
      obtain ⟨task, htask⟩ := task?_of_step_eq_some o cfg hstep
      have hpending := (hruns.goes o hstep).pending
      simp only [htask, Option.toList_some, List.length_append, List.length_singleton,
        Option.getD_some] at ih ⊢
      omega

/-- **The budget of a drive suffices.** -/
theorem isOver_last : ((Drive.opening cfg sprites watcher stopping).last o cfg).isOver = true := by
  have hbudget : (Drive.opening cfg sprites watcher stopping).budget cfg =
      sprites.length + Runner.sizes cfg sprites (Plot.opening sprites).runners +
        3 * (placePairs sprites.length).length := by
    have hempty : ({} : RunQueues).total = 0 := by decide
    have hrunners : (Drive.opening cfg sprites watcher stopping).runners =
        (Plot.opening sprites).runners :=
      congrArg Plot.runners (plot_opening cfg sprites watcher stopping)
    unfold budget
    rw [session_opening, hrunners]
    simp [Timeline.pending, Session.reach, Session.record, Session.begin, Session.sprites, hempty]
  have hruns := runs_after o cfg sprites watcher stopping
    ((Drive.opening cfg sprites watcher stopping).budget cfg)
  have hpending := pending_after o cfg sprites watcher stopping
    ((Drive.opening cfg sprites watcher stopping).budget cfg)
  rcases length_tasks o cfg sprites watcher stopping
    ((Drive.opening cfg sprites watcher stopping).budget cfg) with hover | hlength
  · exact hover
  · by_contra hover
    have hfirst := hruns.pending_pos cfg sprites (Bool.eq_false_iff.mpr hover)
    have hencounters := hruns.reachable.length_encounters_le
    have hstarted := hruns.reachable.started_le
    simp only [last, hlength] at hover hpending
    omega

end Drive

/-! ## The report -/

/-- The plot in which all runners of a run are done. -/
def Plot.atEnd {σ : Type} (o : Observer σ) (cfg : Settings) (sprites : List Sprite) (watcher : σ)
    (stopping : Bool) : Plot :=
  ((Drive.opening cfg sprites watcher stopping).last o cfg).plot

section
variable {σ : Type} (o : Observer σ) (cfg : Settings) (sprites : List Sprite) (watcher : σ)
  (stopping : Bool)

theorem Plot.reachable_atEnd :
    (Plot.atEnd o cfg sprites watcher stopping).Reachable cfg sprites :=
  (Drive.runs_after o cfg sprites watcher stopping _).reachable

theorem Plot.isOver_atEnd : (Plot.atEnd o cfg sprites watcher stopping).isOver = true :=
  (Plot.isOver_plot _).trans (Drive.isOver_last o cfg sprites watcher stopping)

/-- To call off alarms and to clear what sprites show leaves the scene as it is. -/
theorem Session.scene_close (s : Session σ) :
    ((s.cancelAlarms.settle o).reach (.runFinished (s.cancelAlarms.settle o).report)).scene =
      s.scene := by
  rw [scene_reach_of_quiet _ fun _ => rfl, scene_settle, scene_cancelAlarms]

theorem Session.report_close (s : Session σ) :
    (s.cancelAlarms.settle o).report.elapsed = s.scene.now ∧
      (s.cancelAlarms.settle o).report.collisions = s.scene.collisions ∧
      (s.cancelAlarms.settle o).report.blocks = s.scene.started := by
  rw [← scene_cancelAlarms s, ← scene_settle o]
  exact ⟨rfl, rfl, rfl⟩

/-- **A run ends with the scene in which all runners are done.** -/
theorem Session.scene_runAll :
    ((Session.begin sprites watcher stopping).runAll o cfg).2.scene =
      (Plot.atEnd o cfg sprites watcher stopping).scene := by
  simp only [runAll_eq]
  exact scene_close o _

theorem Session.elapsed_runAll :
    ((Session.begin sprites watcher stopping).runAll o cfg).1.elapsed =
      (Plot.atEnd o cfg sprites watcher stopping).scene.now := by
  simp only [runAll_eq]
  exact (report_close o _).1

theorem Session.collisions_runAll :
    ((Session.begin sprites watcher stopping).runAll o cfg).1.collisions =
      (Plot.atEnd o cfg sprites watcher stopping).scene.collisions := by
  simp only [runAll_eq]
  exact (report_close o _).2.1

theorem Session.blocks_runAll :
    ((Session.begin sprites watcher stopping).runAll o cfg).1.blocks =
      (Plot.atEnd o cfg sprites watcher stopping).scene.started := by
  simp only [runAll_eq]
  exact (report_close o _).2.2

end

/-- Two sprites: the cat goes to the dog and turns, while the dog speaks and then steps aside. -/
def catAndDog : List Sprite :=
  [{ Sprite.blank "cat" "Cat" "#FF6680" 0 0 "Script 1" with
      scripts := [⟨"Script 1", [⟨"b1", .goto, .ofPairs [("x", .number 300)], []⟩,
        ⟨"b2", .turn, {}, []⟩]⟩] },
    { Sprite.blank "dog" "Dog" "#4C97FF" 300 0 "Script 1" with
      scripts := [⟨"Script 1", [⟨"b3", .say, .ofPairs [("seconds", .number 1)], []⟩,
        ⟨"b4", .goto, .ofPairs [("x", .number 320)], []⟩]⟩] }]

end SpriteScript
