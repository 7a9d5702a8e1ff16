import Rehearsal.Proofs.Order.Listing
import Rehearsal.Task.Registry

/-! The order in which the tasks of a plan run: exactly the tasks that are needed and lie neither
on nor above a cycle of setups run, once each, after all their setups.
-/

namespace Rehearsal

namespace Order

/-- Some task that `name` needs, or `name` itself, needs itself. -/
def ReachesCycle (setups : Dict (List String)) (name : String) : Prop :=
  ∃ other, Reaches setups name other ∧ Relation.TransGen (Needs setups) other other

-----------------------------------------------------------------------------------------
-- Tasks that have run once each after their setups
-----------------------------------------------------------------------------------------

/-- Tasks that have run, newest first: each is new, and all its setups have run before it. -/
inductive Scheduled (setups : Dict (List String)) : List String → Prop where
  | nil : Scheduled setups []
  | cons {name run} (fresh : name ∉ run) (ready : ∀ setup, Needs setups name setup → setup ∈ run)
    (earlier : Scheduled setups run)
    : Scheduled setups (name :: run)

variable {setups : Dict (List String)} {tasks listed run queue : List String} {name : String}

namespace Scheduled

theorem nodup (scheduled : Scheduled setups run) : run.Nodup := by
  induction scheduled with
  | nil => exact List.nodup_nil
  | cons fresh _ _ ih => exact List.nodup_cons.mpr ⟨fresh, ih⟩

/-- The setups of a task stand among the tasks that ran before it. -/
theorem ran_before {later earlier : List String}
    (scheduled : Scheduled setups (later ++ name :: earlier))
    {setup : String} (needs : Needs setups name setup)
    : setup ∈ earlier := by
  induction later with
  | nil =>
      cases scheduled with
      | cons _ ready _ => exact ready setup needs
  | cons _ _ ih =>
      cases scheduled with
      | cons _ _ before => exact ih before

/-- Everything that a task needs has run, by induction on the setups on the way. -/
theorem mem_of_reaches (scheduled : Scheduled setups run) (member : name ∈ run)
    {other : String} (path : Reaches setups name other)
    : other ∈ run := by
  induction path with
  | refl => exact member
  | tail _ needs ih =>
      obtain ⟨later, earlier, rfl⟩ := List.append_of_mem ih
      have before := scheduled.ran_before needs
      exact List.mem_append_right _ (List.mem_cons_of_mem _ before)

/-- No task that has run reaches a cycle. Witness: the newest task on the cycle would have run
before itself.
-/
theorem not_reachesCycle (scheduled : Scheduled setups run) (member : name ∈ run)
    : ¬ ReachesCycle setups name := by
  rintro ⟨other, path, cycle⟩
  have ran := scheduled.mem_of_reaches member path
  clear path member
  induction scheduled with
  | nil => cases ran
  | @cons newest before fresh ready earlier ih =>
      rcases List.mem_cons.mp ran with rfl | inner
      · obtain ⟨setup, needs, back⟩ := Relation.TransGen.head'_iff.mp cycle
        exact fresh (earlier.mem_of_reaches (ready setup needs) back)
      · exact ih inner

end Scheduled

-----------------------------------------------------------------------------------------
-- Draining the queue and walking the list
-----------------------------------------------------------------------------------------

theorem isReady_iff
    : isReady setups run name = true ↔ ∀ setup, Needs setups name setup → setup ∈ run := by
  simp [isReady, Needs]

/-- A task that is taken from the queue is dropped exactly if it has run or is not ready. -/
theorem dropped_iff
    : (run.contains name || !isReady setups run name) = true
      ↔ name ∈ run ∨ ¬ ∀ setup, Needs setups name setup → setup ∈ run := by
  rw [← isReady_iff]
  simp

theorem not_dropped_iff
    : ¬ (run.contains name || !isReady setups run name) = true
      ↔ name ∉ run ∧ ∀ setup, Needs setups name setup → setup ∈ run := by
  rw [dropped_iff, not_or, not_not]

/-- Only listed tasks wait for a task. -/
theorem waiting_subset : (waiting setups listed name).Subset listed := by
  intro task member
  unfold waiting at member
  split at member
  · obtain ⟨other, inList, same⟩ := List.mem_flatMap.mp member
    obtain ⟨_, _, rfl⟩ := List.mem_map.mp same
    exact inList
  · cases member

/-- Draining a queue lets only ready tasks run, by induction along the queue. -/
theorem Scheduled.drain (scheduled : Scheduled setups run)
    : Scheduled setups (drain setups listed run queue) := by
  fun_induction Order.drain setups listed run queue with
  | case1 run => exact scheduled
  | case2 run task queue dropped ih => exact ih scheduled
  | case3 run task queue taken ih =>
      obtain ⟨fresh, ready⟩ := not_dropped_iff.mp taken
      exact ih (.cons fresh ready scheduled)

/-- What has run stays so while the queue is drained. -/
theorem subset_drain : run.Subset (drain setups listed run queue) := by
  fun_induction drain setups listed run queue with
  | case1 run => exact List.Subset.refl _
  | case2 run task queue dropped ih => exact ih
  | case3 run task queue taken ih => exact List.Subset.trans (List.subset_cons_self _ _) ih

/-- Draining a queue of listed tasks runs listed tasks only. -/
theorem drain_subset (ran : run.Subset listed) (queued : queue.Subset listed)
    : (drain setups listed run queue).Subset listed := by
  fun_induction drain setups listed run queue with
  | case1 run => exact ran
  | case2 run task queue dropped ih => exact ih ran (List.cons_subset.mp queued).2
  | case3 run task queue taken ih =>
      obtain ⟨known, rest⟩ := List.cons_subset.mp queued
      exact ih (List.cons_subset.mpr ⟨known, ran⟩) (List.append_subset.mpr ⟨rest, waiting_subset⟩)

/-- A task whose setups have run runs when it is taken from the queue, if it has not run yet. -/
theorem mem_drain (ready : ∀ setup, Needs setups name setup → setup ∈ run)
    : name ∈ drain setups listed run (name :: queue) := by
  rw [drain]
  split
  · next dropped =>
      have known : name ∈ run := by simpa [isReady_iff.mpr ready] using dropped
      exact subset_drain known
  · exact subset_drain List.mem_cons_self

theorem Scheduled.schedule (scheduled : Scheduled setups run)
    : Scheduled setups (schedule setups listed run tasks) := by
  induction tasks generalizing run with
  | nil => exact scheduled
  | cons task rest ih => exact ih scheduled.drain

theorem subset_schedule : run.Subset (schedule setups listed run tasks) := by
  induction tasks generalizing run with
  | nil => exact List.Subset.refl _
  | cons task rest ih => exact List.Subset.trans subset_drain ih

theorem schedule_subset (ran : run.Subset listed) (walked : tasks.Subset listed)
    : (schedule setups listed run tasks).Subset listed := by
  induction tasks generalizing run with
  | nil => exact ran
  | cons task rest ih =>
      obtain ⟨known, later⟩ := List.cons_subset.mp walked
      have queued : [task].Subset listed := List.cons_subset.mpr ⟨known, List.nil_subset _⟩
      exact ih (drain_subset ran queued) later

theorem schedule_append (before after : List String)
    : schedule setups listed run (before ++ after)
      = schedule setups listed (schedule setups listed run before) after := by
  induction before generalizing run with
  | nil => rfl
  | cons task rest ih => exact ih

/-- A listed task has run by the time the walk has passed it, unless it reaches a cycle.
Witness: its setups stand ahead of it in the list and reach no cycle either, so they have run
when the walk comes to it; by strong induction on the place in the list.
-/
theorem mem_schedule {before after : List String}
    (split : expand setups tasks = before ++ name :: after)
    (free : ¬ ReachesCycle setups name)
    : name ∈ schedule setups listed [] (before ++ [name]) := by
  induction place : before.length using Nat.strongRecOn generalizing before after name with
  | ind place earlier =>
      subst place
      rw [schedule_append]
      refine mem_drain ?_
      intro setup needs
      have ahead : setup ∈ before := by
        refine (setup_before_or_reaches split needs).resolve_right ?_
        intro back
        exact free ⟨name, .refl, .head' needs back⟩
      obtain ⟨first, second, rfl⟩ := List.append_of_mem ahead
      have free : ¬ ReachesCycle setups setup := by
        rintro ⟨other, path, cycle⟩
        exact free ⟨other, .head needs path, cycle⟩
      have place : expand setups tasks = first ++ setup :: (second ++ name :: after) := by
        simpa using split
      have ran := earlier first.length (by simp) place free rfl
      have extended : first ++ setup :: second = (first ++ [setup]) ++ second := by simp
      rw [extended, schedule_append]
      exact subset_schedule ran

-----------------------------------------------------------------------------------------
-- The order of a plan
-----------------------------------------------------------------------------------------

/-- The order is the tasks that have run when the list has been walked, oldest first. -/
theorem exists_scheduled (setups : Dict (List String)) (tasks : List String)
    : ∃ run,
        ofTasks setups tasks = run.reverse
        ∧ Scheduled setups run
        ∧ run = schedule setups (expand setups tasks) [] (expand setups tasks) :=
  ⟨_, rfl, Scheduled.nil.schedule, rfl⟩

theorem nodup_ofTasks : (ofTasks setups tasks).Nodup := by
  obtain ⟨run, same, scheduled, _⟩ := exists_scheduled setups tasks
  exact same ▸ List.nodup_reverse.mpr scheduled.nodup

/-- A task stands in the order behind all its setups. -/
theorem setup_before {before after : List String}
    (split : ofTasks setups tasks = before ++ name :: after)
    {setup : String} (needs : Needs setups name setup)
    : setup ∈ before := by
  obtain ⟨run, same, scheduled, _⟩ := exists_scheduled setups tasks
  have newest : run = after.reverse ++ name :: before.reverse := by
    rw [← List.reverse_reverse run, ← same, split]
    simp
  subst newest
  simpa using scheduled.ran_before needs

/-- The order holds the tasks that are needed and reach no cycle. Witness: what has run is listed
and reaches no cycle, and the walk leaves no other listed task behind.
-/
theorem mem_ofTasks_iff
    : name ∈ ofTasks setups tasks
      ↔ (∃ task ∈ tasks, Reaches setups task name) ∧ ¬ ReachesCycle setups name := by
  obtain ⟨run, same, scheduled, walked⟩ := exists_scheduled setups tasks
  rw [same, List.mem_reverse, ← mem_expand_iff]
  constructor
  · intro ran
    refine ⟨?_, scheduled.not_reachesCycle ran⟩
    rw [walked] at ran
    exact schedule_subset (List.nil_subset _) (List.Subset.refl _) ran
  · rintro ⟨listed, free⟩
    obtain ⟨before, after, split⟩ := List.append_of_mem listed
    have whole : expand setups tasks = (before ++ [name]) ++ after := by simpa using split
    have walk : schedule setups (expand setups tasks) [] (expand setups tasks)
        = schedule setups (expand setups tasks)
            (schedule setups (expand setups tasks) [] (before ++ [name])) after := by
      rw [← schedule_append, ← whole]
    rw [walked, walk]
    exact subset_schedule (mem_schedule split free)

end Order

-----------------------------------------------------------------------------------------
-- The order of the registered tasks
-----------------------------------------------------------------------------------------

/-- A registered task names another one among its setups. -/
def TaskRegistry.Needs (registry : TaskRegistry) (name setup : String) : Prop :=
  ∃ task, registry.get? name = some task ∧ setup ∈ task.setups

/-- The setups that the order reads are those of the registered tasks. -/
theorem TaskRegistry.needs_setups (registry : TaskRegistry)
    : Order.Needs registry.setups = registry.Needs := by
  funext name setup
  have found : registry.setups.get? name = (registry.get? name).map Task.setups := by
    simp only [TaskRegistry.setups, TaskRegistry.get?, Dict.get?, Dict.mapValues, List.find?_map,
      Option.map_map]
    rfl
  simp only [Order.Needs, Order.setupsOf, found, TaskRegistry.Needs]
  cases registry.get? name <;> simp

/-- Each needed task that can run at all stands in the order once, behind all its setups; the
tasks left out are those from which a cycle of setups is reached.
-/
theorem TaskRegistry.order_schedules_exactly (registry : TaskRegistry) (tasks : List String)
    : let order := Order.ofTasks registry.setups tasks
      order.Nodup
      ∧ (∀ before name after,
          order = before ++ name :: after
          → ∀ setup, registry.Needs name setup → setup ∈ before)
      ∧ ∀ name,
          name ∈ order
          ↔ (∃ task ∈ tasks, Relation.ReflTransGen registry.Needs task name)
            ∧ ¬ ∃ other,
                Relation.ReflTransGen registry.Needs name other
                ∧ Relation.TransGen registry.Needs other other := by
  intro order
  rw [← registry.needs_setups]
  refine ⟨Order.nodup_ofTasks, ?_, fun name => Order.mem_ofTasks_iff⟩
  intro before name after split setup needs
  exact Order.setup_before split needs

end Rehearsal
