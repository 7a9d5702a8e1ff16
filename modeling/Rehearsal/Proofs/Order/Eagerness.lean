import Rehearsal.Proofs.Order.Schedule

/-! The order is eager: a task that names setups runs in the round in which the last of them has
run, and from the beginning of a round to its end only tasks run that need the one it began with.
-/

namespace Rehearsal

namespace Order

variable {setups : Dict (List String)} {tasks listed run queue round before : List String}
  {name root : String}

/-- The tasks that wait for a listed task are the listed ones that name it among their setups. -/
theorem mem_waiting_iff {task : String}
    : task ∈ waiting setups listed name
      ↔ name ∈ listed ∧ task ∈ listed ∧ Needs setups task name := by
  by_cases known : name ∈ listed
  · simp [waiting, known, Needs]
  · simp [waiting, known]

-----------------------------------------------------------------------------------------
-- No task is left waiting
-----------------------------------------------------------------------------------------

/-- A listed task that names setups, all of which have run, has run or is in the queue. -/
def NoneLeft (setups : Dict (List String)) (listed run queue : List String) : Prop :=
  ∀ task ∈ listed,
    (∃ setup, Needs setups task setup)
    → (∀ setup, Needs setups task setup → setup ∈ run)
    → task ∈ run ∨ task ∈ queue

/-- A task that is taken from the queue and dropped has run, or is not ready. -/
theorem NoneLeft.drop (none : NoneLeft setups listed run (name :: queue))
    (dropped : name ∈ run ∨ ¬ ∀ setup, Needs setups name setup → setup ∈ run)
    : NoneLeft setups listed run queue := by
  intro task member names ready
  rcases none task member names ready with ran | queued
  · exact .inl ran
  · rcases List.mem_cons.mp queued with rfl | later
    · exact .inl (dropped.resolve_right (not_not_intro ready))
    · exact .inr later

/-- A task that runs calls all those to the queue of whose setups it is the last to run. -/
theorem NoneLeft.take (none : NoneLeft setups listed run (name :: queue)) (known : name ∈ listed)
    : NoneLeft setups listed (name :: run) (queue ++ waiting setups listed name) := by
  intro task member names ready
  by_cases needs : Needs setups task name
  · have called := mem_waiting_iff.mpr ⟨known, member, needs⟩
    exact .inr (List.mem_append_right _ called)
  · have before : ∀ setup, Needs setups task setup → setup ∈ run := by
      intro setup needs'
      rcases List.mem_cons.mp (ready setup needs') with rfl | ran
      · exact absurd needs' needs
      · exact ran
    rcases none task member names before with ran | queued
    · exact .inl (List.mem_cons_of_mem _ ran)
    · rcases List.mem_cons.mp queued with rfl | later
      · exact .inl List.mem_cons_self
      · exact .inr (List.mem_append_left _ later)

/-- When the queue has been drained, no task is left waiting, by induction along the queue. -/
theorem NoneLeft.drain (none : NoneLeft setups listed run queue) (queued : queue.Subset listed)
    : NoneLeft setups listed (drain setups listed run queue) [] := by
  fun_induction Order.drain setups listed run queue with
  | case1 run => exact none
  | case2 run task queue dropped ih =>
      exact ih (none.drop (dropped_iff.mp dropped)) (List.cons_subset.mp queued).2
  | case3 run task queue taken ih =>
      obtain ⟨known, rest⟩ := List.cons_subset.mp queued
      exact ih (none.take known) (List.append_subset.mpr ⟨rest, waiting_subset⟩)

-----------------------------------------------------------------------------------------
-- Rounds
-----------------------------------------------------------------------------------------

/-- A task runs in the round of one of its setups: all tasks that have run since the round began
need the task that it began with, as does the task itself. The tasks that have run earlier stand
newest first.
-/
def RunsInRound (setups : Dict (List String)) (task : String) (earlier : List String) : Prop :=
  ∃ round root before,
    earlier = round ++ root :: before
    ∧ (∀ other ∈ task :: round, Relation.TransGen (Needs setups) other root)
    ∧ ∃ setup ∈ round ++ [root], Needs setups task setup

/-- Tasks that have run, newest first: each begins a round and names no setups, or runs in the round
of one of its setups.
-/
inductive Eager (setups : Dict (List String)) : List String → Prop where
  | nil : Eager setups []
  | begin {task : String} {earlier : List String} (free : ∀ setup, ¬ Needs setups task setup)
    (eager : Eager setups earlier)
    : Eager setups (task :: earlier)
  | follow {task : String} {earlier : List String} (follows : RunsInRound setups task earlier)
    (eager : Eager setups earlier)
    : Eager setups (task :: earlier)

/-- A task that names setups has run in the round of one of them. -/
theorem Eager.runsInRound {later earlier : List String}
    (eager : Eager setups (later ++ name :: earlier)) {setup : String}
    (needs : Needs setups name setup)
    : RunsInRound setups name earlier := by
  induction later with
  | nil =>
      cases eager with
      | begin free _ => exact absurd needs (free setup)
      | follow follows _ => exact follows
  | cons _ _ ih =>
      cases eager with
      | begin _ before => exact ih before
      | follow _ before => exact ih before

/-- The tasks of a round need the one it began with, and the queue holds tasks that name one of
them.
-/
structure InRound (setups : Dict (List String)) (root : String) (round queue : List String)
    : Prop where
  needing : ∀ other ∈ round, Relation.TransGen (Needs setups) other root
  called : ∀ task ∈ queue, ∃ setup ∈ round ++ [root], Needs setups task setup

namespace InRound

/-- A round begins with a task and the tasks that wait for it. -/
theorem start (setups : Dict (List String)) (listed : List String) (root : String)
    : InRound setups root [] (waiting setups listed root) where
  needing := by simp
  called task member := ⟨root, by simp, (mem_waiting_iff.mp member).2.2⟩

theorem drop (inRound : InRound setups root round (name :: queue))
    : InRound setups root round queue where
  needing := inRound.needing
  called task member := inRound.called task (List.mem_cons_of_mem _ member)

/-- A task in the queue needs the task that the round began with. -/
theorem needs_root (inRound : InRound setups root round (name :: queue))
    : Relation.TransGen (Needs setups) name root := by
  obtain ⟨setup, ran, needs⟩ := inRound.called name List.mem_cons_self
  rcases List.mem_append.mp ran with inner | first
  · exact .head needs (inRound.needing setup inner)
  · exact .single (List.mem_singleton.mp first ▸ needs)

theorem take (inRound : InRound setups root round (name :: queue))
    : InRound setups root (name :: round) (queue ++ waiting setups listed name) where
  needing := List.forall_mem_cons.mpr ⟨inRound.needs_root, inRound.needing⟩
  called task member := by
    rcases List.mem_append.mp member with queued | called
    · obtain ⟨setup, ran, needs⟩ := inRound.drop.called task queued
      exact ⟨setup, List.mem_cons_of_mem _ ran, needs⟩
    · exact ⟨name, by simp, (mem_waiting_iff.mp called).2.2⟩

/-- What runs while the queue of a round is drained runs in that round, by induction along the
queue.
-/
theorem drain (inRound : InRound setups root round queue)
    (split : run = round ++ root :: before) (eager : Eager setups run)
    : Eager setups (drain setups listed run queue) := by
  fun_induction Order.drain setups listed run queue generalizing round with
  | case1 run => exact eager
  | case2 run task queue dropped ih => exact ih inRound.drop split eager
  | case3 run task queue taken ih =>
      have follows : RunsInRound setups task run :=
        ⟨round, root, before, split,
          List.forall_mem_cons.mpr ⟨inRound.needs_root, inRound.needing⟩,
          inRound.called task List.mem_cons_self⟩
      exact ih inRound.take (congrArg (task :: ·) split) (.follow follows eager)

end InRound

/-- Walking the list keeps rounds apart. A task with which a round begins names no setups: it would
have been left waiting otherwise, as all its setups have run.
-/
theorem Eager.schedule (eager : Eager setups run) (none : NoneLeft setups listed run [])
    (walked : tasks.Subset listed)
    : Eager setups (schedule setups listed run tasks) := by
  induction tasks generalizing run with
  | nil => exact eager
  | cons task rest ih =>
      obtain ⟨known, later⟩ := List.cons_subset.mp walked
      have waits : NoneLeft setups listed run [task] := by
        intro other member names ready
        exact (none other member names ready).imp_right fun queued => by cases queued
      have single : [task].Subset listed := List.cons_subset.mpr ⟨known, List.nil_subset _⟩
      refine ih ?_ (waits.drain single) later
      rw [drain]
      split
      · rw [drain]
        exact eager
      next taken =>
        obtain ⟨fresh, ready⟩ := not_dropped_iff.mp taken
        have free : ∀ setup, ¬ Needs setups task setup := by
          intro setup needs
          rcases none task known ⟨setup, needs⟩ ready with ran | queued
          · exact fresh ran
          · cases queued
        have split : task :: run = [] ++ task :: run := rfl
        exact (InRound.start setups listed task).drain split (.begin free eager)

/-- The tasks of a plan have run in rounds when its list has been walked. -/
theorem eager_reverse_ofTasks (setups : Dict (List String)) (tasks : List String)
    : Eager setups (ofTasks setups tasks).reverse := by
  have none : NoneLeft setups (expand setups tasks) [] [] := by
    rintro task _ ⟨setup, needs⟩ ready
    cases ready setup needs
  rw [ofTasks, List.reverse_reverse]
  exact Eager.nil.schedule none (List.Subset.refl _)

/-- Of the items with a property, one comes last. -/
theorem exists_last {α : Type} {items : List α} {property : α → Prop}
    (some : ∃ item ∈ items, property item)
    : ∃ earlier last later,
        items = earlier ++ last :: later ∧ property last ∧ ∀ item ∈ later, ¬ property item := by
  induction items with
  | nil => simp at some
  | cons first rest ih =>
      by_cases later : ∃ item ∈ rest, property item
      · obtain ⟨earlier, last, behind, rfl, holds, others⟩ := ih later
        exact ⟨first :: earlier, last, behind, rfl, holds, others⟩
      · obtain ⟨item, member, holds⟩ := some
        rcases List.mem_cons.mp member with rfl | inner
        · exact ⟨[], item, rest, rfl, holds, fun other behind met => later ⟨other, behind, met⟩⟩
        · exact absurd ⟨item, inner, holds⟩ later

end Order

-----------------------------------------------------------------------------------------
-- The order of the registered tasks
-----------------------------------------------------------------------------------------

/-- A task in the order that names setups runs in the round of the last of them: that setup stands
in the order at the task with which the round begins or behind it, and all tasks from there on, up
to and with the task itself, need the one with which the round begins.
-/
theorem TaskRegistry.order_eager (registry : TaskRegistry) (tasks : List String)
    {task setup : String} (stands : task ∈ Order.ofTasks registry.setups tasks)
    (needs : registry.Needs task setup)
    : ∃ before root round after,
        Order.ofTasks registry.setups tasks = before ++ root :: round ++ task :: after
        ∧ (∀ other ∈ round ++ [task], Relation.TransGen registry.Needs other root)
        ∧ ∃ earlier last later,
            root :: round = earlier ++ last :: later
            ∧ registry.Needs task last
            ∧ ∀ other, registry.Needs task other → other ∈ before ++ earlier ++ [last] := by
  rw [← registry.needs_setups] at needs ⊢
  obtain ⟨begun, after, split⟩ := List.append_of_mem stands
  have eager := Order.eager_reverse_ofTasks registry.setups tasks
  rw [split, List.reverse_append, List.reverse_cons, List.append_assoc, List.singleton_append]
    at eager
  obtain ⟨newer, root, older, inRound, needing, called, ran, calls⟩ := eager.runsInRound needs
  have whole : begun = older.reverse ++ root :: newer.reverse := by
    simpa using congrArg List.reverse inRound
  have some : ∃ item ∈ root :: newer.reverse, Order.Needs registry.setups task item :=
    ⟨called, by simpa [or_comm] using ran, calls⟩
  obtain ⟨earlier, last, later, round, names, others⟩ := Order.exists_last some
  refine ⟨older.reverse, root, newer.reverse, after, whole ▸ split, ?_, earlier, last, later, round,
    names, ?_⟩
  · simpa [or_comm] using needing
  · intro other needs
    have ahead : other ∈ begun := Order.setup_before split needs
    rw [whole, round] at ahead
    have early : other ∉ later := fun member => others other member needs
    simpa [early] using ahead

/-- Four tasks: the third one names the first two as setups, and the second one names the first. -/
def stagedRegistry : TaskRegistry where
  entries := .ofList
    [("login", { name := "login", setups := ["seed"] }), ("seed", { name := "seed" }),
      ("shop", { name := "shop", setups := ["login", "seed"] }), ("tidy", { name := "tidy" })]
  named := by decide

/-- The third task runs right behind the second one, ahead of a task that the plan names before
it.
-/
theorem TaskRegistry.shop_runs_eagerly
    : "shop" ∈ Order.ofTasks stagedRegistry.setups ["seed", "tidy", "shop"]
      ∧ stagedRegistry.Needs "shop" "login"
      ∧ ∃ before root round after,
          ["seed", "login", "shop", "tidy"] = before ++ root :: round ++ "shop" :: after
          ∧ (∀ other ∈ round ++ ["shop"], Relation.TransGen stagedRegistry.Needs other root)
          ∧ ∃ earlier last later,
              root :: round = earlier ++ last :: later
              ∧ stagedRegistry.Needs "shop" last
              ∧ ∀ other,
                  stagedRegistry.Needs "shop" other
                  → other ∈ before ++ earlier ++ [last] := by
  have order
      : Order.ofTasks stagedRegistry.setups ["seed", "tidy", "shop"]
        = ["seed", "login", "shop", "tidy"] := by
    decide +kernel
  have stands : "shop" ∈ Order.ofTasks stagedRegistry.setups ["seed", "tidy", "shop"] := by
    rw [order]
    decide
  have needs : stagedRegistry.Needs "shop" "login" :=
    ⟨{ name := "shop", setups := ["login", "seed"] }, by decide +kernel, by decide⟩
  have eager := stagedRegistry.order_eager ["seed", "tidy", "shop"] stands needs
  rw [order] at eager
  exact ⟨stands, needs, eager⟩

end Rehearsal
