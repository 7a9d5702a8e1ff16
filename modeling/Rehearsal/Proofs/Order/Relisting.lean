import Rehearsal.Command
import Rehearsal.Proofs.Order.Eagerness

/-! A plan that lists its tasks in the order in which they run has that order again. Its list is the
order itself, and the tasks that wait for a task are called in the order in which they ran before:
those that a round takes from them at one time are the same, however the list is ordered, as long
as setups stand ahead of the tasks that name them.
-/

namespace Rehearsal

namespace Order

variable {setups : Dict (List String)} {tasks listed order run queue block : List String}
  {name task : String}

-----------------------------------------------------------------------------------------
-- A list that is an order already
-----------------------------------------------------------------------------------------

/-- Names that have been entered are passed over. -/
theorem walk_of_entered {entered names : List String} (known : names.Subset entered)
    (rest : List Visit)
    : walk setups entered (names.map .enter ++ rest) = walk setups entered rest := by
  induction names with
  | nil => rfl
  | cons name names ih =>
      obtain ⟨first, others⟩ := List.cons_subset.mp known
      rw [List.map_cons, List.cons_append, walk, if_pos (List.contains_iff_mem.mpr first),
        ih others]

/-- Walking on from tasks that have been listed lists the others as they stand, by induction on what
is left of the order: the setups of a task have been entered before it.
-/
theorem walk_of_scheduled (before after : List String)
    (scheduled : Scheduled setups (before ++ after).reverse)
    : walk setups before.reverse (after.map .enter) = after := by
  induction after generalizing before with
  | nil => simp [walk]
  | cons task rest ih =>
      have split : (before ++ task :: rest).reverse = rest.reverse ++ task :: before.reverse := by
        simp
      rw [split] at scheduled
      have fresh : task ∉ before.reverse :=
        (List.nodup_cons.mp (List.nodup_append.mp scheduled.nodup).2.1).1
      have known : (setupsOf setups task).Subset (task :: before.reverse) :=
        fun setup needs => List.mem_cons_of_mem _ (scheduled.ran_before needs)
      have listed : task :: before.reverse = (before ++ [task]).reverse := by simp
      rw [List.map_cons, walk, if_neg (by simpa using fresh), walk_of_entered known, walk, listed,
        ih (before ++ [task]) (by simpa using scheduled)]

/-- A list in which each task stands once, behind its setups, lists itself. -/
theorem expand_of_scheduled (scheduled : Scheduled setups order.reverse)
    : expand setups order = order :=
  walk_of_scheduled [] order scheduled

-----------------------------------------------------------------------------------------
-- Blocks of the queue
-----------------------------------------------------------------------------------------

/-- The tasks of a block that run while it is taken from the queue, in order. -/
def taken (setups : Dict (List String)) (run : List String) : List String → List String
  | [] => []
  | task :: block =>
      if run.contains task || !isReady setups run task then taken setups run block
      else task :: taken setups (task :: run) block

/-- A block is taken from the queue before any of the tasks that it calls to the queue. -/
theorem drain_block (setups : Dict (List String)) (listed run block queue : List String)
    : drain setups listed run (block ++ queue)
      = drain setups listed ((taken setups run block).reverse ++ run)
          (queue ++ (taken setups run block).flatMap (waiting setups listed)) := by
  fun_induction taken setups run block generalizing queue with
  | case1 run => simp
  | case2 run task block dropped ih => rw [List.cons_append, drain, if_pos dropped, ih]
  | case3 run task block fresh ih =>
      rw [List.cons_append, drain, if_neg fresh, List.append_assoc, ih]
      simp

theorem taken_append (run before after : List String)
    : taken setups run (before ++ after)
      = taken setups run before
        ++ taken setups ((taken setups run before).reverse ++ run) after := by
  fun_induction taken setups run before with
  | case1 run => rfl
  | case2 run task block dropped ih => rw [List.cons_append, taken, if_pos dropped, ih]
  | case3 run task block fresh ih =>
      rw [List.cons_append, taken, if_neg fresh, ih]
      simp

/-- Nothing runs of a block in which each task has run or is not ready. -/
theorem taken_eq_nil
    (dropped : ∀ task ∈ block, task ∈ run ∨ ¬ ∀ setup, Needs setups task setup → setup ∈ run)
    : taken setups run block = [] := by
  induction block with
  | nil => rfl
  | cons task rest ih =>
      obtain ⟨first, others⟩ := List.forall_mem_cons.mp dropped
      rw [taken, if_pos (dropped_iff.mpr first), ih others]

/-- Of a block that holds one task only, the task runs once if it is new and ready. -/
theorem taken_single (same : ∀ other ∈ block, other = task) (called : task ∈ block)
    (fresh : task ∉ run) (ready : ∀ setup, Needs setups task setup → setup ∈ run)
    : taken setups run block = [task] := by
  cases block with
  | nil => cases called
  | cons first rest =>
      obtain ⟨rfl, others⟩ := List.forall_mem_cons.mp same
      have again : ∀ other ∈ rest, other ∈ first :: run :=
        fun other member => others other member ▸ List.mem_cons_self
      rw [taken, if_neg (not_dropped_iff.mpr ⟨fresh, ready⟩),
        taken_eq_nil fun other member => .inl (again other member)]

theorem taken_subset : (taken setups run block).Subset block := by
  fun_induction taken setups run block with
  | case1 run => exact List.Subset.refl _
  | case2 run task block dropped ih => exact List.Subset.trans ih (List.subset_cons_self _ _)
  | case3 run task block fresh ih => exact List.cons_subset_cons _ ih

/-- Taking a block from the queue lets only ready tasks run. -/
theorem Scheduled.taken (scheduled : Scheduled setups run) (block : List String)
    : Scheduled setups ((taken setups run block).reverse ++ run) := by
  fun_induction Order.taken setups run block with
  | case1 run => exact scheduled
  | case2 run task block dropped ih => exact ih scheduled
  | case3 run task block taken ih =>
      obtain ⟨fresh, ready⟩ := not_dropped_iff.mp taken
      simpa using ih (.cons fresh ready scheduled)

/-- Only a task on a common cycle stands behind a task that names it. -/
def SetupsFirst (setups : Dict (List String)) (block : List String) : Prop :=
  block.Pairwise fun task later => Needs setups task later → Reaches setups later task

/-- The list of a plan has setups first. -/
theorem setupsFirst_expand : SetupsFirst setups (expand setups tasks) := by
  refine List.pairwise_iff_forall_sublist.mpr fun {task later} sublist needs => ?_
  obtain ⟨front, back, whole, inFront, inBack⟩ := List.cons_sublist_iff.mp sublist
  obtain ⟨before, between, rfl⟩ := List.append_of_mem inFront
  have split : expand setups tasks = before ++ task :: (between ++ back) := by simpa using whole
  have behind : later ∈ task :: (between ++ back) :=
    .tail _ (List.mem_append_right _ (List.singleton_sublist.mp inBack))
  rcases setup_before_or_reaches split needs with ahead | reaches
  · have unique : (expand setups tasks).Nodup := nodup_expand
    rw [split] at unique
    exact absurd rfl ((List.nodup_append.mp unique).2.2 later ahead later behind)
  · exact reaches

/-- No task of a block is left that is ready once the block has been taken from the queue: if one of
its setups runs with the block, it stands ahead in it.
-/
theorem ran_of_ready (scheduled : Scheduled setups run) (first : SetupsFirst setups block)
    (member : task ∈ block)
    (ready : ∀ setup, Needs setups task setup → setup ∈ (taken setups run block).reverse ++ run)
    : task ∈ (taken setups run block).reverse ++ run := by
  fun_induction taken setups run block with
  | case1 run => cases member
  | case2 run other block dropped ih =>
      obtain ⟨ahead, rest⟩ := List.pairwise_cons.mp first
      rcases List.mem_cons.mp member with rfl | later
      · refine List.mem_append_right _ (Decidable.byContradiction fun fresh => ?_)
        have unready := (dropped_iff.mp dropped).resolve_left fresh
        refine unready fun setup needs => ?_
        rcases List.mem_append.mp (ready setup needs) with inBlock | ran
        -- A setup that stands behind is on a cycle with the task, and nothing on a cycle runs.
        · have behind : setup ∈ block := taken_subset (List.mem_reverse.mp inBlock)
          have cycle := Relation.TransGen.tail' (ahead setup behind needs) needs
          have acyclic := (scheduled.taken block).not_reachesCycle (ready setup needs)
          exact absurd ⟨setup, .refl, cycle⟩ acyclic
        · exact ran
      · exact ih scheduled rest later ready
  | case3 run other block taken ih =>
      obtain ⟨ahead, rest⟩ := List.pairwise_cons.mp first
      obtain ⟨fresh, allRun⟩ := not_dropped_iff.mp taken
      have next : Scheduled setups (other :: run) := .cons fresh allRun scheduled
      rw [List.reverse_cons, List.append_assoc, List.singleton_append] at ready ⊢
      rcases List.mem_cons.mp member with rfl | later
      · simp
      · exact ih next rest later ready

-----------------------------------------------------------------------------------------
-- The tasks that wait for a task, called in another order
-----------------------------------------------------------------------------------------

/-- A task, once for each time it names another one among its setups. -/
def mentions (setups : Dict (List String)) (name task : String) : List String :=
  ((setupsOf setups task).filter fun setup => setup == name).map fun _ => task

theorem waiting_eq (known : name ∈ listed)
    : waiting setups listed name = listed.flatMap (mentions setups name) := by
  rw [waiting, if_pos (List.contains_iff_mem.mpr known)]
  rfl

theorem mem_mentions_iff {other : String}
    : other ∈ mentions setups name task ↔ Needs setups task name ∧ other = task := by
  simp only [mentions, Needs, List.mem_map, List.mem_filter, beq_iff_eq]
  constructor
  · rintro ⟨setup, ⟨needs, rfl⟩, rfl⟩
    exact ⟨needs, rfl⟩
  · rintro ⟨needs, rfl⟩
    exact ⟨name, ⟨needs, rfl⟩, rfl⟩

theorem SetupsFirst.waiting (first : SetupsFirst setups listed) (known : name ∈ listed)
    : SetupsFirst setups (waiting setups listed name) := by
  rw [waiting_eq known]
  refine List.pairwise_flatMap.mpr ⟨fun task _ => ?_, first.imp fun reaches => ?_⟩
  · refine List.pairwise_iff_forall_sublist.mpr fun {one other} sublist _ => ?_
    obtain ⟨-, rfl⟩ := mem_mentions_iff.mp (sublist.subset List.mem_cons_self)
    obtain ⟨-, rfl⟩ := mem_mentions_iff.mp (sublist.subset (.tail _ List.mem_cons_self))
    exact .refl
  · intro one inOne other inOther
    obtain ⟨-, rfl⟩ := mem_mentions_iff.mp inOne
    obtain ⟨-, rfl⟩ := mem_mentions_iff.mp inOther
    exact reaches

/-- What has run has been scheduled at any earlier time. -/
theorem Scheduled.of_append {later earlier : List String}
    (scheduled : Scheduled setups (later ++ earlier))
    : Scheduled setups earlier := by
  induction later with
  | nil => exact scheduled
  | cons _ _ ih =>
      cases scheduled with
      | cons _ _ before => exact ih before

/-- Tasks that all name one task run once each, in their order, if they can run in this order. -/
theorem taken_mentions {round : List String} (scheduled : Scheduled setups (round.reverse ++ run))
    (calls : ∀ task ∈ round, Needs setups task name)
    : taken setups run (round.flatMap (mentions setups name)) = round := by
  induction round generalizing run with
  | nil => rfl
  | cons task rest ih =>
      rw [List.reverse_cons, List.append_assoc, List.singleton_append] at scheduled
      obtain ⟨first, others⟩ := List.forall_mem_cons.mp calls
      have fresh : task ∉ run :=
        (List.nodup_cons.mp (List.nodup_append.mp scheduled.nodup).2.1).1
      have single : taken setups run (mentions setups name task) = [task] :=
        taken_single (fun other member => (mem_mentions_iff.mp member).2)
          (mem_mentions_iff.mpr ⟨first, rfl⟩) fresh fun setup needs => scheduled.ran_before needs
      rw [List.flatMap_cons, taken_append, single]
      exact congrArg (task :: ·) (ih scheduled others)

/-- From the tasks that wait for a task, the same run next when they are called in the order in
which all tasks run. Of those that run earlier none is new, and of those that run later none is
ready.
-/
theorem taken_waiting_eq {later : List String} (scheduled : Scheduled setups order.reverse)
    (first : SetupsFirst setups listed) (known : order.Subset listed) (ran : name ∈ run)
    (split : order = run.reverse ++ (taken setups run (waiting setups listed name) ++ later))
    : taken setups run (waiting setups order name)
      = taken setups run (waiting setups listed name) := by
  generalize same : taken setups run (waiting setups listed name) = round at split ⊢
  have newest : order.reverse = later.reverse ++ (round.reverse ++ run) := by simp [split]
  rw [newest] at scheduled
  have soFar := scheduled.of_append
  have inOrder : name ∈ order := split ▸ List.mem_append_left _ (List.mem_reverse.mpr ran)
  have past : taken setups run (run.reverse.flatMap (mentions setups name)) = [] := by
    refine taken_eq_nil fun other member => .inl ?_
    obtain ⟨task, before, mention⟩ := List.mem_flatMap.mp member
    exact (mem_mentions_iff.mp mention).2 ▸ List.mem_reverse.mp before
  have present : taken setups run (round.flatMap (mentions setups name)) = round := by
    refine taken_mentions soFar fun task member => ?_
    exact (mem_waiting_iff.mp (taken_subset (same ▸ member))).2.2
  have future
      : taken setups (round.reverse ++ run) (later.flatMap (mentions setups name)) = [] := by
    refine taken_eq_nil fun other member => .inr fun ready => ?_
    obtain ⟨task, behind, mention⟩ := List.mem_flatMap.mp member
    obtain ⟨calls, rfl⟩ := mem_mentions_iff.mp mention
    have inList : other ∈ listed := known (by simp [split, behind])
    have waits : other ∈ waiting setups listed name :=
      mem_waiting_iff.mpr ⟨known inOrder, inList, calls⟩
    have runs : other ∈ round.reverse ++ run := by
      subst same
      exact ran_of_ready soFar.of_append (first.waiting (known inOrder)) waits ready
    exact (List.nodup_append.mp scheduled.nodup).2.2 other (List.mem_reverse.mpr behind) other
      runs rfl
  rw [waiting_eq inOrder, split, List.flatMap_append, List.flatMap_append, taken_append, past,
    List.reverse_nil, List.nil_append, List.nil_append, taken_append, present, future,
    List.append_nil]

-----------------------------------------------------------------------------------------
-- Rounds, and the walk along the list
-----------------------------------------------------------------------------------------

/-- Draining a queue puts the tasks that run on top of those that have run. -/
theorem exists_drain (setups : Dict (List String)) (listed run queue : List String)
    : ∃ newer, drain setups listed run queue = newer ++ run := by
  fun_induction drain setups listed run queue with
  | case1 run => exact ⟨[], rfl⟩
  | case2 run task queue dropped ih => exact ih
  | case3 run task queue fresh ih =>
      obtain ⟨newer, same⟩ := ih
      exact ⟨newer ++ [task], by simp [same]⟩

theorem exists_schedule (setups : Dict (List String)) (listed run tasks : List String)
    : ∃ newer, schedule setups listed run tasks = newer ++ run := by
  induction tasks generalizing run with
  | nil => exact ⟨[], rfl⟩
  | cons task rest ih =>
      obtain ⟨last, drained⟩ := exists_drain setups listed run [task]
      obtain ⟨newer, same⟩ := ih (drain setups listed run [task])
      exact ⟨newer ++ last, by rw [schedule, same, drained, List.append_assoc]⟩

/-- When the block of a task has been taken from the queue, the blocks of the tasks that have run
with it stand behind those that stood in the queue before.
-/
theorem drain_owners (setups : Dict (List String)) (listed run : List String) (owner : String)
    (owners : List String)
    : drain setups listed run ((owner :: owners).flatMap (waiting setups listed))
      = drain setups listed ((taken setups run (waiting setups listed owner)).reverse ++ run)
          ((owners ++ taken setups run (waiting setups listed owner)).flatMap
            (waiting setups listed)) := by
  rw [List.flatMap_cons, drain_block, List.flatMap_append]

/-- A round goes on in the same way when the tasks that wait are called in the order in which all
tasks run. The queue holds the blocks of tasks that wait for some that have run; the induction is on
the number of blocks that are still to be taken from it, those of the tasks that run later included.
-/
theorem drain_eq_of_order (scheduled : Scheduled setups order.reverse)
    (first : SetupsFirst setups listed) (known : order.Subset listed) {owners later : List String}
    (ran : owners.Subset run)
    (split
      : order = (drain setups listed run (owners.flatMap (waiting setups listed))).reverse ++ later)
    {count : Nat}
    (blocks
      : (drain setups listed run (owners.flatMap (waiting setups listed))).length + owners.length
        ≤ run.length + count)
    : drain setups order run (owners.flatMap (waiting setups order))
      = drain setups listed run (owners.flatMap (waiting setups listed)) := by
  induction count generalizing run owners with
  | zero =>
      obtain ⟨newer, same⟩ :=
        exists_drain setups listed run (owners.flatMap (waiting setups listed))
      obtain rfl : owners = [] := by
        rw [same, List.length_append] at blocks
        exact List.eq_nil_of_length_eq_zero (by omega)
      simp [drain]
  | succ count ih =>
      cases owners with
      | nil => simp [drain]
      | cons owner rest =>
          obtain ⟨owned, others⟩ := List.cons_subset.mp ran
          rw [drain_owners] at split blocks
          rw [drain_owners, drain_owners]
          generalize same : taken setups run (waiting setups listed owner) = round
            at split blocks ⊢
          obtain ⟨newer, drained⟩ := exists_drain setups listed (round.reverse ++ run)
            ((rest ++ round).flatMap (waiting setups listed))
          have whole
              : order
                = run.reverse
                  ++ (taken setups run (waiting setups listed owner)
                    ++ (newer.reverse ++ later)) := by
            rw [split, drained, same]
            simp
          rw [taken_waiting_eq scheduled first known owned whole, same]
          refine ih (fun task member => ?_) split ?_
          · rcases List.mem_append.mp member with before | next
            · exact List.mem_append_right _ (others before)
            · exact List.mem_append_left _ (List.mem_reverse.mpr next)
          · simp only [List.length_append, List.length_reverse, List.length_cons] at blocks ⊢
            omega

/-- Tasks that have run are passed over. -/
theorem schedule_of_ran (ran : tasks.Subset run) : schedule setups listed run tasks = run := by
  induction tasks with
  | nil => rfl
  | cons task rest ih =>
      obtain ⟨first, others⟩ := List.cons_subset.mp ran
      rw [schedule, drain, if_pos (by simp [first]), drain, ih others]

/-- The walk along a list goes on as the walk along the order does: where a round begins in the one,
the same round begins in the other, and the tasks of the round are passed over in the order.
-/
theorem schedule_eq_of_order (scheduled : Scheduled setups order.reverse)
    (first : SetupsFirst setups listed) (known : order.Subset listed) {later : List String}
    (split : order = run.reverse ++ later)
    (whole : schedule setups listed run tasks = order.reverse)
    : schedule setups order run later = order.reverse := by
  induction tasks generalizing run later with
  | nil =>
      obtain rfl : run = order.reverse := whole
      obtain rfl : later = [] := by simpa using split
      rfl
  | cons task rest ih =>
      rw [schedule, drain] at whole
      split at whole
      · rw [drain] at whole
        exact ih split whole
      next fresh =>
        rw [List.nil_append, ← List.flatMap_singleton (waiting setups listed)] at whole
        obtain ⟨round, drained⟩ := exists_drain setups listed (task :: run)
          ([task].flatMap (waiting setups listed))
        obtain ⟨newer, grown⟩ := exists_schedule setups listed (round ++ task :: run) rest
        rw [drained] at whole
        have inOrder : order = (round ++ task :: run).reverse ++ newer.reverse := by
          rw [← List.reverse_append, ← grown, whole, List.reverse_reverse]
        obtain rfl : later = task :: (round.reverse ++ newer.reverse) := by
          simpa [inOrder] using split.symm
        have same
            : drain setups order (task :: run) ([task].flatMap (waiting setups order))
              = round ++ task :: run := by
          have ran : [task].Subset (task :: run) := List.cons_subset_cons _ (List.nil_subset _)
          rw [← drained] at inOrder ⊢
          exact drain_eq_of_order scheduled first known ran inOrder (Nat.le_add_left _ _)
        have passed
            : schedule setups order (round ++ task :: run) round.reverse = round ++ task :: run :=
          schedule_of_ran fun other member => List.mem_append_left _ (List.mem_reverse.mp member)
        rw [schedule, drain, if_neg fresh, List.nil_append,
          ← List.flatMap_singleton (waiting setups order), same, schedule_append, passed]
        exact ih inOrder whole

/-- The order of the tasks in an order is that order. -/
theorem ofTasks_ofTasks (setups : Dict (List String)) (tasks : List String)
    : ofTasks setups (ofTasks setups tasks) = ofTasks setups tasks := by
  obtain ⟨run, same, scheduled, walked⟩ := exists_scheduled setups tasks
  have ordered : Scheduled setups (ofTasks setups tasks).reverse := by simpa [same] using scheduled
  have known : (ofTasks setups tasks).Subset (expand setups tasks) :=
    fun name member => mem_expand_iff.mpr (mem_ofTasks_iff.mp member).1
  have whole
      : schedule setups (expand setups tasks) [] (expand setups tasks)
        = (ofTasks setups tasks).reverse := by
    rw [ofTasks, List.reverse_reverse]
  have split : ofTasks setups tasks = [].reverse ++ ofTasks setups tasks := rfl
  have again := schedule_eq_of_order ordered setupsFirst_expand known split whole
  calc
    ofTasks setups (ofTasks setups tasks)
    _ = (schedule setups (ofTasks setups tasks) [] (ofTasks setups tasks)).reverse := by
      rw [ofTasks, expand_of_scheduled ordered]
    _ = ofTasks setups tasks := by rw [again, List.reverse_reverse]

end Order

-----------------------------------------------------------------------------------------
-- Plans that list their order
-----------------------------------------------------------------------------------------

namespace Run

/-- What runs for some names is up to the frame and the environment of a plan, not to its list. -/
theorem runTasks_relisted (context : Context) (plan : Plan) (tasks names : List String)
    : runTasks context { plan with tasks } names = runTasks context plan names := by
  induction names with
  | nil => rfl
  | cons name rest ih =>
      rw [runTasks, runTasks, ih]
      rfl

/-- The order of the tasks in an order is that order. A plan that lists its tasks in the order that
is printed for it has the same order, for which the same is printed, and runs the same in it.
-/
theorem order_repeats (context : Context) (plan : Plan)
    : let order := Order.ofTasks context.tasks.setups plan.tasks
      let listed := { plan with tasks := order }
      Order.ofTasks context.tasks.setups order = order
      ∧ Command.orderText context.tasks listed = Command.orderText context.tasks plan
      ∧ Run.order context listed = order
      ∧ runTasks context listed (Run.order context listed)
        = runTasks context plan (Run.order context plan) := by
  intro order listed
  have again : Order.ofTasks context.tasks.setups order = order := Order.ofTasks_ofTasks _ _
  have same : Run.order context listed = Run.order context plan := again
  refine ⟨again, ?_, again, ?_⟩
  · have lines : Order.ofTasks context.tasks.setups listed.tasks = order := again
    rw [Command.orderText, Command.orderText, lines]
  · rw [same]
    exact runTasks_relisted context plan order _

end Run

end Rehearsal
