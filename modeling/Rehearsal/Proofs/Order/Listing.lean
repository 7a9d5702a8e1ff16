import Mathlib.Data.List.Nodup
import Mathlib.Logic.Relation
import Rehearsal.Task.Order

/-! The depth-first list of a plan's tasks: every task that is needed stands in it once, and a
setup stands ahead of the task that names it unless the two lie on a common cycle.
-/

namespace Rehearsal.Order

/-- A task names another one among its setups. -/
def Needs (setups : Dict (List String)) (task setup : String) : Prop :=
  setup ∈ setupsOf setups task

/-- A task needs another one through any number of setups, none included. -/
abbrev Reaches (setups : Dict (List String)) : String → String → Prop :=
  Relation.ReflTransGen (Needs setups)

/-- The name that a visit is about. -/
def Visit.name : Visit → String
  | enter name => name
  | list name => name

/-- The names that have been entered and are still to be listed, innermost first. -/
def unlisted : List Visit → List String
  | [] => []
  | .enter _ :: rest => unlisted rest
  | .list name :: rest => name :: unlisted rest

@[simp]
theorem unlisted_enter (names : List String) : unlisted (names.map .enter) = [] := by
  induction names with
  | nil => rfl
  | cons name names ih => simpa [unlisted] using ih

@[simp]
theorem unlisted_enter_append (names : List String) (rest : List Visit)
    : unlisted (names.map .enter ++ rest) = unlisted rest := by
  induction names with
  | nil => rfl
  | cons name names ih => simpa [unlisted] using ih

theorem mem_unlisted {name : String} {visits : List Visit}
    : name ∈ unlisted visits ↔ .list name ∈ visits := by
  induction visits with
  | nil => simp [unlisted]
  | cons visit rest ih => cases visit <;> simp [unlisted, ih]

/-- A list that ends in one more item splits either at that item or before it. -/
theorem append_singleton_eq_append_cons {α : Type} {items before after : List α}
    {last item : α} (split : items ++ [last] = before ++ item :: after)
    : (items = before ∧ last = item) ∨ ∃ between, items = before ++ item :: between := by
  rcases List.eq_nil_or_concat after with rfl | ⟨between, final, rfl⟩
  · obtain ⟨same, rest⟩ := List.append_inj' split rfl
    exact .inl ⟨same, by simpa using rest⟩
  · refine .inr ⟨between, ?_⟩
    have inner : items ++ [last] = (before ++ item :: between) ++ [final] := by
      simpa using split
    exact (List.append_inj' inner rfl).1

-----------------------------------------------------------------------------------------
-- The walk keeps an invariant of its list, its entered names and its stack
-----------------------------------------------------------------------------------------

/-- Names that wait to be entered are not listed, so no one is nested in them. -/
theorem pairwise_enter {setups : Dict (List String)} (names : List String)
    : (names.map Visit.enter).Pairwise fun visit later =>
        ∀ name, later = .list name → Reaches setups name visit.name := by
  refine List.pairwise_map.mpr (List.pairwise_of_forall fun _ _ name same => ?_)
  cases same

/-- What holds in the course of the walk, where `listed` is the list so far. The last two fields
describe the stack: a setup that has not been entered waits ahead of the task that names it, and
every visit is needed by each task that is listed after it.
-/
structure Walked (setups : Dict (List String)) (tasks listed entered : List String)
    (visits : List Visit)
    : Prop where
  unique : (listed ++ unlisted visits).Nodup
  entered_iff : ∀ {name}, name ∈ entered ↔ name ∈ listed ∨ name ∈ unlisted visits
  called : ∀ task ∈ tasks, task ∈ entered ∨ .enter task ∈ visits
  reached
    : ∀ name,
        name ∈ listed ∨ name ∈ visits.map Visit.name
        → ∃ task ∈ tasks, Reaches setups task name
  closed : ∀ name ∈ listed, ∀ setup, Needs setups name setup → setup ∈ entered
  ordered
    : ∀ before name after,
        listed = before ++ name :: after
        → ∀ setup, Needs setups name setup → setup ∈ before ∨ Reaches setups setup name
  opened
    : ∀ name ∈ unlisted visits,
        ∀ setup,
          Needs setups name setup
          → setup ∈ entered ∨ [.enter setup, .list name].Sublist visits
  nested
    : visits.Pairwise fun visit later =>
        ∀ name, later = .list name → Reaches setups name visit.name

namespace Walked

variable {setups : Dict (List String)} {tasks listed entered : List String} {name : String}
  {rest : List Visit}

/-- The walk starts with nothing listed and all tasks of the plan to be entered. -/
theorem start (setups : Dict (List String)) (tasks : List String)
    : Walked setups tasks [] [] (tasks.map .enter) where
  unique := by simp
  entered_iff := by simp
  called task member := .inr (List.mem_map_of_mem member)
  reached name member := by
    simp only [List.not_mem_nil, List.map_map, List.mem_map, false_or] at member
    obtain ⟨task, member, rfl⟩ := member
    exact ⟨task, member, .refl⟩
  closed := by simp
  ordered := by simp
  opened := by simp
  nested := pairwise_enter tasks

/-- A name that has been entered is passed over. -/
theorem skip (walked : Walked setups tasks listed entered (.enter name :: rest))
    (known : name ∈ entered)
    : Walked setups tasks listed entered rest where
  unique := walked.unique
  entered_iff := walked.entered_iff
  called task member := by
    rcases walked.called task member with before | waiting
    · exact .inl before
    · rcases List.mem_cons.mp waiting with same | later
      · exact .inl (Visit.enter.inj same ▸ known)
      · exact .inr later
  reached other member := walked.reached other (member.imp_right (List.mem_cons_of_mem _))
  closed := walked.closed
  ordered := walked.ordered
  opened other member setup needs := by
    rcases walked.opened other member setup needs with before | waiting
    · exact .inl before
    · cases waiting with
      | cons _ later => exact .inr later
      | cons_cons _ _ => exact .inl known
  nested := (List.pairwise_cons.mp walked.nested).2

/-- A new name is entered: its setups go ahead of it, and all of them are needed by the tasks
that needed the name itself.
-/
theorem enter (walked : Walked setups tasks listed entered (.enter name :: rest))
    (fresh : name ∉ entered)
    : Walked setups tasks listed (name :: entered)
        ((setupsOf setups name).map .enter ++ .list name :: rest) where
  unique := by
    have new : name ∉ listed ++ unlisted rest := fun member =>
      fresh (walked.entered_iff.mpr (List.mem_append.mp member))
    rw [unlisted_enter_append, unlisted, List.nodup_middle]
    exact List.nodup_cons.mpr ⟨new, walked.unique⟩
  entered_iff := by
    intro other
    have same : other ∈ entered ↔ _ := walked.entered_iff
    simp only [List.mem_cons, unlisted_enter_append, unlisted] at same ⊢
    rw [same]
    exact or_left_comm
  called task member := by
    rcases walked.called task member with before | waiting
    · exact .inl (List.mem_cons_of_mem _ before)
    · rcases List.mem_cons.mp waiting with same | later
      · exact .inl (Visit.enter.inj same ▸ List.mem_cons_self)
      · exact .inr (List.mem_append_right _ (List.mem_cons_of_mem _ later))
  reached other member := by
    obtain ⟨task, inPlan, path⟩ := walked.reached name (.inr List.mem_cons_self)
    simp only [List.map_append, List.map_map, List.map_cons, List.mem_append, List.mem_map,
      List.mem_cons] at member
    rcases member with before | ⟨setup, needs, rfl⟩ | rfl | later
    · exact walked.reached other (.inl before)
    · exact ⟨task, inPlan, path.tail needs⟩
    · exact ⟨task, inPlan, path⟩
    · exact walked.reached other (.inr (by simpa using Or.inr later))
  closed other member setup needs :=
    List.mem_cons_of_mem _ (walked.closed other member setup needs)
  ordered := walked.ordered
  opened other member setup needs := by
    rw [unlisted_enter_append] at member
    rcases List.mem_cons.mp member with rfl | later
    · have ahead : [Visit.enter setup].Sublist ((setupsOf setups other).map .enter) :=
        List.singleton_sublist.mpr (List.mem_map_of_mem needs)
      exact .inr (ahead.append (List.singleton_sublist.mpr List.mem_cons_self))
    · rcases walked.opened other later setup needs with before | waiting
      · exact .inl (List.mem_cons_of_mem _ before)
      · cases waiting with
        | cons _ below => exact .inr ((below.cons _).trans (List.sublist_append_right _ _))
        | cons_cons _ _ => exact .inl List.mem_cons_self
  nested := by
    obtain ⟨above, below⟩ := List.pairwise_cons.mp walked.nested
    refine List.pairwise_append.mpr ⟨?_, List.pairwise_cons.mpr ⟨above, below⟩, ?_⟩
    · exact pairwise_enter _
    · intro visit ahead later behind other same
      obtain ⟨setup, needs, rfl⟩ := List.mem_map.mp ahead
      rcases List.mem_cons.mp behind with rfl | behind
      · cases same
        exact .single needs
      · exact (above later behind other same).tail needs

/-- The setups of a task that is about to be listed have been entered: none of them can wait
ahead of it.
-/
theorem entered_of_head (walked : Walked setups tasks listed entered (.list name :: rest))
    {setup : String} (needs : Needs setups name setup)
    : setup ∈ entered := by
  rcases walked.opened name List.mem_cons_self setup needs with before | waiting
  · exact before
  · cases waiting with
    | cons _ below =>
        have again : name ∈ unlisted rest := mem_unlisted.mpr (below.subset (by simp))
        have once := (List.nodup_append.mp walked.unique).2.1
        exact absurd again (List.nodup_cons.mp once).1

/-- A task is listed once all its setups have been entered. One that is not listed yet is still
on the stack, so it needs the task itself.
-/
theorem list (walked : Walked setups tasks listed entered (.list name :: rest))
    : Walked setups tasks (listed ++ [name]) entered rest where
  unique := by simpa [unlisted] using walked.unique
  entered_iff := by
    intro other
    rw [walked.entered_iff]
    simp [unlisted, or_assoc]
  called task member := by
    rcases walked.called task member with before | waiting
    · exact .inl before
    · exact .inr (by simpa using waiting)
  reached other member := by
    refine walked.reached other ?_
    rcases member with before | later
    · rcases List.mem_append.mp before with before | last
      · exact .inl before
      · exact .inr (by simpa [Visit.name] using .inl (List.mem_singleton.mp last))
    · exact .inr (List.mem_cons_of_mem _ later)
  closed other member setup needs := by
    rcases List.mem_append.mp member with before | last
    · exact walked.closed other before setup needs
    · exact walked.entered_of_head (List.mem_singleton.mp last ▸ needs)
  ordered before other after split setup needs := by
    rcases append_singleton_eq_append_cons split with ⟨rfl, rfl⟩ | ⟨between, earlier⟩
    · rcases walked.entered_iff.mp (walked.entered_of_head needs) with done | waiting
      · exact .inl done
      · rcases List.mem_cons.mp waiting with rfl | above
        · exact .inr .refl
        · have outer := (List.pairwise_cons.mp walked.nested).1 _ (mem_unlisted.mp above)
          exact .inr (outer setup rfl)
    · exact walked.ordered before other between earlier setup needs
  opened other member setup needs := by
    rcases walked.opened other (List.mem_cons_of_mem _ member) setup needs with before | waiting
    · exact .inl before
    · cases waiting with
      | cons _ later => exact .inr later
  nested := (List.pairwise_cons.mp walked.nested).2

/-- The whole walk keeps the invariant, by induction along its moves. -/
theorem walk {visits : List Visit} (walked : Walked setups tasks listed entered visits)
    : ∃ all, Walked setups tasks (listed ++ Order.walk setups entered visits) all [] := by
  fun_induction Order.walk setups entered visits generalizing listed with
  | case1 entered => exact ⟨entered, by simpa using walked⟩
  | case2 entered name rest ih => simpa using ih walked.list
  | case3 entered name rest known ih => exact ih (walked.skip (by simpa using known))
  | case4 entered name rest fresh ih => exact ih (walked.enter (by simpa using fresh))

end Walked

-----------------------------------------------------------------------------------------
-- What the finished list holds
-----------------------------------------------------------------------------------------

variable {setups : Dict (List String)} {tasks : List String}

/-- The list of a plan comes out of a walk that has nothing left to do. -/
theorem walked_expand (setups : Dict (List String)) (tasks : List String)
    : ∃ all, Walked setups tasks (expand setups tasks) all [] :=
  (Walked.start setups tasks).walk

/-- No task is listed twice. -/
theorem nodup_expand : (expand setups tasks).Nodup := by
  obtain ⟨_, walked⟩ := walked_expand setups tasks
  simpa [unlisted] using walked.unique

/-- The list holds exactly the tasks that some task of the plan needs. Witness: what is listed
has been reached, and nothing is entered without being listed in the end.
-/
theorem mem_expand_iff {name : String}
    : name ∈ expand setups tasks ↔ ∃ task ∈ tasks, Reaches setups task name := by
  obtain ⟨all, walked⟩ := walked_expand setups tasks
  have listed {other} (entered : other ∈ all) : other ∈ expand setups tasks := by
    simpa [unlisted] using walked.entered_iff.mp entered
  constructor
  · intro member
    exact walked.reached name (.inl member)
  · rintro ⟨task, member, path⟩
    induction path with
    | refl =>
        rcases walked.called task member with entered | waiting
        · exact listed entered
        · cases waiting
    | tail _ needs ih => exact listed (walked.closed _ ih _ needs)

/-- A setup stands ahead of the task that names it, unless it needs that task itself. -/
theorem setup_before_or_reaches {before after : List String} {name setup : String}
    (split : expand setups tasks = before ++ name :: after) (needs : Needs setups name setup)
    : setup ∈ before ∨ Reaches setups setup name := by
  obtain ⟨_, walked⟩ := walked_expand setups tasks
  exact walked.ordered before name after split setup needs

end Rehearsal.Order
