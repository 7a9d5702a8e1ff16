import Mathlib.Data.List.Basic
import Rehearsal.Summary

/-! A summary accounts for the trees of results that it is made of: it itemises the failures of
their nodes, each once and in the order of the trees, and counts the trees that hold one. The items
come of one look at each level, the count of a recursion to any depth; they agree on trees with at
most as many levels as a run gives them.
-/

namespace Rehearsal

-----------------------------------------------------------------------------------------
-- The nodes of trees
-----------------------------------------------------------------------------------------

/-- A node of a tree of results with the names on the way to it, its own the last. -/
structure Place where
  way : List String
  node : Result

namespace Result

mutual

/-- The nodes of a tree, each ahead of those below it. The names lead to where the tree hangs. -/
def places (way : List String) : Result → List Place
  | ⟨name, error, children⟩ =>
      ⟨way ++ [name], ⟨name, error, children⟩⟩ :: placesOfAll (way ++ [name]) children

/-- The nodes of trees, one tree after another. -/
def placesOfAll (way : List String) : List Result → List Place
  | [] => []
  | result :: rest => places way result ++ placesOfAll way rest

end

mutual

/-- The number of levels of a tree. -/
def levels : Result → Nat
  | ⟨_, _, children⟩ => levelsOfAll children + 1

/-- The number of levels of the highest one of some trees. -/
def levelsOfAll : List Result → Nat
  | [] => 0
  | result :: rest => max (levels result) (levelsOfAll rest)

end

theorem placesOfAll_eq_flatMap (way : List String) (results : List Result)
    : placesOfAll way results = results.flatMap (places way) := by
  induction results with
  | nil => rfl
  | cons result rest ih => rw [placesOfAll, ih, List.flatMap_cons]

theorem places_eq (way : List String) (result : Result)
    : result.places way
      = ⟨way ++ [result.name], result⟩
        :: result.children.flatMap (places (way ++ [result.name])) := by
  cases result
  rw [places, placesOfAll_eq_flatMap]

theorem levelsOfAll_le_iff {results : List Result} {bound : Nat}
    : levelsOfAll results ≤ bound ↔ ∀ result ∈ results, result.levels ≤ bound := by
  induction results with
  | nil => simp [levelsOfAll]
  | cons result rest ih => rw [levelsOfAll, Nat.max_le, ih, List.forall_mem_cons]

/-- The trees below the root of one are lower than it. -/
theorem levels_le_succ_iff {result : Result} {bound : Nat}
    : result.levels ≤ bound + 1 ↔ ∀ child ∈ result.children, child.levels ≤ bound := by
  cases result
  rw [levels, Nat.add_le_add_iff_right, levelsOfAll_le_iff]

theorem children_eq_nil {result : Result} (low : result.levels ≤ 1) : result.children = [] :=
  List.eq_nil_iff_forall_not_mem.mpr fun child member => by
    have lower := levels_le_succ_iff.mp low child member
    cases child
    simp [levels] at lower

mutual

/-- A tree holds a failure if one of its nodes carries one, by induction on the tree. -/
theorem hasFailure_eq_any (way : List String) (result : Result)
    : result.hasFailure = (result.places way).any fun place => place.node.isFailed := by
  cases result with
  | mk name error children =>
      rw [hasFailure, places, List.any_cons, anyFailure_eq_any (way ++ [name]) children]
      rfl

theorem anyFailure_eq_any (way : List String) (results : List Result)
    : anyFailure results = (placesOfAll way results).any fun place => place.node.isFailed := by
  cases results with
  | nil => rfl
  | cons result rest =>
      rw [anyFailure, placesOfAll, List.any_append, hasFailure_eq_any way result,
        anyFailure_eq_any way rest]

end

end Result

-----------------------------------------------------------------------------------------
-- What is due to be itemised
-----------------------------------------------------------------------------------------

/-- A failure in a summary: where it lies, at which directive if it is one of a directive, and its
reason.
-/
structure ErrorItem where
  location : String
  directive : Option String
  reason : String
deriving DecidableEq, Repr

/-- The failures that an entry tells of. -/
def ErrorEntry.items : ErrorEntry → List ErrorItem
  | single location reason => [⟨location, none, reason⟩]
  | grouped location directives =>
      directives.map fun failure => ⟨location, some failure.directive, failure.reason⟩

/-- The directives of an entry that keeps several together. -/
def ErrorEntry.group? : ErrorEntry → Option (String × List DirectiveFailure)
  | single _ _ => none
  | grouped location directives => some (location, directives)

namespace Place

/-- The words for a place: those for the plan, task or step on the way to it, whichever is the
last.
-/
def location (place : Place) : String :=
  match place.way with
  | [] => ""
  | [plan] => plan
  | [plan, task] => plan ++ " - " ++ task
  | plan :: task :: step :: _ => plan ++ " - " ++ task ++ "(" ++ step ++ ")"

/-- The failure of the node at a place, if it carries one. -/
def item? (place : Place) : Option ErrorItem :=
  place.node.error.map fun failure => ⟨place.location, place.way[3]?, failure.reason⟩

/-- The failing directives below the node at the place of a step, if there are any. -/
def group? (place : Place) : Option (String × List DirectiveFailure) :=
  if place.way.length = 3 ∧ Summary.failingDirectives place.node ≠ [] then
    some (place.location, Summary.failingDirectives place.node)
  else none

end Place

/-- A summary accounts for some trees. -/
structure Summary.AccountsFor (summary : Summary) (trees : List Result) : Prop where
  planCount : summary.planCount = trees.length
  /-- The trees that are counted are those with a node that carries a failure. -/
  inError
    : summary.inError
      = trees.countP fun tree => (tree.places []).any fun place => place.node.isFailed
  /-- Of every node that carries a failure there is one item, in the order of the trees. -/
  items
    : summary.errors.flatMap ErrorEntry.items
      = (Result.placesOfAll [] trees).filterMap Place.item?
  /-- The failing directives of a step are kept together in one entry. -/
  groups
    : summary.errors.filterMap ErrorEntry.group?
      = (Result.placesOfAll [] trees).filterMap Place.group?
  /-- A summary is clean if it has no entry. -/
  clean : summary.isClean = true ↔ summary.errors = []
  /-- It has no entry if no node carries a failure. -/
  empty : summary.errors = [] ↔ ∀ place ∈ Result.placesOfAll [] trees, place.node.error = none

namespace Summary

variable {α : Type} {view : ErrorEntry → List α} {seen : Place → List α}

-----------------------------------------------------------------------------------------
-- Entries and places, level by level
-----------------------------------------------------------------------------------------

/-- What is viewed of the entries for a plan, task or step on its own is what is seen at its place,
and what is viewed of all those of a step is what is seen at its place and the places below.
-/
structure Agrees (view : ErrorEntry → List α) (seen : Place → List α) : Prop where
  own
    : ∀ place : Place,
        place.way.length ≤ 2 → (ownEntry place.location place.node).flatMap view = seen place
  step
    : ∀ plan task (step : Result),
        step.levels ≤ 2
        → (stepEntries (plan ++ " - " ++ task ++ "(" ++ step.name ++ ")") step).flatMap view
          = (step.places [plan, task]).flatMap seen

namespace Agrees

theorem taskEntries_eq (agrees : Agrees view seen) (plan : String) {task : Result}
    (low : task.levels ≤ 3)
    : (taskEntries (plan ++ " - " ++ task.name) task).flatMap view
      = (task.places [plan]).flatMap seen := by
  have steps := Result.levels_le_succ_iff.mp low
  rw [taskEntries, Result.places_eq, List.flatMap_append, List.flatMap_cons, List.flatMap_assoc,
    List.flatMap_assoc]
  refine congrArg₂ (· ++ ·) (agrees.own ⟨[plan, task.name], task⟩ (Nat.le_refl 2)) ?_
  exact List.flatMap_congr fun step member => agrees.step plan task.name step (steps step member)

theorem planEntries_eq (agrees : Agrees view seen) {plan : Result} (low : plan.levels ≤ 4)
    : (planEntries plan).flatMap view = (plan.places []).flatMap seen := by
  have tasks := Result.levels_le_succ_iff.mp low
  rw [planEntries, Result.places_eq, List.flatMap_append, List.flatMap_cons, List.flatMap_assoc,
    List.flatMap_assoc]
  refine congrArg₂ (· ++ ·) (agrees.own ⟨[plan.name], plan⟩ (Nat.le_succ 1)) ?_
  exact List.flatMap_congr fun task member => agrees.taskEntries_eq plan.name (tasks task member)

/-- The entries of a summary are the places in the trees, one tree after another. -/
theorem errors_eq (agrees : Agrees view seen) {trees : List Result}
    (low : ∀ tree ∈ trees, tree.levels ≤ 4)
    : (ofResults trees).errors.flatMap view = (Result.placesOfAll [] trees).flatMap seen := by
  rw [Result.placesOfAll_eq_flatMap, List.flatMap_assoc]
  refine List.flatMap_assoc.trans ?_
  exact List.flatMap_congr fun tree member => agrees.planEntries_eq (low tree member)

end Agrees

/-- The places below a step whose directives have no children. -/
theorem flatMap_places_directives {step : Result} (low : step.levels ≤ 2) (way : List String)
    (seen : Place → List α)
    : (step.children.flatMap (Result.places way)).flatMap seen
      = step.children.flatMap fun directive => seen ⟨way ++ [directive.name], directive⟩ := by
  rw [List.flatMap_assoc]
  refine List.flatMap_congr fun directive member => ?_
  have childless := Result.children_eq_nil (Result.levels_le_succ_iff.mp low directive member)
  rw [Result.places_eq, childless, List.flatMap_nil, List.flatMap_singleton]

/-- The entry that keeps the failing directives of a step together, if there are any. -/
def groupEntry (location : String) : List DirectiveFailure → List ErrorEntry
  | [] => []
  | directives => [.grouped location directives]

theorem stepEntries_eq (location : String) (step : Result)
    : stepEntries location step
      = ownEntry location step ++ groupEntry location (failingDirectives step) := by
  unfold stepEntries groupEntry
  rfl

/-- The items are the failures. -/
theorem agrees_items : Agrees ErrorEntry.items fun place => place.item?.toList where
  own place short := by
    have none : place.way[3]? = none := List.getElem?_eq_none (Nat.le_succ_of_le short)
    rw [ownEntry, Place.item?, none]
    cases place.node.error <;> rfl
  step plan task step low := by
    let location := plan ++ " - " ++ task ++ "(" ++ step.name ++ ")"
    have own : (ownEntry location step).flatMap ErrorEntry.items
        = (Place.item? ⟨[plan, task, step.name], step⟩).toList := by
      rw [ownEntry, Place.item?]
      cases step.error <;> rfl
    have group (directives : List DirectiveFailure)
        : (groupEntry location directives).flatMap ErrorEntry.items
          = directives.map fun failure => ⟨location, some failure.directive, failure.reason⟩ := by
      cases directives with
      | nil => rfl
      | cons => exact List.flatMap_singleton _ _
    rw [stepEntries_eq, Result.places_eq, List.flatMap_append, List.flatMap_cons,
      flatMap_places_directives low, own, group, failingDirectives, List.map_filterMap,
      List.filterMap_eq_flatMap_toList]
    refine congrArg (_ ++ ·) (List.flatMap_congr fun directive _ => ?_)
    rw [Place.item?]
    cases directive.error <;> rfl

/-- The groups are the failing directives of steps. -/
theorem agrees_groups
    : Agrees (fun entry => entry.group?.toList) fun place => place.group?.toList where
  own place short := by
    have other : ¬place.way.length = 3 := by omega
    rw [ownEntry, Place.group?, if_neg fun both => other both.1]
    cases place.node.error <;> rfl
  step plan task step low := by
    let location := plan ++ " - " ++ task ++ "(" ++ step.name ++ ")"
    have own : (ownEntry location step).flatMap (fun entry => entry.group?.toList) = [] := by
      rw [ownEntry]
      cases step.error <;> rfl
    have group : (groupEntry location (failingDirectives step)).flatMap
          (fun entry => entry.group?.toList)
        = (Place.group? ⟨[plan, task, step.name], step⟩).toList := by
      rw [Place.group?]
      cases failingDirectives step <;> rfl
    have below : (step.children.flatMap fun directive =>
          (Place.group? ⟨[plan, task, step.name, directive.name], directive⟩).toList) = [] := by
      simp [Place.group?]
    rw [stepEntries_eq, Result.places_eq, List.flatMap_append, List.flatMap_cons,
      flatMap_places_directives low, own, group]
    exact (List.append_nil _).symm.trans (congrArg (_ ++ ·) below.symm)

-----------------------------------------------------------------------------------------
-- Nothing lost and nothing invented
-----------------------------------------------------------------------------------------

/-- Every entry tells of a failure. -/
theorem items_ne_nil {trees : List Result}
    : ∀ entry ∈ (ofResults trees).errors, entry.items ≠ [] := by
  have own (location : String) (node : Result)
      : ∀ entry ∈ ownEntry location node, entry.items ≠ [] := by
    rw [ownEntry]
    cases node.error <;> simp [ErrorEntry.items]
  have group (location : String) (directives : List DirectiveFailure)
      : ∀ entry ∈ groupEntry location directives, entry.items ≠ [] := by
    cases directives <;> simp [groupEntry, ErrorEntry.items]
  simp only [ofResults, planEntries, taskEntries, stepEntries_eq, List.forall_mem_flatMap,
    List.forall_mem_append]
  exact fun plan _ =>
    ⟨own _ _, fun task _ => ⟨own _ _, fun step _ => ⟨own _ _, group _ _⟩⟩⟩

theorem isClean_iff (trees : List Result)
    : (ofResults trees).isClean = true
      ↔ ∀ place ∈ Result.placesOfAll [] trees, place.node.error = none := by
  rw [isClean, beq_iff_eq, ofResults, List.countP_eq_zero, Result.placesOfAll_eq_flatMap,
    List.forall_mem_flatMap]
  refine forall₂_congr fun tree _ => ?_
  rw [Result.hasFailure_eq_any []]
  simp [Result.isFailed]

/-- A summary accounts for trees with at most four levels. -/
theorem accountsFor {trees : List Result} (low : ∀ tree ∈ trees, tree.levels ≤ 4)
    : (ofResults trees).AccountsFor trees := by
  have items : (ofResults trees).errors.flatMap ErrorEntry.items
      = (Result.placesOfAll [] trees).filterMap Place.item? := by
    rw [agrees_items.errors_eq low, List.filterMap_eq_flatMap_toList]
  have empty : (ofResults trees).errors = []
      ↔ ∀ place ∈ Result.placesOfAll [] trees, place.node.error = none := by
    have none_iff (place : Place) : place.item? = none ↔ place.node.error = none :=
      Option.map_eq_none_iff
    constructor
    · intro none place member
      rw [none, List.flatMap_nil, eq_comm, List.filterMap_eq_nil_iff] at items
      exact (none_iff place).mp (items place member)
    · intro free
      have nothing := items.trans (List.filterMap_eq_nil_iff.mpr fun place member =>
        (none_iff place).mpr (free place member))
      exact List.eq_nil_iff_forall_not_mem.mpr fun entry member =>
        items_ne_nil entry member (List.flatMap_eq_nil_iff.mp nothing entry member)
  exact {
    planCount := rfl
    inError := congrArg (trees.countP ·) (funext (Result.hasFailure_eq_any []))
    items
    groups := by
      rw [List.filterMap_eq_flatMap_toList, agrees_groups.errors_eq low,
        List.filterMap_eq_flatMap_toList]
    clean := (isClean_iff trees).trans empty.symm
    empty }

end Summary

end Rehearsal
