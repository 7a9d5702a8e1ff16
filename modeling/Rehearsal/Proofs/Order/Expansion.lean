import Rehearsal.Proofs.Dict
import Rehearsal.Proofs.Order.Schedule

/-! The depth-first list as what a recursion over the setups returns. Whatever cycles the setups
have, the recursion ends: no name is entered twice, so there is one visit for each task of the plan
and one for each setup of each listed task.
-/

namespace Rehearsal

namespace Order

variable {setups : Dict (List String)} {entered between after names rest : List String}
  {listed inner later : List String} {count : Nat}

-----------------------------------------------------------------------------------------
-- Visits one after another
-----------------------------------------------------------------------------------------

/-- Names are visited one after another, which lists names and enters some: one that has been
entered is passed over, and any other is entered and listed behind what visiting its setups lists.
The visits are counted. Nothing here says that they come to an end.
-/
inductive Visiting (setups : Dict (List String))
    : Nat → List String → List String → List String → List String → Prop
  | done (entered : List String) : Visiting setups 0 entered [] [] entered
  | skip {count name entered rest later after} (known : name ∈ entered)
    (visits : Visiting setups count entered rest later after)
    : Visiting setups (count + 1) entered (name :: rest) later after
  | enter {count count' name entered between rest inner later after} (fresh : name ∉ entered)
    (above : Visiting setups count (name :: entered) (setupsOf setups name) inner between)
    (visits : Visiting setups count' between rest later after)
    : Visiting setups (count + count' + 1) entered (name :: rest) (inner ++ name :: later) after

namespace Visiting

/-- What has been entered stays entered, by induction on the visits. -/
theorem subset (visits : Visiting setups count entered names listed after) : entered ⊆ after := by
  induction visits with
  | done entered => exact List.Subset.refl _
  | skip _ _ ih => exact ih
  | enter _ _ _ ih ih' =>
      exact List.Subset.trans (List.subset_cons_self _ _) (List.Subset.trans ih ih')

/-- Every name is visited once, and every setup of a listed name once more. -/
theorem count_eq (visits : Visiting setups count entered names listed after)
    : count = names.length + (listed.flatMap (setupsOf setups)).length := by
  induction visits with
  | done entered => rfl
  | skip _ _ ih =>
      simp only [ih, List.length_cons]
      omega
  | enter _ _ _ ih ih' =>
      simp only [ih, ih', List.length_cons, List.flatMap_append, List.flatMap_cons,
        List.length_append]
      omega

/-- The walk does the visits that are ahead of it, and goes on from there. -/
theorem walk_eq (visits : Visiting setups count entered names listed after) (more : List Visit)
    : walk setups entered (names.map .enter ++ more) = listed ++ walk setups after more := by
  induction visits generalizing more with
  | done entered => rfl
  | skip known _ ih =>
      rw [List.map_cons, List.cons_append, walk, if_pos (List.contains_iff_mem.mpr known), ih]
  | @enter _ _ name entered between rest inner later after fresh _ _ ih ih' =>
      have unknown : ¬entered.contains name = true := fun known =>
        fresh (List.contains_iff_mem.mp known)
      rw [List.map_cons, List.cons_append, walk, if_neg unknown, ih, walk, ih', List.append_assoc]
      rfl

end Visiting

-----------------------------------------------------------------------------------------
-- The visits come to an end
-----------------------------------------------------------------------------------------

theorem setupsOf_of_not_mem {name : String} (unknown : name ∉ setups.keys)
    : setupsOf setups name = [] := by
  have absent : setups.get? name = none := by
    simpa [Dict.mem_keys_iff] using unknown
  rw [setupsOf, absent]
  rfl

/-- The more has been done, the less is open. -/
theorem openWeight_le_of_subset (weight : String → Nat) (more : entered ⊆ between)
    (names : List String)
    : openWeight weight between names ≤ openWeight weight entered names := by
  induction names with
  | nil => exact Nat.le_refl _
  | cons name rest ih =>
      unfold openWeight
      by_cases done : name ∈ entered
      · have done' : name ∈ between := more done
        simpa [done, done'] using ih
      · have closed : entered.contains name = false := by simpa using done
        rw [closed]
        split <;> simp only [Bool.false_eq_true, ↓reduceIte] <;> omega

/-- Entering a name leaves fewer names with setups to be entered, or the name has no setups. -/
theorem enter_decreases (setups : Dict (List String)) {name : String} (fresh : name ∉ entered)
    (rest : List String)
    : openWeight (fun _ => 1) (name :: entered) setups.keys
          < openWeight (fun _ => 1) entered setups.keys
      ∨ openWeight (fun _ => 1) (name :: entered) setups.keys
          ≤ openWeight (fun _ => 1) entered setups.keys
        ∧ (setupsOf setups name).length < (name :: rest).length := by
  by_cases known : name ∈ setups.keys
  · have less := openWeight_cons_lt (fun _ => 1) known (by simpa using fresh)
    exact .inl (by omega)
  · refine .inr ⟨openWeight_cons_le _ _ _ _, ?_⟩
    rw [setupsOf_of_not_mem known]
    exact Nat.zero_lt_succ _

/-- A pair goes down when its second part does and its first part does not go up. -/
theorem lex_of_le_of_lt {weight weight' length length' : Nat} (le : weight ≤ weight')
    (lt : length < length')
    : Prod.Lex (· < ·) (· < ·) (weight, length) (weight', length') := by
  rcases Nat.lt_or_eq_of_le le with less | rfl
  · exact Prod.Lex.left _ _ less
  · exact Prod.Lex.right _ lt

/-- Whatever has been entered, visiting some names comes to an end: each visit leaves fewer names
with setups to be entered, or no more of them and a shorter list of names.
-/
theorem exists_visits (setups : Dict (List String)) (entered : List String)
    : ∀ names, ∃ count listed after, Visiting setups count entered names listed after
  | [] => ⟨0, [], entered, .done entered⟩
  | name :: rest => by
      by_cases known : name ∈ entered
      · obtain ⟨count, later, after, visits⟩ := exists_visits setups entered rest
        exact ⟨_, _, _, .skip known visits⟩
      · have decreases := enter_decreases setups known rest
        obtain ⟨count, inner, between, above⟩ :=
          exists_visits setups (name :: entered) (setupsOf setups name)
        have kept : entered ⊆ between :=
          List.Subset.trans (List.subset_cons_self name entered) above.subset
        have grown := openWeight_le_of_subset (fun _ => 1) kept setups.keys
        -- What was entered on the way only lowers the weight of what is open.
        obtain ⟨count', later, after, visits⟩ := exists_visits setups between rest
        exact ⟨_, _, _, .enter known above visits⟩
termination_by names => (openWeight (fun _ => 1) entered setups.keys, names.length)
decreasing_by
  · exact lex_of_le_of_lt (Nat.le_refl _) (Nat.lt_succ_self _)
  · rcases decreases with less | ⟨le, fewer⟩
    · exact Prod.Lex.left _ _ less
    · exact lex_of_le_of_lt le fewer
  · exact lex_of_le_of_lt grown (Nat.lt_succ_self _)

end Order

-----------------------------------------------------------------------------------------
-- What the recursion returns
-----------------------------------------------------------------------------------------

/-- Visiting the tasks of a plan ends after finitely many visits, on any registry, and returns each
needed task once; a setup stands ahead of the task that names it, or the two lie on a common cycle.
-/
theorem TaskRegistry.expand_returns_needed (registry : TaskRegistry) (tasks : List String)
    : let names := Order.expand registry.setups tasks
      let edges := (names.flatMap (Order.setupsOf registry.setups)).length
      (∃ entered, Order.Visiting registry.setups (tasks.length + edges) [] tasks names entered)
      ∧ names.Nodup
      ∧ (∀ name,
          name ∈ names ↔ ∃ task ∈ tasks, Relation.ReflTransGen registry.Needs task name)
      ∧ ∀ before name after,
          names = before ++ name :: after
          → ∀ setup,
              registry.Needs name setup
              → setup ∈ before ∨ Relation.ReflTransGen registry.Needs setup name := by
  intro names edges
  rw [← registry.needs_setups]
  refine ⟨?_, Order.nodup_expand, fun name => Order.mem_expand_iff, ?_⟩
  · obtain ⟨count, listed, entered, visits⟩ := Order.exists_visits registry.setups [] tasks
    have same : names = listed := by
      simpa [Order.walk, names, Order.expand] using visits.walk_eq []
    have total : tasks.length + edges = count := by rw [visits.count_eq, ← same]
    exact ⟨entered, total ▸ same ▸ visits⟩
  · intro before name after split setup needs
    exact Order.setup_before_or_reaches split needs

end Rehearsal
