import Rehearsal.Browser.Session
import Rehearsal.Run

/-! What a program with a state comes to when it may stop early, and relations between the states
before and after it.
-/

namespace Rehearsal

variable {ε σ α β : Type}

/-- How a program ends from a state, and the state after it. -/
def outcome (program : ExceptT ε (StateM σ) α) (state : σ) : Except ε α × σ :=
  program.run state

theorem outcome_pure (value : α) (state : σ)
    : outcome (pure value : ExceptT ε (StateM σ) α) state = (.ok value, state) :=
  rfl

theorem outcome_get (state : σ)
    : outcome (get : ExceptT ε (StateM σ) σ) state = (.ok state, state) :=
  rfl

/-- A sequence goes on with the second part where the first has ended well. -/
theorem outcome_bind {program : ExceptT ε (StateM σ) α} {next : α → ExceptT ε (StateM σ) β}
    {state : σ}
    : outcome (program >>= next) state
      = match outcome program state with
        | (.ok value, after) => outcome (next value) after
        | (.error error, after) => (.error error, after) := by
  change (ExceptT.bindCont next (outcome program state).1) (outcome program state).2 = _
  cases outcome program state with
  | mk ending after => cases ending <;> rfl

theorem outcome_bind_of_ok {program : ExceptT ε (StateM σ) α}
    {next : α → ExceptT ε (StateM σ) β} {state after : σ} {value : α}
    (ended : outcome program state = (.ok value, after))
    : outcome (program >>= next) state = outcome (next value) after := by
  rw [outcome_bind, ended]

theorem outcome_bind_of_error {program : ExceptT ε (StateM σ) α}
    {next : α → ExceptT ε (StateM σ) β} {state after : σ} {error : ε}
    (ended : outcome program state = (.error error, after))
    : outcome (program >>= next) state = (.error error, after) := by
  rw [outcome_bind, ended]

/-- A sequence that ends well does so in both its parts. -/
theorem exists_of_outcome_bind {program : ExceptT ε (StateM σ) α}
    {next : α → ExceptT ε (StateM σ) β} {state after : σ} {value : β}
    (ended : outcome (program >>= next) state = (.ok value, after))
    : ∃ first middle,
        outcome program state = (.ok first, middle)
        ∧ outcome (next first) middle = (.ok value, after) := by
  rw [outcome_bind] at ended
  split at ended
  next first middle here => exact ⟨first, middle, here, ended⟩
  next => cases ended

/-- A handler of errors takes over from the state in which the error was raised. -/
theorem outcome_tryCatch (program : ExceptT ε (StateM σ) α)
    (rescue : ε → ExceptT ε (StateM σ) α) (state : σ)
    : outcome (tryCatch program rescue) state
      = match outcome program state with
        | (.ok value, after) => (.ok value, after)
        | (.error error, after) => outcome (rescue error) after := by
  change (match (outcome program state).1 with
    | .ok value => pure (.ok value)
    | .error error => (rescue error).run : StateM σ (Except ε α)) (outcome program state).2 = _
  cases outcome program state with
  | mk ending after => cases ending <;> rfl

-----------------------------------------------------------------------------------------
-- Relations between the state before and the state after
-----------------------------------------------------------------------------------------

/-- A program relates every state to the state after it, however it ends. -/
def Moves (relation : σ → σ → Prop) (program : ExceptT ε (StateM σ) α) : Prop :=
  ∀ state, relation state (outcome program state).2

namespace Moves

variable {relation : σ → σ → Prop}

/-- A sequence moves along a transitive relation if its parts do. -/
theorem bind (trans : ∀ {first second third}, relation first second → relation second third
      → relation first third)
    {program : ExceptT ε (StateM σ) α} {next : α → ExceptT ε (StateM σ) β}
    (first : Moves relation program) (rest : ∀ value, Moves relation (next value))
    : Moves relation (program >>= next) := by
  intro state
  have before := first state
  rw [outcome_bind]
  cases ended : outcome program state with
  | mk ending after =>
      rw [ended] at before
      cases ending with
      | error error => exact before
      | ok value => exact trans before (rest value after)

end Moves

-----------------------------------------------------------------------------------------
-- Items that are gained on the way
-----------------------------------------------------------------------------------------

/-- Where a program ends well, its value is as said and a view of the state has gained the given
items.
-/
def Gains {ι : Type} (view : σ → List ι) (program : ExceptT ε (StateM σ) α) (goal : α → Prop)
    (items : List ι)
    : Prop :=
  ∀ ⦃state value after⦄,
    outcome program state = (.ok value, after) → goal value ∧ view after = view state ++ items

namespace Gains

variable {ι : Type} {view : σ → List ι} {goal : α → Prop} {goal' : β → Prop}
  {items later : List ι}

/-- A view that gains the items however a program ends. -/
theorem of_view {program : ExceptT ε (StateM σ) α}
    (gained : ∀ state, view (outcome program state).2 = view state ++ items)
    : Gains view program (fun _ => True) items := by
  intro state value after ended
  have whole := gained state
  rw [ended] at whole
  exact ⟨trivial, whole⟩

theorem pure {value : α} (met : goal value)
    : Gains view (Pure.pure value : ExceptT ε (StateM σ) α) goal [] := by
  intro state other after ended
  cases ended
  exact ⟨met, (List.append_nil _).symm⟩

theorem bind {program : ExceptT ε (StateM σ) α} {next : α → ExceptT ε (StateM σ) β}
    (first : Gains view program goal items)
    (rest : ∀ value, goal value → Gains view (next value) goal' later)
    : Gains view (program >>= next) goal' (items ++ later) := by
  intro state value after ended
  obtain ⟨middle, between, ended, ended'⟩ := exists_of_outcome_bind ended
  obtain ⟨met, gained⟩ := first ended
  obtain ⟨met', gained'⟩ := rest middle met ended'
  exact ⟨met', by rw [gained', gained, List.append_assoc]⟩

/-- A program that gains nothing may come first. -/
theorem before {program : ExceptT ε (StateM σ) α} {next : α → ExceptT ε (StateM σ) β}
    (first : Gains view program goal [])
    (rest : ∀ value, goal value → Gains view (next value) goal' later)
    : Gains view (program >>= next) goal' later :=
  first.bind rest

/-- A program that gains nothing may come last. -/
theorem after {program : ExceptT ε (StateM σ) α} {next : α → ExceptT ε (StateM σ) β}
    (first : Gains view program goal items)
    (rest : ∀ value, goal value → Gains view (next value) goal' [])
    : Gains view (program >>= next) goal' items :=
  List.append_nil items ▸ first.bind rest

end Gains

end Rehearsal
