import Rehearsal.Directive.Registry
import Rehearsal.Proofs.Capture
import Rehearsal.Proofs.Dict

/-! The arguments of a directive. A captured text in square brackets stands for the value of a
variable as it is, whatever that value looks like; any other stands for itself, without the
delimiters around it. Nothing else of the scope is read.
-/

namespace Rehearsal

-----------------------------------------------------------------------------------------
-- References and literals
-----------------------------------------------------------------------------------------

namespace Capture

/-- The text that refers to a variable. -/
def reference (name : String) : String :=
  "[" ++ name ++ "]"

theorem reference_toList (name : String)
    : (reference name).toList = '[' :: (name.toList ++ [']']) := by
  have opening : "[".toList = ['['] := by decide
  have closing : "]".toList = [']'] := by decide
  simp [reference, String.toList_append, opening, closing]

/-- Different variables are referred to by different texts. -/
theorem reference_injective {first second : String} (same : reference first = reference second)
    : first = second := by
  have lists := congrArg String.toList same
  simp only [reference_toList, List.cons.injEq, true_and, List.append_cancel_right_eq] at lists
  exact String.toList_inj.mp lists

/-- A text counts as a reference exactly if it is the reference to some variable. -/
theorem isReference_iff {raw : String}
    : isReference raw = true ↔ ∃ name, raw = reference name := by
  constructor
  · intro refers
    unfold isReference at refers
    split at refers
    next rest whole =>
      have closed : rest.getLast? = some ']' := by simpa using refers
      obtain ⟨middle, rfl⟩ := List.getLast?_eq_some_iff.mp closed
      refine ⟨String.ofList middle, ?_⟩
      apply String.toList_inj.mp
      rw [whole, reference_toList, String.toList_ofList]
    next => cases refers
  · rintro ⟨name, rfl⟩
    unfold isReference
    simp [reference_toList]

/-- One text comes of another by taking away the pair of delimiters around it, if it has one. -/
def Unquotes (raw text : String) : Prop :=
  (∃ first last,
    isDelimiter first = true
    ∧ isDelimiter last = true
    ∧ raw.toList = first :: (text.toList ++ [last]))
  ∨ (IsBare raw ∧ text = raw)

/-- A pair of delimiters is taken away, whatever stands between them. -/
theorem unquote_of_surrounded {raw : String} {first last : Char} {middle : List Char}
    (opens : isDelimiter first = true) (closes : isDelimiter last = true)
    (whole : raw.toList = first :: (middle ++ [last]))
    : unquote raw = String.ofList middle := by
  unfold unquote
  rw [whole]
  cases middle with
  | nil => simp [opens, closes]
  | cons second rest =>
      have ends : (second :: (rest ++ [last])).getLast? = some last := by
        rw [← List.cons_append, List.getLast?_concat]
      have front : (second :: (rest ++ [last])).dropLast = second :: rest := by
        rw [← List.cons_append, List.dropLast_concat]
      simp [ends, front, opens, closes]

/-- At most one pair of delimiters is taken away. -/
theorem unquotes_unquote (raw : String) : Unquotes raw (unquote raw) := by
  by_cases surrounded : ∃ first middle last,
      raw.toList = first :: (middle ++ [last]) ∧ isDelimiter first = true ∧ isDelimiter last = true
  · obtain ⟨first, middle, last, whole, opens, closes⟩ := surrounded
    refine .inl ⟨first, last, opens, closes, ?_⟩
    rw [unquote_of_surrounded opens closes whole, String.toList_ofList, whole]
  · have bare : IsBare raw := by
      intro first middle last whole delimiters
      exact surrounded ⟨first, middle, last, whole, delimiters⟩
    exact .inr ⟨bare, unquote_eq_self bare⟩

theorem ofRaw_reference (name : String) : ofRaw (reference name) = .variable name := by
  have refers : isReference (reference name) = true := isReference_iff.mpr ⟨name, rfl⟩
  have inner : unquote (reference name) = name := by
    rw [unquote_of_surrounded (by decide) (by decide) (reference_toList name),
      String.ofList_toList]
  simp [ofRaw, refers, inner]

theorem ofRaw_of_not_reference {raw : String} (plain : ∀ name, raw ≠ reference name)
    : ofRaw raw = .literal (unquote raw) := by
  have literal : isReference raw = false := by
    apply Bool.eq_false_iff.mpr
    intro refers
    obtain ⟨name, same⟩ := isReference_iff.mp refers
    exact plain name same
  simp [ofRaw, literal]

end Capture

open Capture

/-- A reference stands for the value of its variable. -/
theorem argumentOf_reference (scope : Scope) (name : String)
    : argumentOf scope (reference name)
      = match scope.get? name with
        | some value => .ok value
        | none => .error (.undefinedVariable name) := by
  have read := ofRaw_reference name
  unfold argumentOf
  cases held : scope.get? name with
  | none => simp [read, held]
  | some value => simp [read, held]

/-- Any other text stands for itself without the delimiters around it, in any scope. -/
theorem argumentOf_of_not_reference {raw : String} (plain : ∀ name, raw ≠ reference name)
    (scope : Scope)
    : argumentOf scope raw = .ok (unquote raw) := by
  rw [argumentOf, ofRaw_of_not_reference plain]

-----------------------------------------------------------------------------------------
-- Arguments by name
-----------------------------------------------------------------------------------------

variable {scope : Scope} {found : Pattern.Match} {name raw value : String}
  {rest names : List String} {args given : Args}

theorem addArguments_reserved
    : addArguments scope found (DirectiveForm.reservedName :: rest) args
      = .error (.reservedCapture DirectiveForm.reservedName) := by
  rw [addArguments, if_pos rfl]

/-- A name that captured nothing is passed over. -/
theorem addArguments_of_none (free : name ≠ DirectiveForm.reservedName)
    (missing : found.captured? name = none)
    : addArguments scope found (name :: rest) args = addArguments scope found rest args := by
  rw [addArguments, if_neg free, missing]

/-- A name gets the argument that its captured text stands for. -/
theorem addArguments_of_ok (free : name ≠ DirectiveForm.reservedName)
    (captured : found.captured? name = some raw) (denotes : argumentOf scope raw = .ok value)
    : addArguments scope found (name :: rest) args
      = addArguments scope found rest (args.insert name value) := by
  rw [addArguments, if_neg free, captured]
  simp only [denotes]
  rfl

/-- A captured text that stands for nothing ends the matter. -/
theorem addArguments_of_error {failure : Failure} (free : name ≠ DirectiveForm.reservedName)
    (captured : found.captured? name = some raw) (denotes : argumentOf scope raw = .error failure)
    : addArguments scope found (name :: rest) args = .error failure := by
  rw [addArguments, if_neg free, captured]
  simp only [denotes]
  rfl

/-- A name that gets past is not reserved and captured nothing or a text that stands for a value. -/
theorem exists_of_addArguments_cons
    (added : addArguments scope found (name :: rest) args = .ok given)
    : name ≠ DirectiveForm.reservedName
      ∧ ∃ next,
          addArguments scope found rest next = .ok given
          ∧ (found.captured? name = none ∧ next = args
            ∨ ∃ raw value,
                found.captured? name = some raw
                ∧ argumentOf scope raw = .ok value
                ∧ next = args.insert name value) := by
  have free : name ≠ DirectiveForm.reservedName := by
    rintro rfl
    rw [addArguments_reserved] at added
    cases added
  refine ⟨free, ?_⟩
  cases captured : found.captured? name with
  | none =>
      rw [addArguments_of_none free captured] at added
      exact ⟨args, added, .inl ⟨rfl, rfl⟩⟩
  | some raw =>
      cases denotes : argumentOf scope raw with
      | error failure =>
          rw [addArguments_of_error free captured denotes] at added
          cases added
      | ok value =>
          rw [addArguments_of_ok free captured denotes] at added
          exact ⟨_, added, .inr ⟨raw, value, rfl, denotes, rfl⟩⟩

/-- A name that captured nothing keeps the argument it had, by induction on the names. -/
theorem get?_of_not_captured (added : addArguments scope found names args = .ok given)
    (missing : name ∈ names → found.captured? name = none)
    : given.get? name = args.get? name := by
  induction names generalizing args with
  | nil =>
      cases added
      rfl
  | cons head rest ih =>
      obtain ⟨_, next, added, here⟩ := exists_of_addArguments_cons added
      have later := ih added fun member => missing (List.mem_cons_of_mem _ member)
      rcases here with ⟨_, rfl⟩ | ⟨raw, value, captured, _, rfl⟩
      · exact later
      · have different : name ≠ head := by
          rintro rfl
          rw [missing List.mem_cons_self] at captured
          cases captured
        rw [later, Dict.get?_insert_of_ne _ _ different]

/-- A name that captured a text has the argument for which the text stands, by induction on the
names.
-/
theorem exists_argument (added : addArguments scope found names args = .ok given)
    (member : name ∈ names) (captured : found.captured? name = some raw)
    : ∃ value, argumentOf scope raw = .ok value ∧ given.get? name = some value := by
  induction names generalizing args with
  | nil => cases member
  | cons head rest ih =>
      obtain ⟨_, next, added, here⟩ := exists_of_addArguments_cons added
      by_cases later : name ∈ rest
      · exact ih added later
      · obtain rfl : name = head := (List.mem_cons.mp member).resolve_right later
        rcases here with ⟨missing, _⟩ | ⟨text, value, captured', denotes, rfl⟩
        · rw [captured] at missing
          cases missing
        · rw [captured] at captured'
          cases captured'
          refine ⟨value, denotes, ?_⟩
          rw [get?_of_not_captured added fun member => absurd member later, Dict.get?_insert_self]

/-- No arguments have the reserved name among theirs, by induction on the names. -/
theorem reservedName_notMem_of_addArguments
    (added : addArguments scope found names args = .ok given)
    : DirectiveForm.reservedName ∉ names := by
  induction names generalizing args with
  | nil => exact List.not_mem_nil
  | cons head rest ih =>
      obtain ⟨free, _, added, _⟩ := exists_of_addArguments_cons added
      exact List.not_mem_cons_of_ne_of_not_mem free.symm (ih added)

/-- A captured text refers to a variable that the scope does not hold. -/
def IsUnbound (scope : Scope) (found : Pattern.Match) (group name : String) : Prop :=
  found.captured? group = some (reference name) ∧ scope.get? name = none

/-- Where there are arguments, no captured text refers to a variable without a value. -/
theorem not_isUnbound_of_addArguments (added : addArguments scope found names args = .ok given)
    (member : name ∈ names) (other : String)
    : ¬ IsUnbound scope found name other := by
  rintro ⟨captured, missing⟩
  obtain ⟨value, denotes, _⟩ := exists_argument added member captured
  rw [argumentOf_reference, missing] at denotes
  cases denotes

/-- The first of some names whose captured text refers to a variable without a value. -/
structure IsFirstUnbound (scope : Scope) (found : Pattern.Match) (names : List String)
    (group name : String) : Prop where
  unbound : IsUnbound scope found group name
  first
    : ∃ before after,
        names = before ++ group :: after
        ∧ ∀ earlier ∈ before, ∀ other, ¬ IsUnbound scope found earlier other

/-- Only a reference to a variable without a value stands for nothing. -/
theorem exists_of_argumentOf_error {failure : Failure}
    (fails : argumentOf scope raw = .error failure)
    : ∃ name,
        raw = reference name
        ∧ scope.get? name = none
        ∧ failure = .undefinedVariable name := by
  by_cases refers : ∃ name, raw = reference name
  · obtain ⟨name, rfl⟩ := refers
    rw [argumentOf_reference] at fails
    cases value : scope.get? name with
    | none =>
        rw [value] at fails
        cases fails
        exact ⟨name, rfl, value, rfl⟩
    | some value =>
        rw [value] at fails
        cases fails
  · have plain : ∀ name, raw ≠ reference name := fun name same => refers ⟨name, same⟩
    rw [argumentOf_of_not_reference plain] at fails
    cases fails

/-- Where there are no arguments, the first text that refers to a variable without a value is to
blame, by induction on the names.
-/
theorem exists_firstUnbound {failure : Failure} (free : DirectiveForm.reservedName ∉ names)
    (fails : addArguments scope found names args = .error failure)
    : ∃ group name,
        IsFirstUnbound scope found names group name ∧ failure = .undefinedVariable name := by
  induction names generalizing args with
  | nil => cases fails
  | cons head rest ih =>
      have freeHead : head ≠ DirectiveForm.reservedName := (List.ne_of_not_mem_cons free).symm
      have freeRest : DirectiveForm.reservedName ∉ rest := List.not_mem_of_not_mem_cons free
      -- If the first name gets past, the one to blame is among the others.
      have pass {next : Args} (bound : ∀ other, ¬ IsUnbound scope found head other)
          (fails : addArguments scope found rest next = .error failure)
          : ∃ group name,
              IsFirstUnbound scope found (head :: rest) group name
              ∧ failure = .undefinedVariable name := by
        obtain ⟨group, name, ⟨unbound, before, after, rfl, earlier⟩, rfl⟩ := ih freeRest fails
        refine ⟨group, name, ⟨unbound, head :: before, after, rfl, ?_⟩, rfl⟩
        exact List.forall_mem_cons.mpr ⟨bound, earlier⟩
      cases captured : found.captured? head with
      | none =>
          rw [addArguments_of_none freeHead captured] at fails
          refine pass ?_ fails
          rintro other ⟨captured', _⟩
          rw [captured] at captured'
          cases captured'
      | some raw =>
          cases denotes : argumentOf scope raw with
          | ok value =>
              rw [addArguments_of_ok freeHead captured denotes] at fails
              refine pass ?_ fails
              rintro other ⟨captured', missing⟩
              rw [captured] at captured'
              cases captured'
              rw [argumentOf_reference, missing] at denotes
              cases denotes
          | error other =>
              rw [addArguments_of_error freeHead captured denotes] at fails
              cases fails
              obtain ⟨name, rfl, missing, rfl⟩ := exists_of_argumentOf_error denotes
              exact ⟨head, name, ⟨⟨captured, missing⟩, [], rest, rfl, by simp⟩, rfl⟩

/-- Scopes in which the captured texts stand for the same give the same arguments, by induction on
the names.
-/
theorem addArguments_congr {first second : Scope}
    (agree
      : ∀ name ∈ names,
          ∀ raw, found.captured? name = some raw → argumentOf first raw = argumentOf second raw)
    : addArguments first found names args = addArguments second found names args := by
  induction names generalizing args with
  | nil => rfl
  | cons head rest ih =>
      obtain ⟨here, later⟩ := List.forall_mem_cons.mp agree
      unfold addArguments
      split
      · rfl
      split
      next => exact ih later
      next raw captured =>
        rw [here raw captured]
        cases argumentOf second raw with
        | error failure => rfl
        | ok value => exact ih later

end Rehearsal
