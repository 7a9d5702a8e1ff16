import Mathlib.Data.List.Perm.Basic
import Rehearsal.Proofs.Dict
import Rehearsal.Result.Json

/-! A tree of results is read back from the value that stands for it, also where the fields of the
objects of that value have come into another order: a field is looked for by its name, and no object
has two fields of one name.
-/

namespace Rehearsal

-----------------------------------------------------------------------------------------
-- The order of fields
-----------------------------------------------------------------------------------------

namespace Json

mutual

/-- The value with the fields of all its objects put into another order. -/
def rearranged (arrange : List (String × Json) → List (String × Json)) : Json → Json
  | array items => array (rearrangedItems arrange items)
  | object fields => object (arrange (rearrangedFields arrange fields))
  | json => json

/-- The same for the items of an array. -/
def rearrangedItems (arrange : List (String × Json) → List (String × Json))
    : List Json → List Json
  | [] => []
  | item :: rest => rearranged arrange item :: rearrangedItems arrange rest

/-- The same for the values of fields. -/
def rearrangedFields (arrange : List (String × Json) → List (String × Json))
    : List (String × Json) → List (String × Json)
  | [] => []
  | (name, value) :: rest => (name, rearranged arrange value) :: rearrangedFields arrange rest

end

mutual

/-- An order that is kept changes nothing, by induction on the value. -/
theorem rearranged_id (json : Json) : json.rearranged id = json := by
  cases json with
  | null | bool _ | count _ | string _ => rfl
  | array items => rw [rearranged, rearrangedItems_id items]
  | object fields => rw [rearranged, rearrangedFields_id fields, id]

theorem rearrangedItems_id (items : List Json) : rearrangedItems id items = items := by
  cases items with
  | nil => rfl
  | cons item rest => rw [rearrangedItems, rearranged_id item, rearrangedItems_id rest]

theorem rearrangedFields_id (fields : List (String × Json))
    : rearrangedFields id fields = fields := by
  cases fields with
  | nil => rfl
  | cons field rest => rw [rearrangedFields, rearranged_id field.2, rearrangedFields_id rest]

end

variable {arrange : List (String × Json) → List (String × Json)}

theorem names_rearrangedFields (fields : List (String × Json))
    : (rearrangedFields arrange fields).map Prod.fst = fields.map Prod.fst := by
  induction fields with
  | nil => rfl
  | cons field rest ih => simp [rearrangedFields, ih]

theorem field?_rearrangedFields (fields : List (String × Json)) (name : String)
    : (object (rearrangedFields arrange fields)).field? name
      = ((object fields).field? name).map (rearranged arrange) := by
  unfold field?
  induction fields with
  | nil => rfl
  | cons field rest ih =>
      simp only [rearrangedFields, List.find?_cons] at ih ⊢
      split
      · rfl
      · exact ih

theorem field?_eq_some_iff {fields : List (String × Json)} (distinct : (fields.map Prod.fst).Nodup)
    (name : String) (value : Json)
    : (object fields).field? name = some value ↔ (name, value) ∈ fields :=
  map_find?_eq_some_iff distinct name value

/-- Fields are found whatever their order. -/
theorem field?_rearranged (permutes : ∀ fields, (arrange fields).Perm fields)
    {fields : List (String × Json)} (distinct : (fields.map Prod.fst).Nodup) (name : String)
    : ((object fields).rearranged arrange).field? name
      = ((object fields).field? name).map (rearranged arrange) := by
  have perm := permutes (rearrangedFields arrange fields)
  have before : ((rearrangedFields arrange fields).map Prod.fst).Nodup :=
    (names_rearrangedFields fields).symm ▸ distinct
  have after : ((arrange (rearrangedFields arrange fields)).map Prod.fst).Nodup :=
    (perm.map Prod.fst).nodup_iff.mpr before
  rw [← field?_rearrangedFields, rearranged]
  apply Option.ext
  intro value
  rw [field?_eq_some_iff after, field?_eq_some_iff before, perm.mem_iff]

end Json

open Json

variable {arrange : List (String × Json) → List (String × Json)}

-----------------------------------------------------------------------------------------
-- Failures
-----------------------------------------------------------------------------------------

namespace Failure

/-- Reading a failure looks at fields by their names only. -/
theorem ofJson?_congr {left right : Json} (same : ∀ name, left.field? name = right.field? name)
    : ofJson? left = ofJson? right := by
  simp only [ofJson?, optionalText?, same]

/-- A failure is read back, by cases on its kind. -/
theorem ofJson?_toJson (failure : Failure) : ofJson? failure.toJson = some failure := by
  cases failure with
  | expectedErrorNotRaised expected received =>
      cases received <;>
        simp [ofJson?, toJson, fields, kind, field?, string?, optionalText?, FailureKind.ofTag?_tag]
  | _ => simp [ofJson?, toJson, fields, kind, field?, string?, FailureKind.ofTag?_tag]

/-- No field of a failure has the name of another one, or of the tag. -/
theorem nodup_names (failure : Failure)
    : ((("kind", .string failure.kind.tag) :: failure.fields).map Prod.fst).Nodup := by
  cases failure <;> simp [fields]

/-- The fields of a failure hold texts or nothing, in which there is nothing to put in order. -/
theorem rearranged_field (failure : Failure) (name : String)
    : (failure.toJson.field? name).map (rearranged arrange) = failure.toJson.field? name := by
  have plain
      : ∀ field ∈ ("kind", .string failure.kind.tag) :: failure.fields,
          field.2.rearranged arrange = field.2 := by
    cases failure with
    | expectedErrorNotRaised expected received => cases received <;> simp [fields, rearranged]
    | _ => simp [fields, rearranged]
  cases held : failure.toJson.field? name with
  | none => rfl
  | some value =>
      have member := (field?_eq_some_iff failure.nodup_names name value).mp held
      exact congrArg some (plain (name, value) member)

/-- A failure is read back whatever the order of its fields. -/
theorem ofJson?_rearranged (permutes : ∀ fields, (arrange fields).Perm fields)
    (failure : Failure)
    : ofJson? (failure.toJson.rearranged arrange) = some failure := by
  have same (name : String)
      : (failure.toJson.rearranged arrange).field? name = failure.toJson.field? name :=
    (field?_rearranged permutes failure.nodup_names name).trans (failure.rearranged_field name)
  rw [ofJson?_congr same, ofJson?_toJson]

end Failure

-----------------------------------------------------------------------------------------
-- Trees
-----------------------------------------------------------------------------------------

namespace Result

/-- The children of a node: none, or those of an array. -/
def childrenOfJson? : Option Json → Option (List Result)
  | none => some []
  | some (.array items) => ofJsonList? items
  | some _ => none

theorem childrenOfFields?_eq (fields : List (String × Json))
    : childrenOfFields? fields = childrenOfJson? ((object fields).field? "children") := by
  unfold field?
  induction fields with
  | nil => rfl
  | cons field rest ih =>
      obtain ⟨name, value⟩ := field
      rw [childrenOfFields?.eq_def]
      simp only [List.find?_cons] at ih ⊢
      cases name == "children" with
      | true => cases value <;> rfl
      | false => exact ih

/-- What is read from a value depends on three of its fields. -/
theorem ofJson?_of_fields {json : Json} {name : String} {error : Option Failure}
    {children : List Result} (named : json.field? "name" = some (.string name))
    (failed : errorOfJson? (json.field? "error") = some error)
    (below : childrenOfJson? (json.field? "children") = some children)
    : ofJson? json = some ⟨name, error, children⟩ := by
  cases json with
  | object fields =>
      rw [← childrenOfFields?_eq] at below
      change lookup? fields "name" = _ at named
      change errorOfJson? (lookup? fields "error") = _ at failed
      simp [ofJson?, named, failed, below, string?]
  | null | bool _ | count _ | string _ | array _ => cases named

/-- The fields of a node that are not left out. -/
def fields (result : Result) : List (String × Json) :=
  ("name", .string result.name)
    :: ((result.error.elim [] fun failure => [("error", failure.toJson)])
      ++ (if result.children.isEmpty then []
          else [("children", .array (toJsonList result.children))]))

theorem toJson_eq (result : Result) : result.toJson = .object result.fields := by
  obtain ⟨name, error, children⟩ := result
  rfl

theorem nodup_names (result : Result) : (result.fields.map Prod.fst).Nodup := by
  obtain ⟨name, error, children⟩ := result
  cases error <;> cases children <;> simp [fields]

mutual

/-- A tree is read back whatever the order of the fields of its nodes, by induction on the tree. -/
theorem ofJson?_rearranged (permutes : ∀ fields, (arrange fields).Perm fields)
    (result : Result)
    : ofJson? (result.toJson.rearranged arrange) = some result := by
  match result with
  | ⟨name, error, children⟩ =>
      have found := field?_rearranged permutes (nodup_names ⟨name, error, children⟩)
      rw [toJson_eq]
      apply ofJson?_of_fields
      case named =>
        rw [found]
        rfl
      case failed =>
        rw [found]
        cases error with
        | none => cases children <;> rfl
        | some failure =>
            have read := failure.ofJson?_rearranged permutes
            exact congrArg (Option.map some) read
      case below =>
        have read := ofJsonList?_rearranged permutes children
        rw [found]
        cases children with
        | nil => cases error <;> rfl
        | cons child rest => cases error <;> exact read

theorem ofJsonList?_rearranged (permutes : ∀ fields, (arrange fields).Perm fields)
    (results : List Result)
    : ofJsonList? (rearrangedItems arrange (toJsonList results)) = some results := by
  match results with
  | [] => rfl
  | result :: rest =>
      simp only [toJsonList, rearrangedItems, ofJsonList?, ofJson?_rearranged permutes result,
        ofJsonList?_rearranged permutes rest]
      rfl

end

/-- Every tree of results is read back from the value that stands for it, with the fields of its
objects in the order in which they were written or in any other order.
-/
theorem reads_back (result : Result)
    : ofJson? result.toJson = some result
      ∧ ∀ arrange : List (String × Json) → List (String × Json),
          (∀ fields, (arrange fields).Perm fields)
          → ofJson? (result.toJson.rearranged arrange) = some result := by
  refine ⟨?_, fun arrange permutes => ofJson?_rearranged permutes result⟩
  have kept := ofJson?_rearranged (fun fields => List.Perm.refl (id fields)) result
  rwa [rearranged_id] at kept

/-- A task that was given up after a check that should have failed. -/
def signupResult : Result :=
  { name := "signup"
    error := some (.stepAborted "submit" "no handler")
    children :=
      [{ name := "title", error := some (.expectedErrorNotRaised .assertion none) }] }

/-- The tree is read back from the fields in reverse. -/
theorem signup_reads_back
    : let reversed : Json :=
        .object
          [("children",
              .array
                [.object
                  [("error",
                      .object
                        [("received", .null), ("expected", .string "assertion"),
                          ("kind", .string "expected_error_not_raised")]),
                    ("name", .string "title")]]),
            ("error",
              .object
                [("cause", .string "no handler"), ("directive", .string "submit"),
                  ("kind", .string "step_aborted")]),
            ("name", .string "signup")]
      signupResult.toJson.rearranged List.reverse = reversed
      ∧ ofJson? reversed = some signupResult := by
  intro reversed
  have same : signupResult.toJson.rearranged List.reverse = reversed := rfl
  have read := signupResult.reads_back.2 List.reverse List.reverse_perm
  exact ⟨same, same ▸ read⟩

end Result

end Rehearsal
