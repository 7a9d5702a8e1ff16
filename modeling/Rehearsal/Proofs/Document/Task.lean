import Rehearsal.Proofs.Document.Part
import Rehearsal.Proofs.Variables.Filling

/-! Which documents are accepted as tasks, and what a task is that has been read. Of the keys of a
document only the letters count, not their case.
-/

namespace Rehearsal.Document

variable {fields fields' : Fields}

-----------------------------------------------------------------------------------------
-- The parts of a task
-----------------------------------------------------------------------------------------

/-- A value is an entry with a list of scalars for its content: a step with its directives. -/
def IsStep (value : Yaml.Value) (step : Step) : Prop :=
  ∃ content items,
    IsEntry value step.name content
    ∧ untagged content = .sequence items
    ∧ List.Forall₂ Spells items step.directives

/-- The steps in the list that has to stand among the fields. -/
def StepsAt (fields : Fields) (steps : List Step) : Prop :=
  ∃ value items,
    ContentAt fields "steps" (some value)
    ∧ untagged value = .sequence items
    ∧ List.Forall₂ IsStep items steps

/-- The setup tasks and the prerequisites in the mapping that may stand among the fields. -/
inductive NeedsAt (fields : Fields) : List String → List String → Prop where
  | absent (content : ContentAt fields "prerequisites" none) : NeedsAt fields [] []
  | given {value inner setups prerequisites}
    (content : ContentAt fields "prerequisites" (some value))
    (mapping : untagged value = .mapping inner) (first : TextsAt inner "setupTasks" setups)
    (second : TextsAt inner "executePrerequisites" prerequisites)
    : NeedsAt fields setups prerequisites

theorem step_eq_ok_iff {number : Nat} {value : Yaml.Value} {step : Step}
    : Document.step number value = .ok step ↔ IsStep value step := by
  unfold Document.step IsStep
  simp only [bind_eq_ok_iff, inPlace_eq_ok_iff, Prod.exists, singleEntry_eq_ok_iff,
    ← items?_eq_some_iff]
  constructor
  · rintro ⟨name, content, entry, read⟩
    cases list : items? content with
    | none =>
        rw [list] at read
        cases read
    | some items =>
        rw [list] at read
        obtain ⟨directives, spelled, same⟩ := bind_eq_ok_iff.mp read
        cases same
        exact ⟨content, items, entry, list,
          (mapM_eq_ok_iff scalar_eq_ok_iff).mp (inPlace_eq_ok_iff.mp spelled)⟩
  · rintro ⟨content, items, entry, list, spelled⟩
    refine ⟨step.name, content, entry, ?_⟩
    rw [list]
    refine bind_eq_ok_iff.mpr ⟨step.directives, inPlace_eq_ok_iff.mpr ?_, rfl⟩
    exact (mapM_eq_ok_iff scalar_eq_ok_iff).mpr spelled

/-- Steps are read one by one, whatever their numbers, by induction on the list. -/
theorem stepsFrom_eq_ok_iff {number : Nat} {items : List Yaml.Value} {steps : List Step}
    : stepsFrom number items = .ok steps ↔ List.Forall₂ IsStep items steps := by
  induction items generalizing number steps with
  | nil =>
      rw [List.forall₂_nil_left_iff]
      exact ⟨fun read => (Except.ok.inj read).symm, fun empty => empty ▸ rfl⟩
  | cons item rest ih =>
      rw [stepsFrom, cons_eq_ok_iff]
      simp only [step_eq_ok_iff, ih, List.forall₂_cons_left_iff]

theorem steps_eq_ok_iff {steps : List Step}
    : Document.steps fields = .ok steps ↔ StepsAt fields steps := by
  unfold Document.steps StepsAt
  simp only [← field?_eq_iff, ← items?_eq_some_iff]
  cases field? fields "steps" with
  | none => exact ⟨nofun, nofun⟩
  | some value =>
      simp only [Option.some_inj, exists_and_left, exists_eq_left']
      cases items? value with
      | none => exact ⟨nofun, nofun⟩
      | some items => simp only [stepsFrom_eq_ok_iff, Option.some_inj, exists_eq_left']

theorem needs_eq_ok_iff {setups prerequisites : List String}
    : needs fields = .ok (setups, prerequisites) ↔ NeedsAt fields setups prerequisites := by
  constructor
  · intro read
    unfold needs at read
    split at read
    next found =>
      cases read
      exact .absent (field?_eq_iff.mp found)
    next value found =>
      split at read
      next => cases read
      next inner mapping =>
        simp only [bind_eq_ok_iff, texts_eq_ok_iff] at read
        obtain ⟨_, first, _, second, same⟩ := read
        cases same
        exact .given (field?_eq_iff.mp found) (fields?_eq_some_iff.mp mapping) first second
  · intro needed
    unfold needs
    cases needed with
    | absent content => rw [field?_eq_iff.mpr content]
    | given content mapping first second =>
        rw [field?_eq_iff.mpr content]
        simp only [fields?_eq_some_iff.mpr mapping, bind_eq_ok_iff, texts_eq_ok_iff]
        exact ⟨_, first, _, second, rfl⟩

theorem variablesOf_eq_ok_iff {frame : Variables}
    : variablesOf fields = .ok frame
      ↔ ∃ settings freezings,
          BindingsAt fields "variables" settings
          ∧ BindingsAt fields "glossary" freezings
          ∧ Variables.ofLists settings freezings = .ok frame := by
  unfold variablesOf
  simp only [bind_eq_ok_iff, bindings_eq_ok_iff, inPlace_eq_ok_iff, mapError_eq_ok_iff,
    exists_and_left]

/-- A mapping is read as a task if its fields are read as the parts of the task. -/
theorem task_eq_ok_iff {task : Task}
    : Document.task (.mapping fields) = .ok task
      ↔ TextAt fields "name" task.name
        ∧ TextOrNoneAt fields "description" task.description
        ∧ NeedsAt fields task.setups task.prerequisites
        ∧ variablesOf fields = .ok task.frame
        ∧ StepsAt fields task.steps := by
  unfold Document.task
  simp only [fields?_mapping, bind_eq_ok_iff, requiredText_eq_ok_iff, mapM_scalar_field?_eq_ok_iff,
    steps_eq_ok_iff, Prod.exists, needs_eq_ok_iff]
  constructor
  · rintro ⟨name, named, description, described, setups, prerequisites, needed, frame, filled,
      steps, listed, same⟩
    cases same
    exact ⟨named, described, needed, filled, listed⟩
  · rintro ⟨named, described, needed, filled, listed⟩
    exact ⟨_, named, _, described, _, _, needed, _, filled, _, listed, rfl⟩

-----------------------------------------------------------------------------------------
-- The letter case of keys
-----------------------------------------------------------------------------------------

/-- Two keys are the same, or texts that differ in the case of letters only. -/
inductive SameKey : Yaml.Value → Yaml.Value → Prop where
  | same (key : Yaml.Value) : SameKey key key
  | recased {text text'} (letters : String.toLower text' = String.toLower text)
    : SameKey (.string text) (.string text')

/-- Fields with the same keys and contents. -/
def Recased (fields fields' : Fields) : Prop :=
  List.Forall₂ (fun field field' => SameKey field.1 field'.1 ∧ field'.2 = field.2) fields fields'

/-- Two fields of a task with the same key and, but for the keys in a mapping of prerequisites, with
the same content.
-/
inductive SameField : Yaml.Value × Yaml.Value → Yaml.Value × Yaml.Value → Prop where
  | plain {key key'} (same : SameKey key key') (content : Yaml.Value)
    : SameField (key, content) (key', content)
  | prerequisites {key key' inner inner'} (same : SameKey key key')
    (named : Names "prerequisites" key) (within : Recased inner inner')
    : SameField (key, .mapping inner) (key', .mapping inner')

theorem SameKey.isKey_eq {key key' : Yaml.Value} (same : SameKey key key') (name : String)
    : isKey name key' = isKey name key := by
  cases same with
  | same => rfl
  | recased letters => simp only [isKey, untagged, letters]

/-- What stands under a key does not depend on how the keys are written, by induction on the fields.
-/
theorem Recased.field?_eq (recased : Recased fields fields') (key : String)
    : field? fields' key = field? fields key := by
  induction recased with
  | nil => rfl
  | @cons field field' rest rest' same _ ih =>
      obtain ⟨same, content⟩ := same
      rw [field?_cons, field?_cons, same.isKey_eq, content, ih]

theorem Recased.texts_eq (recased : Recased fields fields') (key : String)
    : texts fields' key = texts fields key := by
  unfold texts
  rw [recased.field?_eq]

/-- The same for the fields of a task, where the keys in a mapping of prerequisites may differ, too.
-/
theorem field?_of_sameFields (same : List.Forall₂ SameField fields fields') (key : String)
    : field? fields' key = field? fields key
      ∨ key.toLower = "prerequisites".toLower
        ∧ ∃ inner inner',
            field? fields key = some (.mapping inner)
            ∧ field? fields' key = some (.mapping inner')
            ∧ Recased inner inner' := by
  induction same with
  | nil => exact .inl rfl
  | @cons field field' rest rest' first _ ih =>
      cases first with
      | plain same content =>
          rw [field?_cons, field?_cons, same.isKey_eq]
          split
          · exact .inl rfl
          · exact ih
      | @prerequisites name _ inner inner' same isNeeds within =>
          rw [field?_cons, field?_cons, same.isKey_eq]
          split
          next named =>
            -- The name is that of both keys, so it is the prerequisites that are asked for.
            obtain ⟨text, plain, letters⟩ := isNeeds
            obtain ⟨_, plain', letters'⟩ := isKey_iff.mp named
            cases plain.symm.trans plain'
            exact .inr ⟨letters'.symm.trans letters, inner, inner', rfl, rfl, within⟩
          next => exact ih

theorem needs_eq_of_sameFields (same : List.Forall₂ SameField fields fields')
    : needs fields' = needs fields := by
  unfold needs
  rcases field?_of_sameFields same "prerequisites" with
    equal | ⟨_, inner, inner', found, found', recased⟩
  · rw [equal]
  · simp only [found, found', fields?_mapping, recased.texts_eq]

/-- Documents with the same fields are read alike, also where they are refused. -/
theorem task_eq_of_sameFields (same : List.Forall₂ SameField fields fields')
    : Document.task (.mapping fields') = Document.task (.mapping fields) := by
  have elsewhere {key : String} (other : key.toLower ≠ "prerequisites".toLower)
      : field? fields' key = field? fields key :=
    (field?_of_sameFields same key).resolve_right fun needs => other needs.1
  have name : field? fields' "name" = field? fields "name" := elsewhere (by decide +kernel)
  have description : field? fields' "description" = field? fields "description" :=
    elsewhere (by decide +kernel)
  have settings : field? fields' "variables" = field? fields "variables" :=
    elsewhere (by decide +kernel)
  have freezings : field? fields' "glossary" = field? fields "glossary" :=
    elsewhere (by decide +kernel)
  have steps : field? fields' "steps" = field? fields "steps" := elsewhere (by decide +kernel)
  simp only [Document.task, fields?_mapping, requiredText, variablesOf, bindings, Document.steps,
    name, description, settings, freezings, steps, needs_eq_of_sameFields same]

-----------------------------------------------------------------------------------------
-- Documents and tasks
-----------------------------------------------------------------------------------------

/-- The fields of a document are those of a task. -/
structure IsTaskDocument (fields : Fields) : Prop where
  name : ∃ name, TextAt fields "name" name
  description : ∃ description, TextOrNoneAt fields "description" description
  needs : ∃ setups prerequisites, NeedsAt fields setups prerequisites
  settings : ∃ settings, BindingsAt fields "variables" settings
  freezings
    : ∃ freezings, BindingsAt fields "glossary" freezings ∧ (freezings.map Prod.fst).Nodup
  steps : ∃ steps, StepsAt fields steps

/-- The fields of a document say what a task consists of. -/
structure Describes (fields : Fields) (task : Task) : Prop where
  name : TextAt fields "name" task.name
  description : TextOrNoneAt fields "description" task.description
  needs : NeedsAt fields task.setups task.prerequisites
  frame
    : ∃ settings freezings,
        BindingsAt fields "variables" settings
        ∧ BindingsAt fields "glossary" freezings
        ∧ task.frame.Stores settings freezings
  steps : StepsAt fields task.steps

theorem exists_task_iff
    : (∃ task, Document.task (.mapping fields) = .ok task) ↔ IsTaskDocument fields := by
  simp only [task_eq_ok_iff]
  constructor
  · rintro ⟨task, named, described, needed, filled, listed⟩
    obtain ⟨settings, freezings, set, frozen, filled⟩ := variablesOf_eq_ok_iff.mp filled
    have distinct := (Variables.ofLists_eq_ok_iff.mp filled).1
    exact ⟨⟨_, named⟩, ⟨_, described⟩, ⟨_, _, needed⟩, ⟨_, set⟩, ⟨_, frozen, distinct⟩, ⟨_, listed⟩⟩
  · rintro ⟨⟨name, named⟩, ⟨description, described⟩, ⟨setups, prerequisites, needed⟩,
      ⟨settings, set⟩, ⟨freezings, frozen, distinct⟩, ⟨steps, listed⟩⟩
    have filled : variablesOf fields = .ok _ :=
      variablesOf_eq_ok_iff.mpr
        ⟨settings, freezings, set, frozen, Variables.ofLists_eq_ok_iff.mpr ⟨distinct, rfl⟩⟩
    exact ⟨⟨name, description, setups, prerequisites, _, steps⟩, named, described, needed, filled,
      listed⟩

theorem describes_of_task {task : Task} (read : Document.task (.mapping fields) = .ok task)
    : Describes fields task := by
  obtain ⟨named, described, needed, filled, listed⟩ := task_eq_ok_iff.mp read
  obtain ⟨settings, freezings, set, frozen, filled⟩ := variablesOf_eq_ok_iff.mp filled
  exact ⟨named, described, needed,
    ⟨settings, freezings, set, frozen, Variables.stores_of_ofLists filled⟩, listed⟩

theorem ofText_eq_ok_iff {text : String} {task : Task}
    : Task.ofText text = .ok task
      ↔ ∃ value, Yaml.Value.ofText text = .ok value ∧ Document.task value = .ok task := by
  unfold Task.ofText
  simp only [bind_eq_ok_iff, mapError_eq_ok_iff]

/-- A text is accepted as a task if it is read as a document that is, and a document that is a
mapping is accepted exactly if its fields are those of a task. The task that is read consists of
what the fields say, in their order. How the keys of a task are written, in capital letters or small
ones, makes no difference to what is read or to why a document is refused.
-/
theorem task_grammar
    : (∀ text task,
          Task.ofText text = .ok task
          ↔ ∃ value, Yaml.Value.ofText text = .ok value ∧ Document.task value = .ok task)
      ∧ (∀ fields,
          (∃ task, Document.task (.mapping fields) = .ok task) ↔ IsTaskDocument fields)
      ∧ (∀ fields task, Document.task (.mapping fields) = .ok task → Describes fields task)
      ∧ ∀ fields fields',
          List.Forall₂ SameField fields fields'
          → Document.task (.mapping fields') = Document.task (.mapping fields) :=
  ⟨fun _ _ => ofText_eq_ok_iff, fun _ => exists_task_iff, fun _ _ => describes_of_task,
    fun _ _ => task_eq_of_sameFields⟩

/-- The fields of a task that signs in. -/
def loginFields : Fields :=
  [(.string "name", .string "login"),
    (.string "prerequisites",
      .mapping [(.string "setupTasks", .sequence [.string "seed users"])]),
    (.string "variables", .sequence [.mapping [(.string "attempts", .number (.whole 3))]]),
    (.string "glossary", .sequence [.mapping [(.string "home", .string "/")]]),
    (.string "steps", .sequence [.mapping [(.string "Open", .sequence [.string "load [home]"])]])]

/-- The same fields with keys in other letters. -/
def shoutedFields : Fields :=
  [(.string "NAME", .string "login"),
    (.string "Prerequisites",
      .mapping [(.string "SetupTasks", .sequence [.string "seed users"])]),
    (.string "VARIABLES", .sequence [.mapping [(.string "attempts", .number (.whole 3))]]),
    (.string "Glossary", .sequence [.mapping [(.string "home", .string "/")]]),
    (.string "STEPS", .sequence [.mapping [(.string "Open", .sequence [.string "load [home]"])]])]

theorem sameFields_shouted : List.Forall₂ SameField loginFields shoutedFields := by
  have key {text text' : String}
      (letters : text'.toList.map Char.toLower = text.toList.map Char.toLower)
      : SameKey (.string text) (.string text') :=
    .recased (toLower_eq_iff.mpr letters)
  have within : Recased [(.string "setupTasks", .sequence [.string "seed users"])]
      [(.string "SetupTasks", .sequence [.string "seed users"])] :=
    .cons ⟨key (by decide), rfl⟩ .nil
  have named : Names "prerequisites" (.string "prerequisites") := ⟨_, rfl, rfl⟩
  exact .cons (.plain (key (by decide)) _)
    (.cons (.prerequisites (key (by decide)) named within)
      (.cons (.plain (key (by decide)) _)
        (.cons (.plain (key (by decide)) _) (.cons (.plain (key (by decide)) _) .nil))))

theorem isTaskDocument_login : IsTaskDocument loginFields where
  name := by
    have content : ContentAt loginFields "name" (some (.string "login")) :=
      field?_eq_iff.mp (by simp [loginFields, field?_cons, isKey_string])
    exact ⟨"login", _, content, .string rfl⟩
  description := by
    have content : ContentAt loginFields "description" none :=
      field?_eq_iff.mp (by simp [loginFields, field?_cons, isKey_string])
    exact ⟨none, .absent content⟩
  needs := by
    have content : ContentAt loginFields "prerequisites"
        (some (.mapping [(.string "setupTasks", .sequence [.string "seed users"])])) :=
      field?_eq_iff.mp (by simp [loginFields, field?_cons, isKey_string])
    have setups : ContentAt [(.string "setupTasks", .sequence [.string "seed users"])] "setupTasks"
        (some (.sequence [.string "seed users"])) :=
      field?_eq_iff.mp (by simp [field?_cons, isKey_string])
    have prerequisites : ContentAt [(.string "setupTasks", .sequence [.string "seed users"])]
        "executePrerequisites" none :=
      field?_eq_iff.mp (by simp [field?_cons, isKey_string])
    exact ⟨["seed users"], [],
      .given content rfl (.listed setups (.cons (.string rfl) .nil)) (.absent prerequisites)⟩
  settings := by
    have content : ContentAt loginFields "variables"
        (some (.sequence [.mapping [(.string "attempts", .number (.whole 3))]])) :=
      field?_eq_iff.mp (by simp [loginFields, field?_cons, isKey_string])
    have spells : Spells (.number (.whole 3)) (Yaml.Number.whole 3).text := .number rfl
    exact ⟨[("attempts", _)], .listed content rfl (.cons ⟨_, ⟨_, rfl, .string rfl⟩, spells⟩ .nil)⟩
  freezings := by
    have content : ContentAt loginFields "glossary"
        (some (.sequence [.mapping [(.string "home", .string "/")]])) :=
      field?_eq_iff.mp (by simp [loginFields, field?_cons, isKey_string])
    refine ⟨[("home", "/")], ?_, by decide⟩
    exact .listed content rfl (.cons ⟨_, ⟨_, rfl, .string rfl⟩, .string rfl⟩ .nil)
  steps := by
    have content : ContentAt loginFields "steps"
        (some (.sequence [.mapping [(.string "Open", .sequence [.string "load [home]"])]])) :=
      field?_eq_iff.mp (by simp [loginFields, field?_cons, isKey_string])
    exact ⟨[⟨"Open", ["load [home]"]⟩], _, _, content, rfl,
      .cons ⟨_, _, ⟨_, rfl, .string rfl⟩, rfl, .cons (.string rfl) .nil⟩ .nil⟩

/-- The task that signs in is read from its fields, in capital letters, too; without its steps it is
refused.
-/
theorem login_described
    : ∃ task,
        Document.task (.mapping loginFields) = .ok task
        ∧ Describes loginFields task
        ∧ Document.task (.mapping shoutedFields) = .ok task
        ∧ ¬ ∃ task, Document.task (.mapping (loginFields.take 4)) = .ok task := by
  obtain ⟨_, accepted, described, recased⟩ := task_grammar
  obtain ⟨task, read⟩ := (accepted loginFields).mpr isTaskDocument_login
  refine ⟨task, read, described _ _ read, (recased _ _ sameFields_shouted).trans read, ?_⟩
  intro read
  obtain ⟨_, _, _, content, _⟩ := ((accepted _).mp read).steps
  have absent : field? (loginFields.take 4) "steps" = none := by
    simp [loginFields, field?_cons, isKey_string]
  cases absent.symm.trans (field?_eq_iff.mpr content)

end Rehearsal.Document
