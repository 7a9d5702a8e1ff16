import Rehearsal.Proofs.Document.Task

/-! The frame of a task or a plan, as its document fills it. What stands in the glossary is frozen,
wherever the glossary stands and whatever else is said of the same names, and only a name that
stands twice in the glossary keeps a document from being read.
-/

namespace Rehearsal.Document

variable {fields : Fields} {settings freezings : List (String × String)}

/-- The frame of a task is that of its fields. -/
theorem variablesOf_of_task {task : Task} (read : Document.task (.mapping fields) = .ok task)
    : variablesOf fields = .ok task.frame := by
  obtain ⟨_, _, _, filled, _⟩ := task_eq_ok_iff.mp read
  exact filled

/-- So is the frame of a plan. -/
theorem variablesOf_of_plan {plan : Plan} (read : Document.plan (.mapping fields) = .ok plan)
    : variablesOf fields = .ok plan.frame := by
  unfold Document.plan at read
  rw [fields?_mapping] at read
  obtain ⟨name, _, read⟩ := bind_eq_ok_iff.mp read
  obtain ⟨environment, _, read⟩ := bind_eq_ok_iff.mp read
  split at read
  · cases read
  · obtain ⟨tasks, _, read⟩ := bind_eq_ok_iff.mp read
    obtain ⟨frame, filled, same⟩ := bind_eq_ok_iff.mp read
    cases same
    exact inPlace_eq_ok_iff.mp filled

/-- The frame of some fields is filled from what stands in their two lists. -/
theorem variablesOf_eq_ok_iff_of_bindings (set : BindingsAt fields "variables" settings)
    (frozen : BindingsAt fields "glossary" freezings) {frame : Variables}
    : variablesOf fields = .ok frame ↔ Variables.ofLists settings freezings = .ok frame := by
  rw [variablesOf_eq_ok_iff]
  constructor
  · rintro ⟨settings', freezings', set', frozen', filled⟩
    cases (bindings_eq_ok_iff.mpr set).symm.trans (bindings_eq_ok_iff.mpr set')
    cases (bindings_eq_ok_iff.mpr frozen).symm.trans (bindings_eq_ok_iff.mpr frozen')
    exact filled
  · intro filled
    exact ⟨settings, freezings, set, frozen, filled⟩

/-- Where the variables and the glossary of some fields are well formed, no frame is read from them
exactly if a name stands twice in the glossary. Otherwise the frame holds just the names of both,
those of the glossary frozen at their texts there, and the others rebindable with their last texts.
The frame of a task or a plan with these fields is such a frame.
-/
theorem frame_stores_bindings (set : BindingsAt fields "variables" settings)
    (frozen : BindingsAt fields "glossary" freezings)
    : ((∃ fault, variablesOf fields = .error fault) ↔ ¬ (freezings.map Prod.fst).Nodup)
      ∧ ((freezings.map Prod.fst).Nodup
        → ∃ frame, variablesOf fields = .ok frame ∧ frame.Stores settings freezings)
      ∧ (∀ task,
          Document.task (.mapping fields) = .ok task
          → (freezings.map Prod.fst).Nodup ∧ task.frame.Stores settings freezings)
      ∧ ∀ plan,
          Document.plan (.mapping fields) = .ok plan
          → (freezings.map Prod.fst).Nodup ∧ plan.frame.Stores settings freezings := by
  have filled {frame : Variables}
      : variablesOf fields = .ok frame ↔ Variables.ofLists settings freezings = .ok frame :=
    variablesOf_eq_ok_iff_of_bindings set frozen
  have distinct {frame : Variables} (read : variablesOf fields = .ok frame)
      : (freezings.map Prod.fst).Nodup ∧ frame.Stores settings freezings :=
    ⟨(Variables.ofLists_eq_ok_iff.mp (filled.mp read)).1,
      Variables.stores_of_ofLists (filled.mp read)⟩
  have accepted (once : (freezings.map Prod.fst).Nodup)
      : ∃ frame, variablesOf fields = .ok frame ∧ frame.Stores settings freezings := by
    have read : variablesOf fields = .ok _ :=
      filled.mpr (Variables.ofLists_eq_ok_iff.mpr ⟨once, rfl⟩)
    exact ⟨_, read, (distinct read).2⟩
  refine ⟨⟨?_, ?_⟩, accepted, fun task read => distinct (variablesOf_of_task read),
    fun plan read => distinct (variablesOf_of_plan read)⟩
  · rintro ⟨fault, refused⟩ once
    obtain ⟨frame, read, _⟩ := accepted once
    cases refused.symm.trans read
  · intro twice
    cases ended : variablesOf fields with
    | ok frame => exact absurd (distinct ended).1 twice
    | error fault => exact ⟨fault, rfl⟩

/-- Entries for a site and for a name that stands there twice, as a text and as a truth value. -/
def siteEntries : List Yaml.Value :=
  [.mapping [(.string "site", .string "a")], .mapping [(.string "true", .string "yes")],
    .mapping [(.bool true, .string "on")]]

/-- The entries as variables, behind a glossary with another site. -/
def siteFields : Fields :=
  [(.string "glossary", .sequence [.mapping [(.string "site", .string "b")]]),
    (.string "variables", .sequence siteEntries)]

theorem isBinding_siteEntries
    : List.Forall₂ IsBinding siteEntries [("site", "a"), ("true", "yes"), ("true", "on")] := by
  have spells : Spells (.bool true) (toString true) := .truth rfl
  exact .cons ⟨_, ⟨_, rfl, .string rfl⟩, .string rfl⟩
    (.cons ⟨_, ⟨_, rfl, .string rfl⟩, .string rfl⟩
      (.cons ⟨_, ⟨_, rfl, spells⟩, .string rfl⟩ .nil))

/-- The site keeps its frozen text, and the other name has its last one. The same entries are
refused as a glossary.
-/
theorem site_frozen
    : (∃ frame,
        variablesOf siteFields = .ok frame
        ∧ frame.isFrozen "site" = true
        ∧ frame.get? "site" = some "b"
        ∧ frame.isFrozen "true" = false
        ∧ frame.get? "true" = some "on")
      ∧ ∃ fault, variablesOf [(.string "glossary", .sequence siteEntries)] = .error fault := by
  have settings : ContentAt siteFields "variables" (some (.sequence siteEntries)) :=
    field?_eq_iff.mp (by simp [siteFields, field?_cons, isKey_string])
  have glossary : ContentAt siteFields "glossary"
      (some (.sequence [.mapping [(.string "site", .string "b")]])) :=
    field?_eq_iff.mp (by simp [siteFields, field?_cons, isKey_string])
  have absent : ContentAt [(.string "glossary", .sequence siteEntries)] "variables" none :=
    field?_eq_iff.mp (by simp [field?_cons, isKey_string])
  have doubled : ContentAt [(.string "glossary", .sequence siteEntries)] "glossary"
      (some (.sequence siteEntries)) :=
    field?_eq_iff.mp (by simp [field?_cons, isKey_string])
  have once : List.Forall₂ IsBinding [.mapping [(.string "site", .string "b")]] [("site", "b")] :=
    .cons ⟨_, ⟨_, rfl, .string rfl⟩, .string rfl⟩ .nil
  obtain ⟨_, accepted, _⟩ :=
    frame_stores_bindings (.listed settings rfl isBinding_siteEntries) (.listed glossary rfl once)
  obtain ⟨refused, _⟩ :=
    frame_stores_bindings (.absent absent) (.listed doubled rfl isBinding_siteEntries)
  obtain ⟨frame, read, stores⟩ := accepted (by decide)
  obtain ⟨site, siteText⟩ := stores.frozen (.head [])
  have last : [("site", "a"), ("true", "yes"), ("true", "on")]
      = [("site", "a"), ("true", "yes")] ++ ("true", "on") :: [] :=
    rfl
  obtain ⟨other, otherText⟩ := stores.free last (by decide) (by decide)
  exact ⟨⟨frame, read, site, siteText, other, otherText⟩, refused.mpr (by decide)⟩

end Rehearsal.Document
