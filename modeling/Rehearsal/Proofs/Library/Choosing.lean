import Mathlib.Data.List.Nodup
import Rehearsal.Library
import Rehearsal.Proofs.Browser.Selection
import Rehearsal.Proofs.Library.Dispatch

/-! A list of items written for a select element, and what the directive that selects the listed
options leaves selected: whatever was selected before, it is what the items denote, as far as they
denote options.
-/

namespace Rehearsal.Library

open Browser Drive

-----------------------------------------------------------------------------------------
-- The element and the items that arguments give
-----------------------------------------------------------------------------------------

/-- In a session that is open, the arguments locate an element and list items for it. -/
structure Designates (args : Args) (session : Session) (key : String) (select : Element)
    (wanted : List String)
    : Prop where
  isOpen : session.closed = false
  listed : (args.get? "list").map listItems = some wanted
  located : (args.get? "elem").map (fun text => (Locator.ofText text).key) = some key
  found : session.page.elements.get? key = some select

/-- What works on a list of items and the options of an element, once it has looked both up. -/
def withChoices {α : Type} (args : Args)
    (next : List String → String → List Choice → Drive α)
    : Drive α := do
  let wanted ← items args
  let key ← element args
  let choices ← Drive.choices key
  next wanted key choices

section Lookups

variable {α : Type} {args : Args} {name text : String} {session after : Session} {key : String}
  {select : Element} {wanted : List String}
  {next : List String → String → List Choice → Drive α} {value : α}

theorem outcome_argument_eq_ok_iff
    : outcome (argument args name) session = (.ok text, after)
      ↔ args.get? name = some text ∧ after = session := by
  unfold argument
  cases args.get? name with
  | none => simp [outcome_fail]
  | some given => simp [outcome_pure, eq_comm]

theorem outcome_items_eq_ok_iff
    : outcome (items args) session = (.ok wanted, after)
      ↔ (args.get? "list").map listItems = some wanted ∧ after = session := by
  constructor
  · intro ended
    obtain ⟨list, _, read, rest⟩ := exists_of_outcome_bind ended
    obtain ⟨given, rfl⟩ := outcome_argument_eq_ok_iff.mp read
    obtain ⟨same, rfl⟩ := Prod.mk.inj rest
    exact ⟨by rw [given, Option.map_some, Except.ok.inj same], rfl⟩
  · rintro ⟨listed, rfl⟩
    obtain ⟨list, given, rfl⟩ := Option.map_eq_some_iff.mp listed
    exact outcome_bind_of_ok (outcome_argument_eq_ok_iff.mpr ⟨given, rfl⟩)

theorem outcome_element_eq_ok_iff
    : outcome (element args) session = (.ok key, after)
      ↔ (args.get? "elem").map (fun text => (Locator.ofText text).key) = some key
        ∧ (∃ select, session.elementAt key = .ok select)
        ∧ after = session := by
  constructor
  · intro ended
    obtain ⟨text, _, read, rest⟩ := exists_of_outcome_bind ended
    obtain ⟨given, rfl⟩ := outcome_argument_eq_ok_iff.mp read
    obtain ⟨same, reached, rfl⟩ := outcome_find_eq_ok_iff.mp rest
    exact ⟨by rw [given, Option.map_some, same], reached, rfl⟩
  · rintro ⟨located, ⟨select, reached⟩, rfl⟩
    obtain ⟨text, given, rfl⟩ := Option.map_eq_some_iff.mp located
    rw [element_eq_find given]
    exact outcome_find_eq_ok_iff.mpr ⟨rfl, ⟨select, reached⟩, rfl⟩

/-- What is designated is what is worked on. -/
theorem outcome_withChoices (designated : Designates args session key select wanted)
    : outcome (withChoices args next) session
      = outcome (next wanted key select.choices) session := by
  have reached : session.elementAt key = .ok select :=
    Session.elementAt_eq_ok_iff.mpr ⟨designated.isOpen, designated.found⟩
  have chosen : outcome (Drive.choices key) session = (.ok select.choices, session) := by
    rw [outcome_choices, reached]
    rfl
  rw [withChoices, outcome_bind_of_ok (outcome_items_eq_ok_iff.mpr ⟨designated.listed, rfl⟩),
    outcome_bind_of_ok (outcome_element_eq_ok_iff.mpr ⟨designated.located, ⟨select, reached⟩, rfl⟩),
    outcome_bind_of_ok chosen]

/-- Work that ends well has been on what is designated. -/
theorem exists_designates (ended : outcome (withChoices args next) session = (.ok value, after))
    : ∃ key select wanted, Designates args session key select wanted := by
  obtain ⟨wanted, _, read, rest⟩ := exists_of_outcome_bind ended
  obtain ⟨listed, rfl⟩ := outcome_items_eq_ok_iff.mp read
  obtain ⟨key, _, looked, _⟩ := exists_of_outcome_bind rest
  obtain ⟨located, ⟨select, reached⟩, rfl⟩ := outcome_element_eq_ok_iff.mp looked
  obtain ⟨isOpen, found⟩ := Session.elementAt_eq_ok_iff.mp reached
  exact ⟨key, select, wanted, isOpen, listed, located, found⟩

end Lookups

-----------------------------------------------------------------------------------------
-- The options that items denote
-----------------------------------------------------------------------------------------

/-- An item denotes the option with that value or, where no option has it for a value, the first
with that text.
-/
inductive Denotes (choices : List Choice) (item : String) (choice : Choice) : Prop
  | value (member : choice ∈ choices) (same : choice.value = item)
  | text {before behind} (split : choices = before ++ choice :: behind)
      (unvalued : ∀ other ∈ choices, other.value ≠ item) (same : choice.text = item)
      (first : ∀ other ∈ before, other.text ≠ item)

section Denoting

variable {choices picked : List Choice} {item : String} {items : List String} {choice : Choice}

theorem Denotes.mem (denotes : Denotes choices item choice) : choice ∈ choices := by
  cases denotes with
  | value member _ => exact member
  | text split _ _ _ => simp [split]

/-- Where values differ, the option that is looked up is the one that the item denotes. -/
theorem denoted?_eq_some_iff (distinct : (choices.map Choice.value).Nodup)
    : denoted? choices item = some choice ↔ Denotes choices item choice := by
  unfold denoted?
  cases valued : choices.find? fun choice => choice.value == item with
  | some found =>
      have member : found ∈ choices := List.mem_of_find?_eq_some valued
      have named : found.value = item := by simpa using List.find?_some valued
      rw [Option.some_or, Option.some.injEq]
      constructor
      · rintro rfl
        exact .value member named
      · intro denotes
        cases denotes with
        | value other same =>
            exact List.inj_on_of_nodup_map distinct member other (named.trans same.symm)
        | text _ unvalued _ _ => exact absurd named (unvalued found member)
  | none =>
      have unvalued : ∀ other ∈ choices, other.value ≠ item := by
        simpa using List.find?_eq_none.mp valued
      rw [Option.none_or, List.find?_eq_some_iff_append]
      constructor
      · rintro ⟨same, before, behind, split, first⟩
        exact .text split unvalued (by simpa using same) (by simpa using first)
      · intro denotes
        cases denotes with
        | value member same => exact absurd same (unvalued choice member)
        | text split _ same first =>
            exact ⟨by simpa using same, _, _, split, by simpa using first⟩

theorem denoted?_eq_none_iff (distinct : (choices.map Choice.value).Nodup)
    : denoted? choices item = none ↔ ¬∃ choice, Denotes choices item choice := by
  simp only [Option.eq_none_iff_forall_ne_some, ne_eq, denoted?_eq_some_iff distinct, not_exists]

/-- Either all items denote options, or there is a first one that does not, by induction on the
items.
-/
theorem all_denote_or_first_not (choices : List Choice) (items : List String)
    : (∃ picked, List.Forall₂ (Denotes choices) items picked)
      ∨ ∃ resolved item others picked,
          items = resolved ++ item :: others
          ∧ List.Forall₂ (Denotes choices) resolved picked
          ∧ ¬∃ choice, Denotes choices item choice := by
  induction items with
  | nil => exact .inl ⟨[], .nil⟩
  | cons item rest ih =>
      by_cases resolves : ∃ choice, Denotes choices item choice
      · obtain ⟨choice, denotes⟩ := resolves
        rcases ih with ⟨picked, denote⟩ | ⟨resolved, first, others, picked, rfl, denote, fails⟩
        · exact .inl ⟨choice :: picked, .cons denotes denote⟩
        · exact .inr ⟨item :: resolved, first, others, choice :: picked, rfl,
            .cons denotes denote, fails⟩
      · exact .inr ⟨[], item, rest, [], rfl, .nil, resolves⟩

/-- Items that all denote options have a list of the options that they denote. -/
theorem exists_denoted (resolve : ∀ item ∈ items, ∃ choice, Denotes choices item choice)
    : ∃ picked, List.Forall₂ (Denotes choices) items picked := by
  rcases all_denote_or_first_not choices items with
    denote | ⟨resolved, item, others, _, rfl, _, fails⟩
  · exact denote
  · exact absurd (resolve item (by simp)) fails

end Denoting

-----------------------------------------------------------------------------------------
-- Clearing, and selecting one item after another
-----------------------------------------------------------------------------------------

section Selecting

variable {args : Args} {session : Session} {key : String} {select : Element}
  {wanted : List String} {picked : List Choice}

/-- Clearing some options clears these and leaves the others as they are, by induction on those
that are still to be cleared.
-/
theorem outcome_clearChoices (isOpen : session.closed = false)
    (found : session.page.elements.get? key = some select) (distinct : select.HasDistinctValues)
    {cleared : List Choice} (inside : ∀ choice ∈ cleared, choice ∈ select.choices)
    (chosen : Choice → Bool) (picked : List Choice)
    : outcome (clearChoices key cleared) (session.reselected key chosen picked)
      = (.ok (),
        session.reselected key (fun choice => chosen choice && !cleared.contains choice)
          picked) := by
  induction cleared generalizing chosen with
  | nil => simp [clearChoices, outcome_pure]
  | cons first rest ih =>
      have set := outcome_setChoice_reselected isOpen found distinct
        (inside first List.mem_cons_self) chosen picked false
      rw [clearChoices, outcome_bind_of_ok set]
      refine (ih (fun choice later => inside choice (List.mem_cons_of_mem _ later)) _).trans ?_
      congr 2
      funext choice
      by_cases same : choice = first <;> simp [same]

/-- Where some items denote options, these are selected on the way to the items behind them, by
induction on the items, from what the items before have selected.
-/
theorem outcome_selectItems (args : Args) (isOpen : session.closed = false)
    (found : session.page.elements.get? key = some select) (distinct : select.HasDistinctValues)
    {resolved : List String} (rest : List String)
    (denote : List.Forall₂ (Denotes select.choices) resolved picked) (before : List Choice)
    : outcome (selectItems args key select.choices (resolved ++ rest))
        (session.reselected key (select.keeps before) before)
      = outcome (selectItems args key select.choices rest)
          (session.reselected key (select.keeps (before ++ picked)) (before ++ picked)) := by
  induction denote generalizing before with
  | nil => simp
  | @cons item choice items picked denotes _ ih =>
      have set := outcome_setChoice_reselected isOpen found distinct denotes.mem
        (select.keeps before) before true
      rw [select.keeps_concat] at set
      rw [List.cons_append, selectItems, (denoted?_eq_some_iff distinct).mpr denotes]
      simp only
      rw [outcome_bind_of_ok set]
      simpa using ih (before ++ [choice])

theorem selectMany_eq (args : Args)
    : selectMany args
      = withChoices args fun wanted key choices => do
          clearChoices key (choices.filter Choice.selected)
          selectItems args key choices wanted
          return none :=
  rfl

/-- The listed options are selected from a selection that is empty. -/
theorem outcome_selectMany (designated : Designates args session key select wanted)
    (distinct : select.HasDistinctValues)
    : outcome (selectMany args) session
      = outcome (selectItems args key select.choices wanted >>= fun _ => pure none)
          (session.reselected key (select.keeps []) []) := by
  have cleared
      : outcome (clearChoices key (select.choices.filter Choice.selected)) session
        = (.ok (), session.reselected key (select.keeps []) []) := by
    have inside : ∀ choice ∈ select.choices.filter Choice.selected, choice ∈ select.choices :=
      fun choice member => List.mem_of_mem_filter member
    have ended := outcome_clearChoices designated.isOpen designated.found distinct inside
      Choice.selected []
    rw [session.reselected_selected] at ended
    -- The options that were selected at first are the only ones that have to be cleared.
    refine ended.trans (congrArg _ (Session.reselected_congr designated.found ?_))
    intro choice member
    cases selected : choice.selected <;> simp [Element.keeps, member, selected]
  rw [selectMany_eq, outcome_withChoices designated, outcome_bind_of_ok cleared]

theorem outcome_selectMany_of_denote (designated : Designates args session key select wanted)
    (distinct : select.HasDistinctValues)
    (denote : List.Forall₂ (Denotes select.choices) wanted picked)
    : (selectMany args).on session
      = (.ok none, session.reselected key (select.keeps picked) picked) := by
  have selected := outcome_selectItems args designated.isOpen designated.found distinct []
    denote []
  rw [List.append_nil, List.nil_append, selectItems, outcome_pure] at selected
  exact (outcome_selectMany designated distinct).trans (outcome_bind_of_ok selected)

theorem outcome_selectMany_of_not {resolved others : List String} {item : String}
    (designated : Designates args session key select (resolved ++ item :: others))
    (distinct : select.HasDistinctValues)
    (denote : List.Forall₂ (Denotes select.choices) resolved picked)
    (fails : ¬∃ choice, Denotes select.choices item choice)
    : (selectMany args).on session
      = (.error (missingChoice args item),
        session.reselected key (select.keeps picked) picked) := by
  have selected := outcome_selectItems args designated.isOpen designated.found distinct
    (item :: others) denote []
  rw [List.nil_append, selectItems, (denoted?_eq_none_iff distinct).mpr fails] at selected
  exact (outcome_selectMany designated distinct).trans (outcome_bind_of_error selected)

/-- The directive that selects listed options, for an open session and a select element whose
options have different values. If all items denote options, it passes and these are selected, or
only the last of them in an element for one option. If one does not, the directive fails for the
first of these, and selected are the options that the items before it denote. Nothing else changes.
-/
theorem selectMany_selects (designated : Designates args session key select wanted)
    (distinct : select.HasDistinctValues)
    : ((∀ item ∈ wanted, ∃ choice, Denotes select.choices item choice)
        → ∃ picked after,
            List.Forall₂ (Denotes select.choices) wanted picked
            ∧ (selectMany args).on session = (.ok none, after)
            ∧ session.Reselects key (select.keeps picked) after)
      ∧ (∀ resolved item others,
          wanted = resolved ++ item :: others
          → (∀ item ∈ resolved, ∃ choice, Denotes select.choices item choice)
          → (¬∃ choice, Denotes select.choices item choice)
          → ∃ picked after,
              List.Forall₂ (Denotes select.choices) resolved picked
              ∧ (selectMany args).on session
                = (.error (.elementNotFound ("option '" ++ item ++ "' in " ++ elementText args)),
                  after)
              ∧ session.Reselects key (select.keeps picked) after)
      ∧ ∃ chosen, session.Reselects key chosen ((selectMany args).on session).2 := by
  refine ⟨?passes, ?fails, ?rest⟩
  case passes =>
    intro resolve
    obtain ⟨picked, denote⟩ := exists_denoted resolve
    exact ⟨picked, _, denote, outcome_selectMany_of_denote designated distinct denote,
      session.reselects_reselected key _ picked⟩
  case fails =>
    rintro resolved item others rfl resolve fails
    obtain ⟨picked, denote⟩ := exists_denoted resolve
    exact ⟨picked, _, denote, outcome_selectMany_of_not designated distinct denote fails,
      session.reselects_reselected key _ picked⟩
  case rest =>
    rcases all_denote_or_first_not select.choices wanted with
      ⟨picked, denote⟩ | ⟨resolved, item, others, picked, rfl, denote, fails⟩
    · rw [outcome_selectMany_of_denote designated distinct denote]
      exact ⟨_, session.reselects_reselected key _ picked⟩
    · rw [outcome_selectMany_of_not designated distinct denote fails]
      exact ⟨_, session.reselects_reselected key _ picked⟩

end Selecting

/-- A select element for any number of toppings, one of them selected. -/
def toppings : Element :=
  .multiSelect [⟨"cheese", "Cheese", true⟩, ⟨"ham", "Ham", false⟩, ⟨"olives", "Olives", false⟩]

/-- A session that shows the toppings. -/
def toppingsShown : Session :=
  { site := ∅, page := (∅ : Page).withElement "#toppings" toppings }

/-- The arguments of a directive about a list of toppings. -/
def toppingsArgs (list : String) : Args :=
  ((∅ : Args).insert "elem" "#toppings").insert "list" list

/-- Two toppings are selected in place of another, one by its text and one by its value, before a
third turns out to be missing.
-/
theorem toppings_selected
    : Designates (toppingsArgs "Olives, ham, bacon") toppingsShown "#toppings" toppings
        ["Olives", "ham", "bacon"]
      ∧ toppings.HasDistinctValues
      ∧ ∃ picked after,
          List.Forall₂ (Denotes toppings.choices) ["Olives", "ham"] picked
          ∧ (selectMany (toppingsArgs "Olives, ham, bacon")).on toppingsShown
            = (.error (.elementNotFound "option 'bacon' in #toppings"), after)
          ∧ toppingsShown.Reselects "#toppings" (toppings.keeps picked) after := by
  have designated
      : Designates (toppingsArgs "Olives, ham, bacon") toppingsShown "#toppings" toppings
          ["Olives", "ham", "bacon"] :=
    ⟨by decide, by decide, by decide, by decide⟩
  have distinct : toppings.HasDistinctValues := by decide
  have denoted
      : ∀ item ∈ ["Olives", "ham"], ∃ choice, Denotes toppings.choices item choice := by
    intro item member
    rcases List.mem_pair.mp member with rfl | rfl
    · exact ⟨⟨"olives", "Olives", false⟩, (denoted?_eq_some_iff distinct).mp (by decide)⟩
    · exact ⟨⟨"ham", "Ham", false⟩, (denoted?_eq_some_iff distinct).mp (by decide)⟩
  have missing : ¬∃ choice, Denotes toppings.choices "bacon" choice :=
    (denoted?_eq_none_iff distinct).mp (by decide)
  exact ⟨designated, distinct,
    (selectMany_selects designated distinct).2.1 _ _ _ rfl denoted missing⟩

end Rehearsal.Library
