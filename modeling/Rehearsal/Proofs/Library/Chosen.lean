import Rehearsal.Proofs.Library.Choosing

/-! The checks of a selection. The check of listed options asks of every option whether it is
selected exactly if an item names it, by value or by text. So it notices no item that names none of
them, and it can object to an option that was left alone when the same items were selected, since an
item that is the value of one option denotes only that one.
-/

namespace Rehearsal.Library

open Browser Drive

/-- An item names an option by its value or by its text. -/
def Names (item : String) (choice : Choice) : Prop :=
  choice.value = item ∨ choice.text = item

instance (item : String) (choice : Choice) : Decidable (Names item choice) :=
  inferInstanceAs (Decidable (_ ∨ _))

theorem Denotes.names {choices : List Choice} {item : String} {choice : Choice}
    (denotes : Denotes choices item choice)
    : Names item choice := by
  cases denotes with
  | value _ same => exact .inl same
  | text _ _ same _ => exact .inr same

variable {args : Args} {session after : Session} {key : String} {select : Element}
  {wanted : List String} {choices picked : List Choice}

-----------------------------------------------------------------------------------------
-- When a check of listed options passes
-----------------------------------------------------------------------------------------

/-- There is no complaint exactly if the options that are selected are those that are named. -/
theorem misselection?_eq_none_iff
    : misselection? wanted choices = none
      ↔ ∀ choice ∈ choices, choice.selected = true ↔ ∃ item ∈ wanted, Names item choice := by
  induction choices with
  | nil => simp [misselection?]
  | cons choice rest ih =>
      have listed
          : (wanted.any fun item => choice.value == item || choice.text == item) = true
            ↔ ∃ item ∈ wanted, Names item choice := by
        simp [Names]
      rw [List.forall_mem_cons, ← ih, ← listed, misselection?]
      cases wanted.any fun item => choice.value == item || choice.text == item <;>
        cases choice.selected <;> simp

theorem expectChoicesSelected_eq (args : Args)
    : expectChoicesSelected args
      = withChoices args fun wanted _ choices =>
          match misselection? wanted choices with
          | none => return none
          | some complaint => fail (.assertion complaint) :=
  rfl

theorem passes_iff_of_designates (designated : Designates args session key select wanted)
    : (expectChoicesSelected args).on session = (.ok none, session)
      ↔ ∀ choice ∈ select.choices,
          choice.selected = true ↔ ∃ item ∈ wanted, Names item choice := by
  change outcome (expectChoicesSelected args) session = _ ↔ _
  rw [expectChoicesSelected_eq, outcome_withChoices designated, ← misselection?_eq_none_iff]
  cases misselection? wanted select.choices with
  | none => simp [outcome_pure]
  | some complaint => simp [outcome_fail]

/-- The check of listed options passes exactly if every option that is selected is named by an item
and every option that an item names is selected. An item that names no option makes no difference.
-/
theorem expectChoicesSelected_passes_iff (args : Args) (session : Session)
    : (expectChoicesSelected args).on session = (.ok none, session)
      ↔ ∃ key select wanted,
          Designates args session key select wanted
          ∧ (∀ choice ∈ select.choices,
              choice.selected = true → ∃ item ∈ wanted, Names item choice)
          ∧ ∀ item ∈ wanted,
              (∀ choice ∈ select.choices, ¬Names item choice)
              ∨ ((∃ choice ∈ select.choices, choice.selected = true ∧ Names item choice)
                ∧ ∀ choice ∈ select.choices, Names item choice → choice.selected = true) := by
  constructor
  · intro passes
    obtain ⟨key, select, wanted, designated⟩ :=
      exists_designates (expectChoicesSelected_eq args ▸ passes)
    have exactly := (passes_iff_of_designates designated).mp passes
    refine ⟨key, select, wanted, designated, fun choice inside => (exactly choice inside).mp, ?_⟩
    intro item listed
    have selected : ∀ choice ∈ select.choices, Names item choice → choice.selected = true :=
      fun choice inside names => (exactly choice inside).mpr ⟨item, listed, names⟩
    by_cases names : ∃ choice ∈ select.choices, Names item choice
    · obtain ⟨choice, inside, names⟩ := names
      exact .inr ⟨⟨choice, inside, selected choice inside names, names⟩, selected⟩
    · exact .inl fun choice inside named => names ⟨choice, inside, named⟩
  · rintro ⟨key, select, wanted, designated, named, selected⟩
    refine (passes_iff_of_designates designated).mpr fun choice inside => ⟨named choice inside, ?_⟩
    rintro ⟨item, listed, names⟩
    rcases selected item listed with unnamed | ⟨_, all⟩
    · exact absurd names (unnamed choice inside)
    · exact all choice inside names

/-- With the first topping selected, a list of it and of one that is not for choice passes. -/
theorem bacon_unnoticed
    : (expectChoicesSelected (toppingsArgs "cheese, bacon")).on toppingsShown
        = (.ok none, toppingsShown)
      ∧ listItems "cheese, bacon" = ["cheese", "bacon"]
      ∧ ∀ choice ∈ toppings.choices, ¬Names "bacon" choice :=
  ⟨by decide, by decide, by decide⟩

-----------------------------------------------------------------------------------------
-- The checks after the selections
-----------------------------------------------------------------------------------------

/-- What has been selected for a list is what its items denote. -/
theorem keeps_iff_denotes (distinct : select.HasDistinctValues) (multiple : select.multiple = true)
    (denote : List.Forall₂ (Denotes select.choices) wanted picked) (choice : Choice)
    : select.keeps picked choice = true ↔ ∃ item ∈ wanted, Denotes select.choices item choice := by
  rw [Element.keeps, if_pos multiple, List.contains_iff_mem]
  induction denote with
  | nil => simp
  | @cons item first items rest denotes _ ih =>
      have unique : choice = first ↔ Denotes select.choices item choice := by
        rw [← denoted?_eq_some_iff distinct, (denoted?_eq_some_iff distinct).mpr denotes,
          Option.some.injEq, eq_comm]
      simp [ih, unique]

/-- Where the selection of listed options succeeds, they all denote options. -/
theorem exists_denoted_of_selectMany (designated : Designates args session key select wanted)
    (distinct : select.HasDistinctValues) {answer : Option Bool}
    (ended : (selectMany args).on session = (.ok answer, after))
    : ∃ picked,
        List.Forall₂ (Denotes select.choices) wanted picked
        ∧ after = session.reselected key (select.keeps picked) picked := by
  rcases all_denote_or_first_not select.choices wanted with
    ⟨picked, denote⟩ | ⟨resolved, item, others, picked, rfl, denote, fails⟩
  · rw [outcome_selectMany_of_denote designated distinct denote] at ended
    exact ⟨picked, denote, (Prod.mk.inj ended).2.symm⟩
  · rw [outcome_selectMany_of_not designated distinct denote fails] at ended
    cases ended

/-- The option that has been selected by a value passes the check by that value. -/
theorem passes_after_selectOne {answer : Option Bool}
    (ended : (selectOne args).on session = (.ok answer, after))
    : (expectChoiceSelected args).on after = (.ok none, after) := by
  obtain ⟨key, _, looked, behind⟩ := exists_of_outcome_bind ended
  obtain ⟨located, _, rfl⟩ := outcome_element_eq_ok_iff.mp looked
  obtain ⟨value, _, read, last⟩ := exists_of_outcome_bind behind
  obtain ⟨given, rfl⟩ := outcome_argument_eq_ok_iff.mp read
  obtain ⟨_, middle, set, done⟩ := exists_of_outcome_bind last
  obtain rfl : middle = after := (Prod.mk.inj done).2
  obtain ⟨target, choice, reached, first, selected⟩ := exists_selected_of_setChoice set
  have seen : outcome (Drive.choices key) middle = (.ok target.choices, middle) := by
    rw [outcome_choices, reached]
    rfl
  change outcome (expectChoiceSelected args) middle = _
  rw [expectChoiceSelected, outcome_bind_of_ok (outcome_argument_eq_ok_iff.mpr ⟨given, rfl⟩),
    outcome_bind_of_ok (outcome_element_eq_ok_iff.mpr ⟨located, ⟨target, reached⟩, rfl⟩),
    outcome_bind_of_ok seen, first]
  simp only [selected, expect, ↓reduceIte, outcome_pure]

/-- The selections and the checks that follow them. A check of the same list after a selection for
any number of options passes exactly if an option that an item names, by value or by text, is one
that an item of the list denotes. A check by the same value always passes.
-/
theorem checks_after_selections
    : (∀ {args session key select wanted answer after},
          Designates args session key select wanted
          → select.multiple = true
          → select.HasDistinctValues
          → (selectMany args).on session = (.ok answer, after)
          → ((expectChoicesSelected args).on after = (.ok none, after)
            ↔ ∀ choice ∈ select.choices,
                (∃ item ∈ wanted, Names item choice)
                → ∃ item ∈ wanted, Denotes select.choices item choice))
      ∧ ∀ {args session answer after},
          (selectOne args).on session = (.ok answer, after)
          → (expectChoiceSelected args).on after = (.ok none, after) := by
  refine ⟨?many, passes_after_selectOne⟩
  intro args session key select wanted answer after designated multiple distinct ended
  obtain ⟨picked, denote, rfl⟩ := exists_denoted_of_selectMany designated distinct ended
  have kept := keeps_iff_denotes distinct multiple denote
  have again
      : Designates args (session.reselected key (select.keeps picked) picked) key
          (select.withSelection (select.keeps picked)) wanted := by
    have reached := Session.elementAt_reselected designated.isOpen designated.found
      (select.keeps picked) picked
    obtain ⟨isOpen, found⟩ := Session.elementAt_eq_ok_iff.mp reached
    exact ⟨isOpen, designated.listed, designated.located, found⟩
  rw [passes_iff_of_designates again]
  simp only [Element.withSelection, List.forall_mem_map, kept]
  refine forall₂_congr fun choice _ => ⟨Iff.mpr, fun denoted => ⟨?_, denoted⟩⟩
  rintro ⟨item, listed, denotes⟩
  exact ⟨item, listed, denotes.names⟩

/-- A select element for any number of colors, one of which shows the value of another. -/
def colors : Element :=
  .multiSelect [⟨"green", "lime", false⟩, ⟨"lime", "yellow", false⟩]

/-- A session that shows the colors. -/
def colorsShown : Session :=
  { site := ∅, page := (∅ : Page).withElement "#color" colors }

/-- The arguments of a directive about a list of colors, or about one. -/
def colorArgs (text : String) : Args :=
  (((∅ : Args).insert "elem" "#color").insert "list" text).insert "value" text

/-- Lime is selected by its value, after which the check objects to green, which shows that text. -/
theorem lime_told_apart
    : Designates (colorArgs "lime") colorsShown "#color" colors ["lime"]
      ∧ colors.multiple = true
      ∧ colors.HasDistinctValues
      ∧ ((selectMany (colorArgs "lime")).on colorsShown).1 = .ok none
      ∧ ((expectChoicesSelected (colorArgs "lime")).on
            ((selectMany (colorArgs "lime")).on colorsShown).2).1
          = .error (.assertion "Option 'green' was not selected.") :=
  ⟨⟨by decide, by decide, by decide, by decide⟩, by decide, by decide, by decide, by decide⟩

/-- Green passes the checks after it has been selected, in a list and alone. -/
theorem green_checked
    : (expectChoicesSelected (colorArgs "green")).on
          ((selectMany (colorArgs "green")).on colorsShown).2
        = (.ok none, ((selectMany (colorArgs "green")).on colorsShown).2)
      ∧ (expectChoiceSelected (colorArgs "green")).on
          ((selectOne (colorArgs "green")).on colorsShown).2
        = (.ok none, ((selectOne (colorArgs "green")).on colorsShown).2) := by
  have designated : Designates (colorArgs "green") colorsShown "#color" colors ["green"] :=
    ⟨by decide, by decide, by decide, by decide⟩
  have listed
      : (selectMany (colorArgs "green")).on colorsShown
        = (.ok none, ((selectMany (colorArgs "green")).on colorsShown).2) := by
    decide
  have alone
      : (selectOne (colorArgs "green")).on colorsShown
        = (.ok none, ((selectOne (colorArgs "green")).on colorsShown).2) := by
    decide
  have unshown : ∀ choice ∈ colors.choices, choice.text ≠ "green" := by decide
  refine ⟨?_, checks_after_selections.2 alone⟩
  refine (checks_after_selections.1 designated (by decide) (by decide) listed).mpr ?_
  rintro choice inside ⟨item, once, names⟩
  obtain rfl := List.mem_singleton.mp once
  rcases names with same | same
  · exact ⟨"green", once, .value inside same⟩
  · exact absurd same (unshown choice inside)

end Rehearsal.Library
