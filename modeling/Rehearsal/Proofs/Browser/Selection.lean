import Rehearsal.Proofs.Browser.Effect
import Rehearsal.Proofs.Dict

/-! The options of a select element. Where their values differ, an option that is selected or
cleared by its value is the only one to change, apart from those that an element for one option
clears; and nothing else of the element, the page or the session changes.
-/

namespace Rehearsal.Browser

-----------------------------------------------------------------------------------------
-- Selections of an element
-----------------------------------------------------------------------------------------

namespace Element

/-- The element with the options selected that are chosen, and no others. -/
def withSelection (element : Element) (chosen : Choice → Bool) : Element :=
  { element with
      choices := element.choices.map fun choice => { choice with selected := chosen choice } }

/-- No two options have the same value. -/
def HasDistinctValues (element : Element) : Prop :=
  (element.choices.map Choice.value).Nodup

instance (element : Element) : Decidable element.HasDistinctValues :=
  inferInstanceAs (Decidable (element.choices.map Choice.value).Nodup)

/-- Whether an option is selected in the end when options are selected one after another: as any of
them, or as the last of them if the element is for one option.
-/
def keeps (element : Element) (picked : List Choice) (choice : Choice) : Bool :=
  if element.multiple then picked.contains choice else picked.getLast? == some choice

variable {element : Element} {chosen other : Choice → Bool}

theorem withSelection_selected (element : Element)
    : element.withSelection Choice.selected = element := by
  have same : (element.choices.map fun choice => { choice with selected := choice.selected })
      = element.choices :=
    List.map_id' element.choices
  rw [Element.withSelection, same]

theorem withSelection_congr (same : ∀ choice ∈ element.choices, chosen choice = other choice)
    : element.withSelection chosen = element.withSelection other := by
  unfold withSelection
  congr 1
  exact List.map_congr_left fun choice member => by rw [same choice member]

theorem choiceAt?_withSelection (element : Element) (chosen : Choice → Bool) (value : String)
    : (element.withSelection chosen).choiceAt? value = element.choiceAt? value := by
  rw [choiceAt?, choiceAt?, Element.withSelection, List.findIdx?_map]
  rfl

/-- Where values differ, the place of an option's value is the place of the option. -/
theorem exists_place_of_mem {choices : List Choice} {wanted : Choice}
    (distinct : (choices.map Choice.value).Nodup) (member : wanted ∈ choices)
    : ∃ place,
        (choices.findIdx? fun choice => choice.value == wanted.value) = some place
        ∧ ∀ (view change : Choice → Choice),
            (choices.map view).modify place change
            = choices.map fun choice =>
                if choice = wanted then change (view choice) else view choice := by
  induction choices with
  | nil => simp at member
  | cons first rest ih =>
      obtain ⟨fresh, others⟩ := List.nodup_cons.mp distinct
      rcases List.mem_cons.mp member with rfl | later
      · refine ⟨0, by simp [List.findIdx?_cons], fun view change => ?_⟩
        have apart : ∀ choice ∈ rest, choice ≠ wanted := by
          rintro choice inside rfl
          exact fresh (List.mem_map_of_mem inside)
        simp only [List.map_cons, List.modify_zero_cons, ↓reduceIte, List.cons.injEq, true_and]
        exact List.map_congr_left fun choice inside => by rw [if_neg (apart choice inside)]
      · obtain ⟨place, found, changed⟩ := ih others later
        have apart : first.value ≠ wanted.value := fun same =>
          fresh (same ▸ List.mem_map_of_mem later)
        have different : first ≠ wanted := fun same => apart (congrArg Choice.value same)
        refine ⟨place + 1, by simp [List.findIdx?_cons, apart, found], fun view change => ?_⟩
        simp only [List.map_cons, List.modify_succ_cons, changed, if_neg different]

/-- An option that is selected by its value is selected, and in an element for one option the
others are not; one that is cleared is not selected, and the others are as they were.
-/
theorem setChoice_withSelection (distinct : element.HasDistinctValues) {wanted : Choice}
    (member : wanted ∈ element.choices) (chosen : Choice → Bool) (selected : Bool)
    : ∃ place,
        element.choiceAt? wanted.value = some place
        ∧ (element.withSelection chosen).setChoice place selected
          = element.withSelection fun choice =>
              if choice = wanted then selected
              else chosen choice && (!selected || element.multiple) := by
  obtain ⟨place, found, changed⟩ := exists_place_of_mem distinct member
  -- An element for one option clears them all before it selects one.
  have kept
      : (if selected && !element.multiple then
            (element.withSelection chosen).choices.map fun choice =>
              { choice with selected := false }
          else (element.withSelection chosen).choices)
        = element.choices.map fun choice =>
            { choice with selected := chosen choice && (!selected || element.multiple) } := by
    cases selected <;> cases element.multiple <;> simp [withSelection, Function.comp_def]
  have written
      : (element.withSelection chosen).setChoice place selected
        = { element with
            choices :=
              (element.choices.map fun choice =>
                { choice with selected := chosen choice && (!selected || element.multiple) }).modify
                  place fun choice => { choice with selected } } := by
    rw [← kept]
    rfl
  refine ⟨place, found, ?_⟩
  rw [written, changed, withSelection]
  congr 1
  refine List.map_congr_left fun choice _ => ?_
  split <;> rfl

/-- The first option with a value is still the first with it when it is selected. -/
theorem exists_selected_modify {choices : List Choice} {value : String} {place : Nat}
    (here : (choices.findIdx? fun choice => choice.value == value) = some place)
    : ∃ choice,
        (choices.modify place fun choice => { choice with selected := true }).find?
            (fun choice => choice.value == value)
          = some choice
        ∧ choice.selected = true := by
  induction choices generalizing place with
  | nil => simp at here
  | cons first rest ih =>
      rw [List.findIdx?_cons] at here
      split at here
      next same =>
        obtain rfl := Option.some.inj here
        exact ⟨{ first with selected := true }, by simp [same], rfl⟩
      next different =>
        obtain ⟨behind, later, rfl⟩ := Option.map_eq_some_iff.mp here
        obtain ⟨choice, found, selected⟩ := ih later
        exact ⟨choice, by simpa [List.find?_cons, different] using found, selected⟩

/-- An option that is selected by a value is the one that is found by it, whether or not values
differ.
-/
theorem exists_selected_setChoice {value : String} {place : Nat}
    (here : element.choiceAt? value = some place)
    : ∃ choice,
        (element.setChoice place true).choices.find? (fun choice => choice.value == value)
          = some choice
        ∧ choice.selected = true := by
  unfold setChoice
  refine exists_selected_modify ?_
  split
  · rw [List.findIdx?_map]
    exact here
  · exact here

/-- One more option has been selected. -/
theorem keeps_concat (element : Element) (picked : List Choice) (next : Choice)
    : (fun choice =>
        if choice = next then true
        else element.keeps picked choice && (!true || element.multiple))
      = element.keeps (picked ++ [next]) := by
  funext choice
  by_cases same : choice = next
  · cases multiple : element.multiple <;> simp [keeps, multiple, same]
  · cases multiple : element.multiple <;> simp [keeps, multiple, same, Ne.symm same]

end Element

-----------------------------------------------------------------------------------------
-- Sessions that differ in the selection of an element
-----------------------------------------------------------------------------------------

/-- Between two sessions the selection of one element changes, to the options that are chosen, and
nothing else that can be seen: not its other properties nor the values, texts and order of its
options, no other element, neither title nor alert, and not the address.
-/
structure Session.Reselects (before : Session) (key : String) (chosen : Choice → Bool)
    (after : Session)
    : Prop where
  select
    : after.page.elements.get? key
      = (before.page.elements.get? key).map fun element => element.withSelection chosen
  others
    : ∀ name, name ≠ key → after.page.elements.get? name = before.page.elements.get? name
  title : after.page.title = before.page.title
  alert : after.page.alert = before.page.alert
  url : after.url = before.url
  site : after.site = before.site
  closed : after.closed = before.closed

namespace Session

/-- The session in which the chosen options of an element are selected, after some more have been
written down as selected.
-/
def reselected (session : Session) (key : String) (chosen : Choice → Bool) (picked : List Choice)
    : Session :=
  { session with
      page := session.page.modify key fun element => element.withSelection chosen
      journal := session.journal ++ picked.map fun choice => .select key choice.value }

variable {session : Session} {key : String} {element : Element} {chosen other : Choice → Bool}
  {picked : List Choice}

theorem reselects_reselected (session : Session) (key : String) (chosen : Choice → Bool)
    (picked : List Choice)
    : session.Reselects key chosen (session.reselected key chosen picked) where
  select := by simp [reselected, Page.modify, Dict.get?_modify]
  others name different := by simp [reselected, Page.modify, Dict.get?_modify, different]
  title := rfl
  alert := rfl
  url := rfl
  site := rfl
  closed := rfl

/-- A session has the selections that it has. -/
theorem reselected_selected (session : Session) (key : String)
    : session.reselected key Choice.selected [] = session := by
  have same
      : session.page.elements.modify key (fun element => element) = session.page.elements := by
    simp [Dict.modify, Dict.mapValues_self]
  simp only [reselected, Page.modify, Element.withSelection_selected, same, List.map_nil,
    List.append_nil]

theorem reselected_congr (found : session.page.elements.get? key = some element)
    (same : ∀ choice ∈ element.choices, chosen choice = other choice)
    : session.reselected key chosen picked = session.reselected key other picked := by
  have elements
      : session.page.elements.modify key (fun element => element.withSelection chosen)
        = session.page.elements.modify key (fun element => element.withSelection other) :=
    Dict.modify_congr found (Element.withSelection_congr same)
  rw [reselected, reselected, Page.modify, Page.modify, elements]

theorem elementAt_reselected (isOpen : session.closed = false)
    (found : session.page.elements.get? key = some element) (chosen : Choice → Bool)
    (picked : List Choice)
    : (session.reselected key chosen picked).elementAt key
      = .ok (element.withSelection chosen) := by
  refine elementAt_eq_ok_iff.mpr ⟨isOpen, ?_⟩
  simp [reselected, Page.modify, Dict.get?_modify, found]

end Session

namespace Drive

variable {session : Session} {key : String} {element : Element}

/-- Selecting or clearing one of the options of an element, from whatever selection. -/
theorem outcome_setChoice_reselected (isOpen : session.closed = false)
    (found : session.page.elements.get? key = some element)
    (distinct : element.HasDistinctValues) {wanted : Choice}
    (member : wanted ∈ element.choices) (chosen : Choice → Bool) (picked : List Choice)
    (selected : Bool)
    : outcome (setChoice key wanted.value selected) (session.reselected key chosen picked)
      = (.ok (),
        session.reselected key
          (fun choice =>
            if choice = wanted then selected
            else chosen choice && (!selected || element.multiple))
          (if selected then picked ++ [wanted] else picked)) := by
  obtain ⟨place, here, changed⟩ :=
    element.setChoice_withSelection distinct member chosen selected
  have reached
      : (session.reselected key chosen picked).elementAt key
        = .ok (element.withSelection chosen) :=
    Session.elementAt_reselected isOpen found chosen picked
  have page
      : (session.page.modify key fun target => target.withSelection chosen).modify key
          (fun target => target.setChoice place selected)
        = session.page.modify key fun target =>
            target.withSelection fun choice =>
              if choice = wanted then selected
              else chosen choice && (!selected || element.multiple) := by
    simp only [Page.modify, Dict.modify_modify]
    rw [Dict.modify_congr found]
    exact changed
  rw [outcome_setChoice]
  cases selected with
  | false =>
      simp only [Bool.false_eq_true, ↓reduceIte, reached, Element.choiceAt?_withSelection, here]
      exact congrArg
        (fun page => (Except.ok (), { session.reselected key chosen picked with page })) page
  | true =>
      simp only [↓reduceIte, Session.elementAt_noting, reached, Element.choiceAt?_withSelection,
        here]
      simp only [Session.reselected, Session.noting, Session.withPage, page, List.map_append,
        List.map_cons, List.map_nil, List.append_assoc]

/-- After an option has been selected by a value, it is there and selected. -/
theorem exists_selected_of_setChoice {value : String} {after : Session} {answer : Unit}
    (ended : outcome (setChoice key value true) session = (.ok answer, after))
    : ∃ target choice,
        after.elementAt key = .ok target
        ∧ target.choices.find? (fun choice => choice.value == value) = some choice
        ∧ choice.selected = true := by
  rw [outcome_setChoice] at ended
  simp only [↓reduceIte, Session.elementAt_noting] at ended
  split at ended
  next => cases ended
  next target reached =>
    split at ended
    next => cases ended
    next place here =>
      obtain ⟨isOpen, found⟩ := Session.elementAt_eq_ok_iff.mp reached
      obtain ⟨choice, first, selected⟩ := Element.exists_selected_setChoice here
      refine ⟨target.setChoice place true, choice, ?_, first, selected⟩
      rw [← (Prod.mk.inj ended).2, Session.elementAt_eq_ok_iff]
      refine ⟨isOpen, ?_⟩
      simp [Session.withPage, Session.noting, Page.modify, Dict.get?_modify, found]

end Drive

end Rehearsal.Browser
