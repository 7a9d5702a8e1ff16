import Rehearsal.Proofs.Browser.Exclusion
import Rehearsal.Proofs.Library.Choosing

/-! The actions that select an element or clear its selection. They click it unless it is as wanted,
and they do not look again. So they bring the wanted state about where a click does: a radio button
can be selected but not cleared, any other checkable element can be both, and an element that is
neither stays as it is. An element that leads elsewhere takes the page away.
-/

namespace Rehearsal

namespace Browser

open Drive

-----------------------------------------------------------------------------------------
-- The selection of a clicked element
-----------------------------------------------------------------------------------------

namespace Element

/-- The selection of an element after a click that does not lead elsewhere. -/
def selectedByClick (element : Element) : Bool :=
  if element.radioGroup?.isSome then true
  else if element.checkable then !element.selected
  else element.selected

/-- A click gives an element a state of selection that it did not have: a radio button or a
checkable element is selected by it, and only a checkable element that is no radio button is
cleared.
-/
def TurnsTo (element : Element) : Bool → Prop
  | true => element.checkable = true ∨ element.radioGroup? ≠ none
  | false => element.checkable = true ∧ element.radioGroup? = none

variable {element : Element} {wanted : Bool}

theorem selectedByClick_eq_iff (different : element.selected ≠ wanted)
    : element.selectedByClick = wanted ↔ element.TurnsTo wanted := by
  unfold selectedByClick
  cases kind : element.radioGroup? <;> cases checkable : element.checkable <;> cases wanted <;>
    simp_all [TurnsTo]

/-- Unless it is a radio button, an element whose selection a click does not change is not
checkable.
-/
theorem toggle_eq_self (plain : element.radioGroup? = none)
    (same : element.selectedByClick = element.selected)
    : element.toggle = element := by
  unfold selectedByClick at same
  unfold toggle
  cases checkable : element.checkable with
  | false => rfl
  | true => simp [plain, checkable] at same

end Element

namespace Page

variable {page : Page} {key : String} {clicked : Element}

theorem get?_click_self (found : page.elements.get? key = some clicked)
    : (page.click key clicked).elements.get? key
      = some { clicked with selected := clicked.selectedByClick } := by
  unfold Element.selectedByClick
  cases kind : clicked.radioGroup? with
  | some group =>
      rw [get?_click_of_radio found kind, found]
      simp [kind]
  | none =>
      rw [get?_click_of_plain kind, found, Option.map_some, if_pos rfl, Element.toggle]
      by_cases checkable : clicked.checkable = true
      · simp only [if_pos checkable]
        rfl
      · simp only [if_neg checkable]
        rfl

/-- A click on a radio button makes the same of every element, however often it is made. -/
theorem click_click_of_radio {group : String} (found : page.elements.get? key = some clicked)
    (radio : clicked.radioGroup? = some group)
    : (page.click key clicked).click key clicked = page.click key clicked := by
  simp only [click, radio, chooseRadio, modify, Dict.modify, Dict.mapValues_mapValues]
  congr 1
  refine Dict.mapValues_congr fun name element here => ?_
  by_cases same : name = key
  · subst same
    obtain rfl : element = clicked := Option.some.inj (here.symm.trans found)
    simp [radioGroup?_toggle, radioGroup?_select, radio, selected_toggle]
  · by_cases member : element.radioGroup? = some group
    · simp [same, member, radioGroup?_select]
    · simp [same, member]

/-- A click that does not change the selection of the element leaves a page that another such click
does not change.
-/
theorem click_click (found : page.elements.get? key = some clicked)
    (same : clicked.selectedByClick = clicked.selected)
    : (page.click key clicked).click key clicked = page.click key clicked := by
  cases kind : clicked.radioGroup? with
  | some group => exact click_click_of_radio found kind
  | none =>
      have still : page.elements.modify key Element.toggle = page.elements := by
        have toggled : clicked.toggle = id clicked := Element.toggle_eq_self kind same
        rw [Dict.modify_congr found toggled, Dict.modify]
        simp [Dict.mapValues_self]
      simp [click, kind, modify, still]

end Page

/-- The element under a key is on the page of an open session and has a state of selection. -/
def Session.Shows (session : Session) (key : String) (selected : Bool) : Prop :=
  ∃ element, session.elementAt key = .ok element ∧ element.selected = selected

theorem Session.shows_iff {session : Session} {key : String} {selected : Bool}
    : session.Shows key selected
      ↔ (session.elementAt key).map Element.selected = .ok selected := by
  unfold Shows
  cases session.elementAt key <;> simp [Except.map]

instance (session : Session) (key : String) (selected : Bool)
    : Decidable (session.Shows key selected) :=
  decidable_of_iff _ Session.shows_iff.symm

theorem Drive.outcome_isSelected (key : String) (session : Session)
    : outcome (isSelected key) session
      = ((session.elementAt key).map Element.selected, session) := by
  unfold isSelected
  rw [outcome_bind, outcome_element]
  cases session.elementAt key <;> rfl

end Browser

namespace Library

open Browser Drive

-----------------------------------------------------------------------------------------
-- What the actions do
-----------------------------------------------------------------------------------------

/-- In a session that is open, the arguments locate an element. -/
structure Locates (args : Args) (session : Session) (key : String) (target : Element) : Prop where
  isOpen : session.closed = false
  located : (args.get? "elem").map (fun text => (Locator.ofText text).key) = some key
  found : session.page.elements.get? key = some target

/-- What becomes of a session when the selection of an element is set by a handler. An element that
is as wanted or leads nowhere stays on the page, and it has the wanted state if it had it or a click
gives it that; to do it again passes and does not change the page. One that leads elsewhere is
followed. Wherever the wanted state has come about, to do it again changes nothing.
-/
structure Settles (handler : Handler) (wanted : Bool) (args : Args) (key : String)
    (target : Element) (before after : Session)
    : Prop where
  shows
    : target.selected = wanted ∨ target.target? = none
      → (after.Shows key wanted ↔ target.selected = wanted ∨ target.TurnsTo wanted)
        ∧ ∃ selected, after.Shows key selected
  repeats
    : target.selected = wanted ∨ target.target? = none
      → ∃ again,
          (handler args).on after = (.ok none, again)
          ∧ again.page = after.page
          ∧ again.url = after.url
  follows
    : ∀ {url},
        target.selected ≠ wanted
        → target.target? = some url
        → after = (before.noting (.click key)).showing url
  rests : after.Shows key wanted → (handler args).on after = (.ok none, after)

section Setting

variable {args : Args} {session after : Session} {key : String} {target : Element} {wanted : Bool}

theorem Locates.elementAt (locates : Locates args session key target)
    : session.elementAt key = .ok target :=
  Session.elementAt_eq_ok_iff.mpr ⟨locates.isOpen, locates.found⟩

/-- Only the element that is located is clicked, and only if it is not as wanted. -/
theorem outcome_setSelected (locates : Locates args session key target) (wanted : Bool)
    : outcome (setSelected wanted args) session
      = if target.selected = wanted then (.ok none, session)
        else
          match target.target? with
          | some url => (.ok none, (session.noting (.click key)).showing url)
          | none =>
              (.ok none,
                (session.noting (.click key)).withPage (session.page.click key target)) := by
  have looked : outcome (element args) session = (.ok key, session) :=
    outcome_element_eq_ok_iff.mpr ⟨locates.located, ⟨target, locates.elementAt⟩, rfl⟩
  have seen : outcome (Drive.isSelected key) session = (.ok target.selected, session) := by
    rw [outcome_isSelected, locates.elementAt]
    rfl
  unfold setSelected
  rw [outcome_bind_of_ok looked, outcome_bind_of_ok seen]
  by_cases same : target.selected = wanted
  · simp [same, outcome_pure]
  · simp only [bne_iff_ne, ne_eq, same, not_false_eq_true, ↓reduceIte]
    have clicks := outcome_click key session
    rw [locates.elementAt] at clicks
    cases leads : target.target? with
    | some url =>
        simp only [leads] at clicks
        exact outcome_bind_of_ok clicks
    | none =>
        simp only [leads] at clicks
        exact outcome_bind_of_ok clicks

/-- Setting the selection passes only for an element that is there. -/
theorem exists_locates {answer : Option Bool}
    (ended : outcome (setSelected wanted args) session = (.ok answer, after))
    : ∃ key target, Locates args session key target := by
  obtain ⟨key, _, looked, _⟩ := exists_of_outcome_bind ended
  obtain ⟨located, ⟨target, reached⟩, _⟩ := outcome_element_eq_ok_iff.mp looked
  obtain ⟨isOpen, found⟩ := Session.elementAt_eq_ok_iff.mp reached
  exact ⟨key, target, isOpen, located, found⟩

/-- Setting the selection of an element that has it changes nothing. -/
theorem setSelected_of_shows
    (located : (args.get? "elem").map (fun text => (Locator.ofText text).key) = some key)
    (shows_ : session.Shows key wanted)
    : (setSelected wanted args).on session = (.ok none, session) := by
  obtain ⟨target, reached, same⟩ := shows_
  obtain ⟨isOpen, found⟩ := Session.elementAt_eq_ok_iff.mp reached
  exact (outcome_setSelected ⟨isOpen, located, found⟩ wanted).trans (if_pos same)

/-- A click on an element that leads nowhere leaves it located, with the selection that it has from
the click.
-/
theorem Locates.click (locates : Locates args session key target)
    : Locates args
        ((session.noting (.click key)).withPage (session.page.click key target)) key
        { target with selected := target.selectedByClick } :=
  ⟨locates.isOpen, locates.located, Page.get?_click_self locates.found⟩

/-- Setting the selection of an element that is not as wanted and leads nowhere clicks it. -/
theorem settles_of_click (locates : Locates args session key target)
    (different : target.selected ≠ wanted) (stays : target.target? = none)
    : Settles (setSelected wanted) wanted args key target session
        ((session.noting (.click key)).withPage (session.page.click key target)) := by
  have clicked := locates.click
  have turns := Element.selectedByClick_eq_iff different
  have settled
      : ((session.noting (.click key)).withPage (session.page.click key target)).Shows key wanted
        ↔ target.selectedByClick = wanted := by
    simp [Session.Shows, clicked.elementAt]
  constructor
  case shows =>
    intro _
    exact ⟨by rw [settled, turns, or_iff_right different], _, _, clicked.elementAt, rfl⟩
  case repeats =>
    intro _
    by_cases same : target.selectedByClick = wanted
    · exact ⟨_, setSelected_of_shows locates.located (settled.mpr same), rfl, rfl⟩
    · -- The click has not changed the selection, so the second one is of the same element.
      have kept : target.selectedByClick = target.selected :=
        (Bool.eq_not.mpr same).trans (Bool.eq_not.mpr different).symm
      have again := outcome_setSelected clicked wanted
      rw [kept] at again
      have stays' : ({ target with selected := target.selected } : Element).target? = none := stays
      rw [if_neg different, stays'] at again
      exact ⟨_, again, Page.click_click locates.found kept, rfl⟩
  case follows =>
    intro url _ leads
    rw [stays] at leads
    cases leads
  case rests => exact setSelected_of_shows locates.located

/-- Setting the selection of an element settles it, by cases on what the click does. -/
theorem settles_setSelected {answer : Option Bool}
    (ended : (setSelected wanted args).on session = (.ok answer, after))
    : ∃ key target,
        Locates args session key target
        ∧ Settles (setSelected wanted) wanted args key target session after := by
  obtain ⟨key, target, locates⟩ := exists_locates ended
  refine ⟨key, target, locates, ?_⟩
  have whole : (Except.ok answer, after) = _ :=
    ended.symm.trans (outcome_setSelected locates wanted)
  by_cases same : target.selected = wanted
  · rw [if_pos same] at whole
    cases whole
    have shows_ : session.Shows key wanted := ⟨target, locates.elementAt, same⟩
    have rests := setSelected_of_shows locates.located shows_
    exact ⟨fun _ => ⟨iff_of_true shows_ (.inl same), wanted, shows_⟩,
      fun _ => ⟨session, rests, rfl, rfl⟩, fun different => absurd same different, fun _ => rests⟩
  · rw [if_neg same] at whole
    cases leads : target.target? with
    | none =>
        rw [leads] at whole
        cases whole
        exact settles_of_click locates same leads
    | some url =>
        rw [leads] at whole
        cases whole
        have elsewhere {goal : Prop} (stays : target.selected = wanted ∨ target.target? = none)
            : goal := by
          rcases stays with wanted' | nowhere
          · exact absurd wanted' same
          · rw [leads] at nowhere
            cases nowhere
        refine ⟨elsewhere, elsewhere, fun _ other => ?_, setSelected_of_shows locates.located⟩
        rw [leads] at other
        cases other
        rfl

end Setting

/-- The directives that select an element and that clear its selection. One that passes, in an open
session, has located an element, and it settles the selection of that element.
-/
theorem check_and_uncheck_settle
    : (∀ {args session answer after},
          session.closed = false
          → (check args).on session = (.ok answer, after)
          → ∃ key target,
              Locates args session key target
              ∧ Settles check true args key target session after)
      ∧ ∀ {args session answer after},
          session.closed = false
          → (uncheck args).on session = (.ok answer, after)
          → ∃ key target,
              Locates args session key target
              ∧ Settles uncheck false args key target session after :=
  ⟨fun _ => settles_setSelected, fun _ => settles_setSelected⟩

/-- A session that shows a checkbox, a text, a link and a radio button that is selected. -/
def mixedShown : Session where
  site := ∅
  page :=
    ((((∅ : Page).withElement "#terms" (.checkbox false)).withElement "#note"
      { text := "Note" }).withElement "#next" (.link "Next" "next")).withElement "#red"
        (.radio "colour" "red" true)

/-- The argument of a directive about one element. -/
def elementArgs (text : String) : Args :=
  (∅ : Args).insert "elem" text

/-- The checkbox is selected. The radio button cannot be cleared, and it is not when it is tried. -/
theorem terms_and_red_settled
    : mixedShown.closed = false
      ∧ (∃ after key target,
          (check (elementArgs "#terms")).on mixedShown = (.ok none, after)
          ∧ Locates (elementArgs "#terms") mixedShown key target
          ∧ Settles check true (elementArgs "#terms") key target mixedShown after
          ∧ after.Shows "#terms" true)
      ∧ ∃ after key target,
          (uncheck (elementArgs "#red")).on mixedShown = (.ok none, after)
          ∧ Locates (elementArgs "#red") mixedShown key target
          ∧ Settles uncheck false (elementArgs "#red") key target mixedShown after
          ∧ after.Shows "#red" true := by
  have isOpen : mixedShown.closed = false := rfl
  have checked
      : (check (elementArgs "#terms")).on mixedShown
        = (.ok none, ((check (elementArgs "#terms")).on mixedShown).2) := by
    decide
  have unchecked
      : (uncheck (elementArgs "#red")).on mixedShown
        = (.ok none, ((uncheck (elementArgs "#red")).on mixedShown).2) := by
    decide
  obtain ⟨key, target, locates, settles⟩ := check_and_uncheck_settle.1 isOpen checked
  obtain ⟨key', target', locates', settles'⟩ := check_and_uncheck_settle.2 isOpen unchecked
  exact ⟨isOpen, ⟨_, key, target, checked, locates, settles, by decide⟩,
    _, key', target', unchecked, locates', settles', by decide⟩

/-- A text is not selected by checking it, a link is gone once it has been checked, and a radio
button stays selected when it is unchecked, though all three pass.
-/
theorem passes_without_settling
    : (((check (elementArgs "#note")).on mixedShown).1 = .ok none
        ∧ ¬((check (elementArgs "#note")).on mixedShown).2.Shows "#note" true)
      ∧ (((check (elementArgs "#next")).on mixedShown).1 = .ok none
        ∧ ((check (elementArgs "#next")).on mixedShown).2.page.elements.get? "#next" = none
        ∧ ((check (elementArgs "#next")).on ((check (elementArgs "#next")).on mixedShown).2).1
          = .error (.elementNotFound "#next"))
      ∧ ((uncheck (elementArgs "#red")).on mixedShown).1 = .ok none
      ∧ ¬((uncheck (elementArgs "#red")).on mixedShown).2.Shows "#red" false :=
  ⟨⟨by decide, by decide⟩, ⟨by decide, by decide, by decide⟩, by decide, by decide⟩

end Library

end Rehearsal
