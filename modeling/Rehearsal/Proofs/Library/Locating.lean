import Rehearsal.Proofs.Library.Dispatch
import Rehearsal.Proofs.Text.Strip

/-! The written forms of locators. A text is read as the locator that is written as this text
without the white space around it. So the locators that elements are looked up by all read back, and
the failure to find an element names it by a text that locates the same element again.
-/

namespace Rehearsal

namespace Browser

open Text

-----------------------------------------------------------------------------------------
-- What a text is read as
-----------------------------------------------------------------------------------------

namespace Locator

theorem rest?_eq_some_iff {opening text rest : List Char}
    : rest? opening text = some rest ↔ text = opening ++ rest := by
  unfold rest?
  split
  next opens =>
    obtain ⟨behind, rfl⟩ := List.isPrefixOf_iff_prefix.mp opens
    simp
  next closed =>
    simp only [reduceCtorEq, false_iff]
    rintro rfl
    exact closed (List.isPrefixOf_iff_prefix.mpr (List.prefix_append opening rest))

/-- The written form of what a text is read as is the text without the white space around it,
whichever of the two words it starts with.
-/
theorem display_ofText (raw : String) : (ofText raw).display = trim raw := by
  unfold ofText trim
  generalize strip isBlank raw.toList = text
  cases identifies : rest? "id=".toList text with
  | some value =>
      obtain rfl := rest?_eq_some_iff.mp identifies
      rw [String.ofList_append, String.ofList_toList]
      rfl
  | none =>
      cases leads : rest? "xpath=".toList text with
      | some path =>
          obtain rfl := rest?_eq_some_iff.mp leads
          simp only [leads]
          rw [String.ofList_append, String.ofList_toList]
          rfl
      | none => simp only [identifies, leads, display]

theorem ofText_trim (raw : String) : ofText (trim raw) = ofText raw := by
  have once : strip isBlank (trim raw).toList = strip isBlank raw.toList := by
    rw [trim, String.toList_ofList, strip_eq_self (isStripped_strip isBlank raw.toList)]
  rw [ofText, once]
  rfl

theorem ofText_display_ofText (raw : String) : ofText (ofText raw).display = ofText raw := by
  rw [display_ofText, ofText_trim]

/-- A locator that is written without white space around it reads back, unless it is a selector that
starts with one of the words for other locators.
-/
theorem ofText_display {locator : Locator} (stripped : IsStripped isBlank locator.display.toList)
    (plain
      : ∀ selector,
          locator = css selector
          → rest? "id=".toList selector.toList = none
            ∧ rest? "xpath=".toList selector.toList = none)
    : ofText locator.display = locator := by
  unfold ofText
  rw [strip_eq_self stripped]
  cases locator with
  | css selector =>
      obtain ⟨unidentified, pathless⟩ := plain selector rfl
      simp only [display, unidentified, pathless, String.ofList_toList]
  | id value =>
      have identified : rest? "id=".toList (id value).display.toList = some value.toList :=
        rest?_eq_some_iff.mpr String.toList_append
      simp only [identified, String.ofList_toList]
  | xpath path =>
      have written : (xpath path).display.toList = "xpath=".toList ++ path.toList :=
        String.toList_append
      have unidentified : rest? "id=".toList (xpath path).display.toList = none := by
        rw [written]
        rfl
      have leads : rest? "xpath=".toList (xpath path).display.toList = some path.toList :=
        rest?_eq_some_iff.mpr written
      simp only [unidentified, leads, String.ofList_toList]

/-- A radio button is located by a selector between fixed words, whatever its value. -/
theorem ofText_display_radio (value : String) : ofText (radio value).display = radio value := by
  have written : (radio value).display.toList
      = "input[type=\"radio\"][value=\"".toList ++ value.toList ++ "\"]".toList := by
    rw [radio, display, String.toList_append, String.toList_append]
  refine ofText_display ?_ fun selector same => ?_
  · rw [written]
    exact isStripped_between 'i' ']' value.toList (by decide) (by decide)
      (by decide) (by decide)
  · cases same
    constructor <;> rw [String.toList_append, String.toList_append] <;> rfl

/-- A link is located by a path between fixed words, whatever address it leads to. -/
theorem ofText_display_linkTo (url : String) : ofText (linkTo url).display = linkTo url := by
  have written : (linkTo url).display.toList
      = "xpath=//a[@href=\"".toList ++ url.toList ++ "\"]".toList := by
    rw [linkTo, display, String.toList_append, String.toList_append, String.toList_append]
    rfl
  refine ofText_display ?_ (fun _ same => by cases same)
  rw [written]
  exact isStripped_between 'x' ']' url.toList (by decide) (by decide)
    (by decide) (by decide)

/-- A locator that elements are looked up by: one that is read from a text, that of a radio button
with a value, or that of a link to an address.
-/
inductive IsUsed : Locator → Prop
  | text (raw : String) : IsUsed (ofText raw)
  | radio (value : String) : IsUsed (radio value)
  | link (url : String) : IsUsed (linkTo url)

theorem IsUsed.ofText_display {locator : Locator} (used : locator.IsUsed)
    : ofText locator.display = locator := by
  cases used with
  | text raw => exact ofText_display_ofText raw
  | radio value => exact ofText_display_radio value
  | link url => exact ofText_display_linkTo url

end Locator

-----------------------------------------------------------------------------------------
-- Looking up again what was not found
-----------------------------------------------------------------------------------------

/-- An element is found on the page of an open session where it stands under the key of the locator,
and otherwise missed by the written form of the locator.
-/
theorem Drive.outcome_find (locator : Locator) (session : Session)
    : outcome (find locator) session
      = (if session.closed then .error (.noSuchWindow "session closed")
          else if session.page.elements.contains locator.key then .ok locator.key
          else .error (.elementNotFound locator.display),
        session) := by
  unfold find
  rw [outcome_bind, outcome_opened]
  cases session.closed with
  | true => rfl
  | false =>
      simp only [Bool.false_eq_true, ↓reduceIte]
      split <;> rfl

/-- The failure to find an element names it by the written form of the locator. -/
theorem Drive.eq_display_of_find {locator : Locator} {session after : Session} {selector : String}
    (missed : outcome (find locator) session = (.error (.elementNotFound selector), after))
    : selector = locator.display := by
  rw [outcome_find] at missed
  split at missed
  · cases missed
  · split at missed
    · cases missed
    · cases missed
      rfl

end Browser

namespace Library

open Browser

/-- Every locator that elements are looked up by reads back from its written form. So where a
look-up fails to find an element, the text that the failure names it by, given as the element of a
directive, stands for the same locator and the same key, and is looked up alike in every session.
-/
theorem locators_read_back {locator : Locator} (used : locator.IsUsed)
    : Locator.ofText locator.display = locator
      ∧ ∀ {session after : Session} {selector : String},
          (Drive.find locator).on session = (.error (.elementNotFound selector), after)
          → ∀ {args : Args},
              args.get? "elem" = some selector
              → (Locator.ofText selector).key = locator.key
                ∧ element args = Drive.find locator := by
  refine ⟨used.ofText_display, ?_⟩
  intro session after selector missed args given
  obtain rfl := Drive.eq_display_of_find missed
  rw [element_eq_find given, used.ofText_display]
  exact ⟨rfl, rfl⟩

/-- A text with white space around it that names an identifier. The identifier starts in a space and
the word for a path.
-/
def spacedText : String :=
  "\u00a0 id= xpath=a \"b\" \n"

/-- The arguments of a directive about an element. -/
def locatorArgs (selector : String) : Args :=
  (∅ : Args).insert "elem" selector

/-- A session whose page has the element with that identifier. -/
def spacedShown : Session :=
  { site := ∅, page := (∅ : Page).withElement "# xpath=a \"b\"" {} }

/-- The element is missed on an empty page, by a text that finds it on the page that has it. -/
theorem spaced_locator_read_back
    : ∃ selector,
        (Drive.find (.ofText spacedText)).on (.launch ∅)
          = (.error (.elementNotFound selector), .launch ∅)
        ∧ Locator.ofText selector = .id " xpath=a \"b\""
        ∧ (element (locatorArgs selector)).on spacedShown
          = (.ok "# xpath=a \"b\"", spacedShown) := by
  have read : Locator.ofText spacedText = .id " xpath=a \"b\"" := by decide +kernel
  have missed
      : (Drive.find (.ofText spacedText)).on (.launch ∅)
        = (.error (.elementNotFound "id= xpath=a \"b\""), .launch ∅) := by
    decide +kernel
  have found
      : (Drive.find (.ofText spacedText)).on spacedShown
        = (.ok "# xpath=a \"b\"", spacedShown) := by
    decide +kernel
  obtain ⟨again, looks⟩ := locators_read_back (.text spacedText)
  have given
      : (locatorArgs "id= xpath=a \"b\"").get? "elem" = some "id= xpath=a \"b\"" := by
    decide +kernel
  obtain ⟨_, alike⟩ := looks missed given
  refine ⟨_, missed, ?_, by rw [alike, found]⟩
  rw [← read, ← again, read]
  rfl

end Library

end Rehearsal
