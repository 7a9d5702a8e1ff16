import Mathlib.Data.List.Nodup
import Rehearsal.Proofs.Browser.Effect
import Rehearsal.Proofs.Dict

/-! Radio buttons of one group exclude one another, and so do the options of a select element for
one option: where no page of a site has two of them selected, no calls of a session bring that
about.
-/

namespace Rehearsal.Browser

-----------------------------------------------------------------------------------------
-- What is selected on a page
-----------------------------------------------------------------------------------------

/-- The selected options of an element. -/
def Element.selectedChoices (element : Element) : List Choice :=
  element.choices.filter Choice.selected

/-- The keys of the selected radio buttons of a group. -/
def Page.selectedRadios (page : Page) (group : String) : List String :=
  (page.elements.bindings.filter fun binding =>
    binding.2.radioGroup? == some group && binding.2.selected).map Prod.fst

/-- At most one radio button of a group is selected, and at most one option of a select element for
one option.
-/
structure Page.IsExclusive (page : Page) : Prop where
  radios : ∀ group, (page.selectedRadios group).length ≤ 1
  choices
    : ∀ {key element},
        page.elements.get? key = some element
        → element.multiple = false
        → element.selectedChoices.length ≤ 1

/-- Every page of the site is exclusive as the site has it. -/
def Site.IsExclusive (site : Site) : Prop :=
  ∀ {url page}, site.get? url = some page → page.IsExclusive

/-- A radio button has been chosen: it is the selected one of its group, of which nothing else has
changed, and everything outside the group is as it was.
-/
structure Page.Chooses (before : Page) (key group : String) (after : Page) : Prop where
  selected : after.selectedRadios group = [key]
  radios
    : ∀ {name radio},
        before.elements.get? name = some radio
        → radio.radioGroup? = some group
        → after.elements.get? name = some { radio with selected := name == key }
  others
    : ∀ {name},
        (∀ element, before.elements.get? name = some element → element.radioGroup? ≠ some group)
        → after.elements.get? name = before.elements.get? name

namespace Page

theorem mem_selectedRadios_iff {page : Page} {group name : String}
    : name ∈ page.selectedRadios group
      ↔ ∃ radio,
          page.elements.get? name = some radio
          ∧ radio.radioGroup? = some group
          ∧ radio.selected = true := by
  simp [selectedRadios, Dict.mem_bindings_iff]

theorem nodup_selectedRadios (page : Page) (group : String)
    : (page.selectedRadios group).Nodup :=
  page.elements.nodup_keys.sublist (List.filter_sublist.map Prod.fst)

/-- Two buttons of a group are not both selected exactly if no more than one is. -/
theorem length_selectedRadios_le_one_iff {page : Page} {group : String}
    : (page.selectedRadios group).length ≤ 1
      ↔ ∀ left ∈ page.selectedRadios group,
          ∀ right ∈ page.selectedRadios group, left = right := by
  have nodup := page.nodup_selectedRadios group
  generalize page.selectedRadios group = names at nodup ⊢
  rcases names with _ | ⟨first, _ | ⟨second, rest⟩⟩
  · simp
  · simp
  · have different : first ≠ second := by
      intro same
      subst same
      simp at nodup
    simp [different]

theorem isExclusive_empty : (∅ : Page).IsExclusive where
  radios _ := Nat.zero_le 1
  choices found := by cases found

/-- Only the groups of the radio buttons of a page need a look. -/
theorem isExclusive_iff {page : Page}
    : page.IsExclusive
      ↔ (∀ group ∈ page.elements.values.filterMap Element.radioGroup?,
          (page.selectedRadios group).length ≤ 1)
        ∧ ∀ element ∈ page.elements.values,
            element.multiple = false → element.selectedChoices.length ≤ 1 := by
  constructor
  · intro exclusive
    refine ⟨fun group _ => exclusive.radios group, fun element member => ?_⟩
    obtain ⟨key, found⟩ := (Dict.mem_values_iff _ _).mp member
    exact exclusive.choices found
  · intro held
    obtain ⟨radios, choices⟩ := held
    refine ⟨fun group => ?_, fun found => choices _ ((Dict.mem_values_iff _ _).mpr ⟨_, found⟩)⟩
    cases held : page.selectedRadios group with
    | nil => exact Nat.zero_le 1
    | cons name rest =>
        have member : name ∈ page.selectedRadios group := held ▸ List.mem_cons_self
        obtain ⟨radio, found, grouped, -⟩ := mem_selectedRadios_iff.mp member
        rw [← held]
        apply radios group
        exact List.mem_filterMap.mpr ⟨radio, (Dict.mem_values_iff _ _).mpr ⟨name, found⟩, grouped⟩

instance (page : Page) : Decidable page.IsExclusive :=
  decidable_of_iff _ isExclusive_iff.symm

-----------------------------------------------------------------------------------------
-- Clicks
-----------------------------------------------------------------------------------------

theorem radioGroup?_select (element : Element) (selected : Bool)
    : { element with selected }.radioGroup? = element.radioGroup? :=
  rfl

theorem radioGroup?_toggle (element : Element)
    : element.toggle.radioGroup? = element.radioGroup? := by
  unfold Element.toggle
  split <;> rfl

theorem selected_toggle (element : Element) (selected : Bool)
    : { element.toggle with selected } = { element with selected } := by
  unfold Element.toggle
  split <;> rfl

/-- A click on a radio button, whether or not it is checkable too, selects it and clears the rest of
its group.
-/
theorem get?_click_of_radio {page : Page} {key group : String} {clicked : Element}
    (found : page.elements.get? key = some clicked)
    (radio : clicked.radioGroup? = some group) (name : String)
    : (page.click key clicked).elements.get? name
      = (page.elements.get? name).map fun element =>
          if element.radioGroup? = some group then { element with selected := name == key }
          else element := by
  simp only [click, radio, chooseRadio, modify, Dict.get?_mapValues, Dict.get?_modify,
    Option.map_map]
  cases here : page.elements.get? name with
  | none => rfl
  | some element =>
      by_cases same : name = key
      · subst same
        obtain rfl : element = clicked := by simpa [here] using found
        simp [radioGroup?_toggle, radio, selected_toggle]
      · simp [same]

/-- A click on any other element flips it if it is checkable, and changes nothing else. -/
theorem get?_click_of_plain {page : Page} {clicked : Element} (plain : clicked.radioGroup? = none)
    (key name : String)
    : (page.click key clicked).elements.get? name
      = (page.elements.get? name).map fun element =>
          if name = key then element.toggle else element := by
  simp only [click, plain, modify, Dict.get?_modify]

/-- In the group of a clicked radio button that button is selected, in any other group what was. -/
theorem mem_selectedRadios_click {page : Page} {key group : String} {clicked : Element}
    (found : page.elements.get? key = some clicked)
    (radio : clicked.radioGroup? = some group) {name other : String}
    : name ∈ (page.click key clicked).selectedRadios other
      ↔ if other = group then name = key else name ∈ page.selectedRadios other := by
  simp only [mem_selectedRadios_iff, get?_click_of_radio found radio]
  cases here : page.elements.get? name with
  | none =>
      have different : name ≠ key := by
        intro same
        subst same
        cases here.symm.trans found
      simp [different]
  | some element =>
      by_cases member : element.radioGroup? = some group
      · by_cases same : other = group
        · simp [member, same, radioGroup?_select]
        · simp [member, Ne.symm same, radioGroup?_select, same]
      · have different : name ≠ key := by
          intro same
          subst same
          obtain rfl := Option.some.inj (here.symm.trans found)
          exact member radio
        by_cases same : other = group
        · simp [member, same, different]
        · simp [member, same]

theorem chooses_click {page : Page} {key group : String} {clicked : Element}
    (found : page.elements.get? key = some clicked) (radio : clicked.radioGroup? = some group)
    : page.Chooses key group (page.click key clicked) where
  selected := by
    have nodup := (page.click key clicked).nodup_selectedRadios group
    apply List.perm_singleton.mp
    apply (List.perm_ext_iff_of_nodup nodup (List.nodup_singleton key)).mpr
    intro name
    simp [mem_selectedRadios_click found radio]
  radios here member := by
    rw [get?_click_of_radio found radio, here]
    simp [member]
  others {name} outside := by
    rw [get?_click_of_radio found radio]
    cases here : page.elements.get? name with
    | none => rfl
    | some element => simp [outside element here]

end Page

theorem Site.isExclusive_iff {site : Site}
    : site.IsExclusive ↔ ∀ page ∈ site.values, page.IsExclusive := by
  simp [IsExclusive, Dict.mem_values_iff, @forall_comm String]

instance (site : Site) : Decidable site.IsExclusive :=
  decidable_of_iff _ Site.isExclusive_iff.symm

-----------------------------------------------------------------------------------------
-- Changes that keep a page exclusive
-----------------------------------------------------------------------------------------

/-- An element whose options have changed, if at all, so that no second one is selected where only
one may be.
-/
structure Element.KeepsChoices (before after : Element) : Prop where
  multiple : after.multiple = before.multiple
  selected
    : before.multiple = false
      → before.selectedChoices.length ≤ 1
      → after.selectedChoices.length ≤ 1

/-- An element that is selected, if it is a radio button, exactly if it was, in its old group. -/
structure Element.KeepsRadio (before after : Element) : Prop where
  group : after.radioGroup? = before.radioGroup?
  selected : before.radioGroup? ≠ none → after.selected = before.selected

namespace Element

theorem KeepsChoices.of_eq {before after : Element} (multiple : after.multiple = before.multiple)
    (choices : after.choices = before.choices)
    : before.KeepsChoices after :=
  ⟨multiple, fun _ few => by rwa [selectedChoices, choices]⟩

theorem countP_modify_le {α : Type} (holds : α → Bool) (change : α → α) (items : List α)
    (place : Nat)
    : (items.modify place change).countP holds ≤ items.countP holds + 1 := by
  induction items generalizing place with
  | nil => simp
  | cons item rest ih =>
      cases place with
      | zero =>
          simp only [List.modify_zero_cons, List.countP_cons]
          split <;> split <;> omega
      | succ place =>
          have later := ih place
          simp only [List.modify_succ_cons, List.countP_cons]
          omega

theorem countP_modify_le_of_not {α : Type} (holds : α → Bool) (change : α → α)
    (cleared : ∀ item, holds (change item) = false) (items : List α) (place : Nat)
    : (items.modify place change).countP holds ≤ items.countP holds := by
  induction items generalizing place with
  | nil => simp
  | cons item rest ih =>
      cases place with
      | zero => simp [List.countP_cons, cleared]
      | succ place => simpa [List.countP_cons] using ih place

theorem keepsChoices_toggle (element : Element) : element.KeepsChoices element.toggle := by
  unfold toggle
  split <;> exact .of_eq rfl rfl

/-- Selecting an option of an element for one option clears the others first. -/
theorem keepsChoices_setChoice (element : Element) (place : Nat) (selected : Bool)
    : element.KeepsChoices (element.setChoice place selected) where
  multiple := rfl
  selected single few := by
    simp only [selectedChoices, ← List.countP_eq_length_filter] at few ⊢
    cases selected with
    | false =>
        simp only [setChoice, Bool.false_and, Bool.false_eq_true, ↓reduceIte]
        apply Nat.le_trans _ few
        exact countP_modify_le_of_not _ _ (fun _ => rfl) element.choices place
    | true =>
        have none_
            : (element.choices.map fun choice => { choice with selected := false }).countP
                Choice.selected = 0 := by
          simp
        simp only [setChoice, single, Bool.not_false, Bool.and_self, ↓reduceIte]
        apply Nat.le_trans (countP_modify_le _ _ _ place)
        omega

end Element

namespace Page.IsExclusive

variable {page after : Page} {change : String → Element → Element}

/-- The options stay exclusive when each element keeps its own so. -/
theorem choices_of_changed (exclusive : page.IsExclusive)
    (changed : ∀ name, after.elements.get? name = (page.elements.get? name).map (change name))
    (kept : ∀ name (element : Element), element.KeepsChoices (change name element))
    {key : String} {element : Element}
    (found : after.elements.get? key = some element) (single : element.multiple = false)
    : element.selectedChoices.length ≤ 1 := by
  rw [changed] at found
  obtain ⟨earlier, here, rfl⟩ := Option.map_eq_some_iff.mp found
  have before : earlier.multiple = false := (kept key earlier).multiple ▸ single
  exact (kept key earlier).selected before (exclusive.choices here before)

/-- The page stays exclusive when each element keeps its options so, and its selection if it is a
radio button.
-/
theorem of_changed (exclusive : page.IsExclusive)
    (changed : ∀ name, after.elements.get? name = (page.elements.get? name).map (change name))
    (choices : ∀ name (element : Element), element.KeepsChoices (change name element))
    (radios
      : ∀ name element,
          page.elements.get? name = some element → element.KeepsRadio (change name element))
    : after.IsExclusive where
  choices := exclusive.choices_of_changed changed choices
  radios group := by
    -- a button that is selected afterwards was selected before
    have back {name : String} (member : name ∈ after.selectedRadios group)
        : name ∈ page.selectedRadios group := by
      obtain ⟨radio, found, grouped, selected⟩ := mem_selectedRadios_iff.mp member
      rw [changed] at found
      obtain ⟨earlier, here, rfl⟩ := Option.map_eq_some_iff.mp found
      have kept := radios name earlier here
      rw [kept.group] at grouped
      rw [kept.selected (by simp [grouped])] at selected
      exact mem_selectedRadios_iff.mpr ⟨earlier, here, grouped, selected⟩
    apply length_selectedRadios_le_one_iff.mpr
    intro left memberLeft right memberRight
    exact length_selectedRadios_le_one_iff.mp (exclusive.radios group)
      left (back memberLeft) right (back memberRight)

theorem click {key : String} {clicked : Element} (exclusive : page.IsExclusive)
    (found : page.elements.get? key = some clicked)
    : (page.click key clicked).IsExclusive := by
  cases kind : clicked.radioGroup? with
  | none =>
      apply exclusive.of_changed (get?_click_of_plain kind key)
      · intro name element
        split
        · exact element.keepsChoices_toggle
        · exact .of_eq rfl rfl
      · intro name element here
        split
        next same =>
          obtain rfl := Option.some.inj (here.symm.trans (same ▸ found))
          exact ⟨radioGroup?_toggle element, fun radio => absurd kind radio⟩
        next => exact ⟨rfl, fun _ => rfl⟩
  | some group =>
      refine ⟨?_, exclusive.choices_of_changed (get?_click_of_radio found kind) ?_⟩
      · intro other
        apply length_selectedRadios_le_one_iff.mpr
        intro left memberLeft right memberRight
        rw [mem_selectedRadios_click found kind] at memberLeft memberRight
        split at memberLeft
        next same =>
          rw [if_pos same] at memberRight
          exact memberLeft.trans memberRight.symm
        next different =>
          rw [if_neg different] at memberRight
          exact length_selectedRadios_le_one_iff.mp (exclusive.radios other)
            left memberLeft right memberRight
      · intro name element
        split <;> exact .of_eq rfl rfl

/-- A change of one element by itself keeps the page exclusive when the element keeps its options
and, if it is a radio button, its selection.
-/
theorem modify {change : Element → Element} (exclusive : page.IsExclusive) (key : String)
    (choices : ∀ element : Element, element.KeepsChoices (change element))
    (radios : ∀ element : Element, element.KeepsRadio (change element))
    : (page.modify key change).IsExclusive := by
  apply exclusive.of_changed (Dict.get?_modify page.elements key change)
  · intro name element
    split
    · exact choices element
    · exact .of_eq rfl rfl
  · intro name element here
    split
    · exact radios element
    · exact ⟨rfl, fun _ => rfl⟩

/-- No turn of the page of an exclusive site makes it less exclusive, by cases on the turn. -/
theorem turn {site : Site} (exclusive : page.IsExclusive) (pages : site.IsExclusive)
    (turn : page.Turn site after)
    : after.IsExclusive := by
  cases turn with
  | still => exact exclusive
  | showing url =>
      unfold Site.page
      cases found : site.get? url with
      | none => exact isExclusive_empty
      | some shown => exact pages found
  | clicked found => exact exclusive.click found
  | typed key text =>
      exact exclusive.modify key (fun _ => .of_eq rfl rfl) fun _ => ⟨rfl, fun _ => rfl⟩
  | chosen key place selected =>
      exact exclusive.modify key (fun element => element.keepsChoices_setChoice place selected)
        fun _ => ⟨rfl, fun _ => rfl⟩
  | alertClosed => exact ⟨exclusive.radios, exclusive.choices⟩

end Page.IsExclusive

-----------------------------------------------------------------------------------------
-- Calls
-----------------------------------------------------------------------------------------

/-- Calls keep the page of a session of an exclusive site exclusive, by induction on the calls. -/
theorem Call.isExclusive_performAll {session : Session} (calls : List Call)
    (pages : session.site.IsExclusive) (exclusive : session.page.IsExclusive)
    : (performAll calls session).2.page.IsExclusive := by
  induction calls generalizing session with
  | nil => exact exclusive
  | cons call rest ih =>
      have turns := turns_perform call session
      exact ih (turns.site.symm ▸ pages) (exclusive.turn pages turns.page)

/-- A click that succeeds on a radio button that leads nowhere chooses it. -/
theorem Call.chooses_of_click {session after : Session} {key group : String} {radio : Element}
    {answer : Answer} (found : session.page.elements.get? key = some radio)
    (grouped : radio.radioGroup? = some group) (stays : radio.target? = none)
    (clicked : (Call.click key).perform.on session = (.ok answer, after))
    : session.page.Chooses key group after.page := by
  obtain ⟨_, _, ended, answered⟩ := exists_of_outcome_bind clicked
  cases answered
  rw [Drive.outcome_click] at ended
  cases reached : session.elementAt key with
  | error failure =>
      rw [reached] at ended
      cases ended
  | ok element =>
      obtain rfl : radio = element :=
        Option.some.inj (found.symm.trans (Session.elementAt_eq_ok_iff.mp reached).2)
      rw [reached] at ended
      simp only [stays] at ended
      cases ended
      exact Page.chooses_click found grouped

/-- On a site whose pages are exclusive, calls of any kind, failing ones among them, leave a session
on an exclusive page. In any session, a click that succeeds on a radio button that leads nowhere
chooses that button: it alone is then selected in its group, and nothing outside the group has
changed.
-/
theorem exclusive_after_calls
    : (∀ {site : Site},
        site.IsExclusive
        → ∀ calls, (Call.performAll calls (.launch site)).2.page.IsExclusive)
      ∧ ∀ {session after : Session} {key group : String} {radio : Element} {answer : Answer},
          session.page.elements.get? key = some radio
          → radio.radioGroup? = some group
          → radio.target? = none
          → (Call.click key).perform.on session = (.ok answer, after)
          → session.page.Chooses key group after.page :=
  ⟨fun pages calls => Call.isExclusive_performAll calls pages Page.isExclusive_empty,
    Call.chooses_of_click⟩

/-- A page with three radio buttons, two of them in one group and one of those selected, and a
select element for one option.
-/
def orderPage : Page :=
  ((((({ title := "Order" } : Page).withRadio "colour" "red" true).withRadio "colour" "blue"
    false).withRadio "" "gift" false).withElement "#size"
      (.select [⟨"s", "Small", true⟩, ⟨"m", "Medium", false⟩]))

def orderSite : Site :=
  Dict.ofList [("order", orderPage)]

/-- A session that shows the page. -/
def orderSession : Session :=
  (Call.performAll [.navigate "order"] (.launch orderSite)).2

/-- The selection moves from one colour to the other and from one size to the other, also with a
click that fails in between.
-/
theorem order_exclusive_after_calls
    : orderSite.IsExclusive
      ∧ (Call.performAll
          [.navigate "order", .click (Locator.radio "blue").key, .click "#nowhere",
            .setChoice "#size" "m" true]
          (.launch orderSite)).2.page.IsExclusive
      ∧ (Locator.radio "blue").key ∉ orderSession.page.selectedRadios "colour"
      ∧ orderSession.page.Chooses (Locator.radio "blue").key "colour"
          ((Call.click (Locator.radio "blue").key).perform.on orderSession).2.page := by
  have pages : orderSite.IsExclusive := by decide
  have found
      : orderSession.page.elements.get? (Locator.radio "blue").key
        = some (Element.radio "colour" "blue" false) := by
    decide
  have clicked
      : (Call.click (Locator.radio "blue").key).perform.on orderSession
        = (.ok .done, ((Call.click (Locator.radio "blue").key).perform.on orderSession).2) := by
    rfl
  exact ⟨pages, exclusive_after_calls.1 pages _, by decide,
    exclusive_after_calls.2 found (by decide) (by decide) clicked⟩

end Rehearsal.Browser
