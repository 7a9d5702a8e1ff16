import Rehearsal.Dict
import Rehearsal.Text.Blank
import Rehearsal.Browser.Locator

/-!
Pages and their elements. Each element stands under one key, and a site gives the pages of its
addresses as they are before anyone has used them.
-/

namespace Rehearsal.Browser

/-- An option of a select element. -/
structure Choice where
  value : String
  /-- The visible text. -/
  text : String
  selected : Bool := false
deriving DecidableEq, Repr

/-- An element of a page. -/
structure Element where
  text : String := ""
  value : String := ""
  displayed : Bool := true
  /-- Whether a click flips the selection. -/
  checkable : Bool := false
  selected : Bool := false
  attributes : Dict String := ∅
  /-- The options, in document order, of a select element. -/
  choices : List Choice := []
  /-- Whether several options may be selected at once. -/
  multiple : Bool := false
deriving DecidableEq

namespace Element

/-- The element with one attribute written. -/
def withAttribute (element : Element) (name value : String) : Element :=
  { element with attributes := element.attributes.insert name value }

/-- A link to an address. -/
def link (text url : String) : Element :=
  ({ text } : Element).withAttribute "href" url

/-- A checkbox. -/
def checkbox (selected : Bool) : Element :=
  { checkable := true, selected }

/-- A radio button of a group. -/
def radio (group value : String) (selected : Bool) : Element :=
  (({ value, selected } : Element).withAttribute "type" "radio").withAttribute "name" group

/-- A select element for one option. -/
def select (choices : List Choice) : Element :=
  { choices }

/-- A select element for any number of options. -/
def multiSelect (choices : List Choice) : Element :=
  { choices, multiple := true }

/-- The group of a radio button; one without a name belongs to the group of the empty name. -/
def radioGroup? (element : Element) : Option String :=
  if element.attributes.get? "type" = some "radio" then
    some ((element.attributes.get? "name").getD "")
  else none

/-- The address that an element leads to. -/
def target? (element : Element) : Option String :=
  element.attributes.get? "href"

/-- An attribute by name; `value` names the current value, whatever the attributes say. -/
def attribute? (element : Element) (name : String) : Option String :=
  if name = "value" then some element.value else element.attributes.get? name

/-- The element after a click that does not lead elsewhere. -/
def toggle (element : Element) : Element :=
  if element.checkable then { element with selected := !element.selected } else element

/-- The place of the first option with a value. -/
def choiceAt? (element : Element) (value : String) : Option Nat :=
  element.choices.findIdx? fun choice => choice.value == value

/-- Selects or clears the option at a place. Selecting clears the other options of an element
that is for one option. -/
def setChoice (element : Element) (place : Nat) (selected : Bool) : Element :=
  let kept :=
    if selected && !element.multiple then
      element.choices.map fun choice => { choice with selected := false }
    else element.choices
  { element with choices := kept.modify place fun choice => { choice with selected } }

end Element

/-- A page. -/
structure Page where
  title : String := ""
  /-- The elements under their keys. -/
  elements : Dict Element := ∅
  /-- The text of the alert that is open, if one is. -/
  alert : Option String := none
deriving DecidableEq

namespace Page

instance : EmptyCollection Page := ⟨{}⟩

instance : Inhabited Page := ⟨∅⟩

/-- The page with an element under a key. -/
def withElement (page : Page) (key : String) (element : Element) : Page :=
  { page with elements := page.elements.insert key element }

/-- The page with a radio button where its value locates it. -/
def withRadio (page : Page) (group value : String) (selected : Bool) : Page :=
  page.withElement (Locator.radio value).key (Element.radio group value selected)

/-- The page with a link where its address locates it. -/
def withLink (page : Page) (url text : String) : Page :=
  page.withElement (Locator.linkTo url).key (Element.link text url)

/-- Changes the element under a key. -/
def modify (page : Page) (key : String) (change : Element → Element) : Page :=
  { page with elements := page.elements.modify key change }

/-- Selects the radio button under a key and clears the others of the group. -/
def chooseRadio (page : Page) (key group : String) : Page :=
  { page with
      elements := page.elements.mapValues fun name element =>
        if element.radioGroup? = some group then { element with selected := name == key }
        else element }

/-- The page after a click on an element that does not lead elsewhere. -/
def click (page : Page) (key : String) (element : Element) : Page :=
  let page := page.modify key Element.toggle
  match element.radioGroup? with
  | some group => page.chooseRadio key group
  | none => page

/-- Whether an element that is displayed shows a text. -/
def shows (page : Page) (content : String) : Bool :=
  page.elements.values.any fun element =>
    element.displayed && Text.occursIn content.toList element.text.toList

end Page

/-- The pages of a site under their addresses. -/
abbrev Site := Dict Page

/-- The page at an address, which is empty where the site has none. -/
def Site.page (site : Site) (url : String) : Page :=
  (site.get? url).getD ∅

end Rehearsal.Browser
