import Rehearsal.Text.Blank

/-!
How an element of a page is named. A locator has a written form, which reads back as the same
locator, and a key, under which a page holds the element.
-/

namespace Rehearsal.Browser

/-- A way to find an element. -/
inductive Locator where
  | css (selector : String)
  | id (value : String)
  | xpath (path : String)
deriving DecidableEq, Repr

namespace Locator

/-- The rest of a text after an opening part. -/
def rest? (opening text : List Char) : Option (List Char) :=
  if opening.isPrefixOf text then some (text.drop opening.length) else none

/-- Reads a locator: an identifier after `id=`, a path after `xpath=`, and a selector otherwise.
The white space around the text does not count. -/
def ofText (raw : String) : Locator :=
  let text := Text.strip Text.isBlank raw.toList
  match rest? "id=".toList text with
  | some value => id (String.ofList value)
  | none =>
      match rest? "xpath=".toList text with
      | some path => xpath (String.ofList path)
      | none => css (String.ofList text)

/-- The radio button with a value. -/
def radio (value : String) : Locator :=
  css ("input[type=\"radio\"][value=\"" ++ value ++ "\"]")

/-- The link that leads to an address. -/
def linkTo (url : String) : Locator :=
  xpath ("//a[@href=\"" ++ url ++ "\"]")

/-- The written form of a locator. -/
def display : Locator → String
  | css selector => selector
  | id value => "id=" ++ value
  | xpath path => "xpath=" ++ path

/-- The key under which a page holds the located element. -/
def key : Locator → String
  | css selector => selector
  | id value => "#" ++ value
  | xpath path => path

end Locator

end Rehearsal.Browser
