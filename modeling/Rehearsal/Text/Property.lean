import Rehearsal.Text.Blank
import Rehearsal.Text.Property.Binary
import Rehearsal.Text.Property.Category
import Rehearsal.Text.Property.Script

/-!
Sets of characters by property: digits, words, general categories, scripts and binary properties,
the last three found under any of their names in any spelling. Further properties are not known:
script extensions, ages, and the kinds of breaks between characters, words and sentences.
-/

namespace Rehearsal.Text.Property

/-- The decimal digits of all scripts. -/
def decimalDigits : CharSet :=
  ⟨[(0x30, 0x39), (0x660, 0x669), (0x6F0, 0x6F9), (0x7C0, 0x7C9), (0x966, 0x96F), (0x9E6, 0x9EF),
    (0xA66, 0xA6F), (0xAE6, 0xAEF), (0xB66, 0xB6F), (0xBE6, 0xBEF), (0xC66, 0xC6F),
    (0xCE6, 0xCEF), (0xD66, 0xD6F), (0xDE6, 0xDEF), (0xE50, 0xE59), (0xED0, 0xED9),
    (0xF20, 0xF29), (0x1040, 0x1049), (0x1090, 0x1099), (0x17E0, 0x17E9), (0x1810, 0x1819),
    (0x1946, 0x194F), (0x19D0, 0x19D9), (0x1A80, 0x1A89), (0x1A90, 0x1A99), (0x1B50, 0x1B59),
    (0x1BB0, 0x1BB9), (0x1C40, 0x1C49), (0x1C50, 0x1C59), (0xA620, 0xA629), (0xA8D0, 0xA8D9),
    (0xA900, 0xA909), (0xA9D0, 0xA9D9), (0xA9F0, 0xA9F9), (0xAA50, 0xAA59), (0xABF0, 0xABF9),
    (0xFF10, 0xFF19), (0x104A0, 0x104A9), (0x10D30, 0x10D39), (0x10D40, 0x10D49),
    (0x11066, 0x1106F), (0x110F0, 0x110F9), (0x11136, 0x1113F), (0x111D0, 0x111D9),
    (0x112F0, 0x112F9), (0x11450, 0x11459), (0x114D0, 0x114D9), (0x11650, 0x11659),
    (0x116C0, 0x116C9), (0x116D0, 0x116E3), (0x11730, 0x11739), (0x118E0, 0x118E9),
    (0x11950, 0x11959), (0x11BF0, 0x11BF9), (0x11C50, 0x11C59), (0x11D50, 0x11D59),
    (0x11DA0, 0x11DA9), (0x11F50, 0x11F59), (0x16130, 0x16139), (0x16A60, 0x16A69),
    (0x16AC0, 0x16AC9), (0x16B50, 0x16B59), (0x16D70, 0x16D79), (0x1CCF0, 0x1CCF9),
    (0x1D7CE, 0x1D7FF), (0x1E140, 0x1E149), (0x1E2F0, 0x1E2F9), (0x1E4F0, 0x1E4F9),
    (0x1E5F1, 0x1E5FA), (0x1E950, 0x1E959), (0x1FBF0, 0x1FBF9)]⟩

/-- The set of a binary property under its full name. -/
def binary (name : String) : CharSet :=
  match binaryTable.find? fun entry => entry.1.contains name with
  | some entry => CharSet.ofTable entry.2
  | none => ⟨[]⟩

/-- The set of the general categories that begin with a text. -/
def category (name : String) : CharSet :=
  (categoryTable.filter fun entry => name.isPrefixOf entry.1).foldl
    (fun set entry => set.union (CharSet.ofTable entry.2)) ⟨[]⟩

/-- The characters that have an upper, lower or title case. -/
def cased : CharSet := binary "Cased"

/-- The characters that are looked through when the case of a neighbour matters. -/
def caseIgnorable : CharSet := binary "Case_Ignorable"

/-- The characters of words: letters, marks, digits, connectors and joiners. -/
def wordChars : CharSet :=
  ((binary "Alphabetic").union (category "M")).union
    (((category "Nd").union (category "Pc")).union (binary "Join_Control"))

/-- A name without blanks, hyphens, underscores, letter case and a leading "is". -/
def normalName (name : String) : String :=
  let chars := name.toList
  let lowered := chars.map Char.toLower
  let afterIs := match lowered with
    | 'i' :: 's' :: rest => rest
    | _ => lowered
  let kept := afterIs.filter fun c => c.toNat < 128 && c != ' ' && c != '_' && c != '-'
  if lowered.take 2 = ['i', 's'] && kept = ['c'] then "isc" else String.ofList kept

/-- The general categories under their longer names, with the initials of their two-letter
names. -/
def categoryNames : List (String × List String) :=
  [("L", ["letter"]), ("LC", ["casedletter"]), ("Lu", ["uppercaseletter"]),
    ("Ll", ["lowercaseletter"]), ("Lt", ["titlecaseletter"]), ("Lm", ["modifierletter"]),
    ("Lo", ["otherletter"]), ("M", ["mark", "combiningmark"]), ("Mn", ["nonspacingmark"]),
    ("Mc", ["spacingmark"]), ("Me", ["enclosingmark"]), ("N", ["number"]),
    ("Nd", ["decimalnumber", "digit"]), ("Nl", ["letternumber"]), ("No", ["othernumber"]),
    ("P", ["punctuation", "punct"]), ("Pc", ["connectorpunctuation"]),
    ("Pd", ["dashpunctuation"]), ("Ps", ["openpunctuation"]), ("Pe", ["closepunctuation"]),
    ("Pi", ["initialpunctuation"]), ("Pf", ["finalpunctuation"]), ("Po", ["otherpunctuation"]),
    ("S", ["symbol"]), ("Sm", ["mathsymbol"]), ("Sc", ["currencysymbol"]),
    ("Sk", ["modifiersymbol"]), ("So", ["othersymbol"]), ("Z", ["separator"]),
    ("Zs", ["spaceseparator"]), ("Zl", ["lineseparator"]), ("Zp", ["paragraphseparator"]),
    ("C", ["other"]), ("Cc", ["control", "cntrl"]), ("Cf", ["format"]), ("Co", ["privateuse"]),
    ("Cn", ["unassigned"])]

/-- The assigned characters. -/
def assigned : CharSet :=
  category ""

/-- The set of a general category, or of all, all assigned or all ASCII characters, under a
normal name. -/
def category? (name : String) : Option CharSet :=
  match name with
  | "any" => some .all
  | "assigned" => some assigned
  | "ascii" => some ⟨[(0, 127)]⟩
  | _ => do
      let entry ← categoryNames.find? fun entry =>
        normalName entry.1 == name || entry.2.contains name
      match entry.1 with
      | "Cn" => return assigned.complement
      | "C" => return (category "C").union assigned.complement
      | "LC" => return ((category "Lu").union (category "Ll")).union (category "Lt")
      | "Nd" => return decimalDigits
      | initials => return category initials

/-- The set of a script under a normal name. -/
def script? (name : String) : Option CharSet :=
  (scriptTable.find? fun entry => entry.1.any fun spelling => normalName spelling == name).map
    fun entry => CharSet.ofTable entry.2

/-- The set of a binary property under a normal name. -/
def binary? (name : String) : Option CharSet :=
  if ["whitespace", "wspace", "space"].contains name then some blanks
  else
    (binaryTable.find? fun entry => entry.1.any fun spelling => normalName spelling == name).map
      fun entry => CharSet.ofTable entry.2

/-- The set under a name that stands alone: a binary property, else a general category, else a
script. -/
def named? (name : String) : Option CharSet :=
  let name := normalName name
  let byProperty := if ["cf", "sc", "lc"].contains name then none else binary? name
  (byProperty.or (category? name)).or (script? name)

/-- The set of the characters for which a property has a value; the properties that have values are
the general category and the script. -/
def valued? (property value : String) : Option CharSet :=
  let property := normalName property
  let value := normalName value
  if ["gc", "generalcategory"].contains property then category? value
  else if ["sc", "script"].contains property then script? value
  else none

end Rehearsal.Text.Property
