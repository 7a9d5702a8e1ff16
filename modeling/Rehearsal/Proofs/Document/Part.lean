import Mathlib.Data.List.Forall2
import Rehearsal.Document

/-! The parts of a document as relations between values and what they are read as. Every reading
succeeds with just that to which its relation leads, so that the relations are the grammar of these
parts. The tags of a value do not count where a scalar, a mapping or a list of entries is asked for.
-/

namespace Rehearsal.Document

-----------------------------------------------------------------------------------------
-- Readings one after another
-----------------------------------------------------------------------------------------

section readings

variable {ε α β : Type}

/-- A reading in two parts succeeds if the second part does with what the first has read. -/
theorem bind_eq_ok_iff {first : Except ε α} {next : α → Except ε β} {result : β}
    : first >>= next = .ok result ↔ ∃ value, first = .ok value ∧ next value = .ok result := by
  cases first with
  | ok value => exact ⟨fun read => ⟨value, rfl, read⟩, fun ⟨_, rfl, read⟩ => read⟩
  | error fault => exact ⟨nofun, nofun⟩

/-- A list is read if its first item and the others are. -/
theorem cons_eq_ok_iff {first : Except ε β} {rest : Except ε (List β)} {results : List β}
    : (do
        let head ← first
        return head :: (← rest)) = .ok results
      ↔ ∃ head tail, first = .ok head ∧ rest = .ok tail ∧ results = head :: tail := by
  simp only [bind_eq_ok_iff]
  constructor
  · rintro ⟨head, here, tail, others, read⟩
    exact ⟨head, tail, here, others, (Except.ok.inj read).symm⟩
  · rintro ⟨head, tail, here, others, rfl⟩
    exact ⟨head, here, tail, others, rfl⟩

/-- The items of a list are read one by one, by induction on the list. -/
theorem mapM_eq_ok_iff {read : α → Except ε β} {relation : α → β → Prop}
    (reads : ∀ {item result}, read item = .ok result ↔ relation item result) {items : List α}
    {results : List β}
    : items.mapM read = .ok results ↔ List.Forall₂ relation items results := by
  induction items generalizing results with
  | nil =>
      rw [List.mapM_nil, List.forall₂_nil_left_iff]
      exact ⟨fun read => (Except.ok.inj read).symm, fun empty => empty ▸ rfl⟩
  | cons item rest ih =>
      rw [List.mapM_cons, cons_eq_ok_iff]
      simp only [reads, ih, List.forall₂_cons_left_iff]

/-- Where a fault lies does not matter for what is read. -/
theorem mapError_eq_ok_iff {ε' : Type} {change : ε → ε'} {read : Except ε α} {result : α}
    : read.mapError change = .ok result ↔ read = .ok result := by
  cases read with
  | ok value => exact ⟨fun same => Except.ok.inj same ▸ rfl, fun same => Except.ok.inj same ▸ rfl⟩
  | error fault => exact ⟨nofun, nofun⟩

theorem inPlace_eq_ok_iff {place : Place} {read : Except Fault α} {result : α}
    : inPlace place read = .ok result ↔ read = .ok result :=
  mapError_eq_ok_iff

end readings

-----------------------------------------------------------------------------------------
-- Scalars
-----------------------------------------------------------------------------------------

/-- A value is a scalar and has a text; nothing has the empty one. -/
inductive Spells (value : Yaml.Value) : String → Prop where
  | string {text} (plain : untagged value = .string text) : Spells value text
  | number {number} (plain : untagged value = .number number) : Spells value number.text
  | truth {flag} (plain : untagged value = .bool flag) : Spells value (toString flag)
  | nothing (plain : untagged value = .null) : Spells value ""

theorem scalar_eq_ok_iff {value : Yaml.Value} {text : String}
    : scalar value = .ok text ↔ Spells value text := by
  constructor
  · intro read
    unfold scalar at read
    split at read
    next plain => exact Except.ok.inj read ▸ .string plain
    next plain => exact Except.ok.inj read ▸ .number plain
    next plain => exact Except.ok.inj read ▸ .truth plain
    next plain => exact Except.ok.inj read ▸ .truth plain
    next plain => exact Except.ok.inj read ▸ .nothing plain
    next => cases read
  · intro spells
    unfold scalar
    cases spells with
    | string plain | number plain | nothing plain => rw [plain]
    | @truth flag plain =>
        rw [plain]
        cases flag <;> rfl

theorem fields?_eq_some_iff {value : Yaml.Value} {fields : Fields}
    : fields? value = some fields ↔ untagged value = .mapping fields := by
  unfold fields?
  split
  next inner plain => rw [plain, Option.some_inj, Yaml.Value.mapping.injEq]
  next other => exact ⟨nofun, fun plain => absurd plain (other fields)⟩

@[simp]
theorem fields?_mapping (fields : Fields) : fields? (.mapping fields) = some fields :=
  rfl

theorem items?_eq_some_iff {value : Yaml.Value} {items : List Yaml.Value}
    : items? value = some items ↔ untagged value = .sequence items := by
  unfold items?
  split
  next inner plain => rw [plain, Option.some_inj, Yaml.Value.sequence.injEq]
  next other => exact ⟨nofun, fun plain => absurd plain (other items)⟩

-----------------------------------------------------------------------------------------
-- Fields
-----------------------------------------------------------------------------------------

/-- A value is a text that is a key in some letter case. -/
def Names (key : String) (value : Yaml.Value) : Prop :=
  ∃ text, untagged value = .string text ∧ text.toLower = key.toLower

/-- What stands under a key: the content of the first field that the key names, if it names one. -/
inductive ContentAt (fields : Fields) (key : String) : Option Yaml.Value → Prop where
  | absent (unnamed : ∀ field ∈ fields, ¬ Names key field.1) : ContentAt fields key none
  | first {before name content after} (parts : fields = before ++ (name, content) :: after)
    (named : Names key name) (unnamed : ∀ field ∈ before, ¬ Names key field.1)
    : ContentAt fields key (some content)

@[simp]
theorem field?_nil (key : String) : field? [] key = none :=
  rfl

/-- The first field counts if the key names it, and otherwise the ones behind it. -/
theorem field?_cons (field : Yaml.Value × Yaml.Value) (rest : Fields) (key : String)
    : field? (field :: rest) key
      = if isKey key field.1 = true then some field.2 else field? rest key := by
  unfold field?
  rw [List.find?_cons]
  cases isKey key field.1 <;> rfl

/-- Two texts are the same in small letters if they are so letter by letter. -/
theorem toLower_eq_iff {text text' : String}
    : text.toLower = text'.toLower
      ↔ text.toList.map Char.toLower = text'.toList.map Char.toLower := by
  have letters (text : String) : text.toLower.toList = text.toList.map Char.toLower :=
    String.toList_map
  rw [← String.toList_inj, letters, letters]

theorem isKey_string (key text : String)
    : isKey key (.string text)
      = decide (text.toList.map Char.toLower = key.toList.map Char.toLower) := by
  simp only [isKey, untagged, beq_eq_decide, toLower_eq_iff]

theorem isKey_iff {key : String} {value : Yaml.Value}
    : isKey key value = true ↔ Names key value := by
  unfold isKey Names
  split
  next text plain => simp [plain]
  next other => simpa using fun text plain => absurd plain (other text)

theorem field?_eq_iff {fields : Fields} {key : String} {found : Option Yaml.Value}
    : field? fields key = found ↔ ContentAt fields key found := by
  unfold field?
  constructor
  · rintro rfl
    cases hit : fields.find? fun field => isKey key field.1 with
    | none =>
        refine .absent fun field member named => ?_
        exact List.find?_eq_none.mp hit field member (isKey_iff.mpr named)
    | some field =>
        obtain ⟨named, before, after, parts, others⟩ := List.find?_eq_some_iff_append.mp hit
        refine .first parts (isKey_iff.mp named) fun field member named => ?_
        simpa [isKey_iff.mpr named] using others field member
  · intro content
    cases content with
    | absent unnamed =>
        rw [List.find?_eq_none.mpr fun field member named =>
          unnamed field member (isKey_iff.mp named)]
        rfl
    | @first before name content after parts named unnamed =>
        have hit : fields.find? (fun field => isKey key field.1) = some (name, content) := by
          refine List.find?_eq_some_iff_append.mpr ⟨isKey_iff.mpr named, before, after, parts, ?_⟩
          intro field member
          simpa [← isKey_iff] using unnamed field member
        rw [hit]
        rfl

variable {fields : Fields} {key : String}

/-- The text of a scalar that has to stand under a key. -/
def TextAt (fields : Fields) (key text : String) : Prop :=
  ∃ value, ContentAt fields key (some value) ∧ Spells value text

/-- The text of a scalar that may stand under a key. -/
inductive TextOrNoneAt (fields : Fields) (key : String) : Option String → Prop where
  | absent (content : ContentAt fields key none) : TextOrNoneAt fields key none
  | given {value text} (content : ContentAt fields key (some value)) (spells : Spells value text)
    : TextOrNoneAt fields key (some text)

theorem requiredText_eq_ok_iff {text : String}
    : requiredText fields key = .ok text ↔ TextAt fields key text := by
  unfold requiredText TextAt
  simp only [← field?_eq_iff]
  cases field? fields key with
  | none => exact ⟨nofun, nofun⟩
  | some value =>
      simp only [inPlace_eq_ok_iff, scalar_eq_ok_iff, Option.some_inj, exists_eq_left']

theorem mapM_scalar_field?_eq_ok_iff {text? : Option String}
    : (field? fields key).mapM scalar = .ok text? ↔ TextOrNoneAt fields key text? := by
  constructor
  · intro read
    cases found : field? fields key with
    | none =>
        rw [found] at read
        cases read
        exact .absent (field?_eq_iff.mp found)
    | some value =>
        rw [found] at read
        obtain ⟨text, spelled, same⟩ := bind_eq_ok_iff.mp read
        cases same
        exact .given (field?_eq_iff.mp found) (scalar_eq_ok_iff.mp spelled)
  · intro text
    cases text with
    | absent content =>
        rw [field?_eq_iff.mpr content]
        rfl
    | given content spells =>
        rw [field?_eq_iff.mpr content]
        exact bind_eq_ok_iff.mpr ⟨_, scalar_eq_ok_iff.mpr spells, rfl⟩

/-- The texts of a list of scalars that may stand under a key; nothing is no texts. -/
inductive TextsAt (fields : Fields) (key : String) : List String → Prop where
  | absent (content : ContentAt fields key none) : TextsAt fields key []
  | nothing (content : ContentAt fields key (some .null)) : TextsAt fields key []
  | listed {items texts} (content : ContentAt fields key (some (.sequence items)))
    (spelled : List.Forall₂ Spells items texts)
    : TextsAt fields key texts

theorem texts_eq_ok_iff {spelled : List String}
    : texts fields key = .ok spelled ↔ TextsAt fields key spelled := by
  constructor
  · intro read
    unfold texts at read
    split at read
    next found =>
      cases read
      exact .absent (field?_eq_iff.mp found)
    next found =>
      cases read
      exact .nothing (field?_eq_iff.mp found)
    next items found =>
      exact .listed (field?_eq_iff.mp found)
        ((mapM_eq_ok_iff scalar_eq_ok_iff).mp (inPlace_eq_ok_iff.mp read))
    next => cases read
  · intro listed
    unfold texts
    cases listed with
    | absent content | nothing content => rw [field?_eq_iff.mpr content]
    | listed content spelled =>
        rw [field?_eq_iff.mpr content]
        exact inPlace_eq_ok_iff.mpr ((mapM_eq_ok_iff scalar_eq_ok_iff).mpr spelled)

-----------------------------------------------------------------------------------------
-- Lists of single entries
-----------------------------------------------------------------------------------------

/-- A value is a mapping with a single key, which has a text, and with some content. -/
def IsEntry (value : Yaml.Value) (name : String) (content : Yaml.Value) : Prop :=
  ∃ key, untagged value = .mapping [(key, content)] ∧ Spells key name

theorem singleEntry_eq_ok_iff {value content : Yaml.Value} {name : String}
    : singleEntry value = .ok (name, content) ↔ IsEntry value name content := by
  unfold IsEntry
  constructor
  · intro read
    unfold singleEntry at read
    split at read
    next => cases read
    next key inner found =>
      obtain ⟨text, spelled, same⟩ := bind_eq_ok_iff.mp read
      cases same
      exact ⟨key, fields?_eq_some_iff.mp found, scalar_eq_ok_iff.mp spelled⟩
    next => cases read
  · rintro ⟨key, single, spells⟩
    unfold singleEntry
    rw [fields?_eq_some_iff.mpr single]
    exact bind_eq_ok_iff.mpr ⟨name, scalar_eq_ok_iff.mpr spells, rfl⟩

/-- A value is an entry of which the content has a text, too. -/
def IsBinding (value : Yaml.Value) (pair : String × String) : Prop :=
  ∃ content, IsEntry value pair.1 content ∧ Spells content pair.2

theorem binding_eq_ok_iff {value : Yaml.Value} {pair : String × String}
    : binding key value = .ok pair ↔ IsBinding value pair := by
  unfold binding IsBinding
  simp only [bind_eq_ok_iff, inPlace_eq_ok_iff, Prod.exists, singleEntry_eq_ok_iff,
    scalar_eq_ok_iff]
  constructor
  · rintro ⟨name, content, entry, text, spells, same⟩
    cases same
    exact ⟨content, entry, spells⟩
  · rintro ⟨content, entry, spells⟩
    exact ⟨pair.1, content, entry, pair.2, spells, rfl⟩

/-- The names and texts of a list of entries that may stand under a key; nothing is no entries. -/
inductive BindingsAt (fields : Fields) (key : String) : List (String × String) → Prop where
  | absent (content : ContentAt fields key none) : BindingsAt fields key []
  | nothing {value} (content : ContentAt fields key (some value)) (null : untagged value = .null)
    : BindingsAt fields key []
  | listed {value items pairs} (content : ContentAt fields key (some value))
    (list : untagged value = .sequence items) (entries : List.Forall₂ IsBinding items pairs)
    : BindingsAt fields key pairs

theorem bindings_eq_ok_iff {pairs : List (String × String)}
    : bindings fields key = .ok pairs ↔ BindingsAt fields key pairs := by
  constructor
  · intro read
    unfold bindings at read
    split at read
    next found =>
      cases read
      exact .absent (field?_eq_iff.mp found)
    next value found =>
      split at read
      next null =>
        cases read
        exact .nothing (field?_eq_iff.mp found) null
      next items list =>
        exact .listed (field?_eq_iff.mp found) list ((mapM_eq_ok_iff binding_eq_ok_iff).mp read)
      next => cases read
  · intro listed
    unfold bindings
    cases listed with
    | absent content => rw [field?_eq_iff.mpr content]
    | nothing content null =>
        rw [field?_eq_iff.mpr content]
        simp only [null]
    | listed content list entries =>
        rw [field?_eq_iff.mpr content]
        simp only [list]
        exact (mapM_eq_ok_iff binding_eq_ok_iff).mpr entries

end Rehearsal.Document
