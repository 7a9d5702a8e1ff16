import Rehearsal.Proofs.Directive.Arguments
import Rehearsal.Proofs.Library.Choosing
import Rehearsal.Proofs.Text.Strip

/-! Lists as they are written in a directive, each item in quotation marks of its own or without.
The reading of a captured text takes one delimiter from either end of the whole list, whatever it
belongs to. That leaves a list of the same items, of which the first and the last may have lost a
mark on one side, and the splitting into items drops what marks there are on either side.
-/

namespace Rehearsal

-----------------------------------------------------------------------------------------
-- Splitting at the first separator
-----------------------------------------------------------------------------------------

namespace Text

variable {separator : Char} {part : List Char}

theorem splitAt_of_not_mem (free : separator ∉ part) : splitAt separator part = [part] := by
  induction part with
  | nil => rfl
  | cons c part ih =>
      rw [splitAt, if_neg (List.ne_of_not_mem_cons free).symm,
        ih (List.not_mem_of_not_mem_cons free)]

/-- What stands ahead of the first separator is the first part, by induction on it. -/
theorem splitAt_append_cons (free : separator ∉ part) (rest : List Char)
    : splitAt separator (part ++ separator :: rest) = part :: splitAt separator rest := by
  induction part with
  | nil => rw [List.nil_append, splitAt, if_pos rfl]
  | cons c part ih =>
      rw [List.cons_append, splitAt, if_neg (List.ne_of_not_mem_cons free).symm,
        ih (List.not_mem_of_not_mem_cons free)]

end Text

namespace Library

open Browser Text Capture

variable {item : String} {wanted : List String} {c : Char} {before text : List Char}

-----------------------------------------------------------------------------------------
-- Items between quotation marks
-----------------------------------------------------------------------------------------

/-- An item may stand in a written list: it holds no comma, and neither white space nor a delimiter
stands at its ends.
-/
structure IsListable (item : String) : Prop where
  whole : ',' ∉ item.toList
  trimmed : IsStripped isBlank item.toList
  undelimited : IsStripped isDelimiter item.toList

instance (item : String) : Decidable (IsListable item) :=
  decidable_of_iff
    (',' ∉ item.toList ∧ IsStripped isBlank item.toList ∧ IsStripped isDelimiter item.toList)
    ⟨fun parts => ⟨parts.1, parts.2.1, parts.2.2⟩,
      fun listable => ⟨listable.whole, listable.trimmed, listable.undelimited⟩⟩

theorem isQuote_iff : isQuote c = true ↔ c = '"' ∨ c = '\'' := by
  simp [isQuote]

theorem isDelimiter_of_isQuote (quote : isQuote c = true) : isDelimiter c = true := by
  rcases isQuote_iff.mp quote with rfl | rfl <;> decide

theorem isBlank_of_isQuote (quote : isQuote c = true) : isBlank c = false := by
  rcases isQuote_iff.mp quote with rfl | rfl <;> decide

/-- A text is an item with any number of quotation marks on either side. -/
structure IsMarked (item : String) (text : List Char) : Prop where
  listable : IsListable item
  marks
    : ∃ opening closing,
        (∀ c ∈ opening, isQuote c = true)
        ∧ (∀ c ∈ closing, isQuote c = true)
        ∧ text = opening ++ item.toList ++ closing

namespace IsMarked

theorem comma_not_mem (marked : IsMarked item text) : ',' ∉ text := by
  obtain ⟨opening, closing, opens, closes, rfl⟩ := marked.marks
  have unquoted : isQuote ',' ≠ true := by decide
  simp only [List.mem_append, not_or]
  exact ⟨⟨fun inside => unquoted (opens _ inside), marked.listable.whole⟩,
    fun inside => unquoted (closes _ inside)⟩

/-- Quotation marks are no white space. -/
theorem isStripped (marked : IsMarked item text) : IsStripped isBlank text := by
  obtain ⟨opening, closing, opens, closes, rfl⟩ := marked.marks
  have left := isStripped_of_forall fun c inside => isBlank_of_isQuote (opens c inside)
  have right := isStripped_of_forall fun c inside => isBlank_of_isQuote (closes c inside)
  exact (left.append marked.listable.trimmed).append right

/-- The item is read back, also with white space ahead of it. -/
theorem strip_eq (marked : IsMarked item text) (blank : ∀ c ∈ before, isBlank c = true)
    : strip isQuote (strip isBlank (before ++ text)) = item.toList := by
  have nothing : ∀ c ∈ ([] : List Char), isBlank c = true := by simp
  have trimmed : strip isBlank (before ++ text) = text := by
    simpa using strip_surrounded marked.isStripped blank nothing
  obtain ⟨opening, closing, opens, closes, rfl⟩ := marked.marks
  have unquoted := marked.listable.undelimited.mono isDelimiter_of_isQuote
  rw [trimmed]
  exact strip_surrounded unquoted opens closes

/-- A delimiter at the start is a quotation mark, and what follows it is the item still. -/
theorem of_cons (marked : IsMarked item (c :: text)) (delimiter : isDelimiter c = true)
    : isQuote c = true ∧ IsMarked item text := by
  obtain ⟨opening, closing, opens, closes, whole⟩ := marked.marks
  cases opening with
  | cons d opening =>
      obtain ⟨rfl, rfl⟩ := List.cons.inj whole
      obtain ⟨quote, opens⟩ := List.forall_mem_cons.mp opens
      exact ⟨quote, marked.listable, opening, closing, opens, closes, rfl⟩
  | nil =>
      cases chars : item.toList with
      | cons d rest =>
          rw [chars] at whole
          obtain ⟨rfl, _⟩ := List.cons.inj whole
          have plain := marked.listable.undelimited.first c (by rw [chars]; rfl)
          rw [delimiter] at plain
          cases plain
      | nil =>
          -- Of an empty item in closing marks only, the first mark is one of those.
          rw [chars] at whole
          obtain rfl : closing = c :: text := whole.symm
          obtain ⟨quote, closes⟩ := List.forall_mem_cons.mp closes
          exact ⟨quote, marked.listable, [], text, by simp, closes, by rw [chars]; rfl⟩

/-- A delimiter at the end is a quotation mark likewise. -/
theorem of_concat (marked : IsMarked item (text ++ [c])) (delimiter : isDelimiter c = true)
    : IsMarked item text := by
  obtain ⟨opening, closing, opens, closes, whole⟩ := marked.marks
  rcases List.eq_nil_or_concat' closing with rfl | ⟨closing, d, rfl⟩
  · rcases List.eq_nil_or_concat' item.toList with chars | ⟨front, d, chars⟩
    · rw [chars, List.append_nil, List.append_nil] at whole
      subst whole
      have opens := (List.forall_mem_append.mp opens).1
      exact ⟨marked.listable, text, [], opens, by simp, by simp [chars]⟩
    · rw [chars, List.append_nil, ← List.append_assoc] at whole
      obtain ⟨_, same⟩ := List.append_inj' whole rfl
      obtain rfl := List.singleton_inj.mp same
      have plain := marked.listable.undelimited.last c (by rw [chars, List.getLast?_concat])
      rw [delimiter] at plain
      cases plain
  · rw [← List.append_assoc] at whole
    obtain ⟨rfl, _⟩ := List.append_inj' whole rfl
    have closes := (List.forall_mem_append.mp closes).1
    exact ⟨marked.listable, opening, closing, opens, closes, rfl⟩

end IsMarked

-----------------------------------------------------------------------------------------
-- Items between commas
-----------------------------------------------------------------------------------------

/-- A text is some items, one at least, with commas and spaces between them. -/
inductive AreListed : List String → List Char → Prop
  | single {item : String} {text : List Char} (marked : IsMarked item text) : AreListed [item] text
  | cons {item : String} {items : List String} {text rest : List Char}
    (marked : IsMarked item text) (listed : AreListed items rest)
    : AreListed (item :: items) (text ++ ',' :: ' ' :: rest)

namespace AreListed

/-- The items are read back, also with white space ahead of the first, by induction on them. -/
theorem listItems_eq (listed : AreListed wanted text) (blank : ∀ c ∈ before, isBlank c = true)
    : listItems (String.ofList (before ++ text)) = wanted := by
  have free {before : List Char} (blank : ∀ c ∈ before, isBlank c = true) : ',' ∉ before := by
    intro inside
    cases blank _ inside
  induction listed generalizing before with
  | single marked =>
      have part : ',' ∉ before ++ _ := List.not_mem_append (free blank) marked.comma_not_mem
      rw [listItems, String.toList_ofList, splitAt_of_not_mem part, List.map_singleton,
        marked.strip_eq blank, String.ofList_toList]
  | @cons item items text rest marked _ ih =>
      have part : ',' ∉ before ++ text := List.not_mem_append (free blank) marked.comma_not_mem
      have space : ∀ c ∈ [' '], isBlank c = true := List.forall_mem_singleton.mpr (by decide)
      have others : listItems (String.ofList ([' '] ++ rest)) = items := ih space
      rw [listItems, String.toList_ofList, List.singleton_append] at others
      rw [listItems, String.toList_ofList, ← List.append_assoc, splitAt_append_cons part,
        List.map_cons, others, marked.strip_eq blank, String.ofList_toList]

/-- Only the first item can lose a delimiter at the start. -/
theorem of_cons (listed : AreListed wanted (c :: text)) (delimiter : isDelimiter c = true)
    : isQuote c = true ∧ AreListed wanted text := by
  generalize whole : c :: text = chars at listed
  cases listed with
  | single marked =>
      subst whole
      obtain ⟨quote, marked⟩ := marked.of_cons delimiter
      exact ⟨quote, .single marked⟩
  | @cons item items part rest marked listed =>
      cases part with
      | nil =>
          obtain ⟨rfl, _⟩ := List.cons.inj whole
          cases delimiter
      | cons d part =>
          obtain ⟨rfl, rfl⟩ := List.cons.inj whole
          obtain ⟨quote, marked⟩ := marked.of_cons delimiter
          exact ⟨quote, .cons marked listed⟩

/-- Only the last item can lose a delimiter at the end, by induction on the items. -/
theorem of_concat (listed : AreListed wanted (text ++ [c])) (delimiter : isDelimiter c = true)
    : AreListed wanted text := by
  generalize whole : text ++ [c] = chars at listed
  induction listed generalizing text with
  | single marked =>
      subst whole
      exact .single (marked.of_concat delimiter)
  | @cons item items part rest marked listed ih =>
      rcases List.eq_nil_or_concat' rest with rfl | ⟨front, d, rfl⟩
      · have split : text ++ [c] = (part ++ [',']) ++ [' '] := by simpa using whole
        obtain ⟨_, same⟩ := List.append_inj' split rfl
        cases same
        cases delimiter
      · have split : text ++ [c] = (part ++ ',' :: ' ' :: front) ++ [d] := by simpa using whole
        obtain ⟨rfl, same⟩ := List.append_inj' split rfl
        cases same
        exact .cons marked (ih rfl)

/-- Reading a captured text of some items leaves a text of the same items. -/
theorem unquote {raw : String} (listed : AreListed wanted raw.toList)
    : AreListed wanted (Capture.unquote raw).toList := by
  rcases unquotes_unquote raw with ⟨first, last, opens, closes, whole⟩ | ⟨_, same⟩
  · rw [whole] at listed
    exact (listed.of_cons opens).2.of_concat closes
  · rw [same]
    exact listed

/-- A text of some items refers to no variable: it does not start with a square bracket. -/
theorem ne_reference {raw : String} (listed : AreListed wanted raw.toList) (name : String)
    : raw ≠ reference name := by
  rintro rfl
  rw [reference_toList] at listed
  cases (listed.of_cons (by decide)).1

end AreListed

-----------------------------------------------------------------------------------------
-- Writing a list
-----------------------------------------------------------------------------------------

/-- How an item is written: as it is, or in quotation marks of one kind. -/
inductive Quoting where
  | bare
  | single
  | double
deriving DecidableEq

/-- The mark that stands on both sides of the item. -/
def Quoting.mark : Quoting → String
  | bare => ""
  | single => "'"
  | double => "\""

/-- An item as it is written. -/
def Quoting.write (quoting : Quoting) (item : String) : String :=
  quoting.mark ++ item ++ quoting.mark

/-- The written items with a comma and a space between them. -/
def writtenList (entries : List (Quoting × String)) : String :=
  ", ".intercalate (entries.map fun entry => entry.1.write entry.2)

theorem Quoting.isMarked_write (quoting : Quoting) (listable : IsListable item)
    : IsMarked item (quoting.write item).toList where
  listable := listable
  marks := by
    have quotes : quoting.mark.toList.all isQuote = true := by cases quoting <;> decide
    have quotes := List.all_eq_true.mp quotes
    exact ⟨_, _, quotes, quotes, by simp only [write, String.toList_append]⟩

/-- What is written is the items, by induction on them. -/
theorem areListed_writtenList {entries : List (Quoting × String)} (nonempty : entries ≠ [])
    (listable : ∀ entry ∈ entries, IsListable entry.2)
    : AreListed (entries.map Prod.snd) (writtenList entries).toList := by
  induction entries with
  | nil => exact absurd rfl nonempty
  | cons entry rest ih =>
      obtain ⟨first, others⟩ := List.forall_mem_cons.mp listable
      have marked := entry.1.isMarked_write first
      cases rest with
      | nil =>
          rw [writtenList, List.map_singleton, List.map_singleton, String.intercalate_singleton]
          exact .single marked
      | cons next rest =>
          have listed := ih (List.cons_ne_nil next rest) others
          have whole : (writtenList (entry :: next :: rest)).toList
              = (entry.1.write entry.2).toList ++ ',' :: ' '
                :: (writtenList (next :: rest)).toList := by
            rw [writtenList, List.map_cons, List.map_cons, String.intercalate_cons_cons,
              String.toList_append, String.toList_append]
            simp [writtenList]
          rw [whole]
          exact .cons marked listed

-----------------------------------------------------------------------------------------
-- Reading the list back
-----------------------------------------------------------------------------------------

/-- A captured list of items, each of them written in either kind of quotation marks or in none,
refers to no variable, and the handlers read the items back that have been written, in their order.
-/
theorem written_list_read_back {entries : List (Quoting × String)} (nonempty : entries ≠ [])
    (listable : ∀ entry ∈ entries, IsListable entry.2)
    : ∃ list,
        ofRaw (writtenList entries) = .literal list
        ∧ listItems list = entries.map Prod.snd
        ∧ ∀ scope found names args given,
            addArguments scope found names args = .ok given
            → "list" ∈ names
            → found.captured? "list" = some (writtenList entries)
            → ∀ session, (items given).on session = (.ok (entries.map Prod.snd), session) := by
  have listed := areListed_writtenList nonempty listable
  have read : listItems (Capture.unquote (writtenList entries)) = entries.map Prod.snd := by
    have nothing : ∀ c ∈ ([] : List Char), isBlank c = true := by simp
    simpa using listed.unquote.listItems_eq nothing
  refine ⟨_, ofRaw_of_not_reference listed.ne_reference, read, ?_⟩
  intro scope found names args given added member captured session
  obtain ⟨list, denotes, holds⟩ := exists_argument added member captured
  rw [argumentOf_of_not_reference listed.ne_reference] at denotes
  obtain rfl := Except.ok.inj denotes
  refine outcome_items_eq_ok_iff.mpr ⟨?_, rfl⟩
  rw [holds, Option.map_some, read]

/-- A list that mixes the ways of writing an item. One item is empty, and one has a mark within. -/
def mixedEntries : List (Quoting × String) :=
  [(.double, "blue cheese"), (.bare, "baker's choice"), (.single, ""), (.single, "olives")]

/-- What is left of it opens without a mark and closes without one, and its items are read back. -/
theorem mixed_list_read_back
    : ∃ list given,
        ofRaw "\"blue cheese\", baker's choice, '', 'olives'" = .literal list
        ∧ listItems list = ["blue cheese", "baker's choice", "", "olives"]
        ∧ addArguments {} ⟨[("list", writtenList mixedEntries)]⟩ ["list"] ∅ = .ok given
        ∧ (items given).on (.launch ∅)
          = (.ok ["blue cheese", "baker's choice", "", "olives"], .launch ∅) := by
  obtain ⟨list, literal, read, reads⟩ := written_list_read_back
    (by decide : mixedEntries ≠ []) (by decide +kernel)
  have written : writtenList mixedEntries = "\"blue cheese\", baker's choice, '', 'olives'" := by
    decide +kernel
  have added
      : addArguments {} ⟨[("list", writtenList mixedEntries)]⟩ ["list"] ∅
        = .ok ((∅ : Args).insert "list" "blue cheese\", baker's choice, '', 'olives") := by
    decide +kernel
  exact ⟨list, _, written ▸ literal, read, added,
    reads _ _ _ _ _ added (by decide) (by decide +kernel) _⟩

end Library
end Rehearsal
