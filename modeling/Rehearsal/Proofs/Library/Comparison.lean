import Rehearsal.Proofs.Capture
import Rehearsal.Proofs.Library.Forms
import Rehearsal.Proofs.Text.Part

/-! The expectations that compare something of an element with a quoted text, and what the forms
for elements read of them. The form of a comparison reads its own directives only; the form that
expects that an element does not exist reads those whose quoted text mentions it.
-/

namespace Rehearsal.Library

open Browser Pattern Text

-----------------------------------------------------------------------------------------
-- Directives with a quoted text
-----------------------------------------------------------------------------------------

/-- The expectations that look an element up and compare something of it with a quoted text. -/
inductive Comparison where
  | equalValue
  | matchingValue
  | noMatch
  | someMatch
deriving DecidableEq

namespace Comparison

/-- What stands between the element and the quoted text. -/
def words : Comparison → String
  | equalValue => " to have a value equal to "
  | matchingValue => " to contain a value of "
  | noMatch => " does not contain "
  | someMatch => " contains "

/-- The directive that compares an element with a text. -/
def directive (comparison : Comparison) (element payload : String) : String :=
  "Expect " ++ element ++ comparison.words ++ "\"" ++ payload ++ "\""

/-- The form that is registered for a comparison. -/
def draft : Comparison → Draft
  | equalValue =>
      ⟨"^Expect (?P<elem>.+) to have a value equal to \"(?P<value>.*)\"", expectValue, none⟩
  | matchingValue =>
      ⟨"^Expect (?P<elem>.+) to contain a value of \"(?P<regexp>.+)\"", expectValueMatches, none⟩
  | noMatch => ⟨"^Expect (?P<elem>.+) does not contain \"(?P<regexp>.+)\"", expectNotMatches, none⟩
  | someMatch => ⟨"^Expect (?P<elem>.+) contains \"(?P<regexp>.+)\"", expectMatches, none⟩

/-- The place of the form of a comparison in the registry. -/
def place : Comparison → Nat
  | equalValue => 29
  | matchingValue => 30
  | noMatch => 31
  | someMatch => 32

/-- The name under which the quoted text is captured. -/
def argument : Comparison → String
  | equalValue => "value"
  | _ => "regexp"

/-- The node that captures the quoted text. -/
def quoted : Comparison → Node
  | equalValue => anyRun "value" true
  | _ => run "regexp" true

/-- The nodes of the form of a comparison. -/
def nodes (comparison : Comparison) : List Node :=
  letters "Expect "
    ++ run "elem" true :: (lettersOf (comparison.words.toList ++ ['"'])
      ++ comparison.quoted :: lettersOf ['"'])

end Comparison

/-- The form that expects that an element does not exist. -/
def absenceDraft : Draft :=
  ⟨"^Expect (?P<elem>.+) to not exist", expectExists, some .elementNotFound⟩

/-- The words of the expectation that an element does not exist. -/
def absenceWords : List Char :=
  " to not exist".toList

/-- The nodes of this form. -/
def absenceNodes : List Node :=
  letters "Expect " ++ run "elem" true :: (lettersOf absenceWords ++ [])

theorem drafts_absence (timing : Timing) : (drafts timing)[28]? = some absenceDraft :=
  rfl

theorem drafts_comparison (timing : Timing) (comparison : Comparison)
    : (drafts timing)[comparison.place]? = some comparison.draft := by
  cases comparison <;> rfl

theorem formNodes_absence : formNodes[28]? = some absenceNodes := by
  decide +kernel

theorem formNodes_comparison (comparison : Comparison)
    : formNodes[comparison.place]? = some comparison.nodes := by
  cases comparison <;> decide +kernel

/-- The name of an element: a number sign, and neither white space nor quotation marks. -/
structure IsElementName (element : String) : Prop where
  sign : element.toList.head? = some '#'
  unbroken : element.toList.any isBlank = false
  unquoted : '"' ∉ element.toList

namespace IsElementName

variable {element : String}

theorem nonempty (named : IsElementName element) : element.toList ≠ [] := by
  intro empty
  have sign := named.sign
  rw [empty] at sign
  cases sign

theorem line (named : IsElementName element) : '\n' ∉ element.toList := by
  intro member
  exact List.any_eq_false.mp named.unbroken _ member (by decide)

theorem space (named : IsElementName element) : ' ' ∉ element.toList := by
  intro member
  exact List.any_eq_false.mp named.unbroken _ member (by decide)

end IsElementName

/-- A text that can be quoted and captured as it is: something on one line, without quotation
marks inside it and without delimiters around it.
-/
structure IsPayload (payload : String) : Prop where
  nonempty : payload.toList ≠ []
  line : '\n' ∉ payload.toList
  unquoted : '"' ∉ payload.toList
  bare : Capture.IsBare payload

-----------------------------------------------------------------------------------------
-- What the forms read of such a directive
-----------------------------------------------------------------------------------------

theorem directive_toList (comparison : Comparison) (element payload : String)
    : (comparison.directive element payload).toList
      = "Expect ".toList
        ++ (element.toList ++ comparison.words.toList ++ '"' :: (payload.toList ++ ['"'])) := by
  have quote : "\"".toList = ['"'] := by decide
  simp only [Comparison.directive, String.toList_append, quote, List.append_assoc,
    List.cons_append, List.nil_append]

/-- The words of a comparison without their last two characters. -/
def Comparison.stem (comparison : Comparison) : List Char :=
  comparison.words.toList.dropLast.dropLast

/-- The last letter of the words of a comparison. -/
def Comparison.lastLetter : Comparison → Char
  | equalValue => 'o'
  | matchingValue => 'f'
  | noMatch => 'n'
  | someMatch => 's'

namespace Comparison

theorem words_eq (comparison : Comparison)
    : comparison.words.toList = comparison.stem ++ [comparison.lastLetter, ' '] := by
  cases comparison <;> decide

theorem eq_of_sameLetter {other comparison : Comparison}
    (same : SameLetter other.lastLetter comparison.lastLetter)
    : other = comparison := by
  cases other <;> cases comparison <;> first | rfl | exact absurd same (by decide)

theorem unquoted_words (comparison : Comparison) : '"' ∉ comparison.words.toList := by
  cases comparison <;> decide

theorem line_words (comparison : Comparison) : '\n' ∉ comparison.words.toList := by
  cases comparison <;> decide

theorem not_mentionedIn_words (comparison : Comparison)
    : ¬ MentionedIn absenceWords comparison.words.toList := by
  cases comparison <;> decide +kernel

end Comparison

/-- Two quotation marks after two texts without any split a text in one way. -/
theorem parts_of_quoted {x p y r s : List Char} (freeX : '"' ∉ x) (freeP : '"' ∉ p)
    (same : x ++ '"' :: (p ++ ['"']) = y ++ '"' :: (r ++ '"' :: s))
    : x = y ∧ p = r ∧ s = [] := by
  have counts := congrArg (List.count '"') same
  simp only [List.count_append, List.count_cons_self, List.count_nil,
    List.count_eq_zero_of_not_mem freeX, List.count_eq_zero_of_not_mem freeP] at counts
  have freeY : '"' ∉ y := List.count_eq_zero.mp (by omega)
  have freeR : '"' ∉ r := List.count_eq_zero.mp (by omega)
  obtain ⟨rfl, tails⟩ := eq_of_append_cons freeX freeY same
  obtain ⟨rfl, rest⟩ := eq_of_append_cons freeP freeR tails
  exact ⟨rfl, rfl, rest.symm⟩

/-- If the words of a comparison are read, in any letter case, up to where those of another one
end, then the two are the same and what is read before the words is the same.
-/
theorem element_of_words {other comparison : Comparison} {element read words : List Char}
    (same : SameLetters other.words.toList words)
    (ends : element ++ comparison.words.toList = read ++ words)
    : other = comparison ∧ read = element := by
  have length := same.length_eq
  rw [other.words_eq] at same
  obtain ⟨stem, tail, rfl, _, letters⟩ := same.exists_append
  -- The last letter of the words tells the comparisons apart.
  have final : ∃ a b, tail = [a, b] ∧ SameLetter other.lastLetter a := by
    cases letters with
    | cons first letters =>
        cases letters with
        | cons _ letters =>
            cases letters with
            | nil => exact ⟨_, _, rfl, first⟩
  obtain ⟨a, b, rfl, first⟩ := final
  have ending : (element ++ comparison.stem) ++ [comparison.lastLetter, ' ']
      = (read ++ stem) ++ [a, b] := by
    rw [List.append_assoc, ← comparison.words_eq, ends, List.append_assoc]
  cases (List.append_inj' ending rfl).2
  obtain rfl := Comparison.eq_of_sameLetter first
  exact ⟨rfl, (List.append_inj' ends length.symm).1.symm⟩

/-- The quoted text is captured under the name of the argument. -/
theorem exists_reads_of_quoted {comparison : Comparison} {nodes : List Node}
    {start stop : Thread} (chain : Chain (comparison.quoted :: nodes) start stop)
    : ∃ read next, start.Reads comparison.argument read next ∧ Chain nodes next stop := by
  cases comparison with
  | equalValue =>
      obtain ⟨read, next, reads, _, chain⟩ := exists_reads_of_anyRun chain
      exact ⟨read, next, reads, chain⟩
  | _ =>
      obtain ⟨read, next, reads, _, _, chain⟩ := exists_reads_of_run chain
      exact ⟨read, next, reads, chain⟩

/-- What the forms for elements read of a directive after its first word. -/
theorem exists_reads_of_expect {nodes : List Node} {comparison : Comparison}
    {element payload : String} {stop : Thread}
    (chain
      : Chain (letters "Expect " ++ run "elem" true :: nodes)
          (.start (comparison.directive element payload).toList) stop)
    : ∃ read next,
        element.toList ++ comparison.words.toList ++ '"' :: (payload.toList ++ ['"'])
          = read ++ next.after
        ∧ read ≠ []
        ∧ next.position = 7 + read.length
        ∧ next.captures = [("elem", 7, next.position)]
        ∧ Chain nodes next stop := by
  obtain ⟨opening, behind, reads, same, chain⟩ := exists_reads_of_letters chain
  obtain ⟨read, next, reads', some_, _, chain⟩ := exists_reads_of_run chain
  have whole := reads.after
  change (comparison.directive element payload).toList = _ at whole
  rw [directive_toList] at whole
  have seven : opening.length = 7 := same.length_eq
  obtain ⟨rfl, tail⟩ := List.append_inj whole seven.symm
  have position : behind.position = 7 := reads.position
  refine ⟨read, next, tail.trans reads'.after, some_, ?_, ?_, chain⟩
  · rw [reads'.position, position]
  · rw [reads'.captures, reads.captures, position]
    rfl

/-- If a form of a comparison reads a directive with a quoted text, it is the directive's own, and
it captures the element and the quoted text.
-/
theorem captures_of_chain {other comparison : Comparison} {element payload : String}
    {stop : Thread} (named : IsElementName element) (quotable : IsPayload payload)
    (chain : Chain other.nodes (.start (comparison.directive element payload).toList) stop)
    : let first := 7 + element.toList.length
      let second := first + comparison.words.toList.length + 1
      other = comparison
      ∧ stop.captures
        = [(comparison.argument, second, second + payload.toList.length), ("elem", 7, first)] := by
  intro first second
  obtain ⟨read, start, whole, _, position, captures, chain⟩ := exists_reads_of_expect chain
  obtain ⟨marked, quote, reads, same, chain⟩ := exists_reads_of_letters chain
  obtain ⟨text, closing, reads', chain⟩ := exists_reads_of_quoted chain
  rw [← List.append_nil (lettersOf ['"'])] at chain
  obtain ⟨mark, end_, reads'', closes, chain⟩ := exists_reads_of_letters chain
  obtain rfl := chain_nil.mp chain
  obtain ⟨words, opening, rfl, sameWords, opens⟩ := same.exists_append
  have isQuote {mark : List Char} (same : SameLetters ['"'] mark) : mark = ['"'] := by
    cases same with
    | cons first rest =>
        cases rest with
        | nil => rw [sameLetter_quote.mp first]
  obtain rfl := isQuote opens
  obtain rfl := isQuote closes
  rw [reads.after, reads'.after, reads''.after] at whole
  have free : '"' ∉ element.toList ++ comparison.words.toList := by
    rw [List.mem_append]
    exact not_or.mpr ⟨named.unquoted, comparison.unquoted_words⟩
  obtain ⟨before, rfl, _⟩ := parts_of_quoted free quotable.unquoted
    (show _ = (read ++ words) ++ '"' :: (text ++ '"' :: stop.after) by simpa using whole)
  obtain ⟨rfl, rfl⟩ := element_of_words sameWords before
  refine ⟨rfl, ?_⟩
  have behind : quote.position = second := by
    have length := sameWords.length_eq
    have moved := reads.position
    simp only [List.length_append, List.length_singleton] at moved
    change _ = 7 + element.toList.length + other.words.toList.length + 1
    omega
  rw [reads''.captures, reads'.captures, reads.captures, captures, reads'.position, behind,
    position]
  rfl

/-- The form of a comparison reads its directive. -/
theorem exists_chain (comparison : Comparison) {element payload : String}
    (named : IsElementName element) (quotable : IsPayload payload)
    : ∃ stop,
        Chain comparison.nodes (.start (comparison.directive element payload).toList) stop := by
  refine exists_chain_letters (directive_toList comparison element payload) (.refl _)
    fun _ next => ?_
  rw [List.append_assoc] at next
  refine exists_chain_run next named.nonempty named.line fun _ next => ?_
  rw [List.append_cons] at next
  refine exists_chain_letters next (.refl _) fun _ quoted => ?_
  have closing (middle : Thread) (next : middle.after = ['"'])
      : ∃ stop, Chain (lettersOf ['"']) middle stop :=
    List.append_nil (lettersOf ['"'])
      ▸ exists_chain_letters next (.refl ['"']) fun last _ => ⟨last, .nil last⟩
  cases comparison with
  | equalValue => exact exists_chain_anyRun quoted quotable.line closing
  | _ => exact exists_chain_run quoted quotable.nonempty quotable.line closing

/-- What is taken for the name of an element if the quoted text is read as one that mentions, after
some beginning, that something does not exist.
-/
def Comparison.misread (comparison : Comparison) (element beginning : String) : String :=
  element ++ comparison.words ++ "\"" ++ beginning

theorem misread_toList (comparison : Comparison) (element beginning : String)
    : (comparison.misread element beginning).toList
      = element.toList ++ comparison.words.toList ++ '"' :: beginning.toList := by
  have quote : "\"".toList = ['"'] := by decide
  simp only [Comparison.misread, String.toList_append, quote, List.append_assoc,
    List.cons_append, List.nil_append]

/-- Wherever the words that something does not exist are read in a directive with a quoted text,
they are read in the quoted text: neither the element nor the words of a comparison hold them.
-/
theorem read_of_absenceWords {comparison : Comparison} {element payload : String}
    {read part after : List Char} (named : IsElementName element)
    (same : SameLetters absenceWords part)
    (whole
      : element.toList ++ comparison.words.toList ++ '"' :: (payload.toList ++ ['"'])
        = read ++ (part ++ after))
    : ∃ beginning,
        read = element.toList ++ comparison.words.toList ++ '"' :: beginning
        ∧ beginning ++ part <+: payload.toList := by
  have apart : absenceWords.all (fun letter => !decide (SameLetter letter '"')) = true := by
    decide
  have free : '"' ∉ part := same.not_mem (by simpa using apart)
  rcases infix_or_behind_of_append_cons free whole with inside | ⟨beginning, rfl, rest⟩
  · -- The part starts with a blank, and the name of the element holds none.
    refine absurd ⟨part, ?_, same⟩ comparison.not_mentionedIn_words
    cases same with
    | cons blank _ =>
        obtain rfl := sameLetter_space.mp blank
        exact infix_of_cons_infix_append named.space inside
  · have some_ : part ≠ [] := by
      rintro rfl
      cases same
    exact ⟨beginning, rfl, prefix_of_prefix_concat free some_ ⟨after, rest.symm⟩⟩

/-- If the form that expects that an element does not exist reads the directive of a comparison,
the quoted text mentions it, and all before the mention is captured as the element.
-/
theorem captures_of_absence_chain {comparison : Comparison} {element payload : String}
    {stop : Thread} (named : IsElementName element)
    (chain : Chain absenceNodes (.start (comparison.directive element payload).toList) stop)
    : ∃ beginning : String,
        (∃ part, beginning.toList ++ part <+: payload.toList ∧ SameLetters absenceWords part)
        ∧ stop.captures
          = [("elem", 7, 7 + (comparison.misread element beginning).toList.length)] := by
  obtain ⟨read, start, whole, _, position, captures, chain⟩ := exists_reads_of_expect chain
  obtain ⟨part, behind, reads, same, chain⟩ := exists_reads_of_letters chain
  obtain rfl := chain_nil.mp chain
  rw [reads.after] at whole
  obtain ⟨beginning, rfl, inside⟩ := read_of_absenceWords named same whole
  refine ⟨.ofList beginning, ⟨part, by rwa [String.toList_ofList], same⟩, ?_⟩
  rw [misread_toList, String.toList_ofList, reads.captures, captures, position]
  rfl

/-- If the quoted text of a comparison mentions that something does not exist, the form that
expects that an element does not exist reads the directive.
-/
theorem exists_absence_chain (comparison : Comparison) {element payload : String}
    (named : IsElementName element) (quotable : IsPayload payload)
    (mentioned : MentionedIn absenceWords payload.toList)
    : ∃ stop,
        Chain absenceNodes (.start (comparison.directive element payload).toList) stop := by
  obtain ⟨part, ⟨before, after, whole⟩, same⟩ := mentioned
  refine exists_chain_letters (directive_toList comparison element payload) (.refl _)
    fun _ next => ?_
  have split : element.toList ++ comparison.words.toList ++ '"' :: (payload.toList ++ ['"'])
      = (element.toList ++ comparison.words.toList ++ '"' :: before)
        ++ (part ++ (after ++ ['"'])) := by
    simp [← whole]
  rw [split] at next
  refine exists_chain_run next ?_ ?_ fun _ next => ?_
  · simp [named.nonempty]
  · have line := quotable.line
    rw [← whole] at line
    simp only [List.mem_append, List.mem_cons, not_or] at line ⊢
    exact ⟨⟨named.line, comparison.line_words⟩, by decide, line.1.1⟩
  · exact exists_chain_letters next same fun last _ => ⟨last, .nil last⟩

end Rehearsal.Library
