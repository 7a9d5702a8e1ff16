import Rehearsal.Proofs.Library.Comparison
import Rehearsal.Proofs.Library.Counterpart
import Rehearsal.Proofs.Library.Limit

/-! What the form that repeats a check captures of a directive with a time limit, and what the form
that looks once captures of the directive without it. Both split the directive into the same words
and texts. Where that can be done in several ways, the form that repeats the check takes the way
with the shortest first text, and its counterpart the way with the longest.
-/

namespace Rehearsal.Library

open Pattern Text

-----------------------------------------------------------------------------------------
-- The shapes of the forms
-----------------------------------------------------------------------------------------

/-- The shape of two forms for one expectation: a text between words, of which the form that polls
may prefer few characters, or an element that is compared with a quoted text.
-/
inductive Shape where
  | single (opening name closing : String) (modest : Bool)
  | comparing (comparison : Comparison)
deriving DecidableEq

namespace Shape

/-- The words ahead of the first captured text. -/
def opening : Shape → String
  | single opening _ _ _ => opening
  | comparing _ => "Expect "

/-- The name of the first captured text. -/
def name : Shape → String
  | single _ name _ _ => name
  | comparing _ => "elem"

/-- Whether the form that polls prefers few characters for the first text. -/
def modest : Shape → Bool
  | single _ _ _ modest => modest
  | comparing _ => true

/-- The pieces behind the first text. -/
def rest : Shape → List Piece
  | single _ _ closing _ => [.words closing]
  | comparing comparison =>
      [.words (comparison.words ++ "\""),
        .group comparison.argument (comparison == .equalValue) true,
        .words "\""]

/-- The pieces of the form that polls, or of the one that looks once. -/
def pieces (shape : Shape) (polls : Bool) : List Piece :=
  .words shape.opening :: .group shape.name false (!(polls && shape.modest)) :: shape.rest

end Shape

/-- The shapes of the forms that poll, in their order. -/
def shapes : List Shape :=
  [.single "Expect Page Title is \"" "title" "\"" false,
    .single "Expect url to be \"" "url" "\"" false,
    .single "Expect url to contain \"" "url" "\"" false,
    .single "Expect an alert with text \"" "text" "\"" false,
    .single "expect to see content " "content" "" true,
    .single "expect exists " "elem" "" true,
    .single "Expect " "elem" " to not exist" true,
    .comparing .equalValue,
    .comparing .matchingValue,
    .comparing .noMatch,
    .comparing .someMatch,
    .single "Expect " "elem" " is not selected" true,
    .single "Expect " "elem" " is selected" true]

theorem pollingNodes_eq
    : pollingNodes = shapes.map fun shape => Piece.nodesOf (shape.pieces true) := by
  decide +kernel

theorem expectationNodes_eq
    : expectationNodes.take 4 ++ expectationNodes.drop 13
      = shapes.map fun shape => Piece.nodesOf (shape.pieces false) := by
  decide +kernel

-----------------------------------------------------------------------------------------
-- Readings
-----------------------------------------------------------------------------------------

/-- A text is read in a shape, with a first text and with the further texts by name. -/
structure Shape.IsReading (shape : Shape) (text first : List Char)
    (others : List (String × List Char))
    : Prop where
  admitted : Piece.Admits false first
  parts
    : ∃ opening rest,
        text = opening ++ (first ++ rest)
        ∧ SameLetters shape.opening.toList opening
        ∧ Splits shape.rest rest others

theorem Shape.isReading_of_splits {shape : Shape} {polls : Bool} {text : List Char}
    {groups : List (String × List Char)} (splits : Splits (shape.pieces polls) text groups)
    : ∃ first others,
        groups = (shape.name, first) :: others ∧ shape.IsReading text first others := by
  cases splits with
  | words same later =>
      cases later with
      | group admitted later => exact ⟨_, _, rfl, admitted, _, _, rfl, same, later⟩

theorem Shape.IsReading.splits {shape : Shape} {text first : List Char}
    {others : List (String × List Char)} (reading : shape.IsReading text first others)
    (polls : Bool)
    : Splits (shape.pieces polls) text ((shape.name, first) :: others) := by
  obtain ⟨opening, rest, rfl, same, later⟩ := reading.parts
  exact .words same (.group reading.admitted later)

-----------------------------------------------------------------------------------------
-- Which reading is taken
-----------------------------------------------------------------------------------------

theorem Shape.isFlat_limited (shape : Shape)
    : ∀ node ∈ Piece.nodesOf (shape.pieces true) ++ finalLimit, node.IsFlat = true := by
  intro node member
  rcases List.mem_append.mp member with inside | limits
  · exact isFlat_nodesOf _ node inside
  · exact isFlat_finalLimit node limits

section taken

variable {shape : Shape} {text first : List Char} {others : List (String × List Char)}

/-- With a time limit behind a text, the form that polls captures the reading of the text whose
first text it tries first.
-/
theorem Shape.IsReading.exists_limited (reading : shape.IsReading text first others)
    {clause numeral : List Char} (limit : IsLimit clause numeral)
    : ∃ stop taken others',
        firstChain (Piece.nodesOf (shape.pieces true) ++ finalLimit) (.start (text ++ clause))
          = some stop
        ∧ stop.HasRead (text ++ clause)
            (("seconds", numeral) :: (others'.reverse ++ [(shape.name, taken)]))
        ∧ shape.IsReading text taken others'
        ∧ ∀ other others,
            shape.IsReading text other others → ¬ TriedBefore (!shape.modest) other taken := by
  have start : (Thread.start (text ++ clause)).HasRead (text ++ clause) [] := .start _
  have readable : ∃ stop,
      Chain (Piece.nodesOf (shape.pieces true) ++ finalLimit) (.start (text ++ clause)) stop :=
    (reading.splits true).exists_chain rfl fun _ next => limit.exists_chain next
  obtain ⟨_, chain⟩ := readable
  obtain ⟨stop, found⟩ :=
    Option.isSome_iff_exists.mp (isSome_firstChain chain shape.isFlat_limited (.refl _))
  obtain ⟨opening, taken, next, same, admitted, whole, has, later, misses⟩ :=
    exists_of_firstChain_words (fun _ => by contradiction) isFlat_finalLimit found start
  obtain ⟨rest, others', middle, splits, after, hasMiddle, limits⟩ :=
    exists_splits (chain_of_firstChain later) has
  obtain ⟨numeral', limit', hasStop⟩ := isLimit_of_chain limits hasMiddle
  have split : (opening ++ (taken ++ rest)) ++ middle.after = text ++ clause := by
    rw [List.append_assoc, List.append_assoc, ← after]
    exact whole.symm
  obtain ⟨rfl, _, rfl⟩ := limit'.unique limit split
  refine ⟨stop, taken, others', found, hasStop, ⟨admitted, opening, rest, rfl, same, splits⟩, ?_⟩
  intro other others'' reading' before
  obtain ⟨opening', rest', whole', same', splits'⟩ := reading'.parts
  refine misses opening' other (rest' ++ clause) same' reading'.admitted ?_ before ?_
  · change (opening ++ (taken ++ rest)) ++ clause = _
    rw [whole', List.append_assoc, List.append_assoc]
  · intro middle next
    exact splits'.exists_chain next fun _ next => limit.exists_chain next

/-- Behind the first text a form reads up to the end of a text, if what is left is at the end of
something that can be read so.
-/
def Shape.IsTight (shape : Shape) : Prop :=
  ∀ ⦃whole others text captured next stop⦄,
    Splits shape.rest whole others
    → next.after <:+ whole
    → next.HasRead text captured
    → firstChain (Piece.nodesOf shape.rest) next = some stop
    → stop.after = []

/-- The form that looks once captures the reading with the longest first text. -/
theorem Shape.IsReading.exists_once (reading : shape.IsReading text first others)
    (tight : shape.IsTight)
    : ∃ stop taken others',
        firstChain (Piece.nodesOf (shape.pieces false)) (.start text) = some stop
        ∧ stop.HasRead text (others'.reverse ++ [(shape.name, taken)])
        ∧ shape.IsReading text taken others'
        ∧ ∀ other others, shape.IsReading text other others → other.length ≤ taken.length := by
  have start : (Thread.start text).HasRead text [] := .start _
  have leads {middle : Thread} : ∃ stop, Chain [] middle stop := ⟨middle, .nil middle⟩
  have readable : ∃ stop, Chain (Piece.nodesOf (shape.pieces false) ++ []) (.start text) stop :=
    (reading.splits false).exists_chain (List.append_nil text).symm fun _ _ => leads
  obtain ⟨_, chain⟩ := readable
  rw [List.append_nil] at chain
  obtain ⟨stop, found⟩ :=
    Option.isSome_iff_exists.mp (isSome_firstChain chain (isFlat_nodesOf _) (.refl _))
  rw [← List.append_nil (Piece.nodesOf _)] at found
  obtain ⟨opening, taken, next, same, admitted, whole, has, later, misses⟩ :=
    exists_of_firstChain_words (fun _ => rfl) (by simp) found start
  rw [List.append_nil] at found
  have longest
      : ∀ other others, shape.IsReading text other others → other.length ≤ taken.length := by
    intro other others' reading'
    obtain ⟨opening', rest', whole', same', splits'⟩ := reading'.parts
    by_contra longer
    refine misses opening' other rest' same' reading'.admitted whole' (Nat.lt_of_not_le longer) ?_
    intro middle next
    exact splits'.exists_chain (next.trans (List.append_nil rest').symm) fun _ _ => leads
  have done : stop.after = [] := by
    obtain ⟨opening', rest', whole', same', splits'⟩ := reading.parts
    rw [List.append_nil] at later
    refine tight splits' ?_ has later
    have ending : next.after <:+ text :=
      ⟨opening ++ taken, (List.append_assoc _ _ _).trans whole.symm⟩
    have ending' : rest' <:+ text :=
      ⟨opening' ++ first, (List.append_assoc _ _ _).trans whole'.symm⟩
    refine List.suffix_of_suffix_length_le ending ending' ?_
    have lengths := congrArg List.length (whole.symm.trans whole')
    have longer := longest first others reading
    have length : opening.length = opening'.length := same.length_eq.trans same'.length_eq.symm
    simp only [List.length_append] at lengths
    omega
  obtain ⟨rest, others', middle, splits, after, hasMiddle, ends⟩ :=
    exists_splits (chain_of_firstChain later) has
  obtain rfl := chain_nil.mp ends
  rw [done, List.append_nil] at after
  rw [after] at whole
  exact ⟨stop, taken, others', found, hasMiddle, ⟨admitted, opening, rest, whole, same, splits⟩,
    longest⟩

end taken

-----------------------------------------------------------------------------------------
-- One text between words
-----------------------------------------------------------------------------------------

theorem splits_words {words : String} {whole : List Char} {others : List (String × List Char)}
    : Splits [.words words] whole others ↔ SameLetters words.toList whole ∧ others = [] := by
  constructor
  · intro splits
    cases splits with
    | words same later =>
        cases later with
        | nil =>
            rw [List.append_nil]
            exact ⟨same, rfl⟩
  · rintro ⟨same, rfl⟩
    have splits := Splits.words same .nil
    rwa [List.append_nil] at splits

/-- Nothing is left behind the closing words. -/
theorem Shape.isTight_single (opening name closing : String) (modest : Bool)
    : (Shape.single opening name closing modest).IsTight := by
  intro whole others text captured next stop splits part has first
  have chain := chain_of_firstChain first
  rw [← List.append_nil (Piece.nodesOf _)] at chain
  obtain ⟨read, _, middle, splits', after, _, ends⟩ := exists_splits chain has
  obtain rfl := chain_nil.mp ends
  have length := (splits_words.mp splits).1.length_eq
  have length' := (splits_words.mp splits').1.length_eq
  have shorter := part.length_le
  rw [after, List.length_append] at shorter
  exact List.eq_nil_of_length_eq_zero (by omega)

/-- A text between words is read in one way. -/
theorem Shape.IsReading.unique_single {opening name closing : String} {modest : Bool}
    {text first first' : List Char} {others others' : List (String × List Char)}
    (reading : (Shape.single opening name closing modest).IsReading text first others)
    (reading' : (Shape.single opening name closing modest).IsReading text first' others')
    : first = first' ∧ others = [] ∧ others' = [] := by
  obtain ⟨before, rest, rfl, same, splits⟩ := reading.parts
  obtain ⟨before', rest', whole, same', splits'⟩ := reading'.parts
  obtain ⟨ending, rfl⟩ := splits_words.mp splits
  obtain ⟨ending', rfl⟩ := splits_words.mp splits'
  obtain ⟨_, tails⟩ := List.append_inj whole (same.length_eq.trans same'.length_eq.symm)
  exact ⟨(List.append_inj' tails (ending.length_eq.trans ending'.length_eq.symm)).1, rfl, rfl⟩

-----------------------------------------------------------------------------------------
-- An element and a quoted text
-----------------------------------------------------------------------------------------

namespace Comparison

variable {comparison : Comparison}

theorem sameLetters_quote {mark : List Char} : SameLetters "\"".toList mark ↔ mark = ['"'] := by
  have quote : "\"".toList = ['"'] := by decide
  rw [quote]
  constructor
  · intro same
    obtain ⟨c, _, isQuote, empty, rfl⟩ := List.forall₂_cons_left_iff.mp same
    cases List.forall₂_nil_left_iff.mp empty
    rw [sameLetter_quote.mp isQuote]
  · rintro rfl
    exact .refl _

/-- What is left behind the element is the words and a quoted text. -/
theorem splits_rest {whole : List Char} {others : List (String × List Char)}
    : Splits (Shape.comparing comparison).rest whole others
      ↔ ∃ words payload,
          whole = words ++ (payload ++ ['"'])
          ∧ SameLetters (comparison.words ++ "\"").toList words
          ∧ Piece.Admits (comparison == .equalValue) payload
          ∧ others = [(comparison.argument, payload)] := by
  constructor
  · intro splits
    cases splits with
    | words same later =>
        cases later with
        | group admitted later =>
            obtain ⟨mark, rfl⟩ := splits_words.mp later
            obtain rfl := sameLetters_quote.mp mark
            exact ⟨_, _, rfl, same, admitted, rfl⟩
  · rintro ⟨words, payload, rfl, same, admitted, rfl⟩
    exact .words same (.group admitted (splits_words.mpr ⟨sameLetters_quote.mpr rfl, rfl⟩))

/-- Readings with elements of one length are one. -/
theorem reading_unique {text first first' : List Char} {others others' : List (String × List Char)}
    (reading : (Shape.comparing comparison).IsReading text first others)
    (reading' : (Shape.comparing comparison).IsReading text first' others')
    (length : first.length = first'.length)
    : first = first' ∧ others = others' := by
  obtain ⟨before, rest, rfl, same, splits⟩ := reading.parts
  obtain ⟨before', rest', whole, same', splits'⟩ := reading'.parts
  obtain ⟨words, payload, rfl, sameWords, _, rfl⟩ := splits_rest.mp splits
  obtain ⟨words', payload', rfl, sameWords', _, rfl⟩ := splits_rest.mp splits'
  obtain ⟨_, tails⟩ := List.append_inj whole (same.length_eq.trans same'.length_eq.symm)
  obtain ⟨rfl, rests⟩ := List.append_inj tails length
  obtain ⟨_, quoted⟩ :=
    List.append_inj rests (sameWords.length_eq.trans sameWords'.length_eq.symm)
  obtain ⟨rfl, _⟩ := List.append_inj' quoted rfl
  exact ⟨rfl, rfl⟩

theorem line_quotedWords (comparison : Comparison)
    : ∀ letter ∈ (comparison.words ++ "\"").toList, ¬ SameLetter letter '\n' := by
  have apart
      : (comparison.words ++ "\"").toList.all (fun letter => !decide (SameLetter letter '\n'))
        = true := by
    cases comparison <;> decide +kernel
  intro letter member
  simpa using List.all_eq_true.mp apart letter member

/-- Nothing is left behind the last quotation mark of a line: the quoted text would have gone on up
to it.
-/
theorem isTight_shape (comparison : Comparison) : (Shape.comparing comparison).IsTight := by
  intro whole others text captured next stop splits ⟨before, ending⟩ has first
  obtain ⟨words, payload, rfl, same, admitted, _⟩ := splits_rest.mp splits
  rw [← List.append_nil (Piece.nodesOf _)] at first
  obtain ⟨words', payload', behind, same', admitted', after, hasBehind, later, misses⟩ :=
    exists_of_firstChain_words (fun _ => rfl) (by simp) first has
  obtain ⟨mark, _, middle, splits', after', _, ends⟩ :=
    exists_splits (chain_of_firstChain later) hasBehind
  obtain rfl := chain_nil.mp ends
  obtain rfl := sameLetters_quote.mp (splits_words.mp splits').1
  by_contra left
  obtain ⟨more, last, rest⟩ : ∃ more last, stop.after = more ++ [last] :=
    ⟨_, _, (List.dropLast_append_getLast left).symm⟩
  rw [after, after', rest] at ending
  have longer : payload' ++ (['"'] ++ (more ++ [last])) = (payload' ++ '"' :: more) ++ [last] := by
    simp
  rw [longer] at ending
  have line : '\n' ∉ words ++ (payload ++ ['"']) := by
    have free := same.not_mem comparison.line_quotedWords
    simp [free, admitted.2]
  have lastQuote : last = '"' := by
    have parts : (before ++ (words' ++ (payload' ++ '"' :: more))) ++ [last]
        = (words ++ payload) ++ ['"'] := by
      simpa using ending
    exact List.singleton_inj.mp (List.append_inj' parts rfl).2
  subst lastQuote
  refine misses words' (payload' ++ '"' :: more) ['"'] same' ⟨fun _ => by simp, ?_⟩ ?_ ?_ ?_
  · intro member
    apply line
    rw [← ending]
    exact List.mem_append_right _ (List.mem_append_right _ (List.mem_append_left _ member))
  · rw [after, after', rest, longer]
  · change payload'.length < (payload' ++ '"' :: more).length
    rw [List.length_append, List.length_cons]
    omega
  · intro middle next
    refine (splits_words.mpr ⟨sameLetters_quote.mpr rfl, rfl⟩).exists_chain
      (next.trans (List.append_nil _).symm) fun last _ => ⟨last, .nil last⟩

end Comparison

end Rehearsal.Library
