import Rehearsal.Proofs.Library.Forms
import Rehearsal.Proofs.Pattern.Piece
import Rehearsal.Proofs.Text.Part

/-! The time limit at the end of a directive. A text ends in one time limit at most, since every
time limit starts with the first of its three blanks.
-/

namespace Rehearsal.Library

open Pattern Text

/-- Some decimal digits, of any script. -/
def IsDigits (text : List Char) : Prop :=
  text ≠ [] ∧ ∀ c ∈ text, Property.decimalDigits.mem c = true

/-- A written number of seconds, with or without a fraction. -/
inductive IsNumeral : List Char → Prop where
  | whole {text} (digits : IsDigits text) : IsNumeral text
  | fraction {whole part} (digits : IsDigits whole) (partDigits : IsDigits part)
    : IsNumeral (whole ++ '.' :: part)

/-- A time limit and the number of seconds in it. -/
structure IsLimit (text numeral : List Char) : Prop where
  number : IsNumeral numeral
  parts
    : ∃ opening unit plural,
        text = opening ++ (numeral ++ (unit ++ plural))
        ∧ SameLetters " within ".toList opening
        ∧ SameLetters " second".toList unit
        ∧ (plural = [] ∨ SameLetters "s".toList plural)

-----------------------------------------------------------------------------------------
-- The blanks of a time limit
-----------------------------------------------------------------------------------------

theorem IsDigits.space {text : List Char} (digits : IsDigits text) : ' ' ∉ text := by
  intro member
  have inside := digits.2 ' ' member
  revert inside
  decide +kernel

theorem IsNumeral.space {text : List Char} (numeral : IsNumeral text) : ' ' ∉ text := by
  cases numeral with
  | whole digits => exact digits.space
  | fraction digits partDigits =>
      simp [digits.space, partDigits.space]

/-- Letters in another case hold as many blanks, by induction on the letters. -/
theorem count_space_of_sameLetters {letters text : List Char} (same : SameLetters letters text)
    (apart : letters.all (fun letter => letter == ' ' || !decide (SameLetter letter ' ')) = true)
    : text.count ' ' = letters.count ' ' := by
  induction same with
  | nil => rfl
  | @cons letter c letters text first _ ih =>
      rw [List.all_cons, Bool.and_eq_true] at apart
      obtain ⟨head, tail⟩ := apart
      have alike : c = ' ' ↔ letter = ' ' := by
        constructor
        · rintro rfl
          simpa [first] using head
        · rintro rfl
          exact sameLetter_space.mp first
      rw [List.count_cons, List.count_cons, ih tail]
      simp [alike]

/-- A time limit has three blanks. -/
theorem IsLimit.count_space {text numeral : List Char} (limit : IsLimit text numeral)
    : text.count ' ' = 3 := by
  obtain ⟨opening, unit, plural, rfl, within_, second, ending⟩ := limit.parts
  have plain : plural.count ' ' = 0 := by
    rcases ending with rfl | same
    · rfl
    · exact count_space_of_sameLetters same (by decide)
  rw [List.count_append, List.count_append, List.count_append, plain,
    count_space_of_sameLetters within_ (by decide), count_space_of_sameLetters second (by decide),
    List.count_eq_zero_of_not_mem limit.number.space]
  decide

/-- A time limit starts with a blank. -/
theorem IsLimit.exists_cons {text numeral : List Char} (limit : IsLimit text numeral)
    : ∃ rest, text = ' ' :: rest := by
  obtain ⟨opening, unit, plural, rfl, within_, _⟩ := limit.parts
  cases within_ with
  | cons blank _ =>
      obtain rfl := sameLetter_space.mp blank
      exact ⟨_, rfl⟩

/-- Of two time limits at the end of one text, none is longer. -/
theorem IsLimit.le_of_append_eq {before before' text text' numeral numeral' : List Char}
    (limit : IsLimit text numeral) (limit' : IsLimit text' numeral')
    (whole : before ++ text = before' ++ text')
    : before.length ≤ before'.length := by
  by_contra longer
  have part : text <:+ text' := by
    refine List.suffix_of_suffix_length_le ⟨before, rfl⟩ ⟨before', whole.symm⟩ ?_
    have lengths := congrArg List.length whole
    simp only [List.length_append] at lengths
    omega
  obtain ⟨extra, rfl⟩ := part
  have counts := limit'.count_space
  rw [List.count_append, limit.count_space] at counts
  obtain ⟨rest, starts⟩ := limit'.exists_cons
  cases extra with
  | nil =>
      have lengths := congrArg List.length whole
      simp only [List.length_append, List.length_nil] at lengths
      omega
  | cons c extra =>
      rw [List.cons_append] at starts
      cases starts
      rw [List.count_cons_self] at counts
      omega

/-- A text ends in one time limit at most. -/
theorem IsLimit.unique {before before' text text' numeral numeral' : List Char}
    (limit : IsLimit text numeral) (limit' : IsLimit text' numeral')
    (whole : before ++ text = before' ++ text')
    : before = before' ∧ text = text' ∧ numeral = numeral' := by
  have length := Nat.le_antisymm (limit.le_of_append_eq limit' whole)
    (limit'.le_of_append_eq limit whole.symm)
  obtain ⟨same, tails⟩ := List.append_inj whole length
  refine ⟨same, tails, ?_⟩
  obtain ⟨opening, unit, plural, rfl, within_, second, _⟩ := limit.parts
  obtain ⟨opening', unit', plural', rfl, within', second', _⟩ := limit'.parts
  obtain ⟨_, rest⟩ := List.append_inj tails (within_.length_eq.trans within'.length_eq.symm)
  cases second with
  | cons blank _ =>
      cases second' with
      | cons blank' _ =>
          obtain rfl := sameLetter_space.mp blank
          obtain rfl := sameLetter_space.mp blank'
          exact (eq_of_append_cons limit.number.space limit'.number.space rest).1

-----------------------------------------------------------------------------------------
-- What the nodes of the time limit read
-----------------------------------------------------------------------------------------

/-- The nodes of the time limit at the end of a text. -/
def finalLimit : List Node :=
  limitNodes ++ [.look .textEnd]

theorem leads_digits {start stop : Thread}
    : (Node.plus (.chars Property.decimalDigits) true).Leads start stop
      ↔ ∃ read, IsDigits read ∧ read <+: start.after ∧ stop = start.move read := by
  rw [leads_plus_chars]
  constructor
  · rintro ⟨read, some_, digits, part, rfl⟩
    exact ⟨read, ⟨some_, digits⟩, part, rfl⟩
  · rintro ⟨read, ⟨some_, digits⟩, part, rfl⟩
    exact ⟨read, some_, digits, part, rfl⟩

/-- A point and digits are read as the fraction of a number. -/
theorem chain_fraction {start stop : Thread}
    : Chain (letters "." ++ [.plus (.chars Property.decimalDigits) true]) start stop
      ↔ ∃ read, IsDigits read ∧ '.' :: read <+: start.after ∧ stop = start.move ('.' :: read) := by
  have point {c : Char} : SameLetter '.' c ↔ c = '.' := sameLetter_iff_eq (by decide)
  have dot : letters "." = lettersOf ['.'] := by decide +kernel
  rw [dot, chain_append]
  constructor
  · rintro ⟨_, first, last⟩
    obtain ⟨mark, same, ⟨rest, next⟩, rfl⟩ := chain_letters.mp first
    obtain ⟨c, _, isPoint, empty, rfl⟩ := List.forall₂_cons_left_iff.mp same
    cases List.forall₂_nil_left_iff.mp empty
    obtain rfl := point.mp isPoint
    obtain ⟨_, leads, ends⟩ := chain_cons.mp last
    obtain rfl := chain_nil.mp ends
    obtain ⟨read, digits, part, rfl⟩ := leads_digits.mp leads
    rw [Thread.move_after next.symm] at part
    refine ⟨read, digits, ?_, Thread.move_move _ _ _⟩
    rw [← next]
    exact List.cons_prefix_cons.mpr ⟨rfl, part⟩
  · rintro ⟨read, digits, ⟨rest, next⟩, rfl⟩
    refine ⟨start.move ['.'], chain_letters.mpr ⟨['.'], .refl _, ?_, rfl⟩, ?_⟩
    · exact ⟨read ++ rest, next⟩
    · have behind : (start.move ['.']).after = read ++ rest := Thread.move_after next.symm
      refine chain_cons.mpr ⟨_, leads_digits.mpr ⟨read, digits, ⟨rest, behind.symm⟩, rfl⟩, ?_⟩
      exact chain_nil.mpr (Thread.move_move start ['.'] read).symm

/-- The group of the time limit captures a number of seconds. -/
theorem leads_secondsNode {start stop : Thread}
    : secondsNode.Leads start stop
      ↔ ∃ read,
          IsNumeral read
          ∧ read <+: start.after
          ∧ stop = (start.move read).record "seconds" start.position := by
  unfold secondsNode
  rw [leads_capture]
  constructor
  · rintro ⟨_, leads, rfl⟩
    cases leads with
    | seq first rest =>
        obtain ⟨whole, digits, ⟨behind, next⟩, rfl⟩ := leads_digits.mp first
        rcases leads_opt.mp rest with fraction | rfl
        · obtain ⟨part, partDigits, inside, rfl⟩ := chain_fraction.mp (leads_concat.mp fraction)
          rw [Thread.move_after next.symm] at inside
          refine ⟨whole ++ '.' :: part, .fraction digits partDigits, ?_, ?_⟩
          · rw [← next]
            exact (List.prefix_append_right_inj whole).mpr inside
          · rw [Thread.move_move]
        · exact ⟨whole, .whole digits, ⟨behind, next⟩, rfl⟩
  · rintro ⟨read, numeral, part, rfl⟩
    cases numeral with
    | whole digits =>
        refine ⟨_, .seq (leads_digits.mpr ⟨read, digits, part, rfl⟩) ?_, rfl⟩
        exact leads_opt.mpr (.inr rfl)
    | @fraction whole fraction digits partDigits =>
        obtain ⟨rest, next⟩ := part
        rw [List.append_assoc] at next
        have behind := Thread.move_after next.symm
        refine ⟨_, .seq (leads_digits.mpr ⟨whole, digits, ⟨_, next⟩, rfl⟩) ?_, rfl⟩
        refine leads_opt.mpr (.inl (leads_concat.mpr (chain_fraction.mpr ?_)))
        exact ⟨fraction, partDigits, ⟨rest, behind.symm⟩, (Thread.move_move _ _ _).symm⟩

/-- The nodes of the time limit stand one behind the other. -/
theorem finalLimit_eq
    : finalLimit
      = letters " within " ++ secondsNode
          :: (letters " second" ++ [.opt (.concat (letters "s")) true, .look .textEnd]) := by
  simp [finalLimit, limitNodes]

/-- The nodes of the time limit read one at the end of a text and capture the number of seconds. -/
theorem isLimit_of_chain {text : List Char} {captured : List (String × List Char)}
    {start stop : Thread} (chain : Chain finalLimit start stop) (has : start.HasRead text captured)
    : ∃ numeral,
        IsLimit start.after numeral ∧ stop.HasRead text (("seconds", numeral) :: captured) := by
  rw [finalLimit_eq] at chain
  obtain ⟨opening, first, reads, within_, chain⟩ := exists_reads_of_letters chain
  obtain ⟨_, leads, chain⟩ := chain_cons.mp chain
  obtain ⟨numeral, number, ⟨_, next⟩, rfl⟩ := leads_secondsNode.mp leads
  have reads' := Thread.reads_record "seconds" next.symm
  obtain ⟨unit, last, reads'', second, chain⟩ := exists_reads_of_letters chain
  obtain ⟨final, maybe, looks⟩ := chain_cons.mp chain
  obtain ⟨_, look, ends⟩ := chain_cons.mp looks
  obtain rfl := chain_nil.mp ends
  have hasLast := ((has.advance reads).advance reads').advance reads''
  cases look with
  | look holds =>
      have nothing : stop.after = [] := by simpa [Look.holds] using holds
      have whole : start.after = opening ++ (numeral ++ (unit ++ last.after)) := by
        rw [reads.after, reads'.after, reads''.after]
      refine ⟨numeral, ⟨number, opening, unit, last.after, whole, within_, second, ?_⟩, ?_⟩
      · rcases leads_opt.mp maybe with plural | rfl
        · obtain ⟨read, same, ⟨rest, after⟩, rfl⟩ := chain_letters.mp (leads_concat.mp plural)
          rw [Thread.move_after after.symm] at nothing
          rw [nothing, List.append_nil] at after
          exact .inr (after ▸ same)
        · exact .inl nothing
      · rcases leads_opt.mp maybe with plural | rfl
        · obtain ⟨read, _, ⟨rest, after⟩, rfl⟩ := chain_letters.mp (leads_concat.mp plural)
          exact hasLast.advance (Thread.reads_move after.symm)
        · exact hasLast

/-- A time limit at the end of a text is read. -/
theorem IsLimit.exists_chain {text numeral : List Char} (limit : IsLimit text numeral)
    {start : Thread} (next : start.after = text)
    : ∃ stop, Chain finalLimit start stop := by
  obtain ⟨opening, unit, plural, whole, within_, second, ending⟩ := limit.parts
  have ends (last : Thread) (after : last.after = plural)
      : ∃ stop, Chain [.opt (.concat (letters "s")) true, .look .textEnd] last stop := by
    have final (stop : Thread) (after : stop.after = []) : Chain [.look .textEnd] stop stop :=
      chain_cons.mpr ⟨stop, .look (by simp [Look.holds, after]), .nil stop⟩
    rcases ending with rfl | same
    · exact ⟨last, .cons (leads_opt.mpr (.inr rfl)) (final last after)⟩
    · have reads : Chain (letters "s") last (last.move plural) :=
        chain_letters.mpr ⟨plural, same, ⟨[], by rw [after, List.append_nil]⟩, rfl⟩
      have behind : (last.move plural).after = [] :=
        Thread.move_after (by rw [after, List.append_nil])
      exact ⟨_, .cons (leads_opt.mpr (.inl (leads_concat.mpr reads))) (final _ behind)⟩
  rw [finalLimit_eq]
  refine exists_chain_letters (next.trans whole) within_ fun first after => ?_
  have numbered := leads_secondsNode.mpr ⟨numeral, limit.number, ⟨_, after.symm⟩, rfl⟩
  have behind : ((first.move numeral).record "seconds" first.position).after = unit ++ plural :=
    Thread.move_after after
  obtain ⟨stop, chain⟩ := exists_chain_letters behind second ends
  exact ⟨stop, .cons numbered chain⟩

/-- The nodes of the time limit are flat. -/
theorem isFlat_finalLimit : ∀ node ∈ finalLimit, node.IsFlat = true := by
  decide +kernel

end Rehearsal.Library
