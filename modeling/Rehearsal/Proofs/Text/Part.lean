import Mathlib.Data.List.Infix
import Rehearsal.Proofs.Text.LetterCase

/-! Where a part of a text can lie: a character that the part does not hold separates texts, and
so does one that it starts with.
-/

namespace Rehearsal.Text

variable {q : Char} {part left right other rest : List Char}

/-- The first occurrence of a character splits a text in one way, by induction on what is before
it.
-/
theorem eq_of_append_cons (freeLeft : q ∉ left) (freeRight : q ∉ right)
    (same : left ++ q :: other = right ++ q :: rest)
    : left = right ∧ other = rest := by
  induction left generalizing right with
  | nil =>
      cases right with
      | nil => exact ⟨rfl, (List.cons.inj same).2⟩
      | cons c right => exact absurd (List.cons.inj same).1 (List.ne_of_not_mem_cons freeRight)
  | cons c left ih =>
      cases right with
      | nil => exact absurd (List.cons.inj same).1.symm (List.ne_of_not_mem_cons freeLeft)
      | cons d right =>
          obtain ⟨rfl, tails⟩ := List.cons.inj same
          obtain ⟨rfl, after⟩ := ih (List.not_mem_of_not_mem_cons freeLeft)
            (List.not_mem_of_not_mem_cons freeRight) tails
          exact ⟨rfl, after⟩

/-- A part at the start of two texts with a separator lies in the first, by induction on the
part.
-/
theorem prefix_of_prefix_append_cons (free : q ∉ part) (inside : part <+: left ++ q :: right)
    : part <+: left := by
  induction part generalizing left with
  | nil => exact List.nil_prefix
  | cons c part ih =>
      cases left with
      | nil =>
          obtain ⟨same, _⟩ := List.cons_prefix_cons.mp inside
          exact absurd same.symm (List.ne_of_not_mem_cons free)
      | cons d left =>
          obtain ⟨rfl, later⟩ := List.cons_prefix_cons.mp inside
          exact List.cons_prefix_cons.mpr
            ⟨rfl, ih (List.not_mem_of_not_mem_cons free) later⟩

/-- A part of two texts with a separator lies in the first or behind the separator. -/
theorem infix_or_behind_of_append_cons {read after : List Char} (free : q ∉ part)
    (whole : left ++ q :: right = read ++ (part ++ after))
    : part <:+: left
      ∨ ∃ between, read = left ++ q :: between ∧ right = between ++ part ++ after := by
  rcases List.append_eq_append_iff.mp whole with ⟨behind, rfl, tail⟩ | ⟨ahead, rfl, tail⟩
  · cases behind with
    | nil =>
        cases part with
        | nil => exact .inl List.nil_infix
        | cons c part =>
            obtain ⟨same, _⟩ := List.cons.inj tail
            exact absurd same (List.ne_of_not_mem_cons free)
    | cons d between =>
        rw [List.cons_append, ← List.append_assoc] at tail
        obtain ⟨rfl, rest⟩ := List.cons.inj tail
        exact .inr ⟨between, rfl, rest⟩
  · have first : part <+: ahead := prefix_of_prefix_append_cons free ⟨after, tail⟩
    exact .inl (first.isInfix.trans (List.suffix_append read ahead).isInfix)

/-- A start of a text that ends otherwise than the text does is a start of all but its end. -/
theorem prefix_of_prefix_concat (free : q ∉ part) (some_ : part ≠ [])
    (inside : other ++ part <+: left ++ [q])
    : other ++ part <+: left := by
  rcases List.prefix_concat_iff.mp inside with whole | shorter
  · obtain ⟨front, c, rfl⟩ : ∃ front c, part = front ++ [c] :=
      ⟨_, _, (List.dropLast_append_getLast some_).symm⟩
    rw [← List.append_assoc] at whole
    cases (List.append_inj' whole rfl).2
    exact absurd (List.mem_append_right front (List.mem_singleton_self _)) free
  · exact shorter

/-- A part that starts with a character lies behind a text without that character, by induction
on this text.
-/
theorem infix_of_cons_infix_append (free : q ∉ left) (inside : q :: part <:+: left ++ right)
    : q :: part <:+: right := by
  induction left with
  | nil => exact inside
  | cons c left ih =>
      rcases List.infix_cons_iff.mp inside with first | later
      · obtain ⟨same, _⟩ := List.cons_prefix_cons.mp first
        exact absurd same (List.ne_of_not_mem_cons free)
      · exact ih (List.not_mem_of_not_mem_cons free) later

-----------------------------------------------------------------------------------------
-- Letters and mentions
-----------------------------------------------------------------------------------------

/-- Every character is the same letter as itself. -/
theorem sameLetter_refl (c : Char) : SameLetter c c := by
  unfold SameLetter caseVariants
  split
  · split
    next letter => rcases Bool.or_eq_true_iff.mp letter with h | h <;> simp_all
    next =>
      split
      next letter => rcases Bool.or_eq_true_iff.mp letter with h | h <;> simp_all
      next =>
        split
        · simp
        · split <;> simp
  · split
    next group found => simpa using List.find?_some found
    next => simp

theorem SameLetters.refl (text : List Char) : SameLetters text text :=
  List.forall₂_same.mpr fun c _ => sameLetter_refl c

/-- A text holds no character that none of its letters stands for. -/
theorem SameLetters.not_mem {letters text : List Char} (same : SameLetters letters text)
    (free : ∀ letter ∈ letters, ¬ SameLetter letter q)
    : q ∉ text := by
  induction same with
  | nil => simp
  | cons first _ ih =>
      obtain ⟨head, tail⟩ := List.forall_mem_cons.mp free
      exact List.not_mem_cons_of_ne_of_not_mem (fun same => head (same ▸ first)) (ih tail)

/-- Whether a text is mentioned is settled by the ends of the other one. -/
theorem mentionedIn_iff {letters text : List Char}
    : MentionedIn letters text
      ↔ ∃ tail ∈ text.tails, SameLetters letters (tail.take letters.length) := by
  constructor
  · rintro ⟨part, ⟨before, after, rfl⟩, same⟩
    refine ⟨part ++ after, (List.mem_tails _ _).mpr ⟨before, by rw [List.append_assoc]⟩, ?_⟩
    rwa [← same.length_eq, List.take_left]
  · rintro ⟨tail, member, same⟩
    refine ⟨_, ?_, same⟩
    exact (List.take_prefix _ _).isInfix.trans ((List.mem_tails _ _).mp member).isInfix

instance (letters text : List Char) : Decidable (SameLetters letters text) :=
  inferInstanceAs (Decidable (List.Forall₂ SameLetter letters text))

instance (letters text : List Char) : Decidable (MentionedIn letters text) :=
  decidable_of_iff _ mentionedIn_iff.symm

end Rehearsal.Text
