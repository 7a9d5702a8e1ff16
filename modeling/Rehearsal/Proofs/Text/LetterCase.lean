import Mathlib.Data.List.Forall2
import Rehearsal.Pattern.Node

/-! The members of sets of characters, and texts that differ by letter case alone. -/

namespace Rehearsal

namespace CharSet

/-- A code point lies in one of some ranges. -/
def Holds (ranges : List (Nat × Nat)) (point : Nat) : Prop :=
  ∃ range ∈ ranges, range.1 ≤ point ∧ point ≤ range.2

/-- No range ends before it starts. -/
def Proper (ranges : List (Nat × Nat)) : Prop :=
  ∀ range ∈ ranges, range.1 ≤ range.2

theorem mem_iff {set : CharSet} {c : Char} : set.mem c = true ↔ Holds set.ranges c.toNat := by
  simp [mem, Holds]

theorem not_holds_nil {point : Nat} : ¬ Holds [] point := by
  simp [Holds]

theorem holds_cons {range : Nat × Nat} {ranges : List (Nat × Nat)} {point : Nat}
    : Holds (range :: ranges) point
      ↔ (range.1 ≤ point ∧ point ≤ range.2) ∨ Holds ranges point := by
  simp [Holds]

/-- Ranges that meet are joined into one that holds the points of both, by induction on the
ranges that are still to be met.
-/
theorem holds_insertRange {low high point : Nat} {ranges : List (Nat × Nat)}
    (ordered : low ≤ high) (proper : Proper ranges)
    : Holds (insertRange low high ranges) point
        ↔ (low ≤ point ∧ point ≤ high) ∨ Holds ranges point := by
  induction ranges generalizing low high with
  | nil => simp [insertRange, holds_cons, not_holds_nil]
  | cons range rest ih =>
      obtain ⟨head, tail⟩ := List.forall_mem_cons.mp proper
      unfold insertRange
      split
      next => rw [holds_cons]
      next notBelow =>
        split
        next above =>
          rw [holds_cons, ih ordered tail, holds_cons]
          constructor
          · rintro (first | second | third)
            · exact .inr (.inl first)
            · exact .inl second
            · exact .inr (.inr third)
          · rintro (first | second | third)
            · exact .inr (.inl first)
            · exact .inl second
            · exact .inr (.inr third)
        next notAbove =>
          rw [ih (by omega) tail, holds_cons, ← or_assoc]
          refine or_congr_left ?_
          omega

theorem proper_insertRange {low high : Nat} {ranges : List (Nat × Nat)} (ordered : low ≤ high)
    (proper : Proper ranges)
    : Proper (insertRange low high ranges) := by
  induction ranges generalizing low high with
  | nil => simpa [insertRange, Proper] using ordered
  | cons range rest ih =>
      obtain ⟨head, tail⟩ := List.forall_mem_cons.mp proper
      unfold insertRange
      split
      next => exact List.forall_mem_cons.mpr ⟨ordered, proper⟩
      next =>
        split
        next => exact List.forall_mem_cons.mpr ⟨head, ih ordered tail⟩
        next => exact ih (by omega) tail

/-- Every range in turn adds its points. -/
theorem holds_foldl_insertRange {added ranges : List (Nat × Nat)} {point : Nat}
    (properAdded : Proper added) (proper : Proper ranges)
    : Holds (added.foldl (fun set range => insertRange range.1 range.2 set) ranges) point
      ↔ Holds added point ∨ Holds ranges point := by
  induction added generalizing ranges with
  | nil => simp [not_holds_nil]
  | cons range rest ih =>
      obtain ⟨head, tail⟩ := List.forall_mem_cons.mp properAdded
      rw [List.foldl_cons, ih tail (proper_insertRange head proper),
        holds_insertRange head proper, holds_cons, or_left_comm, or_assoc]

/-- A set of code points holds the characters with these code points. -/
theorem mem_ofPoints {points : List Nat} {c : Char}
    : (ofPoints points).mem c = true ↔ c.toNat ∈ points := by
  have proper : Proper (points.map fun point => (point, point)) := by
    simp [Proper]
  have start : Proper [] := by
    simp [Proper]
  refine mem_iff.trans ((holds_foldl_insertRange proper start).trans ?_)
  simp only [Holds, List.mem_map, List.not_mem_nil, false_and, exists_false, or_false]
  constructor
  · rintro ⟨_, ⟨point, member, rfl⟩, low, high⟩
    exact Nat.le_antisymm low high ▸ member
  · intro member
    exact ⟨_, ⟨_, member, rfl⟩, Nat.le_refl _, Nat.le_refl _⟩

end CharSet

namespace Text

-----------------------------------------------------------------------------------------
-- Texts in any letter case
-----------------------------------------------------------------------------------------

/-- A character is another one, in any letter case. -/
def SameLetter (letter c : Char) : Prop :=
  c.toNat ∈ caseVariants letter

instance (letter c : Char) : Decidable (SameLetter letter c) :=
  inferInstanceAs (Decidable (c.toNat ∈ caseVariants letter))

/-- A text is another one, in any letter case. -/
def SameLetters (letters text : List Char) : Prop :=
  List.Forall₂ SameLetter letters text

/-- A text occurs in another one, in any letter case. -/
def MentionedIn (letters text : List Char) : Prop :=
  ∃ part, part <:+: text ∧ SameLetters letters part

/-- A character that has no letter case is the same letter as itself only. -/
theorem sameLetter_iff_eq {letter c : Char} (uncased : caseVariants letter = [letter.toNat])
    : SameLetter letter c ↔ c = letter := by
  rw [SameLetter, uncased, List.mem_singleton]
  exact ⟨fun same => Char.ext (UInt32.toNat_inj.mp same), fun same => same ▸ rfl⟩

theorem sameLetter_quote {c : Char} : SameLetter '"' c ↔ c = '"' :=
  sameLetter_iff_eq (by decide)

theorem sameLetter_space {c : Char} : SameLetter ' ' c ↔ c = ' ' :=
  sameLetter_iff_eq (by decide)

namespace SameLetters

variable {letters text : List Char}

theorem length_eq (same : SameLetters letters text) : text.length = letters.length :=
  (List.Forall₂.length_eq same).symm

/-- A text that is two others in a row, in any letter case, falls into two parts. -/
theorem exists_append {more : List Char} (same : SameLetters (letters ++ more) text)
    : ∃ first second, text = first ++ second ∧ SameLetters letters first
        ∧ SameLetters more second :=
  ⟨text.take letters.length, text.drop letters.length, (List.take_append_drop _ _).symm,
    List.forall₂_take_append _ _ _ (List.Forall₂.flip same) |>.flip,
    List.forall₂_drop_append _ _ _ (List.Forall₂.flip same) |>.flip⟩

end SameLetters

end Text

namespace Pattern

/-- A letter of a pattern that disregards letter case stands for itself in any letter case. -/
theorem mem_literalSet {letter c : Char}
    : (literalSet { caseless := true } letter).mem c = true ↔ Text.SameLetter letter c :=
  CharSet.mem_ofPoints

end Pattern

end Rehearsal
