import Rehearsal.Directive

/-! Captured texts that stand for themselves. -/

namespace Rehearsal

namespace Capture

/-- No pair of delimiters surrounds a text. -/
def IsBare (raw : String) : Prop :=
  ∀ first middle last,
    raw.toList = first :: (middle ++ [last])
    → ¬ (isDelimiter first = true ∧ isDelimiter last = true)

/-- A text that does not start with a delimiter has none around it. -/
theorem isBare_of_head {raw : String} {c : Char} (head : raw.toList.head? = some c)
    (plain : isDelimiter c = false)
    : IsBare raw := by
  intro first middle last whole surrounded
  rw [whole] at head
  cases head
  rw [plain] at surrounded
  cases surrounded.1

theorem isReference_eq_false {raw : String} (bare : IsBare raw) : isReference raw = false := by
  unfold isReference
  split
  next rest whole =>
    cases closed : rest.getLast? == some ']' with
    | false => rfl
    | true =>
        obtain ⟨middle, rfl⟩ := List.getLast?_eq_some_iff.mp (beq_iff_eq.mp closed)
        exact absurd ⟨rfl, rfl⟩ (bare _ _ _ whole)
  next => rfl

theorem unquote_eq_self {raw : String} (bare : IsBare raw) : unquote raw = raw := by
  unfold unquote
  split
  next first second rest whole =>
    refine if_neg fun surrounded => ?_
    obtain ⟨opens, closes⟩ := Bool.and_eq_true_iff.mp surrounded
    obtain ⟨last, ends, closes⟩ := (Option.any_eq_true _ _).mp closes
    obtain ⟨middle, tail⟩ := List.getLast?_eq_some_iff.mp ends
    exact bare first middle last (whole.trans (congrArg (first :: ·) tail)) ⟨opens, closes⟩
  next => rfl

/-- A text without delimiters around it stands for itself. -/
theorem ofRaw_eq_literal {raw : String} (bare : IsBare raw) : ofRaw raw = .literal raw := by
  rw [ofRaw, isReference_eq_false bare, unquote_eq_self bare]
  rfl

end Capture

/-- The argument of a text without delimiters around it is the text, in any scope. -/
theorem argumentOf_eq_self {raw : String} (bare : Capture.IsBare raw) (scope : Scope)
    : argumentOf scope raw = .ok raw := by
  rw [argumentOf, Capture.ofRaw_eq_literal bare]

end Rehearsal
