import Mathlib.Data.List.DropRight
import Rehearsal.Text.Blank

/-! Texts that have no character of a class at their ends. Dropping the characters of the class at
both ends leaves such a text, and gives it back from whatever of the class stands around it.
-/

namespace Rehearsal.Text

variable {drop : Char → Bool} {text before after : List Char}

/-- Neither the first nor the last character of a text is in a class. -/
structure IsStripped (drop : Char → Bool) (text : List Char) : Prop where
  first : ∀ c, text.head? = some c → drop c = false
  last : ∀ c, text.getLast? = some c → drop c = false

theorem isStripped_iff
    : IsStripped drop text
      ↔ text.head?.all (fun c => !drop c) = true ∧ text.getLast?.all (fun c => !drop c) = true := by
  simp only [Option.all_eq_true, Bool.not_eq_true']
  exact ⟨fun stripped => ⟨stripped.first, stripped.last⟩, fun ends => ⟨ends.1, ends.2⟩⟩

instance (drop : Char → Bool) (text : List Char) : Decidable (IsStripped drop text) :=
  decidable_of_iff _ isStripped_iff.symm

theorem isStripped_of_forall (kept : ∀ c ∈ text, drop c = false) : IsStripped drop text where
  first c head := kept c (List.mem_of_head? head)
  last c last := kept c (List.mem_of_getLast? last)

/-- What has no character of a class at its ends has none of a smaller class there. -/
theorem IsStripped.mono {fewer : Char → Bool} (stripped : IsStripped drop text)
    (within : ∀ {c}, fewer c = true → drop c = true)
    : IsStripped fewer text where
  first c head := by
    have kept := Bool.eq_false_iff.mp (stripped.first c head)
    exact Bool.eq_false_iff.mpr fun dropped => kept (within dropped)
  last c last := by
    have kept := Bool.eq_false_iff.mp (stripped.last c last)
    exact Bool.eq_false_iff.mpr fun dropped => kept (within dropped)

theorem IsStripped.append (stripped : IsStripped drop before) (stripped' : IsStripped drop after)
    : IsStripped drop (before ++ after) where
  first c head := by
    rw [List.head?_append, Option.or_eq_some_iff] at head
    rcases head with head | ⟨_, head⟩
    · exact stripped.first c head
    · exact stripped'.first c head
  last c last := by
    rw [List.getLast?_append, Option.or_eq_some_iff] at last
    rcases last with last | ⟨_, last⟩
    · exact stripped'.last c last
    · exact stripped.last c last

theorem strip_eq_rdropWhile (drop : Char → Bool) (text : List Char)
    : strip drop text = (text.dropWhile drop).rdropWhile drop :=
  rfl

/-- A text between two others starts as the one ahead of it and ends as the one behind it. -/
theorem isStripped_between (first last : Char) (text : List Char)
    (starts : before.head? = some first) (ends : after.getLast? = some last)
    (kept : drop first = false) (kept' : drop last = false)
    : IsStripped drop (before ++ text ++ after) where
  first c head := by
    obtain ⟨rest, rfl⟩ := List.head?_eq_some_iff.mp starts
    cases head
    exact kept
  last c final := by
    obtain ⟨front, rfl⟩ := List.getLast?_eq_some_iff.mp ends
    rw [← List.append_assoc, List.getLast?_concat] at final
    cases final
    exact kept'

/-- What is left at the front stays at the front when characters are dropped at the back. -/
theorem isStripped_strip (drop : Char → Bool) (text : List Char)
    : IsStripped drop (strip drop text) where
  first c head := by
    obtain ⟨behind, whole⟩ := List.rdropWhile_prefix drop (l := text.dropWhile drop)
    obtain ⟨rest, left⟩ := List.head?_eq_some_iff.mp head
    rw [← strip_eq_rdropWhile, left, List.cons_append] at whole
    have kept := List.head?_dropWhile_not drop text
    rw [← whole] at kept
    exact Bool.eq_false_iff.mpr (by simpa using kept)
  last c last := by
    obtain ⟨front, left⟩ := List.getLast?_eq_some_iff.mp last
    have kept : strip drop text ≠ [] := by simp [left]
    have ends := List.rdropWhile_last_not drop (text.dropWhile drop) kept
    simp only [← strip_eq_rdropWhile, left, List.getLast_concat] at ends
    exact Bool.eq_false_iff.mpr ends

/-- Around a text that is stripped, characters of the class are dropped and nothing else. -/
theorem strip_surrounded (stripped : IsStripped drop text) (ahead : ∀ c ∈ before, drop c = true)
    (behind : ∀ c ∈ after, drop c = true)
    : strip drop (before ++ text ++ after) = text := by
  have front : (before ++ text ++ after).dropWhile drop = (text ++ after).dropWhile drop := by
    rw [List.append_assoc, List.dropWhile_append_of_pos ahead]
  rw [strip_eq_rdropWhile, front]
  cases text with
  | nil =>
      have nothing : after.dropWhile drop = [] := List.dropWhile_eq_nil_iff.mpr behind
      rw [List.nil_append, nothing, List.rdropWhile_nil]
  | cons c rest =>
      have kept : drop c = false := stripped.first c rfl
      have whole : ((c :: rest) ++ after).dropWhile drop = (c :: rest) ++ after := by
        simp [kept]
      have back : ((c :: rest) ++ after).rdropWhile drop = (c :: rest).rdropWhile drop := by
        rw [List.rdropWhile, List.reverse_append,
          List.dropWhile_append_of_pos fun c member => behind c (List.mem_reverse.mp member)]
        rfl
      rw [whole, back, List.rdropWhile_eq_self_iff]
      intro nonempty
      rw [Bool.not_eq_true]
      exact stripped.last _ (List.getLast?_eq_some_getLast nonempty)

theorem strip_eq_self (stripped : IsStripped drop text) : strip drop text = text := by
  have nothing : ∀ c ∈ ([] : List Char), drop c = true := by simp
  simpa using strip_surrounded stripped nothing nothing

end Rehearsal.Text
