import Rehearsal.Dict

/-! Looking up what has been bound or changed; the bindings of a map are what its keys lead to. -/

namespace Rehearsal

variable {β : Type} {key other : String} {value : β}

theorem find?_insertBinding_self (bindings : List (String × β))
    : (insertBinding key value bindings).find? (fun binding => binding.1 == key)
      = some (key, value) := by
  induction bindings with
  | nil => simp [insertBinding]
  | cons binding rest ih =>
      unfold insertBinding
      split
      · simp
      · split
        · simp
        next different =>
          rw [List.find?_cons_of_neg (by simpa using Ne.symm different), ih]

theorem find?_insertBinding_of_ne (different : other ≠ key) (bindings : List (String × β))
    : (insertBinding key value bindings).find? (fun binding => binding.1 == other)
      = bindings.find? fun binding => binding.1 == other := by
  have skip (binding : String × β) (rest : List (String × β)) (same : key = binding.1)
      : (binding :: rest).find? (fun binding => binding.1 == other)
        = rest.find? fun binding => binding.1 == other :=
    List.find?_cons_of_neg (by simpa [← same] using Ne.symm different)
  induction bindings with
  | nil => simp [insertBinding, Ne.symm different]
  | cons binding rest ih =>
      unfold insertBinding
      split
      · exact skip (key, value) _ rfl
      · split
        next same =>
          exact (skip (key, value) rest rfl).trans (skip binding rest same).symm
        next => simp only [List.find?_cons, ih]

/-- Where keys differ, what is found for a key is the value that stands beside it. -/
theorem map_find?_eq_some_iff {bindings : List (String × β)}
    (distinct : (bindings.map Prod.fst).Nodup) (key : String) (value : β)
    : (bindings.find? fun binding => binding.1 == key).map Prod.snd = some value
      ↔ (key, value) ∈ bindings := by
  induction bindings with
  | nil => simp
  | cons binding rest ih =>
      obtain ⟨fresh, others⟩ := List.nodup_cons.mp distinct
      obtain ⟨first, held⟩ := binding
      by_cases same : first = key
      · subst same
        have elsewhere : (first, value) ∉ rest := fun member =>
          fresh (List.mem_map.mpr ⟨(first, value), member, rfl⟩)
        simp [elsewhere, eq_comm]
      · rw [List.find?_cons_of_neg (by simpa using same), ih others]
        simp [Ne.symm same]

/-- A binding for a key that is bound already takes its place. -/
theorem keys_insertBinding {bindings : List (String × β)} (increasing : Increasing bindings)
    (member : key ∈ bindings.map Prod.fst)
    : (insertBinding key value bindings).map Prod.fst = bindings.map Prod.fst := by
  induction bindings with
  | nil => simp at member
  | cons binding rest ih =>
      obtain ⟨below, tail⟩ := List.pairwise_cons.mp increasing
      rcases List.mem_cons.mp member with rfl | later
      · simp [insertBinding]
      · obtain ⟨found, here, rfl⟩ := List.mem_map.mp later
        have before := below found here
        have notBefore : ¬ found.1 < binding.1 := fun after => String.lt_asymm before after
        have different : found.1 ≠ binding.1 := Ne.symm (String.ne_of_lt before)
        simp [insertBinding, notBefore, different, ih tail later]

namespace Dict

@[simp]
theorem get?_insert_self (dict : Dict β) (key : String) (value : β)
    : (dict.insert key value).get? key = some value := by
  simp [get?, insert, find?_insertBinding_self]

theorem get?_insert_of_ne (dict : Dict β) (value : β) (different : other ≠ key)
    : (dict.insert key value).get? other = dict.get? other := by
  simp [get?, insert, find?_insertBinding_of_ne different]

theorem keys_insert_of_contains {dict : Dict β} (value : β) (holds : dict.contains key = true)
    : (dict.insert key value).keys = dict.keys :=
  keys_insertBinding dict.increasing (by simpa [contains] using holds)

variable {γ : Type}

@[simp]
theorem get?_mapValues (dict : Dict β) (change : String → β → γ) (key : String)
    : (dict.mapValues change).get? key = (dict.get? key).map (change key) := by
  have keyed
      : ((fun binding => binding.1 == key)
          ∘ fun binding : String × β => (binding.1, change binding.1 binding.2))
        = fun binding => binding.1 == key := rfl
  unfold get? mapValues
  rw [List.find?_map, keyed]
  cases found : dict.bindings.find? fun binding => binding.1 == key with
  | none => rfl
  | some binding =>
      have same : binding.1 = key := by simpa using List.find?_some found
      simp [same]

theorem get?_modify (dict : Dict β) (key : String) (change : β → β) (other : String)
    : (dict.modify key change).get? other
      = (dict.get? other).map fun value => if other = key then change value else value :=
  get?_mapValues dict _ other

theorem nodup_keys (dict : Dict β) : dict.keys.Nodup :=
  List.pairwise_map.mpr (dict.increasing.imp fun before => String.ne_of_lt before)

/-- The bindings are those that looking up their keys gives. -/
theorem mem_bindings_iff (dict : Dict β) (key : String) (value : β)
    : (key, value) ∈ dict.bindings ↔ dict.get? key = some value :=
  (map_find?_eq_some_iff dict.nodup_keys key value).symm

theorem mem_values_iff (dict : Dict β) (value : β)
    : value ∈ dict.values ↔ ∃ key, dict.get? key = some value := by
  simp [values, ← mem_bindings_iff]

theorem get?_insert (dict : Dict β) (key : String) (value : β) (other : String)
    : (dict.insert key value).get? other = if other = key then some value else dict.get? other := by
  split
  next same => rw [same, get?_insert_self]
  next different => exact get?_insert_of_ne dict value different

theorem get?_erase (dict : Dict β) (key other : String)
    : (dict.erase key).get? other = if other = key then none else dict.get? other := by
  unfold get? erase
  rw [List.find?_filter]
  split
  next same =>
    subst same
    rw [Option.map_eq_none_iff, List.find?_eq_none]
    simp
  next different =>
    congr 2
    funext binding
    by_cases same : binding.1 = other <;> simp [same, different]

theorem contains_eq_isSome (dict : Dict β) (key : String)
    : dict.contains key = (dict.get? key).isSome := by
  rw [Bool.eq_iff_iff, get?, Option.isSome_map, List.find?_isSome, contains, List.any_eq_true]

theorem mem_keys_iff (dict : Dict β) (key : String)
    : key ∈ dict.keys ↔ (dict.get? key).isSome = true := by
  simp [← contains_eq_isSome, contains, keys]

theorem pairwise_keys (dict : Dict β) : dict.keys.Pairwise (· < ·) :=
  List.pairwise_map.mpr dict.increasing

/-- Only the change of values that are bound matters. -/
theorem mapValues_congr {dict : Dict β} {change change' : String → β → γ}
    (same : ∀ key value, dict.get? key = some value → change key value = change' key value)
    : dict.mapValues change = dict.mapValues change' := by
  unfold mapValues
  congr 1
  refine List.map_congr_left fun binding member => ?_
  rw [same binding.1 binding.2 ((dict.mem_bindings_iff _ _).mp member)]

theorem mapValues_mapValues {δ : Type} (dict : Dict β) (change : String → β → γ)
    (next : String → γ → δ)
    : (dict.mapValues change).mapValues next
      = dict.mapValues fun key value => next key (change key value) := by
  simp [mapValues, Function.comp_def]

theorem mapValues_self (dict : Dict β) : (dict.mapValues fun _ value => value) = dict := by
  simp [mapValues]

theorem modify_congr {dict : Dict β} {key : String} {value : β} {change change' : β → β}
    (found : dict.get? key = some value) (same : change value = change' value)
    : dict.modify key change = dict.modify key change' := by
  refine mapValues_congr fun name bound here => ?_
  split
  next at_ =>
    subst at_
    rw [Option.some.inj (here.symm.trans found), same]
  next => rfl

theorem modify_modify (dict : Dict β) (key : String) (change next : β → β)
    : (dict.modify key change).modify key next
      = dict.modify key fun value => next (change value) := by
  rw [modify, modify, mapValues_mapValues, modify]
  congr 1
  funext name value
  split <;> rfl

end Dict

end Rehearsal
