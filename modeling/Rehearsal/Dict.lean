/-!
Finite maps from names to values, kept as one list in strictly increasing key order. A map has
exactly one representation, so equal contents are equal values, and listing a map sorts it.
-/

namespace Rehearsal

/-- Writes a binding into an ordered list of bindings, in place of one for the same key. -/
def insertBinding {β : Type} (key : String) (value : β)
    : List (String × β) → List (String × β)
  | [] => [(key, value)]
  | binding :: rest =>
      if key < binding.1 then (key, value) :: binding :: rest
      else if key = binding.1 then (key, value) :: rest
      else binding :: insertBinding key value rest

theorem mem_insertBinding {β : Type} {key : String} {value : β} {binding : String × β}
    {bindings : List (String × β)}
    (member : binding ∈ insertBinding key value bindings)
    : binding = (key, value) ∨ binding ∈ bindings := by
  induction bindings with
  | nil => simpa [insertBinding] using member
  | cons head rest ih =>
      unfold insertBinding at member
      split at member
      · simpa using member
      · split at member
        · rcases List.mem_cons.mp member with h | h
          · exact .inl h
          · exact .inr (List.mem_cons_of_mem _ h)
        · rcases List.mem_cons.mp member with h | h
          · exact .inr (h ▸ List.mem_cons_self)
          · exact (ih h).imp id (List.mem_cons_of_mem _)

/-- The keys of a list of bindings increase strictly. -/
def Increasing {β : Type} (bindings : List (String × β)) : Prop :=
  bindings.Pairwise fun left right => left.1 < right.1

theorem increasing_insertBinding {β : Type} (key : String) (value : β)
    {bindings : List (String × β)} (increasing : Increasing bindings)
    : Increasing (insertBinding key value bindings) := by
  unfold Increasing at *
  induction bindings with
  | nil => simp [insertBinding]
  | cons head rest ih =>
      obtain ⟨below, tail⟩ := List.pairwise_cons.mp increasing
      unfold insertBinding
      split
      next before =>
        refine List.pairwise_cons.mpr ⟨?_, increasing⟩
        intro binding member
        rcases List.mem_cons.mp member with h | h
        · exact h ▸ before
        · exact String.lt_trans before (below binding h)
      next notBefore =>
        split
        next same =>
          exact List.pairwise_cons.mpr ⟨fun binding member => same ▸ below binding member, tail⟩
        next different =>
          refine List.pairwise_cons.mpr ⟨?_, ih tail⟩
          intro binding member
          rcases mem_insertBinding member with h | h
          · subst h
            refine Decidable.byContradiction fun notAfter => different ?_
            exact String.le_antisymm (String.not_lt.mp notAfter) (String.not_lt.mp notBefore)
          · exact below binding h

/-- A finite map whose bindings are listed in increasing key order. -/
structure Dict (β : Type) where
  bindings : List (String × β) := []
  increasing : Increasing bindings := by exact List.Pairwise.nil

namespace Dict

variable {β : Type}

instance : Inhabited (Dict β) := ⟨⟨[], List.Pairwise.nil⟩⟩

instance : EmptyCollection (Dict β) := ⟨⟨[], List.Pairwise.nil⟩⟩

instance [DecidableEq β] : DecidableEq (Dict β) := fun left right =>
  if same : left.bindings = right.bindings then
    isTrue (by cases left; cases right; cases same; rfl)
  else
    isFalse fun h => same (h ▸ rfl)

/-- The value bound to a key. -/
def get? (dict : Dict β) (key : String) : Option β :=
  (dict.bindings.find? fun binding => binding.1 == key).map Prod.snd

/-- Whether a key is bound. -/
def contains (dict : Dict β) (key : String) : Bool :=
  dict.bindings.any fun binding => binding.1 == key

/-- Binds a key, in place of its earlier binding if it has one. -/
def insert (dict : Dict β) (key : String) (value : β) : Dict β :=
  ⟨insertBinding key value dict.bindings, increasing_insertBinding key value dict.increasing⟩

/-- Drops the binding of a key, if it has one. -/
def erase (dict : Dict β) (key : String) : Dict β :=
  ⟨dict.bindings.filter fun binding => binding.1 != key, dict.increasing.filter _⟩

/-- Changes every bound value and keeps the keys. -/
def mapValues {γ : Type} (change : String → β → γ) (dict : Dict β) : Dict γ :=
  ⟨dict.bindings.map fun binding => (binding.1, change binding.1 binding.2),
    List.pairwise_map.mpr (dict.increasing.imp fun h => h)⟩

/-- Changes the value of one key, if it is bound. -/
def modify (dict : Dict β) (key : String) (change : β → β) : Dict β :=
  dict.mapValues fun name value => if name = key then change value else value

/-- The bound keys, in increasing order. -/
def keys (dict : Dict β) : List String :=
  dict.bindings.map Prod.fst

/-- The bound values, in the order of their keys. -/
def values (dict : Dict β) : List β :=
  dict.bindings.map Prod.snd

/-- The number of bound keys. -/
def size (dict : Dict β) : Nat :=
  dict.bindings.length

/-- Collects bindings from left to right; of two for one key the later stays. -/
def ofList (bindings : List (String × β)) : Dict β :=
  bindings.foldl (fun dict binding => dict.insert binding.1 binding.2) ∅

end Dict

end Rehearsal
