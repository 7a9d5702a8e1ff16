import Mathlib.Data.List.Dedup
import Rehearsal.Proofs.Dict
import Rehearsal.Variables

/-! What one frame holds after any writes, some of which may have been refused. A name that has been
frozen keeps the text of its first freezing, and any other name has the text of its last setting.
-/

namespace Rehearsal.Variables

/-- A write to a frame. -/
inductive Write where
  | set (key value : String)
  | freeze (key value : String)

namespace Write

/-- The name that a write is about. -/
def key : Write → String
  | set key _ | freeze key _ => key

/-- The text that a write sets a name to, if it does. -/
def settingOf? (name : String) : Write → Option String
  | set key value => if key = name then some value else none
  | freeze _ _ => none

/-- The text that a write freezes a name at, if it does. -/
def freezingOf? (name : String) : Write → Option String
  | set _ _ => none
  | freeze key value => if key = name then some value else none

theorem settingOf?_of_ne {name : String} (write : Write) (other : write.key ≠ name)
    : write.settingOf? name = none := by
  cases write with
  | set key value => exact if_neg other
  | freeze key value => rfl

theorem freezingOf?_of_ne {name : String} (write : Write) (other : write.key ≠ name)
    : write.freezingOf? name = none := by
  cases write with
  | set key value => rfl
  | freeze key value => exact if_neg other

end Write

/-- Tries a write. -/
def write (frame : Variables) : Write → Except FrozenWrite Variables
  | .set key value => frame.set key value
  | .freeze key value => frame.freeze key value

/-- The frame after a write that is tried; a refused write leaves it as it is. -/
def after (frame : Variables) (write : Write) : Variables :=
  match frame.write write with
  | .ok next => next
  | .error _ => frame

/-- The frame after writes that are tried one after another. -/
def afterAll (frame : Variables) (writes : List Write) : Variables :=
  writes.foldl after frame

/-- The text of the first freezing of a name. -/
def firstFreezing? (writes : List Write) (name : String) : Option String :=
  writes.findSome? (Write.freezingOf? name)

/-- The text of the last setting of a name. -/
def lastSetting? (writes : List Write) (name : String) : Option String :=
  writes.reverse.findSome? (Write.settingOf? name)

variable {frame : Variables} {writes : List Write}

theorem isFrozen_eq (frame : Variables) (key : String)
    : frame.isFrozen key = (frame.frozen.get? key).isSome :=
  frame.frozen.contains_eq_isSome key

-----------------------------------------------------------------------------------------
-- One write
-----------------------------------------------------------------------------------------

/-- A write of a frozen name is refused. -/
theorem write_of_frozen {write : Write} (frozen : frame.isFrozen write.key = true)
    : frame.write write = .error ⟨write.key⟩ := by
  cases write <;> exact if_pos frozen

theorem after_of_frozen {write : Write} (frozen : frame.isFrozen write.key = true)
    : frame.after write = frame := by
  rw [after, write_of_frozen frozen]

/-- A write is refused exactly if its name is frozen. -/
theorem write_refused_iff {write : Write}
    : (∃ refusal, frame.write write = .error refusal) ↔ frame.isFrozen write.key = true := by
  refine ⟨fun ⟨refusal, refused⟩ => ?_, fun frozen => ⟨_, write_of_frozen frozen⟩⟩
  refine Decidable.byContradiction fun free => ?_
  cases write with
  | set key value => cases refused.symm.trans (if_neg free)
  | freeze key value => cases refused.symm.trans (if_neg free)

theorem after_set {key : String} (value : String) (free : ¬ frame.isFrozen key = true)
    : frame.after (.set key value) = { frame with free := frame.free.insert key value } := by
  rw [after, write, set, if_neg free]

theorem after_freeze {key : String} (value : String) (free : ¬ frame.isFrozen key = true)
    : frame.after (.freeze key value) = ⟨frame.free.erase key, frame.frozen.insert key value⟩ := by
  rw [after, write, freeze, if_neg free]

/-- A name that is frozen has the same text after any write. -/
theorem frozen_after {key text : String} (frozen : frame.frozen.get? key = some text)
    (write : Write)
    : (frame.after write).frozen.get? key = some text := by
  by_cases own : frame.isFrozen write.key = true
  · rw [after_of_frozen own, frozen]
  · cases write with
    | set name value =>
        have free : ¬ frame.isFrozen name = true := own
        rw [after_set value free, frozen]
    | freeze name value =>
        have free : ¬ frame.isFrozen name = true := own
        have different : key ≠ name := by
          rintro rfl
          exact free (by simp [isFrozen_eq, frozen])
        rw [after_freeze value free, Dict.get?_insert_of_ne _ _ different, frozen]

-----------------------------------------------------------------------------------------
-- Any writes
-----------------------------------------------------------------------------------------

theorem frozen_afterAll {key text : String} (frozen : frame.frozen.get? key = some text)
    (writes : List Write)
    : (frame.afterAll writes).frozen.get? key = some text := by
  induction writes generalizing frame with
  | nil => exact frozen
  | cons write rest ih => exact ih (frozen_after frozen write)

/-- A frame holds what writes have left: the frozen names have the texts of their first freezings,
and the others the texts of their last settings.
-/
structure Holds (frame : Variables) (writes : List Write) : Prop where
  frozen : ∀ name, frame.frozen.get? name = firstFreezing? writes name
  free
    : ∀ name,
        frame.free.get? name
        = if frame.isFrozen name = true then none else lastSetting? writes name

theorem firstFreezing?_concat (writes : List Write) (write : Write) (name : String)
    : firstFreezing? (writes ++ [write]) name
      = (firstFreezing? writes name).or (write.freezingOf? name) := by
  cases found : write.freezingOf? name <;>
    simp [firstFreezing?, List.findSome?_append, found]

theorem lastSetting?_concat (writes : List Write) (write : Write) (name : String)
    : lastSetting? (writes ++ [write]) name
      = (write.settingOf? name).or (lastSetting? writes name) := by
  cases found : write.settingOf? name <;>
    simp [lastSetting?, found]

namespace Holds

theorem start : Holds ∅ [] :=
  ⟨fun _ => rfl, fun _ => rfl⟩

/-- A refused write adds nothing to the account: its name has been frozen before. -/
theorem refused (holds : frame.Holds writes) {write : Write}
    (frozen : frame.isFrozen write.key = true)
    : frame.Holds (writes ++ [write]) where
  frozen name := by
    rw [firstFreezing?_concat, ← holds.frozen]
    by_cases own : write.key = name
    · obtain ⟨text, found⟩ := Option.isSome_iff_exists.mp (isFrozen_eq frame _ ▸ frozen)
      rw [← own, found, Option.some_or]
    · rw [write.freezingOf?_of_ne own, Option.or_none]
  free name := by
    rw [lastSetting?_concat, holds.free]
    by_cases own : write.key = name
    · rw [← own, if_pos frozen, if_pos frozen]
    · rw [write.settingOf?_of_ne own, Option.none_or]

theorem set (holds : frame.Holds writes) {key : String} (value : String)
    (free : ¬ frame.isFrozen key = true)
    : Holds { frame with free := frame.free.insert key value } (writes ++ [.set key value]) where
  frozen name := by
    rw [firstFreezing?_concat, ← holds.frozen]
    exact (Option.or_none).symm
  free name := by
    rw [lastSetting?_concat, Dict.get?_insert, holds.free]
    change _ = if frame.isFrozen name = true then _ else _
    by_cases own : name = key
    · subst own
      simp [free, Write.settingOf?]
    · simp [own, Ne.symm own, Write.settingOf?]

theorem freeze (holds : frame.Holds writes) {key : String} (value : String)
    (free : ¬ frame.isFrozen key = true)
    : Holds ⟨frame.free.erase key, frame.frozen.insert key value⟩
        (writes ++ [.freeze key value]) where
  frozen name := by
    rw [firstFreezing?_concat, ← holds.frozen, Dict.get?_insert]
    by_cases own : name = key
    · subst own
      have fresh : frame.frozen.get? name = none := by simpa [isFrozen_eq] using free
      simp [fresh, Write.freezingOf?]
    · simp [own, Ne.symm own, Write.freezingOf?]
  free name := by
    have unset : (Write.freeze key value).settingOf? name = none := rfl
    rw [lastSetting?_concat, unset, Option.none_or, Dict.get?_erase, holds.free, isFrozen_eq,
      isFrozen_eq, Dict.get?_insert]
    by_cases own : name = key <;> simp [own]

/-- Trying one more write keeps the account, whether it is refused or not. -/
theorem after (holds : frame.Holds writes) (write : Write)
    : (frame.after write).Holds (writes ++ [write]) := by
  by_cases frozen : frame.isFrozen write.key = true
  · rw [after_of_frozen frozen]
    exact holds.refused frozen
  · cases write with
    | set key value => exact after_set value frozen ▸ holds.set value frozen
    | freeze key value => exact after_freeze value frozen ▸ holds.freeze value frozen

/-- Trying more writes keeps the account, by induction on them. -/
theorem afterAll (holds : frame.Holds writes) (later : List Write)
    : (frame.afterAll later).Holds (writes ++ later) := by
  induction later generalizing frame writes with
  | nil => exact (List.append_nil writes).symm ▸ holds
  | cons write rest ih => exact List.append_cons writes write rest ▸ ih (holds.after write)

/-- The text of a name is that of its first freezing, or else that of its last setting. -/
theorem get?_eq (holds : frame.Holds writes) (name : String)
    : frame.get? name = (firstFreezing? writes name).or (lastSetting? writes name) := by
  rw [get?, holds.free, ← holds.frozen, isFrozen_eq]
  cases frame.frozen.get? name <;> simp

theorem get?_of_frozen (holds : frame.Holds writes) {name text : String}
    (found : frame.frozen.get? name = some text)
    : frame.get? name = some text := by
  rw [holds.get?_eq, ← holds.frozen, found, Option.some_or]

/-- No name is both rebindable and frozen. -/
theorem apart (holds : frame.Holds writes) {name : String}
    (frozen : frame.isFrozen name = true)
    : frame.free.contains name = false := by
  rw [Dict.contains_eq_isSome, holds.free, if_pos frozen, Option.isSome_none]

/-- The names that are held are those that were to be written. -/
theorem mem_keys_iff (holds : frame.Holds writes) {name : String}
    : name ∈ frame.keys ↔ name ∈ writes.map Write.key := by
  have bound : name ∈ frame.keys ↔ (frame.get? name).isSome = true := by
    simp [keys, get?, Dict.mem_keys_iff]
  have written (write : Write)
      : (write.freezingOf? name).isSome = true ∨ (write.settingOf? name).isSome = true
        ↔ write.key = name := by
    cases write <;> simp [Write.freezingOf?, Write.settingOf?, Write.key]
  rw [bound, holds.get?_eq, Option.isSome_or, Bool.or_eq_true, firstFreezing?, lastSetting?,
    List.findSome?_isSome_iff, List.findSome?_isSome_iff, List.mem_map]
  simp only [List.mem_reverse, ← written, and_or_left, exists_or]

/-- No name is listed twice. -/
theorem nodup_keys (holds : frame.Holds writes) : frame.keys.Nodup := by
  refine List.nodup_append.mpr ⟨frame.free.nodup_keys, frame.frozen.nodup_keys, ?_⟩
  rintro name inFree _ inFrozen rfl
  have frozen : frame.isFrozen name = true := by rwa [isFrozen_eq, ← Dict.mem_keys_iff]
  rw [Dict.mem_keys_iff, ← Dict.contains_eq_isSome, holds.apart frozen] at inFree
  cases inFree

/-- As many names are held as were to be written, each counted once. -/
theorem size_eq (holds : frame.Holds writes)
    : frame.size = (writes.map Write.key).dedup.length := by
  have same : frame.keys.Perm (writes.map Write.key).dedup :=
    (List.perm_ext_iff_of_nodup holds.nodup_keys (List.nodup_dedup _)).mpr fun name => by
      rw [holds.mem_keys_iff, List.mem_dedup]
  rw [← same.length_eq]
  simp [size, keys, Dict.size, Dict.keys]

end Holds

/-- After any writes to an empty frame, no name is both rebindable and frozen. A frozen name stays
so and keeps its text, whatever is written next. A write is refused exactly if its name is frozen,
and then the frame is as it was. A name has the text of its first freezing, or else that of its last
setting; the names that were written are listed once each, those that are rebindable in order ahead
of those that are frozen in order.
-/
theorem holds_writes (writes : List Write)
    : let frame := afterAll ∅ writes
      (∀ name, ¬ (frame.free.contains name = true ∧ frame.frozen.contains name = true))
      ∧ (∀ name,
          frame.isFrozen name = true
          → ∀ later,
              (frame.afterAll later).isFrozen name = true
              ∧ (frame.afterAll later).get? name = frame.get? name)
      ∧ (∀ write,
          ((∃ refusal, frame.write write = .error refusal) ↔ frame.isFrozen write.key = true)
          ∧ ∀ refusal,
              frame.write write = .error refusal
              → refusal.key = write.key ∧ frame.after write = frame)
      ∧ (∀ name,
          frame.frozen.get? name = firstFreezing? writes name
          ∧ frame.get? name = (frame.frozen.get? name).or (lastSetting? writes name))
      ∧ (frame.keys = frame.free.keys ++ frame.frozen.keys
        ∧ frame.free.keys.Pairwise (· < ·)
        ∧ frame.frozen.keys.Pairwise (· < ·)
        ∧ frame.keys.Nodup
        ∧ ∀ name, name ∈ frame.keys ↔ name ∈ writes.map Write.key)
      ∧ frame.size = (writes.map Write.key).dedup.length := by
  intro frame
  have holds : frame.Holds writes := Holds.start.afterAll writes
  refine ⟨?_, ?_, ?_, ?_, ?_, holds.size_eq⟩
  · rintro name ⟨free, frozen⟩
    exact absurd free (by simp [holds.apart frozen])
  · intro name frozen later
    obtain ⟨text, found⟩ := Option.isSome_iff_exists.mp (isFrozen_eq frame name ▸ frozen)
    have kept := frozen_afterAll found later
    have still : (frame.afterAll later).isFrozen name = true := by
      rw [isFrozen_eq, kept, Option.isSome_some]
    refine ⟨still, ?_⟩
    rw [holds.get?_of_frozen found, (holds.afterAll later).get?_of_frozen kept]
  · intro write
    refine ⟨write_refused_iff, fun refusal refused => ?_⟩
    have frozen := write_refused_iff.mp ⟨refusal, refused⟩
    rw [write_of_frozen frozen] at refused
    obtain rfl := Except.error.inj refused
    exact ⟨rfl, after_of_frozen frozen⟩
  · intro name
    exact ⟨holds.frozen name, holds.frozen name ▸ holds.get?_eq name⟩
  · exact ⟨rfl, frame.free.pairwise_keys, frame.frozen.pairwise_keys, holds.nodup_keys,
      fun name => holds.mem_keys_iff⟩

end Rehearsal.Variables
