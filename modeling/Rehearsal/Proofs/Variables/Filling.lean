import Rehearsal.Proofs.Variables

/-! A frame that is filled from two lists, of settings and of freezings. The settings are never
refused, and the freezings are refused exactly if one of them is for a name of an earlier one.
-/

namespace Rehearsal.Variables

variable {frame next : Variables} {settings freezings : List (String × String)} {name text : String}

-----------------------------------------------------------------------------------------
-- The writes of both lists
-----------------------------------------------------------------------------------------

/-- The settings of a list, as writes. -/
def settingsOf (settings : List (String × String)) : List Write :=
  settings.map fun pair => .set pair.1 pair.2

/-- The freezings of a list, as writes. -/
def freezingsOf (freezings : List (String × String)) : List Write :=
  freezings.map fun pair => .freeze pair.1 pair.2

theorem afterAll_append (frame : Variables) (writes later : List Write)
    : frame.afterAll (writes ++ later) = (frame.afterAll writes).afterAll later :=
  List.foldl_append

/-- Settings freeze nothing. -/
theorem firstFreezing?_settingsOf (settings : List (String × String)) (name : String)
    : firstFreezing? (settingsOf settings) name = none := by
  refine List.findSome?_eq_none_iff.mpr fun write member => ?_
  obtain ⟨pair, _, rfl⟩ := List.mem_map.mp member
  rfl

/-- Where nothing is frozen, no setting is refused, by induction on the settings. -/
theorem foldlM_set (unfrozen : ∀ name, ¬ frame.isFrozen name = true)
    (settings : List (String × String))
    : settings.foldlM (fun frame pair => frame.set pair.1 pair.2) frame
      = .ok (frame.afterAll (settingsOf settings)) := by
  induction settings generalizing frame with
  | nil => rfl
  | cons pair rest ih =>
      have set : frame.set pair.1 pair.2
          = .ok { frame with free := frame.free.insert pair.1 pair.2 } :=
        if_neg (unfrozen pair.1)
      have done : frame.afterAll (settingsOf (pair :: rest))
          = afterAll { frame with free := frame.free.insert pair.1 pair.2 } (settingsOf rest) :=
        congrArg (fun frame => afterAll frame _) (after_set pair.2 (unfrozen pair.1))
      rw [List.foldlM_cons, set, done]
      exact ih unfrozen

/-- Freezings of different names that are not frozen yet are all accepted, and no others, by
induction on the freezings.
-/
theorem foldlM_freeze_eq_ok_iff
    : freezings.foldlM (fun frame pair => frame.freeze pair.1 pair.2) frame = .ok next
      ↔ (freezings.map Prod.fst).Nodup
        ∧ (∀ name ∈ freezings.map Prod.fst, ¬ frame.isFrozen name = true)
        ∧ next = frame.afterAll (freezingsOf freezings) := by
  induction freezings generalizing frame with
  | nil =>
      simp only [List.foldlM_nil, pure, Except.pure, Except.ok.injEq]
      exact ⟨fun same => ⟨.nil, nofun, same.symm⟩, fun ⟨_, _, same⟩ => same.symm⟩
  | cons pair rest ih =>
      rw [List.foldlM_cons, List.map_cons, List.forall_mem_cons, List.nodup_cons]
      by_cases frozen : frame.isFrozen pair.1 = true
      · have refused : frame.freeze pair.1 pair.2 = .error ⟨pair.1⟩ := if_pos frozen
        rw [refused]
        exact ⟨nofun, fun ⟨_, ⟨free, _⟩, _⟩ => absurd frozen free⟩
      · have freeze : frame.freeze pair.1 pair.2
            = .ok ⟨frame.free.erase pair.1, frame.frozen.insert pair.1 pair.2⟩ :=
          if_neg frozen
        have done : frame.afterAll (freezingsOf (pair :: rest))
            = afterAll ⟨frame.free.erase pair.1, frame.frozen.insert pair.1 pair.2⟩
                (freezingsOf rest) :=
          congrArg (fun frame => afterAll frame _) (after_freeze pair.2 frozen)
        -- From here on the name of this freezing is one that no other may have.
        have isFrozen (name : String)
            : isFrozen ⟨frame.free.erase pair.1, frame.frozen.insert pair.1 pair.2⟩ name = true
              ↔ name = pair.1 ∨ frame.isFrozen name = true := by
          rw [isFrozen_eq, isFrozen_eq, Dict.get?_insert]
          by_cases own : name = pair.1 <;> simp [own]
        rw [freeze, done]
        refine ih.trans ?_
        simp only [isFrozen, not_or]
        constructor
        · rintro ⟨distinct, apart, same⟩
          exact ⟨⟨fun member => (apart _ member).1 rfl, distinct⟩,
            ⟨frozen, fun name member => (apart name member).2⟩, same⟩
        · rintro ⟨⟨fresh, distinct⟩, ⟨_, others⟩, same⟩
          refine ⟨distinct, fun name member => ⟨?_, others name member⟩, same⟩
          rintro rfl
          exact fresh member

/-- A frame is filled from two lists exactly if no name is frozen twice, and by the writes of both.
-/
theorem ofLists_eq_ok_iff
    : ofLists settings freezings = .ok frame
      ↔ (freezings.map Prod.fst).Nodup
        ∧ frame = afterAll ∅ (settingsOf settings ++ freezingsOf freezings) := by
  have unfrozen (name : String) : ¬ (afterAll ∅ (settingsOf settings)).isFrozen name = true := by
    have holds : (afterAll ∅ (settingsOf settings)).Holds ([] ++ settingsOf settings) :=
      Holds.start.afterAll _
    rw [isFrozen_eq, holds.frozen, List.nil_append, firstFreezing?_settingsOf]
    exact Bool.false_ne_true
  have empty (name : String) : ¬ (∅ : Variables).isFrozen name = true := Bool.false_ne_true
  unfold ofLists
  rw [foldlM_set empty settings, afterAll_append]
  refine foldlM_freeze_eq_ok_iff.trans ?_
  exact ⟨fun ⟨distinct, _, same⟩ => ⟨distinct, same⟩,
    fun ⟨distinct, same⟩ => ⟨distinct, fun name _ => unfrozen name, same⟩⟩

-----------------------------------------------------------------------------------------
-- What such a frame holds
-----------------------------------------------------------------------------------------

/-- A frame holds just the names of two lists, once each. A name of the second list is frozen at its
text there, whatever the first says, and any other name is rebindable and has its last text in the
first.
-/
structure Stores (frame : Variables) (settings freezings : List (String × String)) : Prop where
  distinct : frame.keys.Nodup
  names
    : ∀ name,
        name ∈ frame.keys ↔ name ∈ settings.map Prod.fst ∨ name ∈ freezings.map Prod.fst
  frozen
    : ∀ {name text},
        (name, text) ∈ freezings
        → frame.isFrozen name = true ∧ frame.get? name = some text
  free
    : ∀ {before name text after},
        settings = before ++ (name, text) :: after
        → name ∉ after.map Prod.fst
        → name ∉ freezings.map Prod.fst
        → frame.isFrozen name = false ∧ frame.get? name = some text

theorem firstFreezing?_append (writes later : List Write) (name : String)
    : firstFreezing? (writes ++ later) name
      = (firstFreezing? writes name).or (firstFreezing? later name) :=
  List.findSome?_append

theorem lastSetting?_append (writes later : List Write) (name : String)
    : lastSetting? (writes ++ later) name
      = (lastSetting? later name).or (lastSetting? writes name) := by
  rw [lastSetting?, List.reverse_append, List.findSome?_append]
  rfl

/-- Names that are not listed are not frozen. -/
theorem firstFreezing?_freezingsOf_of_not_mem (unlisted : name ∉ freezings.map Prod.fst)
    : firstFreezing? (freezingsOf freezings) name = none := by
  refine List.findSome?_eq_none_iff.mpr fun write member => ?_
  obtain ⟨pair, inside, rfl⟩ := List.mem_map.mp member
  exact if_neg fun own => unlisted (List.mem_map.mpr ⟨pair, inside, own⟩)

/-- Names that are not listed are not set. -/
theorem lastSetting?_settingsOf_of_not_mem (unlisted : name ∉ settings.map Prod.fst)
    : lastSetting? (settingsOf settings) name = none := by
  refine List.findSome?_eq_none_iff.mpr fun write member => ?_
  obtain ⟨pair, inside, rfl⟩ := List.mem_map.mp (List.mem_reverse.mp member)
  exact if_neg fun own => unlisted (List.mem_map.mpr ⟨pair, inside, own⟩)

/-- Freezings set nothing. -/
theorem lastSetting?_freezingsOf (freezings : List (String × String)) (name : String)
    : lastSetting? (freezingsOf freezings) name = none := by
  refine List.findSome?_eq_none_iff.mpr fun write member => ?_
  obtain ⟨pair, _, rfl⟩ := List.mem_map.mp (List.mem_reverse.mp member)
  rfl

/-- A name is frozen at the first text that it is listed with. -/
theorem firstFreezing?_freezingsOf {before after : List (String × String)}
    (fresh : name ∉ before.map Prod.fst)
    : firstFreezing? (freezingsOf (before ++ (name, text) :: after)) name = some text := by
  rw [freezingsOf, List.map_append, firstFreezing?_append]
  change (firstFreezing? (freezingsOf before) name).or _ = _
  rw [firstFreezing?_freezingsOf_of_not_mem fresh, Option.none_or, List.map_cons, firstFreezing?,
    List.findSome?_cons, Write.freezingOf?, if_pos rfl]

/-- A name is set to the last text that it is listed with. -/
theorem lastSetting?_settingsOf {before after : List (String × String)}
    (last : name ∉ after.map Prod.fst)
    : lastSetting? (settingsOf (before ++ (name, text) :: after)) name = some text := by
  rw [settingsOf, List.map_append, List.map_cons, List.append_cons, lastSetting?_append,
    lastSetting?_concat]
  change (lastSetting? (settingsOf after) name).or _ = _
  rw [lastSetting?_settingsOf_of_not_mem last, Option.none_or, Write.settingOf?, if_pos rfl,
    Option.some_or]

theorem Holds.stores (holds : frame.Holds (settingsOf settings ++ freezingsOf freezings))
    (distinct : (freezings.map Prod.fst).Nodup)
    : frame.Stores settings freezings where
  distinct := holds.nodup_keys
  names name := by
    rw [holds.mem_keys_iff]
    simp [settingsOf, freezingsOf, Write.key]
  frozen {name text} member := by
    obtain ⟨before, after, rfl⟩ := List.append_of_mem member
    have fresh : name ∉ before.map Prod.fst := by
      rw [List.map_append, List.map_cons] at distinct
      exact fun earlier => (List.nodup_append.mp distinct).2.2 name earlier name (.head _) rfl
    have found : frame.frozen.get? name = some text := by
      rw [holds.frozen, firstFreezing?_append, firstFreezing?_settingsOf, Option.none_or,
        firstFreezing?_freezingsOf fresh]
    exact ⟨by rw [isFrozen_eq, found, Option.isSome_some], holds.get?_of_frozen found⟩
  free {before name text after} parts last unfrozen := by
    have absent : firstFreezing? (settingsOf settings ++ freezingsOf freezings) name = none := by
      rw [firstFreezing?_append, firstFreezing?_settingsOf, Option.none_or,
        firstFreezing?_freezingsOf_of_not_mem unfrozen]
    refine ⟨by rw [isFrozen_eq, holds.frozen, absent, Option.isSome_none], ?_⟩
    rw [holds.get?_eq, absent, Option.none_or, lastSetting?_append, lastSetting?_freezingsOf,
      Option.none_or, parts, lastSetting?_settingsOf last]

/-- A frame that is filled from two lists stores them. -/
theorem stores_of_ofLists (filled : ofLists settings freezings = .ok frame)
    : frame.Stores settings freezings := by
  obtain ⟨distinct, rfl⟩ := ofLists_eq_ok_iff.mp filled
  exact Holds.stores (Holds.start.afterAll _) distinct

end Rehearsal.Variables
