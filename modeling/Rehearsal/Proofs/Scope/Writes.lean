import Rehearsal.Proofs.Dict
import Rehearsal.Scope

/-! Where a write goes on a stack of frames, and what is left of it when a frame has been left
again. Frames are counted from the outermost one, so that the level of a frame stays the same while
frames are entered and left further in.
-/

namespace Rehearsal

-----------------------------------------------------------------------------------------
-- One frame
-----------------------------------------------------------------------------------------

/-- The same names in the same order, frozen where they were frozen. -/
structure Variables.SameNames (before after : Variables) : Prop where
  keys : after.keys = before.keys
  frozen : ∀ key, after.isFrozen key = before.isFrozen key

namespace Variables

theorem SameNames.refl (frame : Variables) : frame.SameNames frame :=
  ⟨rfl, fun _ => rfl⟩

theorem SameNames.trans {first second third : Variables} (left : first.SameNames second)
    (right : second.SameNames third)
    : first.SameNames third :=
  ⟨right.keys.trans left.keys, fun key => (right.frozen key).trans (left.frozen key)⟩

theorem contains_iff_mem_keys (frame : Variables) (key : String)
    : frame.contains key = true ↔ key ∈ frame.keys := by
  simp [contains, keys, Dict.contains, Dict.keys]

theorem SameNames.contains {before after : Variables} (same : before.SameNames after)
    (key : String)
    : after.contains key = before.contains key := by
  rw [Bool.eq_iff_iff, contains_iff_mem_keys, contains_iff_mem_keys, same.keys]

/-- The frame with a name bound to another text. -/
def written (frame : Variables) (key value : String) : Variables :=
  { frame with free := frame.free.insert key value }

theorem get?_written (frame : Variables) (key value other : String)
    : (frame.written key value).get? other
      = if other = key then some value else frame.get? other := by
  unfold written get?
  split
  next same => simp [same]
  next different => rw [Dict.get?_insert_of_ne _ _ different]

/-- Binding a name that a frame holds, and that is not frozen, gives it no other name. -/
theorem sameNames_written {frame : Variables} {key : String} (value : String)
    (holds : frame.contains key = true) (rebindable : frame.isFrozen key = false)
    : frame.SameNames (frame.written key value) := by
  refine ⟨?_, fun _ => rfl⟩
  have free : frame.free.contains key = true := by
    unfold isFrozen at rebindable
    simpa [contains, rebindable] using holds
  simp [keys, written, Dict.keys_insert_of_contains value free]

end Variables

-----------------------------------------------------------------------------------------
-- Levels
-----------------------------------------------------------------------------------------

namespace Scope

/-- The frame at a level. The outermost frame is at level zero. -/
def frameAt? (scope : Scope) (level : Nat) : Option Variables :=
  scope.frames.reverse[level]?

/-- The text that the frame at a level binds to a name. -/
def bound? (scope : Scope) (level : Nat) (key : String) : Option String :=
  (scope.frameAt? level).bind (·.get? key)

/-- The level of the first frame of a list, innermost first, that holds a name. -/
def levelOf? (key : String) : List Variables → Option Nat
  | [] => none
  | frame :: outward => if frame.contains key then some outward.length else levelOf? key outward

/-- The level of the innermost frame that holds a name. -/
def holder? (scope : Scope) (key : String) : Option Nat :=
  levelOf? key scope.frames

theorem length_frames (scope : Scope) : scope.frames.length = scope.depth := by
  simp [frames, depth]

@[simp]
theorem depth_push (scope : Scope) (frame : Variables)
    : (scope.push frame).depth = scope.depth + 1 :=
  rfl

theorem frameAt?_push_of_lt {scope : Scope} {level : Nat} (below : level < scope.depth)
    (frame : Variables)
    : (scope.push frame).frameAt? level = scope.frameAt? level := by
  have shorter : level < scope.frames.reverse.length := by simpa [length_frames] using below
  simp only [frameAt?, frames, push, List.cons_append, List.reverse_cons] at shorter ⊢
  rw [List.getElem?_append_left shorter]

theorem frameAt?_push_depth (scope : Scope) (frame : Variables)
    : (scope.push frame).frameAt? scope.depth = some frame := by
  have length : scope.frames.reverse.length = scope.depth := by simp [length_frames]
  simp only [frameAt?, frames, push, List.cons_append, List.reverse_cons] at length ⊢
  rw [List.getElem?_append_right (Nat.le_of_eq length), length, Nat.sub_self]
  rfl

/-- A stack of more than one frame is what it was left with one frame more. -/
theorem exists_push_of_depth {scope : Scope} (deep : 1 < scope.depth)
    : ∃ frame, scope = scope.leave.push frame := by
  obtain ⟨inner, outermost⟩ := scope
  cases inner with
  | nil => simp [Scope.depth] at deep
  | cons frame rest => exact ⟨frame, rfl⟩

theorem depth_leave {scope : Scope} (deep : 1 < scope.depth)
    : scope.leave.depth + 1 = scope.depth := by
  obtain ⟨frame, pushed⟩ := exists_push_of_depth deep
  rw [← depth_push, ← pushed]

theorem frameAt?_leave {scope : Scope} {level : Nat} (below : level + 1 < scope.depth)
    : scope.leave.frameAt? level = scope.frameAt? level := by
  have deep : 1 < scope.depth := by omega
  obtain ⟨frame, pushed⟩ := exists_push_of_depth deep
  have inside : level < scope.leave.depth := by
    have shallower := depth_leave deep
    omega
  rw [← frameAt?_push_of_lt inside frame, ← pushed]

theorem frameAt?_of_split {scope : Scope} {inward outward : List Variables} {frame : Variables}
    (split : scope.frames = inward ++ frame :: outward)
    : scope.frameAt? outward.length = some frame := by
  simp [frameAt?, split]

/-- Stacks that differ in one frame differ at the level of that frame only. -/
theorem frameAt?_of_splits {before after : Scope} {inward outward : List Variables}
    {frame later : Variables} (split : before.frames = inward ++ frame :: outward)
    (split' : after.frames = inward ++ later :: outward) (level : Nat)
    : after.frameAt? level
      = if level = outward.length then some later else before.frameAt? level := by
  simp only [frameAt?, split, split', List.reverse_append, List.reverse_cons, List.append_assoc,
    List.singleton_append, List.getElem?_append, List.length_reverse]
  rcases Nat.lt_trichotomy level outward.length with outer | rfl | inner
  · simp [outer, Nat.ne_of_lt outer]
  · simp
  · obtain ⟨further, rfl⟩ := Nat.exists_eq_add_of_lt inner
    simp [Nat.add_assoc]

/-- The innermost holder is the frame inward of which no frame holds the name. -/
theorem holder?_of_split {scope : Scope} {inward outward : List Variables} {holder : Variables}
    {key : String} (split : scope.frames = inward ++ holder :: outward)
    (hidden : ∀ frame ∈ inward, frame.contains key = false)
    (holds : holder.contains key = true)
    : scope.holder? key = some outward.length := by
  unfold holder?
  rw [split]
  clear split
  induction inward with
  | nil => simp [levelOf?, holds]
  | cons frame rest ih =>
      obtain ⟨first, others⟩ := List.forall_mem_cons.mp hidden
      simpa [levelOf?, first] using ih others

theorem holder?_of_absent {scope : Scope} {key : String}
    (absent : ∀ frame ∈ scope.frames, frame.contains key = false)
    : scope.holder? key = none := by
  unfold holder?
  generalize scope.frames = frames at absent
  induction frames with
  | nil => rfl
  | cons frame rest ih =>
      obtain ⟨first, others⟩ := List.forall_mem_cons.mp absent
      simpa [levelOf?, first] using ih others

/-- No frame that holds a name is further in than the innermost holder. -/
theorem exists_holder?_of_frameAt? {scope : Scope} {level : Nat} {frame : Variables} {key : String}
    (found : scope.frameAt? level = some frame) (holds : frame.contains key = true)
    : ∃ held, scope.holder? key = some held ∧ level ≤ held := by
  unfold frameAt? at found
  unfold holder?
  generalize scope.frames = frames at found
  induction frames with
  | nil => simp at found
  | cons first rest ih =>
      have below : level < rest.length + 1 := by
        simpa using (List.getElem?_eq_some_iff.mp found).1
      rw [List.reverse_cons] at found
      cases held : first.contains key with
      | true => exact ⟨rest.length, by simp [levelOf?, held], Nat.le_of_lt_succ below⟩
      | false =>
          by_cases last : level = rest.length
          · subst last
            obtain rfl : first = frame := by simpa using found
            cases held.symm.trans holds
          · have shorter : level < rest.reverse.length := by
              rw [List.length_reverse]
              omega
            rw [List.getElem?_append_left shorter] at found
            simpa [levelOf?, held] using ih found

-----------------------------------------------------------------------------------------
-- One write
-----------------------------------------------------------------------------------------

/-- What a write comes to: nothing where no frame holds the name, a refusal where the innermost
holder has it frozen, and otherwise another binding in that frame.
-/
inductive Writes (scope : Scope) (key value : String) : Except FrozenWrite (Option Scope) → Prop
  | unheld (unheld : scope.holder? key = none) : scope.Writes key value (.ok none)
  | refused {level holder} (held : scope.holder? key = some level)
    (found : scope.frameAt? level = some holder) (frozen : holder.isFrozen key = true)
    : scope.Writes key value (.error ⟨key⟩)
  | done {level holder} {after : Scope} (held : scope.holder? key = some level)
    (found : scope.frameAt? level = some holder) (holds : holder.contains key = true)
    (rebindable : holder.isFrozen key = false) (depth : after.depth = scope.depth)
    (frames
      : ∀ other,
          after.frameAt? other
          = if other = level then some (holder.written key value) else scope.frameAt? other)
    : scope.Writes key value (.ok (some after))

theorem Writes.of_splits {scope after : Scope} {inward outward : List Variables}
    {holder : Variables} {key value : String} (split : scope.frames = inward ++ holder :: outward)
    (hidden : ∀ frame ∈ inward, frame.contains key = false)
    (holds : holder.contains key = true) (rebindable : holder.isFrozen key = false)
    (split' : after.frames = inward ++ holder.written key value :: outward)
    : scope.Writes key value (.ok (some after)) := by
  have depth : after.depth = scope.depth := by
    rw [← length_frames, ← length_frames, split, split']
    simp
  exact .done (holder?_of_split split hidden holds) (frameAt?_of_split split) holds rebindable depth
    (frameAt?_of_splits split split')

/-- Where the first frame of a list that holds a name is written to, by induction on the frames. -/
theorem setFirst_cases (key value : String) (frames : List Variables)
    : (∀ frame ∈ frames, frame.contains key = false) ∧ setFirst key value frames = .ok none
      ∨ ∃ inward holder outward,
          frames = inward ++ holder :: outward
          ∧ (∀ frame ∈ inward, frame.contains key = false)
          ∧ holder.contains key = true
          ∧ setFirst key value frames
            = if holder.isFrozen key then .error ⟨key⟩
              else .ok (some (inward ++ holder.written key value :: outward)) := by
  induction frames with
  | nil => exact .inl ⟨by simp, rfl⟩
  | cons frame rest ih =>
      cases holds : frame.contains key with
      | true =>
          refine .inr ⟨[], frame, rest, rfl, by simp, holds, ?_⟩
          simp only [setFirst, holds, ↓reduceIte, Variables.set]
          split <;> rfl
      | false =>
          rcases ih with ⟨absent, same⟩ | ⟨inward, holder, outward, rfl, hidden, held, same⟩
          · refine .inl ⟨List.forall_mem_cons.mpr ⟨holds, absent⟩, ?_⟩
            simp only [setFirst, holds, same]
            rfl
          · refine .inr ⟨frame :: inward, holder, outward, rfl,
              List.forall_mem_cons.mpr ⟨holds, hidden⟩, held, ?_⟩
            simp only [setFirst, holds, same, Bool.false_eq_true, ↓reduceIte]
            split <;> rfl

theorem writes_set? (scope : Scope) (key value : String)
    : scope.Writes key value (scope.set? key value) := by
  rcases setFirst_cases key value scope.inner with
    ⟨absent, same⟩ | ⟨inward, holder, outward, split, hidden, holds, same⟩
  · cases held : scope.outermost.contains key with
    | false =>
        have written : scope.set? key value = .ok none := by
          simp only [set?, same, held]
          rfl
        rw [written]
        refine .unheld (holder?_of_absent (List.forall_mem_append.mpr ⟨absent, ?_⟩))
        simpa using held
    | true =>
        have split : scope.frames = scope.inner ++ scope.outermost :: [] := rfl
        cases frozen : scope.outermost.isFrozen key with
        | true =>
            have written : scope.set? key value = .error ⟨key⟩ := by
              simp only [set?, same, held, Variables.set, frozen]
              rfl
            rw [written]
            exact .refused (holder?_of_split split absent held) (frameAt?_of_split split) frozen
        | false =>
            have written
                : scope.set? key value
                  = .ok (some { scope with outermost := scope.outermost.written key value }) := by
              simp only [set?, same, held, Variables.set, frozen]
              rfl
            rw [written]
            exact .of_splits split absent held frozen rfl
  · have split' : scope.frames = inward ++ holder :: (outward ++ [scope.outermost]) := by
      simp [frames, split]
    cases frozen : holder.isFrozen key with
    | true =>
        have written : scope.set? key value = .error ⟨key⟩ := by
          simp only [set?, same, frozen]
          rfl
        rw [written]
        exact .refused (holder?_of_split split' hidden holds) (frameAt?_of_split split') frozen
    | false =>
        have written
            : scope.set? key value
              = .ok (some
                  { scope with inner := inward ++ holder.written key value :: outward }) := by
          simp only [set?, same, frozen]
          rfl
        rw [written]
        exact .of_splits split' hidden holds frozen (by simp [frames])

theorem set?_of_unheld {scope : Scope} {key : String} (unheld : scope.holder? key = none)
    (value : String)
    : scope.set? key value = .ok none := by
  have result := writes_set? scope key value
  generalize scope.set? key value = outcome at result
  cases result with
  | unheld _ => rfl
  | refused held _ _ | done held _ _ _ _ _ => cases unheld.symm.trans held

/-- Whether a write is refused is up to the innermost holder alone. -/
theorem set?_of_frozen {scope : Scope} {key : String} {level : Nat} {holder : Variables}
    (held : scope.holder? key = some level) (found : scope.frameAt? level = some holder)
    (frozen : holder.isFrozen key = true) (value : String)
    : scope.set? key value = .error ⟨key⟩ := by
  have result := writes_set? scope key value
  generalize scope.set? key value = outcome at result
  cases result with
  | unheld unheld => cases held.symm.trans unheld
  | refused _ _ _ => rfl
  | done held' found' _ rebindable _ _ =>
      obtain rfl := Option.some.inj (held.symm.trans held')
      obtain rfl := Option.some.inj (found.symm.trans found')
      cases frozen.symm.trans rebindable

-----------------------------------------------------------------------------------------
-- Several operations
-----------------------------------------------------------------------------------------

/-- An operation on a stack of frames. -/
inductive Operation where
  | enter (frame : Variables)
  | leave
  | get (key : String)
  | set (key value : String)

/-- The stack after an operation; a write that comes to nothing or is refused leaves it as it is. -/
def Operation.perform : Operation → Scope → Scope
  | enter frame, scope => scope.push frame
  | leave, scope => scope.leave
  | get _, scope => scope
  | set key value, scope =>
      match scope.set? key value with
      | .ok (some after) => after
      | _ => scope

theorem perform_set_of_ok {scope after : Scope} {key value : String}
    (succeeds : scope.set? key value = .ok (some after))
    : (Operation.set key value).perform scope = after := by
  simp only [Operation.perform, succeeds]

theorem perform_set_of_not {scope : Scope} {key value : String}
    (fails : ¬ ∃ after, scope.set? key value = .ok (some after))
    : (Operation.set key value).perform scope = scope := by
  simp only [Operation.perform]
  split
  next after succeeds => exact absurd ⟨after, succeeds⟩ fails
  next => rfl

/-- The stack after operations one after another. -/
def performAll : List Operation → Scope → Scope
  | [], scope => scope
  | operation :: rest, scope => performAll rest (operation.perform scope)

/-- Whether operations leave the frames that they enter, besides some that have been entered before
them, and no other frame.
-/
def balanced : Nat → List Operation → Bool
  | entered, [] => entered == 0
  | entered, .enter _ :: rest => balanced (entered + 1) rest
  | 0, .leave :: _ => false
  | entered + 1, .leave :: rest => balanced entered rest
  | entered, .get _ :: rest => balanced entered rest
  | entered, .set _ _ :: rest => balanced entered rest

/-- A write that is tried, and the stack on which it is tried. -/
structure Attempt where
  scope : Scope
  key : String
  value : String

/-- The writes that operations try, in order. -/
def attempts : List Operation → Scope → List Attempt
  | [], _ => []
  | .set key value :: rest, scope =>
      ⟨scope, key, value⟩ :: attempts rest ((Operation.set key value).perform scope)
  | operation :: rest, scope => attempts rest (operation.perform scope)

/-- A write of a name succeeds, and the innermost frame that holds the name is at a level: no frame
further in holds it.
-/
structure Attempt.Reaches (attempt : Attempt) (level : Nat) (key : String) : Prop where
  key : attempt.key = key
  succeeds : ∃ after, attempt.scope.set? attempt.key attempt.value = .ok (some after)
  holder : attempt.scope.holder? attempt.key = some level

/-- A binding at a level is as it was where no write has reached it, and otherwise as the last write
that did has left it.
-/
def Settles (writes : List Attempt) (level : Nat) (key : String) (before after : Option String)
    : Prop :=
  (∀ write ∈ writes, ¬ write.Reaches level key) ∧ after = before
  ∨ ∃ earlier write later,
      writes = earlier ++ write :: later
      ∧ write.Reaches level key
      ∧ (∀ next ∈ later, ¬ next.Reaches level key)
      ∧ after = some write.value

/-- The frames below a depth have kept their names. -/
def KeepsNames (depth : Nat) (before after : Scope) : Prop :=
  ∀ level < depth,
    ∀ frame,
      before.frameAt? level = some frame
      → ∃ later, after.frameAt? level = some later ∧ frame.SameNames later

/-- What becomes of the frames below a depth while writes are tried. -/
structure Passes (depth : Nat) (writes : List Attempt) (before after : Scope) : Prop where
  names : KeepsNames depth before after
  meanwhile : ∀ write ∈ writes, KeepsNames depth before write.scope
  bindings
    : ∀ level < depth,
        ∀ key, Settles writes level key (before.bound? level key) (after.bound? level key)

theorem KeepsNames.refl (depth : Nat) (scope : Scope) : KeepsNames depth scope scope :=
  fun _ _ frame found => ⟨frame, found, .refl frame⟩

theorem KeepsNames.trans {depth : Nat} {first second third : Scope}
    (left : KeepsNames depth first second) (right : KeepsNames depth second third)
    : KeepsNames depth first third := by
  intro level below frame found
  obtain ⟨middle, found', same⟩ := left level below frame found
  obtain ⟨later, found'', same'⟩ := right level below middle found'
  exact ⟨later, found'', same.trans same'⟩

theorem Settles.cons {write : Attempt} {writes : List Attempt} {level : Nat} {key : String}
    {before after : Option String} (misses : ¬ write.Reaches level key)
    (settles : Settles writes level key before after)
    : Settles (write :: writes) level key before after := by
  rcases settles with ⟨none_, same⟩ | ⟨earlier, last, later, rfl, reaches, others, same⟩
  · exact .inl ⟨List.forall_mem_cons.mpr ⟨misses, none_⟩, same⟩
  · exact .inr ⟨write :: earlier, last, later, rfl, reaches, others, same⟩

theorem Settles.cons_of_reaches {write : Attempt} {writes : List Attempt} {level : Nat}
    {key : String} {after : Option String} (before : Option String)
    (reaches : write.Reaches level key)
    (settles : Settles writes level key (some write.value) after)
    : Settles (write :: writes) level key before after := by
  rcases settles with ⟨others, same⟩ | ⟨earlier, last, later, rfl, reaches', others, same⟩
  · exact .inr ⟨[], write, writes, rfl, reaches, others, same⟩
  · exact .inr ⟨write :: earlier, last, later, rfl, reaches', others, same⟩

namespace Passes

variable {depth : Nat} {writes : List Attempt} {scope next after : Scope}

theorem refl (depth : Nat) (scope : Scope) : Passes depth [] scope scope :=
  ⟨.refl depth scope, by simp, fun _ _ _ => .inl ⟨by simp, rfl⟩⟩

/-- An operation that leaves the frames below the depth alone may come first. -/
theorem after_still (still : ∀ level < depth, next.frameAt? level = scope.frameAt? level)
    (passes : Passes depth writes next after)
    : Passes depth writes scope after := by
  have names : KeepsNames depth scope next := by
    intro level below frame found
    exact ⟨frame, (still level below).trans found, .refl frame⟩
  refine ⟨names.trans passes.names,
    fun write member => names.trans (passes.meanwhile write member), ?_⟩
  intro level below key
  have same : next.bound? level key = scope.bound? level key := by
    simp only [bound?, still level below]
  exact same ▸ passes.bindings level below key

/-- An operation that leaves the frames below the depth alone may come last. -/
theorem before_still (still : ∀ level < depth, next.frameAt? level = after.frameAt? level)
    (passes : Passes depth writes scope after)
    : Passes depth writes scope next := by
  refine ⟨?_, passes.meanwhile, ?_⟩
  · intro level below frame found
    obtain ⟨later, found', same⟩ := passes.names level below frame found
    exact ⟨later, (still level below).trans found', same⟩
  · intro level below key
    have same : next.bound? level key = after.bound? level key := by
      simp only [bound?, still level below]
    exact same ▸ passes.bindings level below key

/-- What goes for the frames below a depth goes for the frames below a smaller one. -/
theorem mono {smaller : Nat} (fewer : smaller ≤ depth) (passes : Passes depth writes scope after)
    : Passes smaller writes scope after where
  names level below := passes.names level (Nat.lt_of_lt_of_le below fewer)
  meanwhile write member level below :=
    passes.meanwhile write member level (Nat.lt_of_lt_of_le below fewer)
  bindings level below := passes.bindings level (Nat.lt_of_lt_of_le below fewer)

/-- A write that comes to nothing or is refused may come first. -/
theorem after_failed {key value : String}
    (fails : ¬ ∃ written, scope.set? key value = .ok (some written))
    (passes : Passes depth writes scope after)
    : Passes depth (⟨scope, key, value⟩ :: writes) scope after := by
  refine ⟨passes.names, List.forall_mem_cons.mpr ⟨.refl depth scope, passes.meanwhile⟩, ?_⟩
  intro level below other
  exact (passes.bindings level below other).cons fun reaches => fails reaches.succeeds

/-- A write that succeeds may come first. It changes one binding, in the innermost holder. -/
theorem after_done {key value : String} {written : Scope}
    (succeeds : scope.set? key value = .ok (some written))
    (passes : Passes depth writes written after)
    : Passes depth (⟨scope, key, value⟩ :: writes) scope after := by
  have result := writes_set? scope key value
  rw [succeeds] at result
  cases result with
  | @done place holder _ held found holds rebindable _ frames =>
      have names : KeepsNames depth scope written := by
        intro level _ frame found'
        rw [frames]
        split
        next same =>
          subst same
          obtain rfl := Option.some.inj (found.symm.trans found')
          exact ⟨_, rfl, Variables.sameNames_written value holds rebindable⟩
        next => exact ⟨frame, found', .refl frame⟩
      have meanwhile : ∀ write ∈ writes, KeepsNames depth scope write.scope :=
        fun write member => names.trans (passes.meanwhile write member)
      refine ⟨names.trans passes.names, List.forall_mem_cons.mpr ⟨.refl depth scope, meanwhile⟩, ?_⟩
      intro level below other
      have settles := passes.bindings level below other
      have bound
          : written.bound? level other
            = if level = place ∧ other = key then some value else scope.bound? level other := by
        by_cases same : level = place
        · simp [bound?, frames, same, found, Variables.get?_written]
        · simp [bound?, frames, same]
      rw [bound] at settles
      split at settles
      next reached =>
        obtain ⟨rfl, rfl⟩ := reached
        exact settles.cons_of_reaches _ ⟨rfl, ⟨written, succeeds⟩, held⟩
      next missed =>
        apply settles.cons
        intro reaches
        exact missed ⟨Option.some.inj (reaches.holder.symm.trans held), reaches.key.symm⟩

theorem after_set {key value : String}
    (passes : Passes depth writes ((Operation.set key value).perform scope) after)
    : Passes depth (⟨scope, key, value⟩ :: writes) scope after := by
  by_cases done : ∃ written, scope.set? key value = .ok (some written)
  · obtain ⟨written, succeeds⟩ := done
    rw [perform_set_of_ok succeeds] at passes
    exact after_done succeeds passes
  · rw [perform_set_of_not done] at passes
    exact after_failed done passes

end Passes

theorem depth_perform_set (scope : Scope) (key value : String)
    : ((Operation.set key value).perform scope).depth = scope.depth := by
  by_cases done : ∃ written, scope.set? key value = .ok (some written)
  · obtain ⟨written, succeeds⟩ := done
    have result := writes_set? scope key value
    rw [succeeds] at result
    cases result with
    | done _ _ _ _ depth _ => rw [perform_set_of_ok succeeds, depth]
  · rw [perform_set_of_not done]

/-- What operations do below a depth that they never leave, by induction on the operations; some
frames above that depth may have been entered before.
-/
theorem passes_performAll {depth : Nat} (operations : List Operation) {entered : Nat}
    {scope : Scope} (positive : 0 < depth) (deep : scope.depth = depth + entered)
    (balance : balanced entered operations = true)
    : (performAll operations scope).depth = depth
      ∧ Passes depth (attempts operations scope) scope (performAll operations scope) := by
  induction operations generalizing entered scope with
  | nil =>
      obtain rfl : entered = 0 := by simpa [balanced] using balance
      exact ⟨deep, .refl depth scope⟩
  | cons operation rest ih =>
      cases operation with
      | enter frame =>
          have deeper : (scope.push frame).depth = depth + (entered + 1) := by
            rw [depth_push, deep, Nat.add_assoc]
          obtain ⟨last, passes⟩ := ih deeper balance
          exact ⟨last, passes.after_still fun level below => frameAt?_push_of_lt (by omega) frame⟩
      | leave =>
          cases entered with
          | zero => simp [balanced] at balance
          | succ entered =>
              have shallower : scope.leave.depth = depth + entered := by
                have deeper : 1 < scope.depth := by omega
                have one := depth_leave deeper
                omega
              obtain ⟨last, passes⟩ := ih shallower balance
              exact ⟨last, passes.after_still fun level below => frameAt?_leave (by omega)⟩
      | get key => exact ih deep balance
      | set key value =>
          obtain ⟨last, passes⟩ := ih ((depth_perform_set scope key value).trans deep) balance
          exact ⟨last, passes.after_set⟩

-----------------------------------------------------------------------------------------
-- A frame that is left again
-----------------------------------------------------------------------------------------

/-- While a frame holds a name, no write of it reaches the frames further out. -/
theorem Passes.not_reaches {scope after : Scope} {writes : List Attempt} {frame : Variables}
    (passes : Passes (scope.depth + 1) writes (scope.push frame) after) {key : String}
    (holds : frame.contains key = true)
    : ∀ write ∈ writes, ∀ level < scope.depth, ¬ write.Reaches level key := by
  intro write member level below reaches
  obtain ⟨now, found, same⟩ :=
    passes.meanwhile write member scope.depth (Nat.lt_succ_self _) frame
      (frameAt?_push_depth scope frame)
  have stillHolds : now.contains key = true := (same.contains key).trans holds
  obtain ⟨held, innermost, further⟩ := exists_holder?_of_frameAt? found stillHolds
  have reached : write.scope.holder? key = some level := reaches.key ▸ reaches.holder
  obtain rfl : held = level := Option.some.inj (innermost.symm.trans reached)
  omega

/-- After a frame has been entered, some operations have been performed and the frame has been left,
the stack is as deep as before, and each of its frames has its names, frozen or not as they were.
What the frame held is bound further out as it was, and any other binding is as it was or as the
last write that reached it has left it. A write of a name that no frame holds, or that the innermost
holder has frozen, leaves any stack as it is.
-/
theorem outer_frames_after_leaving {operations : List Operation}
    (balance : balanced 0 operations = true) (scope : Scope) (frame : Variables)
    : let inside := scope.push frame
      let after := (performAll operations inside).leave
      after.depth = scope.depth
      ∧ KeepsNames scope.depth scope after
      ∧ (∀ key,
          frame.contains key = true
          → ∀ level < scope.depth, after.bound? level key = scope.bound? level key)
      ∧ (∀ level < scope.depth,
          ∀ key,
            Settles (attempts operations inside) level key (scope.bound? level key)
              (after.bound? level key))
      ∧ ∀ (stack : Scope) (key value : String),
          (stack.holder? key = none
            → stack.set? key value = .ok none
              ∧ (Operation.set key value).perform stack = stack)
          ∧ ∀ level holder,
              stack.holder? key = some level
              → stack.frameAt? level = some holder
              → holder.isFrozen key = true
              → stack.set? key value = .error ⟨key⟩
                ∧ (Operation.set key value).perform stack = stack := by
  intro inside after
  have deeper : inside.depth = scope.depth + 1 + 0 := rfl
  obtain ⟨depth, within⟩ := passes_performAll operations (Nat.succ_pos _) deeper balance
  have deep : 1 < (performAll operations inside).depth := by
    rw [depth]
    exact Nat.succ_lt_succ (Nat.succ_pos scope.inner.length)
  have shallower : after.depth = scope.depth := by
    have one : after.depth + 1 = (performAll operations inside).depth := depth_leave deep
    omega
  have left : Passes scope.depth (attempts operations inside) inside after :=
    (within.mono (Nat.le_succ scope.depth)).before_still fun level below =>
      frameAt?_leave (by omega)
  have passes : Passes scope.depth (attempts operations inside) scope after :=
    left.after_still fun level below => frameAt?_push_of_lt below frame
  refine ⟨shallower, passes.names, ?_, passes.bindings, ?_⟩
  · intro key holds level below
    rcases passes.bindings level below key with
      ⟨-, same⟩ | ⟨earlier, write, later, split, reaches, -, -⟩
    · exact same
    · have member : write ∈ attempts operations inside := by simp [split]
      exact absurd reaches (within.not_reaches holds write member level below)
  · intro stack key value
    constructor
    · intro unheld
      have nothing := set?_of_unheld unheld value
      exact ⟨nothing, perform_set_of_not (by simp [nothing])⟩
    · intro level holder held found frozen
      have refusal := set?_of_frozen held found frozen value
      exact ⟨refusal, perform_set_of_not (by simp [refusal])⟩

/-- An outermost frame with a name that can be bound again and a frozen one. -/
def visitScope : Scope :=
  { outermost := ⟨Dict.ofList [("user", "Ann")], Dict.ofList [("site", "home")]⟩ }

def visitFrame : Variables :=
  { free := Dict.ofList [("site", "shop")] }

/-- A frame in which a name is frozen that can be bound again further out. -/
def guestFrame : Variables :=
  { frozen := Dict.ofList [("user", "Eve")] }

def visitOperations : List Operation :=
  [.set "user" "Bob", .enter guestFrame, .set "user" "Joe", .set "site" "till", .leave,
    .set "ghost" "none", .get "user"]

/-- The user is the one set outside the frame in which the name is frozen, where the later write is
refused; the site that was entered took the other write.
-/
theorem visit_outer_frames_after_leaving
    : let inside := visitScope.push visitFrame
      let after := (performAll visitOperations inside).leave
      balanced 0 visitOperations = true
      ∧ after.depth = 1
      ∧ visitFrame.contains "site" = true
      ∧ after.bound? 0 "site" = visitScope.bound? 0 "site"
      ∧ Settles (attempts visitOperations inside) 0 "user" (some "Ann") (some "Bob")
      ∧ (Operation.set "user" "Joe").perform (inside.push guestFrame) = inside.push guestFrame := by
  have balance : balanced 0 visitOperations = true := rfl
  have holds : visitFrame.contains "site" = true := by decide
  obtain ⟨depth, -, shadowed, settles, still⟩ :=
    outer_frames_after_leaving balance visitScope visitFrame
  have refused := (still ((visitScope.push visitFrame).push guestFrame) "user" "Joe").2 2 guestFrame
  exact ⟨balance, depth, holds, shadowed "site" holds 0 Nat.zero_lt_one,
    settles 0 Nat.zero_lt_one "user", (refused (by decide) rfl (by decide)).2⟩

end Scope

end Rehearsal
