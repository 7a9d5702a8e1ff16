import Mathlib.Algebra.Order.Floor.Div
import Mathlib.Logic.Function.Iterate
import Rehearsal.Polling

/-! The course that polling takes. Each attempt starts from the state that the one before it left.
Polling goes on exactly as long as attempts fail before the time is up, so it ends with the first
success, however late that comes, or with the failure after which the time is up. If pauses pass, it
ends after as many attempts as the interval divides the time into, and one.
-/

namespace Rehearsal.Polling

variable {σ ε α : Type} {elapsed : Nat → Nat} {timeout interval : Nat}
  {attempt : σ → Except ε α × σ} {state : σ} {outcome : Outcome σ ε α}

-----------------------------------------------------------------------------------------
-- Attempts one after another
-----------------------------------------------------------------------------------------

/-- What an attempt comes to that is made after a number of others. -/
def attempted (attempt : σ → Except ε α × σ) (state : σ) (made : Nat) : Except ε α × σ :=
  attempt ((fun state => (attempt state).2)^[made] state)

theorem attempted_succ (attempt : σ → Except ε α × σ) (state : σ) (made : Nat)
    : attempted attempt state (made + 1) = attempted attempt (attempt state).2 made := by
  rw [attempted, attempted, Function.iterate_succ_apply]

/-- A number of attempts have failed, the first ones, and after each of them the time was not up. -/
def Pending (elapsed : Nat → Nat) (timeout : Nat) (attempt : σ → Except ε α × σ) (state : σ)
    (made : Nat)
    : Prop :=
  ∀ earlier < made,
    (∃ failure, (attempted attempt state earlier).1 = .error failure) ∧ elapsed earlier < timeout

/-- The course of a polling that comes to an outcome. All attempts but the last have failed before
the time was up, the outcome is what the last one came to, and where that is a failure, the time was
up after it. Each pause between two attempts is the interval or what was left of the time, which is
the time less what had passed, and more than nothing.
-/
structure Course (elapsed : Nat → Nat) (timeout interval : Nat) (attempt : σ → Except ε α × σ)
    (state : σ) (outcome : Outcome σ ε α)
    : Prop where
  pending : Pending elapsed timeout attempt state outcome.pauses.length
  last : attempted attempt state outcome.pauses.length = (outcome.answer, outcome.state)
  due
    : ∀ failure, outcome.answer = .error failure → timeout ≤ elapsed outcome.pauses.length
  pauses
    : ∀ {made pause},
        outcome.pauses[made]? = some pause
        → ∃ rest, elapsed made + rest = timeout ∧ 0 < rest ∧ pause = min interval rest

theorem pending_succ {made : Nat}
    : Pending elapsed timeout attempt state (made + 1)
      ↔ (∃ failure, (attempt state).1 = .error failure)
        ∧ elapsed 0 < timeout
        ∧ Pending (fun reading => elapsed (reading + 1)) timeout attempt (attempt state).2
            made := by
  unfold Pending
  simp only [← attempted_succ]
  constructor
  · intro pending
    obtain ⟨failed, before⟩ := pending 0 (Nat.zero_lt_succ _)
    exact ⟨failed, before, fun earlier below => pending (earlier + 1) (Nat.succ_lt_succ below)⟩
  · rintro ⟨failed, before, later⟩ earlier below
    cases earlier with
    | zero => exact ⟨failed, before⟩
    | succ earlier => exact later earlier (Nat.lt_of_succ_lt_succ below)

-----------------------------------------------------------------------------------------
-- Polling takes its course
-----------------------------------------------------------------------------------------

/-- A polling of one attempt. -/
theorem course_nil {answer : Except ε α} {last : σ}
    : Course elapsed timeout interval attempt state ⟨answer, last, []⟩
      ↔ attempt state = (answer, last)
        ∧ ∀ failure, answer = .error failure → timeout ≤ elapsed 0 := by
  constructor
  · intro course
    exact ⟨course.last, course.due⟩
  · rintro ⟨made, due⟩
    exact ⟨fun _ below => absurd below (Nat.not_lt_zero _), made, due, by simp⟩

/-- A polling of more than one attempt is one of which the first attempt failed before the time was
up, and the others make a polling with the clock readings behind the first one.
-/
theorem course_after {pause : Nat}
    : Course elapsed timeout interval attempt state (outcome.after pause)
      ↔ (∃ failure, (attempt state).1 = .error failure)
        ∧ elapsed 0 < timeout
        ∧ pause = min interval (timeout - elapsed 0)
        ∧ Course (fun reading => elapsed (reading + 1)) timeout interval attempt
            (attempt state).2 outcome := by
  constructor
  · intro course
    obtain ⟨failed, before, pending⟩ := pending_succ.mp course.pending
    have first : (outcome.after pause).pauses[0]? = some pause := rfl
    obtain ⟨rest, whole, _, paused⟩ := course.pauses first
    refine ⟨failed, before, by rw [paused, ← whole, Nat.add_sub_cancel_left], pending, ?_,
      course.due, fun later => course.pauses (List.getElem?_cons_succ.trans later)⟩
    rw [← attempted_succ]
    exact course.last
  · rintro ⟨failed, before, rfl, course⟩
    refine ⟨pending_succ.mpr ⟨failed, before, course.pending⟩, ?_, course.due, ?_⟩
    · change attempted attempt state (outcome.pauses.length + 1) = _
      rw [attempted_succ]
      exact course.last
    · intro made pause here
      cases made with
      | zero =>
          obtain rfl : min interval (timeout - elapsed 0) = pause := Option.some.inj here
          exact ⟨timeout - elapsed 0, Nat.add_sub_cancel' (Nat.le_of_lt before),
            Nat.sub_pos_of_lt before, rfl⟩
      | succ made => exact course.pauses here

/-- What polls on after the first attempt has more than one attempt to its course. -/
theorem course_cases
    : Course elapsed timeout interval attempt state outcome
      ↔ (outcome = ⟨(attempt state).1, (attempt state).2, []⟩
          ∧ ∀ failure, (attempt state).1 = .error failure → timeout ≤ elapsed 0)
        ∨ ∃ later,
            outcome = later.after (min interval (timeout - elapsed 0))
            ∧ (∃ failure, (attempt state).1 = .error failure)
            ∧ elapsed 0 < timeout
            ∧ Course (fun reading => elapsed (reading + 1)) timeout interval attempt
                (attempt state).2 later := by
  constructor
  · intro course
    rcases outcome with ⟨answer, last, _ | ⟨pause, pauses⟩⟩
    · obtain ⟨made, due⟩ := course_nil.mp course
      exact .inl (by simpa [made] using due)
    · let later : Outcome σ ε α := ⟨answer, last, pauses⟩
      have whole : Course elapsed timeout interval attempt state (later.after pause) := course
      obtain ⟨failed, before, rfl, rest⟩ := course_after.mp whole
      exact .inr ⟨later, rfl, failed, before, rest⟩
  · rintro (⟨rfl, due⟩ | ⟨later, rfl, failed, before, course⟩)
    · exact course_nil.mpr ⟨rfl, due⟩
    · exact course_after.mpr ⟨failed, before, rfl, course⟩

/-- Readings from the second on are those of a clock that lacks the first one. -/
theorem attemptUpTo_shift (elapsed : Nat → Nat) (limit reading : Nat) (state : σ)
    : attemptUpTo elapsed timeout interval attempt limit (reading + 1) state
      = attemptUpTo (fun reading => elapsed (reading + 1)) timeout interval attempt limit reading
          state := by
  induction limit generalizing reading state with
  | zero => rfl
  | succ limit ih => simp only [attemptUpTo, ih]

/-- Polling comes to the outcomes whose course it can take, and to no others, by induction on the
number of attempts that it may make.
-/
theorem attemptUpTo_eq_some_iff {limit : Nat}
    : attemptUpTo elapsed timeout interval attempt limit 0 state = some outcome
      ↔ Course elapsed timeout interval attempt state outcome ∧ outcome.attempts ≤ limit := by
  induction limit generalizing elapsed state outcome with
  | zero => simp [attemptUpTo, Outcome.attempts]
  | succ limit ih =>
      have more (pause : Nat) (later : Outcome σ ε α)
          : (later.after pause).attempts ≤ limit + 1 ↔ later.attempts ≤ limit :=
        Nat.succ_le_succ_iff
      rw [course_cases, attemptUpTo]
      rcases attempt state with ⟨failure | value, next⟩
      · by_cases due : timeout ≤ elapsed 0
        · simp only [due, if_true, Option.some.injEq]
          constructor
          · rintro rfl
            exact ⟨.inl ⟨rfl, fun _ _ => trivial⟩, Nat.le_add_left 1 limit⟩
          · rintro ⟨⟨rfl, _⟩ | ⟨_, _, _, before, _⟩, _⟩
            · rfl
            · exact absurd due (Nat.not_le.mpr before)
        · simp only [due, if_false, attemptUpTo_shift, Option.map_eq_some_iff]
          constructor
          · rintro ⟨later, found, rfl⟩
            obtain ⟨course, bounded⟩ := ih.mp found
            exact ⟨.inr ⟨later, rfl, ⟨failure, rfl⟩, Nat.lt_of_not_le due, course⟩,
              (more _ later).mpr bounded⟩
          · rintro ⟨⟨_, ended⟩ | ⟨later, rfl, _, _, course⟩, bounded⟩
            · exact (ended failure rfl).elim
            · exact ⟨later, ih.mpr ⟨course, (more _ later).mp bounded⟩, rfl⟩
      · simp only [Option.some.injEq]
        constructor
        · rintro rfl
          exact ⟨.inl ⟨rfl, by simp⟩, Nat.le_add_left 1 limit⟩
        · rintro ⟨⟨rfl, _⟩ | ⟨_, _, ⟨_, failed⟩, _⟩, _⟩
          · rfl
          · cases failed

/-- Polling is unsettled after a number of attempts just if all failed before the time was up. -/
theorem attemptUpTo_eq_none_iff {limit : Nat}
    : attemptUpTo elapsed timeout interval attempt limit 0 state = none
      ↔ Pending elapsed timeout attempt state limit := by
  induction limit generalizing elapsed state with
  | zero => simp [attemptUpTo, Pending]
  | succ limit ih =>
      rw [pending_succ, ← ih, ← attemptUpTo_shift, attemptUpTo]
      rcases attempt state with ⟨failure | value, next⟩
      · by_cases due : timeout ≤ elapsed 0
        · simp [due]
        · simp [due, Nat.lt_of_not_le due]
      · simp

/-- A polling that is not pending any more after a number of attempts has made no more of them. -/
theorem exists_course {limit : Nat} (settled : ¬ Pending elapsed timeout attempt state limit)
    : ∃ outcome,
        Course elapsed timeout interval attempt state outcome ∧ outcome.attempts ≤ limit := by
  rw [← attemptUpTo_eq_none_iff, ← ne_eq, Option.ne_none_iff_exists'] at settled
  obtain ⟨outcome, found⟩ := settled
  exact ⟨outcome, attemptUpTo_eq_some_iff.mp found⟩

/-- The state has gone through as many attempts as were made. -/
theorem Course.state_eq (course : Course elapsed timeout interval attempt state outcome)
    : outcome.state = (fun state => (attempt state).2)^[outcome.attempts] state := by
  rw [Outcome.attempts, Function.iterate_succ_apply']
  exact (congrArg Prod.snd course.last).symm

-----------------------------------------------------------------------------------------
-- The end of polling
-----------------------------------------------------------------------------------------

/-- The first success ends the polling, whether the time is up by then or not. -/
theorem exists_course_of_ok {made : Nat} {value : α} {last : σ}
    (pending : Pending elapsed timeout attempt state made)
    (success : attempted attempt state made = (.ok value, last))
    : ∃ outcome,
        Course elapsed timeout interval attempt state outcome
        ∧ outcome.attempts = made + 1
        ∧ outcome.answer = .ok value
        ∧ outcome.state = last := by
  have settled : ¬ Pending elapsed timeout attempt state (made + 1) := by
    intro pending
    obtain ⟨⟨failure, failed⟩, _⟩ := pending made (Nat.lt_succ_self made)
    simp [success] at failed
  obtain ⟨outcome, course, bounded⟩
      : ∃ outcome,
          Course elapsed timeout interval attempt state outcome ∧ outcome.attempts ≤ made + 1 :=
    exists_course settled
  have whole : outcome.pauses.length = made := by
    -- A polling with fewer attempts would have ended with one that the others show to go on.
    refine Nat.le_antisymm (Nat.le_of_succ_le_succ bounded) (Nat.le_of_not_lt fun fewer => ?_)
    obtain ⟨⟨failure, failed⟩, before⟩ := pending _ fewer
    rw [course.last] at failed
    exact absurd (course.due failure failed) (Nat.not_le.mpr before)
  obtain ⟨answered, left⟩ := Prod.mk.inj ((whole ▸ course.last).symm.trans success)
  exact ⟨outcome, course, congrArg Nat.succ whole, answered, left⟩

/-- While polling is pending, every pause has been the whole interval. -/
theorem mul_interval_le_elapsed {made : Nat}
    (passes
      : ∀ reading,
          elapsed reading < timeout
          → elapsed reading + min interval (timeout - elapsed reading) ≤ elapsed (reading + 1))
    (early : ∀ reading ≤ made, elapsed reading < timeout)
    : made * interval ≤ elapsed made := by
  induction made with
  | zero => simp
  | succ made ih =>
      have below := ih fun reading le => early reading (Nat.le_succ_of_le le)
      have before := early made (Nat.le_succ made)
      have after := early (made + 1) (Nat.le_refl _)
      have paused := passes made before
      rw [Nat.succ_mul]
      omega

/-- If pauses pass, polling is not pending after as many attempts as the interval divides the time
into, and one.
-/
theorem not_pending_of_passes (positive : 0 < interval)
    (passes
      : ∀ reading,
          elapsed reading < timeout
          → elapsed reading + min interval (timeout - elapsed reading) ≤ elapsed (reading + 1))
    : ¬ Pending elapsed timeout attempt state (timeout ⌈/⌉ interval + 1) := by
  intro pending
  have early : ∀ reading ≤ timeout ⌈/⌉ interval, elapsed reading < timeout :=
    fun reading le => (pending reading (Nat.lt_succ_of_le le)).2
  have divided : timeout ≤ interval • (timeout ⌈/⌉ interval) := le_smul_ceilDiv positive
  rw [smul_eq_mul, Nat.mul_comm] at divided
  have reached : timeout ≤ elapsed (timeout ⌈/⌉ interval) :=
    divided.trans (mul_interval_le_elapsed passes early)
  exact absurd reached (Nat.not_le.mpr (early _ (Nat.le_refl _)))

/-- Polling on a clock takes its course. -/
theorem course_poll (clock : Clock)
    : Course clock.elapsed timeout interval attempt state
        (poll clock timeout interval attempt state) :=
  (attemptUpTo_eq_some_iff.mp (Option.some_get _).symm).1

/-- Polling comes to an outcome just if that is the one its course leads to, with at least one
attempt and none after the last one in the course, and it is still going on just while every
attempt has failed before the time was up. A first success is its answer, even a late one. With
an interval that is positive and pauses that pass, it makes at most as many attempts as the
interval divides the time into, and one. On a clock that reaches every time, it always takes its
course.
-/
theorem polling_takes_course (elapsed : Nat → Nat) (timeout interval : Nat)
    (attempt : σ → Except ε α × σ) (state : σ)
    : (∀ outcome,
        (∃ limit, attemptUpTo elapsed timeout interval attempt limit 0 state = some outcome)
        ↔ Course elapsed timeout interval attempt state outcome)
      ∧ (∀ outcome,
          Course elapsed timeout interval attempt state outcome
          → 0 < outcome.attempts
            ∧ outcome.state = (fun state => (attempt state).2)^[outcome.attempts] state)
      ∧ (∀ limit,
          attemptUpTo elapsed timeout interval attempt limit 0 state = none
          ↔ Pending elapsed timeout attempt state limit)
      ∧ (∀ made value last,
          Pending elapsed timeout attempt state made
          → attempted attempt state made = (.ok value, last)
          → ∃ outcome,
              Course elapsed timeout interval attempt state outcome
              ∧ outcome.attempts = made + 1
              ∧ outcome.answer = .ok value
              ∧ outcome.state = last)
      ∧ (0 < interval
          → (∀ reading,
              elapsed reading < timeout
              → elapsed reading + min interval (timeout - elapsed reading)
                ≤ elapsed (reading + 1))
          → ∃ outcome,
              Course elapsed timeout interval attempt state outcome
              ∧ outcome.attempts ≤ timeout ⌈/⌉ interval + 1)
      ∧ ∀ clock : Clock,
          Course clock.elapsed timeout interval attempt state
            (poll clock timeout interval attempt state) := by
  refine ⟨fun outcome => ⟨?_, fun course => ?_⟩, fun outcome course => ?_,
    fun limit => attemptUpTo_eq_none_iff, fun made value last => exists_course_of_ok,
    fun positive passes => exists_course (not_pending_of_passes positive passes), course_poll⟩
  · rintro ⟨limit, found⟩
    exact (attemptUpTo_eq_some_iff.mp found).1
  · exact ⟨outcome.attempts, attemptUpTo_eq_some_iff.mpr ⟨course, Nat.le_refl _⟩⟩
  · exact ⟨Nat.succ_pos _, course.state_eq⟩

/-- With a time of five and an interval of two, three failures at readings below the time and a
success after it make four attempts, which is the most there can be, and the success counts.
-/
theorem late_success_takes_course
    : let attempt (tries : Nat) : Except String String × Nat :=
        (if tries < 3 then .error "busy" else .ok "done", tries + 1)
      (∃ outcome,
        Course (2 * ·) 5 2 attempt 0 outcome
        ∧ outcome.attempts = 4
        ∧ outcome.answer = .ok "done"
        ∧ outcome.state = 4)
      ∧ ∃ outcome, Course (2 * ·) 5 2 attempt 0 outcome ∧ outcome.attempts ≤ 4 := by
  intro attempt
  obtain ⟨_, _, _, succeeds, ends, _⟩ := polling_takes_course (2 * ·) 5 2 attempt 0
  refine ⟨succeeds 3 "done" 4 (fun earlier below => ?_) rfl, ends (by decide) (by omega)⟩
  obtain rfl | rfl | rfl : earlier = 0 ∨ earlier = 1 ∨ earlier = 2 := by omega
  all_goals exact ⟨⟨"busy", rfl⟩, by decide⟩

end Rehearsal.Polling
