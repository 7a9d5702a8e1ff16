import Rehearsal.Proofs.Library.Calls

/-! What a repeated check comes to does not depend on how time passes: it looks only, so every
attempt comes to what the first one does.
-/

namespace Rehearsal

open Browser

namespace Polling

variable {σ ε α : Type} {attempt : σ → Except ε α × σ} {state : σ}

/-- Attempts that leave a state as it is come to what one of them does, by induction on their
number.
-/
theorem attemptUpTo_of_still (still : (attempt state).2 = state) {elapsed : Nat → Nat}
    {timeout interval limit reading : Nat} {settled : Outcome σ ε α}
    (ended : attemptUpTo elapsed timeout interval attempt limit reading state = some settled)
    : (settled.answer, settled.state) = attempt state := by
  induction limit generalizing reading settled with
  | zero => cases ended
  | succ limit ih =>
      unfold attemptUpTo at ended
      split at ended
      next value next made =>
        cases ended
        exact made.symm
      next failure next made =>
        rw [made] at still
        have same : next = state := still
        subst same
        split at ended
        · cases ended
          exact made.symm
        · obtain ⟨later, settledLater, rfl⟩ := Option.map_eq_some_iff.mp ended
          have rest : (later.answer, later.state) = attempt next := ih settledLater
          exact rest

/-- Attempts are settled by any reading at which the time is up, by induction on how many readings
are ahead.
-/
theorem attemptUpTo_isSome_of_lt {elapsed : Nat → Nat} {timeout interval ahead limit reading : Nat}
    (up : timeout ≤ elapsed (reading + ahead)) (below : ahead < limit)
    : (attemptUpTo elapsed timeout interval attempt limit reading state).isSome := by
  induction ahead generalizing limit reading state with
  | zero =>
      obtain ⟨limit, rfl⟩ := Nat.exists_eq_succ_of_ne_zero (Nat.ne_of_gt below)
      unfold attemptUpTo
      split
      · rfl
      · rw [if_pos (by simpa using up)]
        rfl
  | succ ahead ih =>
      obtain ⟨limit, rfl⟩ := Nat.exists_eq_succ_of_ne_zero (Nat.ne_zero_of_lt below)
      unfold attemptUpTo
      split
      · rfl
      · split
        · rfl
        · rw [Option.isSome_map]
          exact ih (by rwa [Nat.add_right_comm]) (Nat.lt_of_succ_lt_succ below)

theorem poll_of_still (still : (attempt state).2 = state) (clock : Clock)
    (timeout interval : Nat)
    : let settled := poll clock timeout interval attempt state
      (settled.answer, settled.state) = attempt state := by
  have isSome : (attemptUpTo clock.elapsed timeout interval attempt
      (clock.readingFor timeout + 1) 0 state).isSome :=
    attemptUpTo_isSome (by simpa using clock.reaches timeout)
  exact attemptUpTo_of_still still (Option.some_get isSome).symm

end Polling

namespace Library

open Drive

theorem reads_insisting {handler : Handler} {args : Args} (reads : Reads (handler args))
    : Reads (insisting handler args) := by
  refine reads.bind fun answer => ?_
  split
  · exact .fail _
  · exact .pure _

/-- A check that looks only is repeated to the same end whatever the timing. -/
theorem polling_eq {check : Handler} (reads : ∀ args, Reads (check args))
    (timing other : Timing)
    : polling timing check = polling other check := by
  funext args
  unfold polling
  refine congrArg (seconds args >>= ·) ?_
  funext timeout session
  have still := reads_insisting (reads args) session
  exact (Polling.poll_of_still still _ _ _).trans (Polling.poll_of_still still _ _ _).symm

/-- The built-in forms do the same whatever the timing. -/
theorem drafts_eq (timing other : Timing) : drafts timing = drafts other := by
  have within
      : pollingDrafts.map (Draft.within timing) = pollingDrafts.map (Draft.within other) := by
    refine List.map_congr_left fun draft member => ?_
    unfold Draft.within
    rw [polling_eq (reads_pollingDrafts member) timing other]
  unfold drafts
  rw [within]

/-- The built-in library is the same whatever the timing. -/
theorem register_timing (timing other : Timing) (registry : DirectiveRegistry)
    : register timing registry = register other registry := by
  unfold register
  rw [drafts_eq timing other]

end Library

end Rehearsal
