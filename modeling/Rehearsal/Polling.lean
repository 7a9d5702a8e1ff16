/-!
Polling: an attempt is repeated until it succeeds or a time has passed. Time is told by a clock
that is read after every failed attempt and that passes every moment at some reading, so polling
ends.
-/

namespace Rehearsal

/-- A clock by its readings: the time that has passed at each of them. -/
structure Clock where
  elapsed : Nat → Nat
  monotone : ∀ {earlier later : Nat}, earlier ≤ later → elapsed earlier ≤ elapsed later
  /-- A reading by which a given time has passed. -/
  readingFor : Nat → Nat
  reaches : ∀ time, time ≤ elapsed (readingFor time)

/-- The clock that moves on by the same amount, but at least by one, between two readings. -/
def Clock.steady (amount : Nat) : Clock where
  elapsed reading := reading * max amount 1
  monotone := Nat.mul_le_mul_right _
  readingFor time := time
  reaches time := Nat.le_mul_of_pos_right time (Nat.le_max_right amount 1)

namespace Polling

/-- What a finished polling has come to. -/
structure Outcome (σ ε α : Type) where
  /-- What the last attempt gave. -/
  answer : Except ε α
  state : σ
  /-- The pauses after the attempts before the last one. -/
  pauses : List Nat := []

namespace Outcome

variable {σ ε α : Type}

/-- The number of attempts that were made. -/
def attempts (outcome : Outcome σ ε α) : Nat :=
  outcome.pauses.length + 1

/-- The outcome of a polling that has begun with one more attempt and a pause. -/
def after (pause : Nat) (outcome : Outcome σ ε α) : Outcome σ ε α :=
  { outcome with pauses := pause :: outcome.pauses }

end Outcome

variable {σ ε α : Type}

/-- Polls for at most a number of attempts, with clock readings from a given one on; `none` if
that many attempts do not settle the matter. The first success counts, and after a failure polling
ends if the time is up; otherwise it pauses for the interval or for what is left of the time. -/
def attemptUpTo (elapsed : Nat → Nat) (timeout interval : Nat)
    (attempt : σ → Except ε α × σ)
    : Nat → Nat → σ → Option (Outcome σ ε α)
  | 0, _, _ => none
  | limit + 1, reading, state =>
      match attempt state with
      | (.ok value, next) => some { answer := .ok value, state := next }
      | (.error failure, next) =>
          if timeout ≤ elapsed reading then some { answer := .error failure, state := next }
          else
            (attemptUpTo elapsed timeout interval attempt limit (reading + 1) next).map
              (Outcome.after (min interval (timeout - elapsed reading)))

/-- Polling is settled by the reading at which the time is up. -/
theorem attemptUpTo_isSome {elapsed : Nat → Nat} {timeout interval : Nat}
    {attempt : σ → Except ε α × σ} {limit reading : Nat} {state : σ}
    (up : timeout ≤ elapsed (reading + limit))
    : (attemptUpTo elapsed timeout interval attempt (limit + 1) reading state).isSome := by
  induction limit generalizing reading state with
  | zero =>
      unfold attemptUpTo
      split
      · rfl
      · rw [if_pos (by simpa using up)]
        rfl
  | succ limit ih =>
      unfold attemptUpTo
      split
      · rfl
      · split
        · rfl
        · rw [Option.isSome_map]
          exact ih (by simpa [Nat.add_comm, Nat.add_left_comm] using up)

/-- Polls until an attempt succeeds or the time is up. -/
def poll (clock : Clock) (timeout interval : Nat) (attempt : σ → Except ε α × σ) (state : σ)
    : Outcome σ ε α :=
  (attemptUpTo clock.elapsed timeout interval attempt (clock.readingFor timeout + 1) 0 state).get
    (attemptUpTo_isSome (by simpa using clock.reaches timeout))

end Polling

end Rehearsal
