import Rehearsal.Lifecycle

/-!
The transcript of a run: every phase of every level in the order in which it was announced.
-/

namespace Rehearsal.Transcript

/-- The callbacks that hear every level in every phase. -/
def callbacks : List Callback :=
  [Entity.all, .testPlan, .task, .step, .directive].flatMap fun entity =>
    (Phase.opening ++ Phase.closing).map fun phase => ⟨.transcript, entity, phase, fun _ => none⟩

/-- The level and the name of a notice. -/
def subject (notice : Notice) : String :=
  notice.event.entity.name ++ " " ++ notice.event.name

/-- The notices of the transcript. -/
def heard (notices : List Notice) : List Notice :=
  notices.filter fun notice => notice.listener == .transcript

/-- The entries of the transcript. -/
def entries (notices : List Notice) : List String :=
  (heard notices).map fun notice => notice.phase.name ++ " " ++ subject notice

/-- The entries of one phase, without its name. -/
def entriesOf (phase : Phase) (notices : List Notice) : List String :=
  ((heard notices).filter fun notice => notice.phase == phase).map subject

end Rehearsal.Transcript
