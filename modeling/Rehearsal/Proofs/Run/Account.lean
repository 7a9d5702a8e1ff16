import Rehearsal.Proofs.Run.Journal

/-! What a task adds to a stage while it runs. Where a view of the stage gains items at the marks of
steps and at the recorded results only, the items of a task come after those of its prerequisites.
-/

namespace Rehearsal.Act

variable {ι : Type} {context : Context} {view : Stage → List ι}
  {refused : String → Failure → List ι} {begun ended : String → List ι} {recorded : Task → List ι}

/-- A view of the stage gains items where steps begin and end, where the result of a task is
recorded, and where a prerequisite cannot run.
-/
structure Account (context : Context) (view : Stage → List ι)
    (refused : String → Failure → List ι) (begun ended : String → List ι)
    (recorded : Task → List ι)
    : Prop where
  announce : ∀ phases event, Gains view (announce context phases event) (fun _ => True) []
  dispatch : ∀ chain directive, Gains view (dispatch context chain directive) (fun _ => True) []
  stepsBegin : ∀ task, Gains view (note (.stepsBegin task)) (fun _ => True) (begun task)
  stepsEnd : ∀ task, Gains view (note (.stepsEnd task)) (fun _ => True) (ended task)
  scope : ∀ stage scope, view { stage with scope } = view stage
  putFailed
    : ∀ name failure,
        Gains view (putNode (.failed name failure)) (fun _ => True) (refused name failure)
  putResult
    : ∀ task children,
        children.map Result.name = task.steps.map Step.name
        → Gains view (putNode { name := task.name, children }) (fun _ => True) (recorded task)

namespace Account

theorem runDirectives (account : Account context view refused begun ended recorded)
    (chain directives : List String)
    : Gains view (runDirectives context chain directives) (fun _ => True) [] := by
  induction directives with
  | nil => exact .pure trivial
  | cons directive rest ih =>
      have first : Gains view (runDirective context chain directive) (fun _ => True) [] :=
        (account.announce _ _).before fun _ _ =>
          (account.dispatch _ _).before fun _ _ =>
            (account.announce _ _).before fun _ _ => .pure trivial
      refine first.before fun result _ => ?_
      cases abortion? result with
      | some failure => exact .pure trivial
      | none => exact ih.before fun _ _ => .pure trivial

/-- Steps end in one result each under their names, by induction on the steps. -/
theorem runSteps (account : Account context view refused begun ended recorded)
    (chain : List String) (steps : List Step)
    : Gains view (runSteps context chain steps)
        (fun results => results.map Result.name = steps.map Step.name) [] := by
  induction steps with
  | nil => exact .pure rfl
  | cons step rest ih =>
      have first
          : Gains view (runStep context chain step) (fun result => result.name = step.name) [] :=
        (account.announce _ _).before fun _ _ =>
          (account.runDirectives chain step.directives).before fun _ _ =>
            (account.announce _ _).before fun _ _ => .pure rfl
      refine first.before fun result named => ?_
      refine ih.before fun results others => .pure ?_
      rw [List.map_cons, List.map_cons, named, others]

theorem runPrerequisites {chain names : List String} {each : String → List ι}
    (gains
      : ∀ name ∈ names,
          Gains view (runPrerequisite context chain name) (fun _ => True) (each name))
    : Gains view (runPrerequisites context chain names) (fun _ => True) (names.flatMap each) := by
  induction names with
  | nil =>
      rw [Act.runPrerequisites]
      exact .pure trivial
  | cons name rest ih =>
      obtain ⟨head, tail⟩ := List.forall_mem_cons.mp gains
      rw [Act.runPrerequisites, List.flatMap_cons]
      exact head.bind fun _ _ => ih tail

theorem within (account : Account context view refused begun ended recorded) {α : Type}
    {act : Act α} {goal : α → Prop} {items : List ι} (frame : Variables)
    (gains : Gains view act goal items)
    : Gains view (within frame act) goal items := by
  intro stage value after done
  rw [outcome_within] at done
  cases inner : outcome act { stage with scope := stage.scope.push frame } with
  | mk ending left =>
      rw [inner] at done
      cases done
      obtain ⟨met, gained⟩ := gains inner
      exact ⟨met, by rw [account.scope, gained, account.scope]⟩

/-- The items of a task come after those of its prerequisites, by induction along the
prerequisites.
-/
theorem runNested (account : Account context view refused begun ended recorded)
    (chain : List String) (task : Task)
    : Gains view (runNested context chain task) (fun _ => True)
        (context.tasks.postorder refused
          (fun task => begun task.name ++ ended task.name ++ recorded task)
          (chain ++ [task.name]) task) := by
  induction chain, task using context.tasks.prerequisites_induction with
  | inherits chain task below =>
    rw [Act.runNested, TaskRegistry.postorder_eq, ← List.append_assoc, ← List.append_assoc]
    refine (account.announce _ _).before fun _ _ => ?_
    refine .bind (account.within task.frame ?_) fun children named =>
      (account.announce _ _).before fun _ _ => account.putResult task children named
    -- Within the frame, the prerequisites are done before the steps begin.
    rw [List.append_assoc]
    refine .bind (runPrerequisites fun name member => ?_) fun _ _ =>
      (account.stepsBegin _).bind fun _ _ => (account.runSteps _ _).before fun _ named =>
        (account.stepsEnd _).after fun _ _ => .pure named
    rw [runPrerequisite_eq]
    cases under : (chain ++ [task.name]).contains name with
    | true =>
        rw [TaskRegistry.settle_of_mem under]
        exact account.putFailed _ _
    | false =>
        simp only [Bool.false_eq_true, ↓reduceIte]
        cases found : context.tasks.get? name with
        | none =>
            rw [TaskRegistry.settle_of_unknown under found]
            exact account.putFailed _ _
        | some next =>
            rw [TaskRegistry.settle_of_registered under found]
            exact below name member next under found

end Account

end Rehearsal.Act
