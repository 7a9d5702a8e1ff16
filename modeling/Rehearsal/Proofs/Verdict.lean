import Rehearsal.Command
import Rehearsal.Proofs.Run.Announcements
import Rehearsal.Proofs.Run.Isolation
import Rehearsal.Proofs.Summary

/-! The verdict on a run: the trees of results of a run have four levels at most, so that its
summary accounts for all their failures, and the code with which the program ends tells whether
there is one.
-/

namespace Rehearsal

-----------------------------------------------------------------------------------------
-- The levels of the trees of a run
-----------------------------------------------------------------------------------------

/-- What follows for the second of two related items holds of all items on the right. -/
theorem forall_of_forall₂ {α β : Type} {related : α → β → Prop} {goal : β → Prop} {left : List α}
    {right : List β} (all : List.Forall₂ related left right)
    (tells : ∀ first second, related first second → goal second)
    : ∀ second ∈ right, goal second := by
  induction all with
  | nil => simp
  | cons first _ ih => exact List.forall_mem_cons.mpr ⟨tells _ _ first, ih⟩

theorem Result.levels_failed (name : String) (failure : Failure)
    : (Result.failed name failure).levels = 1 :=
  rfl

/-- A step stands above its directives, which have no children. -/
theorem Step.IsResult.levels_le {step : Step} {result : Result} (isResult : step.IsResult result)
    : result.levels ≤ 2 :=
  Result.levels_le_succ_iff.mpr fun directive member =>
    Result.levels_le_succ_iff.mpr (by simp [isResult.childless directive member])

namespace Telling

variable {ι : Type} {telling : Telling ι} {context : Context}

/-- A task stands above its steps, by induction on what runs. -/
theorem OfTasks.levels_le {registry : TaskRegistry} {chain names : List String}
    {nodes : List Result} {items : List ι} (ran : telling.OfTasks registry chain names nodes items)
    : ∀ node ∈ nodes, node.levels ≤ 3 := by
  have childless (name : String) (failure : Failure) : (Result.failed name failure).levels ≤ 3 := by
    rw [Result.levels_failed]
    decide
  induction ran with
  | nil => simp
  | underWay _ _ ih => exact List.forall_mem_cons.mpr ⟨childless _ _, ih⟩
  | unknown _ _ _ ih => exact List.forall_mem_cons.mpr ⟨childless _ _, ih⟩
  | runs _ _ _ steps _ first later =>
      refine List.forall_mem_append.mpr ⟨first, List.forall_mem_cons.mpr ⟨?_, later⟩⟩
      exact Result.levels_le_succ_iff.mpr
        (forall_of_forall₂ steps fun _ _ isResult => isResult.levels_le)

theorem OfName.levels_le {plan : Plan} {name : String} {nodes : List Result} {items : List ι}
    (ran : telling.OfName context plan name nodes items)
    : ∀ node ∈ nodes, node.levels ≤ 3 := by
  cases ran with
  | unknown => simp [Result.levels_failed]
  | unlaunched => simp [Result.levels_failed]
  | runs _ task => exact task.levels_le

/-- A plan stands above its tasks. -/
theorem OfPlan.levels_le {plan : Plan} {result : Result} {items : List ι}
    (ran : telling.OfPlan context plan result items)
    : result.levels ≤ 4 := by
  obtain ⟨names⟩ := ran
  refine Result.levels_le_succ_iff.mpr fun task member => ?_
  obtain ⟨part, among, within⟩ := List.mem_flatMap.mp member
  exact forall_of_forall₂ names (fun _ _ named => named.levels_le) part among task within

theorem OfRun.levels_le {plans : List Plan} {results : List Result} {items : List ι}
    (ran : telling.OfRun context plans results items)
    : ∀ result ∈ results, result.levels ≤ 4 := by
  obtain ⟨each⟩ := ran
  exact List.forall_mem_map.mpr (forall_of_forall₂ each fun _ _ plan => plan.levels_le)

end Telling

-----------------------------------------------------------------------------------------
-- The code of a run
-----------------------------------------------------------------------------------------

/-- The code for the results of a run: that of a run with failures if a node carries one. -/
def Outcome.verdict (results : List Result) : Nat :=
  if (Result.placesOfAll [] results).any fun place => place.node.isFailed then failed else success

namespace Command

/-- The context of the run of a suite. -/
def contextOf (config : Config) (suite : Suite) : Context :=
  { directives := ⟨Library.forms (.every (config.pollInterval * Duration.millisecond))⟩
    callbacks := Console.callbacks
    tasks := suite.tasks : Context }.addEnvironment memoryEnvironment (.site ∅)

/-- The results of the run of a suite. -/
def resultsOf (config : Config) (suite : Suite) : List Result :=
  suite.plans.map (contextOf config suite).resultOf

theorem context_eq (config : Config) (suite : Suite)
    : context config suite.tasks = .ok (contextOf config suite) := by
  have registered (timing : Library.Timing)
      : Library.register timing ∅ = .ok ⟨Library.forms timing⟩ := by
    rw [Library.register_eq]
    exact congrArg (fun forms => Except.ok (DirectiveRegistry.mk forms)) (List.nil_append _)
  rw [context, registered]
  rfl

theorem contextOf_neverRefuses (config : Config) (suite : Suite)
    : (contextOf config suite).NeverRefuses := by
  simp [Context.NeverRefuses, contextOf, Context.addEnvironment, Console.callbacks]

/-- The run of a suite always ends well. -/
theorem ending_resultsOf (config : Config) (suite : Suite)
    : (Run.ofPlans (contextOf config suite) suite.plans).ending = .ok (resultsOf config suite) :=
  Run.ending_ofPlans (contextOf_neverRefuses config suite) suite.plans

theorem codeOf_ofResults (results : List Result)
    : codeOf (Summary.ofResults results) = Outcome.verdict results := by
  have same : (Summary.ofResults results).isClean
      = !(Result.placesOfAll [] results).any fun place => place.node.isFailed := by
    rw [Bool.eq_iff_iff, Summary.isClean_iff]
    simp [Result.isFailed]
  rw [codeOf, Outcome.verdict, same]
  cases (Result.placesOfAll [] results).any fun place => place.node.isFailed <;> rfl

variable {m : Type → Type} [Monad m] [Files m]

/-- The code with which the run of a suite ends: it is the verdict on the results unless the suite
cannot be loaded or a report that is wanted cannot be written.
-/
def codeOfRun (directory : String) (report : Option String) : m Nat := do
  match ← (loadSuite directory : ExceptT String m (Config × Suite)).run with
  | .error _ => return Outcome.invalid
  | .ok (config, suite) =>
      let results := resultsOf config suite
      match report.or (config.reportPath.map (Path.join directory)) with
      | none => return Outcome.verdict results
      | some path =>
          match ← (writeReport path ((Summary.ofResults results).report results)).run with
          | .error _ => return Outcome.invalid
          | .ok () => return Outcome.verdict results

theorem code_perform [LawfulMonad m] (directory : String) (report : Option String)
    : Outcome.code <$> ((Command.run directory report).perform : m Outcome)
      = codeOfRun directory report := by
  -- Only that a context is built matters: it is not to be evaluated with all its forms.
  obtain ⟨build, same⟩ : ∃ build, build = context := ⟨_, rfl⟩
  have built := context_eq
  rw [perform, runSuite, codeOfRun, map_bind]
  rw [← same] at built ⊢
  refine bind_congr fun loaded => ?_
  cases loaded with
  | error message => simp [Outcome.refused]
  | ok pair =>
      obtain ⟨config, suite⟩ := pair
      simp only [built, ending_resultsOf]
      cases report.or (config.reportPath.map (Path.join directory)) with
      | none => simp [codeOf_ofResults]
      | some path =>
          simp only [map_bind]
          refine bind_congr fun written => ?_
          cases written <;> simp [Outcome.refused, codeOf_ofResults]

end Command

-----------------------------------------------------------------------------------------
-- From the trees to the code
-----------------------------------------------------------------------------------------

/-- No failure is lost between the trees of results and the end of the program. A summary accounts
for all trees with at most four levels, and a run gives no others. The run of a suite that could
be loaded always ends well, and unless a report that is wanted cannot be written, the program ends
with the code of a run with failures or that of success, as a node of its trees carries a failure
or none does.
-/
theorem failures_reach_code
    : (∀ trees : List Result,
        (∀ tree ∈ trees, tree.levels ≤ 4) → (Summary.ofResults trees).AccountsFor trees)
      ∧ (∀ context plans results,
          (Run.ofPlans context plans).ending = .ok results
          → (∀ tree ∈ results, tree.levels ≤ 4) ∧ (Summary.ofResults results).AccountsFor results)
      ∧ (∀ config suite,
          ∃ context,
            Command.context config suite.tasks = .ok context
            ∧ (Run.ofPlans context suite.plans).ending = .ok (Command.resultsOf config suite))
      ∧ ∀ (m : Type → Type) [Monad m] [LawfulMonad m] [Files m] directory report,
          Outcome.code <$> ((Command.run directory report).perform : m Outcome)
          = Command.codeOfRun directory report := by
  refine ⟨fun trees => Summary.accountsFor, ?_, ?_, fun m => Command.code_perform⟩
  · intro context plans results ended
    have low := (Run.told_of_ended context.readBy_noticesOf ended).levels_le
    exact ⟨low, Summary.accountsFor low⟩
  · intro config suite
    exact ⟨_, Command.context_eq config suite, Command.ending_resultsOf config suite⟩

/-- A plan with a failing step, whose directives fail too, and with an unknown task. -/
def failingTree : Result where
  name := "plan"
  children :=
    [{ name := "task"
       children :=
        [{ name := "step"
           error := some (.stepAborted "two" "gone")
           children :=
            [.failed "one" .returnedFalse, { name := "fine" }, .failed "two" .noAlertPresent] }] },
      .failed "lost" (.unknownTask "lost")]

/-- The failures of all levels are itemised in the order of the tree. -/
theorem failures_of_failingTree
    : failingTree.levels ≤ 4
      ∧ (Summary.ofResults [failingTree]).AccountsFor [failingTree]
      ∧ (Summary.ofResults [failingTree]).errors.flatMap ErrorEntry.items
        = [⟨"plan - task(step)", none, (Failure.stepAborted "two" "gone").reason⟩,
            ⟨"plan - task(step)", some "one", Failure.returnedFalse.reason⟩,
            ⟨"plan - task(step)", some "two", Failure.noAlertPresent.reason⟩,
            ⟨"plan - lost", none, (Failure.unknownTask "lost").reason⟩] := by
  have low : failingTree.levels ≤ 4 := by decide
  have accounts : (Summary.ofResults [failingTree]).AccountsFor [failingTree] :=
    failures_reach_code.1 [failingTree] (List.forall_mem_singleton.mpr low)
  refine ⟨low, accounts, ?_⟩
  rw [accounts.items]
  rfl

end Rehearsal
