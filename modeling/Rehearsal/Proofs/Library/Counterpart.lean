import Rehearsal.Proofs.Library.Forms
import Rehearsal.Proofs.Library.Timing

/-! A check that is repeated for a limited time comes to what it comes to at once, and the form
that repeats it passes exactly where its counterpart passes, the form that looks once.
-/

namespace Rehearsal.Library

open Browser

-----------------------------------------------------------------------------------------
-- Forms and their counterparts
-----------------------------------------------------------------------------------------

/-- A pattern without the signs that make repetitions prefer few characters to many. -/
def eager : List Char → List Char
  | '+' :: '?' :: rest => '+' :: eager rest
  | c :: rest => c :: eager rest
  | [] => []

/-- An expectation looks once for what a check can be repeated for: it is written as the check, but
for the preference for few characters, and it has the same handler. Where an element is not to
exist, the check looks whether it is absent, and the expectation is meant to fail in finding it.
-/
structure Draft.IsCounterpart (plain polled : Draft) : Prop where
  written : eager polled.source.toList = plain.source.toList
  handled
    : plain.handler = polled.handler ∧ plain.expected = none
      ∨ polled.handler = expectAbsent ∧ plain.handler = expectExists
        ∧ plain.expected = some .elementNotFound

theorem counterparts_pollingDrafts
    : List.Forall₂ (fun (polled plain : Draft) => plain.IsCounterpart polled) pollingDrafts
        (expectationDrafts.take 4 ++ expectationDrafts.drop 13) := by
  have written {first second : String} (chars : List Char) (same : first.toList = chars)
      (same' : second.toList = eager chars)
      : eager first.toList = second.toList := by
    rw [same, same']
  unfold pollingDrafts expectationDrafts
  repeat' apply List.Forall₂.cons
  all_goals first
    | exact .nil
    | exact ⟨written _ String.toList_ofList String.toList_ofList, .inl ⟨rfl, rfl⟩⟩
    | exact ⟨written _ String.toList_ofList String.toList_ofList, .inr ⟨rfl, rfl, rfl⟩⟩

/-- The place among the expectations of the counterpart of a check. -/
def counterpartPlace (place : Nat) : Nat :=
  if place < 4 then place else place + 9

theorem getElem?_counterpartPlace {α : Type} (expectations : List α) (place : Nat)
    (long : 4 ≤ expectations.length)
    : (expectations.take 4 ++ expectations.drop 13)[place]?
      = expectations[counterpartPlace place]? := by
  have early : (expectations.take 4).length = 4 := List.length_take_of_le long
  unfold counterpartPlace
  split
  next below =>
    rw [List.getElem?_append_left (by omega), List.getElem?_take_of_lt below]
  next above =>
    rw [List.getElem?_append_right (by omega), List.getElem?_drop, early]
    congr 1
    omega

theorem exists_counterpart {place : Nat} {polled : Draft}
    (stands : pollingDrafts[place]? = some polled)
    : ∃ plain,
        expectationDrafts[counterpartPlace place]? = some plain ∧ plain.IsCounterpart polled := by
  obtain ⟨length, paired⟩ := List.forall₂_iff_get.mp counterparts_pollingDrafts
  obtain ⟨inside, rfl⟩ := List.getElem?_eq_some_iff.mp stands
  have inside' := Nat.lt_of_lt_of_eq inside length
  refine ⟨_, ?_, paired place inside inside'⟩
  rw [← getElem?_counterpartPlace expectationDrafts place (by decide)]
  exact List.getElem?_eq_getElem inside'

/-- Among the forms behind a place of a registry, the form that repeats the check at a further place
stands with its counterpart.
-/
structure StandsWithCounterpart (timing : Timing) (registry : DirectiveRegistry)
    (start place : Nat) (polled plain : Draft) (polls looks : DirectiveForm) : Prop where
  check : pollingDrafts[place]? = some polled
  counterpart : plain.IsCounterpart polled
  stands : registry.forms[start + place]? = some polls
  repeats : (polled.within timing).Describes polls
  stands' : registry.forms[start + (pollingDrafts.length + counterpartPlace place)]? = some looks
  once : plain.Describes looks

/-- The form that repeats a check stands at the place of the check. -/
theorem drafts_polling {place : Nat} {polled : Draft} (check : pollingDrafts[place]? = some polled)
    (timing : Timing)
    : (drafts timing)[place]? = some (polled.within timing) := by
  obtain ⟨inside, _⟩ := List.getElem?_eq_some_iff.mp check
  unfold drafts
  rw [List.append_assoc, List.getElem?_append_left (by rwa [List.length_map]), List.getElem?_map,
    check, Option.map_some]

/-- The expectations stand behind the forms that poll. -/
theorem drafts_expectation {place : Nat} {plain : Draft}
    (expects : expectationDrafts[place]? = some plain) (timing : Timing)
    : (drafts timing)[pollingDrafts.length + place]? = some plain := by
  obtain ⟨inside, _⟩ := List.getElem?_eq_some_iff.mp expects
  unfold drafts
  rw [List.append_assoc, List.getElem?_append_right (by rw [List.length_map]; omega),
    List.length_map, Nat.add_sub_cancel_left, List.getElem?_append_left inside, expects]

/-- The forms that are registered behind others keep their order. -/
theorem getElem?_behind (registry : DirectiveRegistry) (more : List DirectiveForm) (place : Nat)
    : (registry.forms ++ more)[registry.size + place]? = more[place]? := by
  unfold DirectiveRegistry.size
  rw [List.getElem?_append_right (Nat.le_add_right _ _), Nat.add_sub_cancel_left]

/-- Every form that repeats a check stands with its counterpart. -/
theorem exists_standsWithCounterpart (timing : Timing) (registry : DirectiveRegistry) {place : Nat}
    (below : place < pollingDrafts.length)
    : ∃ polled plain nodes nodes',
        formNodes[place]? = some nodes
        ∧ formNodes[pollingDrafts.length + counterpartPlace place]? = some nodes'
        ∧ StandsWithCounterpart timing ⟨registry.forms ++ forms timing⟩ registry.size place polled
          plain ((polled.within timing).form nodes) (plain.form nodes') := by
  have check := List.getElem?_eq_getElem below
  obtain ⟨plain, expects, counterpart⟩ := exists_counterpart check
  have known {place : Nat} {draft : Draft} (drafted : (drafts timing)[place]? = some draft)
      : ∃ nodes, formNodes[place]? = some nodes := by
    obtain ⟨inside, _⟩ := List.getElem?_eq_some_iff.mp drafted
    rw [(drafts_readAs timing).length_eq] at inside
    exact ⟨_, List.getElem?_eq_getElem inside⟩
  have drafted := drafts_polling check timing
  have drafted' := drafts_expectation expects timing
  obtain ⟨nodes, read⟩ := known drafted
  obtain ⟨nodes', read'⟩ := known drafted'
  refine
    ⟨_, plain, nodes, nodes', read, read', check, counterpart, ?_, Draft.describes_form _ _, ?_,
      Draft.describes_form _ _⟩
  · exact (getElem?_behind _ _ _).trans (forms_getElem? drafted read)
  · exact (getElem?_behind _ _ _).trans (forms_getElem? drafted' read')

-----------------------------------------------------------------------------------------
-- Checks that say nothing
-----------------------------------------------------------------------------------------

/-- A check that answers nothing where it does not fail. -/
def IsSilent (drive : Drive (Option Bool)) : Prop :=
  ∀ session answer, (outcome drive session).1 = .ok answer → answer = none

theorem silent_none : IsSilent (pure none) := by
  intro session answer ended
  cases ended
  rfl

theorem silent_fail (failure : Failure) : IsSilent (Drive.fail failure) := by
  intro session answer ended
  cases ended

theorem silent_expect (condition : Bool) (complaint : String)
    : IsSilent (expect condition complaint) := by
  cases condition with
  | false => exact silent_fail _
  | true => exact silent_none

/-- What comes before a check does not matter to what it says. -/
theorem IsSilent.after {α : Type} {drive : Drive α} {next : α → Drive (Option Bool)}
    (silent : ∀ value, IsSilent (next value))
    : IsSilent (drive >>= next) := by
  intro session answer ended
  rw [outcome_bind] at ended
  split at ended
  next value after _ => exact silent value after answer ended
  next => cases ended

theorem IsSilent.tryCatch {drive : Drive (Option Bool)} {rescue : Failure → Drive (Option Bool)}
    (silent : IsSilent drive) (rescuing : ∀ failure, IsSilent (rescue failure))
    : IsSilent (tryCatch drive rescue) := by
  intro session answer ended
  rw [outcome_tryCatch] at ended
  split at ended
  next value after here =>
    cases ended
    exact silent session answer (congrArg Prod.fst here)
  next failure after _ => exact rescuing failure after answer ended

/-- A handler that insists on an answer other than `false` does what a silent check does. -/
theorem outcome_insisting {check : Handler} {args : Args} (silent : IsSilent (check args))
    (session : Session)
    : outcome (insisting check args) session = outcome (check args) session := by
  have answers := silent session
  unfold insisting
  rw [outcome_bind]
  cases ended : outcome (check args) session with
  | mk ending after =>
      rw [ended] at answers
      cases ending with
      | error failure => rfl
      | ok answer =>
          cases answers answer rfl
          rfl

/-- The checks that can be repeated say nothing, by cases on the form. -/
theorem silent_pollingDrafts {draft : Draft} (member : draft ∈ pollingDrafts) (args : Args)
    : IsSilent (draft.handler args) := by
  have comparing {α : Type} (seen : Drive α) (name : String) (condition : String → α → Bool)
      (complaint : String → α → String)
      : IsSilent (do
          let expected ← argument args name
          let value ← seen
          expect (condition expected value) (complaint expected value)) :=
    .after fun _ => .after fun _ => silent_expect _ _
  have selecting (selected : Bool) : IsSilent (expectSelection selected args) :=
    .after fun _ => .after fun _ => silent_expect _ _
  simp only [pollingDrafts, List.mem_cons, List.not_mem_nil, or_false] at member
  rcases member with rfl | rfl | rfl | rfl | rfl | rfl | rfl | rfl | rfl | rfl | rfl | rfl | rfl
  · exact comparing Drive.title "title" _ _
  · exact comparing Drive.currentUrl "url" _ _
  · exact comparing Drive.currentUrl "url" _ _
  · exact comparing Drive.alertText "text" _ _
  · exact .after fun _ => .after fun _ => silent_expect _ _
  · exact .after fun _ => silent_none
  · refine .tryCatch (.after fun _ => silent_expect _ _) fun failure => ?_
    split
    · exact silent_none
    · exact silent_fail _
  · exact comparing (valueOf args) "value" _ _
  · exact .after fun _ => .after fun _ => silent_expect _ _
  · exact .after fun _ => silent_expect _ _
  · exact .after fun _ => silent_expect _ _
  · exact selecting false
  · exact selecting true

-----------------------------------------------------------------------------------------
-- Two ways to look for what is absent
-----------------------------------------------------------------------------------------

/-- An element is absent if it is looked for and not found. -/
theorem expectAbsent_passes_iff {polls looks : DirectiveForm} (insists : polls.expected = none)
    (expects : looks.expected = some .elementNotFound) (args : Args) (session : Session)
    : polls.judge (outcome (expectAbsent args) session).1 = none
      ↔ looks.judge (outcome (expectExists args) session).1 = none := by
  have absent : outcome (expectAbsent args) session
      = match outcome (element args) session with
        | (.ok _, after) =>
            (.error (.assertion ("'" ++ elementText args ++ "' still exists")), after)
        | (.error failure, after) =>
            (if failure.kind = .elementNotFound then .ok none else .error failure, after) := by
    unfold expectAbsent
    rw [outcome_tryCatch, outcome_bind]
    cases outcome (element args) session with
    | mk ending after =>
        cases ending with
        | ok key => rfl
        | error failure =>
            by_cases missing : failure.kind = .elementNotFound
            · simp only [missing, ↓reduceIte]
              rfl
            · simp only [missing, ↓reduceIte]
              rfl
  have exists_ : outcome (expectExists args) session
      = match outcome (element args) session with
        | (.ok _, after) => (.ok none, after)
        | (.error failure, after) => (.error failure, after) := by
    unfold expectExists
    rw [outcome_bind]
    cases outcome (element args) session with
    | mk ending after => cases ending <;> rfl
  rw [absent, exists_]
  cases outcome (element args) session with
  | mk ending after =>
      cases ending with
      | ok key => simp [DirectiveForm.judge, insists, expects]
      | error failure =>
          by_cases missing : failure.kind = .elementNotFound
          · simp [DirectiveForm.judge, insists, expects, missing]
          · simp [DirectiveForm.judge, insists, expects, missing]

-----------------------------------------------------------------------------------------
-- Repeating and looking once
-----------------------------------------------------------------------------------------

/-- With some arguments and from some state, the form `polls` does what one attempt of its check
does, leaves the session as it is, and passes exactly where the form `looks` passes. The attempts
come to the same whatever the time limit and the pauses, with every clock that reaches the limit.
-/
structure AgreesWithOnce (check : Handler) (polls looks : DirectiveForm) (args : Args)
    (session : Session)
    : Prop where
  once : (polls.handler args).on session = (((check args).on session).1, session)
  passes
    : polls.judge ((polls.handler args).on session).1 = none
      ↔ looks.judge ((looks.handler args).on session).1 = none
  anyClock
    : ∀ (elapsed : Nat → Nat) (timeout interval reading limit : Nat),
        timeout ≤ elapsed reading
        → reading < limit
        → ∃ settled,
            Polling.attemptUpTo elapsed timeout interval (insisting check args).on limit 0 session
              = some settled
            ∧ (settled.answer, settled.state) = (((check args).on session).1, session)

/-- The arguments say how many seconds there are. -/
theorem outcome_seconds {args : Args} {raw : String} {timeout : Duration}
    (given : args.get? "seconds" = some raw) (numeral : Duration.ofText? raw = some timeout)
    (session : Session)
    : outcome (seconds args) session = (.ok timeout, session) := by
  have read : outcome (argument args "seconds") session = (.ok raw, session) := by
    unfold argument
    rw [given]
    rfl
  unfold seconds
  rw [outcome_bind_of_ok read, numeral]
  rfl

/-- Every readable number of seconds lets a check be repeated to the end that one attempt has. -/
theorem StandsWithCounterpart.agrees {timing : Timing} {registry : DirectiveRegistry}
    {start place : Nat} {polled plain : Draft} {polls looks : DirectiveForm}
    (pair : StandsWithCounterpart timing registry start place polled plain polls looks)
    {args : Args} {raw : String} {timeout : Duration}
    (given : args.get? "seconds" = some raw) (numeral : Duration.ofText? raw = some timeout)
    (session : Session)
    : AgreesWithOnce polled.handler polls looks args session := by
  have member := List.mem_of_getElem? pair.check
  have reads : outcome (polled.handler args) session
      = ((outcome (polled.handler args) session).1, session) :=
    Prod.ext rfl (reads_pollingDrafts member args session)
  have attempt : outcome (insisting polled.handler args) session
      = ((outcome (polled.handler args) session).1, session) :=
    (outcome_insisting (silent_pollingDrafts member args) session).trans reads
  have still : (outcome (insisting polled.handler args) session).2 = session :=
    congrArg Prod.snd attempt
  have polling_ : outcome (polls.handler args) session
      = ((outcome (polled.handler args) session).1, session) := by
    rw [pair.repeats.handler]
    change outcome (polling timing polled.handler args) session = _
    unfold polling
    rw [outcome_bind_of_ok (outcome_seconds given numeral session)]
    exact (Polling.poll_of_still still timing.clock timeout timing.interval).trans attempt
  refine ⟨polling_, ?_, ?_⟩
  · change polls.judge (outcome (polls.handler args) session).1 = none
      ↔ looks.judge (outcome (looks.handler args) session).1 = none
    rw [polling_, pair.once.handler]
    rcases pair.counterpart.handled with ⟨same, plainly⟩ | ⟨absent, exists_, expects⟩
    · rw [same]
      unfold DirectiveForm.judge
      rw [pair.repeats.expected, pair.once.expected, plainly]
      rfl
    · rw [absent, exists_]
      have fails := pair.once.expected.trans expects
      exact expectAbsent_passes_iff pair.repeats.expected fails args session
  · intro elapsed timeout interval reading limit up below
    have settles : (Polling.attemptUpTo elapsed timeout interval
        (insisting polled.handler args).on limit 0 session).isSome :=
      Polling.attemptUpTo_isSome_of_lt (by rwa [Nat.zero_add]) below
    obtain ⟨settled, ended⟩ := Option.isSome_iff_exists.mp settles
    exact ⟨settled, ended, (Polling.attemptUpTo_of_still still ended).trans attempt⟩

/-- Every form that repeats a check stands with its counterpart, the form that looks once, and with
every readable number of seconds the two agree.
-/
theorem repeated_as_once (timing : Timing) (registry : DirectiveRegistry)
    : ∃ next,
        register timing registry = .ok next
        ∧ ∀ place < 13, ∃ polled plain polls looks,
            StandsWithCounterpart timing next registry.size place polled plain polls looks
            ∧ ∀ args raw timeout session,
                args.get? "seconds" = some raw
                → Duration.ofText? raw = some timeout
                → AgreesWithOnce polled.handler polls looks args session := by
  refine ⟨_, register_eq timing registry, ?_⟩
  intro place below
  obtain ⟨polled, plain, nodes, nodes', _, _, pair⟩ :=
    exists_standsWithCounterpart timing registry below
  refine ⟨polled, plain, _, _, pair, ?_⟩
  intro args raw timeout session given numeral
  exact pair.agrees given numeral session

/-- The arguments of a directive about an element that is not on a page. -/
def absentArgs : Args :=
  ((∅ : Args).insert "elem" "#gone").insert "seconds" "1.5"

/-- An element is absent from an empty page at once and for as long as it is looked for. -/
theorem absence_agreesWithOnce
    : ∃ next polls looks,
        register (.every 1) ∅ = .ok next
        ∧ next.forms[6]? = some polls
        ∧ next.forms[28]? = some looks
        ∧ AgreesWithOnce expectAbsent polls looks absentArgs (.launch ∅)
        ∧ (polls.handler absentArgs).on (.launch ∅) = (.ok none, .launch ∅)
        ∧ looks.judge ((looks.handler absentArgs).on (.launch ∅)).1 = none := by
  obtain ⟨next, registered, agree⟩ := repeated_as_once (.every 1) ∅
  obtain ⟨polled, plain, polls, looks, pair, agrees⟩ := agree 6 (by decide)
  have absent : polled = ⟨"^Expect (?P<elem>.+?) to not exist", expectAbsent, none⟩ :=
    (Option.some.inj pair.check).symm
  subst absent
  have given : absentArgs.get? "seconds" = some "1.5" := by decide +kernel
  have numeral : Duration.ofText? "1.5" = some 1500000000 := by decide +kernel
  have agreed := agrees absentArgs "1.5" 1500000000 (.launch ∅) given numeral
  have attempt : ((expectAbsent absentArgs).on (.launch ∅)).1 = .ok none := by decide +kernel
  have ended : (polls.handler absentArgs).on (.launch ∅) = (.ok none, .launch ∅) := by
    rw [agreed.once, attempt]
  have passed : polls.judge ((polls.handler absentArgs).on (.launch ∅)).1 = none := by
    have plainly : polls.expected = none := pair.repeats.expected
    rw [ended]
    unfold DirectiveForm.judge
    rw [plainly]
  exact ⟨next, polls, looks, registered, pair.stands, pair.stands', agreed, ended,
    agreed.passes.mp passed⟩

end Rehearsal.Library
