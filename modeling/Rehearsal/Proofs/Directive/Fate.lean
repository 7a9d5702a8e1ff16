import Mathlib.Logic.ExistsUnique
import Rehearsal.Proofs.Directive.Arguments
import Rehearsal.Proofs.Directive.Resolution
import Rehearsal.Proofs.Library.Forms

/-! What can become of a directive. Either no form is for it, or its form lacks the value of a
variable, or the handler of its form is called, once and no other. Only the forms that were
accepted matter, and of them those up to the one that the directive has.
-/

namespace Rehearsal

open Browser

-----------------------------------------------------------------------------------------
-- Registering one draft after another
-----------------------------------------------------------------------------------------

open Library (Draft ofText_of_readAs ofText_of_reserved)

/-- The form of a draft, if the draft is accepted. -/
def Library.Draft.form? (draft : Draft) : Option DirectiveForm :=
  (DirectiveForm.ofText draft.source draft.expected draft.handler).toOption

/-- No accepted form has a group under the reserved name. -/
theorem DirectiveForm.unreserved_of_ofText {source : String} {expected : Option FailureKind}
    {handler : Handler} {form : DirectiveForm}
    (accepted : ofText source expected handler = .ok form)
    : reservedName ∉ form.pattern.groupNames := by
  unfold ofText at accepted
  split at accepted
  · cases accepted
  split at accepted
  next => cases accepted
  next free =>
    cases accepted
    intro member
    exact free (List.contains_iff_mem.mpr member)

namespace DirectiveRegistry

/-- The registry after drafts have been handed in one after another. One that is refused leaves it
as it is.
-/
def registerEach (registry : DirectiveRegistry) : List Draft → DirectiveRegistry
  | [] => registry
  | draft :: rest =>
      match registry.register draft.source draft.expected draft.handler with
      | .ok next => next.registerEach rest
      | .error _ => registry.registerEach rest

/-- An accepted draft adds its form, and a refused one has none. -/
theorem register_eq_match (registry : DirectiveRegistry) (draft : Draft)
    : (registry.register draft.source draft.expected draft.handler).toOption
      = draft.form?.map registry.add := by
  unfold register Draft.form?
  cases DirectiveForm.ofText draft.source draft.expected draft.handler with
  | error refusal => rfl
  | ok form => rfl

/-- The forms of a registry are those of the accepted drafts, in order, by induction on the
drafts.
-/
theorem forms_registerEach (registry : DirectiveRegistry) (drafts : List Draft)
    : (registry.registerEach drafts).forms
      = registry.forms ++ drafts.filterMap Draft.form? := by
  induction drafts generalizing registry with
  | nil => simp [registerEach]
  | cons draft rest ih =>
      have added := register_eq_match registry draft
      unfold registerEach
      cases registered : registry.register draft.source draft.expected draft.handler with
      | error refusal =>
          rw [registered] at added
          have refused : draft.form? = none := Option.map_eq_none_iff.mp added.symm
          rw [List.filterMap_cons_none refused]
          exact ih registry
      | ok next =>
          rw [registered] at added
          obtain ⟨form, accepted, rfl⟩ := Option.map_eq_some_iff.mp added.symm
          rw [List.filterMap_cons_some accepted]
          refine (ih (registry.add form)).trans ?_
          simp [add]

theorem form?_eq_none_of_refused {registry : DirectiveRegistry} {draft : Draft}
    {refusal : DirectiveForm.Refusal}
    (refused : registry.register draft.source draft.expected draft.handler = .error refusal)
    : draft.form? = none := by
  have added := register_eq_match registry draft
  rw [refused] at added
  exact Option.map_eq_none_iff.mp added.symm

/-- No form of a registry has a group under the reserved name. -/
def Unreserved (registry : DirectiveRegistry) : Prop :=
  ∀ form ∈ registry.forms, DirectiveForm.reservedName ∉ form.pattern.groupNames

theorem unreserved_registerEach (drafts : List Draft)
    : ((∅ : DirectiveRegistry).registerEach drafts).Unreserved := by
  intro form member
  rw [forms_registerEach] at member
  have empty : (∅ : DirectiveRegistry).forms = [] := rfl
  rw [empty, List.nil_append] at member
  obtain ⟨draft, _, accepted⟩ := List.mem_filterMap.mp member
  unfold Draft.form? at accepted
  cases ended : DirectiveForm.ofText draft.source draft.expected draft.handler with
  | error refusal =>
      rw [ended] at accepted
      cases accepted
  | ok other =>
      rw [ended] at accepted
      cases accepted
      exact DirectiveForm.unreserved_of_ofText ended

end DirectiveRegistry

-----------------------------------------------------------------------------------------
-- Three fates
-----------------------------------------------------------------------------------------

/-- A form is not satisfied with how its handler ended: it is meant to fail in a way in which the
handler did not, or it is not meant to fail and the handler failed or answered `false`.
-/
def DirectiveForm.IsDissatisfied (form : DirectiveForm) (ending : Except Failure (Option Bool))
    : Prop :=
  (∃ kind, form.expected = some kind ∧ ∀ failure, ending = .error failure → failure.kind ≠ kind)
  ∨ form.expected = none ∧ ((∃ failure, ending = .error failure) ∨ ending = .ok (some false))

theorem DirectiveForm.isSome_judge_iff (form : DirectiveForm)
    (ending : Except Failure (Option Bool))
    : (form.judge ending).isSome = true ↔ form.IsDissatisfied ending := by
  unfold judge IsDissatisfied
  cases expected : form.expected with
  | none =>
      cases ending with
      | error failure => simp
      | ok answer =>
          rcases answer with _ | _ | _ <;> simp
  | some kind =>
      cases ending with
      | ok answer => simp
      | error failure =>
          by_cases same : failure.kind = kind
          · simp [same]
          · simp [same]

/-- A reserved name among the failures is one that the handler has failed with. -/
theorem DirectiveForm.error_of_judge_eq (form : DirectiveForm)
    {ending : Except Failure (Option Bool)} {name : String}
    (judged : form.judge ending = some (.reservedCapture name))
    : ending = .error (.reservedCapture name) := by
  unfold judge at judged
  split at judged
  next => exact congrArg Except.error (Option.some.inj judged)
  next => cases judged
  next => cases judged
  next =>
    split at judged
    · cases judged
    · cases judged
  next => cases judged

namespace DirectiveRegistry

variable (registry : DirectiveRegistry) (scope : Scope) (directive : String) (session : Session)
  (ended : Dispatched × Session)

/-- No form is for the directive: no handler is called, and the session stays as it is. -/
structure EndsUnmatched : Prop where
  misses : ∀ form ∈ registry.forms, form.pattern.search directive = none
  result : ended.1.result = .failed directive (.noHandler directive)
  uncalled : ended.1.call = none
  still : ended.2 = session

/-- The directive has a form, but one of its captured texts refers to a variable without a value:
the first such one is reported, whatever the form is meant to end in, no handler is called, and the
session stays as it is.
-/
structure EndsUnbound : Prop where
  result
    : ∃ place form found group name,
        registry.IsFirst directive place form found
        ∧ IsFirstUnbound scope found form.pattern.groupNames group name
        ∧ ended.1.result = .failed directive (.undefinedVariable name)
  uncalled : ended.1.call = none
  still : ended.2 = session

/-- The handler of the form of the directive is called with the arguments of the directive. The
session is what this one call makes of it, and the result is what the form makes of its ending.
-/
structure EndsHandled : Prop where
  result
    : ∃ place form found args,
        registry.IsFirst directive place form found
        ∧ (∀ group ∈ form.pattern.groupNames, ∀ name, ¬ IsUnbound scope found group name)
        ∧ (Resolved.mk place form found).args scope = .ok args
        ∧ ended.1.call = some ⟨place, args⟩
        ∧ ended.2 = ((form.handler args).on session).2
        ∧ ended.1.result.name = directive
        ∧ (ended.1.result.error.isSome = true
          ↔ form.IsDissatisfied ((form.handler args).on session).1)

/-- What can become of a directive. -/
inductive Fate where
  | unmatched
  | unbound
  | handled
deriving DecidableEq

/-- A fate is what has become of a directive. -/
def Fate.Describes : Fate → Prop
  | unmatched => registry.EndsUnmatched directive session ended
  | unbound => registry.EndsUnbound scope directive session ended
  | handled => registry.EndsHandled scope directive session ended

variable {registry scope directive session ended}

/-- A directive has one form at most. -/
theorem IsFirst.unique {place other : Nat} {form form' : DirectiveForm}
    {found found' : Pattern.Match} (first : registry.IsFirst directive place form found)
    (second : registry.IsFirst directive other form' found')
    : form = form' ∧ found = found' := by
  have same := first.resolve?.symm.trans second.resolve?
  cases same
  exact ⟨rfl, rfl⟩

/-- A directive without a form has no first one. -/
theorem EndsUnmatched.not_isFirst (unmatched : registry.EndsUnmatched directive session ended)
    {place : Nat} {form : DirectiveForm} {found : Pattern.Match}
    : ¬ registry.IsFirst directive place form found := by
  intro first
  have missed := unmatched.misses form (List.mem_of_getElem? first.stands)
  rw [first.hit] at missed
  cases missed

/-- The fates exclude each other, by cases on the fates. -/
theorem Fate.eq_of_describes {first second : Fate}
    (left : first.Describes registry scope directive session ended)
    (right : second.Describes registry scope directive session ended)
    : first = second := by
  have unboundNotHandled (unbound : registry.EndsUnbound scope directive session ended)
      (handled : registry.EndsHandled scope directive session ended) : False := by
    obtain ⟨_, _, _, _, _, _, _, called, _⟩ := handled.result
    rw [unbound.uncalled] at called
    cases called
  have unmatchedNotUnbound (unmatched : registry.EndsUnmatched directive session ended)
      (unbound : registry.EndsUnbound scope directive session ended) : False := by
    obtain ⟨_, _, _, _, _, first, _⟩ := unbound.result
    exact unmatched.not_isFirst first
  have unmatchedNotHandled (unmatched : registry.EndsUnmatched directive session ended)
      (handled : registry.EndsHandled scope directive session ended) : False := by
    obtain ⟨_, _, _, _, first, _⟩ := handled.result
    exact unmatched.not_isFirst first
  cases first <;> cases second
  · rfl
  · exact (unmatchedNotUnbound left right).elim
  · exact (unmatchedNotHandled left right).elim
  · exact (unmatchedNotUnbound right left).elim
  · rfl
  · exact (unboundNotHandled left right).elim
  · exact (unmatchedNotHandled right left).elim
  · exact (unboundNotHandled right left).elim
  · rfl

/-- Every directive meets one of the fates. -/
theorem exists_fate (unreserved : registry.Unreserved) (scope : Scope) (directive : String)
    (session : Session)
    : ∃ fate : Fate,
        fate.Describes registry scope directive session
          (registry.dispatch scope directive session) := by
  cases resolves : registry.resolve? directive with
  | none =>
      refine ⟨.unmatched, misses_of_resolveFrom resolves, ?_, ?_, ?_⟩
      all_goals
        unfold dispatch
        rw [resolves]
  | some resolved =>
      have first := isFirst_of_resolve? resolves
      cases given : resolved.args scope with
      | error failure =>
          have free := unreserved resolved.form (List.mem_of_getElem? first.stands)
          obtain ⟨group, name, unbound, rfl⟩ := exists_firstUnbound free given
          refine ⟨.unbound, ⟨_, _, _, group, name, first, unbound, ?_⟩, ?_, ?_⟩
          all_goals
            unfold dispatch
            simp only [resolves, given]
      | ok args =>
          rw [dispatch_eq resolves given]
          refine ⟨.handled, _, _, _, args, first, ?_, given, rfl, rfl, rfl, ?_⟩
          · intro group member name
            exact not_isUnbound_of_addArguments given member name
          · exact resolved.form.isSome_judge_iff _

/-- Only a handler can report a reserved name. -/
theorem exists_of_reservedCapture (unreserved : registry.Unreserved) {name : String}
    (reported
      : (registry.dispatch scope directive session).1.result.error = some (.reservedCapture name))
    : ∃ call form,
        (registry.dispatch scope directive session).1.call = some call
        ∧ registry.forms[call.place]? = some form
        ∧ ((form.handler call.args).on session).1 = .error (.reservedCapture name) := by
  cases resolves : registry.resolve? directive with
  | none =>
      unfold dispatch at reported
      rw [resolves] at reported
      cases reported
  | some resolved =>
      have first := isFirst_of_resolve? resolves
      cases given : resolved.args scope with
      | error failure =>
          have free := unreserved resolved.form (List.mem_of_getElem? first.stands)
          obtain ⟨_, _, _, rfl⟩ := exists_firstUnbound free given
          unfold dispatch at reported
          simp only [resolves, given] at reported
          cases reported
      | ok args =>
          rw [dispatch_eq resolves given] at reported ⊢
          refine ⟨_, resolved.form, rfl, first.stands, ?_⟩
          exact resolved.form.error_of_judge_eq reported

/-- A directive meets exactly one fate. A reserved name is reported by handlers only. A draft that
is refused changes nothing of what becomes of directives later, and drafts that are handed in later
change nothing of what becomes of a directive that has a form.
-/
theorem fate_of_dispatch (drafts : List Draft) (scope : Scope) (directive : String)
    (session : Session)
    : let registry := (∅ : DirectiveRegistry).registerEach drafts
      let ended := registry.dispatch scope directive session
      registry.forms = drafts.filterMap Draft.form?
      ∧ (∃! fate : Fate, fate.Describes registry scope directive session ended)
      ∧ (∀ name,
          ended.1.result.error = some (.reservedCapture name)
          → ∃ call form,
              ended.1.call = some call
              ∧ registry.forms[call.place]? = some form
              ∧ ((form.handler call.args).on session).1 = .error (.reservedCapture name))
      ∧ (∀ refused refusal,
          registry.register refused.source refused.expected refused.handler = .error refusal
          → ∀ later : List Draft,
              ((∅ : DirectiveRegistry).registerEach (drafts ++ refused :: later)).dispatch scope
                  directive session
                = ((∅ : DirectiveRegistry).registerEach (drafts ++ later)).dispatch scope directive
                    session)
      ∧ ((∃ form ∈ registry.forms, form.pattern.search directive ≠ none)
          → ∀ later : List Draft,
              ((∅ : DirectiveRegistry).registerEach (drafts ++ later)).dispatch scope directive
                session
              = ended) := by
  intro registry ended
  have unreserved : registry.Unreserved := unreserved_registerEach drafts
  have empty : (∅ : DirectiveRegistry).forms = [] := rfl
  have forms (handed : List Draft)
      : (∅ : DirectiveRegistry).registerEach handed = ⟨handed.filterMap Draft.form?⟩ := by
    have accepted := forms_registerEach ∅ handed
    rw [empty, List.nil_append] at accepted
    exact congrArg mk accepted
  refine ⟨congrArg DirectiveRegistry.forms (forms drafts), ?_, ?_, ?_, ?_⟩
  · obtain ⟨fate, describes⟩ := exists_fate unreserved scope directive session
    exact ⟨fate, describes, fun _ other => Fate.eq_of_describes other describes⟩
  · intro name reported
    exact exists_of_reservedCapture unreserved reported
  · intro refused refusal isRefused later
    have formless := form?_eq_none_of_refused isRefused
    rw [forms, forms, List.filterMap_append, List.filterMap_append,
      List.filterMap_cons_none formless]
  · rintro ⟨form, member, matched⟩ later
    apply dispatch_congr
    have known : registry.forms = drafts.filterMap Draft.form? :=
      congrArg DirectiveRegistry.forms (forms drafts)
    have added : (∅ : DirectiveRegistry).registerEach (drafts ++ later)
        = ⟨registry.forms ++ later.filterMap Draft.form?⟩ := by
      rw [forms, List.filterMap_append, known]
    cases resolves : registry.resolve? directive with
    | none => exact (matched (misses_of_resolveFrom resolves form member)).elim
    | some resolved =>
        rw [added]
        exact ((isFirst_of_resolve? resolves).append _).resolve?

/-- A form for logging in, whose handler fails in the way in which reserved names are refused. -/
def loginDraft : Draft where
  source := "^login as (?P<user>.+)"
  handler := fun _ => Drive.fail (.reservedCapture "browser")

/-- A form with a group under the reserved name. -/
def reservedDraft : Draft where
  source := "^use (?P<driver>.+)"
  handler := fun _ => pure none

/-- The registry with the form for logging in. -/
def loginRegistry : DirectiveRegistry :=
  (∅ : DirectiveRegistry).registerEach [loginDraft]

/-- Logging in reports what the handler has failed with. A refused form and a later one for the same
directive change nothing of it.
-/
theorem dispatch_login
    : (∃! fate : Fate,
        fate.Describes loginRegistry {} "login as alice" (.launch ∅)
          (loginRegistry.dispatch {} "login as alice" (.launch ∅)))
      ∧ (loginRegistry.dispatch {} "login as alice" (.launch ∅)).1.result.error
        = some (.reservedCapture "browser")
      ∧ (∃ call, (loginRegistry.dispatch {} "login as alice" (.launch ∅)).1.call = some call)
      ∧ ((∅ : DirectiveRegistry).registerEach
              ([loginDraft] ++ reservedDraft :: [loginDraft])).dispatch
            {} "login as alice" (.launch ∅)
        = loginRegistry.dispatch {} "login as alice" (.launch ∅) := by
  have settled := fate_of_dispatch [loginDraft] {} "login as alice" (.launch ∅)
  rw [← loginRegistry] at settled
  obtain ⟨_, fate, reports, refusals, later⟩ := settled
  let nodes := Pattern.letters "login as " ++ [Pattern.run "user" true]
  let form := loginDraft.form nodes
  have readLogin : Pattern.ReadAs loginDraft.source nodes :=
    Pattern.readAs_of_chars _ String.toList_ofList (by decide +kernel)
  have readReserved : Pattern.ReadAs reservedDraft.source
      (Pattern.letters "use " ++ [Pattern.run "driver" true]) :=
    Pattern.readAs_of_chars _ String.toList_ofList (by decide +kernel)
  have accepted : loginDraft.form? = some form := by
    unfold Draft.form?
    rw [ofText_of_readAs readLogin (by decide +kernel)]
    rfl
  have refused : loginRegistry.register reservedDraft.source reservedDraft.expected
        reservedDraft.handler
      = .error (.reserved reservedDraft.source) := by
    unfold register
    rw [ofText_of_reserved readReserved (by decide +kernel)]
    rfl
  have forms : loginRegistry.forms = [form] := by
    unfold loginRegistry
    rw [forms_registerEach, List.filterMap_cons_some accepted]
    rfl
  have stands : loginRegistry.forms[0]? = some form := by
    rw [forms]
    rfl
  have found : form.pattern.search "login as alice" = some ⟨[("user", "alice")]⟩ := by
    decide +kernel
  have matched : ∃ form ∈ loginRegistry.forms, form.pattern.search "login as alice" ≠ none :=
    ⟨form, List.mem_of_getElem? stands, by simp [found]⟩
  have resolves := resolve?_eq_some stands (fun _ below => absurd below (Nat.not_lt_zero _)) found
  have given : (Resolved.mk 0 form ⟨[("user", "alice")]⟩).args {}
      = .ok ((∅ : Args).insert "user" "alice") := by
    decide +kernel
  have error : (loginRegistry.dispatch {} "login as alice" (.launch ∅)).1.result.error
      = some (.reservedCapture "browser") := by
    rw [dispatch_eq resolves given]
    rfl
  obtain ⟨call, _, called, _⟩ := reports "browser" error
  have same := (refusals reservedDraft _ refused [loginDraft]).trans (later matched [loginDraft])
  exact ⟨fate, error, ⟨call, called⟩, same⟩

end DirectiveRegistry

end Rehearsal
