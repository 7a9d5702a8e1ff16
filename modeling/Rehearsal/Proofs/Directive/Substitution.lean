import Rehearsal.Proofs.Directive.Arguments
import Rehearsal.Proofs.Directive.Resolution

/-! What a directive reads of its scope: the values of the variables that its captured texts refer
to, and nothing else. A value is handed on to the handler as it is, so that neither the brackets nor
the quotation marks in it are looked at again.
-/

namespace Rehearsal

open Capture

-----------------------------------------------------------------------------------------
-- The arguments of a directive
-----------------------------------------------------------------------------------------

/-- The arguments of a directive in a scope: a reference gives the value of its variable as it is,
any other captured text gives itself without the delimiters around it, and there are no others.
-/
structure Resolved.Gives (resolved : Resolved) (scope : Scope) (args : Args) : Prop where
  references
    : ∀ group ∈ resolved.form.pattern.groupNames,
        ∀ name,
          resolved.found.captured? group = some (reference name)
          → ∃ value, scope.get? name = some value ∧ args.get? group = some value
  literals
    : ∀ group ∈ resolved.form.pattern.groupNames,
        ∀ raw,
          resolved.found.captured? group = some raw
          → (∀ name, raw ≠ reference name)
          → Unquotes raw (unquote raw) ∧ args.get? group = some (unquote raw)
  others
    : ∀ group,
        (group ∈ resolved.form.pattern.groupNames → resolved.found.captured? group = none)
        → args.get? group = none

/-- The arguments that a directive has are those that it should have. -/
theorem Resolved.gives_of_args {resolved : Resolved} {scope : Scope} {args : Args}
    (given : resolved.args scope = .ok args)
    : resolved.Gives scope args := by
  constructor
  · intro group member name captured
    obtain ⟨value, denotes, bound⟩ := exists_argument given member captured
    rw [argumentOf_reference] at denotes
    cases held : scope.get? name with
    | none =>
        rw [held] at denotes
        cases denotes
    | some other =>
        rw [held] at denotes
        cases denotes
        exact ⟨value, rfl, bound⟩
  · intro group member raw captured plain
    obtain ⟨value, denotes, bound⟩ := exists_argument given member captured
    rw [argumentOf_of_not_reference plain] at denotes
    cases denotes
    exact ⟨unquotes_unquote raw, bound⟩
  · intro group missing
    exact get?_of_not_captured given missing

/-- A directive lacks arguments in a scope: its form uses the reserved name, or a captured text
refers to a variable without a value.
-/
def Resolved.Lacks (resolved : Resolved) (scope : Scope) : Prop :=
  DirectiveForm.reservedName ∈ resolved.form.pattern.groupNames
  ∨ ∃ group ∈ resolved.form.pattern.groupNames,
      ∃ name, IsUnbound scope resolved.found group name

theorem Resolved.not_lacks_of_args {resolved : Resolved} {scope : Scope} {args : Args}
    (given : resolved.args scope = .ok args)
    : ¬ resolved.Lacks scope := by
  rintro (reserved | ⟨group, member, name, unbound⟩)
  · exact reservedName_notMem_of_addArguments given reserved
  · exact not_isUnbound_of_addArguments given member name unbound

theorem Resolved.lacks_of_args {resolved : Resolved} {scope : Scope} {failure : Failure}
    (fails : resolved.args scope = .error failure)
    : resolved.Lacks scope := by
  by_cases reserved : DirectiveForm.reservedName ∈ resolved.form.pattern.groupNames
  · exact .inl reserved
  · obtain ⟨group, name, ⟨unbound, before, after, split, _⟩, _⟩ :=
      exists_firstUnbound reserved fails
    exact .inr ⟨group, split ▸ List.mem_append_right before List.mem_cons_self, name, unbound⟩

/-- Scopes that hold the same for every variable to which a captured text refers give the same
arguments.
-/
theorem Resolved.args_congr {resolved : Resolved} {first second : Scope}
    (agree
      : ∀ group ∈ resolved.form.pattern.groupNames,
          ∀ name,
            resolved.found.captured? group = some (reference name)
            → first.get? name = second.get? name)
    : resolved.args first = resolved.args second := by
  unfold Resolved.args
  apply addArguments_congr
  intro group member raw captured
  by_cases refers : ∃ name, raw = reference name
  · obtain ⟨name, rfl⟩ := refers
    rw [argumentOf_reference, argumentOf_reference, agree group member name captured]
  · have plain : ∀ name, raw ≠ reference name := fun name same => refers ⟨name, same⟩
    rw [argumentOf_of_not_reference plain, argumentOf_of_not_reference plain]

-----------------------------------------------------------------------------------------
-- Two runs of one directive
-----------------------------------------------------------------------------------------

namespace DirectiveRegistry

/-- Two scopes give the same for every variable to which a captured text of the directive refers,
be it a value or none.
-/
def AgreeOnReferences (registry : DirectiveRegistry) (directive : String)
    (first second : Scope) : Prop :=
  ∀ resolved,
    registry.resolve? directive = some resolved
    → ∀ group ∈ resolved.form.pattern.groupNames,
        ∀ name,
          resolved.found.captured? group = some (reference name)
          → first.get? name = second.get? name

/-- A call that is made is one of the form of the directive, with the arguments of the directive. -/
theorem exists_of_call {registry : DirectiveRegistry} {scope : Scope} {directive : String}
    {session : Browser.Session} {call : HandlerCall}
    (called : (registry.dispatch scope directive session).1.call = some call)
    : ∃ resolved,
        registry.resolve? directive = some resolved
        ∧ call.place = resolved.place
        ∧ resolved.args scope = .ok call.args := by
  cases resolves : registry.resolve? directive with
  | none =>
      unfold dispatch at called
      rw [resolves] at called
      cases called
  | some resolved =>
      cases given : resolved.args scope with
      | error failure =>
          unfold dispatch at called
          simp only [resolves, given] at called
          cases called
      | ok args =>
          rw [dispatch_eq resolves given] at called
          cases called
          exact ⟨resolved, rfl, rfl, given⟩

/-- What a directive comes to if its handler is called with some arguments: the form judges how the
handler ends, and the session is as the handler leaves it.
-/
structure Answers (resolved : Resolved) (directive : String) (args : Args)
    (session : Browser.Session) (ended : Dispatched × Browser.Session)
    : Prop where
  call : ended.1.call = some ⟨resolved.place, args⟩
  result
    : ended.1.result
      = { name := directive,
          error := resolved.form.judge ((resolved.form.handler args).on session).1 }
  session : ended.2 = ((resolved.form.handler args).on session).2

/-- In two scopes that agree on the variables to which a directive refers it is carried out alike:
the same handler is called with the same arguments, and the result and the session after it are
the same. The handler is called with the values of those variables as they are and with the other
captured texts without the delimiters around them, and it is not called if one of the variables has
no value.
-/
theorem dispatch_reads_references (registry : DirectiveRegistry) (directive : String)
    (session : Browser.Session)
    : (∀ first second,
        registry.AgreeOnReferences directive first second
        → registry.dispatch first directive session = registry.dispatch second directive session)
      ∧ ∀ scope resolved,
          registry.resolve? directive = some resolved
          → (¬ resolved.Lacks scope
              → ∃ args,
                  resolved.Gives scope args
                  ∧ Answers resolved directive args session
                    (registry.dispatch scope directive session))
            ∧ (resolved.Lacks scope
              → (registry.dispatch scope directive session).1.call = none
                ∧ (registry.dispatch scope directive session).2 = session) := by
  constructor
  · intro first second agree
    unfold dispatch
    cases resolves : registry.resolve? directive with
    | none => rfl
    | some resolved =>
        have same : resolved.args first = resolved.args second :=
          Resolved.args_congr (agree resolved resolves)
        simp only [same]
  · intro scope resolved resolves
    cases given : resolved.args scope with
    | ok args =>
        refine ⟨fun _ => ⟨args, Resolved.gives_of_args given, ?_⟩, fun lacks => ?_⟩
        · rw [dispatch_eq resolves given]
          exact ⟨rfl, rfl, rfl⟩
        · exact absurd lacks (Resolved.not_lacks_of_args given)
    | error failure =>
        refine ⟨fun full => absurd (Resolved.lacks_of_args given) full, fun _ => ?_⟩
        unfold dispatch
        simp only [resolves, given, and_self]

/-- A scope with a user whose name looks like a reference. -/
def userScope : Scope where
  outermost := { free := (∅ : Dict String).insert "user" "[password]" }

/-- The same scope with the variable that the name of the user seems to refer to. -/
def passwordScope : Scope where
  outermost := { free := userScope.outermost.free.insert "password" "'secret'" }

/-- A handler that is content with the name of that user only. -/
def sayHandler : Handler := fun args =>
  pure (some (args.get? "what" == some "[password]"))

/-- The handler is given the name of the user as it is, whether or not the variable that the name
seems to refer to has a value.
-/
theorem dispatch_say_user
    : ∃ registry resolved,
        (∅ : DirectiveRegistry).register "say (?P<what>.+)" none sayHandler = .ok registry
        ∧ registry.AgreeOnReferences "say [user]" userScope passwordScope
        ∧ registry.dispatch userScope "say [user]" (.launch ∅)
          = registry.dispatch passwordScope "say [user]" (.launch ∅)
        ∧ registry.resolve? "say [user]" = some resolved
        ∧ ¬ resolved.Lacks userScope
        ∧ ∃ args,
            args.get? "what" = some "[password]"
            ∧ Answers resolved "say [user]" args (.launch ∅)
              (registry.dispatch userScope "say [user]" (.launch ∅))
            ∧ (registry.dispatch userScope "say [user]" (.launch ∅)).1.result.error = none := by
  obtain ⟨pattern, read⟩ : ∃ pattern, Pattern.ofText true "say (?P<what>.+)" = .ok pattern := by
    have reads : (Pattern.ofText true "say (?P<what>.+)").isOk = true := by decide +kernel
    cases read : Pattern.ofText true "say (?P<what>.+)" with
    | ok pattern => exact ⟨pattern, rfl⟩
    | error error =>
        rw [read] at reads
        cases reads
  have groups : (Pattern.ofText true "say (?P<what>.+)").toOption.map Pattern.groupNames
      = some ["what"] := by
    decide +kernel
  have searches
      : (Pattern.ofText true "say (?P<what>.+)").toOption.bind (fun pattern =>
          pattern.search "say [user]") = some ⟨[("what", reference "user")]⟩ := by
    decide +kernel
  rw [read] at groups searches
  have names : pattern.groupNames = ["what"] := Option.some.inj groups
  have found : pattern.search "say [user]" = some ⟨[("what", reference "user")]⟩ := searches
  let form : DirectiveForm := { pattern, handler := sayHandler }
  let registry : DirectiveRegistry := ⟨[form]⟩
  let resolved : Resolved := { place := 0, form, found := ⟨[("what", reference "user")]⟩ }
  have registered : (∅ : DirectiveRegistry).register "say (?P<what>.+)" none sayHandler
      = .ok registry := by
    unfold register DirectiveForm.ofText
    simp only [read, names]
    rfl
  have resolves : registry.resolve? "say [user]" = some resolved :=
    resolve?_eq_some rfl (by simp) found
  have known : userScope.get? "user" = some "[password]" := by decide +kernel
  -- The only group has captured the reference to the user.
  have alone (group name : String) (member : group ∈ resolved.form.pattern.groupNames)
      (captured : resolved.found.captured? group = some (reference name))
      : name = "user" := by
    change group ∈ pattern.groupNames at member
    rw [names, List.mem_singleton] at member
    subst member
    exact reference_injective (Option.some.inj captured).symm
  have agree : registry.AgreeOnReferences "say [user]" userScope passwordScope := by
    intro other resolves' group member name captured
    rw [resolves] at resolves'
    cases resolves'
    obtain rfl := alone group name member captured
    decide +kernel
  have full : ¬ resolved.Lacks userScope := by
    rintro (reserved | ⟨group, member, name, captured, missing⟩)
    · change "driver" ∈ pattern.groupNames at reserved
      rw [names] at reserved
      revert reserved
      decide
    · obtain rfl := alone group name member captured
      rw [known] at missing
      cases missing
  obtain ⟨alike, gives⟩ := dispatch_reads_references registry "say [user]" (.launch ∅)
  obtain ⟨args, arguments, answers⟩ := (gives userScope resolved resolves).1 full
  have member : "what" ∈ resolved.form.pattern.groupNames := by
    change "what" ∈ pattern.groupNames
    rw [names]
    exact List.mem_singleton_self "what"
  obtain ⟨value, held, bound⟩ := arguments.references "what" member "user" rfl
  obtain rfl : value = "[password]" := Option.some.inj (held.symm.trans known)
  refine
    ⟨registry, resolved, registered, agree, alike _ _ agree, resolves, full, args, bound, answers,
      ?_⟩
  have content : sayHandler args = pure (some true) := by
    unfold sayHandler
    rw [bound]
    rfl
  rw [answers.result]
  change form.judge ((sayHandler args).on (.launch ∅)).1 = none
  rw [content]
  rfl

end DirectiveRegistry

end Rehearsal
