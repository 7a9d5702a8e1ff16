import Rehearsal.Proofs.Directive.Arguments
import Rehearsal.Proofs.Directive.Resolution
import Rehearsal.Proofs.Library.Calls
import Rehearsal.Proofs.Library.Comparison

/-! The comparison of an element with a quoted text is carried out by the form that is registered
for it, unless the quoted text mentions that something is not to exist. Then the directive is
taken for the expectation that another element does not exist, and it passes if that is so.
-/

namespace Rehearsal.Library

open Browser Pattern Text

-----------------------------------------------------------------------------------------
-- Forms that are passed over
-----------------------------------------------------------------------------------------

/-- The expectations ahead of those about an element do not start with its name. -/
theorem conflicts_expectationNodes
    : ∀ nodes ∈ expectationNodes.take 15, Conflicts nodes "Expect #".toList = true := by
  decide +kernel

/-- No form ahead of those for elements reads a comparison: those that poll end in a time limit,
and the others do not start with the name of an element.
-/
theorem not_chain_of_early {nodes : List Node} (early : nodes ∈ formNodes.take 28)
    (comparison : Comparison) {element : String} (named : IsElementName element)
    (payload : String) (stop : Thread)
    : ¬ Chain nodes (.start (comparison.directive element payload).toList) stop := by
  have parts : formNodes.take 28
      = pollingNodes.map (fun nodes => nodes ++ limitNodes ++ [.look .textEnd])
        ++ expectationNodes.take 15 :=
    rfl
  intro chain
  rw [parts] at early
  rcases List.mem_append.mp early with polls | once
  · obtain ⟨body, _, rfl⟩ := List.mem_map.mp polls
    have ends := directive_toList comparison element payload
    rw [← List.cons_append, ← List.append_assoc, ← List.append_assoc] at ends
    exact not_chain_limit_of_quote ends chain
  · have sign : "Expect #".toList = "Expect ".toList ++ ['#'] := by decide
    obtain ⟨name, hash⟩ : ∃ name, element.toList = '#' :: name :=
      List.head?_eq_some_iff.mp named.sign
    have begins : (comparison.directive element payload).toList
        = "Expect #".toList
          ++ (name ++ comparison.words.toList ++ '"' :: (payload.toList ++ ['"'])) := by
      rw [directive_toList, sign, hash]
      simp
    exact not_chain_of_conflicts (conflicts_expectationNodes nodes once) begins chain

variable {timing : Timing}

/-- A form is passed over where its nodes do not lead on from the start of the directive. -/
theorem search_eq_none_of_forms {directive : String} {place : Nat} {form : DirectiveForm}
    (stands : (forms timing)[place]? = some form)
    (stuck
      : ∀ nodes,
          formNodes[place]? = some nodes → ∀ stop, ¬ Chain nodes (.start directive.toList) stop)
    : form.pattern.search directive = none := by
  obtain ⟨draft, nodes, _, read, rfl⟩ := List.getElem?_zipWith_eq_some.mp stands
  exact search_ofNodes_eq_none (stuck nodes read)

/-- The forms ahead of those for elements are passed over. -/
theorem search_eq_none_of_early (comparison : Comparison) {element : String}
    (named : IsElementName element) (payload : String) {place : Nat} (early : place < 28)
    {form : DirectiveForm} (stands : (forms timing)[place]? = some form)
    : form.pattern.search (comparison.directive element payload) = none := by
  refine search_eq_none_of_forms stands fun nodes read => ?_
  refine not_chain_of_early ?_ comparison named payload
  exact List.mem_of_getElem? ((List.getElem?_take_of_lt early).trans read)

/-- The places between the expectation that something does not exist and the form of a comparison
are those of other comparisons.
-/
theorem exists_place {comparison : Comparison} {place : Nat} (above : 28 < place)
    (below : place < comparison.place)
    : ∃ other : Comparison, other.place = place ∧ other ≠ comparison := by
  have places : place = 29 ∨ place = 30 ∨ place = 31 := by
    cases comparison <;> simp only [Comparison.place] at below <;> omega
  rcases places with rfl | rfl | rfl
  · exact ⟨.equalValue, rfl, by rintro rfl; exact absurd below (by decide)⟩
  · exact ⟨.matchingValue, rfl, by rintro rfl; exact absurd below (by decide)⟩
  · exact ⟨.noMatch, rfl, by rintro rfl; exact absurd below (by decide)⟩

-----------------------------------------------------------------------------------------
-- The form of a comparison
-----------------------------------------------------------------------------------------

/-- What the form of a comparison has captured of its directive. -/
def Comparison.found (comparison : Comparison) (element payload : String) : Pattern.Match where
  captures := [(comparison.argument, payload), ("elem", element)]

/-- The captured places hold the element and the quoted text. -/
theorem ofThread_comparison (comparison : Comparison) (element payload : String) {thread : Thread}
    (captures
      : let first := 7 + element.toList.length
        let second := first + comparison.words.toList.length + 1
        thread.captures
          = [(comparison.argument, second, second + payload.toList.length), ("elem", 7, first)])
    : Pattern.Match.ofThread (comparison.directive element payload).toList thread
      = comparison.found element payload := by
  have whole := directive_toList comparison element payload
  have seven : "Expect ".toList.length = 7 := by decide
  have atElement : ((comparison.directive element payload).toList.drop 7).take element.toList.length
      = element.toList := by
    rw [whole, List.drop_left' seven, List.append_assoc, List.take_left]
  have atPayload
      : ((comparison.directive element payload).toList.drop
          (7 + element.toList.length + comparison.words.toList.length + 1)).take
            payload.toList.length
        = payload.toList := by
    have front : ("Expect ".toList ++ element.toList ++ comparison.words.toList ++ ['"']).length
        = 7 + element.toList.length + comparison.words.toList.length + 1 := by
      simp only [List.length_append, seven, List.length_singleton]
    have split : (comparison.directive element payload).toList
        = ("Expect ".toList ++ element.toList ++ comparison.words.toList ++ ['"'])
          ++ (payload.toList ++ ['"']) := by
      simp [whole]
    rw [split, List.drop_left' front, List.take_left]
  simp only [Pattern.Match.ofThread, Comparison.found, captures, List.map_cons, List.map_nil,
    Nat.add_sub_cancel_left, atElement, atPayload, String.ofList_toList]

theorem isFlat_nodes (comparison : Comparison) : ∀ node ∈ comparison.nodes, node.IsFlat = true := by
  cases comparison <;> decide +kernel

/-- The form of a comparison is found, with the element and the quoted text as they are, unless
the quoted text mentions that something is not to exist.
-/
theorem resolve?_comparison (comparison : Comparison) {element payload : String}
    (named : IsElementName element) (quotable : IsPayload payload)
    (silent : ¬ MentionedIn absenceWords payload.toList)
    : (DirectiveRegistry.mk (forms timing)).resolve? (comparison.directive element payload)
      = some
          ⟨comparison.place, comparison.draft.form comparison.nodes,
            comparison.found element payload⟩ := by
  obtain ⟨stop, chain⟩ := exists_chain comparison named quotable
  obtain ⟨found, hit, chain⟩ := exists_search_ofNodes chain (isFlat_nodes comparison)
  rw [ofThread_comparison comparison element payload
    (captures_of_chain named quotable chain).2] at hit
  refine DirectiveRegistry.resolve?_eq_some
    (forms_getElem? (drafts_comparison timing comparison) (formNodes_comparison comparison)) ?_ hit
  intro earlier below form stands
  rcases Nat.lt_trichotomy earlier 28 with early | rfl | late
  · exact search_eq_none_of_early comparison named payload early stands
  · refine search_eq_none_of_forms stands fun nodes read stop chain => silent ?_
    cases formNodes_absence.symm.trans read
    obtain ⟨beginning, ⟨part, inside, same⟩, _⟩ := captures_of_absence_chain named chain
    exact ⟨part, (List.suffix_append beginning.toList part).isInfix.trans inside.isInfix, same⟩
  · obtain ⟨other, rfl, different⟩ := exists_place late below
    refine search_eq_none_of_forms stands fun nodes read stop chain => different ?_
    cases (formNodes_comparison other).symm.trans read
    exact (captures_of_chain named quotable chain).1

/-- The arguments of a comparison. -/
def Comparison.args (comparison : Comparison) (element payload : String) : Args :=
  ((∅ : Args).insert "elem" element).insert comparison.argument payload

theorem groupNames_comparison (comparison : Comparison)
    : (comparison.draft.form comparison.nodes).pattern.groupNames
      = ["elem", comparison.argument] := by
  cases comparison <;> decide +kernel

/-- The arguments are the element and the quoted text, in any scope. -/
theorem args_comparison (comparison : Comparison) {element payload : String}
    (named : IsElementName element) (quotable : IsPayload payload) (scope : Scope)
    : (Resolved.mk comparison.place (comparison.draft.form comparison.nodes)
        (comparison.found element payload)).args scope
      = .ok (comparison.args element payload) := by
  have elem : (comparison.found element payload).captured? "elem" = some element := by
    cases comparison <;> simp [Comparison.found, Comparison.argument, Pattern.Match.captured?]
  have quoted : (comparison.found element payload).captured? comparison.argument
      = some payload := by
    simp [Comparison.found, Pattern.Match.captured?]
  have bare : Capture.IsBare element := Capture.isBare_of_head named.sign (by decide)
  have free : comparison.argument ≠ DirectiveForm.reservedName := by
    cases comparison <;> decide
  unfold Resolved.args
  rw [groupNames_comparison, addArguments_of_ok (by decide) elem (argumentOf_eq_self bare scope),
    addArguments_of_ok free quoted (argumentOf_eq_self quotable.bare scope)]
  rfl

theorem captures_comparison (comparison : Comparison) (element payload : String)
    : (Resolved.mk comparison.place (comparison.draft.form comparison.nodes)
        (comparison.found element payload)).captures
      = [("elem", some element), (comparison.argument, some payload)] := by
  simp only [Resolved.captures, groupNames_comparison]
  cases comparison <;> simp [Comparison.found, Comparison.argument, Pattern.Match.captured?]

-----------------------------------------------------------------------------------------
-- Looking the element up
-----------------------------------------------------------------------------------------

variable {args : Args} {text : String} {session after : Session}

/-- The element argument is looked up by its text. -/
theorem element_eq_find (given : args.get? "elem" = some text)
    : element args = Drive.find (Locator.ofText text) := by
  unfold element argument
  rw [given]
  rfl

/-- A handler that looks its element up before it passes. -/
def LooksUp (handler : Handler) : Prop :=
  ∀ {args text session answer after},
    args.get? "elem" = some text
    → outcome (handler args) session = (.ok answer, after)
    → ∃ key, (outcome (Drive.find (Locator.ofText text)) session).1 = .ok key

/-- What starts with looking the element up ends well only if the element is found. -/
theorem exists_key_of_bind {α : Type} {next : String → Drive α} {value : α}
    (given : args.get? "elem" = some text)
    (ended : outcome (element args >>= next) session = (.ok value, after))
    : ∃ key, (outcome (Drive.find (Locator.ofText text)) session).1 = .ok key := by
  obtain ⟨key, middle, found, _⟩ := exists_of_outcome_bind ended
  rw [element_eq_find given] at found
  exact ⟨key, congrArg Prod.fst found⟩

/-- What first looks at the session may come before. -/
theorem exists_key_of_reads {α β : Type} {drive : Drive α} {next : α → Drive β} {value : β}
    (reads : Drive.Reads drive)
    (ended : outcome (drive >>= next) session = (.ok value, after))
    (looks
      : ∀ {first},
          outcome (next first) session = (.ok value, after)
          → ∃ key, (outcome (Drive.find (Locator.ofText text)) session).1 = .ok key)
    : ∃ key, (outcome (Drive.find (Locator.ofText text)) session).1 = .ok key := by
  obtain ⟨first, middle, ended, rest⟩ := exists_of_outcome_bind ended
  have same : middle = session := (congrArg Prod.snd ended).symm.trans (reads session)
  exact looks (same ▸ rest)

theorem looksUp_expectMatches : LooksUp expectMatches := by
  intro args text session answer after given ended
  obtain ⟨found, middle, ended, _⟩ := exists_of_outcome_bind ended
  exact exists_key_of_reads (reads_expression args) ended (exists_key_of_bind given)

theorem looksUp_expectNotMatches : LooksUp expectNotMatches := by
  intro args text session answer after given ended
  obtain ⟨found, middle, ended, _⟩ := exists_of_outcome_bind ended
  exact exists_key_of_reads (reads_expression args) ended (exists_key_of_bind given)

theorem looksUp_expectValueMatches : LooksUp expectValueMatches := by
  intro args text session answer after given ended
  refine exists_key_of_reads (reads_expression args) ended fun ended => ?_
  obtain ⟨found, middle, ended, _⟩ := exists_of_outcome_bind ended
  exact exists_key_of_bind given ended

theorem looksUp_expectValue : LooksUp expectValue := by
  intro args text session answer after given ended
  refine exists_key_of_reads (reads_argument args "value") ended fun ended => ?_
  obtain ⟨found, middle, ended, _⟩ := exists_of_outcome_bind ended
  exact exists_key_of_bind given ended

theorem looksUp_comparison (comparison : Comparison) : LooksUp comparison.draft.handler := by
  cases comparison with
  | equalValue => exact looksUp_expectValue
  | matchingValue => exact looksUp_expectValueMatches
  | noMatch => exact looksUp_expectNotMatches
  | someMatch => exact looksUp_expectMatches

/-- A comparison passes only if its element is found on the page. -/
theorem exists_key_of_passes (comparison : Comparison) {element payload : String}
    (passes
      : (comparison.draft.form comparison.nodes).judge
          ((comparison.draft.handler (comparison.args element payload)).on session).1
        = none)
    : ∃ key, ((Drive.find (Locator.ofText element)).on session).1 = .ok key := by
  have given : (comparison.args element payload).get? "elem" = some element := by
    have different : "elem" ≠ comparison.argument := by
      cases comparison <;> decide
    rw [Comparison.args, Dict.get?_insert_of_ne _ _ different, Dict.get?_insert_self]
  have unexpected : comparison.draft.expected = none := by
    cases comparison <;> rfl
  cases ended : (comparison.draft.handler (comparison.args element payload)).on session with
  | mk ending after =>
      cases ending with
      | ok answer => exact looksUp_comparison comparison given ended
      | error failure =>
          rw [ended] at passes
          simp [DirectiveForm.judge, Draft.form, unexpected] at passes

-----------------------------------------------------------------------------------------
-- Quoted texts that mention that something does not exist
-----------------------------------------------------------------------------------------

/-- The captured place holds what is before the mention. -/
theorem ofThread_absence (comparison : Comparison) {element payload beginning : String}
    (inside : beginning.toList <+: payload.toList) {thread : Thread}
    (captures
      : thread.captures
        = [("elem", 7, 7 + (comparison.misread element beginning).toList.length)])
    : Pattern.Match.ofThread (comparison.directive element payload).toList thread
      = ⟨[("elem", comparison.misread element beginning)]⟩ := by
  have seven : "Expect ".toList.length = 7 := by decide
  obtain ⟨rest, whole⟩ := inside
  have split : (comparison.directive element payload).toList
      = "Expect ".toList ++ ((comparison.misread element beginning).toList ++ (rest ++ ['"'])) := by
    rw [directive_toList, misread_toList, ← whole]
    simp
  have read : (((comparison.directive element payload).toList.drop 7).take
      (comparison.misread element beginning).toList.length)
      = (comparison.misread element beginning).toList := by
    rw [split, List.drop_left' seven, List.take_left]
  simp only [Pattern.Match.ofThread, captures, List.map_cons, List.map_nil,
    Nat.add_sub_cancel_left, read, String.ofList_toList]

theorem isFlat_absenceNodes : ∀ node ∈ absenceNodes, node.IsFlat = true := by
  decide +kernel

/-- If the quoted text mentions that something does not exist, the directive is taken for the
expectation of that, about all that is before the mention.
-/
theorem resolve?_absence (comparison : Comparison) {element payload : String}
    (named : IsElementName element) (quotable : IsPayload payload)
    (mentioned : MentionedIn absenceWords payload.toList)
    : ∃ beginning : String,
        (∃ part, beginning.toList ++ part <+: payload.toList ∧ SameLetters absenceWords part)
        ∧ (DirectiveRegistry.mk (forms timing)).resolve? (comparison.directive element payload)
          = some
              ⟨28, absenceDraft.form absenceNodes,
                ⟨[("elem", comparison.misread element beginning)]⟩⟩ := by
  obtain ⟨stop, chain⟩ := exists_absence_chain comparison named quotable mentioned
  obtain ⟨found, hit, chain⟩ := exists_search_ofNodes chain isFlat_absenceNodes
  obtain ⟨beginning, ⟨part, inside, same⟩, captures⟩ := captures_of_absence_chain named chain
  have before : beginning.toList <+: payload.toList :=
    (List.prefix_append beginning.toList part).trans inside
  rw [ofThread_absence comparison before captures] at hit
  refine ⟨beginning, ⟨part, inside, same⟩, ?_⟩
  refine DirectiveRegistry.resolve?_eq_some
    (forms_getElem? (drafts_absence timing) formNodes_absence) ?_ hit
  intro earlier early form stands
  exact search_eq_none_of_early comparison named payload early stands

theorem groupNames_absence : (absenceDraft.form absenceNodes).pattern.groupNames = ["elem"] := by
  decide +kernel

/-- The argument is what was taken for the name of an element, in any scope. -/
theorem args_absence (comparison : Comparison) {element : String} (named : IsElementName element)
    (beginning : String) (scope : Scope)
    : (Resolved.mk 28 (absenceDraft.form absenceNodes)
        ⟨[("elem", comparison.misread element beginning)]⟩).args scope
      = .ok ((∅ : Args).insert "elem" (comparison.misread element beginning)) := by
  obtain ⟨name, hash⟩ : ∃ name, element.toList = '#' :: name :=
    List.head?_eq_some_iff.mp named.sign
  have head : (comparison.misread element beginning).toList.head? = some '#' := by
    rw [misread_toList, hash]
    rfl
  have bare : Capture.IsBare (comparison.misread element beginning) :=
    Capture.isBare_of_head head (by decide)
  unfold Resolved.args
  rw [groupNames_absence,
    addArguments_of_ok (by decide) (by simp [Pattern.Match.captured?])
      (argumentOf_eq_self bare scope)]
  rfl

theorem captures_absence (comparison : Comparison) (element beginning : String)
    : (Resolved.mk 28 (absenceDraft.form absenceNodes)
        ⟨[("elem", comparison.misread element beginning)]⟩).captures
      = [("elem", some (comparison.misread element beginning))] := by
  simp [Resolved.captures, groupNames_absence, Pattern.Match.captured?]

/-- The expectation that an element does not exist passes exactly if the element is not found. -/
theorem absence_passes_iff {args : Args} {text : String} {session : Session}
    (given : args.get? "elem" = some text)
    : (absenceDraft.form absenceNodes).judge ((expectExists args).on session).1 = none
      ↔ ∃ failure,
          ((Drive.find (Locator.ofText text)).on session).1 = .error failure
          ∧ failure.kind = .elementNotFound := by
  have ending : (expectExists args).on session
      = outcome (Drive.find (Locator.ofText text) >>= fun _ => pure none) session := by
    rw [← element_eq_find given]
    rfl
  rw [ending, outcome_bind]
  change _ ↔ ∃ failure, (outcome (Drive.find (Locator.ofText text)) session).1 = .error failure ∧ _
  cases outcome (Drive.find (Locator.ofText text)) session with
  | mk ending after =>
      cases ending with
      | ok key => simp [outcome_pure, DirectiveForm.judge, Draft.form, absenceDraft]
      | error failure => simp [DirectiveForm.judge, Draft.form, absenceDraft]

-----------------------------------------------------------------------------------------
-- What becomes of a comparison
-----------------------------------------------------------------------------------------

namespace Comparison

variable (comparison : Comparison) (registry : DirectiveRegistry) (element payload : String)

/-- A registry carries a comparison out as what it says: its form is called with the element and
the quoted text, and the directive passes only if the element is found.
-/
structure IsCarriedOut : Prop where
  resolves
    : ∃ resolved,
        registry.resolve? (comparison.directive element payload) = some resolved
        ∧ resolved.place = comparison.place
        ∧ comparison.draft.Describes resolved.form
        ∧ resolved.captures = [("elem", some element), (comparison.argument, some payload)]
  calls
    : ∀ scope session,
        (registry.dispatch scope (comparison.directive element payload) session).1.call
        = some ⟨comparison.place, comparison.args element payload⟩
  looksUp
    : ∀ scope session,
        (registry.dispatch scope (comparison.directive element payload) session).1.result.error
          = none
        → ∃ key, ((Drive.find (Locator.ofText element)).on session).1 = .ok key

/-- A registry takes a comparison for the expectation that something does not exist: what is
before the mention of that is taken for the name of an element, and the directive passes exactly
if this element is not found.
-/
structure IsMisread : Prop where
  resolves
    : ∃ resolved beginning part,
        registry.resolve? (comparison.directive element payload) = some resolved
        ∧ resolved.place = 28
        ∧ absenceDraft.Describes resolved.form
        ∧ String.toList beginning ++ part <+: payload.toList
        ∧ SameLetters absenceWords part
        ∧ resolved.captures = [("elem", some (comparison.misread element beginning))]
        ∧ ∀ scope session,
            (registry.dispatch scope (comparison.directive element payload)
              session).1.result.error = none
            ↔ ∃ failure,
                ((Drive.find
                  (Locator.ofText (comparison.misread element beginning))).on session).1
                  = .error failure
                ∧ failure.kind = .elementNotFound

variable {element payload}

theorem isCarriedOut_of_not_mentioned (named : IsElementName element)
    (quotable : IsPayload payload) (silent : ¬ MentionedIn absenceWords payload.toList)
    : comparison.IsCarriedOut ⟨forms timing⟩ element payload := by
  have resolves : (DirectiveRegistry.mk (forms timing)).resolve? _ = _ :=
    resolve?_comparison comparison named quotable silent
  have dispatched (scope : Scope) (session : Session) :=
    DirectiveRegistry.dispatch_eq resolves (args_comparison comparison named quotable scope)
      session
  constructor
  · exact ⟨_, resolves, rfl, comparison.draft.describes_form comparison.nodes,
      captures_comparison comparison element payload⟩
  · intro scope session
    rw [dispatched]
  · intro scope session passes
    rw [dispatched] at passes
    exact exists_key_of_passes comparison passes

theorem isMisread_of_mentioned (named : IsElementName element) (quotable : IsPayload payload)
    (mentioned : MentionedIn absenceWords payload.toList)
    : comparison.IsMisread ⟨forms timing⟩ element payload := by
  obtain ⟨beginning, ⟨part, inside, same⟩, resolves⟩ :=
    resolve?_absence comparison named quotable mentioned
  refine ⟨_, beginning, part, resolves, rfl, absenceDraft.describes_form absenceNodes, inside,
    same, captures_absence comparison element beginning, ?_⟩
  intro scope session
  rw [DirectiveRegistry.dispatch_eq resolves (args_absence comparison named beginning scope)
    session]
  exact absence_passes_iff (Dict.get?_insert_self ∅ "elem" _)

/-- With the built-in forms, a comparison is carried out as what it says exactly if its quoted
text does not mention that something is not to exist.
-/
theorem dispatched_by_mention (timing : Timing) (comparison : Comparison)
    {element payload : String} (named : IsElementName element) (quotable : IsPayload payload)
    : ∃ registry,
        register timing ∅ = .ok registry
        ∧ (¬ MentionedIn absenceWords payload.toList
          → comparison.IsCarriedOut registry element payload)
        ∧ (MentionedIn absenceWords payload.toList
          → comparison.IsMisread registry element payload) :=
  ⟨⟨forms timing⟩, register_eq timing ∅,
    isCarriedOut_of_not_mentioned comparison named quotable,
    isMisread_of_mentioned comparison named quotable⟩

/-- A greeting that says nothing of what exists is looked for; one that does is not. -/
theorem dispatched_greeting
    : ∃ registry,
        register (.every 1) ∅ = .ok registry
        ∧ someMatch.IsCarriedOut registry "#greeting" "alice"
        ∧ someMatch.IsMisread registry "#greeting" "go to not exist" := by
  have named : IsElementName "#greeting" :=
    ⟨by decide, by decide, by decide⟩
  have alice : IsPayload "alice" := by
    refine ⟨by decide, by decide +kernel, by decide +kernel, ?_⟩
    exact Capture.isBare_of_head (c := 'a') (by decide) (by decide)
  have going : IsPayload "go to not exist" := by
    refine ⟨by decide, by decide +kernel, by decide +kernel, ?_⟩
    exact Capture.isBare_of_head (c := 'g') (by decide) (by decide)
  obtain ⟨registry, registered, carriedOut, _⟩ :=
    dispatched_by_mention (.every 1) someMatch named alice
  obtain ⟨other, registered', _, misread⟩ :=
    dispatched_by_mention (.every 1) someMatch named going
  cases registered.symm.trans registered'
  exact ⟨registry, registered, carriedOut (by decide +kernel), misread (by decide +kernel)⟩

end Comparison

end Rehearsal.Library
