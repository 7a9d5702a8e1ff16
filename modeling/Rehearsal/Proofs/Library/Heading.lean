import Rehearsal.Proofs.Library.Choosing
import Rehearsal.Proofs.Library.Within

/-! The expectations of the title and of the address of a page. A directive of one of them is of its
own form whatever is quoted in it, since the forms ahead of it end in a time limit or start with
other words. What is captured is all that is quoted, up to the last quotation mark, and that is
compared.
-/

namespace Rehearsal.Library

open Browser Pattern Text

/-- What is expected of a page as a whole: its title or its address. -/
inductive Heading where
  | title
  | address
deriving DecidableEq

namespace Heading

-----------------------------------------------------------------------------------------
-- The directives and their forms
-----------------------------------------------------------------------------------------

/-- The words ahead of the quoted text, with the quotation mark. -/
def words : Heading → String
  | title => "Expect Page Title is \""
  | address => "Expect url to be \""

/-- The directive that expects a text. -/
def directive (heading : Heading) (text : String) : String :=
  heading.words ++ text ++ "\""

/-- The name under which the quoted text is captured. -/
def name : Heading → String
  | title => "title"
  | address => "url"

/-- The form that is registered for the directive. -/
def draft : Heading → Draft
  | title => ⟨"^Expect Page Title is \"(?P<title>.+)\"", expectTitle, none⟩
  | address => ⟨"^Expect url to be \"(?P<url>.+)\"", expectUrl, none⟩

/-- The shape of this form. -/
def shape (heading : Heading) : Shape :=
  .single heading.words heading.name "\"" false

/-- The place of the form in the registry. -/
def place : Heading → Nat
  | title => 13
  | address => 14

/-- What a session shows of it. -/
def shown : Heading → Session → String
  | title, session => session.page.title
  | address, session => session.url

theorem drafts_heading (timing : Timing) (heading : Heading)
    : (drafts timing)[heading.place]? = some heading.draft := by
  cases heading <;> rfl

theorem formNodes_heading (heading : Heading)
    : formNodes[heading.place]? = some (Piece.nodesOf (heading.shape.pieces false)) := by
  cases heading with
  | title =>
      have shaped : shapes[0]? = some title.shape := rfl
      have place : title.place = pollingDrafts.length + counterpartPlace 0 := rfl
      rw [place, formNodes_counterpart shaped]
  | address =>
      have shaped : shapes[1]? = some address.shape := rfl
      have place : address.place = pollingDrafts.length + counterpartPlace 1 := rfl
      rw [place, formNodes_counterpart shaped]

/-- The form of a heading. -/
def form (heading : Heading) : DirectiveForm :=
  heading.draft.form (Piece.nodesOf (heading.shape.pieces false))

theorem forms_heading (timing : Timing) (heading : Heading)
    : (forms timing)[heading.place]? = some heading.form :=
  forms_getElem? (drafts_heading timing heading) (formNodes_heading heading)

-----------------------------------------------------------------------------------------
-- What the forms read of a directive
-----------------------------------------------------------------------------------------

theorem directive_toList (heading : Heading) (text : String)
    : (heading.directive text).toList = heading.words.toList ++ (text.toList ++ ['"']) := by
  have quote : "\"".toList = ['"'] := by decide
  simp only [directive, String.toList_append, quote, List.append_assoc]

/-- The form of the title does not read directives about the address. -/
theorem conflicts_title
    : Conflicts (Piece.nodesOf (title.shape.pieces false)) address.words.toList = true := by
  decide +kernel

/-- No form ahead of that of a heading reads its directive: those that poll end in a time limit, and
the form of the title starts with other words than the directive about the address.
-/
theorem not_chain_of_earlier (heading : Heading) (text : String) {earlier : Nat}
    (early : earlier < heading.place) {nodes : List Node}
    (read : formNodes[earlier]? = some nodes) (stop : Thread)
    : ¬ Chain nodes (.start (heading.directive text).toList) stop := by
  have size : shapes.length = title.place := rfl
  -- At the first places stand the forms that poll, and right behind them the form of the title.
  by_cases polls : earlier < shapes.length
  · cases (formNodes_polling (List.getElem?_eq_getElem polls)).symm.trans read
    have ends : (heading.directive text).toList = (heading.words.toList ++ text.toList) ++ ['"'] :=
      (heading.directive_toList text).trans (List.append_assoc _ _ _).symm
    rw [finalLimit, ← List.append_assoc]
    exact not_chain_limit_of_quote ends
  · cases heading with
    | title => exact absurd (size ▸ early) polls
    | address =>
        obtain rfl : earlier = title.place := by
          simp only [place] at early size ⊢
          omega
        cases (formNodes_heading title).symm.trans read
        exact not_chain_of_conflicts conflicts_title (directive_toList address text)

/-- A text that can be quoted in such a directive and is captured as it is: something on one line
without delimiters around it.
-/
structure IsQuotable (text : String) : Prop where
  nonempty : text ≠ ""
  line : '\n' ∉ text.toList
  bare : Capture.IsBare text

variable {text : String} {timing : Timing}

/-- The quoted text is what the directive is read with. -/
theorem isReading (heading : Heading) (quotable : IsQuotable text)
    : heading.shape.IsReading (heading.directive text).toList text.toList [] where
  admitted := ⟨fun _ => mt String.toList_eq_nil_iff.mp quotable.nonempty, quotable.line⟩
  parts := by
    refine ⟨heading.words.toList, ['"'], heading.directive_toList text, .refl _, ?_⟩
    exact splits_words.mpr ⟨.refl _, rfl⟩

/-- What is found of a directive is the quoted text, whatever is in it. -/
theorem search_form (heading : Heading) (quotable : IsQuotable text)
    : heading.form.pattern.search (heading.directive text) = some ⟨[(heading.name, text)]⟩ := by
  obtain ⟨found, taken, others, hit, captures, reading, _⟩ :=
    @Shape.exists_search_once heading.shape heading.draft.source _ _ _
      (heading.isReading quotable) (Shape.isTight_single _ _ _ _)
  obtain ⟨rfl, rfl, _⟩ := reading.unique_single (heading.isReading quotable)
  obtain ⟨captured⟩ := found
  have here : captured = [(heading.name, text)] :=
    captures.trans (by simp [Shape.captures, shape, Shape.name])
  rw [← here]
  exact hit

/-- A directive is of the form of its heading, whatever is quoted in it. -/
theorem resolve?_directive (heading : Heading) (quotable : IsQuotable text)
    : (DirectiveRegistry.mk (forms timing)).resolve? (heading.directive text)
      = some ⟨heading.place, heading.form, ⟨[(heading.name, text)]⟩⟩ := by
  refine DirectiveRegistry.resolve?_eq_some (forms_heading timing heading) ?_
    (heading.search_form quotable)
  intro earlier early form stands
  exact search_eq_none_of_forms stands fun nodes read =>
    heading.not_chain_of_earlier text early read

-----------------------------------------------------------------------------------------
-- What the handlers compare
-----------------------------------------------------------------------------------------

theorem groupNames_form (heading : Heading) : heading.form.pattern.groupNames = [heading.name] :=
  groupNames_once heading.shape heading.draft.source

/-- The argument is the quoted text, in any scope. -/
theorem args_directive (heading : Heading) (quotable : IsQuotable text) (scope : Scope)
    : (Resolved.mk heading.place heading.form ⟨[(heading.name, text)]⟩).args scope
      = .ok ((∅ : Args).insert heading.name text) := by
  have free : heading.name ≠ DirectiveForm.reservedName := by
    cases heading <;> decide
  have captured : (Pattern.Match.mk [(heading.name, text)]).captured? heading.name = some text := by
    simp [Pattern.Match.captured?]
  unfold Resolved.args
  rw [groupNames_form, addArguments_of_ok free captured (argumentOf_eq_self quotable.bare scope)]
  rfl

variable {args : Args} {session : Session}

/-- What looks at an open session sees what there is. -/
theorem outcome_opened_field (field : Session → String) (isOpen : session.closed = false)
    : outcome (do return field (← Drive.opened)) session = (.ok (field session), session) := by
  have opened : outcome Drive.opened session = (.ok session, session) := by
    rw [Drive.outcome_opened, isOpen]
    rfl
  exact outcome_bind_of_ok opened

/-- A comparison with the argument passes if what is seen is the text of the argument. -/
theorem judge_comparison_eq_none_iff (heading : Heading) {seen : Drive String} {shown : String}
    (given : args.get? heading.name = some text)
    (sees : outcome seen session = (.ok shown, session)) (complaint : String → String → String)
    : heading.form.judge
        (outcome
          (do
            let expected ← argument args heading.name
            let shown ← seen
            expect (shown == expected) (complaint shown expected)) session).1
        = none
      ↔ shown = text := by
  have plain : heading.form.expected = none := by
    cases heading <;> rfl
  rw [outcome_bind_of_ok (outcome_argument_eq_ok_iff.mpr ⟨given, rfl⟩), outcome_bind_of_ok sees]
  unfold expect DirectiveForm.judge
  rw [plain]
  by_cases same : shown = text
  · simp [same, outcome_pure]
  · simp [same, Drive.outcome_fail]

/-- Given a text, the handler passes in an open session that shows just this text. -/
theorem judge_eq_none_iff (heading : Heading) (given : args.get? heading.name = some text)
    (isOpen : session.closed = false)
    : heading.form.judge ((heading.draft.handler args).on session).1 = none
      ↔ heading.shown session = text := by
  cases heading with
  | title =>
      exact judge_comparison_eq_none_iff title given
        (outcome_opened_field (fun session => session.page.title) isOpen) _
  | address =>
      exact judge_comparison_eq_none_iff address given (outcome_opened_field Session.url isOpen) _

/-- In an open session the directive of a heading passes if the session shows just what is quoted.
-/
theorem passes_iff (heading : Heading) (quotable : IsQuotable text) (scope : Scope)
    (isOpen : session.closed = false)
    : ((DirectiveRegistry.mk (forms timing)).dispatch scope (heading.directive text)
          session).1.result.error
        = none
      ↔ heading.shown session = text := by
  rw [DirectiveRegistry.dispatch_eq (heading.resolve?_directive quotable)
    (heading.args_directive quotable scope) session]
  exact heading.judge_eq_none_iff (Dict.get?_insert_self ∅ heading.name text) isOpen

end Heading

/-- With the built-in forms, whatever text is quoted, on one line and without delimiters around it,
in any scope and any open session, the directive about the title passes exactly if the page has this
title, and the directive about the address exactly if the session is at this address.
-/
theorem headings_pass_iff (timing : Timing)
    : ∃ registry,
        register timing ∅ = .ok registry
        ∧ ∀ text : String,
            text ≠ ""
            → '\n' ∉ text.toList
            → Capture.IsBare text
            → ∀ scope session,
                session.closed = false
                → ((registry.dispatch scope ("Expect Page Title is \"" ++ text ++ "\"")
                        session).1.result.error = none
                    ↔ session.page.title = text)
                  ∧ ((registry.dispatch scope ("Expect url to be \"" ++ text ++ "\"")
                        session).1.result.error = none
                    ↔ session.url = text) := by
  refine ⟨⟨forms timing⟩, register_eq timing ∅, ?_⟩
  intro text nonempty line bare scope session isOpen
  have quotable : Heading.IsQuotable text := ⟨nonempty, line, bare⟩
  exact ⟨Heading.title.passes_iff quotable scope isOpen,
    Heading.address.passes_iff quotable scope isOpen⟩

/-- A title that holds quotation marks, the words of other directives, a bracketed name and a time
limit.
-/
def garbledTitle : String :=
  "a\" to not exist [b] Expect url to be \"c\" within 2 seconds"

/-- The directive about a garbled title passes on the page that has it, and on no other. -/
theorem garbled_title_passes
    : ∃ registry,
        register (.every 1) ∅ = .ok registry
        ∧ ∀ scope,
            (registry.dispatch scope ("Expect Page Title is \"" ++ garbledTitle ++ "\"")
                { site := ∅, page := { title := garbledTitle } }).1.result.error = none
            ∧ (registry.dispatch scope ("Expect Page Title is \"" ++ garbledTitle ++ "\"")
                { site := ∅, page := { title := "a" } }).1.result.error ≠ none
            ∧ (registry.dispatch scope ("Expect url to be \"" ++ garbledTitle ++ "\"")
                { site := ∅, url := garbledTitle }).1.result.error = none := by
  obtain ⟨registry, registered, passes⟩ := headings_pass_iff (.every 1)
  have bare : Capture.IsBare garbledTitle :=
    Capture.isBare_of_head (c := 'a') (by decide) (by decide)
  have garbled := passes garbledTitle (by decide) (by decide) bare
  refine ⟨registry, registered, fun scope => ⟨?_, ?_, ?_⟩⟩
  · exact (garbled scope { site := ∅, page := { title := garbledTitle } } rfl).1.mpr rfl
  · exact mt (garbled scope { site := ∅, page := { title := "a" } } rfl).1.mp (by decide)
  · exact (garbled scope { site := ∅, url := garbledTitle } rfl).2.mpr rfl

end Rehearsal.Library
