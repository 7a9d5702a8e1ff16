import Rehearsal.Proofs.Browser.Failing
import Rehearsal.Proofs.Directive.Arguments
import Rehearsal.Proofs.Directive.Resolution
import Rehearsal.Proofs.Directive.Substitution
import Rehearsal.Proofs.Library.Forms
import Rehearsal.Proofs.Polling

/-! No argument is missed. Every group of a built-in form lies on every way through its pattern, so
whatever the pattern matches, the directive has all arguments that the form has names for. These
are the only ones to which the handler of the form looks, and given them it does not fail for want
of an argument.
-/

namespace Rehearsal

open Pattern Browser Drive

-----------------------------------------------------------------------------------------
-- Groups on every way through a pattern
-----------------------------------------------------------------------------------------

namespace Pattern

/-- The names of the groups that lie on every way through a node. -/
def Node.sureNames : Node → List String
  | .empty | .chars _ | .look _ => []
  | .capture name body => name :: body.sureNames
  | .seq first second => first.sureNames ++ second.sureNames
  | .alt first second => first.sureNames.filter fun name => second.sureNames.contains name
  | .plus body _ => body.sureNames

/-- The names under which a thread has captured something. -/
def Thread.names (thread : Thread) : List String :=
  thread.captures.map Prod.fst

/-- What is captured stays captured. -/
theorem Node.Leads.names_subset {node : Node} {start stop : Thread} (leads : node.Leads start stop)
    : start.names ⊆ stop.names := by
  induction leads with
  | empty | look _ => exact List.Subset.refl _
  | chars _ _ => exact List.Subset.refl _
  | capture _ ih => exact List.subset_cons_of_subset _ ih
  | seq _ _ left right => exact List.Subset.trans left right
  | altLeft _ ih => exact ih
  | altRight _ ih => exact ih
  | once _ ih => exact ih
  | again _ _ first rest => exact List.Subset.trans first rest

/-- A group on every way through a node has captured something behind it, by induction on the way
that was taken.
-/
theorem Node.Leads.sureNames_subset {node : Node} {start stop : Thread}
    (leads : node.Leads start stop)
    : node.sureNames ⊆ stop.names := by
  induction leads with
  | empty | look _ => exact List.nil_subset _
  | chars _ _ => exact List.nil_subset _
  | @capture name body start stop _ ih => exact List.cons_subset_cons name ih
  | seq _ right ih ih' =>
      exact List.append_subset.mpr ⟨List.Subset.trans ih right.names_subset, ih'⟩
  | altLeft _ ih => exact List.Subset.trans (List.filter_subset_self _) ih
  | altRight _ ih =>
      intro name member
      exact ih (List.contains_iff_mem.mp (List.mem_filter.mp member).2)
  | once _ ih => exact ih
  | again _ rest ih _ => exact List.Subset.trans ih rest.names_subset

theorem Chain.names_subset {nodes : List Node} {start stop : Thread}
    (chain : Chain nodes start stop)
    : start.names ⊆ stop.names := by
  induction chain with
  | nil => exact List.Subset.refl _
  | cons first _ ih => exact List.Subset.trans first.names_subset ih

theorem Chain.sureNames_subset {nodes : List Node} {start stop : Thread}
    (chain : Chain nodes start stop)
    : nodes.flatMap Node.sureNames ⊆ stop.names := by
  induction chain with
  | nil => exact List.nil_subset _
  | cons first rest ih =>
      rw [List.flatMap_cons]
      exact List.append_subset.mpr
        ⟨List.Subset.trans first.sureNames_subset rest.names_subset, ih⟩

/-- A name under which something is captured has a text. -/
theorem exists_captured_of_mem {name : String} {thread : Thread} (member : name ∈ thread.names)
    (text : List Char)
    : ∃ raw, (Match.ofThread text thread).captured? name = some raw := by
  obtain ⟨⟨name, start, stop⟩, inside, rfl⟩ := List.mem_map.mp member
  rw [← Option.isSome_iff_exists, Match.captured?, Option.isSome_map, List.find?_isSome]
  exact ⟨_, List.mem_map_of_mem inside, beq_self_eq_true _⟩

end Pattern

namespace Library

/-- All groups of the built-in forms lie on every way through their patterns. -/
theorem captureNames_sure
    : ∀ nodes ∈ formNodes, nodes.flatMap Node.captureNames ⊆ nodes.flatMap Node.sureNames := by
  decide +kernel

/-- Wherever the pattern of a built-in form occurs, all its groups have captured something. -/
theorem exists_captured {timing : Timing} {form : DirectiveForm} {directive name : String}
    {found : Pattern.Match} (member : form ∈ forms timing)
    (hit : form.pattern.search directive = some found) (named : name ∈ form.pattern.groupNames)
    : ∃ raw, found.captured? name = some raw := by
  obtain ⟨place, stands⟩ := List.mem_iff_getElem?.mp member
  obtain ⟨draft, nodes, _, read, rfl⟩ := List.getElem?_zipWith_eq_some.mp stands
  obtain ⟨stop, search, rfl⟩ := Option.map_eq_some_iff.mp hit
  have sure := captureNames_sure nodes (List.mem_of_getElem? read) named
  exact exists_captured_of_mem ((chain_of_search search).sureNames_subset sure) _

end Library

-----------------------------------------------------------------------------------------
-- What looks at some arguments only
-----------------------------------------------------------------------------------------

/-- A failure for want of an argument, or one that tells of it in place of an expected failure. -/
def Failure.BlamesArgument (failure : Failure) : Prop :=
  (∃ text, failure = .other "MissingArgument" text)
  ∨ ∃ kind text,
      failure = .expectedErrorNotRaised kind (some (Failure.other "MissingArgument" text).message)

namespace Failure

theorem IsOfBrowser.not_blamesArgument {failure : Failure} (ofBrowser : failure.IsOfBrowser)
    : ¬ failure.BlamesArgument := by
  rintro (⟨_, rfl⟩ | ⟨_, _, rfl⟩) <;> cases ofBrowser

/-- The wording of a failure of the browser is not that of a missing argument. -/
theorem IsOfBrowser.message_ne {failure : Failure} (ofBrowser : failure.IsOfBrowser) (text : String)
    : failure.message ≠ (Failure.other "MissingArgument" text).message := by
  have begins {first second : String} {c : Char} (starts : first.toList.head? = some c)
      : (first ++ second).toList.head? = some c := by
    rw [String.toList_append, List.head?_append, starts]
    rfl
  have missing : (Failure.other "MissingArgument" text).message.toList.head? = some 'M' :=
    begins (begins (by decide))
  have plain
      : failure.message.toList.head? = some 'n' ∨ failure.message.toList.head? = some 's' := by
    cases ofBrowser with
    | noSuchWindow => exact .inl (begins (by decide))
    | elementNotFound => exact .inl (begins (begins (by decide)))
    | staleElement => exact .inr (begins (by decide))
    | noAlertPresent => exact .inl (by decide)
  intro same
  rw [same, missing] at plain
  revert plain
  decide

end Failure

/-- There are arguments for some names. -/
def Args.Give (args : Args) (names : List String) : Prop :=
  ∀ name ∈ names, ∃ text, args.get? name = some text

/-- A handler reads the argument of a name: with some arguments that differ in no other one it does
something else.
-/
def Handler.ReadsArgument (handler : Handler) (name : String) : Prop :=
  ∃ args args' : Args,
    (∀ other, other ≠ name → args.get? other = args'.get? other) ∧ handler args ≠ handler args'

namespace Library

variable {α β : Type} {names : List String}

/-- What is done with arguments looks at those for some names only, and if these are given, it does
not fail for want of an argument.
-/
structure Relies (names : List String) (act : Args → Drive α) : Prop where
  settled
    : ∀ {args args'}, (∀ name ∈ names, args.get? name = args'.get? name) → act args = act args'
  fails : ∀ {args}, Args.Give args names → FailsAs (¬ Failure.BlamesArgument ·) (act args)

namespace Relies

theorem mono {act : Args → Drive α} {others : List String} (relies : Relies names act)
    (more : names ⊆ others)
    : Relies others act :=
  ⟨fun agree => relies.settled fun name member => agree name (more member),
    fun given => relies.fails fun name member => given name (more member)⟩

/-- What looks at no arguments. -/
theorem of_failsAs {drive : Drive α} (fails : FailsAs (¬ Failure.BlamesArgument ·) drive)
    : Relies names fun _ => drive :=
  ⟨fun _ => rfl, fun _ => fails⟩

theorem of_browser {drive : Drive α} (fails : FailsAs Failure.IsOfBrowser drive)
    : Relies names fun _ => drive :=
  of_failsAs (fails.mono Failure.IsOfBrowser.not_blamesArgument)

theorem pure (value : α) : Relies names fun _ => Pure.pure value :=
  of_failsAs (.pure value)

theorem bind {act : Args → Drive α} {next : Args → α → Drive β} (first : Relies names act)
    (rest : ∀ value, Relies names fun args => next args value)
    : Relies names fun args => act args >>= next args := by
  constructor
  · intro args args' agree
    rw [first.settled agree]
    exact congrArg _ (funext fun value => (rest value).settled agree)
  · intro args given
    exact (first.fails given).bind fun value => (rest value).fails given

theorem tryCatch {act : Args → Drive α} {rescue : Failure → Drive α} (first : Relies names act)
    (rescuing
      : ∀ failure,
          ¬ failure.BlamesArgument → FailsAs (¬ Failure.BlamesArgument ·) (rescue failure))
    : Relies names fun args => tryCatch (act args) rescue := by
  constructor
  · intro args args' agree
    rw [first.settled agree]
  · intro args given
    exact (first.fails given).tryCatch rescuing

/-- What looks at the written element argument, if only to tell of it. -/
theorem elementText {act : String → Drive α} (named : "elem" ∈ names)
    (fails : ∀ text, FailsAs (¬ Failure.BlamesArgument ·) (act text))
    : Relies names fun args => act (elementText args) := by
  constructor
  · intro args args' agree
    unfold Library.elementText
    rw [agree "elem" named]
  · intro args _
    exact fails _

end Relies

theorem failsAs_argument {allowed : Failure → Prop} {args : Args} {name text : String}
    (given : args.get? name = some text)
    : FailsAs allowed (argument args name) := by
  unfold argument
  rw [given]
  exact .pure text

theorem failsAs_locate {args : Args} {text : String} (given : args.get? "elem" = some text)
    : FailsAs Failure.IsOfBrowser (element args) :=
  (failsAs_argument given).bind fun _ => failsAs_find _

theorem relies_argument {name : String} (named : name ∈ names)
    : Relies names fun args => argument args name := by
  constructor
  · intro args args' agree
    unfold argument
    rw [agree name named]
  · intro args given
    obtain ⟨text, given⟩ := given name named
    exact failsAs_argument given

theorem relies_element (named : "elem" ∈ names) : Relies names element :=
  (relies_argument named).bind fun _ => .of_browser (failsAs_find _)

theorem relies_fail {failure : Failure} (blameless : ¬ failure.BlamesArgument)
    : Relies names fun _ => (Drive.fail failure : Drive α) :=
  .of_failsAs (.fail blameless)

theorem relies_seconds (named : "seconds" ∈ names) : Relies names seconds :=
  (relies_argument named).bind fun raw => by
    cases Duration.ofText? raw with
    | none => exact relies_fail (by simp [Failure.BlamesArgument])
    | some duration => exact .pure duration

theorem relies_items (named : "list" ∈ names) : Relies names items :=
  (relies_argument named).bind fun _ => .pure _

theorem relies_expression (named : "regexp" ∈ names) : Relies names expression :=
  (relies_argument named).bind fun raw => by
    cases Pattern.ofText false raw with
    | error error => exact relies_fail (by simp [Failure.BlamesArgument])
    | ok pattern => exact .pure pattern

theorem blameless_assertion (complaint : String)
    : ¬ (Failure.assertion complaint).BlamesArgument := by
  simp [Failure.BlamesArgument]

theorem failsAs_expect (condition : Bool) (complaint : String)
    : FailsAs (¬ Failure.BlamesArgument ·) (expect condition complaint) := by
  cases condition with
  | false => exact .fail (blameless_assertion complaint)
  | true => exact .pure none

theorem relies_expect (condition : Bool) (complaint : String)
    : Relies names fun _ => expect condition complaint :=
  .of_failsAs (failsAs_expect condition complaint)

-----------------------------------------------------------------------------------------
-- The handlers of expectations
-----------------------------------------------------------------------------------------

theorem relies_expectContent (content : "content" ∈ names) : Relies names expectContent :=
  (relies_argument content).bind fun _ => (Relies.of_browser (failsAs_opened.map _)).bind fun _ =>
    relies_expect _ _

theorem relies_expectExists (elem : "elem" ∈ names) : Relies names expectExists :=
  (relies_element elem).bind fun _ => .pure none

theorem relies_expectAbsent (elem : "elem" ∈ names) : Relies names expectAbsent := by
  refine Relies.tryCatch ((relies_element elem).bind fun _ => ?_) fun failure blameless => ?_
  · exact .elementText elem fun text => failsAs_expect _ ("'" ++ text ++ "' still exists")
  · split
    · exact .pure none
    · exact .fail blameless

/-- A check that compares an argument with what the session shows. -/
theorem relies_comparison {name : String} {seen : Drive α} (named : name ∈ names)
    (fails : FailsAs Failure.IsOfBrowser seen) (condition : String → α → Bool)
    (complaint : String → α → String)
    : Relies names (fun args => do
        let expected ← argument args name
        let value ← seen
        expect (condition expected value) (complaint expected value)) :=
  (relies_argument named).bind fun _ => (Relies.of_browser fails).bind fun _ => relies_expect _ _

theorem relies_expectTitle (title : "title" ∈ names) : Relies names expectTitle :=
  relies_comparison title (failsAs_opened.map _) _ _

theorem relies_expectUrl (url : "url" ∈ names) : Relies names expectUrl :=
  relies_comparison url (failsAs_opened.map _) _ _

theorem relies_expectUrlContains (url : "url" ∈ names) : Relies names expectUrlContains :=
  relies_comparison url (failsAs_opened.map _) _ _

theorem relies_expectAlertText (text : "text" ∈ names) : Relies names expectAlertText :=
  relies_comparison text failsAs_alertText _ _

theorem relies_textAndExpression (elem : "elem" ∈ names) (regexp : "regexp" ∈ names)
    : Relies names textAndExpression :=
  (relies_expression regexp).bind fun _ => (relies_element elem).bind fun key =>
    (Relies.of_browser ((failsAs_element key).map _)).bind fun _ => .pure _

theorem relies_expectMatches (elem : "elem" ∈ names) (regexp : "regexp" ∈ names)
    : Relies names expectMatches :=
  (relies_textAndExpression elem regexp).bind fun _ => relies_expect _ _

theorem relies_expectNotMatches (elem : "elem" ∈ names) (regexp : "regexp" ∈ names)
    : Relies names expectNotMatches :=
  (relies_textAndExpression elem regexp).bind fun _ => relies_expect _ _

theorem relies_valueOf (elem : "elem" ∈ names) : Relies names valueOf :=
  (relies_element elem).bind fun key =>
    (Relies.of_browser ((failsAs_element key).map _)).bind fun _ => .pure _

theorem relies_expectValueMatches (elem : "elem" ∈ names) (regexp : "regexp" ∈ names)
    : Relies names expectValueMatches :=
  (relies_expression regexp).bind fun _ => (relies_valueOf elem).bind fun _ => relies_expect _ _

theorem relies_expectValue (elem : "elem" ∈ names) (value : "value" ∈ names)
    : Relies names expectValue :=
  (relies_argument value).bind fun _ => (relies_valueOf elem).bind fun _ => relies_expect _ _

theorem relies_expectSelection (selected : Bool) (elem : "elem" ∈ names)
    : Relies names (expectSelection selected) :=
  (relies_element elem).bind fun key =>
    (Relies.of_browser ((failsAs_element key).map _)).bind fun actual =>
      .elementText elem fun text =>
        failsAs_expect (actual == selected)
          ("'" ++ text ++ "' is expected to be " ++ stateName selected ++ ".")

theorem relies_expectRadio (selected : Bool) (value : "value" ∈ names)
    : Relies names (expectRadio selected) :=
  (relies_argument value).bind fun _ => (Relies.of_browser (failsAs_find _)).bind fun key =>
    (Relies.of_browser ((failsAs_element key).map _)).bind fun _ => relies_expect _ _

/-- That an option is missing is told with the written element argument. -/
theorem relies_missingChoice (elem : "elem" ∈ names) (value : String)
    : Relies names fun args => (Drive.fail (missingChoice args value) : Drive α) :=
  .elementText elem fun text =>
    .fail (Failure.IsOfBrowser.not_blamesArgument
      (.elementNotFound ("option '" ++ value ++ "' in " ++ text)))

theorem relies_choices (key : String) : Relies names fun _ => Drive.choices key :=
  .of_browser ((failsAs_element key).map _)

theorem relies_expectChoice (elem : "elem" ∈ names) (value : "value" ∈ names)
    : Relies names expectChoice :=
  (relies_argument value).bind fun value => (relies_element elem).bind fun key =>
    (relies_choices key).bind fun choices => by
      split
      · exact .pure none
      · exact relies_missingChoice elem value

theorem relies_expectChoiceSelected (elem : "elem" ∈ names) (value : "value" ∈ names)
    : Relies names expectChoiceSelected :=
  (relies_argument value).bind fun value => (relies_element elem).bind fun key =>
    (relies_choices key).bind fun choices => by
      split
      · exact relies_missingChoice elem value
      · exact relies_expect _ _

theorem relies_expectChoicesSelected (elem : "elem" ∈ names) (list : "list" ∈ names)
    : Relies names expectChoicesSelected :=
  (relies_items list).bind fun wanted => (relies_element elem).bind fun key =>
    (relies_choices key).bind fun choices => by
      split
      · exact .pure none
      · exact relies_fail (blameless_assertion _)

theorem relies_expectLink (url : "url" ∈ names) : Relies names expectLink :=
  (relies_argument url).bind fun _ => (Relies.of_browser (failsAs_find _)).bind fun _ => .pure none

theorem relies_expectLinkText (url : "url" ∈ names) (text : "text" ∈ names)
    : Relies names expectLinkText :=
  (relies_argument url).bind fun _ => (relies_argument text).bind fun _ =>
    (Relies.of_browser (failsAs_find _)).bind fun key =>
      (Relies.of_browser ((failsAs_element key).map _)).bind fun _ => relies_expect _ _

/-- That no alert is open may be no failure. -/
theorem failsAs_rescued {drive : Drive (Option Bool)}
    (fails : FailsAs (¬ Failure.BlamesArgument ·) drive)
    : FailsAs (¬ Failure.BlamesArgument ·)
        (tryCatch drive fun failure =>
          if failure = .noAlertPresent then return none else Drive.fail failure) := by
  refine fails.tryCatch fun failure blameless => ?_
  split
  · exact .pure none
  · exact .fail blameless

theorem relies_expectNoAlert : Relies names expectNoAlert :=
  .of_failsAs (failsAs_rescued
    ((failsAs_alertText.mono Failure.IsOfBrowser.not_blamesArgument).bind fun _ =>
      failsAs_expect _ _))

-----------------------------------------------------------------------------------------
-- The handlers of actions
-----------------------------------------------------------------------------------------

/-- A handler that ends with an operation of the session and answers nothing. -/
theorem relies_answer {drive : Drive Unit} (fails : FailsAs Failure.IsOfBrowser drive)
    : Relies names (fun _ => do
        drive
        return (none : Option Bool)) :=
  (Relies.of_browser fails).bind fun _ => .pure none

theorem relies_load (url : "url" ∈ names) : Relies names load :=
  (relies_argument url).bind fun _ => relies_answer (failsAs_navigate _)

theorem relies_typeInto (elem : "elem" ∈ names) (keys : "keys" ∈ names) : Relies names typeInto :=
  (relies_element elem).bind fun _ => (relies_argument keys).bind fun _ =>
    relies_answer (failsAs_typeText _ _)

theorem relies_click (elem : "elem" ∈ names) : Relies names click :=
  (relies_element elem).bind fun _ => relies_answer (failsAs_click _)

theorem relies_followLink (elem : "elem" ∈ names) : Relies names followLink :=
  (relies_element elem).bind fun key =>
    (Relies.of_browser ((failsAs_element key).map _)).bind fun href => by
      cases href with
      | some url => exact relies_answer (failsAs_navigate url)
      | none =>
          exact .elementText elem fun text =>
            .fail (blameless_assertion ("'" ++ text ++ "' has no href"))

theorem relies_setSelected (selected : Bool) (elem : "elem" ∈ names)
    : Relies names (setSelected selected) :=
  (relies_element elem).bind fun key =>
    (Relies.of_browser ((failsAs_element key).map _)).bind fun actual => by
      split
      · exact relies_answer (failsAs_click key)
      · exact .pure none

theorem failsAs_clearChoices (key : String) (choices : List Choice)
    : FailsAs Failure.IsOfBrowser (clearChoices key choices) := by
  induction choices with
  | nil => exact .pure ()
  | cons choice rest ih => exact (failsAs_setChoice key choice.value false).bind fun _ => ih

theorem relies_selectItems (elem : "elem" ∈ names) (key : String) (choices : List Choice)
    (items : List String)
    : Relies names fun args => selectItems args key choices items := by
  induction items with
  | nil => exact .pure ()
  | cons item rest ih =>
      unfold selectItems
      cases denoted? choices item with
      | none => exact relies_missingChoice elem item
      | some choice => exact (Relies.of_browser (failsAs_setChoice _ _ _)).bind fun _ => ih

theorem relies_selectMany (elem : "elem" ∈ names) (list : "list" ∈ names)
    : Relies names selectMany :=
  (relies_items list).bind fun wanted => (relies_element elem).bind fun key =>
    (relies_choices key).bind fun choices =>
      (Relies.of_browser (failsAs_clearChoices key _)).bind fun _ =>
        (relies_selectItems elem key choices wanted).bind fun _ => .pure none

theorem relies_selectOne (elem : "elem" ∈ names) (value : "value" ∈ names)
    : Relies names selectOne :=
  (relies_element elem).bind fun _ => (relies_argument value).bind fun _ =>
    relies_answer (failsAs_setChoice _ _ _)

theorem relies_chooseRadio (value : "value" ∈ names) : Relies names chooseRadio :=
  (relies_argument value).bind fun _ => (Relies.of_browser (failsAs_find _)).bind fun _ =>
    relies_answer (failsAs_click _)

theorem relies_answerAlert : Relies names answerAlert :=
  .of_failsAs (failsAs_rescued
    ((failsAs_closeAlert.mono Failure.IsOfBrowser.not_blamesArgument).bind fun _ => .pure none))

theorem relies_wait (seconds : "seconds" ∈ names) : Relies names wait :=
  (relies_seconds seconds).bind fun _ => .pure none

-----------------------------------------------------------------------------------------
-- Polling
-----------------------------------------------------------------------------------------

theorem relies_insisting {check : Handler} (relies : Relies names check)
    : Relies names (insisting check) :=
  relies.bind fun answer => by
    split
    · exact relies_fail (by simp [Failure.BlamesArgument])
    · exact .pure _

/-- A check that is repeated fails as its last attempt does. -/
theorem relies_polling {check : Handler} (relies : Relies names check)
    (seconds : "seconds" ∈ names) (timing : Timing)
    : Relies names (polling timing check) := by
  refine (relies_seconds seconds).bind fun timeout => ⟨?_, ?_⟩
  · intro args args' agree
    rw [(relies_insisting relies).settled agree]
  · intro args given session failure ended
    have course
        : Polling.Course timing.clock.elapsed timeout timing.interval (insisting check args).on
            session
            (Polling.poll timing.clock timeout timing.interval (insisting check args).on session) :=
      Polling.course_poll timing.clock
    exact (relies_insisting relies).fails given _ failure
      ((congrArg Prod.fst course.last).trans ended)

-----------------------------------------------------------------------------------------
-- The built-in forms
-----------------------------------------------------------------------------------------

/-- A draft looks at the arguments for some names only. If it is meant to fail, then, given these,
it fails in no other way than for what it does not find in the browser.
-/
structure Draft.ReliesOn (draft : Draft) (names : List String) : Prop where
  relies : Relies names draft.handler
  ofBrowser
    : draft.expected ≠ none
      → ∀ {args}, Args.Give args names → FailsAs Failure.IsOfBrowser (draft.handler args)

theorem Draft.ReliesOn.of_plain {draft : Draft} (relies : Relies names draft.handler)
    (plain : draft.expected = none)
    : draft.ReliesOn names :=
  ⟨relies, fun expects => absurd plain expects⟩

theorem failsAs_expectExists {args : Args} (elem : "elem" ∈ names) (given : args.Give names)
    : FailsAs Failure.IsOfBrowser (expectExists args) := by
  obtain ⟨text, here⟩ := given "elem" elem
  exact (failsAs_locate here).bind fun _ => .pure none

theorem failsAs_expectChoice {args : Args} (elem : "elem" ∈ names) (value : "value" ∈ names)
    (given : args.Give names)
    : FailsAs Failure.IsOfBrowser (expectChoice args) := by
  obtain ⟨text, here⟩ := given "elem" elem
  obtain ⟨wanted, here'⟩ := given "value" value
  refine (failsAs_argument here').bind fun _ => (failsAs_locate here).bind fun key => ?_
  refine ((failsAs_element key).map _).bind fun choices => ?_
  split
  · exact .pure none
  · exact .fail (.elementNotFound _)

/-- The checks look at the arguments for which their patterns have groups. -/
theorem pollingDrafts_rely
    : List.Forall₂
        (fun (draft : Draft) nodes => Relies (nodes.flatMap Node.captureNames) draft.handler)
        pollingDrafts pollingNodes := by
  unfold pollingDrafts pollingNodes
  repeat' apply List.Forall₂.cons
  · exact relies_expectTitle (by decide +kernel)
  · exact relies_expectUrl (by decide +kernel)
  · exact relies_expectUrlContains (by decide +kernel)
  · exact relies_expectAlertText (by decide +kernel)
  · exact relies_expectContent (by decide +kernel)
  · exact relies_expectExists (by decide +kernel)
  · exact relies_expectAbsent (by decide +kernel)
  · exact relies_expectValue (by decide +kernel) (by decide +kernel)
  · exact relies_expectValueMatches (by decide +kernel) (by decide +kernel)
  · exact relies_expectNotMatches (by decide +kernel) (by decide +kernel)
  · exact relies_expectMatches (by decide +kernel) (by decide +kernel)
  · exact relies_expectSelection false (by decide +kernel)
  · exact relies_expectSelection true (by decide +kernel)
  · exact .nil

/-- So do the expectations that look once. -/
theorem expectationDrafts_rely
    : List.Forall₂
        (fun (draft : Draft) nodes => draft.ReliesOn (nodes.flatMap Node.captureNames))
        expectationDrafts expectationNodes := by
  unfold expectationDrafts expectationNodes
  repeat' apply List.Forall₂.cons
  · exact .of_plain (relies_expectTitle (by decide +kernel)) rfl
  · exact .of_plain (relies_expectUrl (by decide +kernel)) rfl
  · exact .of_plain (relies_expectUrlContains (by decide +kernel)) rfl
  · exact .of_plain (relies_expectAlertText (by decide +kernel)) rfl
  · exact .of_plain relies_expectNoAlert rfl
  · exact .of_plain (relies_expectLinkText (by decide +kernel) (by decide +kernel)) rfl
  · exact .of_plain (relies_expectLink (by decide +kernel)) rfl
  · exact ⟨relies_expectChoice (by decide +kernel) (by decide +kernel),
      fun _ => failsAs_expectChoice (by decide +kernel) (by decide +kernel)⟩
  · exact .of_plain (relies_expectChoice (by decide +kernel) (by decide +kernel)) rfl
  · exact .of_plain (relies_expectRadio false (by decide +kernel)) rfl
  · exact .of_plain (relies_expectRadio true (by decide +kernel)) rfl
  · exact .of_plain (relies_expectChoiceSelected (by decide +kernel) (by decide +kernel)) rfl
  · exact .of_plain (relies_expectChoicesSelected (by decide +kernel) (by decide +kernel)) rfl
  · exact .of_plain (relies_expectContent (by decide +kernel)) rfl
  · exact .of_plain (relies_expectExists (by decide +kernel)) rfl
  · exact ⟨relies_expectExists (by decide +kernel),
      fun _ => failsAs_expectExists (by decide +kernel)⟩
  · exact .of_plain (relies_expectValue (by decide +kernel) (by decide +kernel)) rfl
  · exact .of_plain (relies_expectValueMatches (by decide +kernel) (by decide +kernel)) rfl
  · exact .of_plain (relies_expectNotMatches (by decide +kernel) (by decide +kernel)) rfl
  · exact .of_plain (relies_expectMatches (by decide +kernel) (by decide +kernel)) rfl
  · exact .of_plain (relies_expectSelection false (by decide +kernel)) rfl
  · exact .of_plain (relies_expectSelection true (by decide +kernel)) rfl
  · exact .nil

/-- And so do the actions. -/
theorem actionDrafts_rely
    : List.Forall₂
        (fun (draft : Draft) nodes => draft.ReliesOn (nodes.flatMap Node.captureNames))
        actionDrafts actionNodes := by
  unfold actionDrafts actionNodes
  repeat' apply List.Forall₂.cons
  · exact .of_plain relies_answerAlert rfl
  · exact .of_plain relies_answerAlert rfl
  · exact .of_plain (relies_load (by decide +kernel)) rfl
  · exact .of_plain (relies_typeInto (by decide +kernel) (by decide +kernel)) rfl
  · exact .of_plain (relies_followLink (by decide +kernel)) rfl
  · exact .of_plain (relies_selectMany (by decide +kernel) (by decide +kernel)) rfl
  · exact .of_plain (relies_selectOne (by decide +kernel) (by decide +kernel)) rfl
  · exact .of_plain (relies_chooseRadio (by decide +kernel)) rfl
  · exact .of_plain (relies_setSelected false (by decide +kernel)) rfl
  · exact .of_plain (relies_setSelected true (by decide +kernel)) rfl
  · exact .of_plain (relies_click (by decide +kernel)) rfl
  · exact .of_plain (relies_wait (by decide +kernel)) rfl
  · exact .nil

/-- All built-in forms look at the arguments for which their patterns have groups. -/
theorem drafts_rely (timing : Timing)
    : List.Forall₂
        (fun (draft : Draft) nodes => draft.ReliesOn (nodes.flatMap Node.captureNames))
        (drafts timing) formNodes := by
  have seconds : "seconds" ∈ limitNodes.flatMap Node.captureNames := by decide +kernel
  have polling : List.Forall₂
      (fun (draft : Draft) nodes => draft.ReliesOn (nodes.flatMap Node.captureNames))
      (pollingDrafts.map (Draft.within timing))
      (pollingNodes.map fun nodes => nodes ++ limitNodes ++ [.look .textEnd]) := by
    refine List.forall₂_map_left_iff.mpr (List.forall₂_map_right_iff.mpr ?_)
    refine pollingDrafts_rely.imp fun draft nodes relies => .of_plain ?_ rfl
    rw [List.flatMap_append, List.flatMap_append, List.append_assoc]
    refine relies_polling (relies.mono (List.subset_append_left _ _)) ?_ timing
    exact List.mem_append_right _ (List.mem_append_left _ seconds)
  exact List.rel_append (List.rel_append polling expectationDrafts_rely) actionDrafts_rely

/-- A built-in form looks at the arguments for which its pattern has groups. -/
structure LooksAtGroups (form : DirectiveForm) : Prop where
  relies : Relies form.pattern.groupNames form.handler
  ofBrowser
    : form.expected ≠ none
      → ∀ {args},
          Args.Give args form.pattern.groupNames
          → FailsAs Failure.IsOfBrowser (form.handler args)
  unreserved : DirectiveForm.reservedName ∉ form.pattern.groupNames

theorem looksAtGroups_of_mem {timing : Timing} {form : DirectiveForm} (member : form ∈ forms timing)
    : LooksAtGroups form := by
  obtain ⟨place, stands⟩ := List.mem_iff_getElem?.mp member
  obtain ⟨draft, nodes, drafted, read, rfl⟩ := List.getElem?_zipWith_eq_some.mp stands
  obtain ⟨inside, rfl⟩ := List.getElem?_eq_some_iff.mp drafted
  obtain ⟨inside', rfl⟩ := List.getElem?_eq_some_iff.mp read
  have on := (List.forall₂_iff_get.mp (drafts_rely timing)).2 place inside inside'
  refine ⟨on.relies, on.ofBrowser, fun reserved => ?_⟩
  have used := List.contains_iff_mem.mpr reserved
  exact Bool.false_ne_true ((formNodes_unreserved _ (List.getElem_mem inside')).symm.trans used)

/-- Given the arguments for its groups, a form is not judged to want one of them. -/
theorem LooksAtGroups.blameless {form : DirectiveForm} (looks : LooksAtGroups form) {args : Args}
    (given : args.Give form.pattern.groupNames) {session : Session} {failure : Failure}
    (judged : form.judge (outcome (form.handler args) session).1 = some failure)
    : ¬ failure.BlamesArgument := by
  unfold DirectiveForm.judge at judged
  split at judged
  next cause _ ended =>
    cases judged
    exact looks.relies.fails given session failure ended
  next =>
    cases judged
    simp [Failure.BlamesArgument]
  next => cases judged
  next kind cause expects ended =>
    have ofBrowser := looks.ofBrowser (by simp [expects]) given session cause ended
    split at judged
    · cases judged
    · cases judged
      simpa [Failure.BlamesArgument] using ofBrowser.message_ne
  next =>
    cases judged
    simp [Failure.BlamesArgument]

/-- Where a built-in form has arguments at all, it has those for all its groups. -/
theorem give_of_args {timing : Timing} {resolved : Resolved} {directive : String} {scope : Scope}
    {args : Args} (member : resolved.form ∈ forms timing)
    (hit : resolved.form.pattern.search directive = some resolved.found)
    (given : resolved.args scope = .ok args)
    : args.Give resolved.form.pattern.groupNames := by
  intro name named
  obtain ⟨raw, captured⟩ := exists_captured member hit named
  obtain ⟨text, _, here⟩ := exists_argument given named captured
  exact ⟨text, here⟩

/-- A built-in form reads no argument for which its pattern has no group. -/
theorem LooksAtGroups.mem_of_readsArgument {form : DirectiveForm} (looks : LooksAtGroups form)
    {name : String} (reads : form.handler.ReadsArgument name)
    : name ∈ form.pattern.groupNames := by
  obtain ⟨args, args', agree, different⟩ := reads
  by_contra unnamed
  refine different (looks.relies.settled fun other named => agree other ?_)
  rintro rfl
  exact unnamed named

/-- In the registry of the built-in forms, wherever the pattern of a form occurs, it captures every
argument that the handler of the form reads, so that the argument is there whenever the handler is
called. No directive ends in a failure that blames a missing argument.
-/
theorem arguments_never_missed (timing : Timing)
    : ∃ next,
        register timing ∅ = .ok next
        ∧ (∀ (resolved : Resolved) directive name,
            resolved.form ∈ next.forms
            → resolved.form.pattern.search directive = some resolved.found
            → resolved.form.handler.ReadsArgument name
            → (∃ raw, resolved.found.captured? name = some raw)
              ∧ ∀ scope args, resolved.args scope = .ok args → ∃ text, args.get? name = some text)
        ∧ ∀ scope directive session failure,
            (next.dispatch scope directive session).1.result.error = some failure
            → ¬ failure.BlamesArgument := by
  refine ⟨_, register_eq timing ∅, ?_, ?_⟩
  · intro resolved directive name member hit reads
    have named := (looksAtGroups_of_mem member).mem_of_readsArgument reads
    exact ⟨exists_captured member hit named, fun scope args given =>
      give_of_args member hit given name named⟩
  · intro scope directive session failure failed
    unfold DirectiveRegistry.dispatch at failed
    split at failed
    next =>
      cases failed
      simp [Failure.BlamesArgument]
    next resolved resolves =>
      have first := DirectiveRegistry.isFirst_of_resolve? resolves
      have member := List.mem_of_getElem? first.stands
      have looks := looksAtGroups_of_mem member
      split at failed
      next cause unbound =>
        obtain ⟨_, _, _, rfl⟩ := exists_firstUnbound looks.unreserved unbound
        cases failed
        simp [Failure.BlamesArgument]
      next args given => exact looks.blameless (give_of_args member first.hit given) failed

/-- Looking for an element reads the element argument. -/
theorem expectExists_readsArgument : Handler.ReadsArgument expectExists "elem" := by
  refine ⟨∅, (∅ : Args).insert "elem" "#a", ?_, ?_⟩
  · intro other different
    rw [Dict.get?_insert_of_ne _ _ different]
  · intro same
    have endings := congrArg (fun drive => (outcome drive (.launch ∅)).1) same
    revert endings
    decide +kernel

/-- In a session that is closed, to look whether an element is absent has its argument, and fails
for the window.
-/
theorem closed_absence_misses_no_argument
    : ∃ next resolved args failure,
        register (.every 1) ∅ = .ok next
        ∧ next.resolve? "Expect #a to not exist" = some resolved
        ∧ resolved.form.handler.ReadsArgument "elem"
        ∧ (∃ raw, resolved.found.captured? "elem" = some raw)
        ∧ resolved.args {} = .ok args
        ∧ (∃ text, args.get? "elem" = some text)
        ∧ (next.dispatch {} "Expect #a to not exist"
            { Session.launch ∅ with closed := true }).1.result.error
          = some failure
        ∧ ¬ failure.BlamesArgument := by
  obtain ⟨next, registered, present, blameless⟩ := arguments_never_missed (.every 1)
  obtain rfl : DirectiveRegistry.mk (forms (.every 1)) = next :=
    Except.ok.inj ((register_eq (.every 1) ∅).symm.trans registered)
  have carried : (fun done : Dispatched => (done.result.error, done.call))
        ((DirectiveRegistry.mk (forms (.every 1))).dispatch {} "Expect #a to not exist"
          { Session.launch ∅ with closed := true }).1
      = (some (.expectedErrorNotRaised .elementNotFound (some "no such window: session closed")),
        some ⟨28, (∅ : Args).insert "elem" "#a"⟩) := by
    decide +kernel
  obtain ⟨fails, called⟩ := Prod.mk.inj carried
  obtain ⟨resolved, resolves, place, given⟩ := DirectiveRegistry.exists_of_call called
  have first := DirectiveRegistry.isFirst_of_resolve? resolves
  have drafted : (drafts (.every 1))[28]?
      = some ⟨"^Expect (?P<elem>.+) to not exist", expectExists, some .elementNotFound⟩ := rfl
  have reads : resolved.form.handler.ReadsArgument "elem" := by
    obtain ⟨draft, nodes, drafted', _, form⟩ :=
      List.getElem?_zipWith_eq_some.mp (place.symm ▸ first.stands)
    cases drafted.symm.trans drafted'
    rw [← form]
    exact expectExists_readsArgument
  obtain ⟨captured, held⟩ :=
    present resolved _ "elem" (List.mem_of_getElem? first.stands) first.hit reads
  refine ⟨_, resolved, _, _, registered, resolves, reads, captured, given, ?_, fails, ?_⟩
  · exact held {} _ given
  · exact blameless _ _ _ _ fails

end Library

end Rehearsal
