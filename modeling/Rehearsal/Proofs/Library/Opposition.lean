import Rehearsal.Proofs.Browser.Refusal
import Rehearsal.Proofs.Library.Checking
import Rehearsal.Proofs.Library.Counterpart
import Rehearsal.Proofs.Library.Locating

/-! Opposite expectations. Some deny by a handler that expects the contrary of what it sees, others
by expecting the failure of the handler that affirms. Either way exactly one of the two passes where
the page settles the question. Where it does not, both fail and with the same failure, and in a
closed session both fail in any case.
-/

namespace Rehearsal

open Browser Drive DirectiveForm

-----------------------------------------------------------------------------------------
-- Forms that are decided by one fact
-----------------------------------------------------------------------------------------

namespace DirectiveForm

/-- The failure of a form that is carried out with some arguments, unless it passes. -/
def failure? (form : DirectiveForm) (args : Args) (session : Session) : Option Failure :=
  form.judge (outcome (form.handler args) session).1

/-- A form that is carried out with some arguments passes. -/
def Passes (form : DirectiveForm) (args : Args) (session : Session) : Prop :=
  form.failure? args session = none

/-- Exactly one of two forms passes, the first one if a fact holds and the second one if not. Where
the fact is not known, both fail with the same failure.
-/
structure AreOpposed (affirms denies : DirectiveForm) (args : Args) (session : Session)
    (fact? : Option Bool)
    : Prop where
  decided
    : ∀ fact,
        fact? = some fact
        → Xor (affirms.Passes args session) (denies.Passes args session)
          ∧ (affirms.Passes args session ↔ fact = true)
  undecided
    : fact? = none
      → ∃ failure,
          affirms.failure? args session = some failure
          ∧ denies.failure? args session = some failure

section Opposed

variable {form affirms denies : DirectiveForm} {args : Args} {session : Session}

theorem judge_error (plain : form.expected = none) (failure : Failure)
    : form.judge (.error failure) = some failure := by
  simp [judge, plain]

theorem judge_expect_eq_none_iff (plain : form.expected = none) (condition : Bool)
    (complaint : String)
    : form.judge (outcome (Library.expect condition complaint) session).1 = none
      ↔ condition = true := by
  cases condition with
  | false => simp [Library.expect, outcome_fail, judge, plain]
  | true => simp [Library.expect, outcome_pure, judge, plain]

theorem areOpposed_some {fact : Bool} (affirming : affirms.Passes args session ↔ fact = true)
    (denying : denies.Passes args session ↔ fact = false)
    : AreOpposed affirms denies args session (some fact) where
  decided other same := by
    obtain rfl := Option.some.inj same
    refine ⟨?_, affirming⟩
    rw [affirming, denying]
    cases fact <;> simp
  undecided unknown := by cases unknown

/-- Two forms that look at the same and expect contrary things of it. -/
theorem areOpposed_of_contrary {α : Type} {seen : Drive α} {holds fails : α → Bool}
    {complaint complaint' : α → String} (plain : affirms.expected = none)
    (plain' : denies.expected = none) (contrary : ∀ value, fails value = !holds value)
    (affirming
      : outcome (affirms.handler args) session
        = outcome (seen >>= fun value => Library.expect (holds value) (complaint value)) session)
    (denying
      : outcome (denies.handler args) session
        = outcome (seen >>= fun value => Library.expect (fails value) (complaint' value)) session)
    : AreOpposed affirms denies args session ((outcome seen session).1.toOption.map holds) := by
  cases ended : outcome seen session with
  | mk ending after =>
      cases ending with
      | ok value =>
          rw [outcome_bind_of_ok ended] at affirming denying
          refine areOpposed_some ?_ ?_
          · rw [Passes, failure?, affirming, judge_expect_eq_none_iff plain]
          · rw [Passes, failure?, denying, judge_expect_eq_none_iff plain', contrary,
              Bool.not_eq_true']
      | error failure =>
          rw [outcome_bind_of_error ended] at affirming denying
          constructor
          case decided =>
            intro fact known
            cases known
          case undecided =>
            intro _
            refine ⟨failure, ?_, ?_⟩
            · rw [failure?, affirming, judge_error plain]
            · rw [failure?, denying, judge_error plain']

/-- Two forms with one handler, of which the second one expects that an element is missed. -/
theorem areOpposed_of_expected {handler : Handler} {fact : Bool} {selector : String}
    (plain : affirms.expected = none) (expects : denies.expected = some .elementNotFound)
    (handled : affirms.handler = handler) (handled' : denies.handler = handler)
    (ended
      : (outcome (handler args) session).1
        = if fact then .ok none else .error (.elementNotFound selector))
    : AreOpposed affirms denies args session (some fact) := by
  refine areOpposed_some ?_ ?_
  · rw [Passes, failure?, handled, ended]
    cases fact <;> simp [judge, plain]
  · rw [Passes, failure?, handled', ended]
    cases fact <;> simp [judge, expects, Failure.kind]

end Opposed
end DirectiveForm

/-- The element on the page of a session that a locator stands for. -/
def Browser.Session.shown? (session : Session) (locator : Locator) : Option Element :=
  session.page.elements.get? locator.key

namespace Library

-----------------------------------------------------------------------------------------
-- The opposite expectations
-----------------------------------------------------------------------------------------

/-- What opposite expectations are about: whether an element exists, whether a select element has an
option, whether the text of an element contains a regular expression, and whether an element or the
radio button with a value is selected.
-/
inductive Opposition where
  | existence
  | choice
  | content
  | selection
  | radio
deriving DecidableEq

namespace Opposition

/-- The expectation that something is so, or the one that it is not. -/
def draft : Opposition → Bool → Draft
  | existence, true => ⟨"^expect exists (?P<elem>.+)", expectExists, none⟩
  | existence, false => ⟨"^Expect (?P<elem>.+) to not exist", expectExists, some .elementNotFound⟩
  | choice, true =>
      ⟨"^Expect option \"(?P<value>.+?)\" in selector (?P<elem>.+)", expectChoice, none⟩
  | choice, false =>
      ⟨"^Expect option \"(?P<value>.+?)\" not in selector (?P<elem>.+)", expectChoice,
        some .elementNotFound⟩
  | content, true => ⟨"^Expect (?P<elem>.+) contains \"(?P<regexp>.+)\"", expectMatches, none⟩
  | content, false =>
      ⟨"^Expect (?P<elem>.+) does not contain \"(?P<regexp>.+)\"", expectNotMatches, none⟩
  | selection, true => ⟨"^Expect (?P<elem>.+) is selected", expectSelected, none⟩
  | selection, false => ⟨"^Expect (?P<elem>.+) is not selected", expectNotSelected, none⟩
  | radio, true =>
      ⟨"^Expect \"(?P<value>.+?)\" radio should be selected", expectRadioSelected, none⟩
  | radio, false =>
      ⟨"^Expect \"(?P<value>.+?)\" radio should not be selected", expectRadioNotSelected, none⟩

/-- The place of such an expectation among those that look once. -/
def place : Opposition → Bool → Nat
  | existence, affirms => if affirms then 14 else 15
  | choice, affirms => if affirms then 8 else 7
  | content, affirms => if affirms then 19 else 18
  | selection, affirms => if affirms then 21 else 20
  | radio, affirms => if affirms then 10 else 9

theorem expectationDrafts_place (opposition : Opposition) (affirms : Bool)
    : expectationDrafts[opposition.place affirms]? = some (opposition.draft affirms) := by
  cases opposition <;> cases affirms <;> rfl

/-- The names of the arguments that both expectations need, as their patterns capture them. -/
def needs : Opposition → List String
  | existence => ["elem"]
  | choice => ["value", "elem"]
  | content => ["elem", "regexp"]
  | selection => ["elem"]
  | radio => ["value"]

/-- The fact that the two disagree on. Whether an element or an option exists is a fact of every
page; anything else can only be told of an element that is found, and with a regular expression that
can be read.
-/
def fact? (opposition : Opposition) (args : Args) (session : Session) : Option Bool :=
  let target? := (args.get? "elem").bind fun text => session.shown? (.ofText text)
  match opposition with
  | existence => some target?.isSome
  | choice =>
      some (target?.any fun target => target.choices.any fun choice =>
        some choice.value == args.get? "value")
  | content =>
      let pattern? := (args.get? "regexp").bind fun raw => (Pattern.ofText false raw).toOption
      pattern?.bind fun pattern => target?.map fun target => pattern.occursIn target.text
  | selection => target?.map Element.selected
  | radio =>
      ((args.get? "value").bind fun value => session.shown? (.radio value)).map Element.selected

end Opposition

-----------------------------------------------------------------------------------------
-- Looking at an element
-----------------------------------------------------------------------------------------

section Looking

variable {args : Args} {session : Session}

theorem exists_argument_of_contains {name : String} (given : args.contains name = true)
    : ∃ text, args.get? name = some text := by
  rw [Dict.contains_eq_isSome] at given
  exact Option.isSome_iff_exists.mp given

theorem outcome_argument {name text : String} (given : args.get? name = some text)
    (session : Session)
    : outcome (argument args name) session = (.ok text, session) :=
  outcome_argument_eq_ok_iff.mpr ⟨given, rfl⟩

/-- An element is found in an open session where the page has it. -/
theorem outcome_find_of_open (isOpen : session.closed = false) (locator : Locator)
    : outcome (Drive.find locator) session
      = (match session.shown? locator with
          | some _ => .ok locator.key
          | none => .error (.elementNotFound locator.display),
        session) := by
  rw [outcome_find, isOpen, Dict.contains_eq_isSome, Session.shown?]
  cases session.page.elements.get? locator.key <;> rfl

/-- What is read off an element that is looked up, in an open session. -/
theorem outcome_view {α : Type} (isOpen : session.closed = false) (locator : Locator)
    (view : Element → α)
    : outcome (do return view (← Drive.element (← Drive.find locator))) session
      = (match session.shown? locator with
          | some target => .ok (view target)
          | none => .error (.elementNotFound locator.display),
        session) := by
  have looked := outcome_find_of_open isOpen locator
  cases shown : session.shown? locator with
  | none =>
      simp only [shown] at looked
      rw [outcome_bind_of_error looked]
  | some target =>
      simp only [shown] at looked
      have reached : outcome (Drive.element locator.key) session = (.ok target, session) := by
        rw [outcome_element, Session.elementAt_eq_ok_iff.mpr ⟨isOpen, shown⟩]
      rw [outcome_bind_of_ok looked, outcome_bind_of_ok reached]
      rfl

theorem toOption_view {α : Type} (isOpen : session.closed = false) (locator : Locator)
    (view : Element → α)
    : (outcome (do return view (← Drive.element (← Drive.find locator))) session).1.toOption
      = (session.shown? locator).map view := by
  rw [outcome_view isOpen]
  cases session.shown? locator <;> rfl

end Looking

-----------------------------------------------------------------------------------------
-- Opposite expectations in an open session
-----------------------------------------------------------------------------------------

section Opposites

variable {affirms denies : DirectiveForm} {args : Args} {session : Session}
  {text value raw : String}

/-- The handler that both forms about existence have. -/
theorem outcome_expectExists (isOpen : session.closed = false)
    (named : args.get? "elem" = some text)
    : (outcome (expectExists args) session).1
      = if (session.shown? (.ofText text)).isSome then .ok none
        else .error (.elementNotFound (Locator.ofText text).display) := by
  unfold expectExists
  rw [outcome_bind, element_eq_find named, outcome_find_of_open isOpen]
  cases session.shown? (.ofText text) <;> rfl

theorem existence_opposed (affirming : (Opposition.existence.draft true).Describes affirms)
    (denying : (Opposition.existence.draft false).Describes denies)
    (isOpen : session.closed = false) (named : args.get? "elem" = some text)
    : AreOpposed affirms denies args session (Opposition.existence.fact? args session) := by
  have fact : Opposition.existence.fact? args session
      = some (session.shown? (.ofText text)).isSome := by
    simp [Opposition.fact?, named]
  rw [fact]
  exact areOpposed_of_expected affirming.expected denying.expected affirming.handler
    denying.handler (outcome_expectExists isOpen named)

/-- The handler that both forms about an option have. The failure to find the element and the one to
find an option of it are of one kind.
-/
theorem exists_outcome_expectChoice (isOpen : session.closed = false)
    (named : args.get? "elem" = some text) (given : args.get? "value" = some value)
    : ∃ selector,
        (outcome (expectChoice args) session).1
        = if (session.shown? (.ofText text)).any fun target =>
              target.choices.any fun choice => choice.value == value
          then .ok none
          else .error (.elementNotFound selector) := by
  have looked := outcome_view isOpen (.ofText text) Element.choices
  have whole : expectChoice args
      = argument args "value" >>= fun value =>
          (element args >>= Drive.choices) >>= fun choices =>
            if choices.any fun choice => choice.value == value then return none
            else Drive.fail (missingChoice args value) := by
    simp only [bind_assoc]
    rfl
  rw [whole, outcome_bind_of_ok (outcome_argument given session), element_eq_find named]
  -- The element is missed by its locator, and an option of it by what the message says.
  cases shown : session.shown? (.ofText text) with
  | none =>
      simp only [shown] at looked
      exact ⟨_, congrArg Prod.fst (outcome_bind_of_error looked)⟩
  | some target =>
      simp only [shown] at looked
      refine ⟨"option '" ++ value ++ "' in " ++ elementText args, ?_⟩
      refine (congrArg Prod.fst (outcome_bind_of_ok looked)).trans ?_
      rw [Option.any_some]
      split <;> rfl

theorem choice_opposed (affirming : (Opposition.choice.draft true).Describes affirms)
    (denying : (Opposition.choice.draft false).Describes denies)
    (isOpen : session.closed = false) (named : args.get? "elem" = some text)
    (given : args.get? "value" = some value)
    : AreOpposed affirms denies args session (Opposition.choice.fact? args session) := by
  obtain ⟨selector, ended⟩ := exists_outcome_expectChoice isOpen named given
  have fact : Opposition.choice.fact? args session
      = some ((session.shown? (.ofText text)).any fun target =>
          target.choices.any fun choice => choice.value == value) := by
    simp [Opposition.fact?, named, given]
  rw [fact]
  exact areOpposed_of_expected affirming.expected denying.expected affirming.handler
    denying.handler ended

theorem content_opposed (affirming : (Opposition.content.draft true).Describes affirms)
    (denying : (Opposition.content.draft false).Describes denies)
    (isOpen : session.closed = false) (named : args.get? "elem" = some text)
    (given : args.get? "regexp" = some raw)
    : AreOpposed affirms denies args session (Opposition.content.fact? args session) := by
  have opposed := areOpposed_of_contrary affirming.expected denying.expected (fun _ => rfl)
    (congrArg (outcome · session) (congrFun affirming.handler args))
    (congrArg (outcome · session) (congrFun denying.handler args))
  have looked (pattern : Pattern)
      : (outcome (do return (← Drive.text (← element args), pattern)) session).1.toOption
        = (session.shown? (.ofText text)).map fun target => (target.text, pattern) := by
    rw [element_eq_find named, ← toOption_view isOpen]
    simp only [Drive.text, bind_assoc, pure_bind]
  have whole : (outcome (textAndExpression args) session).1.toOption
      = (Pattern.ofText false raw).toOption.bind fun pattern =>
          (session.shown? (.ofText text)).map fun target => (target.text, pattern) := by
    unfold textAndExpression expression
    rw [bind_assoc, outcome_bind_of_ok (outcome_argument given session)]
    cases Pattern.ofText false raw with
    | error error => rfl
    | ok pattern => exact looked pattern
  have fact : Opposition.content.fact? args session
      = (outcome (textAndExpression args) session).1.toOption.map fun seen =>
          seen.2.occursIn seen.1 := by
    rw [whole, Option.map_bind]
    simp [Opposition.fact?, named, given, Function.comp_def]
  exact fact ▸ opposed

/-- Whether an element is selected is expected to be so and to be otherwise. -/
theorem selected_opposed {locator : Locator} {complaint complaint' : String}
    (plain : affirms.expected = none) (plain' : denies.expected = none)
    (isOpen : session.closed = false)
    (affirming
      : outcome (affirms.handler args) session
        = outcome
            ((Drive.find locator >>= Drive.isSelected) >>= fun actual =>
              expect (actual == true) complaint)
            session)
    (denying
      : outcome (denies.handler args) session
        = outcome
            ((Drive.find locator >>= Drive.isSelected) >>= fun actual =>
              expect (actual == false) complaint')
            session)
    : AreOpposed affirms denies args session ((session.shown? locator).map Element.selected) := by
  have contrary (actual : Bool) : (actual == false) = !(actual == true) := by cases actual <;> rfl
  have opposed := areOpposed_of_contrary plain plain' contrary affirming denying
  have looked
      : (outcome (Drive.find locator >>= Drive.isSelected) session).1.toOption
        = (session.shown? locator).map Element.selected :=
    toOption_view isOpen locator Element.selected
  rw [looked, Option.map_map] at opposed
  simpa [Function.comp_def] using opposed

theorem selection_opposed (affirming : (Opposition.selection.draft true).Describes affirms)
    (denying : (Opposition.selection.draft false).Describes denies)
    (isOpen : session.closed = false) (named : args.get? "elem" = some text)
    : AreOpposed affirms denies args session (Opposition.selection.fact? args session) := by
  have whole (selected : Bool)
      : expectSelection selected args
        = (Drive.find (.ofText text) >>= Drive.isSelected) >>= fun actual =>
            expect (actual == selected)
              ("'" ++ elementText args ++ "' is expected to be " ++ stateName selected ++ ".") := by
    rw [← element_eq_find named, bind_assoc]
    rfl
  have fact : Opposition.selection.fact? args session
      = (session.shown? (.ofText text)).map Element.selected := by
    simp [Opposition.fact?, named]
  rw [fact]
  exact selected_opposed affirming.expected denying.expected isOpen
    (congrArg (outcome · session) ((congrFun affirming.handler args).trans (whole true)))
    (congrArg (outcome · session) ((congrFun denying.handler args).trans (whole false)))

theorem radio_opposed (affirming : (Opposition.radio.draft true).Describes affirms)
    (denying : (Opposition.radio.draft false).Describes denies)
    (isOpen : session.closed = false) (given : args.get? "value" = some value)
    : AreOpposed affirms denies args session (Opposition.radio.fact? args session) := by
  have whole (selected : Bool)
      : outcome (expectRadio selected args) session
        = outcome
            ((Drive.find (.radio value) >>= Drive.isSelected) >>= fun actual =>
              expect (actual == selected)
                ("Radio '" ++ value ++ "' is expected to be " ++ stateName selected ++ "."))
            session := by
    rw [bind_assoc]
    exact outcome_bind_of_ok (outcome_argument given session)
  have fact : Opposition.radio.fact? args session
      = (session.shown? (.radio value)).map Element.selected := by
    simp [Opposition.fact?, given]
  rw [fact]
  exact selected_opposed affirming.expected denying.expected isOpen
    ((congrArg (outcome · session) (congrFun affirming.handler args)).trans (whole true))
    ((congrArg (outcome · session) (congrFun denying.handler args)).trans (whole false))

/-- In an open session every pair of opposite expectations is decided by its fact. -/
theorem opposed_of_open (opposition : Opposition)
    (affirming : (opposition.draft true).Describes affirms)
    (denying : (opposition.draft false).Describes denies) (isOpen : session.closed = false)
    (given : ∀ name ∈ opposition.needs, args.contains name = true)
    : AreOpposed affirms denies args session (opposition.fact? args session) := by
  have need {name} (member : name ∈ opposition.needs) : ∃ text, args.get? name = some text :=
    exists_argument_of_contains (given name member)
  cases opposition with
  | existence =>
      obtain ⟨text, named⟩ : ∃ text, args.get? "elem" = some text := need (by decide)
      exact existence_opposed affirming denying isOpen named
  | choice =>
      obtain ⟨text, named⟩ : ∃ text, args.get? "elem" = some text := need (by decide)
      obtain ⟨value, given⟩ : ∃ value, args.get? "value" = some value := need (by decide)
      exact choice_opposed affirming denying isOpen named given
  | content =>
      obtain ⟨text, named⟩ : ∃ text, args.get? "elem" = some text := need (by decide)
      obtain ⟨raw, given⟩ : ∃ raw, args.get? "regexp" = some raw := need (by decide)
      exact content_opposed affirming denying isOpen named given
  | selection =>
      obtain ⟨text, named⟩ : ∃ text, args.get? "elem" = some text := need (by decide)
      exact selection_opposed affirming denying isOpen named
  | radio =>
      obtain ⟨value, given⟩ : ∃ value, args.get? "value" = some value := need (by decide)
      exact radio_opposed affirming denying isOpen given

end Opposites

-----------------------------------------------------------------------------------------
-- Closed sessions
-----------------------------------------------------------------------------------------

/-- In a closed session an operation fails, and not for want of an element. -/
def IsRefused {α : Type} (drive : Drive α) : Prop :=
  ∀ session : Session,
    session.closed = true
    → ∃ failure, (outcome drive session).1 = .error failure ∧ failure.kind ≠ .elementNotFound

section Refused

variable {α β : Type} {args : Args}

theorem IsRefused.bind {drive : Drive α} (refused : IsRefused drive) (next : α → Drive β)
    : IsRefused (drive >>= next) := by
  intro session closed
  obtain ⟨failure, ended, kind⟩ := refused session closed
  refine ⟨failure, ?_, kind⟩
  have whole : outcome drive session = (.error failure, (outcome drive session).2) :=
    Prod.ext ended rfl
  rw [outcome_bind_of_error whole]

/-- An argument is missed or does not matter. -/
theorem isRefused_of_argument (name : String) {next : String → Drive α}
    (rest : ∀ text, IsRefused (next text))
    : IsRefused (argument args name >>= next) := by
  intro session closed
  cases given : args.get? name with
  | none =>
      unfold argument
      rw [given]
      exact ⟨_, rfl, by simp [Failure.kind]⟩
  | some text =>
      rw [outcome_bind_of_ok (outcome_argument given session)]
      exact rest text session closed

theorem isRefused_find (locator : Locator) : IsRefused (Drive.find locator) := by
  intro session closed
  exact ⟨_, needsWindow_opened.bind _ session closed, by simp [Failure.kind]⟩

theorem isRefused_element : IsRefused (element args) :=
  isRefused_of_argument "elem" fun _ => isRefused_find _

/-- A regular expression is not read, or it does not matter. -/
theorem isRefused_textAndExpression : IsRefused (textAndExpression args) := by
  unfold textAndExpression expression
  rw [bind_assoc]
  refine isRefused_of_argument "regexp" fun raw => ?_
  cases Pattern.ofText false raw with
  | error error =>
      intro session _
      exact ⟨_, rfl, by simp [Failure.kind]⟩
  | ok pattern => exact isRefused_element.bind _

/-- A closed session refuses all of the expectations. -/
theorem isRefused_draft (opposition : Opposition) (affirms : Bool) (args : Args)
    : IsRefused ((opposition.draft affirms).handler args) := by
  cases opposition <;> cases affirms
  case existence.true | existence.false => exact isRefused_element.bind _
  case choice.true | choice.false =>
    exact isRefused_of_argument "value" fun _ => isRefused_element.bind _
  case content.true | content.false => exact isRefused_textAndExpression.bind _
  case selection.true | selection.false => exact isRefused_element.bind _
  case radio.true | radio.false =>
    exact isRefused_of_argument "value" fun _ => (isRefused_find _).bind _

end Refused

/-- The expectations do not change the session. -/
theorem reads_draft (opposition : Opposition) (affirms : Bool) (args : Args)
    : Reads ((opposition.draft affirms).handler args) := by
  cases opposition <;> cases affirms
  case existence.true | existence.false => exact reads_expectExists
  case choice.true | choice.false => exact reads_expectChoice
  case content.true => exact reads_expectMatches
  case content.false => exact reads_expectNotMatches
  case selection.true => exact reads_expectSelection true
  case selection.false => exact reads_expectSelection false
  case radio.true => exact reads_expectRadio true
  case radio.false => exact reads_expectRadio false

/-- A form passes over a failure only if it expects it. -/
theorem not_passes_of_closed {opposition : Opposition} {affirms : Bool} {form : DirectiveForm}
    {args : Args} {session : Session} (describes : (opposition.draft affirms).Describes form)
    (closed : session.closed = true)
    : ¬form.Passes args session := by
  obtain ⟨failure, ended, kind⟩ := isRefused_draft opposition affirms args session closed
  have expected : form.expected = none ∨ form.expected = some .elementNotFound := by
    rw [describes.expected]
    cases opposition <;> cases affirms <;> decide
  rw [Passes, failure?, describes.handler, ended]
  rcases expected with plain | expects
  · simp [judge, plain]
  · simp [judge, expects, kind]

-----------------------------------------------------------------------------------------
-- The registered forms
-----------------------------------------------------------------------------------------

/-- The check for absence, which a form with a time limit repeats, passes where the form that denies
existence does.
-/
theorem expectAbsent_passes_iff_denies {affirms denies : DirectiveForm} {args : Args}
    {session : Session} (affirming : (Opposition.existence.draft true).Describes affirms)
    (denying : (Opposition.existence.draft false).Describes denies)
    : (expectAbsent args).on session = (.ok none, session) ↔ denies.Passes args session := by
  have plain : affirms.expected = none := affirming.expected
  have looks : denies.Passes args session
      ↔ denies.judge (outcome (expectExists args) session).1 = none := by
    rw [Passes, failure?, denying.handler]
    rfl
  rw [looks, ← expectAbsent_passes_iff plain denying.expected]
  have silent : IsSilent (expectAbsent args) :=
    silent_pollingDrafts (List.mem_of_getElem? (show pollingDrafts[6]? = some _ from rfl)) args
  have still : (outcome (expectAbsent args) session).2 = session := reads_expectAbsent session
  constructor
  · intro passes
    rw [show outcome (expectAbsent args) session = _ from passes]
    simp [judge, plain]
  · intro passes
    cases ended : (outcome (expectAbsent args) session).1 with
    | error failure =>
        rw [ended, judge_error plain] at passes
        cases passes
    | ok answer =>
        obtain rfl := silent session answer ended
        exact Prod.ext ended still

/-- Among the forms behind a place of a registry, two are a pair of opposite expectations. -/
structure StandOpposite (registry : DirectiveRegistry) (start : Nat) (opposition : Opposition)
    (affirms denies : DirectiveForm)
    : Prop where
  stands : registry.forms[start + (pollingDrafts.length + opposition.place true)]? = some affirms
  affirming : (opposition.draft true).Describes affirms
  captures : affirms.pattern.groupNames = opposition.needs
  stands' : registry.forms[start + (pollingDrafts.length + opposition.place false)]? = some denies
  denying : (opposition.draft false).Describes denies
  captures' : denies.pattern.groupNames = opposition.needs

/-- The nodes of the expectations capture the arguments that they need. -/
theorem exists_nodes (opposition : Opposition) (affirms : Bool)
    : ∃ nodes,
        formNodes[pollingDrafts.length + opposition.place affirms]? = some nodes
        ∧ nodes.flatMap Pattern.Node.captureNames = opposition.needs := by
  cases opposition <;> cases affirms <;> exact ⟨_, rfl, by decide +kernel⟩

/-- The expectations have their forms behind those of the registry. -/
theorem exists_form_of_draft (timing : Timing) (registry : DirectiveRegistry)
    (opposition : Opposition) (affirms : Bool)
    : ∃ form,
        (registry.forms ++ forms timing)[registry.size
            + (pollingDrafts.length + opposition.place affirms)]?
          = some form
        ∧ (opposition.draft affirms).Describes form
        ∧ form.pattern.groupNames = opposition.needs := by
  have drafted := drafts_expectation (opposition.expectationDrafts_place affirms) timing
  obtain ⟨nodes, read, captures⟩ := exists_nodes opposition affirms
  exact ⟨_, (getElem?_behind _ _ _).trans (forms_getElem? drafted read), Draft.describes_form _ _,
    captures⟩

/-- The opposite expectations never both pass, and in an open session exactly one does where the
fact on which they disagree is known. Otherwise both fail, in an open session with the same failure.
Neither changes the session.
-/
theorem opposite_expectations_exclude (timing : Timing) (registry : DirectiveRegistry)
    : ∃ next,
        register timing registry = .ok next
        ∧ ∀ opposition, ∃ affirms denies,
            StandOpposite next registry.size opposition affirms denies
            ∧ ∀ args session,
                ((affirms.handler args).on session).2 = session
                ∧ ((denies.handler args).on session).2 = session
                ∧ (session.closed = true
                  → ¬affirms.Passes args session ∧ ¬denies.Passes args session)
                ∧ (session.closed = false
                  → (∀ name ∈ opposition.needs, args.contains name = true)
                  → AreOpposed affirms denies args session (opposition.fact? args session))
                ∧ (opposition = .existence
                  → ((expectAbsent args).on session = (.ok none, session)
                    ↔ denies.Passes args session)) := by
  refine ⟨_, register_eq timing registry, ?_⟩
  intro opposition
  obtain ⟨affirms, stands, affirming, captures⟩ :=
    exists_form_of_draft timing registry opposition true
  obtain ⟨denies, stands', denying, captures'⟩ :=
    exists_form_of_draft timing registry opposition false
  refine ⟨affirms, denies, ⟨stands, affirming, captures, stands', denying, captures'⟩, ?_⟩
  intro args session
  refine ⟨?still, ?still', ?closed, opposed_of_open opposition affirming denying, ?absent⟩
  case still =>
    rw [affirming.handler]
    exact reads_draft opposition true args session
  case still' =>
    rw [denying.handler]
    exact reads_draft opposition false args session
  case closed =>
    intro closed
    exact ⟨not_passes_of_closed affirming closed, not_passes_of_closed denying closed⟩
  case absent =>
    rintro rfl
    exact expectAbsent_passes_iff_denies affirming denying

/-- The arguments of a directive about the text of an element. -/
def contentArgs (element expression : String) : Args :=
  ((∅ : Args).insert "elem" element).insert "regexp" expression

/-- The text of the element matches, so it is affirmed. A regular expression without its closing
bracket makes both fail alike.
-/
theorem note_opposed
    : ∃ next affirms denies,
        register (.every 1) ∅ = .ok next
        ∧ StandOpposite next 0 .content affirms denies
        ∧ affirms.Passes (contentArgs "#note" "^N.te") mixedShown
        ∧ ¬denies.Passes (contentArgs "#note" "^N.te") mixedShown
        ∧ ∃ failure,
            affirms.failure? (contentArgs "#note" "(N") mixedShown = some failure
            ∧ denies.failure? (contentArgs "#note" "(N") mixedShown = some failure := by
  obtain ⟨next, registered, opposite⟩ := opposite_expectations_exclude (.every 1) ∅
  obtain ⟨affirms, denies, stand, settle⟩ := opposite .content
  have isOpen : mixedShown.closed = false := rfl
  have given : ∀ name ∈ Opposition.content.needs,
      (contentArgs "#note" "^N.te").contains name = true := by
    decide +kernel
  have given' : ∀ name ∈ Opposition.content.needs,
      (contentArgs "#note" "(N").contains name = true := by
    decide +kernel
  have known : Opposition.content.fact? (contentArgs "#note" "^N.te") mixedShown = some true := by
    decide +kernel
  have unknown : Opposition.content.fact? (contentArgs "#note" "(N") mixedShown = none := by
    decide +kernel
  obtain ⟨_, _, _, opposed, _⟩ := settle (contentArgs "#note" "^N.te") mixedShown
  obtain ⟨_, _, _, opposed', _⟩ := settle (contentArgs "#note" "(N") mixedShown
  obtain ⟨exactlyOne, affirmed⟩ := (opposed isOpen given).decided true known
  have passes := affirmed.mpr rfl
  have alike := (opposed' isOpen given').undecided unknown
  refine ⟨next, affirms, denies, registered, stand, passes, ?_, alike⟩
  rcases exactlyOne with ⟨_, fails⟩ | ⟨_, fails⟩
  · exact fails
  · exact absurd passes fails

end Library
end Rehearsal
