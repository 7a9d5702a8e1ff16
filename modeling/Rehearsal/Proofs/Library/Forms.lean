import Rehearsal.Library
import Rehearsal.Proofs.Pattern.Sequence

/-! What the built-in forms are read as, and the registry that holds them. -/

namespace Rehearsal

open Pattern

-----------------------------------------------------------------------------------------
-- Patterns that are anchored at the start
-----------------------------------------------------------------------------------------

/-- The names of the captures in a node, in the order of their opening brackets. -/
def Pattern.Node.captureNames : Node → List String
  | .empty | .chars _ | .look _ => []
  | .capture name body => name :: body.captureNames
  | .seq first second | .alt first second => first.captureNames ++ second.captureNames
  | .plus body _ => body.captureNames

/-- The pattern that reads several nodes from the start of a text. -/
def Pattern.ofNodes (source : String) (nodes : List Node) : Pattern where
  source
  node := .anchored nodes
  groupNames := nodes.flatMap Node.captureNames

/-- A pattern that does not lead on from the start of a text does not occur in it. -/
theorem Pattern.search_ofNodes_eq_none {source text : String} {nodes : List Node}
    (stuck : ∀ stop, ¬ Chain nodes (.start text.toList) stop)
    : (Pattern.ofNodes source nodes).search text = none := by
  unfold Pattern.search
  cases hit : (Pattern.ofNodes source nodes).node.search text.toList with
  | none => rfl
  | some found => exact absurd (chain_of_search hit) (stuck found)

/-- A pattern that leads on from the start of a text occurs in it. -/
theorem Pattern.exists_search_ofNodes {source text : String} {nodes : List Node}
    {stop : Thread} (chain : Chain nodes (.start text.toList) stop)
    (flat : ∀ node ∈ nodes, node.IsFlat = true)
    : ∃ found,
        (Pattern.ofNodes source nodes).search text = some (.ofThread text.toList found)
        ∧ Chain nodes (.start text.toList) found := by
  obtain ⟨found, hit⟩ := exists_search_of_chain chain flat
  refine ⟨found, ?_, chain_of_search hit⟩
  change ((Node.anchored nodes).search text.toList).map _ = _
  rw [hit, Option.map_some]

/-- A written pattern that disregards letter case is read as several nodes from the start. -/
def Pattern.ReadAs (source : String) (nodes : List Node) : Prop :=
  Pattern.ofText true source = .ok (.ofNodes source nodes)

/-- How a pattern is read is settled by its characters. -/
theorem Pattern.ofText_of_chars {source : String} {node : Node} {names : List String}
    (chars : List Char) (same : source.toList = chars)
    (reads
      : (do
          let (expr, names) ← (Reader.read chars).toOption
          let built ← (build { caseless := true } expr).toOption
          return (built.node, names))
        = some (node, names))
    : Pattern.ofText true source = .ok ⟨source, node, names⟩ := by
  unfold Pattern.ofText
  rw [same]
  cases read : Reader.read chars with
  | error error => simp [read, Except.toOption] at reads
  | ok found =>
      obtain ⟨expr, names⟩ := found
      cases built : build { caseless := true } expr with
      | error error => simp [read, built, Except.toOption] at reads
      | ok result =>
          simp only [read, built, Except.toOption, Option.pure_def, Option.bind_eq_bind,
            Option.bind_some, Option.some.injEq, Prod.mk.injEq] at reads
          obtain ⟨node, rfl⟩ := reads
          change (do
            let built ← build { caseless := true } expr
            pure { source, node := built.node, groupNames := _ })
            = Except.ok (Pattern.mk source _ _)
          rw [built]
          exact congrArg (fun node => Except.ok (Pattern.mk source node _)) node

/-- So is whether it is read as several nodes from the start. -/
theorem Pattern.readAs_of_chars {source : String} {nodes : List Node} (chars : List Char)
    (same : source.toList = chars)
    (reads
      : (do
          let (expr, names) ← (Reader.read chars).toOption
          let built ← (build { caseless := true } expr).toOption
          return (built.node, names))
        = some (Node.anchored nodes, nodes.flatMap Node.captureNames))
    : ReadAs source nodes :=
  ofText_of_chars chars same reads

namespace Library

-----------------------------------------------------------------------------------------
-- The nodes of the built-in forms
-----------------------------------------------------------------------------------------

/-- A captured number of seconds. -/
def secondsNode : Node :=
  let digits : Node := .plus (.chars Text.Property.decimalDigits) true
  .capture "seconds" (.seq digits (.opt (.concat (letters "." ++ [digits])) true))

/-- The nodes of the time limit at the end of the forms that poll. -/
def limitNodes : List Node :=
  letters " within " ++ [secondsNode] ++ letters " second" ++ [.opt (.concat (letters "s")) true]

/-- The nodes of the checks that can be repeated, without the time limit. -/
def pollingNodes : List (List Node) :=
  [letters "Expect Page Title is \"" ++ [run "title" true] ++ letters "\"",
    letters "Expect url to be \"" ++ [run "url" true] ++ letters "\"",
    letters "Expect url to contain \"" ++ [run "url" true] ++ letters "\"",
    letters "Expect an alert with text \"" ++ [run "text" true] ++ letters "\"",
    letters "expect to see content " ++ [run "content" false],
    letters "expect exists " ++ [run "elem" false],
    letters "Expect " ++ [run "elem" false] ++ letters " to not exist",
    letters "Expect " ++ [run "elem" false] ++ letters " to have a value equal to \""
      ++ [anyRun "value" true] ++ letters "\"",
    letters "Expect " ++ [run "elem" false] ++ letters " to contain a value of \""
      ++ [run "regexp" true] ++ letters "\"",
    letters "Expect " ++ [run "elem" false] ++ letters " does not contain \""
      ++ [run "regexp" true] ++ letters "\"",
    letters "Expect " ++ [run "elem" false] ++ letters " contains \""
      ++ [run "regexp" true] ++ letters "\"",
    letters "Expect " ++ [run "elem" false] ++ letters " is not selected",
    letters "Expect " ++ [run "elem" false] ++ letters " is selected"]

/-- The nodes of the expectations that look once. -/
def expectationNodes : List (List Node) :=
  [letters "Expect Page Title is \"" ++ [run "title" true] ++ letters "\"",
    letters "Expect url to be \"" ++ [run "url" true] ++ letters "\"",
    letters "Expect url to contain \"" ++ [run "url" true] ++ letters "\"",
    letters "Expect an alert with text \"" ++ [run "text" true] ++ letters "\"",
    letters "Expect no alert displayed",
    letters "Expect link with url \"" ++ [run "url" false] ++ letters "\" that contains text \""
      ++ [run "text" true] ++ letters "\"",
    letters "Expect link with url \"" ++ [run "url" true] ++ letters "\"",
    letters "Expect option \"" ++ [run "value" false] ++ letters "\" not in selector "
      ++ [run "elem" true],
    letters "Expect option \"" ++ [run "value" false] ++ letters "\" in selector "
      ++ [run "elem" true],
    letters "Expect \"" ++ [run "value" false] ++ letters "\" radio should not be selected",
    letters "Expect \"" ++ [run "value" false] ++ letters "\" radio should be selected",
    letters "expect \"" ++ [anyRun "value" false] ++ letters "\" from " ++ [run "elem" true]
      ++ letters " should be selected",
    letters "expect [" ++ [run "list" true] ++ letters "] from " ++ [run "elem" true]
      ++ letters " should be selected",
    letters "expect to see content " ++ [run "content" true],
    letters "expect exists " ++ [run "elem" true],
    letters "Expect " ++ [run "elem" true] ++ letters " to not exist",
    letters "Expect " ++ [run "elem" true] ++ letters " to have a value equal to \""
      ++ [anyRun "value" true] ++ letters "\"",
    letters "Expect " ++ [run "elem" true] ++ letters " to contain a value of \""
      ++ [run "regexp" true] ++ letters "\"",
    letters "Expect " ++ [run "elem" true] ++ letters " does not contain \""
      ++ [run "regexp" true] ++ letters "\"",
    letters "Expect " ++ [run "elem" true] ++ letters " contains \""
      ++ [run "regexp" true] ++ letters "\"",
    letters "Expect " ++ [run "elem" true] ++ letters " is not selected",
    letters "Expect " ++ [run "elem" true] ++ letters " is selected"]

/-- A captured text that is to be typed: quoted, in brackets, or without white space. -/
def keysNode : Node :=
  let line : Node := .chars lineChars
  .capture "keys"
    (.alt (.concat (letters "\"" ++ [line.star true] ++ letters "\""))
      (.alt (.concat (letters "'" ++ [line.star true] ++ letters "'"))
        (.alt (.concat (letters "[" ++ [.plus line false] ++ letters "]"))
          (.plus (.chars Text.blanks.complement) true))))

/-- The nodes of the actions. -/
def actionNodes : List (List Node) :=
  [letters "Accept the alert",
    letters "Dismiss the alert",
    letters "load " ++ [run "url" true],
    letters "type " ++ [keysNode] ++ letters " into " ++ [run "elem" true],
    letters "Follow link " ++ [run "elem" true],
    letters "Select [" ++ [run "list" true] ++ letters "] from " ++ [run "elem" true],
    letters "Select \"" ++ [anyRun "value" false] ++ letters "\" from " ++ [run "elem" true],
    letters "Choose radio with value \"" ++ [run "value" true] ++ letters "\"",
    letters "Uncheck " ++ [run "elem" true],
    letters "Check " ++ [run "elem" true],
    [.alt (.concat (letters "click")) (.concat (letters "press"))] ++ letters " "
      ++ [run "elem" true],
    letters "Wait " ++ [secondsNode] ++ letters " second" ++ [.opt (.concat (letters "s")) true]]

/-- The nodes of all built-in forms, in the order of their priority. -/
def formNodes : List (List Node) :=
  pollingNodes.map (fun nodes => nodes ++ limitNodes ++ [.look .textEnd]) ++ expectationNodes
    ++ actionNodes

/-- With a time limit, too, how a pattern is read is settled by its characters. -/
theorem readAs_of_chars_within {source : String} {nodes : List Node} (chars : List Char)
    (same : source.toList = chars)
    (reads
      : (do
          let (expr, names) ← (Reader.read (chars ++ limitSource.toList ++ ['$'])).toOption
          let built ← (build { caseless := true } expr).toOption
          return (built.node, names))
        = some (Node.anchored nodes, nodes.flatMap Node.captureNames))
    : ReadAs (source ++ limitSource ++ "$") nodes := by
  refine readAs_of_chars _ ?_ reads
  rw [String.toList_append, String.toList_append, same]
  rfl

theorem pollingDrafts_readAs
    : List.Forall₂
        (fun (draft : Draft) nodes =>
          ReadAs (draft.source ++ limitSource ++ "$") (nodes ++ limitNodes ++ [.look .textEnd]))
        pollingDrafts pollingNodes := by
  unfold pollingDrafts pollingNodes
  repeat' apply List.Forall₂.cons
  all_goals first
    | exact .nil
    | (refine readAs_of_chars_within _ String.toList_ofList ?_
       rw [limitSource, String.toList_ofList]
       decide +kernel)

theorem expectationDrafts_readAs
    : List.Forall₂ (fun (draft : Draft) nodes => ReadAs draft.source nodes) expectationDrafts
        expectationNodes := by
  unfold expectationDrafts expectationNodes
  repeat' apply List.Forall₂.cons
  all_goals first
    | exact .nil
    | (refine readAs_of_chars _ String.toList_ofList ?_
       decide +kernel)

theorem actionDrafts_readAs
    : List.Forall₂ (fun (draft : Draft) nodes => ReadAs draft.source nodes) actionDrafts
        actionNodes := by
  unfold actionDrafts actionNodes
  repeat' apply List.Forall₂.cons
  all_goals first
    | exact .nil
    | (refine readAs_of_chars _ String.toList_ofList ?_
       decide +kernel)

/-- All built-in forms are read as their nodes. -/
theorem drafts_readAs (timing : Timing)
    : List.Forall₂ (fun (draft : Draft) nodes => ReadAs draft.source nodes) (drafts timing)
        formNodes := by
  have polling : List.Forall₂ (fun (draft : Draft) nodes => ReadAs draft.source nodes)
      (pollingDrafts.map (Draft.within timing))
      (pollingNodes.map fun nodes => nodes ++ limitNodes ++ [.look .textEnd]) :=
    List.forall₂_map_left_iff.mpr (List.forall₂_map_right_iff.mpr pollingDrafts_readAs)
  exact List.rel_append (List.rel_append polling expectationDrafts_readAs) actionDrafts_readAs

/-- No built-in form uses the reserved name. -/
theorem formNodes_unreserved
    : ∀ nodes ∈ formNodes,
        (nodes.flatMap Node.captureNames).contains DirectiveForm.reservedName = false := by
  decide +kernel

-----------------------------------------------------------------------------------------
-- The registry of the built-in forms
-----------------------------------------------------------------------------------------

/-- The form of a draft that is read as some nodes. -/
def Draft.form (draft : Draft) (nodes : List Node) : DirectiveForm where
  pattern := .ofNodes draft.source nodes
  handler := draft.handler
  expected := draft.expected

/-- A form has the pattern and the handler of a draft and is meant to end as the draft says. -/
structure Draft.Describes (draft : Draft) (form : DirectiveForm) : Prop where
  source : form.pattern.source = draft.source
  handler : form.handler = draft.handler
  expected : form.expected = draft.expected

theorem Draft.describes_form (draft : Draft) (nodes : List Node)
    : draft.Describes (draft.form nodes) :=
  ⟨rfl, rfl, rfl⟩

/-- The built-in forms, in the order of their priority. -/
def forms (timing : Timing) : List DirectiveForm :=
  List.zipWith Draft.form (drafts timing) formNodes

theorem forms_getElem? {timing : Timing} {place : Nat} {draft : Draft} {nodes : List Node}
    (drafted : (drafts timing)[place]? = some draft) (read : formNodes[place]? = some nodes)
    : (forms timing)[place]? = some (draft.form nodes) :=
  List.getElem?_zipWith_eq_some.mpr ⟨draft, nodes, drafted, read, rfl⟩

/-- A draft without a group under the reserved name is accepted. -/
theorem ofText_of_readAs {draft : Draft} {nodes : List Node}
    (read : ReadAs draft.source nodes)
    (unreserved
      : (nodes.flatMap Node.captureNames).contains DirectiveForm.reservedName = false)
    : DirectiveForm.ofText draft.source draft.expected draft.handler = .ok (draft.form nodes) := by
  unfold DirectiveForm.ofText
  rw [show Pattern.ofText true draft.source = .ok (.ofNodes draft.source nodes) from read]
  exact if_neg (by simpa [ofNodes] using unreserved)

/-- A draft with a group under the reserved name is refused. -/
theorem ofText_of_reserved {draft : Draft} {nodes : List Node} (read : ReadAs draft.source nodes)
    (reserved : (nodes.flatMap Node.captureNames).contains DirectiveForm.reservedName = true)
    : DirectiveForm.ofText draft.source draft.expected draft.handler
      = .error (.reserved draft.source) := by
  unfold DirectiveForm.ofText
  rw [show Pattern.ofText true draft.source = .ok (.ofNodes draft.source nodes) from read]
  exact if_pos (by simpa [ofNodes] using reserved)

/-- Registering drafts adds their forms, by induction on the drafts. -/
theorem foldlM_register {drafts : List Draft} {nodes : List (List Node)}
    (readAs : List.Forall₂ (fun (draft : Draft) nodes => ReadAs draft.source nodes) drafts nodes)
    (unreserved
      : ∀ parts ∈ nodes,
          (parts.flatMap Node.captureNames).contains DirectiveForm.reservedName = false)
    (registry : DirectiveRegistry)
    : drafts.foldlM
        (fun registry draft => registry.register draft.source draft.expected draft.handler) registry
      = .ok ⟨registry.forms ++ List.zipWith Draft.form drafts nodes⟩ := by
  induction readAs generalizing registry with
  | nil => simp [pure, Except.pure]
  | @cons draft nodes drafts others read _ ih =>
      obtain ⟨free, rest⟩ := List.forall_mem_cons.mp unreserved
      have added : registry.register draft.source draft.expected draft.handler
          = .ok (registry.add (draft.form nodes)) := by
        unfold DirectiveRegistry.register
        rw [ofText_of_readAs read free]
        rfl
      rw [List.foldlM_cons, added]
      refine (ih rest (registry.add (draft.form nodes))).trans ?_
      simp [DirectiveRegistry.add]

/-- The built-in forms are all accepted, after the forms that are there. -/
theorem register_eq (timing : Timing) (registry : DirectiveRegistry)
    : register timing registry = .ok ⟨registry.forms ++ forms timing⟩ :=
  foldlM_register (drafts_readAs timing) formNodes_unreserved registry

/-- A text that a form with a time limit reads ends in the last letter of the word for seconds or
for a second.
-/
theorem last_of_chain_limit {nodes : List Node} {start stop : Thread}
    (chain : Chain (nodes ++ limitNodes ++ [.look .textEnd]) start stop)
    : ∃ read c,
        start.after = read ++ [c] ∧ (Text.SameLetter 'd' c ∨ Text.SameLetter 's' c) := by
  have ending : nodes ++ limitNodes ++ [.look .textEnd]
      = (nodes ++ letters " within " ++ [secondsNode] ++ letters " secon")
        ++ (lettersOf ['d'] ++ [.opt (.concat (lettersOf ['s'])) true, .look .textEnd]) := by
    have word : letters " second" = letters " secon" ++ lettersOf ['d'] := by decide +kernel
    have plural : letters "s" = lettersOf ['s'] := by decide +kernel
    simp [limitNodes, word, plural]
  rw [ending] at chain
  obtain ⟨second, before, tail⟩ := chain_append.mp chain
  obtain ⟨_, last, tail⟩ := chain_append.mp tail
  obtain ⟨plural, maybe, stops⟩ := chain_cons.mp tail
  obtain ⟨read, same, ⟨rest, next⟩, rfl⟩ := chain_letters.mp last
  obtain ⟨c, _, isD, empty, rfl⟩ := List.forall₂_cons_left_iff.mp same
  cases List.forall₂_nil_left_iff.mp empty
  have done : plural.after = [] := by
    obtain ⟨_, look, _⟩ := chain_cons.mp stops
    cases look with
    | look holds => simpa [Look.holds] using holds
  obtain ⟨front, after, _⟩ := before.precedes
  rw [← next, List.singleton_append] at after
  have here : (second.move [c]).after = rest := Thread.move_after next.symm
  rcases leads_opt.mp maybe with more | rfl
  · obtain ⟨read, same, ⟨rest', next'⟩, rfl⟩ := chain_letters.mp (leads_concat.mp more)
    obtain ⟨d, _, isS, empty, rfl⟩ := List.forall₂_cons_left_iff.mp same
    cases List.forall₂_nil_left_iff.mp empty
    have last' : rest' = [] := (Thread.move_after next'.symm).symm.trans done
    rw [here, last', List.append_nil] at next'
    exact ⟨front ++ [c], d, by rw [after, ← next', List.append_assoc, List.singleton_append],
      .inr isS⟩
  · rw [here] at done
    exact ⟨front, c, by rw [after, done], .inl isD⟩

/-- So it does not read one that ends in a quotation mark. -/
theorem not_chain_limit_of_quote {nodes : List Node} {start stop : Thread} {before : List Char}
    (ends : start.after = before ++ ['"'])
    : ¬ Chain (nodes ++ limitNodes ++ [.look .textEnd]) start stop := by
  intro chain
  obtain ⟨read, c, ends', letter⟩ := last_of_chain_limit chain
  cases (List.append_inj' (ends.symm.trans ends') rfl).2
  revert letter
  decide

end Library

end Rehearsal
