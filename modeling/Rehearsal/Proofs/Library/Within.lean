import Rehearsal.Proofs.Library.Reading

/-! What the forms of an expectation find in a directive with a time limit and in the directive
without it. A text between words is the same in both. Of an element that is compared with a quoted
text that is so only if the directive can be read in one way.
-/

namespace Rehearsal

open Pattern Text

namespace Library

-----------------------------------------------------------------------------------------
-- What the patterns find
-----------------------------------------------------------------------------------------

/-- The texts of a reading by name, latest first. -/
def Shape.captures (shape : Shape) (first : List Char) (others : List (String × List Char))
    : List (String × String) :=
  (others.reverse ++ [(shape.name, first)]).map fun group => (group.1, String.ofList group.2)

/-- A directive with a time limit. -/
def withLimit (directive numeral : String) : String :=
  directive ++ " within " ++ numeral ++ " seconds"

theorem isLimit_withLimit {numeral : String} (number : IsNumeral numeral.toList)
    : IsLimit (" within ".toList ++ (numeral.toList ++ (" second".toList ++ "s".toList)))
        numeral.toList :=
  ⟨number, _, _, _, rfl, .refl _, .refl _, .inr (.refl _)⟩

theorem withLimit_toList (directive numeral : String)
    : (withLimit directive numeral).toList
      = directive.toList
        ++ (" within ".toList ++ (numeral.toList ++ (" second".toList ++ "s".toList))) := by
  have seconds : " seconds".toList = " second".toList ++ "s".toList := by decide
  simp only [withLimit, String.toList_append, seconds, List.append_assoc]

end Library

/-- A pattern matches a text as a whole, from its start to its end. -/
def Pattern.MatchesWhole (pattern : Pattern) (text : String) : Prop :=
  ∃ stop ∈ pattern.node.ends (.start text.toList), stop.after = []

instance (pattern : Pattern) (text : String) : Decidable (pattern.MatchesWhole text) :=
  inferInstanceAs (Decidable (∃ stop ∈ pattern.node.ends (.start text.toList), stop.after = []))

/-- Two matches of a pattern's groups hold the same texts. -/
def Pattern.CapturesAlike (pattern : Pattern) (once limited : Pattern.Match) : Prop :=
  ∀ group ∈ pattern.groupNames, limited.captured? group = once.captured? group

namespace Library

/-- The pattern of the form that looks once. -/
def Shape.once (shape : Shape) (source : String) : Pattern :=
  .ofNodes source (Piece.nodesOf (shape.pieces false))

/-- The pattern of the form that polls. -/
def Shape.limited (shape : Shape) (source : String) : Pattern :=
  .ofNodes source (Piece.nodesOf (shape.pieces true) ++ finalLimit)

/-- A text that pieces from its start match as a whole is split into them. -/
theorem exists_splits_of_matchesWhole {pieces : List Piece} {source text : String}
    (whole : (Pattern.ofNodes source (Piece.nodesOf pieces)).MatchesWhole text)
    : ∃ groups, Splits pieces text.toList groups := by
  obtain ⟨stop, member, done⟩ := whole
  have anchored : Chain (.look .textStart :: Piece.nodesOf pieces) (.start text.toList) stop :=
    leads_concat.mp (leads_of_mem_ends member)
  obtain ⟨_, look, chain⟩ := chain_cons.mp anchored
  cases look with
  | look _ =>
      rw [← List.append_nil (Piece.nodesOf _)] at chain
      obtain ⟨read, groups, middle, splits, after, _, ends⟩ := exists_splits chain (.start _)
      obtain rfl := chain_nil.mp ends
      rw [done, List.append_nil] at after
      have all : text.toList = read := after
      exact ⟨groups, all ▸ splits⟩

/-- A text that a form matches as a whole is read in its shape. -/
theorem Shape.exists_reading {shape : Shape} {source text : String}
    (whole : (shape.once source).MatchesWhole text)
    : ∃ first others, shape.IsReading text.toList first others := by
  obtain ⟨_, splits⟩ := exists_splits_of_matchesWhole whole
  obtain ⟨first, others, _, reading⟩ := isReading_of_splits splits
  exact ⟨first, others, reading⟩

theorem search_ofNodes {source text : String} {nodes : List Node} {stop : Thread}
    (flat : ∀ node ∈ nodes, node.IsFlat = true)
    (first : firstChain nodes (.start text.toList) = some stop)
    : (Pattern.ofNodes source nodes).search text = some (.ofThread text.toList stop) := by
  change ((Node.anchored nodes).search text.toList).map _ = _
  rw [search_anchored flat, first, Option.map_some]

/-- With a time limit the form that polls captures the reading whose first text it tries first. -/
theorem Shape.exists_search_limited {shape : Shape} {source directive numeral : String}
    {first : List Char} {others : List (String × List Char)}
    (reading : shape.IsReading directive.toList first others) (number : IsNumeral numeral.toList)
    : ∃ limited taken others',
        (shape.limited source).search (withLimit directive numeral) = some limited
        ∧ limited.captures = ("seconds", numeral) :: shape.captures taken others'
        ∧ shape.IsReading directive.toList taken others'
        ∧ ∀ other others,
            shape.IsReading directive.toList other others
            → ¬ TriedBefore (!shape.modest) other taken := by
  obtain ⟨stop, taken, others', found, has, reading', preferred⟩ :=
    reading.exists_limited (isLimit_withLimit number)
  rw [← withLimit_toList] at found has
  refine ⟨_, taken, others', search_ofNodes shape.isFlat_limited found, ?_, reading', preferred⟩
  rw [has.ofThread, List.map_cons, String.ofList_toList]
  rfl

/-- Without a time limit the form that looks once captures the reading with the longest first
text.
-/
theorem Shape.exists_search_once {shape : Shape} {source directive : String}
    {first : List Char} {others : List (String × List Char)}
    (reading : shape.IsReading directive.toList first others) (tight : shape.IsTight)
    : ∃ once taken others',
        (shape.once source).search directive = some once
        ∧ once.captures = shape.captures taken others'
        ∧ shape.IsReading directive.toList taken others'
        ∧ ∀ other others,
            shape.IsReading directive.toList other others → other.length ≤ taken.length := by
  obtain ⟨stop, taken, others', found, has, reading', longest⟩ := reading.exists_once tight
  exact ⟨_, taken, others', search_ofNodes (isFlat_nodesOf _) found, has.ofThread, reading',
    longest⟩

-----------------------------------------------------------------------------------------
-- Whether both capture the same
-----------------------------------------------------------------------------------------

theorem captureNames_nodesOf (pieces : List Piece)
    : (Piece.nodesOf pieces).flatMap Node.captureNames = pieces.flatMap Piece.names := by
  have here (piece : Piece) : piece.nodes.flatMap Node.captureNames = piece.names := by
    cases piece with
    | words text => simp [Piece.nodes, Piece.names, letters, lettersOf, Node.captureNames]
    | group name optional greedy => cases optional <;> cases greedy <;> rfl
  unfold Piece.nodesOf
  rw [List.flatMap_assoc]
  exact congrArg (fun names => List.flatMap names pieces) (funext here)

theorem groupNames_once (shape : Shape) (source : String)
    : (shape.once source).groupNames = (shape.pieces false).flatMap Piece.names :=
  captureNames_nodesOf _

/-- A further capture does not matter under other names. -/
theorem captured?_of_cons {once limited : Pattern.Match} {name text group : String}
    (captures : limited.captures = (name, text) :: once.captures) (other : group ≠ name)
    : limited.captured? group = once.captured? group := by
  unfold Match.captured?
  rw [captures, List.find?_cons_of_neg]
  simpa using Ne.symm other

/-- The form that polls and its counterpart capture the same of a text between words. -/
theorem capturesAlike_single {opening name closing source directive : String} {modest : Bool}
    {taken taken' : List Char} {others others' : List (String × List Char)}
    {once limited : Pattern.Match} {numeral : String} (named : name ≠ "seconds")
    (captures : once.captures = (Shape.single opening name closing modest).captures taken others)
    (captures'
      : limited.captures
        = ("seconds", numeral)
          :: (Shape.single opening name closing modest).captures taken' others')
    (reading : (Shape.single opening name closing modest).IsReading directive.toList taken others)
    (reading'
      : (Shape.single opening name closing modest).IsReading directive.toList taken' others')
    : ((Shape.single opening name closing modest).once source).CapturesAlike once limited := by
  obtain ⟨rfl, rfl, rfl⟩ := reading.unique_single reading'
  rw [← captures] at captures'
  intro group member
  rw [groupNames_once] at member
  cases List.mem_singleton.mp member
  exact captured?_of_cons captures' named

namespace Comparison

/-- A directive reads as the comparison of an element with a quoted text. -/
def Reads (comparison : Comparison) (directive element payload : String) : Prop :=
  (Shape.comparing comparison).IsReading directive.toList element.toList
    [(comparison.argument, payload.toList)]

/-- A directive reads as a comparison in one way at most. -/
def ReadsOneWay (comparison : Comparison) (directive : String) : Prop :=
  ∀ element payload element' payload',
    comparison.Reads directive element payload
    → comparison.Reads directive element' payload'
    → element = element' ∧ payload = payload'

/-- A match holds the element and the quoted text of a comparison. -/
structure Captures (comparison : Comparison) (found : Pattern.Match) (element payload : String)
    : Prop where
  element : found.captured? "elem" = some element
  payload : found.captured? comparison.argument = some payload

/-- Of the readings of a directive as a comparison, one match holds the one with the longest element
and the other match the one with the shortest.
-/
structure TakesApart (comparison : Comparison) (directive : String) (once limited : Pattern.Match)
    : Prop where
  longest
    : ∃ element payload,
        comparison.Reads directive element payload
        ∧ comparison.Captures once element payload
        ∧ ∀ other payload',
            comparison.Reads directive other payload' → other.length ≤ element.length
  shortest
    : ∃ element payload,
        comparison.Reads directive element payload
        ∧ comparison.Captures limited element payload
        ∧ ∀ other payload',
            comparison.Reads directive other payload' → element.length ≤ other.length

variable {comparison : Comparison} {directive : String}

theorem exists_reads {first : List Char} {others : List (String × List Char)}
    (reading : (Shape.comparing comparison).IsReading directive.toList first others)
    : ∃ element payload,
        first = String.toList element
        ∧ others = [(comparison.argument, String.toList payload)]
        ∧ comparison.Reads directive element payload := by
  obtain ⟨_, rest, _, _, splits⟩ := reading.parts
  obtain ⟨_, payload, _, _, _, rfl⟩ := splits_rest.mp splits
  refine ⟨.ofList first, .ofList payload, String.toList_ofList.symm, ?_, ?_⟩
  · rw [String.toList_ofList]
  · unfold Reads
    rwa [String.toList_ofList, String.toList_ofList]

/-- Readings with elements of one length are one. -/
theorem Reads.unique {element payload element' payload' : String}
    (reads : comparison.Reads directive element payload)
    (reads' : comparison.Reads directive element' payload')
    (length : element.length = element'.length)
    : element = element' ∧ payload = payload' := by
  have lengths : element.toList.length = element'.toList.length := by
    rwa [String.length_toList, String.length_toList]
  obtain ⟨same, others⟩ := reading_unique reads reads' lengths
  simp only [List.cons.injEq, Prod.mk.injEq, true_and, and_true] at others
  exact ⟨String.toList_inj.mp same, String.toList_inj.mp others⟩

theorem captures_of_eq {found : Pattern.Match} {element payload : String}
    (captures
      : found.captures
        = (Shape.comparing comparison).captures element.toList
            [(comparison.argument, payload.toList)])
    : comparison.Captures found element payload := by
  have held : found.captures = [(comparison.argument, payload), ("elem", element)] := by
    rw [captures]
    simp [Shape.captures, Shape.name]
  constructor
  · unfold Match.captured?
    rw [held]
    cases comparison <;> rfl
  · unfold Match.captured?
    rw [held]
    cases comparison <;> rfl

theorem argument_ne_seconds (comparison : Comparison) : comparison.argument ≠ "seconds" := by
  cases comparison <;> decide

/-- A number of seconds besides does not matter to what a match holds of a comparison. -/
theorem Captures.of_cons {once limited : Pattern.Match} {numeral element payload : String}
    (held : comparison.Captures once element payload)
    (captures : limited.captures = ("seconds", numeral) :: once.captures)
    : comparison.Captures limited element payload :=
  ⟨(captured?_of_cons captures (by decide)).trans held.element,
    (captured?_of_cons captures comparison.argument_ne_seconds).trans held.payload⟩

theorem capturesAlike_iff {source : String} {once limited : Pattern.Match}
    : ((Shape.comparing comparison).once source).CapturesAlike once limited
      ↔ limited.captured? "elem" = once.captured? "elem"
        ∧ limited.captured? comparison.argument = once.captured? comparison.argument := by
  have names : ((Shape.comparing comparison).once source).groupNames
      = ["elem", comparison.argument] :=
    groupNames_once _ _
  unfold CapturesAlike
  rw [names, List.forall_mem_cons, List.forall_mem_singleton]

/-- The two forms capture the same only if there is one way to read the directive: else the elements
that they capture differ in length.
-/
theorem TakesApart.capturesAlike_iff {once limited : Pattern.Match}
    (apart : comparison.TakesApart directive once limited) (source : String)
    : ((Shape.comparing comparison).once source).CapturesAlike once limited
      ↔ comparison.ReadsOneWay directive := by
  obtain ⟨long, payload, reads, held, longest⟩ := apart.longest
  obtain ⟨short, payload', reads', held', shortest⟩ := apart.shortest
  rw [Comparison.capturesAlike_iff, held.element, held'.element, held.payload, held'.payload]
  constructor
  · rintro ⟨same, _⟩ element text element' text' readsFirst readsSecond
    cases same
    refine readsFirst.unique readsSecond ?_
    have first := Nat.le_antisymm (longest _ _ readsFirst) (shortest _ _ readsFirst)
    have second := Nat.le_antisymm (longest _ _ readsSecond) (shortest _ _ readsSecond)
    exact first.trans second.symm
  · intro oneWay
    obtain ⟨rfl, rfl⟩ := oneWay _ _ _ _ reads reads'
    exact ⟨rfl, rfl⟩

/-- The form that looks once captures the longest element of a comparison, and the form that polls
the shortest.
-/
theorem takesApart_of_captures {once limited : Pattern.Match} {numeral : String}
    {taken taken' : List Char} {others others' : List (String × List Char)}
    (captures : once.captures = (Shape.comparing comparison).captures taken others)
    (captures'
      : limited.captures
        = ("seconds", numeral) :: (Shape.comparing comparison).captures taken' others')
    (reading : (Shape.comparing comparison).IsReading directive.toList taken others)
    (reading' : (Shape.comparing comparison).IsReading directive.toList taken' others')
    (longest
      : ∀ other others,
          (Shape.comparing comparison).IsReading directive.toList other others
          → other.length ≤ taken.length)
    (shortest
      : ∀ other others,
          (Shape.comparing comparison).IsReading directive.toList other others
          → taken'.length ≤ other.length)
    : comparison.TakesApart directive once limited := by
  obtain ⟨element, payload, rfl, rfl, reads⟩ := exists_reads reading
  obtain ⟨element', payload', rfl, rfl, reads'⟩ := exists_reads reading'
  have held : comparison.Captures ⟨(Shape.comparing comparison).captures element'.toList
      [(comparison.argument, payload'.toList)]⟩ element' payload' :=
    captures_of_eq rfl
  constructor
  · refine ⟨element, payload, reads, captures_of_eq captures, ?_⟩
    intro other payload' readsOther
    simpa only [String.length_toList] using longest _ _ readsOther
  · refine ⟨element', payload', reads', held.of_cons captures', ?_⟩
    intro other payload' readsOther
    simpa only [String.length_toList] using shortest _ _ readsOther

end Comparison

-----------------------------------------------------------------------------------------
-- The registered forms
-----------------------------------------------------------------------------------------

theorem formNodes_polling {place : Nat} {shape : Shape} (shaped : shapes[place]? = some shape)
    : formNodes[place]? = some (Piece.nodesOf (shape.pieces true) ++ finalLimit) := by
  obtain ⟨inside, _⟩ := List.getElem?_eq_some_iff.mp shaped
  unfold formNodes
  rw [List.append_assoc, pollingNodes_eq, List.getElem?_append_left (by simpa using inside)]
  simp [shaped, finalLimit]

theorem formNodes_counterpart {place : Nat} {shape : Shape} (shaped : shapes[place]? = some shape)
    : formNodes[pollingDrafts.length + counterpartPlace place]?
      = some (Piece.nodesOf (shape.pieces false)) := by
  have expected : expectationNodes[counterpartPlace place]?
      = some (Piece.nodesOf (shape.pieces false)) := by
    rw [← getElem?_counterpartPlace expectationNodes place (by decide), expectationNodes_eq,
      List.getElem?_map, shaped, Option.map_some]
  obtain ⟨inside, _⟩ := List.getElem?_eq_some_iff.mp expected
  have size : pollingDrafts.length = pollingNodes.length := rfl
  unfold formNodes
  rw [List.append_assoc, List.getElem?_append_right (by rw [List.length_map, size]; omega),
    List.length_map, size, Nat.add_sub_cancel_left, List.getElem?_append_left inside, expected]

/-- The forms of the comparisons stand where their shapes do. -/
theorem Comparison.place_eq_iff (comparison : Comparison) {place : Nat}
    (below : place < pollingDrafts.length)
    : comparison.place = pollingDrafts.length + counterpartPlace place
      ↔ shapes[place]? = some (.comparing comparison) := by
  revert place
  cases comparison <;> decide +kernel

/-- No first text is captured under the name of the number of seconds. -/
theorem name_ne_seconds : ∀ shape ∈ shapes, shape.name ≠ "seconds" := by
  decide

/-- What a form captures of a directive, and what the form that polls captures of it with a time
limit.
-/
structure Finds (polls looks : Pattern) (directive numeral : String) (once limited : Pattern.Match)
    : Prop where
  foundOnce : looks.search directive = some once
  foundLimited : polls.search (withLimit directive numeral) = some limited
  seconds : limited.captured? "seconds" = some numeral

/-- What the two forms of a shape find in a directive that the one that looks once matches as a
whole.
-/
theorem Shape.finds {shape : Shape} (source source' : String) {directive numeral : String}
    (whole : (shape.once source').MatchesWhole directive) (number : IsNumeral numeral.toList)
    : ∃ once limited,
        Finds (shape.limited source) (shape.once source') directive numeral once limited
        ∧ (∀ opening name closing modest,
            shape = .single opening name closing modest
            → name ≠ "seconds"
            → (shape.once source').CapturesAlike once limited)
        ∧ ∀ comparison,
            shape = .comparing comparison
            → comparison.TakesApart directive once limited := by
  obtain ⟨first, others, reading⟩ := exists_reading whole
  have tight : shape.IsTight := by
    cases shape with
    | single opening name closing modest => exact isTight_single opening name closing modest
    | comparing comparison => exact comparison.isTight_shape
  obtain ⟨once, taken, others, found, captures, readingOnce, longest⟩ :=
    exists_search_once reading tight
  obtain ⟨limited, taken', others', found', captures', readingLimited, preferred⟩ :=
    exists_search_limited reading number
  refine ⟨once, limited, ⟨found, found', ?_⟩, ?_, ?_⟩
  · unfold Match.captured?
    rw [captures']
    rfl
  · rintro opening name closing modest rfl named
    exact capturesAlike_single named captures captures' readingOnce readingLimited
  · rintro comparison rfl
    refine
      Comparison.takesApart_of_captures captures captures' readingOnce readingLimited longest ?_
    intro other others reading
    exact Nat.le_of_not_lt (preferred other others reading)

/-- The forms that stand together have the patterns of the shape at their place. -/
theorem StandsWithCounterpart.patterns {timing : Timing} {registry : DirectiveRegistry}
    {place : Nat} {polled plain : Draft} {polls looks : DirectiveForm} {shape : Shape}
    (pair
      : StandsWithCounterpart timing ⟨registry.forms ++ forms timing⟩ registry.size place polled
          plain polls looks)
    (shaped : shapes[place]? = some shape)
    : polls.pattern = shape.limited polls.pattern.source
      ∧ looks.pattern = shape.once looks.pattern.source := by
  have reads {place : Nat} {nodes : List Node} {form : DirectiveForm}
      (read : formNodes[place]? = some nodes)
      (stands : (registry.forms ++ forms timing)[registry.size + place]? = some form)
      : form.pattern = .ofNodes form.pattern.source nodes := by
    rw [getElem?_behind] at stands
    obtain ⟨draft, nodes', _, read', rfl⟩ := List.getElem?_zipWith_eq_some.mp stands
    cases read.symm.trans read'
    rfl
  exact ⟨reads (formNodes_polling shaped) pair.stands,
    reads (formNodes_counterpart shaped) pair.stands'⟩

/-- A directive that a form matches as a whole is found, with a time limit, by the form that repeats
its check. Of a text between words both capture the same. Of the comparison of an element with a
quoted text, the form that looks once captures the reading with the longest element and the form
that polls the one with the shortest, so that they capture the same only if there is one reading.
-/
theorem captures_within (timing : Timing) (registry : DirectiveRegistry)
    : ∃ next,
        register timing registry = .ok next
        ∧ ∀ place < 13, ∃ polled plain polls looks,
            StandsWithCounterpart timing next registry.size place polled plain polls looks
            ∧ ∀ directive numeral,
                looks.pattern.MatchesWhole directive
                → IsNumeral numeral.toList
                → ∃ once limited,
                    Finds polls.pattern looks.pattern directive numeral once limited
                    ∧ ((∀ comparison : Comparison,
                          comparison.place ≠ pollingDrafts.length + counterpartPlace place)
                        → looks.pattern.CapturesAlike once limited)
                    ∧ ∀ comparison : Comparison,
                        comparison.place = pollingDrafts.length + counterpartPlace place
                        → comparison.TakesApart directive once limited
                          ∧ (looks.pattern.CapturesAlike once limited
                            ↔ comparison.ReadsOneWay directive) := by
  refine ⟨_, register_eq timing registry, ?_⟩
  intro place below
  obtain ⟨polled, plain, _, _, _, _, pair⟩ := exists_standsWithCounterpart timing registry below
  obtain ⟨shape, shaped⟩ : ∃ shape, shapes[place]? = some shape :=
    ⟨_, List.getElem?_eq_getElem below⟩
  obtain ⟨polls, looks⟩ := pair.patterns shaped
  refine ⟨polled, plain, _, _, pair, ?_⟩
  intro directive numeral whole number
  rw [looks] at whole ⊢
  rw [polls]
  obtain ⟨once, limited, finds, alike, apart⟩ :=
    Shape.finds _ _ whole number
  refine ⟨once, limited, finds, ?_, ?_⟩
  · intro elsewhere
    cases shape with
    | single opening name closing modest =>
        have named := name_ne_seconds _ (List.mem_of_getElem? shaped)
        exact alike opening name closing modest rfl named
    | comparing comparison =>
        exact (elsewhere comparison ((comparison.place_eq_iff below).mpr shaped)).elim
  · intro comparison here
    cases ((comparison.place_eq_iff below).mp here).symm.trans shaped
    have takes := apart comparison rfl
    exact ⟨takes, takes.capturesAlike_iff _⟩

/-- A directive that can be read as a comparison in two ways. -/
def twofoldDirective : String :=
  "Expect #a contains \"x\" contains \"y\""

/-- With a time limit another element is looked at, and it is compared with another text. -/
theorem twofold_taken_apart
    : ∃ next polls looks once limited,
        register (.every 1) ∅ = .ok next
        ∧ next.forms[10]? = some polls
        ∧ next.forms[32]? = some looks
        ∧ Finds polls.pattern looks.pattern twofoldDirective "1" once limited
        ∧ once.captured? "elem" = some "#a contains \"x\""
        ∧ limited.captured? "elem" = some "#a"
        ∧ ¬ looks.pattern.CapturesAlike once limited
        ∧ ¬ Comparison.someMatch.ReadsOneWay twofoldDirective := by
  obtain ⟨next, registered, within_⟩ := captures_within (.every 1) ∅
  obtain ⟨polled, plain, polls, looks, pair, finds⟩ := within_ 10 (by decide)
  obtain rfl := Except.ok.inj ((register_eq (.every 1) ∅).symm.trans registered)
  obtain ⟨pollsPattern, looksPattern⟩ :=
    pair.patterns (show shapes[10]? = some (.comparing .someMatch) from rfl)
  -- How a pattern is written does not matter to what it finds.
  have whole : ((Shape.comparing .someMatch).once "").MatchesWhole twofoldDirective := by
    decide +kernel
  have number : IsNumeral "1".toList := by
    have digits : "1".toList.all Property.decimalDigits.mem = true := by decide +kernel
    exact .whole ⟨by decide, by simpa using digits⟩
  obtain ⟨once, limited, found, _, apart⟩ :=
    finds twofoldDirective "1" (by rw [looksPattern]; exact whole) number
  have long : (((Shape.comparing .someMatch).once "").search twofoldDirective).bind
        (fun found => found.captured? "elem")
      = some "#a contains \"x\"" := by
    decide +kernel
  have short : (((Shape.comparing .someMatch).limited "").search
        (withLimit twofoldDirective "1")).bind (fun found => found.captured? "elem")
      = some "#a" := by
    decide +kernel
  have foundOnce : ((Shape.comparing .someMatch).once "").search twofoldDirective = some once := by
    rw [← found.foundOnce, looksPattern]
    rfl
  have foundLimited
      : ((Shape.comparing .someMatch).limited "").search (withLimit twofoldDirective "1")
        = some limited := by
    rw [← found.foundLimited, pollsPattern]
    rfl
  rw [foundOnce, Option.bind_some] at long
  rw [foundLimited, Option.bind_some] at short
  have different : ¬ looks.pattern.CapturesAlike once limited := by
    intro alike
    rw [looksPattern, Comparison.capturesAlike_iff, long, short] at alike
    exact absurd alike.1 (by decide)
  obtain ⟨_, oneWay⟩ := apart .someMatch rfl
  exact ⟨_, polls, looks, once, limited, registered, pair.stands, pair.stands', found, long, short,
    different, fun single => different (oneWay.mpr single)⟩

end Library

end Rehearsal
