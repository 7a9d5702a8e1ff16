import Rehearsal.Proofs.Directive.Resolution
import Rehearsal.Proofs.Library.Within

/-! Which directives are of a form that polls. A directive that the pattern of a check matches as a
whole, with a time limit behind it, is of such a form, whatever else it may be read as, and its
number of seconds is the one in the limit. Every directive of such a form ends in a time limit.
-/

namespace Rehearsal

open Pattern

namespace Library

-----------------------------------------------------------------------------------------
-- Numbers of seconds in plain digits
-----------------------------------------------------------------------------------------

/-- The digits from 0 to 9 are decimal digits. -/
theorem mem_decimalDigits_of_isDigit {c : Char} (digit : c.isDigit = true)
    : Text.Property.decimalDigits.mem c = true := by
  have known : ∀ value < 10, Text.Property.decimalDigits.mem (.ofNat (48 + value)) = true := by
    decide +kernel
  simp only [Char.isDigit, Bool.and_eq_true, decide_eq_true_eq] at digit
  obtain ⟨above, below⟩ := digit
  have above : 48 ≤ c.toNat := above
  have below : c.toNat ≤ 57 := below
  have known := known (c.toNat - 48) (by omega)
  rwa [Nat.add_sub_cancel' above, Char.ofNat_toNat] at known

/-- Some digits from 0 to 9 make a whole number of seconds. -/
theorem isDigits_of_isDigit {text : List Char} (some_ : text ≠ [])
    (digits : text.all Char.isDigit = true)
    : IsDigits text :=
  ⟨some_, fun c member => mem_decimalDigits_of_isDigit (List.all_eq_true.mp digits c member)⟩

-----------------------------------------------------------------------------------------
-- The patterns of the checks and of the time limit
-----------------------------------------------------------------------------------------

/-- Without a time limit the patterns of the checks are read as their nodes. -/
theorem pollingDrafts_readAs_body
    : List.Forall₂ (fun (draft : Draft) nodes => ReadAs draft.source nodes) pollingDrafts
        pollingNodes := by
  unfold pollingDrafts pollingNodes
  repeat' apply List.Forall₂.cons
  all_goals first
    | exact .nil
    | (refine readAs_of_chars _ String.toList_ofList ?_
       decide +kernel)

theorem exists_shape_of_draft {draft : Draft} (member : draft ∈ pollingDrafts)
    : ∃ (place : Nat) (shape : Shape),
        shapes[place]? = some shape
        ∧ ReadAs draft.source (Piece.nodesOf (shape.pieces true)) := by
  obtain ⟨length, paired⟩ := List.forall₂_iff_get.mp pollingDrafts_readAs_body
  obtain ⟨place, inside, rfl⟩ := List.mem_iff_getElem.mp member
  have read := paired place inside (length ▸ inside)
  have shaped : place < shapes.length := inside
  refine ⟨place, shapes[place], List.getElem?_eq_getElem shaped, ?_⟩
  simpa [pollingNodes_eq] using read

/-- The pattern of the time limit. -/
def limitPattern : Pattern :=
  ⟨limitSource, .concat limitNodes, ["seconds"]⟩

theorem ofText_limitSource : Pattern.ofText true limitSource = .ok limitPattern := by
  refine ofText_of_chars _ String.toList_ofList ?_
  decide +kernel

/-- The pattern of the time limit matches a time limit as a whole. -/
theorem IsLimit.matchesWhole {clause numeral : List Char} (limit : IsLimit clause numeral)
    : limitPattern.MatchesWhole (.ofList clause) := by
  have start : (Thread.start (String.ofList clause).toList).after = clause := String.toList_ofList
  obtain ⟨_, chain⟩ := limit.exists_chain start
  obtain ⟨middle, reads, looks⟩ := chain_append.mp chain
  obtain ⟨_, look, _⟩ := chain_cons.mp looks
  have flat : (Node.concat limitNodes).IsFlat = true :=
    isFlat_concat fun node member => isFlat_finalLimit node (List.mem_append_left _ member)
  obtain ⟨stop, member, place⟩ := exists_mem_ends (leads_concat.mpr reads) flat (.refl _)
  refine ⟨stop, member, place.after.trans ?_⟩
  cases look with
  | look holds => simpa [Look.holds] using holds

-----------------------------------------------------------------------------------------
-- The form of a directive with a time limit
-----------------------------------------------------------------------------------------

/-- A directive is of a form that polls. -/
def IsPolled (timing : Timing) (resolved : Resolved) : Prop :=
  ∃ draft,
    pollingDrafts[resolved.place]? = some draft
    ∧ (draft.within timing).Describes resolved.form

/-- The forms at the places of the checks poll. -/
theorem isPolled_of_lt {timing : Timing} {directive : String} {resolved : Resolved}
    (resolves : (DirectiveRegistry.mk (forms timing)).resolve? directive = some resolved)
    (below : resolved.place < pollingDrafts.length)
    : IsPolled timing resolved := by
  have stands := (DirectiveRegistry.isFirst_of_resolve? resolves).stands
  obtain ⟨draft, nodes, drafted, _, form⟩ := List.getElem?_zipWith_eq_some.mp stands
  have check := List.getElem?_eq_getElem below
  cases (drafts_polling check timing).symm.trans drafted
  exact ⟨_, check, form ▸ Draft.describes_form _ _⟩

/-- A directive that can be split into the pieces of a check and a time limit is of the form of that
check or of one ahead of it.
-/
theorem exists_resolved_of_splits {place : Nat} {shape : Shape} {directive : String}
    {before clause numeral : List Char} {groups : List (String × List Char)}
    (shaped : shapes[place]? = some shape) (splits : Splits (shape.pieces true) before groups)
    (limit : IsLimit clause numeral) (whole : directive.toList = before ++ clause) (timing : Timing)
    : ∃ resolved,
        (DirectiveRegistry.mk (forms timing)).resolve? directive = some resolved
        ∧ resolved.place ≤ place := by
  have inside : place < pollingDrafts.length := (List.getElem?_eq_some_iff.mp shaped).1
  have drafted := drafts_polling (List.getElem?_eq_getElem inside) timing
  have stands := forms_getElem? drafted (formNodes_polling shaped)
  have start : (Thread.start directive.toList).after = before ++ clause := whole
  obtain ⟨stop, chain⟩ := splits.exists_chain start fun _ next => limit.exists_chain next
  obtain ⟨found, hit, _⟩ := exists_search_ofNodes chain shape.isFlat_limited
  exact DirectiveRegistry.exists_resolved_of_hit stands hit

/-- A directive of a form that polls ends in the time limit whose number of seconds is captured. -/
theorem exists_limit_of_polled {timing : Timing} {directive : String} {resolved : Resolved}
    (resolves : (DirectiveRegistry.mk (forms timing)).resolve? directive = some resolved)
    (below : resolved.place < pollingDrafts.length)
    : ∃ before clause numeral,
        directive.toList = before ++ clause
        ∧ IsLimit clause numeral
        ∧ resolved.found.captured? "seconds" = some (.ofList numeral) := by
  have first := DirectiveRegistry.isFirst_of_resolve? resolves
  obtain ⟨draft, nodes, _, read, form⟩ := List.getElem?_zipWith_eq_some.mp first.stands
  have below : resolved.place < shapes.length := below
  have shaped := List.getElem?_eq_getElem below
  cases (formNodes_polling shaped).symm.trans read
  have hit := first.hit
  rw [← form] at hit
  obtain ⟨stop, search, found⟩ := Option.map_eq_some_iff.mp hit
  obtain ⟨before, _, middle, _, after, has, ends⟩ :=
    exists_splits (chain_of_search search) (.start _)
  obtain ⟨numeral, limit, has⟩ := isLimit_of_chain ends has
  refine ⟨before, middle.after, numeral, after, limit, ?_⟩
  rw [← found, Match.captured?, has.ofThread]
  rfl

/-- Behind a directive the words of a time limit are one, for one second and for several. -/
theorem exists_limit_of_unit {numeral unit : String} (number : IsNumeral numeral.toList)
    (spelled : unit = " second" ∨ unit = " seconds") (directive : String)
    : ∃ clause,
        IsLimit clause numeral.toList
        ∧ (directive ++ " within " ++ numeral ++ unit).toList = directive.toList ++ clause := by
  obtain ⟨plural, letters, ending⟩
      : ∃ plural : String,
          unit.toList = " second".toList ++ plural.toList ∧ (plural = "" ∨ plural = "s") := by
    rcases spelled with rfl | rfl
    · exact ⟨"", by decide, .inl rfl⟩
    · exact ⟨"s", by decide, .inr rfl⟩
  refine ⟨" within ".toList ++ (numeral.toList ++ (" second".toList ++ plural.toList)), ?_, ?_⟩
  · refine ⟨number, _, _, _, rfl, .refl _, .refl _, ?_⟩
    rcases ending with rfl | rfl
    · exact .inl (by decide)
    · exact .inr (.refl _)
  · simp only [String.toList_append, letters, List.append_assoc]

/-- In the registry of the built-in forms, a directive that the pattern of a check matches as a
whole is of a form that polls if a time limit is put behind it, and what is captured as its number
of seconds is the number in that limit. Conversely, a directive of a form that polls ends in a match
of the pattern of the time limit.
-/
theorem polled_with_limit (timing : Timing)
    : ∃ next limit,
        register timing ∅ = .ok next
        ∧ Pattern.ofText true limitSource = .ok limit
        ∧ (∀ draft ∈ pollingDrafts, ∃ body,
            Pattern.ofText true draft.source = .ok body
            ∧ ∀ directive numeral unit,
                body.MatchesWhole directive
                → IsNumeral numeral.toList
                → unit = " second" ∨ unit = " seconds"
                → ∃ resolved,
                    next.resolve? (directive ++ " within " ++ numeral ++ unit) = some resolved
                    ∧ IsPolled timing resolved
                    ∧ resolved.found.captured? "seconds" = some numeral)
        ∧ ∀ directive resolved,
            next.resolve? directive = some resolved
            → IsPolled timing resolved
            → ∃ before clause, directive = before ++ clause ∧ limit.MatchesWhole clause := by
  refine ⟨_, limitPattern, register_eq timing ∅, ofText_limitSource, ?_, ?_⟩
  · intro draft member
    obtain ⟨place, shape, shaped, read⟩ := exists_shape_of_draft member
    refine ⟨_, read, fun directive numeral unit whole number spelled => ?_⟩
    obtain ⟨groups, splits⟩ := exists_splits_of_matchesWhole whole
    obtain ⟨clause, limit, ending⟩ := exists_limit_of_unit number spelled directive
    obtain ⟨resolved, resolves, earlier⟩ :=
      exists_resolved_of_splits shaped splits limit ending timing
    have inside : place < pollingDrafts.length := (List.getElem?_eq_some_iff.mp shaped).1
    have below : resolved.place < pollingDrafts.length := Nat.lt_of_le_of_lt earlier inside
    obtain ⟨before, clause', numeral', ending', limit', captured⟩ :=
      exists_limit_of_polled resolves below
    obtain ⟨_, _, rfl⟩ := limit'.unique limit (ending'.symm.trans ending)
    rw [String.ofList_toList] at captured
    exact ⟨resolved, resolves, isPolled_of_lt resolves below, captured⟩
  · rintro directive resolved resolves ⟨draft, check, _⟩
    obtain ⟨before, clause, numeral, whole, limit, _⟩ :=
      exists_limit_of_polled resolves (List.getElem?_eq_some_iff.mp check).1
    refine ⟨.ofList before, .ofList clause, ?_, ?_⟩
    · rw [← String.ofList_append, ← whole, String.ofList_toList]
    · exact limit.matchesWhole

/-- Of two time limits at the end of a directive the second one counts. -/
theorem twice_limited_polled
    : ∃ next limit resolved,
        register (.every 1) ∅ = .ok next
        ∧ Pattern.ofText true limitSource = .ok limit
        ∧ next.resolve? ("expect exists #a within 1 seconds" ++ " within " ++ "2.5" ++ " second")
          = some resolved
        ∧ IsPolled (.every 1) resolved
        ∧ resolved.found.captured? "seconds" = some "2.5"
        ∧ ∃ before clause,
            "expect exists #a within 1 seconds" ++ " within " ++ "2.5" ++ " second"
              = before ++ clause
            ∧ limit.MatchesWhole clause := by
  obtain ⟨next, limit, registered, spelled, polls, limited⟩ := polled_with_limit (.every 1)
  have sixth : pollingDrafts[5]? = some ⟨"^expect exists (?P<elem>.+?)", expectExists, none⟩ := rfl
  obtain ⟨body, read, polls⟩ := polls _ (List.mem_of_getElem? sixth)
  have readAs : ReadAs "^expect exists (?P<elem>.+?)"
      (letters "expect exists " ++ [run "elem" false]) := by
    refine readAs_of_chars _ String.toList_ofList ?_
    decide +kernel
  obtain rfl := Except.ok.inj (read.symm.trans readAs)
  have number : IsNumeral "2.5".toList :=
    .fraction (isDigits_of_isDigit (by decide) (by decide : ['2'].all Char.isDigit = true))
      (isDigits_of_isDigit (by decide) (by decide : ['5'].all Char.isDigit = true))
  obtain ⟨resolved, resolves, polled, captured⟩ :=
    polls "expect exists #a within 1 seconds" "2.5" " second" (by decide +kernel) number (.inl rfl)
  exact ⟨next, limit, resolved, registered, spelled, resolves, polled, captured,
    limited _ resolved resolves polled⟩

end Library

end Rehearsal
