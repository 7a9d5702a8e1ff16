import Rehearsal.Proofs.Pattern.Preference

/-! Texts that are split into words and captured texts, and the patterns that read them so. -/

namespace Rehearsal.Pattern

open Text

/-- A piece of a pattern: words in any letter case, or a captured text on one line, which may be
missing if it is optional.
-/
inductive Piece where
  | words (text : String)
  | group (name : String) (optional greedy : Bool)

namespace Piece

/-- The nodes that read a piece. -/
def nodes : Piece → List Node
  | words text => letters text
  | group name true greedy => [anyRun name greedy]
  | group name false greedy => [run name greedy]

/-- The nodes that read several pieces. -/
def nodesOf (pieces : List Piece) : List Node :=
  pieces.flatMap nodes

/-- The names of the groups in a piece. -/
def names : Piece → List String
  | words _ => []
  | group name _ _ => [name]

/-- What a group may capture. -/
def Admits (optional : Bool) (read : List Char) : Prop :=
  (optional = false → read ≠ []) ∧ '\n' ∉ read

end Piece

/-- A text is split into pieces, with the captured texts by name. -/
inductive Splits : List Piece → List Char → List (String × List Char) → Prop where
  | nil : Splits [] [] []
  | words {text read pieces rest groups} (same : SameLetters text.toList read)
    (later : Splits pieces rest groups)
    : Splits (.words text :: pieces) (read ++ rest) groups
  | group {name optional greedy read pieces rest groups} (admitted : Piece.Admits optional read)
    (later : Splits pieces rest groups)
    : Splits (.group name optional greedy :: pieces) (read ++ rest) ((name, read) :: groups)

/-- A thread stands in a text and has captured some of its parts, latest first. -/
structure Thread.HasRead (text : List Char) (groups : List (String × List Char))
    (thread : Thread) : Prop where
  stands : ∃ read, text = read ++ thread.after ∧ thread.position = read.length
  captures
    : thread.captures.map (fun (name, start, stop) => (name, (text.drop start).take (stop - start)))
      = groups

namespace Thread.HasRead

variable {text : List Char} {groups : List (String × List Char)} {thread behind : Thread}

theorem start (text : List Char) : (Thread.start text).HasRead text [] :=
  ⟨⟨[], rfl, rfl⟩, rfl⟩

/-- What is read next is captured under the name that is given. -/
theorem advance {name : Option String} {read : List Char} (has : thread.HasRead text groups)
    (reads : thread.Reads name read behind)
    : behind.HasRead text ((name.map fun name => (name, read)).toList ++ groups) := by
  obtain ⟨before, whole, position⟩ := has.stands
  rw [reads.after] at whole
  constructor
  · refine ⟨before ++ read, by rw [whole, List.append_assoc], ?_⟩
    rw [reads.position, position, List.length_append]
  · rw [reads.captures, List.map_append, has.captures]
    cases name with
    | none => rfl
    | some name =>
        have here
            : (text.drop thread.position).take (behind.position - thread.position) = read := by
          rw [reads.position, Nat.add_sub_cancel_left, position, whole, List.drop_left,
            List.take_left]
        simp [here]

/-- The texts that a thread has captured are those of its match. -/
theorem ofThread (has : thread.HasRead text groups)
    : (Match.ofThread text thread).captures
      = groups.map fun group => (group.1, String.ofList group.2) := by
  rw [← has.captures, List.map_map]
  rfl

end Thread.HasRead

-----------------------------------------------------------------------------------------
-- Patterns of pieces
-----------------------------------------------------------------------------------------

section pieces

variable {pieces : List Piece} {others : List Node} {text : List Char} {start stop : Thread}

theorem exists_reads_of_group {name : String} {optional greedy : Bool}
    (chain : Chain ((Piece.group name optional greedy).nodes ++ others) start stop)
    : ∃ read next,
        start.Reads name read next ∧ Piece.Admits optional read ∧ Chain others next stop := by
  cases optional with
  | true =>
      obtain ⟨read, next, reads, line, later⟩ := exists_reads_of_anyRun chain
      exact ⟨read, next, reads, ⟨by simp, line⟩, later⟩
  | false =>
      obtain ⟨read, next, reads, some_, line, later⟩ := exists_reads_of_run chain
      exact ⟨read, next, reads, ⟨fun _ => some_, line⟩, later⟩

/-- The nodes of some pieces split the text that they read, by induction on the pieces. -/
theorem exists_splits {captured : List (String × List Char)}
    (chain : Chain (Piece.nodesOf pieces ++ others) start stop)
    (has : start.HasRead text captured)
    : ∃ read groups middle,
        Splits pieces read groups
        ∧ start.after = read ++ middle.after
        ∧ middle.HasRead text (groups.reverse ++ captured)
        ∧ Chain others middle stop := by
  induction pieces generalizing start captured with
  | nil => exact ⟨[], [], start, .nil, rfl, has, chain⟩
  | cons piece pieces ih =>
      unfold Piece.nodesOf at chain
      rw [List.flatMap_cons, List.append_assoc] at chain
      cases piece with
      | words words =>
          obtain ⟨read, next, reads, same, later⟩ := exists_reads_of_letters chain
          obtain ⟨rest, groups, middle, splits, after, hasRest, leads⟩ :=
            ih later (has.advance reads)
          refine ⟨read ++ rest, groups, middle, .words same splits, ?_, hasRest, leads⟩
          rw [reads.after, after, List.append_assoc]
      | group name optional greedy =>
          obtain ⟨read, next, reads, admitted, later⟩ := exists_reads_of_group chain
          obtain ⟨rest, groups, middle, splits, after, hasRest, leads⟩ :=
            ih later (has.advance reads)
          refine ⟨read ++ rest, _, middle, .group admitted splits, ?_, ?_, leads⟩
          · rw [reads.after, after, List.append_assoc]
          · rw [List.reverse_cons, List.append_assoc]
            exact hasRest

/-- A text that is split into pieces is read by their nodes, if the other nodes read on behind it,
by induction on the pieces.
-/
theorem Splits.exists_chain {read rest : List Char} {groups : List (String × List Char)}
    (splits : Splits pieces read groups) (next : start.after = read ++ rest)
    (further : ∀ middle : Thread, middle.after = rest → ∃ stop, Chain others middle stop)
    : ∃ stop, Chain (Piece.nodesOf pieces ++ others) start stop := by
  induction splits generalizing start with
  | nil => exact further start next
  | words same _ ih =>
      unfold Piece.nodesOf
      rw [List.flatMap_cons, List.append_assoc]
      rw [List.append_assoc] at next
      exact exists_chain_letters next same fun _ after => ih after
  | @group name optional greedy _ _ _ _ admitted _ ih =>
      unfold Piece.nodesOf
      rw [List.flatMap_cons, List.append_assoc]
      rw [List.append_assoc] at next
      cases optional with
      | true => exact exists_chain_anyRun next admitted.2 fun _ after => ih after
      | false => exact exists_chain_run next (admitted.1 rfl) admitted.2 fun _ after => ih after

theorem isFlat_nodesOf (pieces : List Piece)
    : ∀ node ∈ Piece.nodesOf pieces, node.IsFlat = true := by
  intro node member
  obtain ⟨piece, _, inside⟩ := List.mem_flatMap.mp member
  cases piece with
  | words text =>
      obtain ⟨letter, _, rfl⟩ := List.mem_map.mp inside
      rfl
  | group name optional greedy =>
      cases optional with
      | false =>
          cases List.mem_singleton.mp inside
          rfl
      | true =>
          cases List.mem_singleton.mp inside
          cases greedy with
          | false => rfl
          | true => rfl

/-- The first way through a group reads the first text from which there is a way on. Only a greedy
group may be missing.
-/
theorem exists_of_firstChain_group {name : String} {optional greedy : Bool}
    (tight : optional = true → greedy = true) (flat : ∀ node ∈ others, node.IsFlat = true)
    (first : firstChain ((Piece.group name optional greedy).nodes ++ others) start = some stop)
    : ∃ read,
        Piece.Admits optional read
        ∧ read <+: start.after
        ∧ firstChain others ((start.move read).record name start.position) = some stop
        ∧ ∀ other,
            Piece.Admits optional other
            → other <+: start.after
            → TriedBefore greedy other read
            → firstChain others ((start.move other).record name start.position) = none := by
  cases optional with
  | false =>
      obtain ⟨read, ⟨some_, line⟩, part, reaches, misses⟩ := exists_of_firstChain_run first
      refine ⟨read, ⟨fun _ => some_, line⟩, part, reaches, ?_⟩
      intro other admitted
      exact misses other ⟨admitted.1 rfl, admitted.2⟩
  | true =>
      cases tight rfl
      obtain ⟨read, line, part, reaches, misses⟩ := exists_of_firstChain_anyRun flat first
      refine ⟨read, ⟨by simp, line⟩, part, reaches, ?_⟩
      intro other admitted
      exact misses other admitted.2

/-- The first way through words and a group lets the group capture the first text that it would try
of those behind which the other nodes read on.
-/
theorem exists_of_firstChain_words {words name : String} {optional greedy : Bool}
    {captured : List (String × List Char)} (tight : optional = true → greedy = true)
    (flat : ∀ node ∈ others, node.IsFlat = true)
    (first
      : firstChain
          (Piece.nodesOf (.words words :: .group name optional greedy :: pieces) ++ others) start
        = some stop)
    (has : start.HasRead text captured)
    : ∃ opening content next,
        SameLetters words.toList opening
        ∧ Piece.Admits optional content
        ∧ start.after = opening ++ (content ++ next.after)
        ∧ next.HasRead text ((name, content) :: captured)
        ∧ firstChain (Piece.nodesOf pieces ++ others) next = some stop
        ∧ ∀ opening' other rest,
            SameLetters words.toList opening'
            → Piece.Admits optional other
            → start.after = opening' ++ (other ++ rest)
            → TriedBefore greedy other content
            → ¬ ∀ middle : Thread,
                middle.after = rest
                → ∃ stop, Chain (Piece.nodesOf pieces ++ others) middle stop := by
  have flatRest : ∀ node ∈ Piece.nodesOf pieces ++ others, node.IsFlat = true := by
    intro node member
    rcases List.mem_append.mp member with inside | outside
    · exact isFlat_nodesOf pieces node inside
    · exact flat node outside
  unfold Piece.nodesOf at first
  rw [List.flatMap_cons, List.flatMap_cons, List.append_assoc, List.append_assoc] at first
  obtain ⟨opening, same, ⟨rest, next⟩, first⟩ := exists_of_firstChain_letters first
  obtain ⟨content, admitted, ⟨more, next'⟩, reaches, misses⟩ :=
    exists_of_firstChain_group tight flatRest first
  have behind := Thread.move_after next.symm
  have reads := Thread.reads_move next.symm
  have reads' := Thread.reads_record name next'.symm
  refine ⟨opening, content, _, same, admitted, ?_, (has.advance reads).advance reads', reaches, ?_⟩
  · rw [reads.after, reads'.after]
  · intro opening' other rest' same' admitted' whole before leads
    have length : opening.length = opening'.length := same.length_eq.trans same'.length_eq.symm
    obtain ⟨rfl, tails⟩ := List.append_inj (next.trans whole) length
    have part : other <+: (start.move opening).after := by
      rw [behind, tails]
      exact List.prefix_append _ _
    have stuck := (firstChain_eq_none_iff flatRest).mp (misses other admitted' part before)
    obtain ⟨stop', chain⟩ := leads (((start.move opening).move other).record name
      (start.move opening).position) (Thread.move_after (behind.trans tails))
    exact stuck stop' chain

end pieces

end Rehearsal.Pattern
