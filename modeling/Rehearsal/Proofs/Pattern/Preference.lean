import Rehearsal.Proofs.Pattern.Sequence

/-! Which of the ways to read a text is taken. Every node tries its ends in order, and the nodes
behind it are tried anew at each of them, so the first node is as greedy, or as modest, as the
others allow.
-/

namespace Rehearsal.Pattern

open Text

-----------------------------------------------------------------------------------------
-- The first way through several nodes
-----------------------------------------------------------------------------------------

/-- The first way through several nodes, where every end of a node is tried in its order. -/
def firstChain : List Node → Thread → Option Thread
  | [], thread => some thread
  | node :: nodes, thread => (node.ends thread).findSome? (firstChain nodes)

/-- The first way is one of the ways, by induction on the nodes. -/
theorem chain_of_firstChain {nodes : List Node} {start stop : Thread}
    (first : firstChain nodes start = some stop)
    : Chain nodes start stop := by
  induction nodes generalizing start with
  | nil =>
      cases first
      exact .nil _
  | cons node nodes ih =>
      obtain ⟨middle, member, rest⟩ := List.exists_of_findSome?_eq_some first
      exact .cons (leads_of_mem_ends member) (ih rest)

/-- There is a first way wherever there is a way, by induction on the way. -/
theorem isSome_firstChain {nodes : List Node} {start stop thread : Thread}
    (chain : Chain nodes start stop) (flat : ∀ node ∈ nodes, node.IsFlat = true)
    (same : thread.SamePlace start)
    : (firstChain nodes thread).isSome = true := by
  induction chain generalizing thread with
  | nil => rfl
  | cons leads _ ih =>
      obtain ⟨head, tail⟩ := List.forall_mem_cons.mp flat
      obtain ⟨found, member, place⟩ := exists_mem_ends leads head same
      exact List.findSome?_isSome_iff.mpr ⟨found, member, ih tail place⟩

theorem firstChain_eq_none_iff {nodes : List Node} {start : Thread}
    (flat : ∀ node ∈ nodes, node.IsFlat = true)
    : firstChain nodes start = none ↔ ∀ stop, ¬ Chain nodes start stop := by
  constructor
  · intro none stop chain
    have first := isSome_firstChain chain flat (.refl start)
    rw [none] at first
    cases first
  · intro stuck
    cases first : firstChain nodes start with
    | none => rfl
    | some stop => exact (stuck stop (chain_of_firstChain first)).elim

-----------------------------------------------------------------------------------------
-- Ends that are left out because another one is at the same place
-----------------------------------------------------------------------------------------

section distinct

variable {threads : List Thread} {further : Thread → Option Thread}

/-- What is skipped leads nowhere, if what was seen at its place has led nowhere, by induction on
the threads.
-/
theorem findSome?_distinctFrom {seen : Nat}
    (alike
      : ∀ first ∈ threads, ∀ second ∈ threads,
          first.position = second.position
          → further first = none
          → further second = none)
    (stuck
      : ∀ thread ∈ threads, seen.testBit thread.position = true → further thread = none)
    : (distinctFrom seen threads).findSome? further = threads.findSome? further := by
  induction threads generalizing seen with
  | nil => rfl
  | cons head rest ih =>
      have alikeRest : ∀ first ∈ rest, ∀ second ∈ rest,
          first.position = second.position
          → further first = none
          → further second = none :=
        fun first member second member' =>
          alike first (List.mem_cons_of_mem _ member) second (List.mem_cons_of_mem _ member')
      obtain ⟨stuckHead, stuckRest⟩ := List.forall_mem_cons.mp stuck
      unfold distinctFrom
      split
      next skipped =>
        rw [ih alikeRest stuckRest, List.findSome?_cons_of_isNone]
        exact Option.isNone_iff_eq_none.mpr (stuckHead skipped)
      next =>
        cases leads : further head with
        | some stop => simp only [List.findSome?_cons, leads]
        | none =>
            simp only [List.findSome?_cons, leads]
            apply ih alikeRest
            intro thread member there
            rw [Nat.testBit_or, Bool.or_eq_true, Nat.one_shiftLeft, Nat.testBit_two_pow,
              decide_eq_true_eq] at there
            rcases there with before | here
            · exact stuckRest thread member before
            · exact alike head List.mem_cons_self thread (List.mem_cons_of_mem _ member) here leads

theorem findSome?_distinct
    (alike
      : ∀ first ∈ threads, ∀ second ∈ threads,
          first.position = second.position
          → further first = none
          → further second = none)
    : (distinct threads).findSome? further = threads.findSome? further := by
  unfold distinct
  split
  · rfl
  · rfl
  · apply findSome?_distinctFrom alike
    intro thread _ seen
    rw [Nat.zero_testBit] at seen
    cases seen

end distinct

/-- From two threads at one place the same nodes lead on. -/
theorem firstChain_eq_none_of_samePlace {nodes : List Node}
    (flat : ∀ node ∈ nodes, node.IsFlat = true) {first second : Thread}
    (same : first.SamePlace second) (stuck : firstChain nodes first = none)
    : firstChain nodes second = none := by
  cases leads : firstChain nodes second with
  | none => rfl
  | some stop =>
      have other := isSome_firstChain (chain_of_firstChain leads) flat same
      rw [stuck] at other
      cases other

/-- The nodes after the first two parts are tried at the ends of the second part, which is tried at
the ends of the first one.
-/
theorem findSome?_ends_andThen {first second : Node} {nodes : List Node} {start : Thread}
    (flat : ∀ node ∈ nodes, node.IsFlat = true)
    : ((first.andThen second).ends start).findSome? (firstChain nodes)
      = (first.ends start).findSome? (firstChain (second :: nodes)) := by
  unfold Node.andThen
  split
  next =>
    change _ = List.findSome? _ [start]
    rw [List.findSome?_singleton]
    rfl
  next =>
    refine congrArg (fun further => List.findSome? further _) (funext fun middle => ?_)
    exact (List.findSome?_singleton).symm
  next =>
    change (distinct ((first.ends start).flatMap second.ends)).findSome? (firstChain nodes) = _
    rw [findSome?_distinct]
    · induction first.ends start with
      | nil => rfl
      | cons middle rest ih =>
          rw [List.flatMap_cons, List.findSome?_append, ih, List.findSome?_cons]
          change (firstChain (second :: nodes) middle).or _ = _
          cases firstChain (second :: nodes) middle with
          | none => rfl
          | some stop => rfl
    · have onwards : ∀ thread ∈ (first.ends start).flatMap second.ends, start.Precedes thread := by
        intro thread member
        obtain ⟨middle, there, beyond⟩ := List.mem_flatMap.mp member
        exact (leads_of_mem_ends there).precedes.trans (leads_of_mem_ends beyond).precedes
      intro thread member other member' position
      apply firstChain_eq_none_of_samePlace flat
      exact (onwards thread member).samePlace (onwards other member') position

/-- The most preferred end of several nodes is where the first way through them stops, by induction
on the nodes.
-/
theorem head?_ends_concat {nodes : List Node} {start : Thread}
    (flat : ∀ node ∈ nodes, node.IsFlat = true)
    : ((Node.concat nodes).ends start).head? = firstChain nodes start := by
  have further (before : Node) : ((nodes.foldl Node.andThen before).ends start).head?
      = (before.ends start).findSome? (firstChain nodes) := by
    induction nodes generalizing before with
    | nil =>
        change (before.ends start).head? = (before.ends start).findSome? some
        cases before.ends start with
        | nil => rfl
        | cons found rest => rfl
    | cons node nodes ih =>
        obtain ⟨_, tail⟩ := List.forall_mem_cons.mp flat
        rw [List.foldl_cons, ih tail, findSome?_ends_andThen tail]
  refine (further .empty).trans ?_
  exact List.findSome?_singleton

theorem search_of_head? {node : Node} {text : List Char} {found : Thread}
    (head : (node.ends (.start text)).head? = some found)
    : node.search text = some found := by
  obtain ⟨rest, ends⟩ := List.head?_eq_some_iff.mp head
  unfold Node.search
  cases text with
  | nil => exact head
  | cons c text => rw [Node.searchFrom, ends]

/-- An anchored node finds the first way through its parts. -/
theorem search_anchored {nodes : List Node} {text : List Char}
    (flat : ∀ node ∈ nodes, node.IsFlat = true)
    : (Node.anchored nodes).search text = firstChain nodes (.start text) := by
  have flatAll : ∀ node ∈ Node.look .textStart :: nodes, node.IsFlat = true :=
    List.forall_mem_cons.mpr ⟨rfl, flat⟩
  have head : ((Node.anchored nodes).ends (.start text)).head? = firstChain nodes (.start text) :=
    (head?_ends_concat flatAll).trans List.findSome?_singleton
  cases first : firstChain nodes (.start text) with
  | some stop =>
      rw [first] at head
      exact search_of_head? head
  | none =>
      cases hit : (Node.anchored nodes).search text with
      | none => rfl
      | some found =>
          exact ((firstChain_eq_none_iff flat).mp first found (chain_of_search hit)).elim

-----------------------------------------------------------------------------------------
-- Letters and runs
-----------------------------------------------------------------------------------------

/-- The first way through letters reads them in any case, by induction on the letters. -/
theorem exists_of_firstChain_letters {text : List Char} {nodes : List Node} {start stop : Thread}
    (first : firstChain (lettersOf text ++ nodes) start = some stop)
    : ∃ read,
        SameLetters text read
        ∧ read <+: start.after
        ∧ firstChain nodes (start.move read) = some stop := by
  induction text generalizing start with
  | nil => exact ⟨[], .nil, List.nil_prefix, by rwa [Thread.move_nil]⟩
  | cons letter text ih =>
      obtain ⟨middle, member, later⟩ := List.exists_of_findSome?_eq_some first
      obtain ⟨c, rest, next, same, rfl⟩ := leads_chars.mp (leads_of_mem_ends member)
      obtain ⟨read, sameLater, part, reaches⟩ := ih later
      refine ⟨c :: read, .cons (mem_literalSet.mp same) sameLater, ?_, ?_⟩
      · rw [next]
        exact List.cons_prefix_cons.mpr ⟨rfl, part⟩
      · rwa [← Thread.move_cons next]

/-- One text is tried before another one: the longer one by a greedy run, else the shorter one. -/
def TriedBefore (greedy : Bool) (first second : List Char) : Prop :=
  if greedy then second.length < first.length else first.length < second.length

/-- One place is tried before another one. -/
def Thread.TriedBefore (greedy : Bool) (first second : Thread) : Prop :=
  if greedy then second.position < first.position else first.position < second.position

theorem position_lt_of_mem_runs {set : CharSet} {thread found : Thread} {text : List Char}
    (member : found ∈ runs set thread text)
    : thread.position < found.position := by
  induction text generalizing thread with
  | nil => cases member
  | cons c rest ih =>
      unfold runs at member
      split at member
      · rcases List.mem_cons.mp member with rfl | later
        · exact Nat.lt_succ_self _
        · exact Nat.lt_trans (Nat.lt_succ_self _) (ih later)
      · cases member

/-- The ends of a run stand one behind the other, by induction on the characters to come. -/
theorem pairwise_runs (set : CharSet) (thread : Thread) (text : List Char)
    : (runs set thread text).Pairwise (Thread.TriedBefore false) := by
  induction text generalizing thread with
  | nil => exact .nil
  | cons c rest ih =>
      unfold runs
      split
      · exact .cons (fun _ later => position_lt_of_mem_runs later) (ih _)
      · exact .nil

/-- The ends of a run are tried in the order that its greed asks for. -/
theorem pairwise_ends_plus (set : CharSet) (greedy : Bool) (thread : Thread)
    : ((Node.plus (.chars set) greedy).ends thread).Pairwise (Thread.TriedBefore greedy) := by
  have upwards := pairwise_runs set thread thread.after
  cases greedy with
  | false => exact upwards
  | true => exact List.pairwise_reverse.mpr upwards

/-- The ends of a run are the places behind what it can read. -/
theorem mem_ends_lineChars {greedy : Bool} {start found : Thread}
    : found ∈ (Node.plus (.chars lineChars) greedy).ends start
      ↔ ∃ read, (read ≠ [] ∧ '\n' ∉ read) ∧ read <+: start.after ∧ found = start.move read := by
  constructor
  · intro member
    obtain ⟨read, some_, line, part, rfl⟩ := leads_plus_lineChars.mp (leads_of_mem_ends member)
    exact ⟨read, ⟨some_, line⟩, part, rfl⟩
  · rintro ⟨read, ⟨some_, line⟩, part, rfl⟩
    have leads : (Node.plus (.chars lineChars) greedy).Leads start (start.move read) :=
      leads_plus_lineChars.mpr ⟨read, some_, line, part, rfl⟩
    obtain ⟨other, member, place⟩ := exists_mem_ends leads rfl (.refl start)
    obtain ⟨read', _, _, part', rfl⟩ := leads_plus_lineChars.mp (leads_of_mem_ends member)
    have length : read'.length = read.length := Nat.add_left_cancel place.position
    have same : read' = read :=
      (List.prefix_of_prefix_length_le part' part (Nat.le_of_eq length)).eq_of_length length
    exact same ▸ member

/-- Of the texts that can be read up to the threads that are tried in turn, the first one from which
there is a way on is read.
-/
theorem exists_of_findSome?_tried {start stop : Thread} {tried : List Thread} {greedy : Bool}
    {admits : List Char → Prop} {further : Thread → Option Thread}
    (ends
      : ∀ found,
          found ∈ tried ↔ ∃ read, admits read ∧ read <+: start.after ∧ found = start.move read)
    (ordered : tried.Pairwise (Thread.TriedBefore greedy))
    (first : tried.findSome? further = some stop)
    : ∃ read,
        admits read
        ∧ read <+: start.after
        ∧ further (start.move read) = some stop
        ∧ ∀ other,
            admits other
            → other <+: start.after
            → TriedBefore greedy other read
            → further (start.move other) = none := by
  obtain ⟨earlier, found, later, split, reaches, misses⟩ := List.findSome?_eq_some_iff.mp first
  have member : found ∈ tried := split ▸ List.mem_append_right _ List.mem_cons_self
  obtain ⟨read, admitted, part, rfl⟩ := (ends found).mp member
  refine ⟨read, admitted, part, reaches, ?_⟩
  intro other admitted' part' before
  have member' : start.move other ∈ tried := (ends _).mpr ⟨other, admitted', part', rfl⟩
  rw [split] at member' ordered
  have behind := (List.pairwise_cons.mp (List.pairwise_append.mp ordered).2.1).1
  -- Whatever is tried at or behind the found place is not tried before it.
  rcases List.mem_append.mp member' with inside | rest
  · exact misses _ inside
  · have order : Thread.TriedBefore greedy (start.move other) (start.move read) := by
      cases greedy with
      | true => exact Nat.add_lt_add_left before _
      | false => exact Nat.add_lt_add_left before _
    rcases List.mem_cons.mp rest with same | inside
    · rw [same] at order
      cases greedy with
      | true => exact (Nat.lt_irrefl _ order).elim
      | false => exact (Nat.lt_irrefl _ order).elim
    · have reverse := behind _ inside
      cases greedy with
      | true => exact (Nat.lt_asymm order reverse).elim
      | false => exact (Nat.lt_asymm order reverse).elim

/-- The first way through a captured run reads the first text from which there is a way on. -/
theorem exists_of_firstChain_run {name : String} {greedy : Bool} {nodes : List Node}
    {start stop : Thread} (first : firstChain (run name greedy :: nodes) start = some stop)
    : ∃ read,
        (read ≠ [] ∧ '\n' ∉ read)
        ∧ read <+: start.after
        ∧ firstChain nodes ((start.move read).record name start.position) = some stop
        ∧ ∀ other,
            other ≠ [] ∧ '\n' ∉ other
            → other <+: start.after
            → TriedBefore greedy other read
            → firstChain nodes ((start.move other).record name start.position) = none := by
  change (((Node.plus (.chars lineChars) greedy).ends start).map _).findSome? _ = _ at first
  rw [List.findSome?_map] at first
  exact exists_of_findSome?_tried (fun _ => mem_ends_lineChars) (pairwise_ends_plus _ _ _) first

/-- The first way through a captured run that may be missing, too, reads as much as it can. -/
theorem exists_of_firstChain_anyRun {name : String} {nodes : List Node} {start stop : Thread}
    (flat : ∀ node ∈ nodes, node.IsFlat = true)
    (first : firstChain (anyRun name true :: nodes) start = some stop)
    : ∃ read,
        '\n' ∉ read
        ∧ read <+: start.after
        ∧ firstChain nodes ((start.move read).record name start.position) = some stop
        ∧ ∀ other,
            '\n' ∉ other
            → other <+: start.after
            → TriedBefore true other read
            → firstChain nodes ((start.move other).record name start.position) = none := by
  let runEnds := (Node.plus (.chars lineChars) true).ends start
  have ends (found : Thread)
      : found ∈ runEnds ++ [start]
        ↔ ∃ read, '\n' ∉ read ∧ read <+: start.after ∧ found = start.move read := by
    rw [List.mem_append, mem_ends_lineChars, List.mem_singleton]
    constructor
    · rintro (⟨read, ⟨_, line⟩, part, rfl⟩ | rfl)
      · exact ⟨read, line, part, rfl⟩
      · exact ⟨[], List.not_mem_nil, List.nil_prefix, (Thread.move_nil _).symm⟩
    · rintro ⟨read, line, part, rfl⟩
      by_cases nothing : read = []
      · subst nothing
        exact .inr (Thread.move_nil start)
      · exact .inl ⟨read, ⟨nothing, line⟩, part, rfl⟩
  have ordered : (runEnds ++ [start]).Pairwise (Thread.TriedBefore true) := by
    refine List.pairwise_append.mpr ⟨pairwise_ends_plus _ _ _, List.pairwise_singleton _ _, ?_⟩
    intro found member last same
    cases List.mem_singleton.mp same
    exact position_lt_of_mem_runs (mem_ends_plus.mp member)
  have onwards : ∀ found ∈ runEnds ++ [start], start.Precedes found := by
    intro found member
    obtain ⟨read, _, ⟨rest, next⟩, rfl⟩ := (ends found).mp member
    refine ⟨read, ?_, .refl _⟩
    rw [Thread.move_after next.symm, next]
  change ((distinct (runEnds ++ [start])).map _).findSome? _ = _ at first
  rw [List.findSome?_map, findSome?_distinct] at first
  · exact exists_of_findSome?_tried ends ordered first
  · intro found member other member' position
    have place := (onwards found member).samePlace (onwards other member') position
    apply firstChain_eq_none_of_samePlace flat
    exact ⟨place.position, place.before, place.after⟩

end Rehearsal.Pattern
