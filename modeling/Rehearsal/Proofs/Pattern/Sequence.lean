import Rehearsal.Proofs.Pattern.Matching
import Rehearsal.Proofs.Text.LetterCase

/-! Patterns that are read from the start of a text, one part after another: letters in any case,
and captured runs of characters between them.
-/

namespace Rehearsal.Pattern

open Text

-----------------------------------------------------------------------------------------
-- Nodes one after another
-----------------------------------------------------------------------------------------

/-- The node that reads what several nodes read, one after another. -/
def Node.concat (nodes : List Node) : Node :=
  nodes.foldl Node.andThen .empty

/-- Nodes lead from a thread to another one, one after another. -/
inductive Chain : List Node → Thread → Thread → Prop where
  | nil (thread : Thread) : Chain [] thread thread
  | cons {node nodes start middle stop} (first : node.Leads start middle)
    (rest : Chain nodes middle stop)
    : Chain (node :: nodes) start stop

theorem leads_empty {start stop : Thread} : Node.empty.Leads start stop ↔ stop = start := by
  constructor
  · intro leads
    cases leads
    rfl
  · rintro rfl
    exact .empty _

theorem leads_andThen {first second : Node} {start stop : Thread}
    : (first.andThen second).Leads start stop
      ↔ ∃ middle, first.Leads start middle ∧ second.Leads middle stop := by
  unfold Node.andThen
  split
  next =>
    constructor
    · intro leads
      exact ⟨start, .empty start, leads⟩
    · rintro ⟨middle, left, right⟩
      exact leads_empty.mp left ▸ right
  next =>
    constructor
    · intro leads
      exact ⟨stop, leads, .empty stop⟩
    · rintro ⟨middle, left, right⟩
      exact leads_empty.mp right ▸ left
  next =>
    constructor
    · intro leads
      cases leads with
      | seq left right => exact ⟨_, left, right⟩
    · rintro ⟨middle, left, right⟩
      exact .seq left right

theorem chain_nil {start stop : Thread} : Chain [] start stop ↔ stop = start := by
  constructor
  · intro chain
    cases chain
    rfl
  · rintro rfl
    exact .nil _

theorem chain_cons {node : Node} {nodes : List Node} {start stop : Thread}
    : Chain (node :: nodes) start stop
      ↔ ∃ middle, node.Leads start middle ∧ Chain nodes middle stop := by
  constructor
  · intro chain
    cases chain with
    | cons first rest => exact ⟨_, first, rest⟩
  · rintro ⟨middle, first, rest⟩
    exact .cons first rest

theorem chain_append {nodes others : List Node} {start stop : Thread}
    : Chain (nodes ++ others) start stop
      ↔ ∃ middle, Chain nodes start middle ∧ Chain others middle stop := by
  induction nodes generalizing start with
  | nil => simp [chain_nil]
  | cons node nodes ih =>
      simp only [List.cons_append, chain_cons, ih]
      constructor
      · rintro ⟨next, first, middle, chain, rest⟩
        exact ⟨middle, ⟨next, first, chain⟩, rest⟩
      · rintro ⟨middle, ⟨next, first, chain⟩, rest⟩
        exact ⟨next, first, middle, chain, rest⟩

/-- Nodes lead onwards. -/
theorem Chain.precedes {nodes : List Node} {start stop : Thread} (chain : Chain nodes start stop)
    : start.Precedes stop := by
  induction chain with
  | nil thread => exact .refl thread
  | cons first _ ih => exact first.precedes.trans ih

/-- The node of several nodes leads where they lead, by induction on the nodes. -/
theorem leads_concat {nodes : List Node} {start stop : Thread}
    : (Node.concat nodes).Leads start stop ↔ Chain nodes start stop := by
  have further (before : Node) : (nodes.foldl Node.andThen before).Leads start stop
      ↔ ∃ middle, before.Leads start middle ∧ Chain nodes middle stop := by
    induction nodes generalizing before with
    | nil => simp [chain_nil]
    | cons node nodes ih =>
        simp only [List.foldl_cons, ih, leads_andThen, chain_cons]
        constructor
        · rintro ⟨middle, ⟨next, first, second⟩, rest⟩
          exact ⟨next, first, middle, second, rest⟩
        · rintro ⟨next, first, middle, second, rest⟩
          exact ⟨middle, ⟨next, first, second⟩, rest⟩
  unfold Node.concat
  simp [further, leads_empty]

theorem isFlat_andThen {first second : Node} (flatFirst : first.IsFlat = true)
    (flatSecond : second.IsFlat = true)
    : (first.andThen second).IsFlat = true := by
  unfold Node.andThen
  split
  · exact flatSecond
  · exact flatFirst
  · exact Bool.and_eq_true_iff.mpr ⟨flatFirst, flatSecond⟩

theorem isFlat_concat {nodes : List Node} (flat : ∀ node ∈ nodes, node.IsFlat = true)
    : (Node.concat nodes).IsFlat = true := by
  have further {before : Node} (flatBefore : before.IsFlat = true)
      : (nodes.foldl Node.andThen before).IsFlat = true := by
    induction nodes generalizing before with
    | nil => exact flatBefore
    | cons node nodes ih =>
        obtain ⟨head, tail⟩ := List.forall_mem_cons.mp flat
        exact ih tail (isFlat_andThen flatBefore head)
  exact further rfl

-----------------------------------------------------------------------------------------
-- Letters and runs
-----------------------------------------------------------------------------------------

/-- The nodes that read some letters in any case. -/
def lettersOf (text : List Char) : List Node :=
  text.map fun letter => .chars (literalSet { caseless := true } letter)

/-- The nodes that read a text in any letter case. -/
def letters (text : String) : List Node :=
  lettersOf text.toList

theorem leads_chars {set : CharSet} {start stop : Thread}
    : (Node.chars set).Leads start stop
      ↔ ∃ c rest, start.after = c :: rest ∧ set.mem c = true ∧ stop = start.step c rest := by
  constructor
  · intro leads
    cases leads with
    | chars next member => exact ⟨_, _, next, member, rfl⟩
  · rintro ⟨c, rest, next, member, rfl⟩
    exact .chars next member

/-- Letters read themselves in any case, by induction on the letters. -/
theorem chain_letters {text : List Char} {start stop : Thread}
    : Chain (lettersOf text) start stop
      ↔ ∃ read, SameLetters text read ∧ read <+: start.after ∧ stop = start.move read := by
  induction text generalizing start with
  | nil =>
      simp only [lettersOf, List.map_nil, chain_nil, SameLetters, List.forall₂_nil_left_iff]
      simp [Thread.move_nil]
  | cons letter text ih =>
      change Chain (_ :: lettersOf text) start stop ↔ _
      simp only [chain_cons, leads_chars, ih, mem_literalSet]
      constructor
      · rintro ⟨_, ⟨c, rest, next, same, rfl⟩, read, later, part, rfl⟩
        refine ⟨c :: read, .cons same later, ?_, Thread.move_cons next read⟩
        rw [next]
        exact List.cons_prefix_cons.mpr ⟨rfl, part⟩
      · rintro ⟨read, same, ⟨rest, next⟩, rfl⟩
        cases same with
        | @cons _ c _ read first later =>
            rw [List.cons_append] at next
            exact ⟨_, ⟨c, _, next.symm, first, rfl⟩, read, later, List.prefix_append _ _,
              (Thread.move_cons next.symm read).symm⟩

/-- All characters but line breaks. -/
def lineChars : CharSet :=
  (CharSet.ofPoints [10]).complement

theorem mem_lineChars {c : Char} : lineChars.mem c = true ↔ c ≠ '\n' := by
  have ranges : lineChars.ranges = [(0, 9), (11, 0x10FFFF)] := by decide
  have small : c.toNat ≤ 0x10FFFF := by
    have valid := c.valid
    simp only [UInt32.isValidChar, Nat.isValidChar] at valid
    change c.val.toNat ≤ _
    omega
  have newline : c = '\n' ↔ c.toNat = 10 :=
    ⟨fun same => same ▸ rfl, fun same => Char.ext (UInt32.toNat_inj.mp same)⟩
  rw [CharSet.mem_iff, ranges, Ne, newline]
  simp only [CharSet.holds_cons, CharSet.not_holds_nil, or_false]
  omega

/-- A captured run of characters without a line break. -/
def run (name : String) (greedy : Bool) : Node :=
  .capture name (.plus (.chars lineChars) greedy)

/-- A captured run of characters without a line break, which may be missing. -/
def anyRun (name : String) (greedy : Bool) : Node :=
  .capture name (Node.star (.chars lineChars) greedy)

/-- A repeated set of characters reads a run of them. -/
theorem leads_plus_chars {set : CharSet} {greedy : Bool} {start stop : Thread}
    : (Node.plus (.chars set) greedy).Leads start stop
      ↔ ∃ read, read ≠ [] ∧ (∀ c ∈ read, set.mem c = true) ∧ read <+: start.after
          ∧ stop = start.move read := by
  constructor
  · intro leads
    generalize whole : Node.plus (.chars set) greedy = node at leads
    induction leads with
    | once inner _ =>
        cases whole
        obtain ⟨c, rest, next, member, rfl⟩ := leads_chars.mp inner
        exact ⟨[c], by simp, by simpa using member, by simp [next], Thread.step_eq_move next⟩
    | again first _ _ ih =>
        cases whole
        obtain ⟨c, rest, next, member, rfl⟩ := leads_chars.mp first
        obtain ⟨read, _, members, part, rfl⟩ := ih rfl
        refine ⟨c :: read, by simp, List.forall_mem_cons.mpr ⟨member, members⟩, ?_,
          Thread.move_cons next read⟩
        rw [next]
        exact List.cons_prefix_cons.mpr ⟨rfl, part⟩
    | _ => cases whole
  · rintro ⟨read, some_, members, ⟨rest, next⟩, rfl⟩
    induction read generalizing start with
    | nil => exact absurd rfl some_
    | cons c read ih =>
        obtain ⟨member, others⟩ := List.forall_mem_cons.mp members
        rw [List.cons_append] at next
        rw [← Thread.move_cons next.symm]
        cases read with
        | nil =>
            rw [Thread.move_nil]
            exact .once (.chars next.symm member)
        | cons d read => exact .again (.chars next.symm member) (ih (by simp) others rfl)

/-- Repeated characters of a line read a part of a line. -/
theorem leads_plus_lineChars {greedy : Bool} {start stop : Thread}
    : (Node.plus (.chars lineChars) greedy).Leads start stop
      ↔ ∃ read, read ≠ [] ∧ '\n' ∉ read ∧ read <+: start.after ∧ stop = start.move read := by
  have unbroken (read : List Char) : (∀ c ∈ read, c ≠ '\n') ↔ '\n' ∉ read := by
    constructor
    · intro all member
      exact all _ member rfl
    · intro none c member same
      exact none (same ▸ member)
  simp only [leads_plus_chars, mem_lineChars, unbroken]

theorem leads_capture {name : String} {body : Node} {start stop : Thread}
    : (Node.capture name body).Leads start stop
      ↔ ∃ found, body.Leads start found ∧ stop = found.record name start.position := by
  constructor
  · intro leads
    cases leads with
    | capture inner => exact ⟨_, inner, rfl⟩
  · rintro ⟨found, inner, rfl⟩
    exact .capture inner

theorem leads_alt {first second : Node} {start stop : Thread}
    : (Node.alt first second).Leads start stop
      ↔ first.Leads start stop ∨ second.Leads start stop := by
  constructor
  · intro leads
    cases leads with
    | altLeft left => exact .inl left
    | altRight right => exact .inr right
  · rintro (left | right)
    · exact .altLeft left
    · exact .altRight right

/-- What can be left out reads something or nothing. -/
theorem leads_opt {body : Node} {greedy : Bool} {start stop : Thread}
    : (body.opt greedy).Leads start stop ↔ body.Leads start stop ∨ stop = start := by
  unfold Node.opt
  cases greedy with
  | true => simp only [↓reduceIte, leads_alt, leads_empty]
  | false => simp only [Bool.false_eq_true, ↓reduceIte, leads_alt, leads_empty, or_comm]

theorem leads_run {name : String} {greedy : Bool} {start stop : Thread}
    : (run name greedy).Leads start stop
      ↔ ∃ read, read ≠ [] ∧ '\n' ∉ read ∧ read <+: start.after
          ∧ stop = (start.move read).record name start.position := by
  simp only [run, leads_capture, leads_plus_lineChars]
  constructor
  · rintro ⟨_, ⟨read, some_, line, part, rfl⟩, rfl⟩
    exact ⟨read, some_, line, part, rfl⟩
  · rintro ⟨read, some_, line, part, rfl⟩
    exact ⟨_, ⟨read, some_, line, part, rfl⟩, rfl⟩

theorem leads_anyRun {name : String} {greedy : Bool} {start stop : Thread}
    : (anyRun name greedy).Leads start stop
      ↔ ∃ read, '\n' ∉ read ∧ read <+: start.after
          ∧ stop = (start.move read).record name start.position := by
  simp only [anyRun, Node.star, leads_capture, leads_opt, leads_plus_lineChars]
  constructor
  · rintro ⟨_, ⟨read, some_, line, part, rfl⟩ | rfl, rfl⟩
    · exact ⟨read, line, part, rfl⟩
    · exact ⟨[], by simp, List.nil_prefix, by rw [Thread.move_nil]⟩
  · rintro ⟨read, line, part, rfl⟩
    refine ⟨_, ?_, rfl⟩
    cases read with
    | nil => exact .inr (Thread.move_nil start)
    | cons c read => exact .inl ⟨c :: read, by simp, line, part, rfl⟩

/-- The later thread stands behind what is read from the earlier one on, with one more capture if
a name is given.
-/
structure Thread.Reads (start : Thread) (name : Option String) (read : List Char)
    (next : Thread) : Prop where
  after : start.after = read ++ next.after
  position : next.position = start.position + read.length
  captures
    : next.captures
      = (name.map fun name => (name, start.position, next.position)).toList ++ start.captures

theorem Thread.reads_move {start : Thread} {read rest : List Char}
    (next : start.after = read ++ rest)
    : start.Reads none read (start.move read) :=
  ⟨by rw [move_after next, next], rfl, rfl⟩

theorem Thread.reads_record {start : Thread} {read rest : List Char} (name : String)
    (next : start.after = read ++ rest)
    : start.Reads (some name) read ((start.move read).record name start.position) :=
  ⟨(reads_move next).after, rfl, rfl⟩

/-- Letters and then other nodes read a text from its start. -/
theorem exists_reads_of_letters {text : List Char} {nodes : List Node} {start stop : Thread}
    (chain : Chain (lettersOf text ++ nodes) start stop)
    : ∃ read next, start.Reads none read next ∧ SameLetters text read ∧ Chain nodes next stop := by
  obtain ⟨_, first, later⟩ := chain_append.mp chain
  obtain ⟨read, same, ⟨rest, next⟩, rfl⟩ := chain_letters.mp first
  exact ⟨read, _, Thread.reads_move next.symm, same, later⟩

/-- A captured run and then other nodes read a text from its start. -/
theorem exists_reads_of_run {name : String} {greedy : Bool} {nodes : List Node}
    {start stop : Thread} (chain : Chain (run name greedy :: nodes) start stop)
    : ∃ read next,
        start.Reads name read next ∧ read ≠ [] ∧ '\n' ∉ read ∧ Chain nodes next stop := by
  obtain ⟨_, first, later⟩ := chain_cons.mp chain
  obtain ⟨read, some_, line, ⟨rest, next⟩, rfl⟩ := leads_run.mp first
  exact ⟨read, _, Thread.reads_record name next.symm, some_, line, later⟩

theorem exists_reads_of_anyRun {name : String} {greedy : Bool} {nodes : List Node}
    {start stop : Thread} (chain : Chain (anyRun name greedy :: nodes) start stop)
    : ∃ read next, start.Reads name read next ∧ '\n' ∉ read ∧ Chain nodes next stop := by
  obtain ⟨_, first, later⟩ := chain_cons.mp chain
  obtain ⟨read, line, ⟨rest, next⟩, rfl⟩ := leads_anyRun.mp first
  exact ⟨read, _, Thread.reads_record name next.symm, line, later⟩

/-- Letters that a text starts with are read, if the other nodes read on behind them. -/
theorem exists_chain_letters {text read rest : List Char} {nodes : List Node} {start : Thread}
    (next : start.after = read ++ rest) (same : SameLetters text read)
    (further : ∀ middle : Thread, middle.after = rest → ∃ stop, Chain nodes middle stop)
    : ∃ stop, Chain (lettersOf text ++ nodes) start stop := by
  obtain ⟨stop, later⟩ := further (start.move read) (Thread.move_after next)
  exact ⟨stop, chain_append.mpr
    ⟨_, chain_letters.mpr ⟨read, same, ⟨rest, next.symm⟩, rfl⟩, later⟩⟩

/-- A run that a text starts with is read, if the other nodes read on behind it. -/
theorem exists_chain_run {name : String} {greedy : Bool} {read rest : List Char}
    {nodes : List Node} {start : Thread} (next : start.after = read ++ rest) (some_ : read ≠ [])
    (line : '\n' ∉ read)
    (further : ∀ middle : Thread, middle.after = rest → ∃ stop, Chain nodes middle stop)
    : ∃ stop, Chain (run name greedy :: nodes) start stop := by
  obtain ⟨stop, later⟩ := further ((start.move read).record name start.position)
    (Thread.move_after next)
  exact ⟨stop, .cons (leads_run.mpr ⟨read, some_, line, ⟨rest, next.symm⟩, rfl⟩) later⟩

theorem exists_chain_anyRun {name : String} {greedy : Bool} {read rest : List Char}
    {nodes : List Node} {start : Thread} (next : start.after = read ++ rest) (line : '\n' ∉ read)
    (further : ∀ middle : Thread, middle.after = rest → ∃ stop, Chain nodes middle stop)
    : ∃ stop, Chain (anyRun name greedy :: nodes) start stop := by
  obtain ⟨stop, later⟩ := further ((start.move read).record name start.position)
    (Thread.move_after next)
  exact ⟨stop, .cons (leads_anyRun.mpr ⟨read, line, ⟨rest, next.symm⟩, rfl⟩) later⟩

-----------------------------------------------------------------------------------------
-- Patterns from the start of a text
-----------------------------------------------------------------------------------------

/-- The node that reads several nodes from the start of a text. -/
def Node.anchored (nodes : List Node) : Node :=
  .concat (.look .textStart :: nodes)

/-- An anchored node is found only at the start of a text. -/
theorem chain_of_search {nodes : List Node} {text : List Char} {found : Thread}
    (hit : (Node.anchored nodes).search text = some found)
    : Chain nodes (.start text) found := by
  obtain ⟨read, _, leads⟩ := leads_of_searchFrom rfl hit
  obtain ⟨middle, look, chain⟩ := chain_cons.mp (leads_concat.mp leads)
  cases look with
  | look holds =>
      have atStart : ((Thread.start text).move read).position = 0 := by
        simpa [Look.holds] using holds
      have nothing : read = [] := by
        simpa [Thread.move, Thread.start] using atStart
      rwa [nothing, Thread.move_nil] at chain

/-- An anchored node is found if it leads on from the start of a text. -/
theorem exists_search_of_chain {nodes : List Node} {text : List Char} {stop : Thread}
    (chain : Chain nodes (.start text) stop) (flat : ∀ node ∈ nodes, node.IsFlat = true)
    : ∃ found, (Node.anchored nodes).search text = some found := by
  have leads : (Node.anchored nodes).Leads (.start text) stop :=
    leads_concat.mpr (.cons (.look rfl) chain)
  have flatAll : (Node.anchored nodes).IsFlat = true :=
    isFlat_concat (List.forall_mem_cons.mpr ⟨rfl, flat⟩)
  obtain ⟨found, hit, _⟩ := exists_search_eq_some leads flatAll
  exact ⟨found, hit⟩

/-- The sets of characters with which nodes begin do not allow for how a text begins. -/
def Conflicts : List Node → List Char → Bool
  | .chars set :: nodes, c :: text => !set.mem c || Conflicts nodes text
  | _, _ => false

/-- Nodes do not lead on where the text conflicts with them, by induction on how it begins. -/
theorem not_chain_of_conflicts {nodes : List Node} {known rest : List Char}
    {start stop : Thread} (conflict : Conflicts nodes known = true)
    (begins : start.after = known ++ rest)
    : ¬ Chain nodes start stop := by
  induction known generalizing nodes start with
  | nil => cases nodes <;> simp [Conflicts] at conflict
  | cons c known ih =>
      cases nodes with
      | nil => simp [Conflicts] at conflict
      | cons node nodes =>
          cases node with
          | chars set =>
              intro chain
              obtain ⟨middle, first, later⟩ := chain_cons.mp chain
              obtain ⟨d, others, next, member, rfl⟩ := leads_chars.mp first
              rw [begins, List.cons_append] at next
              cases next
              rcases Bool.or_eq_true_iff.mp conflict with outside | below
              · simp [member] at outside
              · exact ih below rfl later
          | _ => simp [Conflicts] at conflict

end Rehearsal.Pattern
