import Rehearsal.Pattern

/-! What it means that a node matches: it leads from a place of a text to a later one. The matcher
finds nothing else, and, unless something longer than a set of characters is repeated, it finds
every place to which the node leads.
-/

namespace Rehearsal.Pattern

-----------------------------------------------------------------------------------------
-- Places of a text
-----------------------------------------------------------------------------------------

namespace Thread

/-- Two threads are at one place, whatever they have captured. -/
structure SamePlace (first second : Thread) : Prop where
  position : first.position = second.position
  before : first.before = second.before
  after : first.after = second.after

theorem SamePlace.refl (thread : Thread) : thread.SamePlace thread :=
  ⟨rfl, rfl, rfl⟩

theorem SamePlace.trans {first second third : Thread} (left : first.SamePlace second)
    (right : second.SamePlace third)
    : first.SamePlace third :=
  ⟨left.position.trans right.position, left.before.trans right.before,
    left.after.trans right.after⟩

/-- The place after some more characters. -/
def move (thread : Thread) (read : List Char) : Thread :=
  { thread with
    position := thread.position + read.length
    before := read.getLast?.or thread.before
    after := thread.after.drop read.length }

theorem move_nil (thread : Thread) : thread.move [] = thread := by
  simp [move]

theorem move_move (thread : Thread) (first second : List Char)
    : (thread.move first).move second = thread.move (first ++ second) := by
  simp only [move, List.length_append, List.drop_drop, List.getLast?_append, Option.or_assoc,
    Nat.add_assoc]

theorem step_eq_move {thread : Thread} {c : Char} {rest : List Char}
    (next : thread.after = c :: rest)
    : thread.step c rest = thread.move [c] := by
  simp [step, move, next]

theorem move_cons {thread : Thread} {c : Char} {rest : List Char}
    (next : thread.after = c :: rest) (read : List Char)
    : (thread.step c rest).move read = thread.move (c :: read) := by
  rw [step_eq_move next, move_move, List.singleton_append]

theorem move_after {thread : Thread} {read rest : List Char} (next : thread.after = read ++ rest)
    : (thread.move read).after = rest := by
  simp [move, next]

/-- The later thread is at a place after the earlier one, in the same text. -/
def Precedes (first second : Thread) : Prop :=
  ∃ read, first.after = read ++ second.after ∧ second.SamePlace (first.move read)

theorem Precedes.refl (thread : Thread) : thread.Precedes thread :=
  ⟨[], rfl, by rw [move_nil]; exact .refl thread⟩

theorem Precedes.trans {first second third : Thread} (left : first.Precedes second)
    (right : second.Precedes third)
    : first.Precedes third := by
  obtain ⟨read, next, same⟩ := left
  obtain ⟨more, next', same'⟩ := right
  refine ⟨read ++ more, by rw [next, next', List.append_assoc], ?_⟩
  rw [← move_move]
  refine same'.trans ⟨?_, ?_, ?_⟩
  · simp only [move, same.position]
  · simp only [move, same.before]
  · simp only [move, same.after]

/-- Two places after one place are the same if they have the same position. -/
theorem Precedes.samePlace {start first second : Thread} (left : start.Precedes first)
    (right : start.Precedes second) (position : first.position = second.position)
    : first.SamePlace second := by
  obtain ⟨read, next, same⟩ := left
  obtain ⟨read', next', same'⟩ := right
  have length : read.length = read'.length := by
    have positions := same.position.symm.trans (position.trans same'.position)
    simpa [move] using positions
  obtain ⟨rfl, after⟩ := List.append_inj (next.symm.trans next') length
  exact ⟨position, same.before.trans same'.before.symm, after⟩

end Thread

-----------------------------------------------------------------------------------------
-- Nodes that lead from place to place
-----------------------------------------------------------------------------------------

/-- A node leads from a thread to another one by reading the text between them. -/
inductive Node.Leads : Node → Thread → Thread → Prop where
  | empty (thread : Thread) : Leads .empty thread thread
  | chars {set thread c rest} (next : thread.after = c :: rest) (member : set.mem c = true)
    : Leads (.chars set) thread (thread.step c rest)
  | look {condition thread} (holds : condition.holds thread = true)
    : Leads (.look condition) thread thread
  | capture {name body start stop} (inner : Leads body start stop)
    : Leads (.capture name body) start (stop.record name start.position)
  | seq {first second start middle stop} (left : Leads first start middle)
    (right : Leads second middle stop)
    : Leads (.seq first second) start stop
  | altLeft {first second start stop} (left : Leads first start stop)
    : Leads (.alt first second) start stop
  | altRight {first second start stop} (right : Leads second start stop)
    : Leads (.alt first second) start stop
  | once {body greedy start stop} (inner : Leads body start stop)
    : Leads (.plus body greedy) start stop
  | again {body greedy start middle stop} (first : Leads body start middle)
    (rest : Leads (.plus body greedy) middle stop)
    : Leads (.plus body greedy) start stop

namespace Node.Leads

variable {node body : Node} {start middle stop : Thread} {greedy : Bool}

/-- A node leads onwards. -/
theorem precedes (leads : node.Leads start stop) : start.Precedes stop := by
  induction leads with
  | empty thread => exact .refl thread
  | look _ => exact .refl _
  | @chars _ thread c rest next _ =>
      exact ⟨[c], next, by rw [Thread.step_eq_move next]; exact .refl _⟩
  | capture _ ih =>
      obtain ⟨read, next, same⟩ := ih
      exact ⟨read, next, same.position, same.before, same.after⟩
  | seq _ _ left right => exact left.trans right
  | altLeft _ ih => exact ih
  | altRight _ ih => exact ih
  | once _ ih => exact ih
  | again _ _ first rest => exact first.trans rest

/-- A repetition may end in one more round. -/
theorem snoc (repeats : (Node.plus body greedy).Leads start middle)
    (last : body.Leads middle stop)
    : (Node.plus body greedy).Leads start stop := by
  generalize whole : Node.plus body greedy = node at repeats
  induction repeats with
  | once inner =>
      cases whole
      exact .again inner (.once last)
  | again first _ _ ih =>
      cases whole
      exact .again first (ih last rfl)
  | _ => cases whole

end Node.Leads

-----------------------------------------------------------------------------------------
-- The matcher finds nothing else
-----------------------------------------------------------------------------------------

theorem mem_of_mem_distinctFrom {seen : Nat} {threads : List Thread} {thread : Thread}
    (member : thread ∈ distinctFrom seen threads)
    : thread ∈ threads := by
  induction threads generalizing seen with
  | nil => cases member
  | cons head rest ih =>
      unfold distinctFrom at member
      split at member
      · exact List.mem_cons_of_mem _ (ih member)
      · rcases List.mem_cons.mp member with rfl | later
        · exact List.mem_cons_self
        · exact List.mem_cons_of_mem _ (ih later)

theorem mem_of_mem_distinct {threads : List Thread} {thread : Thread}
    (member : thread ∈ distinct threads)
    : thread ∈ threads := by
  unfold distinct at member
  split at member
  · exact member
  · exact member
  · exact mem_of_mem_distinctFrom member

/-- The ends of a run of characters, by induction on the characters to come. -/
theorem leads_of_mem_runs {set : CharSet} {greedy : Bool} {thread stop : Thread}
    {text : List Char} (next : thread.after = text) (member : stop ∈ runs set thread text)
    : (Node.plus (.chars set) greedy).Leads thread stop := by
  induction text generalizing thread with
  | nil => cases member
  | cons c rest ih =>
      unfold runs at member
      split at member
      next inside =>
        rcases List.mem_cons.mp member with rfl | later
        · exact .once (.chars next inside)
        · exact .again (.chars next inside) (ih rfl later)
      next => cases member

/-- The thread of a round. -/
def Round.thread : Round → Thread
  | begin_ thread => thread
  | leave thread => thread

/-- The rounds of a repetition lead on from where it started, by induction on the rounds made. -/
theorem leads_of_mem_rounds {body : Node} {greedy : Bool} {start stop : Thread}
    (sound : ∀ {first last}, last ∈ body.ends first → body.Leads first last) {fuel seen : Nat}
    {stack : List Round}
    (led : ∀ round ∈ stack, (Node.plus body greedy).Leads start round.thread)
    (member : stop ∈ rounds body.ends greedy fuel seen stack)
    : (Node.plus body greedy).Leads start stop := by
  induction fuel generalizing seen stack with
  | zero => simp [rounds] at member
  | succ fuel ih =>
      cases stack with
      | nil => simp [rounds] at member
      | cons round rest =>
          obtain ⟨here, below⟩ := List.forall_mem_cons.mp led
          cases round with
          | leave thread =>
              rcases List.mem_cons.mp member with rfl | later
              · exact here
              · exact ih below later
          | begin_ thread =>
              unfold rounds at member
              split at member
              · exact ih below member
              · have further : ∀ round ∈ (body.ends thread).map Round.begin_,
                    (Node.plus body greedy).Leads start round.thread := by
                  intro round inside
                  obtain ⟨next, reached, rfl⟩ := List.mem_map.mp inside
                  exact here.snoc (sound reached)
                refine ih ?_ member
                intro round inside
                split at inside
                · rcases List.mem_append.mp inside with new | old
                  · exact further round new
                  · rcases List.mem_cons.mp old with rfl | old
                    · exact here
                    · exact below round old
                · rcases List.mem_cons.mp inside with rfl | inside
                  · exact here
                  · rcases List.mem_append.mp inside with new | old
                    · exact further round new
                    · exact below round old

/-- A repetition of more than a set of characters is matched round by round. -/
theorem ends_plus {body : Node} (long : ∀ set, body ≠ .chars set) (greedy : Bool)
    (thread : Thread)
    : (Node.plus body greedy).ends thread
      = let size := thread.after.length + 2
        distinct (rounds body.ends greedy (size * (size + 1)) 0
          (firstRounds body.ends thread)) := by
  cases body with
  | chars set => exact absurd rfl (long set)
  | _ => rfl

/-- The matcher finds only ends to which the node leads, by induction on the node. -/
theorem leads_of_mem_ends {node : Node} {start stop : Thread} (member : stop ∈ node.ends start)
    : node.Leads start stop := by
  induction node generalizing start stop with
  | empty => exact List.mem_singleton.mp member ▸ .empty start
  | chars set =>
      unfold Node.ends at member
      split at member
      next => cases member
      next c rest next =>
        split at member
        next inside => exact List.mem_singleton.mp member ▸ .chars next inside
        next => cases member
  | look condition =>
      unfold Node.ends at member
      split at member
      next holds =>
        cases List.mem_singleton.mp member
        exact .look holds
      next => cases member
  | capture name body ih =>
      obtain ⟨found, inner, rfl⟩ := List.mem_map.mp member
      exact .capture (ih inner)
  | seq first second left right =>
      obtain ⟨middle, inner, outer⟩ := List.mem_flatMap.mp (mem_of_mem_distinct member)
      exact .seq (left inner) (right outer)
  | alt first second left right =>
      rcases List.mem_append.mp (mem_of_mem_distinct member) with inner | outer
      · exact .altLeft (left inner)
      · exact .altRight (right outer)
  | plus body greedy ih =>
      by_cases short : ∃ set, body = .chars set
      · obtain ⟨set, rfl⟩ := short
        unfold Node.ends at member
        refine leads_of_mem_runs rfl ?_
        cases greedy with
        | true => exact List.mem_reverse.mp member
        | false => exact member
      · have long : ∀ set, body ≠ .chars set := fun set same => short ⟨set, same⟩
        rw [ends_plus long] at member
        refine leads_of_mem_rounds ih ?_ (mem_of_mem_distinct member)
        intro round inside
        obtain ⟨next, reached, rfl⟩ := List.mem_map.mp inside
        split <;> exact .once (ih reached)

-----------------------------------------------------------------------------------------
-- The matcher finds every place
-----------------------------------------------------------------------------------------

/-- Nothing but a set of characters is repeated. -/
def Node.IsFlat : Node → Bool
  | .empty | .chars _ | .look _ => true
  | .capture _ body => body.IsFlat
  | .seq first second | .alt first second => first.IsFlat && second.IsFlat
  | .plus (.chars _) _ => true
  | .plus _ _ => false

theorem exists_mem_distinctFrom {seen : Nat} {threads : List Thread} {thread : Thread}
    (member : thread ∈ threads) (unseen : seen.testBit thread.position = false)
    : ∃ kept ∈ distinctFrom seen threads, kept.position = thread.position := by
  induction threads generalizing seen with
  | nil => cases member
  | cons head rest ih =>
      unfold distinctFrom
      split
      next skipped =>
        rcases List.mem_cons.mp member with rfl | later
        · simp [unseen] at skipped
        · exact ih later unseen
      next =>
        by_cases same : head.position = thread.position
        · exact ⟨head, List.mem_cons_self, same⟩
        · have later : thread ∈ rest := by
            rcases List.mem_cons.mp member with rfl | later
            · exact absurd rfl same
            · exact later
          have fresh : (seen ||| 1 <<< head.position).testBit thread.position = false := by
            rw [Nat.testBit_or, unseen, Nat.one_shiftLeft, Nat.testBit_two_pow]
            simpa using same
          obtain ⟨kept, inside, at_⟩ := ih later fresh
          exact ⟨kept, List.mem_cons_of_mem _ inside, at_⟩

/-- In a flat node only sets of characters are repeated. -/
theorem exists_chars_of_isFlat {body : Node} {greedy : Bool}
    (flat : (Node.plus body greedy).IsFlat = true)
    : ∃ set, body = .chars set := by
  cases body with
  | chars set => exact ⟨set, rfl⟩
  | _ => simp [Node.IsFlat] at flat

theorem mem_ends_plus {set : CharSet} {greedy : Bool} {thread found : Thread}
    : found ∈ (Node.plus (.chars set) greedy).ends thread
      ↔ found ∈ runs set thread thread.after := by
  cases greedy with
  | true => exact List.mem_reverse
  | false => exact Iff.rfl

/-- Of the threads at a position one is kept. -/
theorem exists_mem_distinct {threads : List Thread} {thread : Thread} (member : thread ∈ threads)
    : ∃ kept ∈ distinct threads, kept.position = thread.position := by
  unfold distinct
  split
  · exact ⟨thread, member, rfl⟩
  · exact ⟨thread, member, rfl⟩
  · exact exists_mem_distinctFrom member (Nat.zero_testBit _)

/-- Conditions depend on the place only. -/
theorem Look.holds_congr {first second : Thread} (same : first.SamePlace second)
    (condition : Look)
    : condition.holds first = condition.holds second := by
  unfold Look.holds
  rw [same.position, same.before, same.after]

/-- An end that another one at its position stands for is found after all. -/
theorem exists_end_of_mem {threads : List Thread} {start found stop : Thread}
    (onwards : ∀ thread ∈ threads, start.Precedes thread) (member : found ∈ threads)
    (same : found.SamePlace stop)
    : ∃ kept ∈ distinct threads, kept.SamePlace stop := by
  obtain ⟨kept, inside, position⟩ := exists_mem_distinct member
  have behind := onwards kept (mem_of_mem_distinct inside)
  have place := behind.samePlace (onwards found member) position
  exact ⟨kept, inside, place.trans same⟩

theorem precedes_of_mem_either (first second : Node) (thread : Thread)
    : ∀ other ∈ first.ends thread ++ second.ends thread, thread.Precedes other := by
  intro other member
  rcases List.mem_append.mp member with there | there
  · exact (leads_of_mem_ends there).precedes
  · exact (leads_of_mem_ends there).precedes

/-- From every thread at the place the matcher finds an end at the place to which the node leads,
by induction on how it leads there.
-/
theorem exists_mem_ends {node : Node} {start stop thread : Thread}
    (leads : node.Leads start stop) (flat : node.IsFlat = true) (same : thread.SamePlace start)
    : ∃ found ∈ node.ends thread, found.SamePlace stop := by
  induction leads generalizing thread with
  | empty => exact ⟨thread, List.mem_singleton_self _, same⟩
  | @chars set start c rest next inside =>
      refine ⟨thread.step c rest, ?_, ?_⟩
      · simp [Node.ends, same.after, next, inside]
      · exact ⟨congrArg (· + 1) same.position, rfl, rfl⟩
  | look holds =>
      refine ⟨thread, ?_, same⟩
      simp [Node.ends, Look.holds_congr same, holds]
  | @capture name body start stop _ ih =>
      obtain ⟨found, inside, place⟩ := ih flat same
      exact ⟨found.record name thread.position, List.mem_map_of_mem inside,
        ⟨place.position, place.before, place.after⟩⟩
  | @seq first second start middle stop _ _ left right =>
      obtain ⟨flatFirst, flatSecond⟩ := Bool.and_eq_true_iff.mp flat
      obtain ⟨between, inside, place⟩ := left flatFirst same
      obtain ⟨found, inside', place'⟩ := right flatSecond place
      have onwards : ∀ other ∈ (first.ends thread).flatMap second.ends, thread.Precedes other := by
        intro other member
        obtain ⟨via, there, beyond⟩ := List.mem_flatMap.mp member
        exact (leads_of_mem_ends there).precedes.trans (leads_of_mem_ends beyond).precedes
      exact exists_end_of_mem onwards (List.mem_flatMap_of_mem inside inside') place'
  | @altLeft first second start stop _ ih =>
      obtain ⟨found, inside, place⟩ := ih (Bool.and_eq_true_iff.mp flat).1 same
      exact exists_end_of_mem (precedes_of_mem_either first second thread)
        (List.mem_append_left _ inside) place
  | @altRight first second start stop _ ih =>
      obtain ⟨found, inside, place⟩ := ih (Bool.and_eq_true_iff.mp flat).2 same
      exact exists_end_of_mem (precedes_of_mem_either first second thread)
        (List.mem_append_right _ inside) place
  | @once body greedy start stop inner _ =>
      obtain ⟨set, rfl⟩ := exists_chars_of_isFlat flat
      cases inner with
      | @chars _ _ c rest next inside =>
          refine ⟨thread.step c rest, mem_ends_plus.mpr ?_, ?_⟩
          · rw [same.after, next, runs, if_pos inside]
            exact List.mem_cons_self
          · exact ⟨congrArg (· + 1) same.position, rfl, rfl⟩
  | @again body greedy start middle stop first _ _ ih =>
      obtain ⟨set, rfl⟩ := exists_chars_of_isFlat flat
      cases first with
      | @chars _ _ c rest next inside =>
          have further : (thread.step c rest).SamePlace (start.step c rest) :=
            ⟨congrArg (· + 1) same.position, rfl, rfl⟩
          obtain ⟨found, later, place⟩ := ih flat further
          refine ⟨found, mem_ends_plus.mpr ?_, place⟩
          rw [same.after, next, runs, if_pos inside]
          exact List.mem_cons_of_mem _ (mem_ends_plus.mp later)

-----------------------------------------------------------------------------------------
-- Searches
-----------------------------------------------------------------------------------------

/-- A search finds only ends to which the node leads from some place of the text, by induction on
the characters to come.
-/
theorem leads_of_searchFrom {node : Node} {text : List Char} {thread found : Thread}
    (next : thread.after = text) (hit : node.searchFrom thread text = some found)
    : ∃ read, read <+: text ∧ node.Leads (thread.move read) found := by
  induction text generalizing thread with
  | nil =>
      refine ⟨[], List.nil_prefix, ?_⟩
      rw [Thread.move_nil]
      exact leads_of_mem_ends (List.mem_of_mem_head? hit)
  | cons c rest ih =>
      unfold Node.searchFrom at hit
      split at hit
      next first _ ends =>
        cases hit
        refine ⟨[], List.nil_prefix, ?_⟩
        rw [Thread.move_nil]
        exact leads_of_mem_ends (ends ▸ List.mem_cons_self)
      next =>
        obtain ⟨read, part, leads⟩ := ih (show (thread.step c rest).after = rest from rfl) hit
        exact ⟨c :: read, (List.cons_prefix_cons).mpr ⟨rfl, part⟩,
          Thread.move_cons next read ▸ leads⟩

/-- If the node leads on from the start of a text, a search ends at an end from there. -/
theorem exists_search_eq_some {node : Node} {text : List Char} {stop : Thread}
    (leads : node.Leads (.start text) stop) (flat : node.IsFlat = true)
    : ∃ found, node.search text = some found ∧ node.Leads (.start text) found := by
  obtain ⟨end_, member, _⟩ := exists_mem_ends leads flat (.refl _)
  cases ends : node.ends (.start text) with
  | nil => simp [ends] at member
  | cons found rest =>
      refine ⟨found, ?_, leads_of_mem_ends (ends ▸ List.mem_cons_self)⟩
      unfold Node.search
      cases text with
      | nil => rw [Node.searchFrom, ends, List.head?_cons]
      | cons c rest => rw [Node.searchFrom, ends]

end Rehearsal.Pattern
