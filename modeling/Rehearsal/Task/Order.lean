import Rehearsal.Dict

/-!
The order in which the tasks of a plan run. The plan's tasks are first listed with the setup tasks
they need, setups first. That list is then walked, and every task that runs lets the tasks waiting
for it run next, breadth first, so that each task runs once, after all its setups. Tasks on or
above a cycle of setups never become ready and are left out.
-/

namespace Rehearsal.Order

/-- The setup tasks of a name; an unknown name has none. -/
def setupsOf (setups : Dict (List String)) (name : String) : List String :=
  (setups.get? name).getD []

/-- The total weight of the names that are not done yet. -/
def openWeight (weight : String → Nat) (done : List String) : List String → Nat
  | [] => 0
  | name :: rest =>
      (if done.contains name then 0 else weight name) + openWeight weight done rest

/-- A name weighs no more once a further name is done. -/
theorem weight_cons_le (weight : String → Nat) (name head : String) (done : List String)
    : (if (name :: done).contains head then 0 else weight head)
      ≤ if done.contains head then 0 else weight head := by
  cases known : done.contains head with
  | true =>
      have still : (name :: done).contains head = true := by
        rw [List.contains_cons, known, Bool.or_true]
      simp only [still, ↓reduceIte, Nat.le_refl]
  | false =>
      simp only [Bool.false_eq_true, ↓reduceIte]
      split
      next => exact Nat.zero_le _
      next => exact Nat.le_refl _

theorem openWeight_cons_le (weight : String → Nat) (name : String) (done names : List String)
    : openWeight weight (name :: done) names ≤ openWeight weight done names := by
  induction names with
  | nil => exact Nat.le_refl _
  | cons head rest ih => exact Nat.add_le_add (weight_cons_le weight name head done) ih

/-- Once a name is done, its own weight counts no more. -/
theorem openWeight_cons_lt (weight : String → Nat) {name : String} {done names : List String}
    (member : name ∈ names) (fresh : done.contains name = false)
    : openWeight weight (name :: done) names + weight name ≤ openWeight weight done names := by
  induction names with
  | nil => cases member
  | cons head rest ih =>
      unfold openWeight
      rcases List.mem_cons.mp member with rfl | later
      · have here : (name :: done).contains name = true := by simp
        have others := openWeight_cons_le weight name done rest
        simp only [here, fresh, Bool.false_eq_true, ↓reduceIte]
        omega
      · have others := ih later
        rw [Nat.add_assoc]
        exact Nat.add_le_add (weight_cons_le weight name head done) others

/-- What is left to do of a depth-first walk: enter a name, or list it after its setups. -/
inductive Visit where
  | enter (name : String)
  | list (name : String)

/-- The number of moves that a visit takes by itself. -/
def Visit.weight : Visit → Nat
  | enter _ => 2
  | list _ => 1

/-- The number of moves that the visits to come take by themselves. -/
def visitsWeight : List Visit → Nat
  | [] => 0
  | visit :: rest => visit.weight + visitsWeight rest

theorem visitsWeight_enter_append (names : List String) (rest : List Visit)
    : visitsWeight (names.map .enter ++ rest) = 2 * names.length + visitsWeight rest := by
  induction names with
  | nil => simp
  | cons name names ih =>
      simp only [List.map_cons, List.cons_append, visitsWeight, Visit.weight, ih,
        List.length_cons]
      omega

/-- The weight of the setup lists that the walk has not entered. -/
def setupsWeight (setups : Dict (List String)) (name : String) : Nat :=
  2 * (setupsOf setups name).length

/-- Walks the visits to come. A name is entered once; entering it puts its setups ahead of it. -/
def walk (setups : Dict (List String)) (entered : List String) : List Visit → List String
  | [] => []
  | .list name :: rest => name :: walk setups entered rest
  | .enter name :: rest =>
      if entered.contains name then walk setups entered rest
      else walk setups (name :: entered) ((setupsOf setups name).map .enter ++ .list name :: rest)
termination_by visits => openWeight (setupsWeight setups) entered setups.keys + visitsWeight visits
decreasing_by
  · simp only [visitsWeight, Visit.weight]
    omega
  · simp only [visitsWeight, Visit.weight]
    omega
  · next fresh =>
      rw [visitsWeight_enter_append]
      simp only [visitsWeight, Visit.weight]
      by_cases known : name ∈ setups.keys
      · have := openWeight_cons_lt (setupsWeight setups) known (by simpa using fresh)
        simp only [setupsWeight] at this ⊢
        omega
      · have none : setupsOf setups name = [] := by
          have : setups.get? name = none := by
            simp only [Dict.get?, Option.map_eq_none_iff, List.find?_eq_none]
            intro binding member same
            exact known (List.mem_map.mpr ⟨binding, member, by simpa using same⟩)
          simp [setupsOf, this]
        have := openWeight_cons_le (setupsWeight setups) name entered setups.keys
        simp only [none, List.length_nil]
        omega

/-- The tasks with their transitive setup tasks, each once, setups ahead of the task that names
them. -/
def expand (setups : Dict (List String)) (tasks : List String) : List String :=
  walk setups [] (tasks.map .enter)

/-- Whether all setups of a task have run. -/
def isReady (setups : Dict (List String)) (run : List String) (name : String) : Bool :=
  (setupsOf setups name).all run.contains

/-- The listed tasks that name a listed task among their setups, once for each time they do. -/
def waiting (setups : Dict (List String)) (listed : List String) (name : String) : List String :=
  if listed.contains name then
    listed.flatMap fun task =>
      ((setupsOf setups task).filter fun setup => setup == name).map fun _ => task
  else []

/-- Takes tasks from a queue. A task that has not run and is ready runs, and the tasks waiting
for it join the queue; any other is dropped. The tasks that have run are kept newest first. -/
def drain (setups : Dict (List String)) (listed : List String) (run : List String)
    : List String → List String
  | [] => run
  | task :: queue =>
      if run.contains task || !isReady setups run task then drain setups listed run queue
      else drain setups listed (task :: run) (queue ++ waiting setups listed task)
termination_by queue =>
  openWeight (fun name => (waiting setups listed name).length) run listed + queue.length
decreasing_by
  · simp only [List.length_cons]
    omega
  · next fresh =>
      simp only [List.length_append, List.length_cons]
      have unrun : run.contains task = false := by simp_all
      by_cases known : task ∈ listed
      · have := openWeight_cons_lt (fun name => (waiting setups listed name).length)
          known unrun
        omega
      · have none : waiting setups listed task = [] := by simp [waiting, known]
        have := openWeight_cons_le (fun name => (waiting setups listed name).length)
          task run listed
        simp only [none, List.length_nil]
        omega

/-- Walks the listed tasks, draining the queue of each task that runs. -/
def schedule (setups : Dict (List String)) (listed : List String) (run : List String)
    : List String → List String
  | [] => run
  | task :: rest => schedule setups listed (drain setups listed run [task]) rest

/-- The order in which tasks run. -/
def ofTasks (setups : Dict (List String)) (tasks : List String) : List String :=
  let listed := expand setups tasks
  (schedule setups listed [] listed).reverse

end Rehearsal.Order
