import EcmaEdition.Detection.Finder
import EcmaEdition.Proofs.Feature.Set
import EcmaEdition.Proofs.Tree.Site
import Mathlib.Logic.Function.Iterate

/-!
# What a visit finds

A finder visits a tree with a list of tasks: it takes the first task, adds what the rules say about
the task's node, and puts the node's children in the task's place. What is still to be done at any
time is the agenda: the tasks in the list and all those that will come from them. One turn of the
loop takes the first item off the agenda and changes nothing else about it, and this is the
invariant that everything here rests on.

The agenda of a single tree is known without the loop. It has one task for each site of the tree, in
document order, and the scope of a site is that of the root unless the site lies below a function.
So the loop ends after one turn for each node, and what it leaves is what it had found before
together with what the rules say at each site. The same set comes from a recursion over the tree
that keeps no list at all.
-/

set_option autoImplicit false

namespace EcmaEdition

namespace Rule

/-- The scope below some nodes: below a function it is the function's, and else it stays. -/
def Scope.within (scope : Scope) (above : List Node) : Scope :=
  if scope = .function ∨ ∃ ancestor ∈ above, isFunction ancestor = true then .function
  else .outermost

/-- With nothing above it a node has the scope of the walk. -/
@[simp] theorem Scope.within_nil (scope : Scope) : scope.within [] = scope := by
  cases scope <;> simp [Scope.within]

/-- The nodes above a node change the scope one after the other. -/
@[simp] theorem Scope.within_cons (scope : Scope) (ancestor : Node) (above : List Node) :
    scope.within (ancestor :: above) = (scope.below ancestor).within above := by
  unfold Scope.within Scope.below
  by_cases inside : isFunction ancestor = true
  · simp [inside]
  · simp [inside]

/-- Inside a function the scope does not change. -/
theorem Scope.function_within (above : List Node) : Scope.function.within above = .function := by
  simp [Scope.within]

/-- A walk from outside of all functions is inside one below any function. -/
theorem Scope.outermost_within_eq_function_iff (above : List Node) :
    Scope.outermost.within above = .function ↔
      ∃ ancestor ∈ above, isFunction ancestor = true := by
  simp [Scope.within]

/-- A walk from outside of all functions stays outside where no function is above. -/
theorem Scope.outermost_within_eq_outermost_iff (above : List Node) :
    Scope.outermost.within above = .outermost ↔
      ∀ ancestor ∈ above, isFunction ancestor ≠ true := by
  simp [Scope.within]

end Rule

namespace Finder

open EcmaEdition.Rule

/-! ## The recursion over the tree -/

mutual

/-- The features of a tree in a scope, found child by child. -/
def walk : Scope → Node → FeatureSet
  | scope, ⟨label, children⟩ =>
    features scope ⟨label, children⟩ ∪ walks (scope.below ⟨label, children⟩) children

/-- The features of some trees in one scope. -/
def walks : Scope → List Node → FeatureSet
  | _, [] => ∅
  | scope, node :: rest => walk scope node ∪ walks scope rest

end

/-- The walk through several nodes puts the walks through each together. -/
theorem walks_eq_unions (scope : Scope) (nodes : List Node) :
    walks scope nodes = FeatureSet.unions (nodes.map (walk scope)) := by
  induction nodes with
  | nil => rfl
  | cons node rest ih => rw [walks, ih, List.map_cons, FeatureSet.unions_cons]

/-- The walk through a node finds what the node shows and what its children do in the scope below
it. -/
theorem walk_eq (scope : Scope) (node : Node) :
    walk scope node =
      features scope node ∪ FeatureSet.unions (node.children.map (walk (scope.below node))) := by
  cases node
  rw [walk, walks_eq_unions]

/-! ## The agenda -/

/-- What the rules say about the node of a task. -/
def yield (task : Task) : FeatureSet :=
  features task.1 task.2

/-- What the rules say about the nodes of some tasks. -/
def yields (tasks : List Task) : FeatureSet :=
  FeatureSet.unions (tasks.map yield)

/-- Without tasks nothing is found. -/
@[simp] theorem yields_nil : yields [] = ∅ := rfl

/-- Tasks find what the first one finds and what the others do. -/
@[simp] theorem yields_cons (task : Task) (rest : List Task) :
    yields (task :: rest) = yield task ∪ yields rest := rfl

/-- Tasks behind other tasks find what both find. -/
theorem yields_append (front back : List Task) :
    yields (front ++ back) = yields front ∪ yields back := by
  rw [yields, List.map_append, FeatureSet.unions_append]
  rfl

/-- Tasks that are replaced by several find what all of these find. -/
theorem yields_flatMap (tasks : List Task) (expand : Task → List Task) :
    yields (tasks.flatMap expand) = FeatureSet.unions (tasks.map fun task => yields (expand task)) := by
  induction tasks with
  | nil => rfl
  | cons task rest ih =>
    rw [List.flatMap_cons, yields_append, ih, List.map_cons, FeatureSet.unions_cons]

/-- The tasks that come from a task, itself included: one for each site of its tree. -/
def agenda (task : Task) : List Task :=
  task.2.sites.map fun site => (task.1.within site.above, site.node)

/-- The sites of some children are the tasks that come from them. -/
theorem map_sitesFrom (scope : Scope) (parent : Node) (start : Nat) (children : List Node) :
    (Node.sitesFrom parent start children).map
        (fun site => (scope.within site.above, site.node)) =
      (children.map (scope.below parent, ·)).flatMap agenda := by
  induction children generalizing start with
  | nil => simp [Node.sitesFrom]
  | cons child rest ih =>
    rw [Node.sitesFrom, List.map_append, List.map_map, ih, List.map_cons, List.flatMap_cons]
    congr 1
    unfold agenda
    apply List.map_congr_left
    intro site _
    simp

/-- The agenda of a task is the task and then the agendas of its children. -/
theorem agenda_eq (scope : Scope) (node : Node) :
    agenda (scope, node) = (scope, node) :: (subtasks scope node).flatMap agenda := by
  rw [agenda, Node.sites_eq, List.map_cons, map_sitesFrom]
  simp only [Site.above_root, Site.node_root, Scope.within_nil]
  rfl

/-- As many tasks come from a task as its tree has nodes. -/
@[simp] theorem length_agenda (task : Task) : (agenda task).length = task.2.size := by
  rw [agenda, List.length_map, Node.length_sites]

/-- A recursion over the tree finds what the rules say about the tasks of the agenda. -/
theorem walk_eq_yields_agenda (scope : Scope) (node : Node) :
    walk scope node = yields (agenda (scope, node)) := by
  induction node using Node.induction generalizing scope with
  | step node ih =>
    rw [walk_eq, agenda_eq, yields_cons, yields_flatMap, subtasks, List.map_map]
    have same : node.children.map (walk (scope.below node)) =
        node.children.map ((fun task => yields (agenda task)) ∘ (scope.below node, ·)) := by
      apply List.map_congr_left
      intro child member
      exact ih child member (scope.below node)
    rw [same, yield]

/-! ## The loop -/

/-- What the loop holds between two turns: the features found and the tasks to do. -/
abbrev State := FeatureSet × List Task

/-- One turn of the loop. Without tasks nothing is left to do. -/
def turn : State → State
  | (found, []) => (found, [])
  | (found, (scope, node) :: rest) => (found ∪ features scope node, subtasks scope node ++ rest)

/-- What is still to be done, now and later. -/
def pending (state : State) : List Task :=
  state.2.flatMap agenda

/-- The loop goes on until nothing is pending. -/
theorem tasks_eq_nil_of_pending {state : State} (done : pending state = []) : state.2 = [] := by
  obtain ⟨found, tasks⟩ := state
  cases tasks with
  | nil => rfl
  | cons task rest =>
    rw [pending, List.flatMap_cons, agenda_eq] at done
    simp at done

/-- The next task is the first one that is pending. -/
theorem head?_tasks (state : State) : state.2.head? = (pending state).head? := by
  obtain ⟨found, tasks⟩ := state
  cases tasks with
  | nil => rfl
  | cons task rest =>
    rw [pending, List.flatMap_cons, agenda_eq]
    rfl

/-- A turn takes the first pending task off and leaves the others as they are. -/
theorem pending_turn (state : State) : pending (turn state) = (pending state).tail := by
  obtain ⟨found, tasks⟩ := state
  cases tasks with
  | nil => rfl
  | cons task rest =>
    obtain ⟨scope, node⟩ := task
    rw [turn, pending, pending, List.flatMap_append, List.flatMap_cons, agenda_eq]
    rfl

/-- A turn adds what the rules say about the first pending task. -/
theorem found_turn (state : State) :
    (turn state).1 = state.1 ∪ yields ((pending state).take 1) := by
  obtain ⟨found, tasks⟩ := state
  cases tasks with
  | nil => simp [turn, pending]
  | cons task rest =>
    obtain ⟨scope, node⟩ := task
    rw [turn, pending, List.flatMap_cons, agenda_eq]
    simp [yield]

/-- After some turns that many pending tasks are done, and the others are pending still. -/
theorem pending_iterate (turns : Nat) (state : State) :
    pending (turn^[turns] state) = (pending state).drop turns := by
  induction turns generalizing state with
  | zero => rfl
  | succ turns ih =>
    rw [Function.iterate_succ_apply, ih, pending_turn, List.drop_tail]

/-- After some turns the rules have been applied to that many of the pending tasks. -/
theorem found_iterate (turns : Nat) (state : State) :
    (turn^[turns] state).1 = state.1 ∪ yields ((pending state).take turns) := by
  induction turns with
  | zero => simp
  | succ turns ih =>
    rw [Function.iterate_succ_apply', found_turn, ih, pending_iterate, FeatureSet.union_assoc,
      ← yields_append, ← List.take_add]

/-- The loop ends after one turn for each pending task. -/
theorem iterate_pending (state : State) :
    turn^[(pending state).length] state = (state.1 ∪ yields (pending state), []) := by
  apply Prod.ext
  · rw [found_iterate, List.take_length]
  · apply tasks_eq_nil_of_pending
    rw [pending_iterate, List.drop_length]

/-- The run of the loop does not change when a turn of it is taken first. -/
theorem run_turn (state : State) : run (turn state).1 (turn state).2 = run state.1 state.2 := by
  obtain ⟨found, tasks⟩ := state
  cases tasks with
  | nil => rfl
  | cons task rest =>
    obtain ⟨scope, node⟩ := task
    rw [turn, run]

/-- The loop may be entered behind any number of its turns. -/
theorem run_iterate (turns : Nat) (state : State) :
    run (turn^[turns] state).1 (turn^[turns] state).2 = run state.1 state.2 := by
  induction turns with
  | zero => rfl
  | succ turns ih => rw [Function.iterate_succ_apply', run_turn, ih]

/-- A run leaves what was found before and what the rules say about all that was pending. -/
theorem run_eq (found : FeatureSet) (tasks : List Task) :
    run found tasks = found ∪ yields (tasks.flatMap agenda) := by
  have whole := run_iterate (pending (found, tasks)).length (found, tasks)
  rw [iterate_pending, run] at whole
  exact whole.symm

/-- What is pending at first is the agenda of the root. -/
theorem pending_single (found : FeatureSet) (scope : Scope) (root : Node) :
    pending (found, [(scope, root)]) = agenda (scope, root) := by
  rw [pending, List.flatMap_cons, List.flatMap_nil, List.append_nil]

/-- A visit adds what the recursion over the tree finds. -/
theorem visit_eq_walk (found : FeatureSet) (scope : Scope) (root : Node) :
    visit found scope root = found ∪ walk scope root := by
  rw [visit, run_eq, walk_eq_yields_agenda]
  simp

/-- Visiting trees one after the other adds what the recursion finds in each. -/
theorem foldl_visit (found : FeatureSet) (scope : Scope) (nodes : List Node) :
    nodes.foldl (visit · scope ·) found = found ∪ walks scope nodes := by
  induction nodes generalizing found with
  | nil => simp [walks]
  | cons node rest ih =>
    rw [List.foldl_cons, ih, visit_eq_walk, walks, FeatureSet.union_assoc]

/-- What the rules say about a tree if each site has the scope that is assigned to it. -/
def shownUnder (assigned : Site → Scope) (tree : Node) : FeatureSet :=
  FeatureSet.unions (tree.sites.map fun site => features (assigned site) site.node)

/-- A feature is shown under some scopes if a named node shows it in the scope of its site. -/
theorem mem_shownUnder_iff (feature : Feature) (assigned : Site → Scope) (tree : Node) :
    feature ∈ shownUnder assigned tree ↔
      ∃ site ∈ tree.sites, site.node.named = true ∧ feature ∈ ofKind (assigned site) site.node := by
  rw [shownUnder, FeatureSet.mem_unions]
  constructor
  · rintro ⟨set, listed, member⟩
    obtain ⟨site, inside, rfl⟩ := List.mem_map.mp listed
    unfold features at member
    split at member
    · rename_i named
      exact ⟨site, inside, named, member⟩
    · exact absurd member (FeatureSet.not_mem_empty feature)
  · rintro ⟨site, inside, named, member⟩
    refine ⟨_, List.mem_map_of_mem inside, ?_⟩
    rw [features, if_pos named]
    exact member

/-- A recursion finds what the rules say in the scopes that it comes with. -/
theorem walk_eq_shownUnder (scope : Scope) (tree : Node) :
    walk scope tree = shownUnder (fun site => scope.within site.above) tree := by
  rw [walk_eq_yields_agenda, yields, agenda, List.map_map]
  rfl

/-- A feature that a recursion finds is one that the rules give at a named site. -/
theorem mem_walk_iff (feature : Feature) (scope : Scope) (root : Node) :
    feature ∈ walk scope root ↔
      ∃ site ∈ root.sites, site.node.named = true ∧
        feature ∈ ofKind (scope.within site.above) site.node := by
  rw [walk_eq_shownUnder, mem_shownUnder_iff]

/-- A visit that begins with nothing finds what the walk finds. -/
theorem visit_empty (scope : Scope) (root : Node) : visit ∅ scope root = walk scope root := by
  rw [visit_eq_walk, FeatureSet.empty_union]

/-- The features of a tree are those that a recursion finds in the outermost scope. -/
theorem find_eq_walk (root : Node) : find root = walk .outermost root :=
  visit_empty .outermost root

/-- A program shows a feature if a named node shows it in the scope that the nodes above it make. -/
theorem mem_find_iff (feature : Feature) (root : Node) :
    feature ∈ find root ↔
      ∃ site ∈ root.sites, site.node.named = true ∧
        feature ∈ ofKind (Scope.outermost.within site.above) site.node := by
  rw [find_eq_walk, mem_walk_iff]

/-- A visit of a tree takes one turn for each node, in document order, and leaves exactly what had
been found before together with what the rules give at the named sites of the tree. A site is in a
function's scope if the visit began in one or if the site lies below a function. The same set comes
from a recursion over the tree, and from visiting the children in turn, each in the scope that the
root gives to all of them; so a function changes nothing for the siblings that come after it. -/
theorem visit_exact (found : FeatureSet) (scope : Scope) (root : Node) :
    (∀ turns, (turn^[turns] (found, [(scope, root)])).2.head? =
          (root.sites[turns]?).map (fun site => (scope.within site.above, site.node)) ∧
        (turn^[turns] (found, [(scope, root)])).1 =
          found ∪ FeatureSet.unions ((root.sites.take turns).map fun site =>
            features (scope.within site.above) site.node)) ∧
      turn^[root.size] (found, [(scope, root)]) = (visit found scope root, []) ∧
      (∀ feature, feature ∈ visit found scope root ↔
        feature ∈ found ∨ ∃ site ∈ root.sites, site.node.named = true ∧
          feature ∈ ofKind
            (if scope = .function ∨ ∃ ancestor ∈ site.above, isFunction ancestor = true
              then .function else .outermost) site.node) ∧
      visit found scope root = found ∪ walk scope root ∧
      visit found scope root =
        root.children.foldl (visit · (scope.below root) ·) (found ∪ features scope root) ∧
      find root = visit ∅ .outermost root := by
  refine ⟨?_, ?_, ?_, visit_eq_walk found scope root, ?_, rfl⟩
  · intro turns
    constructor
    · rw [head?_tasks, pending_iterate, pending_single, List.head?_drop, agenda, List.getElem?_map]
    · rw [found_iterate, pending_single, agenda, ← List.map_take, yields, List.map_map]
      rfl
  · have ends := iterate_pending (found, [(scope, root)])
    rw [pending_single, length_agenda, ← walk_eq_yields_agenda, ← visit_eq_walk] at ends
    exact ends
  · intro feature
    rw [visit_eq_walk, FeatureSet.mem_union, mem_walk_iff]
    rfl
  · rw [foldl_visit, visit_eq_walk, walk_eq, walks_eq_unions, FeatureSet.union_assoc]

/-- An `await` behind a function belongs to the outermost code again. -/
example :
    find ⟨{ kind := "program" }, [
      ⟨{ kind := "function_declaration" }, [⟨{ kind := "await_expression" }, []⟩]⟩,
      ⟨{ kind := "await_expression" }, []⟩]⟩ =
        {Feature.asyncFunctions} ∪ {Feature.topLevelAwait} := by
  rw [find_eq_walk]
  decide

end Finder

end EcmaEdition
