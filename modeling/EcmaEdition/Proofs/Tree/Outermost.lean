import EcmaEdition.Proofs.Tree.Site
import EcmaEdition.Tree.Problem
import Mathlib.Data.Prod.Lex
import Mathlib.Logic.Function.Iterate

/-!
# The outermost problems

The search for problems goes through a tree with a list of the trees that are still to be searched.
It reports a problem and leaves out what is below it, and it replaces any other node by its children.
Here its result is described without the search: it reports the sites that are problems and lie below
no problem, in document order.

The reason is a step on sites. Below a problem no site is reported, and below any other node a site
is reported in the whole tree if it is reported in the child it lies in. The rest is about places:
of two reported sites none lies below the other, and every problem lies below or at exactly one
reported site.
-/

set_option autoImplicit false

namespace EcmaEdition

namespace Problem

/-- A node is a problem by its kind `ERROR`, by being missing, or by a kind that opens with
`jsx_`. -/
theorem isProblem_iff (node : Node) :
    isProblem node = true ↔
      node.kind = "ERROR" ∨ node.missing = true ∨ ∃ rest, node.kind = "jsx_" ++ rest := by
  have markup : isMarkup node = true ↔ ∃ rest, node.kind = "jsx_" ++ rest :=
    node.kindOpensWith_iff "jsx_"
  unfold isProblem
  rw [Bool.or_eq_true, Bool.or_eq_true, markup, decide_eq_true_eq, or_assoc]

/-! ## Reported sites -/

/-- Whether a site is a problem below no problem. -/
def isOutermost (site : Site) : Bool :=
  isProblem site.node && site.above.all (!isProblem ·)

/-- The sites of a tree that are problems below no problem, in document order. -/
def reported (tree : Node) : List Site :=
  tree.sites.filter isOutermost

/-- A site is that of an outermost problem if its node is one and no node above it is. -/
theorem isOutermost_iff (site : Site) :
    isOutermost site = true ↔
      isProblem site.node = true ∧ ∀ ancestor ∈ site.above, isProblem ancestor ≠ true := by
  simp [isOutermost]

/-- The sites that are reported are those of the outermost problems. -/
theorem mem_reported {tree : Node} {site : Site} :
    site ∈ reported tree ↔
      site ∈ tree.sites ∧ isProblem site.node = true ∧
        ∀ ancestor ∈ site.above, isProblem ancestor ≠ true := by
  rw [reported, List.mem_filter, isOutermost_iff]

/-- Nothing is above the root, so a root that is a problem is an outermost one. -/
@[simp] theorem isOutermost_root (tree : Node) :
    isOutermost (Site.root tree) = isProblem tree := by
  simp [isOutermost]

/-- Below a problem no problem is outermost, and below another node those are that are so in the
child. -/
@[simp] theorem isOutermost_lift (parent : Node) (index : Nat) (site : Site) :
    isOutermost (site.lift parent index) = (!isProblem parent && isOutermost site) := by
  simp only [isOutermost, Site.node_lift, Site.above_lift, List.all_cons]
  cases isProblem parent <;> simp

/-- Below a problem no site is reported. -/
theorem filter_sitesFrom_of_problem {parent : Node} (problem : isProblem parent = true) (start : Nat)
    (children : List Node) : (Node.sitesFrom parent start children).filter isOutermost = [] := by
  rw [List.filter_eq_nil_iff]
  intro site member
  obtain ⟨index, child, inner, -, -, rfl⟩ := Node.mem_sitesFrom.mp member
  simp [problem]

/-- Below any other node the reported nodes are those of the children. -/
theorem filter_sitesFrom_of_no_problem {parent : Node} (sound : isProblem parent = false)
    (start : Nat) (children : List Node) :
    ((Node.sitesFrom parent start children).filter isOutermost).map Site.node =
      children.flatMap fun child => (reported child).map Site.node := by
  induction children generalizing start with
  | nil => rfl
  | cons child rest ih =>
    rw [Node.sitesFrom, List.filter_append, List.map_append, ih, List.flatMap_cons, reported,
      List.filter_map, List.map_map]
    have same : isOutermost ∘ Site.lift parent start = isOutermost := by
      funext site
      simp [sound]
    rw [same]
    rfl

/-- A problem reports itself alone, and any other node what its children report. -/
theorem map_node_reported (tree : Node) :
    (reported tree).map Site.node =
      if isProblem tree = true then [tree]
      else tree.children.flatMap fun child => (reported child).map Site.node := by
  rw [reported, Node.sites_eq]
  cases problem : isProblem tree with
  | true =>
    rw [List.filter_cons_of_pos (by simpa using problem), filter_sitesFrom_of_problem problem]
    simp
  | false =>
    rw [List.filter_cons_of_neg (by simp [problem]), filter_sitesFrom_of_no_problem problem]
    simp

/-- The search through some trees reports what each of them reports, one tree after the other. -/
theorem outermostOf_eq (trees : List Node) :
    outermostOf trees = trees.flatMap fun tree => (reported tree).map Site.node := by
  fun_induction outermostOf trees with
  | case1 => rfl
  | case2 node rest problem ih =>
    rw [List.flatMap_cons, map_node_reported, if_pos problem, ih]
    rfl
  | case3 node rest sound ih =>
    rw [List.flatMap_cons, map_node_reported, if_neg sound, ih, List.flatMap_append]

/-- The problems that the listing collects are the nodes at the reported sites. -/
theorem outermost_eq (tree : Node) : outermost tree = (reported tree).map Site.node := by
  rw [outermost, outermostOf_eq]
  simp

/-! ## Their places -/

/-- A reported site that stands on the way to another, or at it, is the other. -/
theorem reported_eq_of_begins {tree : Node} {a b : Site} (ha : a ∈ reported tree)
    (hb : b ∈ reported tree) (begins : a.place <+: b.place) : a = b := by
  obtain ⟨listedA, problemA, -⟩ := mem_reported.mp ha
  obtain ⟨listedB, -, soundAbove⟩ := mem_reported.mp hb
  by_cases same : a.place = b.place
  · exact Node.site_eq_of_place listedA listedB same
  · exact absurd problemA (soundAbove _ (Node.node_mem_above listedA listedB begins same))

/-- Sites are reported in document order, each of them once. -/
theorem reported_pairwise_place (tree : Node) :
    (reported tree).Pairwise fun a b => a.place < b.place :=
  (Node.sites_pairwise_place tree).sublist List.filter_sublist

/-- Of two reported sites none lies below the other. -/
theorem reported_pairwise (tree : Node) :
    (reported tree).Pairwise fun a b => ¬a.place <+: b.place ∧ ¬b.place <+: a.place := by
  refine List.Pairwise.imp_of_mem ?_ (reported_pairwise_place tree)
  intro a b ha hb ascending
  have differ : a ≠ b := by
    rintro rfl
    exact List.lt_irrefl _ ascending
  exact ⟨fun begins => differ (reported_eq_of_begins ha hb begins),
    fun begins => differ (reported_eq_of_begins hb ha begins).symm⟩

/-- Every problem lies below a reported site or is one. -/
theorem exists_reported {tree : Node} {site : Site} (member : site ∈ tree.sites)
    (problem : isProblem site.node = true) :
    ∃ outer ∈ reported tree, outer.place <+: site.place := by
  induction tree using Node.induction generalizing site with
  | step tree ih =>
    by_cases atRoot : isProblem tree = true
    · refine ⟨Site.root tree, mem_reported.mpr ⟨Node.root_mem_sites tree, atRoot, ?_⟩, ?_⟩
      · simp
      · exact List.nil_prefix
    · obtain rfl | ⟨index, child, inner, found, inside, rfl⟩ := Node.mem_sites.mp member
      · exact absurd problem atRoot
      · obtain ⟨outer, listed, begins⟩ := ih child (List.mem_of_getElem? found) inside problem
        obtain ⟨listed, outerProblem, soundAbove⟩ := mem_reported.mp listed
        refine ⟨outer.lift tree index, mem_reported.mpr ⟨?_, outerProblem, ?_⟩, ?_⟩
        · exact Node.lift_mem_sites found listed
        · intro ancestor below
          obtain rfl | deeper := List.mem_cons.mp below
          · exact atRoot
          · exact soundAbove ancestor deeper
        · exact (List.prefix_cons_inj index).mpr begins

/-- Every problem lies below exactly one reported site or is it. -/
theorem existsUnique_reported {tree : Node} {site : Site} (member : site ∈ tree.sites)
    (problem : isProblem site.node = true) :
    ∃! outer, outer ∈ reported tree ∧ outer.place <+: site.place := by
  obtain ⟨outer, listed, begins⟩ := exists_reported member problem
  refine ⟨outer, ⟨listed, begins⟩, ?_⟩
  rintro other ⟨otherListed, otherBegins⟩
  obtain shorter | longer := List.prefix_or_prefix_of_prefix otherBegins begins
  · exact reported_eq_of_begins otherListed listed shorter
  · exact (reported_eq_of_begins listed otherListed longer).symm

/-- A tree has a problem exactly when a site is reported. -/
theorem reported_ne_nil_iff (tree : Node) :
    reported tree ≠ [] ↔ ∃ site ∈ tree.sites, isProblem site.node = true := by
  constructor
  · intro nonempty
    obtain ⟨site, listed⟩ := List.exists_mem_of_ne_nil _ nonempty
    obtain ⟨inside, problem, -⟩ := mem_reported.mp listed
    exact ⟨site, inside, problem⟩
  · rintro ⟨site, inside, problem⟩
    obtain ⟨outer, listed, -⟩ := exists_reported inside problem
    exact List.ne_nil_of_mem listed

/-! ## The search turn by turn -/

/-- What the search holds between two turns: the problems reported and the trees to search. -/
abbrev State := List Node × List Node

/-- One turn of the search. Without trees nothing is left to do. -/
def turn : State → State
  | (found, []) => (found, [])
  | (found, node :: rest) =>
    if isProblem node then (found ++ [node], rest) else (found, node.children ++ rest)

/-- The search ends after at most one turn for each node, and reports what is outermost. -/
theorem exists_iterate_turn (found trees : List Node) :
    ∃ turns ≤ Node.sizes trees, turn^[turns] (found, trees) = (found ++ outermostOf trees, []) := by
  fun_induction outermostOf trees generalizing found with
  | case1 => exact ⟨0, Nat.zero_le _, by simp⟩
  | case2 node rest problem ih =>
    obtain ⟨turns, few, ends⟩ := ih (found ++ [node])
    refine ⟨turns + 1, ?_, ?_⟩
    · simp only [Node.sizes, Node.size_eq]
      omega
    · rw [Function.iterate_succ_apply, turn, if_pos problem, ends]
      simp
  | case3 node rest sound ih =>
    obtain ⟨turns, few, ends⟩ := ih found
    refine ⟨turns + 1, ?_, ?_⟩
    · simp only [Node.sizes, Node.sizes_append, Node.size_eq] at few ⊢
      omega
    · rw [Function.iterate_succ_apply, turn, if_neg sound, ends]

/-! ## What is reported -/

/-- Where a node begins: its line and the place on the line, compared in this order. -/
def start (node : Node) : ℕ ×ₗ ℕ :=
  toLex (node.label.row, node.label.column)

/-- The line and the column of a diagnostic, compared in this order. -/
def position (node : Node) : ℤ ×ₗ ℤ :=
  toLex ((node.label.row : ℤ) + 1, (node.label.column : ℤ))

/-- Counting lines from one keeps the order of places. -/
theorem position_le_position {a b : Node} (before : start a ≤ start b) :
    position a ≤ position b := by
  unfold start at before
  unfold position
  rw [Prod.Lex.toLex_le_toLex] at before ⊢
  simp only at before ⊢
  omega

/-- The diagnostics of a tree give the positions of the nodes that are reported. -/
theorem map_place_diagnostics (tree : Node) :
    (diagnostics tree).map (fun problem => (problem.line, problem.column)) =
      ((reported tree).map fun site => position site.node).map
        fun place => (some (ofLex place).1, some (ofLex place).2) := by
  rw [diagnostics, outermost_eq, List.map_map, List.map_map, List.map_map]
  rfl

/-- The search for problems ends after at most one turn for each node and reports exactly the
problems that lie below no problem, each occurrence once and in document order. None of them lies
below another, and every problem is at or below exactly one of them. If nodes begin in document
order, the positions that are shown with the problems ascend. -/
theorem outermost_exact (tree : Node) :
    (∃ turns ≤ tree.size, turn^[turns] ([], [tree]) = (outermost tree, [])) ∧
      outermost tree = (reported tree).map Site.node ∧
      (reported tree).Sublist tree.sites ∧
      (reported tree).Pairwise (fun a b => a.place < b.place) ∧
      (∀ node, isProblem node = true ↔
        node.kind = "ERROR" ∨ node.missing = true ∨ ∃ rest, node.kind = "jsx_" ++ rest) ∧
      (∀ site, site ∈ reported tree ↔
        site ∈ tree.sites ∧ isProblem site.node = true ∧
          ¬∃ ancestor ∈ site.above, isProblem ancestor = true) ∧
      (reported tree).Pairwise (fun a b => ¬a.place <+: b.place ∧ ¬b.place <+: a.place) ∧
      (∀ site ∈ tree.sites, isProblem site.node = true →
        ∃! outer, outer ∈ reported tree ∧ outer.place <+: site.place) ∧
      (tree.sites.Pairwise (fun a b => start a.node ≤ start b.node) →
        ∃ positions : List (ℤ ×ₗ ℤ),
          (diagnostics tree).map (fun problem => (problem.line, problem.column)) =
            positions.map (fun place => (some (ofLex place).1, some (ofLex place).2)) ∧
          positions.Pairwise (· ≤ ·)) := by
  refine ⟨?_, outermost_eq tree, List.filter_sublist, ?_, isProblem_iff, ?_,
    reported_pairwise tree, ?_, ?_⟩
  · obtain ⟨turns, few, ends⟩ := exists_iterate_turn [] [tree]
    refine ⟨turns, ?_, ends⟩
    simpa [Node.sizes] using few
  · exact reported_pairwise_place tree
  · intro site
    rw [mem_reported]
    simp only [not_exists, not_and, ne_eq]
  · intro site member problem
    exact existsUnique_reported member problem
  · intro ascending
    refine ⟨(reported tree).map fun site => position site.node, map_place_diagnostics tree, ?_⟩
    rw [List.pairwise_map]
    exact (ascending.sublist List.filter_sublist).imp position_le_position

/-- Markup inside markup on the first line, and nonsense on the second. -/
def markupThenNonsense : Node :=
  ⟨{ kind := "program" }, [
    ⟨{ kind := "jsx_element", column := 4 }, [⟨{ kind := "jsx_text", column := 5 }, []⟩]⟩,
    ⟨{ kind := "ERROR", row := 1 }, []⟩]⟩

/-- In a tree with markup inside markup the inner one is not reported, and the two positions
ascend. -/
theorem outermost_exact_markupThenNonsense :
    (markupThenNonsense.sites.Pairwise fun a b => start a.node ≤ start b.node) ∧
      (reported markupThenNonsense).map Site.place = [[0], [1]] ∧
      ∃ positions : List (ℤ ×ₗ ℤ),
        (diagnostics markupThenNonsense).map (fun problem => (problem.line, problem.column)) =
          positions.map (fun place => (some (ofLex place).1, some (ofLex place).2)) ∧
        positions.Pairwise (· ≤ ·) := by
  have ascending : markupThenNonsense.sites.Pairwise fun a b => start a.node ≤ start b.node := by
    decide
  exact ⟨ascending, by decide, (outermost_exact markupThenNonsense).2.2.2.2.2.2.2.2 ascending⟩

end Problem

end EcmaEdition
