import EcmaEdition.Proofs.Detection.Await
import EcmaEdition.Proofs.Feature.Latest

/-!
# A tree inside and outside of a function

One tree can be visited as outermost code or as code of a function. The two visits differ at a few
nodes only: at an `await` and at a loop that awaits, and at these only if they lie below no function
of the tree itself. There the visit in a function finds an asynchronous function where the other
one finds a top-level `await`. So the set that is found inside follows closely from the set that is
found outside (`Enclosed`), and it never needs a later edition.

A tree that stands at a site of another is visited there in the scope of the site. What it shows by
itself is therefore found in the whole tree too, top-level `await` apart.
-/

set_option autoImplicit false

namespace EcmaEdition

namespace Rule

variable {scope other : Scope} {node : Node} {feature : Feature}

/-- The rules of `await` and of loops are the only ones that look at the scope. -/
theorem ofKind_eq_of_kind_ne (notAwait : node.kind ≠ "await_expression")
    (notLoop : node.kind ≠ "for_in_statement") : ofKind scope node = ofKind other node := by
  unfold ofKind
  split <;> first | rfl | contradiction

/-- And what the scope decides is which of two features an `await` shows. -/
theorem mem_ofKind_of_scope (notTop : feature ≠ .topLevelAwait)
    (notAsync : feature ≠ .asyncFunctions) :
    feature ∈ ofKind scope node ↔ feature ∈ ofKind other node := by
  by_cases isAwait : node.kind = "await_expression"
  · simp only [ofKind_await isAwait, mem_await_iff, notTop, notAsync, and_false, or_false]
  · by_cases isLoop : node.kind = "for_in_statement"
    · simp only [ofKind_forIn isLoop, mem_forIn_iff, notTop, and_false, or_false]
    · rw [ofKind_eq_of_kind_ne isAwait isLoop]

end Rule

/-- How the features that a tree shows inside of a function follow from those that it shows
outside. -/
structure Enclosed (outside inside : FeatureSet) : Prop where
  /-- Inside nothing is at the top level. -/
  noTopLevelAwait : .topLevelAwait ∉ inside
  /-- All features but two are the same. -/
  agree : ∀ feature, feature ≠ .topLevelAwait → feature ≠ .asyncFunctions →
    (feature ∈ outside ↔ feature ∈ inside)
  /-- Asynchronous functions stay. -/
  asyncFunctions : .asyncFunctions ∈ outside → .asyncFunctions ∈ inside
  /-- Without a top-level `await` nothing changes. -/
  eq_of_noTopLevelAwait : .topLevelAwait ∉ outside → outside = inside
  /-- No features appear or vanish altogether. -/
  empty_iff : outside = ∅ ↔ inside = ∅
  /-- The edition that is needed inside is needed outside, or a later one. -/
  edition_le : ∀ edition, inside.edition? = some edition →
    ∃ needed, outside.edition? = some needed ∧ edition ≤ needed

/-- What is found outside is found inside, top-level `await` apart. -/
theorem Enclosed.mem_inside {outside inside : FeatureSet} (enclosed : Enclosed outside inside)
    {feature : Feature} (found : feature ∈ outside) :
    feature ∈ inside ∨ feature = .topLevelAwait := by
  by_cases isTop : feature = .topLevelAwait
  · exact Or.inr isTop
  · by_cases isAsync : feature = .asyncFunctions
    · rw [isAsync] at found ⊢
      exact Or.inl (enclosed.asyncFunctions found)
    · exact Or.inl ((enclosed.agree feature isTop isAsync).mp found)

namespace Finder

open EcmaEdition.Rule

/-! ## Two assignments of scopes

The sites of one tree have a scope each by two assignments, and every site that is outside by the
inner assignment is outside by the outer one. -/

section Assignments

variable {inner outer : Site → Scope} {tree : Node}

/-- Two features depend on the scope, and every other is shown under any scopes. -/
theorem mem_shownUnder_of_scope {feature : Feature} (notTop : feature ≠ .topLevelAwait)
    (notAsync : feature ≠ .asyncFunctions) :
    feature ∈ shownUnder outer tree ↔ feature ∈ shownUnder inner tree := by
  simp only [mem_shownUnder_iff]
  constructor
  · rintro ⟨site, inside, named, member⟩
    exact ⟨site, inside, named, (mem_ofKind_of_scope notTop notAsync).mp member⟩
  · rintro ⟨site, inside, named, member⟩
    exact ⟨site, inside, named, (mem_ofKind_of_scope notTop notAsync).mp member⟩

/-- Top-level `await` stays when more sites are outside of all functions. -/
theorem topLevelAwait_mem_shownUnder
    (outside : ∀ site ∈ tree.sites, inner site = .outermost → outer site = .outermost)
    (found : .topLevelAwait ∈ shownUnder inner tree) : .topLevelAwait ∈ shownUnder outer tree := by
  rw [mem_shownUnder_iff] at found ⊢
  obtain ⟨site, inside, named, member⟩ := found
  rw [topLevelAwait_mem_ofKind_iff] at member
  refine ⟨site, inside, named, ?_⟩
  rw [topLevelAwait_mem_ofKind_iff]
  exact ⟨member.1, outside site inside member.2⟩

/-- Asynchronous functions stay when fewer sites are outside of all functions. -/
theorem asyncFunctions_mem_shownUnder
    (outside : ∀ site ∈ tree.sites, inner site = .outermost → outer site = .outermost)
    (found : .asyncFunctions ∈ shownUnder outer tree) :
    .asyncFunctions ∈ shownUnder inner tree := by
  rw [mem_shownUnder_iff] at found ⊢
  obtain ⟨site, inside, named, member⟩ := found
  refine ⟨site, inside, named, ?_⟩
  rw [asyncFunctions_mem_ofKind_iff] at member ⊢
  obtain function | ⟨kind, within⟩ := member
  · exact Or.inl function
  · refine Or.inr ⟨kind, ?_⟩
    cases scope : inner site with
    | function => rfl
    | outermost =>
      rw [outside site inside scope] at within
      cases within

/-- An asynchronous function that the inner scopes alone show is an `await` that the outer ones put
at the top level. -/
theorem topLevelAwait_of_asyncFunctions (found : .asyncFunctions ∈ shownUnder inner tree)
    (missed : .asyncFunctions ∉ shownUnder outer tree) :
    .topLevelAwait ∈ shownUnder outer tree := by
  rw [mem_shownUnder_iff] at found
  obtain ⟨site, inside, named, member⟩ := found
  rw [mem_shownUnder_iff] at missed ⊢
  refine ⟨site, inside, named, ?_⟩
  rw [asyncFunctions_mem_ofKind_iff] at member
  obtain function | ⟨kind, -⟩ := member
  · exact absurd ⟨site, inside, named, asyncFunctions_mem_ofKind_iff.mpr (Or.inl function)⟩ missed
  · rw [topLevelAwait_mem_ofKind_iff]
    refine ⟨Or.inl kind, ?_⟩
    cases scope : outer site with
    | outermost => rfl
    | function =>
      refine absurd ⟨site, inside, named, ?_⟩ missed
      exact asyncFunctions_mem_ofKind_iff.mpr (Or.inr ⟨kind, scope⟩)

/-- Asynchronous functions came before top-level `await`, so what the inner scopes alone show is of
an earlier edition than what it stands for. -/
theorem edition_shownUnder_le
    (outside : ∀ site ∈ tree.sites, inner site = .outermost → outer site = .outermost)
    {edition : Edition} (needed : (shownUnder inner tree).edition? = some edition) :
    ∃ later, (shownUnder outer tree).edition? = some later ∧ edition ≤ later := by
  refine FeatureSet.edition?_le_of_dominated ?_ needed
  intro feature member
  by_cases found : feature ∈ shownUnder outer tree
  · exact ⟨feature, found, le_rfl⟩
  · have notTop : feature ≠ .topLevelAwait := by
      rintro rfl
      exact found (topLevelAwait_mem_shownUnder outside member)
    have isAsync : feature = .asyncFunctions := by
      by_contra notAsync
      exact found ((mem_shownUnder_of_scope notTop notAsync).mpr member)
    rw [isAsync] at member found ⊢
    exact ⟨_, topLevelAwait_of_asyncFunctions member found, by decide⟩

end Assignments

/-! ## Two visits of one tree -/

/-- Inside a function all sites show what they show inside a function. -/
theorem mem_walk_function_iff (feature : Feature) (root : Node) :
    feature ∈ walk .function root ↔
      ∃ site ∈ root.sites, site.node.named = true ∧ feature ∈ ofKind .function site.node := by
  simp only [mem_walk_iff, Scope.function_within]

/-- There is no top-level `await` inside a function. -/
theorem topLevelAwait_not_mem_walk (root : Node) : .topLevelAwait ∉ walk .function root := by
  rw [mem_walk_function_iff]
  rintro ⟨site, -, -, member⟩
  rw [topLevelAwait_mem_ofKind_iff] at member
  exact nomatch member.2

/-- Inside of a function no site is outside. -/
theorem outermost_of_function_within {root : Node} :
    ∀ site ∈ root.sites, Scope.function.within site.above = .outermost →
      Scope.outermost.within site.above = .outermost := by
  intro site _ outside
  rw [Scope.function_within] at outside
  cases outside

/-- The scope in which a walk begins decides about two features alone. -/
theorem mem_walk_of_scope {feature : Feature} (notTop : feature ≠ .topLevelAwait)
    (notAsync : feature ≠ .asyncFunctions) (root : Node) :
    feature ∈ walk .outermost root ↔ feature ∈ walk .function root := by
  rw [walk_eq_shownUnder, walk_eq_shownUnder]
  exact mem_shownUnder_of_scope notTop notAsync

/-- Asynchronous functions that are found outside are found inside. -/
theorem asyncFunctions_mem_walk_function {root : Node}
    (found : .asyncFunctions ∈ walk .outermost root) : .asyncFunctions ∈ walk .function root := by
  rw [walk_eq_shownUnder] at found ⊢
  exact asyncFunctions_mem_shownUnder outermost_of_function_within found

/-- An asynchronous function that is found inside only is an `await` that outside is at the top
level. -/
theorem topLevelAwait_mem_walk {root : Node} (found : .asyncFunctions ∈ walk .function root)
    (missed : .asyncFunctions ∉ walk .outermost root) : .topLevelAwait ∈ walk .outermost root := by
  rw [walk_eq_shownUnder] at found missed ⊢
  exact topLevelAwait_of_asyncFunctions found missed

/-- A top-level `await` leaves a feature behind when the code is put into a function. -/
theorem walk_function_ne_empty {root : Node} (found : .topLevelAwait ∈ walk .outermost root) :
    walk .function root ≠ ∅ := by
  rw [mem_walk_iff] at found
  obtain ⟨site, inside, named, member⟩ := found
  rw [topLevelAwait_mem_ofKind_iff] at member
  rw [ne_eq, FeatureSet.eq_empty_iff]
  intro none
  obtain ⟨kind | loop, -⟩ := member
  · apply none .asyncFunctions
    rw [mem_walk_function_iff]
    exact ⟨site, inside, named, asyncFunctions_mem_ofKind_iff.mpr (Or.inr ⟨kind, rfl⟩)⟩
  · apply none .asyncIteration
    rw [mem_walk_function_iff]
    exact ⟨site, inside, named, asyncIteration_mem_ofKind_iff.mpr (Or.inr loop)⟩

/-- Without top-level `await` the scope in which a walk begins does not matter. -/
theorem walk_eq_of_noTopLevelAwait {root : Node}
    (missed : .topLevelAwait ∉ walk .outermost root) :
    walk .outermost root = walk .function root := by
  apply FeatureSet.ext
  intro feature
  by_cases isTop : feature = .topLevelAwait
  · rw [isTop]
    exact iff_of_false missed (topLevelAwait_not_mem_walk root)
  · by_cases isAsync : feature = .asyncFunctions
    · rw [isAsync]
      refine ⟨asyncFunctions_mem_walk_function, ?_⟩
      intro found
      by_contra lost
      exact missed (topLevelAwait_mem_walk found lost)
    · exact mem_walk_of_scope isTop isAsync root

/-- A tree shows nothing in one scope if it shows nothing in the other. -/
theorem walk_eq_empty_iff (root : Node) :
    walk .outermost root = ∅ ↔ walk .function root = ∅ := by
  by_cases found : .topLevelAwait ∈ walk .outermost root
  · refine iff_of_false ?_ (walk_function_ne_empty found)
    intro none
    exact (FeatureSet.eq_empty_iff _).mp none _ found
  · rw [walk_eq_of_noTopLevelAwait found]

/-- Inside a function a tree needs no later edition than outside. -/
theorem edition_walk_le {root : Node} {edition : Edition}
    (needed : (walk .function root).edition? = some edition) :
    ∃ later, (walk .outermost root).edition? = some later ∧ edition ≤ later := by
  rw [walk_eq_shownUnder] at needed ⊢
  exact edition_shownUnder_le outermost_of_function_within needed

/-- The walk that begins inside a function is the one outside, but for an `await` at the top. -/
theorem enclosed_walk (root : Node) : Enclosed (walk .outermost root) (walk .function root) where
  noTopLevelAwait := topLevelAwait_not_mem_walk root
  agree _ notTop notAsync := mem_walk_of_scope notTop notAsync root
  asyncFunctions := asyncFunctions_mem_walk_function
  eq_of_noTopLevelAwait := walk_eq_of_noTopLevelAwait
  empty_iff := walk_eq_empty_iff root
  edition_le _ := edition_walk_le

/-! ## A tree within a tree -/

/-- What a visit finds at a site, in the scope of the site, a visit of the whole tree finds. -/
theorem mem_walk_of_site {feature : Feature} {tree : Node} {site : Site} {scope : Scope}
    (inside : site ∈ tree.sites) (found : feature ∈ walk (scope.within site.above) site.node) :
    feature ∈ walk scope tree := by
  -- the induction follows the way down to the site, and the scope may change on it
  induction tree using Node.induction generalizing site scope with
  | step tree ih =>
    obtain rfl | ⟨index, child, inner, listed, below, rfl⟩ := Node.mem_sites.mp inside
    · simpa using found
    · have member : child ∈ tree.children := List.mem_of_getElem? listed
      rw [Site.above_lift, Site.node_lift, Scope.within_cons] at found
      have inChild : feature ∈ walk (scope.below tree) child := ih child member below found
      rw [walk_eq, FeatureSet.mem_union, FeatureSet.mem_unions]
      exact Or.inr ⟨_, List.mem_map_of_mem member, inChild⟩

/-- Visited inside of a function, a tree has the features that it has outside, except that no
`await` is at the top level: each such `await` belongs to an asynchronous function instead. So the
two sets are the same if there is none, they are empty together, and the edition that is needed
inside is at most the one that is needed outside. For the same reason a tree shows, wherever it
stands in another tree, nothing by itself that the other does not show, top-level `await` apart, and
that too if it stands below no function. -/
theorem visit_enclosed (tree : Node) :
    Enclosed (visit ∅ .outermost tree) (visit ∅ .function tree) ∧
      ∀ site ∈ tree.sites,
        (∀ feature ∈ find site.node, feature ∈ find tree ∪ {.topLevelAwait}) ∧
          ((∀ ancestor ∈ site.above, ancestor.kind ∉ functionKinds) →
            ∀ feature ∈ find site.node, feature ∈ find tree) := by
  rw [visit_empty, visit_empty]
  refine ⟨enclosed_walk tree, ?_⟩
  intro site inside
  simp only [find_eq_walk, FeatureSet.mem_union, FeatureSet.mem_singleton]
  constructor
  · intro feature found
    cases scope : Scope.outermost.within site.above with
    | outermost =>
      left
      apply mem_walk_of_site inside
      rw [scope]
      exact found
    | function =>
      -- the tree is visited inside of a function there, and its own visit was outside
      obtain within | isTop := (enclosed_walk site.node).mem_inside found
      · left
        apply mem_walk_of_site inside
        rw [scope]
        exact within
      · exact Or.inr isTop
  · intro free feature found
    have scope : Scope.outermost.within site.above = .outermost := by
      simp only [Scope.outermost_within_eq_outermost_iff, ne_eq, isFunction_iff]
      exact free
    apply mem_walk_of_site inside
    rw [scope]
    exact found

/-- An `await` in a function, and another one behind it. -/
def awaitTwice : Node :=
  ⟨{ kind := "program" }, [
    ⟨{ kind := "function_declaration" }, [⟨{ kind := "await_expression" }, []⟩]⟩,
    ⟨{ kind := "await_expression" }, []⟩]⟩

/-- The first `await` is at the top level only when it is looked at by itself; the second one is at
the top level in both ways. -/
theorem visit_enclosed_awaitTwice :
    Enclosed (visit ∅ .outermost awaitTwice) (visit ∅ .function awaitTwice) ∧
      (∃ site ∈ awaitTwice.sites,
        site.above.map Node.kind = ["program", "function_declaration"] ∧
          ∀ feature ∈ find site.node, feature ∈ find awaitTwice ∪ {.topLevelAwait}) ∧
      ∃ site ∈ awaitTwice.sites,
        site.above.map Node.kind = ["program"] ∧ site.node.kind = "await_expression" ∧
          ∀ feature ∈ find site.node, feature ∈ find awaitTwice := by
  obtain ⟨enclosed, within⟩ := visit_enclosed awaitTwice
  have first : awaitTwice.sites[2]? = some
      ⟨[0, 0], [awaitTwice, awaitTwice.children[0]], ⟨{ kind := "await_expression" }, []⟩⟩ := rfl
  have second : awaitTwice.sites[3]? = some
      ⟨[1], [awaitTwice], ⟨{ kind := "await_expression" }, []⟩⟩ := rfl
  have hfirst := List.mem_of_getElem? first
  have hsecond := List.mem_of_getElem? second
  refine ⟨enclosed, ⟨_, hfirst, rfl, (within _ hfirst).1⟩, _, hsecond, rfl, rfl, ?_⟩
  apply (within _ hsecond).2
  decide

end Finder

end EcmaEdition
