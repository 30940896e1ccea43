import EcmaEdition.Tree.Node
import Mathlib.Data.List.Nodup

/-!
# Sites of a tree

A site is one occurrence of a node in a tree. It has a place, which says what child to go to at each
step from the root down; it has the nodes that it lies below, the root first; and it has the node
itself, with everything that hangs from it. Equal nodes may stand at several places of a tree, so a
statement about each occurrence is a statement about sites.

The sites of a tree are listed in document order: every node before what lies below it, and children
from left to right. In this order places increase (`sites_pairwise_place`), so no site is listed
twice, there is one site for each node that `size` counts (`length_sites`), and what a site lies
below is what stands at the places on the way to it (`mem_above_iff`).
-/

set_option autoImplicit false

namespace EcmaEdition

/-- One occurrence of a node in a tree. -/
structure Site where
  /-- The child to go to at each step from the root down, counted from zero. -/
  place : List Nat
  /-- The nodes that the site lies below, the root of the tree first. -/
  above : List Node
  /-- The node that stands there. -/
  node : Node

namespace Site

/-- The root of a tree as a site. -/
def root (tree : Node) : Site where
  place := []
  above := []
  node := tree

/-- A site of a child, seen from the child's parent. -/
def lift (parent : Node) (index : Nat) (site : Site) : Site where
  place := index :: site.place
  above := parent :: site.above
  node := site.node

/-- The place of the root is the empty path. -/
@[simp] theorem place_root (tree : Node) : (root tree).place = [] := rfl

/-- No node is above the root. -/
@[simp] theorem above_root (tree : Node) : (root tree).above = [] := rfl

/-- The node at the root is the tree. -/
@[simp] theorem node_root (tree : Node) : (root tree).node = tree := rfl

/-- A site of a child has its index in front of its place. -/
@[simp] theorem place_lift (parent : Node) (index : Nat) (site : Site) :
    (lift parent index site).place = index :: site.place := rfl

/-- A site of a child has the parent on top of the nodes above it. -/
@[simp] theorem above_lift (parent : Node) (index : Nat) (site : Site) :
    (lift parent index site).above = parent :: site.above := rfl

/-- A site of a child has the node that it has in the child. -/
@[simp] theorem node_lift (parent : Node) (index : Nat) (site : Site) :
    (lift parent index site).node = site.node := rfl

end Site

namespace Node

/-- A property of all trees follows from its step: it holds of a tree if it holds of the trees below
the root. -/
@[elab_as_elim]
theorem induction {motive : Node → Prop}
    (step : ∀ node, (∀ child ∈ node.children, motive child) → motive node) :
    ∀ node : Node, motive node
  | ⟨label, children⟩ => by
    apply step
    intro child member
    have smaller : sizeOf child < sizeOf children := List.sizeOf_lt_of_mem member
    exact induction step child
termination_by node => sizeOf node

mutual

/-- The sites of a tree in document order. -/
def sites : Node → List Site
  | ⟨label, children⟩ => Site.root ⟨label, children⟩ :: sitesFrom ⟨label, children⟩ 0 children

/-- The sites below a parent that lie in some of its children, the first of which has the given
index. -/
def sitesFrom : (parent : Node) → (index : Nat) → List Node → List Site
  | _, _, [] => []
  | parent, index, child :: rest =>
    child.sites.map (Site.lift parent index) ++ sitesFrom parent (index + 1) rest

end

/-- The sites of a tree are its root and then those of its children. -/
theorem sites_eq (node : Node) :
    node.sites = Site.root node :: sitesFrom node 0 node.children := by
  cases node
  simp only [sites]

/-- The sites from a child on are the lifted sites of these children. -/
theorem mem_sitesFrom {parent : Node} {start : Nat} {children : List Node} {site : Site} :
    site ∈ sitesFrom parent start children ↔
      ∃ (index : Nat) (child : Node) (inner : Site),
        children[index]? = some child ∧ inner ∈ child.sites ∧ site = inner.lift parent (start + index) := by
  induction children generalizing start with
  | nil => simp [sitesFrom]
  | cons first rest ih =>
    rw [sitesFrom, List.mem_append, List.mem_map, ih]
    constructor
    · rintro (⟨inner, member, rfl⟩ | ⟨index, child, inner, found, member, rfl⟩)
      · exact ⟨0, first, inner, rfl, member, rfl⟩
      · refine ⟨index + 1, child, inner, found, member, ?_⟩
        rw [show start + (index + 1) = start + 1 + index by omega]
    · rintro ⟨index, child, inner, found, member, rfl⟩
      cases index with
      | zero =>
        obtain rfl : first = child := by simpa using found
        exact Or.inl ⟨inner, member, rfl⟩
      | succ index =>
        refine Or.inr ⟨index, child, inner, by simpa using found, member, ?_⟩
        rw [show start + (index + 1) = start + 1 + index by omega]

/-- A site of a tree is its root or a site of one of the root's children. -/
theorem mem_sites {tree : Node} {site : Site} :
    site ∈ tree.sites ↔
      site = Site.root tree ∨
        ∃ (index : Nat) (child : Node) (inner : Site),
          tree.children[index]? = some child ∧ inner ∈ child.sites ∧ site = inner.lift tree index := by
  rw [sites_eq, List.mem_cons, mem_sitesFrom]
  simp only [Nat.zero_add]

/-- The root is a site. -/
theorem root_mem_sites (tree : Node) : Site.root tree ∈ tree.sites := by
  rw [mem_sites]
  exact Or.inl rfl

/-- Every site of a child is a site of the tree. -/
theorem lift_mem_sites {tree child : Node} {index : Nat} {inner : Site}
    (found : tree.children[index]? = some child) (member : inner ∈ child.sites) :
    inner.lift tree index ∈ tree.sites := by
  rw [mem_sites]
  exact Or.inr ⟨index, child, inner, found, member, rfl⟩

mutual

/-- A tree has one site for each of its nodes. -/
theorem length_sites : ∀ tree : Node, tree.sites.length = tree.size
  | ⟨label, children⟩ => by
    rw [sites, List.length_cons, length_sitesFrom, size]
    omega

/-- Some children have as many sites as nodes. -/
theorem length_sitesFrom (parent : Node) (start : Nat) :
    ∀ children : List Node, (sitesFrom parent start children).length = sizes children
  | [] => by rw [sitesFrom, sizes, List.length_nil]
  | child :: rest => by
    rw [sitesFrom, List.length_append, List.length_map, length_sites child, length_sitesFrom, sizes]

end

mutual

/-- Places increase in document order: an ancestor's place is a beginning of the place below it, and
of two siblings the left one has the smaller index. -/
theorem sites_pairwise_place :
    ∀ tree : Node, tree.sites.Pairwise fun a b => a.place < b.place
  | ⟨label, children⟩ => by
    rw [sites, List.pairwise_cons]
    refine ⟨?_, sitesFrom_pairwise_place _ 0 children⟩
    intro site member
    obtain ⟨index, child, inner, -, -, rfl⟩ := mem_sitesFrom.mp member
    exact List.nil_lt_cons _ _

/-- The sites of some children are listed by ascending place. -/
theorem sitesFrom_pairwise_place (parent : Node) (start : Nat) :
    ∀ children : List Node,
      (sitesFrom parent start children).Pairwise fun a b => a.place < b.place
  | [] => by
    rw [sitesFrom]
    exact List.Pairwise.nil
  | child :: rest => by
    rw [sitesFrom, List.pairwise_append]
    refine ⟨?_, sitesFrom_pairwise_place parent (start + 1) rest, ?_⟩
    · rw [List.pairwise_map]
      refine (sites_pairwise_place child).imp ?_
      intro a b ascending
      exact List.cons_lt_cons_iff.mpr (Or.inr ⟨rfl, ascending⟩)
    · -- whatever lies in the first child has a smaller first index than what lies in the others
      intro a first b later
      obtain ⟨inner, -, rfl⟩ := List.mem_map.mp first
      obtain ⟨index, other, innerLater, -, -, rfl⟩ := mem_sitesFrom.mp later
      exact List.cons_lt_cons_iff.mpr (Or.inl (by omega))

end

/-- No place is listed twice. -/
theorem nodup_places (tree : Node) : (tree.sites.map Site.place).Nodup := by
  unfold List.Nodup
  rw [List.pairwise_map]
  refine (sites_pairwise_place tree).imp ?_
  intro a b ascending same
  rw [same] at ascending
  exact List.lt_irrefl _ ascending

/-- A site is known by its place. -/
theorem site_eq_of_place {tree : Node} {a b : Site} (ha : a ∈ tree.sites) (hb : b ∈ tree.sites)
    (same : a.place = b.place) : a = b :=
  List.inj_on_of_nodup_map (nodup_places tree) ha hb same

/-- What a site lies below is what stands at the places that begin its place. -/
theorem mem_above_iff {tree : Node} {site : Site} (member : site ∈ tree.sites) (ancestor : Node) :
    ancestor ∈ site.above ↔
      ∃ outer ∈ tree.sites, outer.node = ancestor ∧ outer.place <+: site.place ∧
        outer.place ≠ site.place := by
  induction tree using Node.induction generalizing site with
  | step tree ih =>
    obtain rfl | ⟨index, child, inner, found, inside, rfl⟩ := mem_sites.mp member
    · -- nothing lies above the root, and no place but its own begins its place
      simp only [Site.above_root, Site.place_root, List.prefix_nil, List.not_mem_nil, false_iff]
      rintro ⟨outer, -, -, empty, nonempty⟩
      exact nonempty empty
    · have below := ih child (List.mem_of_getElem? found) inside
      rw [Site.above_lift, List.mem_cons, below]
      constructor
      · rintro (rfl | ⟨outer, listed, here, begins, proper⟩)
        · exact ⟨Site.root _, root_mem_sites _, rfl, List.nil_prefix, by simp⟩
        · refine ⟨outer.lift tree index, lift_mem_sites found listed, here, ?_, ?_⟩
          · exact (List.prefix_cons_inj index).mpr begins
          · simpa using proper
      · rintro ⟨outer, listed, here, begins, proper⟩
        obtain rfl | ⟨index', child', inner', found', inside', rfl⟩ := mem_sites.mp listed
        · exact Or.inl here.symm
        · -- the two places begin with one index, so both lie in the same child
          simp only [Site.place_lift, List.cons_prefix_cons, ne_eq, List.cons.injEq] at begins proper
          obtain ⟨rfl, begins⟩ := begins
          obtain rfl : child' = child := by
            rw [found] at found'
            exact (Option.some.inj found').symm
          exact Or.inr ⟨inner', inside', here, begins, fun same => proper ⟨rfl, same⟩⟩

/-- A site that stands at a place on the way to another is one of those that the other lies below. -/
theorem node_mem_above {tree : Node} {outer inner : Site} (houter : outer ∈ tree.sites)
    (hinner : inner ∈ tree.sites) (begins : outer.place <+: inner.place)
    (proper : outer.place ≠ inner.place) : outer.node ∈ inner.above :=
  (mem_above_iff hinner outer.node).mpr ⟨outer, houter, rfl, begins, proper⟩

end Node

end EcmaEdition
