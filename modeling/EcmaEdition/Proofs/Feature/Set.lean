import EcmaEdition.Feature.Set
import Mathlib.Data.List.Nodup

/-!
# Laws of feature sets

A feature set is a word of bits, one for each place in the catalog. Every feature has a place of its
own and every place has a feature, so a set is determined by its members (`ext`), and whatever is
said about sets can be said about members. Membership in each way of making a set follows, and with
it the laws of union.
-/

set_option autoImplicit false

namespace EcmaEdition

namespace Feature

/-- The catalog leaves no feature out. -/
theorem mem_all (feature : Feature) : feature ∈ all := by
  cases feature <;> decide

/-- The catalog lists no feature twice. -/
theorem nodup_all : all.Nodup := by
  decide

/-- The catalog has as many features as a set has places. -/
theorem length_all : all.length = count := rfl

/-- The place of a feature is a place of the catalog. -/
theorem index_lt (feature : Feature) : feature.index < count := by
  rw [← length_all]
  exact List.idxOf_lt_length_of_mem (mem_all feature)

/-- A feature stands at its place. -/
theorem getElem?_index (feature : Feature) : all[feature.index]? = some feature := by
  have inside : feature.index < all.length := index_lt feature
  rw [List.getElem?_eq_getElem inside]
  exact congrArg some (List.getElem_idxOf inside)

/-- Features at the same place are the same. -/
theorem index_injective {a b : Feature} (same : a.index = b.index) : a = b := by
  have ha := getElem?_index a
  rw [same, getElem?_index b] at ha
  exact (Option.some.inj ha).symm

/-- Every place of the catalog is some feature's. -/
theorem exists_index_eq {place : Nat} (inside : place < count) :
    ∃ feature : Feature, feature.index = place := by
  have listed : place < all.length := by rwa [length_all]
  exact ⟨all[place], nodup_all.idxOf_getElem place listed⟩

end Feature

namespace FeatureSet

/-- A feature is a member if the bit at its place is set. -/
theorem mem_def (feature : Feature) (set : FeatureSet) :
    feature ∈ set ↔ set.bits.getLsbD feature.index = true :=
  Iff.rfl

/-- Sets with the same members are equal. -/
theorem ext {a b : FeatureSet} (same : ∀ feature, feature ∈ a ↔ feature ∈ b) : a = b := by
  cases a with
  | mk a =>
    cases b with
    | mk b =>
      congr 1
      apply BitVec.eq_of_getLsbD_eq
      intro place inside
      obtain ⟨feature, rfl⟩ := Feature.exists_index_eq inside
      have := same feature
      simp only [mem_def] at this
      exact Bool.eq_iff_iff.mpr this

/-- The empty set has no members. -/
@[simp] theorem not_mem_empty (feature : Feature) : feature ∉ (∅ : FeatureSet) := by
  show ¬(0 : BitVec Feature.count).getLsbD feature.index = true
  simp

/-- A set of one feature has it as its only member. -/
@[simp] theorem mem_singleton (feature member : Feature) :
    feature ∈ ({member} : FeatureSet) ↔ feature = member := by
  show (BitVec.twoPow Feature.count member.index).getLsbD feature.index = true ↔ _
  rw [BitVec.getLsbD_twoPow]
  simp only [Feature.index_lt, decide_true, Bool.true_and, decide_eq_true_eq]
  constructor
  · intro same
    exact (Feature.index_injective same).symm
  · rintro rfl
    rfl

/-- A union has the members of both sets. -/
@[simp] theorem mem_union (feature : Feature) (a b : FeatureSet) :
    feature ∈ a ∪ b ↔ feature ∈ a ∨ feature ∈ b := by
  show (a.bits ||| b.bits).getLsbD feature.index = true ↔ _
  rw [BitVec.getLsbD_or, Bool.or_eq_true]
  rfl

/-- A set under a condition has its member if the condition holds. -/
@[simp] theorem mem_onlyIf (feature member : Feature) (condition : Bool) :
    feature ∈ onlyIf condition member ↔ condition = true ∧ feature = member := by
  cases condition <;> simp [onlyIf]

/-- The union of no sets is empty. -/
@[simp] theorem unions_nil : unions [] = ∅ := rfl

/-- The union of several sets is that of the first and of the others. -/
@[simp] theorem unions_cons (set : FeatureSet) (rest : List FeatureSet) :
    unions (set :: rest) = set ∪ unions rest := rfl

/-- The union of several sets has the members of each. -/
@[simp] theorem mem_unions (feature : Feature) (sets : List FeatureSet) :
    feature ∈ unions sets ↔ ∃ set ∈ sets, feature ∈ set := by
  induction sets with
  | nil => simp
  | cons set rest ih =>
    rw [unions_cons, mem_union, ih]
    simp

/-- A set lists its members. -/
@[simp] theorem mem_toList (feature : Feature) (set : FeatureSet) :
    feature ∈ set.toList ↔ feature ∈ set := by
  unfold toList
  rw [List.mem_filter]
  exact ⟨And.right, fun member => ⟨Feature.mem_all feature, member⟩⟩

/-- Adding features one after the other adds all of them. -/
theorem mem_foldl_union (feature : Feature) (features : List Feature) (start : FeatureSet) :
    feature ∈ features.foldl (fun set member => set ∪ {member}) start ↔
      feature ∈ start ∨ feature ∈ features := by
  induction features generalizing start with
  | nil => simp
  | cons member rest ih => rw [List.foldl_cons, ih, mem_union, mem_singleton, List.mem_cons, or_assoc]

/-- The set of some features has these features as its members. -/
@[simp] theorem mem_ofList (feature : Feature) (features : List Feature) :
    feature ∈ ofList features ↔ feature ∈ features := by
  simp [ofList, mem_foldl_union]

/-- It does not matter which of three sets are put together first. -/
theorem union_assoc (a b c : FeatureSet) : a ∪ b ∪ c = a ∪ (b ∪ c) := by
  apply ext
  intro feature
  simp only [mem_union, or_assoc]

/-- The empty set adds nothing. -/
@[simp] theorem union_empty (a : FeatureSet) : a ∪ ∅ = a := by
  apply ext
  intro feature
  simp

/-- Nothing is added to the empty set but the other set. -/
@[simp] theorem empty_union (a : FeatureSet) : ∅ ∪ a = a := by
  apply ext
  intro feature
  simp

/-- The union of sets and more sets is that of both unions. -/
theorem unions_append (front back : List FeatureSet) :
    unions (front ++ back) = unions front ∪ unions back := by
  induction front with
  | nil => simp
  | cons set rest ih => simp only [List.cons_append, unions_cons, ih, union_assoc]

/-- A set is empty if no feature is in it. -/
theorem eq_empty_iff (set : FeatureSet) : set = ∅ ↔ ∀ feature, feature ∉ set := by
  constructor
  · rintro rfl
    exact not_mem_empty
  · intro none
    apply ext
    intro feature
    simp [none feature]

/-- Sets without members have a union without members. -/
theorem unions_map_eq_empty {α : Type} {items : List α} {sets : α → FeatureSet}
    (none : ∀ item ∈ items, sets item = ∅) : unions (items.map sets) = ∅ := by
  rw [eq_empty_iff]
  intro feature member
  obtain ⟨set, listed, inside⟩ := (mem_unions feature _).mp member
  obtain ⟨item, isItem, rfl⟩ := List.mem_map.mp listed
  rw [none item isItem] at inside
  exact not_mem_empty feature inside

/-- A set has no members exactly when its list has none. -/
theorem toList_eq_nil_iff (set : FeatureSet) : set.toList = [] ↔ set = ∅ := by
  constructor
  · intro none
    apply ext
    intro feature
    rw [← mem_toList, none]
    simp
  · rintro rfl
    rfl

end FeatureSet

end EcmaEdition
