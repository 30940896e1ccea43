import EcmaEdition.Feature.Basic

/-!
# Sets of features

A set of features is a word with one bit for each place in the catalog, so two sets with the same
members are equal. Reports and editions are read off the list of members.
-/

set_option autoImplicit false

namespace EcmaEdition

/-- The number of features in the catalog. -/
def Feature.count : Nat := 43

/-- A set of features. -/
structure FeatureSet where
  bits : BitVec Feature.count
  deriving DecidableEq

namespace FeatureSet

/-- The set without members. -/
def empty : FeatureSet := ⟨0⟩

/-- The set with one member. -/
def singleton (feature : Feature) : FeatureSet :=
  ⟨BitVec.twoPow Feature.count feature.index⟩

/-- The members of either set. -/
def union (a b : FeatureSet) : FeatureSet :=
  ⟨a.bits ||| b.bits⟩

/-- Whether a feature is a member. -/
def contains (set : FeatureSet) (feature : Feature) : Bool :=
  set.bits.getLsbD feature.index

/-- No features are written `∅`. -/
instance : EmptyCollection FeatureSet := ⟨empty⟩

/-- One feature is written in braces. -/
instance : Singleton Feature FeatureSet := ⟨singleton⟩

/-- Sets are joined by `∪`. -/
instance : Union FeatureSet := ⟨union⟩

/-- Membership is what `contains` answers. -/
instance : Membership Feature FeatureSet := ⟨fun set feature => set.contains feature = true⟩

/-- Membership is decided by looking at the bit. -/
instance (feature : Feature) (set : FeatureSet) : Decidable (feature ∈ set) :=
  inferInstanceAs (Decidable (set.contains feature = true))

/-- The members of a list. -/
def ofList (features : List Feature) : FeatureSet :=
  features.foldl (fun set feature => set ∪ {feature}) ∅

/-- The members of all sets of a list. -/
def unions (sets : List FeatureSet) : FeatureSet :=
  sets.foldr union ∅

/-- The set of one feature if a condition holds, and no features otherwise. -/
def onlyIf (condition : Bool) (feature : Feature) : FeatureSet :=
  if condition then {feature} else ∅

/-- The members in catalog order. -/
def toList (set : FeatureSet) : List Feature :=
  Feature.all.filter set.contains

/-- How many members there are. -/
def size (set : FeatureSet) : Nat :=
  set.toList.length

/-- The identifiers of the members in code-point order. -/
def names (set : FeatureSet) : List String :=
  (set.toList.map Feature.name).mergeSort (· ≤ ·)

/-- The earliest edition that has all members: the latest one among those that introduced them, and
nothing for no members. -/
def edition? (set : FeatureSet) : Option Edition :=
  Edition.latest? (set.toList.map Feature.edition)

end FeatureSet

end EcmaEdition
