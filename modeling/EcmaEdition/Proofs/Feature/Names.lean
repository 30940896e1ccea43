import EcmaEdition.Proofs.Feature.Set
import Mathlib.Data.List.Perm.Basic

/-!
# The names of the members

A set is shown by the names of its members in code-point order. No two features share a name, so the
list of names holds each name once and tells which set it comes from. It is also the list that comes
out if the members are taken in any other order before their names are sorted.
-/

set_option autoImplicit false

namespace EcmaEdition

/-- No two features share a name. -/
theorem Feature.name_injective {a b : Feature} (same : a.name = b.name) : a = b := by
  have distinct : (Feature.all.map Feature.name).Nodup := by decide +kernel
  exact List.inj_on_of_nodup_map distinct (mem_all a) (mem_all b) same

namespace FeatureSet

variable {set : FeatureSet}

/-- A set lists each of its members once. -/
theorem nodup_toList (set : FeatureSet) : set.toList.Nodup :=
  Feature.nodup_all.filter _

/-- A list that has each member once has the members in some order. -/
theorem perm_toList {listing : List Feature} (distinct : listing.Nodup)
    (members : ∀ feature, feature ∈ listing ↔ feature ∈ set) : listing.Perm set.toList := by
  rw [List.perm_ext_iff_of_nodup distinct (nodup_toList set)]
  intro feature
  rw [members, mem_toList]

/-- The names of a set are those of its members. -/
theorem perm_names (set : FeatureSet) : set.names.Perm (set.toList.map Feature.name) :=
  List.mergeSort_perm _ _

/-- A name is that of a member. -/
theorem mem_names {name : String} : name ∈ set.names ↔ ∃ feature ∈ set, feature.name = name := by
  rw [(perm_names set).mem_iff, List.mem_map]
  simp only [mem_toList]

/-- Sorting puts texts into code-point order, whatever list they come in. -/
theorem pairwise_le_mergeSort (texts : List String) :
    (texts.mergeSort (· ≤ ·)).Pairwise (· ≤ ·) := by
  have sorted := @List.pairwise_mergeSort String (fun a b => decide (a ≤ b)) ?_ ?_ texts
  · simpa only [decide_eq_true_eq] using sorted
  · simpa only [decide_eq_true_eq] using fun a b c => String.le_trans
  · simpa only [Bool.or_eq_true, decide_eq_true_eq] using String.le_total

/-- Each name is listed once, and names ascend in code-point order. -/
theorem pairwise_lt_names (set : FeatureSet) : set.names.Pairwise (· < ·) := by
  have distinct : set.names.Nodup := by
    rw [(perm_names set).nodup_iff]
    exact (nodup_toList set).map fun _ _ => Feature.name_injective
  have ascending : set.names.Pairwise (· ≤ ·) := pairwise_le_mergeSort _
  exact (ascending.and distinct).imp fun ⟨atMost, differ⟩ => Std.lt_of_le_of_ne atMost differ

/-- The members may be taken in any order before their names are sorted. -/
theorem mergeSort_map_name {listing : List Feature} (distinct : listing.Nodup)
    (members : ∀ feature, feature ∈ listing ↔ feature ∈ set) :
    (listing.map Feature.name).mergeSort (· ≤ ·) = set.names := by
  have perm := (List.mergeSort_perm (listing.map Feature.name) (· ≤ ·)).trans
    (((perm_toList distinct members).map Feature.name).trans (perm_names set).symm)
  refine perm.eq_of_pairwise ?_ (pairwise_le_mergeSort _) (pairwise_le_mergeSort _)
  exact fun _ _ _ _ => String.le_antisymm

/-- Sets with the same names are equal. -/
theorem names_injective {a b : FeatureSet} (same : a.names = b.names) : a = b := by
  have named : ∀ {a b : FeatureSet}, a.names = b.names → ∀ feature ∈ a, feature ∈ b := by
    intro a b same feature member
    have listed : feature.name ∈ b.names := same ▸ mem_names.mpr ⟨feature, member, rfl⟩
    obtain ⟨other, inside, sameName⟩ := mem_names.mp listed
    rwa [← Feature.name_injective sameName]
  exact ext fun feature => ⟨named same feature, named same.symm feature⟩

end FeatureSet

end EcmaEdition
