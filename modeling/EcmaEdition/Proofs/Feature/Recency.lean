import EcmaEdition.Proofs.Feature.Latest

/-!
# The latest feature of a list

The latest feature is the one that every other member yields to, so it is the same for all lists
with the same members (`latest?_congr`). A list can therefore be cut in two: the latest of the whole
is the latest of the two latest ones (`latest?_append`). Its edition is the latest of the editions,
and that is where the sorted list of the editions ends (`getLast?_sort`).
-/

set_option autoImplicit false

namespace EcmaEdition

namespace Edition

/-- Sorting keeps each edition as often as it is there. -/
theorem perm_sort (editions : List Edition) : (sort editions).Perm editions :=
  List.mergeSort_perm _ _

/-- A sorted list ascends. -/
theorem pairwise_sort (editions : List Edition) : (sort editions).Pairwise (· ≤ ·) := by
  have trans : ∀ a b c : Edition, decide (a ≤ b) = true → decide (b ≤ c) = true →
      decide (a ≤ c) = true := by
    intro a b c hab hbc
    exact decide_eq_true (le_trans (of_decide_eq_true hab) (of_decide_eq_true hbc))
  have total : ∀ a b : Edition, (decide (a ≤ b) || decide (b ≤ a)) = true := by
    intro a b
    simp only [Bool.or_eq_true, decide_eq_true_eq]
    exact le_total a b
  exact (List.pairwise_mergeSort trans total editions).imp of_decide_eq_true

/-- The sorted list ends with the latest edition. -/
theorem getLast?_sort (editions : List Edition) : (sort editions).getLast? = latest? editions := by
  have members : ∀ edition, edition ∈ sort editions ↔ edition ∈ editions :=
    fun _ => (perm_sort editions).mem_iff
  cases last : (sort editions).getLast? with
  | none =>
    have nothing : sort editions = [] := List.getLast?_eq_none_iff.mp last
    have perm := perm_sort editions
    rw [nothing] at perm
    rw [List.nil_perm.mp perm]
    rfl
  | some edition =>
    obtain ⟨front, split⟩ := List.getLast?_eq_some_iff.mp last
    have sorted := pairwise_sort editions
    rw [split, List.pairwise_append] at sorted
    rw [eq_comm, latest?_eq_some_iff]
    constructor
    · rw [← members, split]
      exact List.mem_append_right front List.mem_cons_self
    · intro other listed
      rw [← members, split, List.mem_append] at listed
      obtain inFront | isLast := listed
      · exact sorted.2.2 other inFront edition List.mem_cons_self
      · exact le_of_eq (List.mem_singleton.mp isLast)

end Edition

namespace Feature

/-- What yields to a feature came earlier, or with the same edition and further back in the
catalog. -/
theorem earlier_of_atMost {a b : Feature} (bound : atMost a b) (other : a ≠ b) :
    a.edition < b.edition ∨ a.edition = b.edition ∧ b.index < a.index := by
  obtain same | yields := bound
  · exact absurd same other
  · rw [Edition.lt_def, Edition.eq_iff_rank]
    exact (yieldsTo_iff a b).mp yields

/-- Of some features there is a latest one. -/
theorem exists_latest? {features : List Feature} (nonempty : features ≠ []) :
    ∃ latest, latest? features = some latest := by
  apply Option.ne_none_iff_exists'.mp
  rwa [ne_eq, latest?_eq_none_iff]

/-- Neither the order of a list nor repetition in it matters. -/
theorem latest?_congr {features others : List Feature}
    (same : ∀ feature, feature ∈ others ↔ feature ∈ features) :
    latest? others = latest? features := by
  cases found : latest? features with
  | none =>
    rw [latest?_eq_none_iff] at found ⊢
    apply List.eq_nil_iff_forall_not_mem.mpr
    intro feature listed
    rw [same, found] at listed
    exact List.not_mem_nil listed
  | some latest =>
    rw [latest?_eq_some_iff] at found ⊢
    simpa only [same] using found

/-- The latest feature of two lists is the later of the latest of each, if both have one. -/
theorem latest?_append (first second : List Feature) :
    latest? (first ++ second) = latest? ((latest? first).toList ++ (latest? second).toList) := by
  cases found : latest? first with
  | none =>
    rw [latest?_eq_none_iff] at found
    subst found
    cases found' : latest? second with
    | none => exact found'
    | some b => exact found'
  | some a =>
    cases found' : latest? second with
    | none =>
      rw [latest?_eq_none_iff] at found'
      subst found'
      rw [List.append_nil, found]
      rfl
    | some b =>
      obtain ⟨inFirst, boundFirst⟩ := (latest?_eq_some_iff first a).mp found
      obtain ⟨inSecond, boundSecond⟩ := (latest?_eq_some_iff second b).mp found'
      obtain ⟨latest, later⟩ := exists_latest? (List.cons_ne_nil a [b])
      obtain ⟨isEither, bound⟩ := (latest?_eq_some_iff [a, b] latest).mp later
      have boundA := bound a (by simp)
      have boundB := bound b (by simp)
      show latest? (first ++ second) = latest? [a, b]
      rw [later, latest?_eq_some_iff]
      constructor
      · simp only [List.mem_cons, List.not_mem_nil, or_false] at isEither
        obtain rfl | rfl := isEither
        · exact List.mem_append_left second inFirst
        · exact List.mem_append_right first inSecond
      · intro other listed
        obtain inside | inside := List.mem_append.mp listed
        · exact atMost_trans other a latest (boundFirst other inside) boundA
        · exact atMost_trans other b latest (boundSecond other inside) boundB

/-- A list of features that is not empty has a latest one, which is a member: every other member
came with an earlier edition, or with the same edition and further back in the catalog. It is the
same for any list with the same members, whatever their order and however often they are repeated.
Behind another such list, it is compared with the latest of that list alone. Its edition is the
latest of the editions, and the last one when they are sorted. -/
theorem latest?_exact {features : List Feature} (nonempty : features ≠ []) :
    ∃ latest, latest? features = some latest ∧
      latest ∈ features ∧
      (∀ other ∈ features, other ≠ latest → other.edition < latest.edition ∨
        other.edition = latest.edition ∧ latest.index < other.index) ∧
      (∀ others : List Feature, (∀ feature, feature ∈ others ↔ feature ∈ features) →
        latest? others = some latest) ∧
      (∀ more : List Feature, more ≠ [] → ∃ second, latest? more = some second ∧
        latest? (features ++ more) = latest? [latest, second]) ∧
      Edition.latest? (features.map edition) = some latest.edition ∧
      (Edition.sort (features.map edition)).getLast? = some latest.edition ∧
      (Edition.sort (features.map edition)).Perm (features.map edition) ∧
      (Edition.sort (features.map edition)).Pairwise (· ≤ ·) := by
  obtain ⟨latest, found⟩ := exists_latest? nonempty
  obtain ⟨member, bound⟩ := (latest?_eq_some_iff features latest).mp found
  have needed : Edition.latest? (features.map edition) = some latest.edition := by
    rw [← edition_latest?, found]
    rfl
  refine ⟨latest, found, member, ?_, ?_, ?_, needed, ?_, Edition.perm_sort _,
    Edition.pairwise_sort _⟩
  · intro other listed differ
    exact earlier_of_atMost (bound other listed) differ
  · intro others same
    rw [latest?_congr same, found]
  · intro more nonempty'
    obtain ⟨second, found'⟩ := exists_latest? nonempty'
    refine ⟨second, found', ?_⟩
    rw [latest?_append, found, found']
    rfl
  · rw [Edition.getLast?_sort, needed]

/-- Of two features of one edition the one that comes first in the catalog is the latest, wherever
it stands in the list and however often. -/
theorem latest?_exact_sameEdition :
    latest? [.topLevelAwait, .asyncFunctions, .classFields] = some .classFields ∧
      latest? [.classFields, .topLevelAwait, .classFields, .asyncFunctions] = some .classFields ∧
      latest? ([.topLevelAwait, .asyncFunctions, .classFields] ++ [.hashbangGrammar, .bigint]) =
        latest? [.classFields, .hashbangGrammar] ∧
      (Edition.sort [.es13, .es8, .es13]).getLast? = some .es13 := by
  have nonempty : [topLevelAwait, asyncFunctions, classFields] ≠ [] := List.cons_ne_nil _ _
  obtain ⟨latest, found, -, -, same, append, -, last, -⟩ := latest?_exact nonempty
  obtain rfl : .classFields = latest := Option.some.inj found
  obtain ⟨second, found', joined⟩ := append [.hashbangGrammar, .bigint] (by decide)
  obtain rfl : .hashbangGrammar = second := Option.some.inj found'
  refine ⟨found, same _ ?_, joined, last⟩
  intro feature
  cases feature <;> decide

end Feature

end EcmaEdition
