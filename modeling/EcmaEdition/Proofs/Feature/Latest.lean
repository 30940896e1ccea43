import EcmaEdition.Proofs.Feature.Set
import Mathlib.Data.Nat.Basic
import Mathlib.Order.Basic

/-!
# The latest of several

The latest edition of a list, the feature of a list that no other one outranks, and the edition that
a set of features needs are all found by going through a list with the best member so far. So one
law about such a fold gives them all: the result is a member, and every member is at most the result
(`foldl_attains`). Editions are ordered by rank, and two of the same rank are the same; features are
ordered by edition and then by their place in the catalog, and no two share a place. Therefore the
result depends on the members only, not on their order or repetition.
-/

set_option autoImplicit false

namespace EcmaEdition

/-- If a value that loses to another is at most the other, and the other is at most it when it does
not lose, then the fold that keeps the winner ends at a member that all members are at most. -/
theorem foldl_attains {α : Type} {atMost : α → α → Prop} (loses : α → α → Prop)
    [DecidableRel loses] (refl : ∀ a, atMost a a)
    (trans : ∀ a b c, atMost a b → atMost b c → atMost a c)
    (ofLoses : ∀ a b, loses a b → atMost a b) (ofNotLoses : ∀ a b, ¬loses a b → atMost b a)
    (first : α) (rest : List α) :
    rest.foldl (fun best a => if loses best a then a else best) first ∈ first :: rest ∧
      ∀ a ∈ first :: rest,
        atMost a (rest.foldl (fun best a => if loses best a then a else best) first) := by
  induction rest generalizing first with
  | nil => simpa using refl first
  | cons next rest ih =>
    rw [List.foldl_cons]
    by_cases lost : loses first next
    · obtain ⟨member, bound⟩ := ih next
      rw [if_pos lost]
      refine ⟨List.mem_cons_of_mem _ member, ?_⟩
      intro a listed
      obtain rfl | listed := List.mem_cons.mp listed
      · exact trans _ _ _ (ofLoses a next lost) (bound next List.mem_cons_self)
      · exact bound a listed
    · obtain ⟨member, bound⟩ := ih first
      have reached := bound first List.mem_cons_self
      rw [if_neg lost]
      constructor
      · obtain same | later := List.mem_cons.mp member
        · rw [same]
          exact List.mem_cons_self
        · exact List.mem_cons_of_mem _ (List.mem_cons_of_mem _ later)
      · intro a listed
        obtain rfl | listed := List.mem_cons.mp listed
        · exact reached
        · obtain rfl | listed := List.mem_cons.mp listed
          · exact trans _ _ _ (ofNotLoses first a lost) reached
          · exact bound a (List.mem_cons_of_mem _ listed)

namespace Edition

/-- Different editions have different ranks. -/
theorem rank_injective : Function.Injective rank := by
  intro a b same
  revert same
  cases a <;> cases b <;> decide

/-- The order of recency is the order of the ranks. -/
instance : LinearOrder Edition := LinearOrder.lift' rank rank_injective

/-- Editions compare as their ranks do. -/
theorem le_def (a b : Edition) : a ≤ b ↔ a.rank ≤ b.rank := Iff.rfl

/-- An edition precedes another if its rank is smaller. -/
theorem lt_def (a b : Edition) : a < b ↔ a.rank < b.rank := Iff.rfl

/-- Editions are the same if their ranks are. -/
theorem eq_iff_rank {a b : Edition} : a = b ↔ a.rank = b.rank :=
  rank_injective.eq_iff.symm

/-- The later of two editions is one of them. -/
theorem later_eq_or (a b : Edition) : a.later b = a ∨ a.later b = b := by
  unfold later
  split
  · exact Or.inr rfl
  · exact Or.inl rfl

/-- The first of two editions is at most the later one. -/
theorem le_later_left (a b : Edition) : a ≤ a.later b := by
  unfold later
  split
  · rename_i less
    exact less.le
  · exact le_rfl

/-- The second of two editions is at most the later one. -/
theorem le_later_right (a b : Edition) : b ≤ a.later b := by
  unfold later
  split
  · exact le_rfl
  · rename_i notLess
    exact not_lt.mp notLess

/-- There is no latest edition only of no editions. -/
theorem latest?_eq_none_iff (editions : List Edition) : latest? editions = none ↔ editions = [] := by
  cases editions <;> simp [latest?]

/-- The latest edition is the member that all members are at most. -/
theorem latest?_eq_some_iff (editions : List Edition) (edition : Edition) :
    latest? editions = some edition ↔ edition ∈ editions ∧ ∀ other ∈ editions, other ≤ edition := by
  cases editions with
  | nil => simp [latest?]
  | cons first rest =>
    obtain ⟨member, bound⟩ :=
      foldl_attains (fun a b : Edition => a < b) le_refl (fun _ _ _ => le_trans)
        (fun _ _ => le_of_lt) (fun _ _ => not_lt.mp) first rest
    rw [latest?, Option.some.injEq]
    constructor
    · rintro rfl
      exact ⟨member, bound⟩
    · rintro ⟨listed, greatest⟩
      exact le_antisymm (greatest _ member) (bound _ listed)

end Edition

namespace Feature

/-- One feature yields to another by rank of edition, and for the same edition by place. -/
theorem yieldsTo_iff (a b : Feature) :
    a.yieldsTo b = true ↔
      a.edition.rank < b.edition.rank ∨
        a.edition.rank = b.edition.rank ∧ b.index < a.index := by
  unfold yieldsTo
  simp only [Bool.or_eq_true, Bool.and_eq_true, decide_eq_true_eq, beq_iff_eq, Edition.lt_def,
    Edition.eq_iff_rank]

/-- A feature is at most another if it is the other or yields to it. -/
def atMost (a b : Feature) : Prop :=
  a = b ∨ a.yieldsTo b = true

/-- A feature is at most itself. -/
theorem atMost_refl (a : Feature) : atMost a a := Or.inl rfl

/-- What is at most a feature is at most all that it is at most. -/
theorem atMost_trans (a b c : Feature) (hab : atMost a b) (hbc : atMost b c) : atMost a c := by
  obtain rfl | hab := hab
  · exact hbc
  · obtain rfl | hbc := hbc
    · exact Or.inr hab
    · rw [yieldsTo_iff] at hab hbc
      exact Or.inr ((yieldsTo_iff a c).mpr (by omega))

/-- Features that are at most each other are the same. -/
theorem atMost_antisymm {a b : Feature} (hab : atMost a b) (hba : atMost b a) : a = b := by
  obtain same | hab := hab
  · exact same
  · obtain same | hba := hba
    · exact same.symm
    · rw [yieldsTo_iff] at hab hba
      omega

/-- A feature is of no later edition than one that it is at most. -/
theorem edition_le_of_atMost {a b : Feature} (hab : atMost a b) : a.edition ≤ b.edition := by
  obtain rfl | hab := hab
  · exact le_rfl
  · rw [yieldsTo_iff] at hab
    rw [Edition.le_def]
    omega

/-- A feature is at most what it yields to. -/
theorem atMost_of_yieldsTo (a b : Feature) (yields : a.yieldsTo b = true) : atMost a b :=
  Or.inr yields

/-- Of two features the one that does not yield is at least the other, since no two of them share a
place. -/
theorem atMost_of_not_yieldsTo (a b : Feature) (stays : ¬a.yieldsTo b = true) : atMost b a := by
  by_cases same : a.index = b.index
  · exact Or.inl (index_injective same).symm
  · rw [yieldsTo_iff] at stays
    exact Or.inr ((yieldsTo_iff b a).mpr (by omega))

/-- There is no latest feature only of no features. -/
theorem latest?_eq_none_iff (features : List Feature) : latest? features = none ↔ features = [] := by
  cases features <;> simp [latest?]

/-- The latest feature is the member that all members are at most. -/
theorem latest?_eq_some_iff (features : List Feature) (feature : Feature) :
    latest? features = some feature ↔
      feature ∈ features ∧ ∀ other ∈ features, atMost other feature := by
  cases features with
  | nil => simp [latest?]
  | cons first rest =>
    obtain ⟨member, bound⟩ :=
      foldl_attains (fun a b : Feature => a.yieldsTo b = true) atMost_refl atMost_trans
        atMost_of_yieldsTo atMost_of_not_yieldsTo first rest
    rw [latest?, Option.some.injEq]
    constructor
    · rintro rfl
      exact ⟨member, bound⟩
    · rintro ⟨listed, greatest⟩
      exact atMost_antisymm (greatest _ member) (bound _ listed)

/-- The edition of the latest feature is the latest of the editions. -/
theorem edition_latest? (features : List Feature) :
    (latest? features).map edition = Edition.latest? (features.map edition) := by
  cases found : latest? features with
  | none =>
    rw [latest?_eq_none_iff] at found
    rw [found]
    rfl
  | some feature =>
    obtain ⟨member, bound⟩ := (latest?_eq_some_iff features feature).mp found
    rw [Option.map_some, eq_comm, Edition.latest?_eq_some_iff]
    refine ⟨List.mem_map_of_mem member, ?_⟩
    intro other listed
    obtain ⟨source, inside, rfl⟩ := List.mem_map.mp listed
    exact edition_le_of_atMost (bound source inside)

end Feature

namespace FeatureSet

/-- Only the set without members needs no edition. -/
theorem edition?_eq_none_iff (set : FeatureSet) : set.edition? = none ↔ set = ∅ := by
  rw [edition?, Edition.latest?_eq_none_iff, List.map_eq_nil_iff, toList_eq_nil_iff]

/-- The edition that a set needs is the edition of a member, and no member's edition is later. -/
theorem edition?_eq_some_iff (set : FeatureSet) (edition : Edition) :
    set.edition? = some edition ↔
      (∃ feature ∈ set, feature.edition = edition) ∧
        ∀ feature ∈ set, feature.edition ≤ edition := by
  rw [edition?, Edition.latest?_eq_some_iff]
  simp only [List.mem_map, mem_toList, forall_exists_index, and_imp, forall_apply_eq_imp_iff₂]

/-- A set needs no later edition than another if each of its members has a member of the other that
came as late. -/
theorem edition?_le_of_dominated {a b : FeatureSet} {edition : Edition}
    (dominated : ∀ feature ∈ a, ∃ other ∈ b, feature.edition ≤ other.edition)
    (needed : a.edition? = some edition) : ∃ later, b.edition? = some later ∧ edition ≤ later := by
  obtain ⟨⟨feature, member, rfl⟩, -⟩ := (edition?_eq_some_iff _ _).mp needed
  obtain ⟨other, inB, earlier⟩ := dominated feature member
  have nonempty : b.edition? ≠ none := by
    rw [ne_eq, edition?_eq_none_iff]
    rintro rfl
    exact not_mem_empty other inB
  obtain ⟨later, found⟩ := Option.ne_none_iff_exists'.mp nonempty
  obtain ⟨-, bound⟩ := (edition?_eq_some_iff _ _).mp found
  exact ⟨later, found, le_trans earlier (bound other inB)⟩

/-- What two sets need together is the later of what each of them needs, if both need something, and
what the one needs if the other needs nothing. -/
theorem edition?_union (a b : FeatureSet) :
    (a ∪ b).edition? = Option.merge Edition.later a.edition? b.edition? := by
  cases ha : a.edition? with
  | none =>
    rw [edition?_eq_none_iff] at ha
    rw [ha, empty_union]
    cases b.edition? <;> rfl
  | some x =>
    cases hb : b.edition? with
    | none =>
      rw [edition?_eq_none_iff] at hb
      rw [hb, union_empty, ha]
      rfl
    | some y =>
      obtain ⟨⟨inA, memberA, hx⟩, boundA⟩ := (edition?_eq_some_iff a x).mp ha
      obtain ⟨⟨inB, memberB, hy⟩, boundB⟩ := (edition?_eq_some_iff b y).mp hb
      show (a ∪ b).edition? = some (x.later y)
      rw [edition?_eq_some_iff]
      constructor
      · obtain same | same := Edition.later_eq_or x y
        · exact ⟨inA, (mem_union _ _ _).mpr (Or.inl memberA), hx.trans same.symm⟩
        · exact ⟨inB, (mem_union _ _ _).mpr (Or.inr memberB), hy.trans same.symm⟩
      · intro feature member
        obtain member | member := (mem_union _ _ _).mp member
        · exact le_trans (boundA feature member) (Edition.le_later_left x y)
        · exact le_trans (boundB feature member) (Edition.le_later_right x y)

/-- Any list of the members, in any order and with any repetition, has the edition of the set as the
edition of its latest feature. -/
theorem edition_latest?_of_listing {set : FeatureSet} {listing : List Feature}
    (members : ∀ feature, feature ∈ listing ↔ feature ∈ set) :
    (Feature.latest? listing).map Feature.edition = set.edition? := by
  rw [Feature.edition_latest?]
  cases needed : set.edition? with
  | none =>
    rw [edition?_eq_none_iff] at needed
    rw [Edition.latest?_eq_none_iff, List.map_eq_nil_iff, List.eq_nil_iff_forall_not_mem]
    intro feature listed
    rw [members, needed] at listed
    exact not_mem_empty feature listed
  | some edition =>
    rw [edition?_eq_some_iff] at needed
    rw [Edition.latest?_eq_some_iff]
    simpa only [List.mem_map, members, forall_exists_index, and_imp,
      forall_apply_eq_imp_iff₂] using needed

end FeatureSet

end EcmaEdition
