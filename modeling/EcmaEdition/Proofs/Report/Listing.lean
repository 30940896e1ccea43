import EcmaEdition.Proofs.Report.Document
import Mathlib.Data.List.Count

/-!
# The report for a reader

The report lists the features of an analysis, one on each line, by edition and within an edition by
name. That is a total order on features, so the list does not depend on the order in which the
members are taken, and its last feature is of the edition that the set needs. A line shows the title
behind the column of editions. No title has a line break and no two features share one, so the
features can be read back from the lines (`listed_text`), and the report tells which set it is of.
-/

set_option autoImplicit false

namespace EcmaEdition

/-- The member of an object with a name. -/
def Json.Value.member? (value : Json.Value) (name : String) : Option Json.Value :=
  match value with
  | .object members => (members.find? (·.1 = name)).map (·.2)
  | _ => none

namespace Report

open EcmaEdition.Json

/-! ## The order of the list -/

/-- One feature comes before another: its edition is earlier, or it is the same and its name comes
first in code-point order. -/
def Before (a b : Feature) : Prop :=
  a.edition < b.edition ∨ a.edition = b.edition ∧ a.name < b.name

instance (a b : Feature) : Decidable (Before a b) :=
  inferInstanceAs (Decidable (a.edition < b.edition ∨ a.edition = b.edition ∧ a.name < b.name))

/-- Features are listed by edition and then by name. -/
theorem precedes_iff (a b : Feature) :
    precedes a b = true ↔ a.edition < b.edition ∨ a.edition = b.edition ∧ a.name ≤ b.name := by
  simp [precedes]

/-- Features are listed by the rank of their editions and then by name. -/
theorem precedes_iff_rank (a b : Feature) :
    precedes a b = true ↔
      a.edition.rank < b.edition.rank ∨ a.edition.rank = b.edition.rank ∧ a.name ≤ b.name := by
  rw [precedes_iff, Edition.lt_def, Edition.eq_iff_rank]

/-- The order of the listing is transitive. -/
theorem precedes_trans (a b c : Feature) (hab : precedes a b = true) (hbc : precedes b c = true) :
    precedes a c = true := by
  rw [precedes_iff_rank] at hab hbc ⊢
  obtain earlier | ⟨same, atMost⟩ := hab
  · left
    omega
  · obtain earlier' | ⟨same', atMost'⟩ := hbc
    · left
      omega
    · exact Or.inr ⟨same.trans same', String.le_trans atMost atMost'⟩

/-- Of two features one may stand before the other. -/
theorem precedes_total (a b : Feature) : (precedes a b || precedes b a) = true := by
  rw [Bool.or_eq_true, precedes_iff_rank, precedes_iff_rank]
  obtain earlier | same | later := Nat.lt_trichotomy a.edition.rank b.edition.rank
  · exact Or.inl (Or.inl earlier)
  · obtain atMost | atLeast := String.le_total a.name b.name
    · exact Or.inl (Or.inr ⟨same, atMost⟩)
    · exact Or.inr (Or.inr ⟨same.symm, atLeast⟩)
  · exact Or.inr (Or.inl later)

/-- Only a feature itself stands both before and behind it. -/
theorem precedes_antisymm {a b : Feature} (hab : precedes a b = true) (hba : precedes b a = true) :
    a = b := by
  rw [precedes_iff_rank] at hab hba
  obtain earlier | ⟨same, atMost⟩ := hab
  · omega
  · obtain later | ⟨-, atLeast⟩ := hba
    · omega
    · exact Feature.name_injective (String.le_antisymm atMost atLeast)

/-- Of two different features the one that precedes the other comes before it. -/
theorem before_of_precedes {a b : Feature} (precede : precedes a b = true) (differ : a ≠ b) :
    Before a b := by
  obtain earlier | ⟨same, atMost⟩ := (precedes_iff a b).mp precede
  · exact Or.inl earlier
  · refine Or.inr ⟨same, Std.lt_of_le_of_ne atMost ?_⟩
    exact fun sameName => differ (Feature.name_injective sameName)

/-- What comes before in the listing may stand before. -/
theorem precedes_of_before {a b : Feature} (before : Before a b) : precedes a b = true := by
  rw [precedes_iff]
  exact before.imp_right fun ⟨same, first⟩ => ⟨same, Std.le_of_lt first⟩

/-- No feature comes before itself. -/
theorem not_before_self (a : Feature) : ¬Before a a := by
  rintro (earlier | ⟨-, first⟩)
  · exact absurd earlier (Nat.lt_irrefl _)
  · exact absurd first (String.lt_irrefl _)

/-- What comes before is of no later edition. -/
theorem edition_le_of_before {a b : Feature} (before : Before a b) : a.edition ≤ b.edition := by
  obtain earlier | ⟨same, -⟩ := before
  · exact le_of_lt earlier
  · exact le_of_eq same

section Ordered

variable {set : FeatureSet}

/-- The listing has the members of the set, each as often. -/
theorem perm_ordered (set : FeatureSet) : (ordered set).Perm set.toList :=
  List.mergeSort_perm _ _

/-- A feature is listed if it is in the set. -/
theorem mem_ordered {feature : Feature} : feature ∈ ordered set ↔ feature ∈ set := by
  rw [(perm_ordered set).mem_iff, FeatureSet.mem_toList]

/-- No feature is listed twice. -/
theorem nodup_ordered (set : FeatureSet) : (ordered set).Nodup :=
  (perm_ordered set).nodup_iff.mpr (FeatureSet.nodup_toList set)

/-- Each feature of the listing comes before all behind it. -/
theorem pairwise_before_ordered (set : FeatureSet) : (ordered set).Pairwise Before := by
  have sorted := List.pairwise_mergeSort precedes_trans precedes_total set.toList
  exact (sorted.and (nodup_ordered set)).imp fun ⟨precede, differ⟩ =>
    before_of_precedes precede differ

/-- The members may be taken in any order before they are sorted. -/
theorem mergeSort_eq_ordered {members : List Feature} (distinct : members.Nodup)
    (same : ∀ feature, feature ∈ members ↔ feature ∈ set) :
    members.mergeSort precedes = ordered set := by
  have perm : (members.mergeSort precedes).Perm (ordered set) :=
    (List.mergeSort_perm members precedes).trans
      ((FeatureSet.perm_toList distinct same).trans (perm_ordered set).symm)
  -- Both lists are sorted, and an antisymmetric order leaves one sorted list of the members.
  refine perm.eq_of_pairwise (fun a b _ _ => precedes_antisymm) ?_ ?_
  · exact List.pairwise_mergeSort precedes_trans precedes_total _
  · exact List.pairwise_mergeSort precedes_trans precedes_total _

/-- There is no other list of the members in this order. -/
theorem eq_ordered {listing : List Feature} (sorted : listing.Pairwise Before)
    (same : ∀ feature, feature ∈ listing ↔ feature ∈ set) : listing = ordered set := by
  have distinct : listing.Nodup := by
    refine sorted.imp ?_
    rintro a b before rfl
    exact not_before_self a before
  rw [← mergeSort_eq_ordered distinct same]
  exact (List.mergeSort_of_pairwise (sorted.imp precedes_of_before)).symm

/-- A set that is not empty has a last feature. -/
theorem exists_getLast?_ordered (nonempty : set ≠ ∅) :
    ∃ last, (ordered set).getLast? = some last := by
  rw [← Option.ne_none_iff_exists', ne_eq, List.getLast?_eq_none_iff]
  intro nothing
  refine nonempty ((FeatureSet.eq_empty_iff set).mpr fun feature member => ?_)
  rw [← mem_ordered, nothing] at member
  exact List.not_mem_nil member

/-- The last feature of the list is of the edition that the set needs. -/
theorem edition?_of_getLast? {last : Feature} (isLast : (ordered set).getLast? = some last) :
    set.edition? = some last.edition := by
  obtain ⟨front, split⟩ := List.getLast?_eq_some_iff.mp isLast
  have sorted := pairwise_before_ordered set
  rw [split, List.pairwise_append] at sorted
  rw [FeatureSet.edition?_eq_some_iff]
  constructor
  · refine ⟨last, mem_ordered.mp ?_, rfl⟩
    simp [split]
  · intro feature member
    have listed : feature ∈ front ++ [last] := split ▸ mem_ordered.mpr member
    obtain inFront | isLast := List.mem_append.mp listed
    · exact edition_le_of_before (sorted.2.2 feature inFront last List.mem_cons_self)
    · exact le_of_eq (congrArg Feature.edition (List.mem_singleton.mp isLast))

end Ordered

/-! ## The lines of a text -/

/-- The lines of a text. What stands behind the last line break is a line, too, if an empty one. -/
def lines (text : String) : List String :=
  (text.toList.splitOn '\n').map String.ofList

/-- The empty text is one empty line. -/
theorem lines_empty : lines "" = [""] := rfl

/-- A line break ends a line that has none. -/
theorem lines_cons {line : String} (whole : '\n' ∉ line.toList) (rest : String) :
    lines (line ++ "\n" ++ rest) = line :: lines rest := by
  have split : (line ++ "\n" ++ rest).toList = line.toList ++ '\n' :: rest.toList := by
    rw [String.toList_append, String.toList_append, List.append_assoc]
    rfl
  rw [lines, split, List.splitOn_append_cons_self_of_not_mem whole, List.map_cons,
    String.ofList_toList]
  rfl

/-- Rows that are ended by line feeds are the lines of a text. -/
theorem lines_join {rows : List String} (whole : ∀ row ∈ rows, '\n' ∉ row.toList) (rest : String) :
    lines (String.join (rows.map (· ++ "\n")) ++ rest) = rows ++ lines rest := by
  induction rows with
  | nil => simp
  | cons row rows ih =>
    obtain ⟨here, others⟩ := List.forall_mem_cons.mp whole
    rw [List.map_cons, String.join_cons, String.append_assoc, lines_cons here, ih others,
      List.cons_append]

/-! ## The line of a feature -/

/-- A text that fits is filled up to the width. -/
theorem length_fill {width : Nat} {text : String} (fits : text.length ≤ width) :
    (fill width text).toList.length = width := by
  rw [fill, String.toList_append, String.toList_ofList, List.length_append, List.length_replicate,
    String.length_toList]
  omega

/-- Every label of an edition fits into its column. -/
theorem length_label_le (edition : Edition) : edition.label.length ≤ editionWidth := by
  cases edition <;> decide +kernel

/-- A line is an indentation, the label in its column, a space and the title. -/
theorem toList_featureLine (feature : Feature) :
    (featureLine feature).toList =
      [' ', ' '] ++ (fill editionWidth feature.edition.label).toList ++ [' '] ++
        feature.title.toList := by
  simp only [featureLine, String.toList_append]
  rfl

/-- The title stands behind the two spaces, the column of editions and another space. -/
theorem drop_featureLine (feature : Feature) :
    (featureLine feature).toList.drop (editionWidth + 3) = feature.title.toList := by
  rw [toList_featureLine]
  refine List.drop_left' ?_
  rw [List.length_append, List.length_append, length_fill (length_label_le _)]
  rfl

/-- Filling up adds spaces alone. -/
theorem not_mem_fill {width : Nat} {text : String} {c : Char} (absent : c ∉ text.toList)
    (other : c ≠ ' ') : c ∉ (fill width text).toList := by
  simp [fill, absent, other]

/-- The line of a feature is one line. -/
theorem not_mem_featureLine (feature : Feature) : '\n' ∉ (featureLine feature).toList := by
  have label : '\n' ∉ feature.edition.label.toList := by
    cases feature.edition <;> decide +kernel
  have titles : ∀ feature ∈ Feature.all, '\n' ∉ feature.title.toList := by decide +kernel
  have title := titles feature (Feature.mem_all feature)
  have column : '\n' ∉ (fill editionWidth feature.edition.label).toList :=
    not_mem_fill label (by decide)
  simp [toList_featureLine, column, title]

/-- Different features have different titles. -/
theorem title_injective {a b : Feature} (same : a.title = b.title) : a = b := by
  have distinct : (Feature.all.map Feature.title).Nodup := by decide +kernel
  exact List.inj_on_of_nodup_map distinct (Feature.mem_all a) (Feature.mem_all b) same

/-- The feature that a line shows by the title behind the column of editions. -/
def shown? (line : String) : Option Feature :=
  if line.toList.take 2 = [' ', ' '] then
    Feature.all.find? (·.title.toList = line.toList.drop (editionWidth + 3))
  else none

/-- The feature of a line is read back from its title. -/
theorem shown?_featureLine (feature : Feature) : shown? (featureLine feature) = some feature := by
  have spaces : (featureLine feature).toList.take 2 = [' ', ' '] := by
    rw [toList_featureLine]
    rfl
  rw [shown?, if_pos spaces, drop_featureLine]
  cases found : Feature.all.find? (·.title.toList = feature.title.toList) with
  | none =>
    have missing := List.find?_eq_none.mp found feature (Feature.mem_all feature)
    simp at missing
  | some other =>
    have same := List.find?_some found
    rw [decide_eq_true_eq] at same
    rw [title_injective (String.toList_inj.mp same)]

/-- Different features have different lines. -/
theorem featureLine_injective : Function.Injective featureLine := by
  intro a b same
  have shown := shown?_featureLine a
  rw [same, shown?_featureLine] at shown
  exact (Option.some.inj shown).symm

/-! ## The report -/

variable {analysis : Analysis}

/-- The report of an analysis with features has a heading, the lines of the features in order, and
the edition that they need. -/
theorem lines_text_of_edition {edition : Edition}
    (needed : analysis.minimumEdition? = some edition) :
    lines (text analysis) =
      "Features:" :: (ordered analysis.features).map featureLine ++
        ["Minimum edition: " ++ edition.describe, ""] := by
  have rows : ∀ row ∈ (ordered analysis.features).map featureLine, '\n' ∉ row.toList := by
    intro row listed
    obtain ⟨feature, -, rfl⟩ := List.mem_map.mp listed
    exact not_mem_featureLine feature
  have summary : '\n' ∉ ("Minimum edition: " ++ edition.describe).toList := by
    cases edition <;> decide +kernel
  have written : text analysis =
      "Features:" ++ "\n" ++
        (String.join (((ordered analysis.features).map featureLine).map (· ++ "\n")) ++
          ("Minimum edition: " ++ edition.describe ++ "\n" ++ "")) := by
    rw [text, needed, List.map_map]
    simp only [String.append_assoc, String.append_empty, Function.comp_def]
    rfl
  rw [written, lines_cons (by decide), lines_join rows, lines_cons summary, lines_empty]
  rfl

/-- Without a minimum edition the report is one sentence. -/
theorem lines_text_of_none (none : analysis.minimumEdition? = none) :
    lines (text analysis) = ["No edition-specific features detected.", ""] := by
  have written : text analysis = "No edition-specific features detected." ++ "\n" ++ "" := by
    rw [text, none]
    rfl
  rw [written, lines_cons (by decide), lines_empty]

/-- In any report the lines of the features in order stand between lines that show no feature. -/
theorem exists_lines_text (analysis : Analysis) :
    ∃ before after, lines (text analysis) =
        before ++ (ordered analysis.features).map featureLine ++ after ∧
      (∀ line ∈ before, shown? line = none) ∧ ∀ line ∈ after, shown? line = none := by
  cases needed : analysis.minimumEdition? with
  | none =>
    have nothing : analysis.features = ∅ := (FeatureSet.edition?_eq_none_iff _).mp needed
    have empty : ordered ∅ = [] := by
      rw [ordered, (FeatureSet.toList_eq_nil_iff ∅).mpr rfl, List.mergeSort_nil]
    refine ⟨["No edition-specific features detected."], [""], ?_, by decide, by decide⟩
    rw [lines_text_of_none needed, nothing, empty]
    rfl
  | some edition =>
    refine ⟨["Features:"], ["Minimum edition: " ++ edition.describe, ""],
      lines_text_of_edition needed, by decide, ?_⟩
    cases edition <;> decide

/-- The features that the lines of a report show. -/
def listed (report : String) : FeatureSet :=
  FeatureSet.ofList ((lines report).filterMap shown?)

/-- The features are read back from the report. -/
theorem listed_text (analysis : Analysis) : listed (text analysis) = analysis.features := by
  obtain ⟨before, after, split, bare, bare'⟩ := exists_lines_text analysis
  have rows : ((ordered analysis.features).map featureLine).filterMap shown? =
      ordered analysis.features := by
    rw [List.filterMap_map]
    exact (List.filterMap_congr fun feature _ => shown?_featureLine feature).trans
      List.filterMap_some
  apply FeatureSet.ext
  intro feature
  rw [listed, split, List.filterMap_append, List.filterMap_append, rows,
    List.filterMap_eq_nil_iff.mpr bare, List.filterMap_eq_nil_iff.mpr bare', List.nil_append,
    List.append_nil, FeatureSet.mem_ofList, mem_ordered]

/-- Each member of the set has one line in the report, and no other feature has any. -/
theorem count_lines_text (analysis : Analysis) (feature : Feature) :
    (lines (text analysis)).count (featureLine feature) =
      if feature ∈ analysis.features then 1 else 0 := by
  obtain ⟨before, after, split, bare, bare'⟩ := exists_lines_text analysis
  have other : ∀ rest : List String, (∀ line ∈ rest, shown? line = none) →
      rest.count (featureLine feature) = 0 := by
    intro rest bare
    refine List.count_eq_zero.mpr fun inside => ?_
    have shown := bare _ inside
    rw [shown?_featureLine] at shown
    cases shown
  rw [split, List.count_append, List.count_append, other before bare, other after bare',
    List.count_map_of_injective _ _ featureLine_injective, (nodup_ordered _).count, Nat.zero_add,
    Nat.add_zero]
  simp only [mem_ordered]

/-- The report for a program gives the label of the edition, and null if there is none. -/
theorem denotes_member_iff {analysis : Analysis} {edition : Value} :
    (∃ value, Denotes (json analysis).toList value ∧
        value.member? "minimum_edition" = some edition) ↔
      edition =
        (analysis.minimumEdition?.map fun edition => Value.string edition.label).getD .null := by
  simp only [denotes_json_iff, exists_eq_left, payload, Value.member?]
  exact Option.some_inj.trans eq_comm

/-- The features stand in the report in order of edition and then of name, however the members are
taken, and each member has one line. With features, the report ends with the edition of the last of
them, which no member's edition exceeds and which the report for a program gives as well; without
features, it is the text that says so, and the report for a program gives null. The features are
read back from the report, so different sets have different reports. -/
theorem text_exact (analysis : Analysis) :
    (∀ members : List Feature, members.Nodup →
        (∀ feature, feature ∈ members ↔ feature ∈ analysis.features) →
        members.mergeSort precedes = ordered analysis.features) ∧
      (ordered analysis.features).Pairwise Before ∧
      (∀ feature, feature ∈ ordered analysis.features ↔ feature ∈ analysis.features) ∧
      (∀ feature, (lines (text analysis)).count (featureLine feature) =
        if feature ∈ analysis.features then 1 else 0) ∧
      (analysis.features ≠ ∅ → ∃ last,
        (ordered analysis.features).getLast? = some last ∧
          lines (text analysis) = "Features:" :: (ordered analysis.features).map featureLine ++
            ["Minimum edition: " ++ last.edition.describe, ""] ∧
          (∀ feature ∈ analysis.features, feature.edition ≤ last.edition) ∧
          ∃ value, Denotes (json analysis).toList value ∧
            value.member? "minimum_edition" = some (.string last.edition.label)) ∧
      (text analysis = "No edition-specific features detected.\n" ↔ analysis.features = ∅) ∧
      (analysis.features = ∅ ↔ ∃ value, Denotes (json analysis).toList value ∧
        value.member? "minimum_edition" = some .null) ∧
      listed (text analysis) = analysis.features ∧
      ∀ other : Analysis, text analysis = text other ↔ analysis.features = other.features := by
  have injective : ∀ other : Analysis,
      text analysis = text other ↔ analysis.features = other.features := by
    intro other
    constructor
    · intro same
      rw [← listed_text analysis, same, listed_text]
    · intro same
      rw [text, text, Analysis.minimumEdition?, Analysis.minimumEdition?, same]
  have bare : analysis.minimumEdition? = none ↔ analysis.features = ∅ :=
    FeatureSet.edition?_eq_none_iff _
  refine ⟨fun _ => mergeSort_eq_ordered, pairwise_before_ordered _, fun _ => mem_ordered,
    count_lines_text analysis, ?_, ?_, ?_, listed_text analysis, injective⟩
  · intro nonempty
    obtain ⟨last, isLast⟩ := exists_getLast?_ordered nonempty
    have needed : analysis.minimumEdition? = some last.edition := edition?_of_getLast? isLast
    have bound := ((FeatureSet.edition?_eq_some_iff _ _).mp needed).2
    refine ⟨last, isLast, lines_text_of_edition needed, bound, denotes_member_iff.mpr ?_⟩
    rw [needed]
    rfl
  · -- The text without features is the report of this analysis with its features taken away.
    have reported : text ⟨analysis.parsed, ∅⟩ = "No edition-specific features detected.\n" := by
      rw [text, Analysis.minimumEdition?, (FeatureSet.edition?_eq_none_iff ∅).mpr rfl]
    rw [← reported]
    exact injective ⟨analysis.parsed, ∅⟩
  · rw [denotes_member_iff, ← bare]
    cases analysis.minimumEdition? <;> simp

/-- An analysis with two features of one edition, whose names are not in catalog order, and a
feature of a later one. -/
def threeFeatures : Analysis where
  parsed := { tree := none, diagnostics := [], sourceName := "a.js" }
  features := FeatureSet.ofList [.topLevelAwait, .regexpNamedCaptureGroups, .asyncIteration]

/-- The report of these features, in whatever order they come. -/
theorem text_exact_threeFeatures :
    [Feature.topLevelAwait, .asyncIteration, .regexpNamedCaptureGroups].mergeSort precedes =
        ordered threeFeatures.features ∧
      lines (text threeFeatures) =
        ["Features:", "  ES9     Asynchronous iteration", "  ES9     RegExp named capture groups",
          "  ES13    Top-level await", "Minimum edition: ES13 (2022)", ""] := by
  obtain ⟨order, -, -, -, report, -⟩ := text_exact threeFeatures
  have listing : ordered threeFeatures.features =
      [.asyncIteration, .regexpNamedCaptureGroups, .topLevelAwait] := by
    refine (eq_ordered (by decide +kernel) ?_).symm
    intro feature
    cases feature <;> decide
  refine ⟨order _ (by decide) ?_, ?_⟩
  · intro feature
    cases feature <;> decide
  · obtain ⟨last, isLast, rows, -⟩ := report (by decide)
    rw [listing] at isLast rows
    obtain rfl : .topLevelAwait = last := Option.some.inj isLast
    rw [rows]
    decide +kernel

end Report

end EcmaEdition
