import EcmaEdition.Proofs.Feature.Latest
import EcmaEdition.Proofs.Feature.Names
import EcmaEdition.Proofs.Report.Json
import EcmaEdition.Report.Render

/-!
# The report for a program

The report of an analysis is in ASCII, and it is a JSON document of an object with three members:
the name of the source, the names of the features, and the label of the edition that they need. So
two analyses have the same report exactly if they agree on the source's name and on the features.
-/

set_option autoImplicit false

namespace EcmaEdition.Report

open EcmaEdition.Json

/-- The object that the report of an analysis denotes. -/
def payload (sourceName : String) (names : List String) (edition : Option Edition) : Value :=
  .object [
    ("source", .string sourceName),
    ("features", .array (names.map .string)),
    ("minimum_edition", (edition.map fun edition => Value.string edition.label).getD .null)]

/-- The values of some strings are these strings. -/
theorem values_map_string (texts : List String) :
    values (texts.map Json.string) = texts.map Value.string := by
  induction texts with
  | nil => rfl
  | cons text texts ih => rw [List.map_cons, values, ih, value, List.map_cons]

/-- The value of the document is what is to be told about the analysis. -/
theorem value_document (analysis : Analysis) :
    value (document analysis) =
      payload analysis.parsed.sourceName analysis.features.names analysis.minimumEdition? := by
  rw [document, payload]
  simp only [value, memberValues, values_map_string]
  cases analysis.minimumEdition? <;> rfl

/-- The report is the characters of the document and a line feed. -/
theorem toList_json (analysis : Analysis) :
    (json analysis).toList = chars 0 (document analysis) ++ ['\n'] := by
  rw [json, Json.render, String.toList_append, String.toList_ofList]
  rfl

/-- The report denotes the object of its analysis and nothing else. -/
theorem denotes_json_iff (analysis : Analysis) (other : Value) :
    Denotes (json analysis).toList other ↔
      other = payload analysis.parsed.sourceName analysis.features.names
        analysis.minimumEdition? := by
  have space : ∀ c ∈ ['\n'], isSpace c = true := by
    intro c listed
    obtain rfl := List.mem_singleton.mp listed
    rfl
  rw [toList_json, ← value_document]
  exact denotes_chars_iff _ space other

/-- An object tells what it was made from. -/
theorem payload_injective {sourceName sourceName' : String} {names names' : List String}
    {edition edition' : Option Edition}
    (same : payload sourceName names edition = payload sourceName' names' edition') :
    sourceName = sourceName' ∧ names = names' := by
  simp only [payload, Value.object.injEq, List.cons.injEq, Prod.mk.injEq, Value.string.injEq,
    Value.array.injEq, true_and] at same
  exact ⟨same.1, List.map_injective_iff.mpr (fun _ _ => Value.string.inj) same.2.1⟩

/-- The report of an analysis is in ASCII, and as JSON it denotes exactly the object of the source's
name, the names of the features and the label of the minimum edition. The names are those of the
members, each once and in code-point order, in whatever order the members are taken before sorting;
the edition is that of a member and no member's is later, and there is none only without features.
Reports are equal exactly if the names of the sources and the features are. -/
theorem json_exact (analysis : Analysis) :
    IsAscii (json analysis).toList ∧
      (∀ other, Denotes (json analysis).toList other ↔
        other = payload analysis.parsed.sourceName analysis.features.names
          analysis.minimumEdition?) ∧
      analysis.features.names.Pairwise (· < ·) ∧
      (∀ name, name ∈ analysis.features.names ↔
        ∃ feature ∈ analysis.features, feature.name = name) ∧
      (∀ listing : List Feature, listing.Nodup →
        (∀ feature, feature ∈ listing ↔ feature ∈ analysis.features) →
        (listing.map Feature.name).mergeSort (· ≤ ·) = analysis.features.names) ∧
      (∀ edition, analysis.minimumEdition? = some edition ↔
        (∃ feature ∈ analysis.features, feature.edition = edition) ∧
          ∀ feature ∈ analysis.features, feature.edition ≤ edition) ∧
      (analysis.minimumEdition? = none ↔ analysis.features = ∅) ∧
      ∀ other : Analysis, json analysis = json other ↔
        analysis.parsed.sourceName = other.parsed.sourceName ∧
          analysis.features = other.features := by
  refine ⟨?_, denotes_json_iff analysis, FeatureSet.pairwise_lt_names _,
    fun _ => FeatureSet.mem_names,
    fun _ => FeatureSet.mergeSort_map_name, FeatureSet.edition?_eq_some_iff _,
    FeatureSet.edition?_eq_none_iff _, ?_⟩
  · rw [toList_json, isAscii_append]
    exact ⟨isAscii_chars 0 _, by simp⟩
  · intro other
    constructor
    · intro same
      have denoted := (denotes_json_iff analysis _).mpr rfl
      rw [same, denotes_json_iff] at denoted
      obtain ⟨sameName, sameNames⟩ := payload_injective denoted
      exact ⟨sameName, FeatureSet.names_injective sameNames⟩
    · rintro ⟨sameName, sameFeatures⟩
      rw [json, json, document, document, Analysis.minimumEdition?, Analysis.minimumEdition?,
        sameName, sameFeatures]

/-- An analysis of a source whose name has a quote, a line break and a character beyond the first
plane. -/
def quotedName : Analysis where
  parsed := { tree := none, diagnostics := [], sourceName := "a\"\n😀.js" }
  features := {Feature.topLevelAwait} ∪ {Feature.bigint}

/-- Its two features have the same names in the report, whichever of them is taken first. -/
theorem json_exact_quotedName :
    [Feature.bigint, .topLevelAwait].Nodup ∧
      ([Feature.bigint, .topLevelAwait].map Feature.name).mergeSort (· ≤ ·) =
        quotedName.features.names ∧
      Denotes (json quotedName).toList
        (payload quotedName.parsed.sourceName quotedName.features.names (some .es13)) := by
  obtain ⟨-, denotes, -, -, order, -⟩ := json_exact quotedName
  have members : ∀ feature, feature ∈ [Feature.bigint, .topLevelAwait] ↔
      feature ∈ quotedName.features := by
    intro feature
    cases feature <;> decide
  have edition : quotedName.minimumEdition? = some .es13 := by decide
  refine ⟨by decide, order _ (by decide) members, (denotes _).mpr ?_⟩
  rw [edition]

end EcmaEdition.Report
