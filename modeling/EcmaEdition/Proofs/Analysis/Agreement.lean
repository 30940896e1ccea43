import EcmaEdition.Proofs.Analysis.Modes
import EcmaEdition.Proofs.Feature.Latest

/-!
# The agreement of the entry points

A source can be asked for its features, for its minimum edition, or for a whole analysis, and a tree
for its minimum edition. The answers fit together. All of them refuse the same sources with the same
rejection; the features are those of the analysis; and if there are features, every way of asking
for the edition gives the edition of the latest feature, whatever default is offered. Only without
features do the ways differ: an analysis has no edition, and the others fall back on the default or
fail.
-/

set_option autoImplicit false

namespace EcmaEdition.Analysis

variable {parser : Parser} {source : Source} {sourceName : String}

/-- The features of a source without problems are those of its tree. -/
theorem sourceFeatures_of_sound (sound : (Parsed.read parser source sourceName).diagnostics = []) :
    sourceFeatures parser source sourceName = .ok (Finder.find (parser source.toBytes)) := by
  rw [sourceFeatures, Parsed.accept_of_sound sound]
  rfl

/-- A source with problems is refused with the first of them where its features are asked for. -/
theorem sourceFeatures_strict {first : Diagnostic} {rest : List Diagnostic}
    (problems : (Parsed.read parser source sourceName).diagnostics = first :: rest) :
    sourceFeatures parser source sourceName =
      .error ((Parsed.read parser source sourceName).rejection first) := by
  rw [sourceFeatures, Parsed.accept_strict problems]

/-- The minimum edition of a source without problems is that of its tree. -/
theorem sourceMinimum_of_sound (sound : (Parsed.read parser source sourceName).diagnostics = [])
    (default : Option Edition) :
    sourceMinimum parser source sourceName default =
      (minimumEdition (parser source.toBytes) default sourceName).mapError .nothingDetected := by
  rw [sourceMinimum, Parsed.accept_of_sound sound]
  cases minimumEdition (parser source.toBytes) default sourceName <;> rfl

/-- A source with problems is refused with the first of them where its minimum edition is asked
for. -/
theorem sourceMinimum_strict {first : Diagnostic} {rest : List Diagnostic}
    (problems : (Parsed.read parser source sourceName).diagnostics = first :: rest)
    (default : Option Edition) :
    sourceMinimum parser source sourceName default =
      .error (.rejected ((Parsed.read parser source sourceName).rejection first)) := by
  rw [sourceMinimum, Parsed.accept_strict problems]

/-- A tree whose features need an edition has that minimum edition, whatever the default is. -/
theorem minimumEdition_of_features {tree : Node} {edition : Edition}
    (needed : (Finder.find tree).edition? = some edition) (default : Option Edition)
    (sourceName : String) : minimumEdition tree default sourceName = .ok edition := by
  unfold minimumEdition
  rw [needed]

/-- A tree without features has the default edition. -/
theorem minimumEdition_default {tree : Node} (bare : (Finder.find tree).edition? = none)
    (edition : Edition) (sourceName : String) :
    minimumEdition tree (some edition) sourceName = .ok edition := by
  unfold minimumEdition
  rw [bare]

/-- A tree without features has no minimum edition if there is no default. -/
theorem minimumEdition_none {tree : Node} (bare : (Finder.find tree).edition? = none)
    (sourceName : String) : minimumEdition tree none sourceName = .error ⟨sourceName⟩ := by
  unfold minimumEdition
  rw [bare]

/-- What the entry points have in common when the features of a tree need an edition. -/
structure Settled (parser : Parser) (source : Source) (sourceName : String) (analysis : Analysis)
    (edition : Edition) : Prop where
  /-- The edition of the analysis. -/
  ofAnalysis : analysis.minimumEdition? = some edition
  /-- The edition of the source, with any default. -/
  ofSource : ∀ default, sourceMinimum parser source sourceName default = .ok edition
  /-- The edition of the tree, with any default and any name. -/
  ofTree : ∀ default name, minimumEdition (parser source.toBytes) default name = .ok edition
  /-- The edition of the latest feature and the latest of the editions, in whatever order the
  features are listed. -/
  ofListing : ∀ listing, (∀ feature, feature ∈ listing ↔ feature ∈ analysis.features) →
    (Feature.latest? listing).map Feature.edition = some edition ∧
      Edition.latest? (listing.map Feature.edition) = some edition
  /-- Some feature is of the edition. -/
  attained : ∃ feature ∈ analysis.features, feature.edition = edition
  /-- No feature is of a later one. -/
  bound : ∀ feature ∈ analysis.features, feature.edition ≤ edition

/-- What the entry points answer when a tree has no features. -/
structure Bare (parser : Parser) (source : Source) (sourceName : String) (analysis : Analysis) :
    Prop where
  /-- The analysis has no edition. -/
  ofAnalysis : analysis.minimumEdition? = none
  /-- The source has the default edition. -/
  sourceDefault : ∀ edition, sourceMinimum parser source sourceName (some edition) = .ok edition
  /-- The tree has the default edition, under any name. -/
  treeDefault : ∀ edition name,
    minimumEdition (parser source.toBytes) (some edition) name = .ok edition
  /-- The source without a default fails under its name. -/
  sourceFails :
    sourceMinimum parser source sourceName none = .error (.nothingDetected ⟨sourceName⟩)
  /-- The tree without a default fails under the name that is given. -/
  treeFails : ∀ name, minimumEdition (parser source.toBytes) none name = .error ⟨name⟩

/-- The analysis of a source without problems settles the edition that its features need. -/
theorem settled_of_sound (sound : (Parsed.read parser source sourceName).diagnostics = [])
    {edition : Edition} (needed : (Finder.find (parser source.toBytes)).edition? = some edition) :
    Settled parser source sourceName (ofParsed (Parsed.read parser source sourceName)) edition := by
  obtain ⟨attained, bound⟩ := (FeatureSet.edition?_eq_some_iff _ edition).mp needed
  refine ⟨needed, ?_, ?_, ?_, attained, bound⟩
  · intro default
    rw [sourceMinimum_of_sound sound, minimumEdition_of_features needed]
    rfl
  · intro default name
    exact minimumEdition_of_features needed default name
  · intro listing members
    rw [← Feature.edition_latest?, FeatureSet.edition_latest?_of_listing members]
    exact ⟨needed, needed⟩

/-- The analysis of a source without problems and without features leaves only the default. -/
theorem bare_of_sound (sound : (Parsed.read parser source sourceName).diagnostics = [])
    (bare : (Finder.find (parser source.toBytes)).edition? = none) :
    Bare parser source sourceName (ofParsed (Parsed.read parser source sourceName)) := by
  refine ⟨bare, ?_, ?_, ?_, ?_⟩
  · intro edition
    rw [sourceMinimum_of_sound sound, minimumEdition_default bare]
    rfl
  · intro edition name
    exact minimumEdition_default bare edition name
  · rw [sourceMinimum_of_sound sound, minimumEdition_none bare]
    rfl
  · intro name
    exact minimumEdition_none bare name

/-- The entry points agree on every source. Either all of them refuse it with one rejection, or none
refuses it and its features are those of the strict analysis. If there are features, there is one
edition that all entry points give; it is the edition of some feature and no feature's edition is
later. If there are none, the analysis has no edition and the others have the default or fail under
the name of the source. A text and its bytes in UTF-8 have the same answers. -/
theorem entryPoints_agree (parser : Parser) (source : Source) (sourceName : String) :
    ((∃ rejection, run parser source sourceName false = .error rejection ∧
          sourceFeatures parser source sourceName = .error rejection ∧
          ∀ default, sourceMinimum parser source sourceName default =
            .error (.rejected rejection)) ∨
        ∃ analysis, run parser source sourceName false = .ok analysis ∧
          sourceFeatures parser source sourceName = .ok analysis.features ∧
          ((analysis.features ≠ ∅ ∧ ∃ edition, Settled parser source sourceName analysis edition) ∨
            (analysis.features = ∅ ∧ Bare parser source sourceName analysis))) ∧
      ∀ text, source = .text text →
        run parser source sourceName = run parser (.bytes text.toUTF8) sourceName ∧
          sourceFeatures parser source sourceName =
            sourceFeatures parser (.bytes text.toUTF8) sourceName ∧
          sourceMinimum parser source sourceName =
            sourceMinimum parser (.bytes text.toUTF8) sourceName := by
  constructor
  · cases problems : (Parsed.read parser source sourceName).diagnostics with
    | cons first rest =>
      refine Or.inl ⟨_, run_strict problems, sourceFeatures_strict problems, ?_⟩
      intro default
      exact sourceMinimum_strict problems default
    | nil =>
      refine Or.inr ⟨_, run_of_sound problems false, sourceFeatures_of_sound problems, ?_⟩
      cases needed : (Finder.find (parser source.toBytes)).edition? with
      | some edition =>
        refine Or.inl ⟨?_, edition, settled_of_sound problems needed⟩
        intro bare
        have none := (FeatureSet.edition?_eq_none_iff (Finder.find (parser source.toBytes))).mpr bare
        rw [none] at needed
        cases needed
      | none =>
        exact Or.inr ⟨(FeatureSet.edition?_eq_none_iff _).mp needed, bare_of_sound problems needed⟩
  · rintro text rfl
    exact ⟨rfl, rfl, rfl⟩

end EcmaEdition.Analysis
