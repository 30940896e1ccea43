import EcmaEdition.Analysis
import EcmaEdition.Report.Json

/-!
# Reports

The result of an analysis as text for a reader and as JSON for a program, and its diagnostics as
warnings.
-/

set_option autoImplicit false

namespace EcmaEdition.Report

/-- A feature comes before another when its edition does, or when the editions are the same and its
identifier comes first. -/
def precedes (a b : Feature) : Bool :=
  a.edition < b.edition || (a.edition == b.edition && a.name ≤ b.name)

/-- The features of a set in the order of the text report. -/
def ordered (features : FeatureSet) : List Feature :=
  features.toList.mergeSort precedes

/-- The width of the column of editions. -/
def editionWidth : Nat := 7

/-- A text filled up with spaces to a width. -/
def fill (width : Nat) (text : String) : String :=
  text ++ String.ofList (List.replicate (width - text.length) ' ')

/-- The line of one feature: its edition, filled up with spaces, and its title. -/
def featureLine (feature : Feature) : String :=
  "  " ++ fill editionWidth feature.edition.label ++ " " ++ feature.title

/-- The report for a reader. -/
def text (analysis : Analysis) : String :=
  match analysis.minimumEdition? with
  | none => "No edition-specific features detected.\n"
  | some edition =>
    "Features:\n" ++
      String.join ((ordered analysis.features).map fun feature => featureLine feature ++ "\n") ++
      "Minimum edition: " ++ edition.describe ++ "\n"

/-- The report for a program. -/
def document (analysis : Analysis) : Json :=
  .object [
    ("source", .string analysis.parsed.sourceName),
    ("features", .array (analysis.features.names.map .string)),
    ("minimum_edition",
      match analysis.minimumEdition? with
      | some edition => .string edition.label
      | none => .null)]

/-- The report for a program as text. -/
def json (analysis : Analysis) : String :=
  (document analysis).render ++ "\n"

/-- The place of a diagnostic after the name of the source. A column is shown only after a line. -/
def place (line column : Option Int) : String :=
  match line, column with
  | none, _ => ""
  | some line, none => ":" ++ toString line
  | some line, some column => ":" ++ toString line ++ ":" ++ toString column

/-- A diagnostic as a warning. -/
def warning (sourceName : String) (problem : Diagnostic) : String :=
  "WARNING " ++ sourceName ++ place problem.line problem.column ++ ": " ++ problem.description

/-- The warnings of an analysis in source order. -/
def warnings (analysis : Analysis) : List String :=
  analysis.parsed.diagnostics.map (warning analysis.parsed.sourceName)

end EcmaEdition.Report
