import EcmaEdition.Detection.Finder
import EcmaEdition.Tree.Problem

/-!
# Analysis of a program

From source text to features: the source is parsed, its problems are collected, and the features of
the tree are found. A strict analysis refuses a source with problems and names the first of them; a
tolerant one goes on with the tree as it is. The parser is a parameter: any function from bytes to a
tree will do.
-/

set_option autoImplicit false

namespace EcmaEdition

/-- The text of a program, or its bytes. -/
inductive Source where
  | text (content : String)
  | bytes (content : ByteArray)

/-- The bytes of a source; a text is encoded in UTF-8. -/
def Source.toBytes : Source → ByteArray
  | .text content => content.toUTF8
  | .bytes content => content

/-- What reads source bytes into a syntax tree. -/
abbrev Parser := ByteArray → Node

/-- The name of a source that has no name. -/
def defaultName : String := "<input>"

/-- A source was refused: what is wrong with it and where. -/
structure Rejection where
  description : String
  sourceName : String
  line : Option Int
  column : Option Int
  deriving DecidableEq, Repr

/-- The wording of a rejection. The place is given only if line and column are both known. -/
def Rejection.message (rejection : Rejection) : String :=
  let place :=
    match rejection.line, rejection.column with
    | some line, some column => " (line " ++ toString line ++ ", column " ++ toString column ++ ")"
    | _, _ => ""
  rejection.sourceName ++ ": " ++ rejection.description ++ place

/-- No features were found in a source whose minimum edition was asked for. -/
structure NothingDetected where
  sourceName : String
  deriving DecidableEq, Repr

/-- The wording of the failure. -/
def NothingDetected.message (failure : NothingDetected) : String :=
  failure.sourceName ++ ": no edition-specific features detected"

/-- Why a minimum edition could not be given. -/
inductive Failure where
  | rejected (rejection : Rejection)
  | nothingDetected (failure : NothingDetected)
  deriving DecidableEq, Repr

/-- A source that was parsed: its tree, its problems and its name. -/
structure Parsed where
  tree : Option Node
  diagnostics : List Diagnostic
  sourceName : String

/-- Parses a source. Problems are collected, never raised. -/
def Parsed.read (parser : Parser) (source : Source) (sourceName : String) : Parsed :=
  let tree := parser source.toBytes
  { tree := some tree, diagnostics := Problem.diagnostics tree, sourceName }

/-- The rejection that a diagnostic causes. -/
def Parsed.rejection (parsed : Parsed) (problem : Diagnostic) : Rejection where
  description := problem.description
  sourceName := parsed.sourceName
  line := problem.line
  column := problem.column

/-- A parsed source passes if it has no problems or problems are tolerated; otherwise the first
problem is the reason for its rejection. -/
def Parsed.accept (parsed : Parsed) (tolerant : Bool) : Except Rejection Parsed :=
  match parsed.diagnostics with
  | [] => .ok parsed
  | problem :: _ => if tolerant then .ok parsed else .error (parsed.rejection problem)

/-- A parsed source together with its features. -/
structure Analysis where
  parsed : Parsed
  features : FeatureSet

namespace Analysis

/-- The latest edition among those of the features. -/
def minimumEdition? (analysis : Analysis) : Option Edition :=
  analysis.features.edition?

/-- The features of a parsed source; without a tree there are none. -/
def ofParsed (parsed : Parsed) : Analysis where
  parsed
  features :=
    match parsed.tree with
    | some tree => Finder.find tree
    | none => ∅

/-- The minimum edition of a tree. A tree without features has the default edition, if one is
given. -/
def minimumEdition (tree : Node) (default : Option Edition) (sourceName : String) :
    Except NothingDetected Edition :=
  match (Finder.find tree).edition? with
  | some edition => .ok edition
  | none =>
    match default with
    | some edition => .ok edition
    | none => .error ⟨sourceName⟩

/-- The analysis of a source. -/
def run (parser : Parser) (source : Source) (sourceName : String) (tolerant : Bool) :
    Except Rejection Analysis :=
  ((Parsed.read parser source sourceName).accept tolerant).map ofParsed

/-- The features of a source without problems. -/
def sourceFeatures (parser : Parser) (source : Source) (sourceName : String) :
    Except Rejection FeatureSet :=
  match (Parsed.read parser source sourceName).accept false with
  | .ok parsed => .ok (ofParsed parsed).features
  | .error rejection => .error rejection

/-- The minimum edition of a source without problems. -/
def sourceMinimum (parser : Parser) (source : Source) (sourceName : String)
    (default : Option Edition) : Except Failure Edition :=
  match (Parsed.read parser source sourceName).accept false with
  | .error rejection => .error (.rejected rejection)
  | .ok _ =>
    match minimumEdition (parser source.toBytes) default sourceName with
    | .ok edition => .ok edition
    | .error failure => .error (.nothingDetected failure)

end Analysis

end EcmaEdition
