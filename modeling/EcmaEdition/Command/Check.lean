import EcmaEdition.Command.FileSystem
import EcmaEdition.Command.Help
import EcmaEdition.Report.Render

/-!
# The command

One run of the program: it reads the command line, looks at one file, and says what it found on
standard output and what went wrong on standard error. The file system and the parser are
parameters. A look at the file system that fails ends the run where it stands.
-/

set_option autoImplicit false

namespace EcmaEdition.Command

/-- A line on standard error. -/
inductive Record where
  /-- A line for those who follow the run, with the part of the program that wrote it. -/
  | debug (origin message : String)
  /-- A line for everybody. -/
  | notice (message : String)
  deriving DecidableEq, Repr

/-- The lines of standard error. The debugging ones appear on request. -/
def Record.render (verbose : Bool) : List Record → String
  | [] => ""
  | .debug origin message :: rest =>
    if verbose then "DEBUG " ++ origin ++ ": " ++ message ++ "\n" ++ Record.render verbose rest
    else Record.render verbose rest
  | .notice message :: rest => message ++ "\n" ++ Record.render verbose rest

/-- How a run ended. -/
inductive Exit where
  | ok | error | targetExceeded | usage
  /-- A look at the file system failed, which no part of the program deals with. -/
  | crashed (failure : Failure)
  deriving DecidableEq, Repr

/-- The exit code. A target that is exceeded and a usage error share a number, and so do an error
and a crash. -/
def Exit.code : Exit → Nat
  | .ok => 0
  | .error => 1
  | .crashed _ => 1
  | .targetExceeded => 2
  | .usage => 2

/-- The end of a run of `check`, what it printed, and its lines for standard error in order. -/
structure Outcome where
  exit : Exit
  stdout : String
  records : List Record
  deriving DecidableEq, Repr

/-- The line that begins the record of a run. -/
def startRecord : Record :=
  .debug "cli" "running check"

/-- The line about the problems of a source, if it has any. -/
def problemRecords (parsed : Parsed) : List Record :=
  if parsed.diagnostics.isEmpty then []
  else
    [.debug "parser.js_parser"
      (parsed.sourceName ++ ": " ++ toString parsed.diagnostics.length ++ " syntax problem(s)")]

/-- The line about the features of a source. -/
def featureRecord (analysis : Analysis) : Record :=
  .debug "frontend.pipeline"
    (analysis.parsed.sourceName ++ ": detected " ++ toString analysis.features.size ++
      " feature(s)")

/-- The report in the format that was asked for. -/
def report (format : Format) (analysis : Analysis) : String :=
  match format with
  | .text => Report.text analysis
  | .json => Report.json analysis

/-- The edition that an analysis needs, if it is later than the target. -/
def exceeded? (target : Option Edition) (analysis : Analysis) : Option (Edition × Edition) :=
  match target, analysis.minimumEdition? with
  | some target, some needed => if target < needed then some (needed, target) else none
  | _, _ => none

/-- The end of a run that could look at its file. -/
def conclude (options : Options) (path : String) (analysis : Analysis) (before : List Record) :
    Outcome :=
  let records := before ++ featureRecord analysis :: (Report.warnings analysis).map .notice
  let stdout := report options.format analysis
  match exceeded? options.target analysis with
  | none => ⟨.ok, stdout, records⟩
  | some (needed, target) =>
    ⟨.targetExceeded, stdout, records ++ [.notice ("ERROR " ++ path ++ ": requires " ++
      needed.label ++ ", target is " ++ target.label)]⟩

/-- The end of a run that failed: the reason is the last line, and nothing is printed. -/
def fail (before : List Record) (reason : String) : Outcome :=
  ⟨.error, "", before ++ [.notice ("ERROR: " ++ reason)]⟩

/-- The end of a run whose look at the file system failed. It says nothing about that itself. -/
def crash (before : List Record) (failure : Failure) : Outcome :=
  ⟨.crashed failure, "", before⟩

/-- Checks what stands at the path that the input leads to. -/
def checkEntry (parser : Parser) (options : Options) (path : String) : Entry → Outcome
  | .missing => fail [startRecord] ("Input file not found: " ++ path)
  | .unreadable error => fail [startRecord] ("Failed to read " ++ path ++ ": " ++ error.message)
  | .file content =>
    let parsed := Parsed.read parser (.bytes content) path
    let before := startRecord :: problemRecords parsed
    match parsed.accept options.tolerant with
    | .error rejection => fail before ("Parsing failed: " ++ rejection.message)
    | .ok parsed => conclude options path (Analysis.ofParsed parsed) before

/-- Checks the file that the options name. -/
def check (parser : Parser) (files : FileSystem) (directory : String) (options : Options) :
    Outcome :=
  match files.look directory options.input with
  | .error failure => crash [startRecord] failure
  | .ok (path, entry) => checkEntry parser options path entry

/-- What a run of the program leaves behind: how it ended, and what it wrote itself. The report of a
crash, which comes behind that on standard error, is not written by the program. -/
structure Transcript where
  exit : Exit
  stdout : String
  stderr : String
  deriving DecidableEq, Repr

/-- Runs the program on a command line. Without a command it prints its help and fails. -/
def run (parser : Parser) (files : FileSystem) (directory : String) (words : List String) :
    Transcript :=
  match parse words with
  | .error (.help level) => ⟨.ok, level.help, ""⟩
  | .error (.failed level error) => ⟨.usage, "", level.complaint error⟩
  | .ok (.nothing _) => ⟨.error, Level.help .program, ""⟩
  | .ok (.check options) =>
    let outcome := check parser files directory options
    ⟨outcome.exit, outcome.stdout, Record.render options.verbose outcome.records⟩

end EcmaEdition.Command
