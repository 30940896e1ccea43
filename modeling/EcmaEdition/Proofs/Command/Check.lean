import EcmaEdition.Command.Check
import EcmaEdition.Proofs.Analysis.Modes
import EcmaEdition.Proofs.Command.Look
import EcmaEdition.Proofs.Feature.Latest

/-!
# One check

A check crashes if its look at the file system fails. Any other check is refused or it comes to an
analysis, and which of the two depends on what stands at its path and on whether problems are
tolerated. What it writes before that is settled does not depend on any option. The format only
turns the analysis into text, and the target only adds a last record and decides about the exit. So
the outcome can be put together from these parts, each with its own options.
-/

set_option autoImplicit false

namespace EcmaEdition.Command

/-! ## Lines of standard error -/

namespace Record

/-- A record as a line. -/
def line : Record → String
  | .debug origin message => "DEBUG " ++ origin ++ ": " ++ message ++ "\n"
  | .notice message => message ++ "\n"

/-- Whether a record appears. -/
def shown (verbose : Bool) : Record → Bool
  | .debug _ _ => verbose
  | .notice _ => true

/-- Standard error is the lines of the records that appear, in order. -/
theorem render_eq_join (verbose : Bool) (records : List Record) :
    render verbose records = String.join ((records.filter (shown verbose)).map line) := by
  induction records with
  | nil => rfl
  | cons record rest ih =>
    cases record with
    | notice message =>
      rw [render, ih, List.filter_cons_of_pos rfl, List.map_cons, String.join_cons]
      rfl
    | debug origin message =>
      cases verbose with
      | true =>
        rw [render, ih, if_pos rfl, List.filter_cons_of_pos rfl, List.map_cons, String.join_cons]
        rfl
      | false =>
        rw [render, ih, List.filter_cons_of_neg (by simp [shown])]
        rfl

/-- For those who follow the run all records appear. -/
theorem render_true (records : List Record) :
    render true records = String.join (records.map line) := by
  have all : records.filter (shown true) = records := by
    refine List.filter_eq_self.mpr ?_
    intro record _
    cases record <;> rfl
  rw [render_eq_join, all]

/-- The lines of some records come before the lines of the records behind them. -/
@[simp] theorem render_append (verbose : Bool) (first second : List Record) :
    render verbose (first ++ second) = render verbose first ++ render verbose second := by
  simp only [render_eq_join, List.filter_append, List.map_append, String.join_append]

end Record

/-! ## Accepted sources -/

/-- An analysis that has a result is that of the whole parsed source. -/
theorem accept_of_run {parser : Parser} {source : Source} {sourceName : String} {tolerant : Bool}
    {analysis : Analysis}
    (analysed : Analysis.run parser source sourceName tolerant = .ok analysis) :
    (Parsed.read parser source sourceName).accept tolerant =
        .ok (Parsed.read parser source sourceName) ∧
      analysis = Analysis.ofParsed (Parsed.read parser source sourceName) := by
  cases problems : (Parsed.read parser source sourceName).diagnostics with
  | nil =>
    rw [Analysis.run_of_sound problems, Except.ok.injEq] at analysed
    exact ⟨Parsed.accept_of_sound problems tolerant, analysed.symm⟩
  | cons first rest =>
    cases tolerant with
    | true =>
      rw [Analysis.run_tolerant, Except.ok.injEq] at analysed
      exact ⟨Parsed.accept_tolerant _, analysed.symm⟩
    | false =>
      rw [Analysis.run_strict problems] at analysed
      cases analysed

/-- A source is rejected when problems are not tolerated and its tree has one at any depth. -/
theorem exists_rejection_iff (parser : Parser) (source : Source) (sourceName : String)
    (tolerant : Bool) :
    (∃ rejection, Analysis.run parser source sourceName tolerant = .error rejection) ↔
      tolerant = false ∧
        ∃ site ∈ (parser source.toBytes).sites, Problem.isProblem site.node = true := by
  cases tolerant with
  | true => simp [Analysis.run_tolerant]
  | false =>
    rw [Analysis.run_strict_eq_error_iff, ← Problem.diagnostics_ne_nil_iff]
    simp only [true_and]
    rfl

/-! ## One check -/

/-- The reason for which a run is refused, given what stands at the path. -/
inductive Refusal (parser : Parser) (path : String) (tolerant : Bool) : Entry → String → Prop
  | missing : Refusal parser path tolerant .missing ("Input file not found: " ++ path)
  | unreadable (error : SystemError) :
    Refusal parser path tolerant (.unreadable error)
      ("Failed to read " ++ path ++ ": " ++ error.message)
  | rejected {content : ByteArray} {rejection : Rejection}
    (failed : Analysis.run parser (.bytes content) path tolerant = .error rejection) :
    Refusal parser path tolerant (.file content) ("Parsing failed: " ++ rejection.message)

/-- The records of a check before anything is said about features or reasons. -/
def openingRecords (parser : Parser) (path : String) : Entry → List Record
  | .file content => startRecord :: problemRecords (Parsed.read parser (.bytes content) path)
  | _ => [startRecord]

/-- The lines of a check that is refused end with the reason. -/
theorem render_fail (verbose : Bool) (before : List Record) (reason : String) :
    Record.render verbose (fail before reason).records =
      Record.render verbose before ++ ("ERROR: " ++ reason ++ "\n") := by
  rw [fail, Record.render_append, Record.render, Record.render, String.append_empty]

/-- The records about the features of a source and about its problems. -/
def analysisRecords (analysis : Analysis) : List Record :=
  featureRecord analysis :: (Report.warnings analysis).map .notice

/-- The record of a target that is exceeded. -/
def targetRecords (target : Option Edition) (path : String) (analysis : Analysis) : List Record :=
  match exceeded? target analysis with
  | none => []
  | some (needed, target) =>
    [.notice ("ERROR " ++ path ++ ": requires " ++ needed.label ++ ", target is " ++ target.label)]

/-- The end of a run that could look at its file: only the record of a target that is exceeded comes
after the warnings, and only it decides about the exit. -/
theorem conclude_eq (options : Options) (path : String) (analysis : Analysis)
    (before : List Record) :
    conclude options path analysis before =
      { exit := if (exceeded? options.target analysis).isSome then .targetExceeded else .ok
        stdout := report options.format analysis
        records :=
          before ++ analysisRecords analysis ++ targetRecords options.target path analysis } := by
  unfold conclude targetRecords
  cases exceeded? options.target analysis with
  | none =>
    rw [List.append_nil]
    rfl
  | some pair => rfl

section check

variable {parser : Parser} {files : FileSystem} {directory : String} {options : Options}
variable {path : String} {entry : Entry}

/-- A check whose look fails says no more than that it began. -/
theorem check_crashed {failure : Failure}
    (looked : files.look directory options.input = .error failure) :
    check parser files directory options = crash [startRecord] failure := by
  unfold check
  rw [looked]

/-- A check that is refused ends with the reason. -/
theorem check_refused (looked : files.look directory options.input = .ok (path, entry))
    {reason : String} (refusal : Refusal parser path options.tolerant entry reason) :
    check parser files directory options = fail (openingRecords parser path entry) reason := by
  unfold check
  simp only [looked]
  cases refusal with
  | missing | unreadable => rfl
  | rejected failed =>
    rw [Analysis.run_eq_error_iff] at failed
    simp only [checkEntry, failed]
    rfl

/-- A check of a file whose analysis has a result is reported. -/
theorem check_analysed {content : ByteArray} {analysis : Analysis}
    (looked : files.look directory options.input = .ok (path, .file content))
    (analysed : Analysis.run parser (.bytes content) path options.tolerant = .ok analysis) :
    check parser files directory options =
      conclude options path analysis (openingRecords parser path (.file content)) := by
  obtain ⟨passes, rfl⟩ := accept_of_run analysed
  unfold check
  simp only [looked, checkEntry, passes]
  rfl

/-- A refusal leaves no analysis to report. -/
theorem Refusal.not_analysed {tolerant : Bool} {reason : String}
    (refusal : Refusal parser path tolerant entry reason) {content : ByteArray}
    {analysis : Analysis} (stands : entry = .file content) :
    Analysis.run parser (.bytes content) path tolerant ≠ .ok analysis := by
  intro analysed
  cases refusal with
  | missing | unreadable => cases stands
  | rejected failed =>
    cases stands
    rw [failed] at analysed
    cases analysed

/-- What stands at a path is refused or analysed. -/
theorem refused_or_analysed (parser : Parser) (path : String) (tolerant : Bool) (entry : Entry) :
    (∃ reason, Refusal parser path tolerant entry reason) ∨
      ∃ content analysis, entry = .file content ∧
        Analysis.run parser (.bytes content) path tolerant = .ok analysis := by
  cases entry with
  | missing => exact Or.inl ⟨_, .missing⟩
  | unreadable error => exact Or.inl ⟨_, .unreadable error⟩
  | file content =>
    cases result : Analysis.run parser (.bytes content) path tolerant with
    | error rejection => exact Or.inl ⟨_, .rejected result⟩
    | ok analysis => exact Or.inr ⟨content, analysis, rfl, result⟩

/-- A check crashes, is refused or comes to an analysis. -/
theorem crashed_or_refused_or_analysed (parser : Parser) (files : FileSystem)
    (directory input : String) (tolerant : Bool) :
    (∃ failure, files.look directory input = .error failure) ∨
      (∃ path entry reason, files.look directory input = .ok (path, entry) ∧
        Refusal parser path tolerant entry reason) ∨
      ∃ path content analysis, files.look directory input = .ok (path, .file content) ∧
        Analysis.run parser (.bytes content) path tolerant = .ok analysis := by
  cases looked : files.look directory input with
  | error failure => exact Or.inl ⟨failure, rfl⟩
  | ok located =>
    obtain ⟨path, entry⟩ := located
    obtain ⟨reason, refusal⟩ | ⟨content, analysis, rfl, analysed⟩ :=
      refused_or_analysed parser path tolerant entry
    · exact Or.inr (Or.inl ⟨path, entry, reason, rfl, refusal⟩)
    · exact Or.inr (Or.inr ⟨path, content, analysis, rfl, analysed⟩)

/-- There is a reason to refuse what stands at a path if nothing can be read there, or if a problem
is not tolerated. -/
theorem exists_refusal_iff (parser : Parser) (path : String) (tolerant : Bool) (entry : Entry) :
    (∃ reason, Refusal parser path tolerant entry reason) ↔
      entry = .missing ∨ (∃ error, entry = .unreadable error) ∨
        ∃ content, entry = .file content ∧ tolerant = false ∧
          ∃ site ∈ (parser content).sites, Problem.isProblem site.node = true := by
  constructor
  · rintro ⟨reason, refusal⟩
    cases refusal with
    | missing => exact Or.inl rfl
    | unreadable error => exact Or.inr (Or.inl ⟨error, rfl⟩)
    | @rejected content rejection failed =>
      exact Or.inr (Or.inr ⟨content, rfl,
        (exists_rejection_iff parser (.bytes content) path tolerant).mp ⟨rejection, failed⟩⟩)
  · rintro (rfl | ⟨error, rfl⟩ | ⟨content, rfl, strict, problem⟩)
    · exact ⟨_, .missing⟩
    · exact ⟨_, .unreadable error⟩
    · obtain ⟨rejection, failed⟩ :=
        (exists_rejection_iff parser (.bytes content) path tolerant).mpr ⟨strict, problem⟩
      exact ⟨_, .rejected failed⟩

end check

/-! ## Targets -/

/-- A target is exceeded when there is one, there is a minimum edition, and the edition is the later
of the two. -/
theorem exceeded?_eq_some_iff (given : Option Edition) (analysis : Analysis)
    (needed target : Edition) :
    exceeded? given analysis = some (needed, target) ↔
      given = some target ∧ analysis.minimumEdition? = some needed ∧ target < needed := by
  unfold exceeded?
  cases given with
  | none => simp
  | some given =>
    cases analysis.minimumEdition? with
    | none => simp
    | some edition =>
      by_cases late : given < edition
      · simp only [late, if_true, Option.some.injEq, Prod.mk.injEq]
        constructor
        · rintro ⟨rfl, rfl⟩
          exact ⟨rfl, rfl, late⟩
        · rintro ⟨rfl, rfl, -⟩
          exact ⟨rfl, rfl⟩
      · simp only [late, if_false, Option.some.injEq, reduceCtorEq, false_iff, not_and]
        rintro rfl rfl
        exact late

/-- A target is exceeded if there is one and the minimum edition is later. -/
theorem isSome_exceeded?_iff (given : Option Edition) (analysis : Analysis) :
    (exceeded? given analysis).isSome ↔
      ∃ target needed, given = some target ∧ analysis.minimumEdition? = some needed ∧
        target < needed := by
  rw [Option.isSome_iff_exists]
  constructor
  · rintro ⟨⟨needed, target⟩, exceeded⟩
    exact ⟨target, needed, (exceeded?_eq_some_iff given analysis needed target).mp exceeded⟩
  · rintro ⟨target, needed, exceeded⟩
    exact ⟨_, (exceeded?_eq_some_iff given analysis needed target).mpr exceeded⟩

/-- Without features there is no minimum edition. -/
theorem features_ne_empty_of_minimumEdition? {analysis : Analysis} {needed : Edition}
    (minimum : analysis.minimumEdition? = some needed) : analysis.features ≠ ∅ := by
  intro empty
  have none : analysis.minimumEdition? = none :=
    (FeatureSet.edition?_eq_none_iff analysis.features).mpr empty
  rw [none] at minimum
  cases minimum

/-- A run with an accepted command line for `check` is that check, with its records written out. -/
theorem run_check (parser : Parser) (files : FileSystem) (directory : String) {words : List String}
    {options : Options} (accepted : parse words = .ok (.check options)) :
    run parser files directory words =
      { exit := (check parser files directory options).exit
        stdout := (check parser files directory options).stdout
        stderr :=
          Record.render options.verbose (check parser files directory options).records } := by
  unfold run
  rw [accepted]

/-- A program with an optional chain. -/
def chainTree : Node :=
  ⟨{ kind := "program" }, [⟨{ kind := "optional_chain" }, []⟩]⟩

/-- A file system with one file. -/
def oneFile : FileSystem :=
  .linkless (fun place => if place = "/a.js" then none else some (.missing place))
    (fun place => if place = "/a.js" then .ok ⟨#[]⟩ else .error (.missing place))

example : oneFile.look "/" "a.js" = .ok ("/a.js", .file ⟨#[]⟩) := rfl

end EcmaEdition.Command
