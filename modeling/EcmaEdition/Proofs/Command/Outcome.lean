import EcmaEdition.Proofs.Command.Check
import EcmaEdition.Proofs.Command.Words

/-!
# The ends of a run

A run of `check` whose look at the file system fails crashes: it ends with the exit code of a run
that is refused, but gives no reason of its own. Any other run ends in one of three ways. It is
refused when there is no file to read or when the file has problems that are not tolerated; then it
prints nothing and gives one reason. Otherwise it prints the report and a warning for each outermost
problem, and what remains is whether the features need an edition later than the target. So the
edition that a report shows is the least target with which the run passes.
-/

set_option autoImplicit false

namespace EcmaEdition.Command

/-- The warning about a problem node, as a line. -/
def warningLine (path : String) (node : Node) : String :=
  "WARNING " ++ path ++ ":" ++ toString (node.label.row + 1) ++ ":" ++ toString node.label.column ++
    ": " ++ (Problem.cause node).description ++ "\n"

/-- The warning about a problem is the line about its node. -/
theorem warning_diagnostic (path : String) (node : Node) :
    Report.warning path (Problem.diagnostic node) ++ "\n" = warningLine path node := by
  have warning : Report.warning path (Problem.diagnostic node) =
      "WARNING " ++ path ++
        (":" ++ toString (node.label.row + 1) ++ ":" ++ toString node.label.column) ++ ": " ++
          (Problem.cause node).description := rfl
  unfold warningLine
  simp only [warning, String.append_assoc]

/-- The warning lines of a tree: one for each problem that lies below no problem, in document
order. -/
def warningLines (path : String) (tree : Node) : String :=
  String.join ((Problem.reported tree).map fun site => warningLine path site.node)

/-- What a run of `check` leaves behind if it does not write the lines for those who follow it,
given what stands at the path of its file. -/
structure Ends (parser : Parser) (options : Options) (path : String) (entry : Entry)
    (transcript : Transcript) : Prop where
  /-- The run is refused if there is nothing to read, or problems that are not tolerated. -/
  refused_iff : transcript.exit.code = 1 ↔
    entry = .missing ∨ (∃ error, entry = .unreadable error) ∨
      ∃ content, entry = .file content ∧ options.tolerant = false ∧
        ∃ site ∈ (parser content).sites, site.node.kind = "ERROR" ∨ site.node.missing = true ∨
          ∃ rest, site.node.kind = "jsx_" ++ rest
  /-- The target is exceeded if there is one, and features, and the edition they need is later. -/
  exceeded_iff : transcript.exit.code = 2 ↔
    ∃ content analysis target needed, entry = .file content ∧
      Analysis.run parser (.bytes content) path options.tolerant = .ok analysis ∧
      options.target = some target ∧ analysis.features ≠ ∅ ∧
      analysis.minimumEdition? = some needed ∧ target < needed
  /-- In every other case the run passes. -/
  passed_iff : transcript.exit.code = 0 ↔
    transcript.exit.code ≠ 1 ∧ transcript.exit.code ≠ 2
  /-- A run that is refused ends with an error, prints nothing and gives its reason. -/
  refused : transcript.exit.code = 1 →
    transcript.exit = .error ∧ transcript.stdout = "" ∧
      ∃ reason, Refusal parser path options.tolerant entry reason ∧
        transcript.stderr = "ERROR: " ++ reason ++ "\n"
  /-- A run that is not refused prints the report and the warnings, and after them, if the target is
  exceeded, the line that says so. -/
  analysed : transcript.exit.code ≠ 1 →
    ∃ content analysis, entry = .file content ∧
      Analysis.run parser (.bytes content) path options.tolerant = .ok analysis ∧
      transcript.stdout = report options.format analysis ∧
      (transcript.exit.code = 0 → transcript.stderr = warningLines path (parser content)) ∧
      (transcript.exit.code = 2 →
        ∃ target needed, options.target = some target ∧ analysis.minimumEdition? = some needed ∧
          transcript.stderr = warningLines path (parser content) ++
            ("ERROR " ++ path ++ ": requires " ++ needed.label ++ ", target is " ++ target.label ++
              "\n"))

namespace Record

/-- Notices appear in any run, one line each. -/
theorem render_notices (verbose : Bool) (messages : List String) :
    render verbose (messages.map .notice) = String.join (messages.map (· ++ "\n")) := by
  induction messages with
  | nil => rfl
  | cons message rest ih => rw [List.map_cons, render, ih, List.map_cons, String.join_cons]

/-- What is said before features and reasons is only for those who follow the run. -/
theorem render_openingRecords (parser : Parser) (path : String) (entry : Entry) :
    render false (openingRecords parser path entry) = "" := by
  cases entry with
  | missing | unreadable => rfl
  | file content =>
    change render false (startRecord :: problemRecords _) = ""
    unfold startRecord problemRecords
    split <;> rfl

/-- The warnings of a source are about the nodes that are reported. -/
theorem render_analysisRecords (parser : Parser) (content : ByteArray) (path : String) :
    render false
        (analysisRecords (Analysis.ofParsed (Parsed.read parser (.bytes content) path))) =
      warningLines path (parser content) := by
  have diagnostics :
      (Analysis.ofParsed (Parsed.read parser (.bytes content) path)).parsed.diagnostics =
        (Problem.reported (parser content)).map fun site => Problem.diagnostic site.node := by
    change Problem.diagnostics (parser content) = _
    rw [Problem.diagnostics, Problem.outermost_eq, List.map_map]
    rfl
  rw [analysisRecords, featureRecord, render, if_neg Bool.false_ne_true, render_notices,
    Report.warnings, diagnostics, List.map_map, List.map_map]
  refine congrArg String.join (List.map_congr_left ?_)
  intro site _
  exact warning_diagnostic path site.node

end Record

section run

variable {parser : Parser} {files : FileSystem} {directory : String} {words : List String}
variable {options : Options} {path : String} {entry : Entry}

/-- A run whose look fails writes nothing. -/
theorem run_crashed (accepted : parse words = .ok (.check options))
    (quiet : options.verbose = false) {failure : Failure}
    (looked : files.look directory options.input = .error failure) :
    run parser files directory words = ⟨.crashed failure, "", ""⟩ := by
  rw [run_check parser files directory accepted, check_crashed looked, quiet]
  rfl

/-- A run that is refused prints its reason alone. -/
theorem run_refused (accepted : parse words = .ok (.check options))
    (quiet : options.verbose = false)
    (looked : files.look directory options.input = .ok (path, entry)) {reason : String}
    (refusal : Refusal parser path options.tolerant entry reason) :
    run parser files directory words = ⟨.error, "", "ERROR: " ++ reason ++ "\n"⟩ := by
  rw [run_check parser files directory accepted, check_refused looked refusal, quiet, render_fail,
    Record.render_openingRecords, String.empty_append]
  rfl

/-- A run with an analysis prints the report, the warnings, and perhaps a last line. -/
theorem run_analysed (accepted : parse words = .ok (.check options))
    (quiet : options.verbose = false) {content : ByteArray} {analysis : Analysis}
    (looked : files.look directory options.input = .ok (path, .file content))
    (analysed : Analysis.run parser (.bytes content) path options.tolerant = .ok analysis) :
    run parser files directory words =
      { exit := if (exceeded? options.target analysis).isSome then .targetExceeded else .ok
        stdout := report options.format analysis
        stderr := warningLines path (parser content) ++
          Record.render false (targetRecords options.target path analysis) } := by
  obtain ⟨-, rfl⟩ := accept_of_run analysed
  rw [run_check parser files directory accepted, check_analysed looked analysed, conclude_eq, quiet,
    Record.render_append, Record.render_append, Record.render_openingRecords,
    Record.render_analysisRecords, String.empty_append]

/-- A run that prints its reason alone ends as a refused one. -/
theorem ends_refused {reason : String}
    (refusal : Refusal parser path options.tolerant entry reason) :
    Ends parser options path entry ⟨.error, "", "ERROR: " ++ reason ++ "\n"⟩ where
  refused_iff := by
    simp only [← Problem.isProblem_iff]
    exact iff_of_true rfl ((exists_refusal_iff _ _ _ _).mp ⟨reason, refusal⟩)
  exceeded_iff := by
    refine iff_of_false (show 1 ≠ 2 by decide) ?_
    rintro ⟨content, analysis, -, -, found, analysed, -⟩
    exact refusal.not_analysed found analysed
  passed_iff := show 1 = 0 ↔ 1 ≠ 1 ∧ 1 ≠ 2 by decide
  refused := fun _ => ⟨rfl, rfl, reason, refusal, rfl⟩
  analysed := fun other => absurd rfl other

/-- A run that prints the report, the warnings and perhaps a last line ends by its target. -/
theorem ends_analysed {content : ByteArray} {analysis : Analysis}
    (analysed : Analysis.run parser (.bytes content) path options.tolerant = .ok analysis) :
    Ends parser options path (.file content)
      { exit := if (exceeded? options.target analysis).isSome then .targetExceeded else .ok
        stdout := report options.format analysis
        stderr := warningLines path (parser content) ++
          Record.render false (targetRecords options.target path analysis) } := by
  have noRefusal : ¬∃ reason, Refusal parser path options.tolerant (.file content) reason := by
    rintro ⟨reason, refusal⟩
    exact refusal.not_analysed rfl analysed
  rw [exists_refusal_iff] at noRefusal
  simp only [Problem.isProblem_iff] at noRefusal
  unfold targetRecords
  -- One comparison decides both about the exit and about the last line.
  cases exceeded : exceeded? options.target analysis with
  | none =>
    refine ⟨iff_of_false (show 0 ≠ 1 by decide) noRefusal, ?_, show 0 = 0 ↔ 0 ≠ 1 ∧ 0 ≠ 2 by decide,
      fun refused => absurd refused (show 0 ≠ 1 by decide), ?_⟩
    · refine iff_of_false (show 0 ≠ 2 by decide) ?_
      -- The file has one analysis, so no other can exceed the target.
      rintro ⟨other, otherAnalysis, target, needed, stands, otherAnalysed, given, -, minimum, late⟩
      cases stands
      rw [otherAnalysed, Except.ok.injEq] at analysed
      subst analysed
      rw [(exceeded?_eq_some_iff _ _ needed target).mpr ⟨given, minimum, late⟩] at exceeded
      cases exceeded
    · intro _
      refine ⟨content, analysis, rfl, analysed, rfl, ?_,
        fun late => absurd late (show 0 ≠ 2 by decide)⟩
      intro _
      exact String.append_empty
  | some pair =>
    obtain ⟨needed, target⟩ := pair
    obtain ⟨given, minimum, late⟩ := (exceeded?_eq_some_iff _ _ needed target).mp exceeded
    refine ⟨iff_of_false (show 2 ≠ 1 by decide) noRefusal, ?_, show 2 = 0 ↔ 2 ≠ 1 ∧ 2 ≠ 2 by decide,
      fun refused => absurd refused (show 2 ≠ 1 by decide), ?_⟩
    · exact iff_of_true rfl ⟨content, analysis, target, needed, rfl, analysed, given,
        features_ne_empty_of_minimumEdition? minimum, minimum, late⟩
    · intro _
      refine ⟨content, analysis, rfl, analysed, rfl,
        fun passed => absurd passed (show 2 ≠ 0 by decide), ?_⟩
      intro _
      refine ⟨target, needed, given, minimum, ?_⟩
      simp [Record.render]

/-- A run that comes to what stands at a path ends in one of the three ways. -/
theorem ends_run (accepted : parse words = .ok (.check options)) (quiet : options.verbose = false)
    (looked : files.look directory options.input = .ok (path, entry)) :
    Ends parser options path entry (run parser files directory words) := by
  obtain ⟨reason, refusal⟩ | ⟨content, analysis, rfl, analysed⟩ :=
    refused_or_analysed parser path options.tolerant entry
  · rw [run_refused accepted quiet looked refusal]
    exact ends_refused refusal
  · rw [run_analysed accepted quiet looked analysed]
    exact ends_analysed analysed

/-- A run that ends in one of the three ways does not crash. -/
theorem Ends.not_crashed {transcript : Transcript}
    (ends : Ends parser options path entry transcript) (failure : Failure) :
    transcript.exit ≠ .crashed failure := by
  intro crashed
  have code : transcript.exit.code = 1 := by rw [crashed, Exit.code]
  obtain ⟨error, -⟩ := ends.refused code
  rw [error] at crashed
  cases crashed

/-! ## The least target -/

/-- What the edition that the features of a file need is to a run that looks at the file. -/
structure LeastTarget (parser : Parser) (files : FileSystem) (directory : String)
    (words : List String) (options : Options) (analysis : Analysis) (needed : Edition) : Prop where
  /-- The report for a reader ends with it. -/
  text : ∃ above, report .text analysis =
    above ++ ("Minimum edition: " ++ needed.describe ++ "\n")
  /-- The report for a program has its label. -/
  json : report .json analysis =
    (Json.object [
      ("source", .string analysis.parsed.sourceName),
      ("features", .array (analysis.features.names.map .string)),
      ("minimum_edition", .string needed.label)]).render ++ "\n"
  /-- A command line that asks for the same with a target passes if the target is no earlier, and
  exceeds its target otherwise. -/
  asked : ∀ others edition, parse others = .ok (.check { options with target := some edition }) →
    (run parser files directory others).exit.code = if needed ≤ edition then 0 else 2
  /-- So does the command line with a target at its end. -/
  added : "--" ∉ words → ∀ text edition, Edition.parse text = .ok edition →
    (run parser files directory (words ++ ["--target", text])).exit.code =
      if needed ≤ edition then 0 else 2
  /-- The label of the edition is a target with which the run passes, and no target with which it
  passes is earlier. -/
  least : "--" ∉ words →
    (run parser files directory (words ++ ["--target", needed.label])).exit.code = 0 ∧
      ∀ text edition, Edition.parse text = .ok edition →
        (run parser files directory (words ++ ["--target", text])).exit.code = 0 →
          needed ≤ edition

/-- A run with a target passes exactly if the features of the file need no later edition. -/
theorem code_of_target {content : ByteArray} {analysis : Analysis}
    (looked : files.look directory options.input = .ok (path, .file content))
    (analysed : Analysis.run parser (.bytes content) path options.tolerant = .ok analysis)
    {needed : Edition} (minimum : analysis.minimumEdition? = some needed)
    (quiet : options.verbose = false) {others : List String} {edition : Edition}
    (accepted : parse others = .ok (.check { options with target := some edition })) :
    (run parser files directory others).exit.code = if needed ≤ edition then 0 else 2 := by
  rw [@run_analysed parser files directory others { options with target := some edition } path
    accepted quiet content analysis looked analysed]
  unfold exceeded?
  rw [minimum]
  by_cases late : edition < needed
  · simp only [if_pos late, if_neg (not_le.mpr late)]
    rfl
  · simp only [if_neg late, if_pos (not_lt.mp late)]
    rfl

/-- The minimum edition of an accepted file is the least target with which the run passes. -/
theorem leastTarget_of_minimum (accepted : parse words = .ok (.check options))
    (quiet : options.verbose = false) {content : ByteArray} {analysis : Analysis}
    (looked : files.look directory options.input = .ok (path, .file content))
    (analysed : Analysis.run parser (.bytes content) path options.tolerant = .ok analysis)
    {needed : Edition} (minimum : analysis.minimumEdition? = some needed) :
    LeastTarget parser files directory words options analysis needed := by
  have asked {others : List String} {edition : Edition} :
      parse others = .ok (.check { options with target := some edition }) →
        (run parser files directory others).exit.code = if needed ≤ edition then 0 else 2 :=
    code_of_target looked analysed minimum quiet
  have added : "--" ∉ words → ∀ text edition, Edition.parse text = .ok edition →
      (run parser files directory (words ++ ["--target", text])).exit.code =
        if needed ≤ edition then 0 else 2 := by
    intro noSeparator text edition named
    exact asked (parse_append_target accepted noSeparator named)
  refine ⟨?_, ?_, fun _ _ => asked, added, ?_⟩
  · refine ⟨"Features:\n" ++ String.join ((Report.ordered analysis.features).map fun feature =>
      Report.featureLine feature ++ "\n"), ?_⟩
    rw [report, Report.text, minimum]
    simp only [String.append_assoc]
  · rw [report, Report.json, Report.document, minimum]
  · intro noSeparator
    refine ⟨?_, ?_⟩
    · rw [added noSeparator _ _ (Edition.parse_label needed), if_pos le_rfl]
    · intro text edition named passed
      rw [added noSeparator text edition named] at passed
      by_contra earlier
      rw [if_neg earlier] at passed
      cases passed

/-- A run of `check` that does not write the lines for those who follow it crashes exactly if its
look at the file system fails. Then it writes nothing: its exit code is that of an error, and there
is no other way to that code without a reason. Any other run comes to what stands at a path and ends
in exactly one of three ways: it is refused, its target is exceeded, or it passes. If the file is
analysed and has features, the edition that the report shows is the least target with which the run
passes. -/
theorem run_exact (parser : Parser) (files : FileSystem) (directory : String) (words : List String)
    (options : Options) (accepted : parse words = .ok (.check options))
    (quiet : options.verbose = false) :
    (∀ failure, (run parser files directory words).exit = .crashed failure ↔
      Escapes files directory options.input failure) ∧
    (∀ failure, Escapes files directory options.input failure →
      run parser files directory words = ⟨.crashed failure, "", ""⟩) ∧
    (((run parser files directory words).exit.code = 1 →
        ∃ reason, (run parser files directory words).stderr = "ERROR: " ++ reason ++ "\n") ↔
      ¬∃ failure, Escapes files directory options.input failure) ∧
    ((∃ failure, Escapes files directory options.input failure) ∨
      ∃ path entry, Stands files directory options.input path entry) ∧
    (∀ path entry, Stands files directory options.input path entry →
      Ends parser options path entry (run parser files directory words)) ∧
    ∀ path content analysis, Stands files directory options.input path (.file content) →
      Analysis.run parser (.bytes content) path options.tolerant = .ok analysis →
      analysis.features ≠ ∅ →
      ∃ needed, analysis.minimumEdition? = some needed ∧
        LeastTarget parser files directory words options analysis needed := by
  have crashes (failure : Failure) (escapes : Escapes files directory options.input failure) :
      run parser files directory words = ⟨.crashed failure, "", ""⟩ :=
    run_crashed accepted quiet escapes.look_eq
  have ends (path : String) (entry : Entry)
      (stands : Stands files directory options.input path entry) :
      Ends parser options path entry (run parser files directory words) :=
    ends_run accepted quiet stands.look_eq
  have either := escapes_or_stands files directory options.input
  refine ⟨?_, crashes, ⟨?_, ?_⟩, either, ends, ?_⟩
  · intro failure
    refine ⟨?_, fun escapes => by rw [crashes failure escapes]⟩
    intro crashed
    obtain ⟨other, escapes⟩ | ⟨path, entry, stands⟩ := either
    · rw [crashes other escapes, Exit.crashed.injEq] at crashed
      exact crashed ▸ escapes
    · exact absurd crashed ((ends path entry stands).not_crashed failure)
  · rintro reasoned ⟨failure, escapes⟩
    rw [crashes failure escapes] at reasoned
    obtain ⟨reason, same⟩ := reasoned rfl
    exact absurd same.symm (by simp)
  · intro noFailure refused
    obtain escapes | ⟨path, entry, stands⟩ := either
    · exact absurd escapes noFailure
    · obtain ⟨-, -, reason, -, same⟩ := (ends path entry stands).refused refused
      exact ⟨reason, same⟩
  · intro path content analysis stands analysed features
    cases minimum : analysis.minimumEdition? with
    | none => exact absurd ((FeatureSet.edition?_eq_none_iff _).mp minimum) features
    | some needed =>
      exact ⟨needed, rfl, leastTarget_of_minimum accepted quiet stands.look_eq analysed minimum⟩

end run

/-- A file with an optional chain passes without a target. With a target it passes from the eleventh
edition on, by whatever name that is given. -/
theorem run_exact_chainTree :
    parse ["check", "a.js"] = .ok (.check { input := "a.js" }) ∧
      (run (fun _ => chainTree) oneFile "/" ["check", "a.js"]).exit.code ≠ 1 ∧
      (run (fun _ => chainTree) oneFile "/" ["check", "a.js", "--target", "ES2020"]).exit.code = 0 ∧
      (run (fun _ => chainTree) oneFile "/" ["check", "a.js", "--target", "10"]).exit.code = 2 := by
  have accepted : parse ["check", "a.js"] = .ok (.check { input := "a.js" }) :=
    parse_input (by decide)
  have features : Finder.find chainTree = {Feature.optionalChaining} := by
    rw [Finder.find, Finder.visit_eq_walk]
    decide
  have sound : ¬∃ site ∈ chainTree.sites, site.node.kind = "ERROR" ∨ site.node.missing = true ∨
      ∃ rest, site.node.kind = "jsx_" ++ rest := by
    simp only [← Problem.isProblem_iff]
    decide
  obtain ⟨-, -, -, -, ends, least⟩ := run_exact (fun _ => chainTree) oneFile "/" ["check", "a.js"]
    { input := "a.js" } accepted rfl
  have stands : Stands oneFile "/" "a.js" "/a.js" (.file ⟨#[]⟩) := .file rfl rfl rfl
  have notRefused : (run (fun _ => chainTree) oneFile "/" ["check", "a.js"]).exit.code ≠ 1 := by
    rw [ne_eq, (ends _ _ stands).refused_iff]
    rintro (missing | ⟨error, unreadable⟩ | ⟨content, -, -, problem⟩)
    · cases missing
    · cases unreadable
    · exact sound problem
  obtain ⟨content, analysis, found, analysed, -⟩ := (ends _ _ stands).analysed notRefused
  cases found
  have ofTree : analysis.features = {Feature.optionalChaining} := by
    rw [(accept_of_run analysed).2]
    exact features
  have minimum : analysis.minimumEdition? = some .es11 := by
    rw [Analysis.minimumEdition?, ofTree]
    decide
  obtain ⟨needed, same, target⟩ := least _ _ analysis stands analysed (by rw [ofTree]; decide)
  obtain rfl : .es11 = needed := by rwa [minimum, Option.some.injEq] at same
  refine ⟨accepted, notRefused, ?_, ?_⟩
  · exact target.added (by decide) "ES2020" .es11 rfl
  · exact target.added (by decide) "10" .es10 rfl

/-! ## A crash -/

/-- A file system without files that takes no name of more than 255 characters. -/
def shortNames : FileSystem :=
  .linkless
    (fun place =>
      if (Path.parts place.toList).any (255 < ·.length) then
        some ⟨36, "File name too long", some place⟩
      else some (.missing place))
    (fun place => .error (.missing place))

/-- A name that is too long is a failure of the look. -/
theorem escapes_shortNames (directory : String) {name : List Char} (plain : '/' ∉ name)
    (valid : '\x00' ∉ name) (long : 255 < name.length) :
    Escapes shortNames directory (String.ofList ('/' :: name))
      (.system ⟨36, "File name too long", some (String.ofList ('/' :: name))⟩) := by
  have letters : (String.ofList ('/' :: name)).toList = '/' :: name := String.toList_ofList
  have other : 36 ≠ 2 ∧ 36 ≠ 9 ∧ 36 ≠ 20 ∧ 36 ≠ 40 := by decide
  refine @Escapes.withheld _ _ _ (String.ofList ('/' :: name)) _ ?_ ?_ other
  · have noNull : ('/' :: name).contains '\x00' = false := by
      simp [valid]
    have self := Path.withoutLinks_name directory plain (by omega)
    simp only [shortNames, FileSystem.linkless, letters, noNull, self]
    rfl
  · have split : Path.parts ('/' :: name) = [[], name] := by
      rw [Path.parts, ← List.nil_append ('/' :: name),
        List.splitOn_append_cons_self_of_not_mem List.not_mem_nil, List.splitOn_eq_singleton plain]
    have tooLong : (Path.parts ('/' :: name)).any (255 < ·.length) = true := by
      simp [split, long]
    simp only [shortNames, FileSystem.linkless, letters, if_pos tooLong]

/-- The path of a name of 300 letters in the root. -/
def longName : String :=
  String.ofList ('/' :: List.replicate 300 'a')

/-- With a name of 300 letters a run ends with the exit code of an error, and gives no reason. -/
theorem crashed_longName :
    parse ["check", longName] = .ok (.check { input := longName }) ∧
      (run (fun _ => chainTree) shortNames "/" ["check", longName]).exit.code = 1 ∧
      ¬∃ before after, (run (fun _ => chainTree) shortNames "/" ["check", longName]).stderr =
        before ++ "ERROR:" ++ after := by
  have spelled : longName.toList = '/' :: List.replicate 300 'a' := String.toList_ofList
  have bare : longName.toList.head? ≠ some '-' := by
    rw [spelled, List.head?_cons]
    decide
  have accepted : parse ["check", longName] = .ok (.check { input := longName }) :=
    parse_input bare
  have letters (c : Char) (other : c ≠ 'a') : c ∉ List.replicate 300 'a' := by
    intro member
    exact other (List.eq_of_mem_replicate member)
  have long : 255 < (List.replicate 300 'a').length := by
    rw [List.length_replicate]
    decide
  have escapes := escapes_shortNames "/" (letters '/' (by decide)) (letters '\x00' (by decide)) long
  have crashed : run (fun _ => chainTree) shortNames "/" ["check", longName] =
      ⟨.crashed (.system ⟨36, "File name too long", some longName⟩), "", ""⟩ :=
    run_crashed accepted rfl escapes.look_eq
  rw [crashed]
  refine ⟨accepted, rfl, ?_⟩
  rintro ⟨before, after, same⟩
  exact absurd same.symm (by simp)

end EcmaEdition.Command
