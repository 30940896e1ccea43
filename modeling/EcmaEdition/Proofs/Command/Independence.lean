import EcmaEdition.Proofs.Command.Check
import EcmaEdition.Proofs.Command.Words

/-!
# Options that do not interfere

Each option of `check` has an effect of its own and no other. The format changes what is printed,
the target changes the exit and the last line of standard error, tolerance changes only what happens
to a file with problems, and the flag for those who follow the run adds their lines. Each of these
is a statement about two runs whose options differ in one field.
-/

set_option autoImplicit false

namespace EcmaEdition.Command

/-! ## What two runs may differ in -/

/-- The last line of a run that is not refused, if its target is exceeded, and nothing otherwise. -/
inductive LastLine (path : String) (target : Option Edition) : Exit → String → Prop
  | exceeded (needed edition : Edition) (given : target = some edition) :
    LastLine path target .targetExceeded ("ERROR " ++ path ++ ": requires " ++ needed.label ++
      ", target is " ++ edition.label ++ "\n")
  | passed : LastLine path target .ok ""

/-- How two runs compare whose options differ in the target alone, given what stands where their
path leads. -/
structure TargetApart (stands : String → Entry → Prop) (target otherTarget : Option Edition)
    (transcript other : Transcript) : Prop where
  /-- They print the same. -/
  stdout : transcript.stdout = other.stdout
  /-- If one of them is refused or crashes, so does the other, in the same words. -/
  refused : transcript.exit.code = 1 ∨ other.exit.code = 1 → transcript = other
  /-- If none does, they look at one file and write the same lines, and each perhaps its last
  one. -/
  stderr : transcript.exit.code ≠ 1 → other.exit.code ≠ 1 →
    ∃ path content lines last otherLast, stands path (.file content) ∧
      transcript.stderr = lines ++ last ∧ LastLine path target transcript.exit last ∧
        other.stderr = lines ++ otherLast ∧ LastLine path otherTarget other.exit otherLast
  /-- A run does not exceed a target if another run passes with an earlier one. -/
  later : ∀ edition otherEdition, target = some edition → otherTarget = some otherEdition →
    edition ≤ otherEdition → transcript.exit.code = 0 → other.exit.code ≠ 2
  /-- Without a target no target is exceeded. -/
  absent : otherTarget = none → other.exit.code ≠ 2

/-- How two runs compare of which only the first tolerates problems, given what stands where their
path leads. -/
inductive ToleranceApart (parser : Parser) (stands : String → Entry → Prop)
    (tolerant strict : Transcript) : Prop
  /-- They are the same. -/
  | same (equal : tolerant = strict)
  /-- The strict run is refused because the source is rejected, and only it. -/
  | rejected {path : String} {content : ByteArray} {rejection : Rejection}
    (found : stands path (.file content))
    (failed : Analysis.run parser (.bytes content) path false = .error rejection)
    (refused : strict.exit.code = 1) (nothing : strict.stdout = "")
    (reason : ∃ before, strict.stderr =
      before ++ ("ERROR: " ++ ("Parsing failed: " ++ rejection.message) ++ "\n"))
    (analysed : tolerant.exit.code ≠ 1)

/-- The line of a record begins with a word that tells what it is: the debugging ones, which a quiet
run leaves out, differ in it from all others. -/
def Record.Marked (record : Record) : Prop :=
  (Record.shown false record = false ∧ ∃ rest, record.line = "DEBUG " ++ rest) ∨
    (Record.shown false record = true ∧
      ∃ rest, record.line = "WARNING " ++ rest ∨ record.line = "ERROR" ++ rest)

/-- How two runs compare of which only the second writes the lines for those who follow it. -/
structure Louder (quiet loud : Transcript) : Prop where
  exit : loud.exit = quiet.exit
  stdout : loud.stdout = quiet.stdout
  /-- Both write the same records in the same order, but the quiet one leaves out the debugging
  ones. The others are warnings and errors. -/
  stderr : ∃ records : List Record,
    loud.stderr = String.join (records.map Record.line) ∧
      quiet.stderr = String.join ((records.filter (Record.shown false)).map Record.line) ∧
      ∀ record ∈ records, record.Marked

/-! ## One field at a time -/

variable {parser : Parser} {files : FileSystem} {directory : String} {options : Options}

/-- The format has no part in the exit and in the records. -/
theorem check_format (parser : Parser) (files : FileSystem) (directory : String)
    (options : Options) (format : Format) :
    (check parser files directory { options with format }).exit =
        (check parser files directory options).exit ∧
      (check parser files directory { options with format }).records =
        (check parser files directory options).records := by
  obtain ⟨failure, looked⟩ | ⟨path, entry, reason, looked, refusal⟩ |
    ⟨path, content, analysis, looked, analysed⟩ :=
    crashed_or_refused_or_analysed parser files directory options.input options.tolerant
  · rw [check_crashed looked, @check_crashed _ _ _ { options with format } _ looked]
    exact ⟨rfl, rfl⟩
  · rw [check_refused looked refusal,
      @check_refused _ _ _ { options with format } _ _ looked _ refusal]
    exact ⟨rfl, rfl⟩
  · rw [check_analysed looked analysed,
      @check_analysed _ _ _ { options with format } _ _ _ looked analysed, conclude_eq,
      conclude_eq]
    exact ⟨rfl, rfl⟩

/-- A check does not look at the flag for those who follow the run. -/
theorem check_verbose (parser : Parser) (files : FileSystem) (directory : String)
    (options : Options) (verbose : Bool) :
    check parser files directory { options with verbose } = check parser files directory options :=
  rfl

/-- The record of a target that is exceeded is the last line, if there is one. -/
theorem lastLine_targetRecords (verbose : Bool) (target : Option Edition) (path : String)
    (analysis : Analysis) :
    LastLine path target
      (if (exceeded? target analysis).isSome then .targetExceeded else .ok)
      (Record.render verbose (targetRecords target path analysis)) := by
  unfold targetRecords
  cases exceeded : exceeded? target analysis with
  | none => exact .passed
  | some pair =>
    obtain ⟨needed, edition⟩ := pair
    obtain ⟨given, -, -⟩ := (exceeded?_eq_some_iff target analysis needed edition).mp exceeded
    have line := @LastLine.exceeded path target needed edition given
    simpa [Record.render] using line

/-- A later target is not exceeded if an earlier one is not. -/
theorem isSome_exceeded?_of_le {edition otherEdition : Edition} (le : edition ≤ otherEdition)
    {analysis : Analysis} (exceeded : (exceeded? (some otherEdition) analysis).isSome) :
    (exceeded? (some edition) analysis).isSome := by
  rw [isSome_exceeded?_iff] at exceeded ⊢
  obtain ⟨target, needed, given, minimum, late⟩ := exceeded
  obtain rfl : otherEdition = target := by simpa using given
  exact ⟨edition, needed, rfl, minimum, lt_of_le_of_lt le late⟩

/-- A run that is not refused exceeds its target or passes. -/
theorem code_conclude (options : Options) (path : String) (analysis : Analysis)
    (before : List Record) :
    (conclude options path analysis before).exit.code =
      if (exceeded? options.target analysis).isSome then 2 else 0 := by
  rw [conclude_eq]
  cases (exceeded? options.target analysis).isSome <;> rfl

/-- Two runs with the same end, an error or a crash, do not differ by their targets. -/
theorem TargetApart.of_eq {stands : String → Entry → Prop} {target otherTarget : Option Edition}
    {transcript other : Transcript} (same : transcript = other)
    (failed : transcript.exit.code = 1) :
    TargetApart stands target otherTarget transcript other := by
  subst same
  exact {
    stdout := rfl
    refused := fun _ => rfl
    stderr := fun notFailed => absurd failed notFailed
    later := by
      intro _ _ _ _ _ passed
      rw [failed] at passed
      cases passed
    absent := by
      intro _ exceeded
      rw [failed] at exceeded
      cases exceeded }

/-- Runs that differ in the target write the same until the last line, and print the same. -/
theorem targetApart_of_check {words others : List String} {target : Option Edition}
    (accepted : parse words = .ok (.check options))
    (otherAccepted : parse others = .ok (.check { options with target })) :
    TargetApart (Stands files directory options.input) options.target target
      (run parser files directory words) (run parser files directory others) := by
  rw [run_check parser files directory accepted, run_check parser files directory otherAccepted]
  obtain ⟨failure, looked⟩ | ⟨path, entry, reason, looked, refusal⟩ |
    ⟨path, content, analysis, looked, analysed⟩ :=
    crashed_or_refused_or_analysed parser files directory options.input options.tolerant
  · rw [check_crashed looked, @check_crashed _ _ _ { options with target } _ looked]
    exact .of_eq rfl rfl
  · rw [check_refused looked refusal,
      @check_refused _ _ _ { options with target } _ _ looked _ refusal]
    exact .of_eq rfl rfl
  · rw [check_analysed looked analysed,
      @check_analysed _ _ _ { options with target } _ _ _ looked analysed]
    have notRefused (given : Option Edition) (before : List Record) :
        (conclude { options with target := given } path analysis before).exit.code ≠ 1 := by
      rw [code_conclude]
      split <;> decide
    refine ⟨?_, ?_, ?_, ?_, ?_⟩
    · simp only [conclude_eq]
    · rintro (refused | refused)
      · exact absurd refused (notRefused options.target _)
      · exact absurd refused (notRefused target _)
    · intro _ _
      simp only [conclude_eq, Record.render_append]
      exact ⟨path, content, _, _, _, look_eq_ok_iff.mp looked, rfl,
        lastLine_targetRecords _ _ _ _, rfl, lastLine_targetRecords _ _ _ _⟩
    · -- If the later target were exceeded, so would the earlier one be.
      intro edition otherEdition given otherGiven le passed exceeded
      subst otherGiven
      simp only [code_conclude, given] at passed exceeded
      have other : (exceeded? (some otherEdition) analysis).isSome := by
        by_contra none
        rw [if_neg none] at exceeded
        cases exceeded
      rw [if_pos (isSome_exceeded?_of_le le other)] at passed
      cases passed
    · intro absent exceeded
      subst absent
      simp [code_conclude, exceeded?] at exceeded

/-- What a strict check refuses is refused in any case, or it is a source that is rejected. -/
theorem Refusal.always_or_rejected {path : String} {entry : Entry} {reason : String}
    (refusal : Refusal parser path false entry reason) :
    (∀ tolerant, Refusal parser path tolerant entry reason) ∨
      ∃ content rejection, entry = .file content ∧
        Analysis.run parser (.bytes content) path false = .error rejection ∧
        reason = "Parsing failed: " ++ rejection.message := by
  cases refusal with
  | missing => exact Or.inl fun _ => .missing
  | unreadable error => exact Or.inl fun _ => .unreadable error
  | @rejected content rejection failed => exact Or.inr ⟨content, rejection, rfl, failed, rfl⟩

/-- A strict run is the tolerant one, or it alone is refused. -/
theorem toleranceApart_of_check {words others : List String} (tolerant : options.tolerant = true)
    (accepted : parse words = .ok (.check options))
    (otherAccepted : parse others = .ok (.check { options with tolerant := false })) :
    ToleranceApart parser (Stands files directory options.input)
      (run parser files directory words) (run parser files directory others) := by
  rw [run_check parser files directory accepted, run_check parser files directory otherAccepted]
  obtain ⟨failure, looked⟩ | ⟨path, entry, reason, looked, refusal⟩ |
    ⟨path, content, analysis, looked, analysed⟩ :=
    crashed_or_refused_or_analysed parser files directory options.input false
  · rw [check_crashed looked, @check_crashed _ _ _ { options with tolerant := false } _ looked]
    exact .same rfl
  · rw [@check_refused _ _ _ { options with tolerant := false } _ _ looked _ refusal]
    obtain always | ⟨content, rejection, rfl, failed, rfl⟩ := refusal.always_or_rejected
    · rw [check_refused looked (always options.tolerant)]
      exact .same rfl
    · -- The source has problems, so the strict run is refused; the tolerant one goes on.
      have analysed : Analysis.run parser (.bytes content) path options.tolerant =
          .ok (Analysis.ofParsed (Parsed.read parser (.bytes content) path)) := by
        rw [tolerant, Analysis.run_tolerant]
      rw [check_analysed looked analysed]
      refine .rejected (look_eq_ok_iff.mp looked) failed rfl rfl ⟨_, render_fail _ _ _⟩ ?_
      rw [code_conclude]
      split <;> decide
  · rw [@check_analysed _ _ _ { options with tolerant := false } _ _ _ looked analysed]
    -- Without problems the tolerant run comes to the analysis of the strict one.
    have sameAnalysis : Analysis.run parser (.bytes content) path options.tolerant =
        .ok analysis := by
      rw [tolerant, Analysis.run_tolerant, ← (accept_of_run analysed).2]
    rw [check_analysed looked sameAnalysis]
    exact .same rfl

namespace Record

/-- A debugging record begins with the word for it. -/
theorem marked_debug (origin message : String) : (Record.debug origin message).Marked := by
  refine Or.inl ⟨rfl, origin ++ ": " ++ message ++ "\n", ?_⟩
  simp only [line, String.append_assoc]

/-- A notice may begin as a warning. -/
theorem marked_warning (rest : String) : (Record.notice ("WARNING " ++ rest)).Marked :=
  Or.inr ⟨rfl, rest ++ "\n", Or.inl String.append_assoc⟩

/-- A notice may begin as an error. -/
theorem marked_error (rest : String) : (Record.notice ("ERROR" ++ rest)).Marked :=
  Or.inr ⟨rfl, rest ++ "\n", Or.inr String.append_assoc⟩

/-- The records before anything is said about a source are debugging records. -/
theorem marked_of_mem_openingRecords {path : String} {entry : Entry} {record : Record}
    (written : record ∈ openingRecords parser path entry) : record.Marked := by
  cases entry with
  | missing | unreadable =>
    obtain rfl := List.mem_singleton.mp written
    exact marked_debug _ _
  | file content =>
    obtain rfl | problem := List.mem_cons.mp written
    · exact marked_debug _ _
    · unfold problemRecords at problem
      split at problem
      · cases problem
      · obtain rfl := List.mem_singleton.mp problem
        exact marked_debug _ _

/-- The records of an analysis are a debugging record and warnings. -/
theorem marked_of_mem_analysisRecords {analysis : Analysis} {record : Record}
    (written : record ∈ analysisRecords analysis) : record.Marked := by
  obtain rfl | warning := List.mem_cons.mp written
  · exact marked_debug _ _
  · obtain ⟨message, listed, rfl⟩ := List.mem_map.mp warning
    obtain ⟨problem, -, rfl⟩ := List.mem_map.mp listed
    simp only [Report.warning, String.append_assoc]
    exact marked_warning _

/-- The record of a target that is exceeded is an error. -/
theorem marked_of_mem_targetRecords {target : Option Edition} {path : String} {analysis : Analysis}
    {record : Record} (written : record ∈ targetRecords target path analysis) : record.Marked := by
  unfold targetRecords at written
  split at written
  · cases written
  · obtain rfl := List.mem_singleton.mp written
    have begins : "ERROR " = "ERROR" ++ " " := by decide
    simp only [begins, String.append_assoc]
    exact marked_error _

/-- The records of a check are debugging records, warnings and errors. -/
theorem marked_of_mem_check {record : Record}
    (written : record ∈ (check parser files directory options).records) : record.Marked := by
  obtain ⟨failure, looked⟩ | ⟨path, entry, reason, looked, refusal⟩ |
    ⟨path, content, analysis, looked, analysed⟩ :=
    crashed_or_refused_or_analysed parser files directory options.input options.tolerant
  · rw [check_crashed looked] at written
    obtain rfl := List.mem_singleton.mp written
    exact marked_debug _ _
  · rw [check_refused looked refusal] at written
    obtain opening | last := List.mem_append.mp written
    · exact marked_of_mem_openingRecords opening
    · obtain rfl := List.mem_singleton.mp last
      have begins : "ERROR: " = "ERROR" ++ ": " := by decide
      rw [begins, String.append_assoc]
      exact marked_error _
  · rw [check_analysed looked analysed, conclude_eq] at written
    simp only [List.mem_append] at written
    obtain (opening | middle) | last := written
    · exact marked_of_mem_openingRecords opening
    · exact marked_of_mem_analysisRecords middle
    · exact marked_of_mem_targetRecords last

end Record

/-- A quiet run leaves out the debugging records. -/
theorem louder_of_check {words others : List String} (quiet : options.verbose = false)
    (accepted : parse words = .ok (.check options))
    (otherAccepted : parse others = .ok (.check { options with verbose := true })) :
    Louder (run parser files directory words) (run parser files directory others) := by
  rw [run_check parser files directory accepted, run_check parser files directory otherAccepted,
    check_verbose parser files directory options true, quiet]
  refine ⟨rfl, rfl, (check parser files directory options).records, Record.render_true _,
    Record.render_eq_join false _, ?_⟩
  intro record written
  exact Record.marked_of_mem_check written

/-- Two runs whose options differ in the format have the same exit and the same standard error. Two
runs that differ in the target print the same and part at most in a last line for a target that is
exceeded, which a later target never is if an earlier one is not. Two runs that differ in tolerance
are the same unless the strict one rejects the source. Asking for the lines for those who follow the
run adds these lines and changes nothing else. -/
theorem options_independent (parser : Parser) (files : FileSystem) (directory : String)
    (words others : List String) (options other : Options)
    (accepted : parse words = .ok (.check options))
    (otherAccepted : parse others = .ok (.check other)) :
    (other = { options with format := other.format } →
      (run parser files directory words).exit = (run parser files directory others).exit ∧
        (run parser files directory words).stderr = (run parser files directory others).stderr) ∧
    (other = { options with target := other.target } →
      TargetApart (Stands files directory options.input) options.target other.target
        (run parser files directory words) (run parser files directory others)) ∧
    (options.tolerant = true → other = { options with tolerant := false } →
      ToleranceApart parser (Stands files directory options.input)
        (run parser files directory words) (run parser files directory others)) ∧
    (options.verbose = false → other = { options with verbose := true } →
      Louder (run parser files directory words) (run parser files directory others)) ∧
    ("--" ∉ words → options.verbose = false → ∀ flag, flag = "-v" ∨ flag = "--verbose" →
      Louder (run parser files directory words)
        (run parser files directory (words ++ [flag]))) := by
  refine ⟨?_, ?_, ?_, ?_, ?_⟩
  · intro same
    rw [same] at otherAccepted
    obtain ⟨exit, records⟩ := check_format parser files directory options other.format
    rw [run_check parser files directory accepted, run_check parser files directory otherAccepted,
      exit, records]
    exact ⟨rfl, rfl⟩
  · intro same
    rw [same] at otherAccepted
    exact targetApart_of_check accepted otherAccepted
  · intro tolerant same
    rw [same] at otherAccepted
    exact toleranceApart_of_check tolerant accepted otherAccepted
  · intro quiet same
    rw [same] at otherAccepted
    exact louder_of_check quiet accepted otherAccepted
  · intro noSeparator quiet flag spelled
    exact louder_of_check quiet accepted (parse_append_verbose accepted noSeparator spelled)

/-- A target that is exceeded, or a flag for those who follow the run, does not change what is
printed about a file. -/
theorem options_independent_chainTree :
    parse ["check", "a.js"] = .ok (.check { input := "a.js" }) ∧
      parse ["check", "a.js", "--target", "10"] =
        .ok (.check { input := "a.js", target := some .es10 }) ∧
      (run (fun _ => chainTree) oneFile "/" ["check", "a.js"]).stdout =
        (run (fun _ => chainTree) oneFile "/" ["check", "a.js", "--target", "10"]).stdout ∧
      (run (fun _ => chainTree) oneFile "/" ["check", "a.js", "-v"]).stdout =
        (run (fun _ => chainTree) oneFile "/" ["check", "a.js"]).stdout := by
  have accepted : parse ["check", "a.js"] = .ok (.check { input := "a.js" }) :=
    parse_input (by decide)
  have targeted : parse ["check", "a.js", "--target", "10"] =
      .ok (.check { input := "a.js", target := some .es10 }) :=
    parse_append_target accepted (by decide) rfl
  obtain ⟨-, apart, -, -, louder⟩ := options_independent (fun _ => chainTree) oneFile "/"
    ["check", "a.js"] ["check", "a.js", "--target", "10"] _ _ accepted targeted
  exact ⟨accepted, targeted, (apart rfl).stdout,
    (louder (by decide) rfl "-v" (Or.inl rfl)).stdout⟩

end EcmaEdition.Command
