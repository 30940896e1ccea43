import EcmaEdition.Proofs.Detection.Walk
import EcmaEdition.Proofs.Tree.Outermost
import EcmaEdition.Report.Render

/-!
# Strict and tolerant analysis

Both modes parse the source in the same way and look for problems in the same tree. They part only
when there are some: a strict analysis gives the first of them as the reason for its rejection, a
tolerant one keeps them all as diagnostics and goes on. So the strict mode rejects exactly what the
tolerant mode has diagnostics for, which is every source whose tree has a problem at any depth, and
for all other sources the two modes come to the same result.
-/

set_option autoImplicit false

namespace EcmaEdition

namespace Problem

/-- A tree has diagnostics exactly when there is a problem somewhere in it. -/
theorem diagnostics_ne_nil_iff (tree : Node) :
    diagnostics tree ≠ [] ↔ ∃ site ∈ tree.sites, isProblem site.node = true := by
  rw [diagnostics, outermost_eq, ne_eq, List.map_eq_nil_iff, List.map_eq_nil_iff]
  exact reported_ne_nil_iff tree

/-- Every diagnostic of a tree gives a line and a column. -/
theorem exists_place_of_mem {tree : Node} {problem : Diagnostic}
    (member : problem ∈ diagnostics tree) :
    ∃ line column : ℤ, problem.line = some line ∧ problem.column = some column := by
  obtain ⟨node, -, rfl⟩ := List.mem_map.mp member
  exact ⟨_, _, rfl, rfl⟩

end Problem

namespace Parsed

variable {parsed : Parsed}

/-- A tolerant run accepts every source. -/
theorem accept_tolerant (parsed : Parsed) : parsed.accept true = .ok parsed := by
  unfold accept
  cases parsed.diagnostics <;> rfl

/-- Without diagnostics a parsed source passes in either mode. -/
theorem accept_of_sound (sound : parsed.diagnostics = []) (tolerant : Bool) :
    parsed.accept tolerant = .ok parsed := by
  rw [accept, sound]

/-- The first diagnostic is the reason for a strict rejection. -/
theorem accept_strict {first : Diagnostic} {rest : List Diagnostic}
    (problems : parsed.diagnostics = first :: rest) :
    parsed.accept false = .error (parsed.rejection first) := by
  rw [accept, problems]
  rfl

/-- A strict reading fails exactly when there are diagnostics. -/
theorem accept_strict_eq_error_iff (parsed : Parsed) :
    (∃ rejection, parsed.accept false = .error rejection) ↔ parsed.diagnostics ≠ [] := by
  constructor
  · rintro ⟨rejection, rejected⟩ sound
    rw [accept_of_sound sound] at rejected
    cases rejected
  · intro nonempty
    obtain ⟨first, rest, problems⟩ := List.exists_cons_of_ne_nil nonempty
    exact ⟨_, accept_strict problems⟩

end Parsed

namespace Analysis

variable {parser : Parser} {source : Source} {sourceName : String}

/-- A tolerant run comes to the analysis of the whole source. -/
theorem run_tolerant (parser : Parser) (source : Source) (sourceName : String) :
    run parser source sourceName true = .ok (ofParsed (Parsed.read parser source sourceName)) := by
  rw [run, Parsed.accept_tolerant]
  rfl

/-- A source without problems is analysed in the same way in both modes. -/
theorem run_of_sound (sound : (Parsed.read parser source sourceName).diagnostics = [])
    (tolerant : Bool) :
    run parser source sourceName tolerant =
      .ok (ofParsed (Parsed.read parser source sourceName)) := by
  rw [run, Parsed.accept_of_sound sound]
  rfl

/-- A source with problems is rejected by a strict analysis. -/
theorem run_strict {first : Diagnostic} {rest : List Diagnostic}
    (problems : (Parsed.read parser source sourceName).diagnostics = first :: rest) :
    run parser source sourceName false =
      .error ((Parsed.read parser source sourceName).rejection first) := by
  rw [run, Parsed.accept_strict problems]
  rfl

/-- An analysis fails when the parsed source does not pass, and for the same reason. -/
theorem run_eq_error_iff (tolerant : Bool) (rejection : Rejection) :
    run parser source sourceName tolerant = .error rejection ↔
      (Parsed.read parser source sourceName).accept tolerant = .error rejection := by
  unfold run
  cases (Parsed.read parser source sourceName).accept tolerant <;> simp [Except.map]

/-- A strict analysis rejects a source exactly when its tree has diagnostics. -/
theorem run_strict_eq_error_iff (parser : Parser) (source : Source) (sourceName : String) :
    (∃ rejection, run parser source sourceName false = .error rejection) ↔
      (Parsed.read parser source sourceName).diagnostics ≠ [] := by
  simp only [run_eq_error_iff]
  exact Parsed.accept_strict_eq_error_iff _

end Analysis

/-- The wording of a rejection whose place is known. -/
theorem Rejection.message_of_place (description sourceName : String) (line column : ℤ) :
    (Rejection.mk description sourceName (some line) (some column)).message =
      sourceName ++ ": " ++ description ++
        (" (line " ++ toString line ++ ", column " ++ toString column ++ ")") :=
  rfl

namespace Analysis

/-- For every source the tolerant analysis gives a result, and the strict one rejects the source
exactly when that result has diagnostics, which is when the tree has a problem at any depth. The
rejection names the first diagnostic, in its own words and place. A source that is not rejected has
the same result in both modes. The features of the result are those of the whole tree. -/
theorem strict_iff_tolerant (parser : Parser) (source : Source) (sourceName : String) :
    ∃ analysis, run parser source sourceName true = .ok analysis ∧
      (Parsed.read parser source sourceName).accept true = .ok analysis.parsed ∧
      analysis.parsed.tree = some (parser source.toBytes) ∧
      analysis.parsed.sourceName = sourceName ∧
      analysis.features = Finder.find (parser source.toBytes) ∧
      (∀ feature, feature ∈ analysis.features ↔
        ∃ site ∈ (parser source.toBytes).sites, site.node.named = true ∧
          feature ∈ Rule.ofKind (Rule.Scope.outermost.within site.above) site.node) ∧
      ((∃ rejection, run parser source sourceName false = .error rejection) ↔
        analysis.parsed.diagnostics ≠ []) ∧
      ((∃ rejection, (Parsed.read parser source sourceName).accept false = .error rejection) ↔
        analysis.parsed.diagnostics ≠ []) ∧
      (analysis.parsed.diagnostics ≠ [] ↔
        ∃ site ∈ (parser source.toBytes).sites,
          site.node.kind = "ERROR" ∨ site.node.missing = true ∨
            ∃ rest, site.node.kind = "jsx_" ++ rest) ∧
      (∀ first rest, analysis.parsed.diagnostics = first :: rest →
        ∃ line column : ℤ, first.line = some line ∧ first.column = some column ∧
          ∃ rejection : Rejection, run parser source sourceName false = .error rejection ∧
            (Parsed.read parser source sourceName).accept false = .error rejection ∧
            rejection = ⟨first.description, sourceName, some line, some column⟩ ∧
            rejection.message =
              sourceName ++ ": " ++ first.description ++
                (" (line " ++ toString line ++ ", column " ++ toString column ++ ")") ∧
            (Report.warnings analysis).head? =
              some ("WARNING " ++ sourceName ++ (":" ++ toString line ++ ":" ++ toString column) ++
                ": " ++ first.description)) ∧
      (∀ strict, run parser source sourceName false = .ok strict →
        strict = analysis ∧ strict.minimumEdition? = analysis.minimumEdition? ∧
          strict.parsed.diagnostics = [] ∧
          (Parsed.read parser source sourceName).accept false = .ok strict.parsed) := by
  refine ⟨ofParsed (Parsed.read parser source sourceName), run_tolerant parser source sourceName,
    Parsed.accept_tolerant _, rfl, rfl, rfl, ?_, run_strict_eq_error_iff parser source sourceName,
    Parsed.accept_strict_eq_error_iff _, ?_, ?_, ?_⟩
  · intro feature
    exact Finder.mem_find_iff feature (parser source.toBytes)
  · simp only [← Problem.isProblem_iff]
    exact Problem.diagnostics_ne_nil_iff _
  · intro first rest problems
    have listed : first ∈ Problem.diagnostics (parser source.toBytes) := by
      rw [show Problem.diagnostics (parser source.toBytes) = first :: rest from problems]
      exact List.mem_cons_self
    obtain ⟨line, column, hline, hcolumn⟩ := Problem.exists_place_of_mem listed
    have reason : (Parsed.read parser source sourceName).rejection first =
        ⟨first.description, sourceName, some line, some column⟩ := by
      rw [Parsed.rejection, hline, hcolumn]
      rfl
    refine ⟨line, column, hline, hcolumn, _, run_strict problems, Parsed.accept_strict problems,
      reason, ?_, ?_⟩
    · rw [reason]
      exact Rejection.message_of_place _ _ _ _
    · rw [Report.warnings, problems, List.map_cons, List.head?_cons, Report.warning, hline, hcolumn]
      rfl
  · intro strict accepted
    by_cases sound : (Parsed.read parser source sourceName).diagnostics = []
    · rw [run_of_sound sound, Except.ok.injEq] at accepted
      subst accepted
      exact ⟨rfl, rfl, sound, Parsed.accept_of_sound sound false⟩
    · obtain ⟨rejection, rejected⟩ :=
        (run_strict_eq_error_iff parser source sourceName).mpr sound
      rw [rejected] at accepted
      cases accepted

/-- A parser that finds markup in every source makes the strict analysis reject every source. -/
theorem strict_iff_tolerant_markup :
    ∃ analysis first rest,
      run (fun _ => Problem.markupThenNonsense) (.text "a = <b>c</b>") "a.js" true = .ok analysis ∧
        analysis.parsed.diagnostics = first :: rest ∧
        ∃ rejection,
          run (fun _ => Problem.markupThenNonsense) (.text "a = <b>c</b>") "a.js" false =
              .error rejection ∧
            rejection.description = first.description := by
  obtain ⟨analysis, tolerated, -, -, -, -, -, -, -, nonempty, reasons, -⟩ :=
    strict_iff_tolerant (fun _ => Problem.markupThenNonsense) (.text "a = <b>c</b>") "a.js"
  have problem : ∃ site ∈ Problem.markupThenNonsense.sites, site.node.kind = "ERROR" :=
    ⟨_, List.mem_of_mem_getLast? rfl, rfl⟩
  obtain ⟨site, listed, kind⟩ := problem
  obtain ⟨first, rest, problems⟩ :=
    List.exists_cons_of_ne_nil (nonempty.mpr ⟨site, listed, Or.inl kind⟩)
  obtain ⟨line, column, -, -, rejection, rejected, -, rfl, -⟩ := reasons first rest problems
  exact ⟨analysis, first, rest, tolerated, problems, _, rejected, rfl⟩

end Analysis

end EcmaEdition
