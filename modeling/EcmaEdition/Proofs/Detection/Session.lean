import EcmaEdition.Proofs.Detection.Occurrence
import EcmaEdition.Proofs.Detection.Pattern

/-!
# Sessions

A finder may be asked to look at several things one after the other: trees in either scope, regular
expressions, the modifiers of functions, and the arguments of constructors. It keeps one set for all
of them. Nothing that it does reads the set, so a step adds what it would find by itself, and a
session leaves the union of what its steps find alone (`session_exact`).

One thing is true of every set that comes about in this way: where names of groups are repeated,
there are names of groups. A rule adds the two together or the second one alone, so each turn of a
visit keeps this, each step keeps it, and a session keeps it from beginning to end.
-/

set_option autoImplicit false

namespace EcmaEdition

/-! ## Repeated names -/

/-- Names of groups are repeated only where there are names of groups. -/
structure FeatureSet.NamesRepeated (set : FeatureSet) : Prop where
  named : .duplicateNamedCaptureGroups ∈ set → .regexpNamedCaptureGroups ∈ set

namespace FeatureSet.NamesRepeated

/-- The empty set repeats no name. -/
theorem empty : NamesRepeated ∅ where
  named := by
    intro repeated
    exact absurd repeated (not_mem_empty _)

/-- Names stay named where they are repeated when sets are put together. -/
theorem union {a b : FeatureSet} (ha : a.NamesRepeated) (hb : b.NamesRepeated) :
    (a ∪ b).NamesRepeated where
  named := by
    intro repeated
    rw [mem_union] at repeated ⊢
    exact repeated.imp ha.named hb.named

end FeatureSet.NamesRepeated

/-- A pattern that repeats a name has one. -/
theorem Pattern.namesRepeated_features (pattern flags : List Char) :
    (features pattern flags).NamesRepeated where
  named := by
    intro repeated
    simp only [mem_features_iff, reduceCtorEq, and_false, and_true, or_false, false_or]
      at repeated ⊢
    intro none
    rw [none] at repeated
    cases repeated

namespace Rule

/-- The modifiers of a function do not speak of names. -/
theorem namesRepeated_modifiers (node : Node) : (modifiers node).NamesRepeated where
  named := by simp [mem_modifiers_iff]

/-- Error options do not speak of names. -/
theorem namesRepeated_errorCause (index : Nat) (arguments : List Node) :
    (errorCause index arguments).NamesRepeated where
  named := by simp [errorCause]

/-- The two features have the same sources, the regular expressions. -/
theorem namesRepeated_ofKind (scope : Scope) (node : Node) :
    (ofKind scope node).NamesRepeated where
  named := by
    intro repeated
    rw [mem_ofKind_iff_shows] at repeated ⊢
    obtain ⟨pattern, flags, inspects, shown⟩ := repeated
    exact ⟨pattern, flags, inspects, (Pattern.namesRepeated_features pattern flags).named shown⟩

/-- What a node shows by itself repeats names only where there are names. -/
theorem namesRepeated_features (scope : Scope) (node : Node) :
    (features scope node).NamesRepeated := by
  unfold features
  split
  · exact namesRepeated_ofKind scope node
  · exact .empty

end Rule

namespace Finder

/-! ## Turns of a visit -/

/-- One turn of the walk keeps names named where they are repeated. -/
theorem namesRepeated_turn (state : State) (before : state.1.NamesRepeated) :
    (turn state).1.NamesRepeated := by
  obtain ⟨found, tasks⟩ := state
  cases tasks with
  | nil => exact before
  | cons task rest => exact before.union (Rule.namesRepeated_features task.1 task.2)

/-- Any number of turns of the walk keeps names named where they are repeated. -/
theorem namesRepeated_iterate (state : State) (before : state.1.NamesRepeated) (turns : Nat) :
    (turn^[turns] state).1.NamesRepeated := by
  induction turns with
  | zero => exact before
  | succ turns ih =>
    rw [Function.iterate_succ_apply']
    exact namesRepeated_turn _ ih

/-- A visit is over after as many turns as there are tasks on its agenda. -/
theorem visit_eq_iterate (found : FeatureSet) (scope : Rule.Scope) (node : Node) :
    visit found scope node = (turn^[node.size] (found, [(scope, node)])).1 := by
  have ends := iterate_pending (found, [(scope, node)])
  rw [pending_single, length_agenda, ← walk_eq_yields_agenda, ← visit_eq_walk] at ends
  rw [ends]

/-! ## Steps -/

/-- The features found after some steps. -/
def session (found : FeatureSet) (steps : List Step) : FeatureSet :=
  steps.foldl take found

/-- A session without steps finds nothing new. -/
@[simp] theorem session_nil (found : FeatureSet) : session found [] = found := rfl

/-- A session takes its first step and then the others. -/
@[simp] theorem session_cons (found : FeatureSet) (step : Step) (rest : List Step) :
    session found (step :: rest) = session (take found step) rest := rfl

/-- A step adds what it finds by itself, whatever was found before. -/
theorem take_eq_union (found : FeatureSet) (step : Step) :
    take found step = found ∪ take ∅ step := by
  cases step with
  | tree scope node => simp only [take, visit_eq_walk, FeatureSet.empty_union]
  | regex pattern flags => simp only [take, FeatureSet.empty_union]
  | modifiers node => simp only [take, FeatureSet.empty_union]
  | regexpConstructor arguments => simp only [take, FeatureSet.empty_union]
  | errorCause index arguments => simp only [take, FeatureSet.empty_union]

/-- A session adds what its steps find, each by itself. -/
theorem session_eq_union (found : FeatureSet) (steps : List Step) :
    session found steps = found ∪ FeatureSet.unions (steps.map (take ∅)) := by
  induction steps generalizing found with
  | nil => simp
  | cons step rest ih =>
    rw [session_cons, ih, take_eq_union, List.map_cons, FeatureSet.unions_cons,
      FeatureSet.union_assoc]

/-- What a session finds is what some step of it finds alone. -/
theorem mem_session_iff (feature : Feature) (steps : List Step) :
    feature ∈ session ∅ steps ↔ ∃ step ∈ steps, feature ∈ session ∅ [step] := by
  rw [session_eq_union, FeatureSet.empty_union, FeatureSet.mem_unions]
  simp

/-- A step keeps names named where they are repeated. -/
theorem namesRepeated_take {found : FeatureSet} (before : found.NamesRepeated) (step : Step) :
    (take found step).NamesRepeated := by
  cases step with
  | tree scope node =>
    -- A visit is a number of turns, and each of them keeps the invariant.
    rw [take, visit_eq_iterate]
    exact namesRepeated_iterate _ before node.size
  | regex pattern flags => exact before.union (Pattern.namesRepeated_features pattern flags)
  | modifiers node => exact before.union (Rule.namesRepeated_modifiers node)
  | regexpConstructor arguments => exact before.union (Pattern.namesRepeated_features _ _)
  | errorCause index arguments =>
    exact before.union (Rule.namesRepeated_errorCause index arguments)

/-- A whole session keeps names named where they are repeated. -/
theorem namesRepeated_session {found : FeatureSet} (before : found.NamesRepeated)
    (steps : List Step) : (session found steps).NamesRepeated := by
  induction steps generalizing found with
  | nil => exact before
  | cons step rest ih => exact ih (namesRepeated_take before step)

/-- After each of its steps, a session of a finder has found the union of what the steps so far find
alone, each with a fresh finder. A step adds to any set what it finds alone; so sets never shrink,
and it matters neither in which order the steps come nor how often. In every state, after a step or
in the middle of a visit, repeated names of groups imply names of groups. -/
theorem session_exact :
    (∀ steps, session ∅ steps = FeatureSet.unions (steps.map fun step => session ∅ [step])) ∧
      (∀ found step feature,
        feature ∈ take found step ↔ feature ∈ found ∨ feature ∈ session ∅ [step]) ∧
      (∀ steps more feature, feature ∈ session ∅ steps → feature ∈ session ∅ (steps ++ more)) ∧
      (∀ steps others, (∀ step, step ∈ steps ↔ step ∈ others) →
        session ∅ steps = session ∅ others) ∧
      ∀ steps,
        (.duplicateNamedCaptureGroups ∈ session ∅ steps →
          .regexpNamedCaptureGroups ∈ session ∅ steps) ∧
        ∀ scope node turns,
          .duplicateNamedCaptureGroups ∈ (turn^[turns] (session ∅ steps, [(scope, node)])).1 →
            .regexpNamedCaptureGroups ∈ (turn^[turns] (session ∅ steps, [(scope, node)])).1 := by
  refine ⟨?_, ?_, ?_, ?_, ?_⟩
  · intro steps
    rw [session_eq_union, FeatureSet.empty_union]
    rfl
  · intro found step feature
    rw [take_eq_union, FeatureSet.mem_union]
    rfl
  · intro steps more feature
    rw [mem_session_iff, mem_session_iff]
    rintro ⟨step, inside, shown⟩
    exact ⟨step, List.mem_append_left more inside, shown⟩
  · intro steps others same
    apply FeatureSet.ext
    intro feature
    rw [mem_session_iff feature steps, mem_session_iff feature others]
    simp only [same]
  · intro steps
    have after := namesRepeated_session FeatureSet.NamesRepeated.empty steps
    refine ⟨after.named, ?_⟩
    intro scope node turns
    exact (namesRepeated_iterate (session ∅ steps, [(scope, node)]) after turns).named

/-- A regular expression in which two groups have one name. -/
def sameNames : Step := .regex "(?<a>x)|(?<a>y)".toList []

def spread : Step := .tree .function ⟨{ kind := "spread_element" }, []⟩

/-- The repeated names are found before the spread element and after it, and with them that there
are names at all. -/
theorem session_exact_sameNames :
    .duplicateNamedCaptureGroups ∈ session ∅ [sameNames, spread] ∧
      .regexpNamedCaptureGroups ∈ session ∅ [sameNames, spread] ∧
      session ∅ [sameNames, spread] = session ∅ [spread, sameNames, spread] := by
  obtain ⟨-, -, grows, alike, implies⟩ := session_exact
  have alone : .duplicateNamedCaptureGroups ∈ session ∅ [sameNames] := by
    have shown : .duplicateNamedCaptureGroups ∈
        Pattern.features "(?<a>x)|(?<a>y)".toList [] := by
      simp only [Pattern.mem_features_iff, Pattern.groupNames, Pattern.groupNamesFrom_eq,
        reduceCtorEq, and_false, and_true, or_false, false_or]
      decide +kernel
    simpa [sameNames, take] using shown
  have both := grows [sameNames] [spread] _ alone
  have members : ∀ step, step ∈ [sameNames, spread] ↔ step ∈ [spread, sameNames, spread] := by
    intro step
    simp only [List.mem_cons, List.not_mem_nil, or_false]
    tauto
  exact ⟨both, (implies _).1 both, alike _ _ members⟩

end Finder

end EcmaEdition
