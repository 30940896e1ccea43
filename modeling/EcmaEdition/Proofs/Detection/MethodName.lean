import EcmaEdition.Proofs.Detection.Enclosure
import Mathlib.Data.List.Chain

/-!
# Names of methods

The name of a method may be computed, and an `await` may stand in the computation. In the language
the name belongs to the code around the method: it is computed when the class or the object is made,
outside of the method's body. The finder hands the scope of the function to everything below the
method, the name included.

Here the scope is said in which a site runs, and with it which features a tree ought to show
(`due`). What is found differs from this at the computed names of methods only. An `await` in such a
name, if it runs in the outermost code, is found as a part of an asynchronous function, so the
edition that is found to be needed may be too early and is never too late (`find_due`).
-/

set_option autoImplicit false

namespace EcmaEdition

namespace Rule

/-- On the way from a node down to one of its children no body of a function is entered: the node is
no function, or it is a method and the child is its name. -/
def StaysOutside (parent child : Node) : Prop :=
  isFunction parent = true → parent.kind = "method_definition" ∧ child.label.field = some "name"

instance (parent child : Node) : Decidable (StaysOutside parent child) :=
  inferInstanceAs (Decidable (_ → _))

/-- A site runs in the outermost code if no body of a function is entered on the way down to it. -/
def RunsOutermost (site : Site) : Prop :=
  (site.above ++ [site.node]).IsChain StaysOutside

instance (site : Site) : Decidable (RunsOutermost site) :=
  inferInstanceAs (Decidable (List.IsChain _ _))

/-- The scope in which a site runs. -/
def runScope (site : Site) : Scope :=
  if RunsOutermost site then .outermost else .function

/-- A node that awaits: an `await`, or a loop with the token `await`. -/
def Awaits (node : Node) : Prop :=
  node.kind = "await_expression" ∨
    node.kind = "for_in_statement" ∧ ∃ child ∈ node.children, child.kind = "await"

/-- Below no function the walk is in the outermost scope, and below any it is not. -/
theorem within_eq_outermost_iff (site : Site) :
    Scope.outermost.within site.above = .outermost ↔
      ∀ ancestor ∈ site.above, ancestor.kind ∉ functionKinds := by
  simp only [Scope.outermost_within_eq_outermost_iff, ne_eq, isFunction_iff]

section Way

variable {above : List Node} {node : Node}

/-- No body is entered on a way without functions. -/
theorem isChain_staysOutside (free : ∀ ancestor ∈ above, ancestor.kind ∉ functionKinds) :
    (above ++ [node]).IsChain StaysOutside := by
  induction above with
  | nil => exact List.isChain_singleton _
  | cons parent above ih =>
    obtain ⟨here, others⟩ := List.forall_mem_cons.mp free
    rw [List.cons_append, List.isChain_cons]
    refine ⟨?_, ih others⟩
    intro child _ function
    exact absurd ((isFunction_iff parent).mp function) here

/-- If no body is entered on the way down, all functions on it are methods. -/
theorem kind_of_isChain (outside : (above ++ [node]).IsChain StaysOutside) :
    ∀ ancestor ∈ above, ancestor.kind ∈ functionKinds → ancestor.kind = "method_definition" := by
  induction above with
  | nil => simp
  | cons parent above ih =>
    rw [List.cons_append, List.isChain_cons] at outside
    obtain ⟨here, further⟩ := outside
    refine List.forall_mem_cons.mpr ⟨?_, ih further⟩
    intro function
    obtain ⟨child, next⟩ : ∃ child, (above ++ [node]).head? = some child := by
      cases above <;> exact ⟨_, rfl⟩
    exact (here child next ((isFunction_iff parent).mpr function)).1

end Way

variable {site : Site}

/-- What lies below no function runs in the outermost code. -/
theorem runsOutermost_of_free (free : ∀ ancestor ∈ site.above, ancestor.kind ∉ functionKinds) :
    RunsOutermost site :=
  isChain_staysOutside free

/-- What runs in the outermost code lies below no function if it lies below no method. -/
theorem free_iff_of_runsOutermost (runs : RunsOutermost site) :
    (∀ ancestor ∈ site.above, ancestor.kind ∉ functionKinds) ↔
      ∀ ancestor ∈ site.above, ancestor.kind ≠ "method_definition" := by
  constructor
  · intro free ancestor listed method
    apply free ancestor listed
    rw [method]
    decide
  · intro noMethod ancestor listed function
    exact noMethod ancestor listed (kind_of_isChain runs ancestor listed function)

/-- The scope in which a site runs is the outermost one if it runs in the outermost code. -/
theorem runScope_eq_outermost_iff : runScope site = .outermost ↔ RunsOutermost site := by
  simp [runScope]

/-- Top-level `await` is shown by a node that awaits, in the outermost scope alone. -/
theorem topLevelAwait_mem_iff_awaits {scope : Scope} {node : Node} :
    .topLevelAwait ∈ ofKind scope node ↔ Awaits node ∧ scope = .outermost := by
  rw [topLevelAwait_mem_ofKind_iff, Node.hasChild_iff]
  rfl

/-- What does not await shows the same in both scopes. -/
theorem ofKind_eq_of_not_awaits {scope other : Scope} {node : Node} (still : ¬Awaits node) :
    ofKind scope node = ofKind other node := by
  obtain ⟨notAwait, noToken⟩ := not_or.mp still
  by_cases loop : node.kind = "for_in_statement"
  · have token : node.hasChild "await" = false := by
      rw [Bool.eq_false_iff, ne_eq, Node.hasChild_iff]
      exact fun awaits => noToken ⟨loop, awaits⟩
    rw [ofKind_forIn loop, ofKind_forIn loop]
    simp [forIn, token]
  · exact ofKind_eq_of_kind_ne notAwait loop

end Rule

namespace Finder

open EcmaEdition.Rule

/-- What a tree ought to show: what the rules say about each site in the scope in which it runs. -/
def due (tree : Node) : FeatureSet :=
  shownUnder runScope tree

/-- A program shows what its sites show in the scope that the walk has there. -/
theorem find_eq_shownUnder (tree : Node) :
    find tree = shownUnder (fun site => Scope.outermost.within site.above) tree := by
  rw [find_eq_walk, walk_eq_shownUnder]

/-- What the finder takes for outermost code runs there. -/
theorem runScope_of_within {tree : Node} : ∀ site ∈ tree.sites,
    Scope.outermost.within site.above = .outermost → runScope site = .outermost := by
  intro site _ outside
  rw [runScope_eq_outermost_iff]
  exact runsOutermost_of_free ((within_eq_outermost_iff site).mp outside)

/-- Top-level `await` is due to a node that awaits and runs in the outermost code. -/
theorem topLevelAwait_mem_due_iff (tree : Node) :
    .topLevelAwait ∈ due tree ↔
      ∃ site ∈ tree.sites, site.node.named = true ∧ Awaits site.node ∧ RunsOutermost site := by
  simp only [due, mem_shownUnder_iff, topLevelAwait_mem_iff_awaits, runScope_eq_outermost_iff]

/-- Top-level `await` is found for a node that awaits, runs in the outermost code and lies below no
method. -/
theorem topLevelAwait_mem_find_iff (tree : Node) :
    .topLevelAwait ∈ find tree ↔
      ∃ site ∈ tree.sites, site.node.named = true ∧ Awaits site.node ∧ RunsOutermost site ∧
        ∀ ancestor ∈ site.above, ancestor.kind ≠ "method_definition" := by
  simp only [mem_find_iff, topLevelAwait_mem_iff_awaits, within_eq_outermost_iff]
  constructor
  · rintro ⟨site, inside, named, awaits, free⟩
    have runs := runsOutermost_of_free free
    exact ⟨site, inside, named, awaits, runs, (free_iff_of_runsOutermost runs).mp free⟩
  · rintro ⟨site, inside, named, awaits, runs, noMethod⟩
    exact ⟨site, inside, named, awaits, (free_iff_of_runsOutermost runs).mpr noMethod⟩

/-- What stands in the name of a method is taken for code of a function. -/
theorem within_of_method {site : Site}
    (method : ∃ ancestor ∈ site.above, ancestor.kind = "method_definition") :
    Scope.outermost.within site.above = .function := by
  obtain ⟨ancestor, listed, kind⟩ := method
  rw [Scope.outermost_within_eq_function_iff]
  refine ⟨ancestor, listed, ?_⟩
  rw [isFunction_iff, kind]
  decide

/-- If nothing awaits in the name of a method, what is found is what is due. -/
theorem find_eq_due {tree : Node} (apart : ∀ site ∈ tree.sites, Awaits site.node →
    RunsOutermost site → ∀ ancestor ∈ site.above, ancestor.kind ≠ "method_definition") :
    find tree = due tree := by
  rw [find_eq_shownUnder, due, shownUnder, shownUnder]
  refine congrArg FeatureSet.unions (List.map_congr_left fun site inside => ?_)
  by_cases awaits : Awaits site.node
  · have scopes : Scope.outermost.within site.above = runScope site := by
      by_cases runs : RunsOutermost site
      · rw [runScope, if_pos runs, within_eq_outermost_iff, free_iff_of_runsOutermost runs]
        exact apart site inside awaits runs
      · rw [runScope, if_neg runs]
        cases scope : Scope.outermost.within site.above with
        | function => rfl
        | outermost =>
          have free := (within_eq_outermost_iff site).mp scope
          exact absurd (runsOutermost_of_free free) runs
    rw [scopes]
  · rw [features, features, ofKind_eq_of_not_awaits awaits]

/-- An `await` that runs in the outermost code is due as a top-level `await`. It is found as one if
it lies below no method; in the name of a method it is found as a part of an asynchronous function.
Nothing else is found as a top-level `await`, and with all other features what is found is what is
due. So the edition that is found is never later than the one that is due, and if nothing awaits in
the name of a method, the two sets are the same. -/
theorem find_due (tree : Node) :
    (∀ site ∈ tree.sites, site.node.named = true → site.node.kind = "await_expression" →
        RunsOutermost site →
        .topLevelAwait ∈ due tree ∧
          ((∀ ancestor ∈ site.above, ancestor.kind ≠ "method_definition") →
            .topLevelAwait ∈ find tree) ∧
          ((∃ ancestor ∈ site.above, ancestor.kind = "method_definition") →
            features (Scope.outermost.within site.above) site.node = {Feature.asyncFunctions} ∧
              .asyncFunctions ∈ find tree)) ∧
      (.topLevelAwait ∈ due tree ↔
        ∃ site ∈ tree.sites, site.node.named = true ∧ Awaits site.node ∧ RunsOutermost site) ∧
      (.topLevelAwait ∈ find tree ↔
        ∃ site ∈ tree.sites, site.node.named = true ∧ Awaits site.node ∧ RunsOutermost site ∧
          ∀ ancestor ∈ site.above, ancestor.kind ≠ "method_definition") ∧
      (.asyncFunctions ∈ due tree → .asyncFunctions ∈ find tree) ∧
      (∀ feature, feature ≠ .topLevelAwait → feature ≠ .asyncFunctions →
        (feature ∈ find tree ↔ feature ∈ due tree)) ∧
      (∀ edition, (find tree).edition? = some edition →
        ∃ needed, (due tree).edition? = some needed ∧ edition ≤ needed) ∧
      ((∀ site ∈ tree.sites, Awaits site.node → RunsOutermost site →
          ∀ ancestor ∈ site.above, ancestor.kind ≠ "method_definition") →
        find tree = due tree) := by
  refine ⟨?_, topLevelAwait_mem_due_iff tree, topLevelAwait_mem_find_iff tree, ?_, ?_, ?_,
    find_eq_due⟩
  · intro site inside named kind runs
    refine ⟨?_, ?_, ?_⟩
    · rw [topLevelAwait_mem_due_iff]
      exact ⟨site, inside, named, Or.inl kind, runs⟩
    · intro noMethod
      rw [topLevelAwait_mem_find_iff]
      exact ⟨site, inside, named, Or.inl kind, runs, noMethod⟩
    · intro method
      have shown : features (Scope.outermost.within site.above) site.node =
          {Feature.asyncFunctions} := by
        rw [features, if_pos named, within_of_method method, ofKind_await kind, await]
      refine ⟨shown, ?_⟩
      rw [mem_find_iff]
      refine ⟨site, inside, named, ?_⟩
      rw [features, if_pos named] at shown
      rw [shown, FeatureSet.mem_singleton]
  · rw [find_eq_shownUnder]
    exact asyncFunctions_mem_shownUnder runScope_of_within
  · intro feature notTop notAsync
    rw [find_eq_shownUnder]
    exact (mem_shownUnder_of_scope notTop notAsync).symm
  · intro edition needed
    rw [find_eq_shownUnder] at needed
    exact edition_shownUnder_le runScope_of_within needed

/-- A class with one method, and an `await` in the computed name of the method. -/
def namedByAwait : Node :=
  ⟨{ kind := "class_declaration" }, [
    ⟨{ kind := "class_body" }, [
      ⟨{ kind := "method_definition" }, [
        ⟨{ kind := "computed_property_name", field := some "name" }, [
          ⟨{ kind := "await_expression" }, []⟩]⟩]⟩]⟩]⟩

/-- Such a class behind an `await`. -/
def namedBehindAwait : Node :=
  ⟨{ kind := "program" }, [⟨{ kind := "await_expression" }, []⟩, namedByAwait]⟩

/-- The `await` before the class is found at the top level, the one in the class is not, though both
run in the outermost code. -/
theorem find_due_namedBehindAwait :
    .topLevelAwait ∈ due namedBehindAwait ∧ .topLevelAwait ∈ find namedBehindAwait ∧
      .asyncFunctions ∈ find namedBehindAwait := by
  have before : ∃ site ∈ namedBehindAwait.sites, site.node.named = true ∧
      site.node.kind = "await_expression" ∧ RunsOutermost site ∧
      ∀ ancestor ∈ site.above, ancestor.kind ≠ "method_definition" := by decide
  have inName : ∃ site ∈ namedBehindAwait.sites, site.node.named = true ∧
      site.node.kind = "await_expression" ∧ RunsOutermost site ∧
      ∃ ancestor ∈ site.above, ancestor.kind = "method_definition" := by decide
  obtain ⟨shown, -⟩ := find_due namedBehindAwait
  obtain ⟨first, hfirst, named, kind, runs, noMethod⟩ := before
  obtain ⟨second, hsecond, named', kind', runs', method⟩ := inName
  obtain ⟨due, found, -⟩ := shown first hfirst named kind runs
  obtain ⟨-, -, taken⟩ := shown second hsecond named' kind' runs'
  exact ⟨due, found noMethod, (taken method).2⟩

/-- Of a class whose method has an `await` in its name, no top-level `await` is found, and the
edition that it needs is missed. -/
theorem missed_in_name :
    (∃ site ∈ namedByAwait.sites, site.node.named = true ∧
        site.node.kind = "await_expression" ∧ RunsOutermost site ∧
        site.above.map Node.kind =
          ["class_declaration", "class_body", "method_definition", "computed_property_name"]) ∧
      .topLevelAwait ∉ find namedByAwait ∧
      (find namedByAwait).edition? = some .es8 ∧ (due namedByAwait).edition? = some .es13 := by
  rw [find_eq_walk]
  refine ⟨?_, by decide, by decide, by decide⟩
  decide

end Finder

end EcmaEdition
