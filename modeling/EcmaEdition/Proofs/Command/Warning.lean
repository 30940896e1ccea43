import EcmaEdition.Proofs.Command.Outcome
import EcmaEdition.Proofs.Text.Quoted
import EcmaEdition.Proofs.Text.Utf8
import EcmaEdition.Proofs.Text.Variant
import Mathlib.Data.List.TakeWhile

/-!
# One line for each problem

A problem is described in printable characters, on one line, whatever bytes the source has. The
kinds of missing nodes and the excerpts of nonsense are quoted, and quoting escapes all that is not
printable. The excerpt is taken from the first line of the decoded text, without the blanks around
it, so nothing behind the first line break has any influence. Together with a name of the source
that is itself on one line, each warning is one line of standard error.
-/

set_option autoImplicit false

namespace EcmaEdition

namespace Text

/-! ## The first line -/

/-- A text without any character that ends a line. -/
def IsLine (text : List Char) : Prop :=
  ∀ c ∈ text, isLineEnd c = false

instance (text : List Char) : Decidable (IsLine text) :=
  List.decidableBAll (fun c => isLineEnd c = false) text

/-- Two texts make one line if each of them has no line end. -/
theorem isLine_append {first second : List Char} :
    IsLine (first ++ second) ↔ IsLine first ∧ IsLine second :=
  List.forall_mem_append

/-- The first line of a text ends where the text does, or before the first line break. -/
def IsFirstLine (text line : List Char) : Prop :=
  ∃ rest, text = line ++ rest ∧ IsLine line ∧ ∀ c, rest.head? = some c → isLineEnd c = true

/-- What stands on a line between the blanks at its ends. -/
def IsCore (line core : List Char) : Prop :=
  ∃ before after, line = before ++ core ++ after ∧ AreBlanks before ∧ AreBlanks after ∧
    (∀ c, core.head? = some c → isBlank c = false) ∧
      ∀ c, core.getLast? = some c → isBlank c = false

/-- The first line of a text is what is read up to a line end. -/
theorem isFirstLine_firstLine (text : List Char) : IsFirstLine text (firstLine text) := by
  refine ⟨text.dropWhile (!isLineEnd ·), List.takeWhile_append_dropWhile.symm, ?_, ?_⟩
  · intro c inside
    simpa using List.mem_takeWhile_imp inside
  · intro c first
    have stops := List.head?_dropWhile_not (!isLineEnd ·) text
    rw [first] at stops
    simpa using stops

/-- A text has one first line. -/
theorem IsFirstLine.eq {text line : List Char} (isFirst : IsFirstLine text line) :
    firstLine text = line := by
  obtain ⟨rest, rfl, whole, stops⟩ := isFirst
  have all : ∀ c ∈ line, (!isLineEnd c) = true := by simpa [IsLine] using whole
  rw [firstLine, List.takeWhile_append_of_pos all]
  cases rest with
  | nil => simp
  | cons c rest => simp [stops c rfl]

/-- What is taken from the front while it is blank is blank. -/
theorem areBlanks_takeWhile (text : List Char) : AreBlanks (text.takeWhile isBlank) :=
  fun _ inside => List.mem_takeWhile_imp inside

/-- Behind a text without the blanks at its end there are only blanks. -/
theorem exists_stripEnd (text : List Char) :
    ∃ after, text = stripEnd text ++ after ∧ AreBlanks after ∧
      ∀ c, (stripEnd text).getLast? = some c → isBlank c = false := by
  refine ⟨(text.reverse.takeWhile isBlank).reverse, ?_, ?_, ?_⟩
  · rw [stripEnd, ← List.reverse_append, List.takeWhile_append_dropWhile, List.reverse_reverse]
  · intro c inside
    exact areBlanks_takeWhile text.reverse c (List.mem_reverse.mp inside)
  · intro c last
    rw [stripEnd, List.getLast?_reverse] at last
    have stops := List.head?_dropWhile_not isBlank text.reverse
    rw [last] at stops
    simpa using stops

/-- Without the blanks at its ends a line is what stands between them. -/
theorem isCore_strip (line : List Char) : IsCore line (strip line) := by
  obtain ⟨after, split, trailing, last⟩ := exists_stripEnd (line.dropWhile isBlank)
  refine ⟨line.takeWhile isBlank, after, ?_, areBlanks_takeWhile line, trailing, ?_, last⟩
  · rw [strip, List.append_assoc, ← split, List.takeWhile_append_dropWhile]
  · intro c first
    have stops := List.head?_dropWhile_not isBlank line
    cases rest : line.dropWhile isBlank with
    | nil =>
      rw [strip, rest] at first
      cases first
    | cons d others =>
      rw [rest, List.head?_cons] at stops
      have kept : isBlank d = false := by simpa using stops
      rw [strip, rest, stripEnd_cons kept, List.head?_cons, Option.some.injEq] at first
      rwa [← first]

/-- Nothing is left of blanks alone. -/
theorem strip_eq_nil_iff (line : List Char) : strip line = [] ↔ AreBlanks line := by
  constructor
  · intro nothing
    obtain ⟨before, after, split, leading, trailing, -⟩ := isCore_strip line
    rw [nothing, List.append_nil] at split
    rw [split]
    exact List.forall_mem_append.mpr ⟨leading, trailing⟩
  · intro blank
    have nothing : line.dropWhile isBlank = [] := List.dropWhile_eq_nil_iff.mpr blank
    rw [strip, nothing]
    rfl

end Text

open EcmaEdition.Text

/-! ## Descriptions -/

namespace Problem

/-- An unexpected token is described by the text near it. -/
theorem Cause.description_near {near : List Char} (nonempty : near ≠ []) :
    (Cause.unexpected near).description =
      "Unexpected token near " ++ quote (String.ofList near) ++ "." := by
  rw [description]
  · rw [quote, String.toList_ofList]
  · exact nonempty

/-- A quoted text between printable texts is printable. -/
theorem isPrintable_of_mem_framed {front : String} {near : List Char}
    (shown : front.toList.all isPrintable = true) :
    ∀ c ∈ (front ++ String.ofList (quoted near) ++ ".").toList, isPrintable c = true := by
  have stop : ".".toList.all isPrintable = true := by decide +kernel
  intro c inside
  rw [String.toList_append, String.toList_append, String.toList_ofList, List.mem_append,
    List.mem_append] at inside
  obtain (before | quoted) | after := inside
  · exact List.all_eq_true.mp shown c before
  · exact isPrintable_of_mem_quoted quoted
  · exact List.all_eq_true.mp stop c after

/-- Every cause is described in printable characters. -/
theorem Cause.isPrintable_of_mem_description (cause : Cause) :
    ∀ c ∈ cause.description.toList, isPrintable c = true := by
  cases cause with
  | missing kind =>
    have shown : "Missing ".toList.all isPrintable = true := by decide +kernel
    exact isPrintable_of_mem_framed shown
  | markup =>
    have shown : "JSX syntax is not supported.".toList.all isPrintable = true := by
      decide +kernel
    exact List.all_eq_true.mp shown
  | unexpected near =>
    by_cases nothing : near = []
    · have shown : "Unexpected token.".toList.all isPrintable = true := by decide +kernel
      rw [nothing]
      exact List.all_eq_true.mp shown
    · have shown : "Unexpected token near ".toList.all isPrintable = true := by
        decide +kernel
      rw [Cause.description_near nothing, quote, String.toList_ofList]
      exact isPrintable_of_mem_framed shown

/-- The description of a missing token tells its kind. -/
theorem Cause.description_missing_inj {kind other : String}
    (same : (Cause.missing kind).description = (Cause.missing other).description) :
    kind = other := by
  have quotes : quote kind = quote other := by
    simpa [description] using same
  exact quote_injective quotes

/-- A token is described without an excerpt just if the excerpt is empty. -/
theorem Cause.description_unexpected_iff (near : List Char) :
    (Cause.unexpected near).description = "Unexpected token." ↔ near = [] := by
  constructor
  · intro same
    by_contra nonempty
    -- The two texts part at the character behind the word.
    have parted := congrArg (fun text => text.toList.take 17) same
    rw [Cause.description_near nonempty] at parted
    simp [String.toList_append] at parted
  · rintro rfl
    rfl

variable {node : Node}

/-- A missing node is described by its kind. -/
theorem description_of_missing (missing : node.missing = true) :
    (diagnostic node).description = (Cause.missing node.kind).description := by
  rw [diagnostic, cause, if_pos missing]

/-- What the parser made no sense of is described by its first line. -/
theorem description_of_error (kind : node.kind = "ERROR") (present : node.missing = false)
    {line : List Char} (isFirst : IsFirstLine node.chars line) :
    (diagnostic node).description =
      (Cause.unexpected ((strip line).take excerptLength)).description := by
  have plain : isMarkup node = false := by
    rw [isMarkup, Node.kindOpensWith, kind]
    decide
  rw [diagnostic, cause, if_neg (by simp [present]), if_neg (by simp [plain]), excerpt, isFirst.eq]

end Problem

/-! ## Warnings -/

namespace Report

/-- A number is one line. -/
theorem isLine_toString (number : Nat) : IsLine (toString number).toList := by
  intro c inside
  have digit : c.isDigit = true := by
    refine Nat.isDigit_of_mem_toDigits (b := 10) (n := number) (by omega) (by omega) ?_
    have digits : (toString number).toList = Nat.toDigits 10 number := by
      change (Nat.repr number).toList = _
      rw [Nat.repr_eq_ofList_toDigits, String.toList_ofList]
    rwa [← digits]
  obtain ⟨low, high⟩ := Bool.and_eq_true_iff.mp digit
  have least : 0x30 ≤ c.toNat := of_decide_eq_true low
  have greatest : c.toNat ≤ 0x39 := of_decide_eq_true high
  simp only [isLineEnd, Bool.or_eq_false_iff, Bool.and_eq_false_iff, decide_eq_false_iff_not,
    beq_eq_false_iff_ne]
  omega

/-- The description of a problem is one line. -/
theorem isLine_description (node : Node) : IsLine (Problem.diagnostic node).description.toList :=
  fun c inside => not_isLineEnd_of_isPrintable
    ((Problem.cause node).isPrintable_of_mem_description c inside)

/-- The warning about a node is a line if the name of the source is. -/
theorem isLine_warning {sourceName : String} (named : IsLine sourceName.toList) (node : Node) :
    IsLine (warning sourceName (Problem.diagnostic node)).toList := by
  have written : warning sourceName (Problem.diagnostic node) =
      "WARNING " ++ sourceName ++
        (":" ++ toString (node.label.row + 1) ++ ":" ++ toString node.label.column) ++ ": " ++
          (Problem.diagnostic node).description := rfl
  have word : IsLine "WARNING ".toList := by decide
  have colon : IsLine ":".toList := by decide
  have gap : IsLine ": ".toList := by decide
  rw [written]
  simp only [String.toList_append, isLine_append]
  exact ⟨⟨⟨⟨word, named⟩, ⟨⟨⟨colon, isLine_toString (node.label.row + 1)⟩, colon⟩,
    isLine_toString node.label.column⟩⟩, gap⟩, isLine_description node⟩

/-- Lines that are written one after the other, each with a line break behind it, have as many line
breaks as there are lines. -/
theorem countP_join {rows : List String} (whole : ∀ row ∈ rows, IsLine row.toList) :
    (String.join (rows.map (· ++ "\n"))).toList.countP isLineEnd = rows.length := by
  induction rows with
  | nil => rfl
  | cons row rows ih =>
    obtain ⟨here, others⟩ := List.forall_mem_cons.mp whole
    have none : row.toList.countP isLineEnd = 0 :=
      List.countP_eq_zero.mpr fun c inside => by simp [here c inside]
    have oneBreak : "\n".toList.countP isLineEnd = 1 := by decide
    rw [List.map_cons, String.join_cons, String.toList_append, String.toList_append,
      List.countP_append, List.countP_append, none, oneBreak, ih others, List.length_cons]
    omega

/-- The warnings of an analysis are about the outermost problems of the tree. -/
theorem warnings_of_run {parser : Parser} {source : Source} {sourceName : String} {tolerant : Bool}
    {analysis : Analysis}
    (analysed : Analysis.run parser source sourceName tolerant = .ok analysis) :
    warnings analysis = (Problem.outermost (parser source.toBytes)).map fun node =>
      warning sourceName (Problem.diagnostic node) := by
  obtain ⟨-, rfl⟩ := Command.accept_of_run analysed
  rw [warnings]
  exact List.map_map

end Report

/-- The description of a problem is a line of printable characters. So with a name of the source
that is a line, the warnings of an analysis are lines, one for each outermost problem, and what is
written of them has no other line break than those behind them. Missing nodes are described alike
just if they are of the same kind. What makes no sense is described by the first line of the text
alone: without an excerpt if there is no text or only blanks on that line, and otherwise by at most
forty characters, quoted, from the first one that is no blank. -/
theorem Problem.description_exact :
    (∀ node : Node, IsLine (diagnostic node).description.toList ∧
        ∀ c ∈ (diagnostic node).description.toList, ∀ category : Category,
          category.holds c = false) ∧
      (∀ (parser : Parser) (source : Source) (sourceName : String) (tolerant : Bool)
          (analysis : Analysis), IsLine sourceName.toList →
        Analysis.run parser source sourceName tolerant = .ok analysis →
          (Report.warnings analysis).length = (outermost (parser source.toBytes)).length ∧
          (∀ warning ∈ Report.warnings analysis, IsLine warning.toList) ∧
          ∀ verbose, (Command.Record.render verbose
              ((Report.warnings analysis).map .notice)).toList.countP isLineEnd =
            (outermost (parser source.toBytes)).length) ∧
      (∀ node other : Node, node.missing = true → other.missing = true →
        ((diagnostic node).description = (diagnostic other).description ↔
          node.kind = other.kind)) ∧
      ∀ node : Node, node.kind = "ERROR" → node.missing = false →
        ∃ line core, IsFirstLine node.chars line ∧ IsCore line core ∧
          ((diagnostic node).description = "Unexpected token." ↔
            node.chars = [] ∨ AreBlanks line) ∧
          (¬(node.chars = [] ∨ AreBlanks line) → (diagnostic node).description =
            "Unexpected token near " ++ quote (String.ofList (core.take 40)) ++ ".") ∧
          ∀ other : Node, other.kind = "ERROR" → other.missing = false →
            IsFirstLine other.chars line →
              (diagnostic other).description = (diagnostic node).description := by
  refine ⟨?_, ?_, ?_, ?_⟩
  · intro node
    refine ⟨Report.isLine_description node, ?_⟩
    intro c inside
    exact (isPrintable_iff c).mp ((cause node).isPrintable_of_mem_description c inside)
  · intro parser source sourceName tolerant analysis named analysed
    have warnings := Report.warnings_of_run analysed
    have number : (Report.warnings analysis).length =
        (outermost (parser source.toBytes)).length := by
      rw [warnings, List.length_map]
    have whole : ∀ warning ∈ Report.warnings analysis, IsLine warning.toList := by
      rw [warnings]
      intro warning listed
      obtain ⟨node, -, rfl⟩ := List.mem_map.mp listed
      exact Report.isLine_warning named node
    refine ⟨number, whole, ?_⟩
    intro verbose
    rw [Command.Record.render_notices, Report.countP_join whole, number]
  · intro node other missing missing'
    rw [description_of_missing missing, description_of_missing missing']
    exact ⟨Cause.description_missing_inj, fun same => by rw [same]⟩
  · intro node kind present
    have isFirst := isFirstLine_firstLine node.chars
    have described := description_of_error kind present isFirst
    have blank : node.chars = [] ∨ AreBlanks (firstLine node.chars) ↔
        AreBlanks (firstLine node.chars) := by
      refine or_iff_right_of_imp fun nothing => ?_
      rw [nothing]
      exact List.forall_mem_nil _
    have empty : (strip (firstLine node.chars)).take excerptLength = [] ↔
        AreBlanks (firstLine node.chars) := by
      rw [← strip_eq_nil_iff, List.take_eq_nil_iff]
      simp [excerptLength]
    refine ⟨firstLine node.chars, strip (firstLine node.chars), isFirst, isCore_strip _, ?_, ?_, ?_⟩
    · rw [described, Cause.description_unexpected_iff, empty, blank]
    · intro shown
      rw [blank, ← empty] at shown
      rw [described, Cause.description_near shown]
      rfl
    · intro other kind' present' isFirst'
      rw [described, description_of_error kind' present' isFirst']

/-- Nonsense that would clear a terminal, in front of a second line. -/
def clearing (second : List Char) : Node :=
  .leaf "ERROR" ('\x1B' :: '[' :: '2' :: 'J' :: '\n' :: second)

/-- The warning about such nonsense in `a.js` is one line. It has an excerpt, which is the same
whatever the second line is. Missing nodes of different kinds are described differently, also if one
kind is a line break. -/
theorem Problem.description_exact_clearing :
    (∀ warning ∈ Report.warnings
        (Analysis.ofParsed (Parsed.read (fun _ => clearing ['x']) (.text "") "a.js")),
      IsLine warning.toList) ∧
      (diagnostic (clearing ['x'])).description ≠ "Unexpected token." ∧
      (diagnostic (clearing ['y', 'z'])).description = (diagnostic (clearing ['x'])).description ∧
      (diagnostic ⟨{ kind := ";", missing := true }, []⟩).description ≠
        (diagnostic ⟨{ kind := "\n", missing := true }, []⟩).description := by
  obtain ⟨-, warnings, missing, nonsense⟩ := description_exact
  have first : ∀ second, IsFirstLine (clearing second).chars ['\x1B', '[', '2', 'J'] := by
    intro second
    rw [clearing, Node.chars_leaf]
    refine ⟨'\n' :: second, rfl, by decide, ?_⟩
    intro c isFirst
    rw [← Option.some.inj isFirst]
    decide
  obtain ⟨line, core, isFirst, -, excerpt, -, same⟩ := nonsense (clearing ['x']) rfl rfl
  obtain rfl : ['\x1B', '[', '2', 'J'] = line := (first ['x']).eq.symm.trans isFirst.eq
  refine ⟨?_, ?_, same _ rfl rfl (first _), ?_⟩
  · have named : IsLine "a.js".toList := by decide
    exact (warnings (fun _ => clearing ['x']) (.text "") "a.js" true _ named
      (Analysis.run_tolerant _ _ _)).2.1
  · rw [ne_eq, excerpt, clearing, Node.chars_leaf]
    decide
  · rw [ne_eq, missing _ _ rfl rfl]
    decide

end EcmaEdition
