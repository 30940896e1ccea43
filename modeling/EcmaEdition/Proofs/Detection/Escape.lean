import EcmaEdition.Proofs.Detection.Spelling

/-!
# Escapes of one character

A backslash and one more character make an escape of a string literal. In the language a few letters
then stand for a control character, a line terminator continues the literal on the next line and
adds nothing, and any other character stands for itself, unless it begins a longer escape. The
decoder departs from this in one case only, it keeps the line terminator. So it gives a literal the
value of the language if and only if the literal has no line continuation (`value_exact`).
-/

set_option autoImplicit false

namespace EcmaEdition.Literal

/-- The characters that end a line of a program. -/
def lineTerminators : List Char := ['\n', '\r', '\u2028', '\u2029']

/-- The letters that stand for a control character after a backslash. -/
def controls : List (Char × Char) :=
  [('n', '\n'), ('r', '\r'), ('t', '\t'), ('b', '\x08'), ('f', '\x0c'), ('v', '\x0b'),
    ('0', '\x00')]

/-- The characters that begin a Unicode, hexadecimal or octal escape, and the other two digits. -/
def escapeStarts : List Char := ['u', 'x', '1', '2', '3', '4', '5', '6', '7', '8', '9']

/-- What a character after a backslash stands for. A line continuation stands for `continued`, which
is nothing in the language. -/
inductive Decodes (continued : Char → List Char) : Char → List Char → Prop where
  | control {c value : Char} (listed : (c, value) ∈ controls) : Decodes continued c [value]
  | continuation {c : Char} (terminator : c ∈ lineTerminators) : Decodes continued c (continued c)
  | itself {c : Char} (letter : c ∉ controls.map Prod.fst) (inLine : c ∉ lineTerminators)
      (alone : c ∉ escapeStarts) : Decodes continued c [c]

/-- What a part of a literal stands for: a fragment for its characters, an escape for what the
character after its backslash stands for. -/
inductive PartMeans (continued : Char → List Char) : Node → List Char → Prop where
  | fragment {part : Node} (kind : part.kind = "string_fragment") :
      PartMeans continued part part.chars
  | escape {part : Node} {c : Char} {value : List Char} (kind : part.kind = "escape_sequence")
      (written : part.chars = ['\\', c]) (decodes : Decodes continued c value) :
      PartMeans continued part value

/-- What a literal stands for: what its parts stand for, one after the other. -/
def Means (continued : Char → List Char) (node : Node) (text : List Char) : Prop :=
  ∃ values, List.Forall₂ (PartMeans continued) node.namedChildren values ∧ text = values.flatten

/-- The value of a literal in the language, where a line continuation adds nothing. -/
def HasValue (node : Node) (text : List Char) : Prop :=
  Means (fun _ => []) node text

/-- The value of a literal with the line terminators of its continuations. -/
def HasValueWithTerminators (node : Node) (text : List Char) : Prop :=
  Means (fun c => [c]) node text

/-- A fragment, or an escape of one character. -/
def IsSimple (part : Node) : Prop :=
  part.kind = "string_fragment" ∨
    part.kind = "escape_sequence" ∧ ∃ c, part.chars = ['\\', c] ∧ c ∉ escapeStarts

/-- A backslash before a line terminator. -/
def IsContinuation (part : Node) : Prop :=
  part.kind = "escape_sequence" ∧ part.chars ∈ lineTerminators.map (['\\', ·])

instance : DecidablePred IsContinuation :=
  fun _ => inferInstanceAs (Decidable (_ ∧ _))

section Character

variable {continued : Char → List Char} {c : Char} {value : List Char}

/-- The decoder has the same control characters as the language. -/
theorem escapedChar_of_mem_controls {entry : Char × Char} (listed : entry ∈ controls) :
    escapedChar entry.1 = entry.2 := by
  have table : ∀ entry ∈ controls, escapedChar entry.1 = entry.2 := by decide
  exact table entry listed

/-- Every other character is decoded as itself. -/
theorem escapedChar_of_notMem_controls (letter : c ∉ controls.map Prod.fst) :
    escapedChar c = c := by
  unfold escapedChar
  split <;> first | rfl | exact absurd (by decide) letter

/-- No letter of a control character is a line terminator. -/
theorem notMem_lineTerminators {entry : Char × Char} (listed : entry ∈ controls) :
    entry.1 ∉ lineTerminators := by
  have table : ∀ entry ∈ controls, entry.1 ∉ lineTerminators := by decide
  exact table entry listed

/-- A line terminator is decoded as itself. -/
theorem escapedChar_of_mem_lineTerminators (terminator : c ∈ lineTerminators) :
    escapedChar c = c := by
  refine escapedChar_of_notMem_controls fun letter => ?_
  obtain ⟨entry, listed, rfl⟩ := List.mem_map.mp letter
  exact notMem_lineTerminators listed terminator

/-- Away from line continuations the decoder has the meaning of the language. -/
theorem decodes_iff (alone : c ∉ escapeStarts) :
    Decodes continued c value ↔
      value = if c ∈ lineTerminators then continued c else [escapedChar c] := by
  constructor
  · intro decodes
    cases decodes with
    | control listed =>
      rw [if_neg (notMem_lineTerminators listed), escapedChar_of_mem_controls listed]
    | continuation terminator => rw [if_pos terminator]
    | itself letter inLine _ => rw [if_neg inLine, escapedChar_of_notMem_controls letter]
  · rintro rfl
    -- No line terminator stands for a control character, so it may be asked for first.
    by_cases terminator : c ∈ lineTerminators
    · rw [if_pos terminator]
      exact .continuation terminator
    rw [if_neg terminator]
    by_cases letter : c ∈ controls.map Prod.fst
    · obtain ⟨entry, listed, rfl⟩ := List.mem_map.mp letter
      rw [escapedChar_of_mem_controls listed]
      exact .control listed
    · rw [escapedChar_of_notMem_controls letter]
      exact .itself letter terminator alone

end Character

section Part

variable {continued : Char → List Char} {part : Node} {value : List Char}

/-- The value of a part, with `continued` for a line continuation. -/
def decoded (continued : Char → List Char) (part : Node) : List Char :=
  if IsContinuation part then part.chars.tail.flatMap continued else partValue part

/-- A fragment is decoded as its characters. -/
theorem decoded_fragment (kind : part.kind = "string_fragment") :
    decoded continued part = part.chars := by
  have plain : ¬IsContinuation part := by simp [IsContinuation, kind]
  rw [decoded, if_neg plain, partValue, if_pos kind]

/-- An escape of one character is decoded by that character. -/
theorem decoded_escape {c : Char} (kind : part.kind = "escape_sequence")
    (written : part.chars = ['\\', c]) :
    decoded continued part = if c ∈ lineTerminators then continued c else [escapedChar c] := by
  have continues : IsContinuation part ↔ c ∈ lineTerminators := by
    simp [IsContinuation, kind, written]
  have value : partValue part = [escapedChar c] := by simp [partValue, kind, written, escapeValue]
  simp [decoded, continues, written, value]

/-- A fragment or an escape of one character stands for what it is decoded as, and for nothing
else. -/
theorem partMeans_iff (simple : IsSimple part) :
    PartMeans continued part value ↔ value = decoded continued part := by
  obtain fragment | ⟨escape, c, written, alone⟩ := simple
  · rw [decoded_fragment fragment]
    constructor
    · intro means
      cases means with
      | fragment => rfl
      | escape escape => exact absurd (fragment.symm.trans escape) (by decide)
    · rintro rfl
      exact .fragment fragment
  · rw [decoded_escape escape written, ← decodes_iff alone]
    constructor
    · intro means
      cases means with
      | fragment fragment => exact absurd (fragment.symm.trans escape) (by decide)
      | escape _ same decodes =>
        obtain rfl : c = _ := by simpa using written.symm.trans same
        exact decodes
    · exact .escape escape written

/-- The decoder keeps the line terminator of a continuation. -/
theorem decoded_keep (part : Node) : decoded (fun c => [c]) part = partValue part := by
  by_cases continues : IsContinuation part
  · obtain ⟨kind, continuation⟩ := continues
    obtain ⟨c, terminator, written⟩ := List.mem_map.mp continuation
    rw [decoded_escape kind written.symm, if_pos terminator, partValue, if_neg (by simp [kind]),
      if_pos kind, ← written, escapeValue, escapedChar_of_mem_lineTerminators terminator]
  · rw [decoded, if_neg continues]

/-- Of one part the decoder and the language differ by the terminator of a continuation. -/
theorem length_partValue (part : Node) :
    (partValue part).length =
      (decoded (fun _ => []) part).length + if IsContinuation part then 1 else 0 := by
  by_cases continues : IsContinuation part
  · obtain ⟨c, -, written⟩ := List.mem_map.mp continues.2
    rw [← decoded_keep]
    simp [decoded, continues, ← written]
  · simp [decoded, continues]

end Part

section Lengths

variable {α β : Type} {xs : List α} {f g : α → List β} {p : α → Prop}

/-- If one row of texts has a longer text where a member passes a test, and the same text elsewhere,
then it is longer by at least one for each such member. -/
theorem length_flatMap_le_of_longer [DecidablePred p]
    (longer : ∀ x ∈ xs, p x → (g x).length < (f x).length)
    (plain : ∀ x ∈ xs, ¬p x → f x = g x) :
    (xs.flatMap g).length + xs.countP (p ·) ≤ (xs.flatMap f).length := by
  induction xs with
  | nil => exact Nat.le_refl _
  | cons x xs ih =>
    obtain ⟨here, others⟩ := List.forall_mem_cons.mp longer
    obtain ⟨same, alike⟩ := List.forall_mem_cons.mp plain
    have further := ih others alike
    rw [List.flatMap_cons, List.flatMap_cons, List.length_append, List.length_append,
      List.countP_cons]
    by_cases apart : p x
    · have grows := here apart
      simp only [apart, decide_true, if_true]
      omega
    · simp only [apart, decide_false, Bool.false_eq_true, if_false, same apart]
      omega

/-- If one of two functions gives more just where they differ, then the texts that they put together
are the same only where they differ nowhere. -/
theorem flatMap_eq_iff_of_longer (longer : ∀ x ∈ xs, p x → (g x).length < (f x).length)
    (plain : ∀ x ∈ xs, ¬p x → f x = g x) :
    xs.flatMap f = xs.flatMap g ↔ ∀ x ∈ xs, ¬p x := by
  classical
  constructor
  · -- Each difference makes the left side longer, so equal sides leave room for none.
    intro same
    have lengths := length_flatMap_le_of_longer longer plain
    rw [same] at lengths
    have none : xs.countP (p ·) = 0 := by omega
    simpa [List.countP_eq_zero] using none
  · intro nowhere
    exact List.flatMap_congr fun x listed => plain x listed (nowhere x listed)

end Lengths

variable {continued : Char → List Char} {node : Node} {text : List Char} {parts : List Node}

/-- The parts of a literal stand, one by one, for what they are decoded as. -/
theorem forall₂_partMeans_iff {values : List (List Char)} (simple : ∀ part ∈ parts, IsSimple part) :
    List.Forall₂ (PartMeans continued) parts values ↔ values = parts.map (decoded continued) := by
  induction parts generalizing values with
  | nil => simp
  | cons part parts ih =>
    obtain ⟨first, others⟩ := List.forall_mem_cons.mp simple
    simp [List.forall₂_cons_left_iff, partMeans_iff first, ih others]

/-- A literal of simple parts has one meaning. -/
theorem means_iff (simple : ∀ part ∈ node.namedChildren, IsSimple part) :
    Means continued node text ↔ text = node.namedChildren.flatMap (decoded continued) := by
  simp only [Means, forall₂_partMeans_iff simple, exists_eq_left, List.flatMap_def]

/-- Parts without a continuation are decoded as in the language, and only those. -/
theorem flatMap_partValue_eq_iff :
    parts.flatMap partValue = parts.flatMap (decoded fun _ => []) ↔
      ∀ part ∈ parts, ¬IsContinuation part := by
  apply flatMap_eq_iff_of_longer
  · intro part _ continues
    rw [length_partValue, if_pos continues]
    exact Nat.lt_succ_self _
  · intro part _ plain
    rw [decoded, if_neg plain]

/-- A string literal of fragments and escapes of one character has one value in the language. The
decoder gives it this value with the line terminators of the continuations kept, which is the value
of the language just if there is no continuation. -/
theorem value_exact (kind : node.kind = "string")
    (simple : ∀ part ∈ node.namedChildren, IsSimple part) :
    ∃ value kept : List Char,
      (∀ text, HasValue node text ↔ text = value) ∧
      (∀ text, HasValueWithTerminators node text ↔ text = kept) ∧
      stringValue? node = some kept ∧
      (stringValue? node = some value ↔ ∀ part ∈ node.namedChildren, ¬IsContinuation part) := by
  have constant : ∀ part ∈ node.children, part.named = true →
      part.kind ≠ "template_substitution" := by
    intro part inside named
    obtain fragment | ⟨escape, -⟩ := simple part (List.mem_filter.mpr ⟨inside, named⟩)
    · simp [fragment]
    · simp [escape]
  have decoder := stringValue?_string kind constant
  have keep : decoded (fun c => [c]) = partValue := funext decoded_keep
  refine ⟨_, _, fun _ => means_iff simple, fun _ => means_iff simple, ?_, ?_⟩
  · rw [decoder, keep]
  · rw [decoder, Option.some_inj, flatMap_partValue_eq_iff]

/-- A literal of fragments and escapes between two quotes. -/
def quoted (parts : List Node) : Node :=
  ⟨{ kind := "string" },
    ⟨{ kind := "\"", named := false }, []⟩ :: parts ++ [⟨{ kind := "\"", named := false }, []⟩]⟩

def fragment (text : List Char) : Node :=
  .leaf "string_fragment" text

def escape (c : Char) : Node :=
  .leaf "escape_sequence" ['\\', c]

/-- A literal with a control character and an escaped letter that stands for itself. -/
def escapedLetters : Node :=
  quoted [fragment ['a'], escape 'n', escape 'q']

/-- A literal that goes on behind a line continuation. -/
def continuedLine : Node :=
  quoted [fragment ['a'], escape '\n', fragment ['b']]

/-- A fragment stands for its text. -/
theorem partMeans_fragment (text : List Char) : PartMeans continued (fragment text) text := by
  have means : PartMeans continued (fragment text) (fragment text).chars := .fragment rfl
  rwa [fragment, Node.chars_leaf] at means

/-- An escape stands for what its character stands for. -/
theorem partMeans_escape {c : Char} {value : List Char} (decodes : Decodes continued c value) :
    PartMeans continued (escape c) value :=
  .escape rfl (Node.chars_leaf _ _) decodes

/-- A fragment is a simple part. -/
theorem isSimple_fragment (text : List Char) : IsSimple (fragment text) :=
  .inl rfl

/-- An escape of one character is a simple part, unless a longer escape begins with it. -/
theorem isSimple_escape {c : Char} (alone : c ∉ escapeStarts) : IsSimple (escape c) :=
  .inr ⟨rfl, c, Node.chars_leaf _ _, alone⟩

/-- A fragment is no line continuation. -/
theorem not_isContinuation_fragment (text : List Char) : ¬IsContinuation (fragment text) := by
  simp [IsContinuation, fragment]

/-- An escape of one character is a line continuation if the character ends a line. -/
theorem isContinuation_escape_iff {c : Char} :
    IsContinuation (escape c) ↔ c ∈ lineTerminators := by
  simp [IsContinuation, escape]

/-- A line feed and a plain letter may be escaped, and the literal has its value in the language. -/
theorem value_exact_escapedLetters :
    HasValue escapedLetters ['a', '\n', 'q'] ∧
      stringValue? escapedLetters = some ['a', '\n', 'q'] := by
  have parts : escapedLetters.namedChildren = [fragment ['a'], escape 'n', escape 'q'] := rfl
  have simple : ∀ part ∈ escapedLetters.namedChildren, IsSimple part := by
    simp [parts, isSimple_fragment, isSimple_escape, escapeStarts]
  have plain : ∀ part ∈ escapedLetters.namedChildren, ¬IsContinuation part := by
    simp [parts, not_isContinuation_fragment, isContinuation_escape_iff, lineTerminators]
  have meaning : HasValue escapedLetters ['a', '\n', 'q'] := by
    refine ⟨[['a'], ['\n'], ['q']], ?_, rfl⟩
    exact .cons (partMeans_fragment _) (.cons (partMeans_escape (.control (by decide)))
      (.cons (partMeans_escape (.itself (by decide) (by decide) (by decide))) .nil))
  obtain ⟨value, -, language, -, -, agree⟩ := value_exact rfl simple
  obtain rfl := (language _).mp meaning
  exact ⟨meaning, agree.mpr plain⟩

/-- Behind a line continuation the decoder has a line feed that the language does not have. -/
theorem value_continuedLine :
    continuedLine.kind = "string" ∧
      (∀ part ∈ continuedLine.namedChildren, IsSimple part) ∧
      HasValue continuedLine ['a', 'b'] ∧
      stringValue? continuedLine = some ['a', '\n', 'b'] := by
  have parts : continuedLine.namedChildren = [fragment ['a'], escape '\n', fragment ['b']] := rfl
  have simple : ∀ part ∈ continuedLine.namedChildren, IsSimple part := by
    simp [parts, isSimple_fragment, isSimple_escape, escapeStarts]
  have meaning : HasValue continuedLine ['a', 'b'] := by
    refine ⟨[['a'], [], ['b']], ?_, rfl⟩
    exact .cons (partMeans_fragment _) (.cons (partMeans_escape (.continuation (by decide)))
      (.cons (partMeans_fragment _) .nil))
  refine ⟨rfl, simple, meaning, ?_⟩
  rw [stringValue?_string rfl (by decide), parts]
  simp [partValue, fragment, escape, escapeValue, escapedChar]

end EcmaEdition.Literal
