import EcmaEdition.Proofs.Report.Format
import EcmaEdition.Report.Json
import Mathlib.Tactic.SplitIfs

/-!
# Written JSON is read back

The written form of a value is read as the value whatever follows it, as long as that does not go on
with a word (`reads_chars`). Indentation is white space and is skipped. The items of an array and
the members of an object are read from the left, so the statement about a list speaks of its first
element, written in some way, and of the written form of the others. What is written is in ASCII,
whatever the texts in it.
-/

set_option autoImplicit false

namespace EcmaEdition.Json

open EcmaEdition.Text

/-! ## Strings -/

/-- A hexadecimal digit is read back. -/
theorem hexValue?_hexDigit : ∀ digit < 16, hexValue? (hexDigit digit) = some digit := by
  decide

/-- Four hexadecimal digits of a unit read as the unit. -/
theorem units_unitEscape {unit : Nat} (small : unit < 0x10000) (rest : List Char) :
    units (unitEscape unit ++ rest) = (units rest).map fun read => (unit :: read.1, read.2) := by
  have first := hexValue?_hexDigit (unit / 16 / 16 / 16 % 16) (by omega)
  have second := hexValue?_hexDigit (unit / 16 / 16 % 16) (by omega)
  have third := hexValue?_hexDigit (unit / 16 % 16) (by omega)
  have fourth := hexValue?_hexDigit (unit % 16) (by omega)
  have value : hexUnit? (hexDigit (unit / 16 / 16 / 16 % 16)) (hexDigit (unit / 16 / 16 % 16))
      (hexDigit (unit / 16 % 16)) (hexDigit (unit % 16)) = some unit := by
    simp only [hexUnit?, first, second, third, fourth, Option.bind_eq_bind, Option.bind_some,
      Option.some.injEq]
    omega
  simp only [unitEscape, hexDigits, List.cons_append, List.nil_append, units, value,
    Option.bind_some]

/-- A character that is no quote, no backslash and no control character stands for itself. -/
theorem units_plain {c : Char} (quote : c ≠ '"') (backslash : c ≠ '\\') (printable : 0x20 ≤ c.toNat)
    (rest : List Char) :
    units (c :: rest) = (units rest).map fun read => (utf16 c ++ read.1, read.2) := by
  rw [units]
  · rw [if_neg (by simp [backslash]; omega)]
  · simpa using quote
  · simp [backslash]
  · simp [backslash]

/-- The characters with an escape of one letter, each with its letter. -/
def shortEscapes : List (Char × Char) :=
  [('"', '"'), ('\\', '\\'), ('\n', 'n'), ('\r', 'r'), ('\t', 't'), ('\x0c', 'f'), ('\x08', 'b')]

/-- The ways to write a character inside a string. -/
inductive Written (c : Char) : List Char → Prop
  | short {letter : Char} (listed : (c, letter) ∈ shortEscapes) : Written c ['\\', letter]
  | plain (quote : c ≠ '"') (backslash : c ≠ '\\') (printable : 0x20 ≤ c.toNat)
    (ascii : c.toNat < 0x7F) : Written c [c]
  | unit (basic : c.toNat < 0x10000) : Written c (unitEscape c.toNat)
  | pair (beyond : ¬c.toNat < 0x10000) :
    Written c (unitEscape (0xD800 + (c.toNat - 0x10000) / 0x400) ++
      unitEscape (0xDC00 + (c.toNat - 0x10000) % 0x400))

/-- A character is written in one of the forms that a string may have for it. -/
theorem written_escapeChar (c : Char) : Written c (escapeChar c) := by
  unfold escapeChar
  iterate 7
    split
    · rename_i same
      subst same
      exact .short (by decide)
  dsimp only
  split
  · rename_i printable
    exact .plain ‹_› ‹_› printable.1 printable.2
  · split
    · rename_i basic
      exact .unit basic
    · rename_i beyond
      exact .pair beyond

/-- A character is written so that its units are read. -/
theorem units_escapeChar (c : Char) (rest : List Char) :
    units (escapeChar c ++ rest) = (units rest).map fun read => (utf16 c ++ read.1, read.2) := by
  have bound : c.toNat < 0x110000 := by
    have scalar : c.toNat < 0xD800 ∨ 0xDFFF < c.toNat ∧ c.toNat < 0x110000 := c.valid
    omega
  have written := written_escapeChar c
  generalize escapeChar c = text at written
  cases written with
  | short listed =>
    simp only [shortEscapes, List.mem_cons, Prod.mk.injEq, List.not_mem_nil, or_false] at listed
    obtain ⟨rfl, rfl⟩ | ⟨rfl, rfl⟩ | ⟨rfl, rfl⟩ | ⟨rfl, rfl⟩ | ⟨rfl, rfl⟩ | ⟨rfl, rfl⟩ | ⟨rfl, rfl⟩ :=
      listed
    all_goals rfl
  | plain quote backslash printable => exact units_plain quote backslash printable rest
  | unit basic =>
    rw [units_unitEscape basic, utf16, if_pos basic]
    rfl
  | pair beyond =>
    have high : 0xD800 + (c.toNat - 0x10000) / 0x400 < 0x10000 := by omega
    have low : 0xDC00 + (c.toNat - 0x10000) % 0x400 < 0x10000 := by omega
    rw [List.append_assoc, units_unitEscape high, units_unitEscape low, utf16, if_neg beyond,
      Option.map_map]
    rfl

/-- The units of a character are joined to the character. -/
theorem joinUnits_utf16 (c : Char) (rest : List Nat) :
    joinUnits (utf16 c ++ rest) = (joinUnits rest).map (c :: ·) := by
  have scalar : c.toNat < 0xD800 ∨ 0xDFFF < c.toNat ∧ c.toNat < 0x110000 := c.valid
  unfold utf16
  split_ifs with basic
  · rw [List.singleton_append, joinUnits.eq_def]
    simp only
    rw [if_neg (by omega), if_neg (by omega), Char.ofNat_toNat]
  · have whole : 0x10000 + (0xD800 + (c.toNat - 0x10000) / 0x400 - 0xD800) * 0x400 +
        (0xDC00 + (c.toNat - 0x10000) % 0x400 - 0xDC00) = c.toNat := by omega
    simp only [List.cons_append, List.nil_append]
    rw [joinUnits.eq_def]
    simp only
    rw [if_pos (by omega), if_pos (by omega), whole, Char.ofNat_toNat]

/-- The characters of a string are read back as their units of sixteen bits, up to the closing
mark. -/
theorem units_flatMap_escapeChar (text : List Char) (rest : List Char) :
    units (text.flatMap escapeChar ++ '"' :: rest) = some (text.flatMap utf16, rest) := by
  induction text with
  | nil => rfl
  | cons c text ih =>
    rw [List.flatMap_cons, List.append_assoc, units_escapeChar, ih]
    rfl

/-- The units of a text are joined into the text. -/
theorem joinUnits_flatMap_utf16 (text : List Char) :
    joinUnits (text.flatMap utf16) = some text := by
  induction text with
  | nil => rfl
  | cons c text ih =>
    rw [List.flatMap_cons, joinUnits_utf16, ih]
    rfl

/-- A string is read back, whatever follows it. -/
theorem token?_stringChars (text : String) (rest : List Char) :
    token? (stringChars text ++ rest) = some (.scalar (.string text), rest) := by
  have read : string? (text.toList.flatMap escapeChar ++ '"' :: rest) = some (text, rest) := by
    rw [string?, units_flatMap_escapeChar, Option.bind_some, joinUnits_flatMap_utf16,
      Option.map_some, String.ofList_toList]
  have start : isSpace '"' = false := rfl
  rw [stringChars, List.cons_append, List.cons_append, List.append_assoc, List.singleton_append,
    token?, List.dropWhile_cons_of_neg (by simp [start])]
  simp only [if_true, read, Option.map_some]

/-! ## Written values -/

mutual

/-- A value of a report as a value of the format. -/
def value : Json → Value
  | .null => .null
  | .string text => .string text
  | .array items => .array (values items)
  | .object members => .object (memberValues members)

/-- The items of an array as values of the format. -/
def values : List Json → List Value
  | [] => []
  | item :: rest => value item :: values rest

/-- The members of an object as values of the format. -/
def memberValues : List (String × Json) → List (String × Value)
  | [] => []
  | (key, item) :: rest => (key, value item) :: memberValues rest

end

/-- A text does not go on with a word. -/
def Stops (text : List Char) : Prop :=
  ∀ c ∈ text.head?, isWordChar c = false

/-- White space before a token is skipped. -/
theorem token?_space {c : Char} (space : isSpace c = true) (text : List Char) :
    token? (c :: text) = token? text := by
  rw [token?, token?, List.dropWhile_cons_of_pos space]

/-- A new line with its indentation is skipped before a token. -/
@[simp] theorem token?_newLine (level : Nat) (text : List Char) :
    token? (newLine level ++ text) = token? text := by
  rw [newLine, List.cons_append, token?_space rfl]
  generalize 2 * level = width
  induction width with
  | zero => rfl
  | succ width ih => rw [List.replicate_succ, List.cons_append, token?_space rfl, ih]

/-- A mark is a token by itself. -/
theorem token?_mark {c : Char} (mark : isMark c = true) (text : List Char) :
    token? (c :: text) = some (.mark c, text) := by
  simp only [isMark, Bool.or_eq_true, decide_eq_true_eq] at mark
  obtain ((((rfl | rfl) | rfl) | rfl) | rfl) | rfl := mark <;> rfl

/-- A text that begins with a word has the value of the longest word as its token. -/
theorem token?_of_isWordChar {c : Char} (inside : isWordChar c = true) (text : List Char) :
    token? (c :: text) =
      (word? ((c :: text).takeWhile isWordChar)).map fun value =>
        (.scalar value, (c :: text).dropWhile isWordChar) := by
  simp only [isWordChar, Bool.not_eq_true', Bool.or_eq_false_iff, decide_eq_false_iff_not] at inside
  obtain ⟨⟨space, mark⟩, quote⟩ := inside
  rw [token?, List.dropWhile_cons_of_neg (by simp [space])]
  simp only [quote, mark, if_false, Bool.false_eq_true]

/-- The word for no value is read if nothing makes the word longer. -/
theorem token?_null {rest : List Char} (stops : Stops rest) :
    token? (['n', 'u', 'l', 'l'] ++ rest) = some (.scalar .null, rest) := by
  have word : ∀ c ∈ ['n', 'u', 'l', 'l'], isWordChar c = true := by
    simp only [List.forall_mem_cons]
    exact ⟨rfl, rfl, rfl, rfl, List.forall_mem_nil _⟩
  have ends : rest.takeWhile isWordChar = [] ∧ rest.dropWhile isWordChar = rest := by
    cases rest with
    | nil => exact ⟨rfl, rfl⟩
    | cons c rest =>
      have outside : ¬isWordChar c = true := by simp [stops c rfl]
      exact ⟨List.takeWhile_cons_of_neg outside, List.dropWhile_cons_of_neg outside⟩
  rw [List.cons_append, token?_of_isWordChar (by decide), ← List.cons_append,
    List.takeWhile_append_of_pos word, List.dropWhile_append_of_pos word, ends.1, ends.2]
  rfl

/-- White space before a value is skipped. -/
theorem Reads.of_token?_eq {text text' rest : List Char} {value : Value}
    (reads : Reads text value rest) (same : token? text' = token? text) :
    Reads text' value rest := by
  cases reads with
  | scalar here => exact .scalar (same.trans here)
  | noItems opens closes => exact .noItems (same.trans opens) closes
  | items opens items => exact .items (same.trans opens) items
  | noMembers opens closes => exact .noMembers (same.trans opens) closes
  | members opens members => exact .members (same.trans opens) members

/-- A word ends before a mark. -/
theorem stops_mark {c : Char} (mark : isMark c = true) (text : List Char) : Stops (c :: text) := by
  simp [Stops, isWordChar, mark]

/-- A word ends before a new line. -/
theorem stops_newLine (level : Nat) (text : List Char) : Stops (newLine level ++ text) := by
  simp [Stops, newLine, isWordChar, isSpace]

mutual

/-- A value that is written is read back. -/
theorem reads_chars (level : Nat) (rest : List Char) (stops : Stops rest) :
    ∀ json : Json, Reads (chars level json ++ rest) (value json) rest
  | .null => by
    rw [chars, value]
    exact .scalar (token?_null stops)
  | .string text => by
    rw [chars, value]
    exact .scalar (token?_stringChars text rest)
  | .array [] => by
    rw [chars, value, values]
    exact .noItems (token?_mark rfl _) (token?_mark rfl _)
  | .array (item :: items) => by
    rw [chars, value, values]
    have tail := reads_items (level + 1) level rest items
      (newLine (level + 1) ++ chars (level + 1) item) (value item) fun after stops => by
        have read := reads_chars (level + 1) after stops item
        refine read.of_token?_eq ?_
        rw [List.append_assoc, token?_newLine]
    simp only [List.append_assoc, List.cons_append, List.nil_append] at tail ⊢
    exact .items (token?_mark rfl _) tail
  | .object [] => by
    rw [chars, value, memberValues]
    exact .noMembers (token?_mark rfl _) (token?_mark rfl _)
  | .object ((key, item) :: members) => by
    rw [chars, value, memberValues]
    have tail := reads_members (level + 1) level rest members
      (newLine (level + 1) ++ stringChars key) key (chars (level + 1) item) (value item)
      (fun after => by rw [List.append_assoc, token?_newLine, token?_stringChars])
      fun after stops => reads_chars (level + 1) after stops item
    simp only [List.append_assoc, List.cons_append, List.nil_append] at tail ⊢
    exact .members (token?_mark rfl _) tail

/-- The items of an array are read back, given that the first one is. -/
theorem reads_items (level closing : Nat) (rest : List Char) :
    ∀ (items : List Json) (first : List Char) (firstValue : Value),
      (∀ after, Stops after → Reads (first ++ after) firstValue after) →
      Items (first ++ itemChars level items ++ newLine closing ++ ']' :: rest)
        (firstValue :: values items) rest
  | [], first, firstValue, read => by
    rw [itemChars, values, List.append_nil, List.append_assoc]
    exact .last (read _ (stops_newLine _ _)) (by rw [token?_newLine, token?_mark rfl])
  | next :: items, first, firstValue, read => by
    rw [itemChars, values]
    have tail := reads_items level closing rest items (newLine level ++ chars level next)
      (value next) fun after stops => by
        refine (reads_chars level after stops next).of_token?_eq ?_
        rw [List.append_assoc, token?_newLine]
    have here := read (',' :: (newLine level ++ chars level next ++ itemChars level items ++
      newLine closing ++ ']' :: rest)) (stops_mark rfl _)
    simp only [List.append_assoc, List.cons_append] at here tail ⊢
    exact .more here (token?_mark rfl _) tail

/-- The members of an object are read back, given that the first one is. -/
theorem reads_members (level closing : Nat) (rest : List Char) :
    ∀ (members : List (String × Json)) (name : List Char) (key : String) (first : List Char)
      (firstValue : Value),
      (∀ after, token? (name ++ after) = some (.scalar (.string key), after)) →
      (∀ after, Stops after → Reads (first ++ after) firstValue after) →
      Members (name ++ [':', ' '] ++ first ++ memberChars level members ++ newLine closing ++
        '\x7d' :: rest) ((key, firstValue) :: memberValues members) rest
  | [], name, key, first, firstValue, named, read => by
    rw [memberChars, memberValues, List.append_nil]
    have here := read (newLine closing ++ '\x7d' :: rest) (stops_newLine _ _)
    simp only [List.append_assoc, List.cons_append, List.nil_append]
    refine .last (named _) (token?_mark rfl _) (here.of_token?_eq (token?_space rfl _)) ?_
    rw [token?_newLine, token?_mark rfl]
  | (nextKey, next) :: members, name, key, first, firstValue, named, read => by
    rw [memberChars, memberValues]
    have tail := reads_members level closing rest members (newLine level ++ stringChars nextKey)
      nextKey (chars level next) (value next)
      (fun after => by rw [List.append_assoc, token?_newLine, token?_stringChars])
      fun after stops => reads_chars level after stops next
    have here := read (',' :: (newLine level ++ stringChars nextKey ++ [':', ' '] ++
      chars level next ++ memberChars level members ++ newLine closing ++ '\x7d' :: rest))
      (stops_mark rfl _)
    simp only [List.append_assoc, List.cons_append, List.nil_append] at here tail ⊢
    exact .more (named _) (token?_mark rfl _) (here.of_token?_eq (token?_space rfl _))
      (token?_mark rfl _) tail

end

/-- White space is no part of a word. -/
theorem isWordChar_of_isSpace {c : Char} (space : isSpace c = true) : isWordChar c = false := by
  simp [isWordChar, space]

/-- A document and white space behind it denote the value that was written, and no other. -/
theorem denotes_chars_iff (json : Json) {blank : List Char} (spaces : ∀ c ∈ blank, isSpace c = true)
    (other : Value) : Denotes (chars 0 json ++ blank) other ↔ other = value json := by
  have stops : Stops blank := by
    intro c first
    exact isWordChar_of_isSpace (spaces c (List.mem_of_mem_head? first))
  have read := reads_chars 0 blank stops json
  constructor
  · rintro ⟨rest, reads, -⟩
    exact (reads.unique read).1
  · rintro rfl
    exact ⟨blank, read, spaces⟩

/-! ## ASCII -/

/-- All characters of a text are in ASCII. -/
def IsAscii (text : List Char) : Prop :=
  ∀ c ∈ text, c.toNat < 0x80

/-- The empty text is ASCII. -/
@[simp] theorem isAscii_nil : IsAscii [] := by
  simp [IsAscii]

/-- A text is ASCII if its first character and the others are. -/
@[simp] theorem isAscii_cons (c : Char) (text : List Char) :
    IsAscii (c :: text) ↔ c.toNat < 0x80 ∧ IsAscii text := by
  simp [IsAscii]

/-- Two texts are ASCII together if each of them is. -/
@[simp] theorem isAscii_append (front back : List Char) :
    IsAscii (front ++ back) ↔ IsAscii front ∧ IsAscii back := by
  simp [IsAscii, or_imp, forall_and]

/-- A hexadecimal digit is ASCII. -/
theorem hexDigit_lt : ∀ digit < 16, (hexDigit digit).toNat < 0x80 := by
  decide

/-- The escape of a unit is ASCII. -/
theorem isAscii_unitEscape (unit : Nat) : IsAscii (unitEscape unit) := by
  have digit : ∀ number, (hexDigit (number % 16)).toNat < 0x80 := fun number =>
    hexDigit_lt _ (by omega)
  simp [unitEscape, hexDigits, digit]

/-- A character is written in ASCII. -/
theorem isAscii_escapeChar (c : Char) : IsAscii (escapeChar c) := by
  have letters : shortEscapes.all (fun pair => pair.2.toNat < 0x80) = true := by decide
  have written := written_escapeChar c
  generalize escapeChar c = text at written
  cases written with
  | short listed => simpa using List.all_eq_true.mp letters _ listed
  | plain quote backslash printable ascii =>
    simp only [isAscii_cons, isAscii_nil, and_true]
    omega
  | unit => exact isAscii_unitEscape _
  | pair => simp [isAscii_unitEscape]

/-- A string is written in ASCII. -/
@[simp] theorem isAscii_stringChars (text : String) : IsAscii (stringChars text) := by
  have inner : IsAscii (text.toList.flatMap escapeChar) := by
    intro c member
    obtain ⟨source, -, inside⟩ := List.mem_flatMap.mp member
    exact isAscii_escapeChar source c inside
  simp [stringChars, inner]

/-- A new line with its indentation is ASCII. -/
@[simp] theorem isAscii_newLine (level : Nat) : IsAscii (newLine level) := by
  have spaces : IsAscii (List.replicate (2 * level) ' ') := by
    intro c member
    rw [List.eq_of_mem_replicate member]
    decide
  simp [newLine, spaces]

mutual

/-- Whatever the texts in it, a value is written in ASCII. -/
theorem isAscii_chars (level : Nat) : ∀ json : Json, IsAscii (chars level json)
  | .null => by simp [chars]
  | .string text => by simp [chars]
  | .array [] => by simp [chars]
  | .array (item :: items) => by
    simp [chars, isAscii_chars (level + 1) item, isAscii_itemChars (level + 1) items]
  | .object [] => by simp [chars]
  | .object ((key, item) :: members) => by
    simp [chars, isAscii_chars (level + 1) item, isAscii_memberChars (level + 1) members]

/-- The items of a list are written in ASCII. -/
theorem isAscii_itemChars (level : Nat) : ∀ items : List Json, IsAscii (itemChars level items)
  | [] => by simp [itemChars]
  | item :: items => by
    simp [itemChars, isAscii_chars level item, isAscii_itemChars level items]

/-- The members of an object are written in ASCII. -/
theorem isAscii_memberChars (level : Nat) :
    ∀ members : List (String × Json), IsAscii (memberChars level members)
  | [] => by simp [memberChars]
  | (key, item) :: members => by
    simp [memberChars, isAscii_chars level item, isAscii_memberChars level members]

end

end EcmaEdition.Json
