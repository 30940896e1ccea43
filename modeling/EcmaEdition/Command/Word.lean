import EcmaEdition.Text.Character

/-!
# Words of a command line

A command line is a list of words, each of which is an operand, the separator `--`, or an option. An
option may be written in full, by a prefix that fits one option alone, with a value after an equals
sign, and, for one-letter options, several in one word. Which options there are is a table, in the
order in which ambiguities are reported.
-/

set_option autoImplicit false

namespace EcmaEdition.Command

/-- What an option does. -/
inductive Action where
  | help | verbose | tolerant | format | target
  deriving DecidableEq, Repr

/-- An option as messages name it. -/
def Action.display : Action → String
  | .help => "-h/--help"
  | .verbose => "-v/--verbose"
  | .tolerant => "--tolerant"
  | .format => "--format"
  | .target => "--target"

/-- Whether an option has a value. -/
def Action.takesValue : Action → Bool
  | .format | .target => true
  | _ => false

/-- The names of the options of a command. -/
abbrev OptionTable := List (String × Action)

/-- The option with a name. -/
def OptionTable.find? (table : OptionTable) (name : List Char) : Option Action :=
  (List.find? (·.1.toList == name) table).map Prod.snd

/-- A text that follows an option within its word, and whether an equals sign precedes it. -/
structure Attached where
  afterEquals : Bool
  text : List Char
  deriving DecidableEq, Repr

/-- An option as it was recognised in a word. -/
structure Recognised where
  action : Action
  name : String
  attached : Option Attached
  deriving DecidableEq, Repr

/-- A word of a command line, with what it was read from. -/
inductive Word where
  /-- A word that is no option. -/
  | operand (text : String)
  /-- The first `--`, after which there are only operands. -/
  | separator
  /-- An option of the table. -/
  | option (text : String) (recognised : Recognised)
  /-- A word that looks like an option and is in no table. -/
  | unknown (text : String)
  deriving DecidableEq, Repr

/-- What a word was read from. -/
def Word.text : Word → String
  | .operand text => text
  | .separator => "--"
  | .option text _ => text
  | .unknown text => text

/-- The characters before and after the first equals sign. -/
def splitEquals (word : List Char) : List Char × Option (List Char) :=
  match word.dropWhile (· ≠ '=') with
  | [] => (word, none)
  | _ :: value => (word.takeWhile (· ≠ '='), some value)

/-- The text after an equals sign, attached to an option. -/
def attachedValue (value : Option (List Char)) : Option Attached :=
  value.map fun text => ⟨true, text⟩

/-- A negative number: a hyphen and digits, possibly with a point before the last of them. A line
break at the end is ignored. -/
def isNegativeNumber (word : List Char) : Bool :=
  let word := if word.getLast? == some '\n' then word.dropLast else word
  match word with
  | '-' :: digits =>
    match digits.dropWhile Text.isDigit with
    | [] => !digits.isEmpty
    | '.' :: rest => !rest.isEmpty && rest.all Text.isDigit
    | _ => false
  | _ => false

/-- The options that a word which is no option's full name may stand for: those that a long prefix
fits, or the one-letter option at the word's beginning. -/
def candidates (table : OptionTable) (word : List Char) : List Recognised :=
  match word with
  | '-' :: '-' :: _ =>
    let (start, value) := splitEquals word
    (table.filter fun entry => start.isPrefixOf entry.1.toList).map fun entry =>
      ⟨entry.2, entry.1, attachedValue value⟩
  | '-' :: letter :: rest =>
    table.filterMap fun entry =>
      if entry.1.toList = ['-', letter] then some ⟨entry.2, entry.1, some ⟨false, rest⟩⟩
      else if word.isPrefixOf entry.1.toList then some ⟨entry.2, entry.1, none⟩
      else none
  | _ => []

/-- The option whose full name a word is, or has before an equals sign. -/
def spelled? (table : OptionTable) (word : List Char) : Option Recognised :=
  match table.find? word with
  | some action => some ⟨action, String.ofList word, none⟩
  | none =>
    match splitEquals word with
    | (_, none) => none
    | (name, some value) =>
      (table.find? name).map fun action => ⟨action, String.ofList name, some ⟨true, value⟩⟩

/-- A word fits several options. -/
structure Ambiguity where
  word : String
  options : List String
  deriving DecidableEq, Repr

/-- Reads one word before any separator. -/
def readWord (table : OptionTable) (text : String) : Except Ambiguity Word :=
  let word := text.toList
  match word with
  | '-' :: _ :: _ =>
    match spelled? table word with
    | some recognised => .ok (.option text recognised)
    | none =>
      match candidates table word with
      | [recognised] => .ok (.option text recognised)
      | [] =>
        if isNegativeNumber word || word.contains ' ' then .ok (.operand text)
        else .ok (.unknown text)
      | several => .error ⟨text, several.map Recognised.name⟩
  | _ => .ok (.operand text)

/-- Reads the words of a command line. An ambiguity anywhere before the separator stops it. -/
def readWords (table : OptionTable) : List String → Except Ambiguity (List Word)
  | [] => .ok []
  | text :: rest =>
    if text = "--" then .ok (.separator :: rest.map .operand)
    else
      match readWord table text with
      | .error ambiguity => .error ambiguity
      | .ok word =>
        match readWords table rest with
        | .error ambiguity => .error ambiguity
        | .ok words => .ok (word :: words)

end EcmaEdition.Command
