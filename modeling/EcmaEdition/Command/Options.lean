import EcmaEdition.Command.Word
import EcmaEdition.Edition.Parse

/-!
# Options of the command

The program has one command, `check`, with one operand, the file to look at. Words before `check`
belong to the program and words after it to the command; both take `-v` and `-h`. Options and the
operand may come in any order, and what nobody asked for is reported once all else has been read.
-/

set_option autoImplicit false

namespace EcmaEdition.Command

open EcmaEdition.Text

/-- How a report is written. -/
inductive Format where
  | text | json
  deriving DecidableEq, Repr

/-- The name of a format. -/
def Format.name : Format → String
  | .text => "text"
  | .json => "json"

/-- All formats, in the order in which messages list them. -/
def Format.all : List Format := [.text, .json]

/-- What `check` was asked to do. -/
structure Options where
  input : String
  tolerant : Bool := false
  format : Format := .text
  target : Option Edition := none
  verbose : Bool := false
  deriving DecidableEq, Repr

/-- The two levels of the command line, each with its own help. -/
inductive Level where
  | program | check
  deriving DecidableEq, Repr

/-- What is wrong with a command line. -/
inductive UsageError where
  | ambiguous (ambiguity : Ambiguity)
  | valueExpected (action : Action)
  | valueIgnored (action : Action) (value : List Char)
  | invalidChoice (argument value : String) (choices : List String)
  | invalidTarget (reason : Edition.ParseError)
  | inputRequired
  | unrecognized (words : List String)
  deriving DecidableEq, Repr

/-- The wording of a usage error. -/
def UsageError.message : UsageError → String
  | .ambiguous ⟨word, options⟩ =>
    "ambiguous option: " ++ word ++ " could match " ++ ", ".intercalate options
  | .valueExpected action => "argument " ++ action.display ++ ": expected one argument"
  | .valueIgnored action value =>
    "argument " ++ action.display ++ ": ignored explicit argument " ++
      String.ofList (quoted value)
  | .invalidChoice argument value choices =>
    "argument " ++ argument ++ ": invalid choice: " ++ quote value ++ " (choose from " ++
      ", ".intercalate (choices.map quote) ++ ")"
  | .invalidTarget reason => "argument " ++ Action.target.display ++ ": " ++ reason.message
  | .inputRequired => "the following arguments are required: input"
  | .unrecognized words => "unrecognized arguments: " ++ " ".intercalate words

/-- Why the reading of a command line ended early. -/
inductive Stop where
  | help (level : Level)
  | failed (level : Level) (error : UsageError)
  deriving DecidableEq, Repr

/-- What a readable command line asks for. -/
inductive Request where
  | check (options : Options)
  | nothing (verbose : Bool)
  deriving DecidableEq, Repr

/-- The options of the program. -/
def programTable : OptionTable :=
  [("-h", .help), ("--help", .help), ("-v", .verbose), ("--verbose", .verbose)]

/-- The options of `check`. -/
def checkTable : OptionTable :=
  [("-h", .help), ("--help", .help), ("--tolerant", .tolerant), ("--format", .format),
    ("--target", .target), ("-v", .verbose), ("--verbose", .verbose)]

/-- The options of a level. -/
def Level.table : Level → OptionTable
  | .program => programTable
  | .check => checkTable

/-- What has been read at one level so far. -/
structure Draft where
  input : Option String := none
  tolerant : Bool := false
  format : Format := .text
  target : Option Edition := none
  verbose : Bool := false
  /-- The words that nobody asked for, in order. -/
  extras : List String := []

namespace Draft

/-- Notes a word that nobody asked for. -/
def addExtra (draft : Draft) (word : String) : Draft :=
  { draft with extras := draft.extras ++ [word] }

/-- Applies an option that has no value. -/
def applyFlag (draft : Draft) (level : Level) : Action → Except Stop Draft
  | .help => .error (.help level)
  | .verbose => .ok { draft with verbose := true }
  | .tolerant => .ok { draft with tolerant := true }
  | .format | .target => .ok draft

/-- Applies several options without values, one after the other. -/
def applyFlags (draft : Draft) (level : Level) : List Action → Except Stop Draft
  | [] => .ok draft
  | action :: rest =>
    match draft.applyFlag level action with
    | .ok next => next.applyFlags level rest
    | .error stop => .error stop

/-- Applies an option to its value. -/
def applyValue (draft : Draft) (level : Level) (action : Action) (value : String) :
    Except Stop Draft :=
  match action with
  | .format =>
    match Format.all.find? (·.name == value) with
    | some format => .ok { draft with format }
    | none =>
      .error (.failed level
        (.invalidChoice action.display value (Format.all.map Format.name)))
  | .target =>
    match Edition.parse value with
    | .ok edition => .ok { draft with target := some edition }
    | .error reason => .error (.failed level (.invalidTarget reason))
  | _ => .ok draft

end Draft

/-- The flags of a word that begins with a one-letter flag, and what is left of the word when a
letter is no flag. An equals sign or a hyphen after a flag is a value, which flags do not take. -/
def splitFlags (table : OptionTable) (action : Action) (afterEquals : Bool) :
    List Char → Except UsageError (List Action × Option String)
  | [] => .error (.valueIgnored action [])
  | letter :: rest =>
    if afterEquals || letter = '-' then .error (.valueIgnored action (letter :: rest))
    else
      match table.find? ['-', letter] with
      | none => .ok ([action], some (String.ofList ('-' :: letter :: rest)))
      | some next =>
        match rest with
        | [] => .ok ([action, next], none)
        | '=' :: value => .error (.valueIgnored next value)
        | rest =>
          match splitFlags table next false rest with
          | .ok (actions, extra) => .ok (action :: actions, extra)
          | .error error => .error error

/-- Whether an option is named by a hyphen and one letter. -/
def isShort (name : String) : Bool :=
  match name.toList with
  | ['-', letter] => letter ≠ '-'
  | _ => false

/-- Applies an option with a text attached to it. -/
def applyAttached (draft : Draft) (level : Level) (option : Recognised) (attached : Attached) :
    Except Stop Draft :=
  if option.action.takesValue then
    draft.applyValue level option.action (String.ofList attached.text)
  else if isShort option.name then
    match splitFlags level.table option.action attached.afterEquals attached.text with
    | .error error => .error (.failed level error)
    | .ok (actions, extra) =>
      let draft :=
        match extra with
        | some word => draft.addExtra word
        | none => draft
      draft.applyFlags level actions
  else .error (.failed level (.valueIgnored option.action attached.text))

/-- Reads the words of `check`. The first operand is the input, and a separator right before or
after it belongs to it. -/
def readCheck (draft : Draft) (words : List Word) : Except Stop Draft :=
  match words with
  | [] => .ok draft
  | .operand text :: rest =>
    if draft.input.isSome then readCheck (draft.addExtra text) rest
    else
      match rest with
      | .separator :: rest => readCheck { draft with input := some text } rest
      | rest => readCheck { draft with input := some text } rest
  | .separator :: rest =>
    if draft.input.isSome then readCheck (draft.addExtra "--") rest
    else
      match rest with
      | .operand text :: rest => readCheck { draft with input := some text } rest
      | rest => readCheck (draft.addExtra "--") rest
  | .unknown text :: rest => readCheck (draft.addExtra text) rest
  | .option _ option :: rest =>
    match option.attached with
    | some attached =>
      match applyAttached draft .check option attached with
      | .ok next => readCheck next rest
      | .error stop => .error stop
    | none =>
      if option.action.takesValue then
        match rest with
        | .operand value :: rest =>
          match draft.applyValue .check option.action value with
          | .ok next => readCheck next rest
          | .error stop => .error stop
        | _ => .error (.failed .check (.valueExpected option.action))
      else
        match draft.applyFlag .check option.action with
        | .ok next => readCheck next rest
        | .error stop => .error stop
termination_by words.length
decreasing_by all_goals simp +arith

/-- What the words after `check` come to. The input is required. -/
def parseCheck (words : List String) : Except Stop Draft :=
  match readWords checkTable words with
  | .error ambiguity => .error (.failed .check (.ambiguous ambiguity))
  | .ok words =>
    match readCheck {} words with
    | .error stop => .error stop
    | .ok draft =>
      if draft.input.isNone then .error (.failed .check .inputRequired) else .ok draft

/-- The commands that the program has. -/
def commands : List String := ["check"]

/-- The refusal of a command that the program does not have. -/
def unknownCommand (name : String) : Stop :=
  .failed .program (.invalidChoice "command" name commands)

/-- The request of a command line once all words are read. Words that nobody asked for are an error
of the program, wherever they stood. -/
def finish (program : Draft) (check : Option Draft) : Except Stop Request :=
  let extras := program.extras ++ (check.map Draft.extras).getD []
  if !extras.isEmpty then .error (.failed .program (.unrecognized extras))
  else
    match check with
    | none => .ok (.nothing program.verbose)
    | some draft =>
      .ok (.check {
        input := draft.input.getD ""
        tolerant := draft.tolerant
        format := draft.format
        target := draft.target
        verbose := program.verbose || draft.verbose })

/-- Reads the words of the program. The first operand is the command, to which all further words
belong; a separator cannot be a command. -/
def readProgram (draft : Draft) : List Word → Except Stop Request
  | [] => finish draft none
  | .operand name :: rest =>
    if commands.contains name then
      match parseCheck (rest.map Word.text) with
      | .ok check => finish draft (some check)
      | .error stop => .error stop
    else .error (unknownCommand name)
  | .separator :: rest =>
    if rest.isEmpty then finish (draft.addExtra "--") none else .error (unknownCommand "--")
  | .unknown text :: rest => readProgram (draft.addExtra text) rest
  | .option _ option :: rest =>
    match option.attached with
    | some attached =>
      match applyAttached draft .program option attached with
      | .ok next => readProgram next rest
      | .error stop => .error stop
    | none =>
      match draft.applyFlag .program option.action with
      | .ok next => readProgram next rest
      | .error stop => .error stop

/-- What a command line asks for. -/
def parse (words : List String) : Except Stop Request :=
  match readWords programTable words with
  | .error ambiguity => .error (.failed .program (.ambiguous ambiguity))
  | .ok words => readProgram {} words

end EcmaEdition.Command
