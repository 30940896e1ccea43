import EcmaEdition.Edition.Basic
import EcmaEdition.Text.Character
import EcmaEdition.Text.Quoted
import EcmaEdition.Text.Uppercase

/-!
# Editions in user input

An edition may be written by its number (`ES7`, `7`), by its year (`ES2016`, `2016`) or as `ESNext`,
in any case and with blanks around it. Digits of every script count.
-/

set_option autoImplicit false

namespace EcmaEdition.Edition

open EcmaEdition.Text

/-- Why a text names no edition. -/
inductive ParseError where
  /-- The text has no form that an edition could have, or a number that is no edition's. -/
  | unknown (text : String)
  /-- The text is a number with more digits than are read. -/
  | tooManyDigits (count : Nat)
  deriving DecidableEq, Repr

/-- The longest number that is read. -/
def digitLimit : Nat := 4300

/-- The wording of a parse error. -/
def ParseError.message : ParseError → String
  | .unknown text => "Unknown ECMAScript edition: " ++ quote text
  | .tooManyDigits count =>
    "Exceeds the limit (" ++ toString digitLimit ++
      " digits) for integer string conversion: value has " ++ toString count ++
      " digits; use sys.set_int_max_str_digits() to increase the limit"

/-- A text in the form in which it is compared: without blanks around it, in upper case. -/
def normalize (text : List Char) : List Char :=
  upper (strip text)

/-- The digits of a text that is a row of decimal digits, possibly after `ES`. -/
def digits? (text : List Char) : Option (List Char) :=
  let digits :=
    match text with
    | 'E' :: 'S' :: rest => rest
    | _ => text
  if !digits.isEmpty && digits.all isDigit then some digits else none

/-- The numbered edition with a number or a year. Numbers above the year zero are years. -/
def ofNumber? (number : Nat) : Option Edition :=
  let rank := if number > yearZero then number - yearZero else number
  all.find? fun edition => edition ≠ .next && edition.rank == rank

/-- The edition that a text names. -/
def parse (text : String) : Except ParseError Edition :=
  let normal := normalize text.toList
  if normal = ['E', 'S', 'N', 'E', 'X', 'T'] then .ok .next
  else
    match digits? normal with
    | none => .error (.unknown text)
    | some digits =>
      if digits.length > digitLimit then .error (.tooManyDigits digits.length)
      else
        match ofNumber? (decimalValue digits) with
        | some edition => .ok edition
        | none => .error (.unknown text)

end EcmaEdition.Edition
