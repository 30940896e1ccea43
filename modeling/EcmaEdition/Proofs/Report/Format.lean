/-!
# The JSON format

The format is described here in its own right, without the way in which reports are written. A text
is read token by token. Which token comes first, and what is left behind it, is a function of the
text; a string is a row of UTF-16 units, written as characters or as escapes, and the units are
joined to characters afterwards. What the tokens mean is a relation with one rule for each form of a
value. A text has at most one value (`Reads.unique`): the first token chooses the rule, but for
arrays and objects without parts, where the second one decides.
-/

set_option autoImplicit false

namespace EcmaEdition.Json

/-- A value of the format. A number is kept as it is written. -/
inductive Value where
  | null
  | bool (value : Bool)
  | number (written : List Char)
  | string (text : String)
  | array (items : List Value)
  | object (members : List (String × Value))

/-- The white space between tokens. -/
def isSpace (c : Char) : Bool :=
  c = ' ' || c = '\t' || c = '\n' || c = '\r'

/-- The characters that are tokens by themselves. -/
def isMark (c : Char) : Bool :=
  c = '[' || c = ']' || c = '\x7b' || c = '\x7d' || c = ':' || c = ','

/-- The UTF-16 units of a character: one, or a high and a low surrogate. -/
def utf16 (c : Char) : List Nat :=
  if c.toNat < 0x10000 then [c.toNat]
  else [0xD800 + (c.toNat - 0x10000) / 0x400, 0xDC00 + (c.toNat - 0x10000) % 0x400]

/-- The text of UTF-16 units. A surrogate has to be one of a pair. -/
def joinUnits : List Nat → Option (List Char)
  | [] => some []
  | unit :: rest =>
    if 0xD800 ≤ unit ∧ unit < 0xDC00 then
      match rest with
      | low :: rest =>
        if 0xDC00 ≤ low ∧ low < 0xE000 then
          (joinUnits rest).map
            (Char.ofNat (0x10000 + (unit - 0xD800) * 0x400 + (low - 0xDC00)) :: ·)
        else none
      | [] => none
    else if 0xDC00 ≤ unit ∧ unit < 0xE000 then none
    else (joinUnits rest).map (Char.ofNat unit :: ·)

/-- The value of a hexadecimal digit. -/
def hexValue? (c : Char) : Option Nat :=
  if '0' ≤ c ∧ c ≤ '9' then some (c.toNat - '0'.toNat)
  else if 'a' ≤ c ∧ c ≤ 'f' then some (c.toNat - 'a'.toNat + 10)
  else if 'A' ≤ c ∧ c ≤ 'F' then some (c.toNat - 'A'.toNat + 10)
  else none

/-- The number that four hexadecimal digits write. -/
def hexUnit? (a b c d : Char) : Option Nat := do
  some (((← hexValue? a) * 16 + (← hexValue? b)) * 256 + (← hexValue? c) * 16 + (← hexValue? d))

/-- The unit that a letter behind a backslash stands for. -/
def letterUnit? : Char → Option Nat
  | '"' => some 0x22
  | '\\' => some 0x5C
  | '/' => some 0x2F
  | 'b' => some 0x08
  | 'f' => some 0x0C
  | 'n' => some 0x0A
  | 'r' => some 0x0D
  | 't' => some 0x09
  | _ => none

/-- The units of a string behind its opening quote, and what follows the closing one. -/
def units : List Char → Option (List Nat × List Char)
  | [] => none
  | '"' :: rest => some ([], rest)
  | '\\' :: 'u' :: a :: b :: c :: d :: rest =>
    (hexUnit? a b c d).bind fun unit => (units rest).map fun read => (unit :: read.1, read.2)
  | '\\' :: letter :: rest =>
    (letterUnit? letter).bind fun unit => (units rest).map fun read => (unit :: read.1, read.2)
  | c :: rest =>
    if c.toNat < 0x20 ∨ c = '\\' then none
    else (units rest).map fun read => (utf16 c ++ read.1, read.2)

/-- The text of a string behind its opening quote, and what follows the closing one. -/
def string? (text : List Char) : Option (String × List Char) :=
  (units text).bind fun read => (joinUnits read.1).map fun chars => (String.ofList chars, read.2)

/-- Digits, at least one of them. -/
def areDigits (run : List Char) : Bool :=
  !run.isEmpty && run.all Char.isDigit

/-- The exponent of a number, or nothing. -/
def isExponent : List Char → Bool
  | [] => true
  | e :: rest =>
    (e = 'e' || e = 'E') &&
      match rest with
      | '+' :: digits => areDigits digits
      | '-' :: digits => areDigits digits
      | digits => areDigits digits

/-- The fraction of a number, or nothing, and then the exponent. -/
def isFraction : List Char → Bool
  | '.' :: rest =>
    areDigits (rest.takeWhile Char.isDigit) && isExponent (rest.dropWhile Char.isDigit)
  | rest => isExponent rest

/-- The digits before the point of a number, and then the fraction. A leading zero stands alone. -/
def isUnsigned : List Char → Bool
  | '0' :: rest => isFraction rest
  | text => areDigits (text.takeWhile Char.isDigit) && isFraction (text.dropWhile Char.isDigit)

/-- A number with or without a sign. -/
def isNumber : List Char → Bool
  | '-' :: rest => isUnsigned rest
  | text => isUnsigned text

/-- The value of a word. -/
def word? (word : List Char) : Option Value :=
  if word = ['n', 'u', 'l', 'l'] then some .null
  else if word = ['t', 'r', 'u', 'e'] then some (.bool true)
  else if word = ['f', 'a', 'l', 's', 'e'] then some (.bool false)
  else if isNumber word then some (.number word)
  else none

/-- The characters of words. -/
def isWordChar (c : Char) : Bool :=
  !(isSpace c || isMark c || c = '"')

/-- A token: a mark, or a value that has no parts. -/
inductive Token where
  | mark (c : Char)
  | scalar (value : Value)

/-- The first token of a text, and what follows it. -/
def token? (text : List Char) : Option (Token × List Char) :=
  match text.dropWhile isSpace with
  | [] => none
  | c :: rest =>
    if c = '"' then (string? rest).map fun read => (.scalar (.string read.1), read.2)
    else if isMark c then some (.mark c, rest)
    else
      (word? ((c :: rest).takeWhile isWordChar)).map fun value =>
        (.scalar value, (c :: rest).dropWhile isWordChar)

mutual

/-- A text begins with a value, and something follows it. -/
inductive Reads : List Char → Value → List Char → Prop where
  | scalar {text rest : List Char} {value : Value}
      (here : token? text = some (.scalar value, rest)) : Reads text value rest
  | noItems {text body rest : List Char} (opens : token? text = some (.mark '[', body))
      (closes : token? body = some (.mark ']', rest)) : Reads text (.array []) rest
  | items {text body rest : List Char} {values : List Value}
      (opens : token? text = some (.mark '[', body)) (items : Items body values rest) :
      Reads text (.array values) rest
  | noMembers {text body rest : List Char} (opens : token? text = some (.mark '\x7b', body))
      (closes : token? body = some (.mark '\x7d', rest)) : Reads text (.object []) rest
  | members {text body rest : List Char} {pairs : List (String × Value)}
      (opens : token? text = some (.mark '\x7b', body)) (members : Members body pairs rest) :
      Reads text (.object pairs) rest

/-- A text begins with the items of an array and its end. -/
inductive Items : List Char → List Value → List Char → Prop where
  | last {text next rest : List Char} {value : Value} (item : Reads text value next)
      (closes : token? next = some (.mark ']', rest)) : Items text [value] rest
  | more {text next tail rest : List Char} {value : Value} {values : List Value}
      (item : Reads text value next) (comma : token? next = some (.mark ',', tail))
      (items : Items tail values rest) : Items text (value :: values) rest

/-- A text begins with the members of an object and its end. -/
inductive Members : List Char → List (String × Value) → List Char → Prop where
  | last {text named body next rest : List Char} {key : String} {value : Value}
      (name : token? text = some (.scalar (.string key), named))
      (colon : token? named = some (.mark ':', body)) (item : Reads body value next)
      (closes : token? next = some (.mark '\x7d', rest)) : Members text [(key, value)] rest
  | more {text named body next tail rest : List Char} {key : String} {value : Value}
      {pairs : List (String × Value)} (name : token? text = some (.scalar (.string key), named))
      (colon : token? named = some (.mark ':', body)) (item : Reads body value next)
      (comma : token? next = some (.mark ',', tail)) (members : Members tail pairs rest) :
      Members text ((key, value) :: pairs) rest

end

/-- A document denotes a value if the value is all that it holds but white space. -/
def Denotes (document : List Char) (value : Value) : Prop :=
  ∃ rest, Reads document value rest ∧ ∀ c ∈ rest, isSpace c = true

/-- A value never begins with a mark that closes. -/
theorem Reads.not_close {text rest after : List Char} {value : Value}
    (reads : Reads text value rest) : token? text ≠ some (.mark ']', after) := by
  intro closes
  cases reads <;> simp_all

mutual

/-- A text is read as one value, up to one place. -/
theorem Reads.unique {text rest rest' : List Char} {value value' : Value} :
    Reads text value rest → Reads text value' rest' → value = value' ∧ rest = rest'
  | .scalar here, other => by cases other <;> simp_all
  | .noItems opens closes, other => by
    cases other with
    | noItems opens' closes' => simp_all
    | items opens' items =>
      obtain rfl : _ = _ := by simpa [opens] using opens'
      cases items with
      | last item _ => exact absurd closes item.not_close
      | more item _ _ => exact absurd closes item.not_close
    | _ => simp_all
  | .items opens items, other => by
    cases other with
    | items opens' items' =>
      obtain rfl : _ = _ := by simpa [opens] using opens'
      obtain ⟨rfl, rfl⟩ := items.unique items'
      exact ⟨rfl, rfl⟩
    | noItems opens' closes =>
      obtain rfl : _ = _ := by simpa [opens] using opens'
      cases items with
      | last item _ => exact absurd closes item.not_close
      | more item _ _ => exact absurd closes item.not_close
    | _ => simp_all
  | .noMembers opens closes, other => by
    cases other with
    | noMembers opens' closes' => simp_all
    | members opens' members =>
      obtain rfl : _ = _ := by simpa [opens] using opens'
      cases members <;> simp_all
    | _ => simp_all
  | .members opens members, other => by
    cases other with
    | members opens' members' =>
      obtain rfl : _ = _ := by simpa [opens] using opens'
      obtain ⟨rfl, rfl⟩ := members.unique members'
      exact ⟨rfl, rfl⟩
    | noMembers opens' closes =>
      obtain rfl : _ = _ := by simpa [opens] using opens'
      cases members <;> simp_all
    | _ => simp_all

/-- The rest of a list is read as the same values, up to the same place. -/
theorem Items.unique {text rest rest' : List Char} {values values' : List Value} :
    Items text values rest → Items text values' rest' → values = values' ∧ rest = rest'
  | .last item closes, other => by
    cases other with
    | last item' closes' =>
      obtain ⟨rfl, rfl⟩ := item.unique item'
      simp_all
    | more item' comma _ =>
      obtain ⟨rfl, rfl⟩ := item.unique item'
      simp_all
  | .more item comma items, other => by
    cases other with
    | last item' closes' =>
      obtain ⟨rfl, rfl⟩ := item.unique item'
      simp_all
    | more item' comma' items' =>
      obtain ⟨rfl, rfl⟩ := item.unique item'
      obtain rfl : _ = _ := by simpa [comma] using comma'
      obtain ⟨rfl, rfl⟩ := items.unique items'
      exact ⟨rfl, rfl⟩

/-- The rest of an object is read as the same members, up to the same place. -/
theorem Members.unique {text rest rest' : List Char} {pairs pairs' : List (String × Value)} :
    Members text pairs rest → Members text pairs' rest' → pairs = pairs' ∧ rest = rest'
  | .last name colon item closes, other => by
    cases other with
    | last name' colon' item' closes' =>
      obtain ⟨rfl, rfl⟩ : _ ∧ _ := by simpa [name] using name'
      obtain rfl : _ = _ := by simpa [colon] using colon'
      obtain ⟨rfl, rfl⟩ := item.unique item'
      simp_all
    | more name' colon' item' comma _ =>
      obtain ⟨rfl, rfl⟩ : _ ∧ _ := by simpa [name] using name'
      obtain rfl : _ = _ := by simpa [colon] using colon'
      obtain ⟨rfl, rfl⟩ := item.unique item'
      simp_all
  | .more name colon item comma members, other => by
    cases other with
    | last name' colon' item' closes' =>
      obtain ⟨rfl, rfl⟩ : _ ∧ _ := by simpa [name] using name'
      obtain rfl : _ = _ := by simpa [colon] using colon'
      obtain ⟨rfl, rfl⟩ := item.unique item'
      simp_all
    | more name' colon' item' comma' members' =>
      obtain ⟨rfl, rfl⟩ : _ ∧ _ := by simpa [name] using name'
      obtain rfl : _ = _ := by simpa [colon] using colon'
      obtain ⟨rfl, rfl⟩ := item.unique item'
      obtain rfl : _ = _ := by simpa [comma] using comma'
      obtain ⟨rfl, rfl⟩ := members.unique members'
      exact ⟨rfl, rfl⟩

end

end EcmaEdition.Json
