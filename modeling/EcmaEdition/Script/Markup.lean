import EcmaEdition.Script.Literal

/-!
# Markup

Elements of markup in the place of an operand. They are read so that a program with markup in it can
be told from one that makes no sense.
-/

set_option autoImplicit false

namespace EcmaEdition.Script

open EcmaEdition.Text Scan

/-- A character that may stand in a name with hyphens. -/
def isHyphenated (c : Char) : Bool :=
  isLetter c || isDecimal c || c = '_' || c = '$' || c = '-'

/-- The length of a name in markup, which may have hyphens. -/
def markupNameLength (text : List Glyph) : Nat :=
  let length := nameLength text
  let rest := text.drop length
  if length > 0 && opensWith rest ['-'] then length + runLength isHyphenated rest else length

/-- The length of a character reference from `&` to the semicolon. -/
def referenceLength (text : List Glyph) : Nat :=
  let closed (count length : Nat) : Nat :=
    if count > 0 && opensWith (text.drop length) [';'] then length + 1 else 0
  if isAt text "&#x" || isAt text "&#X" then
    let count := runLength isHexadecimal ((text.drop 3).take 6)
    closed count (3 + count)
  else if isAt text "&#" then
    let count := runLength isDecimal ((text.drop 2).take 5)
    closed count (2 + count)
  else if isAt text "&" then
    let count := runLength isLetter ((text.drop 1).take 30)
    closed count (1 + count)
  else 0

/-- A name in markup as a node of a kind. -/
def markupName (kind : String) : Scan Node := do
  let length := markupNameLength (← ahead)
  require (length > 0)
  leaf kind true length

/-- A name with a second one behind a colon if a colon follows. -/
def withNamespace (start : Cursor) (name : Node) : Scan Node := do
  if ← markFollows ":" then
    let colon ← mark ":"
    let rest ← within (markupName "identifier")
    close "jsx_namespace_name" start (name :: colon ++ rest)
  else return name

/-- The name of an element: a name, names with points between them, or two names with a colon
between them. -/
def elementName : Scan Node := do
  let start ← get
  let name ← markupName "identifier"
  let path ← dotted start name
  if path.kind = "identifier" then withNamespace start path else return path

/-- Expressions or a spread between braces, or nothing. -/
def embedded (read : Reader) : Scan Node :=
  build "jsx_expression" do
    let opening ← markHere "\x7b"
    let content ←
      if ← markFollows "\x7d" then pure []
      else
        within do
          if isAt (← ahead) "..." then settle (← spread read) else expressions read {}
    return opening :: content ++ (← mark "\x7d")

/-- A string in markup, which has character references in the place of escapes. -/
def markupString : Scan Node :=
  build "string" do
    let quote ← ofOption (← peek)
    require (quote = '"' || quote = '\'')
    let opening ← leaf quote.toString false 1
    let parts ← collect do
      let text ← ahead
      match runLength (fun c => c ≠ quote && c ≠ '&') text with
      | 0 =>
        match referenceLength text with
        | 0 =>
          let next := ((text.drop 1).head?.map Glyph.char).getD '#'
          if opensWith text ['&'] && next ≠ '#' && !isLetter next then
            return some [← leaf "string_fragment" true 1]
          else return none
        | length => return some [← leaf "html_character_reference" true length]
      | length => return some [← leaf "string_fragment" true length]
    return opening :: parts ++ [← markHere quote.toString]

/-- An attribute: an embedded spread or a name, perhaps with a value. -/
def markupAttribute (read : Reader) : Scan Node := do
  if isAt (← ahead) "\x7b" then embedded read
  else
    build "jsx_attribute" do
      let start ← get
      let name ← withNamespace start (← markupName "property_identifier")
      if ← markFollows "=" then
        let sign ← mark "="
        let value ← within do
          let text ← ahead
          if isAt text "\x7b" then embedded read
          else if isAt text "<" then read .markup
          else markupString
        return name :: sign ++ value
      else return [name]

/-- The name and the attributes of an element, up to the end of its tag. A fragment has neither. -/
def tagContent (read : Reader) : Scan (List Node) := do
  if ← markFollows ">" then return []
  else
    let name ← field "name" elementName
    let attributes ← collect do
      if (← markFollows ">") || (← markFollows "/>") then return none
      else return some (← within (markupAttribute read))
    return name ++ attributes

/-- The tag that closes an element. -/
def closingTag : Scan Node :=
  build "jsx_closing_element" do
    let opening ← markHere "</"
    let name ← if ← markFollows ">" then pure [] else field "name" elementName
    return opening :: name ++ (← mark ">")

/-- A character of the text inside an element, which neither opens nor closes anything. -/
def isMarkupText (c : Char) : Bool :=
  !"<>\x7b\x7d&".toList.contains c

/-- What stands inside an element: text, character references, embedded expressions and elements. -/
def content (read : Reader) : Scan (List Node) :=
  collect do
    let text ← ahead
    match runLength isMarkupText text with
    | 0 =>
      if isAt text "</" then return none
      else if isAt text "<" then return some [← read .markup]
      else if isAt text "\x7b" then return some [← embedded read]
      else
        let length := referenceLength text
        require (length > 0)
        return some [← leaf "html_character_reference" true length]
    | length => return some [← leaf "jsx_text" true length]

/-- An element or a fragment. -/
def markup (read : Reader) : Scan Node := do
  let start ← get
  let opening ← markHere "<"
  let tag ← tagContent read
  if ← markFollows "/>" then
    require !tag.isEmpty
    close "jsx_self_closing_element" start (opening :: tag ++ (← mark "/>"))
  else
    let stop ← mark ">"
    let openingTag ← close "jsx_opening_element" start (opening :: tag ++ stop)
    let content ← content read
    close "jsx_element" start (openingTag :: content ++ [← closingTag])

end EcmaEdition.Script
