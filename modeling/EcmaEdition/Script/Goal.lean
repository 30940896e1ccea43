import EcmaEdition.Script.Target
import EcmaEdition.Script.Token

/-!
# What a construct contains

Statements contain expressions, expressions contain functions, and functions contain statements. The
scan for each construct is therefore given a reader for the constructs inside it. This module names
what a reader can be asked for, and has the scans for expressions with commas between them.
-/

set_option autoImplicit false

namespace EcmaEdition.Script

open EcmaEdition.Text Scan

/-- A construct that others contain. -/
inductive Goal where
  /-- A statement or a declaration. -/
  | statement
  /-- Statements between braces. -/
  | block
  /-- An expression without commas outside of brackets. It may still turn out to be a target. -/
  | assignment (context : Context)
  /-- What binary operators stand between. It may still turn out to be a target. -/
  | operand (context : Context)
  /-- What the operator `new` is applied to, without the arguments. -/
  | construction
  /-- An element of markup. -/
  | markup
  deriving DecidableEq, Repr

/-- What reads the constructs inside another one. -/
abbrev Reader := Goal → Scan Node

/-- A node that cannot become a target any more. -/
def settle (node : Node) : Scan Node := do
  require (isSettled node)
  return node

/-- An expression without commas. -/
def expression (read : Reader) (context : Context) : Scan Node := do
  settle (← read (.assignment context))

/-- Expressions with commas between them, which are one node if there is more than one. -/
def expressions (read : Reader) (context : Context) : Scan Node := do
  let start ← get
  let first ← expression read context
  let rest ← collect <| atOperator context fun comments => do
    if isAt (← ahead) "," then
      let comma ← markHere ","
      return some (comments ++ comma :: (← within (expression read context)))
    else return none
  if rest.isEmpty then return first else close "sequence_expression" start (first :: rest)

/-- An expression after three dots. -/
def spread (read : Reader) : Scan Node :=
  build "spread_element" do
    return (← markHere "...") :: (← within (read (.assignment {})))

/-- A list in brackets. -/
structure Listing where
  /-- The nodes from the opening bracket up to the first element. -/
  before : Array Node := #[]
  /-- The nodes from the first to the last element. -/
  elements : Array Node := #[]
  /-- The nodes behind the last element. -/
  behind : Array Node := #[]
  /-- Where the first element begins. -/
  first : Cursor
  /-- Where the last element ends. -/
  last : Cursor
  /-- Whether there is a comma without an element before it. -/
  holes : Bool := false
  /-- Whether there is no element between the last comma and the closing bracket. -/
  trailing : Bool := false

namespace Listing

/-- All nodes of a list. -/
def nodes (listing : Listing) : List Node :=
  (listing.before ++ listing.elements ++ listing.behind).toList

/-- Whether a list has no elements. -/
def isEmpty (listing : Listing) : Bool :=
  listing.elements.isEmpty

/-- A list with one more piece of punctuation or comment. -/
def punctuate (listing : Listing) (nodes : List Node) : Listing :=
  { listing with behind := listing.behind ++ nodes }

/-- A list with one more element, which reaches from one cursor to another. -/
def add (listing : Listing) (element : Node) (first last : Cursor) : Listing :=
  if listing.isEmpty then
    { listing with
      before := listing.before ++ listing.behind
      elements := #[element]
      behind := #[]
      first
      last }
  else
    { listing with
      elements := (listing.elements ++ listing.behind).push element
      behind := #[]
      last }

end Listing

/-- A list between brackets with commas between its elements. Elements may be missing. -/
def listing (opening closing : String) (element : Scan Node) : Scan Listing := do
  let bracket ← markHere opening
  let cursor ← get
  let initial : Listing := { before := #[bracket], first := cursor, last := cursor }
  let (list, vacant) ← repeatWhile (fun (list, vacant) => do
    if ← markFollows closing then return none
    else
      let list := list.punctuate (← trivia true)
      if isAt (← ahead) "," then
        let comma ← markHere ","
        return some ({ list.punctuate [comma] with holes := list.holes || vacant }, true)
      else
        require vacant
        let first ← get
        let node ← element
        return some (list.add node first (← get), false)) (initial, true)
  return { list.punctuate (← mark closing) with trailing := vacant && !list.isEmpty }

/-- An expression or a spread. -/
def item (read : Reader) : Scan Node := do
  if isAt (← ahead) "..." then spread read else read (.assignment {})

/-- A list of expressions and spreads. -/
def items (read : Reader) (opening closing : String) : Scan Listing :=
  listing opening closing (item read)

/-- A list in which no literal can become a target any more, as a node of a kind. -/
def settledList (kind : String) (start : Cursor) (list : Listing) : Scan Node := do
  require (areSettled list.nodes)
  close kind start list.nodes

/-- The arguments of a call. -/
def argumentList (read : Reader) : Scan Node := do
  let start ← get
  settledList "arguments" start (← items read "(" ")")

/-- A name with the properties behind points after it. -/
def dotted (start : Cursor) (name : Node) : Scan Node :=
  repeatWhile (fun object => do
    if ← markFollows "." then
      let point ← mark "."
      let property ← field "property" (anyName "property_identifier")
      let children := object.withField "object" :: point ++ property
      return some (← close "member_expression" start children)
    else return none) name

/-- Expressions between parentheses. -/
def parenthesized (read : Reader) : Scan Node :=
  build "parenthesized_expression" do
    return (← markHere "(") :: (← within (expressions read {})) ++ (← mark ")")

end EcmaEdition.Script
