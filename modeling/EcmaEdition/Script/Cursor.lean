import EcmaEdition.Tree.Node

/-!
# Reading a source from left to right

A cursor is a place in a source with the characters that follow it. A scan reads on from a cursor
and either comes to a result at a later one or fails; after a failure another scan may be tried from
where the first one began.
-/

set_option autoImplicit false

namespace EcmaEdition.Script

open EcmaEdition.Text

/-- A place in a source: what follows it, the number of bytes before it, its line counted from zero,
and the number of bytes before it on that line. -/
structure Cursor where
  rest : List Glyph
  offset : Nat
  row : Nat
  column : Nat

namespace Cursor

/-- The beginning of a source. -/
def start (bytes : ByteArray) : Cursor :=
  ⟨glyphs bytes.toList, 0, 0, 0⟩

/-- The place some characters later, or the end of the source. -/
def skip : (count : Nat) → Cursor → Cursor
  | 0, cursor => cursor
  | count + 1, cursor =>
    match cursor.rest with
    | [] => cursor
    | glyph :: rest =>
      let offset := cursor.offset + glyph.width
      if glyph.char = '\n' then skip count ⟨rest, offset, cursor.row + 1, 0⟩
      else skip count ⟨rest, offset, cursor.row, cursor.column + glyph.width⟩

end Cursor

/-- A reading of a part of a source, which may fail. The bytes are those of the whole source. -/
abbrev Scan (α : Type) := ReaderT ByteArray (StateT Cursor Option) α

namespace Scan

/-- Fails unless a condition holds. -/
def require (condition : Bool) : Scan Unit :=
  if condition then pure () else failure

/-- A value that must be there. -/
def ofOption {α : Type} : Option α → Scan α
  | some value => pure value
  | none => failure

/-- Tries a scan, and stays in place if it fails. -/
def attempt {α : Type} (scan : Scan α) : Scan (Option α) :=
  (some <$> scan) <|> pure none

/-- Runs a scan and returns to the place where it began. -/
def lookAhead {α : Type} (scan : Scan α) : Scan α := do
  let cursor ← get
  let result ← scan
  set cursor
  return result

/-- Repeats a step until it gives nothing, at most the given number of times. -/
def repeatUpTo {σ : Type} (step : σ → Scan (Option σ)) : Nat → σ → Scan σ
  | 0, state => pure state
  | bound + 1, state => do
    match ← step state with
    | some next => repeatUpTo step bound next
    | none => return state

/-- Repeats a step until it gives nothing, at most once more than there are bytes left. -/
def repeatWhile {σ : Type} (step : σ → Scan (Option σ)) (state : σ) : Scan σ := do
  repeatUpTo step ((← read).size - (← get).offset + 1) state

/-- The nodes that a step gives, one part after the other, until it gives nothing. -/
def collect (step : Scan (Option (List Node))) : Scan (List Node) := do
  let parts ← repeatWhile (fun parts => do return (← step).map (· :: parts)) []
  return parts.reverse.flatten

/-- The characters ahead. -/
def ahead : Scan (List Glyph) := do
  return (← get).rest

/-- The next character. -/
def peek : Scan (Option Char) := do
  return (← ahead).head?.map Glyph.char

/-- A node that reaches from one cursor to another. -/
def span (kind : String) (start stop : Cursor) (children : List Node) : Scan Node := do
  return {
    label := {
      kind
      row := start.row
      column := start.column
      text := some ((← read).extract start.offset stop.offset) }
    children }

/-- A node that begins at a cursor and ends here. -/
def close (kind : String) (start : Cursor) (children : List Node) : Scan Node := do
  span kind start (← get) children

/-- A node whose children a scan reads. -/
def build (kind : String) (body : Scan (List Node)) : Scan Node := do
  let start ← get
  let children ← body
  close kind start children

/-- A node without children that covers the next characters. -/
def leaf (kind : String) (named : Bool) (count : Nat) : Scan Node := do
  let start ← get
  set (start.skip count)
  let node ← close kind start []
  return { node with label := { node.label with named } }

end Scan

end EcmaEdition.Script
