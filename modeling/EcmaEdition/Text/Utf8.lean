/-!
# UTF-8

Bytes are read as UTF-8 without ever failing: a byte sequence that is no character is cut into its
maximal ill-formed parts, and each part reads as one replacement character U+FFFD. A part ends
before the first byte that cannot continue it, so a byte below 0x80 is never swallowed.
-/

set_option autoImplicit false

namespace EcmaEdition.Text

/-- A character that was read, together with the number of bytes it was read from. -/
structure Glyph where
  char : Char
  width : Nat

/-- What stands for an ill-formed part. -/
def replacement : Char := '\uFFFD'

/-- A character that has begun: how many of its bytes are still owed, which values the next of them
may take, the bits collected so far, and how many bytes these came from. -/
structure Pending where
  owed : Nat
  low : Nat
  high : Nat
  bits : Nat
  seen : Nat

/-- What a first byte begins: a whole character, a longer one, or nothing. -/
inductive Opening where
  | whole (c : Char)
  | longer (pending : Pending)
  | illFormed

/-- The role of a byte between characters. The second byte has a narrower range after 0xE0 and 0xF0,
which would else begin overlong forms, after 0xED, which would else begin surrogates, and after
0xF4, which would else pass the last code point. -/
def opening (byte : UInt8) : Opening :=
  let b := byte.toNat
  if b < 0x80 then .whole (Char.ofNat b)
  else if b < 0xC2 then .illFormed
  else if b < 0xE0 then .longer ⟨1, 0x80, 0xBF, b - 0xC0, 1⟩
  else if b < 0xF0 then
    .longer ⟨2, if b = 0xE0 then 0xA0 else 0x80, if b = 0xED then 0x9F else 0xBF, b - 0xE0, 1⟩
  else if b < 0xF5 then
    .longer ⟨3, if b = 0xF0 then 0x90 else 0x80, if b = 0xF4 then 0x8F else 0xBF, b - 0xF0, 1⟩
  else .illFormed

/-- Between characters, a byte gives the glyphs it completes and what it leaves pending. -/
def beginGlyph (byte : UInt8) : List Glyph × Option Pending :=
  match opening byte with
  | .whole c => ([⟨c, 1⟩], none)
  | .longer pending => ([], some pending)
  | .illFormed => ([⟨replacement, 1⟩], none)

/-- One byte. A byte that continues the pending character completes or lengthens it; any other byte
ends it as an ill-formed part and begins anew. -/
def stepGlyph : Option Pending → UInt8 → List Glyph × Option Pending
  | none, byte => beginGlyph byte
  | some p, byte =>
    let b := byte.toNat
    if p.low ≤ b ∧ b ≤ p.high then
      let bits := p.bits * 64 + (b - 0x80)
      if p.owed ≤ 1 then ([⟨Char.ofNat bits, p.seen + 1⟩], none)
      else ([], some ⟨p.owed - 1, 0x80, 0xBF, bits, p.seen + 1⟩)
    else
      let next := beginGlyph byte
      (⟨replacement, p.seen⟩ :: next.1, next.2)

/-- The glyphs of the bytes that follow a pending character. -/
def glyphsFrom : Option Pending → List UInt8 → List Glyph
  | none, [] => []
  | some p, [] => [⟨replacement, p.seen⟩]
  | pending, byte :: rest =>
    let next := stepGlyph pending byte
    next.1 ++ glyphsFrom next.2 rest

/-- The glyphs of a byte sequence. -/
def glyphs (bytes : List UInt8) : List Glyph :=
  glyphsFrom none bytes

/-- The characters of a byte sequence, ill-formed parts replaced. -/
def decode (bytes : List UInt8) : List Char :=
  (glyphs bytes).map Glyph.char

/-- The UTF-8 form of a text. -/
def encode (text : List Char) : List UInt8 :=
  text.flatMap String.utf8EncodeChar

end EcmaEdition.Text
