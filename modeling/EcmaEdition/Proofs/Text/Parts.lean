import EcmaEdition.Proofs.Text.Utf8
import Mathlib

/-!
# What a byte sequence is read from

Any bytes are a row of parts: the UTF-8 form of a character, which is read as the character, or
bytes above ASCII that are no character, which are read as the replacement character (`cut_decode`).
The reader keeps a character that has begun, so the proof carries what is known of it: the bytes
before, together with any bytes that complete it, are the UTF-8 form of what it becomes. If the
bytes end before that, or go on with a byte that does not continue it, the bytes before are an
ill-formed part, and the next byte begins anew. So replacing loses no byte below 0x80
(`asciiCodes_decode`), and a text without a replacement character was read from its own UTF-8 form
alone (`decode_eq_iff`).
-/

set_option autoImplicit false

namespace EcmaEdition

namespace Text

/-- Bytes as a row of parts, with the characters that the parts are read as. -/
inductive Cut : List UInt8 → List Char → Prop
  | done : Cut [] []
  | whole (c : Char) {rest : List UInt8} {chars : List Char} (cut : Cut rest chars) :
    Cut (String.utf8EncodeChar c ++ rest) (c :: chars)
  | illFormed {part rest : List UInt8} {chars : List Char}
    (high : ∀ byte ∈ part, 0x80 ≤ byte.toNat) (cut : Cut rest chars) :
    Cut (part ++ rest) (replacement :: chars)

/-- Bytes that complete a pending character, and the character that it becomes. -/
inductive Completes : Pending → List UInt8 → Char → Prop
  | last {pending : Pending} {byte : UInt8} {code : Nat}
    (continues : pending.low ≤ byte.toNat ∧ byte.toNat ≤ pending.high) (owed : pending.owed ≤ 1)
    (value : pending.bits * 64 + (byte.toNat - 0x80) = code) :
    Completes pending [byte] (Char.ofNat code)
  | more {pending : Pending} {byte : UInt8} {tail : List UInt8} {c : Char}
    (continues : pending.low ≤ byte.toNat ∧ byte.toNat ≤ pending.high) (owed : 1 < pending.owed)
    (completes : Completes ⟨pending.owed - 1, 0x80, 0xBF,
      pending.bits * 64 + (byte.toNat - 0x80), pending.seen + 1⟩ tail c) :
    Completes pending (byte :: tail) c

/-- A character has begun with some bytes: whatever completes it makes them its UTF-8 form. -/
structure Begun (before : List UInt8) (pending : Pending) : Prop where
  high : ∀ byte ∈ before, 0x80 ≤ byte.toNat
  low : 0x80 ≤ pending.low
  encodes : ∀ {tail : List UInt8} {c : Char}, Completes pending tail c →
    String.utf8EncodeChar c = before ++ tail

/-! ## Bytes of one character -/

/-- A byte is the byte of its value. -/
theorem eq_ofNat (byte : UInt8) {value : Nat} (same : byte.toNat = value) :
    UInt8.ofNat value = byte := by
  rw [← same]
  exact UInt8.ofNat_toNat

/-- Two bytes with the upper and the lower bits of a code are its UTF-8 form. -/
theorem utf8EncodeChar_two {code : Nat} {first second : UInt8} (low : 0x80 ≤ code)
    (high : code ≤ 0x7FF) (hfirst : first.toNat = code / 64 + 0xC0)
    (hsecond : second.toNat = code % 64 + 0x80) :
    String.utf8EncodeChar (Char.ofNat code) = [first, second] := by
  have valid : code.isValidChar := Or.inl (by omega)
  have form : (Char.ofNat code).val.toNat = code := (Char.toNat_ofNat code).trans (if_pos valid)
  rw [String.utf8EncodeChar, form, if_neg (by omega), if_pos high, eq_ofNat second hsecond,
    eq_ofNat first (by omega)]

/-- Three bytes with the bits of a code are its UTF-8 form, unless the code is that of a
surrogate. -/
theorem utf8EncodeChar_three {code : Nat} {first second third : UInt8} (low : 0x800 ≤ code)
    (high : code ≤ 0xFFFF) (scalar : code < 0xD800 ∨ 0xDFFF < code)
    (hfirst : first.toNat = code / 4096 + 0xE0) (hsecond : second.toNat = code / 64 % 64 + 0x80)
    (hthird : third.toNat = code % 64 + 0x80) :
    String.utf8EncodeChar (Char.ofNat code) = [first, second, third] := by
  have valid : code.isValidChar := scalar.imp_right fun above => ⟨above, by omega⟩
  have form : (Char.ofNat code).val.toNat = code := (Char.toNat_ofNat code).trans (if_pos valid)
  rw [String.utf8EncodeChar, form, if_neg (by omega), if_neg (by omega), if_pos high,
    eq_ofNat third hthird, eq_ofNat second hsecond, eq_ofNat first (by omega)]

/-- Four bytes with the bits of a code are its UTF-8 form, up to the last code point. -/
theorem utf8EncodeChar_four {code : Nat} {first second third fourth : UInt8}
    (low : 0x10000 ≤ code) (high : code < 0x110000) (hfirst : first.toNat = code / 262144 + 0xF0)
    (hsecond : second.toNat = code / 4096 % 64 + 0x80)
    (hthird : third.toNat = code / 64 % 64 + 0x80) (hfourth : fourth.toNat = code % 64 + 0x80) :
    String.utf8EncodeChar (Char.ofNat code) = [first, second, third, fourth] := by
  have valid : code.isValidChar := Or.inr ⟨by omega, high⟩
  have form : (Char.ofNat code).val.toNat = code := (Char.toNat_ofNat code).trans (if_pos valid)
  rw [String.utf8EncodeChar, form, if_neg (by omega), if_neg (by omega), if_neg (by omega),
    eq_ofNat fourth hfourth, eq_ofNat third hthird, eq_ofNat second hsecond,
    eq_ofNat first (by omega)]

/-- What completes a character that waits for one byte is that byte. -/
theorem exists_of_completes_last {low high bits seen : Nat} {tail : List UInt8} {c : Char}
    (completes : Completes ⟨1, low, high, bits, seen⟩ tail c) :
    ∃ (byte : UInt8) (code : Nat), tail = [byte] ∧ c = Char.ofNat code ∧ low ≤ byte.toNat ∧
      byte.toNat ≤ high ∧ bits * 64 + (byte.toNat - 0x80) = code := by
  cases completes with
  | last continues _ value => exact ⟨_, _, rfl, rfl, continues.1, continues.2, value⟩
  | more _ owed => exact absurd owed (Nat.lt_irrefl 1)

/-- What completes a character that waits for more begins with one of them. -/
theorem exists_of_completes_more {owed low high bits seen : Nat} {tail : List UInt8} {c : Char}
    (completes : Completes ⟨owed + 2, low, high, bits, seen⟩ tail c) :
    ∃ (byte : UInt8) (rest : List UInt8), tail = byte :: rest ∧ low ≤ byte.toNat ∧
      byte.toNat ≤ high ∧
        Completes ⟨owed + 1, 0x80, 0xBF, bits * 64 + (byte.toNat - 0x80), seen + 1⟩ rest c := by
  cases completes with
  | last _ owed => exact absurd owed (by simp)
  | more continues _ completes => exact ⟨_, _, rfl, continues.1, continues.2, completes⟩

/-! ## From one byte to the next -/

/-- A first byte of two begins a character. -/
theorem begun_two {byte : UInt8} (low : 0xC2 ≤ byte.toNat) (high : byte.toNat < 0xE0) :
    Begun [byte] ⟨1, 0x80, 0xBF, byte.toNat - 0xC0, 1⟩ := by
  refine ⟨?_, Nat.le_refl 0x80, ?_⟩
  · exact List.forall_mem_singleton.mpr (by omega)
  · intro tail c completes
    obtain ⟨second, code, rfl, rfl, least, greatest, value⟩ := exists_of_completes_last completes
    exact utf8EncodeChar_two (by omega) (by omega) (by omega) (by omega)

/-- The range of the second byte keeps out what has a shorter form and the surrogates. -/
theorem begun_three {byte : UInt8} (low : 0xE0 ≤ byte.toNat) (high : byte.toNat < 0xF0) :
    Begun [byte] ⟨2, if byte.toNat = 0xE0 then 0xA0 else 0x80,
      if byte.toNat = 0xED then 0x9F else 0xBF, byte.toNat - 0xE0, 1⟩ := by
  refine ⟨?_, by dsimp only; split <;> omega, ?_⟩
  · exact List.forall_mem_singleton.mpr (by omega)
  · intro tail c completes
    obtain ⟨second, rest, rfl, least, greatest, completes⟩ := exists_of_completes_more completes
    obtain ⟨third, code, rfl, rfl, least', greatest', value⟩ := exists_of_completes_last completes
    have above : 0x80 ≤ second.toNat ∧ (byte.toNat = 0xE0 → 0xA0 ≤ second.toNat) := by
      split at least <;> omega
    have below : second.toNat ≤ 0xBF ∧ (byte.toNat = 0xED → second.toNat ≤ 0x9F) := by
      split at greatest <;> omega
    clear least greatest
    exact utf8EncodeChar_three (by omega) (by omega) (by omega) (by omega) (by omega) (by omega)

/-- The range of the second byte keeps out what has a shorter form and what no code point has. -/
theorem begun_four {byte : UInt8} (low : 0xF0 ≤ byte.toNat) (high : byte.toNat < 0xF5) :
    Begun [byte] ⟨3, if byte.toNat = 0xF0 then 0x90 else 0x80,
      if byte.toNat = 0xF4 then 0x8F else 0xBF, byte.toNat - 0xF0, 1⟩ := by
  refine ⟨?_, by dsimp only; split <;> omega, ?_⟩
  · exact List.forall_mem_singleton.mpr (by omega)
  · intro tail c completes
    obtain ⟨second, rest, rfl, least, greatest, completes⟩ := exists_of_completes_more completes
    obtain ⟨third, rest, rfl, least', greatest', completes⟩ := exists_of_completes_more completes
    obtain ⟨fourth, code, rfl, rfl, least'', greatest'', value⟩ :=
      exists_of_completes_last completes
    have above : 0x80 ≤ second.toNat ∧ (byte.toNat = 0xF0 → 0x90 ≤ second.toNat) := by
      split at least <;> omega
    have below : second.toNat ≤ 0xBF ∧ (byte.toNat = 0xF4 → second.toNat ≤ 0x8F) := by
      split at greatest <;> omega
    clear least greatest
    exact utf8EncodeChar_four (by omega) (by omega) (by omega) (by omega) (by omega) (by omega)

/-- Every first byte that the reader waits behind begins a character. -/
theorem begun_of_opening {byte : UInt8} {pending : Pending}
    (longer : opening byte = .longer pending) : Begun [byte] pending := by
  unfold opening at longer
  dsimp only at longer
  split at longer
  · cases longer
  split at longer
  · cases longer
  split at longer
  · cases longer
    exact begun_two (by omega) (by assumption)
  split at longer
  · cases longer
    exact begun_three (by omega) (by assumption)
  split at longer
  · cases longer
    exact begun_four (by omega) (by assumption)
  · cases longer

/-- A byte that continues a character lengthens what has begun. -/
theorem Begun.lengthen {before : List UInt8} {pending : Pending} {byte : UInt8}
    (begun : Begun before pending)
    (continues : pending.low ≤ byte.toNat ∧ byte.toNat ≤ pending.high) (owed : 1 < pending.owed) :
    Begun (before ++ [byte]) ⟨pending.owed - 1, 0x80, 0xBF,
      pending.bits * 64 + (byte.toNat - 0x80), pending.seen + 1⟩ := by
  have least := begun.low
  refine ⟨?_, Nat.le_refl 0x80, ?_⟩
  · intro other listed
    obtain inside | last := List.mem_append.mp listed
    · exact begun.high other inside
    · rw [List.mem_singleton.mp last]
      omega
  · intro tail c completes
    rw [List.append_assoc, List.singleton_append]
    exact begun.encodes (.more continues owed completes)

/-- A byte that opens nothing is above ASCII. -/
theorem high_of_opening {byte : UInt8} (illFormed : opening byte = .illFormed) :
    0x80 ≤ byte.toNat := by
  refine Nat.le_of_not_lt fun ascii => ?_
  have whole : opening byte = .whole (Char.ofNat byte.toNat) := by
    simp only [opening, if_pos ascii]
  rw [whole] at illFormed
  cases illFormed

/-- A byte that is a character by itself is the UTF-8 form of it. -/
theorem utf8EncodeChar_of_opening {byte : UInt8} {c : Char} (whole : opening byte = .whole c) :
    String.utf8EncodeChar c = [byte] := by
  unfold opening at whole
  dsimp only at whole
  split at whole
  · cases whole
    have valid : byte.toNat.isValidChar := Or.inl (by omega)
    have form : (Char.ofNat byte.toNat).val.toNat = byte.toNat :=
      (Char.toNat_ofNat byte.toNat).trans (if_pos valid)
    rw [String.utf8EncodeChar, form, if_pos (by omega), UInt8.ofNat_toNat]
  · repeat' split at whole
    all_goals cases whole

/-! ## The whole of the bytes -/

/-- The bytes of a pending character and those that follow it are cut into parts. The induction is
on the bytes that follow: a byte that does not continue the character is read once more as the first
one of what comes next. -/
theorem cut_glyphsFrom (rest : List UInt8) :
    Cut rest ((glyphsFrom none rest).map Glyph.char) ∧
      ∀ {before : List UInt8} {pending : Pending}, Begun before pending →
        Cut (before ++ rest) ((glyphsFrom (some pending) rest).map Glyph.char) := by
  induction rest with
  | nil =>
    refine ⟨.done, ?_⟩
    intro before pending begun
    exact .illFormed begun.high .done
  | cons byte rest ih =>
    obtain ⟨between, within⟩ := ih
    have anew : Cut (byte :: rest) ((glyphsFrom none (byte :: rest)).map Glyph.char) := by
      cases role : opening byte with
      | whole c =>
        have bytes := utf8EncodeChar_of_opening role
        rw [glyphsFrom, stepGlyph, beginGlyph, role]
        have cut := Cut.whole c between
        rwa [bytes] at cut
      | longer pending =>
        rw [glyphsFrom_longer role]
        exact within (begun_of_opening role)
      | illFormed =>
        rw [glyphsFrom, stepGlyph, beginGlyph, role]
        exact .illFormed (List.forall_mem_singleton.mpr (high_of_opening role)) between
    refine ⟨anew, ?_⟩
    intro before pending begun
    by_cases continues : pending.low ≤ byte.toNat ∧ byte.toNat ≤ pending.high
    · by_cases owed : pending.owed ≤ 1
      · obtain ⟨code, value⟩ : ∃ code, pending.bits * 64 + (byte.toNat - 0x80) = code := ⟨_, rfl⟩
        have bytes := begun.encodes (.last continues owed value)
        have cut := Cut.whole (Char.ofNat code) between
        rw [bytes, List.append_assoc, List.singleton_append] at cut
        rw [glyphsFrom_complete continues owed, value]
        exact cut
      · have more : 1 < pending.owed := Nat.not_le.mp owed
        rw [glyphsFrom_lengthen continues more]
        have cut := within (begun.lengthen continues more)
        rwa [List.append_assoc, List.singleton_append] at cut
    · have stopped : glyphsFrom (some pending) (byte :: rest) =
          ⟨replacement, pending.seen⟩ :: glyphsFrom none (byte :: rest) := by
        simp only [glyphsFrom, stepGlyph, if_neg continues, List.cons_append]
      rw [stopped, List.map_cons]
      exact .illFormed begun.high anew

/-- All bytes are cut into the parts that they are read from. -/
theorem cut_decode (bytes : List UInt8) : Cut bytes (decode bytes) :=
  (cut_glyphsFrom bytes).1

/-- Without a replacement character the bytes are the UTF-8 form of what is read. -/
theorem Cut.eq_encode {bytes : List UInt8} {chars : List Char} (cut : Cut bytes chars)
    (faithful : replacement ∉ chars) : bytes = encode chars := by
  induction cut with
  | done => rfl
  | whole c cut ih =>
    rw [List.mem_cons, not_or] at faithful
    rw [ih faithful.2, encode, encode, List.flatMap_cons]
  | illFormed high cut ih => exact absurd List.mem_cons_self faithful

/-- A text without a replacement character is read from its own UTF-8 form and nothing else. -/
theorem decode_eq_iff {bytes : List UInt8} {text : List Char} (faithful : replacement ∉ text) :
    decode bytes = text ↔ bytes = encode text := by
  constructor
  · rintro rfl
    exact (cut_decode bytes).eq_encode faithful
  · rintro rfl
    exact decode_encode text

/-- The codes below 0x80 among some numbers. -/
def asciiCodes (codes : List Nat) : List Nat :=
  codes.filter (· < 0x80)

/-- The ASCII codes of two rows are those of the first and then those of the second. -/
theorem asciiCodes_append (first second : List Nat) :
    asciiCodes (first ++ second) = asciiCodes first ++ asciiCodes second :=
  List.filter_append ..

/-- A row of codes above ASCII has none. -/
theorem asciiCodes_eq_nil {codes : List Nat} (high : ∀ code ∈ codes, 0x80 ≤ code) :
    asciiCodes codes = [] := by
  rw [asciiCodes, List.filter_eq_nil_iff]
  intro code listed
  have bound := high code listed
  simp only [decide_eq_true_eq]
  omega

/-- The byte of a value above ASCII is above ASCII. -/
theorem high_ofNat {value : Nat} (high : 0x80 ≤ value) (small : value < 256) :
    0x80 ≤ (UInt8.ofNat value).toNat := by
  rwa [toNat_byte small]

/-- All bytes of a character above ASCII are above ASCII. -/
theorem high_utf8EncodeChar {c : Char} (beyond : ¬c.toNat ≤ 0x7F) :
    ∀ byte ∈ String.utf8EncodeChar c, 0x80 ≤ byte.toNat := by
  have form : c.val.toNat = c.toNat := rfl
  rw [String.utf8EncodeChar, form, if_neg beyond]
  split
  · simp only [List.forall_mem_cons]
    exact ⟨high_ofNat (by omega) (by omega), high_ofNat (by omega) (by omega), by simp⟩
  split
  · simp only [List.forall_mem_cons]
    exact ⟨high_ofNat (by omega) (by omega), high_ofNat (by omega) (by omega),
      high_ofNat (by omega) (by omega), by simp⟩
  · simp only [List.forall_mem_cons]
    exact ⟨high_ofNat (by omega) (by omega), high_ofNat (by omega) (by omega),
      high_ofNat (by omega) (by omega), high_ofNat (by omega) (by omega), by simp⟩

/-- A character has the ASCII codes that its bytes have. -/
theorem asciiCodes_utf8EncodeChar (c : Char) :
    asciiCodes ((String.utf8EncodeChar c).map UInt8.toNat) = asciiCodes [c.toNat] := by
  have form : c.val.toNat = c.toNat := rfl
  by_cases ascii : c.toNat ≤ 0x7F
  · rw [String.utf8EncodeChar, form, if_pos ascii, List.map_singleton, toNat_byte (by omega)]
  · have bytes := high_utf8EncodeChar ascii
    rw [asciiCodes_eq_nil (by simpa using bytes),
      asciiCodes_eq_nil (List.forall_mem_singleton.mpr (by omega))]

/-- A text that bytes are read as has their ASCII codes. -/
theorem Cut.asciiCodes_eq {bytes : List UInt8} {chars : List Char} (cut : Cut bytes chars) :
    asciiCodes (chars.map Char.toNat) = asciiCodes (bytes.map UInt8.toNat) := by
  induction cut with
  | done => rfl
  | whole c cut ih =>
    rw [List.map_append, asciiCodes_append, asciiCodes_utf8EncodeChar, ← ih, ← asciiCodes_append]
    rfl
  | @illFormed part rest chars high cut ih =>
    have none : asciiCodes (part.map UInt8.toNat) = [] := asciiCodes_eq_nil (by simpa using high)
    rw [List.map_append, asciiCodes_append, none, List.nil_append, ← ih]
    rfl

/-- The bytes below 0x80 are read as the ASCII characters of the text, in order. -/
theorem asciiCodes_decode (bytes : List UInt8) :
    asciiCodes ((decode bytes).map Char.toNat) = asciiCodes (bytes.map UInt8.toNat) :=
  (cut_decode bytes).asciiCodes_eq

/-- The bytes of an array are its data. -/
theorem toList_eq_data (bytes : ByteArray) : bytes.toList = bytes.data.toList := by
  rw [ByteArray.toList, toList_loop]
  rfl

/-- An array is determined by its bytes. -/
theorem toList_injective {a b : ByteArray} (same : a.toList = b.toList) : a = b := by
  rw [toList_eq_data, toList_eq_data] at same
  exact ByteArray.ext (Array.toList_inj.mp same)

/-- The UTF-8 form of a text is that of its characters, one after the other. -/
theorem toList_utf8Encode (text : List Char) : text.utf8Encode.toList = encode text :=
  toList_toByteArray (encode text)

/-- The UTF-8 form of a string is that of its characters, one after the other. -/
theorem toList_toUTF8 (text : String) : text.toUTF8.toList = encode text.toList := by
  rw [String.toUTF8, ← String.utf8Encode_toList, toList_utf8Encode]

/-- Pieces of valid UTF-8 are read one by one. -/
theorem decode_pieces {pieces : List ByteArray} (valid : ∀ piece ∈ pieces, piece.IsValidUTF8) :
    decode (pieces.flatMap ByteArray.toList) = pieces.flatMap fun piece => decode piece.toList := by
  induction pieces with
  | nil => rfl
  | cons piece rest ih =>
    obtain ⟨here, others⟩ := List.forall_mem_cons.mp valid
    obtain ⟨text, rfl⟩ := here
    rw [List.flatMap_cons, List.flatMap_cons, toList_utf8Encode, decode_encode_append,
      decode_encode, ih others]

end Text

namespace Node

open EcmaEdition.Text

variable {node : Node} {bytes : ByteArray}

/-- A node that covers some bytes has the characters that they are read as. -/
theorem chars_of_text (covered : node.label.text = some bytes) :
    node.chars = decode bytes.toList := by
  rw [chars, covered]

/-- A node has a text without replacement characters if it covers the UTF-8 form of it. -/
theorem string_eq_iff (covered : node.label.text = some bytes) {name : String}
    (faithful : replacement ∉ name.toList) : node.string = name ↔ bytes = name.toUTF8 := by
  have characters : node.string = name ↔ node.chars = name.toList := by
    rw [string]
    constructor
    · rintro rfl
      exact String.toList_ofList.symm
    · intro same
      rw [same, String.ofList_toList]
  rw [characters, chars_of_text covered, decode_eq_iff faithful, ← toList_toUTF8]
  exact ⟨toList_injective, congrArg ByteArray.toList⟩

/-- A node is read as a name without replacement characters only if its bytes are the UTF-8 form of
the name. The ASCII characters that a node is read as are its bytes below 0x80, in order, whatever
stands between them. Where the bytes are pieces of valid UTF-8, they are read piece by piece. -/
theorem string_exact (covered : node.label.text = some bytes) :
    (∀ name : String, replacement ∉ name.toList → (node.string = name ↔ bytes = name.toUTF8)) ∧
      asciiCodes (node.chars.map Char.toNat) = asciiCodes (bytes.toList.map UInt8.toNat) ∧
      ∀ pieces : List ByteArray, (∀ piece ∈ pieces, piece.IsValidUTF8) →
        bytes.toList = pieces.flatMap ByteArray.toList →
          node.chars = pieces.flatMap fun piece => decode piece.toList := by
  refine ⟨fun name faithful => string_eq_iff covered faithful, ?_, ?_⟩
  · rw [chars_of_text covered]
    exact asciiCodes_decode bytes.toList
  · intro pieces valid split
    rw [chars_of_text covered, split]
    exact decode_pieces valid

/-- A node with some bytes. -/
def ofBytes (bytes : List UInt8) : Node :=
  ⟨{ kind := "identifier", text := some bytes.toByteArray }, []⟩

/-- A character of three bytes whose last one is missing does not take the parenthesis behind it,
and the node is not taken for the one that has the parenthesis alone. A letter with an accent and
the parenthesis, each of them valid, are read one after the other. -/
theorem string_exact_truncated :
    (ofBytes [0xE2, 0x82, 0x28]).string ≠ "(" ∧
      asciiCodes ((ofBytes [0xE2, 0x82, 0x28]).chars.map Char.toNat) = [0x28] ∧
      (ofBytes [0xC3, 0xA9, 0x28]).chars = ['é', '('] := by
  have truncated : (ofBytes [0xE2, 0x82, 0x28]).label.text =
      some [0xE2, 0x82, 0x28].toByteArray := rfl
  have accented : (ofBytes [0xC3, 0xA9, 0x28]).label.text =
      some [0xC3, 0xA9, 0x28].toByteArray := rfl
  obtain ⟨names, ascii, -⟩ := string_exact truncated
  obtain ⟨-, -, pieces⟩ := string_exact accented
  refine ⟨?_, ?_, ?_⟩
  · rw [ne_eq, names "(" (by decide)]
    intro same
    have bytes := congrArg ByteArray.toList same
    rw [toList_toByteArray, toList_toUTF8] at bytes
    exact absurd bytes (by decide)
  · rw [ascii, toList_toByteArray]
    rfl
  · rw [pieces [['é'].utf8Encode, ['('].utf8Encode] ?_ ?_]
    · simp only [List.flatMap_cons, List.flatMap_nil, toList_utf8Encode, decode_encode]
      rfl
    · intro piece listed
      simp only [List.mem_cons, List.not_mem_nil, or_false] at listed
      obtain rfl | rfl := listed <;> exact ⟨_, rfl⟩
    · simp only [List.flatMap_cons, List.flatMap_nil, toList_utf8Encode, toList_toByteArray]
      decide

end Node

end EcmaEdition
