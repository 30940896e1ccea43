import EcmaEdition.Tree.Node

/-!
# Reading back the UTF-8 form of a text

A text in UTF-8 is read as the text itself. The reader takes one byte after the other and keeps a
character that has begun but is not complete, so the proof follows the bytes of one character: the
first one opens it, with a range for the second byte that holds all code points but surrogates, the
ones between lengthen it, and the last one completes it. Nothing is pending behind the last byte, so
what follows the text is read as if it stood alone.
-/

set_option autoImplicit false

namespace EcmaEdition

namespace Text

/-- A first byte that begins a longer character leaves the character pending. -/
theorem glyphsFrom_longer {byte : UInt8} {pending : Pending}
    (longer : opening byte = .longer pending) (rest : List UInt8) :
    glyphsFrom none (byte :: rest) = glyphsFrom (some pending) rest := by
  rw [glyphsFrom, stepGlyph, beginGlyph, longer]
  rfl

/-- A continuing byte before the last lengthens the pending character. -/
theorem glyphsFrom_lengthen {pending : Pending} {byte : UInt8}
    (continues : pending.low ≤ byte.toNat ∧ byte.toNat ≤ pending.high) (more : 1 < pending.owed)
    (rest : List UInt8) :
    glyphsFrom (some pending) (byte :: rest) =
      glyphsFrom (some ⟨pending.owed - 1, 0x80, 0xBF, pending.bits * 64 + (byte.toNat - 0x80),
        pending.seen + 1⟩) rest := by
  simp only [glyphsFrom, stepGlyph, if_pos continues, if_neg (Nat.not_le.mpr more), List.nil_append]

/-- The last continuing byte completes the pending character. -/
theorem glyphsFrom_complete {pending : Pending} {byte : UInt8}
    (continues : pending.low ≤ byte.toNat ∧ byte.toNat ≤ pending.high) (last : pending.owed ≤ 1)
    (rest : List UInt8) :
    glyphsFrom (some pending) (byte :: rest) =
      ⟨Char.ofNat (pending.bits * 64 + (byte.toNat - 0x80)), pending.seen + 1⟩ ::
        glyphsFrom none rest := by
  simp only [glyphsFrom, stepGlyph, if_pos continues, if_pos last, List.singleton_append]

/-- A value below 256 is that of its byte. -/
theorem toNat_byte {value : Nat} (small : value < 256) : (UInt8.ofNat value).toNat = value :=
  UInt8.toNat_ofNat_of_lt' small

/-- A byte below 0x80 is a character by itself. -/
theorem glyphsFrom_ascii {code : Nat} (ascii : code < 0x80) (rest : List UInt8) :
    glyphsFrom none (UInt8.ofNat code :: rest) = ⟨Char.ofNat code, 1⟩ :: glyphsFrom none rest := by
  have value : (UInt8.ofNat code).toNat = code := toNat_byte (by omega)
  have whole : opening (UInt8.ofNat code) = .whole (Char.ofNat code) := by
    simp only [opening, value, if_pos ascii]
  rw [glyphsFrom, stepGlyph, beginGlyph, whole]
  rfl

/-- The first byte of two. -/
theorem opening_two {code : Nat} (low : 0x80 ≤ code) (high : code ≤ 0x7FF) :
    opening (UInt8.ofNat (code / 64 % 32 + 192)) = .longer ⟨1, 0x80, 0xBF, code / 64, 1⟩ := by
  have value : (UInt8.ofNat (code / 64 % 32 + 192)).toNat = code / 64 + 0xC0 := by
    rw [toNat_byte (by omega)]
    omega
  simp only [opening, value]
  rw [if_neg (by omega), if_neg (by omega), if_pos (by omega), Nat.add_sub_cancel]

/-- The first byte of three, which admits the second. -/
theorem opening_three {code : Nat} (low : 0x800 ≤ code) (high : code ≤ 0xFFFF)
    (scalar : code < 0xD800 ∨ 0xDFFF < code) :
    ∃ least greatest, opening (UInt8.ofNat (code / 4096 % 16 + 224)) =
        .longer ⟨2, least, greatest, code / 4096, 1⟩ ∧
      least ≤ code / 64 % 64 + 0x80 ∧ code / 64 % 64 + 0x80 ≤ greatest := by
  have value : (UInt8.ofNat (code / 4096 % 16 + 224)).toNat = code / 4096 + 0xE0 := by
    rw [toNat_byte (by omega)]
    omega
  refine ⟨if code / 4096 + 0xE0 = 0xE0 then 0xA0 else 0x80,
    if code / 4096 + 0xE0 = 0xED then 0x9F else 0xBF, ?_, ?_, ?_⟩
  · simp only [opening, value]
    rw [if_neg (by omega), if_neg (by omega), if_neg (by omega), if_pos (by omega),
      Nat.add_sub_cancel]
  · split <;> omega
  · split <;> omega

/-- The first byte of four, which admits the second. -/
theorem opening_four {code : Nat} (low : 0x10000 ≤ code) (high : code < 0x110000) :
    ∃ least greatest, opening (UInt8.ofNat (code / 262144 % 8 + 240)) =
        .longer ⟨3, least, greatest, code / 262144, 1⟩ ∧
      least ≤ code / 4096 % 64 + 0x80 ∧ code / 4096 % 64 + 0x80 ≤ greatest := by
  have value : (UInt8.ofNat (code / 262144 % 8 + 240)).toNat = code / 262144 + 0xF0 := by
    rw [toNat_byte (by omega)]
    omega
  refine ⟨if code / 262144 + 0xF0 = 0xF0 then 0x90 else 0x80,
    if code / 262144 + 0xF0 = 0xF4 then 0x8F else 0xBF, ?_, ?_, ?_⟩
  · simp only [opening, value]
    rw [if_neg (by omega), if_neg (by omega), if_neg (by omega), if_neg (by omega),
      if_pos (by omega), Nat.add_sub_cancel]
  · split <;> omega
  · split <;> omega

/-- The value of a continuing byte. -/
theorem toNat_tail (bits : Nat) : (UInt8.ofNat (bits % 64 + 128)).toNat = bits % 64 + 0x80 :=
  toNat_byte (by omega)

/-- The bytes of a character read as the character, whatever follows them. -/
theorem glyphsFrom_encodeChar (c : Char) (rest : List UInt8) :
    glyphsFrom none (String.utf8EncodeChar c ++ rest) =
      ⟨c, (String.utf8EncodeChar c).length⟩ :: glyphsFrom none rest := by
  have scalar : c.toNat < 0xD800 ∨ 0xDFFF < c.toNat ∧ c.toNat < 0x110000 := c.valid
  obtain ⟨code, same⟩ : ∃ code, c.toNat = code := ⟨_, rfl⟩
  have back : Char.ofNat code = c := by rw [← same, Char.ofNat_toNat]
  have form : c.val.toNat = code := same
  rw [same] at scalar
  by_cases one : code ≤ 0x7F
  · rw [String.utf8EncodeChar, form, if_pos one, List.singleton_append,
      glyphsFrom_ascii (by omega), back]
    rfl
  by_cases two : code ≤ 0x7FF
  · rw [String.utf8EncodeChar, form, if_neg one, if_pos two]
    simp only [List.cons_append, List.nil_append]
    rw [glyphsFrom_longer (opening_two (by omega) two),
      glyphsFrom_complete (by simp only [toNat_tail]; omega) (by simp)]
    simp only [toNat_tail]
    rw [show code / 64 * 64 + (code % 64 + 0x80 - 0x80) = code by omega, back]
    rfl
  by_cases three : code ≤ 0xFFFF
  · obtain ⟨least, greatest, opens, above, below⟩ := opening_three (by omega) three (by omega)
    rw [String.utf8EncodeChar, form, if_neg one, if_neg two, if_pos three]
    simp only [List.cons_append, List.nil_append]
    rw [glyphsFrom_longer opens,
      glyphsFrom_lengthen (by simp only [toNat_tail]; exact ⟨above, below⟩) (by simp),
      glyphsFrom_complete (by simp only [toNat_tail]; omega) (by simp)]
    simp only [toNat_tail]
    rw [show (code / 4096 * 64 + (code / 64 % 64 + 0x80 - 0x80)) * 64 +
      (code % 64 + 0x80 - 0x80) = code by omega, back]
    rfl
  · obtain ⟨least, greatest, opens, above, below⟩ :=
      @opening_four code (by omega) (by omega)
    rw [String.utf8EncodeChar, form, if_neg one, if_neg two, if_neg three]
    simp only [List.cons_append, List.nil_append]
    rw [glyphsFrom_longer opens,
      glyphsFrom_lengthen (by simp only [toNat_tail]; exact ⟨above, below⟩) (by simp),
      glyphsFrom_lengthen (by simp only [toNat_tail]; omega) (by simp),
      glyphsFrom_complete (by simp only [toNat_tail]; omega) (by simp)]
    simp only [toNat_tail]
    rw [show ((code / 262144 * 64 + (code / 4096 % 64 + 0x80 - 0x80)) * 64 +
      (code / 64 % 64 + 0x80 - 0x80)) * 64 + (code % 64 + 0x80 - 0x80) = code by omega, back]
    rfl

/-- The UTF-8 form of a text reads as the text, whatever follows it. -/
theorem decode_encode_append (text : List Char) (rest : List UInt8) :
    decode (encode text ++ rest) = text ++ decode rest := by
  induction text with
  | nil => rfl
  | cons c text ih =>
    rw [encode, List.flatMap_cons, List.append_assoc, decode, glyphs, glyphsFrom_encodeChar,
      List.map_cons]
    exact congrArg (c :: ·) ih

/-- A text is read back from its UTF-8 form. -/
theorem decode_encode (text : List Char) : decode (encode text) = text := by
  have whole := decode_encode_append text []
  rwa [List.append_nil, show decode [] = [] from rfl, List.append_nil] at whole

/-- The bytes of an array from a place on, behind those that were gathered before it. -/
theorem toList_loop (content : ByteArray) (place : Nat) (gathered : List UInt8) :
    ByteArray.toList.loop content place gathered =
      gathered.reverse ++ content.data.toList.drop place := by
  fun_induction ByteArray.toList.loop content place gathered with
  | case1 place gathered inside ih =>
    have listed : place < content.data.toList.length := by simpa using inside
    rw [ih, List.drop_eq_getElem_cons listed]
    simp [ByteArray.get!, inside]
  | case2 place gathered outside =>
    rw [List.drop_eq_nil_of_le (by simpa using Nat.le_of_not_lt outside)]
    simp

/-- Bytes are read back from the array of them. -/
theorem toList_toByteArray (bytes : List UInt8) : bytes.toByteArray.toList = bytes := by
  rw [ByteArray.toList, toList_loop, List.toList_data_toByteArray]
  rfl

end Text

namespace Node

open EcmaEdition.Text

/-- A node covers a text if its bytes are the text's UTF-8 form. -/
def Covers (node : Node) (text : List Char) : Prop :=
  ∃ content, node.label.text = some content ∧ content.toList = encode text

/-- A node that covers a text reads as the text. -/
theorem chars_of_covers {node : Node} {text : List Char} (covers : node.Covers text) :
    node.chars = text := by
  obtain ⟨content, bytes, same⟩ := covers
  rw [chars, bytes]
  exact (congrArg decode same).trans (decode_encode text)

/-- A leaf of a kind that covers a text. -/
def leaf (kind : String) (text : List Char) : Node :=
  ⟨{ kind, text := some (encode text).toByteArray }, []⟩

/-- A leaf covers its text. -/
theorem covers_leaf (kind : String) (text : List Char) : (leaf kind text).Covers text :=
  ⟨_, rfl, toList_toByteArray _⟩

/-- A leaf has its kind. -/
@[simp]
theorem kind_leaf (kind : String) (text : List Char) : (leaf kind text).kind = kind :=
  rfl

/-- The characters of a leaf are its text. -/
@[simp]
theorem chars_leaf (kind : String) (text : List Char) : (leaf kind text).chars = text :=
  chars_of_covers (covers_leaf kind text)

end Node

end EcmaEdition
