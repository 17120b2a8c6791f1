import SqlDump.Proofs.Decoding
import SqlDump.Proofs.KeywordOccurrence

/-!
# ASCII characters in bytes

A byte below 0x80 encodes a character by itself, and every byte of another character is at least
0x80.  What a text holds of letters, digits and quotes can therefore be told from its bytes, one byte
at a time, wherever its characters begin.
-/

namespace SqlDump
namespace Utf8

theorem encode_cons (char : Char) (rest : Text) :
    encode (char :: rest) = String.utf8EncodeChar char ++ encode rest := rfl

/-- An ASCII character is encoded by its code point, any other one by bytes that encode no ASCII
character. -/
theorem utf8EncodeChar_cases (char : Char) :
    (∃ byte, String.utf8EncodeChar char = [byte] ∧ byte.toNat = char.toNat ∧ char.toNat < 0x80) ∨
      0x80 ≤ char.toNat ∧ ∀ byte ∈ String.utf8EncodeChar char, 0x80 ≤ byte.toNat := by
  have spells := Spells.utf8EncodeChar char
  generalize char.toNat = point at spells
  generalize String.utf8EncodeChar char = bytes at spells
  cases spells with
  | @one first bounds => exact .inl ⟨first, rfl, rfl, by omega⟩
  | two bounds tail =>
    rw [isTail_iff] at tail
    refine .inr ⟨by unfold payload; omega, ?_⟩
    simp only [List.mem_cons, List.not_mem_nil, or_false, forall_eq_or_imp, forall_eq]
    omega
  | three bounds follows tail =>
    rw [isTail_iff] at tail
    rw [mayFollow_iff] at follows
    refine .inr ⟨by unfold payload; omega, ?_⟩
    simp only [List.mem_cons, List.not_mem_nil, or_false, forall_eq_or_imp, forall_eq]
    omega
  | four bounds follows thirdTail fourthTail =>
    rw [isTail_iff] at thirdTail fourthTail
    rw [mayFollow_iff] at follows
    refine .inr ⟨by unfold payload; omega, ?_⟩
    simp only [List.mem_cons, List.not_mem_nil, or_false, forall_eq_or_imp, forall_eq]
    omega

/-- A letter of ASCII is encoded by one byte. -/
theorem exists_byte_of_isAlpha {letter : Char} (isLetter : letter.isAlpha = true) :
    ∃ byte, String.utf8EncodeChar letter = [byte] ∧ byte.toNat = letter.toNat ∧
      letter.toNat < 0x80 ∧ letter.utf8Size = 1 := by
  have bounds := (Text.isAlpha_iff letter).mp isLetter
  obtain ⟨byte, bytes, value, small⟩ :=
    (utf8EncodeChar_cases letter).resolve_right fun large => by omega
  refine ⟨byte, bytes, value, small, ?_⟩
  rw [← String.length_utf8EncodeChar, bytes, List.length_singleton]

/-- An ASCII byte stands where a character begins. -/
theorem exists_append_of_getElem?
    {text : Text}
    {place : Nat}
    {byte : UInt8}
    (found : (encode text)[place]? = some byte)
    (ascii : byte.toNat < 0x80) :
    ∃ (front : Text) (char : Char) (back : Text), text = front ++ char :: back ∧
      place = front.byteLength := by
  induction text generalizing place with
  | nil => cases found
  | cons char rest inductionHypothesis =>
    have size := String.length_utf8EncodeChar char
    rw [encode_cons] at found
    by_cases inside : place < char.utf8Size
    · rw [List.getElem?_append_left (by omega)] at found
      rcases utf8EncodeChar_cases char with ⟨only, bytes, -⟩ | ⟨-, others⟩
      · rw [bytes, List.length_singleton] at size
        exact ⟨[], char, rest, rfl, by rw [Text.byteLength_nil]; omega⟩
      · have large := others byte (List.mem_of_getElem? found)
        omega
    · rw [List.getElem?_append_right (by omega), size] at found
      obtain ⟨front, next, back, rfl, distance⟩ := inductionHypothesis found
      exact ⟨char :: front, next, back, rfl, by rw [Text.byteLength_cons]; omega⟩

/-- A cut inside a character leaves only bytes behind it that encode no ASCII character. -/
theorem le_of_mem_drop_encode (text : Text) (offset : Nat) :
    ∀ byte ∈ (encode (text.takeBytes offset)).drop offset, 0x80 ≤ byte.toNat := by
  fun_induction Text.takeBytes text offset with
  | case1 => simp
  | case2 => simp
  | case3 char rest offset inductionHypothesis =>
    have size := String.length_utf8EncodeChar char
    rw [encode_cons, List.drop_append, size]
    by_cases fits : char.utf8Size ≤ offset + 1
    · rw [List.drop_eq_nil_of_le (by omega), List.nil_append]
      exact inductionHypothesis
    · have nothing : offset + 1 - char.utf8Size = 0 := by omega
      rw [nothing, Text.takeBytes_zero, encode_nil, List.drop_nil, List.append_nil]
      intro byte member
      rcases utf8EncodeChar_cases char with ⟨only, bytes, -⟩ | ⟨-, others⟩
      · rw [bytes, List.length_singleton] at size
        omega
      · exact others byte (List.mem_of_mem_drop member)

theorem exists_head?_encode_cons (char : Char) (rest : Text) :
    ∃ byte ∈ String.utf8EncodeChar char, (encode (char :: rest)).head? = some byte := by
  obtain ⟨byte, others, bytes⟩ := List.exists_cons_of_ne_nil String.utf8EncodeChar_ne_nil
  refine ⟨byte, bytes ▸ List.mem_cons_self, ?_⟩
  rw [encode_cons, bytes, List.cons_append, List.head?_cons]

theorem exists_getLast?_encode_concat (front : Text) (char : Char) :
    ∃ byte ∈ String.utf8EncodeChar char, (encode (front ++ [char])).getLast? = some byte := by
  have nonempty : String.utf8EncodeChar char ≠ [] := String.utf8EncodeChar_ne_nil
  refine ⟨(String.utf8EncodeChar char).getLast nonempty, List.getLast_mem nonempty, ?_⟩
  rw [encode_append, encode_cons, encode_nil, List.append_nil, List.getLast?_append,
    List.getLast?_eq_some_getLast nonempty, Option.some_or]

theorem toNat_ofUInt8 (byte : UInt8) : (Char.ofUInt8 byte).toNat = byte.toNat := rfl

end Utf8

/-! ## Quotes -/

/-- The bytes of the two kinds of quotes. -/
def IsMark (byte : UInt8) : Prop :=
  byte = 0x27 ∨ byte = 0x22

theorem isMark_iff (byte : UInt8) : IsMark byte ↔ byte.toNat = 0x27 ∨ byte.toNat = 0x22 := by
  simp only [IsMark, ← UInt8.toNat_inj, UInt8.reduceToNat]

theorem not_isMark_of_le {byte : UInt8} (large : 0x80 ≤ byte.toNat) : ¬ IsMark byte := by
  rw [isMark_iff]
  omega

/-- No quote stands in what a cut inside a character leaves of it behind the offset. -/
theorem not_isMark_of_mem_drop_encode (text : Text) (offset : Nat) :
    ∀ byte ∈ (Utf8.encode (text.takeBytes offset)).drop offset, ¬ IsMark byte :=
  fun byte member => not_isMark_of_le (Utf8.le_of_mem_drop_encode text offset byte member)

/-- Every byte of a character is that of a quote if and only if the character is a quote. -/
theorem isMark_iff_of_mem
    {char : Char}
    {byte : UInt8}
    (member : byte ∈ String.utf8EncodeChar char) :
    IsMark byte ↔ char = '\'' ∨ char = '"' := by
  have string : char = '\'' ↔ char.toNat = 0x27 := Char.toNat_inj.symm
  have identifier : char = '"' ↔ char.toNat = 0x22 := Char.toNat_inj.symm
  rw [isMark_iff, string, identifier]
  rcases Utf8.utf8EncodeChar_cases char with ⟨only, bytes, value, -⟩ | ⟨large, others⟩
  · rw [bytes, List.mem_singleton] at member
    rw [member, value]
  · have largeByte := others byte member
    omega

namespace Region

open Utf8 (encode)

/-- Bytes without quotes stay in their region. -/
theorem after_map_of_forall
    {bytes : List UInt8}
    (noMark : ∀ byte ∈ bytes, ¬ IsMark byte)
    (region : Region) :
    region.after (bytes.map Char.ofUInt8) = region := by
  apply after_of_forall
  intro char member
  obtain ⟨byte, byteMember, rfl⟩ := List.mem_map.mp member
  have other := noMark byte byteMember
  rw [isMark_iff, ← Utf8.toNat_ofUInt8, not_or] at other
  exact ⟨fun quote => other.1 (congrArg Char.toNat quote),
    fun quote => other.2 (congrArg Char.toNat quote)⟩

/-- Quotes can be followed byte by byte. -/
theorem after_map_encode (region : Region) (text : Text) :
    region.after ((encode text).map Char.ofUInt8) = region.after text := by
  induction text generalizing region with
  | nil => rfl
  | cons char rest inductionHypothesis =>
    have first : region.after ((String.utf8EncodeChar char).map Char.ofUInt8) =
        region.after [char] := by
      by_cases quote : char = '\'' ∨ char = '"'
      · rcases quote with rfl | rfl <;> rfl
      · rw [after_map_of_forall fun byte member => mt (isMark_iff_of_mem member).mp quote,
          after_of_forall]
        rw [List.forall_mem_singleton]
        exact not_or.mp quote
    rw [Utf8.encode_cons, List.map_append, after_append, first, inductionHypothesis]
    rfl

end Region

/-! ## Words -/

namespace Keyword

open Utf8 (encode)

/-- The bytes of ASCII letters, ASCII digits and the underscore. -/
def IsWordByte (byte : UInt8) : Prop :=
  0x41 ≤ byte ∧ byte ≤ 0x5A ∨ 0x61 ≤ byte ∧ byte ≤ 0x7A ∨ 0x30 ≤ byte ∧ byte ≤ 0x39 ∨ byte = 0x5F

/-- A byte with ASCII capitals written small. -/
def lowerByte (byte : UInt8) : UInt8 :=
  if 0x41 ≤ byte ∧ byte ≤ 0x5A then byte + 0x20 else byte

theorem isWordByte_iff (byte : UInt8) :
    IsWordByte byte ↔
      0x41 ≤ byte.toNat ∧ byte.toNat ≤ 0x5A ∨ 0x61 ≤ byte.toNat ∧ byte.toNat ≤ 0x7A ∨
        0x30 ≤ byte.toNat ∧ byte.toNat ≤ 0x39 ∨ byte.toNat = 0x5F := by
  simp only [IsWordByte, UInt8.le_iff_toNat_le, ← UInt8.toNat_inj, UInt8.reduceToNat]

theorem continuesWord_iff (char : Char) :
    continuesWord char = true ↔
      0x41 ≤ char.toNat ∧ char.toNat ≤ 0x5A ∨ 0x61 ≤ char.toNat ∧ char.toNat ≤ 0x7A ∨
        0x30 ≤ char.toNat ∧ char.toNat ≤ 0x39 ∨ char.toNat = 0x5F := by
  have underscore : char = '_' ↔ char.toNat = 0x5F := Char.toNat_inj.symm
  have digit : char.isDigit = true ↔ 0x30 ≤ char.toNat ∧ char.toNat ≤ 0x39 := by
    simp only [Char.isDigit, Bool.and_eq_true, decide_eq_true_eq, ge_iff_le,
      UInt32.le_iff_toNat_le]
    rfl
  rw [continuesWord, Char.isAlphanum, Bool.or_eq_true, Bool.or_eq_true, Text.isAlpha_iff, digit,
    beq_iff_eq, underscore, or_assoc, or_assoc]

/-- Every byte of a character continues a word if and only if the character does. -/
theorem isWordByte_iff_of_mem
    {char : Char}
    {byte : UInt8}
    (member : byte ∈ String.utf8EncodeChar char) :
    IsWordByte byte ↔ continuesWord char = true := by
  rw [isWordByte_iff, continuesWord_iff]
  rcases Utf8.utf8EncodeChar_cases char with ⟨only, bytes, value, -⟩ | ⟨large, others⟩
  · rw [bytes, List.mem_singleton] at member
    rw [member, value]
  · have largeByte := others byte member
    omega

theorem endsBeside_some_iff
    {char : Char}
    {byte : UInt8}
    (member : byte ∈ String.utf8EncodeChar char) :
    endsBeside (some char) = true ↔ ∀ other ∈ some byte, ¬ IsWordByte other := by
  simp [endsBeside, isWordByte_iff_of_mem member]

theorem endsBeside_head?_iff (text : Text) :
    endsBeside text.head? = true ↔ ∀ byte ∈ (encode text).head?, ¬ IsWordByte byte := by
  cases text with
  | nil => exact iff_of_true rfl (by simp)
  | cons char rest =>
    obtain ⟨byte, member, first⟩ := Utf8.exists_head?_encode_cons char rest
    rw [first, List.head?_cons]
    exact endsBeside_some_iff member

theorem endsBeside_getLast?_iff (text : Text) :
    endsBeside text.getLast? = true ↔ ∀ byte ∈ (encode text).getLast?, ¬ IsWordByte byte := by
  rcases List.eq_nil_or_concat text with rfl | ⟨front, char, rfl⟩
  · exact iff_of_true rfl (by simp)
  · rw [List.concat_eq_append]
    obtain ⟨byte, member, last⟩ := Utf8.exists_getLast?_encode_concat front char
    rw [last, List.getLast?_concat]
    exact endsBeside_some_iff member

theorem toNat_lowerByte (byte : UInt8) :
    (lowerByte byte).toNat =
      if 0x41 ≤ byte.toNat ∧ byte.toNat ≤ 0x5A then byte.toNat + 0x20 else byte.toNat := by
  have distance : (0x20 : UInt8).toNat = 0x20 := rfl
  simp only [lowerByte, UInt8.le_iff_toNat_le, UInt8.reduceToNat]
  split
  · rw [UInt8.toNat_add, distance]
    omega
  · rfl

theorem le_toNat_lowerByte_iff (byte : UInt8) :
    0x80 ≤ (lowerByte byte).toNat ↔ 0x80 ≤ byte.toNat := by
  rw [toNat_lowerByte]
  split <;> omega

theorem lowerByte_eq_iff
    {left right : Char}
    {leftByte rightByte : UInt8}
    (leftValue : leftByte.toNat = left.toNat)
    (rightValue : rightByte.toNat = right.toNat) :
    lowerByte leftByte = lowerByte rightByte ↔ Text.sameLetter left right = true := by
  rw [← UInt8.toNat_inj, toNat_lowerByte, toNat_lowerByte, leftValue, rightValue, Text.sameLetter,
    beq_iff_eq, ← Char.toNat_inj, Text.toNat_toLower, Text.toNat_toLower]

/-- A text starts with a word of letters if and only if its first bytes are those of the word, up to
the case of ASCII letters. -/
theorem map_lowerByte_eq_iff
    {word : Text}
    (letters : ∀ letter ∈ word, letter.isAlpha = true)
    (text : Text) :
    (encode word).map lowerByte = ((encode text).take word.byteLength).map lowerByte ↔
      Text.startsWith word text = true := by
  induction word generalizing text with
  | nil => simp [Text.startsWith]
  | cons letter word inductionHypothesis =>
    obtain ⟨isLetter, others⟩ := List.forall_mem_cons.mp letters
    obtain ⟨first, firstBytes, firstValue, small, size⟩ := Utf8.exists_byte_of_isAlpha isLetter
    rw [Utf8.encode_cons, firstBytes, List.singleton_append, Text.byteLength_cons, size,
      Nat.add_comm]
    cases text with
    | nil => simp [Text.startsWith]
    | cons char rest =>
      rw [Text.startsWith, Bool.and_eq_true]
      rcases Utf8.utf8EncodeChar_cases char with ⟨byte, bytes, value, -⟩ | ⟨large, largeBytes⟩
      · rw [Utf8.encode_cons, bytes, List.singleton_append, List.take_succ_cons, List.map_cons,
          List.map_cons, List.cons.injEq, lowerByte_eq_iff firstValue value,
          inductionHypothesis others rest]
      · obtain ⟨byte, member, head⟩ := Utf8.exists_head?_encode_cons char rest
        have largeByte := largeBytes byte member
        refine iff_of_false (fun equal => ?_) fun starts => ?_
        · have heads := congrArg List.head? equal
          rw [List.map_cons, List.head?_cons, List.head?_map, List.head?_take,
            if_neg (Nat.succ_ne_zero _), head, Option.map_some, Option.some.injEq] at heads
          rw [← le_toNat_lowerByte_iff, ← heads, le_toNat_lowerByte_iff, firstValue] at largeByte
          omega
        · have letterBounds :=
            (Text.isAlpha_iff char).mp (Text.isAlpha_of_sameLetter starts.1 isLetter)
          omega

end Keyword
end SqlDump
