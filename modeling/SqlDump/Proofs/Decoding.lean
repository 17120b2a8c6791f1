import Mathlib.Tactic.SplitIfs
import SqlDump.Text.Utf8

/-!
# Decoding undoes encoding

The bytes that spell a code point are told by ranges of their values.  The classification of bytes
gathered one at a time agrees with these ranges: it recognizes what spells a code point, waits for
what can be completed to that, and refuses the rest.  Decoding therefore finds the longest text
whose encoding the bytes start with, and it fails exactly where no further bytes could help.
-/

namespace SqlDump
namespace Utf8

/-! ## Bytes as numbers -/

theorem isTail_iff (byte : UInt8) :
    isTail byte = true ↔ 0x80 ≤ byte.toNat ∧ byte.toNat ≤ 0xBF := by
  simp [isTail, UInt8.le_iff_toNat_le]

theorem mayFollow_iff (first second : UInt8) :
    mayFollow first second = true ↔
      0x80 ≤ second.toNat ∧ second.toNat ≤ 0xBF ∧
        (first.toNat = 0xE0 → 0xA0 ≤ second.toNat) ∧
        (first.toNat = 0xED → second.toNat ≤ 0x9F) ∧
        (first.toNat = 0xF0 → 0x90 ≤ second.toNat) ∧
        (first.toNat = 0xF4 → second.toNat ≤ 0x8F) := by
  have literal (value : UInt8) : first = value ↔ first.toNat = value.toNat :=
    UInt8.toNat_inj.symm
  simp only [mayFollow, literal, UInt8.reduceToNat]
  split_ifs <;>
    simp only [Bool.and_eq_true, decide_eq_true_eq, UInt8.le_iff_toNat_le, UInt8.reduceToNat,
      isTail_iff] <;>
    omega

theorem payload_eq (byte : UInt8) : payload byte = byte.toNat - 0x80 := rfl

theorem ofNat_eq_of_toNat
    (byte : UInt8)
    {value : Nat}
    (same : value = byte.toNat) :
    UInt8.ofNat value = byte := by
  rw [same, UInt8.ofNat_toNat]

theorem toNat_ofNat {point : Nat} (valid : point.isValidChar) :
    (Char.ofNat point).toNat = point := by
  rw [Char.ofNat, dif_pos valid]
  rfl

/-! ## Spelling a code point -/

/-- The bytes that spell a code point. -/
inductive Spells : Nat → List UInt8 → Prop where
  | one {first : UInt8}
      (bounds : first.toNat ≤ 0x7F) :
      Spells first.toNat [first]
  | two {first second : UInt8}
      (bounds : 0xC2 ≤ first.toNat ∧ first.toNat ≤ 0xDF)
      (tail : isTail second = true) :
      Spells ((first.toNat - 0xC0) * 0x40 + payload second) [first, second]
  | three {first second third : UInt8}
      (bounds : 0xE0 ≤ first.toNat ∧ first.toNat ≤ 0xEF)
      (follows : mayFollow first second = true)
      (tail : isTail third = true) :
      Spells ((first.toNat - 0xE0) * 0x1000 + payload second * 0x40 + payload third)
        [first, second, third]
  | four {first second third fourth : UInt8}
      (bounds : 0xF0 ≤ first.toNat ∧ first.toNat ≤ 0xF4)
      (follows : mayFollow first second = true)
      (thirdTail : isTail third = true)
      (fourthTail : isTail fourth = true) :
      Spells
        ((first.toNat - 0xF0) * 0x40000 + payload second * 0x1000 + payload third * 0x40 +
          payload fourth)
        [first, second, third, fourth]

/-- Bytes that start the spelling of a code point and are not all of it. -/
inductive Started : List UInt8 → Prop where
  | nil : Started []
  | one {first : UInt8}
      (bounds : 0xC2 ≤ first.toNat ∧ first.toNat ≤ 0xF4) :
      Started [first]
  | two {first second : UInt8}
      (bounds : 0xE0 ≤ first.toNat ∧ first.toNat ≤ 0xF4)
      (follows : mayFollow first second = true) :
      Started [first, second]
  | three {first second third : UInt8}
      (bounds : 0xF0 ≤ first.toNat ∧ first.toNat ≤ 0xF4)
      (follows : mayFollow first second = true)
      (tail : isTail third = true) :
      Started [first, second, third]

namespace Spells

variable {point : Nat} {bytes : List UInt8}

theorem of_eq
    (spells : Spells point bytes)
    {other : Nat}
    (same : point = other) :
    Spells other bytes :=
  same ▸ spells

/-- The encoding of a character spells its code point. -/
theorem utf8EncodeChar (char : Char) : Spells char.toNat (String.utf8EncodeChar char) := by
  have valid : char.toNat < 0xD800 ∨ 0xDFFF < char.toNat ∧ char.toNat < 0x110000 := char.valid
  have value : char.val.toNat = char.toNat := rfl
  simp only [String.utf8EncodeChar, value]
  generalize char.toNat = point at valid
  split_ifs with short medium long
  · refine (one ?_).of_eq ?_ <;> simp only [UInt8.toNat_ofNat'] <;> omega
  · refine (two ?_ ?_).of_eq ?_ <;>
      simp only [isTail_iff, payload_eq, UInt8.toNat_ofNat'] <;> omega
  · refine (three ?_ ?_ ?_).of_eq ?_ <;>
      simp only [isTail_iff, mayFollow_iff, payload_eq, UInt8.toNat_ofNat'] <;> omega
  · refine (four ?_ ?_ ?_ ?_).of_eq ?_ <;>
      simp only [isTail_iff, mayFollow_iff, payload_eq, UInt8.toNat_ofNat'] <;> omega

theorem isValidChar (spells : Spells point bytes) : point.isValidChar := by
  change point < 0xD800 ∨ 0xDFFF < point ∧ point < 0x110000
  cases spells with
  | one bounds => omega
  | two bounds tail =>
    rw [isTail_iff] at tail
    unfold payload
    omega
  | three bounds follows tail =>
    rw [isTail_iff] at tail
    rw [mayFollow_iff] at follows
    unfold payload
    omega
  | four bounds follows thirdTail fourthTail =>
    rw [isTail_iff] at thirdTail fourthTail
    rw [mayFollow_iff] at follows
    unfold payload
    omega

/-- The bytes that spell a code point are the encoding of its character. -/
theorem utf8EncodeChar_ofNat (spells : Spells point bytes) :
    String.utf8EncodeChar (Char.ofNat point) = bytes := by
  have value : (Char.ofNat point).val.toNat = point := toNat_ofNat spells.isValidChar
  simp only [String.utf8EncodeChar, value]
  cases spells with
  | one bounds => rw [if_pos bounds, UInt8.ofNat_toNat]
  | @two first second bounds tail =>
    rw [isTail_iff] at tail
    unfold payload
    rw [if_neg (by omega), if_pos (by omega), ofNat_eq_of_toNat first (by omega),
      ofNat_eq_of_toNat second (by omega)]
  | @three first second third bounds follows tail =>
    rw [isTail_iff] at tail
    rw [mayFollow_iff] at follows
    unfold payload
    rw [if_neg (by omega), if_neg (by omega), if_pos (by omega),
      ofNat_eq_of_toNat first (by omega), ofNat_eq_of_toNat second (by omega),
      ofNat_eq_of_toNat third (by omega)]
  | @four first second third fourth bounds follows thirdTail fourthTail =>
    rw [isTail_iff] at thirdTail fourthTail
    rw [mayFollow_iff] at follows
    unfold payload
    rw [if_neg (by omega), if_neg (by omega), if_neg (by omega),
      ofNat_eq_of_toNat first (by omega), ofNat_eq_of_toNat second (by omega),
      ofNat_eq_of_toNat third (by omega), ofNat_eq_of_toNat fourth (by omega)]

/-- All but the last of the bytes that spell a code point start it. -/
theorem exists_concat (spells : Spells point bytes) :
    ∃ begun last, bytes = begun ++ [last] ∧ Started begun := by
  cases spells with
  | @one first bounds => exact ⟨[], first, rfl, .nil⟩
  | @two first second bounds tail => exact ⟨[first], second, rfl, .one (by omega)⟩
  | @three first second third bounds follows tail =>
    exact ⟨[first, second], third, rfl, .two (by omega) follows⟩
  | @four first second third fourth bounds follows thirdTail fourthTail =>
    exact ⟨[first, second, third], fourth, rfl, .three bounds follows thirdTail⟩

end Spells

theorem exists_mayFollow (first : UInt8) : ∃ second, mayFollow first second = true := by
  by_cases narrow : first.toNat = 0xE0 ∨ first.toNat = 0xF0
  · refine ⟨0xA0, ?_⟩
    have second : (0xA0 : UInt8).toNat = 0xA0 := rfl
    rw [mayFollow_iff]
    omega
  · refine ⟨0x80, ?_⟩
    have second : (0x80 : UInt8).toNat = 0x80 := rfl
    rw [mayFollow_iff]
    omega

/-- What starts a code point can be completed to the spelling of one. -/
theorem Started.exists_spells {begun : List UInt8} (started : Started begun) :
    ∃ more point, Spells point (begun ++ more) := by
  have tail : isTail 0x80 = true := rfl
  have behindTwo {first second : UInt8}
      (bounds : 0xE0 ≤ first.toNat ∧ first.toNat ≤ 0xF4)
      (follows : mayFollow first second = true) :
      ∃ more point, Spells point (first :: second :: more) := by
    by_cases short : first.toNat < 0xF0
    · exact ⟨[0x80], _, .three (by omega) follows tail⟩
    · exact ⟨[0x80, 0x80], _, .four (by omega) follows tail tail⟩
  cases started with
  | nil => exact ⟨[0], _, .one (by decide)⟩
  | @one first bounds =>
    obtain ⟨second, follows⟩ := exists_mayFollow first
    by_cases short : first.toNat < 0xE0
    · rw [mayFollow_iff] at follows
      exact ⟨[second], _, .two (by omega) (by rw [isTail_iff]; omega)⟩
    · obtain ⟨more, point, spells⟩ := behindTwo (by omega) follows
      exact ⟨second :: more, point, spells⟩
  | two bounds follows => exact behindTwo bounds follows
  | three bounds follows thirdTail => exact ⟨[0x80], _, .four bounds follows thirdTail tail⟩

/-! ## Classifying the bytes gathered -/

theorem classify_one (first : UInt8) :
    classify [first] =
      if first.toNat < 0x80 then .whole (Char.ofNat first.toNat)
      else if 0xC2 ≤ first.toNat ∧ first.toNat ≤ 0xF4 then .started
      else .illFormed := by
  simp [classify, UInt8.lt_iff_toNat_lt, UInt8.le_iff_toNat_le]

theorem classify_two (first second : UInt8) :
    classify [first, second] =
      if mayFollow first second = true then
        if first.toNat < 0xE0 then
          .whole (Char.ofNat ((first.toNat - 0xC0) * 0x40 + payload second))
        else .started
      else .illFormed := by
  by_cases follows : mayFollow first second = true <;>
    simp [classify, follows, UInt8.lt_iff_toNat_lt]

theorem classify_three (first second third : UInt8) :
    classify [first, second, third] =
      if isTail third = true then
        if first.toNat < 0xF0 then
          .whole (Char.ofNat
            ((first.toNat - 0xE0) * 0x1000 + payload second * 0x40 + payload third))
        else .started
      else .illFormed := by
  by_cases tail : isTail third = true <;> simp [classify, tail, UInt8.lt_iff_toNat_lt]

theorem classify_four (first second third fourth : UInt8) :
    classify [first, second, third, fourth] =
      if isTail fourth = true then
        .whole (Char.ofNat
          ((first.toNat - 0xF0) * 0x40000 + payload second * 0x1000 + payload third * 0x40 +
            payload fourth))
      else .illFormed := by
  by_cases tail : isTail fourth = true <;> simp [classify, tail]

/-- The spelling of a code point is recognized as its character. -/
theorem Spells.classify_eq
    {point : Nat}
    {bytes : List UInt8}
    (spells : Spells point bytes) :
    classify bytes = .whole (Char.ofNat point) := by
  cases spells with
  | one bounds => rw [classify_one, if_pos (by omega)]
  | @two first second bounds tail =>
    have follows : mayFollow first second = true := by
      rw [isTail_iff] at tail
      rw [mayFollow_iff]
      omega
    rw [classify_two, if_pos follows, if_pos (by omega)]
  | three bounds follows tail => rw [classify_three, if_pos tail, if_pos (by omega)]
  | four bounds follows thirdTail fourthTail => rw [classify_four, if_pos fourthTail]

theorem Started.classify_eq
    {begun : List UInt8}
    (started : Started begun)
    (nonempty : begun ≠ []) :
    classify begun = .started := by
  cases started with
  | nil => exact absurd rfl nonempty
  | one bounds => rw [classify_one, if_neg (by omega), if_pos bounds]
  | two bounds follows => rw [classify_two, if_pos follows, if_neg (by omega)]
  | three bounds follows tail => rw [classify_three, if_pos tail, if_neg (by omega)]

/-- What a classification says about the bytes. -/
def Progress.Holds (bytes : List UInt8) : Progress → Prop
  | .whole char => ∃ point, Spells point bytes ∧ char = Char.ofNat point
  | .started => Started bytes
  | .illFormed => True

/-- One more byte behind the start of a character is classified rightly. -/
theorem Started.classify_concat
    {begun : List UInt8}
    (started : Started begun)
    (byte : UInt8) :
    (classify (begun ++ [byte])).Holds (begun ++ [byte]) := by
  cases started with
  | nil =>
    rw [List.nil_append, classify_one]
    split_ifs with whole starts
    · exact ⟨_, .one (by omega), rfl⟩
    · exact .one starts
    · trivial
  | @one first bounds =>
    change (classify [first, byte]).Holds [first, byte]
    rw [classify_two]
    split_ifs with follows whole
    · rw [mayFollow_iff] at follows
      exact ⟨_, .two (by omega) (by rw [isTail_iff]; omega), rfl⟩
    · exact .two (by omega) follows
    · trivial
  | @two first second bounds follows =>
    change (classify [first, second, byte]).Holds [first, second, byte]
    rw [classify_three]
    split_ifs with tail whole
    · exact ⟨_, .three (by omega) follows tail, rfl⟩
    · exact .three (by omega) follows tail
    · trivial
  | @three first second third bounds follows tail =>
    change (classify [first, second, third, byte]).Holds [first, second, third, byte]
    rw [classify_four]
    split_ifs with fourthTail
    · exact ⟨_, .four bounds follows tail fourthTail, rfl⟩
    · trivial

/-! ## Decoding -/

/-- Bytes that start a character are gathered. -/
theorem decodeFrom_started
    {begun : List UInt8}
    (started : Started begun)
    (valid : Nat)
    (rest : List UInt8) :
    decodeFrom [] valid (begun ++ rest) = decodeFrom begun valid rest := by
  cases started with
  | nil => rfl
  | one bounds =>
    have one := (Started.one bounds).classify_eq (by simp)
    simp [decodeFrom, one]
  | two bounds follows =>
    have one := (Started.one ⟨by omega, bounds.2⟩).classify_eq (by simp)
    have two := (Started.two bounds follows).classify_eq (by simp)
    simp [decodeFrom, one, two]
  | three bounds follows tail =>
    have one := (Started.one ⟨by omega, bounds.2⟩).classify_eq (by simp)
    have two := (Started.two ⟨by omega, bounds.2⟩ follows).classify_eq (by simp)
    have three := (Started.three bounds follows tail).classify_eq (by simp)
    simp [decodeFrom, one, two, three]

/-- An encoded character is decoded. -/
theorem decodeFrom_utf8EncodeChar_append
    (char : Char)
    (valid : Nat)
    (rest : List UInt8) :
    decodeFrom [] valid (String.utf8EncodeChar char ++ rest) =
      (decodeFrom [] (valid + (String.utf8EncodeChar char).length) rest).map
        fun found => (char :: found.1, found.2) := by
  have spells := Spells.utf8EncodeChar char
  have whole := spells.classify_eq
  rw [Char.ofNat_toNat] at whole
  generalize String.utf8EncodeChar char = bytes at spells whole
  obtain ⟨begun, last, rfl, started⟩ := spells.exists_concat
  rw [List.append_assoc, decodeFrom_started started, List.singleton_append, decodeFrom]
  simp only [whole]
  cases decodeFrom [] (valid + (begun ++ [last]).length) rest <;> rfl

/-- An encoded text is decoded. -/
theorem decodeFrom_encode_append (text : Text) (valid : Nat) (rest : List UInt8) :
    decodeFrom [] valid (encode text ++ rest) =
      (decodeFrom [] (valid + (encode text).length) rest).map
        fun found => (text ++ found.1, found.2) := by
  induction text generalizing valid with
  | nil =>
    rw [encode_nil, List.nil_append, List.length_nil, Nat.add_zero]
    cases decodeFrom [] valid rest <;> rfl
  | cons char later inductionHypothesis =>
    have split : encode (char :: later) = String.utf8EncodeChar char ++ encode later := rfl
    rw [split, List.append_assoc, decodeFrom_utf8EncodeChar_append, inductionHypothesis,
      List.length_append, Nat.add_assoc]
    cases decodeFrom [] _ rest <;> rfl

/-- Bytes that go on in a way no character does. -/
def IllFormed (bytes : List UInt8) : Prop :=
  ∃ begun byte more, bytes = begun ++ byte :: more ∧ Started begun ∧
    classify (begun ++ [byte]) = .illFormed

theorem IllFormed.append
    {bytes : List UInt8}
    (illFormed : IllFormed bytes)
    (rest : List UInt8) :
    IllFormed (bytes ++ rest) := by
  obtain ⟨begun, byte, more, rfl, started, classified⟩ := illFormed
  exact ⟨begun, byte, more ++ rest, by simp, started, classified⟩

theorem decode_of_started
    (text : Text)
    {unfinished : List UInt8}
    (started : Started unfinished) :
    decode (encode text ++ unfinished) = .ok (text, unfinished) := by
  have rest := decodeFrom_started started (0 + (encode text).length) []
  rw [List.append_nil] at rest
  rw [decode, decodeFrom_encode_append, rest]
  simp [decodeFrom, Except.map]

theorem decode_of_illFormed
    (text : Text)
    {rest : List UInt8}
    (illFormed : IllFormed rest) :
    decode (encode text ++ rest) = .error (encode text).length := by
  obtain ⟨begun, byte, more, rfl, started, classified⟩ := illFormed
  rw [decode, decodeFrom_encode_append, decodeFrom_started started, decodeFrom]
  simp [classified, Except.map]

/-- An encoded text is decoded to that text. -/
theorem decode_encode (text : Text) : decode (encode text) = .ok (text, []) := by
  simpa using decode_of_started text .nil

theorem exists_text_append_of_started
    (begun bytes : List UInt8)
    (started : Started begun) :
    ∃ text rest, begun ++ bytes = encode text ++ rest ∧ (Started rest ∨ IllFormed rest) := by
  induction bytes generalizing begun with
  | nil => exact ⟨[], begun, by simp, .inl started⟩
  | cons byte later inductionHypothesis =>
    have holds := started.classify_concat byte
    cases classified : classify (begun ++ [byte]) with
    | whole char =>
      rw [classified] at holds
      obtain ⟨point, spells, rfl⟩ := holds
      obtain ⟨text, rest, whole, ending⟩ := inductionHypothesis [] .nil
      refine ⟨Char.ofNat point :: text, rest, ?_, ending⟩
      have split : encode (Char.ofNat point :: text) =
          String.utf8EncodeChar (Char.ofNat point) ++ encode text := rfl
      rw [split, spells.utf8EncodeChar_ofNat, List.append_assoc (begun ++ [byte]), ← whole]
      simp
    | started =>
      rw [classified] at holds
      obtain ⟨text, rest, whole, ending⟩ := inductionHypothesis (begun ++ [byte]) holds
      exact ⟨text, rest, by rw [← whole]; simp, ending⟩
    | illFormed =>
      exact ⟨[], begun ++ byte :: later, rfl,
        .inr ⟨begun, byte, later, rfl, started, classified⟩⟩

/-- Any bytes are the encoding of a text, with the start of a character or with ill-formed bytes
behind it. -/
theorem exists_text_append (bytes : List UInt8) :
    ∃ text rest, bytes = encode text ++ rest ∧ (Started rest ∨ IllFormed rest) :=
  exists_text_append_of_started [] bytes .nil

/-! ## Well-formed starts -/

/-- Whether more bytes can complete some bytes to the encoding of a text. -/
def StartsText (bytes : List UInt8) : Prop :=
  ∃ more text, encode text = bytes ++ more

/-- The longest text whose encoding some bytes start with. -/
structure IsLongestText (bytes : List UInt8) (text : Text) : Prop where
  isPrefix : encode text <+: bytes
  longest : ∀ other, encode other <+: bytes → (encode other).length ≤ (encode text).length

theorem startsText_of_started
    (text : Text)
    {unfinished : List UInt8}
    (started : Started unfinished) :
    StartsText (encode text ++ unfinished) := by
  obtain ⟨more, point, spells⟩ := started.exists_spells
  refine ⟨more, text ++ [Char.ofNat point], ?_⟩
  have last : encode [Char.ofNat point] = unfinished ++ more := by
    rw [← spells.utf8EncodeChar_ofNat]
    exact List.append_nil _
  rw [encode_append, last, List.append_assoc]

theorem not_startsText_of_illFormed
    (text : Text)
    {rest : List UInt8}
    (illFormed : IllFormed rest) :
    ¬StartsText (encode text ++ rest) := by
  rintro ⟨more, whole, complete⟩
  have failed := decode_of_illFormed text (illFormed.append more)
  rw [← List.append_assoc, ← complete, decode_encode] at failed
  cases failed

theorem Started.not_illFormed {bytes : List UInt8} (started : Started bytes) :
    ¬IllFormed bytes := fun illFormed =>
  not_startsText_of_illFormed [] illFormed (startsText_of_started [] started)

theorem encode_injective {left right : Text} (same : encode left = encode right) :
    left = right := by
  have decoded := decode_encode left
  rw [same, decode_encode] at decoded
  exact (Prod.mk.inj (Except.ok.inj decoded)).1.symm

/-- Bytes fall in one way only into a text and what no text can go on with. -/
theorem text_append_unique
    {left right : Text}
    {leftRest rightRest : List UInt8}
    (same : encode left ++ leftRest = encode right ++ rightRest)
    (leftEnding : Started leftRest ∨ IllFormed leftRest)
    (rightEnding : Started rightRest ∨ IllFormed rightRest) :
    left = right ∧ leftRest = rightRest := by
  have length : (encode left).length = (encode right).length := by
    rcases leftEnding with leftStarted | leftIllFormed <;>
      rcases rightEnding with rightStarted | rightIllFormed
    · have decoded := decode_of_started left leftStarted
      rw [same, decode_of_started right rightStarted] at decoded
      cases decoded
      rfl
    · exact absurd (same ▸ startsText_of_started left leftStarted)
        (not_startsText_of_illFormed right rightIllFormed)
    · exact absurd (same ▸ startsText_of_started right rightStarted)
        (not_startsText_of_illFormed left leftIllFormed)
    · have decoded := decode_of_illFormed left leftIllFormed
      rw [same, decode_of_illFormed right rightIllFormed] at decoded
      exact (Except.error.inj decoded).symm
  obtain ⟨sameStart, sameRest⟩ := List.append_inj same length
  exact ⟨encode_injective sameStart, sameRest⟩

theorem isLongestText_append
    (text : Text)
    {rest : List UInt8}
    (ending : Started rest ∨ IllFormed rest) :
    IsLongestText (encode text ++ rest) text := by
  refine ⟨List.prefix_append _ _, ?_⟩
  rintro other ⟨back, whole⟩
  obtain ⟨later, remaining, rfl, otherEnding⟩ := exists_text_append back
  rw [← List.append_assoc, ← encode_append] at whole
  obtain ⟨rfl, -⟩ := text_append_unique whole otherEnding ending
  simp

end Utf8
end SqlDump
