import SqlDump.Text.Basic

/-!
# UTF-8

A character is encoded in one to four bytes.  A text is decoded byte by byte: the bytes gathered
since the last complete character are a character, the start of one, or neither.
-/

namespace SqlDump
namespace Utf8

/-- What the bytes gathered since the last complete character amount to. -/
inductive Progress where
  /-- They encode a character. -/
  | whole (char : Char)
  /-- They are the start of the encoding of a character. -/
  | started
  /-- No encoding of a character starts with them. -/
  | illFormed
  deriving DecidableEq, Repr, Inhabited

/-- Whether a byte has the form of all bytes of a character but its first. -/
def isTail (byte : UInt8) : Bool :=
  0x80 ≤ byte && byte ≤ 0xBF

/-- Whether a byte may follow a first byte.  Four first bytes narrow the range: no character has
a longer encoding than it needs, none is a surrogate and none lies beyond U+10FFFF. -/
def mayFollow (first second : UInt8) : Bool :=
  if first = 0xE0 then 0xA0 ≤ second && second ≤ 0xBF
  else if first = 0xED then 0x80 ≤ second && second ≤ 0x9F
  else if first = 0xF0 then 0x90 ≤ second && second ≤ 0xBF
  else if first = 0xF4 then 0x80 ≤ second && second ≤ 0x8F
  else isTail second

/-- The number in the lowest six bits of a byte that is no first byte. -/
def payload (byte : UInt8) : Nat :=
  byte.toNat - 0x80

/-- Classifies bytes, all but the last of which are known to start a character. -/
def classify : List UInt8 → Progress
  | [first] =>
    if first < 0x80 then .whole (Char.ofNat first.toNat)
    else if 0xC2 ≤ first && first ≤ 0xF4 then .started
    else .illFormed
  | [first, second] =>
    if !mayFollow first second then .illFormed
    else if first < 0xE0 then .whole (Char.ofNat ((first.toNat - 0xC0) * 0x40 + payload second))
    else .started
  | [first, second, third] =>
    if !isTail third then .illFormed
    else if first < 0xF0 then
      .whole (Char.ofNat
        ((first.toNat - 0xE0) * 0x1000 + payload second * 0x40 + payload third))
    else .started
  | [first, second, third, fourth] =>
    if !isTail fourth then .illFormed
    else
      .whole (Char.ofNat
        ((first.toNat - 0xF0) * 0x40000 + payload second * 0x1000 + payload third * 0x40 +
          payload fourth))
  | _ => .illFormed

/-- Decodes bytes that follow `begun`, the start of a character.  The result is the text and the
start of a character at the end; or, for ill-formed bytes, the number of bytes in front of the
character that fails, where `valid` bytes stand in front of `begun`. -/
def decodeFrom (begun : List UInt8) (valid : Nat) : List UInt8 → Except Nat (Text × List UInt8)
  | [] => .ok ([], begun)
  | byte :: rest =>
    let gathered := begun ++ [byte]
    match classify gathered with
    | .whole char =>
      match decodeFrom [] (valid + gathered.length) rest with
      | .ok (text, unfinished) => .ok (char :: text, unfinished)
      | .error position => .error position
    | .started => decodeFrom gathered valid rest
    | .illFormed => .error valid

/-- Decodes bytes into a text and the start of a character at the end; or tells how many bytes
stand in front of the first ill-formed character. -/
def decode (bytes : List UInt8) : Except Nat (Text × List UInt8) :=
  decodeFrom [] 0 bytes

/-- The text that bytes encode, if they are complete and well formed. -/
def decode? (bytes : List UInt8) : Option Text :=
  match decode bytes with
  | .ok (text, []) => some text
  | _ => none

/-- The encoding of a text. -/
def encode (text : Text) : List UInt8 :=
  text.flatMap String.utf8EncodeChar

@[simp] theorem encode_nil : encode [] = [] := rfl

@[simp] theorem encode_append (front back : Text) :
    encode (front ++ back) = encode front ++ encode back := by
  simp [encode]

theorem length_encode (text : Text) : (encode text).length = text.byteLength := by
  induction text with
  | nil => rfl
  | cons char rest inductionHypothesis =>
    simp only [encode, List.flatMap_cons, List.length_append, String.length_utf8EncodeChar,
      Text.byteLength_cons] at inductionHypothesis ⊢
    omega

end Utf8
end SqlDump
