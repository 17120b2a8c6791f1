import SqlDump.Json.Number

/-!
# How JSON may be written

A value may be written in many ways: blanks stand anywhere between tokens, the characters of a
string are escaped or not, and the exponent of a number has a sign, leading zeros and either
letter.  The grammar of documents is given here as relations between a phrase and its spellings,
which do not refer to how a document is read.

A phrase keeps the parts of its numbers and the pieces of its strings, for not every text of the
grammar has a value: a number may be larger than any double, and a string may hold one half of a
surrogate pair.  What a number stands for is the one thing that is not said anew here: it is
computed from the parts as `NumberText.value?` computes it.
-/

namespace SqlDump
namespace Json

/-! ## Numbers -/

/-- A run of digits that is not empty. -/
def IsDigits (digits : Text) : Prop :=
  digits ≠ [] ∧ ∀ char ∈ digits, char.isDigit = true

/-- The spellings of a sign, true for minus. -/
inductive WrittenSign : Bool → Text → Prop
  /-- No sign. -/
  | absent : WrittenSign false []
  /-- A plus. -/
  | plus : WrittenSign false ['+']
  /-- A minus. -/
  | minus : WrittenSign true ['-']

/-- The spellings of an exponent. -/
inductive WrittenExponent : Option Int → Text → Prop
  /-- No exponent. -/
  | absent : WrittenExponent none []
  /-- A letter, a sign and digits. -/
  | present
      {mark : Char}
      {negative : Bool}
      {sign digits : Text} :
      mark = 'e' ∨ mark = 'E' →
      WrittenSign negative sign →
      IsDigits digits →
      WrittenExponent (some (Integer.signed negative (Digits.value digits)))
        (mark :: (sign ++ digits))

namespace NumberText

/-- What stands in front of the exponent. -/
def front (number : NumberText) : Text :=
  (if number.negative then ['-'] else []) ++
    (number.whole ++ number.fraction.elim [] ('.' :: ·))

/-- The spellings of a number with the given parts. -/
structure IsWritten (number : NumberText) (text : Text) : Prop where
  /-- Digits stand in front of the point. -/
  wholeDigits : IsDigits number.whole
  /-- A zero in front is the only digit. -/
  noLeadingZero : number.whole.head? = some '0' → number.whole = ['0']
  /-- Digits stand behind the point. -/
  fractionDigits : ∀ digits ∈ number.fraction, IsDigits digits
  /-- The exponent comes last. -/
  exponent : ∃ behind, WrittenExponent number.exponent behind ∧ text = number.front ++ behind

/-- Digits alone spell a number. -/
theorem isWritten_digits
    (digits : Text)
    (nonempty : digits ≠ [])
    (areDigits : digits.all Char.isDigit = true)
    (noLeadingZero : digits.head? = some '0' → digits = ['0']) :
    IsWritten ⟨false, digits, none, none⟩ digits :=
  ⟨⟨nonempty, List.all_eq_true.mp areDigits⟩, noLeadingZero, by simp, [], .absent, by simp [front]⟩

/-- Digits that fit 64 bits stand for an integer. -/
theorem value?_digits {digits : Text} (fits : Digits.value digits < significandLimit) :
    value? ⟨false, digits, none, none⟩ = some (.integer (Digits.value digits)) := by
  simp [value?, fits, Integer.signed]

end NumberText

/-! ## Strings -/

/-- The pieces a string is written with. -/
inductive Piece where
  /-- A character, by itself or by a letter for it. -/
  | char (char : Char)
  /-- A unit of sixteen bits, by its number. -/
  | unit (number : Nat)
  deriving DecidableEq, Repr

namespace Piece

/-- The text that pieces stand for.  A unit is a character, unless it is a surrogate: two of them,
one of either kind, are a character together, and one alone is none. -/
def text? : List Piece → Option Text
  | [] => some []
  | .char first :: rest => (text? rest).map (first :: ·)
  | .unit number :: rest =>
    if 0xD800 ≤ number ∧ number ≤ 0xDBFF then
      match rest with
      | .unit low :: rest =>
        if 0xDC00 ≤ low ∧ low ≤ 0xDFFF then
          (text? rest).map (Char.ofNat (0x10000 + (number - 0xD800) * 0x400 + (low - 0xDC00)) :: ·)
        else none
      | _ => none
    else if 0xDC00 ≤ number ∧ number ≤ 0xDFFF then none
    else (text? rest).map (Char.ofNat number :: ·)

theorem text?_map_char (text : Text) : text? (text.map .char) = some text := by
  induction text with
  | nil => rfl
  | cons first rest inductionHypothesis =>
    rw [List.map_cons, text?, inductionHypothesis]
    rfl

end Piece

/-- A hexadecimal digit, in either case, with its value. -/
def IsHexDigit (digit : Char) (value : Nat) : Prop :=
  "0123456789abcdef".toList[value]? = some digit ∨ "0123456789ABCDEF".toList[value]? = some digit

/-- The spellings of a unit of sixteen bits: four hexadecimal digits. -/
inductive WrittenUnit : Nat → Text → Prop
  /-- Four digits, the most significant one first. -/
  | digits
      {first second third fourth : Char}
      {a b c d : Nat} :
      IsHexDigit first a →
      IsHexDigit second b →
      IsHexDigit third c →
      IsHexDigit fourth d →
      WrittenUnit (16 * (16 * (16 * a + b) + c) + d) [first, second, third, fourth]

/-- The letters that stand for characters behind a backslash. -/
def escapes : List (Char × Char) :=
  [('"', '"'), ('\\', '\\'), ('/', '/'), ('b', '\x08'), ('f', '\x0c'), ('n', '\n'), ('r', '\r'),
    ('t', '\t')]

/-- The spellings of a piece of a string. -/
inductive WrittenPiece : Piece → Text → Prop
  /-- The character itself, if it is neither a control nor a quote nor a backslash. -/
  | plain
      {char : Char} :
      0x20 ≤ char.toNat →
      char ≠ '"' →
      char ≠ '\\' →
      WrittenPiece (.char char) [char]
  /-- A backslash and a letter. -/
  | letter
      {letter char : Char} :
      (letter, char) ∈ escapes →
      WrittenPiece (.char char) ['\\', letter]
  /-- A backslash, the letter for units and the number of the unit. -/
  | unit
      {number : Nat}
      {digits : Text} :
      WrittenUnit number digits →
      WrittenPiece (.unit number) ('\\' :: 'u' :: digits)

/-- The spellings of pieces inside quotes. -/
inductive WrittenPieces : List Piece → Text → Prop
  /-- Nothing. -/
  | nil : WrittenPieces [] []
  /-- A piece and more. -/
  | cons
      {piece : Piece}
      {pieces : List Piece}
      {written later : Text} :
      WrittenPiece piece written →
      WrittenPieces pieces later →
      WrittenPieces (piece :: pieces) (written ++ later)

/-- The spellings of a string. -/
inductive WrittenString : List Piece → Text → Prop
  /-- Its pieces in quotes. -/
  | quoted
      {pieces : List Piece}
      {written : Text} :
      WrittenPieces pieces written →
      WrittenString pieces ('"' :: (written ++ ['"']))

/-- Whether a character may stand for itself in a string. -/
def isUnescaped (char : Char) : Bool :=
  0x20 ≤ char.toNat ∧ char ≠ '"' ∧ char ≠ '\\'

/-- A text that needs no escapes is spelled by itself. -/
theorem writtenPieces_self
    {text : Text}
    (plain : text.all isUnescaped = true) :
    WrittenPieces (text.map .char) text := by
  induction text with
  | nil => exact .nil
  | cons char rest inductionHypothesis =>
    rw [List.all_cons, Bool.and_eq_true, isUnescaped, decide_eq_true_eq] at plain
    obtain ⟨⟨visible, noQuote, noBackslash⟩, others⟩ := plain
    exact .cons (.plain visible noQuote noBackslash) (inductionHypothesis others)

theorem writtenString_self
    (text : Text)
    (plain : text.all isUnescaped = true) :
    WrittenString (text.map .char) ('"' :: (text ++ ['"'])) :=
  .quoted (writtenPieces_self plain)

/-! ## Phrases -/

/-- A phrase of the grammar. -/
inductive Phrase where
  /-- The word for null. -/
  | null
  /-- The words for the truth values. -/
  | bool (value : Bool)
  /-- A number. -/
  | number (parts : NumberText)
  /-- A string. -/
  | string (pieces : List Piece)
  /-- An array. -/
  | array (items : List Phrase)
  /-- An object, as its members in order. -/
  | object (members : List (List Piece × Phrase))

namespace Phrase

mutual

/-- The value of a phrase.  There is none if a number in it is too large for a double or a string
in it stands for no text. -/
def value? : Phrase → Option Json
  | .null => some .null
  | .bool value => some (.bool value)
  | .number parts => parts.value?
  | .string pieces => (Piece.text? pieces).map .string
  | .array items => (itemValues? items).map .array
  | .object members => (memberValues? members).map .object

/-- The values of the items of an array. -/
def itemValues? : List Phrase → Option (List Json)
  | [] => some []
  | item :: rest => item.value?.bind fun value => (itemValues? rest).map (value :: ·)

/-- The names and the values of the members of an object. -/
def memberValues? : List (List Piece × Phrase) → Option (List (Text × Json))
  | [] => some []
  | (name, phrase) :: rest =>
    (Piece.text? name).bind fun name =>
      phrase.value?.bind fun value => (memberValues? rest).map ((name, value) :: ·)

end

/-- A member with a name that is written without escapes. -/
def named (name : String) (phrase : Phrase) : List Piece × Phrase :=
  (name.toList.map .char, phrase)

end Phrase

/-- A text of blanks only. -/
def IsBlank (text : Text) : Prop :=
  ∀ char ∈ text, char ∈ [' ', '\t', '\n', '\r']

theorem isBlank_nil : IsBlank [] :=
  List.forall_mem_nil _

/-- A text with blanks on both sides. -/
inductive Padded : Text → Text → Prop
  /-- Blanks, the text, blanks. -/
  | between
      {before text after : Text} :
      IsBlank before →
      IsBlank after →
      Padded text (before ++ (text ++ after))

theorem padded_self (text : Text) : Padded text text := by
  have padded : Padded text ([] ++ (text ++ [])) := .between isBlank_nil isBlank_nil
  rwa [List.append_nil] at padded

mutual

/-- The spellings of a phrase. -/
inductive Written : Phrase → Text → Prop
  /-- The word for null. -/
  | null : Written .null ['n', 'u', 'l', 'l']
  /-- The word for true. -/
  | true : Written (.bool true) ['t', 'r', 'u', 'e']
  /-- The word for false. -/
  | false : Written (.bool false) ['f', 'a', 'l', 's', 'e']
  /-- A number. -/
  | number
      {parts : NumberText}
      {text : Text} :
      parts.IsWritten text →
      Written (.number parts) text
  /-- A string. -/
  | string
      {pieces : List Piece}
      {written : Text} :
      WrittenString pieces written →
      Written (.string pieces) written
  /-- An array without items. -/
  | emptyArray
      {blank : Text} :
      IsBlank blank →
      Written (.array []) ('[' :: (blank ++ [']']))
  /-- An array with items. -/
  | array
      {items : List Phrase}
      {text : Text} :
      WrittenItems items text →
      Written (.array items) ('[' :: (text ++ [']']))
  /-- An object without members. -/
  | emptyObject
      {blank : Text} :
      IsBlank blank →
      Written (.object []) ('\x7b' :: (blank ++ ['\x7d']))
  /-- An object with members. -/
  | object
      {members : List (List Piece × Phrase)}
      {text : Text} :
      WrittenMembers members text →
      Written (.object members) ('\x7b' :: (text ++ ['\x7d']))

/-- The spellings of the items of an array, at least one. -/
inductive WrittenItems : List Phrase → Text → Prop
  /-- The last item. -/
  | last
      {item : Phrase}
      {written text : Text} :
      Written item written →
      Padded written text →
      WrittenItems [item] text
  /-- An item, a comma and more. -/
  | more
      {item next : Phrase}
      {rest : List Phrase}
      {written text later : Text} :
      Written item written →
      Padded written text →
      WrittenItems (next :: rest) later →
      WrittenItems (item :: next :: rest) (text ++ ',' :: later)

/-- The spellings of the members of an object, at least one. -/
inductive WrittenMembers : List (List Piece × Phrase) → Text → Prop
  /-- The last member. -/
  | last
      {name : List Piece}
      {quoted label : Text}
      {phrase : Phrase}
      {written text : Text} :
      WrittenString name quoted →
      Padded quoted label →
      Written phrase written →
      Padded written text →
      WrittenMembers [(name, phrase)] (label ++ ':' :: text)
  /-- A member, a comma and more. -/
  | more
      {name : List Piece}
      {quoted label : Text}
      {phrase : Phrase}
      {written text later : Text}
      {next : List Piece × Phrase}
      {rest : List (List Piece × Phrase)} :
      WrittenString name quoted →
      Padded quoted label →
      Written phrase written →
      Padded written text →
      WrittenMembers (next :: rest) later →
      WrittenMembers ((name, phrase) :: next :: rest) (label ++ ':' :: (text ++ ',' :: later))

end

/-- The spellings of a phrase as a whole document, with blanks on both sides. -/
inductive WrittenDocument : Phrase → Text → Prop
  /-- A spelling of the phrase between blanks. -/
  | intro
      {phrase : Phrase}
      {text document : Text} :
      Written phrase text →
      Padded text document →
      WrittenDocument phrase document

/-- Two members with names without escapes make a document without blanks. -/
theorem writtenDocument_named
    (name other : String)
    {phrase otherPhrase : Phrase}
    {text otherText : Text}
    (plain : name.toList.all isUnescaped = true)
    (plainOther : other.toList.all isUnescaped = true)
    (written : Written phrase text)
    (writtenOther : Written otherPhrase otherText) :
    WrittenDocument (.object [Phrase.named name phrase, Phrase.named other otherPhrase])
      ('\x7b' :: ('"' :: (name.toList ++ ['"']) ++
        ':' :: (text ++ ',' :: ('"' :: (other.toList ++ ['"']) ++ ':' :: otherText)) ++
          ['\x7d'])) := by
  have last := WrittenMembers.last (writtenString_self other.toList plainOther) (padded_self _)
    writtenOther (padded_self _)
  have members := WrittenMembers.more (writtenString_self name.toList plain) (padded_self _)
    written (padded_self _) last
  exact .intro (.object members) (padded_self _)

end Json
end SqlDump
