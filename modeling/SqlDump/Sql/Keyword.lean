import SqlDump.Sql.Region
import SqlDump.Text.LetterCase

/-!
# Keywords in a statement

A keyword is found as a whole word, in any case of its ASCII letters, outside strings and quoted
identifiers.
-/

namespace SqlDump
namespace Keyword

/-- The word that opens the statements a dump is loaded from. -/
def insert : Text := ['I', 'N', 'S', 'E', 'R', 'T']

/-- The word in front of the target of an INSERT. -/
def into : Text := ['I', 'N', 'T', 'O']

/-- The word in front of the values of an INSERT. -/
def values : Text := ['V', 'A', 'L', 'U', 'E', 'S']

/-- The word for the null value. -/
def null : Text := ['N', 'U', 'L', 'L']

/-- The word in front of a date. -/
def date : Text := ['D', 'A', 'T', 'E']

/-- The word in front of a timestamp. -/
def timestamp : Text := ['T', 'I', 'M', 'E', 'S', 'T', 'A', 'M', 'P']

/-- The name of the conversion from text to timestamp. -/
def toTimestamp : Text := ['T', 'O', '_', 'T', 'I', 'M', 'E', 'S', 'T', 'A', 'M', 'P']

/-- The characters that continue a keyword into a longer word: ASCII letters, ASCII digits and
the underscore. -/
def continuesWord (char : Char) : Bool :=
  char.isAlphanum || char == '_'

theorem continuesWord_of_isWhiteSpace
    {char : Char}
    (white : Unicode.isWhiteSpace char = true) :
    continuesWord char = false := by
  rw [Bool.eq_false_iff]
  intro continuing
  simp only [continuesWord, Char.isAlphanum, Bool.or_eq_true, beq_iff_eq] at continuing
  rcases continuing with (letter | digit) | rfl
  · rw [Text.isWhiteSpace_of_isAlpha letter] at white
    exact Bool.false_ne_true white
  · simp only [Char.isDigit, Bool.and_eq_true, decide_eq_true_eq, UInt32.le_iff_toNat_le,
      ge_iff_le] at digit
    obtain ⟨first, last⟩ : 48 ≤ char.toNat ∧ char.toNat ≤ 57 := digit
    simp only [Unicode.isWhiteSpace, Bool.or_eq_true, Bool.and_eq_true, decide_eq_true_eq,
      beq_iff_eq] at white
    omega
  · exact absurd white (by decide)

theorem isWhiteSpace_of_continuesWord {char : Char} (continues : continuesWord char = true) :
    Unicode.isWhiteSpace char = false := by
  rw [Bool.eq_false_iff]
  intro white
  rw [continuesWord_of_isWhiteSpace white] at continues
  exact Bool.false_ne_true continues

theorem continuesWord_of_isDigit {char : Char} (digit : char.isDigit = true) :
    continuesWord char = true := by
  simp [continuesWord, Char.isAlphanum, digit]

/-- Whether a word can end, or start, next to a neighbour, if there is one. -/
def endsBeside (neighbour : Option Char) : Bool :=
  match neighbour with
  | some char => !continuesWord char
  | none => true

/-- Whether `text`, which follows the character `previous`, begins with the keyword as a whole
word. -/
def begins (keyword : Text) (previous : Option Char) (text : Text) : Bool :=
  Text.startsWith keyword text && endsBeside previous &&
    endsBeside (text.drop keyword.length).head?

/-- Byte position of the keyword in `text`, which stands at byte position `position` in a
region, behind the character `previous`.  Up to byte position `start` everything is skipped and
counts as plain text. -/
def locateFrom? (keyword : Text) (start : Nat) (region : Region) (previous : Option Char)
    (position : Nat) : Text → Option Nat
  | [] => none
  | char :: rest =>
    if position < start then
      locateFrom? keyword start .plain (some char) (position + char.utf8Size) rest
    else if region = .plain ∧ char ≠ '\'' ∧ char ≠ '"' ∧ begins keyword previous (char :: rest) then
      some position
    else
      locateFrom? keyword start (region.next char) (some char) (position + char.utf8Size) rest

/-- Byte position of the first occurrence of a keyword at or after byte position `start`, which
is taken to lie outside quotes.  The empty keyword occurs nowhere. -/
def locate? (keyword : Text) (text : Text) (start : Nat) : Option Nat :=
  if keyword.isEmpty then none else locateFrom? keyword start .plain none 0 text

/-! ## Passing over text -/

/-- Text in front of the start of a search is skipped. -/
theorem locateFrom?_skip
    (keyword : Text)
    (start position : Nat)
    (previous : Option Char)
    (front rest : Text)
    (reaches : position + front.byteLength = start) :
    ∃ neighbour, locateFrom? keyword start .plain previous position (front ++ rest) =
      locateFrom? keyword start .plain neighbour start rest := by
  induction front generalizing position previous with
  | nil =>
    subst reaches
    exact ⟨previous, rfl⟩
  | cons char later inductionHypothesis =>
    have size : 0 < char.utf8Size := Char.utf8Size_pos char
    rw [Text.byteLength_cons] at reaches
    have early : position < start := by omega
    obtain ⟨neighbour, found⟩ :=
      inductionHypothesis (position + char.utf8Size) (some char) (by omega)
    refine ⟨neighbour, ?_⟩
    rw [List.cons_append, locateFrom?, if_pos early, found]

/-- Characters that neither quote nor start a keyword are passed over. -/
theorem locateFrom?_pass
    (letter : Char)
    (word : Text)
    (start position : Nat)
    {region : Region}
    (previous : Option Char)
    (front rest : Text)
    (behind : start ≤ position)
    (passed : ∀ char ∈ front,
      char ≠ '\'' ∧ char ≠ '"' ∧ Text.sameLetter letter char = false) :
    locateFrom? (letter :: word) start region previous position (front ++ rest) =
      locateFrom? (letter :: word) start region (front.getLast?.or previous)
        (position + front.byteLength) rest := by
  induction front generalizing position previous with
  | nil => rfl
  | cons char later inductionHypothesis =>
    obtain ⟨noString, noIdentifier, otherLetter⟩ := passed char List.mem_cons_self
    have absent : begins (letter :: word) previous (char :: (later ++ rest)) = false := by
      simp [begins, Text.startsWith, otherLetter]
    have stays : region.next char = region := by
      cases region <;> simp [Region.next, noString, noIdentifier]
    have others := inductionHypothesis (position + char.utf8Size) (some char) (by omega)
      fun other member => passed other (List.mem_cons_of_mem _ member)
    rw [List.cons_append, locateFrom?, if_neg (Nat.not_lt.mpr behind), absent,
      if_neg (by simp), stays, others, Text.getLast?_cons_or, Text.byteLength_cons, Nat.add_assoc]

/-- A keyword, in any case of its letters, begins between neighbours that end words. -/
theorem begins_append
    {keyword word : Text}
    (same : Text.sameLetters keyword word = true)
    (previous : Option Char)
    (rest : Text)
    (endsBefore : endsBeside previous = true)
    (endsBehind : endsBeside rest.head? = true) :
    begins keyword previous (word ++ rest) = true := by
  have length : keyword.length = word.length := (Text.length_of_sameLetters same).symm
  rw [begins, Text.startsWith_append same, endsBefore, length, List.drop_left, endsBehind]
  rfl

/-- A keyword is found when only passed characters stand before it. -/
theorem locateFrom?_append
    {letter : Char}
    {keyword word : Text}
    (same : Text.sameLetters (letter :: keyword) word = true)
    (isLetter : letter.isAlpha = true)
    (start position : Nat)
    (previous : Option Char)
    (passed rest : Text)
    (behind : start ≤ position)
    (passes : ∀ char ∈ passed,
      char ≠ '\'' ∧ char ≠ '"' ∧ Text.sameLetter letter char = false)
    (endsBefore : ∃ char, passed.getLast? = some char ∧ continuesWord char = false)
    (endsBehind : endsBeside rest.head? = true) :
    locateFrom? (letter :: keyword) start .plain previous position
        (passed ++ (word ++ rest)) =
      some (position + passed.byteLength) := by
  obtain ⟨last, lastEquality, ends⟩ := endsBefore
  have begun := begins_append same (some last) rest (by simp [endsBeside, ends]) endsBehind
  obtain ⟨first, later, rfl, sameFirst, -⟩ := (Text.sameLetters_cons_iff _ _ _).mp same
  have firstLetter := Text.isAlpha_of_sameLetter sameFirst isLetter
  have noString : first ≠ '\'' := by
    rintro rfl
    exact absurd firstLetter (by decide)
  have noIdentifier : first ≠ '"' := by
    rintro rfl
    exact absurd firstLetter (by decide)
  rw [locateFrom?_pass letter keyword _ _ _ passed _ behind passes, lastEquality,
    Option.some_or, List.cons_append, locateFrom?,
    if_neg (Nat.not_lt.mpr (Nat.le_trans behind (Nat.le_add_right _ _))),
    if_pos ⟨rfl, noString, noIdentifier, by simpa using begun⟩]

/-- A keyword behind the start of a search is found when only passed characters stand before. -/
theorem locate?_append
    {letter : Char}
    {keyword word : Text}
    (same : Text.sameLetters (letter :: keyword) word = true)
    (isLetter : letter.isAlpha = true)
    (front passed rest : Text)
    (passes : ∀ char ∈ passed,
      char ≠ '\'' ∧ char ≠ '"' ∧ Text.sameLetter letter char = false)
    (endsBefore : ∃ char, passed.getLast? = some char ∧ continuesWord char = false)
    (endsBehind : endsBeside rest.head? = true) :
    locate? (letter :: keyword) (front ++ (passed ++ (word ++ rest))) front.byteLength =
      some (front.byteLength + passed.byteLength) := by
  obtain ⟨neighbour, skipped⟩ := locateFrom?_skip (letter :: keyword) front.byteLength 0 none
    front (passed ++ (word ++ rest)) (Nat.zero_add _)
  rw [locate?, if_neg (by simp), skipped]
  exact locateFrom?_append same isLetter _ _ _ passed rest (Nat.le_refl _) passes endsBefore
    endsBehind

end Keyword
end SqlDump
