import SqlDump.Text.Search
import SqlDump.Unicode.CaseIgnorable
import SqlDump.Unicode.Cased
import SqlDump.Unicode.LowerCase
import SqlDump.Unicode.UpperCase
import SqlDump.Unicode.WhiteSpace

/-!
# Letter case

Keywords are compared without regard to the case of ASCII letters; every other character stands
for itself.  Names are compared by their lower-case forms, which know the letters of every
script and write a sigma that ends a word as final sigma.
-/

namespace SqlDump
namespace Text

/-- Whether two characters are equal up to the case of an ASCII letter. -/
def sameLetter (left right : Char) : Bool :=
  left.toLower == right.toLower

/-- Whether a text starts with `lead`, up to the case of ASCII letters. -/
def startsWith (lead : Text) (text : Text) : Bool :=
  match lead, text with
  | [], _ => true
  | _ :: _, [] => false
  | expected :: lead, char :: rest => sameLetter expected char && startsWith lead rest

/-- Whether two texts are equal up to the case of ASCII letters. -/
def sameLetters (left right : Text) : Bool :=
  left.length == right.length && startsWith left right

@[simp] theorem sameLetter_self (char : Char) : sameLetter char char = true := by
  simp [sameLetter]

/-- Letters that are equal up to case are equal to the same letters. -/
theorem sameLetter_congr
    {letter char : Char}
    (same : sameLetter letter char = true)
    (other : Char) :
    sameLetter other char = sameLetter other letter := by
  rw [sameLetter, sameLetter, beq_iff_eq.mp same]

@[simp] theorem startsWith_self_append (lead rest : Text) :
    startsWith lead (lead ++ rest) = true := by
  induction lead with
  | nil => rfl
  | cons char lead inductionHypothesis => simp [startsWith, inductionHypothesis]

theorem sameLetters_self (word : Text) : sameLetters word word = true := by
  have starts := startsWith_self_append word []
  rw [List.append_nil] at starts
  simp [sameLetters, starts]

theorem isUpper_iff (char : Char) :
    char.isUpper = true ↔ 65 ≤ char.toNat ∧ char.toNat ≤ 90 := by
  change decide (char.val ≥ 'A'.val ∧ char.val ≤ 'Z'.val) = true ↔ _
  simp [UInt32.le_iff_toNat_le]

theorem isLower_iff (char : Char) :
    char.isLower = true ↔ 97 ≤ char.toNat ∧ char.toNat ≤ 122 := by
  change (decide (char.val ≥ 'a'.val) && decide (char.val ≤ 'z'.val)) = true ↔ _
  simp [UInt32.le_iff_toNat_le]

theorem isAlpha_iff (char : Char) :
    char.isAlpha = true ↔
      (65 ≤ char.toNat ∧ char.toNat ≤ 90) ∨ (97 ≤ char.toNat ∧ char.toNat ≤ 122) := by
  change (char.isUpper || char.isLower) = true ↔ _
  rw [Bool.or_eq_true, isUpper_iff, isLower_iff]

theorem toNat_toLower (char : Char) :
    char.toLower.toNat =
      if 65 ≤ char.toNat ∧ char.toNat ≤ 90 then char.toNat + 32 else char.toNat := by
  have bounds : (char.val ≥ 'A'.val ∧ char.val ≤ 'Z'.val) ↔
      (65 ≤ char.toNat ∧ char.toNat ≤ 90) := by
    simp [UInt32.le_iff_toNat_le]
  by_cases capital : 65 ≤ char.toNat ∧ char.toNat ≤ 90
  · have sum : (char.val + ('a'.val - 'A'.val)).toNat = char.toNat + 32 := by
      have distance : ('a'.val - 'A'.val).toNat = 32 := rfl
      have value : char.val.toNat = char.toNat := rfl
      rw [UInt32.toNat_add, distance, value]
      omega
    rw [if_pos capital]
    exact (congrArg Char.toNat (dif_pos (bounds.mpr capital))).trans sum
  · rw [if_neg capital]
    exact congrArg Char.toNat (dif_neg (mt bounds.mp capital))

/-- What equals an ASCII letter up to case is an ASCII letter. -/
theorem isAlpha_of_sameLetter
    {letter char : Char}
    (same : sameLetter letter char = true)
    (isLetter : letter.isAlpha = true) :
    char.isAlpha = true := by
  have equal : letter.toLower.toNat = char.toLower.toNat := by
    rw [sameLetter, beq_iff_eq] at same
    rw [same]
  rw [toNat_toLower, toNat_toLower] at equal
  rw [isAlpha_iff] at isLetter ⊢
  split at equal <;> split at equal <;> omega

/-- Only letters have another case. -/
theorem eq_of_sameLetter
    {mark char : Char}
    (noLetter : mark.isAlpha = false)
    (same : sameLetter mark char = true) :
    char = mark := by
  have equal : mark.toLower.toNat = char.toLower.toNat := by
    rw [sameLetter, beq_iff_eq] at same
    rw [same]
  rw [toNat_toLower, toNat_toLower] at equal
  rw [Bool.eq_false_iff, ne_eq, isAlpha_iff] at noLetter
  apply Char.toNat_inj.mp
  split at equal <;> split at equal <;> omega

theorem ne_of_isAlpha
    {letter mark : Char}
    (isLetter : letter.isAlpha = true)
    (noLetter : mark.isAlpha = false) :
    letter ≠ mark := by
  rintro rfl
  rw [isLetter] at noLetter
  cases noLetter

theorem isWhiteSpace_of_isAlpha {char : Char} (isLetter : char.isAlpha = true) :
    Unicode.isWhiteSpace char = false := by
  rw [isAlpha_iff] at isLetter
  simp only [Unicode.isWhiteSpace, Bool.or_eq_false_iff, Bool.and_eq_false_iff,
    decide_eq_false_iff_not, beq_eq_false_iff_ne]
  omega

theorem sameLetter_of_isWhiteSpace
    {letter char : Char}
    (isLetter : letter.isAlpha = true)
    (white : Unicode.isWhiteSpace char = true) :
    sameLetter letter char = false := by
  rw [Bool.eq_false_iff]
  intro same
  rw [isWhiteSpace_of_isAlpha (isAlpha_of_sameLetter same isLetter)] at white
  exact Bool.false_ne_true white

/-- A text that equals a word up to case has the letters of the word. -/
theorem sameLetters_cons_iff (expected : Char) (lead text : Text) :
    sameLetters (expected :: lead) text = true ↔
      ∃ char rest, text = char :: rest ∧ sameLetter expected char = true ∧
        sameLetters lead rest = true := by
  cases text with
  | nil => simp [sameLetters]
  | cons char rest =>
    simp only [sameLetters, startsWith, List.length_cons, Bool.and_eq_true, beq_iff_eq,
      Nat.add_right_cancel_iff, List.cons.injEq]
    constructor
    · rintro ⟨length, same, later⟩
      exact ⟨char, rest, ⟨rfl, rfl⟩, same, length, later⟩
    · rintro ⟨_, _, ⟨rfl, rfl⟩, same, length, later⟩
      exact ⟨length, same, later⟩

theorem sameLetters_nil_iff (text : Text) : sameLetters [] text = true ↔ text = [] := by
  cases text <;> simp [sameLetters, startsWith]

theorem forall_mem_of_sameLetters
    {word text : Text}
    {property : Char → Prop}
    (same : sameLetters word text = true)
    (holds : ∀ expected ∈ word, ∀ char, sameLetter expected char = true → property char) :
    ∀ char ∈ text, property char := by
  induction word generalizing text with
  | nil =>
    rw [sameLetters_nil_iff] at same
    simp [same]
  | cons expected lead inductionHypothesis =>
    obtain ⟨char, rest, rfl, sameFirst, sameRest⟩ := (sameLetters_cons_iff _ _ _).mp same
    have first := holds expected List.mem_cons_self char sameFirst
    have others := inductionHypothesis sameRest fun other member =>
      holds other (List.mem_cons_of_mem _ member)
    exact List.forall_mem_cons.mpr ⟨first, others⟩

theorem isAlpha_of_sameLetters
    {word text : Text}
    (same : sameLetters word text = true)
    (letters : ∀ letter ∈ word, letter.isAlpha = true) :
    ∀ char ∈ text, char.isAlpha = true :=
  forall_mem_of_sameLetters same fun letter member _ sameLetter =>
    isAlpha_of_sameLetter sameLetter (letters letter member)

/-- A text that equals a word up to case starts what follows it with the word. -/
theorem startsWith_append
    {word text : Text}
    (same : sameLetters word text = true)
    (rest : Text) :
    startsWith word (text ++ rest) = true := by
  induction word generalizing text with
  | nil => rfl
  | cons expected lead inductionHypothesis =>
    obtain ⟨char, later, rfl, sameFirst, sameRest⟩ := (sameLetters_cons_iff _ _ _).mp same
    rw [List.cons_append, startsWith, sameFirst, inductionHypothesis sameRest]
    rfl

theorem startsWith_of_startsWith_append
    {lead more text : Text}
    (starts : startsWith (lead ++ more) text = true) :
    startsWith lead text = true := by
  induction lead generalizing text with
  | nil => rfl
  | cons letter lead inductionHypothesis =>
    cases text with
    | nil => cases starts
    | cons char rest =>
      rw [List.cons_append, startsWith, Bool.and_eq_true] at starts
      rw [startsWith, starts.1, inductionHypothesis starts.2]
      rfl

theorem length_of_sameLetters {word text : Text} (same : sameLetters word text = true) :
    text.length = word.length := by
  simp only [sameLetters, Bool.and_eq_true, beq_iff_eq] at same
  exact same.1.symm

/-- A text that starts with a lead has the letters of the lead in front. -/
theorem exists_append_of_startsWith
    {lead text : Text}
    (starts : startsWith lead text = true) :
    ∃ word rest, text = word ++ rest ∧ sameLetters lead word = true := by
  induction lead generalizing text with
  | nil => exact ⟨[], text, rfl, rfl⟩
  | cons letter lead inductionHypothesis =>
    cases text with
    | nil => cases starts
    | cons char later =>
      rw [startsWith, Bool.and_eq_true] at starts
      obtain ⟨word, rest, rfl, same⟩ := inductionHypothesis starts.2
      refine ⟨char :: word, rest, rfl, ?_⟩
      exact (sameLetters_cons_iff _ _ _).mpr ⟨char, word, rfl, starts.1, same⟩

/-- Whether the first character that is not case-ignorable is a cased one. -/
def meetsCased (text : Text) : Bool :=
  match text.find? (!Unicode.isCaseIgnorable ·) with
  | some char => Unicode.isCased char
  | none => false

/-- Lower-case form of a text that follows the characters of `reversed`, nearest first: a sigma
is final when a cased character stands before it and none behind it. -/
def lowerCaseAfter (reversed : Text) : Text → Text
  | [] => []
  | char :: rest =>
    let lower :=
      if char = 'Σ' then
        if meetsCased reversed && !meetsCased rest then ['ς'] else ['σ']
      else Unicode.lowerCase char
    lower ++ lowerCaseAfter (char :: reversed) rest

/-- Lower-case form of a text. -/
def lowerCase (text : Text) : Text :=
  lowerCaseAfter [] text

/-- Whether a text holds a word of capital letters once its letters are made upper case.  Beside
the letters of ASCII, the characters whose upper-case form contains such letters take part. -/
def includesInUpperCase (text : Text) (word : Text) : Bool :=
  includes (text.flatMap Unicode.upperCaseLetters) word

end Text
end SqlDump
