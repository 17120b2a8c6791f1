import SqlDump.Text.Search
import SqlDump.Text.Trim

/-!
# Quoted text

A text is quoted by a mark before it, a mark after it and every mark inside it doubled.
Strings use the single quote, identifiers the double quote.
-/

namespace SqlDump
namespace Quoted

/-- A text with every mark written twice. -/
def double (mark : Char) : Text → Text
  | [] => []
  | char :: rest =>
    if char = mark then mark :: mark :: double mark rest else char :: double mark rest

/-- A text with every doubled mark written once, read from left to right. -/
def undouble (mark : Char) : Text → Text
  | [] => []
  | [char] => [char]
  | char :: next :: rest =>
    if char = mark ∧ next = mark then mark :: undouble mark rest
    else char :: undouble mark (next :: rest)

/-- The quoted form of a text. -/
def quote (mark : Char) (text : Text) : Text :=
  mark :: (double mark text ++ [mark])

theorem quote_append (mark : Char) (text back : Text) :
    quote mark text ++ back = mark :: (double mark text ++ mark :: back) := by
  rw [quote, List.cons_append, List.append_assoc, List.singleton_append]

/-- What stands between the mark a text begins with and the mark it ends with. -/
def enclosed? (mark : Char) : Text → Option Text
  | [] => none
  | char :: rest =>
    if char = mark ∧ rest.getLast? = some mark then some rest.dropLast else none

@[simp] theorem enclosed?_marks (mark : Char) (body : Text) :
    enclosed? mark (mark :: (body ++ [mark])) = some body := by
  simp [enclosed?]

theorem eq_of_enclosed? (mark : Char) (text body : Text)
    (found : enclosed? mark text = some body) : text = mark :: (body ++ [mark]) := by
  cases text with
  | nil => simp [enclosed?] at found
  | cons char rest =>
    by_cases both : char = mark ∧ rest.getLast? = some mark
    · simp only [enclosed?, both, and_self, if_true, Option.some.injEq] at found
      obtain ⟨front, restEquality⟩ := List.getLast?_eq_some_iff.mp both.2
      subst restEquality
      simp only [List.dropLast_concat] at found
      rw [both.1, found]
    · simp [enclosed?, both] at found

/-- Doubling is undone by undoubling. -/
theorem undouble_double (mark : Char) (text : Text) :
    undouble mark (double mark text) = text := by
  induction text with
  | nil => rfl
  | cons char rest inductionHypothesis =>
    by_cases marked : char = mark
    · simp [double, undouble, marked, inductionHypothesis]
    · cases tail : double mark rest with
      | nil =>
        rw [tail] at inductionHypothesis
        simp [double, undouble, marked, ← inductionHypothesis]
      | cons next later =>
        rw [tail] at inductionHypothesis
        simp [double, undouble, marked, tail, inductionHypothesis]

theorem double_append (mark : Char) (front back : Text) :
    double mark (front ++ back) = double mark front ++ double mark back := by
  induction front with
  | nil => rfl
  | cons char rest inductionHypothesis =>
    rw [List.cons_append, double, double, inductionHypothesis]
    split <;> rfl

theorem double_of_not_mem {mark : Char} {text : Text} (absent : mark ∉ text) :
    double mark text = text := by
  induction text with
  | nil => rfl
  | cons char rest inductionHypothesis =>
    rw [List.mem_cons, not_or] at absent
    rw [double, if_neg (Ne.symm absent.1), inductionHypothesis absent.2]

/-- The text of a string literal, surrounding white space aside. -/
def string? (text : Text) : Option Text :=
  (enclosed? '\'' text.trim).map (undouble '\'')

/-- The name an identifier stands for: a quoted one is unquoted, a bare one only trimmed. -/
def identifierName (text : Text) : Text :=
  match enclosed? '"' text.trim with
  | some body => undouble '"' body
  | none => text.trim

/-- Byte position of the quote that closes a string, where `text` stands at byte position
`position` inside the string. -/
def closingQuoteFrom? (position : Nat) : Text → Option Nat
  | [] => none
  | [char] => if char = '\'' then some position else none
  | char :: next :: rest =>
    if char = '\'' then
      if next = '\'' then closingQuoteFrom? (position + 2) rest else some position
    else closingQuoteFrom? (position + char.utf8Size) (next :: rest)

/-- Byte position of the quote that closes the string opened at byte position `opening`. -/
def closingQuote? (text : Text) (opening : Nat) : Option Nat :=
  match text.suffixAt? opening with
  | some ('\'' :: rest) => closingQuoteFrom? (opening + 1) rest
  | _ => none

/-- The quote that closes a string is searched behind the one that opens it. -/
theorem closingQuote?_append (front rest : Text) :
    closingQuote? (front ++ '\'' :: rest) front.byteLength =
      closingQuoteFrom? (front.byteLength + 1) rest := by
  simp only [closingQuote?, Text.suffixAt?_byteLength_append]

end Quoted
end SqlDump
