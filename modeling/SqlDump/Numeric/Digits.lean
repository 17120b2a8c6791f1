import SqlDump.Text.Basic

/-!
# Digits

Numbers in texts are runs of the digits zero to nine, most significant first.
-/

namespace SqlDump
namespace Digits

/-- The number a run of digits stands for. -/
def value (digits : Text) : Nat :=
  Nat.ofDigitChars 10 digits 0

/-- The digits of a number, without leading zeros. -/
def ofNat (number : Nat) : Text :=
  Nat.toDigits 10 number

/-- Digits filled up with zeros on the left to a width. -/
def padLeft (width : Nat) (digits : Text) : Text :=
  digits.leftpad width '0'

/-- Digits filled up with zeros on the right to a width. -/
def padRight (width : Nat) (digits : Text) : Text :=
  digits.rightpad width '0'

@[simp] theorem value_ofNat (number : Nat) : value (ofNat number) = number :=
  Nat.ofDigitChars_toDigits (by decide) (by decide)

theorem ofNat_ne_nil (number : Nat) : ofNat number ≠ [] :=
  Nat.toDigits_ne_nil

theorem isDigit_of_mem_ofNat (number : Nat) (char : Char) (member : char ∈ ofNat number) :
    char.isDigit = true :=
  Nat.isDigit_of_mem_toDigits (by decide) (by decide) member

theorem value_append (front back : Text) :
    value (front ++ back) = Nat.ofDigitChars 10 back (value front) := by
  simp [value, Nat.ofDigitChars, List.foldl_append]

/-- Leading zeros do not change the value. -/
@[simp] theorem value_padLeft (width : Nat) (digits : Text) :
    value (padLeft width digits) = value digits := by
  have zeros : ∀ count, Nat.ofDigitChars 10 (List.replicate count '0') 0 = 0 := by
    intro count
    induction count with
    | zero => rfl
    | succ count inductionHypothesis =>
      simpa [List.replicate_succ, Nat.ofDigitChars] using inductionHypothesis
  unfold padLeft List.leftpad
  rw [value_append]
  unfold value
  rw [zeros]

/-- Digits in front of anything else are taken as a whole. -/
theorem takeWhile_dropWhile_append
    {digits rest : Text}
    (areDigits : ∀ char ∈ digits, char.isDigit = true)
    (ends : ∀ char ∈ rest.head?, char.isDigit = false) :
    (digits ++ rest).takeWhile Char.isDigit = digits ∧
      (digits ++ rest).dropWhile Char.isDigit = rest := by
  have stops : rest.takeWhile Char.isDigit = [] ∧ rest.dropWhile Char.isDigit = rest := by
    cases rest with
    | nil => exact ⟨rfl, rfl⟩
    | cons char later =>
      have other : char.isDigit = false := ends char rfl
      simp [other]
  rw [List.takeWhile_append_of_pos areDigits, List.dropWhile_append_of_pos areDigits, stops.1,
    stops.2, List.append_nil]
  exact ⟨rfl, rfl⟩

/-- The longest run of digits a text starts with, up to a length, and what follows it. -/
def span (limit : Nat) (text : Text) : Text × Text :=
  let digits := (text.take limit).takeWhile Char.isDigit
  (digits, text.drop digits.length)

end Digits
end SqlDump
