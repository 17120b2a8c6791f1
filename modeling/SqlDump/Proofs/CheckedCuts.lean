import SqlDump.Error
import SqlDump.Text.Basic

/-!
# Cuts that may fail

Texts are cut at byte positions that come out of searches.  A cut is possible only between
characters, and only when the part it takes does not end in front of its start.  A checked
computation tries every cut and breaks off at the first one that is not possible; whatever else it
does, it does as the computation without checks.
-/

namespace SqlDump

namespace Text

/-- A position is no boundary exactly when nothing can be read from it. -/
theorem isBoundary_iff (text : Text) (offset : Nat) :
    text.IsBoundary offset ↔ (text.suffixAt? offset).isSome = true := by
  constructor
  · rintro ⟨front, back, rfl, rfl⟩
    rw [suffixAt?_byteLength_append]
    rfl
  · intro reached
    obtain ⟨back, found⟩ := Option.isSome_iff_exists.mp reached
    obtain ⟨front, whole, length⟩ := exists_append_of_suffixAt? found
    exact ⟨front, back, whole, length⟩

instance (text : Text) (offset : Nat) : Decidable (text.IsBoundary offset) :=
  decidable_of_iff _ (text.isBoundary_iff offset).symm

/-- The part of a text between two byte positions, if they are in order and neither cuts a
character in two or lies behind the text. -/
def cut? (text : Text) (start stop : Nat) : Option Text :=
  if start ≤ stop ∧ text.IsBoundary start ∧ text.IsBoundary stop then
    some (text.slice start stop)
  else none

theorem slice_of_cut?
    {text part : Text}
    {start stop : Nat}
    (cut : cut? text start stop = some part) :
    text.slice start stop = part := by
  unfold cut? at cut
  split at cut
  · exact Option.some.inj cut
  · cases cut

/-- A part can be cut out between the ends of two front parts. -/
theorem cut?_append (front middle back : Text) :
    cut? (front ++ (middle ++ back)) front.byteLength (front ++ middle).byteLength =
      some middle := by
  have start : IsBoundary (front ++ (middle ++ back)) front.byteLength := ⟨front, _, rfl, rfl⟩
  have stop : IsBoundary (front ++ (middle ++ back)) (front ++ middle).byteLength :=
    ⟨front ++ middle, back, by rw [List.append_assoc], rfl⟩
  have slice := slice_append front middle back
  rw [List.append_assoc, ← byteLength_append] at slice
  rw [cut?, if_pos ⟨by simp, start, stop⟩, slice]

/-- What stands in front of a boundary can be cut off. -/
theorem cut?_front (front back : Text) :
    cut? (front ++ back) 0 front.byteLength = some front :=
  cut?_append [] front back

/-- What stands behind a boundary can be cut off. -/
theorem cut?_behind (front back : Text) :
    cut? (front ++ back) front.byteLength (front ++ back).byteLength = some back := by
  have whole := cut?_append front back []
  rwa [List.append_nil] at whole

/-- What stands between two characters of one byte can be cut out. -/
theorem cut?_between
    (front inner back : Text)
    (first last : Char)
    (size : first.utf8Size = 1) :
    cut? (front ++ first :: (inner ++ last :: back)) (front.byteLength + 1)
        (front.byteLength + 1 + inner.byteLength) =
      some inner := by
  have inside := cut?_append (front ++ [first]) inner (last :: back)
  simpa [size, Nat.add_assoc] using inside

/-! ## First and last positions -/

/-- What is found first stands behind a part that has nothing of its kind. -/
theorem exists_append_of_position?
    {accepts : Char → Bool}
    {text : Text}
    {found : Nat}
    (located : position? accepts text = some found) :
    ∃ (front : Text) (char : Char) (back : Text), text = front ++ char :: back ∧
      found = front.byteLength ∧ accepts char = true ∧ ∀ other ∈ front, accepts other = false := by
  induction text generalizing found with
  | nil => cases located
  | cons first rest inductionHypothesis =>
    rw [position?] at located
    split at located
    · rename_i accepted
      cases located
      exact ⟨[], first, rest, rfl, rfl, accepted, by simp⟩
    · rename_i refused
      obtain ⟨distance, foundLater, rfl⟩ := Option.map_eq_some_iff.mp located
      obtain ⟨front, char, back, rfl, rfl, accepted, others⟩ := inductionHypothesis foundLater
      refine ⟨first :: front, char, back, rfl, rfl, accepted, ?_⟩
      exact List.forall_mem_cons.mpr ⟨by simpa using refused, others⟩

theorem position?_eq_none_iff (accepts : Char → Bool) (text : Text) :
    position? accepts text = none ↔ ∀ char ∈ text, accepts char = false := by
  induction text with
  | nil => simp [position?]
  | cons first rest inductionHypothesis =>
    rw [position?]
    split
    · rename_i accepted
      simp [accepted]
    · rename_i refused
      simp [inductionHypothesis, refused]

/-- Byte position of the last character of a kind. -/
def lastPosition? (accepts : Char → Bool) : Text → Option Nat
  | [] => none
  | char :: rest =>
    match lastPosition? accepts rest with
    | some distance => some (char.utf8Size + distance)
    | none => if accepts char then some 0 else none

theorem lastPosition?_eq_none_iff (accepts : Char → Bool) (text : Text) :
    lastPosition? accepts text = none ↔ ∀ char ∈ text, accepts char = false := by
  induction text with
  | nil => simp [lastPosition?]
  | cons first rest inductionHypothesis =>
    rw [lastPosition?, List.forall_mem_cons, ← inductionHypothesis]
    cases lastPosition? accepts rest <;> simp

/-- The last character of a kind stands in the back part, unless that has none. -/
theorem lastPosition?_append (accepts : Char → Bool) (front back : Text) :
    lastPosition? accepts (front ++ back) =
      ((lastPosition? accepts back).map (front.byteLength + ·)).or
        (lastPosition? accepts front) := by
  induction front with
  | nil => cases found : lastPosition? accepts back <;> simp [lastPosition?, found]
  | cons first rest inductionHypothesis =>
    rw [List.cons_append, lastPosition?, inductionHypothesis, lastPosition?]
    cases lastPosition? accepts back with
    | none => rfl
    | some distance => simp [Nat.add_assoc]

/-- What is found last stands in front of a part that has nothing of its kind. -/
theorem exists_append_of_lastPosition?
    {accepts : Char → Bool}
    {text : Text}
    {found : Nat}
    (located : lastPosition? accepts text = some found) :
    ∃ (front : Text) (char : Char) (back : Text), text = front ++ char :: back ∧
      found = front.byteLength ∧ accepts char = true ∧ ∀ other ∈ back, accepts other = false := by
  induction text generalizing found with
  | nil => cases located
  | cons first rest inductionHypothesis =>
    rw [lastPosition?] at located
    cases later : lastPosition? accepts rest with
    | none =>
      rw [later] at located
      obtain ⟨accepted, rfl⟩ : accepts first = true ∧ 0 = found := by simpa using located
      exact ⟨[], first, rest, rfl, rfl, accepted, (lastPosition?_eq_none_iff _ _).mp later⟩
    | some distance =>
      rw [later] at located
      cases located
      obtain ⟨front, char, back, rfl, rfl, accepted, others⟩ := inductionHypothesis later
      exact ⟨first :: front, char, back, rfl, rfl, accepted, others⟩

theorem lt_of_lastPosition?
    {accepts : Char → Bool}
    {text : Text}
    {found : Nat}
    (located : lastPosition? accepts text = some found) :
    found < byteLength text := by
  obtain ⟨front, char, back, rfl, rfl, -, -⟩ := exists_append_of_lastPosition? located
  have size : 0 < char.utf8Size := Char.utf8Size_pos char
  rw [byteLength_append, byteLength_cons]
  omega

end Text

/-! ## Checked computations -/

/-- A computation that ends in a value or an error, unless it breaks off. -/
abbrev Checked (α : Type) := ExceptT Error Option α

namespace Checked

variable {α β : Type}

/-- A computation that does not break off. -/
def of (outcome : Except Error α) : Checked α :=
  ExceptT.mk (some outcome)

/-- A value, unless there is none: then the computation breaks off. -/
def attempt (value : Option α) : Checked α :=
  ExceptT.mk (value.map .ok)

@[simp] theorem of_ok (value : α) : of (.ok value) = pure value := rfl

@[simp] theorem of_error (error : Error) : (of (.error error) : Checked α) = throw error := rfl

@[simp] theorem attempt_some (value : α) : attempt (some value) = pure value := rfl

/-- Computations one after the other do not break off when neither does. -/
theorem of_bind
    (first : Except Error α)
    {checked : α → Checked β}
    {next : α → Except Error β}
    (agrees : ∀ value, first = .ok value → checked value = of (next value)) :
    of first >>= checked = of (first >>= next) := by
  cases first with
  | error error => rfl
  | ok value => exact agrees value rfl

/-- A value that exists is passed on. -/
theorem attempt_bind
    {value : Option α}
    {present : α}
    (found : value = some present)
    (checked : α → Checked β) :
    attempt value >>= checked = checked present := by
  rw [found]
  rfl

end Checked
end SqlDump
