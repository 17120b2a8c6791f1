import SqlDump.Proofs.CheckedCuts
import SqlDump.Proofs.Literals

/-!
# Classifying literals with every cut checked

The literals of a statement are classified once more, by computations that try every cut at a byte
position and break off when one of them is not possible.  They never break off, and find the same.
-/

namespace SqlDump

namespace Text

/-- A letter of ASCII is one byte. -/
theorem byteLength_of_isAlpha
    {text : Text}
    (letters : ∀ char ∈ text, char.isAlpha = true) :
    byteLength text = text.length := by
  induction text with
  | nil => rfl
  | cons char rest inductionHypothesis =>
    obtain ⟨isLetter, others⟩ := List.forall_mem_cons.mp letters
    have bounds := (isAlpha_iff char).mp isLetter
    have size : char.utf8Size = 1 := by
      rw [Char.utf8Size_eq_one_iff, UInt32.le_iff_toNat_le]
      have value : char.val.toNat = char.toNat := rfl
      have limit : (127 : UInt32).toNat = 127 := rfl
      omega
    rw [byteLength_cons, size, inductionHypothesis others, List.length_cons, Nat.add_comm]

/-- What stands behind a word of letters can be cut off, in any case of the letters. -/
theorem cut?_behind_word
    {word more text : Text}
    (letters : ∀ letter ∈ word, letter.isAlpha = true)
    (starts : startsWith (word ++ more) text = true) :
    cut? text word.byteLength text.byteLength = some (text.drop word.length) := by
  obtain ⟨spelled, rest, rfl, same⟩ :=
    exists_append_of_startsWith (startsWith_of_startsWith_append starts)
  have length := length_of_sameLetters same
  have bytes : word.byteLength = spelled.byteLength := by
    rw [byteLength_of_isAlpha letters, byteLength_of_isAlpha (isAlpha_of_sameLetters same letters),
      length]
  rw [bytes, cut?_behind, ← length, List.drop_left]

end Text

namespace Checked

/-! ## Quoted texts and calls -/

/-- What stands between two marks.  A text of two bytes or more with a mark at either end is cut
behind its first byte and in front of its last. -/
def enclosed? (mark : Char) (text : Text) : Checked (Option Text) :=
  if 2 ≤ text.byteLength ∧ text.head? = some mark ∧ text.getLast? = some mark then do
    let body ← attempt (text.cut? 1 (text.byteLength - 1))
    pure (some body)
  else pure none

/-- A mark of one byte can be cut off at both ends. -/
theorem enclosed?_eq
    {mark : Char}
    (size : mark.utf8Size = 1)
    (text : Text) :
    enclosed? mark text = pure (Quoted.enclosed? mark text) := by
  cases text with
  | nil => rfl
  | cons first rest =>
    by_cases both : first = mark ∧ rest.getLast? = some mark
    · obtain ⟨rfl, last⟩ := both
      obtain ⟨body, rfl⟩ := List.getLast?_eq_some_iff.mp last
      have whole : Text.byteLength (first :: (body ++ [first])) - 1 =
          1 + Text.byteLength body := by
        simp [size, Nat.add_comm]
      have inside := Text.cut?_between [] body [] first first size
      rw [List.nil_append, Text.byteLength_nil, Nat.zero_add] at inside
      have long : 2 ≤ Text.byteLength (first :: (body ++ [first])) := by
        simp [size]
        omega
      have ends : (first :: (body ++ [first])).getLast? = some first := by
        rw [List.getLast?_cons, List.getLast?_concat]
        rfl
      rw [enclosed?, if_pos ⟨long, rfl, ends⟩, whole, attempt_bind inside,
        Quoted.enclosed?_marks]
    · have refused : ¬ (2 ≤ Text.byteLength (first :: rest) ∧ (first :: rest).head? = some mark ∧
          (first :: rest).getLast? = some mark) := by
        rintro ⟨long, head, last⟩
        obtain rfl : first = mark := Option.some.inj head
        cases rest with
        | nil => simp [size] at long
        | cons next later => exact both ⟨rfl, by simpa using last⟩
      rw [enclosed?, if_neg refused, Quoted.enclosed?, if_neg both]

/-- The text of a string literal. -/
def string? (text : Text) : Checked (Option Text) := do
  let body ← enclosed? '\'' text.trim
  pure (body.map (Quoted.undouble '\''))

@[simp] theorem string?_eq (text : Text) : string? text = pure (Quoted.string? text) := by
  rw [string?, enclosed?_eq rfl, pure_bind, Quoted.string?]

/-- The name an identifier stands for. -/
def identifierName (text : Text) : Checked Text := do
  match ← enclosed? '"' text.trim with
  | some body => pure (Quoted.undouble '"' body)
  | none => pure text.trim

@[simp] theorem identifierName_eq (text : Text) :
    identifierName text = pure (Quoted.identifierName text) := by
  rw [identifierName, enclosed?_eq rfl, pure_bind, Quoted.identifierName]
  cases Quoted.enclosed? '"' text.trim <;> rfl

/-- The arguments of a call: the text is cut behind the first opening and in front of the last
closing parenthesis. -/
def callArguments? (call : Text) : Checked (Option Text) :=
  match call.position? (· == '('), call.lastPosition? (· == ')') with
  | some opening, some closing =>
    if opening < closing then do
      let arguments ← attempt (call.cut? (opening + 1) closing)
      pure (some arguments)
    else pure none
  | _, _ => pure none

/-- The parentheses around the arguments are cut off between characters. -/
@[simp] theorem callArguments?_eq (call : Text) :
    callArguments? call = pure (Literal.callArguments? call) := by
  cases opened : call.position? (· == '(') with
  | none =>
    have noOpening : '(' ∉ call := fun member => by
      simpa using (Text.position?_eq_none_iff _ _).mp opened '(' member
    rw [callArguments?, opened, Literal.callArguments?_of_noOpening noOpening]
  | some opening =>
    obtain ⟨front, mark, behind, rfl, rfl, isOpening, others⟩ :=
      Text.exists_append_of_position? opened
    obtain rfl : mark = '(' := by simpa using isOpening
    have noOpening : '(' ∉ front := fun member => by simpa using others '(' member
    have last := Text.lastPosition?_append (· == ')') (front ++ ['(']) behind
    rw [List.append_assoc, List.singleton_append] at last
    have size : Text.byteLength (front ++ ['(']) = front.byteLength + 1 :=
      Text.byteLength_append front ['(']
    rw [Literal.callArguments?_of_opening noOpening]
    cases closed : Text.lastPosition? (· == ')') behind with
    | none =>
      have noClosing : ')' ∉ behind := fun member => by
        simpa using (Text.lastPosition?_eq_none_iff _ _).mp closed ')' member
      rw [closed, Option.map_none, Option.none_or] at last
      rw [Literal.callArguments?_of_noClosing noClosing, callArguments?, opened, last]
      cases earlier : Text.lastPosition? (· == ')') (front ++ ['(']) with
      | none => rfl
      | some closing =>
        have bound := Text.lt_of_lastPosition? earlier
        exact if_neg (by omega)
    | some distance =>
      obtain ⟨arguments, mark, after, rfl, rfl, isClosing, others⟩ :=
        Text.exists_append_of_lastPosition? closed
      obtain rfl : mark = ')' := by simpa using isClosing
      have noClosing : ')' ∉ after := fun member => by simpa using others ')' member
      have inside := Text.cut?_between front arguments after '(' ')' rfl
      rw [closed, Option.map_some, Option.some_or, size] at last
      rw [Literal.callArguments?_of_closing arguments noClosing, callArguments?, opened, last]
      exact (if_pos (by omega)).trans (attempt_bind inside _)

/-- The literal of a conversion call: every argument is unquoted. -/
def ofCall (call : Text) : Checked Literal := do
  match ← callArguments? call with
  | none => throw (.malformedCall call)
  | some arguments =>
    match ← (valueItems arguments).mapM string? with
    | [some value, some format] => pure (.toTimestamp value format none)
    | [some value, some format, some language] =>
      pure (.toTimestamp value format (some language))
    | _ => throw (.malformedCall call)

@[simp] theorem ofCall_eq (call : Text) : ofCall call = of (Literal.ofCall call) := by
  have unquoted (items : List Text) :
      items.mapM string? = pure (items.map Quoted.string?) := by
    rw [← List.mapM_pure]
    exact congrArg (List.mapM · items) (funext string?_eq)
  rw [ofCall, callArguments?_eq, pure_bind, Literal.ofCall]
  cases Literal.callArguments? call with
  | none => rfl
  | some arguments =>
    simp only [unquoted, pure_bind]
    rcases (valueItems arguments).map Quoted.string? with
      _ | ⟨_ | value, _ | ⟨_ | format, _ | ⟨_ | language, _ | ⟨next, rest⟩⟩⟩⟩ <;> rfl

/-! ## Classification -/

/-- Classifies a value: the word in front of a date or a timestamp is cut off. -/
def classify (token : Text) : Checked Literal :=
  let text := token.trim
  if Text.sameLetters Keyword.null text then pure .null
  else if Text.startsWith (Keyword.date ++ [' ', '\'']) text then do
    let behind ← attempt (text.cut? Keyword.date.byteLength text.byteLength)
    pure (.date (Literal.quotedBody behind))
  else if Text.startsWith (Keyword.timestamp ++ [' ', '\'']) text then do
    let behind ← attempt (text.cut? Keyword.timestamp.byteLength text.byteLength)
    pure (.timestamp (Literal.quotedBody behind))
  else if Text.startsWith (Keyword.toTimestamp ++ ['(']) text then ofCall text
  else do
    match ← string? text with
    | some body => pure (.string body)
    | none => pure (Literal.ofNumber text)

/-- Every token is classified without a cut that is not possible. -/
theorem classify_eq (token : Text) : classify token = of (Literal.classify token) := by
  unfold classify Literal.classify
  dsimp only
  split
  · rfl
  split
  · rename_i starts
    rw [attempt_bind (Text.cut?_behind_word (List.all_eq_true.mp rfl) starts)]
    rfl
  split
  · rename_i starts
    rw [attempt_bind (Text.cut?_behind_word (List.all_eq_true.mp rfl) starts)]
    rfl
  split
  · exact ofCall_eq _
  rw [string?_eq, pure_bind]
  cases Quoted.string? token.trim <;> rfl

end Checked
end SqlDump
