import SqlDump.Proofs.JsonTokens

/-!
# Strings of written JSON

The pieces of a string are read one after another.  A surrogate of the first kind is kept until the
unit behind it completes the character, so what the pieces in front come to depends on the piece
behind them, and so does whether the string is read at all.
-/

namespace SqlDump
namespace Json

/-- A unit in front of other pieces is written in front of them. -/
theorem WrittenPieces.exists_unit
    {number : Nat}
    {pieces : List Piece}
    {written : Text}
    (spelled : WrittenPieces (.unit number :: pieces) written) :
    ∃ digits later, WrittenUnit number digits ∧ WrittenPieces pieces later ∧
      ∀ rest, written ++ rest = '\\' :: 'u' :: (digits ++ (later ++ rest)) := by
  cases spelled with
  | cons piece others =>
    cases piece with
    | unit unitWritten => exact ⟨_, _, unitWritten, others, fun rest => by simp⟩

namespace Escape

theorem hexDigit?_of_isHexDigit {digit : Char} {value : Nat} (isHexDigit : IsHexDigit digit value) :
    hexDigit? digit = some value := by
  have lower : ∀ value < 16, ("0123456789abcdef".toList[value]?).bind hexDigit? = some value := by
    decide +kernel
  have upper : ∀ value < 16, ("0123456789ABCDEF".toList[value]?).bind hexDigit? = some value := by
    decide +kernel
  rcases isHexDigit with found | found
  · have read := lower value (List.getElem?_eq_some_iff.mp found).1
    rwa [found, Option.bind_some] at read
  · have read := upper value (List.getElem?_eq_some_iff.mp found).1
    rwa [found, Option.bind_some] at read

theorem letter?_of_mem_escapes {letter char : Char} (member : (letter, char) ∈ escapes) :
    letter? letter = some char := by
  have known : ∀ escape ∈ escapes, letter? escape.1 = some escape.2 := by decide
  exact known _ member

end Escape

namespace Token

/-- A character that does not end a string is taken by the escape sequence. -/
theorem sequenceFrom?_string_cons
    {escape : Escape}
    {char : Char}
    (reversed rest : Text)
    (inside : char ≠ '"' ∨ escape ≠ .none) :
    sequenceFrom? (.string reversed escape) (char :: rest) =
      (escape.step? char).bind fun taken =>
        sequenceFrom? (.string (taken.2.toList ++ reversed) taken.1) rest := by
  rw [sequenceFrom?_cons, step?, if_neg fun ends => inside.elim (· ends.1) (· ends.2)]
  cases escape.step? char <;> simp

/-- Four hexadecimal digits complete a unit. -/
theorem sequenceFrom?_writtenUnit
    {unit : Nat}
    {digits : Text}
    (written : WrittenUnit unit digits)
    (first : Option Nat)
    (reversed rest : Text) :
    sequenceFrom? (.string reversed (.hex 0 0 first)) (digits ++ rest) =
      (Escape.complete? unit first).bind fun taken =>
        sequenceFrom? (.string (taken.2.toList ++ reversed) taken.1) rest := by
  cases written with
  | @digits c₁ c₂ c₃ c₄ a b c d one two three four =>
    have inside (count value : Nat) : Escape.hex count value first ≠ .none := by simp
    have stepOne : (Escape.hex 0 0 first).step? c₁ = some (.hex 1 a first, none) := by
      simp [Escape.step?, Escape.hexDigit?_of_isHexDigit one]
    have stepTwo : (Escape.hex 1 a first).step? c₂ = some (.hex 2 (16 * a + b) first, none) := by
      simp [Escape.step?, Escape.hexDigit?_of_isHexDigit two]
    have stepThree : (Escape.hex 2 (16 * a + b) first).step? c₃ =
        some (.hex 3 (16 * (16 * a + b) + c) first, none) := by
      simp [Escape.step?, Escape.hexDigit?_of_isHexDigit three]
    have stepFour : (Escape.hex 3 (16 * (16 * a + b) + c) first).step? c₄ =
        Escape.complete? (16 * (16 * (16 * a + b) + c) + d) first := by
      simp [Escape.step?, Escape.hexDigit?_of_isHexDigit four]
    simp only [List.cons_append, List.nil_append]
    rw [sequenceFrom?_string_cons _ _ (.inr (inside _ _)), stepOne, Option.bind_some,
      sequenceFrom?_string_cons _ _ (.inr (inside _ _)), stepTwo, Option.bind_some,
      sequenceFrom?_string_cons _ _ (.inr (inside _ _)), stepThree, Option.bind_some,
      sequenceFrom?_string_cons _ _ (.inr (inside _ _)), stepFour]
    rfl

/-- A unit of a string is read from its number. -/
theorem sequenceFrom?_unit
    {unit : Nat}
    {digits : Text}
    (written : WrittenUnit unit digits)
    (reversed rest : Text) :
    sequenceFrom? (.string reversed .none) ('\\' :: 'u' :: (digits ++ rest)) =
      (Escape.complete? unit none).bind fun taken =>
        sequenceFrom? (.string (taken.2.toList ++ reversed) taken.1) rest := by
  have backslash : Escape.step? .none '\\' = some (.backslash, none) := rfl
  have start : Escape.step? .backslash 'u' = some (.hex 0 0 none, none) := rfl
  rw [sequenceFrom?_string_cons _ _ (.inl (by decide)), backslash, Option.bind_some,
    sequenceFrom?_string_cons _ _ (.inr (by decide)), start, Option.bind_some]
  exact sequenceFrom?_writtenUnit written none reversed rest

/-- A surrogate of the first kind waits for another one. -/
theorem sequenceFrom?_high
    {unit : Nat}
    {digits : Text}
    (written : WrittenUnit unit digits)
    (high : 0xD800 ≤ unit ∧ unit ≤ 0xDBFF)
    (reversed rest : Text) :
    sequenceFrom? (.string reversed .none) ('\\' :: 'u' :: (digits ++ rest)) =
      sequenceFrom? (.string reversed (.high unit)) rest := by
  have opens : Escape.complete? unit none = some (.high unit, none) := by
    simp [Escape.complete?, Escape.isHigh, high]
  rw [sequenceFrom?_unit written, opens]
  rfl

/-- Behind a surrogate of the first kind a unit completes the character. -/
theorem sequenceFrom?_high_unit
    {high unit : Nat}
    {digits : Text}
    (written : WrittenUnit unit digits)
    (reversed rest : Text) :
    sequenceFrom? (.string reversed (.high high)) ('\\' :: 'u' :: (digits ++ rest)) =
      (Escape.complete? unit (some high)).bind fun taken =>
        sequenceFrom? (.string (taken.2.toList ++ reversed) taken.1) rest := by
  have backslash : (Escape.high high).step? '\\' = some (.highBackslash high, none) := rfl
  have start : (Escape.highBackslash high).step? 'u' = some (.hex 0 0 (some high), none) := rfl
  rw [sequenceFrom?_string_cons _ _ (.inl (by decide)), backslash, Option.bind_some,
    sequenceFrom?_string_cons _ _ (.inr (by simp)), start, Option.bind_some]
  exact sequenceFrom?_writtenUnit written (some high) reversed rest

/-- Behind a surrogate of the first kind nothing but a unit is read. -/
theorem sequenceFrom?_high_eq_none
    {pieces : List Piece}
    {written : Text}
    (spelled : WrittenPieces pieces written)
    (noUnit : ∀ unit later, pieces ≠ .unit unit :: later)
    (high : Nat)
    (reversed rest : Text) :
    sequenceFrom? (.string reversed (.high high)) (written ++ '"' :: rest) = none := by
  have stops {char : Char} (noBackslash : char ≠ '\\') (later : Text) :
      sequenceFrom? (.string reversed (.high high)) (char :: later) = none := by
    rw [sequenceFrom?_string_cons _ _ (.inr (by simp)), Escape.step?, if_neg noBackslash]
    rfl
  cases spelled with
  | nil => exact stops (by decide) _
  | cons piece later =>
    cases piece with
    | plain visible noQuote noBackslash => exact stops noBackslash _
    | @letter letter _ known =>
      have backslash : (Escape.high high).step? '\\' = some (.highBackslash high, none) := rfl
      have other : letter ≠ 'u' := by
        rintro rfl
        exact absurd (Escape.letter?_of_mem_escapes known) (by simp [Escape.letter?])
      rw [List.append_assoc, List.cons_append, sequenceFrom?_string_cons _ _ (.inl (by decide)),
        backslash, Option.bind_some, List.cons_append,
        sequenceFrom?_string_cons _ _ (.inr (by simp)), Escape.step?, if_neg other]
      rfl
    | unit digits => exact absurd rfl (noUnit _ _)

/-- A character of a string is read from each of its spellings. -/
theorem sequenceFrom?_writtenPiece
    {char : Char}
    {written : Text}
    (spelled : WrittenPiece (.char char) written)
    (reversed rest : Text) :
    sequenceFrom? (.string reversed .none) (written ++ rest) =
      sequenceFrom? (.string (char :: reversed) .none) rest := by
  cases spelled with
  | plain visible noQuote noBackslash =>
    have step : Escape.step? .none char = some (.none, some char) := by
      simp only [Escape.step?, if_neg noBackslash, if_neg (Nat.not_lt.mpr visible)]
    rw [List.cons_append, sequenceFrom?_string_cons _ _ (.inl noQuote), step]
    rfl
  | @letter letter _ known =>
    have stands := Escape.letter?_of_mem_escapes known
    have other : letter ≠ 'u' := by
      rintro rfl
      cases stands
    have backslash : Escape.step? .none '\\' = some (.backslash, none) := rfl
    have step : Escape.step? .backslash letter = some (.none, some char) := by
      simp only [Escape.step?, if_neg other, stands, Option.map_some]
    rw [List.cons_append, List.cons_append, sequenceFrom?_string_cons _ _ (.inl (by decide)),
      backslash, Option.bind_some, sequenceFrom?_string_cons _ _ (.inr (by decide)), step]
    rfl

/-- The pieces of a string are read up to the quote behind them, if they stand for a text. -/
theorem sequenceFrom?_writtenPieces
    {pieces : List Piece}
    {written : Text}
    (spelled : WrittenPieces pieces written)
    (reversed rest : Text) :
    sequenceFrom? (.string reversed .none) (written ++ '"' :: rest) =
      (Piece.text? pieces).bind fun text =>
        sequenceFrom? (.string (text.reverse ++ reversed) .none) ('"' :: rest) := by
  -- By the cases of the text that the pieces stand for: a surrogate of the first kind takes the
  -- piece behind it along, which is its other half, another unit or none at all.
  fun_induction Piece.text? pieces generalizing written reversed with
  | case1 =>
    cases spelled
    rfl
  | case2 char rest inductionHypothesis =>
    cases spelled with
    | cons piece later =>
      rw [List.append_assoc, sequenceFrom?_writtenPiece piece, inductionHypothesis later]
      cases Piece.text? rest <;> simp
  | case3 first high second later low inductionHypothesis =>
    have closes : Escape.complete? second (some first) = some (.none,
        some (Char.ofNat (0x10000 + (first - 0xD800) * 0x400 + (second - 0xDC00)))) := by
      simp [Escape.complete?, Escape.isLow, low]
    obtain ⟨_, _, firstWritten, spelled, split⟩ := spelled.exists_unit
    obtain ⟨_, _, secondWritten, spelled, splitAgain⟩ := spelled.exists_unit
    rw [split, splitAgain, sequenceFrom?_high firstWritten high,
      sequenceFrom?_high_unit secondWritten, closes, Option.bind_some, inductionHypothesis spelled]
    cases Piece.text? later <;> simp
  | case4 first high second later noLow =>
    have fails : Escape.complete? second (some first) = none := by
      simp [Escape.complete?, Escape.isLow, noLow]
    obtain ⟨_, _, firstWritten, spelled, split⟩ := spelled.exists_unit
    obtain ⟨_, _, secondWritten, spelled, splitAgain⟩ := spelled.exists_unit
    rw [split, splitAgain, sequenceFrom?_high firstWritten high,
      sequenceFrom?_high_unit secondWritten, fails]
    rfl
  | case5 first later high noUnit =>
    obtain ⟨_, _, firstWritten, spelled, split⟩ := spelled.exists_unit
    rw [split, sequenceFrom?_high firstWritten high, sequenceFrom?_high_eq_none spelled noUnit]
    rfl
  | case6 unit later noHigh low =>
    have fails : Escape.complete? unit none = none := by
      simp [Escape.complete?, Escape.isHigh, Escape.isLow, noHigh, low]
    obtain ⟨_, _, unitWritten, spelled, split⟩ := spelled.exists_unit
    rw [split, sequenceFrom?_unit unitWritten, fails]
    rfl
  | case7 unit later noHigh noLow inductionHypothesis =>
    have completes : Escape.complete? unit none = some (.none, some (Char.ofNat unit)) := by
      simp [Escape.complete?, Escape.isHigh, Escape.isLow, noHigh, noLow]
    obtain ⟨_, _, unitWritten, spelled, split⟩ := spelled.exists_unit
    rw [split, sequenceFrom?_unit unitWritten, completes, Option.bind_some,
      inductionHypothesis spelled]
    cases Piece.text? later <;> simp

/-- A string gives its token, and none if it stands for no text. -/
theorem gives_of_writtenString
    {pieces : List Piece}
    {written : Text}
    (spelled : WrittenString pieces written) :
    Gives written ((Piece.text? pieces).map fun text => [.string text]) := by
  intro rest _
  obtain ⟨inside⟩ := spelled
  have opens : step? .nothing '"' = some (.string [] .none, []) := rfl
  have closes (reversed : Text) :
      step? (.string reversed .none) '"' = some (.nothing, [.string reversed.reverse]) := rfl
  rw [List.cons_append, List.append_assoc, sequenceFrom?_cons_nil _ opens]
  simp only [List.singleton_append, sequenceFrom?_writtenPieces inside, sequenceFrom?_cons, closes]
  cases Piece.text? pieces <;> simp

end Token

end Json
end SqlDump
