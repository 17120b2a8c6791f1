import SqlDump.Insert.Prepared
import SqlDump.Proofs.RemovedPair
import SqlDump.Proofs.Spellings

/-!
# Literals that take up a whole token

A token is classified as a string by the quotes at its two ends, and as a conversion by its name and
its last parenthesis.  What is classified is the whole token if and only if the first quote is
closed by the last one, and the first parenthesis by the last character.  Otherwise a string is read
out of an expression, or the end of an expression is left out.
-/

namespace SqlDump

/-! ## Strings -/

namespace Quoted

/-- Whether the quote that closes a string opened by the first character of a text is its last
character. -/
def ClosesAtEnd (text : Text) : Prop :=
  ∃ front : Text, text = front ++ ['\''] ∧ closingQuote? text 0 = some front.byteLength

theorem string?_trim (token : Text) : string? token.trim = string? token := by
  rw [string?, string?, Text.trim_trim]

/-- What stands between the quotes at the two ends of a token is read as a string. -/
theorem string?_eq_some_iff (token text : Text) :
    string? token = some text ↔
      ∃ body, token.trim = '\'' :: (body ++ ['\'']) ∧ text = undouble '\'' body := by
  rw [string?, Option.map_eq_some_iff]
  constructor
  · rintro ⟨body, enclosed, rfl⟩
    exact ⟨body, eq_of_enclosed? '\'' token.trim body enclosed, rfl⟩
  · rintro ⟨body, trimmed, rfl⟩
    refine ⟨body, ?_, rfl⟩
    rw [trimmed, enclosed?_marks]

/-- The quote behind a text closes the string that the text stands in, if and only if all quotes in
the text are doubled. -/
theorem closingQuoteFrom?_concat_iff (position : Nat) (body : Text) :
    closingQuoteFrom? position (body ++ ['\'']) = some (position + body.byteLength) ↔
      double '\'' (undouble '\'' body) = body := by
  have size : '\''.utf8Size = 1 := rfl
  fun_induction undouble '\'' body generalizing position with
  | case1 => exact iff_of_true rfl rfl
  | case2 char =>
    by_cases quote : char = '\''
    · subst quote
      exact iff_of_false (by simp [closingQuoteFrom?]) (by simp [double])
    · simp [closingQuoteFrom?, double, quote]
  | case3 char next rest both inductionHypothesis =>
    obtain ⟨rfl, rfl⟩ := both
    have later := inductionHypothesis (position + 2)
    rw [Nat.add_assoc] at later
    simpa [closingQuoteFrom?, double, size, ← Nat.add_assoc] using later
  | case4 char next rest single inductionHypothesis =>
    by_cases quote : char = '\''
    -- a quote that is not doubled closes the string too early
    · subst quote
      have other : next ≠ '\'' := fun same => single ⟨rfl, same⟩
      refine iff_of_false ?_ ?_
      · simp only [List.cons_append, closingQuoteFrom?, if_true, if_neg other, Option.some.injEq,
          Text.byteLength_cons, size]
        omega
      · simp [double, Ne.symm other]
    · have later := inductionHypothesis (position + char.utf8Size)
      rw [Nat.add_assoc] at later
      simpa [closingQuoteFrom?, double, quote] using later

theorem closesAtEnd_marks_iff (body : Text) :
    ClosesAtEnd ('\'' :: (body ++ ['\''])) ↔ double '\'' (undouble '\'' body) = body := by
  have size : '\''.utf8Size = 1 := rfl
  have closing : closingQuote? ('\'' :: (body ++ ['\''])) 0 =
      closingQuoteFrom? (0 + 1) (body ++ ['\'']) := rfl
  rw [← closingQuoteFrom?_concat_iff 1, ClosesAtEnd, closing]
  constructor
  · rintro ⟨front, whole, closed⟩
    obtain rfl : '\'' :: body = front := List.append_cancel_right whole
    exact closed
  · exact fun closed => ⟨'\'' :: body, rfl, closed⟩

theorem closesAtEnd_quote (body : Text) : ClosesAtEnd (quote '\'' body) := by
  rw [quote, closesAtEnd_marks_iff, undouble_double]

/-- A token is one complete string if and only if it is read as that string and its first quote is
closed by its last. -/
theorem trim_eq_quote_iff (token text : Text) :
    token.trim = quote '\'' text ↔ string? token = some text ∧ ClosesAtEnd token.trim := by
  constructor
  · intro whole
    refine ⟨?_, ?_⟩
    · rw [← string?_trim, whole, string?_quote]
    · rw [whole]
      exact closesAtEnd_quote text
  · rintro ⟨read, closed⟩
    obtain ⟨body, trimmed, rfl⟩ := (string?_eq_some_iff token text).mp read
    rw [trimmed, closesAtEnd_marks_iff] at closed
    rw [trimmed, quote, closed]

end Quoted

namespace Literal

/-! ## How a token is classified -/

theorem ofNumber_cases (text : Text) :
    (∃ value, ofNumber text = .double value) ∨ (∃ value, ofNumber text = .integer value) ∨
      ofNumber text = .other text := by
  unfold ofNumber
  split
  · split
    · exact .inl ⟨_, rfl⟩
    · exact .inr (.inr rfl)
  · split
    · exact .inr (.inl ⟨_, rfl⟩)
    · exact .inr (.inr rfl)

theorem ofCall_cases (call : Text) :
    (∃ value format language, ofCall call = .ok (.toTimestamp value format language)) ∨
      ofCall call = .error (.malformedCall call) := by
  unfold ofCall
  dsimp only
  split
  · exact .inr rfl
  · split
    · exact .inl ⟨_, _, _, rfl⟩
    · exact .inl ⟨_, _, _, rfl⟩
    · exact .inr rfl

/-- What a token has to be for the literal that it is classified as, as far as it is read as a call
or as a string. -/
inductive ReadAs (token : Text) : Literal → Prop where
  | null : ReadAs token .null
  | date (text : Text) : ReadAs token (.date text)
  | timestamp (text : Text) : ReadAs token (.timestamp text)
  | call {value format : Text} {language : Option Text}
      (starts : Text.startsWith (Keyword.toTimestamp ++ ['(']) token.trim = true)
      (read : ofCall token.trim = .ok (.toTimestamp value format language)) :
      ReadAs token (.toTimestamp value format language)
  | string {text : Text}
      (read : Quoted.string? token = some text) :
      ReadAs token (.string text)
  | double (value : Binary64) : ReadAs token (.double value)
  | integer (value : Int) : ReadAs token (.integer value)
  | other : ReadAs token (.other token.trim)

theorem readAs_of_classify
    {token : Text}
    {literal : Literal}
    (classified : classify token = .ok literal) :
    ReadAs token literal := by
  unfold classify at classified
  dsimp only at classified
  split at classified
  · cases classified
    exact .null
  split at classified
  · cases classified
    exact .date _
  split at classified
  · cases classified
    exact .timestamp _
  split at classified
  · rename_i starts
    rcases ofCall_cases token.trim with ⟨value, format, language, read⟩ | malformed
    · cases read.symm.trans classified
      exact .call starts read
    · cases malformed.symm.trans classified
  split at classified
  · rename_i text read
    cases classified
    exact .string ((Quoted.string?_trim token).symm.trans read)
  · have number := Except.ok.inj classified
    rcases ofNumber_cases token.trim with ⟨value, kind⟩ | ⟨value, kind⟩ | kind
    · rw [← number, kind]
      exact .double value
    · rw [← number, kind]
      exact .integer value
    · rw [← number, kind]
      exact .other

/-- Only what is read as a string is classified as one. -/
theorem string?_of_classify
    {token text : Text}
    (classified : classify token = .ok (.string text)) :
    Quoted.string? token = some text := by
  cases readAs_of_classify classified with
  | string read => exact read

/-- A token is a string if it has a quote at either end.  What is read is what stands between them,
with every doubled quote written once; it is the string that the token writes if and only if the
first quote is closed by the last one. -/
theorem classify_eq_string_iff (token text : Text) :
    (classify token = .ok (.string text) ↔ Quoted.string? token = some text) ∧
    (Quoted.string? token = some text ↔
      ∃ body, token.trim = '\'' :: (body ++ ['\'']) ∧ text = Quoted.undouble '\'' body) ∧
    (token.trim = Quoted.quote '\'' text ↔
      Quoted.string? token = some text ∧ Quoted.ClosesAtEnd token.trim) := by
  refine ⟨⟨string?_of_classify, fun string => ?_⟩, Quoted.string?_eq_some_iff token text,
    Quoted.trim_eq_quote_iff token text⟩
  obtain ⟨body, trimmed, rfl⟩ := (Quoted.string?_eq_some_iff token text).mp string
  refine classify_of_string trimmed rfl ?_
  rw [← trimmed, Quoted.string?_trim, string]

/-- Two strings joined by an operator are taken for one, which holds the operator and the quotes
beside it, and that string is bound. -/
theorem classify_joins_strings :
    let token : Text := "'a' || 'b'".toList
    let text : Text := "a' || 'b".toList
    Quoted.string? token = some text ∧ classify token = .ok (.string text) ∧
      token.trim ≠ Quoted.quote '\'' text ∧ Quoted.closingQuote? token 0 = some 2 ∧
      (Insert.prepare {} ("INSERT INTO T (A) VALUES (".toList ++ (token ++ [')']))).map
        PreparedInsert.bindings = .ok [.text text] := by
  decide +kernel

end Literal

/-! ## Parentheses -/

namespace Parenthesis

/-- Whether the parentheses of a text match each other, outside quotes that are closed in it. -/
def Balanced (text : Text) : Prop :=
  tracker.Quiet (.plain, 0) text (.plain, 0)

/-- Whether the parenthesis that closes the first one of a text is its last character. -/
def ClosesAtEnd (text : Text) : Prop :=
  ∃ (opening : Nat) (front : Text), text.position? (· == '(') = some opening ∧
    text = front ++ [')'] ∧ closing text opening = .ok front.byteLength

/-- Of a text that is cut at its last closing parenthesis, the first parenthesis is closed at the
end if nothing stands behind the cut, and what stands in front of it is balanced. -/
theorem closesAtEnd_iff
    {front behind : Text}
    (noOpening : '(' ∉ front)
    (noClosing : ')' ∉ behind)
    (inner : Text) :
    ClosesAtEnd (front ++ '(' :: (inner ++ ')' :: behind)) ↔ behind = [] ∧ Balanced inner := by
  have first : Text.position? (· == '(') (front ++ '(' :: (inner ++ ')' :: behind)) =
      some front.byteLength := by
    refine Text.position?_append_cons _ _ _ _ (fun other member => ?_) rfl
    rw [beq_eq_false_iff_ne]
    rintro rfl
    exact noOpening member
  have size : '('.utf8Size = 1 := rfl
  constructor
  · rintro ⟨opening, before, found, ends, closes⟩
    obtain rfl := Option.some.inj (first.symm.trans found)
    obtain ⟨head, balanced, back, whole, place, reached, quiet⟩ := exists_quiet_of_closing closes
    obtain ⟨rfl, later⟩ := Text.append_inj_of_byteLength whole place
    -- the parenthesis that is found is the last character
    have cut : before ++ [')'] = (front ++ '(' :: balanced) ++ ')' :: back := by
      rw [← ends, whole, List.append_assoc, List.cons_append]
    have length : before.byteLength = Text.byteLength (front ++ '(' :: balanced) := by
      rw [reached, Text.byteLength_append, Text.byteLength_cons, size, Nat.add_assoc]
    obtain rfl : [] = back := (List.cons.inj (Text.append_inj_of_byteLength cut length).2).2
    have inside : inner ++ ')' :: behind = balanced ++ [')'] := (List.cons.inj later).2
    rcases List.eq_nil_or_concat behind with rfl | ⟨start, last, rfl⟩
    · obtain rfl : inner = balanced := List.append_cancel_right inside
      exact ⟨rfl, quiet⟩
    · have final : (inner ++ ')' :: start ++ [last]).getLast? = some ')' := by
        rw [List.append_assoc, List.cons_append, ← List.concat_eq_append, inside,
          List.getLast?_concat]
      rw [List.getLast?_concat] at final
      obtain rfl := Option.some.inj final
      exact absurd (by simp) noClosing
  · rintro ⟨rfl, balanced⟩
    refine ⟨front.byteLength, front ++ '(' :: inner, first, by simp, ?_⟩
    rw [closing_append front inner [] balanced, Text.byteLength_append, Text.byteLength_cons, size,
      Nat.add_assoc]

/-- A list of complete strings is balanced, whatever they say. -/
theorem balanced_of_strings
    {text : Text}
    (nonempty : valueItems text ≠ [])
    (strings : ∀ item ∈ valueItems text, Insert.IsString item) :
    Balanced text := by
  obtain ⟨pieces, final, items, rfl, isFinal⟩ := ValueNesting.nesting.exists_pieces nonempty
  have quiet : ∀ piece ∈ pieces, tracker.Quiet (.plain, 0) piece (.plain, 0) := by
    intro piece member
    have string : Insert.IsString piece.trim := by
      apply strings
      rw [valueItems, items]
      exact List.mem_map_of_mem member
    obtain ⟨before, after, beforeBlank, afterBlank, whole⟩ := piece.exists_trim_between
    rw [whole]
    refine (Tracker.Quiet.append ((rests 0).quiet_of_isBlank beforeBlank) ?_).append
      ((rests 0).quiet_of_isBlank afterBlank)
    generalize piece.trim = trimmed at string
    cases string with
    | quote body => exact Tracker.Quiet.quote (hides_string 0) body
  refine (Tracker.Quiet.intercalate rfl rfl quiet).append ?_
  rcases isFinal with rfl | rfl
  · exact .nil _
  · exact .stay rfl rfl (.nil _)

end Parenthesis

namespace Literal

open SqlDump.Insert

/-! ## Conversions -/

/-- A call of the conversion, cut at its last closing parenthesis. -/
structure Call where
  word : Spelled Keyword.toTimestamp
  arguments : Text
  behind : Text
  noClosing : ')' ∉ behind

namespace Call

/-- The call as it is written. -/
def text (call : Call) : Text :=
  call.word.val ++ '(' :: (call.arguments ++ ')' :: call.behind)

/-- Whether the arguments of a call are read as a value, a format and perhaps a language. -/
def Reads (call : Call) (value format : Text) (language : Option Text) : Prop :=
  (valueItems call.arguments).map Quoted.string? =
    some value :: some format :: language.toList.map some

theorem closesAtEnd_iff (call : Call) :
    Parenthesis.ClosesAtEnd call.text ↔
      call.behind = [] ∧ Parenthesis.Balanced call.arguments :=
  Parenthesis.closesAtEnd_iff (opening_notMem_toTimestamp call.word.property) call.noClosing
    call.arguments

/-- What stands behind a call does not matter to its reading. -/
theorem ofCall_text_iff (call : Call) (value format : Text) (language : Option Text) :
    ofCall call.text = .ok (.toTimestamp value format language) ↔
      call.Reads value format language := by
  have arguments : callArguments? call.text = some call.arguments := by
    rw [text, callArguments?_of_opening (opening_notMem_toTimestamp call.word.property),
      callArguments?_of_closing _ call.noClosing]
  unfold ofCall
  dsimp only
  rw [arguments, Reads]
  dsimp only
  rcases (valueItems call.arguments).map Quoted.string? with
    _ | ⟨_ | first, _ | ⟨_ | second, _ | ⟨_ | third, _ | ⟨next, rest⟩⟩⟩⟩ <;>
    cases language <;> simp

end Call

/-- What is classified as a conversion is a call of it. -/
theorem exists_call_of_classify
    {token value format : Text}
    {language : Option Text}
    (classified : classify token = .ok (.toTimestamp value format language)) :
    ∃ call : Call, token.trim = call.text ∧ call.Reads value format language := by
  obtain ⟨starts, read⟩ : Text.startsWith (Keyword.toTimestamp ++ ['(']) token.trim = true ∧
      ofCall token.trim = .ok (.toTimestamp value format language) := by
    cases readAs_of_classify classified with
    | call starts read => exact ⟨starts, read⟩
  obtain ⟨word, rest, whole, same⟩ :=
    Text.exists_append_of_startsWith (Text.startsWith_of_startsWith_append starts)
  rw [whole, Text.startsWith_append_append same] at starts
  obtain ⟨mark, behind, rfl⟩ : ∃ mark behind, rest = mark :: behind := by
    cases rest with
    | nil => cases starts
    | cons mark behind => exact ⟨mark, behind, rfl⟩
  rw [Text.startsWith, Bool.and_eq_true] at starts
  obtain rfl := Text.eq_of_sameLetter rfl starts.1
  cases closed : Text.lastPosition? (· == ')') behind with
  | none =>
    have noClosing : ')' ∉ behind := fun member => by
      simpa using (Text.lastPosition?_eq_none_iff _ _).mp closed ')' member
    rw [whole, ofCall, callArguments?_of_opening (opening_notMem_toTimestamp same),
      callArguments?_of_noClosing noClosing] at read
    cases read
  | some distance =>
    obtain ⟨arguments, mark, after, rfl, -, isClosing, others⟩ :=
      Text.exists_append_of_lastPosition? closed
    obtain rfl : mark = ')' := by simpa using isClosing
    have noClosing : ')' ∉ after := fun member => by simpa using others ')' member
    rw [whole] at read
    let call : Call := ⟨⟨word, same⟩, arguments, after, noClosing⟩
    exact ⟨call, whole, (call.ofCall_text_iff value format language).mp read⟩

/-- A token is a conversion if it starts with the name and a parenthesis, and what stands between
that and the last closing parenthesis is read as two or three strings.  All of the token belongs to
the call if and only if nothing stands behind the last parenthesis and it closes the first one,
which it does if the arguments are complete strings. -/
theorem classify_eq_toTimestamp_iff (token value format : Text) (language : Option Text) :
    (classify token = .ok (.toTimestamp value format language) ↔
      ∃ call : Call, token.trim = call.text ∧ call.Reads value format language) ∧
    (classify token = .ok (.toTimestamp value format language) ∧
        Parenthesis.ClosesAtEnd token.trim ↔
      ∃ call : Call, token.trim = call.text ∧ call.Reads value format language ∧
        call.behind = [] ∧ Parenthesis.Balanced call.arguments) ∧
    ∀ call : Call, call.Reads value format language →
      (∀ item ∈ valueItems call.arguments, IsString item) →
      Parenthesis.Balanced call.arguments := by
  have classified (call : Call) (trimmed : token.trim = call.text)
      (reads : call.Reads value format language) :
      classify token = .ok (.toTimestamp value format language) := by
    rw [classify_of_call call.word.property trimmed, trimmed]
    exact (call.ofCall_text_iff value format language).mpr reads
  refine ⟨⟨exists_call_of_classify, ?_⟩, ⟨?_, ?_⟩, ?_⟩
  · rintro ⟨call, trimmed, reads⟩
    exact classified call trimmed reads
  · rintro ⟨conversion, closes⟩
    obtain ⟨call, trimmed, reads⟩ := exists_call_of_classify conversion
    rw [trimmed, call.closesAtEnd_iff] at closes
    exact ⟨call, trimmed, reads, closes⟩
  · rintro ⟨call, trimmed, reads, closes⟩
    refine ⟨classified call trimmed reads, ?_⟩
    rw [trimmed, call.closesAtEnd_iff]
    exact closes
  · intro call reads strings
    refine Parenthesis.balanced_of_strings (fun none => ?_) strings
    rw [Call.Reads, none] at reads
    cases reads

/-- An interval that is added to a conversion stands behind the parenthesis that closes the first
one.  It is left out of the literal, and the bare timestamp is bound. -/
theorem classify_leaves_out_interval :
    let token : Text :=
      "TO_TIMESTAMP('2025-08-29 10:30:00', 'YYYY-MM-DD HH24:MI:SS') + INTERVAL '1' DAY".toList
    let literal : Literal := .toTimestamp "2025-08-29 10:30:00".toList
      "YYYY-MM-DD HH24:MI:SS".toList none
    classify token = .ok literal ∧
      Parenthesis.closing token.trim 12 = .ok 59 ∧ token.trim.dropBytes 60 ≠ [] ∧
      ¬ Parenthesis.ClosesAtEnd token.trim ∧
      (Insert.prepare {} ("INSERT INTO T (A) VALUES (".toList ++ (token ++ [')']))).map
        (fun prepared => prepared.bindings.map Binding.toStored) =
        .ok [.text "2025-08-29 10:30:00.000000000".toList] := by
  intro token literal
  have classified : classify token = .ok literal := by decide +kernel
  have first : token.trim.position? (· == '(') = some 12 := by decide +kernel
  have closed : Parenthesis.closing token.trim 12 = .ok 59 := by decide +kernel
  have length : token.trim.byteLength = 79 := by decide +kernel
  refine ⟨classified, closed, by decide +kernel, ?_, by decide +kernel⟩
  rintro ⟨opening, front, found, ends, closes⟩
  obtain rfl := Option.some.inj (first.symm.trans found)
  have place : 59 = front.byteLength := Except.ok.inj (closed.symm.trans closes)
  have size : ')'.utf8Size = 1 := rfl
  rw [ends, Text.byteLength_append, ← place, Text.byteLength_cons, size] at length
  exact absurd length (by decide)

end Literal
end SqlDump
