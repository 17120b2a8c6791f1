import SqlDump.Proofs.CheckedCuts
import SqlDump.Proofs.OversizedBindings

/-!
# Strings between their quotes

A string is delimited by passing over doubled quotes, and it is read by writing every doubled quote
once.  Both pair the same quotes: what is delimited is the quoted form of one text, which is the text
that is read, and the quoted form of every text is delimited as a whole.
-/

namespace SqlDump
namespace Quoted

/-- In front of the quote that closes a string all quotes are doubled, and none stands behind it. -/
theorem exists_double_of_closingQuoteFrom?
    {position closing : Nat}
    {text : Text}
    (closes : closingQuoteFrom? position text = some closing) :
    ∃ body back : Text, text = double '\'' body ++ '\'' :: back ∧ back.head? ≠ some '\'' ∧
      closing = position + (double '\'' body).byteLength := by
  fun_induction closingQuoteFrom? position text with
  | case1 => cases closes
  | case2 position =>
    obtain rfl := Option.some.inj closes
    exact ⟨[], [], rfl, by simp, rfl⟩
  | case3 => cases closes
  | case4 position rest inductionHypothesis =>
    obtain ⟨body, back, rfl, noQuote, place⟩ := inductionHypothesis closes
    have doubled : double '\'' ('\'' :: body) = '\'' :: '\'' :: double '\'' body := if_pos rfl
    have size : '\''.utf8Size = 1 := rfl
    refine ⟨'\'' :: body, back, ?_, noQuote, ?_⟩
    · rw [doubled, List.cons_append, List.cons_append]
    · rw [place, doubled, Text.byteLength_cons, Text.byteLength_cons, size]
      omega
  | case5 position next rest other =>
    obtain rfl := Option.some.inj closes
    exact ⟨[], next :: rest, rfl, fun quote => other (Option.some.inj quote), rfl⟩
  | case6 position char next rest other inductionHypothesis =>
    obtain ⟨body, back, whole, noQuote, place⟩ := inductionHypothesis closes
    have kept : double '\'' (char :: body) = char :: double '\'' body := if_neg other
    refine ⟨char :: body, back, ?_, noQuote, ?_⟩
    · rw [kept, List.cons_append, whole]
    · rw [place, kept, Text.byteLength_cons, Nat.add_assoc]

theorem exists_append_of_closingQuote?
    {text : Text}
    {opening closing : Nat}
    (closes : closingQuote? text opening = some closing) :
    ∃ front rest : Text, text = front ++ '\'' :: rest ∧ front.byteLength = opening ∧
      closingQuoteFrom? (opening + 1) rest = some closing := by
  unfold closingQuote? at closes
  split at closes
  · rename_i rest reached
    obtain ⟨front, rfl, length⟩ := Text.exists_append_of_suffixAt? reached
    exact ⟨front, rest, rfl, length, closes⟩
  · cases closes

/-- The quoted form of a text is delimited as a whole, wherever it stands, if no quote follows. -/
theorem closingQuote?_quote
    (front body : Text)
    {back : Text}
    (noQuote : back.head? ≠ some '\'') :
    closingQuote? (front ++ (quote '\'' body ++ back)) front.byteLength =
      some (front ++ '\'' :: double '\'' body).byteLength := by
  have size : '\''.utf8Size = 1 := rfl
  rw [quote_append, closingQuote?_append, closingQuoteFrom?_double _ body noQuote,
    Text.byteLength_append, Text.byteLength_cons, size, Nat.add_assoc]

/-- What is delimited as a string is the quoted form of a text, behind which no quote stands. -/
theorem closingQuote?_eq_some_iff (text : Text) (opening closing : Nat) :
    closingQuote? text opening = some closing ↔
      ∃ front body back : Text, text = front ++ (quote '\'' body ++ back) ∧
        back.head? ≠ some '\'' ∧ opening = front.byteLength ∧
        closing = (front ++ '\'' :: double '\'' body).byteLength := by
  constructor
  · intro closes
    obtain ⟨front, rest, rfl, rfl, closesBehind⟩ := exists_append_of_closingQuote? closes
    obtain ⟨body, back, rfl, noQuote, place⟩ := exists_double_of_closingQuoteFrom? closesBehind
    have size : '\''.utf8Size = 1 := rfl
    refine ⟨front, body, back, ?_, noQuote, rfl, ?_⟩
    · rw [quote_append]
    · rw [place, Text.byteLength_append, Text.byteLength_cons, size, Nat.add_assoc]
  · rintro ⟨front, body, back, rfl, noQuote, rfl, rfl⟩
    exact closingQuote?_quote front body noQuote

/-- Wherever a string is delimited, it can be cut out with its quotes, and it is read as a text whose
quoted form is what was cut out, and which is delimited by its last character.  Conversely the
quoted form of every text is delimited by the quote it ends with, unless another one follows. -/
theorem delimited_reads_back :
    (∀ (text : Text) (opening closing : Nat), closingQuote? text opening = some closing →
      ∃ literal body : Text, text.cut? opening (closing + 1) = some literal ∧
        string? literal = some body ∧ quote '\'' body = literal ∧ ClosesAtEnd literal) ∧
    ∀ front body back : Text, back.head? ≠ some '\'' →
      closingQuote? (front ++ (quote '\'' body ++ back)) front.byteLength =
        some (front ++ '\'' :: double '\'' body).byteLength := by
  refine ⟨?_, fun front body back noQuote => closingQuote?_quote front body noQuote⟩
  intro text opening closing closes
  obtain ⟨front, body, back, rfl, -, rfl, rfl⟩ :=
    (closingQuote?_eq_some_iff text opening closing).mp closes
  have stop : (front ++ '\'' :: double '\'' body).byteLength + 1 =
      (front ++ quote '\'' body).byteLength := by
    have size : '\''.utf8Size = 1 := rfl
    simp only [quote, Text.byteLength_append, Text.byteLength_cons, Text.byteLength_nil, size]
    omega
  refine ⟨quote '\'' body, body, ?_, string?_quote body, rfl, closesAtEnd_quote body⟩
  rw [stop, Text.cut?_append]

/-- A string that begins and ends with quotes of its own, between characters of several bytes. -/
theorem delimited_reads_back_of_quotes :
    let text : Text := "é'''ü''''''', 'b'".toList
    closingQuote? text 2 = some 13 ∧
      (∃ literal body : Text, text.cut? 2 14 = some literal ∧ string? literal = some body ∧
        quote '\'' body = literal ∧ ClosesAtEnd literal) ∧
      closingQuote? ("é".toList ++ (quote '\'' "'ü'''".toList ++ ", 'b'".toList)) 2 = some 13 := by
  intro text
  have closes : closingQuote? text 2 = some 13 := by decide +kernel
  obtain ⟨reads, delimited⟩ := delimited_reads_back
  exact ⟨closes, reads text 2 13 closes,
    delimited "é".toList "'ü'''".toList ", 'b'".toList (by decide +kernel)⟩

end Quoted
end SqlDump
