import SqlDump.Proofs.CheckedStatements
import SqlDump.Proofs.LoadPlan
import SqlDump.Proofs.PreparedRemoval
import SqlDump.Proofs.Rescanning
import SqlDump.Proofs.WholeLiterals

/-!
# Oversized values are bound

Whether a statement is sent with its values bound is decided by a search for strings in its whole
text, which measures them as they are spelled.  What is bound is measured as it is read, after the
value list has been found and cut.  When both read the same strings, a value that is bound as too
long was found by the search.
-/

namespace SqlDump

/-! ## Where the pieces of a list stand -/

namespace Nesting

variable {σ : Type}

/-- The first piece of a list stands at its start, and every other one behind a comma that
separates.  Behind a piece the list ends, or a comma follows. -/
theorem exists_place_of_piecesFrom
    (nesting : Nesting σ)
    (state : σ)
    (text : Text)
    {piece : Text}
    {pieces : List Text}
    (cut : nesting.piecesFrom state text = piece :: pieces) :
    (∃ back, text = piece ++ back ∧ ∀ char ∈ back.head?, char = ',') ∧
    ∀ later ∈ pieces, ∃ front back, text = front ++ ',' :: (later ++ back) ∧
      nesting.separates (front.foldl nesting.next state) = true ∧
      ∀ char ∈ back.head?, char = ',' := by
  induction text generalizing state piece pieces with
  | nil =>
    obtain ⟨rfl, rfl⟩ := List.cons.inj cut
    exact ⟨⟨[], rfl, by simp⟩, by simp⟩
  | cons char rest inductionHypothesis =>
    obtain ⟨first, others, cutRest⟩ :=
      List.exists_cons_of_ne_nil (nesting.piecesFrom_ne_nil (nesting.next state char) rest)
    obtain ⟨⟨back, whole, behind⟩, places⟩ := inductionHypothesis _ cutRest
    -- the other pieces of the rest stand in the whole text as they do there
    have further : ∀ later ∈ others, ∃ front back, char :: rest = front ++ ',' :: (later ++ back) ∧
        nesting.separates (front.foldl nesting.next state) = true ∧
        ∀ char ∈ back.head?, char = ',' := by
      intro later member
      obtain ⟨front, back, whole, separates, behind⟩ := places later member
      exact ⟨char :: front, back, by rw [whole, List.cons_append], separates, behind⟩
    rw [piecesFrom, cutRest] at cut
    split at cut
    · rename_i separating
      obtain ⟨rfl, separates⟩ := separating
      obtain ⟨rfl, rfl⟩ := List.cons.inj cut
      refine ⟨⟨',' :: rest, rfl, ?_⟩, List.forall_mem_cons.mpr ⟨?_, further⟩⟩
      · rintro _ ⟨rfl⟩
        rfl
      · exact ⟨[], back, by rw [whole, List.nil_append], separates, behind⟩
    · obtain ⟨rfl, rfl⟩ := List.cons.inj cut
      exact ⟨⟨back, by rw [whole, List.cons_append], behind⟩, further⟩

/-- An item of a list stands between white space, at the start of the list or behind a comma that
separates, and at the end of the list or in front of a comma. -/
theorem exists_place_of_items
    (nesting : Nesting σ)
    {text item : Text}
    (member : item ∈ nesting.items text) :
    ∃ front before after back, text = front ++ (before ++ item ++ after ++ back) ∧
      before.isBlank = true ∧ after.isBlank = true ∧
      (front = [] ∨ ∃ earlier, front = earlier ++ [','] ∧
        nesting.separates (earlier.foldl nesting.next nesting.start) = true) ∧
      ∀ char ∈ back.head?, char = ',' := by
  obtain ⟨piece, cut, rfl⟩ := nesting.exists_piece_of_items member
  obtain ⟨before, after, beforeBlank, afterBlank, whole⟩ := piece.exists_trim_between
  obtain ⟨first, others, pieces⟩ :=
    List.exists_cons_of_ne_nil (nesting.piecesFrom_ne_nil nesting.start text)
  obtain ⟨⟨back, start, behind⟩, places⟩ :=
    nesting.exists_place_of_piecesFrom nesting.start text pieces
  rw [pieces, List.mem_cons] at cut
  rcases cut with rfl | later
  · refine ⟨[], before, after, back, ?_, beforeBlank, afterBlank, .inl rfl, behind⟩
    rw [List.nil_append, ← whole, start]
  · obtain ⟨front, back, place, separates, behind⟩ := places piece later
    refine ⟨front ++ [','], before, after, back, ?_, beforeBlank, afterBlank,
      .inr ⟨front, rfl, separates⟩, behind⟩
    rw [← whole, place, List.append_assoc, List.singleton_append]

end Nesting

/-! ## Lists without quoted identifiers -/

namespace Region

/-- Whether a double quote stands outside strings in a text. -/
def showsIdentifier (region : Region) : Text → Bool
  | [] => false
  | char :: rest => (char = '"' && region ≠ .string) || (region.next char).showsIdentifier rest

theorem showsIdentifier_append (region : Region) (front back : Text) :
    region.showsIdentifier (front ++ back) =
      (region.showsIdentifier front || (region.after front).showsIdentifier back) := by
  induction front generalizing region with
  | nil => rfl
  | cons char rest inductionHypothesis =>
    rw [List.cons_append, showsIdentifier, showsIdentifier, inductionHypothesis, Bool.or_assoc]
    rfl

end Region

namespace ValueNesting

/-- Where the scan that matches parentheses stands when a list of values nests in a given way. -/
def place (state : ValueNesting) : Region × Nat :=
  (if state.inString then .string else .plain, state.depth)

/-- The scan that cuts a list of values and the one that matches parentheses move alike, except
where an identifier is quoted. -/
theorem place_next
    (state : ValueNesting)
    {char : Char}
    (noIdentifier : char = '"' → state.inString = true) :
    Parenthesis.tracker.next state.place char = (next state char).place := by
  obtain ⟨inString, depth⟩ := state
  cases inString with
  | true =>
    by_cases quote : char = '\'' <;> simp [place, next, Parenthesis.tracker, Region.next, quote]
  | false =>
    have noName : char ≠ '"' := fun name => absurd (noIdentifier name) Bool.false_ne_true
    by_cases quote : char = '\''
    · simp [place, next, Parenthesis.tracker, Region.next, quote]
    · by_cases opens : char = '('
      · simp [place, next, Parenthesis.tracker, opens]
      · by_cases closes : char = ')'
        · simp [place, next, Parenthesis.tracker, closes]
        · simp [place, next, Parenthesis.tracker, Region.next, quote, noName, opens, closes]

/-- At every point of a text without quoted identifiers the two scans know the same depth, and are
in the same strings. -/
theorem place_foldl_next
    {state : ValueNesting}
    {text : Text}
    (noIdentifier : state.place.1.showsIdentifier text = false) :
    text.foldl Parenthesis.tracker.next state.place = (text.foldl next state).place := by
  induction text generalizing state with
  | nil => rfl
  | cons char rest inductionHypothesis =>
    rw [Region.showsIdentifier, Bool.or_eq_false_iff] at noIdentifier
    have alike : Parenthesis.tracker.next state.place char = (next state char).place := by
      apply place_next
      rintro rfl
      cases inString : state.inString with
      | true => rfl
      | false => simp [place, inString] at noIdentifier
    rw [List.foldl_cons, List.foldl_cons, alike]
    apply inductionHypothesis
    rw [← alike, Parenthesis.fst_next]
    exact noIdentifier.2

theorem place_foldl_start
    {text : Text}
    (noIdentifier : Region.plain.showsIdentifier text = false) :
    text.foldl Parenthesis.tracker.next (.plain, 0) = (text.foldl next {}).place := by
  have outside : (place {}).1.showsIdentifier text = false := noIdentifier
  exact place_foldl_next outside

/-- In a list without quoted identifiers an item stands outside quotes, and beside none. -/
theorem exists_place_of_valueItems
    {list item : Text}
    (noIdentifier : Region.plain.showsIdentifier list = false)
    (member : item ∈ valueItems list) :
    ∃ front back, list = front ++ (item ++ back) ∧ Region.plain.after front = .plain ∧
      front.getLast? ≠ some '\'' ∧ back.head? ≠ some '\'' := by
  obtain ⟨front, before, after, back, whole, beforeBlank, afterBlank, start, behind⟩ :=
    nesting.exists_place_of_items member
  have noQuote {blank : Text} (white : blank.isBlank = true) (char : Char) (member : char ∈ blank) :
      char ≠ '\'' ∧ char ≠ '"' :=
    ne_quote_of_isWhiteSpace (List.all_eq_true.mp white char member)
  refine ⟨front ++ before, after ++ back, by simp [whole], ?_, ?_, ?_⟩
  · rw [Region.after_append, Region.after_of_forall (noQuote beforeBlank)]
    rcases start with rfl | ⟨earlier, rfl, separates⟩
    · rfl
    · rw [whole, List.append_assoc, Region.showsIdentifier_append, Bool.or_eq_false_iff]
        at noIdentifier
      have region := Parenthesis.fst_foldl_next (.plain, 0) earlier
      rw [place_foldl_start noIdentifier.1] at region
      have outside : (earlier.foldl next {}).inString = false := by
        simp only [nesting, Bool.and_eq_true, Bool.not_eq_true'] at separates
        exact separates.1
      rw [place, outside] at region
      rw [Region.after_append, ← region]
      rfl
  · rw [List.getLast?_append]
    cases last : before.getLast? with
    | some char =>
      have other := (noQuote beforeBlank char (List.mem_of_getLast? last)).1
      simpa using other
    | none =>
      rcases start with rfl | ⟨earlier, rfl, -⟩
      · simp
      · simp
  · rw [List.head?_append]
    cases first : after.head? with
    | some char =>
      have other := (noQuote afterBlank char (List.mem_of_mem_head? first)).1
      simpa using other
    | none =>
      rw [Option.none_or]
      intro quote
      exact absurd (behind '\'' quote) (by decide)

end ValueNesting

/-! ## The search for strings -/

namespace Quoted

/-- A text is not longer than it is spelled between quotes. -/
theorem length_le_double (mark : Char) (text : Text) :
    text.length ≤ (double mark text).length ∧ text.byteLength ≤ (double mark text).byteLength := by
  induction text with
  | nil => exact ⟨Nat.le_refl _, Nat.le_refl _⟩
  | cons char rest inductionHypothesis =>
    rw [double]
    split
    · rename_i marked
      subst marked
      simp only [List.length_cons, Text.byteLength_cons]
      omega
    · simp only [List.length_cons, Text.byteLength_cons]
      omega

/-- A string is closed behind its text if no quote follows the one that closes it. -/
theorem closingQuoteFrom?_double
    (position : Nat)
    (text : Text)
    {back : Text}
    (noQuote : back.head? ≠ some '\'') :
    closingQuoteFrom? position (double '\'' text ++ '\'' :: back) =
      some (position + (double '\'' text).byteLength) := by
  have size : '\''.utf8Size = 1 := rfl
  induction text generalizing position with
  | nil =>
    cases back with
    | nil => rfl
    | cons next rest =>
      have other : next ≠ '\'' := fun same => noQuote (congrArg some same)
      simp [double, closingQuoteFrom?, other]
  | cons char rest inductionHypothesis =>
    rw [double]
    split
    · rename_i marked
      subst marked
      rw [List.cons_append, List.cons_append, closingQuoteFrom?, if_pos rfl, if_pos rfl,
        inductionHypothesis]
      simp [size, ← Nat.add_assoc]
    · rename_i other
      have nonempty : double '\'' rest ++ '\'' :: back ≠ [] := by simp
      obtain ⟨next, later, shape⟩ := List.exists_cons_of_ne_nil nonempty
      rw [List.cons_append, shape, closingQuoteFrom?, if_neg other, ← shape, inductionHypothesis,
        Text.byteLength_cons, Nat.add_assoc]

end Quoted

namespace LargeTextPolicy

variable (policy : LargeTextPolicy)

/-- What is longer than an oversized text is oversized. -/
theorem isOversized_double (mark : Char) {text : Text} (oversized : policy.isOversized text = true) :
    policy.isOversized (Quoted.double mark text) = true := by
  obtain ⟨chars, bytes⟩ := Quoted.length_le_double mark text
  rw [isOversized_iff] at oversized ⊢
  omega

/-- The region that a search stands in. -/
def SearchState.region : SearchState → Region
  | .plain => .plain
  | .identifier => .identifier
  | .string _ => .string

/-- What a search finds from plain text on, it finds behind any text that ends there, unless a quote
ends that text. -/
theorem exceededFrom_append
    {state : SearchState}
    {front back : Text}
    (plain : state.region.after front = .plain)
    (noQuote : front.getLast? ≠ some '\'')
    (found : policy.exceededFrom .plain back = true) :
    policy.exceededFrom state (front ++ back) = true := by
  have shorter {char : Char} {rest : Text} (noQuote : (char :: rest).getLast? ≠ some '\'') :
      rest.getLast? ≠ some '\'' := by
    intro last
    rw [List.getLast?_cons, last] at noQuote
    exact noQuote rfl
  fun_induction policy.exceededFrom state front with
  | case1 state =>
    cases state with
    | plain => exact found
    | identifier | string reversed => cases plain
  | case2 char reversed =>
    have other : char ≠ '\'' := fun quote => noQuote (congrArg some quote)
    simp [SearchState.region, Region.next, other] at plain
  | case3 state char noString =>
    cases state with
    | plain =>
      rw [List.singleton_append, exceededFrom_plain_cons]
      by_cases quote : char = '\''
      · exact absurd (congrArg some quote) noQuote
      · by_cases name : char = '"'
        · simp [SearchState.region, Region.next, name] at plain
        · rwa [if_neg quote, if_neg name]
    | identifier =>
      rw [List.singleton_append, exceededFrom_identifier_cons]
      by_cases name : char = '"'
      · rwa [if_pos name]
      · simp [SearchState.region, Region.next, name] at plain
    | string reversed => exact absurd rfl (noString reversed)
  | case4 char next rest inductionHypothesis =>
    have moves : SearchState.region (if char = '\'' then .string []
        else if char = '"' then .identifier else .plain) = Region.plain.next char := by
      simp only [Region.next]
      split_ifs <;> rfl
    rw [List.cons_append, exceededFrom_plain_cons]
    refine inductionHypothesis ?_ (shorter noQuote)
    rw [moves]
    exact plain
  | case5 char next rest inductionHypothesis =>
    have moves : SearchState.region (if char = '"' then .plain else .identifier) =
        Region.identifier.next char := by
      simp only [Region.next]
      split_ifs <;> rfl
    rw [List.cons_append, exceededFrom_identifier_cons]
    refine inductionHypothesis ?_ (shorter noQuote)
    rw [moves]
    exact plain
  | case6 char next rest reversed other inductionHypothesis =>
    rw [List.cons_append, List.cons_append, exceededFrom, if_pos other]
    refine inductionHypothesis ?_ (shorter noQuote)
    rw [← plain, Region.after_cons]
    simp [SearchState.region, Region.next, other]
  | case7 char rest reversed quote inductionHypothesis =>
    obtain rfl : char = '\'' := Decidable.not_not.mp quote
    rw [List.cons_append, List.cons_append, exceededFrom, if_neg quote, if_pos rfl]
    exact inductionHypothesis plain (shorter (shorter noQuote))
  | case8 char next rest reversed quote other inductionHypothesis =>
    obtain rfl : char = '\'' := Decidable.not_not.mp quote
    rw [List.cons_append, List.cons_append, exceededFrom, if_neg quote, if_neg other,
      Bool.or_eq_true]
    exact .inr (inductionHypothesis plain (shorter noQuote))

/-- A string is found to be oversized if what it says is. -/
theorem exceededFrom_quote_append
    {text back : Text}
    (oversized : policy.isOversized text = true)
    (noQuote : back.head? ≠ some '\'') :
    policy.exceededFrom .plain (Quoted.quote '\'' text ++ back) = true := by
  obtain ⟨body, behind, whole, place, search⟩ :=
    policy.exceededFrom_of_closed (Quoted.closingQuoteFrom?_double 0 text noQuote)
  have length : (Quoted.double '\'' text).byteLength = body.byteLength := Nat.add_left_cancel place
  obtain ⟨rfl, -⟩ := Text.append_inj_of_byteLength whole length
  rw [Quoted.quote, List.cons_append, List.append_assoc, List.singleton_append,
    exceededFrom_plain_cons, if_pos rfl, search, List.reverse_nil, List.nil_append,
    policy.isOversized_double '\'' oversized, Bool.true_or]

end LargeTextPolicy

/-! ## What is bound as too long -/

namespace Insert

/-- A value is bound as too long only if it is read as a string that is. -/
theorem string?_of_bindValue
    {policy : LargeTextPolicy}
    {token text : Text}
    (bound : bindValue policy token = .ok (.largeText text)) :
    Quoted.string? token = some text ∧ policy.isOversized text = true := by
  unfold bindValue at bound
  cases classified : Literal.classify token with
  | error error =>
    rw [classified] at bound
    cases bound
  | ok literal =>
    rw [classified] at bound
    change literal.bind policy = _ at bound
    cases literal with
    | string body =>
      simp only [Literal.bind] at bound
      split at bound
      · rename_i oversized
        cases bound
        exact ⟨Literal.string?_of_classify classified, oversized⟩
      · cases bound
    | date body =>
      simp only [Literal.bind, Literal.dateBinding] at bound
      split at bound
      · cases bound
      · split at bound <;> cases bound
    | timestamp body =>
      simp only [Literal.bind] at bound
      cases read : Literal.timestampOf body <;> rw [read] at bound <;> cases bound
    | toTimestamp value format language =>
      simp only [Literal.bind] at bound
      cases read : Literal.convert value format language <;> rw [read] at bound <;> cases bound
    | null | integer value | double value | other body => cases bound

/-- Every binding is that of a value. -/
theorem exists_mem_of_bindAll
    {policy : LargeTextPolicy}
    {tokens : List Text}
    {bindings : List Binding}
    {binding : Binding}
    (bound : bindAll policy tokens = .ok bindings)
    (member : binding ∈ bindings) :
    ∃ token ∈ tokens, bindValue policy token = .ok binding := by
  induction tokens generalizing bindings with
  | nil =>
    cases bound
    cases member
  | cons token rest inductionHypothesis =>
    obtain ⟨first, others, rfl, boundFirst, boundRest⟩ := Written.exists_of_bindAll_cons bound
    rcases List.mem_cons.mp member with rfl | later
    · exact ⟨token, List.mem_cons_self, boundFirst⟩
    · obtain ⟨other, otherMember, boundOther⟩ := inductionHypothesis boundRest later
      exact ⟨other, List.mem_cons_of_mem _ otherMember, boundOther⟩

/-- A value list that every scan of its statement reads alike: only white space stands in front of
it, it holds no quoted identifier, and a value between two quotes is one complete string. -/
structure ReadsAlike (statement : Text) (clause : ValuesClause) : Prop where
  isBlank : (statement.slice (clause.keyword + Keyword.values.byteLength)
    clause.list.opening).isBlank = true
  noIdentifier : Region.plain.showsIdentifier (clause.list.content statement) = false
  isString : ∀ body, '\'' :: (body ++ ['\'']) ∈ valueItems (clause.list.content statement) →
    IsString ('\'' :: (body ++ ['\'']))

variable {policy : LargeTextPolicy} {statement text : Text} {clause : ValuesClause}
  {prepared : PreparedInsert}

/-- The value list stands outside quotes, behind its parenthesis. -/
theorem ReadsAlike.exists_append
    (alike : ReadsAlike statement clause)
    (located : locateValues statement 0 = .ok clause) :
    ∃ front trailing : Text,
      statement = front ++ (clause.list.content statement ++ ')' :: trailing) ∧
        Region.plain.after front = .plain ∧ front.getLast? = some '(' := by
  obtain ⟨front, keyword, gap, values, trailing, whole, -, place, same, opening, closing⟩ :=
    exists_append_of_locateValues located
  have letters := Text.isAlpha_of_sameLetters same isAlpha_of_mem_values
  have length : Keyword.values.byteLength = keyword.byteLength := by
    rw [Text.byteLength_of_isAlpha isAlpha_of_mem_values, Text.byteLength_of_isAlpha letters,
      Text.length_of_sameLetters same]
  -- in front of the keyword, quotes are closed
  obtain ⟨head, word, back, split, found, -, plain⟩ :=
    Keyword.exists_append_of_locate? (locate?_of_locateValues located)
  obtain ⟨rfl, -⟩ :=
    Text.append_inj_of_byteLength (whole.symm.trans split) (place.symm.trans found)
  have gapBlank : gap.isBlank = true := by
    have cut := Text.cut?_append (front ++ keyword) gap ('(' :: (values ++ ')' :: trailing))
    simp only [List.append_assoc, ← whole, Text.byteLength_append, ← place, ← Nat.add_assoc] at cut
    have blank := alike.isBlank
    rwa [length, opening, Text.slice_of_cut? cut] at blank
  have content : clause.list.content statement = values := by
    have cut := Text.cut?_between (front ++ (keyword ++ gap)) values trailing '(' ')' rfl
    simp only [List.append_assoc, ← whole, Text.byteLength_append, ← place, ← Nat.add_assoc] at cut
    rw [ListSpan.content, closing, opening, Text.slice_of_cut? cut]
  refine ⟨front ++ (keyword ++ (gap ++ ['('])), trailing, ?_, ?_, ?_⟩
  · rw [content, whole]
    simp
  · have noQuoteWord : ∀ char ∈ keyword, char ≠ '\'' ∧ char ≠ '"' := fun char member =>
      ne_quote_of_isAlpha (letters char member)
    have noQuoteGap : ∀ char ∈ gap, char ≠ '\'' ∧ char ≠ '"' := fun char member =>
      ne_quote_of_isWhiteSpace (List.all_eq_true.mp gapBlank char member)
    rw [Region.after_append, plain, Region.after_append, Region.after_of_forall noQuoteWord,
      Region.after_append, Region.after_of_forall noQuoteGap]
    rfl
  · simp

/-- A value that is bound as too long is a string that the search of its statement finds. -/
theorem isExceededIn_of_largeText
    (located : locateValues statement 0 = .ok clause)
    (alike : ReadsAlike statement clause)
    (prepares : prepare policy statement = .ok prepared)
    (member : .largeText text ∈ prepared.bindings) :
    policy.isExceededIn statement = true := by
  -- the item that is bound, which is a complete string
  have bound := prepare_of_locateValues located policy
  rw [prepares] at bound
  obtain ⟨item, itemMember, boundItem⟩ := exists_mem_of_bindAll bound.symm member
  obtain ⟨read, oversized⟩ := string?_of_bindValue boundItem
  obtain rfl : item = Quoted.quote '\'' text := by
    obtain ⟨piece, -, rfl⟩ := List.mem_map.mp itemMember
    obtain ⟨body, marked, -⟩ := (Quoted.string?_eq_some_iff _ text).mp read
    rw [Text.trim_trim] at marked
    rw [marked] at itemMember read ⊢
    have string := alike.isString body itemMember
    generalize '\'' :: (body ++ ['\'']) = token at read string ⊢
    cases string with
    | quote other =>
      rw [Quoted.string?_quote] at read
      rw [Option.some.inj read]
  -- where it stands in the statement
  obtain ⟨before, behind, place, plain, noQuoteBefore, noQuoteBehind⟩ :=
    ValueNesting.exists_place_of_valueItems alike.noIdentifier itemMember
  obtain ⟨front, trailing, whole, frontPlain, frontLast⟩ := alike.exists_append located
  have split : statement = (front ++ before) ++
      (Quoted.quote '\'' text ++ (behind ++ ')' :: trailing)) := by
    rw [whole, place]
    simp
  rw [LargeTextPolicy.isExceededIn, split]
  apply policy.exceededFrom_append
  · change Region.plain.after (front ++ before) = .plain
    rw [Region.after_append, frontPlain, plain]
  · rw [List.getLast?_append, frontLast]
    cases last : before.getLast? with
    | none => simp
    | some char =>
      rw [last] at noQuoteBefore
      exact noQuoteBefore
  · apply policy.exceededFrom_quote_append oversized
    cases behind with
    | nil => simp
    | cons char rest => exact noQuoteBehind

end Insert

/-! ## What is sent by itself -/

namespace Loader

/-- A statement with an oversized string is executed by itself behind all that wait, so that nothing
waits any longer. -/
theorem handle_of_exceeded
    {loader : Loader}
    {source : Statement}
    {text : Text}
    {prepared : PreparedInsert}
    (insert : source.isInsert = true)
    (executes : loader.textOf source = .ok text)
    (exceeded : loader.config.largeText.isExceededIn text = true)
    (prepares : Insert.prepare loader.config.largeText text = .ok prepared)
    (load : Load) :
    (loader.handle source load).2.pending = [] ∧
      ∃ made, made <+: Call.ofWaiting load.pending ++ [.prepared prepared] ∧
        (loader.handle source load).2.calls = load.calls ++ made := by
  have submits : loader.handle source load = loader.submit text load := by
    simp only [handle, insert, executes, if_true]
  have plan : loader.planText text load.pending =
      { calls := Call.ofWaiting load.pending ++ [.prepared prepared], waiting := [] } := by
    simp only [planText, exceeded, if_true, planPrepared, prepares, Plan.andThen, Plan.flush]
  have carried := carriesOut_submit loader text load
  rw [plan] at carried
  rw [submits]
  exact ⟨carried.pending.elim id id, carried.exists_made⟩

end Loader

namespace Insert

variable {policy : LargeTextPolicy} {statement text : Text} {clause : ValuesClause}
  {prepared : PreparedInsert}

/-- A statement with a value that is bound as too long holds an oversized string, if all scans read
its value list alike.  So a loader puts it in no batch: it is executed by itself, with its values
bound, behind all that wait. -/
theorem largeText_is_not_batched
    (located : locateValues statement 0 = .ok clause)
    (alike : ReadsAlike statement clause)
    (prepares : prepare policy statement = .ok prepared)
    (member : .largeText text ∈ prepared.bindings) :
    policy.isExceededIn statement = true ∧
    ∀ (loader : Loader) (source : Statement) (load : Load),
      loader.config.largeText = policy → source.isInsert = true →
      loader.textOf source = .ok statement →
      (loader.handle source load).2.pending = [] ∧
        ∃ made, made <+: Call.ofWaiting load.pending ++ [.prepared prepared] ∧
          (loader.handle source load).2.calls = load.calls ++ made := by
  have exceeded := isExceededIn_of_largeText located alike prepares member
  refine ⟨exceeded, ?_⟩
  rintro loader source load rfl insert executes
  exact Loader.handle_of_exceeded insert executes exceeded prepares load

/-- A string that holds both kinds of quotes is found, and flushes what waits. -/
theorem largeText_is_not_batched_of_quotes :
    let policy : LargeTextPolicy := { maxBytes := 8, maxChars := 8 }
    let statement : Text := "INSERT INTO \"T\" (A, B) values\n('it''s \"big\"' , 1)".toList
    let clause : ValuesClause := ⟨23, ⟨30, 48⟩⟩
    let prepared : PreparedInsert :=
      { statement := "INSERT INTO \"T\" (A, B) VALUES (?, ?)".toList
        bindings := [.largeText "it's \"big\"".toList, .long 1] }
    let loader : Loader :=
      { config := { largeText := policy }, executor := fun _ _ => .failed [] }
    locateValues statement 0 = .ok clause ∧ ReadsAlike statement clause ∧
      prepare policy statement = .ok prepared ∧ policy.isExceededIn statement = true ∧
      (loader.handle ⟨statement⟩ { pending := [['X']] }).2.pending = [] := by
  intro policy statement clause prepared loader
  have located : locateValues statement 0 = .ok clause := by decide +kernel
  have alike : ReadsAlike statement clause := by
    refine ⟨by decide +kernel, by decide +kernel, fun body member => ?_⟩
    have items : valueItems (clause.list.content statement) =
        [Quoted.quote '\'' "it's \"big\"".toList, ['1']] := by decide +kernel
    rw [items, List.mem_pair] at member
    rcases member with string | number
    · rw [string]
      exact .quote _
    · cases number
  have prepares : prepare policy statement = .ok prepared := by decide +kernel
  have member : .largeText "it's \"big\"".toList ∈ prepared.bindings := List.mem_cons_self
  obtain ⟨exceeded, handled⟩ := largeText_is_not_batched located alike prepares member
  exact ⟨located, alike, prepares, exceeded,
    (handled loader ⟨statement⟩ { pending := [['X']] } rfl (by decide +kernel) rfl).1⟩

end Insert

end SqlDump
