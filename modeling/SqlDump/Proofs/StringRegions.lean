import SqlDump.Proofs.QuoteTracking
import SqlDump.Value.Policy

/-!
# Strings as a scanner delimits them

A string is closed between a quote that takes a scanner into it and a quote behind which the next
character, if there is one, takes the scanner out of it.  The search for oversized strings, which
looks at the character behind each quote instead, measures the same strings.
-/

namespace SqlDump
namespace Scanner

namespace Mode

theorem inString_iff (mode : Mode) :
    mode.inString = true ↔ mode = .string ∨ mode = .stringQuote := by
  cases mode <;> simp [inString]

theorem eq_string_of_region {mode : Mode} (region : mode.region = .string) : mode = .string := by
  cases mode <;> simp_all [Mode.region]

theorem eq_identifier_of_region {mode : Mode} (region : mode.region = .identifier) :
    mode = .identifier := by
  cases mode <;> simp_all [Mode.region]

theorem isPlain_of_region
    {mode : Mode}
    (outside : mode.inComment = false)
    (region : mode.region = .plain) :
    mode.isPlain = true := by
  cases mode <;> simp_all [Mode.region, Mode.isPlain, inComment, inLineComment, inBlockComment]

theorem region_of_isPlain {mode : Mode} (plain : mode.isPlain = true) : mode.region = .plain := by
  cases mode <;> simp_all [Mode.region, Mode.isPlain]

end Mode

namespace State

variable {state : State} {char : Char} {text : Text} {accepts : Text → Prop}

/-! ## How quotes open and close strings -/

theorem mode_stepPlain_ne_stringQuote (state : State) (char : Char) :
    (state.stepPlain char).1.mode ≠ .stringQuote := by
  unfold stepPlain
  split_ifs <;> exact Mode.noConfusion

/-- Only a quote inside a string may have ended one. -/
theorem mode_step_eq_stringQuote_iff (state : State) (char : Char) :
    (state.step char).1.mode = .stringQuote ↔ state.mode = .string ∧ char = '\'' := by
  by_cases fresh : state.mode.isPlain = true ∧ state.mode.continues char = false
  · rw [step_of_isPlain state char fresh.1 fresh.2]
    refine iff_of_false (mode_stepPlain_ne_stringQuote state.settled char) ?_
    rintro ⟨inside, -⟩
    rw [inside] at fresh
    exact absurd fresh.1 Bool.false_ne_true
  · obtain ⟨mode, depth, reversed⟩ := state
    cases mode with
    | string =>
      by_cases quote : char = '\''
      · rw [quote]
        exact iff_of_true rfl ⟨rfl, rfl⟩
      · simp [step, push, quote]
    | identifier =>
      by_cases quote : char = '"'
      · simp [step, enter, quote]
      · simp [step, push, quote]
    | lineComment | blockComment | blockCommentStar =>
      simp only [step]
      split_ifs <;> simp [enter, push]
    | normal | dash | slash | stringQuote | identifierQuote =>
      simp_all [step, enter, Mode.isPlain, Mode.continues]

theorem region_next_eq_string (char : Char) :
    Region.next .plain char = .string ↔ char = '\'' := by
  simp only [Region.next]
  split_ifs <;> simp_all

/-- Behind a quote that may have ended a string, another quote leads back into it and any other
character out of it. -/
theorem inString_step_of_stringQuote
    (quote : state.mode = .stringQuote)
    (char : Char) :
    (state.step char).1.mode.inString = true ↔ char = '\'' := by
  have outside : state.mode.inComment = false := by
    rw [quote]
    rfl
  have region := region_step outside char
  rw [quote] at region
  rw [Mode.inString_iff, mode_step_eq_stringQuote_iff, quote, ← region_next_eq_string]
  constructor
  · rintro (inside | ⟨inside, -⟩)
    · rw [inside] at region
      exact region.symm
    · cases inside
  · intro opens
    exact .inl (Mode.eq_string_of_region (region.trans opens))

/-! ## Closed strings -/

/-- Whether a scanner inside a string stays in it along a text, and a quote behind that text ends
the string in front of a text. -/
structure ClosesString (state : State) (body back : Text) : Prop where
  inside : ∀ part, part <+: body → (state.run part).1.mode.inString = true
  closed : (state.run (body ++ ['\''])).1.mode = .stringQuote
  leaves : ∀ char ∈ back.head?, (state.run (body ++ ['\'', char])).1.mode.inString = false

/-- Whether the string a scanner is inside of is closed in a text, behind a text of some kind. -/
def EndsString (state : State) (accepts : Text → Prop) (text : Text) : Prop :=
  ∃ body back, text = body ++ '\'' :: back ∧ state.ClosesString body back ∧ accepts body

/-- Whether a scanner that reads a text enters a string and leaves it behind a text of some kind. -/
def HoldsString (state : State) (accepts : Text → Prop) (text : Text) : Prop :=
  ∃ front body back, text = front ++ '\'' :: (body ++ '\'' :: back) ∧
    (state.run front).1.mode.inString = false ∧
    ((state.run front).1.step '\'').1.ClosesString body back ∧ accepts body

theorem endsString_nil : ¬ state.EndsString accepts [] := by
  rintro ⟨body, back, whole, -⟩
  simp at whole

theorem holdsString_nil : ¬ state.HoldsString accepts [] := by
  rintro ⟨front, body, back, whole, -⟩
  simp at whole

theorem closesString_nil_iff (back : Text) :
    state.ClosesString [] back ↔
      state.mode.inString = true ∧ (state.step '\'').1.mode = .stringQuote ∧
        back.head? ≠ some '\'' := by
  constructor
  · rintro ⟨inside, closed, leaves⟩
    refine ⟨inside [] List.nil_prefix, closed, fun again => ?_⟩
    have stays := (inString_step_of_stringQuote closed '\'').mpr rfl
    exact Bool.false_ne_true ((leaves '\'' again).symm.trans stays)
  · rintro ⟨here, closed, noQuote⟩
    refine ⟨fun part start => ?_, closed, fun char first => ?_⟩
    · rw [List.prefix_nil.mp start]
      exact here
    · rw [Bool.eq_false_iff]
      intro stays
      obtain rfl := (inString_step_of_stringQuote closed char).mp stays
      exact noQuote first

theorem closesString_cons_iff (char : Char) (body back : Text) :
    state.ClosesString (char :: body) back ↔
      state.mode.inString = true ∧ (state.step char).1.ClosesString body back := by
  constructor
  · rintro ⟨inside, closed, leaves⟩
    refine ⟨inside [] List.nil_prefix, ?_, closed, leaves⟩
    intro part start
    exact inside (char :: part) (List.cons_prefix_cons.mpr ⟨rfl, start⟩)
  · rintro ⟨here, inside, closed, leaves⟩
    refine ⟨?_, closed, leaves⟩
    intro part start
    cases part with
    | nil => exact here
    | cons first later =>
      obtain ⟨rfl, startLater⟩ := List.cons_prefix_cons.mp start
      exact inside later startLater

theorem endsString_cons_iff (char : Char) (rest : Text) :
    state.EndsString accepts (char :: rest) ↔
      state.mode.inString = true ∧
        (char = '\'' ∧ (state.step char).1.mode = .stringQuote ∧ rest.head? ≠ some '\'' ∧
            accepts [] ∨
          (state.step char).1.EndsString (fun body => accepts (char :: body)) rest) := by
  constructor
  · rintro ⟨body, back, whole, closes, accepted⟩
    cases body with
    | nil =>
      obtain ⟨rfl, rfl⟩ := List.cons.inj whole
      obtain ⟨here, closed, noQuote⟩ := (closesString_nil_iff _).mp closes
      exact ⟨here, .inl ⟨rfl, closed, noQuote, accepted⟩⟩
    | cons first later =>
      obtain ⟨rfl, rest⟩ := List.cons.inj whole
      obtain ⟨here, closes⟩ := (closesString_cons_iff _ _ _).mp closes
      exact ⟨here, .inr ⟨later, back, rest, closes, accepted⟩⟩
  · rintro ⟨here, ⟨rfl, closed, noQuote, accepted⟩ | ⟨body, back, rfl, closes, accepted⟩⟩
    · exact ⟨[], rest, rfl, (closesString_nil_iff rest).mpr ⟨here, closed, noQuote⟩, accepted⟩
    · exact ⟨char :: body, back, rfl, (closesString_cons_iff _ _ _).mpr ⟨here, closes⟩, accepted⟩

theorem holdsString_cons_iff (char : Char) (rest : Text) :
    state.HoldsString accepts (char :: rest) ↔
      state.mode.inString = false ∧ char = '\'' ∧ (state.step char).1.EndsString accepts rest ∨
        (state.step char).1.HoldsString accepts rest := by
  constructor
  · rintro ⟨front, body, back, whole, outside, closes, accepted⟩
    cases front with
    | nil =>
      obtain ⟨rfl, rest⟩ := List.cons.inj whole
      exact .inl ⟨outside, rfl, body, back, rest, closes, accepted⟩
    | cons first later =>
      obtain ⟨rfl, rest⟩ := List.cons.inj whole
      exact .inr ⟨later, body, back, rest, outside, closes, accepted⟩
  · rintro (⟨outside, rfl, body, back, rfl, closes, accepted⟩ |
      ⟨front, body, back, rfl, outside, closes, accepted⟩)
    · exact ⟨[], body, back, rfl, outside, closes, accepted⟩
    · exact ⟨char :: front, body, back, rfl, outside, closes, accepted⟩

theorem EndsString.inString (ends : state.EndsString accepts text) :
    state.mode.inString = true := by
  obtain ⟨body, back, -, closes, -⟩ := ends
  exact closes.inside [] List.nil_prefix

/-- A string that was ended is not ended again. -/
theorem not_endsString_of_stringQuote
    (quote : state.mode = .stringQuote)
    (noQuote : text.head? ≠ some '\'') :
    ¬ state.EndsString accepts text := by
  cases text with
  | nil => exact endsString_nil
  | cons char rest =>
    have other : char ≠ '\'' := fun same => noQuote (congrArg some same)
    rw [endsString_cons_iff]
    rintro ⟨-, ⟨same, -⟩ | ends⟩
    · exact other same
    · exact other ((inString_step_of_stringQuote quote char).mp ends.inString)

/-- A quote that no other follows ends the string. -/
theorem endsString_quote_iff
    (inside : state.mode = .string)
    (noQuote : text.head? ≠ some '\'') :
    state.EndsString accepts ('\'' :: text) ↔ accepts [] := by
  have here : state.mode.inString = true := (Mode.inString_iff _).mpr (.inl inside)
  have closed := (mode_step_eq_stringQuote_iff state '\'').mpr ⟨inside, rfl⟩
  rw [endsString_cons_iff]
  constructor
  · rintro ⟨-, ⟨-, -, -, accepted⟩ | ends⟩
    · exact accepted
    · exact absurd ends (not_endsString_of_stringQuote closed noQuote)
  · intro accepted
    exact ⟨here, .inl ⟨rfl, closed, noQuote, accepted⟩⟩

/-- Other characters stay in the string. -/
theorem endsString_cons_of_ne
    (inside : state.mode = .string)
    (other : char ≠ '\'')
    (rest : Text) :
    state.EndsString accepts (char :: rest) ↔
      (state.step char).1.EndsString (fun body => accepts (char :: body)) rest := by
  have here : state.mode.inString = true := (Mode.inString_iff _).mpr (.inl inside)
  rw [endsString_cons_iff]
  constructor
  · rintro ⟨-, ⟨same, -⟩ | ends⟩
    · exact absurd same other
    · exact ends
  · exact fun ends => ⟨here, .inr ends⟩

theorem mode_step_quote_quote (inside : state.mode = .string) :
    ((state.step '\'').1.step '\'').1.mode = .string := by
  have closed := (mode_step_eq_stringQuote_iff state '\'').mpr ⟨inside, rfl⟩
  rw [step.eq_def, closed]
  rfl

/-- A doubled quote stays in the string. -/
theorem endsString_quote_quote
    (inside : state.mode = .string)
    (rest : Text) :
    state.EndsString accepts ('\'' :: '\'' :: rest) ↔
      ((state.step '\'').1.step '\'').1.EndsString
        (fun body => accepts ('\'' :: '\'' :: body)) rest := by
  have here : state.mode.inString = true := (Mode.inString_iff _).mpr (.inl inside)
  have closed := (mode_step_eq_stringQuote_iff state '\'').mpr ⟨inside, rfl⟩
  have between : (state.step '\'').1.mode.inString = true := (Mode.inString_iff _).mpr (.inr closed)
  have again := mode_step_quote_quote inside
  rw [endsString_cons_iff, endsString_cons_iff]
  constructor
  · rintro ⟨-, ⟨-, -, noQuote, -⟩ | ⟨-, ⟨-, twice, -⟩ | ends⟩⟩
    · exact absurd rfl noQuote
    · exact absurd (again.symm.trans twice) Mode.noConfusion
    · exact ends
  · intro ends
    exact ⟨here, .inr ⟨between, .inr ends⟩⟩

theorem holdsString_cons_of_inString
    (inside : state.mode.inString = true)
    (char : Char)
    (rest : Text) :
    state.HoldsString accepts (char :: rest) ↔ (state.step char).1.HoldsString accepts rest := by
  rw [holdsString_cons_iff, inside]
  exact or_iff_right fun opens => Bool.false_ne_true opens.1.symm

/-! ## The search for oversized strings -/

/-- Whether a scanner and a search for oversized strings stand in the same kind of text. -/
def TracksSearch (state : State) (search : LargeTextPolicy.SearchState) (text : Text) : Prop :=
  match search with
  | .plain => state.mode.isPlain = true ∧ (state.mode = .stringQuote → text.head? ≠ some '\'')
  | .identifier => state.mode = .identifier
  | .string _ => state.mode = .string

theorem TracksSearch.outside
    {search : LargeTextPolicy.SearchState}
    (tracks : state.TracksSearch search text) :
    state.mode.inComment = false := by
  cases search with
  | plain => exact Mode.inComment_of_isPlain tracks.1
  | identifier =>
    rw [show state.mode = .identifier from tracks]
    rfl
  | string reversed =>
    rw [show state.mode = .string from tracks]
    rfl

/-- Behind a character in plain text the search goes on in the kind of text the scanner is in. -/
theorem TracksSearch.step_plain
    {rest : Text}
    (tracks : state.TracksSearch .plain (char :: rest))
    (kept : state.keeps char = true) :
    (state.step char).1.TracksSearch
      (if char = '\'' then .string [] else if char = '"' then .identifier else .plain) rest := by
  have stays := (step_of_keeps state char tracks.outside kept).2.1
  have region := region_step tracks.outside char
  rw [Mode.region_of_isPlain tracks.1, Region.next] at region
  split_ifs at region ⊢
  · exact Mode.eq_string_of_region region
  · exact Mode.eq_identifier_of_region region
  · refine ⟨Mode.isPlain_of_region stays region, fun quote => ?_⟩
    have inside := ((mode_step_eq_stringQuote_iff state char).mp quote).1
    have plain := tracks.1
    rw [inside] at plain
    cases plain

theorem TracksSearch.step_identifier
    {rest : Text}
    (tracks : state.TracksSearch .identifier (char :: rest))
    (kept : state.keeps char = true) :
    (state.step char).1.TracksSearch (if char = '"' then .plain else .identifier) rest := by
  have stays := (step_of_keeps state char tracks.outside kept).2.1
  have region := region_step tracks.outside char
  have here : state.mode = .identifier := tracks
  rw [here] at region
  change _ = (if char = '"' then Region.plain else .identifier) at region
  split_ifs at region ⊢
  · refine ⟨Mode.isPlain_of_region stays region, fun quote => ?_⟩
    have inside := ((mode_step_eq_stringQuote_iff state char).mp quote).1
    rw [here] at inside
    cases inside
  · exact Mode.eq_identifier_of_region region

/-- Whether a scanner delimits an oversized string in a text: the string it is inside of, with what
a search has read of it, or one behind it. -/
def DelimitsOversized
    (policy : LargeTextPolicy)
    (state : State)
    (search : LargeTextPolicy.SearchState)
    (text : Text) : Prop :=
  match search with
  | .string reversed =>
    state.EndsString (fun body => policy.isOversized (reversed.reverse ++ body) = true) text ∨
      state.HoldsString (fun body => policy.isOversized body = true) text
  | _ => state.HoldsString (fun body => policy.isOversized body = true) text

theorem delimitsOversized_plain_iff (policy : LargeTextPolicy) (text : Text) :
    state.DelimitsOversized policy .plain text ↔
      state.HoldsString (fun body => policy.isOversized body = true) text :=
  Iff.rfl

/-- Inside a string, a character leads to what is delimited behind it, unless it ends the string. -/
theorem delimitsOversized_string_cons
    {policy : LargeTextPolicy}
    (inside : state.mode = .string)
    (reversed : Text)
    (char : Char)
    (rest : Text) :
    state.DelimitsOversized policy (.string reversed) (char :: rest) ↔
      state.EndsString (fun body => policy.isOversized (reversed.reverse ++ body) = true)
          (char :: rest) ∨
        (state.step char).1.HoldsString (fun body => policy.isOversized body = true) rest := by
  rw [DelimitsOversized,
    holdsString_cons_of_inString ((Mode.inString_iff _).mpr (.inl inside))]

theorem not_delimitsOversized_nil
    (policy : LargeTextPolicy)
    (search : LargeTextPolicy.SearchState) :
    ¬ state.DelimitsOversized policy search [] := by
  cases search with
  | plain | identifier => exact holdsString_nil
  | string reversed => exact not_or.mpr ⟨endsString_nil, holdsString_nil⟩

theorem delimitsOversized_plain_cons
    {policy : LargeTextPolicy}
    {rest : Text}
    (tracks : state.TracksSearch .plain (char :: rest)) :
    state.DelimitsOversized policy .plain (char :: rest) ↔
      (state.step char).1.DelimitsOversized policy
        (if char = '\'' then .string [] else if char = '"' then .identifier else .plain) rest := by
  have here : char = '\'' → state.mode.inString = false := by
    rintro rfl
    have noQuote : state.mode ≠ .stringQuote := fun quote => tracks.2 quote rfl
    rw [Bool.eq_false_iff, ne_eq, Mode.inString_iff]
    rintro (inside | quote)
    · have plain := tracks.1
      rw [inside] at plain
      cases plain
    · exact noQuote quote
  simp only [DelimitsOversized]
  rw [holdsString_cons_iff]
  split_ifs with quote name
  · simp only [List.reverse_nil, List.nil_append, here quote, quote, true_and]
  · exact or_iff_right fun opens => quote opens.2.1
  · exact or_iff_right fun opens => quote opens.2.1

theorem delimitsOversized_identifier_cons
    {policy : LargeTextPolicy}
    {rest : Text}
    (tracks : state.TracksSearch .identifier (char :: rest)) :
    state.DelimitsOversized policy .identifier (char :: rest) ↔
      (state.step char).1.DelimitsOversized policy
        (if char = '"' then .plain else .identifier) rest := by
  have stays : char = '\'' → (state.step char).1.mode.inString = false := by
    rintro rfl
    have here : state.mode = .identifier := tracks
    have region := region_step tracks.outside '\''
    rw [here] at region
    rw [Mode.eq_identifier_of_region region]
    rfl
  have noString : ¬(state.mode.inString = false ∧ char = '\'' ∧
      (state.step char).1.EndsString (fun body => policy.isOversized body = true) rest) := by
    rintro ⟨-, quote, ends⟩
    exact Bool.false_ne_true ((stays quote).symm.trans ends.inString)
  simp only [DelimitsOversized]
  rw [holdsString_cons_iff, or_iff_right noString]
  split_ifs <;> rfl

/-- A search for oversized strings finds what a scanner delimits. -/
theorem exceededFrom_iff
    (policy : LargeTextPolicy)
    {search : LargeTextPolicy.SearchState}
    (kept : state.KeepsAll text)
    (tracks : state.TracksSearch search text) :
    policy.exceededFrom search text = true ↔ state.DelimitsOversized policy search text := by
  fun_induction LargeTextPolicy.exceededFrom policy search text generalizing state with
  | case1 search =>
    exact iff_of_false Bool.false_ne_true (not_delimitsOversized_nil policy search)
  | case2 char reversed =>
    have inside : state.mode = .string := tracks
    rw [delimitsOversized_string_cons inside, or_iff_left holdsString_nil]
    by_cases quote : char = '\''
    · rw [quote, endsString_quote_iff inside (by simp)]
      simp
    · rw [endsString_cons_of_ne inside quote]
      exact iff_of_false (by simp [quote]) endsString_nil
  | case3 search char other =>
    refine iff_of_false Bool.false_ne_true ?_
    cases search with
    | plain =>
      rw [delimitsOversized_plain_cons tracks]
      exact not_delimitsOversized_nil policy _
    | identifier =>
      rw [delimitsOversized_identifier_cons tracks]
      exact not_delimitsOversized_nil policy _
    | string reversed => exact absurd rfl (other reversed)
  | case4 char next rest inductionHypothesis =>
    rw [delimitsOversized_plain_cons tracks]
    exact inductionHypothesis kept.2 (tracks.step_plain kept.1)
  | case5 char next rest inductionHypothesis =>
    rw [delimitsOversized_identifier_cons tracks]
    exact inductionHypothesis kept.2 (tracks.step_identifier kept.1)
  | case6 char next rest reversed other inductionHypothesis =>
    have inside : state.mode = .string := tracks
    have stays : (state.step char).1.mode = .string := by
      have region := region_step tracks.outside char
      rw [inside] at region
      exact Mode.eq_string_of_region (region.trans (if_neg other))
    rw [inductionHypothesis kept.2 stays, DelimitsOversized, delimitsOversized_string_cons inside,
      endsString_cons_of_ne inside other]
    simp only [List.reverse_cons, List.append_assoc, List.singleton_append]
  | case7 char rest reversed quote inductionHypothesis =>
    obtain rfl : char = '\'' := Decidable.not_not.mp quote
    have inside : state.mode = .string := tracks
    have closed := (mode_step_eq_stringQuote_iff state '\'').mpr ⟨inside, rfl⟩
    rw [inductionHypothesis kept.2.2 (mode_step_quote_quote inside), DelimitsOversized,
      delimitsOversized_string_cons inside, endsString_quote_quote inside,
      holdsString_cons_of_inString ((Mode.inString_iff _).mpr (.inr closed))]
    simp only [List.reverse_cons, List.append_assoc, List.cons_append, List.nil_append]
  | case8 char next rest reversed quote other inductionHypothesis =>
    obtain rfl : char = '\'' := Decidable.not_not.mp quote
    have inside : state.mode = .string := tracks
    have closed := (mode_step_eq_stringQuote_iff state '\'').mpr ⟨inside, rfl⟩
    have noQuote : (next :: rest).head? ≠ some '\'' := fun same => other (Option.some.inj same)
    have behind : (state.step '\'').1.TracksSearch .plain (next :: rest) := by
      refine ⟨?_, fun _ => noQuote⟩
      rw [closed]
      rfl
    rw [Bool.or_eq_true, inductionHypothesis kept.2 behind, delimitsOversized_plain_iff,
      delimitsOversized_string_cons inside, endsString_quote_iff inside noQuote, List.append_nil]

/-- A text kept whole has an oversized string if and only if a new scanner delimits one. -/
theorem isExceededIn_iff (policy : LargeTextPolicy) (kept : KeepsAll {} text) :
    policy.isExceededIn text = true ↔
      HoldsString {} (fun body => policy.isOversized body = true) text := by
  have start : TracksSearch {} .plain text := ⟨rfl, fun quote => by cases quote⟩
  exact exceededFrom_iff policy kept start

end State
end Scanner
end SqlDump
