import Mathlib.Data.List.Basic
import SqlDump.Proofs.KeywordOccurrence
import SqlDump.Proofs.StringRegions

/-!
# Scans of a statement

The text of a statement is searched for keywords, for closing parentheses and for oversized
strings, each time with rules for quotes of its own.  All these scans agree with the scanner the
statement came from.
-/

namespace SqlDump

/-- The text of every statement of a script is kept whole by a new scanner. -/
theorem Script.keepsAll_of_mem_statements
    {script : Text}
    {statement : Statement}
    (member : statement ∈ Script.statements script) :
    Scanner.State.KeepsAll {} statement.text := by
  have start := Scanner.State.Faithful.start
  rw [Script.statements_eq, List.mem_append, Option.mem_toList] at member
  rcases member with completed | last
  · obtain ⟨_, faithful, -, -, found⟩ := start.exists_of_completed script completed
    exact faithful.keepsAll_text found
  · exact (start.run script).keepsAll_text last

namespace Scanner

/-- Whether the last character of a text stands in plain text: a new scanner that has read it is
neither in a string nor in a quoted identifier. -/
def EndsPlain (text : Text) : Prop :=
  (State.run {} text).1.mode.inString = false ∧ (State.run {} text).1.mode.inIdentifier = false

instance (text : Text) : Decidable (EndsPlain text) :=
  inferInstanceAs (Decidable (_ ∧ _))

namespace State

variable {text front back : Text}

theorem outside_of_keepsAll (kept : KeepsAll {} text) :
    (run {} text).1.mode.inComment = false :=
  (run_of_keepsAll {} text rfl kept).2.1

theorem keepsAll_of_prefix
    (kept : KeepsAll {} text)
    (start : front <+: text) :
    KeepsAll {} front := by
  obtain ⟨back, rfl⟩ := start
  exact ((keepsAll_append {} front back).mp kept).1

theorem region_of_endsPlain (plain : EndsPlain text) : (run {} text).1.mode.region = .plain := by
  obtain ⟨noString, noIdentifier⟩ := plain
  cases mode : (run {} text).1.mode <;> simp_all [Mode.inString, Mode.inIdentifier, Mode.region]

/-! ## Parentheses -/

/-- Reading a parenthesis in plain text opens it. -/
theorem nesting_of_endsPlain
    (kept : KeepsAll {} front)
    (plain : EndsPlain (front ++ ['('])) :
    (run {} (front ++ ['('])).1.nesting = (.plain, (run {} front).1.depth + 1) := by
  have outside := outside_of_keepsAll kept
  have moves := nesting_step outside '('
  have region := region_step outside '('
  have after : (run {} (front ++ ['('])).1 = ((run {} front).1.step '(').1 := by
    rw [run_append]
    rfl
  have here := region_of_endsPlain plain
  rw [after] at here ⊢
  rw [here] at region
  have before : (run {} front).1.mode.region = .plain := by
    cases mode : (run {} front).1.mode.region with
    | plain => rfl
    | string | identifier =>
      rw [mode] at region
      cases region
  rw [moves, nesting, before]
  rfl

/-- A parenthesis is closed where a new scanner has as many parentheses open as in front of it. -/
theorem closing_eq_ok_iff
    (kept : KeepsAll {} (front ++ '(' :: back))
    (plain : EndsPlain (front ++ ['(']))
    (found : Nat) :
    Parenthesis.closing (front ++ '(' :: back) front.byteLength = .ok found ↔
      ∃ place, (run {} (front ++ ['('])).1.FirstReaches (run {} front).1.depth back place ∧
        found = front.byteLength + 1 + place := by
  have whole : front ++ '(' :: back = (front ++ ['(']) ++ back := by simp
  have keptFront := keepsAll_of_prefix kept (List.prefix_append front _)
  have keptAlong := kept
  rw [whole, keepsAll_append] at keptAlong
  obtain ⟨keptOpening, keptBack⟩ := keptAlong
  have nesting := nesting_of_endsPlain keptFront plain
  have region := congrArg Prod.fst nesting
  have depth := congrArg Prod.snd nesting
  have closes := closingFrom?_eq_some_iff (outside_of_keepsAll keptOpening) keptBack
    (show (run {} (front ++ ['('])).1.depth = (run {} front).1.depth + 1 + 0 from depth)
    (front.byteLength + 1) found
  rw [show (run {} (front ++ ['('])).1.mode.region = .plain from region] at closes
  rw [← closes]
  simp only [Parenthesis.closing, Text.suffixAt?_byteLength_append]
  cases Parenthesis.closingFrom? .plain 0 (front.byteLength + 1) back with
  | none => simp
  | some place => simp

/-! ## Words -/

/-- A word in plain text stands in plain text to its end. -/
theorem endsPlain_of_word
    {word : Text}
    (kept : KeepsAll {} (front ++ (word ++ back)))
    (plain : Region.plain.after front = .plain)
    (letters : ∀ char ∈ word, char.isAlpha = true)
    {part : Text}
    (start : part <+: word)
    (nonempty : part ≠ []) :
    EndsPlain (front ++ part) := by
  obtain ⟨rest, rfl⟩ := start
  obtain ⟨initial, last, rfl⟩ := (List.eq_nil_or_concat part).resolve_left nonempty
  simp only [List.concat_eq_append] at *
  have keptInitial : KeepsAll {} (front ++ initial) := by
    refine keepsAll_of_prefix kept ⟨last :: (rest ++ back), ?_⟩
    simp
  have outside := outside_of_keepsAll keptInitial
  have noQuote : ∀ char ∈ initial, char ≠ '\'' ∧ char ≠ '"' := by
    intro char member
    have letter := letters char (by simp [member])
    constructor <;> rintro rfl <;> exact absurd letter (by decide)
  have region : (run {} (front ++ initial)).1.mode.region = .plain := by
    rw [region_run rfl keptInitial, Region.after_append]
    change (Region.plain.after front).after initial = .plain
    rw [plain, Region.after_of_forall noQuote]
  have inert : isInert last = true := by
    have letter := letters last (by simp)
    rw [isInert_iff]
    refine ⟨?_, ?_, ?_, ?_, ?_, ?_, ?_, ?_⟩ <;> rintro rfl <;> exact absurd letter (by decide)
  obtain ⟨taken, -⟩ := step_of_isInert _ last (Mode.isPlain_of_region outside region) inert
  have after : (run {} (front ++ (initial ++ [last]))).1 =
      ((run {} (front ++ initial)).1.step last).1 := by
    rw [← List.append_assoc, run_append]
    rfl
  rw [EndsPlain, after, taken]
  exact ⟨rfl, rfl⟩

end State
end Scanner

/-- What is found of a keyword of letters is the keyword, in plain text. -/
theorem Keyword.exists_append_of_locate?
    {keyword text : Text}
    {found : Nat}
    (located : locate? keyword text 0 = some found) :
    ∃ front word back : Text, text = front ++ (word ++ back) ∧ found = front.byteLength ∧
      Text.sameLetters keyword word = true ∧ Region.plain.after front = .plain := by
  rw [locate?] at located
  split at located
  · cases located
  · obtain ⟨front, back, rfl, -, place, plain, begun⟩ :=
      exists_append_of_locateFrom? (Nat.le_refl 0) located
    simp only [begins, Bool.and_eq_true] at begun
    obtain ⟨word, rest, rfl, same⟩ := Text.exists_append_of_startsWith begun.1.1
    exact ⟨front, word, rest, rfl, place.trans (Nat.zero_add _), same, plain⟩

namespace Script

open Scanner (EndsPlain)
open Scanner.State (run HoldsString)

/-- All scans of a statement agree with the scanner on its text.  Read once more, the statement
opens no comment.  The parenthesis that closes one in plain text is the first place at which as
many are open as in front of it.  A keyword of letters is found in plain text.  A string is
oversized when the scanner delimits an oversized one. -/
theorem scans_agree
    (script : Text)
    {statement : Statement}
    (member : statement ∈ Script.statements script) :
    (∀ front, front <+: statement.text → (run {} front).1.mode.inComment = false) ∧
    (∀ front back, statement.text = front ++ '(' :: back → EndsPlain (front ++ ['(']) →
      (∀ found, Parenthesis.closing statement.text (Text.byteLength front) = .ok found ↔
        ∃ place, (run {} (front ++ ['('])).1.FirstReaches (run {} front).1.depth back place ∧
          found = Text.byteLength front + 1 + place) ∧
      ((∃ error, Parenthesis.closing statement.text (Text.byteLength front) = .error error) ↔
        ∀ place,
          ¬ (run {} (front ++ ['('])).1.FirstReaches (run {} front).1.depth back place)) ∧
    (∀ keyword, (∀ letter ∈ keyword, letter.isAlpha = true) →
      ∀ found, Keyword.locate? keyword statement.text 0 = some found →
        ∃ front word back : Text, statement.text = front ++ (word ++ back) ∧
          found = front.byteLength ∧ Text.sameLetters keyword word = true ∧
          ∀ part, part <+: word → part ≠ [] → EndsPlain (front ++ part)) ∧
    (∀ policy : LargeTextPolicy, policy.isExceededIn statement.text = true ↔
      HoldsString {} (fun body => policy.isOversized body = true) statement.text) := by
  have kept := keepsAll_of_mem_statements member
  refine ⟨?_, ?_, ?_, fun policy => Scanner.State.isExceededIn_iff policy kept⟩
  · intro front start
    exact Scanner.State.outside_of_keepsAll (Scanner.State.keepsAll_of_prefix kept start)
  · intro front back whole plain
    rw [whole] at kept ⊢
    have closes := Scanner.State.closing_eq_ok_iff kept plain
    refine ⟨closes, ?_⟩
    cases outcome : Parenthesis.closing (front ++ '(' :: back) (Text.byteLength front) with
    | ok found =>
      obtain ⟨place, reaches, -⟩ := (closes found).mp outcome
      refine iff_of_false ?_ fun never => never place reaches
      rintro ⟨error, failed⟩
      cases failed
    | error error =>
      refine iff_of_true ⟨error, rfl⟩ fun place reaches => ?_
      have closed := (closes _).mpr ⟨place, reaches, rfl⟩
      rw [outcome] at closed
      cases closed
  · intro keyword letters found located
    obtain ⟨front, word, back, whole, place, same, plain⟩ :=
      Keyword.exists_append_of_locate? located
    rw [whole] at kept
    refine ⟨front, word, back, whole, place, same, fun part start nonempty => ?_⟩
    have lettersOfWord := Text.isAlpha_of_sameLetters same letters
    exact Scanner.State.endsPlain_of_word kept plain lettersOfWord start nonempty

/-- A string that holds a parenthesis and a doubled quote, in front of a comment that holds a quote,
misleads no scan. -/
theorem scans_agree_of_quoted_parenthesis :
    let script : Text := "INSERT INTO T VALUES (')''', (1)) -- ';\n; COMMIT".toList
    let statement : Statement := ⟨"INSERT INTO T VALUES (')''', (1))".toList⟩
    let front : Text := "INSERT INTO T VALUES ".toList
    let back : Text := "')''', (1))".toList
    let policy : LargeTextPolicy := { maxBytes := 2, maxChars := 2 }
    statement ∈ Script.statements script ∧
      statement.text = front ++ '(' :: back ∧ EndsPlain (front ++ ['(']) ∧
      Parenthesis.closing statement.text (Text.byteLength front) = .ok 32 ∧
      (run {} (front ++ ['('])).1.FirstReaches (run {} front).1.depth back 10 ∧
      Keyword.locate? Keyword.values statement.text 0 = some 14 ∧
      policy.isExceededIn statement.text = true ∧
      HoldsString {} (fun body => policy.isOversized body = true) statement.text := by
  intro script statement front back policy
  have member : statement ∈ Script.statements script := by decide +kernel
  have plain : EndsPlain (front ++ ['(']) := by decide +kernel
  have closed : Parenthesis.closing statement.text (Text.byteLength front) = .ok 32 := by
    decide +kernel
  have located : Keyword.locate? Keyword.values statement.text 0 = some 14 := by decide +kernel
  have exceeded : policy.isExceededIn statement.text = true := by decide +kernel
  obtain ⟨-, closes, -, strings⟩ := scans_agree script member
  obtain ⟨place, reaches, sum⟩ := ((closes front back rfl plain).1 32).mp closed
  have length : Text.byteLength front = 21 := by decide +kernel
  obtain rfl : place = 10 := by omega
  exact ⟨member, rfl, plain, closed, reaches, located, exceeded, (strings policy).mp exceeded⟩

end Script
end SqlDump
