import SqlDump.Sql.Keyword
import SqlDump.Sql.Quoted

/-!
# What a search for a keyword passes over

A keyword is searched in plain text.  The search passes over quoted text whatever it says, over
words other than the keyword, and over characters that neither quote nor start the keyword.
-/

namespace SqlDump
namespace Keyword

/-- Whether a search that reaches a text in front of `rest` goes on behind it, in plain text. -/
def PassesOver (keyword front rest : Text) : Prop :=
  ∀ start previous position, start ≤ position → ∃ neighbour,
    locateFrom? keyword start .plain previous position (front ++ rest) =
      locateFrom? keyword start .plain neighbour (position + front.byteLength) rest

theorem PassesOver.append
    {keyword front middle rest : Text}
    (first : PassesOver keyword front (middle ++ rest))
    (second : PassesOver keyword middle rest) :
    PassesOver keyword (front ++ middle) rest := by
  intro start previous position behind
  obtain ⟨between, passedFirst⟩ := first start previous position behind
  obtain ⟨neighbour, passedSecond⟩ :=
    second start between (position + front.byteLength)
      (Nat.le_trans behind (Nat.le_add_right _ _))
  refine ⟨neighbour, ?_⟩
  rw [List.append_assoc, passedFirst, passedSecond, Text.byteLength_append, Nat.add_assoc]

theorem passesOver_nil (keyword rest : Text) : PassesOver keyword [] rest :=
  fun _ previous _ _ => ⟨previous, rfl⟩

/-- Characters that neither quote nor start the keyword are passed over. -/
theorem passesOver_of_forall
    {letter : Char}
    {front : Text}
    (keyword rest : Text)
    (passed : ∀ char ∈ front,
      char ≠ '\'' ∧ char ≠ '"' ∧ Text.sameLetter letter char = false) :
    PassesOver (letter :: keyword) front rest :=
  fun start previous position behind =>
    ⟨_, locateFrom?_pass letter keyword start position previous front rest behind passed⟩

/-! ## Words -/

section Words

variable {keyword word rest : Text}

/-- A word that starts with the keyword, behind which a word can end, is the keyword. -/
theorem sameLetters_of_startsWith
    (letters : ∀ letter ∈ keyword, letter.isAlpha = true)
    (continues : ∀ char ∈ word, continuesWord char = true)
    (ends : endsBeside rest.head? = true)
    (starts : Text.startsWith keyword (word ++ rest) = true)
    (stops : endsBeside ((word ++ rest).drop keyword.length).head? = true) :
    Text.sameLetters keyword word = true := by
  induction keyword generalizing word with
  | nil =>
    cases word with
    | nil => rfl
    | cons char later =>
      have more : continuesWord char = true := continues char List.mem_cons_self
      simp [endsBeside, more] at stops
  | cons letter keyword inductionHypothesis =>
    have isLetter : letter.isAlpha = true := letters letter List.mem_cons_self
    cases word with
    | nil =>
      cases rest with
      | nil => simp [Text.startsWith] at starts
      | cons char later =>
        simp only [List.nil_append, Text.startsWith, Bool.and_eq_true] at starts
        have more : continuesWord char = true := by
          simp [continuesWord, Char.isAlphanum, Text.isAlpha_of_sameLetter starts.1 isLetter]
        simp [endsBeside, more] at ends
    | cons char later =>
      simp only [List.cons_append, Text.startsWith, Bool.and_eq_true] at starts
      rw [Text.sameLetters_cons_iff]
      refine ⟨char, later, rfl, starts.1, ?_⟩
      exact inductionHypothesis (fun other member => letters other (List.mem_cons_of_mem _ member))
        (fun other member => continues other (List.mem_cons_of_mem _ member)) starts.2 stops

theorem ne_quote_of_continuesWord {char : Char} (continues : continuesWord char = true) :
    char ≠ '\'' ∧ char ≠ '"' := by
  constructor <;> rintro rfl <;> exact absurd continues (by decide)

/-- Inside a word no other word begins. -/
theorem locateFrom?_insideWord
    (keyword rest : Text)
    (start position : Nat)
    (last : Char)
    (behind : start ≤ position)
    (inWord : continuesWord last = true)
    (continues : ∀ char ∈ word, continuesWord char = true) :
    locateFrom? keyword start .plain (some last) position (word ++ rest) =
      locateFrom? keyword start .plain (word.getLast?.or (some last))
        (position + word.byteLength) rest := by
  induction word generalizing position last with
  | nil => rfl
  | cons char later inductionHypothesis =>
    have continuesHere : continuesWord char = true := continues char List.mem_cons_self
    obtain ⟨noString, noIdentifier⟩ := ne_quote_of_continuesWord continuesHere
    have absent : begins keyword (some last) (char :: (later ++ rest)) = false := by
      simp [begins, endsBeside, inWord]
    have plain : Region.next .plain char = .plain := by
      simp [Region.next, noString, noIdentifier]
    have others := inductionHypothesis (position + char.utf8Size) char (by omega) continuesHere
      fun other member => continues other (List.mem_cons_of_mem _ member)
    rw [List.cons_append, locateFrom?, if_neg (Nat.not_lt.mpr behind), absent,
      if_neg (by simp), plain, others, Text.getLast?_cons_or, Text.byteLength_cons, Nat.add_assoc]

/-- A word other than the keyword is passed over. -/
theorem passesOver_word
    (letters : ∀ letter ∈ keyword, letter.isAlpha = true)
    (continues : ∀ char ∈ word, continuesWord char = true)
    (other : Text.sameLetters keyword word = false)
    (ends : endsBeside rest.head? = true) :
    PassesOver keyword word rest := by
  intro start previous position behind
  cases word with
  | nil => exact ⟨previous, rfl⟩
  | cons char later =>
    have continuesHere : continuesWord char = true := continues char List.mem_cons_self
    obtain ⟨noString, noIdentifier⟩ := ne_quote_of_continuesWord continuesHere
    -- only at its first character could the word be taken for the keyword
    have absent : begins keyword previous (char :: later ++ rest) = false := by
      rw [Bool.eq_false_iff]
      intro begun
      simp only [begins, Bool.and_eq_true] at begun
      obtain ⟨⟨starts, -⟩, stops⟩ := begun
      rw [sameLetters_of_startsWith letters continues ends starts stops] at other
      exact absurd other (by simp)
    have plain : Region.next .plain char = .plain := by
      simp [Region.next, noString, noIdentifier]
    have inside := locateFrom?_insideWord keyword rest start (position + char.utf8Size) char
      (by omega) continuesHere fun other member => continues other (List.mem_cons_of_mem _ member)
    refine ⟨later.getLast?.or (some char), ?_⟩
    rw [List.cons_append, locateFrom?, if_neg (Nat.not_lt.mpr behind), ← List.cons_append, absent,
      if_neg (by simp), plain, inside, Text.byteLength_cons, Nat.add_assoc]

end Words

/-! ## Quoted text -/

section Quotes

variable {mark : Char}

/-- Between its marks quoted text stands in a region of its own. -/
theorem quote_regions (quote : mark = '\'' ∨ mark = '"') :
    Region.next .plain mark ≠ .plain ∧
      Region.next (Region.next .plain mark) mark = .plain ∧
      ∀ char, char ≠ mark →
        Region.next (Region.next .plain mark) char = Region.next .plain mark := by
  rcases quote with rfl | rfl
  · exact ⟨by decide, rfl, fun char other => by simp [Region.next, other]⟩
  · exact ⟨by decide, rfl, fun char other => by simp [Region.next, other]⟩

/-- No word begins with a quote. -/
theorem locateFrom?_mark
    (quote : mark = '\'' ∨ mark = '"')
    (keyword rest : Text)
    {start position : Nat}
    (previous : Option Char)
    (behind : start ≤ position) :
    locateFrom? keyword start .plain previous position (mark :: rest) =
      locateFrom? keyword start (Region.next .plain mark) (some mark)
        (position + mark.utf8Size) rest := by
  rw [locateFrom?, if_neg (Nat.not_lt.mpr behind), if_neg]
  rintro ⟨-, noString, noIdentifier, -⟩
  exact quote.elim noString noIdentifier

/-- In quoted text no word begins. -/
theorem locateFrom?_quoted
    {region : Region}
    (inside : region ≠ .plain)
    (keyword : Text)
    {start position : Nat}
    (previous : Option Char)
    (behind : start ≤ position)
    (char : Char)
    (rest : Text) :
    locateFrom? keyword start region previous position (char :: rest) =
      locateFrom? keyword start (region.next char) (some char) (position + char.utf8Size) rest := by
  rw [locateFrom?, if_neg (Nat.not_lt.mpr behind), if_neg (fun found => inside found.1)]

/-- A doubled mark leaves the quotes and enters them again. -/
theorem locateFrom?_double
    (quote : mark = '\'' ∨ mark = '"')
    (keyword text rest : Text)
    {start position : Nat}
    (previous : Option Char)
    (behind : start ≤ position) :
    ∃ neighbour,
      locateFrom? keyword start (Region.next .plain mark) previous position
          (Quoted.double mark text ++ rest) =
        locateFrom? keyword start (Region.next .plain mark) neighbour
          (position + (Quoted.double mark text).byteLength) rest := by
  obtain ⟨inside, closes, stays⟩ := quote_regions quote
  induction text generalizing position previous with
  | nil => exact ⟨previous, rfl⟩
  | cons char later inductionHypothesis =>
    have behindFirst (size : Nat) : start ≤ position + size :=
      Nat.le_trans behind (Nat.le_add_right _ _)
    by_cases marked : char = mark
    · obtain ⟨neighbour, passed⟩ := inductionHypothesis (some mark)
        (Nat.le_trans (behindFirst mark.utf8Size) (Nat.le_add_right _ mark.utf8Size))
      refine ⟨neighbour, ?_⟩
      rw [Quoted.double, if_pos marked, List.cons_append, List.cons_append,
        locateFrom?_quoted inside _ _ behind, closes,
        locateFrom?_mark quote _ _ _ (behindFirst _), passed]
      simp only [Text.byteLength_cons, Nat.add_assoc]
    · obtain ⟨neighbour, passed⟩ :=
        inductionHypothesis (some char) (behindFirst char.utf8Size)
      refine ⟨neighbour, ?_⟩
      rw [Quoted.double, if_neg marked, List.cons_append,
        locateFrom?_quoted inside _ _ behind, stays char marked, passed, Text.byteLength_cons,
        Nat.add_assoc]

/-- Quoted text is passed over, whatever it says. -/
theorem passesOver_quote
    (quote : mark = '\'' ∨ mark = '"')
    (keyword text rest : Text) :
    PassesOver keyword (Quoted.quote mark text) rest := by
  intro start previous position behind
  have behindFirst (size : Nat) : start ≤ position + size :=
    Nat.le_trans behind (Nat.le_add_right _ _)
  obtain ⟨inside, closes, -⟩ := quote_regions quote
  obtain ⟨neighbour, passed⟩ := locateFrom?_double quote keyword text ([mark] ++ rest)
    (some mark) (behindFirst mark.utf8Size)
  refine ⟨some mark, ?_⟩
  rw [Quoted.quote, List.cons_append, List.append_assoc, locateFrom?_mark quote _ _ _ behind,
    passed, List.singleton_append,
    locateFrom?_quoted inside _ _ (Nat.le_trans (behindFirst _) (Nat.le_add_right _ _)), closes]
  simp only [Text.byteLength_cons, Text.byteLength_append, Text.byteLength_nil, Nat.add_zero,
    Nat.add_assoc]

end Quotes

/-! ## Lists -/

/-- A list is passed over when its items are, wherever a word can end behind them. -/
theorem passesOver_intercalate
    {letter : Char}
    {keyword separator rest : Text}
    {items : List Text}
    (passed : ∀ char ∈ separator,
      char ≠ '\'' ∧ char ≠ '"' ∧ Text.sameLetter letter char = false)
    (endsItem : ∀ back, endsBeside (separator ++ back).head? = true)
    (ends : endsBeside rest.head? = true)
    (passesItems : ∀ item ∈ items, ∀ back, endsBeside back.head? = true →
      PassesOver (letter :: keyword) item back) :
    PassesOver (letter :: keyword) (List.intercalate separator items) rest := by
  induction items with
  | nil => exact passesOver_nil _ _
  | cons item others inductionHypothesis =>
    have passesItem := passesItems item List.mem_cons_self
    have passesOthers := inductionHypothesis fun other member =>
      passesItems other (List.mem_cons_of_mem _ member)
    by_cases final : others = []
    · rw [final, List.intercalate_singleton]
      exact passesItem rest ends
    · rw [List.intercalate_cons_of_ne_nil final, List.append_assoc]
      refine PassesOver.append (passesItem _ ?_) (.append ?_ passesOthers)
      · rw [List.append_assoc]
        exact endsItem _
      · exact passesOver_of_forall keyword _ passed

/-- The keyword is found behind a text that the search passes over. -/
theorem locate?_of_passesOver
    {letter : Char}
    {keyword word : Text}
    (same : Text.sameLetters (letter :: keyword) word = true)
    (isLetter : letter.isAlpha = true)
    {front passed rest : Text}
    (reaches : PassesOver (letter :: keyword) front (passed ++ (word ++ rest)))
    (passes : ∀ char ∈ passed,
      char ≠ '\'' ∧ char ≠ '"' ∧ Text.sameLetter letter char = false)
    (endsBefore : ∃ char, passed.getLast? = some char ∧ continuesWord char = false)
    (endsBehind : endsBeside rest.head? = true) :
    locate? (letter :: keyword) (front ++ (passed ++ (word ++ rest))) 0 =
      some (front.byteLength + passed.byteLength) := by
  obtain ⟨neighbour, skipped⟩ := reaches 0 none 0 (Nat.le_refl 0)
  rw [locate?, if_neg (by simp), skipped, Nat.zero_add]
  exact locateFrom?_append same isLetter _ _ _ passed rest (Nat.zero_le _) passes endsBefore
    endsBehind

end Keyword
end SqlDump
