import SqlDump.Proofs.KeywordSearch

/-!
# Where a keyword occurs

A keyword is found where it begins in plain text.  A keyword of letters lies on one side of every
place where a word can end.  A search over two texts that meet at such a place is therefore a
search over the first and, if that finds nothing, a search over the second, so that a keyword is
absent from the whole when it is absent from the parts.
-/

namespace SqlDump

namespace Region

/-- Text without quotes stays in its region. -/
theorem after_of_forall
    {text : Text}
    (noQuote : ∀ char ∈ text, char ≠ '\'' ∧ char ≠ '"')
    (region : Region) :
    region.after text = region := by
  induction text with
  | nil => rfl
  | cons char rest inductionHypothesis =>
    obtain ⟨noString, noIdentifier⟩ := noQuote char List.mem_cons_self
    have stays : region.next char = region := by
      cases region <;> simp [next, noString, noIdentifier]
    rw [after_cons, stays]
    exact inductionHypothesis fun other member => noQuote other (List.mem_cons_of_mem _ member)

theorem after_double
    {mark : Char}
    (quote : mark = '\'' ∨ mark = '"')
    (text : Text) :
    (Region.next .plain mark).after (Quoted.double mark text) = Region.next .plain mark := by
  obtain ⟨-, closes, stays⟩ := Keyword.quote_regions quote
  induction text with
  | nil => rfl
  | cons char rest inductionHypothesis =>
    by_cases marked : char = mark
    · rw [Quoted.double, if_pos marked, after_cons, closes, after_cons, inductionHypothesis]
    · rw [Quoted.double, if_neg marked, after_cons, stays char marked, inductionHypothesis]

/-- Behind quoted text stands plain text. -/
theorem after_quote
    {mark : Char}
    (quote : mark = '\'' ∨ mark = '"')
    (text : Text) :
    Region.plain.after (Quoted.quote mark text) = .plain := by
  obtain ⟨-, closes, -⟩ := Keyword.quote_regions quote
  rw [Quoted.quote, after_cons, after_append, after_double quote, after_cons, closes, after_nil]

end Region

namespace Keyword

variable {keyword front back : Text}

/-! ## Words at a boundary -/

theorem continuesWord_of_sameLetter
    {letter char : Char}
    (isLetter : letter.isAlpha = true)
    (same : Text.sameLetter letter char = true) :
    continuesWord char = true := by
  simp [continuesWord, Char.isAlphanum, Text.isAlpha_of_sameLetter same isLetter]

theorem begins_eq_and (keyword : Text) (previous : Option Char) (text : Text) :
    begins keyword previous text = (endsBeside previous && begins keyword none text) := by
  have free : endsBeside none = true := rfl
  rw [begins, begins, free, Bool.and_true, Bool.and_comm (Text.startsWith keyword text),
    Bool.and_assoc]

theorem begins_nil (text : Text) : begins [] none text = endsBeside text.head? := by
  have free : endsBeside none = true := rfl
  rw [begins, Text.startsWith, free]
  rfl

theorem begins_cons_cons (letter char : Char) (keyword rest : Text) :
    begins (letter :: keyword) none (char :: rest) =
      (Text.sameLetter letter char && begins keyword none rest) := by
  simp [begins, Text.startsWith, Bool.and_assoc]

/-- No keyword of letters begins with a quote. -/
theorem ne_quote_of_begins
    {letter char : Char}
    {previous : Option Char}
    {keyword rest : Text}
    (isLetter : letter.isAlpha = true)
    (begun : begins (letter :: keyword) previous (char :: rest) = true) :
    char ≠ '\'' ∧ char ≠ '"' := by
  rw [begins_eq_and, begins_cons_cons, Bool.and_eq_true, Bool.and_eq_true] at begun
  exact ne_quote_of_continuesWord (continuesWord_of_sameLetter isLetter begun.2.1)

/-- No keyword of letters begins where a word can end. -/
theorem begins_of_endsBeside
    {letter : Char}
    (isLetter : letter.isAlpha = true)
    (keyword : Text)
    (previous : Option Char)
    {text : Text}
    (ends : endsBeside text.head? = true) :
    begins (letter :: keyword) previous text = false := by
  cases text with
  | nil => rfl
  | cons char rest =>
    have differs : Text.sameLetter letter char = false := by
      rw [Bool.eq_false_iff]
      intro same
      simp [endsBeside, continuesWord_of_sameLetter isLetter same] at ends
    rw [begins_eq_and, begins_cons_cons, differs, Bool.false_and, Bool.and_false]

/-- Whether a keyword of letters begins does not depend on what stands behind a place where a word
can end. -/
theorem begins_append_of_boundary
    (letters : ∀ letter ∈ keyword, letter.isAlpha = true)
    (previous : Option Char)
    (boundary : endsBeside back.head? = true ∨ front ≠ [] ∧ endsBeside front.getLast? = true) :
    begins keyword previous (front ++ back) = begins keyword previous front := by
  rw [begins_eq_and, begins_eq_and keyword previous front]
  congr 1
  induction keyword generalizing front with
  | nil =>
    cases front with
    | nil =>
      rcases boundary with ends | ⟨nonempty, -⟩
      · rw [List.nil_append, begins_nil, ends]
        rfl
      · exact absurd rfl nonempty
    | cons char rest => rfl
  | cons letter keyword inductionHypothesis =>
    have isLetter := letters letter List.mem_cons_self
    cases front with
    | nil =>
      rcases boundary with ends | ⟨nonempty, -⟩
      · rw [List.nil_append, begins_of_endsBeside isLetter keyword none ends]
        rfl
      · exact absurd rfl nonempty
    | cons char rest =>
      rw [List.cons_append, begins_cons_cons, begins_cons_cons]
      cases same : Text.sameLetter letter char with
      | false => rfl
      | true =>
        -- the boundary lies behind the letter just read
        have later : endsBeside back.head? = true ∨
            rest ≠ [] ∧ endsBeside rest.getLast? = true := by
          refine boundary.imp_right ?_
          rintro ⟨-, ends⟩
          by_cases final : rest = []
          · rw [final, List.getLast?_singleton, endsBeside,
              continuesWord_of_sameLetter isLetter same] at ends
            exact absurd ends (by decide)
          · rw [List.getLast?_cons, List.getLast?_eq_some_getLast final] at ends
            rw [List.getLast?_eq_some_getLast final]
            exact ⟨final, ends⟩
        rw [inductionHypothesis
          (fun other member => letters other (List.mem_cons_of_mem _ member)) later]

/-! ## Where a search ends -/

/-- What a search finds is the keyword in plain text. -/
theorem exists_append_of_locateFrom?
    {start position found : Nat}
    {region : Region}
    {previous : Option Char}
    {text : Text}
    (behind : start ≤ position)
    (located : locateFrom? keyword start region previous position text = some found) :
    ∃ front back : Text, text = front ++ back ∧ back ≠ [] ∧
      found = position + front.byteLength ∧ region.after front = .plain ∧
      begins keyword (front.getLast?.or previous) back = true := by
  induction text generalizing region previous position with
  | nil => cases located
  | cons char rest inductionHypothesis =>
    rw [locateFrom?, if_neg (Nat.not_lt.mpr behind)] at located
    split at located
    · rename_i begun
      obtain ⟨plain, -, -, begun⟩ := begun
      exact ⟨[], char :: rest, rfl, List.cons_ne_nil _ _, (Option.some.inj located).symm, plain,
        begun⟩
    · obtain ⟨front, back, rfl, nonempty, place, plain, begun⟩ :=
        inductionHypothesis (Nat.le_trans behind (Nat.le_add_right _ _)) located
      rw [← Text.getLast?_cons_or] at begun
      refine ⟨char :: front, back, rfl, nonempty, ?_, plain, begun⟩
      rw [place, Text.byteLength_cons, Nat.add_assoc]

/-- Wherever a search starts, what it finds is the keyword, and not in front of the start. -/
theorem begins_of_locateFrom?
    {start position found : Nat}
    {region : Region}
    {previous : Option Char}
    {text : Text}
    (located : locateFrom? keyword start region previous position text = some found) :
    ∃ front back : Text, text = front ++ back ∧ found = position + front.byteLength ∧
      start ≤ found ∧ begins keyword (front.getLast?.or previous) back = true := by
  induction text generalizing region previous position with
  | nil => cases located
  | cons char rest inductionHypothesis =>
    have later {region : Region} (located : locateFrom? keyword start region (some char)
        (position + char.utf8Size) rest = some found) :
        ∃ front back : Text, char :: rest = front ++ back ∧
          found = position + front.byteLength ∧ start ≤ found ∧
          begins keyword (front.getLast?.or previous) back = true := by
      obtain ⟨front, back, rfl, place, behind, begun⟩ := inductionHypothesis located
      rw [← Text.getLast?_cons_or] at begun
      refine ⟨char :: front, back, rfl, ?_, behind, begun⟩
      rw [place, Text.byteLength_cons, Nat.add_assoc]
    rw [locateFrom?] at located
    split at located
    · exact later located
    split at located
    · rename_i reached begun
      obtain rfl := Option.some.inj located
      exact ⟨[], char :: rest, rfl, rfl, Nat.not_lt.mp reached, begun.2.2.2⟩
    · exact later located

/-- What a search finds lies in the text it searches. -/
theorem lt_of_locateFrom?
    {start position found : Nat}
    {region : Region}
    {previous : Option Char}
    {text : Text}
    (behind : start ≤ position)
    (located : locateFrom? keyword start region previous position text = some found) :
    position ≤ found ∧ found < position + text.byteLength := by
  obtain ⟨front, back, rfl, nonempty, rfl, -⟩ := exists_append_of_locateFrom? behind located
  have length := Text.length_le_byteLength back
  have positive := List.length_pos_iff.mpr nonempty
  rw [Text.byteLength_append]
  omega

/-! ## Searching two texts in a row -/

/-- Positions count from where the search starts. -/
theorem locateFrom?_add
    (keyword text : Text)
    (region : Region)
    (previous : Option Char)
    (position shift : Nat) :
    locateFrom? keyword 0 region previous (position + shift) text =
      (locateFrom? keyword 0 region previous position text).map (· + shift) := by
  induction text generalizing region previous position with
  | nil => rfl
  | cons char rest inductionHypothesis =>
    rw [locateFrom?, locateFrom?, if_neg (Nat.not_lt_zero _), if_neg (Nat.not_lt_zero _)]
    split
    · rfl
    · rw [Nat.add_right_comm, inductionHypothesis]

/-- A search over two texts that meet where a word can end is a search over the first and then
over the second. -/
theorem locateFrom?_append_of_boundary
    (letters : ∀ letter ∈ keyword, letter.isAlpha = true)
    (boundary : endsBeside back.head? = true ∨ endsBeside front.getLast? = true)
    {start position : Nat}
    (behind : start ≤ position)
    (region : Region)
    (previous : Option Char) :
    locateFrom? keyword start region previous position (front ++ back) =
      (locateFrom? keyword start region previous position front).or
        (locateFrom? keyword start (region.after front) (front.getLast?.or previous)
          (position + front.byteLength) back) := by
  induction front generalizing region previous position with
  | nil => rfl
  | cons char rest inductionHypothesis =>
    have begun : begins keyword previous (char :: rest ++ back) =
        begins keyword previous (char :: rest) := by
      apply begins_append_of_boundary letters
      exact boundary.imp_right fun ends => ⟨List.cons_ne_nil _ _, ends⟩
    have later : endsBeside back.head? = true ∨ endsBeside rest.getLast? = true := by
      refine boundary.imp_right fun ends => ?_
      by_cases final : rest = []
      · rw [final]
        rfl
      · rw [List.getLast?_cons, List.getLast?_eq_some_getLast final] at ends
        rw [List.getLast?_eq_some_getLast final]
        exact ends
    rw [List.cons_append] at begun ⊢
    rw [locateFrom?, locateFrom?, if_neg (Nat.not_lt.mpr behind), if_neg (Nat.not_lt.mpr behind),
      begun]
    split
    · rfl
    · rw [inductionHypothesis later (Nat.le_trans behind (Nat.le_add_right _ _)),
        Text.getLast?_cons_or, Region.after_cons, Text.byteLength_cons, Nat.add_assoc]

/-- A search does not depend on the character in front, if a word can end there either way. -/
theorem locateFrom?_congr
    {letter : Char}
    {previous other : Option Char}
    (isLetter : letter.isAlpha = true)
    (keyword text : Text)
    (start position : Nat)
    (region : Region)
    (alike : endsBeside previous = endsBeside other ∨ endsBeside text.head? = true) :
    locateFrom? (letter :: keyword) start region previous position text =
      locateFrom? (letter :: keyword) start region other position text := by
  have begun : begins (letter :: keyword) previous text =
      begins (letter :: keyword) other text := by
    rcases alike with equal | ends
    · rw [begins_eq_and, equal, ← begins_eq_and]
    · rw [begins_of_endsBeside isLetter keyword previous ends,
        begins_of_endsBeside isLetter keyword other ends]
  cases text with
  | nil => rfl
  | cons char rest => rw [locateFrom?, locateFrom?, begun]

/-! ## Absent keywords -/

/-- Whether a keyword occurs nowhere in a text, as a whole word outside quotes. -/
def IsAbsent (keyword text : Text) : Prop :=
  locate? keyword text 0 = none

instance (keyword text : Text) : Decidable (IsAbsent keyword text) :=
  inferInstanceAs (Decidable (locate? keyword text 0 = none))

section Letters

variable {letter : Char} {keyword : Text}

theorem locateFrom?_of_start_le
    {start position : Nat}
    (behind : start ≤ position)
    (keyword text : Text)
    (region : Region)
    (previous : Option Char) :
    locateFrom? keyword start region previous position text =
      locateFrom? keyword 0 region previous position text := by
  induction text generalizing region previous position with
  | nil => rfl
  | cons char rest inductionHypothesis =>
    rw [locateFrom?, locateFrom?, if_neg (Nat.not_lt.mpr behind), if_neg (Nat.not_lt_zero _),
      inductionHypothesis (Nat.le_trans behind (Nat.le_add_right _ _))]

theorem isAbsent_iff_locateFrom? (text : Text) :
    IsAbsent (letter :: keyword) text ↔
      locateFrom? (letter :: keyword) 0 .plain none 0 text = none :=
  Iff.rfl

/-- A search finds nothing if and only if the keyword begins nowhere in plain text. -/
theorem locateFrom?_eq_none_iff
    (isLetter : letter.isAlpha = true)
    (keyword text : Text)
    (region : Region)
    (previous : Option Char)
    (position : Nat) :
    locateFrom? (letter :: keyword) 0 region previous position text = none ↔
      ∀ front back, text = front ++ back → region.after front = .plain →
        begins (letter :: keyword) (front.getLast?.or previous) back = false := by
  induction text generalizing region previous position with
  | nil =>
    refine iff_of_true rfl fun front back whole _ => ?_
    obtain ⟨-, rfl⟩ := List.append_eq_nil_iff.mp whole.symm
    rfl
  | cons char rest inductionHypothesis =>
    have quote : begins (letter :: keyword) previous (char :: rest) = true →
        char ≠ '\'' ∧ char ≠ '"' := ne_quote_of_begins isLetter
    rw [locateFrom?, if_neg (Nat.not_lt_zero _)]
    split
    · rename_i begun
      refine iff_of_false (Option.some_ne_none _) fun absent => ?_
      have refused := absent [] (char :: rest) rfl begun.1
      exact Bool.false_ne_true (refused.symm.trans begun.2.2.2)
    · rename_i refused
      rw [inductionHypothesis]
      constructor
      · intro later front back whole plain
        cases front with
        | nil =>
          obtain rfl : char :: rest = back := whole
          rw [Bool.eq_false_iff]
          intro begun
          exact refused ⟨plain, (quote begun).1, (quote begun).2, begun⟩
        | cons first others =>
          obtain ⟨rfl, rfl⟩ := List.cons.inj whole
          rw [Text.getLast?_cons_or]
          exact later others back rfl plain
      · intro absent front back whole plain
        rw [← Text.getLast?_cons_or]
        exact absent (char :: front) back (congrArg (char :: ·) whole) plain

/-- A keyword is absent if and only if it stands nowhere in plain text as a whole word. -/
theorem isAbsent_iff (isLetter : letter.isAlpha = true) (keyword text : Text) :
    IsAbsent (letter :: keyword) text ↔
      ∀ front back, text = front ++ back → Region.plain.after front = .plain →
        begins (letter :: keyword) front.getLast? back = false := by
  rw [isAbsent_iff_locateFrom?, locateFrom?_eq_none_iff isLetter]
  simp only [Option.or_none]

/-- A keyword is absent from a text that starts and ends in plain text and from one behind it, if
it is absent from both and a word can end where they meet. -/
theorem isAbsent_append
    (letters : ∀ other ∈ letter :: keyword, other.isAlpha = true)
    {front back : Text}
    (plain : Region.plain.after front = .plain)
    (boundary : endsBeside back.head? = true ∨ endsBeside front.getLast? = true) :
    IsAbsent (letter :: keyword) (front ++ back) ↔
      IsAbsent (letter :: keyword) front ∧ IsAbsent (letter :: keyword) back := by
  have alike : endsBeside (front.getLast?.or none) = endsBeside none ∨
      endsBeside back.head? = true := by
    rw [Option.or_none]
    exact boundary.symm
  rw [isAbsent_iff_locateFrom?, isAbsent_iff_locateFrom?, isAbsent_iff_locateFrom?,
    locateFrom?_append_of_boundary letters boundary (Nat.le_refl 0), plain,
    locateFrom?_congr (letters letter List.mem_cons_self) keyword back 0 _ .plain alike,
    locateFrom?_add, Option.or_eq_none_iff, Option.map_eq_none_iff]

/-- A keyword that is absent in front of a place where a word can end is searched from there. -/
theorem locate?_append_of_isAbsent
    (letters : ∀ other ∈ letter :: keyword, other.isAlpha = true)
    {front back : Text}
    (plain : Region.plain.after front = .plain)
    (boundary : endsBeside back.head? = true)
    (absent : IsAbsent (letter :: keyword) front) :
    locate? (letter :: keyword) (front ++ back) 0 =
      locate? (letter :: keyword) (front ++ back) front.byteLength := by
  obtain ⟨neighbour, skipped⟩ := locateFrom?_skip (letter :: keyword) front.byteLength 0 none
    front back (Nat.zero_add _)
  have here : locate? (letter :: keyword) (front ++ back) 0 =
      locateFrom? (letter :: keyword) 0 .plain (front.getLast?.or none) (0 + front.byteLength)
        back := by
    rw [locate?, if_neg (by simp), locateFrom?_append_of_boundary letters (.inl boundary)
      (Nat.le_refl 0), plain, (isAbsent_iff_locateFrom? front).mp absent, Option.none_or]
  rw [here, locate?, if_neg (by simp), skipped, locateFrom?_of_start_le (Nat.le_refl _),
    Nat.zero_add]
  exact locateFrom?_congr (letters letter List.mem_cons_self) keyword back 0 _ .plain
    (.inr boundary)

/-- A keyword that occurs in front of a place where a word can end is found there, and a search
from that place finds another one or none. -/
theorem locate?_append_of_not_isAbsent
    (letters : ∀ other ∈ letter :: keyword, other.isAlpha = true)
    {front back : Text}
    (boundary : endsBeside back.head? = true)
    (present : ¬ IsAbsent (letter :: keyword) front) :
    locate? (letter :: keyword) (front ++ back) 0 ≠
      locate? (letter :: keyword) (front ++ back) front.byteLength := by
  intro equal
  obtain ⟨found, inFront⟩ := Option.ne_none_iff_exists'.mp present
  have early : found < front.byteLength := by
    have bounds := lt_of_locateFrom? (Nat.le_refl 0) inFront
    omega
  have first : locate? (letter :: keyword) (front ++ back) 0 = some found := by
    have onFront : locateFrom? (letter :: keyword) 0 .plain none 0 front = some found := inFront
    rw [locate?, if_neg (by simp), locateFrom?_append_of_boundary letters (.inl boundary)
      (Nat.le_refl 0), onFront, Option.some_or]
  obtain ⟨neighbour, skipped⟩ := locateFrom?_skip (letter :: keyword) front.byteLength 0 none
    front back (Nat.zero_add _)
  rw [first, locate?, if_neg (by simp), skipped] at equal
  have late := (lt_of_locateFrom? (Nat.le_refl _) equal.symm).1
  omega

end Letters

end Keyword
end SqlDump
