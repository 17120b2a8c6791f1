import Mathlib.Data.List.Forall2
import SqlDump.Proofs.KeywordRenaming
import SqlDump.Proofs.QuoteTracking
import SqlDump.Proofs.RewrittenDates

/-!
# Quoted regions and rewritten dates

A scanner delimits the strings and the quoted identifiers of a text.  Rewriting dates keeps their
number and their order, because it touches no quotes.  It looks for dates everywhere, so it keeps
what the regions say if and only if no date that it rewrites starts inside one.
-/

namespace SqlDump

/-! ## Putting text in front of the first piece -/

namespace Nesting

theorem foldr_extendFirst_cons (word piece : Text) (pieces : List Text) :
    word.foldr extendFirst (piece :: pieces) = (word ++ piece) :: pieces := by
  induction word with
  | nil => rfl
  | cons char rest inductionHypothesis =>
    rw [List.foldr_cons, inductionHypothesis, extendFirst, List.cons_append]

theorem exists_foldr_extendFirst (char : Char) (rest : Text) (pieces : List Text) :
    ∃ piece others, (char :: rest).foldr extendFirst pieces = (char :: piece) :: others := by
  rw [List.foldr_cons]
  cases rest.foldr extendFirst pieces with
  | nil => exact ⟨[], [], rfl⟩
  | cons piece others => exact ⟨piece, others, rfl⟩

theorem extendFirst_inj
    {char : Char}
    {left right : List Text}
    (length : left.length = right.length) :
    extendFirst char left = extendFirst char right ↔ left = right := by
  cases left with
  | nil =>
    obtain rfl := List.eq_nil_of_length_eq_zero length.symm
    exact iff_of_true rfl rfl
  | cons piece pieces =>
    cases right with
    | nil => cases length
    | cons other others => simp [extendFirst]

end Nesting

namespace Scanner

/-! ## The quoted regions of a text -/

namespace Mode

/-- Whether the scanner may still be inside quotes. -/
def inQuotes (mode : Mode) : Bool :=
  mode.inString || mode.inIdentifier

/-- Whether a character belongs to the quoted region that is open in front of it. -/
def quotes (mode : Mode) (char : Char) : Bool :=
  match mode with
  | .string | .identifier => true
  -- behind a quote the region is over, unless another quote follows
  | .stringQuote | .identifierQuote => mode.continues char
  | _ => false

/-- Where a scanner stands behind a letter. -/
def behindLetter : Mode → Mode
  | .string => .string
  | .identifier => .identifier
  | .lineComment => .lineComment
  | .blockComment | .blockCommentStar => .blockComment
  | _ => .normal

theorem behindLetter_behindLetter (mode : Mode) :
    mode.behindLetter.behindLetter = mode.behindLetter := by
  cases mode <;> rfl

theorem behindLetter_of_region {mode : Mode} (quoted : mode.region ≠ .plain) :
    mode.behindLetter = mode := by
  cases mode <;> first | rfl | exact absurd rfl quoted

end Mode

namespace State

/-- The quoted regions that a scanner passes through in a text, each with its marks.  If it may
still be inside quotes, the first one is the rest of that region. -/
def quotedFrom (state : State) : Text → List Text
  | [] => if state.mode.inQuotes then [[]] else []
  | char :: rest =>
    let next := (state.step char).1
    let later := next.quotedFrom rest
    if state.mode.quotes char then Nesting.extendFirst char later
    else
      (if state.mode.inQuotes then [[]] else []) ++
        (if next.mode.inQuotes then Nesting.extendFirst char later else later)

end State

/-- The strings and quoted identifiers of a text, as a scanner delimits them. -/
def quotedRegions (text : Text) : List Text :=
  ({} : State).quotedFrom text

namespace State

variable {state other : State} {char : Char} {word : Text}

/-- Where a scanner goes depends on nothing but where it stands. -/
theorem mode_step_congr (same : state.mode = other.mode) (char : Char) :
    (state.step char).1.mode = (other.step char).1.mode := by
  obtain ⟨mode, depth, reversed⟩ := state
  obtain ⟨_, otherDepth, otherReversed⟩ := other
  cases same
  have plain (left right : State) :
      (left.stepPlain char).1.mode = (right.stepPlain char).1.mode := by
    unfold stepPlain
    split_ifs <;> rfl
  by_cases fresh : mode.isPlain = true ∧ mode.continues char = false
  · rw [step_of_isPlain _ _ fresh.1 fresh.2, step_of_isPlain _ _ fresh.1 fresh.2]
    exact plain _ _
  · cases mode <;> simp_all [step, Mode.isPlain, Mode.continues, enter, push] <;>
      split_ifs <;> simp_all

theorem quotedFrom_congr (same : state.mode = other.mode) (text : Text) :
    state.quotedFrom text = other.quotedFrom text := by
  induction text generalizing state other with
  | nil => rw [quotedFrom, quotedFrom, same]
  | cons char rest inductionHypothesis =>
    have next := mode_step_congr same char
    rw [quotedFrom, quotedFrom, inductionHypothesis next, same, next]

/-! ## Words -/

theorem mode_step_of_isAlpha (letter : char.isAlpha = true) (state : State) :
    (state.step char).1.mode = state.mode.behindLetter := by
  have other (mark : Char) (noLetter : mark.isAlpha = false) : char ≠ mark :=
    Text.ne_of_isAlpha letter noLetter
  have inert : isInert char = true := by
    rw [isInert_iff]
    refine ⟨?_, ?_, ?_, ?_, ?_, ?_, ?_, ?_⟩ <;> exact other _ rfl
  by_cases plain : state.mode.isPlain = true
  · rw [(step_of_isInert state char plain inert).1]
    cases mode : state.mode <;> simp_all [Mode.isPlain, Mode.behindLetter]
  · cases mode : state.mode <;>
      simp_all [Mode.isPlain, Mode.behindLetter, step, push, enter, other '\'' rfl, other '"' rfl,
        other '*' rfl, other '/' rfl, other '\n' rfl, other '\r' rfl]

/-- Behind a word a scanner stands where it stands behind its first letter. -/
theorem mode_run_of_isAlpha
    (nonempty : word ≠ [])
    (letters : ∀ letter ∈ word, letter.isAlpha = true)
    (state : State) :
    (state.run word).1.mode = state.mode.behindLetter := by
  induction word generalizing state with
  | nil => exact absurd rfl nonempty
  | cons char rest inductionHypothesis =>
    obtain ⟨first, others⟩ := List.forall_mem_cons.mp letters
    have next := mode_step_of_isAlpha first state
    rw [run_cons]
    by_cases final : rest = []
    · rw [final]
      exact next
    · rw [inductionHypothesis final others, next, Mode.behindLetter_behindLetter]

/-- It does not matter which word stands in front of a text. -/
theorem quotedFrom_run_congr
    {otherWord : Text}
    (nonempty : word ≠ [])
    (letters : ∀ letter ∈ word, letter.isAlpha = true)
    (otherNonempty : otherWord ≠ [])
    (otherLetters : ∀ letter ∈ otherWord, letter.isAlpha = true)
    (state : State)
    (rest : Text) :
    (state.run word).1.quotedFrom rest = (state.run otherWord).1.quotedFrom rest := by
  apply quotedFrom_congr
  rw [mode_run_of_isAlpha nonempty letters, mode_run_of_isAlpha otherNonempty otherLetters]

/-- A letter belongs to the region that the scanner stands in. -/
theorem quotes_of_isAlpha (letter : char.isAlpha = true) (mode : Mode) :
    mode.quotes char = (mode.region != .plain) := by
  have other (mark : Char) (noLetter : mark.isAlpha = false) : (char == mark) = false :=
    beq_eq_false_iff_ne.mpr (Text.ne_of_isAlpha letter noLetter)
  cases mode with
  | stringQuote => exact other '\'' rfl
  | identifierQuote => exact other '"' rfl
  | _ => rfl

/-- A word inside quotes goes on with the region that is open. -/
theorem quotedFrom_word_of_quoted
    (quoted : state.mode.region ≠ .plain)
    (letters : ∀ letter ∈ word, letter.isAlpha = true)
    (rest : Text) :
    state.quotedFrom (word ++ rest) =
      word.foldr Nesting.extendFirst ((state.run word).1.quotedFrom rest) := by
  induction word generalizing state with
  | nil => rfl
  | cons char later inductionHypothesis =>
    obtain ⟨first, others⟩ := List.forall_mem_cons.mp letters
    have next : (state.step char).1.mode = state.mode :=
      (mode_step_of_isAlpha first state).trans (Mode.behindLetter_of_region quoted)
    have inside : state.mode.quotes char = true := by
      rw [quotes_of_isAlpha first]
      simpa using quoted
    rw [List.cons_append, quotedFrom, if_pos inside,
      inductionHypothesis (by rwa [next]) others]
    rfl

/-- A word outside quotes belongs to no region, and ends the one in front of it. -/
theorem quotedFrom_word_of_plain
    (plain : state.mode.region = .plain)
    (nonempty : word ≠ [])
    (letters : ∀ letter ∈ word, letter.isAlpha = true)
    (rest : Text) :
    state.quotedFrom (word ++ rest) =
      (if state.mode.inQuotes then [[]] else []) ++ (state.run word).1.quotedFrom rest := by
  induction word generalizing state with
  | nil => exact absurd rfl nonempty
  | cons char later inductionHypothesis =>
    obtain ⟨first, others⟩ := List.forall_mem_cons.mp letters
    have next := mode_step_of_isAlpha first state
    have outside : state.mode.quotes char = false := by
      rw [quotes_of_isAlpha first, plain]
      rfl
    have behind : (state.step char).1.mode.inQuotes = false ∧
        (state.step char).1.mode.region = .plain := by
      rw [next]
      cases mode : state.mode <;> simp_all [Mode.region] <;> exact ⟨rfl, rfl⟩
    rw [List.cons_append, quotedFrom, outside, behind.1, if_neg Bool.false_ne_true]
    congr 1
    by_cases final : later = []
    · subst final
      rfl
    · refine (if_neg Bool.false_ne_true).trans ?_
      rw [inductionHypothesis behind.2 final others, behind.1]
      rfl

end State
end Scanner

/-! ## Dates -/

namespace DateLiteral

open Scanner (State quotedRegions)
open Unicode (isWordCharacter)

/-- A character in front of two texts belongs to the same region. -/
theorem quotedFrom_cons_renamed
    {state : State}
    {char : Char}
    {text after : Text}
    (renamed : List.Forall₂ (Renamed false) ((state.step char).1.quotedFrom text)
      ((state.step char).1.quotedFrom after)) :
    List.Forall₂ (Renamed false) (state.quotedFrom (char :: text))
      (state.quotedFrom (char :: after)) := by
  have extended : List.Forall₂ (Renamed false)
      (Nesting.extendFirst char ((state.step char).1.quotedFrom text))
      (Nesting.extendFirst char ((state.step char).1.quotedFrom after)) := by
    generalize (state.step char).1.quotedFrom text = pieces at renamed ⊢
    generalize (state.step char).1.quotedFrom after = others at renamed ⊢
    cases renamed with
    | nil => exact .cons (Renamed.refl [char]) .nil
    | cons first later => exact .cons (.keep first) later
  rw [State.quotedFrom, State.quotedFrom]
  split
  · exact extended
  · refine List.rel_append (List.forall₂_same.mpr fun piece _ => Renamed.refl piece) ?_
    split
    · exact extended
    · exact renamed

theorem quotedFrom_cons_inj
    {state : State}
    {char : Char}
    {text after : Text}
    (length : ((state.step char).1.quotedFrom text).length =
      ((state.step char).1.quotedFrom after).length) :
    state.quotedFrom (char :: text) = state.quotedFrom (char :: after) ↔
      (state.step char).1.quotedFrom text = (state.step char).1.quotedFrom after := by
  rw [State.quotedFrom, State.quotedFrom]
  split
  · exact Nesting.extendFirst_inj length
  · rw [List.append_right_inj]
    split
    · exact Nesting.extendFirst_inj length
    · rfl

/-- Rewriting dates keeps the number and the order of the quoted regions, and renames words in
them. -/
theorem quotedFrom_normalizeAfter
    (previous : Option Char)
    (text : Text)
    (state : State) :
    List.Forall₂ (Renamed false) (state.quotedFrom text)
      (state.quotedFrom (normalizeAfter previous text)) := by
  fun_induction normalizeAfter previous text generalizing state with
  | case1 previous first second third fourth rest found inductionHypothesis =>
    simp only [Bool.and_eq_true] at found
    have letters := (letters_of_startsWith_date found.1.2).1
    have nonempty := List.cons_ne_nil first [second, third, fourth]
    have named : Keyword.timestamp ≠ [] := List.cons_ne_nil _ _
    have later := inductionHypothesis (state.run [first, second, third, fourth]).1
    have whole : first :: second :: third :: fourth :: rest =
        [first, second, third, fourth] ++ rest := rfl
    rw [State.quotedFrom_run_congr nonempty letters named Renamed.isAlpha_of_mem_timestamp state
      (normalizeAfter (some fourth) rest)] at later
    by_cases plain : state.mode.region = .plain
    · rw [whole, State.quotedFrom_word_of_plain plain nonempty letters,
        State.quotedFrom_word_of_plain plain named Renamed.isAlpha_of_mem_timestamp]
      exact List.rel_append (List.forall₂_same.mpr fun piece _ => Renamed.refl piece) later
    · rw [whole, State.quotedFrom_word_of_quoted plain letters,
        State.quotedFrom_word_of_quoted plain Renamed.isAlpha_of_mem_timestamp]
      generalize State.quotedFrom _ rest = pieces at later ⊢
      generalize State.quotedFrom _ (normalizeAfter (some fourth) rest) = others at later ⊢
      cases later with
      | nil => exact .cons (Renamed.word nonempty letters .nil) .nil
      | cons piece pieces =>
        rw [Nesting.foldr_extendFirst_cons, Nesting.foldr_extendFirst_cons]
        exact .cons (Renamed.word nonempty letters piece) pieces
  | case2 previous first second third fourth rest refused inductionHypothesis =>
    exact quotedFrom_cons_renamed (inductionHypothesis (state.step first).1)
  | case3 previous short isShort =>
    exact List.forall₂_same.mpr fun piece _ => Renamed.refl piece

/-- Whether every date that is rewritten starts outside quotes, in a text that a scanner comes to
behind the character `previous`. -/
def RewritesOutside (state : State) (previous : Option Char) (text : Text) : Prop :=
  ∀ front back : Text, text = front ++ back → startsDate back = true →
    (front.getLast?.or previous).any isWordCharacter = false →
      (state.run front).1.mode.region = .plain

theorem rewritesOutside_cons_iff
    (state : State)
    (previous : Option Char)
    (char : Char)
    (rest : Text) :
    RewritesOutside state previous (char :: rest) ↔
      (startsDate (char :: rest) = true → previous.any isWordCharacter = false →
        state.mode.region = .plain) ∧
      RewritesOutside (state.step char).1 (some char) rest := by
  constructor
  · intro outside
    refine ⟨outside [] (char :: rest) rfl, fun front back whole starts boundary => ?_⟩
    refine outside (char :: front) back (by rw [whole, List.cons_append]) starts ?_
    rwa [Text.getLast?_cons_or]
  · rintro ⟨here, later⟩ front back whole starts boundary
    cases front with
    | nil =>
      obtain rfl : char :: rest = back := whole
      exact here starts boundary
    | cons first front =>
      obtain ⟨rfl, rfl⟩ := List.cons.inj whole
      rw [Text.getLast?_cons_or] at boundary
      exact later front back rfl starts boundary

/-- A date that is rewritten starts outside quotes, and so do the dates behind its word. -/
theorem rewritesOutside_of_found
    {previous : Option Char}
    {first second third fourth : Char}
    {rest : Text}
    (boundary : previous.any isWordCharacter = false)
    (starts : Text.startsWith Keyword.date [first, second, third, fourth] = true)
    (time : hasTime rest = true)
    (state : State) :
    RewritesOutside state previous (first :: second :: third :: fourth :: rest) ↔
      state.mode.region = .plain ∧
        RewritesOutside (state.run [first, second, third, fourth]).1 (some fourth) rest := by
  have date : startsDate (first :: second :: third :: fourth :: rest) = true := by
    rw [startsDate, starts, time]
    rfl
  have apart := (letters_of_startsWith_date starts).2
  have noDate (letter : Char) (member : letter ∈ [second, third, fourth]) (behind : Text) :
      startsDate (letter :: behind) = false :=
    startsDate_cons_of_not letter behind (apart letter member)
  simp only [rewritesOutside_cons_iff, date, boundary, noDate second (by simp),
    noDate third (by simp), noDate fourth (by simp), true_imp_iff, Bool.false_eq_true,
    false_imp_iff, true_and]
  rfl

/-- The quoted regions stay what they are if and only if every date that is rewritten starts outside
them. -/
theorem quotedFrom_normalizeAfter_eq_iff
    (previous : Option Char)
    (text : Text)
    (state : State) :
    state.quotedFrom (normalizeAfter previous text) = state.quotedFrom text ↔
      RewritesOutside state previous text := by
  fun_induction normalizeAfter previous text generalizing state with
  | case1 previous first second third fourth rest found inductionHypothesis =>
    simp only [Bool.and_eq_true, Bool.not_eq_true'] at found
    obtain ⟨⟨boundary, starts⟩, time⟩ := found
    have letters := (letters_of_startsWith_date starts).1
    have nonempty := List.cons_ne_nil first [second, third, fourth]
    have named : Keyword.timestamp ≠ [] := List.cons_ne_nil _ _
    have whole : first :: second :: third :: fourth :: rest =
        [first, second, third, fourth] ++ rest := rfl
    rw [rewritesOutside_of_found boundary starts time, whole, ← inductionHypothesis]
    by_cases plain : state.mode.region = .plain
    · rw [State.quotedFrom_word_of_plain plain nonempty letters,
        State.quotedFrom_word_of_plain plain named Renamed.isAlpha_of_mem_timestamp,
        List.append_right_inj, State.quotedFrom_run_congr named Renamed.isAlpha_of_mem_timestamp
          nonempty letters]
      exact (and_iff_right plain).symm
    -- the region that is open goes on with a T instead of a D
    · refine iff_of_false (fun same => ?_) (fun both => plain both.1)
      rw [State.quotedFrom_word_of_quoted plain letters,
        State.quotedFrom_word_of_quoted plain Renamed.isAlpha_of_mem_timestamp] at same
      obtain ⟨piece, pieces, before⟩ := Nesting.exists_foldr_extendFirst first
        [second, third, fourth] ((state.run [first, second, third, fourth]).1.quotedFrom rest)
      obtain ⟨other, others, after⟩ := Nesting.exists_foldr_extendFirst 'T'
        Keyword.timestamp.tail
        ((state.run Keyword.timestamp).1.quotedFrom (normalizeAfter (some fourth) rest))
      have heads := after.symm.trans (same.trans before)
      obtain rfl : 'T' = first := (List.cons.inj (List.cons.inj heads).1).1
      simp only [Keyword.date, Text.startsWith, Bool.and_eq_true] at starts
      exact absurd starts.1 (by decide)
  | case2 previous first second third fourth rest refused inductionHypothesis =>
    have length := (quotedFrom_normalizeAfter (some first) (second :: third :: fourth :: rest)
      (state.step first).1).length_eq
    rw [quotedFrom_cons_inj length.symm, inductionHypothesis,
      rewritesOutside_cons_iff state previous first]
    refine (and_iff_right fun date boundary => ?_).symm
    rw [startsDate, Bool.and_eq_true] at date
    exact absurd (by simp [boundary, date]) refused
  | case3 previous short isShort =>
    refine iff_of_true rfl fun front back whole date _ => ?_
    rcases back with _ | ⟨first, _ | ⟨second, _ | ⟨third, _ | ⟨fourth, rest⟩⟩⟩⟩
    · cases date
    · cases date
    · cases date
    · cases date
    · rcases front with _ | ⟨_, _ | ⟨_, _ | ⟨_, _ | ⟨_, front⟩⟩⟩⟩
      all_goals exact (isShort _ _ _ _ _ whole).elim

/-- Rewriting dates keeps the number and the order of the strings and quoted identifiers of any
text, as a scanner delimits them, and renames words in them.  All of them stay what they are if and
only if the scanner stands outside quotes wherever a date starts that is rewritten. -/
theorem quotedRegions_normalize (text : Text) :
    List.Forall₂ (Renamed false) (quotedRegions text) (quotedRegions (normalize text)) ∧
    (quotedRegions (normalize text) = quotedRegions text ↔
      ∀ front back : Text, text = front ++ back → startsDate back = true →
        front.getLast?.any isWordCharacter = false →
          (State.run {} front).1.mode.region = .plain) := by
  refine ⟨quotedFrom_normalizeAfter none text {}, ?_⟩
  rw [quotedRegions, quotedRegions, normalize, quotedFrom_normalizeAfter_eq_iff, RewritesOutside]
  simp only [Option.or_none]

/-- A column with the name of a date is renamed. -/
theorem normalize_renames_column :
    let text : Text := "INSERT INTO T (\"DATE '2025-08-29 10:30:00'\", B) VALUES (1, 2)".toList
    let result : Text :=
      "INSERT INTO T (\"TIMESTAMP '2025-08-29 10:30:00'\", B) VALUES (1, 2)".toList
    quotedRegions text = ["\"DATE '2025-08-29 10:30:00'\"".toList] ∧
      normalize text = result ∧
      quotedRegions result = ["\"TIMESTAMP '2025-08-29 10:30:00'\"".toList] ∧
      quotedRegions (normalize text) ≠ quotedRegions text := by
  intro text result
  have before : quotedRegions text = ["\"DATE '2025-08-29 10:30:00'\"".toList] := by
    decide +kernel
  have normalized : normalize text = result := by decide +kernel
  have after : quotedRegions result = ["\"TIMESTAMP '2025-08-29 10:30:00'\"".toList] := by
    decide +kernel
  refine ⟨before, normalized, after, ?_⟩
  rw [normalized, before, after]
  decide

end DateLiteral
end SqlDump
