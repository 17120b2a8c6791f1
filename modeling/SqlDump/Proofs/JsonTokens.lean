import SqlDump.Json.Token
import SqlDump.Proofs.WrittenJson
import SqlDump.Text.LetterCase

/-!
# Tokens of written JSON

The reader cuts a document into tokens.  A word or a number is only known to be complete when
something else follows, so a text is said to give tokens if it does so in front of anything that
ends words and numbers.  A text may also be such that it gives none: then nothing that begins with
it is read.
-/

namespace SqlDump
namespace Json

/-! ## Taking tokens off a text -/

namespace Token

theorem isBlank_of_mem {blank : Text} (isBlank : IsBlank blank) :
    ∀ char ∈ blank, Token.isBlank char = true := by
  intro char member
  have known := isBlank char member
  simp only [List.mem_cons, List.not_mem_nil, or_false] at known
  rcases known with rfl | rfl | rfl | rfl <;> rfl

/-- Whether a word or a number in front of a text ends there. -/
def Ends (text : Text) : Prop :=
  ∀ char ∈ text.head?, char.isLower = false ∧ isNumeric char = false

theorem Ends.append {front back : Text} (first : Ends front) (second : Ends back) :
    Ends (front ++ back) := by
  cases front with
  | nil => exact second
  | cons char rest => exact first

theorem ends_of_isBlank {text : Text} (blank : IsBlank text) : Ends text := by
  cases text with
  | nil => simp [Ends]
  | cons char rest =>
    rintro _ ⟨rfl⟩
    have known := blank char List.mem_cons_self
    simp only [List.mem_cons, List.not_mem_nil, or_false] at known
    rcases known with rfl | rfl | rfl | rfl <;> decide

/-- Punctuation ends a word or a number. -/
theorem ends_cons_of_ofPunctuation? {char : Char} {token : Token} (rest : Text)
    (punctuation : ofPunctuation? char = some token) : Ends (char :: rest) := by
  rintro _ ⟨rfl⟩
  unfold ofPunctuation? at punctuation
  split at punctuation
  all_goals first | decide | cases punctuation

theorem sequenceFrom?_cons (reading : Reading) (char : Char) (rest : Text) :
    sequenceFrom? reading (char :: rest) =
      (step? reading char).bind fun taken => (sequenceFrom? taken.1 rest).map (taken.2 ++ ·) := by
  rw [sequenceFrom?]
  simp only [Option.map_eq_bind]
  rfl

/-- Most characters complete no token. -/
theorem sequenceFrom?_cons_nil
    {reading next : Reading}
    {char : Char}
    (rest : Text)
    (step : step? reading char = some (next, [])) :
    sequenceFrom? reading (char :: rest) = sequenceFrom? next rest := by
  rw [sequenceFrom?_cons, step]
  simp

/-- A text gives tokens if it does so in front of anything that ends a word or a number.  It gives
none if nothing that begins with it is read. -/
def Gives (text : Text) (tokens : Option (List Token)) : Prop :=
  ∀ rest, Ends rest →
    sequenceFrom? .nothing (text ++ rest) =
      tokens.bind fun front => (sequenceFrom? .nothing rest).map (front ++ ·)

namespace Gives

theorem nil : Gives [] (some []) := by
  intro rest _
  simp

theorem append
    {front back : Text}
    {first second : Option (List Token)}
    (gives : Gives front first)
    (ends : Ends back)
    (later : Gives back second) :
    Gives (front ++ back) (first.bind fun tokens => second.map (tokens ++ ·)) := by
  intro rest restEnds
  rw [List.append_assoc, gives _ (ends.append restEnds), later rest restEnds]
  cases first <;> cases second <;> simp [Function.comp_def]

/-- Blanks in front of a text give nothing. -/
theorem blank_append
    {blank text : Text}
    {tokens : Option (List Token)}
    (isBlank : IsBlank blank)
    (gives : Gives text tokens) :
    Gives (blank ++ text) tokens := by
  intro rest ends
  have known := isBlank_of_mem isBlank
  clear isBlank
  induction blank with
  | nil => exact gives rest ends
  | cons char later inductionHypothesis =>
    obtain ⟨first, others⟩ := List.forall_mem_cons.mp known
    have step : step? .nothing char = some (.nothing, []) := if_pos first
    exact (sequenceFrom?_cons_nil _ step).trans (inductionHypothesis others)

/-- Punctuation in front of a text gives its token. -/
theorem cons
    {char : Char}
    {token : Token}
    {text : Text}
    {tokens : Option (List Token)}
    (punctuation : ofPunctuation? char = some token)
    (gives : Gives text tokens) :
    Gives (char :: text) (tokens.map (token :: ·)) := by
  intro rest ends
  have step : step? .nothing char = some (.nothing, [token]) := by
    unfold ofPunctuation? at punctuation
    split at punctuation
    all_goals cases punctuation; try rfl
  rw [List.cons_append, sequenceFrom?_cons, step, Option.bind_some, gives rest ends]
  cases tokens <;> simp [Function.comp_def]

/-- Punctuation behind a text gives its token. -/
theorem concat
    {char : Char}
    {token : Token}
    {text : Text}
    {tokens : Option (List Token)}
    (punctuation : ofPunctuation? char = some token)
    (gives : Gives text tokens) :
    Gives (text ++ [char]) (tokens.map (· ++ [token])) := by
  have whole := gives.append (ends_cons_of_ofPunctuation? [] punctuation) (cons punctuation nil)
  rwa [Option.map_eq_bind]

/-- Blanks around a text give nothing. -/
theorem padded
    {text wide : Text}
    {tokens : Option (List Token)}
    (gives : Gives text tokens)
    (padded : Padded text wide) :
    Gives wide tokens := by
  obtain ⟨before, after⟩ := padded
  have trailing := nil.blank_append after
  have followed := gives.append (ends_of_isBlank after) (List.append_nil _ ▸ trailing)
  simp only [Option.map_some, List.append_nil, Option.bind_fun_some] at followed
  exact followed.blank_append before

end Gives

/-! ## Words and numbers -/

/-- What is read of a kind goes on with the characters allowed in it, and nothing that ends words
and numbers is allowed. -/
structure Extends (kind : Text → Reading) (allowed : Char → Bool) : Prop where
  /-- An allowed character is taken up, any other one starts something new. -/
  step : ∀ reversed char, step? (kind reversed) char =
    if allowed char then some (kind (char :: reversed), [])
    else step?.finishAndStart (kind reversed) char
  /-- The characters of words and numbers are the only ones allowed. -/
  stops : ∀ char, char.isLower = false → isNumeric char = false → allowed char = false

theorem extends_word : Extends .word Char.isLower :=
  ⟨fun _ _ => rfl, fun _ noLetter _ => noLetter⟩

theorem extends_number : Extends .number isNumeric :=
  ⟨fun _ _ => rfl, fun _ _ noNumber => noNumber⟩

/-- A digit starts a number. -/
theorem step?_of_isDigit {char : Char} (digit : char.isDigit = true) :
    step? .nothing char = some (.number [char], []) := by
  have range := Char.isDigit_iff_toNat.mp digit
  have noBlank : isBlank char = false := by
    refine Bool.eq_false_iff.mpr fun blank => ?_
    simp only [isBlank, Bool.or_eq_true, beq_iff_eq] at blank
    rcases blank with ((rfl | rfl) | rfl) | rfl <;> exact absurd digit (by decide)
  have noQuote : char ≠ '"' := by
    rintro rfl
    exact absurd digit (by decide)
  have noLetter : char.isLower = false := by
    refine Bool.eq_false_iff.mpr fun lower => ?_
    have letters := (Text.isLower_iff char).mp lower
    have last : char.toNat ≤ 57 := range.2
    omega
  simp [step?, start?, noBlank, noQuote, noLetter, digit]

namespace Extends

variable {kind : Text → Reading} {allowed : Char → Bool}

theorem sequenceFrom?_append
    (kinds : Extends kind allowed)
    {text : Text}
    (all : ∀ char ∈ text, allowed char = true)
    (reversed rest : Text) :
    sequenceFrom? (kind reversed) (text ++ rest) =
      sequenceFrom? (kind (text.reverse ++ reversed)) rest := by
  induction text generalizing reversed with
  | nil => rfl
  | cons char later inductionHypothesis =>
    obtain ⟨first, others⟩ := List.forall_mem_cons.mp all
    have step : step? (kind reversed) char = some (kind (char :: reversed), []) := by
      rw [kinds.step, if_pos first]
    rw [List.cons_append, sequenceFrom?_cons_nil _ step, inductionHypothesis others]
    simp

/-- What ends a word or a number is read as if nothing had been read before, provided that the word
or the number may end there. -/
theorem sequenceFrom?_of_ends
    (kinds : Extends kind allowed)
    (reversed : Text)
    {rest : Text}
    (ends : Ends rest) :
    sequenceFrom? (kind reversed) rest =
      (finish? (kind reversed)).bind fun before =>
        (sequenceFrom? .nothing rest).map (before ++ ·) := by
  cases rest with
  | nil =>
    have finished : sequenceFrom? .nothing [] = some [] := rfl
    rw [sequenceFrom?, finished]
    simp
  | cons char later =>
    obtain ⟨noLetter, noNumber⟩ := ends char rfl
    have step : step? (kind reversed) char = (finish? (kind reversed)).bind fun before =>
        (step? .nothing char).map fun started => (started.1, before ++ started.2) := by
      rw [kinds.step, kinds.stops char noLetter noNumber, if_neg Bool.false_ne_true]
      simp only [Option.map_eq_bind]
      rfl
    -- Both sides start something new with the same character.
    rw [sequenceFrom?_cons, sequenceFrom?_cons, step]
    cases finish? (kind reversed) <;> cases step? .nothing char <;> simp [Function.comp_def]

/-- A text of one kind gives its tokens, and none if it may not end. -/
theorem gives
    (kinds : Extends kind allowed)
    {first : Char}
    {later : Text}
    {tokens : Option (List Token)}
    (start : step? .nothing first = some (kind [first], []))
    (all : ∀ char ∈ later, allowed char = true)
    (finish : finish? (kind (first :: later).reverse) = tokens) :
    Gives (first :: later) tokens := by
  intro rest ends
  have shape : (first :: later).reverse = later.reverse ++ [first] := List.reverse_cons
  rw [List.cons_append, sequenceFrom?_cons_nil _ start, kinds.sequenceFrom?_append all, ← shape,
    kinds.sequenceFrom?_of_ends _ ends, finish]

end Extends

end Token

namespace NumberText

/-- No digit is a sign. -/
theorem splitSign_of_written
    {negative : Bool}
    {sign digits : Text}
    (written : WrittenSign negative sign)
    (areDigits : IsDigits digits) :
    Integer.splitSign (sign ++ digits) = (negative, digits) := by
  cases written with
  | plus => rfl
  | minus => rfl
  | absent =>
    obtain ⟨first, later, rfl⟩ := List.exists_cons_of_ne_nil areDigits.1
    have digit := areDigits.2 first List.mem_cons_self
    unfold Integer.splitSign
    split
    · rename_i same
      cases same
      exact absurd digit (by decide)
    · rename_i same
      cases same
      exact absurd digit (by decide)
    · rfl

theorem exponentOf?_of_written
    {exponent : Option Int}
    {text : Text}
    (written : WrittenExponent exponent text) :
    exponentOf? text = some exponent := by
  cases written with
  | absent => rfl
  | present mark sign digits =>
    rw [exponentOf?, splitSign_of_written sign digits]
    exact if_pos ⟨mark, digits.1, List.all_eq_true.mpr digits.2⟩

/-- What stands behind the digits of a number is neither a digit nor a point. -/
theorem head?_of_writtenExponent
    {exponent : Option Int}
    {text : Text}
    (written : WrittenExponent exponent text) :
    ∀ char ∈ text.head?, char.isDigit = false ∧ char ≠ '.' := by
  cases written with
  | absent => simp
  | present mark sign digits =>
    rintro _ ⟨rfl⟩
    rcases mark with rfl | rfl <;> decide

theorem isNumeric_of_isDigit {char : Char} (digit : char.isDigit = true) :
    Token.isNumeric char = true := by
  simp [Token.isNumeric, digit]

theorem isNumeric_of_mem_writtenExponent
    {exponent : Option Int}
    {text : Text}
    (written : WrittenExponent exponent text)
    {char : Char}
    (member : char ∈ text) :
    Token.isNumeric char = true := by
  cases written with
  | absent => cases member
  | present mark sign digits =>
    rcases List.mem_cons.mp member with rfl | member
    · rcases mark with rfl | rfl <;> rfl
    · rcases List.mem_append.mp member with inSign | inDigits
      · cases sign with
        | absent => cases inSign
        | plus | minus =>
          obtain rfl := List.mem_singleton.mp inSign
          rfl
      · exact isNumeric_of_isDigit (digits.2 char inDigits)

namespace IsWritten

variable {number : NumberText} {text : Text}

theorem exists_whole (written : number.IsWritten text) :
    ∃ first later, number.whole = first :: later ∧ first.isDigit = true := by
  obtain ⟨nonempty, areDigits⟩ := written.wholeDigits
  obtain ⟨first, later, whole⟩ := List.exists_cons_of_ne_nil nonempty
  exact ⟨first, later, whole, areDigits first (whole ▸ List.mem_cons_self)⟩

theorem isWhole_whole (written : number.IsWritten text) : isWhole number.whole = true := by
  have noLeadingZero := written.noLeadingZero
  obtain ⟨first, later, whole, -⟩ := written.exists_whole
  rw [whole] at noLeadingZero ⊢
  by_cases zero : first = '0'
  · subst zero
    rw [noLeadingZero rfl]
    rfl
  · unfold isWhole
    split <;> simp_all

/-- The sign and the digits behind it are taken off. -/
theorem splits (written : number.IsWritten text) : ∃ body,
    (text.head? == some '-') = number.negative ∧
      (if number.negative then text.tail else text) = body ∧
      body.takeWhile Char.isDigit = number.whole ∧
      ∃ behind, WrittenExponent number.exponent behind ∧
        body.dropWhile Char.isDigit = number.fraction.elim [] ('.' :: ·) ++ behind := by
  obtain ⟨behind, exponent, rfl⟩ := written.exponent
  obtain ⟨first, later, whole, digit⟩ := written.exists_whole
  have noSign : first ≠ '-' := by
    rintro rfl
    exact absurd digit (by decide)
  have ends : ∀ char ∈ (number.fraction.elim [] ('.' :: ·) ++ behind).head?,
      char.isDigit = false := by
    cases number.fraction with
    | none => exact fun char member => (head?_of_writtenExponent exponent char member).1
    | some digits =>
      rintro _ ⟨rfl⟩
      rfl
  obtain ⟨taken, dropped⟩ := Digits.takeWhile_dropWhile_append written.wholeDigits.2 ends
  refine ⟨_, ?_, ?_, taken, behind, exponent, dropped⟩
  · cases sign : number.negative <;> simp [front, sign, whole, noSign]
  · cases sign : number.negative <;> simp [front, sign]

/-- The parts of a number are read from each of its spellings. -/
theorem ofText?_eq (written : number.IsWritten text) : ofText? text = some number := by
  obtain ⟨body, sign, split, taken, behind, exponent, dropped⟩ := written.splits
  have read := exponentOf?_of_written exponent
  unfold ofText?
  simp only [sign, split, taken, dropped, written.isWhole_whole, Bool.not_true, Bool.false_eq_true,
    if_false]
  cases fraction : number.fraction with
  | none =>
    have parts : { number with fraction := none } = number :=
      (congrArg (fun fraction => { number with fraction }) fraction).symm
    simp only [Option.elim_none, List.nil_append]
    split
    · exact absurd rfl (head?_of_writtenExponent exponent '.' rfl).2
    · rw [read, Option.map_some, parts]
  | some digits =>
    have parts : { number with fraction := some digits } = number :=
      (congrArg (fun fraction => { number with fraction }) fraction).symm
    obtain ⟨nonempty, areDigits⟩ := written.fractionDigits digits fraction
    obtain ⟨digitsTaken, rest⟩ := Digits.takeWhile_dropWhile_append areDigits
      fun char member => (head?_of_writtenExponent exponent char member).1
    have isSome : digits.isEmpty = false := by simpa using nonempty
    simp only [Option.elim_some, List.cons_append, digitsTaken, rest, isSome, read,
      Option.map_some, parts]
    rfl

/-- A number is spelled by characters of numbers, the first of which is a digit or a minus. -/
theorem characters (written : number.IsWritten text) :
    (∀ char ∈ text, Token.isNumeric char = true) ∧
      ∃ first later, text = first :: later ∧ (first.isDigit = true ∨ first = '-') := by
  obtain ⟨behind, exponent, rfl⟩ := written.exponent
  obtain ⟨first, later, whole, digit⟩ := written.exists_whole
  have fractionNumeric : ∀ char ∈ number.fraction.elim [] ('.' :: ·),
      Token.isNumeric char = true := by
    cases fraction : number.fraction with
    | none => simp
    | some digits =>
      refine List.forall_mem_cons.mpr ⟨rfl, fun char member => ?_⟩
      exact isNumeric_of_isDigit ((written.fractionDigits digits fraction).2 char member)
  constructor
  · intro char member
    rw [front, List.mem_append, List.mem_append, List.mem_append] at member
    rcases member with (sign | digits | point) | last
    · split at sign
      · obtain rfl := List.mem_singleton.mp sign
        rfl
      · cases sign
    · exact isNumeric_of_isDigit (written.wholeDigits.2 char digits)
    · exact fractionNumeric char point
    · exact isNumeric_of_mem_writtenExponent exponent last
  · cases sign : number.negative with
    | true => exact ⟨'-', _, by rw [front, sign]; rfl, .inr rfl⟩
    | false =>
      exact ⟨first, _, by rw [front, sign, whole]; rfl, .inl digit⟩

/-- A number gives its value, and none if it is too large. -/
theorem gives (written : number.IsWritten text) :
    Token.Gives text (number.value?.map fun value => [.scalar value]) := by
  obtain ⟨numeric, first, later, rfl, start⟩ := written.characters
  refine Token.extends_number.gives ?_ (fun char member => numeric char (.tail _ member)) ?_
  · rcases start with digit | rfl
    · exact Token.step?_of_isDigit digit
    · rfl
  · rw [Token.finish?, List.reverse_reverse, numberOfText?, written.ofText?_eq, Option.bind_some]

end IsWritten

end NumberText

end Json
end SqlDump
