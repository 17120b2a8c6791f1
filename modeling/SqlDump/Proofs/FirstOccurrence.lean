import Mathlib.Order.Bounds.Defs
import SqlDump.Proofs.AsciiBytes
import SqlDump.Proofs.CheckedLiterals

/-!
# The first occurrence of a keyword

In the bytes of a text, read from any offset on, a keyword occurs where its letters stand outside
quoted regions and neither neighbour is a byte of a word.  The search finds the first offset at which
it occurs, also if the reading starts inside a character or behind the text.
-/

namespace SqlDump

open Utf8 (encode)

/-! ## Occurrences in bytes -/

/-- Bytes that lead a reading from outside quotes to outside quotes: bytes that are no quotes, and
quoted regions with their marks, in which the mark is doubled.  Where one region is read as two that
meet at a doubled mark, the same bytes lie outside. -/
inductive ReadsOutside : List UInt8 → Prop
  | nil : ReadsOutside []
  | plain {byte : UInt8} {rest : List UInt8}
      (noMark : ¬ IsMark byte)
      (later : ReadsOutside rest) :
      ReadsOutside (byte :: rest)
  | region {mark : Char} {rest : List UInt8}
      (quote : mark = '\'' ∨ mark = '"')
      (body : Text)
      (later : ReadsOutside rest) :
      ReadsOutside (encode (Quoted.quote mark body) ++ rest)

namespace Keyword

/-- Whether a keyword occurs at an offset in bytes that are read from the offset `start` on. -/
structure OccursAt (keyword : Text) (bytes : List UInt8) (start place : Nat) : Prop where
  behind : start ≤ place
  /-- The byte there lies outside the quoted regions. -/
  outside : ReadsOutside (bytes.extract start place) ∧ ∀ byte ∈ bytes[place]?, ¬ IsMark byte
  /-- The bytes from there on are those of the keyword, in any case. -/
  spelled : (encode keyword).map lowerByte =
    (bytes.extract place (place + keyword.byteLength)).map lowerByte
  endsBefore : 0 < place → ∀ byte ∈ bytes[place - 1]?, ¬ IsWordByte byte
  endsBehind : ∀ byte ∈ bytes[place + keyword.byteLength]?, ¬ IsWordByte byte

end Keyword

/-! ## Reading outside quotes -/

/-- A text that leaves a quoted region has all marks doubled in front of the one that closes it. -/
theorem Region.exists_double_of_after
    {mark : Char}
    {text : Text}
    (quote : mark = '\'' ∨ mark = '"')
    (leaves : (Region.next .plain mark).after text = .plain) :
    ∃ body rest : Text, text = Quoted.double mark body ++ mark :: rest ∧
      Region.plain.after rest = .plain := by
  obtain ⟨inside, closes, stays⟩ := Keyword.quote_regions quote
  induction text with
  | nil => exact absurd leaves inside
  | cons char rest inductionHypothesis =>
    rw [after_cons] at leaves
    by_cases marked : char = mark
    · rw [marked, closes] at leaves
      exact ⟨[], rest, by rw [marked]; rfl, leaves⟩
    · rw [stays char marked] at leaves
      obtain ⟨body, later, rfl, plain⟩ := inductionHypothesis leaves
      refine ⟨char :: body, later, ?_, plain⟩
      rw [Quoted.double, if_neg marked, List.cons_append]

namespace ReadsOutside

variable {bytes : List UInt8} {text : Text}

/-- What leads outside quotes leads to plain text. -/
theorem after_map (reads : ReadsOutside bytes) :
    Region.plain.after (bytes.map Char.ofUInt8) = .plain := by
  induction reads with
  | nil => rfl
  | @plain byte rest noMark later inductionHypothesis =>
    have stays := Region.after_map_of_forall (List.forall_mem_singleton.mpr noMark) .plain
    rw [← List.singleton_append, List.map_append, Region.after_append, stays, inductionHypothesis]
  | region quote body later inductionHypothesis =>
    rw [List.map_append, Region.after_append, Region.after_map_encode, Region.after_quote quote,
      inductionHypothesis]

/-- Bytes without quotes may stand in front. -/
theorem append_of_forall
    {front : List UInt8}
    (noMark : ∀ byte ∈ front, ¬ IsMark byte)
    (reads : ReadsOutside bytes) :
    ReadsOutside (front ++ bytes) := by
  induction front with
  | nil => exact reads
  | cons byte rest inductionHypothesis =>
    obtain ⟨first, others⟩ := List.forall_mem_cons.mp noMark
    exact .plain first (inductionHypothesis others)

/-- A text that leads to plain text consists of characters outside quotes and of quoted regions. -/
theorem of_after (plain : Region.plain.after text = .plain) : ReadsOutside (encode text) := by
  -- a quoted region is passed at once, so the rest is shorter by more than one character
  induction length : text.length using Nat.strongRecOn generalizing text with
  | ind count inductionHypothesis =>
    cases text with
    | nil => exact .nil
    | cons char rest =>
      rw [List.length_cons] at length
      by_cases quote : char = '\'' ∨ char = '"'
      · rw [Region.after_cons] at plain
        obtain ⟨body, later, rfl, plainLater⟩ := Region.exists_double_of_after quote plain
        rw [List.length_append, List.length_cons] at length
        rw [← Quoted.quote_append, Utf8.encode_append]
        exact .region quote body (inductionHypothesis later.length (by omega) plainLater rfl)
      · have stays : Region.next .plain char = .plain :=
          Region.after_of_forall (List.forall_mem_singleton.mpr (not_or.mp quote)) .plain
        rw [Region.after_cons, stays] at plain
        exact append_of_forall (fun byte member => mt (isMark_iff_of_mem member).mp quote)
          (inductionHypothesis rest.length (by omega) plain rfl)

/-- Behind bytes without quotes, a text leads outside quotes if and only if it leads to plain
text. -/
theorem append_encode_iff
    {front : List UInt8}
    (noMark : ∀ byte ∈ front, ¬ IsMark byte)
    (text : Text) :
    ReadsOutside (front ++ encode text) ↔ Region.plain.after text = .plain := by
  constructor
  · intro reads
    have plain := reads.after_map
    rwa [List.map_append, Region.after_append, Region.after_map_of_forall noMark,
      Region.after_map_encode] at plain
  · exact fun plain => append_of_forall noMark (of_after plain)

end ReadsOutside

/-! ## Cuts -/

namespace Text

/-- A cut in front of the end of a front part divides that part. -/
theorem exists_append_of_le_byteLength
    {front : Text}
    {offset : Nat}
    (reached : offset ≤ front.byteLength)
    (back : Text) :
    ∃ middle, front = (front ++ back).takeBytes offset ++ middle ∧
      (front ++ back).dropBytes offset = middle ++ back := by
  induction front generalizing offset with
  | nil =>
    obtain rfl : offset = 0 := Nat.le_zero.mp reached
    exact ⟨[], by rw [takeBytes_zero, List.append_nil], by rw [dropBytes_zero]⟩
  | cons char rest inductionHypothesis =>
    cases offset with
    | zero => exact ⟨char :: rest, by rw [takeBytes_zero, List.nil_append], by rw [dropBytes_zero]⟩
    | succ offset =>
      rw [byteLength_cons] at reached
      have shorter : offset + 1 - char.utf8Size ≤ byteLength rest := by omega
      obtain ⟨middle, whole, dropped⟩ := inductionHypothesis shorter
      refine ⟨middle, ?_, ?_⟩
      · rw [List.cons_append, takeBytes, List.cons_append, ← whole]
      · rw [List.cons_append, dropBytes, dropped]

/-- A cut does not fall in front of its offset, unless nothing stands behind it. -/
theorem le_byteLength_takeBytes
    (text : Text)
    (offset : Nat)
    (nonempty : text.dropBytes offset ≠ []) :
    offset ≤ (text.takeBytes offset).byteLength := by
  fun_induction takeBytes text offset with
  | case1 => exact absurd rfl nonempty
  | case2 => exact Nat.zero_le _
  | case3 char rest offset inductionHypothesis =>
    have later := inductionHypothesis nonempty
    rw [byteLength_cons]
    omega

end Text

namespace Keyword

/-! ## The search -/

variable {letter : Char} {keyword : Text}

/-- A search starts where the text is cut at its start. -/
theorem locateFrom?_eq_dropBytes
    (keyword text : Text)
    (start position : Nat)
    (previous : Option Char) :
    locateFrom? keyword start .plain previous position text =
      locateFrom? keyword 0 .plain ((text.takeBytes (start - position)).getLast?.or previous)
        (position + (text.takeBytes (start - position)).byteLength)
        (text.dropBytes (start - position)) := by
  induction text generalizing position previous with
  | nil => rfl
  | cons char rest inductionHypothesis =>
    by_cases early : position < start
    · obtain ⟨distance, shape⟩ : ∃ distance, start - position = distance + 1 :=
        Nat.exists_eq_succ_of_ne_zero (by omega)
      have remaining : start - (position + char.utf8Size) = distance + 1 - char.utf8Size := by omega
      rw [locateFrom?, if_pos early, inductionHypothesis, shape, remaining, Text.takeBytes,
        Text.dropBytes, Text.getLast?_cons_or, Text.byteLength_cons, Nat.add_assoc]
    · have nothing : start - position = 0 := by omega
      rw [nothing, Text.takeBytes_zero, Text.dropBytes_zero]
      exact locateFrom?_of_start_le (Nat.not_lt.mp early) keyword (char :: rest) .plain previous

/-- Where a keyword begins in plain text, a search has found it, there or further in front. -/
theorem exists_le_of_begins
    (isLetter : letter.isAlpha = true)
    {region : Region}
    {previous : Option Char}
    {front back : Text}
    (plain : region.after front = .plain)
    (begun : begins (letter :: keyword) (front.getLast?.or previous) back = true)
    (position : Nat) :
    ∃ found ≤ position + front.byteLength,
      locateFrom? (letter :: keyword) 0 region previous position (front ++ back) = some found := by
  induction front generalizing region previous position with
  | nil =>
    cases back with
    | nil => cases begun
    | cons char rest =>
      obtain ⟨noString, noIdentifier⟩ := ne_quote_of_begins isLetter begun
      refine ⟨position, Nat.le_refl _, ?_⟩
      rw [List.nil_append, locateFrom?, if_neg (Nat.not_lt_zero _),
        if_pos ⟨plain, noString, noIdentifier, begun⟩]
  | cons char rest inductionHypothesis =>
    rw [Text.getLast?_cons_or] at begun
    obtain ⟨found, bound, later⟩ :=
      inductionHypothesis plain begun (position + char.utf8Size)
    rw [List.cons_append, locateFrom?, if_neg (Nat.not_lt_zero _)]
    split
    · exact ⟨position, Nat.le_add_right _ _, rfl⟩
    · refine ⟨found, ?_, later⟩
      rw [Text.byteLength_cons, ← Nat.add_assoc]
      exact bound

/-! ## Characters and bytes -/

/-- The byte in front of a place is the last byte of the character in front of it. -/
theorem endsBeside_before_iff (front : Text) (bytes : List UInt8) :
    (0 < front.byteLength →
        ∀ byte ∈ (encode front ++ bytes)[front.byteLength - 1]?, ¬ IsWordByte byte) ↔
      endsBeside front.getLast? = true := by
  have length := Utf8.length_encode front
  rw [endsBeside_getLast?_iff, List.getLast?_eq_getElem?, length]
  by_cases empty : front.byteLength = 0
  · have nothing : encode front = [] := List.eq_nil_of_length_eq_zero (length.trans empty)
    refine iff_of_true (fun positive => absurd empty (by omega)) ?_
    simp [nothing]
  · rw [List.getElem?_append_left (by omega)]
    exact ⟨fun ends => ends (Nat.pos_of_ne_zero empty), fun ends _ => ends⟩

/-- The byte behind a word is the first byte of the character behind it. -/
theorem endsBeside_behind_iff
    (letters : ∀ letter ∈ keyword, letter.isAlpha = true)
    {back : Text}
    (starts : Text.startsWith keyword back = true)
    (front : Text) :
    (∀ byte ∈ (encode front ++ encode back)[front.byteLength + keyword.byteLength]?,
        ¬ IsWordByte byte) ↔
      endsBeside (back.drop keyword.length).head? = true := by
  obtain ⟨word, rest, rfl, same⟩ := Text.exists_append_of_startsWith starts
  have length := Text.length_of_sameLetters same
  have bytes : word.byteLength = keyword.byteLength := by
    rw [Text.byteLength_of_isAlpha letters,
      Text.byteLength_of_isAlpha (Text.isAlpha_of_sameLetters same letters), length]
  have place : front.byteLength + keyword.byteLength = (encode (front ++ word)).length := by
    rw [Utf8.length_encode, Text.byteLength_append, bytes]
  rw [← Utf8.encode_append, ← List.append_assoc, Utf8.encode_append, place,
    List.getElem?_append_right (Nat.le_refl _), Nat.sub_self, ← List.head?_eq_getElem?,
    ← length, List.drop_left, endsBeside_head?_iff]

/-- Where a word of letters starts, no quote stands. -/
theorem not_isMark_of_startsWith
    (isLetter : letter.isAlpha = true)
    {back : Text}
    (starts : Text.startsWith (letter :: keyword) back = true)
    (front : Text) :
    ∀ byte ∈ (encode front ++ encode back)[front.byteLength]?, ¬ IsMark byte := by
  cases back with
  | nil => cases starts
  | cons char rest =>
    rw [Text.startsWith, Bool.and_eq_true] at starts
    obtain ⟨first, member, head⟩ := Utf8.exists_head?_encode_cons char rest
    have other : ¬ IsMark first := by
      rw [isMark_iff_of_mem member, not_or]
      exact ne_quote_of_continuesWord (continuesWord_of_sameLetter isLetter starts.1)
    rw [← Utf8.length_encode front, List.getElem?_append_right (Nat.le_refl _), Nat.sub_self,
      ← List.head?_eq_getElem?, head]
    intro byte same
    rwa [← Option.some.inj same]

theorem begins_eq_true_iff (keyword : Text) (previous : Option Char) (text : Text) :
    begins keyword previous text = true ↔
      Text.startsWith keyword text = true ∧ endsBeside previous = true ∧
        endsBeside (text.drop keyword.length).head? = true := by
  rw [begins, Bool.and_eq_true, Bool.and_eq_true, and_assoc]

/-- A keyword occurs in the bytes of a text where it begins in plain text, if no quote stands between
the start of the reading and the character from which on the text is searched. -/
theorem occursAt_append_iff
    (letters : ∀ other ∈ letter :: keyword, other.isAlpha = true)
    {start : Nat}
    {skipped : Text}
    (reached : start ≤ skipped.byteLength)
    (noMark : ∀ byte ∈ (encode skipped).drop start, ¬ IsMark byte)
    (middle back : Text) :
    OccursAt (letter :: keyword) (encode (skipped ++ (middle ++ back))) start
        (skipped ++ middle).byteLength ↔
      Region.plain.after middle = .plain ∧
        begins (letter :: keyword) (skipped ++ middle).getLast? back = true := by
  have length := Utf8.length_encode skipped
  have read : (encode (skipped ++ (middle ++ back))).extract start (skipped ++ middle).byteLength =
      (encode skipped).drop start ++ encode middle := by
    rw [List.extract_eq_take_drop, Utf8.encode_append, Utf8.encode_append,
      List.drop_append_of_le_length (by omega), ← List.append_assoc]
    apply List.take_left'
    rw [List.length_append, List.length_drop, length, Utf8.length_encode, Text.byteLength_append]
    omega
  have split : encode (skipped ++ (middle ++ back)) =
      encode (skipped ++ middle) ++ encode back := by
    rw [← List.append_assoc, Utf8.encode_append]
  have shown : (encode (skipped ++ (middle ++ back))).extract (skipped ++ middle).byteLength
      ((skipped ++ middle).byteLength + Text.byteLength (letter :: keyword)) =
        (encode back).take (Text.byteLength (letter :: keyword)) := by
    rw [List.extract_eq_take_drop, split, Nat.add_sub_cancel_left,
      ← Utf8.length_encode (skipped ++ middle), List.drop_left]
  rw [begins_eq_true_iff]
  constructor
  · rintro ⟨-, ⟨reads, -⟩, spelled, endsBefore, endsBehind⟩
    rw [read, ReadsOutside.append_encode_iff noMark] at reads
    rw [shown, map_lowerByte_eq_iff letters] at spelled
    rw [split] at endsBefore endsBehind
    exact ⟨reads, spelled, (endsBeside_before_iff _ _).mp endsBefore,
      (endsBeside_behind_iff letters spelled _).mp endsBehind⟩
  · rintro ⟨plain, starts, endsBefore, endsBehind⟩
    refine ⟨?_, ⟨?_, ?_⟩, ?_, ?_, ?_⟩
    · rw [Text.byteLength_append]
      omega
    · rw [read, ReadsOutside.append_encode_iff noMark]
      exact plain
    · rw [split]
      exact not_isMark_of_startsWith (letters letter List.mem_cons_self) starts _
    · rw [shown, map_lowerByte_eq_iff letters]
      exact starts
    · rw [split]
      exact (endsBeside_before_iff _ _).mpr endsBefore
    · rw [split]
      exact (endsBeside_behind_iff letters starts _).mpr endsBehind

/-! ## The first occurrence -/

/-- What the search finds is an occurrence. -/
theorem occursAt_of_locate?
    (letters : ∀ other ∈ letter :: keyword, other.isAlpha = true)
    {text : Text}
    {start found : Nat}
    (located : locate? (letter :: keyword) text start = some found) :
    OccursAt (letter :: keyword) (encode text) start found := by
  rw [locate?, if_neg (by simp), locateFrom?_eq_dropBytes, Nat.sub_zero, Nat.zero_add,
    Option.or_none] at located
  obtain ⟨middle, back, dropped, nonempty, rfl, plain, begun⟩ :=
    exists_append_of_locateFrom? (Nat.zero_le _) located
  have reached : start ≤ (text.takeBytes start).byteLength := by
    apply Text.le_byteLength_takeBytes
    rw [dropped]
    exact fun empty => nonempty (List.append_eq_nil_iff.mp empty).2
  have whole := Text.takeBytes_append_dropBytes text start
  rw [dropped] at whole
  have occurs := (occursAt_append_iff letters reached (not_isMark_of_mem_drop_encode text start)
    middle back).mpr ⟨plain, by rwa [List.getLast?_append]⟩
  rwa [whole, Text.byteLength_append] at occurs

/-- A keyword occurs only where a character begins. -/
theorem OccursAt.exists_append
    (isLetter : letter.isAlpha = true)
    {text : Text}
    {start place : Nat}
    (occurs : OccursAt (letter :: keyword) (encode text) start place) :
    ∃ (front : Text) (char : Char) (back : Text), text = front ++ char :: back ∧
      place = front.byteLength := by
  obtain ⟨first, firstBytes, value, small, size⟩ := Utf8.exists_byte_of_isAlpha isLetter
  have heads := congrArg List.head? occurs.spelled
  rw [Utf8.encode_cons, firstBytes, List.singleton_append, List.map_cons, List.head?_cons,
    List.head?_map, List.extract_eq_take_drop, Nat.add_sub_cancel_left, List.head?_take,
    Text.byteLength_cons, size, if_neg (by omega), List.head?_drop] at heads
  obtain ⟨byte, here, same⟩ := Option.map_eq_some_iff.mp heads.symm
  have ascii : ¬ 0x80 ≤ byte.toNat := by
    rw [← le_toNat_lowerByte_iff, same, le_toNat_lowerByte_iff]
    omega
  exact Utf8.exists_append_of_getElem? here (Nat.lt_of_not_le ascii)

/-- Where a keyword occurs, the search has found it, there or further in front. -/
theorem exists_le_of_occursAt
    (letters : ∀ other ∈ letter :: keyword, other.isAlpha = true)
    {text : Text}
    {start place : Nat}
    (occurs : OccursAt (letter :: keyword) (encode text) start place) :
    ∃ found ≤ place, locate? (letter :: keyword) text start = some found := by
  have isLetter := letters letter List.mem_cons_self
  obtain ⟨front, char, back, rfl, rfl⟩ := occurs.exists_append isLetter
  obtain ⟨middle, whole, dropped⟩ :=
    Text.exists_append_of_le_byteLength occurs.behind (char :: back)
  have reached : start ≤ ((front ++ char :: back).takeBytes start).byteLength := by
    apply Text.le_byteLength_takeBytes
    simp [dropped]
  have noMark := not_isMark_of_mem_drop_encode (front ++ char :: back) start
  rw [locate?, if_neg (by simp), locateFrom?_eq_dropBytes, Nat.sub_zero, Nat.zero_add,
    Option.or_none, dropped]
  generalize (front ++ char :: back).takeBytes start = skipped at whole reached noMark
  subst whole
  rw [List.append_assoc, occursAt_append_iff letters reached noMark, List.getLast?_append] at occurs
  rw [Text.byteLength_append]
  exact exists_le_of_begins isLetter occurs.1 occurs.2 skipped.byteLength

/-- In a text that is read from any offset on, the search for a word of letters finds the least
offset at which the word occurs in the bytes of the text, and finds none if and only if it occurs
nowhere. -/
theorem locate?_eq_some_iff_isLeast
    {keyword : Text}
    (nonempty : keyword ≠ [])
    (letters : ∀ letter ∈ keyword, letter.isAlpha = true)
    (text : Text)
    (start : Nat) :
    (∀ found, locate? keyword text start = some found ↔
      IsLeast {place | OccursAt keyword (encode text) start place} found) ∧
    (locate? keyword text start = none ↔
      ∀ place, ¬ OccursAt keyword (encode text) start place) := by
  obtain ⟨letter, keyword, rfl⟩ := List.exists_cons_of_ne_nil nonempty
  refine ⟨fun found => ⟨fun located => ⟨occursAt_of_locate? letters located, ?_⟩, ?_⟩, ?_, ?_⟩
  · intro place occurs
    obtain ⟨earlier, bound, here⟩ := exists_le_of_occursAt letters occurs
    obtain rfl := Option.some.inj (located.symm.trans here)
    exact bound
  · rintro ⟨occurs, least⟩
    obtain ⟨earlier, bound, here⟩ := exists_le_of_occursAt letters occurs
    obtain rfl := Nat.le_antisymm bound (least (occursAt_of_locate? letters here))
    exact here
  · intro absent place occurs
    obtain ⟨found, -, here⟩ := exists_le_of_occursAt letters occurs
    cases absent.symm.trans here
  · intro absent
    rw [Option.eq_none_iff_forall_ne_some]
    intro found here
    exact absent found (occursAt_of_locate? letters here)

/-- A reading that starts inside a character passes quoted words, which hold doubled marks, and
longer words, and finds the word between characters that are no ASCII letters. -/
theorem locate?_eq_some_iff_isLeast_of_cut :
    let text : Text := "é'it''s VALUES' \"VALUES\"\"\" VALUES_ XVALUES ü9 éValuesé VALUES".toList
    (Keyword.values ≠ [] ∧ ∀ letter ∈ Keyword.values, letter.isAlpha = true) ∧
      locate? Keyword.values text 1 = some 50 ∧
      IsLeast {place | OccursAt Keyword.values (encode text) 1 place} 50 := by
  intro text
  have nonempty : Keyword.values ≠ [] := List.cons_ne_nil _ _
  have letters : ∀ letter ∈ Keyword.values, letter.isAlpha = true := List.all_eq_true.mp rfl
  have located : locate? Keyword.values text 1 = some 50 := by decide +kernel
  obtain ⟨found, -⟩ := locate?_eq_some_iff_isLeast nonempty letters text 1
  exact ⟨⟨nonempty, letters⟩, located, (found 50).mp located⟩

end Keyword
end SqlDump
