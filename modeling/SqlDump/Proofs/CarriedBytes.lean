import SqlDump.Proofs.Sources

/-!
# Bytes carried over

After any number of successful fills, with statements handed out in between, a reader has scanned
the longest text that the bytes delivered so far hold, and it carries over the rest: some bytes of
one more character, three at most and not all of them.  Whatever is asked of a reader, it stands
behind such fills until it ends or fails.
-/

namespace SqlDump

namespace Utf8

/-- The start of a character is shorter than the character. -/
theorem Started.exists_utf8EncodeChar {begun : List UInt8} (started : Started begun) :
    ∃ char more, String.utf8EncodeChar char = begun ++ more ∧ more ≠ [] := by
  obtain ⟨more, point, spells⟩ := started.exists_spells
  refine ⟨Char.ofNat point, more, spells.utf8EncodeChar_ofNat, ?_⟩
  rintro rfl
  rw [List.append_nil] at spells
  by_cases empty : begun = []
  · rw [empty] at spells
    cases spells
  · have whole := spells.classify_eq
    rw [started.classify_eq empty] at whole
    cases whole

theorem Started.length_le {begun : List UInt8} (started : Started begun) : begun.length ≤ 3 := by
  cases started <;> simp

end Utf8

theorem Read.content_append (front back : List Read) :
    content (front ++ back) = content front ++ content back := by
  induction front with
  | nil => rfl
  | cons read reads inductionHypothesis =>
    cases read with
    | chunk first rest => simp [content, inductionHypothesis]
    | failure reason => exact inductionHypothesis

namespace Reader

/-! ## Successful fills -/

/-- What a reader becomes by a number of successful fills, while it hands out some of its
statements. -/
inductive Fills (start : Reader) : (count : Nat) → (handedOut : List Statement) → Reader → Prop
  | unfilled : Fills start 0 [] start
  | fill {count : Nat} {handedOut : List Statement} {reader : Reader}
      (before : Fills start count handedOut reader)
      (scanned : reader.fill.1 = .scanned) :
      Fills start (count + 1) handedOut reader.fill.2
  | handOut {count : Nat} {handedOut queue : List Statement} {statement : Statement}
      {reader : Reader}
      (before : Fills start count handedOut reader)
      (queued : reader.queue = statement :: queue) :
      Fills start count (handedOut ++ [statement]) { reader with queue }

theorem exists_chunk_of_scanned {reader : Reader} (scanned : reader.fill.1 = .scanned) :
    ∃ first rest reads, reader.reads = .chunk first rest :: reads := by
  unfold fill at scanned
  split at scanned
  · split at scanned <;> cases scanned
  · cases scanned
  · exact ⟨_, _, _, ‹_›⟩

/-- A fill that succeeds takes up one chunk and feeds what the chunk adds to the text. -/
theorem HasScanned.of_scanned
    {reader : Reader}
    {bytes : List UInt8}
    {text : Text}
    (hasScanned : reader.HasScanned bytes text)
    (scanned : reader.fill.1 = .scanned) :
    ∃ first rest added, reader.reads = .chunk first rest :: reader.fill.2.reads ∧
      reader.fill.2.HasScanned (bytes ++ first :: rest) (text ++ added) ∧
      reader.fill.2.queue = reader.queue ++ (reader.scanner.drain added).1 := by
  obtain ⟨first, rest, reads, next⟩ := exists_chunk_of_scanned scanned
  obtain ⟨added, remaining, split, ending⟩ := Utf8.exists_text_append (reader.carry ++ first :: rest)
  rcases ending with started | illFormed
  · obtain ⟨filled, outcome, later, sameReads, -, queue, -⟩ :=
      hasScanned.fill_of_started next split started
    rw [outcome]
    exact ⟨first, rest, added, by rw [next, sameReads], later, queue⟩
  · rw [hasScanned.fill_of_illFormed next split illFormed] at scanned
    cases scanned

/-- Where a reader stands behind some fills: what it has read and scanned, what it has made of that,
and what is still to be read. -/
structure StandsBehind
    (start : Reader)
    (count : Nat)
    (handedOut : List Statement)
    (reader : Reader)
    (text : Text) : Prop where
  hasScanned : reader.HasScanned (Read.content (start.reads.take count)) text
  reads_eq : start.reads.drop count = reader.reads
  delivered_eq :
    Read.content (start.reads.take count) ++ Read.delivered reader.reads =
      Read.delivered start.reads
  statements_eq : handedOut ++ reader.queue = (Scanner.drain {} text).1

namespace StandsBehind

variable
  {start reader : Reader}
  {count : Nat}
  {handedOut : List Statement}
  {text : Text}

/-- A successful fill moves a reader behind one more read. -/
theorem fill
    (stands : StandsBehind start count handedOut reader text)
    (scanned : reader.fill.1 = .scanned) :
    ∃ added, StandsBehind start (count + 1) handedOut reader.fill.2 (text ++ added) := by
  obtain ⟨first, rest, added, next, hasScanned, queue⟩ := stands.hasScanned.of_scanned scanned
  have unread := stands.reads_eq.trans next
  have bytes : Read.content (start.reads.take (count + 1)) =
      Read.content (start.reads.take count) ++ first :: rest := by
    have taken : start.reads[count]? = some (.chunk first rest) := by
      rw [← List.head?_drop, unread, List.head?_cons]
    rw [List.take_add_one, taken, Read.content_append]
    simp [Read.content]
  refine ⟨added, ?_, ?_, ?_, ?_⟩
  · rwa [bytes]
  · rw [← List.tail_drop, unread, List.tail_cons]
  · rw [bytes, ← stands.delivered_eq, next, Read.delivered, List.append_assoc]
  · rw [queue, Scanner.drain_append, ← stands.statements_eq, ← stands.hasScanned.scanner_eq,
      List.append_assoc]

/-- Handing out a statement moves it from the queue to those handed out. -/
theorem handOut
    (stands : StandsBehind start count handedOut reader text)
    {statement : Statement}
    {queue : List Statement}
    (queued : reader.queue = statement :: queue) :
    StandsBehind start count (handedOut ++ [statement]) { reader with queue } text := by
  obtain ⟨bytes_eq, started, bytesRead_eq, scanner_eq⟩ := stands.hasScanned
  refine ⟨⟨bytes_eq, started, bytesRead_eq, scanner_eq⟩, stands.reads_eq, stands.delivered_eq, ?_⟩
  rw [← stands.statements_eq, queued, List.append_assoc]
  rfl

end StandsBehind

/-- Behind successful fills a reader has scanned a text and carries the rest over. -/
theorem Fills.exists_standsBehind
    {chunkSize : Nat}
    {source : List Segment}
    {count : Nat}
    {handedOut : List Statement}
    {reader : Reader}
    (fills : Fills (ofSource chunkSize source) count handedOut reader) :
    ∃ text, StandsBehind (ofSource chunkSize source) count handedOut reader text := by
  induction fills with
  | unfilled => exact ⟨[], HasScanned.start chunkSize source, rfl, rfl, rfl⟩
  | fill before scanned inductionHypothesis =>
    obtain ⟨text, stands⟩ := inductionHypothesis
    obtain ⟨added, further⟩ := stands.fill scanned
    exact ⟨text ++ added, further⟩
  | handOut before queued inductionHypothesis =>
    obtain ⟨text, stands⟩ := inductionHypothesis
    exact ⟨text, stands.handOut queued⟩

/-- Behind any number of successful fills, of whatever source and in chunks of whatever size, the
bytes delivered are the encoding of the text fed to the scanner and the bytes carried over.  Those
are at most three and not all bytes of one character, maybe none.  The bytes are counted, and the
scanner stands where one feed of the whole text leads. -/
theorem carries_start_of_character
    {chunkSize : Nat}
    {source : List Segment}
    {count : Nat}
    {handedOut : List Statement}
    {reader : Reader}
    (fills : Fills (ofSource chunkSize source) count handedOut reader) :
    ∃ bytes text,
      bytes = Read.content ((Segment.readsOf chunkSize source).take count) ∧
      bytes ++ Read.delivered reader.reads = Segment.delivered source ∧
      bytes = Utf8.encode text ++ reader.carry ∧
      reader.carry.length ≤ 3 ∧
      (∃ char more, String.utf8EncodeChar char = reader.carry ++ more ∧ more ≠ []) ∧
      reader.bytesRead = bytes.length ∧
      (handedOut ++ reader.queue, reader.scanner) = Scanner.drain {} text := by
  obtain ⟨text, stands⟩ := fills.exists_standsBehind
  obtain ⟨bytes_eq, started, bytesRead_eq, scanner_eq⟩ := stands.hasScanned
  refine ⟨_, text, rfl, ?_, bytes_eq, started.length_le, started.exists_utf8EncodeChar,
    bytesRead_eq, Prod.ext stands.statements_eq scanner_eq⟩
  rw [← (Read.readsOf chunkSize source).2.1]
  exact stands.delivered_eq

/-- Bytes in three chunks, behind which three of the four bytes of a character are carried over. -/
theorem carries_start_of_character_of_cut :
    let source : List Segment := [.bytes [0x41, 0x3B, 0xF0], .interrupted, .bytes [0x9F, 0x98]]
    let reader : Reader := { reads := [], carry := [0xF0, 0x9F, 0x98], bytesRead := 5 }
    Fills (ofSource 2 source) 3 [⟨['A']⟩] reader ∧
      ∃ bytes text, bytes = Utf8.encode text ++ [0xF0, 0x9F, 0x98] ∧ bytes.length = 5 ∧
        (∃ char more, String.utf8EncodeChar char = [0xF0, 0x9F, 0x98] ++ more ∧ more ≠ []) ∧
        ([⟨['A']⟩], {}) = Scanner.drain {} text := by
  intro source reader
  have opened : ofSource 2 source =
      { reads := [.chunk 0x41 [0x3B], .chunk 0xF0 [], .chunk 0x9F [0x98]] } := by
    simp [source, ofSource, Segment.readsOf, Segment.reads, Segment.chunks]
  have fills : Fills (ofSource 2 source) 3 [⟨['A']⟩] reader := by
    have before : Fills (ofSource 2 source) 0 [] (ofSource 2 source) := .unfilled
    rw [opened] at before ⊢
    exact (((before.fill rfl).handOut rfl).fill rfl).fill rfl
  obtain ⟨bytes, text, -, -, split, -, short, count, scanned⟩ := carries_start_of_character fills
  exact ⟨fills, bytes, text, split, count.symm, short, scanned⟩

/-! ## Calls -/

theorem finished_next (reader : Reader) (finished : reader.finished = true) :
    reader.next.2.finished = true := by
  fun_induction next reader with
  | case1 => exact finished
  | case2 => exact finished
  | case3 reader empty active => exact absurd finished active
  | case4 reader empty active => exact absurd finished active
  | case5 => rfl

/-- A call that neither ends nor fails fills as often as it has to and hands out a statement. -/
theorem Fills.next
    {start reader : Reader}
    {count : Nat}
    {handedOut : List Statement}
    (fills : Fills start count handedOut reader)
    (active : reader.next.2.finished = false) :
    ∃ more statement, reader.next.1 = some (.ok statement) ∧
      Fills start more (handedOut ++ [statement]) reader.next.2 := by
  fun_induction Reader.next reader generalizing count with
  | case1 reader statement queue queued => exact ⟨count, statement, rfl, fills.handOut queued⟩
  | case2 reader empty finished => cases finished.symm.trans active
  | case3 reader empty unfinished outcome inductionHypothesis =>
    exact inductionHypothesis (fills.fill outcome) active
  | case4 reader empty unfinished outcome =>
    rw [finished_next _ rfl] at active
    cases active
  | case5 => cases active

/-- A reader that has neither ended nor failed after some calls stands behind successful fills, and
has answered the calls with statements. -/
theorem exists_fills_afterCalls
    (start : Reader)
    (calls : Nat)
    (active : (start.afterCalls calls).finished = false) :
    ∃ count handedOut, Fills start count handedOut (start.afterCalls calls) ∧
      (List.range calls).map start.answer = handedOut.map fun statement => some (.ok statement) := by
  induction calls with
  | zero => exact ⟨0, [], .unfilled, rfl⟩
  | succ calls inductionHypothesis =>
    rw [afterCalls_succ] at active ⊢
    have before : (start.afterCalls calls).finished = false :=
      Bool.eq_false_iff.mpr fun finished => by
        rw [finished_next _ finished] at active
        cases active
    obtain ⟨count, handedOut, fills, answers⟩ := inductionHypothesis before
    obtain ⟨more, statement, answer, further⟩ := fills.next active
    refine ⟨more, handedOut ++ [statement], further, ?_⟩
    rw [List.range_succ, List.map_append, List.map_append, answers]
    exact congrArg (_ ++ [·]) answer

end Reader
end SqlDump
