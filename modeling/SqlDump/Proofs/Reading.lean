import Mathlib.Tactic.SplitIfs
import SqlDump.Proofs.Decoding
import SqlDump.Proofs.Scanning
import SqlDump.Source.Reader

/-!
# Reading chunk by chunk

Whatever the reads of a source, a reader has at each point decoded what it has read, except for
the start of a character, and scanned what it has decoded (`HasScanned`).  From this follows what
a reader hands out in all, by what the source delivers in front of its first failing read.
-/

namespace SqlDump

/-! ## What a source delivers -/

namespace Segment

/-- All bytes of a source, those behind a failing read included. -/
def content : List Segment → List UInt8
  | [] => []
  | .bytes part :: rest => part ++ content rest
  | .interrupted :: rest => content rest
  | .failure _ :: rest => content rest

/-- The bytes of a source in front of the first failing read. -/
def delivered : List Segment → List UInt8
  | [] => []
  | .bytes part :: rest => part ++ delivered rest
  | .interrupted :: rest => delivered rest
  | .failure _ :: _ => []

/-- Why the first failing read of a source fails, if one does. -/
def firstFailure? : List Segment → Option Text
  | [] => none
  | .bytes _ :: rest => firstFailure? rest
  | .interrupted :: rest => firstFailure? rest
  | .failure reason :: _ => some reason

theorem delivered_prefix (source : List Segment) : delivered source <+: content source := by
  fun_induction delivered source with
  | case1 => exact List.nil_prefix
  | case2 part rest inductionHypothesis =>
    exact (List.prefix_append_right_inj part).mpr inductionHypothesis
  | case3 rest inductionHypothesis => exact inductionHypothesis
  | case4 reason rest => exact List.nil_prefix

/-- Without a failing read everything is delivered. -/
theorem delivered_of_not_mem
    {source : List Segment}
    (intact : ∀ reason, Segment.failure reason ∉ source) :
    delivered source = content source ∧ firstFailure? source = none := by
  induction source with
  | nil => exact ⟨rfl, rfl⟩
  | cons segment rest inductionHypothesis =>
    obtain ⟨sameRest, noneRest⟩ := inductionHypothesis fun reason member =>
      intact reason (List.mem_cons_of_mem _ member)
    cases segment with
    | bytes part => exact ⟨congrArg (part ++ ·) sameRest, noneRest⟩
    | interrupted => exact ⟨sameRest, noneRest⟩
    | failure reason => exact absurd List.mem_cons_self (intact reason)

theorem firstFailure?_ne_none
    {source : List Segment}
    {reason : Text}
    (failing : Segment.failure reason ∈ source) :
    firstFailure? source ≠ none := by
  induction source with
  | nil => simp at failing
  | cons segment rest inductionHypothesis =>
    cases segment with
    | bytes part => exact inductionHypothesis (by simpa using failing)
    | interrupted => exact inductionHypothesis (by simpa using failing)
    | failure other => exact Option.some_ne_none other

end Segment

namespace Read

/-- All bytes of some reads. -/
def content : List Read → List UInt8
  | [] => []
  | .chunk first rest :: reads => first :: rest ++ content reads
  | .failure _ :: reads => content reads

/-- The bytes of some reads up to the first that fails. -/
def delivered : List Read → List UInt8
  | [] => []
  | .chunk first rest :: reads => first :: rest ++ delivered reads
  | .failure _ :: _ => []

/-- Why the first failing read fails, if one does. -/
def firstFailure? : List Read → Option Text
  | [] => none
  | .chunk _ _ :: reads => firstFailure? reads
  | .failure reason :: _ => some reason

/-- Cutting bytes into reads loses none of them. -/
theorem chunks_append (size : Nat) (bytes : List UInt8) (reads : List Read) :
    content (Segment.chunks size bytes ++ reads) = bytes ++ content reads ∧
      delivered (Segment.chunks size bytes ++ reads) = bytes ++ delivered reads ∧
      firstFailure? (Segment.chunks size bytes ++ reads) = firstFailure? reads := by
  fun_induction Segment.chunks size bytes with
  | case1 => exact ⟨rfl, rfl, rfl⟩
  | case2 first rest inductionHypothesis =>
    obtain ⟨sameContent, sameDelivered, sameFailure⟩ := inductionHypothesis
    simp only [List.cons_append, content, delivered, firstFailure?, sameContent, sameDelivered,
      sameFailure]
    simp [← List.append_assoc]

theorem readsOf (size : Nat) (source : List Segment) :
    content (Segment.readsOf size source) = Segment.content source ∧
      delivered (Segment.readsOf size source) = Segment.delivered source ∧
      firstFailure? (Segment.readsOf size source) = Segment.firstFailure? source := by
  induction source with
  | nil => exact ⟨rfl, rfl, rfl⟩
  | cons segment rest inductionHypothesis =>
    obtain ⟨sameContent, sameDelivered, sameFailure⟩ := inductionHypothesis
    have split : Segment.readsOf size (segment :: rest) =
        segment.reads size ++ Segment.readsOf size rest := rfl
    rw [split]
    cases segment with
    | bytes part =>
      obtain ⟨cutContent, cutDelivered, cutFailure⟩ :=
        chunks_append size part (Segment.readsOf size rest)
      simp only [Segment.reads, cutContent, cutDelivered, cutFailure, sameContent, sameDelivered,
        sameFailure]
      exact ⟨rfl, rfl, rfl⟩
    | interrupted => exact ⟨sameContent, sameDelivered, sameFailure⟩
    | failure reason => exact ⟨sameContent, rfl, rfl⟩

end Read

/-! ## Asking a reader -/

namespace Reader

/-- The reader behind a number of calls. -/
def afterCalls (reader : Reader) : Nat → Reader
  | 0 => reader
  | calls + 1 => reader.next.2.afterCalls calls

/-- The answer to a call, where the first call is number zero. -/
def answer (reader : Reader) (call : Nat) : Option (Except Error Statement) :=
  (reader.afterCalls call).next.1

theorem next_of_queue
    (reader : Reader)
    {statement : Statement}
    {queue : List Statement}
    (queued : reader.queue = statement :: queue) :
    reader.next = (some (.ok statement), { reader with queue }) := by
  unfold next
  simp only [queued]

theorem next_of_finished
    (reader : Reader)
    (empty : reader.queue = [])
    (finished : reader.finished = true) :
    reader.next = (none, reader) := by
  unfold next
  simp [empty, finished]

theorem next_of_active
    (reader : Reader)
    (empty : reader.queue = [])
    (active : reader.finished = false) :
    reader.next =
      match reader.fill.1 with
      | .scanned => next reader.fill.2
      | .ended => next { reader.fill.2 with finished := true }
      | .failed error => (some (.error error), { reader.fill.2 with finished := true }) := by
  rw [next]
  simp only [empty, active, Bool.false_eq_true, if_false]
  split <;> simp_all

/-- Only a reader that has finished answers with nothing, and it stays as it is. -/
theorem next_of_none (reader : Reader) (ended : reader.next.1 = none) :
    reader.next.2.queue = [] ∧ reader.next.2.finished = true := by
  fun_induction next reader with
  | case1 => simp at ended
  | case2 reader empty finished => exact ⟨empty, finished⟩
  | case3 reader empty active outcome inductionHypothesis => exact inductionHypothesis ended
  | case4 reader empty active outcome inductionHypothesis => exact inductionHypothesis ended
  | case5 => simp at ended

theorem items_eq (reader : Reader) :
    reader.items =
      match reader.next.1 with
      | none => []
      | some item => item :: reader.next.2.items := by
  rw [items]
  split <;> simp_all

theorem items_of_finished
    (reader : Reader)
    (empty : reader.queue = [])
    (finished : reader.finished = true) :
    reader.items = [] := by
  rw [items_eq, next_of_finished reader empty finished]

/-- What is handed out is what the calls are answered with, and further calls are answered with
nothing. -/
theorem answer_eq_getElem? (reader : Reader) (call : Nat) :
    reader.answer call = reader.items[call]? := by
  induction call generalizing reader with
  | zero =>
    rw [items_eq]
    change reader.next.1 = _
    cases reader.next.1 <;> rfl
  | succ call inductionHypothesis =>
    have later : reader.answer (call + 1) = reader.next.2.answer call := rfl
    rw [later, inductionHypothesis, items_eq reader]
    cases ended : reader.next.1 with
    | none =>
      obtain ⟨empty, finished⟩ := reader.next_of_none ended
      rw [items_of_finished _ empty finished]
      rfl
    | some item => rfl

/-- Queued statements are handed out before anything else is read. -/
theorem items_eq_queue_append (reader : Reader) :
    reader.items = reader.queue.map .ok ++ ({ reader with queue := [] } : Reader).items := by
  obtain ⟨reads, scanner, carry, queue, bytesRead, finished⟩ := reader
  induction queue with
  | nil => rfl
  | cons statement rest inductionHypothesis =>
    rw [items_eq, next_of_queue _ rfl]
    simp only [inductionHypothesis, List.map_cons, List.cons_append]

theorem items_finish (reader : Reader) :
    ({ reader with finished := true } : Reader).items = reader.queue.map .ok := by
  rw [items_eq_queue_append, items_of_finished _ rfl rfl, List.append_nil]

theorem queue_of_failed
    (reader : Reader)
    {error : Error}
    (failed : reader.fill.1 = .failed error) :
    reader.fill.2.queue = reader.queue := by
  unfold fill at failed ⊢
  split
  · split
    · simp_all
    · rfl
  · rfl
  · dsimp only at failed ⊢
    split <;> simp_all

/-- An active reader hands out what is queued and goes on as its next chunk lets it. -/
theorem items_of_active (reader : Reader) (active : reader.finished = false) :
    reader.items = reader.queue.map .ok ++
      match ({ reader with queue := [] } : Reader).fill with
      | (.scanned, filled) => filled.items
      | (.ended, filled) => filled.queue.map .ok
      | (.failed error, _) => [.error error] := by
  rw [items_eq_queue_append]
  congr 1
  generalize emptied : ({ reader with queue := [] } : Reader) = current
  have empty : current.queue = [] := by rw [← emptied]
  have running : current.finished = false := by
    rw [← emptied]
    exact active
  have keeps : ∀ error, current.fill.1 = .failed error → current.fill.2.queue = current.queue :=
    fun _ => queue_of_failed current
  rw [items_eq, next_of_active current empty running]
  generalize current.fill = filled at keeps ⊢
  obtain ⟨outcome, after⟩ := filled
  cases outcome with
  | scanned => rw [← items_eq]
  | ended => rw [← items_eq, items_finish]
  | failed error =>
    have nothing : after.queue = [] := (keeps error rfl).trans empty
    change .error error :: ({ after with finished := true } : Reader).items = _
    rw [items_finish, nothing]
    rfl

/-! ## Reading chunk by chunk -/

/-- A reader has read some bytes and scanned a text: it carries over what the text leaves of the
bytes, the start of a character. -/
structure HasScanned (reader : Reader) (bytes : List UInt8) (text : Text) : Prop where
  bytes_eq : bytes = Utf8.encode text ++ reader.carry
  started : Utf8.Started reader.carry
  bytesRead_eq : reader.bytesRead = bytes.length
  scanner_eq : reader.scanner = (Scanner.drain {} text).2

namespace HasScanned

variable {reader : Reader} {bytes : List UInt8} {text : Text}

theorem start (chunkSize : Nat) (source : List Segment) :
    (ofSource chunkSize source).HasScanned [] [] :=
  ⟨rfl, .nil, rfl, rfl⟩

theorem emptied (hasScanned : reader.HasScanned bytes text) :
    ({ reader with queue := [] } : Reader).HasScanned bytes text :=
  ⟨hasScanned.bytes_eq, hasScanned.started, hasScanned.bytesRead_eq, hasScanned.scanner_eq⟩

/-- What a chunk adds to the bytes is what it adds to the text. -/
theorem append_eq
    (hasScanned : reader.HasScanned bytes text)
    {chunk : List UInt8}
    {added : Text}
    {remaining : List UInt8}
    (split : reader.carry ++ chunk = Utf8.encode added ++ remaining) :
    bytes ++ chunk = Utf8.encode (text ++ added) ++ remaining := by
  rw [hasScanned.bytes_eq, List.append_assoc, split, Utf8.encode_append, List.append_assoc]

/-- What a chunk adds to the text is scanned. -/
theorem fill_of_started
    (hasScanned : reader.HasScanned bytes text)
    {first : UInt8}
    {rest : List UInt8}
    {reads : List Read}
    (next : reader.reads = .chunk first rest :: reads)
    {added : Text}
    {carry : List UInt8}
    (split : reader.carry ++ first :: rest = Utf8.encode added ++ carry)
    (started : Utf8.Started carry) :
    ∃ filled, reader.fill = (.scanned, filled) ∧
      filled.HasScanned (bytes ++ first :: rest) (text ++ added) ∧ filled.reads = reads ∧
      filled.finished = reader.finished ∧
      filled.queue = reader.queue ++ (reader.scanner.drain added).1 ∧
      filled.scanner = (reader.scanner.drain added).2 := by
  have decoded := Utf8.decode_of_started added started
  rw [← split] at decoded
  have filled : reader.fill = (.scanned, { reader with
      reads
      bytesRead := reader.bytesRead + (first :: rest).length
      carry
      scanner := (reader.scanner.drain added).2
      queue := reader.queue ++ (reader.scanner.drain added).1 }) := by
    simp only [fill, next, decoded]
  refine ⟨_, filled, ⟨?_, started, ?_, ?_⟩, rfl, rfl, rfl, rfl⟩
  · exact hasScanned.append_eq split
  · simp only [hasScanned.bytesRead_eq, List.length_append]
  · rw [Scanner.drain_append, ← hasScanned.scanner_eq]

/-- A chunk with ill-formed bytes fails where the well-formed start of all bytes ends. -/
theorem fill_of_illFormed
    (hasScanned : reader.HasScanned bytes text)
    {first : UInt8}
    {rest : List UInt8}
    {reads : List Read}
    (next : reader.reads = .chunk first rest :: reads)
    {added : Text}
    {remaining : List UInt8}
    (split : reader.carry ++ first :: rest = Utf8.encode added ++ remaining)
    (illFormed : Utf8.IllFormed remaining) :
    reader.fill.1 = .failed (.illFormedBytes (Utf8.encode (text ++ added)).length) := by
  have decoded := Utf8.decode_of_illFormed added illFormed
  rw [← split] at decoded
  have length : bytes.length = (Utf8.encode text).length + reader.carry.length := by
    rw [hasScanned.bytes_eq, List.length_append]
  simp only [fill, next, decoded, hasScanned.bytesRead_eq]
  congr 2
  simp only [Utf8.encode_append, List.length_append]
  omega

theorem drain_nil (hasScanned : reader.HasScanned bytes text) :
    reader.scanner.drain [] = ([], reader.scanner) := by
  rw [hasScanned.scanner_eq]
  simp [Scanner.drain]

/-- The text scanned is all that the bytes read hold. -/
theorem text_unique
    (hasScanned : reader.HasScanned bytes text)
    {whole : Text}
    {rest : List UInt8}
    (split : bytes = Utf8.encode whole ++ rest)
    (ending : Utf8.Started rest ∨ Utf8.IllFormed rest) :
    whole = text ∧ rest = reader.carry :=
  Utf8.text_append_unique (split ▸ hasScanned.bytes_eq) ending (.inl hasScanned.started)

/-- Without further reads the reader ends, or finds a character unfinished. -/
theorem items_of_no_reads
    (hasScanned : reader.HasScanned bytes text)
    (active : reader.finished = false)
    (ended : reader.reads = []) :
    reader.items = reader.queue.map .ok ++
      if reader.carry = [] then reader.scanner.finish.1.map .ok
      else [.error (.illFormedBytes (Utf8.encode text).length)] := by
  have length : reader.bytesRead - reader.carry.length = (Utf8.encode text).length := by
    rw [hasScanned.bytesRead_eq, hasScanned.bytes_eq, List.length_append]
    omega
  rw [items_of_active reader active]
  simp only [fill, ended]
  split_ifs with complete
  · rfl
  · rw [length]

theorem items_of_failure
    (active : reader.finished = false)
    {reason : Text}
    {reads : List Read}
    (next : reader.reads = .failure reason :: reads) :
    reader.items = reader.queue.map .ok ++ [.error (.readFailure reason)] := by
  rw [items_of_active reader active]
  simp only [fill, next]

/-- A chunk that is no end of the well-formed start is scanned, and its statements are handed out
before those of later chunks. -/
theorem items_of_started_chunk
    (hasScanned : reader.HasScanned bytes text)
    (active : reader.finished = false)
    {first : UInt8}
    {rest : List UInt8}
    {reads : List Read}
    (next : reader.reads = .chunk first rest :: reads)
    {added : Text}
    {carry : List UInt8}
    (split : reader.carry ++ first :: rest = Utf8.encode added ++ carry)
    (started : Utf8.Started carry) :
    ∃ filled : Reader, reader.items = reader.queue.map .ok ++ filled.items ∧
      filled.HasScanned (bytes ++ first :: rest) (text ++ added) ∧ filled.finished = false ∧
      filled.reads = reads ∧ filled.queue = (reader.scanner.drain added).1 ∧
      filled.scanner = (reader.scanner.drain added).2 := by
  obtain ⟨filled, fillEquality, scanned, sameReads, sameFinished, queue, scanner⟩ :=
    hasScanned.emptied.fill_of_started next split started
  refine ⟨filled, ?_, scanned, sameFinished.trans active, sameReads, queue, scanner⟩
  rw [items_of_active reader active, fillEquality]

/-- A source whose bytes are well formed up to its first failing read. -/
theorem items_of_started
    (hasScanned : reader.HasScanned bytes text)
    (active : reader.finished = false)
    {whole : Text}
    {carry : List UInt8}
    (split : bytes ++ Read.delivered reader.reads = Utf8.encode whole ++ carry)
    (started : Utf8.Started carry) :
    ∃ added, whole = text ++ added ∧
      reader.items = (reader.queue ++ (reader.scanner.drain added).1).map .ok ++
        match Read.firstFailure? reader.reads with
        | some reason => [.error (.readFailure reason)]
        | none =>
          if carry = [] then (reader.scanner.drain added).2.finish.1.map .ok
          else [.error (.illFormedBytes (Utf8.encode whole).length)] := by
  generalize unread : reader.reads = reads at split ⊢
  -- read by read, for whatever was scanned before; `text_unique` tells that all of it was
  induction reads generalizing reader bytes text with
  | nil =>
    rw [Read.delivered, List.append_nil] at split
    obtain ⟨rfl, rfl⟩ := hasScanned.text_unique split (.inl started)
    refine ⟨[], by simp, ?_⟩
    rw [hasScanned.drain_nil, List.append_nil]
    exact hasScanned.items_of_no_reads active unread
  | cons read reads inductionHypothesis =>
    cases read with
    | failure reason =>
      rw [Read.delivered, List.append_nil] at split
      obtain ⟨rfl, rfl⟩ := hasScanned.text_unique split (.inl started)
      refine ⟨[], by simp, ?_⟩
      rw [hasScanned.drain_nil, List.append_nil]
      exact items_of_failure active unread
    | chunk first rest =>
      obtain ⟨added, remaining, chunkSplit, ending⟩ :=
        Utf8.exists_text_append (reader.carry ++ first :: rest)
      rw [Read.delivered, ← List.append_assoc] at split
      rcases ending with begun | illFormed
      · obtain ⟨filled, items, scanned, running, sameReads, queue, scanner⟩ :=
          hasScanned.items_of_started_chunk active unread chunkSplit begun
        obtain ⟨later, rfl, laterItems⟩ := inductionHypothesis scanned running sameReads split
        refine ⟨added ++ later, by simp, ?_⟩
        rw [items, laterItems, Scanner.drain_append, queue, scanner]
        simp [Read.firstFailure?]
      · have scanned := hasScanned.append_eq chunkSplit
        rw [scanned, List.append_assoc] at split
        obtain ⟨-, same⟩ :=
          Utf8.text_append_unique split (.inr (illFormed.append _)) (.inl started)
        exact absurd (illFormed.append _) (same ▸ started.not_illFormed)

/-- A source that is ill formed in front of its first failing read. -/
theorem items_of_illFormed
    (hasScanned : reader.HasScanned bytes text)
    (active : reader.finished = false)
    {whole : Text}
    {rest : List UInt8}
    (split : bytes ++ Read.delivered reader.reads = Utf8.encode whole ++ rest)
    (illFormed : Utf8.IllFormed rest) :
    ∃ added, text ++ added <+: whole ∧
      reader.items = (reader.queue ++ (reader.scanner.drain added).1).map .ok ++
        [.error (.illFormedBytes (Utf8.encode whole).length)] := by
  generalize unread : reader.reads = reads at split ⊢
  induction reads generalizing reader bytes text with
  | nil =>
    rw [Read.delivered, List.append_nil] at split
    obtain ⟨rfl, rfl⟩ := hasScanned.text_unique split (.inr illFormed)
    exact absurd illFormed hasScanned.started.not_illFormed
  | cons read reads inductionHypothesis =>
    cases read with
    | failure reason =>
      rw [Read.delivered, List.append_nil] at split
      obtain ⟨rfl, rfl⟩ := hasScanned.text_unique split (.inr illFormed)
      exact absurd illFormed hasScanned.started.not_illFormed
    | chunk first rest =>
      obtain ⟨added, remaining, chunkSplit, ending⟩ :=
        Utf8.exists_text_append (reader.carry ++ first :: rest)
      rw [Read.delivered, ← List.append_assoc] at split
      rcases ending with begun | fails
      · obtain ⟨filled, items, scanned, running, sameReads, queue, scanner⟩ :=
          hasScanned.items_of_started_chunk active unread chunkSplit begun
        obtain ⟨later, isPrefix, laterItems⟩ :=
          inductionHypothesis scanned running sameReads split
        refine ⟨added ++ later, by rwa [← List.append_assoc], ?_⟩
        rw [items, laterItems, Scanner.drain_append, queue, scanner]
        simp
      · have failed := hasScanned.emptied.fill_of_illFormed unread chunkSplit fails
        rw [hasScanned.append_eq chunkSplit, List.append_assoc] at split
        obtain ⟨rfl, -⟩ :=
          Utf8.text_append_unique split (.inr (fails.append _)) (.inr illFormed)
        refine ⟨[], by simp, ?_⟩
        rw [hasScanned.drain_nil, List.append_nil, items_of_active reader active]
        generalize Reader.fill _ = filled at failed ⊢
        obtain ⟨outcome, after⟩ := filled
        obtain rfl : outcome = _ := failed
        rfl

end HasScanned

section Sources

variable
  {source : List Segment}
  {script : Text}
  {rest : List UInt8}

/-- What is read of a source without ill-formed bytes in front of its first failing read. -/
theorem items_ofSource_of_started
    (chunkSize : Nat)
    (split : Segment.delivered source = Utf8.encode script ++ rest)
    (started : Utf8.Started rest) :
    (ofSource chunkSize source).items = (Scanner.drain {} script).1.map .ok ++
      match Segment.firstFailure? source with
      | some reason => [.error (.readFailure reason)]
      | none =>
        if rest = [] then (Scanner.drain {} script).2.finish.1.map .ok
        else [.error (.illFormedBytes (Utf8.encode script).length)] := by
  obtain ⟨-, delivered, failure⟩ := Read.readsOf chunkSize source
  obtain ⟨added, whole, items⟩ := (HasScanned.start chunkSize source).items_of_started rfl
    (delivered.trans split) started
  obtain rfl : script = added := whole
  rw [← failure]
  exact items

/-- What is read of a source with ill-formed bytes in front of its first failing read. -/
theorem items_ofSource_of_illFormed
    (chunkSize : Nat)
    (split : Segment.delivered source = Utf8.encode script ++ rest)
    (illFormed : Utf8.IllFormed rest) :
    ∃ scanned, scanned <+: script ∧
      (ofSource chunkSize source).items = (Scanner.drain {} scanned).1.map .ok ++
        [.error (.illFormedBytes (Utf8.encode script).length)] := by
  obtain ⟨-, delivered, -⟩ := Read.readsOf chunkSize source
  exact (HasScanned.start chunkSize source).items_of_illFormed rfl (delivered.trans split)
    illFormed

end Sources

end Reader
end SqlDump
