import SqlDump.Text.Basic

/-!
# Sources of bytes

A source delivers its bytes in segments.  A reader asks for a limited number of bytes at a time
and gets at most what is left of the current segment: never the bytes of two segments at once.
An attempt may be interrupted, which only makes the reader ask again, or fail.
-/

namespace SqlDump

/-- What a source delivers next. -/
inductive Segment where
  /-- Bytes, delivered in one or more reads. -/
  | bytes (content : List UInt8)
  /-- A read that delivers nothing and is tried again. -/
  | interrupted
  /-- A read that fails. -/
  | failure (reason : Text)
  deriving DecidableEq, Repr, Inhabited

/-- What one read that is not interrupted delivers. -/
inductive Read where
  /-- One byte or more. -/
  | chunk (first : UInt8) (rest : List UInt8)
  /-- An error. -/
  | failure (reason : Text)
  deriving DecidableEq, Repr, Inhabited

namespace Segment

/-- The reads of at most `size` bytes, but one at least, that deliver some bytes. -/
def chunks (size : Nat) : List UInt8 → List Read
  | [] => []
  | first :: rest =>
    .chunk first (rest.take (size - 1)) :: chunks size (rest.drop (size - 1))
termination_by content => content.length
decreasing_by simp only [List.length_drop, List.length_cons]; omega

/-- The reads that deliver a segment. -/
def reads (size : Nat) : Segment → List Read
  | .bytes content => chunks size content
  | .interrupted => []
  | .failure reason => [.failure reason]

/-- The reads that deliver a source; behind the last one the source has ended. -/
def readsOf (size : Nat) (source : List Segment) : List Read :=
  source.flatMap (reads size)

end Segment
end SqlDump
