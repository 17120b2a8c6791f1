import SqlDump.Calendar.Reader
import SqlDump.Insert.Prepared
import SqlDump.Proofs.NormalizedInsert
import SqlDump.Proofs.WrittenLiterals

/-!
# What rewriting dates does to literals

Rewriting dates leaves a literal as it is, unless it is a date with a time of day, whose word
becomes TIMESTAMP.  A text with a time of day spells no date, so such a literal stood for a
timestamp before, and it stands for the same timestamp afterwards.
-/

namespace SqlDump

open Unicode (isWhiteSpace isDecimalDigit)

/-! ## Rewriting a literal -/

namespace DateLiteral

open SqlDump.Insert

end DateLiteral

/-! ## A time of day is no date -/

namespace Calendar

variable {text rest : Text}

end Calendar

namespace Literal

end Literal

section Literals

open SqlDump.Insert

variable {policy : LargeTextPolicy} {text : Text} {binding : Binding}

end Literals

end SqlDump
