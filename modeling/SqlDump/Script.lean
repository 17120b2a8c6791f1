import SqlDump.Scanner.Feed

/-!
# Scripts

A script is a text of SQL commands separated by semicolons.
-/

namespace SqlDump
namespace Script

/-- The statements of a script, the last of which needs no semicolon. -/
def statements (script : Text) : List Statement :=
  let (completed, scanner) := Scanner.drain {} script
  completed ++ scanner.finish.1

theorem statements_eq (script : Text) :
    statements script =
      (Scanner.State.run {} script).2 ++ (Scanner.State.run {} script).1.unterminated?.toList := by
  simp [statements, Scanner.drain, Scanner.finish_eq]

end Script
end SqlDump
