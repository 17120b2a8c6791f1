/-!
# Tables of code points

A property of characters is kept as a table of runs: pairs of a first and a last code
point.  A character has the property exactly when one of the runs covers it.
-/

namespace SqlDump
namespace Unicode

/-- Runs of code points, each given by its first and its last member. -/
abbrev RangeTable := List (Nat × Nat)

namespace RangeTable

/-- Whether some run of the table covers the character. -/
def covers (table : RangeTable) (char : Char) : Bool :=
  table.any fun run => run.1 ≤ char.toNat && char.toNat ≤ run.2

theorem covers_iff (table : RangeTable) (char : Char) :
    table.covers char = true ↔
      ∃ run ∈ table, run.1 ≤ char.toNat ∧ char.toNat ≤ run.2 := by
  simp [covers]

theorem covers_of_mem (table : RangeTable) (run : Nat × Nat) {char : Char}
    (member : run ∈ table) (first : run.1 ≤ char.toNat) (last : char.toNat ≤ run.2) :
    table.covers char = true :=
  (covers_iff table char).mpr ⟨run, member, first, last⟩

end RangeTable
end Unicode
end SqlDump
