/-!
# White space

The twenty-five characters that separate words: the controls tab to carriage return, the
next-line control, the space and the spaces and separators of other widths.
-/

namespace SqlDump
namespace Unicode

/-- Whether a character is white space. -/
def isWhiteSpace (char : Char) : Bool :=
  let point := char.toNat
  (0x09 ≤ point && point ≤ 0x0D) || point == 0x20 || point == 0x85 || point == 0xA0 ||
    point == 0x1680 || (0x2000 ≤ point && point ≤ 0x200A) || point == 0x2028 ||
    point == 0x2029 || point == 0x202F || point == 0x205F || point == 0x3000

/-- The code points of white space. -/
def whiteSpacePoints : List Nat :=
  [0x09, 0x0A, 0x0B, 0x0C, 0x0D, 0x20, 0x85, 0xA0, 0x1680, 0x2000, 0x2001, 0x2002, 0x2003,
    0x2004, 0x2005, 0x2006, 0x2007, 0x2008, 0x2009, 0x200A, 0x2028, 0x2029, 0x202F, 0x205F,
    0x3000]

theorem isWhiteSpace_iff (char : Char) :
    isWhiteSpace char = true ↔ char.toNat ∈ whiteSpacePoints := by
  simp only [isWhiteSpace, whiteSpacePoints, Bool.or_eq_true, Bool.and_eq_true,
    decide_eq_true_eq, beq_iff_eq, List.mem_cons, List.not_mem_nil, or_false]
  omega

end Unicode
end SqlDump
