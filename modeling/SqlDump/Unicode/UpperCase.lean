/-!
# Upper-case letters of ASCII

To look for a word of ASCII capitals in the upper-case form of a text, it is enough to know the
characters whose upper-case form contains an ASCII capital.
-/

namespace SqlDump
namespace Unicode

/-- Characters other than ASCII letters whose upper-case form contains ASCII capitals, with that
form; a full stop stands for a character that is no ASCII letter. -/
def upperCaseExpansions : List (Char × List Char) :=
  [('ß', ['S', 'S']), ('ı', ['I']), ('ŉ', ['.', 'N']), ('ſ', ['S']), ('ǰ', ['J', '.']),
    ('ẖ', ['H', '.']), ('ẗ', ['T', '.']), ('ẘ', ['W', '.']), ('ẙ', ['Y', '.']),
    ('ẚ', ['A', '.']), ('ﬀ', ['F', 'F']), ('ﬁ', ['F', 'I']), ('ﬂ', ['F', 'L']),
    ('ﬃ', ['F', 'F', 'I']), ('ﬄ', ['F', 'F', 'L']), ('ﬅ', ['S', 'T']), ('ﬆ', ['S', 'T'])]

/-- The upper-case form of a character as far as ASCII capitals are concerned. -/
def upperCaseLetters (char : Char) : List Char :=
  match upperCaseExpansions.lookup char with
  | some letters => letters
  | none => [char.toUpper]

end Unicode
end SqlDump
