import SqlDump.Text.Basic

/-!
# Quoted regions

In comment-free SQL a character stands in a string, in a quoted identifier or in plain text.
A quote opens or closes a region.  A doubled quote inside a region closes it and opens it again
at once, so that the characters after it stand in the same region as those before.
-/

namespace SqlDump

/-- The kinds of quoting a character can stand in. -/
inductive Region where
  /-- Outside quotes. -/
  | plain
  /-- Between single quotes. -/
  | string
  /-- Between double quotes. -/
  | identifier
  deriving DecidableEq, Repr, Inhabited

namespace Region

/-- The region after one character. -/
def next (region : Region) (char : Char) : Region :=
  match region with
  | .plain => if char = '\'' then .string else if char = '"' then .identifier else .plain
  | .string => if char = '\'' then .plain else .string
  | .identifier => if char = '"' then .plain else .identifier

/-- The region after a text. -/
def after (region : Region) (text : Text) : Region :=
  text.foldl next region

@[simp] theorem after_nil (region : Region) : region.after [] = region := rfl

@[simp] theorem after_cons (region : Region) (char : Char) (rest : Text) :
    region.after (char :: rest) = (region.next char).after rest := rfl

@[simp] theorem after_append (region : Region) (front back : Text) :
    region.after (front ++ back) = (region.after front).after back := by
  simp [after]

end Region
end SqlDump
