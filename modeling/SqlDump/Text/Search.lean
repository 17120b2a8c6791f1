import SqlDump.Text.Basic

/-!
# Finding and removing parts of a text
-/

namespace SqlDump
namespace Text

/-- Whether a text holds `part` somewhere. -/
def includes (text : Text) (part : Text) : Bool :=
  match text with
  | [] => part.isEmpty
  | char :: rest => part.isPrefixOf (char :: rest) || includes rest part

/-- Erases the occurrences of `part` from left to right, after the first `skipped` characters,
which belong to an occurrence already met. -/
def eraseAllAfter (skipped : Nat) (text : Text) (part : Text) : Text :=
  match text, skipped with
  | [], _ => []
  | _ :: rest, skipped + 1 => eraseAllAfter skipped rest part
  | char :: rest, 0 =>
    if part.isPrefixOf (char :: rest) then eraseAllAfter (part.length - 1) rest part
    else char :: eraseAllAfter 0 rest part

/-- A text without the occurrences of `part`, found from left to right. -/
def eraseAll (text : Text) (part : Text) : Text :=
  eraseAllAfter 0 text part

/-- A text includes a part that stands somewhere in it. -/
theorem includes_iff_isInfix (text part : Text) : includes text part = true ↔ part <:+: text := by
  induction text with
  | nil => simp [includes]
  | cons char rest inductionHypothesis =>
    rw [includes, Bool.or_eq_true, inductionHypothesis, List.isPrefixOf_iff_prefix,
      List.infix_cons_iff]

/-- A part is not found where its first character does not occur. -/
theorem eraseAll_append_of_not_mem
    {first : Char}
    {front : Text}
    (absent : first ∉ front)
    (part rest : Text) :
    eraseAll (front ++ rest) (first :: part) = front ++ eraseAll rest (first :: part) := by
  induction front with
  | nil => rfl
  | cons char later inductionHypothesis =>
    obtain ⟨other, others⟩ := not_or.mp (mt List.mem_cons.mpr absent)
    have misses : (first :: part).isPrefixOf (char :: (later ++ rest)) = false := by
      simp [List.isPrefixOf, other]
    have kept := inductionHypothesis others
    rw [eraseAll] at kept ⊢
    rw [List.cons_append, eraseAllAfter, misses, if_neg Bool.false_ne_true, kept]
    rfl

theorem eraseAll_of_not_mem
    {first : Char}
    {text : Text}
    (absent : first ∉ text)
    (part : Text) :
    eraseAll text (first :: part) = text := by
  have whole := eraseAll_append_of_not_mem absent part []
  have nothing : eraseAll [] (first :: part) = [] := rfl
  rwa [nothing, List.append_nil] at whole

theorem eraseAllAfter_length_append (front part rest : Text) :
    eraseAllAfter front.length (front ++ rest) part = eraseAll rest part := by
  induction front with
  | nil => rfl
  | cons char later inductionHypothesis => exact inductionHypothesis

/-- A part that stands in one place only is taken out there. -/
theorem eraseAll_between
    {first : Char}
    {front rest : Text}
    (absentBefore : first ∉ front)
    (absentBehind : first ∉ rest)
    (part : Text) :
    eraseAll (front ++ (first :: part ++ rest)) (first :: part) = front ++ rest := by
  have begins : (first :: part).isPrefixOf (first :: (part ++ rest)) = true :=
    List.isPrefixOf_iff_prefix.mpr (List.prefix_append (first :: part) rest)
  have erased : eraseAll (first :: part ++ rest) (first :: part) = eraseAll rest (first :: part) := by
    rw [List.cons_append, eraseAll, eraseAllAfter, if_pos begins]
    exact eraseAllAfter_length_append part _ rest
  rw [eraseAll_append_of_not_mem absentBefore, erased, eraseAll_of_not_mem absentBehind]

end Text
end SqlDump
