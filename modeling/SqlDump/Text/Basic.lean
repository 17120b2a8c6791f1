/-!
# Texts and byte positions

Statements, tokens and data are texts: lists of characters.  Positions in a text count the
bytes of its UTF-8 encoding, so that they agree with positions in the file it came from.  A
text can be cut at every byte position; a cut that would fall inside a character falls after it.
-/

namespace SqlDump

/-- A text, as the list of its characters. -/
abbrev Text := List Char

namespace Text

/-- Number of bytes in the UTF-8 encoding of a text. -/
def byteLength : Text → Nat
  | [] => 0
  | char :: rest => char.utf8Size + byteLength rest

@[simp] theorem byteLength_nil : byteLength [] = 0 := rfl

@[simp] theorem byteLength_cons (char : Char) (rest : Text) :
    byteLength (char :: rest) = char.utf8Size + byteLength rest := rfl

@[simp] theorem byteLength_append (front back : Text) :
    byteLength (front ++ back) = byteLength front + byteLength back := by
  induction front with
  | nil => simp
  | cons char rest inductionHypothesis =>
    simp [inductionHypothesis, Nat.add_assoc]

theorem length_le_byteLength (text : Text) : text.length ≤ byteLength text := by
  induction text with
  | nil => simp
  | cons char rest inductionHypothesis =>
    have positive : 0 < char.utf8Size := Char.utf8Size_pos char
    simp only [List.length_cons, byteLength_cons]
    omega

/-- What stands before byte position `offset`. -/
def takeBytes : Text → Nat → Text
  | [], _ => []
  | _ :: _, 0 => []
  | char :: rest, offset + 1 => char :: takeBytes rest (offset + 1 - char.utf8Size)

/-- What stands at or after byte position `offset`. -/
def dropBytes : Text → Nat → Text
  | [], _ => []
  | char :: rest, 0 => char :: rest
  | char :: rest, offset + 1 => dropBytes rest (offset + 1 - char.utf8Size)

/-- A cut loses nothing. -/
@[simp] theorem takeBytes_append_dropBytes (text : Text) (offset : Nat) :
    takeBytes text offset ++ dropBytes text offset = text := by
  fun_induction takeBytes text offset with
  | case1 => rfl
  | case2 => rfl
  | case3 char rest offset inductionHypothesis => simp [dropBytes, inductionHypothesis]

@[simp] theorem takeBytes_zero (text : Text) : takeBytes text 0 = [] := by
  cases text <;> rfl

@[simp] theorem dropBytes_zero (text : Text) : dropBytes text 0 = text := by
  cases text <;> rfl

/-- A cut at the end of a front part yields that front part. -/
@[simp] theorem takeBytes_byteLength_append (front back : Text) :
    takeBytes (front ++ back) (byteLength front) = front := by
  induction front with
  | nil => simp
  | cons char rest inductionHypothesis =>
    obtain ⟨size, sizeEquality⟩ : ∃ size, char.utf8Size = size + 1 :=
      Nat.exists_eq_succ_of_ne_zero (Nat.ne_of_gt (Char.utf8Size_pos char))
    have shift : size + 1 + byteLength rest = (size + byteLength rest) + 1 := by omega
    have remaining : size + byteLength rest + 1 - (size + 1) = byteLength rest := by omega
    simp only [List.cons_append, byteLength_cons, sizeEquality, shift, takeBytes, remaining,
      inductionHypothesis]

/-- A cut at the end of a front part leaves what follows it. -/
@[simp] theorem dropBytes_byteLength_append (front back : Text) :
    dropBytes (front ++ back) (byteLength front) = back := by
  have whole := takeBytes_append_dropBytes (front ++ back) (byteLength front)
  rw [takeBytes_byteLength_append] at whole
  exact List.append_cancel_left whole

/-- The part of a text from byte position `start` up to byte position `stop`. -/
def slice (text : Text) (start stop : Nat) : Text :=
  (text.dropBytes start).takeBytes (stop - start)

/-- A slice between the ends of two front parts is what lies between them. -/
theorem slice_append (front middle back : Text) :
    slice (front ++ middle ++ back) (byteLength front)
      (byteLength front + byteLength middle) = middle := by
  simp [slice, List.append_assoc]

/-- What stands from byte position `offset` on, provided that no character is cut in two there. -/
def suffixAt? : Text → Nat → Option Text
  | text, 0 => some text
  | [], _ + 1 => none
  | char :: rest, offset + 1 =>
    if char.utf8Size ≤ offset + 1 then suffixAt? rest (offset + 1 - char.utf8Size) else none

/-- What stands behind a front part is what follows its end. -/
@[simp] theorem suffixAt?_byteLength_append (front back : Text) :
    suffixAt? (front ++ back) (byteLength front) = some back := by
  induction front with
  | nil => cases back <;> rfl
  | cons char rest inductionHypothesis =>
    obtain ⟨size, sizeEquality⟩ : ∃ size, char.utf8Size = size + 1 :=
      Nat.exists_eq_succ_of_ne_zero (Nat.ne_of_gt (Char.utf8Size_pos char))
    have shift : size + 1 + byteLength rest = (size + byteLength rest) + 1 := by omega
    have fits : size + 1 ≤ size + byteLength rest + 1 := by omega
    have remaining : size + byteLength rest + 1 - (size + 1) = byteLength rest := by omega
    simp only [List.cons_append, byteLength_cons, sizeEquality, shift, suffixAt?, fits, if_true,
      remaining, inductionHypothesis]

/-- What stands from a byte position on follows a front part that ends there. -/
theorem exists_append_of_suffixAt?
    {text suffix : Text}
    {offset : Nat}
    (found : suffixAt? text offset = some suffix) :
    ∃ front, text = front ++ suffix ∧ byteLength front = offset := by
  fun_induction suffixAt? text offset with
  | case1 text =>
    obtain rfl := Option.some.inj found
    exact ⟨[], rfl, rfl⟩
  | case2 => cases found
  | case3 char rest offset fits inductionHypothesis =>
    obtain ⟨front, rfl, length⟩ := inductionHypothesis found
    refine ⟨char :: front, rfl, ?_⟩
    rw [byteLength_cons, length]
    omega
  | case4 => cases found

/-- A position at which no character is cut in two. -/
def IsBoundary (text : Text) (offset : Nat) : Prop :=
  ∃ front back, text = front ++ back ∧ byteLength front = offset

/-- The character in front of what follows a text, when `previous` stands in front of the text. -/
theorem getLast?_cons_or (char : Char) (rest : Text) (previous : Option Char) :
    (char :: rest).getLast?.or previous = rest.getLast?.or (some char) := by
  rw [List.getLast?_cons]
  cases rest.getLast? <;> rfl

/-- Byte position of the first character of a kind. -/
def position? (accepts : Char → Bool) : Text → Option Nat
  | [] => none
  | char :: rest =>
    if accepts char then some 0 else (position? accepts rest).map (char.utf8Size + ·)

/-- The first character of a kind is found behind a part that has none. -/
theorem position?_append_cons
    (accepts : Char → Bool)
    (front : Text)
    (char : Char)
    (back : Text)
    (absent : ∀ other ∈ front, accepts other = false)
    (accepted : accepts char = true) :
    position? accepts (front ++ char :: back) = some (byteLength front) := by
  induction front with
  | nil => simp [position?, accepted]
  | cons other rest inductionHypothesis =>
    have refused : accepts other = false := absent other List.mem_cons_self
    have later := inductionHypothesis fun char member => absent char (List.mem_cons_of_mem _ member)
    simp [position?, refused, later]

end Text
end SqlDump
