import Mathlib.Data.List.Perm.Basic
import SqlDump.Json.Document
import SqlDump.Proofs.JsonStrings

/-!
# Reading written JSON

Each spelling of a phrase is cut into the tokens of its value.  The tokens of a value bring a
document from where a value is due to where the value has been put, if the value is not nested too
deep.  So a document is read as the value of the phrase it spells, whichever of the spellings it is;
and it is not read at all if there is no such value or if it is nested too deep.
-/

namespace SqlDump
namespace Json

/-! ## The tokens of a value -/

mutual

/-- The tokens of a value. -/
def tokens : Json → List Token
  | .string text => [.string text]
  | .array items => .openArray :: (itemTokens items ++ [.closeArray])
  | .object members => .openObject :: (memberTokens members ++ [.closeObject])
  | value => [.scalar value]

/-- The tokens of the items of an array. -/
def itemTokens : List Json → List Token
  | [] => []
  | [item] => tokens item
  | item :: next :: rest => tokens item ++ .comma :: itemTokens (next :: rest)

/-- The tokens of the members of an object. -/
def memberTokens : List (Text × Json) → List Token
  | [] => []
  | [(name, value)] => .string name :: .colon :: tokens value
  | (name, value) :: next :: rest =>
    .string name :: .colon :: (tokens value ++ .comma :: memberTokens (next :: rest))

end

/-! ## Phrases -/

/-- The value of a number is one token. -/
theorem tokens_of_value?
    {parts : NumberText}
    {value : Json}
    (stands : parts.value? = some value) :
    value.tokens = [.scalar value] := by
  have number : (∃ integer, value = .integer integer) ∨ ∃ double, value = .double double := by
    unfold NumberText.value? at stands
    split at stands
    · dsimp only at stands
      split at stands
      · exact .inl ⟨_, (Option.some.inj stands).symm⟩
      · obtain ⟨double, -, rfl⟩ := Option.map_eq_some_iff.mp stands
        exact .inr ⟨double, rfl⟩
    · obtain ⟨double, -, rfl⟩ := Option.map_eq_some_iff.mp stands
      exact .inr ⟨double, rfl⟩
  rcases number with ⟨integer, rfl⟩ | ⟨double, rfl⟩ <;> rfl

theorem itemTokens_cons_of_ne_nil {items : List Json} (nonempty : items ≠ []) (item : Json) :
    itemTokens (item :: items) = item.tokens ++ .comma :: itemTokens items := by
  cases items with
  | nil => exact absurd rfl nonempty
  | cons next rest => rfl

theorem memberTokens_cons_of_ne_nil
    {members : List (Text × Json)}
    (nonempty : members ≠ [])
    (name : Text)
    (value : Json) :
    memberTokens ((name, value) :: members) =
      .string name :: .colon :: (value.tokens ++ .comma :: memberTokens members) := by
  cases members with
  | nil => exact absurd rfl nonempty
  | cons next rest => rfl

namespace Phrase

theorem map_tokens_item (item : Phrase) :
    (itemValues? [item]).map itemTokens = item.value?.map tokens := by
  rw [itemValues?, itemValues?]
  cases item.value? <;> rfl

theorem map_tokens_member (name : List Piece) (phrase : Phrase) :
    (memberValues? [(name, phrase)]).map memberTokens =
      ((Piece.text? name).map fun name => [.string name]).bind fun label =>
        ((phrase.value?.map tokens).map (.colon :: ·)).map (label ++ ·) := by
  rw [memberValues?, memberValues?]
  cases Piece.text? name <;> cases phrase.value? <;> rfl

theorem length_of_itemValues? {items : List Phrase} {values : List Json}
    (found : itemValues? items = some values) : values.length = items.length := by
  induction items generalizing values with
  | nil =>
    cases found
    rfl
  | cons item rest inductionHypothesis =>
    rw [itemValues?] at found
    obtain ⟨value, -, found⟩ := Option.bind_eq_some_iff.mp found
    obtain ⟨later, others, rfl⟩ := Option.map_eq_some_iff.mp found
    simp [inductionHypothesis others]

/-- A member stands for a name and a value. -/
def StandsFor (member : List Piece × Phrase) (value : Text × Json) : Prop :=
  Piece.text? member.1 = some value.1 ∧ member.2.value? = some value.2

/-- A name without escapes stands for itself. -/
theorem standsFor_named (name : String) {phrase : Phrase} {value : Json}
    (stands : phrase.value? = some value) : StandsFor (named name phrase) (name.toList, value) :=
  ⟨Piece.text?_map_char name.toList, stands⟩

theorem memberValues?_eq_some_iff
    {members : List (List Piece × Phrase)}
    {values : List (Text × Json)} :
    memberValues? members = some values ↔ List.Forall₂ StandsFor members values := by
  induction members generalizing values with
  | nil => rw [memberValues?, Option.some.injEq, List.forall₂_nil_left_iff, eq_comm]
  | cons member rest inductionHypothesis =>
    rw [memberValues?, List.forall₂_cons_left_iff]
    constructor
    · intro found
      obtain ⟨name, isName, found⟩ := Option.bind_eq_some_iff.mp found
      obtain ⟨value, isValue, found⟩ := Option.bind_eq_some_iff.mp found
      obtain ⟨later, others, rfl⟩ := Option.map_eq_some_iff.mp found
      exact ⟨_, _, ⟨isName, isValue⟩, inductionHypothesis.mp others, rfl⟩
    · rintro ⟨value, later, ⟨isName, isValue⟩, others, rfl⟩
      rw [isName, isValue, inductionHypothesis.mpr others]
      rfl

/-- The tokens of several items are those of the first, a comma and those of the others. -/
theorem map_tokens_items (item : Phrase) {rest : List Phrase} (others : rest ≠ []) :
    (itemValues? (item :: rest)).map itemTokens =
      (item.value?.map tokens).bind fun front =>
        (((itemValues? rest).map itemTokens).map (.comma :: ·)).map (front ++ ·) := by
  rw [itemValues?]
  cases item.value? with
  | none => rfl
  | some value =>
    cases found : itemValues? rest with
    | none => rfl
    | some values =>
      have nonempty : values ≠ [] := by
        rintro rfl
        exact others (List.length_eq_zero_iff.mp (length_of_itemValues? found).symm)
      simp [itemTokens_cons_of_ne_nil nonempty]

theorem map_tokens_members
    (name : List Piece)
    (phrase : Phrase)
    {rest : List (List Piece × Phrase)}
    (others : rest ≠ []) :
    (memberValues? ((name, phrase) :: rest)).map memberTokens =
      ((Piece.text? name).map fun name => [.string name]).bind fun label =>
        (((phrase.value?.map tokens).bind fun front =>
          (((memberValues? rest).map memberTokens).map (.comma :: ·)).map (front ++ ·)).map
            (.colon :: ·)).map (label ++ ·) := by
  rw [memberValues?]
  cases Piece.text? name with
  | none => rfl
  | some name =>
    cases phrase.value? with
    | none => rfl
    | some value =>
      cases found : memberValues? rest with
      | none => rfl
      | some values =>
        have nonempty : values ≠ [] := by
          rintro rfl
          exact others (List.length_eq_zero_iff.mp (memberValues?_eq_some_iff.mp found).length_eq)
        simp [memberTokens_cons_of_ne_nil nonempty]

end Phrase

open Phrase

mutual

/-- Each spelling of a phrase gives the tokens of its value, and none if it has no value. -/
theorem Written.gives {phrase : Phrase} {text : Text} (written : Written phrase text) :
    Token.Gives text (phrase.value?.map tokens) := by
  cases written with
  | null => exact Token.extends_word.gives rfl (List.all_eq_true.mp rfl) rfl
  | true => exact Token.extends_word.gives rfl (List.all_eq_true.mp rfl) rfl
  | false => exact Token.extends_word.gives rfl (List.all_eq_true.mp rfl) rfl
  | @number parts _ spelled =>
    have gives := spelled.gives
    rw [value?]
    cases stands : parts.value? with
    | none => rwa [stands] at gives
    | some value =>
      rw [stands] at gives
      rwa [Option.map_some, tokens_of_value? stands]
  | string spelled =>
    have gives := Token.gives_of_writtenString spelled
    simpa only [value?, Option.map_map, Function.comp_def, tokens] using gives
  | emptyArray blank => exact .cons rfl (.blank_append blank (.cons rfl .nil))
  | array items =>
    have opens : Token.ofPunctuation? '[' = some .openArray := rfl
    have closes : Token.ofPunctuation? ']' = some .closeArray := rfl
    have gives := (items.gives.concat closes).cons opens
    simpa only [value?, Option.map_map, Function.comp_def, tokens] using gives
  | emptyObject blank => exact .cons rfl (.blank_append blank (.cons rfl .nil))
  | object members =>
    have opens : Token.ofPunctuation? '\x7b' = some .openObject := rfl
    have closes : Token.ofPunctuation? '\x7d' = some .closeObject := rfl
    have gives := (members.gives.concat closes).cons opens
    simpa only [value?, Option.map_map, Function.comp_def, tokens] using gives

theorem WrittenItems.gives
    {items : List Phrase}
    {text : Text}
    (written : WrittenItems items text) :
    Token.Gives text ((itemValues? items).map itemTokens) := by
  cases written with
  | last item padded =>
    rw [map_tokens_item]
    exact item.gives.padded padded
  | more item padded later =>
    rw [map_tokens_items _ (List.cons_ne_nil _ _)]
    exact (item.gives.padded padded).append (Token.ends_cons_of_ofPunctuation? _ rfl)
      (later.gives.cons rfl)

theorem WrittenMembers.gives
    {members : List (List Piece × Phrase)}
    {text : Text}
    (written : WrittenMembers members text) :
    Token.Gives text ((memberValues? members).map memberTokens) := by
  cases written with
  | last name label phrase padded =>
    rw [map_tokens_member]
    exact ((Token.gives_of_writtenString name).padded label).append
      (Token.ends_cons_of_ofPunctuation? _ rfl) ((phrase.gives.padded padded).cons rfl)
  | more name label phrase padded later =>
    have comma : Token.ofPunctuation? ',' = some .comma := rfl
    have behind := (phrase.gives.padded padded).append
      (Token.ends_cons_of_ofPunctuation? _ comma) (later.gives.cons comma)
    rw [map_tokens_members _ _ (List.cons_ne_nil _ _)]
    exact ((Token.gives_of_writtenString name).padded label).append
      (Token.ends_cons_of_ofPunctuation? _ rfl) (behind.cons rfl)

end

/-! ## Nesting -/

mutual

/-- Number of arrays and objects inside one another in a value. -/
def depth : Json → Nat
  | .array items => itemDepth items + 1
  | .object members => memberDepth members + 1
  | _ => 0

/-- The greatest depth of the items of an array. -/
def itemDepth : List Json → Nat
  | [] => 0
  | item :: rest => max (depth item) (itemDepth rest)

/-- The greatest depth of the values of an object. -/
def memberDepth : List (Text × Json) → Nat
  | [] => 0
  | (_, value) :: rest => max (depth value) (memberDepth rest)

end

theorem depth_object_le_iff {members : List (Text × Json)} {bound : Nat} (positive : 0 < bound) :
    depth (.object members) ≤ bound ↔ ∀ member ∈ members, member.2.depth < bound := by
  induction members with
  | nil => exact iff_of_true positive (List.forall_mem_nil _)
  | cons member rest inductionHypothesis =>
    rw [List.forall_mem_cons, ← inductionHypothesis, depth, depth, memberDepth]
    omega

/-! ## From tokens to values -/

namespace Stage

/-- Where a document stands behind more tokens. -/
def run (stage : Stage) (tokens : List Token) : Option Stage :=
  tokens.foldlM step? stage

theorem run_append (stage : Stage) (front back : List Token) :
    stage.run (front ++ back) = (stage.run front).bind (·.run back) :=
  List.foldlM_append

theorem run_cons (stage : Stage) (token : Token) (tokens : List Token) :
    stage.run (token :: tokens) = (stage.step? token).bind (·.run tokens) :=
  List.foldlM_cons

@[simp] theorem run_nil (stage : Stage) : stage.run [] = some stage := rfl

/-- The number of arrays and objects that may still be opened inside the frames. -/
def room (frames : List Frame) : Nat :=
  maxDepth - frames.length

theorem room_cons (frame : Frame) (frames : List Frame) :
    room (frame :: frames) = room frames - 1 :=
  Nat.sub_add_eq _ _ _

/-- The stage behind something with a depth, if there is room for it. -/
def within (room depth : Nat) (stage : Stage) : Option Stage :=
  if depth ≤ room then some stage else none

@[simp] theorem within_zero (room : Nat) (stage : Stage) : within room 0 stage = some stage :=
  if_pos (Nat.zero_le room)

/-- There is room for two parts if there is room for each. -/
theorem within_bind_run
    {stage next : Stage}
    {later : List Token}
    {firstRoom first secondRoom second room depth : Nat}
    (go : stage.run later = within secondRoom second next)
    (fits : depth ≤ room ↔ first ≤ firstRoom ∧ second ≤ secondRoom) :
    (within firstRoom first stage).bind (·.run later) = within room depth next := by
  unfold within at go ⊢
  by_cases enough : first ≤ firstRoom
  · rw [if_pos enough, Option.bind_some, go]
    simp only [fits, enough, true_and]
  · rw [if_neg enough, if_neg fun whole => enough (fits.mp whole).1, Option.bind_none]

end Stage

open Stage

/-- The first token of a value closes nothing. -/
theorem exists_tokens_cons (json : Json) :
    ∃ first later, json.tokens = first :: later ∧ first ≠ .closeArray := by
  cases json <;> exact ⟨_, _, rfl, by simp⟩

theorem itemTokens_cons (item : Json) (rest : List Json) :
    ∃ later, itemTokens (item :: rest) = item.tokens ++ later := by
  cases rest with
  | nil => exact ⟨[], (List.append_nil _).symm⟩
  | cons next rest => exact ⟨_, rfl⟩

/-- The first item of an array is read like any other value. -/
theorem run_firstItem (item : Json) (rest : List Json) (later : List Token) (frames : List Frame) :
    (Stage.firstItem frames).run (itemTokens (item :: rest) ++ later) =
      (Stage.valueDue (.array [] :: frames)).run (itemTokens (item :: rest) ++ later) := by
  obtain ⟨behind, items⟩ := itemTokens_cons item rest
  obtain ⟨first, others, tokens, opens⟩ := exists_tokens_cons item
  have same : (Stage.firstItem frames).step? first =
      (Stage.valueDue (.array [] :: frames)).step? first := by
    cases first <;> first | rfl | exact absurd rfl opens
  rw [items, tokens, List.append_assoc, List.cons_append, run_cons, run_cons, same]

/-- The first member of an object is read like any other one. -/
theorem run_firstName
    (member : Text × Json)
    (rest : List (Text × Json))
    (later : List Token)
    (frames : List Frame) :
    (Stage.firstName frames).run (memberTokens (member :: rest) ++ later) =
      (Stage.nameDue [] frames).run (memberTokens (member :: rest) ++ later) := by
  cases rest <;> rfl

/-- An array or object may be opened if there is room for it. -/
theorem opens_within (frames : List Frame) (stage : Stage) :
    (if frames.length < maxDepth then some stage else none) = within (room frames) 1 stage := by
  have bound : frames.length < maxDepth ↔ 1 ≤ room frames := by
    unfold room
    omega
  simp only [within, bound]

mutual

/-- The tokens of a value put it where a value is due, if there is room for it. -/
theorem run_tokens (json : Json) (frames : List Frame) :
    (Stage.valueDue frames).run json.tokens =
      within (room frames) json.depth (place json frames) := by
  cases json with
  | null => exact (within_zero _ _).symm
  | bool value => exact (within_zero _ _).symm
  | integer value => exact (within_zero _ _).symm
  | double value => exact (within_zero _ _).symm
  | string text => exact (within_zero _ _).symm
  | array items =>
    -- The bracket takes one place of the room, and its items have what is left.
    have opened : (Stage.valueDue frames).step? .openArray =
        within (room frames) 1 (.firstItem frames) := opens_within frames _
    have inside : (Stage.firstItem frames).run (itemTokens items ++ [.closeArray]) =
        within (room frames - 1) (itemDepth items) (place (.array items) frames) := by
      cases items with
      | nil => exact (within_zero _ _).symm
      | cons item rest =>
        have closes : (Stage.afterItem ((item :: rest).reverse ++ []) frames).run [.closeArray] =
            within (room frames - 1) 0 (place (.array (item :: rest)) frames) := by
          rw [List.append_nil, within_zero, run_cons, step?, List.reverse_reverse]
          rfl
        rw [run_firstItem, run_append, run_itemTokens (item :: rest) (by simp) [] frames]
        exact within_bind_run closes (by omega)
    rw [tokens, run_cons, opened]
    exact within_bind_run inside (by rw [depth]; omega)
  | object members =>
    have opened : (Stage.valueDue frames).step? .openObject =
        within (room frames) 1 (.firstName frames) := opens_within frames _
    have inside : (Stage.firstName frames).run (memberTokens members ++ [.closeObject]) =
        within (room frames - 1) (memberDepth members) (place (.object members) frames) := by
      cases members with
      | nil => exact (within_zero _ _).symm
      | cons member rest =>
        have closes :
            (Stage.afterMember ((member :: rest).reverse ++ []) frames).run [.closeObject] =
              within (room frames - 1) 0 (place (.object (member :: rest)) frames) := by
          rw [List.append_nil, within_zero, run_cons, step?, List.reverse_reverse]
          rfl
        rw [run_firstName, run_append, run_memberTokens (member :: rest) (by simp) [] frames]
        exact within_bind_run closes (by omega)
    rw [tokens, run_cons, opened]
    exact within_bind_run inside (by rw [depth]; omega)

/-- The tokens of items join them to those that an array already has. -/
theorem run_itemTokens
    (items : List Json)
    (nonempty : items ≠ [])
    (reversed : List Json)
    (frames : List Frame) :
    (Stage.valueDue (.array reversed :: frames)).run (itemTokens items) =
      within (room frames - 1) (itemDepth items)
        (.afterItem (items.reverse ++ reversed) frames) := by
  cases items with
  | nil => exact absurd rfl nonempty
  | cons item rest =>
    have first := run_tokens item (.array reversed :: frames)
    rw [room_cons] at first
    cases rest with
    | nil =>
      rw [itemTokens, first, itemDepth, itemDepth, Nat.max_zero]
      rfl
    | cons next rest =>
      have later : (Stage.afterItem (item :: reversed) frames).run
          (.comma :: itemTokens (next :: rest)) =
            within (room frames - 1) (itemDepth (next :: rest))
              (.afterItem ((next :: rest).reverse ++ item :: reversed) frames) :=
        run_itemTokens (next :: rest) (by simp) (item :: reversed) frames
      rw [itemTokens, run_append, first, List.reverse_cons, List.append_assoc]
      exact within_bind_run later (by rw [itemDepth]; omega)

/-- The tokens of members join them to those that an object already has. -/
theorem run_memberTokens
    (members : List (Text × Json))
    (nonempty : members ≠ [])
    (reversed : List (Text × Json))
    (frames : List Frame) :
    (Stage.nameDue reversed frames).run (memberTokens members) =
      within (room frames - 1) (memberDepth members)
        (.afterMember (members.reverse ++ reversed) frames) := by
  cases members with
  | nil => exact absurd rfl nonempty
  | cons member rest =>
    obtain ⟨name, value⟩ := member
    have first := run_tokens value (.object reversed name :: frames)
    rw [room_cons] at first
    cases rest with
    | nil =>
      rw [memberTokens, memberDepth, memberDepth, Nat.max_zero]
      exact first
    | cons next rest =>
      have later : (Stage.afterMember ((name, value) :: reversed) frames).run
          (.comma :: memberTokens (next :: rest)) =
            within (room frames - 1) (memberDepth (next :: rest))
              (.afterMember ((next :: rest).reverse ++ (name, value) :: reversed) frames) :=
        run_memberTokens (next :: rest) (by simp) ((name, value) :: reversed) frames
      have labelled (tokens : List Token) :
          (Stage.nameDue reversed frames).run (.string name :: .colon :: tokens) =
            (Stage.valueDue (.object reversed name :: frames)).run tokens := rfl
      rw [memberTokens, labelled, run_append, first, List.reverse_cons, List.append_assoc]
      exact within_bind_run later (by rw [memberDepth]; omega)

end

/-! ## Documents -/

/-- The value of a phrase as a whole document, which may be nested only so deep. -/
def Phrase.document? (phrase : Phrase) : Option Json :=
  phrase.value?.filter fun json => json.depth ≤ Stage.maxDepth

namespace Phrase

theorem document?_object_eq_some_iff {members : List (List Piece × Phrase)} {json : Json} :
    (object members).document? = some json ↔
      ∃ values, json = .object values ∧ List.Forall₂ StandsFor members values ∧
        ∀ value ∈ values, value.2.depth < Stage.maxDepth := by
  have positive : 0 < Stage.maxDepth := by decide
  rw [document?, Option.filter_eq_some_iff, value?, Option.map_eq_some_iff, decide_eq_true_eq]
  constructor
  · rintro ⟨⟨values, found, rfl⟩, fits⟩
    exact ⟨values, rfl, memberValues?_eq_some_iff.mp found, (depth_object_le_iff positive).mp fits⟩
  · rintro ⟨values, rfl, stand, fit⟩
    exact ⟨⟨values, memberValues?_eq_some_iff.mpr stand, rfl⟩,
      (depth_object_le_iff positive).mpr fit⟩

/-- A member without a value, or with one that is nested too deep, leaves none to the whole object,
whatever its name and wherever it stands. -/
theorem document?_object_of_mem
    {members : List (List Piece × Phrase)}
    {member : List Piece × Phrase}
    (isMember : member ∈ members)
    (beyond : ∀ json, member.2.value? = some json → Stage.maxDepth ≤ json.depth) :
    (object members).document? = none := by
  refine Option.eq_none_iff_forall_ne_some.mpr fun json found => ?_
  obtain ⟨values, -, stand, fit⟩ := document?_object_eq_some_iff.mp found
  obtain ⟨index, inside, rfl⟩ := List.getElem_of_mem isMember
  have among : index < values.length := stand.length_eq ▸ inside
  have deep := beyond values[index].2 (stand.get inside among).2
  exact Nat.not_lt.mpr deep (fit values[index] (List.getElem_mem among))

/-- In another order the members have the same values in that order, or again none. -/
theorem document?_object_of_perm
    {members other : List (List Piece × Phrase)}
    {values : List (Text × Json)}
    (permuted : members.Perm other)
    (found : (object members).document? = some (.object values)) :
    ∃ rearranged, (object other).document? = some (.object rearranged) ∧
      values.Perm rearranged := by
  obtain ⟨_, ⟨rfl⟩, stand, fit⟩ := document?_object_eq_some_iff.mp found
  obtain ⟨rearranged, standOther, same⟩ := List.perm_comp_forall₂ permuted.symm stand
  refine ⟨rearranged, document?_object_eq_some_iff.mpr ⟨rearranged, rfl, standOther, ?_⟩, same.symm⟩
  exact fun value member => fit value (same.subset member)

end Phrase

/-! ### Arrays inside one another -/

/-- A phrase inside so many arrays. -/
def Phrase.inArrays (phrase : Phrase) : Nat → Phrase
  | 0 => phrase
  | count + 1 => .array [phrase.inArrays count]

/-- A text inside so many pairs of brackets. -/
def inBrackets (text : Text) : Nat → Text
  | 0 => text
  | count + 1 => '[' :: (inBrackets text count ++ [']'])

theorem Written.inArrays {phrase : Phrase} {text : Text} (written : Written phrase text)
    (count : Nat) : Written (phrase.inArrays count) (inBrackets text count) := by
  induction count with
  | zero => exact written
  | succ count inductionHypothesis => exact .array (.last inductionHypothesis (padded_self _))

theorem Phrase.le_depth_of_inArrays
    (phrase : Phrase)
    (count : Nat)
    {json : Json}
    (stands : (phrase.inArrays count).value? = some json) :
    count ≤ json.depth := by
  induction count generalizing json with
  | zero => exact Nat.zero_le _
  | succ count inductionHypothesis =>
    rw [inArrays, value?, itemValues?] at stands
    obtain ⟨items, found, rfl⟩ := Option.map_eq_some_iff.mp stands
    obtain ⟨item, isItem, found⟩ := Option.bind_eq_some_iff.mp found
    obtain ⟨_, ⟨rfl⟩, rfl⟩ := Option.map_eq_some_iff.mp found
    have inner := inductionHypothesis isItem
    rw [depth, itemDepth, itemDepth]
    omega

/-! ### Reading a document -/

/-- A document is read as the value of the phrase that it spells. -/
theorem WrittenDocument.ofText?_eq
    {phrase : Phrase}
    {document : Text}
    (written : WrittenDocument phrase document) :
    ofText? document = phrase.document? := by
  obtain ⟨spelled, padded⟩ := written
  have found : Token.sequenceFrom? .nothing document = phrase.value?.map tokens := by
    have gives := (spelled.gives.padded padded) [] (by simp [Token.Ends])
    rw [List.append_nil] at gives
    simpa [Token.sequenceFrom?, Token.finish?] using gives
  have placed (json : Json) : json.tokens.foldlM Stage.step? (.valueDue []) =
      within Stage.maxDepth json.depth (.complete json) := run_tokens json []
  rw [ofText?, Token.sequence?, found, Phrase.document?]
  cases phrase.value? with
  | none => rfl
  | some json =>
    show (json.tokens.foldlM Stage.step? (.valueDue [])).bind _ = _
    rw [placed, within, Option.filter_some]
    split <;> simp_all

end Json
end SqlDump
