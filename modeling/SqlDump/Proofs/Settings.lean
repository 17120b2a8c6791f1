import Mathlib.Data.List.Nodup
import SqlDump.Config
import SqlDump.Proofs.Decoding
import SqlDump.Proofs.JsonDocuments

/-!
# The settings a document gives

The configuration of a load is read off the last member of each name.  What those members say is
stated here without reference to how they are looked up, and every document that spells them within
the limits of the reader gives that configuration: other members, earlier members of the same name
and the order of members with different names do not matter.  They matter only for the limits, which
hold for the whole document.
-/

namespace SqlDump
namespace Json

/-! ## The last member of a name -/

/-- No member has a name. -/
def Lacks (name : String) (members : List (Text × Json)) : Prop :=
  ∀ member ∈ members, member.1 ≠ name.toList

/-- The last member with a name has a value. -/
inductive IsLast (name : String) (value : Json) : List (Text × Json) → Prop
  /-- No member behind it has the name. -/
  | intro (front : List (Text × Json)) {back : List (Text × Json)} :
      Lacks name back →
      IsLast name value (front ++ (name.toList, value) :: back)

/-- A member of another name anywhere changes nothing. -/
theorem member?_append_cons_of_ne
    {name other : Text}
    (different : name ≠ other)
    (front back : List (Text × Json))
    (value : Json) :
    member? name (front ++ (other, value) :: back) = member? name (front ++ back) := by
  rw [member?_append, member?_append, member?_cons, if_neg different, Option.or_none]

/-- A value may be replaced by one that is read alike. -/
theorem map_member?_append_cons
    {α : Type}
    {read? : Json → Option α}
    {value other : Json}
    (alike : read? value = read? other)
    (name : Text)
    (front back : List (Text × Json)) :
    (member? name (front ++ (name, value) :: back)).map read? =
      (member? name (front ++ (name, other) :: back)).map read? := by
  simp only [member?_append, member?_cons, if_true]
  cases member? name back with
  | some last => rfl
  | none => simp [alike]

theorem member?_eq_none_iff {name : String} {members : List (Text × Json)} :
    member? name.toList members = none ↔ Lacks name members := by
  induction members with
  | nil => simp [Lacks]
  | cons member rest inductionHypothesis =>
    rw [member?_cons, Option.or_eq_none_iff, inductionHypothesis, Lacks, Lacks,
      List.forall_mem_cons, ite_eq_right_iff, and_comm]
    simp [eq_comm]

theorem member?_eq_some_iff {name : String} {value : Json} {members : List (Text × Json)} :
    member? name.toList members = some value ↔ IsLast name value members := by
  constructor
  · intro found
    induction members with
    | nil => cases found
    | cons member rest inductionHypothesis =>
      rw [member?_cons] at found
      cases later : member? name.toList rest with
      | some other =>
        rw [later] at found inductionHypothesis
        obtain ⟨front, lacks⟩ := inductionHypothesis found
        exact .intro (member :: front) lacks
      | none =>
        rw [later, Option.none_or, Option.ite_none_right_eq_some, Option.some.injEq] at found
        obtain ⟨same, rfl⟩ := found
        have last : IsLast name member.2 ([] ++ (name.toList, member.2) :: rest) :=
          .intro [] (member?_eq_none_iff.mp later)
        rwa [List.nil_append, same] at last
  · rintro ⟨front, lacks⟩
    rw [member?_append, member?_cons, member?_eq_none_iff.mpr lacks]
    simp

/-! ## Rearranging members -/

/-- The members in another order, where members of one name keep theirs, and with or without
members of other names than the known ones. -/
inductive Rearranged (known : List String) :
    List (Text × Json) → List (Text × Json) → Prop
  /-- Neighbours with different names change places. -/
  | swap
      (front back : List (Text × Json))
      {first second : Text × Json} :
      first.1 ≠ second.1 →
      Rearranged known (front ++ first :: second :: back) (front ++ second :: first :: back)
  /-- A member of an unknown name comes in. -/
  | insert
      (front back : List (Text × Json))
      {name : Text}
      (value : Json) :
      (∀ other ∈ known, name ≠ other.toList) →
      Rearranged known (front ++ back) (front ++ (name, value) :: back)
  /-- Nothing changes. -/
  | refl (members : List (Text × Json)) : Rearranged known members members
  /-- A change is taken back. -/
  | symm {members other : List (Text × Json)} :
      Rearranged known members other → Rearranged known other members
  /-- One change follows another. -/
  | trans {members next other : List (Text × Json)} :
      Rearranged known members next → Rearranged known next other →
        Rearranged known members other

namespace Rearranged

variable {known : List String} {members other : List (Text × Json)}

/-- Known names have the same last member. -/
theorem member?_eq
    (rearranged : Rearranged known members other)
    {name : String}
    (isKnown : name ∈ known) :
    member? name.toList members = member? name.toList other := by
  induction rearranged with
  | @swap front back first second different =>
    simp only [member?_append, member?_cons]
    congr 1
    split <;> split <;> simp_all
  | insert front back value unknown =>
    exact (member?_append_cons_of_ne (unknown name isKnown).symm front back value).symm
  | refl members => rfl
  | symm _ inductionHypothesis => exact inductionHypothesis.symm
  | trans _ _ first second => exact first.trans second

theorem cons (rearranged : Rearranged known members other) (member : Text × Json) :
    Rearranged known (member :: members) (member :: other) := by
  induction rearranged with
  | swap front back different => exact .swap (member :: front) back different
  | insert front back value unknown => exact .insert (member :: front) back value unknown
  | refl members => exact .refl _
  | symm _ inductionHypothesis => exact inductionHypothesis.symm
  | trans _ _ first second => exact first.trans second

/-- Members whose names all differ may come in any order. -/
theorem of_perm
    (permuted : members.Perm other)
    (distinct : (members.map Prod.fst).Nodup) :
    Rearranged known members other := by
  induction permuted with
  | nil => exact .refl _
  | cons member _ inductionHypothesis =>
    exact (inductionHypothesis (List.nodup_cons.mp distinct).2).cons member
  | swap first second rest =>
    refine .swap [] rest ?_
    intro same
    exact (List.nodup_cons.mp distinct).1 (by simp [same])
  | trans first _ firstHypothesis secondHypothesis =>
    exact (firstHypothesis distinct).trans
      (secondHypothesis ((first.map Prod.fst).nodup_iff.mp distinct))

end Rearranged

end Json

namespace Config

open Json

/-! ## What the members of an object say -/

/-- A size: an integer without sign of at most 64 bits. -/
inductive IsSize : Json → Nat → Prop
  /-- An integer in range. -/
  | intro {size : Nat} : size ≤ 18446744073709551615 → IsSize (.integer size) size

/-- A truth value. -/
inductive IsTruth : Json → Bool → Prop
  /-- Any truth value. -/
  | intro {truth : Bool} : IsTruth (.bool truth) truth

/-- A text. -/
inductive IsText : Json → Text → Prop
  /-- Any string. -/
  | intro {text : Text} : IsText (.string text) text

/-- The value of the setting with a name. -/
inductive Gives {α : Type} (reads : Json → α → Prop) (default : α) (name : String)
    (members : List (Text × Json)) : α → Prop
  /-- The last member with the name says so. -/
  | last {json : Json} {value : α} :
      IsLast name json members → reads json value → Gives reads default name members value
  /-- There is no such member, and the default remains. -/
  | absent : Lacks name members → Gives reads default name members default

/-- The limits on strings that a value gives. -/
inductive IsPolicy : Json → LargeTextPolicy → Prop
  /-- An object names the limits. -/
  | object {members : List (Text × Json)} {policy : LargeTextPolicy} :
      Gives IsSize 4000 "max_inline_bytes" members policy.maxBytes →
      Gives IsSize 2000 "max_inline_chars" members policy.maxChars →
      IsPolicy (.object members) policy
  /-- An empty array leaves both as they are. -/
  | none : IsPolicy (.array []) { maxBytes := 4000, maxChars := 2000 }
  /-- A single size limits the bytes. -/
  | bytes {json : Json} {maxBytes : Nat} :
      IsSize json maxBytes → IsPolicy (.array [json]) { maxBytes, maxChars := 2000 }
  /-- Two sizes limit bytes and characters. -/
  | both {first second : Json} {maxBytes maxChars : Nat} :
      IsSize first maxBytes → IsSize second maxChars →
        IsPolicy (.array [first, second]) { maxBytes, maxChars }

/-- The configuration that the members of an object give. -/
structure IsGivenBy (config : Config) (members : List (Text × Json)) : Prop where
  /-- How many statements are executed together. -/
  batchSize : Gives IsSize 500 "batch_size" members config.batchSize
  /-- Whether a column is removed. -/
  ignoreKey : Gives IsTruth false "ignore_pk" members config.ignoreKey
  /-- The column to remove. -/
  keyName : Gives IsText "WCSID".toList "pk_name" members config.keyName
  /-- Whether failures are counted. -/
  continueOnError : Gives IsTruth false "continue_on_error" members config.continueOnError
  /-- How many bytes are read at a time. -/
  chunkSize : Gives IsSize 32768 "chunk_size" members config.chunkSize
  /-- The limits on strings. -/
  largeText : Gives IsPolicy { maxBytes := 4000, maxChars := 2000 } "large_literal" members
    config.largeText

/-- The last member of a name, if there is one, has a value of the right type. -/
def IsTyped {α : Type} (reads : Json → α → Prop) (name : String)
    (members : List (Text × Json)) : Prop :=
  ∀ json, IsLast name json members → ∃ value, reads json value

/-- The last members of the names of settings have values of the right types. -/
structure WellTyped (members : List (Text × Json)) : Prop where
  /-- The number of statements is a size. -/
  batchSize : IsTyped IsSize "batch_size" members
  /-- Whether a column is removed is a truth value. -/
  ignoreKey : IsTyped IsTruth "ignore_pk" members
  /-- The column to remove is a text. -/
  keyName : IsTyped IsText "pk_name" members
  /-- Whether failures are counted is a truth value. -/
  continueOnError : IsTyped IsTruth "continue_on_error" members
  /-- The number of bytes is a size. -/
  chunkSize : IsTyped IsSize "chunk_size" members
  /-- The limits are an object or an array that gives limits. -/
  largeText : IsTyped IsPolicy "large_literal" members

/-- Whether a load can use a configuration. -/
def IsUsable (config : Config) : Prop :=
  1 ≤ config.batchSize ∧ 1 ≤ config.chunkSize ∧
    ((∃ char ∈ config.keyName, Unicode.isWhiteSpace char = false) ∨ config.ignoreKey = false)

/-! ## Reading settings -/

theorem size?_eq_some_iff (json : Json) (size : Nat) :
    size? json = some size ↔ IsSize json size := by
  constructor
  · intro read
    unfold size? at read
    split at read
    · rename_i value
      obtain ⟨⟨positive, fits⟩, rfl⟩ := Option.ite_none_right_eq_some.mp read |>.imp_right
        Option.some.inj
      obtain ⟨size, rfl⟩ := Int.eq_ofNat_of_zero_le positive
      exact .intro (by omega)
    · cases read
  · rintro ⟨fits⟩
    simp only [size?]
    rw [if_pos ⟨by omega, by omega⟩]
    rfl

theorem bool?_eq_some_iff (json : Json) (truth : Bool) :
    bool? json = some truth ↔ IsTruth json truth := by
  constructor
  · intro read
    unfold bool? at read
    split at read
    · cases read
      exact .intro
    · cases read
  · rintro ⟨⟩
    rfl

theorem text?_eq_some_iff (json : Json) (text : Text) :
    text? json = some text ↔ IsText json text := by
  constructor
  · intro read
    unfold text? at read
    split at read
    · cases read
      exact .intro
    · cases read
  · rintro ⟨⟩
    rfl

/-- A setting is read as the value that the members give it. -/
theorem setting_eq_ok_iff
    {α : Type}
    {read? : Json → Option α}
    {reads : Json → α → Prop}
    (agrees : ∀ json value, read? json = some value ↔ reads json value)
    (default : α)
    (name : String)
    (members : List (Text × Json))
    (value : α) :
    setting read? default name members = .ok value ↔ Gives reads default name members value := by
  constructor
  · intro found
    unfold setting at found
    split at found
    · rename_i absent
      cases found
      exact .absent (member?_eq_none_iff.mp absent)
    · rename_i json last
      split at found
      · rename_i read
        cases found
        exact .last (member?_eq_some_iff.mp last) ((agrees json _).mp read)
      · cases found
  · rintro (⟨last, given⟩ | lacks)
    · rw [setting, member?_eq_some_iff.mpr last]
      simp only [(agrees _ _).mpr given]
    · rw [setting, member?_eq_none_iff.mpr lacks]

theorem policy?_eq_some_iff (json : Json) (policy : LargeTextPolicy) :
    policy? json = some policy ↔ IsPolicy json policy := by
  constructor
  · intro read
    unfold policy? at read
    split at read
    · rename_i members
      dsimp only at read
      split at read
      · rename_i maxBytes maxChars bytes chars
        cases read
        exact .object ((setting_eq_ok_iff size?_eq_some_iff ..).mp bytes)
          ((setting_eq_ok_iff size?_eq_some_iff ..).mp chars)
      · cases read
    · cases read
      exact .none
    · obtain ⟨maxBytes, bytes, rfl⟩ := Option.map_eq_some_iff.mp read
      exact .bytes ((size?_eq_some_iff ..).mp bytes)
    · obtain ⟨maxBytes, bytes, rest⟩ := Option.bind_eq_some_iff.mp read
      obtain ⟨maxChars, chars, rfl⟩ := Option.map_eq_some_iff.mp rest
      exact .both ((size?_eq_some_iff ..).mp bytes) ((size?_eq_some_iff ..).mp chars)
    · cases read
  · intro given
    cases given with
    | object bytes chars =>
      have readBytes := (setting_eq_ok_iff size?_eq_some_iff ..).mpr bytes
      have readChars := (setting_eq_ok_iff size?_eq_some_iff ..).mpr chars
      simp only [policy?, readBytes, readChars]
    | none => rfl
    | bytes size => simp only [policy?, (size?_eq_some_iff ..).mpr size, Option.map_some]
    | both first second =>
      simp only [policy?, (size?_eq_some_iff ..).mpr first, (size?_eq_some_iff ..).mpr second,
        Option.bind_some, Option.map_some]

theorem bind_eq_ok_iff
    {ε α β : Type}
    {first : Except ε α}
    {next : α → Except ε β}
    {result : β} :
    first >>= next = .ok result ↔ ∃ value, first = .ok value ∧ next value = .ok result := by
  cases first with
  | error failure => exact ⟨fun found => (by cases found), fun ⟨_, found, _⟩ => (by cases found)⟩
  | ok value =>
    refine ⟨fun found => ⟨value, rfl, found⟩, ?_⟩
    rintro ⟨_, ⟨rfl⟩, found⟩
    exact found

/-- The configuration that is read off the members is the one they give. -/
theorem ofMembers_eq_ok_iff (members : List (Text × Json)) (config : Config) :
    ofMembers members = .ok config ↔ config.IsGivenBy members := by
  simp only [ofMembers, bind_eq_ok_iff, setting_eq_ok_iff size?_eq_some_iff,
    setting_eq_ok_iff bool?_eq_some_iff, setting_eq_ok_iff text?_eq_some_iff,
    setting_eq_ok_iff policy?_eq_some_iff]
  constructor
  · rintro ⟨_, batchSize, _, ignoreKey, _, keyName, _, continueOnError, _, chunkSize, _, largeText,
      ⟨rfl⟩⟩
    exact ⟨batchSize, ignoreKey, keyName, continueOnError, chunkSize, largeText⟩
  · rintro ⟨batchSize, ignoreKey, keyName, continueOnError, chunkSize, largeText⟩
    exact ⟨_, batchSize, _, ignoreKey, _, keyName, _, continueOnError, _, chunkSize, _, largeText,
      rfl⟩

theorem IsTyped.exists_gives
    {α : Type}
    {reads : Json → α → Prop}
    {name : String}
    {members : List (Text × Json)}
    (typed : IsTyped reads name members)
    (default : α) :
    ∃ value, Gives reads default name members value := by
  cases found : member? name.toList members with
  | none => exact ⟨default, .absent (member?_eq_none_iff.mp found)⟩
  | some json =>
    have last := member?_eq_some_iff.mp found
    obtain ⟨value, read⟩ := typed json last
    exact ⟨value, .last last read⟩

/-- A setting that has a value is of the right type. -/
theorem Gives.isTyped
    {α : Type}
    {reads : Json → α → Prop}
    {default value : α}
    {name : String}
    {members : List (Text × Json)}
    (gives : Gives reads default name members value) :
    IsTyped reads name members := by
  intro json last
  have found := member?_eq_some_iff.mpr last
  cases gives with
  | last other read =>
    obtain rfl := Option.some.inj (found.symm.trans (member?_eq_some_iff.mpr other))
    exact ⟨value, read⟩
  | absent lacks => cases found.symm.trans (member?_eq_none_iff.mpr lacks)

theorem IsGivenBy.wellTyped
    {config : Config}
    {members : List (Text × Json)}
    (given : config.IsGivenBy members) :
    WellTyped members :=
  ⟨given.batchSize.isTyped, given.ignoreKey.isTyped, given.keyName.isTyped,
    given.continueOnError.isTyped, given.chunkSize.isTyped, given.largeText.isTyped⟩

/-- Members of the right types give a configuration. -/
theorem WellTyped.exists_isGivenBy {members : List (Text × Json)} (typed : WellTyped members) :
    ∃ config : Config, config.IsGivenBy members := by
  obtain ⟨batchSize, givesBatchSize⟩ := typed.batchSize.exists_gives 500
  obtain ⟨ignoreKey, givesIgnoreKey⟩ := typed.ignoreKey.exists_gives false
  obtain ⟨keyName, givesKeyName⟩ := typed.keyName.exists_gives "WCSID".toList
  obtain ⟨continueOnError, givesContinue⟩ := typed.continueOnError.exists_gives false
  obtain ⟨chunkSize, givesChunkSize⟩ := typed.chunkSize.exists_gives 32768
  obtain ⟨largeText, givesLargeText⟩ :=
    typed.largeText.exists_gives { maxBytes := 4000, maxChars := 2000 }
  exact ⟨{ batchSize, ignoreKey, keyName, continueOnError, chunkSize, largeText }, givesBatchSize,
    givesIgnoreKey, givesKeyName, givesContinue, givesChunkSize, givesLargeText⟩

/-! ## Using a configuration -/

theorem isBlank_eq_false_iff (text : Text) :
    text.isBlank = false ↔ ∃ char ∈ text, Unicode.isWhiteSpace char = false :=
  List.all_eq_false.trans (by simp)

/-- Exactly the usable configurations pass. -/
theorem validate_of_isUsable {config : Config} (usable : config.IsUsable) :
    config.validate = .ok config := by
  obtain ⟨batchSize, chunkSize, keyName⟩ := usable
  have named : ¬ (config.ignoreKey ∧ config.keyName.isBlank) := by
    rintro ⟨ignored, blank⟩
    rcases keyName with solid | kept
    · exact Bool.false_ne_true (((isBlank_eq_false_iff _).mpr solid).symm.trans blank)
    · exact Bool.false_ne_true (kept.symm.trans ignored)
  rw [validate, if_neg (by omega), if_neg (by omega), if_neg named]

theorem validate_of_not_isUsable {config : Config} (unusable : ¬ config.IsUsable) :
    ∃ expected got, config.validate = .error (.invalid expected got) := by
  unfold validate
  split
  · exact ⟨_, _, rfl⟩
  split
  · exact ⟨_, _, rfl⟩
  split
  · exact ⟨_, _, rfl⟩
  · rename_i batchSize chunkSize named
    refine absurd ⟨by omega, by omega, ?_⟩ unusable
    rw [← isBlank_eq_false_iff]
    cases blank : config.keyName.isBlank with
    | false => exact .inl rfl
    | true =>
      refine .inr (Bool.eq_false_iff.mpr fun ignored => named ⟨ignored, blank⟩)

/-! ## Loading a document -/

theorem ofBytes_encode_eq (document : Text) :
    ofBytes (Utf8.encode document) = ofDocument document := by
  have decoded : Utf8.decode? (Utf8.encode document) = some document := by
    rw [Utf8.decode?, Utf8.decode_encode]
  rw [ofBytes, decoded]

theorem ofBytes_encode
    {phrase : Phrase}
    {document : Text}
    (written : WrittenDocument phrase document) :
    ofBytes (Utf8.encode document) = phrase.document?.elim (.error .malformed) ofJson := by
  rw [ofBytes_encode_eq, ofDocument, written.ofText?_eq]
  cases phrase.document? <;> rfl

/-- A member beyond the limits spoils the whole document, whatever its name and whether or not a
later member has the same one. -/
theorem ofBytes_of_mem_of_beyond
    {members : List (List Piece × Phrase)}
    {document : Text}
    {member : List Piece × Phrase}
    (written : WrittenDocument (.object members) document)
    (isMember : member ∈ members)
    (beyond : ∀ json, member.2.value? = some json → Stage.maxDepth ≤ json.depth) :
    ofBytes (Utf8.encode document) = .error .malformed := by
  rw [ofBytes_encode written, Phrase.document?_object_of_mem isMember beyond]
  rfl

/-- The names of settings. -/
def settingNames : List String :=
  ["batch_size", "ignore_pk", "pk_name", "continue_on_error", "chunk_size", "large_literal"]

/-- The names of limits on strings. -/
def limitNames : List String :=
  ["max_inline_bytes", "max_inline_chars"]

/-- The members are rearranged, or those inside the limits on strings are. -/
inductive Rearranged : List (Text × Json) → List (Text × Json) → Prop
  /-- The members themselves. -/
  | settings {members other : List (Text × Json)} :
      Json.Rearranged settingNames members other → Rearranged members other
  /-- The members inside the limits. -/
  | limits (front back : List (Text × Json)) {members other : List (Text × Json)} :
      Json.Rearranged limitNames members other →
      Rearranged (front ++ ("large_literal".toList, .object members) :: back)
        (front ++ ("large_literal".toList, .object other) :: back)

/-- A setting depends on what its last member is read as. -/
theorem setting_congr
    {α : Type}
    {read? : Json → Option α}
    {name : String}
    {members other : List (Text × Json)}
    (same : (member? name.toList members).map read? = (member? name.toList other).map read?)
    (default : α) :
    setting read? default name members = setting read? default name other := by
  unfold setting
  cases first : member? name.toList members <;> cases second : member? name.toList other
  · rfl
  · rw [first, second] at same
    cases same
  · rw [first, second] at same
    cases same
  · rw [first, second] at same
    simp only [Option.some.inj same]

/-- The limits may be rearranged. -/
theorem policy?_object_eq {members other : List (Text × Json)}
    (rearranged : Json.Rearranged limitNames members other) :
    policy? (.object members) = policy? (.object other) := by
  have bytes := congrArg (Option.map size?)
    (rearranged.member?_eq (show "max_inline_bytes" ∈ limitNames by decide))
  have chars := congrArg (Option.map size?)
    (rearranged.member?_eq (show "max_inline_chars" ∈ limitNames by decide))
  simp only [policy?, setting_congr bytes, setting_congr chars]

/-- A configuration depends on what the last members of its settings are read as. -/
theorem ofMembers_congr
    {members other : List (Text × Json)}
    (same : ∀ name ∈ settingNames, name ≠ "large_literal" →
      member? name.toList members = member? name.toList other)
    (limits : (member? "large_literal".toList members).map policy? =
      (member? "large_literal".toList other).map policy?) :
    ofMembers members = ofMembers other := by
  have batchSize := congrArg (Option.map size?) (same "batch_size" (by decide) (by decide))
  have ignoreKey := congrArg (Option.map bool?) (same "ignore_pk" (by decide) (by decide))
  have keyName := congrArg (Option.map text?) (same "pk_name" (by decide) (by decide))
  have continueOnError :=
    congrArg (Option.map bool?) (same "continue_on_error" (by decide) (by decide))
  have chunkSize := congrArg (Option.map size?) (same "chunk_size" (by decide) (by decide))
  simp only [ofMembers, setting_congr batchSize, setting_congr ignoreKey, setting_congr keyName,
    setting_congr continueOnError, setting_congr chunkSize, setting_congr limits]

theorem Rearranged.ofMembers_eq {members other : List (Text × Json)}
    (rearranged : Rearranged members other) :
    ofMembers members = ofMembers other := by
  cases rearranged with
  | settings outer =>
    exact ofMembers_congr (fun name known _ => outer.member?_eq known)
      (congrArg (Option.map policy?) (outer.member?_eq (by decide)))
  | limits front back inner =>
    refine ofMembers_congr (fun name _ different => ?_)
      (map_member?_append_cons (policy?_object_eq inner) _ front back)
    have apart : name.toList ≠ "large_literal".toList :=
      fun same => different (String.toList_inj.mp same)
    rw [member?_append_cons_of_ne apart, member?_append_cons_of_ne apart]

theorem Rearranged.ofJson_eq {members other : List (Text × Json)}
    (rearranged : Rearranged members other) :
    ofJson (.object members) = ofJson (.object other) := by
  simp only [ofJson, rearranged.ofMembers_eq]

/-- Members with different names may come in any order. -/
theorem ofBytes_eq_of_perm
    {members other : List (List Piece × Phrase)}
    {document otherDocument : Text}
    (written : WrittenDocument (.object members) document)
    (otherWritten : WrittenDocument (.object other) otherDocument)
    (permuted : members.Perm other)
    (distinct : (members.map fun member => Piece.text? member.1).Nodup) :
    ofBytes (Utf8.encode otherDocument) = ofBytes (Utf8.encode document) := by
  rw [ofBytes_encode written, ofBytes_encode otherWritten]
  cases found : (Phrase.object members).document? with
  | none =>
    -- the other order keeps to no limits either
    cases foundOther : (Phrase.object other).document? with
    | none => rfl
    | some json =>
      obtain ⟨values, rfl, -⟩ := Phrase.document?_object_eq_some_iff.mp foundOther
      obtain ⟨_, kept, -⟩ := Phrase.document?_object_of_perm permuted.symm foundOther
      cases found.symm.trans kept
  | some json =>
    obtain ⟨values, rfl, stand, -⟩ := Phrase.document?_object_eq_some_iff.mp found
    obtain ⟨rearranged, foundOther, same⟩ := Phrase.document?_object_of_perm permuted found
    have names : values.map (fun value => some value.1) =
        members.map fun member => Piece.text? member.1 := by
      have equal := stand.imp fun member value (known : Phrase.StandsFor member value) => known.1
      rw [eq_comm, ← List.forall₂_eq_eq_eq, List.forall₂_map_left_iff, List.forall₂_map_right_iff]
      exact equal
    have apart : (values.map Prod.fst).Nodup := by
      rw [← names] at distinct
      exact List.Nodup.of_map some (by rwa [List.map_map])
    rw [foundOther]
    exact (Rearranged.settings (.of_perm same apart)).ofJson_eq.symm

/-- A document that spells an object is refused as malformed if it goes beyond the limits: a number
is too large for a double, a surrogate lacks the other one of its pair, or arrays and objects are
nested too deep, be it in a member that counts for nothing.  Any other such document with settings
of the right types is loaded as the configuration that the last members give, provided that the
configuration can be used.  Every document within the limits for rearranged members has the same
outcome, and members with different names may be written in any order, within the limits or not. -/
theorem ofBytes_of_written
    {members : List (List Piece × Phrase)}
    {document : Text}
    (written : WrittenDocument (.object members) document) :
    ((Phrase.object members).document? = none →
      ofBytes (Utf8.encode document) = .error .malformed) ∧
    (∀ values, (Phrase.object members).document? = some (.object values) →
      (WellTyped values →
        ∃ config : Config, config.IsGivenBy values ∧
          (config.IsUsable → ofBytes (Utf8.encode document) = .ok config) ∧
          (¬ config.IsUsable → ∃ expected got,
            ofBytes (Utf8.encode document) = .error (.invalid expected got))) ∧
      ∀ other otherDocument rearranged, WrittenDocument (.object other) otherDocument →
        (Phrase.object other).document? = some (.object rearranged) →
          Rearranged values rearranged →
            ofBytes (Utf8.encode otherDocument) = ofBytes (Utf8.encode document)) ∧
    ∀ other otherDocument, WrittenDocument (.object other) otherDocument →
      members.Perm other → (members.map fun member => Piece.text? member.1).Nodup →
        ofBytes (Utf8.encode otherDocument) = ofBytes (Utf8.encode document) := by
  refine ⟨fun refused => ?_, fun values found => ⟨fun typed => ?_, ?_⟩, ?_⟩
  · rw [ofBytes_encode written, refused]
    rfl
  · obtain ⟨config, given⟩ := typed.exists_isGivenBy
    have read : ofBytes (Utf8.encode document) = config.validate := by
      rw [ofBytes_encode written, found, Option.elim_some, ofJson,
        (ofMembers_eq_ok_iff values config).mpr given]
      rfl
    refine ⟨config, given, fun usable => ?_, fun unusable => ?_⟩
    · rw [read, validate_of_isUsable usable]
    · rw [read]
      exact validate_of_not_isUsable unusable
  · intro other otherDocument rearranged otherWritten foundOther same
    rw [ofBytes_encode written, ofBytes_encode otherWritten, found, foundOther]
    exact same.ofJson_eq.symm
  · exact fun other otherDocument otherWritten => ofBytes_eq_of_perm written otherWritten

/-- A member of the wrong type is overridden, a name is written with an escape, an unknown member
is left out and one of the limits keeps its default. -/
theorem ofBytes_of_overridden :
    ofBytes (Utf8.encode
        ("\x7b\"batch_size\": \"x\",\"extra\":[null],\"\\u0062atch_size\":5,".toList ++
          "\"large_literal\":\x7b\"max_inline_chars\":7\x7d\x7d".toList)) =
      .ok { batchSize := 5, largeText := { maxBytes := 4000, maxChars := 7 } } := by
  have five : Written (.number ⟨false, ['5'], none, none⟩) ['5'] :=
    .number (NumberText.isWritten_digits ['5'] (by simp) rfl (by simp))
  have seven : Written (.number ⟨false, ['7'], none, none⟩) ['7'] :=
    .number (NumberText.isWritten_digits ['7'] (by simp) rfl (by simp))
  have escaped : WrittenPiece (.unit 0x62) "\\u0062".toList :=
    .unit (@WrittenUnit.digits '0' '0' '6' '2' 0 0 6 2 (.inl rfl) (.inl rfl) (.inl rfl) (.inl rfl))
  have name : WrittenString (.unit 0x62 :: "atch_size".toList.map .char)
      "\"\\u0062atch_size\"".toList :=
    .quoted (.cons escaped (writtenPieces_self rfl))
  have blank : Padded "\"x\"".toList " \"x\"".toList :=
    @Padded.between [' '] "\"x\"".toList [] (by simp [IsBlank]) isBlank_nil
  have limits := WrittenMembers.last (writtenString_self "max_inline_chars".toList rfl)
    (padded_self _) seven (padded_self _)
  have largeText := WrittenMembers.last (writtenString_self "large_literal".toList rfl)
    (padded_self _) (.object limits) (padded_self _)
  have batchSize := WrittenMembers.more name (padded_self _) five (padded_self _) largeText
  have extra := WrittenMembers.more (writtenString_self "extra".toList rfl) (padded_self _)
    (.array (.last .null (padded_self _))) (padded_self _) batchSize
  have members := WrittenMembers.more (writtenString_self "batch_size".toList rfl) (padded_self _)
    (.string (writtenString_self "x".toList rfl)) blank extra
  have written := WrittenDocument.intro (.object members) (padded_self _)
  -- What the members stand for.
  have isFive : Phrase.value? (.number ⟨false, ['5'], none, none⟩) = some (.integer 5) :=
    NumberText.value?_digits (by decide)
  have isSeven : Phrase.value? (.number ⟨false, ['7'], none, none⟩) = some (.integer 7) :=
    NumberText.value?_digits (by decide)
  have isText : Phrase.value? (.string ("x".toList.map .char)) = some (.string "x".toList) := rfl
  have isArray : Phrase.value? (.array [.null]) = some (.array [.null]) := rfl
  have isName : Piece.text? (.unit 0x62 :: "atch_size".toList.map .char) =
      some "batch_size".toList := rfl
  have named : Phrase.StandsFor (_, _) (_, _) := ⟨isName, isFive⟩
  have inside : List.Forall₂ Phrase.StandsFor _ [("max_inline_chars".toList, .integer 7)] :=
    .cons (Phrase.standsFor_named _ isSeven) .nil
  have isObject : Phrase.value? (.object _) = some (.object _) :=
    Option.map_eq_some_iff.mpr ⟨_, Phrase.memberValues?_eq_some_iff.mpr inside, rfl⟩
  have stand := List.Forall₂.cons (Phrase.standsFor_named "batch_size" isText)
    (.cons (Phrase.standsFor_named "extra" isArray)
      (.cons named (.cons (Phrase.standsFor_named "large_literal" isObject) .nil)))
  have found := Phrase.document?_object_eq_some_iff.mpr ⟨_, rfl, stand, by decide⟩
  have read : ofMembers
      [("batch_size".toList, .string "x".toList), ("extra".toList, .array [.null]),
        ("batch_size".toList, .integer 5),
        ("large_literal".toList, .object [("max_inline_chars".toList, .integer 7)])] =
      .ok { batchSize := 5, largeText := { maxBytes := 4000, maxChars := 7 } } := rfl
  have typed := ((ofMembers_eq_ok_iff _ _).mp read).wellTyped
  obtain ⟨-, loads, -⟩ := ofBytes_of_written written
  obtain ⟨config, given, loaded, -⟩ := (loads _ found).1 typed
  obtain rfl := Except.ok.inj (((ofMembers_eq_ok_iff _ _).mpr given).symm.trans read)
  exact loaded ⟨by decide, by decide, .inr rfl⟩

/-- A document that gives a size is loaded, but with an unknown member beyond the limits it is
refused, be that a number, a string or arrays inside one another.  So is a document in which the
size overrides a number beyond the limits. -/
theorem ofBytes_beyond_limits :
    ofBytes (Utf8.encode "\x7b\"batch_size\":5\x7d".toList) = .ok { batchSize := 5 } ∧
    (∀ document ∈
        ["\x7b\"batch_size\":5,\"note\":1e999\x7d".toList,
          "\x7b\"batch_size\":5,\"note\":\"\\ud800\"\x7d".toList,
          "\x7b\"batch_size\":5,\"note\":".toList ++ (inBrackets "null".toList 127 ++ ['\x7d'])],
      (∃ note, WrittenDocument
        (.object [Phrase.named "batch_size" (.number ⟨false, ['5'], none, none⟩),
          Phrase.named "note" note])
        document) ∧
      ofBytes (Utf8.encode document) = .error .malformed) ∧
    (∃ overridden, WrittenDocument
      (.object [Phrase.named "batch_size" overridden,
        Phrase.named "batch_size" (.number ⟨false, ['5'], none, none⟩)])
      "\x7b\"batch_size\":1e999,\"batch_size\":5\x7d".toList) ∧
    ofBytes (Utf8.encode "\x7b\"batch_size\":1e999,\"batch_size\":5\x7d".toList) =
      .error .malformed := by
  have five : Written (.number ⟨false, ['5'], none, none⟩) ['5'] :=
    .number (NumberText.isWritten_digits ['5'] (by simp) rfl (by simp))
  have isFive : Phrase.value? (.number ⟨false, ['5'], none, none⟩) = some (.integer 5) :=
    NumberText.value?_digits (by decide)
  have large : Written (.number ⟨false, ['1'], none, some 999⟩) "1e999".toList :=
    .number ⟨by simp [IsDigits], by simp, by simp, _,
      @WrittenExponent.present 'e' false [] "999".toList (.inl rfl) .absent (by simp [IsDigits]),
      rfl⟩
  have isLarge : Phrase.value? (.number ⟨false, ['1'], none, some 999⟩) = none := rfl
  have surrogate : WrittenPiece (.unit 0xD800) "\\ud800".toList :=
    .unit (@WrittenUnit.digits 'd' '8' '0' '0' 13 8 0 0 (.inl rfl) (.inl rfl) (.inl rfl) (.inl rfl))
  have lone : Written (.string [.unit 0xD800]) "\"\\ud800\"".toList :=
    .string (.quoted (.cons surrogate .nil))
  have isLone : Phrase.value? (.string [.unit 0xD800]) = none := rfl
  have deep : Written (Phrase.null.inArrays 127) (inBrackets "null".toList 127) :=
    Written.null.inArrays 127
  have none_beyond {phrase : Phrase} (isNone : phrase.value? = none) :
      ∀ json, phrase.value? = some json → Stage.maxDepth ≤ json.depth := by
    simp [isNone]
  refine ⟨?_, List.forall_mem_cons.mpr ⟨?_, List.forall_mem_cons.mpr ⟨?_,
    List.forall_mem_singleton.mpr ?_⟩⟩, ?_⟩
  · have written : WrittenDocument (.object [Phrase.named "batch_size" _]) _ :=
      .intro (.object (.last (writtenString_self "batch_size".toList rfl) (padded_self _) five
        (padded_self _))) (padded_self _)
    have found := Phrase.document?_object_eq_some_iff.mpr
      ⟨_, rfl, .cons (Phrase.standsFor_named "batch_size" isFive) .nil, by decide⟩
    refine (ofBytes_encode written).trans ?_
    rw [found]
    rfl
  · have written := writtenDocument_named "batch_size" "note" rfl rfl five large
    exact ⟨⟨_, written⟩, ofBytes_of_mem_of_beyond written (.tail _ (.head _)) (none_beyond isLarge)⟩
  · have written := writtenDocument_named "batch_size" "note" rfl rfl five lone
    exact ⟨⟨_, written⟩, ofBytes_of_mem_of_beyond written (.tail _ (.head _)) (none_beyond isLone)⟩
  · have written := writtenDocument_named "batch_size" "note" rfl rfl five deep
    exact ⟨⟨_, written⟩, ofBytes_of_mem_of_beyond written (.tail _ (.head _))
      fun _ => Phrase.le_depth_of_inArrays _ 127⟩
  · have written := writtenDocument_named "batch_size" "batch_size" rfl rfl large five
    exact ⟨⟨_, written⟩, ofBytes_of_mem_of_beyond written (.head _) (none_beyond isLarge)⟩

end Config
end SqlDump
