import Gologin.Messages.Json

/-!
# Messages and their packer

`google::tagged_tuple` of `contrib/google/tagged_tuple.hpp`, and the packer over it of
`contrib/google/tagged_json.hpp` and `messages/json/packer.hpp`. A message type is a
schema, a list of members with a key and a type; decoding is by key, and a member whose
key is missing gets its default.
-/

namespace Gologin.Messages
set_option autoImplicit false
open Tables

/-- The types of members. -/
inductive MemberType where
  | uint64
  | string
  deriving DecidableEq, Repr

/-- The values of a member type. -/
def MemberType.Val : MemberType → Type
  | .uint64 => UInt64
  | .string => Str

/-- `T{}`. -/
def MemberType.init : (t : MemberType) → t.Val
  | .uint64 => (0 : UInt64)
  | .string => ([] : Str)

/-- What `_json[key] = member.value()` stores. -/
def MemberType.toValue : (t : MemberType) → t.Val → Value
  | .uint64, n => .unsigned n
  | .string, s => .string s

/-- `.get<value_type>()`. -/
def MemberType.get : (t : MemberType) → Value → Option t.Val
  | .uint64, v => v.getUInt64
  | .string, v => v.getString

/-- Whether a value is text that can be written. -/
def MemberType.Utf8 : (t : MemberType) → t.Val → Prop
  | .uint64, _ => True
  | .string, s => Utf8.valid s = true

/-- `google::member<"key", type>`. -/
structure Member where
  key : Str
  type : MemberType
  deriving DecidableEq, Repr

abbrev Schema : Type := List Member

/-- `google::tagged_tuple<Members...>`. -/
def TaggedTuple : Schema → Type
  | [] => Unit
  | m :: S => m.type.Val × TaggedTuple S

namespace TaggedTuple

/-- The loop of `packer::to`: `_json[member.key()] = member.value()` for each member. -/
def toObject : (S : Schema) → TaggedTuple S → Object → Object
  | [], _, o => o
  | m :: S, (value, rest), o => toObject S rest (o.insert m.key (m.type.toValue value))

/-- `get_from_json`, for a member with a default. -/
def memberFrom (j : Json) (m : Member) : Option m.type.Val :=
  match j.find m.key with
  | some v => m.type.get v
  | none => some m.type.init

/-- `from_json`. -/
def fromJson (j : Json) : (S : Schema) → Option (TaggedTuple S)
  | [] => some ()
  | m :: S => (memberFrom j m).bind fun value => (fromJson j S).map fun rest => (value, rest)

/-- The value under a key. -/
def get : (S : Schema) → TaggedTuple S → Str → Option Value
  | [], _, _ => none
  | m :: S, (value, rest), key => if m.key = key then some (m.type.toValue value) else get S rest key

/-- Every string member is UTF-8. -/
def Utf8 : (S : Schema) → TaggedTuple S → Prop
  | [], _ => True
  | m :: S, (value, rest) => m.type.Utf8 value ∧ Utf8 S rest

end TaggedTuple

/-- The keys of a schema are pairwise distinct, and they are UTF-8. -/
structure Schema.Good (S : Schema) : Prop where
  distinct : (S.map Member.key).Nodup
  utf8 : ∀ m ∈ S, Utf8.valid m.key = true

/-- A message type: a structure with the members of a schema. -/
class Message (M : Type) where
  schema : Schema
  good : schema.Good
  toTuple : M → TaggedTuple schema
  ofTuple : TaggedTuple schema → M
  ofTuple_toTuple : ∀ m, ofTuple (toTuple m) = m
  toTuple_ofTuple : ∀ t, toTuple (ofTuple t) = t

section
variable (J : Nlohmann) {M : Type} [Message M]

/-- The object `packer::to` builds. -/
def toObject (m : M) : Object := TaggedTuple.toObject _ (Message.toTuple m) ∅

/-- The value of a message under a key. -/
def getMember (m : M) (key : Str) : Option Value := TaggedTuple.get _ (Message.toTuple m) key

/-- Every string of a message is UTF-8. -/
def TextUtf8 (m : M) : Prop := TaggedTuple.Utf8 _ (Message.toTuple m)

/-- `packer::to`, `none` when `dump` throws. -/
def packerTo (m : M) : Option Buffer := J.dump (toObject m)

/-- `packer::from`, `none` when `parse` or a conversion throws. -/
def packerFrom (M : Type) [Message M] (buff : Buffer) : Option M :=
  (J.parse buff).bind fun j => (TaggedTuple.fromJson j (Message.schema M)).map Message.ofTuple

end

/-! ## The packer undoes itself -/

namespace TaggedTuple

theorem get_eq_none {S : Schema} (t : TaggedTuple S) {key : Str} (absent : key ∉ S.map Member.key) :
    get S t key = none := by
  induction S with
  | nil => rfl
  | cons m S ih =>
    obtain ⟨value, rest⟩ := t
    obtain ⟨other, more⟩ := not_or.1 (List.mem_cons.not.1 absent)
    rw [get, if_neg (Ne.symm other)]
    exact ih rest more

/-- What an object built from a message has under a key. -/
theorem lookup_toObject {S : Schema} (t : TaggedTuple S) (distinct : (S.map Member.key).Nodup)
    (o : Object) (key : Str) :
    (toObject S t o).lookup key = (get S t key).or (o.lookup key) := by
  induction S generalizing o with
  | nil => rfl
  | cons m S ih =>
    obtain ⟨value, rest⟩ := t
    obtain ⟨fresh, later⟩ := List.nodup_cons.1 distinct
    rw [toObject, ih rest later, get]
    by_cases same : m.key = key
    · subst same
      rw [if_pos rfl, get_eq_none rest fresh, AList.lookup_insert]
      rfl
    · rw [if_neg same, AList.lookup_insert_ne (Ne.symm same)]

theorem plain_toObject {S : Schema} (t : TaggedTuple S) {o : Object} (plain : o.Plain) :
    (toObject S t o).Plain := by
  induction S generalizing o with
  | nil => exact plain
  | cons m S ih =>
    obtain ⟨value, rest⟩ := t
    apply ih rest
    intro k v found
    by_cases same : k = m.key
    · subst same
      rw [AList.lookup_insert, Option.some.injEq] at found
      subst found
      obtain ⟨key, type⟩ := m
      cases type with
      | uint64 => exact Or.inl ⟨value, rfl⟩
      | string => exact Or.inr ⟨value, rfl⟩
    · rw [AList.lookup_insert_ne same] at found
      exact plain k v found

/-- The strings of a message are those found under some key. -/
theorem utf8_iff {S : Schema} (t : TaggedTuple S) (distinct : (S.map Member.key).Nodup) :
    Utf8 S t ↔ ∀ k s, get S t k = some (.string s) → Utf8.valid s = true := by
  induction S with
  | nil => simp [Utf8, get]
  | cons m S ih =>
    obtain ⟨value, rest⟩ := t
    obtain ⟨fresh, later⟩ := List.nodup_cons.1 distinct
    rw [Utf8, ih rest later]
    constructor
    · rintro ⟨here, more⟩ k s found
      rw [get] at found
      split at found
      · obtain ⟨key, type⟩ := m
        cases type with
        | uint64 => cases found
        | string => exact (Value.string.inj (Option.some.inj found)) ▸ here
      · exact more k s found
    · intro all
      constructor
      · obtain ⟨key, type⟩ := m
        cases type with
        | uint64 => trivial
        | string => exact all key value (by rw [get, if_pos rfl]; rfl)
      · intro k s found
        apply all k s
        have other : m.key ≠ k := by
          rintro rfl
          rw [get_eq_none rest fresh] at found
          cases found
        rw [get, if_neg other]
        exact found

/-- A key a message has a value under is one of its schema. -/
theorem mem_of_get {S : Schema} (t : TaggedTuple S) {k : Str} {v : Value} (found : get S t k = some v) :
    ∃ m ∈ S, m.key = k := by
  by_contra none
  have absent : k ∉ S.map Member.key := by
    intro member
    obtain ⟨m, mem, same⟩ := List.mem_map.1 member
    exact none ⟨m, mem, same⟩
  rw [get_eq_none t absent] at found
  cases found

theorem get_toValue (type : MemberType) (value : type.Val) : type.get (type.toValue value) = some value := by
  cases type <;> rfl

/-- Decoding finds a message that is there. -/
theorem fromJson_of_find {S : Schema} (t : TaggedTuple S) (distinct : (S.map Member.key).Nodup) {j : Json}
    (same : ∀ k, get S t k ≠ none → j.find k = get S t k) : fromJson j S = some t := by
  induction S with
  | nil => rfl
  | cons m S ih =>
    obtain ⟨value, rest⟩ := t
    obtain ⟨fresh, later⟩ := List.nodup_cons.1 distinct
    have here : memberFrom j m = some value := by
      have found := same m.key (by rw [get, if_pos rfl]; simp)
      rw [get, if_pos rfl] at found
      rw [memberFrom, found]
      exact get_toValue m.type value
    have rest_same : fromJson j S = some rest := by
      apply ih rest later
      intro k present
      have other : m.key ≠ k := by
        rintro rfl
        exact present (get_eq_none rest fresh)
      have found := same k (by rw [get, if_neg other]; exact present)
      rwa [get, if_neg other] at found
    rw [fromJson, here, rest_same]
    rfl

/-- A member of the wrong type is not decoded. -/
theorem fromJson_wrong {j : Json} {S : Schema} {m : Member} (member : m ∈ S) {v : Value} (found : j.find m.key = some v)
    (wrong : m.type.get v = none) : fromJson j S = none := by
  induction S with
  | nil => cases member
  | cons m' S ih =>
    rw [fromJson]
    rcases List.mem_cons.1 member with rfl | more
    · rw [memberFrom, found]
      simp only [wrong, Option.bind_none]
    · rw [ih more]
      cases memberFrom j m' <;> rfl

/-- What is decoded from UTF-8 text is UTF-8 text. -/
theorem utf8_fromJson {j : Json} (text : ∀ k s, j.find k = some (.string s) → Utf8.valid s = true)
    {S : Schema} {t : TaggedTuple S} (decoded : fromJson j S = some t) : Utf8 S t := by
  induction S with
  | nil => trivial
  | cons m S ih =>
    obtain ⟨value, here, later⟩ := Option.bind_eq_some_iff.1 decoded
    obtain ⟨rest, more, rfl⟩ := Option.map_eq_some_iff.1 later
    refine ⟨?_, ih more⟩
    obtain ⟨key, type⟩ := m
    cases type with
    | uint64 => trivial
    | string =>
      cases found : j.find key with
      | none =>
        rw [memberFrom, found] at here
        exact Option.some.inj here ▸ rfl
      | some w =>
        rw [memberFrom, found] at here
        cases w with
        | string s => exact Option.some.inj here ▸ text key s found
        | unsigned | number | other => cases here

end TaggedTuple

section
variable (J : Nlohmann) {M : Type} [Message M]

theorem lookup_toObject (m : M) (key : Str) : (toObject m).lookup key = getMember m key := by
  rw [toObject, TaggedTuple.lookup_toObject _ Message.good.distinct, AList.lookup_empty, Option.or_none,
    getMember]

theorem plain_toObject (m : M) : (toObject m).Plain := by
  apply TaggedTuple.plain_toObject
  intro k v found
  rw [AList.lookup_empty] at found
  cases found

theorem utf8_toObject (m : M) : (toObject m).Utf8 ↔ TextUtf8 m := by
  rw [TextUtf8, TaggedTuple.utf8_iff _ Message.good.distinct]
  constructor
  · intro utf8 k s found
    exact (utf8 k _ ((lookup_toObject m k).trans found)).2 s rfl
  · intro utf8 k v found
    rw [lookup_toObject] at found
    obtain ⟨member, mem, rfl⟩ := TaggedTuple.mem_of_get _ found
    exact ⟨Message.good.utf8 member mem, fun s same => utf8 _ s (same ▸ found)⟩

/-- **What can be packed.** `packer::to` throws exactly on text that is not UTF-8. -/
theorem packerTo_iff (m : M) : (packerTo J m).isSome ↔ TextUtf8 m :=
  (J.dump_iff _ (plain_toObject m)).trans (utf8_toObject m)

theorem packerTo_some {m : M} (utf8 : TextUtf8 m) : ∃ b, packerTo J m = some b :=
  Option.isSome_iff_exists.1 ((packerTo_iff J m).2 utf8)

theorem packerTo_none {m : M} (bad : ¬ TextUtf8 m) : packerTo J m = none :=
  Option.not_isSome_iff_eq_none.1 fun h => bad ((packerTo_iff J m).1 h)

theorem packerTo_ne_nil {m : M} {b : Buffer} (packed : packerTo J m = some b) : b ≠ [] :=
  J.dump_ne_nil _ b packed

/-- What a packed message parses to has each member under its key. -/
theorem parse_packerTo {m : M} {b : Buffer} (packed : packerTo J m = some b) :
    ∃ j, J.parse b = some j ∧ ∀ k, j.find k = getMember m k := by
  obtain ⟨j, parsed, same⟩ := J.parse_dump _ b (plain_toObject m) packed
  exact ⟨j, parsed, fun k => (same k).trans (lookup_toObject m k)⟩

/-- **The packer undoes itself.** -/
theorem packerFrom_packerTo {m : M} {b : Buffer} (packed : packerTo J m = some b) :
    packerFrom J M b = some m := by
  obtain ⟨j, parsed, same⟩ := parse_packerTo J packed
  have found : TaggedTuple.fromJson j (Message.schema M) = some (Message.toTuple m) :=
    TaggedTuple.fromJson_of_find _ Message.good.distinct fun k _ => same k
  rw [packerFrom, parsed, Option.bind_some, found, Option.map_some, Message.ofTuple_toTuple]

/-- A message that is decoded has UTF-8 text. -/
theorem utf8_packerFrom {m : M} {b : Buffer} (decoded : packerFrom J M b = some m) : TextUtf8 m := by
  obtain ⟨j, parsed, later⟩ := Option.bind_eq_some_iff.1 decoded
  obtain ⟨t, tuple, rfl⟩ := Option.map_eq_some_iff.1 later
  rw [TextUtf8, Message.toTuple_ofTuple]
  apply TaggedTuple.utf8_fromJson _ tuple
  intro k s found
  cases j with
  | object o => exact (J.parse_utf8 b o parsed k _ found).2 s rfl
  | other => cases found

/-! ## What is not decoded -/

variable {J}

theorem packerFrom_unparsed {b : Buffer} (unparsed : J.parse b = none) : packerFrom J M b = none := by
  rw [packerFrom, unparsed]
  rfl

theorem packerFrom_mistyped {b : Buffer} {j : Json} (parsed : J.parse b = some j) {m : Member}
    (member : m ∈ Message.schema M) {v : Value} (found : j.find m.key = some v) (wrong : m.type.get v = none) :
    packerFrom J M b = none := by
  rw [packerFrom, parsed, Option.bind_some, TaggedTuple.fromJson_wrong member found wrong]
  rfl

end

end Gologin.Messages
