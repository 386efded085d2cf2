import Gologin.Messages.Messages
import Gologin.Messages.Text

/-!
# Reading a message as another

The writer and the reader of a packet may have different message types. A message read as
another keeps the members that both have, and the others have their defaults.
-/

namespace Gologin.Messages
set_option autoImplicit false

/-- Members with one key have one type. -/
def Schema.Agree (S₁ S₂ : Schema) : Prop := ∀ m₁ ∈ S₁, ∀ m₂ ∈ S₂, m₁.key = m₂.key → m₁.type = m₂.type

instance (S₁ S₂ : Schema) : Decidable (S₁.Agree S₂) :=
  inferInstanceAs (Decidable (∀ m₁ ∈ S₁, ∀ m₂ ∈ S₂, m₁.key = m₂.key → m₁.type = m₂.type))

/-- `T{}`, as it would be written. -/
def MemberType.default (t : MemberType) : Value := t.toValue t.init

namespace TaggedTuple

/-- A value under a key is one of the key's type. -/
theorem exists_of_get {S : Schema} (t : TaggedTuple S) {k : Str} {v : Value} (found : get S t k = some v) :
    ∃ m ∈ S, m.key = k ∧ ∃ x : m.type.Val, v = m.type.toValue x := by
  induction S with
  | nil => cases found
  | cons m S ih =>
    obtain ⟨value, rest⟩ := t
    rw [get] at found
    split at found
    · rename_i same
      exact ⟨m, List.mem_cons_self, same, value, (Option.some.inj found).symm⟩
    · obtain ⟨m', member, same, x, value⟩ := ih rest found
      exact ⟨m', List.mem_cons_of_mem m member, same, x, value⟩

/-- A member reads what an agreeing schema wrote under its key, or its default. -/
theorem memberFrom_across {S₁ : Schema} (t : TaggedTuple S₁) {j : Json} (written : ∀ k, j.find k = get S₁ t k)
    {m : Member} (agree : ∀ m₁ ∈ S₁, m₁.key = m.key → m₁.type = m.type) :
    ∃ x, memberFrom j m = some x ∧ m.type.toValue x = (get S₁ t m.key).getD m.type.default := by
  rw [memberFrom, written]
  cases found : get S₁ t m.key with
  | none => exact ⟨m.type.init, rfl, rfl⟩
  | some v =>
    obtain ⟨m₁, member, key, x, rfl⟩ := exists_of_get t found
    have same := agree m₁ member key
    refine ⟨same ▸ x, ?_, ?_⟩
    · rw [← get_toValue m.type (same ▸ x)]
      cases m
      cases same
      rfl
    · cases m
      cases same
      rfl

/-- Decoding what another schema wrote. -/
theorem fromJson_across {S₁ : Schema} (t : TaggedTuple S₁) {j : Json} (written : ∀ k, j.find k = get S₁ t k)
    {S₂ : Schema} (distinct : (S₂.map Member.key).Nodup) (agree : S₁.Agree S₂) :
    ∃ t₂, fromJson j S₂ = some t₂ ∧
      ∀ m ∈ S₂, get S₂ t₂ m.key = some ((get S₁ t m.key).getD m.type.default) := by
  induction S₂ with
  | nil => exact ⟨(), rfl, nofun⟩
  | cons m S ih =>
    obtain ⟨fresh, later⟩ := List.nodup_cons.1 distinct
    obtain ⟨x, here, value⟩ := memberFrom_across t written fun m₁ member =>
      agree m₁ member m List.mem_cons_self
    obtain ⟨rest, decoded, values⟩ := ih later fun m₁ member m₂ member₂ =>
      agree m₁ member m₂ (List.mem_cons_of_mem m member₂)
    refine ⟨(x, rest), ?_, ?_⟩
    · rw [fromJson, here, decoded]
      rfl
    · intro m' member
      rcases List.mem_cons.1 member with rfl | more
      · rw [get, if_pos rfl, value]
      · have other : m.key ≠ m'.key := fun same => fresh (same ▸ List.mem_map_of_mem more)
        rw [get, if_neg other]
        exact values m' more

end TaggedTuple

/-- A member of a schema has a value. -/
theorem TaggedTuple.get_of_mem {S : Schema} (t : TaggedTuple S) {m : Member} (member : m ∈ S) :
    ∃ v, get S t m.key = some v := by
  induction S with
  | nil => cases member
  | cons m' S ih =>
    obtain ⟨value, rest⟩ := t
    rw [get]
    split
    · exact ⟨_, rfl⟩
    · rename_i other
      rcases List.mem_cons.1 member with rfl | more
      · exact absurd rfl other
      · exact ih rest more

/-- A part of a schema agrees with it. -/
theorem Schema.Good.agree {S₁ S₂ : Schema} (good : S₁.Good) (part : S₂ ⊆ S₁) : S₁.Agree S₂ := by
  intro m₁ member₁ m₂ member₂ same
  rw [List.inj_on_of_nodup_map good.distinct member₁ (part member₂) same]

/-- Any schema makes a message type. -/
@[reducible] def Schema.message {S : Schema} (good : S.Good) : Message (TaggedTuple S) where
  schema := S
  good := good
  toTuple := id
  ofTuple := id
  ofTuple_toTuple _ := rfl
  toTuple_ofTuple _ := rfl

section
variable (J : Nlohmann) {M₁ M₂ : Type} [Message M₁] [Message M₂]

/-- The packed message of one type, decoded as another. -/
theorem packerFrom_across (agree : (Message.schema M₁).Agree (Message.schema M₂)) {m : M₁} {b : Buffer}
    (packed : packerTo J m = some b) :
    ∃ m' : M₂, packerFrom J M₂ b = some m' ∧ ∀ member ∈ Message.schema M₂,
      getMember m' member.key = some ((getMember m member.key).getD member.type.default) := by
  obtain ⟨j, parsed, written⟩ := parse_packerTo J packed
  obtain ⟨t, decoded, values⟩ :=
    TaggedTuple.fromJson_across (Message.toTuple m) written Message.good.distinct agree
  refine ⟨Message.ofTuple t, ?_, fun member inside => ?_⟩
  · rw [packerFrom, parsed, Option.bind_some, decoded, Option.map_some]
  · rw [getMember, Message.toTuple_ofTuple]
    exact values member inside

/-- A reader whose members the writer has reads what was written. -/
theorem packerFrom_part (part : Message.schema M₂ ⊆ Message.schema M₁) {m : M₁} {b : Buffer}
    (packed : packerTo J m = some b) :
    ∃ m' : M₂, packerFrom J M₂ b = some m' ∧
      ∀ member ∈ Message.schema M₂, getMember m' member.key = getMember m member.key := by
  obtain ⟨m', decoded, values⟩ := packerFrom_across J (Message.good.agree part) packed
  refine ⟨m', decoded, fun member inside => ?_⟩
  obtain ⟨v, written⟩ := TaggedTuple.get_of_mem (Message.toTuple m) (part inside)
  have read := values member inside
  unfold getMember at read ⊢
  rw [read, written]
  rfl

end

/-- **What is decoded is what was encoded.** For all schemas whose shared keys have one type
and every message of UTF-8 text: it can be packed, the packet decodes as the other type with
the same values under the shared keys and the defaults under the others, and it decodes as
its own type to itself. -/
theorem packer_across (J : Nlohmann) {S₁ S₂ : Schema} (good₁ : S₁.Good) (good₂ : S₂.Good) (agree : S₁.Agree S₂)
    (t : TaggedTuple S₁) (text : TaggedTuple.Utf8 S₁ t) :
    letI := Schema.message good₁
    letI := Schema.message good₂
    ∃ b, packerTo J t = some b ∧ packerFrom J (TaggedTuple S₁) b = some t ∧
      ∃ t₂ : TaggedTuple S₂, packerFrom J (TaggedTuple S₂) b = some t₂ ∧
        ∀ m ∈ S₂, TaggedTuple.get S₂ t₂ m.key = some ((TaggedTuple.get S₁ t m.key).getD m.type.default) := by
  let := Schema.message good₁
  let := Schema.message good₂
  obtain ⟨b, packed⟩ := packerTo_some J (show TextUtf8 t from text)
  exact ⟨b, packed, packerFrom_packerTo J packed, packerFrom_across J agree packed⟩

/-- The server answers a ping with a message that the client reads as another: it has a
session, and the client's does not. -/
theorem packer_across_ping :
    letI := Schema.message (Message.good : (Message.schema Server.AuthResponse).Good)
    letI := Schema.message (Message.good : (Message.schema Server.PingResponse).Good)
    ∃ b t₂, packerTo Text.compact
        (Message.toTuple ({ id := 7, command := str "ping_reply", status := str "ok" } : Server.AuthResponse)) = some b ∧
      packerFrom Text.compact (TaggedTuple (Message.schema Server.PingResponse)) b = some t₂ ∧
      TaggedTuple.get (Message.schema Server.PingResponse) t₂ (str "status") = some (.string (str "ok")) := by
  have agree : (Message.schema Server.AuthResponse).Agree (Message.schema Server.PingResponse) := by
    decide +kernel
  have text : TaggedTuple.Utf8 (Message.schema Server.AuthResponse)
      (Message.toTuple ({ id := 7, command := str "ping_reply", status := str "ok" } : Server.AuthResponse)) :=
    ⟨trivial, show Utf8.valid (str "ping_reply") = true by decide +kernel,
      show Utf8.valid (str "ok") = true by decide +kernel, rfl, rfl, trivial⟩
  obtain ⟨b, packed, _, t₂, decoded, values⟩ := packer_across Text.compact
    (Message.good : (Message.schema Server.AuthResponse).Good)
    (Message.good : (Message.schema Server.PingResponse).Good) agree _ text
  have status := values ⟨str "status", .string⟩ (by decide +kernel)
  have same : ((TaggedTuple.get (Message.schema Server.AuthResponse)
      (Message.toTuple ({ id := 7, command := str "ping_reply", status := str "ok" } : Server.AuthResponse))
      (str "status")).getD MemberType.string.default) = .string (str "ok") := by
    decide +kernel
  exact ⟨b, t₂, packed, decoded, status.trans (congrArg some same)⟩

end Gologin.Messages
