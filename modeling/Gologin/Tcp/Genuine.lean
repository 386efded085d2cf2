import Gologin.Tcp.Framing

/-!
# What a received packet is worth

Neither `recv` looks at how many bytes it got. `recv_genuine_iff` says for which results of
the two `::recv` calls a packet that is handed over was received in full. Nor does either
loop look for the NUL of the command: `command_inside_iff` says for which headers the
command is read from the `type` field alone.
-/

namespace Gologin.Tcp
set_option autoImplicit false

/-! ## The header and the body -/

section
variable {τ : Type} (call : Nat → τ → Option (RecvResult × τ)) (header : PacketHeader) (t : τ)

/-- When the `recv` method returns `true`, it has received the 32 bytes of the header and,
directly after them, as many bytes of the body as the header says. -/
def Genuine (recv : (Nat → τ → Option (RecvResult × τ)) → PacketHeader → τ → Option (RecvReturn × τ)) : Prop :=
  ∀ got buff t', recv call header t = some (.packet got buff, t') →
    ∃ t₁, call sizeofHeader t = some (.data got.bytes, t₁) ∧ call got.size t₁ = some (.data buff, t') ∧
      buff.length = got.size

/-- The `::recv` of the body fails. -/
def BodyFails (size : Nat) (t : τ) : Prop :=
  ∀ res t', call size t = some (res, t') → ∃ error ioctl, res = .failed error ioctl

/-- The `::recv` of the body fails or returns the body in full. -/
def BodyFull (size : Nat) (t : τ) : Prop :=
  ∀ res t', call size t = some (res, t') →
    (∃ error ioctl, res = .failed error ioctl) ∨ ∃ got, res = .data got ∧ got.length = size

/-- The `::recv` of the header returns 32 bytes and that of the body all of its bytes, or the
packet is refused: its size is 0, or the `::recv` of the body fails. `goesOn` are the failed
results of the header's `::recv` after which the header variable is used as it is. -/
def Full (goesOn : Errno → Bool → Prop) : Prop :=
  ∀ res t₁, call sizeofHeader t = some (res, t₁) →
    match res with
    | .data got =>
      (header.fill got).size ≠ 0 →
        (got.length = sizeofHeader ∧ BodyFull call (header.fill got).size t₁) ∨
          BodyFails call (header.fill got).size t₁
    | .failed error ioctl => goesOn error ioctl → header.size ≠ 0 → BodyFails call header.size t₁
    | .closed => True

/-- `server_client::recv` goes on when `getsockopt` has no error to report, `client::recv`
whatever the error. -/
def ServerClient.goesOn : Errno → Bool → Prop := fun error ioctl => error = .zero ∧ ioctl = true

def Client.goesOn : Errno → Bool → Prop := fun _ _ => True

/-- What a `recv` method makes of the header's `::recv`. -/
structure ReadsHeader (headerRead : PacketHeader → RecvResult → HeaderRead) (goesOn : Errno → Bool → Prop) : Prop where
  fills : Fills headerRead
  closed : ∃ n, headerRead header .closed = .refused n
  failed : ∀ error ioctl, goesOn error ioctl → headerRead header (.failed error ioctl) = checkSize header
  refused : ∀ error ioctl, ¬ goesOn error ioctl → ∃ n, headerRead header (.failed error ioctl) = .refused n

theorem ServerClient.reads : ReadsHeader header ServerClient.headerRead ServerClient.goesOn := by
  refine ⟨ServerClient.fills, ⟨1, rfl⟩, ?_, ?_⟩
  · rintro _ _ ⟨rfl, rfl⟩
    rfl
  · intro error ioctl out
    cases ioctl with
    | false => exact ⟨0, rfl⟩
    | true =>
      cases error with
      | zero => exact absurd ⟨rfl, rfl⟩ out
      | eagain => exact ⟨0, rfl⟩
      | etimedout | econnreset | epipe => exact ⟨2, rfl⟩
      | other => exact ⟨1, rfl⟩

theorem Client.reads : ReadsHeader header Client.headerRead Client.goesOn :=
  ⟨Client.fills, ⟨0, rfl⟩, fun _ _ _ => rfl, fun _ _ out => absurd trivial out⟩

end

section
variable {τ : Type} {call : Nat → τ → Option (RecvResult × τ)} {header : PacketHeader} {t t₁ t' : τ}
  {headerRead : PacketHeader → RecvResult → HeaderRead} {goesOn : Errno → Bool → Prop}

theorem checkSize_body {header read : PacketHeader} (h : checkSize header = .body read) :
    read = header ∧ header.size ≠ 0 := by
  unfold checkSize at h
  split at h
  · cases h
  · rename_i some_size
    cases h
    exact ⟨rfl, some_size⟩

/-- A packet is handed over after a header that is not refused and a body that does not fail. -/
theorem recvWith_packet {got : PacketHeader} {buff : Buffer}
    (h : recvWith headerRead call header t = some (.packet got buff, t')) :
    ∃ first t₁ second, call sizeofHeader t = some (first, t₁) ∧ headerRead header first = .body got ∧
      call got.size t₁ = some (second, t') ∧ bodyRead got.size second = some buff := by
  obtain ⟨⟨first, t₁⟩, one, later⟩ := Option.bind_eq_some_iff.1 h
  cases read : headerRead header first with
  | refused n =>
    simp only [read] at later
    cases later
  | body got' =>
    simp only [read] at later
    obtain ⟨⟨second, t₂⟩, two, last⟩ := Option.map_eq_some_iff.1 later
    cases body : bodyRead got'.size second with
    | none =>
      simp only [body] at last
      cases last
    | some buff' =>
      simp only [body] at last
      cases last
      exact ⟨first, t₁, second, one, read, two, body⟩

/-- And after such results it is. -/
theorem recvWith_of_read {first second : RecvResult} {got : PacketHeader} {buff : Buffer}
    (one : call sizeofHeader t = some (first, t₁)) (read : headerRead header first = .body got)
    (two : call got.size t₁ = some (second, t')) (body : bodyRead got.size second = some buff) :
    recvWith headerRead call header t = some (.packet got buff, t') := by
  rw [recvWith, one, Option.bind_some]
  simp only [read, two, Option.map_some, body]

/-- A body that does not fail is handed over. -/
theorem body_of_not_fails {size : Nat} (fails : ¬ BodyFails call size t₁) :
    ∃ second t' buff, call size t₁ = some (second, t') ∧ bodyRead size second = some buff := by
  unfold BodyFails at fails
  push Not at fails
  obtain ⟨second, t', two, alive⟩ := fails
  cases second with
  | data got => exact ⟨_, t', _, two, rfl⟩
  | closed => exact ⟨_, t', _, two, rfl⟩
  | failed error ioctl => exact absurd rfl (alive error ioctl)

theorem not_bodyFails {size : Nat} {second : RecvResult} {buff : Buffer} (two : call size t₁ = some (second, t'))
    (body : bodyRead size second = some buff) : ¬ BodyFails call size t₁ := by
  intro fails
  obtain ⟨error, ioctl, rfl⟩ := fails second t' two
  cases body

/-- The two `recv` methods differ in the errors they go on after. -/
theorem genuine_iff (reads : ReadsHeader header headerRead goesOn) :
    Genuine call header t (recvWith headerRead) ↔ Full call header t goesOn := by
  constructor
  · intro genuine first t₁ one
    cases first with
    | data got =>
      intro some_size
      let read := header.fill got
      have accepted : headerRead header (.data got) = .body read := by
        rw [reads.fills, checkSize, if_neg some_size]
      by_cases fails : BodyFails call read.size t₁
      · exact Or.inr fails
      · obtain ⟨second, t', buff, two, body⟩ := body_of_not_fails fails
        obtain ⟨t₂, one', _⟩ := genuine read buff t' (recvWith_of_read one accepted two body)
        rw [one, Option.some.injEq, Prod.mk.injEq, RecvResult.data.injEq] at one'
        obtain ⟨whole, rfl⟩ := one'
        refine Or.inl ⟨whole ▸ read.length_eq, fun second' t₃ two' => ?_⟩
        cases second' with
        | failed error ioctl => exact Or.inl ⟨error, ioctl, rfl⟩
        | data got' =>
          obtain ⟨t₄, one'', two'', len⟩ := genuine read _ t₃ (recvWith_of_read one accepted two' rfl)
          rw [one, Option.some.injEq, Prod.mk.injEq] at one''
          obtain ⟨-, rfl⟩ := one''
          rw [two', Option.some.injEq, Prod.mk.injEq, RecvResult.data.injEq] at two''
          exact Or.inr ⟨got', rfl, two''.1 ▸ len⟩
        | closed =>
          obtain ⟨t₄, one'', two'', _⟩ := genuine read _ t₃ (recvWith_of_read one accepted two' rfl)
          rw [one, Option.some.injEq, Prod.mk.injEq] at one''
          obtain ⟨-, rfl⟩ := one''
          cases two'.symm.trans two''
    | closed => trivial
    | failed error ioctl =>
      intro on some_size
      by_contra fails
      obtain ⟨second, t', buff, two, body⟩ := body_of_not_fails fails
      have accepted : headerRead header (.failed error ioctl) = .body header := by
        rw [reads.failed error ioctl on, checkSize, if_neg some_size]
      obtain ⟨t₂, one', _⟩ := genuine header buff t' (recvWith_of_read one accepted two body)
      cases one.symm.trans one'
  · intro full got buff t' packet
    obtain ⟨first, t₁, second, one, read, two, body⟩ := recvWith_packet packet
    have here := full first t₁ one
    cases first with
    | data bytes =>
      rw [reads.fills] at read
      obtain ⟨rfl, some_size⟩ := checkSize_body read
      rcases here some_size with ⟨whole, all⟩ | fails
      · rcases all second t' two with ⟨error, ioctl, rfl⟩ | ⟨bytes', rfl, len⟩
        · cases body
        · have same : buff = bytes' := by
            simp only [bodyRead, len, Nat.sub_self, List.replicate_zero, List.append_nil, Option.some.injEq] at body
            exact body.symm
          subst same
          exact ⟨t₁, (header.fill_whole whole).symm ▸ one, two, len⟩
      · exact absurd fails (not_bodyFails two body)
    | closed =>
      obtain ⟨n, refused⟩ := reads.closed
      cases refused.symm.trans read
    | failed error ioctl =>
      by_cases on : goesOn error ioctl
      · rw [reads.failed error ioctl on] at read
        obtain ⟨rfl, some_size⟩ := checkSize_body read
        exact absurd (here on some_size) (not_bodyFails two body)
      · obtain ⟨n, refused⟩ := reads.refused error ioctl on
        cases refused.symm.trans read

end

/-- **When `recv` invents nothing.** For every content of the header variable and every
behaviour of the transport: a packet that `recv` hands over was received in full if and only
if the two `::recv` calls return all they were asked for, or one of them refuses. -/
theorem recv_genuine_iff {τ : Type} (call : Nat → τ → Option (RecvResult × τ)) (header : PacketHeader) (t : τ) :
    (Genuine call header t ServerClient.recv ↔ Full call header t ServerClient.goesOn) ∧
      (Genuine call header t Client.recv ↔ Full call header t Client.goesOn) :=
  ⟨genuine_iff (ServerClient.reads header), genuine_iff (Client.reads header)⟩

/-- A transport that returns the results of a list. -/
def listed (_len : Nat) : List RecvResult → Option (RecvResult × List RecvResult)
  | [] => none
  | res :: rest => some (res, rest)

/-- The server is sent a body of two bytes and receives one: the other comes from `resize`. -/
theorem recv_invents :
    ¬ ∀ (header : PacketHeader) (results : List RecvResult),
      Genuine listed header results ServerClient.recv ∧ Genuine listed header results Client.recv := by
  intro genuine
  have short := (genuine ⟨List.replicate 32 0, rfl⟩
    [.data (headerBytes (str "hello") 2), .data [123]]).1 ⟨headerBytes (str "hello") 2, rfl⟩ [123, 0] [] rfl
  obtain ⟨t₁, one, two, _⟩ := short
  cases one
  cases two

/-! ## The command -/

/-- Reading the command of a header finds its NUL in the `type` field, whatever lies behind
the header, and depends on nothing else. -/
structure CommandInside (h : PacketHeader) : Prop where
  stops : ∀ beyond, (h.command beyond).length < sizeofType ∧ h.type[(h.command beyond).length]? = some 0
  alone : ∀ (h' : PacketHeader) beyond beyond', h'.type = h.type → h'.command beyond' = h.command beyond

/-- **When the command stays inside its field.** The header loops of both programs read the
command from the 16 bytes of `type` alone, and of at most 15 bytes, if and only if one of
them is a NUL. -/
theorem command_inside_iff (h : PacketHeader) : CommandInside h ↔ 0 ∈ h.type := by
  constructor
  · intro inside
    exact List.mem_of_getElem? (inside.stops []).2
  · intro found
    have same : ∀ beyond, h.command beyond = cString h.type := fun beyond => by
      rw [h.command_eq, cString_append found]
    refine ⟨fun beyond => ?_, fun h' beyond beyond' type => ?_⟩
    · rw [same beyond, ← h.type_length]
      exact cString_stop found
    · rw [same beyond, h'.command_eq, type, cString_append found]

/-- A header whose `type` is full. -/
theorem command_runs_on : ¬ ∀ h : PacketHeader, CommandInside h := by
  intro inside
  have stops := (inside ⟨List.replicate 32 97, rfl⟩).stops []
  exact absurd stops.1 (by decide)

end Gologin.Tcp
