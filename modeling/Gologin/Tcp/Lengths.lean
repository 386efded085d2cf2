import Mathlib.Data.Int.Basic
import Gologin.Tcp.Genuine

/-!
# Lengths

The length of a body is stored as a `uint32_t`, and `::send` and `::recv` take their length
as an `int` on Windows. `create_packet` checks neither. `recovered_iff` says for which bodies
both programs get back what was packed, when every `::recv` returns all that it is asked for.
-/

namespace Gologin.Tcp
set_option autoImplicit false
open Bytes

/-- The builds that `_CROSS_PLATFORM_` tells apart. -/
inductive Build where
  | windows
  | posix
  deriving DecidableEq, Repr

/-- A `size_t` as the length argument of `::send` or `::recv`. -/
def Build.len : Build → Nat → Int
  | windows, n => (BitVec.ofNat 32 n).toInt
  | posix, n => n

/-- The length from which on a body does not pass: its packet's length does not fit an `int`,
or its own does not fit the header. -/
def Build.limit : Build → Nat
  | windows => 2 ^ 31 - 32
  | posix => 2 ^ 32

/-- `::recv` with full reads: it waits for as many bytes as it is asked for, and fails on a
negative length. -/
def fullRead (build : Build) (len : Nat) (stream : List UInt8) : Option (RecvResult × List UInt8) :=
  if build.len len < 0 then some (.failed .other true, stream)
  else if stream.length < (build.len len).toNat then none
  else some (.data (stream.take (build.len len).toNat), stream.drop (build.len len).toNat)

/-- Whatever the header variable held, whatever lies behind it and whatever follows the packet,
`recv` returns the command and the body and leaves what follows. -/
def Recovers (recv : (Nat → List UInt8 → Option (RecvResult × List UInt8)) → PacketHeader → List UInt8 →
    Option (RecvReturn × List UInt8)) (build : Build) (cmd : Str) (buff : Buffer) : Prop :=
  ∀ header beyond rest, ∃ got : PacketHeader,
    recv (fullRead build) header (createPacket cmd buff ++ rest) = some (.packet got buff, rest) ∧
      got.command beyond = cmd

/-- A packet that comes through: the size field and the lengths of the system calls are what
they stand for, and both programs recover it. -/
structure Recovered (build : Build) (cmd : Str) (buff : Buffer) : Prop where
  size : leVal (((createPacket cmd buff).drop 8).take 4) = buff.length
  send : build.len (createPacket cmd buff).length = (createPacket cmd buff).length
  header : build.len sizeofHeader = sizeofHeader
  body : build.len buff.length = buff.length
  server : Recovers ServerClient.recv build cmd buff
  client : Recovers Client.recv build cmd buff

/-! ## The lengths that fit -/

/-- An `int` holds a length below `2^31`, and no other. -/
theorem Build.len_windows {n : Nat} : windows.len n = n ↔ n < 2 ^ 31 := by
  change (BitVec.ofNat 32 n).toInt = n ↔ n < 2 ^ 31
  rw [BitVec.toInt_eq_toNat_cond, BitVec.toNat_ofNat]
  split <;> omega

theorem Build.len_of_lt {build : Build} {n : Nat} (small : n < 2 ^ 31) : build.len n = n := by
  cases build with
  | windows => exact len_windows.2 small
  | posix => rfl

/-- What the limit says of a body. -/
theorem Build.below_limit {build : Build} {n : Nat} (fits : n < build.limit) :
    n < 256 ^ 4 ∧ build.len n = n ∧ build.len (32 + n) = (32 + n : Nat) := by
  cases build with
  | windows =>
    simp only [limit] at fits
    exact ⟨by omega, len_windows.2 (by omega), len_windows.2 (by omega)⟩
  | posix => exact ⟨fits, rfl, rfl⟩

/-! ## What a receiver makes of a packet -/

theorem fullRead_append {build : Build} {xs rest : List UInt8} {n : Nat} (len : xs.length = n)
    (exact_ : build.len n = n) : fullRead build n (xs ++ rest) = some (.data xs, rest) := by
  have enough : ¬ (xs ++ rest).length < n := by
    rw [List.length_append]
    omega
  unfold fullRead
  rw [exact_, if_neg (by omega), Int.toNat_natCast, if_neg enough, List.take_left' len, List.drop_left' len]

section
variable {headerRead : PacketHeader → RecvResult → HeaderRead} {build : Build} {cmd : Str} {buff : Buffer}

/-- Both `recv` methods recover a packet whose body is below the limit. -/
theorem recvWith_recovers (fills : Fills headerRead) (free : 0 ∉ cmd) (body : buff ≠ [])
    (room : cmd.length < sizeofType) (fits : buff.length < build.limit) :
    Recovers (recvWith headerRead) build cmd buff := by
  obtain ⟨word, len, _⟩ := build.below_limit fits
  intro header beyond rest
  let got := packetHeader cmd buff.length room
  have size : got.size = buff.length := packetHeader_size room word
  have filled : header.fill (headerBytes cmd buff.length) = got :=
    PacketHeader.mk.injEq _ _ _ _ ▸ header.fill_whole (headerBytes_length buff.length room)
  have some_size : got.size ≠ 0 := by
    rw [size]
    exact fun none => body (List.length_eq_zero_iff.1 none)
  have accepted : headerRead header (.data (headerBytes cmd buff.length)) = .body got := by
    rw [fills, filled, checkSize, if_neg some_size]
  have one : fullRead build sizeofHeader (createPacket cmd buff ++ rest) =
      some (.data (headerBytes cmd buff.length), buff ++ rest) := by
    rw [createPacket_layout body room, List.append_assoc]
    exact fullRead_append (headerBytes_length _ room) (build.len_of_lt (by decide))
  have two : fullRead build got.size (buff ++ rest) = some (.data buff, rest) := by
    rw [size]
    exact fullRead_append rfl len
  have whole : bodyRead got.size (.data buff) = some buff := by
    simp only [bodyRead, size, Nat.sub_self, List.replicate_zero, List.append_nil]
  exact ⟨got, recvWith_of_read one accepted two whole, packetHeader_command room free beyond⟩

theorem size_field (body : buff ≠ []) (room : cmd.length < sizeofType) :
    leVal (((createPacket cmd buff).drop 8).take 4) = leVal (le 4 buff.length) := by
  have drop : (createPacket cmd buff).drop 8 =
      le 4 buff.length ++ (cmd ++ List.replicate (20 - cmd.length) 0 ++ buff) := by
    rw [createPacket_layout body room, headerBytes]
    simp only [List.append_assoc]
    exact List.drop_left' (by rw [List.length_replicate])
  rw [drop, List.take_left' (le_length 4 _)]

theorem createPacket_length (body : buff ≠ []) (room : cmd.length < sizeofType) :
    (createPacket cmd buff).length = 32 + buff.length := by
  rw [createPacket_layout body room, List.length_append, headerBytes_length _ room]

/-- A packet that comes through is below the limit. -/
theorem Recovered.fits (h : Recovered build cmd buff) (body : buff ≠ []) (room : cmd.length < sizeofType) :
    buff.length < build.limit := by
  cases build with
  | windows =>
    have send := h.send
    rw [createPacket_length body room] at send
    have small := Build.len_windows.1 send
    simp only [Build.limit]
    omega
  | posix =>
    have size := h.size
    rw [size_field body room] at size
    have word := leVal_lt (le 4 buff.length)
    rw [le_length, size] at word
    exact word

theorem createPacket_eq_nil : createPacket cmd buff = [] ↔ buff = [] ∨ sizeofType ≤ cmd.length := by
  constructor
  · intro none
    by_contra full
    obtain ⟨body, long⟩ := not_or.1 full
    exact createPacket_ne_nil body (by omega) none
  · rintro (rfl | long)
    · exact if_pos rfl
    · unfold createPacket
      rw [if_neg (by omega : ¬ cmd.length < sizeofType), ite_self]

end

/-- **What the encoder lets through.** For every command without a NUL and every body, on either
build: the encoder refuses, or both programs recover the packet from full reads, if and only if
there is no body, the command does not fit its field, or the body is below the limit. -/
theorem recovered_iff {cmd : Str} (free : 0 ∉ cmd) (build : Build) (buff : Buffer) :
    (createPacket cmd buff = [] ∨ Recovered build cmd buff) ↔
      buff = [] ∨ sizeofType ≤ cmd.length ∨ buff.length < build.limit := by
  rw [createPacket_eq_nil, or_assoc]
  by_cases body : buff = []
  · exact iff_of_true (Or.inl body) (Or.inl body)
  by_cases room : cmd.length < sizeofType
  · constructor
    · rintro (none | long | recovered)
      · exact absurd none body
      · exact Or.inr (Or.inl long)
      · exact Or.inr (Or.inr (recovered.fits body room))
    · rintro (none | long | fits)
      · exact absurd none body
      · exact Or.inr (Or.inl long)
      · obtain ⟨word, len, whole⟩ := build.below_limit fits
        refine Or.inr (Or.inr ⟨?_, ?_, ?_, len, ?_, ?_⟩)
        · rw [size_field body room, leVal_le word]
        · rw [createPacket_length body room]
          exact whole
        · exact build.len_of_lt (by decide)
        · exact recvWith_recovers ServerClient.fills free body room fits
        · exact recvWith_recovers Client.fills free body room fits
  · exact iff_of_true (Or.inr (Or.inl (by omega))) (Or.inr (Or.inl (by omega)))

theorem recovered_hello :
    0 ∉ hello.cmd ∧ (Recovered .windows hello.cmd hello.body ∧ Recovered .posix hello.cmd hello.body) := by
  have free : 0 ∉ hello.cmd := by decide
  have full : createPacket hello.cmd hello.body ≠ [] := createPacket_ne_nil (by decide) (by decide)
  have all : ∀ build : Build, hello.body = [] ∨ sizeofType ≤ hello.cmd.length ∨ hello.body.length < build.limit := by
    intro build
    cases build <;> exact Or.inr (Or.inr (by decide))
  exact ⟨free, ((recovered_iff free .windows hello.body).2 (all _)).resolve_left full,
    ((recovered_iff free .posix hello.body).2 (all _)).resolve_left full⟩

/-- A body of `2^32` bytes is packed with the size 0, on either build. -/
theorem body_wraps : ¬ ∀ (build : Build) (cmd : Str) (buff : Buffer), 0 ∉ cmd →
    createPacket cmd buff = [] ∨ Recovered build cmd buff := by
  intro all
  let buff : Buffer := List.replicate (2 ^ 32) 97
  have len : buff.length = 2 ^ 32 := List.length_replicate
  have body : buff ≠ [] := List.ne_nil_of_length_pos (by omega)
  have room : (str "message").length < sizeofType := by decide
  have recovered := (all .posix (str "message") buff (by decide)).resolve_left (createPacket_ne_nil body room)
  have fits := recovered.fits body room
  simp only [Build.limit, len] at fits
  omega

end Gologin.Tcp
