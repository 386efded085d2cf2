import Gologin.Lib.Bytes
import Gologin.Lib.Utf8

/-!
# The types every component shares

`std::string` and `buffer_t` are byte lists: the code moves text between the two without
looking at its encoding, and one place writes a `std::string` that is not UTF-8.
-/

namespace Gologin
set_option autoImplicit false
open Bytes

/-- `std::string`, and `cmd_t`. -/
abbrev Str : Type := List UInt8

/-- `core::types::buffer_t`. -/
abbrev Buffer : Type := List UInt8

/-- The bytes of an ASCII literal. -/
def str (s : String) : Str := s.toList.map fun c => UInt8.ofNat c.toNat

/-- An ASCII literal is UTF-8. -/
theorem str_utf8 {s : String} (ascii : (str s).all (fun b => decide (b < 0x80)) = true) :
    Utf8.valid (str s) = true :=
  Utf8.valid_of_ascii fun b member => of_decide_eq_true (List.all_eq_true.1 ascii b member)

/-- The C string at the start of some memory. -/
def cString (memory : List UInt8) : Str := memory.takeWhile (· ≠ 0)

/-- A C string that is terminated ends at its first NUL, whatever follows it. -/
theorem cString_terminated {text rest : List UInt8} (free : 0 ∉ text) :
    cString (text ++ 0 :: rest) = text := by
  unfold cString
  induction text with
  | nil => simp
  | cons b text ih =>
    obtain ⟨first, more⟩ := not_or.1 (List.mem_cons.not.1 free)
    rw [List.cons_append, List.takeWhile_cons_of_pos (by simpa using Ne.symm first), ih more]

/-- A C string whose NUL is found does not depend on what lies behind. -/
theorem cString_append {text rest : List UInt8} (found : 0 ∈ text) : cString (text ++ rest) = cString text := by
  unfold cString
  induction text with
  | nil => cases found
  | cons b text ih =>
    by_cases zero : b = 0
    · subst zero
      rfl
    · have later : 0 ∈ text := (List.mem_cons.1 found).resolve_left (Ne.symm zero)
      rw [List.cons_append, List.takeWhile_cons_of_pos (by simpa using zero),
        List.takeWhile_cons_of_pos (by simpa using zero), ih later]

/-- A C string ends at a NUL. -/
theorem cString_stop {text : List UInt8} (found : 0 ∈ text) :
    (cString text).length < text.length ∧ text[(cString text).length]? = some 0 := by
  unfold cString
  induction text with
  | nil => cases found
  | cons b text ih =>
    by_cases zero : b = 0
    · subst zero
      exact ⟨Nat.zero_lt_succ _, rfl⟩
    · obtain ⟨short, stop⟩ := ih ((List.mem_cons.1 found).resolve_left (Ne.symm zero))
      rw [List.takeWhile_cons_of_pos (by simpa using zero)]
      exact ⟨Nat.succ_lt_succ short, by simpa using stop⟩

/-- `core::types::client_cookies_t`: the socket handle of a connection. -/
structure ClientCookies where
  serverClientId : Nat
  deriving DecidableEq, Repr

/-- `core::types::packet_header_t` as it lies in memory: `sign` (8 bytes), `size` (4),
`type` (16) and 4 bytes of padding. -/
structure PacketHeader where
  bytes : List UInt8
  length_eq : bytes.length = 32
  deriving DecidableEq, Repr

/-- `sizeof(packet_header_t)`. -/
def sizeofHeader : Nat := 32

/-- `sizeof(packet_header_t::type)`. -/
def sizeofType : Nat := 16

namespace PacketHeader

def size (h : PacketHeader) : Nat := leVal ((h.bytes.drop 8).take 4)

def type (h : PacketHeader) : List UInt8 := (h.bytes.drop 12).take sizeofType

/-- `std::string{_header.type}`: reads on from `type` until a NUL, past the header into
the memory `beyond` it when there is none. -/
def command (h : PacketHeader) (beyond : List UInt8) : Str := cString (h.bytes.drop 12 ++ beyond)

theorem type_length (h : PacketHeader) : h.type.length = sizeofType := by
  have := h.length_eq
  simp only [type, sizeofType, List.length_take, List.length_drop]
  omega

/-- The memory from `type` on is the field, the padding behind it and what lies beyond. -/
theorem command_eq (h : PacketHeader) (beyond : List UInt8) :
    h.command beyond = cString (h.type ++ (h.bytes.drop 28 ++ beyond)) := by
  have split : h.bytes.drop 12 = h.type ++ h.bytes.drop 28 := by
    have whole := (List.take_append_drop sizeofType (h.bytes.drop 12)).symm
    rw [List.drop_drop] at whole
    exact whole
  rw [command, split, List.append_assoc]

/-- The header after `got` was received over it. -/
def fill (h : PacketHeader) (got : List UInt8) : PacketHeader where
  bytes := got.take 32 ++ h.bytes.drop (got.take 32).length
  length_eq := by
    have := h.length_eq
    simp only [List.length_append, List.length_take, List.length_drop]
    omega

theorem fill_bytes (h : PacketHeader) {got : List UInt8} (short : got.length ≤ 32) :
    (h.fill got).bytes = got ++ h.bytes.drop got.length := by
  simp only [fill, List.take_of_length_le short]

/-- A whole header leaves nothing of what was there. -/
theorem fill_whole (h : PacketHeader) {got : List UInt8} (whole : got.length = 32) :
    (h.fill got).bytes = got := by
  rw [fill_bytes h (by omega), whole, List.drop_eq_nil_of_le (Nat.le_of_eq h.length_eq),
    List.append_nil]

end PacketHeader

end Gologin
