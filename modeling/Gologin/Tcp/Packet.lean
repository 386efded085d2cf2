import Gologin.Core.Types

/-!
# Packets

`create_packet` of `tcp/core/core.cpp` and the layout of what it makes.
-/

namespace Gologin.Tcp
set_option autoImplicit false
open Bytes

/-- `create_packet`: a zeroed buffer with the size, the command and the body copied in;
empty when there is no body or the command leaves no room for a NUL. -/
def createPacket (cmd : Str) (buff : Buffer) : Buffer :=
  if buff = [] then []
  else if cmd.length < sizeofType then
    let packet := List.replicate (buff.length + sizeofHeader) (0 : UInt8)
    let packet := poke packet 8 (le 4 buff.length)
    let packet := poke packet 12 cmd
    poke packet 32 buff
  else []

/-- The header of a packet. -/
def headerBytes (cmd : Str) (size : Nat) : List UInt8 :=
  List.replicate 8 0 ++ le 4 size ++ cmd ++ List.replicate (20 - cmd.length) 0

theorem headerBytes_length {cmd : Str} (size : Nat) (room : cmd.length < sizeofType) :
    (headerBytes cmd size).length = 32 := by
  simp only [sizeofType] at room
  simp only [headerBytes, List.length_append, List.length_replicate, le_length]
  omega

/-- **The layout of a packet.** -/
theorem createPacket_layout {cmd : Str} {buff : Buffer} (body : buff ≠ [])
    (room : cmd.length < sizeofType) : createPacket cmd buff = headerBytes cmd buff.length ++ buff := by
  have short := room
  simp only [sizeofType] at short
  have zeros : List.replicate (buff.length + sizeofHeader) (0 : UInt8) =
      List.replicate 8 0 ++ List.replicate (24 + buff.length) 0 := by
    rw [← List.replicate_add]
    congr 1
    simp only [sizeofHeader]
    omega
  have size : poke (List.replicate (buff.length + sizeofHeader) (0 : UInt8)) 8 (le 4 buff.length) =
      (List.replicate 8 0 ++ le 4 buff.length) ++ List.replicate (20 + buff.length) 0 := by
    rw [zeros]
    have store := poke_replicate (List.replicate 8 (0 : UInt8)) (le 4 buff.length) 0
      (show (le 4 buff.length).length ≤ 24 + buff.length by rw [le_length]; omega)
    rw [List.length_replicate, le_length] at store
    rw [store]
    congr 2
    omega
  have head : (List.replicate 8 (0 : UInt8) ++ le 4 buff.length).length = 12 := by
    simp only [List.length_append, List.length_replicate, le_length]
  have type : poke (List.replicate 8 0 ++ le 4 buff.length ++ List.replicate (20 + buff.length) 0) 12 cmd =
      headerBytes cmd buff.length ++ List.replicate buff.length 0 := by
    have store := poke_replicate (List.replicate 8 (0 : UInt8) ++ le 4 buff.length) cmd 0
      (show cmd.length ≤ 20 + buff.length by omega)
    rw [head] at store
    rw [store, headerBytes, List.append_assoc _ (List.replicate _ _), ← List.replicate_add]
    congr 2
    omega
  have whole : poke (headerBytes cmd buff.length ++ List.replicate buff.length 0) 32 buff =
      headerBytes cmd buff.length ++ buff := by
    have store := poke_replicate (headerBytes cmd buff.length) buff 0 (Nat.le_refl _)
    rw [headerBytes_length _ room] at store
    rw [store, Nat.sub_self, List.replicate_zero, List.append_nil]
  simp only [createPacket, body, if_false, room, if_true, size, type, whole]

theorem createPacket_ne_nil {cmd : Str} {buff : Buffer} (some_ : buff ≠ []) (room : cmd.length < sizeofType) :
    createPacket cmd buff ≠ [] := by
  rw [createPacket_layout some_ room]
  exact List.append_ne_nil_of_right_ne_nil _ some_

/-- The header that a whole packet's first 32 bytes make. -/
def packetHeader (cmd : Str) (size : Nat) (room : cmd.length < sizeofType) : PacketHeader :=
  ⟨headerBytes cmd size, headerBytes_length size room⟩

theorem packetHeader_size {cmd : Str} {size : Nat} (room : cmd.length < sizeofType)
    (fits : size < 256 ^ 4) : (packetHeader cmd size room).size = size := by
  have drop : (headerBytes cmd size).drop 8 = le 4 size ++ (cmd ++ List.replicate (20 - cmd.length) 0) := by
    rw [headerBytes, List.append_assoc, List.append_assoc]
    exact List.drop_left' (by rw [List.length_replicate])
  unfold PacketHeader.size packetHeader
  simp only
  rw [drop, List.take_left' (le_length 4 size), leVal_le fits]

theorem packetHeader_command {cmd : Str} {size : Nat} (room : cmd.length < sizeofType)
    (free : 0 ∉ cmd) (beyond : List UInt8) : (packetHeader cmd size room).command beyond = cmd := by
  have drop : (headerBytes cmd size).drop 12 = cmd ++ List.replicate (20 - cmd.length) 0 := by
    rw [headerBytes, List.append_assoc]
    exact List.drop_left' (by simp only [List.length_append, List.length_replicate, le_length])
  have zeros : List.replicate (20 - cmd.length) (0 : UInt8) =
      0 :: List.replicate (19 - cmd.length) 0 := by
    simp only [sizeofType] at room
    rw [← List.replicate_succ]
    congr 1
    omega
  unfold PacketHeader.command packetHeader
  simp only
  rw [drop, zeros, List.append_assoc, List.cons_append]
  exact cString_terminated free

end Gologin.Tcp
