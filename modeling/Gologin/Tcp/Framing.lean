import Gologin.Tcp.Recv

/-!
# Framing over a stream that is cut

Both receive loops make one `::recv` for a header and one for a body and take whatever
it returns. On reads that are never cut they hand over exactly the packets sent
(`loop_whole`); after the first read that is cut, some packets of the same commands and
body lengths come out wrong (`cut_misdelivers`). What differs between the two loops plays
no part: all that is used of them is that data received is laid over the header.
-/

namespace Gologin.Tcp
set_option autoImplicit false
open Bytes Segments

/-- `::recv` on a socket whose peer's stream the transport cuts at `cuts`. -/
def segmented (cuts : Cuts) (len : Nat) (w : Wire UInt8) : Option (RecvResult × Wire UInt8) :=
  (read cuts len w).map fun (got, w) => (.data got, w)

/-- The packets a sender may send: the command fits the `type` field with its NUL, and the
body is not empty and has a length below `2^31`. -/
structure Packet.Valid (p : Packet) : Prop where
  free : 0 ∉ p.cmd
  room : p.cmd.length < sizeofType
  body : p.body ≠ []
  fits : p.body.length < 2 ^ 31

/-- What the sender puts on the connection. -/
def sent (ps : List Packet) : List UInt8 := ps.flatMap fun p => createPacket p.cmd p.body

/-- Whatever the stack holds, any number of iterations of the server's loop dispatches the
packets sent, in order, and nothing else. -/
def ServerClient.Delivers (cuts : Cuts) (ps : List Packet) : Prop :=
  ∀ stack n, ServerClient.loop (segmented cuts) stack n 0 ⟨sent ps, 0⟩ = ps.take n

/-- The same for the client's loop. -/
def Client.Delivers (cuts : Cuts) (ps : List Packet) : Prop :=
  ∀ stack n, Client.loop (segmented cuts) stack n 0 ⟨sent ps, 0⟩ = ps.take n

/-- From the `2 * k`-th read on, every read of a header or a body returns it whole. -/
def Whole (cuts : Cuts) : Nat → List Packet → Prop
  | _, [] => True
  | k, p :: ps =>
    32 ≤ cuts.limit (2 * k) ∧ p.body.length ≤ cuts.limit (2 * k + 1) ∧ Whole cuts (k + 1) ps

/-- The same commands and body lengths. -/
def SameShape (ps qs : List Packet) : Prop :=
  List.Forall₂ (fun p q => p.cmd = q.cmd ∧ p.body.length = q.body.length) ps qs

/-- Data received for a header is laid over it, and then its size is checked. -/
def Fills (headerRead : PacketHeader → RecvResult → HeaderRead) : Prop :=
  ∀ header got, headerRead header (.data got) = checkSize (header.fill got)

theorem ServerClient.fills : Fills ServerClient.headerRead := fun _ _ => rfl

theorem Client.fills : Fills Client.headerRead := fun _ _ => rfl

theorem sent_cons {p : Packet} (h : p.Valid) (ps : List Packet) :
    sent (p :: ps) = headerBytes p.cmd p.body.length ++ (p.body ++ sent ps) := by
  simp only [sent, List.flatMap_cons, createPacket_layout h.body h.room, List.append_assoc]

theorem Packet.Valid.size {p : Packet} (h : p.Valid) :
    (packetHeader p.cmd p.body.length h.room).size = p.body.length := by
  apply packetHeader_size
  have := h.fits
  omega

theorem Packet.Valid.body_pos {p : Packet} (h : p.Valid) : 0 < p.body.length :=
  List.length_pos_of_ne_nil h.body

section
variable {headerRead : PacketHeader → RecvResult → HeaderRead} {cuts : Cuts}

/-! ## Reads that are not cut -/

theorem segmented_whole {xs rest : List UInt8} {k : Nat} (item : xs ≠ [])
    (whole : xs.length ≤ cuts.limit k) :
    segmented cuts xs.length ⟨xs ++ rest, k⟩ = some (.data xs, ⟨rest, k + 1⟩) := by
  rw [segmented, read_full item whole]
  rfl

/-- The header's read of a packet that is not cut. -/
theorem segmented_header {p : Packet} (h : p.Valid) {rest : List UInt8} {k : Nat}
    (whole : 32 ≤ cuts.limit k) :
    segmented cuts sizeofHeader ⟨headerBytes p.cmd p.body.length ++ rest, k⟩ =
      some (.data (headerBytes p.cmd p.body.length), ⟨rest, k + 1⟩) := by
  have len := headerBytes_length p.body.length h.room
  have item : headerBytes p.cmd p.body.length ≠ [] := List.ne_nil_of_length_pos (by omega)
  have := @segmented_whole cuts _ rest k item (by rw [len]; exact whole)
  rw [len] at this
  exact this

/-- A header received whole is the packet's, and announces its body. -/
theorem checkSize_whole {p : Packet} (h : p.Valid) (header : PacketHeader) :
    checkSize (header.fill (headerBytes p.cmd p.body.length)) =
      .body (packetHeader p.cmd p.body.length h.room) := by
  have whole : header.fill (headerBytes p.cmd p.body.length) =
      packetHeader p.cmd p.body.length h.room :=
    PacketHeader.mk.injEq _ _ _ _ ▸ header.fill_whole (headerBytes_length p.body.length h.room)
  have some_body : p.body.length ≠ 0 := Nat.pos_iff_ne_zero.1 h.body_pos
  rw [whole, checkSize, h.size, if_neg some_body]

theorem recv_whole (fills : Fills headerRead) {p : Packet} (h : p.Valid) {ps : List Packet} {k : Nat}
    (head : 32 ≤ cuts.limit k) (body : p.body.length ≤ cuts.limit (k + 1)) (header : PacketHeader) :
    recvWith headerRead (segmented cuts) header ⟨sent (p :: ps), k⟩ =
      some (.packet (packetHeader p.cmd p.body.length h.room) p.body, ⟨sent ps, k + 2⟩) := by
  have read : headerRead header (.data (headerBytes p.cmd p.body.length)) = _ :=
    (fills header _).trans (checkSize_whole h header)
  rw [sent_cons h, recvWith, segmented_header h head]
  simp only [Option.bind_some, read, h.size]
  rw [segmented_whole h.body body]
  simp only [Option.map_some, bodyRead, Nat.sub_self, List.replicate_zero, List.append_nil]

/-- One iteration of a loop on a packet that is not cut. -/
theorem loop_packet (fills : Fills headerRead) {goesOn : Bool} (stack : Nat → Stack) {p : Packet}
    (h : p.Valid) {ps : List Packet} (n k : Nat) (head : 32 ≤ cuts.limit (2 * k))
    (body : p.body.length ≤ cuts.limit (2 * k + 1)) :
    loopWith headerRead (segmented cuts) goesOn stack (n + 1) k ⟨sent (p :: ps), 2 * k⟩ =
      p :: loopWith headerRead (segmented cuts) goesOn stack n (k + 1) ⟨sent ps, 2 * (k + 1)⟩ := by
  rw [loopWith, recv_whole fills h head body]
  simp only [packetHeader_command h.room h.free]
  rfl

/-- **A receive loop on reads that are not cut.** -/
theorem loop_whole (fills : Fills headerRead) {goesOn : Bool} (stack : Nat → Stack) {ps : List Packet}
    (valid : ∀ p ∈ ps, p.Valid) (n k : Nat) (whole : Whole cuts k ps) :
    loopWith headerRead (segmented cuts) goesOn stack n k ⟨sent ps, 2 * k⟩ = ps.take n := by
  induction n generalizing k ps with
  | zero => rfl
  | succ n ih =>
    cases ps with
    | nil => rfl
    | cons p ps =>
      rw [loop_packet fills stack (valid p (by simp)) n k whole.1 whole.2.1, List.take_succ_cons]
      congr 1
      exact ih (fun q hq => valid q (by simp [hq])) (k + 1) whole.2.2

/-! ## The first read that is cut -/

/-- A header of which only the first `n` bytes were received keeps the rest of what was
there. -/
theorem fill_cut (header : PacketHeader) {bytes : List UInt8} (len : bytes.length = 32) {n : Nat}
    (cut : n ≤ 32) : (header.fill (bytes.take n)).bytes = bytes.take n ++ header.bytes.drop n := by
  have short : (bytes.take n).length = n := by rw [List.length_take, len]; omega
  rw [header.fill_bytes (by omega), short]

/-- The size does not depend on what is behind it. -/
theorem size_cut (header : PacketHeader) {bytes : List UInt8} (len : bytes.length = 32) {n : Nat}
    (past : 12 ≤ n) (cut : n ≤ 32) :
    (header.fill (bytes.take n)).size = leVal ((bytes.drop 8).take 4) := by
  have drop : (bytes.take n).drop 8 = (bytes.drop 8).take (n - 8) := List.drop_take
  unfold PacketHeader.size
  rw [fill_cut header len cut, List.drop_append_of_le_length (by rw [List.length_take, len]; omega),
    List.take_append_of_le_length (by simp only [List.length_drop, List.length_take, len]; omega),
    drop, List.take_take]
  congr 2
  omega

/-- A header whose size's high byte is left over from before announces more bytes than any
packet has. -/
theorem size_stale (header : PacketHeader) (high : header.bytes.drop 11 = 255 :: header.bytes.drop 12)
    {bytes : List UInt8} (len : bytes.length = 32) {n : Nat} (before : n < 12) :
    2 ^ 31 ≤ (header.fill (bytes.take n)).size := by
  have short : (bytes.take n).length = n := by rw [List.length_take, len]; omega
  have tail : ((bytes.take n ++ header.bytes.drop n).drop 8).drop 3 = 255 :: header.bytes.drop 12 := by
    rw [List.drop_drop, List.drop_append, List.drop_eq_nil_of_le (by omega), List.nil_append,
      List.drop_drop, short, show n + (8 + 3 - n) = 11 by omega, high]
  obtain ⟨low, split, three⟩ : ∃ low, (bytes.take n ++ header.bytes.drop n).drop 8 =
      low ++ 255 :: header.bytes.drop 12 ∧ low.length = 3 := by
    refine ⟨((bytes.take n ++ header.bytes.drop n).drop 8).take 3, ?_, ?_⟩
    · rw [← tail, List.take_append_drop]
    · have := header.length_eq
      simp only [List.length_take, List.length_drop, List.length_append, len]
      omega
  unfold PacketHeader.size
  rw [fill_cut header len (by omega), split, List.take_append, three,
    List.take_of_length_le (by omega)]
  simp only [List.take_succ_cons, Nat.reduceSub, List.take_zero, leVal_append, three, leVal]
  have : (255 : UInt8).toNat = 255 := rfl
  omega

/-- What a body's `::recv` leaves in a buffer resized to `len`. -/
def received (cuts : Cuts) (k len : Nat) (stream : List UInt8) : Buffer :=
  stream.take (min (cuts.limit k) len) ++
    List.replicate (len - (stream.take (min (cuts.limit k) len)).length) 0

theorem received_length (k len : Nat) (stream : List UInt8) :
    (received cuts k len stream).length = len := by
  simp only [received, List.length_append, List.length_replicate, List.length_take]
  omega

theorem received_head {k len : Nat} {v : UInt8} {rest : List UInt8} (pos : 0 < len) :
    (received cuts k len (v :: rest)).head? = some v := by
  have one : 1 ≤ min (cuts.limit k) len := by
    have := cuts.pos k
    omega
  obtain ⟨m, succ⟩ := Nat.exists_eq_add_of_le' one
  rw [received, succ]
  rfl

theorem received_last {k len : Nat} {stream : List UInt8} (cut : cuts.limit k < len) :
    (received cuts k len stream).getLast? = some 0 := by
  have some_zeros : 0 < len - (stream.take (min (cuts.limit k) len)).length := by
    rw [List.length_take]
    omega
  obtain ⟨m, zeros⟩ := Nat.exists_eq_add_of_le' some_zeros
  rw [received, zeros, List.getLast?_append, List.getLast?_replicate]
  rfl

/-- One iteration, whatever its header's read returned: the packet dispatched is what the
header says, over what comes next on the stream. -/
theorem loop_one (fills : Fills headerRead) {goesOn : Bool} {stack : Nat → Stack} {k j : Nat}
    {w : Wire UInt8} {got stream : List UInt8}
    (first : segmented cuts sizeofHeader w = some (.data got, ⟨stream, j⟩)) (item : stream ≠ [])
    (size : ((stack k).header.fill got).size ≠ 0) :
    loopWith headerRead (segmented cuts) goesOn stack 1 k w =
      [⟨((stack k).header.fill got).command (stack k).beyond,
        received cuts j ((stack k).header.fill got).size stream⟩] := by
  have head : headerRead (stack k).header (.data got) = .body ((stack k).header.fill got) := by
    rw [fills, checkSize, if_neg size]
  have body : segmented cuts ((stack k).header.fill got).size ⟨stream, j⟩ =
      some (.data (stream.take (min (cuts.limit j) ((stack k).header.fill got).size)),
        ⟨stream.drop (min (cuts.limit j) ((stack k).header.fill got).size), j + 1⟩) := by
    simp only [segmented, Segments.read, item, if_false, Option.map_some]
  simp only [loopWith, recvWith, first, Option.bind_some, head, body, Option.map_some, bodyRead]
  rfl

/-- A cut header's read. -/
theorem segmented_cut_header {p : Packet} (h : p.Valid) {rest : List UInt8} {k : Nat}
    (cut : cuts.limit k < 32) :
    segmented cuts sizeofHeader ⟨headerBytes p.cmd p.body.length ++ rest, k⟩ =
      some (.data ((headerBytes p.cmd p.body.length).take (cuts.limit k)),
        ⟨(headerBytes p.cmd p.body.length).drop (cuts.limit k) ++ rest, k + 1⟩) := by
  have len := headerBytes_length p.body.length h.room
  rw [segmented, read_cut (show cuts.limit k ≤ sizeofHeader from Nat.le_of_lt cut) (by omega)]
  rfl

/-- A header cut before its size is complete: left-over bytes make a body longer than any
packet's. -/
theorem cut_in_size (fills : Fills headerRead) {goesOn : Bool} {p : Packet} (h : p.Valid)
    (ps : List Packet) {k : Nat} (cut : cuts.limit (2 * k) < 12) :
    ∃ stack, loopWith headerRead (segmented cuts) goesOn stack 1 k ⟨sent (p :: ps), 2 * k⟩ ≠ [p] := by
  let left : PacketHeader := ⟨List.replicate 32 255, List.length_replicate⟩
  have len := headerBytes_length p.body.length h.room
  have huge := size_stale left rfl len cut
  refine ⟨fun _ => ⟨left, []⟩, ?_⟩
  rw [sent_cons h, loop_one fills (segmented_cut_header h (Nat.lt_trans cut (by decide))) ?_ ?_]
  · intro same
    have body := congrArg (fun q => q.body.length) (List.cons.inj same).1
    simp only [received_length] at body
    have := h.fits
    omega
  · exact fun e => h.body (List.append_eq_nil_iff.1 (List.append_eq_nil_iff.1 e).2).1
  · show (left.fill _).size ≠ 0
    omega

/-- A header cut behind its size: the rest of it is taken for the start of the body. -/
theorem cut_behind_size (fills : Fills headerRead) {goesOn : Bool} {p : Packet} (h : p.Valid)
    (ps : List Packet) {k : Nat} (past : 12 ≤ cuts.limit (2 * k)) (cut : cuts.limit (2 * k) < 32) :
    ∃ q stack, q.cmd = p.cmd ∧ q.body.length = p.body.length ∧
      loopWith headerRead (segmented cuts) goesOn stack 1 k ⟨sent (q :: ps), 2 * k⟩ ≠ [q] := by
  have len := headerBytes_length p.body.length h.room
  obtain ⟨v, more, next⟩ : ∃ v more,
      (headerBytes p.cmd p.body.length).drop (cuts.limit (2 * k)) = v :: more :=
    List.exists_cons_of_length_pos (by rw [List.length_drop]; omega)
  obtain ⟨x, other⟩ : ∃ x : UInt8, x ≠ v := by
    by_cases one : v = 1
    · exact ⟨2, by rw [one]; decide⟩
    · exact ⟨1, Ne.symm one⟩
  let q : Packet := ⟨p.cmd, List.replicate p.body.length x⟩
  have same_length : q.body.length = p.body.length := List.length_replicate
  have pos := h.body_pos
  have hq : q.Valid :=
    ⟨h.free, h.room, List.ne_nil_of_length_pos (by omega), same_length ▸ h.fits⟩
  let left : PacketHeader := ⟨List.replicate 32 0, List.length_replicate⟩
  have size : (left.fill ((headerBytes q.cmd q.body.length).take (cuts.limit (2 * k)))).size =
      p.body.length := by
    rw [size_cut left (headerBytes_length _ hq.room) past (Nat.le_of_lt cut), ← same_length]
    exact hq.size
  refine ⟨q, fun _ => ⟨left, []⟩, rfl, same_length, ?_⟩
  rw [sent_cons hq, loop_one fills (segmented_cut_header hq cut) ?_ ?_]
  · intro same
    have body := congrArg (fun q => q.body.head?) (List.cons.inj same).1
    obtain ⟨n, some_body⟩ := Nat.exists_eq_add_of_le' pos
    have mine : q.body.head? = some x := by
      simp only [q, some_body, List.replicate_succ, List.head?_cons]
    simp only [size] at body
    rw [same_length, show q.cmd = p.cmd from rfl, next, List.cons_append, received_head pos, mine] at body
    exact other (Option.some.inj body).symm
  · exact fun e => hq.body (List.append_eq_nil_iff.1 (List.append_eq_nil_iff.1 e).2).1
  · show (left.fill _).size ≠ 0
    omega

/-- A body that is cut: its buffer keeps the zeros it was resized with. -/
theorem cut_in_body (fills : Fills headerRead) {goesOn : Bool} {p : Packet} (h : p.Valid)
    (ps : List Packet) {k : Nat} (whole : 32 ≤ cuts.limit (2 * k))
    (cut : cuts.limit (2 * k + 1) < p.body.length) :
    ∃ q stack, q.cmd = p.cmd ∧ q.body.length = p.body.length ∧
      loopWith headerRead (segmented cuts) goesOn stack 1 k ⟨sent (q :: ps), 2 * k⟩ ≠ [q] := by
  let q : Packet := ⟨p.cmd, List.replicate p.body.length 1⟩
  have same_length : q.body.length = p.body.length := List.length_replicate
  have pos := h.body_pos
  have hq : q.Valid :=
    ⟨h.free, h.room, List.ne_nil_of_length_pos (by omega), same_length ▸ h.fits⟩
  let left : PacketHeader := ⟨List.replicate 32 0, List.length_replicate⟩
  have header : left.fill (headerBytes q.cmd q.body.length) =
      packetHeader q.cmd q.body.length hq.room :=
    PacketHeader.mk.injEq _ _ _ _ ▸ left.fill_whole (headerBytes_length _ hq.room)
  refine ⟨q, fun _ => ⟨left, []⟩, rfl, same_length, ?_⟩
  rw [sent_cons hq, loop_one fills (segmented_header hq whole) ?_ ?_]
  · intro same
    have body := congrArg (fun q => q.body.getLast?) (List.cons.inj same).1
    obtain ⟨n, some_body⟩ := Nat.exists_eq_add_of_le' pos
    have mine : q.body.getLast? = some 1 := by
      simp only [q, some_body, List.getLast?_replicate]
      rfl
    simp only [header, hq.size] at body
    rw [same_length, received_last cut, mine] at body
    exact absurd body (by decide)
  · exact fun e => hq.body (List.append_eq_nil_iff.1 e).1
  · show (left.fill _).size ≠ 0
    rw [header, hq.size]
    omega

theorem SameShape.refl (ps : List Packet) : SameShape ps ps := by
  induction ps with
  | nil => exact .nil
  | cons p ps ih => exact .cons ⟨rfl, rfl⟩ ih

theorem SameShape.valid {ps qs : List Packet} (same : SameShape qs ps) (valid : ∀ p ∈ ps, p.Valid) :
    ∀ q ∈ qs, q.Valid := by
  induction same with
  | nil => simp
  | @cons q p qs ps here _ ih =>
    have h := valid p (by simp)
    have pos := h.body_pos
    have hq : q.Valid := ⟨here.1 ▸ h.free, here.1 ▸ h.room,
      List.ne_nil_of_length_pos (here.2 ▸ pos), here.2 ▸ h.fits⟩
    intro q' member
    rcases List.mem_cons.1 member with rfl | later
    · exact hq
    · exact ih (fun p hp => valid p (by simp [hp])) q' later

theorem SameShape.whole {ps qs : List Packet} (same : SameShape qs ps) {k : Nat}
    (whole : Whole cuts k ps) : Whole cuts k qs := by
  induction same generalizing k with
  | nil => trivial
  | cons here _ ih => exact ⟨whole.1, here.2 ▸ whole.2.1, ih whole.2.2⟩

/-- **A read that is cut.** Some packets of the same commands and body lengths, received
over some stack, are not handed over as they were sent. -/
theorem cut_misdelivers (fills : Fills headerRead) {goesOn : Bool} {ps : List Packet}
    (valid : ∀ p ∈ ps, p.Valid) (k : Nat) (cut : ¬ Whole cuts k ps) :
    ∃ qs, SameShape qs ps ∧
      ∃ stack n, loopWith headerRead (segmented cuts) goesOn stack n k ⟨sent qs, 2 * k⟩ ≠ qs.take n := by
  induction ps generalizing k with
  | nil => exact absurd trivial cut
  | cons p ps ih =>
    have h := valid p (by simp)
    by_cases head : 32 ≤ cuts.limit (2 * k)
    · by_cases body : p.body.length ≤ cuts.limit (2 * k + 1)
      · have later : ¬ Whole cuts (k + 1) ps := fun rest => cut ⟨head, body, rest⟩
        obtain ⟨qs, same, stack, n, wrong⟩ := ih (fun q hq => valid q (by simp [hq])) (k + 1) later
        refine ⟨p :: qs, .cons ⟨rfl, rfl⟩ same, stack, n + 1, ?_⟩
        rw [loop_packet fills stack h n k head body, List.take_succ_cons]
        exact fun e => wrong (List.cons.inj e).2
      · obtain ⟨q, stack, cmd, len, wrong⟩ := cut_in_body fills h ps head (Nat.lt_of_not_le body)
        exact ⟨q :: ps, .cons ⟨cmd, len⟩ (SameShape.refl ps), stack, 1, wrong⟩
    · by_cases past : 12 ≤ cuts.limit (2 * k)
      · obtain ⟨q, stack, cmd, len, wrong⟩ :=
          cut_behind_size fills h ps past (Nat.lt_of_not_le head)
        exact ⟨q :: ps, .cons ⟨cmd, len⟩ (SameShape.refl ps), stack, 1, wrong⟩
      · obtain ⟨stack, wrong⟩ := cut_in_size fills h ps (Nat.lt_of_not_le past)
        exact ⟨p :: ps, .refl _, stack, 1, wrong⟩

end

/-- **Framing survives exactly the segmentations that cut no read.** For the packets `ps`
and the segmentation `cuts`: each loop hands over every sequence of packets of these
commands and body lengths, whatever the stack holds, if and only if every `::recv` returns
as many bytes as it was asked for. -/
theorem framing_iff_whole (cuts : Cuts) (ps : List Packet) (valid : ∀ p ∈ ps, p.Valid) :
    ((∀ qs, SameShape qs ps → ServerClient.Delivers cuts qs) ↔ Whole cuts 0 ps) ∧
      ((∀ qs, SameShape qs ps → Client.Delivers cuts qs) ↔ Whole cuts 0 ps) := by
  refine ⟨⟨?_, ?_⟩, ⟨?_, ?_⟩⟩
  · intro delivers
    by_contra cut
    obtain ⟨qs, same, stack, n, wrong⟩ := cut_misdelivers ServerClient.fills valid 0 cut
    exact wrong (delivers qs same stack n)
  · intro whole qs same stack n
    exact loop_whole ServerClient.fills stack (same.valid valid) n 0 (same.whole whole)
  · intro delivers
    by_contra cut
    obtain ⟨qs, same, stack, n, wrong⟩ := cut_misdelivers Client.fills valid 0 cut
    exact wrong (delivers qs same stack n)
  · intro whole qs same stack n
    exact loop_whole Client.fills stack (same.valid valid) n 0 (same.whole whole)

/-- A `hello` packet. -/
def hello : Packet := ⟨str "hello", str "\x7b\x7d"⟩

/-- A transport that never cuts it, and one that hands its header over in two halves. -/
def wide : Cuts := ⟨fun _ => 32, fun _ => by decide⟩

def halves : Cuts := ⟨fun _ => 16, fun _ => by decide⟩

theorem hello_valid : ∀ p ∈ [hello], p.Valid := by
  intro p member
  rw [List.mem_singleton.1 member]
  exact ⟨by decide, by decide, by decide, by decide⟩

theorem framing_hello :
    (ServerClient.Delivers wide [hello] ∧ Client.Delivers wide [hello]) ∧
      ¬ ∀ qs, SameShape qs [hello] → ServerClient.Delivers halves qs := by
  have whole : Whole wide 0 [hello] := ⟨by decide, by decide, trivial⟩
  have cut : ¬ Whole halves 0 [hello] := fun h => absurd h.1 (by decide)
  refine ⟨⟨?_, ?_⟩, ?_⟩
  · exact (framing_iff_whole wide [hello] hello_valid).1.2 whole _ (SameShape.refl _)
  · exact (framing_iff_whole wide [hello] hello_valid).2.2 whole _ (SameShape.refl _)
  · exact fun delivers => cut ((framing_iff_whole halves [hello] hello_valid).1.1 delivers)

/-- The server's loop takes the second half of the header for the body. -/
theorem hello_in_halves :
    ¬ ∀ (cuts : Cuts) (ps : List Packet), (∀ p ∈ ps, p.Valid) →
      ServerClient.Delivers cuts ps ∧ Client.Delivers cuts ps := by
  intro framing
  have delivers := (framing halves [hello] hello_valid).1
    (fun _ => ⟨⟨List.replicate 32 0, rfl⟩, []⟩) 1
  exact absurd delivers (by decide)

end Gologin.Tcp
