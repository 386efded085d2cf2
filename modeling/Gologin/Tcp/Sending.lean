import Gologin.Lib.Runs
import Gologin.Tcp.Packet
import Gologin.Tcp.Recv

/-!
# Sending

`client_base::send` of `tcp/core/core.cpp`, called by several threads on one connection: the
handler of the connection sends its replies, and the handlers of others send broadcasts
through `server::send_to`. Each `::send` is atomic and accepts a prefix of the packet.
-/

namespace Gologin.Tcp
set_option autoImplicit false

/-- What `::send` returns: the number of bytes accepted, or `-1`. -/
inductive SendResult where
  | accepted (n : Nat)
  | failed
  deriving DecidableEq, Repr

/-- `::send` accepts at most the length of its argument. -/
def SendResult.Fits (len : Nat) : SendResult → Prop
  | .accepted n => n ≤ len
  | .failed => True

instance (len : Nat) : (res : SendResult) → Decidable (res.Fits len)
  | .accepted n => inferInstanceAs (Decidable (n ≤ len))
  | .failed => isTrue trivial

/-- `client_base::send`: whether it returns `true`, and the bytes that the transport takes. -/
def ClientBase.send (packet : Packet) (res : SendResult) : Bool × List UInt8 :=
  if createPacket packet.cmd packet.body = [] then (false, [])
  else
    match res with
    | .accepted n => (true, (createPacket packet.cmd packet.body).take n)
    | .failed => (false, [])

/-- A connection that threads send on: what each thread has to send yet, the bytes accepted,
and the packets whose `send` returned `true`. -/
structure Outgoing where
  todo : List (List Packet)
  stream : List UInt8
  succeeded : List Packet
  deriving DecidableEq, Repr

/-- A step: the thread whose turn it is, and what its `::send` returns. -/
structure Sends where
  thread : Nat
  res : SendResult
  deriving DecidableEq, Repr

namespace Outgoing

/-- Before the first `send`. -/
def init (todo : List (List Packet)) : Outgoing := ⟨todo, [], []⟩

/-- The next `send` of a thread. -/
def step (s : Outgoing) (e : Sends) : Option Outgoing :=
  match s.todo[e.thread]? with
  | some (packet :: rest) =>
    if e.res.Fits (createPacket packet.cmd packet.body).length then
      some
        { todo := s.todo.set e.thread rest
          stream := s.stream ++ (ClientBase.send packet e.res).2
          succeeded := if (ClientBase.send packet e.res).1 then s.succeeded ++ [packet] else s.succeeded }
    else none
  | _ => none

/-- The bytes of whole packets. -/
def bytes (packets : List Packet) : List UInt8 := packets.flatMap fun packet => createPacket packet.cmd packet.body

/-- The bytes accepted are those of the packets whose `send` returned `true`. -/
def WholePackets (s : Outgoing) : Prop := s.stream = bytes s.succeeded

/-- The `::send` accepts the whole packet, or fails. -/
def Uncut (s : Outgoing) (e : Sends) : Prop :=
  ∀ packet ∈ s.todo[e.thread]?.bind List.head?,
    e.res = .failed ∨ e.res = .accepted (createPacket packet.cmd packet.body).length

instance (s : Outgoing) (e : Sends) : Decidable (Uncut s e) :=
  inferInstanceAs (Decidable (∀ packet ∈ s.todo[e.thread]?.bind List.head?,
    e.res = .failed ∨ e.res = .accepted (createPacket packet.cmd packet.body).length))

section
variable {s s' : Outgoing} {e : Sends}

theorem bytes_concat (packets : List Packet) (packet : Packet) :
    bytes (packets ++ [packet]) = bytes packets ++ createPacket packet.cmd packet.body := by
  rw [bytes, List.flatMap_append, List.flatMap_singleton]
  rfl

/-- A step fails, or a prefix of its packet is accepted and its `send` returns `true`. -/
theorem step_cases (taken : step s e = some s') :
    ∃ packet, s.todo[e.thread]?.bind List.head? = some packet ∧
      ((s'.stream = s.stream ∧ s'.succeeded = s.succeeded ∧
          (e.res = .failed ∨ e.res = .accepted (createPacket packet.cmd packet.body).length)) ∨
        ∃ n, e.res = .accepted n ∧ n ≤ (createPacket packet.cmd packet.body).length ∧
          s'.stream = s.stream ++ (createPacket packet.cmd packet.body).take n ∧
          s'.succeeded = s.succeeded ++ [packet]) := by
  unfold step at taken
  split at taken
  · rename_i packet rest next
    split at taken
    · rename_i bounded
      obtain rfl := Option.some.inj taken
      refine ⟨packet, by rw [next]; rfl, ?_⟩
      simp only
      unfold ClientBase.send
      by_cases empty : createPacket packet.cmd packet.body = []
      · refine Or.inl ⟨by simp [empty], by simp [empty], ?_⟩
        rw [empty] at bounded ⊢
        cases res : e.res with
        | accepted n =>
          rw [res] at bounded
          exact Or.inr (congrArg _ (Nat.le_zero.1 bounded))
        | failed => exact Or.inl rfl
      · simp only [if_neg empty]
        cases res : e.res with
        | accepted n =>
          rw [res] at bounded
          exact Or.inr ⟨n, rfl, bounded, rfl, rfl⟩
        | failed => exact Or.inl ⟨List.append_nil _, rfl, Or.inl rfl⟩
    · cases taken
  · cases taken

/-- No more bytes are accepted than the packets have, and when as many are, they are these. -/
structure Bounded (s : Outgoing) : Prop where
  length : s.stream.length ≤ (bytes s.succeeded).length
  whole : s.stream.length = (bytes s.succeeded).length → s.WholePackets

theorem bounded_init (todo : List (List Packet)) : Bounded (init todo) := ⟨Nat.le_refl _, fun _ => rfl⟩

theorem bounded_step (h : Bounded s) (taken : step s e = some s') : Bounded s' := by
  obtain ⟨packet, next, ⟨stream, succeeded, _⟩ | ⟨n, res, fits, stream, succeeded⟩⟩ := step_cases taken
  · constructor
    · rw [stream, succeeded]
      exact h.length
    · unfold WholePackets
      rw [stream, succeeded]
      exact h.whole
  · have old := h.length
    constructor
    · rw [stream, succeeded, bytes_concat]
      simp only [List.length_append, List.length_take]
      omega
    · unfold WholePackets
      rw [stream, succeeded, bytes_concat]
      simp only [List.length_append, List.length_take]
      intro same
      have all : n = (createPacket packet.cmd packet.body).length := by omega
      have before : s.WholePackets := h.whole (by omega)
      rw [all, List.take_length, before]

/-- A packet that is cut is never made up for. -/
theorem whole_step (h : Bounded s) (taken : step s e = some s') : s'.WholePackets ↔ s.WholePackets ∧ Uncut s e := by
  obtain ⟨packet, next, ⟨stream, succeeded, all⟩ | ⟨n, res, fits, stream, succeeded⟩⟩ := step_cases taken
  · unfold WholePackets
    rw [stream, succeeded]
    refine ⟨fun whole => ⟨whole, fun packet' there => ?_⟩, fun whole => whole.1⟩
    cases next.symm.trans there
    exact all
  · have old := h.length
    constructor
    · intro whole
      have same := congrArg List.length whole
      rw [stream, succeeded, bytes_concat] at same
      simp only [List.length_append, List.length_take] at same
      refine ⟨h.whole (by omega), fun packet' there => ?_⟩
      cases next.symm.trans there
      rw [res]
      exact Or.inr (congrArg _ (by omega))
    · rintro ⟨whole, uncut⟩
      have all : n = (createPacket packet.cmd packet.body).length := by
        rcases uncut packet next with failed | accepted
        · cases res.symm.trans failed
        · exact SendResult.accepted.inj (res.symm.trans accepted)
      unfold WholePackets
      rw [stream, succeeded, bytes_concat, all, List.take_length, whole]

end

end Outgoing

/-- **Streams of whole packets.** For every interleaving of the threads and every outcome of
each `::send`: the bytes accepted are the packets whose `send` returned `true`, whole and in
order, if and only if every `::send` of the run accepts its whole packet or fails. -/
theorem whole_packets_iff {todo : List (List Packet)} {es : List Sends} {s : Outgoing}
    (run : Runs.exec Outgoing.step (Outgoing.init todo) es = some s) :
    s.WholePackets ↔ Runs.Along Outgoing.step Outgoing.Uncut (Outgoing.init todo) es := by
  have from_ : ∀ (es : List Sends) (start : Outgoing), start.Bounded → Runs.exec Outgoing.step start es = some s →
      (s.WholePackets ↔ start.WholePackets ∧ Runs.Along Outgoing.step Outgoing.Uncut start es) := by
    intro es
    induction es with
    | nil =>
      intro start _ run
      cases run
      exact ⟨fun whole => ⟨whole, trivial⟩, fun whole => whole.1⟩
    | cons e es ih =>
      intro start bounded run
      obtain ⟨m, taken, rest⟩ := Runs.exec_cons_some run
      rw [ih m (Outgoing.bounded_step bounded taken) rest, Outgoing.whole_step bounded taken]
      constructor
      · rintro ⟨⟨whole, uncut⟩, later⟩
        refine ⟨whole, uncut, fun m' taken' => ?_⟩
        cases taken.symm.trans taken'
        exact later
      · rintro ⟨whole, uncut, later⟩
        exact ⟨⟨whole, uncut⟩, later m taken⟩
  rw [from_ es _ (Outgoing.bounded_init todo) run]
  exact ⟨fun h => h.2, fun h => ⟨rfl, h⟩⟩

/-- A reply and a broadcast on one connection. -/
def replyAndBroadcast : List (List Packet) := [[⟨str "login", str "\x7b\x7d"⟩], [⟨str "message", str "\x7b\x7d"⟩]]

theorem whole_packets_both :
    ∃ s, Runs.exec Outgoing.step (Outgoing.init replyAndBroadcast) [⟨1, .accepted 34⟩, ⟨0, .accepted 34⟩] = some s ∧
      s.WholePackets := by
  obtain ⟨s, run, _⟩ := Option.map_eq_some_iff.1
    (show (Runs.exec Outgoing.step (Outgoing.init replyAndBroadcast) [⟨1, .accepted 34⟩, ⟨0, .accepted 34⟩]).map
      (fun s => s.succeeded.length) = some 2 by decide +kernel)
  exact ⟨s, run, (whole_packets_iff run).2 (by decide +kernel)⟩

/-- The reply is cut after its header, and the broadcast follows: the peer takes the next header
for the body. -/
theorem packet_cut :
    ¬ ∀ (todo : List (List Packet)) (es : List Sends) (s : Outgoing),
      Runs.exec Outgoing.step (Outgoing.init todo) es = some s → s.WholePackets := by
  intro whole
  obtain ⟨s, run, cut⟩ := Option.map_eq_some_iff.1
    (show (Runs.exec Outgoing.step (Outgoing.init replyAndBroadcast) [⟨0, .accepted 32⟩, ⟨1, .accepted 34⟩]).map
      (fun s => (s.stream.length, (Outgoing.bytes s.succeeded).length)) = some (66, 68) by decide +kernel)
  have same := congrArg List.length (whole _ _ s run)
  rw [Prod.mk.injEq] at cut
  omega

end Gologin.Tcp
