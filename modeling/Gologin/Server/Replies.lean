import Gologin.Server.Handling
import Gologin.Server.Sockets

/-!
# Requests and their replies

The handler of a connection writes the replies to its requests in the order of the
requests, whatever the other connections do. One reply cannot be packed: the `client_id`
of a message reply is the low byte of the request's id, and a byte above 127 is not UTF-8.
`replies_iff` says when the replies correspond to the requests.
-/

namespace Gologin.Server
set_option autoImplicit false
open Calls Messages Auth Tcp Tables

/-- The replies that the handler of `c` has written, each with the socket it was written on,
newest first. -/
def replies (c : Nat) : List Entry → List (Option Nat × Packet)
  | [] => []
  | .replied c' on packet :: log => if c' = c then (on, packet) :: replies c log else replies c log
  | _ :: log => replies c log

/-- A reply to `request` with its command and its id, from whose `client_id`, when it is a
reply to a message, `decode` recovers the id. -/
structure Answers (J : Nlohmann) (decode : Str → UInt64) (request : Request) (reply : Packet) (j : Json) :
    Prop where
  cmd : reply.cmd = request.replyCmd
  parsed : J.parse reply.body = some j
  command : j.find (str "command") = some (.string request.replyCmd)
  id : j.find (str "id") = some (.unsigned request.id)
  clientId : ∀ r, request = .message r →
    ∃ clientId, j.find (str "client_id") = some (.string clientId) ∧ decode clientId = r.id

/-- The replies on connection `c` correspond to the requests: one each, in their order. -/
def Corresponds (A : App) (c : Nat) (s : State) : Prop :=
  ∃ decode, List.Forall₂
    (fun packet (reply : Option Nat × Packet) => reply.1 = some c ∧
      ∃ request j, A.request packet = some request ∧ Answers A.json decode request reply.2 j)
    (frames c s.log) (replies c s.log)

/-- The low byte of each message's id is ASCII, and tells the ids apart. -/
structure Distinguishable (A : App) (packets : List Packet) : Prop where
  ascii : ∀ packet ∈ packets, ∀ r, A.request packet = some (.message r) → r.id.toUInt8 < 0x80
  apart : ∀ packet ∈ packets, ∀ packet' ∈ packets, ∀ r r', A.request packet = some (.message r) →
    A.request packet' = some (.message r') → r.id.toUInt8 = r'.id.toUInt8 → r.id = r'.id

/-- Packets that are handled, and the replies written to them, newest first. -/
inductive Exchanged (A : App) : List Packet → List (Option Nat × Packet) → Prop where
  | nil : Exchanged A [] []
  | written {packets : List Packet} {sent : List (Option Nat × Packet)} {packet reply : Packet}
      {on : Option Nat} (before : Exchanged A packets sent) (answer : AnswerTo A packet reply)
      (whole : createPacket reply.cmd reply.body ≠ []) :
      Exchanged A (packet :: packets) ((on, reply) :: sent)
  | silent {packets : List Packet} {sent : List (Option Nat × Packet)} {packet reply : Packet}
      (before : Exchanged A packets sent) (answer : AnswerTo A packet reply)
      (empty : createPacket reply.cmd reply.body = []) : Exchanged A (packet :: packets) sent

theorem replies_append {entries : List Entry} {c : Nat}
    (quiet : ∀ on packet, .replied c on packet ∉ entries) (log : List Entry) :
    replies c (entries ++ log) = replies c log := by
  induction entries with
  | nil => rfl
  | cons e entries ih =>
    have rest := ih fun on packet member => quiet on packet (by simp [member])
    cases e with
    | replied c' on packet =>
      have other : c' ≠ c := by
        rintro rfl
        exact quiet on packet (by simp)
      simp only [List.cons_append, replies, if_neg other, rest]
    | _ => exact rest

/-! ## The handler of one connection -/

section
variable (A : App) (c : Nat)

/-- Where the handler stands with the packets it received. -/
def Phase.Written (log : List Entry) : Phase → Prop
  | .started => frames c log = [] ∧ replies c log = []
  | .receiving => Exchanged A (frames c log) (replies c log)
  | .handling _ => Exchanged A (frames c log).tail (replies c log)
  | _ => True

/-- What every run keeps of the replies on connection `c`. -/
structure Replying (s : State) : Prop where
  sound : Sound A s
  sockets : Sockets s
  written : ∀ conn : Conn, s.conns[c]? = some conn → conn.phase.Written A c s.log
  fresh : s.conns.length ≤ c → frames c s.log = [] ∧ replies c s.log = []
  on : ∀ on reply, (on, reply) ∈ replies c s.log → Live s c → on = some c

variable {A c} {s s' : State} {e : Event}

theorem replying_init (login pass : Str) : Replying A c (State.init login pass) :=
  ⟨sound_init login pass, sockets_init login pass, nofun, fun _ => ⟨rfl, rfl⟩, nofun⟩

/-- A step that writes no reply on `c`, and receives nothing there. -/
theorem Replying.of_quiet (h : Replying A c s) (taken : step A s e = some s')
    (same : frames c s'.log = frames c s.log) (none : replies c s'.log = replies c s.log)
    (longer : s.conns.length ≤ s'.conns.length)
    (written : ∀ conn : Conn, s'.conns[c]? = some conn → conn.phase.Written A c s.log) : Replying A c s' := by
  refine ⟨sound_step h.sound taken, sockets_step h.sockets taken, ?_, ?_, ?_⟩
  · intro conn here
    have before := written conn here
    cases phase : conn.phase with
    | started | receiving | handling program =>
      rw [phase] at before
      simp only [Phase.Written, same, none] at before ⊢
      exact before
    | dropping | closing | leaving | ended => trivial
  · intro new
    rw [same, none]
    exact h.fresh (Nat.le_trans longer new)
  · intro on reply member live
    rw [none] at member
    rcases live_step taken live with before | last
    · exact h.on on reply member before
    · rw [(h.fresh (Nat.le_of_eq last.symm)).2] at member
      cases member

/-- A step of another connection, or one that leaves the loop. -/
theorem Replying.of_set (h : Replying A c s) (taken : step A s e = some s') {d : Nat} {new : Conn}
    (conns : s'.conns = s.conns.set d new) (same : frames c s'.log = frames c s.log)
    (none : replies c s'.log = replies c s.log) (here : c = d → new.phase.Written A c s.log) :
    Replying A c s' := by
  apply h.of_quiet taken same none
  · rw [conns, List.length_set]
  · intro conn found
    rw [conns] at found
    rcases conns_set found with ⟨rfl, rfl⟩ | ⟨_, there⟩
    · exact here rfl
    · exact h.written conn there

theorem replies_uses (s : State) (conn : Conn) (d : Nat) (log : List Entry) :
    replies c (s.uses conn (.read d) ++ log) = replies c log := by
  apply replies_append
  intro on packet member
  obtain ⟨_, _, same⟩ := mem_uses member
  cases same

theorem replies_after (s : State) (d : Nat) (choice : Choice) (call : Call) :
    replies c (s.after d choice call).log = replies c s.log := by
  change replies c ((s.outcome d choice call).2.2 ++ s.log) = replies c s.log
  apply replies_append
  intro on packet member
  obtain ⟨_, _, _, _, _, _, _, _, _, _, same⟩ := mem_outcome member
  cases same

theorem replies_send_ne {d : Nat} (other : c ≠ d) (s : State) (conn : Conn) (packet : Packet) (log : List Entry) :
    replies c ((s.send conn packet fun on => .replied d on packet).2 ++ log) = replies c log := by
  apply replies_append
  intro on packet' member
  obtain ⟨_, _, same⟩ := mem_send member
  cases same
  exact other rfl

/-- A new connection. -/
theorem Replying.of_append (h : Replying A c s) (taken : step A s e = some s') {handle : Nat}
    (conns : s'.conns = s.conns ++ [⟨handle, some handle, .started⟩])
    (same : frames c s'.log = frames c s.log) (none : replies c s'.log = replies c s.log) :
    Replying A c s' := by
  apply h.of_quiet taken same none
  · rw [conns, List.length_append]
    exact Nat.le_add_right _ _
  · intro conn found
    rw [conns] at found
    rcases conns_append found with ⟨last, rfl⟩ | old
    · exact h.fresh (Nat.le_of_eq last.symm)
    · exact h.written conn old

/-- The step that writes the reply of the handler itself. -/
theorem Replying.of_reply (h : Replying A c s) {handle : Nat} {socket : Option Nat} {packet : Packet}
    (here : s.conns[c]? = some ⟨handle, socket, .handling (.done packet)⟩)
    (taken : step A s (.reply c) = some s')
    (conns : s'.conns = s.conns.set c ⟨handle, socket, .receiving⟩) (open_ : s'.sockets = s.sockets)
    (log : s'.log = (s.send ⟨handle, socket, .handling (.done packet)⟩ packet fun on => .replied c on packet).2
      ++ s.log) : Replying A c s' := by
  obtain ⟨frame, last, answer⟩ := h.sound.threads c _ _ here rfl
  obtain ⟨rest, received⟩ : ∃ rest, frames c s.log = frame :: rest := List.head?_eq_some_iff.1 last
  have before : Exchanged A rest (replies c s.log) := by
    have written := h.written _ here
    simp only [Phase.Written, received, List.tail_cons] at written
    exact written
  have connected : socket = some handle := h.sockets.running c _ here trivial
  have same : frames c s'.log = frame :: rest := by rw [log, frames_send, received]
  by_cases empty : createPacket packet.cmd packet.body = []
  · have none : replies c s'.log = replies c s.log := by
      rw [log]
      simp only [State.send, empty, if_true, List.nil_append]
    refine ⟨sound_step h.sound taken, sockets_step h.sockets taken, ?_, ?_, ?_⟩
    · intro conn found
      rw [conns, conns_set_self here] at found
      cases found
      simp only [Phase.Written, same, none]
      exact .silent before answer empty
    · intro new
      rw [conns, List.length_set] at new
      have := (List.getElem?_eq_some_iff.1 here).1
      omega
    · intro on reply member live
      rw [none] at member
      obtain ⟨key, found⟩ := live
      exact h.on on reply member ⟨key, open_ ▸ found⟩
  · have one : replies c s'.log = (s.sockets.lookup handle, packet) :: replies c s.log := by
      rw [log]
      simp only [State.send, empty, if_false, State.uses, connected, List.cons_append, List.nil_append,
        replies, if_true]
    refine ⟨sound_step h.sound taken, sockets_step h.sockets taken, ?_, ?_, ?_⟩
    · intro conn found
      rw [conns, conns_set_self here] at found
      cases found
      simp only [Phase.Written, same, one]
      exact .written before answer empty
    · intro new
      rw [conns, List.length_set] at new
      have := (List.getElem?_eq_some_iff.1 here).1
      omega
    · intro on reply member live
      obtain ⟨key, found⟩ := live
      have still : Live s c := ⟨key, open_ ▸ found⟩
      rw [one] at member
      rcases List.mem_cons.1 member with now | earlier
      · cases now
        exact h.sockets.lookup_live here connected still
      · exact h.on on reply earlier still

/-- A step keeps the replies in order. -/
theorem replying_step (h : Replying A c s) (taken : step A s e = some s') : Replying A c s' := by
  cases step_cases taken with
  | accept fresh | refuse fresh => exact h.of_append taken rfl rfl rfl
  | emplace here =>
    apply h.of_set taken rfl rfl rfl
    rintro rfl
    obtain ⟨received, sent⟩ := h.written _ here
    simp only [Phase.Written, received, sent]
    exact .nil
  | packet here received =>
    rename_i d handle socket stack results header buff
    by_cases same : d = c
    · subst same
      have before := h.written _ here
      have first : frames d (.received d ⟨header.command stack.beyond, buff⟩ ::
          (s.uses ⟨handle, socket, .receiving⟩ (.read d) ++ s.log)) =
          ⟨header.command stack.beyond, buff⟩ :: frames d s.log := by
        simp only [frames, if_true, frames_uses]
      have none : replies d (.received d ⟨header.command stack.beyond, buff⟩ ::
          (s.uses ⟨handle, socket, .receiving⟩ (.read d) ++ s.log)) = replies d s.log := by
        simp only [replies, replies_uses]
      refine ⟨sound_step h.sound taken, sockets_step h.sockets taken, ?_, ?_, ?_⟩
      · intro conn found
        rw [conns_set_self here] at found
        cases found
        simp only [Phase.Written, first, none, List.tail_cons]
        exact before
      · intro new
        have := (List.getElem?_eq_some_iff.1 here).1
        simp only [List.length_set] at new
        omega
      · intro on reply member live
        rw [none] at member
        exact h.on on reply member live
    · apply h.of_set taken rfl
      · simp only [frames, if_neg same, frames_uses]
      · simp only [replies, replies_uses]
      · intro back
        exact absurd back.symm same
  | refused here received =>
    exact h.of_set taken rfl (frames_uses c s _ _ _) (replies_uses s _ _ _) fun _ => trivial
  | call here =>
    apply h.of_set taken rfl (frames_after c s _ _ _) (replies_after s _ _ _)
    rintro rfl
    have before := h.written _ here
    exact before
  | reply here =>
    rename_i d handle socket packet
    by_cases same : c = d
    · subst same
      exact h.of_reply here taken rfl rfl rfl
    · exact h.of_set taken rfl (frames_send c s _ _ _ _) (replies_send_ne same s _ _ _) fun back => absurd back same
  | disconnect here | disconnected here | invalidate here | erase here | destroy here | finish here =>
    exact h.of_set taken rfl rfl rfl fun _ => trivial

/-! ## When the replies correspond -/

/-- Every reply's command leaves room for its NUL. -/
theorem Request.replyCmd_room (request : Request) : request.replyCmd.length < sizeofType := by
  have rooms : ∀ cmd ∈ [Commands.helloReply, Commands.pingReply, Commands.authReply, Commands.byeReply,
      Commands.msgReply], cmd.length < sizeofType := by decide
  cases request with
  | hello => exact rooms _ (by simp [replyCmd])
  | ping => exact rooms _ (by simp [replyCmd])
  | login => exact rooms _ (by simp [replyCmd])
  | logout => exact rooms _ (by simp [replyCmd])
  | message => exact rooms _ (by simp [replyCmd])

/-- The reply to a request that can be packed is written. -/
theorem AnswerTo.written {packet reply : Packet} {request : Request} (answer : AnswerTo A packet reply)
    (taken : A.request packet = some request) (writable : request.Writable) :
    createPacket reply.cmd reply.body ≠ [] := by
  simp only [AnswerTo, taken] at answer
  obtain ⟨cmd, some_, _⟩ := answer
  exact createPacket_ne_nil (some_ writable).1 (cmd ▸ request.replyCmd_room)

/-- The reply to one that cannot is not. -/
theorem AnswerTo.writable {packet reply : Packet} {request : Request} (answer : AnswerTo A packet reply)
    (taken : A.request packet = some request) (whole : createPacket reply.cmd reply.body ≠ []) :
    request.Writable := by
  simp only [AnswerTo, taken] at answer
  by_contra bad
  apply whole
  rw [answer.2.2 bad, createPacket, if_pos rfl]

theorem Exchanged.length {packets : List Packet} {sent : List (Option Nat × Packet)}
    (h : Exchanged A packets sent) : sent.length ≤ packets.length := by
  induction h with
  | nil => exact Nat.le_refl _
  | written _ _ _ ih => exact Nat.succ_le_succ ih
  | silent _ _ _ ih => exact Nat.le_succ_of_le ih

/-- As many replies as packets: each packet has its reply. -/
theorem Exchanged.all {packets : List Packet} {sent : List (Option Nat × Packet)}
    (h : Exchanged A packets sent) (as_many : packets.length = sent.length) :
    List.Forall₂ (fun packet (reply : Option Nat × Packet) => AnswerTo A packet reply.2 ∧
      createPacket reply.2.cmd reply.2.body ≠ []) packets sent := by
  induction h with
  | nil => exact .nil
  | written before answer whole ih => exact .cons ⟨answer, whole⟩ (ih (Nat.succ.inj as_many))
  | silent before answer empty ih =>
    have fewer := before.length
    simp only [List.length_cons] at as_many
    omega

/-- Each request can be packed: each packet has its reply. -/
theorem Exchanged.of_writable {packets : List Packet} {sent : List (Option Nat × Packet)}
    (h : Exchanged A packets sent)
    (writable : ∀ packet ∈ packets, ∃ request, A.request packet = some request ∧ request.Writable) :
    List.Forall₂ (fun packet (reply : Option Nat × Packet) => AnswerTo A packet reply.2) packets sent := by
  induction h with
  | nil => exact .nil
  | written before answer whole ih =>
    exact .cons answer (ih fun packet member => writable packet (by simp [member]))
  | silent before answer empty ih =>
    obtain ⟨request, taken, ok⟩ := writable _ (List.mem_cons_self)
    exact absurd empty (answer.written taken ok)

theorem exists_of_forall₂ {α β : Type} {R S : α → β → Prop} {xs : List α} {ys : List β}
    (h : List.Forall₂ R xs ys) (k : List.Forall₂ S xs ys) : ∀ x ∈ xs, ∃ y, R x y ∧ S x y := by
  induction h with
  | nil => nofun
  | cons first rest ih =>
    cases k with
    | cons first' rest' =>
      intro x member
      rcases List.mem_cons.1 member with rfl | more
      · exact ⟨_, first, first'⟩
      · exact ih rest' x more

theorem forall₂_of_mem {α β : Type} {R S : α → β → Prop} {xs : List α} {ys : List β} (h : List.Forall₂ R xs ys)
    (imp : ∀ x ∈ xs, ∀ y ∈ ys, R x y → S x y) : List.Forall₂ S xs ys := by
  induction h with
  | nil => exact .nil
  | cons first rest ih =>
    apply List.Forall₂.cons
    · exact imp _ List.mem_cons_self _ List.mem_cons_self first
    · exact ih fun x hx y hy => imp x (List.mem_cons_of_mem _ hx) y (List.mem_cons_of_mem _ hy)

/-- The reply that was written answers the request, and the other way round. -/
theorem AnswerTo.answers {packet reply : Packet} {request : Request} (answer : AnswerTo A packet reply)
    (taken : A.request packet = some request) (writable : request.Writable) {decode : Str → UInt64}
    (recovers : ∀ r, request = .message r → decode (assignChar r.id) = r.id) :
    ∃ j, Answers A.json decode request reply j := by
  simp only [AnswerTo, taken] at answer
  obtain ⟨cmd, some_, _⟩ := answer
  obtain ⟨_, j, parsed, command, id, clientId⟩ := some_ writable
  exact ⟨j, cmd, parsed, command, id, fun r same => ⟨_, clientId r same, recovers r same⟩⟩

theorem AnswerTo.recovers {packet reply : Packet} {r : Client.MsgRequest} (answer : AnswerTo A packet reply)
    (taken : A.request packet = some (.message r)) (writable : (Request.message r).Writable)
    {decode : Str → UInt64} {j : Json} (answers : Answers A.json decode (.message r) reply j) :
    decode (assignChar r.id) = r.id := by
  simp only [AnswerTo, taken] at answer
  obtain ⟨_, j', reports⟩ := answer.2.1 writable
  have same : j' = j := Option.some.inj (reports.parsed.symm.trans answers.parsed)
  obtain ⟨text, found, recovered⟩ := answers.clientId r rfl
  have byte := reports.clientId r rfl
  rw [same, found, Option.some.injEq, Value.string.injEq] at byte
  exact byte ▸ recovered

/-- Ids that the low byte tells apart can be recovered from it. -/
theorem decode_exists {ids : List UInt64} (apart : ∀ n ∈ ids, ∀ m ∈ ids, n.toUInt8 = m.toUInt8 → n = m) :
    ∃ decode : Str → UInt64, ∀ n ∈ ids, decode (assignChar n) = n := by
  refine ⟨fun text => (ids.find? fun n => assignChar n = text).getD 0, fun n member => ?_⟩
  cases found : ids.find? fun m => assignChar m = assignChar n with
  | none =>
    have missed := List.find?_eq_none.1 found n member
    simp at missed
  | some m =>
    have same : assignChar m = assignChar n := by simpa using List.find?_some found
    have back := apart m (List.mem_of_find?_eq_some found) n member (List.cons.inj same).1
    simp only [found, Option.getD_some, back]

theorem replying_run (h : Replying A c s) {es : List Event} (run : Runs.exec (step A) s es = some s') :
    Replying A c s' :=
  Runs.exec_invariant (fun _ _ _ => replying_step) h run

/-- The ids of the messages among some packets. -/
def messageIds (A : App) (packets : List Packet) : List UInt64 :=
  packets.filterMap fun packet =>
    match A.request packet with
    | some (.message r) => some r.id
    | _ => none

theorem mem_messageIds {packets : List Packet} {n : UInt64} :
    n ∈ messageIds A packets ↔ ∃ packet ∈ packets, ∃ r, A.request packet = some (.message r) ∧ r.id = n := by
  rw [messageIds, List.mem_filterMap]
  constructor
  · rintro ⟨packet, member, found⟩
    split at found
    · rename_i r taken
      exact ⟨packet, member, r, taken, Option.some.inj found⟩
    · cases found
  · rintro ⟨packet, member, r, taken, rfl⟩
    exact ⟨packet, member, by rw [taken]⟩

end

/-- **When the replies correspond to the requests.** On a connection that is open and has
handled the requests it received, in any run of the server: there is one reply to each
request, in their order, with the command and the id of the request and, for a message, a
`client_id` that its id can be recovered from, if and only if the low byte of every
message's id is ASCII and no two different ids of messages share it. -/
theorem replies_iff {A : App} {login pass : Str} {es : List Event} {s : State} {c : Nat} {conn : Conn}
    (run : Runs.exec (step A) (State.init login pass) es = some s) (here : s.conns[c]? = some conn)
    (idle : conn.phase = .receiving) (live : Live s c)
    (requests : ∀ packet ∈ frames c s.log, ∃ request, A.request packet = some request) :
    Corresponds A c s ↔ Distinguishable A (frames c s.log) := by
  have inv : Replying A c s := replying_run (replying_init login pass) run
  have exchanged : Exchanged A (frames c s.log) (replies c s.log) := by
    have written := inv.written conn here
    rw [idle] at written
    exact written
  constructor
  · rintro ⟨decode, all⟩
    have answered := exchanged.all all.length_eq
    constructor
    · intro packet member r taken
      obtain ⟨reply, ⟨answer, whole⟩, _⟩ := exists_of_forall₂ answered all packet member
      exact answer.writable taken whole
    · have recovers : ∀ packet ∈ frames c s.log, ∀ r, A.request packet = some (.message r) →
          decode (assignChar r.id) = r.id := by
        intro packet member r taken
        obtain ⟨reply, ⟨answer, whole⟩, _, request, j, taken', answers⟩ :=
          exists_of_forall₂ answered all packet member
        cases taken.symm.trans taken'
        exact answer.recovers taken (answer.writable taken whole) answers
      intro packet member packet' member' r r' taken taken' same
      rw [← recovers packet member r taken, ← recovers packet' member' r' taken', assignChar, same, assignChar]
  · intro distinguishable
    obtain ⟨decode, recovers⟩ : ∃ decode : Str → UInt64, ∀ n ∈ messageIds A (frames c s.log),
        decode (assignChar n) = n := by
      apply decode_exists
      intro n member m member' same
      obtain ⟨packet, mem, r, taken, rfl⟩ := mem_messageIds.1 member
      obtain ⟨packet', mem', r', taken', rfl⟩ := mem_messageIds.1 member'
      exact distinguishable.apart packet mem packet' mem' r r' taken taken' same
    have writable : ∀ packet ∈ frames c s.log, ∀ request, A.request packet = some request →
        request.Writable := by
      intro packet member request taken
      cases request with
      | message r => exact distinguishable.ascii packet member r taken
      | hello | ping | login | logout => trivial
    have answered := exchanged.of_writable fun packet member => by
      obtain ⟨request, taken⟩ := requests packet member
      exact ⟨request, taken, writable packet member request taken⟩
    refine ⟨decode, forall₂_of_mem answered fun packet member reply sent answer => ?_⟩
    obtain ⟨request, taken⟩ := requests packet member
    refine ⟨inv.on reply.1 reply.2 sent live, request, ?_⟩
    obtain ⟨j, answers⟩ := answer.answers taken (writable packet member request taken) fun r same =>
      recovers r.id (mem_messageIds.2 ⟨packet, member, r, same ▸ taken, rfl⟩)
    exact ⟨j, taken, answers⟩

/-- A client that is not logged in sends two messages. -/
def twoMessages (first second : String) : List Event :=
  [.accept 3 true, .emplace 0,
    .recv 0 blank (whole ⟨Commands.msg, str first⟩), .call 0 someChoice, .reply 0,
    .recv 0 blank (whole ⟨Commands.msg, str second⟩), .call 0 someChoice, .reply 0]

/-- What the handler of the first connection has done. -/
def observed (s : State) : Option Bool × Option Nat × List (Option Request) × Nat :=
  (s.conns[0]?.map fun conn => conn.phase.idle, s.sockets.lookup 3,
    (frames 0 s.log).map App.compact.request, (replies 0 s.log).length)

theorem observed_spec {s : State} {packets : List (Option Request)} {n : Nat}
    (seen : observed s = (some true, some 0, packets, n)) :
    (∃ conn, s.conns[0]? = some conn ∧ conn.phase = .receiving) ∧ Live s 0 ∧
      (frames 0 s.log).map App.compact.request = packets ∧ (replies 0 s.log).length = n := by
  simp only [observed, Prod.mk.injEq, Option.map_eq_some_iff] at seen
  obtain ⟨⟨conn, here, idle⟩, open_, received, sent⟩ := seen
  exact ⟨⟨conn, here, Phase.idle_iff.1 idle⟩, ⟨3, open_⟩, received, sent⟩

/-- Two messages under the ids 5 and 1 get their replies. -/
theorem replies_two_messages :
    ∃ s, Runs.exec (step App.compact) (State.init [] [])
        (twoMessages "\x7b\"id\":5\x7d" "\x7b\"id\":1\x7d") = some s ∧
      (frames 0 s.log).length = 2 ∧ Corresponds App.compact 0 s := by
  obtain ⟨s, run, seen⟩ := Option.map_eq_some_iff.1
    (show (Runs.exec (step App.compact) (State.init [] [])
        (twoMessages "\x7b\"id\":5\x7d" "\x7b\"id\":1\x7d")).map observed =
      some (some true, some 0, [some (.message ⟨1, [], [], []⟩), some (.message ⟨5, [], [], []⟩)], 2)
      by decide +kernel)
  obtain ⟨⟨conn, here, idle⟩, live, received, _⟩ := observed_spec seen
  have taken : ∀ packet ∈ frames 0 s.log, App.compact.request packet = some (.message ⟨1, [], [], []⟩) ∨
      App.compact.request packet = some (.message ⟨5, [], [], []⟩) := by
    intro packet member
    have mapped : App.compact.request packet ∈ (frames 0 s.log).map App.compact.request :=
      List.mem_map_of_mem member
    rw [received] at mapped
    simpa using mapped
  refine ⟨s, run, ?_, ?_⟩
  · rw [← List.length_map App.compact.request, received]
    rfl
  · apply (replies_iff run here idle live ?_).2
    · constructor
      · intro packet member r request
        rcases taken packet member with one | five
        · rw [one] at request
          cases request
          decide
        · rw [five] at request
          cases request
          decide
      · intro packet member packet' member' r r' request request' same
        rcases taken packet member with one | five <;> rcases taken packet' member' with one' | five' <;>
          simp_all
        · cases request; cases request'; exact absurd same (by decide)
        · cases request; cases request'; exact absurd same (by decide)
    · intro packet member
      rcases taken packet member with one | five
      · exact ⟨_, one⟩
      · exact ⟨_, five⟩

/-- The reply to a message under the id 128 cannot be packed, and is not written. -/
theorem replies_high_byte :
    ¬ ∀ (A : App) (login pass : Str) (es : List Event) (s : State) (c : Nat) (conn : Conn),
      Runs.exec (step A) (State.init login pass) es = some s → s.conns[c]? = some conn →
      conn.phase = .receiving → Live s c →
      (∀ packet ∈ frames c s.log, ∃ request, A.request packet = some request) → Corresponds A c s := by
  intro corresponds
  obtain ⟨s, run, seen⟩ := Option.map_eq_some_iff.1
    (show (Runs.exec (step App.compact) (State.init [] [])
        (twoMessages "\x7b\"id\":128\x7d" "\x7b\"id\":1\x7d")).map observed =
      some (some true, some 0, [some (.message ⟨1, [], [], []⟩), some (.message ⟨128, [], [], []⟩)], 1)
      by decide +kernel)
  obtain ⟨⟨conn, here, idle⟩, live, received, one⟩ := observed_spec seen
  obtain ⟨decode, all⟩ := corresponds App.compact [] [] _ s 0 conn run here idle live (by
    intro packet member
    have mapped : App.compact.request packet ∈ (frames 0 s.log).map App.compact.request :=
      List.mem_map_of_mem member
    rw [received] at mapped
    simp only [List.mem_cons, List.not_mem_nil, or_false] at mapped
    rcases mapped with first | second
    · exact ⟨_, first⟩
    · exact ⟨_, second⟩)
  have as_many := all.length_eq
  rw [one, ← List.length_map App.compact.request, received] at as_many
  exact absurd as_many (by decide)

end Gologin.Server
