import Gologin.Server.Handling
import Gologin.Server.Sockets

/-!
# Messages and their delivery

What the handler of one connection sends to one client, over a part of a run in which the
client stays logged in and its connection open and registered: a packet for each message
that was accepted, in their order, whatever the other handlers do in between.
-/

namespace Gologin.Server
set_option autoImplicit false
open Calls Messages Auth Tcp Tables

/-- The messages on connection `c` that were accepted, newest first. -/
def acceptedMessages (A : App) (c : Nat) : List Entry → List Client.MsgRequest
  | [] => []
  | .called c' (.statusClient _ _) (status : ClientStatus) :: log =>
    if c' = c ∧ status = .accepted then
      match (frames c log).head?.bind A.request with
      | some (.message r) => r :: acceptedMessages A c log
      | _ => acceptedMessages A c log
    else acceptedMessages A c log
  | _ :: log => acceptedMessages A c log

/-- A packet to a client: for whose `server_client`, on which accepted socket, and what it
says. -/
structure Delivery where
  via : Nat
  on : Option Nat
  cmd : Str
  message : Server.MsgRequest
  deriving DecidableEq, Repr

/-- What the handler of `c` has sent to the client `id`, newest first. -/
def deliveries (J : Nlohmann) (c : Nat) (id : UInt64) : List Entry → List Delivery
  | [] => []
  | .wrote c' via on packet :: log =>
    match packerFrom J Server.MsgRequest packet.body with
    | some m => if c' = c ∧ m.id = id then ⟨via, on, packet.cmd, m⟩ :: deliveries J c id log else deliveries J c id log
    | none => deliveries J c id log
  | _ :: log => deliveries J c id log

/-- The client is logged in, and its cookie is the handle of the open connection `d`, which is
registered. -/
structure Attends (client : AuthClient) (d : Nat) (s : State) : Prop where
  entry : s.provider.clients.lookup client.id = some client
  listed : s.clientList.lookup client.cookie.serverClientId = some d
  open_ : Live s d

instance (client : AuthClient) (d : Nat) (s : State) : Decidable (Attends client d s) :=
  decidable_of_iff
    (s.provider.clients.lookup client.id = some client ∧ s.clientList.lookup client.cookie.serverClientId = some d ∧
      Live s d)
    ⟨fun h => ⟨h.1, h.2.1, h.2.2⟩, fun h => ⟨h.entry, h.listed, h.open_⟩⟩

/-- The delivery of a message to a client. -/
def delivery (client : AuthClient) (d : Nat) (r : Client.MsgRequest) : Delivery :=
  ⟨d, some d, Commands.msg, clientRequest client r.body⟩

/-! ## The handlers -/

/-- What a packet has to say to the clients, if it is accepted. -/
def said (A : App) (packet : Packet) : Option Client.MsgRequest :=
  match A.request packet with
  | some (.message r) => some r
  | _ => none

/-- A handler sends to the client what it owes, and asks again only when it owes nothing. -/
def PaysTo (J : Nlohmann) (client : AuthClient) (owed : Option Client.MsgRequest) : Call → Prop
  | .statusClient _ _ => owed = none
  | .sendTo cookies cmd buff => createPacket cmd buff ≠ [] ∧ ∃ m, packerFrom J Server.MsgRequest buff = some m ∧
    (m.id = client.id → ∃ r, owed = some r ∧ cookies = client.cookie ∧ cmd = Commands.msg ∧
      m = clientRequest client r.body)
  | _ => True

/-- What is owed to the client after a call. -/
def owes (J : Nlohmann) (client : AuthClient) (message owed : Option Client.MsgRequest) :
    (call : Call) → call.Answer → Option Client.MsgRequest
  | .statusClient _ _, (status : ClientStatus) => if status = .accepted then message else none
  | .sendTo _ _ buff, _ =>
    if (packerFrom J Server.MsgRequest buff).map (·.id) = some client.id then none else owed
  | _, _ => owed

/-- The answers of a provider that has the client. -/
def Shows (client : AuthClient) : (call : Call) → call.Answer → Prop
  | .getClients status, (clients : List AuthClient) =>
    (∀ c ∈ clients, Utf8.valid c.login = true ∧ Utf8.valid c.session = true) ∧
      (clients.map AuthClient.id).Nodup ∧ (status = .accepted → client ∈ clients)
  | _, _ => True

/-- What is left of a handler sends what it owes. -/
def Paying (J : Nlohmann) (client : AuthClient) (message owed : Option Client.MsgRequest)
    (program : Handling Packet) : Prop :=
  Program.Follows (PaysTo J client) (Shows client) (owes J client message) (fun owed _ => owed = none) owed program

section
variable (A : App) (client : AuthClient)

/-- The loop of a broadcast sends the client its packet, if the client is among those it goes
over. -/
theorem broadcast_paying (message : Option Client.MsgRequest) {r : Client.MsgRequest}
    (text : Utf8.valid r.body = true) {clients : List AuthClient}
    (good : ∀ c ∈ clients, Utf8.valid c.login = true ∧ Utf8.valid c.session = true)
    (distinct : (clients.map AuthClient.id).Nodup) (only : ∀ c ∈ clients, c.id = client.id → c = client) :
    Program.Follows (PaysTo A.json client) (Shows client) (owes A.json client message)
      (fun owed sent => owed = none ∧ sent = some ()) (if client ∈ clients then some r else none)
      (broadcast A.json r.body clients) := by
  induction clients with
  | nil => exact ⟨rfl, rfl⟩
  | cons c rest ih =>
    obtain ⟨login, session⟩ := good c List.mem_cons_self
    obtain ⟨buff, packed⟩ := packerTo_some A.json (clientRequest_utf8 text login session)
    have decoded := packerFrom_packerTo A.json packed
    rw [List.map_cons, List.nodup_cons] at distinct
    have later := ih (fun c member => good c (List.mem_cons_of_mem _ member)) distinct.2
      fun c member => only c (List.mem_cons_of_mem _ member)
    rw [broadcast, packed]
    refine ⟨⟨createPacket_ne_nil (packerTo_ne_nil A.json packed) (by decide), _, decoded, fun same => ?_⟩, fun _ _ => ?_⟩
    · obtain rfl := only c List.mem_cons_self same
      exact ⟨r, if_pos List.mem_cons_self, rfl, rfl, rfl⟩
    · simp only [owes, decoded, Option.map_some, Option.some.injEq]
      change Program.Follows _ _ _ _ (if c.id = client.id then none else _) _
      split
      · rename_i same
        obtain rfl := only c List.mem_cons_self same
        have out : c ∉ rest := fun member => distinct.1 (List.mem_map_of_mem member)
        rw [if_neg out] at later
        exact later
      · rename_i other
        have apart : client ≠ c := fun is => other (is ▸ rfl)
        simp only [List.mem_cons, apart, false_or]
        exact later

theorem handling_paying (cmd : Str) (cookies : ClientCookies) {request : Request} (text : request.Text)
    {message : Option Client.MsgRequest} (message_ : ∀ r, request = .message r → message = some r)
    (other : (∀ r, request ≠ .message r) → message = none) :
    Program.Follows (PaysTo A.json client) (Shows client) (owes A.json client message) (fun owed _ => owed = none)
      none (A.handling cmd cookies request) := by
  cases request with
  | hello r => rfl
  | ping r =>
    refine ⟨rfl, fun (auth : ClientStatus) _ => ?_⟩
    have owed : owes A.json client message none (.statusClient r.id r.session) auth = none := by
      simp only [owes, other nofun, ite_self]
    rw [owed]
    change Program.Follows _ _ _ _ _ (Program.bind (if auth = .accepted then _ else _) _)
    split <;> rfl
  | login r =>
    refine ⟨trivial, fun (answer : ClientStatus × Str) _ => ?_⟩
    change Program.Follows _ _ _ _ _ (Program.bind (if answer.1 = .accepted then _ else _) _)
    split <;> rfl
  | logout r =>
    refine ⟨trivial, fun (auth : ClientStatus) _ => ?_⟩
    change Program.Follows _ _ _ _ _ (Program.bind (if auth = .removed then _ else _) _)
    split <;> rfl
  | message r =>
    obtain ⟨_, _, body, _, _⟩ := text
    refine ⟨rfl, fun (auth : ClientStatus) _ => ?_⟩
    change Program.Follows _ _ _ _ (if auth = .accepted then message else none)
      (Program.bind (if auth = .accepted then _ else _) _)
    rw [message_ r rfl]
    split
    · refine ⟨trivial, fun (clients : List AuthClient) shows_ => ?_⟩
      obtain ⟨good, distinct, there⟩ := shows_
      change Program.Follows _ _ _ _ (some r) (Program.bind (Program.bind (broadcast A.json r.body clients) _) _)
      rw [Program.bind_assoc]
      have only : ∀ c ∈ clients, c.id = client.id → c = client := fun c member same =>
        List.inj_on_of_nodup_map distinct member (there rfl) same
      have paying := broadcast_paying A client (some r) body good distinct only
      rw [if_pos (there rfl)] at paying
      apply Program.Follows.bind _ paying
      rintro owed _ ⟨rfl, rfl⟩
      rfl
    · rfl

/-- **What a packet's handler owes.** -/
theorem packetHandler_paying (cid : Nat) (packet : Packet) :
    Paying A.json client (said A packet) none (A.packetHandler cid packet) := by
  change Program.Follows _ _ _ _ _ (Program.bind (dispatch A.hash A.handlers packet.cmd ⟨cid⟩ packet.body) _)
  rcases A.dispatch_request packet ⟨cid⟩ with ⟨request, taken, same⟩ | ⟨_, ok, same⟩
  · rw [same]
    have paying : Program.Follows (PaysTo A.json client) (Shows client) (owes A.json client (said A packet))
        (fun owed _ => owed = none) none (A.handling packet.cmd ⟨cid⟩ request) := by
      apply handling_paying A client packet.cmd ⟨cid⟩ (request_text A taken)
      · rintro r rfl
        rw [said, taken]
      · intro other
        rw [said, taken]
        cases request with
        | message r => exact absurd rfl (other r)
        | hello | ping | login | logout => rfl
    apply Program.Follows.bind _ paying
    exact fun _ _ none => none
  · rw [same]
    rfl

end

/-! ## The invariant -/

theorem acceptedMessages_append {A : App} {entries : List Entry} (plain : ∀ e ∈ entries, e.Plain) (c : Nat)
    (log : List Entry) : acceptedMessages A c (entries ++ log) = acceptedMessages A c log := by
  induction entries with
  | nil => rfl
  | cons e entries ih =>
    have rest := ih fun e member => plain e (List.mem_cons_of_mem _ member)
    have first := plain e List.mem_cons_self
    cases e with
    | called | wrote => exact first.elim
    | received | replied | read | closed => exact rest

theorem deliveries_append {J : Nlohmann} {entries : List Entry} (plain : ∀ e ∈ entries, e.Plain) (c : Nat)
    (id : UInt64) (log : List Entry) : deliveries J c id (entries ++ log) = deliveries J c id log := by
  induction entries with
  | nil => rfl
  | cons e entries ih =>
    have rest := ih fun e member => plain e (List.mem_cons_of_mem _ member)
    have first := plain e List.mem_cons_self
    cases e with
    | called | wrote => exact first.elim
    | received | replied | read | closed => exact rest

section
variable (A : App) (c : Nat) (client : AuthClient) (d : Nat) (start : List Entry)

/-- What was accepted and what was sent since `start`, when the handler still owes a packet or
owes none. -/
def Settled (owed : Option Client.MsgRequest) (log : List Entry) : Prop :=
  ∃ paid, acceptedMessages A c log = owed.toList ++ paid ++ acceptedMessages A c start ∧
    deliveries A.json c client.id log = paid.map (delivery client d) ++ deliveries A.json c client.id start

/-- Where the handler stands with what it owes. -/
def Phase.Due (log : List Entry) : Phase → Prop
  | .started => False
  | .receiving => Settled A c client d start none log
  | .handling program => ∃ packet owed, (frames c log).head? = some packet ∧
    Settled A c client d start owed log ∧ Paying A.json client (said A packet) owed program
  | _ => True

/-- What a run from `start` keeps, as long as the client is attended. -/
structure Delivering (s : State) : Prop where
  sound : Sound A s
  sockets : Sockets s
  due : ∃ conn, s.conns[c]? = some conn ∧ conn.phase.Due A c client d start s.log

end

section
variable {A : App} {c : Nat} {client : AuthClient} {d : Nat} {start : List Entry} {s s' : State} {e : Event}

theorem Settled.of_same {owed : Option Client.MsgRequest} {log log' : List Entry}
    (h : Settled A c client d start owed log) (accepted : acceptedMessages A c log' = acceptedMessages A c log)
    (sent : deliveries A.json c client.id log' = deliveries A.json c client.id log) :
    Settled A c client d start owed log' := by
  obtain ⟨paid, before, after⟩ := h
  exact ⟨paid, accepted.trans before, sent.trans after⟩

/-- A step that accepts and sends nothing on behalf of `c`. -/
theorem Delivering.of_set (h : Delivering A c client d start s) (taken : step A s e = some s') {k : Nat} {new : Conn}
    (conns : s'.conns = s.conns.set k new) (accepted : acceptedMessages A c s'.log = acceptedMessages A c s.log)
    (sent : deliveries A.json c client.id s'.log = deliveries A.json c client.id s.log)
    (same : k ≠ c → frames c s'.log = frames c s.log)
    (here : k = c → new.phase.Due A c client d start s'.log) : Delivering A c client d start s' := by
  obtain ⟨conn, there, due⟩ := h.due
  refine ⟨sound_step h.sound taken, sockets_step h.sockets taken, ?_⟩
  rw [conns]
  by_cases self : k = c
  · subst self
    exact ⟨new, conns_set_self there new, here rfl⟩
  · refine ⟨conn, (List.getElem?_set_ne self).trans there, ?_⟩
    cases phase : conn.phase with
    | started =>
      rw [phase] at due
      exact due
    | receiving =>
      rw [phase] at due
      exact due.of_same accepted sent
    | handling program =>
      rw [phase] at due
      obtain ⟨packet, owed, last, settled, paying⟩ := due
      exact ⟨packet, owed, (same self) ▸ last, settled.of_same accepted sent, paying⟩
    | dropping | closing | leaving | ended => trivial

/-- A step whose observations are plain. -/
theorem Delivering.of_plain (h : Delivering A c client d start s) (taken : step A s e = some s') {k : Nat} {new : Conn}
    (conns : s'.conns = s.conns.set k new)
    (observed : ∃ entries, s'.log = entries ++ s.log ∧ (∀ e ∈ entries, e.Plain) ∧
      (k ≠ c → frames c (entries ++ s.log) = frames c s.log))
    (here : k = c → new.phase.Due A c client d start s'.log) : Delivering A c client d start s' := by
  obtain ⟨entries, log, plain, same⟩ := observed
  apply h.of_set taken conns _ _ _ here
  · rw [log, acceptedMessages_append plain]
  · rw [log, deliveries_append plain]
  · rw [log]
    exact same

/-- A new connection. -/
theorem Delivering.of_append (h : Delivering A c client d start s) (taken : step A s e = some s') {new : Conn}
    (conns : s'.conns = s.conns ++ [new]) (log : s'.log = s.log ∨ ∃ k on, s'.log = .closed k on :: s.log) :
    Delivering A c client d start s' := by
  obtain ⟨conn, there, due⟩ := h.due
  refine ⟨sound_step h.sound taken, sockets_step h.sockets taken, conn, ?_, ?_⟩
  · rw [conns]
    exact (List.getElem?_append_left (List.getElem?_eq_some_iff.1 there).1).trans there
  · rcases log with same | ⟨k, on, same⟩
    · rw [same]
      exact due
    · rw [same]
      exact due

/-- A provider that has the client shows it. -/
theorem shows_outcome (good : s.provider.Good) (entry : s.provider.clients.lookup client.id = some client)
    (choice : Choice) (call : Call) : Shows client call (s.outcome c choice call).1 := by
  cases call with
  | getClients status =>
    refine ⟨fun other member => ?_,
      Provider.nodup_getClients (fun id c found => (good id c found).id) choice.order status, ?_⟩
    · obtain ⟨_, _, _, login, draw, session⟩ := good _ _ (Provider.lookup_of_mem_getClients good member)
      exact ⟨login, session ▸ draw.session_utf8⟩
    · rintro rfl
      exact (Provider.mem_getClients good choice.order).2 entry
  | statusClient | addClient | remClient | sendTo => trivial

/-- What the handler of `c` accepts by a call of its own. -/
theorem accepted_statusClient (client : AuthClient) {packet : Packet} (last : (frames c s.log).head? = some packet) (choice : Choice)
    (id : UInt64) (session : Str) :
    acceptedMessages A c (s.after c choice (.statusClient id session)).log =
      (owes A.json client (said A packet) none (.statusClient id session) (s.provider.statusClient id session)).toList
        ++ acceptedMessages A c s.log := by
  change (if c = c ∧ s.provider.statusClient id session = .accepted then
      (match (frames c s.log).head?.bind A.request with
        | some (.message r) => r :: acceptedMessages A c s.log
        | _ => acceptedMessages A c s.log)
    else acceptedMessages A c s.log) = _
  simp only [true_and, owes, last, Option.bind_some, said]
  split
  · cases A.request packet with
    | none => rfl
    | some request => cases request <;> rfl
  · rfl

theorem accepted_writes (s : State) (k : Nat) (choice : Choice) (call : Call) (log : List Entry) :
    acceptedMessages A c ((s.outcome k choice call).2.2 ++ log) = acceptedMessages A c log := by
  rcases outcome_cases s k choice call with empty | ⟨_, _, _, _, _, _, _, _, _, _, one⟩
  · rw [empty]
    rfl
  · rw [one]
    rfl

/-- Another handler accepts and sends nothing on behalf of `c`. -/
theorem accepted_after_ne {k : Nat} (other : k ≠ c) (choice : Choice) (call : Call) :
    acceptedMessages A c (s.after k choice call).log = acceptedMessages A c s.log := by
  rw [log_after, ← accepted_writes s k choice call s.log]
  cases call with
  | statusClient id session => exact if_neg fun both => other both.1
  | getClients | addClient | remClient | sendTo => rfl

theorem deliveries_after_ne {k : Nat} (other : k ≠ c) (choice : Choice) (call : Call) (id : UInt64) :
    deliveries A.json c id (s.after k choice call).log = deliveries A.json c id s.log := by
  rw [log_after]
  change deliveries A.json c id ((s.outcome k choice call).2.2 ++ s.log) = _
  rcases outcome_cases s k choice call with empty | ⟨_, _, _, _, _, _, _, _, _, _, one⟩
  · rw [empty]
    rfl
  · rw [one, List.singleton_append, deliveries]
    split
    · exact if_neg fun both => other both.1
    · rfl

/-- A call of the handler itself. -/
theorem Delivering.called (h : Delivering A c client d start s) (attends : Attends client d s) {handle : Nat}
    {socket : Option Nat} (choice : Choice) {call : Call} {next : call.Answer → Handling Packet}
    (here : s.conns[c]? = some ⟨handle, socket, .handling (.call call next)⟩) :
    (Phase.handling (next (s.outcome c choice call).1)).Due A c client d start (s.after c choice call).log := by
  obtain ⟨conn, there, due⟩ := h.due
  cases here.symm.trans there
  obtain ⟨packet, owed, last, settled, pays, later⟩ := due
  refine ⟨packet, _, ?_, ?_, later _ (shows_outcome h.sound.good attends.entry choice call)⟩
  · rw [frames_after]
    exact last
  obtain ⟨paid, accepted, sent⟩ := settled
  cases call with
  | statusClient id session =>
    obtain rfl : owed = none := pays
    refine ⟨paid, ?_, sent⟩
    rw [accepted_statusClient client last, accepted]
    exact (List.append_assoc _ _ _).symm
  | getClients | addClient | remClient => exact ⟨paid, accepted, sent⟩
  | sendTo cookies cmd buff =>
    obtain ⟨full, m, decoded, own⟩ := pays
    rw [log_after]
    by_cases same : m.id = client.id
    · obtain ⟨r, rfl, rfl, rfl, rfl⟩ := own same
      have wrote : (s.outcome c choice (.sendTo client.cookie Commands.msg buff)).2.2 =
          [.wrote c d (some d) ⟨Commands.msg, buff⟩] :=
        congrArg Prod.snd (@Sockets.sendTo s h.sockets d client.cookie attends.listed attends.open_ c
          ⟨Commands.msg, buff⟩ full)
      rw [wrote]
      simp only [owes, decoded, Option.map_some, same, if_true]
      refine ⟨r :: paid, accepted, ?_⟩
      simp only [deliveries, List.cons_append, List.nil_append, decoded, same, true_and, if_true, sent, List.map_cons,
        delivery]
    · have silent : deliveries A.json c client.id ((s.outcome c choice (.sendTo cookies cmd buff)).2.2 ++ s.log) =
          deliveries A.json c client.id s.log := by
        rcases sendTo_cases s c cookies ⟨cmd, buff⟩ with empty | ⟨_, _, _, _, _, _, one⟩
        · exact congrArg (fun entries => deliveries A.json c client.id (entries ++ s.log)) empty
        · refine (congrArg (fun entries => deliveries A.json c client.id (entries ++ s.log)) one).trans ?_
          simp only [deliveries, List.cons_append, List.nil_append, decoded, same, and_false, if_false]
      simp only [owes, decoded, Option.map_some, Option.some.injEq, same, if_false]
      exact ⟨paid, (accepted_writes s c choice _ s.log).trans accepted, silent.trans sent⟩

theorem delivering_step (h : Delivering A c client d start s) (attends : Attends client d s)
    (taken : step A s e = some s') : Delivering A c client d start s' := by
  obtain ⟨conn, there, due⟩ := h.due
  cases step_cases taken with
  | accept fresh => exact h.of_append taken rfl (Or.inl rfl)
  | refuse fresh => exact h.of_append taken rfl (Or.inr ⟨_, _, rfl⟩)
  | emplace here =>
    refine h.of_plain taken rfl ⟨[], rfl, nofun, fun _ => rfl⟩ ?_
    rintro rfl
    cases here.symm.trans there
    exact due.elim
  | packet here received =>
    rename_i k handle socket stack results header buff
    refine h.of_plain taken rfl ⟨.received k _ :: s.uses _ (.read k), rfl, ?_, fun other => ?_⟩ ?_
    · exact List.forall_mem_cons.2 ⟨trivial, plain_uses⟩
    · simp only [List.cons_append, frames, if_neg other, frames_uses]
    · rintro rfl
      cases here.symm.trans there
      refine ⟨⟨header.command stack.beyond, buff⟩, none, ?_, ?_, packetHandler_paying A client handle _⟩
      · simp only [frames, if_true, List.head?_cons]
      · exact due.of_same (acceptedMessages_append plain_uses k s.log) (deliveries_append plain_uses k client.id s.log)
  | call here =>
    rename_i k handle socket choice call next
    by_cases self : k = c
    · subst self
      have paid := h.called attends choice here
      exact ⟨sound_step h.sound taken, sockets_step h.sockets taken, _, conns_set_self here _, paid⟩
    · exact h.of_set taken rfl (accepted_after_ne self choice call) (deliveries_after_ne self choice call client.id)
        (fun _ => frames_after c s k choice call) fun same => absurd same self
  | reply here =>
    refine h.of_plain taken rfl ⟨_, rfl, plain_send, fun _ => frames_send c s _ _ _ _⟩ ?_
    rintro rfl
    cases here.symm.trans there
    obtain ⟨packet, owed, _, settled, paid⟩ := due
    obtain rfl : owed = none := paid
    exact settled.of_same (acceptedMessages_append plain_send _ _) (deliveries_append plain_send _ _ _)
  | refused here received =>
    exact h.of_plain taken rfl ⟨_, rfl, plain_uses, fun _ => frames_uses c s _ _ _⟩ fun _ => trivial
  | disconnected here | invalidate here | erase here | finish here =>
    exact h.of_plain taken rfl ⟨[], rfl, nofun, fun _ => rfl⟩ fun _ => trivial
  | disconnect here | destroy here =>
    refine h.of_plain taken rfl ⟨[.closed _ _], rfl, ?_, fun _ => rfl⟩ fun _ => trivial
    exact List.forall_mem_singleton.2 trivial

/-- **Exactly once, in order.** Between two states of a run in which the handler of `c` waits
for a packet, and while the client stays logged in and its connection `d` open and
registered: the handler has sent the client one packet for each message it has accepted,
in their order, each on `d` with the client's own id and session and the message's body. -/
theorem messages_delivered {login pass : Str} {before es : List Event} {handle handle' : Nat}
    {socket socket' : Option Nat} (reached : Runs.exec (step A) (State.init login pass) before = some s)
    (here : s.conns[c]? = some ⟨handle, socket, .receiving⟩) (run : Runs.exec (step A) s es = some s')
    (here' : s'.conns[c]? = some ⟨handle', socket', .receiving⟩)
    (attends : Runs.Throughout (step A) (Attends client d) s es) :
    ∃ requests, acceptedMessages A c s'.log = requests ++ acceptedMessages A c s.log ∧
      deliveries A.json c client.id s'.log = requests.map (delivery client d) ++ deliveries A.json c client.id s.log := by
  have first : Delivering A c client d s.log s :=
    ⟨sound_run (sound_init login pass) reached, sockets_run (sockets_init login pass) reached, _, here, [], rfl, rfl⟩
  have last : Delivering A c client d s.log s' :=
    Runs.exec_guarded (fun _ _ _ => delivering_step) first attends.along run
  obtain ⟨conn, there, due⟩ := last.due
  cases here'.symm.trans there
  exact due

end

/-- Two clients are logged in. -/
def loggedIn : List Event :=
  [.accept 3 true, .emplace 0, .accept 4 true, .emplace 1,
    .recv 0 blank (whole (loginPacket "7")), .call 0 someChoice, .reply 0,
    .recv 1 blank (whole (loginPacket "9")), .call 1 someChoice, .reply 1]

/-- The second client sends two messages, and the first one between the `send_to` calls of the
first of these. -/
def crossing : List Event :=
  [.recv 1 blank (whole (messagePacket "9")), .call 1 someChoice, .call 1 someChoice, .call 1 someChoice,
    .recv 0 blank (whole (messagePacket "7")), .call 0 someChoice, .call 0 someChoice, .call 0 someChoice,
    .call 1 someChoice, .reply 1,
    .recv 1 blank (whole (messagePacket "9")), .call 1 someChoice, .call 1 someChoice, .call 1 someChoice,
    .call 1 someChoice, .reply 1]

/-- The first client. -/
def client7 : AuthClient := ⟨⟨3⟩, 7, str "aaaaaaaaaaaaaaaaaaaaaaaaaaaaaaaa", str "login", .accepted⟩

/-- Whether the handler of the second connection waits for a packet. -/
def waits (s : State) : Option Bool := s.conns[1]?.map fun conn => conn.phase matches .receiving

theorem waits_spec {s : State} (h : waits s = some true) :
    ∃ handle socket, s.conns[1]? = some ⟨handle, socket, .receiving⟩ := by
  obtain ⟨⟨handle, socket, phase⟩, here, receiving⟩ := Option.map_eq_some_iff.1 h
  cases phase with
  | receiving => exact ⟨handle, socket, here⟩
  | _ => cases receiving

/-- The first client gets both messages, the second after the first. -/
theorem messages_delivered_crossing :
    ∃ s s', Runs.exec (step App.compact) (State.init (str "login") (str "pass")) loggedIn = some s ∧
      Runs.exec (step App.compact) s crossing = some s' ∧
      ∃ requests : List Client.MsgRequest, requests.length = 2 ∧
        deliveries App.compact.json 1 7 s'.log = requests.map (delivery client7 0) := by
  obtain ⟨s, reached, same⟩ := Option.map_eq_some_iff.1
    (show (Runs.exec (step App.compact) (State.init (str "login") (str "pass")) loggedIn).map
        (fun s => (Runs.exec (step App.compact) s crossing).map fun s' =>
          decide (waits s = some true ∧ acceptedMessages App.compact 1 s.log = [] ∧
            deliveries App.compact.json 1 7 s.log = [] ∧
            Runs.Throughout (step App.compact) (Attends client7 0) s crossing ∧
            waits s' = some true ∧ (acceptedMessages App.compact 1 s'.log).length = 2)) =
      some (some true) by decide +kernel)
  obtain ⟨s', run, facts⟩ := Option.map_eq_some_iff.1 same
  obtain ⟨waiting, none, unsent, attends, waiting', two⟩ := of_decide_eq_true facts
  obtain ⟨handle, socket, here⟩ := waits_spec waiting
  obtain ⟨handle', socket', here'⟩ := waits_spec waiting'
  obtain ⟨requests, accepted, sent⟩ := messages_delivered reached here run here' attends
  refine ⟨s, s', reached, run, requests, ?_, ?_⟩
  · rw [accepted, none, List.append_nil] at two
    exact two
  · exact (sent.trans (congrArg _ unsent)).trans (List.append_nil _)

end Gologin.Server
