import Gologin.Lib.Runs
import Gologin.Server.App
import Gologin.Tcp.Sending

/-!
# The server

`tcp::server` with its threads: the accept loop of `server::handler_thread_routine` and one
`server::client_handler` for each accepted socket. A step is one call on shared state (a
critical section, or a system call on a socket), so a run is any interleaving of the
threads. The operating system hands out the handles: `accept` may return any handle that
is not open. `stop()` is not among the steps.

Connections are numbered in the order of their `accept`. The number stands for the
accepted socket, for its `server_client` and for the thread that runs its handler, so it
tells two sockets with one handle apart. The log is what an observer has seen, newest
first; the server does not read it.
-/

namespace Gologin.Server
set_option autoImplicit false
open Calls Messages Auth Tcp Tables

/-- Where the handler of a connection stands. -/
inductive Phase where
  /-- Before its `m_client_list.emplace`. -/
  | started
  /-- At the top of its loop. -/
  | receiving
  /-- In `packet_handler`, with what is left of it. -/
  | handling (program : Handling Packet)
  /-- In a `recv` that refuses, with so many `disconnect()` calls to make. -/
  | dropping (disconnects : Nat)
  /-- In `disconnect()`, between `::close` and `m_socket = INVALID_SOCKET`. -/
  | closing (disconnects : Nat)
  /-- Behind its `m_client_list.erase`. -/
  | leaving
  /-- Its `server_client` is destroyed. -/
  | ended

/-- Whether the handler waits for a packet. -/
def Phase.idle : Phase → Bool
  | .receiving => true
  | _ => false

theorem Phase.idle_iff {phase : Phase} : phase.idle = true ↔ phase = .receiving := by
  cases phase <;> simp [idle]

/-- A connection: the handle that `accept` returned, `m_socket` of its `server_client`
(`none` is `INVALID_SOCKET`), and its handler. -/
structure Conn where
  handle : Nat
  socket : Option Nat
  phase : Phase

/-- What can be observed of the server. A `::send`, `::recv` or `::close` is on the accepted
socket that has the handle at that time, if any. -/
inductive Entry where
  | received (c : Nat) (packet : Packet)
  | called (c : Nat) (call : Call) (answer : call.Answer)
  | wrote (c : Nat) (via : Nat) (on : Option Nat) (packet : Packet)
  | replied (c : Nat) (on : Option Nat) (packet : Packet)
  | read (c : Nat) (on : Option Nat)
  | closed (c : Nat) (on : Option Nat)

/-- The state the threads share, and where they stand. -/
structure State where
  provider : Provider
  clientList : Table Nat Nat
  sockets : Table Nat Nat
  conns : List Conn
  log : List Entry

/-- What a call may leave open: the letters of a session, and the order of iteration. -/
structure Choice where
  draw : Draw
  order : Order

/-- A step of the server. -/
inductive Event where
  | accept (handle : Nat) (alive : Bool)
  | emplace (c : Nat)
  | recv (c : Nat) (stack : Stack) (results : List RecvResult)
  | call (c : Nat) (choice : Choice)
  | reply (c : Nat)
  | disconnect (c : Nat)
  | invalidate (c : Nat)
  | erase (c : Nat)
  | finish (c : Nat)

namespace State

/-- The server before its first connection. -/
def init (clientLogin clientPass : Str) : State := ⟨.init clientLogin clientPass, ∅, ∅, [], []⟩

def set (s : State) (c : Nat) (conn : Conn) : State := { s with conns := s.conns.set c conn }

/-- What is observed of a system call on `m_socket`, when it is not `INVALID_SOCKET`. -/
def uses (s : State) (conn : Conn) (entry : Option Nat → Entry) : List Entry :=
  match conn.socket with
  | some handle => [entry (s.sockets.lookup handle)]
  | none => []

/-- `client_base::send` on a `server_client`; each `::send` writes a whole packet or fails. -/
def send (s : State) (conn : Conn) (packet : Packet) (entry : Option Nat → Entry) : Bool × List Entry :=
  if createPacket packet.cmd packet.body = [] then (false, [])
  else ((conn.socket.bind s.sockets.lookup).isSome, s.uses conn entry)

/-- `server::send_to`, called by the handler of `c`. -/
def sendTo (s : State) (c : Nat) (cookies : ClientCookies) (packet : Packet) : Bool × List Entry :=
  match s.clientList.lookup cookies.serverClientId with
  | none => (false, [])
  | some via =>
    match s.conns[via]? with
    | none => (false, [])
    | some conn => s.send conn packet fun on => .wrote c via on packet

/-- What a call answers, the provider after it, and what it writes. -/
def outcome (s : State) (c : Nat) (choice : Choice) : (call : Call) → call.Answer × Provider × List Entry
  | .statusClient id session => (s.provider.statusClient id session, s.provider, [])
  | .getClients status => (s.provider.getClients choice.order status, s.provider, [])
  | .addClient id cookies login pass session =>
    let (status, session, provider) := s.provider.addClient choice.draw id cookies login pass session
    ((status, session), provider, [])
  | .remClient id session =>
    let (status, provider) := s.provider.remClient id session
    (status, provider, [])
  | .sendTo cookies cmd buff =>
    let (sent, entries) := s.sendTo c cookies ⟨cmd, buff⟩
    (sent, s.provider, entries)

/-- The state after a call. -/
def after (s : State) (c : Nat) (choice : Choice) (call : Call) : State :=
  let (answer, provider, entries) := s.outcome c choice call
  { s with provider := provider, log := .called c call answer :: (entries ++ s.log) }

/-- A call, answered and done. -/
def perform (c : Nat) (choice : Choice) (call : Call) (s : State) : call.Answer × State :=
  ((s.outcome c choice call).1, s.after c choice call)

/-- `::close` on `m_socket`. -/
def close (s : State) (c : Nat) (handle : Nat) : State :=
  { s with
    sockets := s.sockets.erase handle
    log := .closed c (s.sockets.lookup handle) :: s.log }

end State

/-- The `::recv` calls of a `recv`, scripted: a call returns at most what it was asked for. -/
def scripted (len : Nat) : List RecvResult → Option (RecvResult × List RecvResult)
  | .data got :: rest => if got ≠ [] ∧ got.length ≤ len then some (.data got, rest) else none
  | result :: rest => some (result, rest)
  | [] => none

/-- What `::recv` returns of a packet that is not cut. -/
def whole (packet : Packet) : List RecvResult :=
  [.data (headerBytes packet.cmd packet.body.length), .data packet.body]

/-- A stack that holds zeros. -/
def blank : Stack := ⟨⟨List.replicate 32 0, rfl⟩, []⟩

/-! ## Choices and packets to try the server on -/

/-- A login draws the session `aa...a`, and `get_clients` keeps the table's order. -/
def someChoice : Choice := ⟨fun _ => 0, default⟩

def loginPacket (id : String) : Packet :=
  ⟨Commands.auth, str ("\x7b\"id\":" ++ id ++ ",\"login\":\"login\",\"password\":\"pass\"\x7d")⟩

def messagePacket (id : String) : Packet :=
  ⟨Commands.msg, str ("\x7b\"id\":" ++ id ++ ",\"body\":\"secret\"\x7d")⟩

def logoutPacket (id : String) : Packet := ⟨Commands.bye, str ("\x7b\"id\":" ++ id ++ "\x7d")⟩

/-! ## The steps -/

section
variable (A : App)

/-- A step of the server, when it is enabled. -/
def step (s : State) : Event → Option State
  | .accept handle alive =>
    -- the accept loop, up to the start of the handler's thread, which is started either way
    if handle ∈ s.sockets then none
    else
      let c := s.conns.length
      let conns : List Conn := s.conns ++ [⟨handle, some handle, .started⟩]
      if alive then some { s with conns := conns, sockets := s.sockets.insert handle c }
      else some { s with conns := conns, log := .closed c (some c) :: s.log }
  | .emplace c =>
    match s.conns[c]? with
    | some ⟨handle, socket, .started⟩ =>
      some
        { s with
          conns := s.conns.set c ⟨handle, socket, .receiving⟩
          clientList := emplace handle c s.clientList }
    | _ => none
  | .recv c stack results =>
    match s.conns[c]? with
    | some ⟨handle, socket, .receiving⟩ =>
      let reads := s.uses ⟨handle, socket, .receiving⟩ (.read c)
      match ServerClient.recv scripted stack.header results with
      | some (.packet header buff, []) =>
        let packet : Packet := ⟨header.command stack.beyond, buff⟩
        some
          { s with
            conns := s.conns.set c ⟨handle, socket, .handling (A.packetHandler handle packet)⟩
            log := .received c packet :: (reads ++ s.log) }
      | some (.refused disconnects, []) =>
        some { s with conns := s.conns.set c ⟨handle, socket, .dropping disconnects⟩, log := reads ++ s.log }
      | _ => none
    | _ => none
  | .call c choice =>
    match s.conns[c]? with
    | some ⟨handle, socket, .handling (.call call next)⟩ =>
      let (answer, s) := s.perform c choice call
      some (s.set c ⟨handle, socket, .handling (next answer)⟩)
    | _ => none
  | .reply c =>
    match s.conns[c]? with
    | some ⟨handle, socket, .handling (.done packet)⟩ =>
      let (_, entries) := s.send ⟨handle, socket, .handling (.done packet)⟩ packet fun on => .replied c on packet
      some { s with conns := s.conns.set c ⟨handle, socket, .receiving⟩, log := entries ++ s.log }
    | _ => none
  | .disconnect c =>
    match s.conns[c]? with
    | some ⟨handle, some socket, .dropping (n + 1)⟩ =>
      some ((s.close c socket).set c ⟨handle, some socket, .closing n⟩)
    | some ⟨handle, none, .dropping (n + 1)⟩ => some (s.set c ⟨handle, none, .dropping n⟩)
    | _ => none
  | .invalidate c =>
    match s.conns[c]? with
    | some ⟨handle, _, .closing n⟩ => some (s.set c ⟨handle, none, .dropping n⟩)
    | _ => none
  | .erase c =>
    match s.conns[c]? with
    | some ⟨handle, socket, .dropping 0⟩ =>
      some
        { s with
          conns := s.conns.set c ⟨handle, socket, .leaving⟩
          clientList := s.clientList.erase handle }
    | _ => none
  | .finish c =>
    -- `~server_client`
    match s.conns[c]? with
    | some ⟨handle, some socket, .leaving⟩ => some ((s.close c socket).set c ⟨handle, none, .ended⟩)
    | some ⟨handle, none, .leaving⟩ => some (s.set c ⟨handle, none, .ended⟩)
    | _ => none

/-- The steps, one constructor for each way a step can go. -/
inductive Step (s : State) : Event → State → Prop where
  | accept {handle : Nat} (fresh : handle ∉ s.sockets) :
      Step s (.accept handle true)
        { s with
          conns := s.conns ++ [⟨handle, some handle, .started⟩]
          sockets := s.sockets.insert handle s.conns.length }
  | refuse {handle : Nat} (fresh : handle ∉ s.sockets) :
      Step s (.accept handle false)
        { s with
          conns := s.conns ++ [⟨handle, some handle, .started⟩]
          log := .closed s.conns.length (some s.conns.length) :: s.log }
  | emplace {c handle : Nat} {socket : Option Nat} (here : s.conns[c]? = some ⟨handle, socket, .started⟩) :
      Step s (.emplace c)
        { s with
          conns := s.conns.set c ⟨handle, socket, .receiving⟩
          clientList := Tables.emplace handle c s.clientList }
  | packet {c handle : Nat} {socket : Option Nat} {stack : Stack} {results : List RecvResult}
      {header : PacketHeader} {buff : Buffer} (here : s.conns[c]? = some ⟨handle, socket, .receiving⟩)
      (received : ServerClient.recv scripted stack.header results = some (.packet header buff, [])) :
      Step s (.recv c stack results)
        { s with
          conns := s.conns.set c
            ⟨handle, socket, .handling (A.packetHandler handle ⟨header.command stack.beyond, buff⟩)⟩
          log := .received c ⟨header.command stack.beyond, buff⟩ ::
            (s.uses ⟨handle, socket, .receiving⟩ (.read c) ++ s.log) }
  | refused {c handle : Nat} {socket : Option Nat} {stack : Stack} {results : List RecvResult}
      {disconnects : Nat} (here : s.conns[c]? = some ⟨handle, socket, .receiving⟩)
      (received : ServerClient.recv scripted stack.header results = some (.refused disconnects, [])) :
      Step s (.recv c stack results)
        { s with
          conns := s.conns.set c ⟨handle, socket, .dropping disconnects⟩
          log := s.uses ⟨handle, socket, .receiving⟩ (.read c) ++ s.log }
  | call {c handle : Nat} {socket : Option Nat} {choice : Choice} {call : Call}
      {next : call.Answer → Handling Packet}
      (here : s.conns[c]? = some ⟨handle, socket, .handling (.call call next)⟩) :
      Step s (.call c choice)
        ((s.after c choice call).set c ⟨handle, socket, .handling (next (s.outcome c choice call).1)⟩)
  | reply {c handle : Nat} {socket : Option Nat} {packet : Packet}
      (here : s.conns[c]? = some ⟨handle, socket, .handling (.done packet)⟩) :
      Step s (.reply c)
        { s with
          conns := s.conns.set c ⟨handle, socket, .receiving⟩
          log := (s.send ⟨handle, socket, .handling (.done packet)⟩ packet fun on => .replied c on packet).2
            ++ s.log }
  | disconnect {c handle socket n : Nat} (here : s.conns[c]? = some ⟨handle, some socket, .dropping (n + 1)⟩) :
      Step s (.disconnect c) ((s.close c socket).set c ⟨handle, some socket, .closing n⟩)
  | disconnected {c handle n : Nat} (here : s.conns[c]? = some ⟨handle, none, .dropping (n + 1)⟩) :
      Step s (.disconnect c) (s.set c ⟨handle, none, .dropping n⟩)
  | invalidate {c handle n : Nat} {socket : Option Nat}
      (here : s.conns[c]? = some ⟨handle, socket, .closing n⟩) :
      Step s (.invalidate c) (s.set c ⟨handle, none, .dropping n⟩)
  | erase {c handle : Nat} {socket : Option Nat} (here : s.conns[c]? = some ⟨handle, socket, .dropping 0⟩) :
      Step s (.erase c)
        { s with
          conns := s.conns.set c ⟨handle, socket, .leaving⟩
          clientList := s.clientList.erase handle }
  | destroy {c handle socket : Nat} (here : s.conns[c]? = some ⟨handle, some socket, .leaving⟩) :
      Step s (.finish c) ((s.close c socket).set c ⟨handle, none, .ended⟩)
  | finish {c handle : Nat} (here : s.conns[c]? = some ⟨handle, none, .leaving⟩) :
      Step s (.finish c) (s.set c ⟨handle, none, .ended⟩)

/-- Where a connection may be found after one was set. -/
theorem conns_set {conns : List Conn} {c c' : Nat} {new conn : Conn}
    (found : (conns.set c new)[c']? = some conn) :
    (c' = c ∧ conn = new) ∨ (c' ≠ c ∧ conns[c']? = some conn) := by
  rw [List.getElem?_set] at found
  split at found
  · rename_i same
    split at found
    · exact Or.inl ⟨same.symm, (Option.some.inj found).symm⟩
    · cases found
  · rename_i other
    exact Or.inr ⟨Ne.symm other, found⟩

theorem conns_set_self {conns : List Conn} {c : Nat} {old : Conn} (here : conns[c]? = some old) (new : Conn) :
    (conns.set c new)[c]? = some new := by
  rw [List.getElem?_set_self (List.getElem?_eq_some_iff.1 here).1]

/-- Where a connection may be found after one was added. -/
theorem conns_append {conns : List Conn} {c : Nat} {new conn : Conn}
    (found : (conns ++ [new])[c]? = some conn) :
    (c = conns.length ∧ conn = new) ∨ conns[c]? = some conn := by
  rw [List.getElem?_append] at found
  split at found
  · exact Or.inr found
  · rename_i high
    rw [List.getElem?_singleton] at found
    split at found
    · rename_i last
      exact Or.inl ⟨by omega, (Option.some.inj found).symm⟩
    · cases found

/-- What the log gets by a system call on `m_socket`. -/
theorem mem_uses {s : State} {conn : Conn} {entry : Option Nat → Entry} {x : Entry}
    (member : x ∈ s.uses conn entry) : ∃ handle, conn.socket = some handle ∧ x = entry (s.sockets.lookup handle) := by
  unfold State.uses at member
  split at member
  · rename_i handle open_
    exact ⟨handle, open_, List.mem_singleton.1 member⟩
  · cases member

theorem mem_send {s : State} {conn : Conn} {packet : Packet} {entry : Option Nat → Entry} {x : Entry}
    (member : x ∈ (s.send conn packet entry).2) :
    ∃ handle, conn.socket = some handle ∧ x = entry (s.sockets.lookup handle) := by
  unfold State.send at member
  split at member
  · cases member
  · exact mem_uses member

/-- Entries that are no call and no broadcast. -/
def Entry.Plain : Entry → Prop
  | .called _ _ _ => False
  | .wrote _ _ _ _ => False
  | _ => True

theorem plain_uses {s : State} {conn : Conn} {c : Nat} : ∀ e ∈ s.uses conn (.read c), e.Plain := by
  intro e member
  obtain ⟨_, _, rfl⟩ := mem_uses member
  trivial

theorem plain_send {s : State} {conn : Conn} {c : Nat} {packet : Packet} :
    ∀ e ∈ (s.send conn packet fun on => .replied c on packet).2, e.Plain := by
  intro e member
  obtain ⟨_, _, rfl⟩ := mem_send member
  trivial

theorem send_cases (s : State) (conn : Conn) (packet : Packet) (entry : Option Nat → Entry) :
    (s.send conn packet entry).2 = [] ∨ ∃ handle, conn.socket = some handle ∧
      (s.send conn packet entry).2 = [entry (s.sockets.lookup handle)] := by
  unfold State.send State.uses
  split
  · exact Or.inl rfl
  · cases socket : conn.socket with
    | none => exact Or.inl rfl
    | some handle => exact Or.inr ⟨handle, rfl, rfl⟩

/-- The `send` of a step is `client_base::send` with a `::send` that is not cut. -/
theorem send_uncut (s : State) (conn : Conn) (packet : Packet) (entry : Option Nat → Entry) :
    (s.send conn packet entry).1 =
      (ClientBase.send packet
        (if (conn.socket.bind s.sockets.lookup).isSome then .accepted (createPacket packet.cmd packet.body).length
          else .failed)).1 := by
  unfold State.send ClientBase.send
  split
  · rfl
  · cases (conn.socket.bind s.sockets.lookup).isSome <;> rfl

/-- `send_to` writes on behalf of the `server_client` registered under the cookies, or not at
all. -/
theorem sendTo_cases (s : State) (c : Nat) (cookies : ClientCookies) (packet : Packet) :
    (s.sendTo c cookies packet).2 = [] ∨ ∃ via conn handle,
      s.clientList.lookup cookies.serverClientId = some via ∧ s.conns[via]? = some conn ∧
      conn.socket = some handle ∧
      (s.sendTo c cookies packet).2 = [.wrote c via (s.sockets.lookup handle) packet] := by
  unfold State.sendTo
  split
  · exact Or.inl rfl
  · rename_i via listed
    split
    · exact Or.inl rfl
    · rename_i conn here
      rcases send_cases s conn packet fun on => .wrote c via on packet with empty | ⟨handle, socket, one⟩
      · exact Or.inl empty
      · exact Or.inr ⟨via, conn, handle, listed, here, socket, one⟩

theorem log_after (s : State) (c : Nat) (choice : Choice) (call : Call) :
    (s.after c choice call).log =
      .called c call (s.outcome c choice call).1 :: ((s.outcome c choice call).2.2 ++ s.log) := rfl

/-- Only `send_to` writes. -/
theorem outcome_cases (s : State) (c : Nat) (choice : Choice) (call : Call) :
    (s.outcome c choice call).2.2 = [] ∨ ∃ cookies cmd buff via conn handle, call = .sendTo cookies cmd buff ∧
      s.clientList.lookup cookies.serverClientId = some via ∧ s.conns[via]? = some conn ∧
      conn.socket = some handle ∧
      (s.outcome c choice call).2.2 = [.wrote c via (s.sockets.lookup handle) ⟨cmd, buff⟩] := by
  cases call with
  | sendTo cookies cmd buff =>
    rcases sendTo_cases s c cookies ⟨cmd, buff⟩ with empty | ⟨via, conn, handle, listed, here, socket, one⟩
    · exact Or.inl empty
    · exact Or.inr ⟨cookies, cmd, buff, via, conn, handle, rfl, listed, here, socket, one⟩
  | statusClient | getClients | addClient | remClient => exact Or.inl rfl

theorem mem_outcome {s : State} {c : Nat} {choice : Choice} {call : Call} {x : Entry}
    (member : x ∈ (s.outcome c choice call).2.2) :
    ∃ cookies cmd buff via conn handle, call = .sendTo cookies cmd buff ∧
      s.clientList.lookup cookies.serverClientId = some via ∧ s.conns[via]? = some conn ∧
      conn.socket = some handle ∧ x = .wrote c via (s.sockets.lookup handle) ⟨cmd, buff⟩ := by
  rcases outcome_cases s c choice call with empty | ⟨cookies, cmd, buff, via, conn, handle, rfl, listed, here, socket, one⟩
  · rw [empty] at member
    cases member
  · rw [one, List.mem_singleton] at member
    exact ⟨cookies, cmd, buff, via, conn, handle, rfl, listed, here, socket, member⟩

variable {A}

/-- **What a step does.** -/
theorem step_cases {s s' : State} {e : Event} (taken : step A s e = some s') : Step A s e s' := by
  cases e with
  | accept handle alive =>
    simp only [step] at taken
    split at taken
    · cases taken
    · rename_i fresh
      cases alive with
      | true => cases taken; exact .accept fresh
      | false => cases taken; exact .refuse fresh
  | emplace c =>
    simp only [step] at taken
    split at taken
    · rename_i here
      cases taken
      exact .emplace here
    · cases taken
  | recv c stack results =>
    simp only [step] at taken
    split at taken
    · rename_i here
      split at taken
      · rename_i received
        cases taken
        exact .packet here received
      · rename_i received
        cases taken
        exact .refused here received
      · cases taken
    · cases taken
  | call c choice =>
    simp only [step] at taken
    split at taken
    · rename_i here
      cases taken
      exact .call here
    · cases taken
  | reply c =>
    simp only [step] at taken
    split at taken
    · rename_i here
      cases taken
      exact .reply here
    · cases taken
  | disconnect c =>
    simp only [step] at taken
    split at taken
    · rename_i here
      cases taken
      exact .disconnect here
    · rename_i here
      cases taken
      exact .disconnected here
    · cases taken
  | invalidate c =>
    simp only [step] at taken
    split at taken
    · rename_i here
      cases taken
      exact .invalidate here
    · cases taken
  | erase c =>
    simp only [step] at taken
    split at taken
    · rename_i here
      cases taken
      exact .erase here
    · cases taken
  | finish c =>
    simp only [step] at taken
    split at taken
    · rename_i here
      cases taken
      exact .destroy here
    · rename_i here
      cases taken
      exact .finish here
    · cases taken

/-- Every way a step can go is enabled. -/
theorem Step.enabled {s s' : State} {e : Event} (h : Step A s e s') : step A s e = some s' := by
  cases h with
  | accept fresh => simp only [step, fresh, if_false, if_true]
  | refuse fresh => simp only [step, fresh, if_false, Bool.false_eq_true]
  | emplace here => simp only [step, here]
  | packet here received => simp only [step, here, received]
  | refused here received => simp only [step, here, received]
  | call here => simp only [step, here]; rfl
  | reply here => simp only [step, here]
  | disconnect here => simp only [step, here]
  | disconnected here => simp only [step, here]
  | invalidate here => simp only [step, here]
  | erase here => simp only [step, here]
  | destroy here => simp only [step, here]
  | finish here => simp only [step, here]

end

end Gologin.Server
