import Gologin.Tcp.Recv

/-!
# The threads of the server

`server::stop` of `tcp/server/server.cpp` among the threads it waits for: the accept thread
in `handler_thread_routine` and one thread in `client_handler` for each client. A thread's
place is the next thing it does that others can tell, and a mutex is held by the threads
whose places lie inside its block. `::recv` blocks on an open socket for which nothing is
pending. `::send` is taken as returning: a peer that does not read, so that `::send` waits for
room in its buffer, is left out. A step that is blocked gives `none`.
-/

namespace Gologin.Shutdown
set_option autoImplicit false
open Tcp

/-- The other end of a connection. -/
inductive Peer where
  | here
  | closed
  | reset
  deriving DecidableEq, Repr

/-- The socket of a client, with what has arrived on it and was not read. -/
structure Socket where
  isOpen : Bool
  pending : List UInt8
  peer : Peer
  deriving DecidableEq, Repr

namespace Socket

/-- `::recv`. -/
def recv (len : Nat) (c : Socket) : Option (RecvResult × Socket) :=
  if c.isOpen = false then some (.failed .other false, c)
  else if c.peer = .reset then some (.failed .econnreset true, c)
  else if c.pending ≠ [] then some (.data (c.pending.take len), { c with pending := c.pending.drop len })
  else if c.peer = .closed then some (.closed, c)
  else none

/-- A number of `disconnect()` calls. -/
def disconnect (calls : Nat) (c : Socket) : Socket := if calls = 0 then c else { c with isOpen := false }

end Socket

/-- Where a thread is in `client_handler`. It waits for `m_client_list_mutex` at `start`,
`handling` and `leaving`, and holds it at `inserting`, `sending` and `erasing`. -/
inductive Place where
  | start
  | inserting
  | check
  | header (header : PacketHeader)
  | body (header : PacketHeader)
  | handling
  | sending
  | leaving
  | erasing
  | ended
  deriving DecidableEq, Repr

namespace Place

/-- It holds the mutex alone. -/
def writes : Place → Bool
  | .inserting => true
  | .erasing => true
  | _ => false

/-- It holds the mutex with others that read. -/
def reads : Place → Bool
  | .sending => true
  | _ => false

end Place

/-- A thread of `m_client_handler_threads`, with the socket of its client. -/
structure Handler where
  socket : Socket
  place : Place
  deriving DecidableEq, Repr

/-- Behind the header's `::recv`. -/
def Handler.afterHeader (header : PacketHeader) (res : RecvResult) (socket : Socket) : Handler :=
  match ServerClient.headerRead header res with
  | .refused disconnects => ⟨socket.disconnect disconnects, .leaving⟩
  | .body header => ⟨socket, .body header⟩

/-- Behind the body's `::recv`. -/
def Handler.afterBody (header : PacketHeader) (res : RecvResult) (socket : Socket) : Handler :=
  match bodyRead header.size res with
  | some _ => ⟨socket, .handling⟩
  | none => ⟨socket, .leaving⟩

/-- The next step in `client_handler`: `up` tells the status, `writable` and `readable` whether
the mutex of the list is free for each use. `garbage` is what the stack holds for the header, and
`send` whether the handlers of the packet go on with a `send_to`. -/
def Handler.step (up writable readable : Bool) (garbage : PacketHeader) (send : Bool) (t : Handler) :
    Option Handler :=
  match t.place with
  | .start => if writable then some { t with place := .inserting } else none
  | .inserting => some { t with place := .check }
  | .check => some { t with place := if up then .header garbage else .ended }
  | .header header => (t.socket.recv sizeofHeader).map fun (res, socket) => afterHeader header res socket
  | .body header => (t.socket.recv header.size).map fun (res, socket) => afterBody header res socket
  | .handling =>
    if send then if readable then some { t with place := .sending } else none
    else some { t with place := .check }
  | .sending => some { t with place := .handling }
  | .leaving => if writable then some { t with place := .erasing } else none
  | .erasing => some { t with place := .ended }
  | .ended => none

/-- Where the accept thread is in `handler_thread_routine`: from `accepted` to `pushing` with the
socket that `::accept` gave. It waits for `m_client_handler_mutex` at `serving` and holds it at
`pushing`. -/
inductive Accept where
  | check
  | accepting
  | accepted (socket : Socket)
  | serving (socket : Socket)
  | pushing (socket : Socket)
  | ended
  deriving DecidableEq, Repr

/-- Where a call of `stop()` is, the status being set: it closes the listening socket, joins the
accept thread, locks `m_client_handler_mutex` and joins the handler threads in order. -/
inductive Stop where
  | idle
  | closing
  | joinAccept
  | lock
  | joinClients (joined : Nat)
  deriving DecidableEq, Repr

namespace Stop

/-- It waits in a join. -/
def waits : Stop → Bool
  | .joinAccept => true
  | .joinClients _ => true
  | _ => false

/-- It has joined the accept thread. -/
def past : Stop → Bool
  | .lock => true
  | .joinClients _ => true
  | _ => false

/-- It holds `m_client_handler_mutex`. -/
def holds : Stop → Bool
  | .joinClients _ => true
  | _ => false

end Stop

/-- The server: whether the status is `up` and the listening socket open, its threads, and the
call of `stop()`. -/
structure Server where
  up : Bool
  listening : Bool
  accept : Accept
  stop : Stop
  threads : List Handler
  deriving DecidableEq, Repr

/-- What happens: a call of the user's, a step of one of the server's threads, or an act of a peer.
An `abort` is of a connection that is gone before `::accept` returns it. -/
inductive Event where
  | start
  | stop
  | stopStep
  | acceptStep (keepAlive : Bool)
  | handlerStep (thread : Nat) (garbage : PacketHeader) (send : Bool)
  | connect (pending : List UInt8)
  | abort
  | arrive (thread : Nat) (bytes : List UInt8)
  | leave (thread : Nat) (reset : Bool)
  deriving DecidableEq, Repr

/-- A step of a thread of the server's, for which no peer has to do anything more. -/
def Event.Own : Event → Prop
  | .stopStep => True
  | .acceptStep _ => True
  | .handlerStep _ _ _ => True
  | _ => False

namespace Server

def init : Server := ⟨false, false, .ended, .idle, []⟩

def writable (s : Server) : Bool := s.threads.all fun t => !t.place.writes && !t.place.reads

def readable (s : Server) : Bool := s.threads.all fun t => !t.place.writes

/-- The rest of `stop()` behind the setting of the status. -/
def stopStep (s : Server) : Option Server :=
  match s.stop with
  | .idle => none
  | .closing => some { s with listening := false, stop := .joinAccept }
  | .joinAccept => if s.accept = .ended then some { s with stop := .lock } else none
  | .lock =>
    match s.accept with
    | .pushing _ => none
    | _ => some { s with stop := .joinClients 0 }
  | .joinClients joined =>
    match s.threads[joined]? with
    | some t => if t.place = .ended then some { s with stop := .joinClients (joined + 1) } else none
    | none => some { s with stop := .idle, threads := [] }

/-- The next step in `handler_thread_routine`; `keepAlive` is what `set_keep_alive` gives. The
`::accept` on a socket that was closed gives an error. -/
def acceptStep (s : Server) (keepAlive : Bool) : Option Server :=
  match s.accept with
  | .check => some { s with accept := if s.up then .accepting else .ended }
  | .accepting => if s.listening then none else some { s with accept := .check }
  | .accepted socket => some { s with accept := if s.up then .serving { socket with isOpen := keepAlive } else .check }
  | .serving socket => if s.stop.holds then none else some { s with accept := .pushing socket }
  | .pushing socket => some { s with accept := .check, threads := s.threads ++ [⟨socket, .start⟩] }
  | .ended => none

def handlerStep (s : Server) (i : Nat) (garbage : PacketHeader) (send : Bool) : Option Server :=
  (s.threads[i]?).bind fun t =>
    (t.step s.up s.writable s.readable garbage send).map fun t => { s with threads := s.threads.set i t }

/-- The peer of a thread's client does something. -/
def peerStep (s : Server) (i : Nat) (act : Socket → Socket) : Option Server :=
  (s.threads[i]?).bind fun t =>
    if t.socket.peer = .here then some { s with threads := s.threads.set i { t with socket := act t.socket } }
    else none

def step (s : Server) : Event → Option Server
  -- a `start` that gets to its end; any other leaves the server down and has no thread
  | .start => if s.up = false ∧ s.stop = .idle then some ⟨true, true, .check, .idle, []⟩ else none
  | .stop => if s.up = true ∧ s.stop = .idle then some { s with up := false, stop := .closing } else none
  | .stopStep => s.stopStep
  | .acceptStep keepAlive => s.acceptStep keepAlive
  | .handlerStep i garbage send => s.handlerStep i garbage send
  | .connect pending =>
    if s.accept = .accepting ∧ s.listening = true then some { s with accept := .accepted ⟨true, pending, .here⟩ }
    else none
  | .abort => if s.accept = .accepting ∧ s.listening = true then some { s with accept := .check } else none
  | .arrive i bytes => s.peerStep i fun socket => { socket with pending := socket.pending ++ bytes }
  | .leave i reset => s.peerStep i fun socket => { socket with peer := if reset then .reset else .closed }

/-- `stop()` has set the status and waits to join the accept thread or a handler thread. -/
def Waiting (s : Server) : Prop := s.up = false ∧ s.stop.waits = true

end Server

/-- A handler thread that no step of the server's own frees: its client is open and its peer
there, and what has arrived ends with the header, or before it. -/
def Handler.Doomed (t : Handler) : Prop :=
  t.socket.isOpen = true ∧ t.socket.peer = .here ∧
    match t.place with
    | .header header =>
      t.socket.pending = [] ∨ t.socket.pending.length ≤ sizeofHeader ∧ (header.fill t.socket.pending).size ≠ 0
    | .body _ => t.socket.pending = []
    | _ => False

/-! ## One thread of a client -/

section
variable {c c' : Socket} {t t' : Handler} {up writable readable send : Bool} {garbage : PacketHeader} {len : Nat}
  {res : RecvResult}

/-- When `::recv` blocks. -/
theorem Socket.recv_eq_none : c.recv len = none ↔ c.isOpen = true ∧ c.peer = .here ∧ c.pending = [] := by
  unfold Socket.recv
  by_cases none : c.pending = []
  · cases c.isOpen <;> cases c.peer <;> simp [none]
  · cases c.isOpen <;> cases c.peer <;> simp [none]

/-- `::recv` leaves the connection as it is, and takes what is pending. -/
theorem Socket.recv_some (taken : c.recv len = some (res, c')) :
    c'.isOpen = c.isOpen ∧ c'.peer = c.peer ∧
      (c.isOpen = true → c.peer = .here → res = .data (c.pending.take len) ∧ c'.pending = c.pending.drop len) := by
  unfold Socket.recv at taken
  split at taken
  · rename_i shut
    cases taken
    exact ⟨rfl, rfl, fun isOpen => absurd isOpen (by simp [shut])⟩
  split at taken
  · rename_i reset
    cases taken
    exact ⟨rfl, rfl, fun _ here => absurd here (by simp [reset])⟩
  split at taken
  · cases taken
    exact ⟨rfl, rfl, fun _ _ => ⟨rfl, rfl⟩⟩
  split at taken
  · rename_i closed
    cases taken
    exact ⟨rfl, rfl, fun _ here => absurd here (by simp [closed])⟩
  · cases taken

/-- **The two steps in a `::recv`** make `server_client::recv`, with its `disconnect()` calls. -/
theorem Handler.recv_eq (header : PacketHeader) (c : Socket) :
    ((⟨c, .header header⟩ : Handler).step up writable readable garbage send).bind (fun t =>
        match t.place with
        | .body _ => t.step up writable readable garbage send
        | _ => some t) =
      (ServerClient.recv (fun len c => c.recv len) header c).map fun (ret, c) =>
        match ret with
        | .packet _ _ => ⟨c, .handling⟩
        | .refused disconnects => ⟨c.disconnect disconnects, .leaving⟩ := by
  simp only [Handler.step, ServerClient.recv, recvWith]
  cases c.recv sizeofHeader with
  | none => rfl
  | some got =>
    obtain ⟨res, c'⟩ := got
    simp only [Option.map_some, Option.bind_some, Handler.afterHeader]
    cases ServerClient.headerRead header res with
    | refused disconnects => rfl
    | body header' =>
      simp only
      cases c'.recv header'.size with
      | none => rfl
      | some got' =>
        simp only [Option.map_some, Handler.afterBody]
        cases bodyRead header'.size got'.1 with
        | none => rfl
        | some buff => rfl

/-- Where a thread is blocked, the mutexes being free. -/
theorem Handler.step_eq_none (blocked : t.step up true true garbage send = none) :
    t.place = .ended ∨ t.Doomed := by
  cases here : t.place with
  | ended => exact Or.inl rfl
  | header header =>
    simp only [Handler.step, here, Option.map_eq_none_iff, Socket.recv_eq_none] at blocked
    refine Or.inr ⟨blocked.1, blocked.2.1, ?_⟩
    rw [here]
    exact Or.inl blocked.2.2
  | body header =>
    simp only [Handler.step, here, Option.map_eq_none_iff, Socket.recv_eq_none] at blocked
    refine Or.inr ⟨blocked.1, blocked.2.1, ?_⟩
    rw [here]
    exact blocked.2.2
  | handling => cases send <;> simp [Handler.step, here] at blocked
  | _ => simp [Handler.step, here] at blocked

theorem Handler.Doomed.alive (h : t.Doomed) : t.place ≠ .ended := by
  intro ended
  have last := h.2.2
  rw [ended] at last
  exact last

theorem Handler.step_alive (taken : t.step up writable readable garbage send = some t') : t.place ≠ .ended := by
  intro ended
  simp [Handler.step, ended] at taken

/-- Data for a header asks for a body when the size is then not 0. -/
theorem Handler.afterHeader_data (header : PacketHeader) (got : List UInt8) (c : Socket) :
    Handler.afterHeader header (.data got) c =
      if (header.fill got).size = 0 then ⟨c, .leaving⟩ else ⟨c, .body (header.fill got)⟩ := by
  unfold Handler.afterHeader
  rw [show ServerClient.headerRead header (.data got) = checkSize (header.fill got) from rfl, checkSize]
  by_cases zero : (header.fill got).size = 0
  · simp only [if_pos zero]
    rfl
  · simp only [if_neg zero]

theorem Handler.afterHeader_place (header : PacketHeader) (res : RecvResult) (c : Socket) :
    (Handler.afterHeader header res c).place = .leaving ∨
      ∃ header', Handler.afterHeader header res c = ⟨c, .body header'⟩ := by
  unfold Handler.afterHeader
  split
  · exact Or.inl rfl
  · exact Or.inr ⟨_, rfl⟩

theorem Handler.afterBody_place (header : PacketHeader) (res : RecvResult) (c : Socket) :
    (Handler.afterBody header res c).place = .leaving ∨ (Handler.afterBody header res c).place = .handling := by
  unfold Handler.afterBody
  split
  · exact Or.inr rfl
  · exact Or.inl rfl

/-- A doomed thread stays so, whatever it does. -/
theorem Handler.Doomed.step (h : t.Doomed) (taken : t.step up writable readable garbage send = some t') :
    t'.Doomed := by
  obtain ⟨isOpen, peer, last⟩ := h
  cases here : t.place with
  | header header =>
    simp only [here] at last
    simp only [Handler.step, here] at taken
    obtain ⟨⟨res, c'⟩, got, rfl⟩ := Option.map_eq_some_iff.1 taken
    obtain ⟨isOpen', peer', read⟩ := Socket.recv_some got
    obtain ⟨rfl, rest⟩ := read isOpen peer
    have pending : t.socket.pending ≠ [] := by
      intro none
      rw [Socket.recv_eq_none.2 ⟨isOpen, peer, none⟩] at got
      cases got
    obtain ⟨short, size⟩ := last.resolve_left pending
    simp only [Handler.afterHeader_data, List.take_of_length_le short, if_neg size]
    exact ⟨isOpen'.trans isOpen, peer'.trans peer, rest.trans (List.drop_eq_nil_of_le short)⟩
  | body header =>
    simp only [here] at last
    simp only [Handler.step, here, Socket.recv_eq_none.2 ⟨isOpen, peer, last⟩] at taken
    cases taken
  | _ => simp [here] at last

/-- It is in a `::recv`. -/
def Place.receives : Place → Bool
  | .header _ => true
  | .body _ => true
  | _ => false

/-- What is left of a thread once the server is down. -/
def Place.rank : Place → Nat
  | .ended => 0
  | .check => 1
  | .erasing => 1
  | .inserting => 2
  | .handling => 2
  | .leaving => 2
  | .start => 3
  | .sending => 3
  | .body _ => 3
  | .header _ => 4

theorem Handler.Doomed.receives (h : t.Doomed) : t.place.receives = true := by
  have last := h.2.2
  split at last
  · rename_i here
    rw [here]
    rfl
  · rename_i here
    rw [here]
    rfl
  · exact last.elim

/-- Once the server is down, a step outside a `::recv` does not lead to one, and brings the
thread nearer to its end unless it goes on to a `send_to`. -/
theorem Handler.step_down (taken : t.step false writable readable garbage send = some t')
    (outside : t.place.receives = false) :
    t'.place.receives = false ∧ (send = false → t'.place.rank < t.place.rank) := by
  cases here : t.place with
  | header => simp [here, Place.receives] at outside
  | body => simp [here, Place.receives] at outside
  | start | leaving =>
    simp only [Handler.step, here] at taken
    split at taken
    · cases taken
      simp [Place.receives, Place.rank]
    · cases taken
  | handling =>
    simp only [Handler.step, here] at taken
    split at taken
    · rename_i sends
      split at taken
      · cases taken
        simp [Place.receives, sends]
      · cases taken
    · cases taken
      simp [Place.receives, Place.rank]
  | ended => exact absurd here (Handler.step_alive taken)
  | inserting | check | sending | erasing =>
    simp only [Handler.step, here] at taken
    cases taken
    simp [Place.receives, Place.rank]

/-- Once the server is down, no thread becomes doomed by a step of its own. -/
theorem Handler.doomed_step (taken : t.step false writable readable garbage send = some t') (h : t'.Doomed) :
    t.Doomed := by
  have receives := h.receives
  cases here : t.place with
  | header header =>
    simp only [Handler.step, here] at taken
    obtain ⟨⟨res, c'⟩, got, rfl⟩ := Option.map_eq_some_iff.1 taken
    obtain ⟨isOpen', peer', read⟩ := Socket.recv_some got
    rcases Handler.afterHeader_place header res c' with leaving | ⟨header', body⟩
    · simp [leaving, Place.receives] at receives
    · rw [body] at h
      obtain ⟨isOpen, peer, none⟩ := h
      obtain ⟨rfl, rest⟩ := read (isOpen'.symm.trans isOpen) (peer'.symm.trans peer)
      have short : t.socket.pending.length ≤ sizeofHeader := List.drop_eq_nil_iff.1 (rest.symm.trans none)
      refine ⟨isOpen'.symm.trans isOpen, peer'.symm.trans peer, ?_⟩
      simp only [here]
      refine Or.inr ⟨short, fun zero => ?_⟩
      rw [Handler.afterHeader_data, List.take_of_length_le short, if_pos zero] at body
      cases body
  | body header =>
    simp only [Handler.step, here] at taken
    obtain ⟨⟨res, c'⟩, _, rfl⟩ := Option.map_eq_some_iff.1 taken
    rcases Handler.afterBody_place header res c' with leaving | handling
    · simp [leaving, Place.receives] at receives
    · simp [handling, Place.receives] at receives
  | _ =>
    have outside := (Handler.step_down taken (by rw [here]; rfl)).1
    simp [outside] at receives

/-- Once the server is down, every step brings a thread nearer to its end. -/
theorem Handler.rank_step (taken : t.step false writable readable garbage false = some t') :
    t'.place.rank < t.place.rank := by
  cases here : t.place with
  | header header =>
    simp only [Handler.step, here] at taken
    obtain ⟨⟨res, c'⟩, _, rfl⟩ := Option.map_eq_some_iff.1 taken
    rcases Handler.afterHeader_place header res c' with leaving | ⟨header', body⟩
    · simp [leaving, Place.rank]
    · simp [body, Place.rank]
  | body header =>
    simp only [Handler.step, here] at taken
    obtain ⟨⟨res, c'⟩, _, rfl⟩ := Option.map_eq_some_iff.1 taken
    rcases Handler.afterBody_place header res c' with leaving | handling
    · simp [leaving, Place.rank]
    · simp [handling, Place.rank]
  | _ =>
    rw [← here]
    exact (Handler.step_down taken (by rw [here]; rfl)).2 rfl

/-- A thread that can go on can go on without another `send_to`. -/
theorem Handler.step_quick (taken : t.step up writable readable garbage send = some t') :
    ∃ t', t.step up writable readable garbage false = some t' := by
  cases here : t.place with
  | handling => simp [Handler.step, here]
  | _ =>
    simp only [Handler.step, here] at taken ⊢
    exact ⟨t', taken⟩

/-- A thread that holds the mutex can go on. -/
theorem Handler.step_holding (holds : t.place.writes = true ∨ t.place.reads = true) :
    ∃ t', t.step up writable readable garbage send = some t' := by
  cases here : t.place with
  | inserting | sending | erasing => simp [Handler.step, here]
  | _ => simp [here, Place.writes, Place.reads] at holds

end

end Gologin.Shutdown
