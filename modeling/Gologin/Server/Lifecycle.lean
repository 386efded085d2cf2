import Gologin.Lib.Runs
import Gologin.Lib.Threads

/-!
# Starting and stopping the server

`server::start`, `server::stop` and the destructor of `tcp/server/server.cpp`, with the
listening sockets and the thread objects. The sockets are numbered in the order of their
`::socket`. A call in which a thread object is misused gives `none`; a socket that is
open when `m_server_socket` is overwritten is lost.
-/

namespace Gologin.Server
set_option autoImplicit false
open Threads

/-- `server_traits::status`, as far as `tcp::server` sets it. -/
inductive ServerStatus where
  | up
  | initError
  | bindError
  | listeningError
  | close
  deriving DecidableEq, Repr

/-- Which of the system calls of a `start` succeed, if they are made. -/
structure StartOutcome where
  socket : Bool
  setsockopt : Bool
  bind : Bool
  listen : Bool
  deriving DecidableEq, Repr

/-- `tcp::server`: its status, its socket if that is valid, and its thread objects; with the
number of sockets opened so far, those of them that are open, those on which `::listen`
succeeded, and those that are lost. -/
structure TcpServer where
  status : ServerStatus
  serverSocket : Option Nat
  handlerThread : Handle
  clientHandlerThreads : List Handle
  opened : Nat
  live : List Nat
  listening : List Nat
  lost : List Nat
  deriving DecidableEq, Repr

/-- A call of the user, or a connection that the accept loop starts a handler for. -/
inductive ServerCall where
  | start (outcome : StartOutcome)
  | stop
  | accept
  deriving DecidableEq, Repr

namespace TcpServer

/-- `server::server`. -/
def init : TcpServer := ⟨.close, none, .empty, [], 0, [], [], []⟩

/-- `m_server_socket` is overwritten. -/
def assignSocket (s : TcpServer) (socket : Option Nat) : TcpServer :=
  { s with serverSocket := socket, lost := s.serverSocket.toList.filter (· ∈ s.live) ++ s.lost }

/-- `m_server_socket = ::socket(..)`. -/
def open_ (s : TcpServer) : TcpServer :=
  { s.assignSocket (some s.opened) with opened := s.opened + 1, live := s.opened :: s.live }

/-- `::listen` on `m_server_socket`, when it succeeds. -/
def listen (s : TcpServer) : TcpServer := { s with listening := s.serverSocket.toList ++ s.listening }

/-- `::close` on `m_server_socket`; the variable keeps the handle. -/
def close (s : TcpServer) : TcpServer := { s with live := s.live.filter fun n => some n ≠ s.serverSocket }

/-- `server::stop`. -/
def stop (s : TcpServer) : Option TcpServer :=
  s.handlerThread.join.bind fun thread =>
    (joinAll s.clientHandlerThreads).bind fun threads =>
      (destroyAll threads).map fun _ =>
        { s.close with status := .close, handlerThread := thread, clientHandlerThreads := [] }

/-- The end of `server::start`. -/
def up (s : TcpServer) : Option TcpServer :=
  s.handlerThread.assign.map fun thread => { s with status := .up, handlerThread := thread }

/-- `server::start` behind its `stop()`. -/
def begin_ (s : TcpServer) (outcome : StartOutcome) : Option TcpServer :=
  if outcome.socket = false then some { s.assignSocket none with status := .initError }
  else if outcome.setsockopt = false ∨ outcome.bind = false then some { s.open_ with status := .bindError }
  else if outcome.listen = false then some { s.open_ with status := .listeningError }
  else s.open_.listen.up

/-- `server::start`. -/
def start (s : TcpServer) (outcome : StartOutcome) : Option TcpServer :=
  if s.status = .up then s.stop.bind fun s => s.begin_ outcome else s.begin_ outcome

/-- `server::~server`, and then the destructors of the thread objects. -/
def destroy (s : TcpServer) : Option TcpServer :=
  (if s.status = .up then s.stop else some s).bind fun s =>
    s.handlerThread.destroy.bind fun _ => (destroyAll s.clientHandlerThreads).map fun _ => s

def step (s : TcpServer) : ServerCall → Option TcpServer
  | .start outcome => s.start outcome
  | .stop => s.stop
  | .accept =>
    -- the accept loop runs while the server is up
    if s.status = .up then some { s with clientHandlerThreads := s.clientHandlerThreads ++ [⟨true⟩] } else some s

/-- The server is up exactly when a listening socket is open and there is an accept thread. -/
def Up (s : TcpServer) : Prop :=
  s.status = .up ↔ (∃ n ∈ s.live, n ∈ s.listening) ∧ s.handlerThread.joinable = true

/-- A sequence of calls that ends with the destructor: no thread object is misused, the server is
up after each call as it should be, and no socket is lost or left open. -/
def Lifecycle (calls : List ServerCall) : Prop :=
  Runs.Throughout step Up init calls ∧
    ∃ s s', Runs.exec step init calls = some s ∧ s.destroy = some s' ∧ s'.lost = [] ∧ s'.live = []

/-- A `stop` is of a server that is up, and a `start` that gets a socket gets to the end. -/
def Orderly (s : TcpServer) : ServerCall → Prop
  | .start outcome =>
    outcome.socket = true → outcome.setsockopt = true ∧ outcome.bind = true ∧ outcome.listen = true
  | .stop => s.status = .up
  | .accept => True

/-! ## Orderly calls -/

/-- What orderly calls keep. -/
structure Inv (s : TcpServer) : Prop where
  up : s.status = .up → ∃ n, s.serverSocket = some n ∧ s.live = [n] ∧ n ∈ s.listening
  down : s.status ≠ .up → s.live = [] ∧ s.clientHandlerThreads = []
  thread : s.handlerThread.joinable = true ↔ s.status = .up
  threads : ∀ t ∈ s.clientHandlerThreads, t.joinable = true
  lost : s.lost = []

theorem inv_init : Inv init := ⟨nofun, fun _ => ⟨rfl, rfl⟩, iff_of_false nofun nofun, nofun, rfl⟩

section
variable {s s' : TcpServer} {call : ServerCall} {outcome : StartOutcome}

theorem Inv.is_up (h : Inv s) : s.Up := by
  constructor
  · intro up
    obtain ⟨n, _, live, listening⟩ := h.up up
    exact ⟨⟨n, live ▸ List.mem_singleton_self n, listening⟩, h.thread.2 up⟩
  · exact fun both => h.thread.1 both.2

theorem Inv.free (h : Inv s) (down : s.status ≠ .up) : s.handlerThread.joinable = false :=
  Bool.eq_false_iff.2 fun joinable => down (h.thread.1 joinable)

/-- A `stop` of a server that is up. -/
theorem Inv.stop (h : Inv s) (up : s.status = .up) : ∃ s', s.stop = some s' ∧ Inv s' ∧ s'.status = .close := by
  obtain ⟨n, socket, live, _⟩ := h.up up
  have closed : s.close.live = [] := by simp [close, socket, live]
  obtain ⟨_, destroyed⟩ := Option.isSome_iff_exists.1
    (@destroyAll_eq (s.clientHandlerThreads.map fun _ => Handle.empty) (by simp [Handle.empty]))
  unfold TcpServer.stop
  rw [Handle.join_eq (h.thread.2 up), Option.bind_some, joinAll_eq h.threads, Option.bind_some, destroyed]
  exact ⟨_, rfl, ⟨nofun, fun _ => ⟨closed, rfl⟩, iff_of_false nofun nofun, nofun, h.lost⟩, rfl⟩

/-- A `stop` of any other server joins no thread. -/
theorem stop_eq_none (free : s.handlerThread.joinable = false) : s.stop = none := by
  unfold TcpServer.stop Handle.join
  rw [free]
  rfl

theorem Inv.lost_open (h : Inv s) (down : s.status ≠ .up) (socket : Option Nat) : (s.assignSocket socket).lost = [] := by
  simp [assignSocket, (h.down down).1, h.lost]

/-- A `start` that gets no socket, or gets to the end. -/
theorem Inv.begin_ (h : Inv s) (down : s.status ≠ .up) (orderly : s.Orderly (.start outcome)) :
    ∃ s', s.begin_ outcome = some s' ∧ Inv s' := by
  obtain ⟨live, threads⟩ := h.down down
  unfold TcpServer.begin_
  by_cases fails : outcome.socket = false
  · rw [if_pos fails]
    refine ⟨_, rfl, nofun, fun _ => h.down down, iff_of_false ?_ nofun, h.threads, h.lost_open down none⟩
    exact fun joinable => down (h.thread.1 joinable)
  · obtain ⟨setsockopt, bind, listen⟩ := orderly (Bool.of_not_eq_false fails)
    have free : s.open_.listen.handlerThread.joinable = false := h.free down
    rw [if_neg fails, if_neg (by simp [setsockopt, bind]), if_neg (by simp [listen]), TcpServer.up,
      Handle.assign_eq free]
    refine ⟨_, rfl, fun _ => ⟨s.opened, rfl, ?_, ?_⟩, fun out => absurd rfl out, iff_of_true rfl rfl, h.threads,
      h.lost_open down (some s.opened)⟩
    · simp [TcpServer.listen, open_, assignSocket, live]
    · simp [TcpServer.listen, open_, assignSocket]

/-- **Orderly calls go through** and keep the invariant. -/
theorem Inv.step (h : Inv s) (orderly : s.Orderly call) : ∃ s', s.step call = some s' ∧ Inv s' := by
  cases call with
  | start outcome =>
    change ∃ s', s.start outcome = some s' ∧ Inv s'
    unfold TcpServer.start
    by_cases up : s.status = .up
    · obtain ⟨m, stopped, inv, closed⟩ := h.stop up
      rw [if_pos up, stopped, Option.bind_some]
      exact inv.begin_ (by simp [closed]) orderly
    · rw [if_neg up]
      exact h.begin_ up orderly
  | stop =>
    obtain ⟨s', stopped, inv, _⟩ := h.stop orderly
    exact ⟨s', stopped, inv⟩
  | accept =>
    change ∃ s', (if s.status = .up then _ else _) = some s' ∧ Inv s'
    by_cases up : s.status = .up
    · rw [if_pos up]
      refine ⟨_, rfl, h.up, fun down => absurd up down, h.thread, fun t member => ?_, h.lost⟩
      rcases List.mem_append.1 member with old | new
      · exact h.threads t old
      · rw [List.mem_singleton.1 new]
    · rw [if_neg up]
      exact ⟨s, rfl, h⟩

/-- The destructor after orderly calls. -/
theorem Inv.destroy (h : Inv s) : ∃ s', s.destroy = some s' ∧ s'.lost = [] ∧ s'.live = [] := by
  have last : ∀ m : TcpServer, Inv m → m.status ≠ .up →
      (m.handlerThread.destroy.bind fun _ => (destroyAll m.clientHandlerThreads).map fun _ => m) = some m := by
    intro m inv down
    rw [Handle.destroy_eq (inv.free down), (inv.down down).2]
    rfl
  unfold TcpServer.destroy
  by_cases up : s.status = .up
  · obtain ⟨m, stopped, inv, closed⟩ := h.stop up
    have down : m.status ≠ .up := by simp [closed]
    rw [if_pos up, stopped, Option.bind_some, last m inv down]
    exact ⟨m, rfl, inv.lost, (inv.down down).1⟩
  · rw [if_neg up, Option.bind_some, last s h up]
    exact ⟨s, rfl, h.lost, (h.down up).1⟩

/-! ## A start that fails half-way -/

/-- The server after such a start: its socket is open, and it has no thread. -/
structure Stranded (s : TcpServer) : Prop where
  down : s.status ≠ .up
  free : s.handlerThread.joinable = false
  socket : ∃ n, s.serverSocket = some n ∧ n ∈ s.live

/-- A socket that is lost stays lost. -/
theorem lost_stop (taken : s.stop = some s') : s'.lost = s.lost := by
  obtain ⟨_, _, rest⟩ := Option.bind_eq_some_iff.1 taken
  obtain ⟨_, _, last⟩ := Option.bind_eq_some_iff.1 rest
  obtain ⟨_, _, rfl⟩ := Option.map_eq_some_iff.1 last
  rfl

theorem lost_begin (taken : s.begin_ outcome = some s') : ∃ socket, s'.lost = (s.assignSocket socket).lost := by
  unfold TcpServer.begin_ at taken
  split at taken
  · cases taken
    exact ⟨none, rfl⟩
  split at taken
  · cases taken
    exact ⟨some s.opened, rfl⟩
  split at taken
  · cases taken
    exact ⟨some s.opened, rfl⟩
  · obtain ⟨_, _, rfl⟩ := Option.map_eq_some_iff.1 taken
    exact ⟨some s.opened, rfl⟩

theorem lost_step (lost : s.lost ≠ []) (taken : s.step call = some s') : s'.lost ≠ [] := by
  have begins : ∀ m : TcpServer, m.lost ≠ [] → ∀ outcome, m.begin_ outcome = some s' → s'.lost ≠ [] := by
    intro m lost outcome begun
    obtain ⟨socket, same⟩ := lost_begin begun
    rw [same]
    exact List.append_ne_nil_of_right_ne_nil _ lost
  cases call with
  | start outcome =>
    change s.start outcome = some s' at taken
    unfold TcpServer.start at taken
    split at taken
    · obtain ⟨m, stopped, begun⟩ := Option.bind_eq_some_iff.1 taken
      exact begins m (lost_stop stopped ▸ lost) outcome begun
    · exact begins s lost outcome taken
  | stop => exact lost_stop taken ▸ lost
  | accept =>
    change (if s.status = .up then _ else _) = some s' at taken
    split at taken <;>
    · cases taken
      exact lost

theorem lost_destroy (taken : s.destroy = some s') : s'.lost = s.lost := by
  obtain ⟨m, stopped, rest⟩ := Option.bind_eq_some_iff.1 taken
  obtain ⟨_, _, last⟩ := Option.bind_eq_some_iff.1 rest
  obtain ⟨_, _, rfl⟩ := Option.map_eq_some_iff.1 last
  split at stopped
  · exact lost_stop stopped
  · cases stopped
    rfl

/-- Such a server cannot be ended well. -/
theorem Stranded.lost (h : Stranded s) {calls : List ServerCall} {m : TcpServer}
    (run : Runs.exec TcpServer.step s calls = some m) (destroyed : m.destroy = some s') :
    s'.lost ≠ [] ∨ s'.live ≠ [] := by
  obtain ⟨n, socket, live⟩ := h.socket
  induction calls with
  | nil =>
    cases run
    obtain ⟨m, same, rest⟩ := Option.bind_eq_some_iff.1 destroyed
    obtain ⟨_, _, last⟩ := Option.bind_eq_some_iff.1 rest
    obtain ⟨_, _, rfl⟩ := Option.map_eq_some_iff.1 last
    rw [if_neg h.down] at same
    cases same
    exact Or.inr (List.ne_nil_of_mem live)
  | cons call calls ih =>
    obtain ⟨m', taken, rest⟩ := Runs.exec_cons_some run
    cases call with
    | start outcome =>
      change s.start outcome = some m' at taken
      unfold TcpServer.start at taken
      rw [if_neg h.down] at taken
      obtain ⟨socket', same⟩ := lost_begin taken
      have first : m'.lost ≠ [] := by
        rw [same]
        simp [assignSocket, socket, live]
      have last : m.lost ≠ [] := Runs.exec_invariant (fun _ _ _ lost taken => lost_step lost taken) first rest
      exact Or.inl (lost_destroy destroyed ▸ last)
    | stop => cases (stop_eq_none h.free).symm.trans taken
    | accept =>
      change (if s.status = .up then _ else _) = some m' at taken
      rw [if_neg h.down] at taken
      cases taken
      exact ih rest

/-- A `start` that gets a socket and not to the end. -/
theorem Inv.begin_stranded (h : Inv s) (down : s.status ≠ .up) (disorderly : ¬ s.Orderly (.start outcome)) :
    ∃ s', s.begin_ outcome = some s' ∧ Stranded s' := by
  obtain ⟨socket, fails⟩ := Classical.not_imp.1 disorderly
  have fresh : s.opened ∈ s.open_.live := by simp [open_]
  unfold TcpServer.begin_
  rw [if_neg (by simp [socket])]
  by_cases bound : outcome.setsockopt = false ∨ outcome.bind = false
  · rw [if_pos bound]
    exact ⟨_, rfl, nofun, h.free down, s.opened, rfl, fresh⟩
  · obtain ⟨setsockopt, bind⟩ := not_or.1 bound
    have silent : outcome.listen = false := by
      by_contra listens
      exact fails ⟨Bool.of_not_eq_false setsockopt, Bool.of_not_eq_false bind,
        Bool.of_not_eq_false listens⟩
    rw [if_neg bound, if_pos silent]
    exact ⟨_, rfl, nofun, h.free down, s.opened, rfl, fresh⟩

/-- A call that is not orderly does not go through, or strands the server. -/
theorem Inv.disorderly (h : Inv s) (disorderly : ¬ s.Orderly call) :
    s.step call = none ∨ ∃ s', s.step call = some s' ∧ Stranded s' := by
  cases call with
  | start outcome =>
    right
    change ∃ s', s.start outcome = some s' ∧ Stranded s'
    unfold TcpServer.start
    by_cases up : s.status = .up
    · obtain ⟨m, stopped, inv, closed⟩ := h.stop up
      rw [if_pos up, stopped, Option.bind_some]
      exact inv.begin_stranded (by simp [closed]) disorderly
    · rw [if_neg up]
      exact h.begin_stranded up disorderly
  | stop => exact Or.inl (stop_eq_none (h.free disorderly))
  | accept => exact absurd trivial disorderly

end

/-- **When the lifecycle is right.** For every sequence of calls that ends with the destructor,
and every outcome of their system calls: it is right if and only if each `stop` is of a server
that is up, and each `start` that gets a socket gets to the end. -/
theorem lifecycle_iff (calls : List ServerCall) : Lifecycle calls ↔ Runs.Along step Orderly init calls := by
  have from_ : ∀ (calls : List ServerCall) (s : TcpServer), Inv s →
      ((Runs.Throughout step Up s calls ∧
        ∃ m s', Runs.exec step s calls = some m ∧ m.destroy = some s' ∧ s'.lost = [] ∧ s'.live = []) ↔
          Runs.Along step Orderly s calls) := by
    intro calls
    induction calls with
    | nil =>
      intro s h
      obtain ⟨s', destroyed, lost, live⟩ := h.destroy
      exact iff_of_true ⟨h.is_up, s, s', rfl, destroyed, lost, live⟩ trivial
    | cons call calls ih =>
      intro s h
      by_cases orderly : s.Orderly call
      · obtain ⟨m, taken, inv⟩ := h.step orderly
        have later := ih m inv
        constructor
        · rintro ⟨⟨_, up⟩, m', s', run, ended⟩
          refine ⟨orderly, fun m'' taken' => ?_⟩
          cases taken.symm.trans taken'
          rw [Runs.exec_cons, taken, Option.bind_some] at run
          exact later.1 ⟨up m taken, m', s', run, ended⟩
        · rintro ⟨_, along⟩
          obtain ⟨up, m', s', run, ended⟩ := later.2 (along m taken)
          refine ⟨⟨h.is_up, fun m'' taken' => ?_⟩, m', s', ?_, ended⟩
          · cases taken.symm.trans taken'
            exact up
          · rw [Runs.exec_cons, taken, Option.bind_some, run]
      · refine iff_of_false ?_ fun along => orderly along.1
        rintro ⟨_, m', s', run, destroyed, lost, live⟩
        obtain ⟨m, taken, rest⟩ := Runs.exec_cons_some run
        rcases h.disorderly orderly with none | ⟨m'', taken', stranded⟩
        · cases none.symm.trans taken
        · cases taken.symm.trans taken'
          exact (stranded.lost rest destroyed).elim (fun out => out lost) fun out => out live
  exact from_ calls init inv_init

/-- The port is taken, and the server is destroyed. -/
theorem bind_fails : ¬ ∀ calls : List ServerCall, Lifecycle calls := by
  intro right
  obtain ⟨_, s, s', run, destroyed, lost, live⟩ := right [.start ⟨true, true, false, true⟩]
  obtain ⟨m, begun, stranded⟩ := inv_init.begin_stranded nofun (show ¬ init.Orderly (.start ⟨true, true, false, true⟩) from
    fun orderly => absurd (orderly rfl).2.1 (by decide))
  have taken : Runs.exec step init [.start ⟨true, true, false, true⟩] = some m := Runs.exec_single begun
  cases run.symm.trans taken
  exact (@Stranded.lost _ _ stranded [] _ rfl destroyed).elim (fun out => out lost) fun out => out live

end TcpServer

end Gologin.Server
