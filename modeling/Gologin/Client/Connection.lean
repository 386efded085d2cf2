import Gologin.Lib.Runs
import Gologin.Lib.Threads
import Gologin.Client.App

/-!
# The connection of the client

`tcp::client` of `tcp/client/client.cpp`, with its sockets and its thread object. The sockets
that `connect` opens are numbered in the order of their `::socket`. `connect` and
`disconnect` are `noexcept`: where a thread object is misused, the process ends.
`calls_refine` connects this to the client of `client/app.cpp`.
-/

namespace Gologin.Gui
set_option autoImplicit false
open Threads

/-- Which of the system calls of a `connect` succeed, if they are made. -/
structure Outcome where
  socket : Bool
  getaddrinfo : Bool
  connect : Bool
  deriving DecidableEq, Repr

/-- `tcp::client`: its status, its socket if that is valid, and its thread object; with the
number of sockets opened so far, those of them that are open, and those on which `::connect`
succeeded. -/
structure TcpClient where
  status : TcpStatus
  socket : Option Nat
  handlerThread : Handle
  opened : Nat
  live : List Nat
  linked : List Nat
  deriving DecidableEq, Repr

/-- A call of the user. -/
inductive TcpCall where
  | connect (outcome : Outcome)
  | disconnect
  deriving DecidableEq, Repr

namespace TcpClient

/-- `client::client`. -/
def init : TcpClient := ⟨.disconnected, none, .empty, 0, [], []⟩

/-- `::socket`. -/
def open_ (c : TcpClient) : TcpClient :=
  { c with socket := some c.opened, opened := c.opened + 1, live := c.opened :: c.live }

/-- `::connect` on `m_socket`, when it succeeds. -/
def link (c : TcpClient) : TcpClient := { c with linked := c.socket.toList ++ c.linked }

/-- `::close` on `m_socket`; the variable keeps the handle. -/
def close (c : TcpClient) : TcpClient := { c with live := c.live.filter fun n => some n ≠ c.socket }

/-- The end of `client::connect`, where its branches meet. -/
def up (c : TcpClient) : Option TcpClient :=
  c.handlerThread.assign.map fun thread => { c with status := .connected, handlerThread := thread }

/-- `client::connect`; `none` when the process ends. -/
def connect (c : TcpClient) (outcome : Outcome) : Option TcpClient :=
  if c.status = .connected then some c
  else if outcome.socket = false then some { c with status := .initError, socket := none }
  else if outcome.getaddrinfo then
    if outcome.connect then c.open_.link.up else some { c.open_.close with status := .connectError }
  else c.open_.up

/-- `client::disconnect`. -/
def disconnect (c : TcpClient) : Option TcpClient :=
  if c.status ≠ .connected then some c
  else c.handlerThread.join.map fun thread => { c.close with status := .disconnected, handlerThread := thread }

/-- `client::~client`, and then the destructor of the thread object. -/
def destroy (c : TcpClient) : Option TcpClient :=
  c.disconnect.bind fun c =>
    (if c.handlerThread.joinable then c.handlerThread.join else some c.handlerThread).bind fun thread =>
      thread.destroy.map fun _ => { c with handlerThread := thread }

def step (c : TcpClient) : TcpCall → Option TcpClient
  | .connect outcome => c.connect outcome
  | .disconnect => c.disconnect

/-- The status tells the truth: a connected client has an open socket on which `::connect`
succeeded, and any other has no socket open. -/
def Truthful (c : TcpClient) : Prop :=
  (c.status = .connected → ∃ n ∈ c.socket, n ∈ c.linked ∧ n ∈ c.live) ∧ (c.status ≠ .connected → c.live = [])

/-- The thread object has a thread exactly when the status is connected. -/
def Disciplined (c : TcpClient) : Prop := c.handlerThread.joinable = true ↔ c.status = .connected

/-- The call does not come to a `getaddrinfo` that fails. -/
def Resolves (c : TcpClient) : TcpCall → Prop
  | .connect outcome => c.status ≠ .connected → outcome.socket = true → outcome.getaddrinfo = true
  | .disconnect => True

/-! ## What a call does -/

/-- The ways a call can go, one constructor for each. -/
inductive Step (c : TcpClient) : TcpCall → TcpClient → Prop where
  | already {outcome : Outcome} (up : c.status = .connected) : Step c (.connect outcome) c
  | noSocket {outcome : Outcome} (down : c.status ≠ .connected) (fails : outcome.socket = false) :
      Step c (.connect outcome) { c with status := .initError, socket := none }
  | refused {outcome : Outcome} (down : c.status ≠ .connected) (socket : outcome.socket = true)
      (resolves : outcome.getaddrinfo = true) (fails : outcome.connect = false) :
      Step c (.connect outcome) { c.open_.close with status := .connectError }
  | connected {outcome : Outcome} (down : c.status ≠ .connected) (socket : outcome.socket = true)
      (resolves : outcome.getaddrinfo = true) (connects : outcome.connect = true) :
      Step c (.connect outcome) { c.open_.link with status := .connected, handlerThread := ⟨true⟩ }
  /-- `getaddrinfo` fails, and the code goes on behind the `if`. -/
  | unresolved {outcome : Outcome} (down : c.status ≠ .connected) (socket : outcome.socket = true)
      (fails : outcome.getaddrinfo = false) :
      Step c (.connect outcome) { c.open_ with status := .connected, handlerThread := ⟨true⟩ }
  | idle (down : c.status ≠ .connected) : Step c .disconnect c
  | disconnect (up : c.status = .connected) :
      Step c .disconnect { c.close with status := .disconnected, handlerThread := .empty }

/-- What every sequence of calls keeps. -/
structure Inv (c : TcpClient) : Prop where
  disciplined : c.Disciplined
  up : c.status = .connected → ∃ n, c.socket = some n ∧ c.live = [n]
  down : c.status ≠ .connected → c.live = []
  live : ∀ n ∈ c.live, n < c.opened
  linked : ∀ n ∈ c.linked, n < c.opened

theorem inv_init : Inv init := ⟨iff_of_false nofun nofun, nofun, fun _ => rfl, nofun, nofun⟩

section
variable {c c' : TcpClient} {call : TcpCall}

/-- A client that is not connected has no thread. -/
theorem Inv.free (h : Inv c) (down : c.status ≠ .connected) : c.handlerThread.joinable = false :=
  Bool.eq_false_iff.2 fun joinable => down (h.disciplined.1 joinable)

/-- **No call ends the process**, and each goes one of the ways. -/
theorem Inv.step (h : Inv c) (call : TcpCall) : ∃ c', c.step call = some c' ∧ Step c call c' := by
  cases call with
  | connect outcome =>
    change ∃ c', c.connect outcome = some c' ∧ _
    by_cases up : c.status = .connected
    · exact ⟨c, if_pos up, .already up⟩
    have thread := Handle.assign_eq (h.free up)
    unfold connect
    rw [if_neg up]
    by_cases fails : outcome.socket = false
    · exact ⟨_, if_pos fails, .noSocket up fails⟩
    have socket := Bool.not_eq_false _ ▸ fails
    rw [if_neg fails]
    by_cases resolves : outcome.getaddrinfo = true
    · rw [if_pos resolves]
      by_cases connects : outcome.connect = true
      · rw [if_pos connects, TcpClient.up, show c.open_.link.handlerThread = c.handlerThread from rfl, thread]
        exact ⟨_, rfl, .connected up socket resolves connects⟩
      · rw [if_neg connects]
        exact ⟨_, rfl, .refused up socket resolves (Bool.eq_false_iff.2 connects)⟩
    · rw [if_neg resolves, TcpClient.up, show c.open_.handlerThread = c.handlerThread from rfl, thread]
      exact ⟨_, rfl, .unresolved up socket (Bool.eq_false_iff.2 resolves)⟩
  | disconnect =>
    change ∃ c', c.disconnect = some c' ∧ _
    unfold TcpClient.disconnect
    by_cases up : c.status = .connected
    · rw [if_neg (not_not_intro up), Handle.join_eq (h.disciplined.2 up)]
      exact ⟨_, rfl, .disconnect up⟩
    · exact ⟨c, if_pos up, .idle up⟩

/-- The socket that a call opens is new. -/
theorem Inv.open_ (h : Inv c) (down : c.status ≠ .connected) :
    c.open_.live = [c.opened] ∧ c.opened ∉ c.linked ∧ ∀ n ∈ c.linked, n < c.opened + 1 := by
  refine ⟨?_, fun linked => Nat.lt_irrefl _ (h.linked _ linked), fun n linked => ?_⟩
  · simp only [TcpClient.open_, h.down down]
  · have := h.linked n linked
    omega

/-- Closing the only open socket. -/
theorem close_live {n : Nat} (socket : c.socket = some n) (live : c.live = [n]) : c.close.live = [] := by
  simp [close, socket, live]

theorem Inv.of_step (h : Inv c) (taken : Step c call c') : Inv c' := by
  cases taken with
  | already up => exact h
  | noSocket down fails =>
    exact ⟨iff_of_false (by simp [h.free down]) nofun, nofun, fun _ => h.down down, h.live, h.linked⟩
  | refused down socket resolves fails =>
    obtain ⟨live, _, linked⟩ := h.open_ down
    have closed : c.open_.close.live = [] := close_live rfl live
    refine ⟨iff_of_false ?_ nofun, nofun, fun _ => closed, fun n member => ?_, linked⟩
    · exact fun joinable => down (h.disciplined.1 joinable)
    · rw [closed] at member
      cases member
  | connected down socket resolves connects =>
    obtain ⟨live, _, linked⟩ := h.open_ down
    refine ⟨iff_of_true rfl rfl, fun _ => ⟨_, rfl, live⟩, fun out => absurd rfl out, fun n member => ?_,
      fun n member => ?_⟩
    · change n ∈ c.open_.live at member
      rw [live, List.mem_singleton] at member
      change n < c.opened + 1
      omega
    · rcases List.mem_cons.1 member with rfl | old
      · exact Nat.lt_succ_self _
      · exact linked n old
  | unresolved down socket fails =>
    obtain ⟨live, _, linked⟩ := h.open_ down
    refine ⟨iff_of_true rfl rfl, fun _ => ⟨_, rfl, live⟩, fun out => absurd rfl out, fun n member => ?_, linked⟩
    change n ∈ c.open_.live at member
    rw [live, List.mem_singleton] at member
    change n < c.opened + 1
    omega
  | idle down => exact h
  | disconnect up =>
    obtain ⟨n, socket, live⟩ := h.up up
    have closed := close_live socket live
    refine ⟨iff_of_false nofun nofun, nofun, fun _ => closed, fun m member => ?_, h.linked⟩
    change m ∈ c.close.live at member
    rw [closed] at member
    cases member

/-- A call leaves the truth exactly when it does not go on behind a `getaddrinfo` that fails. -/
theorem Inv.truthful_step (h : Inv c) (truthful : c.Truthful) (taken : Step c call c') :
    c'.Truthful ↔ c.Resolves call := by
  have next := h.of_step taken
  cases taken with
  | already up => exact iff_of_true truthful fun down => absurd up down
  | noSocket down fails =>
    exact iff_of_true ⟨nofun, fun _ => h.down down⟩ fun _ socket => absurd (fails.symm.trans socket) (by decide)
  | refused down socket resolves fails => exact iff_of_true ⟨nofun, next.down⟩ fun _ _ => resolves
  | connected down socket resolves connects =>
    refine iff_of_true ⟨fun _ => ⟨_, rfl, ?_, ?_⟩, fun out => absurd rfl out⟩ fun _ _ => resolves
    · exact List.mem_cons_self
    · exact List.mem_cons_self
  | unresolved down socket fails =>
    refine iff_of_false ?_ fun resolves => absurd (fails.symm.trans (resolves down socket)) (by decide)
    rintro ⟨up, _⟩
    obtain ⟨n, socket, linked, _⟩ := up rfl
    obtain rfl := Option.mem_some_iff.1 socket
    exact (h.open_ down).2.1 linked
  | idle down => exact iff_of_true truthful trivial
  | disconnect up => exact iff_of_true ⟨nofun, next.down⟩ trivial

end

/-- Every sequence of calls goes through. -/
theorem exec_total {c : TcpClient} (h : Inv c) (calls : List TcpCall) :
    ∃ c', Runs.exec step c calls = some c' ∧ Inv c' := by
  induction calls generalizing c with
  | nil => exact ⟨c, rfl, h⟩
  | cons call calls ih =>
    obtain ⟨m, taken, way⟩ := h.step call
    obtain ⟨c', run, inv⟩ := ih (h.of_step way)
    exact ⟨c', by rw [Runs.exec_cons, taken, Option.bind_some, run], inv⟩

theorem step_keeps {c c' : TcpClient} {call : TcpCall} (h : Inv c) (taken : c.step call = some c') : Inv c' := by
  obtain ⟨m, taken', way⟩ := h.step call
  cases taken.symm.trans taken'
  exact h.of_step way

/-- **When the status tells the truth.** For every sequence of calls and every outcome of their
system calls: the status is truthful after each call if and only if none of them goes on behind a
`getaddrinfo` that fails. -/
theorem truthful_iff (calls : List TcpCall) :
    Runs.Throughout step Truthful init calls ↔ Runs.Along step Resolves init calls := by
  obtain ⟨c, run, _⟩ := exec_total inv_init calls
  refine Runs.throughout_iff_along (fun _ _ _ h taken => step_keeps h taken) (fun c call c' h truthful taken => ?_)
    inv_init ⟨nofun, fun _ => rfl⟩ run
  obtain ⟨m, taken', way⟩ := h.step call
  cases taken.symm.trans taken'
  exact h.truthful_step truthful way

/-- A host that does not resolve. -/
theorem unresolved_untruthful : ¬ ∀ calls : List TcpCall, Runs.Throughout step Truthful init calls := by
  intro truthful
  obtain ⟨c, taken, way⟩ := inv_init.step (.connect ⟨true, false, false⟩)
  have after : c.Truthful := (truthful [.connect ⟨true, false, false⟩]).2 c taken
  exact absurd ((inv_init.truthful_step (truthful []) way).1 after nofun rfl) (by decide)

/-- **The thread object is never misused.** Every sequence of calls that ends with the destructor
goes through: no call assigns over a thread, joins none or destroys one. After each call the
object has a thread exactly when the status is connected. -/
theorem thread_discipline (calls : List TcpCall) :
    Runs.Throughout step Disciplined init calls ∧
      ∃ c c', Runs.exec step init calls = some c ∧ c.destroy = some c' := by
  obtain ⟨c, run, inv⟩ := exec_total inv_init calls
  constructor
  · have through : ∀ (calls : List TcpCall) (c : TcpClient), Inv c → Runs.Throughout step Disciplined c calls := by
      intro calls
      induction calls with
      | nil => exact fun c h => h.disciplined
      | cons call calls ih => exact fun c h => ⟨h.disciplined, fun c' taken => ih c' (step_keeps h taken)⟩
    exact through calls init inv_init
  · obtain ⟨m, taken, way⟩ := inv.step .disconnect
    have down : m.status ≠ .connected := by
      cases way with
      | idle down => exact down
      | disconnect up => exact nofun
    have free := (inv.of_step way).free down
    refine ⟨c, m, run, ?_⟩
    unfold destroy
    rw [show c.disconnect = some m from taken, Option.bind_some, free, if_neg Bool.false_ne_true, Option.bind_some,
      Handle.destroy_eq free]
    rfl

/-! ## As the app sees it -/

/-- The connection that the socket is on. -/
def number (c : TcpClient) : Option Nat := c.socket.filter fun n => n ∈ c.linked ∧ n ∈ c.live

/-- The client of the app has the same status and the same connection. -/
structure Agrees (c : TcpClient) (d : Client) : Prop where
  status : d.status = c.status
  link : d.link = c.number

theorem number_of_closed {c : TcpClient} (closed : c.live = []) : c.number = none := by
  unfold number
  rw [closed, Option.filter_eq_none_iff]
  simp

theorem agrees_init (clientId : UInt64) : Agrees init (.init clientId) := ⟨rfl, rfl⟩

end TcpClient

/-- What a `connect` comes to. -/
def Outcome.result (o : Outcome) : Client.ConnectResult :=
  if o.socket = false then .initError
  else if o.getaddrinfo then (if o.connect then .up else .connectError)
  else .unresolved

/-- A call, made by the app; a connection that is made gets the number of its socket. -/
def TcpCall.perform (d : Client) (n : Nat) : TcpCall → Client
  | .connect outcome => d.connect outcome.result n
  | .disconnect => d.disconnect

/-- A call does to the client of the app what it does to `tcp::client`. -/
theorem TcpClient.Agrees.step {c : TcpClient} {d : Client} (agrees : c.Agrees d) (h : c.Inv) (call : TcpCall) :
    ∃ c', c.step call = some c' ∧ c'.Agrees (call.perform d c.opened) := by
  obtain ⟨c', taken, way⟩ := h.step call
  have next := h.of_step way
  have same := agrees.status
  have closed : c.status ≠ .connected → d.link = none := fun down =>
    agrees.link.trans (number_of_closed (h.down down))
  refine ⟨c', taken, ?_⟩
  cases way with
  | already up =>
    rw [TcpCall.perform]
    unfold Client.connect
    rw [if_pos (same.trans up)]
    exact agrees
  | noSocket down fails =>
    rename_i outcome
    have result : outcome.result = .initError := if_pos fails
    rw [TcpCall.perform, result, Client.connect, if_neg (same ▸ down)]
    exact ⟨rfl, closed down⟩
  | refused down socket resolves fails =>
    rename_i outcome
    have result : outcome.result = .connectError := by
      rw [Outcome.result, if_neg (by simp [socket]), if_pos resolves, if_neg (by simp [fails])]
    rw [TcpCall.perform, result, Client.connect, if_neg (same ▸ down)]
    exact ⟨rfl, (closed down).trans (number_of_closed (next.down nofun)).symm⟩
  | connected down socket resolves connects =>
    rename_i outcome
    have result : outcome.result = .up := by
      rw [Outcome.result, if_neg (by simp [socket]), if_pos resolves, if_pos connects]
    rw [TcpCall.perform, result, Client.connect, if_neg (same ▸ down)]
    refine ⟨rfl, ?_⟩
    simp [number, open_, TcpClient.link, Option.filter_some]
  | unresolved down socket fails =>
    rename_i outcome
    have result : outcome.result = .unresolved := by
      rw [Outcome.result, if_neg (by simp [socket]), if_neg (by simp [fails])]
    rw [TcpCall.perform, result, Client.connect, if_neg (same ▸ down)]
    have fresh := (h.open_ down).2.1
    refine ⟨rfl, ?_⟩
    simp [number, open_, fresh, Option.filter_some]
  | idle down =>
    rw [TcpCall.perform, Client.disconnect, if_neg (same ▸ down)]
    exact agrees
  | disconnect up =>
    rw [TcpCall.perform, Client.disconnect, if_pos (same.trans up)]
    exact ⟨rfl, (number_of_closed (next.down nofun)).symm⟩

/-- The client of the app, behind the calls. -/
def TcpClient.performed (clientId : UInt64) (calls : List TcpCall) : Client :=
  Runs.trace step (fun c call d => call.perform d c.opened) (.init clientId) init calls

/-- **The client of the app, refined.** Behind every sequence of calls it has the status and the
connection of `tcp::client`. -/
theorem TcpClient.calls_refine (clientId : UInt64) (calls : List TcpCall) :
    ∃ c, Runs.exec step init calls = some c ∧ c.Agrees (performed clientId calls) := by
  obtain ⟨c, run, _⟩ := exec_total inv_init calls
  have keep : ∀ d c call c', (c.Agrees d ∧ c.Inv) → True → step c call = some c' →
      c'.Agrees (call.perform d c.opened) ∧ c'.Inv := by
    rintro d c call c' ⟨agrees, h⟩ - taken
    obtain ⟨m, taken', agrees'⟩ := agrees.step h call
    cases taken.symm.trans taken'
    exact ⟨agrees', step_keeps h taken⟩
  have start : init.Agrees (.init clientId) ∧ init.Inv := ⟨agrees_init clientId, inv_init⟩
  exact ⟨c, run, (@Runs.trace_guarded _ _ step _ (fun c call d => call.perform d c.opened)
    (fun d c => c.Agrees d ∧ c.Inv) (fun _ _ => True) keep _ _ _ _ start (Runs.along_true _ _) run).1⟩

end Gologin.Gui
