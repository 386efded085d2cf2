import Gologin.Client.Connection
import Gologin.Lib.Fairness
import Gologin.Server.Threads
import Gologin.Tcp.Recv

/-!
# Disconnecting the client

`client::disconnect` of `tcp/client/client.cpp` among the two threads of the client: the thread
of the window, which calls it and then joins the handler thread, and the handler thread in its
loop. The socket is shut down and closed before the join, so that no `::recv` blocks any more, and
the status is set, so that the loop ends. A packet handler calls the window on the handler thread;
whether such a call waits for the thread of the window is left open, and where it does the two
threads can wait for each other. A `::recv` that blocks gives `none`.
-/

namespace Gologin.Disconnect
set_option autoImplicit false
open Tcp Gui
open Shutdown (Peer)

/-- Where the handler thread is, by what it does next. -/
inductive Place where
  | check
  | header (stack : Stack)
  | body (header : PacketHeader) (beyond : List UInt8)
  | handling (packet : Packet)
  | ended
  deriving DecidableEq, Repr

/-- What is left of an iteration of the loop. -/
def Place.rank : Place → Nat
  | .ended => 0
  | .check => 1
  | .handling _ => 2
  | .body _ _ => 3
  | .header _ => 4

/-- Behind the header's `::recv`. -/
def afterHeader (stack : Stack) (res : RecvResult) : Place :=
  match Tcp.Client.headerRead stack.header res with
  | .refused _ => .check
  | .body header => .body header stack.beyond

/-- Behind the body's `::recv`. -/
def afterBody (header : PacketHeader) (beyond : List UInt8) (res : RecvResult) : Place :=
  match bodyRead header.size res with
  | some buff => .handling ⟨header.command beyond, buff⟩
  | none => .check

/-- Where the thread of the window is in `disconnect()`, by what it does next. -/
inductive Call where
  | idle
  | shutdown
  | close
  | clear
  | join
  deriving DecidableEq, Repr

/-- What is left of the call before its join. -/
def Call.rank : Call → Nat
  | .shutdown => 3
  | .close => 2
  | .clear => 1
  | .idle | .join => 0

/-- The client: `tcp::client`, whether `::shutdown` was called on its socket, what has arrived on
it and was not read, its peer, and where the two threads are. -/
structure Client where
  tcp : TcpClient
  shut : Bool
  pending : List UInt8
  peer : Peer
  thread : Place
  call : Call
  deriving DecidableEq, Repr

/-- A call of the user's, a step of the call or of the handler thread, or an act of the peer.
`stack` is what lies where the header is to be, `res` what `::recv` gives. -/
inductive Event where
  | connect (outcome : Outcome)
  | disconnect
  | callStep
  | threadStep (stack : Stack) (res : RecvResult)
  | arrive (bytes : List UInt8)
  | leave (reset : Bool)

/-- A step of the call. -/
def Event.Caller : Event → Prop
  | .callStep => True
  | _ => False

/-- A step of the handler thread. -/
def Event.Handler : Event → Prop
  | .threadStep _ _ => True
  | _ => False

namespace Client

def init : Client := ⟨.init, false, [], .here, .ended, .idle⟩

/-- The socket is open and was connected. -/
def Up (s : Client) : Prop := ∃ n ∈ s.tcp.socket, n ∈ s.tcp.linked ∧ n ∈ s.tcp.live

instance (s : Client) : Decidable s.Up :=
  match found : s.tcp.socket with
  | none => isFalse fun ⟨_, member, _⟩ => by rw [found] at member; cases member
  | some n => decidable_of_iff (n ∈ s.tcp.linked ∧ n ∈ s.tcp.live)
      ⟨fun h => ⟨n, found, h⟩, fun ⟨m, member, h⟩ => by rw [found] at member; cases member; exact h⟩

/-- What `::recv` may give for a buffer of length `len`. On a socket that was shut down it returns
at once, also when it was called before. -/
def Gives (s : Client) (len : Nat) : RecvResult → Prop
  | .data got => s.Up ∧ got ≠ [] ∧ got.length ≤ len ∧ got <+: s.pending
  | .closed => s.shut = true ∨ s.Up ∧ s.peer = .closed ∧ s.pending = []
  | .failed _ _ => s.shut = true ∨ ¬ s.Up ∨ s.peer = .reset

instance (s : Client) (len : Nat) : (res : RecvResult) → Decidable (s.Gives len res)
  | .data _ => inferInstanceAs (Decidable (_ ∧ _))
  | .closed => inferInstanceAs (Decidable (_ ∨ _))
  | .failed _ _ => inferInstanceAs (Decidable (_ ∨ _))

/-- What `::recv` leaves. -/
def left (s : Client) : RecvResult → List UInt8
  | .data got => s.pending.drop got.length
  | _ => s.pending

/-- `client::connect`; a connection that is made has a new socket and a new thread. -/
def connect (s : Client) (outcome : Outcome) : Option Client :=
  (s.tcp.connect outcome).map fun tcp =>
    if s.tcp.status ≠ .connected ∧ tcp.status = .connected then ⟨tcp, false, [], .here, .check, .idle⟩
    else { s with tcp := tcp }

/-- The rest of `client::disconnect` behind the look at the status. -/
def callStep (s : Client) : Option Client :=
  match s.call with
  | .idle => none
  | .shutdown => some { s with shut := true, call := .close }
  | .close => some { s with tcp := s.tcp.close, call := .clear }
  | .clear => some { s with tcp := { s.tcp with status := .disconnected }, call := .join }
  | .join =>
    if s.thread = .ended then
      s.tcp.handlerThread.join.map fun thread => { s with tcp := { s.tcp with handlerThread := thread }, call := .idle }
    else none

section
variable (waits : Packet → Bool)

/-- The handler thread is in a call of the window that waits for the thread of the window, and that
is in `disconnect()`. -/
def Blocked (s : Client) : Prop :=
  s.call ≠ .idle ∧ ∃ packet, s.thread = .handling packet ∧ waits packet = true

/-- The handler thread of `client::connect`. `waits` tells of a packet whether its dispatch waits
for the thread of the window. -/
def threadStep (s : Client) (stack : Stack) (res : RecvResult) : Option Client :=
  match s.thread with
  | .check => some { s with thread := if s.tcp.status = .connected then .header stack else .ended }
  | .header stack =>
    if s.Gives sizeofHeader res then some { s with thread := afterHeader stack res, pending := s.left res } else none
  | .body header beyond =>
    if s.Gives header.size res then some { s with thread := afterBody header beyond res, pending := s.left res } else none
  | .handling packet => if s.call ≠ .idle ∧ waits packet = true then none else some { s with thread := .check }
  | .ended => none

def step (s : Client) : Event → Option Client
  | .connect outcome => if s.call = .idle then s.connect outcome else none
  | .disconnect =>
    if s.call = .idle then some (if s.tcp.status = .connected then { s with call := .shutdown } else s) else none
  | .callStep => s.callStep
  | .threadStep stack res => s.threadStep waits stack res
  | .arrive bytes => if s.peer = .here ∧ s.Up then some { s with pending := s.pending ++ bytes } else none
  | .leave reset => if s.peer = .here then some { s with peer := if reset then .reset else .closed } else none

end

/-! ## What a step does -/

section
variable (waits : Packet → Bool)

/-- Where the handler thread gets to; its loop goes round only while the status is connected. -/
structure Moves (s : Client) (place : Place) : Prop where
  runs : s.thread ≠ .ended
  free : ¬ s.Blocked waits
  goes : place.rank < s.thread.rank ∨ s.tcp.status = .connected

/-- The steps, one constructor for each way a step can go. -/
inductive Step (s : Client) : Event → Client → Prop where
  | connected {outcome : Outcome} {tcp : TcpClient} (idle : s.call = .idle) (made : s.tcp.step (.connect outcome) = some tcp)
      (up : tcp.status = .connected) : Step s (.connect outcome) ⟨tcp, false, [], .here, .check, .idle⟩
  | connect {outcome : Outcome} {tcp : TcpClient} (idle : s.call = .idle) (made : s.tcp.step (.connect outcome) = some tcp)
      (same : s.tcp.status = .connected ∨ tcp.status ≠ .connected) : Step s (.connect outcome) { s with tcp := tcp }
  | disconnect (idle : s.call = .idle) (up : s.tcp.status = .connected) : Step s .disconnect { s with call := .shutdown }
  | already (idle : s.call = .idle) (down : s.tcp.status ≠ .connected) : Step s .disconnect s
  | shutdown (calls : s.call = .shutdown) : Step s .callStep { s with shut := true, call := .close }
  | close (calls : s.call = .close) : Step s .callStep { s with tcp := s.tcp.close, call := .clear }
  | clear (calls : s.call = .clear) : Step s .callStep { s with tcp := { s.tcp with status := .disconnected }, call := .join }
  | join {thread : Threads.Handle} (calls : s.call = .join) (finished : s.thread = .ended)
      (joins : s.tcp.handlerThread.join = some thread) :
      Step s .callStep { s with tcp := { s.tcp with handlerThread := thread }, call := .idle }
  | thread {stack : Stack} {res : RecvResult} (place : Place) (pending : List UInt8) (moves : s.Moves waits place) :
      Step s (.threadStep stack res) { s with thread := place, pending := pending }
  | arrive {bytes : List UInt8} : Step s (.arrive bytes) { s with pending := s.pending ++ bytes }
  | leave {reset : Bool} (peer : Peer) : Step s (.leave reset) { s with peer := peer }

end

section
variable {waits : Packet → Bool} {s s' : Client} {e : Event}

theorem afterHeader_rank (stack : Stack) (res : RecvResult) : (afterHeader stack res).rank < 4 := by
  unfold afterHeader
  split
  · decide
  · exact Nat.lt_succ_self 3

theorem afterBody_rank (header : PacketHeader) (beyond : List UInt8) (res : RecvResult) :
    (afterBody header beyond res).rank < 3 := by
  unfold afterBody
  split
  · exact Nat.lt_succ_self 2
  · decide

/-- A thread that is in no dispatch is not blocked. -/
theorem not_blocked {place : Place} (here : s.thread = place) (out : ∀ packet, place ≠ .handling packet) :
    ¬ s.Blocked waits := by
  rintro ⟨_, packet, same, _⟩
  exact out packet (here.symm.trans same)

theorem threadStep_cases {stack : Stack} {res : RecvResult} (taken : s.threadStep waits stack res = some s') :
    Step waits s (.threadStep stack res) s' := by
  unfold threadStep at taken
  split at taken
  · rename_i here
    cases taken
    apply Step.thread _ s.pending
    constructor
    · rw [here]
      rintro ⟨⟩
    · exact not_blocked here (by rintro _ ⟨⟩)
    · by_cases up : s.tcp.status = .connected
      · exact Or.inr up
      · left
        rw [if_neg up, here]
        decide
  · rename_i stack here
    split at taken
    · cases taken
      apply Step.thread
      constructor
      · rw [here]
        rintro ⟨⟩
      · exact not_blocked here (by rintro _ ⟨⟩)
      · left
        rw [here]
        exact afterHeader_rank stack res
    · cases taken
  · rename_i header beyond here
    split at taken
    · cases taken
      apply Step.thread
      constructor
      · rw [here]
        rintro ⟨⟩
      · exact not_blocked here (by rintro _ ⟨⟩)
      · left
        rw [here]
        exact afterBody_rank header beyond res
    · cases taken
  · rename_i packet here
    split at taken
    · cases taken
    · rename_i free
      cases taken
      apply Step.thread _ s.pending
      constructor
      · rw [here]
        rintro ⟨⟩
      · rintro ⟨calls, packet', same, waits_⟩
        cases here.symm.trans same
        exact free ⟨calls, waits_⟩
      · left
        rw [here]
        exact Nat.lt_succ_self 1
  · cases taken

theorem callStep_cases (taken : s.callStep = some s') : Step waits s .callStep s' := by
  unfold callStep at taken
  split at taken
  · cases taken
  · rename_i calls
    cases taken
    exact .shutdown calls
  · rename_i calls
    cases taken
    exact .close calls
  · rename_i calls
    cases taken
    exact .clear calls
  · rename_i calls
    split at taken
    · rename_i finished
      obtain ⟨thread, joins, rfl⟩ := Option.map_eq_some_iff.1 taken
      exact .join calls finished joins
    · cases taken

/-- **What a step does.** -/
theorem step_cases (taken : s.step waits e = some s') : Step waits s e s' := by
  cases e with
  | connect outcome =>
    simp only [step] at taken
    split at taken
    · rename_i idle
      obtain ⟨tcp, made, rfl⟩ := Option.map_eq_some_iff.1 taken
      split
      · rename_i new
        exact .connected idle made new.2
      · rename_i old
        apply Step.connect idle made
        by_contra none
        exact old ⟨fun up => none (Or.inl up), not_not.1 fun down => none (Or.inr down)⟩
    · cases taken
  | disconnect =>
    simp only [step] at taken
    split at taken
    · rename_i idle
      cases taken
      split
      · rename_i up
        exact .disconnect idle up
      · rename_i down
        exact .already idle down
    · cases taken
  | callStep => exact callStep_cases taken
  | threadStep stack res => exact threadStep_cases taken
  | arrive bytes =>
    simp only [step] at taken
    split at taken
    · cases taken
      exact .arrive
    · cases taken
  | leave reset =>
    simp only [step] at taken
    split at taken
    · cases taken
      exact .leave _
    · cases taken

/-! ## The call as one step -/

/-- What the call has made of the `tcp::client` it was made on. -/
def soFar (c : TcpClient) : Call → TcpClient
  | .idle | .shutdown | .close => c
  | .clear => c.close
  | .join => { c.close with status := .disconnected }

/-- The call is behind its `::shutdown`. -/
def past : Call → Bool
  | .idle | .shutdown => false
  | .close | .clear | .join => true

/-- The client while a call on `c` goes on, or none. -/
structure Within (c : TcpClient) (s : Client) : Prop where
  inv : c.Inv
  tcp : s.tcp = soFar c s.call
  up : s.call ≠ .idle → c.status = .connected
  shut : past s.call = true → s.shut = true
  ended : s.call = .idle → c.status ≠ .connected → s.thread = .ended

theorem within_init : Within .init init := ⟨TcpClient.inv_init, rfl, fun calls => absurd rfl calls, nofun, fun _ _ => rfl⟩

/-- **The call is one step** of the client that it is made on: it takes effect when it returns. -/
theorem within_step {c : TcpClient} (h : Within c s) (taken : s.step waits e = some s') :
    Within c s' ∨ s'.call = .idle ∧ ∃ call c', c.step call = some c' ∧ Within c' s' := by
  have idle_tcp (idle : s.call = .idle) : s.tcp = c := by rw [h.tcp, idle]; rfl
  cases step_cases taken with
  | connected idle made up =>
    rw [idle_tcp idle] at made
    refine Or.inr ⟨rfl, _, _, made, ?_⟩
    exact ⟨TcpClient.step_keeps h.inv made, rfl, fun calls => absurd rfl calls, nofun, fun _ down => absurd up down⟩
  | connect idle made same =>
    rename_i outcome tcp
    rw [idle_tcp idle] at made
    refine Or.inr ⟨idle, _, _, made, TcpClient.step_keeps h.inv made, ?_, fun calls => absurd idle calls, h.shut, ?_⟩
    · change tcp = soFar tcp s.call
      rw [idle]
      rfl
    · intro _ down
      apply h.ended idle
      intro up
      obtain rfl : tcp = c := (Option.some.inj ((if_pos up).symm.trans made)).symm
      exact down up
  | disconnect idle up =>
    rw [idle_tcp idle] at up
    exact Or.inl ⟨h.inv, idle_tcp idle, fun _ => up, nofun, nofun⟩
  | already idle down => exact Or.inl h
  | shutdown calls =>
    have same := h.tcp
    rw [calls] at same
    exact Or.inl ⟨h.inv, same, fun _ => h.up (by rw [calls]; rintro ⟨⟩), fun _ => rfl, nofun⟩
  | close calls =>
    have same := h.tcp
    rw [calls] at same
    refine Or.inl ⟨h.inv, ?_, fun _ => h.up (by rw [calls]; rintro ⟨⟩), fun _ => h.shut (by rw [calls]; rfl), nofun⟩
    exact congrArg TcpClient.close same
  | clear calls =>
    have same := h.tcp
    rw [calls] at same
    refine Or.inl ⟨h.inv, ?_, fun _ => h.up (by rw [calls]; rintro ⟨⟩), fun _ => h.shut (by rw [calls]; rfl), nofun⟩
    exact congrArg (fun c : TcpClient => { c with status := .disconnected }) same
  | join calls finished joins =>
    rename_i thread
    have same := h.tcp
    rw [calls] at same
    rw [same] at joins
    have up := h.up (by rw [calls]; rintro ⟨⟩)
    have made : c.step .disconnect = some { soFar c .join with handlerThread := thread } := by
      change c.disconnect = _
      unfold TcpClient.disconnect
      rw [if_neg (not_not_intro up), show c.handlerThread.join = some thread from joins]
      rfl
    refine Or.inr ⟨rfl, _, _, made, TcpClient.step_keeps h.inv made, ?_, fun calls => absurd rfl calls, nofun, fun _ _ => finished⟩
    exact congrArg (fun c : TcpClient => { c with handlerThread := thread }) same
  | thread place pending moves =>
    refine Or.inl ⟨h.inv, h.tcp, h.up, h.shut, fun idle down => ?_⟩
    exact absurd (h.ended idle down) moves.runs
  | arrive => exact Or.inl ⟨h.inv, h.tcp, h.up, h.shut, h.ended⟩
  | leave peer => exact Or.inl ⟨h.inv, h.tcp, h.up, h.shut, h.ended⟩

theorem Within.goes {c : TcpClient} (h : Within c s) (taken : s.step waits e = some s') (calls : s'.call ≠ .idle) :
    Within c s' :=
  (within_step h taken).resolve_right fun idle => calls idle.1

/-- **The threads refine the calls.** In every run the client is one that calls as single steps make,
or one on which such a call goes on. -/
theorem run_within {es : List Event} (run : Runs.exec (step waits) init es = some s) :
    ∃ calls c, Runs.exec TcpClient.step .init calls = some c ∧ Within c s := by
  have keep : ∀ s e s', (∃ calls c, Runs.exec TcpClient.step .init calls = some c ∧ Within c s) → step waits s e = some s' →
      ∃ calls c, Runs.exec TcpClient.step .init calls = some c ∧ Within c s' := by
    rintro s e s' ⟨calls, c, before, within⟩ taken
    rcases within_step within taken with same | ⟨_, call, c', made, within'⟩
    · exact ⟨calls, c, before, same⟩
    · exact ⟨calls ++ [call], c', Runs.exec_trans before (Runs.exec_single made), within'⟩
  exact Runs.exec_invariant keep ⟨[], .init, rfl, within_init⟩ run

/-! ## The call returns -/

/-- On a socket that was shut down `::recv` returns. -/
theorem gives_closed (shut : s.shut = true) (len : Nat) : s.Gives len .closed := Or.inl shut


/-- What lies on a stack that holds zeros. -/
def zeros : Stack := ⟨⟨List.replicate sizeofHeader 0, List.length_replicate⟩, []⟩

/-- While the call is behind its `::shutdown`, the handler thread can go on, unless it has ended or
is blocked in the window. -/
theorem thread_ready (shut : s.shut = true) (runs : s.thread ≠ .ended) (free : ¬ s.Blocked waits) :
    Runs.Ready (step waits) Event.Handler s := by
  refine ⟨.threadStep zeros .closed, trivial, ?_⟩
  change (s.threadStep waits _ .closed).isSome = true
  unfold threadStep
  cases here : s.thread with
  | check => rfl
  | header stack | body header beyond =>
    dsimp only
    rw [if_pos (gives_closed shut _)]
    rfl
  | handling packet =>
    have goes : ¬ (s.call ≠ .idle ∧ waits packet = true) := fun ⟨calls, waits_⟩ => free ⟨calls, packet, here, waits_⟩
    dsimp only
    rw [if_neg goes]
    rfl
  | ended => exact absurd here runs

/-- A thread that is blocked in the window cannot go on. -/
theorem blocked_stuck (blocked : s.Blocked waits) (stack : Stack) (res : RecvResult) :
    s.threadStep waits stack res = none := by
  obtain ⟨calls, packet, here, waits_⟩ := blocked
  unfold threadStep
  rw [here]
  dsimp only
  rw [if_pos ⟨calls, waits_⟩]

theorem caller_ready (taken : (s.callStep).isSome) : Runs.Ready (step waits) Event.Caller s := ⟨.callStep, trivial, taken⟩

/-- Before its join the call can go on. -/
theorem call_ready (calls : s.call ≠ .idle) (joins : s.call ≠ .join) : Runs.Ready (step waits) Event.Caller s := by
  apply caller_ready
  unfold callStep
  cases here : s.call with
  | idle => exact absurd here calls
  | shutdown | close | clear => rfl
  | join => exact absurd here joins

/-- The join returns once the handler thread has ended. -/
theorem join_ready {c : TcpClient} (within : Within c s) (joins : s.call = .join) (finished : s.thread = .ended) :
    Runs.Ready (step waits) Event.Caller s := by
  have same := within.tcp
  rw [joins] at same
  have joinable : s.tcp.handlerThread.joinable = true := by
    rw [same]
    exact within.inv.disciplined.2 (within.up (by rw [joins]; rintro ⟨⟩))
  apply caller_ready
  unfold callStep
  rw [joins]
  dsimp only
  rw [if_pos finished, Threads.Handle.join_eq joinable]
  rfl

/-- While a call goes on, the call or the handler thread can go on, unless they wait for each
other. -/
theorem within_ready {c : TcpClient} (within : Within c s) (calls : s.call ≠ .idle) :
    Runs.Ready (step waits) Event.Caller s ∨ Runs.Ready (step waits) Event.Handler s ↔
      ¬ (s.call = .join ∧ s.Blocked waits) := by
  constructor
  · rintro ready ⟨joins, blocked⟩
    rcases ready with ⟨e, mine, ready⟩ | ⟨e, mine, ready⟩
    · cases e with
      | callStep =>
        obtain ⟨_, packet, here, _⟩ := blocked
        change (s.callStep).isSome = true at ready
        rw [callStep, joins, here] at ready
        cases ready
      | _ => exact mine
    · cases e with
      | threadStep stack res =>
        change (s.threadStep waits stack res).isSome = true at ready
        rw [blocked_stuck blocked] at ready
        cases ready
      | _ => exact mine
  · intro free
    by_cases joins : s.call = .join
    · by_cases finished : s.thread = .ended
      · exact Or.inl (join_ready within joins finished)
      · have shut := within.shut (by rw [joins]; rfl)
        exact Or.inr (thread_ready shut finished fun blocked => free ⟨joins, blocked⟩)
    · exact Or.inl (call_ready calls joins)

/-- A thread that is blocked in the window stays so. -/
theorem blocked_step (blocked : s.Blocked waits) (taken : step waits s e = some s') : s'.Blocked waits := by
  obtain ⟨calls, packet, here, waits_⟩ := blocked
  cases step_cases taken with
  | connected idle | connect idle | disconnect idle | already idle => exact absurd idle calls
  | shutdown | close | clear =>
    refine ⟨?_, packet, here, waits_⟩
    rintro ⟨⟩
  | join _ finished => cases here.symm.trans finished
  | thread place pending moves => exact absurd ⟨calls, packet, here, waits_⟩ moves.free
  | arrive | leave => exact ⟨calls, packet, here, waits_⟩

section
variable {c : TcpClient} {ss : Nat → Client} {es : Nat → Event} {n : Nat}

/-- The call comes to its join. -/
theorem comes_to_join (run : Runs.Forever (step waits) ss es) (fair : Runs.Fair (step waits) Event.Caller ss es)
    (within : Within c (ss n)) (calls : (ss n).call ≠ .idle) :
    ∃ m, n ≤ m ∧ Within c (ss m) ∧ (ss m).call = .join := by
  by_cases joins : (ss n).call = .join
  · exact ⟨n, Nat.le_refl n, within, joins⟩
  refine @Runs.Fair.leads_to Client Event (step waits) Event.Caller ss es fair run
    (fun s => Within c s ∧ s.call ≠ .idle ∧ s.call ≠ .join) (fun s => Within c s ∧ s.call = .join) (fun s => s.call.rank)
    (fun s h => call_ready h.2.1 h.2.2) ?_ n ⟨within, calls, joins⟩
  rintro s e s' ⟨within, calls, joins⟩ taken
  have next := within.goes taken
  cases step_cases taken with
  | connected idle | connect idle | disconnect idle | already idle => exact absurd idle calls
  | shutdown here =>
    right
    rw [here]
    exact ⟨⟨next (by rintro ⟨⟩), by rintro ⟨⟩, by rintro ⟨⟩⟩, Nat.le_succ 2, fun _ => Nat.lt_succ_self 2⟩
  | close here =>
    right
    rw [here]
    exact ⟨⟨next (by rintro ⟨⟩), by rintro ⟨⟩, by rintro ⟨⟩⟩, Nat.le_succ 1, fun _ => Nat.lt_succ_self 1⟩
  | clear here => exact Or.inl ⟨next (by rintro ⟨⟩), rfl⟩
  | join here => exact absurd here joins
  | thread | arrive | leave => exact Or.inr ⟨⟨next calls, calls, joins⟩, Nat.le_refl _, False.elim⟩

/-- The handler thread ends, or it gets blocked in the window. -/
theorem comes_to_end (run : Runs.Forever (step waits) ss es) (fair : Runs.Fair (step waits) Event.Handler ss es)
    (within : Within c (ss n)) (joins : (ss n).call = .join) :
    ∃ m, n ≤ m ∧ Within c (ss m) ∧ (ss m).call = .join ∧ ((ss m).thread = .ended ∨ (ss m).Blocked waits) := by
  by_cases finished : (ss n).thread = .ended ∨ (ss n).Blocked waits
  · exact ⟨n, Nat.le_refl n, within, joins, finished⟩
  refine @Runs.Fair.leads_to Client Event (step waits) Event.Handler ss es fair run
    (fun s => Within c s ∧ s.call = .join ∧ ¬ (s.thread = .ended ∨ s.Blocked waits))
    (fun s => Within c s ∧ s.call = .join ∧ (s.thread = .ended ∨ s.Blocked waits)) (fun s => s.thread.rank)
    ?_ ?_ n ⟨within, joins, finished⟩
  · rintro s ⟨within, joins, runs⟩
    obtain ⟨alive, free⟩ := not_or.1 runs
    exact thread_ready (within.shut (by rw [joins]; rfl)) alive free
  rintro s e s' ⟨within, joins, runs⟩ taken
  have next := within.goes taken
  cases step_cases taken with
  | connected here | connect here | disconnect here | already here | shutdown here | close here | clear here =>
    cases here.symm.trans joins
  | join _ finished => exact absurd (Or.inl finished) runs
  | thread place pending moves =>
    have within' := next (by rw [joins]; rintro ⟨⟩)
    have down : s.tcp.status ≠ .connected := by
      rw [within.tcp, joins]
      rintro ⟨⟩
    have lower := moves.goes.resolve_right down
    by_cases finished : place = .ended ∨ Blocked waits { s with thread := place, pending := pending }
    · exact Or.inl ⟨within', joins, finished⟩
    · exact Or.inr ⟨⟨within', joins, finished⟩, Nat.le_of_lt lower, fun _ => lower⟩
  | arrive | leave =>
    exact Or.inr ⟨⟨next (by rw [joins]; rintro ⟨⟩), joins, runs⟩, Nat.le_refl _, False.elim⟩

/-- What a call leaves that has returned: no connection, no open socket and no thread. -/
structure Returned (s : Client) : Prop where
  idle : s.call = .idle
  status : s.tcp.status = .disconnected
  closed : s.tcp.live = []
  joined : s.tcp.handlerThread.joinable = false
  ended : s.thread = .ended

theorem comes_back (run : Runs.Forever (step waits) ss es) (fair : Runs.Fair (step waits) Event.Caller ss es)
    (within : Within c (ss n)) (joins : (ss n).call = .join) (finished : (ss n).thread = .ended) :
    ∃ m, n ≤ m ∧ Returned (ss m) := by
  refine @Runs.Fair.leads_to Client Event (step waits) Event.Caller ss es fair run
    (fun s => Within c s ∧ s.call = .join ∧ s.thread = .ended) Returned (fun _ => 0)
    (fun s h => join_ready h.1 h.2.1 h.2.2) ?_ n ⟨within, joins, finished⟩
  rintro s e s' ⟨within, joins, finished⟩ taken
  have next := within.goes taken
  cases step_cases taken with
  | connected here | connect here | disconnect here | already here | shutdown here | close here | clear here =>
    cases here.symm.trans joins
  | join _ _ joined =>
    left
    have same := within.tcp
    rw [joins] at same
    obtain ⟨n, socket, live⟩ := within.inv.up (within.up (by rw [joins]; rintro ⟨⟩))
    constructor
    · rfl
    · exact congrArg TcpClient.status same
    · exact (congrArg TcpClient.live same).trans (TcpClient.close_live socket live)
    · rw [Threads.Handle.join] at joined
      split at joined
      · cases joined
        rfl
      · cases joined
    · exact finished
  | thread place pending moves => exact absurd finished moves.1
  | arrive | leave =>
    exact Or.inr ⟨⟨next (by rw [joins]; rintro ⟨⟩), joins, finished⟩, Nat.le_refl _, False.elim⟩

end

/-- **`disconnect()` returns**, whatever the server does, unless the handler thread waits for the
thread of the window. While a call goes on, the call or the handler thread can go on, but where the
call is in its join and the handler thread is blocked in the window; and in every run without end
that is fair to both of them the call comes to an end, with no socket open and no thread left, or
the handler thread is blocked for ever. -/
theorem disconnect_returns {es : List Event} (run : Runs.exec (step waits) init es = some s) (calls : s.call ≠ .idle) :
    (Runs.Ready (step waits) Event.Caller s ∨ Runs.Ready (step waits) Event.Handler s ↔
        ¬ (s.call = .join ∧ s.Blocked waits)) ∧
      ∀ ss fs, ss 0 = s → Runs.Forever (step waits) ss fs → Runs.Fair (step waits) Event.Caller ss fs →
        Runs.Fair (step waits) Event.Handler ss fs →
          (∃ m, Returned (ss m)) ∨ ∃ m, ∀ k, m ≤ k → (ss k).Blocked waits := by
  obtain ⟨_, c, _, within⟩ := run_within run
  refine ⟨within_ready within calls, ?_⟩
  rintro ss fs rfl forever caller handler
  obtain ⟨m₁, _, within₁, joins₁⟩ := comes_to_join forever caller within calls
  obtain ⟨m₂, _, within₂, joins₂, finished₂ | blocked₂⟩ := comes_to_end forever handler within₁ joins₁
  · obtain ⟨m₃, _, returned⟩ := comes_back forever caller within₂ joins₂ finished₂
    exact Or.inl ⟨m₃, returned⟩
  · exact Or.inr ⟨m₂, forever.invariant (fun _ _ _ => blocked_step) blocked₂⟩

/-- A client that has connected, and whose thread waits in its first `::recv`. -/
def connectedWaiting : Client :=
  ⟨⟨.connected, some 0, ⟨true⟩, 1, [0], [0]⟩, false, [], .here, .header zeros, .shutdown⟩

/-- The call, and what the handler thread does when its `::recv` returns. -/
def returning : List Event :=
  [.callStep, .callStep, .threadStep zeros .closed, .callStep, .threadStep zeros .closed, .callStep]

/-- The states of the call; once it has returned the user calls `disconnect()` again and again. -/
def returns (n : Nat) : Client := (Runs.exec (step fun _ => true) connectedWaiting (returning.take n)).getD init

theorem returns_late {n : Nat} (late : 6 ≤ n) : returns n = returns 6 := by
  unfold returns
  rw [List.take_of_length_le late, List.take_of_length_le (Nat.le_refl 6)]

theorem returns_forever : Runs.Forever (step fun _ => true) returns fun n => returning.getD n .disconnect := by
  intro n
  by_cases late : 6 ≤ n
  · have out : returning.getD n .disconnect = .disconnect := by
      rw [List.getD_eq_getElem?_getD, List.getElem?_eq_none late, Option.getD_none]
    change step (fun _ => true) (returns n) (returning.getD n .disconnect) = _
    rw [out, returns_late late, returns_late (Nat.le_succ_of_le late)]
    decide
  · have all : ∀ n < 6, step (fun _ => true) (returns n) (returning.getD n .disconnect) = some (returns (n + 1)) := by
      decide
    exact all n (Nat.lt_of_not_le late)

/-- The greeting arrives while the user disconnects, and its handler calls the window. -/
def greeted : List Event :=
  [.connect ⟨true, true, true⟩, .threadStep zeros .closed, .arrive (headerBytes (str "hello") 1 ++ [0]), .disconnect,
    .threadStep zeros (.data (headerBytes (str "hello") 1)), .threadStep zeros (.data [0]), .callStep, .callStep,
    .callStep]

/-- The call returns, though the peer is silent and the window would wait; and where a packet is
being handled, the two threads wait for each other. -/
theorem disconnect_returns_waiting : (∃ m, Returned (returns m)) ∧
    ∃ s, Runs.exec (step fun _ => true) init greeted = some s ∧
      ¬ (Runs.Ready (step fun _ => true) Event.Caller s ∨ Runs.Ready (step fun _ => true) Event.Handler s) := by
  constructor
  · have reached : Runs.exec (step fun _ => true) init [.connect ⟨true, true, true⟩, .threadStep zeros .closed, .disconnect] =
      some connectedWaiting := by decide
    have finished : (returns 6).thread = .ended := by decide
    have last (own : Event → Prop) (off : ¬ Runs.Ready (step fun _ => true) own (returns 6)) :
        Runs.Fair (step fun _ => true) own returns fun n => returning.getD n .disconnect := by
      intro n always
      have late := returns_late (show 6 ≤ max n 6 from Nat.le_max_right n 6)
      exact absurd (late ▸ always (max n 6) (Nat.le_max_left n 6)) off
    have ends := (disconnect_returns reached (by decide)).2 returns _ rfl returns_forever (last _ ?_) (last _ ?_)
    · refine ends.resolve_right ?_
      rintro ⟨m, blocked⟩
      obtain ⟨_, packet, here, _⟩ := blocked (max m 6) (Nat.le_max_left m 6)
      rw [returns_late (Nat.le_max_right m 6), finished] at here
      cases here
    · rintro ⟨e, mine, ready⟩
      cases e with
      | callStep => exact absurd ready (by decide)
      | _ => exact mine
    · rintro ⟨e, mine, ready⟩
      cases e with
      | threadStep stack res =>
        change ((returns 6).threadStep (fun _ => true) stack res).isSome = true at ready
        rw [threadStep, finished] at ready
        cases ready
      | _ => exact mine
  · obtain ⟨s, run, seen⟩ := Option.map_eq_some_iff.1
      (show (Runs.exec (step fun _ => true) init greeted).map
          (fun s => decide (s.call = .join ∧ s.thread = .handling ⟨str "hello", [0]⟩)) = some true by decide +kernel)
    obtain ⟨joins, here⟩ := of_decide_eq_true seen
    have calls : s.call ≠ .idle := by
      rw [joins]
      rintro ⟨⟩
    refine ⟨s, run, fun ready => ?_⟩
    exact (disconnect_returns run calls).1.1 ready ⟨joins, calls, _, here, rfl⟩

end

end Client

end Gologin.Disconnect
