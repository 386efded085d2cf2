import Gologin.Server.Handling

/-!
# The server, one request at a time

A turn is one accept with its registration, one request from its `recv` to its reply, or
one disconnection from its `recv` to the end of its handler, with nothing in between.
`turn_reaches` says that a turn is a run of the server.
-/

namespace Gologin.Server
set_option autoImplicit false
open Calls Messages Auth Tcp Tables

inductive Turn where
  | accept (handle : Nat) (alive : Bool)
  | request (c : Nat) (stack : Stack) (results : List RecvResult) (choice : Choice)
  | drop (c : Nat) (stack : Stack) (results : List RecvResult)

/-- The `disconnect()` calls of a `recv` that refuses. -/
def drops (c : Nat) : Nat → List Event
  | 0 => []
  | n + 1 => .disconnect c :: .invalidate c :: List.replicate n (.disconnect c)

/-- A program of a handler, run with nothing in between. -/
def State.run {α : Type} (s : State) (c : Nat) (choice : Choice) (program : Handling α) : α × State :=
  program.run (State.perform c choice) s

@[simp] theorem State.run_done {α : Type} (s : State) (c : Nat) (choice : Choice) (a : α) :
    s.run c choice (.done a) = (a, s) := rfl

@[simp] theorem State.run_call {α : Type} (s : State) (c : Nat) (choice : Choice) (call : Call)
    (next : call.Answer → Handling α) :
    s.run c choice (.call call next) =
      (s.after c choice call).run c choice (next (s.outcome c choice call).1) := rfl

theorem State.run_bind {α β : Type} (s : State) (c : Nat) (choice : Choice) (program : Handling α)
    (next : α → Handling β) :
    s.run c choice (program.bind next) =
      (s.run c choice program).2.run c choice (next (s.run c choice program).1) :=
  Program.run_bind program next s

/-- A program moves no handler. -/
theorem run_conns {α : Type} (s : State) (c : Nat) (choice : Choice) (program : Handling α) :
    (s.run c choice program).2.conns = s.conns := by
  induction program generalizing s with
  | done a => rfl
  | call call next ih => exact ih _ (s.after c choice call)

section
variable (A : App)

def turn (s : State) : Turn → Option State
  | .accept handle alive => Runs.exec (step A) s [.accept handle alive, .emplace s.conns.length]
  | .request c stack results choice =>
    (step A s (.recv c stack results)).bind fun s =>
      match s.conns[c]? with
      | some ⟨handle, socket, .handling program⟩ =>
        let (packet, s) := s.run c choice program
        step A (s.set c ⟨handle, socket, .handling (.done packet)⟩) (.reply c)
      | _ => none
  | .drop c stack results =>
    (step A s (.recv c stack results)).bind fun s =>
      match s.conns[c]? with
      | some ⟨_, _, .dropping n⟩ => Runs.exec (step A) s (drops c n ++ [.erase c, .finish c])
      | _ => none

end

/-! ## A turn is a run -/

section
variable {A : App} {s s' : State}

theorem set_set (s : State) (c : Nat) (conn conn' : Conn) : (s.set c conn).set c conn' = s.set c conn' := by
  simp only [State.set, List.set_set]

theorem set_self {c : Nat} {conn : Conn} (here : s.conns[c]? = some conn) : s.set c conn = s := by
  obtain ⟨inside, same⟩ := List.getElem?_eq_some_iff.1 here
  simp only [State.set, ← same, List.set_getElem_self]

/-- A `::send` does not look at where a handler stands. -/
theorem sendTo_set {c : Nat} {handle : Nat} {socket : Option Nat} {before after : Phase}
    (here : s.conns[c]? = some ⟨handle, socket, before⟩) (d : Nat) (cookies : ClientCookies) (packet : Packet) :
    (s.set c ⟨handle, socket, after⟩).sendTo d cookies packet = s.sendTo d cookies packet := by
  unfold State.sendTo
  have lists : (s.set c ⟨handle, socket, after⟩).clientList = s.clientList := rfl
  rw [lists]
  cases s.clientList.lookup cookies.serverClientId with
  | none => rfl
  | some via =>
    dsimp only
    by_cases same : via = c
    · subst same
      simp only [State.set, conns_set_self here, here]
      rfl
    · simp only [State.set, List.getElem?_set_ne (Ne.symm same)]
      rfl

theorem perform_set {c : Nat} {handle : Nat} {socket : Option Nat} {before after : Phase}
    (here : s.conns[c]? = some ⟨handle, socket, before⟩) (d : Nat) (choice : Choice) (call : Call) :
    (s.set c ⟨handle, socket, after⟩).outcome d choice call = s.outcome d choice call := by
  cases call with
  | sendTo cookies cmd buff => simp only [State.outcome, sendTo_set here]; rfl
  | statusClient | getClients | addClient | remClient => rfl

theorem run_set {α : Type} {c : Nat} {handle : Nat} {socket : Option Nat} {before after : Phase}
    (here : s.conns[c]? = some ⟨handle, socket, before⟩) (d : Nat) (choice : Choice) (program : Handling α) :
    (s.set c ⟨handle, socket, after⟩).run d choice program =
      ((s.run d choice program).1, (s.run d choice program).2.set c ⟨handle, socket, after⟩) := by
  induction program generalizing s with
  | done a => rfl
  | call call next ih =>
    have answer := @perform_set s c handle socket before after here d choice call
    have same : (s.set c ⟨handle, socket, after⟩).perform d choice call =
        ((s.perform d choice call).1, (s.perform d choice call).2.set c ⟨handle, socket, after⟩) := by
      simp only [State.perform, State.after, answer]
      rfl
    simp only [State.run, Program.run_call, same]
    exact ih _ (show (s.after d choice call).conns[c]? = some ⟨handle, socket, before⟩ from here)

/-- What a handler has left to do, done at once, is a run. -/
theorem run_reaches {c : Nat} {handle : Nat} {socket : Option Nat} (choice : Choice) (program : Handling Packet)
    (here : s.conns[c]? = some ⟨handle, socket, .handling program⟩) :
    Runs.Reaches (step A) s
      ((s.run c choice program).2.set c ⟨handle, socket, .handling (.done (s.run c choice program).1)⟩) := by
  induction program generalizing s with
  | done packet =>
    have same : s.set c ⟨handle, socket, .handling (.done packet)⟩ = s := set_self here
    change Runs.Reaches (step A) s (s.set c ⟨handle, socket, .handling (.done packet)⟩)
    rw [same]
    exact .refl s
  | call call next ih =>
    have first : Runs.Reaches (step A) s
        ((s.after c choice call).set c ⟨handle, socket, .handling (next (s.outcome c choice call).1)⟩) :=
      .single (Step.call here).enabled
    have there : (s.after c choice call).conns[c]? = some ⟨handle, socket, .handling (.call call next)⟩ := here
    have moved : ((s.after c choice call).set c
        ⟨handle, socket, .handling (next (s.outcome c choice call).1)⟩).conns[c]? =
          some ⟨handle, socket, .handling (next (s.outcome c choice call).1)⟩ := conns_set_self there _
    have later := ih _ moved
    rw [run_set there, set_set] at later
    exact first.trans later

/-- **A turn is a run of the server.** -/
theorem turn_reaches {t : Turn} (taken : turn A s t = some s') : Runs.Reaches (step A) s s' := by
  cases t with
  | accept handle alive => exact ⟨_, taken⟩
  | request c stack results choice =>
    obtain ⟨m, received, later⟩ := Option.bind_eq_some_iff.1 taken
    split at later
    · rename_i here
      exact (Runs.Reaches.single received).trans ((run_reaches choice _ here).trans (.single later))
    · cases later
  | drop c stack results =>
    obtain ⟨m, received, later⟩ := Option.bind_eq_some_iff.1 taken
    split at later
    · exact (Runs.Reaches.single received).trans ⟨_, later⟩
    · cases later

/-- The `disconnect()` calls behind the first return at once. -/
theorem disconnected_run {c handle n : Nat} (here : s.conns[c]? = some ⟨handle, none, .dropping n⟩) :
    Runs.exec (step A) s (List.replicate n (.disconnect c)) = some (s.set c ⟨handle, none, .dropping 0⟩) := by
  induction n generalizing s with
  | zero => rw [List.replicate_zero, Runs.exec_nil, set_self here]
  | succ n ih =>
    rw [List.replicate_succ, Runs.exec_cons, (Step.disconnected here).enabled, Option.bind_some,
      ih (conns_set_self here _), set_set]

/-- However often `recv` disconnects, the handle is closed once and the registration is
erased. -/
theorem drops_run {c handle n : Nat} (here : s.conns[c]? = some ⟨handle, some handle, .dropping n⟩) :
    Runs.exec (step A) s (drops c n ++ [.erase c, .finish c]) =
      some
        { s with
          clientList := s.clientList.erase handle
          sockets := s.sockets.erase handle
          conns := s.conns.set c ⟨handle, none, .ended⟩
          log := .closed c (s.sockets.lookup handle) :: s.log } := by
  cases n with
  | zero =>
    have erased := (@Step.erase A s c handle _ here).enabled
    have finished := (@Step.destroy A { s with
      conns := s.conns.set c ⟨handle, some handle, .leaving⟩
      clientList := s.clientList.erase handle } c handle handle (conns_set_self here _)).enabled
    rw [drops, List.nil_append, Runs.exec_cons, erased, Option.bind_some, Runs.exec_single finished]
    simp only [State.set, State.close, List.set_set]
  | succ n =>
    have closed := (@Step.disconnect A s c handle handle n here).enabled
    have there : (s.close c handle).conns[c]? = some ⟨handle, some handle, .dropping (n + 1)⟩ := here
    have invalidated := (@Step.invalidate A ((s.close c handle).set c ⟨handle, some handle, .closing n⟩) c handle n
      _ (conns_set_self there _)).enabled
    rw [set_set] at invalidated
    have again := @disconnected_run A ((s.close c handle).set c ⟨handle, none, .dropping n⟩) c handle n
      (conns_set_self there _)
    rw [set_set] at again
    have gone : ((s.close c handle).set c ⟨handle, none, .dropping 0⟩).conns[c]? =
        some ⟨handle, none, .dropping 0⟩ := conns_set_self there _
    have erased := (@Step.erase A _ c handle none gone).enabled
    have finished := (@Step.finish A { (s.close c handle).set c ⟨handle, none, .dropping 0⟩ with
      conns := ((s.close c handle).set c ⟨handle, none, .dropping 0⟩).conns.set c ⟨handle, none, .leaving⟩
      clientList := s.clientList.erase handle } c handle (conns_set_self gone _)).enabled
    rw [drops, List.cons_append, List.cons_append, Runs.exec_cons, closed, Option.bind_some, Runs.exec_cons,
      invalidated, Option.bind_some, Runs.exec_append, again, Option.bind_some, Runs.exec_cons, erased,
      Option.bind_some]
    refine (Runs.exec_single finished).trans ?_
    simp only [State.set, State.close, List.set_set]

/-- What every step keeps, every turn keeps. -/
theorem turn_keeps {I : State → Prop} (keep : ∀ s e s', I s → step A s e = some s' → I s') {t : Turn}
    (start : I s) (taken : turn A s t = some s') : I s' := by
  obtain ⟨es, run⟩ := turn_reaches taken
  exact Runs.exec_invariant keep start run

end

end Gologin.Server
