import Gologin.Server.Locks

/-!
# The calls are atomic

The level of the blocks has the states of the level of the calls, and no others: whatever a thread
finds out and does in a block, with the other threads going on in between, is what the call does
at once, at the step with which the block comes to its result.
-/

namespace Gologin.Locks
set_option autoImplicit false
open Calls Messages Auth Tcp Tables Server SharedMutex

section
variable {A : App} {login pass : Str} {x x' : State} {c : Nat} {choice : Choice}

/-! ## From below to above -/

/-- What a block comes to is the call's own step. -/
theorem call_above {conn : Conn} {call : Server.Call} {rest : call.Answer → Handling Packet}
    (here : x.server.conns[c]? = some conn) (phase : conn.phase = .handling (.call call rest)) {result : Result call}
    (same : result = x.server.outcome c choice call) (place : Place) :
    Server.step A x.server (.call c choice) = some (x.answer c conn call result (.handling (rest result.1)) place).server := by
  obtain ⟨handle, socket, stands⟩ := conn
  obtain rfl : stands = .handling (.call call rest) := phase
  subst same
  exact Server.Step.enabled (.call here)

/-- **A step below is a step above, or none.** -/
theorem step_above (h : Inv login pass x) {e : Event} (taken : step A x e = some x') :
    x'.server = x.server ∨ ∃ e', Server.step A x.server e' = some x'.server := by
  cases e with
  | server e =>
    simp only [step] at taken
    split at taken
    · obtain ⟨s, done, rfl⟩ := Option.map_eq_some_iff.1 taken
      exact Or.inr ⟨e, done⟩
    · cases taken
  | goes c choice =>
    cases goes_cases taken with
    | waits | locks | within | leaves => exact Or.inl rfl
    | rejected here out phase wrong told =>
      exact Or.inr ⟨_, call_above here phase (@rejection_outcome x.server c choice _ wrong _ told) _⟩
    | returns here holds phase goes =>
      obtain ⟨_, right, found⟩ := h.calls here holds phase (next_inside goes)
      obtain ⟨choice', same⟩ := found_outcome found (by rw [h.clientLogin, h.clientPass]; exact right) goes
      exact Or.inr ⟨_, call_above here phase same _⟩
    | listed here holds uses done => exact Or.inr ⟨_, done⟩

/-- The runs of the blocks, seen from above. -/
theorem run_above {es : List Event} (run : Runs.exec (step A) (.init login pass) es = some x) :
    ∃ es', Runs.exec (Server.step A) (.init login pass) es' = some x.server := by
  have keep : ∀ x e x', Inv login pass x ∧ (∃ es', Runs.exec (Server.step A) (.init login pass) es' = some x.server) →
      step A x e = some x' →
      Inv login pass x' ∧ ∃ es', Runs.exec (Server.step A) (.init login pass) es' = some x'.server := by
    rintro x e x' ⟨h, es', above⟩ taken
    refine ⟨inv_step h taken, ?_⟩
    rcases step_above h taken with same | ⟨e', taken'⟩
    · exact ⟨es', same ▸ above⟩
    · exact ⟨es' ++ [e'], Runs.exec_trans above (Runs.exec_single taken')⟩
  exact (Runs.exec_invariant keep ⟨inv_init login pass, [], rfl⟩ run).2

/-! ## From above to below -/

/-- What the thread comes to in a block when no other goes on. -/
def Leads (s : Server.State) (c : Nat) (choice : Choice) (call : Server.Call) (w : Within) (result : Result call) : Prop :=
  ∃ w', Relation.ReflTransGen (fun a b => next s c choice call a = some (.inl b)) w w' ∧
    next s c choice call w' = some (.inr result)

theorem Leads.last {s : Server.State} {call : Server.Call} {w : Within} {result : Result call}
    (goes : next s c choice call w = some (.inr result)) : Leads s c choice call w result :=
  ⟨w, .refl, goes⟩

theorem Leads.head {s : Server.State} {call : Server.Call} {w v : Within} {result : Result call}
    (goes : next s c choice call w = some (.inl v)) (rest : Leads s c choice call v result) :
    Leads s c choice call w result := by
  obtain ⟨last, path, comes⟩ := rest
  exact ⟨last, .head goes path, comes⟩

/-- The loop of `get_clients`. -/
theorem leads_scanning {s : Server.State} {status : ClientStatus} {left read : Nat} {clients : List AuthClient}
    (found : Found s (.getClients status) (.scanning choice.order read clients))
    (length : (choice.order.arrange (values s.provider.clients)).length = read + left) :
    Leads s c choice (.getClients status) (.scanning choice.order read clients)
      (s.outcome c choice (.getClients status)) := by
  induction left generalizing read clients with
  | zero =>
    have past : (choice.order.arrange (values s.provider.clients))[read]? = none :=
      List.getElem?_eq_none (Nat.le_of_eq length)
    obtain rfl : clients = s.provider.getClients choice.order status := by
      have all : (choice.order.arrange (values s.provider.clients)).take read =
          choice.order.arrange (values s.provider.clients) := List.take_of_length_le (Nat.le_of_eq length)
      rw [show clients = _ from found, all]
      rfl
    refine .last ?_
    simp only [next, past]
    rfl
  | succ left ih =>
    have inside : read < (choice.order.arrange (values s.provider.clients)).length := by omega
    have here := List.getElem?_eq_getElem inside
    generalize (choice.order.arrange (values s.provider.clients))[read] = client at here
    have goes : next s c choice (.getClients status) (.scanning choice.order read clients) =
        some (.inl (.scanning choice.order (read + 1)
          (if client.status = status then clients ++ [client] else clients))) := by
      simp only [next, here]
    exact .head goes (ih (found_next found goes) (by omega))

/-- **A block alone comes to what the call does at once.** -/
theorem leads_entered {s : Server.State} {call : Server.Call}
    (right : ¬ Rejected s.provider.clientLogin s.provider.clientPass call) (c : Nat) (choice : Choice) :
    Leads s c choice call .entered (s.outcome c choice call) := by
  cases call with
  | getClients status =>
    exact .head (v := .scanning choice.order 0 []) rfl
      (leads_scanning rfl (Nat.zero_add _).symm)
  | statusClient id session =>
    by_cases present : id ∈ s.provider.clients
    · obtain ⟨client, found⟩ := exists_lookup present
      refine .head (v := .pointing) (by simp only [next, if_pos present]) (.last ?_)
      simp only [next, found, State.outcome, Provider.statusClient]
      rfl
    · refine .last ?_
      simp only [next, if_neg present, State.outcome, Provider.statusClient_none (not_mem_iff_lookup.1 present)]
  | addClient id cookies login pass session =>
    have account : ¬ (login ≠ s.provider.clientLogin ∨ pass ≠ s.provider.clientPass) := right
    by_cases present : id ∈ s.provider.clients
    · obtain ⟨client, found⟩ := exists_lookup present
      have added : s.provider.addClient choice.draw id cookies login pass session = (.removed, session, s.provider) := by
        rw [Provider.addClient, if_neg account, if_pos present]
      refine .head (v := .pointing) (by simp only [next, if_pos present]) (.last ?_)
      simp only [next, found, State.outcome, added]
      rfl
    · have added : s.provider.addClient choice.draw id cookies login pass session =
          (.accepted, session ++ choice.draw.session, { s.provider with
            clients := Tables.emplace id ⟨cookies, id, session ++ choice.draw.session, s.provider.clientLogin, .accepted⟩
              s.provider.clients }) := by
        rw [Provider.addClient, if_neg account, if_neg present]
      refine .head (v := .missing) (by simp only [next, if_neg present])
        (.head (v := .drawn choice.draw) rfl (.last ?_))
      simp only [next, State.outcome, added]
  | remClient id session =>
    by_cases present : id ∈ s.provider.clients
    · obtain ⟨client, found⟩ := exists_lookup present
      refine .head (v := .pointing) (by simp only [next, if_pos present]) (.last ?_)
      simp only [next, found, State.outcome, Provider.remClient_of_mem present]
      rfl
    · refine .last ?_
      simp only [next, if_neg present, State.outcome, Provider.remClient_of_not_mem present]
  | sendTo cookies cmd buff =>
    by_cases present : cookies.serverClientId ∈ s.clientList
    · obtain ⟨via, found⟩ := exists_lookup present
      refine .head (v := .pointing) (by simp only [next, if_pos present]) (.last ?_)
      simp only [next, found]
      rfl
    · refine .last ?_
      simp only [next, if_neg present, State.outcome, State.sendTo, not_mem_iff_lookup.1 present]

theorem goes_rejected {conn : Conn} {call : Server.Call} {rest : call.Answer → Handling Packet}
    (here : x.server.conns[c]? = some conn) (out : x.place c = .outside) (phase : conn.phase = .handling (.call call rest))
    (wrong : Rejected x.server.provider.clientLogin x.server.provider.clientPass call) (choice : Choice) :
    ∃ answer, rejection call = some answer ∧ goes A x c choice =
      some (x.answer c conn call (answer, x.server.provider, []) (.handling (rest answer)) .outside) := by
  have told : ∃ answer, rejection call = some answer := by
    cases call with
    | addClient id cookies login pass session => exact ⟨_, rfl⟩
    | getClients | statusClient | remClient | sendTo => cases wrong
  obtain ⟨answer, told⟩ := told
  refine ⟨answer, told, ?_⟩
  unfold goes
  rw [here]
  simp only [out, phase, if_pos wrong, told]
  rfl

/-- The block runs to its end. -/
theorem run_leads {s : Server.State} {conn : Conn} {call : Server.Call} {rest : call.Answer → Handling Packet}
    {mutex : Mutex} {mode : Mode} {w : Within} {result : Result call} (leads : Leads s c choice call w result)
    (same : x.server = s) (here : s.conns[c]? = some conn) (phase : conn.phase = .handling (.call call rest))
    (holds : x.place c = .holding mutex mode w) :
    ∃ es, Runs.exec (step A) x es =
      some (x.answer c conn call result (.handling (rest result.1)) (.holding mutex mode .returning)) := by
  obtain ⟨w', path, comes⟩ := leads
  induction path using Relation.ReflTransGen.head_induction_on generalizing x with
  | refl =>
    subst same
    have taken := goes_holding (A := A) here holds phase (next_inside comes) choice
    rw [comes] at taken
    exact ⟨[.goes c choice], Runs.exec_single taken⟩
  | head goes path ih =>
    rename_i a b
    subst same
    have taken := goes_holding (A := A) here holds phase (next_inside goes) choice
    rw [goes] at taken
    obtain ⟨es, run⟩ := ih (x := x.move c (.holding mutex mode b)) rfl (Function.update_self ..)
    refine ⟨.goes c choice :: es, ?_⟩
    rw [Runs.exec_cons, show step A x (.goes c choice) = some (x.move c (.holding mutex mode b)) from taken]
    refine run.trans ?_
    simp only [State.answer, State.move, Function.update_idem]

/-- A thread alone gets into a block. -/
theorem run_enters {conn : Conn} {mutex : Mutex} {mode : Mode} (quiet : ∀ d, x.place d = .outside)
    (here : x.server.conns[c]? = some conn) (blocks : block conn.phase = some (mutex, mode))
    (right : ∀ call rest, conn.phase = .handling (.call call rest) →
      ¬ Rejected x.server.provider.clientLogin x.server.provider.clientPass call) (choice : Choice) :
    Runs.exec (step A) x [.goes c choice, .goes c choice] = some (x.move c (.holding mutex mode .entered)) := by
  have waits : (x.move c (.waiting mutex mode)).place c = .waiting mutex mode := Function.update_self ..
  have idle (d : Nat) : ((x.move c (.waiting mutex mode)).place d).mode mutex = none := by
    by_cases mine : d = c
    · subst mine
      rw [waits]
      rfl
    · change (Function.update x.place c _ d).mode mutex = none
      rw [Function.update_of_ne mine, quiet d]
      rfl
  have locked := goes_locks (A := A) (x := x.move c (.waiting mutex mode)) here waits choice
  rw [if_pos (free_of_none idle mode)] at locked
  have entered : step A x (.goes c choice) = some (x.move c (.waiting mutex mode)) := goes_waits here (quiet c) blocks right
  rw [Runs.exec_cons, entered]
  refine Runs.exec_single (locked.trans ?_)
  simp only [State.move, Function.update_idem]

/-- A thread alone that has come to the end of a block leaves it. -/
theorem run_leaves {y : State} {conn : Conn} {mutex : Mutex} {mode : Mode} (quiet : ∀ d, x.place d = .outside)
    (here : y.server.conns[c]? = some conn) (places : y.place = Function.update x.place c (.holding mutex mode .returning))
    (choice : Choice) : Runs.exec (step A) y [.goes c choice] = some ⟨y.server, x.place⟩ := by
  have holds : y.place c = .holding mutex mode .returning := by rw [places, Function.update_self]
  refine Runs.exec_single ((goes_leaves here holds).trans ?_)
  rw [State.move, places, Function.update_idem, ← quiet c, Function.update_eq_self]

/-- **A step above is a run below**, of the thread that takes it. -/
theorem step_below (quiet : ∀ d, x.place d = .outside) {e : Server.Event} {s : Server.State}
    (taken : Server.step A x.server e = some s) : ∃ es, Runs.exec (step A) x es = some ⟨s, x.place⟩ := by
  have others (out : apart x e = true) : ∃ es, Runs.exec (step A) x es = some ⟨s, x.place⟩ := by
    refine ⟨[.server e], Runs.exec_single ?_⟩
    simp only [step, out, if_true, taken]
    rfl
  -- a use of the client list: it locks, does it, and leaves
  have listed {c : Nat} {conn : Conn} {new : Conn} (here : x.server.conns[c]? = some conn)
      (conns : s.conns = x.server.conns.set c new)
      (blocks : block conn.phase = some (.clientList, .exclusive))
      (right : ∀ call rest, conn.phase = .handling (.call call rest) →
        ¬ Rejected x.server.provider.clientLogin x.server.provider.clientPass call)
      (used : step A (x.move c (.holding .clientList .exclusive .entered)) (.goes c someChoice) =
        some ⟨s, Function.update x.place c (.holding .clientList .exclusive .returning)⟩) :
      ∃ es, Runs.exec (step A) x es = some ⟨s, x.place⟩ := by
    have entered := run_enters (A := A) quiet here blocks right someChoice
    have left := @run_leaves A x c ⟨s, Function.update x.place c (.holding .clientList .exclusive .returning)⟩ new
      .clientList .exclusive quiet (by rw [conns]; exact conns_set_self here new) rfl someChoice
    exact ⟨_, Runs.exec_trans (Runs.exec_trans entered (Runs.exec_single used)) left⟩
  cases step_cases taken with
  | accept | refuse => exact others rfl
  | packet | refused | reply | disconnect | disconnected | invalidate | destroy | finish =>
    exact others (by simp only [apart, quiet])
  | emplace here | erase here =>
    rename_i c handle socket
    refine listed here rfl rfl (by rintro _ _ ⟨⟩) ?_
    change goes A _ c someChoice = _
    unfold goes
    rw [show (x.move c _).server.conns[c]? = _ from here]
    simp only [State.move, Function.update_self, taken, Function.update_idem]
    rfl
  | call here =>
    rename_i c handle socket choice call rest
    by_cases wrong : Rejected x.server.provider.clientLogin x.server.provider.clientPass call
    · obtain ⟨answer, told, rejects⟩ := goes_rejected (A := A) here (quiet c) rfl wrong choice
      have above := call_above (A := A) here rfl (@rejection_outcome x.server c choice call wrong answer told) .outside
      refine ⟨[.goes c choice], Runs.exec_single (rejects.trans ?_)⟩
      rw [Option.some.inj (taken.symm.trans above)]
      simp only [State.answer, ← quiet c, Function.update_eq_self]
    · have entered := run_enters (A := A) quiet here rfl
        (by rintro _ _ same; cases same; exact wrong) choice
      obtain ⟨es, run⟩ := run_leads (A := A) (x := x.move c (.holding (guard call).1 (guard call).2 .entered))
        (leads_entered wrong c choice) rfl here rfl (Function.update_self ..)
      have left := @run_leaves A x c ((x.move c (.holding (guard call).1 (guard call).2 .entered)).answer c
        ⟨handle, socket, .handling (.call call rest)⟩ call (x.server.outcome c choice call)
        (.handling (rest (x.server.outcome c choice call).1)) (.holding (guard call).1 (guard call).2 .returning))
        _ (guard call).1 (guard call).2 quiet (conns_set_self here _) (Function.update_idem ..) choice
      exact ⟨_, Runs.exec_trans (Runs.exec_trans entered run) left⟩

/-- The runs of the server, seen from below. -/
theorem run_below {es : List Server.Event} {s : Server.State}
    (run : Runs.exec (Server.step A) (.init login pass) es = some s) :
    ∃ es', Runs.exec (step A) (.init login pass) es' = some ⟨s, fun _ => .outside⟩ := by
  refine Runs.exec_invariant (I := fun s => ∃ es', Runs.exec (step A) (.init login pass) es' = some ⟨s, fun _ => .outside⟩)
    ?_ ⟨[], rfl⟩ run
  rintro s e s' ⟨es', below⟩ taken
  obtain ⟨fs, more⟩ := step_below (x := ⟨s, fun _ => .outside⟩) (fun _ => rfl) taken
  exact ⟨es' ++ fs, Runs.exec_trans below more⟩

end

/-- **The calls of the handlers, and their uses of the client list, are atomic.** The states that
the server can reach when each is a block, entered by a lock and gone through step by step, are
those that it can reach when each is one step. -/
theorem calls_atomic (A : App) (login pass : Str) (s : Server.State) :
    (∃ es x, Runs.exec (step A) (.init login pass) es = some x ∧ x.server = s) ↔
      ∃ es, Runs.exec (Server.step A) (.init login pass) es = some s := by
  constructor
  · rintro ⟨es, x, run, rfl⟩
    exact run_above run
  · rintro ⟨es, run⟩
    obtain ⟨es', run'⟩ := run_below run
    exact ⟨es', _, run', rfl⟩

end Gologin.Locks
