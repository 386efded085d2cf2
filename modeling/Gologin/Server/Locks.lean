import Gologin.Lib.SharedMutex
import Gologin.Lib.Rest
import Gologin.Server.Attribution
import Gologin.Server.Secrets

/-!
# The mutexes of the server

A level below `Server.step`, on which a method of the provider, and each use of the client list,
is a block that a mutex guards: a thread waits for the mutex, does one thing after the other, and
leaves. `get_clients` goes round its loop, `add_client` looks for the id, draws the session and
then inserts, and the others look first and then follow the iterator. In between the other
threads go on. What an iterator points to has to be there when it is followed: a step that
follows one whose entry is gone is not enabled.
-/

namespace Gologin.Locks
set_option autoImplicit false
open Calls Messages Auth Tcp Tables Server SharedMutex

/-! ## The blocks -/

/-- The mutexes: `m_clients_mutex` of the provider, and `m_client_list_mutex`. -/
inductive Mutex where
  | clients
  | clientList
  deriving DecidableEq, Repr

/-- Where a thread is within a block. -/
inductive Within where
  /-- Behind the lock. -/
  | entered
  /-- In the loop of `get_clients`: how many entries it has seen, and which of them it has taken. -/
  | scanning (order : Order) (read : Nat) (clients : List AuthClient)
  /-- With an iterator that points to what it has looked for. -/
  | pointing
  /-- With an iterator at the end. -/
  | missing
  /-- With a session drawn. -/
  | drawn (draw : Draw)
  /-- At its end, before the unlock. -/
  | returning

/-- Where a thread is. -/
inductive Place where
  | outside
  | waiting (mutex : Mutex) (mode : Mode)
  | holding (mutex : Mutex) (mode : Mode) (within : Within)

/-- How a thread that is there holds a mutex. -/
def Place.mode : Place → Mutex → Option Mode
  | .holding held mode _, mutex => if held = mutex then some mode else none
  | .outside, _ => none
  | .waiting _ _, _ => none

/-- The mutex that a call locks, and how. -/
def guard : Server.Call → Mutex × Mode
  | .statusClient _ _ => (.clients, .shared)
  | .getClients _ => (.clients, .shared)
  | .addClient _ _ _ _ _ => (.clients, .exclusive)
  | .remClient _ _ => (.clients, .exclusive)
  | .sendTo _ _ _ => (.clientList, .shared)

/-- The mutex that a thread locks next, if it does. -/
def block : Phase → Option (Mutex × Mode)
  | .started => some (.clientList, .exclusive)
  | .dropping 0 => some (.clientList, .exclusive)
  | .handling (.call call _) => some (guard call)
  | _ => none

/-- Whether `add_client` is called with other credentials than those of the account. It compares
them before it locks. -/
def Rejected (clientLogin clientPass : Str) : Server.Call → Prop
  | .addClient _ _ login pass _ => login ≠ clientLogin ∨ pass ≠ clientPass
  | _ => False

instance (clientLogin clientPass : Str) : (call : Server.Call) → Decidable (Rejected clientLogin clientPass call)
  | .addClient _ _ login pass _ => inferInstanceAs (Decidable (login ≠ clientLogin ∨ pass ≠ clientPass))
  | .statusClient _ _ | .getClients _ | .remClient _ _ | .sendTo _ _ _ => inferInstanceAs (Decidable False)

/-- What the call answers then. -/
def rejection : (call : Server.Call) → Option call.Answer
  | .addClient _ _ _ _ session => some (ClientStatus.rejected, session)
  | _ => none

/-- What a call comes to: what it answers, the provider after it, and what it writes. -/
abbrev Result (call : Server.Call) : Type := call.Answer × Provider × List Entry

/-- The next thing that the handler of `c` does in the block of a call. -/
def next (s : Server.State) (c : Nat) (choice : Choice) : (call : Server.Call) → Within → Option (Within ⊕ Result call)
  | .getClients _, .entered => some (.inl (.scanning choice.order 0 []))
  | .getClients status, .scanning order read clients =>
    match (order.arrange (values s.provider.clients))[read]? with
    | some client =>
      some (.inl (.scanning order (read + 1) (if client.status = status then clients ++ [client] else clients)))
    | none => some (.inr (clients, s.provider, []))
  | .statusClient id _, .entered =>
    if id ∈ s.provider.clients then some (.inl .pointing)
    else some (.inr (ClientStatus.notFound, s.provider, []))
  | .statusClient id _, .pointing =>
    (s.provider.clients.lookup id).map fun client => .inr (client.status, s.provider, [])
  | .addClient id _ _ _ _, .entered => some (.inl (if id ∈ s.provider.clients then .pointing else .missing))
  | .addClient id _ _ _ session, .pointing =>
    -- the status of the entry is read and dropped
    (s.provider.clients.lookup id).map fun _ => .inr ((ClientStatus.removed, session), s.provider, [])
  | .addClient _ _ _ _ _, .missing => some (.inl (.drawn choice.draw))
  | .addClient id cookies _ _ session, .drawn draw =>
    let session := session ++ draw.session
    let client := ⟨cookies, id, session, s.provider.clientLogin, .accepted⟩
    some (.inr ((ClientStatus.accepted, session),
      { s.provider with clients := Tables.emplace id client s.provider.clients }, []))
  | .remClient id _, .entered =>
    if id ∈ s.provider.clients then some (.inl .pointing)
    else some (.inr (ClientStatus.notFound, s.provider, []))
  | .remClient id _, .pointing =>
    (s.provider.clients.lookup id).map fun _ =>
      .inr (ClientStatus.removed, { s.provider with clients := s.provider.clients.erase id }, [])
  | .sendTo cookies _ _, .entered =>
    if cookies.serverClientId ∈ s.clientList then some (.inl .pointing)
    else some (.inr (false, s.provider, []))
  | .sendTo cookies cmd buff, .pointing =>
    (s.clientList.lookup cookies.serverClientId).map fun _ =>
      .inr ((s.sendTo c cookies ⟨cmd, buff⟩).1, s.provider, (s.sendTo c cookies ⟨cmd, buff⟩).2)
  | _, _ => none

/-! ## The steps -/

/-- The server, and where its threads are. -/
structure State where
  server : Server.State
  place : Nat → Place

namespace State

def init (clientLogin clientPass : Str) : State := ⟨.init clientLogin clientPass, fun _ => .outside⟩

/-- Thread `c` goes on to another place. -/
def move (x : State) (c : Nat) (place : Place) : State := { x with place := Function.update x.place c place }

/-- Whether a mutex can be locked. -/
def free (x : State) (mutex : Mutex) : Mode → Bool
  | .shared => (List.range x.server.conns.length).all fun c => (x.place c).mode mutex ≠ some .exclusive
  | .exclusive => (List.range x.server.conns.length).all fun c => (x.place c).mode mutex = none

/-- Thread `c` knows what its call comes to. -/
def answer (x : State) (c : Nat) (conn : Conn) (call : Server.Call) (result : Result call) (phase : Phase)
    (place : Place) : State :=
  { server :=
      ({ x.server with
          provider := result.2.1
          log := .called c call result.1 :: (result.2.2 ++ x.server.log) }).set c ⟨conn.handle, conn.socket, phase⟩
    place := Function.update x.place c place }

end State

/-- What happens: a thread goes on with a block, or does something else. -/
inductive Event where
  | goes (c : Nat) (choice : Choice)
  | server (e : Server.Event)

section
variable (A : App)

/-- Thread `c` goes on with a block. -/
def goes (x : State) (c : Nat) (choice : Choice) : Option State :=
  match x.server.conns[c]? with
  | none => none
  | some conn =>
    match x.place c, conn.phase with
    | .outside, .handling (.call call next) =>
      if Rejected x.server.provider.clientLogin x.server.provider.clientPass call then
        (rejection call).map fun answer =>
          x.answer c conn call (answer, x.server.provider, []) (.handling (next answer)) .outside
      else some (x.move c (.waiting (guard call).1 (guard call).2))
    | .outside, phase => (block phase).map fun (mutex, mode) => x.move c (.waiting mutex mode)
    | .waiting mutex mode, _ => if x.free mutex mode then some (x.move c (.holding mutex mode .entered)) else none
    | .holding _ _ .returning, _ => some (x.move c .outside)
    | .holding mutex mode within, .handling (.call call rest) =>
      (next x.server c choice call within).map fun
        | .inl within => x.move c (.holding mutex mode within)
        | .inr result => x.answer c conn call result (.handling (rest result.1)) (.holding mutex mode .returning)
    | .holding mutex mode .entered, .started =>
      (Server.step A x.server (.emplace c)).map fun s =>
        { server := s, place := Function.update x.place c (.holding mutex mode .returning) }
    | .holding mutex mode .entered, .dropping 0 =>
      (Server.step A x.server (.erase c)).map fun s =>
        { server := s, place := Function.update x.place c (.holding mutex mode .returning) }
    | .holding _ _ _, _ => none

/-- Whether a step is outside of the blocks, and so is the thread that takes it. -/
def apart (x : State) : Server.Event → Bool
  | .accept _ _ => true
  | .recv c _ _ | .reply c | .disconnect c | .invalidate c | .finish c => (x.place c matches .outside)
  | .call _ _ | .emplace _ | .erase _ => false

def step (x : State) : Event → Option State
  | .goes c choice => goes A x c choice
  | .server e => if apart x e then (Server.step A x.server e).map fun s => { x with server := s } else none

/-- What thread `c` can do when it goes on with a block. -/
inductive Goes (x : State) (c : Nat) (choice : Choice) : State → Prop where
  | rejected {conn : Conn} {call : Server.Call} {rest : call.Answer → Handling Packet} {answer : call.Answer}
      (here : x.server.conns[c]? = some conn) (out : x.place c = .outside)
      (phase : conn.phase = .handling (.call call rest))
      (wrong : Rejected x.server.provider.clientLogin x.server.provider.clientPass call)
      (told : rejection call = some answer) :
      Goes x c choice (x.answer c conn call (answer, x.server.provider, []) (.handling (rest answer)) .outside)
  | waits {conn : Conn} {mutex : Mutex} {mode : Mode} (here : x.server.conns[c]? = some conn)
      (out : x.place c = .outside) (blocks : block conn.phase = some (mutex, mode))
      (right : ∀ call rest, conn.phase = .handling (.call call rest) →
        ¬ Rejected x.server.provider.clientLogin x.server.provider.clientPass call) :
      Goes x c choice (x.move c (.waiting mutex mode))
  | locks {conn : Conn} {mutex : Mutex} {mode : Mode} (here : x.server.conns[c]? = some conn)
      (waits : x.place c = .waiting mutex mode) (free : x.free mutex mode = true) :
      Goes x c choice (x.move c (.holding mutex mode .entered))
  | within {conn : Conn} {call : Server.Call} {rest : call.Answer → Handling Packet} {mutex : Mutex} {mode : Mode}
      {w w' : Within} (here : x.server.conns[c]? = some conn) (holds : x.place c = .holding mutex mode w)
      (phase : conn.phase = .handling (.call call rest)) (goes : next x.server c choice call w = some (.inl w')) :
      Goes x c choice (x.move c (.holding mutex mode w'))
  | returns {conn : Conn} {call : Server.Call} {rest : call.Answer → Handling Packet} {mutex : Mutex} {mode : Mode}
      {w : Within} {result : Result call} (here : x.server.conns[c]? = some conn)
      (holds : x.place c = .holding mutex mode w) (phase : conn.phase = .handling (.call call rest))
      (goes : next x.server c choice call w = some (.inr result)) :
      Goes x c choice
        (x.answer c conn call result (.handling (rest result.1)) (.holding mutex mode .returning))
  | listed {conn : Conn} {mutex : Mutex} {mode : Mode} {e : Server.Event} {s : Server.State}
      (here : x.server.conns[c]? = some conn) (holds : x.place c = .holding mutex mode .entered)
      (uses : conn.phase = .started ∧ e = .emplace c ∨ conn.phase = .dropping 0 ∧ e = .erase c)
      (taken : Server.step A x.server e = some s) :
      Goes x c choice { server := s, place := Function.update x.place c (.holding mutex mode .returning) }
  | leaves {conn : Conn} {mutex : Mutex} {mode : Mode} (here : x.server.conns[c]? = some conn)
      (holds : x.place c = .holding mutex mode .returning) : Goes x c choice (x.move c .outside)

variable {A}

theorem goes_cases {x x' : State} {c : Nat} {choice : Choice} (taken : goes A x c choice = some x') :
    Goes A x c choice x' := by
  unfold goes at taken
  split at taken
  · cases taken
  · rename_i conn here
    split at taken
    · rename_i call rest out phase
      split at taken
      · rename_i wrong
        obtain ⟨answer, told, rfl⟩ := Option.map_eq_some_iff.1 taken
        exact .rejected here out phase wrong told
      · rename_i right
        cases taken
        refine .waits here out (by rw [phase]; rfl) fun call' rest' phase' => ?_
        cases phase.symm.trans phase'
        exact right
    · rename_i phase out other
      obtain ⟨⟨mutex, mode⟩, blocks, rfl⟩ := Option.map_eq_some_iff.1 taken
      exact .waits here out blocks fun call rest same => absurd same (other call rest)
    · rename_i waits
      split at taken
      · rename_i free
        cases taken
        exact .locks here waits free
      · cases taken
    · rename_i holds
      cases taken
      exact .leaves here holds
    · rename_i holds phase
      obtain ⟨w' | result, goes, rfl⟩ := Option.map_eq_some_iff.1 taken
      · exact .within here holds phase goes
      · exact .returns here holds phase goes
    · rename_i holds phase
      obtain ⟨s, done, rfl⟩ := Option.map_eq_some_iff.1 taken
      exact .listed here holds (Or.inl ⟨phase, rfl⟩) done
    · rename_i holds phase
      obtain ⟨s, done, rfl⟩ := Option.map_eq_some_iff.1 taken
      exact .listed here holds (Or.inr ⟨phase, rfl⟩) done
    · cases taken

end

/-! ## What a thread has learned -/

/-- What the handler has found out in the block of a call. -/
def Found (s : Server.State) : Server.Call → Within → Prop
  | _, .entered => True
  | .getClients status, .scanning order read clients =>
    clients = ((order.arrange (values s.provider.clients)).take read).filter fun client => client.status = status
  | .statusClient id _, .pointing => id ∈ s.provider.clients
  | .addClient id _ _ _ _, .pointing => id ∈ s.provider.clients
  | .addClient id _ _ _ _, .missing => id ∉ s.provider.clients
  | .addClient id _ _ _ _, .drawn _ => id ∉ s.provider.clients
  | .remClient id _, .pointing => id ∈ s.provider.clients
  | .sendTo cookies _ _, .pointing => cookies.serverClientId ∈ s.clientList
  | _, _ => False

/-- The part of the state that a mutex guards is the same. -/
def Same : Mutex → Server.State → Server.State → Prop
  | .clients, s, s' => s'.provider = s.provider
  | .clientList, s, s' => s'.clientList = s.clientList

theorem Same.refl (mutex : Mutex) (s : Server.State) : Same mutex s s := by
  cases mutex <;> rfl

section
variable {s s' : Server.State} {c : Nat} {choice : Choice} {call : Server.Call} {w w' : Within}

/-- It stays true while the mutex keeps the others from it. -/
theorem found_same (h : Found s call w) (same : Same (guard call).1 s s') : Found s' call w := by
  obtain ⟨provider, clientList, sockets, conns, log⟩ := s'
  cases call with
  | sendTo cookies cmd buff =>
    obtain rfl : clientList = s.clientList := same
    cases w <;> exact h
  | getClients | statusClient | addClient | remClient =>
    obtain rfl : provider = s.provider := same
    cases w <;> exact h

/-- **In a block, a step keeps it.** -/
theorem found_next (h : Found s call w) (goes : next s c choice call w = some (.inl w')) : Found s call w' := by
  cases call with
  | getClients status =>
    cases w with
    | entered =>
      cases goes
      rfl
    | scanning order read clients =>
      simp only [next] at goes
      split at goes
      · rename_i client here
        cases goes
        change _ = List.filter _ _
        rw [List.take_add_one, here, List.filter_append, ← h, Option.toList_some]
        by_cases is : client.status = status
        · simp [is]
        · simp [is]
      · cases goes
    | pointing | missing | drawn | returning => cases goes
  | statusClient id session =>
    cases w with
    | entered =>
      simp only [next] at goes
      split at goes
      · rename_i present
        cases goes
        exact present
      · cases goes
    | pointing =>
      obtain ⟨_, _, ⟨⟩⟩ := Option.map_eq_some_iff.1 goes
    | scanning | missing | drawn | returning => cases goes
  | addClient id cookies login pass session =>
    cases w with
    | entered =>
      cases goes
      split
      · rename_i present
        exact present
      · rename_i absent
        exact absent
    | pointing =>
      obtain ⟨_, _, ⟨⟩⟩ := Option.map_eq_some_iff.1 goes
    | missing =>
      cases goes
      exact h
    | scanning | drawn | returning => cases goes
  | remClient id session =>
    cases w with
    | entered =>
      simp only [next] at goes
      split at goes
      · rename_i present
        cases goes
        exact present
      · cases goes
    | pointing =>
      obtain ⟨_, _, ⟨⟩⟩ := Option.map_eq_some_iff.1 goes
    | scanning | missing | drawn | returning => cases goes
  | sendTo cookies cmd buff =>
    cases w with
    | entered =>
      simp only [next] at goes
      split at goes
      · rename_i present
        cases goes
        exact present
      · cases goes
    | pointing =>
      obtain ⟨_, _, ⟨⟩⟩ := Option.map_eq_some_iff.1 goes
    | scanning | missing | drawn | returning => cases goes

/-- **What a block comes to is what the call does at once**, for the letters that were drawn and
the order that was gone through. -/
theorem found_outcome (h : Found s call w)
    (right : ¬ Rejected s.provider.clientLogin s.provider.clientPass call) {result : Result call}
    (goes : next s c choice call w = some (.inr result)) : ∃ choice', result = s.outcome c choice' call := by
  cases call with
  | getClients status =>
    cases w with
    | scanning order read clients =>
      simp only [next] at goes
      split at goes
      · cases goes
      · rename_i past
        cases goes
        refine ⟨⟨choice.draw, order⟩, ?_⟩
        have all : (order.arrange (values s.provider.clients)).take read = order.arrange (values s.provider.clients) :=
          List.take_of_length_le (List.getElem?_eq_none_iff.1 past)
        rw [show clients = _ from h, all]
        rfl
    | entered | pointing | missing | drawn | returning => cases goes
  | statusClient id session =>
    refine ⟨choice, ?_⟩
    cases w with
    | entered =>
      simp only [next] at goes
      split at goes
      · cases goes
      · rename_i absent
        cases goes
        simp only [State.outcome, Provider.statusClient_none (not_mem_iff_lookup.1 absent)]
    | pointing =>
      obtain ⟨client, found, same⟩ := Option.map_eq_some_iff.1 goes
      cases same
      simp only [State.outcome, Provider.statusClient, found]
    | scanning | missing | drawn | returning => cases goes
  | addClient id cookies login pass session =>
    have account : ¬ (login ≠ s.provider.clientLogin ∨ pass ≠ s.provider.clientPass) := right
    cases w with
    | entered => cases goes
    | pointing =>
      obtain ⟨client, found, same⟩ := Option.map_eq_some_iff.1 goes
      cases same
      have added : s.provider.addClient choice.draw id cookies login pass session = (.removed, session, s.provider) := by
        rw [Provider.addClient, if_neg account, if_pos (mem_of_lookup found)]
      exact ⟨choice, by simp only [State.outcome, added]⟩
    | missing => cases goes
    | drawn draw =>
      cases goes
      have absent : id ∉ s.provider.clients := h
      have added : s.provider.addClient draw id cookies login pass session =
          (.accepted, session ++ draw.session, { s.provider with
            clients := Tables.emplace id ⟨cookies, id, session ++ draw.session, s.provider.clientLogin, .accepted⟩
              s.provider.clients }) := by
        rw [Provider.addClient, if_neg account, if_neg absent]
      exact ⟨⟨draw, choice.order⟩, by simp only [State.outcome, added]⟩
    | scanning | returning => cases goes
  | remClient id session =>
    refine ⟨choice, ?_⟩
    cases w with
    | entered =>
      simp only [next] at goes
      split at goes
      · cases goes
      · rename_i absent
        cases goes
        simp only [State.outcome, Provider.remClient_of_not_mem absent]
    | pointing =>
      obtain ⟨client, found, same⟩ := Option.map_eq_some_iff.1 goes
      cases same
      simp only [State.outcome, Provider.remClient_of_mem (mem_of_lookup found)]
    | scanning | missing | drawn | returning => cases goes
  | sendTo cookies cmd buff =>
    refine ⟨choice, ?_⟩
    cases w with
    | entered =>
      simp only [next] at goes
      split at goes
      · cases goes
      · rename_i absent
        cases goes
        simp only [State.outcome, State.sendTo, not_mem_iff_lookup.1 absent]
    | pointing =>
      obtain ⟨client, _, same⟩ := Option.map_eq_some_iff.1 goes
      cases same
      rfl
    | scanning | missing | drawn | returning => cases goes

/-- An iterator that points to something can be followed. -/
theorem exists_lookup {α β : Type} [DecidableEq α] {a : α} {t : Table α β} (present : a ∈ t) : ∃ b, t.lookup a = some b :=
  Option.isSome_iff_exists.1 (AList.lookup_isSome.2 present)

/-- No iterator of a thread that holds the mutex dangles: the thread can go on. -/
theorem found_goes (h : Found s call w) (c : Nat) (choice : Choice) : ∃ r, next s c choice call w = some r := by
  have points {α β : Type} [DecidableEq α] {a : α} {t : Table α β} {γ : Type} (f : β → γ) (present : a ∈ t) :
      ∃ r, (t.lookup a).map f = some r := by
    obtain ⟨b, found⟩ := exists_lookup present
    exact ⟨f b, by rw [found]; rfl⟩
  cases call with
  | getClients status =>
    cases w with
    | entered => exact ⟨_, rfl⟩
    | scanning order read clients =>
      simp only [next]
      split
      · exact ⟨_, rfl⟩
      · exact ⟨_, rfl⟩
    | pointing | missing | drawn | returning => cases h
  | statusClient id session =>
    cases w with
    | entered =>
      simp only [next]
      split
      · exact ⟨_, rfl⟩
      · exact ⟨_, rfl⟩
    | pointing => exact points _ h
    | scanning | missing | drawn | returning => cases h
  | addClient id cookies login pass session =>
    cases w with
    | entered | missing | drawn => exact ⟨_, rfl⟩
    | pointing => exact points _ h
    | scanning | returning => cases h
  | remClient id session =>
    cases w with
    | entered =>
      simp only [next]
      split
      · exact ⟨_, rfl⟩
      · exact ⟨_, rfl⟩
    | pointing => exact points _ h
    | scanning | missing | drawn | returning => cases h
  | sendTo cookies cmd buff =>
    cases w with
    | entered =>
      simp only [next]
      split
      · exact ⟨_, rfl⟩
      · exact ⟨_, rfl⟩
    | pointing => exact points _ h
    | scanning | missing | drawn | returning => cases h

/-- What `add_client` answers before it locks. -/
theorem rejection_outcome (wrong : Rejected s.provider.clientLogin s.provider.clientPass call) {answer : call.Answer}
    (told : rejection call = some answer) : (answer, s.provider, []) = s.outcome c choice call := by
  cases call with
  | addClient id cookies login pass session =>
    cases told
    have added : s.provider.addClient choice.draw id cookies login pass session = (.rejected, session, s.provider) := by
      rw [Provider.addClient]
      exact if_pos wrong
    simp only [State.outcome, added]
  | getClients | statusClient | remClient | sendTo => cases told

/-- Only a call that holds the mutex alone changes the provider. -/
theorem outcome_guard (s : Server.State) (c : Nat) (choice : Choice) (call : Server.Call) :
    (s.outcome c choice call).2.1 = s.provider ∨ guard call = (.clients, .exclusive) := by
  cases call with
  | addClient | remClient => exact Or.inr rfl
  | getClients | statusClient | sendTo => exact Or.inl rfl

end

/-! ## The invariant -/

/-- What a thread is and where it is. -/
def State.view (x : State) (c : Nat) : Option Conn × Place := (x.server.conns[c]?, x.place c)

/-- How a thread holds a mutex. -/
def mode (v : Option Conn × Place) : Mutex → Option Mode := v.2.mode

/-- What each thread knows where it is. -/
inductive Learned (login pass : Str) (s : Server.State) : Option Conn × Place → Prop where
  | outside (conn : Option Conn) : Learned login pass s (conn, .outside)
  | waiting {conn : Conn} {mutex : Mutex} {mode : Mode} (blocks : block conn.phase = some (mutex, mode))
      (right : ∀ call rest, conn.phase = .handling (.call call rest) → ¬ Rejected login pass call) :
      Learned login pass s (some conn, .waiting mutex mode)
  | entered {conn : Conn} {mutex : Mutex} {mode : Mode} (blocks : block conn.phase = some (mutex, mode))
      (right : ∀ call rest, conn.phase = .handling (.call call rest) → ¬ Rejected login pass call) :
      Learned login pass s (some conn, .holding mutex mode .entered)
  | calling {conn : Conn} {mutex : Mutex} {mode : Mode} {w : Within} {call : Server.Call}
      {rest : call.Answer → Handling Packet} (phase : conn.phase = .handling (.call call rest))
      (guards : guard call = (mutex, mode)) (right : ¬ Rejected login pass call) (found : Found s call w) :
      Learned login pass s (some conn, .holding mutex mode w)
  | returning {conn : Conn} {mutex : Mutex} {mode : Mode} : Learned login pass s (some conn, .holding mutex mode .returning)

section
variable {A : App} {login pass : Str} {x x' : State} {c : Nat} {choice : Choice}

theorem learned_same {s s' : Server.State} {v : Option Conn × Place} (h : Learned login pass s v)
    (same : ∀ mutex, mode v mutex ≠ none → Same mutex s s') : Learned login pass s' v := by
  cases h with
  | outside conn => exact .outside conn
  | waiting blocks right => exact .waiting blocks right
  | entered blocks right => exact .entered blocks right
  | calling phase guards right found =>
    refine .calling phase guards right (found_same found (same _ ?_))
    rw [guards]
    simp [mode, Place.mode]
  | returning => exact .returning

/-- What holds in every state that is reached. -/
structure Inv (login pass : Str) (x : State) : Prop where
  clientLogin : x.server.provider.clientLogin = login
  clientPass : x.server.provider.clientPass = pass
  exclusive : Exclusive mode x.view
  learned : ∀ c, Learned login pass x.server (x.view c)

theorem inv_init (login pass : Str) : Inv login pass (.init login pass) :=
  ⟨rfl, rfl, exclusive_init fun _ _ => rfl, fun _ => .outside _⟩

/-- A thread beyond the connections is in no block. -/
theorem Inv.beyond (h : Inv login pass x) (absent : x.server.conns[c]? = none) : x.place c = .outside := by
  have learned := h.learned c
  unfold State.view at learned
  rw [absent] at learned
  generalize x.place c = place at learned
  cases learned with
  | outside => rfl

theorem Inv.here (h : Inv login pass x) (inside : x.place c ≠ .outside) : ∃ conn, x.server.conns[c]? = some conn := by
  by_contra absent
  rw [not_exists] at absent
  exact inside (h.beyond (Option.eq_none_iff_forall_ne_some.2 absent))

/-- A mutex that no thread holds is free. -/
theorem free_of_none {mutex : Mutex} (idle : ∀ d, (x.place d).mode mutex = none) (wanted : Mode) :
    x.free mutex wanted = true := by
  cases wanted with
  | shared => exact List.all_eq_true.2 fun d _ => decide_eq_true (by rw [idle d]; exact (Option.some_ne_none _).symm)
  | exclusive => exact List.all_eq_true.2 fun d _ => decide_eq_true (idle d)

theorem Inv.free (h : Inv login pass x) {mutex : Mutex} {wanted : Mode} (free : x.free mutex wanted = true) :
    Free mode x.view mutex wanted := by
  have inside (d : Nat) : d ∈ List.range x.server.conns.length ∨ x.place d = .outside := by
    by_cases here : d < x.server.conns.length
    · exact Or.inl (List.mem_range.2 here)
    · exact Or.inr (h.beyond (List.getElem?_eq_none (Nat.le_of_not_lt here)))
  cases wanted with
  | shared =>
    intro d
    rcases inside d with here | out
    · exact of_decide_eq_true (List.all_eq_true.1 free d here)
    · change (x.place d).mode mutex ≠ some .exclusive
      rw [out]
      exact (Option.some_ne_none _).symm
  | exclusive =>
    intro d
    rcases inside d with here | out
    · exact of_decide_eq_true (List.all_eq_true.1 free d here)
    · change (x.place d).mode mutex = none
      rw [out]
      rfl

/-- What a step of thread `c` keeps. -/
structure Keeps (login pass : Str) (x : State) (c : Nat) (x' : State) : Prop where
  clientLogin : x'.server.provider.clientLogin = x.server.provider.clientLogin
  clientPass : x'.server.provider.clientPass = x.server.provider.clientPass
  length : x'.server.conns.length = x.server.conns.length
  others : ∀ d, d ≠ c → x'.view d = x.view d
  guarded : ∀ mutex, Same mutex x.server x'.server ∨ (x.place c).mode mutex = some .exclusive
  locks : ∀ mutex m, (x'.place c).mode mutex = some m → (x.place c).mode mutex = some m ∨ Free mode x.view mutex m
  own : Learned login pass x'.server (x'.view c)

theorem Keeps.inv (k : Keeps login pass x c x') (h : Inv login pass x) : Inv login pass x' where
  clientLogin := k.clientLogin.trans h.clientLogin
  clientPass := k.clientPass.trans h.clientPass
  exclusive := h.exclusive.step k.others k.locks
  learned := h.exclusive.frame (fun _ same learned => learned_same learned same) k.guarded k.others h.learned k.own

theorem next_returning (s : Server.State) (c : Nat) (choice : Choice) (call : Server.Call) :
    next s c choice call .returning = none := by
  cases call <;> rfl

/-- A thread that does something more is not at the end of the block. -/
theorem next_inside {s : Server.State} {call : Server.Call} {w : Within} {r : Within ⊕ Result call}
    (goes : next s c choice call w = some r) : w ≠ .returning := by
  rintro rfl
  rw [next_returning] at goes
  cases goes

/-- What a thread knows within a call, as long as it has something left to do. -/
theorem Inv.calls (h : Inv login pass x) {conn : Conn} {call : Server.Call} {rest : call.Answer → Handling Packet}
    {mutex : Mutex} {mode : Mode} {w : Within} (here : x.server.conns[c]? = some conn)
    (holds : x.place c = .holding mutex mode w) (phase : conn.phase = .handling (.call call rest))
    (inside : w ≠ .returning) : guard call = (mutex, mode) ∧ ¬ Rejected login pass call ∧ Found x.server call w := by
  have learned := h.learned c
  rw [State.view, here, holds] at learned
  cases learned with
  | entered blocks right =>
    rw [phase] at blocks
    exact ⟨Option.some.inj blocks, right call rest phase, by cases call <;> trivial⟩
  | calling phase' guards right found =>
    cases phase.symm.trans phase'
    exact ⟨guards, right, found⟩
  | returning => exact absurd rfl inside

@[simp] theorem place_move (x : State) (c : Nat) (place : Place) : (x.move c place).place c = place :=
  Function.update_self ..

@[simp] theorem place_answer (x : State) (c : Nat) (conn : Conn) (call : Server.Call) (result : Result call)
    (phase : Phase) (place : Place) : (x.answer c conn call result phase place).place c = place :=
  Function.update_self ..

theorem view_move (x : State) {c d : Nat} (place : Place) (other : d ≠ c) : (x.move c place).view d = x.view d := by
  simp only [State.view, State.move, Function.update_of_ne other]

theorem view_set {x x' : State} {c d : Nat} {conn : Conn} {place : Place} (conns : x'.server.conns = x.server.conns.set c conn)
    (places : x'.place = Function.update x.place c place) (other : d ≠ c) : x'.view d = x.view d := by
  simp only [State.view, conns, places, Function.update_of_ne other, List.getElem?_set_ne other.symm]

theorem mode_holding {mutex held : Mutex} {m m' : Mode} {w : Within}
    (holds : (Place.holding held m w).mode mutex = some m') : held = mutex ∧ m = m' := by
  change (if held = mutex then some m else none) = some m' at holds
  split at holds
  · rename_i same
    exact ⟨same, Option.some.inj holds⟩
  · cases holds

/-- **What going on with a block keeps.** -/
theorem goes_keeps (h : Inv login pass x) (goes : Goes A x c choice x') : Keeps login pass x c x' := by
  cases goes with
  | rejected here out phase wrong told =>
    refine ⟨rfl, rfl, List.length_set, fun d => view_set rfl rfl, fun mutex => ?_, ?_, ?_⟩
    · cases mutex <;> exact Or.inl rfl
    · intro mutex m holds
      simp only [State.answer, Function.update_self] at holds
      cases holds
    · simp only [State.view, State.answer, Function.update_self]
      exact .outside _
  | waits here out blocks right =>
    refine ⟨rfl, rfl, rfl, fun d => view_move x _, fun mutex => Or.inl (.refl _ _), ?_, ?_⟩
    · intro mutex m holds
      simp only [State.move, Function.update_self] at holds
      cases holds
    · simp only [State.view, State.move, Function.update_self, here]
      rw [h.clientLogin, h.clientPass] at right
      exact .waiting blocks right
  | locks here waits free =>
    refine ⟨rfl, rfl, rfl, fun d => view_move x _, fun mutex => Or.inl (.refl _ _), ?_, ?_⟩
    · intro mutex m holds
      simp only [State.move, Function.update_self] at holds
      obtain ⟨rfl, rfl⟩ := mode_holding holds
      exact Or.inr (h.free free)
    · have learned := h.learned c
      rw [State.view, here, waits] at learned
      simp only [State.view, State.move, Function.update_self, here]
      cases learned with
      | waiting blocks right => exact .entered blocks right
  | within here holds phase goes =>
    obtain ⟨guards, right, found⟩ := h.calls here holds phase (next_inside goes)
    refine ⟨rfl, rfl, rfl, fun d => view_move x _, fun mutex => Or.inl (.refl _ _), ?_, ?_⟩
    · intro mutex m keeps
      simp only [State.move, Function.update_self] at keeps
      rw [holds]
      exact Or.inl keeps
    · simp only [State.view, State.move, Function.update_self, here]
      exact .calling phase guards right (found_next found goes)
  | returns here holds phase goes =>
    rename_i conn call rest mutex mode w result
    obtain ⟨guards, right, found⟩ := h.calls here holds phase (next_inside goes)
    obtain ⟨choice', same⟩ := found_outcome found (by rw [h.clientLogin, h.clientPass]; exact right) goes
    have provider : result.2.1 = (x.server.outcome c choice' call).2.1 := by rw [same]
    refine ⟨?_, ?_, List.length_set, fun d => view_set rfl rfl, fun mutex => ?_, ?_, ?_⟩
    · exact (congrArg Provider.clientLogin provider).trans (outcome_account _ _ _ _)
    · exact (congrArg Provider.clientPass provider).trans (outcome_pass _ _ _ _)
    · cases mutex with
      | clients =>
        refine (outcome_guard x.server c choice' call).imp (fun kept => provider.trans kept) fun alone => ?_
        cases guards.symm.trans alone
        rw [holds]
        rfl
      | clientList => exact Or.inl rfl
    · intro mutex m keeps
      simp only [State.answer, Function.update_self] at keeps
      rw [holds]
      exact Or.inl keeps
    · simp only [State.view, State.answer, Function.update_self]
      rw [State.set, conns_set_self here]
      exact .returning
  | listed here holds uses taken =>
    rename_i conn mutex mode e s
    have alone : (x.place c).mode .clientList = some .exclusive := by
      have learned := h.learned c
      rw [State.view, here, holds] at learned
      rw [holds]
      cases learned with
      | entered blocks right =>
        rcases uses with ⟨phase, _⟩ | ⟨phase, _⟩
        · rw [phase] at blocks
          cases blocks
          rfl
        · rw [phase] at blocks
          cases blocks
          rfl
      | calling phase' => rcases uses with ⟨phase, _⟩ | ⟨phase, _⟩ <;> cases phase.symm.trans phase'
    obtain ⟨provider, new, conns⟩ : s.provider = x.server.provider ∧ ∃ new, s.conns = x.server.conns.set c new := by
      rcases uses with ⟨_, rfl⟩ | ⟨_, rfl⟩
      · cases step_cases taken with
        | emplace => exact ⟨rfl, _, rfl⟩
      · cases step_cases taken with
        | erase => exact ⟨rfl, _, rfl⟩
    refine ⟨congrArg _ provider, congrArg _ provider, by rw [conns, List.length_set], fun d => view_set conns rfl,
      fun mutex => ?_, ?_, ?_⟩
    · cases mutex with
      | clients => exact Or.inl provider
      | clientList => exact Or.inr alone
    · intro mutex m keeps
      simp only [Function.update_self] at keeps
      rw [holds]
      exact Or.inl keeps
    · simp only [State.view, Function.update_self]
      rw [conns, conns_set_self here]
      exact .returning
  | leaves here holds =>
    refine ⟨rfl, rfl, rfl, fun d => view_move x _, fun mutex => Or.inl (.refl _ _), ?_, ?_⟩
    · intro mutex m keeps
      simp only [State.move, Function.update_self] at keeps
      cases keeps
    · simp only [State.view, State.move, Function.update_self]
      exact .outside _

/-- A step outside of the blocks touches no table, and but one thread. -/
theorem apart_step {e : Server.Event} (out : apart x e = true) {s : Server.State}
    (taken : Server.step A x.server e = some s) (h : Inv login pass x) :
    s.provider = x.server.provider ∧ s.clientList = x.server.clientList ∧
      ∃ c, x.place c = .outside ∧ ∀ d, d ≠ c → s.conns[d]? = x.server.conns[d]? := by
  have outside {c : Nat} (here : (x.place c matches .outside) = true) : x.place c = .outside := by
    split at here
    · assumption
    · cases here
  have set (c : Nat) (new : Conn) (d : Nat) (other : d ≠ c) : (x.server.conns.set c new)[d]? = x.server.conns[d]? :=
    List.getElem?_set_ne other.symm
  have append (new : Conn) : ∃ c, x.place c = .outside ∧ ∀ d, d ≠ c → (x.server.conns ++ [new])[d]? = x.server.conns[d]? := by
    refine ⟨x.server.conns.length, h.beyond (List.getElem?_eq_none (Nat.le_refl _)), fun d other => ?_⟩
    by_cases below : d < x.server.conns.length
    · exact List.getElem?_append_left below
    · rw [List.getElem?_eq_none (by simp; omega), List.getElem?_eq_none (Nat.le_of_not_lt below)]
  cases step_cases taken with
  | accept fresh | refuse fresh => exact ⟨rfl, rfl, append _⟩
  | packet here received | refused here received => exact ⟨rfl, rfl, _, outside out, set _ _⟩
  | reply here => exact ⟨rfl, rfl, _, outside out, set _ _⟩
  | disconnect here | disconnected here | invalidate here | destroy here | finish here =>
    exact ⟨rfl, rfl, _, outside out, set _ _⟩
  | emplace here | call here | erase here => cases out

/-- **The invariant.** -/
theorem inv_step (h : Inv login pass x) {e : Event} (taken : step A x e = some x') : Inv login pass x' := by
  cases e with
  | goes c choice => exact (goes_keeps h (goes_cases taken)).inv h
  | server e =>
    simp only [step] at taken
    split at taken
    · rename_i out
      obtain ⟨s, done, rfl⟩ := Option.map_eq_some_iff.1 taken
      obtain ⟨provider, clientList, c, place, others⟩ := apart_step out done h
      have view (d : Nat) (other : d ≠ c) : (⟨s, x.place⟩ : State).view d = x.view d := by
        simp only [State.view, others d other]
      have guarded (mutex : Mutex) : Same mutex x.server s := by
        cases mutex with
        | clients => exact provider
        | clientList => exact clientList
      constructor
      · exact (congrArg _ provider).trans h.clientLogin
      · exact (congrArg _ provider).trans h.clientPass
      · exact h.exclusive.step view fun mutex m holds => Or.inl holds
      · refine h.exclusive.frame (fun _ same learned => learned_same learned same) (fun mutex => Or.inl (guarded mutex))
          view h.learned ?_
        simp only [State.view, place]
        exact .outside _
    · cases taken

theorem inv_run {es : List Event} (run : Runs.exec (step A) (.init login pass) es = some x) : Inv login pass x :=
  Runs.exec_invariant (fun _ _ _ h taken => inv_step h taken) (inv_init login pass) run

/-! ## Going on -/

/-- What a thread does that holds a mutex within a call. -/
theorem goes_holding {conn : Conn} {call : Server.Call} {rest : call.Answer → Handling Packet} {mutex : Mutex} {mode : Mode}
    {w : Within} (here : x.server.conns[c]? = some conn) (holds : x.place c = .holding mutex mode w)
    (phase : conn.phase = .handling (.call call rest)) (inside : w ≠ .returning) (choice : Choice) :
    goes A x c choice = (next x.server c choice call w).map fun
      | .inl w' => x.move c (.holding mutex mode w')
      | .inr result => x.answer c conn call result (.handling (rest result.1)) (.holding mutex mode .returning) := by
  unfold goes
  rw [here]
  simp only [holds, phase]

theorem goes_leaves {conn : Conn} {mutex : Mutex} {mode : Mode} (here : x.server.conns[c]? = some conn)
    (holds : x.place c = .holding mutex mode .returning) : goes A x c choice = some (x.move c .outside) := by
  unfold goes
  rw [here]
  simp only [holds]

theorem goes_locks {conn : Conn} {mutex : Mutex} {mode : Mode} (here : x.server.conns[c]? = some conn)
    (waits : x.place c = .waiting mutex mode) (choice : Choice) :
    goes A x c choice = if x.free mutex mode then some (x.move c (.holding mutex mode .entered)) else none := by
  unfold goes
  rw [here]
  simp only [waits]

theorem goes_waits {conn : Conn} {mutex : Mutex} {mode : Mode} (here : x.server.conns[c]? = some conn)
    (out : x.place c = .outside) (blocks : block conn.phase = some (mutex, mode))
    (right : ∀ call rest, conn.phase = .handling (.call call rest) →
      ¬ Rejected x.server.provider.clientLogin x.server.provider.clientPass call) :
    goes A x c choice = some (x.move c (.waiting mutex mode)) := by
  obtain ⟨handle, socket, stands⟩ := conn
  unfold goes
  rw [here]
  cases stands with
  | handling program =>
    cases program with
    | done packet => cases blocks
    | call call rest =>
      simp only [out, if_neg (right call rest rfl), Option.some.inj blocks]
  | started | dropping =>
    simp only [out, blocks]
    rfl
  | receiving | closing | leaving | ended => cases blocks

end

end Gologin.Locks
