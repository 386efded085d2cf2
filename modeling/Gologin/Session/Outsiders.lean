import Gologin.Lib.Lockstep
import Gologin.Server.Malformed
import Gologin.Session.World

/-!
# Outsiders

What somebody asks for who is refused whatever he asks for is noticed by nobody else: without his
requests the server ends with the same tables, and has received from all others, and written to
them, what it has.
-/

namespace Gologin.Session
set_option autoImplicit false
open Calls Messages Tcp Auth Tables

/-! ## Requests that are refused -/

/-- A call that asks for something that can be refused. -/
def Petitions : Server.Call → Prop
  | .statusClient _ _ | .addClient _ _ _ _ _ | .remClient _ _ => True
  | .getClients _ | .sendTo _ _ _ => False

/-- The answer refuses what was asked for. -/
def Refuses : (call : Server.Call) → call.Answer → Prop
  | .statusClient _ _, (status : ClientStatus) => status ≠ .accepted
  | .addClient _ _ _ _ _, ((status, _) : ClientStatus × Str) => status ≠ .accepted
  | .remClient _ _, (status : ClientStatus) => status ≠ .removed
  | .getClients _, _ => True
  | .sendTo _ _ _, _ => True

instance : (call : Server.Call) → (answer : call.Answer) → Decidable (Refuses call answer)
  | .statusClient _ _, (status : ClientStatus) => inferInstanceAs (Decidable (status ≠ .accepted))
  | .addClient _ _ _ _ _, ((status, _) : ClientStatus × Str) => inferInstanceAs (Decidable (status ≠ .accepted))
  | .remClient _ _, (status : ClientStatus) => inferInstanceAs (Decidable (status ≠ .removed))
  | .getClients _, _ => inferInstanceAs (Decidable True)
  | .sendTo _ _ _, _ => inferInstanceAs (Decidable True)

/-- While it is refused, what is left of a handler asks on and does no more. -/
def Refusable : Server.Handling Packet → Prop := Program.Always Petitions Refuses fun _ => True

section
variable (A : Server.App)

theorem handling_refused (cmd : Str) (cookies : ClientCookies) (request : Server.Request) :
    Program.Always Petitions Refuses (fun _ => True) (A.handling cmd cookies request) := by
  cases request with
  | hello r => trivial
  | ping r =>
    refine ⟨trivial, fun (auth : ClientStatus) (refuses : auth ≠ .accepted) => ?_⟩
    change Program.Always _ _ _ (Program.bind (if auth = .accepted then _ else _) _)
    rw [if_neg refuses]
    trivial
  | login r =>
    refine ⟨trivial, fun (answer : ClientStatus × Str) (refuses : answer.1 ≠ .accepted) => ?_⟩
    change Program.Always _ _ _ (Program.bind (if answer.1 = .accepted then _ else _) _)
    rw [if_neg refuses]
    trivial
  | logout r =>
    refine ⟨trivial, fun (auth : ClientStatus) (refuses : auth ≠ .removed) => ?_⟩
    change Program.Always _ _ _ (Program.bind (if auth = .removed then _ else _) _)
    rw [if_neg refuses]
    trivial
  | message r =>
    refine ⟨trivial, fun (auth : ClientStatus) (refuses : auth ≠ .accepted) => ?_⟩
    change Program.Always _ _ _ (Program.bind (if auth = .accepted then _ else _) _)
    rw [if_neg refuses]
    trivial

/-- **Who is refused goes no further**: a handler reads the table of accounts and writes to others
only behind an answer that grants the request. -/
theorem packetHandler_refused (cid : Nat) (packet : Packet) : Refusable (A.packetHandler cid packet) := by
  change Program.Always _ _ _ (Program.bind (dispatch A.hash A.handlers packet.cmd ⟨cid⟩ packet.body) _)
  rcases A.dispatch_request packet ⟨cid⟩ with ⟨request, _, same⟩ | ⟨_, _, same⟩
  · rw [same]
    apply Program.Always.bind _ (handling_refused A packet.cmd ⟨cid⟩ request)
    intro d _
    trivial
  · rw [same]
    trivial

/-- A call that is refused changes nothing and writes nothing. -/
theorem outcome_refused {s : Server.State} {c : Nat} {choice : Server.Choice} {call : Server.Call} (asks : Petitions call)
    (refuses : Refuses call (s.outcome c choice call).1) : (s.outcome c choice call).2 = (s.provider, []) := by
  cases call with
  | statusClient id session => rfl
  | addClient id cookies login pass session =>
    rcases @Provider.addClient_cases s.provider id choice.draw cookies login pass session with
      ⟨_, _, same⟩ | ⟨_, _, same⟩ | ⟨_, same⟩
    · simp only [Server.State.outcome, same, Refuses] at refuses
      exact absurd rfl refuses
    · simp only [Server.State.outcome, same]
    · simp only [Server.State.outcome, same]
  | remClient id session =>
    by_cases present : id ∈ s.provider.clients
    · simp only [Server.State.outcome, Provider.remClient_of_mem present, Refuses] at refuses
      exact absurd rfl refuses
    · simp only [Server.State.outcome, Provider.remClient_of_not_mem present]
  | getClients | sendTo => exact asks.elim

end

/-! ## Leaving the requests out -/

/-- A connection without the request it has in hand. -/
def unasked (conn : Server.Conn) : Server.Conn :=
  match conn.phase with
  | .handling _ => { conn with phase := .receiving }
  | _ => conn

section
variable (outside : Nat → Bool)

/-- A step with which the server handles a request of an outsider. -/
def concerns (e : Server.Event) : Bool :=
  match e.packet, e with
  | some (c, _), _ => outside c
  | none, .call c _ => outside c
  | none, .reply c => outside c
  | none, _ => false

/-- What the handler of connection `c` is about to ask for is refused. -/
def Declined (s : Server.State) (c : Nat) (choice : Server.Choice) : Server.Phase → Prop
  | .handling (.call call _) => Refuses call (s.outcome c choice call).1
  | _ => True

instance (s : Server.State) (c : Nat) (choice : Server.Choice) : (phase : Server.Phase) → Decidable (Declined s c choice phase)
  | .handling (.call call _) => inferInstanceAs (Decidable (Refuses call (s.outcome c choice call).1))
  | .handling (.done _) | .started | .receiving | .dropping _ | .closing _ | .leaving | .ended => isTrue trivial

/-- What an outsider asks for is refused; and the sockets that are accepted stay open. -/
def Rejected (s : Server.State) : Server.Event → Prop
  | .accept _ alive => alive = true
  | .call c choice => outside c = true → ∀ conn ∈ s.conns[c]?, Declined s c choice conn.phase
  | _ => True

instance (s : Server.State) : (e : Server.Event) → Decidable (Rejected outside s e)
  | .accept _ alive => inferInstanceAs (Decidable (alive = true))
  | .call c choice => inferInstanceAs (Decidable (outside c = true → ∀ conn ∈ s.conns[c]?, Declined s c choice conn.phase))
  | .emplace _ | .recv _ _ _ | .reply _ | .disconnect _ | .invalidate _ | .erase _ | .finish _ =>
    inferInstanceAs (Decidable True)

/-- How a run stands without the requests of the outsiders: `conns` and `log` are what differs. -/
structure Unnoticed (s : Server.State) (conns : List Server.Conn) (log : List Server.Entry) : Prop where
  opened : Server.Sockets s
  held : Server.Held s
  asking : ∀ (c : Nat) (conn : Server.Conn) program, outside c = true → s.conns[c]? = some conn →
    conn.phase = .handling program → Refusable program
  length : conns.length = s.conns.length
  same : ∀ c, outside c = false → conns[c]? = s.conns[c]?
  idle : ∀ c, outside c = true → conns[c]? = (s.conns[c]?).map unasked
  wires : ∀ l, outside l = false → onWire l log = onWire l s.log
  frames : ∀ c, outside c = false → Server.frames c log = Server.frames c s.log

end

section
variable {A : Server.App} {outside : Nat → Bool} {s s' : Server.State} {conns : List Server.Conn} {log : List Server.Entry}
  {e : Server.Event}

theorem unnoticed_init (login pass : Str) : Unnoticed outside (.init login pass) [] [] := by
  refine ⟨Server.sockets_init login pass, Server.held_init login pass, ?_, rfl, fun _ _ => rfl, fun _ _ => rfl,
    fun _ _ => rfl, fun _ _ => rfl⟩
  intro c conn program _ here
  cases here

/-- A connection that handles no request of an outsider. -/
theorem Unnoticed.here (h : Unnoticed outside s conns log) {c : Nat} {conn : Server.Conn} (here : s.conns[c]? = some conn)
    (still : outside c = true → unasked conn = conn) : conns[c]? = some conn := by
  cases out : outside c with
  | false => exact (h.same c out).trans here
  | true =>
    rw [h.idle c out, here, Option.map_some, still out]

/-- What a call answers and writes does not depend on the requests of the outsiders. -/
theorem Unnoticed.outcome (h : Unnoticed outside s conns log) (c : Nat) (choice : Server.Choice) (call : Server.Call) :
    Server.State.outcome { s with conns := conns, log := log } c choice call = s.outcome c choice call := by
  cases call with
  | sendTo cookies cmd buff =>
    have writes : Server.State.sendTo { s with conns := conns, log := log } c cookies ⟨cmd, buff⟩ =
        s.sendTo c cookies ⟨cmd, buff⟩ := by
      unfold Server.State.sendTo
      cases s.clientList.lookup cookies.serverClientId with
      | none => rfl
      | some via =>
        cases out : outside via with
        | false =>
          simp only [h.same via out]
          cases s.conns[via]? <;> rfl
        | true =>
          simp only [h.idle via out]
          cases s.conns[via]? with
          | none => rfl
          | some conn =>
            obtain ⟨handle, socket, phase⟩ := conn
            cases phase <;> rfl
    simp only [Server.State.outcome, writes]
  | statusClient | getClients | addClient | remClient => rfl

/-- What two steps do alike to their logs. -/
theorem Unnoticed.logs (h : Unnoticed outside s conns log) (entries : List Server.Entry) :
    (∀ l, outside l = false → onWire l (entries ++ log) = onWire l (entries ++ s.log)) ∧
      ∀ c, outside c = false → Server.frames c (entries ++ log) = Server.frames c (entries ++ s.log) := by
  constructor
  · intro l inside
    rw [onWire_append, onWire_append, h.wires l inside]
  · intro c inside
    rw [Server.frames_concat, Server.frames_concat, h.frames c inside]

/-- The same step of one connection. -/
theorem Unnoticed.set (h : Unnoticed outside s conns log) (taken : Server.step A s e = some s')
    (alive : ∀ handle, e ≠ .accept handle false) (entries : List Server.Entry) {c : Nat} {new : Server.Conn}
    (set : s'.conns = s.conns.set c new) (added : s'.log = entries ++ s.log)
    (still : outside c = true → ∀ program, new.phase ≠ .handling program) :
    Unnoticed outside s' (conns.set c new) (entries ++ log) := by
  obtain ⟨wires, frames⟩ := h.logs entries
  refine ⟨Server.sockets_step h.opened taken, Server.held_step h.held taken alive, ?_, ?_, ?_, ?_, added ▸ wires, added ▸ frames⟩
  · intro d conn program out here handling
    rw [set] at here
    rcases Server.conns_set here with ⟨rfl, rfl⟩ | ⟨_, there⟩
    · exact absurd handling (still out program)
    · exact h.asking d conn program out there handling
  · rw [set, List.length_set, List.length_set, h.length]
  · intro d inside
    rw [set, List.getElem?_set, List.getElem?_set, h.length, h.same d inside]
  · intro d out
    rw [set, List.getElem?_set, List.getElem?_set, h.length, h.idle d out]
    split
    · rename_i self
      subst self
      have same : unasked new = new := by
        unfold unasked
        split
        · rename_i handling
          exact absurd handling (still out _)
        · rfl
      split
      · rw [Option.map_some, same]
      · rfl
    · rfl

/-- The same connection is accepted. -/
theorem Unnoticed.append (h : Unnoticed outside s conns log) (taken : Server.step A s e = some s')
    (alive : ∀ handle, e ≠ .accept handle false) {new : Server.Conn} (started : new.phase = .started)
    (append : s'.conns = s.conns ++ [new]) (same : s'.log = s.log) : Unnoticed outside s' (conns ++ [new]) log := by
  refine ⟨Server.sockets_step h.opened taken, Server.held_step h.held taken alive, ?_, ?_, ?_, ?_, same ▸ h.wires, same ▸ h.frames⟩
  · intro d conn program out here handling
    rw [append] at here
    rcases Server.conns_append here with ⟨_, rfl⟩ | there
    · cases started.symm.trans handling
    · exact h.asking d conn program out there handling
  · rw [append, List.length_append, List.length_append, h.length]
  · intro d inside
    rw [append, List.getElem?_append, List.getElem?_append, h.length, h.same d inside]
  · intro d out
    rw [append, List.getElem?_append, List.getElem?_append, h.length, h.idle d out]
    split
    · rfl
    · have plain : unasked new = new := by
        unfold unasked
        rw [started]
      rw [← List.getElem?_map, List.map_singleton, plain]

/-- A step that the other run leaves out. -/
theorem Unnoticed.skip (h : Unnoticed outside s conns log) (taken : Server.step A s e = some s')
    (alive : ∀ handle, e ≠ .accept handle false) (entries : List Server.Entry) {c : Nat} {old new : Server.Conn}
    (out : outside c = true) (here : s.conns[c]? = some old) (set : s'.conns = s.conns.set c new)
    (added : s'.log = entries ++ s.log) (same : unasked new = unasked old)
    (asking : ∀ program, new.phase = .handling program → Refusable program)
    (wires : ∀ l, outside l = false → onWire l entries = [])
    (frames : ∀ d, outside d = false → Server.frames d entries = []) : Unnoticed outside s' conns log := by
  have apart {d : Nat} (inside : outside d = false) : c ≠ d := by
    rintro rfl
    cases out.symm.trans inside
  refine ⟨Server.sockets_step h.opened taken, Server.held_step h.held taken alive, ?_, ?_, ?_, ?_, ?_, ?_⟩
  · intro d conn program outer found handling
    rw [set] at found
    rcases Server.conns_set found with ⟨rfl, rfl⟩ | ⟨_, there⟩
    · exact asking program handling
    · exact h.asking d conn program outer there handling
  · rw [set, List.length_set, h.length]
  · intro d inside
    rw [set, List.getElem?_set_ne (apart inside), h.same d inside]
  · intro d outer
    rw [h.idle d outer, set]
    by_cases self : c = d
    · subst self
      rw [Server.conns_set_self here, here, Option.map_some, Option.map_some, same]
    · rw [List.getElem?_set_ne self]
  · intro l inside
    rw [added, onWire_append, wires l inside, List.nil_append, h.wires l inside]
  · intro d inside
    rw [added, Server.frames_concat, frames d inside, List.nil_append, h.frames d inside]

theorem rejected_alive (rejected : Rejected outside s e) (handle : Nat) : e ≠ .accept handle false := by
  rintro rfl
  cases rejected

/-- A request of an outsider that is refused changes nothing that the other run has. -/
theorem unnoticed_skip (h : Unnoticed outside s conns log) (rejected : Rejected outside s e)
    (out : concerns outside e = true) (taken : Server.step A s e = some s') :
    { s' with conns := conns, log := log } = { s with conns := conns, log := log } ∧ Unnoticed outside s' conns log := by
  have alive := rejected_alive rejected
  cases Server.step_cases taken with
  | packet here received =>
    rename_i c handle socket stack results header buff
    simp only [concerns, Server.Event.packet, received] at out
    refine ⟨rfl, h.skip taken alive (.received c _ :: s.uses ⟨handle, socket, .receiving⟩ (.read c)) out here rfl rfl rfl ?_ ?_ ?_⟩
    · rintro _ ⟨⟩
      exact packetHandler_refused A handle _
    · exact fun l _ => onWire_reads l s _ c
    · intro d inside
      have none : Server.frames d (s.uses ⟨handle, socket, .receiving⟩ (.read c)) = [] :=
        (List.append_nil _ ▸ Server.frames_uses d s _ c [] :)
      simp only [Server.frames, none]
      split
      · rename_i self
        rw [self] at out
        cases out.symm.trans inside
      · rfl
  | refused here received =>
    simp only [concerns, Server.Event.packet, received] at out
    cases out
  | call here =>
    rename_i c handle socket choice call next
    change outside c = true at out
    obtain ⟨asks, later⟩ : Refusable (.call call next) := h.asking c _ _ out here rfl
    have refuses : Refuses call (s.outcome c choice call).1 := rejected out _ here
    have same := outcome_refused asks refuses
    have provider := congrArg Prod.fst same
    have none : (s.outcome c choice call).2.2 = [] := congrArg Prod.snd same
    refine ⟨?_, h.skip taken alive [.called c call (s.outcome c choice call).1] out here rfl ?_ rfl ?_ (fun _ _ => rfl)
      fun _ _ => rfl⟩
    · exact congrArg (fun p => ({ s with provider := p, conns := conns, log := log } : Server.State)) provider
    · change _ :: ((s.outcome c choice call).2.2 ++ s.log) = _
      rw [none]
      rfl
    · rintro _ ⟨⟩
      exact later _ refuses
  | reply here =>
    rename_i c handle socket packet
    change outside c = true at out
    have replied := h.held.reply h.opened here
    refine ⟨rfl, h.skip taken alive _ out here rfl rfl rfl (by rintro _ ⟨⟩) ?_ ?_⟩
    · intro l inside
      rw [replied]
      split
      · rfl
      · have other : ¬ some c = some l := by
          rintro ⟨⟩
          cases out.symm.trans inside
        simp only [onWire, if_neg other]
    · exact fun d _ => (List.append_nil _ ▸ Server.frames_send d s _ c packet [] :)
  | accept fresh | refuse fresh | emplace here | disconnect here | disconnected here | invalidate here | erase here
  | destroy here | finish here => cases out

/-- **Another step** is possible without the requests of the outsiders, and does the same. -/
theorem unnoticed_follow (h : Unnoticed outside s conns log) (rejected : Rejected outside s e)
    (other : concerns outside e = false) (taken : Server.step A s e = some s') : ∃ conns' log',
      Server.step A { s with conns := conns, log := log } e = some { s' with conns := conns', log := log' } ∧
        Unnoticed outside s' conns' log' := by
  have alive := rejected_alive rejected
  cases Server.step_cases taken with
  | accept fresh =>
    have enabled := (Server.Step.accept fresh : Server.Step A { s with conns := conns, log := log } _ _).enabled
    simp only [h.length] at enabled
    exact ⟨_, _, enabled, h.append taken alive rfl rfl rfl⟩
  | refuse fresh => cases rejected
  | packet here received =>
    rename_i c handle socket stack results header buff
    simp only [concerns, Server.Event.packet, received] at other
    have there := (h.same c other).trans here
    refine ⟨_, _, Server.Step.enabled (.packet there received), h.set taken alive (.received c _ :: s.uses _ _) rfl rfl ?_⟩
    intro out
    cases out.symm.trans other
  | call here =>
    rename_i c handle socket choice call next
    change outside c = false at other
    have there := (h.same c other).trans here
    have enabled := (Server.Step.call there : Server.Step A { s with conns := conns, log := log } (.call c choice) _).enabled
    simp only [Server.State.after, h.outcome c choice call] at enabled
    refine ⟨_, _, enabled, h.set taken alive (.called c call (s.outcome c choice call).1 :: (s.outcome c choice call).2.2)
      rfl rfl ?_⟩
    intro out
    cases out.symm.trans other
  | reply here =>
    rename_i c handle socket packet
    change outside c = false at other
    have there := (h.same c other).trans here
    refine ⟨_, _, (Server.Step.reply there).enabled, h.set taken alive
      (s.send ⟨handle, socket, .handling (.done packet)⟩ packet fun on => .replied c on packet).2 rfl rfl ?_⟩
    intro out
    cases out.symm.trans other
  | emplace here =>
    exact ⟨_, _, Server.Step.enabled (.emplace (h.here here fun _ => rfl)), h.set taken alive [] rfl rfl (by rintro _ _ ⟨⟩)⟩
  | refused here received =>
    exact ⟨_, _, Server.Step.enabled (.refused (h.here here fun _ => rfl) received),
      h.set taken alive (s.uses _ _) rfl rfl (by rintro _ _ ⟨⟩)⟩
  | disconnect here =>
    exact ⟨_, _, Server.Step.enabled (.disconnect (h.here here fun _ => rfl)),
      h.set taken alive [.closed _ _] rfl rfl (by rintro _ _ ⟨⟩)⟩
  | disconnected here =>
    exact ⟨_, _, Server.Step.enabled (.disconnected (h.here here fun _ => rfl)), h.set taken alive [] rfl rfl (by rintro _ _ ⟨⟩)⟩
  | invalidate here =>
    exact ⟨_, _, Server.Step.enabled (.invalidate (h.here here fun _ => rfl)), h.set taken alive [] rfl rfl (by rintro _ _ ⟨⟩)⟩
  | erase here =>
    exact ⟨_, _, Server.Step.enabled (.erase (h.here here fun _ => rfl)), h.set taken alive [] rfl rfl (by rintro _ _ ⟨⟩)⟩
  | destroy here =>
    exact ⟨_, _, Server.Step.enabled (.destroy (h.here here fun _ => rfl)),
      h.set taken alive [.closed _ _] rfl rfl (by rintro _ _ ⟨⟩)⟩
  | finish here =>
    exact ⟨_, _, Server.Step.enabled (.finish (h.here here fun _ => rfl)), h.set taken alive [] rfl rfl (by rintro _ _ ⟨⟩)⟩

end

/-- **Outsiders are not noticed.** Take any run of the server in which some connections get nothing
granted of what they ask for, and leave out how it handles their requests: what is left is a run,
it ends with the same tables and the same sockets, and on every other connection it receives and
writes the same packets. -/
theorem outsiders_unnoticed (A : Server.App) (outside : Nat → Bool) {login pass : Str} {es : List Server.Event}
    {s : Server.State} (rejected : Runs.Along (Server.step A) (Rejected outside) (.init login pass) es)
    (run : Runs.exec (Server.step A) (.init login pass) es = some s) :
    ∃ t, Runs.exec (Server.step A) (.init login pass) (es.filter fun e => !concerns outside e) = some t ∧
      t.provider = s.provider ∧ t.clientList = s.clientList ∧ t.sockets = s.sockets ∧
      ∀ l, outside l = false → t.conns[l]? = s.conns[l]? ∧ onWire l t.log = onWire l s.log ∧
        Server.frames l t.log = Server.frames l s.log := by
  obtain ⟨_, run', conns, log, rfl, last⟩ := @Runs.exec_filter Server.State Server.State Server.Event (Server.step A)
    (Server.step A) (fun s t => ∃ conns log, t = { s with conns := conns, log := log } ∧ Unnoticed outside s conns log)
    (Rejected outside) (fun e => !concerns outside e)
    (by
      rintro s _ e m ⟨conns, log, rfl, h⟩ rejected out taken
      obtain ⟨same, next⟩ := unnoticed_skip h rejected (by simpa using out) taken
      exact ⟨conns, log, same.symm, next⟩)
    (by
      rintro s _ e m ⟨conns, log, rfl, h⟩ rejected other taken
      obtain ⟨conns', log', taken', next⟩ := unnoticed_follow h rejected (by simpa using other) taken
      exact ⟨_, taken', conns', log', rfl, next⟩)
    _ _ _ _ ⟨[], [], rfl, unnoticed_init login pass⟩ rejected run
  exact ⟨_, run', rfl, rfl, rfl, fun l inside => ⟨last.same l inside, last.wires l inside, last.frames l inside⟩⟩

/-- The second connection tries to log in under the id of the first, and to send a message under
an id that has no entry. -/
def intruding : List Server.Event :=
  [.accept 3 true, .accept 4 true, .emplace 0, .emplace 1,
    .recv 0 Server.blank (Server.whole (Server.loginPacket "7")), .call 0 Server.someChoice, .reply 0,
    .recv 1 Server.blank (Server.whole (Server.loginPacket "7")), .call 1 Server.someChoice,
    .recv 0 Server.blank (Server.whole (Server.messagePacket "7")), .call 0 Server.someChoice, .reply 1,
    .recv 1 Server.blank (Server.whole (Server.messagePacket "8")), .call 0 Server.someChoice, .call 1 Server.someChoice,
    .call 0 Server.someChoice, .reply 1, .reply 0]

/-- The first connection does not notice. -/
theorem outsiders_unnoticed_intruding :
    ∃ s t, Runs.exec (Server.step Server.App.compact) (.init (str "login") (str "pass")) intruding = some s ∧
      Runs.exec (Server.step Server.App.compact) (.init (str "login") (str "pass"))
        (intruding.filter fun e => !concerns (· = 1) e) = some t ∧
      (Server.frames 1 s.log).length = 2 ∧ (onWire 1 s.log).length = 2 ∧ (onWire 0 s.log).length = 3 ∧
      onWire 0 t.log = onWire 0 s.log ∧ t.provider = s.provider := by
  have rejected : Runs.Along (Server.step Server.App.compact) (Rejected (· = 1))
      (.init (str "login") (str "pass")) intruding := by decide +kernel
  obtain ⟨s, run, seen⟩ := Option.map_eq_some_iff.1
    (show (Runs.exec (Server.step Server.App.compact) (.init (str "login") (str "pass")) intruding).map (fun s =>
      ((Server.frames 1 s.log).length, (onWire 1 s.log).length, (onWire 0 s.log).length)) = some (2, 2, 3) by
        decide +kernel)
  obtain ⟨received, written, others⟩ : _ ∧ _ ∧ _ := by simpa only [Prod.mk.injEq] using seen
  obtain ⟨t, run', provider, _, _, same⟩ := outsiders_unnoticed Server.App.compact (· = 1) rejected run
  exact ⟨s, t, run, run', received, written, others, (same 0 rfl).2.1, provider⟩

end Gologin.Session
