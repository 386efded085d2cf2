import Gologin.Server.Attribution
import Gologin.Session.Rest

/-!
# What the windows show

A text that a user types goes to the server in a request, from a handler to the links of the
clients, and from a link to a window. Nothing else gets there: every line of every window is a
text that some user has sent, in the name of the one account of the server.
-/

namespace Gologin.Session
set_option autoImplicit false
open Calls Messages Tcp Auth Gui

/-- The output field of a window that has shown texts of `login`, each of them `typed`. -/
inductive Transcript (login : Str) (typed : Str → Prop) : Str → Prop where
  | nil : Transcript login typed []
  | line {shown text : Str} (before : Transcript login typed shown) (said : typed text) :
      Transcript login typed (shown ++ login ++ str ": " ++ text ++ str "\n")

/-! ## The handlers -/

section
variable (A : Server.App) (login : Str) (typed : Str → Prop)

/-- A packet of a message is about a text that was typed. -/
def Asks (packet : Packet) : Prop := ∀ r, A.request packet = some (.message r) → typed r.body

/-- A packet that tells of a text that was typed. -/
def Bears (J : Nlohmann) (packet : Packet) : Prop :=
  ∃ request, answer J packet = some (.message request) ∧ request.senderLogin = login ∧ typed request.body

/-- What a handler sends to others tells of such a text. -/
def CallBears (J : Nlohmann) : Server.Call → Prop
  | .sendTo _ cmd buff => Bears login typed J ⟨cmd, buff⟩
  | _ => True

/-- A program that tells of such texts only. -/
def Relays (J : Nlohmann) {α : Type} : Server.Handling α → Prop :=
  Program.Always (CallBears login typed J) (Server.AnswerNamed login) fun _ => True

variable {A login typed}

theorem broadcast_relays {body : Str} (said : typed body) {clients : List AuthClient}
    (named : ∀ c ∈ clients, c.login = login) : Relays login typed A.json (Server.broadcast A.json body clients) := by
  induction clients with
  | nil => trivial
  | cons c rest ih =>
    rw [Server.broadcast]
    cases packed : packerTo A.json (Server.clientRequest c body) with
    | none => trivial
    | some buff =>
      have first : CallBears login typed A.json (.sendTo c.cookie Commands.msg buff) :=
        ⟨Server.clientRequest c body, answer_message A.json packed, named c List.mem_cons_self, said⟩
      exact ⟨first, fun _ _ => ih fun c member => named c (List.mem_cons_of_mem _ member)⟩

/-- **What a handler sends to others** is the text of the request it handles. -/
theorem packetHandler_relays (cid : Nat) {packet : Packet} (asks : Asks A typed packet) :
    Relays login typed A.json (A.packetHandler cid packet) := by
  apply Server.packetHandler_calls A cid packet
  · intro call other
    cases call with
    | sendTo cookies cmd buff => exact absurd rfl (other cookies cmd buff)
    | _ => trivial
  · exact fun r taken clients named => broadcast_relays (asks r taken) named

end

/-! ## The windows -/

/-- Only a message is shown in the output field. -/
theorem outputField_output {c : Client} {act : UiAction} {st : UiStatus} {msg data : Str} (other : act ≠ .onRecv) :
    (c.output act st msg data).frame.outputField = c.frame.outputField := by
  cases act with
  | onRecv => exact absurd rfl other
  | _ => cases st <;> rfl

theorem outputField_tell {a : Answer} (other : ∀ request, a ≠ .message request) (c : Client) :
    (a.tell c).frame.outputField = c.frame.outputField := by
  cases a with
  | message request => exact absurd rfl (other request)
  | hello => rfl
  | messageReply | auth | bye =>
    unfold Answer.tell
    dsimp only
    split
    · exact outputField_output (by decide)
    · exact outputField_output (by decide)

/-- What is not a packet leaves the output field as it is. -/
theorem outputField_act {J : Nlohmann} {B : Gui.App J} {c c' : Client} {e : Gui.Event} {sent : List Packet}
    (acted : Gui.act B c e = some (c', sent)) (other : ∀ packet, e ≠ .receive packet) :
    c'.frame.outputField = c.frame.outputField := by
  cases act_cases acted with
  | report | unconnected => rfl
  | unheard clickable up =>
    rename_i _ result n _ _ _
    change (c.connect result n).frame.outputField = _
    exact congrArg Frame.outputField (connect_frame c result n).1
  | hello clickable up packed =>
    rename_i _ result n _ _
    exact (outputField_output (by decide)).trans (congrArg Frame.outputField (connect_frame c result n).1)
  | disconnect clickable down =>
    refine (outputField_output (by decide)).trans ?_
    unfold Client.disconnect
    split <;> rfl
  | login | logout | send => exact outputField_output (by decide)
  | receive up => exact absurd rfl (other _)

/-! ## The world -/

/-- What the texts come by: the requests on the links, what the handlers will send, what was put
on the links, and the windows. -/
structure Chatting (A : Server.App) (login : Str) (typed : Str → Prop) (w : World) : Prop where
  asks : ∀ l, ∀ packet ∈ (w.links l).requests, Asks A typed packet
  threads : ∀ (c : Nat) (conn : Server.Conn) program, w.server.conns[c]? = some conn →
    conn.phase = .handling program → Relays login typed A.json program
  delivered : ∀ l, ∀ packet ∈ onWire l w.server.log, (∃ r, Tells A.json packet r) ∨ Bears login typed A.json packet
  windows : ∀ k, Transcript login typed (w.clients k).frame.outputField

section
variable {A : Server.App} {B : Gui.App A.json} {login pass : Str} {typed : Str → Prop} {w w' : World}

/-- What a client sends asks for the text that it was given. -/
theorem asks_act {c c' : Client} {e : Gui.Event} {sent : List Packet} (acted : Gui.act B c e = some (c', sent))
    (said : ∀ text, e = .send text true → typed text) : ∀ packet ∈ sent, Asks A typed packet := by
  intro packet member r taken
  cases act_cases acted with
  | hello clickable up packed =>
    obtain rfl := List.mem_singleton.1 member
    cases (request_hello packed).symm.trans taken
  | login clickable packed =>
    obtain rfl := List.mem_singleton.1 member
    cases (request_login packed).symm.trans taken
  | logout clickable packed =>
    obtain rfl := List.mem_singleton.1 member
    cases (request_logout packed).symm.trans taken
  | send clickable packed =>
    obtain rfl := List.mem_singleton.1 member
    cases (request_message packed).symm.trans taken
    exact said _ rfl
  | _ => cases member

/-- A packet that is read adds a line, or nothing. -/
theorem Chatting.shows (h : Chatting A login typed w) {k l : Nat} {packet : Packet}
    (next : (w.unread l).head? = some packet) :
    Transcript login typed ((w.clients k).receive B packet).frame.outputField := by
  have member : packet ∈ onWire l w.server.log :=
    List.mem_reverse.1 (List.mem_of_mem_drop (List.mem_of_mem_head? next))
  rcases h.delivered l packet member with ⟨r, tells⟩ | ⟨request, read, rfl, said⟩
  · obtain ⟨a, read, one⟩ := tells.read
    rw [receive_of_answer B read, outputField_tell]
    · exact h.windows k
    · rintro request rfl
      cases one
  · rw [receive_of_answer B read]
    exact .line (h.windows k) said

theorem chatting_client (h : Chatting A login typed w) {k : Nat} {e : Gui.Event} {c : Client} {sent : List Packet}
    (admitted : w.Admits (w.clients k) e) (acted : Gui.act B (w.clients k) e = some (c, sent))
    (said : ∀ text, e = .send text true → typed text) : Chatting A login typed (w.after k e c sent) := by
  refine ⟨?_, h.threads, h.delivered, fun j => ?_⟩
  · intro l packet member
    rw [links_after] at member
    split at member
    · rcases List.mem_append.1 member with old | new
      · exact h.asks l packet old
      · exact asks_act acted said packet new
    · exact h.asks l packet member
  · rcases @clients_after w k e c sent j with ⟨rfl, same⟩ | ⟨_, same⟩
    · rw [same]
      cases e with
      | receive packet =>
        obtain ⟨_, rfl, l, _, next⟩ := reads_cases admitted acted
        exact h.shows next
      | _ =>
        rw [outputField_act acted nofun]
        exact h.windows j
    · rw [same]
      exact h.windows j

theorem chatting_receive (h : Chatting A login typed w) (grounded : Grounded A login pass w) {c : Nat} {stack : Stack}
    {packet : Packet} {rest : List Packet} {server : Server.State} (first : (w.links c).requests = packet :: rest)
    (taken : Server.step A w.server (.recv c stack (Server.whole packet)) = some server)
    (handles : Handles server (.recv c stack (Server.whole packet))) :
    Chatting A login typed (w.take c rest server) := by
  have here : packet ∈ (w.links c).requests := first ▸ List.mem_cons_self
  obtain ⟨handle, socket, entries, _, conns, _, log, none⟩ := receive_cases taken handles (grounded.queued c packet here)
  refine ⟨?_, ?_, ?_, h.windows⟩
  · intro l p member
    rw [links_take] at member
    split at member
    · exact h.asks c p (first ▸ List.mem_cons_of_mem packet member)
    · exact h.asks l p member
  · intro d conn program found phase
    change server.conns[d]? = _ at found
    rw [conns] at found
    rcases Server.conns_set found with ⟨_, rfl⟩ | ⟨_, old⟩
    · cases phase
      exact packetHandler_relays handle (h.asks c packet here)
    · exact h.threads d conn program old phase
  · intro l p member
    change p ∈ onWire l server.log at member
    rw [log, onWire_append, none, List.nil_append] at member
    exact h.delivered l p member

theorem chatting_beat (h : Chatting A login typed w) (grounded : Grounded A login pass w) {server : Server.State}
    (beat : Beat w.server server) : Chatting A login typed { w with server := server } := by
  have kept {c : Nat} {new : Server.Conn} (conns : server.conns = w.server.conns.set c new)
      (relays : ∀ program, new.phase = .handling program → Relays login typed A.json program) (d : Nat)
      (conn : Server.Conn) (program : Server.Handling Packet) (found : server.conns[d]? = some conn)
      (phase : conn.phase = .handling program) : Relays login typed A.json program := by
    rw [conns] at found
    rcases Server.conns_set found with ⟨_, rfl⟩ | ⟨_, old⟩
    · exact relays program phase
    · exact h.threads d conn program old phase
  have more {entries : List Server.Entry} (log : server.log = entries ++ w.server.log)
      (good : ∀ l, ∀ packet ∈ onWire l entries, (∃ r, Tells A.json packet r) ∨ Bears login typed A.json packet) (l : Nat)
      (packet : Packet) (member : packet ∈ onWire l server.log) :
      (∃ r, Tells A.json packet r) ∨ Bears login typed A.json packet := by
    rw [log, onWire_append, List.mem_append] at member
    exact member.elim (good l packet) (h.delivered l packet)
  cases beat with
  | accept started conns provider log =>
    refine ⟨h.asks, fun d conn program found phase => ?_, fun l packet member => ?_, h.windows⟩
    · change server.conns[d]? = _ at found
      rw [conns] at found
      rcases Server.conns_append found with ⟨_, rfl⟩ | old
      · cases started.symm.trans phase
      · exact h.threads d conn program old phase
    · exact h.delivered l packet (log ▸ member)
  | idle here conns before behind provider log none =>
    refine ⟨h.asks, kept conns fun program phase => absurd phase (behind program), more log ?_, h.windows⟩
    intro l packet member
    rw [none l] at member
    cases member
  | call here conns provider log =>
    obtain ⟨bears, rest⟩ := h.threads _ _ _ here rfl
    refine ⟨h.asks, kept conns ?_, @more (_ :: _) log fun l packet member => ?_, h.windows⟩
    · intro program phase
      cases phase
      exact rest _ (Server.outcome_named grounded.sound.good grounded.credentials.1 _ _ _)
    · right
      rcases mem_onWire (show packet ∈ onWire l (w.server.outcome _ _ _).2.2 from member) with
        ⟨_, _, wrote⟩ | ⟨_, wrote⟩
      · obtain ⟨_, _, _, _, _, _, rfl, _, _, _, same⟩ := Server.mem_outcome wrote
        obtain ⟨_, _, _, rfl⟩ := Server.Entry.wrote.inj same
        exact bears
      · obtain ⟨_, _, _, _, _, _, _, _, _, _, same⟩ := Server.mem_outcome wrote
        cases same
  | reply here conns provider log =>
    rw [grounded.held.reply grounded.sockets here] at log
    refine ⟨h.asks, kept conns nofun, more log fun l packet member => ?_, h.windows⟩
    split at member
    · cases member
    · rename_i full
      left
      unfold onWire at member
      split at member
      · obtain rfl := List.mem_singleton.1 member
        rcases grounded.threads _ _ _ here rfl with ⟨silent | tells⟩
        · exact absurd silent full
        · exact tells
      · cases member

/-- Every step keeps what the texts come by. -/
theorem chatting_step (h : Chatting A login typed w) (grounded : Grounded A login pass w) {e : Event}
    (said : ∀ k text, e = .client k (.send text true) → typed text) (taken : step A B w e = some w') :
    Chatting A login typed w' := by
  cases step_cases taken with
  | client admitted acted carried =>
    exact chatting_client h admitted acted fun text same => said _ text (congrArg _ same)
  | receive first done handles => exact chatting_receive h grounded first done handles
  | server done accepts quiet =>
    refine chatting_beat h grounded (beat_of_step done ?_ quiet)
    rintro handle rfl
    exact absurd (accepts handle false rfl).1 nofun

theorem chatting_init (A : Server.App) (login pass : Str) (typed : Str → Prop) (clientIds : Nat → UInt64) :
    Chatting A login typed (.init login pass clientIds) :=
  ⟨nofun, nofun, nofun, fun _ => .nil⟩

/-- **Nothing is shown that nobody has sent.** In every run, every line of every window is in the
name of the account of the server, and its text was sent by some user before. -/
theorem windows_authentic {clientIds : Nat → UInt64} {es : List Event}
    (run : Runs.exec (step A B) (.init login pass clientIds) es = some w) (k : Nat) :
    Transcript login (fun text => ∃ j, .client j (.send text true) ∈ es) (w.clients k).frame.outputField := by
  have keep : ∀ v e v', Grounded A login pass v ∧
      Chatting A login (fun text => ∃ j, .client j (.send text true) ∈ es) v → e ∈ es → step A B v e = some v' →
      Grounded A login pass v' ∧ Chatting A login (fun text => ∃ j, .client j (.send text true) ∈ es) v' := by
    rintro v e v' ⟨grounded, chatting⟩ member taken
    exact ⟨grounded_step grounded taken, chatting_step chatting grounded (fun j text same => ⟨j, same ▸ member⟩) taken⟩
  exact (Runs.exec_guarded keep ⟨grounded_init A login pass clientIds, chatting_init A login pass _ clientIds⟩
    (Runs.along_of_forall (fun _ => id) _) run).2.windows k

def hiPacket : Packet :=
  ⟨Commands.msg, str "\x7b\"body\":\"hi\",\"command\":\"message\",\"id\":7,\"session\":\"aaaaaaaaaaaaaaaaaaaaaaaaaaaaaaaa\"\x7d"⟩

def hiBroadcast : Packet :=
  ⟨Commands.msg, str ("\x7b\"body\":\"hi\",\"command\":\"message\",\"id\":7,\"sender_login\":\"login\"," ++
    "\"session\":\"aaaaaaaaaaaaaaaaaaaaaaaaaaaaaaaa\"\x7d")⟩

/-- A client that is logged in sends `hi`, and reads it. -/
def saysHi : List Event :=
  rightLogin ++ [.client 0 (.send (str "hi") true), .server (.recv 0 Server.blank (Server.whole hiPacket)),
    .server (.call 0 Server.someChoice), .server (.call 0 Server.someChoice), .server (.call 0 Server.someChoice),
    .client 0 (.receive hiBroadcast)]

/-- It is shown. -/
theorem windows_authentic_hi :
    ∃ w, ran saysHi = some w ∧ (w.clients 0).frame.outputField = str "login: hi\n" ∧
      Transcript (str "login") (fun text => ∃ j, .client j (.send text true) ∈ saysHi) (w.clients 0).frame.outputField := by
  obtain ⟨w, run, shown⟩ := Option.map_eq_some_iff.1
    (show (ran saysHi).map (fun w => (w.clients 0).frame.outputField) = some (str "login: hi\n") by decide +kernel)
  exact ⟨w, run, shown, windows_authentic run 0⟩

end

end Gologin.Session
