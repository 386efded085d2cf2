import Gologin.Session.World
import Gologin.Session.Meaning

/-!
# The server, as its clients see it

What is under way on each link, and which ids have an entry. Behind its threads, calls and
sockets a step of the server is seen as nothing, or as one request of one link being served
(`served`).
-/

namespace Gologin.Session
set_option autoImplicit false
open Calls Messages Tcp Auth Tables

/-- What is under way on a link, and what its client has read. -/
@[ext] structure Wire where
  asked : List Ask
  told : List Reply
  heard : List Reply

/-- The request at the head of a link is served. -/
inductive Serve (entry : UInt64 → Option Str) (x : Wire) : (UInt64 → Option Str) → Wire → Prop where
  | greet {as : List Ask} (first : x.asked = .hello :: as) :
      Serve entry x entry { x with asked := as, told := x.told ++ [.hello] }
  | message {as : List Ask} (first : x.asked = .message :: as) {replies : List Reply}
      (one : replies = [] ∨ replies = [.message]) :
      Serve entry x entry { x with asked := as, told := x.told ++ replies }
  | accept {as : List Ask} {id : UInt64} (first : x.asked = .login id true :: as) (none : entry id = none)
      (session : Str) :
      Serve entry x (Function.update entry id (some session))
        { x with asked := as, told := x.told ++ [.login true session] }
  | refuse {as : List Ask} {id : UInt64} {right : Bool} (first : x.asked = .login id right :: as)
      (refused : right = false ∨ (entry id).isSome = true) :
      Serve entry x entry { x with asked := as, told := x.told ++ [.login false []] }
  | remove {as : List Ask} {id : UInt64} (first : x.asked = .logout id :: as) :
      Serve entry x (Function.update entry id none)
        { x with asked := as, told := x.told ++ [.logout (entry id).isSome] }

section
variable (A : Server.App) (login pass : Str)

/-- What a thread has in hand. -/
def doing : Server.Phase → List Ask × List Reply
  | .handling program => inHand login pass A.json program
  | _ => ([], [])

namespace World

def handed (w : World) (l : Nat) : List Ask × List Reply :=
  match w.server.conns[l]? with
  | some conn => doing A login pass conn.phase
  | none => ([], [])

/-- A link, as its client sees it: what the server has in hand is still asked for, or as good
as told. -/
def wire (w : World) (l : Nat) : Wire where
  asked := (w.handed A login pass l).1 ++ (w.links l).requests.flatMap (asks login pass A)
  told := (w.unread l).flatMap (replies A.json) ++ (w.handed A login pass l).2
  heard := (w.read l).flatMap (replies A.json)

/-- The session of the provider's entry. -/
def entry (w : World) (id : UInt64) : Option Str := (w.server.provider.clients.lookup id).map AuthClient.session

end World

/-- What the world keeps of the server. -/
structure Grounded (w : World) : Prop where
  sound : Server.Sound A w.server
  sockets : Server.Sockets w.server
  held : Server.Held w.server
  credentials : w.server.provider.clientLogin = login ∧ w.server.provider.clientPass = pass
  threads : ∀ (l : Nat) (conn : Server.Conn) program, w.server.conns[l]? = some conn →
    conn.phase = .handling program → Orderly A.json program
  queued : ∀ l, ∀ packet ∈ (w.links l).requests, Requested A packet
  written : ∀ l, ∀ packet ∈ onWire l w.server.log, l < w.server.conns.length ∧ ∃ a, Gui.answer A.json packet = some a
  received : ∀ l, (w.links l).received ≤ (onWire l w.server.log).length
  accepted : w.server.conns.length ≤ w.opened
  unopened : ∀ l, w.opened ≤ l → w.links l = {}
  linked : ∀ k l, (w.clients k).link = some l → l < w.opened

end

/-! ## Steps of the server -/

theorem scripted_data (len : Nat) (got : List UInt8) (rest : List RecvResult) :
    Server.scripted len (.data got :: rest) =
      if got ≠ [] ∧ got.length ≤ len then some (.data got, rest) else none := rfl

/-- A request that is received whole is the request. -/
theorem recv_requested {A : Server.App} {packet : Packet} (requested : Requested A packet) {header header' : PacketHeader}
    {buff : Buffer} (received : ServerClient.recv Server.scripted header (Server.whole packet) =
      some (.packet header' buff, [])) (beyond : List UInt8) :
    (⟨header'.command beyond, buff⟩ : Packet) = packet := by
  have len := headerBytes_length packet.body.length requested.room
  have filled : header.fill (headerBytes packet.cmd packet.body.length) =
      packetHeader packet.cmd packet.body.length requested.room :=
    PacketHeader.mk.injEq _ _ _ _ ▸ header.fill_whole len
  have some_header : headerBytes packet.cmd packet.body.length ≠ [] := List.ne_nil_of_length_pos (by omega)
  unfold ServerClient.recv recvWith Server.whole at received
  rw [scripted_data, if_pos ⟨some_header, Nat.le_of_eq len⟩, Option.bind_some] at received
  simp only [ServerClient.headerRead, filled, checkSize] at received
  by_cases zero : (packetHeader packet.cmd packet.body.length requested.room).size = 0
  · simp only [if_pos zero] at received
    cases received
  · simp only [if_neg zero, scripted_data] at received
    split at received
    · rename_i fits
      have small : (packetHeader packet.cmd packet.body.length requested.room).size < 256 ^ 4 := by
        refine Nat.lt_of_lt_of_le (Bytes.leVal_lt _) (Nat.pow_le_pow_right (by omega) ?_)
        rw [List.length_take]
        omega
      have size := @packetHeader_size packet.cmd packet.body.length requested.room (by omega)
      simp only [Option.map_some, bodyRead, size, Nat.sub_self, List.replicate_zero, List.append_nil,
        Option.some.injEq, Prod.mk.injEq, RecvReturn.packet.injEq, and_true] at received
      obtain ⟨rfl, rfl⟩ := received
      rw [packetHeader_command requested.room requested.free]
    · cases received

/-- The steps of the server but a `recv` that leads to a handler. -/
inductive Beat (s s' : Server.State) : Prop where
  | accept {conn : Server.Conn} (started : conn.phase = .started) (conns : s'.conns = s.conns ++ [conn])
      (provider : s'.provider = s.provider) (log : s'.log = s.log)
  | idle {c : Nat} {old new : Server.Conn} {entries : List Server.Entry} (here : s.conns[c]? = some old)
      (conns : s'.conns = s.conns.set c new) (before : ∀ program, old.phase ≠ .handling program)
      (behind : ∀ program, new.phase ≠ .handling program) (provider : s'.provider = s.provider)
      (log : s'.log = entries ++ s.log) (none : ∀ l, onWire l entries = [])
  | call {c handle : Nat} {socket : Option Nat} {choice : Server.Choice} {call : Server.Call}
      {next : call.Answer → Server.Handling Packet}
      (here : s.conns[c]? = some ⟨handle, socket, .handling (.call call next)⟩)
      (conns : s'.conns = s.conns.set c ⟨handle, socket, .handling (next (s.outcome c choice call).1)⟩)
      (provider : s'.provider = (s.outcome c choice call).2.1)
      (log : s'.log = .called c call (s.outcome c choice call).1 :: ((s.outcome c choice call).2.2 ++ s.log))
  | reply {c handle : Nat} {socket : Option Nat} {packet : Packet}
      (here : s.conns[c]? = some ⟨handle, socket, .handling (.done packet)⟩)
      (conns : s'.conns = s.conns.set c ⟨handle, socket, .receiving⟩) (provider : s'.provider = s.provider)
      (log : s'.log = (s.send ⟨handle, socket, .handling (.done packet)⟩ packet fun on => .replied c on packet).2
        ++ s.log)

theorem beat_of_step {A : Server.App} {s s' : Server.State} {e : Server.Event} (taken : Server.step A s e = some s')
    (alive : ∀ handle, e ≠ .accept handle false) (quiet : ¬ Handles s' e) : Beat s s' := by
  cases Server.step_cases taken with
  | accept fresh => exact .accept rfl rfl rfl rfl
  | refuse fresh => exact absurd rfl (alive _)
  | packet here received => exact absurd ⟨_, _, _, Server.conns_set_self here _⟩ quiet
  | emplace here => exact @Beat.idle _ _ _ _ _ [] here rfl nofun nofun rfl rfl fun _ => rfl
  | refused here received => exact .idle here rfl nofun nofun rfl rfl fun l => onWire_reads l _ _ _
  | call here => exact .call here rfl rfl rfl
  | reply here => exact .reply here rfl rfl rfl
  | disconnect here => exact @Beat.idle _ _ _ _ _ [.closed _ _] here rfl nofun nofun rfl rfl fun _ => rfl
  | disconnected here => exact @Beat.idle _ _ _ _ _ [] here rfl nofun nofun rfl rfl fun _ => rfl
  | invalidate here => exact @Beat.idle _ _ _ _ _ [] here rfl nofun nofun rfl rfl fun _ => rfl
  | erase here => exact @Beat.idle _ _ _ _ _ [] here rfl nofun nofun rfl rfl fun _ => rfl
  | destroy here => exact @Beat.idle _ _ _ _ _ [.closed _ _] here rfl nofun nofun rfl rfl fun _ => rfl
  | finish here => exact @Beat.idle _ _ _ _ _ [] here rfl nofun nofun rfl rfl fun _ => rfl

section
variable {A : Server.App} {login pass : Str} {w w' : World}

/-- What more the server has put on a link is unread. -/
theorem read_append {entries : List Server.Entry} (log : w'.server.log = entries ++ w.server.log) {l : Nat}
    (same : (w'.links l).received = (w.links l).received)
    (received : (w.links l).received ≤ (onWire l w.server.log).length) :
    w'.unread l = w.unread l ++ (onWire l entries).reverse ∧ w'.read l = w.read l := by
  have fits : (w.links l).received ≤ (onWire l w.server.log).reverse.length := by
    rw [List.length_reverse]
    exact received
  unfold World.unread World.read World.delivered
  rw [log, onWire_append, List.reverse_append, same]
  exact ⟨List.drop_append_of_le_length fits, List.take_append_of_le_length fits⟩

theorem handed_set {c : Nat} {old new : Server.Conn} (here : w.server.conns[c]? = some old)
    (conns : w'.server.conns = w.server.conns.set c new) (l : Nat) :
    w'.handed A login pass l = if l = c then doing A login pass new.phase else w.handed A login pass l := by
  unfold World.handed
  rw [conns]
  by_cases same : l = c
  · subst same
    rw [if_pos rfl, Server.conns_set_self here]
  · rw [if_neg same, List.getElem?_set_ne (Ne.symm same)]

theorem handed_here {c : Nat} {conn : Server.Conn} (here : w.server.conns[c]? = some conn) :
    w.handed A login pass c = doing A login pass conn.phase := by
  unfold World.handed
  rw [here]

theorem doing_out {phase : Server.Phase} (out : ∀ program, phase ≠ .handling program) :
    doing A login pass phase = ([], []) := by
  cases phase with
  | handling program => exact absurd rfl (out program)
  | _ => rfl

/-- A link on which nothing happens. -/
theorem wire_same {l : Nat} {entries : List Server.Entry} (handed : w'.handed A login pass l = w.handed A login pass l)
    (links : w'.links l = w.links l) (log : w'.server.log = entries ++ w.server.log)
    (received : (w.links l).received ≤ (onWire l w.server.log).length)
    (none : ∀ packet ∈ onWire l entries, replies A.json packet = []) :
    w'.wire A login pass l = w.wire A login pass l := by
  obtain ⟨unread, read⟩ := read_append log (congrArg Link.received links) received
  have empty : (onWire l entries).reverse.flatMap (replies A.json) = [] := by
    rw [List.flatMap_eq_nil_iff]
    exact fun packet member => none packet (List.mem_reverse.1 member)
  unfold World.wire
  rw [handed, links, unread, read, List.flatMap_append, empty, List.append_nil]

/-- What the clients see of a step: nothing, or a request that is served. -/
def Served (A : Server.App) (login pass : Str) (w w' : World) : Prop :=
  (w'.entry = w.entry ∧ ∀ l, w'.wire A login pass l = w.wire A login pass l) ∨
    ∃ l, (∀ l', l' ≠ l → w'.wire A login pass l' = w.wire A login pass l') ∧
      Serve w.entry (w.wire A login pass l) w'.entry (w'.wire A login pass l)

theorem entry_same (provider : w'.server.provider = w.server.provider) : w'.entry = w.entry := by
  unfold World.entry
  rw [provider]

/-- A step of one connection by which nothing is served. -/
theorem Grounded.unserved (h : Grounded A login pass w) {c : Nat} {old new : Server.Conn} {entries : List Server.Entry}
    (here : w.server.conns[c]? = some old) (conns : w'.server.conns = w.server.conns.set c new)
    (links : w'.links = w.links) (entry : w'.entry = w.entry) (log : w'.server.log = entries ++ w.server.log)
    (none : ∀ l, ∀ packet ∈ onWire l entries, replies A.json packet = [])
    (same : doing A login pass new.phase = doing A login pass old.phase) : Served A login pass w w' := by
  refine Or.inl ⟨entry, fun l => wire_same ?_ (congrFun links l) log (h.received l) (none l)⟩
  rw [handed_set here conns]
  split
  · rename_i at_
    rw [at_, same, handed_here here]
  · rfl

/-- A step of one connection by which what its thread has in hand is served. -/
theorem Grounded.serves (h : Grounded A login pass w) {c : Nat} {old new : Server.Conn} {entries : List Server.Entry}
    (here : w.server.conns[c]? = some old) (conns : w'.server.conns = w.server.conns.set c new)
    (links : w'.links = w.links) (log : w'.server.log = entries ++ w.server.log)
    (none : ∀ l, ∀ packet ∈ onWire l entries, replies A.json packet = []) {a : Ask} {rs : List Reply}
    (before : doing A login pass old.phase = ([a], [])) (behind : doing A login pass new.phase = ([], rs))
    (serve : ∀ x as, x.asked = a :: as → Serve w.entry x w'.entry { x with asked := as, told := x.told ++ rs }) :
    Served A login pass w w' := by
  right
  refine ⟨c, fun l other => ?_, ?_⟩
  · refine wire_same ?_ (congrFun links l) log (h.received l) (none l)
    rw [handed_set here conns, if_neg other]
  · obtain ⟨unread, read⟩ := read_append log (congrArg Link.received (congrFun links c)) (h.received c)
    have empty : (onWire c entries).reverse.flatMap (replies A.json) = [] := by
      rw [List.flatMap_eq_nil_iff]
      exact fun packet member => none c packet (List.mem_reverse.1 member)
    have first : (w.wire A login pass c).asked = a :: (w.links c).requests.flatMap (asks login pass A) := by
      unfold World.wire
      rw [handed_here here, before]
      rfl
    have same : w'.wire A login pass c =
        { w.wire A login pass c with
          asked := (w.links c).requests.flatMap (asks login pass A), told := (w.wire A login pass c).told ++ rs } := by
      unfold World.wire
      rw [handed_set here conns, if_pos rfl, handed_here here, before, behind, links, unread, read,
        List.flatMap_append, empty, List.append_nil]
      simp only [List.nil_append]
    rw [same]
    exact serve _ _ first

/-- What a plain call writes is no reply. -/
theorem outcome_plain {s : Server.State} {c : Nat} {choice : Server.Choice} {call : Server.Call}
    (plain : Plain A.json call) :
    (s.outcome c choice call).2.1 = s.provider ∧
      ∀ l, ∀ packet ∈ onWire l (s.outcome c choice call).2.2,
        ∃ request, Gui.answer A.json packet = some (.message request) := by
  constructor
  · cases call with
    | addClient | remClient => exact plain.elim
    | statusClient | getClients | sendTo => rfl
  · intro l packet member
    rcases Server.outcome_cases s c choice call with empty | ⟨_, cmd, buff, _, _, handle, rfl, _, _, _, one⟩
    · rw [empty] at member
      cases member
    · rw [one] at member
      unfold onWire at member
      split at member
      · obtain rfl := List.mem_singleton.1 member
        exact plain
      · cases member

theorem replies_message {packet : Packet} {request : Messages.Server.MsgRequest}
    (read : Gui.answer A.json packet = some (.message request)) : replies A.json packet = [] := by
  unfold replies
  rw [read]
  rfl

theorem entry_insert {id : UInt64} {client : AuthClient}
    (clients : w'.server.provider.clients = w.server.provider.clients.insert id client) :
    w'.entry = Function.update w.entry id (some client.session) := by
  funext i
  unfold World.entry
  rw [clients]
  by_cases same : i = id
  · subst same
    rw [AList.lookup_insert, Function.update_self]
    rfl
  · rw [AList.lookup_insert_ne same, Function.update_of_ne same]

theorem entry_erase {id : UInt64}
    (clients : w'.server.provider.clients = w.server.provider.clients.erase id) :
    w'.entry = Function.update w.entry id none := by
  funext i
  unfold World.entry
  rw [clients]
  by_cases same : i = id
  · subst same
    rw [AList.lookup_erase, Function.update_self]
    rfl
  · rw [AList.lookup_erase_ne same, Function.update_of_ne same]

theorem entry_isSome {id : UInt64} : (w.entry id).isSome = true ↔ id ∈ w.server.provider.clients := by
  unfold World.entry
  rw [Option.isSome_map, AList.lookup_isSome]

theorem entry_none {id : UInt64} : w.entry id = none ↔ id ∉ w.server.provider.clients := by
  unfold World.entry
  rw [Option.map_eq_none_iff, AList.lookup_eq_none]

/-- A thread has its call answered. -/
structure Answered (w w' : World) (c : Nat) (call : Server.Call) (next : call.Answer → Server.Handling Packet)
    (answer : call.Answer) (provider : Provider) (entries : List Server.Entry) : Prop where
  here : ∃ handle socket, w.server.conns[c]? = some ⟨handle, socket, .handling (.call call next)⟩ ∧
    w'.server.conns = w.server.conns.set c ⟨handle, socket, .handling (next answer)⟩
  provider : w'.server.provider = provider
  links : w'.links = w.links
  log : w'.server.log = (.called c call answer :: entries) ++ w.server.log

section
variable {c : Nat} {choice : Server.Choice}

/-- The last call of a program serves what it has in hand. -/
theorem Grounded.ends (h : Grounded A login pass w) {call : Server.Call} {next : call.Answer → Server.Handling Packet}
    {answer : call.Answer} {provider : Provider} {entries : List Server.Entry}
    (answered : Answered w w' c call next answer provider entries)
    (none : ∀ l, ∀ packet ∈ onWire l entries, replies A.json packet = []) {packet : Packet}
    (last : next answer = .done packet) {a : Ask} {rs : List Reply}
    (before : inHand login pass A.json (.call call next) = ([a], []))
    (behind : inHand login pass A.json (.done packet) = ([], rs))
    (serve : ∀ x as, x.asked = a :: as → Serve w.entry x w'.entry { x with asked := as, told := x.told ++ rs }) :
    Served A login pass w w' := by
  obtain ⟨handle, socket, here, conns⟩ := answered.here
  rw [last] at conns
  exact h.serves here conns answered.links answered.log none before behind serve

theorem outcome_addClient {s : Server.State} {id : UInt64} {cookies : ClientCookies} {l p session : Str}
    {status : ClientStatus} {provider : Provider}
    (same : s.provider.addClient choice.draw id cookies l p [] = (status, session, provider)) :
    s.outcome c choice (.addClient id cookies l p []) = ((status, session), provider, []) := by
  simp only [Server.State.outcome, same]
  rfl

theorem outcome_remClient {s : Server.State} {id : UInt64} {session : Str} {status : ClientStatus} {provider : Provider}
    (same : s.provider.remClient id session = (status, provider)) :
    s.outcome c choice (.remClient id session) = (status, provider, []) := by
  simp only [Server.State.outcome, same]
  rfl

theorem Grounded.logs_in (h : Grounded A login pass w) {id : UInt64} {cookies : ClientCookies} {l p : Str}
    {next : ClientStatus × Str → Server.Handling Packet}
    (tells : ∀ status session, Utf8.valid session = true → ∃ packet, next (status, session) = .done packet ∧
      Tells A.json packet (.login (decide (status = .accepted)) session))
    (answered : Answered w w' c (.addClient id cookies l p []) next
      (w.server.outcome c choice (.addClient id cookies l p [])).1
      (w.server.outcome c choice (.addClient id cookies l p [])).2.1
      (w.server.outcome c choice (.addClient id cookies l p [])).2.2) : Served A login pass w w' := by
  rcases @Provider.addClient_cases w.server.provider id choice.draw cookies l p [] with
    ⟨right, absent, same⟩ | ⟨right, present, same⟩ | ⟨wrong, same⟩
  · rw [outcome_addClient same] at answered
    obtain ⟨packet, last, tell⟩ := tells .accepted ([] ++ choice.draw.session) choice.draw.session_utf8
    have right' : l = login ∧ p = pass := ⟨right.1.trans h.credentials.1, right.2.trans h.credentials.2⟩
    have before : inHand login pass A.json (.call (.addClient id cookies l p []) next) = ([.login id true], []) := by
      change ([Ask.login id (decide (l = login ∧ p = pass))], []) = ([Ask.login id true], ([] : List Reply))
      rw [decide_eq_true right']
    refine h.ends answered nofun last before (inHand_tells tell) fun x as first => ?_
    rw [entry_insert (congrArg Provider.clients answered.provider)]
    exact .accept first (entry_none.2 absent) _
  · rw [outcome_addClient same] at answered
    obtain ⟨packet, last, tell⟩ := tells .removed [] rfl
    refine h.ends answered nofun last rfl (inHand_tells tell) fun x as first => ?_
    rw [entry_same answered.provider]
    exact .refuse first (Or.inr (entry_isSome.2 present))
  · rw [outcome_addClient same] at answered
    obtain ⟨packet, last, tell⟩ := tells .rejected [] rfl
    have wrong' : ¬ (l = login ∧ p = pass) := fun right =>
      wrong ⟨right.1.trans h.credentials.1.symm, right.2.trans h.credentials.2.symm⟩
    refine h.ends answered nofun last rfl (inHand_tells tell) fun x as first => ?_
    rw [entry_same answered.provider]
    exact .refuse first (Or.inl (decide_eq_false wrong'))

theorem Grounded.logs_out (h : Grounded A login pass w) {id : UInt64} {session : Str}
    {next : ClientStatus → Server.Handling Packet}
    (tells : ∀ status, ∃ packet, next status = .done packet ∧
      Tells A.json packet (.logout (decide (status = .removed))))
    (answered : Answered w w' c (.remClient id session) next
      (w.server.outcome c choice (.remClient id session)).1
      (w.server.outcome c choice (.remClient id session)).2.1
      (w.server.outcome c choice (.remClient id session)).2.2) : Served A login pass w w' := by
  by_cases present : id ∈ w.server.provider.clients
  · rw [outcome_remClient (Provider.remClient_of_mem present session)] at answered
    obtain ⟨packet, last, tell⟩ := tells .removed
    refine h.ends answered nofun last rfl (inHand_tells tell) fun x as first => ?_
    rw [entry_erase (congrArg Provider.clients answered.provider)]
    have removed := @Serve.remove w.entry x as id first
    rw [entry_isSome.2 present] at removed
    exact removed
  · rw [outcome_remClient (Provider.remClient_of_not_mem present session)] at answered
    obtain ⟨packet, last, tell⟩ := tells .notFound
    refine h.ends answered nofun last rfl (inHand_tells tell) fun x as first => ?_
    have none := entry_none.2 present
    have removed := @Serve.remove w.entry x as id first
    rw [none, Function.update_eq_iff.2 ⟨none.symm, fun _ _ => rfl⟩] at removed
    rw [entry_same answered.provider]
    exact removed

theorem Grounded.messages (h : Grounded A login pass w) {call : Server.Call} {next : call.Answer → Server.Handling Packet}
    (always : Program.Always (Plain A.json) Server.AnswerOk (fun packet => Silent packet ∨ Tells A.json packet .message)
      (.call call next))
    (answered : Answered w w' c call next (w.server.outcome c choice call).1 (w.server.outcome c choice call).2.1
      (w.server.outcome c choice call).2.2) : Served A login pass w w' := by
  obtain ⟨plain, rest⟩ := always
  obtain ⟨same, silent⟩ := @outcome_plain A w.server c choice call plain
  have ok : Server.CallOk call := by
    cases call with
    | addClient => exact plain.elim
    | _ => trivial
  have entry := entry_same (answered.provider.trans same)
  have none : ∀ l, ∀ packet ∈ onWire l (w.server.outcome c choice call).2.2, replies A.json packet = [] := by
    intro l packet member
    obtain ⟨request, read⟩ := silent l packet member
    exact replies_message read
  have behind := rest _ (Server.outcome_ok h.sound.good c choice ok).2
  cases program : next (w.server.outcome c choice call).1 with
  | done packet =>
    rw [program] at behind
    have serve : ∀ rs, (rs = [] ∨ rs = [.message]) → ∀ x as, x.asked = .message :: as →
        Serve w.entry x w'.entry { x with asked := as, told := x.told ++ rs } := by
      intro rs one x as first
      rw [entry]
      exact .message first one
    rcases behind with quiet | tells
    · exact h.ends answered none program (inHand_plain plain next) (inHand_silent quiet) (serve _ (Or.inl rfl))
    · exact h.ends answered none program (inHand_plain plain next) (inHand_tells tells) (serve _ (Or.inr rfl))
  | call call' next' =>
    rw [program] at behind
    obtain ⟨handle, socket, here, conns⟩ := answered.here
    rw [program] at conns
    refine h.unserved here conns answered.links entry answered.log none ?_
    exact (inHand_plain behind.1 next').trans (inHand_plain plain next).symm

/-- **A call serves what it was made for**, or is one of several that a message makes. -/
theorem Grounded.called (h : Grounded A login pass w) {call : Server.Call} {next : call.Answer → Server.Handling Packet}
    (orderly : Orderly A.json (.call call next))
    (answered : Answered w w' c call next (w.server.outcome c choice call).1 (w.server.outcome c choice call).2.1
      (w.server.outcome c choice call).2.2) : Served A login pass w w' := by
  cases orderly with
  | login tells => exact h.logs_in tells answered
  | logout tells => exact h.logs_out tells answered
  | message always => exact h.messages always answered

/-- A reply is told as soon as it is in hand: to send it changes nothing. -/
theorem Grounded.replies (h : Grounded A login pass w) {handle : Nat} {socket : Option Nat} {packet : Packet}
    (here : w.server.conns[c]? = some ⟨handle, socket, .handling (.done packet)⟩)
    (conns : w'.server.conns = w.server.conns.set c ⟨handle, socket, .receiving⟩)
    (provider : w'.server.provider = w.server.provider) (links : w'.links = w.links)
    (log : w'.server.log =
      (w.server.send ⟨handle, socket, .handling (.done packet)⟩ packet fun on => .replied c on packet).2 ++ w.server.log) :
    Served A login pass w w' := by
  rw [h.held.reply h.sockets here] at log
  by_cases silent : createPacket packet.cmd packet.body = []
  · rw [if_pos silent] at log
    exact h.unserved here conns links (entry_same provider) log (by rintro _ _ ⟨⟩)
      (@inHand_silent login pass A.json packet silent).symm
  · rw [if_neg silent] at log
    refine Or.inl ⟨entry_same provider, fun l => ?_⟩
    by_cases same : l = c
    · subst same
      obtain ⟨unread, read⟩ := read_append log (congrArg Link.received (congrFun links l)) (h.received l)
      have wrote : onWire l [Server.Entry.replied l (some l) packet] = [packet] := if_pos rfl
      have before : doing A login pass (.handling (.done packet)) = ([], Session.replies A.json packet) := by
        change inHand login pass A.json (.done packet) = _
        simp only [inHand, if_neg silent]
      unfold World.wire
      rw [handed_set here conns, if_pos rfl, handed_here here, before, links, unread, read, wrote]
      simp [doing]
    · refine wire_same ?_ (congrFun links l) log (h.received l) ?_
      · rw [handed_set here conns, if_neg same]
      · have other : onWire l [Server.Entry.replied c (some c) packet] = [] :=
          if_neg fun at_ => same (Option.some.inj at_).symm
        rw [other]
        rintro _ ⟨⟩

/-- **A step of the server serves a request, or nothing.** -/
theorem Grounded.beat (h : Grounded A login pass w) {server : Server.State} (beat : Beat w.server server) :
    Served A login pass w { w with server := server } := by
  cases beat with
  | accept started conns provider log =>
    refine Or.inl ⟨entry_same provider, fun l => ?_⟩
    refine @wire_same _ _ _ _ _ l [] ?_ rfl log (h.received l) nofun
    unfold World.handed
    dsimp only
    rw [conns]
    by_cases low : l < w.server.conns.length
    · rw [List.getElem?_append_left low]
    · rw [List.getElem?_eq_none (Nat.le_of_not_lt low)]
      cases found : (w.server.conns ++ [_])[l]? with
      | none => rfl
      | some conn =>
        rcases Server.conns_append found with ⟨_, rfl⟩ | old
        · simp only [started]
          rfl
        · exact absurd (List.getElem?_eq_some_iff.1 old).1 low
  | idle here conns before behind provider log none =>
    refine h.unserved here conns rfl (entry_same provider) log ?_ ((doing_out behind).trans (doing_out before).symm)
    intro l packet member
    rw [none l] at member
    cases member
  | call here conns provider log =>
    exact h.called (h.threads _ _ _ here rfl) ⟨⟨_, _, here, conns⟩, provider, rfl, log⟩
  | reply here conns provider log => exact h.replies here conns provider rfl log

/-- A request that is received is in hand, or answered. -/
theorem Grounded.receives (h : Grounded A login pass w) {handle : Nat} {socket : Option Nat} {packet : Packet}
    {rest : List Packet} {entries : List Server.Entry}
    (here : w.server.conns[c]? = some ⟨handle, socket, .receiving⟩)
    (conns : w'.server.conns = w.server.conns.set c ⟨handle, socket, .handling (A.packetHandler handle packet)⟩)
    (provider : w'.server.provider = w.server.provider) (first : (w.links c).requests = packet :: rest)
    (links : w'.links = Function.update w.links c ⟨rest, (w.links c).received⟩)
    (log : w'.server.log = entries ++ w.server.log) (none : ∀ l, onWire l entries = []) :
    Served A login pass w w' := by
  have others : ∀ l, l ≠ c → w'.wire A login pass l = w.wire A login pass l := by
    intro l other
    refine wire_same ?_ (by rw [links, Function.update_of_ne other]) log (h.received l) (by rw [none]; nofun)
    rw [handed_set here conns, if_neg other]
  have taken : w'.links c = ⟨rest, (w.links c).received⟩ := by
    rw [links, Function.update_self]
  obtain ⟨unread, read⟩ := read_append log (show (w'.links c).received = _ by rw [taken]) (h.received c)
  rw [none, List.reverse_nil, List.append_nil] at unread
  obtain ⟨_, hello | later⟩ := @packetHandler_orderly A login pass handle packet
    (h.queued c packet (first ▸ List.mem_cons_self))
  · refine Or.inr ⟨c, others, ?_⟩
    have before : (w.wire A login pass c).asked = .hello :: rest.flatMap (asks login pass A) := by
      unfold World.wire
      rw [handed_here here, first, List.flatMap_cons, hello.1]
      rfl
    have same : w'.wire A login pass c =
        { w.wire A login pass c with
          asked := rest.flatMap (asks login pass A), told := (w.wire A login pass c).told ++ [.hello] } := by
      unfold World.wire
      rw [handed_set here conns, if_pos rfl, handed_here here, taken, unread, read]
      simp [doing, hello.2]
    rw [same, entry_same provider]
    exact .greet before
  · refine Or.inl ⟨entry_same provider, fun l => ?_⟩
    by_cases same : l = c
    · subst same
      unfold World.wire
      rw [handed_set here conns, if_pos rfl, handed_here here, taken, unread, read, first]
      simp [doing, later]
    · exact others l same

end

end

end Gologin.Session
