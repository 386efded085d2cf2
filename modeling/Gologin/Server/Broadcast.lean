import Gologin.Server.Sequential
import Gologin.Server.Sockets

/-!
# Where broadcasts go

An entry of the provider names its connection by a socket handle, and outlives it: nothing
removes the entry of a connection that drops. When the operating system gives the handle
to another connection, a broadcast to the entry reaches that one. In runs in which no
accept returns such a handle, every broadcast reaches the connection of the login.
-/

namespace Gologin.Server
set_option autoImplicit false
open Calls Messages Auth Tcp Tables

/-- The connection whose handler made the last `add_client` that succeeded for the id, `none`
when it was removed since. -/
def owner (id : UInt64) : List Entry → Option Nat
  | [] => none
  | .called c (.addClient id' _ _ _ _) ((status, _) : ClientStatus × Str) :: log =>
    if id' = id ∧ status = .accepted then some c else owner id log
  | .called _ (.remClient id' _) (status : ClientStatus) :: log =>
    if id' = id ∧ status = .removed then none else owner id log
  | _ :: log => owner id log

/-- The broadcasts that reached another open connection than the one on which the login of
their entry was made, or came after its logout: for each the id, the connection and the
owner at that time, newest first. -/
def misdelivered (J : Nlohmann) : List Entry → List (UInt64 × Nat × Option Nat)
  | [] => []
  | .wrote _ _ (some d) packet :: log =>
    match packerFrom J Server.MsgRequest packet.body with
    | some m =>
      if owner m.id log = some d then misdelivered J log else (m.id, d, owner m.id log) :: misdelivered J log
    | none => misdelivered J log
  | _ :: log => misdelivered J log

theorem owner_append {entries : List Entry} (plain : ∀ e ∈ entries, e.Plain) (id : UInt64) (log : List Entry) :
    owner id (entries ++ log) = owner id log := by
  induction entries with
  | nil => rfl
  | cons e entries ih =>
    have rest := ih fun e member => plain e (by simp [member])
    have first := plain e List.mem_cons_self
    cases e with
    | called | wrote => exact first.elim
    | received | replied | read | closed => exact rest

theorem misdelivered_append {J : Nlohmann} {entries : List Entry} (plain : ∀ e ∈ entries, e.Plain)
    (log : List Entry) : misdelivered J (entries ++ log) = misdelivered J log := by
  induction entries with
  | nil => rfl
  | cons e entries ih =>
    have rest := ih fun e member => plain e (by simp [member])
    have first := plain e List.mem_cons_self
    cases e with
    | called | wrote => exact first.elim
    | received | replied | read | closed => exact rest

/-- No accept opens a handle that an entry of the provider names, or that a handler still
serves: one for which `set_keep_alive` failed serves a handle that is closed. -/
def Unclaimed (s : State) : Turn → Prop
  | .accept handle true =>
    (∀ id entry, s.provider.clients.lookup id = some entry → entry.cookie.serverClientId ≠ handle) ∧
      ∀ (c : Nat) (conn : Conn), s.conns[c]? = some conn → conn.phase.Running → conn.handle ≠ handle
  | _ => True

/-- What the tables of the server say of each other between two turns: the handle of a
connection that runs, and that of an entry's cookie, are of no other open connection than
this one and the one of its login. -/
structure Attached (A : App) (s : State) : Prop where
  good : s.provider.Good
  sockets : Sockets s
  alone : ∀ (c : Nat) (conn : Conn), s.conns[c]? = some conn → conn.phase.Running →
    ∀ d, s.sockets.lookup conn.handle = some d → d = c
  listed : ∀ handle via, s.clientList.lookup handle = some via →
    ∃ conn, s.conns[via]? = some conn ∧ conn.handle = handle
  owned : ∀ id entry, s.provider.clients.lookup id = some entry → ∃ d, owner id s.log = some d ∧
    ∀ e, s.sockets.lookup entry.cookie.serverClientId = some e → e = d
  delivered : misdelivered A.json s.log = []

section
variable {A : App} {s s' : State}

theorem attached_init (login pass : Str) : Attached A (State.init login pass) := by
  refine ⟨Provider.good_init login pass, sockets_init login pass, nofun, ?_, ?_, rfl⟩
  · intro handle via found
    rw [State.init, AList.lookup_empty] at found
    cases found
  · intro id entry found
    rw [State.init, Provider.init, AList.lookup_empty] at found
    cases found

/-! ## One call -/

/-- A call that leaves the provider alone and writes nothing. -/
theorem Attached.of_asked (h : Attached A s) {c : Nat} {choice : Choice} {call : Call}
    (provider : (s.outcome c choice call).2.1 = s.provider) (silent : (s.outcome c choice call).2.2 = [])
    (same : ∀ id, owner id (s.after c choice call).log = owner id s.log) : Attached A (s.after c choice call) := by
  refine ⟨?_, ⟨h.sockets.held, h.sockets.own, h.sockets.running⟩, h.alone, h.listed, ?_, ?_⟩
  · change (s.outcome c choice call).2.1.Good
    rw [provider]
    exact h.good
  · intro id entry found
    rw [same]
    change (s.outcome c choice call).2.1.clients.lookup id = some entry at found
    rw [provider] at found
    exact h.owned id entry found
  · change misdelivered A.json ((s.outcome c choice call).2.2 ++ s.log) = []
    rw [silent]
    exact h.delivered

theorem owner_addClient {c : Nat} {id id' : UInt64} {cookies : ClientCookies} {login pass session : Str}
    {status : ClientStatus} {session' : Str} {log : List Entry} :
    owner id (.called c (.addClient id' cookies login pass session) (status, session') :: log) =
      if id' = id ∧ status = .accepted then some c else owner id log := rfl

theorem owner_remClient {c : Nat} {id id' : UInt64} {session : Str} {status : ClientStatus} {log : List Entry} :
    owner id (.called c (.remClient id' session) status :: log) =
      if id' = id ∧ status = .removed then none else owner id log := rfl

theorem Attached.addClient (h : Attached A s) {c : Nat} (choice : Choice) {id : UInt64} {cookies : ClientCookies}
    {login : Str} (pass : Str) (text : Utf8.valid login = true)
    (alone : ∀ d, s.sockets.lookup cookies.serverClientId = some d → d = c) :
    Attached A (s.after c choice (.addClient id cookies login pass [])) := by
  rcases @Provider.addClient_cases s.provider id choice.draw cookies login pass [] with
    ⟨right, absent, same⟩ | ⟨_, _, same⟩ | ⟨_, same⟩
  · refine ⟨h.good.addClient choice.draw cookies pass text,
      ⟨h.sockets.held, h.sockets.own, h.sockets.running⟩, h.alone, h.listed, ?_, h.delivered⟩
    intro id' entry found
    change (s.provider.addClient choice.draw id cookies login pass []).2.2.clients.lookup id' = some entry at found
    change ∃ d, owner id' (.called c (.addClient id cookies login pass [])
      ((s.provider.addClient choice.draw id cookies login pass []).1, _) :: s.log) = some d ∧ _
    rw [same] at found ⊢
    rw [owner_addClient]
    by_cases this : id' = id
    · subst this
      rw [AList.lookup_insert, Option.some.injEq] at found
      subst found
      exact ⟨c, if_pos ⟨rfl, rfl⟩, alone⟩
    · rw [AList.lookup_insert_ne this] at found
      rw [if_neg fun both => this both.1.symm]
      exact h.owned id' entry found
  · apply h.of_asked (by simp only [State.outcome, same]) rfl
    intro id'
    simp only [State.after, State.outcome, same, List.nil_append, owner_addClient]
    apply if_neg
    rintro ⟨_, ⟨⟩⟩
  · apply h.of_asked (by simp only [State.outcome, same]) rfl
    intro id'
    simp only [State.after, State.outcome, same, List.nil_append, owner_addClient]
    apply if_neg
    rintro ⟨_, ⟨⟩⟩

theorem Attached.remClient (h : Attached A s) (c : Nat) (choice : Choice) (id : UInt64) (session : Str) :
    Attached A (s.after c choice (.remClient id session)) := by
  by_cases present : id ∈ s.provider.clients
  · have same := Provider.remClient_of_mem present session
    refine ⟨h.good.remClient session, ⟨h.sockets.held, h.sockets.own, h.sockets.running⟩, h.alone, h.listed,
      ?_, h.delivered⟩
    intro id' entry found
    change (s.provider.remClient id session).2.clients.lookup id' = some entry at found
    change ∃ d, owner id' (.called c (.remClient id session) (s.provider.remClient id session).1 :: s.log) =
      some d ∧ _
    rw [same] at found ⊢
    obtain ⟨other, found⟩ := lookup_erase_some found
    rw [owner_remClient, if_neg fun both => other both.1.symm]
    exact h.owned id' entry found
  · have same := Provider.remClient_of_not_mem present session
    apply h.of_asked (by simp only [State.outcome, same]) rfl
    intro id'
    simp only [State.after, State.outcome, same, List.nil_append, owner_remClient]
    apply if_neg
    rintro ⟨_, ⟨⟩⟩

/-- A broadcast to an entry reaches the connection of its login, if any. -/
theorem Attached.sendTo (h : Attached A s) (c : Nat) (choice : Choice) {entry : AuthClient} {cmd : Str}
    {buff : Buffer} {m : Server.MsgRequest} (found : s.provider.clients.lookup entry.id = some entry)
    (packed : packerFrom A.json Server.MsgRequest buff = some m) (id : m.id = entry.id) :
    Attached A (s.after c choice (.sendTo entry.cookie cmd buff)) := by
  rcases sendTo_cases s c entry.cookie ⟨cmd, buff⟩ with silent | ⟨via, conn, handle, listed, here, socket, one⟩
  · refine @Attached.of_asked A s h c choice (.sendTo entry.cookie cmd buff) rfl silent fun id' => ?_
    change owner id' ((s.sendTo c entry.cookie ⟨cmd, buff⟩).2 ++ s.log) = _
    rw [silent, List.nil_append]
  · have mine : handle = entry.cookie.serverClientId := by
      obtain ⟨conn', there, same⟩ := h.listed _ _ listed
      cases here.symm.trans there
      exact (h.sockets.own via conn handle here socket).trans same
    have log : (s.after c choice (.sendTo entry.cookie cmd buff)).log =
        .called c (.sendTo entry.cookie cmd buff) (s.sendTo c entry.cookie ⟨cmd, buff⟩).1 ::
          .wrote c via (s.sockets.lookup entry.cookie.serverClientId) ⟨cmd, buff⟩ :: s.log := by
      change _ :: ((s.sendTo c entry.cookie ⟨cmd, buff⟩).2 ++ s.log) = _
      rw [one, mine]
      rfl
    obtain ⟨d, owned, only⟩ := h.owned _ _ found
    refine ⟨h.good, ⟨h.sockets.held, h.sockets.own, h.sockets.running⟩, h.alone, h.listed, ?_, ?_⟩
    · rw [log]
      exact h.owned
    · rw [log]
      cases reached : s.sockets.lookup entry.cookie.serverClientId with
      | none => exact h.delivered
      | some e =>
        cases only e reached
        simp only [misdelivered, packed, id, owned, if_true, h.delivered]

/-! ## One handler -/

theorem Attached.broadcast (h : Attached A s) (c : Nat) (choice : Choice) {body : Str}
    (text : Utf8.valid body = true) {clients : List AuthClient}
    (listed : ∀ client ∈ clients, s.provider.clients.lookup client.id = some client) :
    Attached A (s.run c choice (broadcast A.json body clients)).2 := by
  induction clients generalizing s with
  | nil => exact h
  | cons client rest ih =>
    have found := listed client List.mem_cons_self
    obtain ⟨_, _, _, login, draw, session⟩ := h.good _ _ found
    obtain ⟨buff, packed⟩ := packerTo_some A.json
      (clientRequest_utf8 text login (session ▸ draw.session_utf8 : Utf8.valid client.session = true))
    have program : Server.broadcast A.json body (client :: rest) =
        .call (.sendTo client.cookie Commands.msg buff) fun _ => Server.broadcast A.json body rest := by
      rw [Server.broadcast, packed]
      rfl
    rw [program, State.run_call]
    apply ih (h.sendTo c choice found (packerFrom_packerTo A.json packed) rfl)
    exact fun client member => listed client (List.mem_cons_of_mem _ member)

/-- Handling a packet. -/
theorem Attached.handled (h : Attached A s) {c handle : Nat}
    (alone : ∀ d, s.sockets.lookup handle = some d → d = c) (choice : Choice) (packet : Packet) : Attached A (s.run c choice (A.packetHandler handle packet)).2 := by
  change Attached A (s.run c choice
    (Program.bind (dispatch A.hash A.handlers packet.cmd ⟨handle⟩ packet.body) _)).2
  rw [State.run_bind]
  rcases A.dispatch_request packet ⟨handle⟩ with ⟨request, taken, same⟩ | ⟨_, ok, same⟩
  · rw [same]
    have text := request_text A taken
    change Attached A (s.run c choice (A.handling packet.cmd ⟨handle⟩ request)).2
    cases request with
    | hello r => exact h
    | ping r =>
      change Attached A ((s.after c choice (.statusClient r.id r.session)).run c choice (Program.bind
        (if s.provider.statusClient r.id r.session = .accepted then _ else _) _)).2
      have asked : Attached A (s.after c choice (.statusClient r.id r.session)) :=
        h.of_asked rfl rfl fun _ => rfl
      split
      · exact asked
      · exact asked
    | login r =>
      obtain ⟨_, _, login, _, _⟩ := text
      have added : Attached A (s.after c choice (.addClient r.id ⟨handle⟩ r.login r.password [])) :=
        h.addClient choice r.password login alone
      change Attached A ((s.after c choice (.addClient r.id ⟨handle⟩ r.login r.password [])).run c choice
        (Program.bind
          (if (s.provider.addClient choice.draw r.id ⟨handle⟩ r.login r.password []).1 = .accepted then _ else _) _)).2
      split
      · exact added
      · exact added
    | logout r =>
      have removed := h.remClient c choice r.id r.session
      change Attached A ((s.after c choice (.remClient r.id r.session)).run c choice (Program.bind
        (if (s.provider.remClient r.id r.session).1 = .removed then _ else _) _)).2
      split
      · exact removed
      · exact removed
    | message r =>
      obtain ⟨_, _, body, _, _⟩ := text
      have asked : Attached A (s.after c choice (.statusClient r.id r.session)) :=
        h.of_asked rfl rfl fun _ => rfl
      have snapshot : Attached A ((s.after c choice (.statusClient r.id r.session)).after c choice
          (.getClients .accepted)) := asked.of_asked rfl rfl fun _ => rfl
      change Attached A ((s.after c choice (.statusClient r.id r.session)).run c choice (Program.bind
        (if s.provider.statusClient r.id r.session = .accepted then _ else _) _)).2
      split
      · change Attached A (((s.after c choice (.statusClient r.id r.session)).after c choice
          (.getClients .accepted)).run c choice (Program.bind (Program.bind
            (Server.broadcast A.json r.body (s.provider.getClients choice.order .accepted)) _) _)).2
        have sent := snapshot.broadcast c choice body fun client member =>
          (Provider.mem_getClients h.good choice.order).1 member
        rw [State.run_bind, State.run_bind]
        split
        · exact sent
        · exact sent
      · exact asked
  · rw [same]
    exact h

/-! ## One turn -/

/-- What is still listed when the entry of a connection is replaced. -/
theorem listed_set (h : Attached A s) {c handle : Nat} {socket : Option Nat} {before : Phase}
    (here : s.conns[c]? = some ⟨handle, socket, before⟩) {socket' : Option Nat} {after : Phase} {key via : Nat}
    (found : s.clientList.lookup key = some via) :
    ∃ conn, (s.conns.set c ⟨handle, socket', after⟩)[via]? = some conn ∧ conn.handle = key := by
  obtain ⟨conn, there, same⟩ := h.listed key via found
  by_cases self : via = c
  · subst self
    cases here.symm.trans there
    exact ⟨_, conns_set_self here _, same⟩
  · exact ⟨conn, (List.getElem?_set_ne (Ne.symm self)).trans there, same⟩

/-- A step of one handler that only observes. -/
theorem Attached.of_set (h : Attached A s) {c handle : Nat} {socket : Option Nat} {before after : Phase}
    (here : s.conns[c]? = some ⟨handle, socket, before⟩) (running : after.Running → before.Running)
    (out : ∀ n, after ≠ .closing n) {entries : List Entry} (plain : ∀ e ∈ entries, e.Plain) :
    Attached A { s with conns := s.conns.set c ⟨handle, socket, after⟩, log := entries ++ s.log } := by
  refine ⟨h.good, h.sockets.of_keep here rfl rfl out running, ?_, fun _ _ => listed_set h here, ?_, ?_⟩
  · intro d conn found still
    rcases conns_set found with ⟨rfl, rfl⟩ | ⟨_, there⟩
    · exact h.alone d ⟨handle, socket, before⟩ here (running still)
    · exact h.alone d conn there still
  · intro id entry found
    obtain ⟨d, owned, only⟩ := h.owned id entry found
    exact ⟨d, (owner_append plain id s.log).trans owned, only⟩
  · exact (misdelivered_append plain s.log).trans h.delivered

/-- The step of the accept loop. -/
theorem Attached.accepted (h : Attached A s) {handle : Nat} {alive : Bool}
    (unclaimed : Unclaimed s (.accept handle alive)) (taken : step A s (.accept handle alive) = some s') :
    Attached A s' := by
  have sockets := sockets_step h.sockets taken
  have listed : ∀ new key via, s.clientList.lookup key = some via →
      ∃ conn, (s.conns ++ [new])[via]? = some conn ∧ conn.handle = key := by
    intro new key via found
    obtain ⟨conn, there, same⟩ := h.listed key via found
    exact ⟨conn, (List.getElem?_append_left (List.getElem?_eq_some_iff.1 there).1).trans there, same⟩
  cases step_cases taken with
  | accept fresh =>
    refine ⟨h.good, sockets, ?_, fun _ _ => listed _ _ _, ?_, h.delivered⟩
    · intro c conn found still d open_
      rcases conns_append found with ⟨rfl, rfl⟩ | old
      · exact (Option.some.inj ((AList.lookup_insert s.sockets).symm.trans open_)).symm
      · exact h.alone c conn old still d ((AList.lookup_insert_ne (unclaimed.2 c conn old still)).symm.trans open_)
    · intro id entry found
      obtain ⟨d, owned, only⟩ := h.owned id entry found
      refine ⟨d, owned, fun e open_ => only e ?_⟩
      exact (AList.lookup_insert_ne (unclaimed.1 id entry found)).symm.trans open_
  | refuse fresh =>
    refine ⟨h.good, sockets, ?_, fun _ _ => listed _ _ _, h.owned, h.delivered⟩
    intro c conn found still d open_
    rcases conns_append found with ⟨_, rfl⟩ | old
    · exact absurd (mem_of_lookup open_) fresh
    · exact h.alone c conn old still d open_

/-- The registration of a handler. -/
theorem Attached.emplaced (h : Attached A s) {c : Nat} (taken : step A s (.emplace c) = some s') : Attached A s' := by
  cases step_cases taken with
  | emplace here =>
    rename_i handle socket
    have set : Attached A { s with conns := s.conns.set c ⟨handle, socket, .receiving⟩ } :=
      @Attached.of_set A s h c handle socket .started .receiving here (fun _ => trivial) nofun [] nofun
    refine ⟨set.good, ⟨set.sockets.held, set.sockets.own, set.sockets.running⟩, set.alone, ?_, set.owned,
      set.delivered⟩
    intro key via found
    rcases lookup_emplace found with old | ⟨rfl, rfl, _⟩
    · exact set.listed key via old
    · exact ⟨_, conns_set_self here _, rfl⟩

/-- A handler that has received a packet, up to its reply. -/
theorem Attached.replied (h : Attached A s) {c handle : Nat} {socket : Option Nat} {packet : Packet} {choice : Choice}
    (here : s.conns[c]? = some ⟨handle, socket, .handling (A.packetHandler handle packet)⟩)
    (taken : step A
      ((s.run c choice (A.packetHandler handle packet)).2.set c
        ⟨handle, socket, .handling (.done (s.run c choice (A.packetHandler handle packet)).1)⟩) (.reply c) =
      some s') : Attached A s' := by
  have answered := h.handled (h.alone c ⟨handle, socket, .handling _⟩ here trivial) choice packet
  have there : (s.run c choice (A.packetHandler handle packet)).2.conns[c]? =
      some ⟨handle, socket, .handling (A.packetHandler handle packet)⟩ :=
    (congrArg (·[c]?) (run_conns s c choice _)).trans here
  have ready := @Attached.of_set A _ answered c handle socket (.handling _)
    (.handling (.done (s.run c choice (A.packetHandler handle packet)).1)) there (fun _ => trivial) (by rintro _ ⟨⟩) []
    (by rintro _ ⟨⟩)
  cases step_cases taken with
  | reply back =>
    rw [State.set, conns_set_self there, Option.some.injEq] at back
    cases back
    exact @Attached.of_set A _ ready c handle socket (.handling _) .receiving (conns_set_self there _)
      (fun _ => trivial) (by rintro _ ⟨⟩) _ plain_send

theorem Attached.requested (h : Attached A s) {c : Nat} {stack : Stack} {results : List RecvResult}
    {choice : Choice} (taken : turn A s (.request c stack results choice) = some s') : Attached A s' := by
  obtain ⟨m, received, later⟩ := Option.bind_eq_some_iff.1 taken
  cases step_cases received with
  | refused here _ =>
    simp only [conns_set_self here] at later
    cases later
  | packet here parsed =>
    rename_i handle socket header buff
    simp only [conns_set_self here] at later
    have plain : ∀ e ∈ .received c ⟨header.command stack.beyond, buff⟩ ::
        s.uses ⟨handle, socket, .receiving⟩ (.read c), e.Plain := List.forall_mem_cons.2 ⟨trivial, plain_uses⟩
    have arrived := @Attached.of_set A s h c handle socket .receiving
      (.handling (A.packetHandler handle ⟨header.command stack.beyond, buff⟩)) here (fun _ => trivial) nofun _ plain
    exact arrived.replied (conns_set_self here _) later

theorem Attached.dropped (h : Attached A s) {c : Nat} {stack : Stack} {results : List RecvResult}
    (taken : turn A s (.drop c stack results) = some s') : Attached A s' := by
  obtain ⟨m, received, later⟩ := Option.bind_eq_some_iff.1 taken
  cases step_cases received with
  | packet here parsed =>
    simp only [conns_set_self here] at later
    cases later
  | refused here parsed =>
    rename_i handle socket n
    simp only [conns_set_self here] at later
    obtain rfl : socket = some handle := h.sockets.running c ⟨handle, socket, .receiving⟩ here trivial
    have refused : Attached A { s with
        conns := s.conns.set c ⟨handle, some handle, .dropping n⟩
        log := s.uses ⟨handle, some handle, .receiving⟩ (.read c) ++ s.log } :=
      @Attached.of_set A s h c handle (some handle) .receiving (.dropping n) here nofun nofun _ plain_uses
    rw [drops_run (conns_set_self here _), Option.some.injEq] at later
    subst later
    have there := conns_set_self here ⟨handle, some handle, .dropping n⟩
    have closed := @Sockets.of_close _ refused.sockets c handle handle (.dropping n) ⟨handle, none, .ended⟩ there
      nofun nofun
    refine ⟨refused.good, ⟨closed.held, closed.own, closed.running⟩, ?_, ?_, ?_, refused.delivered⟩
    · intro d conn found still e open_
      rcases conns_set found with ⟨_, rfl⟩ | ⟨_, old⟩
      · exact still.elim
      · exact refused.alone d conn old still e (lookup_erase_some open_).2
    · intro key via found
      exact listed_set refused there (lookup_erase_some found).2
    · intro id entry found
      obtain ⟨d, owned, only⟩ := refused.owned id entry found
      exact ⟨d, owned, fun e open_ => only e (lookup_erase_some open_).2⟩

/-- One turn keeps the tables attached. -/
theorem attached_turn (h : Attached A s) {t : Turn} (unclaimed : Unclaimed s t) (taken : turn A s t = some s') :
    Attached A s' := by
  cases t with
  | accept handle alive =>
    obtain ⟨m, accepted, later⟩ := Runs.exec_cons_some taken
    obtain ⟨m', emplaced, last⟩ := Runs.exec_cons_some later
    cases Option.some.inj last
    exact (h.accepted unclaimed accepted).emplaced emplaced
  | request c stack results choice => exact h.requested taken
  | drop c stack results => exact h.dropped taken

/-- **Where broadcasts go.** In every run in which no accept opens a handle that an entry of
the provider names, or that a handler still serves, every broadcast that reaches an open
connection reaches the one on which the login of its entry was made, and the entry was not
logged out since. -/
theorem broadcasts_attached {login pass : Str} {ts : List Turn} {s : State}
    (unclaimed : Runs.Along (turn A) Unclaimed (State.init login pass) ts)
    (run : Runs.exec (turn A) (State.init login pass) ts = some s) : misdelivered A.json s.log = [] :=
  (Runs.exec_guarded (fun _ _ _ attached => attached_turn attached) (attached_init login pass) unclaimed run : Attached A s).delivered

end

/-! ## A handle that comes back -/

/-- A request that arrives whole. -/
def arrives (c : Nat) (packet : Packet) : Turn := .request c blank (whole packet) someChoice

/-- Two connections log in, and one of them sends a message. -/
def apart : List Turn :=
  [.accept 3 true, .accept 4 true, arrives 0 (loginPacket "7"), arrives 1 (loginPacket "9"),
    arrives 1 (messagePacket "9")]

theorem broadcasts_attached_apart :
    ∃ s, Runs.exec (turn App.compact) (State.init (str "login") (str "pass")) apart = some s ∧
      s.provider.clients.keys = [9, 7] ∧ misdelivered App.compact.json s.log = [] := by
  obtain ⟨s, run, keys⟩ := Option.map_eq_some_iff.1
    (show (Runs.exec (turn App.compact) (State.init (str "login") (str "pass")) apart).map
        (fun s => s.provider.clients.keys) = some [9, 7] by decide +kernel)
  refine ⟨s, run, keys, broadcasts_attached ?_ run⟩
  have none : ∀ (id : UInt64) (entry : AuthClient),
      (State.init (str "login") (str "pass")).provider.clients.lookup id ≠ some entry := by
    intro id entry found
    rw [State.init, Provider.init, AList.lookup_empty] at found
    cases found
  refine ⟨⟨fun id entry found => absurd found (none id entry), by rintro _ _ ⟨⟩⟩, fun m first => ⟨?_, ?_⟩⟩
  · cases first
    refine ⟨fun id entry found => absurd found (none id entry), fun c conn here _ => ?_⟩
    rcases List.mem_singleton.1 (List.mem_of_getElem? here) with rfl
    decide
  · exact fun _ _ => ⟨trivial, fun _ _ => ⟨trivial, fun _ _ => ⟨trivial, fun _ _ => trivial⟩⟩⟩

/-- The first connection logs in and drops without a logout, the second gets its handle, and
a third one sends a message. -/
def handed : List Turn :=
  [.accept 3 true, arrives 0 (loginPacket "7"), .drop 0 blank [.closed], .accept 3 true, .accept 4 true,
    arrives 2 (loginPacket "9"), arrives 2 (messagePacket "9")]

/-- The second connection receives the message, with the session of the first. -/
theorem misdelivered_handed :
    ¬ ∀ (A : App) (login pass : Str) (ts : List Turn) (s : State),
      Runs.exec (turn A) (State.init login pass) ts = some s → misdelivered A.json s.log = [] := by
  intro attached
  obtain ⟨s, run, reached⟩ := Option.map_eq_some_iff.1
    (show (Runs.exec (turn App.compact) (State.init (str "login") (str "pass")) handed).map
        (fun s => misdelivered App.compact.json s.log) = some [(7, 1, some 0)] by decide +kernel)
  cases reached.symm.trans (attached App.compact _ _ handed s run)

end Gologin.Server
