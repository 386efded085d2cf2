import Gologin.Server.Broadcast

/-!
# The two tables of the server

The provider's entries name connections of `m_client_list` by their handles. A connection
that drops leaves `m_client_list` and not the provider. `tables_iff` says for which runs the
entries keep naming the open connections of their logins.
-/

namespace Gologin.Server
set_option autoImplicit false
open Calls Messages Auth Tcp Tables

/-- The cookie of every accepted entry is a key of `m_client_list` and names the open
connection on which the entry's login was made. -/
def Consistent (s : State) : Prop :=
  ∀ id entry, s.provider.clients.lookup id = some entry → entry.status = .accepted →
    ∃ c, owner id s.log = some c ∧ s.clientList.lookup entry.cookie.serverClientId = some c ∧
      s.sockets.lookup entry.cookie.serverClientId = some c

instance : DecidablePred Consistent := fun s =>
  decidable_of_iff
    (∀ e ∈ s.provider.clients.entries, e.2.status = .accepted → (owner e.1 s.log).isSome = true ∧
      s.clientList.lookup e.2.cookie.serverClientId = owner e.1 s.log ∧
      s.sockets.lookup e.2.cookie.serverClientId = owner e.1 s.log)
    (by
      constructor
      · intro all id entry found status
        obtain ⟨some_, listed, open_⟩ := all ⟨id, entry⟩ (AList.mem_lookup_iff.1 found) status
        obtain ⟨c, owned⟩ := Option.isSome_iff_exists.1 some_
        exact ⟨c, owned, listed.trans owned, open_.trans owned⟩
      · rintro consistent ⟨id, entry⟩ member status
        obtain ⟨c, owned, listed, open_⟩ := consistent id entry (AList.mem_lookup_iff.2 member) status
        exact ⟨Option.isSome_iff_exists.2 ⟨c, owned⟩, listed.trans owned.symm, open_.trans owned.symm⟩)

/-- A login that will succeed comes on a connection whose handle is open and registered for
it, and a connection that is dropped has a handle that no entry names. -/
def Settles (A : App) (s : State) : Turn → Prop
  | .accept _ _ => True
  | .request c stack results _ => ∀ conn header buff r, s.conns[c]? = some conn →
    ServerClient.recv scripted stack.header results = some (.packet header buff, []) →
    A.request ⟨header.command stack.beyond, buff⟩ = some (.login r) →
    s.provider.Accepts r.login r.password → r.id ∉ s.provider.clients →
    s.clientList.lookup conn.handle = some c ∧ s.sockets.lookup conn.handle = some c
  | .drop c _ _ => ∀ conn id entry, s.conns[c]? = some conn → s.provider.clients.lookup id = some entry →
    entry.cookie.serverClientId ≠ conn.handle

section
variable {A : App} {s s' : State}

/-- What the tables say is told from the entries, their owners and the two handle tables. -/
theorem Consistent.of_same (h : Consistent s) (clients : s'.provider.clients = s.provider.clients)
    (owners : ∀ id, owner id s'.log = owner id s.log) (clientList : s'.clientList = s.clientList)
    (sockets : s'.sockets = s.sockets) : Consistent s' := by
  intro id entry found status
  rw [clients] at found
  rw [owners, clientList, sockets]
  exact h id entry found status

/-- A program changes neither the list nor the sockets. -/
theorem run_handles {α : Type} (s : State) (c : Nat) (choice : Choice) (program : Handling α) :
    (s.run c choice program).2.clientList = s.clientList ∧ (s.run c choice program).2.sockets = s.sockets := by
  induction program generalizing s with
  | done a => exact ⟨rfl, rfl⟩
  | call call next ih => exact ih _ (s.after c choice call)

/-- What the handling of a packet does to the entries and their owners. -/
inductive Effect (A : App) (s : State) (c handle : Nat) (packet : Packet) (s' : State) : Prop where
  | none (clients : s'.provider.clients = s.provider.clients) (owners : ∀ id, owner id s'.log = owner id s.log)
      (idle : ∀ r, A.request packet = some (.login r) → s.provider.Accepts r.login r.password →
        r.id ∈ s.provider.clients)
  | login (r : Client.AuthRequest) (session : Str) (taken : A.request packet = some (.login r))
      (right : s.provider.Accepts r.login r.password) (absent : r.id ∉ s.provider.clients)
      (clients : s'.provider.clients =
        s.provider.clients.insert r.id ⟨⟨handle⟩, r.id, session, s.provider.clientLogin, .accepted⟩)
      (owners : ∀ id, owner id s'.log = if r.id = id then some c else owner id s.log)
  | logout (r : Client.ByeRequest) (taken : A.request packet = some (.logout r))
      (clients : s'.provider.clients = s.provider.clients.erase r.id)
      (owners : ∀ id, id ≠ r.id → owner id s'.log = owner id s.log)

/-- Calls that leave the provider alone and are no logins. -/
theorem broadcast_effect (c : Nat) (choice : Choice) (body : Str) (clients : List AuthClient) (s : State) :
    (s.run c choice (broadcast A.json body clients)).2.provider = s.provider ∧
      ∀ id, owner id (s.run c choice (broadcast A.json body clients)).2.log = owner id s.log := by
  induction clients generalizing s with
  | nil => exact ⟨rfl, fun _ => rfl⟩
  | cons client rest ih =>
    unfold broadcast
    split
    · exact ⟨rfl, fun _ => rfl⟩
    · rename_i buff packed
      obtain ⟨provider, owners⟩ := ih (s.after c choice (.sendTo client.cookie Commands.msg buff))
      refine ⟨provider, fun id => (owners id).trans ?_⟩
      change owner id ((s.sendTo c client.cookie ⟨Commands.msg, buff⟩).2 ++ s.log) = _
      rcases sendTo_cases s c client.cookie ⟨Commands.msg, buff⟩ with silent | ⟨_, _, _, _, _, _, one⟩
      · rw [silent, List.nil_append]
      · rw [one]
        rfl

theorem login_effect (s : State) (c handle : Nat) (choice : Choice) {packet : Packet} {r : Client.AuthRequest}
    (taken : A.request packet = some (.login r)) :
    Effect A s c handle packet (s.run c choice (A.handling packet.cmd ⟨handle⟩ (.login r))).2 := by
  change Effect A s c handle packet ((s.after c choice (.addClient r.id ⟨handle⟩ r.login r.password [])).run c
    choice (Program.bind
      (if (s.provider.addClient choice.draw r.id ⟨handle⟩ r.login r.password []).1 = .accepted then _ else _) _)).2
  rcases @Provider.addClient_cases s.provider r.id choice.draw ⟨handle⟩ r.login r.password [] with
    ⟨right, absent, same⟩ | ⟨_, present, same⟩ | ⟨wrong, same⟩
  · rw [same, if_pos rfl]
    refine .login r _ taken right absent (by simp only [State.after, State.outcome, same]; rfl) fun id => ?_
    change owner id (.called c (.addClient r.id ⟨handle⟩ r.login r.password [])
      ((s.provider.addClient choice.draw r.id ⟨handle⟩ r.login r.password []).1, _) :: s.log) = _
    rw [same, owner_addClient]
    simp only [and_true]
  · rw [same, if_neg (by rintro ⟨⟩)]
    refine .none (by simp only [State.after, State.outcome, same]; rfl) (fun id => ?_) fun r' other _ => ?_
    · change owner id (.called c (.addClient r.id ⟨handle⟩ r.login r.password [])
        ((s.provider.addClient choice.draw r.id ⟨handle⟩ r.login r.password []).1, _) :: s.log) = _
      rw [same, owner_addClient, if_neg (by rintro ⟨_, ⟨⟩⟩)]
    · cases taken.symm.trans other
      exact present
  · rw [same, if_neg (by rintro ⟨⟩)]
    refine .none (by simp only [State.after, State.outcome, same]; rfl) (fun id => ?_) fun r' other right => ?_
    · change owner id (.called c (.addClient r.id ⟨handle⟩ r.login r.password [])
        ((s.provider.addClient choice.draw r.id ⟨handle⟩ r.login r.password []).1, _) :: s.log) = _
      rw [same, owner_addClient, if_neg (by rintro ⟨_, ⟨⟩⟩)]
    · cases taken.symm.trans other
      exact absurd right wrong

theorem logout_effect (s : State) (c handle : Nat) (choice : Choice) {packet : Packet} {r : Client.ByeRequest}
    (taken : A.request packet = some (.logout r)) :
    Effect A s c handle packet (s.run c choice (A.handling packet.cmd ⟨handle⟩ (.logout r))).2 := by
  change Effect A s c handle packet ((s.after c choice (.remClient r.id r.session)).run c choice
    (Program.bind (if (s.provider.remClient r.id r.session).1 = .removed then _ else _) _)).2
  by_cases present : r.id ∈ s.provider.clients
  · have same := Provider.remClient_of_mem present r.session
    rw [same, if_pos rfl]
    refine .logout r taken (by simp only [State.after, State.outcome, same]; rfl) fun id other => ?_
    change owner id (.called c (.remClient r.id r.session) (s.provider.remClient r.id r.session).1 :: s.log) = _
    rw [owner_remClient, if_neg fun both => other both.1.symm]
  · have same := Provider.remClient_of_not_mem present r.session
    rw [same, if_neg (by rintro ⟨⟩)]
    refine .none (by simp only [State.after, State.outcome, same]; rfl) (fun id => ?_)
      fun _ other => by cases taken.symm.trans other
    change owner id (.called c (.remClient r.id r.session) (s.provider.remClient r.id r.session).1 :: s.log) = _
    rw [same, owner_remClient, if_neg (by rintro ⟨_, ⟨⟩⟩)]

/-- **What the handling of a packet does to the tables.** -/
theorem handled_effect (s : State) (c handle : Nat) (choice : Choice) (packet : Packet) :
    Effect A s c handle packet (s.run c choice (A.packetHandler handle packet)).2 := by
  change Effect A s c handle packet (s.run c choice
    (Program.bind (dispatch A.hash A.handlers packet.cmd ⟨handle⟩ packet.body) _)).2
  rw [State.run_bind]
  rcases A.dispatch_request packet ⟨handle⟩ with ⟨request, taken, same⟩ | ⟨untaken, ok, same⟩
  · rw [same]
    change Effect A s c handle packet (s.run c choice (A.handling packet.cmd ⟨handle⟩ request)).2
    cases request with
    | hello r => exact .none rfl (fun _ => rfl) fun _ other => by cases taken.symm.trans other
    | ping r =>
      change Effect A s c handle packet ((s.after c choice (.statusClient r.id r.session)).run c choice
        (Program.bind (if s.provider.statusClient r.id r.session = .accepted then _ else _) _)).2
      split
      · exact .none rfl (fun _ => rfl) fun _ other => by cases taken.symm.trans other
      · exact .none rfl (fun _ => rfl) fun _ other => by cases taken.symm.trans other
    | login r => exact login_effect s c handle choice taken
    | logout r => exact logout_effect s c handle choice taken
    | message r =>
      change Effect A s c handle packet ((s.after c choice (.statusClient r.id r.session)).run c choice
        (Program.bind (if s.provider.statusClient r.id r.session = .accepted then _ else _) _)).2
      split
      · change Effect A s c handle packet (((s.after c choice (.statusClient r.id r.session)).after c choice
          (.getClients .accepted)).run c choice (Program.bind (Program.bind
            (broadcast A.json r.body (s.provider.getClients choice.order .accepted)) _) _)).2
        obtain ⟨provider, owners⟩ := @broadcast_effect A c choice r.body
          (s.provider.getClients choice.order .accepted)
          ((s.after c choice (.statusClient r.id r.session)).after c choice (.getClients .accepted))
        rw [State.run_bind, State.run_bind]
        split
        · exact .none (congrArg Provider.clients provider) owners fun _ other => by cases taken.symm.trans other
        · exact .none (congrArg Provider.clients provider) owners fun _ other => by cases taken.symm.trans other
      · exact .none rfl (fun _ => rfl) fun _ other => by cases taken.symm.trans other
  · rw [same]
    exact .none rfl (fun _ => rfl) fun _ other => by cases untaken.symm.trans other

/-- An effect is told from the provider and the owners. -/
theorem Effect.of_same {m m' : State} {c handle : Nat} {packet : Packet} (h : Effect A m c handle packet m')
    (before : m.provider = s.provider) (owned : ∀ id, owner id m.log = owner id s.log)
    (after : s'.provider = m'.provider) (owned' : ∀ id, owner id s'.log = owner id m'.log) :
    Effect A s c handle packet s' := by
  cases h with
  | none clients owners idle =>
    refine .none ?_ (fun id => ?_) ?_
    · rw [after, clients, before]
    · rw [owned', owners, owned]
    · rw [← before]
      exact idle
  | login r session taken right absent clients owners =>
    rw [before] at right absent clients
    refine .login r session taken right absent ?_ fun id => ?_
    · rw [after, clients]
    · rw [owned', owners, owned]
  | logout r taken clients owners =>
    refine .logout r taken ?_ fun id other => ?_
    · rw [after, clients, before]
    · rw [owned', owners id other, owned]

/-! ## What a turn does to the tables -/

theorem requested_effect {c : Nat} {stack : Stack} {results : List RecvResult} {choice : Choice}
    (taken : turn A s (.request c stack results choice) = some s') :
    ∃ conn header buff, s.conns[c]? = some conn ∧
      ServerClient.recv scripted stack.header results = some (.packet header buff, []) ∧
      s'.clientList = s.clientList ∧ s'.sockets = s.sockets ∧
      Effect A s c conn.handle ⟨header.command stack.beyond, buff⟩ s' := by
  obtain ⟨m, received, later⟩ := Option.bind_eq_some_iff.1 taken
  cases step_cases received with
  | refused here _ =>
    simp only [conns_set_self here] at later
    cases later
  | packet here parsed =>
    rename_i handle socket header buff
    simp only [conns_set_self here] at later
    refine ⟨_, header, buff, here, parsed, ?_⟩
    let packet : Packet := ⟨header.command stack.beyond, buff⟩
    let m : State := { s with
      conns := s.conns.set c ⟨handle, socket, .handling (A.packetHandler handle packet)⟩
      log := .received c packet :: (s.uses ⟨handle, socket, .receiving⟩ (.read c) ++ s.log) }
    have owned : ∀ id, owner id m.log = owner id s.log := fun id => owner_append plain_uses id s.log
    obtain ⟨clientList, sockets⟩ := run_handles m c choice (A.packetHandler handle packet)
    have effect := @handled_effect A m c handle choice packet
    cases step_cases later with
    | reply back =>
      refine ⟨clientList, sockets, effect.of_same rfl owned rfl fun id => ?_⟩
      exact owner_append plain_send id (m.run c choice (A.packetHandler handle packet)).2.log

theorem dropped_effect (sockets : Sockets s) {c : Nat} {stack : Stack} {results : List RecvResult}
    (taken : turn A s (.drop c stack results) = some s') :
    ∃ conn, s.conns[c]? = some conn ∧ s'.provider = s.provider ∧ (∀ id, owner id s'.log = owner id s.log) ∧
      s'.clientList = s.clientList.erase conn.handle ∧ s'.sockets = s.sockets.erase conn.handle := by
  obtain ⟨m, received, later⟩ := Option.bind_eq_some_iff.1 taken
  cases step_cases received with
  | packet here parsed =>
    simp only [conns_set_self here] at later
    cases later
  | refused here parsed =>
    rename_i handle socket n
    simp only [conns_set_self here] at later
    obtain rfl : socket = some handle := sockets.running c ⟨handle, socket, .receiving⟩ here trivial
    rw [drops_run (conns_set_self here _), Option.some.injEq] at later
    subst later
    exact ⟨_, here, rfl, fun id => owner_append plain_uses id s.log, rfl, rfl⟩

theorem accepted_effect {handle : Nat} {alive : Bool} (taken : turn A s (.accept handle alive) = some s') :
    s'.provider = s.provider ∧ (∀ id, owner id s'.log = owner id s.log) ∧
      (∀ key c, s.clientList.lookup key = some c → s'.clientList.lookup key = some c) ∧
      ∀ key c, s.sockets.lookup key = some c → s'.sockets.lookup key = some c := by
  obtain ⟨m, accepted, later⟩ := Runs.exec_cons_some taken
  obtain ⟨m', emplaced, last⟩ := Runs.exec_cons_some later
  cases Option.some.inj last
  cases step_cases accepted with
  | accept fresh =>
    cases step_cases emplaced with
    | emplace here =>
      refine ⟨rfl, fun _ => rfl, fun _ _ => lookup_emplace_keep, fun key c found => ?_⟩
      have other : key ≠ handle := by
        rintro rfl
        exact fresh (mem_of_lookup found)
      exact (AList.lookup_insert_ne other).trans found
  | refuse fresh =>
    cases step_cases emplaced with
    | emplace here => exact ⟨rfl, fun _ => rfl, fun _ _ => lookup_emplace_keep, fun _ _ found => found⟩

/-- **When a turn keeps the tables consistent.** -/
theorem consistent_turn (good : s.provider.Good) (sockets : Sockets s) (h : Consistent s) {t : Turn}
    (taken : turn A s t = some s') : Consistent s' ↔ Settles A s t := by
  cases t with
  | accept handle alive =>
    obtain ⟨provider, owners, clientList, handles⟩ := accepted_effect taken
    refine iff_of_true (fun id entry found status => ?_) trivial
    rw [provider] at found
    obtain ⟨c, owned, listed, open_⟩ := h id entry found status
    exact ⟨c, (owners id).trans owned, clientList _ c listed, handles _ c open_⟩
  | request c stack results choice =>
    obtain ⟨conn, header, buff, here, parsed, clientList, handles, effect⟩ := requested_effect taken
    cases effect with
    | none clients owners idle =>
      refine iff_of_true (h.of_same clients owners clientList handles) ?_
      intro conn' header' buff' r _ parsed' arrives right absent
      cases parsed.symm.trans parsed'
      exact absurd (idle r arrives right) absent
    | login r session arrives right absent clients owners =>
      constructor
      · intro after conn' header' buff' r' here' parsed' arrives' _ _
        cases here.symm.trans here'
        cases parsed.symm.trans parsed'
        cases arrives.symm.trans arrives'
        obtain ⟨d, owned, listed, open_⟩ := after r.id
          ⟨⟨conn.handle⟩, r.id, session, s.provider.clientLogin, .accepted⟩
          (by rw [clients, AList.lookup_insert]) rfl
        rw [owners, if_pos rfl, Option.some.injEq] at owned
        subst owned
        rw [clientList] at listed
        rw [handles] at open_
        exact ⟨listed, open_⟩
      · intro settles id entry found status
        obtain ⟨listed, open_⟩ := settles conn header buff r here parsed arrives right absent
        rw [clients] at found
        rw [owners, clientList, handles]
        by_cases same : id = r.id
        · subst same
          rw [AList.lookup_insert, Option.some.injEq] at found
          subst found
          exact ⟨c, if_pos rfl, listed, open_⟩
        · rw [AList.lookup_insert_ne same] at found
          rw [if_neg (Ne.symm same)]
          exact h id entry found status
    | logout r arrives clients owners =>
      refine iff_of_true (fun id entry found status => ?_) ?_
      · rw [clients] at found
        obtain ⟨other, found⟩ := lookup_erase_some found
        rw [owners id other, clientList, handles]
        exact h id entry found status
      · intro conn' header' buff' r' _ parsed' arrives'
        cases parsed.symm.trans parsed'
        cases arrives.symm.trans arrives'
  | drop c stack results =>
    obtain ⟨conn, here, provider, owners, clientList, handles⟩ := dropped_effect sockets taken
    constructor
    · intro after conn' id entry here' found same
      cases here.symm.trans here'
      obtain ⟨d, _, _, open_⟩ := after id entry (provider ▸ found) (good id entry found).status
      rw [handles, same, AList.lookup_erase] at open_
      cases open_
    · intro settles id entry found status
      rw [provider] at found
      obtain ⟨d, owned, listed, open_⟩ := h id entry found status
      have other := settles conn id entry here found
      refine ⟨d, (owners id).trans owned, ?_, ?_⟩
      · rw [clientList, lookup_erase_ne other]
        exact listed
      · rw [handles, lookup_erase_ne other]
        exact open_

end

/-- **When the tables stay consistent.** In every run of turns: the entries name the open
connections of their logins in every state, if and only if no connection is dropped whose
handle an entry names, and no login succeeds on a connection that is not registered. -/
theorem tables_iff {A : App} {login pass : Str} {ts : List Turn} {s : State}
    (run : Runs.exec (turn A) (State.init login pass) ts = some s) :
    Runs.Throughout (turn A) Consistent (State.init login pass) ts ↔
      Runs.Along (turn A) (Settles A) (State.init login pass) ts := by
  have empty : Consistent (State.init login pass) := by
    intro id entry found
    rw [State.init, Provider.init, AList.lookup_empty] at found
    cases found
  have keep : ∀ s t s', Sound A s ∧ Sockets s → turn A s t = some s' → Sound A s' ∧ Sockets s' := by
    intro s t s' h taken
    exact ⟨turn_keeps (fun _ _ _ => sound_step) h.1 taken, turn_keeps (fun _ _ _ => sockets_step) h.2 taken⟩
  exact Runs.throughout_iff_along keep
    (fun s t s' h consistent taken => consistent_turn h.1.good h.2 consistent taken)
    ⟨sound_init login pass, sockets_init login pass⟩ empty run

/-- A client logs in and out before its connection drops. -/
def orderly : List Turn :=
  [.accept 3 true, arrives 0 (loginPacket "7"), arrives 0 (logoutPacket "7"), .drop 0 blank [.closed]]

theorem tables_orderly :
    ∃ s, Runs.exec (turn App.compact) (State.init (str "login") (str "pass")) orderly = some s ∧
      Runs.Along (turn App.compact) (Settles App.compact) (State.init (str "login") (str "pass")) orderly := by
  obtain ⟨s, run, _⟩ := Option.map_eq_some_iff.1
    (show (Runs.exec (turn App.compact) (State.init (str "login") (str "pass")) orderly).map
        (fun s => s.provider.clients.keys) = some [] by decide +kernel)
  exact ⟨s, run, (tables_iff run).1 (by decide +kernel)⟩

/-- A client logs in and its connection drops. -/
def abandoned : List Turn := [.accept 3 true, arrives 0 (loginPacket "7"), .drop 0 blank [.closed]]

/-- The entry stays when its connection is gone. -/
theorem entry_abandoned :
    ¬ ∀ (A : App) (login pass : Str) (ts : List Turn) (s : State),
      Runs.exec (turn A) (State.init login pass) ts = some s → Consistent s := by
  intro consistent
  obtain ⟨s, run, left⟩ := Option.map_eq_some_iff.1
    (show (Runs.exec (turn App.compact) (State.init (str "login") (str "pass")) abandoned).map
        (fun s => decide (Consistent s)) = some false by decide +kernel)
  exact of_decide_eq_false left (consistent App.compact _ _ abandoned s run)

end Gologin.Server
