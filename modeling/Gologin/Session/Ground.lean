import Gologin.Session.Service

/-!
# What a world keeps

Every step keeps what the view of the clients rests on: the threads of the server run
orderly programs, its sockets stay with their connections, the requests on the links are
requests, and what it has put on them can be read.
-/

namespace Gologin.Session
set_option autoImplicit false
open Calls Messages Tcp Auth Tables

/-! ## The server -/

/-- A program stays orderly. -/
theorem Orderly.next {J : Nlohmann} {call : Server.Call} {next : call.Answer → Server.Handling Packet}
    (orderly : Orderly J (.call call next)) {x : call.Answer} (ok : Server.AnswerOk call x) : Orderly J (next x) := by
  cases orderly with
  | login tells =>
    obtain ⟨status, session⟩ := x
    obtain ⟨packet, last, tell⟩ := tells status session ok
    rw [last]
    exact .done (Or.inr ⟨_, tell⟩)
  | logout tells =>
    obtain ⟨packet, last, tell⟩ := tells x
    rw [last]
    exact .done (Or.inr ⟨_, tell⟩)
  | message always =>
    have rest := always.2 x ok
    cases program : next x with
    | done packet =>
      rw [program] at rest
      exact .done (rest.imp_right fun tells => ⟨_, tells⟩)
    | call call' next' =>
      rw [program] at rest
      exact .message rest

/-- No call changes the credentials. -/
theorem outcome_credentials (s : Server.State) (c : Nat) (choice : Server.Choice) (call : Server.Call) :
    (s.outcome c choice call).2.1.clientLogin = s.provider.clientLogin ∧
      (s.outcome c choice call).2.1.clientPass = s.provider.clientPass := by
  cases call with
  | addClient id cookies l p session =>
    rcases @Provider.addClient_cases s.provider id choice.draw cookies l p session with
      ⟨_, _, same⟩ | ⟨_, _, same⟩ | ⟨_, same⟩ <;>
      simp only [Server.State.outcome, same, and_self]
  | remClient id session =>
    by_cases present : id ∈ s.provider.clients
    · simp only [Server.State.outcome, Provider.remClient_of_mem present, and_self]
    · simp only [Server.State.outcome, Provider.remClient_of_not_mem present, and_self]
  | statusClient | getClients | sendTo => exact ⟨rfl, rfl⟩

/-- What an orderly call writes can be read. -/
theorem Orderly.writes {J : Nlohmann} {s : Server.State} {c : Nat} {choice : Server.Choice} {call : Server.Call}
    {next : call.Answer → Server.Handling Packet} (orderly : Orderly J (.call call next)) {packet : Packet} {d via : Nat}
    {on : Option Nat} (member : .wrote d via on packet ∈ (s.outcome c choice call).2.2) :
    ∃ a, Gui.answer J packet = some a := by
  obtain ⟨_, _, _, _, _, _, rfl, _, _, _, same⟩ := Server.mem_outcome member
  cases same
  cases orderly with
  | message always =>
    obtain ⟨request, read⟩ := always.1
    exact ⟨_, read⟩

theorem mem_onWire {l : Nat} {entries : List Server.Entry} {packet : Packet} (member : packet ∈ onWire l entries) :
    (∃ c via, .wrote c via (some l) packet ∈ entries) ∨ ∃ c, .replied c (some l) packet ∈ entries := by
  induction entries with
  | nil => cases member
  | cons e entries ih =>
    have later (found : packet ∈ onWire l entries) :
        (∃ c via, .wrote c via (some l) packet ∈ e :: entries) ∨ ∃ c, .replied c (some l) packet ∈ e :: entries := by
      rcases ih found with ⟨c, via, more⟩ | ⟨c, more⟩
      · exact Or.inl ⟨c, via, List.mem_cons_of_mem e more⟩
      · exact Or.inr ⟨c, List.mem_cons_of_mem e more⟩
    cases e with
    | wrote c via on p =>
      unfold onWire at member
      split at member
      · rename_i on_
        rcases List.mem_cons.1 member with rfl | more
        · exact Or.inl ⟨c, via, on_ ▸ List.mem_cons_self⟩
        · exact later more
      · exact later member
    | replied c on p =>
      unfold onWire at member
      split at member
      · rename_i on_
        rcases List.mem_cons.1 member with rfl | more
        · exact Or.inr ⟨c, on_ ▸ List.mem_cons_self⟩
        · exact later more
      · exact later member
    | _ => exact later member

section
variable {A : Server.App} {login pass : Str} {w w' : World}

/-- What a step puts on the links. -/
theorem Grounded.writes (h : Grounded A login pass w) {server : Server.State} (beat : Beat w.server server) :
    ∃ entries, server.log = entries ++ w.server.log ∧ ∀ l, ∀ packet ∈ onWire l entries,
      l < w.server.conns.length ∧ ∃ a, Gui.answer A.json packet = some a := by
  cases beat with
  | accept started conns provider log => exact ⟨[], log, fun _ _ member => absurd member List.not_mem_nil⟩
  | idle here conns before behind provider log none =>
    refine ⟨_, log, fun l packet member => ?_⟩
    rw [none l] at member
    cases member
  | call here conns provider log =>
    refine ⟨_ :: _, log, fun l packet member => ?_⟩
    rcases mem_onWire (show packet ∈ onWire l (w.server.outcome _ _ _).2.2 from member) with
      ⟨c, via, wrote⟩ | ⟨c, wrote⟩
    · obtain ⟨_, _, _, _, _, handle, _, _, _, _, same⟩ := Server.mem_outcome wrote
      obtain ⟨_, _, on_, _⟩ := Server.Entry.wrote.inj same
      obtain ⟨conn, there, _⟩ := h.sockets.held handle l on_.symm
      exact ⟨(List.getElem?_eq_some_iff.1 there).1, (h.threads _ _ _ here rfl).writes wrote⟩
    · obtain ⟨_, _, _, _, _, _, _, _, _, _, same⟩ := Server.mem_outcome wrote
      cases same
  | reply here conns provider log =>
    rename_i c handle socket packet
    rw [h.held.reply h.sockets here] at log
    refine ⟨_, log, fun l p member => ?_⟩
    split at member
    · cases member
    · rename_i full
      unfold onWire at member
      split at member
      · rename_i on_
        obtain rfl := Option.some.inj on_
        obtain rfl := List.mem_singleton.1 member
        refine ⟨(List.getElem?_eq_some_iff.1 here).1, ?_⟩
        rcases h.threads _ _ _ here rfl with ⟨silent | ⟨r, tells⟩⟩
        · exact absurd silent full
        · exact ⟨tells.read.choose, tells.read.choose_spec.1⟩
      · cases member

/-- Connections are added by an `accept` alone. -/
theorem beat_length {s s' : Server.State} (beat : Beat s s') :
    s'.conns.length = s.conns.length ∨ s'.conns.length = s.conns.length + 1 := by
  cases beat with
  | accept started conns => simp [conns]
  | idle here conns | call here conns | reply here conns => simp [conns]

theorem beat_credentials {s s' : Server.State} (beat : Beat s s') :
    s'.provider.clientLogin = s.provider.clientLogin ∧ s'.provider.clientPass = s.provider.clientPass := by
  cases beat with
  | call here conns provider log =>
    rw [provider]
    exact outcome_credentials _ _ _ _
  | accept _ _ provider | idle _ _ _ _ provider | reply _ _ provider => simp only [provider, and_self]

/-- The threads stay orderly. -/
theorem Grounded.threads_beat (h : Grounded A login pass w) {server : Server.State} (beat : Beat w.server server)
    (l : Nat) (conn : Server.Conn) (program : Server.Handling Packet) (found : server.conns[l]? = some conn)
    (phase : conn.phase = .handling program) : Orderly A.json program := by
  cases beat with
  | accept started conns provider log =>
    rw [conns] at found
    rcases Server.conns_append found with ⟨_, rfl⟩ | old
    · cases started.symm.trans phase
    · exact h.threads l conn program old phase
  | idle here conns before behind provider log none =>
    rw [conns] at found
    rcases Server.conns_set found with ⟨_, rfl⟩ | ⟨_, old⟩
    · exact absurd phase (behind program)
    · exact h.threads l conn program old phase
  | call here conns provider log =>
    rename_i c handle socket choice call next
    rw [conns] at found
    rcases Server.conns_set found with ⟨_, rfl⟩ | ⟨_, old⟩
    · cases phase
      obtain ⟨_, _, ok, _⟩ := h.sound.threads c _ _ here rfl
      exact (h.threads c _ _ here rfl).next (Server.outcome_ok h.sound.good c choice ok).2
    · exact h.threads l conn program old phase
  | reply here conns provider log =>
    rw [conns] at found
    rcases Server.conns_set found with ⟨_, rfl⟩ | ⟨_, old⟩
    · cases phase
    · exact h.threads l conn program old phase

/-- What is put on the links adds to what was. -/
theorem Grounded.log_append (h : Grounded A login pass w) {server : Server.State} {entries : List Server.Entry}
    (log : server.log = entries ++ w.server.log) (longer : w.server.conns.length ≤ server.conns.length)
    (good : ∀ l, ∀ packet ∈ onWire l entries, l < w.server.conns.length ∧ ∃ a, Gui.answer A.json packet = some a) :
    (∀ l, ∀ packet ∈ onWire l server.log, l < server.conns.length ∧ ∃ a, Gui.answer A.json packet = some a) ∧
      ∀ l, (w.links l).received ≤ (onWire l server.log).length := by
  constructor
  · intro l packet member
    rw [log, onWire_append, List.mem_append] at member
    rcases member with new | old
    · exact ⟨Nat.lt_of_lt_of_le (good l packet new).1 longer, (good l packet new).2⟩
    · exact ⟨Nat.lt_of_lt_of_le (h.written l packet old).1 longer, (h.written l packet old).2⟩
  · intro l
    rw [log, onWire_append, List.length_append]
    have := h.received l
    omega

/-- A step of the server but a `recv` that leads to a handler. -/
theorem grounded_beat (h : Grounded A login pass w) {e : Server.Event} {server : Server.State}
    (taken : Server.step A w.server e = some server)
    (accepts : ∀ handle alive, e = .accept handle alive → alive = true ∧ w.server.conns.length < w.opened)
    (quiet : ¬ Handles server e) : Grounded A login pass { w with server := server } := by
  have alive : ∀ handle, e ≠ .accept handle false := by
    rintro handle rfl
    exact absurd (accepts handle false rfl).1 nofun
  have beat := beat_of_step taken alive quiet
  have longer := beat_length beat
  obtain ⟨entries, log, good⟩ := h.writes beat
  obtain ⟨written, received⟩ := h.log_append log (by omega) good
  obtain ⟨sameLogin, samePass⟩ := beat_credentials beat
  refine ⟨Server.sound_step h.sound taken, Server.sockets_step h.sockets taken, Server.held_step h.held taken alive,
    ⟨sameLogin.trans h.credentials.1, samePass.trans h.credentials.2⟩, h.threads_beat beat, h.queued, written, received,
    ?_, h.unopened, h.linked⟩
  cases Server.step_cases taken with
  | accept fresh =>
    have room := (accepts _ true rfl).2
    simp only [List.length_append, List.length_singleton]
    omega
  | refuse fresh => exact absurd rfl (alive _)
  | _ => exact Nat.le_trans (Nat.le_of_eq List.length_set) h.accepted

/-- A `recv` that takes a request off its link. -/
theorem receive_cases {c : Nat} {stack : Stack} {packet : Packet} {server : Server.State}
    (taken : Server.step A w.server (.recv c stack (Server.whole packet)) = some server)
    (handles : Handles server (.recv c stack (Server.whole packet))) (requested : Requested A packet) :
    ∃ handle socket entries, w.server.conns[c]? = some ⟨handle, socket, .receiving⟩ ∧
      server.conns = w.server.conns.set c ⟨handle, socket, .handling (A.packetHandler handle packet)⟩ ∧
      server.provider = w.server.provider ∧ server.log = entries ++ w.server.log ∧ ∀ l, onWire l entries = [] := by
  cases Server.step_cases taken with
  | packet here received =>
    have same := recv_requested requested received stack.beyond
    refine ⟨_, _, .received c _ :: w.server.uses _ (.read c), here, ?_, rfl, rfl, fun l => onWire_reads l _ _ _⟩
    rw [same]
  | refused here received =>
    obtain ⟨_, _, _, there⟩ := handles
    rw [Server.conns_set_self here] at there
    cases there

theorem grounded_receive (h : Grounded A login pass w) {c : Nat} {stack : Stack} {packet : Packet} {rest : List Packet}
    {server : Server.State} (first : (w.links c).requests = packet :: rest)
    (taken : Server.step A w.server (.recv c stack (Server.whole packet)) = some server)
    (handles : Handles server (.recv c stack (Server.whole packet))) : Grounded A login pass (w.take c rest server) := by
  have requested := h.queued c packet (first ▸ List.mem_cons_self)
  obtain ⟨handle, socket, entries, here, conns, provider, log, none⟩ := receive_cases taken handles requested
  have length : server.conns.length = w.server.conns.length := by
    rw [conns, List.length_set]
  obtain ⟨written, received⟩ := h.log_append log (by omega) fun l packet member => by
    rw [none l] at member
    cases member
  have links (l : Nat) : ((w.take c rest server).links l).received = (w.links l).received ∧
      ∀ p ∈ ((w.take c rest server).links l).requests, p ∈ (w.links l).requests := by
    unfold World.take
    by_cases same : l = c
    · subst same
      simp only [Function.update_self, first]
      exact ⟨trivial, fun p member => List.mem_cons_of_mem packet member⟩
    · simp only [Function.update_of_ne same]
      exact ⟨trivial, fun p member => member⟩
  refine ⟨Server.sound_step h.sound taken, Server.sockets_step h.sockets taken,
    Server.held_step h.held taken nofun, provider ▸ h.credentials, ?_, ?_, written, ?_, ?_, ?_, h.linked⟩
  · intro l conn program found phase
    change server.conns[l]? = _ at found
    rw [conns] at found
    rcases Server.conns_set found with ⟨_, rfl⟩ | ⟨_, old⟩
    · cases phase
      exact (@packetHandler_orderly A login pass handle packet requested).1
    · exact h.threads l conn program old phase
  · exact fun l p member => h.queued l p ((links l).2 p member)
  · intro l
    rw [(links l).1]
    exact received l
  · exact Nat.le_trans (Nat.le_of_eq length) h.accepted
  · intro l beyond
    have other : l ≠ c := by
      rintro rfl
      rw [h.unopened l beyond] at first
      cases first
    change Function.update w.links c _ l = _
    rw [Function.update_of_ne other]
    exact h.unopened l beyond

/-! ## The clients -/

/-- A client stays on its link, leaves it, or is on a new one. -/
theorem act_link {B : Gui.App A.json} {c c' : Gui.Client} {e : Gui.Event} {sent : List Packet}
    (acted : Gui.act B c e = some (c', sent)) :
    c'.link = c.link ∨ c'.link = none ∨ ∃ address result n id ok, e = .connect address result n id ok ∧
      c'.link = some n := by
  have connected (result : Gui.Client.ConnectResult) (n : Nat) :
      (c.connect result n).link = c.link ∨ (c.connect result n).link = none ∨ (c.connect result n).link = some n := by
    unfold Gui.Client.connect
    split
    · exact Or.inl rfl
    · cases result with
      | initError | connectError => exact Or.inl rfl
      | unresolved => exact Or.inr (Or.inl rfl)
      | up => exact Or.inr (Or.inr rfl)
  cases Gui.act_cases acted with
  | unheard clickable up =>
    rename_i result n clientId _ _
    exact (connected result n).imp_right fun more => more.imp_right fun new => ⟨_, result, n, clientId, _, rfl, new⟩
  | hello clickable up packed =>
    rename_i result n clientId _
    exact (connected result n).imp_right fun more => more.imp_right fun new => ⟨_, result, n, clientId, _, rfl, new⟩
  | disconnect clickable down =>
    change c.disconnect.link = c.link ∨ c.disconnect.link = none ∨ _
    unfold Gui.Client.disconnect
    split
    · exact Or.inr (Or.inl rfl)
    · exact Or.inl rfl
  | receive up => exact Or.inl (Gui.receive_rest B _ c).2.1
  | _ => exact Or.inl rfl

/-- What a client's step does to a link. -/
theorem links_after (k : Nat) (e : Gui.Event) (c : Gui.Client) (sent : List Packet) (l : Nat) :
    (w.after k e c sent).links l = if c.link = some l then
      ⟨(w.links l).requests ++ sent, (w.links l).received + reads e⟩ else w.links l := by
  unfold World.after World.carry
  cases link : c.link with
  | none => rfl
  | some n =>
    by_cases same : l = n
    · subst same
      rw [if_pos rfl]
      exact Function.update_self _ _ _
    · rw [if_neg fun at_ => same (Option.some.inj at_).symm]
      exact Function.update_of_ne same _ _

/-- A client reads what is there. -/
theorem Grounded.reads (h : Grounded A login pass w) {B : Gui.App A.json} {k : Nat} {e : Gui.Event} {c : Gui.Client}
    {sent : List Packet} (admitted : w.Admits (w.clients k) e) (acted : Gui.act B (w.clients k) e = some (c, sent))
    {l : Nat} (link : c.link = some l) : (w.links l).received + Session.reads e ≤ (onWire l w.server.log).length := by
  have before := h.received l
  cases e with
  | receive packet =>
    have same : c.link = (w.clients k).link := by
      simp only [Gui.act] at acted
      split at acted
      · cases acted
        exact (Gui.receive_rest B packet _).2.1
      · cases acted
    simp only [World.Admits, ← same, link, Option.bind_some] at admitted
    have some_ : w.unread l ≠ [] := by
      intro empty
      rw [empty] at admitted
      cases admitted
    have positive := List.length_pos_of_ne_nil some_
    simp only [World.unread, World.delivered, List.length_drop, List.length_reverse] at positive
    change (w.links l).received + 1 ≤ _
    omega
  | _ => exact before

theorem grounded_client (h : Grounded A login pass w) {B : Gui.App A.json} {k : Nat} {e : Gui.Event} {c : Gui.Client}
    {sent : List Packet} (admitted : w.Admits (w.clients k) e)
    (acted : Gui.act B (w.clients k) e = some (c, sent)) : Grounded A login pass (w.after k e c sent) := by
  have grown : w.opened ≤ (w.after k e c sent).opened := by
    unfold World.after
    dsimp only
    split <;> omega
  have linked : ∀ l, c.link = some l → l < (w.after k e c sent).opened := by
    intro l link
    rcases act_link acted with same | none | ⟨_, _, n, _, _, rfl, new⟩
    · exact Nat.lt_of_lt_of_le (h.linked k l (same ▸ link)) grown
    · cases none.symm.trans link
    · cases new.symm.trans link
      cases admitted
      unfold World.after
      simp only [new, if_true]
      omega
  refine ⟨h.sound, h.sockets, h.held, h.credentials, h.threads, ?_, h.written, ?_, Nat.le_trans h.accepted grown, ?_, ?_⟩
  · intro l packet member
    rw [links_after] at member
    split at member
    · rcases List.mem_append.1 member with old | new
      · exact h.queued l packet old
      · exact requested_act acted packet new
    · exact h.queued l packet member
  · intro l
    rw [links_after]
    split
    · rename_i link
      exact h.reads admitted acted link
    · exact h.received l
  · intro l beyond
    rw [links_after, if_neg fun link => absurd (linked l link) (Nat.not_lt.2 beyond)]
    exact h.unopened l (Nat.le_trans grown beyond)
  · intro j l link
    change (Function.update w.clients k c j).link = some l at link
    by_cases same : j = k
    · subst same
      rw [Function.update_self] at link
      exact linked l link
    · rw [Function.update_of_ne same] at link
      exact Nat.lt_of_lt_of_le (h.linked j l link) grown

/-! ## Every step -/

/-- **Every step keeps what the view of the clients rests on.** -/
theorem grounded_step (h : Grounded A login pass w) {B : Gui.App A.json} {e : Event} (taken : step A B w e = some w') :
    Grounded A login pass w' := by
  cases step_cases taken with
  | client admitted acted carried => exact grounded_client h admitted acted
  | receive first done handles => exact grounded_receive h first done handles
  | server done accepts quiet => exact grounded_beat h done accepts quiet

/-- **A step of the server serves a request, or nothing.** -/
theorem served_step (h : Grounded A login pass w) {B : Gui.App A.json} {e : Server.Event}
    (taken : step A B w (.server e) = some w') :
    Served A login pass w w' ∧ w'.clients = w.clients ∧ w'.ids = w.ids := by
  cases step_cases taken with
  | receive first done handles =>
    have requested := h.queued _ _ (first ▸ List.mem_cons_self)
    obtain ⟨handle, socket, entries, here, conns, provider, log, none⟩ := receive_cases done handles requested
    exact ⟨h.receives here conns provider first rfl log none, rfl, rfl⟩
  | server done accepts quiet =>
    have alive : ∀ handle, e ≠ .accept handle false := by
      rintro handle rfl
      exact absurd (accepts handle false rfl).1 nofun
    exact ⟨h.beat (beat_of_step done alive quiet), rfl, rfl⟩

end

/-- The world before anything happens. -/
theorem grounded_init (A : Server.App) (login pass : Str) (clientIds : Nat → UInt64) :
    Grounded A login pass (.init login pass clientIds) where
  sound := Server.sound_init login pass
  sockets := Server.sockets_init login pass
  held := Server.held_init login pass
  credentials := ⟨rfl, rfl⟩
  threads := nofun
  queued := nofun
  written := nofun
  received _ := Nat.le_refl _
  accepted := Nat.le_refl _
  unopened _ _ := rfl
  linked := nofun

end Gologin.Session
