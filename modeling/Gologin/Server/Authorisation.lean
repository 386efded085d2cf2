import Gologin.Server.Sequential

/-!
# Requests that name a session

A ping, a message and a logout carry an id and a session. `provider::status_client` and
`provider::rem_client` take the session and do not look at it, so these requests succeed
for every session once the id is logged in. `authorisation_iff` says for which requests
this makes no difference.
-/

namespace Gologin.Server
set_option autoImplicit false
open Calls Messages Auth Tcp Tables

/-- The requests that name a session. -/
inductive Guarded where
  | ping (request : Client.PingRequest)
  | message (request : Client.MsgRequest)
  | logout (request : Client.ByeRequest)
  deriving DecidableEq, Repr

namespace Guarded

def request : Guarded → Request
  | ping r => .ping r
  | message r => .message r
  | logout r => .logout r

def id : Guarded → UInt64
  | ping r => r.id
  | message r => r.id
  | logout r => r.id

def session : Guarded → Str
  | ping r => r.session
  | message r => r.session
  | logout r => r.session

/-- The handler of a request, and the `status` of its response. -/
def handler (J : Nlohmann) (cookies : ClientCookies) : Guarded → Handling (Option Str)
  | ping r => (clientPingPacketHandler cookies r).bind fun resp => .done (resp.map (·.status))
  | message r => (clientMessagePacketHandler J cookies r).bind fun resp => .done (resp.map (·.status))
  | logout r => (clientLogoutPacketHandler cookies r).bind fun resp => .done (resp.map (·.status))

end Guarded

/-- The broadcasts made, newest first: to which cookie, under which command, and what the
body decodes to. -/
def broadcasts (J : Nlohmann) : List Entry → List (ClientCookies × Str × Option Server.MsgRequest)
  | [] => []
  | .called _ (.sendTo cookies cmd buff) _ :: log =>
    (cookies, cmd, packerFrom J Server.MsgRequest buff) :: broadcasts J log
  | _ :: log => broadcasts J log

/-- The provider holds an accepted entry for the id of the request with its session. -/
def Holds (s : State) (g : Guarded) : Prop :=
  ∃ entry, s.provider.clients.lookup g.id = some entry ∧ entry.status = .accepted ∧ entry.session = g.session

/-- The clients that the success branch leaves. -/
def Guarded.leaves (s : State) : Guarded → Table UInt64 AuthClient
  | ping _ => s.provider.clients
  | message _ => s.provider.clients
  | logout r => s.provider.clients.erase r.id

/-- What the success branch broadcasts, newest first: a packet to each accepted client. -/
def Guarded.sends (s : State) (choice : Choice) : Guarded → List (ClientCookies × Str × Option Server.MsgRequest)
  | ping _ => []
  | message r =>
    ((s.provider.getClients choice.order .accepted).map fun client =>
      (client.cookie, Commands.msg, some (clientRequest client r.body))).reverse
  | logout _ => []

section
variable (A : App) (s : State) (c : Nat) (choice : Choice) (cookies : ClientCookies)

/-- The success branch. -/
structure Granted (g : Guarded) : Prop where
  status : (s.run c choice (g.handler A.json cookies)).1 = some (str "ok")
  clients : (s.run c choice (g.handler A.json cookies)).2.provider.clients = g.leaves s
  broadcast : broadcasts A.json (s.run c choice (g.handler A.json cookies)).2.log =
    g.sends s choice ++ broadcasts A.json s.log

/-- The answer `failed`: nothing is broadcast and the clients stay as they are. -/
structure Refused (g : Guarded) : Prop where
  status : (s.run c choice (g.handler A.json cookies)).1 = some (str "failed")
  clients : (s.run c choice (g.handler A.json cookies)).2.provider.clients = s.provider.clients
  broadcast : broadcasts A.json (s.run c choice (g.handler A.json cookies)).2.log = broadcasts A.json s.log

/-- The request succeeds exactly when its session is the one of the id's entry. -/
def Conforms (g : Guarded) : Prop :=
  (Holds s g → Granted A s c choice cookies g) ∧ (¬ Holds s g → Refused A s c choice cookies g)

end

/-- The id of the request has no entry, or one with its session. -/
def SessionMatches (s : State) (g : Guarded) : Prop :=
  ∀ entry, s.provider.clients.lookup g.id = some entry → entry.session = g.session

section
variable {A : App} {s : State} {c : Nat} {choice : Choice} {cookies : ClientCookies}

theorem broadcasts_append {J : Nlohmann} {entries : List Entry}
    (quiet : ∀ c call answer, .called c call answer ∉ entries) (log : List Entry) :
    broadcasts J (entries ++ log) = broadcasts J log := by
  induction entries with
  | nil => rfl
  | cons e entries ih =>
    have rest := ih fun c call answer member => quiet c call answer (by simp [member])
    cases e with
    | called c call answer => exact absurd List.mem_cons_self (quiet c call answer)
    | _ => exact rest

/-- The loop of a broadcast sends one packet to each client. -/
theorem broadcast_run {body : Str} (text : Utf8.valid body = true) {clients : List AuthClient}
    (good : ∀ client ∈ clients, Utf8.valid client.login = true ∧ Utf8.valid client.session = true) :
    (s.run c choice (broadcast A.json body clients)).1 = some () ∧
      (s.run c choice (broadcast A.json body clients)).2.provider = s.provider ∧
      broadcasts A.json (s.run c choice (broadcast A.json body clients)).2.log =
        (clients.map fun client => (client.cookie, Commands.msg, some (clientRequest client body))).reverse ++
          broadcasts A.json s.log := by
  induction clients generalizing s with
  | nil => exact ⟨rfl, rfl, rfl⟩
  | cons client rest ih =>
    obtain ⟨login, session⟩ := good client (by simp)
    obtain ⟨buff, packed⟩ := packerTo_some A.json (clientRequest_utf8 text login session)
    have program : broadcast A.json body (client :: rest) =
        .call (.sendTo client.cookie Commands.msg buff) fun _ => broadcast A.json body rest := by
      rw [broadcast, packed]
      rfl
    have first : broadcasts A.json (s.after c choice (.sendTo client.cookie Commands.msg buff)).log =
        (client.cookie, Commands.msg, some (clientRequest client body)) :: broadcasts A.json s.log := by
      change (_, _, packerFrom A.json Server.MsgRequest buff) ::
        broadcasts A.json ((s.outcome c choice (.sendTo client.cookie Commands.msg buff)).2.2 ++ s.log) = _
      rw [packerFrom_packerTo A.json packed, broadcasts_append]
      intro c' call answer member
      obtain ⟨_, _, _, _, _, _, _, _, _, _, same⟩ := mem_outcome member
      cases same
    obtain ⟨done, kept, sent⟩ := @ih (s.after c choice (.sendTo client.cookie Commands.msg buff))
      fun client member => good client (by simp [member])
    rw [program, State.run_call]
    refine ⟨done, kept, ?_⟩
    rw [sent, first]
    simp only [List.map_cons, List.reverse_cons, List.append_assoc, List.singleton_append]

/-- A request for an id that is logged in succeeds, whatever its session. -/
theorem granted_of_entry (good : s.provider.Good) {g : Guarded} (text : g.request.Text) {entry : AuthClient}
    (found : s.provider.clients.lookup g.id = some entry) : Granted A s c choice cookies g := by
  cases g with
  | ping r =>
    have accepted : s.provider.statusClient r.id r.session = .accepted :=
      Provider.statusClient_some good found r.session
    have run : s.run c choice ((Guarded.ping r).handler A.json cookies) =
        (some (str "ok"), s.after c choice (.statusClient r.id r.session)) := by
      change (s.after c choice (.statusClient r.id r.session)).run c choice (Program.bind
        (if s.provider.statusClient r.id r.session = .accepted then _ else _) _) = _
      rw [if_pos accepted]
      rfl
    constructor <;> rw [run] <;> rfl
  | message r =>
    have accepted : s.provider.statusClient r.id r.session = .accepted :=
      Provider.statusClient_some good found r.session
    obtain ⟨_, _, body, _, _⟩ := text
    have texts : ∀ client ∈ s.provider.getClients choice.order .accepted,
        Utf8.valid client.login = true ∧ Utf8.valid client.session = true := by
      intro client member
      obtain ⟨_, _, _, login, draw, session⟩ := good _ _ ((Provider.mem_getClients good choice.order).1 member)
      exact ⟨login, session ▸ draw.session_utf8⟩
    let listed := (s.after c choice (.statusClient r.id r.session)).after c choice (.getClients .accepted)
    obtain ⟨done, kept, sent⟩ := @broadcast_run A listed c choice r.body body _ texts
    have run : s.run c choice ((Guarded.message r).handler A.json cookies) =
        (some (str "ok"),
          (listed.run c choice
            (broadcast A.json r.body (s.provider.getClients choice.order .accepted))).2) := by
      change (s.after c choice (.statusClient r.id r.session)).run c choice (Program.bind
        (if s.provider.statusClient r.id r.session = .accepted then _ else _) _) = _
      rw [if_pos accepted]
      change listed.run c choice (Program.bind (Program.bind
        (broadcast A.json r.body (s.provider.getClients choice.order .accepted)) _) _) = _
      rw [State.run_bind, State.run_bind, done]
      rfl
    constructor
    · rw [run]
    · rw [run, kept]
      rfl
    · rw [run, sent]
      rfl
  | logout r =>
    have removed : s.provider.remClient r.id r.session = (.removed, _) :=
      Provider.remClient_of_mem (mem_of_lookup found) r.session
    have run : s.run c choice ((Guarded.logout r).handler A.json cookies) =
        (some (str "ok"), s.after c choice (.remClient r.id r.session)) := by
      change (s.after c choice (.remClient r.id r.session)).run c choice (Program.bind
        (if (s.provider.remClient r.id r.session).1 = .removed then _ else _) _) = _
      rw [removed, if_pos rfl]
      rfl
    constructor
    · rw [run]
    · rw [run]
      change (s.provider.remClient r.id r.session).2.clients = _
      rw [removed]
      rfl
    · rw [run]
      rfl

/-- A request for an id that is not logged in is refused. -/
theorem refused_of_none {g : Guarded} (absent : s.provider.clients.lookup g.id = none) :
    Refused A s c choice cookies g := by
  cases g with
  | ping r =>
    have unknown : s.provider.statusClient r.id r.session = .notFound :=
      Provider.statusClient_none absent r.session
    have run : s.run c choice ((Guarded.ping r).handler A.json cookies) =
        (some (str "failed"), s.after c choice (.statusClient r.id r.session)) := by
      change (s.after c choice (.statusClient r.id r.session)).run c choice (Program.bind
        (if s.provider.statusClient r.id r.session = .accepted then _ else _) _) = _
      rw [unknown, if_neg nofun]
      rfl
    constructor <;> rw [run] <;> rfl
  | message r =>
    have unknown : s.provider.statusClient r.id r.session = .notFound :=
      Provider.statusClient_none absent r.session
    have run : s.run c choice ((Guarded.message r).handler A.json cookies) =
        (some (str "failed"), s.after c choice (.statusClient r.id r.session)) := by
      change (s.after c choice (.statusClient r.id r.session)).run c choice (Program.bind
        (if s.provider.statusClient r.id r.session = .accepted then _ else _) _) = _
      rw [unknown, if_neg nofun]
      rfl
    constructor <;> rw [run] <;> rfl
  | logout r =>
    have unknown : s.provider.remClient r.id r.session = (.notFound, s.provider) :=
      Provider.remClient_of_not_mem (not_mem_iff_lookup.2 absent) r.session
    have run : s.run c choice ((Guarded.logout r).handler A.json cookies) =
        (some (str "failed"), s.after c choice (.remClient r.id r.session)) := by
      change (s.after c choice (.remClient r.id r.session)).run c choice (Program.bind
        (if (s.provider.remClient r.id r.session).1 = .removed then _ else _) _) = _
      rw [unknown, if_neg nofun]
      rfl
    constructor
    · rw [run]
    · rw [run]
      change (s.provider.remClient r.id r.session).2.clients = _
      rw [unknown]
    · rw [run]
      rfl

end

/-- **Which requests the session decides.** In every state that any sequence of turns
reaches, a ping, message or logout request that arrives succeeds exactly with the session
of its id's entry, and is refused otherwise, if and only if its id has no entry or its
session is the one of the entry. What is refused or answered is the handler's response; the
response to a message whose id has a low byte from 128 on is not written. -/
theorem authorisation_iff {A : App} {login pass : Str} {ts : List Turn} {s : State} {packet : Packet}
    {g : Guarded} (run : Runs.exec (turn A) (State.init login pass) ts = some s)
    (arrives : A.request packet = some g.request) (c : Nat) (choice : Choice) (cookies : ClientCookies) :
    Conforms A s c choice cookies g ↔ SessionMatches s g := by
  have good : s.provider.Good :=
    (Runs.exec_invariant (fun _ _ _ => turn_keeps fun _ _ _ => sound_step) (sound_init login pass) run : Sound A s).good
  have text : g.request.Text := request_text A arrives
  constructor
  · intro conforms entry found
    by_contra other
    have refused := conforms.2 (by
      rintro ⟨entry', found', _, same⟩
      rw [found, Option.some.injEq] at found'
      exact other (found' ▸ same))
    have granted : Granted A s c choice cookies g := granted_of_entry good text found
    exact absurd (granted.status.symm.trans refused.status) (by decide)
  · intro matching
    constructor
    · rintro ⟨entry, found, _, _⟩
      exact granted_of_entry good text found
    · intro none
      apply refused_of_none
      cases found : s.provider.clients.lookup g.id with
      | none => rfl
      | some entry => exact absurd ⟨entry, found, (good _ _ found).status, matching entry found⟩ none

/-- A client logs in under the id 7, and the session drawn for it is all `a`. -/
def login7 : List Turn :=
  [.accept 3 true,
    .request 0 blank
      (whole ⟨Commands.auth, str "\x7b\"id\":7,\"login\":\"login\",\"password\":\"pass\"\x7d"⟩)
      someChoice]

def session7 : Str := str "aaaaaaaaaaaaaaaaaaaaaaaaaaaaaaaa"

theorem login7_entry :
    ∃ s, Runs.exec (turn App.compact) (State.init (str "login") (str "pass")) login7 = some s ∧
      s.provider.clients.lookup 7 = some ⟨⟨3⟩, 7, session7, str "login", .accepted⟩ :=
  Option.map_eq_some_iff.1
    (show (Runs.exec (turn App.compact) (State.init (str "login") (str "pass")) login7).map
        (fun s => s.provider.clients.lookup 7) = some (some ⟨⟨3⟩, 7, session7, str "login", .accepted⟩)
      by decide +kernel)

/-- A ping under the id 7, with its session and with another. -/
theorem ping7 :
    App.compact.request ⟨Commands.ping, str "\x7b\"id\":7,\"session\":\"aaaaaaaaaaaaaaaaaaaaaaaaaaaaaaaa\"\x7d"⟩ =
        some (.ping ⟨7, [], session7⟩) ∧
      App.compact.request ⟨Commands.ping, str "\x7b\"id\":7,\"session\":\"x\"\x7d"⟩ =
        some (.ping ⟨7, [], str "x"⟩) := by
  decide +kernel

/-- The client's own session is accepted as it should be, and another is not refused. -/
theorem authorisation_ping7 :
    ∃ s, Runs.exec (turn App.compact) (State.init (str "login") (str "pass")) login7 = some s ∧
      Conforms App.compact s 0 ⟨fun _ => 0, default⟩ ⟨3⟩ (.ping ⟨7, [], session7⟩) ∧
      ¬ Conforms App.compact s 0 ⟨fun _ => 0, default⟩ ⟨3⟩ (.ping ⟨7, [], str "x"⟩) := by
  obtain ⟨s, run, found⟩ := login7_entry
  refine ⟨s, run, ?_, ?_⟩
  · apply (authorisation_iff run ping7.1 0 _ _).2
    intro entry found'
    cases found.symm.trans found'
    rfl
  · intro conforms
    exact absurd ((authorisation_iff run ping7.2 0 _ _).1 conforms _ found) (by decide)

/-- The ping with another session is answered `ok`. -/
theorem forged_ping7 :
    ¬ ∀ (A : App) (login pass : Str) (ts : List Turn) (s : State) (packet : Packet) (g : Guarded),
      Runs.exec (turn A) (State.init login pass) ts = some s → A.request packet = some g.request →
      ∀ (c : Nat) (choice : Choice) (cookies : ClientCookies), Conforms A s c choice cookies g := by
  intro conforms
  obtain ⟨s, run, found⟩ := login7_entry
  have good : s.provider.Good :=
    (Runs.exec_invariant (fun _ _ _ => turn_keeps fun _ _ _ => sound_step)
      (sound_init (str "login") (str "pass")) run : Sound App.compact s).good
  have refused := (conforms App.compact _ _ _ s _ (.ping ⟨7, [], str "x"⟩) run ping7.2 0
    ⟨fun _ => 0, default⟩ ⟨3⟩).2 (by
      rintro ⟨entry, found', _, same⟩
      cases found.symm.trans found'
      exact absurd same (by decide))
  have granted : Granted App.compact s 0 ⟨fun _ => 0, default⟩ ⟨3⟩ (.ping ⟨7, [], str "x"⟩) :=
    granted_of_entry good (request_text App.compact ping7.2) found
  exact absurd (granted.status.symm.trans refused.status) (by decide)

end Gologin.Server
