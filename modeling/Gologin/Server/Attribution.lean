import Gologin.Server.Handling

/-!
# Who a broadcast is from

`app::client_message_packet_handler` takes the login of the sender from the entry of the
recipient. Both are the login of the one account that `provider::add_client` lets in, so every
broadcast of every run is in the name of its sender.
-/

namespace Gologin.Server
set_option autoImplicit false
open Calls Messages Auth Tcp Tables

/-- A broadcast in the name of `login`. -/
def InName (J : Nlohmann) (login : Str) (packet : Packet) : Prop :=
  packet.cmd = Commands.msg ∧
    ∃ request, packerFrom J Server.MsgRequest packet.body = some request ∧ request.senderLogin = login

/-- The broadcasts of a handler are in the name of `login`. -/
def CallNamed (J : Nlohmann) (login : Str) : Call → Prop
  | .sendTo _ cmd buff => InName J login ⟨cmd, buff⟩
  | _ => True

/-- The answers of a provider whose entries are of `login`. -/
def AnswerNamed (login : Str) : (call : Call) → call.Answer → Prop
  | .getClients _, (clients : List AuthClient) => ∀ c ∈ clients, c.login = login
  | .statusClient _ _, _ => True
  | .addClient _ _ _ _ _, _ => True
  | .remClient _ _, _ => True
  | .sendTo _ _ _, _ => True

/-- A call of `status_client`: the connection, the arguments and the answer. -/
def asked : Entry → Option (Nat × UInt64 × Str × ClientStatus)
  | .called c (.statusClient id session) (status : ClientStatus) => some (c, id, session, status)
  | _ => none

/-- The call by which the handler of `c` learns that its message request is accepted. -/
def Accepts (A : App) (s : State) (c : Nat) (choice : Choice) (request : Client.MsgRequest) (s' : State) : Prop :=
  (frames c s.log).head?.bind A.request = some (.message request) ∧ step A s (.call c choice) = some s' ∧
    s'.log.head?.bind asked = some (c, request.id, request.session, .accepted)

/-! ## The programs -/

section
variable (A : App) {login : Str}

theorem broadcast_named (body : Str) {clients : List AuthClient} (named : ∀ c ∈ clients, c.login = login) :
    Program.Always (CallNamed A.json login) (AnswerNamed login) (fun _ => True) (broadcast A.json body clients) := by
  induction clients with
  | nil => trivial
  | cons c rest ih =>
    rw [broadcast]
    cases packed : packerTo A.json (clientRequest c body) with
    | none => trivial
    | some buff =>
      have first : CallNamed A.json login (.sendTo c.cookie Commands.msg buff) :=
        ⟨rfl, clientRequest c body, packerFrom_packerTo A.json packed, named c (by simp)⟩
      exact ⟨first, fun _ _ => ih fun c member => named c (by simp [member])⟩

/-- **In whose name each handler writes.** -/
theorem handling_named (cmd : Str) (cookies : ClientCookies) (request : Request) :
    Program.Always (CallNamed A.json login) (AnswerNamed login) (fun _ => True) (A.handling cmd cookies request) := by
  cases request with
  | hello r => trivial
  | ping r =>
    refine ⟨trivial, fun (auth : ClientStatus) _ => ?_⟩
    change Program.Always _ _ _ (Program.bind (if auth = .accepted then _ else _) _)
    split <;> trivial
  | login r =>
    refine ⟨trivial, fun (answer : ClientStatus × Str) _ => ?_⟩
    change Program.Always _ _ _ (Program.bind (if answer.1 = .accepted then _ else _) _)
    split <;> trivial
  | logout r =>
    refine ⟨trivial, fun (auth : ClientStatus) _ => ?_⟩
    change Program.Always _ _ _ (Program.bind (if auth = .removed then _ else _) _)
    split <;> trivial
  | message r =>
    refine ⟨trivial, fun (auth : ClientStatus) _ => ?_⟩
    change Program.Always _ _ _ (Program.bind (if auth = .accepted then _ else _) _)
    split
    · refine ⟨trivial, fun (clients : List AuthClient) named => ?_⟩
      change Program.Always _ _ _ (Program.bind (Program.bind (broadcast A.json r.body clients) _) _)
      rw [Program.bind_assoc]
      apply Program.Always.bind _ (broadcast_named A r.body named)
      rintro (_ | _) _ <;> trivial
    · trivial

theorem packetHandler_named (cid : Nat) (packet : Packet) :
    Program.Always (CallNamed A.json login) (AnswerNamed login) (fun _ => True) (A.packetHandler cid packet) := by
  change Program.Always _ _ _ (Program.bind (dispatch A.hash A.handlers packet.cmd ⟨cid⟩ packet.body) _)
  rcases A.dispatch_request packet ⟨cid⟩ with ⟨request, taken, same⟩ | ⟨none, ok, same⟩
  · rw [same]
    apply Program.Always.bind _ (handling_named A packet.cmd ⟨cid⟩ request)
    intro d _
    trivial
  · rw [same]
    trivial

/-! ## Whole runs -/

/-- The provider serves one account, the broadcasts so far are in its name, and those of the
handlers will be. -/
structure Named (login : Str) (s : State) : Prop where
  sound : Sound A s
  account : s.provider.clientLogin = login
  log : ∀ d via on packet, .wrote d via on packet ∈ s.log → InName A.json login packet
  threads : ∀ (c : Nat) (conn : Conn) program, s.conns[c]? = some conn → conn.phase = .handling program →
    Program.Always (CallNamed A.json login) (AnswerNamed login) (fun _ => True) program

variable {A} {s s' : State}

theorem named_init (login pass : Str) : Named A login (.init login pass) :=
  ⟨sound_init login pass, rfl, nofun, nofun⟩

/-- No call changes the account. -/
theorem outcome_account (s : State) (c : Nat) (choice : Choice) (call : Call) :
    (s.outcome c choice call).2.1.clientLogin = s.provider.clientLogin := by
  cases call with
  | addClient id cookies login pass session =>
    rcases @Provider.addClient_cases s.provider id choice.draw cookies login pass session with
      ⟨_, _, same⟩ | ⟨_, _, same⟩ | ⟨_, same⟩
    · simp only [State.outcome, same]
    · simp only [State.outcome, same]
    · simp only [State.outcome, same]
  | remClient id session =>
    by_cases present : id ∈ s.provider.clients
    · simp only [State.outcome, Provider.remClient_of_mem present]
    · simp only [State.outcome, Provider.remClient_of_not_mem present]
  | statusClient | getClients | sendTo => rfl

/-- Every entry is of the account. -/
theorem outcome_named {s : State} (good : s.provider.Good) (account : s.provider.clientLogin = login) (c : Nat)
    (choice : Choice) (call : Call) : AnswerNamed login call (s.outcome c choice call).1 := by
  cases call with
  | getClients status =>
    intro (entry : AuthClient) member
    rw [(good _ _ (Provider.lookup_of_mem_getClients good member)).login, account]
  | statusClient | addClient | remClient | sendTo => trivial

/-- A step of one handler that writes no broadcast. -/
theorem Named.of_set (h : Named A login s) (sound : Sound A s') {c : Nat} {new : Conn}
    (provider : s'.provider = s.provider) (conns : s'.conns = s.conns.set c new)
    (named : ∀ program, new.phase = .handling program →
      Program.Always (CallNamed A.json login) (AnswerNamed login) (fun _ => True) program)
    {entries : List Entry} (plain : ∀ e ∈ entries, e.Plain) (added : s'.log = entries ++ s.log) :
    Named A login s' := by
  refine ⟨sound, provider ▸ h.account, fun d via on packet member => ?_, fun d conn program found phase => ?_⟩
  · rw [added, List.mem_append] at member
    exact h.log d via on packet (member.resolve_left fun new => plain _ new)
  · rw [conns] at found
    rcases conns_set found with ⟨_, rfl⟩ | ⟨_, old⟩
    · exact named program phase
    · exact h.threads d conn program old phase

/-- A step keeps the name. -/
theorem named_step {e : Event} (h : Named A login s) (taken : step A s e = some s') : Named A login s' := by
  have sound := sound_step h.sound taken
  cases step_cases taken with
  | accept fresh =>
    refine ⟨sound, h.account, h.log, fun d conn program found phase => ?_⟩
    rcases conns_append found with ⟨_, rfl⟩ | old
    · cases phase
    · exact h.threads d conn program old phase
  | refuse fresh =>
    refine ⟨sound, h.account, fun d via on packet member => ?_, fun d conn program found phase => ?_⟩
    · rcases List.mem_cons.1 member with same | old
      · cases same
      · exact h.log d via on packet old
    · rcases conns_append found with ⟨_, rfl⟩ | old
      · cases phase
      · exact h.threads d conn program old phase
  | emplace here => exact @Named.of_set _ _ _ _ h sound _ _ rfl rfl (by rintro _ ⟨⟩) [] nofun rfl
  | packet here received =>
    rename_i c handle socket stack results header buff
    refine @Named.of_set _ _ _ _ h sound _ _ rfl rfl ?_ (.received c _ :: s.uses _ (.read c)) ?_ rfl
    · intro program same
      cases same
      exact packetHandler_named A handle _
    · exact List.forall_mem_cons.2 ⟨trivial, plain_uses⟩
  | refused here received =>
    exact h.of_set sound rfl rfl (by rintro _ ⟨⟩) plain_uses rfl
  | call here =>
    rename_i c handle socket choice call next
    have program := h.threads _ _ _ here rfl
    refine ⟨sound, (outcome_account s c choice call).trans h.account, fun d via on packet member => ?_,
      fun d conn left found phase => ?_⟩
    · rcases List.mem_cons.1 member with same | rest
      · cases same
      rcases List.mem_append.1 rest with new | old
      · obtain ⟨_, _, _, _, _, _, rfl, _, _, _, same⟩ := mem_outcome new
        cases same
        exact program.1
      · exact h.log d via on packet old
    · rcases conns_set found with ⟨_, rfl⟩ | ⟨_, old⟩
      · cases phase
        exact program.2 _ (outcome_named h.sound.good h.account c choice call)
      · exact h.threads d conn left old phase
  | reply here => exact h.of_set sound rfl rfl (by rintro _ ⟨⟩) plain_send rfl
  | disconnect here =>
    exact @Named.of_set _ _ _ _ h sound _ _ rfl rfl (by rintro _ ⟨⟩) [.closed _ _] (by simp [Entry.Plain]) rfl
  | disconnected here => exact @Named.of_set _ _ _ _ h sound _ _ rfl rfl (by rintro _ ⟨⟩) [] nofun rfl
  | invalidate here => exact @Named.of_set _ _ _ _ h sound _ _ rfl rfl (by rintro _ ⟨⟩) [] nofun rfl
  | erase here => exact @Named.of_set _ _ _ _ h sound _ _ rfl rfl (by rintro _ ⟨⟩) [] nofun rfl
  | destroy here =>
    exact @Named.of_set _ _ _ _ h sound _ _ rfl rfl (by rintro _ ⟨⟩) [.closed _ _] (by simp [Entry.Plain]) rfl
  | finish here => exact @Named.of_set _ _ _ _ h sound _ _ rfl rfl (by rintro _ ⟨⟩) [] nofun rfl

theorem named_run {pass : Str} {es : List Event} (run : Runs.exec (step A) (.init login pass) es = some s) :
    Named A login s :=
  Runs.exec_invariant (fun _ _ _ h taken => named_step h taken) (named_init login pass) run

/-- An accepted request has an entry. -/
theorem Accepts.entry {c : Nat} {choice : Choice} {request : Client.MsgRequest} (sound : Sound A s)
    (accepted : Accepts A s c choice request s') :
    ∃ entry, s.provider.clients.lookup request.id = some entry ∧ entry.login = s.provider.clientLogin := by
  obtain ⟨_, taken, head⟩ := accepted
  cases step_cases taken with
  | call here =>
    rename_i handle socket call next
    change asked (.called c call (s.outcome c choice call).1) = _ at head
    cases call with
    | statusClient id session =>
      obtain ⟨-, same⟩ := Prod.mk.inj (Option.some.inj head)
      obtain ⟨rfl, same⟩ := Prod.mk.inj same
      obtain ⟨rfl, answer⟩ := Prod.mk.inj same
      have present := (Provider.statusClient_iff sound.good request.session).1 answer
      obtain ⟨entry, found⟩ := Option.isSome_iff_exists.1 (AList.lookup_isSome.2 present)
      exact ⟨entry, found, (sound.good _ _ found).login⟩
    | getClients | addClient | remClient | sendTo => cases head

end

/-- **Broadcasts are in the name of their sender.** In every run, for every message request that
is accepted: the provider has an entry for its id, and every broadcast written before or after,
to whichever recipient, carries the login of that entry, and of any entry for the id later. -/
theorem broadcast_attributed (A : App) {login pass : Str} {es es' : List Event} {s m s' : State} {c : Nat}
    {choice : Choice} {request : Client.MsgRequest} (run : Runs.exec (step A) (.init login pass) es = some s)
    (accepted : Accepts A s c choice request m) (later : Runs.exec (step A) m es' = some s') :
    ∃ entry, s.provider.clients.lookup request.id = some entry ∧
      ∀ d via on packet, .wrote d via on packet ∈ s'.log →
        InName A.json entry.login packet ∧
          ∀ entry', s'.provider.clients.lookup request.id = some entry' → InName A.json entry'.login packet := by
  have before := named_run run
  obtain ⟨entry, found, same⟩ := accepted.entry before.sound
  have after : Named A login s' :=
    Runs.exec_invariant (fun _ _ _ h taken => named_step h taken) (named_step before accepted.2.1) later
  refine ⟨entry, found, fun d via on packet member => ?_⟩
  have named := after.log d via on packet member
  refine ⟨by rw [same, before.account]; exact named, fun entry' found' => ?_⟩
  rw [(after.sound.good _ _ found').login, after.account]
  exact named

/-- Two clients log in and the first sends a message, up to the start of its handler. -/
def messageRun : List Event :=
  [.accept 3 true, .emplace 0, .recv 0 blank (whole (loginPacket "7")), .call 0 someChoice, .reply 0,
    .accept 4 true, .emplace 1, .recv 1 blank (whole (loginPacket "8")), .call 1 someChoice, .reply 1,
    .recv 0 blank (whole (messagePacket "7"))]

def secretRequest : Client.MsgRequest := { command := [], id := 7, session := [], body := str "secret" }

/-- Whether the first client's handler has written on the connection of the second. -/
def toSecond : Entry → Bool
  | .wrote 0 1 (some 1) _ => true
  | _ => false

/-- The second client gets it in the name of the first. -/
theorem broadcast_attributed_secret :
    ∃ s m s', Runs.exec (step App.compact) (.init (str "login") (str "pass")) messageRun = some s ∧
      Accepts App.compact s 0 someChoice secretRequest m ∧
      Runs.exec (step App.compact) m [.call 0 someChoice, .call 0 someChoice, .call 0 someChoice] = some s' ∧
      ∃ entry, s.provider.clients.lookup 7 = some entry ∧
        ∃ packet, .wrote 0 1 (some 1) packet ∈ s'.log ∧ InName Text.compact entry.login packet := by
  obtain ⟨s, run, request⟩ := Option.map_eq_some_iff.1
    (show (Runs.exec (step App.compact) (.init (str "login") (str "pass")) messageRun).map (fun s =>
      (frames 0 s.log).head?.bind App.compact.request) = some (some (.message secretRequest)) by decide +kernel)
  obtain ⟨m, toM, answered⟩ := Option.map_eq_some_iff.1
    (show (Runs.exec (step App.compact) (.init (str "login") (str "pass")) (messageRun ++ [.call 0 someChoice])).map
      (fun m => m.log.head?.bind asked) = some (some (0, 7, [], .accepted)) by decide +kernel)
  obtain ⟨s', toEnd, wrote⟩ := Option.map_eq_some_iff.1
    (show (Runs.exec (step App.compact) (.init (str "login") (str "pass"))
      ((messageRun ++ [.call 0 someChoice]) ++ [.call 0 someChoice, .call 0 someChoice, .call 0 someChoice])).map
      (fun s => s.log.any toSecond) = some true by decide +kernel)
  rw [Runs.exec_append, toM, Option.bind_some] at toEnd
  rw [Runs.exec_append, run, Option.bind_some] at toM
  obtain ⟨_, taken, same⟩ := Runs.exec_cons_some toM
  obtain rfl := Option.some.inj same
  have accepted : Accepts App.compact s 0 someChoice secretRequest _ := ⟨request, taken, answered⟩
  obtain ⟨entry, found, all⟩ := broadcast_attributed App.compact run accepted toEnd
  obtain ⟨written, member, second⟩ := List.any_eq_true.1 wrote
  match written with
  | .wrote 0 1 (some 1) packet =>
    exact ⟨s, _, s', run, accepted, toEnd, entry, found, packet, member, (all 0 1 (some 1) packet member).1⟩

end Gologin.Server
