import Gologin.Lib.Lockstep
import Gologin.Server.Malformed

/-!
# What the secrets of the server decide

There are two. The password of the account is compared with that of a login, and nothing else
is done with it: as long as no login tells two passwords apart, the server runs as it does
with the other. The session of an entry is compared with nothing: whatever sessions the
requests of a run carry, the tables and the packets written are the same.
-/

namespace Gologin.Server
set_option autoImplicit false
open Calls Messages Auth Tcp Tables

/-! ## The password -/

/-- The state with another password. -/
def State.withPass (s : State) (pass : Str) : State := { s with provider := { s.provider with clientPass := pass } }

/-- The login and the password that a handler is about to have checked. -/
def presented : Phase → Option (Str × Str)
  | .handling (.call (.addClient _ _ l p _) _) => some (l, p)
  | _ => none

/-- No login of the account tells the passwords apart. -/
def Unguessed (pass pass' : Str) (s : State) : Event → Prop
  | .call c _ =>
    match s.conns[c]?.bind fun conn => presented conn.phase with
    | some (l, p) => l = s.provider.clientLogin → (p = pass ↔ p = pass')
    | none => True
  | _ => True

instance (pass pass' : Str) (s : State) : (e : Event) → Decidable (Unguessed pass pass' s e)
  | .call c _ =>
    match told : s.conns[c]?.bind fun conn => presented conn.phase with
    | some (l, p) =>
      decidable_of_iff (l = s.provider.clientLogin → (p = pass ↔ p = pass')) (by simp only [Unguessed, told])
    | none => isTrue (by simp only [Unguessed, told])
  | .accept _ _ | .emplace _ | .recv _ _ _ | .reply _ | .disconnect _ | .invalidate _ | .erase _ | .finish _ =>
    inferInstanceAs (Decidable True)

section
variable {A : App} {s s' : State} {pass pass' : Str}

/-- `add_client` under another password, when the one that is presented is right or wrong for both. -/
theorem addClient_withPass (p : Provider) {pass' l presented : Str}
    (agree : l = p.clientLogin → (presented = p.clientPass ↔ presented = pass')) (draw : Draw) (id : UInt64)
    (cookies : ClientCookies) (session : Str) :
    ({ p with clientPass := pass' } : Provider).addClient draw id cookies l presented session =
      ((p.addClient draw id cookies l presented session).1, (p.addClient draw id cookies l presented session).2.1,
        { (p.addClient draw id cookies l presented session).2.2 with clientPass := pass' }) := by
  have told : (l ≠ p.clientLogin ∨ presented ≠ pass') ↔ (l ≠ p.clientLogin ∨ presented ≠ p.clientPass) := by
    by_cases account : l = p.clientLogin
    · rw [ne_eq presented, ne_eq presented, agree account]
    · exact iff_of_true (Or.inl account) (Or.inl account)
  unfold Provider.addClient
  by_cases wrong : l ≠ p.clientLogin ∨ presented ≠ p.clientPass
  · simp only [if_pos wrong, if_pos (told.2 wrong)]
  · simp only [if_neg wrong, if_neg (mt told.1 wrong)]
    split <;> rfl

/-- What a call answers and does under the other password. -/
theorem outcome_withPass (own : s.provider.clientPass = pass) (c : Nat) (choice : Choice) {call : Call}
    (same : ∀ id cookies l p session, call = .addClient id cookies l p session →
      l = s.provider.clientLogin → (p = pass ↔ p = pass')) :
    (s.withPass pass').outcome c choice call =
      ((s.outcome c choice call).1, { (s.outcome c choice call).2.1 with clientPass := pass' },
        (s.outcome c choice call).2.2) := by
  cases call with
  | statusClient | getClients | sendTo => rfl
  | remClient id session =>
    by_cases present : id ∈ s.provider.clients
    · have present' : id ∈ (s.withPass pass').provider.clients := present
      simp only [State.outcome, Provider.remClient_of_mem present, Provider.remClient_of_mem present']
      rfl
    · have absent' : id ∉ (s.withPass pass').provider.clients := present
      simp only [State.outcome, Provider.remClient_of_not_mem present, Provider.remClient_of_not_mem absent']
      rfl
  | addClient id cookies l p session =>
    have added := addClient_withPass s.provider (own.symm ▸ same id cookies l p session rfl) choice.draw id cookies session
    simp only [State.outcome, State.withPass, added]

/-- No call changes the password. -/
theorem outcome_pass (s : State) (c : Nat) (choice : Choice) (call : Call) :
    (s.outcome c choice call).2.1.clientPass = s.provider.clientPass := by
  cases call with
  | addClient id cookies l p session =>
    rcases @Provider.addClient_cases s.provider id choice.draw cookies l p session with
      ⟨_, _, same⟩ | ⟨_, _, same⟩ | ⟨_, same⟩
    · simp only [State.outcome, same]
    · simp only [State.outcome, same]
    · simp only [State.outcome, same]
  | remClient id session =>
    by_cases present : id ∈ s.provider.clients
    · simp only [State.outcome, Provider.remClient_of_mem present]
    · simp only [State.outcome, Provider.remClient_of_not_mem present]
  | statusClient | getClients | sendTo => rfl

/-- A step under the other password. -/
theorem step_withPass (own : s.provider.clientPass = pass) {e : Event} (unguessed : Unguessed pass pass' s e)
    (taken : step A s e = some s') :
    step A (s.withPass pass') e = some (s'.withPass pass') ∧ s'.provider.clientPass = pass := by
  cases step_cases taken with
  | accept fresh => exact ⟨(@Step.accept A (s.withPass pass') _ fresh).enabled, own⟩
  | refuse fresh => exact ⟨(@Step.refuse A (s.withPass pass') _ fresh).enabled, own⟩
  | emplace here => exact ⟨(@Step.emplace A (s.withPass pass') _ _ _ here).enabled, own⟩
  | packet here received => exact ⟨(@Step.packet A (s.withPass pass') _ _ _ _ _ _ _ here received).enabled, own⟩
  | refused here received => exact ⟨(@Step.refused A (s.withPass pass') _ _ _ _ _ _ here received).enabled, own⟩
  | call here =>
    rename_i c handle socket choice call next
    have told : ∀ id cookies l p session, call = .addClient id cookies l p session →
        l = s.provider.clientLogin → (p = pass ↔ p = pass') := by
      rintro id cookies l p session rfl
      simp only [Unguessed, here, Option.bind_some, presented] at unguessed
      exact unguessed
    have enabled := (@Step.call A (s.withPass pass') c handle socket choice call next here).enabled
    refine ⟨?_, (outcome_pass s c choice call).trans own⟩
    simp only [State.after, outcome_withPass own c choice told] at enabled
    exact enabled
  | reply here => exact ⟨(@Step.reply A (s.withPass pass') _ _ _ _ here).enabled, own⟩
  | disconnect here => exact ⟨(@Step.disconnect A (s.withPass pass') _ _ _ _ here).enabled, own⟩
  | disconnected here => exact ⟨(@Step.disconnected A (s.withPass pass') _ _ _ here).enabled, own⟩
  | invalidate here => exact ⟨(@Step.invalidate A (s.withPass pass') _ _ _ _ here).enabled, own⟩
  | erase here => exact ⟨(@Step.erase A (s.withPass pass') _ _ _ here).enabled, own⟩
  | destroy here => exact ⟨(@Step.destroy A (s.withPass pass') _ _ _ here).enabled, own⟩
  | finish here => exact ⟨(@Step.finish A (s.withPass pass') _ _ here).enabled, own⟩

end

/-- **The password shows in nothing until it is guessed.** A run in which no login of the account
tells two passwords apart is a run under either, and all but the password is the same after it. -/
theorem password_unseen (A : App) {login pass pass' : Str} {es : List Event} {s : State}
    (unguessed : Runs.Along (step A) (Unguessed pass pass') (.init login pass) es)
    (run : Runs.exec (step A) (.init login pass) es = some s) :
    Runs.exec (step A) (.init login pass') es = some (s.withPass pass') := by
  have answered : Runs.Answered (step A) (step A)
      (fun s s' => s' = s.withPass pass' ∧ s.provider.clientPass = pass)
      (fun s e e' => Unguessed pass pass' s e ∧ e' = e) := by
    rintro s _ e _ m ⟨rfl, own⟩ ⟨guard, rfl⟩ taken
    obtain ⟨taken', own'⟩ := step_withPass own guard taken
    exact ⟨_, taken', rfl, own'⟩
  have start : State.init login pass' = (State.init login pass).withPass pass' ∧
      (State.init login pass).provider.clientPass = pass := ⟨rfl, rfl⟩
  obtain ⟨s', run', rfl, _⟩ := Runs.exec_follows answered start (Runs.matched_of_along unguessed) run
  exact run'

/-- A client logs in with a password that is neither. -/
def wrongPassword : List Event :=
  [.accept 3 true, .emplace 0, .recv 0 blank (whole (loginPacket "7")), .call 0 someChoice, .reply 0]

theorem password_unseen_wrong :
    ∃ s, Runs.exec (step App.compact) (.init (str "login") (str "one")) wrongPassword = some s ∧
      Runs.exec (step App.compact) (.init (str "login") (str "other")) wrongPassword =
        some (s.withPass (str "other")) := by
  obtain ⟨s, run, _⟩ := Option.map_eq_some_iff.1
    (show (Runs.exec (step App.compact) (.init (str "login") (str "one")) wrongPassword).map
      (fun s => (outputs s.log).length) = some 1 by decide +kernel)
  exact ⟨s, run, password_unseen App.compact (by decide +kernel) run⟩

/-! ## The sessions -/

/-- A request without its session. -/
def Request.sessionless : Request → Request
  | .ping r => .ping { r with session := [] }
  | .logout r => .logout { r with session := [] }
  | .message r => .message { r with session := [] }
  | .hello r => .hello r
  | .login r => .login r

/-- Packets that are the same request but for its session, or are both none. -/
def SameButSession (A : App) (packet packet' : Packet) : Prop :=
  packet.cmd = packet'.cmd ∧
    (A.request packet).map Request.sessionless = (A.request packet').map Request.sessionless

/-- Steps that are the same, but for the session in a packet that is received. -/
def Event.SameButSession (A : App) (e e' : Event) : Prop :=
  e' = e ∨ ∃ c packet packet', e.packet = some (c, packet) ∧ e'.packet = some (c, packet') ∧
    Server.SameButSession A packet packet'

/-- Programs that make the same calls, but for the sessions they pass on. -/
inductive SameCalls {α : Type} : Handling α → Handling α → Prop where
  | done (a : α) : SameCalls (.done a) (.done a)
  | call (call : Call) {next next' : call.Answer → Handling α} (rest : ∀ x, SameCalls (next x) (next' x)) :
      SameCalls (.call call next) (.call call next')
  | status (id : UInt64) (session session' : Str) {next next' : ClientStatus → Handling α}
      (rest : ∀ x, SameCalls (next x) (next' x)) :
      SameCalls (.call (.statusClient id session) next) (.call (.statusClient id session') next')
  | remove (id : UInt64) (session session' : Str) {next next' : ClientStatus → Handling α}
      (rest : ∀ x, SameCalls (next x) (next' x)) :
      SameCalls (.call (.remClient id session) next) (.call (.remClient id session') next')

/-- Handlers that stand at the same place, but for the sessions they will pass on. -/
inductive Phase.Alike : Phase → Phase → Prop where
  | same (phase : Phase) : Alike phase phase
  | handling {program program' : Handling Packet} (calls : SameCalls program program') :
      Alike (.handling program) (.handling program')

/-- Connections that differ in where their handlers stand at most, and there in sessions. -/
structure Conn.Alike (conn conn' : Conn) : Prop where
  handle : conn'.handle = conn.handle
  socket : conn'.socket = conn.socket
  phase : conn.phase.Alike conn'.phase

/-- States between which no client can tell. -/
structure SessionBlind (s s' : State) : Prop where
  provider : s'.provider = s.provider
  clientList : s'.clientList = s.clientList
  sockets : s'.sockets = s.sockets
  length : s'.conns.length = s.conns.length
  conns : ∀ (c : Nat) (conn : Conn), s.conns[c]? = some conn → ∃ conn', s'.conns[c]? = some conn' ∧ conn.Alike conn'
  written : outputs s'.log = outputs s.log

theorem SameCalls.refl {α : Type} (program : Handling α) : SameCalls program program := by
  induction program with
  | done a => exact .done a
  | call call next ih => exact .call call ih

theorem SameCalls.bind {α β : Type} {program program' : Handling α} (same : SameCalls program program')
    (next : α → Handling β) : SameCalls (program.bind next) (program'.bind next) := by
  induction same with
  | done a => exact .refl _
  | call call _ ih => exact .call call ih
  | status id session session' _ ih => exact .status id session session' ih
  | remove id session session' _ ih => exact .remove id session session' ih

section
variable {A : App}

/-- **A handler does not look at the session.** -/
theorem handling_sameCalls (cmd : Str) (cookies : ClientCookies) {request request' : Request}
    (same : request.sessionless = request'.sessionless) :
    SameCalls (A.handling cmd cookies request) (A.handling cmd cookies request') := by
  cases request with
  | hello r =>
    cases request' with
    | hello r' =>
      cases same
      exact .refl _
    | _ => cases same
  | login r =>
    cases request' with
    | login r' =>
      cases same
      exact .refl _
    | _ => cases same
  | ping r =>
    cases request' with
    | ping r' =>
      obtain ⟨id, command, session⟩ := r
      obtain ⟨_, _, session'⟩ := r'
      cases same
      exact .status id session session' fun _ => .refl _
    | _ => cases same
  | logout r =>
    cases request' with
    | logout r' =>
      obtain ⟨id, command, session⟩ := r
      obtain ⟨_, _, session'⟩ := r'
      cases same
      exact .remove id session session' fun _ => .refl _
    | _ => cases same
  | message r =>
    cases request' with
    | message r' =>
      obtain ⟨id, command, body, session⟩ := r
      obtain ⟨_, _, _, session'⟩ := r'
      cases same
      exact .status id session session' fun _ => .refl _
    | _ => cases same

theorem packetHandler_sameCalls (cid : Nat) {packet packet' : Packet} (same : SameButSession A packet packet') :
    SameCalls (A.packetHandler cid packet) (A.packetHandler cid packet') := by
  obtain ⟨cmd, requests⟩ := same
  change SameCalls (Program.bind (dispatch A.hash A.handlers packet.cmd ⟨cid⟩ packet.body) _)
    (Program.bind (dispatch A.hash A.handlers packet'.cmd ⟨cid⟩ packet'.body) _)
  rcases A.dispatch_request packet ⟨cid⟩ with ⟨request, taken, handled⟩ | ⟨none, ok, handled⟩
  · rcases A.dispatch_request packet' ⟨cid⟩ with ⟨request', taken', handled'⟩ | ⟨none', _⟩
    · rw [handled, handled', ← cmd]
      rw [taken, taken'] at requests
      exact (handling_sameCalls packet.cmd ⟨cid⟩ (Option.some.inj requests)).bind _
    · rw [taken, none'] at requests
      cases requests
  · rcases A.dispatch_request packet' ⟨cid⟩ with ⟨request', taken', _⟩ | ⟨none', ok', handled'⟩
    · rw [none, taken'] at requests
      cases requests
    · rw [handled, handled', ← cmd]
      exact .refl _

variable {s s' t : State}

theorem sessionBlind_init (login pass : Str) : SessionBlind (.init login pass) (.init login pass) :=
  ⟨rfl, rfl, rfl, rfl, nofun, rfl⟩

/-- Where a handler stands in the other run, when it is not in `packet_handler`. -/
theorem SessionBlind.here (h : SessionBlind s s') {c handle : Nat} {socket : Option Nat} {phase : Phase}
    (here : s.conns[c]? = some ⟨handle, socket, phase⟩) (out : ∀ program, phase ≠ .handling program) :
    s'.conns[c]? = some ⟨handle, socket, phase⟩ := by
  obtain ⟨⟨_, _, phase'⟩, there, rfl, rfl, like⟩ := h.conns c _ here
  cases like with
  | same => exact there
  | handling calls => exact absurd rfl (out _)

theorem SessionBlind.handling (h : SessionBlind s s') {c handle : Nat} {socket : Option Nat}
    {program : Handling Packet} (here : s.conns[c]? = some ⟨handle, socket, .handling program⟩) :
    ∃ program', s'.conns[c]? = some ⟨handle, socket, .handling program'⟩ ∧ SameCalls program program' := by
  obtain ⟨⟨_, _, phase'⟩, there, rfl, rfl, like⟩ := h.conns c _ here
  cases like with
  | same => exact ⟨program, there, .refl _⟩
  | handling calls => exact ⟨_, there, calls⟩

/-- A step of one connection in both runs. -/
theorem SessionBlind.set (h : SessionBlind s s') {t t' : State} {c : Nat} {new new' : Conn} {entries entries' : List Entry}
    (provider : t.provider = t'.provider) (clientList : t.clientList = t'.clientList) (sockets : t.sockets = t'.sockets)
    (conns : t.conns = s.conns.set c new) (conns' : t'.conns = s'.conns.set c new') (alike : new.Alike new')
    (log : t.log = entries ++ s.log) (log' : t'.log = entries' ++ s'.log)
    (written : outputs entries' = outputs entries) : SessionBlind t t' := by
  refine ⟨provider.symm, clientList.symm, sockets.symm, ?_, fun d conn found => ?_, ?_⟩
  · rw [conns, conns', List.length_set, List.length_set, h.length]
  · rw [conns] at found
    rw [conns']
    rcases conns_set found with ⟨rfl, rfl⟩ | ⟨other, old⟩
    · refine ⟨new', List.getElem?_set_self ?_, alike⟩
      rw [h.length]
      have inside := (List.getElem?_eq_some_iff.1 found).1
      rwa [List.length_set] at inside
    · obtain ⟨conn', there, like⟩ := h.conns d conn old
      exact ⟨conn', (List.getElem?_set_ne (Ne.symm other)).trans there, like⟩
  · rw [log, log', outputs_append, outputs_append, written, h.written]

/-- A new connection in both runs. -/
theorem SessionBlind.append (h : SessionBlind s s') {t t' : State} {new : Conn} {entries : List Entry}
    (provider : t.provider = t'.provider) (clientList : t.clientList = t'.clientList) (sockets : t.sockets = t'.sockets)
    (conns : t.conns = s.conns ++ [new]) (conns' : t'.conns = s'.conns ++ [new]) (log : t.log = entries ++ s.log)
    (log' : t'.log = entries ++ s'.log) : SessionBlind t t' := by
  refine ⟨provider.symm, clientList.symm, sockets.symm, ?_, fun d conn found => ?_, ?_⟩
  · rw [conns, conns', List.length_append, List.length_append, h.length]
  · rw [conns] at found
    rw [conns']
    rcases conns_append found with ⟨rfl, rfl⟩ | old
    · refine ⟨conn, ?_, rfl, rfl, .same _⟩
      rw [← h.length, List.getElem?_concat_length]
    · obtain ⟨conn', there, like⟩ := h.conns d conn old
      exact ⟨conn', (List.getElem?_append_left (List.getElem?_eq_some_iff.1 there).1).trans there, like⟩
  · rw [log, log', outputs_append, outputs_append, h.written]

/-- A system call on `m_socket` finds the same. -/
theorem SessionBlind.uses (h : SessionBlind s s') {conn conn' : Conn} (socket : conn'.socket = conn.socket)
    (entry : Option Nat → Entry) : s'.uses conn' entry = s.uses conn entry := by
  unfold State.uses
  rw [socket, h.sockets]

theorem SessionBlind.send (h : SessionBlind s s') {conn conn' : Conn} (socket : conn'.socket = conn.socket)
    (packet : Packet) (entry : Option Nat → Entry) : s'.send conn' packet entry = s.send conn packet entry := by
  unfold State.send
  rw [socket, h.sockets, h.uses socket]

theorem SessionBlind.sendTo (h : SessionBlind s s') (c : Nat) (cookies : ClientCookies) (packet : Packet) :
    s'.sendTo c cookies packet = s.sendTo c cookies packet := by
  unfold State.sendTo
  rw [h.clientList]
  cases s.clientList.lookup cookies.serverClientId with
  | none => rfl
  | some via =>
    dsimp only
    cases here : s.conns[via]? with
    | none =>
      have beyond := List.getElem?_eq_none_iff.1 here
      rw [List.getElem?_eq_none (h.length ▸ beyond)]
    | some conn =>
      obtain ⟨conn', there, like⟩ := h.conns via conn here
      rw [there]
      exact h.send like.socket packet _

/-- The same call does the same. -/
theorem SessionBlind.outcome (h : SessionBlind s s') (c : Nat) (choice : Choice) (call : Call) :
    s'.outcome c choice call = s.outcome c choice call := by
  cases call with
  | sendTo cookies cmd buff => simp only [State.outcome, h.sendTo, h.provider]
  | statusClient | getClients | addClient | remClient => simp only [State.outcome, h.provider]

/-- The packet that a step hands over is the one it has received. -/
theorem Event.packet_some {e : Event} {c : Nat} {packet : Packet} (handed : e.packet = some (c, packet)) :
    ∃ stack results header buff, e = .recv c stack results ∧
      ServerClient.recv scripted stack.header results = some (.packet header buff, []) ∧
      packet = ⟨header.command stack.beyond, buff⟩ := by
  cases e with
  | recv d stack results =>
    simp only [Event.packet] at handed
    split at handed
    · rename_i header buff received
      cases handed
      exact ⟨stack, results, header, buff, rfl, received, rfl⟩
    · cases handed
  | _ => cases handed

theorem SessionBlind.shape (h : SessionBlind s s') : ∃ conns log, s' = { s with conns := conns, log := log } := by
  obtain ⟨provider, clientList, sockets, conns, log⟩ := s'
  obtain ⟨rfl, rfl, rfl, _, _, _⟩ := h
  exact ⟨conns, log, rfl⟩

/-- The same step, where no packet is received under another session. -/
theorem SessionBlind.same_step (h : SessionBlind s s') {e : Event} (taken : step A s e = some t) :
    ∃ t', step A s' e = some t' ∧ SessionBlind t t' := by
  obtain ⟨conns, log, rfl⟩ := h.shape
  cases step_cases taken with
  | accept fresh =>
    refine ⟨_, Step.enabled (.accept fresh), ?_⟩
    rw [show State.conns { s with conns := conns, log := log } = conns from rfl, h.length]
    exact @SessionBlind.append _ _ h _ _ _ [] rfl rfl rfl rfl rfl rfl rfl
  | refuse fresh =>
    refine ⟨_, Step.enabled (.refuse fresh), ?_⟩
    rw [show State.conns { s with conns := conns, log := log } = conns from rfl, h.length]
    exact @SessionBlind.append _ _ h _ _ _ [.closed _ _] rfl rfl rfl rfl rfl rfl rfl
  | emplace here =>
    exact ⟨_, Step.enabled (.emplace (h.here here nofun)),
      @SessionBlind.set _ _ h _ _ _ _ _ [] [] rfl rfl rfl rfl rfl ⟨rfl, rfl, .same _⟩ rfl rfl rfl⟩
  | packet here received =>
    exact ⟨_, Step.enabled (.packet (h.here here nofun) received),
      @SessionBlind.set _ _ h _ _ _ _ _ (_ :: s.uses _ _) (_ :: State.uses _ _ _) rfl rfl rfl rfl rfl
        ⟨rfl, rfl, .same _⟩ rfl rfl ((outputs_reads _ _ _).trans (outputs_reads _ _ _).symm)⟩
  | refused here received =>
    exact ⟨_, Step.enabled (.refused (h.here here nofun) received),
      h.set rfl rfl rfl rfl rfl ⟨rfl, rfl, .same _⟩ rfl rfl
        ((outputs_reads _ _ _).trans (outputs_reads _ _ _).symm)⟩
  | call here =>
    rename_i c handle socket choice call next
    obtain ⟨program', there, calls⟩ := h.handling here
    cases calls with
    | call _ rest =>
      have same := h.outcome c choice call
      refine ⟨_, Step.enabled (@Step.call A _ _ _ _ choice _ _ there),
        @SessionBlind.set _ _ h _ _ _ _ _ (_ :: (s.outcome c choice call).2.2) (_ :: (State.outcome _ c choice call).2.2)
          (congrArg (·.2.1) same.symm) rfl rfl rfl rfl ⟨rfl, rfl, .handling ?_⟩ rfl rfl ?_⟩
      · rw [same]
        exact rest _
      · rw [same]
        rfl
    | status id session session' rest =>
      exact ⟨_, Step.enabled (@Step.call A _ _ _ _ choice _ _ there),
        @SessionBlind.set _ _ h _ _ _ _ _ [_] [_] rfl rfl rfl rfl rfl ⟨rfl, rfl, .handling (rest _)⟩ rfl rfl rfl⟩
    | remove id session session' rest =>
      exact ⟨_, Step.enabled (@Step.call A _ _ _ _ choice _ _ there),
        @SessionBlind.set _ _ h _ _ _ _ _ [_] [_] rfl rfl rfl rfl rfl ⟨rfl, rfl, .handling (rest _)⟩ rfl rfl rfl⟩
  | reply here =>
    obtain ⟨program', there, calls⟩ := h.handling here
    cases calls
    exact ⟨_, Step.enabled (.reply there), h.set rfl rfl rfl rfl rfl ⟨rfl, rfl, .same _⟩ rfl rfl
      (congrArg (fun sent => outputs sent.2) (h.send rfl _ _))⟩
  | disconnect here =>
    exact ⟨_, Step.enabled (.disconnect (h.here here nofun)),
      @SessionBlind.set _ _ h _ _ _ _ _ [.closed _ _] [.closed _ _] rfl rfl rfl rfl rfl ⟨rfl, rfl, .same _⟩ rfl rfl rfl⟩
  | disconnected here =>
    exact ⟨_, Step.enabled (.disconnected (h.here here nofun)),
      @SessionBlind.set _ _ h _ _ _ _ _ [] [] rfl rfl rfl rfl rfl ⟨rfl, rfl, .same _⟩ rfl rfl rfl⟩
  | invalidate here =>
    exact ⟨_, Step.enabled (.invalidate (h.here here nofun)),
      @SessionBlind.set _ _ h _ _ _ _ _ [] [] rfl rfl rfl rfl rfl ⟨rfl, rfl, .same _⟩ rfl rfl rfl⟩
  | erase here =>
    exact ⟨_, Step.enabled (.erase (h.here here nofun)),
      @SessionBlind.set _ _ h _ _ _ _ _ [] [] rfl rfl rfl rfl rfl ⟨rfl, rfl, .same _⟩ rfl rfl rfl⟩
  | destroy here =>
    exact ⟨_, Step.enabled (.destroy (h.here here nofun)),
      @SessionBlind.set _ _ h _ _ _ _ _ [.closed _ _] [.closed _ _] rfl rfl rfl rfl rfl ⟨rfl, rfl, .same _⟩ rfl rfl rfl⟩
  | finish here =>
    exact ⟨_, Step.enabled (.finish (h.here here nofun)),
      @SessionBlind.set _ _ h _ _ _ _ _ [] [] rfl rfl rfl rfl rfl ⟨rfl, rfl, .same _⟩ rfl rfl rfl⟩

/-- **A step is answered by the step with other sessions.** -/
theorem sessionBlind_step : Runs.Answered (step A) (step A) SessionBlind fun _ => Event.SameButSession A := by
  intro s s' e e' m h matched taken
  rcases matched with rfl | ⟨c, packet, packet', handed, handed', like⟩
  · exact h.same_step taken
  · obtain ⟨stack, results, header, buff, rfl, received, rfl⟩ := Event.packet_some handed
    obtain ⟨stack', results', header', buff', rfl, received', rfl⟩ := Event.packet_some handed'
    cases step_cases taken with
    | packet here again =>
      cases received.symm.trans again
      refine ⟨_, Step.enabled (.packet (h.here here nofun) received'),
        @SessionBlind.set _ _ h _ _ _ _ _ (_ :: s.uses _ _) (_ :: s'.uses _ _) h.provider.symm h.clientList.symm
          h.sockets.symm rfl rfl ⟨rfl, rfl, .handling (packetHandler_sameCalls _ like)⟩ rfl rfl ?_⟩
      exact (outputs_reads _ _ _).trans (outputs_reads _ _ _).symm
    | refused here again => cases received.symm.trans again

end

/-- **Sessions decide nothing.** Replace the sessions that the ping, logout and message requests of
a run carry, by any others: the run is still one, the packets it writes and the tables it leaves
are the same. -/
theorem sessions_unseen (A : App) {login pass : Str} {es es' : List Event} {s : State}
    (replaced : List.Forall₂ (Event.SameButSession A) es es')
    (run : Runs.exec (step A) (.init login pass) es = some s) :
    ∃ s', Runs.exec (step A) (.init login pass) es' = some s' ∧ outputs s'.log = outputs s.log ∧
      s'.provider = s.provider ∧ s'.clientList = s.clientList ∧ s'.sockets = s.sockets := by
  obtain ⟨s', run', h⟩ := Runs.exec_follows sessionBlind_step (sessionBlind_init login pass)
    (Runs.matched_of_forall₂ replaced _) run
  exact ⟨s', run', h.written, h.provider, h.clientList, h.sockets⟩

/-- A message request of client 7, with a session that nobody was given. -/
def forgedMessage : Packet := ⟨Commands.msg, str "\x7b\"id\":7,\"body\":\"secret\",\"session\":\"forged\"\x7d"⟩

/-- A client logs in and sends a message. -/
def sendsMessage (packet : Packet) : List Event :=
  [.accept 3 true, .emplace 0, .recv 0 blank (whole (loginPacket "7")), .call 0 someChoice, .reply 0,
    .recv 0 blank (whole packet), .call 0 someChoice, .call 0 someChoice, .call 0 someChoice, .reply 0]

theorem sessions_unseen_forged :
    ∃ s s', Runs.exec (step App.compact) (.init (str "login") (str "pass")) (sendsMessage (messagePacket "7")) = some s ∧
      Runs.exec (step App.compact) (.init (str "login") (str "pass")) (sendsMessage forgedMessage) = some s' ∧
      outputs s'.log = outputs s.log ∧ (outputs s.log).length = 3 := by
  obtain ⟨s, run, written⟩ := Option.map_eq_some_iff.1
    (show (Runs.exec (step App.compact) (.init (str "login") (str "pass")) (sendsMessage (messagePacket "7"))).map
      (fun s => (outputs s.log).length) = some 3 by decide +kernel)
  have received : (Event.recv 0 blank (whole (messagePacket "7"))).packet = some (0, messagePacket "7") := by
    decide +kernel
  have received' : (Event.recv 0 blank (whole forgedMessage)).packet = some (0, forgedMessage) := by decide +kernel
  have like : SameButSession App.compact (messagePacket "7") forgedMessage := by
    constructor <;> decide +kernel
  have same (e : Event) : e.SameButSession App.compact e := Or.inl rfl
  have forged : Event.SameButSession App.compact (.recv 0 blank (whole (messagePacket "7")))
      (.recv 0 blank (whole forgedMessage)) := Or.inr ⟨_, _, _, received, received', like⟩
  have replaced : List.Forall₂ (Event.SameButSession App.compact) (sendsMessage (messagePacket "7"))
      (sendsMessage forgedMessage) :=
    .cons (same _) (.cons (same _) (.cons (same _) (.cons (same _) (.cons (same _) (.cons forged (.cons (same _)
      (.cons (same _) (.cons (same _) (.cons (same _) .nil)))))))))
  obtain ⟨s', run', outputs_, _⟩ := sessions_unseen App.compact replaced run
  exact ⟨s, s', run, run', outputs_, written⟩

end Gologin.Server
