import Gologin.Server.Machine

/-!
# What the handlers do, whatever happens in between

`App.packetHandler_always` bounds the program that handles a packet: the calls it makes and
the reply it ends with, for answers that a provider with good entries may give. `Sound` is
what every run of the server keeps: the provider's entries are good, and what is left of
each handler is so bounded.
-/

namespace Gologin.Server
set_option autoImplicit false
open Calls Messages Auth Tcp Tables

/-- The calls of a handler: a login passes on decoded text, and an empty session variable. -/
def CallOk : Call → Prop
  | .addClient _ _ login _ session => Utf8.valid login = true ∧ session = []
  | _ => True

/-- The answers of a provider whose entries are good. -/
def AnswerOk : (call : Call) → call.Answer → Prop
  | .getClients _, (clients : List AuthClient) =>
    ∀ c ∈ clients, Utf8.valid c.login = true ∧ Utf8.valid c.session = true
  | .addClient _ _ _ _ _, ((_, session) : ClientStatus × Str) => Utf8.valid session = true
  | .statusClient _ _, _ => True
  | .remClient _ _, _ => True
  | .sendTo _ _ _, _ => True

/-- The text of a request, as decoding guarantees it. -/
def Request.Text : Request → Prop
  | .hello r => TextUtf8 r
  | .ping r => TextUtf8 r
  | .login r => TextUtf8 r
  | .logout r => TextUtf8 r
  | .message r => TextUtf8 r

/-- Whether the reply to a request can be packed: `client_id` holds a single byte. -/
def Request.Writable : Request → Prop
  | .message r => r.id.toUInt8 < 0x80
  | _ => True

/-- The body of a reply to a request. -/
structure Reports (J : Nlohmann) (request : Request) (body : Buffer) (j : Json) : Prop where
  parsed : J.parse body = some j
  command : j.find (str "command") = some (.string request.replyCmd)
  id : j.find (str "id") = some (.unsigned request.id)
  clientId : ∀ r, request = .message r → j.find (str "client_id") = some (.string (assignChar r.id))

/-- What is left in `_cmd` and `_out` when a packet has been handled. -/
def AnswerTo (A : App) (packet answer : Packet) : Prop :=
  match A.request packet with
  | none => answer = ⟨packet.cmd, []⟩
  | some request =>
    answer.cmd = request.replyCmd ∧
      (request.Writable → answer.body ≠ [] ∧ ∃ j, Reports A.json request answer.body j) ∧
      (¬ request.Writable → answer.body = [])

section
variable {J : Nlohmann} {Resp : Type} [Reply Resp]

theorem conclude_of_utf8 {resp : Resp} (utf8 : TextUtf8 resp) (cmd : Str) :
    ∃ out, packerTo J resp = some out ∧ conclude J cmd (some resp) = ⟨true, Reply.command resp, out⟩ := by
  obtain ⟨out, packed⟩ := packerTo_some J utf8
  exact ⟨out, packed, by simp only [conclude, packed]⟩

theorem conclude_of_not_utf8 {resp : Resp} (bad : ¬ TextUtf8 resp) (cmd : Str) :
    conclude J cmd (some resp) = ⟨false, Reply.command resp, []⟩ := by
  simp only [conclude, packerTo_none J bad]

/-- A response that can be packed and has the command and the id of a request's reply. -/
theorem conclude_reports {A : App} {request : Request} {resp : Resp} (utf8 : TextUtf8 resp)
    (command : Reply.command resp = request.replyCmd) (id : Reply.id resp = request.id)
    (clientId : ∀ r, request = .message r → getMember resp (str "client_id") = some (.string (assignChar r.id)))
    (cmd : Str) :
    (conclude A.json cmd (some resp)).cmd = request.replyCmd ∧
      (conclude A.json cmd (some resp)).out ≠ [] ∧
      ∃ j, Reports A.json request (conclude A.json cmd (some resp)).out j := by
  obtain ⟨out, packed, same⟩ := @conclude_of_utf8 A.json Resp _ resp utf8 cmd
  rw [same]
  obtain ⟨j, parsed, members⟩ := parse_packerTo A.json packed
  refine ⟨command, packerTo_ne_nil A.json packed, j, parsed, ?_, ?_, ?_⟩
  · rw [members, Reply.get_command, command]
  · rw [members, Reply.get_id, id]
  · intro r same
    rw [members, clientId r same]

end

/-! ## The texts of the responses -/

theorem clientRequest_utf8 {c : AuthClient} {body : Str} (text : Utf8.valid body = true)
    (login : Utf8.valid c.login = true) (session : Utf8.valid c.session = true) :
    TextUtf8 (clientRequest c body) :=
  ⟨trivial, str_utf8 (by decide), text, login, session, trivial⟩

/-- The one-byte `client_id` is UTF-8 exactly when the byte is ASCII. -/
theorem assignChar_utf8 {n : UInt64} : Utf8.valid (assignChar n) = true ↔ n.toUInt8 < 0x80 := Utf8.valid_singleton

section
variable (A : App)

/-- The program of a broadcast makes its calls and throws nothing. -/
theorem broadcast_always {body : Str} (text : Utf8.valid body = true) {clients : List AuthClient}
    (good : ∀ c ∈ clients, Utf8.valid c.login = true ∧ Utf8.valid c.session = true) :
    Program.Always CallOk AnswerOk (fun r => r = some ()) (broadcast A.json body clients) := by
  induction clients with
  | nil => rfl
  | cons c rest ih =>
    obtain ⟨login, session⟩ := good c (by simp)
    obtain ⟨buff, packed⟩ := packerTo_some A.json (clientRequest_utf8 text login session)
    rw [broadcast, packed]
    exact ⟨trivial, fun _ _ => ih fun c member => good c (by simp [member])⟩

/-- What a handler of `request` leaves. -/
def Leaves (request : Request) : Dispatched → Prop := fun d =>
  d.cmd = request.replyCmd ∧ (request.Writable → d.out ≠ [] ∧ ∃ j, Reports A.json request d.out j) ∧
    (¬ request.Writable → d.out = [])

theorem leaves_of_utf8 {Resp : Type} [Reply Resp] {request : Request} {resp : Resp} (utf8 : TextUtf8 resp)
    (command : Reply.command resp = request.replyCmd) (id : Reply.id resp = request.id)
    (writable : request.Writable)
    (clientId : ∀ r, request = .message r → getMember resp (str "client_id") = some (.string (assignChar r.id)))
    (cmd : Str) : Leaves A request (conclude A.json cmd (some resp)) := by
  obtain ⟨same, written, reports⟩ := @conclude_reports Resp _ A request resp utf8 command id clientId cmd
  exact ⟨same, fun _ => ⟨written, reports⟩, fun bad => absurd writable bad⟩

/-- A message response with such a `client_id` is packed exactly when the byte is ASCII. -/
theorem leaves_of_message {request : Client.MsgRequest} {resp : Server.MsgResponse}
    (id : resp.id = request.id) (command : resp.command = Commands.msgReply)
    (clientId : resp.clientId = assignChar request.id) (status : Utf8.valid resp.status = true)
    (message : Utf8.valid resp.message = true) (cmd : Str) :
    Leaves A (.message request) (conclude A.json cmd (some resp)) := by
  by_cases ascii : request.id.toUInt8 < 0x80
  · apply @leaves_of_utf8 A _ _ (.message request) _ _ command id ascii
    · intro r same
      cases same
      exact congrArg (fun s => some (Value.string s)) clientId
    · exact ⟨trivial, command ▸ str_utf8 (by decide), status, clientId ▸ assignChar_utf8.2 ascii, message, trivial⟩
  · have bad : ¬ TextUtf8 resp := by
      rintro ⟨_, _, _, valid, _⟩
      exact ascii (assignChar_utf8.1 (clientId ▸ valid))
    rw [conclude_of_not_utf8 bad]
    exact ⟨command, fun writable => absurd writable ascii, fun _ => rfl⟩

/-- **What each handler does.** -/
theorem handling_always (cmd : Str) (cookies : ClientCookies) {request : Request} (text : request.Text) :
    Program.Always CallOk AnswerOk (Leaves A request) (A.handling cmd cookies request) := by
  cases request with
  | hello r =>
    apply @leaves_of_utf8 A _ _ (.hello r) _ _ rfl rfl trivial nofun
    exact ⟨trivial, str_utf8 (by decide), str_utf8 (by decide), trivial⟩
  | ping r =>
    refine ⟨trivial, fun (auth : ClientStatus) _ => ?_⟩
    change Program.Always CallOk AnswerOk _ (Program.bind (if auth = .accepted then _ else _) _)
    split
    · apply @leaves_of_utf8 A _ _ (.ping r) _ _ rfl rfl trivial nofun
      exact ⟨trivial, str_utf8 (by decide), str_utf8 (by decide), rfl, rfl, trivial⟩
    · apply @leaves_of_utf8 A _ _ (.ping r) _ _ rfl rfl trivial nofun
      exact ⟨trivial, str_utf8 (by decide), str_utf8 (by decide), rfl, str_utf8 (by decide), trivial⟩
  | login r =>
    obtain ⟨_, _, login, _, _⟩ := text
    refine ⟨⟨login, rfl⟩, fun (answer : ClientStatus × Str) session => ?_⟩
    change Program.Always CallOk AnswerOk _ (Program.bind (if answer.1 = .accepted then _ else _) _)
    split
    · apply @leaves_of_utf8 A _ _ (.login r) _ _ rfl rfl trivial nofun
      exact ⟨trivial, str_utf8 (by decide), str_utf8 (by decide), session, rfl, trivial⟩
    · apply @leaves_of_utf8 A _ _ (.login r) _ _ rfl rfl trivial nofun
      exact ⟨trivial, str_utf8 (by decide), str_utf8 (by decide), session, str_utf8 (by decide), trivial⟩
  | logout r =>
    refine ⟨trivial, fun (auth : ClientStatus) _ => ?_⟩
    change Program.Always CallOk AnswerOk _ (Program.bind (if auth = .removed then _ else _) _)
    split
    · apply @leaves_of_utf8 A _ _ (.logout r) _ _ rfl rfl trivial nofun
      exact ⟨trivial, str_utf8 (by decide), str_utf8 (by decide), trivial⟩
    · apply @leaves_of_utf8 A _ _ (.logout r) _ _ rfl rfl trivial nofun
      exact ⟨trivial, str_utf8 (by decide), str_utf8 (by decide), trivial⟩
  | message r =>
    obtain ⟨_, _, body, _, _⟩ := text
    refine ⟨trivial, fun (auth : ClientStatus) _ => ?_⟩
    change Program.Always CallOk AnswerOk _ (Program.bind (if auth = .accepted then _ else _) _)
    split
    · refine ⟨trivial, fun (clients : List AuthClient) good => ?_⟩
      change Program.Always CallOk AnswerOk _
        (Program.bind (Program.bind (broadcast A.json r.body clients) _) _)
      rw [Program.bind_assoc]
      apply Program.Always.bind _ (broadcast_always A body good)
      rintro _ rfl
      exact leaves_of_message A rfl rfl rfl (str_utf8 (by decide)) rfl cmd
    · exact leaves_of_message A rfl rfl rfl (str_utf8 (by decide)) (str_utf8 (by decide)) cmd

/-- A request is decoded text. -/
theorem request_text {packet : Packet} {request : Request} (taken : A.request packet = some request) :
    request.Text := by
  have carries := A.request_some taken
  cases request <;> exact utf8_packerFrom A.json carries.2

/-- **What a packet's handler does.** -/
theorem packetHandler_always (cid : Nat) (packet : Packet) :
    Program.Always CallOk AnswerOk (AnswerTo A packet) (A.packetHandler cid packet) := by
  change Program.Always CallOk AnswerOk _ (Program.bind (dispatch A.hash A.handlers packet.cmd ⟨cid⟩ packet.body) _)
  rcases A.dispatch_request packet ⟨cid⟩ with ⟨request, taken, same⟩ | ⟨none, ok, same⟩
  · rw [same]
    apply Program.Always.bind _ (handling_always A packet.cmd ⟨cid⟩ (request_text A taken))
    intro d leaves
    simp only [Program.pure_eq, Program.Always, AnswerTo, taken]
    exact leaves
  · rw [same]
    simp only [Program.done_bind, Program.pure_eq, Program.Always, AnswerTo, none]

section
variable {Pre : Call → Prop} {Ok : (call : Call) → call.Answer → Prop}

theorem handling_calls (cmd : Str) (cookies : ClientCookies) {request : Request}
    (others : ∀ call, (∀ cookies cmd buff, call ≠ .sendTo cookies cmd buff) → Pre call)
    (sends : ∀ r, request = .message r → ∀ clients : List AuthClient, Ok (.getClients .accepted) clients →
      Program.Always Pre Ok (fun _ => True) (broadcast A.json r.body clients)) :
    Program.Always Pre Ok (fun _ => True) (A.handling cmd cookies request) := by
  cases request with
  | hello r => trivial
  | ping r =>
    refine ⟨others _ nofun, fun (auth : ClientStatus) _ => ?_⟩
    change Program.Always _ _ _ (Program.bind (if auth = .accepted then _ else _) _)
    split <;> trivial
  | login r =>
    refine ⟨others _ nofun, fun (answer : ClientStatus × Str) _ => ?_⟩
    change Program.Always _ _ _ (Program.bind (if answer.1 = .accepted then _ else _) _)
    split <;> trivial
  | logout r =>
    refine ⟨others _ nofun, fun (auth : ClientStatus) _ => ?_⟩
    change Program.Always _ _ _ (Program.bind (if auth = .removed then _ else _) _)
    split <;> trivial
  | message r =>
    refine ⟨others _ nofun, fun (auth : ClientStatus) _ => ?_⟩
    change Program.Always _ _ _ (Program.bind (if auth = .accepted then _ else _) _)
    split
    · refine ⟨others _ nofun, fun (clients : List AuthClient) ok => ?_⟩
      change Program.Always _ _ _ (Program.bind (Program.bind (broadcast A.json r.body clients) _) _)
      rw [Program.bind_assoc]
      apply Program.Always.bind _ (sends r rfl clients ok)
      rintro (_ | _) _ <;> trivial
    · trivial

/-- **The calls of a packet's handler**: what holds of all calls but `send_to`, and of those of
a broadcast, holds of all that it makes. -/
theorem packetHandler_calls (cid : Nat) (packet : Packet)
    (others : ∀ call, (∀ cookies cmd buff, call ≠ .sendTo cookies cmd buff) → Pre call)
    (sends : ∀ r, A.request packet = some (.message r) → ∀ clients : List AuthClient, Ok (.getClients .accepted) clients →
      Program.Always Pre Ok (fun _ => True) (broadcast A.json r.body clients)) :
    Program.Always Pre Ok (fun _ => True) (A.packetHandler cid packet) := by
  change Program.Always _ _ _ (Program.bind (dispatch A.hash A.handlers packet.cmd ⟨cid⟩ packet.body) _)
  rcases A.dispatch_request packet ⟨cid⟩ with ⟨request, taken, same⟩ | ⟨none, ok, same⟩
  · rw [same]
    have handled := handling_calls A packet.cmd ⟨cid⟩ others fun r message => sends r (message ▸ taken)
    apply Program.Always.bind _ handled
    intro d _
    trivial
  · rw [same]
    trivial

end

/-- What a call answers, and what it leaves of the provider. -/
theorem outcome_ok {s : State} (good : s.provider.Good) (c : Nat) (choice : Choice) {call : Call}
    (ok : CallOk call) :
    (s.outcome c choice call).2.1.Good ∧ AnswerOk call (s.outcome c choice call).1 := by
  cases call with
  | statusClient id session => exact ⟨good, trivial⟩
  | getClients status =>
    refine ⟨good, fun (c : AuthClient) member => ?_⟩
    obtain ⟨_, _, _, login, draw, session⟩ := good _ _ (Provider.lookup_of_mem_getClients good member)
    exact ⟨login, session ▸ draw.session_utf8⟩
  | addClient id cookies login pass session =>
    obtain ⟨text, rfl⟩ := ok
    refine ⟨good.addClient choice.draw cookies pass text, ?_⟩
    rcases @Provider.addClient_cases s.provider id choice.draw cookies login pass [] with
      ⟨_, _, same⟩ | ⟨_, _, same⟩ | ⟨_, same⟩
    · simp only [State.outcome, AnswerOk, same]
      exact choice.draw.session_utf8
    · simp only [State.outcome, AnswerOk, same]
      rfl
    · simp only [State.outcome, AnswerOk, same]
      rfl
  | remClient id session => exact ⟨good.remClient session, trivial⟩
  | sendTo cookies cmd buff => exact ⟨good, trivial⟩

/-! ## The invariant of the handlers -/

/-- The packets that connection `c` has received, newest first. -/
def frames (c : Nat) : List Entry → List Packet
  | [] => []
  | .received c' packet :: log => if c' = c then packet :: frames c log else frames c log
  | _ :: log => frames c log

/-- What every run of the server keeps. -/
structure Sound (s : State) : Prop where
  good : s.provider.Good
  threads : ∀ c conn program, s.conns[c]? = some conn → conn.phase = .handling program →
    ∃ packet, (frames c s.log).head? = some packet ∧
      Program.Always CallOk AnswerOk (AnswerTo A packet) program

end

theorem frames_append {entries : List Entry} (quiet : ∀ c packet, .received c packet ∉ entries) (c : Nat)
    (log : List Entry) : frames c (entries ++ log) = frames c log := by
  induction entries with
  | nil => rfl
  | cons e entries ih =>
    have rest := ih fun c packet member => quiet c packet (by simp [member])
    cases e with
    | received c' packet => exact absurd (List.mem_cons_self) (quiet c' packet)
    | _ => exact rest

section
variable {A : App} {s s' : State} {e : Event}

theorem sound_init (login pass : Str) : Sound A (State.init login pass) :=
  ⟨Provider.good_init login pass, nofun⟩

/-- A step of a handler that is not, or no longer, in `packet_handler`. -/
theorem Sound.of_set (h : Sound A s) {c : Nat} {new : Conn} (provider : s'.provider = s.provider)
    (conns : s'.conns = s.conns.set c new) (out : ∀ program, new.phase ≠ .handling program)
    (log : ∀ c, frames c s'.log = frames c s.log) : Sound A s' := by
  refine ⟨provider ▸ h.good, fun c' conn program found phase => ?_⟩
  rw [conns] at found
  rw [log]
  rcases conns_set found with ⟨_, rfl⟩ | ⟨_, old⟩
  · exact absurd phase (out program)
  · exact h.threads c' conn program old phase

theorem frames_uses (c : Nat) (s : State) (conn : Conn) (d : Nat) (log : List Entry) :
    frames c (s.uses conn (.read d) ++ log) = frames c log := by
  apply frames_append
  intro c' packet member
  obtain ⟨_, _, same⟩ := mem_uses member
  cases same

theorem frames_send (c : Nat) (s : State) (conn : Conn) (d : Nat) (packet : Packet) (log : List Entry) :
    frames c ((s.send conn packet fun on => .replied d on packet).2 ++ log) = frames c log := by
  apply frames_append
  intro c' packet' member
  obtain ⟨_, _, same⟩ := mem_send member
  cases same

theorem frames_after (c : Nat) (s : State) (d : Nat) (choice : Choice) (call : Call) :
    frames c (s.after d choice call).log = frames c s.log := by
  change frames c ((s.outcome d choice call).2.2 ++ s.log) = frames c s.log
  apply frames_append
  intro c' packet member
  obtain ⟨_, _, _, _, _, _, _, _, _, _, same⟩ := mem_outcome member
  cases same

/-- A step keeps the invariant. -/
theorem sound_step (h : Sound A s) (taken : step A s e = some s') : Sound A s' := by
  cases step_cases taken with
  | accept fresh | refuse fresh =>
    refine ⟨h.good, fun c conn program found phase => ?_⟩
    rcases conns_append found with ⟨_, rfl⟩ | old
    · cases phase
    · exact h.threads c conn program old phase
  | emplace here => exact h.of_set rfl rfl nofun fun _ => rfl
  | packet here received =>
    rename_i c handle socket stack results header buff
    refine ⟨h.good, fun c' conn program found phase => ?_⟩
    rcases conns_set found with ⟨rfl, rfl⟩ | ⟨other, old⟩
    · cases phase
      refine ⟨_, ?_, packetHandler_always A handle _⟩
      simp only [frames, if_true, List.head?_cons]
    · obtain ⟨packet, last, always⟩ := h.threads c' conn program old phase
      refine ⟨packet, ?_, always⟩
      simp only [frames, if_neg (Ne.symm other), frames_uses, last]
  | refused here received => exact h.of_set rfl rfl nofun fun c' => frames_uses c' s _ _ _
  | call here =>
    rename_i c handle socket choice call next
    obtain ⟨packet, last, ok, always⟩ := h.threads c _ _ here rfl
    obtain ⟨good, answer⟩ := outcome_ok h.good c choice ok
    refine ⟨good, fun c' conn program found phase => ?_⟩
    change ∃ packet, (frames c' (s.after c choice call).log).head? = some packet ∧ _
    rw [frames_after]
    rcases conns_set found with ⟨rfl, rfl⟩ | ⟨other, old⟩
    · cases phase
      exact ⟨packet, last, always _ answer⟩
    · exact h.threads c' conn program old phase
  | reply here => exact h.of_set rfl rfl nofun fun c' => frames_send c' s _ _ _ _
  | disconnect here | destroy here | disconnected here | invalidate here | erase here | finish here =>
    exact h.of_set rfl rfl nofun fun _ => rfl

/-- Every run keeps the invariant. -/
theorem sound_run (h : Sound A s) {es : List Event} (run : Runs.exec (step A) s es = some s') : Sound A s' :=
  Runs.exec_invariant (fun _ _ _ => sound_step) h run

end

end Gologin.Server
