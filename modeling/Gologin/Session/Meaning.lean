import Gologin.Server.Handling
import Gologin.Client.Machine
import Gologin.Session.Talk

/-!
# What the packets mean

A packet of a client asks for something, a packet of the server replies, and a handler in
hand will do the one or the other: each as far as the conversation of a client goes. A
message that is broadcast is no reply.
-/

namespace Gologin.Session
set_option autoImplicit false
open Calls Messages Tcp Auth Gui

/-- The buttons of a frame. -/
def form (f : Frame) : Form := ⟨f.connectButton, f.disconnectButton, f.loginButton, f.logoutButton, f.sendButton⟩

/-! ## Replies -/

/-- What an answer of the server replies. -/
def replied : Answer → List Reply
  | .message _ => []
  | .messageReply _ => [.message]
  | .hello _ => [.hello]
  | .auth responce => [.login (decide (responce.status = str "ok")) responce.session]
  | .bye responce => [.logout (decide (responce.status = str "ok"))]

/-- What a packet of the server replies. -/
def replies (J : Nlohmann) (packet : Packet) : List Reply :=
  match answer J packet with
  | some a => replied a
  | none => []

/-- A packet that is sent, and is read as the reply `r`. -/
structure Tells (J : Nlohmann) (packet : Packet) (r : Reply) : Prop where
  full : createPacket packet.cmd packet.body ≠ []
  read : ∃ a, answer J packet = some a ∧ replied a = [r]

/-- **What a packet does to the buttons and the session.** -/
theorem tell_replied (a : Answer) (c : Client) :
    form (a.tell c).frame = (replied a).foldl (fun f r => r.alter f) (form c.frame) ∧
      (a.tell c).cookie.clientSession = (replied a).foldl Reply.store c.cookie.clientSession := by
  cases a with
  | message | hello => exact ⟨rfl, rfl⟩
  | messageReply responce =>
    unfold Answer.tell
    by_cases ok : responce.status = str "ok"
    · simp only [if_pos ok]
      exact ⟨rfl, rfl⟩
    · simp only [if_neg ok]
      exact ⟨rfl, rfl⟩
  | auth responce =>
    unfold Answer.tell
    by_cases ok : responce.status = str "ok"
    · simp only [if_pos ok, replied, decide_eq_true ok]
      exact ⟨rfl, rfl⟩
    · simp only [if_neg ok, replied, decide_eq_false ok]
      exact ⟨rfl, rfl⟩
  | bye responce =>
    unfold Answer.tell
    by_cases ok : responce.status = str "ok"
    · simp only [if_pos ok, replied, decide_eq_true ok]
      exact ⟨rfl, rfl⟩
    · simp only [if_neg ok, replied, decide_eq_false ok]
      exact ⟨rfl, rfl⟩

/-! ## Requests -/

section
variable (login pass : Str)

/-- What a request asks for, of a server with these credentials; a client sends no ping. -/
def asked : Server.Request → List Ask
  | .hello _ => [.hello]
  | .ping _ => []
  | .login r => [.login r.id (decide (r.login = login ∧ r.password = pass))]
  | .logout r => [.logout r.id]
  | .message _ => [.message]

/-- What a packet of a client asks for. -/
def asks (A : Server.App) (packet : Packet) : List Ask :=
  match A.request packet with
  | some request => asked login pass request
  | none => []

/-- A handler in hand: what it will do, or what it has to say. -/
def inHand (J : Nlohmann) : Server.Handling Packet → List Ask × List Reply
  | .call (.addClient id _ l p _) _ => ([.login id (decide (l = login ∧ p = pass))], [])
  | .call (.remClient id _) _ => ([.logout id], [])
  | .call _ _ => ([.message], [])
  | .done packet => ([], if createPacket packet.cmd packet.body = [] then [] else replies J packet)

end

/-- A packet that a client sends. -/
structure Requested (A : Server.App) (packet : Packet) : Prop where
  room : packet.cmd.length < sizeofType
  free : 0 ∉ packet.cmd
  read : ∃ request, A.request packet = some request ∧ ∀ r, request ≠ .ping r

/-! ## Handlers -/

/-- A call that leaves the table of the provider alone, and broadcasts at most a message. -/
def Plain (J : Nlohmann) : Server.Call → Prop
  | .addClient _ _ _ _ _ => False
  | .remClient _ _ => False
  | .sendTo _ cmd buff => ∃ request, answer J ⟨cmd, buff⟩ = some (.message request)
  | _ => True

/-- A packet that `client_base::send` does not send. -/
def Silent (packet : Packet) : Prop := createPacket packet.cmd packet.body = []

/-- What the handlers of the requests of a client come to. -/
inductive Orderly (J : Nlohmann) : Server.Handling Packet → Prop where
  | done {packet : Packet} (quiet : Silent packet ∨ ∃ r, Tells J packet r) : Orderly J (.done packet)
  | login {id : UInt64} {cookies : ClientCookies} {l p : Str} {next : ClientStatus × Str → Server.Handling Packet}
      (tells : ∀ status session, Utf8.valid session = true → ∃ packet, next (status, session) = .done packet ∧
        Tells J packet (.login (decide (status = .accepted)) session)) :
      Orderly J (.call (.addClient id cookies l p []) next)
  | logout {id : UInt64} {session : Str} {next : ClientStatus → Server.Handling Packet}
      (tells : ∀ status, ∃ packet, next status = .done packet ∧ Tells J packet (.logout (decide (status = .removed)))) :
      Orderly J (.call (.remClient id session) next)
  | message {call : Server.Call} {next : call.Answer → Server.Handling Packet}
      (always : Program.Always (Plain J) Server.AnswerOk (fun packet => Silent packet ∨ Tells J packet .message)
        (.call call next)) : Orderly J (.call call next)

/-! ## Replies, as the handlers write them -/

section
variable {J : Nlohmann} {Resp : Type} [Messages.Reply Resp] {resp : Resp} {r : Reply}

theorem createPacket_nil (cmd : Str) : createPacket cmd [] = [] := if_pos rfl

/-- A response is read as the reply `r` when what `packer::to` makes of it is. -/
theorem tells_conclude (own : Str) (utf8 : TextUtf8 resp) (command : Messages.Reply.command resp = own)
    (room : own.length < sizeofType)
    (read : ∀ body, packerTo J resp = some body → ∃ a, answer J ⟨own, body⟩ = some a ∧ replied a = [r]) (cmd : Str) :
    Tells J ⟨(conclude J cmd (some resp)).cmd, (conclude J cmd (some resp)).out⟩ r := by
  subst command
  obtain ⟨out, packed, same⟩ := @Server.conclude_of_utf8 J Resp _ resp utf8 cmd
  rw [same]
  exact ⟨createPacket_ne_nil (packerTo_ne_nil J packed) room, read out packed⟩

theorem silent_or_tells (own : Str) (command : Messages.Reply.command resp = own) (room : own.length < sizeofType)
    (read : ∀ body, packerTo J resp = some body → ∃ a, answer J ⟨own, body⟩ = some a ∧ replied a = [r]) (cmd : Str) :
    Silent ⟨(conclude J cmd (some resp)).cmd, (conclude J cmd (some resp)).out⟩ ∨
      Tells J ⟨(conclude J cmd (some resp)).cmd, (conclude J cmd (some resp)).out⟩ r := by
  by_cases utf8 : TextUtf8 resp
  · exact Or.inr (tells_conclude own utf8 command room read cmd)
  · left
    rw [Server.conclude_of_not_utf8 utf8]
    exact createPacket_nil _

end

section
variable (J : Nlohmann) {body : Buffer}

theorem answer_message {request : Server.MsgRequest} (packed : packerTo J request = some body) :
    answer J ⟨Commands.msg, body⟩ = some (.message request) := by
  unfold answer
  rw [if_pos rfl, packerFrom_packerTo J packed]
  rfl

theorem answer_messageReply {responce : Server.MsgResponse} (packed : packerTo J responce = some body) :
    answer J ⟨Commands.msgReply, body⟩ = some (.messageReply responce) := by
  unfold answer
  dsimp only
  rw [if_neg (by decide), if_pos rfl, packerFrom_packerTo J packed]
  rfl

theorem answer_hello {responce : Server.HelloResponse} (packed : packerTo J responce = some body) :
    answer J ⟨Commands.helloReply, body⟩ = some (.hello responce) := by
  unfold answer
  dsimp only
  rw [if_neg (by decide), if_neg (by decide), if_pos rfl, packerFrom_packerTo J packed]
  rfl

theorem answer_auth {responce : Server.AuthResponse} (packed : packerTo J responce = some body) :
    answer J ⟨Commands.authReply, body⟩ = some (.auth responce) := by
  unfold answer
  dsimp only
  rw [if_neg (by decide), if_neg (by decide), if_neg (by decide), if_pos rfl, packerFrom_packerTo J packed]
  rfl

theorem answer_bye {responce : Server.ByeResponse} (packed : packerTo J responce = some body) :
    answer J ⟨Commands.byeReply, body⟩ = some (.bye responce) := by
  unfold answer
  dsimp only
  rw [if_neg (by decide), if_neg (by decide), if_neg (by decide), if_neg (by decide), if_pos rfl,
    packerFrom_packerTo J packed]
  rfl

end

/-! ## The handlers of the requests -/

section
variable (A : Server.App) (login pass : Str)

/-- What is left of a handler that has run. -/
def finish (d : Dispatched) : Server.Handling Packet := .done ⟨d.cmd, d.out⟩

theorem packetHandler_of_request (cid : Nat) {packet : Packet} {request : Server.Request}
    (taken : A.request packet = some request) :
    A.packetHandler cid packet = (A.handling packet.cmd ⟨cid⟩ request).bind finish := by
  change Program.bind (dispatch A.hash A.handlers packet.cmd ⟨cid⟩ packet.body) _ = _
  rcases A.dispatch_request packet ⟨cid⟩ with ⟨other, same, handled⟩ | ⟨none, _⟩
  · cases same.symm.trans taken
    rw [handled]
    rfl
  · cases none.symm.trans taken

theorem broadcast_plain (body : Str) (clients : List AuthClient) :
    Program.Always (Plain A.json) Server.AnswerOk (fun _ => True) (Server.broadcast A.json body clients) := by
  induction clients with
  | nil => trivial
  | cons c rest ih =>
    rw [Server.broadcast]
    cases packed : packerTo A.json (Server.clientRequest c body) with
    | none => trivial
    | some buff => exact ⟨⟨_, answer_message A.json packed⟩, fun _ _ => ih⟩

theorem hello_handling (cmd : Str) (cookies : ClientCookies) (r : Messages.Client.HelloRequest) :
    ∃ packet, (A.handling cmd cookies (.hello r)).bind finish = .done packet ∧ Tells A.json packet .hello := by
  refine ⟨_, rfl, tells_conclude Commands.helloReply ?_ rfl (by decide) ?_ cmd⟩
  · exact ⟨trivial, str_utf8 (by decide), str_utf8 (by decide), trivial⟩
  · exact fun body packed => ⟨_, answer_hello A.json packed, rfl⟩

theorem login_handling (cmd : Str) (cookies : ClientCookies) (r : Messages.Client.AuthRequest) :
    ∃ next, (A.handling cmd cookies (.login r)).bind finish =
        .call (.addClient r.id cookies r.login r.password []) next ∧
      ∀ status session, Utf8.valid session = true → ∃ packet, next (status, session) = .done packet ∧
        Tells A.json packet (.login (decide (status = .accepted)) session) := by
  refine ⟨_, rfl, fun status session valid => ?_⟩
  cases status with
  | accepted =>
    refine ⟨_, rfl, tells_conclude Commands.authReply ?_ rfl (by decide) ?_ cmd⟩
    · exact ⟨trivial, str_utf8 (by decide), str_utf8 (by decide), valid, rfl, trivial⟩
    · exact fun body packed => ⟨_, answer_auth A.json packed, rfl⟩
  | _ =>
    refine ⟨_, rfl, tells_conclude Commands.authReply ?_ rfl (by decide) ?_ cmd⟩
    · exact ⟨trivial, str_utf8 (by decide), str_utf8 (by decide), valid, str_utf8 (by decide), trivial⟩
    · exact fun body packed => ⟨_, answer_auth A.json packed, rfl⟩

theorem logout_handling (cmd : Str) (cookies : ClientCookies) (r : Messages.Client.ByeRequest) :
    ∃ next, (A.handling cmd cookies (.logout r)).bind finish = .call (.remClient r.id r.session) next ∧
      ∀ status : ClientStatus, ∃ packet, next status = .done packet ∧
        Tells A.json packet (.logout (decide (status = .removed))) := by
  refine ⟨_, rfl, fun status => ?_⟩
  cases status with
  | _ =>
    refine ⟨_, rfl, tells_conclude Commands.byeReply ?_ rfl (by decide) ?_ cmd⟩
    · exact ⟨trivial, str_utf8 (by decide), str_utf8 (by decide), trivial⟩
    · exact fun body packed => ⟨_, answer_bye A.json packed, rfl⟩

theorem message_handling (cmd : Str) (cookies : ClientCookies) (r : Messages.Client.MsgRequest) :
    ∃ next, (A.handling cmd cookies (.message r)).bind finish = .call (.statusClient r.id r.session) next ∧
      Program.Always (Plain A.json) Server.AnswerOk (fun packet => Silent packet ∨ Tells A.json packet .message)
        (.call (.statusClient r.id r.session) next) := by
  refine ⟨_, rfl, trivial, fun (auth : ClientStatus) _ => ?_⟩
  change Program.Always (Plain A.json) _ _
    (Program.bind (Program.bind (if auth = .accepted then _ else _) _) finish)
  split
  · refine ⟨trivial, fun (clients : List AuthClient) _ => ?_⟩
    change Program.Always (Plain A.json) _ _
      (Program.bind (Program.bind (Program.bind (Server.broadcast A.json r.body clients) _) _) finish)
    rw [Program.bind_assoc, Program.bind_assoc]
    apply Program.Always.bind _ (broadcast_plain A r.body clients)
    rintro (_ | _) _
    · exact Or.inl (createPacket_nil _)
    · exact silent_or_tells Commands.msgReply rfl (by decide) (fun body packed => ⟨_, answer_messageReply A.json packed, rfl⟩) cmd
  · exact silent_or_tells Commands.msgReply rfl (by decide) (fun body packed => ⟨_, answer_messageReply A.json packed, rfl⟩) cmd

variable {A login pass}

theorem inHand_tells {J : Nlohmann} {packet : Packet} {r : Reply} (tells : Tells J packet r) :
    inHand login pass J (.done packet) = ([], [r]) := by
  obtain ⟨a, read, one⟩ := tells.read
  simp only [inHand, if_neg tells.full, replies, read, one]

theorem inHand_silent {J : Nlohmann} {packet : Packet} (silent : Silent packet) :
    inHand login pass J (.done packet) = ([], []) := by
  simp only [inHand, if_pos (show createPacket packet.cmd packet.body = [] from silent)]

theorem inHand_plain {J : Nlohmann} {call : Server.Call} (plain : Plain J call)
    (next : call.Answer → Server.Handling Packet) : inHand login pass J (.call call next) = ([.message], []) := by
  cases call with
  | addClient | remClient => exact plain.elim
  | statusClient | getClients | sendTo => rfl

/-- **What a request of a client is handled as.** A hello is answered at once; what another
asks for is still to be done. -/
theorem packetHandler_orderly (cid : Nat) {packet : Packet} (requested : Requested A packet) :
    Orderly A.json (A.packetHandler cid packet) ∧
      ((asks login pass A packet = [.hello] ∧ inHand login pass A.json (A.packetHandler cid packet) = ([], [.hello])) ∨
        inHand login pass A.json (A.packetHandler cid packet) = (asks login pass A packet, [])) := by
  obtain ⟨request, taken, other⟩ := requested.read
  have asked : asks login pass A packet = asked login pass request := by
    simp only [asks, taken]
  rw [packetHandler_of_request A cid taken, asked]
  cases request with
  | hello r =>
    obtain ⟨reply, same, tells⟩ := hello_handling A packet.cmd ⟨cid⟩ r
    rw [same]
    exact ⟨.done (Or.inr ⟨_, tells⟩), Or.inl ⟨rfl, inHand_tells tells⟩⟩
  | ping r => exact absurd rfl (other r)
  | login r =>
    obtain ⟨next, same, tells⟩ := login_handling A packet.cmd ⟨cid⟩ r
    rw [same]
    exact ⟨.login tells, Or.inr rfl⟩
  | logout r =>
    obtain ⟨next, same, tells⟩ := logout_handling A packet.cmd ⟨cid⟩ r
    rw [same]
    exact ⟨.logout tells, Or.inr rfl⟩
  | message r =>
    obtain ⟨next, same, always⟩ := message_handling A packet.cmd ⟨cid⟩ r
    rw [same]
    exact ⟨.message always, Or.inr rfl⟩

/-! ## The packets of a client -/

section
variable {buff : Buffer} {c : Client}

theorem request_hello {clientId : UInt64} (packed : packerTo A.json (helloRequest clientId) = some buff) :
    A.request ⟨Commands.hello, buff⟩ = some (.hello (helloRequest clientId)) := by
  rw [(A.request_cmd buff).1, packerFrom_packerTo A.json packed]
  rfl

theorem request_login {userpass : Str} (packed : packerTo A.json (loginRequest c userpass) = some buff) :
    A.request ⟨Commands.auth, buff⟩ = some (.login (loginRequest c userpass)) := by
  rw [(A.request_cmd buff).2.1, packerFrom_packerTo A.json packed]
  rfl

theorem request_logout (packed : packerTo A.json (logoutRequest c) = some buff) :
    A.request ⟨Commands.bye, buff⟩ = some (.logout (logoutRequest c)) := by
  rw [(A.request_cmd buff).2.2.1, packerFrom_packerTo A.json packed]
  rfl

theorem request_message {msg : Str} (packed : packerTo A.json (messageRequest c msg) = some buff) :
    A.request ⟨Commands.msg, buff⟩ = some (.message (messageRequest c msg)) := by
  rw [(A.request_cmd buff).2.2.2, packerFrom_packerTo A.json packed]
  rfl

theorem requested_of (cmd : Str) (room : cmd.length < sizeofType) (free : 0 ∉ cmd) {request : Server.Request}
    (read : A.request ⟨cmd, buff⟩ = some request) (other : ∀ r, request ≠ .ping r) : Requested A ⟨cmd, buff⟩ :=
  ⟨room, free, request, read, other⟩

/-- A client sends requests. -/
theorem requested_act {B : App A.json} {c' : Client} {e : Event} {sent : List Packet}
    (acted : act B c e = some (c', sent)) : ∀ packet ∈ sent, Requested A packet := by
  intro packet member
  cases act_cases acted with
  | hello clickable up packed =>
    obtain rfl := List.mem_singleton.1 member
    exact requested_of Commands.hello (by decide) (by decide) (request_hello packed) nofun
  | login clickable packed =>
    obtain rfl := List.mem_singleton.1 member
    exact requested_of Commands.auth (by decide) (by decide) (request_login packed) nofun
  | logout clickable packed =>
    obtain rfl := List.mem_singleton.1 member
    exact requested_of Commands.bye (by decide) (by decide) (request_logout packed) nofun
  | send clickable packed =>
    obtain rfl := List.mem_singleton.1 member
    exact requested_of Commands.msg (by decide) (by decide) (request_message packed) nofun
  | _ => cases member

end

end

end Gologin.Session
