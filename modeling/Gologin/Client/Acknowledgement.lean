import Gologin.Client.Machine

/-!
# The client's response to a message

A client that receives a `message` builds a response to it. What is built, and what of it
leaves the client.
-/

namespace Gologin.Gui
set_option autoImplicit false
open Calls Messages Tcp

/-- The client has clicked a login under this name, and later was told of a session. -/
def LoggedInAs (J : Nlohmann) (es : List Event) (login session : Str) : Prop :=
  ∃ before between after userpass packet responce,
    es = before ++ .login userpass true :: (between ++ .receive packet :: after) ∧
      (Client.splitColon userpass).1 = login ∧ answer J packet = some (.auth responce) ∧
      responce.status = str "ok" ∧ responce.session = session

/-- What the server takes for the acknowledgement of a message, by a client whose events were
`es`. -/
def Acknowledged (J : Nlohmann) (es : List Event) (request : Server.MsgRequest) (sent : List Packet) : Prop :=
  ∃ buff responce, sent = [⟨Commands.msgReply, buff⟩] ∧
    packerFrom J Client.MsgResponse buff = some responce ∧ responce.command = Commands.msgReply ∧
    (LoggedInAs J es request.senderLogin request.session → responce.status = str "ok")

section
variable {J : Nlohmann} (B : App J)

/-- `_cmd` and `_out` behind the `dispatch` of a packet. -/
def leaves (c : Client) (packet : Packet) : Packet :=
  let dispatched := ((dispatch B.hash B.handlers packet.cmd ⟨c.link.getD 0⟩ packet.body).run Client.perform c).1
  ⟨dispatched.cmd, dispatched.out⟩

/-- The response of `app::server_message_packet_handler`. -/
def responseTo (c : Client) (request : Server.MsgRequest) : Client.MsgResponse :=
  if request.senderLogin ≠ c.cookie.clientLogin ∨ request.session ≠ c.cookie.clientSession then
    { id := c.cookie.clientId, command := Commands.msg, status := str "failed",
      message := str "wrong login or session" }
  else
    { id := c.cookie.clientId, command := Commands.msg, status := str "ok", message := str "all good" }

theorem responseTo_utf8 (c : Client) (request : Server.MsgRequest) : TextUtf8 (responseTo c request) := by
  unfold responseTo
  split
  · exact ⟨trivial, str_utf8 (by decide), str_utf8 (by decide), rfl, str_utf8 (by decide), trivial⟩
  · exact ⟨trivial, str_utf8 (by decide), str_utf8 (by decide), rfl, str_utf8 (by decide), trivial⟩

theorem run_messageHandler (cookies : ClientCookies) (request : Server.MsgRequest) (c : Client) :
    (serverMessagePacketHandler cookies request).run Client.perform c =
      (some (responseTo c request), c.output .onRecv .success request.senderLogin request.body) := by
  change (some (Client.MsgResponse.mk c.cookie.clientId Commands.msg
    (if request.senderLogin ≠ c.cookie.clientLogin ∨ request.session ≠ c.cookie.clientSession then
      (str "failed", str "wrong login or session") else (str "ok", str "all good")).1 []
    (if request.senderLogin ≠ c.cookie.clientLogin ∨ request.session ≠ c.cookie.clientSession then
      (str "failed", str "wrong login or session") else (str "ok", str "all good")).2), _) = _
  unfold responseTo
  split <;> rfl

/-- What is left of a message is a response under the command of a message. -/
theorem leaves_message {c : Client} {packet : Packet} (type : packet.cmd = Commands.msg)
    {request : Server.MsgRequest} (decoded : packerFrom J Server.MsgRequest packet.body = some request) :
    ∃ out, packerTo J (responseTo c request) = some out ∧ leaves B c packet = ⟨Commands.msg, out⟩ := by
  obtain ⟨cmd, body⟩ := packet
  subst type
  obtain ⟨out, packed⟩ := packerTo_some J (responseTo_utf8 c request)
  refine ⟨out, packed, ?_⟩
  unfold leaves
  rw [B.dispatch_of_mem (.head _), wrapper3_of_decoded decoded, Program.run_bind, run_messageHandler]
  simp only [Program.run_done, conclude, packed]
  unfold responseTo
  split <;> rfl

/-! ## The login that is never stored -/

theorem clientLogin_perform (call : Call) (c : Client) : (Client.perform call c).2.cookie.clientLogin =
    c.cookie.clientLogin := by
  cases call <;> rfl

/-- Nothing writes `m_cookie._client_login`. -/
theorem clientLogin_act {c c' : Client} {e : Event} {sent : List Packet} (taken : act B c e = some (c', sent)) :
    c'.cookie.clientLogin = c.cookie.clientLogin := by
  cases act_cases taken with
  | unheard clickable up =>
    change (c.connect _ _).cookie.clientLogin = _
    rw [(connect_frame c _ _).2]
  | hello clickable up packed =>
    change (c.connect _ _).cookie.clientLogin = _
    rw [(connect_frame c _ _).2]
  | disconnect clickable down =>
    change c.disconnect.cookie.clientLogin = _
    unfold Client.disconnect
    split <;> rfl
  | receive up =>
    exact receive_keeps B (fun d => d.cookie.clientLogin) clientLogin_perform _ c
  | _ => rfl

theorem clientLogin_run {id : UInt64} {es : List Event} {c : Client}
    (run : Runs.exec (step B) (Client.init id) es = some c) : c.cookie.clientLogin = [] := by
  refine @Runs.exec_invariant _ _ (step B) (fun c => c.cookie.clientLogin = []) (fun c e c' empty taken => ?_)
    _ _ _ rfl run
  obtain ⟨sent, acted⟩ := act_of_step taken
  exact (clientLogin_act B acted).trans empty

/-! ## The acknowledgement -/

/-- The thread sends nothing when it has received a packet. -/
theorem sent_receive {c c' : Client} {packet : Packet} {sent : List Packet}
    (taken : act B c (.receive packet) = some (c', sent)) : sent = [] := by
  simp only [act] at taken
  split at taken
  · exact (congrArg Prod.snd (Option.some.inj taken)).symm
  · cases taken

/-- **No message is acknowledged.** A client sends nothing when it has received a message. What
is left in `_out` is a message and not its reply, and it is a refusal whenever the message
names its sender. -/
theorem messages_unacknowledged {id : UInt64} {es : List Event} {c c' : Client} {packet : Packet}
    {request : Server.MsgRequest} {sent : List Packet} (run : Runs.exec (step B) (Client.init id) es = some c)
    (type : packet.cmd = Commands.msg) (decoded : packerFrom J Server.MsgRequest packet.body = some request)
    (taken : act B c (.receive packet) = some (c', sent)) :
    ¬ Acknowledged J es request sent ∧
      ∃ out responce, leaves B c packet = ⟨Commands.msg, out⟩ ∧
        packerFrom J Client.MsgResponse out = some responce ∧ responce.command = Commands.msg ∧
        (request.senderLogin ≠ [] → responce.status = str "failed") := by
  refine ⟨?_, ?_⟩
  · rintro ⟨buff, responce, one, _⟩
    rw [sent_receive B taken] at one
    cases one
  · obtain ⟨out, packed, left⟩ := leaves_message B type decoded
    refine ⟨out, responseTo c request, left, packerFrom_packerTo J packed, ?_, ?_⟩
    · unfold responseTo
      split <;> rfl
    · intro named
      unfold responseTo
      rw [if_pos (Or.inl (clientLogin_run B run ▸ named))]

end

/-- A client connects under the id 7, logs in and is told of the session "s". -/
def loggingIn : List Event :=
  [.connect (str "localhost:10500") .up 0 7 true,
    .receive ⟨Commands.helloReply, str "\x7b\"id\":7\x7d"⟩,
    .login (str "login:pass") true,
    .receive ⟨Commands.authReply, str "\x7b\"id\":7,\"status\":\"ok\",\"session\":\"s\"\x7d"⟩]

/-- A message of that client. -/
def ownMessage : Packet :=
  ⟨Commands.msg, str "\x7b\"body\":\"hi\",\"sender_login\":\"login\",\"session\":\"s\"\x7d"⟩

theorem loggingIn_run : ∃ c c' sent, Runs.exec (step App.compact) (Client.init 7) loggingIn = some c ∧
    act App.compact c (.receive ownMessage) = some (c', sent) := by
  obtain ⟨c, run, up⟩ := Option.map_eq_some_iff.1
    (show (Runs.exec (step App.compact) (Client.init 7) loggingIn).map (·.status) = some .connected
      by decide +kernel)
  exact ⟨c, _, _, run, if_pos up⟩

theorem ownMessage_decoded : packerFrom Text.compact Server.MsgRequest ownMessage.body =
    some { body := str "hi", senderLogin := str "login", session := str "s" } := by
  decide +kernel

theorem loggingIn_loggedIn : LoggedInAs Text.compact loggingIn (str "login") (str "s") := by
  refine ⟨loggingIn.take 2, [], [], str "login:pass",
    ⟨Commands.authReply, str "\x7b\"id\":7,\"status\":\"ok\",\"session\":\"s\"\x7d"⟩,
    { id := 7, status := str "ok", session := str "s" }, rfl, by decide +kernel, by decide +kernel, rfl, rfl⟩

/-- The client is sent its own message, with its own session. -/
theorem messages_unacknowledged_own : ∃ c c' sent request,
    Runs.exec (step App.compact) (Client.init 7) loggingIn = some c ∧
      act App.compact c (.receive ownMessage) = some (c', sent) ∧
      LoggedInAs Text.compact loggingIn request.senderLogin request.session ∧
      ¬ Acknowledged Text.compact loggingIn request sent := by
  obtain ⟨c, c', sent, run, taken⟩ := loggingIn_run
  exact ⟨c, c', sent, _, run, taken, loggingIn_loggedIn,
    (messages_unacknowledged App.compact run rfl ownMessage_decoded taken).1⟩

/-- A message that stays unanswered. -/
theorem message_unanswered :
    ¬ ∀ (J : Nlohmann) (B : App J) (id : UInt64) (es : List Event) (c c' : Client) (packet : Packet)
      (request : Server.MsgRequest) (sent : List Packet), Runs.exec (step B) (Client.init id) es = some c →
      packet.cmd = Commands.msg → packerFrom J Server.MsgRequest packet.body = some request →
      act B c (.receive packet) = some (c', sent) → Acknowledged J es request sent := by
  intro acknowledged
  obtain ⟨c, c', sent, run, taken⟩ := loggingIn_run
  obtain ⟨_, _, one, _⟩ :=
    acknowledged Text.compact App.compact 7 loggingIn c c' ownMessage _ sent run rfl ownMessage_decoded taken
  rw [sent_receive App.compact taken] at one
  cases one

end Gologin.Gui
