import Gologin.Client.Frame
import Gologin.Tcp.Dispatcher
import Gologin.Tcp.Recv
import Gologin.Messages.Text

/-!
# The client

`gui::app` of `client/app.cpp` with its `tcp::client`. The packet handlers run in the thread
of the connection and are programs that read the cookie, store the session and go to the
window; the frame callbacks run in the thread of the window, and send.
-/

namespace Gologin.Gui
set_option autoImplicit false
open Calls Messages Tcp Tables Bytes

/-- `app_cookie`. -/
structure AppCookie where
  clientId : UInt64
  clientSession : Str := []
  clientLogin : Str := []
  deriving DecidableEq, Repr

/-- What a packet handler does to the client. -/
inductive Call where
  | cookie
  | setSession (session : Str)
  | output (act : UiAction) (st : UiStatus) (msg data : Str)
  deriving DecidableEq, Repr

def Call.Answer : Call → Type
  | .cookie => AppCookie
  | .setSession _ => Unit
  | .output _ _ _ _ => Unit

abbrev Handling (α : Type) : Type := Program Call Call.Answer α

def cookie : Handling AppCookie := Program.ask Call.cookie

def setSession (session : Str) : Handling Unit := Program.ask (Call.setSession session)

/-- `app::output_handler`. -/
def outputHandler (act : UiAction) (st : UiStatus) (msg data : Str) : Handling Unit :=
  Program.ask (Call.output act st msg data)

/-! ## The packet handlers -/

/-- `app::server_message_packet_handler`. -/
def serverMessagePacketHandler (_cookies : ClientCookies) (request : Server.MsgRequest) :
    Handling (Option Client.MsgResponse) := do
  let m ← cookie
  let (status, message) :=
    if request.senderLogin ≠ m.clientLogin ∨ request.session ≠ m.clientSession then
      (str "failed", str "wrong login or session")
    else (str "ok", str "all good")
  outputHandler .onRecv .success request.senderLogin request.body
  pure (some { id := m.clientId, command := Commands.msg, status := status, message := message })

/-- `app::server_message_reply_packet_handler`. -/
def serverMessageReplyPacketHandler (_cookies : ClientCookies) (responce : Server.MsgResponse) :
    Handling (Option Unit) := do
  if responce.status = str "ok" then outputHandler .onSend .success (str "Message was sended.") []
  else outputHandler .onSend .failed responce.message []
  pure (some ())

/-- `app::server_hello_reply_packet_handler`. -/
def serverHelloReplyPacketHandler (_cookies : ClientCookies) (_responce : Server.HelloResponse) :
    Handling (Option Unit) := do
  outputHandler .onConnect .success (str "Connection has been established.") []
  pure (some ())

/-- `app::server_auth_reply_packet_handler`. -/
def serverAuthReplyPacketHandler (_cookies : ClientCookies) (responce : Server.AuthResponse) :
    Handling (Option Unit) := do
  setSession responce.session
  if responce.status = str "ok" then outputHandler .onLogin .success (str "Login success.") []
  else outputHandler .onLogin .failed responce.message []
  pure (some ())

/-- `app::server_bye_reply_packet_handler`. -/
def serverByeReplyPacketHandler (_cookies : ClientCookies) (responce : Server.ByeResponse) :
    Handling (Option Unit) := do
  if responce.status = str "ok" then outputHandler .onLogout .pending (str "Logout success.") []
  else outputHandler .onLogout .failed (str "Logout failed.") []
  pure (some ())

/-- `app::server_ping_reply_packet_handler`. -/
def serverPingReplyPacketHandler (_cookies : ClientCookies) (responce : Server.PingResponse) :
    Handling (Option Unit) := do
  if responce.status = str "ok" then outputHandler .onLogin .success (str "Ping success.") []
  else outputHandler .onLogin .failed responce.message []
  pure (some ())

/-- What `app::main` registers. -/
def registrations (J : Nlohmann) : List (Str × Handler Call Call.Answer) :=
  [(Commands.msg, wrapper3 J serverMessagePacketHandler),
    (Commands.msgReply, wrapper2 J serverMessageReplyPacketHandler),
    (Commands.helloReply, wrapper2 J serverHelloReplyPacketHandler),
    (Commands.authReply, wrapper2 J serverAuthReplyPacketHandler),
    (Commands.byeReply, wrapper2 J serverByeReplyPacketHandler),
    (Commands.pingReply, wrapper2 J serverPingReplyPacketHandler)]

/-- An `app` after `app::main` has registered its handlers, on the JSON library `J`. -/
structure App (J : Nlohmann) where
  hash : Str → Nat
  handlers : Handlers Call Call.Answer
  registered : handleAll hash (registrations J) ∅ = some handlers

/-- An `app` on a library that behaves as assumed. -/
def App.compact : App Text.compact where
  hash := leVal
  handlers := (handleAll leVal (registrations Text.compact) ∅).get
    (handleAll_of_distinct (fun _ _ => AList.notMem_empty _) (by decide +kernel))
  registered := (Option.some_get _).symm

/-! ## The state -/

/-- `client_traits::status`, as far as `tcp::client` sets it. -/
inductive TcpStatus where
  | connected
  | disconnected
  | initError
  | connectError
  deriving DecidableEq, Repr

/-- A running client: `m_cookie`, `m_frame`, and of `m_tcp_client` its status and the
connection its socket is on, if any. -/
structure Client where
  cookie : AppCookie
  frame : Frame
  status : TcpStatus
  link : Option Nat
  deriving DecidableEq, Repr

namespace Client

/-- A client that has just started; `m_cookie._client_id` is not initialised. -/
def init (clientId : UInt64) : Client := ⟨⟨clientId, [], []⟩, .loadUi, .disconnected, none⟩

def output (c : Client) (act : UiAction) (st : UiStatus) (msg data : Str) : Client :=
  { c with frame := c.frame.output act st msg data }

def perform : (call : Call) → Client → call.Answer × Client
  | .cookie, c => (c.cookie, c)
  | .setSession session, c => ((), { c with cookie.clientSession := session })
  | .output act st msg data, c => ((), c.output act st msg data)

/-- An iteration of the thread of `client::connect` with a packet it has received; what
`dispatch` leaves in `_out` is not sent. -/
def receive {J : Nlohmann} (B : App J) (packet : Packet) (c : Client) : Client :=
  ((dispatch B.hash B.handlers packet.cmd ⟨c.link.getD 0⟩ packet.body).run perform c).2

/-! ## The callbacks of the frame -/

/-- `client_base::send`, where `sent` is whether its `::send` writes the packet. -/
def send (sent : Bool) (cmd : Str) (buff : Buffer) : Bool × List Packet :=
  if createPacket cmd buff = [] ∨ sent = false then (false, []) else (true, [⟨cmd, buff⟩])

/-- The part of a callback that packs a request, sends it and tells the window; an exception
of `packer::to` leaves everything as it was. -/
def request {M : Type} [Message M] (J : Nlohmann) (c : Client) (sent : Bool) (cmd : Str) (m : M)
    (act : UiAction) (st : UiStatus) (msg failure : Str) : Client × List Packet :=
  match packerTo J m with
  | none => (c, [])
  | some buff =>
    match send sent cmd buff with
    | (true, packets) => (c.output act st msg [], packets)
    | (false, packets) => (c.output act .failed failure [], packets)

/-- The two parts of `a:b`, both empty when there is no colon. -/
def splitColon (data : Str) : Str × Str :=
  if 58 ∈ data then (data.takeWhile (· ≠ 58), (data.dropWhile (· ≠ 58)).tail) else ([], [])

/-- `app::on_login_frame_callback`. -/
def onLoginFrameCallback (J : Nlohmann) (c : Client) (data : Str) (sent : Bool) : Client × List Packet :=
  let (login, pass) := splitColon data
  if login = [] ∨ pass = [] then (c.output .onLogin .failed (str "Invalid user or pass.") [], [])
  else
    c.request J sent Commands.auth
      ({ command := Commands.auth, id := c.cookie.clientId, login := login, password := pass } : Client.AuthRequest)
      .onLogin .success (str "Login...") (str "Login failed.")

/-- `app::on_logout_frame_callback`. -/
def onLogoutFrameCallback (J : Nlohmann) (c : Client) (sent : Bool) : Client × List Packet :=
  c.request J sent Commands.bye
    ({ command := Commands.bye, id := c.cookie.clientId, session := c.cookie.clientSession } : Client.ByeRequest)
    .onLogout .success (str "Logout...") (str "Logout failed.")

/-- `app::on_send_frame_callback`. -/
def onSendFrameCallback (J : Nlohmann) (c : Client) (data : Str) (sent : Bool) : Client × List Packet :=
  c.request J sent Commands.msg
    ({ command := Commands.msg, id := c.cookie.clientId, session := c.cookie.clientSession, body := data } :
      Client.MsgRequest)
    .onSend .pending (str "Mesaging...") (str "Mesaging failed.")

/-- What `client::connect` comes to: `socket` fails, `::connect` fails, `getaddrinfo` fails and
`::connect` is not called, or there is a connection. -/
inductive ConnectResult where
  | initError
  | connectError
  | unresolved
  | up
  deriving DecidableEq, Repr

/-- `client::connect`; a connection that is made is the `n`-th. -/
def connect (c : Client) (result : ConnectResult) (n : Nat) : Client :=
  if c.status = .connected then c
  else
    match result with
    | .initError => { c with status := .initError }
    | .connectError => { c with status := .connectError }
    | .unresolved => { c with status := .connected, link := none }
    | .up => { c with status := .connected, link := some n }

/-- `client::disconnect`, which waits for the thread of the connection to end. -/
def disconnect (c : Client) : Client :=
  if c.status = .connected then { c with status := .disconnected, link := none } else c

/-- `app::on_connect_frame_callback`, where `clientId` is the id that is generated. -/
def onConnectFrameCallback (J : Nlohmann) (c : Client) (result : ConnectResult) (n : Nat) (clientId : UInt64)
    (sent : Bool) : Client × List Packet :=
  let c := c.connect result n
  if c.status ≠ .connected then (c.output .onConnect .failed (str "Connect to server failed.") [], [])
  else
    { c with cookie.clientId := clientId }.request J sent Commands.hello
      ({ command := Commands.hello, id := clientId } : Client.HelloRequest)
      .onConnect .pending (str "Connect...") (str "Connect failed.")

/-- `app::on_disconnect_frame_callback`. -/
def onDisconnectFrameCallback (c : Client) : Client :=
  let c := c.disconnect
  if c.status = .disconnected then c.output .onDisconnect .success (str "Disconnected.") []
  else c.output .onDisconnect .failed (str "Disconnection from server failed.") []

end Client

end Gologin.Gui
