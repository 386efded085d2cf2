import Gologin.Auth.Provider
import Gologin.Tcp.Dispatcher
import Gologin.Messages.Text
import Gologin.Tcp.Recv

/-!
# The handlers of the server

The packet handlers of `server/app.cpp`, each a program that calls the provider and
`server::send_to`, and `server::packet_handler`, which dispatches a packet to them.
-/

namespace Gologin.Server
set_option autoImplicit false
open Calls Messages Auth Tcp Bytes

/-- The calls a handler makes; each is atomic, by the lock it takes. -/
inductive Call where
  | statusClient (clientId : UInt64) (clientSession : Str)
  | getClients (status : ClientStatus)
  | addClient (clientId : UInt64) (cookies : ClientCookies) (clientLogin clientPass session : Str)
  | remClient (clientId : UInt64) (clientSession : Str)
  | sendTo (cookies : ClientCookies) (cmd : Str) (buff : Buffer)
  deriving DecidableEq, Repr

/-- What a call returns; `add_client` also leaves the caller's session variable. -/
def Call.Answer : Call → Type
  | .statusClient _ _ => ClientStatus
  | .getClients _ => List AuthClient
  | .addClient _ _ _ _ _ => ClientStatus × Str
  | .remClient _ _ => ClientStatus
  | .sendTo _ _ _ => Bool

/-- A handler, or a part of one. -/
abbrev Handling (α : Type) : Type := Program Call Call.Answer α

def statusClient (clientId : UInt64) (clientSession : Str) : Handling ClientStatus :=
  Program.ask (Call.statusClient clientId clientSession)

def getClients (status : ClientStatus) : Handling (List AuthClient) := Program.ask (Call.getClients status)

def addClient (clientId : UInt64) (cookies : ClientCookies) (clientLogin clientPass session : Str) :
    Handling (ClientStatus × Str) :=
  Program.ask (Call.addClient clientId cookies clientLogin clientPass session)

def remClient (clientId : UInt64) (clientSession : Str) : Handling ClientStatus :=
  Program.ask (Call.remClient clientId clientSession)

def sendTo (cookies : ClientCookies) (cmd : Str) (buff : Buffer) : Handling Bool :=
  Program.ask (Call.sendTo cookies cmd buff)

/-! ## `app` -/

/-- `app::client_hello_packet_handler`. -/
def clientHelloPacketHandler (_cookies : ClientCookies) (request : Client.HelloRequest) :
    Handling (Option Server.HelloResponse) :=
  pure (some { id := request.id, command := Commands.hello, authMethod := str "plain-text" })

/-- `app::client_ping_packet_handler`. -/
def clientPingPacketHandler (_cookies : ClientCookies) (request : Client.PingRequest) :
    Handling (Option Server.AuthResponse) := do
  let auth ← statusClient request.id request.session
  if auth = .accepted then
    pure (some { id := request.id, command := Commands.pingReply, status := str "ok", message := [] })
  else
    pure (some
      { id := request.id, command := Commands.pingReply, status := str "failed",
        message := str "client not registred" })

/-- `app::client_login_packet_handler`. -/
def clientLoginPacketHandler (cookies : ClientCookies) (request : Client.AuthRequest) :
    Handling (Option Server.AuthResponse) := do
  let (auth, session) ← addClient request.id cookies request.login request.password []
  if auth = .accepted then
    pure (some
      { id := request.id, command := Commands.auth, status := str "ok", session := session, message := [] })
  else
    pure (some
      { id := request.id, command := Commands.auth, status := str "failed",
        message := str "wrong auth login or pass", session := session })

/-- `app::client_logout_packet_handler`. -/
def clientLogoutPacketHandler (_cookies : ClientCookies) (request : Client.ByeRequest) :
    Handling (Option Server.ByeResponse) := do
  let auth ← remClient request.id request.session
  if auth = .removed then
    pure (some { id := request.id, command := Commands.byeReply, status := str "ok" })
  else
    pure (some { id := request.id, command := Commands.byeReply, status := str "failed" })

/-- The packet that a broadcast sends to one client. -/
def clientRequest (cid : AuthClient) (body : Str) : Server.MsgRequest :=
  { id := cid.id, senderLogin := cid.login, session := cid.session, body := body, command := Commands.msg }

/-- The loop of `app::client_message_packet_handler` over the clients; `none` is an exception
of `packer::to`. -/
def broadcast (J : Nlohmann) (body : Str) : List AuthClient → Handling (Option Unit)
  | [] => pure (some ())
  | cid :: rest =>
    match packerTo J (clientRequest cid body) with
    | none => pure none
    | some buff => do
      let _ ← sendTo cid.cookie Commands.msg buff
      broadcast J body rest

/-- `std::string::operator=` with a number: one character, the number's low byte. -/
def assignChar (n : UInt64) : Str := [n.toUInt8]

/-- `app::client_message_packet_handler`. -/
def clientMessagePacketHandler (J : Nlohmann) (_cookies : ClientCookies) (request : Client.MsgRequest) :
    Handling (Option Server.MsgResponse) := do
  let auth ← statusClient request.id request.session
  if auth = .accepted then
    let authClients ← getClients .accepted
    match ← broadcast J request.body authClients with
    | none => pure none
    | some () =>
      pure (some
        { id := request.id, command := Commands.msgReply, status := str "ok",
          clientId := assignChar request.id, message := [] })
  else
    pure (some
      { id := request.id, command := Commands.msgReply, status := str "failed",
        clientId := assignChar request.id, message := str "client not registered" })

/-- `app::client_message_reply_packet_handler`, which only writes to the log. -/
def clientMessageReplyPacketHandler (_cookies : ClientCookies) (_responce : Client.MsgResponse) :
    Handling (Option Unit) :=
  pure (some ())

/-- What `app::main` registers. -/
def registrations (J : Nlohmann) : List (Str × Handler Call Call.Answer) :=
  [(Commands.hello, wrapper3 J clientHelloPacketHandler),
    (Commands.ping, wrapper3 J clientPingPacketHandler),
    (Commands.auth, wrapper3 J clientLoginPacketHandler),
    (Commands.bye, wrapper3 J clientLogoutPacketHandler),
    (Commands.msg, wrapper3 J (clientMessagePacketHandler J)),
    (Commands.msgReply, wrapper2 J clientMessageReplyPacketHandler)]

/-- `app` after `app::main` has registered its handlers: a hash of `std::hash` that two of
the commands share would have made `handle` throw. -/
structure App where
  json : Nlohmann
  hash : Str → Nat
  handlers : Handlers Call Call.Answer
  registered : handleAll hash (registrations json) ∅ = some handlers

/-- An `app` on a library that behaves as assumed. -/
def App.compact : App where
  json := Text.compact
  hash := leVal
  handlers := (handleAll leVal (registrations Text.compact) ∅).get
    (handleAll_of_distinct (fun _ _ => AList.notMem_empty _) (by decide +kernel))
  registered := (Option.some_get _).symm

/-- `server::packet_handler` up to the reply: `_cmd` and `_out`. -/
def App.packetHandler (A : App) (cid : Nat) (packet : Packet) : Handling Packet := do
  let dispatched ← dispatch A.hash A.handlers packet.cmd ⟨cid⟩ packet.body
  pure ⟨dispatched.cmd, dispatched.out⟩

/-! ## What a packet is dispatched to -/

/-- A request that is answered. -/
inductive Request where
  | hello (request : Client.HelloRequest)
  | ping (request : Client.PingRequest)
  | login (request : Client.AuthRequest)
  | logout (request : Client.ByeRequest)
  | message (request : Client.MsgRequest)
  deriving DecidableEq, Repr

namespace Request

/-- The command a request is sent under. -/
def cmd : Request → Str
  | hello _ => Commands.hello
  | ping _ => Commands.ping
  | login _ => Commands.auth
  | logout _ => Commands.bye
  | message _ => Commands.msg

/-- The command of its reply. -/
def replyCmd : Request → Str
  | hello _ => Commands.helloReply
  | ping _ => Commands.pingReply
  | login _ => Commands.authReply
  | logout _ => Commands.byeReply
  | message _ => Commands.msgReply

def id : Request → UInt64
  | hello r => r.id
  | ping r => r.id
  | login r => r.id
  | logout r => r.id
  | message r => r.id

end Request

/-- The request that a packet is taken for: the handler is found by the hash of the command,
and its request type decodes the body. -/
def App.request (A : App) (packet : Packet) : Option Request :=
  if A.hash packet.cmd = A.hash Commands.hello then
    (packerFrom A.json Client.HelloRequest packet.body).map .hello
  else if A.hash packet.cmd = A.hash Commands.ping then
    (packerFrom A.json Client.PingRequest packet.body).map .ping
  else if A.hash packet.cmd = A.hash Commands.auth then
    (packerFrom A.json Client.AuthRequest packet.body).map .login
  else if A.hash packet.cmd = A.hash Commands.bye then
    (packerFrom A.json Client.ByeRequest packet.body).map .logout
  else if A.hash packet.cmd = A.hash Commands.msg then
    (packerFrom A.json Client.MsgRequest packet.body).map .message
  else none

/-- The program that answers a request which arrived under the command `cmd`. -/
def App.handling (A : App) (cmd : Str) (cookies : ClientCookies) : Request → Handling Dispatched
  | .hello r => (clientHelloPacketHandler cookies r).bind fun resp => .done (conclude A.json cmd resp)
  | .ping r => (clientPingPacketHandler cookies r).bind fun resp => .done (conclude A.json cmd resp)
  | .login r => (clientLoginPacketHandler cookies r).bind fun resp => .done (conclude A.json cmd resp)
  | .logout r => (clientLogoutPacketHandler cookies r).bind fun resp => .done (conclude A.json cmd resp)
  | .message r =>
    (clientMessagePacketHandler A.json cookies r).bind fun resp => .done (conclude A.json cmd resp)

section
variable (A : App) (cid : Nat)

theorem App.dispatch_of_mem {cmd cmd' : Str} {wrapper : Handler Call Call.Answer}
    (member : (cmd', wrapper) ∈ registrations A.json) (same : A.hash cmd = A.hash cmd')
    (cookies : ClientCookies) (input : Buffer) :
    dispatch A.hash A.handlers cmd cookies input = wrapper cmd cookies input := by
  apply dispatch_of_lookup
  rw [same]
  exact lookup_handleAll A.registered member

/-- The five handlers that reply are dispatched to alike: a packet is handled as its request, or
changes nothing. -/
theorem App.dispatch_as {cmd cmd' : Str} {Req Resp : Type} [Message Req] [Reply Resp]
    {f : ClientCookies → Req → Handling (Option Resp)} (ask : Req → Request)
    (member : (cmd', wrapper3 A.json f) ∈ registrations A.json) (same : A.hash cmd = A.hash cmd')
    (cookies : ClientCookies) (body : Buffer)
    (handled : ∀ r, A.handling cmd cookies (ask r) = (f cookies r).bind fun resp => .done (conclude A.json cmd resp)) :
    (∃ request, (packerFrom A.json Req body).map ask = some request ∧
      dispatch A.hash A.handlers cmd cookies body = A.handling cmd cookies request) ∨
    ((packerFrom A.json Req body).map ask = none ∧ ∃ ok,
      dispatch A.hash A.handlers cmd cookies body = .done ⟨ok, cmd, []⟩) := by
  rw [A.dispatch_of_mem member same]
  cases decoded : packerFrom A.json Req body with
  | some r => exact Or.inl ⟨ask r, rfl, (wrapper3_of_decoded decoded cmd cookies).trans (handled r).symm⟩
  | none => exact Or.inr ⟨rfl, false, wrapper3_of_undecoded decoded cmd cookies⟩

/-- **What a packet does.** It is handled as the request it is taken for, and a packet that
is none changes nothing and leaves no output. -/
theorem App.dispatch_request (packet : Packet) (cookies : ClientCookies) :
    (∃ request, A.request packet = some request ∧
      dispatch A.hash A.handlers packet.cmd cookies packet.body = A.handling packet.cmd cookies request) ∨
    (A.request packet = none ∧ ∃ ok,
      dispatch A.hash A.handlers packet.cmd cookies packet.body = .done ⟨ok, packet.cmd, []⟩) := by
  obtain ⟨cmd, body⟩ := packet
  unfold App.request
  simp only
  by_cases hello : A.hash cmd = A.hash Commands.hello
  · rw [if_pos hello]
    exact A.dispatch_as .hello (.head _) hello cookies body fun _ => rfl
  rw [if_neg hello]
  by_cases ping : A.hash cmd = A.hash Commands.ping
  · rw [if_pos ping]
    exact A.dispatch_as .ping (.tail _ (.head _)) ping cookies body fun _ => rfl
  rw [if_neg ping]
  by_cases login : A.hash cmd = A.hash Commands.auth
  · rw [if_pos login]
    exact A.dispatch_as .login (.tail _ (.tail _ (.head _))) login cookies body fun _ => rfl
  rw [if_neg login]
  by_cases logout : A.hash cmd = A.hash Commands.bye
  · rw [if_pos logout]
    exact A.dispatch_as .logout (.tail _ (.tail _ (.tail _ (.head _)))) logout cookies body fun _ => rfl
  rw [if_neg logout]
  by_cases message : A.hash cmd = A.hash Commands.msg
  · rw [if_pos message]
    exact A.dispatch_as .message (.tail _ (.tail _ (.tail _ (.tail _ (.head _))))) message cookies body fun _ => rfl
  rw [if_neg message]
  refine Or.inr ⟨rfl, ?_⟩
  by_cases reply : A.hash cmd = A.hash Commands.msgReply
  · rw [A.dispatch_of_mem (.tail _ (.tail _ (.tail _ (.tail _ (.tail _ (.head _)))))) reply, wrapper2]
    cases packerFrom A.json Client.MsgResponse body with
    | some r => exact ⟨true, rfl⟩
    | none => exact ⟨false, rfl⟩
  · refine ⟨false, dispatch_of_none ?_ cookies body⟩
    rw [lookup_handleAll_ne A.registered, AList.lookup_empty]
    simp only [registrations, List.forall_mem_cons]
    exact ⟨hello, ping, login, logout, message, reply, List.forall_mem_nil _⟩

/-- The commands are told apart. -/
theorem App.distinct : ([Commands.hello, Commands.ping, Commands.auth, Commands.bye, Commands.msg].map A.hash).Nodup :=
  ((distinct_of_handleAll A.registered).2.sublist (List.sublist_append_left _ [A.hash Commands.msgReply]))

/-- What a packet is, by the request that it is taken for: the command and the body. -/
def App.Carries (A : App) (packet : Packet) : Request → Prop
  | .hello r =>
    A.hash packet.cmd = A.hash Commands.hello ∧ packerFrom A.json Client.HelloRequest packet.body = some r
  | .ping r => A.hash packet.cmd = A.hash Commands.ping ∧ packerFrom A.json Client.PingRequest packet.body = some r
  | .login r => A.hash packet.cmd = A.hash Commands.auth ∧ packerFrom A.json Client.AuthRequest packet.body = some r
  | .logout r => A.hash packet.cmd = A.hash Commands.bye ∧ packerFrom A.json Client.ByeRequest packet.body = some r
  | .message r => A.hash packet.cmd = A.hash Commands.msg ∧ packerFrom A.json Client.MsgRequest packet.body = some r

theorem App.request_some {packet : Packet} {request : Request} (taken : A.request packet = some request) :
    A.Carries packet request := by
  unfold App.request at taken
  split at taken
  · rename_i same
    obtain ⟨r, decoded, rfl⟩ := Option.map_eq_some_iff.1 taken
    exact ⟨same, decoded⟩
  split at taken
  · rename_i same
    obtain ⟨r, decoded, rfl⟩ := Option.map_eq_some_iff.1 taken
    exact ⟨same, decoded⟩
  split at taken
  · rename_i same
    obtain ⟨r, decoded, rfl⟩ := Option.map_eq_some_iff.1 taken
    exact ⟨same, decoded⟩
  split at taken
  · rename_i same
    obtain ⟨r, decoded, rfl⟩ := Option.map_eq_some_iff.1 taken
    exact ⟨same, decoded⟩
  split at taken
  · rename_i same
    obtain ⟨r, decoded, rfl⟩ := Option.map_eq_some_iff.1 taken
    exact ⟨same, decoded⟩
  · cases taken

/-- A packet under the command of a request is taken for it. -/
theorem App.request_cmd (body : Buffer) :
    A.request ⟨Commands.hello, body⟩ = (packerFrom A.json Client.HelloRequest body).map .hello ∧
    A.request ⟨Commands.auth, body⟩ = (packerFrom A.json Client.AuthRequest body).map .login ∧
    A.request ⟨Commands.bye, body⟩ = (packerFrom A.json Client.ByeRequest body).map .logout ∧
    A.request ⟨Commands.msg, body⟩ = (packerFrom A.json Client.MsgRequest body).map .message := by
  have distinct := A.distinct
  simp only [List.map_cons, List.map_nil, List.nodup_cons, List.mem_cons, List.not_mem_nil, not_or, or_false,
    List.nodup_nil, not_false_iff, and_true] at distinct
  obtain ⟨⟨hp, ha, hb, hm⟩, ⟨pa, pb, pm⟩, ⟨ab, am⟩, bm⟩ := distinct
  unfold App.request
  dsimp only
  refine ⟨if_pos rfl, ?_, ?_, ?_⟩
  · rw [if_neg (Ne.symm ha), if_neg (Ne.symm pa), if_pos rfl]
  · rw [if_neg (Ne.symm hb), if_neg (Ne.symm pb), if_neg (Ne.symm ab), if_pos rfl]
  · rw [if_neg (Ne.symm hm), if_neg (Ne.symm pm), if_neg (Ne.symm am), if_neg (Ne.symm bm), if_pos rfl]

end

end Gologin.Server
