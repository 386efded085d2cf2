import Gologin.Messages.Packer

/-!
# The messages

`messages/messages.hpp`: the commands and the message types of both programs, each a
structure with the members of its schema. A member that is not set has its default.
-/

namespace Gologin.Messages
set_option autoImplicit false

namespace Commands

def hello : Str := str "hello"
def helloReply : Str := str "hello"
def auth : Str := str "login"
def authReply : Str := str "login"
def msg : Str := str "message"
def msgReply : Str := str "message_reply"
def ping : Str := str "ping"
def pingReply : Str := str "ping_reply"
def bye : Str := str "logout"
def byeReply : Str := str "logout"

end Commands

namespace Client

/-- `messages::client::hello::request`. -/
structure HelloRequest where
  id : UInt64 := 0
  command : Str := []
  deriving DecidableEq, Repr

/-- `messages::client::bye::request`. -/
structure ByeRequest where
  id : UInt64 := 0
  command : Str := []
  session : Str := []
  deriving DecidableEq, Repr

/-- `messages::client::ping::request`. -/
structure PingRequest where
  id : UInt64 := 0
  command : Str := []
  session : Str := []
  deriving DecidableEq, Repr

/-- `messages::client::auth::request`. -/
structure AuthRequest where
  id : UInt64 := 0
  command : Str := []
  login : Str := []
  password : Str := []
  deriving DecidableEq, Repr

/-- `messages::client::msg::request`. -/
structure MsgRequest where
  id : UInt64 := 0
  command : Str := []
  body : Str := []
  session : Str := []
  deriving DecidableEq, Repr

/-- `messages::client::msg::response`. -/
structure MsgResponse where
  id : UInt64 := 0
  command : Str := []
  status : Str := []
  clientId : Str := []
  message : Str := []
  deriving DecidableEq, Repr

end Client

namespace Server

/-- `messages::server::hello::response`. -/
structure HelloResponse where
  id : UInt64 := 0
  command : Str := []
  authMethod : Str := []
  deriving DecidableEq, Repr

/-- `messages::server::bye::response`. -/
structure ByeResponse where
  id : UInt64 := 0
  command : Str := []
  status : Str := []
  deriving DecidableEq, Repr

/-- `messages::server::ping::response`. -/
structure PingResponse where
  id : UInt64 := 0
  command : Str := []
  status : Str := []
  message : Str := []
  deriving DecidableEq, Repr

/-- `messages::server::auth::response`. -/
structure AuthResponse where
  id : UInt64 := 0
  command : Str := []
  status : Str := []
  session : Str := []
  message : Str := []
  deriving DecidableEq, Repr

/-- `messages::server::msg::request`. -/
structure MsgRequest where
  id : UInt64 := 0
  command : Str := []
  body : Str := []
  senderLogin : Str := []
  session : Str := []
  deriving DecidableEq, Repr

/-- `messages::server::msg::response`. -/
structure MsgResponse where
  id : UInt64 := 0
  command : Str := []
  status : Str := []
  clientId : Str := []
  message : Str := []
  deriving DecidableEq, Repr

end Server

instance : Message Client.HelloRequest where
  schema := [⟨str "id", .uint64⟩,
    ⟨str "command", .string⟩]
  good := ⟨by decide, by decide +kernel⟩
  toTuple m := (m.id, m.command, ())
  ofTuple | (id, command, ()) => ⟨id, command⟩
  ofTuple_toTuple _ := rfl
  toTuple_ofTuple _ := rfl

instance : Message Client.ByeRequest where
  schema := [⟨str "id", .uint64⟩,
    ⟨str "command", .string⟩,
    ⟨str "session", .string⟩]
  good := ⟨by decide, by decide +kernel⟩
  toTuple m := (m.id, m.command, m.session, ())
  ofTuple | (id, command, session, ()) => ⟨id, command, session⟩
  ofTuple_toTuple _ := rfl
  toTuple_ofTuple _ := rfl

instance : Message Client.PingRequest where
  schema := [⟨str "id", .uint64⟩,
    ⟨str "command", .string⟩,
    ⟨str "session", .string⟩]
  good := ⟨by decide, by decide +kernel⟩
  toTuple m := (m.id, m.command, m.session, ())
  ofTuple | (id, command, session, ()) => ⟨id, command, session⟩
  ofTuple_toTuple _ := rfl
  toTuple_ofTuple _ := rfl

instance : Message Client.AuthRequest where
  schema := [⟨str "id", .uint64⟩,
    ⟨str "command", .string⟩,
    ⟨str "login", .string⟩,
    ⟨str "password", .string⟩]
  good := ⟨by decide, by decide +kernel⟩
  toTuple m := (m.id, m.command, m.login, m.password, ())
  ofTuple | (id, command, login, password, ()) => ⟨id, command, login, password⟩
  ofTuple_toTuple _ := rfl
  toTuple_ofTuple _ := rfl

instance : Message Client.MsgRequest where
  schema := [⟨str "id", .uint64⟩,
    ⟨str "command", .string⟩,
    ⟨str "body", .string⟩,
    ⟨str "session", .string⟩]
  good := ⟨by decide, by decide +kernel⟩
  toTuple m := (m.id, m.command, m.body, m.session, ())
  ofTuple | (id, command, body, session, ()) => ⟨id, command, body, session⟩
  ofTuple_toTuple _ := rfl
  toTuple_ofTuple _ := rfl

instance : Message Client.MsgResponse where
  schema := [⟨str "id", .uint64⟩,
    ⟨str "command", .string⟩,
    ⟨str "status", .string⟩,
    ⟨str "client_id", .string⟩,
    ⟨str "message", .string⟩]
  good := ⟨by decide, by decide +kernel⟩
  toTuple m := (m.id, m.command, m.status, m.clientId, m.message, ())
  ofTuple | (id, command, status, clientId, message, ()) => ⟨id, command, status, clientId, message⟩
  ofTuple_toTuple _ := rfl
  toTuple_ofTuple _ := rfl

instance : Message Server.HelloResponse where
  schema := [⟨str "id", .uint64⟩,
    ⟨str "command", .string⟩,
    ⟨str "auth_method", .string⟩]
  good := ⟨by decide, by decide +kernel⟩
  toTuple m := (m.id, m.command, m.authMethod, ())
  ofTuple | (id, command, authMethod, ()) => ⟨id, command, authMethod⟩
  ofTuple_toTuple _ := rfl
  toTuple_ofTuple _ := rfl

instance : Message Server.ByeResponse where
  schema := [⟨str "id", .uint64⟩,
    ⟨str "command", .string⟩,
    ⟨str "status", .string⟩]
  good := ⟨by decide, by decide +kernel⟩
  toTuple m := (m.id, m.command, m.status, ())
  ofTuple | (id, command, status, ()) => ⟨id, command, status⟩
  ofTuple_toTuple _ := rfl
  toTuple_ofTuple _ := rfl

instance : Message Server.PingResponse where
  schema := [⟨str "id", .uint64⟩,
    ⟨str "command", .string⟩,
    ⟨str "status", .string⟩,
    ⟨str "message", .string⟩]
  good := ⟨by decide, by decide +kernel⟩
  toTuple m := (m.id, m.command, m.status, m.message, ())
  ofTuple | (id, command, status, message, ()) => ⟨id, command, status, message⟩
  ofTuple_toTuple _ := rfl
  toTuple_ofTuple _ := rfl

instance : Message Server.AuthResponse where
  schema := [⟨str "id", .uint64⟩,
    ⟨str "command", .string⟩,
    ⟨str "status", .string⟩,
    ⟨str "session", .string⟩,
    ⟨str "message", .string⟩]
  good := ⟨by decide, by decide +kernel⟩
  toTuple m := (m.id, m.command, m.status, m.session, m.message, ())
  ofTuple | (id, command, status, session, message, ()) => ⟨id, command, status, session, message⟩
  ofTuple_toTuple _ := rfl
  toTuple_ofTuple _ := rfl

instance : Message Server.MsgRequest where
  schema := [⟨str "id", .uint64⟩,
    ⟨str "command", .string⟩,
    ⟨str "body", .string⟩,
    ⟨str "sender_login", .string⟩,
    ⟨str "session", .string⟩]
  good := ⟨by decide, by decide +kernel⟩
  toTuple m := (m.id, m.command, m.body, m.senderLogin, m.session, ())
  ofTuple | (id, command, body, senderLogin, session, ()) => ⟨id, command, body, senderLogin, session⟩
  ofTuple_toTuple _ := rfl
  toTuple_ofTuple _ := rfl

instance : Message Server.MsgResponse where
  schema := [⟨str "id", .uint64⟩,
    ⟨str "command", .string⟩,
    ⟨str "status", .string⟩,
    ⟨str "client_id", .string⟩,
    ⟨str "message", .string⟩]
  good := ⟨by decide, by decide +kernel⟩
  toTuple m := (m.id, m.command, m.status, m.clientId, m.message, ())
  ofTuple | (id, command, status, clientId, message, ()) => ⟨id, command, status, clientId, message⟩
  ofTuple_toTuple _ := rfl
  toTuple_ofTuple _ := rfl

/-- A message type that answers a request: the dispatcher reads its `command`. -/
class Reply (M : Type) extends Message M where
  id : M → UInt64
  command : M → Str
  get_id : ∀ m, getMember m (str "id") = some (.unsigned (id m))
  get_command : ∀ m, getMember m (str "command") = some (.string (command m))

instance : Reply Client.MsgResponse := ⟨(·.id), (·.command), fun _ => rfl, fun _ => rfl⟩

instance : Reply Server.HelloResponse := ⟨(·.id), (·.command), fun _ => rfl, fun _ => rfl⟩

instance : Reply Server.ByeResponse := ⟨(·.id), (·.command), fun _ => rfl, fun _ => rfl⟩

instance : Reply Server.AuthResponse := ⟨(·.id), (·.command), fun _ => rfl, fun _ => rfl⟩

instance : Reply Server.MsgResponse := ⟨(·.id), (·.command), fun _ => rfl, fun _ => rfl⟩

end Gologin.Messages
