import Gologin.Client.App

/-!
# What the client makes of a packet

The packets that a server writes, by their command and body, and what each does to a client
that receives it.
-/

namespace Gologin.Gui
set_option autoImplicit false
open Calls Messages Tcp Tables

/-- A packet of the server. -/
inductive Answer where
  | message (request : Server.MsgRequest)
  | messageReply (responce : Server.MsgResponse)
  | hello (responce : Server.HelloResponse)
  | auth (responce : Server.AuthResponse)
  | bye (responce : Server.ByeResponse)
  deriving DecidableEq, Repr

/-- What a packet is decoded as. -/
def answer (J : Nlohmann) (packet : Packet) : Option Answer :=
  if packet.cmd = Commands.msg then (packerFrom J Server.MsgRequest packet.body).map .message
  else if packet.cmd = Commands.msgReply then (packerFrom J Server.MsgResponse packet.body).map .messageReply
  else if packet.cmd = Commands.helloReply then (packerFrom J Server.HelloResponse packet.body).map .hello
  else if packet.cmd = Commands.authReply then (packerFrom J Server.AuthResponse packet.body).map .auth
  else if packet.cmd = Commands.byeReply then (packerFrom J Server.ByeResponse packet.body).map .bye
  else none

/-- What it does to the client. -/
def Answer.tell : Answer → Client → Client
  | message request, c => c.output .onRecv .success request.senderLogin request.body
  | messageReply responce, c =>
    if responce.status = str "ok" then c.output .onSend .success (str "Message was sended.") []
    else c.output .onSend .failed responce.message []
  | hello _, c => c.output .onConnect .success (str "Connection has been established.") []
  | auth responce, c =>
    let c := { c with cookie.clientSession := responce.session }
    if responce.status = str "ok" then c.output .onLogin .success (str "Login success.") []
    else c.output .onLogin .failed responce.message []
  | bye responce, c =>
    if responce.status = str "ok" then c.output .onLogout .pending (str "Logout success.") []
    else c.output .onLogout .failed (str "Logout failed.") []

section
variable {J : Nlohmann} (B : App J)

theorem App.dispatch_of_mem {cmd : Str} {wrapper : Handler Call Call.Answer}
    (member : (cmd, wrapper) ∈ registrations J) (cookies : ClientCookies) (input : Buffer) :
    dispatch B.hash B.handlers cmd cookies input = wrapper cmd cookies input :=
  dispatch_of_lookup (lookup_handleAll B.registered member) cookies input

/-- A reply, for which the client has no response. -/
theorem App.dispatch_reply {cmd : Str} {Req : Type} [Message Req] {f : ClientCookies → Req → Handling (Option Unit)}
    (member : (cmd, wrapper2 J f) ∈ registrations J) {input : Buffer} {req : Req}
    (decoded : packerFrom J Req input = some req) (cookies : ClientCookies) (c : Client) :
    ((dispatch B.hash B.handlers cmd cookies input).run Client.perform c).2 =
      ((f cookies req).run Client.perform c).2 := by
  rw [B.dispatch_of_mem member]
  simp only [wrapper2, decoded, Program.bind_eq, Program.run_bind]
  split <;> rfl

/-- **What the client makes of a packet.** -/
theorem receive_of_answer {packet : Packet} {a : Answer} (decoded : answer J packet = some a) (c : Client) :
    c.receive B packet = a.tell c := by
  obtain ⟨cmd, body⟩ := packet
  simp only [answer] at decoded
  split at decoded
  · rename_i same
    obtain ⟨request, text, rfl⟩ := Option.map_eq_some_iff.1 decoded
    subst same
    change ((dispatch B.hash B.handlers Commands.msg _ body).run Client.perform c).2 = _
    rw [B.dispatch_of_mem (.head _), wrapper3_of_decoded text, Program.run_bind]
    rfl
  split at decoded
  · rename_i same
    obtain ⟨responce, text, rfl⟩ := Option.map_eq_some_iff.1 decoded
    subst same
    refine (B.dispatch_reply (.tail _ (.head _)) text _ c).trans ?_
    by_cases ok : responce.status = str "ok"
    · simp only [serverMessageReplyPacketHandler, Answer.tell, if_pos ok]
      rfl
    · simp only [serverMessageReplyPacketHandler, Answer.tell, if_neg ok]
      rfl
  split at decoded
  · rename_i same
    obtain ⟨responce, text, rfl⟩ := Option.map_eq_some_iff.1 decoded
    subst same
    exact B.dispatch_reply (.tail _ (.tail _ (.head _))) text _ c
  split at decoded
  · rename_i same
    obtain ⟨responce, text, rfl⟩ := Option.map_eq_some_iff.1 decoded
    subst same
    refine (B.dispatch_reply (.tail _ (.tail _ (.tail _ (.head _)))) text _ c).trans ?_
    by_cases ok : responce.status = str "ok"
    · simp only [serverAuthReplyPacketHandler, Answer.tell, if_pos ok]
      rfl
    · simp only [serverAuthReplyPacketHandler, Answer.tell, if_neg ok]
      rfl
  split at decoded
  · rename_i same
    obtain ⟨responce, text, rfl⟩ := Option.map_eq_some_iff.1 decoded
    subst same
    refine (B.dispatch_reply (.tail _ (.tail _ (.tail _ (.tail _ (.head _))))) text _ c).trans ?_
    by_cases ok : responce.status = str "ok"
    · simp only [serverByeReplyPacketHandler, Answer.tell, if_pos ok]
      rfl
    · simp only [serverByeReplyPacketHandler, Answer.tell, if_neg ok]
      rfl
  · cases decoded

/-- What no call of a handler changes, no packet changes. -/
theorem receive_keeps {α : Type} (f : Client → α) (keep : ∀ call d, f (Client.perform call d).2 = f d)
    (packet : Packet) (c : Client) : f (c.receive B packet) = f c :=
  Program.run_keeps (fun call d same => (keep call d).trans same) _ rfl

/-- A packet leaves a client on its connection, under its id. -/
theorem receive_rest (packet : Packet) (c : Client) : (c.receive B packet).status = c.status ∧
    (c.receive B packet).link = c.link ∧ (c.receive B packet).cookie.clientId = c.cookie.clientId := by
  refine ⟨receive_keeps B _ ?_ packet c, receive_keeps B _ ?_ packet c,
    receive_keeps B (fun d => d.cookie.clientId) ?_ packet c⟩
  · intro call d
    cases call <;> rfl
  · intro call d
    cases call <;> rfl
  · intro call d
    cases call <;> rfl

end

end Gologin.Gui
