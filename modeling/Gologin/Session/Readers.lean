import Gologin.Client.Callbacks
import Gologin.Session.Chat
import Gologin.Session.Letters

/-!
# What everyone reads

Texts go from the users who type them to the windows of all others: in a request to the server,
from a handler to the link of each client that is logged in, and from the link to the window. None
is lost on the way, none comes twice, and those of one user come in their order.
-/

namespace Gologin.Session
set_option autoImplicit false
open Calls Messages Tcp Auth Tables Gui

/-! ## What a window shows -/

/-- What a window shows of a message. -/
def lineOf (m : Messages.Server.MsgRequest) : Str := m.senderLogin ++ str ": " ++ m.body ++ str "\n"

/-- What it shows of a packet. -/
def linesOf (J : Nlohmann) (packet : Packet) : Str :=
  match answer J packet with
  | some (.message m) => lineOf m
  | _ => []

section
variable {A : Server.App} {B : Gui.App A.json} {login pass : Str} {w w' : World}

end

/-! ## A client that stays -/

/-- Client `k` is connected on link `l` under the id of the entry, and alone on its socket. -/
structure Present (k l : Nat) (client : AuthClient) (w : World) : Prop where
  up : (w.clients k).status = .connected
  link : (w.clients k).link = some l
  named : (w.clients k).cookie.clientId = client.id
  sole : Sole client l w.server

instance (k l : Nat) (client : AuthClient) (w : World) : Decidable (Present k l client w) :=
  decidable_of_iff
    ((w.clients k).status = .connected ∧ (w.clients k).link = some l ∧ (w.clients k).cookie.clientId = client.id ∧
      Sole client l w.server)
    ⟨fun h => ⟨h.1, h.2.1, h.2.2.1, h.2.2.2⟩, fun h => ⟨h.up, h.link, h.named, h.sole⟩⟩

/-- What window `k` shows, and will show once what is on link `l` is read: what it has `shown`, and
the messages that were put on the link since. -/
def Shows (J : Nlohmann) (k l : Nat) (shown : Str) (start : List Server.Entry) (w : World) : Prop :=
  ∃ since, letters J l w.server.log = since ++ letters J l start ∧
    (w.clients k).frame.outputField ++ (w.unread l).flatMap (linesOf J) =
      shown ++ since.reverse.flatMap fun x => lineOf x.2

section
variable {A : Server.App} {B : Gui.App A.json} {login pass : Str} {w w' : World} {k l : Nat} {client : AuthClient}
  {shown : Str} {start : List Server.Entry}

end

/-! ## A client that speaks -/

section
variable (A : Server.App)

variable {A}

end

/-- The message that the handler of `n` has received, and whose sender it has still to ask for. -/
def Holds (A : Server.App) (n : Nat) (log : List Server.Entry) : Server.Phase → Option Messages.Client.MsgRequest → Prop
  | .handling program, awaiting =>
    ∃ packet, (Server.frames n log).head? = some packet ∧ Submits (Server.said A packet) awaiting program
  | _, awaiting => awaiting = none

section
variable {A : Server.App} {n : Nat} {log log' : List Server.Entry} {phase : Server.Phase}
  {awaiting : Option Messages.Client.MsgRequest}

theorem Holds.of_same (h : Holds A n log phase awaiting) (frames : Server.frames n log' = Server.frames n log) :
    Holds A n log' phase awaiting := by
  cases phase with
  | handling program =>
    obtain ⟨packet, last, submits⟩ := h
    exact ⟨packet, frames ▸ last, submits⟩
  | _ => exact h

end

section
variable {A : Server.App} {B : Gui.App A.json} {login pass : Str} {w w' : World} {j n : Nat} {speaker : AuthClient}
  {start : List Server.Entry} {texts : List Str}

end

/-! ## Everyone reads it -/

/-- No handler is at work. -/
def Idle (s : Server.State) : Prop := ∀ conn ∈ s.conns, ∀ program, conn.phase ≠ .handling program

instance (s : Server.State) : Decidable (Idle s) :=
  decidable_of_iff (∀ conn ∈ s.conns, (conn.phase matches .handling _) = false) <| by
    refine forall₂_congr fun conn _ => ?_
    cases conn.phase with
    | handling program => exact iff_of_false nofun fun out => out program rfl
    | _ => exact iff_of_true rfl nofun

theorem Idle.phase {s : Server.State} (idle : Idle s) (c : Nat) : ∀ program, phaseOf s c ≠ .handling program := by
  unfold phaseOf
  split
  · rename_i here
    exact idle _ (List.mem_of_getElem? here)
  · nofun

section
variable {A : Server.App} {B : Gui.App A.json} {login pass : Str} {w w' : World} {clientIds : Nat → UInt64}
  {before es : List Event}

end

/-- Client `k` connects under an id, is greeted and logs in. -/
def joins (k : Nat) (id : UInt64) (digits : String) : List Event :=
  [.client k (.connect (str "localhost:10500") .up k id true), .server (.accept (3 + k) true), .server (.emplace k),
    .server (.recv k Server.blank (Server.whole ⟨Commands.hello, str ("\x7b\"command\":\"hello\",\"id\":" ++ digits ++ "\x7d")⟩)),
    .server (.reply k),
    .client k (.receive ⟨Commands.helloReply,
      str ("\x7b\"auth_method\":\"plain-text\",\"command\":\"hello\",\"id\":" ++ digits ++ "\x7d")⟩),
    .client k (.login (str "login:pass") true),
    .server (.recv k Server.blank (Server.whole ⟨Commands.auth,
      str ("\x7b\"command\":\"login\",\"id\":" ++ digits ++ ",\"login\":\"login\",\"password\":\"pass\"\x7d")⟩)),
    .server (.call k Server.someChoice), .server (.reply k),
    .client k (.receive ⟨Commands.authReply, str ("\x7b\"command\":\"login\",\"id\":" ++ digits ++
      ",\"message\":\"\",\"session\":\"aaaaaaaaaaaaaaaaaaaaaaaaaaaaaaaa\",\"status\":\"ok\"\x7d")⟩)]

/-- The request of a message `text` under an id. -/
def sendPacket (digits text : String) : Packet :=
  ⟨Commands.msg, str ("\x7b\"body\":\"" ++ text ++ "\",\"command\":\"message\",\"id\":" ++ digits ++
    ",\"session\":\"aaaaaaaaaaaaaaaaaaaaaaaaaaaaaaaa\"\x7d")⟩

/-- The message `text` to the client with an id. -/
def tellPacket (digits text : String) : Packet :=
  ⟨Commands.msg, str ("\x7b\"body\":\"" ++ text ++ "\",\"command\":\"message\",\"id\":" ++ digits ++
    ",\"sender_login\":\"login\",\"session\":\"aaaaaaaaaaaaaaaaaaaaaaaaaaaaaaaa\"\x7d")⟩

/-- The second client says `hi` and `ho` to both, and the handler is done. -/
def chatting : List Event :=
  [.client 1 (.send (str "hi") true), .client 1 (.send (str "ho") true),
    .server (.recv 1 Server.blank (Server.whole (sendPacket "9" "hi"))), .server (.call 1 Server.someChoice),
    .server (.call 1 Server.someChoice), .server (.call 1 Server.someChoice), .server (.call 1 Server.someChoice),
    .server (.reply 1), .client 0 (.receive (tellPacket "7" "hi")),
    .server (.recv 1 Server.blank (Server.whole (sendPacket "9" "ho"))), .server (.call 1 Server.someChoice),
    .server (.call 1 Server.someChoice), .server (.call 1 Server.someChoice), .server (.call 1 Server.someChoice),
    .server (.reply 1), .client 0 (.receive (tellPacket "7" "ho"))]

end Gologin.Session
