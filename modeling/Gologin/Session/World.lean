import Mathlib.Logic.Function.Basic
import Gologin.Server.Sockets
import Gologin.Client.Machine

/-!
# Clients and a server

Any number of clients and one server. A connection is a link: the requests that are on their
way to the server, and how many of the packets that the server has put on it the client has
read. Frames are delivered whole and in order, and the server accepts the links in the order
they were made, so the `l`-th connection it accepts is the other end of link `l`. A socket
that is closed as soon as it is accepted, because its keep-alive could not be set, takes no part:
what it was sent is lost. What the server has put on a link is what its log says. An iteration of
the client's loop that `recv` refuses changes nothing, and is no step.
-/

namespace Gologin.Session
set_option autoImplicit false
open Tcp

/-- The client's end of a connection. -/
structure Link where
  requests : List Packet := []
  received : Nat := 0

/-- The clients, their links and the server; `ids` are the ids that were drawn. -/
structure World where
  server : Server.State
  opened : Nat
  links : Nat → Link
  clients : Nat → Gui.Client
  ids : List UInt64

/-- What happens to a client, or a step of the server. -/
inductive Event where
  | client (k : Nat) (e : Gui.Event)
  | server (e : Server.Event)

/-- The packets that the server has put on link `l`, newest first. -/
def onWire (l : Nat) : List Server.Entry → List Packet
  | [] => []
  | .wrote _ _ on packet :: log => if on = some l then packet :: onWire l log else onWire l log
  | .replied _ on packet :: log => if on = some l then packet :: onWire l log else onWire l log
  | _ :: log => onWire l log

/-- The packets that an event reads, and the ids that come with it. -/
def reads : Gui.Event → Nat
  | .receive _ => 1
  | _ => 0

def draws : Gui.Event → List UInt64
  | .connect _ _ _ clientId _ => [clientId]
  | _ => []

namespace World

/-- No client is connected; their ids are not initialised. -/
def init (clientLogin clientPass : Str) (clientIds : Nat → UInt64) : World :=
  ⟨.init clientLogin clientPass, 0, fun _ => {}, fun k => .init (clientIds k), []⟩

/-- What the server has put on a link, oldest first. -/
def delivered (w : World) (l : Nat) : List Packet := (onWire l w.server.log).reverse

/-- What of it the client has read. -/
def read (w : World) (l : Nat) : List Packet := (w.delivered l).take (w.links l).received

/-- What of it is on its way. -/
def unread (w : World) (l : Nat) : List Packet := (w.delivered l).drop (w.links l).received

/-- What the network allows: a new connection is the next link, and a packet is read in its
turn. -/
def Admits (w : World) (c : Gui.Client) : Gui.Event → Prop
  | .connect _ _ n _ _ => n = w.opened
  | .receive packet => (c.link.bind fun l => (w.unread l).head?) = some packet
  | _ => True

instance (w : World) (c : Gui.Client) : (e : Gui.Event) → Decidable (w.Admits c e)
  | .connect _ _ _ _ _ => inferInstanceAs (Decidable (_ = _))
  | .receive _ => inferInstanceAs (Decidable (_ = _))
  | .disconnect | .login _ _ | .logout _ | .send _ _ => inferInstanceAs (Decidable True)

/-- A client on `link` has sent `sent` and read so many packets. -/
def carry (w : World) (link : Option Nat) (sent : List Packet) (received : Nat) : Nat → Link :=
  match link with
  | some l => Function.update w.links l ⟨(w.links l).requests ++ sent, (w.links l).received + received⟩
  | none => w.links

/-- Client `k` becomes `c` and has sent `sent`. -/
def after (w : World) (k : Nat) (e : Gui.Event) (c : Gui.Client) (sent : List Packet) : World where
  server := w.server
  opened := if c.link = some w.opened then w.opened + 1 else w.opened
  links := w.carry c.link sent (reads e)
  clients := Function.update w.clients k c
  ids := draws e ++ w.ids

/-- The server takes the first request off a link. -/
def take (w : World) (l : Nat) (rest : List Packet) (server : Server.State) : World :=
  { w with server := server, links := Function.update w.links l ⟨rest, (w.links l).received⟩ }

end World

section
variable (A : Server.App) (B : Gui.App A.json)

/-- A step of the world. The server accepts a link that was made, and receives a packet that
a client has sent, whole; a connection that is broken is a `recv` that refuses. -/
def step (w : World) : Event → Option World
  | .client k e =>
    if w.Admits (w.clients k) e then
      match Gui.act B (w.clients k) e with
      | some (c, sent) => if sent = [] ∨ c.link ≠ none then some (w.after k e c sent) else none
      | none => none
    else none
  | .server e =>
    match Server.step A w.server e with
    | none => none
    | some server =>
      match e with
      | .accept _ alive =>
        if alive = true ∧ w.server.conns.length < w.opened then some { w with server := server } else none
      | .recv c _ results =>
        match server.conns[c]? with
        | some ⟨_, _, .handling _⟩ =>
          match (w.links c).requests with
          | packet :: rest => if results = Server.whole packet then some (w.take c rest server) else none
          | [] => none
        | _ => some { w with server := server }
      | _ => some { w with server := server }

/-- A `recv` that has led to a handler. -/
def Handles (server : Server.State) : Server.Event → Prop
  | .recv c _ _ => ∃ handle socket program, server.conns[c]? = some ⟨handle, socket, .handling program⟩
  | _ => False

/-- The steps, one constructor for each way a step can go. -/
inductive Step (w : World) : Event → World → Prop where
  | client {k : Nat} {e : Gui.Event} {c : Gui.Client} {sent : List Packet} (admitted : w.Admits (w.clients k) e)
      (acted : Gui.act B (w.clients k) e = some (c, sent)) (carried : sent = [] ∨ c.link ≠ none) :
      Step w (.client k e) (w.after k e c sent)
  | receive {c : Nat} {stack : Stack} {packet : Packet} {rest : List Packet} {server : Server.State}
      (first : (w.links c).requests = packet :: rest)
      (taken : Server.step A w.server (.recv c stack (Server.whole packet)) = some server)
      (handles : Handles server (.recv c stack (Server.whole packet))) :
      Step w (.server (.recv c stack (Server.whole packet))) (w.take c rest server)
  | server {e : Server.Event} {server : Server.State} (taken : Server.step A w.server e = some server)
      (accepts : ∀ handle alive, e = .accept handle alive → alive = true ∧ w.server.conns.length < w.opened)
      (quiet : ¬ Handles server e) : Step w (.server e) { w with server := server }

variable {A B}

/-- **What a step does.** -/
theorem step_cases {w w' : World} {e : Event} (taken : step A B w e = some w') : Step A B w e w' := by
  cases e with
  | client k e =>
    simp only [step] at taken
    split at taken
    · rename_i admitted
      split at taken
      · rename_i acted
        split at taken
        · rename_i carried
          cases taken
          exact .client admitted acted carried
        · cases taken
      · cases taken
    · cases taken
  | server e =>
    simp only [step] at taken
    split at taken
    · cases taken
    · rename_i server done
      split at taken
      · split at taken
        · rename_i fits
          cases taken
          refine .server done ?_ nofun
          rintro _ _ ⟨⟩
          exact fits
        · cases taken
      · split at taken
        · rename_i here
          split at taken
          · rename_i first
            split at taken
            · rename_i same
              cases taken
              subst same
              exact .receive first done ⟨_, _, _, here⟩
            · cases taken
          · cases taken
        · rename_i out
          cases taken
          refine .server done nofun ?_
          rintro ⟨_, _, _, here⟩
          exact out _ _ _ here
      · rename_i accepts recvs
        cases taken
        refine .server done (fun handle alive same => absurd same (accepts handle alive)) ?_
        cases e with
        | recv c stack results => exact absurd rfl (recvs c stack results)
        | _ => exact id

end

/-- The id that a click on connect comes with was not drawn before. -/
def FreshId (w : World) : Event → Prop
  | .client _ (.connect _ _ _ clientId _) => clientId ∉ w.ids
  | _ => True

instance (w : World) : (e : Event) → Decidable (FreshId w e)
  | .client _ (.connect _ _ _ _ _) => inferInstanceAs (Decidable (_ ∉ _))
  | .client _ .disconnect | .client _ (.login _ _) | .client _ (.logout _) | .client _ (.send _ _)
  | .client _ (.receive _) | .server _ => inferInstanceAs (Decidable True)

/-- No request of the client is on its way or being handled, and no reply to it is on its
way; the messages of others may be. -/
structure Quiet (w : World) (c : Gui.Client) : Prop where
  asked : ∀ l, c.link = some l → (w.links l).requests = []
  handled : ∀ l, c.link = some l → ∀ conn, w.server.conns[l]? = some conn → ∀ program, conn.phase ≠ .handling program
  told : ∀ l, c.link = some l → ∀ packet ∈ w.unread l, packet.cmd = Messages.Commands.msg

/-! ## What is on the wire -/

theorem onWire_append (l : Nat) (entries log : List Server.Entry) :
    onWire l (entries ++ log) = onWire l entries ++ onWire l log := by
  induction entries with
  | nil => rfl
  | cons e entries ih =>
    cases e with
    | wrote | replied =>
      simp only [List.cons_append, onWire, ih]
      split <;> rfl
    | _ => simp only [List.cons_append, onWire, ih]

theorem onWire_reads (l : Nat) (s : Server.State) (conn : Server.Conn) (c : Nat) :
    onWire l (s.uses conn (.read c)) = [] := by
  unfold Server.State.uses
  split <;> rfl

end Gologin.Session
