import Gologin.Session.Readers

/-!
# What is said spreads

While users do nothing but send messages, nobody comes or goes: the table of accounts, the list of
clients and the sockets stay as they are. Wherever the system then settles, everyone has read
everything.
-/

namespace Gologin.Session
set_option autoImplicit false
open Calls Messages Tcp Auth Tables Gui

/-- A thread that has ended has no socket. -/
def Gone (s : Server.State) : Prop :=
  ∀ (c : Nat) (conn : Server.Conn), s.conns[c]? = some conn → conn.phase = .ended → conn.socket = none

section
variable {A : Server.App} {B : Gui.App A.json} {s s' : Server.State} {e : Server.Event}

/-- A connection with an open socket has not ended. -/
theorem Gone.live (h : Gone s) (sockets : Server.Sockets s) {c : Nat} {conn : Server.Conn}
    (here : s.conns[c]? = some conn) (live : Server.Live s c) : conn.phase ≠ .ended := by
  intro finished
  obtain ⟨handle, found⟩ := live
  have socket := (sockets.here here found).1
  rw [h c conn here finished] at socket
  cases socket

end

section
variable {A : Server.App} {B : Gui.App A.json} {login pass : Str} {w w' : World}

end

/-! ## Nobody comes or goes -/

/-- A thread that waits for a packet, passes a message on or has ended. -/
def Passing (J : Nlohmann) : Server.Phase → Prop
  | .receiving | .ended => True
  | .handling program =>
    Program.Always (Plain J) Server.AnswerOk (fun packet => Silent packet ∨ Tells J packet .message) program
  | _ => False

/-- Every link is accepted, the threads pass messages on, and nothing else is asked of them. -/
structure Calm (A : Server.App) (w : World) : Prop where
  accepted : w.opened ≤ w.server.conns.length
  threads : ∀ (l : Nat) (conn : Server.Conn), w.server.conns[l]? = some conn → Passing A.json conn.phase
  asked : ∀ (l : Nat) (conn : Server.Conn), w.server.conns[l]? = some conn → conn.phase ≠ .ended →
    ∀ packet ∈ (w.links l).requests, ∃ r, A.request packet = some (.message r)

/-- What stays as it is. -/
structure Stays (w w' : World) : Prop where
  provider : w'.server.provider = w.server.provider
  clientList : w'.server.clientList = w.server.clientList
  sockets : w'.server.sockets = w.server.sockets
  clients : ∀ k, (w'.clients k).status = (w.clients k).status ∧ (w'.clients k).link = (w.clients k).link ∧
    (w'.clients k).cookie.clientId = (w.clients k).cookie.clientId

section
variable {A : Server.App} {B : Gui.App A.json} {login pass : Str} {w w' : World}

theorem Stays.refl (w : World) : Stays w w := ⟨rfl, rfl, rfl, fun _ => ⟨rfl, rfl, rfl⟩⟩

theorem Stays.present (stays : Stays w w') {k l : Nat} {client : AuthClient} (present : Present k l client w) :
    Present k l client w' := by
  obtain ⟨up, link, named⟩ := stays.clients k
  have attends := present.sole.attends
  constructor
  · exact up.trans present.up
  · exact link.trans present.link
  · exact named.trans present.named
  · constructor
    · constructor
      · rw [stays.provider]
        exact attends.entry
      · rw [stays.clientList]
        exact attends.listed
      · unfold Server.Live
        rw [stays.sockets]
        exact attends.open_
    · rw [stays.provider]
      exact present.sole.alone

/-- A step of one connection, which asks for nothing new. -/
theorem Calm.of_set (calm : Calm A w) {c : Nat} {old new : Server.Conn} (here : w.server.conns[c]? = some old)
    (conns : w'.server.conns = w.server.conns.set c new) (opened : w'.opened = w.opened)
    (requests : ∀ l, ∀ packet ∈ (w'.links l).requests, packet ∈ (w.links l).requests)
    (passing : Passing A.json new.phase) (lasting : old.phase ≠ .ended) : Calm A w' := by
  constructor
  · rw [conns, opened, List.length_set]
    exact calm.accepted
  · intro l conn found
    rw [conns] at found
    rcases Server.conns_set found with ⟨rfl, rfl⟩ | ⟨_, there⟩
    · exact passing
    · exact calm.threads l conn there
  · intro l conn found serving packet member
    rw [conns] at found
    rcases Server.conns_set found with ⟨rfl, rfl⟩ | ⟨_, there⟩
    · exact calm.asked l old here lasting packet (requests l packet member)
    · exact calm.asked l conn there serving packet (requests l packet member)

end

/-! ## Everyone reads everything -/

section
variable {A : Server.App} {B : Gui.App A.json} {login pass : Str} {w w' : World} {clientIds : Nat → UInt64}
  {before es : List Event}

/-- Nothing is left to do for a thread, and nothing is on its way. -/
def Settled (w : World) : Prop :=
  w.opened ≤ w.server.conns.length ∧ (∀ conn ∈ w.server.conns, (conn.phase matches .receiving | .ended) = true) ∧
    ∀ l < w.opened, (w.links l).requests = [] ∧ w.unread l = []

instance (w : World) : Decidable (Settled w) := by
  unfold Settled
  infer_instance

theorem Settled.asked (settled : Settled w) (grounded : Grounded A login pass w) (l : Nat) : (w.links l).requests = [] := by
  by_cases inside : l < w.opened
  · exact (settled.2.2 l inside).1
  · rw [grounded.unopened l (Nat.le_of_not_lt inside)]

/-- There the system is at rest. -/
theorem Settled.stuck (settled : Settled w) (grounded : Grounded A login pass w) :
    Runs.Stuck (step A B) Event.Working w := by
  have threads {c : Nat} {conn : Server.Conn} (here : w.server.conns[c]? = some conn) :
      (conn.phase matches .receiving | .ended) = true := settled.2.1 conn (List.mem_of_getElem? here)
  intro e working
  cases taken : step A B w e with
  | none => rfl
  | some w' =>
    cases step_cases taken with
    | client admitted acted carried =>
      rename_i k e c sent
      cases e with
      | receive packet =>
        obtain ⟨_, rfl, l, link, next⟩ := reads_cases admitted acted
        have inside := grounded.linked k l ((receive_rest B packet (w.clients k)).2.1.symm.trans link)
        rw [(settled.2.2 l inside).2] at next
        cases next
      | connect | disconnect | login | logout | send => cases working
    | receive first done handles =>
      rw [settled.asked grounded] at first
      cases first
    | server done accepts quiet =>
      cases Server.step_cases done with
      | accept fresh => exact absurd (accepts _ _ rfl).2 (Nat.not_lt.2 settled.1)
      | refuse fresh => cases (accepts _ _ rfl).1
      | packet here received => exact absurd ⟨_, _, _, Server.conns_set_self here _⟩ quiet
      | refused here received =>
        obtain ⟨packet, rfl⟩ := working
        obtain ⟨_, _, packet_⟩ := whole_received received
        cases packet_
      | emplace here | call here | reply here | disconnect here | disconnected here | invalidate here | erase here
      | destroy here | finish here => cases threads here

end

end Gologin.Session
