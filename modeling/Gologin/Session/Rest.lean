import Gologin.Lib.Rest
import Gologin.Session.Agreement
import Mathlib.Algebra.Order.BigOperators.Group.Finset

/-!
# When the users stop

What the clients and the server do without a click comes to an end, in whatever order they do
it: the links that are to be accepted, the requests on their way, what the threads have to do
and the packets to be read form a well-founded order, and every step but a click descends in
it. Where it has come to its end, every request is answered and every packet is read. What can
go on for ever without a click changes nothing: a loop that goes round and receives or accepts
nothing, as that of a client whose connection the server has closed.
-/

namespace Gologin.Session
set_option autoImplicit false
open Calls Messages Tcp

/-- Whether an event is a click of a user. -/
def Event.click : Event → Bool
  | .client _ (.receive _) => false
  | .client _ _ => true
  | .server _ => false

/-! ## What is left to do -/

/-- Where a thread of the server comes to next, but for the request it takes up. -/
inductive Later : Server.Phase → Server.Phase → Prop where
  | emplaced : Later .receiving .started
  | refused (n : Nat) : Later (.dropping n) .receiving
  | called {call : Server.Call} {next : call.Answer → Server.Handling Packet} (x : call.Answer) :
      Later (.handling (next x)) (.handling (.call call next))
  | replied (packet : Packet) : Later .receiving (.handling (.done packet))
  | disconnect (n : Nat) : Later (.closing n) (.dropping (n + 1))
  | disconnected (n : Nat) : Later (.dropping n) (.dropping (n + 1))
  | invalidated (n : Nat) : Later (.dropping n) (.closing n)
  | erased : Later .leaving (.dropping 0)
  | finished : Later .ended .leaving

/-- **A thread that takes up no request ends.** -/
theorem later_wf : WellFounded Later := by
  have ended : Acc Later .ended := ⟨_, nofun⟩
  have leaving : Acc Later .leaving := by
    refine ⟨_, fun _ later => ?_⟩
    cases later
    exact ended
  have dropping (n : Nat) : Acc Later (.dropping n) := by
    induction n with
    | zero =>
      refine ⟨_, fun _ later => ?_⟩
      cases later
      exact leaving
    | succ n ih =>
      refine ⟨_, fun _ later => ?_⟩
      cases later with
      | disconnected => exact ih
      | disconnect =>
        refine ⟨_, fun _ later => ?_⟩
        cases later
        exact ih
  have closing (n : Nat) : Acc Later (.closing n) := by
    refine ⟨_, fun _ later => ?_⟩
    cases later
    exact dropping n
  have receiving : Acc Later .receiving := by
    refine ⟨_, fun _ later => ?_⟩
    cases later
    exact dropping _
  have handling (program : Server.Handling Packet) : Acc Later (.handling program) := by
    induction program with
    | done packet =>
      refine ⟨_, fun _ later => ?_⟩
      cases later
      exact receiving
    | call call next ih =>
      refine ⟨_, fun _ later => ?_⟩
      cases later
      exact ih _
  refine ⟨fun phase => ?_⟩
  cases phase with
  | started =>
    refine ⟨_, fun _ later => ?_⟩
    cases later
    exact receiving
  | receiving => exact receiving
  | handling program => exact handling program
  | dropping n => exact dropping n
  | closing n => exact closing n
  | leaving => exact leaving
  | ended => exact ended

namespace World

/-- The links that the server has still to accept. -/
def unaccepted (w : World) : Nat := w.opened - w.server.conns.length

/-- The requests on their way. -/
def underway (w : World) : Nat := ∑ l ∈ Finset.range w.opened, (w.links l).requests.length

/-- Where the threads of the server stand. -/
def threads (w : World) : Multiset Server.Phase := w.server.conns.map Server.Conn.phase

/-- The packets that are to be read. -/
def toRead (w : World) : Nat := ∑ l ∈ Finset.range w.opened, (w.unread l).length

/-- What is left to do. -/
def work (w : World) : Nat × Nat × Multiset Server.Phase × Nat := (w.unaccepted, w.underway, w.threads, w.toRead)

end World

/-- The order of what is left to do. -/
def Less : Nat × Nat × Multiset Server.Phase × Nat → Nat × Nat × Multiset Server.Phase × Nat → Prop :=
  Prod.Lex (· < ·) (Prod.Lex (· < ·) (Prod.Lex (Relation.CutExpand Later) (· < ·)))

theorem less_wf : WellFounded Less :=
  WellFounded.prod_lex wellFounded_lt
    (WellFounded.prod_lex wellFounded_lt (WellFounded.prod_lex later_wf.cutExpand wellFounded_lt))

/-! ## Every step but a click descends -/

section
variable {A : Server.App} {login pass : Str} {w w' : World}

/-- What a step of the server does to its threads. -/
theorem threads_cases {s s' : Server.State} {e : Server.Event} (taken : Server.step A s e = some s') :
    (∃ conn handle alive, e = .accept handle alive ∧ s'.conns = s.conns ++ [conn]) ∨
      ∃ (c : Nat) (old new : Server.Conn), s.conns[c]? = some old ∧ s'.conns = s.conns.set c new ∧
        (Later new.phase old.phase ∨ Handles s' e) := by
  cases Server.step_cases taken with
  | accept fresh | refuse fresh => exact Or.inl ⟨_, _, _, rfl, rfl⟩
  | emplace here => exact Or.inr ⟨_, _, _, here, rfl, Or.inl .emplaced⟩
  | packet here received =>
    exact Or.inr ⟨_, _, _, here, rfl, Or.inr ⟨_, _, _, Server.conns_set_self here _⟩⟩
  | refused here received => exact Or.inr ⟨_, _, _, here, rfl, Or.inl (.refused _)⟩
  | call here => exact Or.inr ⟨_, _, _, here, rfl, Or.inl (.called _)⟩
  | reply here => exact Or.inr ⟨_, _, _, here, rfl, Or.inl (.replied _)⟩
  | disconnect here => exact Or.inr ⟨_, _, _, here, rfl, Or.inl (.disconnect _)⟩
  | disconnected here => exact Or.inr ⟨_, _, _, here, rfl, Or.inl (.disconnected _)⟩
  | invalidate here => exact Or.inr ⟨_, _, _, here, rfl, Or.inl (.invalidated _)⟩
  | erase here => exact Or.inr ⟨_, _, _, here, rfl, Or.inl .erased⟩
  | destroy here | finish here => exact Or.inr ⟨_, _, _, here, rfl, Or.inl .finished⟩

/-- Fewer links to accept. -/
theorem less_unaccepted (less : w'.unaccepted < w.unaccepted) : Less w'.work w.work := .left _ _ less

/-- Fewer requests. -/
theorem less_underway (same : w'.unaccepted = w.unaccepted) (less : w'.underway < w.underway) :
    Less w'.work w.work := by
  unfold Less World.work
  rw [same]
  exact .right _ (.left _ _ less)

/-- A thread that moves on. -/
theorem less_threads (same : w'.unaccepted = w.unaccepted) (underway : w'.underway = w.underway)
    (less : Relation.CutExpand Later w'.threads w.threads) : Less w'.work w.work := by
  unfold Less World.work
  rw [same, underway]
  exact .right _ (.right _ (.left _ _ less))

/-- Fewer packets to read. -/
theorem less_toRead (same : w'.unaccepted = w.unaccepted) (underway : w'.underway = w.underway)
    (threads : w'.threads = w.threads) (less : w'.toRead < w.toRead) : Less w'.work w.work := by
  unfold Less World.work
  rw [same, underway, threads]
  exact .right _ (.right _ (.right _ less))

variable {B : Gui.App A.json}

/-- Nothing is put on a link that is not open. -/
theorem Grounded.bare (h : Grounded A login pass w) {l : Nat} (beyond : w.opened ≤ l) : w.unread l = [] := by
  have empty : onWire l w.server.log = [] := by
    rw [List.eq_nil_iff_forall_not_mem]
    intro packet member
    have := (h.written l packet member).1
    have := h.accepted
    omega
  unfold World.unread World.delivered
  rw [empty, List.reverse_nil, List.drop_nil]

/-- A client that reads a packet. -/
theorem reads_cases {k : Nat} {packet : Packet} {c : Gui.Client} {sent : List Packet}
    (admitted : w.Admits (w.clients k) (.receive packet)) (acted : Gui.act B (w.clients k) (.receive packet) = some (c, sent)) :
    sent = [] ∧ c = (w.clients k).receive B packet ∧ ∃ l, c.link = some l ∧ (w.unread l).head? = some packet := by
  simp only [Gui.act] at acted
  split at acted
  · cases acted
    obtain ⟨l, link, next⟩ := Option.bind_eq_some_iff.1 admitted
    exact ⟨rfl, rfl, l, (Gui.receive_rest B packet _).2.1.trans link, next⟩
  · cases acted

/-- What is unread after a client's step. -/
theorem unread_after (k : Nat) (e : Gui.Event) (c : Gui.Client) (sent : List Packet) (l : Nat) :
    (w.after k e c sent).unread l = if c.link = some l then (w.unread l).drop (reads e) else w.unread l := by
  have delivered : (w.after k e c sent).delivered l = w.delivered l := rfl
  unfold World.unread
  rw [delivered, links_after]
  split
  · rw [List.drop_drop]
  · rfl

/-- A packet that is read is one less to be read. -/
theorem Grounded.less_read (h : Grounded A login pass w) {k : Nat} {packet : Packet} {c : Gui.Client}
    {sent : List Packet} (admitted : w.Admits (w.clients k) (.receive packet))
    (acted : Gui.act B (w.clients k) (.receive packet) = some (c, sent)) :
    Less (w.after k (.receive packet) c sent).work w.work := by
  obtain ⟨rfl, _, l, link, next⟩ := reads_cases admitted acted
  have inside : l < w.opened := by
    by_contra beyond
    rw [h.bare (Nat.le_of_not_lt beyond)] at next
    cases next
  have opened : (w.after k (.receive packet) c []).opened = w.opened := by
    refine if_neg fun last => ?_
    obtain rfl := Option.some.inj (link.symm.trans last)
    omega
  apply less_toRead
  · unfold World.unaccepted
    rw [opened]
    rfl
  · unfold World.underway
    rw [opened]
    refine Finset.sum_congr rfl fun n _ => ?_
    rw [links_after]
    split
    · rw [List.append_nil]
    · rfl
  · rfl
  · unfold World.toRead
    rw [opened]
    apply Finset.sum_lt_sum
    · intro n _
      rw [unread_after]
      split
      · rw [List.length_drop]
        omega
      · exact Nat.le_refl _
    · refine ⟨l, Finset.mem_range.2 inside, ?_⟩
      obtain ⟨rest, unread⟩ := List.head?_eq_some_iff.1 next
      rw [unread_after, if_pos link, unread]
      exact Nat.lt_succ_self rest.length

theorem clients_self {k : Nat} {e : Gui.Event} {c : Gui.Client} {sent : List Packet} :
    (w.after k e c sent).clients k = c := Function.update_self _ _ _

theorem links_take (c : Nat) (rest : List Packet) (server : Server.State) (l : Nat) :
    (w.take c rest server).links l = if l = c then ⟨rest, (w.links c).received⟩ else w.links l :=
  Function.update_apply _ _ _ _

/-- A request that is received is one less on its way. -/
theorem Grounded.less_received (h : Grounded A login pass w) {c : Nat} {stack : Stack} {packet : Packet}
    {rest : List Packet} {server : Server.State} (first : (w.links c).requests = packet :: rest)
    (taken : Server.step A w.server (.recv c stack (Server.whole packet)) = some server)
    (handles : Handles server (.recv c stack (Server.whole packet))) : Less (w.take c rest server).work w.work := by
  obtain ⟨_, _, _, _, conns, _⟩ := receive_cases taken handles (h.queued c packet (first ▸ List.mem_cons_self))
  have inside : c < w.opened := by
    by_contra beyond
    rw [h.unopened c (Nat.le_of_not_lt beyond)] at first
    cases first
  apply less_underway
  · unfold World.unaccepted World.take
    rw [conns, List.length_set]
  · apply Finset.sum_lt_sum
    · intro n _
      rw [links_take]
      split
      · rename_i same
        rw [same, first]
        exact Nat.le_succ rest.length
      · exact Nat.le_refl _
    · refine ⟨c, Finset.mem_range.2 inside, ?_⟩
      rw [links_take, if_pos rfl, first]
      exact Nat.lt_succ_self rest.length

/-- Any other step of the server accepts a link, or moves a thread on. -/
theorem less_served {e : Server.Event} {server : Server.State}
    (taken : Server.step A w.server e = some server)
    (accepts : ∀ handle alive, e = .accept handle alive → alive = true ∧ w.server.conns.length < w.opened)
    (quiet : ¬ Handles server e) : Less { w with server := server }.work w.work := by
  rcases threads_cases taken with ⟨conn, handle, alive, accepted, conns⟩ | ⟨c, old, new, here, conns, later⟩
  · apply less_unaccepted
    have room := (accepts handle alive accepted).2
    change w.opened - server.conns.length < w.opened - w.server.conns.length
    rw [conns, List.length_append, List.length_singleton]
    omega
  · apply less_threads
    · unfold World.unaccepted
      rw [conns, List.length_set]
    · rfl
    · have moved := later.resolve_right quiet
      unfold World.threads
      rw [conns, List.map_set]
      exact Runs.cutExpand_set (by rw [List.getElem?_map, here]; rfl) moved

/-- **Every step but a click descends.** -/
theorem descends (A : Server.App) (B : Gui.App A.json) (login pass : Str) :
    Runs.Descends (step A B) (fun e => e.click = false) (Grounded A login pass) Less World.work where
  keep _ _ _ h taken := grounded_step h taken
  lower := by
    intro w e w' h quiet taken
    cases step_cases taken with
    | client admitted acted carried =>
      rename_i k e c sent
      cases e with
      | receive packet => exact h.less_read admitted acted
      | _ => cases quiet
    | receive first done handles => exact h.less_received first done handles
    | server done accepts silent => exact less_served done accepts silent

end

/-! ## Where it ends -/

/-- What goes on without the users while no connection breaks: a `recv` gets a packet. -/
def Event.Working : Event → Prop
  | .client _ (.receive _) => True
  | .client _ _ => False
  | .server (.recv _ _ results) => ∃ packet, results = Server.whole packet
  | .server _ => True

theorem Event.Working.quiet {e : Event} (working : e.Working) : e.click = false := by
  cases e with
  | server => rfl
  | client k e =>
    cases e with
    | receive => rfl
    | _ => cases working

/-- Whether a thread still serves its connection. -/
def Serving : Server.Phase → Prop
  | .started | .receiving | .handling _ => True
  | .dropping _ | .closing _ | .leaving | .ended => False

/-- The server has dropped link `l`. -/
def World.Dropped (w : World) (l : Nat) : Prop := ∃ conn, w.server.conns[l]? = some conn ∧ ¬ Serving conn.phase

/-- The requests on their way on link `l` can be received: their length fits the header. -/
def World.Short (w : World) (l : Nat) : Prop := ∀ packet ∈ (w.links l).requests, packet.body.length < 256 ^ 4

section
variable {A : Server.App} {B : Gui.App A.json} {login pass : Str} {w w' : World}

/-- A `recv` of a whole packet does not refuse. -/
theorem whole_received {header : PacketHeader} {packet : Packet} {result : RecvReturn}
    (received : ServerClient.recv Server.scripted header (Server.whole packet) = some (result, [])) :
    ∃ header' buff, result = .packet header' buff := by
  unfold ServerClient.recv recvWith Server.whole at received
  rw [scripted_data] at received
  split at received
  · simp only [Option.bind_some, ServerClient.headerRead, checkSize] at received
    split at received
    · rename_i refused
      split at refused
      · cases received
      · cases refused
    · obtain ⟨⟨res, rest⟩, taken, same⟩ := Option.map_eq_some_iff.1 received
      rw [scripted_data] at taken
      split at taken
      · cases taken
        cases same
        exact ⟨_, _, rfl⟩
      · cases taken
  · cases received

/-- A request that fits is received. -/
theorem whole_receives {packet : Packet} (requested : Requested A packet) (full : packet.body ≠ [])
    (fits : packet.body.length < 256 ^ 4) (header : PacketHeader) :
    ∃ header', ServerClient.recv Server.scripted header (Server.whole packet) = some (.packet header' packet.body, []) := by
  have len := headerBytes_length packet.body.length requested.room
  have filled : header.fill (headerBytes packet.cmd packet.body.length) =
      packetHeader packet.cmd packet.body.length requested.room :=
    PacketHeader.mk.injEq _ _ _ _ ▸ header.fill_whole len
  have some_header : headerBytes packet.cmd packet.body.length ≠ [] := List.ne_nil_of_length_pos (by omega)
  have size := packetHeader_size requested.room fits
  have positive := List.length_pos_of_ne_nil full
  refine ⟨packetHeader packet.cmd packet.body.length requested.room, ?_⟩
  unfold ServerClient.recv recvWith Server.whole
  rw [scripted_data, if_pos ⟨some_header, Nat.le_of_eq len⟩, Option.bind_some]
  simp only [ServerClient.headerRead, filled, checkSize, size, if_neg (Nat.ne_of_gt positive), scripted_data]
  rw [if_pos ⟨full, Nat.le_refl _⟩]
  simp only [Option.map_some, bodyRead, Nat.sub_self, List.replicate_zero, List.append_nil]

/-- What a client does is a step of the world. -/
theorem step_client {k : Nat} {e : Gui.Event} {c : Gui.Client} {sent : List Packet}
    (admitted : w.Admits (w.clients k) e) (acted : Gui.act B (w.clients k) e = some (c, sent))
    (carried : sent = [] ∨ c.link ≠ none) : step A B w (.client k e) = some (w.after k e c sent) := by
  simp only [step, if_pos admitted, acted, if_pos carried]

/-- A step of the server but a `recv` that leads to a handler is a step of the world. -/
theorem step_server {e : Server.Event} {server : Server.State} (taken : Server.step A w.server e = some server)
    (accepts : ∀ handle alive, e = .accept handle alive → alive = true ∧ w.server.conns.length < w.opened)
    (quiet : ¬ Handles server e) : step A B w (.server e) = some { w with server := server } := by
  unfold step
  simp only [taken]
  cases e with
  | accept handle alive => exact if_pos (accepts handle alive rfl)
  | recv c stack results =>
    dsimp only
    split
    · rename_i here
      exact absurd ⟨_, _, _, here⟩ quiet
    · rfl
  | _ => rfl

/-- A connection that is dropped by a step of the server was dropped before, unless its `recv`
refused. -/
theorem serving_step {s s' : Server.State} {e : Server.Event} (taken : Server.step A s e = some s')
    (working : (Event.server e).Working) {l : Nat} {conn : Server.Conn} (found : s'.conns[l]? = some conn)
    (dropped : ¬ Serving conn.phase) : ∃ old, s.conns[l]? = some old ∧ ¬ Serving old.phase := by
  have moved {c : Nat} {old new : Server.Conn} (here : s.conns[c]? = some old)
      (kept : Serving new.phase ∨ ¬ Serving old.phase) (found : (s.conns.set c new)[l]? = some conn) :
      ∃ old, s.conns[l]? = some old ∧ ¬ Serving old.phase := by
    rcases Server.conns_set found with ⟨rfl, rfl⟩ | ⟨_, there⟩
    · exact ⟨old, here, kept.resolve_left dropped⟩
    · exact ⟨conn, there, dropped⟩
  cases Server.step_cases taken with
  | accept fresh | refuse fresh =>
    rcases Server.conns_append found with ⟨_, rfl⟩ | there
    · exact absurd trivial dropped
    · exact ⟨conn, there, dropped⟩
  | emplace here | packet here | call here | reply here =>
    refine moved here ?_ found
    exact Or.inl trivial
  | refused here received =>
    obtain ⟨packet, rfl⟩ := working
    obtain ⟨_, _, packet_⟩ := whole_received received
    cases packet_
  | disconnect here | disconnected here | invalidate here | erase here | destroy here | finish here =>
    refine moved here ?_ found
    exact Or.inr id

/-- What the working steps leave as it is. -/
structure Works (w w' : World) : Prop where
  clients : ∀ k, (w'.clients k).status = (w.clients k).status ∧ (w'.clients k).link = (w.clients k).link
  requests : ∀ l, ∀ packet ∈ (w'.links l).requests, packet ∈ (w.links l).requests
  dropped : ∀ l, w'.Dropped l → w.Dropped l

theorem Works.refl (w : World) : Works w w := ⟨fun _ => ⟨rfl, rfl⟩, fun _ _ => id, fun _ => id⟩

theorem Works.trans {v : World} (first : Works w w') (second : Works w' v) : Works w v where
  clients k := ⟨(second.clients k).1.trans (first.clients k).1, (second.clients k).2.trans (first.clients k).2⟩
  requests l packet member := first.requests l packet (second.requests l packet member)
  dropped l dropped := first.dropped l (second.dropped l dropped)

theorem works_step {e : Event} (working : e.Working) (taken : step A B w e = some w') : Works w w' := by
  cases step_cases taken with
  | client admitted acted carried =>
    rename_i k e c sent
    cases e with
    | receive packet =>
      obtain ⟨rfl, same, _⟩ := reads_cases admitted acted
      obtain ⟨status, link, _⟩ := Gui.receive_rest B packet (w.clients k)
      refine ⟨fun j => ?_, fun l packet member => ?_, fun _ => id⟩
      · rcases @clients_after w k (.receive packet) c [] j with ⟨rfl, here⟩ | ⟨_, other⟩
        · rw [here, same]
          exact ⟨status, link⟩
        · rw [other]
          exact ⟨rfl, rfl⟩
      · rw [links_after] at member
        split at member
        · exact List.append_nil (w.links l).requests ▸ member
        · exact member
    | _ => cases working
  | receive first done handles =>
    refine ⟨fun _ => ⟨rfl, rfl⟩, fun l packet member => ?_, ?_⟩
    · rw [links_take] at member
      split at member
      · rename_i same
        rw [same, first]
        exact List.mem_cons_of_mem _ member
      · exact member
    · rintro l ⟨conn, found, dropped⟩
      exact serving_step done working found dropped
  | server done accepts quiet =>
    refine ⟨fun _ => ⟨rfl, rfl⟩, fun _ _ => id, ?_⟩
    rintro l ⟨conn, found, dropped⟩
    exact serving_step done working found dropped

/-! ## The requests can be received -/

/-- No request is empty. -/
def Filled (w : World) : Prop := ∀ l, ∀ packet ∈ (w.links l).requests, packet.body ≠ []

/-- A client sends no empty packet. -/
theorem filled_act {c c' : Gui.Client} {e : Gui.Event} {sent : List Packet} (acted : Gui.act B c e = some (c', sent)) :
    ∀ packet ∈ sent, packet.body ≠ [] := by
  intro packet member
  cases Gui.act_cases acted with
  | hello clickable up packed | login clickable packed | logout clickable packed | send clickable packed =>
    obtain rfl := List.mem_singleton.1 member
    exact packerTo_ne_nil A.json packed
  | _ => cases member

theorem filled_step (filled : Filled w) {e : Event} (taken : step A B w e = some w') : Filled w' := by
  intro l packet member
  cases step_cases taken with
  | client admitted acted carried =>
    rw [links_after] at member
    split at member
    · rcases List.mem_append.1 member with old | new
      · exact filled l packet old
      · exact filled_act acted packet new
    · exact filled l packet member
  | receive first done handles =>
    rw [links_take] at member
    split at member
    · rename_i same
      exact filled l packet (by rw [same, first]; exact List.mem_cons_of_mem _ member)
    · exact filled l packet member
  | server done accepts quiet => exact filled l packet member

/-! ## What is enabled -/

section
variable (stuck : Runs.Stuck (step A B) Event.Working w)
include stuck

/-- Where nothing goes on, a step of the server is not enabled. -/
theorem stuck_server {e : Server.Event} {server : Server.State} (taken : Server.Step A w.server e server)
    (working : (Event.server e).Working)
    (accepts : ∀ handle alive, e = .accept handle alive → alive = true ∧ w.server.conns.length < w.opened) :
    Handles server e := by
  by_contra quiet
  have disabled := stuck (.server e) working
  rw [step_server taken.enabled accepts quiet] at disabled
  cases disabled

/-- Every link is accepted. -/
theorem stuck_accepted : w.opened ≤ w.server.conns.length := by
  by_contra room
  obtain ⟨handle, fresh⟩ := Infinite.exists_notMem_finset w.server.sockets.keys.toFinset
  have free : handle ∉ w.server.sockets := fun member => fresh (List.mem_toFinset.2 (AList.mem_keys.1 member))
  refine stuck_server stuck (.accept free) trivial ?_
  rintro _ _ ⟨⟩
  exact ⟨rfl, Nat.lt_of_not_le room⟩

/-- A thread that serves its connection waits for a packet. -/
theorem stuck_receiving {l : Nat} {conn : Server.Conn} (here : w.server.conns[l]? = some conn)
    (serving : Serving conn.phase) : conn.phase = .receiving := by
  obtain ⟨handle, socket, phase⟩ := conn
  cases phase with
  | started => exact (stuck_server stuck (.emplace here) trivial nofun).elim
  | receiving => rfl
  | handling program =>
    cases program with
    | call call next =>
      have called : Server.Step A w.server (.call l Server.someChoice) _ := .call here
      exact (stuck_server stuck called trivial nofun).elim
    | done packet => exact (stuck_server stuck (.reply here) trivial nofun).elim
  | dropping | closing | leaving | ended => cases serving

/-- Its requests are received. -/
theorem stuck_asked (h : Grounded A login pass w) (filled : Filled w) {l : Nat} (short : w.Short l)
    {conn : Server.Conn} (here : w.server.conns[l]? = some conn) (waits : conn.phase = .receiving) : (w.links l).requests = [] := by
  obtain ⟨handle, socket, phase⟩ := conn
  obtain rfl := waits
  cases first : (w.links l).requests with
  | nil => rfl
  | cons packet rest =>
    have member : packet ∈ (w.links l).requests := first ▸ List.mem_cons_self
    obtain ⟨header, received⟩ :=
      whole_receives (h.queued l packet member) (filled l packet member) (short packet member) Server.blank.header
    have taken : Server.step A w.server (.recv l Server.blank (Server.whole packet)) = some _ :=
      Server.Step.enabled (.packet here received)
    have next := Server.conns_set_self here
      ⟨handle, socket, .handling (A.packetHandler handle ⟨header.command Server.blank.beyond, packet.body⟩)⟩
    have enabled := stuck (.server (.recv l Server.blank (Server.whole packet))) ⟨packet, rfl⟩
    unfold step at enabled
    simp only [taken, next, first, if_true, reduceCtorEq] at enabled

/-- What was sent to a client is read. -/
theorem stuck_read {k l : Nat} (up : (w.clients k).status = .connected) (link : (w.clients k).link = some l) :
    w.unread l = [] := by
  cases unread : w.unread l with
  | nil => rfl
  | cons packet rest =>
    have admitted : w.Admits (w.clients k) (.receive packet) := by
      simp only [World.Admits, link, Option.bind_some, unread, List.head?_cons]
    have acted : Gui.act B (w.clients k) (.receive packet) = some ((w.clients k).receive B packet, []) := if_pos up
    have enabled := stuck (.client k (.receive packet)) trivial
    rw [step_client admitted acted (Or.inl rfl)] at enabled
    cases enabled

end

/-! ## The loops that go round -/

/-- What `::recv` returns where nothing comes. -/
def bare : RecvResult → Bool
  | .data _ => false
  | .closed | .failed _ _ => true

/-- An iteration of a loop that comes to nothing: of the loop of `client::connect` of client `k`, with
what lies on its stack and what `::recv` returns in it, or of the accept loop of the server, where
`::accept` fails. -/
inductive Iteration where
  | recv (k : Nat) (stack : Stack) (results : List RecvResult)
  | accept

/-- Nothing comes to the client any more: its socket has no connection, or the server has closed the
connection and what it had put on it is read. -/
def World.Silent (w : World) (c : Gui.Client) : Prop :=
  ∀ l ∈ c.link, l < w.server.conns.length ∧ ¬ Server.Live w.server l ∧ w.unread l = []

instance World.decidableSilent (w : World) (c : Gui.Client) : Decidable (w.Silent c) :=
  inferInstanceAs (Decidable (∀ l ∈ c.link, l < w.server.conns.length ∧ ¬ Server.Live w.server l ∧ w.unread l = []))

/-- The loop goes round: `client::recv` returns false, or there is no socket that was accepted. -/
def World.GoesRound (w : World) : Iteration → Prop
  | .recv k stack results =>
    (w.clients k).status = .connected ∧ w.Silent (w.clients k) ∧ results.all bare = true ∧
      Client.recv Server.scripted stack.header results = some (.refused 0, [])
  | .accept => True

instance World.decidableGoesRound (w : World) : (i : Iteration) → Decidable (w.GoesRound i)
  | .recv _ _ _ => inferInstanceAs (Decidable (_ ∧ _))
  | .accept => isTrue trivial

/-- A step of the world, or an iteration that comes to nothing, which changes nothing. -/
def going (A : Server.App) (B : Gui.App A.json) : World → Event ⊕ Iteration → Option World :=
  Runs.withIdle (step A B) World.GoesRound

/-! ## Coming to rest -/

variable {clientIds : Nat → UInt64}

/-- **Only users keep the system going.** In a run without end users click again and again, or from
some point on nothing changes any more: there are only loops that go round, of clients whose
connections the server has closed and which receive nothing, and of a server that accepts nothing. -/
theorem clicks_forever {ws : Nat → World} {es : Nat → Event ⊕ Iteration}
    (start : ws 0 = .init login pass clientIds) (run : Runs.Forever (going A B) ws es) :
    (∀ n, ∃ m e, n ≤ m ∧ es m = .inl e ∧ e.click = true) ∨
      ∃ n, ∀ m, n ≤ m → ws m = ws n ∧ ∃ i, es m = .inr i ∧ (ws n).GoesRound i := by
  have grounded : Grounded A login pass (ws 0) := start ▸ grounded_init A login pass clientIds
  rcases (descends A B login pass).idles less_wf grounded run with others | idles
  · left
    intro n
    obtain ⟨m, e, later, at_, click⟩ := others n
    exact ⟨m, e, later, at_, by simpa using click⟩
  · exact Or.inr idles

/-- The first client logs in; nothing more has come when the server receives again, and it drops
the client. -/
def droppedLogin : List Event :=
  rightLogin ++ [.server (.recv 0 Server.blank [.failed .eagain true]), .server (.erase 0), .server (.finish 0)]

/-- Its loop goes round. -/
def refusedRound : Iteration := .recv 0 Server.blank [.closed]

/-- It logs in, and its loop goes round for ever. -/
theorem clicks_forever_nowhere : ∃ (ws : Nat → World) (es : Nat → Event ⊕ Iteration),
    Runs.Forever (going Server.App.compact Gui.App.compact) ws es ∧ ((ws 14).clients 0).frame.LoggedIn ∧
      ∃ n, ∀ m, n ≤ m → ws m = ws n ∧ ∃ i, es m = .inr i ∧ (ws n).GoesRound i := by
  obtain ⟨w, run, seen⟩ := Option.map_eq_some_iff.1
    (show (ran droppedLogin).map (fun w => decide (w.GoesRound refusedRound ∧ (w.clients 0).frame.LoggedIn)) = some true by
      decide +kernel)
  obtain ⟨round, loggedIn⟩ := of_decide_eq_true seen
  have forever := Runs.forever_idle run round
  have length : droppedLogin.length = 14 := by decide
  refine ⟨_, _, forever, ?_, ?_⟩
  · unfold ran at run
    rw [List.take_of_length_le (Nat.le_of_eq length), run]
    exact loggedIn
  · refine (clicks_forever rfl forever).resolve_left fun clicks => ?_
    obtain ⟨m, e, later, at_, _⟩ := clicks droppedLogin.length
    rw [List.getElem?_eq_none later] at at_
    cases at_

/-- Where it is at rest, the requests of a client that is not dropped are answered, and what was
sent to it is read. -/
theorem Grounded.rests (grounded : Grounded A login pass w) (filled : Filled w)
    (alone : Runs.Alone (step A B) Event.Working w w') (stuck : Runs.Stuck (step A B) Event.Working w') {k l : Nat}
    (up : (w.clients k).status = .connected) (link : (w.clients k).link = some l) (kept : ¬ w.Dropped l)
    (short : w.Short l) :
    (w'.clients k).status = .connected ∧ (w'.clients k).link = some l ∧ Quiet w' (w'.clients k) ∧ w'.unread l = [] := by
  have keep : ∀ v e v', (Grounded A login pass v ∧ Filled v) ∧ Works w v → e.Working → step A B v e = some v' →
      (Grounded A login pass v' ∧ Filled v') ∧ Works w v' := fun _ _ _ ⟨⟨h, filled⟩, works⟩ working taken =>
    ⟨⟨grounded_step h taken, filled_step filled taken⟩, works.trans (works_step working taken)⟩
  obtain ⟨⟨h, filled'⟩, works⟩ := alone.invariant keep ⟨⟨grounded, filled⟩, .refl w⟩
  obtain ⟨status, same⟩ := works.clients k
  have accepted : l < w'.server.conns.length :=
    Nat.lt_of_lt_of_le (h.linked k l (same.trans link)) (stuck_accepted stuck)
  have here := List.getElem?_eq_getElem accepted
  have waits : w'.server.conns[l].phase = .receiving := by
    apply stuck_receiving stuck here
    by_contra dropped
    exact kept (works.dropped l ⟨_, here, dropped⟩)
  have asked := stuck_asked stuck h filled' (fun packet member => short packet (works.requests l packet member)) here waits
  have read := stuck_read stuck (status.trans up) (same.trans link)
  refine ⟨status.trans up, same.trans link, ⟨?_, ?_, ?_⟩, read⟩
  · intro n on
    cases (same.trans link).symm.trans on
    exact asked
  · intro n on conn found program handling
    cases (same.trans link).symm.trans on
    cases here.symm.trans found
    cases waits.symm.trans handling
  · intro n on packet member
    cases (same.trans link).symm.trans on
    rw [read] at member
    cases member

/-- The working steps descend. -/
theorem working_descends (A : Server.App) (B : Gui.App A.json) (login pass : Str) :
    Runs.Descends (step A B) Event.Working (Grounded A login pass) Less World.work where
  keep _ _ _ h taken := grounded_step h taken
  lower w e w' h working taken := (descends A B login pass).lower w e w' h working.quiet taken

theorem filled_run {es : List Event} (run : Runs.exec (step A B) (.init login pass clientIds) es = some w) : Filled w :=
  Runs.exec_invariant (fun _ _ _ h => filled_step h) (fun _ _ member => absurd member List.not_mem_nil) run

end

end Gologin.Session
