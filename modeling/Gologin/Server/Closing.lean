import Gologin.Server.Sockets

/-!
# Who closes a socket

A socket may be closed by the accept loop, by `disconnect()` and by `~server_client`. When
`set_keep_alive` succeeds for every accepted socket, and no `send_to` finds a
`server_client` that has closed its handle and still holds it, each socket is closed once
and not used afterwards.
-/

namespace Gologin.Server
set_option autoImplicit false
open Calls Messages Auth Tcp Tables

/-- How often the socket of a connection was closed. -/
def closes (c : Nat) : List Entry → Nat
  | [] => 0
  | .closed _ on :: log => if on = some c then closes c log + 1 else closes c log
  | _ :: log => closes c log

/-- A system call of a `server_client` whose accepted socket does not have the handle any
more. -/
def Entry.Stale : Entry → Prop
  | .read c on => on ≠ some c
  | .wrote _ via on _ => on ≠ some via
  | .replied c on _ => on ≠ some c
  | .closed c on => on ≠ some c
  | _ => False

instance : (e : Entry) → Decidable e.Stale
  | .read _ _ | .wrote _ _ _ _ | .replied _ _ _ | .closed _ _ => inferInstanceAs (Decidable (_ ≠ _))
  | .received _ _ | .called _ _ _ => inferInstanceAs (Decidable False)

/-- Each accepted socket whose handler has ended was closed once, and no `server_client` has
used the handle of a socket that was closed. -/
structure ClosedOnce (s : State) : Prop where
  once : ∀ (c : Nat) (conn : Conn), s.conns[c]? = some conn → conn.phase = .ended → closes c s.log = 1
  calm : ∀ e ∈ s.log, ¬ e.Stale

/-- `set_keep_alive` succeeds, and `send_to` does not find a `server_client` inside its
`disconnect()`. -/
def Orderly (s : State) : Event → Prop
  | .accept _ alive => alive = true
  | .call c _ => ∀ conn cookies cmd buff next via target n, s.conns[c]? = some conn →
    conn.phase = .handling (.call (.sendTo cookies cmd buff) next) →
    s.clientList.lookup cookies.serverClientId = some via → s.conns[via]? = some target →
    target.phase ≠ .closing n
  | _ => True

/-- The `server_client` has closed its socket. -/
def Conn.shut (conn : Conn) : Bool := conn.socket.isNone || conn.phase matches .closing _

theorem Conn.shut_of_open {conn : Conn} {socket : Nat} (mine : conn.socket = some socket)
    (out : ∀ n, conn.phase ≠ .closing n) : conn.shut = false := by
  obtain ⟨handle, _, phase⟩ := conn
  cases mine
  cases phase with
  | closing n => exact absurd rfl (out n)
  | _ => rfl

/-- What orderly steps keep: a socket is closed by its own `server_client`, and until then it
has the handle. -/
structure Closing (s : State) : Prop where
  sockets : Sockets s
  live : ∀ (c : Nat) (conn : Conn), s.conns[c]? = some conn → conn.shut = false →
    s.sockets.lookup conn.handle = some c
  count : ∀ (c : Nat) (conn : Conn), s.conns[c]? = some conn → closes c s.log = if conn.shut then 1 else 0
  unborn : ∀ c, s.conns.length ≤ c → closes c s.log = 0
  ended : ∀ (c : Nat) (conn : Conn), s.conns[c]? = some conn → conn.phase = .ended → conn.socket = none
  calm : ∀ e ∈ s.log, ¬ e.Stale

/-- Entries that close nothing. -/
def Entry.Open : Entry → Prop
  | .closed _ _ => False
  | _ => True

theorem closes_append {entries : List Entry} (open_ : ∀ e ∈ entries, e.Open) (c : Nat) (log : List Entry) :
    closes c (entries ++ log) = closes c log := by
  induction entries with
  | nil => rfl
  | cons e entries ih =>
    have rest := ih fun e member => open_ e (by simp [member])
    have first := open_ e List.mem_cons_self
    cases e with
    | closed => exact first.elim
    | _ => exact rest

section
variable {A : App} {s s' : State} {e : Event}

theorem closing_init (login pass : Str) : Closing (State.init login pass) :=
  ⟨sockets_init login pass, nofun, nofun, fun _ _ => rfl, nofun, nofun⟩

/-- What a `server_client` that has not closed its socket uses. -/
theorem Closing.lookup (h : Closing s) {c socket : Nat} {conn : Conn} (here : s.conns[c]? = some conn)
    (mine : conn.socket = some socket) (open_ : conn.shut = false) : s.sockets.lookup socket = some c :=
  h.sockets.own c conn socket here mine ▸ h.live c conn here open_

/-- A step of one handler that closes nothing. -/
theorem Closing.of_set (h : Closing s) (sockets : Sockets s') {c : Nat} {old new : Conn}
    (here : s.conns[c]? = some old) (conns : s'.conns = s.conns.set c new) (same : s'.sockets = s.sockets)
    (handle : new.handle = old.handle) (shut : new.shut = old.shut) (ended : new.phase = .ended → new.socket = none)
    (observed : ∃ entries, s'.log = entries ++ s.log ∧ ∀ e ∈ entries, e.Open ∧ ¬ e.Stale) : Closing s' := by
  obtain ⟨entries, log, open_⟩ := observed
  have counts : ∀ d, closes d s'.log = closes d s.log := by
    intro d
    rw [log]
    exact closes_append (fun e member => (open_ e member).1) d s.log
  refine ⟨sockets, ?_, ?_, ?_, ?_, ?_⟩
  · intro d conn found free
    rw [conns] at found
    rw [same]
    rcases conns_set found with ⟨rfl, rfl⟩ | ⟨_, there⟩
    · exact handle ▸ h.live d old here (shut ▸ free)
    · exact h.live d conn there free
  · intro d conn found
    rw [conns] at found
    rw [counts]
    rcases conns_set found with ⟨rfl, rfl⟩ | ⟨_, there⟩
    · exact shut ▸ h.count d old here
    · exact h.count d conn there
  · intro d large
    rw [conns, List.length_set] at large
    exact (counts d).trans (h.unborn d large)
  · intro d conn found
    rw [conns] at found
    rcases conns_set found with ⟨_, rfl⟩ | ⟨_, there⟩
    · exact ended
    · exact h.ended d conn there
  · intro e member
    rw [log] at member
    rcases List.mem_append.1 member with new | old
    · exact (open_ e new).2
    · exact h.calm e old

/-- The step of one handler that closes its socket. -/
theorem Closing.of_close (h : Closing s) {c handle socket : Nat} {before : Phase} {new : Conn}
    (sockets : Sockets ((s.close c socket).set c new)) (here : s.conns[c]? = some ⟨handle, some socket, before⟩)
    (out : ∀ n, before ≠ .closing n) (shut : new.shut = true) (ended : new.phase = .ended → new.socket = none) :
    Closing ((s.close c socket).set c new) := by
  have open_ : Conn.shut ⟨handle, some socket, before⟩ = false := Conn.shut_of_open rfl out
  have mine := h.lookup here rfl open_
  have log : ((s.close c socket).set c new).log = .closed c (some c) :: s.log := by
    rw [← mine]
    rfl
  refine ⟨sockets, ?_, ?_, ?_, ?_, ?_⟩
  · intro d conn found free
    rcases conns_set found with ⟨_, rfl⟩ | ⟨other, there⟩
    · exact absurd (shut.symm.trans free) nofun
    · have found := h.live d conn there free
      refine (lookup_erase_ne fun same => other ?_).trans found
      exact Option.some.inj ((same ▸ found).symm.trans mine)
  · intro d conn found
    rw [log]
    rcases conns_set found with ⟨rfl, rfl⟩ | ⟨other, there⟩
    · rw [closes, if_pos rfl, h.count d _ here, open_, shut]
      rfl
    · rw [closes, if_neg fun same => other (Option.some.inj same).symm]
      exact h.count d conn there
  · intro d large
    change (s.conns.set c new).length ≤ d at large
    rw [List.length_set] at large
    have inside := (List.getElem?_eq_some_iff.1 here).1
    rw [log, closes, if_neg fun same => by have := Option.some.inj same; omega]
    exact h.unborn d large
  · intro d conn found
    rcases conns_set found with ⟨_, rfl⟩ | ⟨_, there⟩
    · exact ended
    · exact h.ended d conn there
  · intro e member
    rw [log] at member
    rcases List.mem_cons.1 member with rfl | old
    · exact fun stale => stale rfl
    · exact h.calm e old

/-- What an orderly call observes. -/
theorem Closing.called (h : Closing s) {c : Nat} {conn : Conn} {choice : Choice} {call : Call}
    {next : call.Answer → Handling Packet} (orderly : Orderly s (.call c choice)) (here : s.conns[c]? = some conn)
    (phase : conn.phase = .handling (.call call next)) :
    ∀ e ∈ .called c call (s.outcome c choice call).1 :: (s.outcome c choice call).2.2, e.Open ∧ ¬ e.Stale := by
  intro e member
  rcases List.mem_cons.1 member with rfl | written
  · exact ⟨trivial, id⟩
  · obtain ⟨cookies, cmd, buff, via, target, handle, rfl, listed, there, socket, rfl⟩ := mem_outcome written
    refine ⟨trivial, fun stale => stale ?_⟩
    exact h.lookup there socket (Conn.shut_of_open socket fun n =>
      orderly conn cookies cmd buff next via target n here phase listed there)

theorem closing_step (h : Closing s) (orderly : Orderly s e) (taken : step A s e = some s') : Closing s' := by
  have sockets := sockets_step h.sockets taken
  have reads : ∀ {c handle : Nat} {socket : Option Nat}, s.conns[c]? = some ⟨handle, socket, .receiving⟩ →
      ∀ x ∈ s.uses ⟨handle, socket, .receiving⟩ (.read c), x.Open ∧ ¬ x.Stale := by
    intro c handle socket here x member
    obtain ⟨key, mine, rfl⟩ := mem_uses member
    exact ⟨trivial, fun stale => stale (h.lookup here mine (Conn.shut_of_open mine nofun))⟩
  cases step_cases taken with
  | accept fresh =>
    refine ⟨sockets, ?_, ?_, ?_, ?_, h.calm⟩
    · intro c conn found free
      rcases conns_append found with ⟨rfl, rfl⟩ | old
      · exact AList.lookup_insert s.sockets
      · have found := h.live c conn old free
        refine (AList.lookup_insert_ne fun same => fresh ?_).trans found
        exact same ▸ mem_of_lookup found
    · intro c conn found
      rcases conns_append found with ⟨rfl, rfl⟩ | old
      · exact h.unborn s.conns.length (Nat.le_refl _)
      · exact h.count c conn old
    · intro c large
      rw [List.length_append, List.length_singleton] at large
      exact h.unborn c (by omega)
    · intro c conn found
      rcases conns_append found with ⟨_, rfl⟩ | old
      · nofun
      · exact h.ended c conn old
  | refuse fresh => cases orderly
  | emplace here => exact h.of_set sockets here rfl rfl rfl rfl nofun ⟨[], rfl, nofun⟩
  | packet here received =>
    refine h.of_set sockets here rfl rfl rfl rfl nofun ⟨.received _ _ :: _, rfl, ?_⟩
    exact List.forall_mem_cons.2 ⟨⟨trivial, id⟩, reads here⟩
  | refused here received => exact h.of_set sockets here rfl rfl rfl rfl nofun ⟨_, rfl, reads here⟩
  | call here => exact h.of_set sockets here rfl rfl rfl rfl nofun ⟨_ :: _, rfl, h.called orderly here rfl⟩
  | reply here =>
    refine h.of_set sockets here rfl rfl rfl rfl nofun ⟨_, rfl, fun x member => ?_⟩
    obtain ⟨key, mine, rfl⟩ := mem_send member
    exact ⟨trivial, fun stale => stale (h.lookup here mine (Conn.shut_of_open mine nofun))⟩
  | disconnect here => exact h.of_close sockets here nofun rfl nofun
  | disconnected here => exact h.of_set sockets here rfl rfl rfl rfl nofun ⟨[], rfl, nofun⟩
  | invalidate here =>
    refine h.of_set sockets here rfl rfl rfl ?_ nofun ⟨[], rfl, nofun⟩
    exact (Bool.or_true _).symm
  | erase here => exact h.of_set sockets here rfl rfl rfl rfl nofun ⟨[], rfl, nofun⟩
  | destroy here => exact h.of_close sockets here nofun rfl fun _ => rfl
  | finish here => exact h.of_set sockets here rfl rfl rfl rfl (fun _ => rfl) ⟨[], rfl, nofun⟩

/-- **Closed once and not used after.** In every run in which `set_keep_alive` succeeds for
each accepted socket and no `send_to` finds a `server_client` inside its `disconnect()`,
each socket whose handler has ended was closed once, and no closed socket's handle was
used by its `server_client`. -/
theorem closed_once {login pass : Str} {es : List Event}
    (orderly : Runs.Along (step A) Orderly (State.init login pass) es)
    (run : Runs.exec (step A) (State.init login pass) es = some s) : ClosedOnce s := by
  have h : Closing s := Runs.exec_guarded (fun _ _ _ => closing_step) (closing_init login pass) orderly run
  refine ⟨fun c conn here ended => ?_, h.calm⟩
  have gone := h.ended c conn here ended
  have count := h.count c conn here
  rw [Conn.shut, gone] at count
  exact count

end

/-- A connection that is accepted, sends nothing and closes. -/
def visit : List Event :=
  [.accept 3 true, .emplace 0, .recv 0 blank [.closed], .disconnect 0, .invalidate 0, .erase 0, .finish 0]

theorem closed_once_visit :
    ∃ s, Runs.exec (step App.compact) (State.init (str "login") (str "pass")) visit = some s ∧
      s.log.length = 2 ∧ ClosedOnce s := by
  obtain ⟨s, run, length⟩ := Option.map_eq_some_iff.1
    (show (Runs.exec (step App.compact) (State.init (str "login") (str "pass")) visit).map
        (fun s => s.log.length) = some 2 by decide +kernel)
  refine ⟨s, run, length, closed_once ?_ run⟩
  exact ⟨rfl, fun _ _ => ⟨trivial, fun _ _ => ⟨trivial, fun _ _ => ⟨trivial, fun _ _ => ⟨trivial, fun _ _ => ⟨trivial,
    fun _ _ => ⟨trivial, fun _ _ => trivial⟩⟩⟩⟩⟩⟩⟩

/-- `set_keep_alive` fails for the first connection, and the second gets its handle. -/
def refused : List Event :=
  [.accept 3 false, .accept 3 true, .emplace 0, .recv 0 blank [.failed .other true], .disconnect 0, .invalidate 0,
    .erase 0, .finish 0]

/-- The first connection's handler closes the socket of the second. -/
theorem closed_refused :
    ¬ ∀ (A : App) (login pass : Str) (es : List Event) (s : State),
      Runs.exec (step A) (State.init login pass) es = some s → ClosedOnce s := by
  intro closed
  obtain ⟨s, run, same⟩ := Option.map_eq_some_iff.1
    (show (Runs.exec (step App.compact) (State.init (str "login") (str "pass")) refused).map
        (fun s => s.log.any fun e => decide e.Stale) = some true by decide +kernel)
  obtain ⟨e, member, stale⟩ := List.any_eq_true.1 same
  exact (closed App.compact _ _ refused s run).calm e member (of_decide_eq_true stale)

end Gologin.Server
