import Gologin.Server.Threads
import Gologin.Lib.Progress

/-!
# Stopping the server

What `server::stop` waits for. The listening socket is closed before the accept thread is
joined, which wakes it; the sockets of the clients stay open while their threads are
joined. So `stop()` returns unless the thread of some client is, or comes to be, in a
`::recv` for which nothing is pending.
-/

namespace Gologin.Shutdown
set_option autoImplicit false
open Tcp

/-- What is left of the accept thread once the server is down, with the thread it may start. -/
def Accept.rank : Accept → Nat
  | .ended => 0
  | .check => 1
  | .accepting => 2
  | .pushing _ => 6
  | .serving _ => 7
  | .accepted _ => 8

/-- What is left of a call of `stop()`. -/
def Stop.rank (threads : Nat) : Stop → Nat
  | .idle => 0
  | .joinClients joined => threads - joined + 1
  | .lock => threads + 2
  | .joinAccept => threads + 3
  | .closing => threads + 4

theorem Stop.rank_idle (threads : Nat) : Stop.idle.rank threads = 0 := rfl

namespace Server

/-- What holds in every state that is reached. -/
structure Inv (s : Server) : Prop where
  down : s.stop ≠ .idle → s.up = false
  shut : s.stop = .joinAccept → s.listening = false
  ended : s.stop.past = true → s.accept = .ended
  joined : ∀ k, s.stop = .joinClients k → ∀ i < k, ∀ t, s.threads[i]? = some t → t.place = .ended

theorem inv_init : Inv init := ⟨fun _ => rfl, nofun, nofun, nofun⟩

section
variable {s s' : Server} {e : Event} {t t' : Handler} {i : Nat}

/-- A thread that has ended stays at its end. -/
theorem Inv.set (h : Inv s) (here : s.threads[i]? = some t) (same : t.place = .ended → t'.place = .ended) :
    Inv { s with threads := s.threads.set i t' } := by
  refine ⟨h.down, h.shut, h.ended, fun k joins j before u there => ?_⟩
  by_cases that : i = j
  · subst that
    rw [List.getElem?_set_self' , here] at there
    cases there
    exact same (h.joined k joins i before t here)
  · rw [List.getElem?_set_ne that] at there
    exact h.joined k joins j before u there

/-- While the accept thread runs, `stop()` has not come past its join. -/
theorem Inv.accept (h : Inv s) (runs : s.accept ≠ .ended) (accept : Accept) (more : List Handler) :
    Inv { s with accept := accept, threads := s.threads ++ more } := by
  have before : s.stop.past = false := Bool.eq_false_iff.2 fun past => runs (h.ended past)
  refine ⟨h.down, h.shut, fun past => absurd past (by simp [before]), fun k joins => ?_⟩
  rw [show s.stop = .joinClients k from joins] at before
  cases before

theorem Inv.acceptTo (h : Inv s) (runs : s.accept ≠ .ended) (accept : Accept) : Inv { s with accept := accept } := by
  have next := h.accept runs accept []
  rw [List.append_nil] at next
  exact next

/-! ### Steps -/

variable {garbage : PacketHeader} {send keepAlive : Bool} {act : Socket → Socket}

theorem handlerStep_some (taken : s.handlerStep i garbage send = some s') :
    ∃ t t', s.threads[i]? = some t ∧ t.step s.up s.writable s.readable garbage send = some t' ∧
      s' = { s with threads := s.threads.set i t' } := by
  obtain ⟨t, here, rest⟩ := Option.bind_eq_some_iff.1 taken
  obtain ⟨t', stepped, rfl⟩ := Option.map_eq_some_iff.1 rest
  exact ⟨t, t', here, stepped, rfl⟩

theorem peerStep_some (taken : s.peerStep i act = some s') :
    ∃ t, s.threads[i]? = some t ∧ s' = { s with threads := s.threads.set i { t with socket := act t.socket } } := by
  obtain ⟨t, here, rest⟩ := Option.bind_eq_some_iff.1 taken
  split at rest
  · cases rest
    exact ⟨t, here, rfl⟩
  · cases rest

/-- What the accept thread does: it goes on by itself, or starts a thread. -/
theorem acceptStep_some (taken : s.acceptStep keepAlive = some s') :
    s.accept ≠ .ended ∧
      ((∃ accept, s' = { s with accept := accept } ∧ (s.up = false → accept.rank < s.accept.rank)) ∨
        ∃ socket, s.accept = .pushing socket ∧
          s' = { s with accept := .check, threads := s.threads ++ [⟨socket, .start⟩] }) := by
  cases here : s.accept with
  | ended => simp [Server.acceptStep, here] at taken
  | check =>
    simp only [Server.acceptStep, here] at taken
    cases taken
    exact ⟨nofun, Or.inl ⟨_, rfl, fun down => by simp [down, Accept.rank]⟩⟩
  | accepting =>
    simp only [Server.acceptStep, here] at taken
    split at taken
    · cases taken
    · cases taken
      exact ⟨nofun, Or.inl ⟨_, rfl, fun _ => by simp [Accept.rank]⟩⟩
  | accepted socket =>
    simp only [Server.acceptStep, here] at taken
    cases taken
    exact ⟨nofun, Or.inl ⟨_, rfl, fun down => by simp [down, Accept.rank]⟩⟩
  | serving socket =>
    simp only [Server.acceptStep, here] at taken
    split at taken
    · cases taken
    · cases taken
      exact ⟨nofun, Or.inl ⟨_, rfl, fun _ => by simp [Accept.rank]⟩⟩
  | pushing socket =>
    simp only [Server.acceptStep, here] at taken
    cases taken
    exact ⟨nofun, Or.inr ⟨socket, rfl, rfl⟩⟩

/-- What `stop()` does: it goes on, or it returns when every handler thread has ended. -/
theorem Inv.stopStep (h : Inv s) (taken : s.stopStep = some s') :
    Inv s' ∧ s'.up = s.up ∧ s'.accept = s.accept ∧ s.stop ≠ .idle ∧
      (s'.stop ≠ .idle ∧ s'.threads = s.threads ∧ s'.stop.rank s.threads.length < s.stop.rank s.threads.length ∨
        s'.stop = .idle ∧ s'.threads = [] ∧ ∀ t ∈ s.threads, t.place = .ended) := by
  cases here : s.stop with
  | idle => simp [Server.stopStep, here] at taken
  | closing =>
    simp only [Server.stopStep, here] at taken
    cases taken
    exact ⟨⟨fun _ => h.down (by simp [here]), fun _ => rfl, nofun, nofun⟩, rfl, rfl, nofun,
      Or.inl ⟨nofun, rfl, by simp [Stop.rank]⟩⟩
  | joinAccept =>
    simp only [Server.stopStep, here] at taken
    split at taken
    · rename_i ended
      cases taken
      exact ⟨⟨fun _ => h.down (by simp [here]), nofun, fun _ => ended, nofun⟩, rfl, rfl, nofun,
        Or.inl ⟨nofun, rfl, by simp [Stop.rank]⟩⟩
    · cases taken
  | lock =>
    have ended : s.accept = .ended := h.ended (by simp [here, Stop.past])
    simp only [Server.stopStep, here, ended] at taken
    cases taken
    refine ⟨⟨fun _ => h.down (by simp [here]), nofun, fun _ => rfl, ?_⟩, rfl, ended.symm, nofun,
      Or.inl ⟨nofun, rfl, by simp [Stop.rank]⟩⟩
    rintro k joins j before
    cases joins
    exact absurd before (Nat.not_lt_zero j)
  | joinClients k =>
    have ended : s.accept = .ended := h.ended (by simp [here, Stop.past])
    simp only [Server.stopStep, here] at taken
    split at taken
    · rename_i t there
      have inside : k < s.threads.length := (List.getElem?_eq_some_iff.1 there).1
      split at taken
      · rename_i last
        cases taken
        refine ⟨⟨fun _ => h.down (by simp [here]), nofun, fun _ => ended, ?_⟩, rfl, rfl, nofun,
          Or.inl ⟨nofun, rfl, by simp only [Stop.rank]; omega⟩⟩
        rintro _ joins j before u at_
        cases joins
        rcases Nat.lt_succ_iff_lt_or_eq.1 before with earlier | rfl
        · exact h.joined k here j earlier u at_
        · cases there.symm.trans at_
          exact last
      · cases taken
    · rename_i beyond
      cases taken
      refine ⟨⟨fun out => absurd rfl out, nofun, nofun, nofun⟩, rfl, rfl, nofun, Or.inr ⟨rfl, rfl, fun t member => ?_⟩⟩
      obtain ⟨j, there⟩ := List.mem_iff_getElem?.1 member
      have inside : j < s.threads.length := (List.getElem?_eq_some_iff.1 there).1
      have long : s.threads.length ≤ k := List.getElem?_eq_none_iff.1 beyond
      exact h.joined k here j (by omega) t there

/-- **The invariant.** -/
theorem Inv.step (h : Inv s) (taken : s.step e = some s') : Inv s' := by
  cases e with
  | start =>
    simp only [Server.step] at taken
    split at taken
    · cases taken
      exact ⟨fun out => absurd rfl out, nofun, nofun, nofun⟩
    · cases taken
  | stop =>
    simp only [Server.step] at taken
    split at taken
    · cases taken
      exact ⟨fun _ => rfl, nofun, nofun, nofun⟩
    · cases taken
  | stopStep => exact (h.stopStep taken).1
  | acceptStep keepAlive =>
    obtain ⟨runs, ⟨accept, rfl, _⟩ | ⟨socket, _, rfl⟩⟩ := acceptStep_some taken
    · exact h.acceptTo runs accept
    · exact h.accept runs .check [⟨socket, .start⟩]
  | handlerStep i garbage send =>
    obtain ⟨t, t', here, stepped, rfl⟩ := handlerStep_some taken
    exact h.set here fun ended => absurd ended (Handler.step_alive stepped)
  | connect pending =>
    simp only [Server.step] at taken
    split at taken
    · rename_i both
      cases taken
      exact h.acceptTo (by simp [both.1]) _
    · cases taken
  | abort =>
    simp only [Server.step] at taken
    split at taken
    · rename_i both
      cases taken
      exact h.acceptTo (by simp [both.1]) _
    · cases taken
  | arrive i bytes =>
    simp only [Server.step] at taken
    obtain ⟨t, here, rfl⟩ := peerStep_some taken
    exact h.set here fun ended => ended
  | leave i reset =>
    simp only [Server.step] at taken
    obtain ⟨t, here, rfl⟩ := peerStep_some taken
    exact h.set here fun ended => ended

/-- A step of the server's own leaves the status. -/
theorem Inv.own_up (h : Inv s) (own : e.Own) (taken : s.step e = some s') : s'.up = s.up := by
  cases e with
  | stopStep => exact (h.stopStep taken).2.1
  | acceptStep keepAlive =>
    obtain ⟨_, ⟨accept, rfl, _⟩ | ⟨socket, _, rfl⟩⟩ := acceptStep_some taken <;> rfl
  | handlerStep i garbage send =>
    obtain ⟨t, t', _, _, rfl⟩ := handlerStep_some taken
    rfl
  | _ => exact own.elim

/-- Once the server is down, its own steps doom no thread. -/
theorem Inv.own_free (h : Inv s) (down : s.up = false) (own : e.Own) (taken : s.step e = some s')
    (free : ∀ t ∈ s.threads, ¬ t.Doomed) : ∀ t ∈ s'.threads, ¬ t.Doomed := by
  cases e with
  | stopStep =>
    obtain ⟨_, _, _, _, ⟨_, same, _⟩ | ⟨_, none, _⟩⟩ := h.stopStep taken
    · exact same ▸ free
    · simp [none]
  | acceptStep keepAlive =>
    obtain ⟨_, ⟨accept, rfl, _⟩ | ⟨socket, _, rfl⟩⟩ := acceptStep_some taken
    · exact free
    intro t member
    rcases List.mem_append.1 member with old | new
    · exact free t old
    · obtain rfl := List.mem_singleton.1 new
      exact fun doomed => absurd doomed.receives (by simp [Place.receives])
  | handlerStep i garbage send =>
    obtain ⟨t, t', here, stepped, rfl⟩ := handlerStep_some taken
    intro u member
    rcases List.mem_or_eq_of_mem_set member with old | rfl
    · exact free u old
    · rw [down] at stepped
      exact fun doomed => free t (List.mem_of_getElem? here) (Handler.doomed_step stepped doomed)
  | _ => exact own.elim

/-- While a thread is doomed, a call of `stop()` goes on, and the thread stays doomed. -/
theorem Inv.own_doomed (h : Inv s) (stops : s.stop ≠ .idle) (own : e.Own) (taken : s.step e = some s')
    (doomed : ∃ t ∈ s.threads, t.Doomed) : s'.stop ≠ .idle ∧ ∃ t ∈ s'.threads, t.Doomed := by
  obtain ⟨t, member, dead⟩ := doomed
  cases e with
  | stopStep =>
    obtain ⟨_, _, _, _, ⟨goes, same, _⟩ | ⟨_, _, all⟩⟩ := h.stopStep taken
    · exact ⟨goes, t, same ▸ member, dead⟩
    · exact absurd (all t member) dead.alive
  | acceptStep keepAlive =>
    obtain ⟨_, ⟨accept, rfl, _⟩ | ⟨socket, _, rfl⟩⟩ := acceptStep_some taken
    · exact ⟨stops, t, member, dead⟩
    · exact ⟨stops, t, List.mem_append_left _ member, dead⟩
  | handlerStep i garbage send =>
    obtain ⟨u, u', here, stepped, rfl⟩ := handlerStep_some taken
    refine ⟨stops, ?_⟩
    obtain ⟨j, there⟩ := List.mem_iff_getElem?.1 member
    by_cases that : i = j
    · subst that
      cases here.symm.trans there
      have inside := (List.getElem?_eq_some_iff.1 here).1
      exact ⟨u', List.mem_iff_getElem?.2 ⟨i, by simp [inside]⟩, dead.step stepped⟩
    · refine ⟨t, List.mem_iff_getElem?.2 ⟨j, ?_⟩, dead⟩
      rw [List.getElem?_set_ne that]
      exact there
  | _ => exact own.elim

/-! ### Where the server can go on -/

/-- What the stack may hold. -/
def blank : PacketHeader := packetHeader [] 0 (by decide)

theorem handlerStep_enabled (here : s.threads[i]? = some t)
    (next : ∃ t', t.step s.up s.writable s.readable blank false = some t') :
    ∃ e : Event, e.Own ∧ (s.step e).isSome := by
  obtain ⟨t', stepped⟩ := next
  refine ⟨.handlerStep i blank false, trivial, ?_⟩
  simp [Server.step, handlerStep, here, stepped]

/-- The accept thread can go on, once `stop()` has come to its join. -/
theorem Inv.accept_enabled (h : Inv s) (joins : s.stop = .joinAccept) (runs : s.accept ≠ .ended) :
    ∃ e : Event, e.Own ∧ (s.step e).isSome := by
  refine ⟨.acceptStep true, trivial, ?_⟩
  have shut := h.shut joins
  cases here : s.accept with
  | ended => exact absurd here runs
  | _ => simp [Server.step, Server.acceptStep, here, shut, joins, Stop.holds]

/-- **Where no thread is doomed** a server that waits in `stop()` can go on. -/
theorem Inv.enabled (h : Inv s) (waiting : s.Waiting) (free : ∀ t ∈ s.threads, ¬ t.Doomed) :
    ∃ e : Event, e.Own ∧ (s.step e).isSome := by
  by_cases held : ∃ t ∈ s.threads, t.place.writes = true ∨ t.place.reads = true
  · obtain ⟨t, member, holds⟩ := held
    obtain ⟨i, here⟩ := List.mem_iff_getElem?.1 member
    exact handlerStep_enabled here (Handler.step_holding holds)
  have writable : s.writable = true := by
    refine List.all_eq_true.2 fun t member => ?_
    have out := not_or.1 fun holds => held ⟨t, member, holds⟩
    simp [out.1, out.2]
  have readable : s.readable = true := by
    refine List.all_eq_true.2 fun t member => ?_
    have out := not_or.1 fun holds => held ⟨t, member, holds⟩
    simp [out.1]
  by_cases alive : ∃ t ∈ s.threads, t.place ≠ .ended
  · obtain ⟨t, member, runs⟩ := alive
    obtain ⟨i, here⟩ := List.mem_iff_getElem?.1 member
    refine handlerStep_enabled here (Option.ne_none_iff_exists'.1 ?_)
    rw [writable, readable]
    intro blocked
    rcases Handler.step_eq_none blocked with ended | doomed
    · exact runs ended
    · exact free t member doomed
  have ended : ∀ t ∈ s.threads, t.place = .ended := by
    intro t member
    by_contra runs
    exact alive ⟨t, member, runs⟩
  have joins := waiting.2
  cases here : s.stop with
  | joinAccept =>
    by_cases last : s.accept = .ended
    · exact ⟨.stopStep, trivial, by simp [Server.step, Server.stopStep, here, last]⟩
    · exact h.accept_enabled here last
  | joinClients k =>
    refine ⟨.stopStep, trivial, ?_⟩
    cases there : s.threads[k]? with
    | some t => simp [Server.step, Server.stopStep, here, there, ended t (List.mem_of_getElem? there)]
    | none => simp [Server.step, Server.stopStep, here, there]
  | _ => simp [here, Stop.waits] at joins

end

/-! ### Where it gets stuck -/

/-- What is left of all of them. -/
def rank (s : Server) : Nat :=
  Runs.total (fun t => t.place.rank) s.threads + s.accept.rank + s.stop.rank s.threads.length

section
variable {s s' : Server} {e : Event} {t t' : Handler} {i : Nat} {garbage : PacketHeader} {keepAlive : Bool}

theorem Inv.rank_stop (h : Inv s) (taken : s.stopStep = some s') : s'.rank < s.rank := by
  obtain ⟨_, _, accept, stops, ⟨_, same, less⟩ | ⟨idle, none, _⟩⟩ := h.stopStep taken
  · simp only [rank, accept, same]
    omega
  · have left : 0 < s.stop.rank s.threads.length := by
      cases here : s.stop with
      | idle => exact absurd here stops
      | _ => simp [Stop.rank]
    simp only [rank, accept, none, idle, Runs.total, Stop.rank_idle]
    omega

theorem rank_accept (down : s.up = false) (taken : s.acceptStep keepAlive = some s') : s'.rank < s.rank := by
  obtain ⟨_, ⟨accept, rfl, less⟩ | ⟨socket, here, rfl⟩⟩ := acceptStep_some taken
  · have := less down
    simp only [rank]
    omega
  · have more : s.stop.rank (s.threads.length + 1) ≤ s.stop.rank s.threads.length + 1 := by
      cases s.stop <;> simp only [Stop.rank] <;> omega
    simp only [rank, here, Accept.rank, Runs.total_append, List.length_append, List.length_singleton]
    simp only [Runs.total, Place.rank]
    omega

theorem rank_handler (down : s.up = false) (taken : s.handlerStep i garbage false = some s') : s'.rank < s.rank := by
  obtain ⟨t, t', here, stepped, rfl⟩ := handlerStep_some taken
  rw [down] at stepped
  have less := Runs.total_set_lt (fun t : Handler => t.place.rank) here (Handler.rank_step stepped)
  simp only [rank, List.length_set]
  omega

/-- Once the server is down, wherever it can go on it has a step that brings it nearer to its end. -/
theorem Inv.rank_lower (h : Inv s) (down : s.up = false) (goes : ¬ Runs.Stuck Server.step Event.Own s) :
    ∃ e s', e.Own ∧ s.step e = some s' ∧ s'.rank < s.rank := by
  obtain ⟨e, own, enabled⟩ := Runs.not_stuck.1 goes
  obtain ⟨s', taken⟩ := Option.isSome_iff_exists.1 enabled
  cases e with
  | stopStep => exact ⟨.stopStep, s', own, taken, h.rank_stop taken⟩
  | acceptStep keepAlive => exact ⟨.acceptStep keepAlive, s', own, taken, rank_accept down taken⟩
  | handlerStep i garbage send =>
    obtain ⟨t, t', here, stepped, _⟩ := handlerStep_some taken
    obtain ⟨u, quick⟩ := Handler.step_quick stepped
    have taken' : s.handlerStep i garbage false = some { s with threads := s.threads.set i u } := by
      simp [handlerStep, here, quick]
    exact ⟨.handlerStep i garbage false, _, trivial, taken', rank_handler down taken'⟩
  | _ => exact own.elim

/-- A server that is stuck within `stop()` waits there for a thread. -/
theorem Inv.waiting (h : Inv s) (stops : s.stop ≠ .idle) (stuck : Runs.Stuck Server.step Event.Own s) : s.Waiting := by
  refine ⟨h.down stops, ?_⟩
  have blocked : s.stopStep = none := stuck .stopStep trivial
  cases here : s.stop with
  | idle => exact absurd here stops
  | closing => simp [Server.stopStep, here] at blocked
  | lock =>
    have ended := h.ended (by simp [here, Stop.past])
    simp [Server.stopStep, here, ended] at blocked
  | joinAccept => rfl
  | joinClients k => rfl

/-- A server within `stop()`, with a doomed thread. -/
structure Blocked (s : Server) : Prop where
  inv : Inv s
  stops : s.stop ≠ .idle
  doomed : ∃ t ∈ s.threads, t.Doomed

/-- A server that is down, and has none. -/
structure Unblocked (s : Server) : Prop where
  inv : Inv s
  down : s.up = false
  free : ∀ t ∈ s.threads, ¬ t.Doomed

theorem Blocked.step (h : Blocked s) (own : e.Own) (taken : s.step e = some s') : Blocked s' := by
  obtain ⟨stops, doomed⟩ := h.inv.own_doomed h.stops own taken h.doomed
  exact ⟨h.inv.step taken, stops, doomed⟩

theorem Unblocked.step (h : Unblocked s) (own : e.Own) (taken : s.step e = some s') : Unblocked s' :=
  ⟨h.inv.step taken, (h.inv.own_up own taken).trans h.down, h.inv.own_free h.down own taken h.free⟩

/-- **A doomed thread** keeps `stop()` from returning: the server's own steps lead to a state
in which it waits and can do nothing. -/
theorem Blocked.deadlock (h : Blocked s) :
    ∃ s', Runs.Alone Server.step Event.Own s s' ∧ s'.Waiting ∧ Runs.Stuck Server.step Event.Own s' := by
  have lower : ∀ s : Server, Blocked s → ¬ Runs.Stuck Server.step Event.Own s →
      ∃ e s', e.Own ∧ s.step e = some s' ∧ Blocked s' ∧ s'.rank < s.rank := by
    intro s h goes
    obtain ⟨e, s', own, taken, less⟩ := h.inv.rank_lower (h.inv.down h.stops) goes
    exact ⟨e, s', own, taken, h.step own taken, less⟩
  obtain ⟨s', alone, last, stuck⟩ := Runs.Alone.reaches_stuck lower h
  exact ⟨s', alone, last.inv.waiting last.stops stuck, stuck⟩

/-- **Where no thread is doomed** the server can bring `stop()` to its end alone. -/
theorem Unblocked.returns (h : Unblocked s) : ∃ s', Runs.Alone Server.step Event.Own s s' ∧ s'.stop = .idle := by
  have lower : ∀ s : Server, Unblocked s → ¬ Runs.Stuck Server.step Event.Own s →
      ∃ e s', e.Own ∧ s.step e = some s' ∧ Unblocked s' ∧ s'.rank < s.rank := by
    intro s h goes
    obtain ⟨e, s', own, taken, less⟩ := h.inv.rank_lower h.down goes
    exact ⟨e, s', own, taken, h.step own taken, less⟩
  obtain ⟨s', alone, last, stuck⟩ := Runs.Alone.reaches_stuck lower h
  refine ⟨s', alone, ?_⟩
  by_contra stops
  exact Runs.not_stuck.2 (last.inv.enabled (last.inv.waiting stops stuck) last.free) stuck

end

/-- **When `stop()` cannot be blocked.** For every state that is reached with `stop()` waiting for
a thread: in it, and in every such state that the server's own steps lead to from it, a step of
the server's own is enabled, if and only if no handler thread is doomed. -/
theorem stop_goes_on_iff {es : List Event} {s : Server} (run : Runs.exec step init es = some s)
    (waiting : s.Waiting) :
    (∀ s', Runs.Alone step Event.Own s s' → s'.Waiting → ∃ e : Event, e.Own ∧ (s'.step e).isSome) ↔
      ∀ t ∈ s.threads, ¬ t.Doomed := by
  have inv : Inv s := Runs.exec_invariant (fun _ _ _ h taken => h.step taken) inv_init run
  constructor
  · intro goes t member doomed
    have stops : s.stop ≠ .idle := by
      intro idle
      simp [Waiting, idle, Stop.waits] at waiting
    obtain ⟨s', alone, waits, stuck⟩ := (Blocked.mk inv stops ⟨t, member, doomed⟩).deadlock
    exact Runs.not_stuck.2 (goes s' alone waits) stuck
  · intro free s' alone waits
    have last : Unblocked s' :=
      Runs.Alone.invariant (fun _ _ _ h own taken => h.step own taken) (Unblocked.mk inv waiting.1 free) alone
    exact last.inv.enabled waits last.free

/-- One client connects, its thread comes to the header's `::recv`, and it closes its end; then
`stop()` is called. -/
def hungUp : List Event :=
  [.start, .acceptStep true, .connect [], .acceptStep true, .acceptStep true, .acceptStep true,
    .handlerStep 0 blank false, .handlerStep 0 blank false, .handlerStep 0 blank false, .leave 0 false,
    .stop, .stopStep]

theorem stop_goes_on_hungUp :
    ∃ s, Runs.exec step init hungUp = some s ∧ s.Waiting ∧ s.threads.length = 1 ∧
      ∃ e : Event, e.Own ∧ (s.step e).isSome := by
  let s : Server := ⟨false, false, .check, .joinAccept, [⟨⟨true, [], .closed⟩, .header blank⟩]⟩
  have run : Runs.exec step init hungUp = some s := by decide +kernel
  have free : ∀ t ∈ s.threads, ¬ t.Doomed := by
    intro t member doomed
    obtain rfl := List.mem_singleton.1 member
    cases doomed.2.1
  exact ⟨s, run, ⟨rfl, rfl⟩, rfl, (stop_goes_on_iff run ⟨rfl, rfl⟩).2 free s (.refl s) ⟨rfl, rfl⟩⟩

/-- One client is connected and sends nothing. -/
theorem idle_client_blocks :
    ¬ ∀ (es : List Event) (s : Server), Runs.exec step init es = some s → s.Waiting →
      ∃ e : Event, e.Own ∧ (s.step e).isSome := by
  intro right
  obtain ⟨e, own, enabled⟩ := right
    [.start, .acceptStep true, .connect [], .acceptStep true, .acceptStep true, .acceptStep true, .acceptStep true,
      .handlerStep 0 blank false, .handlerStep 0 blank false, .handlerStep 0 blank false,
      .stop, .stopStep, .acceptStep true, .acceptStep true, .stopStep, .stopStep]
    ⟨false, false, .ended, .joinClients 0, [⟨⟨true, [], .here⟩, .header blank⟩]⟩ (by decide +kernel) ⟨rfl, rfl⟩
  cases e with
  | stopStep => cases enabled
  | acceptStep keepAlive => cases enabled
  | handlerStep i garbage send =>
    cases i with
    | zero => cases enabled
    | succ i => cases enabled
  | _ => exact own

end Server

end Gologin.Shutdown
