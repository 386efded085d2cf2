import Gologin.Server.Machine

/-!
# Open sockets and the connections they belong to

What every run keeps of the handles: a handle that is open belongs to a connection whose
`m_socket` still has it. The converse is not kept: a `server_client` may have a handle that
is closed, or that the operating system has given to another connection since.
-/

namespace Gologin.Server
set_option autoImplicit false
open Tcp Tables

/-- The handler has made no `disconnect()` yet. -/
def Phase.Running : Phase → Prop
  | .started => True
  | .receiving => True
  | .handling _ => True
  | _ => False

/-- The accepted socket of the connection is open. -/
def Live (s : State) (c : Nat) : Prop := ∃ handle, s.sockets.lookup handle = some c

instance (s : State) (c : Nat) : Decidable (Live s c) :=
  decidable_of_iff (c ∈ values s.sockets) mem_values

/-- An open handle belongs to the connection whose `m_socket` it is; `m_socket` is the handle
that was accepted, at least as long as the handler runs. -/
structure Sockets (s : State) : Prop where
  held : ∀ handle c, s.sockets.lookup handle = some c →
    ∃ conn, s.conns[c]? = some conn ∧ conn.socket = some handle ∧ ∀ n, conn.phase ≠ .closing n
  own : ∀ (c : Nat) (conn : Conn) handle, s.conns[c]? = some conn → conn.socket = some handle → handle = conn.handle
  running : ∀ (c : Nat) (conn : Conn), s.conns[c]? = some conn → conn.phase.Running → conn.socket = some conn.handle

section
variable {A : App} {s s' : State} {e : Event}

theorem sockets_init (login pass : Str) : Sockets (State.init login pass) := by
  refine ⟨fun handle c found => ?_, nofun, nofun⟩
  rw [State.init, AList.lookup_empty] at found
  cases found

theorem Sockets.here (h : Sockets s) {c handle : Nat} {conn : Conn} (here : s.conns[c]? = some conn)
    (found : s.sockets.lookup handle = some c) : conn.socket = some handle ∧ ∀ n, conn.phase ≠ .closing n := by
  obtain ⟨conn', same, socket, open_⟩ := h.held handle c found
  rw [here, Option.some.injEq] at same
  subst same
  exact ⟨socket, open_⟩

/-- `send_to` writes on the accepted socket of an open connection that is listed. -/
theorem Sockets.sendTo (h : Sockets s) {d : Nat} {cookies : ClientCookies}
    (listed : s.clientList.lookup cookies.serverClientId = some d) (live : Live s d) (c : Nat) {packet : Packet}
    (full : createPacket packet.cmd packet.body ≠ []) :
    s.sendTo c cookies packet = (true, [.wrote c d (some d) packet]) := by
  obtain ⟨handle, open_⟩ := live
  obtain ⟨conn, here, socket, _⟩ := h.held handle d open_
  simp only [State.sendTo, listed, here, State.send, if_neg full, State.uses, socket, Option.bind_some, open_,
    Option.isSome_some]

/-- A step of one connection that opens nothing. -/
theorem Sockets.of_set (h : Sockets s) {c : Nat} {new : Conn} (conns : s'.conns = s.conns.set c new)
    (here : ∃ old, s.conns[c]? = some old)
    (fewer : ∀ handle d, s'.sockets.lookup handle = some d → s.sockets.lookup handle = some d)
    (stays : ∀ handle, s'.sockets.lookup handle = some c →
      new.socket = some handle ∧ ∀ n, new.phase ≠ .closing n)
    (own : ∀ handle, new.socket = some handle → handle = new.handle)
    (running : new.phase.Running → new.socket = some new.handle) : Sockets s' := by
  obtain ⟨old, here⟩ := here
  constructor
  · intro handle d found
    rw [conns]
    by_cases same : d = c
    · subst same
      exact ⟨new, conns_set_self here new, stays handle found⟩
    · rw [List.getElem?_set_ne (Ne.symm same)]
      exact h.held handle d (fewer handle d found)
  · intro d conn handle found socket
    rw [conns] at found
    rcases conns_set found with ⟨_, rfl⟩ | ⟨_, there⟩
    · exact own handle socket
    · exact h.own d conn handle there socket
  · intro d conn found still
    rw [conns] at found
    rcases conns_set found with ⟨_, rfl⟩ | ⟨_, there⟩
    · exact running still
    · exact h.running d conn there still

/-- A step of one connection that keeps its `m_socket`, all sockets, and stays out of
`disconnect()`. -/
theorem Sockets.of_keep (h : Sockets s) {c handle : Nat} {socket : Option Nat} {before after : Phase}
    (here : s.conns[c]? = some ⟨handle, socket, before⟩)
    (conns : s'.conns = s.conns.set c ⟨handle, socket, after⟩) (sockets : s'.sockets = s.sockets)
    (out : ∀ n, after ≠ .closing n) (running : after.Running → before.Running) : Sockets s' := by
  apply h.of_set conns ⟨_, here⟩
  · intro key d found
    exact sockets ▸ found
  · intro key found
    exact ⟨(h.here here (sockets ▸ found)).1, out⟩
  · intro key same
    exact h.own c ⟨handle, socket, before⟩ key here same
  · intro still
    exact h.running c ⟨handle, socket, before⟩ here (running still)

/-- A step of one connection that closes its handle. -/
theorem Sockets.of_close (h : Sockets s) {c handle socket : Nat} {before : Phase} {new : Conn}
    (here : s.conns[c]? = some ⟨handle, some socket, before⟩)
    (own : ∀ key, new.socket = some key → key = new.handle)
    (out : ¬ new.phase.Running) : Sockets ((s.close c socket).set c new) := by
  apply h.of_set rfl ⟨_, here⟩
  · intro key d found
    exact (lookup_erase_some found).2
  · intro key found
    obtain ⟨other, old⟩ := lookup_erase_some found
    exact absurd (Option.some.inj (h.here here old).1).symm other
  · exact own
  · exact fun still => absurd still out

/-- A step that accepts a connection, with its socket open or closed at once. -/
theorem Sockets.of_append (h : Sockets s) {handle : Nat} (conns : s'.conns = s.conns ++ [⟨handle, some handle, .started⟩])
    (opened : ∀ key d, s'.sockets.lookup key = some d →
      s.sockets.lookup key = some d ∨ key = handle ∧ d = s.conns.length) : Sockets s' := by
  constructor
  · intro key d found
    rw [conns]
    rcases opened key d found with old | ⟨rfl, rfl⟩
    · obtain ⟨conn, there, socket, open_⟩ := h.held key d old
      exact ⟨conn, List.getElem?_append_left (List.getElem?_eq_some_iff.1 there).1 ▸ there, socket, open_⟩
    · exact ⟨⟨key, some key, .started⟩, List.getElem?_concat_length, rfl, nofun⟩
  · intro d conn key found socket
    rw [conns] at found
    rcases conns_append found with ⟨_, rfl⟩ | old
    · exact (Option.some.inj socket).symm
    · exact h.own d conn key old socket
  · intro d conn found still
    rw [conns] at found
    rcases conns_append found with ⟨_, rfl⟩ | old
    · rfl
    · exact h.running d conn old still

/-- Every step keeps the sockets in order. -/
theorem sockets_step (h : Sockets s) (taken : step A s e = some s') : Sockets s' := by
  cases step_cases taken with
  | accept fresh =>
    rename_i handle
    apply h.of_append rfl
    intro key d found
    by_cases same : key = handle
    · subst same
      rw [AList.lookup_insert, Option.some.injEq] at found
      exact Or.inr ⟨rfl, found.symm⟩
    · rw [AList.lookup_insert_ne same] at found
      exact Or.inl found
  | refuse fresh =>
    apply h.of_append rfl
    exact fun key d found => Or.inl found
  | emplace here => exact h.of_keep here rfl rfl nofun fun _ => trivial
  | packet here received => exact h.of_keep here rfl rfl nofun fun _ => trivial
  | refused here received => exact h.of_keep here rfl rfl nofun nofun
  | call here => exact h.of_keep here rfl rfl nofun fun _ => trivial
  | reply here => exact h.of_keep here rfl rfl nofun fun _ => trivial
  | disconnect here =>
    exact h.of_close here (fun key same => h.own _ ⟨_, some _, .dropping _⟩ key here same) nofun
  | disconnected here => exact h.of_keep here rfl rfl nofun nofun
  | invalidate here =>
    apply h.of_set rfl ⟨_, here⟩
    · exact fun key d found => found
    · exact fun key found => absurd rfl ((h.here here found).2 _)
    · nofun
    · nofun
  | erase here => exact h.of_keep here rfl rfl nofun nofun
  | destroy here => exact h.of_close here nofun nofun
  | finish here =>
    apply h.of_set rfl ⟨_, here⟩
    · exact fun key d found => found
    · exact fun key found => absurd (h.here here found).1 nofun
    · nofun
    · nofun

/-- Every run keeps them so. -/
theorem sockets_run (h : Sockets s) {es : List Event} (run : Runs.exec (step A) s es = some s') : Sockets s' :=
  Runs.exec_invariant (fun _ _ _ => sockets_step) h run

/-- An accepted socket that is closed does not open again. -/
theorem live_step (taken : step A s e = some s') {c : Nat} (live : Live s' c) :
    Live s c ∨ c = s.conns.length := by
  obtain ⟨key, found⟩ := live
  cases step_cases taken with
  | accept fresh =>
    rename_i handle
    by_cases same : key = handle
    · subst same
      rw [AList.lookup_insert, Option.some.injEq] at found
      exact Or.inr found.symm
    · rw [AList.lookup_insert_ne same] at found
      exact Or.inl ⟨key, found⟩
  | disconnect here => exact Or.inl ⟨key, (lookup_erase_some found).2⟩
  | destroy here => exact Or.inl ⟨key, (lookup_erase_some found).2⟩
  | _ => exact Or.inl ⟨key, found⟩

/-- What a system call on `m_socket` of an open connection is on. -/
theorem Sockets.lookup_live (h : Sockets s) {c handle : Nat} {conn : Conn} (here : s.conns[c]? = some conn)
    (socket : conn.socket = some handle) (live : Live s c) : s.sockets.lookup handle = some c := by
  obtain ⟨key, found⟩ := live
  have same := (h.here here found).1
  rw [socket, Option.some.injEq] at same
  exact same ▸ found

/-! ## Sockets that stay with their connection -/

/-- A `server_client` with a handle has its own accepted socket under it, when none was closed
as soon as it was accepted. -/
def Held (s : State) : Prop :=
  ∀ (c : Nat) (conn : Conn) (handle : Nat), s.conns[c]? = some conn → conn.socket = some handle →
    (∀ n, conn.phase ≠ .closing n) → s.sockets.lookup handle = some c

theorem held_init (login pass : Str) : Held (State.init login pass) := nofun

/-- A step of one connection that keeps its `m_socket`, or drops it. -/
theorem Held.of_set (h : Held s) {c : Nat} {new : Conn} (conns : s'.conns = s.conns.set c new)
    (sockets : ∀ handle d, d ≠ c → s.sockets.lookup handle = some d → s'.sockets.lookup handle = some d)
    (own : ∀ handle, new.socket = some handle → (∀ n, new.phase ≠ .closing n) → s'.sockets.lookup handle = some c) :
    Held s' := by
  intro d conn handle found socket open_
  rw [conns] at found
  rcases conns_set found with ⟨rfl, rfl⟩ | ⟨other, there⟩
  · exact own handle socket open_
  · exact sockets handle d other (h d conn handle there socket open_)

theorem Held.of_keep (h : Held s) {c : Nat} {old new : Conn} (here : s.conns[c]? = some old)
    (conns : s'.conns = s.conns.set c new) (sockets : s'.sockets = s.sockets) (same : new.socket = old.socket)
    (open_ : ∀ n, old.phase ≠ .closing n) : Held s' := by
  apply h.of_set conns
  · intro handle d _ found
    exact sockets ▸ found
  · intro handle socket _
    rw [sockets]
    exact h c old handle here (same ▸ socket) open_

theorem Held.of_close (h : Held s) {c handle socket : Nat} {before : Phase} {new : Conn}
    (here : s.conns[c]? = some ⟨handle, some socket, before⟩) (open_ : ∀ n, before ≠ .closing n)
    (out : new.socket = none ∨ ∃ n, new.phase = .closing n) : Held ((s.close c socket).set c new) := by
  apply @Held.of_set _ ((s.close c socket).set c new) h c new rfl
  · intro key d other found
    have apart : key ≠ socket := by
      rintro rfl
      exact other (Option.some.inj (found.symm.trans (h c _ key here rfl open_)))
    exact (AList.lookup_erase_ne apart).trans found
  · intro key same still
    rcases out with none | ⟨n, closing⟩
    · cases none.symm.trans same
    · exact absurd closing (still n)

/-- Every step keeps the sockets with their connections, but an `accept` that closes. -/
theorem held_step (h : Held s) (taken : step A s e = some s') (alive : ∀ handle, e ≠ .accept handle false) :
    Held s' := by
  cases step_cases taken with
  | accept fresh =>
    rename_i handle
    intro c conn key found socket open_
    rcases conns_append found with ⟨rfl, rfl⟩ | old
    · cases socket
      exact AList.lookup_insert _
    · have before := h c conn key old socket open_
      have apart : key ≠ handle := by
        rintro rfl
        exact fresh (mem_of_lookup before)
      exact (AList.lookup_insert_ne apart).trans before
  | refuse fresh => exact absurd rfl (alive _)
  | emplace here | packet here | refused here | call here | reply here | erase here =>
    exact h.of_keep here rfl rfl rfl nofun
  | disconnect here => exact h.of_close here nofun (Or.inr ⟨_, rfl⟩)
  | disconnected here => exact h.of_keep here rfl rfl rfl nofun
  | invalidate here =>
    apply h.of_set rfl
    · exact fun _ _ _ found => found
    · nofun
  | destroy here => exact h.of_close here nofun (Or.inl rfl)
  | finish here => exact h.of_keep here rfl rfl rfl nofun

/-- A reply goes out on the connection's own socket. -/
theorem Held.reply (h : Held s) (sockets : Sockets s) {c handle : Nat} {socket : Option Nat} {packet : Packet}
    (here : s.conns[c]? = some ⟨handle, socket, .handling (.done packet)⟩) :
    (s.send ⟨handle, socket, .handling (.done packet)⟩ packet fun on => .replied c on packet).2 =
      if createPacket packet.cmd packet.body = [] then [] else [.replied c (some c) packet] := by
  have open_ : socket = some handle := sockets.running c _ here trivial
  subst open_
  have own : s.sockets.lookup handle = some c := h c _ handle here rfl nofun
  unfold State.send
  split
  · rfl
  · simp only [State.uses, own]

end

end Gologin.Server
