import Gologin.Server.Sockets

/-!
# The list of clients

`client_handler` registers its `server_client` under the socket handle and erases what is
under the handle when it leaves, but the handle is given back to the operating system in
between. `registered_iff` says which steps cost an open connection its registration.
-/

namespace Gologin.Server
set_option autoImplicit false
open Calls Messages Auth Tcp Tables

/-- The handler is in its loop. -/
def Phase.Serving : Phase → Prop
  | .receiving => True
  | .handling _ => True
  | _ => False

/-- Every open connection that is served is found under its handle. -/
def Registered (s : State) : Prop :=
  ∀ (c : Nat) (conn : Conn), s.conns[c]? = some conn → conn.phase.Serving → Live s c →
    s.clientList.lookup conn.handle = some c

/-- The handler of an open connection finds nothing under its handle when it registers, and a
handler that leaves has the handle of no open connection that is served. -/
def Undisturbed (s : State) : Event → Prop
  | .emplace c => ∀ conn, s.conns[c]? = some conn → Live s c → conn.handle ∉ s.clientList
  | .erase c => ∀ conn, s.conns[c]? = some conn → ∀ d other, s.conns[d]? = some other →
    other.phase.Serving → Live s d → other.handle ≠ conn.handle
  | _ => True

/-- Who is listed has registered itself. -/
def Listed (s : State) : Prop :=
  ∀ handle c, s.clientList.lookup handle = some c → ∃ conn, s.conns[c]? = some conn ∧ conn.phase ≠ .started

/-- What is found under its handle is what `send_to` writes to. -/
theorem Registered.sendTo {s : State} (h : Registered s) (sockets : Sockets s) {c : Nat} {conn : Conn}
    (here : s.conns[c]? = some conn) (serving : conn.phase.Serving) (live : Live s c) (d : Nat) {packet : Packet}
    (full : createPacket packet.cmd packet.body ≠ []) :
    s.sendTo d ⟨conn.handle⟩ packet = (true, [.wrote d c (some c) packet]) :=
  sockets.sendTo (h c conn here serving live) live d full

section
variable {A : App} {s s' : State} {e : Event}

/-- A step that lists no one and sends no handler back keeps `Listed`. -/
theorem Listed.of_set (h : Listed s) {c : Nat} {new : Conn} (conns : s'.conns = s.conns.set c new)
    (here : ∃ old, s.conns[c]? = some old) (out : new.phase ≠ .started)
    (fewer : ∀ handle d, s'.clientList.lookup handle = some d → s.clientList.lookup handle = some d) :
    Listed s' := by
  obtain ⟨old, here⟩ := here
  intro handle d found
  rw [conns]
  by_cases same : d = c
  · subst same
    exact ⟨new, conns_set_self here new, out⟩
  · rw [List.getElem?_set_ne (Ne.symm same)]
    exact h handle d (fewer handle d found)

theorem Listed.of_append (h : Listed s) {new : Conn} (conns : s'.conns = s.conns ++ [new])
    (same : s'.clientList = s.clientList) : Listed s' := by
  intro handle d found
  obtain ⟨conn, there, out⟩ := h handle d (same ▸ found)
  rw [conns]
  exact ⟨conn, (List.getElem?_append_left (List.getElem?_eq_some_iff.1 there).1).trans there, out⟩

theorem listed_init (login pass : Str) : Listed (State.init login pass) := by
  intro handle c found
  rw [State.init, AList.lookup_empty] at found
  cases found

theorem registered_init (login pass : Str) : Registered (State.init login pass) :=
  fun _ _ (found : ([] : List Conn)[_]? = some _) => nomatch found

theorem listed_step (h : Listed s) (taken : step A s e = some s') : Listed s' := by
  cases step_cases taken with
  | accept fresh => exact h.of_append rfl rfl
  | refuse fresh => exact h.of_append rfl rfl
  | emplace here =>
    rename_i c handle socket
    intro key d found
    by_cases same : d = c
    · subst same
      exact ⟨⟨handle, socket, .receiving⟩, conns_set_self here _, nofun⟩
    · rcases lookup_emplace found with old | ⟨_, self, _⟩
      · obtain ⟨conn, there, out⟩ := h key d old
        exact ⟨conn, (List.getElem?_set_ne (Ne.symm same)).trans there, out⟩
      · exact absurd self same
  | packet here received => exact h.of_set rfl ⟨_, here⟩ nofun fun _ _ found => found
  | refused here received => exact h.of_set rfl ⟨_, here⟩ nofun fun _ _ found => found
  | call here => exact h.of_set rfl ⟨_, here⟩ nofun fun _ _ found => found
  | reply here => exact h.of_set rfl ⟨_, here⟩ nofun fun _ _ found => found
  | disconnect here => exact h.of_set rfl ⟨_, here⟩ nofun fun _ _ found => found
  | disconnected here => exact h.of_set rfl ⟨_, here⟩ nofun fun _ _ found => found
  | invalidate here => exact h.of_set rfl ⟨_, here⟩ nofun fun _ _ found => found
  | erase here => exact h.of_set rfl ⟨_, here⟩ nofun fun _ _ found => (lookup_erase_some found).2
  | destroy here => exact h.of_set rfl ⟨_, here⟩ nofun fun _ _ found => found
  | finish here => exact h.of_set rfl ⟨_, here⟩ nofun fun _ _ found => found

/-- A step of a handler that leaves the list alone keeps every registration. -/
theorem Registered.of_set (h : Registered s) {c handle : Nat} {socket socket' : Option Nat} {before after : Phase}
    (here : s.conns[c]? = some ⟨handle, socket, before⟩)
    (conns : s'.conns = s.conns.set c ⟨handle, socket', after⟩) (same : s'.clientList = s.clientList)
    (serving : after.Serving → before.Serving) (live : ∀ d, Live s' d → Live s d) : Registered s' := by
  intro d conn found serves open_
  rw [conns] at found
  rw [same]
  rcases conns_set found with ⟨rfl, rfl⟩ | ⟨_, there⟩
  · exact h d ⟨handle, socket, before⟩ here (serving serves) (live d open_)
  · exact h d conn there serves (live d open_)

/-- What a step must meet to keep every registration. -/
theorem registered_step (listed : Listed s) (h : Registered s) (taken : step A s e = some s') :
    Registered s' ↔ Undisturbed s e := by
  have live : ∀ d, d < s.conns.length → Live s' d → Live s d := by
    intro d old open_
    rcases live_step taken open_ with before | last
    · exact before
    · omega
  have inside : ∀ d conn, s.conns[d]? = some conn → d < s.conns.length :=
    fun d conn there => (List.getElem?_eq_some_iff.1 there).1
  cases step_cases taken with
  | accept fresh | refuse fresh =>
    refine iff_of_true (fun d conn found serves open_ => ?_) trivial
    rcases conns_append found with ⟨_, rfl⟩ | there
    · exact serves.elim
    · exact h d conn there serves (live d (inside d conn there) open_)
  | emplace here =>
    rename_i c handle socket
    constructor
    · rintro kept conn here' ⟨key, open_⟩ present
      cases here.symm.trans here'
      have mine := kept c ⟨handle, socket, .receiving⟩ (conns_set_self here _) trivial ⟨key, open_⟩
      rcases lookup_emplace mine with old | ⟨_, _, absent⟩
      · obtain ⟨conn, there, out⟩ := listed handle c old
        cases here.symm.trans there
        exact out rfl
      · exact absent present
    · intro undisturbed d conn found serves open_
      rcases conns_set found with ⟨rfl, rfl⟩ | ⟨_, there⟩
      · exact lookup_emplace_self (undisturbed ⟨_, _, .started⟩ here (live d (inside d _ here) open_))
      · exact lookup_emplace_keep (h d conn there serves (live d (inside d conn there) open_))
  | erase here =>
    rename_i c handle socket
    constructor
    · intro kept conn here' d other there serves open_ same
      cases here.symm.trans here'
      have apart : d ≠ c := by
        rintro rfl
        cases here.symm.trans there
        exact serves
      have found := kept d other ((List.getElem?_set_ne (Ne.symm apart)).trans there) serves open_
      rw [same] at found
      exact (lookup_erase_some found).1 rfl
    · intro undisturbed d conn found serves open_
      rcases conns_set found with ⟨_, rfl⟩ | ⟨_, there⟩
      · exact serves.elim
      · have open_' := live d (inside d conn there) open_
        rw [← h d conn there serves open_']
        exact lookup_erase_ne (undisturbed _ here d conn there serves open_')
  | packet here received => exact iff_of_true (h.of_set here rfl rfl (fun _ => trivial) fun _ open_ => open_) trivial
  | refused here received => exact iff_of_true (h.of_set here rfl rfl nofun fun _ open_ => open_) trivial
  | call here => exact iff_of_true (h.of_set here rfl rfl (fun _ => trivial) fun _ open_ => open_) trivial
  | reply here => exact iff_of_true (h.of_set here rfl rfl (fun _ => trivial) fun _ open_ => open_) trivial
  | disconnect here =>
    exact iff_of_true (h.of_set here rfl rfl nofun fun _ ⟨key, found⟩ => ⟨key, (lookup_erase_some found).2⟩) trivial
  | disconnected here => exact iff_of_true (h.of_set here rfl rfl nofun fun _ open_ => open_) trivial
  | invalidate here => exact iff_of_true (h.of_set here rfl rfl nofun fun _ open_ => open_) trivial
  | destroy here =>
    exact iff_of_true (h.of_set here rfl rfl nofun fun _ ⟨key, found⟩ => ⟨key, (lookup_erase_some found).2⟩) trivial
  | finish here => exact iff_of_true (h.of_set here rfl rfl nofun fun _ open_ => open_) trivial

/-- **Who stays registered.** Over a run of the server from its start, every open connection
that is served is found under its handle in every state, if and only if no handler of an
open connection registers over another's entry and none erases one. -/
theorem registered_iff {login pass : Str} {es : List Event} (run : Runs.exec (step A) (State.init login pass) es = some s) :
    Runs.Throughout (step A) Registered (State.init login pass) es ↔
      Runs.Along (step A) Undisturbed (State.init login pass) es := by
  exact Runs.throughout_iff_along (fun _ _ _ => listed_step) (fun _ _ _ => registered_step) (listed_init login pass)
    (registered_init login pass) run

end

/-- A connection drops, and the next one gets its handle when the drop is complete. -/
def succeeded : List Event :=
  [.accept 3 true, .emplace 0, .recv 0 blank [.closed], .disconnect 0, .invalidate 0, .erase 0, .finish 0,
    .accept 3 true, .emplace 1]

theorem registered_succeeded :
    ∃ s, Runs.exec (step App.compact) (State.init (str "login") (str "pass")) succeeded = some s ∧
      Runs.Throughout (step App.compact) Registered (State.init (str "login") (str "pass")) succeeded := by
  obtain ⟨s, run, _⟩ := Option.map_eq_some_iff.1
    (show (Runs.exec (step App.compact) (State.init (str "login") (str "pass")) succeeded).map
        (fun s => s.clientList.lookup 3) = some (some 1) by decide +kernel)
  refine ⟨s, run, (registered_iff run).2 ?_⟩
  refine ⟨trivial, fun s₁ accepted => ⟨?_, fun s₂ emplaced => ⟨trivial, fun s₃ received => ⟨trivial,
    fun s₄ closed => ⟨trivial, fun s₅ invalidated => ⟨?_, fun s₆ erased => ⟨trivial, fun s₇ finished => ⟨trivial,
      fun s₈ again => ⟨?_, fun _ _ => trivial⟩⟩⟩⟩⟩⟩⟩⟩⟩
  · cases accepted
    intro conn here _
    cases here
    decide
  · cases accepted; cases emplaced; cases received; cases closed; cases invalidated
    intro _ _ d other there serves
    cases List.mem_singleton.1 (List.mem_of_getElem? there)
    exact serves.elim
  · cases accepted; cases emplaced; cases received; cases closed; cases invalidated
    cases erased; cases finished; cases again
    intro conn here _
    cases here
    decide

/-- The same, with the next connection registered before the first has erased its entry. -/
def overtaken : List Event :=
  [.accept 3 true, .emplace 0, .recv 0 blank [.closed], .disconnect 0, .accept 3 true, .emplace 1, .invalidate 0,
    .erase 0, .finish 0]

/-- The second connection is open and served, and not in the list. -/
theorem unregistered_overtaken :
    ¬ ∀ (A : App) (login pass : Str) (es : List Event) (s : State),
      Runs.exec (step A) (State.init login pass) es = some s → Registered s := by
  intro registered
  obtain ⟨s, run, same⟩ := Option.map_eq_some_iff.1
    (show (Runs.exec (step App.compact) (State.init (str "login") (str "pass")) overtaken).map
        (fun s => (s.sockets.lookup 3, s.clientList.lookup 3,
          s.conns[1]?.map fun conn => (conn.handle, conn.phase.idle))) =
      some (some 1, none, some (3, true)) by decide +kernel)
  simp only [Prod.mk.injEq, Option.map_eq_some_iff] at same
  obtain ⟨open_, unlisted, conn, here, handle, receiving⟩ := same
  have serving : conn.phase.Serving := by
    rw [Phase.idle_iff.1 receiving]
    trivial
  have found := registered App.compact _ _ overtaken s run 1 conn here serving ⟨3, open_⟩
  rw [handle, unlisted] at found
  cases found

end Gologin.Server
