import Gologin.Client.Machine

/-!
# What no server can change

A client that is connected to anything at all: the packets it receives may come in any order,
with any command and any body. What the window always shows, and what the client sends on one
connection.
-/

namespace Gologin.Gui
set_option autoImplicit false
open Calls Messages Tcp

/-! ## The window -/

/-- The buttons and the input field belong together. -/
structure Frame.Paired (f : Frame) : Prop where
  connects : f.disconnectButton.shown = !f.connectButton.shown
  logs : f.logoutButton.shown = !f.loginButton.shown
  sends : f.sendButton.enabled = f.logoutButton.shown
  writes : f.inputField = f.sendButton.enabled

/-- No output handler takes them apart. -/
theorem Frame.Paired.output {f : Frame} (h : f.Paired) (act : UiAction) (st : UiStatus) (msg data : Str) :
    (f.output act st msg data).Paired := by
  obtain ⟨connects, logs, sends, writes⟩ := h
  cases act with
  | onLogin =>
    cases st with
    | success => exact ⟨connects, rfl, rfl, rfl⟩
    | failed | pending => exact ⟨connects, logs, sends, writes⟩
  | onLogout =>
    cases st with
    | success => exact ⟨connects, rfl, rfl, rfl⟩
    | failed | pending => exact ⟨connects, logs, sends, writes⟩
  | onConnect =>
    cases st with
    | success => exact ⟨rfl, logs, sends, writes⟩
    | failed | pending => exact ⟨connects, logs, sends, writes⟩
  | onDisconnect =>
    cases st with
    | success =>
      refine ⟨rfl, rfl, rfl, ?_⟩
      change (if f.sendButton.enabled = true then false else f.inputField) = false
      rw [writes]
      cases f.sendButton.enabled <;> rfl
    | failed | pending => exact ⟨connects, logs, sends, writes⟩
  | onSend | onRecv =>
    cases st with
    | _ => exact ⟨connects, logs, sends, writes⟩

/-- The buttons are paired; without a connection there is no socket, and connect alone can be
clicked. -/
structure Coherent (c : Client) : Prop where
  paired : c.frame.Paired
  down : c.status ≠ .connected → c.link = none ∧ c.frame.connectButton.Clickable ∧ c.frame.loginButton = ⟨true, false⟩

namespace Coherent

theorem up {c : Client} (paired : c.frame.Paired) (up : c.status = .connected) : Coherent c :=
  ⟨paired, fun down => absurd up down⟩

theorem output {c : Client} (paired : c.frame.Paired) (up : c.status = .connected) (act : UiAction) (st : UiStatus)
    (msg data : Str) : Coherent (c.output act st msg data) := .up (paired.output act st msg data) up

/-- What can be clicked on a connection only. -/
theorem connected {c : Client} (h : Coherent c)
    (clickable : c.frame.disconnectButton.Clickable ∨ c.frame.loginButton.Clickable ∨ c.frame.logoutButton.Clickable ∨
      c.frame.sendButton.Clickable) : c.status = .connected := by
  by_contra down
  obtain ⟨_, connect, login⟩ := h.down down
  have logout : c.frame.logoutButton.shown = false := by
    rw [h.paired.logs, login]
    rfl
  rcases clickable with click | click | click | click
  · rw [Button.Clickable, h.paired.connects, connect.1] at click
    cases click.1
  · rw [login] at click
    cases click.2
  · exact absurd (logout.symm.trans click.1) nofun
  · exact absurd (logout.symm.trans (h.paired.sends.symm.trans click.2)) nofun

end Coherent

section
variable {J : Nlohmann} {B : App J}

/-- No packet takes the buttons apart, whatever it is. -/
theorem paired_receive {c : Client} (h : c.frame.Paired) (packet : Packet) : (c.receive B packet).frame.Paired := by
  have keep : ∀ call d, d.frame.Paired → (Client.perform call d).2.frame.Paired := by
    intro call d paired
    cases call with
    | cookie | setSession => exact paired
    | output act st msg data => exact paired.output act st msg data
  exact Program.run_keeps keep _ h

/-- Every event keeps the window coherent. -/
theorem coherent_act {c c' : Client} {e : Event} {sent : List Packet} (h : Coherent c)
    (acted : act B c e = some (c', sent)) : Coherent c' := by
  cases act_cases acted with
  | report text => exact ⟨⟨h.paired.connects, h.paired.logs, h.paired.sends, h.paired.writes⟩, h.down⟩
  | unconnected before still text =>
    exact ⟨⟨h.paired.connects, h.paired.logs, h.paired.sends, h.paired.writes⟩, fun _ => h.down before⟩
  | unheard clickable up text =>
    rename_i result n _ _
    have paired := (connect_frame c result n).1.symm ▸ h.paired
    exact .up ⟨paired.connects, paired.logs, paired.sends, paired.writes⟩ up
  | hello clickable up packed =>
    rename_i result n _ _
    have paired := (connect_frame c result n).1.symm ▸ h.paired
    exact .up (paired.output .onConnect .pending (str "Connect...") []) up
  | disconnect clickable down =>
    have before := h.connected (Or.inl clickable)
    have parted : c.disconnect = { c with status := .disconnected, link := none } := if_pos before
    rw [parted]
    exact ⟨h.paired.output .onDisconnect .success _ [], fun _ => ⟨rfl, ⟨rfl, rfl⟩, rfl⟩⟩
  | login clickable packed => exact .output h.paired (h.connected (Or.inr (Or.inl clickable))) _ _ _ _
  | logout clickable packed => exact .output h.paired (h.connected (Or.inr (Or.inr (Or.inl clickable)))) _ _ _ _
  | send clickable packed => exact .output h.paired (h.connected (Or.inr (Or.inr (Or.inr clickable)))) _ _ _ _
  | receive up => exact .up (paired_receive h.paired _) ((receive_rest B _ c).1.trans up)

theorem coherent_init (id : UInt64) : Coherent (.init id) := ⟨⟨rfl, rfl, rfl, rfl⟩, fun _ => ⟨rfl, ⟨rfl, rfl⟩, rfl⟩⟩

/-- **The window is coherent whatever the server does.** In every state of a client exactly one
of connect and disconnect is shown, and exactly one of login and logout; messages can be typed
and sent just where logout is shown; and without a connection only connect can be clicked. A click
and a packet are each handled in one step here; the code handles them in two threads, whose calls
of the window may interleave. -/
theorem window_coherent {id : UInt64} {es : List Event} {c : Client}
    (run : Runs.exec (step B) (.init id) es = some c) : Coherent c := by
  refine Runs.exec_invariant (fun c e c' h taken => ?_) (coherent_init id) run
  obtain ⟨sent, acted⟩ := act_of_step taken
  exact coherent_act h acted

/-- A reply that says `ok` and nothing else. -/
def okReply (cmd : Str) : Packet := ⟨cmd, str "\x7b\"status\":\"ok\"\x7d"⟩

/-- A client that is told twice that it is logged in before it is greeted. -/
def misled : List Event :=
  [.connect (str "localhost:10500") .up 0 7 true, .receive (okReply Commands.authReply), .logout true,
    .receive (okReply Commands.authReply), .logout true, .receive (okReply Commands.helloReply),
    .login (str "login:pass") true]

/-- The window of that client. -/
theorem window_coherent_misled :
    ∃ c, Runs.exec (step App.compact) (.init 0) misled = some c ∧ c.frame.LoggedIn ∧ Coherent c := by
  obtain ⟨c, run, seen⟩ := Option.map_eq_some_iff.1
    (show (Runs.exec (step App.compact) (.init 0) misled).map (fun c => decide c.frame.LoggedIn) = some true by
      decide +kernel)
  exact ⟨c, run, of_decide_eq_true seen, window_coherent run⟩

end

/-! ## What a packet does not do -/

/-- The handlers of packets do not log out, and do not disconnect. -/
def Told : Call → Prop
  | .output act st _ _ => act ≠ .onDisconnect ∧ (act = .onLogout → st ≠ .success)
  | _ => True

/-- A program that makes such calls only. -/
def Telling {α : Type} : Handling α → Prop := Program.Always Told (fun _ _ => True) fun _ => True

theorem telling_done {α : Type} (a : α) : Telling (.done a) := trivial

theorem telling_bind {α β : Type} {p : Handling α} {f : α → Handling β} (first : Telling p) (rest : ∀ a, Telling (f a)) :
    Telling (p.bind f) := Program.Always.bind (fun a _ => rest a) first

section
variable (cookies : ClientCookies)

theorem telling_message (request : Server.MsgRequest) : Telling (serverMessagePacketHandler cookies request) :=
  ⟨trivial, fun _ _ => ⟨⟨nofun, nofun⟩, fun _ _ => trivial⟩⟩

theorem telling_messageReply (responce : Server.MsgResponse) : Telling (serverMessageReplyPacketHandler cookies responce) := by
  unfold serverMessageReplyPacketHandler
  split <;> exact ⟨⟨nofun, nofun⟩, fun _ _ => trivial⟩

theorem telling_helloReply (responce : Server.HelloResponse) : Telling (serverHelloReplyPacketHandler cookies responce) :=
  ⟨⟨nofun, nofun⟩, fun _ _ => trivial⟩

theorem telling_authReply (responce : Server.AuthResponse) : Telling (serverAuthReplyPacketHandler cookies responce) := by
  refine ⟨trivial, fun _ _ => ?_⟩
  change Telling (if responce.status = str "ok" then _ else _)
  split <;> exact ⟨⟨nofun, nofun⟩, fun _ _ => trivial⟩

theorem telling_byeReply (responce : Server.ByeResponse) : Telling (serverByeReplyPacketHandler cookies responce) := by
  unfold serverByeReplyPacketHandler
  split <;> exact ⟨⟨nofun, nofun⟩, fun _ _ => trivial⟩

theorem telling_pingReply (responce : Server.PingResponse) : Telling (serverPingReplyPacketHandler cookies responce) := by
  unfold serverPingReplyPacketHandler
  split <;> exact ⟨⟨nofun, nofun⟩, fun _ _ => trivial⟩

end

section
variable {J : Nlohmann}

theorem telling_wrapper3 {Req Resp : Type} [Message Req] [Messages.Reply Resp]
    {f : ClientCookies → Req → Handling (Option Resp)} (tells : ∀ cookies req, Telling (f cookies req)) (cmd : Str)
    (cookies : ClientCookies) (input : Buffer) : Telling (wrapper3 J f cmd cookies input) := by
  cases decoded : packerFrom J Req input with
  | none =>
    rw [wrapper3_of_undecoded decoded]
    exact telling_done _
  | some req =>
    rw [wrapper3_of_decoded decoded]
    exact telling_bind (tells cookies req) fun _ => telling_done _

theorem telling_wrapper2 {Req : Type} [Message Req] {f : ClientCookies → Req → Handling (Option Unit)}
    (tells : ∀ cookies req, Telling (f cookies req)) (cmd : Str) (cookies : ClientCookies) (input : Buffer) :
    Telling (wrapper2 J f cmd cookies input) := by
  unfold wrapper2
  cases packerFrom J Req input with
  | none => exact telling_done _
  | some req =>
    refine telling_bind (tells cookies req) fun result => ?_
    cases result with
    | none | some => exact telling_done _

variable (B : App J)

/-- Nor does `dispatch`, for any packet. -/
theorem telling_dispatch (cmd : Str) (cookies : ClientCookies) (input : Buffer) :
    Telling (dispatch B.hash B.handlers cmd cookies input) := by
  by_cases registered : ∃ item ∈ registrations J, B.hash cmd = B.hash item.1
  · obtain ⟨⟨cmd', wrapper⟩, member, same⟩ := registered
    have found := lookup_handleAll B.registered member
    rw [← same] at found
    rw [dispatch_of_lookup found]
    simp only [registrations, List.mem_cons, Prod.mk.injEq, List.not_mem_nil, or_false] at member
    rcases member with ⟨_, rfl⟩ | ⟨_, rfl⟩ | ⟨_, rfl⟩ | ⟨_, rfl⟩ | ⟨_, rfl⟩ | ⟨_, rfl⟩
    · exact telling_wrapper3 telling_message cmd cookies input
    · exact telling_wrapper2 telling_messageReply cmd cookies input
    · exact telling_wrapper2 telling_helloReply cmd cookies input
    · exact telling_wrapper2 telling_authReply cmd cookies input
    · exact telling_wrapper2 telling_byeReply cmd cookies input
    · exact telling_wrapper2 telling_pingReply cmd cookies input
  · push Not at registered
    rw [dispatch_of_none ((lookup_handleAll_ne B.registered registered).trans (AList.lookup_empty _))]
    exact telling_done _

/-- What the packets keep, if their output handlers do. -/
theorem receive_telling {I : Frame → Prop}
    (keep : ∀ f act st msg data, act ≠ .onDisconnect → (act = .onLogout → st ≠ .success) → I f →
      I (f.output act st msg data)) {c : Client} (start : I c.frame) (packet : Packet) :
    I (c.receive B packet).frame := by
  have kept : ∀ call (d : Client), Told call → I d.frame → I (Client.perform call d).2.frame := by
    intro call d told kept
    cases call with
    | cookie | setSession => exact kept
    | output act st msg data => exact keep d.frame act st msg data told.1 told.2 kept
  exact @Program.Always.run_keeps _ _ _ _ _ Client.perform (fun d => I d.frame) _ _ (telling_dispatch B _ _ _) kept _ start

/-- No packet shows connect again, nor enables it. -/
theorem connect_receive {c : Client} (away : ¬ c.frame.connectButton.Clickable) (packet : Packet) :
    ¬ (c.receive B packet).frame.connectButton.Clickable := by
  refine @receive_telling J B (fun f => ¬ f.connectButton.Clickable) (fun f act st msg data parts _ away => ?_) c away packet
  cases act with
  | onConnect =>
    cases st with
    | success => exact fun click => nomatch click.1
    | pending => exact fun click => nomatch click.2
    | failed => exact away
  | onDisconnect => exact absurd rfl parts
  | onLogin | onLogout | onSend | onRecv =>
    cases st with
    | _ => exact away

/-- No packet shows login again. -/
theorem login_receive {c : Client} (hidden : c.frame.loginButton.shown = false) (packet : Packet) :
    (c.receive B packet).frame.loginButton.shown = false := by
  refine @receive_telling J B (fun f => f.loginButton.shown = false) (fun f act st msg data parts outs hidden => ?_) c hidden packet
  cases act with
  | onLogout =>
    cases st with
    | success => exact absurd rfl (outs rfl)
    | failed | pending => exact hidden
  | onDisconnect => exact absurd rfl parts
  | onLogin =>
    cases st with
    | success => rfl
    | failed | pending => exact hidden
  | onConnect | onSend | onRecv =>
    cases st with
    | _ => exact hidden

/-! ## The requests of one connection -/

/-- The commands that a client has sent on the connection it is on: a client that is not
connected starts anew. -/
def onConnection (c : Client) (e : Event) (sent : List Str) : List Str :=
  match act B c e with
  | some (_, packets) => (if c.status = .connected then sent else []) ++ packets.map Packet.cmd
  | none => sent

end

/-- What a client may have sent on one connection: `greeted` tells whether a hello is among it,
and `inside` whether the last of its logins and logouts is a login. -/
inductive Proper : Bool → Bool → List Str → Prop where
  | nil : Proper false false []
  | hello {inside : Bool} {sent : List Str} (before : Proper false inside sent) :
      Proper true inside (sent ++ [Commands.hello])
  | login {greeted : Bool} {sent : List Str} (before : Proper greeted false sent) :
      Proper greeted true (sent ++ [Commands.auth])
  | logout {greeted inside : Bool} {sent : List Str} (before : Proper greeted inside sent) :
      Proper greeted false (sent ++ [Commands.bye])
  | message {greeted inside : Bool} {sent : List Str} (before : Proper greeted inside sent) :
      Proper greeted inside (sent ++ [Commands.msg])

/-- What the client has sent shows in its window. -/
structure Showing (sent : List Str) (c : Client) (greeted inside : Bool) : Prop where
  proper : Proper greeted inside sent
  connect : c.status = .connected → greeted = true → ¬ c.frame.connectButton.Clickable
  login : c.status = .connected → inside = true → c.frame.loginButton.shown = false

section
variable {J : Nlohmann} {B : App J}

/-- On a connection that is new nothing was sent. -/
theorem Showing.start {sent : List Str} {c : Client} {greeted inside : Bool} (h : Showing sent c greeted inside) :
    ∃ greeted inside, Proper greeted inside (if c.status = .connected then sent else []) ∧
      (greeted = true → ¬ c.frame.connectButton.Clickable) ∧ (inside = true → c.frame.loginButton.shown = false) := by
  by_cases up : c.status = .connected
  · rw [if_pos up]
    exact ⟨greeted, inside, h.proper, h.connect up, h.login up⟩
  · rw [if_neg up]
    exact ⟨false, false, .nil, nofun, nofun⟩

theorem showing_act {sent : List Str} {c c' : Client} {e : Event} {packets : List Packet} {greeted inside : Bool}
    (h : Showing sent c greeted inside) (acted : act B c e = some (c', packets)) :
    ∃ greeted inside, Showing (onConnection B c e sent) c' greeted inside := by
  obtain ⟨greeted, inside, proper, connect, login⟩ := h.start
  unfold onConnection
  rw [acted]
  dsimp only
  cases act_cases acted with
  | report text =>
    rw [List.map_nil, List.append_nil]
    exact ⟨greeted, inside, proper, fun _ => connect, fun _ => login⟩
  | unconnected before still text =>
    rw [List.map_nil, List.append_nil]
    exact ⟨greeted, inside, proper, fun up => absurd up still, fun up => absurd up still⟩
  | unheard clickable up text =>
    rename_i result n _ _
    obtain ⟨frame, _⟩ := connect_frame c result n
    rw [List.map_nil, List.append_nil]
    refine ⟨greeted, inside, proper, fun _ yes => absurd clickable (connect yes), fun _ yes => ?_⟩
    exact (congrArg (fun f => f.loginButton.shown) frame).trans (login yes)
  | hello clickable up packed =>
    rename_i result n _ _
    obtain ⟨frame, _⟩ := connect_frame c result n
    have first : greeted = false := by
      by_contra again
      exact connect (by simpa using again) clickable
    subst first
    refine ⟨true, inside, .hello proper, fun _ _ click => absurd click.2 nofun, fun _ yes => ?_⟩
    exact (congrArg (fun f => f.loginButton.shown) frame).trans (login yes)
  | disconnect clickable down =>
    rw [List.map_nil, List.append_nil]
    exact ⟨greeted, inside, proper, fun up => absurd (up.symm.trans down) nofun, fun up => absurd (up.symm.trans down) nofun⟩
  | login clickable packed =>
    have outside : inside = false := by
      by_contra again
      exact absurd (clickable.1.symm.trans (login (by simpa using again))) nofun
    subst outside
    exact ⟨greeted, true, .login proper, fun _ => connect, fun _ _ => rfl⟩
  | logout clickable packed => exact ⟨greeted, false, .logout proper, fun _ => connect, fun _ => nofun⟩
  | send clickable packed => exact ⟨greeted, inside, .message proper, fun _ => connect, fun _ => login⟩
  | receive up =>
    rw [List.map_nil, List.append_nil]
    exact ⟨greeted, inside, proper, fun _ yes => connect_receive B (connect yes) _,
      fun _ yes => login_receive B (login yes) _⟩

/-- **The requests of a connection, whatever the server does**: at most one hello, and between
two logins a logout. -/
theorem requests_proper {id : UInt64} {es : List Event} {c : Client}
    (run : Runs.exec (step B) (.init id) es = some c) :
    ∃ greeted inside, Proper greeted inside (Runs.trace (step B) (onConnection B) [] (.init id) es) := by
  have keep : ∀ sent c e c', (∃ greeted inside, Showing sent c greeted inside) → True → step B c e = some c' →
      ∃ greeted inside, Showing (onConnection B c e sent) c' greeted inside := by
    rintro sent c e c' ⟨greeted, inside, showing⟩ _ taken
    obtain ⟨packets, acted⟩ := act_of_step taken
    exact showing_act showing acted
  obtain ⟨greeted, inside, showing⟩ := Runs.trace_guarded keep ⟨false, false, .nil, nofun, nofun⟩
    (Runs.along_true _ _) run
  exact ⟨greeted, inside, showing.proper⟩

/-- The requests of a client that is told of logins it has not made. -/
theorem requests_proper_misled :
    ∃ greeted inside, Proper greeted inside [Commands.hello, Commands.bye, Commands.bye, Commands.auth] := by
  obtain ⟨c, run⟩ := Option.isSome_iff_exists.1
    (show (Runs.exec (step App.compact) (.init 0) misled).isSome = true by decide +kernel)
  have sent : Runs.trace (step App.compact) (onConnection App.compact) [] (.init 0) misled =
      [Commands.hello, Commands.bye, Commands.bye, Commands.auth] := by decide +kernel
  exact sent ▸ requests_proper run

end

end Gologin.Gui
