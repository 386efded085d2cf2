import Gologin.Lib.Runs
import Gologin.Client.Receive

/-!
# The client at work

What happens to a running client, one callback of the frame or one packet after the other.
A click is possible on a button that is shown and enabled. What the user types, the id that
is drawn and what the system answers come with the click.
-/

namespace Gologin.Gui
set_option autoImplicit false
open Calls Messages Tcp

/-- What happens to a client. -/
inductive Event where
  | connect (address : Str) (result : Client.ConnectResult) (n : Nat) (clientId : UInt64) (sent : Bool)
  | disconnect
  | login (userpass : Str) (sent : Bool)
  | logout (sent : Bool)
  | send (msg : Str) (sent : Bool)
  | receive (packet : Packet)
  deriving DecidableEq, Repr

namespace Client

def setStatusText (c : Client) (text : Str) : Client := { c with frame := c.frame.setStatusText text }

/-- The click handler `frame::on_connect`. -/
def onConnect (J : Nlohmann) (c : Client) (address : Str) (result : ConnectResult) (n : Nat) (clientId : UInt64)
    (sent : Bool) : Client × List Packet :=
  if address = [] then (c.setStatusText (str "Invalid server address."), [])
  else c.onConnectFrameCallback J result n clientId sent

/-- The click handler `frame::on_login`. -/
def onLogin (J : Nlohmann) (c : Client) (userpass : Str) (sent : Bool) : Client × List Packet :=
  if userpass = [] then (c.setStatusText (str "Invalid login or password."), [])
  else c.onLoginFrameCallback J userpass sent

/-- The click handler `frame::on_send`. -/
def onSend (J : Nlohmann) (c : Client) (msg : Str) (sent : Bool) : Client × List Packet :=
  if msg = [] then (c.setStatusText (str "Invalid message."), [])
  else c.onSendFrameCallback J msg sent

end Client

section
variable {J : Nlohmann} (B : App J)

/-- The client after an event, and the packets it has sent. -/
def act (c : Client) : Event → Option (Client × List Packet)
  | .connect address result n clientId sent =>
    if c.frame.connectButton.Clickable ∧ clientId ≠ 0 then some (c.onConnect J address result n clientId sent)
    else none
  | .disconnect =>
    if c.frame.disconnectButton.Clickable then some (c.onDisconnectFrameCallback, []) else none
  | .login userpass sent =>
    if c.frame.loginButton.Clickable then some (c.onLogin J userpass sent) else none
  | .logout sent =>
    if c.frame.logoutButton.Clickable then some (c.onLogoutFrameCallback J sent) else none
  | .send msg sent =>
    if c.frame.sendButton.Clickable then some (c.onSend J msg sent) else none
  | .receive packet =>
    -- the loop of the thread sends nothing back
    if c.status = .connected then some (c.receive B packet, []) else none

/-- The client after an event. -/
def step (c : Client) (e : Event) : Option Client := (act B c e).map Prod.fst

end

/-! ## What an event does -/

/-- A callback packs and sends its request and reports so, or it fails and sends nothing. -/
theorem Client.request_cases {J : Nlohmann} {M : Type} [Message M] (c : Client) (sent : Bool) (cmd : Str) (m : M)
    (act : UiAction) (st : UiStatus) (msg failure : Str) :
    c.request J sent cmd m act st msg failure = (c, []) ∨
      c.request J sent cmd m act st msg failure = (c.output act .failed failure [], []) ∨
      sent = true ∧ ∃ buff, packerTo J m = some buff ∧ createPacket cmd buff ≠ [] ∧
        c.request J sent cmd m act st msg failure = (c.output act st msg [], [⟨cmd, buff⟩]) := by
  unfold request
  cases packed : packerTo J m with
  | none => exact Or.inl rfl
  | some buff =>
    refine Or.inr ?_
    unfold send
    by_cases fails : createPacket cmd buff = [] ∨ sent = false
    · left
      simp only [if_pos fails]
    · right
      obtain ⟨full, up⟩ := not_or.1 fails
      refine ⟨by simpa using up, buff, rfl, full, ?_⟩
      simp only [if_neg fails]

section
variable {J : Nlohmann} {B : App J}

theorem act_of_step {c c' : Client} {e : Event} (taken : step B c e = some c') :
    ∃ sent, act B c e = some (c', sent) := by
  obtain ⟨⟨d, sent⟩, acted, same⟩ := Option.map_eq_some_iff.1 taken
  exact ⟨sent, same ▸ acted⟩

/-- The requests of a client. -/
def helloRequest (clientId : UInt64) : Client.HelloRequest := { command := Commands.hello, id := clientId }

def loginRequest (c : Client) (userpass : Str) : Client.AuthRequest :=
  { command := Commands.auth, id := c.cookie.clientId, login := (Client.splitColon userpass).1,
    password := (Client.splitColon userpass).2 }

def logoutRequest (c : Client) : Client.ByeRequest :=
  { command := Commands.bye, id := c.cookie.clientId, session := c.cookie.clientSession }

def messageRequest (c : Client) (msg : Str) : Client.MsgRequest :=
  { command := Commands.msg, id := c.cookie.clientId, session := c.cookie.clientSession, body := msg }

/-- What an event does, one constructor for each way it can go. -/
inductive Act (B : App J) (c : Client) : Event → Client → List Packet → Prop where
  /-- Nothing but a text in the status bar. -/
  | report {e : Event} (text : Str) : Act B c e (c.setStatusText text) []
  | unconnected {address : Str} {result : Client.ConnectResult} {n : Nat} {clientId : UInt64} {sent : Bool}
      {status : TcpStatus} (down : c.status ≠ .connected) (still : status ≠ .connected) (text : Str) :
      Act B c (.connect address result n clientId sent)
        ({ c with status := status }.setStatusText text) []
  | unheard {address : Str} {result : Client.ConnectResult} {n : Nat} {clientId : UInt64} {sent : Bool}
      (clickable : c.frame.connectButton.Clickable) (up : (c.connect result n).status = .connected) (text : Str) :
      Act B c (.connect address result n clientId sent)
        ({ c.connect result n with cookie.clientId := clientId }.setStatusText text) []
  | hello {address : Str} {result : Client.ConnectResult} {n : Nat} {clientId : UInt64} {buff : Buffer}
      (clickable : c.frame.connectButton.Clickable) (up : (c.connect result n).status = .connected)
      (packed : packerTo J (helloRequest clientId) = some buff) :
      Act B c (.connect address result n clientId true)
        ({ c.connect result n with cookie.clientId := clientId }.output .onConnect .pending (str "Connect...") [])
        [⟨Commands.hello, buff⟩]
  | disconnect (clickable : c.frame.disconnectButton.Clickable) (down : c.disconnect.status = .disconnected) :
      Act B c .disconnect (c.disconnect.output .onDisconnect .success (str "Disconnected.") []) []
  | login {userpass : Str} {buff : Buffer} (clickable : c.frame.loginButton.Clickable)
      (packed : packerTo J (loginRequest c userpass) = some buff) :
      Act B c (.login userpass true) (c.output .onLogin .success (str "Login...") []) [⟨Commands.auth, buff⟩]
  | logout {buff : Buffer} (clickable : c.frame.logoutButton.Clickable)
      (packed : packerTo J (logoutRequest c) = some buff) :
      Act B c (.logout true) (c.output .onLogout .success (str "Logout...") []) [⟨Commands.bye, buff⟩]
  | send {msg : Str} {buff : Buffer} (clickable : c.frame.sendButton.Clickable)
      (packed : packerTo J (messageRequest c msg) = some buff) :
      Act B c (.send msg true) (c.output .onSend .pending (str "Mesaging...") []) [⟨Commands.msg, buff⟩]
  | receive {packet : Packet} (up : c.status = .connected) : Act B c (.receive packet) (c.receive B packet) []

theorem connect_frame (c : Client) (result : Client.ConnectResult) (n : Nat) :
    (c.connect result n).frame = c.frame ∧ (c.connect result n).cookie = c.cookie := by
  unfold Client.connect
  split
  · exact ⟨rfl, rfl⟩
  · cases result <;> exact ⟨rfl, rfl⟩

/-- A `connect` that fails leaves the socket it had. -/
theorem connect_down {c : Client} {result : Client.ConnectResult} {n : Nat}
    (down : (c.connect result n).status ≠ .connected) :
    c.status ≠ .connected ∧ c.connect result n = { c with status := (c.connect result n).status } := by
  unfold Client.connect at down ⊢
  split at down
  · rename_i up
    exact absurd up down
  · rename_i before
    rw [if_neg before]
    refine ⟨before, ?_⟩
    cases result with
    | initError => rfl
    | connectError => rfl
    | unresolved => exact absurd rfl down
    | up => exact absurd rfl down

/-- A `disconnect` that fails leaves everything as it was. -/
theorem disconnect_up {c : Client} (up : c.disconnect.status ≠ .disconnected) : c.disconnect = c := by
  unfold Client.disconnect at up ⊢
  split at up
  · exact absurd rfl up
  · rename_i before
    exact if_neg before

/-- What a click on connect does. -/
theorem act_connect {c c' : Client} {address : Str} {result : Client.ConnectResult} {n : Nat} {clientId : UInt64}
    {up : Bool} {sent : List Packet} (clickable : c.frame.connectButton.Clickable)
    (taken : c.onConnect J address result n clientId up = (c', sent)) :
    Act B c (.connect address result n clientId up) c' sent := by
  unfold Client.onConnect at taken
  split at taken
  · cases taken
    exact .report _
  unfold Client.onConnectFrameCallback at taken
  by_cases down : (c.connect result n).status ≠ .connected
  · simp only [if_pos down, Prod.mk.injEq] at taken
    obtain ⟨rfl, rfl⟩ := taken
    obtain ⟨before, same⟩ := connect_down down
    rw [same]
    exact .unconnected before down _
  · have connected := Decidable.not_not.1 down
    simp only [if_neg down] at taken
    rcases Client.request_cases { c.connect result n with cookie.clientId := clientId } up Commands.hello
      (helloRequest clientId) .onConnect .pending (str "Connect...") (str "Connect failed.") with
      same | same | ⟨rfl, buff, packed, _, same⟩
    · cases same.symm.trans taken
      exact .unheard clickable connected _
    · cases same.symm.trans taken
      exact .unheard clickable connected _
    · cases same.symm.trans taken
      exact .hello clickable connected packed

/-- What a click on disconnect does. -/
theorem act_disconnect {c : Client} (clickable : c.frame.disconnectButton.Clickable) :
    Act B c .disconnect c.onDisconnectFrameCallback [] := by
  unfold Client.onDisconnectFrameCallback
  by_cases down : c.disconnect.status = .disconnected
  · simp only [if_pos down]
    exact .disconnect clickable down
  · simp only [if_neg down]
    rw [disconnect_up down]
    exact .report _

/-- **What an event does.** -/
theorem act_cases {c c' : Client} {e : Event} {sent : List Packet} (taken : act B c e = some (c', sent)) :
    Act B c e c' sent := by
  cases e with
  | connect address result n clientId up =>
    simp only [act] at taken
    split at taken
    · rename_i clickable
      exact act_connect clickable.1 (Option.some.inj taken)
    · cases taken
  | disconnect =>
    simp only [act] at taken
    split at taken
    · rename_i clickable
      cases taken
      exact act_disconnect clickable
    · cases taken
  | login userpass up =>
    simp only [act] at taken
    split at taken
    · rename_i clickable
      unfold Client.onLogin at taken
      split at taken
      · cases taken
        exact .report _
      unfold Client.onLoginFrameCallback at taken
      dsimp only at taken
      split at taken
      · cases taken
        exact .report _
      rcases Client.request_cases c up Commands.auth (loginRequest c userpass) .onLogin .success (str "Login...")
        (str "Login failed.") with same | same | ⟨rfl, buff, packed, _, same⟩
      · cases same.symm.trans (Option.some.inj taken)
        exact .report c.frame.statusBar
      · cases same.symm.trans (Option.some.inj taken)
        exact .report _
      · cases same.symm.trans (Option.some.inj taken)
        exact .login clickable packed
    · cases taken
  | logout up =>
    simp only [act] at taken
    split at taken
    · rename_i clickable
      rcases Client.request_cases c up Commands.bye (logoutRequest c) .onLogout .success (str "Logout...")
        (str "Logout failed.") with same | same | ⟨rfl, buff, packed, _, same⟩
      · cases same.symm.trans (Option.some.inj taken)
        exact .report c.frame.statusBar
      · cases same.symm.trans (Option.some.inj taken)
        exact .report _
      · cases same.symm.trans (Option.some.inj taken)
        exact .logout clickable packed
    · cases taken
  | send msg up =>
    simp only [act] at taken
    split at taken
    · rename_i clickable
      unfold Client.onSend at taken
      split at taken
      · cases taken
        exact .report _
      rcases Client.request_cases c up Commands.msg (messageRequest c msg) .onSend .pending (str "Mesaging...")
        (str "Mesaging failed.") with same | same | ⟨rfl, buff, packed, _, same⟩
      · cases same.symm.trans (Option.some.inj taken)
        exact .report c.frame.statusBar
      · cases same.symm.trans (Option.some.inj taken)
        exact .report c.frame.statusBar
      · cases same.symm.trans (Option.some.inj taken)
        exact .send clickable packed
    · cases taken
  | receive packet =>
    simp only [act] at taken
    split at taken
    · rename_i up
      cases taken
      exact .receive up
    · cases taken

end

end Gologin.Gui
