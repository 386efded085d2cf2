import Gologin.Core.Types

/-!
# The window of the client

`gui::frame` of `client/frame.cpp`: the buttons and fields, and what each output handler
does to them. The status bar and the output field hold text that nothing reads back; what
the user types into the other fields comes with a click.
-/

namespace Gologin.Gui
set_option autoImplicit false

/-- `ui_status`. -/
inductive UiStatus where
  | success
  | failed
  | pending
  deriving DecidableEq, Repr

/-- `ui_action`. -/
inductive UiAction where
  | onLogin
  | onLogout
  | onConnect
  | onDisconnect
  | onSend
  | onRecv
  deriving DecidableEq, Repr

/-- A button. -/
structure Button where
  shown : Bool := true
  enabled : Bool := true
  deriving DecidableEq, Repr

/-- The user can click a button that is shown and enabled. -/
def Button.Clickable (b : Button) : Prop := b.shown = true ∧ b.enabled = true

instance (b : Button) : Decidable b.Clickable := inferInstanceAs (Decidable (_ ∧ _))

/-- `frame`; of the fields, whether they are enabled. -/
structure Frame where
  connectButton : Button
  disconnectButton : Button
  loginButton : Button
  logoutButton : Button
  sendButton : Button
  addressField : Bool
  loginField : Bool
  inputField : Bool
  statusBar : Str
  outputField : Str
  deriving DecidableEq, Repr

namespace Frame

/-- `frame::load_ui`. -/
def loadUi : Frame where
  connectButton := {}
  disconnectButton := { shown := false }
  loginButton := { enabled := false }
  logoutButton := { shown := false }
  sendButton := { enabled := false }
  addressField := true
  loginField := false
  inputField := false
  statusBar := str "Not connected."
  outputField := []

def setStatusText (f : Frame) (text : Str) : Frame := { f with statusBar := text }

/-- `frame::on_connect`. -/
def onConnect (st : UiStatus) (msg : Str) (f : Frame) : Frame :=
  match st with
  | .success =>
    { f with
      disconnectButton.shown := true
      addressField := false
      loginButton.enabled := true
      loginField := if f.loginButton.enabled && f.logoutButton.enabled then f.loginField else true
      logoutButton.enabled := true
      connectButton.shown := false
      statusBar := msg }
  | .pending => { f with addressField := false, connectButton.enabled := false, statusBar := msg }
  | .failed => f.setStatusText msg

/-- `frame::on_disconnect`. -/
def onDisconnect (st : UiStatus) (msg : Str) (f : Frame) : Frame :=
  match st with
  | .success =>
    { f with
      connectButton := ⟨true, true⟩
      addressField := true
      disconnectButton.shown := false
      sendButton.enabled := false
      inputField := if f.sendButton.enabled then false else f.inputField
      loginButton := ⟨true, false⟩
      logoutButton.shown := false
      loginField := false
      statusBar := msg }
  | .pending => { f with disconnectButton.enabled := false, statusBar := msg }
  | .failed => f.setStatusText msg

/-- `frame::on_login`. -/
def onLogin (st : UiStatus) (msg : Str) (f : Frame) : Frame :=
  match st with
  | .success =>
    { f with
      logoutButton := ⟨true, true⟩
      loginField := false
      loginButton.shown := false
      sendButton.enabled := true
      inputField := true
      statusBar := msg }
  | .pending => { f with loginButton.enabled := false, statusBar := msg }
  | .failed => f.setStatusText msg

/-- `frame::on_logout`. -/
def onLogout (st : UiStatus) (msg : Str) (f : Frame) : Frame :=
  match st with
  | .success =>
    { f with
      loginButton.shown := true
      loginField := true
      logoutButton.shown := false
      sendButton.enabled := false
      inputField := false
      statusBar := msg }
  | .pending => { f with logoutButton.enabled := false, statusBar := msg }
  | .failed => f.setStatusText msg

/-- `frame::on_send`; the input field is cleared. -/
def onSend (st : UiStatus) (msg : Str) (f : Frame) : Frame :=
  if st = .pending then f.setStatusText msg else f

/-- `frame::on_recv`. -/
def onRecv (st : UiStatus) (msg data : Str) (f : Frame) : Frame :=
  if st = .success then { f with outputField := f.outputField ++ msg ++ str ": " ++ data ++ str "\n" } else f

/-- `app::output_handler`, by the handlers that `frame::output_hadnlers` registers. -/
def output (act : UiAction) (st : UiStatus) (msg data : Str) (f : Frame) : Frame :=
  match act with
  | .onLogin => f.onLogin st msg
  | .onLogout => f.onLogout st msg
  | .onConnect => f.onConnect st msg
  | .onDisconnect => f.onDisconnect st msg
  | .onSend => f.onSend st msg
  | .onRecv => f.onRecv st msg data

/-- The logged-in form: the login button is hidden and the send button enabled. -/
def LoggedIn (f : Frame) : Prop := f.loginButton.shown = false ∧ f.sendButton.enabled = true

instance (f : Frame) : Decidable f.LoggedIn := inferInstanceAs (Decidable (_ ∧ _))

end Frame

end Gologin.Gui
