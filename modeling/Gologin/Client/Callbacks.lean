import Gologin.Client.Machine

/-!
# The callbacks and their exceptions

The callbacks of the frame run outside the `try` of the dispatcher. When what the user typed is
not UTF-8, `packer::to` throws, and the exception leaves the callback before anything is sent
or told to the window.
-/

namespace Gologin.Gui
set_option autoImplicit false
open Calls Messages Tcp Tables

/-! ## The session of a client is text -/

/-- A packet handler stores nothing but text. -/
def CallText : Call → Prop
  | .setSession session => Utf8.valid session = true
  | _ => True

/-- What holds of the program of a handler. -/
def StoresText {α : Type} (program : Handling α) : Prop :=
  Program.Always CallText (fun _ _ => True) (fun _ => True) program

section
variable {J : Nlohmann} {Req Resp : Type} [Message Req]

theorem wrapper2_text {f : ClientCookies → Req → Handling (Option Unit)}
    (text : ∀ cookies req, TextUtf8 req → StoresText (f cookies req)) (cmd : Str) (cookies : ClientCookies)
    (input : Buffer) : StoresText (wrapper2 J f cmd cookies input) := by
  unfold wrapper2
  cases decoded : packerFrom J Req input with
  | none => trivial
  | some req =>
    apply Program.Always.bind _ (text cookies req (utf8_packerFrom J decoded))
    rintro (_ | _) _ <;> trivial

theorem wrapper3_text [Reply Resp] {f : ClientCookies → Req → Handling (Option Resp)}
    (text : ∀ cookies req, TextUtf8 req → StoresText (f cookies req)) (cmd : Str) (cookies : ClientCookies)
    (input : Buffer) : StoresText (wrapper3 J f cmd cookies input) := by
  cases decoded : packerFrom J Req input with
  | none =>
    rw [wrapper3_of_undecoded decoded]
    trivial
  | some req =>
    rw [wrapper3_of_decoded decoded]
    apply Program.Always.bind _ (text cookies req (utf8_packerFrom J decoded))
    intro resp _
    trivial

theorem registrations_text : ∀ item ∈ registrations J, ∀ cmd cookies input, StoresText (item.2 cmd cookies input) := by
  simp only [registrations, List.forall_mem_cons]
  refine ⟨wrapper3_text ?_, wrapper2_text ?_, wrapper2_text ?_, wrapper2_text ?_, wrapper2_text ?_,
    wrapper2_text ?_, List.forall_mem_nil _⟩
  · exact fun _ req _ => ⟨trivial, fun m _ => ⟨trivial, fun _ _ => trivial⟩⟩
  · intro _ responce _
    unfold serverMessageReplyPacketHandler
    split <;> exact ⟨trivial, fun _ _ => trivial⟩
  · exact fun _ _ _ => ⟨trivial, fun _ _ => trivial⟩
  · intro _ responce text
    obtain ⟨_, _, _, session, _⟩ := text
    refine ⟨session, fun _ _ => ?_⟩
    change StoresText (if responce.status = str "ok" then _ else _)
    split <;> exact ⟨trivial, fun _ _ => trivial⟩
  · intro _ responce _
    unfold serverByeReplyPacketHandler
    split <;> exact ⟨trivial, fun _ _ => trivial⟩
  · intro _ responce _
    unfold serverPingReplyPacketHandler
    split <;> exact ⟨trivial, fun _ _ => trivial⟩

variable {B : App J}

theorem App.dispatch_text (cmd : Str) (cookies : ClientCookies) (input : Buffer) :
    StoresText (dispatch B.hash B.handlers cmd cookies input) := by
  by_cases known : ∃ item ∈ registrations J, B.hash cmd = B.hash item.1
  · obtain ⟨item, member, same⟩ := known
    rw [dispatch_of_lookup (same ▸ lookup_handleAll B.registered member)]
    exact registrations_text item member cmd cookies input
  · push Not at known
    have absent : B.handlers.lookup (B.hash cmd) = none := by
      rw [lookup_handleAll_ne B.registered known, AList.lookup_empty]
    rw [dispatch_of_none absent]
    trivial

/-- A program that stores text keeps the session text. -/
theorem run_text {α : Type} {program : Handling α} (text : StoresText program) {c : Client}
    (session : Utf8.valid c.cookie.clientSession = true) :
    Utf8.valid (program.run Client.perform c).2.cookie.clientSession = true := by
  induction program generalizing c with
  | done a => exact session
  | call call next ih =>
    apply ih _ (text.2 _ trivial)
    cases call with
    | cookie | output => exact session
    | setSession stored => exact text.1

theorem session_step {c c' : Client} {e : Event} (session : Utf8.valid c.cookie.clientSession = true)
    (taken : step B c e = some c') : Utf8.valid c'.cookie.clientSession = true := by
  obtain ⟨sent, acted⟩ := act_of_step taken
  cases act_cases acted with
  | report | unconnected => exact session
  | unheard clickable up text | hello clickable up text =>
    rename_i _ result n clientId _
    change Utf8.valid (c.connect result n).cookie.clientSession = true
    rw [(connect_frame c result n).2]
    exact session
  | disconnect clickable down =>
    have same : c.disconnect.cookie = c.cookie := by
      unfold Client.disconnect
      split <;> rfl
    change Utf8.valid c.disconnect.cookie.clientSession = true
    rw [same]
    exact session
  | login | logout | send => exact session
  | receive up => exact run_text (App.dispatch_text _ _ _) session

end

/-! ## The callbacks -/

/-- What a callback that returns leaves: the client, the packets sent and what it told the
window. -/
structure Done where
  client : Client
  packets : List Packet
  reports : List (UiAction × UiStatus × Str)
  deriving DecidableEq, Repr

namespace Client

/-- `Client.request`, where `none` is an exception of `packer::to`. -/
def attempt {M : Type} [Message M] (J : Nlohmann) (c : Client) (sent : Bool) (cmd : Str) (m : M)
    (act : UiAction) (st : UiStatus) (msg failure : Str) : Option Done :=
  (packerTo J m).map fun buff =>
    match send sent cmd buff with
    | (true, packets) => ⟨c.output act st msg [], packets, [(act, st, msg)]⟩
    | (false, packets) => ⟨c.output act .failed failure [], packets, [(act, .failed, failure)]⟩

/-- `app::on_login_frame_callback`, with what leaves it. -/
def loginCallback (J : Nlohmann) (c : Client) (data : Str) (sent : Bool) : Option Done :=
  let (login, pass) := splitColon data
  if login = [] ∨ pass = [] then
    some ⟨c.output .onLogin .failed (str "Invalid user or pass.") [], [],
      [(.onLogin, .failed, str "Invalid user or pass.")]⟩
  else
    c.attempt J sent Commands.auth
      ({ command := Commands.auth, id := c.cookie.clientId, login := login, password := pass } : Client.AuthRequest)
      .onLogin .success (str "Login...") (str "Login failed.")

/-- `app::on_send_frame_callback`, with what leaves it. -/
def sendCallback (J : Nlohmann) (c : Client) (data : Str) (sent : Bool) : Option Done :=
  c.attempt J sent Commands.msg
    ({ command := Commands.msg, id := c.cookie.clientId, session := c.cookie.clientSession, body := data } :
      Client.MsgRequest)
    .onSend .pending (str "Mesaging...") (str "Mesaging failed.")

end Client

/-- The client and the packets after a callback, which an exception leaves as they were. -/
def Done.after (c : Client) (done : Option Done) : Client × List Packet :=
  (done.map fun d => (d.client, d.packets)).getD (c, [])

/-- A callback returns, and it has sent one packet that carries what was typed, or told the window
that it failed. -/
def Answered (carries : Packet → Prop) (done : Option Done) : Prop :=
  ∃ d ∈ done, (∃ packet, d.packets = [packet] ∧ carries packet) ∨ ∃ act msg, (act, .failed, msg) ∈ d.reports

/-- A login whose login and password are those of the text. -/
def CarriesLogin (J : Nlohmann) (data : Str) (packet : Packet) : Prop :=
  ∃ m, packerFrom J Client.AuthRequest packet.body = some m ∧ m.login ++ 58 :: m.password = data

/-- A message with the text. -/
def CarriesText (J : Nlohmann) (data : Str) (packet : Packet) : Prop :=
  ∃ m, packerFrom J Client.MsgRequest packet.body = some m ∧ m.body = data

section
variable {J : Nlohmann} (c : Client) (data : Str) (sent : Bool)

theorem attempt_after {M : Type} [Message M] (cmd : Str) (m : M) (act : UiAction) (st : UiStatus)
    (msg failure : Str) :
    Done.after c (c.attempt J sent cmd m act st msg failure) = c.request J sent cmd m act st msg failure := by
  unfold Client.attempt Client.request Done.after
  cases packerTo J m with
  | none => rfl
  | some buff =>
    dsimp only [Option.map_some, Option.getD_some]
    obtain ⟨ok, packets⟩ := Client.send sent cmd buff
    cases ok <;> rfl

/-- The callbacks are those of the client. -/
theorem callbacks_after :
    Done.after c (c.loginCallback J data sent) = c.onLoginFrameCallback J data sent ∧
      Done.after c (c.sendCallback J data sent) = c.onSendFrameCallback J data sent := by
  refine ⟨?_, attempt_after ..⟩
  unfold Client.loginCallback Client.onLoginFrameCallback
  dsimp only
  split
  · rfl
  · exact attempt_after ..

/-- A request is answered for exactly when it can be packed. -/
theorem answered_iff {M : Type} [Message M] {cmd : Str} {m : M} {act : UiAction} {st : UiStatus} {msg failure : Str}
    {carries : Packet → Prop} (carried : ∀ buff, packerTo J m = some buff → carries ⟨cmd, buff⟩) :
    Answered carries (c.attempt J sent cmd m act st msg failure) ↔ TextUtf8 m := by
  constructor
  · rintro ⟨d, returned, _⟩
    obtain ⟨buff, packed, _⟩ := Option.map_eq_some_iff.1 returned
    exact (packerTo_iff J m).1 (Option.isSome_iff_exists.2 ⟨buff, packed⟩)
  · intro utf8
    obtain ⟨buff, packed⟩ := packerTo_some J utf8
    unfold Client.attempt Client.send
    rw [packed, Option.map_some]
    by_cases fails : createPacket cmd buff = [] ∨ sent = false
    · rw [if_pos fails]
      exact ⟨_, rfl, Or.inr ⟨act, failure, List.mem_singleton_self _⟩⟩
    · rw [if_neg fails]
      exact ⟨_, rfl, Or.inl ⟨⟨cmd, buff⟩, rfl, carried buff packed⟩⟩

end

/-! ## Splitting at a colon -/

theorem splitColon_of_not_mem {data : Str} (none : 58 ∉ data) : Client.splitColon data = ([], []) := if_neg none

/-- A text with a colon is split at its first. -/
theorem splitColon_append {a : Str} (b : Str) (first : 58 ∉ a) : Client.splitColon (a ++ 58 :: b) = (a, b) := by
  have before : ∀ x ∈ a, decide (x ≠ 58) = true := by
    intro x member
    have other : x ≠ 58 := by
      rintro rfl
      exact first member
    simpa using other
  have colon : 58 ∈ a ++ 58 :: b := by simp
  unfold Client.splitColon
  rw [if_pos colon, List.takeWhile_append_of_pos before, List.dropWhile_append_of_pos before,
    List.takeWhile_cons_of_neg (by decide), List.dropWhile_cons_of_neg (by decide), List.append_nil, List.tail_cons]

theorem exists_of_colon {data : Str} (colon : 58 ∈ data) : ∃ a b, data = a ++ 58 :: b ∧ 58 ∉ a := by
  induction data with
  | nil => cases colon
  | cons x data ih =>
    by_cases here : x = 58
    · exact ⟨[], data, by rw [here]; rfl, List.not_mem_nil⟩
    · obtain ⟨a, b, rfl, first⟩ := ih ((List.mem_cons.1 colon).resolve_left (Ne.symm here))
      exact ⟨x :: a, b, rfl, List.not_mem_cons_of_ne_of_not_mem (Ne.symm here) first⟩

/-! ## Which texts are answered for -/

/-- The text has no colon, or nothing on one side of its first. -/
def OnePart (data : Str) : Prop := (Client.splitColon data).1 = [] ∨ (Client.splitColon data).2 = []

section
variable {J : Nlohmann} (c : Client) {data : Str} (sent : Bool)

theorem login_answered_iff :
    Answered (CarriesLogin J data) (c.loginCallback J data sent) ↔ OnePart data ∨ Utf8.valid data = true := by
  unfold Client.loginCallback
  by_cases one : OnePart data
  · dsimp only
    rw [if_pos (show (Client.splitColon data).1 = [] ∨ (Client.splitColon data).2 = [] from one)]
    exact iff_of_true ⟨_, rfl, Or.inr ⟨_, _, List.mem_singleton_self _⟩⟩ (Or.inl one)
  · have colon : 58 ∈ data := by
      by_contra none
      exact one (Or.inl (by rw [splitColon_of_not_mem none]))
    obtain ⟨a, b, rfl, first⟩ := exists_of_colon colon
    have both := one
    unfold OnePart at both
    rw [splitColon_append b first] at both ⊢
    dsimp only
    rw [if_neg both, answered_iff, Utf8.valid_append_ascii (by decide), Bool.and_eq_true]
    · constructor
      · rintro ⟨_, _, login, pass, _⟩
        exact Or.inr ⟨login, pass⟩
      · rintro (one' | ⟨login, pass⟩)
        · exact absurd one' one
        · exact ⟨trivial, str_utf8 (by decide), login, pass, trivial⟩
    · exact fun buff packed => ⟨_, packerFrom_packerTo J packed, rfl⟩

theorem send_answered_iff (session : Utf8.valid c.cookie.clientSession = true) :
    Answered (CarriesText J data) (c.sendCallback J data sent) ↔ Utf8.valid data = true := by
  unfold Client.sendCallback
  rw [answered_iff]
  · constructor
    · rintro ⟨_, _, body, _, _⟩
      exact body
    · exact fun body => ⟨trivial, str_utf8 (by decide), body, session, trivial⟩
  · exact fun buff packed => ⟨_, packerFrom_packerTo J packed, rfl⟩

end

/-- **Which texts are sent or reported.** In every state that the client reaches, whether or not
its `::send` succeeds: the login callback returns and has sent or reported what was typed if and
only if that has no two parts or is UTF-8, and the send callback if and only if it is UTF-8. -/
theorem answered_text_iff {J : Nlohmann} (B : App J) {clientId : UInt64} {es : List Event} {c : Client}
    (run : Runs.exec (step B) (.init clientId) es = some c) (data : Str) (sent : Bool) :
    (Answered (CarriesLogin J data) (c.loginCallback J data sent) ↔ OnePart data ∨ Utf8.valid data = true) ∧
      (Answered (CarriesText J data) (c.sendCallback J data sent) ↔ Utf8.valid data = true) := by
  have session : Utf8.valid c.cookie.clientSession = true :=
    Runs.exec_invariant (fun _ _ _ session taken => session_step session taken) rfl run
  exact ⟨login_answered_iff c sent, send_answered_iff c sent session⟩

/-- A client that is greeted and logs in. -/
def entering : List Event :=
  [.connect (str "localhost:10500") .up 0 7 true,
    .receive ⟨Commands.helloReply, str "\x7b\"auth_method\":\"plain-text\",\"command\":\"hello\",\"id\":7\x7d"⟩,
    .login (str "login:pass") true,
    .receive ⟨Commands.authReply, str "\x7b\"command\":\"login\",\"id\":7,\"session\":\"s\",\"status\":\"ok\"\x7d"⟩]

/-- It sends what is typed. -/
theorem answered_text_entered : ∃ c, Runs.exec (step App.compact) (.init 0) entering = some c ∧ c.frame.LoggedIn ∧
    Answered (CarriesText Text.compact (str "hi")) (c.sendCallback Text.compact (str "hi") true) := by
  obtain ⟨c, run, seen⟩ := Option.map_eq_some_iff.1
    (show (Runs.exec (step App.compact) (.init 0) entering).map (fun c => decide c.frame.LoggedIn) = some true by
      decide +kernel)
  have sent := (answered_text_iff App.compact run (str "hi") true).2.2 (by decide)
  exact ⟨c, run, of_decide_eq_true seen, sent⟩

/-- A byte that is not UTF-8, as of a locale with another encoding. -/
theorem text_throws : ¬ ∀ (data : Str) (sent : Bool),
    Answered (CarriesText Text.compact data) ((Client.init 1).sendCallback Text.compact data sent) := by
  intro answered
  have bad : Utf8.valid [0xFF] = true := (send_answered_iff (Client.init 1) true rfl).1 (answered [0xFF] true)
  exact absurd bad (by decide)

end Gologin.Gui
