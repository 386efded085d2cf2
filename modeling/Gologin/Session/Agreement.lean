import Gologin.Session.Outlook
import Gologin.Session.Parties

/-!
# When nothing is under way

A client with nothing under way, in any run of any number of clients whose ids are fresh: the
session it holds is the one of its entry, whatever was clicked. That its window says it is
logged in when it is, and that it has a button to go on with, depends on what was clicked
last, in the state it was clicked in.
-/

namespace Gologin.Session
set_option autoImplicit false
open Calls Messages Tcp Auth
open Server (blank whole someChoice)

/-- One of the packets that a client has read on its connection is the reply to its hello. -/
def Greeted (w : World) (c : Gui.Client) : Prop :=
  ∃ l, c.link = some l ∧ ∃ packet ∈ w.read l, packet.cmd = Commands.helloReply

section
variable (A : Server.App) (B : Gui.App A.json) (login pass : Str)

/-- What is kept of the clicks of client `k`: a click on connect starts afresh. -/
def judged (onLogin : Talk → Bool → Prop) (onLogout : Talk → Prop) (k : Nat) (w : World) : Event → Prop → Prop
  | .client j e, kept =>
    if j = k then
      match draws e, Gui.act B (w.clients k) e with
      | [], some (_, sent) =>
        judge onLogin onLogout (w.talk A login pass (w.clients k)) (sent.flatMap (asks login pass A)) kept
      | _, _ => True
    else kept
  | .server _, kept => kept

/-- The last login or logout that client `k` has sent on its connection was a login with the
right credentials, or a logout with no login that succeeds still to be told of. -/
def Unambiguous (k : Nat) (w : World) (es : List Event) : Prop :=
  Runs.trace (step A B)
    (judged A B login pass (fun _ right => right = true) (fun t => .login true ∉ t.outstanding) k) True w es

/-- The last login or logout that client `k` has sent on its connection was a login with the
right credentials, or a login with no logout that succeeds still to be told of, or a logout
with no such login. -/
def Unhurried (k : Nat) (w : World) (es : List Event) : Prop :=
  Runs.trace (step A B)
    (judged A B login pass (fun t right => right = true ∨ .logout true ∉ t.outstanding)
      (fun t => .login true ∉ t.outstanding) k) True w es

end

section
variable {A : Server.App} {B : Gui.App A.json} {login pass : Str} {clientIds : Nat → UInt64} {es : List Event}
  {w : World} {k : Nat}

/-! ## Runs -/

theorem conversing_run (fresh : Runs.Along (step A B) FreshId (.init login pass clientIds) es)
    (run : Runs.exec (step A B) (.init login pass clientIds) es = some w) : Conversing A login pass w :=
  Runs.exec_guarded (fun _ _ _ h guard taken => conversing_step h guard taken)
    (conversing_init A login pass clientIds) fresh run

/-- **The rule for what the clicks decide.** -/
theorem decided_run {P : Talk → Prop} {onLogin : Talk → Bool → Prop} {onLogout : Talk → Prop}
    (d : Decided P onLogin onLogout) (fresh : Runs.Along (step A B) FreshId (.init login pass clientIds) es)
    (run : Runs.exec (step A B) (.init login pass clientIds) es = some w)
    (up : (w.clients k).status = .connected) :
    P (w.talk A login pass (w.clients k)) ↔
      Runs.trace (step A B) (judged A B login pass onLogin onLogout k) True (.init login pass clientIds) es := by
  refine (@Runs.trace_guarded _ _ (step A B) _ (judged A B login pass onLogin onLogout k)
    (fun kept w => Conversing A login pass w ∧
      ((w.clients k).status = .connected → (P (w.talk A login pass (w.clients k)) ↔ kept))) FreshId ?_ _ _ _ _
    ⟨conversing_init A login pass clientIds, nofun⟩ fresh run).2 up
  rintro kept w e w' ⟨h, decided⟩ guard taken
  refine ⟨conversing_step h guard taken, fun up => ?_⟩
  cases e with
  | server e =>
    obtain ⟨served, clients, _⟩ := served_step h.grounded taken
    rw [clients] at up ⊢
    rcases h.server_turn served up with same | move
    · exact same ▸ decided up
    · exact (d.move _ _ move).trans (decided up)
  | client j e =>
    cases step_cases taken with
    | client admitted acted carried =>
      rename_i c sent
      by_cases here : j = k
      · subst here
        have self : (w.after j e c sent).clients j = c := Function.update_self _ _ _
        rw [self] at up ⊢
        obtain ⟨t, starts, turn⟩ := h.client_turn (fresh_draws guard) admitted acted carried up
        simp only [judged, if_true, acted]
        rcases starts with ⟨drawn, new⟩ | ⟨none, before, rfl⟩
        · obtain ⟨id, rest, drawn⟩ := List.exists_cons_of_ne_nil drawn
          rw [drawn]
          have turned := d.turn (fine_new new) turn (iff_true_intro (d.new t new))
          rcases (new_turn new turn).2 with empty | hello
          · rw [empty] at turned
            exact turned
          · rw [hello] at turned
            exact turned
        · rw [none]
          exact d.turn (h.fine j before) turn (decided before)
      · have other : (w.after j e c sent).clients k = w.clients k := Function.update_of_ne (Ne.symm here) _ _
        rw [other] at up ⊢
        simp only [judged, if_neg here]
        rw [h.untouched admitted acted (Ne.symm here) up]
        exact decided up

/-! ## Nothing under way -/

theorem replies_broadcast {packet : Packet} (message : packet.cmd = Commands.msg) : replies A.json packet = [] := by
  unfold replies Gui.answer
  rw [if_pos message]
  cases packerFrom A.json Messages.Server.MsgRequest packet.body <;> rfl

theorem Quiet.talk {c : Gui.Client} (quiet : Quiet w c) : (w.talk A login pass c).Quiet := by
  unfold Talk.Quiet World.talk World.line
  cases link : c.link with
  | none => exact ⟨rfl, rfl⟩
  | some l =>
    have handed : w.handed A login pass l = ([], []) := by
      unfold World.handed
      split
      · rename_i conn here
        exact doing_out (quiet.handled l link conn here)
      · rfl
    have told : (w.unread l).flatMap (replies A.json) = [] := by
      rw [List.flatMap_eq_nil_iff]
      exact fun packet member => replies_broadcast (quiet.told l link packet member)
    unfold World.wire
    dsimp only
    rw [handed, quiet.asked l link, told]
    exact ⟨rfl, rfl⟩

/-- A client that has read the reply to its hello has been greeted in its conversation. -/
theorem Greeted.heard (h : Grounded A login pass w) {c : Gui.Client} (greeted : Greeted w c) :
    .hello ∈ (w.talk A login pass c).heard := by
  obtain ⟨l, link, packet, member, cmd⟩ := greeted
  obtain ⟨_, a, read⟩ := h.written l packet (List.mem_reverse.1 (List.mem_of_mem_take member))
  have hello : replies A.json packet = [.hello] := by
    unfold replies
    rw [read]
    unfold Gui.answer at read
    rw [cmd, if_neg (by decide), if_neg (by decide), if_pos rfl] at read
    obtain ⟨responce, _, rfl⟩ := Option.map_eq_some_iff.1 read
    rfl
  unfold World.talk World.line
  rw [link]
  exact List.mem_flatMap.2 ⟨packet, member, hello ▸ List.mem_singleton.2 rfl⟩

/-- The provider's entries are accepted. -/
theorem entry_accepted (h : Grounded A login pass w) (id : UInt64) :
    (w.entry id).isSome = true ↔
      ∃ client, w.server.provider.clients.lookup id = some client ∧ client.status = .accepted := by
  unfold World.entry
  rw [Option.isSome_map, Option.isSome_iff_exists]
  constructor
  · rintro ⟨client, found⟩
    exact ⟨client, found, (h.sound.good id client found).status⟩
  · rintro ⟨client, found, _⟩
    exact ⟨client, found⟩

/-! ## One client -/

/-- The state after `es`, for clients whose login is `login:pass`. -/
def ran (es : List Event) : Option World :=
  Runs.exec (step Server.App.compact Gui.App.compact) (.init (str "login") (str "pass") fun _ => 0) es

def helloPacket : Packet := ⟨Commands.hello, str "\x7b\"command\":\"hello\",\"id\":7\x7d"⟩

def helloReplyPacket : Packet :=
  ⟨Commands.helloReply, str "\x7b\"auth_method\":\"plain-text\",\"command\":\"hello\",\"id\":7\x7d"⟩

def loginPacket (password : String) : Packet :=
  ⟨Commands.auth, str "\x7b\"command\":\"login\",\"id\":7,\"login\":\"login\",\"password\":\"" ++ str password ++
    str "\"\x7d"⟩

def loginReplyPacket (message session status : String) : Packet :=
  ⟨Commands.authReply, str "\x7b\"command\":\"login\",\"id\":7,\"message\":\"" ++ str message ++
    str "\",\"session\":\"" ++ str session ++ str "\",\"status\":\"" ++ str status ++ str "\"\x7d"⟩

def acceptedPacket : Packet := loginReplyPacket "" "aaaaaaaaaaaaaaaaaaaaaaaaaaaaaaaa" "ok"

def refusedPacket : Packet := loginReplyPacket "wrong auth login or pass" "" "failed"

def logoutPacket : Packet := ⟨Commands.bye, str "\x7b\"command\":\"logout\",\"id\":7,\"session\":\"\"\x7d"⟩

def logoutReplyPacket : Packet :=
  ⟨Commands.byeReply, str "\x7b\"command\":\"logout\",\"id\":7,\"status\":\"ok\"\x7d"⟩

/-- The first client connects under the id 7 and is greeted. -/
def greeting : List Event :=
  [.client 0 (.connect (str "localhost:10500") .up 0 7 true), .server (.accept 3 true), .server (.emplace 0),
    .server (.recv 0 blank (whole helloPacket)), .server (.reply 0), .client 0 (.receive helloReplyPacket)]

/-- A login or logout of the first client is served. -/
def servedOne (packet : Packet) : List Event :=
  [.server (.recv 0 blank (whole packet)), .server (.call 0 someChoice), .server (.reply 0)]

/-- A right login. -/
def rightLogin : List Event :=
  greeting ++ [.client 0 (.login (str "login:pass") true)] ++ servedOne (loginPacket "pass") ++
    [.client 0 (.receive acceptedPacket)]

/-- A login with a wrong password. -/
def wrongLogin : List Event :=
  greeting ++ [.client 0 (.login (str "login:wrong") true)] ++ servedOne (loginPacket "wrong") ++
    [.client 0 (.receive refusedPacket)]

/-- A right login, and a logout before its reply. -/
def hurriedLogout : List Event :=
  greeting ++ [.client 0 (.login (str "login:pass") true), .client 0 (.logout true)] ++
    servedOne (loginPacket "pass") ++ servedOne logoutPacket ++
    [.client 0 (.receive acceptedPacket), .client 0 (.receive logoutReplyPacket)]

/-- The first client is connected, was greeted, and has nothing under way. -/
def Rests (w : World) : Prop :=
  (w.clients 0).status = .connected ∧ (w.clients 0).link = some 0 ∧ (w.links 0).requests = [] ∧ w.unread 0 = [] ∧
    (w.server.conns[0]?.map fun conn => conn.phase.idle) = some true ∧ helloReplyPacket ∈ w.read 0

instance (w : World) : Decidable (Rests w) := inferInstanceAs (Decidable (_ ∧ _))

theorem Rests.quiet {w : World} (rests : Rests w) : Quiet w (w.clients 0) := by
  obtain ⟨_, link, asked, told, receiving, _⟩ := rests
  refine ⟨?_, ?_, ?_⟩
  · intro l on
    cases link.symm.trans on
    exact asked
  · intro l on conn here program handling
    cases link.symm.trans on
    rw [here, Option.map_some, handling] at receiving
    cases receiving
  · intro l on packet member
    cases link.symm.trans on
    rw [told] at member
    cases member

theorem Rests.greeted {w : World} (rests : Rests w) : Greeted w (w.clients 0) :=
  ⟨0, rests.2.1, helloReplyPacket, rests.2.2.2.2.2, rfl⟩

/-- The provider has an accepted entry for the first client. -/
def Entered (w : World) : Prop :=
  ∃ client, w.server.provider.clients.lookup (w.clients 0).cookie.clientId = some client ∧ client.status = .accepted

instance (w : World) : Decidable (Entered w) :=
  match found : w.server.provider.clients.lookup (w.clients 0).cookie.clientId with
  | some client =>
    if accepted : client.status = .accepted then isTrue ⟨client, found, accepted⟩
    else isFalse fun ⟨_, there, status⟩ => accepted (Option.some.inj (found.symm.trans there) ▸ status)
  | none => isFalse fun ⟨_, there, _⟩ => nomatch found.symm.trans there

/-- The ids that the clients draw in `es` are fresh. -/
def Fresh (es : List Event) : Prop :=
  Runs.Along (step Server.App.compact Gui.App.compact) FreshId (.init (str "login") (str "pass") fun _ => 0) es

instance (es : List Event) : Decidable (Fresh es) := inferInstanceAs (Decidable (Runs.Along _ _ _ _))

theorem rightLogin_reaches :
    Fresh rightLogin ∧ ∃ w, ran rightLogin = some w ∧ Rests w ∧ (w.clients 0).frame.LoggedIn ∧ Entered w ∧
      (form (w.clients 0).frame).Proceeds := by
  refine ⟨by decide +kernel, ?_⟩
  obtain ⟨w, run, seen⟩ := Option.map_eq_some_iff.1
    (show (ran rightLogin).map (fun w => decide (Rests w ∧ (w.clients 0).frame.LoggedIn ∧ Entered w ∧
      (form (w.clients 0).frame).Proceeds)) = some true by decide +kernel)
  exact ⟨w, run, of_decide_eq_true seen⟩

theorem wrongLogin_reaches :
    Fresh wrongLogin ∧ ∃ w, ran wrongLogin = some w ∧ Rests w ∧ (w.clients 0).frame.LoggedIn ∧ ¬ Entered w := by
  refine ⟨by decide +kernel, ?_⟩
  obtain ⟨w, run, seen⟩ := Option.map_eq_some_iff.1
    (show (ran wrongLogin).map (fun w => decide (Rests w ∧ (w.clients 0).frame.LoggedIn ∧ ¬ Entered w)) = some true by
      decide +kernel)
  exact ⟨w, run, of_decide_eq_true seen⟩

theorem hurriedLogout_reaches :
    Fresh hurriedLogout ∧ ∃ w, ran hurriedLogout = some w ∧ Rests w ∧ ¬ (form (w.clients 0).frame).Proceeds := by
  refine ⟨by decide +kernel, ?_⟩
  obtain ⟨w, run, seen⟩ := Option.map_eq_some_iff.1
    (show (ran hurriedLogout).map (fun w => decide (Rests w ∧ ¬ (form (w.clients 0).frame).Proceeds)) = some true by
      decide +kernel)
  exact ⟨w, run, of_decide_eq_true seen⟩

/-! ## What holds then -/

/-- **Session agreement.** In every run in which the ids that clients draw are fresh, a client
that is connected and has nothing under way holds the session of its entry. -/
theorem session_agreement (fresh : Runs.Along (step A B) FreshId (.init login pass clientIds) es)
    (run : Runs.exec (step A B) (.init login pass clientIds) es = some w)
    (up : (w.clients k).status = .connected) (quiet : Quiet w (w.clients k)) :
    ∀ client, w.server.provider.clients.lookup (w.clients k).cookie.clientId = some client →
      client.status = .accepted → (w.clients k).cookie.clientSession = client.session := by
  intro client found _
  have h := conversing_run fresh run
  have entry : (w.talk A login pass (w.clients k)).entry = some client.session := by
    change (w.server.provider.clients.lookup (w.clients k).cookie.clientId).map AuthClient.session = _
    rw [found]
    rfl
  have same := (h.fine k up).session client.session entry
  rw [(@Quiet.talk A login pass w _ quiet).2] at same
  exact same

/-- After a right login. -/
theorem session_agreement_right :
    ∃ w client, ran rightLogin = some w ∧
      w.server.provider.clients.lookup (w.clients 0).cookie.clientId = some client ∧
      (w.clients 0).cookie.clientSession = client.session := by
  obtain ⟨fresh, w, run, rests, _, ⟨client, found, accepted⟩, _⟩ := rightLogin_reaches
  exact ⟨w, client, run, found, session_agreement fresh run rests.1 rests.quiet client found accepted⟩

/-- **When client and server agree on being logged in.** In every state that a run reaches, a
client that is connected and has nothing under way is in its logged-in form exactly when the
provider has an accepted entry for it, if and only if its last login or logout was
unambiguous. -/
theorem logged_in_iff (fresh : Runs.Along (step A B) FreshId (.init login pass clientIds) es)
    (run : Runs.exec (step A B) (.init login pass clientIds) es = some w)
    (up : (w.clients k).status = .connected) (quiet : Quiet w (w.clients k)) :
    ((w.clients k).frame.LoggedIn ↔
        ∃ client, w.server.provider.clients.lookup (w.clients k).cookie.clientId = some client ∧
          client.status = .accepted) ↔
      Unambiguous A B login pass k (.init login pass clientIds) es := by
  have h := conversing_run fresh run
  rw [← entry_accepted h.grounded]
  exact (agree_quiet (h.fine k up) quiet.talk).symm.trans (decided_run agree_decided fresh run up)

/-- A right login was unambiguous. -/
theorem logged_in_iff_right :
    ∃ w, ran rightLogin = some w ∧ (w.clients 0).frame.LoggedIn ∧ Entered w ∧
      (((w.clients 0).frame.LoggedIn ↔ Entered w) ↔
        Unambiguous Server.App.compact Gui.App.compact (str "login") (str "pass") 0
          (.init (str "login") (str "pass") fun _ => 0) rightLogin) := by
  obtain ⟨fresh, w, run, rests, loggedIn, entered, _⟩ := rightLogin_reaches
  exact ⟨w, run, loggedIn, entered, logged_in_iff fresh run rests.1 rests.quiet⟩

/-- After a wrong login the client is in its logged-in form, and the provider has no entry. -/
theorem logged_in_wrong :
    ∃ w, ran wrongLogin = some w ∧ Fresh wrongLogin ∧ (w.clients 0).status = .connected ∧ Quiet w (w.clients 0) ∧
      ¬ ((w.clients 0).frame.LoggedIn ↔ Entered w) := by
  obtain ⟨fresh, w, run, rests, loggedIn, missing⟩ := wrongLogin_reaches
  exact ⟨w, run, fresh, rests.1, rests.quiet, fun agree => missing (agree.1 loggedIn)⟩

/-- **When the client can go on.** In every state that a run reaches, a client that is
connected, was greeted and has nothing under way has exactly one of the login and logout
buttons, and it is enabled, if and only if its last login or logout was unhurried. -/
theorem proceeds_iff (fresh : Runs.Along (step A B) FreshId (.init login pass clientIds) es)
    (run : Runs.exec (step A B) (.init login pass clientIds) es = some w)
    (up : (w.clients k).status = .connected) (greeted : Greeted w (w.clients k)) (quiet : Quiet w (w.clients k)) :
    (form (w.clients k).frame).Proceeds ↔ Unhurried A B login pass k (.init login pass clientIds) es := by
  have h := conversing_run fresh run
  exact (free_quiet (h.fine k up) quiet.talk (greeted.heard h.grounded)).symm.trans
    (decided_run free_decided fresh run up)

/-- A right login was unhurried. -/
theorem proceeds_iff_right :
    ∃ w, ran rightLogin = some w ∧ (form (w.clients 0).frame).Proceeds ∧
      ((form (w.clients 0).frame).Proceeds ↔
        Unhurried Server.App.compact Gui.App.compact (str "login") (str "pass") 0
          (.init (str "login") (str "pass") fun _ => 0) rightLogin) := by
  obtain ⟨fresh, w, run, rests, _, _, proceeds⟩ := rightLogin_reaches
  exact ⟨w, run, proceeds, proceeds_iff fresh run rests.1 rests.greeted rests.quiet⟩

/-- After a logout before the reply to the login, the logout button is shown and disabled. -/
theorem proceeds_hurried :
    ∃ w, ran hurriedLogout = some w ∧ Fresh hurriedLogout ∧ (w.clients 0).status = .connected ∧
      Greeted w (w.clients 0) ∧ Quiet w (w.clients 0) ∧ ¬ (form (w.clients 0).frame).Proceeds := by
  obtain ⟨fresh, w, run, rests, stuck⟩ := hurriedLogout_reaches
  exact ⟨w, run, fresh, rests.1, rests.greeted, rests.quiet, stuck⟩

end

end Gologin.Session
