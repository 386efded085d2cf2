import Gologin.Client.Callbacks
import Gologin.Client.Discipline
import Gologin.Session.Rest

/-!
# A user can always log in

Whatever the users have done and however far the system has got: a client that is not
connected can connect, and when the system has come to rest it can log in, and when it has come
to rest again it is logged in.
-/

namespace Gologin.Session
set_option autoImplicit false
open Calls Messages Tcp Auth Gui

/-! ## The clients -/

section
variable {A : Server.App} {B : Gui.App A.json} {login pass : Str} {w w' : World}

/-- The window of every client stays coherent. -/
theorem coherent_step (h : ∀ k, Coherent (w.clients k)) {e : Event} (taken : step A B w e = some w') (k : Nat) :
    Coherent (w'.clients k) := by
  cases step_cases taken with
  | client admitted acted carried =>
    rename_i j e c sent
    rcases @clients_after w j e c sent k with ⟨rfl, same⟩ | ⟨_, same⟩
    · rw [same]
      exact coherent_act (h k) acted
    · rw [same]
      exact h k
  | receive => exact h k
  | server => exact h k

/-- A turn without a click. -/
theorem turn_quiet {t t' : Talk} (turn : t.Turn [] t') : t' = t ∨ Talk.Move t t' := by
  cases turn with
  | still => exact Or.inl rfl
  | read move => exact Or.inr move

/-- A working step moves the conversation of a client on, or leaves it. -/
theorem Conversing.working_turn (h : Conversing A login pass w) {e : Event} (working : e.Working)
    (taken : step A B w e = some w') {k : Nat} (up : (w.clients k).status = .connected) :
    (w'.clients k).cookie.clientId = (w.clients k).cookie.clientId ∧
      (w'.talk A login pass (w'.clients k) = w.talk A login pass (w.clients k) ∨
        Talk.Move (w.talk A login pass (w.clients k)) (w'.talk A login pass (w'.clients k))) := by
  cases e with
  | server e =>
    obtain ⟨served, clients, _⟩ := served_step h.grounded taken
    rw [clients]
    exact ⟨rfl, h.server_turn served up⟩
  | client j e =>
    cases e with
    | receive packet =>
      cases step_cases taken with
      | client admitted acted carried =>
        rename_i c sent
        obtain ⟨rfl, rfl, _⟩ := reads_cases admitted acted
        by_cases here : j = k
        · subst here
          obtain ⟨status, _, id⟩ := receive_rest B packet (w.clients j)
          rw [clients_self]
          refine ⟨id, ?_⟩
          obtain ⟨t, ⟨drawn, _⟩ | ⟨_, _, rfl⟩, turn⟩ := h.client_turn (fun _ member => absurd member List.not_mem_nil) admitted acted carried (status.trans up)
          · exact absurd rfl drawn
          · exact turn_quiet turn
        · have other : (w.after j (.receive packet) ((w.clients j).receive B packet) []).clients k = w.clients k :=
            Function.update_of_ne (Ne.symm here) _ _
          rw [other]
          exact ⟨rfl, Or.inl (h.untouched admitted acted (Ne.symm here) up)⟩
    | _ => cases working

/-- Whether the hello is on its way, or answered. -/
def Talk.Greets (t : Talk) : Prop := .hello ∈ t.asked ∨ .hello ∈ t.told ∨ .hello ∈ t.heard

theorem greets_move {t t' : Talk} (greets : t.Greets) (move : Talk.Move t t') : t'.Greets := by
  have served {as : List Ask} {a : Ask} {rs : List Reply} (first : t.asked = a :: as) (hello : a = .hello → .hello ∈ rs) :
      .hello ∈ as ∨ .hello ∈ t.told ++ rs ∨ .hello ∈ t.heard := by
    rcases greets with asked | told | heard
    · rw [first] at asked
      rcases List.mem_cons.1 asked with same | later
      · exact Or.inr (Or.inl (List.mem_append_right _ (hello same.symm)))
      · exact Or.inl later
    · exact Or.inr (Or.inl (List.mem_append_left _ told))
    · exact Or.inr (Or.inr heard)
  cases move with
  | greet first => exact served first fun _ => List.mem_singleton.2 rfl
  | message first | accept first | refuse first | remove first => exact served first nofun
  | read first =>
    rcases greets with asked | told | heard
    · exact Or.inl asked
    · rw [first] at told
      rcases List.mem_cons.1 told with same | later
      · exact Or.inr (Or.inr (List.mem_append_right _ (List.mem_singleton.2 same)))
      · exact Or.inr (Or.inl later)
    · exact Or.inr (Or.inr (List.mem_append_left _ heard))

/-- Behind the hello of a new conversation. -/
theorem new_hello {t t' : Talk} (new : t.New) (turn : t.Turn [.hello] t') :
    t'.outlook.hidden = false ∧ t'.final = false ∧ t'.Greets := by
  obtain ⟨form, session, idle, rfl⟩ := new
  cases turn with
  | click click =>
    cases click with
    | greet clickable =>
      refine ⟨?_, rfl, Or.inl (List.mem_singleton.2 rfl)⟩
      change (!form.login.shown) = false
      rw [idle.login]
      rfl

/-- Behind a login with the right credentials. -/
theorem right_login {t t' : Talk} {id : UInt64} (greets : t.Greets) (turn : t.Turn [.login id true] t') :
    t'.outlook.hidden = true ∧ t'.final = true ∧ t'.Greets := by
  cases turn with
  | click click =>
    cases click with
    | login clickable =>
      refine ⟨?_, ?_, greets.imp_left fun asked => List.mem_append_left _ asked⟩
      · rw [Talk.outlook_eq, hidden_tell]
        rfl
      · rw [Talk.final_ask]
        exact Bool.or_true _

/-- What the conversation of a client will come to, and that is under way, working steps keep. -/
structure Bound (A : Server.App) (login pass : Str) (k : Nat) (id : UInt64) (t : Talk) (w : World) : Prop where
  conversing : Conversing A login pass w
  filled : Filled w
  up : (w.clients k).status = .connected
  own : (w.clients k).cookie.clientId = id
  outlook : (w.talk A login pass (w.clients k)).outlook = t.outlook
  final : (w.talk A login pass (w.clients k)).final = t.final
  greets : (w.talk A login pass (w.clients k)).Greets

theorem bound_step {k : Nat} {id : UInt64} {t : Talk} (h : Bound A login pass k id t w) {e : Event}
    (working : e.Working) (taken : step A B w e = some w') : Bound A login pass k id t w' := by
  have fresh : FreshId w e := by
    cases e with
    | server => trivial
    | client j e =>
      cases e with
      | receive => trivial
      | _ => cases working
  obtain ⟨own, moved⟩ := h.conversing.working_turn working taken h.up
  have status := (works_step working taken).clients k
  refine ⟨conversing_step h.conversing fresh taken, filled_step h.filled taken, status.1.trans h.up, own.trans h.own,
    ?_, ?_, ?_⟩
  · rcases moved with same | move
    · exact same ▸ h.outlook
    · exact (Talk.outlook_move move).1.trans h.outlook
  · rcases moved with same | move
    · exact same ▸ h.final
    · exact (Talk.outlook_move move).2.trans h.final
  · rcases moved with same | move
    · exact same ▸ h.greets
    · exact greets_move h.greets move

/-- What is bound to come, once nothing is under way. -/
theorem Bound.rest {k : Nat} {id : UInt64} {t : Talk} (h : Bound A login pass k id t w)
    (quiet : Quiet w (w.clients k)) :
    Talking (w.talk A login pass (w.clients k)) ∧ (form (w.clients k).frame).look = t.outlook ∧
      (w.entry id).isSome = t.final ∧ ∀ session, w.entry id = some session →
        (w.clients k).cookie.clientSession = session := by
  obtain ⟨asked, told⟩ := @Quiet.talk A login pass w _ quiet
  have fine := h.conversing.fine k h.up
  have entry : (w.talk A login pass (w.clients k)).entry = w.entry id := congrArg w.entry h.own
  refine ⟨?_, ?_, ?_, fun session there => ?_⟩
  · rcases fine.phase with greeting | talking
    · rcases h.greets with member | member | member
      · rw [asked] at member
        cases member
      · rw [told] at member
        cases member
      · rw [greeting.heard] at member
        cases member
    · exact talking
  · rw [← h.outlook, Talk.outlook_eq]
    unfold Talk.outstanding Fifo.outstanding Talk.line
    rw [asked, told]
    rfl
  · rw [← h.final, ← entry]
    unfold Talk.final
    rw [asked]
    rfl
  · have stored := fine.session session (entry.trans there)
    rw [told] at stored
    exact stored

end

/-! ## Connecting, and logging in -/

/-- A request that can be packed is sent. -/
theorem request_packed {J : Nlohmann} {M : Type} [Message M] {c : Client} {cmd : Str} {m : M} {act : UiAction}
    {st : UiStatus} {msg failure : Str} {buff : Buffer} (packed : packerTo J m = some buff)
    (room : cmd.length < sizeofType) :
    c.request J true cmd m act st msg failure = (c.output act st msg [], [⟨cmd, buff⟩]) := by
  have full := createPacket_ne_nil (packerTo_ne_nil J packed) room
  unfold Client.request Client.send
  simp only [packed, full, or_self, if_false, Bool.true_eq_false]

section
variable {A : Server.App} {B : Gui.App A.json} {login pass : Str} {w : World} {k : Nat} {id : UInt64}

/-- A client that is not connected can connect. -/
theorem connects (coherent : Coherent (w.clients k)) (down : (w.clients k).status ≠ .connected) (some_ : id ≠ 0)
    {address : Str} (typed : address ≠ []) :
    ∃ c buff, Gui.act B (w.clients k) (.connect address .up w.opened id true) = some (c, [⟨Commands.hello, buff⟩]) ∧
      packerTo A.json (helloRequest id) = some buff ∧ c.status = .connected ∧ c.link = some w.opened ∧
      c.cookie.clientId = id := by
  obtain ⟨_, clickable, _⟩ := coherent.down down
  obtain ⟨buff, packed⟩ := packerTo_some A.json
    (show TextUtf8 (helloRequest id) from ⟨trivial, str_utf8 (by decide), trivial⟩)
  have made : (w.clients k).connect .up w.opened =
      { w.clients k with status := .connected, link := some w.opened } := if_neg down
  have acted : (w.clients k).onConnect A.json address .up w.opened id true =
      (Client.output { w.clients k with cookie.clientId := id, status := .connected, link := some w.opened }
        .onConnect .pending (str "Connect...") [], [⟨Commands.hello, buff⟩]) := by
    unfold Client.onConnect Client.onConnectFrameCallback
    rw [if_neg typed, made]
    exact request_packed packed (by decide)
  exact ⟨_, buff, (if_pos ⟨clickable, some_⟩).trans (congrArg some acted), packed, rfl, rfl, rfl⟩

/-- A client that can click on login can send its credentials. -/
theorem logs_in (clickable : (w.clients k).frame.loginButton.Clickable) (one : 58 ∉ login) (some_ : login ≠ [])
    (secret : pass ≠ []) {buff : Buffer}
    (packed : packerTo A.json (loginRequest (w.clients k) (login ++ 58 :: pass)) = some buff) :
    Gui.act B (w.clients k) (.login (login ++ 58 :: pass) true) =
      some ((w.clients k).output .onLogin .success (str "Login...") [], [⟨Commands.auth, buff⟩]) := by
  have parts := splitColon_append pass one
  have acted : (w.clients k).onLogin A.json (login ++ 58 :: pass) true =
      ((w.clients k).output .onLogin .success (str "Login...") [], [⟨Commands.auth, buff⟩]) := by
    unfold Client.onLogin Client.onLoginFrameCallback
    unfold loginRequest at packed
    rw [parts] at packed
    rw [if_neg (List.append_ne_nil_of_right_ne_nil _ (List.cons_ne_nil _ _)), parts]
    dsimp only
    rw [if_neg (not_or.2 ⟨some_, secret⟩)]
    exact request_packed packed (by decide)
  exact (if_pos clickable).trans (congrArg some acted)

/-- Where the client has connected, it is bound to be greeted. -/
theorem Conversing.bound_hello (h : Conversing A login pass w) (filled : Filled w) (unused : id ∉ w.ids)
    {address : Str} {c : Client} {buff : Buffer}
    (acted : Gui.act B (w.clients k) (.connect address .up w.opened id true) = some (c, [⟨Commands.hello, buff⟩]))
    (packed : packerTo A.json (helloRequest id) = some buff) (up : c.status = .connected) (link : c.link = some w.opened)
    (own : c.cookie.clientId = id) :
    ∃ t, Bound A login pass k id t (w.after k (.connect address .up w.opened id true) c [⟨Commands.hello, buff⟩]) ∧
      t.outlook.hidden = false ∧ t.final = false := by
  have carried : [⟨Commands.hello, buff⟩] = ([] : List Packet) ∨ c.link ≠ none := Or.inr (by rw [link]; nofun)
  have fresh : ∀ id' ∈ draws (.connect address .up w.opened id true), id' ∉ w.ids := by
    intro id' member
    exact List.mem_singleton.1 member ▸ unused
  obtain ⟨t, starts, turn⟩ := h.client_turn fresh rfl acted carried up
  rw [asks_one (request_hello packed)] at turn
  rcases starts with ⟨_, new⟩ | ⟨none, _⟩
  · obtain ⟨hidden, final, greets⟩ := new_hello new turn
    refine ⟨_, ⟨conversing_client h fresh rfl acted carried, ?_, ?_, ?_, ?_, ?_, ?_⟩, hidden, final⟩
    · exact filled_step filled (step_client rfl acted carried)
    · rw [clients_self, up]
    · rw [clients_self, own]
    · rw [clients_self]
    · rw [clients_self]
    · rw [clients_self]
      exact greets
  · cases none

/-- Where it has logged in with the right credentials, it is bound to be logged in. -/
theorem Bound.logged_in {t : Talk} (h : Bound A login pass k id t w) {l : Nat} (link : (w.clients k).link = some l)
    (one : 58 ∉ login) {buff : Buffer}
    (acted : Gui.act B (w.clients k) (.login (login ++ 58 :: pass) true) =
      some ((w.clients k).output .onLogin .success (str "Login...") [], [⟨Commands.auth, buff⟩]))
    (packed : packerTo A.json (loginRequest (w.clients k) (login ++ 58 :: pass)) = some buff) :
    ∃ t, Bound A login pass k id t (w.after k (.login (login ++ 58 :: pass) true)
        ((w.clients k).output .onLogin .success (str "Login...") []) [⟨Commands.auth, buff⟩]) ∧
      t.outlook.hidden = true ∧ t.final = true := by
  have carried : [⟨Commands.auth, buff⟩] = ([] : List Packet) ∨
      ((w.clients k).output .onLogin .success (str "Login...") []).link ≠ none :=
    Or.inr fun none => nomatch none.symm.trans link
  have fresh : ∀ id' ∈ draws (.login (login ++ 58 :: pass) true), id' ∉ w.ids :=
    fun _ member => absurd member List.not_mem_nil
  obtain ⟨t, starts, turn⟩ := h.conversing.client_turn fresh trivial acted carried h.up
  have asks : asked login pass (.login (loginRequest (w.clients k) (login ++ 58 :: pass))) =
      [.login (w.clients k).cookie.clientId true] := by
    unfold asked loginRequest
    rw [splitColon_append pass one]
    simp only [and_self, decide_true]
  rw [asks_one (request_login packed), asks] at turn
  rcases starts with ⟨drawn, _⟩ | ⟨_, _, rfl⟩
  · exact absurd rfl drawn
  · obtain ⟨hidden, final, greets⟩ := right_login h.greets turn
    refine ⟨_, ⟨conversing_client h.conversing fresh trivial acted carried, ?_, ?_, ?_, ?_, ?_, ?_⟩, hidden, final⟩
    · exact filled_step h.filled (step_client trivial acted carried)
    · rw [clients_self]
      exact h.up
    · rw [clients_self]
      exact h.own
    · rw [clients_self]
    · rw [clients_self]
    · rw [clients_self]
      exact greets

/-- The request of a login under `id`. -/
def authRequest (id : UInt64) (login pass : Str) : Messages.Client.AuthRequest :=
  { command := Commands.auth, id := id, login := login, password := pass }

/-- The hello and the login of `id` can be received. -/
def Fits (J : Nlohmann) (id : UInt64) (login pass : Str) : Prop :=
  ∀ buff, packerTo J (helloRequest id) = some buff ∨ packerTo J (authRequest id login pass) = some buff →
    buff.length < 256 ^ 4

/-- The account is one that a user can type. -/
structure Typable (login pass : Str) : Prop where
  one : 58 ∉ login
  named : login ≠ []
  secret : pass ≠ []
  login_utf8 : Utf8.valid login = true
  pass_utf8 : Utf8.valid pass = true

/-- A client that is at rest behind its hello logs in, and the system settles where it is logged
in. -/
theorem Bound.logs_in {t : Talk} (h : Bound A login pass k id t w) (quiet : Quiet w (w.clients k)) {l : Nat}
    (link : (w.clients k).link = some l) (kept : ¬ w.Dropped l) (hidden : t.outlook.hidden = false)
    (account : Typable login pass) (fits : Fits A.json id login pass) :
    ∃ x, step A B w (.client k (.login (login ++ 58 :: pass) true)) = some x ∧
      Runs.Settles (step A B) Event.Working (fun w' => (w'.clients k).status = .connected ∧
        (w'.clients k).frame.LoggedIn ∧ ∃ client, w'.server.provider.clients.lookup id = some client ∧
          client.status = .accepted ∧ (w'.clients k).cookie.clientSession = client.session) x := by
  obtain ⟨talking, look, _⟩ := h.rest quiet
  have clickable : (w.clients k).frame.loginButton.Clickable := by
    have shown := (congrArg Look.hidden look).trans hidden
    exact ⟨by simpa [Form.look, form] using shown, talking.login⟩
  have request : loginRequest (w.clients k) (login ++ 58 :: pass) = authRequest id login pass := by
    unfold loginRequest authRequest
    rw [splitColon_append pass account.one, h.own]
  obtain ⟨buff, packed⟩ := packerTo_some A.json (show TextUtf8 (authRequest id login pass) from
    ⟨trivial, str_utf8 (by decide), account.login_utf8, account.pass_utf8, trivial⟩)
  rw [← request] at packed
  have acted := @Session.logs_in A B login pass w k clickable account.one account.named account.secret buff packed
  have still : ((w.clients k).output .onLogin .success (str "Login...") []).link = some l := link
  have carried : [⟨Commands.auth, buff⟩] = ([] : List Packet) ∨
      ((w.clients k).output .onLogin .success (str "Login...") []).link ≠ none := by
    right
    rw [still]
    exact Option.some_ne_none l
  refine ⟨_, step_client trivial acted carried, ?_⟩
  obtain ⟨t', bound, hidden', final'⟩ := h.logged_in link account.one acted packed
  generalize after_ : w.after k (.login (login ++ 58 :: pass) true) _ _ = x at bound
  have links : x.links l = ⟨[⟨Commands.auth, buff⟩], (w.links l).received⟩ := by
    rw [← after_, links_after, if_pos still, quiet.asked l link]
    rfl
  have short : x.Short l := by
    intro packet member
    rw [links] at member
    obtain rfl := List.mem_singleton.1 member
    exact fits buff (Or.inr (request ▸ packed))
  have self : (x.clients k).link = some l := by
    rw [← after_, clients_self]
    exact still
  have undropped : ¬ x.Dropped l := by
    rw [← after_]
    exact kept
  refine (working_descends A B login pass).settles less_wf bound.conversing.grounded fun w' alone stuck => ?_
  have bound' : Bound A login pass k id t' w' := alone.invariant (fun _ _ _ h working taken => bound_step h working taken) bound
  obtain ⟨up, _, quiet', _⟩ := bound.conversing.grounded.rests bound.filled alone stuck bound.up self undropped short
  obtain ⟨_, look', entered, session⟩ := bound'.rest quiet'
  have away : (w'.clients k).frame.loginButton.shown = false := by
    simpa [Form.look, form] using (congrArg Look.hidden look').trans hidden'
  refine ⟨up, ⟨away, ?_⟩, ?_⟩
  · have send := (bound'.conversing.fine k up).send
    change (w'.clients k).frame.sendButton.enabled = !(w'.clients k).frame.loginButton.shown at send
    rw [send, away]
    rfl
  · rw [final'] at entered
    obtain ⟨client, found, accepted⟩ := (entry_accepted bound'.conversing.grounded id).1 entered
    refine ⟨client, found, accepted, session client.session ?_⟩
    unfold World.entry
    rw [found]
    rfl

/-- **A user can always log in.** In every state that a run reaches, a client that is not connected
can connect under an id that was not drawn before; the system then settles, and wherever it does
the client can log in to the account; it settles again, and wherever it does the client is logged
in, its id has an accepted entry, and it holds the session of the entry. -/
theorem can_log_in {clientIds : Nat → UInt64} {es : List Event}
    (fresh : Runs.Along (step A B) FreshId (.init login pass clientIds) es)
    (run : Runs.exec (step A B) (.init login pass clientIds) es = some w) (down : (w.clients k).status ≠ .connected)
    (unused : id ∉ w.ids) (some_ : id ≠ 0) {address : Str} (typed : address ≠ []) (account : Typable login pass)
    (fits : Fits A.json id login pass) :
    ∃ u, step A B w (.client k (.connect address .up w.opened id true)) = some u ∧
      Runs.Settles (step A B) Event.Working (fun v =>
        ∃ x, step A B v (.client k (.login (login ++ 58 :: pass) true)) = some x ∧
          Runs.Settles (step A B) Event.Working (fun w' => (w'.clients k).status = .connected ∧
            (w'.clients k).frame.LoggedIn ∧ ∃ client, w'.server.provider.clients.lookup id = some client ∧
              client.status = .accepted ∧ (w'.clients k).cookie.clientSession = client.session) x) u := by
  have conversing := conversing_run fresh run
  have coherent : ∀ j, Coherent (w.clients j) :=
    Runs.exec_invariant (fun _ _ _ h taken => coherent_step h taken) (fun j => coherent_init (clientIds j)) run
  obtain ⟨c, buff, acted, packed, up, link, own⟩ := connects (coherent k) down some_ typed
  have carried : [⟨Commands.hello, buff⟩] = ([] : List Packet) ∨ c.link ≠ none := Or.inr (by rw [link]; nofun)
  refine ⟨_, step_client rfl acted carried, ?_⟩
  obtain ⟨t, bound, hidden, _⟩ := conversing.bound_hello (filled_run run) unused acted packed up link own
  generalize after_ : w.after k (.connect address .up w.opened id true) _ _ = u at bound
  have links : u.links w.opened = ⟨[⟨Commands.hello, buff⟩], 0⟩ := by
    rw [← after_, links_after, if_pos link, conversing.grounded.unopened w.opened (Nat.le_refl _)]
    rfl
  have short : u.Short w.opened := by
    intro packet member
    rw [links] at member
    obtain rfl := List.mem_singleton.1 member
    exact fits buff (Or.inl packed)
  have self : (u.clients k).link = some w.opened := by
    rw [← after_, clients_self]
    exact link
  have undropped : ¬ u.Dropped w.opened := by
    rintro ⟨conn, here, _⟩
    have inside : w.opened < u.server.conns.length := (List.getElem?_eq_some_iff.1 here).1
    rw [← after_] at inside
    exact absurd inside (Nat.not_lt.2 conversing.grounded.accepted)
  refine (working_descends A B login pass).settles less_wf bound.conversing.grounded fun v alone stuck => ?_
  have bound' : Bound A login pass k id t v := alone.invariant (fun _ _ _ h working taken => bound_step h working taken) bound
  obtain ⟨_, link', quiet, _⟩ := bound.conversing.grounded.rests bound.filled alone stuck bound.up self undropped short
  have works : Works u v := alone.invariant
    (fun _ _ _ works working taken => works.trans (works_step working taken)) (.refl u)
  exact bound'.logs_in quiet link' (fun dropped => undropped (works.dropped _ dropped)) hidden account fits

/-- The first client could not go on, and disconnects. -/
def givesUp : List Event := hurriedLogout ++ [.client 0 .disconnect]

/-- It can log in again. -/
theorem can_log_in_again : ∃ w u v x w', ran givesUp = some w ∧
    step Server.App.compact Gui.App.compact w (.client 0 (.connect (str "localhost:10500") .up w.opened 8 true)) = some u ∧
    Runs.Alone (step Server.App.compact Gui.App.compact) Event.Working u v ∧
    step Server.App.compact Gui.App.compact v (.client 0 (.login (str "login" ++ 58 :: str "pass") true)) = some x ∧
    Runs.Alone (step Server.App.compact Gui.App.compact) Event.Working x w' ∧ (w'.clients 0).frame.LoggedIn := by
  have fresh : Fresh givesUp := by decide +kernel
  obtain ⟨w, run, seen⟩ := Option.map_eq_some_iff.1
    (show (ran givesUp).map (fun w => decide ((w.clients 0).status ≠ .connected ∧ 8 ∉ w.ids)) = some true by
      decide +kernel)
  obtain ⟨down, unused⟩ := of_decide_eq_true seen
  have fits : Fits Server.App.compact.json 8 (str "login") (str "pass") := by
    have hello : (packerTo Text.compact (helloRequest 8)).map List.length = some 26 := by decide +kernel
    have auth : (packerTo Text.compact (authRequest 8 (str "login") (str "pass"))).map List.length = some 60 := by
      decide +kernel
    rintro buff (packed | packed)
    · rw [show packerTo Text.compact (helloRequest 8) = some buff from packed, Option.map_some, Option.some.injEq] at hello
      omega
    · rw [show packerTo Text.compact (authRequest 8 (str "login") (str "pass")) = some buff from packed, Option.map_some,
        Option.some.injEq] at auth
      omega
  obtain ⟨u, connected, first⟩ := can_log_in fresh run down unused (by decide)
    (show str "localhost:10500" ≠ [] by decide)
    ⟨by decide, by decide, by decide, by decide +kernel, by decide +kernel⟩ fits
  obtain ⟨v, toRest, stuck⟩ := first.stops
  obtain ⟨x, clicked, second⟩ := first.there v toRest stuck
  obtain ⟨w', toRest', stuck'⟩ := second.stops
  exact ⟨w, u, v, x, w', run, connected, toRest, clicked, toRest', (second.there w' toRest' stuck').2.1⟩

end

end Gologin.Session
