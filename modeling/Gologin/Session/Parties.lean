import Gologin.Session.Ground

/-!
# The conversations of a world

Each client that is connected has a conversation with the server: the buttons and the session
it holds, the entry for its id, and what is under way on its link. A step of the world moves
one conversation, or none: the ids of the clients differ, and a link carries the requests of
one id.
-/

namespace Gologin.Session
set_option autoImplicit false
open Calls Messages Tcp Auth Gui

/-- The id that a request is about. -/
def Ask.names : Ask → Option UInt64
  | login id _ => some id
  | logout id => some id
  | _ => none

section
variable (A : Server.App) (login pass : Str)

/-- What is under way on the link of a client, if it has one. -/
def World.line (w : World) : Option Nat → Wire
  | some l => w.wire A login pass l
  | none => ⟨[], [], []⟩

/-- The conversation of a client. -/
def World.talk (w : World) (c : Client) : Talk where
  form := form c.frame
  session := c.cookie.clientSession
  entry := w.entry c.cookie.clientId
  asked := (w.line A login pass c.link).asked
  told := (w.line A login pass c.link).told
  heard := (w.line A login pass c.link).heard

/-- What a world keeps. -/
structure Conversing (w : World) : Prop where
  grounded : Grounded A login pass w
  drawn : ∀ l a id, a ∈ (w.wire A login pass l).asked → a.names = some id → id ∈ w.ids
  entries : ∀ id, w.entry id ≠ none → id ∈ w.ids
  idle : ∀ k, (w.clients k).status ≠ .connected → (w.clients k).link = none ∧ (form (w.clients k).frame).Idle
  fine : ∀ k, (w.clients k).status = .connected → Fine (w.talk A login pass (w.clients k))
  known : ∀ k, (w.clients k).status = .connected → (w.clients k).cookie.clientId ∈ w.ids
  own : ∀ k, (w.clients k).status = .connected → ∀ l a id, a ∈ (w.wire A login pass l).asked → a.names = some id →
    ((w.clients k).link = some l ↔ id = (w.clients k).cookie.clientId)
  apart : ∀ j k, j ≠ k → (w.clients j).status = .connected → (w.clients k).status = .connected →
    (w.clients j).cookie.clientId ≠ (w.clients k).cookie.clientId ∧
      ∀ l, (w.clients j).link = some l → (w.clients k).link ≠ some l

end

/-! ## A step of the server -/

section
variable {entry entry' : UInt64 → Option Str} {x x' : Wire}

theorem serve_first (serve : Serve entry x entry' x') : ∃ a, x.asked = a :: x'.asked ∧
    ∀ id, a.names ≠ some id → entry' id = entry id := by
  cases serve with
  | greet first => exact ⟨_, first, fun _ _ => rfl⟩
  | message first one => exact ⟨_, first, fun _ _ => rfl⟩
  | accept first none session =>
    exact ⟨_, first, fun id other => Function.update_of_ne (fun same => other (congrArg some same.symm)) _ _⟩
  | refuse first refused => exact ⟨_, first, fun _ _ => rfl⟩
  | remove first =>
    exact ⟨_, first, fun id other => Function.update_of_ne (fun same => other (congrArg some same.symm)) _ _⟩

/-- A request of a conversation is served. -/
theorem serve_move (serve : Serve entry x entry' x') {id : UInt64} (own : ∀ a ∈ x.asked, ∀ i, a.names = some i → i = id)
    (form : Form) (session : Str) :
    Talk.Move ⟨form, session, entry id, x.asked, x.told, x.heard⟩ ⟨form, session, entry' id, x'.asked, x'.told, x'.heard⟩ := by
  cases serve with
  | greet first => exact .greet first
  | message first one => exact .message first one
  | accept first none token =>
    obtain rfl := own _ (first ▸ List.mem_cons_self) _ rfl
    rw [Function.update_self]
    exact .accept first none token
  | refuse first refused =>
    obtain rfl := own _ (first ▸ List.mem_cons_self) _ rfl
    exact .refuse first refused
  | remove first =>
    obtain rfl := own _ (first ▸ List.mem_cons_self) _ rfl
    rw [Function.update_self]
    exact .remove first

end

section
variable {A : Server.App} {login pass : Str} {w w' : World}

/-- The conversation of a client that no request of its own was served in. -/
theorem talk_same {c : Client} (entry : w'.entry c.cookie.clientId = w.entry c.cookie.clientId)
    (wire : ∀ l, c.link = some l → w'.wire A login pass l = w.wire A login pass l) :
    w'.talk A login pass c = w.talk A login pass c := by
  have line : w'.line A login pass c.link = w.line A login pass c.link := by
    cases link : c.link with
    | none => rfl
    | some l => exact wire l link
  unfold World.talk
  rw [entry, line]

/-- **A step of the server is a move of one conversation at most.** -/
theorem Conversing.server_turn (h : Conversing A login pass w) (served : Served A login pass w w') {k : Nat}
    (up : (w.clients k).status = .connected) :
    w'.talk A login pass (w.clients k) = w.talk A login pass (w.clients k) ∨
      Talk.Move (w.talk A login pass (w.clients k)) (w'.talk A login pass (w.clients k)) := by
  rcases served with ⟨entry, wires⟩ | ⟨l, others, serve⟩
  · exact Or.inl (talk_same (congrFun entry _) fun l _ => wires l)
  · by_cases here : (w.clients k).link = some l
    · right
      have own : ∀ a ∈ (w.wire A login pass l).asked, ∀ i, a.names = some i → i = (w.clients k).cookie.clientId :=
        fun a member i names => (h.own k up l a i member names).1 here
      unfold World.talk
      rw [here]
      exact serve_move serve own _ _
    · left
      obtain ⟨a, first, same⟩ := serve_first serve
      refine talk_same (same _ fun names => ?_) fun l' there => others l' ?_
      · exact here ((h.own k up l a _ (first ▸ List.mem_cons_self) names).2 rfl)
      · rintro rfl
        exact here there

/-- What is asked for on the links is asked for before. -/
theorem served_asked (served : Served A login pass w w') (l : Nat) :
    ∀ a ∈ (w'.wire A login pass l).asked, a ∈ (w.wire A login pass l).asked := by
  intro a member
  rcases served with ⟨_, wires⟩ | ⟨n, others, serve⟩
  · exact wires l ▸ member
  · by_cases same : l = n
    · subst same
      obtain ⟨b, first, _⟩ := serve_first serve
      exact first ▸ List.mem_cons_of_mem b member
    · exact others l same ▸ member

theorem conversing_served (h : Conversing A login pass w) (grounded : Grounded A login pass w')
    (served : Served A login pass w w') (clients : w'.clients = w.clients) (ids : w'.ids = w.ids) :
    Conversing A login pass w' := by
  have asked := served_asked served
  refine ⟨grounded, ?_, ?_, clients ▸ h.idle, ?_, ?_, ?_, clients ▸ h.apart⟩
  · intro l a id member names
    exact ids ▸ h.drawn l a id (asked l a member) names
  · intro id there
    rw [ids]
    rcases served with ⟨entry, _⟩ | ⟨l, _, serve⟩
    · exact h.entries id (entry ▸ there)
    · obtain ⟨a, first, same⟩ := serve_first serve
      by_cases names : a.names = some id
      · exact h.drawn l a id (first ▸ List.mem_cons_self) names
      · exact h.entries id (same id names ▸ there)
  · intro k up
    rw [clients] at up ⊢
    rcases h.server_turn served up with same | move
    · exact same ▸ h.fine k up
    · exact fine_move (h.fine k up) move
  · rw [clients, ids]
    exact h.known
  · intro k up l a id member names
    rw [clients] at up ⊢
    exact h.own k up l a id (asked l a member) names

end

/-! ## A step of a client -/

section
variable {A : Server.App} {login pass : Str} {w : World} {k : Nat} {e : Gui.Event} {c : Client} {sent : List Packet}

theorem wire_after (l : Nat) : (w.after k e c sent).wire A login pass l =
    if c.link = some l then
      { asked := (w.wire A login pass l).asked ++ sent.flatMap (asks login pass A)
        told := ((w.unread l).drop (reads e)).flatMap (replies A.json) ++ (w.handed A login pass l).2
        heard := ((w.delivered l).take ((w.links l).received + reads e)).flatMap (replies A.json) }
    else w.wire A login pass l := by
  have handed : (w.after k e c sent).handed A login pass l = w.handed A login pass l := rfl
  have delivered : (w.after k e c sent).delivered l = w.delivered l := rfl
  unfold World.wire World.unread World.read
  rw [handed, delivered, links_after]
  split
  · simp only [List.flatMap_append, List.append_assoc, List.drop_drop]
  · rfl

/-- A client that reads nothing. -/
theorem talk_after (quiet : reads e = 0) (carried : sent = [] ∨ c.link ≠ none) :
    (w.after k e c sent).talk A login pass c =
      { w.talk A login pass c with asked := (w.talk A login pass c).asked ++ sent.flatMap (asks login pass A) } := by
  have entry : (w.after k e c sent).entry = w.entry := rfl
  unfold World.talk World.line
  rw [entry]
  cases link : c.link with
  | none =>
    obtain rfl := carried.resolve_right fun some_ => some_ link
    rfl
  | some l =>
    simp only [wire_after, link, if_true, quiet, List.drop_zero, Nat.add_zero]
    rfl

/-- A link that is not open. -/
theorem Grounded.wire_unopened (h : Grounded A login pass w) {l : Nat} (unopened : w.opened ≤ l) :
    w.wire A login pass l = ⟨[], [], []⟩ := by
  have away : w.server.conns[l]? = none := List.getElem?_eq_none (Nat.le_trans h.accepted unopened)
  have bare : onWire l w.server.log = [] := by
    rw [List.eq_nil_iff_forall_not_mem]
    intro packet member
    have := (h.written l packet member).1
    have := h.accepted
    omega
  unfold World.wire World.handed World.unread World.read World.delivered
  rw [h.unopened l unopened, away, bare]
  rfl

/-- Nothing has happened where a client may click connect. -/
theorem Fine.connectable {t : Talk} (fine : Fine t) (clickable : t.form.connect.Clickable) :
    t.form.Idle ∧ t = .init t.form t.session := by
  rcases fine.phase with greeting | talking
  · have quiet : t.asked = [] ∧ t.told = [] := by
      rcases greeting.underway with none | ⟨off, _⟩
      · exact none
      · exact absurd (clickable.2.symm.trans off) nofun
    have shown : t.form.login.shown = true := congrArg Button.shown greeting.login
    refine ⟨⟨greeting.login, ?_, ?_⟩, ?_⟩
    · rw [fine.logout, shown]
      rfl
    · rw [fine.send, shown]
      rfl
    · obtain ⟨form, session, entry, asked, told, heard⟩ := t
      obtain ⟨rfl, rfl⟩ := quiet
      obtain rfl := greeting.entry
      obtain rfl := greeting.heard
      rfl
  · exact absurd (clickable.1.symm.trans talking.connect) nofun

/-- **A connection that is made begins a new conversation**, and so does another click on
connect when the hello was not sent. -/
theorem Conversing.joins (h : Conversing A login pass w) {result : Client.ConnectResult} {n : Nat} {clientId : UInt64} (fresh : clientId ∉ w.ids) (next : n = w.opened)
    (clickable : (w.clients k).frame.connectButton.Clickable)
    (up : ((w.clients k).connect result n).status = .connected) :
    (form (w.clients k).frame).Idle ∧
      w.line A login pass ((w.clients k).connect result n).link = ⟨[], [], []⟩ ∧ w.entry clientId = none := by
  have entry : w.entry clientId = none := by
    by_contra there
    exact fresh (h.entries clientId there)
  unfold Client.connect at up ⊢
  by_cases before : (w.clients k).status = .connected
  · obtain ⟨idle, same⟩ := (h.fine k before).connectable clickable
    simp only [if_pos before]
    exact ⟨idle, Wire.ext (congrArg Talk.asked same) (congrArg Talk.told same) (congrArg Talk.heard same), entry⟩
  · simp only [if_neg before] at up ⊢
    refine ⟨(h.idle k before).2, ?_, entry⟩
    cases result with
    | initError | connectError => exact absurd up nofun
    | unresolved => rfl
    | up => exact h.grounded.wire_unopened (Nat.le_of_eq next.symm)

theorem Conversing.talk_join (h : Conversing A login pass w) {result : Client.ConnectResult} {n : Nat}
    {clientId : UInt64} (fresh : clientId ∉ w.ids) (next : n = w.opened)
    (clickable : (w.clients k).frame.connectButton.Clickable)
    (up : ((w.clients k).connect result n).status = .connected) :
    (Talk.init (form (w.clients k).frame) (w.clients k).cookie.clientSession).New ∧
      w.talk A login pass { (w.clients k).connect result n with cookie.clientId := clientId } =
        .init (form (w.clients k).frame) (w.clients k).cookie.clientSession := by
  obtain ⟨idle, line, entry⟩ := h.joins fresh next clickable up
  obtain ⟨frame, cookie⟩ := connect_frame (w.clients k) result n
  refine ⟨⟨_, _, idle, rfl⟩, ?_⟩
  unfold World.talk
  dsimp only
  rw [line, entry, frame, cookie]
  rfl

/-- A text in the status bar leaves the conversation as it is. -/
theorem talk_report (quiet : reads e = 0) (c : Client) (text : Str) :
    (w.after k e (c.setStatusText text) []).talk A login pass (c.setStatusText text) = w.talk A login pass c := by
  rw [talk_after quiet (Or.inl rfl), List.flatMap_nil, List.append_nil]
  rfl

variable {B : Gui.App A.json}

theorem replied_cases (a : Answer) : replied a = [] ∨ ∃ r, replied a = [r] := by
  cases a with
  | message => exact Or.inl rfl
  | _ => exact Or.inr ⟨_, rfl⟩

/-- A packet that is read. -/
theorem Conversing.reads (h : Conversing A login pass w) {packet : Packet} {l : Nat}
    (link : (w.clients k).link = some l) (next : (w.unread l).head? = some packet) :
    Talk.Turn (w.talk A login pass (w.clients k)) []
      ((w.after k (.receive packet) ((w.clients k).receive B packet) []).talk A login pass
        ((w.clients k).receive B packet)) := by
  have member : packet ∈ w.unread l := List.mem_of_mem_head? next
  obtain ⟨rest, unread⟩ : ∃ rest, w.unread l = packet :: rest := List.head?_eq_some_iff.1 next
  obtain ⟨_, a, read⟩ := h.grounded.written l packet (List.mem_reverse.1 (List.mem_of_mem_drop member))
  obtain ⟨same, stored⟩ := tell_replied a (w.clients k)
  obtain ⟨_, link', id'⟩ := receive_rest B packet (w.clients k)
  rw [receive_of_answer B read] at link' id'
  have spoken : replies A.json packet = replied a := by
    unfold replies
    rw [read]
  have told : (w.wire A login pass l).told =
      replied a ++ (rest.flatMap (replies A.json) ++ (w.handed A login pass l).2) := by
    unfold World.wire
    rw [unread, List.flatMap_cons, spoken, List.append_assoc]
  have heard : (w.delivered l).take ((w.links l).received + 1) = w.read l ++ [packet] := by
    rw [List.take_add]
    change w.read l ++ (w.unread l).take 1 = _
    rw [unread]
    rfl
  have wire : (w.after k (.receive packet) (a.tell (w.clients k)) []).wire A login pass l =
      ⟨(w.wire A login pass l).asked, rest.flatMap (replies A.json) ++ (w.handed A login pass l).2,
        (w.wire A login pass l).heard ++ replied a⟩ := by
    rw [wire_after, if_pos (link'.trans link)]
    simp only [Session.reads, heard, unread, List.drop_one, List.tail_cons, List.flatMap_append, List.flatMap_cons,
      List.flatMap_nil, List.append_nil, spoken]
    rfl
  have before : w.talk A login pass (w.clients k) = ⟨form (w.clients k).frame, (w.clients k).cookie.clientSession,
      w.entry (w.clients k).cookie.clientId, (w.wire A login pass l).asked,
      replied a ++ (rest.flatMap (replies A.json) ++ (w.handed A login pass l).2), (w.wire A login pass l).heard⟩ := by
    unfold World.talk World.line
    rw [link, told]
  have behind : (w.after k (.receive packet) (a.tell (w.clients k)) []).talk A login pass (a.tell (w.clients k)) =
      ⟨(replied a).foldl (fun f r => r.alter f) (form (w.clients k).frame),
        (replied a).foldl Reply.store (w.clients k).cookie.clientSession, w.entry (w.clients k).cookie.clientId,
        (w.wire A login pass l).asked, rest.flatMap (replies A.json) ++ (w.handed A login pass l).2,
        (w.wire A login pass l).heard ++ replied a⟩ := by
    unfold World.talk World.line
    rw [same, stored, id', link', link]
    dsimp only
    rw [wire]
    rfl
  rw [receive_of_answer B read, before, behind]
  rcases replied_cases a with none | ⟨r, one⟩
  · rw [none, List.append_nil]
    exact .still
  · rw [one]
    exact .read (.read rfl)

/-- Where a client's step starts from: a click on connect starts a conversation. -/
def Starts (A : Server.App) (login pass : Str) (w : World) (c : Client) (e : Gui.Event) (t : Talk) : Prop :=
  (draws e ≠ [] ∧ t.New) ∨ (draws e = [] ∧ c.status = .connected ∧ t = w.talk A login pass c)

theorem asks_one {packet : Packet} {request : Server.Request} (read : A.request packet = some request) :
    [packet].flatMap (asks login pass A) = asked login pass request := by
  rw [List.flatMap_cons, List.flatMap_nil, List.append_nil]
  unfold asks
  rw [read]

/-- A client that only tells its user something stays where it was in its conversation. -/
theorem report_turn (drawn : draws e = []) (unread : reads e = 0) (up : (w.clients k).status = .connected) (text : Str) :
    ∃ t, Starts A login pass w (w.clients k) e t ∧
      t.Turn [] ((w.after k e ((w.clients k).setStatusText text) []).talk A login pass
        ((w.clients k).setStatusText text)) := by
  refine ⟨_, Or.inr ⟨drawn, up, rfl⟩, ?_⟩
  rw [talk_report unread]
  exact .still

/-- **A step of a client is a turn of its conversation.** -/
theorem Conversing.client_turn (h : Conversing A login pass w) (fresh : ∀ id ∈ draws e, id ∉ w.ids)
    (admitted : w.Admits (w.clients k) e) (acted : act B (w.clients k) e = some (c, sent))
    (carried : sent = [] ∨ c.link ≠ none) (up : c.status = .connected) :
    ∃ t, Starts A login pass w (w.clients k) e t ∧
      t.Turn (sent.flatMap (asks login pass A)) ((w.after k e c sent).talk A login pass c) := by
  cases e with
  | connect address result n clientId ok =>
    have clickable : (w.clients k).frame.connectButton.Clickable := by
      simp only [act] at acted
      split at acted
      · rename_i both
        exact both.1
      · cases acted
    have new := fresh clientId (List.mem_singleton.2 rfl)
    cases act_cases acted with
    | report text =>
      obtain ⟨idle, same⟩ := (h.fine k up).connectable clickable
      refine ⟨_, Or.inl ⟨List.cons_ne_nil _ _, _, _, idle, same⟩, ?_⟩
      rw [talk_report rfl]
      exact .still
    | unconnected down still text => exact absurd up still
    | unheard clickable' connected text =>
      obtain ⟨start, join⟩ := h.talk_join new admitted clickable connected
      refine ⟨_, Or.inl ⟨List.cons_ne_nil _ _, start⟩, ?_⟩
      rw [talk_report rfl, join]
      exact .still
    | hello clickable' connected packed =>
      obtain ⟨start, join⟩ := h.talk_join new admitted clickable connected
      refine ⟨_, Or.inl ⟨List.cons_ne_nil _ _, start⟩, ?_⟩
      have click := Talk.Click.greet (show (Talk.init (form (w.clients k).frame)
        (w.clients k).cookie.clientSession).form.connect.Clickable from clickable)
      rw [talk_after rfl carried, asks_one (request_hello packed)]
      rw [← join] at click ⊢
      exact .click click
  | disconnect =>
    cases act_cases acted with
    | report text => exact report_turn rfl rfl up text
    | disconnect clickable down => cases up.symm.trans down
  | login userpass ok =>
    cases act_cases acted with
    | report text => exact report_turn rfl rfl up text
    | login clickable packed =>
      refine ⟨_, Or.inr ⟨rfl, up, rfl⟩, ?_⟩
      rw [talk_after rfl carried, asks_one (request_login packed)]
      exact .click (.login clickable _ _)
  | logout ok =>
    cases act_cases acted with
    | report text => exact report_turn rfl rfl up text
    | logout clickable packed =>
      refine ⟨_, Or.inr ⟨rfl, up, rfl⟩, ?_⟩
      rw [talk_after rfl carried, asks_one (request_logout packed)]
      exact .click (.logout clickable _)
  | send msg ok =>
    cases act_cases acted with
    | report text => exact report_turn rfl rfl up text
    | send clickable packed =>
      refine ⟨_, Or.inr ⟨rfl, up, rfl⟩, ?_⟩
      rw [talk_after rfl carried, asks_one (request_message packed)]
      exact .click (.send clickable)
  | receive packet =>
    simp only [act] at acted
    split at acted
    · rename_i before
      cases acted
      obtain ⟨l, link, next⟩ := Option.bind_eq_some_iff.1 admitted
      exact ⟨_, Or.inr ⟨rfl, before, rfl⟩, h.reads link next⟩
    · cases acted

/-- A client that is connected stays who and where it was, or has an id that was drawn. -/
theorem act_stays {c c' : Client} (acted : act B c e = some (c', sent)) (up : c'.status = .connected) :
    (c.status = .connected ∧ c'.link = c.link ∧ c'.cookie.clientId = c.cookie.clientId) ∨
      draws e = [c'.cookie.clientId] := by
  cases act_cases acted with
  | report | login | logout | send => exact Or.inl ⟨up, rfl, rfl⟩
  | unconnected down still text => exact absurd up still
  | unheard | hello => exact Or.inr rfl
  | disconnect clickable down => exact absurd (up.symm.trans down) nofun
  | receive before =>
    exact Or.inl ⟨before, (receive_rest B _ c).2⟩

/-- A client that is not connected has no link, and idle buttons. -/
theorem Conversing.leaves (h : Conversing A login pass w) (acted : act B (w.clients k) e = some (c, sent))
    (down : c.status ≠ .connected) : c.link = none ∧ (form c.frame).Idle := by
  cases act_cases acted with
  | report text => exact h.idle k down
  | unconnected before still text => exact h.idle k before
  | unheard clickable connected | hello clickable connected => exact absurd connected down
  | disconnect clickable away =>
    refine ⟨?_, ⟨rfl, rfl, rfl⟩⟩
    change (w.clients k).disconnect.link = none
    unfold Client.disconnect
    by_cases before : (w.clients k).status = .connected
    · rw [if_pos before]
    · rw [if_neg before]
      exact (h.idle k before).1
  | login clickable packed => exact absurd clickable (h.idle k down).2.unclickable.1
  | logout clickable packed => exact absurd clickable (h.idle k down).2.unclickable.2.1
  | send clickable packed => exact absurd clickable (h.idle k down).2.unclickable.2.2
  | receive before =>
    exact absurd ((receive_rest B _ _).1.trans before) down

/-- The requests of a client are about its own id. -/
theorem act_names {c c' : Client} (acted : act B c e = some (c', sent)) :
    ∀ a ∈ sent.flatMap (asks login pass A), ∀ id, a.names = some id → id = c'.cookie.clientId := by
  intro a member id names
  cases act_cases acted with
  | hello clickable up packed =>
    rw [asks_one (request_hello packed)] at member
    obtain rfl := List.mem_singleton.1 member
    cases names
  | login clickable packed =>
    rw [asks_one (request_login packed)] at member
    obtain rfl := List.mem_singleton.1 member
    exact (Option.some.inj names).symm
  | logout clickable packed =>
    rw [asks_one (request_logout packed)] at member
    obtain rfl := List.mem_singleton.1 member
    exact (Option.some.inj names).symm
  | send clickable packed =>
    rw [asks_one (request_message packed)] at member
    obtain rfl := List.mem_singleton.1 member
    cases names
  | _ => cases member

theorem clients_after (j : Nat) : (j = k ∧ (w.after k e c sent).clients j = c) ∨
    (j ≠ k ∧ (w.after k e c sent).clients j = w.clients j) := by
  change (j = k ∧ Function.update w.clients k c j = c) ∨ (j ≠ k ∧ Function.update w.clients k c j = w.clients j)
  by_cases same : j = k
  · subst same
    exact Or.inl ⟨rfl, Function.update_self _ _ _⟩
  · exact Or.inr ⟨same, Function.update_of_ne same _ _⟩

theorem asked_after {l : Nat} {a : Ask} (member : a ∈ ((w.after k e c sent).wire A login pass l).asked) :
    a ∈ (w.wire A login pass l).asked ∨ (c.link = some l ∧ a ∈ sent.flatMap (asks login pass A)) := by
  rw [wire_after] at member
  split at member
  · rename_i link
    exact (List.mem_append.1 member).imp_right fun new => ⟨link, new⟩
  · exact Or.inl member

/-- No two clients are on one link. -/
theorem Conversing.others (h : Conversing A login pass w) (admitted : w.Admits (w.clients k) e)
    (acted : act B (w.clients k) e = some (c, sent)) {j : Nat} (other : j ≠ k) (up : (w.clients j).status = .connected)
    {l : Nat} (link : (w.clients j).link = some l) : c.link ≠ some l := by
  intro here
  rcases act_link acted with same | none | ⟨_, _, n, _, _, rfl, new⟩
  · by_cases before : (w.clients k).status = .connected
    · exact (h.apart j k other up before).2 l link (same ▸ here)
    · exact absurd ((h.idle k before).1.symm.trans (same.symm.trans here)) nofun
  · cases none.symm.trans here
  · cases new.symm.trans here
    cases admitted
    exact absurd (h.grounded.linked j _ link) (Nat.lt_irrefl _)

/-- A step of a client leaves the conversations of the others alone. -/
theorem Conversing.untouched (h : Conversing A login pass w) (admitted : w.Admits (w.clients k) e)
    (acted : act B (w.clients k) e = some (c, sent)) {j : Nat} (other : j ≠ k)
    (up : (w.clients j).status = .connected) :
    (w.after k e c sent).talk A login pass (w.clients j) = w.talk A login pass (w.clients j) := by
  refine talk_same rfl fun l link => ?_
  rw [wire_after, if_neg (h.others admitted acted other up link)]

/-- A client begins under an id that is its own. -/
theorem Conversing.own_after (h : Conversing A login pass w) (fresh : ∀ id ∈ draws e, id ∉ w.ids)
    (admitted : w.Admits (w.clients k) e) (acted : act B (w.clients k) e = some (c, sent))
    (carried : sent = [] ∨ c.link ≠ none) (up : c.status = .connected) {l : Nat} {a : Ask} {id : UInt64}
    (member : a ∈ ((w.after k e c sent).wire A login pass l).asked) (names : a.names = some id) :
    c.link = some l ↔ id = c.cookie.clientId := by
  rcases act_stays acted up with ⟨before, link, same⟩ | drawn
  · rcases asked_after member with old | ⟨here, new⟩
    · rw [link, same]
      exact h.own k before l a id old names
    · exact iff_of_true here (act_names acted a new id names)
  · obtain ⟨t, starts, turn⟩ := h.client_turn fresh admitted acted carried up
    have away : c.link ≠ some l := by
      intro here
      have asked : ((w.after k e c sent).talk A login pass c).asked =
          ((w.after k e c sent).wire A login pass l).asked := by
        unfold World.talk World.line
        rw [here]
      rw [← asked] at member
      rcases starts with ⟨_, new⟩ | ⟨none, _⟩
      · obtain ⟨same, one⟩ := new_turn new turn
        rw [same] at member
        rcases one with empty | hello
        · rw [empty] at member
          cases member
        · rw [hello] at member
          obtain rfl := List.mem_singleton.1 member
          cases names
      · cases drawn.symm.trans none
    refine iff_of_false away fun same => ?_
    rcases asked_after member with old | ⟨here, _⟩
    · exact fresh id (by rw [drawn, same]; exact List.mem_singleton.2 rfl) (h.drawn l a id old names)
    · exact away here

/-- A client that is connected has an id that was drawn. -/
theorem Conversing.known_after (h : Conversing A login pass w) (acted : act B (w.clients k) e = some (c, sent))
    (up : c.status = .connected) : c.cookie.clientId ∈ (w.after k e c sent).ids := by
  rcases act_stays acted up with ⟨before, _, same⟩ | drawn
  · exact List.mem_append_right _ (same ▸ h.known k before)
  · exact List.mem_append_left _ (drawn ▸ List.mem_singleton.2 rfl)

/-- No other client has its id, or is on its link. -/
theorem Conversing.apart_after (h : Conversing A login pass w) (fresh : ∀ id ∈ draws e, id ∉ w.ids)
    (admitted : w.Admits (w.clients k) e) (acted : act B (w.clients k) e = some (c, sent)) {j : Nat} (other : j ≠ k)
    (upj : (w.clients j).status = .connected) (up : c.status = .connected) :
    (w.clients j).cookie.clientId ≠ c.cookie.clientId ∧ ∀ l, (w.clients j).link = some l → c.link ≠ some l := by
  refine ⟨?_, fun l link => h.others admitted acted other upj link⟩
  rcases act_stays acted up with ⟨before, _, same⟩ | drawn
  · exact same ▸ (h.apart j k other upj before).1
  · intro same
    exact fresh c.cookie.clientId (drawn ▸ List.mem_singleton.2 rfl) (same ▸ h.known j upj)

theorem conversing_client (h : Conversing A login pass w) (fresh : ∀ id ∈ draws e, id ∉ w.ids)
    (admitted : w.Admits (w.clients k) e) (acted : act B (w.clients k) e = some (c, sent))
    (carried : sent = [] ∨ c.link ≠ none) : Conversing A login pass (w.after k e c sent) := by
  have more {id : UInt64} (known : id ∈ w.ids) : id ∈ (w.after k e c sent).ids := List.mem_append_right _ known
  refine ⟨grounded_client h.grounded admitted acted, ?_, ?_, ?_, ?_, ?_, ?_, ?_⟩
  · intro l a id member names
    rcases asked_after member with old | ⟨link, new⟩
    · exact more (h.drawn l a id old names)
    · obtain rfl := act_names acted a new id names
      by_cases up : c.status = .connected
      · exact h.known_after acted up
      · exact absurd ((h.leaves acted up).1.symm.trans link) nofun
  · exact fun id there => more (h.entries id there)
  · intro j down
    rcases @clients_after w k e c sent j with ⟨_, same⟩ | ⟨_, same⟩
    · rw [same] at down ⊢
      exact h.leaves acted down
    · rw [same] at down ⊢
      exact h.idle j down
  · intro j up
    rcases @clients_after w k e c sent j with ⟨_, same⟩ | ⟨other, same⟩
    · rw [same] at up ⊢
      obtain ⟨t, starts, turn⟩ := h.client_turn fresh admitted acted carried up
      refine fine_turn ?_ turn
      rcases starts with ⟨_, new⟩ | ⟨_, before, rfl⟩
      · exact fine_new new
      · exact h.fine k before
    · rw [same] at up ⊢
      rw [h.untouched admitted acted other up]
      exact h.fine j up
  · intro j up
    rcases @clients_after w k e c sent j with ⟨_, same⟩ | ⟨_, same⟩
    · rw [same] at up ⊢
      exact h.known_after acted up
    · rw [same] at up ⊢
      exact more (h.known j up)
  · intro j up l a id member names
    rcases @clients_after w k e c sent j with ⟨_, same⟩ | ⟨other, same⟩
    · rw [same] at up ⊢
      exact h.own_after fresh admitted acted carried up member names
    · rw [same] at up ⊢
      rcases asked_after member with old | ⟨link, new⟩
      · exact h.own j up l a id old names
      · obtain rfl := act_names acted a new id names
        have connected : c.status = .connected := by
          by_contra down
          exact absurd ((h.leaves acted down).1.symm.trans link) nofun
        obtain ⟨ids, links⟩ := h.apart_after fresh admitted acted other up connected
        exact iff_of_false (fun there => links l there link) (Ne.symm ids)
  · intro i j different upi upj
    rcases @clients_after w k e c sent i with ⟨rfl, samei⟩ | ⟨otheri, samei⟩
    · rcases @clients_after w i e c sent j with ⟨rfl, _⟩ | ⟨otherj, samej⟩
      · exact absurd rfl different
      · rw [samei] at upi ⊢
        rw [samej] at upj ⊢
        obtain ⟨ids, links⟩ := h.apart_after fresh admitted acted otherj upj upi
        exact ⟨Ne.symm ids, fun l here there => links l there here⟩
    · rcases @clients_after w k e c sent j with ⟨rfl, samej⟩ | ⟨otherj, samej⟩
      · rw [samei] at upi ⊢
        rw [samej] at upj ⊢
        exact h.apart_after fresh admitted acted otheri upi upj
      · rw [samei] at upi ⊢
        rw [samej] at upj ⊢
        exact h.apart i j different upi upj

end

/-! ## Every step -/

section
variable {A : Server.App} {B : Gui.App A.json} {login pass : Str} {w w' : World}

theorem fresh_draws {k : Nat} {e : Gui.Event} (fresh : FreshId w (.client k e)) : ∀ id ∈ draws e, id ∉ w.ids := by
  intro id member
  cases e with
  | connect =>
    obtain rfl := List.mem_singleton.1 member
    exact fresh
  | _ => cases member

/-- **Every step keeps the conversations.** -/
theorem conversing_step (h : Conversing A login pass w) {e : Event} (fresh : FreshId w e)
    (taken : step A B w e = some w') : Conversing A login pass w' := by
  cases e with
  | server e =>
    obtain ⟨served, clients, ids⟩ := served_step h.grounded taken
    exact conversing_served h (grounded_step h.grounded taken) served clients ids
  | client k e =>
    cases step_cases taken with
    | client admitted acted carried => exact conversing_client h (fresh_draws fresh) admitted acted carried

end

theorem conversing_init (A : Server.App) (login pass : Str) (clientIds : Nat → UInt64) :
    Conversing A login pass (.init login pass clientIds) where
  grounded := grounded_init A login pass clientIds
  drawn l a id member := by
    rw [(grounded_init A login pass clientIds).wire_unopened (Nat.zero_le l)] at member
    cases member
  entries id there := by
    refine absurd ?_ there
    change Option.map _ ((∅ : Tables.Table UInt64 AuthClient).lookup id) = none
    rw [AList.lookup_empty]
    rfl
  idle k _ := ⟨rfl, ⟨rfl, rfl, rfl⟩⟩
  fine := nofun
  known := nofun
  own := nofun
  apart := nofun

end Gologin.Session
