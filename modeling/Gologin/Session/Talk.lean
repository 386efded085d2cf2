import Gologin.Lib.Fifo
import Gologin.Client.Frame

/-!
# The conversation of a client

One client and the server, as far as logging in and out goes: the buttons of the window, the
session the client holds, the session of the provider's entry for the client's id, the
requests and the replies under way, and the replies read so far. What the client will come to
once everything under way has arrived is decided by its clicks alone.
-/

namespace Gologin.Session
set_option autoImplicit false
open Gui

/-- The buttons of the window. -/
structure Form where
  connect : Button
  disconnect : Button
  login : Button
  logout : Button
  send : Button
  deriving DecidableEq, Repr

namespace Form

def waiting (f : Form) : Form := { f with connect.enabled := false }

def greeted (f : Form) : Form :=
  { f with disconnect.shown := true, login.enabled := true, logout.enabled := true, connect.shown := false }

def loggedIn (f : Form) : Form := { f with logout := ⟨true, true⟩, login.shown := false, send.enabled := true }

def loggedOut (f : Form) : Form :=
  { f with login.shown := true, logout.shown := false, send.enabled := false }

def parted (f : Form) : Form := { f with logout.enabled := false }

def reset (f : Form) : Form :=
  { f with
    connect := ⟨true, true⟩
    disconnect.shown := false
    send.enabled := false
    login := ⟨true, false⟩
    logout.shown := false }

/-- No request can be sent but a hello. -/
structure Idle (f : Form) : Prop where
  login : f.login = ⟨true, false⟩
  logout : f.logout.shown = false
  send : f.send.enabled = false

end Form

/-- A request, with the id it names; a login tells whether its credentials are right. -/
inductive Ask where
  | hello
  | login (id : UInt64) (right : Bool)
  | logout (id : UInt64)
  | message
  deriving DecidableEq, Repr

/-- A reply. -/
inductive Reply where
  | hello
  | login (ok : Bool) (session : Str)
  | logout (ok : Bool)
  | message
  deriving DecidableEq, Repr

namespace Reply

/-- What a reply does to the buttons. -/
def alter (f : Form) : Reply → Form
  | hello => f.greeted
  | login true _ => f.loggedIn
  | login false _ => f
  | logout true => f.parted
  | logout false => f
  | message => f

/-- What it does to `m_cookie._client_session`. -/
def store (session : Str) : Reply → Str
  | login _ session => session
  | _ => session

end Reply

/-- Where the conversation stands. -/
structure Talk where
  form : Form
  session : Str
  entry : Option Str
  asked : List Ask
  told : List Reply
  heard : List Reply

namespace Talk

/-- A new conversation, under an id that has no entry. -/
def init (form : Form) (session : Str) : Talk := ⟨form, session, none, [], [], []⟩

def ask (t : Talk) (form : Form) (a : Ask) : Talk := { t with form := form, asked := t.asked ++ [a] }

/-- A click that sends a request. -/
inductive Click (t : Talk) : Ask → Talk → Prop where
  | greet (clickable : t.form.connect.Clickable) : Click t .hello (t.ask t.form.waiting .hello)
  | login (clickable : t.form.login.Clickable) (id : UInt64) (right : Bool) :
      Click t (.login id right) (t.ask t.form.loggedIn (.login id right))
  | logout (clickable : t.form.logout.Clickable) (id : UInt64) :
      Click t (.logout id) (t.ask t.form.loggedOut (.logout id))
  | send (clickable : t.form.send.Clickable) : Click t .message (t.ask t.form .message)

/-- A request is served, or a reply is read. -/
inductive Move (t : Talk) : Talk → Prop where
  | greet {as : List Ask} (first : t.asked = .hello :: as) :
      Move t { t with asked := as, told := t.told ++ [.hello] }
  | message {as : List Ask} (first : t.asked = .message :: as) {replies : List Reply}
      (one : replies = [] ∨ replies = [.message]) : Move t { t with asked := as, told := t.told ++ replies }
  | accept {as : List Ask} {id : UInt64} (first : t.asked = .login id true :: as) (none : t.entry = none)
      (session : Str) :
      Move t { t with entry := some session, asked := as, told := t.told ++ [.login true session] }
  | refuse {as : List Ask} {id : UInt64} {right : Bool} (first : t.asked = .login id right :: as)
      (refused : right = false ∨ t.entry.isSome = true) :
      Move t { t with asked := as, told := t.told ++ [.login false []] }
  | remove {as : List Ask} {id : UInt64} (first : t.asked = .logout id :: as) :
      Move t { t with entry := none, asked := as, told := t.told ++ [.logout t.entry.isSome] }
  | read {r : Reply} {rs : List Reply} (first : t.told = r :: rs) :
      Move t
        { t with form := r.alter t.form, session := r.store t.session, told := rs, heard := t.heard ++ [r] }

/-- What a client does: a click, a reply that is read, or nothing to the conversation. -/
inductive Turn (t : Talk) : List Ask → Talk → Prop where
  | still : Turn t [] t
  | click {a : Ask} {t' : Talk} (click : Click t a t') : Turn t [a] t'
  | read {t' : Talk} (move : Move t t') : Turn t [] t'

/-- A conversation before its hello. -/
def New (t : Talk) : Prop := ∃ form session, form.Idle ∧ t = .init form session

end Talk

/-! ## What is under way -/

/-- What a reply decides. -/
inductive Verdict where
  | greeted
  | login (ok : Bool)
  | logout (ok : Bool)
  deriving DecidableEq, Repr

def Reply.verdict : Reply → Option Verdict
  | hello => some .greeted
  | login ok _ => some (.login ok)
  | logout ok => some (.logout ok)
  | message => none

/-- Whether the login button is hidden, and whether the logout button is enabled. -/
structure Look where
  hidden : Bool
  enabled : Bool
  deriving DecidableEq, Repr

def Form.look (f : Form) : Look := ⟨!f.login.shown, f.logout.enabled⟩

def Verdict.tell (look : Look) : Verdict → Look
  | greeted => { look with enabled := true }
  | login true => ⟨true, true⟩
  | login false => look
  | logout true => { look with enabled := false }
  | logout false => look

/-- The provider, as far as one id goes: whether it has an entry. -/
def provider : Fifo.Server Bool Ask Verdict where
  next entry
    | .login _ right => entry || right
    | .logout _ => false
    | _ => entry
  replies entry
    | .hello => [.greeted]
    | .login _ right => [.login (right && !entry)]
    | .logout _ => [.logout entry]
    | .message => []

namespace Talk

def line (t : Talk) : Fifo.Line Bool Ask Verdict Look :=
  ⟨t.entry.isSome, t.asked, t.told.filterMap Reply.verdict, t.form.look⟩

/-- The replies that are still to be read. -/
def outstanding (t : Talk) : List Verdict := Fifo.outstanding provider t.line

/-- The buttons once they are read. -/
def outlook (t : Talk) : Look := Fifo.outlook provider Verdict.tell t.line

/-- Whether there will be an entry then. -/
def final (t : Talk) : Bool := provider.final t.entry.isSome t.asked

/-- Nothing is under way. -/
def Quiet (t : Talk) : Prop := t.asked = [] ∧ t.told = []

theorem look_alter (f : Form) (r : Reply) :
    (r.alter f).look = match r.verdict with
      | some v => v.tell f.look
      | none => f.look := by
  cases r with
  | hello | message => rfl
  | login ok session => cases ok <;> rfl
  | logout ok => cases ok <;> rfl

theorem outlook_served {t : Talk} {a : Ask} {as : List Ask} (first : t.asked = a :: as) {entry : Option Str}
    {replies : List Reply} (next : entry.isSome = provider.next t.entry.isSome a)
    (replied : replies.filterMap Reply.verdict = provider.replies t.entry.isSome a) :
    outlook { t with entry := entry, asked := as, told := t.told ++ replies } = t.outlook ∧
      final { t with entry := entry, asked := as, told := t.told ++ replies } = t.final := by
  constructor
  · simp only [outlook, line, List.filterMap_append, first]
    exact Fifo.outlook_serve next replied
  · simp only [final, first, next]
    rfl

/-- **What is under way is decided.** Serving a request and reading a reply change neither. -/
theorem outlook_move {t t' : Talk} (move : Move t t') : t'.outlook = t.outlook ∧ t'.final = t.final := by
  cases move with
  | greet first => exact outlook_served first rfl rfl
  | message first one =>
    apply outlook_served first rfl
    rcases one with rfl | rfl <;> rfl
  | accept first none session =>
    apply outlook_served first
    · rw [none]
      rfl
    · rw [none]
      rfl
  | refuse first refused =>
    rename_i right
    apply outlook_served first
    · rcases refused with rfl | there
      · exact (Bool.or_false _).symm
      · simp only [provider, there, Bool.true_or]
    · rcases refused with rfl | there
      · rfl
      · simp only [provider, there, Bool.not_true, Bool.and_false]
        rfl
  | remove first => exact outlook_served first rfl rfl
  | read first =>
    rename_i r rs
    refine ⟨?_, rfl⟩
    unfold outlook line
    dsimp only
    rw [look_alter, first, List.filterMap_cons]
    cases r.verdict with
    | none => rfl
    | some v => exact Fifo.outlook_tell.symm

end Talk

/-! ## What holds of every conversation -/

def Ask.IsLogin : Ask → Prop
  | login _ _ => True
  | _ => False

/-- No login is served while there is an entry. -/
def Ordered : Bool → List Ask → Prop
  | _, [] => True
  | entry, a :: as => (a.IsLogin → entry = false) ∧ Ordered (provider.next entry a) as

theorem ordered_concat {entry : Bool} {as : List Ask} {a : Ask} (ordered : Ordered entry as)
    (last : a.IsLogin → provider.final entry as = false) : Ordered entry (as ++ [a]) := by
  induction as generalizing entry with
  | nil => exact ⟨last, trivial⟩
  | cons b as ih => exact ⟨ordered.1, ih ordered.2 last⟩

/-- Whether there is an entry, as a reply tells it. -/
def Verdict.latest (entry : Bool) : Verdict → Bool
  | greeted => entry
  | login ok => entry || ok
  | logout ok => entry && !ok

/-- Up to the reply to the hello. -/
structure Greeting (t : Talk) : Prop where
  login : t.form.login = ⟨true, false⟩
  entry : t.entry = none
  heard : t.heard = []
  underway : (t.asked = [] ∧ t.told = []) ∨
    (t.form.connect.enabled = false ∧ ((t.asked = [.hello] ∧ t.told = []) ∨ (t.asked = [] ∧ t.told = [.hello])))

/-- From the reply to the hello on. -/
structure Talking (t : Talk) : Prop where
  login : t.form.login.enabled = true
  connect : t.form.connect.shown = false
  asked : .hello ∉ t.asked
  told : .hello ∉ t.told
  heard : .hello ∈ t.heard

/-- What every conversation keeps. -/
structure Fine (t : Talk) : Prop where
  phase : Greeting t ∨ Talking t
  logout : t.form.logout.shown = !t.form.login.shown
  send : t.form.send.enabled = !t.form.login.shown
  ordered : Ordered t.entry.isSome t.asked
  shown : t.form.login.shown = true → t.final = false
  session : ∀ session, t.entry = some session → t.told.foldl Reply.store t.session = session
  known : t.entry.isSome = ((t.heard ++ t.told).filterMap Reply.verdict).foldl Verdict.latest false

section
variable {t t' : Talk}

theorem fine_init {form : Form} (idle : form.Idle) (session : Str) : Fine (.init form session) where
  phase := Or.inl ⟨idle.login, rfl, rfl, Or.inl ⟨rfl, rfl⟩⟩
  logout := by simp [Talk.init, idle.login, idle.logout]
  send := by simp [Talk.init, idle.login, idle.send]
  ordered := trivial
  shown := fun _ => rfl
  session := nofun
  known := rfl

theorem Greeting.asked (h : Greeting t) {a : Ask} {as : List Ask} (first : t.asked = a :: as) :
    a = .hello ∧ as = [] ∧ t.told = [] := by
  rcases h.underway with ⟨none, _⟩ | ⟨_, ⟨one, none⟩ | ⟨none, _⟩⟩
  · cases none.symm.trans first
  · cases one.symm.trans first
    exact ⟨rfl, rfl, none⟩
  · cases none.symm.trans first

/-- A request but the hello is served once the hello is answered. -/
theorem Fine.talking (h : Fine t) {a : Ask} {as : List Ask} (first : t.asked = a :: as) (other : a ≠ .hello) :
    Talking t := by
  rcases h.phase with greeting | talking
  · exact absurd (greeting.asked first).1 other
  · exact talking

/-- Serving a request but the hello. -/
theorem Fine.served (h : Fine t) {a : Ask} {as : List Ask} (first : t.asked = a :: as) (other : a ≠ .hello)
    {entry : Option Str} {replies : List Reply} (next : entry.isSome = provider.next t.entry.isSome a)
    (replied : replies.filterMap Reply.verdict = provider.replies t.entry.isSome a) (told : .hello ∉ replies)
    (latest : entry.isSome = (provider.replies t.entry.isSome a).foldl Verdict.latest t.entry.isSome)
    (session : ∀ session, entry = some session → (t.told ++ replies).foldl Reply.store t.session = session) :
    Fine { t with entry := entry, asked := as, told := t.told ++ replies } := by
  have talking := h.talking first other
  have ordered := h.ordered
  rw [first] at ordered
  refine ⟨Or.inr ⟨talking.login, talking.connect, ?_, ?_, talking.heard⟩, h.logout, h.send, ?_, ?_, session, ?_⟩
  · intro member
    exact talking.asked (first ▸ List.mem_cons_of_mem a member)
  · intro member
    exact (List.mem_append.1 member).elim talking.told told
  · exact next ▸ ordered.2
  · intro shown
    rw [(Talk.outlook_served first next replied).2]
    exact h.shown shown
  · rw [← List.append_assoc, List.filterMap_append, List.foldl_append, ← h.known, replied]
    exact latest

/-- What a reply keeps of the buttons. -/
theorem alter_paired {f : Form} (logout : f.logout.shown = !f.login.shown) (send : f.send.enabled = !f.login.shown)
    (r : Reply) : (r.alter f).logout.shown = !(r.alter f).login.shown ∧
      (r.alter f).send.enabled = !(r.alter f).login.shown := by
  cases r with
  | hello | message => exact ⟨logout, send⟩
  | login ok session => cases ok <;> first | exact ⟨logout, send⟩ | exact ⟨rfl, rfl⟩
  | logout ok => cases ok <;> exact ⟨logout, send⟩

/-- A reply hides the login button, or leaves it as it is. -/
theorem alter_shown {f : Form} {r : Reply} (shown : (r.alter f).login.shown = true) : f.login.shown = true := by
  cases r with
  | hello | message => exact shown
  | login ok session => cases ok <;> first | exact shown | cases shown
  | logout ok => cases ok <;> exact shown

theorem alter_talking {f : Form} {r : Reply} (other : r ≠ .hello) :
    (r.alter f).login.enabled = f.login.enabled ∧ (r.alter f).connect = f.connect := by
  cases r with
  | hello => exact absurd rfl other
  | message => exact ⟨rfl, rfl⟩
  | login ok session => cases ok <;> exact ⟨rfl, rfl⟩
  | logout ok => cases ok <;> exact ⟨rfl, rfl⟩

/-- Serving the hello. -/
theorem Fine.greeted (h : Fine t) {as : List Ask} (first : t.asked = .hello :: as) :
    Fine { t with asked := as, told := t.told ++ [.hello] } := by
  rcases h.phase with greeting | talking
  · obtain ⟨_, rfl, none⟩ := greeting.asked first
    have off : t.form.connect.enabled = false := by
      rcases greeting.underway with ⟨empty, _⟩ | ⟨off, _⟩
      · cases empty.symm.trans first
      · exact off
    refine ⟨Or.inl ⟨greeting.login, greeting.entry, greeting.heard, Or.inr ⟨off, Or.inr ⟨rfl, ?_⟩⟩⟩, h.logout, h.send,
      trivial, ?_, ?_, ?_⟩
    · simp only [none, List.nil_append]
    · intro shown
      rw [(Talk.outlook_served first rfl rfl).2]
      exact h.shown shown
    · intro session there
      cases greeting.entry.symm.trans there
    · simp only [greeting.entry, greeting.heard, none]
      rfl
  · exact absurd (first ▸ List.mem_cons_self) talking.asked

/-- Reading a reply. -/
theorem Fine.read (h : Fine t) {r : Reply} {rs : List Reply} (first : t.told = r :: rs) :
    Fine { t with form := r.alter t.form, session := r.store t.session, told := rs, heard := t.heard ++ [r] } := by
  obtain ⟨logout, send⟩ := alter_paired h.logout h.send r
  have same := Talk.outlook_move (.read first)
  refine ⟨?_, logout, send, h.ordered, fun shown => same.2 ▸ h.shown (alter_shown shown), ?_, ?_⟩
  · rcases h.phase with greeting | talking
    · rcases greeting.underway with ⟨_, none⟩ | ⟨_, ⟨_, none⟩ | ⟨asked, one⟩⟩
      · cases none.symm.trans first
      · cases none.symm.trans first
      · cases one.symm.trans first
        exact Or.inr ⟨rfl, rfl, by simp [asked], by simp, by simp⟩
    · have other : r ≠ .hello := by
        rintro rfl
        exact talking.told (first ▸ List.mem_cons_self)
      obtain ⟨login, connect⟩ := @alter_talking t.form r other
      refine Or.inr ⟨login.trans talking.login, ?_, talking.asked, ?_, List.mem_append_left _ talking.heard⟩
      · simp only [connect, talking.connect]
      · exact fun member => talking.told (first ▸ List.mem_cons_of_mem r member)
  · intro session there
    have stored := h.session session there
    rw [first] at stored
    exact stored
  · have known := h.known
    rw [first] at known
    simp only [List.append_assoc, List.singleton_append]
    exact known

theorem fine_move (h : Fine t) (move : Talk.Move t t') : Fine t' := by
  cases move with
  | greet first => exact h.greeted first
  | message first one =>
    apply h.served first nofun rfl
    · rcases one with rfl | rfl <;> rfl
    · rcases one with rfl | rfl <;> simp
    · rfl
    · intro session there
      rw [List.foldl_append, h.session session there]
      rcases one with rfl | rfl <;> rfl
  | accept first none session =>
    apply h.served first nofun
    · rw [none]
      rfl
    · rw [none]
      rfl
    · simp
    · rw [none]
      rfl
    · rintro _ ⟨⟩
      rw [List.foldl_append]
      rfl
  | refuse first refused =>
    rename_i right
    have ordered := h.ordered
    rw [first] at ordered
    have none := ordered.1 trivial
    have wrong : right = false := by
      rcases refused with wrong | there
      · exact wrong
      · exact absurd (none.symm.trans there) nofun
    subst wrong
    apply h.served first nofun
    · exact (Bool.or_false _).symm
    · rfl
    · simp
    · exact (Bool.or_false _).symm
    · intro session there
      rw [there] at none
      cases none
  | remove first =>
    apply h.served first nofun rfl rfl
    · simp
    · exact (Bool.and_not_self _).symm
    · nofun
  | read first => exact h.read first

/-- **A click keeps what holds of a conversation.** -/
theorem fine_click (h : Fine t) {a : Ask} (click : Talk.Click t a t') : Fine t' := by
  cases click with
  | greet clickable =>
    rcases h.phase with greeting | talking
    · obtain ⟨asked, told⟩ : t.asked = [] ∧ t.told = [] := by
        rcases greeting.underway with none | ⟨off, _⟩
        · exact none
        · exact absurd (clickable.2.symm.trans off) nofun
      refine ⟨Or.inl ⟨greeting.login, greeting.entry, greeting.heard, Or.inr ⟨rfl, Or.inl ⟨?_, told⟩⟩⟩, h.logout, h.send,
        ordered_concat h.ordered nofun, ?_, h.session, h.known⟩
      · simp only [Talk.ask, asked, List.nil_append]
      · intro shown
        exact (provider.final_concat _ _ _).trans (h.shown shown)
    · exact absurd (clickable.1.symm.trans talking.connect) nofun
  | login clickable id right =>
    rcases h.phase with greeting | talking
    · exact absurd (clickable.2.symm.trans (congrArg Button.enabled greeting.login)) nofun
    · refine ⟨Or.inr ⟨talking.login, talking.connect, ?_, talking.told, talking.heard⟩, rfl, rfl,
        ordered_concat h.ordered fun _ => h.shown clickable.1, nofun, h.session, h.known⟩
      simpa [Talk.ask] using talking.asked
  | logout clickable id =>
    have hidden : t.form.login.shown = false := by
      simpa using h.logout.symm.trans clickable.1
    rcases h.phase with greeting | talking
    · exact absurd (hidden.symm.trans (congrArg Button.shown greeting.login)) nofun
    · refine ⟨Or.inr ⟨talking.login, talking.connect, ?_, talking.told, talking.heard⟩, rfl, rfl,
        ordered_concat h.ordered nofun, fun _ => provider.final_concat _ _ _, h.session, h.known⟩
      simpa [Talk.ask] using talking.asked
  | send clickable =>
    have hidden : t.form.login.shown = false := by
      simpa using h.send.symm.trans clickable.2
    rcases h.phase with greeting | talking
    · exact absurd (hidden.symm.trans (congrArg Button.shown greeting.login)) nofun
    · refine ⟨Or.inr ⟨talking.login, talking.connect, ?_, talking.told, talking.heard⟩, h.logout, h.send,
        ordered_concat h.ordered nofun, ?_, h.session, h.known⟩
      · simpa [Talk.ask] using talking.asked
      · intro shown
        exact absurd (hidden.symm.trans shown) nofun

theorem fine_turn (h : Fine t) {as : List Ask} (turn : t.Turn as t') : Fine t' := by
  cases turn with
  | still => exact h
  | click click => exact fine_click h click
  | read move => exact fine_move h move

theorem fine_new (new : t.New) : Fine t := by
  obtain ⟨form, session, idle, rfl⟩ := new
  exact fine_init idle session

/-- A client whose buttons are idle has none to click but the one that connects. -/
theorem Form.Idle.unclickable {f : Form} (idle : f.Idle) :
    ¬ f.login.Clickable ∧ ¬ f.logout.Clickable ∧ ¬ f.send.Clickable := by
  refine ⟨?_, ?_, ?_⟩
  · intro clickable
    exact absurd (clickable.2.symm.trans (congrArg Button.enabled idle.login)) nofun
  · intro clickable
    exact absurd (clickable.1.symm.trans idle.logout) nofun
  · intro clickable
    exact absurd (clickable.2.symm.trans idle.send) nofun

/-- A new conversation asks for a hello at most. -/
theorem new_turn (new : t.New) {as : List Ask} (turn : t.Turn as t') : t'.asked = as ∧ (as = [] ∨ as = [.hello]) := by
  obtain ⟨form, session, idle, rfl⟩ := new
  cases turn with
  | still => exact ⟨rfl, Or.inl rfl⟩
  | click click =>
    cases click with
    | greet clickable => exact ⟨rfl, Or.inr rfl⟩
    | login clickable => exact absurd clickable idle.unclickable.1
    | logout clickable => exact absurd clickable idle.unclickable.2.1
    | send clickable => exact absurd clickable idle.unclickable.2.2
  | read move =>
    cases move with
    | greet first | message first | accept first | refuse first | remove first | read first => cases first

end

end Gologin.Session
