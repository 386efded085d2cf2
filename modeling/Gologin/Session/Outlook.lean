import Gologin.Session.Talk

/-!
# What a click decides

Two things are read off a conversation with nothing under way: whether the window and the
provider agree on the client being logged in, and whether the client can go on. Both are
decided by the last login or logout that was clicked, in the state it was clicked in.
-/

namespace Gologin.Session
set_option autoImplicit false
open Gui

/-! ## What a sequence of replies comes to -/

theorem hidden_tell (look : Look) (vs : List Verdict) :
    (vs.foldl Verdict.tell look).hidden = (look.hidden || decide (.login true ∈ vs)) := by
  induction vs generalizing look with
  | nil => simp
  | cons v vs ih =>
    rw [List.foldl_cons, ih]
    cases v with
    | greeted => simp [Verdict.tell]
    | login ok => cases ok <;> simp [Verdict.tell]
    | logout ok => cases ok <;> simp [Verdict.tell]

/-- Behind the hello, the logout button follows the entry as the replies tell it. -/
theorem enabled_tell (look : Look) {vs : List Verdict} (none : .greeted ∉ vs) :
    (vs.foldl Verdict.tell look).enabled = vs.foldl Verdict.latest look.enabled := by
  induction vs generalizing look with
  | nil => rfl
  | cons v vs ih =>
    obtain ⟨first, rest⟩ := not_or.1 (List.mem_cons.not.1 none)
    rw [List.foldl_cons, ih _ rest, List.foldl_cons]
    congr 1
    cases v with
    | greeted => exact absurd rfl first
    | login ok => cases ok <;> simp [Verdict.tell, Verdict.latest]
    | logout ok => cases ok <;> simp [Verdict.tell, Verdict.latest]

theorem latest_true (vs : List Verdict) : vs.foldl Verdict.latest true =
    (vs.foldl Verdict.latest false || decide (.logout true ∉ vs)) := by
  induction vs with
  | nil => rfl
  | cons v vs ih =>
    cases v with
    | greeted => simpa [Verdict.latest] using ih
    | login ok => cases ok <;> simp [Verdict.latest, ih]
    | logout ok => cases ok <;> simp [Verdict.latest, ih]

/-- Behind a login that succeeds, it does not matter what was before. -/
theorem latest_login {vs : List Verdict} (told : .login true ∈ vs) (a b : Bool) :
    vs.foldl Verdict.latest a = vs.foldl Verdict.latest b := by
  induction vs generalizing a b with
  | nil => cases told
  | cons v vs ih =>
    rw [List.foldl_cons, List.foldl_cons]
    rcases List.mem_cons.1 told with rfl | later
    · simp only [Verdict.latest, Bool.or_true]
    · exact ih later _ _

/-- The replies of the provider tell whether there is an entry. -/
theorem final_latest (entry : Bool) (as : List Ask) :
    provider.final entry as = (provider.coming entry as).foldl Verdict.latest entry := by
  induction as generalizing entry with
  | nil => rfl
  | cons a as ih =>
    rw [Fifo.Server.final, ih, Fifo.Server.coming, List.foldl_append]
    congr 1
    cases a with
    | hello | message => rfl
    | login id right => cases entry <;> cases right <;> rfl
    | logout id => cases entry <;> rfl

theorem greeted_coming {entry : Bool} {as : List Ask} (none : .hello ∉ as) : .greeted ∉ provider.coming entry as := by
  induction as generalizing entry with
  | nil => simp [Fifo.Server.coming]
  | cons a as ih =>
    obtain ⟨first, rest⟩ := not_or.1 (List.mem_cons.not.1 none)
    rw [Fifo.Server.coming, List.mem_append, not_or]
    refine ⟨?_, ih rest⟩
    cases a with
    | hello => exact absurd rfl first
    | login | logout | message => simp [provider]

section
variable {t t' : Talk}

/-- The entry there will be, by the replies that are still to be read. -/
theorem Fine.final (h : Fine t) : ∃ entry, t.final = t.outstanding.foldl Verdict.latest entry := by
  refine ⟨(t.heard.filterMap Reply.verdict).foldl Verdict.latest false, ?_⟩
  unfold Talk.final Talk.outstanding Fifo.outstanding Talk.line
  rw [final_latest, List.foldl_append, h.known, List.filterMap_append, List.foldl_append]

theorem Talking.outstanding (h : Talking t) : .greeted ∉ t.outstanding := by
  unfold Talk.outstanding Fifo.outstanding Talk.line
  rw [List.mem_append, not_or]
  refine ⟨?_, greeted_coming h.asked⟩
  intro member
  obtain ⟨r, told, verdict⟩ := List.mem_filterMap.1 member
  cases r with
  | hello => exact h.told told
  | login | logout | message => cases verdict

theorem Talk.outlook_eq (t : Talk) : t.outlook = t.outstanding.foldl Verdict.tell t.form.look := rfl

theorem Talk.outstanding_ask (t : Talk) (form : Form) (a : Ask) :
    (t.ask form a).outstanding = t.outstanding ++ provider.replies t.final a :=
  Fifo.outstanding_ask provider a

theorem Talk.final_ask (t : Talk) (form : Form) (a : Ask) : (t.ask form a).final = provider.next t.final a :=
  provider.final_concat _ _ _

end

/-! ## Agreement -/

/-- With everything read, the login button will be hidden exactly when there is an entry. -/
def Agree (t : Talk) : Prop := t.outlook.hidden = t.final

/-- With everything read, there will be a button to log in or out with. -/
def Free (t : Talk) : Prop := t.outlook.hidden = true → t.outlook.enabled = true

section
variable {t t' : Talk}

/-- A login decides on the agreement by its credentials. -/
theorem agree_login (h : Fine t) (clickable : t.form.login.Clickable) (id : UInt64) (right : Bool) :
    Agree (t.ask t.form.loggedIn (.login id right)) ↔ right = true := by
  unfold Agree
  rw [Talk.outlook_eq, Talk.final_ask, hidden_tell]
  change (true || _) = (t.final || right) ↔ _
  rw [h.shown clickable.1, Bool.true_or, Bool.false_or]
  exact eq_comm

/-- A logout decides on it by the replies it overtakes. -/
theorem agree_logout (t : Talk) (id : UInt64) :
    Agree (t.ask t.form.loggedOut (.logout id)) ↔ .login true ∉ t.outstanding := by
  unfold Agree
  rw [Talk.outlook_eq, Talk.final_ask, hidden_tell, Talk.outstanding_ask]
  change (false || _) = false ↔ _
  simp [provider]

theorem agree_other (t : Talk) {form : Form} (look : form.look = t.form.look) {a : Ask} (other : a = .hello ∨ a = .message) :
    Agree (t.ask form a) ↔ Agree t := by
  unfold Agree
  rw [Talk.outlook_eq, Talk.outlook_eq, Talk.final_ask, hidden_tell, hidden_tell, Talk.outstanding_ask]
  change (form.look.hidden || _) = _ ↔ _
  rw [look]
  rcases other with rfl | rfl
  · simp [provider]
  · simp [provider]

theorem agree_quiet (h : Fine t) (quiet : t.Quiet) :
    Agree t ↔ ((t.form.login.shown = false ∧ t.form.send.enabled = true) ↔ t.entry.isSome = true) := by
  obtain ⟨asked, told⟩ := quiet
  have outlook : t.outlook = t.form.look := by
    simp only [Talk.outlook, Talk.line, asked, told]
    rfl
  have final : t.final = t.entry.isSome := by
    simp only [Talk.final, asked]
    rfl
  unfold Agree
  rw [outlook, final, h.send]
  simp only [Form.look]
  cases t.form.login.shown <;> cases t.entry.isSome <;> simp

/-! ## A way on -/

theorem free_login (h : Fine t) (clickable : t.form.login.Clickable) (id : UInt64) (right : Bool) :
    Free (t.ask t.form.loggedIn (.login id right)) ↔ right = true ∨ .logout true ∉ t.outstanding := by
  have talking : Talking t := by
    rcases h.phase with greeting | talking
    · exact absurd (clickable.2.symm.trans (congrArg Button.enabled greeting.login)) nofun
    · exact talking
  obtain ⟨entry, final⟩ := h.final
  have before : t.outstanding.foldl Verdict.latest false = false := by
    have out := final.symm.trans (h.shown clickable.1)
    cases entry with
    | false => exact out
    | true =>
      rw [latest_true, Bool.or_eq_false_iff] at out
      exact out.1
  have none : .greeted ∉ t.outstanding ++ [Verdict.login right] := by
    simpa using talking.outstanding
  have hidden : (t.ask t.form.loggedIn (.login id right)).outlook.hidden = true := by
    rw [Talk.outlook_eq, hidden_tell]
    exact Bool.true_or _
  have enabled : (t.ask t.form.loggedIn (.login id right)).outlook.enabled =
      (decide (.logout true ∉ t.outstanding) || right) := by
    rw [Talk.outlook_eq, Talk.outstanding_ask, h.shown clickable.1]
    change (List.foldl Verdict.tell _ (t.outstanding ++ [.login (right && !false)])).enabled = _
    rw [Bool.not_false, Bool.and_true, enabled_tell _ none, List.foldl_append]
    change (t.outstanding.foldl Verdict.latest true || right) = _
    rw [latest_true, before, Bool.false_or]
  unfold Free
  rw [hidden, enabled]
  simp [or_comm]

theorem free_logout (h : Fine t) (clickable : t.form.logout.Clickable) (id : UInt64) :
    Free (t.ask t.form.loggedOut (.logout id)) ↔ .login true ∉ t.outstanding := by
  have talking : Talking t := by
    rcases h.phase with greeting | talking
    · have shown := h.logout.symm.trans clickable.1
      rw [congrArg Button.shown greeting.login] at shown
      cases shown
    · exact talking
  obtain ⟨entry, final⟩ := h.final
  have none : .greeted ∉ t.outstanding ++ [Verdict.logout t.final] := by
    simpa using talking.outstanding
  have hidden : (t.ask t.form.loggedOut (.logout id)).outlook.hidden = decide (.login true ∈ t.outstanding) := by
    rw [Talk.outlook_eq, hidden_tell, Talk.outstanding_ask]
    change (false || decide (_ ∈ t.outstanding ++ [.logout t.final])) = _
    simp
  have enabled : .login true ∈ t.outstanding → (t.ask t.form.loggedOut (.logout id)).outlook.enabled = false := by
    intro overtaken
    rw [Talk.outlook_eq, Talk.outstanding_ask]
    change (List.foldl Verdict.tell _ (t.outstanding ++ [.logout t.final])).enabled = _
    rw [enabled_tell _ none, List.foldl_append, latest_login overtaken _ entry, ← final]
    exact Bool.and_not_self _
  unfold Free
  rw [hidden, decide_eq_true_iff]
  constructor
  · intro free overtaken
    exact absurd ((enabled overtaken).symm.trans (free overtaken)) nofun
  · exact fun none overtaken => absurd overtaken none

theorem free_send (t : Talk) : Free (t.ask t.form .message) ↔ Free t := by
  have outstanding : (t.ask t.form .message).outstanding = t.outstanding := by
    rw [Talk.outstanding_ask]
    exact List.append_nil _
  have same : (t.ask t.form .message).outlook = t.outlook := by
    rw [Talk.outlook_eq, Talk.outlook_eq, outstanding]
    rfl
  unfold Free
  rw [same]

/-- A hello is sent before anything is under way. -/
theorem free_greet (h : Fine t) (clickable : t.form.connect.Clickable) :
    Free (t.ask t.form.waiting .hello) ↔ Free t := by
  rcases h.phase with greeting | talking
  · have quiet : t.asked = [] ∧ t.told = [] := by
      rcases greeting.underway with none | ⟨off, _⟩
      · exact none
      · cases clickable.2.symm.trans off
    have none : t.outstanding = [] := by
      simp only [Talk.outstanding, Fifo.outstanding, Talk.line, quiet.1, quiet.2]
      rfl
    have shown : t.form.look.hidden = false := by
      simp only [Form.look, greeting.login]
      rfl
    refine iff_of_true ?_ ?_
    · unfold Free
      rw [Talk.outlook_eq, Talk.outstanding_ask, none]
      intro hidden
      cases shown.symm.trans hidden
    · unfold Free
      rw [Talk.outlook_eq, none]
      intro hidden
      cases shown.symm.trans hidden
  · cases clickable.1.symm.trans talking.connect

/-- Exactly one of the login and logout buttons is shown, and it is enabled. -/
def Form.Proceeds (f : Form) : Prop :=
  (f.login.Clickable ∧ f.logout.shown = false) ∨ (f.logout.Clickable ∧ f.login.shown = false)

instance (f : Form) : Decidable f.Proceeds := inferInstanceAs (Decidable (_ ∨ _))

theorem free_quiet (h : Fine t) (quiet : t.Quiet) (greeted : .hello ∈ t.heard) : Free t ↔ t.form.Proceeds := by
  obtain ⟨asked, told⟩ := quiet
  have outlook : t.outlook = t.form.look := by
    simp only [Talk.outlook, Talk.line, asked, told]
    rfl
  have enabled : t.form.login.enabled = true := by
    rcases h.phase with greeting | talking
    · rw [greeting.heard] at greeted
      cases greeted
    · exact talking.login
  unfold Free Form.Proceeds Button.Clickable
  rw [outlook, h.logout, enabled]
  simp only [Form.look]
  cases t.form.login.shown <;> cases t.form.logout.enabled <;> simp

end

/-! ## What decides them -/

/-- `P` is decided by the last login or logout that was clicked: by `login` and `logout`, in
the state it was clicked in. -/
structure Decided (P : Talk → Prop) (login : Talk → Bool → Prop) (logout : Talk → Prop) : Prop where
  new : ∀ t : Talk, t.New → P t
  greet : ∀ t, Fine t → t.form.connect.Clickable → (P (t.ask t.form.waiting .hello) ↔ P t)
  login : ∀ t, Fine t → t.form.login.Clickable →
    ∀ id right, (P (t.ask t.form.loggedIn (.login id right)) ↔ login t right)
  logout : ∀ t, Fine t → t.form.logout.Clickable → ∀ id, (P (t.ask t.form.loggedOut (.logout id)) ↔ logout t)
  send : ∀ t, P (t.ask t.form .message) ↔ P t
  move : ∀ t t', Talk.Move t t' → (P t' ↔ P t)

/-- What is kept of the clicks: it follows from a login or logout that is clicked, and stays. -/
def judge (login : Talk → Bool → Prop) (logout : Talk → Prop) (t : Talk) : List Ask → Prop → Prop
  | [.login _ right], _ => login t right
  | [.logout _], _ => logout t
  | _, kept => kept

section
variable {P : Talk → Prop} {login : Talk → Bool → Prop} {logout : Talk → Prop} {t t' : Talk} {kept : Prop}

/-- **A turn keeps what the clicks decide.** -/
theorem Decided.turn (d : Decided P login logout) (fine : Fine t) {as : List Ask} (turn : t.Turn as t')
    (here : P t ↔ kept) : P t' ↔ judge login logout t as kept := by
  cases turn with
  | still => exact here
  | click click =>
    cases click with
    | greet clickable => exact (d.greet t fine clickable).trans here
    | login clickable id right => exact d.login t fine clickable id right
    | logout clickable id => exact d.logout t fine clickable id
    | send clickable => exact (d.send t).trans here
  | read move => exact (d.move t t' move).trans here

/-- Whether the window and the provider will agree: a login must be right, and a logout must
overtake no login that succeeds. -/
theorem agree_decided : Decided Agree (fun _ right => right = true) (fun t => .login true ∉ t.outstanding) where
  new := by
    rintro _ ⟨form, session, idle, rfl⟩
    change (!form.login.shown) = false
    rw [idle.login]
    rfl
  greet t _ _ := agree_other t rfl (Or.inl rfl)
  login _ fine clickable := agree_login fine clickable
  logout t _ _ := agree_logout t
  send t := agree_other t rfl (Or.inr rfl)
  move t t' move := by
    unfold Agree
    rw [(Talk.outlook_move move).1, (Talk.outlook_move move).2]

/-- Whether the client will be able to go on: neither may overtake the other when it succeeds,
but for a login that is right. -/
theorem free_decided : Decided Free (fun t right => right = true ∨ .logout true ∉ t.outstanding)
    (fun t => .login true ∉ t.outstanding) where
  new := by
    rintro _ ⟨form, session, idle, rfl⟩ hidden
    change (!form.login.shown) = true at hidden
    rw [idle.login] at hidden
    cases hidden
  greet _ fine clickable := free_greet fine clickable
  login _ fine clickable := free_login fine clickable
  logout _ fine clickable := free_logout fine clickable
  send := free_send
  move t t' move := by
    unfold Free
    rw [(Talk.outlook_move move).1]

end

end Gologin.Session
