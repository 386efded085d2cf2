import Gologin.Session.Agreement

/-!
# The logins that are accepted

The provider refuses a login whose id has an entry already, whatever its credentials. No login
that a client sends is refused so: by the time it is served, the logouts that the same client
has clicked before are served too, also on links that were left long ago. A login is accepted
exactly when its credentials are right.
-/

namespace Gologin.Session
set_option autoImplicit false
open Calls Messages Tcp Auth Gui

/-! ## The links -/

section
variable (A : Server.App) (login pass : Str)

/-- What is asked for on the links, left or not: a link is about one id, an id is on one link, and
no login comes while its id has an entry. -/
structure Lined (w : World) : Prop where
  single : ∀ l a b i j, a ∈ (w.wire A login pass l).asked → b ∈ (w.wire A login pass l).asked → a.names = some i →
    b.names = some j → i = j
  apart : ∀ l n a b i, a ∈ (w.wire A login pass l).asked → b ∈ (w.wire A login pass n).asked → a.names = some i →
    b.names = some i → l = n
  ordered : ∀ l a i, a ∈ (w.wire A login pass l).asked → a.names = some i →
    Ordered (w.entry i).isSome (w.wire A login pass l).asked

end

/-- What serving the first request of a link does to the entry of its id. -/
theorem serve_next {entry entry' : UInt64 → Option Str} {x x' : Wire} (serve : Serve entry x entry' x') {id : UInt64}
    (own : ∀ a ∈ x.asked, ∀ i, a.names = some i → i = id) (ordered : Ordered (entry id).isSome x.asked) :
    Ordered (entry' id).isSome x'.asked := by
  cases serve with
  | greet first | message first one =>
    rw [first] at ordered
    exact ordered.2
  | accept first none session =>
    obtain rfl := own _ (first ▸ List.mem_cons_self) _ rfl
    rw [first, none] at ordered
    rw [Function.update_self]
    exact ordered.2
  | refuse first refused =>
    rename_i right
    obtain rfl := own _ (first ▸ List.mem_cons_self) _ rfl
    rw [first] at ordered
    have none := ordered.1 trivial
    have rest := ordered.2
    rw [none] at rest ⊢
    rcases refused with rfl | there
    · exact rest
    · cases none.symm.trans there
  | remove first =>
    obtain rfl := own _ (first ▸ List.mem_cons_self) _ rfl
    rw [first] at ordered
    rw [Function.update_self]
    exact ordered.2

section
variable {A : Server.App} {login pass : Str} {w w' : World}

/-- A step of the server keeps the links in line. -/
theorem Lined.served (h : Lined A login pass w) (served : Served A login pass w w') : Lined A login pass w' := by
  have asked := served_asked served
  refine ⟨fun l a b i j ma mb => h.single l a b i j (asked l a ma) (asked l b mb),
    fun l n a b i ma mb => h.apart l n a b i (asked l a ma) (asked n b mb), ?_⟩
  intro l a i member names
  have before := h.ordered l a i (asked l a member) names
  rcases served with ⟨entry, wires⟩ | ⟨n, others, serve⟩
  · rw [entry, wires l]
    exact before
  · by_cases here : l = n
    · subst here
      exact serve_next serve (fun b mb j names' => h.single l b a j i mb (asked l a member) names' names) before
    · obtain ⟨b, first, same⟩ := serve_first serve
      have other : b.names ≠ some i := fun names' =>
        here (h.apart l n a b i (asked l a member) (first ▸ List.mem_cons_self) names names')
      rw [same i other, others l here]
      exact before

end

section
variable {A : Server.App} {B : Gui.App A.json} {login pass : Str} {w : World} {k : Nat} {e : Gui.Event} {c : Client}
  {sent : List Packet}

/-- A step of a client does, too: it asks for more on its own link only. -/
theorem Lined.client (h : Lined A login pass w) (before : Conversing A login pass w)
    (conversing : Conversing A login pass (w.after k e c sent)) (acted : Gui.act B (w.clients k) e = some (c, sent)) :
    Lined A login pass (w.after k e c sent) := by
  have self : (w.after k e c sent).clients k = c := Function.update_self _ _ _
  have up {l : Nat} (here : c.link = some l) : ((w.after k e c sent).clients k).status = .connected := by
    rw [self]
    by_contra down
    exact absurd ((before.leaves acted down).1.symm.trans here) nofun
  have own {l n : Nat} (here : c.link = some l) {a : Ask} {i : UInt64}
      (member : a ∈ ((w.after k e c sent).wire A login pass n).asked) (names : a.names = some i) :
      c.link = some n ↔ i = c.cookie.clientId := by
    have owned := conversing.own k (up here) n a i member names
    rw [self] at owned
    exact owned
  have away {l : Nat} (off : c.link ≠ some l) : (w.after k e c sent).wire A login pass l = w.wire A login pass l := by
    rw [wire_after, if_neg off]
  refine ⟨?_, ?_, ?_⟩
  · intro l a b i j ma mb namesA namesB
    by_cases here : c.link = some l
    · exact ((own here ma namesA).1 here).trans ((own here mb namesB).1 here).symm
    · rw [away here] at ma mb
      exact h.single l a b i j ma mb namesA namesB
  · intro l n a b i ma mb namesA namesB
    by_cases here : c.link = some l
    · have there := (own here mb namesB).2 ((own here ma namesA).1 here)
      exact Option.some.inj (here.symm.trans there)
    · by_cases there : c.link = some n
      · exact absurd ((own there ma namesA).2 ((own there mb namesB).1 there)) here
      · rw [away here] at ma
        rw [away there] at mb
        exact h.apart l n a b i ma mb namesA namesB
  · intro l a i member names
    by_cases here : c.link = some l
    · obtain rfl := (own here member names).1 here
      have ordered := (conversing.fine k (up here)).ordered
      rw [self] at ordered
      unfold World.talk World.line at ordered
      rw [here] at ordered
      exact ordered
    · rw [away here] at member ⊢
      exact h.ordered l a i member names

end

/-! ## Runs -/

section
variable {A : Server.App} {B : Gui.App A.json} {login pass : Str} {w w' : World}

theorem lined_step (h : Lined A login pass w) (conversing : Conversing A login pass w) {e : Event} (fresh : FreshId w e)
    (taken : step A B w e = some w') : Lined A login pass w' := by
  have after_ := conversing_step conversing fresh taken
  cases e with
  | server e => exact h.served (served_step conversing.grounded taken).1
  | client k e =>
    cases step_cases taken with
    | client admitted acted carried => exact h.client conversing after_ acted

theorem lined_init (A : Server.App) (login pass : Str) (clientIds : Nat → UInt64) :
    Lined A login pass (.init login pass clientIds) := by
  have empty (l : Nat) : (World.wire A login pass (.init login pass clientIds) l).asked = [] := by
    rw [(grounded_init A login pass clientIds).wire_unopened (Nat.zero_le l)]
  refine ⟨fun l a b i j ma => ?_, fun l n a b i ma => ?_, fun l a i ma => ?_⟩
  · rw [empty] at ma
    cases ma
  · rw [empty] at ma
    cases ma
  · rw [empty] at ma
    cases ma

/-- What a step of the server adds to the calls. -/
theorem called_step {s s' : Server.State} {e : Server.Event} (taken : Server.step A s e = some s') {c : Nat}
    {call : Server.Call} {answer : call.Answer} (member : .called c call answer ∈ s'.log) :
    .called c call answer ∈ s.log ∨ ∃ handle socket next choice,
      s.conns[c]? = some ⟨handle, socket, .handling (.call call next)⟩ ∧ answer = (s.outcome c choice call).1 := by
  have plain {entries : List Server.Entry} (none : ∀ x ∈ entries, x.Plain)
      (member : .called c call answer ∈ entries ++ s.log) : .called c call answer ∈ s.log :=
    (List.mem_append.1 member).resolve_left fun new => (none (.called c call answer) new).elim
  cases Server.step_cases taken with
  | call here =>
    rename_i handle socket choice call' next
    rcases List.mem_cons.1 member with same | rest
    · cases same
      exact Or.inr ⟨handle, socket, next, choice, here, rfl⟩
    · rcases List.mem_append.1 rest with new | old
      · obtain ⟨_, _, _, _, _, _, _, _, _, _, same⟩ := Server.mem_outcome new
        cases same
      · exact Or.inl old
  | packet here received =>
    rcases List.mem_cons.1 member with same | rest
    · cases same
    · exact Or.inl (plain Server.plain_uses rest)
  | refused here received => exact Or.inl (plain Server.plain_uses member)
  | reply here => exact Or.inl (plain Server.plain_send member)
  | refuse fresh | disconnect here | destroy here =>
    rcases List.mem_cons.1 member with same | rest
    · cases same
    · exact Or.inl rest
  | accept fresh | emplace here | disconnected here | invalidate here | erase here | finish here => exact Or.inl member

/-- What the provider has answered to the logins: it accepts those with the right credentials and
rejects the others. -/
def Judged (login pass : Str) (log : List Server.Entry) : Prop :=
  ∀ c id cookies l p session (answer : ClientStatus × Str),
    .called c (.addClient id cookies l p session) answer ∈ log →
      answer.1 = if l = login ∧ p = pass then .accepted else .rejected

/-- A login that is served has no entry. -/
theorem Lined.vacant (h : Lined A login pass w) {c handle : Nat} {socket : Option Nat} {id : UInt64}
    {cookies : ClientCookies} {l p session : Str} {next : ClientStatus × Str → Server.Handling Packet}
    (here : w.server.conns[c]? = some ⟨handle, socket, .handling (.call (.addClient id cookies l p session) next)⟩) :
    id ∉ w.server.provider.clients := by
  have first : (w.wire A login pass c).asked = .login id (decide (l = login ∧ p = pass)) ::
      (w.links c).requests.flatMap (asks login pass A) := by
    unfold World.wire
    rw [handed_here here]
    rfl
  have ordered := h.ordered c _ id (first ▸ List.mem_cons_self) rfl
  rw [first] at ordered
  have none := ordered.1 trivial
  rw [← entry_none]
  exact Option.not_isSome_iff_eq_none.1 (by rw [none]; nofun)

theorem judged_step (h : Judged login pass w.server.log) (lined : Lined A login pass w)
    (grounded : Grounded A login pass w) {e : Event} (taken : step A B w e = some w') :
    Judged login pass w'.server.log := by
  have served {e : Server.Event} {server : Server.State} (done : Server.step A w.server e = some server) :
      Judged login pass server.log := by
    intro c id cookies l p session answer member
    rcases called_step done member with old | ⟨handle, socket, next, choice, here, same⟩
    · exact h c id cookies l p session answer old
    · have vacant := lined.vacant here
      rw [same, ← grounded.credentials.1, ← grounded.credentials.2]
      change (w.server.provider.addClient choice.draw id cookies l p session).1 = _
      rcases @Provider.addClient_cases w.server.provider id choice.draw cookies l p session with
        ⟨right, _, answered⟩ | ⟨_, present, _⟩ | ⟨wrong, answered⟩
      · rw [answered]
        exact (if_pos right).symm
      · exact absurd present vacant
      · rw [answered]
        exact (if_neg wrong).symm
  cases step_cases taken with
  | client => exact h
  | receive first done handles => exact served done
  | server done accepts quiet => exact served done

/-- **The right credentials are always accepted.** In every run in which the ids that clients draw
are fresh, the provider has accepted every login with the right credentials and has rejected
every other: it has never refused one because its id has an entry. -/
theorem logins_judged {clientIds : Nat → UInt64} {es : List Event}
    (fresh : Runs.Along (step A B) FreshId (.init login pass clientIds) es)
    (run : Runs.exec (step A B) (.init login pass clientIds) es = some w) : Judged login pass w.server.log := by
  have keep : ∀ v e v', Conversing A login pass v ∧ Lined A login pass v ∧ Judged login pass v.server.log →
      FreshId v e → step A B v e = some v' →
      Conversing A login pass v' ∧ Lined A login pass v' ∧ Judged login pass v'.server.log := by
    rintro v e v' ⟨conversing, lined, judged⟩ guard taken
    exact ⟨conversing_step conversing guard taken, lined_step lined conversing guard taken,
      judged_step judged lined conversing.grounded taken⟩
  exact (Runs.exec_guarded keep ⟨conversing_init A login pass clientIds, lined_init A login pass clientIds, nofun⟩
    fresh run).2.2

end

/-- A logout of the session of the entry. -/
def byePacket : Packet :=
  ⟨Commands.bye, str "\x7b\"command\":\"logout\",\"id\":7,\"session\":\"aaaaaaaaaaaaaaaaaaaaaaaaaaaaaaaa\"\x7d"⟩

/-- The first client logs in and out, fails to log in with a wrong password, and logs in again. -/
def logsInAgain : List Event :=
  rightLogin ++ [.client 0 (.logout true)] ++ servedOne byePacket ++
    [.client 0 (.receive logoutReplyPacket), .client 0 (.login (str "login:wrong") true)] ++
    servedOne (loginPacket "wrong") ++ [.client 0 (.receive refusedPacket), .client 0 (.logout true)] ++
    servedOne logoutPacket ++ [.client 0 (.login (str "login:pass") true)] ++ (servedOne (loginPacket "pass")).take 2

/-- The entry is of a login with the password `p`. -/
def loginWith (p : Str) : Server.Entry → Bool
  | .called _ (.addClient _ _ _ q _) _ => p == q
  | _ => false

/-- The entry is of a login with the credentials of the account. -/
def loginOfAccount : Server.Entry → Bool
  | .called _ (.addClient _ _ l p _) _ => decide (l = str "login" ∧ p = str "pass")
  | _ => false

/-- The wrong password was rejected; the right one is accepted, also after a logout. -/
theorem logins_judged_wrong : ∃ w, ran logsInAgain = some w ∧
    (∃ c id cookies l session, ∃ answer : ClientStatus × Str,
      .called c (.addClient id cookies l (str "wrong") session) answer ∈ w.server.log ∧ answer.1 = .rejected) ∧
    ∃ c id cookies session, ∃ answer : ClientStatus × Str,
      w.server.log.head? = some (.called c (.addClient id cookies (str "login") (str "pass") session) answer) ∧
        answer.1 = .accepted := by
  have fresh : Fresh logsInAgain := by decide +kernel
  obtain ⟨w, run, seen⟩ := Option.map_eq_some_iff.1
    (show (ran logsInAgain).map (fun w =>
        (w.server.log.any (loginWith (str "wrong")), w.server.log.head?.any loginOfAccount)) = some (true, true) by
      decide +kernel)
  obtain ⟨wrong, last⟩ := Prod.mk.inj seen
  refine ⟨w, run, ?_, ?_⟩
  · obtain ⟨entry, member, login⟩ := List.any_eq_true.1 wrong
    match entry with
    | .called c (.addClient id cookies l p session) answer =>
      obtain rfl := eq_of_beq login
      have judged := logins_judged fresh run c id cookies l _ session answer member
      refine ⟨c, id, cookies, l, session, answer, member, ?_⟩
      rw [judged, if_neg (by rintro ⟨_, same⟩; exact absurd same (by decide +kernel))]
  · obtain ⟨entry, head, login⟩ := (Option.any_eq_true _ _).1 last
    match entry with
    | .called c (.addClient id cookies l p session) answer =>
      obtain ⟨rfl, rfl⟩ := of_decide_eq_true login
      have judged := logins_judged fresh run c id cookies _ _ session answer (List.mem_of_mem_head? head)
      refine ⟨c, id, cookies, session, answer, head, ?_⟩
      rw [judged, if_pos ⟨rfl, rfl⟩]

end Gologin.Session
