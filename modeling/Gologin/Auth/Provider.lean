import Gologin.Core.Types
import Gologin.Lib.Tables
import Mathlib.Data.List.OfFn

/-!
# The table of logged-in clients

`auth::provider` of `auth/provider/provider.cpp`. Each method is one critical section of
`m_clients_mutex`, so each is one function on the table.
-/

namespace Gologin.Auth
set_option autoImplicit false
open Tables

/-- `auth::client_status`. -/
inductive ClientStatus where
  | added
  | removed
  | accepted
  | rejected
  | notFound
  deriving DecidableEq, Repr

/-- `auth::auth_client`. -/
structure AuthClient where
  cookie : ClientCookies
  id : UInt64
  session : Str
  login : Str
  status : ClientStatus
  deriving DecidableEq, Repr

/-- `auth::provider`. -/
structure Provider where
  clientLogin : Str
  clientPass : Str
  clients : Table UInt64 AuthClient

/-- The 32 letters that one session id draws. -/
abbrev Draw : Type := Fin 32 → Fin 26

/-- The session id of a draw. -/
def Draw.session (draw : Draw) : Str := (List.ofFn draw).map fun letter => UInt8.ofNat (97 + letter.val)

/-- The order in which an `unordered_map` is iterated. -/
structure Order where
  arrange : List AuthClient → List AuthClient
  perm : ∀ l, (arrange l).Perm l

instance : Inhabited Order := ⟨id, fun _ => .rfl⟩

namespace Provider

/-- `provider::get_clients`. -/
def getClients (p : Provider) (order : Order) (status : ClientStatus) : List AuthClient :=
  (order.arrange (values p.clients)).filter fun c => c.status = status

/-- `provider::status_client`. The session is not looked at. -/
def statusClient (p : Provider) (clientId : UInt64) (_clientSession : Str) : ClientStatus :=
  match p.clients.lookup clientId with
  | some c => c.status
  | none => .notFound

/-- `provider::add_client`: its result, the session variable of the caller after it, and the
provider. An entry that is there stays, and its status is read and dropped. -/
def addClient (p : Provider) (draw : Draw) (clientId : UInt64) (cookies : ClientCookies)
    (clientLogin clientPass session : Str) : ClientStatus × Str × Provider :=
  if clientLogin ≠ p.clientLogin ∨ clientPass ≠ p.clientPass then (.rejected, session, p)
  else if clientId ∈ p.clients then (.removed, session, p)
  else
    let session := session ++ draw.session
    let client := ⟨cookies, clientId, session, p.clientLogin, .accepted⟩
    (.accepted, session, { p with clients := emplace clientId client p.clients })

/-- `provider::rem_client`. The session is not looked at. -/
def remClient (p : Provider) (clientId : UInt64) (_clientSession : Str) : ClientStatus × Provider :=
  if clientId ∈ p.clients then (.removed, { p with clients := p.clients.erase clientId })
  else (.notFound, p)

/-- The credentials a login is checked against. -/
def Accepts (p : Provider) (login pass : Str) : Prop := login = p.clientLogin ∧ pass = p.clientPass

instance (p : Provider) (login pass : Str) : Decidable (p.Accepts login pass) :=
  inferInstanceAs (Decidable (_ ∧ _))

/-- What every entry of a provider's table satisfies. -/
structure Entry (p : Provider) (id : UInt64) (c : AuthClient) : Prop where
  id : c.id = id
  login : c.login = p.clientLogin
  status : c.status = .accepted
  utf8 : Utf8.valid c.login = true
  session : ∃ draw : Draw, c.session = draw.session

/-- The entries of a provider are as `add_client` makes them. -/
def Good (p : Provider) : Prop := ∀ id c, p.clients.lookup id = some c → p.Entry id c

/-- `provider::provider`. -/
def init (clientLogin clientPass : Str) : Provider := ⟨clientLogin, clientPass, ∅⟩

theorem good_init (clientLogin clientPass : Str) : (init clientLogin clientPass).Good := by
  intro id c found
  rw [init, AList.lookup_empty] at found
  cases found

end Provider

/-- The letters of a session id are ASCII. -/
theorem Draw.session_utf8 (draw : Draw) : Utf8.valid draw.session = true := by
  apply Utf8.valid_of_ascii
  intro b member
  obtain ⟨letter, _, rfl⟩ := List.mem_map.1 member
  have : ∀ l : Fin 26, UInt8.ofNat (97 + l.val) < 0x80 := by decide
  exact this letter

@[simp] theorem Draw.session_length (draw : Draw) : draw.session.length = 32 := by
  simp [Draw.session]

namespace Provider

section
variable {p : Provider} {id : UInt64}

/-! ## What each method does -/

theorem statusClient_some {c : AuthClient} (good : p.Good) (found : p.clients.lookup id = some c) (session : Str) :
    p.statusClient id session = .accepted := by
  rw [statusClient, found]
  exact (good id c found).status

theorem statusClient_none (absent : p.clients.lookup id = none) (session : Str) :
    p.statusClient id session = .notFound := by
  rw [statusClient, absent]

/-- `status_client` answers `accepted` exactly when there is an entry. -/
theorem statusClient_iff (good : p.Good) (session : Str) :
    p.statusClient id session = .accepted ↔ id ∈ p.clients := by
  cases found : p.clients.lookup id with
  | some c => simp only [statusClient_some good found, mem_of_lookup found]
  | none => simp [statusClient_none found, not_mem_iff_lookup.2 found]

/-- `add_client` adds an entry, or changes nothing. -/
theorem addClient_cases (draw : Draw) (cookies : ClientCookies) (login pass session : Str) :
    (p.Accepts login pass ∧ id ∉ p.clients ∧
      p.addClient draw id cookies login pass session =
        (.accepted, session ++ draw.session,
          ⟨p.clientLogin, p.clientPass,
            p.clients.insert id ⟨cookies, id, session ++ draw.session, p.clientLogin, .accepted⟩⟩)) ∨
    (p.Accepts login pass ∧ id ∈ p.clients ∧
      p.addClient draw id cookies login pass session = (.removed, session, p)) ∨
    (¬ p.Accepts login pass ∧ p.addClient draw id cookies login pass session = (.rejected, session, p)) := by
  by_cases right : p.Accepts login pass
  · have pass_on : ¬ (login ≠ p.clientLogin ∨ pass ≠ p.clientPass) := by
      rintro (other | other)
      · exact other right.1
      · exact other right.2
    by_cases present : id ∈ p.clients
    · refine Or.inr (Or.inl ⟨right, present, ?_⟩)
      rw [addClient, if_neg pass_on, if_pos present]
    · refine Or.inl ⟨right, present, ?_⟩
      rw [addClient, if_neg pass_on, if_neg present]
      simp only [emplace_of_not_mem present]
  · refine Or.inr (Or.inr ⟨right, ?_⟩)
    rw [addClient, if_pos (Decidable.not_and_iff_or_not.1 right)]

theorem remClient_of_mem (present : id ∈ p.clients) (session : Str) :
    p.remClient id session = (.removed, { p with clients := p.clients.erase id }) := by
  rw [remClient, if_pos present]

theorem remClient_of_not_mem (absent : id ∉ p.clients) (session : Str) :
    p.remClient id session = (.notFound, p) := by
  rw [remClient, if_neg absent]

/-- `get_clients` returns the entries of one status. -/
theorem mem_getClients_iff {order : Order} {status : ClientStatus} {c : AuthClient} :
    c ∈ p.getClients order status ↔ (∃ id, p.clients.lookup id = some c) ∧ c.status = status := by
  rw [getClients, List.mem_filter, (order.perm _).mem_iff, mem_values, decide_eq_true_iff]

theorem lookup_of_mem_getClients (good : p.Good) {order : Order} {status : ClientStatus} {c : AuthClient}
    (member : c ∈ p.getClients order status) : p.clients.lookup c.id = some c := by
  obtain ⟨⟨id, found⟩, -⟩ := mem_getClients_iff.1 member
  rw [(good id c found).id]
  exact found

/-- `get_clients(accepted)` returns all entries. -/
theorem mem_getClients (good : p.Good) (order : Order) {c : AuthClient} :
    c ∈ p.getClients order .accepted ↔ p.clients.lookup c.id = some c :=
  ⟨lookup_of_mem_getClients good, fun found => mem_getClients_iff.2 ⟨⟨_, found⟩, (good _ c found).status⟩⟩

/-- No id is returned twice. -/
theorem nodup_getClients (ids : ∀ id c, p.clients.lookup id = some c → c.id = id) (order : Order)
    (status : ClientStatus) : ((p.getClients order status).map AuthClient.id).Nodup := by
  have all : ((order.arrange (values p.clients)).map AuthClient.id).Nodup :=
    (((order.perm _).map _).nodup_iff).2 (nodup_keys_values ids)
  exact all.sublist (List.filter_sublist.map _)

/-! ## The invariant -/

theorem Good.addClient (good : p.Good) (draw : Draw) (cookies : ClientCookies) {login : Str} (pass : Str)
    (utf8 : Utf8.valid login = true) : (p.addClient draw id cookies login pass []).2.2.Good := by
  rcases @addClient_cases p id draw cookies login pass [] with
    ⟨right, absent, same⟩ | ⟨_, _, same⟩ | ⟨_, same⟩
  · rw [same]
    intro id' c found
    by_cases this : id' = id
    · subst this
      rw [AList.lookup_insert, Option.some.injEq] at found
      subst found
      exact ⟨rfl, rfl, rfl, right.1 ▸ utf8, draw, rfl⟩
    · rw [AList.lookup_insert_ne this] at found
      obtain ⟨id, login, status, text, session⟩ := good id' c found
      exact ⟨id, login, status, text, session⟩
  · rw [same]
    exact good
  · rw [same]
    exact good

theorem Good.remClient (good : p.Good) (session : Str) : (p.remClient id session).2.Good := by
  by_cases present : id ∈ p.clients
  · rw [remClient_of_mem present]
    intro id' c found
    obtain ⟨id, login, status, text, session⟩ := good id' c (lookup_erase_some found).2
    exact ⟨id, login, status, text, session⟩
  · rw [remClient_of_not_mem present]
    exact good

end

end Provider

end Gologin.Auth
