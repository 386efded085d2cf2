import Gologin.Auth.Provider
import Gologin.Lib.Registers

/-!
# The table as the outcome of its history

`add_client` and `rem_client` each hold the mutex, so whatever threads call them, the calls
have an order. For each id the table is a register: an add with the configured credentials
sets it while it is empty, and a removal clears it.
-/

namespace Gologin.Auth
set_option autoImplicit false
open Tables Registers

/-- A call that may change the table, with the letters it would draw. -/
inductive Op where
  | add (clientId : UInt64) (cookies : ClientCookies) (clientLogin clientPass : Str) (draw : Draw)
  | rem (clientId : UInt64) (clientSession : Str)

/-- A call: its result, the session variable of its caller after it, and the provider. -/
def Provider.call (p : Provider) (session : Str) : Op → ClientStatus × Str × Provider
  | .add id cookies login pass draw => p.addClient draw id cookies login pass session
  | .rem id clientSession => ((p.remClient id clientSession).1, session, (p.remClient id clientSession).2)

/-- The provider after a sequence of calls; the session variable of a caller is empty before. -/
def Provider.after (p : Provider) (ops : List Op) : Provider := ops.foldl (fun p op => (p.call [] op).2.2) p

/-- The entry that an add with the configured credentials makes. -/
def Op.adds (login pass : Str) (id : UInt64) : Op → Option AuthClient
  | .add id' cookies login' pass' draw =>
    if id' = id ∧ login' = login ∧ pass' = pass then some ⟨cookies, id, draw.session, login, .accepted⟩ else none
  | .rem _ _ => none

/-- Whether a call is a removal of the id. -/
def Op.removes (id : UInt64) : Op → Bool
  | .add _ _ _ _ _ => false
  | .rem id' _ => id' = id

/-- A call that fails: `rejected` and `not_found`, and `removed` when it is an add. -/
def Op.Fails (p : Provider) (session : Str) (op : Op) : Prop :=
  match op with
  | .add _ _ _ _ _ => (p.call session op).1 = .rejected ∨ (p.call session op).1 = .removed
  | .rem _ _ => (p.call session op).1 = .notFound

/-- What a provider with these credentials is after a sequence of calls. -/
structure Recounts (login pass : Str) (ops : List Op) (p : Provider) : Prop where
  /-- An id is accepted exactly when the last add or removal of it is an add. -/
  accepted : ∀ id session, p.statusClient id session = .accepted ↔
    LastSets (Op.adds login pass id) (Op.removes id) ops
  /-- Its entry is that of the first add after its last removal. -/
  entry : ∀ id c, p.clients.lookup id = some c ↔ FirstSet (Op.adds login pass id) (Op.removes id) ops c
  shape : ∀ id c, p.clients.lookup id = some c →
    c.id = id ∧ c.login = login ∧ c.status = .accepted ∧ c.session.length = 32 ∧ ∀ b ∈ c.session, 97 ≤ b ∧ b ≤ 122
  failed : ∀ op session, op.Fails p session →
    (p.call session op).2.2.clients = p.clients ∧ (p.call session op).2.1 = session
  listed : ∀ order c, c ∈ p.getClients order .accepted ↔ p.clients.lookup c.id = some c
  once : ∀ order, ((p.getClients order .accepted).map AuthClient.id).Nodup

/-- The letters of a session. -/
theorem Draw.session_letters (draw : Draw) : ∀ b ∈ draw.session, 97 ≤ b ∧ b ≤ 122 := by
  intro b member
  obtain ⟨letter, _, rfl⟩ := List.mem_map.1 member
  have : ∀ l : Fin 26, 97 ≤ UInt8.ofNat (97 + l.val) ∧ UInt8.ofNat (97 + l.val) ≤ 122 := by decide
  exact this letter

namespace Provider

/-- The credentials stay. -/
theorem call_credentials (p : Provider) (session : Str) (op : Op) :
    (p.call session op).2.2.clientLogin = p.clientLogin ∧ (p.call session op).2.2.clientPass = p.clientPass := by
  cases op with
  | add id cookies login pass draw =>
    rcases @addClient_cases p id draw cookies login pass session with ⟨_, _, same⟩ | ⟨_, _, same⟩ | ⟨_, same⟩
    all_goals rw [call, same]; exact ⟨rfl, rfl⟩
  | rem id clientSession =>
    by_cases present : id ∈ p.clients
    · rw [call, remClient_of_mem present]
      exact ⟨rfl, rfl⟩
    · rw [call, remClient_of_not_mem present]
      exact ⟨rfl, rfl⟩

/-- **What a call does to the entry of an id.** -/
theorem lookup_call (p : Provider) (op : Op) (id : UInt64) :
    (p.call [] op).2.2.clients.lookup id =
      hold (Op.adds p.clientLogin p.clientPass id) (Op.removes id) (p.clients.lookup id) op := by
  cases op with
  | add id' cookies login pass draw =>
    simp only [hold, Op.removes, Op.adds, call, Bool.false_eq_true, if_false]
    rcases @addClient_cases p id' draw cookies login pass [] with
      ⟨⟨rfl, rfl⟩, absent, same⟩ | ⟨right, present, same⟩ | ⟨wrong, same⟩
    · rw [same]
      by_cases here : id' = id
      · subst here
        rw [AList.lookup_insert, not_mem_iff_lookup.1 absent, if_pos ⟨rfl, rfl, rfl⟩]
        rfl
      · rw [AList.lookup_insert_ne (Ne.symm here), if_neg fun h => here h.1, Option.or_none]
    · rw [same]
      by_cases here : id' = id
      · subst here
        obtain ⟨c, found⟩ := Option.isSome_iff_exists.1 (AList.lookup_isSome.2 present)
        rw [found, Option.some_or]
      · rw [if_neg fun h => here h.1, Option.or_none]
    · rw [same, if_neg fun h => wrong h.2, Option.or_none]
  | rem id' clientSession =>
    simp only [hold, Op.removes, Op.adds, call, decide_eq_true_iff, Option.or_none]
    by_cases present : id' ∈ p.clients
    · rw [remClient_of_mem present]
      by_cases here : id' = id
      · subst here
        rw [if_pos rfl, AList.lookup_erase]
      · rw [if_neg here, lookup_erase_ne (Ne.symm here)]
    · rw [remClient_of_not_mem present]
      by_cases here : id' = id
      · subst here
        rw [if_pos rfl, not_mem_iff_lookup.1 present]
      · rw [if_neg here]

/-- A call that fails leaves no trace. -/
theorem call_failed (p : Provider) (session : Str) {op : Op} (fails : op.Fails p session) :
    (p.call session op).2.2.clients = p.clients ∧ (p.call session op).2.1 = session := by
  cases op with
  | add id cookies login pass draw =>
    rcases @addClient_cases p id draw cookies login pass session with ⟨_, _, same⟩ | ⟨_, _, same⟩ | ⟨_, same⟩
    · simp only [Op.Fails, call, same] at fails
      rcases fails with other | other <;> cases other
    · rw [call, same]
      exact ⟨rfl, rfl⟩
    · rw [call, same]
      exact ⟨rfl, rfl⟩
  | rem id clientSession =>
    by_cases present : id ∈ p.clients
    · simp only [Op.Fails, call, remClient_of_mem present] at fails
      cases fails
    · rw [call, remClient_of_not_mem present]
      exact ⟨rfl, rfl⟩

/-- Each id of the table is a register. -/
theorem lookup_after (login pass : Str) (ops : List Op) (id : UInt64) :
    ((init login pass).after ops).clientLogin = login ∧ ((init login pass).after ops).clientPass = pass ∧
      ((init login pass).after ops).clients.lookup id = value (Op.adds login pass id) (Op.removes id) ops := by
  induction ops using List.reverseRecOn with
  | nil => exact ⟨rfl, rfl, AList.lookup_empty id⟩
  | append_singleton ops op ih =>
    obtain ⟨sameLogin, samePass, found⟩ := ih
    have last : (init login pass).after (ops ++ [op]) = (((init login pass).after ops).call [] op).2.2 := by
      rw [after, List.foldl_append]
      rfl
    obtain ⟨keptLogin, keptPass⟩ := call_credentials ((init login pass).after ops) [] op
    refine ⟨?_, ?_, ?_⟩
    · rw [last, keptLogin, sameLogin]
    · rw [last, keptPass, samePass]
    · rw [last, lookup_call, value_concat, found, sameLogin, samePass]

end Provider

/-- The entry of an add. -/
theorem Op.adds_shape {login pass : Str} {id : UInt64} {op : Op} {c : AuthClient}
    (adds : op.adds login pass id = some c) :
    c.id = id ∧ c.login = login ∧ c.status = .accepted ∧ ∃ draw : Draw, c.session = draw.session := by
  cases op with
  | rem => cases adds
  | add id' cookies login' pass' draw =>
    simp only [Op.adds] at adds
    split at adds
    · cases adds
      exact ⟨rfl, rfl, rfl, draw, rfl⟩
    · cases adds

/-- **The table is the fold of its history**, for every sequence of calls. -/
theorem provider_recounts (login pass : Str) (ops : List Op) :
    Recounts login pass ops ((Provider.init login pass).after ops) := by
  have found := fun id => (Provider.lookup_after login pass ops id).2.2
  have entry : ∀ id c, ((Provider.init login pass).after ops).clients.lookup id = some c ↔
      FirstSet (Op.adds login pass id) (Op.removes id) ops c := by
    intro id c
    rw [found, value_iff]
  have shape : ∀ id c, ((Provider.init login pass).after ops).clients.lookup id = some c →
      c.id = id ∧ c.login = login ∧ c.status = .accepted ∧ ∃ draw : Draw, c.session = draw.session := by
    intro id c there
    obtain ⟨before, op, later, _, _, adds, _⟩ := (entry id c).1 there
    exact op.adds_shape adds
  refine ⟨fun id session => ?_, entry, fun id c there => ?_, fun op session => Provider.call_failed _ session,
    fun order c => ?_, fun order => Provider.nodup_getClients (fun id c there => (shape id c there).1) order .accepted⟩
  · rw [← value_isSome, ← found]
    cases there : ((Provider.init login pass).after ops).clients.lookup id with
    | none => simp [Provider.statusClient_none there]
    | some c => simp [Provider.statusClient, there, (shape id c there).2.2.1]
  · obtain ⟨sameId, sameLogin, status, draw, session⟩ := shape id c there
    exact ⟨sameId, sameLogin, status, session ▸ draw.session_length, session ▸ draw.session_letters⟩
  · rw [Provider.mem_getClients_iff]
    constructor
    · rintro ⟨⟨id, there⟩, _⟩
      rw [(shape id c there).1]
      exact there
    · intro there
      exact ⟨⟨_, there⟩, (shape _ c there).2.2.1⟩

end Gologin.Auth
