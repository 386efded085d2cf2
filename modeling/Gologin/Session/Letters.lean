import Gologin.Server.Delivery
import Gologin.Session.Meaning

/-!
# What is put on a link

Every message that is put on the link of a client, whichever handler sends it. While the client
is logged in, its connection `l` open and registered, and no other entry has its socket, the
messages on `l` are those that the server has accepted, from each connection in their order.
-/

namespace Gologin.Session
set_option autoImplicit false
open Calls Messages Tcp Auth Tables Gui

/-- The messages that were put on link `l`, each with the connection whose handler sent it,
newest first. -/
def letters (J : Nlohmann) (l : Nat) : List Server.Entry → List (Nat × Messages.Server.MsgRequest)
  | [] => []
  | .wrote c _ on packet :: log =>
    match answer J packet with
    | some (.message m) => if on = some l then (c, m) :: letters J l log else letters J l log
    | _ => letters J l log
  | _ :: log => letters J l log

/-- What is labelled `c`. -/
def labelled {α : Type} (c : Nat) (xs : List (Nat × α)) : List α := (xs.filter fun x => x.1 = c).map Prod.snd

section
variable {α β : Type} {c c' : Nat}

@[simp] theorem labelled_nil : labelled c ([] : List (Nat × α)) = [] := rfl

theorem labelled_here (x : α) (xs : List (Nat × α)) : labelled c ((c, x) :: xs) = x :: labelled c xs := by
  simp [labelled]

end

section
variable (J : Nlohmann) (l : Nat)

theorem letters_append (entries log : List Server.Entry) :
    letters J l (entries ++ log) = letters J l entries ++ letters J l log := by
  induction entries with
  | nil => rfl
  | cons e entries ih =>
    cases e with
    | wrote c via on packet =>
      simp only [List.cons_append, letters, ih]
      split
      · split <;> rfl
      · rfl
    | _ => exact ih

theorem letters_plain {entries : List Server.Entry} (plain : ∀ e ∈ entries, e.Plain) : letters J l entries = [] := by
  induction entries with
  | nil => rfl
  | cons e entries ih =>
    have rest := ih fun e member => plain e (List.mem_cons_of_mem _ member)
    have first := plain e List.mem_cons_self
    cases e with
    | called | wrote => exact first.elim
    | received | replied | read | closed => exact rest

end

/-! ## Under which handle a connection is listed -/

/-- Who is listed is found under its own handle. -/
def Keyed (s : Server.State) : Prop :=
  ∀ key c, s.clientList.lookup key = some c → ∃ conn, s.conns[c]? = some conn ∧ conn.handle = key

section
variable {A : Server.App} {s s' : Server.State} {e : Server.Event}

/-- A step of one connection, which keeps its handle. -/
theorem Keyed.of_set (h : Keyed s) {c : Nat} {old new : Server.Conn} (here : s.conns[c]? = some old)
    (conns : s'.conns = s.conns.set c new) (same : new.handle = old.handle)
    (listed : ∀ key d, s'.clientList.lookup key = some d → s.clientList.lookup key = some d ∨ key = old.handle ∧ d = c) :
    Keyed s' := by
  intro key d found
  rw [conns]
  by_cases self : d = c
  · subst self
    refine ⟨new, Server.conns_set_self here new, ?_⟩
    rcases listed key d found with before | ⟨rfl, _⟩
    · obtain ⟨conn, there, handle⟩ := h key d before
      cases here.symm.trans there
      exact same.trans handle
    · exact same
  · rw [List.getElem?_set_ne (Ne.symm self)]
    exact h key d ((listed key d found).resolve_right fun both => self both.2)

theorem Keyed.of_append (h : Keyed s) {new : Server.Conn} (conns : s'.conns = s.conns ++ [new])
    (same : s'.clientList = s.clientList) : Keyed s' := by
  intro key d found
  obtain ⟨conn, there, handle⟩ := h key d (same ▸ found)
  refine ⟨conn, ?_, handle⟩
  rw [conns]
  exact (List.getElem?_append_left (List.getElem?_eq_some_iff.1 there).1).trans there

theorem keyed_step (h : Keyed s) (taken : Server.step A s e = some s') : Keyed s' := by
  cases Server.step_cases taken with
  | accept fresh | refuse fresh => exact h.of_append rfl rfl
  | emplace here =>
    refine h.of_set here rfl rfl fun key d found => ?_
    exact (lookup_emplace found).imp_right fun new => ⟨new.1, new.2.1⟩
  | erase here => exact h.of_set here rfl rfl fun key d found => Or.inl (lookup_erase_some found).2
  | packet here | refused here | call here | reply here | disconnect here | disconnected here | invalidate here
  | destroy here | finish here =>
    exact h.of_set here rfl rfl fun _ _ => Or.inl

end

/-! ## The handlers -/

/-- The client is attended on `l`, and its entry alone has the handle of the connection. -/
structure Sole (client : AuthClient) (l : Nat) (s : Server.State) : Prop where
  attends : Server.Attends client l s
  alone : ∀ other ∈ values s.provider.clients, other.cookie = client.cookie → other = client

instance (client : AuthClient) (l : Nat) (s : Server.State) : Decidable (Sole client l s) :=
  decidable_of_iff
    (Server.Attends client l s ∧ ∀ other ∈ values s.provider.clients, other.cookie = client.cookie → other = client)
    ⟨fun h => ⟨h.1, h.2⟩, fun h => ⟨h.attends, h.alone⟩⟩

/-- What goes to the socket of the client is addressed to it. -/
def Addressed (J : Nlohmann) (client : AuthClient) : Server.Call → Prop
  | .sendTo cookies cmd buff =>
    ∃ m, answer J ⟨cmd, buff⟩ = some (.message m) ∧ (cookies = client.cookie → m.id = client.id)
  | _ => True

/-- The answers of a provider with no other entry for the socket of the client. -/
def Distinct (client : AuthClient) : (call : Server.Call) → call.Answer → Prop
  | .getClients _, (clients : List AuthClient) => ∀ c ∈ clients, c.cookie = client.cookie → c.id = client.id
  | _, _ => True

/-- What is left of a handler addresses the client so. -/
def Addressing (J : Nlohmann) (client : AuthClient) : Server.Handling Packet → Prop :=
  Program.Always (Addressed J client) (Distinct client) fun _ => True

/-- A call for the status of the sender of the message, which is asked for once. -/
def Asking (message : Option Messages.Client.MsgRequest) : Option Messages.Client.MsgRequest → Server.Call → Prop
  | awaiting, .statusClient id _ => awaiting = message ∧ ∀ r, message = some r → r.id = id
  | _, _ => True

/-- The message whose sender is still to be asked for. -/
def awaits (awaiting : Option Messages.Client.MsgRequest) : (call : Server.Call) → call.Answer →
    Option Messages.Client.MsgRequest
  | .statusClient _ _, _ => none
  | _, _ => awaiting

/-- What is left of a handler asks for the status of the sender, unless it has. -/
def Submits (message awaiting : Option Messages.Client.MsgRequest) : Server.Handling Packet → Prop :=
  Program.Follows (Asking message) (fun _ _ => True) awaits (fun awaiting _ => awaiting = none) awaiting

section
variable (A : Server.App)

end

/-! ## What is posted on the link -/

section
variable (A : Server.App) (c l : Nat) (client : AuthClient) (start : List Server.Entry)

/-- The messages of connection `c` that were accepted since `start`, but one that is still owed,
were put on the link. -/
def Posted (owed : Option Messages.Client.MsgRequest) (log : List Server.Entry) : Prop :=
  ∃ paid, Server.acceptedMessages A c log = owed.toList ++ paid ++ Server.acceptedMessages A c start ∧
    labelled c (letters A.json l log) =
      paid.map (fun r => Server.clientRequest client r.body) ++ labelled c (letters A.json l start)

/-- Where a handler stands with what it owes. -/
def Posts (log : List Server.Entry) : Server.Phase → Prop
  | .handling program => ∃ packet owed, (Server.frames c log).head? = some packet ∧
    Posted A c l client start owed log ∧ Server.Paying A.json client (Server.said A packet) owed program ∧
    Addressing A.json client program
  | _ => Posted A c l client start none log

/-- Where the thread of `c` stands; before its `accept` it has done nothing. -/
def phaseOf (s : Server.State) (c : Nat) : Server.Phase :=
  match s.conns[c]? with
  | some conn => conn.phase
  | none => .started

/-- What a run from `start` keeps, as long as the client is alone on its socket. -/
structure Posting (s : Server.State) : Prop where
  sound : Server.Sound A s
  sockets : Server.Sockets s
  keyed : Keyed s
  due : ∀ c, Posts A c l client start s.log (phaseOf s c)

end

section
variable {s s' : Server.State}

theorem phaseOf_here {c : Nat} {conn : Server.Conn} (here : s.conns[c]? = some conn) : phaseOf s c = conn.phase := by
  unfold phaseOf
  rw [here]

theorem phaseOf_set {k : Nat} {old new : Server.Conn} (here : s.conns[k]? = some old)
    (conns : s'.conns = s.conns.set k new) (c : Nat) :
    phaseOf s' c = if c = k then new.phase else phaseOf s c := by
  unfold phaseOf
  rw [conns]
  by_cases same : c = k
  · subst same
    rw [if_pos rfl, Server.conns_set_self here]
  · rw [if_neg same, List.getElem?_set_ne (Ne.symm same)]

end

/-- A packet that is read as a message. -/
theorem message_of_answer {J : Nlohmann} {packet : Packet} {m : Messages.Server.MsgRequest}
    (read : answer J packet = some (.message m)) : packerFrom J Messages.Server.MsgRequest packet.body = some m := by
  unfold answer at read
  split at read
  · obtain ⟨m', decoded, same⟩ := Option.map_eq_some_iff.1 read
    cases same
    exact decoded
  · split at read
    · obtain ⟨_, _, same⟩ := Option.map_eq_some_iff.1 read
      cases same
    · split at read
      · obtain ⟨_, _, same⟩ := Option.map_eq_some_iff.1 read
        cases same
      · split at read
        · obtain ⟨_, _, same⟩ := Option.map_eq_some_iff.1 read
          cases same
        · split at read
          · obtain ⟨_, _, same⟩ := Option.map_eq_some_iff.1 read
            cases same
          · cases read

section
variable {A : Server.App} {l : Nat} {client : AuthClient} {start : List Server.Entry} {s s' : Server.State}
  {e : Server.Event}

theorem posts_idle {c : Nat} {log : List Server.Entry} {phase : Server.Phase}
    (out : ∀ program, phase ≠ .handling program) :
    Posts A c l client start log phase ↔ Posted A c l client start none log := by
  cases phase with
  | handling program => exact absurd rfl (out program)
  | _ => exact Iff.rfl

theorem Posted.of_same {c : Nat} {owed : Option Messages.Client.MsgRequest} {log log' : List Server.Entry}
    (h : Posted A c l client start owed log)
    (accepted : Server.acceptedMessages A c log' = Server.acceptedMessages A c log)
    (put : labelled c (letters A.json l log') = labelled c (letters A.json l log)) :
    Posted A c l client start owed log' := by
  obtain ⟨paid, before, after⟩ := h
  exact ⟨paid, accepted.trans before, put.trans after⟩

/-- What a step leaves as it is on behalf of `c`. -/
structure Untouched (A : Server.App) (l c : Nat) (log log' : List Server.Entry) : Prop where
  accepted : Server.acceptedMessages A c log' = Server.acceptedMessages A c log
  put : labelled c (letters A.json l log') = labelled c (letters A.json l log)
  frames : Server.frames c log' = Server.frames c log

theorem Posts.of_same {c : Nat} {log log' : List Server.Entry} {phase : Server.Phase}
    (h : Posts A c l client start log phase) (same : Untouched A l c log log') : Posts A c l client start log' phase := by
  cases phase with
  | handling program =>
    obtain ⟨packet, owed, last, posted, more⟩ := h
    exact ⟨packet, owed, same.frames ▸ last, posted.of_same same.accepted same.put, more⟩
  | _ => exact Posted.of_same h same.accepted same.put

/-- Observations that are plain. -/
theorem untouched_plain {entries log : List Server.Entry} (plain : ∀ e ∈ entries, e.Plain) {c : Nat}
    (frames : Server.frames c (entries ++ log) = Server.frames c log) : Untouched A l c log (entries ++ log) := by
  refine ⟨Server.acceptedMessages_append plain c log, ?_, frames⟩
  rw [letters_append, letters_plain A.json l plain, List.nil_append]

/-- What is sent to other cookies does not get on the link. -/
theorem Sole.elsewhere (sole : Sole client l s) (sockets : Server.Sockets s) (keyed : Keyed s) (J : Nlohmann) (k : Nat)
    {cookies : ClientCookies} (other : cookies ≠ client.cookie) (packet : Packet) :
    letters J l (s.sendTo k cookies packet).2 = [] := by
  rcases Server.sendTo_cases s k cookies packet with empty | ⟨via, conn, handle, listed, there, socket, one⟩
  · rw [empty]
    rfl
  · have off : s.sockets.lookup handle ≠ some l := by
      intro found
      obtain ⟨conn', here, socket', _⟩ := sockets.held handle l found
      obtain ⟨same, own, key⟩ := keyed _ _ sole.attends.listed
      cases here.symm.trans own
      obtain ⟨same', there', key'⟩ := keyed _ _ listed
      cases there.symm.trans there'
      have handle_ := (sockets.own l conn' handle here socket').symm.trans (sockets.own via conn handle there socket)
      have id : cookies.serverClientId = client.cookie.serverClientId := key'.symm.trans (handle_.symm.trans key)
      cases cookies with
      | mk _ => exact other (congrArg ClientCookies.mk id)
    rw [one]
    simp only [letters]
    split
    · rw [if_neg off]
    · rfl

theorem Sole.distinct (sole : Sole client l s) (good : s.provider.Good) (c : Nat) (choice : Server.Choice) (call : Server.Call) :
    Distinct client call (s.outcome c choice call).1 := by
  cases call with
  | getClients status =>
    intro other member same
    have there := Provider.lookup_of_mem_getClients good member
    rw [sole.alone other (mem_values.2 ⟨_, there⟩) same]
  | statusClient | addClient | remClient | sendTo => trivial

/-- **A call pays what is owed**, or leaves it owed. -/
theorem Posting.called (h : Posting A l client start s) (sole : Sole client l s) {k handle : Nat} {socket : Option Nat}
    (choice : Server.Choice) {call : Server.Call} {next : call.Answer → Server.Handling Packet}
    (here : s.conns[k]? = some ⟨handle, socket, .handling (.call call next)⟩) :
    Posts A k l client start (s.after k choice call).log (.handling (next (s.outcome k choice call).1)) := by
  have due := h.due k
  rw [phaseOf_here here] at due
  obtain ⟨packet, owed, last, ⟨paid, accepted, put⟩, ⟨pays, later⟩, ⟨addressed, rest⟩⟩ := due
  refine ⟨packet, _, ?_, ?_, later _ (Server.shows_outcome h.sound.good sole.attends.entry choice call),
    rest _ (sole.distinct h.sound.good k choice call)⟩
  · rw [Server.frames_after]
    exact last
  cases call with
  | statusClient id session =>
    obtain rfl : owed = none := pays
    refine ⟨paid, ?_, put⟩
    rw [Server.accepted_statusClient client last, accepted]
    exact (List.append_assoc _ _ _).symm
  | getClients | addClient | remClient => exact ⟨paid, accepted, put⟩
  | sendTo cookies cmd buff =>
    obtain ⟨full, m, decoded, own⟩ := pays
    obtain ⟨m', read, only⟩ := addressed
    obtain rfl : m = m' := Option.some.inj (decoded.symm.trans (message_of_answer read))
    have accepts := @Server.accepted_writes A k s k choice (.sendTo cookies cmd buff) s.log
    by_cases here_ : cookies = client.cookie
    · obtain ⟨r, rfl, rfl, rfl, rfl⟩ := own (only here_)
      have wrote : (s.outcome k choice (.sendTo client.cookie Commands.msg buff)).2.2 =
          [.wrote k l (some l) ⟨Commands.msg, buff⟩] :=
        congrArg Prod.snd (@Server.Sockets.sendTo s h.sockets l client.cookie sole.attends.listed sole.attends.open_ k
          ⟨Commands.msg, buff⟩ full)
      refine ⟨r :: paid, ?_, ?_⟩
      · simp only [Server.owes, decoded, Option.map_some, only rfl, if_true]
        exact accepts.trans accepted
      · change labelled k (letters A.json l
          ((s.outcome k choice (.sendTo client.cookie Commands.msg buff)).2.2 ++ s.log)) = _
        rw [wrote, List.singleton_append, letters, read]
        simp only [if_true, labelled_here, put, List.map_cons, List.cons_append]
    · have apart : m.id ≠ client.id := by
        intro same
        obtain ⟨_, _, there, _⟩ := own same
        exact here_ there
      refine ⟨paid, ?_, ?_⟩
      · simp only [Server.owes, decoded, Option.map_some, Option.some.injEq, apart, if_false]
        exact accepts.trans accepted
      · change labelled k (letters A.json l ((s.sendTo k cookies ⟨cmd, buff⟩).2 ++ s.log)) = _
        rw [letters_append, sole.elsewhere h.sockets h.keyed A.json k here_, List.nil_append]
        exact put

/-- A step of one connection. -/
theorem Posting.of_set (h : Posting A l client start s) (taken : Server.step A s e = some s') {k : Nat}
    {old new : Server.Conn} (here : s.conns[k]? = some old) (conns : s'.conns = s.conns.set k new)
    (others : ∀ c, k ≠ c → Untouched A l c s.log s'.log) (self : Posts A k l client start s'.log new.phase) :
    Posting A l client start s' := by
  refine ⟨Server.sound_step h.sound taken, Server.sockets_step h.sockets taken, keyed_step h.keyed taken, fun c => ?_⟩
  rw [phaseOf_set here conns]
  split
  · rename_i same
    exact same ▸ self
  · rename_i other
    exact (h.due c).of_same (others c (Ne.symm other))

/-- A step of one connection whose observations are plain, from no handler and to none. -/
theorem Posting.of_plain (h : Posting A l client start s) (taken : Server.step A s e = some s') {k : Nat}
    {old new : Server.Conn} {entries : List Server.Entry} (here : s.conns[k]? = some old)
    (conns : s'.conns = s.conns.set k new) (log : s'.log = entries ++ s.log) (plain : ∀ x ∈ entries, x.Plain)
    (frames : ∀ c, Server.frames c (entries ++ s.log) = Server.frames c s.log)
    (before : Posted A k l client start none s.log) (behind : ∀ program, new.phase ≠ .handling program) :
    Posting A l client start s' := by
  have touched (c : Nat) : Untouched A l c s.log s'.log := log ▸ untouched_plain plain (frames c)
  refine h.of_set taken here conns (fun c _ => touched c) ?_
  exact (posts_idle behind).2 (before.of_same (touched k).accepted (touched k).put)

end

end Gologin.Session
