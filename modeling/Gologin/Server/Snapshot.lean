import Gologin.Server.Handling

/-!
# Messages after a logout

A broadcast goes over the clients that `get_clients` returned, and holds no lock while it
sends. So an entry that another handler removes in between still gets its message. What
holds is that a handler writes only to the clients of its last `get_clients`, and that
these were logged in when it was called.
-/

namespace Gologin.Server
set_option autoImplicit false
open Calls Messages Auth Tcp Tables

/-- Where an id stands with the provider. -/
inductive Standing where
  | unknown
  | entered (client : AuthClient)
  /-- Its entry was removed by the handler of a connection, which has not replied yet. -/
  | removed (c : Nat)
  /-- Its entry was removed, and the reply to the logout has been written. -/
  | dismissed
  deriving DecidableEq

/-- The entry, if there is one. -/
def Standing.entry : Standing → Option AuthClient
  | entered client => some client
  | _ => none

/-- The standing of an id, by its logins and logouts and the replies to them. -/
def standing (id : UInt64) : List Entry → Standing
  | [] => .unknown
  | .called _ (.addClient id' cookies login _ _) ((status, session) : ClientStatus × Str) :: log =>
    if id' = id ∧ status = .accepted then .entered ⟨cookies, id, session, login, .accepted⟩ else standing id log
  | .called c (.remClient id' _) (status : ClientStatus) :: log =>
    if id' = id ∧ status = .removed then .removed c else standing id log
  | .replied c (some _) _ :: log => if standing id log = .removed c then .dismissed else standing id log
  | _ :: log => standing id log

/-- What the request that the handler of `c` is at has from `get_clients`. -/
def snapshot (c : Nat) : List Entry → List AuthClient
  | [] => []
  | .called c' (.getClients _) (clients : List AuthClient) :: log => if c' = c then clients else snapshot c log
  | .received c' _ :: log => if c' = c then [] else snapshot c log
  | _ :: log => snapshot c log

/-- Whether the handler of `c` has called `get_clients` since the entry of the id was last
removed. -/
def askedSince (id : UInt64) (c : Nat) : List Entry → Bool
  | [] => false
  | .called c' (.getClients _) _ :: log => c' = c || askedSince id c log
  | .called _ (.remClient id' _) (status : ClientStatus) :: log =>
    !(id' = id ∧ status = .removed : Bool) && askedSince id c log
  | _ :: log => askedSince id c log

/-- A message to an id whose logout has been replied to and that has not logged in again. -/
structure Late where
  id : UInt64
  c : Nat
  asked : Bool
  deriving DecidableEq, Repr

/-- The late messages, newest first. -/
def lateMessages (J : Nlohmann) : List Entry → List Late
  | [] => []
  | .wrote c _ _ packet :: log =>
    match packerFrom J Server.MsgRequest packet.body with
    | some m =>
      if standing m.id log = .dismissed then ⟨m.id, c, askedSince m.id c log⟩ :: lateMessages J log
      else lateMessages J log
    | none => lateMessages J log
  | _ :: log => lateMessages J log

/-! ## The handlers -/

/-- A handler sends to the clients of its snapshot, and to each its own packet. -/
def SendsTo (J : Nlohmann) (clients : List AuthClient) : Call → Prop
  | .sendTo cookies _ buff => ∃ client ∈ clients, ∃ body, cookies = client.cookie ∧
    packerFrom J Server.MsgRequest buff = some (clientRequest client body)
  | _ => True

/-- The snapshot after a call. -/
def asks (clients : List AuthClient) : (call : Call) → call.Answer → List AuthClient
  | .getClients _, (answer : List AuthClient) => answer
  | _, _ => clients

/-- What is left of a handler sends to its snapshot. -/
def Sending (J : Nlohmann) (clients : List AuthClient) (program : Handling Packet) : Prop :=
  Program.Follows (SendsTo J) AnswerOk asks (fun _ _ => True) clients program

section
variable (A : App)

/-- The loop of a broadcast over a part of the snapshot. -/
theorem broadcast_sending {body : Str} (text : Utf8.valid body = true) {all clients : List AuthClient}
    (inside : ∀ client ∈ clients, client ∈ all)
    (good : ∀ client ∈ clients, Utf8.valid client.login = true ∧ Utf8.valid client.session = true) :
    Program.Follows (SendsTo A.json) AnswerOk asks (fun _ _ => True) all (broadcast A.json body clients) := by
  induction clients with
  | nil => trivial
  | cons client rest ih =>
    obtain ⟨login, session⟩ := good client List.mem_cons_self
    obtain ⟨buff, packed⟩ := packerTo_some A.json (clientRequest_utf8 text login session)
    rw [broadcast, packed]
    refine ⟨⟨client, inside client List.mem_cons_self, body, rfl, packerFrom_packerTo A.json packed⟩, fun _ _ => ?_⟩
    exact ih (fun client member => inside client (List.mem_cons_of_mem _ member))
      fun client member => good client (List.mem_cons_of_mem _ member)

theorem handling_sending (cmd : Str) (cookies : ClientCookies) {request : Request} (text : request.Text) :
    Program.Follows (SendsTo A.json) AnswerOk asks (fun _ _ => True) [] (A.handling cmd cookies request) := by
  cases request with
  | hello r => trivial
  | ping r =>
    refine ⟨trivial, fun (auth : ClientStatus) _ => ?_⟩
    change Program.Follows _ _ _ _ _ (Program.bind (if auth = .accepted then _ else _) _)
    split <;> trivial
  | login r =>
    refine ⟨trivial, fun (answer : ClientStatus × Str) _ => ?_⟩
    change Program.Follows _ _ _ _ _ (Program.bind (if answer.1 = .accepted then _ else _) _)
    split <;> trivial
  | logout r =>
    refine ⟨trivial, fun (auth : ClientStatus) _ => ?_⟩
    change Program.Follows _ _ _ _ _ (Program.bind (if auth = .removed then _ else _) _)
    split <;> trivial
  | message r =>
    obtain ⟨_, _, body, _, _⟩ := text
    refine ⟨trivial, fun (auth : ClientStatus) _ => ?_⟩
    change Program.Follows _ _ _ _ _ (Program.bind (if auth = .accepted then _ else _) _)
    split
    · refine ⟨trivial, fun (clients : List AuthClient) good => ?_⟩
      change Program.Follows _ _ _ _ clients (Program.bind (Program.bind (broadcast A.json r.body clients) _) _)
      rw [Program.bind_assoc]
      refine Program.Follows.bind (fun g sent _ => ?_) (broadcast_sending A body (fun _ member => member) good)
      cases sent <;> trivial
    · trivial

/-- **Whom a packet's handler sends to.** -/
theorem packetHandler_sending (cid : Nat) (packet : Packet) : Sending A.json [] (A.packetHandler cid packet) := by
  change Program.Follows _ _ _ _ _ (Program.bind (dispatch A.hash A.handlers packet.cmd ⟨cid⟩ packet.body) _)
  rcases A.dispatch_request packet ⟨cid⟩ with ⟨request, taken, same⟩ | ⟨_, ok, same⟩
  · rw [same]
    apply Program.Follows.bind _ (handling_sending A packet.cmd ⟨cid⟩ (request_text A taken))
    exact fun _ _ _ => trivial
  · rw [same]
    trivial

end

/-! ## The log -/

/-- What a call and a broadcast say of the log before them. -/
def Entry.Grounded (J : Nlohmann) (log : List Entry) : Entry → Prop
  | .called _ (.getClients _) (clients : List AuthClient) =>
    ∀ client ∈ clients, (standing client.id log).entry = some client
  | .wrote c _ _ packet => ∃ client ∈ snapshot c log, ∃ body,
    packerFrom J Server.MsgRequest packet.body = some (clientRequest client body)
  | _ => True

def Grounded (J : Nlohmann) : List Entry → Prop
  | [] => True
  | e :: log => e.Grounded J log ∧ Grounded J log

section
variable {id id' : UInt64} {c c' : Nat} {log : List Entry}

theorem standing_addClient {cookies : ClientCookies} {login pass session : Str} {status : ClientStatus}
    {session' : Str} :
    standing id (.called c (.addClient id' cookies login pass session) (status, session') :: log) =
      if id' = id ∧ status = .accepted then .entered ⟨cookies, id, session', login, .accepted⟩
      else standing id log := rfl

theorem standing_remClient {session : Str} {status : ClientStatus} :
    standing id (.called c (.remClient id' session) status :: log) =
      if id' = id ∧ status = .removed then .removed c else standing id log := rfl

theorem standing_replied {on : Option Nat} {packet : Packet} :
    (standing id (.replied c on packet :: log)).entry = (standing id log).entry := by
  cases on with
  | none => rfl
  | some d =>
    rw [standing]
    split
    · rename_i removed
      rw [removed]
      rfl
    · rfl

/-- An id that is out is not in a snapshot taken since. -/
theorem snapshot_dismissed {J : Nlohmann} (grounded : Grounded J log)
    (out : (standing id log).entry = none) (asked : askedSince id c log = true) :
    ∀ client ∈ snapshot c log, client.id ≠ id := by
  induction log with
  | nil => cases asked
  | cons e log ih =>
    obtain ⟨here, before⟩ := grounded
    cases e with
    | called c' call answer =>
      cases call with
      | getClients status =>
        change (decide (c' = c) || askedSince id c log) = true at asked
        rw [Bool.or_eq_true, decide_eq_true_iff] at asked
        let clients : List AuthClient := answer
        change ∀ client ∈ (if c' = c then clients else snapshot c log), client.id ≠ id
        split
        · rintro client member rfl
          exact nomatch (here client member).symm.trans out
        · rename_i same
          exact ih before out (asked.resolve_left same)
      | addClient id' cookies login pass session =>
        obtain ⟨status, session'⟩ : ClientStatus × Str := answer
        rw [standing_addClient] at out
        split at out
        · cases out
        · exact ih before out asked
      | remClient id' session =>
        let status : ClientStatus := answer
        change (!(decide (id' = id ∧ status = .removed)) && askedSince id c log) = true at asked
        rw [Bool.and_eq_true, Bool.not_eq_true', decide_eq_false_iff_not] at asked
        change (if id' = id ∧ status = .removed then Standing.removed c' else standing id log).entry = none at out
        rw [if_neg asked.1] at out
        exact ih before out asked.2
      | statusClient | sendTo => exact ih before out asked
    | received c' packet =>
      simp only [snapshot]
      split
      · nofun
      · exact ih before out asked
    | replied c' on packet =>
      rw [standing_replied] at out
      exact ih before out asked
    | wrote | read | closed => exact ih before out asked

/-- A late message is of a snapshot from before the logout. -/
theorem late_unasked {J : Nlohmann} (grounded : Grounded J log) :
    ∀ late ∈ lateMessages J log, late.asked = false := by
  induction log with
  | nil => nofun
  | cons e log ih =>
    obtain ⟨here, before⟩ := grounded
    cases e with
    | wrote c via on packet =>
      obtain ⟨client, inside, body, decoded⟩ := here
      simp only [lateMessages, decoded]
      split
      · rename_i out
        refine List.forall_mem_cons.2 ⟨?_, ih before⟩
        by_contra asked
        apply snapshot_dismissed before _ (Bool.eq_true_of_not_eq_false asked) client inside rfl
        rw [out]
        rfl
      · exact ih before
    | received | called | replied | read | closed => exact ih before

end

/-! ## The invariant -/

/-- What every run keeps: the table is what the log says, and each handler sends to its
snapshot. -/
structure Snapshots (A : App) (s : State) : Prop where
  sound : Sound A s
  replayed : ∀ id, s.provider.clients.lookup id = (standing id s.log).entry
  threads : ∀ c conn program, s.conns[c]? = some conn → conn.phase = .handling program →
    Sending A.json (snapshot c s.log) program
  grounded : Grounded A.json s.log

theorem standing_append {entries : List Entry} (plain : ∀ e ∈ entries, e.Plain) (id : UInt64) (log : List Entry) :
    (standing id (entries ++ log)).entry = (standing id log).entry := by
  induction entries with
  | nil => rfl
  | cons e entries ih =>
    have rest := ih fun e member => plain e (List.mem_cons_of_mem _ member)
    have first := plain e List.mem_cons_self
    cases e with
    | called | wrote => exact first.elim
    | replied => exact standing_replied.trans rest
    | received | read | closed => exact rest

theorem grounded_append {J : Nlohmann} {entries : List Entry} (plain : ∀ e ∈ entries, e.Plain) {log : List Entry}
    (grounded : Grounded J log) : Grounded J (entries ++ log) := by
  induction entries with
  | nil => exact grounded
  | cons e entries ih =>
    have rest := ih fun e member => plain e (List.mem_cons_of_mem _ member)
    have first := plain e List.mem_cons_self
    cases e with
    | called | wrote => exact first.elim
    | received | replied | read | closed => exact ⟨trivial, rest⟩

theorem snapshot_append {entries : List Entry} (plain : ∀ e ∈ entries, e.Plain)
    (quiet : ∀ c packet, .received c packet ∉ entries) (c : Nat) (log : List Entry) :
    snapshot c (entries ++ log) = snapshot c log := by
  induction entries with
  | nil => rfl
  | cons e entries ih =>
    have rest := ih (fun e member => plain e (List.mem_cons_of_mem _ member)) fun c packet member =>
      quiet c packet (List.mem_cons_of_mem _ member)
    have first := plain e List.mem_cons_self
    cases e with
    | called | wrote => exact first.elim
    | received c' packet => exact absurd List.mem_cons_self (quiet c' packet)
    | replied | read | closed => exact rest

section
variable {A : App} {s s' : State} {e : Event}

theorem snapshots_init (login pass : Str) : Snapshots A (State.init login pass) :=
  ⟨sound_init login pass, fun _ => AList.lookup_empty _, nofun, trivial⟩

/-- A call leaves the table as the log says. -/
theorem replayed_after (replayed : ∀ id, s.provider.clients.lookup id = (standing id s.log).entry) (c : Nat)
    (choice : Choice) (call : Call) (id : UInt64) :
    (s.after c choice call).provider.clients.lookup id = (standing id (s.after c choice call).log).entry := by
  cases call with
  | statusClient | getClients => exact replayed id
  | addClient id' cookies login pass session =>
    change (s.provider.addClient choice.draw id' cookies login pass session).2.2.clients.lookup id =
      (standing id (.called c (.addClient id' cookies login pass session)
        ((s.provider.addClient choice.draw id' cookies login pass session).1,
          (s.provider.addClient choice.draw id' cookies login pass session).2.1) :: s.log)).entry
    rw [standing_addClient]
    rcases @Provider.addClient_cases s.provider id' choice.draw cookies login pass session with
      ⟨right, _, same⟩ | ⟨_, _, same⟩ | ⟨_, same⟩
    · rw [same]
      by_cases this : id' = id
      · subst this
        rw [if_pos ⟨rfl, rfl⟩, right.1]
        exact AList.lookup_insert _
      · rw [if_neg fun both => this both.1, ← replayed id]
        exact AList.lookup_insert_ne (Ne.symm this)
    · rw [same, if_neg nofun]
      exact replayed id
    · rw [same, if_neg nofun]
      exact replayed id
  | remClient id' session =>
    change (s.provider.remClient id' session).2.clients.lookup id =
      (standing id (.called c (.remClient id' session) (s.provider.remClient id' session).1 :: s.log)).entry
    rw [standing_remClient]
    by_cases present : id' ∈ s.provider.clients
    · rw [Provider.remClient_of_mem present]
      by_cases this : id' = id
      · subst this
        rw [if_pos ⟨rfl, rfl⟩]
        exact AList.lookup_erase id' s.provider.clients
      · rw [if_neg fun both => this both.1, ← replayed id]
        exact lookup_erase_ne (Ne.symm this)
    · rw [Provider.remClient_of_not_mem present, if_neg nofun]
      exact replayed id
  | sendTo cookies cmd buff =>
    rw [log_after]
    change s.provider.clients.lookup id = (standing id ((s.outcome c choice _).2.2 ++ s.log)).entry
    rcases outcome_cases s c choice (.sendTo cookies cmd buff) with
      empty | ⟨_, _, _, _, _, _, _, _, _, _, one⟩
    · rw [empty]
      exact replayed id
    · rw [one]
      exact replayed id

/-- The snapshots after a call. -/
theorem snapshot_after (s : State) (c : Nat) (choice : Choice) (call : Call) (d : Nat) :
    snapshot d (s.after c choice call).log =
      if c = d then asks (snapshot d s.log) call (s.outcome c choice call).1 else snapshot d s.log := by
  rw [log_after]
  have quiet : snapshot d ((s.outcome c choice call).2.2 ++ s.log) = snapshot d s.log := by
    rcases outcome_cases s c choice call with empty | ⟨_, _, _, _, _, _, _, _, _, _, one⟩
    · rw [empty]
      rfl
    · rw [one]
      rfl
  cases call with
  | getClients status =>
    rw [← quiet]
    rfl
  | statusClient | addClient | remClient | sendTo =>
    change snapshot d ((s.outcome c choice _).2.2 ++ s.log) = _
    rw [quiet]
    exact (ite_self _).symm

/-- A call of a handler that sends to its snapshot is grounded. -/
theorem Snapshots.grounded_after (h : Snapshots A s) {c : Nat} (choice : Choice) {call : Call}
    (sends : SendsTo A.json (snapshot c s.log) call) : Grounded A.json (s.after c choice call).log := by
  rw [log_after]
  constructor
  · cases call with
    | getClients status =>
      intro client member
      change (standing client.id s.log).entry = some client
      rw [← h.replayed]
      exact Provider.lookup_of_mem_getClients h.sound.good member
    | statusClient | addClient | remClient | sendTo => trivial
  · rcases outcome_cases s c choice call with empty | ⟨_, _, _, _, _, _, rfl, _, _, _, one⟩
    · rw [empty]
      exact h.grounded
    · rw [one]
      obtain ⟨client, inside, body, _, decoded⟩ := sends
      exact ⟨⟨client, inside, body, decoded⟩, h.grounded⟩

/-- A step of one handler that calls nothing. -/
theorem Snapshots.of_set (h : Snapshots A s) (taken : step A s e = some s') {c : Nat} {new : Conn}
    (provider : s'.provider = s.provider) (conns : s'.conns = s.conns.set c new)
    (observed : ∃ entries, s'.log = entries ++ s.log ∧ (∀ e ∈ entries, e.Plain) ∧
      ∀ d, d ≠ c → snapshot d (entries ++ s.log) = snapshot d s.log)
    (sending : ∀ program, new.phase = .handling program → Sending A.json (snapshot c s'.log) program) :
    Snapshots A s' := by
  obtain ⟨entries, log, plain, others⟩ := observed
  refine ⟨sound_step h.sound taken, fun id => ?_, fun d conn program found phase => ?_, ?_⟩
  · rw [provider, log, standing_append plain]
    exact h.replayed id
  · rw [conns] at found
    rcases conns_set found with ⟨rfl, rfl⟩ | ⟨other, there⟩
    · exact sending program phase
    · rw [log, others d other]
      exact h.threads d conn program there phase
  · rw [log]
    exact grounded_append plain h.grounded

/-- A new connection. -/
theorem Snapshots.of_append (h : Snapshots A s) (taken : step A s e = some s') {handle : Nat}
    (provider : s'.provider = s.provider) (conns : s'.conns = s.conns ++ [⟨handle, some handle, .started⟩])
    (log : s'.log = s.log ∨ ∃ c on, s'.log = .closed c on :: s.log) : Snapshots A s' := by
  have threads : ∀ c conn program, s'.conns[c]? = some conn → conn.phase = .handling program →
      Sending A.json (snapshot c s.log) program := by
    intro c conn program found phase
    rw [conns] at found
    rcases conns_append found with ⟨_, rfl⟩ | old
    · cases phase
    · exact h.threads c conn program old phase
  rcases log with same | ⟨c, on, same⟩
  · refine ⟨sound_step h.sound taken, fun id => ?_, ?_, same ▸ h.grounded⟩
    · rw [provider, same]
      exact h.replayed id
    · rw [same]
      exact threads
  · refine ⟨sound_step h.sound taken, fun id => ?_, ?_, same ▸ ⟨trivial, h.grounded⟩⟩
    · rw [provider, same]
      exact h.replayed id
    · rw [same]
      exact threads

theorem snapshots_step (h : Snapshots A s) (taken : step A s e = some s') : Snapshots A s' := by
  have kept : ∀ {entries : List Entry}, (∀ e ∈ entries, e.Plain) → (∀ c packet, .received c packet ∉ entries) →
      ∀ c d, d ≠ c → snapshot d (entries ++ s.log) = snapshot d s.log :=
    fun plain quiet _ d _ => snapshot_append plain quiet d s.log
  have reads : ∀ {conn : Conn} {c d : Nat} {packet : Packet}, .received d packet ∉ s.uses conn (.read c) := by
    intro conn c d packet member
    obtain ⟨_, _, same⟩ := mem_uses member
    cases same
  cases step_cases taken with
  | accept fresh => exact h.of_append taken rfl rfl (Or.inl rfl)
  | refuse fresh => exact h.of_append taken rfl rfl (Or.inr ⟨_, _, rfl⟩)
  | packet here received =>
    refine h.of_set taken rfl rfl ⟨.received _ _ :: s.uses _ (.read _), rfl, ?_, fun d other => ?_⟩ ?_
    · exact List.forall_mem_cons.2 ⟨trivial, plain_uses⟩
    · simp only [List.cons_append, snapshot, if_neg (Ne.symm other)]
      exact snapshot_append plain_uses (fun _ _ => reads) d s.log
    · intro program same
      cases same
      simp only [snapshot, if_true]
      exact packetHandler_sending A _ _
  | call here =>
    rename_i c handle socket choice call next
    obtain ⟨sends, later⟩ := h.threads c _ _ here rfl
    refine ⟨sound_step h.sound taken, replayed_after h.replayed c choice call, ?_, h.grounded_after choice sends⟩
    obtain ⟨_, _, allowed, _⟩ := h.sound.threads c _ _ here rfl
    have ok := (outcome_ok h.sound.good c choice allowed).2
    intro d conn program found phase
    change Sending A.json (snapshot d (s.after c choice call).log) program
    rw [snapshot_after]
    rcases conns_set found with ⟨rfl, rfl⟩ | ⟨other, there⟩
    · rw [if_pos rfl]
      cases phase
      exact later _ ok
    · rw [if_neg (Ne.symm other)]
      exact h.threads d conn program there phase
  | reply here =>
    refine h.of_set taken rfl rfl ⟨_, rfl, plain_send, kept plain_send ?_ _⟩ nofun
    intro c packet member
    obtain ⟨_, _, same⟩ := mem_send member
    cases same
  | refused here received =>
    exact h.of_set taken rfl rfl ⟨_, rfl, plain_uses, kept plain_uses (fun _ _ => reads) _⟩ nofun
  | emplace here | disconnected here | invalidate here | erase here | finish here =>
    exact h.of_set taken rfl rfl ⟨[], rfl, nofun, fun _ _ => rfl⟩ nofun
  | disconnect here | destroy here =>
    refine h.of_set taken rfl rfl ⟨[.closed _ _], rfl, ?_, fun _ _ => rfl⟩ nofun
    exact List.forall_mem_singleton.2 trivial

/-- **Who still gets a message.** In every run of the server, a message to an id whose logout
has been replied to, and that has not logged in again, is sent by a handler that called
`get_clients` before the logout removed the entry. -/
theorem late_messages_unasked {login pass : Str} {es : List Event}
    (run : Runs.exec (step A) (State.init login pass) es = some s) :
    ∀ late ∈ lateMessages A.json s.log, late.asked = false :=
  late_unasked (Runs.exec_invariant (fun _ _ _ => snapshots_step) (snapshots_init login pass) run : Snapshots A s).grounded

end

/-- Two clients are logged in. The second sends a message, and the first logs out after the
`get_clients` of the broadcast and has its reply before the `send_to`. -/
def crossed : List Event :=
  [.accept 3 true, .emplace 0, .accept 4 true, .emplace 1,
    .recv 0 blank (whole (loginPacket "7")), .call 0 someChoice, .reply 0,
    .recv 1 blank (whole (loginPacket "9")), .call 1 someChoice, .reply 1,
    .recv 1 blank (whole (messagePacket "9")), .call 1 someChoice, .call 1 someChoice,
    .recv 0 blank (whole (logoutPacket "7")), .call 0 someChoice, .reply 0,
    .call 1 someChoice, .call 1 someChoice, .reply 1]

theorem crossed_late :
    ∃ s, Runs.exec (step App.compact) (State.init (str "login") (str "pass")) crossed = some s ∧
      lateMessages App.compact.json s.log = [⟨7, 1, false⟩] :=
  Option.map_eq_some_iff.1
    (show (Runs.exec (step App.compact) (State.init (str "login") (str "pass")) crossed).map
        (fun s => lateMessages App.compact.json s.log) = some [⟨7, 1, false⟩] by decide +kernel)

theorem late_messages_unasked_crossed :
    ∃ s, Runs.exec (step App.compact) (State.init (str "login") (str "pass")) crossed = some s ∧
      lateMessages App.compact.json s.log ≠ [] ∧
      ∀ late ∈ lateMessages App.compact.json s.log, late.asked = false := by
  obtain ⟨s, run, same⟩ := crossed_late
  exact ⟨s, run, same ▸ List.cons_ne_nil _ _, late_messages_unasked run⟩

/-- The message to the first client comes after the reply to its logout. -/
theorem late_message_crossed :
    ¬ ∀ (A : App) (login pass : Str) (es : List Event) (s : State),
      Runs.exec (step A) (State.init login pass) es = some s → lateMessages A.json s.log = [] := by
  intro silent
  obtain ⟨s, run, same⟩ := crossed_late
  cases same.symm.trans (silent App.compact _ _ crossed s run)

end Gologin.Server
