import Gologin.Server.Handling
import Gologin.Tcp.Framing

/-!
# Packets that no handler takes

A run of the server with any of its malformed packets left out is a run, with the same
tables and the same packets written.
-/

namespace Gologin.Server
set_option autoImplicit false
open Calls Messages Auth Tcp Tables

/-- No handler has the command, the body is not JSON, or a member of what the handler takes has
the wrong type. -/
inductive Malformed (A : App) (packet : Packet) : Prop where
  | unhandled (absent : A.handlers.lookup (A.hash packet.cmd) = none)
  | unparsed (bad : A.json.parse packet.body = none)
  | mistyped {M : Type} [Message M] {j : Json} {m : Member} {v : Value}
      (takes : Takes A.json A.hash A.handlers packet.cmd M) (parsed : A.json.parse packet.body = some j)
      (member : m ∈ Message.schema M) (found : j.find m.key = some v) (wrong : m.type.get v = none)

/-- Such a packet changes nothing and leaves no output. -/
theorem Malformed.packetHandler {A : App} {packet : Packet} (bad : Malformed A packet) (cid : Nat) :
    A.packetHandler cid packet = .done ⟨packet.cmd, []⟩ := by
  have dispatched : ∃ ok, dispatch A.hash A.handlers packet.cmd ⟨cid⟩ packet.body = .done ⟨ok, packet.cmd, []⟩ := by
    cases bad with
    | unhandled absent => exact ⟨false, dispatch_of_none absent ⟨cid⟩ packet.body⟩
    | unparsed bad =>
      rcases A.dispatch_request packet ⟨cid⟩ with ⟨request, taken, _⟩ | ⟨_, ok, same⟩
      · unfold App.request at taken
        simp only [packerFrom_unparsed bad, Option.map_none, ite_self] at taken
        cases taken
      · exact ⟨ok, same⟩
    | mistyped takes parsed member found wrong =>
      exact ⟨false, dispatch_undecoded takes (packerFrom_mistyped parsed member found wrong) ⟨cid⟩⟩
  obtain ⟨ok, same⟩ := dispatched
  change Program.bind (dispatch A.hash A.handlers packet.cmd ⟨cid⟩ packet.body) _ = _
  rw [same]
  rfl

/-! ## Leaving packets out of a run -/

/-- The packet that a step hands to `packet_handler`. -/
def Event.packet : Event → Option (Nat × Packet)
  | .recv c stack results =>
    match ServerClient.recv scripted stack.header results with
    | some (.packet header buff, []) => some (c, ⟨header.command stack.beyond, buff⟩)
    | _ => none
  | _ => none

section
variable (bad : Nat → Packet → Bool)

/-- Whether a step is left out, where `pending` are the connections whose packet was left out
and not yet answered; if so, the pending connections after it. -/
def leftOut (pending : Nat → Bool) (e : Event) : Option (Nat → Bool) :=
  match e.packet, e with
  | some (c, packet), _ => if bad c packet then some (Function.update pending c true) else none
  | none, .reply c => if pending c then some (Function.update pending c false) else none
  | none, _ => none

/-- A run without the packets that are `bad`: the step that receives one is left out, and so is
the one that ends its handling. -/
def leaveOut : (Nat → Bool) → List Event → List Event
  | _, [] => []
  | pending, e :: es =>
    match leftOut bad pending e with
    | some pending' => leaveOut pending' es
    | none => e :: leaveOut pending es

end

/-- The replies and the broadcasts. -/
def outputs : List Entry → List Entry
  | [] => []
  | .wrote c via on packet :: log => .wrote c via on packet :: outputs log
  | .replied c on packet :: log => .replied c on packet :: outputs log
  | _ :: log => outputs log

theorem outputs_append (entries log : List Entry) : outputs (entries ++ log) = outputs entries ++ outputs log := by
  induction entries with
  | nil => rfl
  | cons e entries ih => cases e <;> simp only [List.cons_append, outputs, ih]

theorem outputs_reads (s : State) (conn : Conn) (c : Nat) : outputs (s.uses conn (.read c)) = [] := by
  unfold State.uses
  split <;> rfl

/-- How two runs stand, one of which has the packets left out: the connections `pending` are
about to end the handling of one. -/
structure Alike (bad : Nat → Packet → Bool) (pending : Nat → Bool) (s : State) (conns : List Conn)
    (log : List Entry) : Prop where
  length : conns.length = s.conns.length
  same : ∀ c, pending c = false → conns[c]? = s.conns[c]?
  ahead : ∀ c, pending c = true → ∃ handle socket cmd,
    s.conns[c]? = some ⟨handle, socket, .handling (.done ⟨cmd, []⟩)⟩ ∧ conns[c]? = some ⟨handle, socket, .receiving⟩
  outputs : outputs log = outputs s.log
  frames : ∀ c, frames c log = (frames c s.log).filter fun packet => !bad c packet

theorem frames_concat (c : Nat) (entries log : List Entry) :
    Server.frames c (entries ++ log) = Server.frames c entries ++ Server.frames c log := by
  induction entries with
  | nil => rfl
  | cons e entries ih =>
    cases e with
    | received c' packet =>
      simp only [List.cons_append, Server.frames, ih]
      split <;> rfl
    | _ => exact ih

theorem frames_outcome (d : Nat) (s : State) (c : Nat) (choice : Choice) (call : Call) :
    Server.frames d (s.outcome c choice call).2.2 = [] := by
  rcases outcome_cases s c choice call with empty | ⟨_, _, _, _, _, _, _, _, _, _, one⟩
  · rw [empty]
    rfl
  · rw [one]
    rfl

section
variable {A : App} {bad : Nat → Packet → Bool} {pending : Nat → Bool} {s s' : State} {conns : List Conn}
  {log : List Entry}

theorem alike_init (login pass : Str) : Alike bad (fun _ => false) (.init login pass) [] [] :=
  ⟨rfl, fun _ _ => rfl, nofun, rfl, fun _ => rfl⟩

/-- A connection that is not about to end the handling of a packet left out. -/
theorem Alike.here (h : Alike bad pending s conns log) {c : Nat} {conn : Conn} (here : s.conns[c]? = some conn)
    (other : ∀ cmd, conn.phase ≠ .handling (.done ⟨cmd, []⟩)) : pending c = false ∧ conns[c]? = some conn := by
  cases ahead : pending c with
  | false => exact ⟨rfl, (h.same c ahead).trans here⟩
  | true =>
    obtain ⟨handle, socket, cmd, there, _⟩ := h.ahead c ahead
    cases here.symm.trans there
    exact absurd rfl (other cmd)

/-- The entries that two steps add alike. -/
structure Agrees (bad : Nat → Packet → Bool) (entries entries' : List Entry) : Prop where
  outputs : Server.outputs entries' = Server.outputs entries
  frames : ∀ c, Server.frames c entries' = (Server.frames c entries).filter fun packet => !bad c packet

theorem Agrees.quiet {entries : List Entry} (none : ∀ c, Server.frames c entries = []) : Agrees bad entries entries :=
  ⟨rfl, fun c => by rw [none c]; rfl⟩

theorem Alike.logs (h : Alike bad pending s conns log) {entries entries' : List Entry} (agrees : Agrees bad entries entries') :
    Server.outputs (entries' ++ log) = Server.outputs (entries ++ s.log) ∧ ∀ c, Server.frames c (entries' ++ log) =
      (Server.frames c (entries ++ s.log)).filter fun packet => !bad c packet := by
  constructor
  · rw [outputs_append, outputs_append, agrees.outputs, h.outputs]
  · intro c
    rw [frames_concat, frames_concat, List.filter_append, agrees.frames, h.frames]

/-- The same step of one connection in both runs. -/
theorem Alike.set (h : Alike bad pending s conns log) (entries : List Entry) {entries' : List Entry}
    (agrees : Agrees bad entries entries') {c : Nat} (idle : pending c = false) (new : Conn)
    (set : s'.conns = s.conns.set c new) (added : s'.log = entries ++ s.log) : Alike bad pending s' (conns.set c new) (entries' ++ log) := by
  obtain ⟨outputs, frames⟩ := h.logs agrees
  refine ⟨?_, ?_, ?_, added ▸ outputs, added ▸ frames⟩
  · rw [set, List.length_set, List.length_set, h.length]
  · intro d apart
    rw [set, List.getElem?_set, List.getElem?_set, h.length, h.same d apart]
  · intro d ahead
    have other : c ≠ d := by
      rintro rfl
      exact absurd ahead (by simp [idle])
    obtain ⟨handle, socket, cmd, here, there⟩ := h.ahead d ahead
    exact ⟨handle, socket, cmd, by rw [set, List.getElem?_set_ne other, here],
      by rw [List.getElem?_set_ne other, there]⟩

/-- The same connection accepted in both runs. -/
theorem Alike.append (h : Alike bad pending s conns log) (entries : List Entry) {entries' : List Entry}
    (agrees : Agrees bad entries entries') (new : Conn) (append : s'.conns = s.conns ++ [new])
    (added : s'.log = entries ++ s.log) : Alike bad pending s' (conns ++ [new]) (entries' ++ log) := by
  obtain ⟨outputs, frames⟩ := h.logs agrees
  refine ⟨?_, ?_, ?_, added ▸ outputs, added ▸ frames⟩
  · rw [append, List.length_append, List.length_append, h.length]
  · intro d apart
    rw [append, List.getElem?_append, List.getElem?_append, h.length, h.same d apart]
  · intro d ahead
    obtain ⟨handle, socket, cmd, here, there⟩ := h.ahead d ahead
    have old := (List.getElem?_eq_some_iff.1 here).1
    have old' := (List.getElem?_eq_some_iff.1 there).1
    exact ⟨handle, socket, cmd, by rw [append, List.getElem?_append_left old, here],
      by rw [List.getElem?_append_left old', there]⟩

/-- A step of one run that the other leaves out. -/
theorem Alike.skip (h : Alike bad pending s conns log) {c : Nat} {new : Conn} (known : ∃ old, s.conns[c]? = some old)
    (set : s'.conns = s.conns.set c new) {entries : List Entry} (agrees : Agrees bad entries [])
    (added : s'.log = entries ++ s.log) {next : Bool}
    (after : if next then ∃ handle socket cmd, new = ⟨handle, socket, .handling (.done ⟨cmd, []⟩)⟩ ∧
        conns[c]? = some ⟨handle, socket, .receiving⟩ else conns[c]? = some new) :
    Alike bad (Function.update pending c next) s' conns log := by
  obtain ⟨old, known⟩ := known
  obtain ⟨outputs, frames⟩ := h.logs agrees
  refine ⟨?_, ?_, ?_, added ▸ outputs, added ▸ frames⟩
  · rw [set, List.length_set, h.length]
  · intro d apart
    by_cases same : d = c
    · subst same
      rw [Function.update_self] at apart
      subst apart
      rw [set, conns_set_self known]
      exact after
    · rw [Function.update_of_ne same] at apart
      rw [set, List.getElem?_set_ne (Ne.symm same), h.same d apart]
  · intro d ahead
    by_cases same : d = c
    · subst same
      rw [Function.update_self] at ahead
      subst ahead
      obtain ⟨handle, socket, cmd, rfl, there⟩ := after
      exact ⟨handle, socket, cmd, by rw [set, conns_set_self known], there⟩
    · rw [Function.update_of_ne same] at ahead
      obtain ⟨handle, socket, cmd, here, there⟩ := h.ahead d ahead
      exact ⟨handle, socket, cmd, by rw [set, List.getElem?_set_ne (Ne.symm same), here], there⟩

/-- What a call answers and writes does not depend on what is left out. -/
theorem Alike.outcome (h : Alike bad pending s conns log) (c : Nat) (choice : Choice) (call : Call) :
    State.outcome { s with conns := conns, log := log } c choice call = s.outcome c choice call := by
  cases call with
  | sendTo cookies cmd buff =>
    have writes : State.sendTo { s with conns := conns, log := log } c cookies ⟨cmd, buff⟩ =
        s.sendTo c cookies ⟨cmd, buff⟩ := by
      unfold State.sendTo
      cases s.clientList.lookup cookies.serverClientId with
      | none => rfl
      | some via =>
        cases ahead : pending via with
        | false =>
          simp only [h.same via ahead]
          cases s.conns[via]? <;> rfl
        | true =>
          obtain ⟨handle, socket, _, here, there⟩ := h.ahead via ahead
          simp only [here, there]
          rfl
    simp only [State.outcome, writes]
  | statusClient | getClients | addClient | remClient => rfl

theorem createPacket_empty (cmd : Str) : createPacket cmd [] = [] := if_pos rfl

/-- The step that is left out changes nothing that the other run has. -/
theorem alike_skip (h : Alike bad pending s conns log) (only : ∀ c packet, bad c packet = true → Malformed A packet)
    {e : Event} (taken : step A s e = some s') {pending' : Nat → Bool} (out : leftOut bad pending e = some pending') :
    { s' with conns := conns, log := log } = { s with conns := conns, log := log } ∧ Alike bad pending' s' conns log := by
  cases step_cases taken with
  | packet here received =>
    rename_i c handle socket stack results header buff
    simp only [leftOut, Event.packet, received] at out
    split at out
    · rename_i malformed
      obtain rfl := Option.some.inj out
      have done := (only c _ malformed).packetHandler handle
      refine ⟨rfl, @Alike.skip _ _ _ _ _ _ h c _ ⟨_, here⟩ rfl (.received c _ :: s.uses _ (.read c)) ⟨?_, ?_⟩ rfl true ?_⟩
      · exact (outputs_reads s _ c).symm
      · intro d
        have none : frames d (s.uses ⟨handle, socket, .receiving⟩ (.read c)) = [] :=
          (List.append_nil _ ▸ frames_uses d s _ c [] :)
        simp only [frames, none]
        split
        · rename_i same
          subst same
          simp [malformed]
        · rfl
      · simp only [if_true]
        rw [done]
        exact ⟨handle, socket, _, rfl, (h.here here (by rintro _ ⟨⟩)).2⟩
    · cases out
  | reply here =>
    rename_i c handle socket packet
    simp only [leftOut, Event.packet] at out
    split at out
    · rename_i ahead
      obtain rfl := Option.some.inj out
      obtain ⟨_, _, cmd, there, back⟩ := h.ahead c ahead
      cases here.symm.trans there
      have quiet : (s.send ⟨handle, socket, .handling (.done ⟨cmd, []⟩)⟩ ⟨cmd, []⟩ fun on =>
          .replied c on ⟨cmd, []⟩).2 = [] := by
        unfold State.send
        rw [if_pos (createPacket_empty cmd)]
      refine ⟨rfl, @Alike.skip _ _ _ _ _ _ h c _ ⟨_, here⟩ rfl [] ⟨rfl, fun _ => rfl⟩ ?_ false ?_⟩
      · rw [← quiet]
      · exact back
    · cases out
  | refused here received =>
    simp only [leftOut, Event.packet, received] at out
    cases out
  | _ => cases out

/-- **The step that is kept.** It is possible in the other run, and does the same. -/
theorem alike_keep (h : Alike bad pending s conns log) {e : Event} (taken : step A s e = some s')
    (kept : leftOut bad pending e = none) : ∃ conns' log',
      step A { s with conns := conns, log := log } e = some { s' with conns := conns', log := log' } ∧
        Alike bad pending s' conns' log' := by
  cases step_cases taken with
  | accept fresh =>
    have enabled := (Step.accept fresh : Step A { s with conns := conns, log := log } _ _).enabled
    simp only [h.length] at enabled
    exact ⟨_, _, enabled, h.append [] (.quiet fun _ => rfl) _ rfl rfl⟩
  | refuse fresh =>
    have enabled := (Step.refuse fresh : Step A { s with conns := conns, log := log } _ _).enabled
    simp only [h.length] at enabled
    exact ⟨_, _, enabled, h.append [.closed _ _] (.quiet fun _ => rfl) _ rfl rfl⟩
  | emplace here =>
    obtain ⟨idle, there⟩ := h.here here (by rintro _ ⟨⟩)
    exact ⟨_, _, Step.enabled (.emplace there), h.set [] (.quiet fun _ => rfl) idle _ rfl rfl⟩
  | packet here received =>
    rename_i c handle socket stack results header buff
    obtain ⟨idle, there⟩ := h.here here (by rintro _ ⟨⟩)
    simp only [leftOut, Event.packet, received] at kept
    split at kept
    · cases kept
    · rename_i good
      refine ⟨_, _, Step.enabled (.packet there received), h.set (.received c _ :: s.uses _ _) ⟨rfl, ?_⟩ idle _ rfl rfl⟩
      intro d
      have none : frames d (s.uses ⟨handle, socket, .receiving⟩ (.read c)) = [] :=
        (List.append_nil _ ▸ frames_uses d s _ c [] :)
      change frames d (.received c _ :: s.uses ⟨handle, socket, .receiving⟩ (.read c)) = _
      simp only [frames, none]
      split
      · rename_i same
        subst same
        simp [good]
      · rfl
  | refused here received =>
    obtain ⟨idle, there⟩ := h.here here (by rintro _ ⟨⟩)
    refine ⟨_, _, Step.enabled (.refused there received), h.set (s.uses _ _) (.quiet fun d => ?_) idle _ rfl rfl⟩
    exact (List.append_nil _ ▸ frames_uses d s _ _ [] :)
  | call here =>
    rename_i c handle socket choice call next
    obtain ⟨idle, there⟩ := h.here here (by rintro _ ⟨⟩)
    have enabled := (Step.call there : Step A { s with conns := conns, log := log } (.call c choice) _).enabled
    simp only [State.after, h.outcome c choice call] at enabled
    refine ⟨_, _, enabled,
      h.set (.called c call (s.outcome c choice call).1 :: (s.outcome c choice call).2.2) (.quiet fun d => ?_) idle _
        rfl rfl⟩
    exact frames_outcome d s c choice call
  | reply here =>
    rename_i c handle socket packet
    simp only [leftOut, Event.packet] at kept
    split at kept
    · cases kept
    · rename_i idle
      have there := (h.same c (by simpa using idle)).trans here
      refine ⟨_, _, (Step.reply there).enabled,
        h.set (s.send ⟨handle, socket, .handling (.done packet)⟩ packet fun on => .replied c on packet).2
          (.quiet fun d => ?_) (by simpa using idle) _ rfl rfl⟩
      exact (List.append_nil _ ▸ frames_send d s _ c packet [] :)
  | disconnect here =>
    obtain ⟨idle, there⟩ := h.here here (by rintro _ ⟨⟩)
    exact ⟨_, _, Step.enabled (.disconnect there), h.set [.closed _ _] (.quiet fun _ => rfl) idle _ rfl rfl⟩
  | disconnected here =>
    obtain ⟨idle, there⟩ := h.here here (by rintro _ ⟨⟩)
    exact ⟨_, _, Step.enabled (.disconnected there), h.set [] (.quiet fun _ => rfl) idle _ rfl rfl⟩
  | invalidate here =>
    obtain ⟨idle, there⟩ := h.here here (by rintro _ ⟨⟩)
    exact ⟨_, _, Step.enabled (.invalidate there), h.set [] (.quiet fun _ => rfl) idle _ rfl rfl⟩
  | erase here =>
    obtain ⟨idle, there⟩ := h.here here (by rintro _ ⟨⟩)
    exact ⟨_, _, Step.enabled (.erase there), h.set [] (.quiet fun _ => rfl) idle _ rfl rfl⟩
  | destroy here =>
    obtain ⟨idle, there⟩ := h.here here (by rintro _ ⟨⟩)
    exact ⟨_, _, Step.enabled (.destroy there), h.set [.closed _ _] (.quiet fun _ => rfl) idle _ rfl rfl⟩
  | finish here =>
    obtain ⟨idle, there⟩ := h.here here (by rintro _ ⟨⟩)
    exact ⟨_, _, Step.enabled (.finish there), h.set [] (.quiet fun _ => rfl) idle _ rfl rfl⟩

/-- Two runs stay alike. -/
theorem alike_run (only : ∀ c packet, bad c packet = true → Malformed A packet) {es : List Event}
    (h : Alike bad pending s conns log) (run : Runs.exec (step A) s es = some s') : ∃ pending' conns' log',
      Runs.exec (step A) { s with conns := conns, log := log } (leaveOut bad pending es) =
        some { s' with conns := conns', log := log' } ∧ Alike bad pending' s' conns' log' := by
  induction es generalizing pending s conns log with
  | nil =>
    obtain rfl := Option.some.inj run
    exact ⟨pending, conns, log, rfl, h⟩
  | cons e es ih =>
    obtain ⟨m, taken, rest⟩ := Runs.exec_cons_some run
    unfold leaveOut
    cases out : leftOut bad pending e with
    | some pending' =>
      obtain ⟨same, next⟩ := alike_skip h only taken out
      rw [← same]
      exact ih next rest
    | none =>
      obtain ⟨conns', log', same, next⟩ := alike_keep h taken out
      obtain ⟨pending'', conns'', log'', run', last⟩ := ih next rest
      refine ⟨pending'', conns'', log'', ?_, last⟩
      simp only [Runs.exec_cons, same, Option.bind_some]
      exact run'

end

/-- **Malformed packets are invisible.** Take any run of the server, leave out of it any of the
packets that are malformed, and what is left is a run: it receives the other packets, writes the
same replies and broadcasts, and ends with the same tables. And a receive loop takes each packet
whole, whether or not a handler takes it, so that the next one is read from where it begins. -/
theorem malformed_invisible (A : App) :
    (∀ (bad : Nat → Packet → Bool), (∀ c packet, bad c packet = true → Malformed A packet) →
      ∀ (login pass : Str) (es : List Event) (s : State), Runs.exec (step A) (.init login pass) es = some s →
        ∃ s', Runs.exec (step A) (.init login pass) (leaveOut bad (fun _ => false) es) = some s' ∧
          s'.provider = s.provider ∧ s'.clientList = s.clientList ∧ outputs s'.log = outputs s.log ∧
          ∀ c, frames c s'.log = (frames c s.log).filter fun packet => !bad c packet) ∧
    ∀ (packets : List Packet), (∀ packet ∈ packets, packet.Valid) →
      ∀ cuts, Whole cuts 0 packets → ServerClient.Delivers cuts packets := by
  constructor
  · intro bad only login pass es s run
    obtain ⟨_, conns, log, same, alike⟩ := alike_run only (alike_init login pass) run
    exact ⟨{ s with conns := conns, log := log }, same, rfl, rfl, alike.outputs, alike.frames⟩
  · intro packets valid cuts whole stack n
    exact loop_whole ServerClient.fills stack valid n 0 whole

/-- A packet of a command that is not registered. -/
def strange : Packet := ⟨str "nonsense", str "x"⟩

def isStrange (_ : Nat) (packet : Packet) : Bool := packet.cmd = strange.cmd

theorem strange_malformed : ∀ c packet, isStrange c packet = true → Malformed App.compact packet := by
  intro _ packet same
  have absent : (App.compact.handlers.lookup (App.compact.hash strange.cmd)).isNone = true := by decide +kernel
  apply Malformed.unhandled
  rw [of_decide_eq_true same]
  exact Option.isNone_iff_eq_none.1 absent

/-- A login behind such a packet. -/
def strangeRun : List Event :=
  [.accept 3 true, .emplace 0, .recv 0 blank (whole strange), .reply 0, .recv 0 blank (whole (loginPacket "7")),
    .call 0 someChoice, .reply 0]

theorem malformed_invisible_strange :
    (∃ s s', Runs.exec (step App.compact) (.init (str "login") (str "pass")) strangeRun = some s ∧
      Runs.exec (step App.compact) (.init (str "login") (str "pass")) (leaveOut isStrange (fun _ => false) strangeRun) =
        some s' ∧
      (frames 0 s.log).map Packet.cmd = [Commands.auth, strange.cmd] ∧
      frames 0 s'.log = (frames 0 s.log).filter (fun packet => !isStrange 0 packet) ∧
      outputs s'.log = outputs s.log ∧ s'.provider = s.provider ∧ s'.clientList = s.clientList) ∧
    ServerClient.Delivers wide [strange, hello] := by
  obtain ⟨invisible, offsets⟩ := malformed_invisible App.compact
  constructor
  · obtain ⟨s, run, received⟩ := Option.map_eq_some_iff.1
      (show (Runs.exec (step App.compact) (.init (str "login") (str "pass")) strangeRun).map (fun s =>
        (frames 0 s.log).map Packet.cmd) = some [Commands.auth, strange.cmd] by decide +kernel)
    obtain ⟨s', run', provider, clientList, outputs, frames⟩ :=
      invisible isStrange strange_malformed _ _ strangeRun s run
    exact ⟨s, s', run, run', received, frames 0, outputs, provider, clientList⟩
  · have valid : ∀ packet ∈ [strange, hello], packet.Valid := by
      intro packet member
      rcases List.mem_cons.1 member with rfl | last
      · exact ⟨by decide, by decide, by decide, by decide⟩
      · exact hello_valid packet last
    exact offsets [strange, hello] valid wide ⟨by decide, by decide, by decide, by decide, trivial⟩

end Gologin.Server
