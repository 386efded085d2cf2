import Gologin.Server.Sequential
import Gologin.Server.Malformed

/-!
# Dispatches that fail

An exception of a handler is caught in `dispatcher::dispatch`, after the wrapper has changed
`_cmd` and the handler has made its calls. Only one exception comes that late: the response to
a message whose id, as a single character, is not UTF-8.
-/

namespace Gologin.Server
set_option autoImplicit false
open Calls Messages Auth Tcp Tables

/-- A dispatch by the handler of `c` that returns `false` leaves the command, the output, the
clients of the provider and the packets written as they were. -/
def NoTrace (A : App) (s : State) (c : Nat) (choice : Choice) (cookies : ClientCookies) (packet : Packet) : Prop :=
  let left := s.run c choice (dispatch A.hash A.handlers packet.cmd cookies packet.body)
  left.1.ok = false →
    left.1.cmd = packet.cmd ∧ left.1.out = [] ∧ left.2.provider.clients = s.provider.clients ∧
      outputs left.2.log = outputs s.log

section
variable {A : App} {s : State}

theorem NoTrace.outputs {c : Nat} {choice : Choice} {cookies : ClientCookies} {packet : Packet}
    (h : NoTrace A s c choice cookies packet)
    (failed : (s.run c choice (dispatch A.hash A.handlers packet.cmd cookies packet.body)).1.ok = false) :
    outputs (s.run c choice (dispatch A.hash A.handlers packet.cmd cookies packet.body)).2.log = outputs s.log :=
  (h failed).2.2.2

/-- A handler that returns leaves an output, and one that throws leaves none. -/
theorem conclude_ok_iff {J : Nlohmann} {Resp : Type} [Reply Resp] {cmd : Str} {resp : Option Resp} :
    (conclude J cmd resp).ok = true ↔ (conclude J cmd resp).out ≠ [] := by
  cases resp with
  | none => exact iff_of_false Bool.false_ne_true (fun some_out => some_out rfl)
  | some resp =>
    simp only [conclude]
    cases packed : packerTo J resp with
    | none => exact iff_of_false Bool.false_ne_true (fun some_out => some_out rfl)
    | some out => exact iff_of_true rfl (packerTo_ne_nil J packed)

theorem handling_ok_iff (c : Nat) (choice : Choice) (cmd : Str) (cookies : ClientCookies) (request : Request) :
    (s.run c choice (A.handling cmd cookies request)).1.ok = true ↔
      (s.run c choice (A.handling cmd cookies request)).1.out ≠ [] := by
  cases request <;>
  · unfold App.handling
    rw [State.run_bind, State.run_done]
    exact conclude_ok_iff

/-- A program whose result is right whatever the answers are, on a provider with good entries. -/
theorem run_always {α : Type} {Q : α → Prop} {program : Handling α} (always : Program.Always CallOk AnswerOk Q program)
    (good : s.provider.Good) (c : Nat) (choice : Choice) : Q (s.run c choice program).1 := by
  induction program generalizing s with
  | done a => exact always
  | call call next ih =>
    obtain ⟨kept, answer⟩ := outcome_ok good c choice always.1
    exact ih _ (always.2 _ answer) (show (s.after c choice call).provider.Good from kept)

/-- The command of a message is not that of its reply. -/
theorem request_message_cmd {packet : Packet} {r : Client.MsgRequest}
    (taken : A.request packet = some (.message r)) : packet.cmd ≠ Commands.msgReply := by
  have hashes := (distinct_of_handleAll A.registered).2
  simp only [registrations, List.map_cons, List.map_nil, List.nodup_cons, List.mem_cons, List.not_mem_nil,
    or_false, not_or] at hashes
  have apart : A.hash Commands.msg ≠ A.hash Commands.msgReply := hashes.2.2.2.2.1
  intro same
  exact apart (same ▸ (A.request_some taken).1.symm)

end

/-- **Failed dispatches.** In every state that the server reaches, for every packet: a dispatch
that fails leaves no trace, if and only if the packet is not a message whose id ends in a byte
that is not ASCII. -/
theorem no_trace_iff (A : App) {login pass : Str} {es : List Event} {s : State}
    (run : Runs.exec (step A) (.init login pass) es = some s) (c : Nat) (choice : Choice) (cookies : ClientCookies)
    (packet : Packet) :
    NoTrace A s c choice cookies packet ↔
      ∀ r, A.request packet = some (.message r) → r.id.toUInt8 < 0x80 := by
  have sound : Sound A s := Runs.exec_invariant (fun _ _ _ h taken => sound_step h taken) (sound_init login pass) run
  rcases A.dispatch_request packet cookies with ⟨request, taken, same⟩ | ⟨none, ok, same⟩
  · have leaves := run_always (handling_always A packet.cmd cookies (request_text A taken)) sound.good c choice
    have ok := @handling_ok_iff A s c choice packet.cmd cookies request
    by_cases writable : request.Writable
    · refine iff_of_true ?_ ?_
      · have returns := ok.2 (leaves.2.1 writable).1
        unfold NoTrace
        rw [same]
        intro left failed
        exact absurd (returns.symm.trans failed) (by decide)
      · intro r message
        cases taken.symm.trans message
        exact writable
    · have fails : (s.run c choice (A.handling packet.cmd cookies request)).1.ok = false :=
        Bool.eq_false_iff.2 fun good => ok.1 good (leaves.2.2 writable)
      cases request with
      | message r =>
        refine iff_of_false ?_ fun ascii => writable (ascii r taken)
        unfold NoTrace
        rw [same]
        intro trace
        exact request_message_cmd taken ((trace fails).1.symm.trans leaves.1)
      | hello | ping | login | logout => exact absurd trivial writable
  · refine iff_of_true ?_ ?_
    · unfold NoTrace
      rw [same]
      intro left _
      exact ⟨rfl, rfl, rfl, rfl⟩
    · intro r message
      cases none.symm.trans message

theorem no_trace_seven :
    ∃ s, Runs.exec (step App.compact) (.init (str "login") (str "pass")) [.accept 3 true, .emplace 0] = some s ∧
      NoTrace App.compact s 0 someChoice ⟨3⟩ ⟨Commands.msg, str "x"⟩ := by
  obtain ⟨s, run, _⟩ := Option.map_eq_some_iff.1
    (show (Runs.exec (step App.compact) (.init (str "login") (str "pass")) [.accept 3 true, .emplace 0]).map
      (fun s => s.conns.length) = some 1 by decide +kernel)
  have none : App.compact.request ⟨Commands.msg, str "x"⟩ = none := by decide +kernel
  refine ⟨s, run, (no_trace_iff App.compact run 0 someChoice ⟨3⟩ _).2 fun r message => ?_⟩
  cases none.symm.trans message

/-- The client with the id 128 logs in. -/
def login128 : List Event :=
  [.accept 3 true, .emplace 0, .recv 0 blank (whole (loginPacket "128")), .call 0 someChoice, .reply 0]

/-- And sends a message. -/
def message128 : Packet := messagePacket "128"

/-- Its message is broadcast, and then the dispatch fails: `_cmd` is that of the reply. -/
theorem message128_fails : ¬ ∀ (A : App) (login pass : Str) (es : List Event) (s : State),
    Runs.exec (step A) (.init login pass) es = some s →
      ∀ c choice cookies packet, NoTrace A s c choice cookies packet := by
  intro none
  obtain ⟨s, run, traced⟩ := Option.map_eq_some_iff.1
    (show (Runs.exec (step App.compact) (.init (str "login") (str "pass")) login128).map (fun s =>
      ((s.run 0 someChoice (dispatch App.compact.hash App.compact.handlers message128.cmd ⟨3⟩ message128.body)).1.ok,
        (outputs s.log).length,
        (outputs (s.run 0 someChoice (dispatch App.compact.hash App.compact.handlers message128.cmd ⟨3⟩
          message128.body)).2.log).length)) = some (false, 1, 2) by decide +kernel)
  obtain ⟨failed, counts⟩ := Prod.mk.inj traced
  obtain ⟨before, after⟩ := Prod.mk.inj counts
  rw [(none App.compact _ _ _ s run 0 someChoice ⟨3⟩ message128).outputs failed, before] at after
  cases after

end Gologin.Server
