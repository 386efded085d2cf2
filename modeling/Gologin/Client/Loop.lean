import Gologin.Tcp.Framing
import Gologin.Client.Machine

/-!
# The receive loop of the client

The thread of `client::connect` receives while `m_status` is connected. `client::recv` does not
tell the end of the stream from a packet that it refuses, and nothing in the loop changes
`m_status`: when the server has closed the connection, the thread goes round for ever.
-/

namespace Gologin.Gui
set_option autoImplicit false
open Messages Tcp Segments

/-- `::recv` on a connection that the peer closes behind its stream. -/
def closing (cuts : Cuts) (len : Nat) (w : Wire UInt8) : Option (RecvResult × Wire UInt8) :=
  match read cuts len w with
  | some (got, w) => some (.data got, w)
  | none => some (.closed, w)

/-- What happens to a client whose user does not disconnect: an iteration of the thread of
`client::connect`, or a callback of the window. -/
inductive LoopEvent where
  | iteration (stack : Stack)
  | click (e : Event)

/-- Not the button to disconnect; and it is the thread that receives. -/
def Event.Stays : Event → Prop
  | .disconnect => False
  | .receive _ => False
  | _ => True

instance : (e : Event) → Decidable e.Stays
  | .disconnect | .receive _ => isFalse id
  | .connect _ _ _ _ _ | .login _ _ | .logout _ | .send _ _ => isTrue trivial

section
variable {J : Nlohmann} (B : App J) (cuts : Cuts)

/-- A step of the client and what is left of the stream. -/
def loopStep (s : Client × Wire UInt8) : LoopEvent → Option (Client × Wire UInt8)
  | .iteration stack =>
    if s.1.status = .connected then
      (Tcp.Client.recv (closing cuts) stack.header s.2).map fun (ret, w) =>
        match ret with
        | .packet header buff => (s.1.receive B ⟨header.command stack.beyond, buff⟩, w)
        | .refused _ => (s.1, w)
    else none
  | .click e => if e.Stays then (step B s.1 e).map fun c => (c, s.2) else none

/-- In some run, the thread leaves its loop: the status is no longer connected. -/
def Ends (c : Client) (stream : List UInt8) : Prop :=
  ∃ es s, Runs.exec (loopStep B cuts) (c, ⟨stream, 0⟩) es = some s ∧ s.1.status ≠ .connected

end

section
variable {J : Nlohmann} {B : App J} {cuts : Cuts}

/-- On such a connection every `recv` returns. -/
theorem recv_closing (header : PacketHeader) (w : Wire UInt8) :
    ∃ ret w', Tcp.Client.recv (closing cuts) header w = some (ret, w') := by
  have returns : ∀ len w, ∃ res w', closing cuts len w = some (res, w') := by
    intro len w
    unfold closing
    cases read cuts len w with
    | some got => exact ⟨_, _, rfl⟩
    | none => exact ⟨_, _, rfl⟩
  obtain ⟨first, w₁, one⟩ := returns sizeofHeader w
  unfold Tcp.Client.recv recvWith
  rw [one, Option.bind_some]
  dsimp only
  cases Tcp.Client.headerRead header first with
  | refused n => exact ⟨_, _, rfl⟩
  | body header =>
    obtain ⟨second, w₂, two⟩ := returns header.size w₁
    dsimp only
    rw [two, Option.map_some]
    exact ⟨_, _, rfl⟩

/-- No click but the one to disconnect takes a client off its connection. -/
theorem stays_connected {c c' : Client} {e : Event} (up : c.status = .connected) (stays : e.Stays)
    (taken : step B c e = some c') : c'.status = .connected := by
  obtain ⟨sent, acted⟩ := act_of_step taken
  cases act_cases acted with
  | report text => exact up
  | unconnected down still text => exact absurd up down
  | unheard clickable connected text => exact connected
  | hello clickable connected packed => exact connected
  | disconnect clickable down => exact stays.elim
  | login clickable packed | logout clickable packed | send clickable packed => exact up
  | receive connected => exact stays.elim

theorem loop_connected {s s' : Client × Wire UInt8} {e : LoopEvent} (up : s.1.status = .connected)
    (taken : loopStep B cuts s e = some s') : s'.1.status = .connected := by
  cases e with
  | iteration stack =>
    simp only [loopStep, if_pos up] at taken
    obtain ⟨⟨ret, w⟩, _, rfl⟩ := Option.map_eq_some_iff.1 taken
    cases ret with
    | packet header buff => exact (receive_rest B _ s.1).1.trans up
    | refused n => exact up
  | click e =>
    simp only [loopStep] at taken
    split at taken
    · rename_i stays
      obtain ⟨c, acted, rfl⟩ := Option.map_eq_some_iff.1 taken
      exact stays_connected up stays acted
    · cases taken

/-- The thread is at the top of its loop, and goes round once more. -/
theorem loop_goes_on {s : Client × Wire UInt8} (up : s.1.status = .connected) (stack : Stack) :
    ∃ s', loopStep B cuts s (.iteration stack) = some s' := by
  obtain ⟨ret, w, received⟩ := @recv_closing cuts stack.header s.2
  simp only [loopStep, if_pos up, received, Option.map_some]
  exact ⟨_, rfl⟩

end

/-- **The loop never ends.** For every stream that the server closes, every segmentation and
everything the user does but disconnect: the thread does not leave its loop, and whatever it has
received and whatever lies on its stack, there is another iteration. -/
theorem loop_never_ends {J : Nlohmann} (B : App J) (cuts : Cuts) {c : Client} (up : c.status = .connected)
    (stream : List UInt8) :
    ¬ Ends B cuts c stream ∧
      ∀ es s, Runs.exec (loopStep B cuts) (c, ⟨stream, 0⟩) es = some s →
        ∀ stack, ∃ s', loopStep B cuts s (.iteration stack) = some s' := by
  have connected : ∀ es s, Runs.exec (loopStep B cuts) (c, ⟨stream, 0⟩) es = some s → s.1.status = .connected :=
    fun es s run => Runs.exec_invariant (fun _ _ _ up taken => loop_connected up taken) up run
  constructor
  · rintro ⟨es, s, run, down⟩
    exact down (connected es s run)
  · exact fun es s run stack => loop_goes_on (connected es s run) stack

/-- A client that has just connected. -/
def justConnected : Client := (Client.init 1).connect .up 0

theorem loop_never_ends_connected :
    justConnected.status = .connected ∧ ¬ Ends App.compact wide justConnected (sent [hello]) :=
  ⟨rfl, (loop_never_ends App.compact wide rfl (sent [hello])).1⟩

/-- The server closes at once. -/
theorem loop_goes_round : ¬ ∀ (c : Client) (cuts : Cuts) (stream : List UInt8), c.status = .connected →
    Ends App.compact cuts c stream := by
  intro ends
  obtain ⟨es, s, run, down⟩ := ends justConnected ⟨fun _ => 32, fun _ => by decide⟩ [] rfl
  exact down (Runs.exec_invariant (fun _ _ _ up taken => loop_connected up taken) rfl run)

end Gologin.Gui
