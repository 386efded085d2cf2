import Gologin.Messages.Across
import Gologin.Server.Machine
import Gologin.Client.Machine

/-!
# What one program writes the other reads

Every packet that the server or a client writes carries its own command, is handled under it
on the other side, and is read there as it was written.
-/

namespace Gologin.Session
set_option autoImplicit false
open Calls Messages Tcp Tables

section
variable {κ : Type} {ans : κ → Type} (J : Nlohmann) (hash : Str → Nat) (handlers : Handlers κ ans)

/-- A packet that was written as `m` is handled, and read as `m'`. -/
structure Understood {Sent Taken : Type} [Message Sent] [Message Taken] (packet : Packet) (m : Sent)
    (m' : Taken) : Prop where
  room : packet.cmd.length < 16
  written : packerTo J m = some packet.body
  command : ∃ j, J.parse packet.body = some j ∧ j.find (str "command") = some (.string packet.cmd)
  takes : Takes J hash handlers packet.cmd Taken
  decoded : packerFrom J Taken packet.body = some m'
  same : ∀ member ∈ Message.schema Taken, getMember m' member.key = getMember m member.key

/-- What these handlers understand. -/
def Closed (packet : Packet) : Prop :=
  ∃ (Sent Taken : Type) (_ : Message Sent) (_ : Message Taken) (m : Sent) (m' : Taken),
    Understood J hash handlers packet m m'

variable {J hash handlers}

theorem closed_of {Sent Taken : Type} [Message Sent] [Message Taken] {m : Sent} {cmd : Str} {body : Buffer}
    (takes : Takes J hash handlers cmd Taken) (part : Message.schema Taken ⊆ Message.schema Sent)
    (room : cmd.length < 16) (packed : packerTo J m = some body)
    (command : getMember m (str "command") = some (.string cmd)) : Closed J hash handlers ⟨cmd, body⟩ := by
  obtain ⟨m', decoded, same⟩ := @packerFrom_part J Sent Taken _ _ part m body packed
  obtain ⟨j, parsed, members⟩ := parse_packerTo J packed
  exact ⟨Sent, Taken, _, _, m, m', room, packed, ⟨j, parsed, (members _).trans command⟩, takes, decoded, same⟩

end

/-! ## The packets of a client -/

section
variable (A : Server.App)

/-- The server understands every packet that a client sends. -/
theorem closed_act {B : Gui.App A.json} {c c' : Gui.Client} {e : Gui.Event} {sent : List Packet}
    (taken : Gui.act B c e = some (c', sent)) : ∀ packet ∈ sent, Closed A.json A.hash A.handlers packet := by
  intro packet member
  cases Gui.act_cases taken with
  | hello clickable up packed =>
    obtain rfl := List.mem_singleton.1 member
    exact closed_of (takes_request A.registered (.head _)) (List.Subset.refl _) (by decide) packed rfl
  | login clickable packed =>
    obtain rfl := List.mem_singleton.1 member
    exact closed_of (takes_request A.registered (.tail _ (.tail _ (.head _)))) (List.Subset.refl _) (by decide)
      packed rfl
  | logout clickable packed =>
    obtain rfl := List.mem_singleton.1 member
    exact closed_of (takes_request A.registered (.tail _ (.tail _ (.tail _ (.head _))))) (List.Subset.refl _)
      (by decide) packed rfl
  | send clickable packed =>
    obtain rfl := List.mem_singleton.1 member
    exact closed_of (takes_request A.registered (.tail _ (.tail _ (.tail _ (.tail _ (.head _))))))
      (List.Subset.refl _) (by decide) packed rfl
  | _ => cases member

end

/-! ## The packets of the server -/

section
variable (A : Server.App) (B : Gui.App A.json)

/-- A packet that is not written, or that a client understands. -/
def Speaks (packet : Packet) : Prop := packet.body = [] ∨ Closed A.json B.hash B.handlers packet

def CallSpeaks : Server.Call → Prop
  | .sendTo _ cmd buff => Closed A.json B.hash B.handlers ⟨cmd, buff⟩
  | _ => True

/-- What is left of a response, for a client that takes it. -/
theorem conclude_speaks {Resp Taken : Type} [Messages.Reply Resp] [Message Taken] {resp : Resp} (own : Str)
    (command : Messages.Reply.command resp = own) (takes : Takes A.json B.hash B.handlers own Taken)
    (part : Message.schema Taken ⊆ Message.schema Resp) (room : own.length < 16) (cmd : Str) :
    Speaks A B ⟨(conclude A.json cmd (some resp)).cmd, (conclude A.json cmd (some resp)).out⟩ := by
  subst command
  unfold conclude
  cases packed : packerTo A.json resp with
  | none =>
    simp only [packed]
    exact Or.inl rfl
  | some out =>
    simp only [packed]
    exact Or.inr (closed_of takes part room packed (Messages.Reply.get_command resp))

theorem broadcast_speaks (body : Str) (clients : List Auth.AuthClient) :
    Program.Always (CallSpeaks A B) (fun _ _ => True) (fun _ => True) (Server.broadcast A.json body clients) := by
  induction clients with
  | nil => trivial
  | cons c rest ih =>
    rw [Server.broadcast]
    cases packed : packerTo A.json (Server.clientRequest c body) with
    | none => trivial
    | some buff =>
      refine ⟨?_, fun _ _ => ih⟩
      exact closed_of (takes_request B.registered (.head _)) (List.Subset.refl _) (by decide) packed rfl

/-- **What a handler writes.** -/
theorem handling_speaks (cmd : Str) (cookies : ClientCookies) (request : Server.Request) :
    Program.Always (CallSpeaks A B) (fun _ _ => True) (fun d => Speaks A B ⟨d.cmd, d.out⟩)
      (A.handling cmd cookies request) := by
  cases request with
  | hello r =>
    exact conclude_speaks A B Commands.helloReply rfl (takes_reply B.registered (.tail _ (.tail _ (.head _)))) (List.Subset.refl _)
      (by decide) cmd
  | ping r =>
    have takes := takes_reply B.registered (.tail _ (.tail _ (.tail _ (.tail _ (.tail _ (.head _))))))
    refine ⟨trivial, fun (auth : Auth.ClientStatus) _ => ?_⟩
    change Program.Always (CallSpeaks A B) _ _ (Program.bind (if auth = .accepted then _ else _) _)
    split
    · exact conclude_speaks A B Commands.pingReply rfl takes (by decide +kernel) (by decide) cmd
    · exact conclude_speaks A B Commands.pingReply rfl takes (by decide +kernel) (by decide) cmd
  | login r =>
    have takes := takes_reply B.registered (.tail _ (.tail _ (.tail _ (.head _))))
    refine ⟨trivial, fun (answer : Auth.ClientStatus × Str) _ => ?_⟩
    change Program.Always (CallSpeaks A B) _ _ (Program.bind (if answer.1 = .accepted then _ else _) _)
    split
    · exact conclude_speaks A B Commands.authReply rfl takes (List.Subset.refl _) (by decide) cmd
    · exact conclude_speaks A B Commands.authReply rfl takes (List.Subset.refl _) (by decide) cmd
  | logout r =>
    have takes := takes_reply B.registered (.tail _ (.tail _ (.tail _ (.tail _ (.head _)))))
    refine ⟨trivial, fun (auth : Auth.ClientStatus) _ => ?_⟩
    change Program.Always (CallSpeaks A B) _ _ (Program.bind (if auth = .removed then _ else _) _)
    split
    · exact conclude_speaks A B Commands.byeReply rfl takes (List.Subset.refl _) (by decide) cmd
    · exact conclude_speaks A B Commands.byeReply rfl takes (List.Subset.refl _) (by decide) cmd
  | message r =>
    have takes := takes_reply B.registered (.tail _ (.head _))
    refine ⟨trivial, fun (auth : Auth.ClientStatus) _ => ?_⟩
    change Program.Always (CallSpeaks A B) _ _ (Program.bind (if auth = .accepted then _ else _) _)
    split
    · refine ⟨trivial, fun (clients : List Auth.AuthClient) _ => ?_⟩
      change Program.Always (CallSpeaks A B) _ _
        (Program.bind (Program.bind (Server.broadcast A.json r.body clients) _) _)
      rw [Program.bind_assoc]
      apply Program.Always.bind _ (broadcast_speaks A B r.body clients)
      rintro (_ | _) _
      · exact Or.inl rfl
      · exact conclude_speaks A B Commands.msgReply rfl takes (List.Subset.refl _) (by decide) cmd
    · exact conclude_speaks A B Commands.msgReply rfl takes (List.Subset.refl _) (by decide) cmd

theorem packetHandler_speaks (cid : Nat) (packet : Packet) :
    Program.Always (CallSpeaks A B) (fun _ _ => True) (Speaks A B) (A.packetHandler cid packet) := by
  change Program.Always (CallSpeaks A B) _ _
    (Program.bind (dispatch A.hash A.handlers packet.cmd ⟨cid⟩ packet.body) _)
  rcases A.dispatch_request packet ⟨cid⟩ with ⟨request, taken, same⟩ | ⟨none, ok, same⟩
  · rw [same]
    apply Program.Always.bind _ (handling_speaks A B packet.cmd ⟨cid⟩ request)
    exact fun d speaks => speaks
  · rw [same]
    exact Or.inl rfl

/-! ## Whole runs of the server -/

/-- The packets that the server has written, newest first. -/
def written : List Server.Entry → List Packet
  | [] => []
  | .wrote _ _ _ packet :: log => packet :: written log
  | .replied _ _ packet :: log => packet :: written log
  | _ :: log => written log

theorem written_append (entries log : List Server.Entry) : written (entries ++ log) = written entries ++ written log := by
  induction entries with
  | nil => rfl
  | cons e entries ih => cases e <;> simp only [List.cons_append, written, ih]

theorem written_reads (s : Server.State) (conn : Server.Conn) (c : Nat) : written (s.uses conn (.read c)) = [] := by
  unfold Server.State.uses
  split <;> rfl

/-- The packets written so far are understood, and what is left of each handler writes such
packets. -/
structure Spoken (s : Server.State) : Prop where
  log : ∀ packet ∈ written s.log, Closed A.json B.hash B.handlers packet
  threads : ∀ (c : Nat) (conn : Server.Conn) program, s.conns[c]? = some conn → conn.phase = .handling program →
    Program.Always (CallSpeaks A B) (fun _ _ => True) (Speaks A B) program

variable {A B} {s s' : Server.State}

theorem spoken_init (login pass : Str) : Spoken A B (.init login pass) := ⟨nofun, nofun⟩

/-- A step of one connection. -/
theorem Spoken.of_set (h : Spoken A B s) {c : Nat} {new : Server.Conn} (conns : s'.conns = s.conns.set c new)
    (speaks : ∀ program, new.phase = .handling program →
      Program.Always (CallSpeaks A B) (fun _ _ => True) (Speaks A B) program)
    {entries : List Server.Entry} (log : s'.log = entries ++ s.log)
    (closed : ∀ packet ∈ written entries, Closed A.json B.hash B.handlers packet) : Spoken A B s' := by
  constructor
  · intro packet member
    rw [log, written_append, List.mem_append] at member
    exact member.elim (closed packet) (h.log packet)
  · intro d conn program found phase
    rw [conns] at found
    rcases Server.conns_set found with ⟨_, rfl⟩ | ⟨_, there⟩
    · exact speaks program phase
    · exact h.threads d conn program there phase

/-- A packet that `send` writes has a body. -/
theorem written_send {conn : Server.Conn} {packet : Packet} {entry : Option Nat → Server.Entry}
    (one : ∀ on, written [entry on] = [packet]) :
    ∀ p ∈ written (s.send conn packet entry).2, p = packet ∧ packet.body ≠ [] := by
  intro p member
  unfold Server.State.send at member
  split at member
  · cases member
  · rename_i full
    refine ⟨?_, fun empty => full (by rw [createPacket, if_pos empty])⟩
    unfold Server.State.uses at member
    split at member
    · rw [one] at member
      exact List.mem_singleton.1 member
    · cases member

theorem spoken_step (h : Spoken A B s) {e : Server.Event} (taken : Server.step A s e = some s') : Spoken A B s' := by
  cases Server.step_cases taken with
  | accept fresh | refuse fresh =>
    refine ⟨h.log, fun c conn program found phase => ?_⟩
    rcases Server.conns_append found with ⟨_, rfl⟩ | old
    · cases phase
    · exact h.threads c conn program old phase
  | emplace here => exact @Spoken.of_set A B _ _ h _ _ rfl nofun [] rfl nofun
  | packet here received =>
    rename_i c handle socket stack results header buff
    refine @Spoken.of_set A B _ _ h _ _ rfl ?_ (.received c _ :: s.uses _ (.read c)) rfl ?_
    · intro program phase
      cases phase
      exact packetHandler_speaks A B handle _
    · intro packet member
      replace member : packet ∈ written (s.uses ⟨handle, socket, .receiving⟩ (.read c)) := member
      rw [written_reads] at member
      cases member
  | refused here received =>
    refine @Spoken.of_set A B _ _ h _ _ rfl nofun (s.uses _ (.read _)) rfl ?_
    intro packet member
    rw [written_reads] at member
    cases member
  | call here =>
    rename_i c handle socket choice call next
    obtain ⟨speaks, always⟩ := h.threads c _ _ here rfl
    refine @Spoken.of_set A B _ _ h _ _ rfl ?_ (.called c call _ :: (s.outcome c choice call).2.2) rfl ?_
    · intro program phase
      cases phase
      exact always _ trivial
    · intro packet member
      replace member : packet ∈ written (s.outcome c choice call).2.2 := member
      rcases Server.outcome_cases s c choice call with empty | ⟨cookies, cmd, buff, via, conn, _, rfl, _, _, _, one⟩
      · rw [empty] at member
        cases member
      · rw [one] at member
        obtain rfl := List.mem_singleton.1 member
        exact speaks
  | reply here =>
    refine @Spoken.of_set A B _ _ h _ _ rfl nofun _ rfl ?_
    intro packet member
    obtain ⟨rfl, full⟩ := written_send (fun _ => rfl) packet member
    exact (h.threads _ _ _ here rfl).resolve_left full
  | disconnect here => exact @Spoken.of_set A B _ _ h _ _ rfl nofun [.closed _ _] rfl nofun
  | disconnected here => exact @Spoken.of_set A B _ _ h _ _ rfl nofun [] rfl nofun
  | invalidate here => exact @Spoken.of_set A B _ _ h _ _ rfl nofun [] rfl nofun
  | erase here => exact @Spoken.of_set A B _ _ h _ _ rfl nofun [] rfl nofun
  | destroy here => exact @Spoken.of_set A B _ _ h _ _ rfl nofun [.closed _ _] rfl nofun
  | finish here => exact @Spoken.of_set A B _ _ h _ _ rfl nofun [] rfl nofun

end

/-- **The protocol is closed.** Every packet that the server has written in any run is
understood by a client, and every packet that a client sends in any state by the server. -/
theorem protocol_closed (A : Server.App) (B : Gui.App A.json) :
    (∀ (login pass : Str) (es : List Server.Event) (s : Server.State),
      Runs.exec (Server.step A) (.init login pass) es = some s →
      ∀ packet ∈ written s.log, Closed A.json B.hash B.handlers packet) ∧
    ∀ (c c' : Gui.Client) (e : Gui.Event) (sent : List Packet), Gui.act B c e = some (c', sent) →
      ∀ packet ∈ sent, Closed A.json A.hash A.handlers packet := by
  constructor
  · intro login pass es s run
    exact (Runs.exec_invariant (fun _ _ _ h taken => spoken_step h taken) (spoken_init login pass) run).log
  · intro c c' e sent taken
    exact closed_act A taken

/-- A ping is answered. -/
def pinging : List Server.Event :=
  [.accept 3 true, .emplace 0, .recv 0 Server.blank (Server.whole ⟨Commands.ping, str "\x7b\"id\":7\x7d"⟩),
    .call 0 Server.someChoice, .reply 0]

/-- The answer to a ping, which is written as one message and read as another, and a hello. -/
theorem protocol_closed_ping :
    (∃ s packet, Runs.exec (Server.step Server.App.compact) (.init [] []) pinging = some s ∧
      packet ∈ written s.log ∧ packet.cmd = Commands.pingReply ∧
      Closed Text.compact Gui.App.compact.hash Gui.App.compact.handlers packet) ∧
    ∃ c packet, Gui.act Gui.App.compact (.init 1) (.connect (str "localhost:10500") .up 0 7 true) = some (c, [packet]) ∧
      packet.cmd = Commands.hello ∧
      Closed Text.compact Server.App.compact.hash Server.App.compact.handlers packet := by
  obtain ⟨replies, requests⟩ := protocol_closed Server.App.compact Gui.App.compact
  constructor
  · obtain ⟨s, run, seen⟩ := Option.map_eq_some_iff.1
      (show (Runs.exec (Server.step Server.App.compact) (.init [] []) pinging).map (fun s =>
          (written s.log).map Packet.cmd) = some [Commands.pingReply] by decide +kernel)
    obtain ⟨packet, one, cmd⟩ := List.map_eq_singleton_iff.1 seen
    have member : packet ∈ written s.log := by simp [one]
    exact ⟨s, packet, run, member, cmd, replies [] [] pinging s run packet member⟩
  · obtain ⟨⟨c, sent⟩, taken, seen⟩ := Option.map_eq_some_iff.1
      (show (Gui.act Gui.App.compact (.init 1) (.connect (str "localhost:10500") .up 0 7 true)).map (fun r =>
          r.2.map Packet.cmd) = some [Commands.hello] by decide +kernel)
    obtain ⟨packet, rfl, cmd⟩ := List.map_eq_singleton_iff.1 seen
    exact ⟨c, packet, taken, cmd, requests _ c _ _ taken packet (List.mem_singleton.2 rfl)⟩

end Gologin.Session
