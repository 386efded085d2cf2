import Mathlib.Data.List.TakeWhile
import Gologin.Client.Credentials
import Gologin.Client.Connection

/-!
# The address of the server

`app::on_connect_frame_callback` splits the text of the address field at its first colon, takes
what follows for a port by `atoi`, and hands both to `tcp::client::connect`, whose port is a
`uint16_t`. Neither part is checked.
-/

namespace Gologin.Gui
set_option autoImplicit false
open Messages Tcp

/-! ## Numbers -/

/-- `isspace`. -/
def isSpace (c : UInt8) : Bool := c = 32 || (9 ≤ c && c ≤ 13)

/-- The number that the digits at the start of a text make. -/
def number (s : Str) : Int := ((Text.readNat s).map Prod.fst).getD 0

/-- `std::atoi`; the result for a number that is no `int` is not defined by the language, and is
some `far` of it. -/
def atoi (far : Int → Int) (s : Str) : Int :=
  let value :=
    match s.dropWhile isSpace with
    | 45 :: s => -number s
    | 43 :: s => number s
    | s => number s
  if -2 ^ 31 ≤ value ∧ value < 2 ^ 31 then value else far value

/-- The value of a decimal numeral. -/
def numeral (s : Str) : Option Nat :=
  match Text.readNat s with
  | some (n, []) => some n
  | _ => none

/-! ## The callback -/

/-- What the callback leaves: the host and the port it calls `connect` with, whether that comes
to a `::connect`, and the rest. -/
structure Dialed where
  host : Str
  port : UInt16
  attempted : Bool
  done : Done

/-- `app::on_connect_frame_callback`, with the call of `tcp::client::connect`. -/
def Client.connectCallback (J : Nlohmann) (far : Int → Int) (c : Client) (data : Str) (outcome : Outcome) (n : Nat)
    (clientId : UInt64) (sent : Bool) : Option Dialed :=
  let (host, port) := splitColon data
  let dialed := Dialed.mk host (UInt16.ofInt (atoi far port))
    (decide (c.status ≠ .connected) && outcome.socket && outcome.getaddrinfo)
  let c := c.connect outcome.result n
  if c.status ≠ .connected then
    some (dialed ⟨c.output .onConnect .failed (str "Connect to server failed.") [], [],
      [(.onConnect, .failed, str "Connect to server failed.")]⟩)
  else
    ({ c with cookie.clientId := clientId }.attempt J sent Commands.hello
      ({ command := Commands.hello, id := clientId } : Client.HelloRequest)
      .onConnect .pending (str "Connect...") (str "Connect failed.")).map dialed

/-- The text is the host, a colon and a decimal numeral of the port. -/
def Names (data host : Str) (port : Nat) : Prop :=
  ∃ s, data = host ++ 58 :: s ∧ host ≠ [] ∧ 58 ∉ host ∧ numeral s = some port ∧ 1 ≤ port ∧ port ≤ 65535

/-- The text is an address. -/
def WellFormed (data : Str) : Prop := ∃ host port, Names data host port

/-- Whatever the system calls return: `connect` is called with the host and the port that the text
names, or the failed status is reported and no connection is attempted; and a text that names
none does not lead to a connected status. -/
def Dials (J : Nlohmann) (far : Int → Int) (data : Str) : Prop :=
  ∀ c outcome n clientId sent dialed, Client.connectCallback J far c data outcome n clientId sent = some dialed →
    (Names data dialed.host dialed.port.toNat ∨
      (∃ msg, (.onConnect, .failed, msg) ∈ dialed.done.reports) ∧ dialed.attempted = false) ∧
    (¬ WellFormed data → dialed.done.client.status ≠ .connected)

section
variable {J : Nlohmann} {far : Int → Int}

/-- The callback is that of the client. -/
theorem connectCallback_after (c : Client) (data : Str) (outcome : Outcome) (n : Nat) (clientId : UInt64) (sent : Bool) :
    ∃ dialed, c.connectCallback J far data outcome n clientId sent = some dialed ∧
      (dialed.done.client, dialed.done.packets) = c.onConnectFrameCallback J outcome.result n clientId sent := by
  unfold Client.connectCallback Client.onConnectFrameCallback
  dsimp only
  by_cases down : (c.connect outcome.result n).status ≠ .connected
  · rw [if_pos down, if_pos down]
    exact ⟨_, rfl, rfl⟩
  · rw [if_neg down, if_neg down]
    obtain ⟨buff, packed⟩ := packerTo_some J (show TextUtf8 (helloRequest clientId) from
      ⟨trivial, str_utf8 (by decide), trivial⟩)
    unfold helloRequest at packed
    unfold Client.attempt Client.request
    rw [packed]
    dsimp only [Option.map_some]
    obtain ⟨ok, packets⟩ := Client.send sent Commands.hello buff
    cases ok <;> exact ⟨_, rfl, rfl⟩

/-- The callback leaves the status that `connect` leaves. -/
theorem onConnectFrameCallback_status (c : Client) (result : Client.ConnectResult) (n : Nat) (clientId : UInt64)
    (sent : Bool) : (c.onConnectFrameCallback J result n clientId sent).1.status = (c.connect result n).status := by
  unfold Client.onConnectFrameCallback
  dsimp only
  split
  · rfl
  · rcases @Client.request_cases J _ _ { c.connect result n with cookie.clientId := clientId } sent Commands.hello
      (helloRequest clientId) .onConnect .pending (str "Connect...") (str "Connect failed.") with
      same | same | ⟨_, buff, _, _, same⟩
    · exact congrArg (fun d => d.1.status) same
    · exact congrArg (fun d => d.1.status) same
    · exact congrArg (fun d => d.1.status) same

/-! ## Well-formed addresses -/

/-- A numeral has a digit, and nothing but digits. -/
theorem numeral_some {s : Str} {n : Nat} (value : numeral s = some n) :
    Text.readNat s = some (n, []) ∧ s ≠ [] ∧ ∀ c ∈ s, Text.isDigit c = true := by
  unfold numeral at value
  split at value
  · rename_i m read
    cases value
    refine ⟨read, ?_⟩
    unfold Text.readNat at read
    split at read
    · cases read
    · rename_i some_digit
      have rest := (Prod.mk.inj (Option.some.inj read)).2
      refine ⟨?_, List.dropWhile_eq_nil_iff.1 rest⟩
      rintro rfl
      exact some_digit rfl
  · cases value

/-- `atoi` gives the value of a numeral. -/
theorem atoi_numeral {s : Str} {n : Nat} (value : numeral s = some n) (small : n < 2 ^ 31) : atoi far s = n := by
  obtain ⟨read, full, digits⟩ := numeral_some value
  have whole : number s = n := by
    rw [number, read]
    rfl
  obtain ⟨d, rest, rfl⟩ := List.exists_cons_of_ne_nil full
  have digit : 48 ≤ d ∧ d ≤ 57 := by simpa [Text.isDigit] using digits d (by simp)
  have low : 48 ≤ d.toNat := UInt8.le_iff_toNat_le.1 digit.1
  have other : ∀ b : UInt8, b.toNat < 48 → d ≠ b := by
    rintro b small rfl
    omega
  have visible : isSpace d = false := by
    have high : ¬ d ≤ 13 := by
      intro le
      have : d.toNat ≤ 13 := UInt8.le_iff_toNat_le.1 le
      omega
    simp [isSpace, other 32 (by decide), high]
  unfold atoi
  rw [List.dropWhile_cons_of_neg (by simp [visible])]
  dsimp only
  split
  · rename_i same
    exact absurd (List.cons.inj same).1 (other 45 (by decide))
  · rename_i same
    exact absurd (List.cons.inj same).1 (other 43 (by decide))
  · rw [whole, if_pos (by omega)]

/-- A port fits the 16 bits of `connect`. -/
theorem port_eq {n : Nat} (small : n ≤ 65535) : (UInt16.ofInt (n : Int)).toNat = n := by
  unfold UInt16.ofInt
  rw [UInt16.toNat_ofNat']
  omega

/-- What `connect` is called with, of a well-formed text. -/
theorem dialed_names {data : Str} (wellFormed : WellFormed data) :
    Names data (Client.splitColon data).1 (UInt16.ofInt (atoi far (Client.splitColon data).2)).toNat := by
  obtain ⟨host, port, s, rfl, named, first, value, low, high⟩ := wellFormed
  rw [splitColon_append s first, atoi_numeral value (by omega), port_eq high]
  exact ⟨s, rfl, named, first, value, low, high⟩

theorem dialed_args {c : Client} {data : Str} {outcome : Outcome} {n : Nat} {clientId : UInt64} {sent : Bool}
    {dialed : Dialed} (called : c.connectCallback J far data outcome n clientId sent = some dialed) :
    dialed.host = (Client.splitColon data).1 ∧ dialed.port = UInt16.ofInt (atoi far (Client.splitColon data).2) ∧
      dialed.attempted = (decide (c.status ≠ .connected) && outcome.socket && outcome.getaddrinfo) := by
  unfold Client.connectCallback at called
  dsimp only at called
  split at called
  · cases called
    exact ⟨rfl, rfl, rfl⟩
  · obtain ⟨_, _, rfl⟩ := Option.map_eq_some_iff.1 called
    exact ⟨rfl, rfl, rfl⟩

/-- The host and the port are what the lines of the callback make of the text, in either order. -/
theorem dialed_split {w : Nat} (order : StdString.Order) (text : StdString UInt8 w) {c : Client} {outcome : Outcome}
    {n : Nat} {clientId : UInt64} {sent : Bool} {dialed : Dialed}
    (called : c.connectCallback J far text.chars outcome n clientId sent = some dialed) :
    ∃ host port, Credentials.splitText order text = some (host, port) ∧ dialed.host = host.chars ∧
      dialed.port = UInt16.ofInt (atoi far port.chars) := by
  obtain ⟨host, port, split, same⟩ := Credentials.splitText_eq order text
  obtain ⟨hosted, ported, _⟩ := dialed_args called
  refine ⟨host, port, split, ?_, ?_⟩
  · rw [hosted, ← same]
  · rw [ported, ← same]

end

/-- A `getaddrinfo` that fails, which `client::connect` takes for a connection. -/
def unresolved : Outcome := ⟨true, false, false⟩

/-- **Which addresses are dialed right.** For every text, whatever `atoi` makes of a number that
is no `int`: the callback dials it right if and only if it is well formed. The empty text never
comes to the callback, as `frame::on_connect` reports it. -/
theorem dials_iff (J : Nlohmann) (far : Int → Int) (data : Str) : Dials J far data ↔ WellFormed data := by
  constructor
  · intro dials
    by_contra malformed
    obtain ⟨dialed, called, same⟩ := @connectCallback_after J far (.init 0) data unresolved 0 1 true
    apply (dials _ _ _ _ _ dialed called).2 malformed
    exact (congrArg (fun d => d.1.status) same).trans (onConnectFrameCallback_status ..)
  · intro wellFormed c outcome n clientId sent dialed called
    obtain ⟨host, port, _⟩ := dialed_args called
    refine ⟨Or.inl ?_, fun malformed => absurd wellFormed malformed⟩
    rw [host, port]
    exact dialed_names wellFormed

/-- The port `65616` is dialed as `80`. -/
theorem port_wraps : ¬ ∀ data : Str, Dials Text.compact id data := by
  intro dials
  obtain ⟨dialed, called, _⟩ :=
    @connectCallback_after Text.compact id (.init 0) (str "localhost:65616") ⟨true, true, true⟩ 0 1 true
  obtain ⟨host, port, attempted⟩ := dialed_args called
  rcases (dials _ _ _ _ _ _ dialed called).1 with ⟨s, text, _, _, value, _⟩ | ⟨_, quiet⟩
  · rw [host, show (Client.splitColon (str "localhost:65616")).1 = str "localhost" by decide] at text
    have cut : str "localhost" ++ 58 :: str "65616" = str "localhost" ++ 58 :: s := text
    obtain rfl := (List.cons.inj (List.append_cancel_left cut)).2
    rw [port, show (UInt16.ofInt (atoi id (Client.splitColon (str "localhost:65616")).2)).toNat = 80 by decide] at value
    exact absurd value (by decide)
  · rw [attempted] at quiet
    exact absurd quiet (by decide)

end Gologin.Gui
