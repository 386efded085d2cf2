import Gologin.Lib.StdString
import Gologin.Client.Callbacks

/-!
# The login field

`app::on_login_frame_callback` splits `user:pass` at its first colon by `find` and two calls
of `substr`; `app::on_connect_frame_callback` splits an address by the same lines. The
position is incremented in one argument of the second `substr` and read in the other, and the
language does not say which comes first: the count is that of the rest, or one more.
-/

namespace Gologin.Gui.Credentials
set_option autoImplicit false
open Calls Messages Tcp StdString

section
variable {w : Nat} (order : Order) (text : StdString UInt8 w)

/-- The arguments of `substr(++_delim, size() - _delim)`. -/
def restArgs (delim : BitVec w) : BitVec w × BitVec w :=
  (order.eval (fun delim => (delim + 1, delim + 1)) (fun delim => (text.size - delim, delim)) delim).1

/-- The lines that split a text; `none` is an `out_of_range`. -/
def splitText : Option (StdString UInt8 w × StdString UInt8 w) :=
  let delim := text.find 58
  if delim ≠ npos then
    (text.substr 0 delim).bind fun login =>
      let (pos, count) := restArgs order text delim
      (text.substr pos count).map fun pass => (login, pass)
  else some (.empty, .empty)

end

/-- An exception that leaves a callback. -/
inductive Thrown where
  | outOfRange
  | json
  deriving DecidableEq, Repr

/-- What a callback that returns has done: its calls of `client_base::send`, with the packet that
each is to send, and what they and it have come to. -/
structure Performed where
  sends : List Packet
  done : Done
  deriving DecidableEq, Repr

section
variable {w : Nat} (J : Nlohmann) (order : Order) (c : Client) (data : StdString UInt8 w) (sent : Bool)

/-- `app::on_login_frame_callback` on the characters that `data.c_str().AsChar()` gives. -/
def onLoginFrameCallback : Except Thrown Performed :=
  match splitText order data with
  | none => .error .outOfRange
  | some (login, pass) =>
    if login.chars = [] ∨ pass.chars = [] then
      .ok ⟨[], c.output .onLogin .failed (str "Invalid user or pass.") [], [],
        [(.onLogin, .failed, str "Invalid user or pass.")]⟩
    else
      let request : Client.AuthRequest :=
        { command := Commands.auth, id := c.cookie.clientId, login := login.chars, password := pass.chars }
      match packerTo J request with
      | none => .error .json
      | some buff =>
        let sends := [⟨Commands.auth, buff⟩]
        match Client.send sent Commands.auth buff with
        | (true, packets) =>
          .ok ⟨sends, c.output .onLogin .success (str "Login...") [], packets,
            [(.onLogin, .success, str "Login...")]⟩
        | (false, packets) =>
          .ok ⟨sends, c.output .onLogin .failed (str "Login failed.") [], packets,
            [(.onLogin, .failed, str "Login failed.")]⟩

/-- The click handler `frame::on_login`. -/
def onLogin : Except Thrown Performed :=
  if data.chars = [] then .ok ⟨[], c.setStatusText (str "Invalid login or password."), [], []⟩
  else onLoginFrameCallback J order c data sent

end

/-- A colon with something before its first occurrence and something after it. -/
def TwoParts (data : Str) : Prop := ∃ login pass, data = login ++ 58 :: pass ∧ 58 ∉ login ∧ login ≠ [] ∧ pass ≠ []

/-- A login request whose login has no colon and with its password makes up the text. -/
def LoginOf (J : Nlohmann) (c : Client) (data : Str) (packet : Packet) : Prop :=
  packet.cmd = Commands.auth ∧
    ∃ m, packerFrom J Client.AuthRequest packet.body = some m ∧ m.id = c.cookie.clientId ∧
      58 ∉ m.login ∧ m.login ++ 58 :: m.password = data

/-- A callback returns; it has sent a login request exactly when the text has two parts, and no
more than one; the request is that of the text, and is written if `::send` succeeds. -/
def Splits (J : Nlohmann) (c : Client) (data : Str) (sent : Bool) (run : Except Thrown Performed) : Prop :=
  ∃ performed, run = .ok performed ∧ (performed.sends ≠ [] ↔ TwoParts data) ∧ performed.sends.length ≤ 1 ∧
    (∀ packet ∈ performed.sends, LoginOf J c data packet) ∧
    performed.done.packets = if sent then performed.sends else []

/-! ## Splitting the text -/

section
variable {w : Nat} {order : Order} {text : StdString UInt8 w} {a b : Str}

/-- In either order the position is behind the colon, and the count reaches the end. -/
theorem restArgs_cover {delim : BitVec w} (inside : delim.toNat + 1 ≤ text.chars.length) :
    (restArgs order text delim).1.toNat = delim.toNat + 1 ∧
      text.chars.length - (delim.toNat + 1) ≤ (restArgs order text delim).2.toNat := by
  have fits := text.fits
  have next : (delim + 1).toNat = delim.toNat + 1 := toNat_succ (by omega)
  have size := toNat_size text
  cases order with
  | left =>
    have count : (text.size - (delim + 1)).toNat = text.size.toNat - (delim + 1).toNat :=
      BitVec.toNat_sub_of_le (BitVec.le_def.2 (by omega))
    refine ⟨next, ?_⟩
    change _ ≤ (text.size - (delim + 1)).toNat
    omega
  | right =>
    have count : (text.size - delim).toNat = text.size.toNat - delim.toNat :=
      BitVec.toNat_sub_of_le (BitVec.le_def.2 (by omega))
    refine ⟨next, ?_⟩
    change _ ≤ (text.size - delim).toNat
    omega

/-- A text with a colon is split at its first. -/
theorem splitText_append (chars : text.chars = a ++ 58 :: b) (first : 58 ∉ a) :
    ∃ login pass, splitText order text = some (login, pass) ∧ login.chars = a ∧ pass.chars = b := by
  have delim : (text.find 58).toNat = a.length := toNat_find chars first
  have length : text.chars.length = a.length + (b.length + 1) := by
    rw [chars, List.length_append, List.length_cons]
  obtain ⟨pos, count⟩ := @restArgs_cover w order text (text.find 58) (by omega)
  obtain ⟨login, before, same⟩ := substr_before chars delim
  have split : text.chars = (a ++ [58]) ++ b := by rw [chars, List.append_assoc, List.singleton_append]
  have behind : (restArgs order text (text.find 58)).1.toNat = (a ++ [58]).length := by
    rw [pos, delim, List.length_append, List.length_singleton]
  have enough : b.length ≤ (restArgs order text (text.find 58)).2.toNat := by omega
  obtain ⟨pass, after, same'⟩ := substr_from split behind enough
  refine ⟨login, pass, ?_, same, same'⟩
  unfold splitText
  dsimp only
  rw [if_pos (find_ne_npos chars first), before, Option.bind_some, after, Option.map_some]

/-- **The lines that split a text** give its two parts, in either order, and no call of `substr`
is out of range. -/
theorem splitText_eq (order : Order) (text : StdString UInt8 w) :
    ∃ login pass, splitText order text = some (login, pass) ∧
      (login.chars, pass.chars) = Client.splitColon text.chars := by
  by_cases colon : 58 ∈ text.chars
  · obtain ⟨a, b, chars, first⟩ := exists_of_colon colon
    obtain ⟨login, pass, split, before, after⟩ := @splitText_append w order text a b chars first
    refine ⟨login, pass, split, ?_⟩
    rw [before, after, chars, splitColon_append b first]
  · refine ⟨.empty, .empty, ?_, ?_⟩
    · unfold splitText
      dsimp only
      rw [if_neg (not_not_intro (find_of_not_mem colon))]
    · rw [splitColon_of_not_mem colon]
      rfl

end

/-- A text has two parts when neither of the split is empty. -/
theorem twoParts_iff {data : Str} : TwoParts data ↔ ¬ OnePart data := by
  constructor
  · rintro ⟨a, b, rfl, first, before, after⟩
    unfold OnePart
    rw [splitColon_append b first]
    exact not_or.2 ⟨before, after⟩
  · intro both
    have colon : 58 ∈ data := by
      by_contra none
      exact both (Or.inl (by rw [splitColon_of_not_mem none]))
    obtain ⟨a, b, rfl, first⟩ := exists_of_colon colon
    unfold OnePart at both
    rw [splitColon_append b first] at both
    exact ⟨a, b, rfl, first, not_or.1 both⟩

/-! ## The callback -/

section
variable {w : Nat} {J : Nlohmann} (order : Order) (c : Client) (data : StdString UInt8 w) (sent : Bool)

/-- The callback in this detail is that of the client. -/
theorem onLoginFrameCallback_done :
    (onLoginFrameCallback J order c data sent).toOption.map Performed.done = c.loginCallback J data.chars sent := by
  obtain ⟨login, pass, split, same⟩ := splitText_eq order data
  unfold onLoginFrameCallback Client.loginCallback
  rw [split, ← same]
  dsimp only
  by_cases one : login.chars = [] ∨ pass.chars = []
  · rw [if_pos one, if_pos one]
    rfl
  · rw [if_neg one, if_neg one]
    unfold Client.attempt
    cases packerTo J
        ({ command := Commands.auth, id := c.cookie.clientId, login := login.chars, password := pass.chars } :
          Client.AuthRequest) with
    | none => rfl
    | some buff =>
      dsimp only [Option.map_some]
      obtain ⟨ok, packets⟩ := Client.send sent Commands.auth buff
      cases ok <;> rfl

/-- A text that has not two parts is reported. -/
theorem onLoginFrameCallback_onePart (one : OnePart data.chars) :
    ∃ done, onLoginFrameCallback J order c data sent = .ok ⟨[], done⟩ ∧ done.packets = [] := by
  obtain ⟨login, pass, split, same⟩ := splitText_eq order data
  have empty : login.chars = [] ∨ pass.chars = [] := by
    unfold OnePart at one
    rw [← same] at one
    exact one
  unfold onLoginFrameCallback
  rw [split]
  dsimp only
  rw [if_pos empty]
  exact ⟨_, rfl, rfl⟩

/-- Of a text that has two, the request is handed to `client_base::send`. -/
theorem onLoginFrameCallback_twoParts {login pass : Str} {buff : Buffer} (chars : data.chars = login ++ 58 :: pass)
    (first : 58 ∉ login) (before : login ≠ []) (after : pass ≠ [])
    (packed : packerTo J ({ command := Commands.auth, id := c.cookie.clientId, login := login, password := pass } :
      Client.AuthRequest) = some buff) :
    ∃ done, onLoginFrameCallback J order c data sent = .ok ⟨[⟨Commands.auth, buff⟩], done⟩ ∧
      done.packets = (Client.send sent Commands.auth buff).2 := by
  obtain ⟨_, _, split, rfl, rfl⟩ := @splitText_append w order data login pass chars first
  unfold onLoginFrameCallback
  rw [split]
  dsimp only
  rw [if_neg (not_or.2 ⟨before, after⟩), packed]
  dsimp only
  obtain ⟨ok, packets⟩ := Client.send sent Commands.auth buff
  cases ok
  · exact ⟨_, rfl, rfl⟩
  · exact ⟨_, rfl, rfl⟩

theorem splits_callback (utf8 : Utf8.valid data.chars = true) :
    Splits J c data.chars sent (onLoginFrameCallback J order c data sent) := by
  by_cases one : OnePart data.chars
  · obtain ⟨done, returns, silent⟩ := onLoginFrameCallback_onePart order c data sent one
    refine ⟨_, returns, iff_of_false (fun out => out rfl) fun two => twoParts_iff.1 two one, Nat.zero_le 1, nofun, ?_⟩
    rw [silent, ite_self]
  · have two := twoParts_iff.2 one
    obtain ⟨login, pass, chars, first, before, after⟩ := twoParts_iff.2 one
    have valid := utf8
    rw [chars, Utf8.valid_append_ascii (by decide), Bool.and_eq_true] at valid
    let request : Client.AuthRequest :=
      { command := Commands.auth, id := c.cookie.clientId, login := login, password := pass }
    have text : TextUtf8 request := ⟨trivial, str_utf8 (by decide), valid.1, valid.2, trivial⟩
    obtain ⟨buff, packed⟩ := packerTo_some J text
    obtain ⟨done, returns, written⟩ :=
      onLoginFrameCallback_twoParts order c data sent chars first before after packed
    refine ⟨_, returns, iff_of_true (List.cons_ne_nil _ _) two, Nat.le_refl 1, ?_, ?_⟩
    · intro packet member
      obtain rfl := List.mem_singleton.1 member
      exact ⟨rfl, request, packerFrom_packerTo J packed, rfl, first, chars.symm⟩
    · have full : createPacket Commands.auth buff ≠ [] :=
        createPacket_ne_nil (packerTo_ne_nil J packed) (by decide)
      rw [written, Client.send]
      cases sent <;> simp [full]

/-- A click with an empty field sends nothing, and neither would the callback. -/
theorem splits_click (utf8 : Utf8.valid data.chars = true) :
    Splits J c data.chars sent (onLogin J order c data sent) := by
  unfold onLogin
  by_cases none : data.chars = []
  · rw [if_pos none]
    refine ⟨_, rfl, iff_of_false (fun out => out rfl) ?_, Nat.zero_le 1, nofun, (ite_self _).symm⟩
    rintro ⟨login, pass, chars, _⟩
    simp [none] at chars
  · rw [if_neg none]
    exact splits_callback order c data sent utf8

end

/-- **Credentials are split at the first colon.** For every text that is UTF-8, in either order of
the two arguments, in every state of the client and whether or not its `::send` succeeds: the
callback and the click return, and send a login request exactly when the text has two parts; the
login has no colon, and login, colon and password make up the text. -/
theorem credentials_split (J : Nlohmann) (order : Order) (c : Client) {w : Nat} (data : StdString UInt8 w) (sent : Bool)
    (utf8 : Utf8.valid data.chars = true) :
    Splits J c data.chars sent (onLoginFrameCallback J order c data sent) ∧
      Splits J c data.chars sent (onLogin J order c data sent) :=
  ⟨splits_callback order c data sent utf8, splits_click order c data sent utf8⟩

/-- A password with a colon. -/
theorem credentials_split_colons :
    ∃ data : StdString UInt8 64, data.chars = str "user:pa:ss" ∧ Utf8.valid data.chars = true ∧
      Splits Text.compact (.init 1) data.chars true
        (onLoginFrameCallback Text.compact .right (.init 1) data true) := by
  have short : (str "user:pa:ss").length < 2 ^ 4 := by decide
  have fits : (str "user:pa:ss").length < 2 ^ 64 := by
    apply Nat.lt_of_lt_of_le short
    apply Nat.pow_le_pow_right
    · decide
    · decide
  obtain ⟨data, chars⟩ : ∃ data : StdString UInt8 64, data.chars = str "user:pa:ss" := ⟨⟨_, fits⟩, rfl⟩
  have utf8 : Utf8.valid data.chars = true := by
    rw [chars]
    exact str_utf8 (by decide)
  exact ⟨data, chars, utf8, (credentials_split Text.compact .right (.init 1) data true utf8).1⟩

end Gologin.Gui.Credentials
