import Gologin.Lib.Calls
import Gologin.Messages.Messages

/-!
# The dispatcher

`tcp::dispatcher` of `tcp/core/dispatcher.hpp`. A handler makes calls to the component
that registers it, and it may throw: a handler that throws returns `none`. The handlers
are found by the hash of a command, so a command that is not registered reaches a handler
when the hashes agree.
-/

namespace Gologin.Tcp
set_option autoImplicit false
open Calls Messages Tables

/-- What `dispatch` leaves: its result, `_cmd` and `out`. -/
structure Dispatched where
  ok : Bool
  cmd : Str
  out : Buffer
  deriving DecidableEq, Repr

section
variable {κ : Type} {ans : κ → Type}

/-- `handler_type`, with the exception caught around it. -/
abbrev Handler (κ : Type) (ans : κ → Type) : Type :=
  Str → ClientCookies → Buffer → Program κ ans Dispatched

/-- `handlers_type`. -/
abbrev Handlers (κ : Type) (ans : κ → Type) : Type := Table Nat (Handler κ ans)

/-- The wrapper around a handler with a response: `_cmd` is changed before `packer::to`, so
a response that cannot be packed leaves the new command with no output. -/
def wrapper3 (J : Nlohmann) {Req Resp : Type} [Message Req] [Reply Resp]
    (f : ClientCookies → Req → Program κ ans (Option Resp)) : Handler κ ans := fun cmd cookies input =>
  match packerFrom J Req input with
  | none => pure ⟨false, cmd, []⟩
  | some req => do
    match ← f cookies req with
    | none => pure ⟨false, cmd, []⟩
    | some resp =>
      match packerTo J resp with
      | none => pure ⟨false, Reply.command resp, []⟩
      | some out => pure ⟨true, Reply.command resp, out⟩

/-- The wrapper around a handler without one. -/
def wrapper2 (J : Nlohmann) {Req : Type} [Message Req]
    (f : ClientCookies → Req → Program κ ans (Option Unit)) : Handler κ ans := fun cmd cookies input =>
  match packerFrom J Req input with
  | none => pure ⟨false, cmd, []⟩
  | some req => do
    match ← f cookies req with
    | none => pure ⟨false, cmd, []⟩
    | some () => pure ⟨true, cmd, []⟩

/-- What is left of a response, or of an exception. -/
def conclude (J : Nlohmann) {Resp : Type} [Reply Resp] (cmd : Str) : Option Resp → Dispatched
  | none => ⟨false, cmd, []⟩
  | some resp =>
    match packerTo J resp with
    | none => ⟨false, Reply.command resp, []⟩
    | some out => ⟨true, Reply.command resp, out⟩

theorem wrapper3_of_decoded {J : Nlohmann} {Req Resp : Type} [Message Req] [Reply Resp]
    {f : ClientCookies → Req → Program κ ans (Option Resp)} {input : Buffer} {req : Req}
    (decoded : packerFrom J Req input = some req) (cmd : Str) (cookies : ClientCookies) :
    wrapper3 J f cmd cookies input = (f cookies req).bind fun resp => .done (conclude J cmd resp) := by
  simp only [wrapper3, decoded, Program.bind_eq, Program.pure_eq]
  congr 1
  funext resp
  cases resp with
  | none => rfl
  | some resp =>
    simp only [conclude]
    cases packerTo J resp with
    | none => rfl
    | some out => rfl

theorem wrapper3_of_undecoded {J : Nlohmann} {Req Resp : Type} [Message Req] [Reply Resp]
    {f : ClientCookies → Req → Program κ ans (Option Resp)} {input : Buffer}
    (undecoded : packerFrom J Req input = none) (cmd : Str) (cookies : ClientCookies) :
    wrapper3 J f cmd cookies input = .done ⟨false, cmd, []⟩ := by
  simp only [wrapper3, undecoded, Program.pure_eq]

variable (hash : Str → Nat)

/-- `handle`: throws on a hash that is taken. -/
def handle (cmd : Str) (wrapper : Handler κ ans) (handlers : Handlers κ ans) : Option (Handlers κ ans) :=
  if hash cmd ∈ handlers then none else some (handlers.insert (hash cmd) wrapper)

/-- `dispatch`. -/
def dispatch (handlers : Handlers κ ans) : Handler κ ans := fun cmd cookies input =>
  match handlers.lookup (hash cmd) with
  | some handler => handler cmd cookies input
  | none => pure ⟨false, cmd, []⟩

/-- Register a list of commands, each with its wrapper. -/
def handleAll : List (Str × Handler κ ans) → Handlers κ ans → Option (Handlers κ ans)
  | [], handlers => some handlers
  | (cmd, wrapper) :: rest, handlers => (handle hash cmd wrapper handlers).bind (handleAll rest)

variable {hash}

theorem handle_some {cmd : Str} {wrapper : Handler κ ans} {handlers handlers' : Handlers κ ans}
    (h : handle hash cmd wrapper handlers = some handlers') :
    hash cmd ∉ handlers ∧ handlers' = handlers.insert (hash cmd) wrapper := by
  unfold handle at h
  split at h
  · cases h
  · rename_i fresh
    exact ⟨fresh, (Option.some.inj h).symm⟩

/-- A command that is registered stays registered. -/
theorem lookup_handleAll_keep {rest : List (Str × Handler κ ans)} {handlers handlers' : Handlers κ ans}
    (h : handleAll hash rest handlers = some handlers') {key : Nat} {wrapper : Handler κ ans}
    (found : handlers.lookup key = some wrapper) : handlers'.lookup key = some wrapper := by
  induction rest generalizing handlers with
  | nil => exact Option.some.inj h ▸ found
  | cons item rest ih =>
    obtain ⟨m, first, later⟩ := Option.bind_eq_some_iff.1 h
    obtain ⟨fresh, rfl⟩ := handle_some first
    apply ih later
    have other : key ≠ hash item.1 := by
      rintro rfl
      exact fresh (mem_of_lookup found)
    rw [AList.lookup_insert_ne other]
    exact found

/-- Each command of a registration that does not throw is dispatched to its wrapper. -/
theorem lookup_handleAll {items : List (Str × Handler κ ans)} {handlers handlers' : Handlers κ ans}
    (h : handleAll hash items handlers = some handlers') {cmd : Str} {wrapper : Handler κ ans}
    (member : (cmd, wrapper) ∈ items) : handlers'.lookup (hash cmd) = some wrapper := by
  induction items generalizing handlers with
  | nil => cases member
  | cons item rest ih =>
    obtain ⟨m, first, later⟩ := Option.bind_eq_some_iff.1 h
    rcases List.mem_cons.1 member with rfl | more
    · obtain ⟨fresh, rfl⟩ := handle_some first
      exact lookup_handleAll_keep later (AList.lookup_insert _)
    · exact ih later more

/-- A key that no command registered has is left alone. -/
theorem lookup_handleAll_ne {items : List (Str × Handler κ ans)} {handlers handlers' : Handlers κ ans}
    (h : handleAll hash items handlers = some handlers') {key : Nat}
    (other : ∀ item ∈ items, key ≠ hash item.1) : handlers'.lookup key = handlers.lookup key := by
  induction items generalizing handlers with
  | nil => rw [Option.some.inj h]
  | cons item rest ih =>
    obtain ⟨m, first, later⟩ := Option.bind_eq_some_iff.1 h
    obtain ⟨fresh, rfl⟩ := handle_some first
    rw [ih later fun item member => other item (by simp [member]), AList.lookup_insert_ne (other item (by simp))]

theorem dispatch_of_lookup {handlers : Handlers κ ans} {cmd : Str} {wrapper : Handler κ ans}
    (found : handlers.lookup (hash cmd) = some wrapper) (cookies : ClientCookies) (input : Buffer) :
    dispatch hash handlers cmd cookies input = wrapper cmd cookies input := by
  rw [dispatch, found]

theorem dispatch_of_none {handlers : Handlers κ ans} {cmd : Str} (absent : handlers.lookup (hash cmd) = none)
    (cookies : ClientCookies) (input : Buffer) :
    dispatch hash handlers cmd cookies input = .done ⟨false, cmd, []⟩ := by
  rw [dispatch, absent]
  rfl

/-- Commands with distinct hashes can be registered. -/
theorem handleAll_of_distinct {items : List (Str × Handler κ ans)} {handlers : Handlers κ ans}
    (fresh : ∀ item ∈ items, hash item.1 ∉ handlers)
    (distinct : (items.map fun item => hash item.1).Nodup) : (handleAll hash items handlers).isSome := by
  induction items generalizing handlers with
  | nil => rfl
  | cons item rest ih =>
    obtain ⟨new, later⟩ := List.nodup_cons.1 distinct
    rw [handleAll, handle, if_neg (fresh item (by simp)), Option.bind_some]
    apply ih _ later
    intro other member
    have unlike : hash other.1 ≠ hash item.1 := by
      intro same
      exact new (List.mem_map.2 ⟨other, member, same⟩)
    rw [AList.mem_insert, not_or]
    exact ⟨unlike, fresh other (by simp [member])⟩

/-- Commands that can be registered have distinct hashes. -/
theorem distinct_of_handleAll {items : List (Str × Handler κ ans)} {handlers handlers' : Handlers κ ans}
    (h : handleAll hash items handlers = some handlers') :
    (∀ item ∈ items, hash item.1 ∉ handlers) ∧ (items.map fun item => hash item.1).Nodup := by
  induction items generalizing handlers with
  | nil => exact ⟨nofun, List.nodup_nil⟩
  | cons item rest ih =>
    obtain ⟨m, first, later⟩ := Option.bind_eq_some_iff.1 h
    obtain ⟨fresh, rfl⟩ := handle_some first
    obtain ⟨absent, distinct⟩ := ih later
    constructor
    · intro other member
      rcases List.mem_cons.1 member with rfl | more
      · exact fresh
      · exact fun present => absent other more ((AList.mem_insert _).2 (Or.inr present))
    · refine List.nodup_cons.2 ⟨fun same => ?_, distinct⟩
      obtain ⟨other, more, hash_eq⟩ := List.mem_map.1 same
      exact absent other more ((AList.mem_insert _).2 (Or.inl hash_eq))

/-! ## What a handler takes -/

/-- A handler that takes an `M` is registered for the command. -/
def Takes (J : Nlohmann) (hash : Str → Nat) (handlers : Handlers κ ans) (cmd : Str) (M : Type) [Message M] : Prop :=
  (∃ (Resp : Type) (_ : Reply Resp) (f : ClientCookies → M → Program κ ans (Option Resp)),
    handlers.lookup (hash cmd) = some (wrapper3 J f)) ∨
  ∃ f : ClientCookies → M → Program κ ans (Option Unit), handlers.lookup (hash cmd) = some (wrapper2 J f)

theorem takes_reply {J : Nlohmann} {items : List (Str × Handler κ ans)} {handlers : Handlers κ ans}
    (registered : handleAll hash items ∅ = some handlers)
    {cmd : Str} {M : Type} [Message M] {f : ClientCookies → M → Program κ ans (Option Unit)}
    (member : (cmd, wrapper2 J f) ∈ items) : Takes J hash handlers cmd M :=
  Or.inr ⟨f, lookup_handleAll registered member⟩

theorem takes_request {J : Nlohmann} {items : List (Str × Handler κ ans)} {handlers : Handlers κ ans}
    (registered : handleAll hash items ∅ = some handlers)
    {cmd : Str} {M Resp : Type} [Message M] [Reply Resp] {f : ClientCookies → M → Program κ ans (Option Resp)}
    (member : (cmd, wrapper3 J f) ∈ items) : Takes J hash handlers cmd M :=
  Or.inl ⟨Resp, _, f, lookup_handleAll registered member⟩

/-- What a handler cannot decode changes nothing. -/
theorem dispatch_undecoded {J : Nlohmann} {handlers : Handlers κ ans} {cmd : Str} {M : Type} [Message M]
    (takes : Takes J hash handlers cmd M) {input : Buffer} (undecoded : packerFrom J M input = none)
    (cookies : ClientCookies) : dispatch hash handlers cmd cookies input = .done ⟨false, cmd, []⟩ := by
  rcases takes with ⟨Resp, _, f, found⟩ | ⟨f, found⟩
  · rw [dispatch_of_lookup found, wrapper3_of_undecoded undecoded]
  · rw [dispatch_of_lookup found]
    simp only [wrapper2, undecoded, Program.pure_eq]

end

end Gologin.Tcp
