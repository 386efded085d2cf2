import Gologin.Core.Types
import Gologin.Lib.Tables

/-!
# `nlohmann::json`, as far as the program uses it

The library is not part of the sources: `Nlohmann` is what the packer calls of it, with
the documented behaviour it relies on. Objects are compared through their members, so
the order in which the library keeps the keys plays no part.
-/

namespace Gologin.Messages
set_option autoImplicit false
open Tables

/-- A member of an object. The messages only have unsigned numbers and strings; `number`
is any other number with what `get<std::uint64_t>()` converts it to. -/
inductive Value where
  | unsigned (n : UInt64)
  | number (converted : UInt64)
  | string (s : Str)
  | other
  deriving DecidableEq, Repr

/-- A JSON object. -/
abbrev Object : Type := Table Str Value

/-- A JSON value, told apart as far as `contains` and `at` do. -/
inductive Json where
  | object (members : Object)
  | other

/-- `contains` and `at`: a value that is not an object contains nothing. -/
def Json.find (key : Str) : Json → Option Value
  | .object members => members.lookup key
  | .other => none

/-- `get<std::uint64_t>()`, `none` when it throws. -/
def Value.getUInt64 : Value → Option UInt64
  | .unsigned n => some n
  | .number converted => some converted
  | .string _ => none
  | .other => none

/-- `get<std::string>()`. -/
def Value.getString : Value → Option Str
  | .string s => some s
  | _ => none

/-- The members a message writes: unsigned numbers and strings. -/
def Object.Plain (o : Object) : Prop :=
  ∀ k v, o.lookup k = some v → (∃ n, v = .unsigned n) ∨ ∃ s, v = .string s

/-- Every key and every string is UTF-8. -/
def Object.Utf8 (o : Object) : Prop :=
  ∀ k v, o.lookup k = some v → Utf8.valid k = true ∧ ∀ s, v = .string s → Utf8.valid s = true

/-- What the packer calls of `nlohmann::json`; `none` is an exception. `dump` throws on a
string that is not UTF-8, and otherwise `parse` undoes it (an object that no member was
assigned to is `null`); `parse` refuses a text with a string that is not UTF-8. -/
structure Nlohmann where
  parse : Buffer → Option Json
  dump : Object → Option Buffer
  dump_iff : ∀ o : Object, o.Plain → ((dump o).isSome ↔ o.Utf8)
  dump_ne_nil : ∀ o b, dump o = some b → b ≠ []
  parse_dump : ∀ (o : Object) b, o.Plain → dump o = some b → ∃ j : Json,
    parse b = some j ∧ ∀ k, j.find k = o.lookup k
  parse_utf8 : ∀ b o, parse b = some (.object o) → o.Utf8

end Gologin.Messages
