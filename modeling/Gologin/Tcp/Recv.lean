import Gologin.Tcp.Packet
import Gologin.Lib.Segments

/-!
# Receiving

`server_client::recv` of `tcp/server/server.cpp` and `client::recv` of
`tcp/client/client.cpp`. Each makes one `::recv` for the header and one for the body.
The header variable of the caller is not initialised, so what it held before the call is
an argument. `call` is `::recv` on the socket; it gives `none` when it does not return.
-/

namespace Gologin.Tcp
set_option autoImplicit false

/-- The errors `server_client::recv` tells apart; `zero` is an error value of 0. -/
inductive Errno where
  | zero
  | eagain
  | etimedout
  | econnreset
  | epipe
  | other
  deriving DecidableEq, Repr

/-- What one `::recv` gives: data, `0`, or `-1` with the error and whether the
`::ioctlsocket` after it succeeds. -/
inductive RecvResult where
  | data (got : List UInt8)
  | closed
  | failed (error : Errno) (ioctl : Bool)
  deriving DecidableEq, Repr

/-- How a `recv` method ends: `true` with a header and a body, or `false` after a number
of `disconnect()` calls. -/
inductive RecvReturn where
  | packet (header : PacketHeader) (buff : Buffer)
  | refused (disconnects : Nat)
  deriving DecidableEq, Repr

/-- Whether a body is to be read, after the header's `::recv`. -/
inductive HeaderRead where
  | body (header : PacketHeader)
  | refused (disconnects : Nat)
  deriving DecidableEq, Repr

/-- `if(!_header.size) return false;` -/
def checkSize (header : PacketHeader) : HeaderRead :=
  if header.size = 0 then .refused 0 else .body header

/-- The body read into a buffer resized to `size`. -/
def bodyRead (size : Nat) : RecvResult → Option Buffer
  | .data got => some (got ++ List.replicate (size - got.length) 0)
  | .closed => some (List.replicate size 0)
  | .failed _ _ => none

section
variable {τ : Type} (headerRead : PacketHeader → RecvResult → HeaderRead)
  (call : Nat → τ → Option (RecvResult × τ))

/-- A `recv` method: one `::recv` for the header, and one for the body when `headerRead`
asks for it. -/
def recvWith (header : PacketHeader) (t : τ) : Option (RecvReturn × τ) :=
  (call sizeofHeader t).bind fun (res, t) =>
    match headerRead header res with
    | .refused disconnects => some (.refused disconnects, t)
    | .body header =>
      (call header.size t).map fun (res, t) =>
        match bodyRead header.size res with
        | some buff => (.packet header buff, t)
        | none => (.refused 0, t)

/-- What the stack holds where an iteration of a receive loop has its `_header`, and
behind it. -/
structure Stack where
  header : PacketHeader
  beyond : List UInt8
  deriving DecidableEq, Repr

/-- A command and a body, as handed to the dispatcher or to `create_packet`. -/
structure Packet where
  cmd : Str
  body : Buffer
  deriving DecidableEq, Repr

/-- The packets that `n` iterations of a receive loop dispatch, the first of them the
`k`-th; `goesOn` tells whether the loop goes on after a `recv` that refuses. -/
def loopWith (goesOn : Bool) (stack : Nat → Stack) : Nat → Nat → τ → List Packet
  | 0, _, _ => []
  | n + 1, k, t =>
    match recvWith headerRead call (stack k).header t with
    | none => []
    | some (.refused _, t) => if goesOn then loopWith goesOn stack n (k + 1) t else []
    | some (.packet header buff, t) =>
      ⟨header.command (stack k).beyond, buff⟩ :: loopWith goesOn stack n (k + 1) t

end

namespace ServerClient

/-- `server_client::recv` up to the size check. An error that is not 0 or `EAGAIN` falls
through to the `default` of the switch, after a first `disconnect()` for three of them. -/
def headerRead (header : PacketHeader) : RecvResult → HeaderRead
  | .data got => checkSize (header.fill got)
  | .closed => .refused 1
  | .failed error ioctl =>
    if ioctl = false then .refused 0
    else
      match error with
      | .zero => checkSize header
      | .eagain => .refused 0
      | .etimedout => .refused 2
      | .econnreset => .refused 2
      | .epipe => .refused 2
      | .other => .refused 1

/-- `server_client::recv`. -/
def recv {τ : Type} : (Nat → τ → Option (RecvResult × τ)) → PacketHeader → τ → Option (RecvReturn × τ) :=
  recvWith headerRead

/-- The loop of `server::client_handler`, which ends at a `recv` that refuses. -/
def loop {τ : Type} (call : Nat → τ → Option (RecvResult × τ)) : (Nat → Stack) → Nat → Nat → τ → List Packet :=
  loopWith headerRead call false

end ServerClient

namespace Client

/-- `client::recv` up to the size check: only a result of 0 is told apart. -/
def headerRead (header : PacketHeader) : RecvResult → HeaderRead
  | .data got => checkSize (header.fill got)
  | .closed => .refused 0
  | .failed _ _ => checkSize header

/-- `client::recv`. -/
def recv {τ : Type} : (Nat → τ → Option (RecvResult × τ)) → PacketHeader → τ → Option (RecvReturn × τ) :=
  recvWith headerRead

/-- The loop of the handler thread of `client::connect`, which goes on whatever `recv` says. -/
def loop {τ : Type} (call : Nat → τ → Option (RecvResult × τ)) : (Nat → Stack) → Nat → Nat → τ → List Packet :=
  loopWith headerRead call true

end Client

end Gologin.Tcp
