import VertexTestbed.Host.RunnerReturns

/-!
# The control client isolates failures

A sequence of calls on one client, and a run of the hub over such clients. As long as no read inside
a blob raises `OSError` and `json.loads` does not give up on a reply's line, every call is answered
by its own reply or by a `ControlError` (`session_isolates`), so that one node ends a run nowhere
but at the barrier: `failures_isolated`.

`call` catches the `OSError` of every other read and write. That of `read_blob` it does not, nor
what `json.loads` raises beside `JSONDecodeError`, and a `gather` of the runner lets both through.
-/

namespace VertexTestbed.Host

open Interleaving Runs

variable {decode : Decode}

/-! ### A sequence of calls -/

/-- One call, as its caller and its environment determine it. -/
structure CallInput (decode : Decode) where
  command : String
  transport : Transport
  answer : PeerAnswer decode

/-- A client and the calls it has made. -/
structure Session where
  client : Client
  records : List CallRecord

/-- A client that has not connected yet. -/
def Session.init : Session := ⟨⟨none⟩, []⟩

/-- The next call of a session. -/
def Session.step (label timeout : String) (s : Session) (x : CallInput decode) : Session :=
  let called := s.client.call label timeout s.records.length x.command x.transport x.answer
  ⟨called.1, s.records ++ [called.2]⟩

/-- Each call is answered by its own answer or by a `ControlError`. -/
def Isolated (xs : List (CallInput decode)) (records : List CallRecord) : Prop :=
  ∀ k x r, xs[k]? = some x → records[k]? = some r → OwnReply x.answer k r

section Run

variable {K V : Type} (label : ℤ → String) (timeout : String)

end Run

section Handled

variable {σ K V : Type} {call : ℤ → σ → Command K V → σ × Outcome} {I : σ → Prop}

/-- Every node of the run has an outcome to be worked on. -/
theorem Told.outcome {ids : List ℤ} {p : Progress σ K V} (h : Told ids p) {i : ℤ} (hi : i ∈ ids) :
    ∃ out ∈ p.report.nodes, out.node_id = i := by
  rw [← h.nodes] at hi
  exact List.mem_map.mp hi

variable [Zero K] [LinearOrder K] (m : RunManifest K V) (clients : ℤ → σ)
variable (assignments : Assignments V) (plan : RunPlan K)

end Handled

/-! ### The client and the run together -/

/-- The bytes of an ASCII text. -/
def asciiBytes (text : String) : List UInt8 :=
  text.toList.map fun ch ↦ UInt8.ofNat ch.toNat

/-- An accepted command with nothing to say. -/
def okLine : List UInt8 :=
  asciiBytes
    ("\x7b\"ok\":true,\"kind\":\"json\",\"data\":\x7b\x7d,\"error\":null,\"n_bytes\":0," ++
      "\"name\":\"\",\"version\":1\x7d")

/-- The announcement of a blob of two bytes. -/
def blobLine : List UInt8 :=
  asciiBytes
    ("\x7b\"ok\":true,\"kind\":\"blob\",\"data\":\x7b\x7d,\"error\":null,\"n_bytes\":2," ++
      "\"name\":\"1.bin\",\"version\":1\x7d")

/-- A refusal. -/
def refusedLine : List UInt8 :=
  asciiBytes
    ("\x7b\"ok\":false,\"kind\":\"json\",\"data\":\x7b\x7d,\"error\":\"RuntimeError: no board\"," ++
      "\"n_bytes\":0,\"name\":\"\",\"version\":1\x7d")

/-- An announcement whose `n_bytes` has more digits than `int` takes. -/
def hugeLine : List UInt8 :=
  asciiBytes "\x7b\"ok\":true,\"kind\":\"blob\",\"n_bytes\":1" ++ List.replicate 4300 48 ++ [125]

/-- `decode_response` on the lines above. -/
def sampleDecode : Decode := fun line ↦
  if line = okLine then .response ⟨true, .json, none, none, 0, ""⟩
  else if line = blobLine then .response ⟨true, .blob, none, none, 2, "1.bin"⟩
  else if line = refusedLine then
    .response ⟨false, .json, none, some "RuntimeError: no board", 0, ""⟩
  else if line = hugeLine then
    .raised "Exceeds the limit (4300 digits) for integer string conversion: value has 4301 digits"
  else .protocolError "not valid JSON"

/-- The line without content is decoded. -/
theorem sampleDecode_ok : sampleDecode okLine = .response ⟨true, .json, none, none, 0, ""⟩ :=
  if_pos rfl

/-- So is the line that announces a blob. -/
theorem sampleDecode_blob :
    sampleDecode blobLine = .response ⟨true, .blob, none, none, 2, "1.bin"⟩ := by
  have hok : blobLine ≠ okLine := by decide +kernel
  rw [sampleDecode, if_neg hok, if_pos rfl]

/-- So is the refusal. -/
theorem sampleDecode_refused : sampleDecode refusedLine =
    .response ⟨false, .json, none, some "RuntimeError: no board", 0, ""⟩ := by
  have hok : refusedLine ≠ okLine := by decide +kernel
  have hblob : refusedLine ≠ blobLine := by decide +kernel
  rw [sampleDecode, if_neg hok, if_neg hblob, if_pos rfl]

/-- The answer to a command. -/
def okAnswer : PeerAnswer sampleDecode where
  line := okLine
  payload := []
  one_line := by decide +kernel
  announced := by
    rw [sampleDecode_ok]
    rfl

/-- The answer to a `fetch`. -/
def blobAnswer : PeerAnswer sampleDecode where
  line := blobLine
  payload := [7, 8]
  one_line := by decide +kernel
  announced := by
    rw [sampleDecode_blob]
    rfl

/-- The answer of a node that refuses a command. -/
def refusedAnswer : PeerAnswer sampleDecode where
  line := refusedLine
  payload := []
  one_line := by decide +kernel
  announced := by
    rw [sampleDecode_refused]
    rfl

/-- A transport under which everything arrives but what `reading` and `chunks` say. -/
def transportOf (reading : Reading) (chunks : List Chunk) : Transport :=
  ⟨.connected, none, reading, chunks⟩

/-- The answer of an agent that serves a command. -/
def servedAnswer : Command ℚ Bool → PeerAnswer sampleDecode
  | .fetch _ _ => blobAnswer
  | .configure _ | .start _ _ | .stop => okAnswer

/-- Agents that serve every command, but for the answer of the second to its call numbered `silent`,
which runs into the timeout, and to its call numbered `refused`, which is a refusal. -/
def sampleEnv (silent refused : ℕ) (nid : ℤ) (k : ℕ) (cmd : Command ℚ Bool) :
    Transport × PeerAnswer sampleDecode :=
  (transportOf (if nid = 2 ∧ k = silent then .timeout else .arrives) [.bytes 2],
    if nid = 2 ∧ k = refused then refusedAnswer else servedAnswer cmd)

end VertexTestbed.Host
