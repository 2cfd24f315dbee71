import VertexTestbed.Lib.JsonText
import VertexTestbed.Lib.LittleEndian

/-!
# Messages of the control plane

`control/protocol.py`: a request or a response is one JSON object on one line. `encode_request` and
`encode_response` write the line with its newline; `decode_request` and `decode_response` read it
without.

A line that is no message is a `ProtocolError`, but for one that `json.loads` gives up on: `_parse`
catches `JSONReadError`, and the plain `ValueError` of an integer with too many digits goes past it
(`ReadError`).

Left out, beside what `loads` leaves out: the conversions by which pydantic takes a value of another
type for a field (a version or a length that is `1.0`, `true` or `"1"`, which is an invalid message
here), and the texts that end a `ProtocolError`.

* `headerLine_printable`: a line is printable ASCII, so it has no newline of its own;
* `decode_request_headerLine`, `decode_response_headerLine`: a line of this build's that is not
  longer than `MAX_LINE` is decoded as the message it was written from;
* `decode_of_long`: every longer line is refused.
-/

namespace VertexTestbed.Control

open JsonText

/-- `PROTOCOL_VERSION`. -/
def PROTOCOL_VERSION : ℤ := 1

/-- `MAX_LINE`: `1 << 20`. -/
def MAX_LINE : ℕ := 1048576

/-- `ProtocolError`, by what it says. -/
inductive ProtocolError where
  /-- `stream ended mid-message` -/
  | endedMidMessage
  /-- `header line exceeds {MAX_LINE} bytes` -/
  | headerExceeds
  /-- `header line of {n} bytes exceeds {MAX_LINE}` -/
  | headerLong (n : ℕ)
  /-- `not valid JSON: …` -/
  | notJson
  /-- `expected a JSON object, got {type}` -/
  | notObject (type : String)
  /-- `protocol version … but this build speaks {PROTOCOL_VERSION}; …` -/
  | version
  /-- `invalid request: …` -/
  | invalidRequest
  /-- `invalid response: …` -/
  | invalidResponse
  /-- `expected {n_bytes} bytes, connection closed after {done}` -/
  | closedAfter (n_bytes : ℤ) (done : ℕ)
  deriving DecidableEq, Repr

/-- What reading a message raises. -/
inductive ReadError where
  | protocol (e : ProtocolError)
  /-- `ValueError` of `json.loads`, which `_parse` does not catch. -/
  | valueError
  deriving DecidableEq, Repr

/-! ### The two models -/

/-- `Command`. -/
inductive Command where
  | status
  | configure
  | start
  | stop
  | list_runs
  | fetch
  deriving DecidableEq, Repr

/-- The value of a command. -/
def Command.name : Command → String
  | status => "status"
  | configure => "configure"
  | start => "start"
  | stop => "stop"
  | list_runs => "list_runs"
  | fetch => "fetch"

/-- `kind`: whether raw bytes follow the line. -/
inductive Kind where
  | json
  | blob
  deriving DecidableEq, Repr

/-- The value of a kind. -/
def Kind.name : Kind → String
  | json => "json"
  | blob => "blob"

variable {K : Type}

/-- `Request`. -/
structure Request (K : Type) where
  command : Command
  args : List (String × Json K)
  version : ℤ

/-- `Response`. -/
structure Response (K : Type) where
  ok : Bool
  kind : Kind
  data : List (String × Json K)
  error : Option String
  n_bytes : ℤ
  name : String
  version : ℤ

/-- `Request(command=command, args=args)`. -/
def request (command : Command) (args : List (String × Json K)) : Request K :=
  ⟨command, args, PROTOCOL_VERSION⟩

/-- `ok(**data)`. -/
def ok (data : List (String × Json K)) : Response K :=
  ⟨true, .json, data, none, 0, "", PROTOCOL_VERSION⟩

/-- `fail(error)`. -/
def fail (error : String) : Response K :=
  ⟨false, .json, [], some error, 0, "", PROTOCOL_VERSION⟩

/-! ### Their JSON -/

/-- A command is read off its name. -/
theorem Command.name_injective : Function.Injective Command.name := by
  intro a b h
  cases a <;> cases b <;> first | rfl | exact absurd h (by decide)

/-- A kind is read off its name. -/
theorem Kind.name_injective : Function.Injective Kind.name := by
  intro a b h
  cases a <;> cases b <;> first | rfl | exact absurd h (by decide)

/-- A command on the wire. -/
def commandCodec : JsonCodec K Command :=
  .literal Command.name [.status, .configure, .start, .stop, .list_runs, .fetch]
    (fun c ↦ by cases c <;> decide) Command.name_injective

/-- A kind on the wire. -/
def kindCodec : JsonCodec K Kind :=
  .literal Kind.name [.json, .blob] (fun k ↦ by cases k <;> decide) Kind.name_injective

/-- The fields of `Request`, with their defaults. -/
def Request.fields : Fields K (Request K) (Request K) :=
  Fields.build Request.mk
    |>.field "command" commandCodec Request.command none
    |>.field "args" .anyDict Request.args (some [])
    |>.field "version" .int Request.version (some PROTOCOL_VERSION)

/-- `Request` on the wire. -/
def Request.codec : JsonCodec K (Request K) :=
  Request.fields.record (by simp [Request.fields]) fun _ ↦ rfl

/-- The fields of `Response`, with their defaults. -/
def Response.fields : Fields K (Response K) (Response K) :=
  Fields.build Response.mk
    |>.field "ok" .bool Response.ok none
    |>.field "kind" kindCodec Response.kind (some .json)
    |>.field "data" .anyDict Response.data (some [])
    |>.optional "error" .str Response.error
    |>.field "n_bytes" .int Response.n_bytes (some 0)
    |>.field "name" .str Response.name (some "")
    |>.field "version" .int Response.version (some PROTOCOL_VERSION)

/-- `Response` on the wire. -/
def Response.codec : JsonCodec K (Response K) :=
  Response.fields.record (by simp [Response.fields]) fun _ ↦ rfl

/-! ### Bytes of a text -/

/-- `str.encode()`. -/
def encodeText (text : List Char) : Bytes :=
  text.flatMap String.utf8EncodeChar

/-- `bytes.decode("utf-8")`. -/
def decodeText (b : Bytes) : Option (List Char) :=
  b.toByteArray.utf8Decode?.map Array.toList

/-- Text survives UTF-8. -/
theorem decodeText_encodeText (text : List Char) : decodeText (encodeText text) = some text := by
  have hbytes : (encodeText text).toByteArray = text.utf8Encode := rfl
  rw [decodeText, hbytes, List.utf8Decode?_utf8Encode]
  rfl

/-- A printable character is one byte. -/
theorem utf8EncodeChar_of_printable {c : Char} (h : Printable c) :
    String.utf8EncodeChar c = [c.toUInt8] := by
  have hval : c.val ≤ 127 := by
    rw [UInt32.le_iff_toNat_le]
    exact le_trans h.2 (by decide)
  have hsize : c.utf8Size = 1 := Char.utf8Size_eq_one_iff.2 hval
  exact String.utf8EncodeChar_eq_singleton hsize

/-- A printable text takes a byte a character. -/
theorem encodeText_of_printable {text : List Char} (h : ∀ c ∈ text, Printable c) :
    encodeText text = text.map Char.toUInt8 := by
  induction text with
  | nil => rfl
  | cons c text ih =>
    rw [encodeText, List.flatMap_cons, utf8EncodeChar_of_printable (h c List.mem_cons_self)]
    rw [encodeText] at ih
    rw [ih fun d hd ↦ h d (List.mem_cons_of_mem c hd)]
    rfl

/-- Printable text has no newline. -/
theorem newline_notMem_encodeText {text : List Char} (h : ∀ c ∈ text, Printable c) :
    10 ∉ encodeText text := by
  rw [encodeText_of_printable h, List.mem_map]
  rintro ⟨c, hc, hbyte⟩
  have hprint := h c hc
  have hnat : c.toUInt8.toNat = c.toNat % 256 := rfl
  rw [hbyte] at hnat
  have hten : (10 : UInt8).toNat = 10 := rfl
  have := hprint.1
  have := hprint.2
  omega

/-! ### Encoding -/

variable (F : NumberText K)

/-- The line of a message, without its newline. -/
def headerLine (j : Json K) : Bytes :=
  encodeText (dump F j)

/-- `encode_request`. -/
def encode_request (req : Request K) : Bytes :=
  encodeText (dump F (Request.codec.dump false req) ++ ['\n'])

/-- `encode_response`. -/
def encode_response (resp : Response K) : Bytes :=
  encodeText (dump F (Response.codec.dump false resp) ++ ['\n'])

/-! ### Decoding -/

section Decode

variable [DecidableEq K] [IntCast K]

/-- `type(obj).__name__`. -/
def typeName : Json K → String
  | .null => "NoneType"
  | .bool _ => "bool"
  | .int _ => "int"
  | .num _ => "float"
  | .str _ => "str"
  | .arr _ => "list"
  | .obj _ => "dict"

/-- `_parse`. -/
def parse (line : Bytes) : Except ReadError (List (String × Json K)) :=
  if MAX_LINE < line.length then .error (.protocol (.headerLong line.length))
  else
    match decodeText line with
    | none => .error (.protocol .notJson)
    | some text =>
      match loads F text with
      | .error .decode => .error (.protocol .notJson)
      | .error .digits => .error .valueError
      | .ok (.obj d) => .ok d
      | .ok j => .error (.protocol (.notObject (typeName j)))

/-- Whether a value is `PROTOCOL_VERSION`, as Python compares numbers. -/
def isVersion : Json K → Bool
  | .int n => n = PROTOCOL_VERSION
  | .num x => x = (PROTOCOL_VERSION : K)
  | .bool b => b
  | _ => false

/-- `_check_version`. -/
def checkVersion (d : List (String × Json K)) : Except ReadError Unit :=
  if isVersion ((d.lookup "version").getD (.int PROTOCOL_VERSION)) then .ok ()
  else .error (.protocol .version)

/-- `decode_request`. -/
def decode_request (line : Bytes) : Except ReadError (Request K) := do
  let d ← parse F line
  checkVersion d
  match Request.codec.validate (.obj d) with
  | some req => .ok req
  | none => .error (.protocol .invalidRequest)

/-- `decode_response`. -/
def decode_response (line : Bytes) : Except ReadError (Response K) := do
  let d ← parse F line
  checkVersion d
  match Response.codec.validate (.obj d) with
  | some resp => .ok resp
  | none => .error (.protocol .invalidResponse)

end Decode

/-! ### What can be sent -/

/-- A request that this build makes: its version, arguments that are JSON, and numbers that are read
back. -/
structure Request.Valid (req : Request K) : Prop where
  version : req.version = PROTOCOL_VERSION
  args : JsonText.Valid F (.obj req.args)

/-- A response that this build makes. -/
structure Response.Valid (resp : Response K) : Prop where
  version : resp.version = PROTOCOL_VERSION
  data : JsonText.Valid F (.obj resp.data)
  n_bytes : F.Converts resp.n_bytes

variable {F}

theorem Request.keys_nodup : ["command", "args", "version"].Nodup := by decide

theorem Response.keys_nodup :
    ["ok", "kind", "data", "error", "n_bytes", "name", "version"].Nodup := by
  decide

/-- The version is short enough for any limit on digits. -/
theorem converts_version {version : ℤ} (h : version = PROTOCOL_VERSION) : F.Converts version := by
  rw [h]
  exact F.converts_of_short (by decide)

/-- A valid request is a value that is read back. -/
theorem Request.Valid.dump {req : Request K} (h : req.Valid F) :
    JsonText.Valid F (Request.codec.dump false req) :=
  ⟨Request.keys_nodup, trivial, h.args, converts_version h.version, trivial⟩

/-- A valid response is a value that is read back. -/
theorem Response.Valid.dump {resp : Response K} (h : resp.Valid F) :
    JsonText.Valid F (Response.codec.dump false resp) := by
  obtain ⟨ok, kind, data, error, n_bytes, name, version⟩ := resp
  cases error with
  | none =>
    exact ⟨Response.keys_nodup, trivial, trivial, h.data, trivial, h.n_bytes, trivial,
      converts_version h.version, trivial⟩
  | some e =>
    exact ⟨Response.keys_nodup, trivial, trivial, h.data, trivial, h.n_bytes, trivial,
      converts_version h.version, trivial⟩

theorem headerLine_printable {j : Json K} (h : JsonText.Valid F j) : 10 ∉ headerLine F j :=
  newline_notMem_encodeText (printable_dump F j h)

theorem encodeText_line (text : List Char) :
    encodeText (text ++ ['\n']) = encodeText text ++ [10] := by
  rw [encodeText, List.flatMap_append]
  rfl

/-- A request is its line and a newline. -/
theorem encode_request_eq (req : Request K) :
    encode_request F req = headerLine F (Request.codec.dump false req) ++ [10] :=
  encodeText_line _

/-- A response is its line and a newline. -/
theorem encode_response_eq (resp : Response K) :
    encode_response F resp = headerLine F (Response.codec.dump false resp) ++ [10] :=
  encodeText_line _

/-- **A line of this build's that is not too long is read back as its object.** -/
theorem parse_headerLine {d : List (String × Json K)} (h : JsonText.Valid F (.obj d))
    (hlength : (headerLine F (.obj d)).length ≤ MAX_LINE) :
    parse F (headerLine F (.obj d)) = .ok d := by
  rw [parse, if_neg (by omega), headerLine, decodeText_encodeText]
  dsimp only
  rw [loads_dump F h]

variable [DecidableEq K] [IntCast K]

/-- This build speaks its own version. -/
theorem checkVersion_of_lookup {d : List (String × Json K)}
    (h : d.lookup "version" = some (.int PROTOCOL_VERSION)) : checkVersion d = .ok () := by
  rw [checkVersion, h]
  rfl

/-- **A request is decoded from its line.** -/
theorem decode_request_headerLine {req : Request K} (h : req.Valid F)
    (hlength : (headerLine F (Request.codec.dump false req)).length ≤ MAX_LINE) :
    decode_request F (headerLine F (Request.codec.dump false req)) = .ok req := by
  have hparse := parse_headerLine (F := F) (d := Request.fields.dump false req) h.dump hlength
  have hversion : checkVersion (Request.fields.dump false req) = .ok () :=
    checkVersion_of_lookup (by rw [← h.version]; rfl)
  have hvalidate : Request.codec.validate (.obj (Request.fields.dump false req)) = some req :=
    Request.codec.validate_dump false req
  show decode_request F (headerLine F (.obj (Request.fields.dump false req))) = .ok req
  simp only [decode_request, hparse, hversion, hvalidate, bind, Except.bind]

/-- **A response is decoded from its line.** -/
theorem decode_response_headerLine {resp : Response K} (h : resp.Valid F)
    (hlength : (headerLine F (Response.codec.dump false resp)).length ≤ MAX_LINE) :
    decode_response F (headerLine F (Response.codec.dump false resp)) = .ok resp := by
  have hparse := parse_headerLine (F := F) (d := Response.fields.dump false resp) h.dump hlength
  have hversion : checkVersion (Response.fields.dump false resp) = .ok () := by
    refine checkVersion_of_lookup ?_
    rw [← h.version]
    obtain ⟨ok, kind, data, error, n_bytes, name, version⟩ := resp
    cases error <;> rfl
  have hvalidate : Response.codec.validate (.obj (Response.fields.dump false resp)) = some resp :=
    Response.codec.validate_dump false resp
  show decode_response F (headerLine F (.obj (Response.fields.dump false resp))) = .ok resp
  simp only [decode_response, hparse, hversion, hvalidate, bind, Except.bind]

/-- **A line that is too long is refused**, whatever is on it. -/
theorem decode_of_long {line : Bytes} (h : MAX_LINE < line.length) :
    decode_request F line = .error (.protocol (.headerLong line.length)) ∧
      decode_response F line = .error (.protocol (.headerLong line.length)) := by
  have hparse : parse F line = .error (.protocol (.headerLong line.length)) := if_pos h
  rw [decode_request, decode_response, hparse]
  exact ⟨rfl, rfl⟩

end VertexTestbed.Control
