import VertexTestbed.Lib.ExceptMonad
import VertexTestbed.Lib.StreamReader
import VertexTestbed.Control.Protocol

/-!
# Control messages over a stream

`control/transport.py`: lines and raw payloads share one stream. `read_request` and `read_response`
read a line and decode it, and `read_blob` reads the bytes that a line announced.

Three bounds meet on a line. `MAX_LINE` is what the protocol declares, and what `_parse` checks; the
stream gives up on a line at its own limit, which is asyncio's default on both ends of a connection
(`DEFAULT_LIMIT`), sixteen times less.

What is written is read back, however it is cut into chunks, exactly when every line is within the
limit of the stream (`framing_round_trip_iff`). A list of runs that `MAX_LINE` allows need not be
(`run_list_not_read`).
-/

namespace VertexTestbed.Control

open JsonText

variable {K : Type} (F : NumberText K)

/-! ### Writing -/

/-- `write_request`. -/
def write_request (req : Request K) : Bytes :=
  encode_request F req

/-- `write_response`: the bytes, or what the `ValueError` says. A payload is written after a `blob`
line only. -/
def write_response (resp : Response K) (blob : Option Bytes) : Except String Bytes :=
  match resp.kind with
  | .json => .ok (encode_response F resp)
  | .blob =>
    match blob with
    | none => .error "blob response requires a payload"
    | some b =>
      if resp.n_bytes ≠ b.length then
        .error s!"declared n_bytes={resp.n_bytes} but payload is {b.length}"
      else .ok (encode_response F resp ++ b)

theorem write_response_json {resp : Response K} (h : resp.kind = .json) (blob : Option Bytes) :
    write_response F resp blob = .ok (encode_response F resp) := by
  unfold write_response
  rw [h]

/-! ### Reading -/

/-- `asyncio.streams._DEFAULT_LIMIT`. -/
def DEFAULT_LIMIT : ℕ := 65536

/-- The reader of a connection over which some chunks arrive. `start_server` and `open_connection`
are called without a limit, so that theirs is `DEFAULT_LIMIT`. -/
def openStream (limit : ℕ) (chunks : List Bytes) : StreamReader :=
  ⟨limit, [], chunks⟩

/-- `_read_line`. -/
def readLine (s : StreamReader) : Except ReadError (Option (Bytes × StreamReader)) :=
  match s.readuntil 10 with
  | .ok (line, s) => .ok (some (line.rdropWhile fun b ↦ b = 10, s))
  | .error (.incomplete part) => if part = [] then .ok none else .error (.protocol .endedMidMessage)
  | .error .overrun => .error (.protocol .headerExceeds)

/-- The bytes that `read_blob` asks for at a time, at most. -/
def BLOB_CHUNK : ℕ := 65536

/-- The loop of `read_blob`. Each turn brings a byte, so `n_bytes` turns are enough. -/
def readBlobLoop (n_bytes : ℤ) : ℕ → Bytes → StreamReader →
    Except ReadError (Bytes × StreamReader)
  | 0, buf, s => .ok (buf, s)
  | turns + 1, buf, s =>
    if n_bytes ≤ buf.length then .ok (buf, s)
    else
      match s.read (min BLOB_CHUNK (n_bytes - buf.length).toNat) with
      | (chunk, s) =>
        if chunk = [] then .error (.protocol (.closedAfter n_bytes buf.length))
        else readBlobLoop n_bytes turns (buf ++ chunk) s

/-- `read_blob`, on a link that does not stall. -/
def read_blob (n_bytes : ℤ) (s : StreamReader) : Except ReadError (Bytes × StreamReader) :=
  if n_bytes = 0 then .ok ([], s) else readBlobLoop n_bytes n_bytes.toNat [] s

section Read

variable [DecidableEq K] [IntCast K]

/-- `read_request`. -/
def read_request (s : StreamReader) :
    Except ReadError (Option (Request K × StreamReader)) := do
  match ← readLine s with
  | none => .ok none
  | some (line, s) => do
    let req ← decode_request F line
    .ok (some (req, s))

/-- `read_response`. -/
def read_response (s : StreamReader) :
    Except ReadError (Option (Response K × StreamReader)) := do
  match ← readLine s with
  | none => .ok none
  | some (line, s) => do
    let resp ← decode_response F line
    .ok (some (resp, s))

/-- A response, with the payload that a `blob` line announces. -/
def readReply (s : StreamReader) :
    Except ReadError (Option ((Response K × Option Bytes) × StreamReader)) := do
  match ← read_response F s with
  | none => .ok none
  | some (resp, s) =>
    match resp.kind with
    | .json => .ok (some ((resp, none), s))
    | .blob => do
      let (blob, s) ← read_blob resp.n_bytes s
      .ok (some ((resp, some blob), s))

end Read

/-- One reader after another, until the stream ends. Each takes a byte at least, so that there are
never more turns than bytes. -/
def readTurns {M : Type} (readOne : StreamReader → Except ReadError (Option (M × StreamReader))) :
    ℕ → StreamReader → Except ReadError (List M)
  | 0, _ => .ok []
  | turns + 1, s => do
    match ← readOne s with
    | none => .ok []
    | some (m, s) => do
      let ms ← readTurns readOne turns s
      .ok (m :: ms)

/-- Reading until the stream ends, or an error. -/
def readAll {M : Type} (readOne : StreamReader → Except ReadError (Option (M × StreamReader)))
    (s : StreamReader) : Except ReadError (List M) :=
  readTurns readOne (s.unread.length + 1) s

/-- A reader that raises at once ends there. -/
theorem readAll_of_error {M : Type}
    {readOne : StreamReader → Except ReadError (Option (M × StreamReader))} {s : StreamReader}
    {e : ReadError} (h : readOne s = .error e) : readAll readOne s = .error e := by
  rw [readAll, readTurns, h]
  rfl

/-! ### Lines and payloads read back -/

section Specs

variable {s : StreamReader} {line rest : Bytes}

/-- A line within the stream's limit is read, without its newline. -/
theorem readLine_of_short (hline : 10 ∉ line) (h : s.unread = line ++ 10 :: rest)
    (hlimit : line.length ≤ s.limit) :
    ∃ s', readLine s = .ok (some (line, s')) ∧ s'.unread = rest ∧ s'.limit = s.limit := by
  obtain ⟨s', hread, hunread, hlimit'⟩ := StreamReader.readuntil_of_short hline h hlimit
  have hstrip : (line ++ [10]).rdropWhile (fun b : UInt8 ↦ b = 10) = line := by
    rw [List.rdropWhile_concat_pos _ _ _ (by rfl), List.rdropWhile_eq_self_iff]
    intro hne hlast
    refine hline ?_
    rw [← of_decide_eq_true hlast]
    exact List.getLast_mem hne
  refine ⟨s', ?_, hunread, hlimit'⟩
  rw [readLine, hread]
  simp only [hstrip]

/-- A line beyond it is refused, whatever `MAX_LINE` says. -/
theorem readLine_of_long (hline : 10 ∉ line) (h : s.unread = line ++ 10 :: rest)
    (hlimit : s.limit < line.length) : readLine s = .error (.protocol .headerExceeds) := by
  rw [readLine, StreamReader.readuntil_of_long hline h hlimit]

/-- A stream that has ended between lines is no error. -/
theorem readLine_nil (h : s.unread = []) : readLine s = .ok none := by
  rw [readLine, StreamReader.readuntil_nil h]
  rfl

/-- What a read takes of a payload and what follows it, when it takes no more than the payload. -/
theorem exists_append_of_le {missing chunk later : Bytes} (h : missing ++ rest = chunk ++ later)
    (hlength : chunk.length ≤ missing.length) : ∃ left, missing = chunk ++ left := by
  have hpre : chunk <+: missing ++ rest := ⟨later, h.symm⟩
  obtain ⟨left, hleft⟩ :=
    List.prefix_of_prefix_length_le hpre (List.prefix_append missing rest) hlength
  exact ⟨left, hleft.symm⟩

/-- **The loop reads what is missing** and leaves what follows. -/
theorem readBlobLoop_spec {missing buf : Bytes} {turns : ℕ} {n_bytes : ℤ}
    (hn : n_bytes = buf.length + missing.length) (hturns : missing.length ≤ turns)
    (h : s.unread = missing ++ rest) :
    ∃ s', readBlobLoop n_bytes turns buf s = .ok (buf ++ missing, s') ∧ s'.unread = rest ∧
      s'.limit = s.limit := by
  -- On the turns: a read takes at least one byte of what is missing.
  induction turns generalizing missing buf s with
  | zero =>
    obtain rfl : missing = [] := List.eq_nil_of_length_eq_zero (by omega)
    exact ⟨s, by simp [readBlobLoop], by simpa using h, rfl⟩
  | succ turns ih =>
    rcases eq_or_ne missing [] with rfl | hne
    · have hdone : n_bytes ≤ buf.length := by simp [hn]
      exact ⟨s, by simp [readBlobLoop, hdone], by simpa using h, rfl⟩
    · have hpos : 0 < missing.length := List.length_pos_iff.2 hne
      have hwant : (n_bytes - buf.length).toNat = missing.length := by omega
      rcases hread : s.read (min BLOB_CHUNK missing.length) with ⟨chunk, s₁⟩
      obtain ⟨hchunk, hlength, hunread, hlimit⟩ :=
        StreamReader.read_spec (by simp [BLOB_CHUNK, hpos]) (by simp [h, hne]) hread
      obtain ⟨left, rfl⟩ := exists_append_of_le (h.symm.trans hunread)
        (hlength.trans (min_le_right _ _))
      have hleft : s₁.unread = left ++ rest := by
        rw [h, List.append_assoc] at hunread
        exact (List.append_cancel_left hunread).symm
      have hpart : 0 < chunk.length := List.length_pos_iff.2 hchunk
      rw [List.length_append] at hturns hn
      have hn' : n_bytes = (buf ++ chunk).length + left.length := by
        rw [List.length_append]
        omega
      obtain ⟨s', hloop, hunread', hlimit'⟩ := ih hn' (by omega) hleft
      refine ⟨s', ?_, hunread', hlimit'.trans hlimit⟩
      rw [readBlobLoop, if_neg (by omega), hwant, hread]
      simp only [if_neg hchunk, hloop, List.append_assoc]

/-- **A payload is read as it was written.** -/
theorem read_blob_spec {blob : Bytes} {n_bytes : ℤ} (hn : n_bytes = blob.length)
    (h : s.unread = blob ++ rest) :
    ∃ s', read_blob n_bytes s = .ok (blob, s') ∧ s'.unread = rest ∧ s'.limit = s.limit := by
  rw [read_blob]
  split
  · rename_i hzero
    obtain rfl : blob = [] := List.eq_nil_of_length_eq_zero (by omega)
    exact ⟨s, rfl, by simpa using h, rfl⟩
  · have hn' : n_bytes = ([] : Bytes).length + blob.length := by simpa using hn
    have hturns : blob.length ≤ n_bytes.toNat := by omega
    simpa using readBlobLoop_spec hn' hturns h

end Specs

/-! ### A sequence of messages -/

/-- How messages of one kind are laid out on a stream and read off it: a line, and bytes that follow
it. `shown` is what a read returns for a message. -/
structure Framing (M N : Type) where
  Fits : M → Prop
  line : M → Bytes
  payload : M → Bytes
  shown : M → N
  readOne : StreamReader → Except ReadError (Option (N × StreamReader))
  newline_notMem : ∀ m, Fits m → 10 ∉ line m
  read_short : ∀ m s rest, Fits m → s.unread = line m ++ 10 :: (payload m ++ rest) →
    (line m).length ≤ s.limit →
    ∃ s', readOne s = .ok (some (shown m, s')) ∧ s'.unread = rest ∧ s'.limit = s.limit
  read_long : ∀ (l : Bytes) s rest, 10 ∉ l → s.unread = l ++ 10 :: rest → s.limit < l.length →
    readOne s = .error (.protocol .headerExceeds)
  read_nil : ∀ s, s.unread = [] → readOne s = .ok none

namespace Framing

variable {M N : Type} (G : Framing M N)

/-- What is written for one message. -/
def wire (m : M) : Bytes :=
  G.line m ++ 10 :: G.payload m

/-- **Messages are read back exactly when every line is within the stream's limit**, in turns
enough. -/
theorem readTurns_iff {ms : List M} (hfits : ∀ m ∈ ms, G.Fits m) {turns : ℕ}
    (hturns : ms.length < turns) {s : StreamReader} (h : s.unread = ms.flatMap G.wire) :
    readTurns G.readOne turns s = .ok (ms.map G.shown) ↔
      ∀ m ∈ ms, (G.line m).length ≤ s.limit := by
  -- On the messages: the first line beyond the limit ends the reading.
  induction ms generalizing turns s with
  | nil =>
    obtain ⟨turns, rfl⟩ := Nat.exists_eq_add_one_of_ne_zero (Nat.ne_of_gt hturns)
    rw [readTurns, G.read_nil s h]
    simp [bind, Except.bind]
  | cons m ms ih =>
    rw [List.length_cons] at hturns
    obtain ⟨turns, rfl⟩ : ∃ t, turns = t + 1 := ⟨turns - 1, by omega⟩
    have hm := hfits m List.mem_cons_self
    have hms : ∀ m' ∈ ms, G.Fits m' := fun m' hm' ↦ hfits m' (List.mem_cons_of_mem m hm')
    have hwire : s.unread = G.line m ++ 10 :: (G.payload m ++ ms.flatMap G.wire) := by
      rw [h, List.flatMap_cons, wire, List.append_assoc, List.cons_append]
    rw [List.forall_mem_cons]
    rcases Nat.lt_or_ge s.limit (G.line m).length with hlong | hshort
    · rw [readTurns, G.read_long _ s _ (G.newline_notMem m hm) hwire hlong]
      simp only [bind, Except.bind, reduceCtorEq, false_iff]
      intro hall
      omega
    · obtain ⟨s', hread, hunread, hlimit⟩ := G.read_short m s _ hm hwire hshort
      have hrest := ih hms (Nat.lt_of_succ_lt_succ hturns) hunread
      rw [hlimit] at hrest
      rw [readTurns, hread, ← hrest]
      simp only [bind, Except.bind, hshort, true_and, List.map_cons]
      rcases readTurns G.readOne turns s' with e | ns
      · simp
      · simp

/-- What is read without an error is the sequence. -/
theorem readTurns_eq_ok {ms : List M} (hfits : ∀ m ∈ ms, G.Fits m) {turns : ℕ}
    (hturns : ms.length < turns) {s : StreamReader} (h : s.unread = ms.flatMap G.wire) {ns : List N}
    (hread : readTurns G.readOne turns s = .ok ns) : ns = ms.map G.shown := by
  induction ms generalizing turns s ns with
  | nil =>
    obtain ⟨turns, rfl⟩ := Nat.exists_eq_add_one_of_ne_zero (Nat.ne_of_gt hturns)
    rw [readTurns, G.read_nil s h] at hread
    exact (Except.ok.inj hread).symm
  | cons m ms ih =>
    rw [List.length_cons] at hturns
    obtain ⟨turns, rfl⟩ : ∃ t, turns = t + 1 := ⟨turns - 1, by omega⟩
    have hm := hfits m List.mem_cons_self
    have hms : ∀ m' ∈ ms, G.Fits m' := fun m' hm' ↦ hfits m' (List.mem_cons_of_mem m hm')
    have hwire : s.unread = G.line m ++ 10 :: (G.payload m ++ ms.flatMap G.wire) := by
      rw [h, List.flatMap_cons, wire, List.append_assoc, List.cons_append]
    rcases Nat.lt_or_ge s.limit (G.line m).length with hlong | hshort
    · rw [readTurns, G.read_long _ s _ (G.newline_notMem m hm) hwire hlong] at hread
      cases hread
    · obtain ⟨s', hone, hunread, -⟩ := G.read_short m s _ hm hwire hshort
      rw [readTurns, hone] at hread
      have hread : (readTurns G.readOne turns s' >>= fun rest ↦ .ok (G.shown m :: rest)) = .ok ns :=
        hread
      obtain ⟨rest, hrest, hns⟩ := except_bind_eq_ok.1 hread
      rw [← Except.ok.inj hns, ih hms (Nat.lt_of_succ_lt_succ hturns) hunread hrest, List.map_cons]

/-- There are never more messages than bytes. -/
theorem length_lt_readTurns {ms : List M} {s : StreamReader} (h : s.unread = ms.flatMap G.wire) :
    ms.length < s.unread.length + 1 := by
  rw [h, List.length_flatMap]
  have hpos (l : List M) : l.length ≤ (l.map fun m ↦ (G.wire m).length).sum := by
    induction l with
    | nil => simp
    | cons m l ih =>
      simp only [List.map_cons, List.sum_cons, List.length_cons, wire, List.length_append] at ih ⊢
      omega
  exact Nat.lt_succ_of_le (hpos ms)

/-- Nothing else is ever read. -/
theorem readAll_eq_ok {ms : List M} (hfits : ∀ m ∈ ms, G.Fits m) {s : StreamReader}
    (h : s.unread = ms.flatMap G.wire) {ns : List N} (hread : readAll G.readOne s = .ok ns) :
    ns = ms.map G.shown :=
  G.readTurns_eq_ok hfits (G.length_lt_readTurns h) h hread

/-- **A sequence is read back exactly when the stream allows every line of it.** -/
theorem readAll_iff {ms : List M} (hfits : ∀ m ∈ ms, G.Fits m) {s : StreamReader}
    (h : s.unread = ms.flatMap G.wire) :
    readAll G.readOne s = .ok (ms.map G.shown) ↔ ∀ m ∈ ms, (G.line m).length ≤ s.limit :=
  G.readTurns_iff hfits (G.length_lt_readTurns h) h

end Framing

/-! ### Requests and responses -/

/-- The line of a request. -/
def Request.headerLine (req : Request K) : Bytes :=
  Control.headerLine F (Request.codec.dump false req)

/-- The line of a response. -/
def Response.headerLine (resp : Response K) : Bytes :=
  Control.headerLine F (Response.codec.dump false resp)

/-- The payload that is written for a response. -/
def carried (m : Response K × Option Bytes) : Response K × Option Bytes :=
  match m.1.kind with
  | .json => (m.1, none)
  | .blob => m

section Framings

variable [DecidableEq K] [IntCast K]

/-- A request with a line beyond the stream's limit is refused. -/
theorem read_request_of_long {line rest : Bytes} {s : StreamReader} (hline : 10 ∉ line)
    (h : s.unread = line ++ 10 :: rest) (hlimit : s.limit < line.length) :
    read_request F s = .error (.protocol .headerExceeds) := by
  rw [read_request, readLine_of_long hline h hlimit]
  rfl

/-- So is a response. -/
theorem read_response_of_long {line rest : Bytes} {s : StreamReader} (hline : 10 ∉ line)
    (h : s.unread = line ++ 10 :: rest) (hlimit : s.limit < line.length) :
    read_response F s = .error (.protocol .headerExceeds) := by
  rw [read_response, readLine_of_long hline h hlimit]
  rfl

/-- A request of this build's is read back. -/
theorem read_request_headerLine {req : Request K} (hreq : req.Valid F)
    (hlength : (req.headerLine F).length ≤ MAX_LINE) {rest : Bytes} {s : StreamReader}
    (h : s.unread = req.headerLine F ++ 10 :: rest) (hlimit : (req.headerLine F).length ≤ s.limit) :
    ∃ s', read_request F s = .ok (some (req, s')) ∧ s'.unread = rest ∧ s'.limit = s.limit := by
  obtain ⟨s', hread, hunread, hlimit'⟩ :=
    readLine_of_short (headerLine_printable hreq.dump) h hlimit
  refine ⟨s', ?_, hunread, hlimit'⟩
  have hdecode : decode_request F (req.headerLine F) = .ok req :=
    decode_request_headerLine hreq hlength
  simp only [read_request, Request.headerLine] at hdecode ⊢
  simp only [hread, hdecode, bind, Except.bind]

/-- A response of this build's is read back. -/
theorem read_response_headerLine {resp : Response K} (hresp : resp.Valid F)
    (hlength : (resp.headerLine F).length ≤ MAX_LINE) {rest : Bytes} {s : StreamReader}
    (h : s.unread = resp.headerLine F ++ 10 :: rest)
    (hlimit : (resp.headerLine F).length ≤ s.limit) :
    ∃ s', read_response F s = .ok (some (resp, s')) ∧ s'.unread = rest ∧ s'.limit = s.limit := by
  obtain ⟨s', hread, hunread, hlimit'⟩ :=
    readLine_of_short (headerLine_printable hresp.dump) h hlimit
  refine ⟨s', ?_, hunread, hlimit'⟩
  have hdecode : decode_response F (resp.headerLine F) = .ok resp :=
    decode_response_headerLine hresp hlength
  simp only [read_response, Response.headerLine] at hdecode ⊢
  simp only [hread, hdecode, bind, Except.bind]

/-- Requests: a line each. -/
def requestFraming : Framing (Request K) (Request K) where
  Fits req := req.Valid F ∧ (req.headerLine F).length ≤ MAX_LINE
  line req := req.headerLine F
  payload _ := []
  shown req := req
  readOne := read_request F
  newline_notMem _ h := headerLine_printable h.1.dump
  read_short _ _ _ h hunread hlimit := read_request_headerLine F h.1 h.2 hunread hlimit
  read_long _ _ _ hline hunread hlimit := read_request_of_long F hline hunread hlimit
  read_nil s h := by
    rw [read_request, readLine_nil h]
    rfl

/-- What `write_response` accepts: a `blob` line has its payload, of the length it declares. -/
def Payable (m : Response K × Option Bytes) : Prop :=
  m.1.kind = .blob → ∃ b, m.2 = some b ∧ m.1.n_bytes = b.length

omit [DecidableEq K] [IntCast K] in
/-- What `write_response` writes is the line, its newline, and the payload of a `blob` line. -/
theorem write_response_eq_ok {m : Response K × Option Bytes} {wire : Bytes}
    (h : write_response F m.1 m.2 = .ok wire) :
    Payable m ∧ wire = m.1.headerLine F ++ 10 :: (carried m).2.getD [] := by
  obtain ⟨resp, blob⟩ := m
  unfold write_response at h
  rw [Payable, carried]
  rcases hkind : resp.kind with - | -
  · simp only [hkind] at h ⊢
    refine ⟨by simp, ?_⟩
    rw [← Except.ok.inj h, encode_response_eq]
    rfl
  · simp only [hkind] at h ⊢
    rcases blob with - | b
    · cases h
    · simp only at h
      split at h
      · cases h
      · rename_i hlength
        refine ⟨fun _ ↦ ⟨b, rfl, by simpa using hlength⟩, ?_⟩
        rw [← Except.ok.inj h, encode_response_eq, List.append_assoc]
        rfl

/-- A reply is read back with its payload, whatever bytes that is made of. -/
theorem readReply_headerLine {m : Response K × Option Bytes} (hresp : m.1.Valid F)
    (hlength : (m.1.headerLine F).length ≤ MAX_LINE) (hpay : Payable m) {rest : Bytes}
    {s : StreamReader} (h : s.unread = m.1.headerLine F ++ 10 :: ((carried m).2.getD [] ++ rest))
    (hlimit : (m.1.headerLine F).length ≤ s.limit) :
    ∃ s', readReply F s = .ok (some (carried m, s')) ∧ s'.unread = rest ∧ s'.limit = s.limit := by
  obtain ⟨s₁, hread, hunread, hlimit₁⟩ := read_response_headerLine F hresp hlength h hlimit
  obtain ⟨resp, blob⟩ := m
  rw [carried] at hunread ⊢
  rcases hkind : resp.kind with - | -
  · simp only [hkind] at hunread ⊢
    refine ⟨s₁, ?_, by simpa using hunread, hlimit₁⟩
    simp only [readReply, hread, hkind, bind, Except.bind]
  · obtain ⟨b, hb, hn⟩ := hpay hkind
    simp only [hkind] at hunread ⊢
    have hb : blob = some b := hb
    subst hb
    obtain ⟨s₂, hblob, hunread₂, hlimit₂⟩ := read_blob_spec hn hunread
    refine ⟨s₂, ?_, hunread₂, hlimit₂.trans hlimit₁⟩
    simp only [readReply, hread, hkind, hblob, bind, Except.bind]

/-- A reply with a line beyond the stream's limit is refused. -/
theorem readReply_of_long {line rest : Bytes} {s : StreamReader} (hline : 10 ∉ line)
    (h : s.unread = line ++ 10 :: rest) (hlimit : s.limit < line.length) :
    readReply F s = .error (.protocol .headerExceeds) := by
  rw [readReply, read_response_of_long F hline h hlimit]
  rfl

/-- Responses: a line each, and the payload that a `blob` line announces. -/
def replyFraming : Framing (Response K × Option Bytes) (Response K × Option Bytes) where
  Fits m := (m.1.Valid F ∧ (m.1.headerLine F).length ≤ MAX_LINE) ∧ Payable m
  line m := m.1.headerLine F
  payload m := (carried m).2.getD []
  shown := carried
  readOne := readReply F
  newline_notMem _ h := headerLine_printable h.1.1.dump
  read_short _ _ _ h hunread hlimit := readReply_headerLine F h.1.1 h.1.2 h.2 hunread hlimit
  read_long _ _ _ hline hunread hlimit := readReply_of_long F hline hunread hlimit
  read_nil s h := by
    rw [readReply, read_response, readLine_nil h]
    rfl

/-- Responses that are all written are written one after another. -/
theorem flatten_of_mapM_write {replies : List (Response K × Option Bytes)} {wires : List Bytes}
    (h : replies.mapM (fun m ↦ write_response F m.1 m.2) = .ok wires) :
    (∀ m ∈ replies, Payable m) ∧ wires.flatten = replies.flatMap (replyFraming F).wire := by
  induction replies generalizing wires with
  | nil =>
    obtain rfl : [] = wires := Except.ok.inj h
    exact ⟨by simp, rfl⟩
  | cons m replies ih =>
    rw [List.mapM_cons] at h
    obtain ⟨wire, hm, h⟩ := except_bind_eq_ok.1 h
    obtain ⟨wires', hreplies, h⟩ := except_bind_eq_ok.1 h
    obtain rfl : wire :: wires' = wires := Except.ok.inj h
    obtain ⟨hpay, hwire⟩ := write_response_eq_ok F hm
    obtain ⟨hrest, hflatten⟩ := ih hreplies
    rw [List.forall_mem_cons, List.flatten_cons, List.flatMap_cons, hflatten, hwire]
    exact ⟨⟨hpay, hrest⟩, rfl⟩

/-- A line longer than `MAX_LINE` is refused: by the stream, or by `_parse`. -/
theorem refused_of_long {line rest : Bytes} {s : StreamReader} (hline : 10 ∉ line)
    (hlong : MAX_LINE < line.length) (h : s.unread = line ++ 10 :: rest) :
    (∃ e, read_request F s = .error (.protocol e)) ∧
      ∃ e, read_response F s = .error (.protocol e) := by
  rcases Nat.lt_or_ge s.limit line.length with hlimit | hlimit
  · exact ⟨⟨_, read_request_of_long F hline h hlimit⟩, ⟨_, read_response_of_long F hline h hlimit⟩⟩
  · obtain ⟨s', hread, -, -⟩ := readLine_of_short hline h hlimit
    obtain ⟨hreq, hresp⟩ := decode_of_long (F := F) hlong
    refine ⟨⟨.headerLong line.length, ?_⟩, ⟨.headerLong line.length, ?_⟩⟩
    · simp only [read_request, hread, hreq, bind, Except.bind]
    · simp only [read_response, hread, hresp, bind, Except.bind]

/-- The texts of one float, a half, and of integers of at most 4300 digits, which is the default. -/
def halfText : NumberText ℚ where
  finite x := x = 1 / 2
  repr _ := "0.5".toList
  float text := if text = "0.5".toList then some (1 / 2) else none
  max_digits := some 4300
  float_repr := by
    rintro x rfl
    rfl
  repr_number _ _ := List.all_eq_true.1 (by rfl : "0.5".toList.all isNumberChar = true)
  repr_fraction := by
    rintro x rfl
    rfl
  repr_short _ _ := by decide
  max_digits_ge := by
    rintro d ⟨⟩
    decide

/-- An integer of 4301 digits is given up on. -/
example : (loads halfText (List.replicate 4301 '9')).map (fun _ ↦ ()) = .error .digits := by
  decide +kernel

/-- A reply to `list_runs` on a board with many runs. -/
def manyRuns : Response ℚ :=
  ok [("runs", .arr (List.replicate 4096 (.str "n30-ring4-20260131")))]

omit [DecidableEq K] [IntCast K] in
theorem length_dumpItems_replicate (n : ℕ) (j : Json K) :
    (dumpItems F (List.replicate n j)).length = n * ((dump F j).length + 1) + 1 := by
  induction n with
  | zero => rw [List.replicate_zero, dumpItems, List.length_singleton, Nat.zero_mul]
  | succ n ih =>
    rw [List.replicate_succ, dumpItems, List.length_cons, List.length_append, ih]
    ring

omit [DecidableEq K] [IntCast K] in
/-- The length of a reply to `list_runs`. -/
theorem length_dump_runs (n : ℕ) (j : Json K) :
    (dump F (Response.codec.dump false (ok [("runs", .arr (List.replicate (n + 1) j))]))).length =
      (n + 1) * ((dump F j).length + 1) + 90 := by
  have hjson : Response.codec.dump false (ok [("runs", .arr (List.replicate (n + 1) j))]) =
      .obj [("ok", .bool true), ("kind", .str "json"),
        ("data", .obj [("runs", .arr (j :: List.replicate n j))]), ("error", .null),
        ("n_bytes", .int 0), ("name", .str ""), ("version", .int 1)] := by
    rfl
  have hone : (Nat.toDigits 10 1).length = 1 := by decide
  rw [hjson]
  simp only [dump, dumpMember, dumpMembers, List.length_append, List.length_cons,
    length_dumpItems_replicate]
  simp [quote, escapeChar, intText, hone]
  ring

/-- Items that are valid make a valid array. -/
theorem validItems_replicate {j : Json ℚ} (h : JsonText.Valid halfText j) (n : ℕ) :
    ValidItems halfText (List.replicate n j) := by
  induction n with
  | zero => exact trivial
  | succ n ih => exact ⟨h, ih⟩

theorem manyRuns_valid : manyRuns.Valid halfText where
  version := rfl
  data := ⟨List.nodup_singleton _, validItems_replicate (j := .str _) trivial 4096, trivial⟩
  n_bytes := halfText.converts_of_short (by decide)

/-- The list of runs is a line of 86106 bytes, a twelfth of `MAX_LINE`. -/
theorem length_manyRuns : (manyRuns.headerLine halfText).length = 86106 := by
  have hitem : (dump halfText (.str "n30-ring4-20260131")).length = 20 := by decide
  have hlength := length_dump_runs halfText 4095 (.str "n30-ring4-20260131")
  rw [hitem] at hlength
  have hbytes := encodeText_of_printable (printable_dump halfText _ manyRuns_valid.dump)
  rw [Response.headerLine, headerLine, hbytes, List.length_map]
  exact hlength

/-- **What is written is read back exactly when the stream allows every line**: requests, and
responses with their payloads, over any chunks. A line longer than `MAX_LINE` is refused, whatever
the stream allows. -/
theorem framing_round_trip_iff (limit : ℕ) :
    (∀ (reqs : List (Request K)) (chunks : List Bytes),
      (∀ req ∈ reqs, req.Valid F ∧ (req.headerLine F).length ≤ MAX_LINE) →
      chunks.flatten = reqs.flatMap (write_request F) →
      (readAll (read_request F) (openStream limit chunks) = .ok reqs ↔
        ∀ req ∈ reqs, (req.headerLine F).length ≤ limit)) ∧
    (∀ (replies : List (Response K × Option Bytes)) (wires chunks : List Bytes),
      (∀ m ∈ replies, m.1.Valid F ∧ (m.1.headerLine F).length ≤ MAX_LINE) →
      replies.mapM (fun m ↦ write_response F m.1 m.2) = .ok wires →
      chunks.flatten = wires.flatten →
      (readAll (readReply F) (openStream limit chunks) = .ok (replies.map carried) ↔
        ∀ m ∈ replies, (m.1.headerLine F).length ≤ limit)) ∧
    ∀ (line rest : Bytes) (chunks : List Bytes), 10 ∉ line → MAX_LINE < line.length →
      chunks.flatten = line ++ 10 :: rest →
      (∃ e, read_request F (openStream limit chunks) = .error (.protocol e)) ∧
        ∃ e, read_response F (openStream limit chunks) = .error (.protocol e) := by
  refine ⟨fun reqs chunks hfits hwire ↦ ?_, fun replies wires chunks hfits hwrite hwire ↦ ?_,
    fun line rest chunks hline hlong hwire ↦ refused_of_long F hline hlong hwire⟩
  · have hunread : (openStream limit chunks).unread = reqs.flatMap (requestFraming F).wire := by
      rw [show (openStream limit chunks).unread = chunks.flatten from rfl, hwire]
      congr 1
      funext req
      exact encode_request_eq req
    have hiff := (requestFraming F).readAll_iff hfits hunread
    rwa [show reqs.map (requestFraming F).shown = reqs from List.map_id reqs] at hiff
  · obtain ⟨hpay, hflatten⟩ := flatten_of_mapM_write F hwrite
    have hunread : (openStream limit chunks).unread = replies.flatMap (replyFraming F).wire :=
      hwire.trans hflatten
    exact (replyFraming F).readAll_iff (fun m hm ↦ ⟨hfits m hm, hpay m hm⟩) hunread

/-- A request that carries a half, and a reply that carries three bytes, a newline among them. -/
def startHalf : Request ℚ :=
  request .start [("duration_s", .num (1 / 2))]

/-- A reply with a payload of three bytes, a newline among them. -/
def threeBytes : Response ℚ × Option Bytes :=
  (⟨true, .blob, [], none, 3, "7.bin", PROTOCOL_VERSION⟩, some [0, 10, 255])

theorem startHalf_fits :
    startHalf.Valid halfText ∧ (startHalf.headerLine halfText).length ≤ DEFAULT_LIMIT :=
  ⟨⟨rfl, List.nodup_singleton _, rfl, trivial⟩, by decide +kernel⟩

theorem threeBytes_fits :
    threeBytes.1.Valid halfText ∧ (threeBytes.1.headerLine halfText).length ≤ DEFAULT_LIMIT :=
  ⟨⟨rfl, ⟨List.nodup_nil, trivial⟩, halfText.converts_of_short (by decide)⟩, by decide +kernel⟩

/-- Two requests, and a reply whose payload has a newline in it, cut where no message ends; and a
line that is one byte too long. -/
theorem framing_round_trip_iff_half :
    readAll (read_request halfText) (openStream DEFAULT_LIMIT
        [write_request halfText startHalf, write_request halfText startHalf]) =
      .ok [startHalf, startHalf] ∧
    readAll (readReply halfText) (openStream DEFAULT_LIMIT
        [encode_response halfText threeBytes.1 ++ [0], [10], [], [255]]) = .ok [threeBytes] ∧
    ∃ e, read_request halfText (openStream DEFAULT_LIMIT
        [List.replicate (MAX_LINE + 1) 65 ++ [10]]) = .error (.protocol e) := by
  have hle : DEFAULT_LIMIT ≤ MAX_LINE := by decide
  have hlong : MAX_LINE < (List.replicate (MAX_LINE + 1) (65 : UInt8)).length := by
    rw [List.length_replicate]
    exact Nat.lt_succ_self _
  have hwrite : [threeBytes].mapM (fun m ↦ write_response halfText m.1 m.2) =
      .ok [encode_response halfText threeBytes.1 ++ [0, 10, 255]] := rfl
  refine ⟨((framing_round_trip_iff halfText DEFAULT_LIMIT).1 [startHalf, startHalf] _ ?_ ?_).2 ?_,
    ((framing_round_trip_iff halfText DEFAULT_LIMIT).2.1 [threeBytes] _ _ ?_ hwrite ?_).2 ?_,
    ((framing_round_trip_iff halfText DEFAULT_LIMIT).2.2 _ [] _ ?_ hlong ?_).1⟩
  · simpa using ⟨startHalf_fits.1, startHalf_fits.2.trans hle⟩
  · rfl
  · simpa using startHalf_fits.2
  · simpa using ⟨threeBytes_fits.1, threeBytes_fits.2.trans hle⟩
  · simp
  · simpa using threeBytes_fits.2
  · intro h
    cases List.eq_of_mem_replicate h
  · rw [List.flatten_singleton]

/-- A list of runs whose line `MAX_LINE` allows is not read over a connection. -/
theorem run_list_not_read :
    manyRuns.Valid halfText ∧ (manyRuns.headerLine halfText).length ≤ MAX_LINE ∧
      write_response halfText manyRuns none = .ok (encode_response halfText manyRuns) ∧
      readAll (readReply halfText) (openStream DEFAULT_LIMIT [encode_response halfText manyRuns]) =
        .error (.protocol .headerExceeds) := by
  have hwrite : write_response halfText manyRuns none = .ok (encode_response halfText manyRuns) :=
    write_response_json halfText rfl none
  have hshort : (manyRuns.headerLine halfText).length ≤ MAX_LINE := by
    rw [length_manyRuns]
    decide
  refine ⟨manyRuns_valid, hshort, hwrite, readAll_of_error ?_⟩
  have hunread : (openStream DEFAULT_LIMIT [encode_response halfText manyRuns]).unread =
      manyRuns.headerLine halfText ++ 10 :: [] := by
    rw [encode_response_eq]
    simp [StreamReader.unread, openStream, Response.headerLine]
  have hlong : DEFAULT_LIMIT < (manyRuns.headerLine halfText).length := by
    rw [length_manyRuns]
    decide
  exact readReply_of_long halfText (headerLine_printable manyRuns_valid.dump) hunread hlong

end Framings

end VertexTestbed.Control
