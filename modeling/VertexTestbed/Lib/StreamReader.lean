import VertexTestbed.Lib.LittleEndian

/-!
# A buffered stream

`asyncio.StreamReader` over a connection whose bytes arrive in chunks: what has arrived and is not
read yet, the chunks that are still to come, and the limit of a read that looks for a separator.

What a read returns does not depend on how the bytes are cut into chunks. `readuntil` is decided by
the bytes alone (`readuntil_of_short`, `readuntil_of_long`, `readuntil_nil`), and `read` takes some
of them off the front (`read_spec`).
-/

namespace VertexTestbed

/-- A stream. When the chunks are used up its end has been reached. -/
structure StreamReader where
  limit : ℕ
  buffer : Bytes
  incoming : List Bytes

namespace StreamReader

/-- `IncompleteReadError`, with what there was, and `LimitOverrunError`. -/
inductive ReadError where
  | incomplete (part : Bytes)
  | overrun

/-- The bytes that have not been read. -/
def unread (s : StreamReader) : Bytes :=
  s.buffer ++ s.incoming.flatten

/-- One look at the buffer for the separator. Without it, `more` says how the read goes on. -/
def seek (sep : UInt8) (s : StreamReader) (more : Except ReadError (Bytes × StreamReader)) :
    Except ReadError (Bytes × StreamReader) :=
  let part := s.buffer.takeWhile fun b ↦ b ≠ sep
  if s.limit < part.length then .error .overrun
  else
    match s.buffer.dropWhile fun b ↦ b ≠ sep with
    | [] => more
    | _ :: rest => .ok (part ++ [sep], { s with buffer := rest })

/-- `readuntil` with a separator of one byte. -/
def readuntilFrom (sep : UInt8) (limit : ℕ) (buffer : Bytes) :
    List Bytes → Except ReadError (Bytes × StreamReader)
  | [] => seek sep ⟨limit, buffer, []⟩ (.error (.incomplete buffer))
  | chunk :: chunks =>
    seek sep ⟨limit, buffer, chunk :: chunks⟩ (readuntilFrom sep limit (buffer ++ chunk) chunks)

/-- `readuntil`. -/
def readuntil (sep : UInt8) (s : StreamReader) : Except ReadError (Bytes × StreamReader) :=
  readuntilFrom sep s.limit s.buffer s.incoming

/-- `read(n)`: what there is, up to `n` bytes, once there is something. -/
def read (n : ℕ) (s : StreamReader) : Bytes × StreamReader :=
  if s.buffer ≠ [] then (s.buffer.take n, { s with buffer := s.buffer.drop n })
  else
    match s.incoming.dropWhile fun chunk ↦ chunk = [] with
    | [] => ([], { s with incoming := [] })
    | chunk :: chunks => (chunk.take n, { s with buffer := chunk.drop n, incoming := chunks })

/-! ### Reading up to a separator -/

variable {sep : UInt8} {s : StreamReader}

theorem takeWhile_ne_append {line rest : Bytes} (h : sep ∉ line) :
    (line ++ rest).takeWhile (fun b ↦ b ≠ sep) = line ++ rest.takeWhile fun b ↦ b ≠ sep := by
  refine List.takeWhile_append_of_pos fun b hb ↦ ?_
  simpa using fun heq : b = sep ↦ h (heq ▸ hb)

theorem dropWhile_ne_append {line rest : Bytes} (h : sep ∉ line) :
    (line ++ rest).dropWhile (fun b ↦ b ≠ sep) = rest.dropWhile fun b ↦ b ≠ sep := by
  refine List.dropWhile_append_of_pos fun b hb ↦ ?_
  simpa using fun heq : b = sep ↦ h (heq ▸ hb)

/-- The separator is in the buffer, behind a part the limit allows. -/
theorem seek_found {line rest : Bytes} (hline : sep ∉ line)
    (hbuffer : s.buffer = line ++ sep :: rest)
    (hlimit : line.length ≤ s.limit) (more : Except ReadError (Bytes × StreamReader)) :
    seek sep s more = .ok (line ++ [sep], { s with buffer := rest }) := by
  have hpart : s.buffer.takeWhile (fun b ↦ b ≠ sep) = line := by
    rw [hbuffer, takeWhile_ne_append hline]
    simp
  have hrest : s.buffer.dropWhile (fun b ↦ b ≠ sep) = sep :: rest := by
    rw [hbuffer, dropWhile_ne_append hline]
    simp
  rw [seek, hpart, hrest, if_neg (by omega)]

/-- The separator is not in the buffer, and the limit allows what is. -/
theorem seek_more (hbuffer : sep ∉ s.buffer) (hlimit : s.buffer.length ≤ s.limit)
    (more : Except ReadError (Bytes × StreamReader)) : seek sep s more = more := by
  have hmem : ∀ b ∈ s.buffer, decide (b ≠ sep) = true := fun b hb ↦ by
    simpa using fun heq : b = sep ↦ hbuffer (heq ▸ hb)
  have hpart : s.buffer.takeWhile (fun b ↦ b ≠ sep) = s.buffer := List.takeWhile_eq_self_iff.2 hmem
  have hrest : s.buffer.dropWhile (fun b ↦ b ≠ sep) = [] := List.dropWhile_eq_nil_iff.2 hmem
  rw [seek, hpart, hrest, if_neg (by omega)]

/-- The buffer holds more than the limit before any separator. -/
theorem seek_overrun {part rest : Bytes} (hpart : sep ∉ part) (hbuffer : s.buffer = part ++ rest)
    (hlimit : s.limit < part.length) (more : Except ReadError (Bytes × StreamReader)) :
    seek sep s more = .error .overrun := by
  have hlength : part.length ≤ (s.buffer.takeWhile fun b ↦ b ≠ sep).length := by
    rw [hbuffer, takeWhile_ne_append hpart, List.length_append]
    omega
  rw [seek, if_pos (by omega)]

/-- A line is cut by what the buffer has of it: either the buffer has all of it and its separator,
or it has a part of it. -/
theorem append_eq_line {buffer later line rest : Bytes} (hline : sep ∉ line)
    (h : buffer ++ later = line ++ sep :: rest) :
    (∃ tail, buffer = line ++ sep :: tail ∧ tail ++ later = rest) ∨
      sep ∉ buffer ∧ ∃ part, line = buffer ++ part := by
  rcases List.append_eq_append_iff.1 h with ⟨part, hpart, -⟩ | ⟨tail, hbuffer, htail⟩
  · refine .inr ⟨fun hmem ↦ hline ?_, part, hpart⟩
    rw [hpart]
    exact List.mem_append_left part hmem
  · cases tail with
    | nil => exact .inr ⟨by simpa [hbuffer] using hline, [], by simp [hbuffer]⟩
    | cons b tail =>
      rw [List.cons_append, List.cons.injEq] at htail
      exact .inl ⟨tail, by rw [hbuffer, htail.1], htail.2.symm⟩

theorem readuntilFrom_of_short {limit : ℕ} {buffer line rest : Bytes} {chunks : List Bytes}
    (hline : sep ∉ line) (h : buffer ++ chunks.flatten = line ++ sep :: rest)
    (hlimit : line.length ≤ limit) :
    ∃ s', readuntilFrom sep limit buffer chunks = .ok (line ++ [sep], s') ∧ s'.unread = rest ∧
      s'.limit = limit := by
  induction chunks generalizing buffer with
  | nil =>
    rw [List.flatten_nil, List.append_nil] at h
    rw [readuntilFrom, seek_found hline h hlimit]
    exact ⟨_, rfl, by simp [unread], rfl⟩
  | cons chunk chunks ih =>
    rcases append_eq_line hline h with ⟨tail, hbuffer, htail⟩ | ⟨hmem, part, hpart⟩
    · rw [readuntilFrom, seek_found hline hbuffer hlimit]
      exact ⟨_, rfl, htail, rfl⟩
    · have hlength : buffer.length ≤ limit := by
        rw [hpart, List.length_append] at hlimit
        omega
      rw [readuntilFrom, seek_more hmem hlength]
      exact ih (by rw [List.append_assoc]; exact h)

/-- **A line within the limit is read**, whatever the chunks. -/
theorem readuntil_of_short {line rest : Bytes} (hline : sep ∉ line)
    (h : s.unread = line ++ sep :: rest) (hlimit : line.length ≤ s.limit) :
    ∃ s', s.readuntil sep = .ok (line ++ [sep], s') ∧ s'.unread = rest ∧ s'.limit = s.limit :=
  readuntilFrom_of_short hline h hlimit

theorem readuntilFrom_of_long {limit : ℕ} {buffer line rest : Bytes} {chunks : List Bytes}
    (hline : sep ∉ line) (h : buffer ++ chunks.flatten = line ++ sep :: rest)
    (hlimit : limit < line.length) : readuntilFrom sep limit buffer chunks = .error .overrun := by
  induction chunks generalizing buffer with
  | nil =>
    rw [List.flatten_nil, List.append_nil] at h
    rw [readuntilFrom, seek_overrun hline h hlimit]
  | cons chunk chunks ih =>
    rcases append_eq_line hline h with ⟨tail, hbuffer, -⟩ | ⟨hmem, -⟩
    · rw [readuntilFrom, seek_overrun hline hbuffer hlimit]
    · rcases Nat.lt_or_ge limit buffer.length with hover | hlength
      · rw [readuntilFrom, seek_overrun hmem (List.append_nil buffer).symm hover]
      · rw [readuntilFrom, seek_more hmem hlength]
        exact ih (by rw [List.append_assoc]; exact h)

/-- **A line beyond the limit is refused**, whatever the chunks. -/
theorem readuntil_of_long {line rest : Bytes} (hline : sep ∉ line)
    (h : s.unread = line ++ sep :: rest) (hlimit : s.limit < line.length) :
    s.readuntil sep = .error .overrun :=
  readuntilFrom_of_long hline h hlimit

theorem readuntilFrom_nil (limit : ℕ) {chunks : List Bytes} (h : chunks.flatten = []) :
    readuntilFrom sep limit [] chunks = .error (.incomplete []) := by
  induction chunks with
  | nil => rfl
  | cons chunk chunks ih =>
    rw [List.flatten_cons, List.append_eq_nil_iff] at h
    obtain ⟨rfl, hchunks⟩ := h
    exact ih hchunks

/-- At the end of the stream there is nothing to read. -/
theorem readuntil_nil (h : s.unread = []) : s.readuntil sep = .error (.incomplete []) := by
  rw [unread, List.append_eq_nil_iff] at h
  rw [readuntil, h.1, readuntilFrom_nil s.limit h.2]

/-! ### Reading some bytes -/

theorem flatten_dropWhile_nil (chunks : List Bytes) :
    (chunks.dropWhile fun chunk ↦ chunk = []).flatten = chunks.flatten := by
  induction chunks with
  | nil => rfl
  | cons chunk chunks ih =>
    rcases eq_or_ne chunk [] with rfl | hchunk
    · simpa using ih
    · simp [hchunk]

/-- **A read takes at least one byte and at most `n`** off the front of what is unread. -/
theorem read_spec {n : ℕ} (hn : 0 < n) (h : s.unread ≠ []) {data : Bytes} {s' : StreamReader}
    (hr : s.read n = (data, s')) :
    data ≠ [] ∧ data.length ≤ n ∧ s.unread = data ++ s'.unread ∧ s'.limit = s.limit := by
  have htake {buffer : Bytes} (hbuffer : buffer ≠ []) : buffer.take n ≠ [] := by
    simpa [List.take_eq_nil_iff] using ⟨Nat.ne_of_gt hn, hbuffer⟩
  rw [read] at hr
  split at hr
  · rename_i hbuffer
    cases hr
    refine ⟨htake hbuffer, List.length_take_le n _, ?_, rfl⟩
    rw [unread, unread, ← List.append_assoc, List.take_append_drop]
  · rename_i hbuffer
    have hbuffer : s.buffer = [] := by simpa using hbuffer
    have hflatten := flatten_dropWhile_nil s.incoming
    split at hr
    · rename_i hnil
      rw [hnil] at hflatten
      exact absurd (by rw [unread, hbuffer, ← hflatten]; rfl) h
    · rename_i chunk chunks hcons
      cases hr
      have hchunk : chunk ≠ [] := by
        have hhead := List.head_dropWhile_not (fun c : Bytes ↦ decide (c = []))
          (l := s.incoming) (by rw [hcons]; exact List.cons_ne_nil _ _)
        simpa [hcons] using hhead
      refine ⟨htake hchunk, List.length_take_le n _, ?_, rfl⟩
      rw [hcons] at hflatten
      rw [unread, hbuffer, ← hflatten, List.flatten_cons, List.nil_append, unread,
        ← List.append_assoc, List.take_append_drop]

end StreamReader

end VertexTestbed
