import VertexTestbed.Lib.LittleEndian

/-!
# Framed byte streams

A `Format` is a start byte, the payload lengths each frame type may have, and a 16-bit check over
type, length and payload. `Format.build` writes one frame; `Format.step` is the seven-state
byte-at-a-time receiver, whose states carry what they have already checked, so that an overlong or
unknown frame in progress cannot be expressed.

* **Soundness** (`Format.occurs_serve`): whatever the stream, however it is cut into chunks and
  wherever the receiver is told to give up on a frame, the delivered frames occur in the stream as
  disjoint substrings in order, each byte for byte what `build` writes. The invariant is `pending`,
  the bytes of the frame in progress.
* **Completeness** (`Format.feed_weave`): from the idle state, frames that fit, with anything but
  start bytes between them, are delivered exactly. * **Progress** (`Format.remaining_serve_le`,
`Format.exists_take_idle`): every byte brings a frame in progress nearer to its end, so no state
holds the receiver for longer than one frame.

`feed` and `serve` are the two ways of running a byte transducer; `serve_related` carries a
simulation of one transducer by another over whole runs. `Format.regStep` is the receiver as it is
written in practice, over registers whose stale values survive between frames, and
`Format.regStep_tracks` simulates it by `Format.step`.
-/

/-! ### Byte transducers -/

section Transducer

variable {σ τ φ : Type*}

/-- Feed bytes one by one, collecting what is delivered. -/
def feed (step : σ → UInt8 → σ × Option φ) : σ → Bytes → σ × List φ
  | s, [] => (s, [])
  | s, b :: bs =>
    let r := step s b
    let q := feed step r.1 bs
    (q.1, r.2.toList ++ q.2)

/-- What reaches a receiver: a chunk of bytes, or the end of its patience with a partial frame. -/
inductive LinkEvent where
  | chunk (bs : Bytes)
  | timeout

/-- A receiver served a sequence of events. -/
def serve (step : σ → UInt8 → σ × Option φ) (timeout : σ → σ) : σ → List LinkEvent → σ × List φ
  | s, [] => (s, [])
  | s, .chunk bs :: es =>
    let r := feed step s bs
    let q := serve step timeout r.1 es
    (q.1, r.2 ++ q.2)
  | s, .timeout :: es => serve step timeout (timeout s) es

/-- The bytes of a sequence of events. -/
def stream : List LinkEvent → Bytes
  | [] => []
  | .chunk bs :: es => bs ++ stream es
  | .timeout :: es => stream es

theorem stream_append (xs ys : List LinkEvent) : stream (xs ++ ys) = stream xs ++ stream ys := by
  induction xs with
  | nil => rfl
  | cons e xs ih =>
    cases e with
    | chunk bs => rw [List.cons_append, stream, stream, ih, List.append_assoc]
    | timeout => exact ih

variable {step : σ → UInt8 → σ × Option φ} {step' : τ → UInt8 → τ × Option φ}

theorem feed_append (s : σ) (xs ys : Bytes) :
    feed step s (xs ++ ys) =
      ((feed step (feed step s xs).1 ys).1,
        (feed step s xs).2 ++ (feed step (feed step s xs).1 ys).2) := by
  induction xs generalizing s with
  | nil => rfl
  | cons b bs ih => rw [List.cons_append, feed, feed, ih, List.append_assoc]

theorem serve_append (timeout : σ → σ) (s : σ) (xs ys : List LinkEvent) :
    serve step timeout s (xs ++ ys) =
      ((serve step timeout (serve step timeout s xs).1 ys).1,
        (serve step timeout s xs).2 ++ (serve step timeout (serve step timeout s xs).1 ys).2) := by
  induction xs generalizing s with
  | nil => rfl
  | cons e xs ih =>
    cases e with
    | chunk bs => rw [List.cons_append, serve, serve, ih, List.append_assoc]
    | timeout => exact ih (timeout s)

/-- **Chunks do not matter**: feeding a list of chunks is feeding their concatenation. -/
theorem serve_chunks (timeout : σ → σ) (s : σ) (chunks : List Bytes) :
    serve step timeout s (chunks.map .chunk) = feed step s chunks.flatten := by
  induction chunks generalizing s with
  | nil => rfl
  | cons bs chunks ih => rw [List.map_cons, serve, ih, List.flatten_cons, feed_append]

/-- One transducer simulates another on every byte. -/
theorem feed_related {R : σ → τ → Prop}
    (hstep : ∀ s t b, R s t → R (step s b).1 (step' t b).1 ∧ (step s b).2 = (step' t b).2)
    {s : σ} {t : τ} (h : R s t) (bs : Bytes) :
    R (feed step s bs).1 (feed step' t bs).1 ∧ (feed step s bs).2 = (feed step' t bs).2 := by
  induction bs generalizing s t with
  | nil => exact ⟨h, rfl⟩
  | cons b bs ih =>
    obtain ⟨hnext, hout⟩ := hstep s t b h
    obtain ⟨hend, houts⟩ := ih hnext
    refine ⟨hend, ?_⟩
    rw [feed, feed, hout, houts]

/-- And over every sequence of chunks and timeouts. -/
theorem serve_related {R : σ → τ → Prop} {timeout : σ → σ} {timeout' : τ → τ}
    (hstep : ∀ s t b, R s t → R (step s b).1 (step' t b).1 ∧ (step s b).2 = (step' t b).2)
    (htimeout : ∀ s t, R s t → R (timeout s) (timeout' t)) {s : σ} {t : τ} (h : R s t)
    (es : List LinkEvent) :
    R (serve step timeout s es).1 (serve step' timeout' t es).1 ∧
      (serve step timeout s es).2 = (serve step' timeout' t es).2 := by
  induction es generalizing s t with
  | nil => exact ⟨h, rfl⟩
  | cons e es ih =>
    cases e with
    | chunk bs =>
      obtain ⟨hnext, hout⟩ := feed_related hstep h bs
      obtain ⟨hend, houts⟩ := ih hnext
      refine ⟨hend, ?_⟩
      rw [serve, serve, hout, houts]
    | timeout => exact ih (htimeout s t h)

end Transducer

/-! ### Formats -/

/-- A frame format: the start byte, the longest payload of each known type, and the check. -/
structure Format where
  sof : UInt8
  cap : UInt8 → Option ℕ
  check : Bytes → ℕ
  check_lt : ∀ bs, check bs < 65536

namespace Format

variable (F : Format)

/-- A payload of `n` bytes is allowed for the type `t`. -/
def Fits (t : UInt8) (n : ℕ) : Prop :=
  ∃ c, F.cap t = some c ∧ n ≤ c

instance (t : UInt8) (n : ℕ) : Decidable (F.Fits t n) :=
  match h : F.cap t with
  | none => .isFalse fun ⟨c, hc, _⟩ ↦ by rw [h] at hc; cases hc
  | some c =>
    decidable_of_iff (n ≤ c)
      ⟨fun hn ↦ ⟨c, h, hn⟩, fun ⟨c', hc, hn⟩ ↦ by rw [h] at hc; cases hc; exact hn⟩

/-- The span the check covers, up to the payload. -/
def head (t : UInt8) (n : ℕ) : Bytes :=
  t :: leBytes 2 n

/-- One frame. -/
def build (t : UInt8) (p : Bytes) : Bytes :=
  F.sof :: (head t p.length ++ p ++ leBytes 2 (F.check (head t p.length ++ p)))

/-- The receiver's states. A frame in progress is of a known type, fits, and has not received more
than its length. -/
inductive State where
  | idle
  | type
  | lenLo (t : UInt8)
  | lenHi (t lo : UInt8)
  | payload (t : UInt8) (n : ℕ) (buf : Bytes) (hlt : buf.length < n) (hfits : F.Fits t n)
  | checkLo (t : UInt8) (buf : Bytes) (hfits : F.Fits t buf.length)
  | checkHi (t : UInt8) (buf : Bytes) (lo : UInt8) (hfits : F.Fits t buf.length)

/-- The state after the length `n` of a frame of type `t`. -/
def begin (t : UInt8) (n : ℕ) (hfits : F.Fits t n) : State F :=
  if h : n = 0 then .checkLo t [] (by rw [List.length_nil, ← h]; exact hfits)
  else .payload t n [] (by rw [List.length_nil]; omega) hfits

/-- One byte. -/
def step : State F → UInt8 → State F × Option (UInt8 × Bytes)
  | .idle, b => (if b = F.sof then .type else .idle, none)
  | .type, b => (if (F.cap b).isSome then .lenLo b else .idle, none)
  | .lenLo t, b => (.lenHi t b, none)
  | .lenHi t lo, b =>
    (if h : F.Fits t (leNat [lo, b]) then F.begin t (leNat [lo, b]) h else .idle, none)
  | .payload t n buf hlt hfits, b =>
    (if h : buf.length + 1 < n then .payload t n (buf ++ [b]) (by simpa using h) hfits
      else
        .checkLo t (buf ++ [b])
          (by
            have hn : (buf ++ [b]).length = n := by
              rw [List.length_append, List.length_singleton]
              omega
            rw [hn]
            exact hfits),
      none)
  | .checkLo t buf hfits, b => (.checkHi t buf b hfits, none)
  | .checkHi t buf lo _, b =>
    (.idle, if F.check (head t buf.length ++ buf) = leNat [lo, b] then some (t, buf) else none)

/-- Give up on a frame in progress. -/
def timeout : State F → State F :=
  fun _ ↦ .idle

/-! ### Soundness -/

/-- The bytes of the frame in progress. -/
def pending : State F → Bytes
  | .idle => []
  | .type => [F.sof]
  | .lenLo t => [F.sof, t]
  | .lenHi t lo => [F.sof, t, lo]
  | .payload t n buf _ _ => F.sof :: (head t n ++ buf)
  | .checkLo t buf _ => F.sof :: (head t buf.length ++ buf)
  | .checkHi t buf lo _ => F.sof :: (head t buf.length ++ buf ++ [lo])

/-- A frame the format allows. -/
def Valid (f : UInt8 × Bytes) : Prop :=
  F.Fits f.1 f.2.length

/-- The frames occur in the stream as disjoint contiguous substrings, in order. -/
def Occurs : List (UInt8 × Bytes) → Bytes → Prop
  | [], _ => True
  | f :: fs, s =>
    ∃ gap rest, s = gap ++ F.build f.1 f.2 ++ rest ∧ F.Valid f ∧ Occurs fs rest

variable {F}

/-- What precedes a stream does not matter to what occurs in it. -/
theorem Occurs.append_left {fs : List (UInt8 × Bytes)} {s : Bytes} (h : F.Occurs fs s)
    (pre : Bytes) : F.Occurs fs (pre ++ s) := by
  cases fs with
  | nil => trivial
  | cons f fs =>
    obtain ⟨gap, rest, rfl, hvalid, hrest⟩ := h
    exact ⟨pre ++ gap, rest, by simp only [List.append_assoc], hvalid, hrest⟩

theorem leBytes_two_leNat (lo hi : UInt8) : leBytes 2 (leNat [lo, hi]) = [lo, hi] :=
  leBytes_leNat [lo, hi]

theorem pending_begin (t : UInt8) (n : ℕ) (hfits : F.Fits t n) :
    F.pending (F.begin t n hfits) = F.sof :: head t n := by
  rw [begin]
  split_ifs with h
  · subst h
    rfl
  · exact congrArg _ (List.append_nil _)

/-- **One byte**: it extends the frame in progress, or the frame in progress is given up, or it
completes a frame that the format allows and `build` writes. -/
theorem step_pending (s : State F) (b : UInt8) :
    (F.step s b).2 = none ∧
        (F.pending (F.step s b).1 = F.pending s ++ [b] ∨ F.pending (F.step s b).1 = []) ∨
      ∃ f, (F.step s b).2 = some f ∧ F.Valid f ∧ F.pending s ++ [b] = F.build f.1 f.2 ∧
        F.pending (F.step s b).1 = [] := by
  -- Each state waits for one field; a refused byte drops what is pending, the last one delivers it.
  cases s with
  | idle =>
    refine Or.inl ⟨rfl, ?_⟩
    rw [step]
    split_ifs with h
    · exact Or.inl (by rw [h]; rfl)
    · exact Or.inr rfl
  | type =>
    refine Or.inl ⟨rfl, ?_⟩
    rw [step]
    split_ifs
    · exact Or.inl rfl
    · exact Or.inr rfl
  | lenLo t => exact Or.inl ⟨rfl, Or.inl rfl⟩
  | lenHi t lo =>
    refine Or.inl ⟨rfl, ?_⟩
    rw [step]
    split_ifs with h
    · refine Or.inl ?_
      rw [pending_begin, head, leBytes_two_leNat]
      rfl
    · exact Or.inr rfl
  | payload t n buf hlt hfits =>
    refine Or.inl ⟨rfl, Or.inl ?_⟩
    rw [step]
    split_ifs with h
    · simp only [pending, List.cons_append, List.append_assoc]
    · have hn : (buf ++ [b]).length = n := by
        rw [List.length_append, List.length_singleton]
        omega
      simp only [pending, hn, List.cons_append, List.append_assoc]
  | checkLo t buf hfits =>
    refine Or.inl ⟨rfl, Or.inl ?_⟩
    simp only [step, pending, List.cons_append, List.append_assoc]
  | checkHi t buf lo hfits =>
    by_cases h : F.check (head t buf.length ++ buf) = leNat [lo, b]
    · refine Or.inr ⟨(t, buf), if_pos h, hfits, ?_, rfl⟩
      rw [build, h, leBytes_two_leNat]
      simp only [pending, List.cons_append, List.append_assoc, List.nil_append]
    · exact Or.inl ⟨if_neg h, Or.inr rfl⟩

/-- **Soundness of a chunk**: if frames occur in the stream that starts with the frame in progress
after the chunk, then those delivered by the chunk followed by them occur in the one before it. -/
theorem occurs_feed (s : State F) (bs : Bytes) {fs : List (UInt8 × Bytes)} {rest : Bytes}
    (h : F.Occurs fs (F.pending (feed F.step s bs).1 ++ rest)) :
    F.Occurs ((feed F.step s bs).2 ++ fs) (F.pending s ++ (bs ++ rest)) := by
  induction bs generalizing s with
  | nil => exact h
  | cons b bs ih =>
    have hrest := ih (F.step s b).1 h
    rw [feed]
    obtain ⟨hnone, hext | hgone⟩ | ⟨f, hsome, hvalid, hbuild, hidle⟩ := step_pending s b
    · rw [hnone]
      rw [hext, List.append_assoc] at hrest
      exact hrest
    · rw [hgone, List.nil_append] at hrest
      rw [hnone]
      have := hrest.append_left (F.pending s ++ [b])
      rwa [List.append_assoc] at this
    · rw [hidle, List.nil_append] at hrest
      rw [hsome]
      refine ⟨[], bs ++ rest, ?_, hvalid, hrest⟩
      rw [List.nil_append, ← hbuild, List.append_assoc]
      rfl

/-- **Soundness**: over any sequence of chunks and timeouts. -/
theorem occurs_serve (s : State F) (es : List LinkEvent) :
    F.Occurs (serve F.step F.timeout s es).2 (F.pending s ++ stream es) := by
  induction es generalizing s with
  | nil => trivial
  | cons e es ih =>
    cases e with
    | chunk bs => exact occurs_feed s bs (ih _)
    | timeout => exact (ih _).append_left _

/-! ### Completeness -/

/-- Frames with gaps around them. -/
def weave (F : Format) (gap : Bytes) : List ((UInt8 × Bytes) × Bytes) → Bytes
  | [] => gap
  | (f, gap') :: fs => gap ++ (F.build f.1 f.2 ++ F.weave gap' fs)

/-- Bytes that are not start bytes leave the idle state alone. -/
theorem feed_gap {gap : Bytes} (hgap : F.sof ∉ gap) (rest : Bytes) :
    feed F.step .idle (gap ++ rest) = feed F.step .idle rest := by
  induction gap with
  | nil => rfl
  | cons b gap ih =>
    rw [List.mem_cons, not_or] at hgap
    have hb : F.step .idle b = (.idle, none) := by rw [step, if_neg (Ne.symm hgap.1)]
    rw [List.cons_append, feed, hb, ih hgap.2]
    rfl

/-- The rest of a payload. -/
theorem feed_payload {t : UInt8} {n : ℕ} {buf bs : Bytes} (hlt : buf.length < n)
    (hfits : F.Fits t n) (hlen : (buf ++ bs).length = n) (rest : Bytes) :
    feed F.step (.payload t n buf hlt hfits) (bs ++ rest) =
      feed F.step (.checkLo t (buf ++ bs) (by rw [hlen]; exact hfits)) rest := by
  induction bs generalizing buf with
  | nil =>
    rw [List.append_nil] at hlen
    omega
  | cons b bs ih =>
    rw [List.cons_append, feed, step]
    have hassoc : buf ++ b :: bs = (buf ++ [b]) ++ bs := by simp
    by_cases h : buf.length + 1 < n
    · rw [dif_pos h]
      have hlen' : ((buf ++ [b]) ++ bs).length = n := by rw [← hassoc, hlen]
      simp only [ih (by simpa using h) hlen', Option.toList_none, List.nil_append, ← hassoc]
    · have hnil : bs = [] := by
        rw [List.length_append, List.length_cons] at hlen
        exact List.eq_nil_of_length_eq_zero (by omega)
      subst hnil
      rw [dif_neg h]
      rfl

/-- One frame with whatever is in the place of its check: it is delivered if that is the check. -/
theorem feed_frame {t : UInt8} {p : Bytes} (hfits : F.Fits t p.length) (hshort : p.length < 65536)
    {c : ℕ} (hc : c < 65536) (rest : Bytes) :
    feed F.step .idle (F.sof :: (head t p.length ++ p ++ leBytes 2 c) ++ rest) =
      ((feed F.step .idle rest).1,
        (if F.check (head t p.length ++ p) = c then [(t, p)] else []) ++
          (feed F.step .idle rest).2) := by
  obtain ⟨lo, hi, hlen⟩ : ∃ lo hi, leBytes 2 p.length = [lo, hi] := ⟨_, _, rfl⟩
  have hn : leNat [lo, hi] = p.length := by
    rw [← hlen]
    exact leNat_leBytes_of_lt (by simpa using hshort)
  obtain ⟨clo, chi, hcheck⟩ : ∃ clo chi, leBytes 2 c = [clo, chi] := ⟨_, _, rfl⟩
  have hcn : leNat [clo, chi] = c := by
    rw [← hcheck]
    exact leNat_leBytes_of_lt hc
  have hknown : (F.cap t).isSome := by
    obtain ⟨c, hcap, -⟩ := hfits
    rw [hcap]
    rfl
  -- From the length on: the payload, then the two bytes of the check.
  have hbody : feed F.step (F.begin t p.length hfits) (p ++ [clo, chi] ++ rest) =
      ((feed F.step .idle rest).1,
        (if F.check (head t p.length ++ p) = c then [(t, p)] else []) ++
          (feed F.step .idle rest).2) := by
    have hend : feed F.step (.checkLo t p hfits) ([clo, chi] ++ rest) =
        ((feed F.step .idle rest).1,
          (if F.check (head t p.length ++ p) = c then [(t, p)] else []) ++
            (feed F.step .idle rest).2) := by
      rw [List.cons_append, feed, step, List.cons_append, feed, step, hcn]
      split_ifs
      · rfl
      · rfl
    rw [begin, List.append_assoc]
    by_cases h : p.length = 0
    · obtain rfl := List.eq_nil_of_length_eq_zero h
      rw [dif_pos h]
      exact hend
    · rw [dif_neg h, feed_payload _ _ (by rw [List.nil_append])]
      exact hend
  have hbytes : F.sof :: (head t p.length ++ p ++ leBytes 2 c) ++ rest =
      F.sof :: t :: lo :: hi :: (p ++ [clo, chi] ++ rest) := by
    rw [hcheck, head, hlen]
    simp
  rw [hbytes, feed, step, if_pos rfl, feed, step, if_pos hknown, feed, step, feed, step]
  simp only [hn, dif_pos hfits, hbody, Option.toList_none, List.nil_append]

/-- **One frame is delivered exactly**, whatever its payload contains. -/
theorem feed_build {t : UInt8} {p : Bytes} (hfits : F.Fits t p.length) (hshort : p.length < 65536)
    (rest : Bytes) :
    feed F.step .idle (F.build t p ++ rest) =
      ((feed F.step .idle rest).1, (t, p) :: (feed F.step .idle rest).2) := by
  rw [build, feed_frame hfits hshort (F.check_lt _), if_pos rfl]
  rfl

/-- **Completeness**: frames that fit, separated by bytes that are not start bytes. -/
theorem feed_weave {gap : Bytes} {fs : List ((UInt8 × Bytes) × Bytes)} (hgap : F.sof ∉ gap)
    (hfs : ∀ f ∈ fs, F.Fits f.1.1 f.1.2.length ∧ f.1.2.length < 65536 ∧ F.sof ∉ f.2) :
    feed F.step .idle (F.weave gap fs) = (.idle, fs.map Prod.fst) := by
  induction fs generalizing gap with
  | nil =>
    have hnil := feed_gap hgap []
    rw [List.append_nil] at hnil
    exact hnil
  | cons f fs ih =>
    obtain ⟨hfits, hshort, hgap'⟩ := hfs f List.mem_cons_self
    rw [weave, feed_gap hgap, feed_build hfits hshort,
      ih hgap' fun f' hf' ↦ hfs f' (List.mem_cons_of_mem _ hf')]
    rfl

/-! ### Progress -/

/-- How many bytes a frame in progress can still take, if no payload exceeds `M`. -/
def remaining (M : ℕ) : State F → ℕ
  | .idle => 0
  | .type => M + 5
  | .lenLo _ => M + 4
  | .lenHi _ _ => M + 3
  | .payload _ n buf _ _ => n - buf.length + 2
  | .checkLo _ _ _ => 2
  | .checkHi _ _ _ _ => 1

variable {M : ℕ}

theorem eq_idle_of_remaining {s : State F} (h : remaining M s = 0) : s = .idle := by
  cases s with
  | idle => rfl
  | type | lenLo | lenHi | payload | checkLo | checkHi => simp only [remaining] at h; omega

/-- A frame in progress takes at most the longest frame behind its start byte. -/
theorem remaining_le (hcap : ∀ t n, F.Fits t n → n ≤ M) (s : State F) :
    remaining M s ≤ M + 5 := by
  cases s with
  | payload t n buf hlt hfits =>
    have hn := hcap t n hfits
    simp only [remaining]
    omega
  | idle | type | lenLo | lenHi | checkLo | checkHi => simp only [remaining]; omega

theorem remaining_begin_le {t : UInt8} {n : ℕ} (hfits : F.Fits t n) (hn : n ≤ M) :
    remaining M (F.begin t n hfits) ≤ M + 2 := by
  rw [begin]
  split_ifs with h
  · simp only [remaining]
    omega
  · simp only [remaining, List.length_nil]
    omega

/-- **One byte**: whatever it is, a frame in progress has less to go. -/
theorem remaining_step_lt (hcap : ∀ t n, F.Fits t n → n ≤ M) {s : State F} (h : s ≠ .idle)
    (b : UInt8) : remaining M (F.step s b).1 < remaining M s := by
  cases s with
  | idle => exact absurd rfl h
  | type =>
    rw [step]
    split_ifs <;> simp only [remaining] <;> omega
  | lenLo t => exact Nat.lt_succ_self _
  | lenHi t lo =>
    rw [step]
    split_ifs with hfits
    · exact Nat.lt_succ_of_le (remaining_begin_le hfits (hcap t _ hfits))
    · exact Nat.succ_pos _
  | payload t n buf hlt hfits =>
    rw [step]
    split_ifs with hmore
    · simp only [remaining, List.length_append, List.length_singleton]
      omega
    · simp only [remaining]
      omega
  | checkLo t buf hfits => exact Nat.lt_succ_self _
  | checkHi t buf lo hfits => exact Nat.lt_succ_self _

/-- **Bytes that start no frame** bring the receiver nearer to its idle state, each by one. -/
theorem remaining_feed_le (hcap : ∀ t n, F.Fits t n → n ≤ M) (s : State F) {bs : Bytes}
    (hsof : F.sof ∉ bs) : remaining M (feed F.step s bs).1 ≤ remaining M s - bs.length := by
  induction bs generalizing s with
  | nil => exact le_rfl
  | cons b bs ih =>
    rw [List.mem_cons, not_or] at hsof
    have hrest := ih (F.step s b).1 hsof.2
    have hone : remaining M (F.step s b).1 ≤ remaining M s - 1 := by
      by_cases hs : s = .idle
      · subst hs
        rw [step, if_neg (Ne.symm hsof.1)]
        exact Nat.zero_le _
      · exact Nat.le_sub_one_of_lt (remaining_step_lt hcap hs b)
    rw [List.length_cons]
    exact hrest.trans (by omega)

/-- And a timeout among them does no harm. -/
theorem remaining_serve_le (hcap : ∀ t n, F.Fits t n → n ≤ M) (s : State F) {es : List LinkEvent}
    (hsof : F.sof ∉ stream es) :
    remaining M (serve F.step F.timeout s es).1 ≤ remaining M s - (stream es).length := by
  induction es generalizing s with
  | nil => exact le_rfl
  | cons e es ih =>
    cases e with
    | chunk bs =>
      rw [stream, List.mem_append, not_or] at hsof
      have hchunk := remaining_feed_le hcap s hsof.1
      have hrest := ih (feed F.step s bs).1 hsof.2
      rw [stream, List.length_append]
      exact hrest.trans (by omega)
    | timeout =>
      have hrest : _ ≤ 0 - _ := ih State.idle hsof
      rw [serve, stream]
      exact hrest.trans (by omega)

/-- **Whatever follows**, the frame in progress ends within what it can still take. -/
theorem exists_take_idle (hcap : ∀ t n, F.Fits t n → n ≤ M) (s : State F) {bs : Bytes}
    (h : remaining M s ≤ bs.length) :
    ∃ k ≤ remaining M s, (feed F.step s (bs.take k)).1 = .idle := by
  induction bs generalizing s with
  | nil =>
    exact ⟨0, Nat.zero_le _, eq_idle_of_remaining (Nat.le_zero.mp h)⟩
  | cons b bs ih =>
    by_cases hs : s = .idle
    · exact ⟨0, Nat.zero_le _, hs⟩
    · have hlt := remaining_step_lt hcap hs b
      rw [List.length_cons] at h
      obtain ⟨k, hk, hidle⟩ := ih (F.step s b).1 (by omega)
      exact ⟨k + 1, by omega, hidle⟩

/-! ### The receiver in registers -/

/-- What a receiver in registers waits for. -/
inductive Phase where
  | waitSof
  | waitType
  | waitLenLo
  | waitLenHi
  | waitPayload
  | waitCheckLo
  | waitCheckHi
  deriving DecidableEq

/-- The registers of a receiver. What the phase does not need is left over from before. -/
structure Registers where
  phase : Phase
  type : UInt8
  expected : ℕ
  buf : Bytes
  check : ℕ

/-- One byte, with `accepts` for the test of the length. -/
def regStep (F : Format) (accepts : UInt8 → ℕ → Bool) (r : Registers) (b : UInt8) :
    Registers × Option (UInt8 × Bytes) :=
  match r.phase with
  | .waitSof => (if b = F.sof then { r with phase := .waitType } else r, none)
  | .waitType =>
    (if (F.cap b).isSome then { r with type := b, phase := .waitLenLo }
      else { r with phase := .waitSof }, none)
  | .waitLenLo => ({ r with expected := b.toNat, phase := .waitLenHi }, none)
  | .waitLenHi =>
    let n := r.expected ||| b.toNat <<< 8
    (if accepts r.type n then
      { r with expected := n, buf := [], phase := if n = 0 then .waitCheckLo else .waitPayload }
      else { r with expected := n, phase := .waitSof }, none)
  | .waitPayload =>
    ({ r with
        buf := r.buf ++ [b]
        phase := if r.expected ≤ r.buf.length + 1 then .waitCheckLo else .waitPayload }, none)
  | .waitCheckLo => ({ r with check := b.toNat, phase := .waitCheckHi }, none)
  | .waitCheckHi =>
    let c := r.check ||| b.toNat <<< 8
    ({ r with check := c, phase := .waitSof },
      if F.check (head r.type r.expected ++ r.buf) = c then some (r.type, r.buf) else none)

/-- The registers hold the frame in progress. -/
def Tracks (r : Registers) : State F → Prop
  | .idle => r.phase = .waitSof
  | .type => r.phase = .waitType
  | .lenLo t => r.phase = .waitLenLo ∧ r.type = t ∧ (F.cap t).isSome
  | .lenHi t lo => r.phase = .waitLenHi ∧ r.type = t ∧ (F.cap t).isSome ∧ r.expected = lo.toNat
  | .payload t n buf _ _ => r.phase = .waitPayload ∧ r.type = t ∧ r.expected = n ∧ r.buf = buf
  | .checkLo t buf _ =>
    r.phase = .waitCheckLo ∧ r.type = t ∧ r.expected = buf.length ∧ r.buf = buf
  | .checkHi t buf lo _ =>
    r.phase = .waitCheckHi ∧ r.type = t ∧ r.expected = buf.length ∧ r.buf = buf ∧
      r.check = lo.toNat

/-- Two bytes joined by a shift and an `or`. -/
theorem or_shift_eq_leNat (lo hi : UInt8) : lo.toNat ||| hi.toNat <<< 8 = leNat [lo, hi] := by
  have hlt : lo.toNat < 2 ^ 8 := lo.toNat_lt
  rw [Nat.or_comm, ← Nat.shiftLeft_add_eq_or_of_lt hlt, Nat.shiftLeft_eq, leNat_cons, leNat_cons,
    leNat_nil]
  ring

/-- **One byte in registers**: if the length test is the format's on known types, the registers keep
tracking the receiver and both deliver the same. -/
theorem regStep_tracks {accepts : UInt8 → ℕ → Bool}
    (haccepts : ∀ t n, (F.cap t).isSome → (accepts t n = true ↔ F.Fits t n))
    {r : Registers} {s : State F} (h : Tracks r s) (b : UInt8) :
    Tracks (regStep F accepts r b).1 (F.step s b).1 ∧
      (regStep F accepts r b).2 = (F.step s b).2 := by
  obtain ⟨phase, type, expected, buf, check⟩ := r
  cases s with
  | idle =>
    obtain rfl : phase = .waitSof := h
    refine ⟨?_, rfl⟩
    by_cases hb : b = F.sof
    · simp only [regStep, step, if_pos hb, Tracks]
    · simp only [regStep, step, if_neg hb, Tracks]
  | type =>
    obtain rfl : phase = .waitType := h
    refine ⟨?_, rfl⟩
    simp only [regStep, step]
    by_cases hb : (F.cap b).isSome
    · rw [if_pos hb, if_pos hb]
      exact ⟨rfl, rfl, hb⟩
    · rw [if_neg hb, if_neg hb]
      rfl
  | lenLo t =>
    obtain ⟨rfl, rfl, hknown⟩ : phase = .waitLenLo ∧ type = t ∧ _ := h
    exact ⟨⟨rfl, rfl, hknown, rfl⟩, rfl⟩
  | lenHi t lo =>
    obtain ⟨rfl, rfl, hknown, rfl⟩ : phase = .waitLenHi ∧ type = t ∧ _ ∧ expected = lo.toNat := h
    refine ⟨?_, rfl⟩
    simp only [regStep, step, or_shift_eq_leNat, haccepts _ _ hknown]
    by_cases hfits : F.Fits type (leNat [lo, b])
    · rw [if_pos hfits, dif_pos hfits, begin]
      -- An empty payload goes straight to the check.
      by_cases hn : leNat [lo, b] = 0
      · rw [if_pos hn, dif_pos hn]
        exact ⟨rfl, rfl, hn, rfl⟩
      · rw [if_neg hn, dif_neg hn]
        exact ⟨rfl, rfl, rfl, rfl⟩
    · rw [if_neg hfits, dif_neg hfits]
      rfl
  | payload t n buf' hlt hfits =>
    obtain ⟨rfl, rfl, rfl, rfl⟩ :
      phase = .waitPayload ∧ type = t ∧ expected = n ∧ buf = buf' := h
    refine ⟨?_, rfl⟩
    simp only [regStep, step]
    by_cases hmore : buf.length + 1 < expected
    · rw [if_neg (by omega), dif_pos hmore]
      exact ⟨rfl, rfl, rfl, rfl⟩
    · rw [if_pos (by omega), dif_neg hmore]
      refine ⟨rfl, rfl, ?_, rfl⟩
      rw [List.length_append, List.length_singleton]
      exact le_antisymm (not_lt.mp hmore) hlt
  | checkLo t buf' hfits =>
    obtain ⟨rfl, rfl, rfl, rfl⟩ :
      phase = .waitCheckLo ∧ type = t ∧ expected = buf'.length ∧ buf = buf' := h
    exact ⟨⟨rfl, rfl, rfl, rfl, rfl⟩, rfl⟩
  | checkHi t buf' lo hfits =>
    obtain ⟨rfl, rfl, rfl, rfl, rfl⟩ :
      phase = .waitCheckHi ∧ type = t ∧ expected = buf'.length ∧ buf = buf' ∧
        check = lo.toNat := h
    refine ⟨rfl, ?_⟩
    simp only [regStep, step, or_shift_eq_leNat]

end Format
