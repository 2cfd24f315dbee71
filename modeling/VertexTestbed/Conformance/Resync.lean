import VertexTestbed.Conformance.Framing

/-!
# No parser state is a trap

A start byte inside a payload is payload, so a truncated frame goes on reading what follows it.
`Unstuck` is the bound on that: every byte brings a frame in progress nearer to its end
(`Format.remaining_step_lt`), and the longest frame has 261 bytes behind its start byte. As for
exact framing, one argument (`unstuck_of_follows`) serves every parser that follows a receiver.

The board writes its payload into a buffer of `PROTO_MAX_PAYLOAD` bytes without a test of its own.
What keeps the index inside is the length, checked before the first payload byte
(`payload_within`).
-/

namespace VertexTestbed.Conformance

open Host Firmware

/-! ### What it means not to be stuck -/

/-- The states a parser can be in: bytes, timeouts and resets in any order. -/
inductive Reached {σ : Type} (step : σ → UInt8 → σ × Option Frame) (timeout reset : σ → σ)
    (init : σ) : σ → Prop
  | init : Reached step timeout reset init init
  | byte {s : σ} (h : Reached step timeout reset init s) (b : UInt8) :
    Reached step timeout reset init (step s b).1
  | timeout {s : σ} (h : Reached step timeout reset init s) :
    Reached step timeout reset init (timeout s)
  | reset {s : σ} (h : Reached step timeout reset init s) :
    Reached step timeout reset init (reset s)

/-- **No state is a trap** of a parser: `waiting` are its idle states. -/
structure Unstuck {σ : Type} (step : σ → UInt8 → σ × Option Frame) (timeout reset : σ → σ)
    (init : σ) (waiting : σ → Prop) : Prop where
  /-- 261 bytes that are no start bytes leave the parser idle, in whatever chunks they come and
  wherever a timeout falls between them. -/
  quiet : ∀ s, Reached step timeout reset init s → ∀ es : List LinkEvent,
    261 ≤ (stream es).length → Host.sof ∉ stream es → waiting (serve step timeout s es).1
  /-- Whatever the bytes are, the parser is idle again behind one of the first 261. -/
  passes : ∀ s, Reached step timeout reset init s → ∀ bs : Bytes, 261 ≤ bs.length →
    ∃ k ≤ 261, waiting (feed step s (bs.take k)).1

/-! ### Parsers that follow a receiver -/

section Follows

variable {F : Format} {σ : Type} {step : σ → UInt8 → σ × Option Frame} {timeout reset : σ → σ}
  {init : σ} {waiting : σ → Prop} {Follows : σ → F.State → Prop}

/-- A parser in a state it can be in follows some state of the receiver. -/
theorem Reached.follows
    (hinit : Follows init .idle)
    (hstep : ∀ s t b, Follows s t →
      Follows (step s b).1 (F.step t b).1 ∧ (step s b).2 = (F.step t b).2)
    (htimeout : ∀ s t, Follows s t → Follows (timeout s) (F.timeout t))
    (hreset : ∀ s, Follows (reset s) .idle) {s : σ} (h : Reached step timeout reset init s) :
    ∃ t, Follows s t := by
  induction h with
  | init => exact ⟨.idle, hinit⟩
  | byte _ b ih =>
    obtain ⟨t, ht⟩ := ih
    exact ⟨_, (hstep _ t b ht).1⟩
  | timeout _ ih =>
    obtain ⟨t, ht⟩ := ih
    exact ⟨_, htimeout _ t ht⟩
  | reset _ ih => exact ⟨.idle, hreset _⟩

/-- **A parser that follows a receiver of payloads up to 256 bytes is never stuck.** -/
theorem unstuck_of_follows
    (hsof : F.sof = Host.sof) (hcap : ∀ t n, F.Fits t n → n ≤ 256)
    (hidle : ∀ s, Follows s .idle → waiting s) (hinit : Follows init .idle)
    (hstep : ∀ s t b, Follows s t →
      Follows (step s b).1 (F.step t b).1 ∧ (step s b).2 = (F.step t b).2)
    (htimeout : ∀ s t, Follows s t → Follows (timeout s) (F.timeout t))
    (hreset : ∀ s, Follows (reset s) .idle) :
    Unstuck step timeout reset init waiting := by
  refine ⟨fun s hs es hlen hquiet ↦ ?_, fun s hs bs hlen ↦ ?_⟩
  · obtain ⟨t, ht⟩ := hs.follows hinit hstep htimeout hreset
    rw [← hsof] at hquiet
    have hle := Format.remaining_serve_le hcap t hquiet
    have hlong := Format.remaining_le hcap t
    have hend := (serve_related hstep htimeout ht es).1
    rw [Format.eq_idle_of_remaining (Nat.le_zero.mp (hle.trans (by omega)))] at hend
    exact hidle _ hend
  · obtain ⟨t, ht⟩ := hs.follows hinit hstep htimeout hreset
    have hlong := Format.remaining_le hcap t
    obtain ⟨k, hk, hk'⟩ := Format.exists_take_idle hcap t (hlong.trans hlen)
    have hend := (feed_related hstep ht (bs.take k)).1
    rw [hk'] at hend
    exact ⟨k, hk.trans hlong, hidle _ hend⟩

end Follows

/-! ### The payload buffer of the board -/

/-- What the board keeps of its payload index: it has not left the buffer, and while a byte is still
to be written there is room for it. -/
def IndexInside (p : ProtoParser) : Prop :=
  p.payload.length ≤ protoMaxPayload ∧
    (p.state = .waitPayload →
      p.payload.length < p.expected_len.toNat ∧ p.expected_len.toNat ≤ protoMaxPayload)

theorem indexInside_protoFeed {p : ProtoParser} (h : IndexInside p) (byte : UInt8) :
    IndexInside (protoFeed p byte).1 := by
  obtain ⟨hle, hroom⟩ := h
  obtain ⟨state, type, expected_len, payload, crc_rx, stats⟩ := p
  cases state with
  | waitSof | waitType =>
    simp only [protoFeed, protoStep]
    split_ifs
    · exact ⟨hle, by rintro ⟨⟩⟩
    · exact ⟨hle, by rintro ⟨⟩⟩
  | waitLenLo | waitCrcLo => exact ⟨hle, by rintro ⟨⟩⟩
  | waitLenHi =>
    simp only [protoFeed, protoStep]
    split_ifs with hlong hzero
    · exact ⟨hle, by rintro ⟨⟩⟩
    · exact ⟨Nat.zero_le _, by rintro ⟨⟩⟩
    · -- The length has passed both tests, and it is not zero.
      rw [not_or, not_lt, not_lt] at hlong
      refine ⟨Nat.zero_le _, fun _ ↦ ⟨Nat.pos_of_ne_zero fun h0 ↦ hzero ?_, hlong.2⟩⟩
      exact UInt16.toNat_inj.mp h0
  | waitPayload =>
    obtain ⟨hlt, hmax⟩ := hroom rfl
    simp only [protoFeed, protoStep]
    have hlen : (payload ++ [byte]).length = payload.length + 1 := List.length_append
    split_ifs with hdone
    · exact ⟨hlen.trans_le (hlt.trans_le hmax), by rintro ⟨⟩⟩
    · exact ⟨hlen.trans_le (hlt.trans_le hmax), fun _ ↦ ⟨not_le.mp hdone, hmax⟩⟩
  | waitCrcHi =>
    simp only [protoFeed, protoStep]
    split_ifs
    · exact ⟨hle, by rintro ⟨⟩⟩
    · exact ⟨hle, by rintro ⟨⟩⟩

theorem indexInside_reset (p : ProtoParser) : IndexInside (protoParserReset p) :=
  ⟨Nat.zero_le _, nofun⟩

/-- **The payload index stays inside the buffer.** -/
theorem payload_within {p : ProtoParser}
    (h : Reached protoFeed protoParserTimeout protoParserReset protoParserInit p) :
    IndexInside p := by
  induction h with
  | init => exact ⟨Nat.zero_le _, nofun⟩
  | byte _ b ih => exact indexInside_protoFeed ih b
  | timeout _ ih =>
    rw [protoParserTimeout]
    split_ifs
    · exact indexInside_reset _
    · exact ih
  | reset _ _ => exact indexInside_reset _

/-! ### The two parsers -/

/-- **Neither parser can be stuck**, and the board writes no payload byte outside its buffer. -/
theorem parsers_unstuck :
    Unstuck FrameParser.feedByte FrameParser.timeout FrameParser.reset FrameParser.init
        (fun p ↦ p.state = .waitSof) ∧
      Unstuck protoFeed protoParserTimeout protoParserReset protoParserInit
        (fun p ↦ p.state = .waitSof) ∧
      ∀ p, Reached protoFeed protoParserTimeout protoParserReset protoParserInit p →
        p.payload.length ≤ protoMaxPayload ∧
          (p.state = .waitPayload → p.payload.length < protoMaxPayload) := by
  refine ⟨?_, ?_, fun p hp ↦ ?_⟩
  · refine unstuck_of_follows (F := FrameParser.hostFormat) rfl ?_ ?_ (FrameParser.follows_idle rfl)
      FrameParser.feedByte_follows FrameParser.timeout_follows fun _ ↦ FrameParser.follows_idle rfl
    · exact fun t n hfits ↦ ((FrameParser.hostFormat_fits_iff t n).mp hfits).2
    · exact fun p ↦ FrameParser.state_of_follows_idle
  · refine unstuck_of_follows (F := boardFormat) rfl ?_ ?_ (protoFollows_idle rfl)
      protoFeed_follows protoParserTimeout_follows fun _ ↦ protoFollows_idle rfl
    · intro t n hfits
      obtain ⟨hknown, hn⟩ := (boardFormat_fits_iff t n).mp hfits
      exact hn.trans ((maxLenFor_le t).resolve_left hknown)
    · exact fun p ↦ state_of_protoFollows_idle
  · obtain ⟨hle, hroom⟩ := payload_within hp
    exact ⟨hle, fun hpayload ↦ (hroom hpayload).1.trans_le (hroom hpayload).2⟩

end VertexTestbed.Conformance
