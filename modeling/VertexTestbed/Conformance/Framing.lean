import VertexTestbed.Host.FrameParser
import VertexTestbed.Firmware.Parser

/-!
# Serial framing is exact

Both sides compute the same check (`protoCrc16_toNat`), build the same frames
(`protoBuild_eq_some_iff`) and receive them through the same seven states, so one argument serves
`FrameParser.feed` and `proto_feed`: `Framed` is what it means for a parser to deliver exactly what
was sent, and `framed_of_follows` gives it to every parser that follows a receiver of
`Lib.Framing`.
-/

namespace VertexTestbed.Conformance

open Host Firmware

/-! ### The two implementations of the format -/

theorem protoCrcBit_toNat (crc : UInt16) : (protoCrcBit crc).toNat = crc16Bit crc.toNat := by
  have hshift : (crc <<< 1).toNat = crc.toNat <<< 1 % 65536 := UInt16.toNat_shiftLeft crc 1
  have htop : crc &&& 0x8000 ≠ 0 ↔ crc.toNat &&& 0x8000 ≠ 0 := by
    rw [ne_eq, ne_eq, ← UInt16.toNat_inj, UInt16.toNat_and]
    rfl
  have hmask : ∀ n : ℕ, n &&& 0xFFFF = n % 65536 := fun n ↦ Nat.and_two_pow_sub_one_eq_mod n 16
  rw [protoCrcBit, crc16Bit]
  by_cases h : crc &&& 0x8000 ≠ 0
  · have hxor : (crc.toNat <<< 1 ^^^ 0x1021) % 2 ^ 16 = crc.toNat <<< 1 % 2 ^ 16 ^^^ 0x1021 :=
      Nat.xor_mod_two_pow
    rw [if_pos h, if_pos (htop.mp h), UInt16.toNat_xor, hshift, hmask]
    exact hxor.symm
  · rw [if_neg h, if_neg (htop.not.mp h), hshift, hmask]

theorem protoCrcByte_toNat (crc : UInt16) (byte : UInt8) :
    (protoCrcByte crc byte).toNat = crc16Byte crc.toNat byte := by
  have hbits : ∀ (n : ℕ) (c : UInt16), (protoCrcBit^[n] c).toNat = crc16Bit^[n] c.toNat := by
    intro n
    induction n with
    | zero => exact fun _ ↦ rfl
    | succ n ih =>
      intro c
      rw [Function.iterate_succ_apply, Function.iterate_succ_apply, ih, protoCrcBit_toNat]
  have hbyte := toNat_or_shift 0 byte
  rw [UInt16.zero_or] at hbyte
  rw [protoCrcByte, crc16Byte, hbits, UInt16.toNat_xor, hbyte]
  exact congrArg (fun n ↦ crc16Bit^[8] (crc.toNat ^^^ n)) (Nat.zero_or _)

/-- **Both sides compute the same check.** -/
theorem protoCrc16_toNat (data : Bytes) : (protoCrc16 data).toNat = crc16 data := by
  induction data using List.reverseRecOn with
  | nil => rfl
  | append_singleton data byte ih =>
    rw [protoCrc16, crc16, List.foldl_append, List.foldl_append]
    rw [protoCrc16, crc16] at ih
    show (protoCrcByte _ byte).toNat = crc16Byte _ byte
    rw [protoCrcByte_toNat, ih]

theorem boardFormat_build (t : UInt8) (p : Bytes) :
    boardFormat.build t p = FrameParser.hostFormat.build t p := by
  have hcheck := protoCrc16_toNat (Format.head t p.length ++ p)
  exact congrArg (fun c ↦ Host.sof :: (Format.head t p.length ++ p ++ leBytes 2 c)) hcheck

/-- **Both sides build the same frames**, the board where its buffer has the room. -/
theorem protoBuild_eq_some_iff (out_size : ℕ) (t : UInt8) (p bytes : Bytes) :
    protoBuild out_size t p = some bytes ↔
      buildFrame t p = .ok bytes ∧ p.length + protoOverhead ≤ out_size := by
  -- The two sides spell `MAX_PAYLOAD` separately.
  have hmax : maxPayload = protoMaxPayload := rfl
  by_cases hlong : protoMaxPayload < p.length
  · refine ⟨fun h ↦ ?_, fun h ↦ absurd (FrameParser.buildFrame_eq_ok h.1).1 ?_⟩
    · rw [protoBuild, if_pos hlong] at h
      cases h
    · rw [hmax]
      exact not_le.mpr hlong
  · rw [FrameParser.buildFrame_eq t (not_lt.mp hlong), protoBuild, if_neg hlong]
    by_cases hroom : out_size < p.length + protoOverhead
    · rw [if_pos hroom]
      refine ⟨fun h ↦ ?_, fun h ↦ absurd h.2 (not_le.mpr hroom)⟩
      cases h
    · rw [if_neg hroom]
      show some (boardFormat.build t p) = some bytes ↔ _
      rw [boardFormat_build]
      refine ⟨fun h ↦ ⟨congrArg Except.ok (Option.some.inj h), not_lt.mp hroom⟩, fun h ↦ ?_⟩
      exact congrArg some (Except.ok.inj h.1)

/-! ### What it means to deliver exactly -/

/-- The frames are cut from the stream: disjoint contiguous substrings of it, in its order, each
byte for byte what `build_frame` returns for the frame's type and payload. -/
def CutFrom : List Frame → Bytes → Prop
  | [], _ => True
  | f :: fs, s =>
    ∃ gap bytes rest, s = gap ++ bytes ++ rest ∧ buildFrame f.1 f.2 = .ok bytes ∧ CutFrom fs rest

/-- A frame on the line: its bytes, and what follows it up to the next frame. -/
structure Sent where
  frame : Frame
  bytes : Bytes
  gap : Bytes

/-- The line: what comes before the first frame, then frames and gaps. -/
def line (lead : Bytes) (sent : List Sent) : Bytes :=
  lead ++ sent.flatMap fun x ↦ x.bytes ++ x.gap

/-- The frame is a valid one of a type that the parser knows, and no start byte follows it before
the next frame. -/
def Sent.Clean (known : Frame → Prop) (x : Sent) : Prop :=
  known x.frame ∧ buildFrame x.frame.1 x.frame.2 = .ok x.bytes ∧ Host.sof ∉ x.gap

/-- **Exact framing** of a parser: `waiting` are its idle states and `known` the frames it is to
receive. -/
structure Framed {σ : Type} (step : σ → UInt8 → σ × Option Frame) (timeout : σ → σ)
    (waiting : σ → Prop) (known : Frame → Prop) : Prop where
  /-- Whatever arrives in whatever chunks, with timeouts anywhere, what is delivered was in the
  stream. -/
  sound : ∀ s, waiting s → ∀ es, CutFrom (serve step timeout s es).2 (stream es)
  /-- And known. -/
  known_of_mem : ∀ s, waiting s → ∀ es, ∀ f ∈ (serve step timeout s es).2, known f
  /-- From an idle state, or after a timeout, the frames sent are the frames delivered, however the
  line is cut into chunks. -/
  complete : ∀ s, (waiting s ∨ ∃ q, s = timeout q) →
    ∀ (lead : Bytes) (sent : List Sent) (chunks : List Bytes),
      chunks.flatten = line lead sent → Host.sof ∉ lead → (∀ x ∈ sent, x.Clean known) →
        (serve step timeout s (chunks.map .chunk)).2 = sent.map Sent.frame

/-! ### Parsers that follow a receiver -/

section Follows

variable {F : Format} {known : Frame → Prop}

theorem cutFrom_of_occurs
    (hbuild : ∀ f, F.Valid f → buildFrame f.1 f.2 = .ok (F.build f.1 f.2)) {fs : List Frame}
    {s : Bytes} (h : F.Occurs fs s) : CutFrom fs s := by
  induction fs generalizing s with
  | nil => trivial
  | cons f fs ih =>
    obtain ⟨gap, rest, hs, hvalid, hrest⟩ := h
    exact ⟨gap, F.build f.1 f.2, rest, hs, hbuild f hvalid, ih hrest⟩

theorem valid_of_occurs {fs : List Frame} {s : Bytes} (h : F.Occurs fs s) :
    ∀ f ∈ fs, F.Valid f := by
  induction fs generalizing s with
  | nil => exact fun f hf ↦ absurd hf List.not_mem_nil
  | cons f fs ih =>
    obtain ⟨gap, rest, -, hvalid, hrest⟩ := h
    intro g hg
    rcases List.mem_cons.mp hg with rfl | hmem
    · exact hvalid
    · exact ih hrest g hmem

/-- The line of clean frames is the receiver's weave. -/
theorem line_eq_weave
    (hbuild : ∀ f, F.Valid f → buildFrame f.1 f.2 = .ok (F.build f.1 f.2))
    (hknown : ∀ f, known f → f.2.length ≤ maxPayload → F.Valid f)
    (lead : Bytes) {sent : List Sent} (h : ∀ x ∈ sent, x.Clean known) :
    line lead sent = F.weave lead (sent.map fun x ↦ (x.frame, x.gap)) := by
  induction sent generalizing lead with
  | nil => exact List.append_nil lead
  | cons x sent ih =>
    obtain ⟨hx, hbytes, -⟩ := h x List.mem_cons_self
    have hvalid := hknown _ hx (FrameParser.buildFrame_eq_ok hbytes).1
    have heq : x.bytes = F.build x.frame.1 x.frame.2 :=
      Except.ok.inj (hbytes.symm.trans (hbuild _ hvalid))
    have hrest := ih x.gap fun y hy ↦ h y (List.mem_cons_of_mem _ hy)
    rw [line] at hrest
    rw [line, List.flatMap_cons, List.append_assoc, hrest, heq]
    rfl

/-- **A parser that follows a receiver delivers exactly.** -/
theorem framed_of_follows {σ : Type} {step : σ → UInt8 → σ × Option Frame} {timeout : σ → σ}
    {waiting : σ → Prop} {Follows : σ → F.State → Prop}
    (hsof : F.sof = Host.sof)
    (hbuild : ∀ f, F.Valid f → buildFrame f.1 f.2 = .ok (F.build f.1 f.2))
    (hvalid : ∀ f, F.Valid f → known f)
    (hknown : ∀ f, known f → f.2.length ≤ maxPayload → F.Valid f)
    (hidle : ∀ s, waiting s → Follows s .idle) (hwaiting : ∀ q, waiting (timeout q))
    (hstep : ∀ s t b, Follows s t →
      Follows (step s b).1 (F.step t b).1 ∧ (step s b).2 = (F.step t b).2)
    (htimeout : ∀ s t, Follows s t → Follows (timeout s) (F.timeout t)) :
    Framed step timeout waiting known := by
  -- Soundness is the receiver's, carried over by the simulation.
  have hoccurs : ∀ s, waiting s → ∀ es, F.Occurs (serve step timeout s es).2 (stream es) := by
    intro s hs es
    rw [(serve_related hstep htimeout (hidle s hs) es).2]
    exact Format.occurs_serve .idle es
  refine ⟨fun s hs es ↦ cutFrom_of_occurs hbuild (hoccurs s hs es),
    fun s hs es f hf ↦ hvalid f (valid_of_occurs (hoccurs s hs es) f hf), ?_⟩
  intro s hs lead sent chunks hline hlead hclean
  have hwait : waiting s := by
    obtain h | ⟨q, rfl⟩ := hs
    · exact h
    · exact hwaiting q
  rw [(serve_related hstep htimeout (hidle s hwait) _).2, serve_chunks, hline,
    line_eq_weave hbuild hknown lead hclean, Format.feed_weave (by rwa [hsof])]
  · rw [List.map_map]
    rfl
  · intro f hf
    obtain ⟨x, hx, rfl⟩ := List.mem_map.mp hf
    obtain ⟨hxknown, hbytes, hgap⟩ := hclean x hx
    have hlen := (FrameParser.buildFrame_eq_ok hbytes).1
    refine ⟨hknown _ hxknown hlen, lt_of_le_of_lt hlen (by decide), ?_⟩
    rwa [hsof]

end Follows

/-! ### The two parsers -/

/-- The host knows the types of `FrameType`. -/
def HostKnows (f : Frame) : Prop :=
  isKnownType f.1 = true

/-- The board knows its inbound types, each up to its own length. -/
def BoardKnows (f : Frame) : Prop :=
  maxLenFor f.1 ≠ 0xFFFF ∧ f.2.length ≤ maxLenFor f.1

/-- **Serial framing is sound and complete** on the host and on the board. -/
theorem serial_framing_exact :
    Framed FrameParser.feedByte FrameParser.timeout (fun p ↦ p.state = .waitSof) HostKnows ∧
      Framed protoFeed protoParserTimeout (fun p ↦ p.state = .waitSof) BoardKnows := by
  constructor
  · refine framed_of_follows (F := FrameParser.hostFormat) rfl ?_ ?_ ?_
      (fun p ↦ FrameParser.follows_idle) FrameParser.timeout_state FrameParser.feedByte_follows
      FrameParser.timeout_follows
    · exact fun f hf ↦
        FrameParser.buildFrame_eq f.1 ((FrameParser.hostFormat_fits_iff _ _).mp hf).2
    · exact fun f hf ↦ ((FrameParser.hostFormat_fits_iff _ _).mp hf).1
    · exact fun f hf hlen ↦ (FrameParser.hostFormat_fits_iff _ _).mpr ⟨hf, hlen⟩
  · refine framed_of_follows (F := boardFormat) rfl ?_ ?_ ?_ (fun p ↦ protoFollows_idle)
      protoParserTimeout_state protoFeed_follows protoParserTimeout_follows
    · intro f hf
      obtain ⟨hcap, hlen⟩ := (boardFormat_fits_iff _ _).mp hf
      have hshort := hlen.trans ((maxLenFor_le f.1).resolve_left hcap)
      rw [FrameParser.buildFrame_eq f.1 hshort, boardFormat_build]
    · exact fun f hf ↦ (boardFormat_fits_iff _ _).mp hf
    · exact fun f hf _ ↦ (boardFormat_fits_iff _ _).mpr hf

end VertexTestbed.Conformance
