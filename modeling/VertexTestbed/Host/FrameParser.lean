import VertexTestbed.Host.Proto
import VertexTestbed.Lib.Framing

/-!
# The framed protocol, host side: the check, the frame builder and the parser

`crc16`, `build_frame` and `FrameParser` of `serial/proto.py`. `_step` returns the parser together
with the frame it completes, if any; `feed` counts a byte and steps.

The parser is the register form of the receiver of `hostFormat` (`feedByte_registers`), so it tracks
that receiver over every stream (`feedByte_tracks`).
-/

namespace VertexTestbed.Host

/-! ### The check -/

/-- One shift of the remainder. -/
def crc16Bit (crc : ℕ) : ℕ :=
  if crc &&& 0x8000 ≠ 0 then ((crc <<< 1) ^^^ 0x1021) &&& 0xFFFF else (crc <<< 1) &&& 0xFFFF

/-- One byte of `crc16`. -/
def crc16Byte (crc : ℕ) (byte : UInt8) : ℕ :=
  crc16Bit^[8] (crc ^^^ byte.toNat <<< 8)

/-- `crc16`, CRC-16/CCITT-FALSE. -/
def crc16 (data : Bytes) : ℕ :=
  data.foldl crc16Byte 0xFFFF

/-- A masked value has sixteen bits. -/
theorem and_ffff_lt (n : ℕ) : n &&& 0xFFFF < 65536 :=
  lt_of_le_of_lt Nat.and_le_right (by decide)

theorem crc16Bit_lt (crc : ℕ) : crc16Bit crc < 65536 := by
  rw [crc16Bit]
  split_ifs
  · exact and_ffff_lt _
  · exact and_ffff_lt _

theorem crc16Byte_lt (crc : ℕ) (byte : UInt8) : crc16Byte crc byte < 65536 := by
  rw [crc16Byte, Function.iterate_succ_apply']
  exact crc16Bit_lt _

theorem crc16_lt (data : Bytes) : crc16 data < 65536 := by
  induction data using List.reverseRecOn with
  | nil => decide
  | append_singleton data byte =>
    rw [crc16, List.foldl_append]
    exact crc16Byte_lt _ byte

/-- The check value the source quotes for `b"123456789"`. -/
example : crc16 [0x31, 0x32, 0x33, 0x34, 0x35, 0x36, 0x37, 0x38, 0x39] = 0x29B1 := by
  decide +kernel

/-! ### Frames -/

/-- `SOF`. -/
def sof : UInt8 := 0x7E

/-- `MAX_PAYLOAD`. -/
def maxPayload : ℕ := 256

/-- `Frame`: type and payload. -/
abbrev Frame := UInt8 × Bytes

/-- `build_frame`. -/
def buildFrame (frame_type : UInt8) (payload : Bytes) : Except EncodeError Bytes := do
  raiseIf (maxPayload < payload.length)
    (.proto ("payload of " ++ toString payload.length ++ " exceeds " ++ toString maxPayload))
  let head := frame_type :: leBytes 2 payload.length
  return [sof] ++ head ++ payload ++ leBytes 2 (crc16 (head ++ payload))

/-- `tuple(FrameType)`. -/
def FrameType.all : List FrameType :=
  [.network, .algorithm, .disturbance, .control, .advTx, .radio, .ping, .statsReq, .mgPlant,
    .mgVirtual, .mgIface, .txat, .advReport, .state, .ack, .err, .pong, .stats]

/-- These are all the frame types. -/
theorem FrameType.mem_all (t : FrameType) : t ∈ FrameType.all := by
  cases t <;> decide

/-- The keys of `PAYLOAD_LEN`. -/
def payloadLenKeys : List FrameType :=
  [.network, .algorithm, .disturbance, .control, .radio, .ping, .statsReq, .advTx]

/-- `byte in PAYLOAD_LEN or byte in tuple(FrameType)`. -/
def isKnownType (byte : UInt8) : Bool :=
  byte ∈ payloadLenKeys.map FrameType.value || byte ∈ FrameType.all.map FrameType.value

/-- The known types are the frame types: `PAYLOAD_LEN` adds none. -/
theorem isKnownType_iff (byte : UInt8) :
    isKnownType byte = true ↔ ∃ t : FrameType, t.value = byte := by
  simp only [isKnownType, Bool.or_eq_true, decide_eq_true_eq, List.mem_map]
  refine ⟨?_, fun ⟨t, ht⟩ ↦ Or.inr ⟨t, t.mem_all, ht⟩⟩
  rintro (⟨t, -, ht⟩ | ⟨t, -, ht⟩)
  · exact ⟨t, ht⟩
  · exact ⟨t, ht⟩

/-! ### The parser -/

/-- `ParserStats`. -/
structure ParserStats where
  frames_ok : ℕ
  crc_errors : ℕ
  len_errors : ℕ
  resyncs : ℕ
  timeouts : ℕ
  bytes_in : ℕ

/-- The states of the parser. -/
inductive ParserState where
  | waitSof
  | waitType
  | waitLenLo
  | waitLenHi
  | waitPayload
  | waitCrcLo
  | waitCrcHi
  deriving DecidableEq

/-- `FrameParser`. -/
structure FrameParser where
  state : ParserState
  type : UInt8
  expected : ℕ
  buf : Bytes
  crc_rx : ℕ
  stats : ParserStats

namespace FrameParser

/-- `reset`. -/
def reset (p : FrameParser) : FrameParser :=
  { p with state := .waitSof, type := 0, expected := 0, buf := [], crc_rx := 0 }

/-- `__init__`. -/
def init : FrameParser :=
  { state := .waitSof, type := 0, expected := 0, buf := [], crc_rx := 0
    stats := { frames_ok := 0, crc_errors := 0, len_errors := 0, resyncs := 0, timeouts := 0
               bytes_in := 0 } }

/-- `in_frame`. -/
def inFrame (p : FrameParser) : Bool :=
  p.state ≠ .waitSof

/-- `timeout`. -/
def timeout (p : FrameParser) : FrameParser :=
  if p.inFrame then
    reset { p with stats := { p.stats with timeouts := p.stats.timeouts + 1 } }
  else p

/-- `_step`. -/
def step (p : FrameParser) (byte : UInt8) : FrameParser × Option Frame :=
  match p.state with
  | .waitSof => (if byte = sof then { p with state := .waitType } else p, none)
  | .waitType =>
    (if isKnownType byte then { p with type := byte, state := .waitLenLo }
      else
        { p with
          stats := { p.stats with resyncs := p.stats.resyncs + 1 }
          state := .waitSof },
      none)
  | .waitLenLo => ({ p with expected := byte.toNat, state := .waitLenHi }, none)
  | .waitLenHi =>
    let expected := p.expected ||| byte.toNat <<< 8
    -- The length is held against the largest payload, and not against that of the type.
    (if maxPayload < expected then
        { p with
          expected := expected
          stats := { p.stats with
            len_errors := p.stats.len_errors + 1
            resyncs := p.stats.resyncs + 1 }
          state := .waitSof }
      else
        { p with
          expected := expected
          buf := []
          state := if expected = 0 then .waitCrcLo else .waitPayload },
      none)
  | .waitPayload =>
    let buf := p.buf ++ [byte]
    ({ p with
        buf := buf
        state := if p.expected ≤ buf.length then .waitCrcLo else .waitPayload },
      none)
  | .waitCrcLo => ({ p with crc_rx := byte.toNat, state := .waitCrcHi }, none)
  | .waitCrcHi =>
    let crc_rx := p.crc_rx ||| byte.toNat <<< 8
    let head := p.type :: leBytes 2 p.expected
    if crc16 (head ++ p.buf) = crc_rx then
      ({ p with
          crc_rx := crc_rx
          state := .waitSof
          stats := { p.stats with frames_ok := p.stats.frames_ok + 1 } },
        some (p.type, p.buf))
    else
      ({ p with
          crc_rx := crc_rx
          state := .waitSof
          stats := { p.stats with
            crc_errors := p.stats.crc_errors + 1
            resyncs := p.stats.resyncs + 1 } },
        none)

/-- One byte of `feed`. -/
def feedByte (p : FrameParser) (byte : UInt8) : FrameParser × Option Frame :=
  step { p with stats := { p.stats with bytes_in := p.stats.bytes_in + 1 } } byte

/-! ### The receiver it is -/

/-- The format the host receives: every frame type, up to `MAX_PAYLOAD` bytes. -/
def hostFormat : Format where
  sof := sof
  cap := fun byte ↦ if isKnownType byte then some maxPayload else none
  check := crc16
  check_lt := crc16_lt

/-- A type has a capacity exactly when it is known. -/
theorem hostFormat_cap_isSome (byte : UInt8) :
    (hostFormat.cap byte).isSome = isKnownType byte := by
  show (if isKnownType byte then some maxPayload else none).isSome = _
  cases isKnownType byte <;> rfl

/-- What the host's parser accepts: a known type and a payload of at most `maxPayload` bytes. -/
theorem hostFormat_fits_iff (t : UInt8) (n : ℕ) :
    hostFormat.Fits t n ↔ isKnownType t = true ∧ n ≤ maxPayload := by
  show (∃ c, (if isKnownType t then some maxPayload else none) = some c ∧ n ≤ c) ↔ _
  cases isKnownType t <;> simp

/-- **The builder writes the format's frames**, up to `MAX_PAYLOAD`. -/
theorem buildFrame_eq (t : UInt8) {p : Bytes} (h : p.length ≤ maxPayload) :
    buildFrame t p = .ok (hostFormat.build t p) := by
  rw [buildFrame, raiseIf, if_neg (not_lt.mpr h)]
  rfl

/-- What a frame that is built consists of. -/
theorem buildFrame_eq_ok {t : UInt8} {p bytes : Bytes} (h : buildFrame t p = .ok bytes) :
    p.length ≤ maxPayload ∧ bytes = hostFormat.build t p := by
  have hlen : p.length ≤ maxPayload := by
    by_contra hlong
    rw [buildFrame, raiseIf, if_pos (not_le.mp hlong)] at h
    cases h
  rw [buildFrame_eq t hlen] at h
  exact ⟨hlen, (Except.ok.inj h).symm⟩

/-- The state as a phase. -/
def phase : ParserState → Format.Phase
  | .waitSof => .waitSof
  | .waitType => .waitType
  | .waitLenLo => .waitLenLo
  | .waitLenHi => .waitLenHi
  | .waitPayload => .waitPayload
  | .waitCrcLo => .waitCheckLo
  | .waitCrcHi => .waitCheckHi

/-- The parser without its counters. -/
def registers (p : FrameParser) : Format.Registers where
  phase := phase p.state
  type := p.type
  expected := p.expected
  buf := p.buf
  check := p.crc_rx

/-- `_step`'s test of the length, which does not look at the type. -/
def accepts (_ : UInt8) (n : ℕ) : Bool :=
  n ≤ maxPayload

/-- **The parser is the receiver in registers.** -/
theorem feedByte_registers (p : FrameParser) (byte : UInt8) :
    (registers (p.feedByte byte).1, (p.feedByte byte).2) =
      Format.regStep hostFormat accepts (registers p) byte := by
  obtain ⟨state, type, expected, buf, crc_rx, stats⟩ := p
  cases state with
  | waitSof =>
    show (registers (ite _ _ _), none) = (ite _ _ _, none)
    rw [apply_ite registers]
    rfl
  | waitType =>
    show (registers (ite _ _ _), none) = (ite ((hostFormat.cap byte).isSome = true) _ _, none)
    rw [apply_ite registers, hostFormat_cap_isSome]
    rfl
  | waitLenLo => rfl
  | waitLenHi =>
    show (registers (ite (maxPayload < expected ||| byte.toNat <<< 8) _ _), none) =
      (ite (accepts type (expected ||| byte.toNat <<< 8) = true) _ _, none)
    by_cases hlong : maxPayload < expected ||| byte.toNat <<< 8
    · have hrefused : ¬accepts type (expected ||| byte.toNat <<< 8) = true := by
        rw [accepts, decide_eq_true_eq]
        exact not_le.mpr hlong
      rw [if_pos hlong, if_neg hrefused]
      rfl
    · have haccepted : accepts type (expected ||| byte.toNat <<< 8) = true := by
        rw [accepts, decide_eq_true_eq]
        exact not_lt.mp hlong
      rw [if_neg hlong, if_pos haccepted]
      simp only [registers, apply_ite phase]
      rfl
  | waitPayload =>
    simp only [feedByte, step, registers, apply_ite phase, List.length_append,
      List.length_singleton]
    rfl
  | waitCrcLo => rfl
  | waitCrcHi =>
    simp only [feedByte, step, apply_ite Prod.fst, apply_ite Prod.snd, apply_ite registers]
    exact Prod.ext (ite_self _) rfl

/-- The parser follows the receiver `s`. -/
def Follows (p : FrameParser) (s : Format.State hostFormat) : Prop :=
  Format.Tracks (registers p) s

/-- **A byte moves the parser as it moves the format's machine.** -/
theorem feedByte_follows (p : FrameParser) (s : Format.State hostFormat) (byte : UInt8)
    (h : Follows p s) :
    Follows (p.feedByte byte).1 (hostFormat.step s byte).1 ∧
      (p.feedByte byte).2 = (hostFormat.step s byte).2 := by
  have haccepts : ∀ t n, (hostFormat.cap t).isSome →
      (accepts t n = true ↔ hostFormat.Fits t n) := by
    intro t n hknown
    rw [hostFormat_cap_isSome] at hknown
    rw [hostFormat_fits_iff, accepts, decide_eq_true_eq]
    exact ⟨fun hn ↦ ⟨hknown, hn⟩, fun hfits ↦ hfits.2⟩
  have htracks := Format.regStep_tracks haccepts h byte
  rwa [← feedByte_registers] at htracks

/-- Waiting for a start byte is the receiver's idle state. -/
theorem follows_idle {p : FrameParser} (h : p.state = .waitSof) : Follows p .idle :=
  congrArg phase h

/-- Between frames the parser waits for a start byte. -/
theorem state_of_follows_idle {p : FrameParser} (h : Follows p .idle) : p.state = .waitSof := by
  have hphase : phase p.state = .waitSof := h
  cases hs : p.state with
  | waitSof => rfl
  | waitType | waitLenLo | waitLenHi | waitPayload | waitCrcLo | waitCrcHi =>
    rw [hs] at hphase
    cases hphase

/-- `timeout` leaves no partial frame behind. -/
theorem timeout_state (p : FrameParser) : p.timeout.state = .waitSof := by
  rw [timeout]
  split_ifs with h
  · rfl
  · simpa [inFrame] using h

/-- A timeout moves both to the same state. -/
theorem timeout_follows (p : FrameParser) (s : Format.State hostFormat) (_ : Follows p s) :
    Follows p.timeout (hostFormat.timeout s) :=
  follows_idle p.timeout_state

end FrameParser

end VertexTestbed.Host
