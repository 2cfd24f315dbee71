import VertexTestbed.Firmware.Proto
import VertexTestbed.Lib.Framing

/-!
# The framed protocol, board side: the check, the frame builder and the parser

`proto_crc16`, `proto_build` and `proto_feed` of `proto.c`, one byte at a time. The payload buffer
is the list of the bytes received, so that `received_len` is its length; the callback of `deliver`
is the frame returned with the parser.

Like the host's, the parser is the register form of a receiver (`protoFeed_registers`), that of
`boardFormat`.
-/

namespace VertexTestbed.Firmware

/-! ### The check -/

/-- One shift of the remainder. -/
def protoCrcBit (crc : UInt16) : UInt16 :=
  if crc &&& 0x8000 ≠ 0 then (crc <<< 1) ^^^ 0x1021 else crc <<< 1

/-- One byte of `proto_crc16`. -/
def protoCrcByte (crc : UInt16) (byte : UInt8) : UInt16 :=
  protoCrcBit^[8] (crc ^^^ byte.toUInt16 <<< 8)

/-- `proto_crc16`. -/
def protoCrc16 (data : Bytes) : UInt16 :=
  data.foldl protoCrcByte 0xFFFF

/-! ### Frames -/

/-- `PROTO_SOF`. -/
def protoSof : UInt8 := 0x7E

/-- `PROTO_MAX_PAYLOAD`. -/
def protoMaxPayload : ℕ := 256

/-- `PROTO_OVERHEAD`: marker, type, length and check. -/
def protoOverhead : ℕ := 6

/-- `max_len_for`: 0xFFFF for an unknown type. -/
def maxLenFor (type : UInt8) : ℕ :=
  if type = protoTNetwork then protoNetworkMaxLen
  else if type = protoTAlgorithm then protoAlgorithmLen
  else if type = protoTDisturbance then protoDisturbanceLen
  else if type = protoTControl then protoControlLen
  else if type = protoTRadio then protoRadioLen
  else if type = protoTPing then protoPingLen
  else if type = protoTStatsReq then protoStatsReqLen
  else if type = protoTAdvTx then protoMaxPayload
  else if type = protoTMgPlant then protoMgPlantLen
  else if type = protoTMgVirtual then protoMgVirtualLen
  else if type = protoTMgIface then protoMgIfaceLen
  else 0xFFFF

/-- Every cap but the sentinel is within `PROTO_MAX_PAYLOAD`. -/
theorem maxLenFor_le (type : UInt8) :
    maxLenFor type = 0xFFFF ∨ maxLenFor type ≤ protoMaxPayload := by
  rw [maxLenFor]
  split_ifs <;> decide

/-- `proto_build` into a buffer of `out_size` bytes; `none` where the source returns 0. -/
def protoBuild (out_size : ℕ) (type : UInt8) (payload : Bytes) : Option Bytes :=
  if protoMaxPayload < payload.length then none
  else if out_size < payload.length + protoOverhead then none
  else
    let body := type :: (leBytes 2 payload.length ++ payload)
    some (protoSof :: (body ++ leBytes 2 (protoCrc16 body).toNat))

/-! ### The parser -/

/-- `struct proto_stats`. -/
structure ProtoStats where
  frames_ok : UInt32
  crc_errors : UInt32
  len_errors : UInt32
  resyncs : UInt32
  timeouts : UInt32
  bytes_in : UInt32

/-- `enum proto_state`. -/
inductive ProtoState where
  | waitSof
  | waitType
  | waitLenLo
  | waitLenHi
  | waitPayload
  | waitCrcLo
  | waitCrcHi
  deriving DecidableEq

/-- `struct proto_parser`. -/
structure ProtoParser where
  state : ProtoState
  type : UInt8
  expected_len : UInt16
  payload : Bytes
  crc_rx : UInt16
  stats : ProtoStats

/-- `proto_parser_init`. -/
def protoParserInit : ProtoParser where
  state := .waitSof
  type := 0
  expected_len := 0
  payload := []
  crc_rx := 0
  stats :=
    { frames_ok := 0, crc_errors := 0, len_errors := 0, resyncs := 0, timeouts := 0, bytes_in := 0 }

/-- `proto_parser_reset`. -/
def protoParserReset (p : ProtoParser) : ProtoParser :=
  { p with state := .waitSof, payload := [], expected_len := 0 }

/-- `proto_parser_timeout`. -/
def protoParserTimeout (p : ProtoParser) : ProtoParser :=
  if p.state ≠ .waitSof then
    protoParserReset { p with stats := { p.stats with timeouts := p.stats.timeouts + 1 } }
  else p

/-- The body of the loop of `proto_feed`, behind the byte counter. -/
def protoStep (p : ProtoParser) (byte : UInt8) : ProtoParser × Option (UInt8 × Bytes) :=
  match p.state with
  | .waitSof => (if byte = protoSof then { p with state := .waitType } else p, none)
  | .waitType =>
    (if maxLenFor byte = 0xFFFF then
        { p with
          stats := { p.stats with resyncs := p.stats.resyncs + 1 }
          state := .waitSof }
      else { p with type := byte, state := .waitLenLo },
      none)
  | .waitLenLo => ({ p with expected_len := byte.toUInt16, state := .waitLenHi }, none)
  | .waitLenHi =>
    let expected_len := p.expected_len ||| byte.toUInt16 <<< 8
    (if maxLenFor p.type < expected_len.toNat ∨ protoMaxPayload < expected_len.toNat then
        { p with
          expected_len := expected_len
          stats := { p.stats with
            len_errors := p.stats.len_errors + 1
            resyncs := p.stats.resyncs + 1 }
          state := .waitSof }
      else
        { p with
          expected_len := expected_len
          payload := []
          state := if expected_len = 0 then .waitCrcLo else .waitPayload },
      none)
  | .waitPayload =>
    let payload := p.payload ++ [byte]
    ({ p with
        payload := payload
        state := if p.expected_len.toNat ≤ payload.length then .waitCrcLo else .waitPayload },
      none)
  | .waitCrcLo => ({ p with crc_rx := byte.toUInt16, state := .waitCrcHi }, none)
  | .waitCrcHi =>
    let crc_rx := p.crc_rx ||| byte.toUInt16 <<< 8
    let head := p.type :: leBytes 2 p.expected_len.toNat
    -- The source continues the remainder over the payload.
    if p.payload.foldl protoCrcByte (protoCrc16 head) = crc_rx then
      ({ p with
          crc_rx := crc_rx
          stats := { p.stats with frames_ok := p.stats.frames_ok + 1 }
          state := .waitSof },
        some (p.type, p.payload))
    else
      ({ p with
          crc_rx := crc_rx
          stats := { p.stats with
            crc_errors := p.stats.crc_errors + 1
            resyncs := p.stats.resyncs + 1 }
          state := .waitSof },
        none)

/-- One byte of `proto_feed`. -/
def protoFeed (p : ProtoParser) (byte : UInt8) : ProtoParser × Option (UInt8 × Bytes) :=
  protoStep { p with stats := { p.stats with bytes_in := p.stats.bytes_in + 1 } } byte

/-! ### The receiver it is -/

/-- The format the board receives: the types it knows, each up to its own length. -/
def boardFormat : Format where
  sof := protoSof
  cap := fun byte ↦ if maxLenFor byte = 0xFFFF then none else some (maxLenFor byte)
  check := fun bs ↦ (protoCrc16 bs).toNat
  check_lt := fun bs ↦ (protoCrc16 bs).toNat_lt

theorem boardFormat_cap_isSome (byte : UInt8) :
    (boardFormat.cap byte).isSome = true ↔ maxLenFor byte ≠ 0xFFFF := by
  show (if maxLenFor byte = 0xFFFF then none else some (maxLenFor byte)).isSome = true ↔ _
  by_cases h : maxLenFor byte = 0xFFFF
  · simp [h]
  · simp [h]

theorem boardFormat_fits_iff (t : UInt8) (n : ℕ) :
    boardFormat.Fits t n ↔ maxLenFor t ≠ 0xFFFF ∧ n ≤ maxLenFor t := by
  show (∃ c, (if maxLenFor t = 0xFFFF then none else some (maxLenFor t)) = some c ∧ n ≤ c) ↔ _
  by_cases h : maxLenFor t = 0xFFFF
  · simp [h]
  · simp [h]

/-- The state as a phase. -/
def protoPhase : ProtoState → Format.Phase
  | .waitSof => .waitSof
  | .waitType => .waitType
  | .waitLenLo => .waitLenLo
  | .waitLenHi => .waitLenHi
  | .waitPayload => .waitPayload
  | .waitCrcLo => .waitCheckLo
  | .waitCrcHi => .waitCheckHi

/-- The parser without its counters. -/
def protoRegisters (p : ProtoParser) : Format.Registers where
  phase := protoPhase p.state
  type := p.type
  expected := p.expected_len.toNat
  buf := p.payload
  check := p.crc_rx.toNat

/-- `proto_feed`'s test of the length. -/
def protoAccepts (t : UInt8) (n : ℕ) : Bool :=
  ¬(maxLenFor t < n ∨ protoMaxPayload < n)

/-- Assembling a 16-bit field. -/
theorem toNat_or_shift (a : UInt16) (byte : UInt8) :
    (a ||| byte.toUInt16 <<< 8).toNat = a.toNat ||| byte.toNat <<< 8 := by
  have hbyte := byte.toNat_lt
  have hlt : byte.toNat <<< 8 < 65536 := by
    rw [Nat.shiftLeft_eq]
    omega
  rw [UInt16.toNat_or, UInt16.toNat_shiftLeft]
  show a.toNat ||| byte.toUInt16.toNat <<< 8 % 65536 = _
  rw [UInt8.toNat_toUInt16, Nat.mod_eq_of_lt hlt]

/-- **The parser is the receiver in registers.** -/
theorem protoFeed_registers (p : ProtoParser) (byte : UInt8) :
    (protoRegisters (protoFeed p byte).1, (protoFeed p byte).2) =
      Format.regStep boardFormat protoAccepts (protoRegisters p) byte := by
  obtain ⟨state, type, expected_len, payload, crc_rx, stats⟩ := p
  cases state with
  | waitSof =>
    show (protoRegisters (ite _ _ _), none) = (ite _ _ _, none)
    rw [apply_ite protoRegisters]
    rfl
  | waitType =>
    show (protoRegisters (ite _ _ _), none) = (ite ((boardFormat.cap byte).isSome = true) _ _, none)
    by_cases hunknown : maxLenFor byte = 0xFFFF
    · have hnone := (boardFormat_cap_isSome byte).not.mpr (not_not.mpr hunknown)
      rw [if_pos hunknown, if_neg hnone]
      rfl
    · rw [if_neg hunknown, if_pos ((boardFormat_cap_isSome byte).mpr hunknown)]
      rfl
  | waitLenLo => rfl
  | waitLenHi =>
    -- The board joins the two bytes in sixteen bits, the format in the natural numbers.
    have hjoin := toNat_or_shift expected_len byte
    show (protoRegisters (ite (_ ∨ _) _ _), none) =
      (ite (protoAccepts type (expected_len.toNat ||| byte.toNat <<< 8) = true) _ _, none)
    by_cases hlong : maxLenFor type < (expected_len ||| byte.toUInt16 <<< 8).toNat ∨
        protoMaxPayload < (expected_len ||| byte.toUInt16 <<< 8).toNat
    · have hrefused : ¬protoAccepts type (expected_len.toNat ||| byte.toNat <<< 8) = true := by
        rw [← hjoin, protoAccepts, decide_eq_true_eq]
        exact not_not.mpr hlong
      rw [if_pos hlong, if_neg hrefused]
      exact Prod.ext
        (congrArg (Format.Registers.mk .waitSof type · payload crc_rx.toNat) hjoin) rfl
    · have haccepted : protoAccepts type (expected_len.toNat ||| byte.toNat <<< 8) = true := by
        rw [← hjoin, protoAccepts, decide_eq_true_eq]
        exact hlong
      rw [if_neg hlong, if_pos haccepted]
      simp only [protoRegisters, apply_ite protoPhase, ← UInt16.toNat_inj]
      exact Prod.ext
        (congrArg
          (fun n ↦ Format.Registers.mk (if n = 0 then .waitCheckLo else .waitPayload) type n []
            crc_rx.toNat) hjoin) rfl
  | waitPayload =>
    simp only [protoFeed, protoStep, protoRegisters, apply_ite protoPhase, List.length_append,
      List.length_singleton]
    rfl
  | waitCrcLo => rfl
  | waitCrcHi =>
    -- The source continues the check of the header over the payload.
    have hcheck : payload.foldl protoCrcByte (protoCrc16 (type :: leBytes 2 expected_len.toNat)) =
        crc_rx ||| byte.toUInt16 <<< 8 ↔
        (protoCrc16 ((type :: leBytes 2 expected_len.toNat) ++ payload)).toNat =
          crc_rx.toNat ||| byte.toNat <<< 8 := by
      rw [← toNat_or_shift, UInt16.toNat_inj, protoCrc16, protoCrc16, List.foldl_append]
    simp only [protoFeed, protoStep, apply_ite Prod.fst, apply_ite Prod.snd,
      apply_ite protoRegisters, hcheck]
    refine Prod.ext ?_ rfl
    show ite _ _ _ = _
    refine (ite_self _).trans ?_
    exact congrArg
      (Format.Registers.mk .waitSof type expected_len.toNat payload ·) (toNat_or_shift crc_rx byte)

/-- The parser follows the receiver `s`. -/
def ProtoFollows (p : ProtoParser) (s : Format.State boardFormat) : Prop :=
  Format.Tracks (protoRegisters p) s

theorem protoFeed_follows (p : ProtoParser) (s : Format.State boardFormat) (byte : UInt8)
    (h : ProtoFollows p s) :
    ProtoFollows (protoFeed p byte).1 (boardFormat.step s byte).1 ∧
      (protoFeed p byte).2 = (boardFormat.step s byte).2 := by
  have haccepts : ∀ t n, (boardFormat.cap t).isSome →
      (protoAccepts t n = true ↔ boardFormat.Fits t n) := by
    intro t n hknown
    have hcap := (boardFormat_cap_isSome t).mp hknown
    have hle := (maxLenFor_le t).resolve_left hcap
    rw [boardFormat_fits_iff, protoAccepts, decide_eq_true_eq, not_or, not_lt, not_lt]
    exact ⟨fun hn ↦ ⟨hcap, hn.1⟩, fun hfits ↦ ⟨hfits.2, hfits.2.trans hle⟩⟩
  have htracks := Format.regStep_tracks haccepts h byte
  rwa [← protoFeed_registers] at htracks

/-- Waiting for a start byte is the receiver's idle state. -/
theorem protoFollows_idle {p : ProtoParser} (h : p.state = .waitSof) : ProtoFollows p .idle :=
  congrArg protoPhase h

theorem state_of_protoFollows_idle {p : ProtoParser} (h : ProtoFollows p .idle) :
    p.state = .waitSof := by
  have hphase : protoPhase p.state = .waitSof := h
  cases hs : p.state with
  | waitSof => rfl
  | waitType | waitLenLo | waitLenHi | waitPayload | waitCrcLo | waitCrcHi =>
    rw [hs] at hphase
    cases hphase

/-- `proto_parser_timeout` leaves no partial frame behind. -/
theorem protoParserTimeout_state (p : ProtoParser) : (protoParserTimeout p).state = .waitSof := by
  rw [protoParserTimeout]
  split_ifs with h
  · rfl
  · exact not_not.mp h

theorem protoParserTimeout_follows (p : ProtoParser) (s : Format.State boardFormat)
    (_ : ProtoFollows p s) : ProtoFollows (protoParserTimeout p) (boardFormat.timeout s) :=
  protoFollows_idle (protoParserTimeout_state p)

end VertexTestbed.Firmware
