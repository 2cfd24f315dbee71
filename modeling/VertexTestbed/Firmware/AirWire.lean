import VertexTestbed.Firmware.Report

/-!
# The on-air state packet, board side

The codec of `air_wire.c`. An encoder writes the value of a manufacturer element, company id
included, into a buffer of the caller's. A decoder is handed the value of a manufacturer element,
company id included, and tells the three frame versions apart by the length of that value; the
version byte is verified afterwards. It answers a packet or one of three error codes, and writes its
output only in the first case.

`decodeV2_eq_ok_iff`, `decodeV1_eq_ok_iff` and `decodeV0_eq_ok_iff` say what each decoder accepts,
`airWireDecodeAny_eq_ok_iff` what the dispatch does.
-/

namespace VertexTestbed.Firmware

/-! ### Constants -/

/-- `MANUFACTURER_ID`. -/
def manufacturerId : ℕ := 0x0059

/-- `AIR_WIRE_V1_VERSION`. -/
def airWireV1Version : UInt8 := 1

/-- `AIR_WIRE_V2_VERSION`. -/
def airWireV2Version : UInt8 := 2

/-- `AIR_WIRE_V1_FLAG_ENABLED`. -/
def airWireV1FlagEnabled : UInt8 := 0x01

/-- `AIR_WIRE_V1_FLAG_DISTURBANCE`. -/
def airWireV1FlagDisturbance : UInt8 := 0x02

/-- `AIR_WIRE_V0_FLAG_ENABLED`, which is the whole first byte. -/
def airWireV0FlagEnabled : UInt8 := 0x7F

/-- `AIR_WIRE_V0_FLAG_DISABLED`. -/
def airWireV0FlagDisabled : UInt8 := 0x70

/-- `AIR_WIRE_V1_PAYLOAD_SIZE`. -/
def airWireV1PayloadSize : ℕ := 16

/-- `AIR_WIRE_V2_PAYLOAD_SIZE`. -/
def airWireV2PayloadSize : ℕ := 19

/-- `AIR_WIRE_V0_PAYLOAD_SIZE`. -/
def airWireV0PayloadSize : ℕ := 6

/-- `AIR_WIRE_AD_VALUE_SIZE`: the company id ahead of a payload. -/
def airWireAdValueSize : ℕ := 2 + airWireV1PayloadSize

/-- `AIR_WIRE_V2_AD_VALUE_SIZE`. -/
def airWireV2AdValueSize : ℕ := 2 + airWireV2PayloadSize

/-- `AIR_WIRE_V0_AD_VALUE_SIZE`. -/
def airWireV0AdValueSize : ℕ := 2 + airWireV0PayloadSize

/-- The codes `AIR_WIRE_ERR_*`. -/
inductive AirWireError where
  /-- Not a length either version uses. -/
  | len
  /-- Somebody else's manufacturer data. -/
  | company
  /-- Right length, unreadable content. -/
  | format
  deriving DecidableEq

/-- `state_packet_type` as a decoder leaves it: the packet, and whether it carried a sequence number
and a time stamp at all. -/
structure DecodedPacket extends StatePacketType where
  hasSeqAndTime : Bool
  deriving DecidableEq

/-! ### Field accessors

Local to `air_wire.c`. As in `proto.h`, the shifted bytes of a word do not overlap. -/

/-- `ld_u16`. -/
def ldU16 (p : Bytes) (i : ℕ) : UInt16 := UInt16.ofNat (leNat (fieldAt p i 2))

/-- `ld_u32`, cast to `int32_t` as every caller does. -/
def ldI32 (p : Bytes) (i : ℕ) : ℤ := wrapI32 (leNat (fieldAt p i 4))

/-- `ld_u48`. -/
def ldU48 (p : Bytes) (i : ℕ) : ℕ := leNat (fieldAt p i 6)

/-- `st_u16`. -/
def stU16 (v : UInt16) : Bytes := leBytes 2 v.toNat

/-- `st_u32`, of a value cast from `int32_t`. -/
def stI32 (v : ℤ) : Bytes := leBytes 4 (v % 2 ^ 32).toNat

/-- `st_u48`: the top bits are dropped. -/
def stU48 (v : ℕ) : Bytes := leBytes 6 v

/-! ### The encoder -/

/-- The flag byte of a v1 or a v2 frame. -/
def airWireFlags (p : StatePacketType) : UInt8 :=
  (if p.enabled then airWireV1FlagEnabled else 0) |||
    (if p.disturbanceOn then airWireV1FlagDisturbance else 0)

/-- `air_wire_encode_v1`. -/
def airWireEncodeV1 (p : StatePacketType) (cap : ℕ) : Except AirWireError Bytes :=
  if cap < airWireAdValueSize then .error .len
  else .ok (leBytes 2 manufacturerId ++ ([airWireV1Version, airWireFlags p, p.node, 0] ++
    (stU16 p.seq ++ (stI32 p.vstate ++ stU48 p.txTimeUs))))

/-- `air_wire_encode_v2`. -/
def airWireEncodeV2 (p : StatePacketType) (cap : ℕ) : Except AirWireError Bytes :=
  if cap < airWireV2AdValueSize then .error .len
  else .ok (leBytes 2 manufacturerId ++ ([airWireV2Version, airWireFlags p, p.node] ++
    (stU16 p.seq ++ (stI32 p.vstate ++ (stI32 p.vstateQ ++ stU48 p.txTimeUs)))))

/-- `air_wire_encode`. -/
def airWireEncode (p : StatePacketType) (cap : ℕ) : Except AirWireError Bytes :=
  if 2 ≤ p.coords then airWireEncodeV2 p cap else airWireEncodeV1 p cap

/-! ### The decoders -/

/-- `decode_v2`, on a payload. -/
def decodeV2 (v : Bytes) : Except AirWireError DecodedPacket :=
  if byteAt v 0 ≠ airWireV2Version then .error .format
  -- node id 0 is reserved
  else if byteAt v 2 = 0 then .error .format
  else .ok
    { node := byteAt v 2
      enabled := decide (byteAt v 1 &&& airWireV1FlagEnabled ≠ 0)
      disturbanceOn := decide (byteAt v 1 &&& airWireV1FlagDisturbance ≠ 0)
      seq := ldU16 v 3
      vstate := ldI32 v 5
      vstateQ := ldI32 v 9
      coords := 2
      txTimeUs := ldU48 v 13
      hasSeqAndTime := true }

/-- `decode_v1`, on a payload. -/
def decodeV1 (v : Bytes) : Except AirWireError DecodedPacket :=
  if byteAt v 0 ≠ airWireV1Version then .error .format
  -- the reserved byte is rejected, so that a version that uses it is not misread as this one
  else if byteAt v 3 ≠ 0 then .error .format
  else if byteAt v 2 = 0 then .error .format
  else .ok
    { node := byteAt v 2
      enabled := decide (byteAt v 1 &&& airWireV1FlagEnabled ≠ 0)
      disturbanceOn := decide (byteAt v 1 &&& airWireV1FlagDisturbance ≠ 0)
      seq := ldU16 v 4
      vstate := ldI32 v 6
      vstateQ := 0
      coords := 1
      txTimeUs := ldU48 v 10
      hasSeqAndTime := true }

/-- `decode_v0`, on a payload. -/
def decodeV0 (v : Bytes) : Except AirWireError DecodedPacket :=
  if byteAt v 0 ≠ airWireV0FlagEnabled ∧ byteAt v 0 ≠ airWireV0FlagDisabled then .error .format
  else if byteAt v 1 = 0 then .error .format
  else .ok
    { node := byteAt v 1
      enabled := decide (byteAt v 0 = airWireV0FlagEnabled)
      disturbanceOn := false
      seq := 0
      vstate := ldI32 v 2
      vstateQ := 0
      coords := 1
      txTimeUs := 0
      hasSeqAndTime := false }

/-- `air_wire_decode_any`: dispatch on length, then verify the version byte. -/
def airWireDecodeAny (value : Bytes) : Except AirWireError DecodedPacket :=
  if value.length < 2 then .error .len
  else if leNat (fieldAt value 0 2) ≠ manufacturerId then .error .company
  else if value.length = airWireV2AdValueSize then decodeV2 (value.drop 2)
  else if value.length = airWireAdValueSize then decodeV1 (value.drop 2)
  else if value.length = airWireV0AdValueSize then decodeV0 (value.drop 2)
  else .error .len

/-! ### What is accepted -/

/-- A v2 payload the board can read, its length apart. -/
def ReadableV2 (v : Bytes) : Prop :=
  byteAt v 0 = airWireV2Version ∧ byteAt v 2 ≠ 0

/-- A v1 payload the board can read, its length apart. -/
def ReadableV1 (v : Bytes) : Prop :=
  byteAt v 0 = airWireV1Version ∧ byteAt v 3 = 0 ∧ byteAt v 2 ≠ 0

/-- A v0 payload the board can read, its length apart. -/
def ReadableV0 (v : Bytes) : Prop :=
  (byteAt v 0 = airWireV0FlagEnabled ∨ byteAt v 0 = airWireV0FlagDisabled) ∧ byteAt v 1 ≠ 0

theorem decodeV2_eq_ok_iff {v : Bytes} {p : DecodedPacket} :
    decodeV2 v = .ok p ↔ ReadableV2 v ∧
      p = ⟨⟨byteAt v 2, decide (byteAt v 1 &&& airWireV1FlagEnabled ≠ 0),
        decide (byteAt v 1 &&& airWireV1FlagDisturbance ≠ 0), ldU16 v 3, ldI32 v 5, ldI32 v 9, 2,
        ldU48 v 13⟩, true⟩ := by
  rw [decodeV2, ReadableV2]
  split_ifs with htag hnode
  · simp [htag]
  · simp [hnode]
  · rw [Except.ok.injEq]
    exact ⟨fun h ↦ ⟨⟨not_not.1 htag, hnode⟩, h.symm⟩, fun h ↦ h.2.symm⟩

theorem decodeV1_eq_ok_iff {v : Bytes} {p : DecodedPacket} :
    decodeV1 v = .ok p ↔ ReadableV1 v ∧
      p = ⟨⟨byteAt v 2, decide (byteAt v 1 &&& airWireV1FlagEnabled ≠ 0),
        decide (byteAt v 1 &&& airWireV1FlagDisturbance ≠ 0), ldU16 v 4, ldI32 v 6, 0, 1,
        ldU48 v 10⟩, true⟩ := by
  rw [decodeV1, ReadableV1]
  split_ifs with htag hreserved hnode
  · simp [htag]
  · simp [hreserved]
  · simp [hnode]
  · rw [Except.ok.injEq]
    exact ⟨fun h ↦ ⟨⟨not_not.1 htag, not_not.1 hreserved, hnode⟩, h.symm⟩, fun h ↦ h.2.symm⟩

theorem decodeV0_eq_ok_iff {v : Bytes} {p : DecodedPacket} :
    decodeV0 v = .ok p ↔ ReadableV0 v ∧
      p = ⟨⟨byteAt v 1, decide (byteAt v 0 = airWireV0FlagEnabled), false, 0, ldI32 v 2, 0, 1, 0⟩,
        false⟩ := by
  rw [decodeV0, ReadableV0]
  split_ifs with hflag hnode
  · simp [hflag]
  · simp [hnode]
  · rw [not_and_or, not_not, not_not] at hflag
    rw [Except.ok.injEq]
    exact ⟨fun h ↦ ⟨⟨hflag, hnode⟩, h.symm⟩, fun h ↦ h.2.symm⟩

/-- **What the dispatch accepts**, by the length of the payload. -/
theorem airWireDecodeAny_eq_ok_iff {value : Bytes} (hlen : 2 ≤ value.length)
    (hcompany : leNat (fieldAt value 0 2) = manufacturerId) {p : DecodedPacket} :
    airWireDecodeAny value = .ok p ↔
      ((value.drop 2).length = airWireV2PayloadSize ∧ decodeV2 (value.drop 2) = .ok p) ∨
      ((value.drop 2).length = airWireV1PayloadSize ∧ decodeV1 (value.drop 2) = .ok p) ∨
      ((value.drop 2).length = airWireV0PayloadSize ∧ decodeV0 (value.drop 2) = .ok p) := by
  have hpayload : value.length = 2 + (value.drop 2).length := by
    rw [List.length_drop]
    omega
  rw [airWireDecodeAny, if_neg (not_lt.2 hlen), if_neg (not_not.2 hcompany), airWireV2AdValueSize,
    airWireAdValueSize, airWireV0AdValueSize, hpayload]
  simp only [Nat.add_left_cancel_iff]
  split_ifs with htwo hone hzero
  · rw [htwo]
    simp [airWireV1PayloadSize, airWireV2PayloadSize, airWireV0PayloadSize]
  · rw [hone]
    simp [airWireV1PayloadSize, airWireV2PayloadSize, airWireV0PayloadSize]
  · rw [hzero]
    simp [airWireV1PayloadSize, airWireV2PayloadSize, airWireV0PayloadSize]
  · simp only [htwo, hone, hzero, false_and, or_self]

/-- A value of another company, or too short for a company id, is refused. -/
theorem airWireDecodeAny_foreign {value : Bytes}
    (h : ¬(2 ≤ value.length ∧ leNat (fieldAt value 0 2) = manufacturerId)) :
    (airWireDecodeAny value).isOk = false := by
  rw [airWireDecodeAny]
  split_ifs with hlen hcompany
  · rfl
  · rfl
  all_goals exact absurd ⟨not_lt.1 hlen, not_not.1 hcompany⟩ h

end VertexTestbed.Firmware
