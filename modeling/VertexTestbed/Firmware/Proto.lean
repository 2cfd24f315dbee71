import VertexTestbed.Firmware.AgentState

/-!
# The framed protocol, board side: constants and field accessors

The message types, payload lengths and little-endian accessors of `proto.h`. The parser and the
frame builder are in `Firmware.Parser`.
-/

namespace VertexTestbed.Firmware

/-! ### Message types -/

/-- `PROTO_T_NETWORK`. -/
def protoTNetwork : UInt8 := 0x4E

/-- `PROTO_T_ALGORITHM`. -/
def protoTAlgorithm : UInt8 := 0x41

/-- `PROTO_T_DISTURBANCE`. -/
def protoTDisturbance : UInt8 := 0x44

/-- `PROTO_T_CONTROL`. -/
def protoTControl : UInt8 := 0x53

/-- `PROTO_T_ADV_TX`. -/
def protoTAdvTx : UInt8 := 0x54

/-- `PROTO_T_RADIO`. -/
def protoTRadio : UInt8 := 0x52

/-- `PROTO_T_PING`. -/
def protoTPing : UInt8 := 0x50

/-- `PROTO_T_STATS_REQ`. -/
def protoTStatsReq : UInt8 := 0x51

/-- `PROTO_T_MG_PLANT`. -/
def protoTMgPlant : UInt8 := 0x47

/-- `PROTO_T_MG_VIRTUAL`. -/
def protoTMgVirtual : UInt8 := 0x56

/-- `PROTO_T_MG_IFACE`. -/
def protoTMgIface : UInt8 := 0x49

/-- `PROTO_T_ACK`. -/
def protoTAck : UInt8 := 0x6B

/-- `PROTO_T_ERR`. -/
def protoTErr : UInt8 := 0x65

/-- `PROTO_T_PONG`. -/
def protoTPong : UInt8 := 0x70

/-- `PROTO_T_STATS`. -/
def protoTStats : UInt8 := 0x71

/-! ### Payload lengths -/

/-- `PROTO_MAX_NEIGHBORS`. -/
def protoMaxNeighbors : ℕ := 16

/-- `PROTO_NETWORK_MIN_LEN`. -/
def protoNetworkMinLen : ℕ := 2

/-- `PROTO_NETWORK_MAX_LEN`. -/
def protoNetworkMaxLen : ℕ := protoNetworkMinLen + protoMaxNeighbors

/-- `PROTO_ALGORITHM_LEN`. -/
def protoAlgorithmLen : ℕ := 40

/-- `PROTO_MG_PLANT_LEN`. -/
def protoMgPlantLen : ℕ := 29

/-- `PROTO_MG_VIRTUAL_LEN`. -/
def protoMgVirtualLen : ℕ := 48

/-- `PROTO_MG_IFACE_LEN`. -/
def protoMgIfaceLen : ℕ := 38

/-- `PROTO_DISTURBANCE_LEN`. -/
def protoDisturbanceLen : ℕ := 29

/-- `PROTO_CONTROL_LEN`. -/
def protoControlLen : ℕ := 11

/-- `PROTO_RADIO_LEN`. -/
def protoRadioLen : ℕ := 9

/-- `PROTO_PING_LEN`. -/
def protoPingLen : ℕ := 0

/-- `PROTO_STATS_REQ_LEN`. -/
def protoStatsReqLen : ℕ := 0

/-! ### Field accessors

The source assembles a field with shifts and `|`; the shifted bytes do not overlap, so the word is
the positional sum that `leNat` computes. -/

/-- `proto_ld_u16`. -/
def protoLdU16 (d : Bytes) (i : ℕ) : ℕ := leNat (fieldAt d i 2)

/-- `proto_ld_u32`. -/
def protoLdU32 (d : Bytes) (i : ℕ) : ℕ := leNat (fieldAt d i 4)

/-- `proto_ld_i32`: the word read as two's complement. -/
def protoLdI32 (d : Bytes) (i : ℕ) : ℤ :=
  if protoLdU32 d i < 2147483648 then protoLdU32 d i else protoLdU32 d i - 4294967296

/-- The six-byte epoch of a CONTROL frame. -/
def protoLdU48 (d : Bytes) (i : ℕ) : ℕ := leNat (fieldAt d i 6)

theorem protoLdU32_lt (d : Bytes) (i : ℕ) : protoLdU32 d i < 4294967296 :=
  leNat_fieldAt_lt d i 4

theorem protoLdI32_lt (d : Bytes) (i : ℕ) : protoLdI32 d i < 2 ^ 31 := by
  have hlt := protoLdU32_lt d i
  rw [protoLdI32]
  split_ifs
  · omega
  · omega

theorem protoLdI32_eq_leInt {d : Bytes} {i : ℕ} (h : (fieldAt d i 4).length = 4) :
    protoLdI32 d i = leInt (fieldAt d i 4) := by
  have hlt := protoLdU32_lt d i
  rw [leInt, h, ← protoLdU32, protoLdI32]
  have hmod : ((protoLdU32 d i : ℕ) : ℤ) % 4294967296 = protoLdU32 d i :=
    Int.emod_eq_of_lt (Int.natCast_nonneg _) (by exact_mod_cast hlt)
  norm_num [Int.bmod_def, hmod]

end VertexTestbed.Firmware
