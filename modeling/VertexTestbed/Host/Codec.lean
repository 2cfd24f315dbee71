import VertexTestbed.Host.AdvertisingData
import VertexTestbed.Host.LinkMonitor

/-!
# The state packet's codec

`wire/codec.py`. A `StatePacket` is checked when it is built, so what the checks establish is a
field of the structure; `StatePacket.new` is the constructor with the errors it raises. The
encoder takes the frame version from the number of coordinates; the decoders read fixed offsets of a
payload whose company id was stripped, and tell the versions apart by tag and length.

The constructor never raises on what a decoder hands it, so that a frame is refused by the decoder's
own tests or not at all: `decode_v2_isOk`, `decode_v1_isOk` and `decode_v0_isOk`.
-/

namespace VertexTestbed.Host

/-! ### Packets -/

/-- `StatePacket`, with every field of the wire. -/
structure AirPacket extends WirePacket ℕ where
  disturbance_on : Bool
  node_pos : 1 ≤ node_id
  node_le : node_id ≤ 255
  tx_time_lt : tx_time_us < 2 ^ 48

/-- `StatePacket(…)`, with the `ValueError`s of `__post_init__`. -/
def AirPacket.new (node_id : ℕ) (vstate : List ℤ) (seq tx_time_us : ℕ)
    (enabled disturbance_on : Bool) : Except String AirPacket :=
  if hnode : 1 ≤ node_id ∧ node_id ≤ 255 then
    if hlen : vstate.length = 1 ∨ vstate.length = 2 then
      if hfits : ∀ v ∈ vstate, FitsI32 v then
        if hseq : seq ≤ 65535 then
          if htime : tx_time_us < 2 ^ 48 then
            .ok ⟨⟨⟨node_id, vstate, enabled, hlen, hfits⟩, seq, tx_time_us, hseq⟩, disturbance_on,
              hnode.1, hnode.2, htime⟩
          else .error s!"tx_time_us must fit uint48, got {tx_time_us}"
        else .error s!"seq must fit uint16, got {seq}"
      else
        let v := (vstate.find? fun v ↦ ¬FitsI32 v).getD 0
        .error (s!"vstate {v} overflows int32; at SCALE_FACTOR=1000000 " ++
          "the representable virtual state is +-2147.4836")
    else .error
      s!"vstate has {vstate.length} coordinates; the wire carries 1 (v1) or 2 (v2)"
  else .error s!"node_id must be 1..255, got {node_id}"

/-- The fields of a packet, in the order of the constructor's arguments. -/
def AirPacket.fields (p : AirPacket) : ℕ × List ℤ × ℕ × ℕ × Bool × Bool :=
  (p.node_id, p.vstate, p.seq, p.tx_time_us, p.enabled, p.disturbance_on)

/-- Fields that fit are stored as they are. -/
theorem AirPacket.new_of_fits {node_id : ℕ} {vstate : List ℤ} {seq tx_time_us : ℕ}
    (hnode : 1 ≤ node_id ∧ node_id ≤ 255) (hlen : vstate.length = 1 ∨ vstate.length = 2)
    (hfits : ∀ v ∈ vstate, FitsI32 v) (hseq : seq ≤ 65535) (htime : tx_time_us < 2 ^ 48)
    (enabled disturbance_on : Bool) :
    ∃ p, AirPacket.new node_id vstate seq tx_time_us enabled disturbance_on = .ok p ∧
      p.fields = (node_id, vstate, seq, tx_time_us, enabled, disturbance_on) := by
  rw [AirPacket.new, dif_pos hnode, dif_pos hlen, dif_pos hfits, dif_pos hseq, dif_pos htime]
  exact ⟨_, rfl, rfl⟩

/-! ### Constants -/

/-- `VERSION`. -/
def VERSION : UInt8 := 1

/-- `V2_VERSION`. -/
def V2_VERSION : UInt8 := 2

/-- `PAYLOAD_SIZE`. -/
def PAYLOAD_SIZE : ℕ := 16

/-- `V2_PAYLOAD_SIZE`. -/
def V2_PAYLOAD_SIZE : ℕ := 19

/-- `V0_PAYLOAD_SIZE`. -/
def V0_PAYLOAD_SIZE : ℕ := 6

/-- `COMPANY_ID`. -/
def COMPANY_ID : ℕ := 0x0059

/-- `FLAG_ENABLED`. -/
def FLAG_ENABLED : UInt8 := 0b00000001

/-- `FLAG_DISTURBANCE`. -/
def FLAG_DISTURBANCE : UInt8 := 0b00000010

/-- `V0_FLAG_ENABLED`, which is the whole first byte. -/
def V0_FLAG_ENABLED : UInt8 := 0x7F

/-- `V0_FLAG_DISABLED`. -/
def V0_FLAG_DISABLED : UInt8 := 0x70

/-- The format `02X` of an error text. -/
def hexByte (b : UInt8) : String :=
  let digit := fun n : ℕ ↦ "0123456789ABCDEF".toList.getD n '0'
  String.ofList [digit (b.toNat / 16), digit (b.toNat % 16)]

/-! ### The encoder -/

/-- The flag byte of a v1 or a v2 frame. -/
def AirPacket.flags (p : AirPacket) : UInt8 :=
  (if p.enabled then FLAG_ENABLED else 0) ||| (if p.disturbance_on then FLAG_DISTURBANCE else 0)

/-- One `i` of `struct.pack("<…", …)`. -/
def packI32 (v : ℤ) : Bytes :=
  leBytes 4 (v % 2 ^ 32).toNat

/-- `StatePacket.encode`. -/
def AirPacket.encode (p : AirPacket) : Bytes :=
  if p.vstate.length = 1 then
    [VERSION, p.flags, UInt8.ofNat p.node_id, 0] ++ (leBytes 2 p.seq ++
      (packI32 (p.vstate.getD 0 0) ++ leBytes 6 p.tx_time_us))
  else
    -- v2 drops the reserved byte rather than growing past it
    [V2_VERSION, p.flags, UInt8.ofNat p.node_id] ++ (leBytes 2 p.seq ++
      (packI32 (p.vstate.getD 0 0) ++ (packI32 (p.vstate.getD 1 0) ++ leBytes 6 p.tx_time_us)))

/-- `encode_manufacturer_data`. -/
def encode_manufacturer_data (p : AirPacket) : Bytes :=
  leBytes 2 COMPANY_ID ++ p.encode

/-! ### The decoders -/

/-- `StatePacket._decode_v2`. -/
def decode_v2 (data : Bytes) : Except String AirPacket :=
  if byteAt data 0 ≠ V2_VERSION then
    .error s!"not a v2 frame: version {(byteAt data 0).toNat}"
  else if byteAt data 2 = 0 then .error "node_id 0 is reserved"
  else AirPacket.new (byteAt data 2).toNat [leInt (fieldAt data 5 4), leInt (fieldAt data 9 4)]
    (leNat (fieldAt data 3 2)) (leNat (fieldAt data 13 6))
    (decide (byteAt data 1 &&& FLAG_ENABLED ≠ 0)) (decide (byteAt data 1 &&& FLAG_DISTURBANCE ≠ 0))

/-- The part of `StatePacket.decode` behind the test of the length. -/
def decode_v1 (data : Bytes) : Except String AirPacket :=
  if byteAt data 0 ≠ VERSION then
    .error s!"unsupported version {(byteAt data 0).toNat} (this build speaks v1)"
  else if byteAt data 3 ≠ 0 then
    .error s!"reserved byte must be 0, got {(byteAt data 3).toNat}"
  else if byteAt data 2 = 0 then .error "node_id 0 is reserved"
  else AirPacket.new (byteAt data 2).toNat [leInt (fieldAt data 6 4)]
    (leNat (fieldAt data 4 2)) (leNat (fieldAt data 10 6))
    (decide (byteAt data 1 &&& FLAG_ENABLED ≠ 0)) (decide (byteAt data 1 &&& FLAG_DISTURBANCE ≠ 0))

/-- `StatePacket.decode`. -/
def decode (data : Bytes) : Except String AirPacket :=
  if data.length = V2_PAYLOAD_SIZE ∧ data.take 1 = [V2_VERSION] then decode_v2 data
  else if data.length ≠ PAYLOAD_SIZE then
    .error s!"expected {PAYLOAD_SIZE} (v1) or {V2_PAYLOAD_SIZE} (v2) bytes, got {data.length}"
  else decode_v1 data

/-- `decode_manufacturer_data`, for this company. -/
def decode_manufacturer_data (data : Bytes) : Except String AirPacket :=
  if data.length < 2 then .error "manufacturer data too short to hold a company ID"
  else if leNat (fieldAt data 0 2) ≠ COMPANY_ID then
    .error (s!"foreign company ID 0x{hexByte (byteAt data 1)}{hexByte (byteAt data 0)} " ++
      s!"(want 0x0059)")
  else decode (data.drop 2)

/-- `decode_v0`. A longer payload is read as far as the format goes. -/
def decode_v0 (data : Bytes) : Except String AirPacket :=
  if data.length < V0_PAYLOAD_SIZE then
    .error s!"expected >={V0_PAYLOAD_SIZE} bytes, got {data.length}"
  else if ¬(byteAt data 0 = V0_FLAG_ENABLED ∨ byteAt data 0 = V0_FLAG_DISABLED) then
    .error s!"not a v0 packet: flag 0x{hexByte (byteAt data 0)}"
  else if byteAt data 1 = 0 then .error "node_id 0 is reserved"
  else AirPacket.new (byteAt data 1).toNat [leInt (fieldAt data 2 4)] 0 0
    (decide (byteAt data 0 = V0_FLAG_ENABLED)) false

/-- `decode_any`. -/
def decode_any (data : Bytes) : Except String AirPacket :=
  if data.isEmpty then .error "empty payload"
  else if byteAt data 0 = V2_VERSION ∧ data.length = V2_PAYLOAD_SIZE then decode data
  else if byteAt data 0 = VERSION ∧ data.length = PAYLOAD_SIZE then decode data
  else if byteAt data 0 = V0_FLAG_ENABLED ∨ byteAt data 0 = V0_FLAG_DISABLED then decode_v0 data
  else .error (s!"unrecognised payload: first byte 0x{hexByte (byteAt data 0)}, " ++
    s!"length {data.length}")

/-- What a receiver does with the value of a manufacturer element: the company id is checked and
stripped, then `decode_any`. -/
def decode_element (value : Bytes) : Except String AirPacket :=
  match strip_company COMPANY_ID value with
  | none => .error "no manufacturer element of this company"
  | some payload => decode_any payload

/-! ### What a field can hold -/

theorem fitsI32_leInt_fieldAt (d : Bytes) (i : ℕ) : FitsI32 (leInt (fieldAt d i 4)) := by
  have hlen : (fieldAt d i 4).length ≤ 4 := by
    rw [fieldAt, List.length_take]
    exact min_le_left _ _
  have hpow : 256 ^ (fieldAt d i 4).length ≤ 256 ^ 4 := Nat.pow_le_pow_right (by norm_num) hlen
  have hpos : 0 < 256 ^ (fieldAt d i 4).length := Nat.pow_pos (by norm_num)
  have hlo := Int.le_bmod (x := (leNat (fieldAt d i 4) : ℤ)) hpos
  have hhi := Int.bmod_lt (x := (leNat (fieldAt d i 4) : ℤ)) hpos
  rw [FitsI32, leInt]
  omega

/-- A nonzero byte is a node id. -/
theorem node_of_ne_zero {b : UInt8} (h : b ≠ 0) : 1 ≤ b.toNat ∧ b.toNat ≤ 255 := by
  have hlt := b.toNat_lt
  have hne : b.toNat ≠ 0 := fun h0 ↦ h (UInt8.toNat_inj.1 h0)
  omega

/-! ### What the decoders accept -/

theorem decode_v2_of_tag {data : Bytes} (htag : byteAt data 0 = V2_VERSION)
    (hnode : byteAt data 2 ≠ 0) :
    ∃ p, decode_v2 data = .ok p ∧
      p.fields = ((byteAt data 2).toNat, [leInt (fieldAt data 5 4), leInt (fieldAt data 9 4)],
        leNat (fieldAt data 3 2), leNat (fieldAt data 13 6),
        decide (byteAt data 1 &&& FLAG_ENABLED ≠ 0),
        decide (byteAt data 1 &&& FLAG_DISTURBANCE ≠ 0)) := by
  rw [decode_v2, if_neg (not_not.2 htag), if_neg hnode]
  refine AirPacket.new_of_fits (node_of_ne_zero hnode) (.inr rfl) ?_
    (Nat.le_of_lt_succ (leNat_fieldAt_lt data 3 2)) (leNat_fieldAt_lt data 13 6) _ _
  simp [fitsI32_leInt_fieldAt]

theorem decode_v1_of_tag {data : Bytes} (htag : byteAt data 0 = VERSION)
    (hreserved : byteAt data 3 = 0) (hnode : byteAt data 2 ≠ 0) :
    ∃ p, decode_v1 data = .ok p ∧
      p.fields = ((byteAt data 2).toNat, [leInt (fieldAt data 6 4)], leNat (fieldAt data 4 2),
        leNat (fieldAt data 10 6), decide (byteAt data 1 &&& FLAG_ENABLED ≠ 0),
        decide (byteAt data 1 &&& FLAG_DISTURBANCE ≠ 0)) := by
  rw [decode_v1, if_neg (not_not.2 htag), if_neg (not_not.2 hreserved), if_neg hnode]
  refine AirPacket.new_of_fits (node_of_ne_zero hnode) (.inl rfl) ?_
    (Nat.le_of_lt_succ (leNat_fieldAt_lt data 4 2)) (leNat_fieldAt_lt data 10 6) _ _
  simp [fitsI32_leInt_fieldAt]

theorem decode_v0_of_flag {data : Bytes} (hlen : V0_PAYLOAD_SIZE ≤ data.length)
    (hflag : byteAt data 0 = V0_FLAG_ENABLED ∨ byteAt data 0 = V0_FLAG_DISABLED)
    (hnode : byteAt data 1 ≠ 0) :
    ∃ p, decode_v0 data = .ok p ∧
      p.fields = ((byteAt data 1).toNat, [leInt (fieldAt data 2 4)], 0, 0,
        decide (byteAt data 0 = V0_FLAG_ENABLED), false) := by
  rw [decode_v0, if_neg (not_lt.2 hlen), if_neg (not_not.2 hflag), if_neg hnode]
  refine AirPacket.new_of_fits (node_of_ne_zero hnode) (.inl rfl) ?_ (by norm_num) (by norm_num) _ _
  simp [fitsI32_leInt_fieldAt]

theorem decode_v2_isOk (data : Bytes) :
    (decode_v2 data).isOk ↔ byteAt data 0 = V2_VERSION ∧ byteAt data 2 ≠ 0 := by
  refine ⟨fun h ↦ ?_, fun ⟨htag, hnode⟩ ↦ ?_⟩
  · rw [decode_v2] at h
    split_ifs at h with htag hnode
    · cases h
    · cases h
    · exact ⟨not_not.1 htag, hnode⟩
  · obtain ⟨p, hp, -⟩ := decode_v2_of_tag htag hnode
    rw [hp]
    rfl

theorem decode_v1_isOk (data : Bytes) :
    (decode_v1 data).isOk ↔
      byteAt data 0 = VERSION ∧ byteAt data 3 = 0 ∧ byteAt data 2 ≠ 0 := by
  refine ⟨fun h ↦ ?_, fun ⟨htag, hreserved, hnode⟩ ↦ ?_⟩
  · rw [decode_v1] at h
    split_ifs at h with htag hreserved hnode
    · cases h
    · cases h
    · cases h
    · exact ⟨not_not.1 htag, not_not.1 hreserved, hnode⟩
  · obtain ⟨p, hp, -⟩ := decode_v1_of_tag htag hreserved hnode
    rw [hp]
    rfl

theorem decode_v0_isOk (data : Bytes) :
    (decode_v0 data).isOk ↔ V0_PAYLOAD_SIZE ≤ data.length ∧
      (byteAt data 0 = V0_FLAG_ENABLED ∨ byteAt data 0 = V0_FLAG_DISABLED) ∧
        byteAt data 1 ≠ 0 := by
  refine ⟨fun h ↦ ?_, fun ⟨hlen, hflag, hnode⟩ ↦ ?_⟩
  · rw [decode_v0] at h
    split_ifs at h with hlen hflag hnode
    · cases h
    · cases h
    · exact ⟨not_lt.1 hlen, hflag, hnode⟩
    · cases h
  · obtain ⟨p, hp, -⟩ := decode_v0_of_flag hlen hflag hnode
    rw [hp]
    rfl

/-! ### The dispatch -/

/-- Both tests that lead to the v2 decoder are made twice. -/
theorem decode_any_of_v2 {data : Bytes} (htag : byteAt data 0 = V2_VERSION)
    (hlen : data.length = V2_PAYLOAD_SIZE) : decode_any data = decode_v2 data := by
  have htake : data.take 1 = [V2_VERSION] := by
    cases data with
    | nil => cases hlen
    | cons b data =>
      rw [byteAt_cons_zero] at htag
      rw [htag]
      rfl
  have hne : ¬data.isEmpty = true := by
    rw [List.isEmpty_iff_length_eq_zero, hlen]
    decide
  rw [decode_any, if_neg hne, if_pos ⟨htag, hlen⟩, decode, if_pos ⟨hlen, htake⟩]

theorem decode_any_of_v1 {data : Bytes} (htag : byteAt data 0 = VERSION)
    (hlen : data.length = PAYLOAD_SIZE) : decode_any data = decode_v1 data := by
  have hne : ¬data.isEmpty = true := by
    rw [List.isEmpty_iff_length_eq_zero, hlen]
    decide
  have htwo : ¬(byteAt data 0 = V2_VERSION ∧ data.length = V2_PAYLOAD_SIZE) := by
    rw [hlen]
    exact fun h ↦ absurd h.2 (by decide)
  have htwo' : ¬(data.length = V2_PAYLOAD_SIZE ∧ data.take 1 = [V2_VERSION]) := by
    rw [hlen]
    exact fun h ↦ absurd h.1 (by decide)
  rw [decode_any, if_neg hne, if_neg htwo, if_pos ⟨htag, hlen⟩, decode, if_neg htwo',
    if_neg (not_not.2 hlen)]

/-- A v0 flag is no version tag. -/
theorem decode_any_of_flag {data : Bytes}
    (hflag : byteAt data 0 = V0_FLAG_ENABLED ∨ byteAt data 0 = V0_FLAG_DISABLED) :
    decode_any data = decode_v0 data := by
  have htag : byteAt data 0 ≠ V2_VERSION ∧ byteAt data 0 ≠ VERSION := by
    obtain h | h := hflag
    · rw [h]
      decide
    · rw [h]
      decide
  have hne : ¬data.isEmpty = true := by
    intro hempty
    rw [List.isEmpty_iff.1 hempty] at hflag
    exact absurd hflag (by decide)
  rw [decode_any, if_neg hne, if_neg fun h ↦ htag.1 h.1, if_neg fun h ↦ htag.2 h.1, if_pos hflag]

/-- A payload that neither v2 nor v1 claims is read as v0, if at all. -/
theorem decode_any_otherwise {data : Bytes}
    (htwo : ¬(byteAt data 0 = V2_VERSION ∧ data.length = V2_PAYLOAD_SIZE))
    (hone : ¬(byteAt data 0 = VERSION ∧ data.length = PAYLOAD_SIZE)) :
    (decode_any data).isOk ↔ (decode_v0 data).isOk := by
  by_cases hempty : data.isEmpty = true
  · rw [List.isEmpty_iff.1 hempty]
    decide
  · rw [decode_any, if_neg hempty, if_neg htwo, if_neg hone]
    by_cases hflag : byteAt data 0 = V0_FLAG_ENABLED ∨ byteAt data 0 = V0_FLAG_DISABLED
    · rw [if_pos hflag]
    · rw [if_neg hflag, decode_v0_isOk]
      exact ⟨fun h ↦ (by cases h), fun h ↦ absurd h.2.1 hflag⟩

end VertexTestbed.Host
