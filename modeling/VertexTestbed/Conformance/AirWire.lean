import VertexTestbed.Firmware.AirWire
import VertexTestbed.Host.Codec

/-!
# The two air decoders

`air_wire_decode_any` on the board against `find_manufacturer` and `decode_any` on the host, on any
byte string taken as the value of a manufacturer element. Both read the same fields at the same
offsets (`samePacket_v2`, `samePacket_v1`, `samePacket_v0`). They differ in one check: the board
selects a frame by the length of the value, so that a v0 frame is exactly eight bytes, and the host
by its tag, so that a v0 frame is at least eight.

`decoders_agree_iff` says that this is the only difference.
-/

namespace VertexTestbed.Conformance

open Firmware Host

/-! ### One packet on both sides -/

/-- Both decoders read the same packet. -/
structure SamePacket (b : DecodedPacket) (h : AirPacket) : Prop where
  node : h.node_id = b.node.toNat
  enabled : h.enabled = b.enabled
  disturbance : h.disturbance_on = b.disturbanceOn
  seq : h.seq = b.seq.toNat
  time : h.tx_time_us = b.txTimeUs
  vstate : h.vstate.getD 0 0 = b.vstate
  /-- Zero where the frame has one coordinate. -/
  second : h.vstate.getD 1 0 = b.vstateQ
  coords : h.vstate.length = b.coords

theorem ldI32_eq_leInt {d : Bytes} {i : ℕ} (h : i + 4 ≤ d.length) :
    ldI32 d i = leInt (fieldAt d i 4) := by
  have hlen : (fieldAt d i 4).length = 4 := by
    rw [fieldAt, List.length_take, List.length_drop]
    omega
  rw [ldI32, leInt, hlen, wrapI32]
  norm_num

theorem ldU16_toNat (d : Bytes) (i : ℕ) : (ldU16 d i).toNat = leNat (fieldAt d i 2) := by
  have hlt : leNat (fieldAt d i 2) < 2 ^ 16 := leNat_fieldAt_lt d i 2
  rw [ldU16, UInt16.toNat_ofNat', Nat.mod_eq_of_lt hlt]

/-- The fields of a host packet, one by one. -/
theorem samePacket_of_fields {b : DecodedPacket} {h : AirPacket}
    (hf : h.fields = (b.node.toNat,
      if b.coords = 2 then [b.vstate, b.vstateQ] else [b.vstate], b.seq.toNat, b.txTimeUs,
      b.enabled, b.disturbanceOn))
    (hcoords : b.coords = 2 ∨ b.coords = 1 ∧ b.vstateQ = 0) : SamePacket b h := by
  simp only [AirPacket.fields, Prod.mk.injEq] at hf
  obtain ⟨hnode, hvstate, hseq, htime, henabled, hdist⟩ := hf
  obtain hc | ⟨hc, hq⟩ := hcoords
  · rw [if_pos hc] at hvstate
    exact ⟨hnode, henabled, hdist, hseq, htime, by rw [hvstate]; rfl, by rw [hvstate]; rfl,
      by rw [hvstate, hc]; rfl⟩
  · rw [if_neg (by omega)] at hvstate
    exact ⟨hnode, henabled, hdist, hseq, htime, by rw [hvstate]; rfl, by rw [hvstate, hq]; rfl,
      by rw [hvstate, hc]; rfl⟩

theorem samePacket_v2 {v : Bytes} (hlen : v.length = V2_PAYLOAD_SIZE) {b : DecodedPacket}
    {h : AirPacket} (hb : decodeV2 v = .ok b) (hh : decode_v2 v = .ok h) : SamePacket b h := by
  obtain ⟨⟨htag, hnode⟩, rfl⟩ := decodeV2_eq_ok_iff.1 hb
  obtain ⟨p, hp, hf⟩ := decode_v2_of_tag htag hnode
  obtain rfl := Except.ok.inj (hp.symm.trans hh)
  refine samePacket_of_fields ?_ (.inl rfl)
  rw [hf, if_pos rfl, ldU16_toNat, ldI32_eq_leInt (by rw [hlen]; decide),
    ldI32_eq_leInt (by rw [hlen]; decide)]
  rfl

theorem samePacket_v1 {v : Bytes} (hlen : v.length = PAYLOAD_SIZE) {b : DecodedPacket}
    {h : AirPacket} (hb : decodeV1 v = .ok b) (hh : decode_v1 v = .ok h) : SamePacket b h := by
  obtain ⟨⟨htag, hreserved, hnode⟩, rfl⟩ := decodeV1_eq_ok_iff.1 hb
  obtain ⟨p, hp, hf⟩ := decode_v1_of_tag htag hreserved hnode
  obtain rfl := Except.ok.inj (hp.symm.trans hh)
  refine samePacket_of_fields ?_ (.inr ⟨rfl, rfl⟩)
  rw [hf, if_neg (show ¬((1 : ℕ) = 2) by decide), ldU16_toNat,
    ldI32_eq_leInt (by rw [hlen]; decide)]
  rfl

theorem samePacket_v0 {v : Bytes} (hlen : v.length = V0_PAYLOAD_SIZE) {b : DecodedPacket}
    {h : AirPacket} (hb : decodeV0 v = .ok b) (hh : decode_v0 v = .ok h) : SamePacket b h := by
  obtain ⟨⟨hflag, hnode⟩, rfl⟩ := decodeV0_eq_ok_iff.1 hb
  obtain ⟨p, hp, hf⟩ := decode_v0_of_flag hlen.ge hflag hnode
  obtain rfl := Except.ok.inj (hp.symm.trans hh)
  refine samePacket_of_fields ?_ (.inr ⟨rfl, rfl⟩)
  rw [hf, if_neg (show ¬((1 : ℕ) = 2) by decide), ldI32_eq_leInt (by rw [hlen]; decide)]
  rfl

/-! ### What is accepted -/

/-- A payload that both sides accept. -/
inductive AirFrame (v : Bytes) : Prop where
  | v2 (length : v.length = V2_PAYLOAD_SIZE) (readable : ReadableV2 v)
  | v1 (length : v.length = PAYLOAD_SIZE) (readable : ReadableV1 v)
  | v0 (length : v.length = V0_PAYLOAD_SIZE) (readable : ReadableV0 v)

/-- A readable v0 frame with something behind it. -/
def TrailingV0 (v : Bytes) : Prop :=
  V0_PAYLOAD_SIZE < v.length ∧ ReadableV0 v

instance (v : Bytes) : Decidable (TrailingV0 v) :=
  inferInstanceAs (Decidable (_ ∧ (_ ∨ _) ∧ _))

/-- The flag of a v0 frame is the tag of no other version. -/
theorem TrailingV0.not_airFrame {v : Bytes} (h : TrailingV0 v) : ¬AirFrame v := by
  obtain ⟨hlen, hflag, -⟩ := h
  have hflag' : byteAt v 0 = 0x7F ∨ byteAt v 0 = 0x70 := hflag
  intro hframed
  cases hframed with
  | v2 _ hread =>
    rw [show byteAt v 0 = 2 from hread.1] at hflag'
    revert hflag'
    decide
  | v1 _ hread =>
    rw [show byteAt v 0 = 1 from hread.1] at hflag'
    revert hflag'
    decide
  | v0 hlen' _ => exact hlen.ne' hlen'

/-- The board accepts the three frames. -/
theorem airWireDecodeAny_isOk_iff {value : Bytes} (hlen : 2 ≤ value.length)
    (hcompany : leNat (fieldAt value 0 2) = COMPANY_ID) :
    (airWireDecodeAny value).isOk ↔ AirFrame (value.drop 2) := by
  have hspec := fun p ↦ airWireDecodeAny_eq_ok_iff (p := p) hlen hcompany
  constructor
  · intro h
    rcases hr : airWireDecodeAny value with e | p
    · rw [hr] at h
      cases h
    · obtain ⟨hsize, hp⟩ | ⟨hsize, hp⟩ | ⟨hsize, hp⟩ := (hspec p).1 hr
      · exact .v2 hsize (decodeV2_eq_ok_iff.1 hp).1
      · exact .v1 hsize (decodeV1_eq_ok_iff.1 hp).1
      · exact .v0 hsize (decodeV0_eq_ok_iff.1 hp).1
  · intro h
    cases h with
    | v2 hsize hread =>
      rw [(hspec _).2 (.inl ⟨hsize, decodeV2_eq_ok_iff.2 ⟨hread, rfl⟩⟩)]
      rfl
    | v1 hsize hread =>
      rw [(hspec _).2 (.inr (.inl ⟨hsize, decodeV1_eq_ok_iff.2 ⟨hread, rfl⟩⟩))]
      rfl
    | v0 hsize hread =>
      rw [(hspec _).2 (.inr (.inr ⟨hsize, decodeV0_eq_ok_iff.2 ⟨hread, rfl⟩⟩))]
      rfl

/-- The host accepts the three frames and a v0 frame with something behind it. -/
theorem decode_any_isOk_iff (v : Bytes) :
    (decode_any v).isOk ↔ AirFrame v ∨ TrailingV0 v := by
  by_cases htwo : byteAt v 0 = V2_VERSION ∧ v.length = V2_PAYLOAD_SIZE
  · rw [decode_any_of_v2 htwo.1 htwo.2, decode_v2_isOk]
    refine ⟨fun h ↦ .inl (.v2 htwo.2 h), fun h ↦ ⟨htwo.1, ?_⟩⟩
    obtain (⟨-, hread⟩ | ⟨hsize, -⟩ | ⟨hsize, -⟩) | ⟨-, hflag, -⟩ := h
    · exact hread.2
    · exact absurd (hsize.symm.trans htwo.2) (by decide)
    · exact absurd (hsize.symm.trans htwo.2) (by decide)
    · rw [htwo.1] at hflag
      exact absurd hflag (by decide)
  · by_cases hone : byteAt v 0 = VERSION ∧ v.length = PAYLOAD_SIZE
    · rw [decode_any_of_v1 hone.1 hone.2, decode_v1_isOk]
      refine ⟨fun h ↦ .inl (.v1 hone.2 h), fun h ↦ ⟨hone.1, ?_⟩⟩
      obtain (⟨hsize, -⟩ | ⟨-, hread⟩ | ⟨hsize, -⟩) | ⟨-, hflag, -⟩ := h
      · exact absurd (hsize.symm.trans hone.2) (by decide)
      · exact hread.2
      · exact absurd (hsize.symm.trans hone.2) (by decide)
      · rw [hone.1] at hflag
        exact absurd hflag (by decide)
    · rw [decode_any_otherwise htwo hone, decode_v0_isOk]
      constructor
      · rintro ⟨hsize, hread⟩
        obtain heq | hlt := hsize.eq_or_lt
        · exact .inl (.v0 heq.symm hread)
        · exact .inr ⟨hlt, hread⟩
      · rintro ((⟨hsize, hread⟩ | ⟨hsize, hread⟩ | ⟨hsize, hread⟩) | ⟨hlt, hread⟩)
        · exact absurd ⟨hread.1, hsize⟩ htwo
        · exact absurd ⟨hread.1, hsize⟩ hone
        · exact ⟨hsize.ge, hread⟩
        · exact ⟨hlt.le, hread⟩

/-- What both sides accept, they read alike. -/
theorem samePacket_of_ok {value : Bytes} (hlen : 2 ≤ value.length)
    (hcompany : leNat (fieldAt value 0 2) = COMPANY_ID) {b : DecodedPacket} {h : AirPacket}
    (hb : airWireDecodeAny value = .ok b) (hh : decode_any (value.drop 2) = .ok h) :
    SamePacket b h := by
  obtain ⟨hsize, hp⟩ | ⟨hsize, hp⟩ | ⟨hsize, hp⟩ :=
    (airWireDecodeAny_eq_ok_iff hlen hcompany).1 hb
  · have htag := (decodeV2_eq_ok_iff.1 hp).1.1
    rw [decode_any_of_v2 htag hsize] at hh
    exact samePacket_v2 hsize hp hh
  · have htag := (decodeV1_eq_ok_iff.1 hp).1.1
    rw [decode_any_of_v1 htag hsize] at hh
    exact samePacket_v1 hsize hp hh
  · have hflag := (decodeV0_eq_ok_iff.1 hp).1.1
    rw [decode_any_of_flag hflag] at hh
    exact samePacket_v0 hsize hp hh

/-! ### The agreement -/

/-- The two decoders agree on the value of a manufacturer element: both accept it or neither does,
and what both accept they read alike. -/
def DecodersAgree (value : Bytes) : Prop :=
  ((airWireDecodeAny value).isOk ↔ (decode_element value).isOk) ∧
    ∀ b h, airWireDecodeAny value = .ok b → decode_element value = .ok h → SamePacket b h

/-- A v0 frame of this company that goes on behind its last field. -/
def TrailingElement (value : Bytes) : Prop :=
  (2 ≤ value.length ∧ leNat (fieldAt value 0 2) = COMPANY_ID) ∧ TrailingV0 (value.drop 2)

instance (value : Bytes) : Decidable (TrailingElement value) :=
  inferInstanceAs (Decidable (_ ∧ _))

/-- **The two air decoders agree on every element value but a v0 frame with trailing bytes**, which
the host accepts and the board refuses. -/
theorem decoders_agree_iff (value : Bytes) : DecodersAgree value ↔ ¬TrailingElement value := by
  rw [DecodersAgree, TrailingElement]
  by_cases hours : 2 ≤ value.length ∧ leNat (fieldAt value 0 2) = COMPANY_ID
  · have helement : decode_element value = decode_any (value.drop 2) := by
      rw [decode_element, strip_company, if_pos hours]
    rw [helement, airWireDecodeAny_isOk_iff hours.1 hours.2, decode_any_isOk_iff]
    constructor
    · rintro ⟨haccept, -⟩ ⟨-, htrailing⟩
      exact htrailing.not_airFrame (haccept.2 (.inr htrailing))
    · intro hnot
      refine ⟨⟨.inl, fun h ↦ h.resolve_right fun ht ↦ hnot ⟨hours, ht⟩⟩, fun b h hb hh ↦ ?_⟩
      exact samePacket_of_ok hours.1 hours.2 hb hh
  · have helement : (decode_element value).isOk = false := by
      rw [decode_element, strip_company, if_neg hours]
      rfl
    have hboard : (airWireDecodeAny value).isOk = false := airWireDecodeAny_foreign hours
    rw [helement, hboard]
    refine ⟨fun _ h ↦ hours h.1, fun _ ↦ ⟨Iff.rfl, fun b h hb ↦ ?_⟩⟩
    rw [hb] at hboard
    cases hboard

/-- A v0 frame of node 3 with a byte behind it: the host hears the node, the board does not. -/
theorem decoders_disagree_trailing :
    ¬DecodersAgree [0x59, 0x00, 0x7F, 0x03, 0x40, 0x6F, 0x40, 0x01, 0x00] := by
  rintro ⟨haccept, -⟩
  exact absurd (haccept.2 (by decide)) (by decide)

end VertexTestbed.Conformance
