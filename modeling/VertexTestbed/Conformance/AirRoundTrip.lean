import VertexTestbed.Conformance.AirWire

/-!
# The air codec, there and back

The encoders of `wire/codec.py` and `air_wire.c` against the decoders of both. A frame is a
concatenation on the writing side and a row of offsets on the reading side; `fields_of_v1` and
`fields_of_v2` read the concatenation at the offsets, and `v1_of_fields` and `v2_of_fields` put a
payload together again from what is read off it.
-/

namespace VertexTestbed.Conformance

open Firmware Host

/-! ### Fields -/

/-- The offsets of a v1 payload. -/
theorem fields_of_v1 {a b c d : Bytes} (ha : a.length = 4) (hb : b.length = 2) (hc : c.length = 4)
    (hd : d.length = 6) :
    fieldAt (a ++ (b ++ (c ++ d))) 4 2 = b ∧ fieldAt (a ++ (b ++ (c ++ d))) 6 4 = c ∧
      fieldAt (a ++ (b ++ (c ++ d))) 10 6 = d := by
  refine ⟨?_, ?_, ?_⟩
  · rw [show (4 : ℕ) = 4 + 0 from rfl, fieldAt_behind ha, fieldAt_append_left hb]
  · rw [show (6 : ℕ) = 4 + (2 + 0) from rfl, fieldAt_behind ha, fieldAt_behind hb,
      fieldAt_append_left hc]
  · rw [show (10 : ℕ) = 4 + (2 + 4) from rfl, fieldAt_behind ha, fieldAt_behind hb,
      fieldAt_last hc hd]

/-- The offsets of a v2 payload. -/
theorem fields_of_v2 {a b c d e : Bytes} (ha : a.length = 3) (hb : b.length = 2)
    (hc : c.length = 4) (hd : d.length = 4) (he : e.length = 6) :
    fieldAt (a ++ (b ++ (c ++ (d ++ e)))) 3 2 = b ∧ fieldAt (a ++ (b ++ (c ++ (d ++ e)))) 5 4 = c ∧
      fieldAt (a ++ (b ++ (c ++ (d ++ e)))) 9 4 = d ∧
      fieldAt (a ++ (b ++ (c ++ (d ++ e)))) 13 6 = e := by
  refine ⟨?_, ?_, ?_, ?_⟩
  · rw [show (3 : ℕ) = 3 + 0 from rfl, fieldAt_behind ha, fieldAt_append_left hb]
  · rw [show (5 : ℕ) = 3 + (2 + 0) from rfl, fieldAt_behind ha, fieldAt_behind hb,
      fieldAt_append_left hc]
  · rw [show (9 : ℕ) = 3 + (2 + (4 + 0)) from rfl, fieldAt_behind ha, fieldAt_behind hb,
      fieldAt_behind hc, fieldAt_append_left hd]
  · rw [show (13 : ℕ) = 3 + (2 + (4 + 4)) from rfl, fieldAt_behind ha, fieldAt_behind hb,
      fieldAt_behind hc, fieldAt_last hd he]

/-- An unsigned field is written back as it was. -/
theorem leBytes_leNat_fieldAt {d : Bytes} {i n : ℕ} (h : i + n ≤ d.length) :
    leBytes n (leNat (fieldAt d i n)) = fieldAt d i n := by
  have hwrite := leBytes_leNat (fieldAt d i n)
  rwa [fieldAt_length h] at hwrite

/-- A v1 payload is what is read off it. -/
theorem v1_of_fields {d : Bytes} (h : d.length = 16) :
    [byteAt d 0, byteAt d 1, byteAt d 2, byteAt d 3] ++ (fieldAt d 4 2 ++
      (fieldAt d 6 4 ++ fieldAt d 10 6)) = d := by
  have hhead : fieldAt d 0 4 = [byteAt d 0, byteAt d 1, byteAt d 2, byteAt d 3] := by
    rw [show (4 : ℕ) = 1 + (1 + (1 + 1)) from rfl, fieldAt_add, fieldAt_add, fieldAt_add,
      fieldAt_one (by omega), fieldAt_one (by omega), fieldAt_one (by omega),
      fieldAt_one (by omega)]
    rfl
  calc [byteAt d 0, byteAt d 1, byteAt d 2, byteAt d 3] ++ (fieldAt d 4 2 ++
        (fieldAt d 6 4 ++ fieldAt d 10 6))
      = fieldAt d 0 (4 + (2 + (4 + 6))) := by
        rw [fieldAt_add d 0 4, fieldAt_add d _ 2, fieldAt_add d _ 4, hhead]
    _ = d := by rw [show 4 + (2 + (4 + 6)) = d.length by rw [h], fieldAt_all]

/-- A v2 payload is what is read off it. -/
theorem v2_of_fields {d : Bytes} (h : d.length = 19) :
    [byteAt d 0, byteAt d 1, byteAt d 2] ++ (fieldAt d 3 2 ++ (fieldAt d 5 4 ++
      (fieldAt d 9 4 ++ fieldAt d 13 6))) = d := by
  have hhead : fieldAt d 0 3 = [byteAt d 0, byteAt d 1, byteAt d 2] := by
    rw [show (3 : ℕ) = 1 + (1 + 1) from rfl, fieldAt_add, fieldAt_add,
      fieldAt_one (by omega), fieldAt_one (by omega), fieldAt_one (by omega)]
    rfl
  calc [byteAt d 0, byteAt d 1, byteAt d 2] ++ (fieldAt d 3 2 ++ (fieldAt d 5 4 ++
        (fieldAt d 9 4 ++ fieldAt d 13 6)))
      = fieldAt d 0 (3 + (2 + (4 + (4 + 6)))) := by
        rw [fieldAt_add d 0 3, fieldAt_add d _ 2, fieldAt_add d _ 4, fieldAt_add d _ 4, hhead]
    _ = d := by rw [show 3 + (2 + (4 + (4 + 6))) = d.length by rw [h], fieldAt_all]

/-- A signed field is written back as it was. -/
theorem packI32_leInt {bs : Bytes} (h : bs.length = 4) : packI32 (leInt bs) = bs := by
  have hlt : leNat bs < 2 ^ 32 := by
    have := leNat_lt bs
    rw [h] at this
    exact this
  have hmod : (leInt bs % 2 ^ 32).toNat = leNat bs := by
    rw [leInt, h, show (2 ^ 32 : ℤ) = ((256 ^ 4 : ℕ) : ℤ) by norm_num, Int.bmod_emod,
      Int.emod_eq_of_lt (Int.natCast_nonneg _) (by norm_num; omega), Int.toNat_natCast]
  rw [packI32, hmod, ← h, leBytes_leNat]

/-- A value that fits is read back as it was. -/
theorem leInt_packI32 {v : ℤ} (h : FitsI32 v) : leInt (packI32 v) = v := by
  have hpack : packInt 4 v = some (packI32 v) := by
    obtain ⟨hlo, hhi⟩ := h
    rw [packInt, if_pos (by constructor <;> norm_num <;> omega)]
    rfl
  exact leInt_of_packInt hpack

/-! ### Flags -/

/-- The two flags are read back from their byte. -/
theorem flags_read (e d : Bool) :
    let b := (if e then FLAG_ENABLED else 0) ||| (if d then FLAG_DISTURBANCE else 0)
    decide (b &&& FLAG_ENABLED ≠ 0) = e ∧ decide (b &&& FLAG_DISTURBANCE ≠ 0) = d := by
  cases e <;> cases d <;> decide

/-- A flag byte that uses only the two defined bits is the one its flags make. -/
theorem flags_written {b : UInt8} (h : b.toNat < 4) :
    (if decide (b &&& FLAG_ENABLED ≠ 0) then FLAG_ENABLED else 0) |||
      (if decide (b &&& FLAG_DISTURBANCE ≠ 0) then FLAG_DISTURBANCE else 0) = b := by
  obtain rfl | rfl | rfl | rfl : b = 0 ∨ b = 1 ∨ b = 2 ∨ b = 3 := by
    simp only [← UInt8.toNat_inj]
    simp only [UInt8.reduceToNat]
    omega
  all_goals decide

/-! ### The host's round trip -/

/-- A packet is its fields. -/
theorem eq_of_fields {p q : AirPacket} (h : p.fields = q.fields) : p = q := by
  obtain ⟨⟨⟨n, v, e, _, _⟩, s, t, _⟩, d, _, _, _⟩ := p
  obtain ⟨⟨⟨n', v', e', _, _⟩, s', t', _⟩, d', _, _, _⟩ := q
  simp only [AirPacket.fields, Prod.mk.injEq] at h
  obtain ⟨rfl, rfl, rfl, rfl, rfl, rfl⟩ := h
  rfl

/-- The coordinates of a packet, by their number. -/
theorem vstate_cases (p : AirPacket) :
    (∃ x, FitsI32 x ∧ p.vstate = [x]) ∨ ∃ x y, FitsI32 x ∧ FitsI32 y ∧ p.vstate = [x, y] := by
  obtain hone | htwo := p.coords
  · obtain ⟨x, hx⟩ := List.length_eq_one_iff.1 hone
    exact .inl ⟨x, p.fits x (by simp [hx]), hx⟩
  · obtain ⟨x, y, hxy⟩ := List.length_eq_two.1 htwo
    exact .inr ⟨x, y, p.fits x (by simp [hxy]), p.fits y (by simp [hxy]), hxy⟩

/-- The node id is a byte, and not zero. -/
theorem node_byte (p : AirPacket) :
    (UInt8.ofNat p.node_id).toNat = p.node_id ∧ UInt8.ofNat p.node_id ≠ 0 := by
  have hpos := p.node_pos
  have hle := p.node_le
  have hnat : (UInt8.ofNat p.node_id).toNat = p.node_id := by
    rw [UInt8.toNat_ofNat']
    omega
  refine ⟨hnat, fun h ↦ ?_⟩
  rw [h] at hnat
  simp at hnat
  omega

/-- A packet with one coordinate, field by field. -/
theorem encode_v1 {p : AirPacket} {x : ℤ} (h : p.vstate = [x]) :
    p.encode = [VERSION, p.flags, UInt8.ofNat p.node_id, 0] ++ (leBytes 2 p.seq ++
      (packI32 x ++ leBytes 6 p.tx_time_us)) := by
  rw [AirPacket.encode, h]
  rfl

/-- A packet with two coordinates, field by field. -/
theorem encode_v2 {p : AirPacket} {x y : ℤ} (h : p.vstate = [x, y]) :
    p.encode = [V2_VERSION, p.flags, UInt8.ofNat p.node_id] ++ (leBytes 2 p.seq ++
      (packI32 x ++ (packI32 y ++ leBytes 6 p.tx_time_us))) := by
  rw [AirPacket.encode, h]
  rfl

@[simp]
theorem packI32_length (v : ℤ) : (packI32 v).length = 4 := leBytes_length 4 _

/-- The sequence number and the time stamp are read back as they were. -/
theorem header_read (p : AirPacket) :
    leNat (leBytes 2 p.seq) = p.seq ∧ leNat (leBytes 6 p.tx_time_us) = p.tx_time_us :=
  ⟨leNat_leBytes_of_lt (by have := p.seq_le; omega),
    leNat_leBytes_of_lt (by have := p.tx_time_lt; norm_num; omega)⟩

/-- The flags of a packet are read back as they were. -/
theorem flags_of_packet (p : AirPacket) :
    decide (p.flags &&& FLAG_ENABLED ≠ 0) = p.enabled ∧
      decide (p.flags &&& FLAG_DISTURBANCE ≠ 0) = p.disturbance_on :=
  flags_read p.enabled p.disturbance_on

/-- A packet with one coordinate is read back. -/
theorem decode_encode_v1 {p : AirPacket} {x : ℤ} (hx : FitsI32 x) (h : p.vstate = [x]) :
    decode p.encode = .ok p := by
  have hlen : p.encode.length = PAYLOAD_SIZE := by
    rw [encode_v1 h]
    simp [PAYLOAD_SIZE]
  have hdecode : decode p.encode = decode_v1 p.encode := by
    rw [decode, if_neg (by rw [hlen]; exact fun h ↦ absurd h.1 (by decide)),
      if_neg (not_not.2 hlen)]
  obtain ⟨hnode, hne⟩ := node_byte p
  have htag : byteAt p.encode 0 = VERSION := by
    rw [encode_v1 h]
    rfl
  obtain ⟨q, hq, hfields⟩ := decode_v1_of_tag htag (by rw [encode_v1 h]; rfl)
    (by rw [encode_v1 h]; exact hne)
  obtain ⟨hseq, htime⟩ := header_read p
  obtain ⟨henabled, hdist⟩ := flags_of_packet p
  have hsame : q = p := by
    refine eq_of_fields (hfields.trans ?_)
    rw [encode_v1 h]
    obtain ⟨fseq, fx, ftime⟩ := fields_of_v1 (a := [VERSION, p.flags, UInt8.ofNat p.node_id, 0]) rfl
      (leBytes_length 2 p.seq) (packI32_length x) (leBytes_length 6 p.tx_time_us)
    rw [fseq, fx, ftime, hseq, htime, leInt_packI32 hx]
    show ((UInt8.ofNat p.node_id).toNat, [x], p.seq, p.tx_time_us,
      decide (p.flags &&& FLAG_ENABLED ≠ 0), decide (p.flags &&& FLAG_DISTURBANCE ≠ 0)) = _
    rw [hnode, henabled, hdist, AirPacket.fields, h]
  rw [hdecode, hq, hsame]

/-- So is one with two. -/
theorem decode_encode_v2 {p : AirPacket} {x y : ℤ} (hx : FitsI32 x) (hy : FitsI32 y)
    (h : p.vstate = [x, y]) : decode p.encode = .ok p := by
  have hlen : p.encode.length = V2_PAYLOAD_SIZE := by
    rw [encode_v2 h]
    simp [V2_PAYLOAD_SIZE]
  have hdecode : decode p.encode = decode_v2 p.encode := by
    rw [decode, if_pos ⟨hlen, by rw [encode_v2 h]; rfl⟩]
  obtain ⟨hnode, hne⟩ := node_byte p
  have htag : byteAt p.encode 0 = V2_VERSION := by
    rw [encode_v2 h]
    rfl
  obtain ⟨q, hq, hfields⟩ := decode_v2_of_tag htag (by rw [encode_v2 h]; exact hne)
  obtain ⟨hseq, htime⟩ := header_read p
  obtain ⟨henabled, hdist⟩ := flags_of_packet p
  have hsame : q = p := by
    refine eq_of_fields (hfields.trans ?_)
    rw [encode_v2 h]
    obtain ⟨fseq, fx, fy, ftime⟩ := fields_of_v2 (a := [V2_VERSION, p.flags, UInt8.ofNat p.node_id])
      rfl (leBytes_length 2 p.seq) (packI32_length x) (packI32_length y)
      (leBytes_length 6 p.tx_time_us)
    rw [fseq, fx, fy, ftime, hseq, htime, leInt_packI32 hx, leInt_packI32 hy]
    show ((UInt8.ofNat p.node_id).toNat, [x, y], p.seq, p.tx_time_us,
      decide (p.flags &&& FLAG_ENABLED ≠ 0), decide (p.flags &&& FLAG_DISTURBANCE ≠ 0)) = _
    rw [hnode, henabled, hdist, AirPacket.fields, h]
  rw [hdecode, hq, hsame]

theorem decode_encode (p : AirPacket) : decode p.encode = .ok p := by
  obtain ⟨x, hx, h⟩ | ⟨x, y, hx, hy, h⟩ := vstate_cases p
  · exact decode_encode_v1 hx h
  · exact decode_encode_v2 hx hy h

/-- A manufacturer value is the company id and the payload. -/
theorem decode_manufacturer_append (payload : Bytes) :
    decode_manufacturer_data (leBytes 2 COMPANY_ID ++ payload) = decode payload := by
  have hcompany : leNat (fieldAt (leBytes 2 COMPANY_ID ++ payload) 0 2) = COMPANY_ID := by
    rw [fieldAt_append_left (leBytes_length 2 _)]
    rfl
  rw [decode_manufacturer_data, if_neg (by simp; omega), if_neg (not_not.2 hcompany)]
  rfl

/-! ### From bytes and back -/

/-- A payload of the first version is what its packet is written as, when only defined flags are
set. -/
theorem encode_decode_v1 {d : Bytes} {p : AirPacket} (hlen : d.length = PAYLOAD_SIZE)
    (h : decode_v1 d = .ok p) (hflags : (byteAt d 1).toNat < 4) : p.encode = d := by
  obtain ⟨htag, hreserved, hnode⟩ := (decode_v1_isOk d).1 (by rw [h]; rfl)
  obtain ⟨q, hq, hfields⟩ := decode_v1_of_tag htag hreserved hnode
  obtain rfl := Except.ok.inj (hq.symm.trans h)
  simp only [AirPacket.fields, Prod.mk.injEq] at hfields
  obtain ⟨hn, hv, hs, ht, he, hd⟩ := hfields
  have hsize : d.length = 16 := hlen
  rw [encode_v1 hv, AirPacket.flags, hn, hs, ht, he, hd, flags_written hflags,
    leBytes_leNat_fieldAt (by omega), leBytes_leNat_fieldAt (by omega),
    packI32_leInt (fieldAt_length (by omega)), UInt8.ofNat_toNat]
  conv_rhs => rw [← v1_of_fields hsize, htag, hreserved]

/-- So is one of the second version. -/
theorem encode_decode_v2 {d : Bytes} {p : AirPacket} (hlen : d.length = V2_PAYLOAD_SIZE)
    (h : decode_v2 d = .ok p) (hflags : (byteAt d 1).toNat < 4) : p.encode = d := by
  obtain ⟨htag, hnode⟩ := (decode_v2_isOk d).1 (by rw [h]; rfl)
  obtain ⟨q, hq, hfields⟩ := decode_v2_of_tag htag hnode
  obtain rfl := Except.ok.inj (hq.symm.trans h)
  simp only [AirPacket.fields, Prod.mk.injEq] at hfields
  obtain ⟨hn, hv, hs, ht, he, hd⟩ := hfields
  have hsize : d.length = 19 := hlen
  rw [encode_v2 hv, AirPacket.flags, hn, hs, ht, he, hd, flags_written hflags,
    leBytes_leNat_fieldAt (by omega), leBytes_leNat_fieldAt (by omega),
    packI32_leInt (fieldAt_length (by omega)), packI32_leInt (fieldAt_length (by omega)),
    UInt8.ofNat_toNat]
  conv_rhs => rw [← v2_of_fields hsize, htag]

theorem encode_decode {d : Bytes} {p : AirPacket} (h : decode d = .ok p)
    (hflags : (byteAt d 1).toNat < 4) : p.encode = d := by
  rw [decode] at h
  split_ifs at h with htwo hone
  · exact encode_decode_v2 htwo.1 h hflags
  · exact encode_decode_v1 (not_not.1 hone) h hflags

/-! ### The board -/

/-- Both sides write the same flags. -/
theorem board_flags {q : StatePacketType} {p : AirPacket} (h : SamePacket ⟨q, true⟩ p) :
    airWireFlags q = p.flags := by
  have he : p.enabled = q.enabled := h.enabled
  have hd : p.disturbance_on = q.disturbanceOn := h.disturbance
  rw [AirPacket.flags, airWireFlags, he, hd]
  rfl

/-- And the same node. -/
theorem board_node {q : StatePacketType} {p : AirPacket} (h : SamePacket ⟨q, true⟩ p) :
    UInt8.ofNat p.node_id = q.node := by
  rw [show p.node_id = q.node.toNat from h.node, UInt8.ofNat_toNat]

/-- **The two encoders write the same bytes** from the same fields. -/
theorem airWireEncode_eq {q : StatePacketType} {p : AirPacket} (h : SamePacket ⟨q, true⟩ p)
    {cap : ℕ} (hcap : (encode_manufacturer_data p).length ≤ cap) :
    airWireEncode q cap = .ok (encode_manufacturer_data p) := by
  have hseq : p.seq = q.seq.toNat := h.seq
  have htime : p.tx_time_us = q.txTimeUs := h.time
  have hfirst : p.vstate.getD 0 0 = q.vstate := h.vstate
  have hsecond : p.vstate.getD 1 0 = q.vstateQ := h.second
  have hcoords : p.vstate.length = q.coords := h.coords
  obtain ⟨x, -, hv⟩ | ⟨x, y, -, -, hv⟩ := vstate_cases p
  · rw [hv] at hfirst hcoords
    rw [encode_manufacturer_data, encode_v1 hv] at hcap ⊢
    have hsize : ¬cap < airWireAdValueSize := by
      simp [airWireAdValueSize, airWireV1PayloadSize] at hcap ⊢
      omega
    rw [airWireEncode, if_neg (by rw [← hcoords]; simp), airWireEncodeV1, if_neg hsize,
      board_flags h, ← board_node h, hseq, htime, ← hfirst]
    rfl
  · rw [hv] at hfirst hsecond hcoords
    rw [encode_manufacturer_data, encode_v2 hv] at hcap ⊢
    have hsize : ¬cap < airWireV2AdValueSize := by
      simp [airWireV2AdValueSize, airWireV2PayloadSize] at hcap ⊢
      omega
    rw [airWireEncode, if_pos (by rw [← hcoords]; simp), airWireEncodeV2, if_neg hsize,
      board_flags h, ← board_node h, hseq, htime, ← hfirst, ← hsecond]
    rfl

/-- A host packet is read as one packet on the board. -/
theorem SamePacket.unique {b b' : DecodedPacket} {p : AirPacket} (h : SamePacket b p)
    (h' : SamePacket b' p) (htime : b.hasSeqAndTime = b'.hasSeqAndTime) : b = b' := by
  have hnode := UInt8.toNat_inj.1 (h.node.symm.trans h'.node)
  have henabled := h.enabled.symm.trans h'.enabled
  have hdist := h.disturbance.symm.trans h'.disturbance
  have hseq := UInt16.toNat_inj.1 (h.seq.symm.trans h'.seq)
  have hstamp := h.time.symm.trans h'.time
  have hfirst := h.vstate.symm.trans h'.vstate
  have hsecond := h.second.symm.trans h'.second
  have hcoords := h.coords.symm.trans h'.coords
  obtain ⟨⟨_, _, _, _, _, _, _, _⟩, _⟩ := b
  obtain ⟨⟨_, _, _, _, _, _, _, _⟩, _⟩ := b'
  simp_all

/-- **The board reads its own fields back.** -/
theorem airWireDecodeAny_encode {q : StatePacketType} {p : AirPacket}
    (h : SamePacket ⟨q, true⟩ p) :
    airWireDecodeAny (encode_manufacturer_data p) = .ok ⟨q, true⟩ := by
  have hcompany : leNat (fieldAt (encode_manufacturer_data p) 0 2) = manufacturerId := by
    rw [encode_manufacturer_data, fieldAt_append_left (leBytes_length 2 _)]
    rfl
  have hlen : 2 ≤ (encode_manufacturer_data p).length := by
    rw [encode_manufacturer_data, List.length_append, leBytes_length]
    omega
  have hpayload : (encode_manufacturer_data p).drop 2 = p.encode := rfl
  have hdecode := decode_encode p
  rw [airWireDecodeAny_eq_ok_iff hlen hcompany, hpayload]
  -- The length of the payload selects the version.
  obtain ⟨-, hne⟩ := node_byte p
  obtain ⟨x, hx, hv⟩ | ⟨x, y, hx, hy, hv⟩ := vstate_cases p
  · have hsize : p.encode.length = PAYLOAD_SIZE := by
      rw [encode_v1 hv]
      simp [PAYLOAD_SIZE]
    refine .inr (.inl ⟨hsize, ?_⟩)
    have hread : ReadableV1 p.encode := by
      rw [encode_v1 hv]
      exact ⟨rfl, rfl, hne⟩
    rw [decode, if_neg (by rw [hsize]; exact fun h ↦ absurd h.1 (by decide)),
      if_neg (not_not.2 hsize)] at hdecode
    have hb := decodeV1_eq_ok_iff.2 ⟨hread, rfl⟩
    rw [hb, (samePacket_v1 hsize hb hdecode).unique h rfl]
  · have hsize : p.encode.length = V2_PAYLOAD_SIZE := by
      rw [encode_v2 hv]
      simp [V2_PAYLOAD_SIZE]
    refine .inl ⟨hsize, ?_⟩
    have hread : ReadableV2 p.encode := by
      rw [encode_v2 hv]
      exact ⟨rfl, hne⟩
    rw [decode, if_pos ⟨hsize, by rw [encode_v2 hv]; rfl⟩] at hdecode
    have hb := decodeV2_eq_ok_iff.2 ⟨hread, rfl⟩
    rw [hb, (samePacket_v2 hsize hb hdecode).unique h rfl]

/-! ### The round trip -/

/-- **The air codec round trip.** A host packet decodes to itself; from the same fields the board
writes the same bytes, into any buffer that holds them, and reads the same fields back; and a
manufacturer value the host accepts, whose flag byte uses only the two defined bits, encodes to
itself. -/
theorem air_round_trip :
    (∀ p : AirPacket, decode_manufacturer_data (encode_manufacturer_data p) = .ok p) ∧
    (∀ (q : StatePacketType) (p : AirPacket), SamePacket ⟨q, true⟩ p →
      (∀ cap, (encode_manufacturer_data p).length ≤ cap →
        airWireEncode q cap = .ok (encode_manufacturer_data p)) ∧
      airWireDecodeAny (encode_manufacturer_data p) = .ok ⟨q, true⟩) ∧
    (∀ (d : Bytes) (p : AirPacket), decode d = .ok p → (byteAt d 1).toNat < 4 → p.encode = d) ∧
    ∀ (d : Bytes) (p : AirPacket), decode_manufacturer_data d = .ok p →
      (byteAt (d.drop 2) 1).toNat < 4 → encode_manufacturer_data p = d := by
  refine ⟨fun p ↦ ?_, fun q p h ↦ ⟨fun cap ↦ airWireEncode_eq h, airWireDecodeAny_encode h⟩,
    fun d p h hflags ↦ encode_decode h hflags, fun d p h hflags ↦ ?_⟩
  · rw [encode_manufacturer_data, decode_manufacturer_append, decode_encode]
  · rw [decode_manufacturer_data] at h
    split_ifs at h with hlen hcompany
    have hhead : leBytes 2 COMPANY_ID = d.take 2 := by
      have hread : leBytes 2 (leNat (fieldAt d 0 2)) = fieldAt d 0 2 :=
        leBytes_leNat_fieldAt (by omega)
      rwa [not_not.1 hcompany] at hread
    rw [encode_manufacturer_data, encode_decode h hflags, hhead, List.take_append_drop]

theorem sample_fits : ∀ v ∈ [-1, 2500000], FitsI32 v := by decide

theorem threeId_pos : 1 ≤ 3 := by decide

theorem threeId_le : 3 ≤ 255 := by decide

theorem latestTime_lt : 2 ^ 48 - 1 < 2 ^ 48 := by decide

/-- A v2 packet of node 3, as the host holds it. -/
def sampleAirPacket : AirPacket where
  node_id := 3
  vstate := [-1, 2500000]
  enabled := true
  coords := .inr rfl
  fits := sample_fits
  seq := 65535
  tx_time_us := 2 ^ 48 - 1
  seq_le := le_rfl
  disturbance_on := true
  node_pos := threeId_pos
  node_le := threeId_le
  tx_time_lt := latestTime_lt

/-- The same packet, as the board holds it. -/
def sampleStatePacket : StatePacketType :=
  ⟨3, true, true, 65535, -1, 2500000, 2, 2 ^ 48 - 1⟩

theorem air_round_trip_sample :
    airWireEncode sampleStatePacket 21 = .ok (encode_manufacturer_data sampleAirPacket) ∧
      airWireDecodeAny (encode_manufacturer_data sampleAirPacket) = .ok ⟨sampleStatePacket, true⟩ :=
  have h := air_round_trip.2.1 sampleStatePacket sampleAirPacket
    ⟨rfl, rfl, rfl, rfl, rfl, rfl, rfl, rfl⟩
  ⟨h.1 21 (by decide), h.2⟩

end VertexTestbed.Conformance
