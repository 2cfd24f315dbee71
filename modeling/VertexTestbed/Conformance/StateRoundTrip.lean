import VertexTestbed.Conformance.Recording

/-!
# STATE reports, there and back

`report_state` on the board and `encode_state` on the host both build what `decode_state` reads. The
three layouts differ in the tail behind the neighbour records and are told apart by the length of
the payload, given the neighbour count that the header declares.

`decodeState_board` reads a report of the board, whose fields are the `int32_t` they are declared
as, back field by field; `decodeState_encodeState` says that the host's encoder and decoder are
inverse on every report whose tuples match.
-/

namespace VertexTestbed.Conformance

open Firmware Host

/-! ### Layouts -/

/-- The three layouts: by what follows the neighbour records. -/
inductive StateLayout where
  | scalar
  | microgrid
  | lc
  deriving DecidableEq

/-- The tail of a report is all there or all absent, as the layout has it. -/
def HasLayout (r : StateReport) : StateLayout → Prop
  | .scalar => r.state_Q = none ∧ r.vstate_Q = none ∧ r.S1_hat = none ∧ r.S2_hat = none
  | .microgrid => (∃ x, r.state_Q = some x) ∧ (∃ y, r.vstate_Q = some y) ∧ r.S1_hat = none ∧
      r.S2_hat = none
  | .lc => (∃ x, r.state_Q = some x) ∧ (∃ y, r.vstate_Q = some y) ∧ (∃ s, r.S1_hat = some s) ∧
      ∃ s, r.S2_hat = some s

/-- A report has one layout at most. -/
theorem HasLayout.unique {r : StateReport} {l l' : StateLayout} (h : HasLayout r l)
    (h' : HasLayout r l') : l = l' := by
  cases l <;> cases l' <;> simp_all [HasLayout]

/-- The tail's length. -/
def StateLayout.tailSize : StateLayout → ℕ
  | .scalar => 0
  | .microgrid => stateTailSize
  | .lc => stateTailLCSize

/-- **A report whose tuples match**: as many flags, numbers and signal strengths as values, no more
than a payload may declare, and a tail of some layout. -/
structure Aligned (r : StateReport) : Prop where
  enabled : r.neighbor_enabled.length = r.neighbor_vstates.length
  fresh : r.neighbor_fresh.length = r.neighbor_vstates.length
  seq : r.neighbor_seq.length = r.neighbor_vstates.length
  rssi : r.neighbor_rssi.length = r.neighbor_vstates.length
  few : r.neighbor_vstates.length ≤ maxNeighbors
  layout : ∃ l, HasLayout r l

/-! ### What an encoded report holds -/

/-- What is packed reads as the number. -/
theorem packU_eq_ok {n : ℕ} {v : ℤ} {bs : Bytes} (h : packU n v = .ok bs) :
    bs.length = n ∧ (leNat bs : ℤ) = v := by
  rw [packU] at h
  split_ifs at h with hrange
  cases h
  obtain ⟨hpos, hlt⟩ := hrange
  have hfits : v.toNat < 256 ^ n := by
    rw [← Int.toNat_of_nonneg hpos] at hlt
    exact_mod_cast hlt
  exact ⟨leBytes_length n _, by rw [leNat_leBytes_of_lt hfits, Int.toNat_of_nonneg hpos]⟩

/-- And so for signed numbers, one after another. -/
theorem packIs_eq_ok {n : ℕ} {vs : List ℤ} {bs : Bytes} (h : packIs n vs = .ok bs) :
    packInts n vs = some bs := by
  rw [packIs] at h
  rcases hp : packInts n vs with _ | bs'
  · rw [hp] at h
    cases h
  · rw [hp] at h
    cases h
    rfl

theorem indexed_eq_ok {α : Type*} {xs : List α} {i : ℕ} {x : α} (h : indexed xs i = .ok x) :
    xs[i]? = some x := by
  rw [indexed] at h
  rcases hx : xs[i]? with _ | y
  · rw [hx] at h
    cases h
  · rw [hx] at h
    cases h
    rfl

/-- A single signed field. -/
theorem leInt_of_packIs {n : ℕ} {v : ℤ} {bs : Bytes} (h : packIs n [v] = .ok bs) :
    bs.length = n ∧ leInt bs = v := by
  have hpack := packIs_eq_ok h
  have hlen := packInts_length hpack
  have hread : leInt (fieldAt ([] ++ bs) (([] : Bytes).length + n * 0) n) = v :=
    leInt_fieldAt_packInts hpack (by simp)
  rw [List.length_singleton, Nat.mul_one] at hlen
  rw [List.nil_append, List.length_nil, Nat.mul_zero, Nat.add_zero, fieldAt, List.drop_zero,
    ← hlen, List.take_length] at hread
  exact ⟨hlen, hread⟩

/-- What the header holds. -/
theorem packStateHeader_eq_ok {r : StateReport} {h : Bytes} (hok : packStateHeader r = .ok h) :
    h.length = 25 ∧ (leNat (fieldAt h 0 8) : ℤ) = r.t_us ∧ leInt (fieldAt h 8 4) = r.state ∧
      leInt (fieldAt h 12 4) = r.vstate ∧ leInt (fieldAt h 16 4) = r.vartheta ∧
      leInt (fieldAt h 20 4) = r.counter ∧
      leNat (fieldAt h 24 1) = r.neighbor_vstates.length := by
  rw [packStateHeader, except_bind_eq_ok] at hok
  obtain ⟨t, ht, hok⟩ := hok
  rw [except_bind_eq_ok] at hok
  obtain ⟨values, hvalues, hok⟩ := hok
  rw [except_bind_eq_ok] at hok
  obtain ⟨n, hn, hok⟩ := hok
  cases hok
  obtain ⟨tlen, tval⟩ := packU_eq_ok ht
  obtain ⟨nlen, nval⟩ := packU_eq_ok hn
  have hpack := packIs_eq_ok hvalues
  have vlen : values.length = 16 := packInts_length hpack
  have hvalue : ∀ k (hk : k < 4), leInt (fieldAt (t ++ values ++ n) (8 + 4 * k) 4) =
      [r.state, r.vstate, r.vartheta, r.counter][k] := by
    intro k hk
    rw [fieldAt_append_of_le (by rw [List.length_append]; omega)]
    rw [show 8 + 4 * k = t.length + 4 * k by rw [tlen]]
    exact leInt_fieldAt_packInts hpack hk
  refine ⟨by simp only [List.length_append]; omega, ?_, hvalue 0 (by decide), hvalue 1 (by decide),
    hvalue 2 (by decide), hvalue 3 (by decide), ?_⟩
  · rw [List.append_assoc, fieldAt_append_left tlen, tval]
  · rw [fieldAt_append_right (by rw [List.length_append]; omega), List.length_append, tlen, vlen,
      ← List.append_nil n, fieldAt_append_left nlen]
    exact_mod_cast nval

/-- What a neighbour's record holds. -/
structure HoldsRecord (r : StateReport) (i : ℕ) (b : Bytes) : Prop where
  length : b.length = 8
  value : r.neighbor_vstates[i]? = some (leInt (fieldAt b 0 4))
  seq : r.neighbor_seq.getD i 0 = (leNat (fieldAt b 4 2) : ℤ)
  rssi : r.neighbor_rssi.getD i 0 = leInt (fieldAt b 6 1)
  enabled : r.neighbor_enabled[i]? = some (UInt8.ofNat (leNat (fieldAt b 7 1)) &&& 0x01 != 0)
  fresh : r.neighbor_fresh[i]? = some (UInt8.ofNat (leNat (fieldAt b 7 1)) &&& 0x02 != 0)

/-- The record of a neighbour holds what the report says of it. -/
theorem packStateNeighbour_eq_ok {r : StateReport} {i : ℕ} {b : Bytes}
    (hok : packStateNeighbour r i = .ok b) : HoldsRecord r i b := by
  rw [packStateNeighbour, except_bind_eq_ok] at hok
  obtain ⟨e, he, hok⟩ := hok
  rw [except_bind_eq_ok] at hok
  obtain ⟨f, hf, hok⟩ := hok
  rw [except_bind_eq_ok] at hok
  obtain ⟨v, hv, hok⟩ := hok
  rw [except_bind_eq_ok] at hok
  obtain ⟨value, hvalue, hok⟩ := hok
  rw [except_bind_eq_ok] at hok
  obtain ⟨seq, hseq, hok⟩ := hok
  rw [except_bind_eq_ok] at hok
  obtain ⟨rssi, hrssi, hok⟩ := hok
  cases hok
  obtain ⟨vlen, vval⟩ := leInt_of_packIs hvalue
  obtain ⟨slen, sval⟩ := packU_eq_ok hseq
  obtain ⟨rlen, rval⟩ := leInt_of_packIs hrssi
  have hflags : UInt8.ofNat (leNat (fieldAt (value ++ (seq ++ (rssi ++
      [(if e then 0x01 else 0) ||| (if f then 0x02 else 0)]))) 7 1)) =
        (if e then 0x01 else 0) ||| (if f then 0x02 else 0) := by
    rw [fieldAt_append_right (by omega), fieldAt_append_right (by omega),
      fieldAt_append_right (by omega), vlen, slen, rlen]
    simp [fieldAt]
  refine ⟨by simp only [List.length_append, List.length_singleton]; omega, ?_, ?_, ?_, ?_, ?_⟩
  · rw [fieldAt_append_left vlen, vval, indexed_eq_ok hv]
  · rw [fieldAt_append_right (by omega), vlen, fieldAt_append_left slen, sval]
  · rw [fieldAt_append_right (by omega), fieldAt_append_right (by omega), vlen, slen,
      fieldAt_append_left rlen, rval]
  · rw [hflags, indexed_eq_ok he]
    exact congrArg some (flags_and e f).1.symm
  · rw [hflags, indexed_eq_ok hf]
    exact congrArg some (flags_and e f).2.symm

/-- A field of a row that nothing is ahead of. -/
theorem leInt_of_packIs_row {vs : List ℤ} {bs : Bytes} (h : packIs 4 vs = .ok bs) {k : ℕ}
    (hk : k < vs.length) : leInt (fieldAt bs (4 * k) 4) = vs[k] := by
  have hread : leInt (fieldAt ([] ++ bs) (([] : Bytes).length + 4 * k) 4) = vs[k] :=
    leInt_fieldAt_packInts (packIs_eq_ok h) hk
  rwa [List.nil_append, List.length_nil, Nat.zero_add] at hread

/-- What the tail holds, as the decoder's tests on its length select it. -/
structure HoldsTail (r : StateReport) (tl : Bytes) : Prop where
  state_Q : (if (tl.length : ℤ) = 0 then none else some (leInt (fieldAt tl 0 4))) = r.state_Q
  vstate_Q : (if (tl.length : ℤ) = 0 then none else some (leInt (fieldAt tl 4 4))) = r.vstate_Q
  S1_hat : (if (tl.length : ℤ) = stateTailLCSize then some (leInt (fieldAt tl 8 4)) else none) =
    r.S1_hat
  S2_hat : (if (tl.length : ℤ) = stateTailLCSize then some (leInt (fieldAt tl 12 4)) else none) =
    r.S2_hat

/-- The tail holds the second coordinates and the gains that the layout has. -/
theorem packStateTail_eq_ok {r : StateReport} {l : StateLayout} (hl : HasLayout r l) {tl : Bytes}
    (hok : packStateTail r = .ok tl) : tl.length = l.tailSize ∧ HoldsTail r tl := by
  rw [packStateTail] at hok
  cases l with
  | scalar =>
    obtain ⟨hx, hy, hs, hs'⟩ := hl
    rw [hx, hy, hs, hs'] at hok
    cases hok
    exact ⟨rfl, hx.symm, hy.symm, hs.symm, hs'.symm⟩
  | microgrid =>
    obtain ⟨⟨x, hx⟩, ⟨y, hy⟩, hs, hs'⟩ := hl
    rw [hx, hy, hs, hs'] at hok
    have hok : packIs 4 [x, y] = .ok tl := hok
    have hlen : tl.length = 8 := packInts_length (packIs_eq_ok hok)
    have h₀ : leInt (fieldAt tl 0 4) = x := leInt_of_packIs_row hok (k := 0) (by simp)
    have h₁ : leInt (fieldAt tl 4 4) = y := leInt_of_packIs_row hok (k := 1) (by simp)
    refine ⟨hlen, ?_, ?_, ?_, ?_⟩
    · rw [hlen, h₀, hx]
      rfl
    · rw [hlen, h₁, hy]
      rfl
    · rw [hlen, hs]
      rfl
    · rw [hlen, hs']
      rfl
  | lc =>
    obtain ⟨⟨x, hx⟩, ⟨y, hy⟩, ⟨s, hs⟩, ⟨s', hs'⟩⟩ := hl
    rw [hx, hy, hs, hs'] at hok
    have hok : packIs 4 [x, y, s, s'] = .ok tl := hok
    have hlen : tl.length = 16 := packInts_length (packIs_eq_ok hok)
    have h₀ : leInt (fieldAt tl 0 4) = x := leInt_of_packIs_row hok (k := 0) (by simp)
    have h₁ : leInt (fieldAt tl 4 4) = y := leInt_of_packIs_row hok (k := 1) (by simp)
    have h₂ : leInt (fieldAt tl 8 4) = s := leInt_of_packIs_row hok (k := 2) (by simp)
    have h₃ : leInt (fieldAt tl 12 4) = s' := leInt_of_packIs_row hok (k := 3) (by simp)
    refine ⟨hlen, ?_, ?_, ?_, ?_⟩
    · rw [hlen, h₀, hx]
      rfl
    · rw [hlen, h₁, hy]
      rfl
    · rw [hlen, h₂, hs]
      rfl
    · rw [hlen, h₃, hs']
      rfl

/-! ### The host's round trip -/

/-- A list is what is read off it, position by position. -/
theorem map_range_eq {α : Type*} {xs : List α} {n : ℕ} (hn : xs.length = n) {f : ℕ → α}
    (h : ∀ i < n, xs[i]? = some (f i)) : (List.range n).map f = xs := by
  refine List.ext_getElem? fun i ↦ ?_
  rcases Nat.lt_or_ge i n with hi | hi
  · rw [List.getElem?_map, List.getElem?_range hi, h i hi]
    rfl
  · rw [List.getElem?_eq_none (by simpa using hi), List.getElem?_eq_none (by omega)]

theorem getElem?_of_getD {α : Type*} {xs : List α} {i : ℕ} {d x : α} (hi : i < xs.length)
    (h : xs.getD i d = x) : xs[i]? = some x := by
  rw [List.getElem?_eq_getElem hi, ← h, List.getD_eq_getElem _ _ hi]

/-- **Encoding and decoding is the identity** on a report whose tuples match. -/
theorem decodeState_encodeState {r : StateReport} (hr : Aligned r) {payload : Bytes}
    (hok : encodeState r = .ok payload) : decodeState payload = .ok r := by
  obtain ⟨l, hl⟩ := hr.layout
  rw [encodeState, except_bind_eq_ok] at hok
  obtain ⟨head, hhead, hok⟩ := hok
  rw [except_bind_eq_ok] at hok
  obtain ⟨records, hrecords, hok⟩ := hok
  rw [except_bind_eq_ok] at hok
  obtain ⟨tl, htl, hok⟩ := hok
  cases hok
  obtain ⟨hlen, htime, hstate, hvstate, hvartheta, hcounter, hcount⟩ := packStateHeader_eq_ok hhead
  obtain ⟨hsize, htail⟩ := packStateTail_eq_ok hl htl
  obtain ⟨hnum, hget⟩ := getElem_of_mapM_eq_ok hrecords
  rw [List.length_range] at hnum
  set n := r.neighbor_vstates.length with hn
  -- Each record, at its position.
  have hrecord : ∀ i < n, ∃ b, records[i]? = some b ∧ HoldsRecord r i b := by
    intro i hi
    obtain ⟨b, hb, hpack⟩ := hget i i (List.getElem?_range hi)
    exact ⟨b, hb, packStateNeighbour_eq_ok hpack⟩
  have hwidth : ∀ b ∈ records, b.length = 8 := by
    intro b hb
    obtain ⟨i, hi, rfl⟩ := List.mem_iff_getElem.1 hb
    obtain ⟨b', hb', hholds⟩ := hrecord i (by omega)
    rw [List.getElem?_eq_getElem hi] at hb'
    rw [Option.some.inj hb']
    exact hholds.length
  have hflat : records.flatten.length = n * 8 := by
    rw [List.length_flatten, List.map_congr_left hwidth, List.map_const', List.sum_replicate,
      hnum, smul_eq_mul]
  -- The three places a field is read from.
  have fhead : ∀ i m, i + m ≤ 25 →
      fieldAt (head ++ (records.flatten ++ tl)) i m = fieldAt head i m :=
    fun i m him ↦ fieldAt_append_of_le (by omega)
  have frecord : ∀ i < n, ∀ b, records[i]? = some b → ∀ j m, j + m ≤ 8 →
      stateField (head ++ (records.flatten ++ tl)) i j m = fieldAt b j m := by
    intro i hi b hb j m hjm
    rw [stateField, stateHeaderSize, stateNeighbourSize, fieldAt_append_right (by omega), hlen,
      Nat.add_sub_cancel_left, fieldAt_append_of_le (by omega), ← List.flatMap_id]
    exact fieldAt_flatMap (f := id) hwidth hb hjm
  have ftail : ∀ j m, fieldAt (head ++ (records.flatten ++ tl))
      (stateHeaderSize + n * stateNeighbourSize + j) m = fieldAt tl j m := by
    intro j m
    rw [stateHeaderSize, stateNeighbourSize, fieldAt_append_right (by omega),
      fieldAt_append_right (by omega), hlen, hflat]
    congr 1
    omega
  have htotal : ((head ++ (records.flatten ++ tl)).length : ℤ) -
      ((stateHeaderSize + n * stateNeighbourSize : ℕ) : ℤ) = tl.length := by
    simp only [List.length_append, hlen, hflat, stateHeaderSize, stateNeighbourSize]
    push_cast
    ring
  have hlong : ¬(head ++ (records.flatten ++ tl)).length < stateHeaderSize := by
    simp only [List.length_append, hlen, stateHeaderSize]
    omega
  have hkind : ¬((tl.length : ℤ) ≠ 0 ∧ (tl.length : ℤ) ≠ stateTailSize ∧
      (tl.length : ℤ) ≠ stateTailLCSize) := by
    rw [hsize]
    cases l <;> simp [StateLayout.tailSize]
  have hmany : ¬maxNeighbors < n := not_lt.2 hr.few
  have hrow {α : Type} {xs : List α} (hxs : xs.length = n) {f : ℕ → α}
      (h : ∀ i < n, ∀ b, records[i]? = some b → HoldsRecord r i b → xs[i]? = some (f i)) :
      (List.range n).map f = xs := by
    refine map_range_eq hxs fun i hi ↦ ?_
    obtain ⟨b, hb, hholds⟩ := hrecord i hi
    exact h i hi b hb hholds
  rw [decodeState, if_neg hlong]
  simp only [fhead 24 1 (by decide), hcount, htotal, if_neg hkind, if_neg hmany, ftail]
  show _ = Except.ok (StateReport.mk r.t_us r.state r.vstate r.vartheta r.counter
    r.neighbor_vstates r.neighbor_enabled r.neighbor_fresh r.neighbor_seq r.neighbor_rssi r.state_Q
    r.vstate_Q r.S1_hat r.S2_hat)
  rw [Except.ok.injEq, StateReport.mk.injEq]
  refine ⟨?_, ?_, ?_, ?_, ?_, ?_, ?_, ?_, ?_, ?_, htail.state_Q, htail.vstate_Q, htail.S1_hat,
    htail.S2_hat⟩
  · rw [fhead 0 8 (by decide), htime]
  · rw [fhead 8 4 (by decide), hstate]
  · rw [fhead 12 4 (by decide), hvstate]
  · rw [fhead 16 4 (by decide), hvartheta]
  · rw [fhead 20 4 (by decide), hcounter]
  · refine hrow hn.symm fun i hi b hb hholds ↦ ?_
    rw [frecord i hi b hb 0 4 (by decide), hholds.value]
  · refine hrow hr.enabled fun i hi b hb hholds ↦ ?_
    rw [stateFlags, frecord i hi b hb 7 1 (by decide), hholds.enabled]
  · refine hrow hr.fresh fun i hi b hb hholds ↦ ?_
    rw [stateFlags, frecord i hi b hb 7 1 (by decide), hholds.fresh]
  · refine hrow hr.seq fun i hi b hb hholds ↦ ?_
    rw [frecord i hi b hb 4 2 (by decide), ← hholds.seq]
    exact getElem?_of_getD (by rw [hr.seq]; exact hi) rfl
  · refine hrow hr.rssi fun i hi b hb hholds ↦ ?_
    rw [frecord i hi b hb 6 1 (by decide), ← hholds.rssi]
    exact getElem?_of_getD (by rw [hr.rssi]; exact hi) rfl

/-! ### What the encoder takes -/

/-- Every field is in the range of its `struct` format. -/
structure Representable (r : StateReport) : Prop where
  t_us : 0 ≤ r.t_us ∧ r.t_us < 2 ^ 64
  header : ∀ v ∈ [r.state, r.vstate, r.vartheta, r.counter], FitsI32 v
  vstates : ∀ v ∈ r.neighbor_vstates, FitsI32 v
  seq : ∀ v ∈ r.neighbor_seq, 0 ≤ v ∧ v < 2 ^ 16
  rssi : ∀ v ∈ r.neighbor_rssi, -128 ≤ v ∧ v < 128
  tail : ∀ x ∈ [r.state_Q, r.vstate_Q, r.S1_hat, r.S2_hat], ∀ v ∈ x, FitsI32 v

/-- A natural number is packed exactly when it fits its bytes. -/
theorem packU_isOk {n : ℕ} {v : ℤ} : (∃ bs, packU n v = .ok bs) ↔ 0 ≤ v ∧ v < 256 ^ n := by
  rw [packU]
  split_ifs with h
  · exact ⟨fun _ ↦ h, fun _ ↦ ⟨_, rfl⟩⟩
  · refine ⟨fun hbs ↦ ?_, fun hlt ↦ absurd hlt h⟩
    obtain ⟨_, hbs⟩ := hbs
    cases hbs

/-- Signed numbers are packed exactly when all of them fit. -/
theorem packIs_isOk {n : ℕ} {vs : List ℤ} :
    (∃ bs, packIs n vs = .ok bs) ↔ ∀ v ∈ vs, -(256 ^ n : ℤ) ≤ 2 * v ∧ 2 * v < 256 ^ n := by
  rw [← packInts_isSome]
  constructor
  · exact fun ⟨bs, h⟩ ↦ ⟨bs, packIs_eq_ok h⟩
  · rintro ⟨bs, h⟩
    exact ⟨bs, by rw [packIs, h]⟩

/-- Four bytes are those of an `int32`. -/
theorem packIs_four_isOk {vs : List ℤ} : (∃ bs, packIs 4 vs = .ok bs) ↔ ∀ v ∈ vs, FitsI32 v := by
  rw [packIs_isOk]
  refine forall₂_congr fun v _ ↦ ?_
  rw [FitsI32]
  omega

/-- The header is packed exactly when its time and its four numbers fit. -/
theorem packStateHeader_isOk {r : StateReport} (hr : Aligned r) :
    (∃ h, packStateHeader r = .ok h) ↔
      (0 ≤ r.t_us ∧ r.t_us < 2 ^ 64) ∧ ∀ v ∈ [r.state, r.vstate, r.vartheta, r.counter],
        FitsI32 v := by
  have hcount :
      (0 : ℤ) ≤ r.neighbor_vstates.length ∧ (r.neighbor_vstates.length : ℤ) < 256 ^ 1 := by
    have hfew := hr.few
    rw [maxNeighbors] at hfew
    omega
  rw [packStateHeader, except_bind_isOk fun t ↦ except_bind_isOk fun values ↦
    except_bind_isOk fun n ↦ except_pure_isOk, packU_isOk, packIs_four_isOk, packU_isOk]
  have hpow : (256 : ℤ) ^ 8 = 2 ^ 64 := by norm_num
  rw [hpow]
  exact and_congr_right fun _ ↦ and_iff_left ⟨hcount, trivial⟩

theorem indexed_isOk {α : Type} {xs : List α} {i : ℕ} (hi : i < xs.length) :
    indexed xs i = .ok xs[i] := by
  rw [indexed, List.getElem?_eq_getElem hi]

/-- A record is packed exactly when its value, its sequence number and its strength fit. -/
theorem packStateNeighbour_isOk {r : StateReport} (hr : Aligned r) {i : ℕ}
    (hi : i < r.neighbor_vstates.length) :
    (∃ b, packStateNeighbour r i = .ok b) ↔
      FitsI32 r.neighbor_vstates[i] ∧
        (0 ≤ r.neighbor_seq.getD i 0 ∧ r.neighbor_seq.getD i 0 < 2 ^ 16) ∧
        -128 ≤ r.neighbor_rssi.getD i 0 ∧ r.neighbor_rssi.getD i 0 < 128 := by
  have henabled : i < r.neighbor_enabled.length := by rwa [hr.enabled]
  have hfresh : i < r.neighbor_fresh.length := by rwa [hr.fresh]
  rw [packStateNeighbour, indexed_isOk henabled, indexed_isOk hfresh, indexed_isOk hi]
  show (∃ b, (packIs 4 [r.neighbor_vstates[i]] >>= _) = .ok b) ↔ _
  rw [except_bind_isOk fun value ↦ except_bind_isOk fun seq ↦ except_bind_isOk fun rssi ↦
    except_pure_isOk, packIs_four_isOk, packU_isOk, packIs_isOk, List.forall_mem_singleton,
    List.forall_mem_singleton]
  refine and_congr_right fun _ ↦ and_congr ?_ ?_
  · norm_num
  · rw [and_true]
    constructor <;> intro h <;> omega

/-- The tail is packed exactly when its numbers fit. -/
theorem packStateTail_isOk {r : StateReport} {l : StateLayout} (hl : HasLayout r l) :
    (∃ tl, packStateTail r = .ok tl) ↔
      ∀ x ∈ [r.state_Q, r.vstate_Q, r.S1_hat, r.S2_hat], ∀ v ∈ x, FitsI32 v := by
  rw [packStateTail]
  cases l with
  | scalar =>
    obtain ⟨hx, hy, hs, hs'⟩ := hl
    rw [hx, hy, hs, hs']
    simp
  | microgrid =>
    obtain ⟨⟨x, hx⟩, ⟨y, hy⟩, hs, hs'⟩ := hl
    rw [hx, hy, hs, hs']
    show (∃ tl, packIs 4 [x, y] = .ok tl) ↔ _
    rw [packIs_four_isOk]
    simp
  | lc =>
    obtain ⟨⟨x, hx⟩, ⟨y, hy⟩, ⟨s, hs⟩, ⟨s', hs'⟩⟩ := hl
    rw [hx, hy, hs, hs']
    show (∃ tl, packIs 4 [x, y, s, s'] = .ok tl) ↔ _
    rw [packIs_four_isOk]
    simp

/-- What holds of every entry of a list holds of every position, with the default past the end. -/
theorem forall_getD_iff {α : Type*} {xs : List α} {n : ℕ} (hn : xs.length = n) {d : α}
    {P : α → Prop} : (∀ i < n, P (xs.getD i d)) ↔ ∀ x ∈ xs, P x := by
  constructor
  · intro h x hx
    obtain ⟨i, hi, rfl⟩ := List.mem_iff_getElem.1 hx
    rw [← List.getD_eq_getElem xs d hi]
    exact h i (hn ▸ hi)
  · intro h i hi
    rw [List.getD_eq_getElem xs d (hn ▸ hi)]
    exact h _ (List.getElem_mem _)

/-- **The encoder takes exactly the reports whose fields are in range.** -/
theorem encodeState_isOk {r : StateReport} (hr : Aligned r) :
    (∃ payload, encodeState r = .ok payload) ↔ Representable r := by
  obtain ⟨l, hl⟩ := hr.layout
  have hrecords : (∃ bs, (List.range r.neighbor_vstates.length).mapM (packStateNeighbour r) =
      .ok bs) ↔ (∀ v ∈ r.neighbor_vstates, FitsI32 v) ∧ (∀ v ∈ r.neighbor_seq, 0 ≤ v ∧ v < 2 ^ 16) ∧
        ∀ v ∈ r.neighbor_rssi, -128 ≤ v ∧ v < 128 := by
    rw [mapM_isOk, ← forall_getD_iff (d := 0) (Eq.refl r.neighbor_vstates.length),
      ← forall_getD_iff (d := 0) hr.seq, ← forall_getD_iff (d := 0) hr.rssi, ← forall₂_and,
      ← forall₂_and]
    refine forall_congr' fun i ↦ ?_
    rw [List.mem_range]
    refine forall_congr' fun hi ↦ ?_
    rw [packStateNeighbour_isOk hr hi, List.getD_eq_getElem _ _ hi]
  rw [encodeState, except_bind_isOk fun header ↦ except_bind_isOk fun records ↦
    except_bind_isOk fun tl ↦ except_pure_isOk, packStateHeader_isOk hr, hrecords,
    packStateTail_isOk hl]
  constructor
  · rintro ⟨⟨ht, hheader⟩, ⟨hv, hseq, hrssi⟩, htail, -⟩
    exact ⟨ht, hheader, hv, hseq, hrssi, htail⟩
  · rintro ⟨ht, hheader, hv, hseq, hrssi, htail⟩
    exact ⟨⟨ht, hheader⟩, ⟨hv, hseq, hrssi⟩, htail, trivial⟩

/-! ### The layout of a payload -/

/-- **The layout that a payload decodes to is read off its length**, given the number of neighbours:
no payload decodes to two. -/
theorem decodeState_layout {payload : Bytes} {r : StateReport}
    (h : decodeState payload = .ok r) (l : StateLayout) :
    HasLayout r l ↔ payload.length =
      stateHeaderSize + r.neighbor_vstates.length * stateNeighbourSize + l.tailSize := by
  rw [decodeState] at h
  split at h
  · cases h
  dsimp only at h
  split at h
  · cases h
  split at h
  · cases h
  rename_i hkind _
  obtain rfl := Except.ok.inj h
  clear h
  rw [List.length_map, List.length_range]
  generalize hwant : stateHeaderSize + leNat (fieldAt payload 24 1) * stateNeighbourSize = want at *
  -- The tail's length selects the layout.
  have hlength : payload.length = want + l.tailSize ↔
      (payload.length : ℤ) - want = l.tailSize := by
    omega
  rw [hlength]
  generalize (payload.length : ℤ) - want = tail at *
  have hcases : tail = 0 ∨ tail = stateTailSize ∨ tail = stateTailLCSize := by
    by_contra hno
    push Not at hno
    exact hkind hno
  rcases hcases with rfl | rfl | rfl
  · cases l <;> simp [HasLayout, StateLayout.tailSize]
  · cases l <;> simp [HasLayout, StateLayout.tailSize]
  · cases l <;> simp [HasLayout, StateLayout.tailSize]

/-! ### The board's round trip -/

variable {K : Type*} [Field K] [LinearOrder K] [FloorRing K]

/-- What a report is built from is the `int32_t` and `int64_t` it is declared as. -/
structure Declared (a : Agent K) (uptimeUs : ℤ) : Prop where
  time : uptimeUs - a.vars.timeUs < 2 ^ 63
  state : FitsI32 a.vars.state
  vstate : FitsI32 a.vars.vstate
  vartheta : FitsI32 a.vars.vartheta
  counter : FitsI32 a.vars.counter
  stateQ : FitsI32 a.vars.stateQ
  vstateQ : FitsI32 a.vars.vstateQ
  neighborVstates : ∀ j, FitsI32 (a.vars.neighborVstates j)

/-- What the board reports: its own fields, those of its neighbours and the tail of its law. -/
def sentReport (a : Agent K) (uptimeUs : ℤ) (fresh : Slot → Bool) : StateReport :=
  let scalar := a.params.law = .finiteTimeAdaptive
  let lc := a.params.law = .microgridLC
  { t_us := (max 0 (uptimeUs - a.vars.timeUs)).toNat
    state := a.vars.state
    vstate := a.vars.vstate
    vartheta := a.vars.vartheta
    counter := a.vars.counter
    neighbor_vstates := a.params.slots.map a.vars.neighborVstates
    neighbor_enabled := a.params.slots.map a.params.neighborsEnabled
    neighbor_fresh := a.params.slots.map fresh
    neighbor_seq := a.params.slots.map fun j ↦ (a.vars.neighborSeq j).toNat
    neighbor_rssi := a.params.slots.map fun j ↦ (a.vars.neighborRssi j).toInt
    state_Q := if scalar then none else some a.vars.stateQ
    vstate_Q := if scalar then none else some a.vars.vstateQ
    S1_hat := if lc then some (lrintI32 (a.vars.mg.S1_hat * scaleFactor)) else none
    S2_hat := if lc then some (lrintI32 (a.vars.mg.S2_hat * scaleFactor)) else none }

/-- What the board writes and what it says are one report, where its fields are as declared. -/
theorem boardReport_eq_sentReport {a : Agent K} {uptimeUs : ℤ} (h : Declared a uptimeUs)
    (fresh : Slot → Bool) : boardReport a uptimeUs fresh = sentReport a uptimeUs fresh := by
  have htime : ((max 0 (uptimeUs - a.vars.timeUs)).toNat : ℤ) % 2 ^ 64 =
      (max 0 (uptimeUs - a.vars.timeUs)).toNat := by
    have hlt := h.time
    exact Int.emod_eq_of_lt (by omega) (by omega)
  have hneighbors : (a.params.slots.map fun j ↦ wrapI32 (a.vars.neighborVstates j)) =
      a.params.slots.map a.vars.neighborVstates :=
    List.map_congr_left fun j _ ↦ wrapI32_of_fits (h.neighborVstates j)
  rw [boardReport, sentReport, StateReport.mk.injEq]
  refine ⟨htime, wrapI32_of_fits h.state, wrapI32_of_fits h.vstate, wrapI32_of_fits h.vartheta,
    wrapI32_of_fits h.counter, hneighbors, rfl, rfl, rfl, rfl, ?_, ?_, rfl, rfl⟩
  · rw [wrapI32_of_fits h.stateQ]
  · rw [wrapI32_of_fits h.vstateQ]

/-- **The host reads a board's report back field by field.** -/
theorem decodeState_board {a : Agent K} {uptimeUs : ℤ} {fresh : Slot → Bool} {payload : Bytes}
    (h : Declared a uptimeUs) (hsent : reportState a uptimeUs fresh = some payload) :
    decodeState payload = .ok (sentReport a uptimeUs fresh) := by
  rw [decodeState_reportState hsent, boardReport_eq_sentReport h]

/-- The tail that a law sends. -/
def lawLayout : ControlLaw → StateLayout
  | .finiteTimeAdaptive => .scalar
  | .microgridAdaptive => .microgrid
  | .microgridLC => .lc

/-- The layout of a report is that of the law. -/
theorem hasLayout_sentReport (a : Agent K) (uptimeUs : ℤ) (fresh : Slot → Bool) :
    HasLayout (sentReport a uptimeUs fresh) (lawLayout a.params.law) := by
  rcases hlaw : a.params.law with _ | _ | _
  · simp [HasLayout, lawLayout, sentReport, hlaw]
  · simp [HasLayout, lawLayout, sentReport, hlaw]
  · simp [HasLayout, lawLayout, sentReport, hlaw]

/-- The size of the array `p` of `report_state`. -/
def reportBufferSize : ℕ :=
  8 + 4 + 4 + 4 + 4 + 1 + agentMaxNeighbors * stateNeighbourSize + stateTailLCSize

/-- The index that `report_state` writes at only grows, and it ends within the array. -/
theorem payload_fits {a : Agent K} {uptimeUs : ℤ} {fresh : Slot → Bool} {payload : Bytes}
    (hsent : reportState a uptimeUs fresh = some payload) : payload.length ≤ reportBufferSize := by
  have hcount : a.params.nNeighbors.val ≤ 4 := Nat.lt_succ_iff.mp a.params.nNeighbors.isLt
  have htail : (stateTail a).length ≤ 16 := by
    rw [stateTail_length]
    split_ifs <;> omega
  rw [payload_length hsent]
  show _ ≤ 25 + 4 * 8 + 16
  omega

/-! ### Both round trips -/

/-- **STATE reports come back**: a board's report field by field and with the tail of its law, out
of a buffer it fits; a report whose tuples match, from `encode_state`, as itself, which takes it
exactly when its fields are in range; and what a payload decodes to has the layout of its length. -/
theorem state_report_round_trip :
    (∀ (a : Agent K) (uptimeUs : ℤ) (fresh : Slot → Bool) (payload : Bytes),
      Declared a uptimeUs → reportState a uptimeUs fresh = some payload →
        decodeState payload = .ok (sentReport a uptimeUs fresh) ∧
          HasLayout (sentReport a uptimeUs fresh) (lawLayout a.params.law) ∧
          payload.length ≤ reportBufferSize) ∧
    (∀ r, Aligned r → ((∃ payload, encodeState r = .ok payload) ↔ Representable r) ∧
      ∀ payload, encodeState r = .ok payload → decodeState payload = .ok r) ∧
    (∀ payload r, decodeState payload = .ok r → ∀ l, HasLayout r l ↔ payload.length =
      stateHeaderSize + r.neighbor_vstates.length * stateNeighbourSize + l.tailSize) := by
  refine ⟨fun a uptimeUs fresh payload h hsent ↦ ?_, fun r hr ↦ ?_, fun payload r h l ↦ ?_⟩
  · exact ⟨decodeState_board h hsent, hasLayout_sentReport a uptimeUs fresh, payload_fits hsent⟩
  · exact ⟨encodeState_isOk hr, fun payload hok ↦ decodeState_encodeState hr hok⟩
  · exact decodeState_layout h l

/-- A report of one neighbour, with the two quantities of the microgrid law. -/
def sampleReport (counter : ℤ) : StateReport where
  t_us := 1500000
  state := -7
  vstate := 8
  vartheta := 9
  counter := counter
  neighbor_vstates := [-3]
  neighbor_enabled := [true]
  neighbor_fresh := [false]
  neighbor_seq := [65535]
  neighbor_rssi := [-70]
  state_Q := some 4
  vstate_Q := some (-5)
  S1_hat := none
  S2_hat := none

theorem sampleReport_aligned (counter : ℤ) : Aligned (sampleReport counter) where
  enabled := rfl
  fresh := rfl
  seq := rfl
  rssi := rfl
  few := Nat.le_of_ble_eq_true rfl
  layout := ⟨.microgrid, ⟨_, rfl⟩, ⟨_, rfl⟩, rfl, rfl⟩

/-- The board of `twoNeighborBoard` at uptime `5`, and the report of one neighbour. -/
theorem state_report_round_trip_sample :
    (∃ payload, reportState twoNeighborBoard 5 (fun _ ↦ true) = some payload ∧
      decodeState payload = .ok (sentReport twoNeighborBoard 5 fun _ ↦ true)) ∧
    ∃ payload, encodeState (sampleReport 10) = .ok payload ∧
      decodeState payload = .ok (sampleReport 10) := by
  obtain ⟨hboard, hhost, -⟩ := state_report_round_trip (K := ℚ)
  constructor
  · obtain ⟨payload, hsent⟩ : ∃ payload, reportState twoNeighborBoard 5 (fun _ ↦ true) =
        some payload := ⟨_, rfl⟩
    exact ⟨payload, hsent, (hboard _ _ _ _ (by constructor <;> decide) hsent).1⟩
  · obtain ⟨payload, hok⟩ := (hhost _ (sampleReport_aligned 10)).1.2
      (by constructor <;> decide)
    exact ⟨payload, hok, (hhost _ (sampleReport_aligned 10)).2 payload hok⟩

/-- A counter of `2^31` is no `int32`, and there is no payload to decode. -/
theorem wide_counter_not_encoded :
    Aligned (sampleReport (2 ^ 31)) ∧
      encodeState (sampleReport (2 ^ 31)) = .error .structRange ∧
      ¬∀ r, Aligned r → ∃ payload, encodeState r = .ok payload ∧ decodeState payload = .ok r := by
  have hraised : encodeState (sampleReport (2 ^ 31)) = .error .structRange := by decide +kernel
  refine ⟨sampleReport_aligned _, hraised, fun h ↦ ?_⟩
  obtain ⟨payload, hok, -⟩ := h _ (sampleReport_aligned (2 ^ 31))
  rw [hraised] at hok
  cases hok

end VertexTestbed.Conformance
