import VertexTestbed.Firmware.Report
import VertexTestbed.Host.Recording

/-!
# A report on its way into the run log

From `report_state` on the board, over `decode_state`, to the row that `_record_report` appends.
The decoder reads out of a payload what the board put in, `boardReport`.

A report carries one value for each neighbour, and `append` takes `dim` of them for each: the value
that lands in the columns of neighbour `k` is that of neighbour `k * dim + c`. With one coordinate
the two agree. The arrival flags, sequence numbers and RSSI are one a neighbour on both sides.
-/

namespace VertexTestbed.Conformance

open Firmware Host

variable {K : Type*} [Field K] [LinearOrder K] [FloorRing K]

/-! ### What the decoder reads -/

/-- The report in a payload of `report_state`. -/
def boardReport (a : Agent K) (uptimeUs : ℤ) (fresh : Slot → Bool) : StateReport :=
  let scalar := a.params.law = .finiteTimeAdaptive
  let lc := a.params.law = .microgridLC
  { t_us := (max 0 (uptimeUs - a.vars.timeUs)).toNat % 2 ^ 64
    state := wrapI32 a.vars.state
    vstate := wrapI32 a.vars.vstate
    vartheta := wrapI32 a.vars.vartheta
    counter := wrapI32 a.vars.counter
    neighbor_vstates := a.params.slots.map fun j ↦ wrapI32 (a.vars.neighborVstates j)
    neighbor_enabled := a.params.slots.map a.params.neighborsEnabled
    neighbor_fresh := a.params.slots.map fresh
    neighbor_seq := a.params.slots.map fun j ↦ (a.vars.neighborSeq j).toNat
    neighbor_rssi := a.params.slots.map fun j ↦ (a.vars.neighborRssi j).toInt
    state_Q := if scalar then none else some (wrapI32 a.vars.stateQ)
    vstate_Q := if scalar then none else some (wrapI32 a.vars.vstateQ)
    S1_hat := if lc then some (lrintI32 (a.vars.mg.S1_hat * scaleFactor)) else none
    S2_hat := if lc then some (lrintI32 (a.vars.mg.S2_hat * scaleFactor)) else none }

section Payload

variable {a : Agent K} {uptimeUs : ℤ} {fresh : Slot → Bool} {payload : Bytes}

/-- A field of the header. -/
theorem fieldAt_header (h : reportState a uptimeUs fresh = some payload) {i n : ℕ}
    (hi : i + n ≤ 25) : fieldAt payload i n = fieldAt (stateHeader a uptimeUs) i n := by
  rw [reportState_eq h, fieldAt_append_of_le (by rwa [stateHeader_length])]

/-- A field of a neighbour's record. -/
theorem stateField_record (h : reportState a uptimeUs fresh = some payload) {j : Slot}
    (hj : j ∈ a.params.slots) {i n : ℕ} (hi : i + n ≤ 8) :
    stateField payload j.val i n = fieldAt (stateNeighbour a fresh j) i n := by
  have hlt : j.val < a.params.nNeighbors.val := by
    obtain ⟨hin, -⟩ := List.getElem?_eq_some_iff.mp (getElem?_slots hj)
    rwa [slots_length] at hin
  rw [stateField, stateHeaderSize, stateNeighbourSize, reportState_eq h,
    fieldAt_append_right (by rw [stateHeader_length]; omega), stateHeader_length,
    Nat.add_sub_cancel_left, fieldAt_append_of_le (by rw [stateRecords_length]; omega)]
  exact fieldAt_flatMap (fun j _ ↦ stateNeighbour_length a fresh j) (getElem?_slots hj) hi

/-- A field of the tail. -/
theorem fieldAt_tail (h : reportState a uptimeUs fresh = some payload) (i n : ℕ) :
    fieldAt payload (stateHeaderSize + a.params.nNeighbors.val * stateNeighbourSize + i) n =
      fieldAt (stateTail a) i n := by
  rw [stateHeaderSize, stateNeighbourSize, reportState_eq h,
    fieldAt_append_right (by rw [stateHeader_length]; omega), stateHeader_length,
    fieldAt_append_right (by rw [stateRecords_length]; omega), stateRecords_length]
  congr 1
  omega

/-- The length of a report is fixed by its neighbours and its law. -/
theorem payload_length (h : reportState a uptimeUs fresh = some payload) :
    payload.length = 25 + a.params.nNeighbors.val * 8 + (stateTail a).length := by
  rw [reportState_eq h, List.length_append, List.length_append, stateHeader_length,
    stateRecords_length]
  omega

end Payload

/-- A strength is read back with its sign. -/
theorem leInt_rssi (r : Int8) : leInt [r.toUInt8] = r.toInt := by
  have hbits : r.toUInt8.toNat = r.toBitVec.toNat := rfl
  rw [leInt, Int8.toInt, BitVec.toInt_eq_toNat_bmod, ← hbits]
  simp

theorem fieldAt_protoStI32 (v : ℤ) : fieldAt (protoStI32 v) 0 4 = protoStI32 v := by
  rw [fieldAt, List.drop_zero, List.take_of_length_le (protoStI32_length v).le]

/-! The fields of a neighbour's record. -/

section Record

variable (a : Agent K) (fresh : Slot → Bool) (j : Slot)

omit [Field K] [LinearOrder K] [FloorRing K]

/-- The value in a neighbour's record is the board's value of it. -/
theorem record_value :
    leInt (fieldAt (stateNeighbour a fresh j) 0 4) = wrapI32 (a.vars.neighborVstates j) := by
  rw [stateNeighbour, List.append_assoc, fieldAt_append_left (protoStI32_length _),
    leInt_protoStI32]

/-- So is the sequence number. -/
theorem record_seq :
    leNat (fieldAt (stateNeighbour a fresh j) 4 2) = (a.vars.neighborSeq j).toNat := by
  rw [stateNeighbour, List.append_assoc, fieldAt_append_right (protoStI32_length _).le,
    protoStI32_length, Nat.sub_self, fieldAt_append_left (leBytes_length _ _)]
  exact leNat_leBytes_of_lt (a.vars.neighborSeq j).toNat_lt

/-- So is the strength. -/
theorem record_rssi :
    leInt (fieldAt (stateNeighbour a fresh j) 6 1) = (a.vars.neighborRssi j).toInt := by
  rw [stateNeighbour, fieldAt_append_right (by simp)]
  simp [fieldAt, leInt_rssi]

/-- So are the flags. -/
theorem record_flags :
    UInt8.ofNat (leNat (fieldAt (stateNeighbour a fresh j) 7 1)) =
      (if a.params.neighborsEnabled j then stateFlagEnabled else 0) |||
        (if fresh j then stateFlagFresh else 0) := by
  rw [stateNeighbour, fieldAt_append_right (by simp)]
  simp [fieldAt]

end Record

/-- The two flags are read apart. -/
theorem flags_and (e f : Bool) :
    ((((if e then stateFlagEnabled else 0) ||| (if f then stateFlagFresh else 0)) &&& 0x01) != 0) =
        e ∧
      ((((if e then stateFlagEnabled else 0) ||| (if f then stateFlagFresh else 0)) &&& 0x02) !=
        0) = f := by
  revert e f
  decide

/-- The four fields behind the records, as the decoder's tests on the length select them. -/
theorem decode_tail (a : Agent K) :
    ((if ((stateTail a).length : ℤ) = 0 then none else some (leInt (fieldAt (stateTail a) 0 4))) =
        if a.params.law = .finiteTimeAdaptive then none else some (wrapI32 a.vars.stateQ)) ∧
      ((if ((stateTail a).length : ℤ) = 0 then none else some (leInt (fieldAt (stateTail a) 4 4))) =
        if a.params.law = .finiteTimeAdaptive then none else some (wrapI32 a.vars.vstateQ)) ∧
      ((if ((stateTail a).length : ℤ) = stateTailLCSize then
          some (leInt (fieldAt (stateTail a) 8 4)) else none) =
        if a.params.law = .microgridLC then
          some (lrintI32 (a.vars.mg.S1_hat * scaleFactor)) else none) ∧
      ((if ((stateTail a).length : ℤ) = stateTailLCSize then
          some (leInt (fieldAt (stateTail a) 12 4)) else none) =
        if a.params.law = .microgridLC then
          some (lrintI32 (a.vars.mg.S2_hat * scaleFactor)) else none) := by
  rcases hlaw : a.params.law with _ | _ | _
  · simp [stateTail_length, hlaw]
  · simp [stateTail, hlaw, fieldAt_append_right, fieldAt_append_left, fieldAt_protoStI32]
  · simp [stateTail, hlaw, fieldAt_append_right, fieldAt_append_left, fieldAt_protoStI32, lrintI32]

/-- **The decoder reads out of a payload what the board put in.** -/
theorem decodeState_reportState {a : Agent K} {uptimeUs : ℤ} {fresh : Slot → Bool}
    {payload : Bytes} (h : reportState a uptimeUs fresh = some payload) :
    decodeState payload = .ok (boardReport a uptimeUs fresh) := by
  have hcount : a.params.nNeighbors.val ≤ 4 := Nat.lt_succ_iff.mp a.params.nNeighbors.isLt
  have hn : leNat (fieldAt payload 24 1) = a.params.nNeighbors.val := by
    have hlt : a.params.nNeighbors.val < 256 := by omega
    rw [fieldAt_header h (by decide), stateHeader]
    simp only [fieldAt_append_right, leBytes_length, protoStI32_length, Nat.reduceLeDiff,
      Nat.reduceSub]
    simp [fieldAt, Nat.mod_eq_of_lt hlt]
  -- The three length checks of the decoder: what is behind the records is a tail that some law has.
  have htail : (payload.length : ℤ) -
      ((stateHeaderSize + a.params.nNeighbors.val * stateNeighbourSize : ℕ) : ℤ) =
        (stateTail a).length := by
    rw [payload_length h]
    push_cast
    ring
  have hlong : ¬payload.length < stateHeaderSize := by
    rw [payload_length h, stateHeaderSize]
    omega
  have hmany : ¬maxNeighbors < a.params.nNeighbors.val := by
    rw [maxNeighbors]
    omega
  have hsize : ¬(((stateTail a).length : ℤ) ≠ 0 ∧ ((stateTail a).length : ℤ) ≠ stateTailSize ∧
      ((stateTail a).length : ℤ) ≠ stateTailLCSize) := by
    rw [stateTail_length]
    split_ifs <;> simp
  have hword : ∀ i v, fieldAt (stateHeader a uptimeUs) i 4 = protoStI32 v → i + 4 ≤ 25 →
      leInt (fieldAt payload i 4) = wrapI32 v := by
    intro i v hv hi
    rw [fieldAt_header h hi, hv, leInt_protoStI32]
  rw [decodeState, if_neg hlong]
  simp only [hn, htail, if_neg hsize, if_neg hmany, fieldAt_tail h]
  congr 1
  rw [boardReport, StateReport.mk.injEq]
  refine ⟨congrArg Nat.cast ?_, hword 8 _ ?_ (by decide), hword 12 _ ?_ (by decide),
    hword 16 _ ?_ (by decide),
    hword 20 _ ?_ (by decide), ?_, ?_, ?_, ?_, ?_, decode_tail a⟩
  · rw [fieldAt_header h (by decide), stateHeader, fieldAt_append_left (leBytes_length _ _),
      leNat_leBytes]
    norm_num
  · simp [stateHeader, fieldAt_append_right, fieldAt_append_left]
  · simp [stateHeader, fieldAt_append_right, fieldAt_append_left]
  · simp [stateHeader, fieldAt_append_right, fieldAt_append_left]
  · simp [stateHeader, fieldAt_append_right, fieldAt_append_left]
  · refine map_range_eq_slots fun j hj ↦ ?_
    rw [stateField_record h hj (by decide), record_value]
  · refine map_range_eq_slots fun j hj ↦ ?_
    rw [stateFlags, stateField_record h hj (by decide), record_flags]
    exact (flags_and _ _).1
  · refine map_range_eq_slots fun j hj ↦ ?_
    rw [stateFlags, stateField_record h hj (by decide), record_flags]
    exact (flags_and _ _).2
  · refine map_range_eq_slots fun j hj ↦ ?_
    rw [stateField_record h hj (by decide), record_seq]
  · refine map_range_eq_slots fun j hj ↦ ?_
    rw [stateField_record h hj (by decide), record_rssi]

/-! ### The reports of an assignment -/

/-- The law that a registered controller runs under on a board. -/
def boardLaw : RegisteredController → ControlLaw
  | .finiteTimeAdaptive => .finiteTimeAdaptive
  | .microgridAdaptive => .microgridAdaptive
  | .microgridLC => .microgridLC

variable (K) in
/-- The reports that a board can send under an assignment: some board with its law and its number
of neighbours, in whatever state, sends a payload that decodes to the report. -/
def Sends (c : RegisteredController) (neighbors : List ℕ) (r : StateReport) : Prop :=
  ∃ (a : Agent K) (uptimeUs : ℤ) (fresh : Slot → Bool) (payload : Bytes),
    a.params.law = boardLaw c ∧ a.params.nNeighbors.val = neighbors.length ∧
      reportState a uptimeUs fresh = some payload ∧ decodeState payload = .ok r

/-- The reports a board sends under an assignment. -/
theorem sends_iff {c : RegisteredController} {neighbors : List ℕ} {r : StateReport} :
    Sends K c neighbors r ↔ ∃ (a : Agent K) (uptimeUs : ℤ) (fresh : Slot → Bool),
      a.params.law = boardLaw c ∧ a.params.nNeighbors.val = neighbors.length ∧
        a.params.running = true ∧ r = boardReport a uptimeUs fresh := by
  constructor
  · rintro ⟨a, uptimeUs, fresh, payload, hlaw, hcount, hsent, hdecoded⟩
    have hrunning : a.params.running = true := by
      by_contra hstopped
      rw [reportState, if_pos (by simp [hstopped])] at hsent
      cases hsent
    rw [decodeState_reportState hsent] at hdecoded
    exact ⟨a, uptimeUs, fresh, hlaw, hcount, hrunning, (Except.ok.inj hdecoded).symm⟩
  · rintro ⟨a, uptimeUs, fresh, hlaw, hcount, hrunning, rfl⟩
    have hsent : ∃ payload, reportState a uptimeUs fresh = some payload := by
      rw [reportState, if_neg (by simp [hrunning])]
      exact ⟨_, rfl⟩
    obtain ⟨payload, hsent⟩ := hsent
    exact ⟨a, uptimeUs, fresh, payload, hlaw, hcount, hsent, decodeState_reportState hsent⟩

/-- What a report sent under an assignment looks like: one entry a neighbour in each list, and the
tail of its law. -/
theorem Sends.shape {c : RegisteredController} {neighbors : List ℕ} {r : StateReport}
    (h : Sends K c neighbors r) :
    r.neighbor_vstates.length = neighbors.length ∧ r.neighbor_fresh.length = neighbors.length ∧
      r.neighbor_seq.length = neighbors.length ∧ r.neighbor_rssi.length = neighbors.length ∧
      (reportChannels r).length = c.relayColumns.length := by
  obtain ⟨a, uptimeUs, fresh, hlaw, hcount, -, rfl⟩ := sends_iff.mp h
  have hslots : a.params.slots.length = neighbors.length := by rw [slots_length, hcount]
  refine ⟨?_, ?_, ?_, ?_, ?_⟩
  · simp [boardReport, hslots]
  · simp [boardReport, hslots]
  · simp [boardReport, hslots]
  · simp [boardReport, hslots]
  · cases c with
    | finiteTimeAdaptive => simp [boardReport, hlaw, boardLaw, reportChannels]; rfl
    | microgridAdaptive => simp [boardReport, hlaw, boardLaw, reportChannels]; rfl
    | microgridLC => simp [boardReport, hlaw, boardLaw, reportChannels]; rfl

/-- **Every report of an assignment is recorded**: its sample passes the checks of the log. -/
theorem Sends.check {c : RegisteredController} {neighbors : List ℕ} {r : StateReport}
    (h : Sends K c neighbors r) (rx_time_us : Option ℤ) :
    (runMeta c true neighbors).check (reportSample r rx_time_us : Sample K) = none := by
  obtain ⟨-, -, -, -, hchannels⟩ := h.shape
  refine RunMeta.check_eq_none.mpr ⟨rfl, ?_⟩
  simp [reportSample, runMeta, hchannels]

/-! ### Attribution -/

/-- The columns of a log are named after the neighbours, and in `row` they hold what `r` reports of
each: the first value column its value, then its arrival flag, sequence number and RSSI. -/
structure Attributed (m : RunMeta) (r : StateReport) (row : List K) : Prop where
  named : ∀ k nid, m.neighbors[k]? = some nid → ∀ j < m.dim + 3,
    m.columnNames[m.position k j]? = (neighborColumns m.dim nid)[j]?
  value : ∀ k < m.neighbors.length,
    row[m.position k 0]? = r.neighbor_vstates[k]?.map Int.cast
  rx : ∀ k < m.neighbors.length,
    row[m.position k m.dim]? = r.neighbor_fresh[k]?.map fun arrived ↦ if arrived then 1 else 0
  seq : ∀ k < m.neighbors.length,
    row[m.position k (m.dim + 1)]? = r.neighbor_seq[k]?.map Int.cast
  rssi : ∀ k < m.neighbors.length,
    row[m.position k (m.dim + 2)]? = r.neighbor_rssi[k]?.map Int.cast

/-- Two reports say the same of neighbour `k`. -/
structure SameRecord (k : ℕ) (r r' : StateReport) : Prop where
  value : r.neighbor_vstates[k]? = r'.neighbor_vstates[k]?
  rx : r.neighbor_fresh[k]? = r'.neighbor_fresh[k]?
  seq : r.neighbor_seq[k]? = r'.neighbor_seq[k]?
  rssi : r.neighbor_rssi[k]? = r'.neighbor_rssi[k]?

variable (K) in
/-- Every report of an assignment is recorded under the right neighbours: the row holds what the
report says of each, and what stands in the columns of one neighbour depends on nothing that the
report says of the others. -/
def ReportsAttributed (c : RegisteredController) (neighbors : List ℕ) : Prop :=
  ∀ log : RunLog K, log.started = true → log.info = runMeta c true neighbors →
    ∀ r, Sends K c neighbors r → ∀ rx_time_us, ∃ row,
      (recordReport log r rx_time_us).1.rows = log.rows ++ [row] ∧ Attributed log.info r row ∧
        ∀ r', Sends K c neighbors r' → ∀ rx_time_us' row',
          (recordReport log r' rx_time_us').1.rows = log.rows ++ [row'] →
            ∀ k < neighbors.length, SameRecord k r r' → ∀ j < c.dim + 3,
              row[log.info.position k j]? = row'[log.info.position k j]?

/-- What a report of an assignment adds to the log. -/
theorem recordReport_rows {c : RegisteredController} {neighbors : List ℕ} {log : RunLog K}
    (hstarted : log.started = true) (hinfo : log.info = runMeta c true neighbors) {r : StateReport}
    (hr : Sends K c neighbors r) (rx_time_us : Option ℤ) :
    (recordReport log r rx_time_us).1.rows =
      log.rows ++ [(runMeta c true neighbors).row (reportSample r rx_time_us)] := by
  have hcheck : log.info.check (reportSample r rx_time_us : Sample K) = none := by
    rw [hinfo]
    exact hr.check rx_time_us
  rw [recordReport, RunLog.append_of_check hstarted hcheck, RunLog.push_rows, hinfo]

/-- The block of neighbour `k` in such a row. -/
theorem report_block {c : RegisteredController} {neighbors : List ℕ} {r : StateReport}
    (hr : Sends K c neighbors r) (rx_time_us : Option ℤ) {k j : ℕ} (hk : k < neighbors.length)
    (hj : j < c.dim + 3) :
    ((runMeta c true neighbors).row (reportSample r rx_time_us : Sample K))[
        (runMeta c true neighbors).position k j]? =
      ((List.range c.dim).map (fun i ↦ ((r.neighbor_vstates.getD (k * c.dim + i) 0 : ℤ) : K)) ++
        [if r.neighbor_fresh.getD k false then 1 else 0, ((r.neighbor_seq.getD k 0 : ℤ) : K),
          ((r.neighbor_rssi.getD k 0 : ℤ) : K)])[j]? := by
  rw [RunMeta.row_block (hr.check rx_time_us) hk hj, neighborCells_reportSample]
  rfl

/-- Where the index of `append` and that of the report agree, the value columns of neighbour `k`
hold its value and zeros. -/
theorem value_cell {c : RegisteredController} {neighbors : List ℕ} {r : StateReport}
    (hr : Sends K c neighbors r) (h : c.dim = 1 ∨ neighbors.length ≤ 1) {k i : ℕ}
    (hk : k < neighbors.length) (hi : i < c.dim) :
    r.neighbor_vstates.getD (k * c.dim + i) 0 =
      if i = 0 then r.neighbor_vstates.getD k 0 else 0 := by
  obtain ⟨hlength, -⟩ := hr.shape
  obtain hdim | hsingle := h
  · obtain rfl : i = 0 := by omega
    rw [if_pos rfl, hdim, Nat.mul_one, Nat.add_zero]
  · obtain rfl : k = 0 := by omega
    by_cases hzero : i = 0
    · rw [if_pos hzero, hzero, Nat.zero_mul]
    · rw [if_neg hzero, Nat.zero_mul, Nat.zero_add, List.getD_eq_default]
      omega

/-- The block of neighbour `k` is then made of what the report says of neighbour `k`. -/
theorem report_block_of_record {c : RegisteredController} {neighbors : List ℕ} {r : StateReport}
    (hr : Sends K c neighbors r) (h : c.dim = 1 ∨ neighbors.length ≤ 1) (rx_time_us : Option ℤ)
    {k j : ℕ} (hk : k < neighbors.length) (hj : j < c.dim + 3) :
    ((runMeta c true neighbors).row (reportSample r rx_time_us : Sample K))[
        (runMeta c true neighbors).position k j]? =
      ((List.range c.dim).map (fun i ↦ if i = 0 then ((r.neighbor_vstates.getD k 0 : ℤ) : K) else 0)
        ++ [if r.neighbor_fresh.getD k false then 1 else 0, ((r.neighbor_seq.getD k 0 : ℤ) : K),
          ((r.neighbor_rssi.getD k 0 : ℤ) : K)])[j]? := by
  have hcells : (List.range c.dim).map
        (fun i ↦ ((r.neighbor_vstates.getD (k * c.dim + i) 0 : ℤ) : K)) =
      (List.range c.dim).map
        (fun i ↦ if i = 0 then ((r.neighbor_vstates.getD k 0 : ℤ) : K) else 0) := by
    refine List.map_congr_left fun i hi ↦ ?_
    rw [value_cell hr h hk (List.mem_range.mp hi)]
    split_ifs
    · rfl
    · exact Int.cast_zero
  rw [report_block hr rx_time_us hk hj, hcells]

/-- Every registered law has one coordinate or two. -/
theorem dim_cases (c : RegisteredController) : c.dim = 1 ∨ c.dim = 2 := by
  cases c
  · exact .inl rfl
  · exact .inr rfl
  · exact .inr rfl

/-- The row holds what the report says of each neighbour. -/
theorem attributed_of_record {c : RegisteredController} {neighbors : List ℕ} {r : StateReport}
    (hr : Sends K c neighbors r) (h : c.dim = 1 ∨ neighbors.length ≤ 1) (rx_time_us : Option ℤ) :
    Attributed (runMeta c true neighbors) r
      ((runMeta c true neighbors).row (reportSample r rx_time_us : Sample K)) := by
  obtain ⟨hvalues, hfresh, hseq, hrssi, -⟩ := hr.shape
  have hpos : 0 < c.dim := by
    obtain hdim | hdim := dim_cases c
    · omega
    · omega
  refine ⟨fun k nid hk j hj ↦ RunMeta.column_block (dim_cases c) hk hj, fun k hk ↦ ?_,
    fun k hk ↦ ?_, fun k hk ↦ ?_, fun k hk ↦ ?_⟩
  · have hin : k < r.neighbor_vstates.length := by rwa [hvalues]
    rw [report_block_of_record hr h rx_time_us hk (by omega),
      List.getElem?_append_left (by simpa using hpos)]
    simp [hpos, List.getElem?_eq_getElem hin]
  · have hin : k < r.neighbor_fresh.length := by rwa [hfresh]
    have hdim : (runMeta c true neighbors).dim = c.dim := rfl
    rw [hdim, report_block_of_record hr h rx_time_us hk (by omega),
      List.getElem?_append_right (by simp)]
    simp [List.getElem?_eq_getElem hin]
  · have hin : k < r.neighbor_seq.length := by rwa [hseq]
    have hdim : (runMeta c true neighbors).dim = c.dim := rfl
    rw [hdim, report_block_of_record hr h rx_time_us hk (by omega),
      List.getElem?_append_right (by simp)]
    simp [List.getElem?_eq_getElem hin]
  · have hin : k < r.neighbor_rssi.length := by rwa [hrssi]
    have hdim : (runMeta c true neighbors).dim = c.dim := rfl
    rw [hdim, report_block_of_record hr h rx_time_us hk (by omega),
      List.getElem?_append_right (by simp)]
    simp [List.getElem?_eq_getElem hin]

/-! ### Where it goes wrong -/

variable (K) in
/-- A running board under a law whose second neighbour is at `v`, and its other ones at zero. -/
def recordingBoard (c : RegisteredController) (n : Fin (agentMaxNeighbors + 1)) (v : ℤ) :
    Agent K :=
  { agentInit K with
    params := { (agentInit K).params with running := true, law := boardLaw c, nNeighbors := n }
    vars := { (agentInit K).vars with neighborVstates := fun j ↦ if j.val = 1 then v else 0 } }

/-- The sample board sends its report. -/
theorem sends_recordingBoard (c : RegisteredController) {neighbors : List ℕ}
    (h : neighbors.length ≤ agentMaxNeighbors) (v : ℤ) :
    Sends K c neighbors
      (boardReport (recordingBoard K c ⟨neighbors.length, by omega⟩ v) 0 fun _ ↦ false) :=
  sends_iff.mpr ⟨_, 0, fun _ ↦ false, rfl, rfl, rfl, rfl⟩

/-- What it reports of the first two neighbours. -/
theorem recordingBoard_values (c : RegisteredController) {n : Fin (agentMaxNeighbors + 1)}
    (h : 2 ≤ n.val) (v : ℤ) :
    (boardReport (recordingBoard K c n v) 0 fun _ ↦ false).neighbor_vstates[0]? = some 0 ∧
      (boardReport (recordingBoard K c n v) 0 fun _ ↦ false).neighbor_vstates[1]? =
        some (wrapI32 v) := by
  have hmem : ∀ j : Slot, j.val < 2 → j ∈ (recordingBoard K c n v).params.slots := by
    intro j hj
    exact List.mem_filter.mpr ⟨List.mem_finRange j, decide_eq_true (lt_of_lt_of_le hj h)⟩
  have hzero := getElem?_slots (hmem 0 (by decide))
  have hone := getElem?_slots (hmem 1 (by decide))
  constructor
  · rw [boardReport, List.getElem?_map]
    erw [hzero]
    rfl
  · rw [boardReport, List.getElem?_map]
    erw [hone]
    rfl

/-- With two coordinates, the second cell of the first neighbour holds the second neighbour's
value. -/
theorem second_cell {c : RegisteredController} {neighbors : List ℕ} {r : StateReport}
    (hr : Sends K c neighbors r) (hdim : c.dim = 2) (hmany : 2 ≤ neighbors.length)
    (rx_time_us : Option ℤ) :
    ((runMeta c true neighbors).row (reportSample r rx_time_us : Sample K))[
        (runMeta c true neighbors).position 0 1]? =
      some ((r.neighbor_vstates.getD 1 0 : ℤ) : K) := by
  rw [report_block hr rx_time_us (by omega) (by omega), hdim]
  rfl

/-- **With two coordinates and two neighbours or more some report is misattributed.** -/
theorem not_attributed {c : RegisteredController} {neighbors : List ℕ} (hdim : c.dim = 2)
    (hmany : 2 ≤ neighbors.length) (hfits : neighbors.length ≤ agentMaxNeighbors) :
    ¬ReportsAttributed K c neighbors := by
  intro hattributed
  have hflush : (1 : ℕ) ≤ 25 := by decide
  have hr := sends_recordingBoard (K := K) c hfits 0
  have hr' := sends_recordingBoard (K := K) c hfits 1
  obtain ⟨row, hrow, -, hother⟩ := hattributed (RunLog.start (runMeta c true neighbors) 25 hflush)
    rfl rfl _ hr none
  have hown :
      (recordReport (RunLog.start (runMeta c true neighbors) 25 hflush) _ none).1.rows = _ :=
    recordReport_rows rfl rfl hr none
  obtain rfl := (List.cons.inj (List.append_cancel_left (hrow.symm.trans hown))).1
  -- The two boards differ in their second neighbour only, and the first one's cells show it.
  have hzero := recordingBoard_values (K := K) c (n := ⟨neighbors.length, by omega⟩) hmany 0
  have hone := recordingBoard_values (K := K) c (n := ⟨neighbors.length, by omega⟩) hmany 1
  have hsame := hother _ hr' none _ (recordReport_rows rfl rfl hr' none) 0 (by omega)
    ⟨hzero.1.trans hone.1.symm, rfl, rfl, rfl⟩ 1 (by omega)
  rw [show (RunLog.start (K := K) (runMeta c true neighbors) 25 hflush).info =
      runMeta c true neighbors from rfl, second_cell hr hdim hmany, second_cell hr' hdim hmany,
    List.getD_eq_getElem?_getD, List.getD_eq_getElem?_getD, hzero.2, hone.2,
    wrapI32_of_fits (by decide), wrapI32_of_fits (by decide)] at hsame
  simp at hsame

/-- **A report is recorded under the right neighbours exactly when one value a neighbour is what
the log expects, or there is one neighbour only** (or more than a board takes). -/
theorem reportsAttributed_iff (c : RegisteredController) (neighbors : List ℕ) :
    ReportsAttributed K c neighbors ↔
      c.dim = 1 ∨ neighbors.length ≤ 1 ∨ agentMaxNeighbors < neighbors.length := by
  constructor
  · intro hattributed
    by_contra hno
    push Not at hno
    obtain ⟨hdim, hmany, hfits⟩ := hno
    exact not_attributed ((dim_cases c).resolve_left hdim) hmany hfits hattributed
  · intro h log hstarted hinfo r hr rx_time_us
    have hfits : neighbors.length ≤ agentMaxNeighbors := by
      obtain ⟨a, -, -, -, -, hcount, -⟩ := hr
      omega
    have hgood : c.dim = 1 ∨ neighbors.length ≤ 1 := by omega
    refine ⟨_, recordReport_rows hstarted hinfo hr rx_time_us, ?_, ?_⟩
    · rw [hinfo]
      exact attributed_of_record hr hgood rx_time_us
    · intro r' hr' rx_time_us' row' hrow' k hk hsame j hj
      have hrow := recordReport_rows hstarted hinfo hr' rx_time_us'
      obtain rfl := List.cons.inj (List.append_cancel_left (hrow'.symm.trans hrow)) |>.1
      rw [hinfo, report_block_of_record hr hgood rx_time_us hk hj,
        report_block_of_record hr' hgood rx_time_us' hk hj]
      simp only [List.getD_eq_getElem?_getD, hsame.value, hsame.rx, hsame.seq, hsame.rssi]

theorem two_fit : 2 < agentMaxNeighbors + 1 := by decide

/-- A board under the adaptive microgrid law with the neighbours `2` and `3`, at `5` and `7`. -/
def twoNeighborBoard : Agent ℚ :=
  { agentInit ℚ with
    params :=
      { (agentInit ℚ).params with
        running := true, law := .microgridAdaptive, nNeighbors := ⟨2, two_fit⟩ }
    vars :=
      { (agentInit ℚ).vars with neighborVstates := fun j ↦ if j.val = 0 then 5 else 7 } }

/-- The value `7` of neighbour `3` is recorded as the second coordinate of neighbour `2`, and
neighbour `3` as zero. -/
theorem report_misattributed :
    let m := runMeta .microgridAdaptive true [2, 3]
    let r := boardReport twoNeighborBoard 0 fun _ ↦ false
    Sends ℚ .microgridAdaptive [2, 3] r ∧ r.neighbor_vstates = [5, 7] ∧
      m.columnNames.drop 7 =
        ["2_P", "2_Q", "rx_2", "seq_2", "rssi_2", "3_P", "3_Q", "rx_3", "seq_3", "rssi_3"] ∧
      (m.row (reportSample r none : Sample ℚ)).drop 7 = [5, 7, 0, 0, 0, 0, 0, 0, 0, 0] ∧
      ¬ReportsAttributed ℚ .microgridAdaptive [2, 3] := by
  refine ⟨sends_iff.mpr ⟨twoNeighborBoard, 0, fun _ ↦ false, rfl, rfl, rfl, rfl⟩, by decide +kernel,
    by decide +kernel, by decide +kernel, ?_⟩
  exact not_attributed rfl (by decide) (by decide)

end VertexTestbed.Conformance
