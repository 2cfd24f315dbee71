import VertexTestbed.Host.LinkMonitor
import VertexTestbed.Host.Microgrid

/-!
# What a control law reads of its neighbours

The read side of `agent/neighbors.py`. A table flattens one value, or two, of every neighbour into
one list, and the microgrid controller slices that list by a fixed stride. A packet may bring fewer
coordinates than the table has, so each record is padded to the width of the table before it is
flattened (`contribution_length`), and no record moves the ones behind it.

`TableHistory` is a table with the receptions it was given. `snapshot_aligned` reads snapshots and
arrival flags off that history, for every order of receptions and reads.
-/

namespace VertexTestbed.Host

open Runs

/-! ### Lists of blocks -/

/-- An entry of a block, in a list flattened from blocks of one length. -/
theorem getD_flatMap_block {α β : Type*} {f : α → List β} {d : ℕ} (hf : ∀ a, (f a).length = d)
    (x : β) {k : ℕ} (hk : k < d) :
    ∀ (l : List α) {j : ℕ} (hj : j < l.length),
      (l.flatMap f).getD (d * j + k) x = (f l[j]).getD k x := by
  intro l
  induction l with
  | nil => exact fun hj ↦ absurd hj (Nat.not_lt_zero _)
  | cons a l ih =>
    intro j hj
    rw [List.flatMap_cons]
    cases j with
    | zero =>
      rw [Nat.mul_zero, Nat.zero_add, List.getD_append _ _ _ _ (by rw [hf]; exact hk)]
      rfl
    | succ j =>
      have hpast : (f a).length ≤ d * (j + 1) + k := by
        rw [hf, Nat.mul_succ]
        omega
      have hrest : d * (j + 1) + k - (f a).length = d * j + k := by
        rw [hf, Nat.mul_succ]
        omega
      rw [List.getD_append_right _ _ _ _ hpast, hrest, ih (Nat.lt_of_succ_lt_succ hj)]
      rfl

/-- Blocks of one length make a list of that many times the length. -/
theorem length_flatMap_block {α β : Type*} {f : α → List β} {d : ℕ} (hf : ∀ a, (f a).length = d)
    (l : List α) : (l.flatMap f).length = d * l.length := by
  induction l with
  | nil => rfl
  | cons a l ih =>
    rw [List.flatMap_cons, List.length_append, hf, ih, List.length_cons, Nat.mul_succ,
      Nat.add_comm]

/-! ### What one neighbour contributes -/

variable {ι : Type*}

namespace NeighborTable

/-- Every neighbour contributes as many values as the table is wide. -/
theorem contribution_length (t : NeighborTable ι) (nid : ι) :
    (t.contribution nid).length = t.dim := by
  rw [contribution]
  cases t.records nid with
  | none => exact List.length_replicate
  | some r =>
    rw [List.length_append, List.length_take, List.length_replicate]
    omega

/-- The coordinates of the record, zero where it has none. -/
theorem contribution_getD (t : NeighborTable ι) (nid : ι) {k : ℕ} (hk : k < t.dim) :
    (t.contribution nid).getD k 0 =
      match t.records nid with
      | none => 0
      | some r => r.vstate.getD k 0 := by
  rw [contribution]
  cases t.records nid with
  | none => simp
  | some r =>
    dsimp only
    by_cases hlen : k < r.vstate.length
    · rw [List.getD_append _ _ _ _ (by rw [List.length_take]; omega)]
      simp [List.getD_eq_getElem?_getD, hk]
    · have hpast : (r.vstate.take t.dim).length ≤ k := by
        rw [List.length_take]
        omega
      rw [List.getD_append_right _ _ _ _ hpast, List.getD_eq_default _ _ (not_lt.1 hlen)]
      rw [List.getD_eq_getElem?_getD, List.getElem?_replicate]
      split_ifs <;> rfl

end NeighborTable

/-! ### A table and its history -/

variable [DecidableEq ι]

/-- `arrivals`: which neighbours were heard since the last call, read and cleared. -/
def ReceiveTable.arrivals (t : ReceiveTable ι) : List Bool × ReceiveTable ι :=
  (t.neighbor_ids.map t.arrived, { t with arrived := fun _ ↦ false })

/-- What an agent does to its table. -/
inductive TableOp (ι : Type*) where
  | receive (r : Reception ι)
  | readArrivals

/-- A table, everything it was given, and what it was given since its arrivals were last read. -/
structure TableHistory (ι : Type*) where
  table : ReceiveTable ι
  received : List (Reception ι)
  sinceRead : List (Reception ι)

namespace TableHistory

omit [DecidableEq ι] in
/-- A new table. -/
def start (neighbor_ids : List ι) (max_age_us : ℤ) (dim : ℕ) (hold : Bool) (reorder_window : ℤ) :
    TableHistory ι where
  table := .init neighbor_ids max_age_us dim hold reorder_window
  received := []
  sinceRead := []

/-- One operation. -/
def step (h : TableHistory ι) : TableOp ι → TableHistory ι
  | .receive r =>
    { table := h.table.observe r
      received := h.received ++ [r]
      sinceRead := h.sinceRead ++ [r] }
  | .readArrivals => { h with table := h.table.arrivals.2, sinceRead := [] }

end TableHistory

/-- The last packet of a neighbour. -/
def lastFrom (rs : List (Reception ι)) (nid : ι) : Option (Reception ι) :=
  (rs.filter fun r ↦ r.packet.node_id = nid).getLast?

/-- A coordinate of the last packet of a neighbour: zero if the packet lacks it, and zero if there
is no packet. -/
def lastCoordinate (rs : List (Reception ι)) (nid : ι) (k : ℕ) : ℤ :=
  match lastFrom rs nid with
  | none => 0
  | some r => r.packet.vstate.getD k 0

/-- What was heard last of a node, with one reception more. -/
theorem lastFrom_concat (rs : List (Reception ι)) (r : Reception ι) (nid : ι) :
    lastFrom (rs ++ [r]) nid = if r.packet.node_id = nid then some r else lastFrom rs nid := by
  rw [lastFrom, List.filter_append]
  by_cases hnid : r.packet.node_id = nid
  · rw [if_pos hnid, List.filter_cons_of_pos (by simpa using hnid), List.filter_nil,
      List.getLast?_concat]
  · rw [if_neg hnid, List.filter_cons_of_neg (by simpa using hnid), List.filter_nil,
      List.append_nil]
    rfl

namespace TableHistory

/-- The table has the last packet of every declared neighbour, and the flag of a neighbour is set
exactly if it was heard since the last read. -/
structure Aligned (neighbor_ids : List ι) (dim : ℕ) (h : TableHistory ι) : Prop where
  ids : h.table.neighbor_ids = neighbor_ids
  width : h.table.dim = dim
  last : ∀ nid ∈ neighbor_ids,
    (h.table.records nid).map (·.vstate) = (lastFrom h.received nid).map (·.packet.vstate)
  flagged : ∀ nid ∈ neighbor_ids,
    (h.table.arrived nid = true ↔ ∃ r ∈ h.sinceRead, r.packet.node_id = nid)

variable {neighbor_ids : List ι} {dim : ℕ}

/-- A new table is aligned with its list. -/
theorem aligned_start (neighbor_ids : List ι) (max_age_us : ℤ) (dim : ℕ) (hold : Bool)
    (reorder_window : ℤ) :
    (start neighbor_ids max_age_us dim hold reorder_window).Aligned neighbor_ids dim where
  ids := rfl
  width := rfl
  last := fun _ _ ↦ rfl
  flagged := fun _ _ ↦ by simp [start, ReceiveTable.init]

/-- A packet replaces the record of its sender, sets its flag, and touches nobody else. -/
theorem Aligned.receive {h : TableHistory ι} (hal : h.Aligned neighbor_ids dim)
    (r : Reception ι) : (h.step (.receive r)).Aligned neighbor_ids dim := by
  have hids := hal.ids
  by_cases hdeclared : r.packet.node_id ∈ h.table.neighbor_ids
  · have hrest : ∀ nid, nid ≠ r.packet.node_id →
        (h.table.observe r).records nid = h.table.records nid ∧
          (h.table.observe r).arrived nid = h.table.arrived nid := by
      intro nid hnid
      rw [ReceiveTable.observe, if_pos hdeclared]
      exact ⟨Function.update_of_ne hnid _ _, Function.update_of_ne hnid _ _⟩
    have hself : ((h.table.observe r).records r.packet.node_id).map (·.vstate) =
          some r.packet.vstate ∧
        (h.table.observe r).arrived r.packet.node_id = true := by
      rw [ReceiveTable.observe, if_pos hdeclared]
      dsimp only
      rw [Function.update_self, Function.update_self]
      exact ⟨rfl, rfl⟩
    refine ⟨?_, ?_, fun nid hnid ↦ ?_, fun nid hnid ↦ ?_⟩
    · rw [step, ReceiveTable.observe, if_pos hdeclared]
      exact hids
    · rw [step, ReceiveTable.observe, if_pos hdeclared]
      exact hal.width
    · dsimp only [step]
      rw [lastFrom_concat]
      by_cases hsender : r.packet.node_id = nid
      · rw [if_pos hsender, ← hsender, hself.1]
        rfl
      · rw [if_neg hsender, (hrest nid (Ne.symm hsender)).1]
        exact hal.last nid hnid
    · dsimp only [step]
      by_cases hsender : r.packet.node_id = nid
      · rw [← hsender, hself.2]
        exact iff_of_true rfl ⟨r, List.mem_append_right _ List.mem_cons_self, rfl⟩
      · rw [(hrest nid (Ne.symm hsender)).2, hal.flagged nid hnid]
        simp [or_and_right, exists_or, hsender]
  · have hstep : (h.table.observe r).neighbor_ids = h.table.neighbor_ids ∧
        (h.table.observe r).dim = h.table.dim ∧
        (h.table.observe r).records = h.table.records ∧
        (h.table.observe r).arrived = h.table.arrived := by
      rw [ReceiveTable.observe, if_neg hdeclared]
      exact ⟨rfl, rfl, rfl, rfl⟩
    -- The sender is none of the declared neighbours, so their last packets are what they were.
    have hother : ∀ nid ∈ neighbor_ids, r.packet.node_id ≠ nid := by
      rintro nid hnid rfl
      exact hdeclared (hids ▸ hnid)
    refine ⟨hstep.1.trans hids, hstep.2.1.trans hal.width, fun nid hnid ↦ ?_, fun nid hnid ↦ ?_⟩
    · dsimp only [step]
      rw [hstep.2.2.1, lastFrom_concat, if_neg (hother nid hnid)]
      exact hal.last nid hnid
    · dsimp only [step]
      rw [hstep.2.2.2, hal.flagged nid hnid]
      simp [or_and_right, exists_or, hother nid hnid]

/-- Reading the arrivals keeps it aligned. -/
theorem Aligned.readArrivals {h : TableHistory ι} (hal : h.Aligned neighbor_ids dim) :
    (h.step .readArrivals).Aligned neighbor_ids dim where
  ids := hal.ids
  width := hal.width
  last := hal.last
  flagged := fun _ _ ↦ by simp [step, ReceiveTable.arrivals]

/-- **A table stays aligned along every history of receptions and reads.** -/
theorem Aligned.run {h : TableHistory ι} (hal : h.Aligned neighbor_ids dim)
    (ops : List (TableOp ι)) : (Runs.run step h ops).Aligned neighbor_ids dim := by
  refine run_invariant step (P := fun h ↦ h.Aligned neighbor_ids dim) (fun h op hal ↦ ?_) hal ops
  cases op with
  | receive r => exact hal.receive r
  | readArrivals => exact hal.readArrivals

/-- What the table contributes for a neighbour are the coordinates of its last packet. -/
theorem Aligned.contribution {h : TableHistory ι} (hal : h.Aligned neighbor_ids dim) {nid : ι}
    (hnid : nid ∈ neighbor_ids) {k : ℕ} (hk : k < dim) :
    (h.table.table.contribution nid).getD k 0 = lastCoordinate h.received nid k := by
  have hlast := hal.last nid hnid
  rw [NeighborTable.contribution_getD _ _ (by rw [ReceiveTable.table, hal.width]; exact hk),
    lastCoordinate]
  rw [show h.table.table.records nid =
    (h.table.records nid).map HeardRecord.toNeighborRecord from rfl]
  cases hrec : h.table.records nid with
  | none =>
    rw [hrec] at hlast
    rw [Option.map_eq_none_iff.1 hlast.symm]
    rfl
  | some rec =>
    rw [hrec] at hlast
    obtain ⟨r, hr, hv⟩ := Option.map_eq_some_iff.1 hlast.symm
    rw [hr]
    dsimp only [Option.map_some]
    rw [hv]

end TableHistory

/-! ### What the controller reads -/

variable {K : Type*} [Field K]

/-- **Snapshots stay aligned with neighbours**: whatever mix of packets a table was given, and
whenever its arrivals were read, a snapshot has its width in integers for every declared neighbour
and one flag for each, the pair that the microgrid controller cuts out at a position is that
neighbour's last packet, and the arrival flags are the neighbours heard since the last read. -/
theorem snapshot_aligned (neighbor_ids : List ι) (max_age_us : ℤ) (dim : ℕ) (hold : Bool)
    (reorder_window : ℤ) (ops : List (TableOp ι)) (now_us : ℤ) :
    let h := run TableHistory.step
      (.start neighbor_ids max_age_us dim hold reorder_window) ops
    let read := h.table.table.snapshot now_us
    read.1.length = dim * neighbor_ids.length ∧
      read.2.length = neighbor_ids.length ∧
      (dim = 2 → ∀ (degree j : ℕ) (hj : j < neighbor_ids.length), j < degree →
        (snapshot degree read.1 : List (K × K))[j]? =
          some ((lastCoordinate h.received neighbor_ids[j] 0 : K) * invScaleFactor,
            (lastCoordinate h.received neighbor_ids[j] 1 : K) * invScaleFactor)) ∧
      h.table.arrivals.1 =
        neighbor_ids.map fun nid ↦ decide (∃ r ∈ h.sinceRead, r.packet.node_id = nid) := by
  intro h read
  have hal : h.Aligned neighbor_ids dim :=
    (TableHistory.aligned_start neighbor_ids max_age_us dim hold reorder_window).run ops
  have hids : h.table.table.neighbor_ids = neighbor_ids := hal.ids
  have hlength : ∀ nid, (h.table.table.contribution nid).length = dim := fun nid ↦
    (NeighborTable.contribution_length _ nid).trans hal.width
  -- A snapshot is one block of `dim` values for each neighbour, in the order of the list.
  have hvalues : read.1 = neighbor_ids.flatMap h.table.table.contribution := by
    rw [← hids]
    rfl
  refine ⟨?_, ?_, ?_, ?_⟩
  · rw [hvalues, length_flatMap_block hlength]
  · rw [← hids]
    exact List.length_map ..
  · intro hdim degree j hj hdegree
    subst hdim
    have hmem : neighbor_ids[j] ∈ neighbor_ids := List.getElem_mem hj
    have hfst : read.1.getD (2 * j) 0 = lastCoordinate h.received neighbor_ids[j] 0 := by
      rw [hvalues, ← hal.contribution hmem (Nat.zero_lt_two)]
      exact getD_flatMap_block hlength 0 Nat.zero_lt_two neighbor_ids hj
    have hsnd : read.1.getD (2 * j + 1) 0 = lastCoordinate h.received neighbor_ids[j] 1 := by
      rw [hvalues, ← hal.contribution hmem (Nat.one_lt_two)]
      exact getD_flatMap_block hlength 0 Nat.one_lt_two neighbor_ids hj
    rw [snapshot, List.getElem?_map, List.getElem?_range hdegree, Option.map_some, hfst, hsnd]
  · rw [ReceiveTable.arrivals, hal.ids]
    refine List.map_congr_left fun nid hnid ↦ ?_
    rw [Bool.eq_iff_iff, hal.flagged nid hnid, decide_eq_true_iff]

theorem pairPacket_coords : ([10, 20] : List ℤ).length = 1 ∨ ([10, 20] : List ℤ).length = 2 :=
  Or.inr rfl

theorem pairPacket_fits : ∀ v ∈ ([10, 20] : List ℤ), FitsI32 v := by decide

theorem shortValue_fits : FitsI32 30 := by decide

/-- A packet of two coordinates. -/
def pairPacket (node_id : ℕ) : WirePacket ℕ where
  node_id := node_id
  vstate := [10, 20]
  enabled := true
  coords := pairPacket_coords
  fits := pairPacket_fits
  seq := 1
  tx_time_us := 0
  seq_le := ReceiveTable.seq_one_le

/-- Neighbour 1 sends one coordinate behind a pair of neighbour 2, which is heard again after the
arrivals are read. -/
def shortThenPair : TableHistory ℕ :=
  run TableHistory.step (.start [1, 2, 3] 1000 2 true 1024)
    [.receive ⟨pairPacket 2, 100, none⟩,
      .receive ⟨ReceiveTable.samplePacket 1 ReceiveTable.seq_one_le 30 shortValue_fits, 200, none⟩,
      .readArrivals, .receive ⟨pairPacket 2, 300, none⟩]

theorem snapshot_aligned_short :
    (snapshot 3 (shortThenPair.table.table.snapshot 300).1 : List (ℚ × ℚ))[1]? =
        some (10 * invScaleFactor, 20 * invScaleFactor) ∧
      shortThenPair.table.arrivals.1 = [false, true, false] :=
  ⟨(snapshot_aligned [1, 2, 3] 1000 2 true 1024 _ 300).2.2.1 rfl 3 1 (by decide) (by decide),
    by decide⟩

end VertexTestbed.Host
