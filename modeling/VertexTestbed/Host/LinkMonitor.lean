import VertexTestbed.Host.Neighbors
import VertexTestbed.Lib.Runs

/-!
# The receive side of a neighbour

`wire/codec.py` (`LinkStats`, `LinkMonitor`) and the write side of `agent/neighbors.py`, with the
header fields that the accounting reads. `ReceiveTable.table` forgets them: what is left is the
`NeighborTable` that the control law reads, and `observe_table` says that receiving commutes with
forgetting.

The monitor decides by sequence number which packets are late. The table stores every packet.
`records_follow_monitor` says when the two still agree.
-/

namespace VertexTestbed.Host

open Runs

variable {ι : Type*}

/-! ### Packets with their header -/

/-- `StatePacket`, with its sequence number and the sender's time stamp. -/
structure WirePacket (ι : Type*) extends StatePacket ι where
  seq : ℕ
  tx_time_us : ℕ
  seq_le : seq ≤ 65535

/-- `Reception`: a packet as a transport hands it over, whichever medium it came by. -/
structure Reception (ι : Type*) where
  packet : WirePacket ι
  rx_time_us : ℤ
  rssi : Option ℤ

/-! ### The monitor -/

/-- `LinkStats`. -/
structure LinkStats where
  received : ℕ
  expected : ℕ
  lost : ℕ
  duplicates : ℕ
  reordered : ℕ
  resets : ℕ
  delays_us : List ℤ

/-- `LinkStats()`. -/
def LinkStats.zero : LinkStats := ⟨0, 0, 0, 0, 0, 0, []⟩

/-- `LinkMonitor`. -/
structure LinkMonitor (ι : Type*) where
  reorder_window : ℤ
  stats : ι → Option LinkStats
  last_seq : ι → Option ℕ

/-- `LinkMonitor(reorder_window=…)`; the table's own has a window of 1024. -/
def LinkMonitor.init (reorder_window : ℤ) : LinkMonitor ι where
  reorder_window := reorder_window
  stats := fun _ ↦ none
  last_seq := fun _ ↦ none

/-- The branches of `observe`. -/
inductive Arrival where
  | first
  | duplicate
  | reordered
  | reset
  | next (gap : ℕ)
  deriving DecidableEq

/-- Which branch a packet takes: by its distance ahead of the last accepted one, modulo `2 ^ 16`. -/
def LinkMonitor.classify (m : LinkMonitor ι) (pkt : WirePacket ι) : Arrival :=
  match m.last_seq pkt.node_id with
  | none => .first
  | some last =>
    let gap := ((pkt.seq : ℤ) - last) % 65536
    if gap = 0 then .duplicate
    else if 65536 - m.reorder_window < gap then .reordered
    else if m.reorder_window < gap then .reset
    else .next gap.toNat

/-- What a branch does to the statistics that already count the packet as received: a duplicate and
a late packet are not deliveries. -/
def LinkStats.count (st : LinkStats) : Arrival → LinkStats
  | .first => { st with expected := st.expected + 1 }
  | .duplicate => { st with duplicates := st.duplicates + 1, received := st.received - 1 }
  | .reordered => { st with reordered := st.reordered + 1, received := st.received - 1 }
  | .reset => { st with resets := st.resets + 1, expected := st.expected + 1 }
  | .next gap => { st with expected := st.expected + gap, lost := st.lost + (gap - 1) }

/-- The branches that return before `_last_seq` is written. -/
def Arrival.keepsLast : Arrival → Bool
  | .duplicate => true
  | .reordered => true
  | _ => false

variable [DecidableEq ι]

/-- `LinkMonitor.observe`. -/
def LinkMonitor.observe (m : LinkMonitor ι) (pkt : WirePacket ι) (rx_time_us : Option ℤ) :
    LinkMonitor ι :=
  let st := (m.stats pkt.node_id).getD .zero
  let counted :=
    { st with
      received := st.received + 1
      delays_us :=
        match rx_time_us with
        | some rx =>
          if pkt.tx_time_us ≠ 0 then st.delays_us ++ [rx - pkt.tx_time_us] else st.delays_us
        | none => st.delays_us }
  { m with
    stats := Function.update m.stats pkt.node_id (some (counted.count (m.classify pkt)))
    last_seq :=
      if (m.classify pkt).keepsLast then m.last_seq
      else Function.update m.last_seq pkt.node_id (some pkt.seq) }

theorem LinkMonitor.observe_last (m : LinkMonitor ι) (pkt : WirePacket ι) (rx_time_us : Option ℤ) :
    (m.observe pkt rx_time_us).last_seq =
      if (m.classify pkt).keepsLast then m.last_seq
      else Function.update m.last_seq pkt.node_id (some pkt.seq) := rfl

theorem LinkMonitor.observe_last_of_ne (m : LinkMonitor ι) (pkt : WirePacket ι)
    (rx_time_us : Option ℤ) {nid : ι} (hnid : nid ≠ pkt.node_id) :
    (m.observe pkt rx_time_us).last_seq nid = m.last_seq nid := by
  rw [observe_last]
  split_ifs
  · rfl
  · exact Function.update_of_ne hnid _ _

/-! ### The table -/

/-- `NeighborRecord`, whole. -/
structure HeardRecord extends NeighborRecord where
  seq : ℕ
  tx_time_us : ℕ
  rssi : Option ℤ
  updates : ℕ

/-- `NeighborTable`, whole. -/
structure ReceiveTable (ι : Type*) where
  neighbor_ids : List ι
  max_age_us : ℤ
  dim : ℕ
  hold : Bool
  monitor : LinkMonitor ι
  records : ι → Option HeardRecord
  arrived : ι → Bool
  ignored : ℕ
  first_seen_us : ι → Option ℤ

omit [DecidableEq ι] in
/-- The table that the control law reads. -/
def ReceiveTable.table (t : ReceiveTable ι) : NeighborTable ι where
  neighbor_ids := t.neighbor_ids
  max_age_us := t.max_age_us
  dim := t.dim
  hold := t.hold
  records := fun nid ↦ (t.records nid).map HeardRecord.toNeighborRecord

omit [DecidableEq ι] in
/-- `NeighborTable(…)`: nobody heard, and a monitor of its own. -/
def ReceiveTable.init (neighbor_ids : List ι) (max_age_us : ℤ) (dim : ℕ) (hold : Bool)
    (reorder_window : ℤ) : ReceiveTable ι where
  neighbor_ids := neighbor_ids
  max_age_us := max_age_us
  dim := dim
  hold := hold
  monitor := .init reorder_window
  records := fun _ ↦ none
  arrived := fun _ ↦ false
  ignored := 0
  first_seen_us := fun _ ↦ none

namespace ReceiveTable

/-- `NeighborTable.observe`: the packet is counted by the monitor and stored, whatever the monitor
made of it. -/
def observe (t : ReceiveTable ι) (r : Reception ι) : ReceiveTable ι :=
  let pkt := r.packet
  if pkt.node_id ∈ t.neighbor_ids then
    let prev := t.records pkt.node_id
    { t with
      arrived := Function.update t.arrived pkt.node_id true
      first_seen_us :=
        Function.update t.first_seen_us pkt.node_id
          (some ((t.first_seen_us pkt.node_id).getD r.rx_time_us))
      monitor := t.monitor.observe pkt (some r.rx_time_us)
      records :=
        Function.update t.records pkt.node_id
          (some
            { vstate := pkt.vstate
              seq := pkt.seq
              tx_time_us := pkt.tx_time_us
              rx_time_us := r.rx_time_us
              sender_enabled := pkt.enabled
              rssi := r.rssi
              updates := match prev with | some rec => rec.updates + 1 | none => 1 }) }
  else { t with ignored := t.ignored + 1 }

/-- Receiving and forgetting commute. -/
theorem observe_table (t : ReceiveTable ι) (r : Reception ι) :
    (t.observe r).table = t.table.observe r.packet.toStatePacket r.rx_time_us := by
  rw [observe, NeighborTable.observe]
  by_cases hdeclared : r.packet.node_id ∈ t.neighbor_ids
  · rw [if_pos hdeclared, if_pos (show r.packet.node_id ∈ t.table.neighbor_ids from hdeclared)]
    have hrecords : ∀ (f : ι → Option HeardRecord) (nid : ι) (v : HeardRecord),
        (fun j ↦ (Function.update f nid (some v) j).map HeardRecord.toNeighborRecord) =
          fun j ↦ if j = nid then some v.toNeighborRecord
            else (f j).map HeardRecord.toNeighborRecord := by
      intro f nid v
      funext j
      by_cases hj : j = nid
      · rw [hj, Function.update_self, if_pos rfl]
        rfl
      · rw [Function.update_of_ne hj, if_neg hj]
    simp only [table, hrecords]
  · rw [if_neg hdeclared, if_neg (show r.packet.node_id ∉ t.table.neighbor_ids from hdeclared)]
    rfl

/-! ### The record and the monitor -/

/-- **Agreement**: every stored record carries the sequence number that the monitor holds as its
neighbour's last accepted one, and a neighbour has the one when it has the other. -/
def Agrees (t : ReceiveTable ι) : Prop :=
  ∀ nid, (t.records nid).map HeardRecord.seq = t.monitor.last_seq nid

/-- The packet is not one that the monitor finds late. -/
def NotLate (t : ReceiveTable ι) (r : Reception ι) : Prop :=
  r.packet.node_id ∈ t.neighbor_ids → t.monitor.classify r.packet ≠ .reordered

instance (t : ReceiveTable ι) (r : Reception ι) : Decidable (t.NotLate r) :=
  inferInstanceAs (Decidable (_ → _))

omit [DecidableEq ι] in
theorem agrees_init (neighbor_ids : List ι) (max_age_us : ℤ) (dim : ℕ) (hold : Bool)
    (reorder_window : ℤ) : (init neighbor_ids max_age_us dim hold reorder_window).Agrees :=
  fun _ ↦ rfl

end ReceiveTable

namespace LinkMonitor

omit [DecidableEq ι]

/-- A duplicate repeats the last accepted number. -/
theorem last_of_duplicate {m : LinkMonitor ι} {pkt : WirePacket ι} {last : ℕ}
    (hlast : m.last_seq pkt.node_id = some last) (hle : last ≤ 65535)
    (h : m.classify pkt = .duplicate) : last = pkt.seq := by
  have hseq := pkt.seq_le
  rw [classify, hlast] at h
  dsimp only at h
  split_ifs at h with hgap
  omega

/-- A late packet does not. -/
theorem last_of_reordered {m : LinkMonitor ι} {pkt : WirePacket ι} {last : ℕ}
    (hlast : m.last_seq pkt.node_id = some last) (h : m.classify pkt = .reordered) :
    last ≠ pkt.seq := by
  rw [classify, hlast] at h
  dsimp only at h
  split_ifs at h with hgap hlate
  rintro rfl
  exact hgap (by rw [sub_self, Int.zero_emod])

theorem last_of_keepsLast {m : LinkMonitor ι} {pkt : WirePacket ι}
    (h : (m.classify pkt).keepsLast = true) : ∃ last, m.last_seq pkt.node_id = some last := by
  rcases hlast : m.last_seq pkt.node_id with _ | last
  · rw [classify, hlast] at h
    cases h
  · exact ⟨last, rfl⟩

end LinkMonitor

namespace ReceiveTable

/-- Every accepted sequence number fits its field. -/
def Bounded (t : ReceiveTable ι) : Prop :=
  ∀ nid last, t.monitor.last_seq nid = some last → last ≤ 65535

theorem Bounded.observe {t : ReceiveTable ι} (h : t.Bounded) (r : Reception ι) :
    (t.observe r).Bounded := by
  intro nid last hlast
  rw [ReceiveTable.observe] at hlast
  split_ifs at hlast
  · dsimp only at hlast
    by_cases hnid : nid = r.packet.node_id
    · subst hnid
      rw [LinkMonitor.observe_last] at hlast
      split_ifs at hlast
      · exact h _ last hlast
      · rw [Function.update_self] at hlast
        rw [← Option.some.inj hlast]
        exact r.packet.seq_le
    · rw [LinkMonitor.observe_last_of_ne _ _ _ hnid] at hlast
      exact h nid last hlast
  · exact h nid last hlast

/-- Behind a reception from a declared neighbour, agreement is about that neighbour. -/
theorem agrees_observe_declared {t : ReceiveTable ι} (h : t.Agrees) {r : Reception ι}
    (hdeclared : r.packet.node_id ∈ t.neighbor_ids) :
    (t.observe r).Agrees ↔
      (t.monitor.observe r.packet (some r.rx_time_us)).last_seq r.packet.node_id =
        some r.packet.seq := by
  rw [observe, if_pos hdeclared]
  constructor
  · intro hagrees
    have hself := hagrees r.packet.node_id
    dsimp only at hself
    rw [Function.update_self] at hself
    exact hself.symm
  · intro hlast nid
    dsimp only
    by_cases hnid : nid = r.packet.node_id
    · rw [hnid, Function.update_self, hlast]
      rfl
    · rw [Function.update_of_ne hnid, h nid, LinkMonitor.observe_last_of_ne _ _ _ hnid]

/-- **One reception keeps the agreement exactly if the packet is not late.** -/
theorem agrees_observe_iff {t : ReceiveTable ι} (hbound : t.Bounded) (h : t.Agrees)
    (r : Reception ι) : t.NotLate r ↔ (t.observe r).Agrees := by
  by_cases hdeclared : r.packet.node_id ∈ t.neighbor_ids
  · rw [agrees_observe_declared h hdeclared, LinkMonitor.observe_last]
    by_cases hkeeps : (t.monitor.classify r.packet).keepsLast = true
    · obtain ⟨last, hlast⟩ := LinkMonitor.last_of_keepsLast hkeeps
      rw [if_pos hkeeps, hlast]
      constructor
      · intro hnotlate
        -- Of the two branches that keep the number, a packet that is not late takes the first.
        have hduplicate : t.monitor.classify r.packet = .duplicate := by
          rcases hc : t.monitor.classify r.packet with _ | _ | _ | _ | gap
          · rw [hc] at hkeeps
            cases hkeeps
          · rfl
          · exact absurd hc (hnotlate hdeclared)
          · rw [hc] at hkeeps
            cases hkeeps
          · rw [hc] at hkeeps
            cases hkeeps
        rw [LinkMonitor.last_of_duplicate hlast (hbound _ _ hlast) hduplicate]
      · intro hsame _ hlate
        exact LinkMonitor.last_of_reordered hlast hlate (Option.some.inj hsame)
    · rw [if_neg hkeeps, Function.update_self]
      refine ⟨fun _ ↦ rfl, fun _ _ hlate ↦ ?_⟩
      rw [hlate] at hkeeps
      exact hkeeps rfl
  · have hsame : (t.observe r).records = t.records ∧ (t.observe r).monitor = t.monitor := by
      rw [observe, if_neg hdeclared]
      exact ⟨rfl, rfl⟩
    refine ⟨fun _ nid ↦ ?_, fun _ hmem ↦ absurd hmem hdeclared⟩
    rw [hsame.1, hsame.2]
    exact h nid

/-- **The receive-side record and the monitor**: after each reception of a run the stored record of
every neighbour carries the monitor's last accepted sequence number if and only if no packet of the
run is late when it comes in. -/
theorem records_follow_monitor (neighbor_ids : List ι) (max_age_us : ℤ) (dim : ℕ) (hold : Bool)
    (reorder_window : ℤ) (receptions : List (Reception ι)) :
    (∀ n, (run observe (init neighbor_ids max_age_us dim hold reorder_window)
        (receptions.take n)).Agrees) ↔
      Guarded observe NotLate (init neighbor_ids max_age_us dim hold reorder_window)
        receptions := by
  symm
  exact guarded_iff_forall_take (J := fun _ ↦ Bounded) (P := Agrees)
    (fun _ _ r hbound ↦ hbound.observe r) (fun _ _ r hbound h ↦ agrees_observe_iff hbound h r)
    (fun _ _ hlast ↦ by cases hlast) (agrees_init _ _ _ _ _)

/-! ### One late packet -/

/-- A packet of neighbour 1 with the given sequence number and value. -/
def samplePacket (seq : ℕ) (hseq : seq ≤ 65535) (v : ℤ) (hv : FitsI32 v) : WirePacket ℕ where
  node_id := 1
  vstate := [v]
  enabled := true
  coords := Or.inl rfl
  fits := by simpa using hv
  seq := seq
  tx_time_us := 0
  seq_le := hseq

theorem sampleValue_fits : FitsI32 10 := by decide

theorem seq_one_le : 1 ≤ 65535 := by decide

/-- Two packets in order, then the first one again by a slower medium. -/
def lateReceptions : List (Reception ℕ) :=
  [⟨samplePacket 1 (by decide) 10 (by decide), 100, none⟩,
    ⟨samplePacket 2 (by decide) 20 (by decide), 200, none⟩,
    ⟨samplePacket 1 (by decide) 10 (by decide), 300, some (-60)⟩]

/-- **A late packet replaces the newer value**: the monitor counts it as reordered and stays at
number 2, the record and the snapshot go back to number 1. -/
theorem late_packet_replaces :
    ¬(run observe (init [1] 1000 1 false 1024) lateReceptions).Agrees ∧
      ((run observe (init [1] 1000 1 false 1024) lateReceptions).table.snapshot 300).1 = [10] := by
  refine ⟨fun h ↦ ?_, by decide +kernel⟩
  have hseq :
      ((run observe (init [1] 1000 1 false 1024) lateReceptions).records 1).map HeardRecord.seq ≠
        (run observe (init [1] 1000 1 false 1024) lateReceptions).monitor.last_seq 1 := by
    decide +kernel
  exact hseq (h 1)

end ReceiveTable

end VertexTestbed.Host
