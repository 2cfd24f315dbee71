import VertexTestbed.Numeric

/-!
# Packets and the neighbour table

`wire/codec.py` (the scaling boundary of `StatePacket`) and `agent/neighbors.py`. A packet carries
one scaled integer a coordinate; that each fits an `int32` and that there are one or two of them is
checked when it is built and is a field here. Fields that `snapshot` does not read (sequence number,
time stamps of the sender, RSSI, counters) are left out.
-/

namespace VertexTestbed.Host

/-- `StatePacket`: one agent's broadcast state. -/
structure StatePacket (ι : Type*) where
  node_id : ι
  vstate : List ℤ
  enabled : Bool
  coords : vstate.length = 1 ∨ vstate.length = 2
  fits : ∀ v ∈ vstate, FitsI32 v

/-- `NeighborRecord`: latest known state of one neighbour. -/
structure NeighborRecord where
  vstate : List ℤ
  rx_time_us : ℤ
  sender_enabled : Bool

/-- `NeighborRecord.age_us`. -/
def NeighborRecord.age_us (r : NeighborRecord) (now_us : ℤ) : ℤ :=
  now_us - r.rx_time_us

/-- `NeighborTable`. -/
structure NeighborTable (ι : Type*) where
  neighbor_ids : List ι
  max_age_us : ℤ
  dim : ℕ
  hold : Bool
  records : ι → Option NeighborRecord

variable {ι : Type*}

section Packet

variable {K : Type*} [Field K] [LinearOrder K] [IsStrictOrderedRing K] [FloorRing K]

/-- `StatePacket.from_state`: quantize for the wire; `none` where the constructor raises. -/
def StatePacket.fromState (node_id : ι) (vs : List K) (enabled : Bool) : Option (StatePacket ι) :=
  let vstate := vs.map quantize
  if hlen : vstate.length = 1 ∨ vstate.length = 2 then
    if hfits : ∀ v ∈ vstate, FitsI32 v then some ⟨node_id, vstate, enabled, hlen, hfits⟩ else none
  else none

omit [IsStrictOrderedRing K] in
/-- What a packet that was built carries. -/
theorem StatePacket.vstate_of_fromState {node_id : ι} {vs : List K} {enabled : Bool}
    {pkt : StatePacket ι} (h : StatePacket.fromState node_id vs enabled = some pkt) :
    pkt.vstate = vs.map quantize := by
  rw [fromState] at h
  split_ifs at h
  rw [← Option.some.inj h]

end Packet

namespace NeighborTable

variable [DecidableEq ι]

/-- `NeighborTable.observe`: a packet of an undeclared sender is ignored. -/
def observe (t : NeighborTable ι) (pkt : StatePacket ι) (rx_time_us : ℤ) : NeighborTable ι :=
  if pkt.node_id ∈ t.neighbor_ids then
    { t with
      records := fun j ↦
        if j = pkt.node_id then some ⟨pkt.vstate, rx_time_us, pkt.enabled⟩ else t.records j }
  else t

omit [DecidableEq ι] in
/-- The values one neighbour contributes to a snapshot: zeros if it was never heard. -/
def contribution (t : NeighborTable ι) (nid : ι) : List ℤ :=
  match t.records nid with
  | none => List.replicate t.dim 0
  | some r => r.vstate.take t.dim ++ List.replicate (t.dim - r.vstate.length) 0

omit [DecidableEq ι] in
/-- `NeighborTable.snapshot`: values and usability, aligned to `neighbor_ids`. -/
def snapshot (t : NeighborTable ι) (now_us : ℤ) : List ℤ × List Bool :=
  (t.neighbor_ids.flatMap t.contribution,
    t.neighbor_ids.map fun nid ↦
      match t.records nid with
      | none => false
      | some r => r.sender_enabled && (t.hold || decide (r.age_us now_us ≤ t.max_age_us)))

/-- Every value a table holds satisfies `P`. -/
def Holds (P : ℤ → Prop) (t : NeighborTable ι) : Prop :=
  ∀ nid r, t.records nid = some r → ∀ v ∈ r.vstate, P v

omit [DecidableEq ι] in
/-- A snapshot contains held values and zeros, nothing else. -/
theorem Holds.snapshot {P : ℤ → Prop} {t : NeighborTable ι} (h : t.Holds P) (h₀ : P 0)
    (now_us : ℤ) : ∀ v ∈ (t.snapshot now_us).1, P v := by
  intro v hv
  obtain ⟨nid, -, hmem⟩ := List.mem_flatMap.1 hv
  rw [contribution] at hmem
  rcases hr : t.records nid with - | r
  · rw [hr] at hmem
    rwa [List.eq_of_mem_replicate hmem]
  · rw [hr] at hmem
    rcases List.mem_append.1 hmem with hmem | hmem
    · exact h nid r hr v (List.mem_of_mem_take hmem)
    · rwa [List.eq_of_mem_replicate hmem]

theorem Holds.observe {P : ℤ → Prop} {t : NeighborTable ι} (h : t.Holds P)
    {pkt : StatePacket ι} (hpkt : ∀ v ∈ pkt.vstate, P v) (rx_time_us : ℤ) :
    (t.observe pkt rx_time_us).Holds P := by
  intro nid r hr
  rw [NeighborTable.observe] at hr
  split_ifs at hr with hmem
  · dsimp only at hr
    split_ifs at hr with hnid
    · rw [← Option.some.inj hr]
      exact hpkt
    · exact h nid r hr
  · exact h nid r hr

end NeighborTable

end VertexTestbed.Host
