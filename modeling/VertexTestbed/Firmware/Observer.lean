import VertexTestbed.Firmware.Control
import VertexTestbed.Firmware.Report

/-!
# Reception on the board

`observer.c` from a decoded advertisement on, the depth-1 message queue it hands its record over
with, `absorb_neighbors` (`main.c`), and the fresh mask of `report.c`.

`Heard` is one accepted reception. `ValuesFrom` and `MarksFrom` say of a snapshot that what it has
in a slot is the never-heard default or was heard in a reception that a given relation allows for
the slot; the two claims that this module serves differ in the relation only. Each step of the
data's way from the air into the agent keeps both.
-/

namespace VertexTestbed.Firmware

/-! ### Snapshots -/

/-- `neighbor_info_type`. -/
structure NeighborInfo where
  vstates : Slot → ℤ
  vstatesQ : Slot → ℤ
  enabled : Slot → Bool
  rssi : Slot → Int8
  seq : Slot → UInt16
  heard : Slot → Bool
  deriving DecidableEq

/-- `memset(&neighbor_info, 0, …)`. -/
def NeighborInfo.zero : NeighborInfo where
  vstates := fun _ ↦ 0
  vstatesQ := fun _ ↦ 0
  enabled := fun _ ↦ false
  rssi := fun _ ↦ 0
  seq := fun _ ↦ 0
  heard := fun _ ↦ false

/-- The writes of one accepted packet to the observer's record. -/
def NeighborInfo.store (n : NeighborInfo) (i : Slot) (p : StatePacketType) : NeighborInfo :=
  { n with
    vstates := Function.update n.vstates i p.vstate
    vstatesQ := Function.update n.vstatesQ i p.vstateQ
    enabled := Function.update n.enabled i p.enabled
    seq := Function.update n.seq i p.seq
    heard := Function.update n.heard i true }

/-- The late write of `on_device_found`. -/
def NeighborInfo.storeRssi (n : NeighborInfo) (i : Slot) (rssi : Int8) : NeighborInfo :=
  { n with rssi := Function.update n.rssi i rssi }

/-- `agent_neighbor_index`: the first slot that declares the node. -/
def agentNeighborIndex (p : AgentParams) (node : UInt8) : Option Slot :=
  p.slots.find? fun i ↦ p.neighborsId i == node

/-- The slot found for a node holds that node. -/
theorem agentNeighborIndex_eq_some {p : AgentParams} {node : UInt8} {i : Slot}
    (h : agentNeighborIndex p node = some i) : p.neighborsId i = node := by
  have hfound := List.find?_some h
  exact beq_iff_eq.mp hfound

/-! ### The observer -/

/-- The observer's record, its queue, and the fresh mask it marks. -/
structure Reception where
  info : NeighborInfo
  queue : Option NeighborInfo
  fresh : Slot → Bool

/-- Nothing heard. -/
def Reception.init : Reception := ⟨.zero, none, fun _ ↦ false⟩

/-- `on_data_parse_after_device_found`, behind the decoder: a full queue is purged and written
again. -/
def onDataParseAfterDeviceFound (r : Reception) (i : Slot) (p : StatePacketType) : Reception :=
  let info := r.info.store i p
  { info := info
    queue := some info
    fresh := Function.update r.fresh i true }

/-- `on_device_found`, for a packet that decodes: the RSSI is written behind the queue put, so that
a snapshot carries the one before. -/
def onDeviceFound (r : Reception) (a : AgentParams) (p : StatePacketType) (rssi : Int8) :
    Reception :=
  match agentNeighborIndex a p.node with
  | none => r
  | some i =>
    let r' := onDataParseAfterDeviceFound r i p
    { r' with info := r'.info.storeRssi i rssi }

/-- `observer_stop`, where scanning did stop: the queue is purged and the record forgotten. The
fresh mask is not the observer's. -/
def Reception.forget (r : Reception) : Reception :=
  { r with info := .zero, queue := none }

/-! ### The agent's arrays -/

section Agent

variable {K : Type*}

/-- What the agent holds of its neighbours, as a snapshot. -/
def Agent.received (a : Agent K) : NeighborInfo where
  vstates := a.vars.neighborVstates
  vstatesQ := a.vars.neighborVstatesQ
  enabled := a.params.neighborsEnabled
  rssi := a.vars.neighborRssi
  seq := a.vars.neighborSeq
  heard := a.params.availableNeighbors

/-- `absorb_neighbors`: the arrays whole, the heard flags for the slots in use. -/
def absorbNeighbors (a : Agent K) (info : NeighborInfo) : Agent K :=
  if !a.params.enabled then a
  else
    { params :=
        { a.params with
          neighborsEnabled := info.enabled
          availableNeighbors := fun i ↦
            if i.val < a.params.nNeighbors.val then info.heard i else a.params.availableNeighbors i
          allNeighborsObserved :=
            decide ((a.params.slots.filter fun i ↦ info.heard i).length =
              a.params.nNeighbors.val) }
      vars :=
        { a.vars with
          neighborVstates := info.vstates
          neighborVstatesQ := info.vstatesQ
          neighborSeq := info.seq
          neighborRssi := info.rssi } }

/-- Taking over a snapshot leaves the list of neighbours alone. -/
@[simp]
theorem absorbNeighbors_neighborsId (a : Agent K) (info : NeighborInfo) :
    (absorbNeighbors a info).params.neighborsId = a.params.neighborsId := by
  rw [absorbNeighbors]
  split_ifs <;> rfl

/-- It leaves the number of neighbours alone. -/
@[simp]
theorem absorbNeighbors_nNeighbors (a : Agent K) (info : NeighborInfo) :
    (absorbNeighbors a info).params.nNeighbors = a.params.nNeighbors := by
  rw [absorbNeighbors]
  split_ifs <;> rfl

end Agent

/-! ### What a frame does to the arrays -/

/-- An accepted CONTROL start. -/
def isStart (type : UInt8) (payload : Bytes) : Bool :=
  type == protoTControl && payload.length == protoControlLen && byteAt payload 0 == 1

section Frames

variable {K : Type} [Field K] [LinearOrder K] [IsStrictOrderedRing K] [FloorRing K]

/-- MG_IFACE leaves what was received and the list alone. -/
theorem applyMgIface_received (a : Agent K) (d : Bytes) :
    (applyMgIface a d).2.received = a.received ∧
      (applyMgIface a d).2.params.neighborsId = a.params.neighborsId ∧
      (applyMgIface a d).2.params.nNeighbors = a.params.nNeighbors := by
  rw [applyMgIface]
  by_cases hlen : d.length = protoMgIfaceLen
  · rw [if_neg (not_not.mpr hlen)]
    cases ifaceLaw (byteAt d 0) with
    | none => exact ⟨rfl, rfl, rfl⟩
    | some law =>
      dsimp only
      split_ifs
      · exact ⟨rfl, rfl, rfl⟩
      · exact ⟨rfl, rfl, rfl⟩
  · rw [if_pos hlen]
    exact ⟨rfl, rfl, rfl⟩

/-- CONTROL: a start forgets the neighbours' data, a stop keeps it, and neither touches the list. -/
theorem applyControl_received (b : Board K) (d : Bytes) (nowUs : ℤ) :
    (applyControl b d nowUs).2.agent.received =
        (if d.length = protoControlLen ∧ byteAt d 0 = 1 then .zero else b.agent.received) ∧
      (applyControl b d nowUs).2.agent.params.neighborsId = b.agent.params.neighborsId ∧
      (applyControl b d nowUs).2.agent.params.nNeighbors = b.agent.params.nNeighbors := by
  rw [applyControl]
  by_cases hlen : d.length = protoControlLen
  · rw [if_neg (not_not.mpr hlen)]
    by_cases hstart : byteAt d 0 = 1
    · rw [if_pos hstart, if_pos ⟨hlen, hstart⟩]
      dsimp only
      split_ifs
      · exact ⟨rfl, rfl, rfl⟩
      · exact ⟨rfl, rfl, rfl⟩
    · rw [if_neg hstart, if_neg fun h ↦ hstart h.2]
      exact ⟨rfl, rfl, rfl⟩
  · rw [if_pos hlen, if_neg fun h ↦ hlen h.1]
    exact ⟨rfl, rfl, rfl⟩

/-- What a CONTROL start makes of the flags of the run, and leaves of the rest that the network loop
reads. -/
theorem applyControl_started (b : Board K) {d : Bytes} (hlen : d.length = protoControlLen)
    (hstart : byteAt d 0 = 1) (nowUs : ℤ) :
    (applyControl b d nowUs).2.agent.params.running = true ∧
      (applyControl b d nowUs).2.agent.params.firstTimeRunning = true ∧
      (applyControl b d nowUs).2.agent.params.enabled = b.agent.params.enabled ∧
      (applyControl b d nowUs).2.agent.params.dt = b.agent.params.dt ∧
      (applyControl b d nowUs).2.agent.params.clock = b.agent.params.clock := by
  rw [applyControl, if_neg (not_not.mpr hlen), if_pos hstart]
  dsimp only
  split_ifs
  · exact ⟨rfl, rfl, rfl, rfl, rfl⟩
  · exact ⟨rfl, rfl, rfl, rfl, rfl⟩

/-- The handlers that write neither the arrays nor the list. -/
theorem apply_received (a : Agent K) (d : Bytes) :
    (∀ r ∈ [applyAlgorithm a d, applyMgPlant a d, applyMgVirtual a d, applyMgIface a d,
        applyDisturbance a d], r.2.received = a.received ∧
          r.2.params.neighborsId = a.params.neighborsId ∧
          r.2.params.nNeighbors = a.params.nNeighbors) ∧
      (applyNetwork a d).2.received = a.received := by
  simp only [List.forall_mem_cons]
  refine ⟨⟨?_, ?_, ?_, applyMgIface_received a d, ?_, fun r hr ↦ absurd hr List.not_mem_nil⟩, ?_⟩
  · rw [applyAlgorithm]
    split_ifs <;> exact ⟨rfl, rfl, rfl⟩
  · rw [applyMgPlant]
    dsimp only
    split_ifs <;> exact ⟨rfl, rfl, rfl⟩
  · rw [applyMgVirtual]
    dsimp only
    split_ifs <;> exact ⟨rfl, rfl, rfl⟩
  · rw [applyDisturbance]
    split_ifs <;> exact ⟨rfl, rfl, rfl⟩
  · rw [applyNetwork]
    split_ifs <;> rfl

/-- **A frame and the neighbour arrays**: an accepted CONTROL start forgets them, every other frame
keeps them, and only a NETWORK frame changes the list. -/
theorem agentApplyFrame_received (b : Board K) (type : UInt8) (d : Bytes) (nowUs : ℤ) :
    (agentApplyFrame b type d nowUs).2.agent.received =
        (if isStart type d then .zero else b.agent.received) ∧
      (type ≠ protoTNetwork →
        (agentApplyFrame b type d nowUs).2.agent.params.neighborsId =
            b.agent.params.neighborsId ∧
          (agentApplyFrame b type d nowUs).2.agent.params.nNeighbors =
            b.agent.params.nNeighbors) := by
  obtain ⟨hothers, hnetwork⟩ := apply_received b.agent d
  simp only [List.forall_mem_cons] at hothers
  obtain ⟨halgorithm, hplant, hvirtual, hiface, hdisturbance, -⟩ := hothers
  obtain ⟨hcontrol, hids, hcount⟩ := applyControl_received b d nowUs
  -- No other type starts a run.
  have hother : ∀ t, type = t → t ≠ protoTControl → ¬isStart type d = true := by
    rintro t rfl hne
    rw [isStart, beq_false_of_ne hne, Bool.false_and, Bool.false_and]
    exact Bool.false_ne_true
  rw [agentApplyFrame]
  by_cases htype : type = protoTNetwork
  · rw [if_pos htype, if_neg (hother _ htype (by decide))]
    exact ⟨hnetwork, fun h ↦ absurd htype h⟩
  rw [if_neg htype]
  by_cases htype : type = protoTAlgorithm
  · rw [if_pos htype, if_neg (hother _ htype (by decide))]
    exact ⟨halgorithm.1, fun _ ↦ halgorithm.2⟩
  rw [if_neg htype]
  by_cases htype : type = protoTMgPlant
  · rw [if_pos htype, if_neg (hother _ htype (by decide))]
    exact ⟨hplant.1, fun _ ↦ hplant.2⟩
  rw [if_neg htype]
  by_cases htype : type = protoTMgVirtual
  · rw [if_pos htype, if_neg (hother _ htype (by decide))]
    exact ⟨hvirtual.1, fun _ ↦ hvirtual.2⟩
  rw [if_neg htype]
  by_cases htype : type = protoTMgIface
  · rw [if_pos htype, if_neg (hother _ htype (by decide))]
    exact ⟨hiface.1, fun _ ↦ hiface.2⟩
  rw [if_neg htype]
  by_cases htype : type = protoTDisturbance
  · rw [if_pos htype, if_neg (hother _ htype (by decide))]
    exact ⟨hdisturbance.1, fun _ ↦ hdisturbance.2⟩
  rw [if_neg htype]
  by_cases hctl : type = protoTControl
  · subst hctl
    have hstart : isStart protoTControl d = true ↔ d.length = protoControlLen ∧ byteAt d 0 = 1 := by
      rw [isStart, beq_self_eq_true, Bool.true_and, Bool.and_eq_true, beq_iff_eq, beq_iff_eq]
    rw [if_pos rfl]
    simp only [hstart]
    exact ⟨hcontrol, fun _ ↦ ⟨hids, hcount⟩⟩
  · rw [if_neg hctl, if_neg (hother type rfl hctl)]
    exact ⟨rfl, fun _ ↦ ⟨rfl, rfl⟩⟩

/-- And so for the dispatcher. -/
theorem controlOnFrame_received (e : ControlEnv) (c : ControlPlane K) (type : UInt8) (d : Bytes) :
    (controlOnFrame e c type d).1.board.agent.received =
        (if isStart type d then .zero else c.board.agent.received) ∧
      (type ≠ protoTNetwork →
        (controlOnFrame e c type d).1.board.agent.params.neighborsId =
            c.board.agent.params.neighborsId ∧
          (controlOnFrame e c type d).1.board.agent.params.nNeighbors =
            c.board.agent.params.nNeighbors) := by
  rw [controlOnFrame]
  by_cases hagent : type ∈ agentFrameTypes
  · rw [if_pos hagent]
    exact agentApplyFrame_received c.board type d e.nowUs
  · have hne : type ≠ protoTControl := by
      rintro rfl
      exact hagent (by decide)
    have hstart : isStart type d = false := by
      rw [isStart, beq_false_of_ne hne, Bool.false_and, Bool.false_and]
    rw [if_neg hagent, hstart, if_neg Bool.false_ne_true]
    split_ifs
    · exact ⟨rfl, fun _ ↦ ⟨rfl, rfl⟩⟩
    · exact ⟨rfl, fun _ ↦ ⟨rfl, rfl⟩⟩
    · exact ⟨rfl, fun _ ↦ ⟨rfl, rfl⟩⟩
    · exact ⟨rfl, fun _ ↦ ⟨rfl, rfl⟩⟩

end Frames

/-! ### Where the data comes from -/

/-- One accepted reception: the run it fell into, the slot it was filed under, the packet and its
RSSI. -/
structure Heard where
  run : ℕ
  slot : Slot
  packet : StatePacketType
  rssi : Int8
  deriving DecidableEq

/-- The values of slot `i`: the never-heard zeros, or those of one packet that `A` allows there. -/
def ValuesFrom (A : Slot → Heard → Prop) (n : NeighborInfo) (i : Slot) : Prop :=
  (n.vstates i = 0 ∧ n.vstatesQ i = 0 ∧ n.enabled i = false ∧ n.seq i = 0) ∨
    ∃ h, A i h ∧ n.vstates i = h.packet.vstate ∧ n.vstatesQ i = h.packet.vstateQ ∧
      n.enabled i = h.packet.enabled ∧ n.seq i = h.packet.seq

/-- The RSSI and the heard flag of slot `i`, likewise. -/
def MarksFrom (A : Slot → Heard → Prop) (n : NeighborInfo) (i : Slot) : Prop :=
  (n.rssi i = 0 ∨ ∃ h, A i h ∧ n.rssi i = h.rssi) ∧ (n.heard i = true → ∃ h, A i h)

section Provenance

variable {A B : Slot → Heard → Prop} {n : NeighborInfo} {i : Slot}

/-- A cleared buffer holds no value. -/
theorem valuesFrom_zero (A : Slot → Heard → Prop) (i : Slot) : ValuesFrom A .zero i :=
  Or.inl ⟨rfl, rfl, rfl, rfl⟩

/-- Nor any mark. -/
theorem marksFrom_zero (A : Slot → Heard → Prop) (i : Slot) : MarksFrom A .zero i :=
  ⟨Or.inl rfl, fun h ↦ by cases h⟩

/-- Provenance is monotone in what is accepted. -/
theorem ValuesFrom.mono (h : ValuesFrom A n i) (hAB : ∀ p, A i p → B i p) : ValuesFrom B n i := by
  obtain hzero | ⟨p, hp, hvalues⟩ := h
  · exact Or.inl hzero
  · exact Or.inr ⟨p, hAB p hp, hvalues⟩

/-- For the marks too. -/
theorem MarksFrom.mono (h : MarksFrom A n i) (hAB : ∀ p, A i p → B i p) : MarksFrom B n i := by
  obtain ⟨hrssi, hheard⟩ := h
  refine ⟨?_, fun hi ↦ ?_⟩
  · obtain hzero | ⟨p, hp, hvalue⟩ := hrssi
    · exact Or.inl hzero
    · exact Or.inr ⟨p, hAB p hp, hvalue⟩
  · obtain ⟨p, hp⟩ := hheard hi
    exact ⟨p, hAB p hp⟩

/-- Storing under another slot leaves this one's value where it came from. -/
theorem ValuesFrom.store_of_ne (h : ValuesFrom A n i) {j : Slot} (hij : i ≠ j)
    {p : StatePacketType} : ValuesFrom A (n.store j p) i := by
  rw [ValuesFrom] at h ⊢
  simpa only [NeighborInfo.store, Function.update_of_ne hij] using h

/-- One packet stored where it is allowed. -/
theorem ValuesFrom.store (h : ValuesFrom A n i) {j : Slot} {p : Heard} (hp : A j p) :
    ValuesFrom A (n.store j p.packet) i := by
  by_cases hij : i = j
  · subst hij
    refine Or.inr ⟨p, hp, ?_, ?_, ?_, ?_⟩ <;> exact Function.update_self ..
  · exact h.store_of_ne hij

/-- A stored packet marks its slot from that packet. -/
theorem MarksFrom.store (h : MarksFrom A n i) {j : Slot} {p : Heard} (hp : A j p) :
    MarksFrom A (n.store j p.packet) i := by
  refine ⟨h.1, fun hi ↦ ?_⟩
  by_cases hij : i = j
  · subst hij
    exact ⟨p, hp⟩
  · exact h.2 (by simpa only [NeighborInfo.store, Function.update_of_ne hij] using hi)

/-- A stored strength marks its slot from the same report. -/
theorem MarksFrom.storeRssi (h : MarksFrom A n i) {j : Slot} {p : Heard} (hp : A j p) :
    MarksFrom A (n.storeRssi j p.rssi) i := by
  refine ⟨?_, h.2⟩
  by_cases hij : i = j
  · subst hij
    exact Or.inr ⟨p, hp, Function.update_self ..⟩
  · simpa only [NeighborInfo.storeRssi, Function.update_of_ne hij] using h.1

variable {K : Type*} {a : Agent K} {info : NeighborInfo}

/-- Absorbing a snapshot: the values are the snapshot's or still the agent's. -/
theorem ValuesFrom.absorb (ha : ValuesFrom A a.received i) (hinfo : ValuesFrom A info i) :
    ValuesFrom A (absorbNeighbors a info).received i := by
  rw [absorbNeighbors]
  split_ifs
  · exact ha
  · exact hinfo

/-- The agent's marks come from where the snapshot's do. -/
theorem MarksFrom.absorb (ha : MarksFrom A a.received i) (hinfo : MarksFrom A info i) :
    MarksFrom A (absorbNeighbors a info).received i := by
  rw [absorbNeighbors]
  split_ifs
  · exact ha
  · refine ⟨hinfo.1, fun hi ↦ ?_⟩
    by_cases hused : i.val < a.params.nNeighbors.val
    · exact hinfo.2 ((if_pos hused).symm.trans hi)
    · exact ha.2 ((if_neg hused).symm.trans hi)

end Provenance

end VertexTestbed.Firmware
