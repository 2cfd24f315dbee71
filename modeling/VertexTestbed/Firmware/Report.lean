import VertexTestbed.Firmware.CoordinationTask

/-!
# What leaves the board

The two places a running board's state is sent from: `report_state` (`report.c`), the STATE payload
to the host, and `on_air_packet` (`main.c`), the packet handed to the broadcaster.

Under the scalar law neither they nor the law look at the microgrid block. `Board.view` erases what
is not looked at; `discreteStep_view`, `reportState_view` and `onAirPacket_view` say that nothing
the board does depends on more than its view.
-/

namespace VertexTestbed.Firmware

variable {K : Type*} [Field K] [LinearOrder K] [IsStrictOrderedRing K] [FloorRing K]

/-! ### The STATE report -/

/-- `STATE_FLAG_ENABLED`. -/
def stateFlagEnabled : UInt8 := 0x01

/-- `STATE_FLAG_FRESH`. -/
def stateFlagFresh : UInt8 := 0x02

/-- `proto_st_u32((uint32_t)v)`. -/
def protoStI32 (v : ℤ) : Bytes :=
  leBytes 4 (v % 2 ^ 32).toNat

/-- The record of one neighbour: value, sequence number, RSSI and flags. -/
def stateNeighbour (a : Agent K) (fresh : Slot → Bool) (i : Slot) : Bytes :=
  protoStI32 (a.vars.neighborVstates i) ++ leBytes 2 (a.vars.neighborSeq i).toNat ++
    [(a.vars.neighborRssi i).toUInt8,
      (if a.params.neighborsEnabled i then stateFlagEnabled else 0) |||
        (if fresh i then stateFlagFresh else 0)]

/-- The payload of `report_state` at an uptime, for the fresh mask it has just cleared; `none` while
the board is not running. -/
def reportState (a : Agent K) (uptimeUs : ℤ) (fresh : Slot → Bool) : Option Bytes :=
  if !a.params.running then none
  else
    some
      (leBytes 8 (max 0 (uptimeUs - a.vars.timeUs)).toNat ++ protoStI32 a.vars.state ++
        protoStI32 a.vars.vstate ++ protoStI32 a.vars.vartheta ++ protoStI32 a.vars.counter ++
        [UInt8.ofNat a.params.nNeighbors.val] ++ a.params.slots.flatMap (stateNeighbour a fresh) ++
        (if a.params.law ≠ .finiteTimeAdaptive then
          protoStI32 a.vars.stateQ ++ protoStI32 a.vars.vstateQ
        else []) ++
        (if a.params.law = .microgridLC then
          protoStI32 (roundHalfEven (a.vars.mg.S1_hat * scaleFactor)) ++
            protoStI32 (roundHalfEven (a.vars.mg.S2_hat * scaleFactor))
        else []))

/-! ### Its layout -/

/-- What comes ahead of the neighbour records. -/
def stateHeader (a : Agent K) (uptimeUs : ℤ) : Bytes :=
  leBytes 8 (max 0 (uptimeUs - a.vars.timeUs)).toNat ++ (protoStI32 a.vars.state ++
    (protoStI32 a.vars.vstate ++ (protoStI32 a.vars.vartheta ++ (protoStI32 a.vars.counter ++
      [UInt8.ofNat a.params.nNeighbors.val]))))

/-- What comes behind them. -/
def stateTail (a : Agent K) : Bytes :=
  (if a.params.law ≠ .finiteTimeAdaptive then
    protoStI32 a.vars.stateQ ++ protoStI32 a.vars.vstateQ
  else []) ++
  (if a.params.law = .microgridLC then
    protoStI32 (roundHalfEven (a.vars.mg.S1_hat * scaleFactor)) ++
      protoStI32 (roundHalfEven (a.vars.mg.S2_hat * scaleFactor))
  else [])

/-- An integer takes four bytes. -/
@[simp]
theorem protoStI32_length (v : ℤ) : (protoStI32 v).length = 4 :=
  leBytes_length _ _

/-- An integer is written modulo `2 ^ 32`. -/
@[simp]
theorem leInt_protoStI32 (v : ℤ) : leInt (protoStI32 v) = wrapI32 v := by
  have hnonneg : 0 ≤ v % 2 ^ 32 := Int.emod_nonneg v (by norm_num)
  have hlt : v % 2 ^ 32 < 2 ^ 32 := Int.emod_lt_of_pos v (by norm_num)
  have hfits : (v % 2 ^ 32).toNat < 256 ^ 4 := by omega
  have hpow : ((2 : ℤ) ^ 32) = ((256 ^ 4 : ℕ) : ℤ) := by norm_num
  rw [leInt, protoStI32_length, protoStI32, leNat_leBytes_of_lt hfits,
    Int.toNat_of_nonneg hnonneg, wrapI32, hpow, Int.emod_bmod]
  norm_num

omit [Field K] [LinearOrder K] [IsStrictOrderedRing K] [FloorRing K] in
/-- A neighbour's record takes eight bytes. -/
theorem stateNeighbour_length (a : Agent K) (fresh : Slot → Bool) (j : Slot) :
    (stateNeighbour a fresh j).length = 8 := by
  simp [stateNeighbour]

omit [Field K] [LinearOrder K] [IsStrictOrderedRing K] [FloorRing K] in
/-- The header takes 25. -/
theorem stateHeader_length (a : Agent K) (uptimeUs : ℤ) : (stateHeader a uptimeUs).length = 25 := by
  simp [stateHeader]

omit [Field K] [LinearOrder K] [IsStrictOrderedRing K] [FloorRing K] in
/-- The records take eight for each neighbour. -/
theorem stateRecords_length (a : Agent K) (fresh : Slot → Bool) :
    (a.params.slots.flatMap (stateNeighbour a fresh)).length = a.params.nNeighbors.val * 8 := by
  simp [List.length_flatMap, stateNeighbour_length, slots_length]

omit [IsStrictOrderedRing K] in
/-- The tail takes what its law reports. -/
theorem stateTail_length (a : Agent K) :
    (stateTail a).length = if a.params.law = .finiteTimeAdaptive then 0
      else if a.params.law = .microgridLC then 16 else 8 := by
  rcases hlaw : a.params.law with _ | _ | _
  · simp [stateTail, hlaw]
  · simp [stateTail, hlaw]
  · simp [stateTail, hlaw]

omit [IsStrictOrderedRing K] in
/-- A payload is a header, the records and a tail. -/
theorem reportState_eq {a : Agent K} {uptimeUs : ℤ} {fresh : Slot → Bool} {payload : Bytes}
    (h : reportState a uptimeUs fresh = some payload) :
    payload = stateHeader a uptimeUs ++
      (a.params.slots.flatMap (stateNeighbour a fresh) ++ stateTail a) := by
  have hrun : ¬(!a.params.running) = true := by
    intro hstopped
    rw [reportState, if_pos hstopped] at h
    cases h
  rw [reportState, if_neg hrun] at h
  rw [← Option.some.inj h, stateHeader, stateTail]
  simp only [List.append_assoc]

/-! ### The packet on the air -/

/-- `state_packet_type`. -/
structure StatePacketType where
  node : UInt8
  enabled : Bool
  disturbanceOn : Bool
  seq : UInt16
  vstate : ℤ
  vstateQ : ℤ
  coords : ℕ
  txTimeUs : ℕ
  deriving DecidableEq

/-- `on_air_packet`: how many coordinates go out follows from the law. -/
def onAirPacket (a : Agent K) (uptimeUs : ℤ) : StatePacketType :=
  let two := decide (a.params.law ≠ .finiteTimeAdaptive)
  { node := a.params.nodeId
    enabled := a.params.enabled
    disturbanceOn := a.params.disturbance.active
    seq := a.vars.txSeq
    vstate := a.vars.vstate
    vstateQ := if two then lrintI32 (a.vars.mg.zQ * scaleFactor) else 0
    coords := if two then 2 else 1
    txTimeUs :=
      if a.params.epochUs ≠ 0 then
        (a.params.epochUs + (max 0 (uptimeUs - a.vars.timeUs)).toNat) % 2 ^ 64
      else 0 }

/-! ### What the board looks at -/

/-- The integrators a scalar run leaves alone, at rest. -/
def MicrogridVars.zero : MicrogridVars K :=
  ⟨0, 0, 0, 0, 0, 0, 0, 0, 0, 0, 0, .none, 0⟩

/-- An agent without its microgrid block, integrators and second coordinates. -/
def Agent.scalarView (a : Agent K) : Agent K where
  params := { a.params with microgrid := .zero }
  vars := { a.vars with mg := .zero, stateQ := 0, vstateQ := 0 }

/-- **Everything that the selected law, `report_state` and `on_air_packet` read**: the whole board
under a microgrid law, the board without its microgrid block under the scalar one. -/
def Board.view (b : Board K) : Board K :=
  if b.agent.params.law = .finiteTimeAdaptive then { b with agent := b.agent.scalarView } else b

section View

variable {b : Board K}

omit [LinearOrder K] [IsStrictOrderedRing K] [FloorRing K] in
/-- Under the scalar law the view leaves out the microgrid. -/
theorem Board.view_of_scalar (h : b.agent.params.law = .finiteTimeAdaptive) :
    b.view = { b with agent := b.agent.scalarView } :=
  if_pos h

omit [LinearOrder K] [IsStrictOrderedRing K] [FloorRing K] in
/-- Under a microgrid law it is the whole board. -/
theorem Board.view_of_microgrid (h : b.agent.params.law ≠ .finiteTimeAdaptive) : b.view = b :=
  if_neg h

omit [LinearOrder K] [IsStrictOrderedRing K] [FloorRing K] in
/-- The view has the law of the board. -/
@[simp]
theorem Board.view_law (b : Board K) : b.view.agent.params.law = b.agent.params.law := by
  rw [Board.view]
  split_ifs <;> rfl

/-- One control period reads the view only. -/
theorem discreteStep_view (lib : Libm K) (b : Board K) :
    (discreteStep lib b).view = discreteStep lib b.view := by
  by_cases h : b.agent.params.law = .finiteTimeAdaptive
  · have hstep : (scalarStep lib b).agent.params.law = .finiteTimeAdaptive := h
    have hview : b.view.agent.params.law = .finiteTimeAdaptive := by
      rw [Board.view_of_scalar h]
      exact h
    rw [discreteStep_of_scalar lib b h, discreteStep_of_scalar lib b.view hview,
      Board.view_of_scalar hstep, Board.view_of_scalar h]
    rfl
  · have hstep : (discreteStep lib b).agent.params.law ≠ .finiteTimeAdaptive := by
      rwa [discreteStep_params]
    rw [Board.view_of_microgrid hstep, Board.view_of_microgrid h]

omit [IsStrictOrderedRing K] in
/-- A report reads the view only. -/
theorem reportState_view (b : Board K) (uptimeUs : ℤ) (fresh : Slot → Bool) :
    reportState b.view.agent uptimeUs fresh = reportState b.agent uptimeUs fresh := by
  by_cases h : b.agent.params.law = .finiteTimeAdaptive
  · have hview : b.agent.scalarView.params.law = .finiteTimeAdaptive := h
    rw [Board.view_of_scalar h, reportState, reportState, if_neg (not_not.2 hview),
      if_neg (not_not.2 h), hview, h]
    rfl
  · rw [Board.view_of_microgrid h]

omit [IsStrictOrderedRing K] in
/-- A packet reads the view only. -/
theorem onAirPacket_view (b : Board K) (uptimeUs : ℤ) :
    onAirPacket b.view.agent uptimeUs = onAirPacket b.agent uptimeUs := by
  by_cases h : b.agent.params.law = .finiteTimeAdaptive
  · have hview : b.agent.scalarView.params.law = .finiteTimeAdaptive := h
    rw [Board.view_of_scalar h, onAirPacket, onAirPacket, hview, h]
    rfl
  · rw [Board.view_of_microgrid h]

/-- Any number of control periods read the view only. -/
theorem iterate_discreteStep_view (lib : Libm K) (n : ℕ) (b : Board K) :
    ((discreteStep lib)^[n] b).view = (discreteStep lib)^[n] b.view :=
  (Function.Semiconj.iterate_right (discreteStep_view lib) n).eq b

/-- **A board shows its view**: what it reports and transmits behind any number of control periods
is what its view does. -/
theorem shows_of_view {shown : Board K} (h : b.view = shown) (lib : Libm K) (n : ℕ)
    (uptimeUs : ℤ) :
    (∀ fresh, reportState ((discreteStep lib)^[n] b).agent uptimeUs fresh =
        reportState ((discreteStep lib)^[n] shown).agent uptimeUs fresh) ∧
      onAirPacket ((discreteStep lib)^[n] b).agent uptimeUs =
        onAirPacket ((discreteStep lib)^[n] shown).agent uptimeUs := by
  have hview := iterate_discreteStep_view lib n b
  rw [h] at hview
  rw [← hview]
  exact ⟨fun fresh ↦ (reportState_view _ uptimeUs fresh).symm, (onAirPacket_view _ uptimeUs).symm⟩

end View

end VertexTestbed.Firmware
