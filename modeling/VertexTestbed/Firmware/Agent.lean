import VertexTestbed.Firmware.CoordinationTask
import VertexTestbed.Firmware.Proto

/-!
# Configuration frames into `struct agent`

`agent.c`. Each `apply_*` returns the code the source returns and the agent it leaves behind; a
payload is a byte string and its length is the `len` argument. `apply_mg_plant` and
`apply_mg_virtual` store their fields **before** their last check, so on that path the agent they
leave behind is not the one they were given; `storeMgPlant` and `storeMgVirtual` are those stores.

`agentApplyFrame` works on a `Board`, since `apply_control` also seeds the generator.
-/

namespace VertexTestbed.Firmware

/-! ### Return codes and presence bits -/

/-- `AGENT_OK`. -/
def agentOk : ℤ := 0

/-- `AGENT_ERR_LEN`. -/
def agentErrLen : ℤ := -1

/-- `AGENT_ERR_RANGE`. -/
def agentErrRange : ℤ := -2

/-- `AGENT_ERR_TYPE`. -/
def agentErrType : ℤ := -3

theorem agentErrLen_neg : agentErrLen < 0 := by decide

theorem agentErrRange_neg : agentErrRange < 0 := by decide

theorem agentErrType_neg : agentErrType < 0 := by decide

theorem agentOk_not_neg : ¬ agentOk < 0 := by decide

/-- `MG_BLOCK_PLANT`. -/
def mgBlockPlant : UInt8 := 0x01

/-- `MG_BLOCK_VIRTUAL`. -/
def mgBlockVirtual : UInt8 := 0x02

/-- `need`, the two presence bits MG_IFACE asks for. -/
def mgBlockNeed : UInt8 := mgBlockPlant ||| mgBlockVirtual

variable {K : Type*}

/-- The agent with its microgrid block and presence bits replaced. -/
def Agent.withMicrogrid (a : Agent K) (m : MicrogridParams) (blocks : UInt8) : Agent K :=
  { a with params := { a.params with microgrid := m, mgBlocks := blocks } }

@[simp]
theorem Agent.withMicrogrid_vars (a : Agent K) (m : MicrogridParams) (blocks : UInt8) :
    (a.withMicrogrid m blocks).vars = a.vars := rfl

@[simp]
theorem Agent.withMicrogrid_microgrid (a : Agent K) (m : MicrogridParams)
    (blocks : UInt8) : (a.withMicrogrid m blocks).params.microgrid = m := rfl

@[simp]
theorem Agent.withMicrogrid_mgBlocks (a : Agent K) (m : MicrogridParams)
    (blocks : UInt8) : (a.withMicrogrid m blocks).params.mgBlocks = blocks := rfl

@[simp]
theorem Agent.withMicrogrid_law (a : Agent K) (m : MicrogridParams) (blocks : UInt8) :
    (a.withMicrogrid m blocks).params.law = a.params.law := rfl

@[simp]
theorem Agent.withMicrogrid_dt (a : Agent K) (m : MicrogridParams) (blocks : UInt8) :
    (a.withMicrogrid m blocks).params.dt = a.params.dt := rfl

/-- Replacing the block leaves the agent alone exactly when both values are the ones it holds. -/
theorem Agent.withMicrogrid_eq_self_iff {a : Agent K} {m : MicrogridParams} {blocks : UInt8} :
    a.withMicrogrid m blocks = a ↔ m = a.params.microgrid ∧ blocks = a.params.mgBlocks := by
  constructor
  · intro h
    constructor
    · rw [← congrArg (fun a : Agent K ↦ a.params.microgrid) h, a.withMicrogrid_microgrid]
    · rw [← congrArg (fun a : Agent K ↦ a.params.mgBlocks) h, a.withMicrogrid_mgBlocks]
  · rintro ⟨rfl, rfl⟩
    rfl

/-! ### The handlers -/

/-- The stores of `apply_network`, for a list of `n` neighbours: the law and the presence bits are
re-declared with it. -/
def storeNetwork (p : AgentParams) (d : Bytes) (n : Fin (agentMaxNeighbors + 1)) : AgentParams :=
  { p with
    law := .finiteTimeAdaptive
    mgBlocks := 0
    enabled := byteAt d 0 == 1
    nodeId := byteAt d 1
    nNeighbors := n
    neighborsId := fun i ↦ if i.val < n.val then byteAt d (i.val + protoNetworkMinLen) else 0 }

/-- `apply_network`. -/
def applyNetwork (a : Agent K) (d : Bytes) : ℤ × Agent K :=
  if d.length < protoNetworkMinLen then (agentErrLen, a)
  else if h : agentMaxNeighbors < d.length - protoNetworkMinLen then (agentErrRange, a)
  else if byteAt d 1 = 0 then (agentErrRange, a)
  else
    (agentOk,
      { a with
        params := storeNetwork a.params d ⟨d.length - protoNetworkMinLen, by omega⟩ })

/-- The stores of `apply_algorithm`. -/
def storeAlgorithm (p : AgentParams) (d : Bytes) : AgentParams :=
  { p with
    dt := protoLdI32 d 0
    clock := protoLdI32 d 4
    state_0 := protoLdI32 d 8
    vstate_0 := protoLdI32 d 12
    vartheta_0 := protoLdI32 d 16
    counter_0 := protoLdI32 d 20
    gain_ij := protoLdI32 d 24
    delta := protoLdI32 d 28
    eta := protoLdI32 d 32
    alpha := protoLdI32 d 36 }

/-- `apply_algorithm`. -/
def applyAlgorithm (a : Agent K) (d : Bytes) : ℤ × Agent K :=
  if d.length ≠ protoAlgorithmLen then (agentErrLen, a)
  else if protoLdI32 d 0 ≤ 0 ∨ protoLdI32 d 4 ≤ 0 then (agentErrRange, a)
  else (agentOk, { a with params := storeAlgorithm a.params d })

/-- The stores of `apply_mg_plant`. -/
def storeMgPlant (m : MicrogridParams) (d : Bytes) : MicrogridParams :=
  { m with
    profile := byteAt d 0
    kappa := protoLdI32 d 1
    S1 := protoLdI32 d 5
    S2 := protoLdI32 d 9
    p_max := protoLdI32 d 13
    q_max := protoLdI32 d 17
    X0_P := protoLdI32 d 21
    X0_Q := protoLdI32 d 25 }

/-- The range check of `apply_mg_plant`, on the stored block. -/
def mgPlantBad (m : MicrogridParams) : Prop :=
  m.kappa ≤ 0 ∨ m.p_max ≤ 0 ∨ m.q_max ≤ 0

instance (m : MicrogridParams) : Decidable (mgPlantBad m) :=
  inferInstanceAs (Decidable (_ ∨ _))

/-- `apply_mg_plant`: the stores come first, the check second. -/
def applyMgPlant (a : Agent K) (d : Bytes) : ℤ × Agent K :=
  if d.length ≠ protoMgPlantLen then (agentErrLen, a)
  else
    let m := storeMgPlant a.params.microgrid d
    if mgPlantBad m then
      (agentErrRange, a.withMicrogrid m (a.params.mgBlocks &&& ~~~mgBlockPlant))
    else (agentOk, a.withMicrogrid m (a.params.mgBlocks ||| mgBlockPlant))

/-- The stores of `apply_mg_virtual`. -/
def storeMgVirtual (m : MicrogridParams) (d : Bytes) : MicrogridParams :=
  { m with
    T_o := protoLdI32 d 0
    alpha_0 := protoLdI32 d 4
    delta_o := protoLdI32 d 8
    kappa_o := protoLdI32 d 12
    xi := protoLdI32 d 16
    c_0 := protoLdI32 d 20
    b := protoLdI32 d 24
    rP := protoLdI32 d 28
    rQ := protoLdI32 d 32
    degree := protoLdI32 d 36
    z0_P := protoLdI32 d 40
    z0_Q := protoLdI32 d 44 }

/-- The check of `apply_mg_virtual`: an unpinned node was sent the reference. -/
def mgVirtualBad (m : MicrogridParams) : Prop :=
  m.b = 0 ∧ (m.rP ≠ 0 ∨ m.rQ ≠ 0)

instance (m : MicrogridParams) : Decidable (mgVirtualBad m) :=
  inferInstanceAs (Decidable (_ ∧ _))

/-- `apply_mg_virtual`: the stores come first, the check second. -/
def applyMgVirtual (a : Agent K) (d : Bytes) : ℤ × Agent K :=
  if d.length ≠ protoMgVirtualLen then (agentErrLen, a)
  else
    let m := storeMgVirtual a.params.microgrid d
    if mgVirtualBad m then
      (agentErrRange, a.withMicrogrid m (a.params.mgBlocks &&& ~~~mgBlockVirtual))
    else (agentOk, a.withMicrogrid m (a.params.mgBlocks ||| mgBlockVirtual))

/-- `(enum control_law)d[0]`, for the two bytes MG_IFACE accepts. -/
def ifaceLaw (byte : UInt8) : Option ControlLaw :=
  if byte = 1 then some .microgridAdaptive
  else if byte = 2 then some .microgridLC
  else none

/-- The stores of `apply_mg_iface`. -/
def storeMgIface (m : MicrogridParams) (d : Bytes) : MicrogridParams :=
  { m with
    terminal := byteAt d 1
    mu_max := protoLdI32 d 2
    gamma := protoLdI32 d 6
    eps := protoLdI32 d 10
    vartheta_0 := protoLdI32 d 14
    T_c := protoLdI32 d 18
    beta_c := protoLdI32 d 22
    Phi := protoLdI32 d 26
    delta_c := protoLdI32 d 30
    adapt_band := protoLdI32 d 34 }

/-- The stores of `apply_disturbance`. -/
def storeDisturbance (d : Bytes) : DisturbanceParams where
  active := byteAt d 0 == 1
  sineAmplitude := protoLdI32 d 1
  frequency := protoLdI32 d 5
  phase := protoLdI32 d 9
  noiseAmplitude := protoLdI32 d 13
  noiseOffset := protoLdI32 d 17
  beta := protoLdI32 d 21
  samples := protoLdI32 d 25

/-- `apply_disturbance`. -/
def applyDisturbance (a : Agent K) (d : Bytes) : ℤ × Agent K :=
  if d.length ≠ protoDisturbanceLen then (agentErrLen, a)
  else if protoLdI32 d 25 ≤ 0 then (agentErrRange, a)
  else (agentOk, { a with params := { a.params with disturbance := storeDisturbance d } })

section Field

variable [Field K] [LinearOrder K] [IsStrictOrderedRing K] [FloorRing K]

/-- `apply_mg_iface`: the commit of the microgrid set. -/
def applyMgIface (a : Agent K) (d : Bytes) : ℤ × Agent K :=
  if d.length ≠ protoMgIfaceLen then (agentErrLen, a)
  else
    match ifaceLaw (byteAt d 0) with
    | none => (agentErrRange, a)
    | some law =>
      if a.params.mgBlocks &&& mgBlockNeed ≠ mgBlockNeed then (agentErrRange, a)
      else
        (agentOk,
          microgridReset
            { a with
              params :=
                { a.params with
                  microgrid := storeMgIface a.params.microgrid d
                  law := law } })

/-- The agent a CONTROL start leaves behind, before a microgrid law resets its integrators. -/
def controlLatch (a : Agent K) (d : Bytes) (nowUs : ℤ) : Agent K :=
  { params :=
      { a.params with
        seed := protoLdU32 d 1
        epochUs := protoLdU48 d 5
        running := true
        firstTimeRunning := true
        allNeighborsObserved := false
        availableNeighbors := fun _ ↦ false
        neighborsEnabled := fun _ ↦ false }
    vars :=
      { a.vars with
        neighborVstates := fun _ ↦ 0
        neighborVstatesQ := fun _ ↦ 0
        neighborSeq := fun _ ↦ 0
        neighborRssi := fun _ ↦ 0
        state := a.params.state_0
        vstate := a.params.vstate_0
        vartheta := a.params.vartheta_0
        counter := a.params.counter_0
        timeUs := nowUs
        txSeq := 0
        stateF := (a.params.state_0 : K) * invScaleFactor
        vstateF := (a.params.vstate_0 : K) * invScaleFactor
        varthetaF := (a.params.vartheta_0 : K) * invScaleFactor } }

/-- `apply_control`: a start latches initial conditions and seeds the generator, anything else
stops. -/
def applyControl (b : Board K) (d : Bytes) (nowUs : ℤ) : ℤ × Board K :=
  if d.length ≠ protoControlLen then (agentErrLen, b)
  else if byteAt d 0 = 1 then
    let a := controlLatch b.agent d nowUs
    (agentOk,
      { agent := if a.params.law ≠ .finiteTimeAdaptive then microgridReset a else a
        prng := prngSeed (UInt64.ofNat a.params.seed) a.params.nodeId.toUInt64 })
  else
    (agentOk,
      { b with
        agent :=
          { b.agent with
            params := { b.agent.params with running := false, firstTimeRunning := false } } })

/-- A handler that leaves the generator alone. -/
def onAgent (b : Board K) (r : ℤ × Agent K) : ℤ × Board K :=
  (r.1, { b with agent := r.2 })

/-- `agent_apply_frame`. -/
def agentApplyFrame (b : Board K) (type : UInt8) (payload : Bytes) (nowUs : ℤ) : ℤ × Board K :=
  if type = protoTNetwork then onAgent b (applyNetwork b.agent payload)
  else if type = protoTAlgorithm then onAgent b (applyAlgorithm b.agent payload)
  else if type = protoTMgPlant then onAgent b (applyMgPlant b.agent payload)
  else if type = protoTMgVirtual then onAgent b (applyMgVirtual b.agent payload)
  else if type = protoTMgIface then onAgent b (applyMgIface b.agent payload)
  else if type = protoTDisturbance then onAgent b (applyDisturbance b.agent payload)
  else if type = protoTControl then applyControl b payload nowUs
  else (agentErrType, b)

end Field

end VertexTestbed.Firmware
