import VertexTestbed.Firmware.Agent
import VertexTestbed.Firmware.Report
import VertexTestbed.Host.Relay

/-!
# A configure, from the assignment to the board

The frames of `assignment_to_frames`, fed in order to `agent_apply_frame`. `configuredBoard` is the
board an assignment asks for: every field of it is the quantized value of the assignment's field, or
the constant the relay sends for a field of the family that is not selected. It mentions no earlier
state of the board.

**What the frames leave behind does not depend on the board they found**
(`applyFrames_view`), and it is the board asked for, with one exception: the relay sends `T_c` only
to the LC law, while the board's watchdog reads it under either.
-/

namespace VertexTestbed.Conformance

open Firmware Host

variable {K : Type*} [Field K] [LinearOrder K] [IsStrictOrderedRing K] [FloorRing K]

/-! ### Feeding frames -/

/-- The frames of a configure, each with the uptime it is applied at, fed one by one; `none` as soon
as the board refuses one. -/
def applyFrames (b : Board K) : List (OutFrame × ℤ) → Option (Board K)
  | [] => some b
  | (f, nowUs) :: rest =>
    let r := agentApplyFrame b f.1.value f.2 nowUs
    if r.1 < 0 then none else applyFrames r.2 rest

/-- A frame that is accepted leaves the rest to be applied. -/
theorem applyFrames_cons_ok {b b₁ : Board K} {type : FrameType} {d : Bytes} {nowUs : ℤ}
    {rest : List (OutFrame × ℤ)} (h : agentApplyFrame b type.value d nowUs = (agentOk, b₁)) :
    applyFrames b (((type, d), nowUs) :: rest) = applyFrames b₁ rest := by
  rw [applyFrames]
  simp only [h]
  exact if_neg agentOk_not_neg

/-! ### The board an assignment asks for -/

/-- The law an assignment selects. -/
def selectedLaw (a : AgentAssignment K) : ControlLaw :=
  match a.microgrid with
  | none => .finiteTimeAdaptive
  | some m => if m.isLC then .microgridLC else .microgridAdaptive

/-- The deadline a microgrid assignment is held to: the LC interface's own, else the one carried
beside the blocks. -/
def deadline (m : MicrogridDict K) : K :=
  if m.isLC then m.interface.T_c.getD 0 else m.T_c.getD 0

/-- The microgrid block of an assignment, for a given value of `T_c`. -/
def configuredMicrogrid (m : MicrogridDict K) (T_c : ℤ) : MicrogridParams where
  kappa := quantize m.plant.kappa
  S1 := quantize m.plant.S1
  S2 := quantize m.plant.S2
  p_max := quantize m.plant.p_max
  q_max := quantize m.plant.q_max
  profile := if m.plant.profile = "rep" then 0 else 1
  T_o := roundMs m.virtual.T_o
  alpha_0 := quantize m.virtual.alpha_0
  delta_o := roundMs m.virtual.delta_o
  kappa_o := quantize m.virtual.kappa_o
  xi := quantize m.virtual.xi
  c_0 := quantize m.virtual.c_0
  b := quantize m.virtual.b
  rP := quantize m.virtual.rP
  rQ := quantize m.virtual.rQ
  degree := m.degree
  mu_max := quantize m.interface.mu_max
  gamma := if m.isLC then 0 else quantize (m.interface.gamma.getD 0)
  eps := if m.isLC then 0 else quantize (m.interface.eps.getD 0)
  vartheta_0 := if m.isLC then 0 else quantize (m.interface.vartheta0.getD 0)
  T_c := T_c
  beta_c := if m.isLC then quantize (m.interface.beta_c.getD 0) else 0
  Phi := if m.isLC then quantize (m.interface.Phi.getD 0) else 0
  delta_c := if m.isLC then roundMs (m.interface.delta_c.getD 0) else 0
  adapt_band := if m.isLC then (m.interface.adapt_band.map quantize).getD (-1) else -1
  terminal := if m.isLC ∧ m.interface.terminal = some true then 1 else 0
  X0_P := quantize m.state0_P
  X0_Q := quantize m.state0_Q
  z0_P := quantize m.vstate0_P
  z0_Q := quantize m.vstate0_Q

/-- The microgrid block a scalar assignment is viewed with. -/
def configuredBlock (a : AgentAssignment K) (T_c : MicrogridDict K → ℤ) : MicrogridParams :=
  match a.microgrid with
  | none => .zero
  | some m => configuredMicrogrid m (T_c m)

/-- The disturbance block of an assignment, with the relay's defaults. -/
def configuredDisturbance (d : DisturbanceDict K) : DisturbanceParams where
  active := d.enabled.getD false
  sineAmplitude := quantize (d.sine_amplitude.getD 0)
  frequency := quantize (d.sine_frequency_hz.getD 0)
  phase := quantize (d.sine_phase_s.getD 0)
  noiseAmplitude := quantize (d.noise_amplitude.getD 0)
  noiseOffset := quantize (d.noise_offset.getD (1 / 2))
  beta := quantize (d.beta.getD 0)
  samples := d.period_samples.getD 1000

/-- The parameters of a triggered run of an assignment. -/
def configuredParams (a : AgentAssignment K) (hn : a.neighbors.length ≤ agentMaxNeighbors)
    (epoch_us : ℤ) (T_c : MicrogridDict K → ℤ) : AgentParams where
  enabled := a.enabled
  running := true
  firstTimeRunning := true
  allNeighborsObserved := false
  nodeId := UInt8.ofNat a.node_id.toNat
  nNeighbors := ⟨a.neighbors.length, Nat.lt_succ_of_le hn⟩
  neighborsId := fun i ↦ UInt8.ofNat (a.neighbors.getD i 0).toNat
  availableNeighbors := fun _ ↦ false
  neighborsEnabled := fun _ ↦ false
  dt := roundMs a.dt_s
  clock := roundMs a.publish_period_s
  state_0 := quantize a.state
  vstate_0 := quantize a.vstate
  vartheta_0 := quantize a.vartheta
  counter_0 := 0
  gain_ij := quantize a.gain_ij
  alpha := quantize a.alpha
  delta := quantize a.delta
  eta := quantize a.eta
  seed := (a.disturbance_seed % 2 ^ 32).toNat
  epochUs := epoch_us.toNat
  law := selectedLaw a
  mgBlocks := if a.microgrid.isSome then mgBlockNeed else 0
  disturbance := configuredDisturbance a.disturbance
  microgrid := configuredBlock a T_c

/-- The variables of a run that has just been triggered: initial conditions latched, nothing heard,
the microgrid integrators at rest. -/
def triggeredVars (p : AgentParams) (nowUs : ℤ) : AgentVars K where
  state := p.state_0
  vstate := p.vstate_0
  vartheta := p.vartheta_0
  counter := p.counter_0
  timeUs := nowUs
  neighborSeq := fun _ ↦ 0
  neighborRssi := fun _ ↦ 0
  txSeq := 0
  stateQ := 0
  vstateQ := 0
  neighborVstates := fun _ ↦ 0
  neighborVstatesQ := fun _ ↦ 0
  stateF := (p.state_0 : K) * invScaleFactor
  vstateF := (p.vstate_0 : K) * invScaleFactor
  varthetaF := (p.vartheta_0 : K) * invScaleFactor
  mg := .zero

/-- A triggered run of the parameters `p`: under a microgrid law the integrators start from the
block's initial condition. -/
def triggeredBoard (p : AgentParams) (nowUs : ℤ) : Board K where
  agent :=
    let a : Agent K := ⟨p, triggeredVars p nowUs⟩
    if p.law ≠ .finiteTimeAdaptive then microgridReset a else a
  prng := prngSeed (UInt64.ofNat p.seed) p.nodeId.toUInt64

/-- **The board an assignment asks for**, triggered at `nowUs`. -/
def configuredBoard (a : AgentAssignment K) (hn : a.neighbors.length ≤ agentMaxNeighbors)
    (epoch_us nowUs : ℤ) : Board K :=
  triggeredBoard (configuredParams a hn epoch_us fun m ↦ roundMs (deadline m)) nowUs

/-! ### Decoding the encoders' payloads -/

omit [Field K] [LinearOrder K] [IsStrictOrderedRing K] [FloorRing K] in
/-- The `k`-th int32 of a packed row, read at its offset behind a header. -/
theorem protoLdI32_packed (head : Bytes) {vs : List ℤ} {row : Bytes}
    (h : packInts 4 vs = some row) (k : ℕ) (hk : k < vs.length) :
    protoLdI32 (head ++ row) (head.length + 4 * k) = vs[k] := by
  have hlen := packInts_length h
  rw [protoLdI32_eq_leInt, leInt_fieldAt_packInts h hk]
  rw [fieldAt_append_right (Nat.le_add_right _ _), Nat.add_sub_cancel_left, fieldAt,
    List.length_take, List.length_drop]
  omega

omit [Field K] [LinearOrder K] [IsStrictOrderedRing K] [FloorRing K] in
@[simp]
theorem flagByte_beq_one (flag : Bool) : (flagByte flag == 1) = flag := by
  cases flag <;> decide

omit [Field K] [LinearOrder K] [IsStrictOrderedRing K] [FloorRing K] in
/-- The stores of `apply_algorithm` on an encoded payload. -/
theorem storeAlgorithm_encoded {f : AlgorithmFields} {d : Bytes}
    (h : packInts 4 [f.dt_ms, f.clock_ms, f.state0, f.vstate0, f.vartheta0, f.counter0, f.gain_ij,
      f.delta, f.eta, f.alpha] = some d) (p : AgentParams) :
    storeAlgorithm p d =
      { p with
        dt := f.dt_ms
        clock := f.clock_ms
        state_0 := f.state0
        vstate_0 := f.vstate0
        vartheta_0 := f.vartheta0
        counter_0 := f.counter0
        gain_ij := f.gain_ij
        delta := f.delta
        eta := f.eta
        alpha := f.alpha } := by
  have ld := protoLdI32_packed [] h
  have h0 : protoLdI32 d 0 = f.dt_ms := ld 0 (by simp)
  have h1 : protoLdI32 d 4 = f.clock_ms := ld 1 (by simp)
  have h2 : protoLdI32 d 8 = f.state0 := ld 2 (by simp)
  have h3 : protoLdI32 d 12 = f.vstate0 := ld 3 (by simp)
  have h4 : protoLdI32 d 16 = f.vartheta0 := ld 4 (by simp)
  have h5 : protoLdI32 d 20 = f.counter0 := ld 5 (by simp)
  have h6 : protoLdI32 d 24 = f.gain_ij := ld 6 (by simp)
  have h7 : protoLdI32 d 28 = f.delta := ld 7 (by simp)
  have h8 : protoLdI32 d 32 = f.eta := ld 8 (by simp)
  have h9 : protoLdI32 d 36 = f.alpha := ld 9 (by simp)
  rw [storeAlgorithm, h0, h1, h2, h3, h4, h5, h6, h7, h8, h9]

omit [Field K] [LinearOrder K] [IsStrictOrderedRing K] [FloorRing K] in
/-- The stores of `apply_disturbance` on an encoded payload. -/
theorem storeDisturbance_encoded {f : DisturbanceFields} {row : Bytes}
    (h : packInts 4 [f.sine_amplitude, f.frequency, f.phase, f.noise_amplitude, f.noise_offset,
      f.beta, f.samples] = some row) :
    storeDisturbance (flagByte f.active :: row) =
      ⟨f.active, f.sine_amplitude, f.frequency, f.phase, f.noise_amplitude, f.noise_offset, f.beta,
        f.samples⟩ := by
  have ld := protoLdI32_packed [flagByte f.active] h
  have h0 : protoLdI32 (flagByte f.active :: row) 1 = f.sine_amplitude := ld 0 (by simp)
  have h1 : protoLdI32 (flagByte f.active :: row) 5 = f.frequency := ld 1 (by simp)
  have h2 : protoLdI32 (flagByte f.active :: row) 9 = f.phase := ld 2 (by simp)
  have h3 : protoLdI32 (flagByte f.active :: row) 13 = f.noise_amplitude := ld 3 (by simp)
  have h4 : protoLdI32 (flagByte f.active :: row) 17 = f.noise_offset := ld 4 (by simp)
  have h5 : protoLdI32 (flagByte f.active :: row) 21 = f.beta := ld 5 (by simp)
  have h6 : protoLdI32 (flagByte f.active :: row) 25 = f.samples := ld 6 (by simp)
  rw [storeDisturbance, h0, h1, h2, h3, h4, h5, h6, byteAt_cons_zero, flagByte_beq_one]

omit [Field K] [LinearOrder K] [IsStrictOrderedRing K] [FloorRing K] in
/-- The stores of `apply_mg_plant` on an encoded payload. -/
theorem storeMgPlant_encoded {f : MgPlantFields} {row : Bytes}
    (h : packInts 4 [f.kappa, f.S1, f.S2, f.p_max, f.q_max, f.X0_P, f.X0_Q] = some row)
    (m : MicrogridParams) :
    storeMgPlant m (f.profile :: row) =
      { m with
        profile := f.profile
        kappa := f.kappa
        S1 := f.S1
        S2 := f.S2
        p_max := f.p_max
        q_max := f.q_max
        X0_P := f.X0_P
        X0_Q := f.X0_Q } := by
  have ld := protoLdI32_packed [f.profile] h
  have h0 : protoLdI32 (f.profile :: row) 1 = f.kappa := ld 0 (by simp)
  have h1 : protoLdI32 (f.profile :: row) 5 = f.S1 := ld 1 (by simp)
  have h2 : protoLdI32 (f.profile :: row) 9 = f.S2 := ld 2 (by simp)
  have h3 : protoLdI32 (f.profile :: row) 13 = f.p_max := ld 3 (by simp)
  have h4 : protoLdI32 (f.profile :: row) 17 = f.q_max := ld 4 (by simp)
  have h5 : protoLdI32 (f.profile :: row) 21 = f.X0_P := ld 5 (by simp)
  have h6 : protoLdI32 (f.profile :: row) 25 = f.X0_Q := ld 6 (by simp)
  rw [storeMgPlant, h0, h1, h2, h3, h4, h5, h6, byteAt_cons_zero]

omit [Field K] [LinearOrder K] [IsStrictOrderedRing K] [FloorRing K] in
/-- The stores of `apply_mg_virtual` on an encoded payload. -/
theorem storeMgVirtual_encoded {f : MgVirtualFields} {d : Bytes}
    (h : packInts 4 [f.T_o, f.alpha_0, f.delta_o, f.kappa_o, f.xi, f.c_0, f.b, f.rP, f.rQ, f.degree,
      f.z0_P, f.z0_Q] = some d) (m : MicrogridParams) :
    storeMgVirtual m d =
      { m with
        T_o := f.T_o
        alpha_0 := f.alpha_0
        delta_o := f.delta_o
        kappa_o := f.kappa_o
        xi := f.xi
        c_0 := f.c_0
        b := f.b
        rP := f.rP
        rQ := f.rQ
        degree := f.degree
        z0_P := f.z0_P
        z0_Q := f.z0_Q } := by
  have ld := protoLdI32_packed [] h
  have h0 : protoLdI32 d 0 = f.T_o := ld 0 (by simp)
  have h1 : protoLdI32 d 4 = f.alpha_0 := ld 1 (by simp)
  have h2 : protoLdI32 d 8 = f.delta_o := ld 2 (by simp)
  have h3 : protoLdI32 d 12 = f.kappa_o := ld 3 (by simp)
  have h4 : protoLdI32 d 16 = f.xi := ld 4 (by simp)
  have h5 : protoLdI32 d 20 = f.c_0 := ld 5 (by simp)
  have h6 : protoLdI32 d 24 = f.b := ld 6 (by simp)
  have h7 : protoLdI32 d 28 = f.rP := ld 7 (by simp)
  have h8 : protoLdI32 d 32 = f.rQ := ld 8 (by simp)
  have h9 : protoLdI32 d 36 = f.degree := ld 9 (by simp)
  have h10 : protoLdI32 d 40 = f.z0_P := ld 10 (by simp)
  have h11 : protoLdI32 d 44 = f.z0_Q := ld 11 (by simp)
  rw [storeMgVirtual, h0, h1, h2, h3, h4, h5, h6, h7, h8, h9, h10, h11]

omit [Field K] [LinearOrder K] [IsStrictOrderedRing K] [FloorRing K] in
/-- The stores of `apply_mg_iface` on an encoded payload. -/
theorem storeMgIface_encoded {f : MgIfaceFields} {row : Bytes}
    (h : packInts 4 [f.mu_max, f.gamma, f.eps, f.vartheta_0, f.T_c, f.beta_c, f.Phi, f.delta_c,
      f.adapt_band] = some row) (m : MicrogridParams) :
    storeMgIface m (f.law :: flagByte f.terminal :: row) =
      { m with
        terminal := flagByte f.terminal
        mu_max := f.mu_max
        gamma := f.gamma
        eps := f.eps
        vartheta_0 := f.vartheta_0
        T_c := f.T_c
        beta_c := f.beta_c
        Phi := f.Phi
        delta_c := f.delta_c
        adapt_band := f.adapt_band } := by
  have ld := protoLdI32_packed [f.law, flagByte f.terminal] h
  have h0 : protoLdI32 (f.law :: flagByte f.terminal :: row) 2 = f.mu_max := ld 0 (by simp)
  have h1 : protoLdI32 (f.law :: flagByte f.terminal :: row) 6 = f.gamma := ld 1 (by simp)
  have h2 : protoLdI32 (f.law :: flagByte f.terminal :: row) 10 = f.eps := ld 2 (by simp)
  have h3 : protoLdI32 (f.law :: flagByte f.terminal :: row) 14 = f.vartheta_0 := ld 3 (by simp)
  have h4 : protoLdI32 (f.law :: flagByte f.terminal :: row) 18 = f.T_c := ld 4 (by simp)
  have h5 : protoLdI32 (f.law :: flagByte f.terminal :: row) 22 = f.beta_c := ld 5 (by simp)
  have h6 : protoLdI32 (f.law :: flagByte f.terminal :: row) 26 = f.Phi := ld 6 (by simp)
  have h7 : protoLdI32 (f.law :: flagByte f.terminal :: row) 30 = f.delta_c := ld 7 (by simp)
  have h8 : protoLdI32 (f.law :: flagByte f.terminal :: row) 34 = f.adapt_band := ld 8 (by simp)
  rw [storeMgIface, h0, h1, h2, h3, h4, h5, h6, h7, h8, byteAt_cons_succ, byteAt_cons_zero]

/-! ### One frame at a time -/

/-- A board with other parameters. -/
def withParams (b : Board K) (p : AgentParams) : Board K :=
  { b with agent := { b.agent with params := p } }

/-- What the NETWORK frame of an assignment configures. -/
def networkParams (a : AgentAssignment K) (hn : a.neighbors.length ≤ agentMaxNeighbors)
    (p : AgentParams) : AgentParams :=
  { p with
    law := .finiteTimeAdaptive
    mgBlocks := 0
    enabled := a.enabled
    nodeId := UInt8.ofNat a.node_id.toNat
    nNeighbors := ⟨a.neighbors.length, Nat.lt_succ_of_le hn⟩
    neighborsId := fun i ↦ UInt8.ofNat (a.neighbors.getD i 0).toNat }

omit [Field K] [LinearOrder K] [IsStrictOrderedRing K] [FloorRing K] in
/-- A byte that stands for an integer is that integer's byte. -/
theorem eq_ofNat_of_toNat_eq {b : UInt8} {v : ℤ} (h : (b.toNat : ℤ) = v) :
    b = UInt8.ofNat v.toNat := by
  rw [← h, Int.toNat_natCast, UInt8.ofNat_toNat]

/-- NETWORK leaves the list of the assignment. -/
theorem network_applied {a : AgentAssignment K} {d : Bytes}
    (h : encodeNetwork a.enabled a.node_id a.neighbors = .ok d)
    (hn : a.neighbors.length ≤ agentMaxNeighbors) (b : Board K) (nowUs : ℤ) :
    agentApplyFrame b FrameType.network.value d nowUs =
      (agentOk, withParams b (networkParams a hn b.agent.params)) := by
  obtain ⟨node, ids, rfl, hnode, hpos, hids⟩ := encodeNetwork_eq_ok h
  have hlen : ids.length = a.neighbors.length := by rw [← hids, List.length_map]
  have hne : node ≠ 0 := by
    rintro rfl
    simp at hnode
    omega
  have hstore : storeNetwork b.agent.params (flagByte a.enabled :: node :: ids)
      ⟨a.neighbors.length, Nat.lt_succ_of_le hn⟩ = networkParams a hn b.agent.params := by
    have hid : ∀ i : Slot, (if i.val < a.neighbors.length then byteAt ids i.val else 0) =
        UInt8.ofNat (a.neighbors.getD i 0).toNat := by
      intro i
      split_ifs with hi
      · refine eq_ofNat_of_toNat_eq ?_
        rw [byteAt, List.getD_eq_getElem _ _ (by omega), List.getD_eq_getElem _ _ hi]
        simp [← hids]
      · rw [List.getD_eq_default _ _ (by omega)]
        rfl
    rw [storeNetwork, networkParams, ← eq_ofNat_of_toNat_eq hnode]
    simp [protoNetworkMinLen, hid]
  show onAgent b (applyNetwork b.agent (flagByte a.enabled :: node :: ids)) = _
  rw [applyNetwork, if_neg (by simp [protoNetworkMinLen]),
    dif_neg (by simp [protoNetworkMinLen, hlen, hn]), if_neg (by simpa using hne)]
  rw [onAgent, withParams, ← hstore]
  simp [protoNetworkMinLen, hlen]

/-- What the ALGORITHM frame of an assignment configures. -/
def algorithmParams (a : AgentAssignment K) (p : AgentParams) : AgentParams :=
  { p with
    dt := roundMs a.dt_s
    clock := roundMs a.publish_period_s
    state_0 := quantize a.state
    vstate_0 := quantize a.vstate
    vartheta_0 := quantize a.vartheta
    counter_0 := 0
    gain_ij := quantize a.gain_ij
    delta := quantize a.delta
    eta := quantize a.eta
    alpha := quantize a.alpha }

/-- ALGORITHM leaves its law, period and gains. -/
theorem algorithm_applied {a : AgentAssignment K} {d : Bytes}
    (h : encodeAlgorithm (algorithmFields a) = .ok d) (b : Board K) (nowUs : ℤ) :
    agentApplyFrame b FrameType.algorithm.value d nowUs =
      (agentOk, withParams b (algorithmParams a b.agent.params)) := by
  obtain ⟨hdt, hclock, hrow⟩ := encodeAlgorithm_eq_ok h
  have hlen : d.length = protoAlgorithmLen := by
    simpa [protoAlgorithmLen] using packInts_length hrow
  have hstore : storeAlgorithm b.agent.params d = algorithmParams a b.agent.params :=
    storeAlgorithm_encoded hrow _
  have hdt' : protoLdI32 d 0 = (algorithmFields a).dt_ms := protoLdI32_packed [] hrow 0 (by simp)
  have hclock' : protoLdI32 d 4 = (algorithmFields a).clock_ms :=
    protoLdI32_packed [] hrow 1 (by simp)
  show onAgent b (applyAlgorithm b.agent d) = _
  rw [applyAlgorithm, if_neg (not_not.2 hlen), if_neg, hstore, onAgent, withParams]
  rw [hdt', hclock']
  omega

/-- DISTURBANCE leaves its disturbance. -/
theorem disturbance_applied {a : AgentAssignment K} {d : Bytes}
    (h : encodeDisturbance (disturbanceFields a.disturbance) = .ok d) (b : Board K) (nowUs : ℤ) :
    agentApplyFrame b FrameType.disturbance.value d nowUs =
      (agentOk, withParams b
        { b.agent.params with disturbance := configuredDisturbance a.disturbance }) := by
  obtain ⟨hpos, row, rfl, hrow⟩ := encodeDisturbance_eq_ok h
  have hlen : row.length = 28 := by simpa using packInts_length hrow
  have hstore : storeDisturbance (flagByte (disturbanceFields a.disturbance).active :: row) =
      configuredDisturbance a.disturbance := storeDisturbance_encoded hrow
  have hsamples : protoLdI32 (flagByte (disturbanceFields a.disturbance).active :: row) 25 =
      (disturbanceFields a.disturbance).samples :=
    protoLdI32_packed [flagByte (disturbanceFields a.disturbance).active] hrow 6 (by simp)
  show onAgent b (applyDisturbance b.agent _) = _
  rw [applyDisturbance, if_neg (by simp [protoDisturbanceLen, hlen]), if_neg, hstore, onAgent,
    withParams]
  rw [hsamples]
  exact not_le.2 hpos

/-- A microgrid block with the values of the MG_PLANT frame stored. -/
def withPlant (m : MicrogridDict K) (p : MicrogridParams) : MicrogridParams :=
  { p with
    profile := (mgPlantFields m).profile
    kappa := (mgPlantFields m).kappa
    S1 := (mgPlantFields m).S1
    S2 := (mgPlantFields m).S2
    p_max := (mgPlantFields m).p_max
    q_max := (mgPlantFields m).q_max
    X0_P := (mgPlantFields m).X0_P
    X0_Q := (mgPlantFields m).X0_Q }

/-- MG_PLANT leaves its plant. -/
theorem mgPlant_applied {m : MicrogridDict K} {d : Bytes}
    (h : encodeMicrogridPlant (mgPlantFields m) = .ok d) (b : Board K) (nowUs : ℤ) :
    agentApplyFrame b FrameType.mgPlant.value d nowUs =
      (agentOk, withParams b
        { b.agent.params with
          microgrid := withPlant m b.agent.params.microgrid
          mgBlocks := b.agent.params.mgBlocks ||| mgBlockPlant }) := by
  obtain ⟨hkappa, hp, hq, row, rfl, hrow⟩ := encodeMicrogridPlant_eq_ok h
  have hlen : row.length = 28 := by simpa using packInts_length hrow
  have hstore : storeMgPlant b.agent.params.microgrid ((mgPlantFields m).profile :: row) =
      withPlant m b.agent.params.microgrid := storeMgPlant_encoded hrow _
  have hgood : ¬mgPlantBad (withPlant m b.agent.params.microgrid) := by
    rintro (hbad | hbad | hbad)
    · exact absurd hkappa (not_lt.2 hbad)
    · exact absurd hp (not_lt.2 hbad)
    · exact absurd hq (not_lt.2 hbad)
  show onAgent b (applyMgPlant b.agent _) = _
  rw [applyMgPlant, if_neg (by simp [protoMgPlantLen, hlen]), hstore]
  dsimp only
  rw [if_neg hgood]
  rfl

/-- A microgrid block with the values of the MG_VIRTUAL frame stored. -/
def withVirtual (m : MicrogridDict K) (p : MicrogridParams) : MicrogridParams :=
  { p with
    T_o := (mgVirtualFields m).T_o
    alpha_0 := (mgVirtualFields m).alpha_0
    delta_o := (mgVirtualFields m).delta_o
    kappa_o := (mgVirtualFields m).kappa_o
    xi := (mgVirtualFields m).xi
    c_0 := (mgVirtualFields m).c_0
    b := (mgVirtualFields m).b
    rP := (mgVirtualFields m).rP
    rQ := (mgVirtualFields m).rQ
    degree := (mgVirtualFields m).degree
    z0_P := (mgVirtualFields m).z0_P
    z0_Q := (mgVirtualFields m).z0_Q }

/-- MG_VIRTUAL leaves its virtual layer. -/
theorem mgVirtual_applied {m : MicrogridDict K} {d : Bytes}
    (h : encodeMicrogridVirtual (mgVirtualFields m) = .ok d) (b : Board K) (nowUs : ℤ) :
    agentApplyFrame b FrameType.mgVirtual.value d nowUs =
      (agentOk, withParams b
        { b.agent.params with
          microgrid := withVirtual m b.agent.params.microgrid
          mgBlocks := b.agent.params.mgBlocks ||| mgBlockVirtual }) := by
  obtain ⟨hpin, hrow⟩ := encodeMicrogridVirtual_eq_ok h
  have hlen : d.length = protoMgVirtualLen := by
    simpa [protoMgVirtualLen] using packInts_length hrow
  have hstore : storeMgVirtual b.agent.params.microgrid d =
      withVirtual m b.agent.params.microgrid := storeMgVirtual_encoded hrow _
  have hgood : ¬mgVirtualBad (withVirtual m b.agent.params.microgrid) := hpin
  show onAgent b (applyMgVirtual b.agent _) = _
  rw [applyMgVirtual, if_neg (not_not.2 hlen), hstore]
  dsimp only
  rw [if_neg hgood]
  rfl

/-- A microgrid block with the values of the MG_IFACE frame stored. -/
def withIface (m : MicrogridDict K) (p : MicrogridParams) : MicrogridParams :=
  { p with
    terminal := flagByte (mgIfaceFields m).terminal
    mu_max := (mgIfaceFields m).mu_max
    gamma := (mgIfaceFields m).gamma
    eps := (mgIfaceFields m).eps
    vartheta_0 := (mgIfaceFields m).vartheta_0
    T_c := (mgIfaceFields m).T_c
    beta_c := (mgIfaceFields m).beta_c
    Phi := (mgIfaceFields m).Phi
    delta_c := (mgIfaceFields m).delta_c
    adapt_band := (mgIfaceFields m).adapt_band }

/-- The law an MG_IFACE frame of the assignment selects. -/
def ifaceSelected (m : MicrogridDict K) : ControlLaw :=
  if m.isLC then .microgridLC else .microgridAdaptive

omit [IsStrictOrderedRing K] in
/-- The law byte selects the interface of the assignment. -/
theorem ifaceLaw_mgIfaceFields (m : MicrogridDict K) :
    ifaceLaw (mgIfaceFields m).law = some (ifaceSelected m) := by
  rw [mgIfaceFields, ifaceSelected]
  cases m.isLC with
  | false => rfl
  | true => rfl

/-- MG_IFACE leaves its interface, once plant and virtual layer were sent. -/
theorem mgIface_applied {m : MicrogridDict K} {d : Bytes}
    (h : encodeMicrogridIface (mgIfaceFields m) = .ok d) (b : Board K)
    (hblocks : b.agent.params.mgBlocks = mgBlockNeed) (nowUs : ℤ) :
    agentApplyFrame b FrameType.mgIface.value d nowUs =
      (agentOk,
        { b with
          agent :=
            microgridReset
              { b.agent with
                params :=
                  { b.agent.params with
                    microgrid := withIface m b.agent.params.microgrid
                    law := ifaceSelected m } } }) := by
  obtain ⟨row, rfl, hrow⟩ := encodeMicrogridIface_eq_ok h
  have hlen : row.length = 36 := by simpa using packInts_length hrow
  have hstore : storeMgIface b.agent.params.microgrid
      ((mgIfaceFields m).law :: flagByte (mgIfaceFields m).terminal :: row) =
      withIface m b.agent.params.microgrid := storeMgIface_encoded hrow _
  show onAgent b (applyMgIface b.agent _) = _
  rw [applyMgIface, if_neg (by simp [protoMgIfaceLen, hlen]), byteAt_cons_zero,
    ifaceLaw_mgIfaceFields]
  dsimp only
  rw [if_neg (by rw [hblocks]; decide), hstore]
  rfl

/-- A CONTROL start of the assignment latches the seed and the epoch and starts the run. -/
theorem control_applied {a : AgentAssignment K} {epoch_us : ℤ} {d : Bytes}
    (h : encodeControl true (a.disturbance_seed % 2 ^ 32) epoch_us = .ok d) (b : Board K)
    (nowUs : ℤ) :
    agentApplyFrame b FrameType.control.value d nowUs =
      (agentOk,
        let c := controlLatch b.agent d nowUs
        { agent := if c.params.law ≠ .finiteTimeAdaptive then microgridReset c else c
          prng := prngSeed (UInt64.ofNat c.params.seed) c.params.nodeId.toUInt64 }) ∧
      protoLdU32 d 1 = (a.disturbance_seed % 2 ^ 32).toNat ∧
      protoLdU48 d 5 = epoch_us.toNat := by
  have happly : agentApplyFrame b FrameType.control.value d nowUs = applyControl b d nowUs := rfl
  rw [happly]
  obtain ⟨hseed, hepoch, rfl⟩ := encodeControl_eq_ok h
  refine ⟨?_, ?_, ?_⟩
  · rw [applyControl, if_neg (by simp [protoControlLen]), if_pos (by rfl)]
  · have hfield : fieldAt (flagByte true :: (leBytes 4 (a.disturbance_seed % 2 ^ 32).toNat ++
        leBytes 6 epoch_us.toNat)) 1 4 = leBytes 4 (a.disturbance_seed % 2 ^ 32).toNat :=
      fieldAt_append_left (leBytes_length _ _)
    rw [protoLdU32, hfield, leNat_leBytes_of_lt (by omega)]
  · have hfield : fieldAt (flagByte true :: (leBytes 4 (a.disturbance_seed % 2 ^ 32).toNat ++
        leBytes 6 epoch_us.toNat)) 5 6 = leBytes 6 epoch_us.toNat := by
      rw [← List.cons_append, fieldAt_append_right (by simp)]
      simp [fieldAt, List.take_of_length_le]
    rw [protoLdU48, hfield, leNat_leBytes_of_lt (by omega)]

/-! ### The whole configure -/

/-- All frames of a configure applied at the same uptime. -/
def allAt (nowUs : ℤ) (frames : List OutFrame) : List (OutFrame × ℤ) :=
  frames.map fun f ↦ (f, nowUs)

/-- Frames that arrive at one time are the frames sent. -/
theorem map_fst_allAt (nowUs : ℤ) (frames : List OutFrame) :
    (allAt nowUs frames).map Prod.fst = frames := by
  rw [allAt, List.map_map]
  exact List.map_id frames

/-- The uptime the last frame is applied at. -/
def triggeredAt (timed : List (OutFrame × ℤ)) : ℤ :=
  (timed.getLast?.map Prod.snd).getD 0

/-- The trigger is then at that time. -/
theorem triggeredAt_allAt_zero (frames : List OutFrame) : triggeredAt (allAt 0 frames) = 0 := by
  rw [triggeredAt, allAt, List.getLast?_map, Option.map_map]
  cases frames.getLast? with
  | none => rfl
  | some f => rfl

/-- The board the frames of an assignment leave behind: `T_c` is the value the relay sends. -/
def sentBoard (a : AgentAssignment K) (hn : a.neighbors.length ≤ agentMaxNeighbors)
    (epoch_us nowUs : ℤ) : Board K :=
  triggeredBoard (configuredParams a hn epoch_us fun m ↦ (mgIfaceFields m).T_c) nowUs

omit [IsStrictOrderedRing K] in
/-- The three microgrid frames overwrite the whole block. -/
theorem withIface_withVirtual_withPlant (m : MicrogridDict K) (p : MicrogridParams) :
    withIface m (withVirtual m (withPlant m p)) =
      configuredMicrogrid m (mgIfaceFields m).T_c := by
  have hterminal : flagByte (mgIfaceFields m).terminal =
      if m.isLC ∧ m.interface.terminal = some true then 1 else 0 := by
    rw [mgIfaceFields]
    rcases hlc : m.isLC with _ | _
    · simp [flagByte]
    · rcases ht : m.interface.terminal with _ | _ | _
      · simp [flagByte]
      · simp [flagByte]
      · simp [flagByte]
  have hband : (mgIfaceFields m).adapt_band =
      if m.isLC then (m.interface.adapt_band.map quantize).getD (-1) else -1 := by
    rw [mgIfaceFields]
    rcases hlc : m.isLC with _ | _
    · simp
    · rcases hb : m.interface.adapt_band with _ | band
      · simp
      · simp
  rw [configuredMicrogrid, ← hterminal, ← hband]
  rfl

/-- The three frames every configure starts with. -/
def scalarPart (a : AgentAssignment K) (hn : a.neighbors.length ≤ agentMaxNeighbors)
    (p : AgentParams) : AgentParams :=
  { algorithmParams a (networkParams a hn p) with
    disturbance := configuredDisturbance a.disturbance }

/-- A scalar configure: the trigger follows the three frames at once. -/
theorem scalar_view {a : AgentAssignment K} {epoch_us : ℤ} {d : Bytes}
    (hmicrogrid : a.microgrid = none)
    (h : encodeControl true (a.disturbance_seed % 2 ^ 32) epoch_us = .ok d)
    (hn : a.neighbors.length ≤ agentMaxNeighbors) (b : Board K) (nowUs : ℤ) :
    ∃ b', agentApplyFrame (withParams b (scalarPart a hn b.agent.params))
        FrameType.control.value d nowUs = (agentOk, b') ∧
      b'.view = sentBoard a hn epoch_us nowUs := by
  obtain ⟨happly, hseed, hepoch⟩ := control_applied h
    (withParams b (scalarPart a hn b.agent.params)) nowUs
  refine ⟨_, happly, ?_⟩
  have hlaw : selectedLaw a = .finiteTimeAdaptive := by rw [selectedLaw, hmicrogrid]
  have hblock : configuredBlock a (fun m ↦ (mgIfaceFields m).T_c) = .zero := by
    rw [configuredBlock, hmicrogrid]
  rw [sentBoard, configuredParams, hlaw, hblock, hmicrogrid, controlLatch, hseed, hepoch]
  rfl

omit [Field K] [LinearOrder K] [IsStrictOrderedRing K] [FloorRing K] in
/-- The two presence bits of an accepted set. -/
theorem blocks_both : 0 ||| mgBlockPlant ||| mgBlockVirtual = mgBlockNeed := by decide

/-- A microgrid configure: the trigger resets the integrators whatever MG_IFACE left in them. -/
theorem microgrid_view {a : AgentAssignment K} {m : MicrogridDict K} {epoch_us : ℤ} {d : Bytes}
    (hmicrogrid : a.microgrid = some m)
    (h : encodeControl true (a.disturbance_seed % 2 ^ 32) epoch_us = .ok d)
    (hn : a.neighbors.length ≤ agentMaxNeighbors) (b : Board K) (v : AgentVars K) (nowUs : ℤ) :
    ∃ b', agentApplyFrame
        { b with
          agent :=
            { params :=
                { scalarPart a hn b.agent.params with
                  microgrid := withIface m (withVirtual m (withPlant m b.agent.params.microgrid))
                  mgBlocks := 0 ||| mgBlockPlant ||| mgBlockVirtual
                  law := ifaceSelected m }
              vars := v } }
        FrameType.control.value d nowUs = (agentOk, b') ∧
      b'.view = sentBoard a hn epoch_us nowUs := by
  obtain ⟨happly, hseed, hepoch⟩ := control_applied h
    { b with
      agent :=
        { params :=
            { scalarPart a hn b.agent.params with
              microgrid := withIface m (withVirtual m (withPlant m b.agent.params.microgrid))
              mgBlocks := 0 ||| mgBlockPlant ||| mgBlockVirtual
              law := ifaceSelected m }
          vars := v } } nowUs
  refine ⟨_, happly, ?_⟩
  -- Under a microgrid law the view is the whole board, and the start resets the integrators.
  have hne : ifaceSelected m ≠ .finiteTimeAdaptive := by
    rw [ifaceSelected]
    split_ifs <;> decide
  have hlaw : selectedLaw a = ifaceSelected m := by
    rw [selectedLaw, hmicrogrid]
    rfl
  have hblock : configuredBlock a (fun m ↦ (mgIfaceFields m).T_c) =
      withIface m (withVirtual m (withPlant m b.agent.params.microgrid)) := by
    rw [configuredBlock, hmicrogrid, withIface_withVirtual_withPlant]
  rw [sentBoard, configuredParams, hlaw, hblock, hmicrogrid, controlLatch, hseed, hepoch,
    triggeredBoard]
  dsimp only
  rw [if_pos hne, if_pos hne, Board.view_of_microgrid hne, blocks_both]
  rfl

omit [Field K] [LinearOrder K] [IsStrictOrderedRing K] [FloorRing K] in
/-- A timed list of frames, taken apart with the frames. -/
theorem timed_cons {timed : List (OutFrame × ℤ)} {f : OutFrame} {fs : List OutFrame}
    (h : timed.map Prod.fst = f :: fs) :
    ∃ t rest, timed = (f, t) :: rest ∧ rest.map Prod.fst = fs := by
  obtain ⟨⟨_, t⟩, rest, rfl, rfl, hrest⟩ := List.map_eq_cons_iff.1 h
  exact ⟨t, rest, rfl, hrest⟩

/-- A board takes a configure of at most four neighbours only: a longer list is refused with the
first frame. -/
theorem neighbors_le_of_applied {a : AgentAssignment K} {trigger : Option Bool} {epoch_us : ℤ}
    {frames : List OutFrame} (hf : assignmentToFrames a trigger epoch_us = .ok frames)
    {timed : List (OutFrame × ℤ)} (ht : timed.map Prod.fst = frames) {b b' : Board K}
    (hb : applyFrames b timed = some b') : a.neighbors.length ≤ agentMaxNeighbors := by
  obtain ⟨network, algorithm, disturbance, microgrid, control, hnetwork, -, -, -, -, rfl⟩ :=
    assignmentToFrames_eq_ok hf
  obtain ⟨t, rest, rfl, -⟩ := timed_cons ht
  obtain ⟨node, ids, rfl, -, -, hids⟩ := encodeNetwork_eq_ok hnetwork
  have hlen : ids.length = a.neighbors.length := by rw [← hids, List.length_map]
  by_contra hlong
  have hrefused : applyNetwork b.agent (flagByte a.enabled :: node :: ids) =
      (agentErrRange, b.agent) := by
    rw [applyNetwork, if_neg (by simp [protoNetworkMinLen]), dif_pos]
    simpa [protoNetworkMinLen, hlen] using hlong
  have hnone :
      applyFrames b (((.network, flagByte a.enabled :: node :: ids), t) :: rest) = none := by
    rw [applyFrames]
    refine if_pos ?_
    show (onAgent b (applyNetwork b.agent (flagByte a.enabled :: node :: ids))).1 < 0
    rw [hrefused]
    exact agentErrRange_neg
  rw [hnone] at hb
  cases hb

/-- **History independence.** The frames of an assignment with at most four neighbours are accepted
from every prior state, and what the board then looks at is the same whatever that state was. -/
theorem applyFrames_view {a : AgentAssignment K} {epoch_us : ℤ} {frames : List OutFrame}
    (hf : assignmentToFrames a (some true) epoch_us = .ok frames)
    (hn : a.neighbors.length ≤ agentMaxNeighbors) {timed : List (OutFrame × ℤ)}
    (ht : timed.map Prod.fst = frames) (b : Board K) :
    ∃ b', applyFrames b timed = some b' ∧
      b'.view = sentBoard a hn epoch_us (triggeredAt timed) := by
  obtain ⟨network, algorithm, disturbance, microgrid, control, hnetwork, halgorithm, hdisturbance,
    hmicrogrid, hcontrol, rfl⟩ := assignmentToFrames_eq_ok hf
  obtain ⟨trigger, htrigger, rfl⟩ := triggerPart_eq_ok hcontrol
  -- Four frames for the scalar law, seven for a microgrid law; the last one starts the run.
  rcases hm : a.microgrid with _ | m
  · rw [microgridPart, hm] at hmicrogrid
    cases hmicrogrid
    obtain ⟨t₁, timed, rfl, h₁⟩ := timed_cons ht
    obtain ⟨t₂, timed, rfl, h₂⟩ := timed_cons h₁
    obtain ⟨t₃, timed, rfl, h₃⟩ := timed_cons h₂
    obtain ⟨t₄, timed, rfl, h₄⟩ := timed_cons h₃
    obtain rfl := List.map_eq_nil_iff.1 h₄
    obtain ⟨b', happly, hview⟩ := scalar_view hm htrigger hn b t₄
    refine ⟨b', ?_, hview⟩
    rw [applyFrames_cons_ok (network_applied hnetwork hn b t₁),
      applyFrames_cons_ok (algorithm_applied halgorithm _ t₂),
      applyFrames_cons_ok (disturbance_applied hdisturbance _ t₃)]
    exact applyFrames_cons_ok happly
  · rw [microgridPart, hm] at hmicrogrid
    obtain ⟨plant, virt, iface, hplant, hvirt, hiface, rfl⟩ := microgridFrames_eq_ok hmicrogrid
    obtain ⟨t₁, timed, rfl, h₁⟩ := timed_cons ht
    obtain ⟨t₂, timed, rfl, h₂⟩ := timed_cons h₁
    obtain ⟨t₃, timed, rfl, h₃⟩ := timed_cons h₂
    obtain ⟨t₄, timed, rfl, h₄⟩ := timed_cons h₃
    obtain ⟨t₅, timed, rfl, h₅⟩ := timed_cons h₄
    obtain ⟨t₆, timed, rfl, h₆⟩ := timed_cons h₅
    obtain ⟨t₇, timed, rfl, h₇⟩ := timed_cons h₆
    obtain rfl := List.map_eq_nil_iff.1 h₇
    rw [applyFrames_cons_ok (network_applied hnetwork hn b t₁),
      applyFrames_cons_ok (algorithm_applied halgorithm _ t₂),
      applyFrames_cons_ok (disturbance_applied hdisturbance _ t₃),
      applyFrames_cons_ok (mgPlant_applied hplant _ t₄),
      applyFrames_cons_ok (mgVirtual_applied hvirt _ t₅),
      applyFrames_cons_ok (mgIface_applied hiface _ blocks_both t₆)]
    obtain ⟨b', happly, hview⟩ := microgrid_view hm htrigger hn b _ t₇
    exact ⟨b', applyFrames_cons_ok happly, hview⟩

/-! ### The round trip -/

/-- **A configure is a round trip**: from any prior state, everything the selected law, a report and
a packet read is what the assignment asks for, and the same as from any other prior state; so behind
any number of control periods the board reports and transmits what the board asked for does. -/
structure RoundTrip (a : AgentAssignment K) (hn : a.neighbors.length ≤ agentMaxNeighbors)
    (epoch_us : ℤ) (timed : List (OutFrame × ℤ)) : Prop where
  configured : ∀ b b' : Board K, applyFrames b timed = some b' →
    b'.view = configuredBoard a hn epoch_us (triggeredAt timed)
  independent : ∀ b₁ b₁' b₂ b₂' : Board K, applyFrames b₁ timed = some b₁' →
    applyFrames b₂ timed = some b₂' → b₁'.view = b₂'.view
  shown : ∀ b b' : Board K, applyFrames b timed = some b' →
    ∀ (lib : Libm K) (n : ℕ) (uptimeUs : ℤ),
      let asked := configuredBoard a hn epoch_us (triggeredAt timed)
      (∀ fresh, reportState ((discreteStep lib)^[n] b').agent uptimeUs fresh =
          reportState ((discreteStep lib)^[n] asked).agent uptimeUs fresh) ∧
        onAirPacket ((discreteStep lib)^[n] b').agent uptimeUs =
          onAirPacket ((discreteStep lib)^[n] asked).agent uptimeUs

@[simp]
theorem triggeredBoard_params (p : AgentParams) (nowUs : ℤ) :
    (triggeredBoard p nowUs : Board K).agent.params = p := by
  rw [triggeredBoard]
  dsimp only
  split_ifs <;> rfl

/-- The board the relay sends is the one asked for exactly when `T_c` is. -/
theorem sentBoard_eq_iff {a : AgentAssignment K} {hn : a.neighbors.length ≤ agentMaxNeighbors}
    {epoch_us nowUs : ℤ} :
    sentBoard a hn epoch_us nowUs = configuredBoard a hn epoch_us nowUs ↔
      ∀ m, a.microgrid = some m → (mgIfaceFields m).T_c = roundMs (deadline m) := by
  constructor
  · intro h m hm
    have hT := congrArg (fun b : Board K ↦ b.agent.params.microgrid.T_c) h
    simpa [sentBoard, configuredBoard, configuredParams, configuredBlock, hm,
      configuredMicrogrid] using hT
  · intro h
    have hblock : configuredBlock a (fun m ↦ (mgIfaceFields m).T_c) =
        configuredBlock a fun m ↦ roundMs (deadline m) := by
      rcases hm : a.microgrid with _ | m
      · simp only [configuredBlock, hm]
      · simp only [configuredBlock, hm, h m hm]
    rw [sentBoard, configuredBoard, configuredParams, configuredParams, hblock]

omit [IsStrictOrderedRing K] in
/-- The relay sends the deadline under the LC interface, and zero under the adaptive one. -/
theorem sent_deadline_iff {m : MicrogridDict K} :
    (mgIfaceFields m).T_c = roundMs (deadline m) ↔
      (m.isLC = false → roundMs (m.T_c.getD 0) = 0) := by
  rw [mgIfaceFields, deadline]
  rcases m.isLC with _ | _
  · simp [eq_comm]
  · simp

/-- The frames determine the board, so a round trip is one equation between two boards. -/
theorem roundTrip_iff_sentBoard {a : AgentAssignment K} {epoch_us : ℤ} {frames : List OutFrame}
    (hf : assignmentToFrames a (some true) epoch_us = .ok frames)
    (hn : a.neighbors.length ≤ agentMaxNeighbors) {timed : List (OutFrame × ℤ)}
    (ht : timed.map Prod.fst = frames) :
    RoundTrip a hn epoch_us timed ↔
      sentBoard a hn epoch_us (triggeredAt timed) =
        configuredBoard a hn epoch_us (triggeredAt timed) := by
  have hsent : ∀ b b' : Board K, applyFrames b timed = some b' →
      b'.view = sentBoard a hn epoch_us (triggeredAt timed) := by
    intro b b' h
    obtain ⟨b'', happly, hview⟩ := applyFrames_view hf hn ht b
    rw [h] at happly
    cases happly
    exact hview
  constructor
  · intro h
    obtain ⟨b', happly, hview⟩ := applyFrames_view hf hn ht (boardInit K)
    rw [← hview]
    exact h.configured _ _ happly
  · intro h
    constructor
    · intro b b' happly
      rw [hsent b b' happly, h]
    · intro b₁ b₁' b₂ b₂' h₁ h₂
      rw [hsent b₁ b₁' h₁, hsent b₂ b₂' h₂]
    · intro b b' happly
      exact shows_of_view ((hsent b b' happly).trans h)

/-- **A configure is a round trip exactly when the deadline reaches the law that reads it**: the
assignment is scalar, or selects the LC interface, or its deadline rounds to zero milliseconds.
Independence of the prior state holds always (`applyFrames_view`). -/
theorem configure_roundTrip_iff {a : AgentAssignment K} {epoch_us : ℤ} {frames : List OutFrame}
    (hf : assignmentToFrames a (some true) epoch_us = .ok frames)
    (hn : a.neighbors.length ≤ agentMaxNeighbors) {timed : List (OutFrame × ℤ)}
    (ht : timed.map Prod.fst = frames) :
    RoundTrip a hn epoch_us timed ↔
      ∀ m, a.microgrid = some m → m.isLC = false → roundMs (m.T_c.getD 0) = 0 := by
  simp only [roundTrip_iff_sentBoard hf hn ht, sentBoard_eq_iff, sent_deadline_iff]

/-! ### A sample node -/

/-- A node of the benchmark under a given interface, with the deadline of 40 s beside the blocks. -/
def sampleAssignment (kind : String) (interface : InterfaceDict ℚ) : AgentAssignment ℚ where
  node_id := 3
  enabled := true
  neighbors := [1, 2]
  dt_s := 1 / 40
  publish_period_s := 1 / 10
  state := 0
  vstate := 0
  vartheta := 0
  eta := 1 / 20000
  gain_ij := 1 / 10
  alpha := 1 / 2
  delta := 1 / 100
  disturbance := ⟨none, none, none, none, none, none, none, none⟩
  disturbance_seed := 7
  microgrid :=
    some
      { interface_kind := kind
        T_c := some 40
        plant := ⟨1 / 5, 1, 1 / 2, "per", 10, 12⟩
        virtual := ⟨30, 1, 1 / 8, 1 / 1000, 1 / 40, 1 / 10, 0, 0, 0⟩
        interface := interface
        degree := 2
        state0_P := 1
        state0_Q := 2
        vstate0_P := 0
        vstate0_Q := 0 }

/-- The adaptive interface of the sample node, which has no deadline of its own. -/
def sampleAdaptiveDict : InterfaceDict ℚ :=
  ⟨10, some (1 / 400), some (1 / 100), some 0, none, none, none, none, none, none⟩

/-- The LC interface of the sample node. -/
def sampleLCDict : InterfaceDict ℚ :=
  ⟨10, none, none, none, some 40, some 2, some (3 / 1000), some true, none, none⟩

/-- The configure of the LC node is a round trip. -/
theorem configure_roundTrip_lc :
    ∃ frames, assignmentToFrames (sampleAssignment "lc" sampleLCDict) (some true) 0 = .ok frames ∧
      RoundTrip (sampleAssignment "lc" sampleLCDict) (by decide) 0 (allAt 0 frames) := by
  have hok : (assignmentToFrames (sampleAssignment "lc" sampleLCDict) (some true) 0).isOk := by
    decide +kernel
  rcases h : assignmentToFrames (sampleAssignment "lc" sampleLCDict) (some true) 0 with e | frames
  · rw [h] at hok
    cases hok
  · refine ⟨frames, rfl, (configure_roundTrip_iff h (by decide) (map_fst_allAt 0 frames)).2 ?_⟩
    rintro m hm hlc
    cases hm
    exact absurd hlc (by decide)

/-- **Under the adaptive interface the deadline does not arrive**: the relay encodes the node, the
board accepts every frame, and its watchdog runs with `T_c = 0` instead of 40 s. -/
theorem adaptive_deadline_lost :
    ∃ frames,
      assignmentToFrames (sampleAssignment "adaptive" sampleAdaptiveDict) (some true) 0 =
        .ok frames ∧
      ¬RoundTrip (sampleAssignment "adaptive" sampleAdaptiveDict) (by decide) 0
        (allAt 0 frames) ∧
      ∃ b', applyFrames (boardInit ℚ) (allAt 0 frames) = some b' ∧
        b'.agent.params.law = .microgridAdaptive ∧ b'.agent.params.microgrid.T_c = 0 := by
  have hok : (assignmentToFrames (sampleAssignment "adaptive" sampleAdaptiveDict) (some true)
      0).isOk := by
    decide +kernel
  rcases h : assignmentToFrames (sampleAssignment "adaptive" sampleAdaptiveDict) (some true) 0 with
    e | frames
  · rw [h] at hok
    cases hok
  · have ht := map_fst_allAt 0 frames
    refine ⟨frames, rfl, ?_, ?_⟩
    · rw [roundTrip_iff_sentBoard h (by decide) ht, sentBoard_eq_iff]
      intro hT
      exact absurd (hT _ rfl) (by decide +kernel)
    · obtain ⟨b', happly, hview⟩ := applyFrames_view h (by decide) ht (boardInit ℚ)
      have hlaw : b'.agent.params.law = .microgridAdaptive := by
        rw [← b'.view_law, hview, sentBoard, triggeredBoard_params]
        rfl
      refine ⟨b', happly, hlaw, ?_⟩
      rw [← Board.view_of_microgrid (b := b') (by rw [hlaw]; decide), hview, sentBoard,
        triggeredBoard_params]
      rfl

end VertexTestbed.Conformance
