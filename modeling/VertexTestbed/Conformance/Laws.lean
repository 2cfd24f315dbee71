import VertexTestbed.Conformance.Microgrid

/-!
# A manifest's node, on a board and on a host

The same assignment configures a board through its frames and a host controller through its
parameter blocks. When the manifest's values are on the wire grid the quantizer loses nothing, so
the two start with the same configuration and the same integrators (`together_start`), and stay
together for as long as the board's `int32_t` clock counts the ticks (`microgrid_laws_agree`).
-/

namespace VertexTestbed.Conformance

open Firmware Host Runs

variable {K : Type*} [Field K] [LinearOrder K] [IsStrictOrderedRing K] [FloorRing K]

/-! ### Values on the wire grid -/

/-- Every value of the node that crosses the link is a whole number of micro-units, or, for a
period or a deadline, of milliseconds; and an adaptation band, if there is one, is not negative. -/
structure OnWire (n : NodeManifest K) : Prop where
  dt_s : OnGrid 1000 n.dt_s
  T_o : OnGrid 1000 n.spec.T_o
  delta_o : OnGrid 1000 n.spec.delta_o
  T_c : OnGrid 1000 n.spec.T_c
  kappa : OnGrid 1000000 n.plant.kappa
  S1 : OnGrid 1000000 n.plant.S.1
  S2 : OnGrid 1000000 n.plant.S.2
  p_max : OnGrid 1000000 n.spec.p_max
  q_max : OnGrid 1000000 n.spec.q_max
  X0_P : OnGrid 1000000 n.plant.X0.1
  X0_Q : OnGrid 1000000 n.plant.X0.2
  z0_P : OnGrid 1000000 n.plant.z0.1
  z0_Q : OnGrid 1000000 n.plant.z0.2
  alpha_0 : OnGrid 1000000 n.spec.alpha_0
  kappa_o : OnGrid 1000000 n.spec.kappa_o
  xi : OnGrid 1000000 n.spec.xi
  c_0 : OnGrid 1000000 n.spec.c_0
  b : OnGrid 1000000 n.b
  rP : OnGrid 1000000 n.ref.1
  rQ : OnGrid 1000000 n.ref.2
  mu_max : OnGrid 1000000 n.spec.mu_max
  gamma : OnGrid 1000000 n.spec.gamma
  eps : OnGrid 1000000 n.spec.eps
  vartheta0 : OnGrid 1000000 n.spec.vartheta0
  beta_c : OnGrid 1000000 n.spec.beta_c
  Phi : OnGrid 1000000 n.spec.Phi
  adapt_band : ∀ w, n.spec.adapt_band = some w → OnGrid 1000000 w ∧ 0 ≤ w

/-- What the LC command reads of a node beside the period and the bound is on the wire grid. -/
structure LCReadOnWire (n : NodeManifest K) : Prop where
  T_c : OnGrid 1000 n.spec.T_c
  kappa : OnGrid 1000000 n.plant.kappa
  p_max : OnGrid 1000000 n.spec.p_max
  q_max : OnGrid 1000000 n.spec.q_max
  beta_c : OnGrid 1000000 n.spec.beta_c

/-- What the command of a node is formed with, beside its state, is on the wire grid: the period and
the bound, and under the LC interface what that reads. -/
structure CommandOnWire (n : NodeManifest K) : Prop where
  dt_s : OnGrid 1000 n.dt_s
  mu_max : OnGrid 1000000 n.spec.mu_max
  lc : n.spec.interface = .lc → LCReadOnWire n

omit [IsStrictOrderedRing K] [FloorRing K] in
/-- A node on the wire's grid has a command on it. -/
theorem OnWire.command {n : NodeManifest K} (h : OnWire n) : CommandOnWire n :=
  ⟨h.dt_s, h.mu_max, fun _ ↦ ⟨h.T_c, h.kappa, h.p_max, h.q_max, h.beta_c⟩⟩

/-- A value on the grid of millionths is read back from its integer. -/
theorem u_quantize {v : K} (h : OnGrid 1000000 v) : u (quantize v) = v :=
  quantize_mul_invScale h

/-- A time on the grid of milliseconds is read back from its integer. -/
theorem ms_roundMs {v : K} (h : OnGrid 1000 v) : ms (roundMs v) = v :=
  roundMs_div h

/-- Rounding to the grid keeps the sign. -/
theorem quantize_nonneg {v : K} (h : 0 ≤ v) : 0 ≤ quantize v := by
  have hmono := quantize_mono h
  rwa [quantize, zero_mul, ← Int.cast_zero, roundHalfUp_intCast] at hmono

theorem roundMs_zero : roundMs (0 : K) = 0 := by
  rw [roundMs, zero_mul, ← Int.cast_zero, roundHalfEven_intCast]

/-! ### The two starts -/

section Start

variable {n : NodeManifest K} {a : AgentAssignment K}

omit [FloorRing K] in
/-- The dictionaries name the line-compensating law exactly when the node has that interface. -/
theorem isLC_microgridDicts (n : NodeManifest K) :
    (microgridDicts n).isLC = decide (n.spec.interface = .lc) := by
  show decide (n.spec.interface.name = "lc") = _
  cases n.spec.interface with
  | adaptive => decide
  | lc => decide

/-- The parameters the frames of the node put on a board. -/
def sentParams (a : AgentAssignment K) (hn : a.neighbors.length ≤ agentMaxNeighbors)
    (epoch_us : ℤ) : AgentParams :=
  configuredParams a hn epoch_us fun m ↦ (mgIfaceFields m).T_c

/-- The microgrid block those parameters hold. -/
def sentBlock (n : NodeManifest K) : MicrogridParams :=
  configuredMicrogrid (microgridDicts n) (mgIfaceFields (microgridDicts n)).T_c

/-- The board is sent the node's own block. -/
theorem sentParams_microgrid (ha : AssignedFrom n a)
    (hn : a.neighbors.length ≤ agentMaxNeighbors) (epoch_us : ℤ) :
    (sentParams a hn epoch_us).microgrid = sentBlock n := by
  rw [sentParams, configuredParams, configuredBlock, ha.microgrid]
  rfl

/-- And the law of its interface. -/
theorem sentParams_law (ha : AssignedFrom n a) (hn : a.neighbors.length ≤ agentMaxNeighbors)
    (epoch_us : ℤ) :
    (sentParams a hn epoch_us).law =
      if n.spec.interface = .lc then .microgridLC else .microgridAdaptive := by
  rw [sentParams, configuredParams, selectedLaw, ha.microgrid]
  dsimp only
  rw [isLC_microgridDicts]
  simp only [decide_eq_true_eq]

/-- Which is never the scalar one. -/
theorem sentParams_law_ne (ha : AssignedFrom n a) (hn : a.neighbors.length ≤ agentMaxNeighbors)
    (epoch_us : ℤ) : (sentParams a hn epoch_us).law ≠ .finiteTimeAdaptive := by
  rw [sentParams_law ha]
  split_ifs <;> decide

/-- The board the frames leave behind has just been reset. -/
theorem sentBoard_agent (ha : AssignedFrom n a) (hn : a.neighbors.length ≤ agentMaxNeighbors)
    (epoch_us nowUs : ℤ) :
    (sentBoard a hn epoch_us nowUs : Board K).agent =
      microgridReset ⟨sentParams a hn epoch_us, triggeredVars (sentParams a hn epoch_us) nowUs⟩ :=
  if_pos (sentParams_law_ne ha hn epoch_us)

/-- The profile on the wire. -/
theorem sentBlock_profile (n : NodeManifest K) :
    (sentBlock n).profile = if n.spec.profile = .rep then 0 else 1 := by
  show (if n.spec.profile.name = "rep" then (0 : UInt8) else 1) = _
  cases n.spec.profile with
  | rep => decide
  | per => decide

/-- The bound on the command goes out under either interface. -/
theorem sentBlock_mu_max (hgrid : OnGrid 1000000 n.spec.mu_max) :
    u (sentBlock n).mu_max = n.spec.mu_max := by
  have hdict : (microgridDicts n).interface = n.interfaceBlock.asdict := rfl
  rw [sentBlock, configuredMicrogrid, hdict, NodeManifest.interfaceBlock]
  cases n.spec.interface with
  | adaptive => exact u_quantize hgrid
  | lc => exact u_quantize hgrid

/-- What the LC command reads arrives as the assignment has it. -/
theorem sameLCTerm_sent (hwire : LCReadOnWire n) (hmu_max : OnGrid 1000000 n.spec.mu_max)
    (ha : AssignedFrom n a) (hn : a.neighbors.length ≤ agentMaxNeighbors) (epoch_us : ℤ)
    (hi : n.spec.interface = .lc) {p : LCParams K} (hp : n.interfaceBlock = .lc p) :
    SameLCTerm (sentParams a hn epoch_us) (LCInterface.init p n.dt_s) := by
  have hlc : (microgridDicts n).isLC = true := by
    rw [isLC_microgridDicts, hi]
    rfl
  have hblock : n.interfaceBlock =
      .lc ⟨n.plant.kappa, n.spec.profile, n.spec.T_c, n.spec.beta_c, n.spec.Phi, n.spec.terminal,
        n.spec.mu_max, n.spec.p_max, n.spec.q_max, none, n.spec.adapt_band, none,
        n.plant.kappa_pos, n.spec.beta_c_pos⟩ := by
    rw [NodeManifest.interfaceBlock, hi]
  have hdict : (microgridDicts n).interface = n.interfaceBlock.asdict := rfl
  obtain rfl := InterfaceParams.lc.inj (hp.symm.trans hblock)
  have hsent := sentParams_microgrid ha hn epoch_us
  constructor
  · rw [hsent]
    exact u_quantize hwire.kappa
  · rw [hsent, sentBlock_profile]
    rfl
  · rw [hsent]
    exact u_quantize hwire.p_max
  · rw [hsent]
    exact u_quantize hwire.q_max
  · rw [hsent]
    exact sentBlock_mu_max hmu_max
  · rw [hsent, sentBlock, sent_deadline_iff.2 (by simp [hlc]), deadline, hlc, hdict, hblock]
    exact ms_roundMs hwire.T_c
  · rw [hsent, sentBlock, configuredMicrogrid, hlc, hdict, hblock]
    exact u_quantize hwire.beta_c
  · -- The manifest's LC block has no width of its own, which is sent as zero and means `2h`.
    have hdelta : (sentBlock n).delta_c = 0 := by
      rw [sentBlock, configuredMicrogrid, hlc, hdict, hblock]
      exact roundMs_zero
    rw [hsent, lcWidth, hdelta, if_pos (by simp [ms])]
    rfl
  · rw [hsent, sentBlock, configuredMicrogrid, hlc, hdict, hblock]
    show n.spec.terminal = decide ((if true = true ∧ some n.spec.terminal = some true then
      (1 : UInt8) else 0) ≠ 0)
    rcases n.spec.terminal with _ | _
    · decide
    · decide

/-- **A node with the adaptive interface means the same on the board and on the host.** -/
theorem sameAdaptive_sent (hwire : OnWire n) (ha : AssignedFrom n a)
    (hn : a.neighbors.length ≤ agentMaxNeighbors) (epoch_us : ℤ)
    (hi : n.spec.interface = .adaptive) :
    SameInterface (sentParams a hn epoch_us) n.controllerParams.plant n.dt_s
      (n.interfaceBlock.make n.dt_s) := by
  have hlc : (microgridDicts n).isLC = false := by
    rw [isLC_microgridDicts, hi]
    rfl
  have hblock : n.interfaceBlock =
      .adaptive ⟨n.spec.gamma, n.spec.eps, n.spec.vartheta0, n.spec.mu_max, .sigma,
        n.spec.gamma_nonneg, n.spec.eps_nonneg⟩ := by
    rw [NodeManifest.interfaceBlock, hi]
  have hdict : (microgridDicts n).interface = n.interfaceBlock.asdict := rfl
  rw [hblock]
  constructor
  · rw [sentParams_law ha, hi]
    rfl
  · rfl
  · rw [sentParams_microgrid ha]
    exact sentBlock_mu_max hwire.mu_max
  · rw [sentParams_microgrid ha, sentBlock, configuredMicrogrid, hlc, hdict, hblock]
    exact u_quantize hwire.gamma
  · rw [sentParams_microgrid ha, sentBlock, configuredMicrogrid, hlc, hdict, hblock]
    exact u_quantize hwire.eps
  · rfl

/-- **So does a node with the line-compensating interface.** -/
theorem sameLC_sent (hwire : OnWire n) (ha : AssignedFrom n a)
    (hn : a.neighbors.length ≤ agentMaxNeighbors) (epoch_us : ℤ) (hi : n.spec.interface = .lc) :
    SameInterface (sentParams a hn epoch_us) n.controllerParams.plant n.dt_s
      (n.interfaceBlock.make n.dt_s) := by
  have hlc : (microgridDicts n).isLC = true := by
    rw [isLC_microgridDicts, hi]
    rfl
  have hblock : n.interfaceBlock =
      .lc ⟨n.plant.kappa, n.spec.profile, n.spec.T_c, n.spec.beta_c, n.spec.Phi, n.spec.terminal,
        n.spec.mu_max, n.spec.p_max, n.spec.q_max, none, n.spec.adapt_band, none,
        n.plant.kappa_pos, n.spec.beta_c_pos⟩ := by
    rw [NodeManifest.interfaceBlock, hi]
  have hdict : (microgridDicts n).interface = n.interfaceBlock.asdict := rfl
  have hterm := sameLCTerm_sent (hwire.command.lc hi) hwire.mu_max ha hn epoch_us hi hblock
  rw [hblock]
  constructor
  · rw [sentParams_law ha, hi]
    rfl
  · rfl
  · rfl
  · rfl
  · rfl
  · rfl
  · exact hterm.mu_max
  · exact hterm.T_c
  · exact hterm.beta_c
  · have hPhi : u (sentBlock n).Phi = n.spec.Phi := by
      rw [sentBlock, configuredMicrogrid, hlc, hdict, hblock]
      exact u_quantize hwire.Phi
    rw [sentParams_microgrid ha, hPhi]
    rfl
  · exact hterm.delta_c
  · exact hterm.terminal
  · rfl
  · -- An absent band is sent as `-1`, a present one as a nonnegative number.
    have hband : (sentBlock n).adapt_band = (n.spec.adapt_band.map quantize).getD (-1) := by
      rw [sentBlock, configuredMicrogrid, hlc, hdict, hblock]
      rfl
    rw [sentParams_microgrid ha, hband]
    show n.spec.adapt_band = _
    rcases hw : n.spec.adapt_band with _ | w
    · rfl
    · obtain ⟨hgrid, hnonneg⟩ := hwire.adapt_band w hw
      rw [Option.map_some, Option.getD_some, if_pos (quantize_nonneg hnonneg), u_quantize hgrid]

/-- **What a manifest puts on the wire is what the host is built from.** -/
theorem sameConfig_sent (hwire : OnWire n) (ha : AssignedFrom n a)
    (hn : a.neighbors.length ≤ agentMaxNeighbors) (epoch_us : ℤ) :
    SameConfig (sentParams a hn epoch_us) (MicrogridController.init n.controllerParams) := by
  have hblock := sentParams_microgrid ha hn epoch_us
  constructor
  · show ms (roundMs a.dt_s) = n.dt_s
    rw [ha.dt_s, ms_roundMs hwire.dt_s]
  · rw [hblock]
    exact u_quantize hwire.kappa
  · rw [hblock]
    exact u_quantize hwire.S1
  · rw [hblock]
    exact u_quantize hwire.S2
  · rw [hblock]
    exact u_quantize hwire.p_max
  · rw [hblock]
    exact u_quantize hwire.q_max
  · rw [hblock]
    exact sentBlock_profile n
  · rw [hblock]
    exact ms_roundMs hwire.T_o
  · rw [hblock]
    exact u_quantize hwire.alpha_0
  · rw [hblock]
    exact ms_roundMs hwire.delta_o
  · rw [hblock]
    exact u_quantize hwire.kappa_o
  · rw [hblock]
    exact u_quantize hwire.xi
  · rw [hblock]
    exact u_quantize hwire.b
  · rw [hblock]
    exact u_quantize hwire.rP
  · rw [hblock]
    exact u_quantize hwire.rQ
  · rw [hblock]
    rfl
  · show a.neighbors.length = n.neighbors.length
    rw [ha.neighbors]
  · rcases hi : n.spec.interface with _ | _
    · exact sameAdaptive_sent hwire ha hn epoch_us hi
    · exact sameLC_sent hwire ha hn epoch_us hi

/-- A microgrid assignment leaves nothing of the prior state: the board is the one sent. -/
theorem applied_eq_sentBoard (ha : AssignedFrom n a) {epoch_us : ℤ} {frames : List OutFrame}
    (hf : assignmentToFrames a (some true) epoch_us = .ok frames)
    (hn : a.neighbors.length ≤ agentMaxNeighbors) {timed : List (OutFrame × ℤ)}
    (ht : timed.map Prod.fst = frames) {b b' : Board K} (hb : applyFrames b timed = some b') :
    b' = sentBoard a hn epoch_us (triggeredAt timed) := by
  obtain ⟨b'', happly, hview⟩ := applyFrames_view hf hn ht b
  rw [hb] at happly
  cases happly
  have hlaw : b'.agent.params.law ≠ .finiteTimeAdaptive := by
    rw [← b'.view_law, hview, sentBoard, triggeredBoard_params]
    exact sentParams_law_ne ha hn epoch_us
  rw [← hview, Board.view_of_microgrid hlaw]

/-- Both adaptations start from the same gain. -/
theorem sameAdaptation_start (hwire : OnWire n) :
    SameAdaptation (u (sentBlock n).vartheta_0 : K) 0 0 0 (n.interfaceBlock.make n.dt_s) := by
  have hdict : (microgridDicts n).interface = n.interfaceBlock.asdict := rfl
  rcases hi : n.spec.interface with _ | _
  · have hlc : (microgridDicts n).isLC = false := by
      rw [isLC_microgridDicts, hi]
      rfl
    rw [sentBlock, configuredMicrogrid, hlc, hdict, NodeManifest.interfaceBlock, hi]
    exact ⟨u_quantize hwire.vartheta0, rfl⟩
  · have hlc : (microgridDicts n).isLC = true := by
      rw [isLC_microgridDicts, hi]
      rfl
    rw [sentBlock, configuredMicrogrid, hlc, hdict, NodeManifest.interfaceBlock, hi]
    exact ⟨rfl, rfl, rfl, by simp [u]⟩

/-- **A triggered board and a freshly built controller start together.** -/
theorem together_start (hwire : OnWire n) (ha : AssignedFrom n a)
    (hn : a.neighbors.length ≤ agentMaxNeighbors) (epoch_us nowUs : ℤ) :
    Together (sentBoard a hn epoch_us nowUs : Board K).agent
      (MicrogridController.init n.controllerParams) := by
  have hagent := sentBoard_agent ha hn epoch_us nowUs
  have hvars : (sentBoard a hn epoch_us nowUs : Board K).agent.vars.mg =
      microgridResetVars (sentBlock n) := by
    rw [hagent, microgridReset_mg, sentParams_microgrid ha]
  refine ⟨?_, ?_, ?_⟩
  · rw [hagent]
    exact sameConfig_sent hwire ha hn epoch_us
  · constructor
    · rw [hvars]
      show u (quantize n.plant.X0.1) / u (quantize n.plant.kappa) = n.plant.X0.1 / n.plant.kappa
      rw [u_quantize hwire.X0_P, u_quantize hwire.kappa]
    · rw [hvars]
      show u (quantize n.plant.X0.2) / u (quantize n.plant.kappa) = n.plant.X0.2 / n.plant.kappa
      rw [u_quantize hwire.X0_Q, u_quantize hwire.kappa]
    · rw [hvars]
      exact u_quantize hwire.z0_P
    · rw [hvars]
      exact u_quantize hwire.z0_Q
    · rw [hvars]
      exact u_quantize hwire.c_0
    · rw [hvars]
      exact sameAdaptation_start hwire
    · rw [hagent, microgridReset_counter]
      rfl
  · show (n.interfaceBlock.make n.dt_s).updates ≤ 0
    -- Neither interface has made an increment yet.
    rcases n.interfaceBlock with _ | _
    · exact le_rfl
    · exact le_rfl

end Start

/-! ### The two laws -/

/-- **Board and host run the same microgrid law.** A node of a manifest on the wire grid, under
either interface: whatever state its board was in before the configure, and whatever neighbour
values the two sides are then given, they hold the same integrators, adaptive states and update
counts after any number of ticks below `2^31`, and apply the same command on the next one. -/
theorem microgrid_laws_agree (lib : Libm K) {n : NodeManifest K} (hwire : OnWire n)
    {a : AgentAssignment K} (ha : AssignedFrom n a) {epoch_us : ℤ} {frames : List OutFrame}
    (hf : assignmentToFrames a (some true) epoch_us = .ok frames)
    {timed : List (OutFrame × ℤ)} (ht : timed.map Prod.fst = frames) {b b' : Board K}
    (hb : applyFrames b timed = some b') (vss : List (List ℤ)) (hlen : vss.length < 2 ^ 31) :
    let board := run (boardTick lib) b'.agent vss
    let host := run (MicrogridController.tick lib) (.init n.controllerParams) vss
    SameState board host ∧ board.vars.mg.updates = host.interface.updates ∧
      ∀ vs, (microgridCommand lib (withHeld board vs)).muP = (host.step lib vs).2.aP ∧
        (microgridCommand lib (withHeld board vs)).muQ = (host.step lib vs).2.aQ := by
  intro board host
  have hn := neighbors_le_of_applied hf ht hb
  have hstart := together_start hwire ha hn epoch_us (triggeredAt timed)
  rw [← applied_eq_sentBoard ha hf hn ht hb] at hstart
  have hzero : (MicrogridController.init n.controllerParams).stepCount = 0 := rfl
  have hend : Together board host := hstart.run lib vss (by rw [hzero]; omega)
  have hcount : host.stepCount < 2 ^ 31 := by
    rw [run_stepCount, hzero]
    omega
  refine ⟨hend.state, hend.updates_eq hcount, ?_⟩
  intro vs
  have hcmd := hend.config.command lib hend.state vs
  exact ⟨hcmd.aP, hcmd.aQ⟩

/-! ### A sample node -/

/-- An unpinned node of the benchmark with two neighbours, for an initial sliding gain. -/
def sampleNode (interface : InterfaceKind) (vartheta0 : ℤ) : NodeManifest ℚ where
  spec :=
    { interface := interface
      profile := .per
      p_max := 10
      q_max := 12
      T_o := 30
      alpha_0 := 1
      delta_o := 1 / 8
      kappa_o := 1 / 1000
      xi := 1 / 40
      c_0 := 1 / 10
      mu_max := 10
      gamma := 1 / 400
      eps := 1 / 100
      vartheta0 := vartheta0
      T_c := 40
      beta_c := 2
      Phi := 3 / 1000
      terminal := true
      adapt_band := some (1 / 2)
      p_max_pos := by norm_num
      q_max_pos := by norm_num
      T_o_pos := thirty_pos
      alpha_0_pos := unit_pos
      delta_o_pos := one_eighth_pos
      mu_max_pos := by norm_num
      gamma_nonneg := one_fourHundredth_nonneg
      eps_nonneg := one_hundredth_nonneg
      T_c_pos := by norm_num
      beta_c_pos := by norm_num }
  plant := ⟨1 / 5, (1, 1 / 2), (1, 2), (0, 0), one_fifth_pos⟩
  neighbors := [1, 2]
  dt_s := 1 / 40
  reference := (1, 0)
  pinned := none
  dt_pos := one_fortieth_pos
  pinned_pos := by simp
  connected := by simp

theorem sampleNode_onWire (interface : InterfaceKind) (vartheta0 : ℤ) :
    OnWire (sampleNode interface vartheta0) where
  dt_s := ⟨25, by norm_num [sampleNode]⟩
  T_o := ⟨30000, by norm_num [sampleNode]⟩
  delta_o := ⟨125, by norm_num [sampleNode]⟩
  T_c := ⟨40000, by norm_num [sampleNode]⟩
  kappa := ⟨200000, by norm_num [sampleNode]⟩
  S1 := ⟨1000000, by norm_num [sampleNode]⟩
  S2 := ⟨500000, by norm_num [sampleNode]⟩
  p_max := ⟨10000000, by norm_num [sampleNode]⟩
  q_max := ⟨12000000, by norm_num [sampleNode]⟩
  X0_P := ⟨1000000, by norm_num [sampleNode]⟩
  X0_Q := ⟨2000000, by norm_num [sampleNode]⟩
  z0_P := onGrid_zero _
  z0_Q := onGrid_zero _
  alpha_0 := ⟨1000000, by norm_num [sampleNode]⟩
  kappa_o := ⟨1000, by norm_num [sampleNode]⟩
  xi := ⟨25000, by norm_num [sampleNode]⟩
  c_0 := ⟨100000, by norm_num [sampleNode]⟩
  b := onGrid_zero _
  rP := ⟨0, by norm_num [sampleNode, NodeManifest.ref, NodeManifest.b]⟩
  rQ := ⟨0, by norm_num [sampleNode, NodeManifest.ref, NodeManifest.b]⟩
  mu_max := ⟨10000000, by norm_num [sampleNode]⟩
  gamma := ⟨2500, by norm_num [sampleNode]⟩
  eps := ⟨10000, by norm_num [sampleNode]⟩
  vartheta0 := ⟨vartheta0 * 1000000, by norm_num [sampleNode]⟩
  beta_c := ⟨2000000, by norm_num [sampleNode]⟩
  Phi := ⟨3000, by norm_num [sampleNode]⟩
  adapt_band := by
    rintro w hw
    cases hw
    exact ⟨⟨500000, by norm_num⟩, by norm_num⟩

/-- The assignment of the sample node. -/
def sampleAssigned (interface : InterfaceKind) (vartheta0 : ℤ) : AgentAssignment ℚ :=
  { sampleAssignment interface.name sampleLCDict with
    microgrid := some (microgridDicts (sampleNode interface vartheta0)) }

theorem sampleAssigned_from (interface : InterfaceKind) (vartheta0 : ℤ) :
    AssignedFrom (sampleNode interface vartheta0) (sampleAssigned interface vartheta0) :=
  ⟨rfl, rfl, rfl⟩

/-- The relay encodes the sample node under the LC interface. -/
theorem sampleAssigned_lc_encodes :
    ∃ frames, assignmentToFrames (sampleAssigned .lc 0) (some true) 0 = .ok frames := by
  have hok : (assignmentToFrames (sampleAssigned .lc 0) (some true) 0).isOk := by
    decide +kernel
  rcases h : assignmentToFrames (sampleAssigned .lc 0) (some true) 0 with e | frames
  · rw [h] at hok
    cases hok
  · exact ⟨frames, rfl⟩

/-- The sample node under the LC interface: its board, configured out of the reset state, and its
host controller after two ticks. -/
theorem microgrid_laws_agree_sample :
    ∃ frames b', assignmentToFrames (sampleAssigned .lc 0) (some true) 0 = .ok frames ∧
      applyFrames (boardInit ℚ) (allAt 0 frames) = some b' ∧
      SameState (run (boardTick .atZero) b'.agent [[1000000, 0, 2000000, 0], []])
        (run (MicrogridController.tick .atZero) (.init (sampleNode .lc 0).controllerParams)
          [[1000000, 0, 2000000, 0], []]) := by
  obtain ⟨frames, hf⟩ := sampleAssigned_lc_encodes
  have ht := map_fst_allAt 0 frames
  obtain ⟨b', hb, -⟩ := applyFrames_view hf (by decide) ht (boardInit ℚ)
  exact ⟨frames, b', hf, hb,
    (microgrid_laws_agree .atZero (sampleNode_onWire .lc 0) (sampleAssigned_from .lc 0) hf ht hb
      [[1000000, 0, 2000000, 0], []] (by decide)).1⟩

end VertexTestbed.Conformance
