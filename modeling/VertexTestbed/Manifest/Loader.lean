import VertexTestbed.Manifest.Params

/-!
# The parameters of one node for one run

`topology/loader.py`: seeds, initial conditions, and `controller_params_for`, which merges the
settings of a manifest with what one node declares. This is what an in-process simulation runs on;
an agent runs on an assignment, which is built from the same parameters.

NumPy's generators are a parameter, `Numpy`. A manifest is valid, so every check of the parameter
dataclasses passes: what is left to fail is a seed that is negative, and a microgrid node without a
generator.
-/

namespace VertexTestbed.Manifest

variable {K : Type} [Field K] [LinearOrder K]

/-- The random numbers of NumPy. -/
structure Numpy (K : Type) where
  /-- `SeedSequence(entropy).generate_state(1, dtype=uint32)[0]`. -/
  generate_state : List ℕ → ℕ
  /-- The `k`-th number between 0 and 1 that `default_rng(seed)` draws. -/
  random : ℕ → ℕ → K

/-- The exceptions of the loader and of an assignment. -/
inductive LoadError where
  /-- `ValueError` of `SeedSequence`: an entry is negative. -/
  | negativeSeed
  /-- `ValueError`: `node {id} has no plant block but the manifest selects {name}, …`. -/
  | noPlant (id : ℤ) (name : String)
  /-- `KeyError`. -/
  | missing (key : String)
  /-- `KeyError` of `by_id`. -/
  | unknownNode (id : ℤ)
  /-- What a dataclass or a model raises for a block it is given. -/
  | refused (name : String)
  deriving DecidableEq

/-! ### Seeds and initial conditions -/

/-- `sum((i + 1) * b for i, b in enumerate(purpose.encode()))`. -/
def tag (purpose : String) : ℕ :=
  ((purpose.toList.flatMap String.utf8EncodeChar).zipIdx.map fun e ↦ (e.2 + 1) * e.1.toNat).sum

/-- `node_seed`. -/
def node_seed (np : Numpy K) (seed run_index node_id : ℤ) (purpose : String) : Except LoadError ℕ :=
  if seed < 0 ∨ run_index < 0 ∨ node_id < 0 then .error .negativeSeed
  else .ok (np.generate_state [seed.toNat, run_index.toNat, node_id.toNat, tag purpose])

/-- `IC_RANGES`. -/
def IC_RANGES : AgentType → K × K
  | .ble => (0, 10)
  | .wifi => (10, 20)
  | .bridge => (20, 30)

/-- `PHASE_RANGE_S`. -/
def PHASE_RANGE_S : K × K := (0, 1)

/-- `rng.uniform(lo, hi)`, with the `k`-th number of a generator. -/
def uniform (np : Numpy K) (seed k : ℕ) (range : K × K) : K :=
  range.1 + (range.2 - range.1) * np.random seed k

/-- What `initial_conditions` returns. -/
structure InitialConditions (K : Type) where
  state : K
  vstate : K
  vartheta : K
  sine_phase_s : K

/-- `initial_conditions`. -/
def initial_conditions (np : Numpy K) (node : NodeSpec K) (seed run_index : ℤ) :
    Except LoadError (InitialConditions K) := do
  let s ← node_seed np seed run_index node.1.id "ic"
  let range := IC_RANGES node.1.type
  return { state := uniform np s 0 range
           vstate := uniform np s 1 range
           vartheta := 0
           sine_phase_s := uniform np s 2 PHASE_RANGE_S }

/-! ### The microgrid blocks -/

/-- `coord.pinned.get(node.id, 0.0)`, or no pin without a coordination block. -/
def pin (manifest : ExperimentManifest K) (node : NodeSpec K) : K :=
  match manifest.1.coordination with
  | some coord => (coord.1.pinned.1.lookup node.1.id).getD 0
  | none => 0

/-- The reference, for a pinned node only. -/
def ref (manifest : ExperimentManifest K) (node : NodeSpec K) : K × K :=
  match manifest.1.coordination with
  | some coord => if 0 < pin manifest node then coord.1.reference else (0, 0)
  | none => (0, 0)

/-- A pinning coefficient is never negative. -/
theorem pin_nonneg (manifest : ExperimentManifest K) (node : NodeSpec K) :
    0 ≤ pin manifest node := by
  rw [pin]
  split
  · rename_i coord hcoord
    rcases h : coord.1.pinned.1.lookup node.1.id with - | w
    · exact le_rfl
    · exact (coord.2 _ (lookup_mem h)).le
  · exact le_rfl

theorem ref_of_unpinned {manifest : ExperimentManifest K} {node : NodeSpec K}
    (h : pin manifest node = 0) : ref manifest node = (0, 0) := by
  rw [ref]
  split
  · rw [if_neg (by rw [h]; exact lt_irrefl _)]
  · rfl

/-- A node's threshold is never negative. -/
theorem eps_for_nonneg (m : MicrogridSpec K) (id : ℤ) : 0 ≤ m.1.eps_for id := by
  have heps := m.2.2
  rw [MicrogridFields.eps_for]
  split
  · rename_i x hx
    rw [hx] at heps
    exact heps
  · rename_i d hd
    rw [hd] at heps
    rcases h : d.1.lookup id with - | w
    · exact le_rfl
    · exact heps _ (lookup_mem h)

/-- What `microgrid_blocks` returns. -/
structure MicrogridBlocks (K : Type) [Field K] [LinearOrder K] where
  plant : PlantParams K
  virtual : VirtualParams K
  interface : InterfaceParams K
  degree : ℤ
  state0_P : K
  state0_Q : K
  vstate0_P : K
  vstate0_Q : K

section Blocks

variable (manifest : ExperimentManifest K) (node : NodeSpec K) (m : MicrogridSpec K)
  (p : NodePlantSpec K)

/-- The emulator's data. -/
def plantBlock : PlantParams K :=
  ⟨{ kappa := p.1.kappa
     S1 := p.1.S.1
     S2 := p.1.S.2
     profile := m.1.profile
     p_max := m.1.p_max
     q_max := m.1.q_max
     b := 108 }, p.2⟩

/-- The node's share of the virtual layer. -/
def virtualBlock : VirtualParams K :=
  ⟨{ T_o := m.1.T_o
     alpha_0 := m.1.alpha_0
     delta_o := m.1.delta_o
     kappa_o := m.1.kappa_o
     xi := m.1.xi
     c_0 := m.1.c_0
     b := pin manifest node
     rP := (ref manifest node).1
     rQ := (ref manifest node).2 },
    ⟨m.2.1.2.2.1, m.2.1.2.2.2.2.1⟩, pin_nonneg manifest node, fun h ↦ by
      rw [ref_of_unpinned h]
      exact ⟨rfl, rfl⟩⟩

/-- The adaptive interface, with this node's threshold. -/
def adaptiveBlock : AdaptiveParams K :=
  ⟨{ gamma := m.1.gamma
     eps := m.1.eps_for node.1.id
     vartheta0 := m.1.vartheta0
     mu_max := m.1.mu_max
     trigger := .sigma }, m.2.1.2.2.2.2.2.2.1, eps_for_nonneg m node.1.id⟩

/-- The LC interface. -/
def lcBlock : LCParams K :=
  ⟨{ kappa := p.1.kappa
     profile := m.1.profile
     T_c := m.1.T_c
     beta_c := m.1.beta_c
     Phi := m.1.Phi
     terminal := m.1.terminal
     mu_max := m.1.mu_max
     p_max := m.1.p_max
     q_max := m.1.q_max
     delta_c := none
     adapt_band := m.1.adapt_band
     adapt_after := none }, p.2, m.2.1.2.2.2.2.2.2.2.2⟩

/-- The interface the manifest selects. -/
def interfaceBlock : InterfaceParams K :=
  match m.1.interface with
  | .adaptive => .adaptive (adaptiveBlock node m)
  | .lc => .lc (lcBlock m p)

/-- `microgrid_blocks`, of a manifest whose `controller.microgrid` is `m`. -/
def microgrid_blocks : Except LoadError (MicrogridBlocks K) :=
  match node.1.plant with
  | none => .error (.noPlant node.1.id manifest.1.controller.1.name)
  | some p =>
    .ok
      { plant := plantBlock m p
        virtual := virtualBlock manifest node m
        interface := interfaceBlock node m p
        degree := node.1.neighbors.length
        state0_P := p.1.X0.1
        state0_Q := p.1.X0.2
        vstate0_P := p.1.z0.1
        vstate0_Q := p.1.z0.2 }

end Blocks

/-! ### `controller_params_for` -/

/-- `ControllerParams(dt_s=dt_s, **blocks)`. -/
def MicrogridBlocks.params (blocks : MicrogridBlocks K) (dt_s : K) (h : 0 < dt_s) :
    ControllerParams K :=
  ⟨{ ParamFields.base dt_s with
      plant := some blocks.plant
      virtual := some blocks.virtual
      interface := some blocks.interface
      degree := blocks.degree
      state0_P := blocks.state0_P
      state0_Q := blocks.state0_Q
      vstate0_P := blocks.vstate0_P
      vstate0_Q := blocks.vstate0_Q }, h⟩

/-- The parameters of the scalar law. -/
def scalarParams (c : ControllerSpec K) (ics : InitialConditions K) : ControllerParams K :=
  ⟨{ ParamFields.base c.1.dt_s with
      state := ics.state
      vstate := ics.vstate
      vartheta := ics.vartheta
      eta := c.1.eta
      gain_ij := c.1.gain_ij
      alpha := c.1.alpha
      delta := c.1.delta
      disturbance :=
        let d := c.1.disturbance.1
        { enabled := d.enabled
          noise_amplitude := d.noise_amplitude
          noise_offset := d.noise_offset
          beta := d.beta
          sine_amplitude := d.sine_amplitude
          sine_frequency_hz := d.sine_frequency_hz
          -- a phase of its own for each node, unless one is declared
          sine_phase_s := d.sine_phase_s.getD ics.sine_phase_s
          period_samples := d.period_samples } }, c.2.1⟩

/-- `controller_params_for`. -/
def controller_params_for (np : Numpy K) (manifest : ExperimentManifest K) (node : NodeSpec K)
    (run_index : ℤ) : Except LoadError (ControllerParams K) := do
  let ics ← initial_conditions np node manifest.1.seed run_index
  match manifest.1.controller.1.microgrid with
  | some m => do
    let blocks ← microgrid_blocks manifest node m
    return blocks.params manifest.1.controller.1.dt_s manifest.1.controller.2.1
  | none => return scalarParams manifest.1.controller ics

end VertexTestbed.Manifest
