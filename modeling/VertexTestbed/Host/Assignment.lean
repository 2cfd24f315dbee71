import VertexTestbed.Host.Microgrid

/-!
# From a manifest to an assignment

`agent/assignment.py` and the part of `topology/loader.py` that builds a node's parameter blocks.
An `AgentAssignment` is what the hub sends to one agent; its `microgrid` and `disturbance` fields
are plain dictionaries there. A key that the relay reads with `[...]` is a field here, since a
missing one raises before anything is sent; a key that it reads with `.get` is an `Option`.

The manifest's models check their fields when they are built, so those checks are fields of
`MicrogridSpec` and `NodePlantSpec`. Fields that neither the relay nor a microgrid controller reads
(the node type, the radio block, the provenance) are left out.
-/

namespace VertexTestbed.Host

variable {K : Type*} [Field K] [LinearOrder K]

/-! ### The dictionaries -/

/-- `microgrid["plant"]`. -/
structure PlantDict (K : Type*) where
  kappa : K
  S1 : K
  S2 : K
  profile : String
  p_max : K
  q_max : K

/-- `microgrid["virtual"]`. -/
structure VirtualDict (K : Type*) where
  T_o : K
  alpha_0 : K
  delta_o : K
  kappa_o : K
  xi : K
  c_0 : K
  b : K
  rP : K
  rQ : K

/-- `microgrid["interface"]`, of either family. -/
structure InterfaceDict (K : Type*) where
  mu_max : K
  gamma : Option K
  eps : Option K
  vartheta0 : Option K
  T_c : Option K
  beta_c : Option K
  Phi : Option K
  terminal : Option Bool
  delta_c : Option K
  adapt_band : Option K

/-- `AgentAssignment.microgrid`, when it is not empty. `T_c`, beside the blocks, is the deadline the
experiment is held to. -/
structure MicrogridDict (K : Type*) where
  interface_kind : String
  T_c : Option K
  plant : PlantDict K
  virtual : VirtualDict K
  interface : InterfaceDict K
  degree : ℤ
  state0_P : K
  state0_Q : K
  vstate0_P : K
  vstate0_Q : K

/-- `AgentAssignment.disturbance`. -/
structure DisturbanceDict (K : Type*) where
  enabled : Option Bool
  sine_amplitude : Option K
  sine_frequency_hz : Option K
  sine_phase_s : Option K
  noise_amplitude : Option K
  noise_offset : Option K
  beta : Option K
  period_samples : Option ℤ

/-- `AgentAssignment`. -/
structure AgentAssignment (K : Type*) where
  node_id : ℤ
  enabled : Bool
  neighbors : List ℤ
  dt_s : K
  publish_period_s : K
  state : K
  vstate : K
  vartheta : K
  eta : K
  gain_ij : K
  alpha : K
  delta : K
  disturbance : DisturbanceDict K
  disturbance_seed : ℤ
  microgrid : Option (MicrogridDict K)

/-! ### The manifest -/

/-- `MicrogridSpec.interface`. -/
inductive InterfaceKind where
  | adaptive
  | lc
  deriving DecidableEq

/-- The literal a manifest spells an interface with. -/
def InterfaceKind.name : InterfaceKind → String
  | .adaptive => "adaptive"
  | .lc => "lc"

/-- The literal a manifest spells a profile with. -/
def Profile.name : Profile → String
  | .rep => "rep"
  | .per => "per"

/-- `MicrogridSpec`: the fleet-wide settings. `eps` is the threshold of the node in question. -/
structure MicrogridSpec (K : Type*) [Field K] [LinearOrder K] where
  interface : InterfaceKind
  profile : Profile
  p_max : K
  q_max : K
  T_o : K
  alpha_0 : K
  delta_o : K
  kappa_o : K
  xi : K
  c_0 : K
  mu_max : K
  gamma : K
  eps : K
  vartheta0 : K
  T_c : K
  beta_c : K
  Phi : K
  terminal : Bool
  adapt_band : Option K
  p_max_pos : 0 < p_max
  q_max_pos : 0 < q_max
  T_o_pos : 0 < T_o
  alpha_0_pos : 0 < alpha_0
  delta_o_pos : 0 < delta_o
  mu_max_pos : 0 < mu_max
  gamma_nonneg : 0 ≤ gamma
  eps_nonneg : 0 ≤ eps
  T_c_pos : 0 < T_c
  beta_c_pos : 0 < beta_c

/-- `NodePlantSpec`: one generator. -/
structure NodePlantSpec (K : Type*) [Field K] [LinearOrder K] where
  kappa : K
  S : K × K
  X0 : K × K
  z0 : K × K
  kappa_pos : 0 < kappa

/-- What a manifest says about one microgrid node: its settings, its generator, its neighbours, its
control period, and from `CoordinationSpec` the reference and its own entry of `pinned`. -/
structure NodeManifest (K : Type*) [Field K] [LinearOrder K] where
  spec : MicrogridSpec K
  plant : NodePlantSpec K
  neighbors : List ℤ
  dt_s : K
  reference : K × K
  pinned : Option K
  dt_pos : 0 < dt_s
  pinned_pos : ∀ w, pinned = some w → 0 < w
  /-- A node without a neighbour is pinned; the controller cannot be built otherwise. -/
  connected : neighbors = [] → pinned ≠ none

namespace NodeManifest

variable (n : NodeManifest K)

/-- `b`: the pinning coefficient, `coord.pinned.get(node.id, 0.0)`. -/
def b : K := n.pinned.getD 0

/-- `ref`: the reference, for a pinned node only. -/
def ref : K × K := if 0 < n.b then n.reference else (0, 0)

theorem b_nonneg : 0 ≤ n.b := by
  rw [b]
  rcases h : n.pinned with _ | w
  · exact le_rfl
  · exact (n.pinned_pos w h).le

theorem ref_of_unpinned (h : n.b = 0) : n.ref.1 = 0 ∧ n.ref.2 = 0 := by
  rw [ref, if_neg (by rw [h]; exact lt_irrefl _)]
  exact ⟨rfl, rfl⟩

theorem D_pos [IsStrictOrderedRing K] : 0 < (n.neighbors.length : K) + n.b := by
  rcases hn : n.neighbors with _ | ⟨i, is⟩
  · obtain ⟨w, hw⟩ := Option.ne_none_iff_exists'.1 (n.connected hn)
    rw [b, hw, List.length_nil, Nat.cast_zero, zero_add]
    exact n.pinned_pos w hw
  · have hpos : (0 : K) < ((i :: is).length : K) := Nat.cast_pos.2 (by simp)
    exact add_pos_of_pos_of_nonneg hpos n.b_nonneg

/-- The interface block of `microgrid_blocks`. Only the fields the manifest has are passed, so an LC
block keeps `delta_c` and `adapt_after` at `None` and an adaptive one its trigger at `"sigma"`. -/
def interfaceBlock : InterfaceParams K :=
  match n.spec.interface with
  | .adaptive =>
    .adaptive
      { gamma := n.spec.gamma
        eps := n.spec.eps
        vartheta0 := n.spec.vartheta0
        mu_max := n.spec.mu_max
        trigger := .sigma
        gamma_nonneg := n.spec.gamma_nonneg
        eps_nonneg := n.spec.eps_nonneg }
  | .lc =>
    .lc
      { kappa := n.plant.kappa
        profile := n.spec.profile
        T_c := n.spec.T_c
        beta_c := n.spec.beta_c
        Phi := n.spec.Phi
        terminal := n.spec.terminal
        mu_max := n.spec.mu_max
        p_max := n.spec.p_max
        q_max := n.spec.q_max
        delta_c := none
        adapt_band := n.spec.adapt_band
        adapt_after := none
        kappa_pos := n.plant.kappa_pos
        beta_c_pos := n.spec.beta_c_pos }

/-- `controller_params_for`, with the blocks of `microgrid_blocks`. -/
def controllerParams [IsStrictOrderedRing K] : ControllerParams K where
  dt_s := n.dt_s
  plant :=
    { kappa := n.plant.kappa
      S1 := n.plant.S.1
      S2 := n.plant.S.2
      profile := n.spec.profile
      p_max := n.spec.p_max
      q_max := n.spec.q_max
      kappa_pos := n.plant.kappa_pos }
  virtual :=
    { T_o := n.spec.T_o
      alpha_0 := n.spec.alpha_0
      delta_o := n.spec.delta_o
      kappa_o := n.spec.kappa_o
      xi := n.spec.xi
      c_0 := n.spec.c_0
      b := n.b
      rP := n.ref.1
      rQ := n.ref.2
      T_o_pos := n.spec.T_o_pos
      delta_o_pos := n.spec.delta_o_pos
      b_nonneg := n.b_nonneg
      unpinned := n.ref_of_unpinned }
  interface := n.interfaceBlock
  degree := n.neighbors.length
  state0_P := n.plant.X0.1
  state0_Q := n.plant.X0.2
  vstate0_P := n.plant.z0.1
  vstate0_Q := n.plant.z0.2
  dt_pos := n.dt_pos
  D_pos := n.D_pos

end NodeManifest

/-! ### `asdict` -/

/-- `asdict` of an interface block: the fields of its own dataclass and no others. -/
def InterfaceParams.asdict : InterfaceParams K → InterfaceDict K
  | .adaptive p =>
    { mu_max := p.mu_max
      gamma := some p.gamma
      eps := some p.eps
      vartheta0 := some p.vartheta0
      T_c := none
      beta_c := none
      Phi := none
      terminal := none
      delta_c := none
      adapt_band := none }
  | .lc p =>
    { mu_max := p.mu_max
      gamma := none
      eps := none
      vartheta0 := none
      T_c := some p.T_c
      beta_c := some p.beta_c
      Phi := some p.Phi
      terminal := some p.terminal
      delta_c := p.delta_c
      adapt_band := p.adapt_band }

/-- `_microgrid_dicts`: the blocks of `microgrid_blocks`, with the experiment's deadline carried
beside them under either interface. -/
def microgridDicts [IsStrictOrderedRing K] (n : NodeManifest K) : MicrogridDict K where
  interface_kind := n.spec.interface.name
  T_c := some n.spec.T_c
  plant :=
    let p := n.controllerParams.plant
    ⟨p.kappa, p.S1, p.S2, p.profile.name, p.p_max, p.q_max⟩
  virtual :=
    let v := n.controllerParams.virtual
    ⟨v.T_o, v.alpha_0, v.delta_o, v.kappa_o, v.xi, v.c_0, v.b, v.rP, v.rQ⟩
  interface := n.controllerParams.interface.asdict
  degree := n.controllerParams.degree
  state0_P := n.controllerParams.state0_P
  state0_Q := n.controllerParams.state0_Q
  vstate0_P := n.controllerParams.vstate0_P
  vstate0_Q := n.controllerParams.vstate0_Q

/-- An assignment of `assignment_for` for a microgrid node: whatever else it holds, its period, its
neighbours and its blocks are the manifest's. -/
structure AssignedFrom [IsStrictOrderedRing K] (n : NodeManifest K) (a : AgentAssignment K) :
    Prop where
  dt_s : a.dt_s = n.dt_s
  neighbors : a.neighbors = n.neighbors
  microgrid : a.microgrid = some (microgridDicts n)

end VertexTestbed.Host
