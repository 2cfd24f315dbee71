import VertexTestbed.Firmware.Prng

/-!
# `struct agent`

The board's configuration and state, field for field as `agent.h` declares them. Scaled quantities
and counters are integers, the integrators are elements of the field `K` that stands for `float`,
and the per-neighbour arrays are functions on the `AGENT_MAX_NEIGHBORS` slots. `n_neighbors` carries
its bound in its type: `apply_network` is its only writer and refuses a longer list.

Fields that no modelled function reads or writes do not exist here.
-/

namespace VertexTestbed.Firmware

/-- `AGENT_MAX_NEIGHBORS` (`N_MAX_NEIGHBORS` in `common.h`). -/
abbrev agentMaxNeighbors : ℕ := 4

/-- An index into the per-neighbour arrays. -/
abbrev Slot := Fin agentMaxNeighbors

/-- `enum control_law`. -/
inductive ControlLaw where
  | finiteTimeAdaptive
  | microgridAdaptive
  | microgridLC
  deriving DecidableEq

/-- The watchdog causes, `MG_WD_*` on the board and `WATCHDOG_CAUSES` on the host. -/
inductive WatchdogCause where
  | none
  | state
  | virtual
  | vartheta
  | saturation
  deriving DecidableEq

/-- `struct microgrid_params`. Durations are in milliseconds, everything else in units of `1e-6`,
except `degree`, which is a count. -/
structure MicrogridParams where
  kappa : ℤ
  S1 : ℤ
  S2 : ℤ
  p_max : ℤ
  q_max : ℤ
  profile : UInt8
  T_o : ℤ
  alpha_0 : ℤ
  delta_o : ℤ
  kappa_o : ℤ
  xi : ℤ
  c_0 : ℤ
  b : ℤ
  rP : ℤ
  rQ : ℤ
  degree : ℤ
  mu_max : ℤ
  gamma : ℤ
  eps : ℤ
  vartheta_0 : ℤ
  T_c : ℤ
  beta_c : ℤ
  Phi : ℤ
  delta_c : ℤ
  adapt_band : ℤ
  terminal : UInt8
  X0_P : ℤ
  X0_Q : ℤ
  z0_P : ℤ
  z0_Q : ℤ
  deriving DecidableEq

/-- `struct microgrid_vars`. `updates` is a `uint32_t` and `sat_run` a `uint16_t`; both are kept
reduced by the functions that increment them. -/
structure MicrogridVars (K : Type*) where
  xP : K
  xQ : K
  zP : K
  zQ : K
  c : K
  wP : K
  wQ : K
  vartheta : K
  S1_hat : K
  S2_hat : K
  updates : ℕ
  watchdog : WatchdogCause
  satRun : ℕ

/-- `struct disturbance_params`. -/
structure DisturbanceParams where
  active : Bool
  sineAmplitude : ℤ
  frequency : ℤ
  phase : ℤ
  noiseAmplitude : ℤ
  noiseOffset : ℤ
  beta : ℤ
  samples : ℤ
  deriving DecidableEq

/-- `struct agent_params`. -/
structure AgentParams where
  enabled : Bool
  running : Bool
  firstTimeRunning : Bool
  allNeighborsObserved : Bool
  nodeId : UInt8
  nNeighbors : Fin (agentMaxNeighbors + 1)
  neighborsId : Slot → UInt8
  availableNeighbors : Slot → Bool
  neighborsEnabled : Slot → Bool
  dt : ℤ
  clock : ℤ
  state_0 : ℤ
  vstate_0 : ℤ
  vartheta_0 : ℤ
  counter_0 : ℤ
  gain_ij : ℤ
  alpha : ℤ
  delta : ℤ
  eta : ℤ
  seed : ℕ
  epochUs : ℕ
  law : ControlLaw
  mgBlocks : UInt8
  disturbance : DisturbanceParams
  microgrid : MicrogridParams

/-- `struct agent_vars`. -/
structure AgentVars (K : Type*) where
  state : ℤ
  vstate : ℤ
  vartheta : ℤ
  counter : ℤ
  timeUs : ℤ
  neighborSeq : Slot → UInt16
  neighborRssi : Slot → Int8
  txSeq : UInt16
  stateQ : ℤ
  vstateQ : ℤ
  neighborVstates : Slot → ℤ
  neighborVstatesQ : Slot → ℤ
  stateF : K
  vstateF : K
  varthetaF : K
  mg : MicrogridVars K

/-- `struct agent`. -/
structure Agent (K : Type*) where
  params : AgentParams
  vars : AgentVars K

/-- The agent together with the generator its laws draw from. -/
structure Board (K : Type*) where
  agent : Agent K
  prng : Pcg

/-- The slots in use: `for (j = 0; j < n_neighbors; j++)`. -/
def AgentParams.slots (p : AgentParams) : List Slot :=
  (List.finRange agentMaxNeighbors).filter fun j ↦ j.val < p.nNeighbors.val

/-- The slots in use are the indices below the neighbour count. -/
theorem slots_map_val (p : AgentParams) : p.slots.map Fin.val = List.range p.nNeighbors.val := by
  have hall : ∀ n : Fin (agentMaxNeighbors + 1),
      ((List.finRange agentMaxNeighbors).filter fun j ↦ j.val < n.val).map Fin.val =
        List.range n.val := by
    decide
  exact hall p.nNeighbors

theorem slots_length (p : AgentParams) : p.slots.length = p.nNeighbors.val := by
  rw [← List.length_range (n := p.nNeighbors.val), ← slots_map_val, List.length_map]

/-- A slot in use is at its own index. -/
theorem getElem?_slots {p : AgentParams} {j : Slot} (hj : j ∈ p.slots) :
    p.slots[j.val]? = some j := by
  have hall : ∀ (n : Fin (agentMaxNeighbors + 1)) (j : Slot),
      j ∈ (List.finRange agentMaxNeighbors).filter (fun j ↦ j.val < n.val) →
        ((List.finRange agentMaxNeighbors).filter fun j ↦ j.val < n.val)[j.val]? = some j := by
    decide
  exact hall p.nNeighbors j hj

/-- A list over the slots in use, read off by index. -/
theorem map_range_eq_slots {β : Type*} {p : AgentParams} {g : ℕ → β} {f : Slot → β}
    (h : ∀ j ∈ p.slots, g j.val = f j) : (List.range p.nNeighbors.val).map g = p.slots.map f := by
  rw [← slots_map_val, List.map_map]
  exact List.map_congr_left h

/-! ### Initialisation -/

/-- `memset(…, 0, …)` over the microgrid block. -/
def MicrogridParams.zero : MicrogridParams where
  kappa := 0
  S1 := 0
  S2 := 0
  p_max := 0
  q_max := 0
  profile := 0
  T_o := 0
  alpha_0 := 0
  delta_o := 0
  kappa_o := 0
  xi := 0
  c_0 := 0
  b := 0
  rP := 0
  rQ := 0
  degree := 0
  mu_max := 0
  gamma := 0
  eps := 0
  vartheta_0 := 0
  T_c := 0
  beta_c := 0
  Phi := 0
  delta_c := 0
  adapt_band := 0
  terminal := 0
  X0_P := 0
  X0_Q := 0
  z0_P := 0
  z0_Q := 0

variable (K : Type*) [Field K]

/-- `agent_init`: all zero, but for the two periods and the disturbance period. -/
def agentInit : Agent K where
  params :=
    { enabled := false
      running := false
      firstTimeRunning := false
      allNeighborsObserved := false
      nodeId := 0
      nNeighbors := 0
      neighborsId := fun _ ↦ 0
      availableNeighbors := fun _ ↦ false
      neighborsEnabled := fun _ ↦ false
      dt := 200
      clock := 1000
      state_0 := 0
      vstate_0 := 0
      vartheta_0 := 0
      counter_0 := 0
      gain_ij := 0
      alpha := 0
      delta := 0
      eta := 0
      seed := 0
      epochUs := 0
      law := .finiteTimeAdaptive
      mgBlocks := 0
      disturbance := ⟨false, 0, 0, 0, 0, 0, 0, 1000⟩
      microgrid := .zero }
  vars :=
    { state := 0
      vstate := 0
      vartheta := 0
      counter := 0
      timeUs := 0
      neighborSeq := fun _ ↦ 0
      neighborRssi := fun _ ↦ 0
      txSeq := 0
      stateQ := 0
      vstateQ := 0
      neighborVstates := fun _ ↦ 0
      neighborVstatesQ := fun _ ↦ 0
      stateF := 0
      vstateF := 0
      varthetaF := 0
      mg := ⟨0, 0, 0, 0, 0, 0, 0, 0, 0, 0, 0, .none, 0⟩ }

/-- The board at power-up. -/
def boardInit : Board K := ⟨agentInit K, pcgInit⟩

end VertexTestbed.Firmware
