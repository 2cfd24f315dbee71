import VertexTestbed.Host.Assignment
import VertexTestbed.Host.Proto

/-!
# From an assignment to the frames of a configure

The translation half of `agent/relay.py`. Periods and widths go in milliseconds, rounded the way
Python rounds; everything else in units of `1e-6`. Frames are returned in the order they are sent:
network, algorithm, disturbance, the three microgrid blocks when the assignment carries them, and
the trigger last.
-/

namespace VertexTestbed.Host

variable {K : Type*} [Field K] [LinearOrder K] [FloorRing K]

/-- A frame to send: its type and its payload. -/
abbrev OutFrame := FrameType × Bytes

/-- `lc`: whether the interface kind is the LC one. Every other string selects the adaptive law. -/
def MicrogridDict.isLC (m : MicrogridDict K) : Bool :=
  decide (m.interface_kind = "lc")

/-! ### The keywords of each frame -/

/-- The ALGORITHM keywords of an assignment. -/
def algorithmFields (a : AgentAssignment K) : AlgorithmFields where
  dt_ms := roundMs a.dt_s
  clock_ms := roundMs a.publish_period_s
  state0 := quantize a.state
  vstate0 := quantize a.vstate
  vartheta0 := quantize a.vartheta
  counter0 := 0
  gain_ij := quantize a.gain_ij
  delta := quantize a.delta
  eta := quantize a.eta
  alpha := quantize a.alpha

/-- The DISTURBANCE keywords of an assignment, with the defaults of the `d.get` calls. -/
def disturbanceFields (d : DisturbanceDict K) : DisturbanceFields where
  active := d.enabled.getD false
  sine_amplitude := quantize (d.sine_amplitude.getD 0)
  frequency := quantize (d.sine_frequency_hz.getD 0)
  phase := quantize (d.sine_phase_s.getD 0)
  noise_amplitude := quantize (d.noise_amplitude.getD 0)
  noise_offset := quantize (d.noise_offset.getD (1 / 2))
  beta := quantize (d.beta.getD 0)
  samples := d.period_samples.getD 1000

/-- The MG_PLANT keywords. -/
def mgPlantFields (m : MicrogridDict K) : MgPlantFields where
  profile := if m.plant.profile = "rep" then 0 else 1
  kappa := quantize m.plant.kappa
  S1 := quantize m.plant.S1
  S2 := quantize m.plant.S2
  p_max := quantize m.plant.p_max
  q_max := quantize m.plant.q_max
  X0_P := quantize m.state0_P
  X0_Q := quantize m.state0_Q

/-- The MG_VIRTUAL keywords. -/
def mgVirtualFields (m : MicrogridDict K) : MgVirtualFields where
  T_o := roundMs m.virtual.T_o
  alpha_0 := quantize m.virtual.alpha_0
  delta_o := roundMs m.virtual.delta_o
  kappa_o := quantize m.virtual.kappa_o
  xi := quantize m.virtual.xi
  c_0 := quantize m.virtual.c_0
  b := quantize m.virtual.b
  rP := quantize m.virtual.rP
  rQ := quantize m.virtual.rQ
  degree := m.degree
  z0_P := quantize m.vstate0_P
  z0_Q := quantize m.vstate0_Q

/-- The MG_IFACE keywords: a field of the family that is not selected is zero, and an absent
adaptation band is `-1`. -/
def mgIfaceFields (m : MicrogridDict K) : MgIfaceFields :=
  let lc := m.isLC
  let i := m.interface
  let band := if lc then i.adapt_band else none
  { law := if lc then lawMicrogridLC else lawMicrogridAdaptive
    terminal := if lc then i.terminal.getD false else false
    mu_max := quantize i.mu_max
    gamma := if lc then 0 else quantize (i.gamma.getD 0)
    eps := if lc then 0 else quantize (i.eps.getD 0)
    vartheta_0 := if lc then 0 else quantize (i.vartheta0.getD 0)
    T_c := if lc then roundMs (i.T_c.getD 0) else 0
    beta_c := if lc then quantize (i.beta_c.getD 0) else 0
    Phi := if lc then quantize (i.Phi.getD 0) else 0
    delta_c := if lc then roundMs (i.delta_c.getD 0) else 0
    adapt_band :=
      match band with
      | some width => quantize width
      | none => -1 }

/-! ### The frames -/

/-- `microgrid_frames`. -/
def microgridFrames (m : MicrogridDict K) : Except EncodeError (List OutFrame) := do
  let plant ← encodeMicrogridPlant (mgPlantFields m)
  let virt ← encodeMicrogridVirtual (mgVirtualFields m)
  let iface ← encodeMicrogridIface (mgIfaceFields m)
  return [(.mgPlant, plant), (.mgVirtual, virt), (.mgIface, iface)]

/-- The frames of the microgrid block, none when the assignment does not carry it. -/
def microgridPart (a : AgentAssignment K) : Except EncodeError (List OutFrame) :=
  match a.microgrid with
  | some m => microgridFrames m
  | none => .ok []

/-- The trigger, when one is asked for. -/
def triggerPart (a : AgentAssignment K) (trigger : Option Bool) (epoch_us : ℤ) :
    Except EncodeError (List OutFrame) :=
  match trigger with
  | some t => do
    let control ← encodeControl t (a.disturbance_seed % 2 ^ 32) epoch_us
    return [(.control, control)]
  | none => .ok []

/-- `assignment_to_frames`. -/
def assignmentToFrames (a : AgentAssignment K) (trigger : Option Bool) (epoch_us : ℤ) :
    Except EncodeError (List OutFrame) := do
  let network ← encodeNetwork a.enabled a.node_id a.neighbors
  let algorithm ← encodeAlgorithm (algorithmFields a)
  let disturbance ← encodeDisturbance (disturbanceFields a.disturbance)
  let microgrid ← microgridPart a
  let control ← triggerPart a trigger epoch_us
  return [(.network, network), (.algorithm, algorithm), (.disturbance, disturbance)] ++ microgrid ++
    control

/-! ### What a returned list says -/

/-- The three microgrid frames, when they are built. -/
theorem microgridFrames_eq_ok {m : MicrogridDict K} {fs : List OutFrame}
    (h : microgridFrames m = .ok fs) :
    ∃ plant virt iface : Bytes,
      encodeMicrogridPlant (mgPlantFields m) = .ok plant ∧
      encodeMicrogridVirtual (mgVirtualFields m) = .ok virt ∧
      encodeMicrogridIface (mgIfaceFields m) = .ok iface ∧
      fs = [(.mgPlant, plant), (.mgVirtual, virt), (.mgIface, iface)] := by
  rw [microgridFrames, except_bind_eq_ok] at h
  obtain ⟨plant, hplant, h⟩ := h
  rw [except_bind_eq_ok] at h
  obtain ⟨virt, hvirt, h⟩ := h
  rw [except_bind_eq_ok] at h
  obtain ⟨iface, hiface, h⟩ := h
  cases h
  exact ⟨plant, virt, iface, hplant, hvirt, hiface, rfl⟩

omit [Field K] [LinearOrder K] [FloorRing K] in
/-- The CONTROL frame, when it is built. -/
theorem triggerPart_eq_ok {a : AgentAssignment K} {t : Bool} {epoch_us : ℤ} {fs : List OutFrame}
    (h : triggerPart a (some t) epoch_us = .ok fs) :
    ∃ control : Bytes,
      encodeControl t (a.disturbance_seed % 2 ^ 32) epoch_us = .ok control ∧
        fs = [(.control, control)] := by
  rw [triggerPart, except_bind_eq_ok] at h
  obtain ⟨control, hcontrol, h⟩ := h
  cases h
  exact ⟨control, hcontrol, rfl⟩

/-- **What an assignment that is turned into frames consists of.** -/
theorem assignmentToFrames_eq_ok {a : AgentAssignment K} {trigger : Option Bool} {epoch_us : ℤ}
    {fs : List OutFrame} (h : assignmentToFrames a trigger epoch_us = .ok fs) :
    ∃ (network algorithm disturbance : Bytes) (microgrid control : List OutFrame),
      encodeNetwork a.enabled a.node_id a.neighbors = .ok network ∧
      encodeAlgorithm (algorithmFields a) = .ok algorithm ∧
      encodeDisturbance (disturbanceFields a.disturbance) = .ok disturbance ∧
      microgridPart a = .ok microgrid ∧
      triggerPart a trigger epoch_us = .ok control ∧
      fs = [(.network, network), (.algorithm, algorithm), (.disturbance, disturbance)] ++
        microgrid ++ control := by
  rw [assignmentToFrames, except_bind_eq_ok] at h
  obtain ⟨network, hnetwork, h⟩ := h
  rw [except_bind_eq_ok] at h
  obtain ⟨algorithm, halgorithm, h⟩ := h
  rw [except_bind_eq_ok] at h
  obtain ⟨disturbance, hdisturbance, h⟩ := h
  rw [except_bind_eq_ok] at h
  obtain ⟨microgrid, hmicrogrid, h⟩ := h
  rw [except_bind_eq_ok] at h
  obtain ⟨control, hcontrol, h⟩ := h
  cases h
  exact ⟨network, algorithm, disturbance, microgrid, control, hnetwork, halgorithm, hdisturbance,
    hmicrogrid, hcontrol, rfl⟩

end VertexTestbed.Host
