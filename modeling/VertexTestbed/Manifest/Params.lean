import VertexTestbed.Manifest.Models
import VertexTestbed.Host.Interface

/-!
# Controller parameters, as dataclasses

The parameter dataclasses of `controllers/`: for each the record of its fields, what its
`__post_init__` checks, and the subtype of the records that pass. `asdict` writes every field, and
`cls(**d)` reads the keywords `d` back: an unknown keyword is refused, a missing one takes its
default. Both are the codec of the record, so that one undoes the other.

A dataclass does not look at the types of its arguments; here a keyword is read at the type of its
field, as JSON brings it.
-/

namespace VertexTestbed.Manifest

variable {K : Type} [Field K]

/-! ### `PlantParams` -/

/-- The fields of `PlantParams`. -/
structure PlantFields (K : Type) where
  kappa : K
  S1 : K
  S2 : K
  profile : Host.Profile
  p_max : K
  q_max : K
  b : K

namespace PlantFields

/-- `__post_init__`. The profile is one of `PROFILES` by its type. -/
def Valid [LinearOrder K] (p : PlantFields K) : Prop :=
  0 < p.kappa

instance [LinearOrder K] : DecidablePred (Valid (K := K)) :=
  fun _ ↦ inferInstanceAs (Decidable (_ < _))

/-- The keywords. -/
def fields : Fields K (PlantFields K) (PlantFields K) :=
  Fields.build PlantFields.mk
    |>.field "kappa" .float (·.kappa) none
    |>.field "S1" .float (·.S1) none
    |>.field "S2" .float (·.S2) none
    |>.field "profile" profileCodec (·.profile) (some .per)
    |>.field "p_max" .float (·.p_max) (some 10)
    |>.field "q_max" .float (·.q_max) (some 12)
    |>.field "b" .float (·.b) (some 108)

theorem fields_nodup : (fields (K := K)).keys.Nodup := by simp [fields]

theorem fields_out (p : PlantFields K) : fields.out p = p := rfl

end PlantFields

/-- `PlantParams`. -/
def PlantParams (K : Type) [Field K] [LinearOrder K] : Type :=
  {p : PlantFields K // p.Valid}

/-- `asdict` and `PlantParams(**d)`. -/
def PlantParams.codec [LinearOrder K] : JsonCodec K (PlantParams K) :=
  (PlantFields.fields.record PlantFields.fields_nodup PlantFields.fields_out).checked
    PlantFields.Valid

/-! ### `VirtualParams` -/

/-- The fields of `VirtualParams`. -/
structure VirtualFields (K : Type) where
  T_o : K
  alpha_0 : K
  delta_o : K
  kappa_o : K
  xi : K
  c_0 : K
  b : K
  rP : K
  rQ : K

namespace VirtualFields

/-- `__post_init__`: an unpinned node is not given the reference. -/
def Valid [LinearOrder K] (v : VirtualFields K) : Prop :=
  (0 < v.T_o ∧ 0 < v.delta_o) ∧ 0 ≤ v.b ∧ (v.b = 0 → v.rP = 0 ∧ v.rQ = 0)

instance [LinearOrder K] : DecidablePred (Valid (K := K)) :=
  fun _ ↦ inferInstanceAs (Decidable (_ ∧ _))

/-- The keywords. -/
def fields : Fields K (VirtualFields K) (VirtualFields K) :=
  Fields.build VirtualFields.mk
    |>.field "T_o" .float (·.T_o) (some 30)
    |>.field "alpha_0" .float (·.alpha_0) (some 1)
    |>.field "delta_o" .float (·.delta_o) (some (1 / 8))
    |>.field "kappa_o" .float (·.kappa_o) (some (1 / 1000))
    |>.field "xi" .float (·.xi) (some (1 / 40))
    |>.field "c_0" .float (·.c_0) (some (1 / 10))
    |>.field "b" .float (·.b) (some 0)
    |>.field "rP" .float (·.rP) (some 0)
    |>.field "rQ" .float (·.rQ) (some 0)

theorem fields_nodup : (fields (K := K)).keys.Nodup := by simp [fields]

theorem fields_out (v : VirtualFields K) : fields.out v = v := rfl

end VirtualFields

/-- `VirtualParams`. -/
def VirtualParams (K : Type) [Field K] [LinearOrder K] : Type :=
  {v : VirtualFields K // v.Valid}

/-- `asdict` and `VirtualParams(**d)`. -/
def VirtualParams.codec [LinearOrder K] : JsonCodec K (VirtualParams K) :=
  (VirtualFields.fields.record VirtualFields.fields_nodup VirtualFields.fields_out).checked
    VirtualFields.Valid

/-! ### `AdaptiveParams` and `LCParams` -/

/-- The name of a trigger, in `TRIGGERS`. -/
def triggerName : Host.Trigger → String
  | .sigma => "sigma"
  | .residual => "residual"

theorem trigger_mem_all (t : Host.Trigger) : t ∈ [Host.Trigger.sigma, .residual] := by
  cases t <;> simp

theorem triggerName_injective : Function.Injective triggerName := by
  intro s t h
  cases s <;> cases t <;> first | rfl | exact absurd h (by decide)

/-- A trigger, as a string of `TRIGGERS`. -/
def triggerCodec : JsonCodec K Host.Trigger :=
  .literal triggerName _ trigger_mem_all triggerName_injective

/-- The fields of `AdaptiveParams`. -/
structure AdaptiveFields (K : Type) where
  gamma : K
  eps : K
  vartheta0 : K
  mu_max : K
  trigger : Host.Trigger

namespace AdaptiveFields

/-- `__post_init__`. The trigger is one of `TRIGGERS` by its type. -/
def Valid [LinearOrder K] (p : AdaptiveFields K) : Prop :=
  0 ≤ p.gamma ∧ 0 ≤ p.eps

instance [LinearOrder K] : DecidablePred (Valid (K := K)) :=
  fun _ ↦ inferInstanceAs (Decidable (_ ∧ _))

/-- The keywords. -/
def fields : Fields K (AdaptiveFields K) (AdaptiveFields K) :=
  Fields.build AdaptiveFields.mk
    |>.field "gamma" .float (·.gamma) none
    |>.field "eps" .float (·.eps) (some 0)
    |>.field "vartheta0" .float (·.vartheta0) (some 0)
    |>.field "mu_max" .float (·.mu_max) (some 10)
    |>.field "trigger" triggerCodec (·.trigger) (some .sigma)

theorem fields_nodup : (fields (K := K)).keys.Nodup := by simp [fields]

theorem fields_out (p : AdaptiveFields K) : fields.out p = p := rfl

end AdaptiveFields

/-- `AdaptiveParams`. -/
def AdaptiveParams (K : Type) [Field K] [LinearOrder K] : Type :=
  {p : AdaptiveFields K // p.Valid}

/-- `asdict` and `AdaptiveParams(**d)`. -/
def AdaptiveParams.codec [LinearOrder K] : JsonCodec K (AdaptiveParams K) :=
  (AdaptiveFields.fields.record AdaptiveFields.fields_nodup AdaptiveFields.fields_out).checked
    AdaptiveFields.Valid

/-- The fields of `LCParams`. -/
structure LCFields (K : Type) where
  kappa : K
  profile : Host.Profile
  T_c : K
  beta_c : K
  Phi : K
  terminal : Bool
  mu_max : K
  p_max : K
  q_max : K
  delta_c : Option K
  adapt_band : Option K
  adapt_after : Option K

namespace LCFields

/-- `__post_init__`. -/
def Valid [LinearOrder K] (p : LCFields K) : Prop :=
  0 < p.kappa ∧ 0 < p.beta_c

instance [LinearOrder K] : DecidablePred (Valid (K := K)) :=
  fun _ ↦ inferInstanceAs (Decidable (_ ∧ _))

/-- The keywords. -/
def fields : Fields K (LCFields K) (LCFields K) :=
  Fields.build LCFields.mk
    |>.field "kappa" .float (·.kappa) none
    |>.field "profile" profileCodec (·.profile) (some .per)
    |>.field "T_c" .float (·.T_c) (some 40)
    |>.field "beta_c" .float (·.beta_c) (some 2)
    |>.field "Phi" .float (·.Phi) (some (3 / 1000))
    |>.field "terminal" .bool (·.terminal) (some true)
    |>.field "mu_max" .float (·.mu_max) (some 10)
    |>.field "p_max" .float (·.p_max) (some 10)
    |>.field "q_max" .float (·.q_max) (some 12)
    |>.optional "delta_c" .float (·.delta_c)
    |>.optional "adapt_band" .float (·.adapt_band)
    |>.optional "adapt_after" .float (·.adapt_after)

theorem fields_nodup : (fields (K := K)).keys.Nodup := by simp [fields]

theorem fields_out (p : LCFields K) : fields.out p = p := rfl

end LCFields

/-- `LCParams`. -/
def LCParams (K : Type) [Field K] [LinearOrder K] : Type :=
  {p : LCFields K // p.Valid}

/-- `asdict` and `LCParams(**d)`. -/
def LCParams.codec [LinearOrder K] : JsonCodec K (LCParams K) :=
  (LCFields.fields.record LCFields.fields_nodup LCFields.fields_out).checked LCFields.Valid

/-! ### `ControllerParams` -/

/-- `DisturbanceParams`. -/
structure DisturbanceParams (K : Type) where
  enabled : Bool
  noise_amplitude : K
  noise_offset : K
  beta : K
  sine_amplitude : K
  sine_frequency_hz : K
  sine_phase_s : K
  period_samples : ℤ

namespace DisturbanceParams

/-- The keywords. -/
def fields : Fields K (DisturbanceParams K) (DisturbanceParams K) :=
  Fields.build DisturbanceParams.mk
    |>.field "enabled" .bool (·.enabled) (some false)
    |>.field "noise_amplitude" .float (·.noise_amplitude) (some 0)
    |>.field "noise_offset" .float (·.noise_offset) (some 0)
    |>.field "beta" .float (·.beta) (some 0)
    |>.field "sine_amplitude" .float (·.sine_amplitude) (some 0)
    |>.field "sine_frequency_hz" .float (·.sine_frequency_hz) (some 0)
    |>.field "sine_phase_s" .float (·.sine_phase_s) (some 0)
    |>.field "period_samples" .int (·.period_samples) (some 1000)

theorem fields_nodup : (fields (K := K)).keys.Nodup := by simp [fields]

theorem fields_out (d : DisturbanceParams K) : fields.out d = d := rfl

/-- `DisturbanceParams` as a dict. -/
def codec : JsonCodec K (DisturbanceParams K) :=
  fields.record fields_nodup fields_out

/-- `DisturbanceParams()`. -/
def default : DisturbanceParams K :=
  ⟨false, 0, 0, 0, 0, 0, 0, 1000⟩

end DisturbanceParams

variable [LinearOrder K]

/-- The interface block: which dataclass it is decides the arm. -/
inductive InterfaceParams (K : Type) [Field K] [LinearOrder K] where
  | adaptive (p : AdaptiveParams K)
  | lc (p : LCParams K)

/-- The fields of `ControllerParams`. -/
structure ParamFields (K : Type) [Field K] [LinearOrder K] where
  dt_s : K
  state : K
  vstate : K
  vartheta : K
  plant : Option (PlantParams K)
  virtual : Option (VirtualParams K)
  interface : Option (InterfaceParams K)
  degree : ℤ
  state0_P : K
  state0_Q : K
  vstate0_P : K
  vstate0_Q : K
  eta : K
  gain_ij : K
  alpha : K
  delta : K
  disturbance : DisturbanceParams K

/-- `__post_init__`: a zero period would spin the control loop. -/
def ParamFields.Valid (p : ParamFields K) : Prop :=
  0 < p.dt_s

instance : DecidablePred (ParamFields.Valid (K := K)) :=
  fun _ ↦ inferInstanceAs (Decidable (_ < _))

/-- `ControllerParams`. -/
def ControllerParams (K : Type) [Field K] [LinearOrder K] : Type :=
  {p : ParamFields K // p.Valid}

namespace ParamFields

/-- `ControllerParams(dt_s=dt_s)`. -/
def base (dt_s : K) : ParamFields K where
  dt_s := dt_s
  state := 0
  vstate := 0
  vartheta := 0
  plant := none
  virtual := none
  interface := none
  degree := 0
  state0_P := 0
  state0_Q := 0
  vstate0_P := 0
  vstate0_Q := 0
  eta := 5 / 100000
  gain_ij := 1 / 10
  alpha := 1 / 2
  delta := 1 / 100
  disturbance := .default

/-- The keywords that are neither the period nor a block. -/
def fields (p : ParamFields K) : Fields K (ParamFields K) (ParamFields K) :=
  Fields.build (fun state vstate vartheta degree state0_P state0_Q vstate0_P vstate0_Q eta gain_ij
      alpha delta disturbance ↦
      { p with state, vstate, vartheta, degree, state0_P, state0_Q, vstate0_P, vstate0_Q, eta,
               gain_ij, alpha, delta, disturbance })
    |>.field "state" .float (·.state) (some 0)
    |>.field "vstate" .float (·.vstate) (some 0)
    |>.field "vartheta" .float (·.vartheta) (some 0)
    |>.field "degree" .int (·.degree) (some 0)
    |>.field "state0_P" .float (·.state0_P) (some 0)
    |>.field "state0_Q" .float (·.state0_Q) (some 0)
    |>.field "vstate0_P" .float (·.vstate0_P) (some 0)
    |>.field "vstate0_Q" .float (·.vstate0_Q) (some 0)
    |>.field "eta" .float (·.eta) (some (5 / 100000))
    |>.field "gain_ij" .float (·.gain_ij) (some (1 / 10))
    |>.field "alpha" .float (·.alpha) (some (1 / 2))
    |>.field "delta" .float (·.delta) (some (1 / 100))
    |>.field "disturbance" DisturbanceParams.codec (·.disturbance) (some .default)

end ParamFields

end VertexTestbed.Manifest
