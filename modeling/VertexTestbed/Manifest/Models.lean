import VertexTestbed.Lib.JsonModel
import VertexTestbed.Host.Assignment

/-!
# Experiment manifests

`topology/models.py`: the models a manifest is validated into. For each model there is the record of
its fields, the check its constraints and validators make, the subtype of the records that pass it,
and the description of its JSON form. A constraint on a field and a validator over several are one
check here, since a record that fails either is refused.

Pydantic's conversions from one scalar type to another are left out, except that an integer is a
number: a document is read with the types a dump writes.
-/

namespace VertexTestbed.Manifest

variable {K : Type*} [Field K]

/-! ### Literals -/

/-- `AgentType`. -/
inductive AgentType where
  | ble
  | wifi
  | bridge
  deriving DecidableEq

/-- The string an agent type is. -/
def AgentType.name : AgentType → String
  | .ble => "ble"
  | .wifi => "wifi"
  | .bridge => "bridge"

/-- These are all the types of an agent. -/
theorem AgentType.mem_all (t : AgentType) : t ∈ [AgentType.ble, .wifi, .bridge] := by
  cases t <;> simp

/-- The type of an agent is read off its name. -/
theorem AgentType.name_injective : Function.Injective AgentType.name := by
  intro s t h
  cases s <;> cases t <;> first | rfl | exact absurd h (by decide)

/-- The JSON form of an agent type. -/
def AgentType.codec : JsonCodec K AgentType :=
  .literal AgentType.name _ AgentType.mem_all AgentType.name_injective

/-- These are all the interfaces. -/
theorem interface_mem_all (i : Host.InterfaceKind) :
    i ∈ [Host.InterfaceKind.adaptive, .lc] := by
  cases i <;> simp

/-- The interface is read off its name. -/
theorem interface_name_injective : Function.Injective Host.InterfaceKind.name := by
  intro s t h
  cases s <;> cases t <;> first | rfl | exact absurd h (by decide)

/-- The JSON form of `MicrogridSpec.interface`. -/
def interfaceCodec : JsonCodec K Host.InterfaceKind :=
  .literal Host.InterfaceKind.name _ interface_mem_all interface_name_injective

/-- These are all the profiles. -/
theorem profile_mem_all (p : Host.Profile) : p ∈ [Host.Profile.rep, .per] := by
  cases p <;> simp

/-- The profile is read off its name. -/
theorem profile_name_injective : Function.Injective Host.Profile.name := by
  intro s t h
  cases s <;> cases t <;> first | rfl | exact absurd h (by decide)

/-- The JSON form of `MicrogridSpec.profile`. -/
def profileCodec : JsonCodec K Host.Profile :=
  .literal Host.Profile.name _ profile_mem_all profile_name_injective

/-- `ExperimentManifest.ic_scheme`. -/
inductive IcScheme where
  | pcg64_v1
  | legacy_arc4

/-- The literal of an initial-condition scheme. -/
def IcScheme.name : IcScheme → String
  | .pcg64_v1 => "pcg64-v1"
  | .legacy_arc4 => "legacy-arc4"

/-- These are all the schemes of initial conditions. -/
theorem IcScheme.mem_all (s : IcScheme) : s ∈ [IcScheme.pcg64_v1, .legacy_arc4] := by
  cases s <;> simp

/-- The scheme is read off its name. -/
theorem IcScheme.name_injective : Function.Injective IcScheme.name := by
  intro s t h
  cases s <;> cases t <;> first | rfl | exact absurd h (by decide)

/-- The JSON form of `ic_scheme`. -/
def IcScheme.codec : JsonCodec K IcScheme :=
  .literal IcScheme.name _ IcScheme.mem_all IcScheme.name_injective

/-! ### `DisturbanceSpec` -/

/-- The fields of `DisturbanceSpec`. -/
structure DisturbanceFields (K : Type*) where
  enabled : Bool
  noise_amplitude : K
  noise_offset : K
  beta : K
  sine_amplitude : K
  sine_frequency_hz : K
  sine_phase_s : Option K
  period_samples : ℤ

namespace DisturbanceFields

/-- The constraints of `DisturbanceSpec`. -/
def Valid [LinearOrder K] (d : DisturbanceFields K) : Prop :=
  0 ≤ d.noise_amplitude ∧ 0 ≤ d.sine_amplitude ∧ 0 ≤ d.sine_frequency_hz ∧ 0 < d.period_samples

instance [LinearOrder K] : DecidablePred (Valid (K := K)) :=
  fun _ ↦ inferInstanceAs (Decidable (_ ∧ _))

/-- The JSON form, field by field. -/
def fields : Fields K (DisturbanceFields K) (DisturbanceFields K) :=
  Fields.build DisturbanceFields.mk
    |>.field "enabled" .bool (·.enabled) (some false)
    |>.field "noise_amplitude" .float (·.noise_amplitude) (some 0)
    |>.field "noise_offset" .float (·.noise_offset) (some (1 / 2))
    |>.field "beta" .float (·.beta) (some 0)
    |>.field "sine_amplitude" .float (·.sine_amplitude) (some 0)
    |>.field "sine_frequency_hz" .float (·.sine_frequency_hz) (some 0)
    |>.optional "sine_phase_s" .float (·.sine_phase_s)
    |>.field "period_samples" .int (·.period_samples) (some 1000)

theorem fields_nodup : (fields (K := K)).keys.Nodup := by simp [fields]

theorem fields_out (d : DisturbanceFields K) : fields.out d = d := rfl

end DisturbanceFields

/-- `DisturbanceSpec`. -/
def DisturbanceSpec (K : Type*) [Field K] [LinearOrder K] : Type _ :=
  {d : DisturbanceFields K // d.Valid}

/-- The JSON form of `DisturbanceSpec`. -/
def DisturbanceSpec.codec [LinearOrder K] : JsonCodec K (DisturbanceSpec K) :=
  (DisturbanceFields.fields.record DisturbanceFields.fields_nodup
    DisturbanceFields.fields_out).checked DisturbanceFields.Valid

/-! ### `MicrogridSpec` -/

/-- `float | dict[int, float]`: one threshold for every agent, or one for each. -/
abbrev Threshold (K : Type*) := K ⊕ Dict ℤ K

/-- The JSON form of a threshold. -/
def Threshold.codec : JsonCodec K (Threshold K) :=
  .union .float (.intDict .float) fun _ _ ↦ rfl

/-- The fields of `MicrogridSpec`. -/
structure MicrogridFields (K : Type*) where
  interface : Host.InterfaceKind
  profile : Host.Profile
  p_max : K
  q_max : K
  T_o : K
  alpha_0 : K
  delta_o : K
  kappa_o : K
  xi : K
  c_0 : K
  mu_max : K
  gamma : K
  eps : Threshold K
  vartheta0 : K
  T_c : K
  beta_c : K
  Phi : K
  terminal : Bool
  adapt_band : Option K

namespace MicrogridFields

/-- `_eps_nonnegative`. -/
def EpsNonneg [LinearOrder K] : Threshold K → Prop
  | .inl x => 0 ≤ x
  | .inr d => ∀ e ∈ d.1, 0 ≤ e.2

instance [LinearOrder K] : DecidablePred (EpsNonneg (K := K))
  | .inl x => inferInstanceAs (Decidable (0 ≤ x))
  | .inr d => inferInstanceAs (Decidable (∀ e ∈ d.1, 0 ≤ e.2))

/-- The constraints of `MicrogridSpec`. -/
def Valid [LinearOrder K] (m : MicrogridFields K) : Prop :=
  (0 < m.p_max ∧ 0 < m.q_max ∧ 0 < m.T_o ∧ 0 < m.alpha_0 ∧ 0 < m.delta_o ∧ 0 < m.mu_max ∧
    0 ≤ m.gamma ∧ 0 < m.T_c ∧ 0 < m.beta_c) ∧ EpsNonneg m.eps

instance [LinearOrder K] : DecidablePred (Valid (K := K)) :=
  fun _ ↦ inferInstanceAs (Decidable (_ ∧ _))

/-- The JSON form, field by field. -/
def fields : Fields K (MicrogridFields K) (MicrogridFields K) :=
  Fields.build MicrogridFields.mk
    |>.field "interface" interfaceCodec (·.interface) (some .adaptive)
    |>.field "profile" profileCodec (·.profile) (some .per)
    |>.field "p_max" .float (·.p_max) (some 10)
    |>.field "q_max" .float (·.q_max) (some 12)
    |>.field "T_o" .float (·.T_o) (some 30)
    |>.field "alpha_0" .float (·.alpha_0) (some 1)
    |>.field "delta_o" .float (·.delta_o) (some (1 / 8))
    |>.field "kappa_o" .float (·.kappa_o) (some (1 / 1000))
    |>.field "xi" .float (·.xi) (some (1 / 40))
    |>.field "c_0" .float (·.c_0) (some (1 / 10))
    |>.field "mu_max" .float (·.mu_max) (some 10)
    |>.field "gamma" .float (·.gamma) (some (1 / 400))
    |>.field "eps" Threshold.codec (·.eps) (some (.inl 0))
    |>.field "vartheta0" .float (·.vartheta0) (some 0)
    |>.field "T_c" .float (·.T_c) (some 40)
    |>.field "beta_c" .float (·.beta_c) (some 2)
    |>.field "Phi" .float (·.Phi) (some (3 / 1000))
    |>.field "terminal" .bool (·.terminal) (some true)
    |>.optional "adapt_band" .float (·.adapt_band)

theorem fields_nodup : (fields (K := K)).keys.Nodup := by simp [fields]

theorem fields_out (m : MicrogridFields K) : fields.out m = m := rfl

/-- `eps_for`: this agent's threshold, from the scalar or the per-agent mapping. -/
def eps_for (m : MicrogridFields K) (node_id : ℤ) : K :=
  match m.eps with
  | .inl x => x
  | .inr d => (d.1.lookup node_id).getD 0

end MicrogridFields

/-- `MicrogridSpec`. -/
def MicrogridSpec (K : Type*) [Field K] [LinearOrder K] : Type _ :=
  {m : MicrogridFields K // m.Valid}

/-- The JSON form of `MicrogridSpec`. -/
def MicrogridSpec.codec [LinearOrder K] : JsonCodec K (MicrogridSpec K) :=
  (MicrogridFields.fields.record MicrogridFields.fields_nodup
    MicrogridFields.fields_out).checked MicrogridFields.Valid

/-! ### `NodePlantSpec` -/

/-- The fields of `NodePlantSpec`. -/
structure NodePlantFields (K : Type*) where
  kappa : K
  S : K × K
  X0 : K × K
  z0 : K × K

namespace NodePlantFields

/-- The constraint of `NodePlantSpec`. -/
def Valid [LinearOrder K] (p : NodePlantFields K) : Prop :=
  0 < p.kappa

instance [LinearOrder K] : DecidablePred (Valid (K := K)) :=
  fun _ ↦ inferInstanceAs (Decidable (_ < _))

/-- The JSON form, field by field. -/
def fields : Fields K (NodePlantFields K) (NodePlantFields K) :=
  Fields.build NodePlantFields.mk
    |>.field "kappa" .float (·.kappa) none
    |>.field "S" (.pair .float .float) (·.S) none
    |>.field "X0" (.pair .float .float) (·.X0) (some (0, 0))
    |>.field "z0" (.pair .float .float) (·.z0) (some (0, 0))

theorem fields_nodup : (fields (K := K)).keys.Nodup := by simp [fields]

theorem fields_out (p : NodePlantFields K) : fields.out p = p := rfl

end NodePlantFields

/-- `NodePlantSpec`. -/
def NodePlantSpec (K : Type*) [Field K] [LinearOrder K] : Type _ :=
  {p : NodePlantFields K // p.Valid}

/-- The plant of a node passes its own checks. -/
theorem NodePlantSpec.valid [LinearOrder K] (p : NodePlantSpec K) : p.1.Valid := p.2

/-- The JSON form of `NodePlantSpec`. -/
def NodePlantSpec.codec [LinearOrder K] : JsonCodec K (NodePlantSpec K) :=
  (NodePlantFields.fields.record NodePlantFields.fields_nodup
    NodePlantFields.fields_out).checked NodePlantFields.Valid

/-! ### `RadioSpec` -/

/-- The fields of `RadioSpec`. -/
structure RadioFields (K : Type*) where
  adv_interval_ms : K
  adv_interval_max_ms : Option K
  scan_interval_ms : K
  scan_window_ms : K
  channel_map : ℤ
  filter_duplicates : Bool
  passive_scan : Bool
  tx_power_dbm : Option K

namespace RadioFields

/-- The constraints of `RadioSpec`, with `_adv_range_ordered` and `_window_fits`. -/
def Valid [LinearOrder K] (r : RadioFields K) : Prop :=
  (100 ≤ r.adv_interval_ms ∧ r.adv_interval_ms ≤ 10240) ∧
  (∀ x ∈ r.adv_interval_max_ms, 100 ≤ x ∧ x ≤ 10240) ∧
  (5 / 2 ≤ r.scan_interval_ms ∧ r.scan_interval_ms ≤ 10240) ∧
  (5 / 2 ≤ r.scan_window_ms ∧ r.scan_window_ms ≤ 10240) ∧
  (1 ≤ r.channel_map ∧ r.channel_map ≤ 7) ∧
  (∀ x ∈ r.tx_power_dbm, 0 ≤ x ∧ x ≤ 30) ∧
  (∀ x ∈ r.adv_interval_max_ms, r.adv_interval_ms ≤ x) ∧
  r.scan_window_ms ≤ r.scan_interval_ms

instance [LinearOrder K] : DecidablePred (Valid (K := K)) :=
  fun _ ↦ inferInstanceAs (Decidable (_ ∧ _))

/-- The JSON form, field by field. -/
def fields : Fields K (RadioFields K) (RadioFields K) :=
  Fields.build RadioFields.mk
    |>.field "adv_interval_ms" .float (·.adv_interval_ms) (some 100)
    |>.optional "adv_interval_max_ms" .float (·.adv_interval_max_ms)
    |>.field "scan_interval_ms" .float (·.scan_interval_ms) (some 100)
    |>.field "scan_window_ms" .float (·.scan_window_ms) (some 100)
    |>.field "channel_map" .int (·.channel_map) (some 7)
    |>.field "filter_duplicates" .bool (·.filter_duplicates) (some false)
    |>.field "passive_scan" .bool (·.passive_scan) (some true)
    |>.optional "tx_power_dbm" .float (·.tx_power_dbm)

theorem fields_nodup : (fields (K := K)).keys.Nodup := by simp [fields]

theorem fields_out (r : RadioFields K) : fields.out r = r := rfl

end RadioFields

/-- `RadioSpec`. -/
def RadioSpec (K : Type*) [Field K] [LinearOrder K] : Type _ :=
  {r : RadioFields K // r.Valid}

/-- The JSON form of `RadioSpec`. -/
def RadioSpec.codec [LinearOrder K] : JsonCodec K (RadioSpec K) :=
  (RadioFields.fields.record RadioFields.fields_nodup
    RadioFields.fields_out).checked RadioFields.Valid

/-! ### `StructureSpec`, `CoordinationSpec` and `ScheduledEvent` -/

/-- `StructureSpec`. It has no constraint. -/
structure StructureSpec (K : Type*) where
  generator : String
  params : List (String × Json K)

namespace StructureSpec

/-- The JSON form, field by field. -/
def fields : Fields K (StructureSpec K) (StructureSpec K) :=
  Fields.build StructureSpec.mk
    |>.field "generator" .str (·.generator) none
    |>.field "params" .anyDict (·.params) (some [])

omit [Field K] in
theorem fields_nodup : (fields (K := K)).keys.Nodup := by simp [fields]

omit [Field K] in
theorem fields_out (s : StructureSpec K) : fields.out s = s := rfl

/-- The JSON form of `StructureSpec`. -/
def codec : JsonCodec K (StructureSpec K) :=
  fields.record fields_nodup fields_out

end StructureSpec

/-- The fields of `CoordinationSpec`. -/
structure CoordinationFields (K : Type*) where
  reference : K × K
  pinned : Dict ℤ K

namespace CoordinationFields

/-- `_positive_weights`. -/
def Valid [LinearOrder K] (c : CoordinationFields K) : Prop :=
  ∀ e ∈ c.pinned.1, 0 < e.2

instance [LinearOrder K] : DecidablePred (Valid (K := K)) :=
  fun c ↦ inferInstanceAs (Decidable (∀ e ∈ c.pinned.1, 0 < e.2))

/-- The JSON form, field by field. -/
def fields : Fields K (CoordinationFields K) (CoordinationFields K) :=
  Fields.build CoordinationFields.mk
    |>.field "reference" (.pair .float .float) (·.reference) none
    |>.field "pinned" (.intDict .float) (·.pinned) (some (Dict.of []))

theorem fields_nodup : (fields (K := K)).keys.Nodup := by simp [fields]

theorem fields_out (c : CoordinationFields K) : fields.out c = c := rfl

end CoordinationFields

/-- `CoordinationSpec`. -/
def CoordinationSpec (K : Type*) [Field K] [LinearOrder K] : Type _ :=
  {c : CoordinationFields K // c.Valid}

/-- The JSON form of `CoordinationSpec`. -/
def CoordinationSpec.codec [LinearOrder K] : JsonCodec K (CoordinationSpec K) :=
  (CoordinationFields.fields.record CoordinationFields.fields_nodup
    CoordinationFields.fields_out).checked CoordinationFields.Valid

/-- The fields of `ScheduledEvent`. -/
structure EventFields (K : Type*) where
  at_s : K
  nodes : List ℤ
  set : List (String × Json K)

namespace EventFields

/-- `FROZEN`: what an event may never touch. -/
def FROZEN : List String := ["reference", "pinned", "coordination"]

/-- The constraints of `ScheduledEvent`, with `_has_changes`. -/
def Valid [LinearOrder K] (e : EventFields K) : Prop :=
  0 < e.at_s ∧ e.nodes ≠ [] ∧ e.set.isEmpty = false ∧ ∀ x ∈ e.set, x.1 ∉ FROZEN

instance [LinearOrder K] : DecidablePred (Valid (K := K)) :=
  fun _ ↦ inferInstanceAs (Decidable (_ ∧ _))

/-- The JSON form, field by field. -/
def fields : Fields K (EventFields K) (EventFields K) :=
  Fields.build EventFields.mk
    |>.field "at_s" .float (·.at_s) none
    |>.field "nodes" (.list .int) (·.nodes) none
    |>.field "set" .anyDict (·.set) (some [])

theorem fields_nodup : (fields (K := K)).keys.Nodup := by simp [fields]

theorem fields_out (e : EventFields K) : fields.out e = e := rfl

end EventFields

/-- `ScheduledEvent`. -/
def ScheduledEvent (K : Type*) [Field K] [LinearOrder K] : Type _ :=
  {e : EventFields K // e.Valid}

/-- The JSON form of `ScheduledEvent`. -/
def ScheduledEvent.codec [LinearOrder K] : JsonCodec K (ScheduledEvent K) :=
  (EventFields.fields.record EventFields.fields_nodup
    EventFields.fields_out).checked EventFields.Valid

/-! ### Models with other models in them -/

variable [LinearOrder K]

/-- `DisturbanceSpec()`. -/
def DisturbanceFields.default : DisturbanceFields K :=
  ⟨false, 0, 1 / 2, 0, 0, 0, none, 1000⟩

/-- The defaults of the disturbance pass its checks. -/
theorem DisturbanceFields.default_valid : (default (K := K)).Valid :=
  ⟨le_rfl, le_rfl, le_rfl, thousand_pos⟩

/-- The fields of `ControllerSpec`. -/
structure ControllerFields (K : Type*) [Field K] [LinearOrder K] where
  name : String
  dt_s : K
  eta : K
  gain_ij : K
  alpha : K
  delta : K
  disturbance : DisturbanceSpec K
  microgrid : Option (MicrogridSpec K)

namespace ControllerFields

/-- The constraints of `ControllerSpec`. -/
def Valid (c : ControllerFields K) : Prop :=
  0 < c.dt_s ∧ 0 < c.alpha ∧ c.alpha ≤ 1

instance : DecidablePred (Valid (K := K)) :=
  fun _ ↦ inferInstanceAs (Decidable (_ ∧ _))

/-- The JSON form, field by field. -/
def fields : Fields K (ControllerFields K) (ControllerFields K) :=
  Fields.build ControllerFields.mk
    |>.field "name" .str (·.name) (some "finite_time_adaptive")
    |>.field "dt_s" .float (·.dt_s) (some (1 / 5))
    |>.field "eta" .float (·.eta) (some (5 / 100000))
    |>.field "gain_ij" .float (·.gain_ij) (some (1 / 10))
    |>.field "alpha" .float (·.alpha) (some (1 / 2))
    |>.field "delta" .float (·.delta) (some (1 / 100))
    |>.field "disturbance" DisturbanceSpec.codec (·.disturbance)
      (some ⟨.default, DisturbanceFields.default_valid⟩)
    |>.optional "microgrid" MicrogridSpec.codec (·.microgrid)

theorem fields_nodup : (fields (K := K)).keys.Nodup := by simp [fields]

theorem fields_out (c : ControllerFields K) : fields.out c = c := rfl

end ControllerFields

/-- `ControllerSpec`. -/
def ControllerSpec (K : Type*) [Field K] [LinearOrder K] : Type _ :=
  {c : ControllerFields K // c.Valid}

/-- The JSON form of `ControllerSpec`. -/
def ControllerSpec.codec : JsonCodec K (ControllerSpec K) :=
  (ControllerFields.fields.record ControllerFields.fields_nodup
    ControllerFields.fields_out).checked ControllerFields.Valid

/-- `MAX_NODE_ID`: the wire format carries a node id in a `uint8`. -/
def MAX_NODE_ID : ℤ := 255

/-- The octets of a dotted address: decimal, at most three digits, no leading zero, at most 255. -/
def validOctet (o : List Char) : Bool :=
  !o.isEmpty && o.all Char.isDigit && o.length ≤ 3 && (o == ['0'] || o.head? != some '0') &&
    (o.foldl (fun n c ↦ 10 * n + (c.toNat - '0'.toNat)) 0) ≤ 255

/-- `ipaddress.IPv4Address` accepts the string. -/
def validIPv4 (ip : String) : Bool :=
  let octets := ip.toList.splitOn '.'
  octets.length = 4 && octets.all validOctet

/-- The fields of `NodeSpec`. -/
structure NodeFields (K : Type*) [Field K] [LinearOrder K] where
  id : ℤ
  ip : String
  type : AgentType
  enabled : Bool
  publish_period_s : K
  neighbors : List ℤ
  plant : Option (NodePlantSpec K)

namespace NodeFields

/-- The constraints of `NodeSpec`, with `_valid_ipv4` and `_no_self_loop_or_dupes`. -/
def Valid (n : NodeFields K) : Prop :=
  (1 ≤ n.id ∧ n.id ≤ MAX_NODE_ID) ∧ validIPv4 n.ip = true ∧ 0 < n.publish_period_s ∧
  n.id ∉ n.neighbors ∧ n.neighbors.Nodup

instance : DecidablePred (Valid (K := K)) :=
  fun _ ↦ inferInstanceAs (Decidable (_ ∧ _))

/-- The JSON form, field by field. -/
def fields : Fields K (NodeFields K) (NodeFields K) :=
  Fields.build NodeFields.mk
    |>.field "id" .int (·.id) none
    |>.field "ip" .str (·.ip) none
    |>.field "type" AgentType.codec (·.type) none
    |>.field "enabled" .bool (·.enabled) (some true)
    |>.field "publish_period_s" .float (·.publish_period_s) (some 1)
    |>.field "neighbors" (.list .int) (·.neighbors) (some [])
    |>.optional "plant" NodePlantSpec.codec (·.plant)

theorem fields_nodup : (fields (K := K)).keys.Nodup := by simp [fields]

theorem fields_out (n : NodeFields K) : fields.out n = n := rfl

end NodeFields

/-- `NodeSpec`. -/
def NodeSpec (K : Type*) [Field K] [LinearOrder K] : Type _ :=
  {n : NodeFields K // n.Valid}

/-- The JSON form of `NodeSpec`. -/
def NodeSpec.codec : JsonCodec K (NodeSpec K) :=
  (NodeFields.fields.record NodeFields.fields_nodup NodeFields.fields_out).checked NodeFields.Valid

/-! ### `ExperimentManifest` -/

/-- `RadioSpec()`. -/
def RadioFields.default : RadioFields K :=
  ⟨100, none, 100, 100, 7, false, true, none⟩

/-- `ControllerSpec()`. -/
def ControllerFields.default : ControllerFields K :=
  ⟨"finite_time_adaptive", 1 / 5, 5 / 100000, 1 / 10, 1 / 2, 1 / 100,
    ⟨.default, DisturbanceFields.default_valid⟩, none⟩

section Defaults

variable [IsStrictOrderedRing K]

/-- The defaults of the radio pass its checks. -/
theorem RadioFields.default_valid : (default (K := K)).Valid := by
  refine ⟨⟨le_rfl, ?_⟩, by simp [default], ⟨?_, ?_⟩, ⟨?_, ?_⟩, by simp [default], by simp [default],
    by simp [default], le_rfl⟩ <;> norm_num [default]

/-- The defaults of the controller pass its checks. -/
theorem ControllerFields.default_valid : (default (K := K)).Valid := by
  refine ⟨?_, ?_, ?_⟩ <;> norm_num [default]

end Defaults

/-- The fields of `ExperimentManifest`. -/
structure ManifestFields (K : Type*) [Field K] [LinearOrder K] where
  name : String
  description : String
  nodes : List (NodeSpec K)
  controller : ControllerSpec K
  radio : RadioSpec K
  structureSpec : Option (StructureSpec K)
  coordination : Option (CoordinationSpec K)
  events : List (ScheduledEvent K)
  seed : ℤ
  ic_scheme : IcScheme

namespace ManifestFields

/-- `ids`. -/
def ids (m : ManifestFields K) : List ℤ :=
  m.nodes.map (·.1.id)

/-- `_coherent`: some nodes, their ids distinct, their neighbours declared, and no two of one type
on one host. -/
def Valid (m : ManifestFields K) : Prop :=
  m.nodes.isEmpty = false ∧ m.ids.Nodup ∧ (∀ n ∈ m.nodes, ∀ j ∈ n.1.neighbors, j ∈ m.ids) ∧
  (m.nodes.map fun n ↦ (n.1.ip, n.1.type)).Nodup

instance : DecidablePred (Valid (K := K)) :=
  fun _ ↦ inferInstanceAs (Decidable (_ ∧ _))

variable [IsStrictOrderedRing K]

/-- The JSON form, field by field. -/
def fields : Fields K (ManifestFields K) (ManifestFields K) :=
  Fields.build ManifestFields.mk
    |>.field "name" .str (·.name) none
    |>.field "description" .str (·.description) (some "")
    |>.field "nodes" (.list NodeSpec.codec) (·.nodes) none
    |>.field "controller" ControllerSpec.codec (·.controller)
      (some ⟨.default, ControllerFields.default_valid⟩)
    |>.field "radio" RadioSpec.codec (·.radio) (some ⟨.default, RadioFields.default_valid⟩)
    |>.optional "structure" StructureSpec.codec (·.structureSpec)
    |>.optional "coordination" CoordinationSpec.codec (·.coordination)
    |>.field "events" (.list ScheduledEvent.codec) (·.events) (some [])
    |>.field "seed" .int (·.seed) (some 0)
    |>.field "ic_scheme" IcScheme.codec (·.ic_scheme) (some .pcg64_v1)

theorem fields_nodup : (fields (K := K)).keys.Nodup := by simp [fields]

theorem fields_out (m : ManifestFields K) : fields.out m = m := rfl

end ManifestFields

/-- `ExperimentManifest`. -/
def ExperimentManifest (K : Type*) [Field K] [LinearOrder K] : Type _ :=
  {m : ManifestFields K // m.Valid}

/-- A manifest passes its own checks. -/
theorem ExperimentManifest.valid (manifest : ExperimentManifest K) : manifest.1.Valid := manifest.2

/-- The period of a manifest's controller is positive. -/
theorem ExperimentManifest.dt_pos (manifest : ExperimentManifest K) :
    0 < manifest.1.controller.1.dt_s := manifest.1.controller.2.1

/-- The JSON form of `ExperimentManifest`. -/
def ExperimentManifest.codec [IsStrictOrderedRing K] : JsonCodec K (ExperimentManifest K) :=
  (ManifestFields.fields.record ManifestFields.fields_nodup
    ManifestFields.fields_out).checked ManifestFields.Valid

end VertexTestbed.Manifest
