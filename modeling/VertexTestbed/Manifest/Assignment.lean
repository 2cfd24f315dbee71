import VertexTestbed.Lib.ExceptMonad
import VertexTestbed.Manifest.Loader

/-!
# What the hub assigns to one agent

`agent/assignment.py`: `assignment_for` writes the parameters of a node as a model whose blocks are
plain dictionaries, so that it can cross the control plane as JSON, and `to_controller_params`
rebuilds the dataclasses on the other side.

An agent that is given the assignment by way of JSON has exactly the parameters that a simulation
takes from the manifest itself, and whatever else the microgrid block holds is inert but for its
`interface_kind`: `assignment_fidelity`. A block that was empty is not one of them: with a key in it
the assignment is read as a microgrid one, and raises (`scalar_block_not_inert`).
-/

namespace VertexTestbed.Manifest

variable {K : Type} [Field K]

/-! ### `AgentAssignment` -/

/-- The fields of `AgentAssignment`. -/
structure AssignmentFields (K : Type) where
  node_id : ℤ
  node_type : AgentType
  enabled : Bool
  neighbors : List ℤ
  dt_s : K
  publish_period_s : K
  max_neighbor_age_s : Option K
  controller : String
  state : K
  vstate : K
  vartheta : K
  eta : K
  gain_ij : K
  alpha : K
  delta : K
  disturbance : List (String × Json K)
  disturbance_seed : ℤ
  microgrid : List (String × Json K)
  radio : List (String × Json K)
  manifest_name : String
  seed : ℤ
  run_index : ℤ

namespace AssignmentFields

/-- The constraints of `AgentAssignment`. -/
def Valid [LinearOrder K] (a : AssignmentFields K) : Prop :=
  (1 ≤ a.node_id ∧ a.node_id ≤ MAX_NODE_ID) ∧ 0 < a.dt_s ∧ 0 < a.publish_period_s

instance [LinearOrder K] : DecidablePred (Valid (K := K)) :=
  fun _ ↦ inferInstanceAs (Decidable (_ ∧ _))

/-- The JSON form, field by field. -/
def fields : Fields K (AssignmentFields K) (AssignmentFields K) :=
  Fields.build AssignmentFields.mk
    |>.field "node_id" .int (·.node_id) none
    |>.field "node_type" AgentType.codec (·.node_type) none
    |>.field "enabled" .bool (·.enabled) (some true)
    |>.field "neighbors" (.list .int) (·.neighbors) (some [])
    |>.field "dt_s" .float (·.dt_s) none
    |>.field "publish_period_s" .float (·.publish_period_s) none
    |>.optional "max_neighbor_age_s" .float (·.max_neighbor_age_s)
    |>.field "controller" .str (·.controller) (some "finite_time_adaptive")
    |>.field "state" .float (·.state) (some 0)
    |>.field "vstate" .float (·.vstate) (some 0)
    |>.field "vartheta" .float (·.vartheta) (some 0)
    |>.field "eta" .float (·.eta) (some (5 / 100000))
    |>.field "gain_ij" .float (·.gain_ij) (some (1 / 10))
    |>.field "alpha" .float (·.alpha) (some (1 / 2))
    |>.field "delta" .float (·.delta) (some (1 / 100))
    |>.field "disturbance" .anyDict (·.disturbance) (some [])
    |>.field "disturbance_seed" .int (·.disturbance_seed) (some 0)
    |>.field "microgrid" .anyDict (·.microgrid) (some [])
    |>.field "radio" .anyDict (·.radio) (some [])
    |>.field "manifest_name" .str (·.manifest_name) (some "")
    |>.field "seed" .int (·.seed) (some 0)
    |>.field "run_index" .int (·.run_index) (some 0)

theorem fields_nodup : (fields (K := K)).keys.Nodup := by simp [fields]

theorem fields_out (a : AssignmentFields K) : fields.out a = a := rfl

end AssignmentFields

variable [LinearOrder K]

/-- `AgentAssignment`. -/
def AgentAssignment (K : Type) [Field K] [LinearOrder K] : Type :=
  {a : AssignmentFields K // a.Valid}

/-- An assignment passes its own checks. -/
theorem AgentAssignment.valid (a : AgentAssignment K) : a.1.Valid := a.2

/-- The JSON form of `AgentAssignment`. -/
def AgentAssignment.codec : JsonCodec K (AgentAssignment K) :=
  (AssignmentFields.fields.record AssignmentFields.fields_nodup
    AssignmentFields.fields_out).checked AssignmentFields.Valid

/-! ### `assignment_for` -/

/-- The object a codec dumps a value to. -/
def asDict {T : Type} (c : JsonCodec K T) (t : T) : List (String × Json K) :=
  match c.dump false t with
  | .obj d => d
  | _ => []

/-- `asdict` of an interface block. -/
def InterfaceParams.asdict : InterfaceParams K → Json K
  | .adaptive p => AdaptiveParams.codec.dump false p
  | .lc p => LCParams.codec.dump false p

/-- `_microgrid_dicts`, of a manifest whose `controller.microgrid` is `m`. -/
def microgrid_dicts (m : MicrogridSpec K) (blocks : MicrogridBlocks K) : List (String × Json K) :=
  [("interface_kind", .str m.1.interface.name), ("T_c", .num m.1.T_c),
    ("plant", PlantParams.codec.dump false blocks.plant),
    ("virtual", VirtualParams.codec.dump false blocks.virtual),
    ("interface", blocks.interface.asdict), ("degree", .int blocks.degree),
    ("state0_P", .num blocks.state0_P), ("state0_Q", .num blocks.state0_Q),
    ("vstate0_P", .num blocks.vstate0_P), ("vstate0_Q", .num blocks.vstate0_Q)]

/-- The microgrid blocks as JSON, or empty for the scalar law. -/
def microgridOf (manifest : ExperimentManifest K) (node : NodeSpec K) :
    Except LoadError (List (String × Json K)) :=
  match manifest.1.controller.1.microgrid with
  | some m => do
    let blocks ← microgrid_blocks manifest node m
    return microgrid_dicts m blocks
  | none => return []

/-- The assignment `assignment_for` makes of a node and what it has computed for it. -/
def assignmentOf (manifest : ExperimentManifest K) (node : NodeSpec K) (params : ControllerParams K)
    (disturbance_seed : ℕ) (microgrid : List (String × Json K)) (run_index : ℤ) :
    AgentAssignment K :=
  ⟨{ node_id := node.1.id
     node_type := node.1.type
     enabled := node.1.enabled
     neighbors := node.1.neighbors
     dt_s := params.1.dt_s
     publish_period_s := node.1.publish_period_s
     max_neighbor_age_s := none
     controller := manifest.1.controller.1.name
     state := params.1.state
     vstate := params.1.vstate
     vartheta := params.1.vartheta
     eta := params.1.eta
     gain_ij := params.1.gain_ij
     alpha := params.1.alpha
     delta := params.1.delta
     disturbance := asDict DisturbanceParams.codec params.1.disturbance
     disturbance_seed := disturbance_seed
     microgrid := microgrid
     radio := asDict RadioSpec.codec manifest.1.radio
     manifest_name := manifest.1.name
     seed := manifest.1.seed
     run_index := run_index }, node.2.1, params.2, node.2.2.2.1⟩

/-- `assignment_for`. -/
def assignment_for (np : Numpy K) (manifest : ExperimentManifest K) (node_id run_index : ℤ) :
    Except LoadError (AgentAssignment K) :=
  match manifest.1.nodes.find? fun n ↦ n.1.id = node_id with
  | none => .error (.unknownNode node_id)
  | some node => do
    let params ← controller_params_for np manifest node run_index
    let seed ← node_seed np manifest.1.seed run_index node.1.id "disturbance"
    let microgrid ← microgridOf manifest node
    return assignmentOf manifest node params seed microgrid run_index

/-! ### `to_controller_params` -/

/-- `_BLOCKS`. -/
def BLOCKS : List String := ["plant", "virtual", "interface"]

/-- `ControllerParams.__dataclass_fields__`. -/
def accepted : List String :=
  ["dt_s", "state", "vstate", "vartheta", "plant", "virtual", "interface", "degree", "state0_P",
    "state0_Q", "vstate0_P", "vstate0_Q", "eta", "gain_ij", "alpha", "delta", "disturbance"]

/-- `build[name](**m[name])`. -/
def block {T : Type} (m : List (String × Json K)) (name : String) (c : JsonCodec K T) :
    Except LoadError T :=
  match m.lookup name with
  | none => .error (.missing name)
  | some j =>
    match c.validate j with
    | some t => .ok t
    | none => .error (.refused name)

/-- `build["interface"]`, which `interface_kind` selects. -/
def interfaceOf (m : List (String × Json K)) : Except LoadError (InterfaceParams K) :=
  match (m.lookup "interface_kind").getD (.str "adaptive") with
  | .str "adaptive" => (block m "interface" AdaptiveParams.codec).map .adaptive
  | _ => (block m "interface" LCParams.codec).map .lc

/-- The keywords of `ControllerParams` in the block: those it accepts, without the blocks. -/
def keywords (m : List (String × Json K)) : List (String × Json K) :=
  m.filter fun e ↦ accepted.contains e.1 && !BLOCKS.contains e.1

/-- `ControllerParams(dt_s=dt_s, **out)`: the period may not be given twice. -/
def ofKeywords (p : ParamFields K) (out : List (String × Json K)) :
    Except LoadError (ControllerParams K) :=
  if (out.lookup "dt_s").isSome then .error (.refused "ControllerParams")
  else
    match (ParamFields.fields p).parse out with
    | none => .error (.refused "ControllerParams")
    | some r => if h : r.Valid then .ok ⟨r, h⟩ else .error (.refused "ControllerParams")

/-- The parameters of an assignment that carries a microgrid block. -/
def microgridParams (dt_s : K) (m : List (String × Json K)) :
    Except LoadError (ControllerParams K) := do
  let plant ← block m "plant" PlantParams.codec
  let virtual ← block m "virtual" VirtualParams.codec
  let interface ← interfaceOf m
  ofKeywords { ParamFields.base dt_s with
      plant := some plant
      virtual := some virtual
      interface := some interface } (keywords m)

/-- `d.get(key, default)`, read at its type. -/
def getKey {T : Type} (d : List (String × Json K)) (key : String) (c : JsonCodec K T)
    (default : T) :
    Except LoadError T :=
  match d.lookup key with
  | none => .ok default
  | some j =>
    match c.validate j with
    | some t => .ok t
    | none => .error (.refused key)

/-- The disturbance of a scalar assignment. -/
def disturbanceOf (d : List (String × Json K)) : Except LoadError (DisturbanceParams K) := do
  let enabled ← getKey d "enabled" .bool false
  let noise_amplitude ← getKey d "noise_amplitude" .float 0
  let noise_offset ← getKey d "noise_offset" .float (1 / 2)
  let beta ← getKey d "beta" .float 0
  let sine_amplitude ← getKey d "sine_amplitude" .float 0
  let sine_frequency_hz ← getKey d "sine_frequency_hz" .float 0
  let sine_phase_s ← getKey d "sine_phase_s" .float 0
  let period_samples ← getKey d "period_samples" .int 1000
  return { enabled, noise_amplitude, noise_offset, beta, sine_amplitude, sine_frequency_hz,
           sine_phase_s, period_samples }

/-- `to_controller_params`. -/
def to_controller_params (a : AgentAssignment K) : Except LoadError (ControllerParams K) :=
  match a.1.microgrid with
  | e :: m => microgridParams a.1.dt_s (e :: m)
  | [] => do
    let disturbance ← disturbanceOf a.1.disturbance
    return ⟨{ ParamFields.base a.1.dt_s with
      state := a.1.state
      vstate := a.1.vstate
      vartheta := a.1.vartheta
      eta := a.1.eta
      gain_ij := a.1.gain_ij
      alpha := a.1.alpha
      delta := a.1.delta
      disturbance := disturbance }, a.2.2.1⟩

/-- An assignment as it arrives: dumped to JSON and validated back. -/
def overJson (a : AgentAssignment K) : Except LoadError (AgentAssignment K) :=
  match AgentAssignment.codec.validate (AgentAssignment.codec.dump false a) with
  | some a => .ok a
  | none => .error (.refused "AgentAssignment")

/-! ### Fidelity -/

/-- An assignment survives the wire. -/
theorem overJson_eq (a : AgentAssignment K) : overJson a = .ok a := by
  rw [overJson, AgentAssignment.codec.validate_dump]

omit [Field K] [LinearOrder K] in
/-- A block that is there is read. -/
theorem block_of_lookup {T : Type} {m : List (String × Json K)} {name : String} {c : JsonCodec K T}
    {t : T} (h : m.lookup name = some (c.dump false t)) : block m name c = .ok t := by
  rw [block, h]
  simp only [c.validate_dump]

/-- A node of a manifest is found by its id. -/
theorem find?_node {manifest : ExperimentManifest K} {node : NodeSpec K}
    (h : node ∈ manifest.1.nodes) :
    (manifest.1.nodes.find? fun n ↦ n.1.id = node.1.id) = some node :=
  find?_of_nodup manifest.2.2.1 h

/-- The interface block is read back as the family it was dumped from. -/
theorem interfaceOf_dicts (node : NodeSpec K) (m : MicrogridSpec K) (p : NodePlantSpec K)
    {blocks : MicrogridBlocks K} (h : blocks.interface = interfaceBlock node m p) :
    interfaceOf (microgrid_dicts m blocks) = .ok blocks.interface := by
  have hkind : (microgrid_dicts m blocks).lookup "interface_kind" =
      some (.str m.1.interface.name) := rfl
  have hblock : (microgrid_dicts m blocks).lookup "interface" = some blocks.interface.asdict := rfl
  rw [interfaceBlock] at h
  rw [interfaceOf, hkind]
  rw [h] at hblock ⊢
  cases hm : m.1.interface with
  | adaptive =>
    simp only [hm] at hblock ⊢
    rw [show (some (Json.str Host.InterfaceKind.adaptive.name)).getD (.str "adaptive") =
      (Json.str "adaptive" : Json K) from rfl]
    simp only [block_of_lookup hblock]
    rfl
  | lc =>
    simp only [hm] at hblock ⊢
    rw [show (some (Json.str Host.InterfaceKind.lc.name)).getD (.str "adaptive") =
      (Json.str "lc" : Json K) from rfl]
    simp only [block_of_lookup hblock]
    rfl

/-- The keywords of a block, with its dataclasses, make its parameters. -/
theorem ofKeywords_dicts (m : MicrogridSpec K) (blocks : MicrogridBlocks K) {dt_s : K}
    (hdt : 0 < dt_s) :
    ofKeywords { ParamFields.base dt_s with
        plant := some blocks.plant
        virtual := some blocks.virtual
        interface := some blocks.interface } (keywords (microgrid_dicts m blocks)) =
      .ok (blocks.params dt_s hdt) := by
  have hparse : (ParamFields.fields { ParamFields.base dt_s with
        plant := some blocks.plant
        virtual := some blocks.virtual
        interface := some blocks.interface }).parse (keywords (microgrid_dicts m blocks)) =
      some (blocks.params dt_s hdt).1 := rfl
  have honce : ((keywords (microgrid_dicts m blocks)).lookup "dt_s").isSome = false := rfl
  rw [ofKeywords, honce, if_neg Bool.false_ne_true, hparse]
  exact dif_pos hdt

/-- **A microgrid block rebuilds the parameters it was written from.** -/
theorem microgridParams_dicts (node : NodeSpec K) (m : MicrogridSpec K) (p : NodePlantSpec K)
    {blocks : MicrogridBlocks K} (h : blocks.interface = interfaceBlock node m p) {dt_s : K}
    (hdt : 0 < dt_s) :
    microgridParams dt_s (microgrid_dicts m blocks) = .ok (blocks.params dt_s hdt) := by
  have hplant : block (microgrid_dicts m blocks) "plant" PlantParams.codec = .ok blocks.plant :=
    block_of_lookup rfl
  have hvirtual : block (microgrid_dicts m blocks) "virtual" VirtualParams.codec =
      .ok blocks.virtual :=
    block_of_lookup rfl
  simp only [microgridParams, hplant, hvirtual, interfaceOf_dicts node m p h,
    ofKeywords_dicts m blocks hdt, bind, Except.bind]

omit [Field K] [LinearOrder K] in
/-- A seed that can be drawn for one purpose can be drawn for any. -/
theorem node_seed_of_ok {np : Numpy K} {seed run_index node_id : ℤ} {purpose purpose' : String}
    {s : ℕ} (h : node_seed np seed run_index node_id purpose = .ok s) :
    ∃ s', node_seed np seed run_index node_id purpose' = .ok s' := by
  rw [node_seed] at h
  split at h
  · cases h
  · rename_i hneg
    exact ⟨_, by rw [node_seed, if_neg hneg]⟩

/-- Whether the parameters of a node can be computed, its seeds can. -/
theorem node_seed_of_params {np : Numpy K} {manifest : ExperimentManifest K} {node : NodeSpec K}
    {run_index : ℤ} {params : ControllerParams K}
    (h : controller_params_for np manifest node run_index = .ok params) :
    ∃ s, node_seed np manifest.1.seed run_index node.1.id "disturbance" = .ok s := by
  rw [controller_params_for, except_bind_eq_ok] at h
  obtain ⟨ics, hics, -⟩ := h
  rw [initial_conditions, except_bind_eq_ok] at hics
  obtain ⟨s, hs, -⟩ := hics
  exact node_seed_of_ok hs

/-- The assignment of a node that has parameters, and what it carries. -/
theorem assignment_for_of_params {np : Numpy K} {manifest : ExperimentManifest K}
    {node : NodeSpec K} (hnode : node ∈ manifest.1.nodes) {run_index : ℤ}
    {params : ControllerParams K}
    (h : controller_params_for np manifest node run_index = .ok params) :
    ∃ (s : ℕ) (microgrid : List (String × Json K)),
      microgridOf manifest node = .ok microgrid ∧
      assignment_for np manifest node.1.id run_index =
        .ok (assignmentOf manifest node params s microgrid run_index) := by
  obtain ⟨s, hs⟩ := node_seed_of_params h
  have hmicrogrid : ∃ microgrid, microgridOf manifest node = .ok microgrid := by
    rw [controller_params_for, except_bind_eq_ok] at h
    obtain ⟨ics, -, h⟩ := h
    rw [microgridOf]
    cases hm : manifest.1.controller.1.microgrid with
    | none => exact ⟨[], rfl⟩
    | some m =>
      simp only [hm] at h ⊢
      obtain ⟨blocks, hblocks, -⟩ := except_bind_eq_ok.1 h
      exact ⟨microgrid_dicts m blocks, by rw [hblocks]; rfl⟩
  obtain ⟨microgrid, hmicrogrid⟩ := hmicrogrid
  refine ⟨s, microgrid, hmicrogrid, ?_⟩
  simp only [assignment_for, find?_node hnode, h, hs, hmicrogrid, bind, Except.bind]
  rfl

/-- The parameters of an assignment are the parameters it was made from. -/
theorem to_controller_params_assignmentOf {np : Numpy K} {manifest : ExperimentManifest K}
    {node : NodeSpec K} {run_index : ℤ} {params : ControllerParams K} {s : ℕ}
    {microgrid : List (String × Json K)}
    (h : controller_params_for np manifest node run_index = .ok params)
    (hmicrogrid : microgridOf manifest node = .ok microgrid) :
    to_controller_params (assignmentOf manifest node params s microgrid run_index) =
      .ok params := by
  rw [controller_params_for, except_bind_eq_ok] at h
  obtain ⟨ics, -, h⟩ := h
  rw [microgridOf] at hmicrogrid
  cases hm : manifest.1.controller.1.microgrid with
  | none =>
    simp only [hm] at h hmicrogrid
    cases h
    cases hmicrogrid
    rfl
  | some m =>
    simp only [hm] at h hmicrogrid
    obtain ⟨blocks, hblocks, h⟩ := except_bind_eq_ok.1 h
    rw [hblocks] at hmicrogrid
    cases h
    cases hmicrogrid
    obtain ⟨p, hp⟩ : ∃ p, blocks.interface = interfaceBlock node m p := by
      rw [microgrid_blocks] at hblocks
      cases hplant : node.1.plant with
      | none =>
        simp only [hplant] at hblocks
        cases hblocks
      | some p =>
        simp only [hplant] at hblocks
        cases hblocks
        exact ⟨p, rfl⟩
    exact microgridParams_dicts node m p hp manifest.1.controller.2.1

/-! ### What is inert -/

omit [Field K] [LinearOrder K] in
/-- A block is read by its key alone. -/
theorem block_congr {T : Type} {m m' : List (String × Json K)} {name : String} (c : JsonCodec K T)
    (h : m.lookup name = m'.lookup name) : block m name c = block m' name c := by
  rw [block, block, h]

/-- Two blocks agree on what the controller is built from. -/
def SameParameters (m m' : List (String × Json K)) : Prop :=
  ∀ k, k ∈ accepted ∨ k = "interface_kind" → m.lookup k = m'.lookup k

/-- The interface is read by its keys alone. -/
theorem interfaceOf_congr {m m' : List (String × Json K)} (h : SameParameters m m') :
    interfaceOf m = interfaceOf m' := by
  have hblock := h "interface" (.inl (by decide))
  rw [interfaceOf, interfaceOf, h "interface_kind" (.inr rfl), block_congr _ hblock,
    block_congr _ hblock]

omit [Field K] [LinearOrder K] in
/-- The keywords are those of the same parameters. -/
theorem lookup_keywords_congr {m m' : List (String × Json K)} (h : SameParameters m m')
    (k : String) : (keywords m).lookup k = (keywords m').lookup k := by
  rw [keywords, keywords, lookup_filter (fun k ↦ accepted.contains k && !BLOCKS.contains k),
    lookup_filter (fun k ↦ accepted.contains k && !BLOCKS.contains k)]
  split
  · rename_i hk
    simp only [Bool.and_eq_true, List.contains_iff_mem] at hk
    exact h k (.inl hk.1)
  · rfl

/-- The parameters are read by their keys alone. -/
theorem ofKeywords_congr (p : ParamFields K) {out out' : List (String × Json K)}
    (h : ∀ k, out.lookup k = out'.lookup k) : ofKeywords p out = ofKeywords p out' := by
  have hlocal : (ParamFields.fields p).Local := by
    iterate 13 refine Fields.Local.field ?_
    exact Fields.local_build _
  have hparse := hlocal out out' fun k _ ↦ h k
  rw [ofKeywords, ofKeywords, h "dt_s", hparse]

/-- **Only the parameters of a block matter.** -/
theorem microgridParams_congr (dt_s : K) {m m' : List (String × Json K)}
    (h : SameParameters m m') : microgridParams dt_s m = microgridParams dt_s m' := by
  have hplant := block_congr PlantParams.codec (h "plant" (.inl (by decide)))
  have hvirtual := block_congr VirtualParams.codec (h "virtual" (.inl (by decide)))
  have hkeywords (p : ParamFields K) : ofKeywords p (keywords m) = ofKeywords p (keywords m') :=
    ofKeywords_congr p (lookup_keywords_congr h)
  simp only [microgridParams, hplant, hvirtual, interfaceOf_congr h, hkeywords]

/-- An assignment with another microgrid block. -/
def AgentAssignment.withMicrogrid (a : AgentAssignment K) (m : List (String × Json K)) :
    AgentAssignment K :=
  ⟨{ a.1 with microgrid := m }, a.2⟩

/-- An assignment with a microgrid block makes microgrid parameters. -/
theorem to_controller_params_of_ne_nil {a : AgentAssignment K} (h : a.1.microgrid ≠ []) :
    to_controller_params a = microgridParams a.1.dt_s a.1.microgrid := by
  rw [to_controller_params]
  split
  · rename_i e m heq
    rw [heq]
  · rename_i heq
    exact absurd heq h

/-- **An agent has the parameters of a simulation**: what it rebuilds from its assignment, by way of
JSON, is what the manifest says, for every node and every run, errors included. In a microgrid
block everything is inert that is neither a parameter nor the kind of the interface. -/
theorem assignment_fidelity (np : Numpy K) :
    (∀ (manifest : ExperimentManifest K) (node : NodeSpec K), node ∈ manifest.1.nodes →
      ∀ run_index : ℤ,
        (do
          let a ← assignment_for np manifest node.1.id run_index
          let a ← overJson a
          to_controller_params a) = controller_params_for np manifest node run_index) ∧
    ∀ (a : AgentAssignment K) (m : List (String × Json K)), a.1.microgrid ≠ [] → m ≠ [] →
      SameParameters a.1.microgrid m →
      to_controller_params (a.withMicrogrid m) = to_controller_params a := by
  refine ⟨fun manifest node hnode run_index ↦ ?_, fun a m ha hm h ↦ ?_⟩
  · cases hparams : controller_params_for np manifest node run_index with
    | error e =>
      rw [assignment_for, find?_node hnode]
      simp only [hparams, bind, Except.bind]
    | ok params =>
      obtain ⟨s, microgrid, hmicrogrid, ha⟩ := assignment_for_of_params hnode hparams
      simp only [ha, bind, Except.bind, overJson_eq]
      exact to_controller_params_assignmentOf hparams hmicrogrid
  · have hm' : (a.withMicrogrid m).1.microgrid ≠ [] := hm
    rw [to_controller_params_of_ne_nil hm', to_controller_params_of_ne_nil ha]
    exact (microgridParams_congr a.1.dt_s h).symm

/-- The kind of the interface is read: the keywords of the adaptive one are unknown to the other. -/
theorem microgridParams_of_wrong_kind (dt_s : K) (m : MicrogridSpec K) {blocks : MicrogridBlocks K}
    {p : AdaptiveParams K} (h : blocks.interface = .adaptive p) :
    microgridParams dt_s (dictSet "interface_kind" (.str "lc") (microgrid_dicts m blocks)) =
      .error (.refused "interface") := by
  have hplant : block (dictSet "interface_kind" (.str "lc") (microgrid_dicts m blocks)) "plant"
      PlantParams.codec = .ok blocks.plant :=
    block_of_lookup rfl
  have hvirtual : block (dictSet "interface_kind" (.str "lc") (microgrid_dicts m blocks)) "virtual"
      VirtualParams.codec = .ok blocks.virtual :=
    block_of_lookup rfl
  have hinterface : interfaceOf (dictSet "interface_kind" (.str "lc") (microgrid_dicts m blocks)) =
      .error (.refused "interface") := by
    rw [interfaceOf, microgrid_dicts, h]
    rfl
  simp only [microgridParams, hplant, hvirtual, hinterface, bind, Except.bind]

/-! ### A pair of generators -/

/-- Two of NumPy's generators: the seeds and the draws of the pair, for the first run. -/
def pairNumpy : Numpy ℚ where
  generate_state
    | [20260929, 0, 1, 303] => 2856029912
    | [20260929, 0, 1, 6941] => 3002855485
    | [20260929, 0, 2, 303] => 168584558
    | [20260929, 0, 2, 6941] => 4224579286
    | _ => 0
  random
    | 2856029912, 0 => 887420785441475 / 4503599627370496
    | 2856029912, 1 => 3714848428879621 / 9007199254740992
    | 2856029912, 2 => 6598854311725757 / 9007199254740992
    | 168584558, 0 => 5902781661467741 / 9007199254740992
    | 168584558, 1 => 3881863426225189 / 4503599627370496
    | 168584558, 2 => 10081122783889 / 17592186044416
    | _, _ => 0

/-- The settings of `C_DZ`. -/
def pairMicrogrid : MicrogridFields ℚ where
  interface := .adaptive
  profile := .per
  p_max := 10
  q_max := 12
  T_o := 30
  alpha_0 := 1
  delta_o := 1 / 8
  kappa_o := 1 / 1000
  xi := 1 / 40
  c_0 := 1 / 10
  mu_max := 10
  gamma := 1 / 400
  eps := .inl (1 / 20)
  vartheta0 := 0
  T_c := 40
  beta_c := 2
  Phi := 3 / 1000
  terminal := true
  adapt_band := none

theorem pairMicrogrid_valid : pairMicrogrid.Valid := by decide +kernel

/-- The controller of the pair. -/
def pairController : ControllerFields ℚ where
  name := "microgrid_adaptive"
  dt_s := 1 / 40
  eta := 5 / 100000
  gain_ij := 1 / 10
  alpha := 1 / 2
  delta := 1 / 100
  disturbance := ⟨.default, DisturbanceFields.default_valid⟩
  microgrid := some ⟨pairMicrogrid, pairMicrogrid_valid⟩

theorem pairController_valid : pairController.Valid := by decide +kernel

/-- One generator. -/
def pairPlant (i : ℕ) : NodePlantFields ℚ :=
  ⟨(i + 1) / 15, (i + 1, i + 1), (5, 1), (1, 5)⟩

theorem pairPlant_valid (i : ℕ) : (pairPlant i).Valid :=
  div_pos (Nat.cast_add_one_pos i) (by norm_num)

/-- A node of the pair, which hears the other one. -/
def pairNode (id : ℤ) (ip : String) (type : AgentType) (other : ℤ) (i : ℕ) : NodeFields ℚ where
  id := id
  ip := ip
  type := type
  enabled := true
  publish_period_s := 1 / 8
  neighbors := [other]
  plant := some ⟨pairPlant i, pairPlant_valid i⟩

theorem pairNode_valid :
    (pairNode 1 "10.6.5.5" .bridge 2 0).Valid ∧ (pairNode 2 "10.6.5.2" .ble 1 1).Valid := by
  decide +kernel

/-- The reference of the pair, pinned at node 1. -/
def pairCoordination (reference : ℚ × ℚ) : CoordinationFields ℚ where
  reference := reference
  pinned := .of [(1, 1)]

theorem pairCoordination_valid (reference : ℚ × ℚ) : (pairCoordination reference).Valid := by
  intro e he
  obtain rfl : e = (1, 1) := List.mem_singleton.1 he
  exact one_pos

/-- The first node is pinned to the reference. -/
def pairFields (reference : ℚ × ℚ) : ManifestFields ℚ where
  name := "dg2"
  description := ""
  nodes := [⟨pairNode 1 "10.6.5.5" .bridge 2 0, pairNode_valid.1⟩,
    ⟨pairNode 2 "10.6.5.2" .ble 1 1, pairNode_valid.2⟩]
  controller := ⟨pairController, pairController_valid⟩
  radio := ⟨.default, RadioFields.default_valid⟩
  structureSpec := none
  coordination := some ⟨pairCoordination reference, pairCoordination_valid reference⟩
  events := []
  seed := 20260929
  ic_scheme := .pcg64_v1

theorem pairFields_zero_valid : (pairFields (0, 0)).Valid := by decide +kernel

/-- Nothing that makes a manifest valid looks at the reference. -/
theorem pairFields_valid (reference : ℚ × ℚ) : (pairFields reference).Valid :=
  pairFields_zero_valid

/-- The pair, as a manifest. -/
def pair (reference : ℚ × ℚ) : ExperimentManifest ℚ :=
  ⟨pairFields reference, pairFields_valid reference⟩

/-- The same nodes under the scalar law. -/
def scalarPair : ExperimentManifest ℚ :=
  ⟨{ pairFields (0, 0) with
      controller := ⟨.default, ControllerFields.default_valid⟩
      coordination := none }, pairFields_zero_valid⟩

/-- The first generator of the pair, and the same with a key that nobody knows. -/
theorem assignment_fidelity_pair :
    (do
      let a ← assignment_for pairNumpy (pair (2, 3)) 1 0
      let a ← overJson a
      to_controller_params a) =
        controller_params_for pairNumpy (pair (2, 3)) ⟨_, pairNode_valid.1⟩ 0 ∧
    ∀ a, assignment_for pairNumpy (pair (2, 3)) 1 0 = .ok a →
      to_controller_params
          (a.withMicrogrid (("a_field_from_a_newer_hub", .int 123) :: a.1.microgrid)) =
        to_controller_params a := by
  refine ⟨(assignment_fidelity pairNumpy).1 (pair (2, 3)) ⟨_, pairNode_valid.1⟩
    List.mem_cons_self 0, fun a ha ↦ ?_⟩
  have hblock : a.1.microgrid ≠ [] := by
    cases ha
    exact List.cons_ne_nil _ _
  refine (assignment_fidelity pairNumpy).2 a _ hblock (List.cons_ne_nil _ _) fun k hk ↦ ?_
  have hne : k ≠ "a_field_from_a_newer_hub" := by
    rintro rfl
    revert hk
    decide
  rw [lookup_cons_eq_ite, if_neg hne]

/-- The kind of the interface is not a parameter and is not inert, and in a scalar assignment no key
is. -/
theorem keys_not_inert :
    "interface_kind" ∉ accepted ∧ "a_field_from_a_newer_hub" ∉ accepted ∧
    (∃ a params, assignment_for pairNumpy (pair (2, 3)) 1 0 = .ok a ∧
      to_controller_params a = .ok params ∧
      to_controller_params
          (a.withMicrogrid (dictSet "interface_kind" (.str "lc") a.1.microgrid)) =
        .error (.refused "interface")) ∧
    ∃ a params, assignment_for pairNumpy scalarPair 1 0 = .ok a ∧
      to_controller_params a = .ok params ∧
      to_controller_params
          (a.withMicrogrid (dictSet "a_field_from_a_newer_hub" (.int 123) a.1.microgrid)) =
        .error (.missing "plant") := by
  refine ⟨by decide, by decide, ?_, ⟨_, _, rfl, rfl, rfl⟩⟩
  have hnode : ⟨pairNode 1 "10.6.5.5" .bridge 2 0, pairNode_valid.1⟩ ∈ (pair (2, 3)).1.nodes :=
    List.mem_cons_self
  obtain ⟨params, hparams⟩ : ∃ params, controller_params_for pairNumpy (pair (2, 3))
      ⟨pairNode 1 "10.6.5.5" .bridge 2 0, pairNode_valid.1⟩ 0 = .ok params := ⟨_, rfl⟩
  obtain ⟨s, microgrid, hmicrogrid, ha⟩ := assignment_for_of_params hnode hparams
  refine ⟨_, params, ha, to_controller_params_assignmentOf hparams hmicrogrid, ?_⟩
  cases hmicrogrid
  exact microgridParams_of_wrong_kind _ _ rfl

end VertexTestbed.Manifest
