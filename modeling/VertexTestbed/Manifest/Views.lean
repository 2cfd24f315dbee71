import VertexTestbed.Host.AgentService
import VertexTestbed.Host.Relay
import VertexTestbed.Manifest.Assignment

/-!
# An assignment as its readers see it

An assignment carries its blocks as plain dictionaries, and two programs read them. The relay of a
`ble` agent reads them by key (`relayView`); an agent that computes its law itself rebuilds the
parameters of its controller (`hostView`).

What the relay reads of a microgrid node is the assignment the manifest makes of it, block by block
(`relayView_assigned`), so whatever holds of the frames of such an assignment holds of every node of
a manifest.
-/

namespace VertexTestbed.Manifest

variable {K : Type} [Field K]

/-! ### What the relay reads -/

/-- `d.get(key)`, where a value of another type raises. -/
def getOption {T : Type} (d : List (String × Json K)) (key : String) (c : JsonCodec K T) :
    Except LoadError (Option T) :=
  match d.lookup key with
  | none => .ok none
  | some j =>
    match c.validate j with
    | some t => .ok (some t)
    | none => .error (.refused key)

/-- `d.get(key)`, where `None` is as good as absent. -/
def getNullable {T : Type} (d : List (String × Json K)) (key : String) (c : JsonCodec K T) :
    Except LoadError (Option T) :=
  match d.lookup key with
  | some .null => .ok none
  | _ => getOption d key c

/-- What `assignment_to_frames` reads of the disturbance. -/
def disturbanceDict (d : List (String × Json K)) : Except LoadError (Host.DisturbanceDict K) := do
  let enabled ← getOption d "enabled" .bool
  let sine_amplitude ← getOption d "sine_amplitude" .float
  let sine_frequency_hz ← getOption d "sine_frequency_hz" .float
  let sine_phase_s ← getOption d "sine_phase_s" .float
  let noise_amplitude ← getOption d "noise_amplitude" .float
  let noise_offset ← getOption d "noise_offset" .float
  let beta ← getOption d "beta" .float
  let period_samples ← getOption d "period_samples" .int
  return { enabled, sine_amplitude, sine_frequency_hz, sine_phase_s, noise_amplitude, noise_offset,
           beta, period_samples }

/-- What `microgrid_frames` reads of `m["plant"]`. -/
def plantDict (d : List (String × Json K)) : Except LoadError (Host.PlantDict K) := do
  let profile ← block d "profile" .str
  let kappa ← block d "kappa" .float
  let S1 ← block d "S1" .float
  let S2 ← block d "S2" .float
  let p_max ← block d "p_max" .float
  let q_max ← block d "q_max" .float
  return { kappa, S1, S2, profile, p_max, q_max }

/-- What `microgrid_frames` reads of `m["virtual"]`. -/
def virtualDict (d : List (String × Json K)) : Except LoadError (Host.VirtualDict K) := do
  let T_o ← block d "T_o" .float
  let alpha_0 ← block d "alpha_0" .float
  let delta_o ← block d "delta_o" .float
  let kappa_o ← block d "kappa_o" .float
  let xi ← block d "xi" .float
  let c_0 ← block d "c_0" .float
  let b ← block d "b" .float
  let rP ← block d "rP" .float
  let rQ ← block d "rQ" .float
  return { T_o, alpha_0, delta_o, kappa_o, xi, c_0, b, rP, rQ }

/-- What `microgrid_frames` reads of `m["interface"]`: the keys of the family in use. -/
def interfaceDict (lc : Bool) (d : List (String × Json K)) :
    Except LoadError (Host.InterfaceDict K) := do
  let mu_max ← block d "mu_max" .float
  if lc then do
    let adapt_band ← getNullable d "adapt_band" .float
    let terminal ← getOption d "terminal" .bool
    let T_c ← getOption d "T_c" .float
    let beta_c ← getOption d "beta_c" .float
    let Phi ← getOption d "Phi" .float
    let delta_c ← getNullable d "delta_c" .float
    return { mu_max, gamma := none, eps := none, vartheta0 := none, T_c, beta_c, Phi, terminal,
             delta_c, adapt_band }
  else do
    let gamma ← getOption d "gamma" .float
    let eps ← getOption d "eps" .float
    let vartheta0 ← getOption d "vartheta0" .float
    return { mu_max, gamma, eps, vartheta0, T_c := none, beta_c := none, Phi := none,
             terminal := none, delta_c := none, adapt_band := none }

/-- What `microgrid_frames` reads of the microgrid block. `T_c` beside the blocks is for the log. -/
def microgridDict (m : List (String × Json K)) : Except LoadError (Host.MicrogridDict K) := do
  let plant ← block m "plant" .anyDict
  let virtual ← block m "virtual" .anyDict
  let interface ← block m "interface" .anyDict
  let interface_kind ← block m "interface_kind" .str
  let plant ← plantDict plant
  let virtual ← virtualDict virtual
  let interface ← interfaceDict (decide (interface_kind = "lc")) interface
  let degree ← block m "degree" .int
  let state0_P ← block m "state0_P" .float
  let state0_Q ← block m "state0_Q" .float
  let vstate0_P ← block m "vstate0_P" .float
  let vstate0_Q ← block m "vstate0_Q" .float
  return { interface_kind, T_c := (m.lookup "T_c").bind JsonCodec.float.validate, plant, virtual,
           interface, degree, state0_P, state0_Q, vstate0_P, vstate0_Q }

variable [LinearOrder K]

/-- The assignment as `assignment_to_frames` reads it. -/
def relayView (a : AgentAssignment K) : Except LoadError (Host.AgentAssignment K) := do
  let disturbance ← disturbanceDict a.1.disturbance
  let microgrid ←
    match a.1.microgrid with
    | [] => .ok none
    | e :: m => (microgridDict (e :: m)).map some
  return { node_id := a.1.node_id
           enabled := a.1.enabled
           neighbors := a.1.neighbors
           dt_s := a.1.dt_s
           publish_period_s := a.1.publish_period_s
           state := a.1.state
           vstate := a.1.vstate
           vartheta := a.1.vartheta
           eta := a.1.eta
           gain_ij := a.1.gain_ij
           alpha := a.1.alpha
           delta := a.1.delta
           disturbance := disturbance
           disturbance_seed := a.1.disturbance_seed
           microgrid := microgrid }

/-! ### What a host agent reads -/

/-- The arguments of `create`. -/
structure ControllerArgs (K : Type) [Field K] [LinearOrder K] where
  name : String
  params : ControllerParams K
  seed : ℤ

/-- The assignment as `_build` and a live configure read it. -/
def hostView (a : AgentAssignment K) :
    Except LoadError (Host.HostAssignment ℤ K (ControllerArgs K)) := do
  let params ← to_controller_params a
  return { node_id := a.1.node_id
           neighbor_ids := a.1.neighbors
           dt_s := a.1.dt_s
           publish_period_s := a.1.publish_period_s
           enabled := a.1.enabled
           max_neighbor_age_s := a.1.max_neighbor_age_s
           controller := ⟨a.1.controller, params, a.1.disturbance_seed⟩ }

/-! ### The relay's view of a microgrid node -/

/-- The declared ids a reference is pinned at. -/
def pinnedIds (manifest : ManifestFields K) : List ℤ :=
  match manifest.coordination with
  | some coord => coord.1.pinned.1.map Prod.fst
  | none => []

section Node

variable (manifest : ExperimentManifest K) (node : NodeSpec K) (m : MicrogridSpec K)
  (p : NodePlantSpec K)

/-- The settings of the fleet, with the threshold of one node. -/
def nodeSpec : Host.MicrogridSpec K where
  interface := m.1.interface
  profile := m.1.profile
  p_max := m.1.p_max
  q_max := m.1.q_max
  T_o := m.1.T_o
  alpha_0 := m.1.alpha_0
  delta_o := m.1.delta_o
  kappa_o := m.1.kappa_o
  xi := m.1.xi
  c_0 := m.1.c_0
  mu_max := m.1.mu_max
  gamma := m.1.gamma
  eps := m.1.eps_for node.1.id
  vartheta0 := m.1.vartheta0
  T_c := m.1.T_c
  beta_c := m.1.beta_c
  Phi := m.1.Phi
  terminal := m.1.terminal
  adapt_band := m.1.adapt_band
  p_max_pos := m.2.1.1
  q_max_pos := m.2.1.2.1
  T_o_pos := m.2.1.2.2.1
  alpha_0_pos := m.2.1.2.2.2.1
  delta_o_pos := m.2.1.2.2.2.2.1
  mu_max_pos := m.2.1.2.2.2.2.2.1
  gamma_nonneg := m.2.1.2.2.2.2.2.2.1
  eps_nonneg := eps_for_nonneg m node.1.id
  T_c_pos := m.2.1.2.2.2.2.2.2.2.1
  beta_c_pos := m.2.1.2.2.2.2.2.2.2.2

/-- The node's own entry of `pinned`. -/
def pinnedWeight : Option K :=
  manifest.1.coordination.bind fun coord ↦ coord.1.pinned.1.lookup node.1.id

/-- A pinned node's weight is positive. -/
theorem pinnedWeight_pos (w : K) (h : pinnedWeight manifest node = some w) : 0 < w := by
  obtain ⟨coord, -, hw⟩ := Option.bind_eq_some_iff.1 h
  exact coord.2 _ (lookup_mem hw)

/-- The pin of a node is its weight, or zero. -/
theorem pin_eq_pinnedWeight : pin manifest node = (pinnedWeight manifest node).getD 0 := by
  rw [pin, pinnedWeight]
  cases manifest.1.coordination with
  | none => rfl
  | some coord => rfl

/-- What a manifest says about one microgrid node, when the controller of the node can be built. -/
def nodeManifest (h : node.1.neighbors = [] → pinnedWeight manifest node ≠ none) :
    Host.NodeManifest K where
  spec := nodeSpec node m
  plant := ⟨p.1.kappa, p.1.S, p.1.X0, p.1.z0, p.valid⟩
  neighbors := node.1.neighbors
  dt_s := manifest.1.controller.1.dt_s
  reference := (manifest.1.coordination.map (·.1.reference)).getD (0, 0)
  pinned := pinnedWeight manifest node
  dt_pos := manifest.dt_pos
  pinned_pos := pinnedWeight_pos manifest node
  connected := h

variable {manifest : ExperimentManifest K} {node : NodeSpec K} {m : MicrogridSpec K}
  {p : NodePlantSpec K}

/-- The node's view has the pin of the manifest. -/
theorem pin_nodeManifest (h : node.1.neighbors = [] → pinnedWeight manifest node ≠ none) :
    (nodeManifest manifest node m p h).b = pin manifest node :=
  (pin_eq_pinnedWeight manifest node).symm

/-- It has the reference of the manifest. -/
theorem ref_nodeManifest (h : node.1.neighbors = [] → pinnedWeight manifest node ≠ none) :
    (nodeManifest manifest node m p h).ref = ref manifest node := by
  rw [Host.NodeManifest.ref, pin_nodeManifest, ref]
  cases hcoord : manifest.1.coordination with
  | none =>
    have hreference : (nodeManifest manifest node m p h).reference = (0, 0) := by
      rw [nodeManifest, hcoord]
      rfl
    rw [hreference, ite_self]
  | some coord =>
    have hreference : (nodeManifest manifest node m p h).reference = coord.1.reference := by
      rw [nodeManifest, hcoord]
      rfl
    rw [hreference]

end Node

omit [LinearOrder K] in
/-- Every default of the disturbance is carried explicitly, so none is taken. -/
theorem disturbanceDict_asDict (d : DisturbanceParams K) :
    disturbanceDict (asDict DisturbanceParams.codec d) =
      .ok ⟨some d.enabled, some d.sine_amplitude, some d.sine_frequency_hz, some d.sine_phase_s,
        some d.noise_amplitude, some d.noise_offset, some d.beta, some d.period_samples⟩ :=
  rfl

/-- The plant is read back from its dictionary. -/
theorem plantDict_asDict (p : PlantParams K) :
    plantDict (asDict PlantParams.codec p) =
      .ok ⟨p.1.kappa, p.1.S1, p.1.S2, p.1.profile.name, p.1.p_max, p.1.q_max⟩ :=
  rfl

/-- So is the virtual layer. -/
theorem virtualDict_asDict (v : VirtualParams K) :
    virtualDict (asDict VirtualParams.codec v) =
      .ok ⟨v.1.T_o, v.1.alpha_0, v.1.delta_o, v.1.kappa_o, v.1.xi, v.1.c_0, v.1.b, v.1.rP,
        v.1.rQ⟩ :=
  rfl

omit [Field K] [LinearOrder K] in
/-- What is dumped as an object is dumped as the dictionary. -/
theorem dump_eq_obj {T : Type} {c : JsonCodec K T} {t : T} {d : List (String × Json K)}
    (h : c.dump false t = .obj d) : c.dump false t = .obj (asDict c t) := by
  rw [asDict, h]

/-- What an `LCParams` is dumped to, an absent bound as `null`. -/
theorem asDict_lc (i : LCParams K) :
    asDict LCParams.codec i =
      [("kappa", .num i.1.kappa), ("profile", profileCodec.dump false i.1.profile),
        ("T_c", .num i.1.T_c), ("beta_c", .num i.1.beta_c), ("Phi", .num i.1.Phi),
        ("terminal", .bool i.1.terminal), ("mu_max", .num i.1.mu_max), ("p_max", .num i.1.p_max),
        ("q_max", .num i.1.q_max), ("delta_c", i.1.delta_c.elim .null .num),
        ("adapt_band", i.1.adapt_band.elim .null .num),
        ("adapt_after", i.1.adapt_after.elim .null .num)] := by
  have hoptional (key : String) (get : LCFields K → Option K) :
      (Fields.singleOptional key .float get).dump false i.1 =
        [(key, (get i.1).elim .null .num)] := by
    cases h : get i.1 with
    | none => simp only [Fields.singleOptional, h]; rfl
    | some x => simp only [Fields.singleOptional, h]; rfl
  show LCFields.fields.dump false i.1 = _
  simp only [LCFields.fields, Fields.dump_field, Fields.dump_optional, Fields.dump_build, hoptional,
    List.nil_append, List.cons_append]
  rfl

omit [LinearOrder K] in
/-- An optional number is read back. -/
theorem getNullable_elim {d : List (String × Json K)} {key : String} {x : Option K}
    (h : d.lookup key = some (x.elim .null .num)) : getNullable d key .float = .ok x := by
  cases x with
  | none => rw [getNullable, h]; rfl
  | some x => rw [getNullable, getOption, h]; rfl

/-- The interface block as the relay reads it: the keys of its family. -/
def InterfaceParams.relayed : InterfaceParams K → Host.InterfaceDict K
  | .adaptive i =>
    { mu_max := i.1.mu_max
      gamma := some i.1.gamma
      eps := some i.1.eps
      vartheta0 := some i.1.vartheta0
      T_c := none
      beta_c := none
      Phi := none
      terminal := none
      delta_c := none
      adapt_band := none }
  | .lc i =>
    { mu_max := i.1.mu_max
      gamma := none
      eps := none
      vartheta0 := none
      T_c := some i.1.T_c
      beta_c := some i.1.beta_c
      Phi := some i.1.Phi
      terminal := some i.1.terminal
      delta_c := i.1.delta_c
      adapt_band := i.1.adapt_band }

/-- The adaptive interface is read back. -/
theorem interfaceDict_adaptive (i : AdaptiveParams K) :
    interfaceDict false (asDict AdaptiveParams.codec i) =
      .ok (InterfaceParams.adaptive i).relayed :=
  rfl

/-- So is the line-compensating one. -/
theorem interfaceDict_lc (i : LCParams K) :
    interfaceDict true (asDict LCParams.codec i) = .ok (InterfaceParams.lc i).relayed := by
  have hband : getNullable (asDict LCParams.codec i) "adapt_band" .float = .ok i.1.adapt_band :=
    getNullable_elim (by rw [asDict_lc]; rfl)
  have hdelta : getNullable (asDict LCParams.codec i) "delta_c" .float = .ok i.1.delta_c :=
    getNullable_elim (by rw [asDict_lc]; rfl)
  rw [interfaceDict, hband, hdelta, asDict_lc]
  rfl

/-- What comes of the two blocks that are read. -/
theorem relayView_of_reads {a : AgentAssignment K} {e : String × Json K}
    {rest : List (String × Json K)} {d : Host.DisturbanceDict K} {b : Host.MicrogridDict K}
    (hmicrogrid : a.1.microgrid = e :: rest) (hd : disturbanceDict a.1.disturbance = .ok d)
    (hb : microgridDict a.1.microgrid = .ok b) :
    ∃ v, relayView a = .ok v ∧ v.dt_s = a.1.dt_s ∧ v.neighbors = a.1.neighbors ∧
      v.microgrid = some b := by
  rw [hmicrogrid] at hb
  simp only [relayView, hmicrogrid, hd, hb, bind, Except.bind, Except.map]
  exact ⟨_, rfl, rfl, rfl, rfl⟩

section Assigned

variable [IsStrictOrderedRing K] {manifest : ExperimentManifest K} {node : NodeSpec K}
  {m : MicrogridSpec K} {p : NodePlantSpec K}

omit [IsStrictOrderedRing K] in
/-- The interface of a node, as the relay reads it. -/
theorem interfaceDict_interfaceBlock (blocks : MicrogridBlocks K)
    (h : blocks.interface = interfaceBlock node m p) :
    (do
      let interface ← block (microgrid_dicts m blocks) "interface" .anyDict
      interfaceDict (decide (m.1.interface.name = "lc")) interface) =
      .ok (interfaceBlock node m p).relayed := by
  have hlookup : (microgrid_dicts m blocks).lookup "interface" = some blocks.interface.asdict := rfl
  rw [h] at hlookup
  rw [interfaceBlock] at hlookup ⊢
  cases hkind : m.1.interface with
  | adaptive =>
    have hobj : AdaptiveParams.codec.dump false (adaptiveBlock node m) =
        .obj (asDict AdaptiveParams.codec (adaptiveBlock node m)) :=
      dump_eq_obj rfl
    simp only [hkind, InterfaceParams.asdict, hobj] at hlookup
    have hblock : block (microgrid_dicts m blocks) "interface" .anyDict =
        .ok (asDict AdaptiveParams.codec (adaptiveBlock node m)) :=
      block_of_lookup hlookup
    have hfamily : decide (Host.InterfaceKind.adaptive.name = "lc") = false := by decide
    rw [hfamily]
    exact except_bind_eq_ok.2 ⟨_, hblock, interfaceDict_adaptive (adaptiveBlock node m)⟩
  | lc =>
    have hobj : LCParams.codec.dump false (lcBlock m p) =
        .obj (asDict LCParams.codec (lcBlock m p)) :=
      dump_eq_obj rfl
    simp only [hkind, InterfaceParams.asdict, hobj] at hlookup
    have hblock : block (microgrid_dicts m blocks) "interface" .anyDict =
        .ok (asDict LCParams.codec (lcBlock m p)) :=
      block_of_lookup hlookup
    have hfamily : decide (Host.InterfaceKind.lc.name = "lc") = true := by decide
    rw [hfamily]
    exact except_bind_eq_ok.2 ⟨_, hblock, interfaceDict_lc (lcBlock m p)⟩

/-- **The microgrid block, as the relay reads it, is the manifest's.** -/
theorem microgridDict_dicts (h : node.1.neighbors = [] → pinnedWeight manifest node ≠ none)
    (hp : node.1.plant = some p) {blocks : MicrogridBlocks K}
    (hblocks : microgrid_blocks manifest node m = .ok blocks) :
    microgridDict (microgrid_dicts m blocks) =
      .ok (Host.microgridDicts (nodeManifest manifest node m p h)) := by
  simp only [microgrid_blocks, hp] at hblocks
  have hinterface : blocks.interface = interfaceBlock node m p := by
    rw [← Except.ok.inj hblocks]
  obtain ⟨interface, hread, hinterface⟩ :=
    except_bind_eq_ok.1 (interfaceDict_interfaceBlock blocks hinterface)
  have hplant : block (microgrid_dicts m blocks) "plant" .anyDict =
      .ok (asDict PlantParams.codec blocks.plant) :=
    block_of_lookup (congrArg some (dump_eq_obj rfl))
  have hvirtual : block (microgrid_dicts m blocks) "virtual" .anyDict =
      .ok (asDict VirtualParams.codec blocks.virtual) :=
    block_of_lookup (congrArg some (dump_eq_obj rfl))
  have hkind : block (microgrid_dicts m blocks) "interface_kind" .str =
      .ok m.1.interface.name :=
    block_of_lookup rfl
  have hdegree : block (microgrid_dicts m blocks) "degree" .int = .ok blocks.degree :=
    block_of_lookup rfl
  have hstate0_P : block (microgrid_dicts m blocks) "state0_P" .float = .ok blocks.state0_P :=
    block_of_lookup rfl
  have hstate0_Q : block (microgrid_dicts m blocks) "state0_Q" .float = .ok blocks.state0_Q :=
    block_of_lookup rfl
  have hvstate0_P : block (microgrid_dicts m blocks) "vstate0_P" .float = .ok blocks.vstate0_P :=
    block_of_lookup rfl
  have hvstate0_Q : block (microgrid_dicts m blocks) "vstate0_Q" .float = .ok blocks.vstate0_Q :=
    block_of_lookup rfl
  simp only [microgridDict, hplant, hvirtual, hread, hkind, hdegree, hstate0_P, hstate0_Q,
    hvstate0_P, hvstate0_Q, plantDict_asDict, virtualDict_asDict, hinterface, bind, Except.bind]
  have hfamily : (nodeManifest manifest node m p h).interfaceBlock.asdict =
      (interfaceBlock node m p).relayed := by
    rw [Host.NodeManifest.interfaceBlock, interfaceBlock, nodeManifest, nodeSpec]
    cases m.1.interface with
    | adaptive => rfl
    | lc => rfl
  have hvirtualBlock : blocks.virtual.1 =
      (⟨m.1.T_o, m.1.alpha_0, m.1.delta_o, m.1.kappa_o, m.1.xi, m.1.c_0,
        (nodeManifest manifest node m p h).b, (nodeManifest manifest node m p h).ref.1,
        (nodeManifest manifest node m p h).ref.2⟩ : VirtualFields K) := by
    rw [pin_nodeManifest, ref_nodeManifest, ← Except.ok.inj hblocks]
    rfl
  rw [hvirtualBlock, ← hfamily, ← Except.ok.inj hblocks]
  rfl

/-- **What the relay reads of a microgrid node is the assignment the manifest makes of it.** -/
theorem relayView_assigned (h : node.1.neighbors = [] → pinnedWeight manifest node ≠ none)
    (hnode : node ∈ manifest.1.nodes) (hm : manifest.1.controller.1.microgrid = some m)
    (hp : node.1.plant = some p) {np : Numpy K} {run_index : ℤ} {a : AgentAssignment K}
    (ha : assignment_for np manifest node.1.id run_index = .ok a) :
    ∃ v, relayView a = .ok v ∧ Host.AssignedFrom (nodeManifest manifest node m p h) v := by
  simp only [assignment_for, find?_node hnode] at ha
  obtain ⟨params, hparams, ha⟩ := except_bind_eq_ok.1 ha
  obtain ⟨s, -, ha⟩ := except_bind_eq_ok.1 ha
  obtain ⟨microgrid, hmicrogrid, ha⟩ := except_bind_eq_ok.1 ha
  simp only [microgridOf, hm] at hmicrogrid
  obtain ⟨blocks, hblocks, hdicts⟩ := except_bind_eq_ok.1 hmicrogrid
  simp only [controller_params_for, hm] at hparams
  obtain ⟨ics, -, hparams⟩ := except_bind_eq_ok.1 hparams
  obtain ⟨blocks', -, hparams⟩ := except_bind_eq_ok.1 hparams
  have hread := microgridDict_dicts h hp hblocks
  have hdt : params.1.dt_s = manifest.1.controller.1.dt_s := by
    rw [← Except.ok.inj hparams]
    rfl
  obtain rfl := Except.ok.inj hdicts
  obtain rfl := Except.ok.inj ha
  obtain ⟨v, hv, hdt_s, hneighbors, hblock⟩ :=
    relayView_of_reads
      (a := assignmentOf manifest node params s (microgrid_dicts m blocks) run_index)
      rfl (disturbanceDict_asDict params.1.disturbance) hread
  exact ⟨v, hv, hdt_s.trans hdt, hneighbors, hblock⟩

end Assigned

end VertexTestbed.Manifest
