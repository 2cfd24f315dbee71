import VertexTestbed.Manifest.Assignment

/-!
# The arms of the microgrid comparison

`ARMS` and `arm_manifest` of `hub/runner.py`. The manifest of an arm is not built in place: the
declared manifest is dumped to JSON without its absent fields, two or three keys are overwritten,
and the result is validated again. What comes out is the declared manifest with those fields
changed (`arm_manifest_eq`), since validation undoes a dump.

The assignments of two arms are compared as dictionaries: `DifferWithin` allows one key of the
interface block, and `DifferAcross` the controller's name, the kind of the interface and its block.
Two arms of one family differ within, any two across: `arms_paired`.
-/

namespace VertexTestbed.Manifest

/-! ### `ARMS` -/

/-- An arm. -/
inductive Arm where
  | LC0
  | LCplus
  | AA
  | DZ
  deriving DecidableEq

/-- The name of an arm. -/
def Arm.name : Arm → String
  | LC0 => "LC0"
  | LCplus => "LC+"
  | AA => "AA"
  | DZ => "DZ"

/-- `ARMS`. -/
def ARMS : List Arm := [.LC0, .LCplus, .AA, .DZ]

/-- The family of an arm. -/
def Arm.family : Arm → Host.InterfaceKind
  | LC0 => .lc
  | LCplus => .lc
  | AA => .adaptive
  | DZ => .adaptive

/-- The `ValueError`s of `arm_manifest`, and the `ValidationError` of its result. -/
inductive ArmError where
  /-- `unknown arm {arm}; known: {ARMS}` -/
  | unknownArm (arm : String)
  /-- `arm {arm} needs a controller.microgrid block; this manifest selects {name}, …` -/
  | noMicrogrid (arm name : String)
  | refused
  deriving DecidableEq

variable {K : Type} [Field K] [LinearOrder K]

/-! ### `arm_manifest` -/

/-- What an arm writes into `doc["controller"]["microgrid"]`. -/
def Arm.editMicrogrid (arm : Arm) (mg : Json K) : Json K :=
  match arm with
  | AA => (mg.set "interface" (.str "adaptive")).set "eps" (.num 0)
  | DZ => mg.set "interface" (.str "adaptive")
  | LC0 => (mg.set "interface" (.str "lc")).set "terminal" (.bool true)
  | LCplus => (mg.set "interface" (.str "lc")).set "terminal" (.bool false)

/-- The name of the controller of a family. -/
def controllerName : Host.InterfaceKind → String
  | .adaptive => "microgrid_adaptive"
  | .lc => "microgrid_lc"

/-- What an arm writes into `doc["controller"]`. -/
def Arm.editController (arm : Arm) (c : Json K) : Json K :=
  (c.set "name" (.str (controllerName arm.family))).modify "microgrid" arm.editMicrogrid

/-- What an arm writes into the document. -/
def Arm.edit (arm : Arm) (doc : Json K) : Json K :=
  doc.modify "controller" arm.editController

variable [IsStrictOrderedRing K]

/-- `arm_manifest`. -/
def arm_manifest (manifest : ExperimentManifest K) (arm : String) :
    Except ArmError (ExperimentManifest K) :=
  match ARMS.find? fun a ↦ a.name = arm with
  | none => .error (.unknownArm arm)
  | some a =>
    if manifest.1.controller.1.microgrid.isNone then
      .error (.noMicrogrid arm manifest.1.controller.1.name)
    else
      match ExperimentManifest.codec.validate
          (a.edit (ExperimentManifest.codec.dump true manifest)) with
      | some m => .ok m
      | none => .error .refused

/-! ### The manifest of an arm -/

/-- The settings of an arm. -/
def Arm.microgrid (arm : Arm) (m : MicrogridFields K) : MicrogridFields K :=
  match arm with
  | AA => { m with interface := .adaptive, eps := .inl 0 }
  | DZ => { m with interface := .adaptive }
  | LC0 => { m with interface := .lc, terminal := true }
  | LCplus => { m with interface := .lc, terminal := false }

omit [IsStrictOrderedRing K] in
theorem Arm.microgrid_valid (arm : Arm) {m : MicrogridFields K} (h : m.Valid) :
    (arm.microgrid m).Valid := by
  cases arm with
  | AA => exact ⟨h.1, le_rfl⟩
  | DZ => exact h
  | LC0 => exact h
  | LCplus => exact h

/-- The settings of an arm are valid when the declared ones are. -/
def Arm.spec (arm : Arm) (m : MicrogridSpec K) : MicrogridSpec K :=
  ⟨arm.microgrid m.1, arm.microgrid_valid m.2⟩

/-- The controller of an arm. -/
def Arm.controller (arm : Arm) (c : ControllerSpec K) (m : MicrogridSpec K) : ControllerSpec K :=
  ⟨{ c.1 with
      name := controllerName arm.family
      microgrid := some (arm.spec m) }, c.2⟩

/-- The manifest of an arm: the controller's name and the fields of the arm, and nothing else. -/
def Arm.manifest (arm : Arm) (manifest : ExperimentManifest K) (m : MicrogridSpec K) :
    ExperimentManifest K :=
  ⟨{ manifest.1 with controller := arm.controller manifest.1.controller m }, manifest.2⟩

omit [IsStrictOrderedRing K] in
/-- What a `MicrogridSpec` is dumped to. -/
theorem dump_microgrid (excl : Bool) (m : MicrogridSpec K) :
    MicrogridSpec.codec.dump excl m =
      .obj (("interface", interfaceCodec.dump excl m.1.interface) ::
        ("profile", profileCodec.dump excl m.1.profile) :: ("p_max", .num m.1.p_max) ::
        ("q_max", .num m.1.q_max) :: ("T_o", .num m.1.T_o) :: ("alpha_0", .num m.1.alpha_0) ::
        ("delta_o", .num m.1.delta_o) :: ("kappa_o", .num m.1.kappa_o) :: ("xi", .num m.1.xi) ::
        ("c_0", .num m.1.c_0) :: ("mu_max", .num m.1.mu_max) :: ("gamma", .num m.1.gamma) ::
        ("eps", Threshold.codec.dump excl m.1.eps) :: ("vartheta0", .num m.1.vartheta0) ::
        ("T_c", .num m.1.T_c) :: ("beta_c", .num m.1.beta_c) :: ("Phi", .num m.1.Phi) ::
        ("terminal", .bool m.1.terminal) ::
        (Fields.singleOptional "adapt_band" .float (·.adapt_band)).dump excl m.1) := by
  show Json.obj (MicrogridFields.fields.dump excl m.1) = _
  simp only [MicrogridFields.fields, Fields.dump_field, Fields.dump_optional, Fields.dump_build,
    List.nil_append, List.cons_append]
  rfl

omit [IsStrictOrderedRing K] in
theorem editMicrogrid_dump (arm : Arm) (m : MicrogridSpec K) :
    arm.editMicrogrid (MicrogridSpec.codec.dump true m) =
      MicrogridSpec.codec.dump true (arm.spec m) := by
  rw [dump_microgrid, dump_microgrid]
  cases arm with
  | AA => simp only [Arm.editMicrogrid, Json.set, dictSet, String.reduceEq, if_false, if_true]; rfl
  | DZ => simp only [Arm.editMicrogrid, Json.set, dictSet, String.reduceEq, if_false, if_true]; rfl
  | LC0 => simp only [Arm.editMicrogrid, Json.set, dictSet, String.reduceEq, if_false, if_true]; rfl
  | LCplus =>
    simp only [Arm.editMicrogrid, Json.set, dictSet, String.reduceEq, if_false, if_true]; rfl

omit [IsStrictOrderedRing K] in
/-- What a `ControllerSpec` with a microgrid block is dumped to. -/
theorem dump_controller (excl : Bool) {c : ControllerSpec K} {m : MicrogridSpec K}
    (h : c.1.microgrid = some m) :
    ControllerSpec.codec.dump excl c =
      .obj [("name", .str c.1.name), ("dt_s", .num c.1.dt_s), ("eta", .num c.1.eta),
        ("gain_ij", .num c.1.gain_ij), ("alpha", .num c.1.alpha), ("delta", .num c.1.delta),
        ("disturbance", DisturbanceSpec.codec.dump excl c.1.disturbance),
        ("microgrid", MicrogridSpec.codec.dump excl m)] := by
  show Json.obj (ControllerFields.fields.dump excl c.1) = _
  simp only [ControllerFields.fields, Fields.dump_field, Fields.dump_optional, Fields.dump_build,
    Fields.singleOptional, h, List.nil_append, List.cons_append]
  rfl

omit [IsStrictOrderedRing K] in
theorem editController_dump (arm : Arm) {c : ControllerSpec K} {m : MicrogridSpec K}
    (h : c.1.microgrid = some m) :
    arm.editController (ControllerSpec.codec.dump true c) =
      ControllerSpec.codec.dump true (arm.controller c m) := by
  have harm : (arm.controller c m).1.microgrid = some (arm.spec m) := rfl
  rw [dump_controller true h, dump_controller true harm]
  simp only [Arm.editController, Json.modify, Json.get?, Json.set, dictSet, lookup_cons_eq_ite,
    String.reduceEq, if_false, if_true, editMicrogrid_dump]
  rfl

/-- What a manifest is dumped to, as far as the controller. -/
theorem dump_manifest (excl : Bool) (manifest : ExperimentManifest K) :
    ExperimentManifest.codec.dump excl manifest =
      .obj (("name", .str manifest.1.name) :: ("description", .str manifest.1.description) ::
        ("nodes", (JsonCodec.list NodeSpec.codec).dump excl manifest.1.nodes) ::
        ("controller", ControllerSpec.codec.dump excl manifest.1.controller) ::
        ("radio", RadioSpec.codec.dump excl manifest.1.radio) ::
        ((Fields.singleOptional "structure" StructureSpec.codec (·.structureSpec)).dump excl
            manifest.1 ++
          ((Fields.singleOptional "coordination" CoordinationSpec.codec (·.coordination)).dump excl
              manifest.1 ++
            [("events", (JsonCodec.list ScheduledEvent.codec).dump excl manifest.1.events),
              ("seed", .int manifest.1.seed),
              ("ic_scheme", IcScheme.codec.dump excl manifest.1.ic_scheme)]))) := by
  show Json.obj (ManifestFields.fields.dump excl manifest.1) = _
  simp only [ManifestFields.fields, Fields.dump_field, Fields.dump_optional, Fields.dump_build,
    List.nil_append, List.cons_append, List.append_assoc]
  rfl

/-- The edit of a dump is the dump of the arm's manifest. -/
theorem edit_dump (arm : Arm) {manifest : ExperimentManifest K} {m : MicrogridSpec K}
    (h : manifest.1.controller.1.microgrid = some m) :
    arm.edit (ExperimentManifest.codec.dump true manifest) =
      ExperimentManifest.codec.dump true (arm.manifest manifest m) := by
  rw [dump_manifest, dump_manifest]
  simp only [Arm.edit, Json.modify, Json.get?, Json.set, dictSet, lookup_cons_eq_ite,
    String.reduceEq, if_false, if_true, editController_dump arm h]
  rfl

/-- **An arm's manifest is the declared one with the fields of the arm changed**: nothing is lost on
the way through JSON. -/
theorem arm_manifest_eq (arm : Arm) {manifest : ExperimentManifest K} {m : MicrogridSpec K}
    (h : manifest.1.controller.1.microgrid = some m) :
    arm_manifest manifest arm.name = .ok (arm.manifest manifest m) := by
  have hfind : (ARMS.find? fun a ↦ a.name = arm.name) = some arm := by
    cases arm <;> decide
  have hsome : manifest.1.controller.1.microgrid.isNone = false := by rw [h]; rfl
  rw [arm_manifest, hfind]
  simp only [hsome, edit_dump arm h, ExperimentManifest.codec.validate_dump]
  rfl

/-! ### The assignments of two arms -/

omit [IsStrictOrderedRing K]

/-- The blocks of a node in an arm. -/
def Arm.blocks (arm : Arm) (manifest : ExperimentManifest K) (m : MicrogridSpec K)
    (node : NodeSpec K) (p : NodePlantSpec K) : MicrogridBlocks K where
  plant := plantBlock m p
  virtual := virtualBlock manifest node m
  interface := interfaceBlock node (arm.spec m) p
  degree := node.1.neighbors.length
  state0_P := p.1.X0.1
  state0_Q := p.1.X0.2
  vstate0_P := p.1.z0.1
  vstate0_Q := p.1.z0.2

/-- The assignment of a node in an arm. Only the blocks and the name look at the arm. -/
def Arm.assignment (arm : Arm) (manifest : ExperimentManifest K) (m : MicrogridSpec K)
    (node : NodeSpec K) (p : NodePlantSpec K) (s : ℕ) (run_index : ℤ) : AgentAssignment K :=
  assignmentOf (arm.manifest manifest m) node
    ((arm.blocks manifest m node p).params manifest.1.controller.1.dt_s
      manifest.dt_pos) s
    (microgrid_dicts (arm.spec m) (arm.blocks manifest m node p)) run_index

theorem microgrid_blocks_arm (arm : Arm) (manifest : ExperimentManifest K) (m : MicrogridSpec K)
    {node : NodeSpec K} {p : NodePlantSpec K} (h : node.1.plant = some p) :
    microgrid_blocks (arm.manifest manifest m) node (arm.spec m) =
      .ok (arm.blocks manifest m node p) := by
  rw [microgrid_blocks]
  simp only [h]
  cases arm <;> rfl

/-- The microgrid settings of an arm's manifest are the arm's. -/
theorem microgrid_arm (arm : Arm) (manifest : ExperimentManifest K) (m : MicrogridSpec K) :
    (arm.manifest manifest m).1.controller.1.microgrid = some (arm.spec m) := rfl

theorem assignment_for_arm {np : Numpy K} {manifest : ExperimentManifest K} {m : MicrogridSpec K}
    {node_id run_index : ℤ} {node : NodeSpec K} {p : NodePlantSpec K} {s s' : ℕ}
    (hnode : (manifest.1.nodes.find? fun n ↦ n.1.id = node_id) = some node)
    (hp : node.1.plant = some p)
    (hs : node_seed np manifest.1.seed run_index node.1.id "ic" = .ok s)
    (hs' : node_seed np manifest.1.seed run_index node.1.id "disturbance" = .ok s') (arm : Arm) :
    assignment_for np (arm.manifest manifest m) node_id run_index =
      .ok (arm.assignment manifest m node p s' run_index) := by
  have hfind : ((arm.manifest manifest m).1.nodes.find? fun n ↦ n.1.id = node_id) = some node :=
    hnode
  have hblocks := microgrid_blocks_arm arm manifest m hp
  have hparams : controller_params_for np (arm.manifest manifest m) node run_index =
      .ok ((arm.blocks manifest m node p).params manifest.1.controller.1.dt_s
        manifest.1.controller.2.1) := by
    have hseed : node_seed np (arm.manifest manifest m).1.seed run_index node.1.id "ic" = .ok s :=
      hs
    have hmg := microgrid_arm arm manifest m
    simp only [controller_params_for, initial_conditions, hseed, hmg, hblocks, bind, Except.bind,
      pure, Except.pure]
    rfl
  have hmicrogrid : microgridOf (arm.manifest manifest m) node =
      .ok (microgrid_dicts (arm.spec m) (arm.blocks manifest m node p)) := by
    have hmg := microgrid_arm arm manifest m
    simp only [microgridOf, hmg, hblocks, bind, Except.bind, pure, Except.pure]
  have hseed : node_seed np (arm.manifest manifest m).1.seed run_index node.1.id "disturbance" =
      .ok s' := hs'
  rw [assignment_for, hfind]
  simp only [hparams, hseed, hmicrogrid, bind, Except.bind]
  rfl

/-- What an assignment under microgrid settings needs of the manifest: the node, its plant, and a
seed for it. None of the three is in the arm's reach. -/
def Assignable (np : Numpy K) (manifest : ExperimentManifest K) (node_id run_index : ℤ) : Prop :=
  ∃ node p s, (manifest.1.nodes.find? fun n ↦ n.1.id = node_id) = some node ∧
    node.1.plant = some p ∧ node_seed np manifest.1.seed run_index node.1.id "ic" = .ok s

/-- Without one of them there is no assignment. -/
theorem assignment_for_error {np : Numpy K} {manifest : ExperimentManifest K} {m : MicrogridSpec K}
    (hmg : manifest.1.controller.1.microgrid = some m) {node_id run_index : ℤ}
    (h : ¬Assignable np manifest node_id run_index) :
    ∃ e, assignment_for np manifest node_id run_index = .error e := by
  rw [assignment_for]
  cases hfind : manifest.1.nodes.find? fun n ↦ n.1.id = node_id with
  | none => exact ⟨_, rfl⟩
  | some node =>
    cases hs : node_seed np manifest.1.seed run_index node.1.id "ic" with
    | error e =>
      refine ⟨e, ?_⟩
      simp only [controller_params_for, initial_conditions, hs, bind, Except.bind]
    | ok s =>
      cases hp : node.1.plant with
      | none =>
        refine ⟨.noPlant node.1.id manifest.1.controller.1.name, ?_⟩
        simp only [controller_params_for, initial_conditions, hs, hmg, microgrid_blocks, hp,
          bind, Except.bind, pure, Except.pure]
      | some p => exact absurd ⟨node, p, s, hfind, hp, hs⟩ h

/-- With all three there is one. -/
theorem assignment_for_ok {np : Numpy K} {manifest : ExperimentManifest K} {m : MicrogridSpec K}
    (hmg : manifest.1.controller.1.microgrid = some m) {node_id run_index : ℤ}
    (h : Assignable np manifest node_id run_index) :
    ∃ a, assignment_for np manifest node_id run_index = .ok a := by
  obtain ⟨node, p, s, hfind, hp, hs⟩ := h
  obtain ⟨s', hs'⟩ :
      ∃ s', node_seed np manifest.1.seed run_index node.1.id "disturbance" = .ok s' :=
    node_seed_of_ok hs
  rw [assignment_for, hfind]
  simp only [controller_params_for, initial_conditions, hs, hs', hmg, microgrid_blocks, hp,
    microgridOf, bind, Except.bind, pure, Except.pure]
  exact ⟨_, rfl⟩

/-- An assignment fails in every arm and in the declared manifest, or in none of them. -/
theorem assignment_for_arms (np : Numpy K) {manifest : ExperimentManifest K} {m : MicrogridSpec K}
    (hmg : manifest.1.controller.1.microgrid = some m) (node_id run_index : ℤ) :
    ((∃ e, assignment_for np manifest node_id run_index = .error e) ∧
      ∀ arm : Arm, ∃ e,
        assignment_for np (arm.manifest manifest m) node_id run_index = .error e) ∨
    ((∃ a, assignment_for np manifest node_id run_index = .ok a) ∧
      ∃ node p s, ∀ arm : Arm, assignment_for np (arm.manifest manifest m) node_id run_index =
        .ok (arm.assignment manifest m node p s run_index)) := by
  by_cases h : Assignable np manifest node_id run_index
  · refine .inr ⟨assignment_for_ok hmg h, ?_⟩
    obtain ⟨node, p, s, hfind, hp, hs⟩ := h
    obtain ⟨s', hs'⟩ : ∃ s',
        node_seed np manifest.1.seed run_index node.1.id "disturbance" = .ok s' :=
      node_seed_of_ok hs
    exact ⟨node, p, s', assignment_for_arm hfind hp hs hs'⟩
  · exact .inl ⟨assignment_for_error hmg h, fun arm ↦
      assignment_for_error (microgrid_arm arm manifest m) h⟩

/-! ### Pairing -/

/-- `microgrid["interface"][key] = v`. -/
def setInterface (key : String) (v : Json K) (m : List (String × Json K)) :
    List (String × Json K) :=
  m.map fun e ↦ if e.1 = "interface" then (e.1, e.2.set key v) else e

/-- Two assignments are the same but for one key of the interface block. -/
def DifferWithin (key : String) (a b : AgentAssignment K) : Prop :=
  ∃ v, b = a.withMicrogrid (setInterface key v a.1.microgrid)

/-- Two assignments are the same but for the controller's name, the kind of the interface and its
block. -/
def DifferAcross (a b : AgentAssignment K) : Prop :=
  ∃ name kind iface, b = ⟨{ a.1 with
    controller := name
    microgrid := dictSet "interface" iface (dictSet "interface_kind" kind a.1.microgrid) }, a.valid⟩

/-- The field that the arms of a family are declared to differ in. -/
def declaredField : Host.InterfaceKind → String
  | .adaptive => "eps"
  | .lc => "terminal"

/-- How the assignments of two arms are declared to differ. -/
def Declared (arm arm' : Arm) (a b : AgentAssignment K) : Prop :=
  if arm.family = arm'.family then DifferWithin (declaredField arm.family) a b
  else DifferAcross a b

/-- The declared assignment and those of two arms exist together, the two related, or all three
fail. -/
def Together {ε A : Type} (R : A → A → Prop) : Except ε A → Except ε A → Except ε A → Prop
  | .ok _, .ok a, .ok b => R a b
  | .error _, .error _, .error _ => True
  | _, _, _ => False

/-- The value of the declared field. -/
def Arm.declaredValue (arm : Arm) (m : MicrogridSpec K) (node : NodeSpec K) : Json K :=
  match arm.family with
  | .adaptive => .num ((arm.spec m).1.eps_for node.1.id)
  | .lc => .bool (arm.spec m).1.terminal

theorem dump_adaptive (p : AdaptiveParams K) :
    AdaptiveParams.codec.dump false p =
      .obj [("gamma", .num p.1.gamma), ("eps", .num p.1.eps), ("vartheta0", .num p.1.vartheta0),
        ("mu_max", .num p.1.mu_max), ("trigger", .str (triggerName p.1.trigger))] := by
  show Json.obj (AdaptiveFields.fields.dump false p.1) = _
  simp only [AdaptiveFields.fields, Fields.dump_field, Fields.dump_build, List.nil_append,
    List.cons_append]
  rfl

theorem dump_lc (p : LCParams K) :
    LCParams.codec.dump false p =
      .obj (("kappa", .num p.1.kappa) :: ("profile", .str p.1.profile.name) ::
        ("T_c", .num p.1.T_c) :: ("beta_c", .num p.1.beta_c) :: ("Phi", .num p.1.Phi) ::
        ("terminal", .bool p.1.terminal) :: ("mu_max", .num p.1.mu_max) ::
        ("p_max", .num p.1.p_max) :: ("q_max", .num p.1.q_max) ::
        ((Fields.singleOptional "delta_c" .float (·.delta_c)).dump false p.1 ++
          ((Fields.singleOptional "adapt_band" .float (·.adapt_band)).dump false p.1 ++
            (Fields.singleOptional "adapt_after" .float (·.adapt_after)).dump false p.1))) := by
  show Json.obj (LCFields.fields.dump false p.1) = _
  simp only [LCFields.fields, Fields.dump_field, Fields.dump_optional, Fields.dump_build,
    List.nil_append, List.cons_append, List.append_assoc]
  rfl

/-- The adaptive block of an arm, whose threshold is all that looks at the arm. -/
theorem dump_adaptiveBlock (arm : Arm) (m : MicrogridSpec K) (node : NodeSpec K) :
    AdaptiveParams.codec.dump false (adaptiveBlock node (arm.spec m)) =
      .obj [("gamma", .num m.1.gamma), ("eps", .num ((arm.spec m).1.eps_for node.1.id)),
        ("vartheta0", .num m.1.vartheta0), ("mu_max", .num m.1.mu_max),
        ("trigger", .str "sigma")] := by
  rw [dump_adaptive]
  cases arm <;> rfl

/-- The LC block of an arm, whose terminal policy is all that looks at the arm. -/
theorem dump_lcBlock (arm : Arm) (m : MicrogridSpec K) (p : NodePlantSpec K) :
    LCParams.codec.dump false (lcBlock (arm.spec m) p) =
      .obj (("kappa", .num p.1.kappa) :: ("profile", .str m.1.profile.name) ::
        ("T_c", .num m.1.T_c) :: ("beta_c", .num m.1.beta_c) :: ("Phi", .num m.1.Phi) ::
        ("terminal", .bool (arm.spec m).1.terminal) :: ("mu_max", .num m.1.mu_max) ::
        ("p_max", .num m.1.p_max) :: ("q_max", .num m.1.q_max) :: ("delta_c", .null) ::
        ((Fields.singleOptional "adapt_band" .float id).dump false m.1.adapt_band ++
          [("adapt_after", .null)])) := by
  rw [dump_lc]
  cases arm <;> rfl

/-- Within a family, the interface blocks of two arms differ in the declared field. -/
theorem asdict_within {arm arm' : Arm} (h : arm.family = arm'.family) (m : MicrogridSpec K)
    (node : NodeSpec K) (p : NodePlantSpec K) :
    (interfaceBlock node (arm'.spec m) p).asdict =
      (interfaceBlock node (arm.spec m) p).asdict.set (declaredField arm.family)
        (arm'.declaredValue m node) := by
  have hadaptive (a : Arm) (ha : a.family = .adaptive) :
      (interfaceBlock node (a.spec m) p).asdict =
        AdaptiveParams.codec.dump false (adaptiveBlock node (a.spec m)) := by
    cases a with
    | AA => rfl
    | DZ => rfl
    | LC0 => cases ha
    | LCplus => cases ha
  have hlc (a : Arm) (ha : a.family = .lc) :
      (interfaceBlock node (a.spec m) p).asdict =
        LCParams.codec.dump false (lcBlock (a.spec m) p) := by
    cases a with
    | AA => cases ha
    | DZ => cases ha
    | LC0 => rfl
    | LCplus => rfl
  cases hfamily : arm.family with
  | adaptive =>
    rw [hfamily] at h
    rw [hadaptive arm hfamily, hadaptive arm' h.symm, dump_adaptiveBlock, dump_adaptiveBlock]
    simp only [Arm.declaredValue, ← h, declaredField, Json.set, dictSet, String.reduceEq, if_false,
      if_true]
  | lc =>
    rw [hfamily] at h
    rw [hlc arm hfamily, hlc arm' h.symm, dump_lcBlock, dump_lcBlock]
    simp only [Arm.declaredValue, ← h, declaredField, Json.set, dictSet, String.reduceEq, if_false,
      if_true]

/-- The microgrid block of an arm: the kind of its interface and its interface block look at the
arm. -/
theorem microgrid_dicts_arm (arm : Arm) (manifest : ExperimentManifest K) (m : MicrogridSpec K)
    (node : NodeSpec K) (p : NodePlantSpec K) :
    microgrid_dicts (arm.spec m) (arm.blocks manifest m node p) =
      [("interface_kind", .str arm.family.name), ("T_c", .num m.1.T_c),
        ("plant", PlantParams.codec.dump false (plantBlock m p)),
        ("virtual", VirtualParams.codec.dump false (virtualBlock manifest node m)),
        ("interface", (interfaceBlock node (arm.spec m) p).asdict),
        ("degree", .int node.1.neighbors.length), ("state0_P", .num p.1.X0.1),
        ("state0_Q", .num p.1.X0.2), ("vstate0_P", .num p.1.z0.1),
        ("vstate0_Q", .num p.1.z0.2)] := by
  cases arm <;> rfl

/-- What two arms have in common is everything but the controller's name and the microgrid block. -/
theorem assignment_eq (arm arm' : Arm) (manifest : ExperimentManifest K) (m : MicrogridSpec K)
    (node : NodeSpec K) (p : NodePlantSpec K) (s : ℕ) (run_index : ℤ) :
    (arm'.assignment manifest m node p s run_index).1 =
      { (arm.assignment manifest m node p s run_index).1 with
        controller := controllerName arm'.family
        microgrid := microgrid_dicts (arm'.spec m) (arm'.blocks manifest m node p) } :=
  rfl

/-- Two arms of one family are paired. -/
theorem assignment_within {arm arm' : Arm} (h : arm.family = arm'.family)
    (manifest : ExperimentManifest K) (m : MicrogridSpec K) (node : NodeSpec K)
    (p : NodePlantSpec K) (s : ℕ) (run_index : ℤ) :
    DifferWithin (declaredField arm.family) (arm.assignment manifest m node p s run_index)
      (arm'.assignment manifest m node p s run_index) := by
  refine ⟨arm'.declaredValue m node, Subtype.ext ?_⟩
  have hdicts : microgrid_dicts (arm'.spec m) (arm'.blocks manifest m node p) =
      setInterface (declaredField arm.family) (arm'.declaredValue m node)
        (microgrid_dicts (arm.spec m) (arm.blocks manifest m node p)) := by
    rw [microgrid_dicts_arm, microgrid_dicts_arm, asdict_within h, ← h]
    simp only [setInterface, List.map_cons, List.map_nil, String.reduceEq, if_false, if_true]
  rw [assignment_eq arm arm', hdicts, ← h]
  rfl

/-- Any two arms are paired across families. -/
theorem assignment_across (arm arm' : Arm) (manifest : ExperimentManifest K) (m : MicrogridSpec K)
    (node : NodeSpec K) (p : NodePlantSpec K) (s : ℕ) (run_index : ℤ) :
    DifferAcross (arm.assignment manifest m node p s run_index)
      (arm'.assignment manifest m node p s run_index) := by
  refine ⟨controllerName arm'.family, .str arm'.family.name,
    (interfaceBlock node (arm'.spec m) p).asdict, Subtype.ext ?_⟩
  have hdicts : microgrid_dicts (arm'.spec m) (arm'.blocks manifest m node p) =
      dictSet "interface" (interfaceBlock node (arm'.spec m) p).asdict
        (dictSet "interface_kind" (.str arm'.family.name)
          (microgrid_dicts (arm.spec m) (arm.blocks manifest m node p))) := by
    rw [microgrid_dicts_arm, microgrid_dicts_arm]
    simp only [dictSet, String.reduceEq, if_false, if_true]
  rw [assignment_eq arm arm', hdicts]
  rfl

/-- **The arms are paired.** For every microgrid manifest the four arms can be built, and for every
node and run their assignments differ as declared: in one key of the interface block within a
family, in the controller's name and the interface across families, and in nothing else. There is
no assignment only where the declared manifest itself has none. -/
theorem arms_paired [IsStrictOrderedRing K] (np : Numpy K) (manifest : ExperimentManifest K)
    (h : manifest.1.controller.1.microgrid.isSome) (node_id run_index : ℤ) (arm arm' : Arm) :
    ∃ m m', arm_manifest manifest arm.name = .ok m ∧ arm_manifest manifest arm'.name = .ok m' ∧
      Together (Declared arm arm') (assignment_for np manifest node_id run_index)
        (assignment_for np m node_id run_index) (assignment_for np m' node_id run_index) := by
  obtain ⟨mg, hmg⟩ := Option.isSome_iff_exists.1 h
  refine ⟨arm.manifest manifest mg, arm'.manifest manifest mg, arm_manifest_eq arm hmg,
    arm_manifest_eq arm' hmg, ?_⟩
  rcases assignment_for_arms np hmg node_id run_index with
    ⟨⟨d, hd⟩, herror⟩ | ⟨⟨d, hd⟩, node, p, s, hok⟩
  · obtain ⟨e, he⟩ := herror arm
    obtain ⟨e', he'⟩ := herror arm'
    rw [hd, he, he']
    trivial
  · rw [hd, hok arm, hok arm']
    show Declared arm arm' _ _
    rw [Declared]
    split
    · rename_i hfamily
      exact assignment_within hfamily manifest mg node p s run_index
    · exact assignment_across arm arm' manifest mg node p s run_index

/-- The dead zone of the second node, paired with the arm that has none. -/
theorem arms_paired_pair :
    ∃ m m' a b, arm_manifest (pair (2, 3)) "AA" = .ok m ∧ arm_manifest (pair (2, 3)) "DZ" = .ok m' ∧
      assignment_for pairNumpy m 2 0 = .ok a ∧ assignment_for pairNumpy m' 2 0 = .ok b ∧
      Declared .AA .DZ a b := by
  obtain ⟨m, m', hm, hm', h⟩ := arms_paired pairNumpy (pair (2, 3)) rfl 2 0 .AA .DZ
  have hdeclared : (assignment_for pairNumpy (pair (2, 3)) 2 0).isOk = true := by decide +kernel
  revert h hdeclared
  cases assignment_for pairNumpy (pair (2, 3)) 2 0 with
  | error e => exact fun _ hdeclared ↦ nomatch hdeclared
  | ok d =>
    cases ha : assignment_for pairNumpy m 2 0 with
    | error e => exact fun h ↦ h.elim
    | ok a =>
      cases hb : assignment_for pairNumpy m' 2 0 with
      | error e => exact fun h ↦ h.elim
      | ok b => exact fun h _ ↦ ⟨m, m', a, b, hm, hm', ha, hb, h⟩

end VertexTestbed.Manifest
