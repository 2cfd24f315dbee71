import VertexTestbed.Conformance.Configure
import VertexTestbed.Firmware.RunLoops
import VertexTestbed.Manifest.Views

/-!
# An unpinned node never learns the reference

The reference of a manifest is for the pinned nodes only. It is read once, by `microgrid_blocks`,
behind the test that the node is pinned; so for a node that is not, two manifests that differ in
nothing but the reference have one assignment (`assignment_for_congr`). What the relay sends and
what a board or a host agent does with it are functions of the assignment.

Behind the loader stand two checks of the same rule: neither `encode_microgrid_virtual` nor the
board takes a payload that has no pin and a reference.
-/

namespace VertexTestbed.Conformance

open Firmware Host Runs Manifest

variable {K : Type} [Field K] [LinearOrder K]

/-! ### Two manifests that differ in the reference -/

/-- A coordination block without its reference. -/
def forgetCoordination (coord : CoordinationSpec K) : CoordinationSpec K :=
  ⟨{ coord.1 with reference := (0, 0) }, coord.2⟩

/-- A manifest without its reference. -/
def forgetReference (manifest : ManifestFields K) : ManifestFields K :=
  { manifest with coordination := manifest.coordination.map forgetCoordination }

/-- Two manifests differ in nothing but the values of the reference. -/
def SameButReference (manifest manifest' : ExperimentManifest K) : Prop :=
  forgetReference manifest.1 = forgetReference manifest'.1

/-- A manifest with another coordination block; no check of the whole reads it. -/
def withCoordination (manifest : ExperimentManifest K) (coord : Option (CoordinationSpec K)) :
    ExperimentManifest K :=
  ⟨{ manifest.1 with coordination := coord }, manifest.valid⟩

theorem SameButReference.exists_eq {manifest manifest' : ExperimentManifest K}
    (h : SameButReference manifest manifest') :
    ∃ coord : Option (CoordinationSpec K), manifest' = withCoordination manifest coord ∧
      coord.map forgetCoordination = manifest.1.coordination.map forgetCoordination := by
  obtain ⟨⟨name, description, nodes, controller, radio, structureSpec, coord, events, seed,
    ic_scheme⟩, hvalid⟩ := manifest
  obtain ⟨⟨_, _, _, _, _, _, coord', _, _, _⟩, hvalid'⟩ := manifest'
  simp only [SameButReference, forgetReference, ManifestFields.mk.injEq] at h
  obtain ⟨rfl, rfl, rfl, rfl, rfl, rfl, hcoord, rfl, rfl, rfl⟩ := h
  exact ⟨coord', rfl, hcoord.symm⟩

/-- The pinned ids are not part of the reference. -/
theorem SameButReference.pinnedIds {manifest manifest' : ExperimentManifest K}
    (h : SameButReference manifest manifest') : pinnedIds manifest'.1 = pinnedIds manifest.1 := by
  obtain ⟨coord', rfl, hcoord⟩ := h.exists_eq
  rw [Manifest.pinnedIds, Manifest.pinnedIds, withCoordination]
  dsimp only
  cases hm : manifest.1.coordination with
  | none =>
    rw [hm, Option.map_none, Option.map_eq_none_iff] at hcoord
    rw [hcoord]
  | some coord =>
    rw [hm, Option.map_some, Option.map_eq_some_iff] at hcoord
    obtain ⟨coord', rfl, heq⟩ := hcoord
    have hpinned : (forgetCoordination coord').1.pinned = (forgetCoordination coord).1.pinned := by
      rw [heq]
    exact congrArg (fun d : Dict ℤ K ↦ d.1.map Prod.fst) hpinned

/-! ### The assignment of an unpinned node -/

/-- A node that is not in `pinned` has no pin. -/
theorem pin_of_unpinned {manifest : ExperimentManifest K} {node : NodeSpec K}
    (h : node.1.id ∉ pinnedIds manifest.1) : pin manifest node = 0 := by
  rw [pin]
  rw [Manifest.pinnedIds] at h
  cases hcoord : manifest.1.coordination with
  | none => rfl
  | some coord =>
    simp only [hcoord] at h ⊢
    cases hlookup : coord.1.pinned.1.lookup node.1.id with
    | none => rfl
    | some w => exact absurd (List.mem_map_of_mem (lookup_mem hlookup)) h

/-- The virtual block of an unpinned node: neither a pin nor a reference. -/
theorem virtualBlock_of_unpinned {manifest : ExperimentManifest K} {node : NodeSpec K}
    (h : node.1.id ∉ pinnedIds manifest.1) (m : Manifest.MicrogridSpec K) :
    (virtualBlock manifest node m).1 =
      ⟨m.1.T_o, m.1.alpha_0, m.1.delta_o, m.1.kappa_o, m.1.xi, m.1.c_0, 0, 0, 0⟩ := by
  have hpin := pin_of_unpinned h
  show (⟨m.1.T_o, m.1.alpha_0, m.1.delta_o, m.1.kappa_o, m.1.xi, m.1.c_0, pin manifest node,
    (ref manifest node).1, (ref manifest node).2⟩ : VirtualFields K) = _
  rw [hpin, ref_of_unpinned hpin]

/-- **The blocks of an unpinned node are the same without the reference.** -/
theorem microgrid_blocks_congr {manifest manifest' : ExperimentManifest K}
    (hsame : SameButReference manifest manifest') {node : NodeSpec K}
    (h : node.1.id ∉ pinnedIds manifest.1) (m : Manifest.MicrogridSpec K) :
    microgrid_blocks manifest' node m = microgrid_blocks manifest node m := by
  have h' : node.1.id ∉ pinnedIds manifest'.1 := hsame.pinnedIds ▸ h
  have hvirtual : virtualBlock manifest' node m = virtualBlock manifest node m :=
    Subtype.ext ((virtualBlock_of_unpinned h' m).trans (virtualBlock_of_unpinned h m).symm)
  obtain ⟨coord', rfl, -⟩ := hsame.exists_eq
  unfold microgrid_blocks
  rw [hvirtual]
  rfl

/-- **An unpinned node has one assignment, whatever the reference.** -/
theorem assignment_for_congr (np : Numpy K) {manifest manifest' : ExperimentManifest K}
    (hsame : SameButReference manifest manifest') {node : NodeSpec K}
    (hnode : node ∈ manifest.1.nodes) (h : node.1.id ∉ pinnedIds manifest.1) (run_index : ℤ) :
    assignment_for np manifest' node.1.id run_index =
      assignment_for np manifest node.1.id run_index := by
  have hblocks := microgrid_blocks_congr hsame h
  obtain ⟨coord', rfl, -⟩ := hsame.exists_eq
  have hparams : controller_params_for np (withCoordination manifest coord') node run_index =
      controller_params_for np manifest node run_index := by
    simp only [controller_params_for, hblocks]
    rfl
  have hmicrogrid : microgridOf (withCoordination manifest coord') node =
      microgridOf manifest node := by
    simp only [microgridOf, hblocks]
    rfl
  have hfind := find?_node hnode
  have hfind' : ((withCoordination manifest coord').1.nodes.find? fun n ↦ n.1.id = node.1.id) =
      some node :=
    find?_node hnode
  simp only [assignment_for, hfind, hfind', hparams, hmicrogrid]
  rfl

/-! ### What the node makes of it -/

section Node

variable [IsStrictOrderedRing K] [FloorRing K]

/-- The frames `assignment_to_frames` makes for a node. -/
def nodeFrames (np : Numpy K) (manifest : ExperimentManifest K) (node_id run_index : ℤ)
    (trigger : Option Bool) (epoch_us : ℤ) :
    Except LoadError (Except EncodeError (List OutFrame)) := do
  let a ← assignment_for np manifest node_id run_index
  let v ← relayView a
  return assignmentToFrames v trigger epoch_us

/-- Frames sent one after another between whatever else happens to the board: each environment of
the schedule takes the next frame. -/
def delivered : List OutFrame → List (ControlEnv ⊕ BoardEvent) → List BoardEvent
  | _, [] => []
  | frames, .inr ev :: schedule => ev :: delivered frames schedule
  | [], .inl _ :: schedule => delivered [] schedule
  | f :: frames, .inl e :: schedule => .frame e f.1.value f.2 :: delivered frames schedule

/-- The state a board reaches that is sent the frames of a node. -/
def nodeBoard (np : Numpy K) (lib : Libm K) (manifest : ExperimentManifest K)
    (node_id run_index : ℤ) (trigger : Option Bool) (epoch_us : ℤ) (s : RunLoops K)
    (schedule : List (ControlEnv ⊕ BoardEvent)) :
    Except LoadError (Except EncodeError (RunLoops K)) := do
  let frames ← nodeFrames np manifest node_id run_index trigger epoch_us
  return frames.map fun frames ↦ run (RunLoops.step lib) s (delivered frames schedule)

omit [IsStrictOrderedRing K] in
/-- The state a host agent reaches that is configured with the assignment of a node. -/
def nodeHost {C : Type} (np : Numpy K) (kind : ControllerKind (ControllerArgs K) C)
    (manifest : ExperimentManifest K) (node_id run_index : ℤ)
    (s : HostService ℤ K (ControllerArgs K) C) (made : Bool)
    (events : List (HostEvent ℤ K (ControllerArgs K))) :
    Except LoadError (HostService ℤ K (ControllerArgs K) C) := do
  let a ← assignment_for np manifest node_id run_index
  let v ← hostView a
  return run (HostService.step kind) s (.configure v made :: events)

/-! ### The two checks behind the loader -/

omit K [Field K] [LinearOrder K] [IsStrictOrderedRing K] [FloorRing K] in
/-- The host does not encode a reference without a pin. -/
theorem encodeMicrogridVirtual_unpinned {f : MgVirtualFields} (hb : f.b = 0)
    (href : f.rP ≠ 0 ∨ f.rQ ≠ 0) :
    encodeMicrogridVirtual f =
      .error (.proto ("an unpinned node was given the reference; b = 0 means the node " ++
        "does not know it and must reach it through the graph")) := by
  rw [encodeMicrogridVirtual, raiseIf, if_pos ⟨hb, href⟩]
  rfl

/-- The board does not take one either. -/
theorem applyMgVirtual_unpinned (b : Board K) {d : Bytes} (nowUs : ℤ) (hb : protoLdI32 d 24 = 0)
    (href : protoLdI32 d 28 ≠ 0 ∨ protoLdI32 d 32 ≠ 0) :
    (agentApplyFrame b FrameType.mgVirtual.value d nowUs).1 < 0 := by
  have happly : agentApplyFrame b FrameType.mgVirtual.value d nowUs =
      onAgent b (applyMgVirtual b.agent d) := rfl
  have hbad : mgVirtualBad (storeMgVirtual b.agent.params.microgrid d) := ⟨hb, href⟩
  rw [happly, onAgent, applyMgVirtual]
  split_ifs
  · exact agentErrLen_neg
  · simp only [if_pos hbad]
    exact agentErrRange_neg

/-! ### The reference stays with the pinned nodes -/

/-- **An unpinned node never learns the reference.** -/
theorem reference_confined (np : Numpy K) (lib : Libm K) :
    (∀ manifest manifest' : ExperimentManifest K, SameButReference manifest manifest' →
      ∀ node ∈ manifest.1.nodes, node.1.id ∉ pinnedIds manifest.1 → ∀ run_index : ℤ,
        assignment_for np manifest' node.1.id run_index =
            assignment_for np manifest node.1.id run_index ∧
          (∀ trigger epoch_us,
            nodeFrames np manifest' node.1.id run_index trigger epoch_us =
              nodeFrames np manifest node.1.id run_index trigger epoch_us) ∧
          (∀ trigger epoch_us s schedule,
            nodeBoard np lib manifest' node.1.id run_index trigger epoch_us s schedule =
              nodeBoard np lib manifest node.1.id run_index trigger epoch_us s schedule) ∧
          ∀ (C : Type) (kind : ControllerKind (ControllerArgs K) C) s made events,
            nodeHost np kind manifest' node.1.id run_index s made events =
              nodeHost np kind manifest node.1.id run_index s made events) ∧
      (∀ f : MgVirtualFields, f.b = 0 → f.rP ≠ 0 ∨ f.rQ ≠ 0 →
        ∃ message, encodeMicrogridVirtual f = .error (.proto message)) ∧
      ∀ (b : Board K) (d : Bytes) (nowUs : ℤ), protoLdI32 d 24 = 0 →
        protoLdI32 d 28 ≠ 0 ∨ protoLdI32 d 32 ≠ 0 →
          (agentApplyFrame b FrameType.mgVirtual.value d nowUs).1 < 0 := by
  refine ⟨fun manifest manifest' hsame node hnode hpin run_index ↦ ?_,
    fun f hb href ↦ ⟨_, encodeMicrogridVirtual_unpinned hb href⟩,
    fun b d nowUs hb href ↦ applyMgVirtual_unpinned b nowUs hb href⟩
  -- Everything else is computed from the assignment.
  have ha := assignment_for_congr np hsame hnode hpin run_index
  have hframes (trigger : Option Bool) (epoch_us : ℤ) :
      nodeFrames np manifest' node.1.id run_index trigger epoch_us =
        nodeFrames np manifest node.1.id run_index trigger epoch_us := by
    rw [nodeFrames, nodeFrames, ha]
  refine ⟨ha, hframes, fun trigger epoch_us s schedule ↦ ?_, fun C kind s made events ↦ ?_⟩
  · rw [nodeBoard, nodeBoard, hframes]
  · rw [nodeHost, nodeHost, ha]

end Node

/-- A payload with a reference and no pin. -/
def unpinnedPayload : Bytes :=
  List.replicate 28 0 ++ [1] ++ List.replicate 19 0

/-- The second generator of the pair is not pinned, and its board and its agent do not see the
reference change. -/
theorem reference_confined_pair :
    assignment_for pairNumpy (pair (5, 7)) 2 0 = assignment_for pairNumpy (pair (2, 3)) 2 0 ∧
      (∃ message, encodeMicrogridVirtual ⟨0, 0, 0, 0, 0, 0, 0, 1, 0, 1, 0, 0⟩ =
        .error (.proto message)) ∧
      (agentApplyFrame (boardInit ℚ) FrameType.mgVirtual.value unpinnedPayload 0).1 < 0 := by
  have h := reference_confined pairNumpy Libm.atZero
  refine ⟨(h.1 (pair (2, 3)) (pair (5, 7)) rfl ⟨_, pairNode_valid.2⟩ ?_ ?_ 0).1,
    h.2.1 _ rfl (Or.inl one_ne_zero), h.2.2 _ _ _ (by decide) (by decide)⟩
  · exact List.mem_cons_of_mem _ List.mem_cons_self
  · decide

end VertexTestbed.Conformance
