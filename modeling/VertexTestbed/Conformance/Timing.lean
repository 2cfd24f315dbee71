import VertexTestbed.Conformance.Reference
import VertexTestbed.Firmware.Cadence
import VertexTestbed.Manifest.Validate

/-!
# The timing a board runs at

A manifest gives the control period and the publish periods in seconds. `assignment_to_frames`
rounds both to milliseconds, and the start of a run on the board divides them: the publish period
becomes a number of control periods. What a board runs at is what the manifest says exactly if the
control period is a whole number of milliseconds and the publish period a multiple of it
(`timing_exact_iff`). The hub checks the second of its own `--publish-period`, the validator
neither.
-/

namespace VertexTestbed.Conformance

open Firmware Host Manifest

variable {K : Type} [Field K]

/-! ### The timing in use -/

/-- The period of `dynamics_timer` and of `network_timer`, in seconds. -/
def controlPeriod (s : RunLoops K) : K := (s.agent.params.dt : K) / 1000

/-- The time from one packet to the next: `publish_every` ticks of the network timer. -/
def publishInterval (s : RunLoops K) : K := (s.publishEvery : K) * controlPeriod s

variable [LinearOrder K] [IsStrictOrderedRing K] [FloorRing K]

omit [IsStrictOrderedRing K] in
/-- The start of a run sets `publish_every`, and leaves the period. -/
theorem startup_timing {s : RunLoops K} (h : s.network = .startup) (uptimeUs scanErr : ℤ) :
    controlPeriod (s.networkStep uptimeUs scanErr) = controlPeriod s ∧
      (s.networkStep uptimeUs scanErr).publishEvery =
        publishPeriod s.agent.params.dt s.agent.params.clock := by
  rw [RunLoops.networkStep, h]
  exact ⟨rfl, rfl⟩

/-! ### Rounding and division -/

/-- **The numbers of the board are those of the manifest exactly on the grid of both.** -/
theorem rounded_exact_iff {dt_s publish_period_s : K} (hdt : 0 < roundMs dt_s)
    (hclock : 0 < roundMs publish_period_s) (hfits : roundMs publish_period_s < 2 ^ 31) :
    (roundMs dt_s : K) / 1000 = dt_s ∧
        (publishPeriod (roundMs dt_s) (roundMs publish_period_s) : K) *
          ((roundMs dt_s : K) / 1000) = publish_period_s ↔
      OnGrid 1000 dt_s ∧ ∃ k : ℕ, 0 < k ∧ publish_period_s = k * dt_s := by
  constructor
  · rintro ⟨hperiod, hinterval⟩
    refine ⟨⟨roundMs dt_s, ?_⟩, publishPeriod (roundMs dt_s) (roundMs publish_period_s), ?_, ?_⟩
    · conv_lhs => rw [← hperiod]
      push_cast
      field_simp
    · rw [publishPeriod_eq hdt hclock hfits]
      exact lt_of_lt_of_le Nat.one_pos (le_max_left _ _)
    · rw [hperiod] at hinterval
      exact hinterval.symm
  · rintro ⟨hgrid, k, hk, hmultiple⟩
    have hperiod : (roundMs dt_s : K) / 1000 = dt_s := by
      rw [div_eq_mul_one_div]
      exact roundMs_div hgrid
    -- a multiple of whole milliseconds is a whole number of them
    have hgrid' : OnGrid 1000 publish_period_s := by
      obtain ⟨m, hm⟩ := hgrid
      exact ⟨k * m, by rw [hmultiple, mul_assoc, hm]; push_cast; rfl⟩
    have hclock_eq : roundMs publish_period_s = k * roundMs dt_s := by
      have hwhole : (roundMs publish_period_s : K) / 1000 = k * ((roundMs dt_s : K) / 1000) := by
        rw [div_eq_mul_one_div, roundMs_div hgrid', hperiod, hmultiple]
      field_simp at hwhole
      exact_mod_cast hwhole
    have hevery : publishPeriod (roundMs dt_s) (roundMs publish_period_s) = k := by
      rw [publishPeriod_eq hdt hclock hfits, hclock_eq, Int.mul_ediv_cancel _ hdt.ne',
        Int.toNat_natCast]
      exact max_eq_right hk
    rw [hperiod, hevery, hmultiple]
    exact ⟨rfl, rfl⟩

/-! ### From the manifest to the board -/

omit [IsStrictOrderedRing K] [FloorRing K] in
/-- The timing and the neighbours of an assignment are those of its manifest. -/
theorem assignment_timing {np : Numpy K} {manifest : ExperimentManifest K} {node : NodeSpec K}
    (hnode : node ∈ manifest.1.nodes) {run_index : ℤ} {a : Manifest.AgentAssignment K}
    (h : assignment_for np manifest node.1.id run_index = .ok a) :
    a.1.dt_s = manifest.1.controller.1.dt_s ∧ a.1.publish_period_s = node.1.publish_period_s ∧
      a.1.neighbors = node.1.neighbors := by
  simp only [assignment_for, find?_node hnode, except_bind_eq_ok] at h
  obtain ⟨params, hparams, seed, -, microgrid, -, h⟩ := h
  obtain rfl := Except.ok.inj h
  refine ⟨?_, rfl, rfl⟩
  show params.1.dt_s = _
  rw [controller_params_for, except_bind_eq_ok] at hparams
  obtain ⟨ics, -, hparams⟩ := hparams
  cases hm : manifest.1.controller.1.microgrid with
  | none =>
    simp only [hm] at hparams
    obtain rfl := Except.ok.inj hparams
    rfl
  | some m =>
    simp only [hm, except_bind_eq_ok] at hparams
    obtain ⟨blocks, -, hparams⟩ := hparams
    obtain rfl := Except.ok.inj hparams
    rfl

omit [IsStrictOrderedRing K] [FloorRing K] in
/-- The relay reads the timing and the neighbours as they are. -/
theorem relayView_timing {a : Manifest.AgentAssignment K} {v : Host.AgentAssignment K}
    (h : relayView a = .ok v) :
    v.dt_s = a.1.dt_s ∧ v.publish_period_s = a.1.publish_period_s ∧
      v.neighbors = a.1.neighbors := by
  rw [relayView, except_bind_eq_ok] at h
  obtain ⟨disturbance, -, h⟩ := h
  cases hm : a.1.microgrid with
  | nil =>
    simp only [hm] at h
    obtain rfl := Except.ok.inj h
    exact ⟨rfl, rfl, rfl⟩
  | cons e m =>
    simp only [hm, except_bind_eq_ok] at h
    obtain ⟨microgrid, -, h⟩ := h
    obtain rfl := Except.ok.inj h
    exact ⟨rfl, rfl, rfl⟩

omit [IsStrictOrderedRing K] in
/-- The timing of frames that the host builds. -/
theorem frames_timing {v : Host.AgentAssignment K} {trigger : Option Bool} {epoch_us : ℤ}
    {frames : List OutFrame} (h : assignmentToFrames v trigger epoch_us = .ok frames) :
    0 < roundMs v.dt_s ∧ 0 < roundMs v.publish_period_s ∧ roundMs v.publish_period_s < 2 ^ 31 := by
  obtain ⟨_, algorithm, _, _, _, -, halgorithm, -⟩ := assignmentToFrames_eq_ok h
  obtain ⟨hdt, hclock, hrow⟩ := encodeAlgorithm_eq_ok halgorithm
  have hsent : protoLdI32 algorithm 4 = (algorithmFields v).clock_ms :=
    protoLdI32_packed [] hrow 1 (by simp)
  exact ⟨hdt, hclock, hsent.symm.trans_lt (protoLdI32_lt algorithm 4)⟩

omit [LinearOrder K] [IsStrictOrderedRing K] [FloorRing K] in
/-- The view of a board shows its timing. -/
theorem view_timing (b : Board K) :
    b.view.agent.params.dt = b.agent.params.dt ∧
      b.view.agent.params.clock = b.agent.params.clock := by
  rw [Board.view]
  split_ifs
  · exact ⟨rfl, rfl⟩
  · exact ⟨rfl, rfl⟩

/-- A board takes the frames of a node with at most four neighbours, and with them its timing. -/
theorem applied_timing {v : Host.AgentAssignment K} {epoch_us : ℤ} {frames : List OutFrame}
    (h : assignmentToFrames v (some true) epoch_us = .ok frames)
    (hn : v.neighbors.length ≤ agentMaxNeighbors) {timed : List (OutFrame × ℤ)}
    (ht : timed.map Prod.fst = frames) (b : Board K) :
    ∃ b', applyFrames b timed = some b' ∧ b'.agent.params.dt = roundMs v.dt_s ∧
      b'.agent.params.clock = roundMs v.publish_period_s := by
  obtain ⟨b', hb, hview⟩ := applyFrames_view h hn ht b
  obtain ⟨hdt, hclock⟩ := view_timing b'
  rw [hview, sentBoard, triggeredBoard_params] at hdt hclock
  exact ⟨b', hb, hdt.symm, hclock.symm⟩

omit [IsStrictOrderedRing K] [FloorRing K] in
/-- A node on the board that the validator accepts has room for its neighbours. -/
theorem neighbors_of_ok {nx : Networkx} {manifest : ExperimentManifest K}
    {require_strong : Option Bool} (hok : (check nx manifest require_strong).ok = true)
    {node : NodeSpec K} (hnode : node ∈ manifest.1.nodes) (hble : node.1.type = .ble) :
    node.1.neighbors.length ≤ agentMaxNeighbors := by
  have herrors := (List.append_eq_nil_iff.1 (List.isEmpty_iff.1 hok)).2
  rw [graphErrors, List.flatten_eq_nil_iff] at herrors
  have hfull : overfull manifest = [] := by
    have hlast := herrors
      (findingIf (overfull manifest ≠ []) (.tooManyNeighbors (overfull manifest))) (by simp)
    simpa only [findingIf_eq_nil, not_not] using hlast
  rw [overfull, List.map_eq_nil_iff, List.filter_eq_nil_iff] at hfull
  have hroom := hfull node hnode
  rw [decide_eq_true_eq, not_and, not_lt] at hroom
  exact hroom hble

/-- **A board runs at the timing of an accepted manifest exactly if the control period is a whole
number of milliseconds and the publish period a multiple of it.** It takes the frames of its node,
and the run starts in `s`, some time later: whatever happened in between has left the timing. -/
theorem timing_exact_iff {nx : Networkx} {manifest : ExperimentManifest K}
    {require_strong : Option Bool} (hok : (check nx manifest require_strong).ok = true)
    {node : NodeSpec K} (hnode : node ∈ manifest.1.nodes) (hble : node.1.type = .ble)
    {np : Numpy K} {run_index epoch_us : ℤ} {frames : List OutFrame}
    (hf : nodeFrames np manifest node.1.id run_index (some true) epoch_us = .ok (.ok frames))
    {timed : List (OutFrame × ℤ)} (ht : timed.map Prod.fst = frames) (b : Board K) :
    ∃ b', applyFrames b timed = some b' ∧ ∀ s : RunLoops K,
      s.agent.params.dt = b'.agent.params.dt → s.agent.params.clock = b'.agent.params.clock →
      s.network = .startup → ∀ uptimeUs scanErr : ℤ,
        (controlPeriod (s.networkStep uptimeUs scanErr) = manifest.1.controller.1.dt_s ∧
            publishInterval (s.networkStep uptimeUs scanErr) = node.1.publish_period_s ↔
          OnGrid 1000 manifest.1.controller.1.dt_s ∧
            ∃ k : ℕ, 0 < k ∧ node.1.publish_period_s = k * manifest.1.controller.1.dt_s) := by
  rw [nodeFrames, except_bind_eq_ok] at hf
  obtain ⟨a, ha, hf⟩ := hf
  obtain ⟨v, hv, hf⟩ := except_bind_eq_ok.1 hf
  have hbuilt : assignmentToFrames v (some true) epoch_us = .ok frames := Except.ok.inj hf
  -- The two periods, from the manifest over the assignment and the frames to the board.
  obtain ⟨hassigned, hassigned', hneighbors⟩ := assignment_timing hnode ha
  obtain ⟨hview, hview', hneighbors'⟩ := relayView_timing hv
  have hn : v.neighbors.length ≤ agentMaxNeighbors := by
    rw [hneighbors', hneighbors]
    exact neighbors_of_ok hok hnode hble
  obtain ⟨b', hb, happlied, happlied'⟩ := applied_timing hbuilt hn ht b
  refine ⟨b', hb, fun s hdt hclock hstart uptimeUs scanErr ↦ ?_⟩
  obtain ⟨hperiod, hevery⟩ := startup_timing hstart uptimeUs scanErr
  obtain ⟨hpos, hpos', hfits⟩ := frames_timing hbuilt
  rw [hdt, happlied, hclock, happlied'] at hevery
  rw [publishInterval, hevery, hperiod, controlPeriod, hdt, happlied, ← hassigned, ← hassigned',
    ← hview, ← hview']
  exact rounded_exact_iff hpos hpos' hfits

/-! ### The pair -/

/-- A run about to start on a board. -/
def startOf (b : Board ℚ) : RunLoops ℚ :=
  { (RunLoops.init quietRadio).withAgent b.agent with network := .startup }

/-- The timing of the run that a freshly booted board starts when it is sent a node. -/
def startedTiming (manifest : ExperimentManifest ℚ) (node_id : ℤ) : Option (ℚ × ℚ) :=
  match nodeFrames pairNumpy manifest node_id 0 (some true) 0 with
  | .ok (.ok frames) =>
    (applyFrames (boardInit ℚ) (allAt 0 frames)).map fun b ↦
      (controlPeriod ((startOf b).networkStep 0 0), publishInterval ((startOf b).networkStep 0 0))
  | _ => none

theorem pair_frames :
    ∃ frames, nodeFrames pairNumpy (pair (0, 0)) 2 0 (some true) 0 = .ok (.ok frames) := by
  have hstarts : startedTiming (pair (0, 0)) 2 = some (1 / 40, 1 / 8) := by decide +kernel
  rw [startedTiming] at hstarts
  rcases h : nodeFrames pairNumpy (pair (0, 0)) 2 0 (some true) 0 with e | e | frames
  · rw [h] at hstarts
    cases hstarts
  · rw [h] at hstarts
    cases hstarts
  · exact ⟨frames, rfl⟩

/-- The pair publishes every fifth step. -/
theorem timing_exact_iff_pair :
    ∃ b' : Board ℚ,
      (controlPeriod ((startOf b').networkStep 0 0) = 1 / 40 ∧
          publishInterval ((startOf b').networkStep 0 0) = 1 / 8 ↔
        OnGrid 1000 (1 / 40 : ℚ) ∧ ∃ k : ℕ, 0 < k ∧ (1 / 8 : ℚ) = k * (1 / 40)) := by
  obtain ⟨frames, hf⟩ := pair_frames
  obtain ⟨b', -, htiming⟩ := timing_exact_iff
    (show (check bfs (pair (0, 0)) none).ok = true by decide +kernel)
    (show ⟨_, pairNode_valid.2⟩ ∈ (pair (0, 0)).1.nodes from
      List.mem_cons_of_mem _ List.mem_cons_self)
    rfl hf (map_fst_allAt 0 frames) (boardInit ℚ)
  exact ⟨b', htiming (startOf b') rfl rfl rfl 0 0⟩

/-- The controller of the pair at a step of 0.3 s. -/
def coarseController : ControllerFields ℚ := { pairController with dt_s := 3 / 10 }

theorem coarseController_valid : coarseController.Valid := by decide +kernel

/-- The nodes of the pair, which publish every second. -/
def coarseNode (id : ℤ) (ip : String) (type : AgentType) (other : ℤ) (i : ℕ) : NodeFields ℚ :=
  { pairNode id ip type other i with publish_period_s := 1 }

theorem coarseBridge_valid : (coarseNode 1 "10.6.5.5" .bridge 2 0).Valid := by decide +kernel

theorem coarseBoard_valid : (coarseNode 2 "10.6.5.2" .ble 1 1).Valid := by decide +kernel

/-- The pair on a coarse clock: a bridge, and a board. -/
def coarseFields : ManifestFields ℚ :=
  { pairFields (0, 0) with
    nodes := [⟨coarseNode 1 "10.6.5.5" .bridge 2 0, coarseBridge_valid⟩,
      ⟨coarseNode 2 "10.6.5.2" .ble 1 1, coarseBoard_valid⟩]
    controller := ⟨coarseController, coarseController_valid⟩ }

theorem coarseFields_valid : coarseFields.Valid := by decide +kernel

/-- The coarse pair, as a manifest. -/
def coarsePair : ExperimentManifest ℚ := ⟨coarseFields, coarseFields_valid⟩

/-- **The validator accepts a publish period of 1 s at a step of 0.3 s, and the board publishes
every 0.9 s.** -/
theorem coarsePair_early :
    (check bfs coarsePair none).ok = true ∧
      (by_id coarsePair 2).map (fun n ↦ (n.1.type, n.1.publish_period_s)) = some (.ble, 1) ∧
      startedTiming coarsePair 2 = some (3 / 10, 9 / 10) ∧
      startedTiming coarsePair 2 ≠ some (coarsePair.1.controller.1.dt_s, 1) := by
  refine ⟨by decide +kernel, by decide +kernel, by decide +kernel, by decide +kernel⟩

end VertexTestbed.Conformance
