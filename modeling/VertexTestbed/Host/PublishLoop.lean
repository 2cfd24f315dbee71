import VertexTestbed.Host.AgentService
import VertexTestbed.Host.Codec

/-!
# The loops of an agent, and what ends them

`_control_step`, `_publish_step` and the two loops that call them (`agent/agent.py`), with the
exception the packet's constructor raises. The transport's errors are caught behind the loops; the
constructor is called inside them. An agent publishes from its own loop or inside the control tick,
and the sample goes to the log behind the publication.

So a virtual state that does not fit the air format ends the loop that publishes, and inside the
tick it takes the sample with it: `loops_survive_iff`.
-/

namespace VertexTestbed.Host

open Runs

variable {K A C : Type} [Field K] [LinearOrder K] [FloorRing K]

/-- A controller class, with the virtual state it publishes: one coordinate or two. -/
structure PublishedKind (K A C : Type) extends ControllerKind A C where
  vstate : C → List K
  vstate_length : ∀ c, (vstate c).length = 1 ∨ (vstate c).length = 2

/-- What `on_sample` is handed: the time, the controller whose output it is, and what the neighbour
table had. -/
structure TickSample (K C : Type) where
  t_s : K
  controller : C
  vstates : List ℤ
  enabled : List Bool
  arrivals : List Bool

/-! ### The bodies of the loops -/

/-- `_publish_step`: the sequence number moves on, and the packet is built or its constructor
raises. -/
def publish_step (kind : PublishedKind K A C) (g : HostAgent ℕ K C) (tx_us : ℤ) :
    HostAgent ℕ K C × Except String AirPacket :=
  (g.publishStep,
    AirPacket.new g.config.node_id ((kind.vstate g.controller).map quantize) g.publishStep.seq
      (max 0 tx_us).toNat g.config.enabled false)

/-- The first half of `_control_step`: the law on a snapshot, unless the agent is disabled. -/
def HostAgent.lawStep (kind : ControllerKind A C) (g : HostAgent ℕ K C) (now_s : K) (now_us : ℤ) :
    HostAgent ℕ K C :=
  let snapshot := g.neighbors.table.snapshot now_us
  { g with
    last_tick_s := some now_s
    controller :=
      if g.config.enabled then kind.step g.controller snapshot.1 snapshot.2 else g.controller }

/-- Whether the control tick publishes. -/
def HostAgent.PublishDue (g : HostAgent ℕ K C) : Prop :=
  g.publish_in_tick = true ∧ ((g.ticks : ℤ) + 1) % g.publish_every = 0

instance (g : HostAgent ℕ K C) : Decidable g.PublishDue :=
  inferInstanceAs (Decidable (_ ∧ _))

/-- `_control_step`: the law, the publication where one is due, and the sample. What it raises is
raised by the publication, ahead of the tick count and the sample. -/
def control_step (kind : PublishedKind K A C) (g : HostAgent ℕ K C) (now_s : K)
    (now_us tx_us : ℤ) : HostAgent ℕ K C × Except String (List AirPacket × TickSample K C) :=
  let snapshot := g.neighbors.table.snapshot now_us
  let stepped := g.lawStep kind.toControllerKind now_s now_us
  let published : HostAgent ℕ K C × Except String (List AirPacket) :=
    if g.PublishDue then
      let r := publish_step kind stepped tx_us
      (r.1, r.2.map fun packet ↦ [packet])
    else (stepped, .ok [])
  match published.2 with
  | .error e => (published.1, .error e)
  | .ok packets =>
    ({ published.1 with
        ticks := if g.publish_in_tick then g.ticks + 1 else g.ticks
        neighbors := { published.1.neighbors with arrived := fun _ ↦ false } },
      .ok (packets,
        { t_s := now_s - g.t0_s.getD 0
          controller := stepped.controller
          vstates := snapshot.1
          enabled := snapshot.2
          arrivals := g.neighbors.neighbor_ids.map g.neighbors.arrived }))

/-! ### What raises -/

omit [Field K] [LinearOrder K] [FloorRing K] in
/-- The constructor of a packet returns when every field fits. -/
theorem AirPacket.new_isOk_iff {node_id : ℕ} {vstate : List ℤ} {seq tx_time_us : ℕ}
    {enabled disturbance_on : Bool} :
    (∃ p, AirPacket.new node_id vstate seq tx_time_us enabled disturbance_on = .ok p) ↔
      (1 ≤ node_id ∧ node_id ≤ 255) ∧ (vstate.length = 1 ∨ vstate.length = 2) ∧
        (∀ v ∈ vstate, FitsI32 v) ∧ seq ≤ 65535 ∧ tx_time_us < 2 ^ 48 := by
  constructor
  · rintro ⟨p, hp⟩
    rw [AirPacket.new] at hp
    split_ifs at hp with hnode hlen hfits hseq htime
    exact ⟨hnode, hlen, hfits, hseq, htime⟩
  · rintro ⟨hnode, hlen, hfits, hseq, htime⟩
    obtain ⟨p, hp, -⟩ :=
      AirPacket.new_of_fits hnode hlen hfits hseq htime enabled disturbance_on
    exact ⟨p, hp⟩

/-- **What a publication has to fit**: every coordinate of the virtual state an int32 of the wire,
the time since the epoch its 48 bits. -/
def FitsAir (kind : PublishedKind K A C) (g : HostAgent ℕ K C) (tx_us : ℤ) : Prop :=
  (∀ z ∈ kind.vstate g.controller, FitsI32 (quantize z)) ∧ tx_us < 2 ^ 48

instance (kind : PublishedKind K A C) (g : HostAgent ℕ K C) (tx_us : ℤ) :
    Decidable (FitsAir kind g tx_us) :=
  inferInstanceAs (Decidable (_ ∧ _))

/-- `_publish_step` returns exactly then. -/
theorem publish_step_isOk_iff {kind : PublishedKind K A C} {g : HostAgent ℕ K C}
    (hnode : 1 ≤ g.config.node_id ∧ g.config.node_id ≤ 255) {tx_us : ℤ} :
    (∃ p, (publish_step kind g tx_us).2 = .ok p) ↔ FitsAir kind g tx_us := by
  have hseq : g.publishStep.seq ≤ 65535 :=
    Nat.le_of_lt_succ (Nat.mod_lt _ (by decide))
  have hlength : ((kind.vstate g.controller).map quantize).length = 1 ∨
      ((kind.vstate g.controller).map quantize).length = 2 := by
    rw [List.length_map]
    exact kind.vstate_length g.controller
  have htime : (max 0 tx_us).toNat < 2 ^ 48 ↔ tx_us < 2 ^ 48 := by omega
  rw [publish_step, AirPacket.new_isOk_iff, FitsAir, htime, List.forall_mem_map]
  exact ⟨fun h ↦ ⟨h.2.2.1, h.2.2.2.2⟩, fun h ↦ ⟨hnode, hlength, h.1, hseq, h.2⟩⟩

/-- `_control_step` returns when the publication it makes, if it makes one, fits. -/
theorem control_step_isOk_iff {kind : PublishedKind K A C} {g : HostAgent ℕ K C}
    (hnode : 1 ≤ g.config.node_id ∧ g.config.node_id ≤ 255) {now_s : K} {now_us tx_us : ℤ} :
    (∃ r, (control_step kind g now_s now_us tx_us).2 = .ok r) ↔
      (g.PublishDue → FitsAir kind (g.lawStep kind.toControllerKind now_s now_us) tx_us) := by
  have hnode' : 1 ≤ (g.lawStep kind.toControllerKind now_s now_us).config.node_id ∧
      (g.lawStep kind.toControllerKind now_s now_us).config.node_id ≤ 255 := hnode
  have hpublish : (∃ p, (publish_step kind (g.lawStep kind.toControllerKind now_s now_us)
      tx_us).2 = .ok p) ↔ FitsAir kind (g.lawStep kind.toControllerKind now_s now_us) tx_us :=
    publish_step_isOk_iff hnode'
  rw [control_step]
  by_cases hdue : g.PublishDue
  · simp only [if_pos hdue]
    rw [← hpublish]
    cases hr : (publish_step kind (g.lawStep kind.toControllerKind now_s now_us) tx_us).2 with
    | error e =>
      simp only [Except.map]
      exact ⟨fun ⟨_, h⟩ ↦ (by cases h), fun h ↦ (by cases (h hdue).choose_spec)⟩
    | ok packet =>
      simp only [Except.map]
      exact ⟨fun _ _ ↦ ⟨packet, rfl⟩, fun _ ↦ ⟨_, rfl⟩⟩
  · simp only [if_neg hdue]
    exact ⟨fun _ h ↦ absurd h hdue, fun _ ↦ ⟨_, rfl⟩⟩

/-- A step that returns leaves the agent that the lifecycle says. -/
theorem control_step_agent {kind : PublishedKind K A C} {g : HostAgent ℕ K C} {now_s : K}
    {now_us tx_us : ℤ} {r : List AirPacket × TickSample K C}
    (h : (control_step kind g now_s now_us tx_us).2 = .ok r) :
    (control_step kind g now_s now_us tx_us).1 =
      g.controlStep kind.toControllerKind now_s now_us := by
  rw [control_step] at h ⊢
  rw [HostAgent.controlStep]
  by_cases htick : g.publish_in_tick = true
  · by_cases hevery : ((g.ticks : ℤ) + 1) % g.publish_every = 0
    · have hdue : g.PublishDue := ⟨htick, hevery⟩
      simp only [if_pos hdue] at h ⊢
      cases hr : (publish_step kind (g.lawStep kind.toControllerKind now_s now_us) tx_us).2 with
      | error e =>
        simp only [hr, Except.map] at h
        cases h
      | ok packet =>
        simp only [Except.map, if_pos hevery, if_pos htick]
        rfl
    · have hdue : ¬g.PublishDue := fun hdue ↦ hevery hdue.2
      simp only [if_neg hdue, if_neg hevery, if_pos htick]
      rfl
  · have hdue : ¬g.PublishDue := fun hdue ↦ htick hdue.1
    simp only [if_neg hdue, if_neg htick]
    rfl

/-! ### The loops -/

/-- A started agent: its two loops, the steps they have begun and the samples handed over. -/
structure AgentLoops (K C : Type) where
  agent : HostAgent ℕ K C
  controlAlive : Bool
  publishAlive : Bool
  begun : ℕ
  samples : List (TickSample K C)

/-- What happens next. An exception ends the loop it is raised in. -/
inductive LoopEvent (K : Type) where
  | control (now_s : K) (now_us tx_us : ℤ)
  | publish (tx_us : ℤ)
  | receive (r : Reception ℕ)

namespace AgentLoops

/-- Both loops have been started on an agent. -/
def start (g : HostAgent ℕ K C) : AgentLoops K C :=
  ⟨g, true, true, 0, []⟩

/-- The next event. The publish loop of an agent that publishes inside the tick has no body. -/
def step (kind : PublishedKind K A C) (s : AgentLoops K C) : LoopEvent K → AgentLoops K C
  | .control now_s now_us tx_us =>
    if s.controlAlive then
      let r := control_step kind s.agent now_s now_us tx_us
      match r.2 with
      | .ok (_, sample) =>
        { s with agent := r.1, begun := s.begun + 1, samples := s.samples ++ [sample] }
      | .error _ => { s with agent := r.1, begun := s.begun + 1, controlAlive := false }
    else s
  | .publish tx_us =>
    if s.publishAlive ∧ ¬s.agent.publish_in_tick then
      let r := publish_step kind s.agent tx_us
      match r.2 with
      | .ok _ => { s with agent := r.1 }
      | .error _ => { s with agent := r.1, publishAlive := false }
    else s
  | .receive r =>
    if s.agent.listening then
      { s with agent := { s.agent with neighbors := s.agent.neighbors.observe r } }
    else s

/-- **The loops survive**: both run, and every control step begun has handed its sample over. -/
structure Survives (s : AgentLoops K C) : Prop where
  control : s.controlAlive = true
  publish : s.publishAlive = true
  samples : s.samples.length = s.begun

/-- **The publication of an event fits**, where it makes one. -/
def Fits (kind : PublishedKind K A C) (s : AgentLoops K C) : LoopEvent K → Prop
  | .control now_s now_us tx_us =>
    s.agent.PublishDue → FitsAir kind (s.agent.lawStep kind.toControllerKind now_s now_us) tx_us
  | .publish tx_us => s.agent.publish_in_tick = false → FitsAir kind s.agent tx_us
  | .receive _ => True

instance (kind : PublishedKind K A C) (s : AgentLoops K C) :
    (ev : LoopEvent K) → Decidable (s.Fits kind ev)
  | .control _ _ _ => inferInstanceAs (Decidable (_ → _))
  | .publish _ => inferInstanceAs (Decidable (_ → _))
  | .receive _ => .isTrue trivial

section Step

variable {kind : PublishedKind K A C} {s : AgentLoops K C}

/-- No body renames the agent. -/
theorem control_step_config (kind : PublishedKind K A C) (g : HostAgent ℕ K C) (now_s : K)
    (now_us tx_us : ℤ) :
    (control_step kind g now_s now_us tx_us).1.config = g.config := by
  rw [control_step]
  by_cases hdue : g.PublishDue
  · simp only [if_pos hdue]
    split <;> rfl
  · simp only [if_neg hdue]
    rfl

theorem step_config (s : AgentLoops K C) (ev : LoopEvent K) :
    (s.step kind ev).agent.config = s.agent.config := by
  cases ev with
  | control now_s now_us tx_us =>
    rw [step]
    split_ifs
    · have hconfig := control_step_config kind s.agent now_s now_us tx_us
      dsimp only
      split
      · exact hconfig
      · exact hconfig
    · rfl
  | publish tx_us =>
    rw [step]
    split_ifs
    · dsimp only
      split
      · rfl
      · rfl
    · rfl
  | receive r =>
    rw [step]
    split_ifs
    · rfl
    · rfl

/-- One event: surviving loops survive it exactly when its publication fits. -/
theorem survives_step_iff (hnode : 1 ≤ s.agent.config.node_id ∧ s.agent.config.node_id ≤ 255)
    (hs : s.Survives) (ev : LoopEvent K) : s.Fits kind ev ↔ (s.step kind ev).Survives := by
  -- An exception ends its loop; a packet that cannot be built is the only one there is.
  cases ev with
  | control now_s now_us tx_us =>
    rw [Fits, ← control_step_isOk_iff hnode, step, if_pos hs.control]
    dsimp only
    cases hr : (control_step kind s.agent now_s now_us tx_us).2 with
    | error e => exact ⟨fun ⟨_, h⟩ ↦ (by cases h), fun h ↦ (by cases h.control)⟩
    | ok r =>
      refine ⟨fun _ ↦ ⟨hs.control, hs.publish, ?_⟩, fun _ ↦ ⟨r, rfl⟩⟩
      rw [List.length_append, hs.samples]
      rfl
  | publish tx_us =>
    rw [Fits, step]
    by_cases htick : s.agent.publish_in_tick = true
    · rw [if_neg fun h ↦ h.2 htick]
      exact ⟨fun _ ↦ hs, fun _ hfalse ↦ by cases htick.symm.trans hfalse⟩
    · rw [if_pos ⟨hs.publish, htick⟩, ← publish_step_isOk_iff hnode]
      dsimp only
      cases hr : (publish_step kind s.agent tx_us).2 with
      | error e =>
        exact ⟨fun h ↦ (by cases (h (Bool.eq_false_iff.2 htick)).choose_spec),
          fun h ↦ (by cases h.publish)⟩
      | ok packet =>
        exact ⟨fun _ ↦ ⟨hs.control, hs.publish, hs.samples⟩, fun _ _ ↦ ⟨packet, rfl⟩⟩
  | receive r =>
    rw [step]
    refine ⟨fun _ ↦ ?_, fun _ ↦ trivial⟩
    split_ifs
    · exact ⟨hs.control, hs.publish, hs.samples⟩
    · exact hs

end Step

end AgentLoops

/-- **The loops of an agent survive a run exactly when every publication fits the air format.** -/
theorem loops_survive_iff (kind : PublishedKind K A C) {g : HostAgent ℕ K C}
    (hnode : 1 ≤ g.config.node_id ∧ g.config.node_id ≤ 255) (events : List (LoopEvent K)) :
    (∀ n, (run (AgentLoops.step kind) (.start g) (events.take n)).Survives) ↔
      Guarded (AgentLoops.step kind) (AgentLoops.Fits kind) (.start g) events := by
  have hiff : Guarded (AgentLoops.step kind) (AgentLoops.Fits kind) (.start g) events ↔
      ∀ n, (run (AgentLoops.step kind) (.start g) (events.take n)).Survives :=
    guarded_iff_forall_take
      (J := fun _ (s : AgentLoops K C) ↦
        1 ≤ s.agent.config.node_id ∧ s.agent.config.node_id ≤ 255)
      (fun _ s ev hs ↦ by rw [AgentLoops.step_config]; exact hs)
      (fun _ s ev hs hsurvives ↦ AgentLoops.survives_step_iff hs hsurvives ev) hnode
      ⟨rfl, rfl, rfl⟩
  exact hiff.symm

/-! ### An agent that diverges -/

/-- The microgrid family publishes its two coordinates. -/
def microgridPublished (lib : Libm ℚ) :
    PublishedKind ℚ (ControllerParams ℚ) (MicrogridController ℚ) where
  toControllerKind := microgridKind lib
  vstate := fun c ↦ [c.virtual.zP, c.virtual.zQ]
  vstate_length := fun _ ↦ Or.inr rfl

/-- An agent that publishes every tick, from a given virtual state. -/
def agentAt (zP : ℚ) : HostAgent ℕ ℚ (MicrogridController ℚ) where
  config := { sampleHostAssignment.toAgentConfig with publish_period_s := 1 / 40 }
  controller := .init { sampleParams (.adaptive sampleAdaptive) with vstate0_P := zP }
  publish_in_tick := true
  publish_every := 1
  ticks := 0
  last_tick_s := none
  neighbors := .init [1] 75000 2 true 1024
  seq := 0
  t0_s := some 0
  listening := true

/-- Two ticks that publish 1, and the loops are alive. -/
theorem loops_survive_near_origin :
    (run (AgentLoops.step (microgridPublished .atZero)) (.start (agentAt 1))
      [.control 1 25000 25001, .control 2 50000 50001]).Survives :=
  (loops_survive_iff (microgridPublished .atZero) (g := agentAt 1) (by decide)
    [.control 1 25000 25001, .control 2 50000 50001]).2 (by decide +kernel) 2

/-- **A virtual state of 3000 ends the control loop**, and the step's sample is not handed over. -/
theorem loops_end_far_out :
    (run (AgentLoops.step (microgridPublished .atZero)) (.start (agentAt 3000))
        [.control 1 25000 25001]).controlAlive = false ∧
      (run (AgentLoops.step (microgridPublished .atZero)) (.start (agentAt 3000))
        [.control 1 25000 25001]).begun = 1 ∧
      (run (AgentLoops.step (microgridPublished .atZero)) (.start (agentAt 3000))
        [.control 1 25000 25001]).samples.length = 0 := by
  decide +kernel

end VertexTestbed.Host
