import VertexTestbed.Host.Fleet
import VertexTestbed.Host.SimulatedExperiment

/-!
# The simulated experiment is a fleet

`Host.Fleet` is the fleet of microgrid controllers at its most abstract: any packet that was ever
transmitted may come to any node at any time, or never. `Host.SimulatedExperiment` is what runs: the
agents with their loops, publication tasks and wire format, on the loopback bus and the virtual
clock.

The abstraction keeps of an agent its controller, its table and whether it takes part, and of the
medium what was emitted (`abstract`). Every step of the experiment is then some events of the
fleet: a control step is a tick, with a transmission where a packet was built; a step of the bus is
a reception for every copy that it hands over; and all else is nothing. So every run of the
experiment is a run of the fleet (`experiment_refines_fleet`), and what holds of fleets holds of it
(`experiment_convex`).
-/

namespace VertexTestbed.Host

open Runs LoopbackLoop

namespace SimulatedExperiment

/-! ### The abstraction -/

/-- An agent, as a node of the fleet. -/
def asNode (loops : AgentLoops ℚ (MicrogridController ℚ)) : FleetNode ℕ ℚ :=
  ⟨loops.agent.controller, loops.agent.neighbors.table, loops.agent.config.enabled⟩

/-- Agents and what they have emitted, as a fleet. -/
def asFleet (agents : ℕ → AgentLoops ℚ (MicrogridController ℚ))
    (emitted : List (Emission ℚ (MicrogridController ℚ))) : Fleet ℕ ℚ where
  node p := asNode (agents p)
  sent := emitted.map fun e ↦ e.packet.toStatePacket

/-- The experiment, as a fleet. -/
def abstract (s : SimulatedExperiment ℚ (MicrogridController ℚ)) : Fleet ℕ ℚ :=
  asFleet s.agents s.emitted

variable {lib : Libm ℚ} {τ : Type} [DecidableEq τ] {bus : LoopbackBus ℚ τ} {rng : ℕ → ℚ}
  {ids : ℕ → List ℕ}

/-! ### A reception -/

/-- A reception writes the table of its receiver. -/
theorem asNode_hearOne (agents : ℕ → AgentLoops ℚ (MicrogridController ℚ))
    (x : Copy ℚ × AirReception) (p : ℕ) :
    asNode (hearOne agents x p) =
      if p = x.1.receiver then
        { asNode (agents x.1.receiver) with
          table := (asNode (agents x.1.receiver)).table.observe x.2.packet.toStatePacket
            x.2.rx_time_us }
      else asNode (agents p) := by
  rw [hearOne]
  split_ifs with hp
  · rw [hp, Function.update_self, AgentLoops.hear, asNode, asNode, ReceiveTable.observe_table]
  · rw [Function.update_of_ne hp]

/-- A change of one agent that the fleet does not see. -/
theorem asFleet_of_node {agents : ℕ → AgentLoops ℚ (MicrogridController ℚ)} {p : ℕ}
    {loops : AgentLoops ℚ (MicrogridController ℚ)} (h : asNode loops = asNode (agents p))
    (emitted : List (Emission ℚ (MicrogridController ℚ))) :
    asFleet (Function.update agents p loops) emitted = asFleet agents emitted := by
  rw [asFleet, asFleet, Fleet.mk.injEq]
  refine ⟨funext fun q ↦ ?_, rfl⟩
  obtain rfl | hne := eq_or_ne q p
  · rw [Function.update_self, h]
  · rw [Function.update_of_ne hne]

theorem abstract_started (s : SimulatedExperiment ℚ (MicrogridController ℚ)) (p : ℕ) :
    abstract (s.started p) = abstract s := by
  rw [abstract, started]
  exact asFleet_of_node (by rfl) _

theorem abstract_stopped (s : SimulatedExperiment ℚ (MicrogridController ℚ)) (p : ℕ) :
    abstract (s.stopped p) = abstract s := by
  rw [abstract, stopped]
  exact asFleet_of_node (by rfl) _

variable (lib) in
/-- **A copy that is handed over** is a reception of the fleet. -/
theorem asFleet_hearOne (agents : ℕ → AgentLoops ℚ (MicrogridController ℚ))
    {emitted : List (Emission ℚ (MicrogridController ℚ))} {x : Copy ℚ × AirReception}
    (hx : ∃ e ∈ emitted, e.packet = x.2.packet) :
    ∃ ev, asFleet (hearOne agents x) emitted = (asFleet agents emitted).step lib ev := by
  obtain ⟨e, he, hpacket⟩ := hx
  have hsent : x.2.packet.toStatePacket ∈ (asFleet agents emitted).sent :=
    List.mem_map.2 ⟨e, he, by rw [hpacket]⟩
  obtain ⟨k, hk⟩ := List.mem_iff_getElem?.1 hsent
  refine ⟨.deliver x.1.receiver k x.2.rx_time_us, ?_⟩
  rw [Fleet.step, hk]
  dsimp only
  rw [asFleet, Fleet.setNode, asFleet, Fleet.mk.injEq]
  exact ⟨funext (asNode_hearOne agents x), rfl⟩

variable (lib) in
theorem asFleet_hearAll (agents : ℕ → AgentLoops ℚ (MicrogridController ℚ))
    {emitted : List (Emission ℚ (MicrogridController ℚ))} (new : List (Copy ℚ × AirReception))
    (hnew : ∀ x ∈ new, ∃ e ∈ emitted, e.packet = x.2.packet) :
    ∃ ys, asFleet (new.foldl hearOne agents) emitted =
      run (Fleet.step lib) (asFleet agents emitted) ys := by
  induction new generalizing agents with
  | nil => exact ⟨[], rfl⟩
  | cons x new ih =>
    obtain ⟨ev, hev⟩ := asFleet_hearOne lib agents (hnew x List.mem_cons_self)
    obtain ⟨ys, hys⟩ := ih (hearOne agents x) fun y hy ↦ hnew y (List.mem_cons_of_mem x hy)
    exact ⟨ev :: ys, by rw [List.foldl_cons, hys, hev, run_cons]⟩

/-- **A step of the bus** is a reception for every copy that it hands over. -/
theorem abstract_onBus {s : SimulatedExperiment ℚ (MicrogridController ℚ)} {ev : BusEvent ℚ ℕ}
    (hnext : Inv (microgridPublished lib) bus rng ids (s.onBus bus rng ev)) :
    ∃ ys, abstract (s.onBus bus rng ev) = run (Fleet.step lib) (abstract s) ys := by
  refine asFleet_hearAll lib s.agents _ fun x hx ↦ ?_
  have harrived : x ∈ (s.onBus bus rng ev).bus.arrived := List.mem_of_mem_drop hx
  obtain ⟨e, he, -, hpacket, -, -⟩ :=
    hnext.origin (hnext.bus.underWay.mem_offered_of_arrived harrived)
  refine ⟨e, he, ?_⟩
  rw [hnext.bus.underWay.arrivals x harrived, hpacket]

/-! ### The body of a loop -/

variable (lib) in
/-- A step of a loop is a tick or nothing. -/
theorem asNode_step (loops : AgentLoops ℚ (MicrogridController ℚ)) {ev : LoopEvent ℚ}
    (hev : ∀ r, ev ≠ .receive r) :
    asNode (loops.step (microgridPublished lib) ev) = asNode loops ∨
      ∃ now_us, asNode (loops.step (microgridPublished lib) ev) =
        (asNode loops).tick lib now_us := by
  obtain ⟨hconfig, htable, -⟩ := AgentLoops.step_frame (microgridPublished lib) loops hev
  cases ev with
  | control now_s now_us tx_us =>
    by_cases halive : loops.controlAlive = true
    · right
      refine ⟨now_us, ?_⟩
      obtain ⟨hcontroller, -⟩ :=
        control_step_frame (microgridPublished lib) loops.agent now_s now_us tx_us
      rw [asNode, hconfig, htable, AgentLoops.step_control halive, hcontroller, HostAgent.lawStep,
        FleetNode.tick]
      dsimp only
      rw [asNode]
      split_ifs
      · rfl
      · rfl
    · left
      rw [AgentLoops.step, if_neg halive]
  | publish tx_us =>
    left
    rw [AgentLoops.step]
    split_ifs
    · dsimp only
      split <;> rfl
    · rfl
  | receive r => exact absurd rfl (hev r)

variable (lib) in
/-- The body of a loop, as far as the agents go. -/
theorem asFleet_update (agents : ℕ → AgentLoops ℚ (MicrogridController ℚ))
    (emitted : List (Emission ℚ (MicrogridController ℚ))) (p : ℕ) {ev : LoopEvent ℚ}
    (hev : ∀ r, ev ≠ .receive r) :
    ∃ ys, asFleet (Function.update agents p ((agents p).step (microgridPublished lib) ev))
      emitted = run (Fleet.step lib) (asFleet agents emitted) ys := by
  have hnode {n : FleetNode ℕ ℚ}
      (hn : asNode ((agents p).step (microgridPublished lib) ev) = n) :
      asFleet (Function.update agents p ((agents p).step (microgridPublished lib) ev)) emitted =
        (asFleet agents emitted).setNode p n := by
    rw [Fleet.setNode, asFleet, asFleet, Fleet.mk.injEq]
    refine ⟨funext fun q ↦ ?_, rfl⟩
    split_ifs with hq
    · rw [hq, Function.update_self, hn]
    · rw [Function.update_of_ne hq]
  obtain hsame | ⟨now_us, htick⟩ := asNode_step lib (agents p) hev
  · refine ⟨[], ?_⟩
    rw [hnode hsame, run_nil, Fleet.setNode, asFleet, Fleet.mk.injEq]
    exact ⟨funext fun q ↦ ite_eq_right_iff.2 fun hq ↦ congrArg (fun q ↦ asNode (agents q)) hq.symm,
      rfl⟩
  · exact ⟨[.tick p now_us], hnode htick⟩

/-- A packet is what `from_state` makes of what it carries. -/
theorem fromState_eq {vs : List ℚ} {pkt : StatePacket ℕ} (h : pkt.vstate = vs.map quantize) :
    StatePacket.fromState pkt.node_id vs pkt.enabled = some pkt := by
  obtain ⟨node_id, vstate, enabled, coords, fits⟩ := pkt
  obtain rfl : vstate = vs.map quantize := h
  rw [StatePacket.fromState]
  dsimp only
  rw [dif_pos coords, dif_pos fits]

/-- **A packet that is built** is a transmission of the fleet. -/
theorem asFleet_emit (agents : ℕ → AgentLoops ℚ (MicrogridController ℚ))
    (emitted : List (Emission ℚ (MicrogridController ℚ)))
    {e : Emission ℚ (MicrogridController ℚ)} {p : ℕ} (hnode : e.packet.node_id = p)
    (hvstate : e.packet.vstate =
      ((microgridPublished lib).vstate (agents p).agent.controller).map quantize)
    (henabled : e.packet.enabled = (agents p).agent.config.enabled) :
    asFleet agents (emitted ++ [e]) = (asFleet agents emitted).step lib (.publish p) := by
  have hpacket : ((asFleet agents emitted).node p).packet p = some e.packet.toStatePacket := by
    have hbuilt : StatePacket.fromState e.packet.node_id _ e.packet.enabled =
        some e.packet.toStatePacket := fromState_eq hvstate
    rw [hnode, henabled] at hbuilt
    exact hbuilt
  rw [Fleet.step, hpacket]
  dsimp only
  rw [asFleet, List.map_append]
  rfl

/-- **The body of a loop** is a tick or nothing, and a transmission where a packet was built. -/
theorem abstract_act {s : SimulatedExperiment ℚ (MicrogridController ℚ)}
    (hnamed : ∀ p, (s.agents p).agent.config.node_id = p) (p : ℕ) {ev : LoopEvent ℚ}
    (hev : ∀ r, ev ≠ .receive r) :
    ∃ ys, abstract (s.act (microgridPublished lib) p ev) =
      run (Fleet.step lib) (abstract s) ys := by
  obtain ⟨ys, hys⟩ : ∃ ys, asFleet (Function.update s.agents p
      ((s.agents p).step (microgridPublished lib) ev)) s.emitted =
        run (Fleet.step lib) (abstract s) ys := asFleet_update lib s.agents s.emitted p hev
  obtain hnone | ⟨packet, hone, hnode, hvstate, henabled⟩ :=
    AgentLoops.packets_spec (microgridPublished lib) (s.agents p) ev
  · refine ⟨ys, ?_⟩
    rw [← hys, act, hnone]
    exact congrArg (asFleet _) (List.append_nil _)
  · refine ⟨ys ++ [.publish p], ?_⟩
    rw [run_append, ← hys, run_cons, run_nil, act, hone]
    obtain ⟨hconfig, -, -⟩ := AgentLoops.step_frame (microgridPublished lib) (s.agents p) hev
    refine asFleet_emit _ _ (hnode.trans (hnamed p)) ?_ ?_
    · dsimp only
      rw [Function.update_self]
      exact hvstate
    · dsimp only
      rw [Function.update_self, hconfig]
      exact henabled

/-! ### Runs -/

/-- **A step of the experiment** is some events of the fleet. -/
theorem abstract_step {s : SimulatedExperiment ℚ (MicrogridController ℚ)}
    (h : Inv (microgridPublished lib) bus rng ids s) (ev : ExperimentEvent ℚ) :
    ∃ ys, abstract (s.step (microgridPublished lib) bus rng ev) =
      run (Fleet.step lib) (abstract s) ys := by
  have hnext := h.step ev
  cases ev with
  | start p =>
    have hbus : Inv (microgridPublished lib) bus rng ids
        (s.onBus bus rng (.start p fun _ ↦ true)) := by
      refine h.onBus ?_ (.inr ?_)
      · rw [LoopbackLoop.step]
        split_ifs <;> rfl
      · rw [LoopbackLoop.step]
        split_ifs <;> rfl
    obtain ⟨ys, hys⟩ := abstract_onBus hbus
    exact ⟨ys, (abstract_started _ p).trans hys⟩
  | stop p =>
    have hbus : Inv (microgridPublished lib) bus rng ids (s.onBus bus rng (.stop p)) :=
      h.onBus rfl (.inr rfl)
    obtain ⟨ys, hys⟩ := abstract_onBus hbus
    exact ⟨ys, (abstract_stopped _ p).trans hys⟩
  | control p => exact abstract_act h.informed.named p (by rintro r ⟨⟩)
  | publish p => exact abstract_act h.informed.named p (by rintro r ⟨⟩)
  | task =>
    rw [SimulatedExperiment.step] at hnext ⊢
    split at hnext
    · exact ⟨[], rfl⟩
    · exact abstract_onBus hnext
  | turn => exact abstract_onBus hnext
  | advance t =>
    rw [SimulatedExperiment.step] at hnext ⊢
    split_ifs at hnext ⊢
    · exact abstract_onBus hnext
    · exact ⟨[], rfl⟩

/-- The fleet that assignments describe; the loader sets the degree. -/
def fleetOf (assignments : ℕ → HostAssignment ℕ ℚ (ControllerParams ℚ))
    (hdegree : ∀ p, (assignments p).controller.degree = (assignments p).neighbor_ids.length) :
    FleetConfig ℕ ℚ where
  params p := (assignments p).controller
  neighbors p := (assignments p).neighbor_ids
  enabled p := (assignments p).enabled
  max_age_us p := roundHalfEven ((assignments p).resolved_max_age_s * 1000000)
  degree_eq := hdegree

/-- An agent that was built is a node of the fleet before its first event. -/
theorem asNode_build {a : HostAssignment ℕ ℚ (ControllerParams ℚ)}
    {g : HostAgent ℕ ℚ (MicrogridController ℚ)} (h : build (microgridKind lib) a = some g) :
    asNode (.start g) = ⟨.init a.controller,
      ⟨a.neighbor_ids, roundHalfEven (a.resolved_max_age_s * 1000000), 2, true, fun _ ↦ none⟩,
      a.enabled⟩ := by
  rw [build] at h
  obtain ⟨c, hcreate, hmade⟩ := Option.bind_eq_some_iff.1 h
  obtain rfl := Option.some.inj hcreate
  dsimp only at hmade
  split_ifs at hmade
  · obtain rfl := Option.some.inj hmade
    rfl
  · obtain rfl := Option.some.inj hmade
    rfl

theorem abstract_init {assignments : ℕ → HostAssignment ℕ ℚ (ControllerParams ℚ)}
    {built : ℕ → HostAgent ℕ ℚ (MicrogridController ℚ)}
    (hbuilt : ∀ p, build (microgridKind lib) (assignments p) = some (built p))
    (hdegree : ∀ p, (assignments p).controller.degree = (assignments p).neighbor_ids.length)
    (t : ℚ) : abstract (init built t) = (fleetOf assignments hdegree).init := by
  rw [abstract, asFleet, FleetConfig.init, Fleet.mk.injEq]
  exact ⟨funext fun p ↦ asNode_build (hbuilt p), rfl⟩

variable (bus rng) in
/-- **The experiment refines the fleet.** Every run of the simulated experiment, whatever is lost or
delayed on the bus, is a run of the fleet over an adversarial radio: each event is some moves of the
fleet, and behind every first part of the events the controllers, the tables and the packets are
those of the fleet behind its moves for that part. -/
theorem experiment_refines_fleet {assignments : ℕ → HostAssignment ℕ ℚ (ControllerParams ℚ)}
    {built : ℕ → HostAgent ℕ ℚ (MicrogridController ℚ)}
    (hbuilt : ∀ p, build (microgridKind lib) (assignments p) = some (built p))
    (hids : ∀ p, (assignments p).node_id = p)
    (hdegree : ∀ p, (assignments p).controller.degree = (assignments p).neighbor_ids.length)
    (t : ℚ) (evs : List (ExperimentEvent ℚ)) :
    ∃ moves : List (List (FleetEvent ℕ)), moves.length = evs.length ∧
      ∀ k, abstract (run (step (microgridPublished lib) bus rng) (init built t) (evs.take k)) =
        run (Fleet.step lib) (fleetOf assignments hdegree).init (moves.take k).flatten := by
  rw [← abstract_init hbuilt hdegree t]
  exact exists_moves_of_steps (fun _ ev h ↦ h.step ev) (fun _ ev h ↦ abstract_step h ev)
    (inv_run (microgridPublished lib) bus rng hbuilt hids t []) evs

variable (bus rng) in
/-- **The experiment stays in the interval.** From assignments that the interval suits, in every run
of the simulated experiment: every virtual coordinate, every value that is published and every value
that an agent has of a neighbour lies in the interval. -/
theorem experiment_convex {assignments : ℕ → HostAssignment ℕ ℚ (ControllerParams ℚ)}
    {built : ℕ → HostAgent ℕ ℚ (MicrogridController ℚ)}
    (hbuilt : ∀ p, build (microgridKind lib) (assignments p) = some (built p))
    (hids : ∀ p, (assignments p).node_id = p)
    (hdegree : ∀ p, (assignments p).controller.degree = (assignments p).neighbor_ids.length)
    {lo hi : ℚ} (hsuits : (fleetOf assignments hdegree).Suits lo hi) (t : ℚ)
    (evs : List (ExperimentEvent ℚ)) :
    let s := run (step (microgridPublished lib) bus rng) (init built t) evs
    (∀ p, (s.agents p).agent.controller.virtual.zP ∈ Set.Icc lo hi ∧
      (s.agents p).agent.controller.virtual.zQ ∈ Set.Icc lo hi) ∧
    (∀ e ∈ s.emitted, ∀ v ∈ e.packet.vstate, InInterval lo hi v) ∧
    ∀ p nid rec, (s.agents p).agent.neighbors.records nid = some rec →
      ∀ v ∈ rec.vstate, InInterval lo hi v := by
  intro s
  obtain ⟨moves, -, hmoves⟩ := exists_moves_of_steps (fun _ ev h ↦ h.step ev)
    (fun _ ev h ↦ abstract_step h ev)
    (inv_run (microgridPublished lib) bus rng hbuilt hids t []) evs
  have hs := hmoves evs.length
  rw [List.take_length] at hs
  have hfleet : FleetInv lo hi (abstract s) := by
    rw [show abstract s = _ from hs]
    exact run_invariant _ (fun _ ev h ↦
      h.step hsuits.lo_onGrid hsuits.hi_onGrid hsuits.zero_mem lib ev)
      (abstract_init hbuilt hdegree t ▸ .init hsuits) _
  refine ⟨fun p ↦ ⟨(hfleet.node p).zP, (hfleet.node p).zQ⟩, fun e he ↦ ?_,
    fun p nid rec hrec ↦ ?_⟩
  · exact hfleet.sent _ (List.mem_map_of_mem he)
  · refine (hfleet.node p).holds nid rec.toNeighborRecord ?_
    show ((s.agents p).agent.neighbors.records nid).map HeardRecord.toNeighborRecord = _
    rw [hrec]
    rfl

theorem pairAssignment_degree (p : ℕ) :
    (pairAssignment p).controller.degree = (pairAssignment p).neighbor_ids.length := by
  rw [pairAssignment]
  dsimp only
  split_ifs <;> rfl

/-- The pair's run, as a run of the fleet. -/
theorem experiment_refines_fleet_pair :
    ∃ moves : List (List (FleetEvent ℕ)), moves.length = pairRun.length ∧
      ∀ k, abstract (run (step (microgridPublished .atZero) tenthLater fun _ ↦ 0)
          (init pairAgent 0) (pairRun.take k)) =
        run (Fleet.step .atZero) (fleetOf pairAssignment pairAssignment_degree).init
          (moves.take k).flatten :=
  experiment_refines_fleet tenthLater (fun _ ↦ 0) build_pair (fun _ ↦ rfl) pairAssignment_degree 0
    pairRun

theorem pair_suits : (fleetOf pairAssignment pairAssignment_degree).Suits 0 1 where
  lo_onGrid := onGrid_zero _
  hi_onGrid := ⟨1000000, by norm_num⟩
  zero_mem := by norm_num
  vstate0_P _ := samplePair_suits.vstate0_P true
  vstate0_Q _ := samplePair_suits.vstate0_Q true
  rP _ := samplePair_suits.rP true
  rQ _ := samplePair_suits.rQ true
  c_0 _ := samplePair_suits.c_0 true
  alpha_0 _ := samplePair_suits.alpha_0 true
  kappa_o _ := samplePair_suits.kappa_o true
  xi _ := samplePair_suits.xi true

/-- Both nodes of the pair stay between zero and one. -/
theorem experiment_convex_pair :
    let s := run (step (microgridPublished .atZero) tenthLater fun _ ↦ 0) (init pairAgent 0) pairRun
    ∀ p, (s.agents p).agent.controller.virtual.zP ∈ Set.Icc 0 1 ∧
      (s.agents p).agent.controller.virtual.zQ ∈ Set.Icc 0 1 :=
  (experiment_convex tenthLater (fun _ ↦ 0) build_pair (fun _ ↦ rfl) pairAssignment_degree
    pair_suits 0 pairRun).1

end SimulatedExperiment

end VertexTestbed.Host
