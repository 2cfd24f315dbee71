import VertexTestbed.Host.HeldValues
import VertexTestbed.Host.LoopbackBus
import VertexTestbed.Host.PublishLoop

/-!
# The simulated experiment

`SimulatedExperiment` (`sim/experiment.py`): the agents of `agent/agent.py`, with any controller
class, on the loopback bus and a virtual clock. A control step reads the agent's neighbour table; a
publication is built where it is due and given to a task (`_publish`), which hands it to the bus;
and the bus hands its copies to `_on_receive`, which writes the table of the receiver.

A run is any order of starts, stops, control steps, publish steps, turns of the publication tasks,
turns of the deliveries and steps of the clock, which moves when no publication is left to be handed
to the bus and no delivery can run. The periods of the loops only say when the steps are due, and
are left out; the driver is `Host.VirtualClock`.

`reads_committed`: what an agent has of a neighbour is a virtual state that this neighbour had when
it published, as old as the link is long, and the newest that has come through.
-/

namespace VertexTestbed.Host

open Runs LoopbackLoop

variable {K A C τ : Type} [Field K] [LinearOrder K] [IsStrictOrderedRing K] [FloorRing K]
  [DecidableEq τ]

/-! ### The table and its last packets -/

/-- The record says what the reception did. -/
structure HeardRecord.Agrees (rec : HeardRecord) (r : Reception ℕ) : Prop where
  vstate : rec.vstate = r.packet.vstate
  seq : rec.seq = r.packet.seq
  tx_time_us : rec.tx_time_us = r.packet.tx_time_us
  rx_time_us : rec.rx_time_us = r.rx_time_us
  sender_enabled : rec.sender_enabled = r.packet.enabled
  rssi : rec.rssi = r.rssi

/-- The table knows the last packet of every declared neighbour, and nothing else of it. -/
def ReceiveTable.Knows (t : ReceiveTable ℕ) (rs : List (Reception ℕ)) : Prop :=
  ∀ nid ∈ t.neighbor_ids, Option.Rel HeardRecord.Agrees (t.records nid) (lastFrom rs nid)

theorem ReceiveTable.Knows.observe {t : ReceiveTable ℕ} {rs : List (Reception ℕ)} (h : t.Knows rs)
    (r : Reception ℕ) : (t.observe r).Knows (rs ++ [r]) := by
  rw [ReceiveTable.observe]
  dsimp only
  split_ifs with hdeclared
  · intro nid hnid
    rw [lastFrom_concat]
    by_cases hsender : r.packet.node_id = nid
    · subst hsender
      dsimp only
      rw [if_pos rfl, Function.update_self]
      exact .some ⟨rfl, rfl, rfl, rfl, rfl, rfl⟩
    · dsimp only
      rw [if_neg hsender, Function.update_of_ne (Ne.symm hsender)]
      exact h nid hnid
  · intro nid hnid
    have hother : r.packet.node_id ≠ nid := fun heq ↦ hdeclared (heq ▸ hnid)
    rw [lastFrom_concat, if_neg hother]
    exact h nid hnid

/-! ### What an agent publishes -/

/-- The packets that an event builds, each with the controller whose virtual state it carries. -/
def AgentLoops.packets (kind : PublishedKind K A C) (s : AgentLoops K C) :
    LoopEvent K → List (C × AirPacket)
  | .control now_s now_us tx_us =>
    if s.controlAlive then
      match (control_step kind s.agent now_s now_us tx_us).2 with
      | .ok (packets, sample) => packets.map fun packet ↦ (sample.controller, packet)
      | .error _ => []
    else []
  | .publish tx_us =>
    if s.publishAlive ∧ ¬s.agent.publish_in_tick then
      match (publish_step kind s.agent tx_us).2 with
      | .ok packet => [(s.agent.controller, packet)]
      | .error _ => []
    else []
  | .receive _ => []

/-- What was asked for is what was built. -/
theorem AirPacket.fields_of_new {node_id : ℕ} {vstate : List ℤ} {seq tx_time_us : ℕ}
    {enabled disturbance_on : Bool} {p : AirPacket}
    (h : AirPacket.new node_id vstate seq tx_time_us enabled disturbance_on = .ok p) :
    p.fields = (node_id, vstate, seq, tx_time_us, enabled, disturbance_on) := by
  rw [AirPacket.new] at h
  split_ifs at h
  cases h
  rfl

section Bodies

omit [IsStrictOrderedRing K]

/-- What `_publish_step` builds. -/
theorem publish_step_ok {kind : PublishedKind K A C} {g : HostAgent ℕ K C} {tx_us : ℤ}
    {packet : AirPacket} (h : (publish_step kind g tx_us).2 = .ok packet) :
    packet.node_id = g.config.node_id ∧ packet.vstate = (kind.vstate g.controller).map quantize ∧
      packet.enabled = g.config.enabled := by
  have hfields := AirPacket.fields_of_new h
  rw [AirPacket.fields, Prod.mk.injEq, Prod.mk.injEq, Prod.mk.injEq, Prod.mk.injEq,
    Prod.mk.injEq] at hfields
  exact ⟨hfields.1, hfields.2.1, hfields.2.2.2.2.1⟩

/-- **What a control step does to its agent**, also if it raises: the law has been applied, and of
the table at most the arrivals are read. -/
theorem control_step_frame (kind : PublishedKind K A C) (g : HostAgent ℕ K C) (now_s : K)
    (now_us tx_us : ℤ) :
    let g' := (control_step kind g now_s now_us tx_us).1
    g'.controller = (g.lawStep kind.toControllerKind now_s now_us).controller ∧
      g'.config = g.config ∧ g'.publish_in_tick = g.publish_in_tick ∧
      g'.neighbors.table = g.neighbors.table ∧ g'.neighbors.records = g.neighbors.records := by
  rw [control_step]
  dsimp only
  by_cases hdue : g.PublishDue
  · rw [if_pos hdue]
    split
    · exact ⟨rfl, rfl, rfl, rfl, rfl⟩
    · exact ⟨rfl, rfl, rfl, rfl, rfl⟩
  · rw [if_neg hdue]
    exact ⟨rfl, rfl, rfl, rfl, rfl⟩

/-- What a control step that returns has published. -/
theorem control_step_ok {kind : PublishedKind K A C} {g : HostAgent ℕ K C} {now_s : K}
    {now_us tx_us : ℤ} {r : List AirPacket × TickSample K C}
    (h : (control_step kind g now_s now_us tx_us).2 = .ok r) :
    let stepped := g.lawStep kind.toControllerKind now_s now_us
    r.2.controller = stepped.controller ∧
      (r.1 = [] ∨ ∃ packet, r.1 = [packet] ∧ (publish_step kind stepped tx_us).2 = .ok packet) := by
  rw [control_step] at h
  by_cases hdue : g.PublishDue
  · simp only [if_pos hdue] at h
    cases hr : (publish_step kind (g.lawStep kind.toControllerKind now_s now_us) tx_us).2 with
    | error e =>
      simp only [hr, Except.map] at h
      cases h
    | ok packet =>
      simp only [hr, Except.map] at h
      cases h
      exact ⟨rfl, .inr ⟨packet, rfl, hr⟩⟩
  · simp only [if_neg hdue] at h
    cases h
    exact ⟨rfl, .inl rfl⟩

end Bodies

namespace AgentLoops

omit [IsStrictOrderedRing K]

/-- A control step leaves the agent that the body leaves, whether it raises or not. -/
theorem step_control {kind : PublishedKind K A C} {s : AgentLoops K C} (h : s.controlAlive = true)
    (now_s : K) (now_us tx_us : ℤ) :
    (s.step kind (.control now_s now_us tx_us)).agent =
      (control_step kind s.agent now_s now_us tx_us).1 := by
  rw [step, if_pos h]
  dsimp only
  split <;> rfl

/-- **A publication** is under the agent's id and carries the virtual state that the agent has when
it is built; an event builds one at most. -/
theorem packets_spec (kind : PublishedKind K A C) (s : AgentLoops K C) (ev : LoopEvent K) :
    s.packets kind ev = [] ∨ ∃ packet : AirPacket,
      s.packets kind ev = [((s.step kind ev).agent.controller, packet)] ∧
        packet.node_id = s.agent.config.node_id ∧
        packet.vstate = (kind.vstate (s.step kind ev).agent.controller).map quantize ∧
        packet.enabled = s.agent.config.enabled := by
  cases ev with
  | control now_s now_us tx_us =>
    rw [packets]
    split_ifs with halive
    · obtain ⟨hcontroller, -⟩ := control_step_frame kind s.agent now_s now_us tx_us
      rw [step_control halive, hcontroller]
      cases hr : (control_step kind s.agent now_s now_us tx_us).2 with
      | error e => exact Or.inl rfl
      | ok r =>
        -- The packet of a publication triggered by the tick carries what the tick has just sampled.
        obtain ⟨hsample, hbuilt⟩ := control_step_ok hr
        obtain ⟨sent, sample⟩ := r
        obtain hnone | ⟨packet, hone, hbuilt⟩ := hbuilt
        · exact Or.inl (congrArg (List.map _) hnone)
        · obtain ⟨hnode, hvstate, henabled⟩ := publish_step_ok hbuilt
          refine Or.inr ⟨packet, ?_, hnode, hvstate, henabled⟩
          exact (congrArg (List.map _) hone).trans (congrArg (fun c ↦ [(c, packet)]) hsample)
    · exact Or.inl rfl
  | publish tx_us =>
    have hsame : (s.step kind (.publish tx_us)).agent.controller = s.agent.controller := by
      rw [step]
      split_ifs
      · dsimp only
        split <;> rfl
      · rfl
    rw [packets, hsame]
    split_ifs with halive
    · cases hr : (publish_step kind s.agent tx_us).2 with
      | error e => exact Or.inl rfl
      | ok packet =>
        obtain ⟨hnode, hvstate, henabled⟩ := publish_step_ok hr
        exact Or.inr ⟨packet, rfl, hnode, hvstate, henabled⟩
    · exact Or.inl rfl
  | receive r => exact Or.inl rfl

/-- A step of a loop leaves what the table has heard as it is. -/
theorem step_frame (kind : PublishedKind K A C) (s : AgentLoops K C) {ev : LoopEvent K}
    (hev : ∀ r, ev ≠ .receive r) :
    let s' := s.step kind ev
    s'.agent.config = s.agent.config ∧ s'.agent.neighbors.table = s.agent.neighbors.table ∧
      s'.agent.neighbors.records = s.agent.neighbors.records := by
  cases ev with
  | control now_s now_us tx_us =>
    obtain ⟨-, hconfig, -, htable, hrecords⟩ := control_step_frame kind s.agent now_s now_us tx_us
    by_cases halive : s.controlAlive = true
    · dsimp only
      rw [step_control halive]
      exact ⟨hconfig, htable, hrecords⟩
    · rw [step, if_neg halive]
      exact ⟨rfl, rfl, rfl⟩
  | publish tx_us =>
    rw [step]
    split_ifs
    · dsimp only
      split
      · exact ⟨rfl, rfl, rfl⟩
      · exact ⟨rfl, rfl, rfl⟩
    · exact ⟨rfl, rfl, rfl⟩
  | receive r => exact absurd rfl (hev r)

end AgentLoops

/-! ### The experiment -/

/-- A packet in a `_publish` task, with the agent that built it, when, and the controller whose
virtual state it carries. -/
structure Emission (K C : Type) where
  sender : ℕ
  at_s : K
  controller : C
  packet : AirPacket

/-- `SimulatedExperiment`, its agents by their ids. `tasks` are the `_publish` tasks that have not
run, and `emitted` is the record of those that were created. -/
structure SimulatedExperiment (K C : Type) where
  bus : LoopbackLoop K ℕ
  agents : ℕ → AgentLoops K C
  tasks : List (Emission K C)
  emitted : List (Emission K C)

/-- What happens next. -/
inductive ExperimentEvent (K : Type) where
  | start (p : ℕ)
  | stop (p : ℕ)
  /-- The control loop of an agent runs its body. -/
  | control (p : ℕ)
  /-- The publish loop of an agent runs its body. -/
  | publish (p : ℕ)
  /-- The first `_publish` task runs. -/
  | task
  /-- The first delivery that can run takes its turn. -/
  | turn
  | advance (t : K)

/-- `_on_receive`. -/
def AgentLoops.hear (s : AgentLoops K C) (reception : AirReception) : AgentLoops K C :=
  { s with
    agent :=
      { s.agent with
        neighbors := s.agent.neighbors.observe
          ⟨reception.packet.toWirePacket, reception.rx_time_us, reception.rssi⟩ } }

namespace SimulatedExperiment

omit [IsStrictOrderedRing K] [DecidableEq τ] [Field K] [LinearOrder K] [FloorRing K] in
/-- A delivery reaches the agent that it is for. -/
def hearOne (agents : ℕ → AgentLoops K C) (x : Copy K × AirReception) : ℕ → AgentLoops K C :=
  Function.update agents x.1.receiver ((agents x.1.receiver).hear x.2)

/-- Before anything is started. The agents are built. -/
def init (built : ℕ → HostAgent ℕ K C) (t : K) : SimulatedExperiment K C :=
  ⟨.init t, fun p ↦ .start (built p), [], []⟩

variable (kind : PublishedKind K A C) (bus : LoopbackBus K τ) (rng : ℕ → K)

/-- The bus takes a step, and the agents hear what it hands over. -/
def onBus (s : SimulatedExperiment K C) (ev : BusEvent K ℕ) : SimulatedExperiment K C :=
  let next := s.bus.step bus rng id ev
  { s with
    bus := next
    agents := (next.arrived.drop s.bus.arrived.length).foldl hearOne s.agents }

/-- An agent runs the body of a loop. -/
def act (s : SimulatedExperiment K C) (p : ℕ) (ev : LoopEvent K) : SimulatedExperiment K C :=
  let new := ((s.agents p).packets kind ev).map fun x ↦ ⟨p, s.bus.t, x.1, x.2⟩
  { s with
    agents := Function.update s.agents p ((s.agents p).step kind ev)
    tasks := s.tasks ++ new
    emitted := s.emitted ++ new }

/-- `Agent.start`, behind the start of its transport. -/
def started (s : SimulatedExperiment K C) (p : ℕ) : SimulatedExperiment K C :=
  let loops := s.agents p
  { s with
    agents := Function.update s.agents p
      { loops with agent := { loops.agent with t0_s := some s.bus.t, listening := true } } }

/-- `Agent.stop`, behind the stop of its transport. -/
def stopped (s : SimulatedExperiment K C) (p : ℕ) : SimulatedExperiment K C :=
  let loops := s.agents p
  { s with
    agents := Function.update s.agents p
      { loops with agent := { loops.agent with listening := false } } }

/-- The next step. A callback returns whatever becomes of the packet. -/
def step (s : SimulatedExperiment K C) : ExperimentEvent K → SimulatedExperiment K C
  | .start p => (s.onBus bus rng (.start p fun _ ↦ true)).started p
  | .stop p => (s.onBus bus rng (.stop p)).stopped p
  | .control p => s.act kind p (.control s.bus.t (now_us s.bus.t) (now_us s.bus.t))
  | .publish p => s.act kind p (.publish (now_us s.bus.t))
  | .task =>
    match s.tasks with
    | [] => s
    | e :: rest => { s with tasks := rest }.onBus bus rng (.publish e.sender e.packet)
  | .turn => s.onBus bus rng .turn
  | .advance t => if s.tasks = [] then s.onBus bus rng (.advance t) else s

/-! ### What the agents have heard -/

omit [Field K] [LinearOrder K] [IsStrictOrderedRing K] [FloorRing K] in
/-- What an agent was handed. -/
def receptionsOf (arrived : List (Copy K × AirReception)) (p : ℕ) : List (Reception ℕ) :=
  (arrived.filter fun x ↦ x.1.receiver = p).map fun x ↦
    ⟨x.2.packet.toWirePacket, x.2.rx_time_us, x.2.rssi⟩

/-- Every agent has its id and its neighbours, and its table knows what the agent was handed. -/
structure Informed (ids : ℕ → List ℕ) (agents : ℕ → AgentLoops K C)
    (arrived : List (Copy K × AirReception)) :
    Prop where
  named : ∀ p, (agents p).agent.config.node_id = p
  ids : ∀ p, (agents p).agent.neighbors.neighbor_ids = ids p
  knows : ∀ p, (agents p).agent.neighbors.Knows (receptionsOf arrived p)

section Informed

omit [Field K] [LinearOrder K] [IsStrictOrderedRing K] [FloorRing K]

variable {ids : ℕ → List ℕ}

theorem observe_ids (t : ReceiveTable ℕ) (r : Reception ℕ) :
    (t.observe r).neighbor_ids = t.neighbor_ids := by
  rw [ReceiveTable.observe]
  dsimp only
  split_ifs <;> rfl

theorem Informed.hearOne {agents : ℕ → AgentLoops K C} {arrived : List (Copy K × AirReception)}
    (h : Informed ids agents arrived) (x : Copy K × AirReception) :
    Informed ids (hearOne agents x) (arrived ++ [x]) := by
  refine ⟨fun p ↦ ?_, fun p ↦ ?_, fun p ↦ ?_⟩
  · rw [SimulatedExperiment.hearOne]
    obtain rfl | hne := eq_or_ne p x.1.receiver
    · rw [Function.update_self]
      exact h.named _
    · rw [Function.update_of_ne hne]
      exact h.named p
  · rw [SimulatedExperiment.hearOne]
    obtain rfl | hne := eq_or_ne p x.1.receiver
    · rw [Function.update_self]
      exact (observe_ids _ _).trans (h.ids _)
    · rw [Function.update_of_ne hne]
      exact h.ids p
  · rw [SimulatedExperiment.hearOne, receptionsOf, List.filter_append, List.map_append]
    obtain rfl | hne := eq_or_ne p x.1.receiver
    · rw [Function.update_self, List.filter_cons_of_pos (by simp)]
      exact (h.knows _).observe _
    · rw [Function.update_of_ne hne, List.filter_cons_of_neg (by simpa using hne.symm),
        List.filter_nil, List.map_nil, List.append_nil]
      exact h.knows p

theorem Informed.hearAll {agents : ℕ → AgentLoops K C} {arrived : List (Copy K × AirReception)}
    (h : Informed ids agents arrived) (new : List (Copy K × AirReception)) :
    Informed ids (new.foldl SimulatedExperiment.hearOne agents) (arrived ++ new) := by
  induction new generalizing agents arrived with
  | nil => exact (List.append_nil arrived).symm ▸ h
  | cons x new ih =>
    rw [List.foldl_cons, List.append_cons]
    exact ih (h.hearOne x)

/-- A change of one agent that leaves its id and what its table has heard. -/
theorem Informed.update {agents : ℕ → AgentLoops K C} {arrived : List (Copy K × AirReception)}
    (h : Informed ids agents arrived) {p : ℕ} {loops : AgentLoops K C}
    (hconfig : loops.agent.config = (agents p).agent.config)
    (hids : loops.agent.neighbors.neighbor_ids = (agents p).agent.neighbors.neighbor_ids)
    (hrecords : loops.agent.neighbors.records = (agents p).agent.neighbors.records) :
    Informed ids (Function.update agents p loops) arrived := by
  refine ⟨fun q ↦ ?_, fun q ↦ ?_, fun q ↦ ?_⟩
  · obtain rfl | hne := eq_or_ne q p
    · rw [Function.update_self, hconfig]
      exact h.named q
    · rw [Function.update_of_ne hne]
      exact h.named q
  · obtain rfl | hne := eq_or_ne q p
    · rw [Function.update_self, hids]
      exact h.ids q
    · rw [Function.update_of_ne hne]
      exact h.ids q
  · obtain rfl | hne := eq_or_ne q p
    · rw [Function.update_self, ReceiveTable.Knows, hids, hrecords]
      exact h.knows q
    · rw [Function.update_of_ne hne]
      exact h.knows q

end Informed

/-! ### What is published -/

omit [Field K] [LinearOrder K] [IsStrictOrderedRing K] [FloorRing K] in
/-- An emission as the bus sees it. -/
def Emission.onAir (e : Emission K C) : ℕ × AirPacket × K := (e.sender, e.packet, e.at_s)

/-- Every emission is of an agent's virtual state, under its id; those whose tasks have run were
broadcast at once and in order, or their transport was down. -/
structure Carried (s : SimulatedExperiment K C) : Prop where
  built : ∀ e ∈ s.emitted, e.packet.node_id = e.sender ∧
    e.packet.vstate = (kind.vstate e.controller).map quantize
  fresh : ∀ e ∈ s.tasks, e.at_s = s.bus.t
  carried : (s.bus.published.map (fun pub ↦ (pub.sender, pub.packet, pub.at_s)) ++
    s.tasks.map Emission.onAir).Sublist (s.emitted.map Emission.onAir)

/-- **The experiment at any time.** -/
structure Inv (ids : ℕ → List ℕ) (s : SimulatedExperiment K C) : Prop where
  bus : s.bus.Inv bus rng
  informed : Informed ids s.agents s.bus.arrived
  carried : Carried kind s

variable {kind bus rng} {ids : ℕ → List ℕ}

theorem informed_onBus {s : SimulatedExperiment K C} (hbus : s.bus.Inv bus rng)
    (h : Informed ids s.agents s.bus.arrived) (ev : BusEvent K ℕ) :
    Informed ids (s.onBus bus rng ev).agents (s.onBus bus rng ev).bus.arrived := by
  obtain ⟨new, hnew⟩ : s.bus.arrived <+: (s.bus.step bus rng id ev).arrived := hbus.arrived_step ev
  have hall := h.hearAll ((s.bus.step bus rng id ev).arrived.drop s.bus.arrived.length)
  rw [← hnew, List.drop_left] at hall
  rw [onBus, ← hnew, List.drop_left]
  exact hall

/-- An event of the bus that broadcasts nothing. -/
theorem Carried.onBus {s : SimulatedExperiment K C} (h : Carried kind s) {ev : BusEvent K ℕ}
    (hpublished : (s.bus.step bus rng id ev).published = s.bus.published)
    (htime : s.tasks = [] ∨ (s.bus.step bus rng id ev).t = s.bus.t) :
    Carried kind (s.onBus bus rng ev) := by
  refine ⟨h.built, fun e he ↦ ?_, ?_⟩
  · obtain hnone | htime := htime
    · rw [SimulatedExperiment.onBus] at he
      exact absurd (hnone ▸ he) List.not_mem_nil
    · exact (h.fresh e he).trans htime.symm
  · have hcarried := h.carried
    rw [← hpublished] at hcarried
    exact hcarried

/-- **A publication's task runs**: the packet is broadcast, or its transport is down. -/
theorem Carried.task {s : SimulatedExperiment K C} (h : Carried kind s) (hbus : s.bus.Inv bus rng)
    {e : Emission K C} {rest : List (Emission K C)} (htasks : s.tasks = e :: rest) :
    Carried kind (SimulatedExperiment.onBus bus rng { s with tasks := rest }
      (.publish e.sender e.packet)) := by
  have hrest : ∀ x ∈ rest, x ∈ s.tasks := fun x hx ↦ htasks ▸ List.mem_cons_of_mem _ hx
  have hcarried := h.carried
  have hat : e.at_s = s.bus.t := h.fresh e (htasks ▸ List.mem_cons_self)
  rw [htasks, List.map_cons, List.append_cons] at hcarried
  obtain ⟨hpublished, -, htime⟩ := hbus.broadcast_record e.sender e.packet
  cases hup : s.bus.started e.sender with
  | true =>
    have hstep : s.bus.step bus rng id (.publish e.sender e.packet) =
        s.bus.broadcast bus rng e.sender e.packet := if_pos hup
    refine ⟨h.built, fun x hx ↦ ?_, ?_⟩
    · exact (h.fresh x (hrest x hx)).trans (by rw [SimulatedExperiment.onBus, hstep, htime])
    · show ((s.bus.step bus rng id (.publish e.sender e.packet)).published.map _ ++ _).Sublist _
      rw [hstep, hpublished, List.map_append]
      rw [Emission.onAir, hat] at hcarried
      exact hcarried
  | false =>
    have hstep : s.bus.step bus rng id (.publish e.sender e.packet) = s.bus :=
      if_neg (Bool.eq_false_iff.1 hup)
    refine ⟨h.built, fun x hx ↦ ?_, ?_⟩
    · exact (h.fresh x (hrest x hx)).trans (by rw [SimulatedExperiment.onBus, hstep])
    · refine List.Sublist.trans ?_ hcarried
      show ((s.bus.step bus rng id (.publish e.sender e.packet)).published.map _ ++ _).Sublist _
      rw [hstep]
      exact (List.sublist_append_left _ _).append_right _

omit [IsStrictOrderedRing K] in
/-- **An agent runs a body.** -/
theorem Carried.act {s : SimulatedExperiment K C} (h : Carried kind s)
    (hnamed : ∀ p, (s.agents p).agent.config.node_id = p) (p : ℕ) (ev : LoopEvent K) :
    Carried kind (s.act kind p ev) := by
  obtain hnone | ⟨packet, hone, hnode, hvstate, -⟩ := AgentLoops.packets_spec kind (s.agents p) ev
  · rw [SimulatedExperiment.act, hnone]
    simpa using ⟨h.built, h.fresh, h.carried⟩
  · rw [SimulatedExperiment.act, hone]
    refine ⟨fun e he ↦ ?_, fun e he ↦ ?_, ?_⟩
    · obtain he | he := List.mem_append.1 he
      · exact h.built e he
      · rw [List.mem_singleton.1 he]
        exact ⟨hnode.trans (hnamed p), hvstate⟩
    · obtain he | he := List.mem_append.1 he
      · exact h.fresh e he
      · rw [List.mem_singleton.1 he]
    · rw [List.map_append, List.map_append, ← List.append_assoc]
      exact h.carried.append_right _

omit [IsStrictOrderedRing K] in
theorem informed_act {s : SimulatedExperiment K C} (h : Informed ids s.agents s.bus.arrived) (p : ℕ)
    {ev : LoopEvent K} (hev : ∀ r, ev ≠ .receive r) :
    Informed ids (s.act kind p ev).agents (s.act kind p ev).bus.arrived := by
  obtain ⟨hconfig, htable, hrecords⟩ := AgentLoops.step_frame kind (s.agents p) hev
  exact h.update hconfig (congrArg NeighborTable.neighbor_ids htable) hrecords

theorem Inv.onBus {s : SimulatedExperiment K C} (h : Inv kind bus rng ids s) {ev : BusEvent K ℕ}
    (hpublished : (s.bus.step bus rng id ev).published = s.bus.published)
    (htime : s.tasks = [] ∨ (s.bus.step bus rng id ev).t = s.bus.t) :
    Inv kind bus rng ids (s.onBus bus rng ev) :=
  ⟨h.bus.step ev, informed_onBus h.bus h.informed ev, h.carried.onBus hpublished htime⟩

/-- **Every event keeps the experiment as it should be.** -/
theorem Inv.step {s : SimulatedExperiment K C} (h : Inv kind bus rng ids s)
    (ev : ExperimentEvent K) :
    Inv kind bus rng ids (s.step kind bus rng ev) := by
  cases ev with
  | start p =>
    have hnext : Inv kind bus rng ids (s.onBus bus rng (.start p fun _ ↦ true)) := by
      refine h.onBus ?_ (.inr ?_)
      · rw [LoopbackLoop.step]
        split_ifs <;> rfl
      · rw [LoopbackLoop.step]
        split_ifs <;> rfl
    exact ⟨hnext.bus, hnext.informed.update rfl rfl rfl,
      ⟨hnext.carried.built, hnext.carried.fresh, hnext.carried.carried⟩⟩
  | stop p =>
    have hnext : Inv kind bus rng ids (s.onBus bus rng (.stop p)) := h.onBus rfl (.inr rfl)
    exact ⟨hnext.bus, hnext.informed.update rfl rfl rfl,
      ⟨hnext.carried.built, hnext.carried.fresh, hnext.carried.carried⟩⟩
  | control p =>
    exact ⟨h.bus, informed_act h.informed p (by rintro r ⟨⟩), h.carried.act h.informed.named p _⟩
  | publish p =>
    exact ⟨h.bus, informed_act h.informed p (by rintro r ⟨⟩), h.carried.act h.informed.named p _⟩
  | task =>
    rw [SimulatedExperiment.step]
    split
    · exact h
    · -- The task hands its packet to the bus, which offers a copy to everybody else.
      next e rest htasks =>
      have hinformed : Informed ids (SimulatedExperiment.onBus bus rng { s with tasks := rest }
          (.publish e.sender e.packet)).agents _ :=
        informed_onBus (s := { s with tasks := rest }) h.bus h.informed _
      exact ⟨h.bus.step (.publish e.sender e.packet), hinformed, h.carried.task h.bus htasks⟩
  | turn =>
    obtain ⟨-, hpublished, -, -, htime⟩ := s.bus.turn_record
    exact h.onBus hpublished (.inr htime)
  | advance t =>
    rw [SimulatedExperiment.step]
    split_ifs with hnone
    · exact h.onBus (s.bus.advance_record t).2.1 (.inl hnone)
    · exact h

omit [IsStrictOrderedRing K] in
/-- What `build` makes has heard nobody. -/
theorem build_fresh {kind : ControllerKind A C} {a : HostAssignment ℕ K A} {g : HostAgent ℕ K C}
    (h : build kind a = some g) :
    g.config = a.toAgentConfig ∧ g.neighbors.neighbor_ids = a.neighbor_ids ∧
      g.neighbors.records = fun _ ↦ none := by
  rw [build] at h
  obtain ⟨c, -, hmade⟩ := Option.bind_eq_some_iff.1 h
  dsimp only at hmade
  split_ifs at hmade
  · obtain rfl := Option.some.inj hmade
    exact ⟨rfl, rfl, rfl⟩
  · obtain rfl := Option.some.inj hmade
    exact ⟨rfl, rfl, rfl⟩

variable (kind bus rng) in
theorem inv_run {assignments : ℕ → HostAssignment ℕ K A} {built : ℕ → HostAgent ℕ K C}
    (hbuilt : ∀ p, build kind.toControllerKind (assignments p) = some (built p))
    (hids : ∀ p, (assignments p).node_id = p) (t : K) (evs : List (ExperimentEvent K)) :
    Inv kind bus rng (fun p ↦ (assignments p).neighbor_ids)
      (run (step kind bus rng) (init built t) evs) := by
  refine run_invariant (step kind bus rng) (fun _ ev h ↦ h.step ev) ⟨inv_init t, ?_, ?_⟩ evs
  · refine ⟨fun p ↦ ?_, fun p ↦ (build_fresh (hbuilt p)).2.1, fun p nid _ ↦ ?_⟩
    · exact (congrArg AgentConfig.node_id (build_fresh (hbuilt p)).1).trans (hids p)
    · have hnone : (built p).neighbors.records nid = none :=
        congrFun (build_fresh (hbuilt p)).2.2 nid
      show Option.Rel _ ((built p).neighbors.records nid) _
      rw [hnone]
      exact .none
  · exact ⟨fun e he ↦ absurd he List.not_mem_nil, fun e he ↦ absurd he List.not_mem_nil, .slnil⟩

/-! ### What the agents read -/

/-- Every copy is of an emission of its sender, made when the copy was. -/
theorem Inv.origin {s : SimulatedExperiment K C} (h : Inv kind bus rng ids s) {c : Copy K}
    (hc : c ∈ s.bus.offered) :
    ∃ e ∈ s.emitted, e.sender = c.sender ∧ e.packet = c.packet ∧ e.at_s = c.at_s ∧
      c.packet.node_id = c.sender := by
  obtain ⟨audience, hpub⟩ := (h.bus.ledger.made c hc).published
  have hair : (c.sender, c.packet, c.at_s) ∈ s.emitted.map Emission.onAir :=
    h.carried.carried.mem (List.mem_append_left _
      (List.mem_map.2 ⟨_, List.mem_of_getElem? hpub, rfl⟩))
  obtain ⟨e, he, heq⟩ := List.mem_map.1 hair
  rw [Emission.onAir, Prod.mk.injEq, Prod.mk.injEq] at heq
  obtain ⟨hsender, hpacket, hat⟩ := heq
  refine ⟨e, he, hsender, hpacket, hat, ?_⟩
  rw [← hpacket, (h.carried.built e he).1, hsender]

/-- What an agent was handed under a neighbour's id came over that neighbour's link. -/
theorem Inv.lastFrom_eq {s : SimulatedExperiment K C} (h : Inv kind bus rng ids s) (p nid : ℕ) :
    lastFrom (receptionsOf s.bus.arrived p) nid =
      (s.bus.arrived.filter fun x ↦ onLink nid p x.1).getLast?.map fun x ↦
        ⟨x.2.packet.toWirePacket, x.2.rx_time_us, x.2.rssi⟩ := by
  rw [lastFrom, receptionsOf, List.filter_map, List.getLast?_map, List.filter_filter]
  congr 2
  refine List.filter_congr fun x hx ↦ ?_
  obtain ⟨-, -, -, -, -, hnode⟩ := h.origin (h.bus.underWay.mem_offered_of_arrived hx)
  have hpacket : x.2.packet.node_id = x.1.sender := by
    rw [h.bus.underWay.arrivals x hx]
    exact hnode
  rw [onLink, ← hpacket, Bool.decide_and]
  rfl

/-- A copy that has come over a link is none newer than the last one. -/
theorem Inv.seq_le_last {s : SimulatedExperiment K C} (h : Inv kind bus rng ids s) {p nid : ℕ}
    {x : Copy K × AirReception}
    (hx : (s.bus.arrived.filter fun x ↦ onLink nid p x.1).getLast? = some x) {c : Copy K}
    (hc : c ∈ s.bus.arrived.map Prod.fst) (hlink : onLink nid p c = true) :
    c.seq ≤ x.1.seq := by
  obtain ⟨earlier, hsplit⟩ := List.getLast?_eq_some_iff.1 hx
  have hcopies : (s.bus.arrived.map Prod.fst).filter (onLink nid p) =
      earlier.map Prod.fst ++ [x.1] := by
    rw [List.filter_map]
    exact (congrArg (List.map Prod.fst) hsplit).trans (List.map_append ..)
  have horder := h.bus.arrived_order nid p
  have hmem : c ∈ (s.bus.arrived.map Prod.fst).filter (onLink nid p) :=
    List.mem_filter.2 ⟨hc, hlink⟩
  rw [hcopies] at horder hmem
  obtain hmem | hmem := List.mem_append.1 hmem
  · exact ((List.pairwise_append.1 horder).2.2 c hmem x.1 (List.mem_singleton_self _)).le
  · rw [List.mem_singleton.1 hmem]

variable (kind bus rng) in
/-- **What is read was committed.** In any run of the experiment, with any losses and delays on the
links: what an agent has of a neighbour is the quantized virtual state that this neighbour had when
it built that packet, received a link's delay later; no packet of that neighbour that was not lost
and has had its time is newer; and where an agent has nothing of a neighbour, none has come through
in time. -/
theorem reads_committed {assignments : ℕ → HostAssignment ℕ K A} {built : ℕ → HostAgent ℕ K C}
    (hbuilt : ∀ p, build kind.toControllerKind (assignments p) = some (built p))
    (hids : ∀ p, (assignments p).node_id = p) (t : K) (evs : List (ExperimentEvent K)) (p nid : ℕ)
    (hnid : nid ∈ (assignments p).neighbor_ids) :
    let s := run (step kind bus rng) (init built t) evs
    let had := (s.agents p).agent.neighbors.records nid
    let through (c : Copy K) : Prop := onLink nid p c = true ∧ isLost bus c = false ∧
      c.at_s + max c.delay 0 < s.bus.t
    (∀ rec, had = some rec → ∃ e ∈ s.emitted, ∃ c ∈ s.bus.offered,
      (e.sender = nid ∧ c.sender = nid ∧ c.receiver = p ∧ c.packet = e.packet ∧ c.at_s = e.at_s) ∧
      (rec.vstate = (kind.vstate e.controller).map quantize ∧ rec.seq = e.packet.seq ∧
        rec.sender_enabled = e.packet.enabled ∧
        rec.rx_time_us = now_us (e.at_s + max (bus.params nid p).2 0)) ∧
      ∀ c' ∈ s.bus.offered, through c' → c'.seq ≤ c.seq) ∧
    (had = none → ∀ c' ∈ s.bus.offered, ¬through c') := by
  intro s had through
  have h : Inv kind bus rng (fun p ↦ (assignments p).neighbor_ids) s :=
    inv_run kind bus rng hbuilt hids t evs
  have hknown : Option.Rel HeardRecord.Agrees had (lastFrom (receptionsOf s.bus.arrived p) nid) :=
    h.informed.knows p nid (h.informed.ids p ▸ hnid)
  rw [h.lastFrom_eq] at hknown
  cases hlast : (s.bus.arrived.filter fun x ↦ onLink nid p x.1).getLast? with
  | none =>
    rw [hlast, Option.map_none] at hknown
    cases hhad : had with
    | some rec =>
      rw [hhad] at hknown
      cases hknown
    | none =>
      refine ⟨fun rec hrec ↦ (by cases hrec), fun _ c' hc' hthrough ↦ ?_⟩
      obtain ⟨x, hx, rfl⟩ := List.mem_map.1 (h.bus.arrived_of_due hc' hthrough.2.1 hthrough.2.2)
      have hmem : x ∈ s.bus.arrived.filter fun x ↦ onLink nid p x.1 :=
        List.mem_filter.2 ⟨hx, hthrough.1⟩
      rw [List.getLast?_eq_none_iff.1 hlast] at hmem
      exact absurd hmem List.not_mem_nil
  | some x =>
    rw [hlast, Option.map_some] at hknown
    cases hhad : had with
    | none =>
      rw [hhad] at hknown
      cases hknown
    | some rec =>
      rw [hhad] at hknown
      have hagrees : HeardRecord.Agrees rec
          ⟨x.2.packet.toWirePacket, x.2.rx_time_us, x.2.rssi⟩ := by
        cases hknown with
        | some hagrees => exact hagrees
      refine ⟨fun rec' hrec' ↦ ?_, fun hnone ↦ (by cases hnone)⟩
      obtain rfl := Option.some.inj hrec'
      have hmem : x ∈ s.bus.arrived.filter fun x ↦ onLink nid p x.1 :=
        List.mem_of_getLast? hlast
      obtain ⟨hx, hlink⟩ := List.mem_filter.1 hmem
      have hoffered := h.bus.underWay.mem_offered_of_arrived hx
      obtain ⟨hsender, hreceiver⟩ : x.1.sender = nid ∧ x.1.receiver = p :=
        of_decide_eq_true hlink
      obtain ⟨e, he, hesender, hpacket, hat, -⟩ := h.origin hoffered
      have harrival := h.bus.underWay.arrivals x hx
      have hdelay := (h.bus.ledger.made x.1 hoffered).delay
      rw [hsender, hreceiver] at hdelay
      rw [harrival, ← hpacket] at hagrees
      refine ⟨e, he, x.1, hoffered, ⟨hesender.trans hsender, hsender, hreceiver, hpacket.symm,
        hat.symm⟩, ⟨?_, hagrees.seq, hagrees.sender_enabled, ?_⟩, fun c' hc' hthrough ↦ ?_⟩
      · rw [hagrees.vstate]
        exact (h.carried.built e he).2
      · rw [hagrees.rx_time_us, hdelay, hat]
      · exact h.seq_le_last hlast
          (h.bus.arrived_of_due hc' hthrough.2.1 hthrough.2.2) hthrough.1

/-- Nodes that publish every tick; node `4` reads node `3`, and every other node reads node `4`. -/
def pairAssignment (p : ℕ) : HostAssignment ℕ ℚ (ControllerParams ℚ) :=
  { sampleHostAssignment with
    node_id := p
    neighbor_ids := if p = 4 then [3] else [4]
    publish_period_s := 1 / 40 }

/-- The agent that is built of a node of the pair. -/
def pairAgent (p : ℕ) : HostAgent ℕ ℚ (MicrogridController ℚ) where
  config := (pairAssignment p).toAgentConfig
  controller := .init (pairAssignment p).controller
  publish_in_tick := true
  publish_every := roundHalfEven (1 / 40 / (1 / 40) : ℚ)
  ticks := 0
  last_tick_s := none
  neighbors := .init (pairAssignment p).neighbor_ids
    (roundHalfEven ((pairAssignment p).resolved_max_age_s * 1000000)) 2 true 1024
  seq := 0
  t0_s := none
  listening := false

theorem build_pair (p : ℕ) :
    build (microgridKind .atZero) (pairAssignment p) = some (pairAgent p) := by
  have hratio : wholeMultiple (1 / 40 / (1 / 40) : ℚ) := by decide +kernel
  have hage : ¬(3 * (1 / 40) : ℚ) ≤ 0 := by decide +kernel
  rw [build]
  refine (if_neg fun h ↦ h.2 hratio).trans ?_
  exact if_neg hage

theorem noLoss_mem : (0 : ℚ) ≤ 0 ∧ (0 : ℚ) ≤ 1 := by norm_num

/-- The bus of `halfLost` that loses nothing. -/
def tenthLater : LoopbackBus ℚ ℕ :=
  { halfLost with
    loss := 0
    loss_mem := noLoss_mem }

/-- Node `3` ticks and publishes, and the packet comes to node `4`. -/
def pairRun : List (ExperimentEvent ℚ) :=
  [.start 3, .start 4, .control 3, .task, .turn, .advance (1 / 10), .turn]

/-- Node `4` has what node `3` published, a tenth of a second later. -/
theorem reads_committed_pair :
    let s := run (step (microgridPublished .atZero) tenthLater (fun _ ↦ 0)) (init pairAgent 0)
      pairRun
    ∃ rec, (s.agents 4).agent.neighbors.records 3 = some rec ∧ ∃ e ∈ s.emitted, e.sender = 3 ∧
      rec.vstate = [quantize e.controller.virtual.zP, quantize e.controller.virtual.zQ] ∧
      rec.rx_time_us = now_us (e.at_s + max (1 / 10) 0) := by
  have hhad : ((run (step (microgridPublished .atZero) tenthLater (fun _ ↦ 0)) (init pairAgent 0)
      pairRun).agents 4).agent.neighbors.records 3 ≠ none := by
    decide +kernel
  obtain ⟨rec, hrec⟩ := Option.ne_none_iff_exists'.1 hhad
  obtain ⟨hread, -⟩ := reads_committed (microgridPublished .atZero) tenthLater (fun _ ↦ 0)
    build_pair (fun _ ↦ rfl) 0 pairRun 4 3 (by decide)
  obtain ⟨e, he, c, -, ⟨hsender, -⟩, ⟨hvstate, -, -, htime⟩, -⟩ := hread rec hrec
  exact ⟨rec, hrec, e, he, hsender, hvstate, htime⟩

end SimulatedExperiment

end VertexTestbed.Host
