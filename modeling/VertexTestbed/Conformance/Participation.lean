import VertexTestbed.Firmware.RunIsolation
import VertexTestbed.Host.LocalCommands

/-!
# Who takes part in the coupling

The neighbours that the scalar law couples over, on a board and on a host agent that are handed the
same packets at the same times. A board absorbs the flags of the last packet of each neighbour and
keeps them; a host agent asks of each control instant that the last packet be no older than the age
limit, three publish periods by default. So both couple over the neighbours whose last packet says
that they are enabled, less, on the host, those that have gone silent.

`participation_agrees_iff` says that they agree exactly if none has.
-/

namespace VertexTestbed.Conformance

open Firmware Host Runs

/-! ### Histories -/

/-- One reception, on a board and on a host agent. -/
structure SharedReception where
  packet : StatePacketType
  board_rssi : Int8
  host : Host.Reception UInt8
  node : host.packet.node_id = packet.node
  enabled : host.packet.enabled = packet.enabled

/-- What happens to a node: a packet is received, or a control instant comes. -/
inductive NodeEvent (K : Type) where
  | receive (x : SharedReception)
  | control (now_s : K) (now_us : ℤ)

/-- The last reception from a node. -/
def lastFrom {K : Type} (history : List (NodeEvent K)) (nid : UInt8) : Option SharedReception :=
  history.foldl
    (fun last ev ↦
      match ev with
      | .receive x => if x.packet.node = nid then some x else last
      | .control _ _ => last) none

section LastFrom

variable {K : Type} (history : List (NodeEvent K)) (nid : UInt8)

/-- A control instant is not a reception. -/
theorem lastFrom_control (now_s : K) (now_us : ℤ) :
    lastFrom (history ++ [.control now_s now_us]) nid = lastFrom history nid := by
  rw [lastFrom, List.foldl_append]
  rfl

/-- What was heard last of a node is the latest reception of it. -/
theorem lastFrom_receive (x : SharedReception) :
    lastFrom (history ++ [.receive x]) nid =
      if x.packet.node = nid then some x else lastFrom history nid := by
  rw [lastFrom, List.foldl_append]
  rfl

end LastFrom

/-! ### The two nodes -/

section Nodes

variable {K : Type} [Field K] [LinearOrder K] [IsStrictOrderedRing K] [FloorRing K] (lib : Libm K)

/-- The board's part of an event. A control instant is both segments of the dynamics loop. -/
def boardStep (s : RunLoops K) : NodeEvent K → RunLoops K
  | .receive x => s.step lib (.receive x.packet x.board_rssi)
  | .control _ _ => run (RunLoops.step lib) s [.dynamics, .dynamics]

/-- The host agent's part of an event. -/
def hostStep {A C : Type} (kind : ControllerKind A C) (g : HostAgent UInt8 K C) :
    NodeEvent K → HostAgent UInt8 K C
  | .receive x => { g with neighbors := g.neighbors.observe x.host }
  | .control now_s now_us => g.controlStep kind now_s now_us

end Nodes

/-! ### Who is coupled over -/

section Coupled

variable {K : Type}

/-- The neighbours that `v_i` sums over. -/
def coupledNeighbours (p : AgentParams) : Finset UInt8 :=
  ((p.slots.filter fun j ↦ p.neighborsEnabled j).map p.neighborsId).toFinset

/-- The neighbours that the control step at this instant couples over, on a board: the agent it
hands to `discrete_step` has absorbed what is queued. -/
def coupledOnBoard (s : RunLoops K) : Finset UInt8 :=
  coupledNeighbours (s.dynamicsGet.stepped s.rx.queue.isSome).params

/-- The same on a host agent: those that `snapshot` hands to the controller with their flag set. -/
def coupledOnHost {C : Type} (g : HostAgent UInt8 K C) (now_us : ℤ) : Finset UInt8 :=
  (((g.neighbors.neighbor_ids.zip (g.neighbors.table.snapshot now_us).2).filter
    fun x ↦ x.2).map Prod.fst).toFinset

end Coupled

/-! ### The board -/

section Board

variable {K : Type}

/-- **A board at the start of a run**, with neighbours `ids`: nothing heard, nothing absorbed. -/
structure Begun (ids : List UInt8) (s : RunLoops K) : Prop where
  running : s.agent.params.running = true
  enabled : s.agent.params.enabled = true
  scanning : s.plane.radio.scanning = true
  ids : s.agent.params.slots.map s.agent.params.neighborsId = ids
  dynamics : s.dynamics = .idle
  info : s.rx.info = .zero
  queue : s.rx.queue = none
  received : s.agent.received = .zero

/-- Slot `j` is the one its node is filed under, and the node's last packet says that it is
enabled. -/
def FlaggedIn (history : List (NodeEvent K)) (p : AgentParams) (j : Slot) : Prop :=
  agentNeighborIndex p (p.neighborsId j) = some j ∧
    ∃ x ∈ lastFrom history (p.neighborsId j), x.packet.enabled = true

/-- The board behind a history. The record has the flags of the last packets, what is queued has the
flags of the record, and so does the agent once nothing is. -/
structure Follows (ids : List UInt8) (history : List (NodeEvent K)) (s : RunLoops K) : Prop where
  running : s.agent.params.running = true
  enabled : s.agent.params.enabled = true
  scanning : s.plane.radio.scanning = true
  ids : s.agent.params.slots.map s.agent.params.neighborsId = ids
  dynamics : s.dynamics = .idle
  info : ∀ j, s.rx.info.enabled j = true ↔ FlaggedIn history s.agent.params j
  queue : ∀ n ∈ s.rx.queue, n.enabled = s.rx.info.enabled
  absorbed : s.rx.queue = none → s.agent.params.neighborsEnabled = s.rx.info.enabled

/-- A run that just began has heard of nobody. -/
theorem Begun.follows {ids : List UInt8} {s : RunLoops K} (h : Begun ids s) : Follows ids [] s where
  running := h.running
  enabled := h.enabled
  scanning := h.scanning
  ids := h.ids
  dynamics := h.dynamics
  info j := by
    rw [h.info]
    exact iff_of_false Bool.false_ne_true fun hflagged ↦ by
      obtain ⟨-, x, hx, -⟩ := hflagged
      cases hx
  queue n hn := by
    rw [h.queue] at hn
    cases hn
  absorbed _ := by
    rw [h.info]
    exact congrArg NeighborInfo.enabled h.received

variable {ids : List UInt8} {history : List (NodeEvent K)} {s : RunLoops K}

/-- A packet of a node that is filed under slot `i` changes what is said of slot `i` only. -/
theorem flaggedIn_receive {p : AgentParams} {x : SharedReception} {i : Slot}
    (hi : agentNeighborIndex p x.packet.node = some i) (j : Slot) :
    FlaggedIn (history ++ [.receive x]) p j ↔
      if j = i then x.packet.enabled = true else FlaggedIn history p j := by
  have hnode := agentNeighborIndex_eq_some hi
  rw [FlaggedIn, lastFrom_receive]
  by_cases hj : j = i
  · subst hj
    rw [if_pos rfl, if_pos hnode.symm, hnode]
    constructor
    · rintro ⟨-, y, hy, hyen⟩
      cases hy
      exact hyen
    · exact fun hen ↦ ⟨hi, x, rfl, hen⟩
  · rw [if_neg hj, FlaggedIn]
    -- a slot that declares the same node a second time is not the one it is filed under
    by_cases hsame : x.packet.node = p.neighborsId j
    · rw [← hsame]
      exact iff_of_false (fun h ↦ hj (Option.some.inj (h.1.symm.trans hi)))
        fun h ↦ hj (Option.some.inj (h.1.symm.trans hi))
    · rw [if_neg hsame]

/-- A packet of a node that is not declared changes nothing. -/
theorem flaggedIn_receive_of_none {p : AgentParams} {x : SharedReception}
    (hnone : agentNeighborIndex p x.packet.node = none) (j : Slot) :
    FlaggedIn (history ++ [.receive x]) p j ↔ FlaggedIn history p j := by
  rw [FlaggedIn, lastFrom_receive, FlaggedIn]
  by_cases hsame : x.packet.node = p.neighborsId j
  · rw [← hsame]
    exact iff_of_false (fun h ↦ by cases hnone.symm.trans h.1) fun h ↦ by cases hnone.symm.trans h.1
  · rw [if_neg hsame]

/-- A reception keeps the board in step with the history. -/
theorem follows_receive (h : Follows ids history s) (x : SharedReception) :
    Follows ids (history ++ [.receive x]) (s.receive x.packet x.board_rssi) := by
  rw [RunLoops.receive, if_pos h.scanning]
  rcases hindex : agentNeighborIndex s.agent.params x.packet.node with _ | i
  · have hrx : onDeviceFound s.rx s.agent.params x.packet x.board_rssi = s.rx := by
      rw [onDeviceFound, hindex]
    rw [hrx]
    exact ⟨h.running, h.enabled, h.scanning, h.ids, h.dynamics,
      fun j ↦ (h.info j).trans (flaggedIn_receive_of_none hindex j).symm, h.queue, h.absorbed⟩
  · have hrx : onDeviceFound s.rx s.agent.params x.packet x.board_rssi =
        { onDataParseAfterDeviceFound s.rx i x.packet with
          info := (s.rx.info.store i x.packet).storeRssi i x.board_rssi } := by
      rw [onDeviceFound, hindex]
      rfl
    rw [hrx]
    refine ⟨h.running, h.enabled, h.scanning, h.ids, h.dynamics, fun j ↦ ?_, fun n hn ↦ ?_,
      fun hnone ↦ (by cases hnone)⟩
    · show Function.update s.rx.info.enabled i x.packet.enabled j = true ↔ _
      refine Iff.trans ?_ (flaggedIn_receive hindex j).symm
      by_cases hj : j = i
      · rw [if_pos hj, hj, Function.update_self]
      · rw [if_neg hj, Function.update_of_ne hj]
        exact h.info j
    · cases hn
      rfl

/-- **What the control step hands to the law has the flags of the record.** -/
theorem Follows.stepped (h : Follows ids history s) :
    (s.dynamicsGet.stepped s.rx.queue.isSome).params.neighborsEnabled = s.rx.info.enabled := by
  rw [RunLoops.dynamicsGet, RunLoops.stepped]
  rcases hqueue : s.rx.queue with _ | n
  · exact h.absorbed hqueue
  · show (absorbNeighbors s.agent n).params.neighborsEnabled = _
    rw [absorbNeighbors, if_neg (by rw [h.enabled]; decide)]
    exact h.queue n hqueue

end Board

section Steps

/-- The slots in use depend on the list only. -/
theorem slots_congr {p p' : AgentParams} (hcount : p'.nNeighbors = p.nNeighbors) :
    p'.slots = p.slots := by
  rw [AgentParams.slots, hcount, AgentParams.slots]

/-- And so does the slot that a node is filed under. -/
theorem flaggedIn_congr {K : Type} (history : List (NodeEvent K)) {p p' : AgentParams}
    (hids : p'.neighborsId = p.neighborsId) (hcount : p'.nNeighbors = p.nNeighbors) (j : Slot) :
    FlaggedIn history p' j ↔ FlaggedIn history p j := by
  rw [FlaggedIn, agentNeighborIndex, slots_congr hcount, hids, FlaggedIn, agentNeighborIndex]

/-- What `absorb_neighbors` leaves alone. -/
theorem stepped_declared {K : Type} (s : RunLoops K) (freshData : Bool) :
    (s.stepped freshData).params.running = s.agent.params.running ∧
      (s.stepped freshData).params.enabled = s.agent.params.enabled ∧
      (s.stepped freshData).params.neighborsId = s.agent.params.neighborsId ∧
      (s.stepped freshData).params.nNeighbors = s.agent.params.nNeighbors := by
  refine ⟨?_, ?_, RunLoops.stepped_neighborsId s freshData, RunLoops.stepped_nNeighbors s freshData⟩
  · rw [RunLoops.stepped, absorbNeighbors]
    split_ifs <;> rfl
  · rw [RunLoops.stepped, absorbNeighbors]
    split_ifs <;> rfl

theorem dynamicsGet_agent {K : Type} (s : RunLoops K) : s.dynamicsGet.agent = s.agent := by
  rw [RunLoops.dynamicsGet]
  split <;> rfl

variable {K : Type} [Field K] [LinearOrder K] [IsStrictOrderedRing K] [FloorRing K] (lib : Libm K)
  {ids : List UInt8} {history : List (NodeEvent K)} {s : RunLoops K}

/-- A control instant, for a board that is running and enabled. -/
theorem boardStep_control (h : Follows ids history s) (now_s : K) (now_us : ℤ) :
    boardStep lib s (.control now_s now_us) =
      { s.dynamicsGet with
        dynamics := .idle
        steps := s.steps ++ [(s.run, s.dynamicsGet.stepped s.rx.queue.isSome)]
        plane :=
          { s.plane with
            board :=
              discreteStep lib
                { s.plane.board with agent := s.dynamicsGet.stepped s.rx.queue.isSome } } } := by
  have hon : (s.agent.params.running && s.agent.params.enabled) = true := by
    rw [h.running, h.enabled]
    rfl
  have hget : s.step lib .dynamics = s.dynamicsGet := by
    rw [RunLoops.step, h.dynamics]
  show (s.step lib .dynamics).step lib .dynamics = _
  rw [hget, RunLoops.dynamicsGet]
  rcases hqueue : s.rx.queue with _ | n
  · show RunLoops.dynamicsStep lib _ false = _
    rw [RunLoops.dynamicsStep]
    exact if_pos hon
  · show RunLoops.dynamicsStep lib _ true = _
    rw [RunLoops.dynamicsStep]
    exact if_pos hon

/-- So does a control instant. -/
theorem follows_control (h : Follows ids history s) (now_s : K) (now_us : ℤ) :
    Follows ids (history ++ [.control now_s now_us])
      (boardStep lib s (.control now_s now_us)) := by
  have hflags := h.stepped
  have hparams : (boardStep lib s (.control now_s now_us)).agent.params =
      (s.dynamicsGet.stepped s.rx.queue.isSome).params := by
    rw [boardStep_control lib h]
    exact discreteStep_params lib _
  obtain ⟨hrunning, henabled, hids, hcount⟩ :=
    stepped_declared s.dynamicsGet s.rx.queue.isSome
  rw [dynamicsGet_agent, ← hparams] at hrunning henabled hids hcount
  rw [← hparams] at hflags
  have hrest : (boardStep lib s (.control now_s now_us)).plane.radio = s.plane.radio ∧
      (boardStep lib s (.control now_s now_us)).dynamics = .idle ∧
      (boardStep lib s (.control now_s now_us)).rx.info = s.rx.info ∧
      (boardStep lib s (.control now_s now_us)).rx.queue = none := by
    rw [boardStep_control lib h, RunLoops.dynamicsGet]
    rcases hqueue : s.rx.queue with _ | n
    · exact ⟨rfl, rfl, rfl, hqueue⟩
    · exact ⟨rfl, rfl, rfl, rfl⟩
  obtain ⟨hradio, hdynamics, hinfo, hqueue⟩ := hrest
  refine ⟨hrunning.trans h.running, henabled.trans h.enabled, ?_, ?_, hdynamics, fun j ↦ ?_,
    fun n hn ↦ ?_, fun _ ↦ ?_⟩
  · rw [hradio]
    exact h.scanning
  · rw [slots_congr hcount, hids]
    exact h.ids
  · rw [hinfo, flaggedIn_congr _ hids hcount, FlaggedIn, lastFrom_control]
    exact h.info j
  · rw [hqueue] at hn
    cases hn
  · rw [hinfo]
    exact hflags

/-- **Every event does.** -/
theorem follows_step (h : Follows ids history s) (ev : NodeEvent K) :
    Follows ids (history ++ [ev]) (boardStep lib s ev) := by
  cases ev with
  | receive x => exact follows_receive h x
  | control now_s now_us => exact follows_control lib h now_s now_us

/-- Behind every history the board has the flags of the last packets. -/
theorem follows_run (h : Begun ids s) (history : List (NodeEvent K)) :
    Follows ids history (run (boardStep lib) s history) := by
  induction history using List.reverseRecOn with
  | nil => exact h.follows
  | append_singleton history ev ih =>
    rw [run_concat]
    exact follows_step lib ih ev

omit [LinearOrder K] [IsStrictOrderedRing K] [FloorRing K] [Field K] in
/-- **A board couples over the neighbours whose last packet says that they are enabled**, however
long ago it came. -/
theorem mem_coupledOnBoard (h : Follows ids history s) (nid : UInt8) :
    nid ∈ coupledOnBoard s ↔ nid ∈ ids ∧ ∃ x ∈ lastFrom history nid, x.packet.enabled = true := by
  obtain ⟨-, -, hids, hcount⟩ := stepped_declared s.dynamicsGet s.rx.queue.isSome
  rw [dynamicsGet_agent] at hids hcount
  rw [coupledOnBoard, coupledNeighbours, h.stepped, hids, slots_congr hcount, List.mem_toFinset,
    List.mem_map]
  constructor
  · rintro ⟨j, hj, rfl⟩
    obtain ⟨hmem, hflag⟩ := List.mem_filter.mp hj
    obtain ⟨-, hlast⟩ := (h.info j).mp hflag
    exact ⟨h.ids ▸ List.mem_map_of_mem hmem, hlast⟩
  · rintro ⟨hnid, hlast⟩
    rw [← h.ids, List.mem_map] at hnid
    obtain ⟨j, hj, hjnid⟩ := hnid
    -- the slot the node is filed under, which is its first
    have hsome : (agentNeighborIndex s.agent.params nid).isSome = true := by
      rw [agentNeighborIndex, List.find?_isSome]
      exact ⟨j, hj, beq_iff_eq.mpr hjnid⟩
    obtain ⟨i, hi⟩ := Option.isSome_iff_exists.mp hsome
    have hinid := agentNeighborIndex_eq_some hi
    refine ⟨i, List.mem_filter.mpr ⟨List.mem_of_find?_eq_some hi, ?_⟩, hinid⟩
    exact (h.info i).mpr ⟨by rw [hinid]; exact hi, by rw [hinid]; exact hlast⟩

end Steps

/-! ### The start of a run -/

section Start

variable {K : Type} [Field K] [LinearOrder K] [IsStrictOrderedRing K] [FloorRing K] (lib : Libm K)

/-- Two sections of the network loop bring scanning up, and leave the rest. -/
theorem begun_of_startup {ids : List UInt8} {s : RunLoops K}
    (hrunning : s.agent.params.running = true) (hfirst : s.agent.params.firstTimeRunning = true)
    (henabled : s.agent.params.enabled = true)
    (hids : s.agent.params.slots.map s.agent.params.neighborsId = ids)
    (hdynamics : s.dynamics = .idle) (hnetwork : s.network = .idle) (hinfo : s.rx.info = .zero)
    (hqueue : s.rx.queue = none) (hreceived : s.agent.received = .zero) (u₁ u₂ : ℤ) :
    Begun ids (run (RunLoops.step lib) s [.network u₁ 0, .network u₂ 0]) := by
  have hidle : s.networkStep u₁ 0 = { s with network := .startup } := by
    rw [RunLoops.networkStep, hnetwork]
    dsimp only
    rw [hrunning, hfirst]
    rfl
  show Begun ids ((s.networkStep u₁ 0).networkStep u₂ 0)
  rw [hidle]
  exact ⟨hrunning, henabled, Bool.or_true _, hids, hdynamics, hinfo, hqueue, hreceived⟩

/-- A CONTROL start and two sections of the network loop begin a run, on a board that is enabled and
has forgotten the run before. -/
theorem begun_of_start {s : RunLoops K} (henabled : s.agent.params.enabled = true)
    (hdynamics : s.dynamics = .idle) (hnetwork : s.network = .idle) (hinfo : s.rx.info = .zero)
    (hqueue : s.rx.queue = none) (e : ControlEnv) {d : Bytes} (hlen : d.length = protoControlLen)
    (hstart : byteAt d 0 = 1) (u₁ u₂ : ℤ) :
    Begun (s.agent.params.slots.map s.agent.params.neighborsId)
      (run (RunLoops.step lib) s
        [.frame e protoTControl d, .network u₁ 0, .network u₂ 0]) := by
  obtain ⟨hrunning, hfirst, hkept, -⟩ := applyControl_started s.plane.board hlen hstart e.nowUs
  obtain ⟨hreceived, hids, hcount⟩ := applyControl_received s.plane.board d e.nowUs
  rw [if_pos ⟨hlen, hstart⟩] at hreceived
  let s' : RunLoops K :=
    { s with
      plane := { s.plane with board := (applyControl s.plane.board d e.nowUs).2 }
      run := s.run + 1 }
  have hframe : s.step lib (.frame e protoTControl d) = s' := by
    have hone : isStart protoTControl d = true := by
      rw [isStart, hlen, hstart]
      rfl
    show s.frame e protoTControl d = _
    rw [RunLoops.frame, if_pos hone, controlOnFrame, if_pos (by decide)]
    rfl
  rw [run_cons, hframe]
  refine begun_of_startup (s := s') lib hrunning hfirst (hkept.trans henabled) ?_ hdynamics hnetwork
    hinfo hqueue hreceived u₁ u₂
  have hslots : s'.agent.params.slots = s.agent.params.slots := slots_congr hcount
  have hsame : s'.agent.params.neighborsId = s.agent.params.neighborsId := hids
  rw [hslots, hsame]

end Start

/-! ### The host agent -/

section Host

variable {K C : Type}

/-- The table behind a history: of every declared neighbour the flag and the time of its last
packet. -/
structure TableFollows (ids : List UInt8) (max_age_us : ℤ) (history : List (NodeEvent K))
    (t : NeighborTable UInt8) : Prop where
  declared : t.neighbor_ids = ids
  limit : t.max_age_us = max_age_us
  drops : t.hold = false
  records : ∀ nid ∈ ids,
    (t.records nid).map (fun r ↦ (r.sender_enabled, r.rx_time_us)) =
      (lastFrom history nid).map fun x ↦ (x.packet.enabled, x.host.rx_time_us)

variable {ids : List UInt8} {max_age_us : ℤ} {history : List (NodeEvent K)}

/-- A reception keeps the host's table in step with the history. -/
theorem TableFollows.receive {t : NeighborTable UInt8} (h : TableFollows ids max_age_us history t)
    (x : SharedReception) :
    TableFollows ids max_age_us (history ++ [.receive x])
      (t.observe x.host.packet.toStatePacket x.host.rx_time_us) := by
  rw [NeighborTable.observe]
  by_cases hdeclared : x.host.packet.node_id ∈ t.neighbor_ids
  · rw [if_pos hdeclared]
    refine ⟨h.declared, h.limit, h.drops, fun nid hnid ↦ ?_⟩
    rw [lastFrom_receive, ← x.node]
    by_cases hsame : nid = x.host.packet.node_id
    · show Option.map _ (if nid = _ then _ else _) = _
      rw [if_pos hsame, if_pos hsame.symm, Option.map_some, Option.map_some, x.enabled]
    · show Option.map _ (if nid = _ then _ else _) = _
      rw [if_neg hsame, if_neg (Ne.symm hsame)]
      exact h.records nid hnid
  · rw [if_neg hdeclared]
    refine ⟨h.declared, h.limit, h.drops, fun nid hnid ↦ ?_⟩
    rw [lastFrom_receive, if_neg ?_]
    · exact h.records nid hnid
    · rintro rfl
      rw [h.declared, x.node] at hdeclared
      exact hdeclared hnid

/-- A control instant does not touch it. -/
theorem TableFollows.control {t : NeighborTable UInt8} (h : TableFollows ids max_age_us history t)
    (now_s : K) (now_us : ℤ) :
    TableFollows ids max_age_us (history ++ [.control now_s now_us]) t := by
  refine ⟨h.declared, h.limit, h.drops, fun nid hnid ↦ ?_⟩
  rw [lastFrom_control]
  exact h.records nid hnid

/-- **A host agent couples over the neighbours whose last packet says that they are enabled, and is
no older than the age limit.** -/
theorem mem_coupledOnHost {g : HostAgent UInt8 K C}
    (h : TableFollows ids max_age_us history g.neighbors.table) (now_us : ℤ) (nid : UInt8) :
    nid ∈ coupledOnHost g now_us ↔
      nid ∈ ids ∧ ∃ x ∈ lastFrom history nid,
        x.packet.enabled = true ∧ now_us - x.host.rx_time_us ≤ max_age_us := by
  -- A table that drops what is too old flags a neighbour by its record and its age.
  have hflags : (g.neighbors.neighbor_ids.zip (g.neighbors.table.snapshot now_us).2) =
      g.neighbors.neighbor_ids.map fun j ↦ (j, (g.neighbors.table.records j).any fun r ↦
        r.sender_enabled && decide (now_us - r.rx_time_us ≤ max_age_us)) := by
    rw [List.map_prod_left_eq_zip]
    congr 1
    refine List.map_congr_left fun j _ ↦ ?_
    rcases g.neighbors.table.records j with _ | r
    · rfl
    · show (r.sender_enabled && (g.neighbors.table.hold || _)) = _
      rw [h.drops, Bool.false_or, NeighborRecord.age_us, h.limit]
      rfl
  -- The record is that of the last reception.
  have hlast : ∀ j ∈ ids, ((g.neighbors.table.records j).any fun r ↦
        r.sender_enabled && decide (now_us - r.rx_time_us ≤ max_age_us)) = true ↔
      ∃ x ∈ lastFrom history j,
        x.packet.enabled = true ∧ now_us - x.host.rx_time_us ≤ max_age_us := by
    intro j hj
    have hrecord := h.records j hj
    rcases hr : g.neighbors.table.records j with _ | r
    · rw [hr] at hrecord
      rw [Option.map_eq_none_iff.mp hrecord.symm]
      refine iff_of_false Bool.false_ne_true ?_
      rintro ⟨x, hx, -⟩
      cases hx
    · rw [hr] at hrecord
      obtain ⟨x, hx, hpair⟩ := Option.map_eq_some_iff.mp hrecord.symm
      obtain ⟨hen, htime⟩ := Prod.mk.inj hpair
      rw [hx, Option.any_some, Bool.and_eq_true, decide_eq_true_eq, ← hen, ← htime]
      constructor
      · exact fun hflag ↦ ⟨x, rfl, hflag⟩
      · rintro ⟨y, hy, hflag⟩
        cases hy
        exact hflag
  have hdeclared : g.neighbors.neighbor_ids = ids := h.declared
  rw [coupledOnHost, hflags, List.mem_toFinset, List.mem_map]
  constructor
  · rintro ⟨⟨j, flag⟩, hmem, rfl⟩
    obtain ⟨hpair, hflag⟩ := List.mem_filter.mp hmem
    obtain ⟨i, hi, heq⟩ := List.mem_map.mp hpair
    obtain ⟨rfl, rfl⟩ := Prod.mk.inj heq
    rw [hdeclared] at hi
    exact ⟨hi, (hlast i hi).mp hflag⟩
  · rintro ⟨hnid, hsaid⟩
    refine ⟨(nid, true), List.mem_filter.mpr ⟨List.mem_map.mpr ⟨nid, ?_, ?_⟩, rfl⟩, rfl⟩
    · rw [hdeclared]
      exact hnid
    · rw [(hlast nid hnid).mpr hsaid]

section Step

variable {A : Type} (kind : ControllerKind A C)

/-- A control step reads the table and leaves it. -/
theorem controlStep_table {ι : Type} (g : HostAgent ι K C) (now_s : K) (now_us : ℤ) :
    (g.controlStep kind now_s now_us).neighbors.table = g.neighbors.table := by
  rw [HostAgent.controlStep]
  dsimp only
  split_ifs <;> rfl

/-- **Every event keeps the table in step.** -/
theorem tableFollows_step {g : HostAgent UInt8 K C}
    (h : TableFollows ids max_age_us history g.neighbors.table) (ev : NodeEvent K) :
    TableFollows ids max_age_us (history ++ [ev]) (hostStep kind g ev).neighbors.table := by
  cases ev with
  | receive x =>
    show TableFollows ids max_age_us _ (g.neighbors.observe x.host).table
    rw [ReceiveTable.observe_table]
    exact h.receive x
  | control now_s now_us =>
    show TableFollows ids max_age_us _ (g.controlStep kind now_s now_us).neighbors.table
    rw [controlStep_table]
    exact h.control now_s now_us

/-- Behind every history the table has the flags and the times of the last packets. -/
theorem tableFollows_run {g : HostAgent UInt8 K C}
    (h : TableFollows ids max_age_us ([] : List (NodeEvent K)) g.neighbors.table)
    (history : List (NodeEvent K)) :
    TableFollows ids max_age_us history (run (hostStep kind) g history).neighbors.table := by
  induction history using List.reverseRecOn with
  | nil => exact h
  | append_singleton history ev ih =>
    rw [run_concat]
    exact tableFollows_step kind ih ev

end Step

end Host

/-! ### The two rules -/

section Rules

variable {K : Type} [Field K] [LinearOrder K] [FloorRing K]

/-- The age limit of an agent that is given none: three publish periods, in microseconds. -/
def defaultMaxAge (publish_period_s : K) : ℤ :=
  roundHalfEven (3 * publish_period_s * 1000000)

/-- **Nobody has gone silent**: every neighbour whose last packet says that it is enabled was heard
within three publish periods. -/
def NobodySilent (ids : List UInt8) (publish_period_s : K) (history : List (NodeEvent K))
    (now_us : ℤ) : Prop :=
  ∀ nid ∈ ids, ∀ x ∈ lastFrom history nid, x.packet.enabled = true →
    now_us - x.host.rx_time_us ≤ defaultMaxAge publish_period_s

/-- A host agent, built and not yet handed anything. -/
theorem tableFollows_build (lib : Libm K) (rng : ℤ → ℕ → K)
    {a : HostAssignment UInt8 K (ScalarParams K × UniformSource K)}
    {g : HostAgent UInt8 K (FiniteTimeAdaptiveController K)}
    (hbuild : build (scalarKind lib rng) a = some g) (hdefault : a.max_neighbor_age_s = none) :
    TableFollows a.neighbor_ids (defaultMaxAge a.publish_period_s) ([] : List (NodeEvent K))
      g.neighbors.table := by
  have hneighbors := neighbors_of_build hbuild
  have hage : a.resolved_max_age_s = 3 * a.publish_period_s := by
    rw [AgentConfig.resolved_max_age_s, hdefault, Option.getD_none]
  rw [hage] at hneighbors
  rw [hneighbors]
  exact ⟨rfl, rfl, rfl, fun _ _ ↦ rfl⟩

/-- **The participation rules agree exactly while nobody has gone silent.** For every history of
receptions and control instants, and at every control instant behind it, a board and a host agent of
the scalar law couple over the same neighbours exactly if every neighbour that called itself enabled
last did so within three publish periods. -/
theorem participation_agrees_iff [IsStrictOrderedRing K] (lib : Libm K) (rng : ℤ → ℕ → K)
    {a : HostAssignment UInt8 K (ScalarParams K × UniformSource K)}
    {g : HostAgent UInt8 K (FiniteTimeAdaptiveController K)}
    (hbuild : build (scalarKind lib rng) a = some g) (hdefault : a.max_neighbor_age_s = none)
    {s : RunLoops K} (hbegun : Begun a.neighbor_ids s) (history : List (NodeEvent K))
    (now_us : ℤ) :
    coupledOnBoard (run (boardStep lib) s history) =
        coupledOnHost (run (hostStep (scalarKind lib rng)) g history) now_us ↔
      NobodySilent a.neighbor_ids a.publish_period_s history now_us := by
  have hboard := mem_coupledOnBoard (follows_run lib hbegun history)
  have hhost := mem_coupledOnHost
    (tableFollows_run (scalarKind lib rng) (tableFollows_build lib rng hbuild hdefault) history)
    now_us
  constructor
  · intro hsame nid hnid x hx hen
    have hcoupled := (hboard nid).mpr ⟨hnid, x, hx, hen⟩
    rw [hsame] at hcoupled
    obtain ⟨-, y, hy, -, hage⟩ := (hhost nid).mp hcoupled
    cases hx.symm.trans hy
    exact hage
  · intro hheard
    ext nid
    rw [hboard, hhost]
    constructor
    · rintro ⟨hnid, x, hx, hen⟩
      exact ⟨hnid, x, hx, hen, hheard nid hnid x hx hen⟩
    · rintro ⟨hnid, x, hx, hen, -⟩
      exact ⟨hnid, x, hx, hen⟩

end Rules

/-! ### A neighbour that goes silent -/

theorem fits_of_mem_zero : ∀ v ∈ [(0 : ℤ)], FitsI32 v := by decide

/-- A packet of neighbour 1, which says that it is enabled, received at time 0. -/
def sampleReception : SharedReception where
  packet := samplePacket 1 0
  board_rssi := -40
  host :=
    { packet :=
        { node_id := 1
          vstate := [0]
          enabled := true
          coords := Or.inl rfl
          fits := fits_of_mem_zero
          seq := 3
          tx_time_us := 0
          seq_le := Nat.le_of_ble_eq_true rfl }
      rx_time_us := 0
      rssi := none }
  node := rfl
  enabled := rfl

/-- An agent of the scalar law with neighbour 1, publishing every 125 ms. -/
def sampleScalarAssignment : HostAssignment UInt8 ℚ (ScalarParams ℚ × UniformSource ℚ) where
  node_id := 9
  neighbor_ids := [1]
  dt_s := 1 / 40
  publish_period_s := 1 / 8
  enabled := true
  max_neighbor_age_s := none
  controller := (FiniteTimeAdaptiveController.sampleNoisy, .seed 0)

/-- That agent, built. -/
def sampleScalarAgent : Option (HostAgent UInt8 ℚ (FiniteTimeAdaptiveController ℚ)) :=
  build (scalarKind .atZero FiniteTimeAdaptiveController.sampleDraws) sampleScalarAssignment

/-- A board with neighbour 1 at the start of its run. -/
def sampleBegun : RunLoops ℚ :=
  run (RunLoops.step .atZero) (.init quietRadio) (startedRun [1])

/-- Its CONTROL frame and the first turns of its network loop begin the run. -/
theorem sampleBegun_begun : Begun [1] sampleBegun :=
  begun_of_start .atZero (s := run (RunLoops.step .atZero) (.init quietRadio) [networkFrame [1]])
    (by decide +kernel) (by decide +kernel) (by decide +kernel) (by decide +kernel)
    (by decide +kernel) quietEnv (by decide) (by decide) 6000 6000

theorem sampleScalarAgent_isSome : sampleScalarAgent.isSome = true := by decide +kernel

/-- The packet, and control instants up to 100 ms behind it. -/
def sampleHistory : List (NodeEvent ℚ) :=
  [.receive sampleReception, .control (1 / 40) 25000, .control (1 / 20) 50000]

/-- A tenth of a second after the packet, the board and the host agent both couple over neighbour
1. -/
theorem participation_agrees_sample :
    coupledOnBoard (run (boardStep .atZero) sampleBegun sampleHistory) =
      coupledOnHost
        (run (hostStep (scalarKind .atZero FiniteTimeAdaptiveController.sampleDraws))
          (sampleScalarAgent.get sampleScalarAgent_isSome) sampleHistory) 100000 := by
  refine (participation_agrees_iff .atZero FiniteTimeAdaptiveController.sampleDraws
    (a := sampleScalarAssignment) (Option.some_get _).symm rfl sampleBegun_begun sampleHistory
    100000).mpr ?_
  intro nid hnid x hx _
  obtain rfl := List.mem_singleton.mp hnid
  cases hx
  decide +kernel

/-- **A second after it, the board still does and the host agent does not.** -/
theorem silent_neighbour_disagrees :
    coupledOnBoard (run (boardStep .atZero) sampleBegun sampleHistory) ≠
        coupledOnHost
          (run (hostStep (scalarKind .atZero FiniteTimeAdaptiveController.sampleDraws))
            (sampleScalarAgent.get sampleScalarAgent_isSome) sampleHistory) 1000000 ∧
      coupledOnBoard (run (boardStep .atZero) sampleBegun sampleHistory) = {1} := by
  decide +kernel

end VertexTestbed.Conformance
