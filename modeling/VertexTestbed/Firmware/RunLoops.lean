import VertexTestbed.Firmware.Observer
import VertexTestbed.Lib.Runs

/-!
# The run loops

`main.c`: the dynamics loop, the network loop, the frame handler and the Bluetooth receive thread,
as one machine. Each thread is cut where another may come in between: the dynamics loop between its
queue get and the mutex, the network loop between its critical sections. A frame is handled, and an
advertisement received, in one piece.

The history is what the machine is asked about: `log` the accepted receptions with the run they fell
into, `steps` the agents that `discrete_step` was applied to, `reports` the STATE reports sent. A
run is everything from one accepted CONTROL start to the next; the network loop's copy remembers its
own.
-/

namespace VertexTestbed.Firmware

open Runs

/-! ### States and steps -/

/-- Where `dynamics_thread` is: waiting for its tick, or past the queue get with `fresh_data`. -/
inductive DynamicsPhase where
  | idle
  | got (freshData : Bool)
  deriving DecidableEq

/-- Where `network_fetching_thread` is: waiting, or ahead of the named section. -/
inductive NetworkPhase where
  | idle
  | teardown
  | startup
  | copying
  | reporting
  | publishing
  deriving DecidableEq

/-- A STATE report, and what it was written from. -/
structure SentReport (K : Type) where
  run : ℕ
  agent : Agent K
  fresh : Slot → Bool
  payload : Bytes

/-- The board between two segments of its threads. -/
structure RunLoops (K : Type) where
  plane : ControlPlane K
  rx : Reception
  fetched : NeighborInfo
  dynamics : DynamicsPhase
  network : NetworkPhase
  copy : Agent K
  wasRunning : Bool
  publishEvery : ℕ
  tick : ℕ
  run : ℕ
  copyRun : ℕ
  log : List Heard
  steps : List (ℕ × Agent K)
  reports : List (SentReport K)

/-- What happens next. -/
inductive BoardEvent where
  /-- A frame reaches `control_on_frame`. -/
  | frame (e : ControlEnv) (type : UInt8) (payload : Bytes)
  /-- A packet that decodes is received. -/
  | receive (packet : StatePacketType) (rssi : Int8)
  /-- The next segment of the dynamics loop. -/
  | dynamics
  /-- The next segment of the network loop, at an uptime and with what a scan call returns. -/
  | network (uptimeUs : ℤ) (scanErr : ℤ)

/-- `publish_every`, as the start of a run computes it. -/
def publishPeriod (dt_ms clock_ms : ℤ) : ℕ :=
  let n := if 0 < dt_ms then (clock_ms.tdiv dt_ms % 2 ^ 32).toNat else 1
  if n = 0 then 1 else n

namespace RunLoops

variable {K : Type}

/-- The agent. -/
def agent (s : RunLoops K) : Agent K :=
  s.plane.board.agent

/-- The board with another agent. -/
def withAgent (s : RunLoops K) (a : Agent K) : RunLoops K :=
  { s with plane := { s.plane with board := { s.plane.board with agent := a } } }

/-- An advertisement comes in: nothing does while the board is not scanning. -/
def receive (s : RunLoops K) (p : StatePacketType) (rssi : Int8) : RunLoops K :=
  if s.plane.radio.scanning then
    { s with
      rx := onDeviceFound s.rx s.agent.params p rssi
      log :=
        match agentNeighborIndex s.agent.params p.node with
        | some i => s.log ++ [⟨s.run, i, p, rssi⟩]
        | none => s.log }
  else s

/-- `k_msgq_get(..., K_NO_WAIT)`. -/
def dynamicsGet (s : RunLoops K) : RunLoops K :=
  match s.rx.queue with
  | some info =>
    { s with rx := { s.rx with queue := none }, fetched := info, dynamics := .got true }
  | none => { s with dynamics := .got false }

/-- A section of the network loop. -/
def networkStep [Field K] [LinearOrder K] [FloorRing K] (s : RunLoops K) (uptimeUs scanErr : ℤ) :
    RunLoops K :=
  match s.network with
  | .idle =>
    { s with
      network :=
        if !s.agent.params.running then (if s.wasRunning then .teardown else .idle)
        else if s.agent.params.firstTimeRunning then .startup
        else .copying }
  | .teardown =>
    let s' := { s with network := .idle, wasRunning := false }
    -- `observer_stop` gives up, and forgets nothing, where the stack does not stop.
    if s.plane.radio.scanning ∧ scanErr = 0 then
      { s' with
        rx := s.rx.forget
        plane := { s.plane with radio := { s.plane.radio with scanning := false } } }
    else s'
  | .startup =>
    let a := s.agent
    let s' := s.withAgent { a with params := { a.params with firstTimeRunning := false } }
    { s' with
      plane :=
        { s'.plane with
          radio :=
            { s.plane.radio with
              scanning := s.plane.radio.scanning || decide (scanErr = 0) } }
      publishEvery := publishPeriod a.params.dt a.params.clock
      tick := 0
      wasRunning := true
      network := .copying }
  | .copying => { s with copy := s.agent, copyRun := s.run, network := .reporting }
  | .reporting =>
    match reportState s.copy uptimeUs s.rx.fresh with
    | some payload =>
      { s with
        rx := { s.rx with fresh := fun _ ↦ false }
        reports := s.reports ++ [⟨s.copyRun, s.copy, s.rx.fresh, payload⟩]
        network := .publishing }
    | none => { s with network := .publishing }
  | .publishing =>
    let tick := (s.tick + 1) % 2 ^ 32
    if s.publishEvery ≤ tick then
      let a := s.agent
      let s' := { s with tick := 0, network := .idle }
      if a.params.running && a.params.enabled then
        s'.withAgent { a with vars := { a.vars with txSeq := a.vars.txSeq + 1 } }
      else s'
    else { s with tick := tick, network := .idle }

/-- The agent that the step under the mutex hands to `discrete_step`. -/
def stepped (s : RunLoops K) (freshData : Bool) : Agent K :=
  if freshData then absorbNeighbors s.agent s.fetched else s.agent

theorem stepped_neighborsId (s : RunLoops K) (freshData : Bool) :
    (s.stepped freshData).params.neighborsId = s.agent.params.neighborsId := by
  rw [stepped]
  split_ifs
  · exact absorbNeighbors_neighborsId _ _
  · rfl

theorem stepped_nNeighbors (s : RunLoops K) (freshData : Bool) :
    (s.stepped freshData).params.nNeighbors = s.agent.params.nNeighbors := by
  rw [stepped]
  split_ifs
  · exact absorbNeighbors_nNeighbors _ _
  · rfl

section Step

variable [Field K] [LinearOrder K] [IsStrictOrderedRing K] [FloorRing K] (lib : Libm K)

/-- The section of the dynamics loop under the mutex. -/
def dynamicsStep (s : RunLoops K) (freshData : Bool) : RunLoops K :=
  if s.agent.params.running && s.agent.params.enabled then
    { s with
      dynamics := .idle
      steps := s.steps ++ [(s.run, s.stepped freshData)]
      plane :=
        { s.plane with
          board := discreteStep lib { s.plane.board with agent := s.stepped freshData } } }
  else { s with dynamics := .idle }

/-- A frame is handled. -/
def frame (s : RunLoops K) (e : ControlEnv) (type : UInt8) (payload : Bytes) : RunLoops K :=
  { s with
    plane := (controlOnFrame e s.plane type payload).1
    run := if isStart type payload then s.run + 1 else s.run }

/-- The next step of the board. -/
def step (s : RunLoops K) : BoardEvent → RunLoops K
  | .frame e type payload => s.frame e type payload
  | .receive p rssi => s.receive p rssi
  | .dynamics =>
    match s.dynamics with
    | .idle => s.dynamicsGet
    | .got freshData => s.dynamicsStep lib freshData
  | .network uptimeUs scanErr => s.networkStep uptimeUs scanErr

end Step

/-! ### What the loops leave alone -/

/-- The history of receptions and the declared neighbours stay. -/
structure SameNeighbours (s s' : RunLoops K) : Prop where
  log : s'.log = s.log
  run : s'.run = s.run
  ids : s'.agent.params.neighborsId = s.agent.params.neighborsId
  count : s'.agent.params.nNeighbors = s.agent.params.nNeighbors

theorem networkStep_sameNeighbours [Field K] [LinearOrder K] [FloorRing K] (s : RunLoops K)
    (uptimeUs scanErr : ℤ) : SameNeighbours s (s.networkStep uptimeUs scanErr) := by
  rw [networkStep]
  split
  · exact ⟨rfl, rfl, rfl, rfl⟩
  · dsimp only
    split_ifs
    · exact ⟨rfl, rfl, rfl, rfl⟩
    · exact ⟨rfl, rfl, rfl, rfl⟩
  · exact ⟨rfl, rfl, rfl, rfl⟩
  · exact ⟨rfl, rfl, rfl, rfl⟩
  · split
    · exact ⟨rfl, rfl, rfl, rfl⟩
    · exact ⟨rfl, rfl, rfl, rfl⟩
  · dsimp only
    split_ifs
    · exact ⟨rfl, rfl, rfl, rfl⟩
    · exact ⟨rfl, rfl, rfl, rfl⟩
    · exact ⟨rfl, rfl, rfl, rfl⟩

/-- The network loop's copy and the reports: a section leaves both, or copies the agent, or sends
the copy with the fresh mask and clears the mask. -/
inductive NetworkFrame (s s' : RunLoops K) : Prop where
  | quiet (copy : s'.copy = s.copy) (copyRun : s'.copyRun = s.copyRun)
      (fresh : s'.rx.fresh = s.rx.fresh) (reports : s'.reports = s.reports)
  | copied (copy : s'.copy = s.agent) (copyRun : s'.copyRun = s.run)
      (fresh : s'.rx.fresh = s.rx.fresh) (reports : s'.reports = s.reports)
  | sent (payload : Bytes) (copy : s'.copy = s.copy) (copyRun : s'.copyRun = s.copyRun)
      (fresh : s'.rx.fresh = fun _ ↦ false)
      (reports : s'.reports = s.reports ++ [⟨s.copyRun, s.copy, s.rx.fresh, payload⟩])

theorem networkStep_frame [Field K] [LinearOrder K] [FloorRing K] (s : RunLoops K)
    (uptimeUs scanErr : ℤ) :
    NetworkFrame s (s.networkStep uptimeUs scanErr) ∧
      (s.networkStep uptimeUs scanErr).steps = s.steps := by
  rw [networkStep]
  split
  · exact ⟨.quiet rfl rfl rfl rfl, rfl⟩
  · dsimp only
    split_ifs
    · exact ⟨.quiet rfl rfl rfl rfl, rfl⟩
    · exact ⟨.quiet rfl rfl rfl rfl, rfl⟩
  · exact ⟨.quiet rfl rfl rfl rfl, rfl⟩
  · exact ⟨.copied rfl rfl rfl rfl, rfl⟩
  · split
    case h_1 payload _ => exact ⟨.sent payload rfl rfl rfl rfl, rfl⟩
    case h_2 => exact ⟨.quiet rfl rfl rfl rfl, rfl⟩
  · dsimp only
    split_ifs
    · exact ⟨.quiet rfl rfl rfl rfl, rfl⟩
    · exact ⟨.quiet rfl rfl rfl rfl, rfl⟩
    · exact ⟨.quiet rfl rfl rfl rfl, rfl⟩

/-! ### Snapshots in flight -/

/-- Every snapshot that can still reach a control step has the property: the observer's record, the
queued one, the one the dynamics loop has in hand, and the agent's own arrays. -/
structure InFlight (P : NeighborInfo → Prop) (s : RunLoops K) : Prop where
  info : P s.rx.info
  queue : ∀ n, s.rx.queue = some n → P n
  fetched : s.dynamics = .got true → P s.fetched
  agent : P s.agent.received

instance (P : NeighborInfo → Prop) [DecidablePred P] (s : RunLoops K) : Decidable (InFlight P s) :=
  decidable_of_iff
    (P s.rx.info ∧ (∀ n ∈ s.rx.queue, P n) ∧ (s.dynamics = .got true → P s.fetched) ∧
      P s.agent.received)
    ⟨fun ⟨hinfo, hqueue, hfetched, hagent⟩ ↦ ⟨hinfo, hqueue, hfetched, hagent⟩,
      fun h ↦ ⟨h.info, h.queue, h.fetched, h.agent⟩⟩

theorem InFlight.mono {P Q : NeighborInfo → Prop} {s : RunLoops K} (h : InFlight P s)
    (hPQ : ∀ n, P n → Q n) : InFlight Q s :=
  ⟨hPQ _ h.info, fun n hn ↦ hPQ n (h.queue n hn), fun hgot ↦ hPQ _ (h.fetched hgot), hPQ _ h.agent⟩

/-- A section of the network loop moves no snapshot; it forgets some. -/
theorem InFlight.network [Field K] [LinearOrder K] [FloorRing K] {P : NeighborInfo → Prop}
    {s : RunLoops K} (h : InFlight P s) (hzero : P .zero) (uptimeUs scanErr : ℤ) :
    InFlight P (s.networkStep uptimeUs scanErr) := by
  have hkeep : ∀ {s' : RunLoops K}, s'.rx.info = s.rx.info → s'.rx.queue = s.rx.queue →
      s'.dynamics = s.dynamics → s'.fetched = s.fetched →
      s'.agent.received = s.agent.received → InFlight P s' := by
    intro s' hinfo hqueue hdynamics hfetched hagent
    refine ⟨by rw [hinfo]; exact h.info, fun n hn ↦ h.queue n (hqueue.symm.trans hn), fun hgot ↦ ?_,
      by rw [hagent]; exact h.agent⟩
    rw [hfetched]
    exact h.fetched (hdynamics.symm.trans hgot)
  rw [networkStep]
  split
  · exact hkeep rfl rfl rfl rfl rfl
  · dsimp only
    split_ifs
    · exact ⟨hzero, fun n hn ↦ (by cases hn), h.fetched, h.agent⟩
    · exact hkeep rfl rfl rfl rfl rfl
  · exact hkeep rfl rfl rfl rfl rfl
  · exact hkeep rfl rfl rfl rfl rfl
  · split
    · exact hkeep rfl rfl rfl rfl rfl
    · exact hkeep rfl rfl rfl rfl rfl
  · dsimp only
    split_ifs
    · exact hkeep rfl rfl rfl rfl rfl
    · exact hkeep rfl rfl rfl rfl rfl
    · exact hkeep rfl rfl rfl rfl rfl

/-- The queue get hands one snapshot over. -/
theorem InFlight.get {P : NeighborInfo → Prop} {s : RunLoops K} (h : InFlight P s) :
    InFlight P s.dynamicsGet := by
  rw [dynamicsGet]
  split
  case h_1 info hqueue =>
    exact ⟨h.info, fun n hn ↦ (by cases hn), fun _ ↦ h.queue info hqueue, h.agent⟩
  case h_2 => exact ⟨h.info, h.queue, fun hgot ↦ (by cases hgot), h.agent⟩

/-- What a reception files under a slot. -/
theorem InFlight.receive {P : NeighborInfo → Prop} {s : RunLoops K} (h : InFlight P s)
    {p : StatePacketType} {rssi : Int8}
    (hstore : ∀ i, agentNeighborIndex s.agent.params p.node = some i →
      P (s.rx.info.store i p) ∧ P ((s.rx.info.store i p).storeRssi i rssi)) :
    InFlight P (s.receive p rssi) := by
  rw [RunLoops.receive]
  split_ifs
  · rcases hindex : agentNeighborIndex s.agent.params p.node with _ | i
    · refine ⟨?_, ?_, h.fetched, h.agent⟩
      · rw [onDeviceFound, hindex]
        exact h.info
      · rw [onDeviceFound, hindex]
        exact h.queue
    · obtain ⟨hqueued, hrecord⟩ := hstore i hindex
      refine ⟨?_, ?_, h.fetched, h.agent⟩
      · rw [onDeviceFound, hindex]
        exact hrecord
      · rw [onDeviceFound, hindex]
        intro n hn
        cases hn
        exact hqueued
  · exact h

/-- What the step absorbs was in flight. -/
theorem InFlight.stepped {P : NeighborInfo → Prop} {s : RunLoops K} {freshData : Bool}
    (h : InFlight P s) (hgot : s.dynamics = .got freshData)
    (habsorb : ∀ (a : Agent K) info, P a.received → P info → P (absorbNeighbors a info).received) :
    P (s.stepped freshData).received := by
  rw [RunLoops.stepped]
  split_ifs with hfresh
  · subst hfresh
    exact habsorb _ _ h.agent (h.fetched hgot)
  · exact h.agent

section Dynamics

variable [Field K] [LinearOrder K] [IsStrictOrderedRing K] [FloorRing K] (lib : Libm K)

omit [LinearOrder K] [IsStrictOrderedRing K] [FloorRing K] in
/-- A control period writes no neighbour array. -/
theorem discreteStep_received [LinearOrder K] [IsStrictOrderedRing K] [FloorRing K] (b : Board K) :
    (discreteStep lib b).agent.received = b.agent.received := by
  rw [discreteStep]
  split_ifs
  · rfl
  · rfl

theorem dynamicsStep_cases (s : RunLoops K) (freshData : Bool) :
    s.dynamicsStep lib freshData = { s with dynamics := .idle } ∨
      s.dynamicsStep lib freshData =
        { s with
          dynamics := .idle
          steps := s.steps ++ [(s.run, s.stepped freshData)]
          plane :=
            { s.plane with
              board :=
                discreteStep lib { s.plane.board with agent := s.stepped freshData } } } := by
  rw [RunLoops.dynamicsStep]
  split_ifs
  · exact Or.inr rfl
  · exact Or.inl rfl

theorem InFlight.dynamicsStep {P : NeighborInfo → Prop} {s : RunLoops K} {freshData : Bool}
    (h : InFlight P s) (hgot : s.dynamics = .got freshData)
    (habsorb : ∀ (a : Agent K) info, P a.received → P info → P (absorbNeighbors a info).received) :
    InFlight P (s.dynamicsStep lib freshData) := by
  obtain heq | heq := dynamicsStep_cases lib s freshData
  · rw [heq]
    exact ⟨h.info, h.queue, fun hidle ↦ (by cases hidle), h.agent⟩
  · rw [heq]
    refine ⟨h.info, h.queue, fun hidle ↦ (by cases hidle), ?_⟩
    show P (discreteStep lib _).agent.received
    rw [discreteStep_received]
    exact h.stepped hgot habsorb

end Dynamics

/-- Power-up. -/
def init [Field K] (radio : RadioState) : RunLoops K where
  plane := ⟨boardInit K, radio⟩
  rx := .init
  fetched := .zero
  dynamics := .idle
  network := .idle
  copy := agentInit K
  wasRunning := false
  publishEvery := 1
  tick := 0
  run := 0
  copyRun := 0
  log := []
  steps := []
  reports := []

end RunLoops

end VertexTestbed.Firmware
