import VertexTestbed.Host.LinkMonitor
import VertexTestbed.Host.Microgrid

/-!
# The lifecycle of a host agent

`agent/service.py` and `agent/agent.py`, for an agent that computes its law itself: what `configure`
builds, what `start` consumes, and everything in between that changes it. The controller is behind
the seam of `controllers/base.py`, so the lifecycle is that of every registered controller;
`microgridKind` fills the seam with the microgrid family.

An agent is built by `configure` and started by `start`, and `start` renews nothing of it. So a run
begins fresh when nothing has happened to the agent since it was built: `runs_start_fresh`.
-/

namespace VertexTestbed.Host

open Runs

/-! ### The controller seam -/

/-- What an agent asks of a controller class. `A` is what an assignment says of its controller: the
registered name, the parameters and the seed. -/
structure ControllerKind (A C : Type) where
  dim : A → ℕ
  holds_stale_neighbours : A → Bool
  publishes_in_tick : A → Bool
  /-- `create`: `none` where the constructor raises. -/
  create : A → Option C
  /-- `set_params`: the controller it leaves behind, and whether it returned. -/
  set_params : C → A → C × Bool
  step : C → List ℤ → List Bool → C
  step_count : C → ℕ
  /-- A constructor ends in `reset`. -/
  step_count_create : ∀ {a c}, create a = some c → step_count c = 0

/-! ### The agent -/

/-- `AgentConfig`. -/
structure AgentConfig (ι K : Type) where
  node_id : ι
  neighbor_ids : List ι
  dt_s : K
  publish_period_s : K
  enabled : Bool
  max_neighbor_age_s : Option K

/-- `AgentAssignment`: the configuration of the agent, and what it says of the controller. -/
structure HostAssignment (ι K A : Type) extends AgentConfig ι K where
  controller : A

/-- `Agent`. -/
structure HostAgent (ι K C : Type) where
  config : AgentConfig ι K
  controller : C
  publish_in_tick : Bool
  publish_every : ℤ
  ticks : ℕ
  last_tick_s : Option K
  neighbors : ReceiveTable ι
  seq : ℕ
  t0_s : Option K
  /-- Whether the transport is up and hands receptions over. -/
  listening : Bool

section Agent

variable {ι K A C : Type} [Field K] [LinearOrder K] [FloorRing K]

/-- `AgentConfig.resolved_max_age_s`. -/
def AgentConfig.resolved_max_age_s (c : AgentConfig ι K) : K :=
  c.max_neighbor_age_s.getD (3 * c.publish_period_s)

/-- The check of a controller that publishes from inside the control step. -/
def wholeMultiple (ratio : K) : Prop :=
  ¬1 / 1000000000 < |ratio - roundHalfEven ratio| ∧ ¬roundHalfEven ratio < 1

instance (ratio : K) : Decidable (wholeMultiple ratio) :=
  inferInstanceAs (Decidable (_ ∧ _))

/-- `AgentService._build`: `none` where the controller, the agent or the table raises. -/
def build (kind : ControllerKind A C) (a : HostAssignment ι K A) : Option (HostAgent ι K C) := do
  let c ← kind.create a.controller
  let in_tick := kind.publishes_in_tick a.controller
  let ratio := a.publish_period_s / a.dt_s
  if in_tick ∧ ¬wholeMultiple ratio then none
  else if a.resolved_max_age_s ≤ 0 then none
  else
    some
      { config := a.toAgentConfig
        controller := c
        publish_in_tick := in_tick
        publish_every := if in_tick then roundHalfEven ratio else 0
        ticks := 0
        last_tick_s := none
        neighbors :=
          .init a.neighbor_ids (roundHalfEven (a.resolved_max_age_s * 1000000))
            (kind.dim a.controller) (kind.holds_stale_neighbours a.controller) 1024
        seq := 0
        t0_s := none
        listening := false }

/-- `_publish_step`, as far as the agent goes. -/
def HostAgent.publishStep (g : HostAgent ι K C) : HostAgent ι K C :=
  { g with seq := (g.seq + 1) % 65536 }

/-- `_control_step`: the law on a snapshot if the agent is enabled, the publication inside the tick,
and the arrivals read and cleared by the log. -/
def HostAgent.controlStep (kind : ControllerKind A C) (g : HostAgent ι K C) (now_s : K)
    (now_us : ℤ) : HostAgent ι K C :=
  let snapshot := g.neighbors.table.snapshot now_us
  let stepped :=
    { g with
      last_tick_s := some now_s
      controller :=
        if g.config.enabled then kind.step g.controller snapshot.1 snapshot.2 else g.controller }
  let published :=
    if g.publish_in_tick then
      let sent :=
        if ((g.ticks : ℤ) + 1) % g.publish_every = 0 then stepped.publishStep else stepped
      { sent with ticks := g.ticks + 1 }
    else stepped
  { published with neighbors := { published.neighbors with arrived := fun _ ↦ false } }

/-- The agent as it was before its transport came up. -/
def HostAgent.atRest (g : HostAgent ι K C) : HostAgent ι K C :=
  { g with t0_s := none, listening := false }

end Agent

/-! ### The service -/

/-- `AgentService`. `starts` is the history: the assignment in force and the agent at each accepted
start. `untouched` says that nothing has happened to the agent since the configure that built it. -/
structure HostService (ι K A C : Type) where
  assignment : Option (HostAssignment ι K A)
  agent : Option (HostAgent ι K C)
  running : Bool
  untouched : Bool
  starts : List (HostAssignment ι K A × HostAgent ι K C)

/-- A command, or something that happens to a running agent. The flags say whether the transport
could be made, started and stopped, and the log opened. -/
inductive HostEvent (ι K A : Type) where
  | configure (a : HostAssignment ι K A) (made : Bool)
  | start (now_s : K) (opened : Bool)
  | stop (closed : Bool)
  | tick (now_s : K) (now_us : ℤ)
  | publish
  | receive (r : Reception ι)

namespace HostService

variable {ι K A C : Type} [DecidableEq ι] [Field K] [LinearOrder K] [FloorRing K]

omit [DecidableEq ι] [Field K] [LinearOrder K] [FloorRing K] in
/-- Launched, and idle. -/
def init : HostService ι K A C := ⟨none, none, false, false, []⟩

omit [DecidableEq ι] in
/-- `_configure`: a running agent is updated in place, else a new one is built. The assignment is
stored before the agent is built. -/
def configure (kind : ControllerKind A C) (s : HostService ι K A C) (a : HostAssignment ι K A)
    (made : Bool) : HostService ι K A C :=
  match s.running, s.agent with
  | true, some g =>
    let r := kind.set_params g.controller a.controller
    if r.2 then
      { s with
        assignment := some a
        agent := some { g with controller := r.1, config := a.toAgentConfig }
        untouched := false }
    else { s with agent := some { g with controller := r.1 }, untouched := false }
  | _, _ =>
    match if made then build kind a else none with
    | some g => { s with assignment := some a, agent := some g, untouched := true }
    | none => { s with assignment := some a, untouched := false }

omit [DecidableEq ι] [Field K] [LinearOrder K] [FloorRing K] in
/-- `_start`: accepted when configured and idle. Nothing of the agent is renewed. -/
def start (s : HostService ι K A C) (now_s : K) (opened : Bool) : HostService ι K A C :=
  match s.assignment, s.agent with
  | some a, some g =>
    if s.running ∨ ¬opened then s
    else
      let g' := { g with t0_s := some now_s, listening := true }
      { s with agent := some g', running := true, starts := s.starts ++ [(a, g')] }
  | _, _ => s

omit [DecidableEq ι] [Field K] [LinearOrder K] [FloorRing K] in
/-- `_stop` and `_halt`: the loops end, and the transport comes down if it can. -/
def stop (s : HostService ι K A C) (closed : Bool) : HostService ι K A C :=
  if s.running then
    { s with
      running := false
      agent := s.agent.map fun g ↦ { g with listening := g.listening && !closed } }
  else s

omit [DecidableEq ι] [Field K] [LinearOrder K] [FloorRing K] in
/-- Something happened to the agent. -/
def touch (s : HostService ι K A C) (g : HostAgent ι K C) : HostService ι K A C :=
  { s with agent := some g, untouched := false }

/-- The next event. -/
def step (kind : ControllerKind A C) (s : HostService ι K A C) :
    HostEvent ι K A → HostService ι K A C
  | .configure a made => s.configure kind a made
  | .start now_s opened => s.start now_s opened
  | .stop closed => s.stop closed
  | .tick now_s now_us =>
    match s.agent with
    | some g => if s.running then s.touch (g.controlStep kind now_s now_us) else s
    | none => s
  | .publish =>
    match s.agent with
    | some g => if s.running ∧ ¬g.publish_in_tick then s.touch g.publishStep else s
    | none => s
  | .receive r =>
    match s.agent with
    | some g =>
      if g.listening then s.touch { g with neighbors := g.neighbors.observe r } else s
    | none => s

/-! ### What is asked -/

end HostService

/-- **A fresh start**: the agent is the one that the assignment in force builds, with the controller
at its initial conditions, nothing counted and nobody heard. -/
structure FreshStart {ι K A C : Type} [Field K] [LinearOrder K] [FloorRing K]
    (kind : ControllerKind A C) (a : HostAssignment ι K A) (g : HostAgent ι K C) : Prop where
  built : build kind a = some g.atRest
  controller : kind.create a.controller = some g.controller
  step_count : kind.step_count g.controller = 0
  config : g.config = a.toAgentConfig
  ticks : g.ticks = 0
  seq : g.seq = 0
  records : ∀ nid, g.neighbors.records nid = none
  arrived : ∀ nid, g.neighbors.arrived nid = false
  stats : ∀ nid, g.neighbors.monitor.stats nid = none ∧ g.neighbors.monitor.last_seq nid = none

/-- **Every run starts fresh**, and two runs under one assignment start with the same agent. -/
structure HostService.StartsFresh {ι K A C : Type} [Field K] [LinearOrder K] [FloorRing K]
    (kind : ControllerKind A C) (s : HostService ι K A C) : Prop where
  fresh : ∀ x ∈ s.starts, FreshStart kind x.1 x.2
  same : ∀ x ∈ s.starts, ∀ y ∈ s.starts, x.1 = y.1 → x.2.atRest = y.2.atRest

section Fresh

variable {ι K A C : Type} [Field K] [LinearOrder K] [FloorRing K] {kind : ControllerKind A C}
  {a : HostAssignment ι K A} {g : HostAgent ι K C}

/-- What is built has no transport yet. -/
theorem atRest_of_build (h : build kind a = some g) : g.atRest = g := by
  rw [build] at h
  rcases hcreate : kind.create a.controller with _ | c
  · rw [hcreate] at h
    cases h
  · rw [hcreate] at h
    dsimp only [Option.bind_eq_bind, Option.bind_some] at h
    split_ifs at h
    all_goals
      rw [← Option.some.inj h]
      rfl

/-- The table of an agent that is built: nobody heard. -/
theorem neighbors_of_build (h : build kind a = some g) :
    g.neighbors =
      .init a.neighbor_ids (roundHalfEven (a.resolved_max_age_s * 1000000)) (kind.dim a.controller)
        (kind.holds_stale_neighbours a.controller) 1024 := by
  rw [build] at h
  rcases hcreate : kind.create a.controller with _ | c
  · rw [hcreate] at h
    cases h
  · rw [hcreate] at h
    dsimp only [Option.bind_eq_bind, Option.bind_some] at h
    split_ifs at h
    all_goals
      rw [← Option.some.inj h]

/-- What is built is fresh. -/
theorem freshStart_of_built (h : build kind a = some g.atRest) : FreshStart kind a g := by
  have hbuilt := h
  have hneighbors : g.atRest.neighbors = _ := neighbors_of_build h
  have hrest : g.atRest.neighbors = g.neighbors := rfl
  rw [hrest] at hneighbors
  rw [build] at h
  rcases hcreate : kind.create a.controller with _ | c
  · rw [hcreate] at h
    cases h
  · rw [hcreate] at h
    dsimp only [Option.bind_eq_bind, Option.bind_some] at h
    split_ifs at h
    all_goals
      have hagent := Option.some.inj h
      have hctrl : c = g.controller := congrArg HostAgent.controller hagent
      refine ⟨hbuilt, by rw [hcreate, hctrl], ?_, (congrArg HostAgent.config hagent).symm,
        (congrArg HostAgent.ticks hagent).symm, (congrArg HostAgent.seq hagent).symm,
        fun nid ↦ ?_, fun nid ↦ ?_, fun nid ↦ ?_⟩
      · rw [← hctrl]
        exact kind.step_count_create hcreate
      · rw [hneighbors]
        rfl
      · rw [hneighbors]
        rfl
      · rw [hneighbors]
        exact ⟨rfl, rfl⟩

end Fresh

namespace HostService

variable {ι K A C : Type} [DecidableEq ι] [Field K] [LinearOrder K] [FloorRing K]
  {kind : ControllerKind A C}

/-- **A start finds the agent untouched**: since the configure that built it, the latest one, there
was no control step, no separate publication and no reception. -/
def StartsUntouched (s : HostService ι K A C) : HostEvent ι K A → Prop
  | .start _ opened =>
    s.assignment.isSome ∧ s.agent.isSome → ¬s.running → opened → s.untouched = true
  | _ => True

omit [DecidableEq ι] [Field K] [LinearOrder K] [FloorRing K] in
instance (s : HostService ι K A C) (ev : HostEvent ι K A) : Decidable (s.StartsUntouched ev) := by
  cases ev with
  | start now_s opened => exact inferInstanceAs (Decidable (_ → _ → _ → _))
  | configure a made => exact .isTrue trivial
  | stop closed => exact .isTrue trivial
  | tick now_s now_us => exact .isTrue trivial
  | publish => exact .isTrue trivial
  | receive r => exact .isTrue trivial

/-! ### The invariant -/

/-- An untouched agent is the one that the assignment in force builds; and so was every agent that a
run started with. -/
structure Renewed (kind : ControllerKind A C) (s : HostService ι K A C) : Prop where
  untouched : s.untouched = true → ∃ a g, s.assignment = some a ∧ s.agent = some g ∧
    build kind a = some g.atRest
  starts : ∀ x ∈ s.starts, build kind x.1 = some x.2.atRest

omit [DecidableEq ι] in
/-- A configure of a running agent touches it; of an idle one it builds, or leaves nothing to
start. -/
theorem renewed_configure {s : HostService ι K A C} (h : s.Renewed kind)
    (a : HostAssignment ι K A) (made : Bool) : (s.configure kind a made).Renewed kind := by
  have hidle : ∀ o, (if made then build kind a else none) = o →
      Renewed kind (match o with
        | some g => { s with assignment := some a, agent := some g, untouched := true }
        | none => { s with assignment := some a, untouched := false }) := by
    intro o ho
    rcases o with _ | g
    · exact ⟨fun htrue ↦ (by cases htrue), h.starts⟩
    · refine ⟨fun _ ↦ ⟨a, g, rfl, rfl, ?_⟩, h.starts⟩
      cases made with
      | true => rwa [atRest_of_build ho]
      | false => cases ho
  rw [configure]
  split
  case h_1 g _ _ =>
    dsimp only
    split_ifs
    · exact ⟨fun htrue ↦ (by cases htrue), h.starts⟩
    · exact ⟨fun htrue ↦ (by cases htrue), h.starts⟩
  case h_2 => exact hidle _ rfl

omit [DecidableEq ι] in
/-- A start adds the agent as it is. -/
theorem renewed_start {s : HostService ι K A C} (h : s.Renewed kind) {now_s : K} {opened : Bool}
    (hok : s.StartsUntouched (.start now_s opened)) : (s.start now_s opened).Renewed kind := by
  rw [start]
  split
  case h_1 a g ha hg =>
    split_ifs with hrefused
    · exact h
    · rw [not_or, not_not] at hrefused
      obtain ⟨hrunning, hopened⟩ := hrefused
      have huntouched := hok (by rw [ha, hg]; exact ⟨rfl, rfl⟩) hrunning hopened
      obtain ⟨a', g', ha', hg', hbuilt⟩ := h.untouched huntouched
      obtain rfl := Option.some.inj (ha.symm.trans ha')
      obtain rfl := Option.some.inj (hg.symm.trans hg')
      refine ⟨fun _ ↦ ⟨a, _, ha, rfl, hbuilt⟩, fun x hx ↦ ?_⟩
      obtain hx | hx := List.mem_append.mp hx
      · exact h.starts x hx
      · obtain rfl := List.mem_singleton.mp hx
        exact hbuilt
  case h_2 => exact h

omit [DecidableEq ι] in
theorem renewed_stop {s : HostService ι K A C} (h : s.Renewed kind) (closed : Bool) :
    (s.stop closed).Renewed kind := by
  rw [stop]
  split_ifs
  · refine ⟨fun huntouched ↦ ?_, h.starts⟩
    obtain ⟨a, g, ha, hg, hbuilt⟩ := h.untouched huntouched
    exact ⟨a, { g with listening := g.listening && !closed }, ha, by
      show s.agent.map _ = _
      rw [hg]
      rfl, hbuilt⟩
  · exact h

omit [DecidableEq ι] [FloorRing K] in
theorem renewed_touch [FloorRing K] {s : HostService ι K A C} (h : s.Renewed kind)
    (g : HostAgent ι K C) : (s.touch g).Renewed kind :=
  ⟨fun htrue ↦ (by cases htrue), h.starts⟩

theorem renewed_step {s : HostService ι K A C} {ev : HostEvent ι K A} (h : s.Renewed kind)
    (hok : s.StartsUntouched ev) : (s.step kind ev).Renewed kind := by
  cases ev with
  | configure a made => exact renewed_configure h a made
  | start now_s opened => exact renewed_start h hok
  | stop closed => exact renewed_stop h closed
  | tick now_s now_us =>
    rw [step]
    split
    · split_ifs
      · exact renewed_touch h _
      · exact h
    · exact h
  | publish =>
    rw [step]
    split
    · split_ifs
      · exact renewed_touch h _
      · exact h
    · exact h
  | receive r =>
    rw [step]
    split
    · split_ifs
      · exact renewed_touch h _
      · exact h
    · exact h

omit [DecidableEq ι] in
theorem Renewed.startsFresh {s : HostService ι K A C} (h : s.Renewed kind) :
    s.StartsFresh kind := by
  refine ⟨fun x hx ↦ freshStart_of_built (h.starts x hx), fun x hx y hy hsame ↦ ?_⟩
  have hx := h.starts x hx
  have hy := h.starts y hy
  rw [hsame, hy] at hx
  exact (Option.some.inj hx).symm

end HostService

/-- **Every run on a host agent starts fresh**, in every command history whose accepted starts find
the agent untouched since it was built. -/
theorem runs_start_fresh {ι K A C : Type} [DecidableEq ι] [Field K] [LinearOrder K] [FloorRing K]
    (kind : ControllerKind A C) {events : List (HostEvent ι K A)}
    (h : Guarded (HostService.step kind) HostService.StartsUntouched .init events) (n : ℕ) :
    (run (HostService.step kind) .init (events.take n)).StartsFresh kind :=
  (h.invariant_prefix (P := HostService.Renewed kind)
    (fun _ _ hs hok ↦ HostService.renewed_step hs hok)
    ⟨fun htrue ↦ (by cases htrue), fun _ hx ↦ absurd hx List.not_mem_nil⟩ n).startsFresh

/-! ### Two starts after one configure -/

/-- The seam, filled with the microgrid family. `set_params` replaces the parameters and keeps the
integrators. -/
def microgridKind (lib : Libm ℚ) : ControllerKind (ControllerParams ℚ) (MicrogridController ℚ) where
  dim := fun _ ↦ 2
  holds_stale_neighbours := fun _ ↦ true
  publishes_in_tick := fun _ ↦ true
  create := fun p ↦ some (.init p)
  set_params := fun c p ↦ ({ c with params := p }, true)
  step := fun c vs _ ↦ c.tick lib vs
  step_count := MicrogridController.stepCount
  step_count_create := by
    rintro p c hcreate
    obtain rfl := Option.some.inj hcreate
    rfl

/-- An agent with one neighbour that publishes every fifth tick. -/
def sampleHostAssignment : HostAssignment ℕ ℚ (ControllerParams ℚ) where
  node_id := 9
  neighbor_ids := [1]
  dt_s := 1 / 40
  publish_period_s := 1 / 8
  enabled := true
  max_neighbor_age_s := none
  controller := sampleParams (.adaptive sampleAdaptive)

/-- Two starts of one tick each, with something in between. -/
def twoStarts (between : List (HostEvent ℕ ℚ (ControllerParams ℚ))) :
    List (HostEvent ℕ ℚ (ControllerParams ℚ)) :=
  [.configure sampleHostAssignment true, .start 0 true, .tick 1 1, .stop true] ++ between ++
    [.start 2 true]

/-- With a configure in between, both runs start fresh. -/
theorem runs_start_fresh_reconfigured :
    (run (HostService.step (microgridKind .atZero)) .init
        ((twoStarts [.configure sampleHostAssignment true]).take 6)).StartsFresh
        (microgridKind .atZero) ∧
      (run (HostService.step (microgridKind .atZero)) .init
        (twoStarts [.configure sampleHostAssignment true])).starts.length = 2 :=
  ⟨runs_start_fresh (microgridKind .atZero) (by decide +kernel) 6, by decide +kernel⟩

/-- **Without one, the second run goes on where the first stopped.** -/
theorem second_start_not_fresh :
    ¬(run (HostService.step (microgridKind .atZero)) .init (twoStarts [])).StartsFresh
      (microgridKind .atZero) := by
  intro h
  have hstale : ∃ x ∈ (run (HostService.step (microgridKind .atZero)) .init (twoStarts [])).starts,
      x.2.controller.stepCount = 1 := by decide +kernel
  obtain ⟨x, hx, hcount⟩ := hstale
  have hzero : x.2.controller.stepCount = 0 := (h.fresh x hx).step_count
  omega

end VertexTestbed.Host
