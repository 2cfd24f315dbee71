import VertexTestbed.Host.AgentService

/-!
# A live configure against a fresh start

What an assignment puts in force is taken over at three different times. The agent is built with its
neighbour table, the age limit of the table and the publish divider; the loops of a run take their
periods, and the log its neighbour columns, at the start. A configure of a running agent replaces
the parameters of the controller and the configuration record, and nothing of these.

`InForce` collects them. The reference for what a live configure should leave in force is the code's
own fresh path: a new service, the same assignment, a start. `takes_full_effect_iff` says which
assignments have the same in force on both.
-/

namespace VertexTestbed.Host

open Runs

/-- What a run captures where it starts: the configuration its loops read their periods from, and
the neighbours its log names. -/
structure CapturedAtStart (ι K : Type) where
  config : AgentConfig ι K
  columns : List ι

/-- The service with the assignment that its agent was built from, and with what the run in progress
captured. -/
structure LiveService (ι K A C : Type) where
  service : HostService ι K A C
  built : Option (HostAssignment ι K A)
  started : Option (CapturedAtStart ι K)

/-- What is in force in a run. -/
structure InForce (ι K : Type) where
  /-- The senders whose packets the table takes, and the law couples to. -/
  accepted : Finset ι
  max_neighbor_age_us : ℤ
  control_period_s : K
  publish_period_s : K
  neighbor_columns : List ι
  deriving DecidableEq

namespace LiveService

variable {ι K A C : Type} [DecidableEq ι] [Field K] [LinearOrder K] [FloorRing K]

/-- Launched, and idle. -/
def init : LiveService ι K A C := ⟨.init, none, none⟩

/-- What a configure leaves as the assignment the agent was built from. -/
def builtAfter (kind : ControllerKind A C) (s : LiveService ι K A C) :
    HostEvent ι K A → Option (HostAssignment ι K A)
  | .configure a made =>
    if s.service.running ∧ s.service.agent.isSome then s.built
    else if made && (build kind a).isSome then some a
    else s.built
  | _ => s.built

/-- What a start captures. -/
def startedAfter (s : LiveService ι K A C) : HostEvent ι K A → Option (CapturedAtStart ι K)
  | .start _ opened =>
    match s.service.assignment, s.service.agent with
    | some a, some g =>
      if s.service.running ∨ ¬opened then s.started else some ⟨g.config, a.neighbor_ids⟩
    | _, _ => s.started
  | _ => s.started

/-- The next event. -/
def step (kind : ControllerKind A C) (s : LiveService ι K A C) (ev : HostEvent ι K A) :
    LiveService ι K A C where
  service := s.service.step kind ev
  built := s.builtAfter kind ev
  started := s.startedAfter ev

/-- What is in force: the table and the divider are the agent's, the periods and the columns those
of the start. -/
def inForce (s : LiveService ι K A C) : Option (InForce ι K) := do
  let g ← s.service.agent
  let c ← s.started
  return {
    accepted := g.neighbors.neighbor_ids.toFinset
    max_neighbor_age_us := g.neighbors.max_age_us
    control_period_s := c.config.dt_s
    publish_period_s :=
      if g.publish_in_tick then g.publish_every * c.config.dt_s else c.config.publish_period_s
    neighbor_columns := c.columns }

/-- A fresh agent under an assignment, started: nothing where it cannot be built. -/
def fresh (kind : ControllerKind A C) (a : HostAssignment ι K A) : LiveService ι K A C :=
  run (step kind) init [.configure a true, .start 0 true]

/-- **The configure takes full effect**: what it leaves in force is what a fresh agent built from
the assignment has in force. -/
def TakesFullEffect (kind : ControllerKind A C) (s : LiveService ι K A C)
    (a : HostAssignment ι K A) (made : Bool) : Prop :=
  (s.step kind (.configure a made)).inForce = (fresh kind a).inForce

end LiveService

section Periods

variable {ι K A C : Type} [Field K] [LinearOrder K] [FloorRing K]

/-- The age limit of a table, in microseconds. -/
def HostAssignment.max_age_us (a : HostAssignment ι K A) : ℤ :=
  roundHalfEven (a.resolved_max_age_s * 1000000)

/-- The publish period of an agent built from an assignment, in a run whose loops took their periods
from a configuration. -/
def HostAssignment.publishPeriod (kind : ControllerKind A C) (b : HostAssignment ι K A)
    (config : AgentConfig ι K) : K :=
  if kind.publishes_in_tick b.controller then
    (roundHalfEven (b.publish_period_s / b.dt_s) : ℤ) * config.dt_s
  else config.publish_period_s

end Periods

/-- **The assignment keeps what is captured**: it can be built, and asks for the neighbours, the age
limit, the periods and the columns that the run has. -/
structure KeepsCaptured {ι K A C : Type} [DecidableEq ι] [Field K] [LinearOrder K] [FloorRing K]
    (kind : ControllerKind A C) (b : HostAssignment ι K A) (c : CapturedAtStart ι K)
    (a : HostAssignment ι K A) : Prop where
  builds : (build kind a).isSome = true
  neighbors : b.neighbor_ids.toFinset = a.neighbor_ids.toFinset
  max_age_us : b.max_age_us = a.max_age_us
  dt_s : c.config.dt_s = a.dt_s
  publish_period : b.publishPeriod kind c.config = a.publishPeriod kind a.toAgentConfig
  columns : c.columns = a.neighbor_ids

instance {ι K A C : Type} [DecidableEq ι] [Field K] [LinearOrder K] [FloorRing K]
    (kind : ControllerKind A C) (b : HostAssignment ι K A) (c : CapturedAtStart ι K)
    (a : HostAssignment ι K A) : Decidable (KeepsCaptured kind b c a) :=
  decidable_of_iff
    ((build kind a).isSome = true ∧ b.neighbor_ids.toFinset = a.neighbor_ids.toFinset ∧
      b.max_age_us = a.max_age_us ∧ c.config.dt_s = a.dt_s ∧
      b.publishPeriod kind c.config = a.publishPeriod kind a.toAgentConfig ∧
      c.columns = a.neighbor_ids)
    ⟨fun ⟨hbuilds, hneighbors, hage, hdt, hpublish, hcolumns⟩ ↦
      ⟨hbuilds, hneighbors, hage, hdt, hpublish, hcolumns⟩,
      fun h ↦ ⟨h.builds, h.neighbors, h.max_age_us, h.dt_s, h.publish_period, h.columns⟩⟩

/-! ### What an agent keeps of the assignment it was built from -/

section Built

variable {ι K A C : Type} [Field K] [LinearOrder K] [FloorRing K]

/-- The table and the publish divider of the agent are those of the assignment. -/
structure BuiltFrom (kind : ControllerKind A C) (b : HostAssignment ι K A) (g : HostAgent ι K C) :
    Prop where
  neighbor_ids : g.neighbors.neighbor_ids = b.neighbor_ids
  max_age_us : g.neighbors.max_age_us = b.max_age_us
  publish_in_tick : g.publish_in_tick = kind.publishes_in_tick b.controller
  publish_every :
    g.publish_every =
      if kind.publishes_in_tick b.controller then roundHalfEven (b.publish_period_s / b.dt_s) else 0

variable {kind : ControllerKind A C} {b : HostAssignment ι K A} {g g' : HostAgent ι K C}

/-- `_build`. -/
theorem builtFrom_of_build (h : build kind b = some g) :
    BuiltFrom kind b g ∧ g.config = b.toAgentConfig := by
  rw [build] at h
  rcases hcreate : kind.create b.controller with _ | c
  · rw [hcreate] at h
    cases h
  · rw [hcreate] at h
    dsimp only [Option.bind_eq_bind, Option.bind_some] at h
    split_ifs at h with hwhole hage hmode
    · obtain rfl := Option.some.inj h
      exact ⟨⟨rfl, rfl, rfl, by rw [if_pos hmode]⟩, rfl⟩
    · obtain rfl := Option.some.inj h
      exact ⟨⟨rfl, rfl, rfl, by rw [if_neg hmode]⟩, rfl⟩

/-- An agent that has its table and its divider from another keeps what that one was built from. -/
theorem BuiltFrom.keep (h : BuiltFrom kind b g)
    (hids : g'.neighbors.neighbor_ids = g.neighbors.neighbor_ids)
    (hage : g'.neighbors.max_age_us = g.neighbors.max_age_us)
    (htick : g'.publish_in_tick = g.publish_in_tick) (hevery : g'.publish_every = g.publish_every) :
    BuiltFrom kind b g' :=
  ⟨hids.trans h.neighbor_ids, hage.trans h.max_age_us, htick.trans h.publish_in_tick,
    hevery.trans h.publish_every⟩

/-- A control step keeps what an agent was built from. -/
theorem BuiltFrom.controlStep (h : BuiltFrom kind b g) (now_s : K) (now_us : ℤ) :
    BuiltFrom kind b (g.controlStep kind now_s now_us) := by
  rw [HostAgent.controlStep]
  dsimp only
  split_ifs
  all_goals exact h.keep rfl rfl rfl rfl

/-- So does a reception. -/
theorem BuiltFrom.observe [DecidableEq ι] (h : BuiltFrom kind b g) (r : Reception ι) :
    BuiltFrom kind b { g with neighbors := g.neighbors.observe r } := by
  rw [ReceiveTable.observe]
  split_ifs
  · exact h.keep rfl rfl rfl rfl
  · exact h.keep rfl rfl rfl rfl

/-- The publish period that the divider gives. -/
theorem BuiltFrom.publishPeriod (h : BuiltFrom kind b g) (config : AgentConfig ι K) :
    (if g.publish_in_tick then g.publish_every * config.dt_s else config.publish_period_s) =
      b.publishPeriod kind config := by
  rw [HostAssignment.publishPeriod, h.publish_in_tick, h.publish_every]
  split_ifs
  · rfl
  · rfl

end Built

namespace LiveService

variable {ι K A C : Type} [DecidableEq ι] [Field K] [LinearOrder K] [FloorRing K]
  {kind : ControllerKind A C} {s : LiveService ι K A C}

/-! ### The invariant -/

/-- The agent is the one that the recorded assignment builds, up to what its run has done to it, and
a run in progress has captured its configuration. -/
structure Recorded (kind : ControllerKind A C) (s : LiveService ι K A C) : Prop where
  built : ∀ g, s.service.agent = some g → ∃ b, s.built = some b ∧ BuiltFrom kind b g
  started : s.service.running = true → s.service.agent.isSome = true ∧ s.started.isSome = true

omit [DecidableEq ι] in
/-- Something happens to the agent that leaves its table and its divider. -/
theorem Recorded.touch (h : s.Recorded kind) {g g' : HostAgent ι K C}
    (hagent : s.service.agent = some g)
    (hkeep : ∀ b, BuiltFrom kind b g → BuiltFrom kind b g') :
    (⟨s.service.touch g', s.built, s.started⟩ : LiveService ι K A C).Recorded kind where
  built := by
    intro g'' hg''
    obtain rfl := Option.some.inj hg''
    obtain ⟨b, hb, hbuilt⟩ := h.built g hagent
    exact ⟨b, hb, hkeep b hbuilt⟩
  started hrunning := ⟨rfl, (h.started hrunning).2⟩

omit [DecidableEq ι] in
/-- Configuring a running agent changes its parameters, and nothing else of it. -/
theorem configure_live {s : HostService ι K A C} {g : HostAgent ι K C} (a : HostAssignment ι K A)
    (made : Bool) (hrunning : s.running = true) (hagent : s.agent = some g) :
    s.configure kind a made =
      if (kind.set_params g.controller a.controller).2 then
        { s with
          assignment := some a
          agent :=
            some
              { g with
                controller := (kind.set_params g.controller a.controller).1
                config := a.toAgentConfig }
          untouched := false }
      else
        { s with
          agent := some { g with controller := (kind.set_params g.controller a.controller).1 }
          untouched := false } := by
  rw [HostService.configure, hrunning, hagent]

omit [DecidableEq ι] in
/-- Configuring an idle one builds another. -/
theorem configure_idle {s : HostService ι K A C} (a : HostAssignment ι K A) (made : Bool)
    (hidle : ¬(s.running = true ∧ s.agent.isSome = true)) :
    s.configure kind a made =
      match if made then build kind a else none with
      | some g => { s with assignment := some a, agent := some g, untouched := true }
      | none => { s with assignment := some a, untouched := false } := by
  rw [HostService.configure]
  split
  case h_1 g hrunning hagent => exact absurd ⟨hrunning, by rw [hagent]; rfl⟩ hidle
  case h_2 => rfl

/-- A configure keeps the record of the assignment. -/
theorem recorded_configure (h : s.Recorded kind) (a : HostAssignment ι K A) (made : Bool) :
    (s.step kind (.configure a made)).Recorded kind := by
  show Recorded kind
    ⟨s.service.configure kind a made, s.builtAfter kind (.configure a made), s.started⟩
  rw [builtAfter]
  split_ifs with hlive hmade
  · obtain ⟨hrunning, hsome⟩ := hlive
    obtain ⟨g, hagent⟩ := Option.isSome_iff_exists.mp hsome
    obtain ⟨b, hb, hbuilt⟩ := h.built g hagent
    have hstarted := (h.started hrunning).2
    rw [configure_live a made hrunning hagent]
    split_ifs
    · refine ⟨fun g' hg' ↦ ⟨b, hb, ?_⟩, fun _ ↦ ⟨rfl, hstarted⟩⟩
      obtain rfl := Option.some.inj hg'
      exact hbuilt.keep rfl rfl rfl rfl
    · refine ⟨fun g' hg' ↦ ⟨b, hb, ?_⟩, fun _ ↦ ⟨rfl, hstarted⟩⟩
      obtain rfl := Option.some.inj hg'
      exact hbuilt.keep rfl rfl rfl rfl
  · -- a new agent
    obtain ⟨rfl, hbuilds⟩ := (Bool.and_eq_true _ _).mp hmade
    obtain ⟨g, hbuild⟩ := Option.isSome_iff_exists.mp hbuilds
    have hidle := fun hrunning ↦ hlive ⟨hrunning, (h.started hrunning).1⟩
    rw [configure_idle a true hlive, if_pos rfl, hbuild]
    refine ⟨fun g' hg' ↦ ⟨a, rfl, ?_⟩, fun hrunning ↦ absurd hrunning hidle⟩
    obtain rfl := Option.some.inj hg'
    exact (builtFrom_of_build hbuild).1
  · -- no agent could be built, and the one there was stays
    have hidle := fun hrunning ↦ hlive ⟨hrunning, (h.started hrunning).1⟩
    have hnone : (if made then build kind a else none) = none := by
      cases made with
      | false => rfl
      | true => simpa using hmade
    rw [configure_idle a made hlive, hnone]
    exact ⟨h.built, fun hrunning ↦ absurd hrunning hidle⟩

/-- So does a start. -/
theorem recorded_start (h : s.Recorded kind) (now_s : K) (opened : Bool) :
    (s.step kind (.start now_s opened)).Recorded kind := by
  show Recorded kind
    ⟨s.service.start now_s opened, s.built, s.startedAfter (.start now_s opened)⟩
  rw [HostService.start, startedAfter]
  rcases hassignment : s.service.assignment with _ | a
  · exact ⟨h.built, h.started⟩
  rcases hagent : s.service.agent with _ | g
  · exact ⟨h.built, h.started⟩
  dsimp only
  split_ifs
  · exact ⟨h.built, h.started⟩
  · refine ⟨fun g' hg' ↦ ?_, fun _ ↦ ⟨rfl, rfl⟩⟩
    obtain rfl := Option.some.inj hg'
    obtain ⟨b, hb, hbuilt⟩ := h.built g hagent
    exact ⟨b, hb, hbuilt.keep rfl rfl rfl rfl⟩

/-- So does a stop. -/
theorem recorded_stop (h : s.Recorded kind) (closed : Bool) :
    (s.step kind (.stop closed)).Recorded kind := by
  show Recorded kind ⟨s.service.stop closed, s.built, s.started⟩
  rw [HostService.stop]
  split_ifs
  · refine ⟨fun g' hg' ↦ ?_, fun hrunning ↦ (by cases hrunning)⟩
    obtain ⟨g, hagent, rfl⟩ := Option.map_eq_some_iff.mp hg'
    obtain ⟨b, hb, hbuilt⟩ := h.built g hagent
    exact ⟨b, hb, hbuilt.keep rfl rfl rfl rfl⟩
  · exact ⟨h.built, h.started⟩

/-- So does every event. -/
theorem recorded_step (h : s.Recorded kind) (ev : HostEvent ι K A) :
    (s.step kind ev).Recorded kind := by
  cases ev with
  | configure a made => exact recorded_configure h a made
  | start now_s opened => exact recorded_start h now_s opened
  | stop closed => exact recorded_stop h closed
  | tick now_s now_us =>
    rw [step, HostService.step]
    split
    case h_1 g hagent =>
      split_ifs
      · exact h.touch hagent fun b hb ↦ hb.controlStep now_s now_us
      · exact h
    case h_2 => exact h
  | publish =>
    rw [step, HostService.step]
    split
    case h_1 g hagent =>
      split_ifs
      · exact h.touch hagent fun b hb ↦ hb.keep rfl rfl rfl rfl
      · exact h
    case h_2 => exact h
  | receive r =>
    rw [step, HostService.step]
    split
    case h_1 g hagent =>
      split_ifs
      · exact h.touch hagent fun b hb ↦ hb.observe r
      · exact h
    case h_2 => exact h

/-- **The record of the assignment holds along every run.** -/
theorem recorded_run (kind : ControllerKind A C) (events : List (HostEvent ι K A)) :
    (run (step kind) (init : LiveService ι K A C) events).Recorded kind := by
  refine run_invariant (P := Recorded kind) (step kind) (fun _ ev h ↦ recorded_step h ev) ?_ events
  exact ⟨fun g hg ↦ (by cases hg), fun hrunning ↦ (by cases hrunning)⟩

/-! ### What is in force -/

/-- The fresh path. -/
theorem fresh_inForce (kind : ControllerKind A C) (a : HostAssignment ι K A) :
    (fresh kind a).inForce = (build kind a).map fun _ ↦
      ⟨a.neighbor_ids.toFinset, a.max_age_us, a.dt_s, a.publishPeriod kind a.toAgentConfig,
        a.neighbor_ids⟩ := by
  have hidle : ¬((init : LiveService ι K A C).service.running = true ∧
      (init : LiveService ι K A C).service.agent.isSome = true) := fun h ↦ (by cases h.1)
  have hrun : fresh kind a =
      ((⟨(init : LiveService ι K A C).service.configure kind a true,
        (init : LiveService ι K A C).builtAfter kind (.configure a true), none⟩ :
        LiveService ι K A C).step kind (.start 0 true)) := rfl
  rcases hbuild : build kind a with _ | g
  · rw [hrun, configure_idle a true hidle, if_pos rfl, hbuild]
    rfl
  · obtain ⟨hbuilt, hconfig⟩ := builtFrom_of_build hbuild
    rw [hrun, configure_idle a true hidle, if_pos rfl, hbuild, Option.map_some]
    show some (InForce.mk g.neighbors.neighbor_ids.toFinset g.neighbors.max_age_us g.config.dt_s
      (if g.publish_in_tick then g.publish_every * g.config.dt_s else g.config.publish_period_s)
      a.neighbor_ids) = _
    rw [hbuilt.publishPeriod, hbuilt.neighbor_ids, hbuilt.max_age_us, hconfig]

/-- The live path. -/
theorem inForce_configure (h : s.Recorded kind) {g : HostAgent ι K C} {a : HostAssignment ι K A}
    (hrunning : s.service.running = true) (hagent : s.service.agent = some g)
    (haccepted : (kind.set_params g.controller a.controller).2 = true) (made : Bool) :
    ∃ b c, s.built = some b ∧ s.started = some c ∧
      (s.step kind (.configure a made)).inForce =
        some ⟨b.neighbor_ids.toFinset, b.max_age_us, c.config.dt_s, b.publishPeriod kind c.config,
          c.columns⟩ := by
  obtain ⟨b, hb, hbuilt⟩ := h.built g hagent
  obtain ⟨c, hc⟩ := Option.isSome_iff_exists.mp (h.started hrunning).2
  refine ⟨b, c, hb, hc, ?_⟩
  show (⟨s.service.configure kind a made, s.builtAfter kind (.configure a made), s.started⟩ :
    LiveService ι K A C).inForce = _
  rw [configure_live a made hrunning hagent, if_pos haccepted, hc, ← hbuilt.publishPeriod c.config,
    ← hbuilt.neighbor_ids, ← hbuilt.max_age_us]
  rfl

end LiveService

/-- **A live configure takes full effect** exactly when the assignment keeps what the agent captured
where it was built and what its run captured where it started. -/
theorem live_configure_full_effect_iff {ι K A C : Type} [DecidableEq ι] [Field K] [LinearOrder K]
    [FloorRing K] (kind : ControllerKind A C) (events : List (HostEvent ι K A))
    {g : HostAgent ι K C}
    (hrunning : (run (LiveService.step kind) .init events).service.running = true)
    (hagent : (run (LiveService.step kind) .init events).service.agent = some g)
    {a : HostAssignment ι K A} (haccepted : (kind.set_params g.controller a.controller).2 = true)
    (made : Bool) :
    ∃ b c, (run (LiveService.step kind) .init events).built = some b ∧
      (run (LiveService.step kind) .init events).started = some c ∧
      ((run (LiveService.step kind) .init events).TakesFullEffect kind a made ↔
        KeepsCaptured kind b c a) := by
  obtain ⟨b, c, hb, hc, hlive⟩ :=
    LiveService.inForce_configure (LiveService.recorded_run kind events) hrunning hagent haccepted
      made
  refine ⟨b, c, hb, hc, ?_⟩
  rw [LiveService.TakesFullEffect, hlive, LiveService.fresh_inForce]
  constructor
  · intro heq
    obtain ⟨fresh, hbuild, hsame⟩ := Option.map_eq_some_iff.mp heq.symm
    obtain ⟨hneighbors, hage, hdt, hpublish, hcolumns⟩ := InForce.mk.inj hsame
    exact ⟨by rw [hbuild]; rfl, hneighbors.symm, hage.symm, hdt.symm, hpublish.symm, hcolumns.symm⟩
  · intro h
    obtain ⟨fresh, hbuild⟩ := Option.isSome_iff_exists.mp h.builds
    rw [hbuild, Option.map_some, h.neighbors, h.max_age_us, h.dt_s, h.publish_period, h.columns]

/-! ### A flag, and a link -/

/-- The agent with one neighbour, a tick into its run. -/
def oneNeighbourRun : List (HostEvent ℕ ℚ (ControllerParams ℚ)) :=
  [.configure sampleHostAssignment true, .start 0 true, .tick 1 1]

/-- Disabling the agent takes full effect. -/
theorem live_configure_full_effect_disable :
    (run (LiveService.step (microgridKind .atZero)) .init oneNeighbourRun).TakesFullEffect
      (microgridKind .atZero) { sampleHostAssignment with enabled := false } true := by
  have hconfigured : (run (LiveService.step (microgridKind .atZero)) .init
      oneNeighbourRun).service.agent.isSome = true := by decide +kernel
  obtain ⟨g, hagent⟩ := Option.isSome_iff_exists.mp hconfigured
  have hkeeps : ∀ b ∈ (run (LiveService.step (microgridKind .atZero)) .init oneNeighbourRun).built,
      ∀ c ∈ (run (LiveService.step (microgridKind .atZero)) .init oneNeighbourRun).started,
        KeepsCaptured (microgridKind .atZero) b c
          { sampleHostAssignment with enabled := false } := by
    decide +kernel
  obtain ⟨b, c, hb, hc, hiff⟩ := live_configure_full_effect_iff (microgridKind .atZero)
    oneNeighbourRun (by decide +kernel) hagent
    (a := { sampleHostAssignment with enabled := false }) rfl true
  exact hiff.2 (hkeeps b hb c hc)

/-- **A link that is reconnected does not take effect**: the second neighbour is neither heard nor
logged. -/
theorem live_configure_ignores_neighbour :
    let s := run (LiveService.step (microgridKind .atZero)) .init oneNeighbourRun
    let a := { sampleHostAssignment with neighbor_ids := [1, 2] }
    s.service.running = true ∧ ¬s.TakesFullEffect (microgridKind .atZero) a true ∧
      (s.step (microgridKind .atZero) (.configure a true)).inForce.map (·.accepted) = some {1} ∧
      (s.step (microgridKind .atZero) (.configure a true)).inForce.map (·.neighbor_columns) =
        some [1] := by
  intro s a
  refine ⟨by decide +kernel, fun htakes ↦ ?_, by decide +kernel, by decide +kernel⟩
  have hcolumns := congrArg (Option.map (·.neighbor_columns)) htakes
  revert hcolumns
  decide +kernel

end VertexTestbed.Host
