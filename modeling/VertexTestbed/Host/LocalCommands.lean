import VertexTestbed.Host.FiniteTimeAdaptive
import VertexTestbed.Host.LiveConfigure
import VertexTestbed.Host.MicrogridLive

/-!
# The commands of an agent that computes its law

`_configure`, `_start` and `_stop` of `agent/service.py` with everything in them that can raise,
over the agents of `AgentService`: a command comes with how its steps go. Beside the service itself
the state keeps what a failing command can leave behind: what the transport was made from, and which
of transport and log are up.

An agent is configured by an assignment when it has the **setup** of the agent that `_build` makes
of it: the configuration record, the neighbour table, the publish mode and divider, and the settings
of the controller. A live `configure` renews the record and what `set_params` renews, and nothing
else; `StepsHold` says which commands leave the stored assignment and the agent a matching pair, and
`local_consistent_iff` that it is these.
-/

namespace VertexTestbed.Host

open Runs

/-! ### What a controller is configured by -/

/-- A controller class, with what its controllers compute with beside their state. `A` is what an
assignment says of its controller and of its radio. -/
structure TunableKind (A C S R : Type) extends ControllerKind A C where
  /-- The radio settings in force: the constructor's override, else the assignment's. -/
  radio : A → R
  /-- The parameters in use, and the objects that were built from parameters. -/
  settings : C → S
  settings_step : ∀ c vs en, settings (step c vs en) = settings c
  /-- What `set_params` does not renew is as the assignment asks for it. -/
  takes : C → A → Prop
  takes_iff : ∀ {c a}, (set_params c a).2 = true →
    (takes c a ↔ ∃ c₀, create a = some c₀ ∧ settings (set_params c a).1 = settings c₀)

/-- What an agent is configured by. -/
structure AgentSetup (ι K S : Type) where
  config : AgentConfig ι K
  publish_in_tick : Bool
  publish_every : ℤ
  neighbor_ids : List ι
  max_age_us : ℤ
  dim : ℕ
  hold : Bool
  settings : S

section Setup

variable {ι K A C S R : Type} (kind : TunableKind A C S R)

/-- The setup of an agent, its state left out. -/
def HostAgent.setup (g : HostAgent ι K C) : AgentSetup ι K S where
  config := g.config
  publish_in_tick := g.publish_in_tick
  publish_every := g.publish_every
  neighbor_ids := g.neighbors.neighbor_ids
  max_age_us := g.neighbors.max_age_us
  dim := g.neighbors.dim
  hold := g.neighbors.hold
  settings := kind.settings g.controller

/-- A control step configures nothing. -/
theorem setup_controlStep (g : HostAgent ι K C) (now_s : K) (now_us : ℤ) :
    (g.controlStep kind.toControllerKind now_s now_us).setup kind = g.setup kind := by
  rw [HostAgent.controlStep]
  dsimp only
  split_ifs
  all_goals simp only [HostAgent.setup, HostAgent.publishStep, kind.settings_step]

/-- Neither does a reception. -/
theorem setup_observe [DecidableEq ι] (g : HostAgent ι K C) (r : Reception ι) :
    ({ g with neighbors := g.neighbors.observe r } : HostAgent ι K C).setup kind =
      g.setup kind := by
  rw [ReceiveTable.observe]
  split_ifs
  · rfl
  · rfl

variable [Field K] [LinearOrder K] [FloorRing K]

/-- The setup that an assignment asks for, of an agent whose controller has the given settings. -/
def HostAssignment.setup (a : HostAssignment ι K A) (settings : S) : AgentSetup ι K S where
  config := a.toAgentConfig
  publish_in_tick := kind.publishes_in_tick a.controller
  publish_every :=
    if kind.publishes_in_tick a.controller then roundHalfEven (a.publish_period_s / a.dt_s) else 0
  neighbor_ids := a.neighbor_ids
  max_age_us := a.max_age_us
  dim := kind.dim a.controller
  hold := kind.holds_stale_neighbours a.controller
  settings := settings

/-- **The agent is configured by the assignment**: `_build` makes one with the same setup. -/
def ConfiguredBy (a : HostAssignment ι K A) (g : HostAgent ι K C) : Prop :=
  ∃ g₀, build kind.toControllerKind a = some g₀ ∧ g.setup kind = g₀.setup kind

variable {kind}

/-- `_build`, as far as the setup goes. -/
theorem setup_of_build {a : HostAssignment ι K A} {g : HostAgent ι K C}
    (h : build kind.toControllerKind a = some g) :
    ∃ c, kind.create a.controller = some c ∧ g.setup kind = a.setup kind (kind.settings c) := by
  rw [build] at h
  rcases hcreate : kind.create a.controller with _ | c
  · rw [hcreate] at h
    cases h
  · rw [hcreate] at h
    refine ⟨c, rfl, ?_⟩
    dsimp only [Option.bind_eq_bind, Option.bind_some] at h
    split_ifs at h with _ _ hmode
    · obtain rfl := Option.some.inj h
      simp only [HostAgent.setup, HostAssignment.setup, if_pos hmode]
      rfl
    · obtain rfl := Option.some.inj h
      simp only [HostAgent.setup, HostAssignment.setup, if_neg hmode]
      rfl

/-- An agent is configured by an assignment that can be built if it has what that asks for. -/
theorem configuredBy_iff {a : HostAssignment ι K A} {g : HostAgent ι K C} :
    ConfiguredBy kind a g ↔
      (build kind.toControllerKind a).isSome = true ∧
        ∃ c, kind.create a.controller = some c ∧ g.setup kind = a.setup kind (kind.settings c) := by
  constructor
  · rintro ⟨g₀, hbuild, hsetup⟩
    obtain ⟨c, hcreate, hasked⟩ := setup_of_build hbuild
    exact ⟨by rw [hbuild]; rfl, c, hcreate, hsetup.trans hasked⟩
  · rintro ⟨hbuilds, c, hcreate, hsetup⟩
    obtain ⟨g₀, hbuild⟩ := Option.isSome_iff_exists.mp hbuilds
    obtain ⟨c₀, hcreate₀, hasked⟩ := setup_of_build hbuild
    obtain rfl := Option.some.inj (hcreate.symm.trans hcreate₀)
    exact ⟨g₀, hbuild, hsetup.trans hasked.symm⟩

/-- What only the state of an agent distinguishes is configured alike. -/
theorem ConfiguredBy.keep {a : HostAssignment ι K A} {g g' : HostAgent ι K C}
    (h : ConfiguredBy kind a g) (hsetup : g'.setup kind = g.setup kind) :
    ConfiguredBy kind a g' := by
  obtain ⟨g₀, hbuild, hsame⟩ := h
  exact ⟨g₀, hbuild, hsetup.trans hsame⟩

end Setup

/-! ### The service and its commands -/

/-- How the steps of a `configure` go: whether the assignment is valid and for a node of this type,
and whether the transport of a new agent can be made. -/
structure ConfigureSteps where
  valid : Bool
  made : Bool

/-- How the steps of a `start` go: whether the log opens, whether the transport starts or the
trigger is acknowledged, and whether, if not, a part of the transport is up or the board runs all
the same. -/
structure StartSteps where
  opened : Bool
  begun : Bool
  left : Bool

/-- How the steps of a `stop` go: whether the transport comes down or the board takes the stop, and
whether the log is finalized. -/
structure StopSteps where
  closed : Bool
  finalized : Bool

/-- A command, or something that happens to a running agent in between. -/
inductive LocalCommand (ι K A : Type) where
  | configure (a : HostAssignment ι K A) (x : ConfigureSteps)
  | start (now_s : K) (x : StartSteps)
  | stop (x : StopSteps)
  | tick (now_s : K) (now_us : ℤ)
  | publish
  | receive (r : Reception ι)

/-- What a command is to the service: nothing, where its assignment is refused. -/
def LocalCommand.event {ι K A : Type} : LocalCommand ι K A → Option (HostEvent ι K A)
  | .configure a x => if x.valid then some (.configure a x.made) else none
  | .start now_s x => some (.start now_s (x.opened && x.begun))
  | .stop x => some (.stop x.closed)
  | .tick now_s now_us => some (.tick now_s now_us)
  | .publish => some .publish
  | .receive r => some (.receive r)

/-- `AgentService` of an agent that computes its law, as far as its commands can leave it
inconsistent. -/
structure LocalService (ι K A C R : Type) where
  host : HostService ι K A C
  /-- What the transport of the agent was made from: a node id and radio settings. -/
  transport : Option (ι × R)
  /-- Some of the agent's transport is started. -/
  transportUp : Bool
  /-- The run log has been opened and not finalized. -/
  logOpen : Bool
  /-- Some of the transport of an agent that has been replaced is started, or a run log that has
  been replaced is open. -/
  replacedUp : Bool
  /-- The last command was a start, and it raised. -/
  startFailed : Bool

/-- An agent has an assignment beside it, and only an agent runs. -/
structure HostService.Stored {ι K A C : Type} (s : HostService ι K A C) : Prop where
  assignment : s.agent.isSome = true → s.assignment.isSome = true
  agent : s.running = true → s.agent.isSome = true

/-- Every event leaves an agent beside an assignment, and nothing running without one. -/
theorem HostService.Stored.step {ι K A C : Type} [DecidableEq ι] [Field K] [LinearOrder K]
    [FloorRing K] {kind : ControllerKind A C} {s : HostService ι K A C} (h : s.Stored)
    (ev : HostEvent ι K A) : (s.step kind ev).Stored := by
  cases ev with
  | configure a made =>
    show (s.configure kind a made).Stored
    -- Of the six events only this one stores an assignment.
    by_cases hlive : s.running = true ∧ s.agent.isSome = true
    · obtain ⟨g, hagent⟩ := Option.isSome_iff_exists.mp hlive.2
      rw [LiveService.configure_live a made hlive.1 hagent]
      split_ifs
      · exact ⟨fun _ ↦ rfl, fun _ ↦ rfl⟩
      · exact ⟨fun _ ↦ h.assignment hlive.2, fun _ ↦ rfl⟩
    · rw [LiveService.configure_idle a made hlive]
      split
      · exact ⟨fun _ ↦ rfl, fun _ ↦ rfl⟩
      · exact ⟨fun _ ↦ rfl, fun hrunning ↦ absurd ⟨hrunning, h.agent hrunning⟩ hlive⟩
  | start now_s opened =>
    show (s.start now_s opened).Stored
    rw [HostService.start]
    split
    case h_1 a g ha hg =>
      split_ifs
      · exact h
      · exact ⟨fun _ ↦ by show s.assignment.isSome = true; rw [ha]; rfl, fun _ ↦ rfl⟩
    case h_2 => exact h
  | stop closed =>
    show (s.stop closed).Stored
    rw [HostService.stop]
    split_ifs
    · exact ⟨fun hagent ↦ h.assignment (by rwa [Option.isSome_map] at hagent),
        fun hrunning ↦ (by cases hrunning)⟩
    · exact h
  | tick now_s now_us =>
    rw [HostService.step]
    split
    case h_1 g hagent =>
      split_ifs
      · exact ⟨fun _ ↦ h.assignment (by rw [hagent]; rfl), fun _ ↦ rfl⟩
      · exact h
    case h_2 => exact h
  | publish =>
    rw [HostService.step]
    split
    case h_1 g hagent =>
      split_ifs
      · exact ⟨fun _ ↦ h.assignment (by rw [hagent]; rfl), fun _ ↦ rfl⟩
      · exact h
    case h_2 => exact h
  | receive r =>
    rw [HostService.step]
    split
    case h_1 g hagent =>
      split_ifs
      · exact ⟨fun _ ↦ h.assignment (by rw [hagent]; rfl), fun _ ↦ rfl⟩
      · exact h
    case h_2 => exact h

namespace LocalService

variable {ι K A C S R : Type}

/-- Launched. -/
def init : LocalService ι K A C R :=
  ⟨.init, none, false, false, false, false⟩

/-- `self.running and self.agent is not None`: a configure is a live one. -/
def live (s : LocalService ι K A C R) : Bool :=
  s.host.running && s.host.agent.isSome

/-- There is something to start. -/
def ready (s : LocalService ι K A C R) : Bool :=
  s.host.assignment.isSome && s.host.agent.isSome

variable [Field K] [LinearOrder K] [FloorRing K] (kind : TunableKind A C S R)

/-- A new agent has a transport of its own, which is not started. That of the agent it replaces may
be. -/
def configured (s : LocalService ι K A C R) (a : HostAssignment ι K A) (made : Bool) :
    LocalService ι K A C R :=
  if s.live then s
  else
    match if made then build kind.toControllerKind a else none with
    | some _ =>
      { s with
        transport := some (a.node_id, kind.radio a.controller)
        transportUp := false
        replacedUp := s.replacedUp || s.transportUp }
    | none => s

omit [Field K] [LinearOrder K] [FloorRing K] in
/-- The log is opened before the transport is started, and stays open if that raises. -/
def started (s : LocalService ι K A C R) (x : StartSteps) : LocalService ι K A C R :=
  if ¬s.ready ∨ s.host.running ∨ ¬x.opened then { s with startFailed := true }
  else
    { s with
      logOpen := true
      replacedUp := s.replacedUp || s.logOpen
      transportUp := s.transportUp || x.begun || x.left
      startFailed := !x.begun }

omit [Field K] [LinearOrder K] [FloorRing K] in
/-- What the transport or the log raise is not caught, and the log is finalized last. -/
def stopped (s : LocalService ι K A C R) (x : StopSteps) : LocalService ι K A C R :=
  if s.host.running then
    { s with
      transportUp := s.transportUp && !x.closed
      logOpen := s.logOpen && !(x.closed && x.finalized)
      startFailed := false }
  else { s with startFailed := false }

/-- What a command does beside the service. -/
def beside (s : LocalService ι K A C R) : LocalCommand ι K A → LocalService ι K A C R
  | .configure a x =>
    { (if x.valid then s.configured kind a x.made else s) with startFailed := false }
  | .start _ x => s.started x
  | .stop x => s.stopped x
  | .tick _ _ | .publish | .receive _ => s

variable [DecidableEq ι]

/-- The next command. -/
def step (s : LocalService ι K A C R) (cmd : LocalCommand ι K A) : LocalService ι K A C R :=
  { s.beside kind cmd with
    host := cmd.event.elim s.host (s.host.step kind.toControllerKind) }

/-- **The service of a run of commands is a run of the service**, on what the commands are to it. -/
theorem host_run (s : LocalService ι K A C R) (commands : List (LocalCommand ι K A)) :
    (run (step kind) s commands).host =
      run (HostService.step kind.toControllerKind) s.host
        (commands.filterMap LocalCommand.event) := by
  induction commands generalizing s with
  | nil => rfl
  | cons cmd commands ih =>
    rw [run_cons, ih]
    rcases hevent : cmd.event with _ | ev
    · rw [List.filterMap_cons_none hevent]
      simp only [step, hevent, Option.elim_none]
    · rw [List.filterMap_cons_some hevent, run_cons]
      simp only [step, hevent, Option.elim_some]

/-! ### What is asked -/

omit [Field K] [LinearOrder K] [FloorRing K] [DecidableEq ι] in
/-- Nothing is up. -/
structure Quiet (s : LocalService ι K A C R) : Prop where
  transport : s.transportUp = false
  log : s.logOpen = false
  replaced : s.replacedUp = false

/-- The agent is configured by the stored assignment, and so is its transport. -/
def Matching (s : LocalService ι K A C R) : Prop :=
  ∀ a ∈ s.host.assignment, ∀ g ∈ s.host.agent,
    ConfiguredBy kind a g ∧ s.transport = some (a.node_id, kind.radio a.controller)

/-- **The service is consistent**: the agent matches the stored assignment, every run started with
an agent configured by the assignment that was stored then, and a start that failed, of no run in
progress, has left nothing up. -/
structure Consistent (s : LocalService ι K A C R) : Prop where
  matching : s.Matching kind
  starts : ∀ x ∈ s.host.starts, ConfiguredBy kind x.1 x.2
  failed : s.startFailed = true → s.host.running = false → s.Quiet

/-- **The assignment keeps what a live configure does not renew**: it can be built, and asks for the
table, the publish mode and divider, the transport and the settings that the agent has. -/
structure KeepsSetup (s : LocalService ι K A C R) (g : HostAgent ι K C) (a : HostAssignment ι K A) :
    Prop where
  builds : (build kind.toControllerKind a).isSome = true
  publish_in_tick : g.publish_in_tick = kind.publishes_in_tick a.controller
  publish_every :
    g.publish_every =
      if kind.publishes_in_tick a.controller then roundHalfEven (a.publish_period_s / a.dt_s) else 0
  neighbor_ids : g.neighbors.neighbor_ids = a.neighbor_ids
  max_age_us : g.neighbors.max_age_us = a.max_age_us
  dim : g.neighbors.dim = kind.dim a.controller
  hold : g.neighbors.hold = kind.holds_stale_neighbours a.controller
  settings : kind.takes g.controller a.controller
  transport : s.transport = some (a.node_id, kind.radio a.controller)

/-- A `configure` of a running agent is refused whole by `set_params`, or taken for an assignment
that keeps what is not renewed. One of an idle agent builds a new one, or finds one that is
configured by the assignment. -/
def ConfigureHolds (s : LocalService ι K A C R) (a : HostAssignment ι K A) (made : Bool) : Prop :=
  ∀ g ∈ s.host.agent,
    if s.host.running then
      if (kind.set_params g.controller a.controller).2 then s.KeepsSetup kind g a
      else
        kind.settings (kind.set_params g.controller a.controller).1 = kind.settings g.controller
    else
      made = true ∧ (build kind.toControllerKind a).isSome = true ∨
        ConfiguredBy kind a g ∧ s.transport = some (a.node_id, kind.radio a.controller)

omit [Field K] [LinearOrder K] [FloorRing K] [DecidableEq ι] in
/-- A `start` that fails does so with the log unopened and nothing up before, or because of a run in
progress. -/
def StartHolds (s : LocalService ι K A C R) (x : StartSteps) : Prop :=
  s.host.running = true ∨ (s.ready = true ∧ x.opened = true ∧ x.begun = true) ∨
    ((s.ready = false ∨ x.opened = false) ∧ s.Quiet)

/-- **The steps of a command that may not fail do not.** -/
def StepsHold (s : LocalService ι K A C R) : LocalCommand ι K A → Prop
  | .configure a x => x.valid = true → s.ConfigureHolds kind a x.made
  | .start _ x => s.StartHolds x
  | .stop _ | .tick _ _ | .publish | .receive _ => True

/-! ### One command -/

variable {kind} {s : LocalService ι K A C R}

omit [DecidableEq ι] in
/-- **What is kept is what a live configure would have to renew.** -/
theorem keepsSetup_iff {g : HostAgent ι K C} {a : HostAssignment ι K A}
    (htaken : (kind.set_params g.controller a.controller).2 = true) :
    s.KeepsSetup kind g a ↔
      ConfiguredBy kind a
          { g with
            controller := (kind.set_params g.controller a.controller).1
            config := a.toAgentConfig } ∧
        s.transport = some (a.node_id, kind.radio a.controller) := by
  rw [configuredBy_iff]
  constructor
  · intro h
    obtain ⟨c, hcreate, hsettings⟩ := (kind.takes_iff htaken).mp h.settings
    refine ⟨⟨h.builds, c, hcreate, ?_⟩, h.transport⟩
    rw [HostAgent.setup, HostAssignment.setup, ← hsettings, ← h.publish_in_tick, ← h.neighbor_ids,
      ← h.max_age_us, ← h.dim, ← h.hold, h.publish_in_tick, ← h.publish_every]
  · rintro ⟨⟨hbuilds, c, hcreate, hsetup⟩, htransport⟩
    obtain ⟨-, htick, hevery, hids, hage, hdim, hhold, hsettings⟩ := AgentSetup.mk.inj hsetup
    exact ⟨hbuilds, htick, hevery, hids, hage, hdim, hhold,
      (kind.takes_iff htaken).mpr ⟨c, hcreate, hsettings⟩, htransport⟩

omit [DecidableEq ι] in
theorem configure_starts (h : HostService ι K A C) (a : HostAssignment ι K A) (made : Bool) :
    (h.configure kind.toControllerKind a made).starts = h.starts := by
  rw [HostService.configure]
  split
  · dsimp only
    split_ifs
    · rfl
    · rfl
  · split
    · rfl
    · rfl

/-- **A live configure.** -/
theorem matching_live (h : s.Matching kind) {g : HostAgent ι K C} {a₀ a : HostAssignment ι K A}
    {made : Bool} (hrunning : s.host.running = true) (hagent : s.host.agent = some g)
    (hstored : s.host.assignment = some a₀) :
    (s.step kind (.configure a ⟨true, made⟩)).Matching kind ↔
      if (kind.set_params g.controller a.controller).2 then s.KeepsSetup kind g a
      else
        kind.settings (kind.set_params g.controller a.controller).1 =
          kind.settings g.controller := by
  have hlive : s.live = true := by rw [live, hrunning, hagent]; rfl
  have hhost : (s.step kind (.configure a ⟨true, made⟩)).host =
      s.host.configure kind.toControllerKind a made := rfl
  have htransport : (s.step kind (.configure a ⟨true, made⟩)).transport = s.transport := by
    show (if s.live then s else _).transport = s.transport
    rw [if_pos hlive]
  -- The transport and the table stay those that the agent has; only the parameters move.
  rw [Matching, hhost, htransport, LiveService.configure_live a made hrunning hagent]
  split_ifs with htaken
  · rw [keepsSetup_iff htaken]
    constructor
    · exact fun hall ↦ hall a rfl _ rfl
    · rintro hkept a' ha' g' hg'
      obtain rfl := Option.some.inj ha'
      obtain rfl := Option.some.inj hg'
      exact hkept
  · -- the assignment is the one that the agent matched before
    obtain ⟨⟨g₀, hbuild, hsame⟩, hkept⟩ := h a₀ hstored g hagent
    constructor
    · intro hall
      obtain ⟨⟨g₁, hbuild₁, hsame₁⟩, -⟩ := hall a₀ hstored _ rfl
      obtain rfl := Option.some.inj (hbuild.symm.trans hbuild₁)
      exact congrArg AgentSetup.settings (hsame₁.trans hsame.symm)
    · rintro hsettings a' ha' g' hg'
      obtain rfl := Option.some.inj (hstored.symm.trans ha')
      obtain rfl := Option.some.inj hg'
      refine ⟨⟨g₀, hbuild, ?_⟩, hkept⟩
      rw [← hsame, HostAgent.setup, hsettings]
      rfl

/-- **A configure of an idle agent.** -/
theorem matching_idle {a : HostAssignment ι K A} {made : Bool} (hidle : s.live = false) :
    (s.step kind (.configure a ⟨true, made⟩)).Matching kind ↔
      ∀ g ∈ s.host.agent,
        made = true ∧ (build kind.toControllerKind a).isSome = true ∨
          ConfiguredBy kind a g ∧ s.transport = some (a.node_id, kind.radio a.controller) := by
  have hnot : ¬(s.host.running = true ∧ s.host.agent.isSome = true) := by
    rw [← Bool.and_eq_true]
    exact fun hlive ↦ Bool.false_ne_true (hidle.symm.trans hlive)
  have hhost : (s.step kind (.configure a ⟨true, made⟩)).host =
      s.host.configure kind.toControllerKind a made := rfl
  have hbeside : (s.step kind (.configure a ⟨true, made⟩)).transport =
      (s.configured kind a made).transport := rfl
  rw [Matching, hhost, hbeside, LiveService.configure_idle a made hnot, configured, hidle,
    if_neg Bool.false_ne_true]
  rcases hbuilt : (if made = true then build kind.toControllerKind a else none) with _ | g
  · have hno : ¬(made = true ∧ (build kind.toControllerKind a).isSome = true) := by
      rintro ⟨rfl, hbuilds⟩
      rw [if_pos rfl] at hbuilt
      rw [hbuilt] at hbuilds
      cases hbuilds
    constructor
    · exact fun hall g hg ↦ .inr (hall a rfl g hg)
    · rintro hall a' ha' g hg
      obtain rfl := Option.some.inj ha'
      exact (hall g hg).resolve_left hno
  · obtain ⟨hmade, hbuild⟩ : made = true ∧ build kind.toControllerKind a = some g := by
      cases made with
      | true => exact ⟨rfl, hbuilt⟩
      | false => cases hbuilt
    refine iff_of_true ?_ fun _ _ ↦ .inl ⟨hmade, by rw [hbuild]; rfl⟩
    rintro a' ha' g' hg'
    obtain rfl := Option.some.inj ha'
    obtain rfl := Option.some.inj hg'
    exact ⟨⟨g, hbuild, rfl⟩, rfl⟩

/-- A configure is asked for no more than that the agent matches. -/
theorem configureHolds_iff (hs : s.host.Stored) (h : s.Consistent kind) (a : HostAssignment ι K A)
    (x : ConfigureSteps) :
    s.StepsHold kind (.configure a x) ↔ (s.step kind (.configure a x)).Consistent kind := by
  obtain ⟨valid, made⟩ := x
  cases valid with
  | false =>
    exact iff_of_true (fun hnot ↦ (by cases hnot)) ⟨h.matching, h.starts, fun hf ↦ (by cases hf)⟩
  | true =>
    have hmatching : (s.step kind (.configure a ⟨true, made⟩)).Matching kind ↔
        (s.step kind (.configure a ⟨true, made⟩)).Consistent kind := by
      refine ⟨fun hm ↦ ⟨hm, ?_, fun hf ↦ (by cases hf)⟩, Consistent.matching⟩
      show ∀ x ∈ (s.host.configure kind.toControllerKind a made).starts, _
      rw [configure_starts]
      exact h.starts
    rw [← hmatching]
    show (true = true → s.ConfigureHolds kind a made) ↔ _
    rw [ConfigureHolds]
    rcases hagent : s.host.agent with _ | g
    · have hidle : s.live = false := by rw [live, hagent, Option.isSome_none, Bool.and_false]
      rw [matching_idle hidle, hagent]
      exact iff_of_true (fun _ g hg ↦ (by cases hg)) fun g hg ↦ (by cases hg)
    obtain ⟨a₀, hstored⟩ := Option.isSome_iff_exists.mp (hs.assignment (by rw [hagent]; rfl))
    cases hrunning : s.host.running with
    | true =>
      rw [matching_live h.matching hrunning hagent hstored]
      constructor
      · exact fun hholds ↦ hholds rfl g rfl
      · rintro hholds - g' hg'
        obtain rfl := Option.some.inj hg'
        exact hholds
    | false =>
      rw [matching_idle (by rw [live, hrunning, Bool.false_and]), hagent]
      constructor
      · exact fun hholds g' hg' ↦ hholds rfl g' hg'
      · exact fun hholds _ g' hg' ↦ hholds g' hg'

omit [Field K] [LinearOrder K] [FloorRing K] [DecidableEq ι] in
/-- A start that goes through starts the agent that there is. -/
theorem host_start {a : HostAssignment ι K A} {g : HostAgent ι K C} (now_s : K)
    (hassignment : s.host.assignment = some a) (hagent : s.host.agent = some g)
    (hidle : s.host.running = false) :
    s.host.start now_s true =
      { s.host with
        assignment := some a
        agent := some { g with t0_s := some now_s, listening := true }
        running := true
        starts := s.host.starts ++ [(a, { g with t0_s := some now_s, listening := true })] } := by
  rw [HostService.start, hassignment, hagent]
  dsimp only
  rw [if_neg (by rw [hidle]; decide), ← hassignment]

omit [Field K] [LinearOrder K] [FloorRing K] [DecidableEq ι] in
/-- A start that does not go through starts nothing. -/
theorem host_start_refused {now_s : K} {begun : Bool}
    (h : s.ready = false ∨ s.host.running = true ∨ begun = false) :
    s.host.start now_s begun = s.host := by
  rw [HostService.start]
  split
  · rename_i a g ha hg
    rw [if_pos]
    obtain hready | hrunning | rfl := h
    · rw [ready, ha, hg] at hready
      cases hready
    · exact .inl hrunning
    · exact .inr Bool.false_ne_true
  · rfl

omit [DecidableEq ι] in
/-- A command that leaves the service and the transport is asked about nothing but what is up. -/
theorem Consistent.beside {s' : LocalService ι K A C R} (h : s.Consistent kind)
    (hhost : s'.host = s.host) (htransport : s'.transport = s.transport) :
    s'.Consistent kind ↔ (s'.startFailed = true → s.host.running = false → s'.Quiet) := by
  refine ⟨fun hafter hfailed hidle ↦ hafter.failed hfailed (by rw [hhost]; exact hidle),
    fun hquiet ↦ ⟨?_, by rw [hhost]; exact h.starts, fun hfailed hidle ↦ ?_⟩⟩
  · rw [Matching, hhost, htransport]
    exact h.matching
  · rw [hhost] at hidle
    exact hquiet hfailed hidle

/-- A start that is refused before the log opens. -/
theorem start_refused_iff (h : s.Consistent kind) (now_s : K) {x : StartSteps}
    (hrefused : ¬s.ready = true ∨ s.host.running = true ∨ ¬x.opened = true) :
    (s.step kind (.start now_s x)).Consistent kind ↔ (s.host.running = false → s.Quiet) := by
  have hbeside : s.beside kind (.start now_s x) = { s with startFailed := true } := if_pos hrefused
  have hhost : (s.step kind (.start now_s x)).host = s.host := by
    refine host_start_refused ?_
    obtain hready | hrunning | hopened := hrefused
    · exact .inl ((Bool.not_eq_true _).mp hready)
    · exact .inr (.inl hrunning)
    · exact .inr (.inr (by rw [(Bool.not_eq_true _).mp hopened, Bool.false_and]))
  have hstep : s.step kind (.start now_s x) = { s with startFailed := true } := by
    rw [step, hbeside]
    exact congrArg (fun host ↦ ({ s with host := host, startFailed := true } :
      LocalService ι K A C R)) hhost
  have hbesides : ({ s with startFailed := true } : LocalService ι K A C R).Consistent kind ↔
      (true = true → s.host.running = false →
        Quiet ({ s with startFailed := true } : LocalService ι K A C R)) :=
    h.beside rfl rfl
  rw [hstep, hbesides]
  exact ⟨fun hquiet hidle ↦ ⟨(hquiet rfl hidle).transport, (hquiet rfl hidle).log,
      (hquiet rfl hidle).replaced⟩,
    fun hquiet _ hidle ↦ ⟨(hquiet hidle).transport, (hquiet hidle).log, (hquiet hidle).replaced⟩⟩

/-- A start that opens its log and fails leaves the log open. -/
theorem start_failed_not_consistent (now_s : K) {x : StartSteps}
    (hthrough : ¬(¬s.ready = true ∨ s.host.running = true ∨ ¬x.opened = true))
    (hbegun : x.begun = false) : ¬(s.step kind (.start now_s x)).Consistent kind := by
  have hhost : (s.step kind (.start now_s x)).host = s.host :=
    host_start_refused (.inr (.inr (by rw [hbegun, Bool.and_false])))
  have hbeside : s.beside kind (.start now_s x) =
      { s with
        logOpen := true
        replacedUp := s.replacedUp || s.logOpen
        transportUp := s.transportUp || x.begun || x.left
        startFailed := !x.begun } := if_neg hthrough
  intro hafter
  have hup := hafter.failed (by rw [step, hbeside, hbegun]; rfl)
    (by rw [hhost]; exact (Bool.not_eq_true _).mp fun hr ↦ hthrough (.inr (.inl hr)))
  have hlog := hup.log
  rw [step, hbeside] at hlog
  cases hlog

/-- A start that goes through. -/
theorem start_begun_consistent (h : s.Consistent kind) (now_s : K) {x : StartSteps}
    (hready : s.ready = true) (hidle : s.host.running = false) (hopened : x.opened = true)
    (hbegun : x.begun = true) : (s.step kind (.start now_s x)).Consistent kind := by
  obtain ⟨hassignment, hagent⟩ := (Bool.and_eq_true _ _).mp hready
  obtain ⟨a, hassignment⟩ := Option.isSome_iff_exists.mp hassignment
  obtain ⟨g, hagent⟩ := Option.isSome_iff_exists.mp hagent
  have hhost : (s.step kind (.start now_s x)).host = s.host.start now_s (x.opened && x.begun) := rfl
  rw [hopened, hbegun, Bool.and_true, host_start now_s hassignment hagent hidle] at hhost
  have htransport : (s.step kind (.start now_s x)).transport = s.transport := by
    show (s.started x).transport = s.transport
    rw [started]
    split_ifs
    · rfl
    · rfl
  obtain ⟨hconfigured, hmade⟩ := h.matching a hassignment g hagent
  have hstarted : ConfiguredBy kind a { g with t0_s := some now_s, listening := true } :=
    hconfigured.keep rfl
  refine ⟨?_, ?_, ?_⟩
  · rw [Matching, hhost, htransport]
    rintro a' ha' g' hg'
    obtain rfl := Option.some.inj ha'
    obtain rfl := Option.some.inj hg'
    exact ⟨hstarted, hmade⟩
  · rw [hhost]
    rintro y hy
    rcases List.mem_append.mp hy with hy | hy
    · exact h.starts y hy
    · obtain rfl := List.mem_singleton.mp hy
      exact hstarted
  · rw [hhost]
    exact fun _ hstopped ↦ (by cases hstopped)

/-- **A start.** -/
theorem startHolds_iff (h : s.Consistent kind) (now_s : K) (x : StartSteps) :
    s.StartHolds x ↔ (s.step kind (.start now_s x)).Consistent kind := by
  rw [StartHolds]
  by_cases hrefused : ¬s.ready = true ∨ s.host.running = true ∨ ¬x.opened = true
  · rw [start_refused_iff h now_s hrefused]
    constructor
    · rintro (hrunning | ⟨hready, hopened, -⟩ | ⟨-, hquiet⟩) hidle
      · exact absurd (hrunning.symm.trans hidle) (by decide)
      · obtain hnot | hrunning | hnot := hrefused
        · exact absurd hready hnot
        · exact absurd (hrunning.symm.trans hidle) (by decide)
        · exact absurd hopened hnot
      · exact hquiet
    · intro hquiet
      cases hrunning : s.host.running with
      | true => exact .inl rfl
      | false =>
        refine .inr (.inr ⟨?_, hquiet hrunning⟩)
        obtain hnot | hyes | hnot := hrefused
        · exact .inl ((Bool.not_eq_true _).mp hnot)
        · exact absurd (hyes.symm.trans hrunning) (by decide)
        · exact .inr ((Bool.not_eq_true _).mp hnot)
  · have hthrough := hrefused
    push Not at hrefused
    obtain ⟨hready, hidle, hopened⟩ := hrefused
    cases hbegun : x.begun with
    | true =>
      exact iff_of_true (.inr (.inl ⟨hready, hopened, rfl⟩))
        (start_begun_consistent h now_s hready ((Bool.not_eq_true _).mp hidle) hopened hbegun)
    | false =>
      refine iff_of_false ?_ (start_failed_not_consistent now_s hthrough hbegun)
      rintro (hrunning | ⟨-, -, hnot⟩ | ⟨hnot | hnot, -⟩)
      · exact hidle hrunning
      · cases hnot
      · exact absurd (hready.symm.trans hnot) (by decide)
      · exact absurd (hopened.symm.trans hnot) (by decide)

omit [DecidableEq ι] in
/-- What happens to the state of an agent leaves the service consistent. -/
theorem Consistent.touch (h : s.Consistent kind) {g g' : HostAgent ι K C}
    (hagent : s.host.agent = some g) (hsetup : g'.setup kind = g.setup kind) :
    ({ s with host := s.host.touch g' } : LocalService ι K A C R).Consistent kind := by
  refine ⟨fun a ha g'' hg'' ↦ ?_, h.starts, fun hfailed hidle ↦ ?_⟩
  swap
  · exact ⟨(h.failed hfailed hidle).transport, (h.failed hfailed hidle).log,
      (h.failed hfailed hidle).replaced⟩
  obtain rfl := Option.some.inj hg''
  obtain ⟨hconfigured, htransport⟩ := h.matching a ha g hagent
  exact ⟨hconfigured.keep hsetup, htransport⟩

/-- A stop changes no more than what is up. -/
theorem consistent_stop (h : s.Consistent kind) (x : StopSteps) :
    (s.step kind (.stop x)).Consistent kind := by
  have hsame : (s.stopped x).transport = s.transport ∧ (s.stopped x).startFailed = false := by
    rw [stopped]
    split_ifs
    · exact ⟨rfl, rfl⟩
    · exact ⟨rfl, rfl⟩
  have hhost : (s.step kind (.stop x)).host = s.host.stop x.closed := rfl
  refine ⟨?_, ?_, fun hfailed ↦ absurd (hfailed.symm.trans hsame.2) (by decide)⟩
  · rw [Matching, hhost, HostService.stop]
    have htransport : (s.step kind (.stop x)).transport = s.transport := hsame.1
    rw [htransport]
    split_ifs
    · rintro a ha g' hg'
      obtain ⟨g, hg, rfl⟩ := Option.map_eq_some_iff.mp hg'
      obtain ⟨hconfigured, hmade⟩ := h.matching a ha g hg
      exact ⟨hconfigured.keep rfl, hmade⟩
    · exact h.matching
  · rw [hhost, HostService.stop]
    split_ifs
    · exact h.starts
    · exact h.starts

/-- **One command leaves a consistent service consistent exactly if its steps hold.** -/
theorem stepsHold_iff (hs : s.host.Stored) (h : s.Consistent kind) (cmd : LocalCommand ι K A) :
    s.StepsHold kind cmd ↔ (s.step kind cmd).Consistent kind := by
  cases cmd with
  | configure a x => exact configureHolds_iff hs h a x
  | start now_s x => exact startHolds_iff h now_s x
  | stop x => exact iff_of_true trivial (consistent_stop h x)
  | tick now_s now_us =>
    refine iff_of_true trivial ?_
    show ({ s with host := s.host.step kind.toControllerKind (.tick now_s now_us) } :
      LocalService ι K A C R).Consistent kind
    rw [HostService.step]
    split
    case h_1 g hagent =>
      split_ifs
      · exact h.touch hagent (setup_controlStep kind _ now_s now_us)
      · exact h
    case h_2 => exact h
  | publish =>
    refine iff_of_true trivial ?_
    show ({ s with host := s.host.step kind.toControllerKind .publish } :
      LocalService ι K A C R).Consistent kind
    rw [HostService.step]
    split
    case h_1 g hagent =>
      split_ifs
      · exact h.touch hagent rfl
      · exact h
    case h_2 => exact h
  | receive r =>
    refine iff_of_true trivial ?_
    show ({ s with host := s.host.step kind.toControllerKind (.receive r) } :
      LocalService ι K A C R).Consistent kind
    rw [HostService.step]
    split
    case h_1 g hagent =>
      split_ifs
      · exact h.touch hagent (setup_observe kind _ r)
      · exact h
    case h_2 => exact h

/-! ### Every sequence of commands -/

omit [DecidableEq ι] in
theorem consistent_init : (init : LocalService ι K A C R).Consistent kind :=
  ⟨fun _ ha ↦ (by cases ha), fun _ hx ↦ absurd hx List.not_mem_nil,
    fun hfailed ↦ (by cases hfailed)⟩

/-- **After each of a sequence of commands, with whatever happens to the agent in between, the
service is consistent exactly if, in each of them, the steps hold that must.** -/
theorem local_consistent_iff (kind : TunableKind A C S R) (commands : List (LocalCommand ι K A)) :
    Guarded (step kind) (StepsHold kind) init commands ↔
      ∀ n, (run (step kind) init (commands.take n)).Consistent kind := by
  refine guarded_iff_forall_take (J := fun _ (s : LocalService ι K A C R) ↦ s.host.Stored)
    (P := Consistent kind) (fun _ s cmd hs ↦ ?_) (fun _ _ cmd hs h ↦ stepsHold_iff hs h cmd) ?_
    consistent_init
  · show (cmd.event.elim s.host (s.host.step kind.toControllerKind)).Stored
    cases cmd.event with
    | none => exact hs
    | some ev => exact hs.step ev
  · exact ⟨fun hagent ↦ (by cases hagent), fun hrunning ↦ (by cases hrunning)⟩

omit [DecidableEq ι] in
/-- The table of an agent that matches is that of the assignment. -/
theorem Matching.neighbor_ids (h : s.Matching kind) {a : HostAssignment ι K A}
    {g : HostAgent ι K C} (ha : s.host.assignment = some a) (hg : s.host.agent = some g) :
    g.neighbors.neighbor_ids = a.neighbor_ids := by
  obtain ⟨-, c, -, hsetup⟩ := configuredBy_iff.mp (h a ha g hg).1
  exact congrArg AgentSetup.neighbor_ids hsetup

end LocalService

/-! ### The registered classes -/

/-- A controller class whose assignments say something of the radio, too. -/
def ControllerKind.withRadio {A C : Type} (kind : ControllerKind A C) (R : Type) :
    ControllerKind (A × R) C where
  dim a := kind.dim a.1
  holds_stale_neighbours a := kind.holds_stale_neighbours a.1
  publishes_in_tick a := kind.publishes_in_tick a.1
  create a := kind.create a.1
  set_params c a := kind.set_params c a.1
  step := kind.step
  step_count := kind.step_count
  step_count_create h := kind.step_count_create h

section Registered

variable {K : Type} [Field K] [LinearOrder K]

/-- `FiniteTimeAdaptiveController`, behind the seam. -/
def scalarKind [FloorRing K] (lib : Libm K) (rng : ℤ → ℕ → K) :
    ControllerKind (ScalarParams K × UniformSource K) (FiniteTimeAdaptiveController K) where
  dim := fun _ ↦ 1
  holds_stale_neighbours := fun _ ↦ false
  publishes_in_tick := fun _ ↦ false
  create := fun a ↦ some (.init a.1 a.2)
  set_params := fun c a ↦ (c.set_params a.1, true)
  step := fun c vs en ↦ (c.step lib rng vs en).1
  step_count := fun c ↦ c.step_count.toNat
  step_count_create := by
    rintro a c hcreate
    obtain rfl := Option.some.inj hcreate
    rfl

/-- The scalar class: `set_params` renews all but what the disturbance draws from. -/
def scalarTunable [IsStrictOrderedRing K] [FloorRing K] (lib : Libm K) (rng : ℤ → ℕ → K)
    (R : Type) :
    TunableKind ((ScalarParams K × UniformSource K) × R) (FiniteTimeAdaptiveController K)
      (ScalarParams K × DisturbanceParameters K × UniformSource K) R where
  toControllerKind := (scalarKind lib rng).withRadio R
  radio a := a.2
  settings c := (c.params, c.disturbance.params, c.disturbance.source)
  settings_step c vs en := by
    refine Prod.ext rfl (Prod.ext ?_ ?_)
    · exact Disturbance.call_params lib rng _ _
    · exact Disturbance.call_source lib rng _ _
  takes c a := c.disturbance.source = a.1.2
  takes_iff {c a} _ := by
    have hsettings : ((c.set_params a.1.1).params, (c.set_params a.1.1).disturbance.params,
        (c.set_params a.1.1).disturbance.source) =
          (a.1.1, a.1.1.disturbance, c.disturbance.source) := by
      rw [FiniteTimeAdaptiveController.set_params, Disturbance.rebuilt]
      cases hsource : c.disturbance.source with
      | seed s => rfl
      | uniform draws => rfl
    constructor
    · intro hsame
      refine ⟨_, rfl, hsettings.trans ?_⟩
      rw [hsame]
      rfl
    · rintro ⟨c₀, hcreate, hsame⟩
      obtain rfl := Option.some.inj hcreate
      exact congrArg (fun x ↦ x.2.2) (hsettings.symm.trans hsame)

/-- An interface object without what it has adapted to, and without `vartheta0`. -/
def Interface.law : Interface K → Interface K
  | .adaptive i =>
    .adaptive { i with p := { i.p with vartheta0 := 0 }, vartheta := 0, updates := 0 }
  | .lc i => .lc { i with S1 := 0, S2 := 0, updates := 0 }

theorem Interface.law_step (lib : Libm K) (i : Interface K) (t_s xP xQ zP zQ gP gQ : K) :
    (i.step lib t_s xP xQ zP zQ gP gQ).1.law = i.law := by
  cases i with
  | adaptive i => rfl
  | lc i => rfl

/-- What a microgrid controller computes with beside its state: the parameters, and the objects that
the last `reset` built, without the initial conditions among their own parameters. -/
structure MicrogridSettings (K : Type) [Field K] [LinearOrder K] where
  params : ControllerParams K
  plant : PlantParams K
  virtual : VirtualParams K
  degree : ℕ
  interface : Interface K

/-- The settings of a controller. -/
def MicrogridController.settings (c : MicrogridController K) : MicrogridSettings K where
  params := c.params
  plant := c.plant.p
  virtual := { c.virtual.p with c_0 := 0 }
  degree := c.virtual.degree
  interface := c.interface.law

/-- **The objects are those that the parameters build**, initial conditions apart. -/
structure MicrogridController.Takes (c : MicrogridController K)
    (p : ControllerParams K) : Prop where
  plant : p.plant = c.plant.p
  virtual : p.virtual.SameLaw c.virtual.p
  degree : p.degree = c.virtual.degree
  interface : (p.interface.make p.dt_s).law = c.interface.law

theorem VirtualParams.sameLaw_iff {p q : VirtualParams K} :
    p.SameLaw q ↔ ({ q with c_0 := 0 } : VirtualParams K) = { p with c_0 := 0 } := by
  obtain ⟨pT, pα, pδ, pκ, pξ, pc, pb, pP, pQ, -, -, -, -⟩ := p
  obtain ⟨qT, qα, qδ, qκ, qξ, qc, qb, qP, qQ, -, -, -, -⟩ := q
  simp only [VirtualParams.SameLaw, VirtualParams.mk.injEq]
  constructor
  · rintro ⟨rfl, rfl, rfl, rfl, rfl, -, rfl, rfl, rfl⟩
    simp
  · rintro ⟨rfl, rfl, rfl, rfl, rfl, -, rfl, rfl, rfl⟩
    simp

end Registered

/-- The microgrid family: `set_params` renews the parameters and none of the objects. -/
def microgridTunable (lib : Libm ℚ) (R : Type) :
    TunableKind (ControllerParams ℚ × R) (MicrogridController ℚ) (MicrogridSettings ℚ) R where
  toControllerKind := (microgridKind lib).withRadio R
  radio a := a.2
  settings := MicrogridController.settings
  settings_step c vs en := by
    simp only [MicrogridController.settings]
    exact congrArg _ (Interface.law_step lib _ _ _ _ _ _ _ _)
  takes c a := c.Takes a.1
  takes_iff {c a} _ := by
    constructor
    · rintro ⟨hplant, hvirtual, hdegree, hinterface⟩
      refine ⟨_, rfl, ?_⟩
      show MicrogridSettings.mk a.1 c.plant.p { c.virtual.p with c_0 := 0 } c.virtual.degree
        c.interface.law = _
      rw [← hplant, VirtualParams.sameLaw_iff.mp hvirtual, ← hdegree, ← hinterface]
      rfl
    · rintro ⟨c₀, hcreate, hsame⟩
      obtain rfl := Option.some.inj hcreate
      obtain ⟨-, hplant, hvirtual, hdegree, hinterface⟩ := MicrogridSettings.mk.inj hsame
      exact ⟨hplant.symm, VirtualParams.sameLaw_iff.mpr hvirtual, hdegree.symm, hinterface.symm⟩

end VertexTestbed.Host
