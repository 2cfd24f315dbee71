import VertexTestbed.Host.AgentService

/-!
# What a host agent has on air

The packets of `Agent._publish_step` beside the lifecycle of the agent. A publish instant is a turn
of the publish loop, or a tick that falls on the publish divider where the law publishes from inside
the control step; a disabled agent goes through it as an enabled one does, with its flag cleared.
What can fail is the packet: a virtual state that does not fit it raises, and ends the loop that was
publishing.

`due` says that a publish instant has passed since the agent was last enabled, as on the board.
-/

namespace VertexTestbed.Host

open Runs

/-- Whatever is on air has its flag cleared. -/
def SaysDisabled {ι : Type} (onAir : Option (StatePacket ι)) : Prop :=
  ∀ pkt ∈ onAir, pkt.enabled = false

instance {ι : Type} (onAir : Option (StatePacket ι)) : Decidable (SaysDisabled onAir) :=
  inferInstanceAs (Decidable (∀ pkt ∈ onAir, pkt.enabled = false))

/-- The service with the packet that was handed to the transport last. `ended` says that the loop
that publishes has raised. -/
structure OnAirAgent (ι K A C : Type) where
  service : HostService ι K A C
  onAir : Option (StatePacket ι)
  due : Bool
  ended : Bool

section Agent

variable {ι K A C : Type} [Field K] [LinearOrder K] [FloorRing K]

/-- The packet of `_publish_step`: `none` where `StatePacket` raises. `vstate` is the property of
the controller. -/
def HostAgent.packet (vstate : C → List K) (g : HostAgent ι K C) : Option (StatePacket ι) :=
  StatePacket.fromState g.config.node_id (vstate g.controller) g.config.enabled

/-- A packet carries the flag of the configuration. -/
theorem HostAgent.enabled_of_packet {vstate : C → List K} {g : HostAgent ι K C}
    {pkt : StatePacket ι} (h : g.packet vstate = some pkt) : pkt.enabled = g.config.enabled := by
  rw [packet, StatePacket.fromState] at h
  split_ifs at h
  rw [← Option.some.inj h]

/-- A control step whose packet raises: the law has been stepped and a sequence number spent, and
nothing behind the publication happens. -/
def HostAgent.brokenStep (kind : ControllerKind A C) (g : HostAgent ι K C) (now_s : K)
    (now_us : ℤ) :
    HostAgent ι K C :=
  { g.controlStep kind now_s now_us with ticks := g.ticks, neighbors := g.neighbors }

end Agent

namespace OnAirAgent

variable {ι K A C : Type} [DecidableEq ι] [Field K] [LinearOrder K] [FloorRing K]

/-- Launched. -/
def init : OnAirAgent ι K A C := ⟨.init, none, false, false⟩

/-- The agent has been configured disabled. -/
def disabled (s : HostService ι K A C) : Bool :=
  s.agent.any fun g ↦ !g.config.enabled

/-- The agent as it stands when an event makes it publish. -/
def publishing (kind : ControllerKind A C) (s : HostService ι K A C) :
    HostEvent ι K A → Option (HostAgent ι K C)
  | .tick now_s now_us =>
    s.agent.bind fun g ↦
      if s.running ∧ g.publish_in_tick ∧ ((g.ticks : ℤ) + 1) % g.publish_every = 0 then
        some (g.controlStep kind now_s now_us)
      else none
  | .publish => s.agent.bind fun g ↦ if s.running ∧ ¬g.publish_in_tick then some g else none
  | _ => none

/-- The event is a turn of the loop that publishes. -/
def turnOfPublisher (s : HostService ι K A C) : HostEvent ι K A → Bool
  | .tick _ _ => s.agent.any (·.publish_in_tick)
  | .publish => s.agent.any fun g ↦ !g.publish_in_tick
  | _ => false

/-- What the service is left with where the packet raises. -/
def broken (kind : ControllerKind A C) (s : HostService ι K A C) :
    HostEvent ι K A → HostService ι K A C
  | .tick now_s now_us =>
    match s.agent with
    | some g => s.touch (g.brokenStep kind now_s now_us)
    | none => s
  | .publish =>
    match s.agent with
    | some g => s.touch g.publishStep
    | none => s
  | _ => s

/-- What the transport repeats after an event that does not publish. -/
def onAirAfter (s : OnAirAgent ι K A C) : HostEvent ι K A → Option (StatePacket ι)
  | .stop closed => if s.service.running ∧ closed then none else s.onAir
  | _ => s.onAir

/-- The next event. -/
def step (kind : ControllerKind A C) (vstate : C → List K) (s : OnAirAgent ι K A C)
    (ev : HostEvent ι K A) : OnAirAgent ι K A C :=
  if s.ended ∧ turnOfPublisher s.service ev then s
  else
    match publishing kind s.service ev with
    | some g =>
      match g.packet vstate with
      | some pkt =>
        let service := s.service.step kind ev
        { s with service := service, onAir := some pkt, due := disabled service }
      | none =>
        let service := broken kind s.service ev
        { s with service := service, due := disabled service, ended := true }
    | none =>
      let service := s.service.step kind ev
      { service := service
        onAir := s.onAirAfter ev
        due := s.due && disabled service
        -- the tasks of a run are new ones
        ended := s.ended && decide (service.starts.length = s.service.starts.length) }

/-- From the first publish instant after a disable until the next enable, the packet handed to the
transport last says that the node is disabled. -/
def DisabledOnAir (s : OnAirAgent ι K A C) : Prop :=
  s.due = true → SaysDisabled s.onAir

instance (s : OnAirAgent ι K A C) : Decidable s.DisabledOnAir :=
  inferInstanceAs (Decidable (_ → _))

/-- **The packet of a disabled agent can be built**, wherever it is not what is on air already. -/
def PacketFits (kind : ControllerKind A C) (vstate : C → List K) (s : OnAirAgent ι K A C)
    (ev : HostEvent ι K A) : Prop :=
  ¬(s.ended = true ∧ turnOfPublisher s.service ev = true) →
    ∀ g ∈ publishing kind s.service ev, g.config.enabled = false →
      (g.packet vstate).isSome = true ∨ SaysDisabled s.onAir

instance (kind : ControllerKind A C) (vstate : C → List K) (s : OnAirAgent ι K A C)
    (ev : HostEvent ι K A) : Decidable (PacketFits kind vstate s ev) :=
  inferInstanceAs (Decidable (_ → ∀ g ∈ publishing kind s.service ev, _ → _))

/-! ### The exact condition -/

variable {kind : ControllerKind A C} {vstate : C → List K}

/-- What the event leaves behind is as enabled as the agent that published, whether its packet was
built or not. -/
theorem disabled_of_publishing {s : HostService ι K A C} {ev : HostEvent ι K A}
    {g : HostAgent ι K C} (h : publishing kind s ev = some g) :
    disabled (s.step kind ev) = (!g.config.enabled) ∧
      disabled (broken kind s ev) = (!g.config.enabled) := by
  cases ev with
  | tick now_s now_us =>
    obtain ⟨g₀, hagent, hpublishing⟩ := Option.bind_eq_some_iff.mp h
    rw [HostService.step, broken, hagent]
    split_ifs at hpublishing with hdue
    obtain rfl := Option.some.inj hpublishing
    dsimp only
    rw [if_pos hdue.1]
    exact ⟨rfl, rfl⟩
  | publish =>
    obtain ⟨g₀, hagent, hpublishing⟩ := Option.bind_eq_some_iff.mp h
    rw [HostService.step, broken, hagent]
    split_ifs at hpublishing with hdue
    obtain rfl := Option.some.inj hpublishing
    dsimp only
    rw [if_pos hdue]
    exact ⟨rfl, rfl⟩
  | configure a made => cases h
  | start now_s opened => cases h
  | stop closed => cases h
  | receive r => cases h

omit [DecidableEq ι] [Field K] [LinearOrder K] [FloorRing K] in
/-- An event that does not publish hands over nothing. -/
theorem saysDisabled_onAirAfter {s : OnAirAgent ι K A C} (h : SaysDisabled s.onAir)
    (ev : HostEvent ι K A) : SaysDisabled (s.onAirAfter ev) := by
  cases ev with
  | stop closed =>
    rw [onAirAfter]
    split_ifs
    · intro pkt hpkt
      cases hpkt
    · exact h
  | configure a made => exact h
  | start now_s opened => exact h
  | tick now_s now_us => exact h
  | publish => exact h
  | receive r => exact h

/-- One event keeps the agent honest exactly when its packet fits. -/
theorem packetFits_iff {s : OnAirAgent ι K A C} {ev : HostEvent ι K A} (h : s.DisabledOnAir) :
    PacketFits kind vstate s ev ↔ (s.step kind vstate ev).DisabledOnAir := by
  rw [PacketFits, step]
  by_cases hended : s.ended = true ∧ turnOfPublisher s.service ev = true
  · rw [if_pos hended]
    exact iff_of_true (fun hnot ↦ absurd hended hnot) h
  rw [if_neg hended]
  rcases hpublishing : publishing kind s.service ev with _ | g
  · refine iff_of_true (fun _ g hg ↦ (by cases hg)) fun hdue ↦ ?_
    exact saysDisabled_onAirAfter (h ((Bool.and_eq_true _ _).mp hdue).1) ev
  obtain ⟨hkept, hbroken⟩ := disabled_of_publishing hpublishing
  dsimp only
  rcases hpkt : g.packet vstate with _ | pkt
  · -- The loop ends here, and what was on air stays there.
    rw [DisabledOnAir, hbroken]
    constructor
    · intro hfits hdue
      have hdisabled : g.config.enabled = false := (Bool.not_eq_true' _).mp hdue
      obtain hsome | htold := hfits hended g rfl hdisabled
      · rw [hpkt] at hsome
        cases hsome
      · exact htold
    · rintro htold - _ ⟨⟩ hdisabled
      exact .inr (htold (by rw [hdisabled]; rfl))
  · rw [DisabledOnAir, hkept]
    refine iff_of_true (fun _ g' hg' _ ↦ .inl ?_) fun hdue p hp ↦ ?_
    · obtain rfl := Option.some.inj hg'
      rw [hpkt]
      rfl
    · obtain rfl := Option.some.inj hp
      exact (HostAgent.enabled_of_packet hpkt).trans ((Bool.not_eq_true' _).mp hdue)

/-- **A disabled agent says so on air** through a whole history if and only if its packet can be
built wherever it is not what is on air already. -/
theorem says_disabled_iff (kind : ControllerKind A C) (vstate : C → List K)
    (events : List (HostEvent ι K A)) :
    (∀ n, (run (step kind vstate) (init : OnAirAgent ι K A C) (events.take n)).DisabledOnAir) ↔
      Guarded (step kind vstate) (PacketFits kind vstate) init events := by
  have hexact : Guarded (step kind vstate) (PacketFits kind vstate) init events ↔ _ :=
    guarded_iff_forall_take (J := fun _ _ ↦ True) (P := DisabledOnAir) (fun _ _ _ _ ↦ trivial)
      (fun _ _ _ _ h ↦ packetFits_iff h) trivial fun h ↦ (by cases h)
  exact hexact.symm

end OnAirAgent

end VertexTestbed.Host
