import VertexTestbed.Conformance.Laws

/-!
# Board and host watchdogs

Three of the four causes are bounds on states that the two sides share (`brokenBound`), so they
latch at the same tick. The saturation cause is where the two can part, for two reasons:

* the relay sends `T_c = 0` with the adaptive interface, so the board arms at once and the host at
  `T_C_DEFAULT`;
* the board counts the saturated run in a `uint16_t`, the host in an unbounded integer.

`Parts` names the ticks at which one of them matters, and `watchdogs_agree_iff` says that there are
no others.
-/

namespace VertexTestbed.Conformance

open Firmware Host Runs

variable {K : Type*} [Field K] [LinearOrder K]

/-! ### Causes -/

/-- The board's code of a host cause. -/
def boardCause : WatchdogCauses → WatchdogCause
  | .none => .none
  | .state => .state
  | .virtual => .virtual
  | .vartheta => .vartheta
  | .saturation => .saturation

/-- No cause on the board is no cause on the host. -/
theorem boardCause_eq_none {cause : WatchdogCauses} : boardCause cause = .none ↔ cause = .none := by
  cases cause <;> decide

/-- Both sides have latched the same cause, or none. -/
def SameCause (s : Agent K × MicrogridController K) : Prop :=
  s.1.vars.mg.watchdog = boardCause s.2.watchdogCause

/-- Which of the three bounds on states a controller breaks. -/
def brokenBound (c : MicrogridController K) : WatchdogCauses :=
  MicrogridController.watchdog c.plant c.virtual c.interface 0 false

/-- The saturated run after a tick on `vs`, this tick's command included. -/
def satRunAfter (lib : Libm K) (c : MicrogridController K) (vs : List ℤ) : ℕ :=
  if (c.interfaceStep lib vs).2.saturated then c.satRun + 1 else 0

/-- **The ticks at which the two saturation causes part**: under the adaptive interface a run longer
than five before 40 s, under the LC interface a run longer than five past the deadline whose length
is at most five modulo `2^16`. -/
def Overdue (lib : Libm K) (c : MicrogridController K) (vs : List ℤ) : Prop :=
  match c.interface with
  | .adaptive _ => c.t_s < tCDefault ∧ satPersistUpdates < satRunAfter lib c vs
  | .lc i =>
    i.p.T_c ≤ c.t_s ∧ satPersistUpdates < satRunAfter lib c vs ∧
      satRunAfter lib c vs % 2 ^ 16 ≤ satPersistUpdates

instance (lib : Libm K) (c : MicrogridController K) (vs : List ℤ) : Decidable (Overdue lib c vs) :=
  match h : c.interface with
  | .adaptive _ =>
    decidable_of_iff (c.t_s < tCDefault ∧ satPersistUpdates < satRunAfter lib c vs)
      (by rw [Overdue, h])
  | .lc i =>
    decidable_of_iff (i.p.T_c ≤ c.t_s ∧ satPersistUpdates < satRunAfter lib c vs ∧
      satRunAfter lib c vs % 2 ^ 16 ≤ satPersistUpdates) (by rw [Overdue, h])

/-- A tick keeps the causes together: a cause is latched already, or another bound breaks, or the
saturated run is not overdue. -/
def KeepsCause (lib : Libm K) (s : Agent K × MicrogridController K) (vs : List ℤ) : Prop :=
  s.2.watchdogCause = .none → brokenBound (s.2.tick lib vs) = .none → ¬Overdue lib s.2 vs

instance (lib : Libm K) (s : Agent K × MicrogridController K) (vs : List ℤ) :
    Decidable (KeepsCause lib s vs) :=
  inferInstanceAs (Decidable (_ → _ → ¬_))

section Step

variable {lib : Libm K} {a : Agent K} {c : MicrogridController K} {vs : List ℤ}

/-! ### The host's watchdog -/

/-- In exact arithmetic every value is finite, so only two of the bounds can break. -/
theorem brokenBound_eq (c : MicrogridController K) :
    brokenBound c =
      if xWatch < |c.plant.xP| ∨ xWatch < |c.plant.xQ| then .state
      else if c.interface.varthetaTrips then .vartheta
      else .none := by
  rw [brokenBound, MicrogridController.watchdog]
  simp

/-- The host's watchdog looks at the saturated run last. -/
theorem watchdog_eq (c : MicrogridController K) (satRun : ℕ) (armed : Bool) :
    MicrogridController.watchdog c.plant c.virtual c.interface satRun armed =
      if brokenBound c ≠ .none then brokenBound c
      else if armed && decide (satPersistUpdates < satRun) then .saturation else .none := by
  rw [brokenBound, MicrogridController.watchdog, MicrogridController.watchdog]
  split_ifs <;> simp_all

/-- A cause once named stays. -/
theorem tick_cause_latched (h : c.watchdogCause ≠ .none) :
    (c.tick lib vs).watchdogCause = c.watchdogCause := by
  show (if decide (c.watchdogCause = .none) then _ else c.watchdogCause) = _
  rw [decide_eq_false h]
  rfl

/-- What a tick of the host names when nothing was named: a broken bound, else a saturation past the
arming time. -/
theorem tick_cause (h : c.watchdogCause = .none) :
    (c.tick lib vs).watchdogCause =
      if brokenBound (c.tick lib vs) ≠ .none then brokenBound (c.tick lib vs)
      else if c.params.interface.armingTime ≤ c.t_s ∧ satPersistUpdates < satRunAfter lib c vs then
        .saturation
      else .none := by
  have hcause : (c.tick lib vs).watchdogCause =
      MicrogridController.watchdog (c.tick lib vs).plant (c.tick lib vs).virtual
        (c.tick lib vs).interface (satRunAfter lib c vs)
        (decide (c.params.interface.armingTime ≤ c.t_s)) := by
    show (if decide (c.watchdogCause = .none) then _ else c.watchdogCause) = _
    rw [decide_eq_true h, if_pos rfl]
    rfl
  rw [hcause, watchdog_eq]
  simp only [Bool.and_eq_true, decide_eq_true_eq]

/-- The run of saturated updates after a tick. -/
theorem tick_satRun (h : c.watchdogCause = .none) :
    (c.tick lib vs).satRun = satRunAfter lib c vs := by
  show (if decide (c.watchdogCause = .none) then _ else c.satRun) = _
  rw [decide_eq_true h, if_pos rfl]
  rfl

/-! ### The board's watchdog -/

variable [IsStrictOrderedRing K] [FloorRing K]

/-- The board's cause stays too. -/
theorem boardTick_cause_latched (h : a.vars.mg.watchdog ≠ .none) :
    (boardTick lib a vs).vars.mg.watchdog = a.vars.mg.watchdog :=
  if_pos h

omit [FloorRing K] in
/-- The sliding gain trips on both sides or on neither: under the LC interface it is zero on the
board and absent on the host. -/
theorem varthetaTrips_iff {v : MicrogridVars K} {i : Interface K}
    (h : SameAdaptation v.vartheta v.S1_hat v.S2_hat v.updates i) :
    i.varthetaTrips = true ↔ mgVarthetaWatch < v.vartheta := by
  rcases i with i | i
  · obtain ⟨hvartheta, -⟩ := h
    rw [hvartheta]
    exact decide_eq_true_iff
  · obtain ⟨-, -, -, hzero⟩ := h
    rw [hzero]
    have hpos : ¬(mgVarthetaWatch : K) < 0 := by
      rw [mgVarthetaWatch]
      norm_num
    simp [Interface.varthetaTrips, hpos]

/-- The board breaks the bounds the host breaks, and looks at the saturated run last. -/
theorem boardTick_cause (hs : SameState (boardTick lib a vs) (c.tick lib vs))
    (h : a.vars.mg.watchdog = .none) :
    (boardTick lib a vs).vars.mg.watchdog =
      if brokenBound (c.tick lib vs) ≠ .none then boardCause (brokenBound (c.tick lib vs))
      else if ms a.params.microgrid.T_c ≤ mgTime (withHeld a vs) ∧
        mgSatPersist < (boardTick lib a vs).vars.mg.satRun then .saturation
      else .none := by
  set v := microgridAdvance lib (withHeld a vs) with hv
  have hxP : v.xP = (c.tick lib vs).plant.xP := hs.xP
  have hxQ : v.xQ = (c.tick lib vs).plant.xQ := hs.xQ
  have htrips : (c.tick lib vs).interface.varthetaTrips = true ↔ mgVarthetaWatch < v.vartheta :=
    varthetaTrips_iff (v := v) hs.adaptation
  have hwatch : (boardTick lib a vs).vars.mg.watchdog =
      mgWatchdog a.params.microgrid v (mgTime (withHeld a vs)) := rfl
  have hnone : ¬v.watchdog ≠ .none := not_not.2 h
  have hX : (mgXWatch : K) = xWatch := rfl
  rw [hwatch, mgWatchdog, if_neg hnone, brokenBound_eq]
  simp only [isfinite_eq_true, Bool.not_true, Bool.false_or, Bool.or_eq_true, decide_eq_true_eq,
    hxP, hxQ, hX, ← htrips, Bool.false_eq_true, if_false]
  by_cases hx : xWatch < |(c.tick lib vs).plant.xP| ∨ xWatch < |(c.tick lib vs).plant.xQ|
  · rw [if_pos hx, if_pos hx]
    rfl
  · rw [if_neg hx, if_neg hx]
    by_cases hvt : (c.tick lib vs).interface.varthetaTrips = true
    · rw [if_pos hvt, if_pos hvt]
      rfl
    · rw [if_neg hvt, if_neg hvt]
      rfl

/-- The board counts the saturated run modulo `2^16`. -/
theorem boardTick_satRun (hcmd : SameCommand (microgridCommand lib (withHeld a vs))
      (c.interfaceStep lib vs)) (h : a.vars.mg.satRun = c.satRun % 2 ^ 16) :
    (boardTick lib a vs).vars.mg.satRun = satRunAfter lib c vs % 2 ^ 16 := by
  show (if (microgridCommand lib (withHeld a vs)).saturated then
    (a.vars.mg.satRun + 1) % 2 ^ 16 else 0) = _
  rw [hcmd.saturated, h, satRunAfter]
  split_ifs
  · omega
  · rfl

/-! ### When the two sides arm -/

/-- Where the two sides arm the saturation cause: at their common deadline under the LC interface,
at once and at `T_C_DEFAULT` under the adaptive one. -/
def Arming (p : AgentParams) (c : MicrogridController K) : Prop :=
  match c.interface with
  | .adaptive _ => p.microgrid.T_c = 0 ∧ c.params.interface.armingTime = tCDefault
  | .lc i => c.params.interface.armingTime = i.p.T_c

omit [IsStrictOrderedRing K] [FloorRing K] in
/-- A tick keeps the arming time. -/
theorem Arming.tick {p : AgentParams} (h : Arming p c) (vs : List ℤ) :
    Arming p (c.tick lib vs) := by
  rw [Arming, MicrogridController.tick_interface, MicrogridController.interfaceStep]
  rw [Arming] at h
  rcases hi : c.interface with i | i
  · rw [hi] at h
    exact h
  · rw [hi] at h
    exact h

omit [FloorRing K] in
theorem t_s_nonneg (c : MicrogridController K) : 0 ≤ c.t_s :=
  mul_nonneg (Nat.cast_nonneg _) c.params.dt_pos.le

omit [IsStrictOrderedRing K] [FloorRing K] in
/-- A run that was short is not long enough to wrap a tick later. -/
theorem satRunAfter_mod (lib : Libm K) (hshort : c.satRun ≤ satPersistUpdates) (vs : List ℤ) :
    satRunAfter lib c vs % 2 ^ 16 = satRunAfter lib c vs := by
  have hle : satRunAfter lib c vs ≤ satPersistUpdates + 1 := by
    rw [satRunAfter]
    split_ifs <;> omega
  exact Nat.mod_eq_of_lt (lt_of_le_of_lt hle (by decide))

omit [FloorRing K] in
/-- **The saturation cause is due on both sides or on neither, unless the run is overdue.** -/
theorem due_iff_not_overdue (hp : SameConfig a.params c) (harm : Arming a.params c)
    (hshort : ∀ i, c.interface = .adaptive i → c.satRun ≤ satPersistUpdates) (vs : List ℤ) :
    (ms a.params.microgrid.T_c ≤ c.t_s ∧ mgSatPersist < satRunAfter lib c vs % 2 ^ 16 ↔
      c.params.interface.armingTime ≤ c.t_s ∧ satPersistUpdates < satRunAfter lib c vs) ↔
    ¬Overdue lib c vs := by
  have hpersist : mgSatPersist = satPersistUpdates := rfl
  have hsame := hp.interface
  rw [Arming] at harm
  rw [Overdue]
  rcases hi : c.interface with i | i
  · -- The board is armed, and the run is too short for the count to have wrapped.
    rw [hi] at harm
    obtain ⟨hboard, hhost⟩ := harm
    have hmod := satRunAfter_mod lib (hshort i hi) vs
    have hzero : (ms 0 : K) ≤ c.t_s := by
      simpa [ms] using t_s_nonneg c
    rw [hboard, hhost, hmod, hpersist]
    simp only [hzero, true_and, not_and, not_lt]
    constructor
    · intro h ht
      by_contra hlong
      exact absurd (h.1 (not_le.1 hlong)).1 (not_le.2 ht)
    · intro h
      refine ⟨fun hlong ↦ ⟨?_, hlong⟩, And.right⟩
      by_contra ht
      exact absurd (h (not_le.1 ht)) (not_le.2 hlong)
  · -- Both sides arm at the deadline, and only the count can differ.
    rw [hi] at harm hsame
    rw [hsame.T_c, harm, hpersist]
    have hmod : satRunAfter lib c vs % 2 ^ 16 ≤ satRunAfter lib c vs := Nat.mod_le _ _
    constructor
    · rintro h ⟨ht, hlong, hshort⟩
      exact absurd (h.2 ⟨ht, hlong⟩).2 (not_lt.2 hshort)
    · intro h
      constructor
      · rintro ⟨ht, hlong⟩
        exact ⟨ht, hlong.trans_le hmod⟩
      · rintro ⟨ht, hlong⟩
        refine ⟨ht, ?_⟩
        by_contra hwrapped
        exact h ⟨ht, hlong, not_lt.1 hwrapped⟩

/-! ### Along a run -/

/-- What every tick keeps, whatever the watchdogs say, while the board's clock has `n` ticks left:
the two sides are together, and until a cause is latched they count the same saturated run. -/
structure Watched (n : ℕ) (s : Agent K × MicrogridController K) : Prop where
  together : Together s.1 s.2
  budget : s.2.stepCount + n < 2 ^ 31
  arming : Arming s.1.params s.2
  satRun : s.2.watchdogCause = .none → s.1.vars.mg.satRun = s.2.satRun % 2 ^ 16
  /-- Under the adaptive interface the board is armed from the start, so a run that has tripped
  nothing is short. -/
  short : s.2.watchdogCause = .none → s.1.vars.mg.watchdog = .none →
    ∀ i, s.2.interface = .adaptive i → s.2.satRun ≤ satPersistUpdates

/-- One tick of the board and the host on the same held values. -/
def tickBoth (lib : Libm K) : Agent K × MicrogridController K → List ℤ →
    Agent K × MicrogridController K :=
  both (boardTick lib) (MicrogridController.tick lib)

omit [IsStrictOrderedRing K] [FloorRing K] in
/-- A cause that is not latched after a tick was not latched before it. -/
theorem cause_none_of_tick (h : (c.tick lib vs).watchdogCause = .none) :
    c.watchdogCause = .none := by
  by_contra hne
  rw [tick_cause_latched hne] at h
  exact hne h

omit [IsStrictOrderedRing K] [FloorRing K] in
/-- A tick does not change the family of the interface. -/
theorem adaptive_of_tick {i : AdaptiveInterface K} (h : (c.tick lib vs).interface = .adaptive i) :
    ∃ i₀, c.interface = .adaptive i₀ := by
  rw [MicrogridController.tick_interface, MicrogridController.interfaceStep] at h
  rcases hi : c.interface with i₀ | i₀
  · exact ⟨i₀, rfl⟩
  · rw [hi] at h
    cases h

/-- A board that names nothing after a tick named nothing before it. -/
theorem boardCause_none_of_tick (h : (boardTick lib a vs).vars.mg.watchdog = .none) :
    a.vars.mg.watchdog = .none := by
  by_contra hne
  rw [boardTick_cause_latched hne] at h
  exact hne h

/-- The board counts the saturated updates as the host does, in sixteen bits. -/
theorem Watched.satRun_tick {n : ℕ} {s : Agent K × MicrogridController K} (h : Watched (n + 1) s)
    (vs : List ℤ) (hnone : s.2.watchdogCause = .none) :
    (boardTick lib s.1 vs).vars.mg.satRun = satRunAfter lib s.2 vs % 2 ^ 16 :=
  boardTick_satRun (h.together.config.command lib h.together.state vs) (h.satRun hnone)

/-- **The saturation causes after a tick**, when neither side had latched one and no bound broke. -/
theorem Watched.cause_tick (lib : Libm K) {n : ℕ} {s : Agent K × MicrogridController K}
    (h : Watched (n + 1) s)
    (vs : List ℤ) (hboard : s.1.vars.mg.watchdog = .none) (hhost : s.2.watchdogCause = .none) :
    (boardTick lib s.1 vs).vars.mg.watchdog =
      if brokenBound (s.2.tick lib vs) ≠ .none then boardCause (brokenBound (s.2.tick lib vs))
      else if ms s.1.params.microgrid.T_c ≤ s.2.t_s ∧
        mgSatPersist < satRunAfter lib s.2 vs % 2 ^ 16 then .saturation
      else .none := by
  have htogether := h.together.tick lib (by have := h.budget; omega) vs
  rw [boardTick_cause htogether.state hboard, h.satRun_tick vs hhost]
  have ht : mgTime (withHeld s.1 vs) = s.2.t_s := h.together.config.time h.together.state
  rw [ht]

/-- **A tick keeps both watchdogs in step.** -/
theorem Watched.tick {n : ℕ} {s : Agent K × MicrogridController K} (h : Watched (n + 1) s)
    (vs : List ℤ) : Watched n (tickBoth lib s vs) where
  together := h.together.tick lib (by have := h.budget; omega) vs
  budget := by
    show (s.2.tick lib vs).stepCount + n < 2 ^ 31
    have := h.budget
    rw [MicrogridController.tick_stepCount]
    omega
  arming := h.arming.tick vs
  satRun := by
    intro hnone
    have hbefore := cause_none_of_tick hnone
    show (boardTick lib s.1 vs).vars.mg.satRun = (s.2.tick lib vs).satRun % 2 ^ 16
    rw [h.satRun_tick vs hbefore, tick_satRun hbefore]
  short := by
    intro hhost hboard i hi
    have hhost' := cause_none_of_tick hhost
    have hboard' := boardCause_none_of_tick hboard
    obtain ⟨i₀, hi₀⟩ := adaptive_of_tick hi
    have hT : s.1.params.microgrid.T_c = 0 := by
      have := h.arming
      rw [Arming, hi₀] at this
      exact this.1
    have hzero : (ms 0 : K) ≤ s.2.t_s := by
      simpa [ms] using t_s_nonneg s.2
    -- The board is armed and has not tripped, so the run it counts is short.
    have hcause := h.cause_tick lib vs hboard' hhost'
    rw [show (boardTick lib s.1 vs).vars.mg.watchdog = .none from hboard,
      satRunAfter_mod lib (h.short hhost' hboard' i₀ hi₀), hT] at hcause
    show (s.2.tick lib vs).satRun ≤ satPersistUpdates
    rw [tick_satRun hhost']
    by_contra hlong
    split_ifs at hcause with hbroken hdue
    · exact hbroken (boardCause_eq_none.1 hcause.symm)
    · exact hdue ⟨hzero, not_le.1 hlong⟩

/-- **A tick keeps the causes together exactly when the saturated run is not overdue.** -/
theorem Watched.keepsCause_iff {n : ℕ} {s : Agent K × MicrogridController K}
    (h : Watched (n + 1) s) (hsame : SameCause s) (vs : List ℤ) :
    KeepsCause lib s vs ↔ SameCause (tickBoth lib s vs) := by
  rw [SameCause] at hsame
  show _ ↔ (boardTick lib s.1 vs).vars.mg.watchdog = boardCause (s.2.tick lib vs).watchdogCause
  by_cases hhost : s.2.watchdogCause = .none
  · have hboard : s.1.vars.mg.watchdog = .none := by rw [hsame, hhost, boardCause]
    rw [h.cause_tick lib vs hboard hhost, tick_cause hhost, KeepsCause]
    by_cases hbroken : brokenBound (s.2.tick lib vs) = .none
    · -- No bound breaks: the causes agree exactly when the two due conditions do.
      rw [if_neg (not_not.2 hbroken), if_neg (not_not.2 hbroken),
        ← due_iff_not_overdue h.together.config h.arming (fun i hi ↦ h.short hhost hboard i hi) vs]
      simp only [hhost, hbroken, true_implies]
      split_ifs with hb hh hh
      · exact iff_of_true ⟨fun _ ↦ hh, fun _ ↦ hb⟩ rfl
      · exact iff_of_false (fun hiff ↦ hh (hiff.1 hb)) (by decide)
      · exact iff_of_false (fun hiff ↦ hb (hiff.2 hh)) (by decide)
      · exact iff_of_true ⟨fun hb' ↦ absurd hb' hb, fun hh' ↦ absurd hh' hh⟩ rfl
    · rw [if_pos hbroken, if_pos hbroken]
      exact iff_of_true (fun _ hnone ↦ absurd hnone hbroken) rfl
  · -- Both sides have latched: neither moves again.
    have hboard : s.1.vars.mg.watchdog ≠ .none := by
      rw [hsame]
      exact fun hnone ↦ hhost (boardCause_eq_none.1 hnone)
    rw [boardTick_cause_latched hboard, tick_cause_latched hhost]
    exact iff_of_true (fun hnone ↦ absurd hnone hhost) hsame

end Step

/-! ### The two watchdogs -/

section Run

variable [IsStrictOrderedRing K] [FloorRing K] {n : NodeManifest K} {a : AgentAssignment K}

/-- The two sides arm at the same time. -/
theorem arming_start (ha : AssignedFrom n a) (hn : a.neighbors.length ≤ agentMaxNeighbors)
    (epoch_us : ℤ) :
    Arming (sentParams a hn epoch_us) (MicrogridController.init n.controllerParams) := by
  have hmake : (MicrogridController.init n.controllerParams).interface =
      n.interfaceBlock.make n.dt_s := rfl
  have harming : (MicrogridController.init n.controllerParams).params.interface =
      n.interfaceBlock := rfl
  rw [Arming, hmake, harming]
  rcases hi : n.spec.interface with _ | _
  · have hlc : (microgridDicts n).isLC = false := by
      rw [isLC_microgridDicts, hi]
      rfl
    rw [NodeManifest.interfaceBlock, hi, sentParams_microgrid ha, sentBlock, configuredMicrogrid,
      mgIfaceFields, hlc]
    exact ⟨rfl, rfl⟩
  · rw [NodeManifest.interfaceBlock, hi]
    rfl

/-- **Both watchdogs start in step.** -/
theorem watched_start (hwire : OnWire n) (ha : AssignedFrom n a)
    (hn : a.neighbors.length ≤ agentMaxNeighbors) (epoch_us nowUs : ℤ) {ticks : ℕ}
    (hticks : ticks < 2 ^ 31) :
    Watched ticks ((sentBoard a hn epoch_us nowUs : Board K).agent,
      MicrogridController.init n.controllerParams) := by
  have hagent := sentBoard_agent ha hn epoch_us nowUs
  refine ⟨together_start hwire ha hn epoch_us nowUs, ?_, ?_, ?_, ?_⟩
  · show 0 + ticks < 2 ^ 31
    omega
  · rw [hagent]
    exact arming_start ha hn epoch_us
  · intro _
    rw [hagent]
    rfl
  · intro _ _ _ _
    exact Nat.zero_le _

/-- **Board and host raise the same watchdog exactly along the runs in which no saturated run is
overdue.** A node of a manifest on the wire grid, under either interface, whatever state its board
was in before the configure, and whatever neighbour values the two sides are given. -/
theorem watchdogs_agree_iff (lib : Libm K) (hwire : OnWire n) (ha : AssignedFrom n a)
    {epoch_us : ℤ} {frames : List OutFrame}
    (hf : assignmentToFrames a (some true) epoch_us = .ok frames)
    {timed : List (OutFrame × ℤ)} (ht : timed.map Prod.fst = frames) {b b' : Board K}
    (hb : applyFrames b timed = some b') (vss : List (List ℤ)) (hlen : vss.length < 2 ^ 31) :
    (∀ k, SameCause (run (tickBoth lib) (b'.agent, .init n.controllerParams) (vss.take k))) ↔
      Guarded (tickBoth lib) (KeepsCause lib) (b'.agent, .init n.controllerParams) vss := by
  have hn := neighbors_le_of_applied hf ht hb
  have hstart := watched_start hwire ha hn epoch_us (triggeredAt timed) hlen
  have hsame : SameCause (b'.agent, MicrogridController.init n.controllerParams) := by
    rw [applied_eq_sentBoard ha hf hn ht hb, SameCause, sentBoard_agent ha]
    rfl
  rw [← applied_eq_sentBoard ha hf hn ht hb] at hstart
  exact (guarded_iff_forall_take (J := Watched) (P := SameCause)
    (fun _ _ vs h ↦ h.tick vs) (fun _ _ vs h hs ↦ h.keepsCause_iff hs vs) hstart hsame).symm

end Run

/-! ### A sample node -/

/-- The relay encodes the adaptive node that starts with a sliding gain of 100. -/
theorem sampleAssigned_adaptive_encodes :
    ∃ frames, assignmentToFrames (sampleAssigned .adaptive 100) (some true) 0 = .ok frames := by
  have hok : (assignmentToFrames (sampleAssigned .adaptive 100) (some true) 0).isOk := by
    decide +kernel
  rcases h : assignmentToFrames (sampleAssigned .adaptive 100) (some true) 0 with e | frames
  · rw [h] at hok
    cases hok
  · exact ⟨frames, rfl⟩

/-- Five saturated updates into the transient the watchdogs of the adaptive node, its neighbours
silent, are still together. -/
theorem watchdogs_agree_sample :
    ∃ frames b', assignmentToFrames (sampleAssigned .adaptive 100) (some true) 0 = .ok frames ∧
      applyFrames (boardInit ℚ) (allAt 0 frames) = some b' ∧
      (run (MicrogridController.tick .atZero) (.init (sampleNode .adaptive 100).controllerParams)
        (List.replicate 5 [])).satRun = 5 ∧
      ∀ k, SameCause (run (tickBoth .atZero)
        (b'.agent, .init (sampleNode .adaptive 100).controllerParams)
        ((List.replicate 5 []).take k)) := by
  obtain ⟨frames, hf⟩ := sampleAssigned_adaptive_encodes
  have ht := map_fst_allAt 0 frames
  obtain ⟨b', hb, -⟩ := applyFrames_view hf (by decide) ht (boardInit ℚ)
  refine ⟨frames, b', hf, hb, by decide +kernel,
    (watchdogs_agree_iff .atZero (sampleNode_onWire .adaptive 100)
      (sampleAssigned_from .adaptive 100)
      hf ht hb (List.replicate 5 []) (by decide)).2 ?_⟩
  rw [applied_eq_sentBoard (sampleAssigned_from .adaptive 100) hf (by decide) ht hb,
    triggeredAt_allAt_zero]
  decide +kernel

/-- **Six saturated updates into the transient the board has tripped and the host has not**: the
adaptive node above after 0.15 s of a run whose deadline is 40 s. -/
theorem adaptive_saturation_early :
    ∃ frames b', assignmentToFrames (sampleAssigned .adaptive 100) (some true) 0 = .ok frames ∧
      applyFrames (boardInit ℚ) (allAt 0 frames) = some b' ∧
      (run (boardTick .atZero) b'.agent (List.replicate 6 [])).vars.mg.watchdog = .saturation ∧
      (run (MicrogridController.tick .atZero) (.init (sampleNode .adaptive 100).controllerParams)
        (List.replicate 6 [])).watchdogCause = .none := by
  obtain ⟨frames, hf⟩ := sampleAssigned_adaptive_encodes
  have ht := map_fst_allAt 0 frames
  obtain ⟨b', hb, -⟩ := applyFrames_view hf (by decide) ht (boardInit ℚ)
  refine ⟨frames, b', hf, hb, ?_, by decide +kernel⟩
  rw [applied_eq_sentBoard (sampleAssigned_from .adaptive 100) hf (by decide) ht hb,
    triggeredAt_allAt_zero]
  decide +kernel

end VertexTestbed.Conformance
