import VertexTestbed.Conformance.Configure
import VertexTestbed.Host.BoundedGain

/-!
# Board and host run the same microgrid law

`microgrid_step` and `MicrogridController.step` side by side, on the same held neighbour values.
`SameConfig` says that the board's parameters, read back in engineering units, are the host's, and
`SameState` that the integrators agree; each numbered block of the source has one lemma here, and
`SameState.step` puts them together. That the parameters a manifest puts on the wire satisfy
`SameConfig` is `sameConfig_sent`.
-/

namespace VertexTestbed.Conformance

open Firmware Host Runs

variable {K : Type*} [Field K] [LinearOrder K]

/-! ### The correspondence -/

/-- The adaptive interface on the two sides. -/
structure SameAdaptive (p : AgentParams) (h : K) (i : AdaptiveInterface K) : Prop where
  law : p.law = .microgridAdaptive
  period : i.h = h
  mu_max : u p.microgrid.mu_max = i.p.mu_max
  gamma : u p.microgrid.gamma = i.p.gamma
  eps : u p.microgrid.eps = i.p.eps
  trigger : i.p.trigger = .sigma

/-- The LC interface on the two sides. A negative band is no band, a zero width is the width `2h`,
and the manifest has no time gate. -/
structure SameLC (p : AgentParams) (plant : PlantParams K) (h : K) (i : LCInterface K) : Prop where
  law : p.law = .microgridLC
  period : i.h = h
  kappa : i.p.kappa = plant.kappa
  profile : i.p.profile = plant.profile
  p_max : i.p.p_max = plant.p_max
  q_max : i.p.q_max = plant.q_max
  mu_max : u p.microgrid.mu_max = i.p.mu_max
  T_c : ms p.microgrid.T_c = i.p.T_c
  beta_c : u p.microgrid.beta_c = i.p.beta_c
  gamma_S : i.gamma_S = u p.microgrid.Phi * plant.kappa * plant.kappa
  delta_c : lcWidth p.microgrid h = i.delta_c
  terminal : i.p.terminal = decide (p.microgrid.terminal ≠ 0)
  adapt_after : i.p.adapt_after = none
  adapt_band : i.p.adapt_band =
    if 0 ≤ p.microgrid.adapt_band then some (u p.microgrid.adapt_band) else none

/-- What the LC command reads beside the state, on the two sides. -/
structure SameLCTerm (p : AgentParams) (i : LCInterface K) : Prop where
  kappa : u p.microgrid.kappa = i.p.kappa
  profile : p.microgrid.profile = if i.p.profile = .rep then 0 else 1
  p_max : u p.microgrid.p_max = i.p.p_max
  q_max : u p.microgrid.q_max = i.p.q_max
  mu_max : u p.microgrid.mu_max = i.p.mu_max
  T_c : ms p.microgrid.T_c = i.p.T_c
  beta_c : u p.microgrid.beta_c = i.p.beta_c
  delta_c : lcWidth p.microgrid i.h = i.delta_c
  terminal : i.p.terminal = decide (p.microgrid.terminal ≠ 0)

/-- The interface on the two sides. -/
def SameInterface (p : AgentParams) (plant : PlantParams K) (h : K) : Interface K → Prop
  | .adaptive i => SameAdaptive p h i
  | .lc i => SameLC p plant h i

/-- The configuration on the two sides. -/
structure SameConfig (p : AgentParams) (c : MicrogridController K) : Prop where
  dt : ms p.dt = c.params.dt_s
  kappa : u p.microgrid.kappa = c.plant.p.kappa
  S1 : u p.microgrid.S1 = c.plant.p.S1
  S2 : u p.microgrid.S2 = c.plant.p.S2
  p_max : u p.microgrid.p_max = c.plant.p.p_max
  q_max : u p.microgrid.q_max = c.plant.p.q_max
  profile : p.microgrid.profile = if c.plant.p.profile = .rep then 0 else 1
  T_o : ms p.microgrid.T_o = c.virtual.p.T_o
  alpha_0 : u p.microgrid.alpha_0 = c.virtual.p.alpha_0
  delta_o : ms p.microgrid.delta_o = c.virtual.p.delta_o
  kappa_o : u p.microgrid.kappa_o = c.virtual.p.kappa_o
  xi : u p.microgrid.xi = c.virtual.p.xi
  b : u p.microgrid.b = c.virtual.p.b
  rP : u p.microgrid.rP = c.virtual.p.rP
  rQ : u p.microgrid.rQ = c.virtual.p.rQ
  degree : p.microgrid.degree = c.virtual.degree
  nNeighbors : p.nNeighbors.val = c.virtual.degree
  interface : SameInterface p c.plant.p c.params.dt_s c.interface

/-- The adaptive states on the two sides. The board's update count is a `uint32_t`. -/
def SameAdaptation (vartheta S1_hat S2_hat : K) (updates : ℕ) : Interface K → Prop
  | .adaptive i => vartheta = i.vartheta ∧ updates = i.updates % 2 ^ 32
  | .lc i => S1_hat = i.S1 ∧ S2_hat = i.S2 ∧ updates = i.updates % 2 ^ 32 ∧ vartheta = 0

/-- The integrators and the law's clock on the two sides. -/
structure SameState (a : Agent K) (c : MicrogridController K) : Prop where
  xP : a.vars.mg.xP = c.plant.xP
  xQ : a.vars.mg.xQ = c.plant.xQ
  zP : a.vars.mg.zP = c.virtual.zP
  zQ : a.vars.mg.zQ = c.virtual.zQ
  gain : a.vars.mg.c = c.virtual.c
  adaptation : SameAdaptation a.vars.mg.vartheta a.vars.mg.S1_hat a.vars.mg.S2_hat a.vars.mg.updates
    c.interface
  counter : a.vars.counter = c.stepCount

/-! ### The same inputs on both sides -/

/-- The agent holding the neighbour values of the flat list `vs`, two scaled integers a neighbour,
zero past the end. -/
def withHeld (a : Agent K) (vs : List ℤ) : Agent K :=
  { a with
    vars :=
      { a.vars with
        neighborVstates := fun j ↦ vs.getD (2 * j.val) 0
        neighborVstatesQ := fun j ↦ vs.getD (2 * j.val + 1) 0 } }

omit [Field K] [LinearOrder K] in
@[simp]
theorem withHeld_params (a : Agent K) (vs : List ℤ) : (withHeld a vs).params = a.params := rfl

omit [Field K] [LinearOrder K] in
@[simp]
theorem withHeld_mg (a : Agent K) (vs : List ℤ) : (withHeld a vs).vars.mg = a.vars.mg := rfl

omit [Field K] [LinearOrder K] in
@[simp]
theorem withHeld_counter (a : Agent K) (vs : List ℤ) :
    (withHeld a vs).vars.counter = a.vars.counter := rfl

omit [LinearOrder K] in
/-- A sum over the slots in use is a sum over the neighbours of the host's snapshot. -/
theorem foldl_slots (p : AgentParams) (f : ℕ → K) :
    p.slots.foldl (fun s j ↦ s + f j.val) 0 =
      (List.range p.nNeighbors.val).foldl (fun s j ↦ s + f j) 0 := by
  rw [← slots_map_val, List.foldl_map]

section Blocks

variable {lib : Libm K} {a : Agent K} {c : MicrogridController K}

/-! ### The clock and the hold -/

/-- Both have the same time. -/
theorem SameConfig.time (hp : SameConfig a.params c) (hs : SameState a c) : mgTime a = c.t_s := by
  rw [mgTime, mgPeriod, hp.dt, hs.counter, MicrogridController.t_s, Int.cast_natCast]

/-- Both hold the same neighbour values. -/
theorem SameConfig.hold (hp : SameConfig a.params c) (vs : List ℤ) :
    mgHold (withHeld a vs) = ((c.held vs).wP, (c.held vs).wQ) := by
  have hsum : ∀ f : ℕ → K, a.params.slots.foldl (fun s j ↦ s + f j.val) 0 =
      (List.range c.virtual.degree).foldl (fun s j ↦ s + f j) 0 := by
    intro f
    rw [foldl_slots, hp.nNeighbors]
  have hwP : (c.held vs).wP = (List.range c.virtual.degree).foldl
      (fun s j ↦ s + (vs.getD (2 * j) 0 : K) * invScaleFactor) 0 +
        c.virtual.p.b * c.virtual.p.rP := by
    show (snapshot c.virtual.degree vs).foldl (fun s z ↦ s + z.1) 0 + _ = _
    rw [snapshot, List.foldl_map]
  have hwQ : (c.held vs).wQ = (List.range c.virtual.degree).foldl
      (fun s j ↦ s + (vs.getD (2 * j + 1) 0 : K) * invScaleFactor) 0 +
        c.virtual.p.b * c.virtual.p.rQ := by
    show (snapshot c.virtual.degree vs).foldl (fun s z ↦ s + z.2) 0 + _ = _
    rw [snapshot, List.foldl_map]
  rw [hwP, hwQ, ← hsum fun j ↦ (vs.getD (2 * j) 0 : K) * invScaleFactor,
    ← hsum fun j ↦ (vs.getD (2 * j + 1) 0 : K) * invScaleFactor, ← hp.b, ← hp.rP, ← hp.rQ]
  rfl

/-! ### The virtual candidate -/

/-- Both have the same degree. -/
theorem SameConfig.D (hp : SameConfig a.params c) : mgD a.params.microgrid = c.virtual.D := by
  rw [mgD, hp.degree, hp.b, Int.cast_natCast]
  rfl

/-- Both have the same ramp. -/
theorem SameConfig.alpha (hp : SameConfig a.params c) (t : K) :
    mgAlpha a.params.microgrid t = c.virtual.alpha t := by
  have hmax : mgRemainder a.params.microgrid t = max (c.virtual.p.T_o - t) c.virtual.p.delta_o := by
    rw [mgRemainder, hp.delta_o, hp.T_o]
    rcases lt_or_ge (c.virtual.p.T_o - t) c.virtual.p.delta_o with h | h
    · rw [if_pos h, max_eq_right h.le]
    · rw [if_neg (not_lt.2 h), max_eq_left h]
  rw [mgAlpha, hmax, hp.alpha_0, hp.T_o]
  rfl

/-- Step 2 on the two sides. -/
theorem SameConfig.candidate (hp : SameConfig a.params c) (hs : SameState a c) (vs : List ℤ) :
    microgridCandidate (withHeld a vs) =
      ⟨(c.candidate vs).gP, (c.candidate vs).gQ, (c.candidate vs).zP, (c.candidate vs).zQ,
        (c.candidate vs).c⟩ := by
  have hw := hp.hold vs
  have ht : mgTime (withHeld a vs) = c.t_s := hp.time hs
  have hh : mgPeriod (withHeld a vs) = c.params.dt_s := hp.dt
  have hden : mgDen a.params.microgrid c.virtual.c c.params.dt_s c.t_s =
      1 + c.params.dt_s * (c.virtual.c * ((c.held vs).coefficients c.t_s).1) * c.virtual.D := by
    rw [mgDen, hp.alpha, hp.kappa_o, hp.D]
    rfl
  simp only [microgridCandidate, mgCandidate, withHeld_params, withHeld_mg, hw, ht, hh, hs.gain,
    hs.zP, hs.zQ, hp.alpha, hp.kappa_o, hp.xi, hp.D, hden]
  rfl

/-! ### The command -/

/-- Steps 3 and 4 on the two sides: the applied command, whether it was clipped, and the adaptive
states after it. -/
structure SameCommand (cmd : MgCommand K) (r : Interface K × InterfaceOut K) : Prop where
  aP : cmd.muP = r.2.aP
  aQ : cmd.muQ = r.2.aQ
  saturated : cmd.saturated = r.2.saturated
  adaptation : SameAdaptation cmd.vartheta cmd.S1_hat cmd.S2_hat cmd.updates r.1

/-- Both have the same correction of the adaptive interface. -/
theorem mgCorrection_eq (i : AdaptiveInterface K) (s : K) :
    mgCorrection i.vartheta s i.h = i.omega s := by
  rw [mgCorrection, AdaptiveInterface.omega, sgn]
  rcases eq_or_ne s 0 with rfl | hs
  · rw [if_pos rfl, if_pos rfl, zero_mul]
  · rw [if_neg hs, if_neg hs]

/-- An update count kept modulo the width of its type. -/
theorem count_mod (fired : Bool) (n : ℕ) :
    (if fired then (n % 2 ^ 32 + 1) % 2 ^ 32 else n % 2 ^ 32) =
      (if fired then n + 1 else n) % 2 ^ 32 := by
  cases fired with
  | false => rfl
  | true =>
    simp only [if_true]
    omega

/-- The adaptive command is the same on the two sides as soon as the bound is. -/
theorem adaptiveCommand_eq {p : AgentParams} {i : AdaptiveInterface K}
    (hmu_max : u p.microgrid.mu_max = i.p.mu_max) (v : MicrogridVars K)
    (hv : v.vartheta = i.vartheta) (gP gQ : K) :
    ((mgInterfaceAdaptive p.microgrid v gP gQ i.h).muP,
        (mgInterfaceAdaptive p.microgrid v gP gQ i.h).muQ) =
      ((i.step v.xP v.xQ v.zP v.zQ gP gQ).2.aP, (i.step v.xP v.xQ v.zP v.zQ gP gQ).2.aQ) := by
  rw [mgInterfaceAdaptive, AdaptiveInterface.step]
  simp only [hv, hmu_max, mgCorrection_eq]
  rfl

/-- The adaptive interface's command on the two sides, for any state and feedforward. -/
theorem SameAdaptive.command {p : AgentParams} {h : K} {i : AdaptiveInterface K}
    (hsame : SameAdaptive p h i) (v : MicrogridVars K) (hv : v.vartheta = i.vartheta) (gP gQ : K) :
    mgInterfaceAdaptive p.microgrid v gP gQ i.h =
      let r := i.step v.xP v.xQ v.zP v.zQ gP gQ
      { muP := r.2.aP
        muQ := r.2.aQ
        saturated := r.2.saturated
        vartheta := r.1.vartheta
        S1_hat := v.S1_hat
        S2_hat := v.S2_hat
        updates := if r.2.fired then (v.updates + 1) % 2 ^ 32 else v.updates } := by
  rw [mgInterfaceAdaptive, AdaptiveInterface.step]
  simp only [hv, hsame.mu_max, hsame.gamma, hsame.eps, mgCorrection_eq, hsame.trigger]
  rfl

/-- **Under the adaptive interface both command the same.** -/
theorem SameConfig.command_adaptive (hp : SameConfig a.params c) (hs : SameState a c)
    {i : AdaptiveInterface K} (hi : c.interface = .adaptive i) (vs : List ℤ) :
    SameCommand (microgridCommand lib (withHeld a vs)) (c.interfaceStep lib vs) := by
  have hsame : SameAdaptive a.params c.params.dt_s i := by
    have := hp.interface
    rwa [hi] at this
  obtain ⟨hvartheta, hupdates⟩ :
      a.vars.mg.vartheta = i.vartheta ∧ a.vars.mg.updates = i.updates % 2 ^ 32 := by
    have := hs.adaptation
    rwa [hi] at this
  have hh : mgPeriod (withHeld a vs) = i.h := hp.dt.trans hsame.period.symm
  have hcmd : microgridCommand lib (withHeld a vs) =
      mgInterfaceAdaptive a.params.microgrid a.vars.mg (c.candidate vs).gP (c.candidate vs).gQ
        i.h := by
    rw [microgridCommand, hp.candidate hs, hh, if_neg]
    · rfl
    · rw [withHeld_params, hsame.law]
      decide
  rw [hcmd, MicrogridController.interfaceStep_adaptive hi, hsame.command _ hvartheta, hs.xP, hs.xQ,
    hs.zP, hs.zQ, hupdates]
  exact ⟨rfl, rfl, rfl, rfl, count_mod _ _⟩

omit [LinearOrder K] in
/-- The time profile of the regressor on the two sides. -/
theorem mgAZeta_eq (lib : Libm K) {profile : UInt8} {p : Profile}
    (h : profile = if p = .rep then 0 else 1) (t : K) : mgAZeta lib profile t = aZeta lib p t := by
  subst h
  cases p with
  | rep => rfl
  | per => rfl

/-- The gate on the two sides, for a block that carries no time gate. -/
theorem SameLC.gate {p : AgentParams} {plant : PlantParams K} {h : K} {i : LCInterface K}
    (hsame : SameLC p plant h i) (t trig : K) :
    i.gate t trig =
      if 0 ≤ p.microgrid.adapt_band ∧ u p.microgrid.adapt_band < trig then false else true := by
  rw [LCInterface.gate, hsame.adapt_after, hsame.adapt_band]
  rcases lt_or_ge p.microgrid.adapt_band 0 with hband | hband
  · rw [if_neg (not_le.2 hband), if_neg fun hand ↦ absurd hand.1 (not_le.2 hband)]
  · rw [if_pos hband]
    simp only [hband, true_and]

namespace SameLCTerm

variable {p : AgentParams} {i : LCInterface K} (hsame : SameLCTerm p i)
include hsame

/-- Both have the same remainder of the deadline. -/
theorem remainder (t : K) : lcRemainder p.microgrid i.h t = max (i.p.T_c - t) i.delta_c := by
  rw [lcRemainder, hsame.delta_c, hsame.T_c]
  rcases lt_or_ge (i.p.T_c - t) i.delta_c with h | h
  · rw [if_pos h, max_eq_right h.le]
  · rw [if_neg (not_lt.2 h), max_eq_left h]

/-- Both have the same regressor. -/
theorem regressor (xP xQ t : K) : i.regressor lib t xP xQ =
    (mgAZeta lib p.microgrid.profile t / i.p.kappa,
      mgSmoothSaturation lib (i.p.kappa * xP) (i.p.kappa * xQ) i.p.p_max i.p.q_max) := by
  rw [LCInterface.regressor, mgAZeta_eq lib hsame.profile]
  rfl

/-- Both are past the deadline at the same time. -/
theorem isTerminal (t : K) : i.isTerminal t = lcTerminal p.microgrid t := by
  rw [LCInterface.isTerminal, lcTerminal, hsame.terminal, hsame.T_c]

/-- The LC command is the same on the two sides, for any state, feedforward and time. -/
theorem command (v : MicrogridVars K) (hS1 : v.S1_hat = i.S1) (hS2 : v.S2_hat = i.S2)
    (gP gQ t : K) :
    ((mgInterfaceLC lib p.microgrid v gP gQ i.h t).muP,
        (mgInterfaceLC lib p.microgrid v gP gQ i.h t).muQ) =
      ((i.step lib t v.xP v.xQ v.zP v.zQ gP gQ).2.aP,
        (i.step lib t v.xP v.xQ v.zP v.zQ gP gQ).2.aQ) := by
  rw [mgInterfaceLC, LCInterface.step]
  simp only [hS1, hS2, hsame.kappa, hsame.p_max, hsame.q_max, hsame.mu_max, hsame.beta_c,
    hsame.remainder, hsame.regressor, hsame.isTerminal, LCInterface.lam]
  rcases lcTerminal p.microgrid t with _ | _
  · simp only [Bool.false_eq_true, if_false, sub_add_eq_sub_sub]
    rfl
  · simp only [if_true]
    rfl

end SameLCTerm

/-- The LC interface's command on the two sides, for any state, feedforward and time. -/
theorem SameLC.command {p : AgentParams} {plant : PlantParams K} {h : K} {i : LCInterface K}
    (hsame : SameLC p plant h i) (hkappa : u p.microgrid.kappa = plant.kappa)
    (hp_max : u p.microgrid.p_max = plant.p_max) (hq_max : u p.microgrid.q_max = plant.q_max)
    (hprofile : p.microgrid.profile = if plant.profile = .rep then 0 else 1) (v : MicrogridVars K)
    (hS1 : v.S1_hat = i.S1) (hS2 : v.S2_hat = i.S2) (gP gQ t : K) :
    mgInterfaceLC lib p.microgrid v gP gQ i.h t =
      let r := i.step lib t v.xP v.xQ v.zP v.zQ gP gQ
      { muP := r.2.aP
        muQ := r.2.aQ
        saturated := r.2.saturated
        vartheta := v.vartheta
        S1_hat := r.1.S1
        S2_hat := r.1.S2
        updates := if r.2.fired then (v.updates + 1) % 2 ^ 32 else v.updates } := by
  have hterm : SameLCTerm p i :=
    { hsame with
      kappa := hkappa.trans hsame.kappa.symm
      profile := by rw [hsame.profile, hprofile]
      p_max := hp_max.trans hsame.p_max.symm
      q_max := hq_max.trans hsame.q_max.symm
      delta_c := by rw [hsame.period, hsame.delta_c] }
  rw [mgInterfaceLC, LCInterface.step]
  simp only [hS1, hS2, hkappa, hsame.p_max ▸ hp_max, hsame.q_max ▸ hq_max, hsame.kappa,
    hsame.mu_max, hsame.beta_c, hsame.gamma_S, hterm.remainder, hterm.regressor, hterm.isTerminal,
    hsame.gate, LCInterface.lam, ← mul_assoc]
  rcases lcTerminal p.microgrid t with _ | _
  · -- The terminal policy is not in force: one command on both sides, and one gate.
    simp only [Bool.false_eq_true, if_false, Bool.not_false, Bool.true_and, sub_add_eq_sub_sub]
    rfl
  · -- The terminal policy zeroes the command and freezes the estimate.
    simp only [if_true, Bool.not_true, Bool.false_and, Bool.false_eq_true, if_false]
    rfl

/-- **Under the LC interface both command the same.** -/
theorem SameConfig.command_lc (hp : SameConfig a.params c) (hs : SameState a c)
    {i : LCInterface K} (hi : c.interface = .lc i) (vs : List ℤ) :
    SameCommand (microgridCommand lib (withHeld a vs)) (c.interfaceStep lib vs) := by
  have hsame : SameLC a.params c.plant.p c.params.dt_s i := by
    have := hp.interface
    rwa [hi] at this
  obtain ⟨hS1, hS2, hupdates, hvartheta⟩ :
      a.vars.mg.S1_hat = i.S1 ∧ a.vars.mg.S2_hat = i.S2 ∧
        a.vars.mg.updates = i.updates % 2 ^ 32 ∧ a.vars.mg.vartheta = 0 := by
    have := hs.adaptation
    rwa [hi] at this
  have hh : mgPeriod (withHeld a vs) = i.h := hp.dt.trans hsame.period.symm
  have ht : mgTime (withHeld a vs) = c.t_s := hp.time hs
  have hcmd : microgridCommand lib (withHeld a vs) =
      mgInterfaceLC lib a.params.microgrid a.vars.mg (c.candidate vs).gP (c.candidate vs).gQ i.h
        c.t_s := by
    rw [microgridCommand, hp.candidate hs, hh, ht, if_pos]
    · rfl
    · rw [withHeld_params, hsame.law]
  have hstep : c.interfaceStep lib vs =
      (.lc (i.step lib c.t_s c.plant.xP c.plant.xQ c.virtual.zP c.virtual.zQ
        (c.candidate vs).gP (c.candidate vs).gQ).1,
      (i.step lib c.t_s c.plant.xP c.plant.xQ c.virtual.zP c.virtual.zQ
        (c.candidate vs).gP (c.candidate vs).gQ).2) := by
    rw [MicrogridController.interfaceStep, hi]
    rfl
  rw [hcmd, hstep, hsame.command hp.kappa hp.p_max hp.q_max hp.profile _ hS1 hS2, hs.xP, hs.xQ,
    hs.zP, hs.zQ, hupdates, hvartheta]
  exact ⟨rfl, rfl, rfl, rfl, rfl, count_mod _ _, rfl⟩

/-- Steps 3 and 4 agree under either interface. -/
theorem SameConfig.command (lib : Libm K) (hp : SameConfig a.params c) (hs : SameState a c)
    (vs : List ℤ) :
    SameCommand (microgridCommand lib (withHeld a vs)) (c.interfaceStep lib vs) := by
  rcases hi : c.interface with i | i
  · exact hp.command_adaptive hs hi vs
  · exact hp.command_lc hs hi vs

/-! ### The emulator -/

/-- Step 5 on the two sides. -/
theorem SameConfig.zeta (hp : SameConfig a.params c) (t : K) :
    mgZeta lib a.params.microgrid c.plant.xP c.plant.xQ t = c.plant.zeta lib t := by
  rw [mgZeta, MicrogridPlant.zeta, hp.kappa, hp.p_max, hp.q_max, hp.S1, hp.S2,
    mgAZeta_eq lib hp.profile]
  rfl

/-! ### One control period -/

section Step

variable [IsStrictOrderedRing K] [FloorRing K]

/-- One control period of the board on the held values `vs`. -/
def boardTick (lib : Libm K) (a : Agent K) (vs : List ℤ) : Agent K :=
  microgridStep lib (withHeld a vs)

@[simp]
theorem boardTick_params (vs : List ℤ) : (boardTick lib a vs).params = a.params := rfl

omit [IsStrictOrderedRing K] [FloorRing K] in
/-- A tick moves no parameter of the host. -/
theorem SameConfig.tick (hp : SameConfig a.params c) (vs : List ℤ) :
    SameConfig a.params (c.tick lib vs) := by
  refine { hp with interface := ?_ }
  have hsame := hp.interface
  rw [MicrogridController.tick_interface, MicrogridController.interfaceStep]
  rcases hi : c.interface with i | i
  · rw [hi] at hsame
    exact { hsame with }
  · rw [hi] at hsame
    exact { hsame with }

/-- **One control period keeps the two sides together.** -/
theorem SameState.tick (hp : SameConfig a.params c) (hs : SameState a c)
    (hcount : c.stepCount + 1 < 2 ^ 31) (vs : List ℤ) :
    SameState (boardTick lib a vs) (c.tick lib vs) := by
  have hcmd := hp.command lib hs vs
  have hzeta : mgZeta lib a.params.microgrid a.vars.mg.xP a.vars.mg.xQ (mgTime (withHeld a vs)) =
      c.plant.zeta lib c.t_s := by
    rw [hs.xP, hs.xQ, ← hp.time hs, ← hp.zeta]
    rfl
  have hh : mgPeriod (withHeld a vs) = c.params.dt_s := hp.dt
  constructor
  · show a.vars.mg.xP + mgPeriod (withHeld a vs) * ((microgridCommand lib (withHeld a vs)).muP +
      (mgZeta lib a.params.microgrid a.vars.mg.xP a.vars.mg.xQ (mgTime (withHeld a vs))).1) = _
    rw [hzeta, hh, hcmd.aP, hs.xP]
    rfl
  · show a.vars.mg.xQ + mgPeriod (withHeld a vs) * ((microgridCommand lib (withHeld a vs)).muQ +
      (mgZeta lib a.params.microgrid a.vars.mg.xP a.vars.mg.xQ (mgTime (withHeld a vs))).2) = _
    rw [hzeta, hh, hcmd.aQ, hs.xQ]
    rfl
  · show (microgridCandidate (withHeld a vs)).zP = (c.candidate vs).zP
    rw [hp.candidate hs]
  · show (microgridCandidate (withHeld a vs)).zQ = (c.candidate vs).zQ
    rw [hp.candidate hs]
  · show (microgridCandidate (withHeld a vs)).c = (c.candidate vs).c
    rw [hp.candidate hs]
  · exact hcmd.adaptation
  · show wrapI32 (a.vars.counter + 1) = _
    rw [hs.counter, MicrogridController.tick_stepCount, wrapI32_of_fits]
    · push_cast
      rfl
    · constructor <;> omega

omit [IsStrictOrderedRing K] [FloorRing K] in
/-- A tick counts at most one update. -/
theorem tick_updates_le (c : MicrogridController K) (vs : List ℤ) :
    (c.tick lib vs).interface.updates ≤ c.interface.updates + 1 := by
  rw [MicrogridController.tick_interface, MicrogridController.interfaceStep]
  rcases c.interface with i | i
  · show (i.step _ _ _ _ _ _).1.updates ≤ i.updates + 1
    dsimp only [AdaptiveInterface.step]
    split_ifs
    · exact le_rfl
    · exact Nat.le_succ _
  · show (i.step lib _ _ _ _ _ _ _).1.updates ≤ i.updates + 1
    dsimp only [LCInterface.step]
    split_ifs
    · exact le_rfl
    · exact Nat.le_succ _

/-! ### A whole run -/

/-- What a run keeps: the two sides are together, and no more updates than ticks were counted. -/
structure Together (a : Agent K) (c : MicrogridController K) : Prop where
  config : SameConfig a.params c
  state : SameState a c
  updates_le : c.interface.updates ≤ c.stepCount

/-- **One step from states that agree comes to states that agree**, below the wrap of the counter.
-/
theorem Together.tick (lib : Libm K) (h : Together a c) (hcount : c.stepCount + 1 < 2 ^ 31)
    (vs : List ℤ) :
    Together (boardTick lib a vs) (c.tick lib vs) where
  config := h.config.tick vs
  state := h.state.tick h.config hcount vs
  updates_le := (tick_updates_le c vs).trans (Nat.succ_le_succ h.updates_le)

/-- **The two sides stay together along every run that the board's counter can count.** -/
theorem Together.run (lib : Libm K) (vss : List (List ℤ)) (h : Together a c)
    (hlen : c.stepCount + vss.length < 2 ^ 31) :
    Together (run (boardTick lib) a vss) (run (MicrogridController.tick lib) c vss) := by
  induction vss generalizing a c with
  | nil => exact h
  | cons vs vss ih =>
    rw [List.length_cons] at hlen
    refine ih (h.tick lib (by omega) vs) ?_
    rw [MicrogridController.tick_stepCount]
    omega

omit [IsStrictOrderedRing K] [FloorRing K] in
/-- While the ticks fit the counter, so do the updates. -/
theorem Together.updates_eq (h : Together a c) (hcount : c.stepCount < 2 ^ 31) :
    a.vars.mg.updates = c.interface.updates := by
  have hle := h.updates_le
  have hsame := h.state.adaptation
  rcases hi : c.interface with i | i
  · rw [hi] at hsame hle
    exact hsame.2.trans (Nat.mod_eq_of_lt (lt_of_le_of_lt hle (by omega)))
  · rw [hi] at hsame hle
    exact hsame.2.2.1.trans (Nat.mod_eq_of_lt (lt_of_le_of_lt hle (by omega)))

omit [IsStrictOrderedRing K] [FloorRing K] in
/-- The host counts its steps. -/
theorem run_stepCount (c : MicrogridController K) (vss : List (List ℤ)) :
    (run (MicrogridController.tick lib) c vss).stepCount = c.stepCount + vss.length := by
  induction vss generalizing c with
  | nil => rfl
  | cons vs vss ih =>
    rw [run_cons, ih, MicrogridController.tick_stepCount, List.length_cons]
    omega

end Step

end Blocks

end VertexTestbed.Conformance
