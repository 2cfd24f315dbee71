import VertexTestbed.Lib.DeadZone
import VertexTestbed.Lib.Runs
import VertexTestbed.Host.Microgrid

/-!
# The dead-zone arm keeps its gain bounded

A controller with the adaptive interface, the `sigma` trigger and a dead zone wider than twice what
the plant mismatch can add in a period, along a run in which no command saturates. Then

* the mismatch never exceeds `zeta_bound` (`MicrogridPlant.zeta_abs_le`);
* the interface error obeys `sigma+ = sigma - h omega + h zeta` (`sigma_tick`), whatever packets
  arrive: the virtual slope enters the command and the virtual state alike, and cancels;
* the correction is a soft threshold on each coordinate (`abs_sub_omega`), so one tick is a
  dead-zone step (`deadZoneStep_tick`) and the increments of the gain are bounded by `gainBound`.
-/

namespace VertexTestbed.Host

variable {K : Type*} [Field K] [LinearOrder K]

namespace MicrogridController

/-- `sigma`, the interface error. -/
def sigma (c : MicrogridController K) : K × K :=
  (c.plant.xP - c.virtual.zP, c.plant.xQ - c.virtual.zQ)

/-- Its size, the trigger of the adaptive interface. -/
def sigmaSize (c : MicrogridController K) : K :=
  |c.sigma.1| + |c.sigma.2|

/-- The mismatch of the current tick. -/
def mismatch (lib : Libm K) (c : MicrogridController K) : K × K :=
  c.plant.zeta lib c.t_s

/-- The command of this tick does not saturate. -/
def Unsaturated (lib : Libm K) (c : MicrogridController K) (vs : List ℤ) : Prop :=
  (c.interfaceStep lib vs).2.saturated = false

instance (lib : Libm K) (c : MicrogridController K) (vs : List ℤ) :
    Decidable (c.Unsaturated lib vs) :=
  inferInstanceAs (Decidable (_ = _))

end MicrogridController

/-- The number of gain increments, or estimator updates, so far. -/
def Interface.updates : Interface K → ℕ
  | .adaptive i => i.updates
  | .lc i => i.updates

/-- The sliding gain; an LC interface has none, and `none` is its NaN. -/
def Interface.vartheta? : Interface K → Option K
  | .adaptive i => some i.vartheta
  | .lc _ => none

variable [IsStrictOrderedRing K]

/-! ### The correction -/

/-- **The clipped correction leaves a soft threshold of the error.** -/
theorem AdaptiveInterface.abs_sub_omega {i : AdaptiveInterface K} (hh : 0 < i.h)
    (hv : 0 ≤ i.vartheta) (s : K) :
    |s - i.h * i.omega s| = softThreshold (i.h * i.vartheta) s := by
  have hmin : i.h * min i.vartheta (|s| / i.h) = min (i.h * i.vartheta) |s| := by
    rw [mul_min_of_nonneg _ _ hh.le, mul_div_cancel₀ _ hh.ne']
  have hlim : 0 ≤ i.h * i.vartheta := mul_nonneg hh.le hv
  have homega : i.h * i.omega s = sgn s * min (i.h * i.vartheta) |s| := by
    rw [omega, mul_left_comm, hmin]
  rw [homega, sgn, softThreshold]
  rcases lt_trichotomy s 0 with hs | rfl | hs
  · rw [if_neg hs.ne, if_neg (not_lt.2 hs.le), abs_of_neg hs]
    rcases le_total (i.h * i.vartheta) (-s) with hle | hle
    · rw [min_eq_left hle, max_eq_left (by linarith), abs_of_nonpos (by linarith)]
      ring
    · rw [min_eq_right hle, max_eq_right (by linarith), abs_eq_zero]
      ring
  · rw [if_pos rfl, zero_mul, sub_zero, abs_zero, max_eq_right (by linarith)]
  · rw [if_neg hs.ne', if_pos hs, abs_of_pos hs]
    rcases le_total (i.h * i.vartheta) s with hle | hle
    · rw [min_eq_left hle, max_eq_left (by linarith), abs_of_nonneg (by linarith)]
      ring
    · rw [min_eq_right hle, max_eq_right (by linarith), abs_eq_zero]
      ring

/-! ### One tick -/

namespace MicrogridController

variable {lib : Libm K} {c : MicrogridController K} {i : AdaptiveInterface K} {vs : List ℤ}

omit [IsStrictOrderedRing K] in
/-- With the adaptive interface a step of the interface is a step of the adaptation. -/
theorem interfaceStep_adaptive (hi : c.interface = .adaptive i) (vs : List ℤ) :
    c.interfaceStep lib vs =
      (.adaptive (i.step c.plant.xP c.plant.xQ c.virtual.zP c.virtual.zQ
        (c.candidate vs).gP (c.candidate vs).gQ).1,
      (i.step c.plant.xP c.plant.xQ c.virtual.zP c.virtual.zQ
        (c.candidate vs).gP (c.candidate vs).gQ).2) := by
  rw [interfaceStep, hi]
  rfl

omit [IsStrictOrderedRing K] in
/-- **`sigma+ = sigma - h omega + h zeta`**, in both coordinates, on an unsaturated tick. -/
theorem sigma_tick (hi : c.interface = .adaptive i) (hsat : c.Unsaturated lib vs) :
    (c.tick lib vs).sigma =
      (c.sigma.1 - c.params.dt_s * i.omega c.sigma.1 + c.params.dt_s * (c.mismatch lib).1,
        c.sigma.2 - c.params.dt_s * i.omega c.sigma.2 + c.params.dt_s * (c.mismatch lib).2) := by
  rw [Unsaturated, interfaceStep_adaptive hi] at hsat
  obtain ⟨hP, hQ⟩ := satCommand_of_not_saturated hsat
  have hxP : (c.tick lib vs).plant.xP = c.plant.xP + c.params.dt_s *
      ((c.candidate vs).gP - i.omega c.sigma.1 + (c.mismatch lib).1) := by
    rw [tick_plant, interfaceStep_adaptive hi]
    show c.plant.xP + c.params.dt_s * (satCommand _ _ + _) = _
    rw [hP]
    rfl
  have hxQ : (c.tick lib vs).plant.xQ = c.plant.xQ + c.params.dt_s *
      ((c.candidate vs).gQ - i.omega c.sigma.2 + (c.mismatch lib).2) := by
    rw [tick_plant, interfaceStep_adaptive hi]
    show c.plant.xQ + c.params.dt_s * (satCommand _ _ + _) = _
    rw [hQ]
    rfl
  have hzP : (c.tick lib vs).virtual.zP = c.virtual.zP + c.params.dt_s * (c.candidate vs).gP := rfl
  have hzQ : (c.tick lib vs).virtual.zQ = c.virtual.zQ + c.params.dt_s * (c.candidate vs).gQ := rfl
  refine Prod.ext ?_ ?_
  · show (c.tick lib vs).plant.xP - (c.tick lib vs).virtual.zP = _
    rw [hxP, hzP, sigma]
    ring
  · show (c.tick lib vs).plant.xQ - (c.tick lib vs).virtual.zQ = _
    rw [hxQ, hzQ, sigma]
    ring

/-- The error size after an unsaturated tick. -/
theorem sigmaSize_tick_le (hi : c.interface = .adaptive i) (hh : i.h = c.params.dt_s)
    (hv : 0 ≤ i.vartheta) (hsat : c.Unsaturated lib vs) {bound : K}
    (hbound : |(c.mismatch lib).1| + |(c.mismatch lib).2| ≤ bound) :
    (c.tick lib vs).sigmaSize ≤
      softThreshold (i.h * i.vartheta) c.sigma.1 + softThreshold (i.h * i.vartheta) c.sigma.2 +
        i.h * bound := by
  have hpos : 0 < i.h := hh ▸ c.params.dt_pos
  have hP := abs_add_le (c.sigma.1 - i.h * i.omega c.sigma.1) (i.h * (c.mismatch lib).1)
  have hQ := abs_add_le (c.sigma.2 - i.h * i.omega c.sigma.2) (i.h * (c.mismatch lib).2)
  rw [AdaptiveInterface.abs_sub_omega hpos hv, abs_mul, abs_of_pos hpos] at hP hQ
  have hscaled := mul_le_mul_of_nonneg_left hbound hpos.le
  rw [sigmaSize, sigma_tick hi hsat, ← hh]
  linarith

omit [IsStrictOrderedRing K] in
/-- What a tick does to the adaptive interface: an increment exactly outside the dead zone. -/
theorem tick_adaptive (lib : Libm K) (hi : c.interface = .adaptive i) (htrig : i.p.trigger = .sigma)
    (vs : List ℤ) :
    (c.tick lib vs).interface =
      .adaptive (if i.p.eps < c.sigmaSize then
        { i with vartheta := i.vartheta + i.p.gamma, updates := i.updates + 1 } else i) := by
  rw [tick_interface, interfaceStep_adaptive hi]
  dsimp only [AdaptiveInterface.step]
  rw [htrig]
  congr 1
  by_cases hfired : i.p.eps < c.sigmaSize
  · rw [if_pos hfired]
    have hdec : decide (i.p.eps < |c.plant.xP - c.virtual.zP| + |c.plant.xQ - c.virtual.zQ|) =
        true := decide_eq_true hfired
    simp only [hdec, if_true]
  · rw [if_neg hfired]
    have hdec : decide (i.p.eps < |c.plant.xP - c.virtual.zP| + |c.plant.xQ - c.virtual.zQ|) =
        false := decide_eq_false hfired
    simp only [hdec, Bool.false_eq_true, if_false]

end MicrogridController

/-! ### The hypotheses and the bound -/

/-- The dead-zone arm: the adaptive interface with the `sigma` trigger and a dead zone wider than
twice what the mismatch can add in one period. The manifest refuses ratings that are not positive.
-/
structure DeadZoneArm (p : ControllerParams K) (ap : AdaptiveParams K) : Prop where
  interface : p.interface = .adaptive ap
  trigger : ap.trigger = .sigma
  gamma_pos : 0 < ap.gamma
  vartheta0_nonneg : 0 ≤ ap.vartheta0
  eps_gt : 2 * p.dt_s * p.plant.zetaBound < ap.eps
  p_max_pos : 0 < p.plant.p_max
  q_max_pos : 0 < p.plant.q_max

/-- The number of increments after which the correction clips at half the dead zone. -/
def saturatingUpdates [FloorRing K] (p : ControllerParams K) (ap : AdaptiveParams K) : ℕ :=
  ⌈(ap.eps / 2 / p.dt_s - ap.vartheta0) / ap.gamma⌉₊

/-- The bound on the increments: fixed by the first error, `vartheta0`, `gamma`, `eps`, `h` and
`zeta_bound`. -/
def gainBound [FloorRing K] (p : ControllerParams K) (ap : AdaptiveParams K) : ℕ :=
  deadZoneBound ap.eps (p.dt_s * p.plant.zetaBound) (ap.eps / 2 - p.dt_s * p.plant.zetaBound)
    (saturatingUpdates p ap) (MicrogridController.init p).sigmaSize

/-- The bound on the plant's drift is not negative. -/
theorem PlantParams.zetaBound_nonneg (p : PlantParams K) (hp : 0 ≤ p.p_max) (hq : 0 ≤ p.q_max) :
    0 ≤ p.zetaBound := by
  have hkappa := p.kappa_pos
  rw [PlantParams.zetaBound]
  positivity

/-- What an unsaturated run of the dead-zone arm keeps. -/
structure DeadZoneArmInv [FloorRing K] (p : ControllerParams K) (ap : AdaptiveParams K)
    (c : MicrogridController K) (i : AdaptiveInterface K) : Prop where
  params : c.params = p
  plant : c.plant.p = p.plant
  interface : c.interface = .adaptive i
  p_eq : i.p = ap
  h_eq : i.h = p.dt_s
  vartheta : i.vartheta = ap.vartheta0 + ap.gamma * i.updates
  counter : DeadZoneInv ap.eps (p.dt_s * p.plant.zetaBound)
    (ap.eps / 2 - p.dt_s * p.plant.zetaBound) (saturatingUpdates p ap)
    (MicrogridController.init p).sigmaSize c.sigmaSize i.updates

section Arm

variable [FloorRing K] {p : ControllerParams K} {ap : AdaptiveParams K} {lib : Libm K}
  {c : MicrogridController K} {i : AdaptiveInterface K}

omit [FloorRing K] in
/-- Nor is the mismatch it makes in one period. -/
theorem DeadZoneArm.mismatch_nonneg (harm : DeadZoneArm p ap) :
    0 ≤ p.dt_s * p.plant.zetaBound :=
  mul_nonneg p.dt_pos.le
    (p.plant.zetaBound_nonneg harm.p_max_pos.le harm.q_max_pos.le)

omit [FloorRing K] in
/-- Outside the dead zone the error shrinks. -/
theorem DeadZoneArm.drop_pos (harm : DeadZoneArm p ap) :
    0 < ap.eps / 2 - p.dt_s * p.plant.zetaBound := by
  have heps := harm.eps_gt
  linarith

/-- **The invariant holds of a new controller.** -/
theorem DeadZoneArmInv.init (harm : DeadZoneArm p ap) :
    DeadZoneArmInv p ap (.init p) (.init ap p.dt_s) where
  params := rfl
  plant := rfl
  interface := by
    show p.interface.make p.dt_s = _
    rw [harm.interface]
    rfl
  p_eq := rfl
  h_eq := rfl
  vartheta := by simp [AdaptiveInterface.init]
  counter := .init harm.mismatch_nonneg harm.drop_pos.le

/-- The gain never goes negative. -/
theorem DeadZoneArmInv.vartheta_nonneg (harm : DeadZoneArm p ap)
    (hinv : DeadZoneArmInv p ap c i) : 0 ≤ i.vartheta := by
  rw [hinv.vartheta]
  exact add_nonneg harm.vartheta0_nonneg
    (mul_nonneg harm.gamma_pos.le (Nat.cast_nonneg _))

/-- From `saturatingUpdates` increments on, the correction reaches half the dead zone. -/
theorem DeadZoneArmInv.half_le (harm : DeadZoneArm p ap) (hinv : DeadZoneArmInv p ap c i)
    (hN : saturatingUpdates p ap ≤ i.updates) : ap.eps / 2 ≤ i.h * i.vartheta := by
  have hceil : (ap.eps / 2 / p.dt_s - ap.vartheta0) / ap.gamma ≤ i.updates :=
    Nat.ceil_le.1 hN
  rw [div_le_iff₀ harm.gamma_pos] at hceil
  have hgain : ap.eps / 2 / p.dt_s ≤ i.vartheta := by
    rw [hinv.vartheta]
    linarith
  rw [div_le_iff₀ p.dt_pos] at hgain
  rw [hinv.h_eq, mul_comm]
  exact hgain

/-- The mismatch of a tick stays inside the bound. -/
theorem DeadZoneArmInv.mismatch_le (hlib : Libm.Bounded lib) (harm : DeadZoneArm p ap)
    (hinv : DeadZoneArmInv p ap c i) :
    |(c.mismatch lib).1| + |(c.mismatch lib).2| ≤ p.plant.zetaBound := by
  have ht : 0 ≤ c.t_s := mul_nonneg (Nat.cast_nonneg _) c.params.dt_pos.le
  have hle := c.plant.zeta_abs_le hlib ht (by rw [hinv.plant]; exact harm.p_max_pos.le)
    (by rw [hinv.plant]; exact harm.q_max_pos.le)
  rwa [hinv.plant] at hle

/-- **One unsaturated tick is a dead-zone step.** -/
theorem DeadZoneArmInv.deadZoneStep_tick (hlib : Libm.Bounded lib) (harm : DeadZoneArm p ap)
    (hinv : DeadZoneArmInv p ap c i) {vs : List ℤ} (hsat : c.Unsaturated lib vs) :
    DeadZoneStep ap.eps (p.dt_s * p.plant.zetaBound) (ap.eps / 2 - p.dt_s * p.plant.zetaBound)
      (saturatingUpdates p ap) c.sigmaSize i.updates (c.tick lib vs).sigmaSize
      (if ap.eps < c.sigmaSize then i.updates + 1 else i.updates) := by
  have hv := hinv.vartheta_nonneg harm
  have hh : i.h = c.params.dt_s := by rw [hinv.h_eq, hinv.params]
  have hlim : 0 ≤ i.h * i.vartheta := mul_nonneg (by rw [hinv.h_eq]; exact p.dt_pos.le) hv
  have heps : 0 ≤ ap.eps := ap.eps_nonneg
  have hsize := MicrogridController.sigmaSize_tick_le hinv.interface hh hv hsat
    (hinv.mismatch_le hlib harm)
  rw [hinv.h_eq] at hsize hlim
  have hP := softThreshold_le_abs hlim c.sigma.1
  have hQ := softThreshold_le_abs hlim c.sigma.2
  have hhalf := hinv.half_le harm
  rw [hinv.h_eq] at hhalf
  have hdrop := harm.drop_pos
  constructor
  · intro hquiet
    refine ⟨if_neg (not_lt.2 hquiet), ?_, fun hN ↦ ?_⟩
    · have hs : |c.sigma.1| + |c.sigma.2| ≤ ap.eps := hquiet
      linarith
    · have hzone := softThreshold_add_le_of_quiet (hhalf hN) heps hquiet
      linarith
  · intro hfired
    refine ⟨if_pos hfired, ?_, fun hN ↦ ?_⟩
    · show _ ≤ |c.sigma.1| + |c.sigma.2| + _
      linarith
    · have hzone := softThreshold_add_le_of_fired (hhalf hN) heps hfired
      show _ ≤ |c.sigma.1| + |c.sigma.2| - _
      linarith

/-- The invariant survives an unsaturated tick. -/
theorem DeadZoneArmInv.tick (hlib : Libm.Bounded lib) (harm : DeadZoneArm p ap)
    (hinv : DeadZoneArmInv p ap c i) {vs : List ℤ} (hsat : c.Unsaturated lib vs) :
    ∃ i', DeadZoneArmInv p ap (c.tick lib vs) i' := by
  have hstep := hinv.deadZoneStep_tick hlib harm hsat
  have htrig : i.p.trigger = .sigma := by rw [hinv.p_eq, harm.trigger]
  have hiface := MicrogridController.tick_adaptive lib hinv.interface htrig vs
  rw [hinv.p_eq] at hiface
  have hcounter := hinv.counter.step harm.mismatch_nonneg harm.drop_pos.le hstep
  refine ⟨_, hinv.params, hinv.plant, hiface, ?_, ?_, ?_, ?_⟩
  · split_ifs
    · rfl
    · exact hinv.p_eq
  · split_ifs
    · exact hinv.h_eq
    · exact hinv.h_eq
  · split_ifs
    · show i.vartheta + ap.gamma = ap.vartheta0 + ap.gamma * ((i.updates + 1 : ℕ) : K)
      rw [hinv.vartheta]
      push_cast
      ring
    · exact hinv.vartheta
  · split_ifs at hcounter ⊢ with hfired
    · exact hcounter
    · exact hcounter

/-- Every unsaturated run keeps the invariant. -/
theorem DeadZoneArmInv.run (hlib : Libm.Bounded lib) (harm : DeadZoneArm p ap)
    {xs : List (List ℤ)}
    (h : Runs.Guarded (MicrogridController.tick lib) (MicrogridController.Unsaturated lib)
      (.init p) xs) :
    ∃ i, DeadZoneArmInv p ap (Runs.run (MicrogridController.tick lib) (.init p) xs) i := by
  refine Runs.Guarded.invariant (P := fun c ↦ ∃ i, DeadZoneArmInv p ap c i) ?_
    ⟨_, .init harm⟩ h
  rintro c vs ⟨i, hinv⟩ hsat
  exact hinv.tick hlib harm hsat

/-- The state a controller is in after the first `n` packets of a stream. -/
def MicrogridController.after (lib : Libm K) (p : ControllerParams K) (packets : ℕ → List ℤ)
    (n : ℕ) : MicrogridController K :=
  Runs.run (MicrogridController.tick lib) (.init p) ((List.range n).map packets)

omit [IsStrictOrderedRing K] [FloorRing K] in
/-- After one more packet the controller has ticked once more. -/
theorem MicrogridController.after_succ (lib : Libm K) (p : ControllerParams K)
    (packets : ℕ → List ℤ) (n : ℕ) :
    MicrogridController.after lib p packets (n + 1) =
      (MicrogridController.after lib p packets n).tick lib (packets n) := by
  rw [after, List.range_succ, List.map_append, List.map_singleton, Runs.run_concat]
  rfl

omit [IsStrictOrderedRing K] [FloorRing K] in
/-- A controller whose ticks do not saturate runs under that guard. -/
theorem MicrogridController.after_guarded {packets : ℕ → List ℤ}
    (h : ∀ n, (MicrogridController.after lib p packets n).Unsaturated lib (packets n)) (n : ℕ) :
    Runs.Guarded (MicrogridController.tick lib) (MicrogridController.Unsaturated lib)
      (.init p) ((List.range n).map packets) := by
  induction n with
  | zero => exact trivial
  | succ n ih =>
    rw [List.range_succ, List.map_append, Runs.guarded_append]
    exact ⟨ih, h n, trivial⟩

omit [IsStrictOrderedRing K] [FloorRing K] in
/-- The increments along a stream never decrease. -/
theorem MicrogridController.updates_le_tick (lib : Libm K) (c : MicrogridController K)
    (vs : List ℤ) : c.interface.updates ≤ (c.tick lib vs).interface.updates := by
  rw [tick_interface, interfaceStep]
  cases c.interface with
  | adaptive i =>
    show i.updates ≤ (i.step _ _ _ _ _ _).1.updates
    dsimp only [AdaptiveInterface.step]
    split_ifs
    · exact Nat.le_succ _
    · exact le_rfl
  | lc i =>
    show i.updates ≤ (i.step lib _ _ _ _ _ _ _).1.updates
    dsimp only [LCInterface.step]
    split_ifs
    · exact Nat.le_succ _
    · exact le_rfl

end Arm

/-- **The dead-zone arm keeps its adaptive gain bounded.** Along every unsaturated run, at every
tick: the mismatch is at most `zeta_bound`, the error obeys its recursion on the correction `omega`
of the interface, the gain is `vartheta0` plus `gamma` an increment, and the increments are at most
`gainBound`; so along every unsaturated stream of packets the gain is eventually constant. -/
theorem deadZoneArm_gain_bounded [FloorRing K] {lib : Libm K} (hlib : Libm.Bounded lib)
    {p : ControllerParams K} {ap : AdaptiveParams K} (harm : DeadZoneArm p ap) :
    (∀ (xs : List (List ℤ)) (vs : List ℤ),
      Runs.Guarded (MicrogridController.tick lib) (MicrogridController.Unsaturated lib)
        (.init p) (xs ++ [vs]) →
      let c := Runs.run (MicrogridController.tick lib) (.init p) xs
      let out := (c.interfaceStep lib vs).2
      let c' := c.tick lib vs
      |(c.mismatch lib).1| + |(c.mismatch lib).2| ≤ p.plant.zetaBound ∧
        (∃ i, c.interface = .adaptive i ∧
          out.wP = i.omega c.sigma.1 ∧ out.wQ = i.omega c.sigma.2) ∧
        c'.sigma = (c.sigma.1 - p.dt_s * out.wP + p.dt_s * (c.mismatch lib).1,
          c.sigma.2 - p.dt_s * out.wQ + p.dt_s * (c.mismatch lib).2) ∧
        c'.interface.vartheta? = some (ap.vartheta0 + ap.gamma * c'.interface.updates) ∧
        c'.interface.updates ≤ gainBound p ap) ∧
    (∀ packets : ℕ → List ℤ,
      (∀ n, (MicrogridController.after lib p packets n).Unsaturated lib (packets n)) →
      ∃ n₀, ∀ n, n₀ ≤ n →
        (MicrogridController.after lib p packets n).interface.vartheta? =
          (MicrogridController.after lib p packets n₀).interface.vartheta?) := by
  -- The gain is a function of the number of increments, and that number is bounded.
  have hvartheta : ∀ {c : MicrogridController K} {i : AdaptiveInterface K},
      DeadZoneArmInv p ap c i →
        c.interface.vartheta? = some (ap.vartheta0 + ap.gamma * c.interface.updates) ∧
        c.interface.updates ≤ gainBound p ap := by
    intro c i hinv
    rw [hinv.interface]
    exact ⟨congrArg some hinv.vartheta, hinv.counter.le_bound harm.drop_pos⟩
  constructor
  · intro xs vs hguard
    rw [Runs.guarded_append] at hguard
    obtain ⟨hxs, hsat, -⟩ := hguard
    obtain ⟨i, hinv⟩ := DeadZoneArmInv.run hlib harm hxs
    obtain ⟨i', hinv'⟩ := hinv.tick hlib harm hsat
    have hout : MicrogridController.interfaceStep lib _ vs = _ :=
      MicrogridController.interfaceStep_adaptive hinv.interface vs
    refine ⟨hinv.mismatch_le hlib harm, ⟨i, hinv.interface, ?_, ?_⟩, ?_, hvartheta hinv'⟩
    · rw [hout]
      rfl
    · rw [hout]
      rfl
    · rw [MicrogridController.sigma_tick hinv.interface hsat, hinv.params, hout]
      rfl
  · intro packets hsat
    have hinv : ∀ n, ∃ i, DeadZoneArmInv p ap (MicrogridController.after lib p packets n) i :=
      fun n ↦ DeadZoneArmInv.run hlib harm (MicrogridController.after_guarded hsat n)
    -- Monotone and bounded, the number of increments is constant from some packet on.
    have hmono : Monotone fun n ↦
        (MicrogridController.after lib p packets n).interface.updates := by
      refine monotone_nat_of_le_succ fun n ↦ ?_
      rw [MicrogridController.after_succ]
      exact MicrogridController.updates_le_tick lib _ _
    obtain ⟨n₀, hn₀⟩ := exists_eventually_eq_of_monotone hmono fun n ↦
      (hvartheta (hinv n).choose_spec).2
    refine ⟨n₀, fun n hn ↦ ?_⟩
    rw [(hvartheta (hinv n).choose_spec).1, (hvartheta (hinv n₀).choose_spec).1]
    exact congrArg (fun u : ℕ ↦ some (ap.vartheta0 + ap.gamma * u)) (hn₀ n hn)

/-! ### A node off the origin -/

/-- The sample interface, with a gain step that brings the node in within a few ticks. -/
def briskAdaptive : AdaptiveParams ℚ :=
  { sampleAdaptive with gamma := 1, gamma_nonneg := zero_le_one }

/-- The sample node without the reference, started a tenth off the origin. -/
def offOrigin : ControllerParams ℚ :=
  let p := sampleParams (.adaptive briskAdaptive)
  { p with
    virtual :=
      { p.virtual with b := 0, rP := 0, b_nonneg := le_rfl, unpinned := fun _ ↦ ⟨rfl, rfl⟩ }
    state0_P := 1 / 10
    D_pos := by norm_num [p, sampleParams] }

/-- The sample is an arm with a dead zone. -/
theorem offOrigin_deadZoneArm : DeadZoneArm offOrigin briskAdaptive where
  interface := rfl
  trigger := rfl
  gamma_pos := by norm_num [briskAdaptive]
  vartheta0_nonneg := by norm_num [briskAdaptive, sampleAdaptive]
  eps_gt := by
    norm_num [briskAdaptive, sampleAdaptive, offOrigin, sampleParams, PlantParams.zetaBound]
  p_max_pos := by norm_num [offOrigin, sampleParams]
  q_max_pos := by norm_num [offOrigin, sampleParams]

/-- At rest at the origin, under the parameters of `offOrigin`. -/
structure MicrogridController.AtRest (c : MicrogridController ℚ) : Prop where
  xP : c.plant.xP = 0
  xQ : c.plant.xQ = 0
  virtual_p : c.virtual.p = offOrigin.virtual
  degree : c.virtual.degree = 1
  zP : c.virtual.zP = 0
  zQ : c.virtual.zQ = 0
  interface : ∃ i, c.interface = .adaptive i ∧ i.p = briskAdaptive

namespace MicrogridController.AtRest

variable {c : MicrogridController ℚ}

/-- Nothing moves the virtual state: what it holds is at the origin too. -/
theorem candidate_eq (h : c.AtRest) :
    (c.candidate [0, 0]).zP = 0 ∧ (c.candidate [0, 0]).zQ = 0 ∧
      (c.candidate [0, 0]).gP = 0 ∧ (c.candidate [0, 0]).gQ = 0 := by
  have hsnapshot : snapshot c.virtual.degree [0, 0] = [((0 : ℚ), (0 : ℚ))] := by
    rw [h.degree]
    decide +kernel
  have hb : c.virtual.p.b = 0 := by rw [h.virtual_p]; rfl
  have hw : (c.held [0, 0]).wP = 0 ∧ (c.held [0, 0]).wQ = 0 := by
    simp [held, VirtualLayer.hold, hsnapshot, hb]
  have hz : (c.held [0, 0]).zP = 0 ∧ (c.held [0, 0]).zQ = 0 := ⟨h.zP, h.zQ⟩
  simp [candidate, VirtualLayer.candidate, hw, hz]

/-- So the command is zero, and so is the error it answers. -/
theorem interfaceStep_eq (h : c.AtRest) :
    ∃ i, i.p = briskAdaptive ∧
      c.interfaceStep .atZero [0, 0] =
        (.adaptive i, ⟨0, 0, 0, 0, 0, 0, 0, 0, false, 0, false⟩) := by
  obtain ⟨-, -, hgP, hgQ⟩ := h.candidate_eq
  obtain ⟨⟨p, gain, vartheta, updates⟩, hi, rfl⟩ := h.interface
  refine ⟨⟨briskAdaptive, gain, vartheta, updates⟩, rfl, ?_⟩
  rw [interfaceStep_adaptive hi, hgP, hgQ, h.xP, h.xQ, h.zP, h.zQ]
  norm_num [AdaptiveInterface.step, AdaptiveInterface.omega, sgn, briskAdaptive, sampleAdaptive,
    satCommand, isSaturated]

/-- A controller at rest does not saturate. -/
theorem unsaturated (h : c.AtRest) : c.Unsaturated .atZero [0, 0] := by
  obtain ⟨i, -, hstep⟩ := h.interfaceStep_eq
  rw [Unsaturated, hstep]

/-- A node at rest stays there. -/
theorem tick (h : c.AtRest) : (c.tick .atZero [0, 0]).AtRest := by
  obtain ⟨i, hp, hstep⟩ := h.interfaceStep_eq
  obtain ⟨hzP, hzQ, -, -⟩ := h.candidate_eq
  refine ⟨?_, ?_, h.virtual_p, h.degree, hzP, hzQ, i, ?_, hp⟩
  · rw [tick_plant, hstep]
    simp [MicrogridPlant.step, MicrogridPlant.zeta, smoothSaturation, Libm.atZero, h.xP]
  · rw [tick_plant, hstep]
    simp [MicrogridPlant.step, MicrogridPlant.zeta, smoothSaturation, Libm.atZero, h.xQ]
  · rw [tick_interface, hstep]

end MicrogridController.AtRest

/-- After four ticks beside a neighbour at the origin the node is there too. -/
theorem offOrigin_atRest (n : ℕ) :
    (MicrogridController.after .atZero offOrigin (fun _ ↦ [0, 0]) (4 + n)).AtRest := by
  induction n with
  | zero =>
    refine ⟨?_, ?_, rfl, rfl, ?_, ?_, ⟨_, rfl, rfl⟩⟩
    all_goals decide +kernel
  | succ n ih =>
    rw [← Nat.add_assoc, MicrogridController.after_succ]
    exact ih.tick

/-- Beside a neighbour at the origin the node never saturates. -/
theorem offOrigin_unsaturated (n : ℕ) :
    (MicrogridController.after .atZero offOrigin (fun _ ↦ [0, 0]) n).Unsaturated
      .atZero [0, 0] := by
  rcases Nat.lt_or_ge n 4 with hn | hn
  · interval_cases n <;> decide +kernel
  · obtain ⟨m, rfl⟩ := Nat.exists_eq_add_of_le hn
    exact (offOrigin_atRest m).unsaturated

/-- Beside a neighbour at the origin the fourth tick brings the node in, with the fourth increment,
and from some tick on its gain is constant. -/
theorem deadZoneArm_gain_bounded_offOrigin :
    let c := Runs.run (MicrogridController.tick .atZero) (.init offOrigin) [[0, 0], [0, 0], [0, 0]]
    let out := (c.interfaceStep .atZero [0, 0]).2
    let c' := c.tick .atZero [0, 0]
    (|(c.mismatch .atZero).1| + |(c.mismatch .atZero).2| ≤ offOrigin.plant.zetaBound ∧
      (∃ i, c.interface = .adaptive i ∧
        out.wP = i.omega c.sigma.1 ∧ out.wQ = i.omega c.sigma.2) ∧
      c'.sigma = (c.sigma.1 - offOrigin.dt_s * out.wP + offOrigin.dt_s * (c.mismatch .atZero).1,
        c.sigma.2 - offOrigin.dt_s * out.wQ + offOrigin.dt_s * (c.mismatch .atZero).2) ∧
      c'.interface.vartheta? =
        some (briskAdaptive.vartheta0 + briskAdaptive.gamma * c'.interface.updates) ∧
      c'.interface.updates ≤ gainBound offOrigin briskAdaptive) ∧
    (c.sigma.1 = 1 / 40 ∧ c'.sigma.1 = 0 ∧ c'.interface.updates = 4) ∧
    ∃ n₀, ∀ n, n₀ ≤ n →
      (MicrogridController.after .atZero offOrigin (fun _ ↦ [0, 0]) n).interface.vartheta? =
        (MicrogridController.after .atZero offOrigin (fun _ ↦ [0, 0]) n₀).interface.vartheta? :=
  ⟨(deadZoneArm_gain_bounded atZero_bounded offOrigin_deadZoneArm).1
      [[0, 0], [0, 0], [0, 0]] [0, 0] (by decide +kernel),
    by decide +kernel,
    (deadZoneArm_gain_bounded atZero_bounded offOrigin_deadZoneArm).2 (fun _ ↦ [0, 0])
      offOrigin_unsaturated⟩

end VertexTestbed.Host
