import VertexTestbed.Numeric

/-!
# The generator emulator

`controllers/plant.py`. The matched uncertainty passes through a smooth rating limiter, so its size
is bounded whatever the state does; `zetaBound` is that bound, computed by the source and only used
for analysis. `zeta_abs_le` proves it from the bounds of the two functions of the math library that
it needs, `|tanh| ≤ 1` and a time profile of size at most `1e-3`.

`PlantParams` carries its `__post_init__` check as a field. The input gain `b`, which only converts
commands to physical units for display, is left out.
-/

namespace VertexTestbed.Host

variable {K : Type*} [Field K] [LinearOrder K]

/-- `PROFILES`: the two uncertainty profiles. -/
inductive Profile where
  | rep
  | per
  deriving DecidableEq

/-- `a_zeta`: the scalar uncertainty profile. -/
def aZeta (lib : Libm K) (profile : Profile) (t_s : K) : K :=
  match profile with
  | .rep => 1 / 1000 * lib.exp (-5 * t_s)
  | .per => 1 / 1000 * (3 / 4 + 1 / 4 * lib.sin (1 / 10 * t_s))

/-- `smooth_saturation`: the rating limiter. -/
def smoothSaturation (lib : Libm K) (p q p_max q_max : K) : K × K :=
  (p_max * lib.tanh (p / p_max), q_max * lib.tanh (q / q_max))

/-- `PlantParams`: one generator's data. -/
structure PlantParams (K : Type*) [Field K] [LinearOrder K] where
  kappa : K
  S1 : K
  S2 : K
  profile : Profile
  p_max : K
  q_max : K
  kappa_pos : 0 < kappa

/-- `PlantParams.zeta_bound`, in the 1-norm. -/
def PlantParams.zetaBound (p : PlantParams K) : K :=
  1 / 1000 / p.kappa * (p.p_max + p.q_max) * (|p.S1| + |p.S2|)

/-- `MicrogridPlant`: the normalized state. -/
structure MicrogridPlant (K : Type*) [Field K] [LinearOrder K] where
  p : PlantParams K
  xP : K
  xQ : K

namespace MicrogridPlant

/-- `MicrogridPlant.zeta`: the matched uncertainty at the current state. -/
def zeta (lib : Libm K) (x : MicrogridPlant K) (t_s : K) : K × K :=
  let s := smoothSaturation lib (x.p.kappa * x.xP) (x.p.kappa * x.xQ) x.p.p_max x.p.q_max
  let a := aZeta lib x.p.profile t_s / x.p.kappa
  (a * (s.1 * x.p.S1 + s.2 * x.p.S2), a * (s.2 * x.p.S1 - s.1 * x.p.S2))

/-- `MicrogridPlant.step`: one forward-Euler update on the applied command. -/
def step (lib : Libm K) (x : MicrogridPlant K) (muP muQ t_s h : K) : MicrogridPlant K :=
  let z := x.zeta lib t_s
  { x with xP := x.xP + h * (muP + z.1), xQ := x.xQ + h * (muQ + z.2) }

@[simp]
theorem step_p (lib : Libm K) (x : MicrogridPlant K) (muP muQ t_s h : K) :
    (x.step lib muP muQ t_s h).p = x.p := rfl

end MicrogridPlant

/-! ### The bound on the uncertainty -/

/-- What the analysis assumes of the math library: `|tanh| ≤ 1`, `|sin| ≤ 1`, and `0 ≤ exp (-s) ≤ 1`
for `s ≥ 0`. -/
structure Libm.Bounded (lib : Libm K) : Prop where
  abs_tanh_le : ∀ x, |lib.tanh x| ≤ 1
  abs_sin_le : ∀ x, |lib.sin x| ≤ 1
  exp_neg_nonneg : ∀ s, 0 ≤ s → 0 ≤ lib.exp (-s)
  exp_neg_le_one : ∀ s, 0 ≤ s → lib.exp (-s) ≤ 1

theorem atZero_bounded : Libm.Bounded Libm.atZero where
  abs_tanh_le _ := by norm_num [Libm.atZero]
  abs_sin_le _ := by norm_num [Libm.atZero]
  exp_neg_nonneg _ _ := by norm_num [Libm.atZero]
  exp_neg_le_one _ _ := by norm_num [Libm.atZero]

section Bound

variable [IsStrictOrderedRing K] {lib : Libm K}

/-- Neither profile exceeds `1e-3` in size from the trigger on. -/
theorem abs_aZeta_le (hlib : Libm.Bounded lib) (profile : Profile) {t_s : K} (ht : 0 ≤ t_s) :
    |aZeta lib profile t_s| ≤ 1 / 1000 := by
  cases profile with
  | rep =>
    have hs : (0 : K) ≤ 5 * t_s := by linarith
    have hlo := hlib.exp_neg_nonneg (5 * t_s) hs
    have hhi := hlib.exp_neg_le_one (5 * t_s) hs
    rw [aZeta, neg_mul, abs_of_nonneg (by linarith)]
    linarith
  | per =>
    obtain ⟨hlo, hhi⟩ := abs_le.1 (hlib.abs_sin_le (1 / 10 * t_s))
    rw [aZeta, abs_le]
    constructor <;> linarith

/-- The limiter keeps each coordinate inside its rating. -/
theorem abs_smoothSaturation_le (hlib : Libm.Bounded lib) (p q : K) {p_max q_max : K}
    (hp : 0 ≤ p_max) (hq : 0 ≤ q_max) :
    |(smoothSaturation lib p q p_max q_max).1| ≤ p_max ∧
      |(smoothSaturation lib p q p_max q_max).2| ≤ q_max := by
  constructor
  · rw [smoothSaturation, abs_mul, abs_of_nonneg hp]
    exact mul_le_of_le_one_right hp (hlib.abs_tanh_le _)
  · rw [smoothSaturation, abs_mul, abs_of_nonneg hq]
    exact mul_le_of_le_one_right hq (hlib.abs_tanh_le _)

/-- **The matched uncertainty never exceeds `zetaBound` in the 1-norm**, at any state and from the
trigger on, for nonnegative ratings. -/
theorem MicrogridPlant.zeta_abs_le (hlib : Libm.Bounded lib) (x : MicrogridPlant K) {t_s : K}
    (ht : 0 ≤ t_s) (hp : 0 ≤ x.p.p_max) (hq : 0 ≤ x.p.q_max) :
    |(x.zeta lib t_s).1| + |(x.zeta lib t_s).2| ≤ x.p.zetaBound := by
  obtain ⟨hs₁, hs₂⟩ := abs_smoothSaturation_le hlib (x.p.kappa * x.xP) (x.p.kappa * x.xQ) hp hq
  set s := smoothSaturation lib (x.p.kappa * x.xP) (x.p.kappa * x.xQ) x.p.p_max x.p.q_max with hs
  set a := aZeta lib x.p.profile t_s / x.p.kappa with ha
  have hkappa := x.p.kappa_pos
  have habs : |a| ≤ 1 / 1000 / x.p.kappa := by
    rw [ha, abs_div, abs_of_pos hkappa]
    exact div_le_div_of_nonneg_right (abs_aZeta_le hlib _ ht) hkappa.le
  -- Each coordinate splits by the triangle inequality; the four products regroup.
  have hsum : |s.1 * x.p.S1 + s.2 * x.p.S2| + |s.2 * x.p.S1 - s.1 * x.p.S2| ≤
      (x.p.p_max + x.p.q_max) * (|x.p.S1| + |x.p.S2|) := by
    calc |s.1 * x.p.S1 + s.2 * x.p.S2| + |s.2 * x.p.S1 - s.1 * x.p.S2|
        ≤ (|s.1| * |x.p.S1| + |s.2| * |x.p.S2|) + (|s.2| * |x.p.S1| + |s.1| * |x.p.S2|) := by
          refine add_le_add ?_ ?_
          · rw [← abs_mul, ← abs_mul]
            exact abs_add_le _ _
          · rw [← abs_mul, ← abs_mul]
            exact abs_sub _ _
      _ = (|s.1| + |s.2|) * (|x.p.S1| + |x.p.S2|) := by ring
      _ ≤ (x.p.p_max + x.p.q_max) * (|x.p.S1| + |x.p.S2|) :=
          mul_le_mul_of_nonneg_right (add_le_add hs₁ hs₂) (by positivity)
  have hzeta : x.zeta lib t_s =
      (a * (s.1 * x.p.S1 + s.2 * x.p.S2), a * (s.2 * x.p.S1 - s.1 * x.p.S2)) := rfl
  rw [hzeta, abs_mul, abs_mul, ← mul_add, PlantParams.zetaBound, mul_assoc]
  exact mul_le_mul habs hsum (by positivity) (by positivity)

end Bound

end VertexTestbed.Host
