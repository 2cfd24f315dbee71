import VertexTestbed.Numeric

/-!
# The common virtual layer

`controllers/virtual.py`: the prescribed-time observer of one node. `hold` freezes the neighbour
sums of a tick, `candidate` computes the semi-implicit step on them without writing back, `commit`
writes it.

`hold` raises unless it is given exactly `degree` values; here that is a proof argument, and
`D_i = degree + b > 0`, which the constructor checks, is a field. The results are the convex form of
the update (`candidate_zP_eq`, `candidate_zQ_eq`) with a weight in `[0, 1)` (`theta_mem`), and the
monotone gain (`le_candidate_c`).
-/

namespace VertexTestbed.Host

variable {K : Type*} [Field K] [LinearOrder K]

/-- `VirtualParams`: one node's share of the common layer. -/
structure VirtualParams (K : Type*) [Field K] [LinearOrder K] where
  T_o : K
  alpha_0 : K
  delta_o : K
  kappa_o : K
  xi : K
  c_0 : K
  b : K
  rP : K
  rQ : K
  T_o_pos : 0 < T_o
  delta_o_pos : 0 < delta_o
  b_nonneg : 0 ≤ b
  /-- An unpinned node is not given the reference. -/
  unpinned : b = 0 → rP = 0 ∧ rQ = 0

/-- `VirtualLayer`: the observer for one node, over a graph with unit weights. -/
structure VirtualLayer (K : Type*) [Field K] [LinearOrder K] where
  p : VirtualParams K
  degree : ℕ
  zP : K
  zQ : K
  c : K
  wP : K
  wQ : K
  D_pos : 0 < (degree : K) + p.b

/-- What `candidate` returns. -/
structure Candidate (K : Type*) where
  zP : K
  zQ : K
  c : K
  gP : K
  gQ : K
  etaP : K
  etaQ : K

namespace VirtualLayer

/-- `VirtualLayer.__init__`: before the first packet the only term is the pinned reference. -/
def init (p : VirtualParams K) (degree : ℕ) (hD : 0 < (degree : K) + p.b) (zP zQ : K) :
    VirtualLayer K where
  p := p
  degree := degree
  zP := zP
  zQ := zQ
  c := p.c_0
  wP := p.b * p.rP
  wQ := p.b * p.rQ
  D_pos := hD

variable (v : VirtualLayer K)

/-- `D_i = sum_j a_ij + b_i`. -/
def D : K := v.degree + v.p.b

/-- `VirtualLayer.hold`: freeze `w_i = sum_j a_ij z_ij + b_i r` for this tick. -/
def hold (neighbours : List (K × K)) (_ : neighbours.length = v.degree) : VirtualLayer K :=
  { v with
    wP := neighbours.foldl (fun s z ↦ s + z.1) 0 + v.p.b * v.p.rP
    wQ := neighbours.foldl (fun s z ↦ s + z.2) 0 + v.p.b * v.p.rQ }

/-- `VirtualLayer.alpha`: the regularized schedule. -/
def alpha (t_s : K) : K :=
  v.p.alpha_0 * v.p.T_o / max (v.p.T_o - t_s) v.p.delta_o

/-- `VirtualLayer.coefficients`: `(f_o, rho_o)` at time `t`. -/
def coefficients (t_s : K) : K × K :=
  (v.alpha t_s + v.p.kappa_o, 2 * v.alpha t_s)

/-- `VirtualLayer.theta`: the convex weight. -/
def theta (t_s h : K) : K :=
  let x := h * v.c * (v.coefficients t_s).1 * v.D
  x / (1 + x)

/-- `VirtualLayer.candidate`: computed, not committed. -/
def candidate (t_s h : K) : Candidate K :=
  let f_o := (v.coefficients t_s).1
  let rho_o := (v.coefficients t_s).2
  let a_o := v.c * f_o
  let den := 1 + h * a_o * v.D
  let etaP := v.D * v.zP - v.wP
  let etaQ := v.D * v.zQ - v.wQ
  let k := -a_o / den
  let gP := k * etaP
  let gQ := k * etaQ
  { zP := v.zP + h * gP
    zQ := v.zQ + h * gQ
    c := v.c + h * rho_o * v.p.xi * f_o * f_o * (etaP * etaP + etaQ * etaQ)
    gP := gP
    gQ := gQ
    etaP := etaP
    etaQ := etaQ }

/-- `VirtualLayer.commit`. -/
def commit (zP zQ c : K) : VirtualLayer K :=
  { v with zP := zP, zQ := zQ, c := c }

/-- `VirtualLayer.packet`: what crosses the network. -/
def packet : K × K := (v.zP, v.zQ)

section Frame

variable (neighbours : List (K × K)) (hn : neighbours.length = v.degree) (zP zQ c : K)

@[simp]
theorem hold_p : (v.hold neighbours hn).p = v.p := rfl

@[simp]
theorem hold_zP : (v.hold neighbours hn).zP = v.zP := rfl

@[simp]
theorem hold_zQ : (v.hold neighbours hn).zQ = v.zQ := rfl

@[simp]
theorem hold_c : (v.hold neighbours hn).c = v.c := rfl

@[simp]
theorem hold_D : (v.hold neighbours hn).D = v.D := rfl

@[simp]
theorem commit_p : (v.commit zP zQ c).p = v.p := rfl

end Frame

/-! ### The convex form -/

section Convex

variable [IsStrictOrderedRing K]

/-- Gains of the signs the benchmark uses. -/
structure Nonneg : Prop where
  c : 0 ≤ v.c
  alpha_0 : 0 ≤ v.p.alpha_0
  kappa_o : 0 ≤ v.p.kappa_o
  xi : 0 ≤ v.p.xi

variable {v}

omit [IsStrictOrderedRing K] in
/-- The degree is positive. -/
theorem D_pos' : 0 < v.D := v.D_pos

/-- So is the rate, for gains that are not negative. -/
theorem alpha_nonneg (hv : v.Nonneg) (t_s : K) : 0 ≤ v.alpha t_s :=
  div_nonneg (mul_nonneg hv.alpha_0 v.p.T_o_pos.le)
    (v.p.delta_o_pos.le.trans (le_max_right _ _))

/-- The gain `h a_o D` of one step is nonnegative. -/
theorem gain_nonneg (hv : v.Nonneg) {h : K} (hh : 0 ≤ h) (t_s : K) :
    0 ≤ h * v.c * (v.coefficients t_s).1 * v.D :=
  mul_nonneg (mul_nonneg (mul_nonneg hh hv.c) (add_nonneg (alpha_nonneg hv t_s) hv.kappa_o))
    D_pos'.le

/-- **The convex weight lies in `[0, 1)`.** -/
theorem theta_mem (hv : v.Nonneg) {h : K} (hh : 0 ≤ h) (t_s : K) :
    0 ≤ v.theta t_s h ∧ v.theta t_s h < 1 := by
  have hx := gain_nonneg hv hh t_s
  have hden : 0 < 1 + h * v.c * (v.coefficients t_s).1 * v.D := by linarith
  refine ⟨div_nonneg hx hden.le, ?_⟩
  rw [theta, div_lt_one hden]
  linarith

omit [LinearOrder K] [IsStrictOrderedRing K] in
/-- The semi-implicit step of one coordinate, rearranged. -/
theorem semi_implicit_eq {z w D a h : K} (hD : D ≠ 0) (hden : 1 + h * a * D ≠ 0) :
    z + h * (-a / (1 + h * a * D) * (D * z - w)) =
      (1 - h * a * D / (1 + h * a * D)) * z + h * a * D / (1 + h * a * D) * (w / D) := by
  field_simp
  ring

/-- The update is convex: the new `z_P` lies between the old one and the held average. -/
theorem candidate_zP_eq (hv : v.Nonneg) {h : K} (hh : 0 ≤ h) (t_s : K) :
    (v.candidate t_s h).zP =
      (1 - v.theta t_s h) * v.zP + v.theta t_s h * (v.wP / v.D) := by
  have hx := gain_nonneg hv hh t_s
  have hassoc : h * (v.c * (v.coefficients t_s).1) * v.D =
      h * v.c * (v.coefficients t_s).1 * v.D := by ring
  have hden : 1 + h * (v.c * (v.coefficients t_s).1) * v.D ≠ 0 := by
    rw [hassoc]
    linarith
  rw [theta, ← hassoc]
  exact semi_implicit_eq D_pos'.ne' hden

/-- The second coordinate is an average as well. -/
theorem candidate_zQ_eq (hv : v.Nonneg) {h : K} (hh : 0 ≤ h) (t_s : K) :
    (v.candidate t_s h).zQ =
      (1 - v.theta t_s h) * v.zQ + v.theta t_s h * (v.wQ / v.D) := by
  have hx := gain_nonneg hv hh t_s
  have hassoc : h * (v.c * (v.coefficients t_s).1) * v.D =
      h * v.c * (v.coefficients t_s).1 * v.D := by ring
  have hden : 1 + h * (v.c * (v.coefficients t_s).1) * v.D ≠ 0 := by
    rw [hassoc]
    linarith
  rw [theta, ← hassoc]
  exact semi_implicit_eq D_pos'.ne' hden

/-- **The observer gain never decreases.** -/
theorem le_candidate_c (hv : v.Nonneg) {h : K} (hh : 0 ≤ h) (t_s : K) :
    v.c ≤ (v.candidate t_s h).c := by
  have hrho : 0 ≤ h * (v.coefficients t_s).2 * v.p.xi := by
    refine mul_nonneg (mul_nonneg hh ?_) hv.xi
    exact mul_nonneg zero_le_two (alpha_nonneg hv t_s)
  refine le_add_of_nonneg_right ?_
  rw [mul_assoc (h * (v.coefficients t_s).2 * v.p.xi)]
  exact mul_nonneg (mul_nonneg hrho (mul_self_nonneg _))
    (add_nonneg (mul_self_nonneg _) (mul_self_nonneg _))

end Convex

end VirtualLayer

end VertexTestbed.Host
