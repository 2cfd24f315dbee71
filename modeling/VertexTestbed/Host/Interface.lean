import VertexTestbed.Host.Plant

/-!
# The two physical interfaces

`controllers/interface_adaptive.py` and `controllers/interface_lc.py`. Each `step` forms the command
on the old states, saturates it, and only then moves the adaptive states; it returns the new
interface and everything the source's tuple carries.

The two agree on the saturation (`satCommand`), which is written once; the source repeats the two
lines in both classes.
-/

namespace VertexTestbed.Host

variable {K : Type*} [Field K] [LinearOrder K]

/-- What an interface evaluation returns. -/
structure InterfaceOut (K : Type*) where
  muP : K
  muQ : K
  aP : K
  aQ : K
  sP : K
  sQ : K
  wP : K
  wQ : K
  saturated : Bool
  trig : K
  fired : Bool

/-- `m if mu > m else (-m if mu < -m else mu)`. -/
def satCommand (mu m : K) : K :=
  if m < mu then m else if mu < -m then -m else mu

/-- Whether the applied command is not the formed one. -/
def isSaturated (muP muQ m : K) : Bool :=
  decide (satCommand muP m ≠ muP) || decide (satCommand muQ m ≠ muQ)

/-- A command that does not saturate is applied as formed. -/
theorem satCommand_of_not_saturated {muP muQ m : K} (h : isSaturated muP muQ m = false) :
    satCommand muP m = muP ∧ satCommand muQ m = muQ := by
  simpa [isSaturated] using h

/-! ### The adaptive interface -/

/-- `TRIGGERS`. -/
inductive Trigger where
  | sigma
  | residual
  deriving DecidableEq

/-- `AdaptiveParams`. -/
structure AdaptiveParams (K : Type*) [Field K] [LinearOrder K] where
  gamma : K
  eps : K
  vartheta0 : K
  mu_max : K
  trigger : Trigger
  gamma_nonneg : 0 ≤ gamma
  eps_nonneg : 0 ≤ eps

/-- `AdaptiveInterface`. -/
structure AdaptiveInterface (K : Type*) [Field K] [LinearOrder K] where
  p : AdaptiveParams K
  h : K
  vartheta : K
  updates : ℕ

/-- `_sign`, with `sgn(0) = 0`. -/
def sgn (v : K) : K :=
  if v = 0 then 0 else if 0 < v then 1 else -1

namespace AdaptiveInterface

/-- `AdaptiveInterface.__init__`. -/
def init (p : AdaptiveParams K) (h : K) : AdaptiveInterface K :=
  ⟨p, h, p.vartheta0, 0⟩

/-- The clipped correction of one coordinate, `sgn(s) min(vartheta, |s| / h)`. -/
def omega (i : AdaptiveInterface K) (s : K) : K :=
  sgn s * min i.vartheta (|s| / i.h)

/-- `AdaptiveInterface.step`. -/
def step (i : AdaptiveInterface K) (xP xQ zP zQ gP gQ : K) :
    AdaptiveInterface K × InterfaceOut K :=
  let sP := xP - zP
  let sQ := xQ - zQ
  let wP := i.omega sP
  let wQ := i.omega sQ
  let muP := gP - wP
  let muQ := gQ - wQ
  let trig :=
    match i.p.trigger with
    | .sigma => |sP| + |sQ|
    | .residual => |sP - i.h * wP| + |sQ - i.h * wQ|
  -- The gain of this step is the one before the increment.
  let fired := decide (i.p.eps < trig)
  ({ i with
      vartheta := if fired then i.vartheta + i.p.gamma else i.vartheta
      updates := if fired then i.updates + 1 else i.updates },
    { muP := muP
      muQ := muQ
      aP := satCommand muP i.p.mu_max
      aQ := satCommand muQ i.p.mu_max
      sP := sP
      sQ := sQ
      wP := wP
      wQ := wQ
      saturated := isSaturated muP muQ i.p.mu_max
      trig := trig
      fired := fired })

end AdaptiveInterface

/-! ### The prescribed-time baseline -/

/-- `LCParams`. -/
structure LCParams (K : Type*) [Field K] [LinearOrder K] where
  kappa : K
  profile : Profile
  T_c : K
  beta_c : K
  Phi : K
  terminal : Bool
  mu_max : K
  p_max : K
  q_max : K
  delta_c : Option K
  adapt_band : Option K
  adapt_after : Option K
  kappa_pos : 0 < kappa
  beta_c_pos : 0 < beta_c

/-- `LCParams.gamma_S`. -/
def LCParams.gamma_S (p : LCParams K) : K :=
  p.Phi * p.kappa * p.kappa

/-- `LCInterface`. -/
structure LCInterface (K : Type*) [Field K] [LinearOrder K] where
  p : LCParams K
  h : K
  delta_c : K
  gamma_S : K
  S1 : K
  S2 : K
  updates : ℕ

namespace LCInterface

/-- `LCInterface.__init__`: `None` means `delta_c = 2h`. -/
def init (p : LCParams K) (h : K) : LCInterface K where
  p := p
  h := h
  delta_c := p.delta_c.getD (2 * h)
  gamma_S := p.gamma_S
  S1 := 0
  S2 := 0
  updates := 0

variable (lib : Libm K) (i : LCInterface K)

/-- `LCInterface.lam`. -/
def lam (t_s : K) : K :=
  i.p.beta_c / max (i.p.T_c - t_s) i.delta_c

/-- `LCInterface.regressor`: `(A_i, P^s, Q^s)`. -/
def regressor (t_s xP xQ : K) : K × K × K :=
  let s := smoothSaturation lib (i.p.kappa * xP) (i.p.kappa * xQ) i.p.p_max i.p.q_max
  (aZeta lib i.p.profile t_s / i.p.kappa, s.1, s.2)

/-- Whether the source's terminal policy is in force. -/
def isTerminal (t_s : K) : Bool :=
  i.p.terminal && decide (i.p.T_c ≤ t_s)

/-- The two adaptation gates. -/
def gate (t_s trig : K) : Bool :=
  let gate := true
  let gate :=
    match i.p.adapt_after with
    | some after => if t_s < after then false else gate
    | none => gate
  match i.p.adapt_band with
  | some band => if band < trig then false else gate
  | none => gate

/-- `LCInterface.step`: one command, then the parameter update. -/
def step (t_s xP xQ zP zQ gP gQ : K) : LCInterface K × InterfaceOut K :=
  let sP := xP - zP
  let sQ := xQ - zQ
  let r := i.regressor lib t_s xP xQ
  let A := r.1
  let ps := r.2.1
  let qs := r.2.2
  let terminal := i.isTerminal t_s
  let lam := i.lam t_s
  let wP := if terminal then gP else lam * sP + A * (ps * i.S1 + qs * i.S2)
  let wQ := if terminal then gQ else lam * sQ + A * (qs * i.S1 - ps * i.S2)
  let muP := if terminal then 0 else gP - wP
  let muQ := if terminal then 0 else gQ - wQ
  let trig := |sP| + |sQ|
  let fired := !terminal && i.gate t_s trig
  let step := i.h * i.gamma_S * A
  ({ i with
      S1 := if fired then i.S1 + step * (ps * sP + qs * sQ) else i.S1
      S2 := if fired then i.S2 + step * (qs * sP - ps * sQ) else i.S2
      updates := if fired then i.updates + 1 else i.updates },
    { muP := muP
      muQ := muQ
      aP := satCommand muP i.p.mu_max
      aQ := satCommand muQ i.p.mu_max
      sP := sP
      sQ := sQ
      wP := wP
      wQ := wQ
      saturated := isSaturated muP muQ i.p.mu_max
      trig := trig
      fired := fired })

end LCInterface

end VertexTestbed.Host
