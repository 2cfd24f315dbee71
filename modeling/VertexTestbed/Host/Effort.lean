import VertexTestbed.Host.Microgrid
import VertexTestbed.Lib.Runs

/-!
# The applied command, from a log

`analysis/effort.py`. The command of a step is rebuilt from the row before it and the row it
produced: the feedforward is the difference of the virtual states, the interface's own term comes
from the adaptive columns, and the time of row `k + 1` is taken to be `(k + 1) h`.

`rebuilt_tick` says what that is in terms of the law: the command the interface forms **at that
time** on the state before the step. Whether it is the command that was applied is a question about
the time alone. On the log of a host agent it is (`applied_hostLog`).

A log is the list of its rows, each with the columns that `_from_data` reads.
-/

namespace VertexTestbed.Host

open Runs

variable {K : Type*} [Field K] [LinearOrder K]

/-! ### The analysis -/

/-- The adaptive columns of a log: `vartheta`, or `S1` and `S2`, or none of them. -/
inductive AdaptiveCells (K : Type*) where
  | vartheta (v : K)
  | estimate (S1 S2 : K)
  | missing
  deriving DecidableEq

/-- The columns of a row that the reconstruction reads. -/
structure LoggedRow (K : Type*) where
  state_P : K
  state_Q : K
  vstate_P : K
  vstate_Q : K
  adaptive : AdaptiveCells K
  deriving DecidableEq

/-- `np.clip(mu, -m, m)`. -/
def npClip (mu m : K) : K := min (max mu (-m)) m

/-- `mg["interface"]["mu_max"]`. -/
def InterfaceParams.mu_max : InterfaceParams K → K
  | .adaptive p => p.mu_max
  | .lc p => p.mu_max

/-- `_omega_adaptive`, on one coordinate. -/
def omegaAdaptive (sigma vth_prev h : K) : K :=
  sgn sigma * min vth_prev (|sigma| / h)

/-- `_omega_lc`, on one row: `none` is the NaN that marks the terminal policy. -/
def omegaLC (lib : Libm K) (p : LCParams K) (sigma x_prev S_prev : K × K) (h t_prev : K) :
    Option (K × K) :=
  let iface := LCInterface.init p h
  if p.terminal && decide (p.T_c ≤ t_prev) then none
  else
    let lam := iface.lam t_prev
    let r := iface.regressor lib t_prev x_prev.1 x_prev.2
    some
      (lam * sigma.1 + r.1 * (r.2.1 * S_prev.1 + r.2.2 * S_prev.2),
        lam * sigma.2 + r.1 * (r.2.2 * S_prev.1 - r.2.1 * S_prev.2))

/-- The interface's term between two rows. The outer `none` is an exception: neither of the adaptive
columns, or an estimate beside a block that `LCParams` does not take. -/
def omegaAt (lib : Libm K) (mg : InterfaceParams K) (h t_ctrl : K) (prev : LoggedRow K) :
    Option (Option (K × K)) :=
  let sigma := (prev.state_P - prev.vstate_P, prev.state_Q - prev.vstate_Q)
  match prev.adaptive, mg with
  | .vartheta v, _ => some (some (omegaAdaptive sigma.1 v h, omegaAdaptive sigma.2 v h))
  | .estimate S1 S2, .lc p =>
    some (omegaLC lib p sigma (prev.state_P, prev.state_Q) (S1, S2) h t_ctrl)
  | .estimate _ _, .adaptive _ => none
  | .missing, _ => none

/-- What `_from_data` makes of row `k` and the row behind it. -/
def rebuilt (lib : Libm K) (mg : InterfaceParams K) (h : K) (k : ℕ) (prev next : LoggedRow K) :
    Option (K × K) :=
  let g := ((next.vstate_P - prev.vstate_P) / h, (next.vstate_Q - prev.vstate_Q) / h)
  let t_ctrl := ((k : K) + 1) * h
  (omegaAt lib mg h t_ctrl prev).map fun omega ↦
    let mu := match omega with
      | some w => (g.1 - w.1, g.2 - w.2)
      | none => (0, 0)
    (npClip mu.1 mg.mu_max, npClip mu.2 mg.mu_max)

/-- `_from_data` with `rebuild`, from row `k` on. -/
def fromData (lib : Libm K) (mg : InterfaceParams K) (h : K) :
    ℕ → List (LoggedRow K) → Option (List (K × K))
  | k, prev :: next :: rows => do
    let u ← rebuilt lib mg h k prev next
    let us ← fromData lib mg h (k + 1) (next :: rows)
    return u :: us
  | _, _ => some []

/-- `applied_command` with `rebuild`: one command for each row after the first. -/
def appliedCommand (lib : Libm K) (mg : InterfaceParams K) (h : K) (rows : List (LoggedRow K)) :
    Option (List (K × K)) :=
  fromData lib mg h 0 rows

/-! ### The log of a host agent -/

/-- The adaptive channels of `_family_channels`. -/
def Interface.adaptiveCells : Interface K → AdaptiveCells K
  | .adaptive i => .vartheta i.vartheta
  | .lc i => .estimate i.S1 i.S2

namespace MicrogridController

/-- What a host agent logs of its controller behind a step. -/
def loggedRow (c : MicrogridController K) : LoggedRow K where
  state_P := c.plant.xP
  state_Q := c.plant.xQ
  vstate_P := c.virtual.zP
  vstate_Q := c.virtual.zQ
  adaptive := c.interface.adaptiveCells

/-- The command a step applies. -/
def appliedAt (lib : Libm K) (c : MicrogridController K) (vs : List ℤ) : K × K :=
  ((c.step lib vs).2.aP, (c.step lib vs).2.aQ)

/-- The rows of a host agent: one behind each step. -/
def hostLog (lib : Libm K) (c : MicrogridController K) (vss : List (List ℤ)) :
    List (LoggedRow K) :=
  (trail (tick lib) c vss).map loggedRow

/-- The interface is the one its parameters make, but for its adaptive states. -/
def Built (c : MicrogridController K) : Prop :=
  match c.params.interface, c.interface with
  | .adaptive p, .adaptive i => i.p = p ∧ i.h = c.params.dt_s
  | .lc p, .lc i => i.p = p ∧ i.h = c.params.dt_s ∧ i.delta_c = (LCInterface.init p i.h).delta_c
  | _, _ => False

theorem built_init (p : ControllerParams K) : (init p).Built := by
  rw [Built]
  show match p.interface, p.interface.make p.dt_s with
    | .adaptive p', .adaptive i => i.p = p' ∧ i.h = p.dt_s
    | .lc p', .lc i => i.p = p' ∧ i.h = p.dt_s ∧ i.delta_c = (LCInterface.init p' i.h).delta_c
    | _, _ => False
  rcases p.interface with p' | p'
  · exact ⟨rfl, rfl⟩
  · exact ⟨rfl, rfl, rfl⟩

theorem Built.tick {c : MicrogridController K} (hb : c.Built) (lib : Libm K) (vs : List ℤ) :
    (c.tick lib vs).Built := by
  rw [Built] at hb ⊢
  rw [tick_params, tick_interface, interfaceStep]
  rcases hp : c.params.interface with p | p
  · rcases hi : c.interface with i | i
    · rw [hp, hi] at hb
      exact hb
    · rw [hp, hi] at hb
      exact hb.elim
  · rcases hi : c.interface with i | i
    · rw [hp, hi] at hb
      exact hb.elim
    · rw [hp, hi] at hb
      exact hb

end MicrogridController

/-! ### What the reconstruction is -/

section Rebuilt

variable [IsStrictOrderedRing K]

/-- The two saturations agree for a bound that is not negative. -/
theorem npClip_eq {mu m : K} (hm : 0 ≤ m) : npClip mu m = satCommand mu m := by
  rw [npClip, satCommand]
  rcases lt_or_ge m mu with habove | hle
  · rw [if_pos habove, min_eq_right (le_max_of_le_left habove.le)]
  · rw [if_neg (not_lt.2 hle)]
    rcases lt_or_ge mu (-m) with hbelow | hge
    · rw [if_pos hbelow, max_eq_right hbelow.le, min_eq_left (by linarith)]
    · rw [if_neg (not_lt.2 hge), max_eq_left hge, min_eq_left hle]

omit [IsStrictOrderedRing K] in
/-- The feedforward is the difference of the virtual states. -/
theorem feedforward {z g h : K} (hh : 0 < h) : (z + h * g - z) / h = g := by
  rw [add_sub_cancel_left, mul_div_cancel_left₀ _ hh.ne']

/-- The adaptive interface's term, formed and clipped, is its command. It reads no time. -/
theorem adaptive_command (i : AdaptiveInterface K) (hm : 0 ≤ i.p.mu_max) (xP xQ zP zQ gP gQ : K) :
    ((i.step xP xQ zP zQ gP gQ).2.aP, (i.step xP xQ zP zQ gP gQ).2.aQ) =
      (npClip (gP - omegaAdaptive (xP - zP) i.vartheta i.h) i.p.mu_max,
        npClip (gQ - omegaAdaptive (xQ - zQ) i.vartheta i.h) i.p.mu_max) := by
  rw [npClip_eq hm, npClip_eq hm]
  rfl

/-- The LC interface's term at a time, formed and clipped, is its command at that time. -/
theorem lc_command (lib : Libm K) (i : LCInterface K)
    (hdelta : i.delta_c = (LCInterface.init i.p i.h).delta_c) (hm : 0 ≤ i.p.mu_max)
    (t xP xQ zP zQ gP gQ : K) :
    let mu := match omegaLC lib i.p (xP - zP, xQ - zQ) (xP, xQ) (i.S1, i.S2) i.h t with
      | some w => (gP - w.1, gQ - w.2)
      | none => (0, 0)
    ((i.step lib t xP xQ zP zQ gP gQ).2.aP, (i.step lib t xP xQ zP zQ gP gQ).2.aQ) =
      (npClip mu.1 i.p.mu_max, npClip mu.2 i.p.mu_max) := by
  intro mu
  have hlam : (LCInterface.init i.p i.h).lam t = i.lam t := by
    rw [LCInterface.lam, LCInterface.lam, hdelta]
    rfl
  rw [npClip_eq hm, npClip_eq hm]
  by_cases hterminal : i.isTerminal t = true
  · have hmu : mu = (0, 0) := by
      have hnone : omegaLC lib i.p (xP - zP, xQ - zQ) (xP, xQ) (i.S1, i.S2) i.h t = none :=
        if_pos hterminal
      simp only [mu, hnone]
    rw [hmu]
    simp only [LCInterface.step, if_pos hterminal]
  · have hsome : omegaLC lib i.p (xP - zP, xQ - zQ) (xP, xQ) (i.S1, i.S2) i.h t =
        some
          (i.lam t * (xP - zP) + (i.regressor lib t xP xQ).1 *
              ((i.regressor lib t xP xQ).2.1 * i.S1 + (i.regressor lib t xP xQ).2.2 * i.S2),
            i.lam t * (xQ - zQ) + (i.regressor lib t xP xQ).1 *
              ((i.regressor lib t xP xQ).2.2 * i.S1 - (i.regressor lib t xP xQ).2.1 * i.S2)) := by
      refine (if_neg hterminal).trans ?_
      rw [hlam]
      rfl
    simp only [mu, hsome, LCInterface.step, if_neg hterminal]

namespace MicrogridController

variable {lib : Libm K}

/-- The command the interface would form at the time `t` on the state before a step. -/
def commandAt (lib : Libm K) (c : MicrogridController K) (vs : List ℤ) (t : K) : K × K :=
  let r := c.interface.step lib t c.plant.xP c.plant.xQ c.virtual.zP c.virtual.zQ
    (c.candidate vs).gP (c.candidate vs).gQ
  (r.2.aP, r.2.aQ)

omit [IsStrictOrderedRing K] in
/-- The applied command is the one at the controller's own time. -/
theorem appliedAt_eq (c : MicrogridController K) (vs : List ℤ) :
    c.appliedAt lib vs = c.commandAt lib vs c.t_s := rfl

/-- **The reconstruction is the law at the analysis's time.** -/
theorem rebuilt_tick {c : MicrogridController K} (hb : c.Built)
    (hm : 0 ≤ c.params.interface.mu_max) (k : ℕ) (vs : List ℤ) :
    rebuilt lib c.params.interface c.params.dt_s k c.loggedRow (c.tick lib vs).loggedRow =
      some (c.commandAt lib vs (((k : K) + 1) * c.params.dt_s)) := by
  -- The difference of two logged rows is the feedforward of the step between them.
  have hP : ((c.tick lib vs).loggedRow.vstate_P - c.loggedRow.vstate_P) / c.params.dt_s =
      (c.candidate vs).gP := feedforward c.params.dt_pos
  have hQ : ((c.tick lib vs).loggedRow.vstate_Q - c.loggedRow.vstate_Q) / c.params.dt_s =
      (c.candidate vs).gQ := feedforward c.params.dt_pos
  rw [rebuilt, hP, hQ, commandAt]
  rw [Built] at hb
  rcases hp : c.params.interface with p | p
  · rcases hi : c.interface with i | i
    · rw [hp, hi] at hb
      obtain ⟨rfl, hh⟩ := hb
      rw [hp] at hm
      have hcells : c.loggedRow.adaptive = .vartheta i.vartheta := by
        rw [loggedRow, hi]
        rfl
      have hcommand := adaptive_command i hm c.plant.xP c.plant.xQ c.virtual.zP c.virtual.zQ
        (c.candidate vs).gP (c.candidate vs).gQ
      rw [hh] at hcommand
      simp only [omegaAt, hcells, Option.map_some]
      exact congrArg some hcommand.symm
    · rw [hp, hi] at hb
      exact hb.elim
  · rcases hi : c.interface with i | i
    · rw [hp, hi] at hb
      exact hb.elim
    · rw [hp, hi] at hb
      obtain ⟨rfl, hh, hdelta⟩ := hb
      rw [hp] at hm
      have hcells : c.loggedRow.adaptive = .estimate i.S1 i.S2 := by
        rw [loggedRow, hi]
        rfl
      have hcommand := lc_command lib i hdelta hm (((k : K) + 1) * c.params.dt_s) c.plant.xP
        c.plant.xQ c.virtual.zP c.virtual.zQ (c.candidate vs).gP (c.candidate vs).gQ
      rw [hh] at hcommand
      simp only [omegaAt, hcells, Option.map_some]
      exact congrArg some hcommand.symm

/-- Behind `k + 1` steps the analysis's time is the controller's. -/
theorem fromData_trail {c : MicrogridController K} (hb : c.Built)
    (hm : 0 ≤ c.params.interface.mu_max) {k : ℕ} (hk : c.stepCount = k + 1)
    (vss : List (List ℤ)) :
    fromData lib c.params.interface c.params.dt_s k (c.loggedRow :: c.hostLog lib vss) =
      some (outputs (tick lib) (appliedAt lib) c vss) := by
  induction vss generalizing c k with
  | nil => rfl
  | cons vs vss ih =>
    have htime : ((k : K) + 1) * c.params.dt_s = c.t_s := by
      rw [t_s, hk]
      push_cast
      rfl
    have hrest := ih (hb.tick lib vs) (by rw [tick_params]; exact hm)
      (k := k + 1) (by rw [tick_stepCount, hk])
    rw [tick_params] at hrest
    show (do
      let u ← rebuilt lib c.params.interface c.params.dt_s k c.loggedRow (c.tick lib vs).loggedRow
      let us ← fromData lib c.params.interface c.params.dt_s (k + 1)
        ((c.tick lib vs).loggedRow :: (c.tick lib vs).hostLog lib vss)
      return u :: us) = _
    rw [rebuilt_tick hb hm, hrest, htime, ← appliedAt_eq]
    rfl

/-- **The command of a host agent is rebuilt**: its first row is the state behind its first step,
and every row after it gets the command of the step that produced it. -/
theorem applied_hostLog (p : ControllerParams K) (hm : 0 ≤ p.interface.mu_max)
    (vss : List (List ℤ)) :
    appliedCommand lib p.interface p.dt_s ((init p).hostLog lib vss) =
      some (outputs (tick lib) (appliedAt lib) (init p) vss).tail := by
  cases vss with
  | nil => rfl
  | cons vs vss =>
    exact fromData_trail (c := (init p).tick lib vs) ((built_init p).tick lib vs) hm
      (k := 0) rfl vss

end MicrogridController

end Rebuilt

end VertexTestbed.Host
