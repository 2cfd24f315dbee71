import VertexTestbed.Host.Microgrid
import VertexTestbed.Lib.Runs

/-!
# New parameters for a running microgrid controller

`MicrogridController.set_params` stores the new parameters, and with them the period, the number of
neighbours and the block the next `reset` builds from. The plant, the virtual layer and the
interface that the step runs on are the objects the last `reset` built, and stay. A step therefore
mixes the two sets: the period and the watchdog's deadline are new, the gains are old, and run time
is the old step count times the new period.

`KeepsBlocks.takesEffect` says when the mixture is harmless: when the new blocks are the ones the
objects were built from, initial conditions apart, and run time does not move. The reference is
`rebuilt`, a controller built from the new parameters that is given the integrators, stepped at the
run time of the old one.
-/

namespace VertexTestbed.Host

open Runs

variable {K : Type*} [Field K] [LinearOrder K]

/-! ### The blocks of a controller -/

/-- Which of the two subclasses. -/
inductive Family where
  | adaptive
  | lc
  deriving DecidableEq

/-- The subclass an interface block belongs to. -/
def InterfaceParams.family : InterfaceParams K → Family
  | .adaptive _ => .adaptive
  | .lc _ => .lc

/-- The subclass of a controller, seen on its interface object. -/
def Interface.family : Interface K → Family
  | .adaptive _ => .adaptive
  | .lc _ => .lc

/-- The parameters and the period an interface object was built from. -/
def Interface.builtFrom : Interface K → InterfaceParams K × K
  | .adaptive i => (.adaptive i.p, i.h)
  | .lc i => (.lc i.p, i.h)

/-- Two interface blocks that no step tells apart: they differ at most in `vartheta0`, which only
`__init__` reads. -/
def InterfaceParams.SameLaw : InterfaceParams K → InterfaceParams K → Prop
  | .adaptive p, .adaptive q => { p with vartheta0 := q.vartheta0 } = q
  | .lc p, .lc q => p = q
  | _, _ => False

/-- Two virtual blocks that no step tells apart: they differ at most in `c_0`, which only `__init__`
reads. -/
def VirtualParams.SameLaw (p q : VirtualParams K) : Prop :=
  { p with c_0 := q.c_0 } = q

/-- The adaptive state of an interface object. -/
inductive Adaptation (K : Type*) where
  | gain (vartheta : K) (updates : ℕ)
  | estimates (S1 S2 : K) (updates : ℕ)

/-- What an interface object has adapted to. -/
def Interface.adaptation : Interface K → Adaptation K
  | .adaptive i => .gain i.vartheta i.updates
  | .lc i => .estimates i.S1 i.S2 i.updates

/-- An interface object given an adaptive state of its own kind. -/
def Interface.withAdaptation : Interface K → Adaptation K → Interface K
  | .adaptive i, .gain vartheta updates =>
    .adaptive { i with vartheta := vartheta, updates := updates }
  | .lc i, .estimates S1 S2 updates => .lc { i with S1 := S1, S2 := S2, updates := updates }
  | i, _ => i

/-- The widths and gains that `LCInterface.__init__` derives are those of its parameters. -/
def Interface.Derived : Interface K → Prop
  | .adaptive _ => True
  | .lc i => i.delta_c = i.p.delta_c.getD (2 * i.h) ∧ i.gamma_S = i.p.gamma_S

theorem Interface.make_derived (p : InterfaceParams K) (h : K) :
    (p.make h).Derived := by
  cases p with
  | adaptive p => exact trivial
  | lc p => exact ⟨rfl, rfl⟩

/-- An interface object given parameters of its own kind. -/
def Interface.withParams : Interface K → InterfaceParams K → Interface K
  | .adaptive i, .adaptive p => .adaptive { i with p := p }
  | .lc i, .lc p => .lc { i with p := p }
  | i, _ => i

/-- Parameters of the same law build the object with these parameters, but for its adaptive state.
-/
theorem Interface.Derived.make_withAdaptation {i : Interface K} (hi : i.Derived)
    {p : InterfaceParams K} (hlaw : p.SameLaw i.builtFrom.1) :
    (p.make i.builtFrom.2).withAdaptation i.adaptation = i.withParams p := by
  cases i with
  | adaptive i =>
    cases p with
    | adaptive p => rfl
    | lc p => exact hlaw.elim
  | lc i =>
    cases p with
    | adaptive p => exact hlaw.elim
    | lc p =>
      obtain rfl : p = i.p := hlaw
      obtain ⟨hdelta, hgamma⟩ := hi
      simp only [Interface.builtFrom, InterfaceParams.make, LCInterface.init,
        Interface.withAdaptation, Interface.adaptation, Interface.withParams, ← hdelta, ← hgamma]

/-- **Parameters of the same law step alike**: the same adaptive state, the same command. -/
theorem InterfaceParams.SameLaw.step {p : InterfaceParams K} {i : Interface K}
    (hlaw : p.SameLaw i.builtFrom.1) (lib : Libm K) (t_s xP xQ zP zQ gP gQ : K) :
    (i.withParams p).step lib t_s xP xQ zP zQ gP gQ =
      ((i.step lib t_s xP xQ zP zQ gP gQ).1.withParams p,
        (i.step lib t_s xP xQ zP zQ gP gQ).2) := by
  cases i with
  | adaptive i =>
    cases p with
    | adaptive p =>
      obtain ⟨q, h, vartheta, updates⟩ := i
      dsimp only [Interface.builtFrom, InterfaceParams.SameLaw] at hlaw
      generalize q.vartheta0 = v at hlaw
      subst hlaw
      rfl
    | lc p => exact hlaw.elim
  | lc i =>
    cases p with
    | adaptive p => exact hlaw.elim
    | lc p =>
      obtain rfl : p = i.p := hlaw
      rfl

@[simp]
theorem Interface.withParams_adaptation (i : Interface K) (p : InterfaceParams K) :
    (i.withParams p).adaptation = i.adaptation := by
  cases i <;> cases p <;> rfl

@[simp]
theorem Interface.withParams_varthetaTrips (i : Interface K) (p : InterfaceParams K) :
    (i.withParams p).varthetaTrips = i.varthetaTrips := by
  cases i <;> cases p <;> rfl

theorem Interface.Derived.step {i : Interface K} (hi : i.Derived) (lib : Libm K)
    (t_s xP xQ zP zQ gP gQ : K) : (i.step lib t_s xP xQ zP zQ gP gQ).1.Derived := by
  cases i with
  | adaptive i => exact trivial
  | lc i => exact hi

namespace MicrogridController

/-! ### Live use -/

/-- `set_params`. -/
def set_params (c : MicrogridController K) (p : ControllerParams K) : MicrogridController K :=
  { c with params := p }

/-- `reset`. `_make_interface` raises for a block of the other subclass, behind the first two
assignments. -/
def reset (c : MicrogridController K) : MicrogridController K :=
  let fresh := init c.params
  if c.params.interface.family = c.interface.family then fresh
  else { c with plant := fresh.plant, virtual := fresh.virtual }

variable (lib : Libm K)

/-- `step`, after which `hold` may have raised: the snapshot has one pair for each neighbour of the
parameters in force, and the virtual layer takes as many as it was built for. -/
def liveStep (c : MicrogridController K) (vs : List ℤ) :
    Option (MicrogridController K × InterfaceOut K) :=
  if c.params.degree = c.virtual.degree then some (c.step lib vs) else none

/-- What a running agent does to its controller. -/
inductive Use (K : Type*) [Field K] [LinearOrder K] where
  | step (vs : List ℤ)
  | set_params (p : ControllerParams K)
  | reset

/-- One use; a step that raises has changed nothing. -/
def apply (c : MicrogridController K) : Use K → MicrogridController K
  | .step vs => ((c.liveStep lib vs).map Prod.fst).getD c
  | .set_params p => c.set_params p
  | .reset => c.reset

/-- Every use leaves the interface object with the widths and gains of its own parameters. -/
theorem derived_run (p : ControllerParams K) (uses : List (Use K)) :
    (run (apply lib) (init p) uses).interface.Derived := by
  refine run_invariant (P := fun c : MicrogridController K ↦ c.interface.Derived) _ (fun c x h ↦ ?_)
    (Interface.make_derived p.interface p.dt_s) uses
  cases x with
  | step vs =>
    show (((c.liveStep lib vs).map Prod.fst).getD c).interface.Derived
    rw [liveStep]
    split_ifs with hdegree
    · exact h.step lib _ _ _ _ _ _ _
    · exact h
  | set_params p => exact h
  | reset =>
    show c.reset.interface.Derived
    rw [reset]
    split_ifs with hfamily
    · exact Interface.make_derived _ _
    · exact h

/-! ### The reference -/

/-- `step` at a given run time. -/
def stepAt (c : MicrogridController K) (t : K) (vs : List ℤ) :
    MicrogridController K × InterfaceOut K :=
  let h := c.params.dt_s
  let cand := (c.held vs).candidate t h
  let r := c.interface.step lib t c.plant.xP c.plant.xQ c.virtual.zP c.virtual.zQ cand.gP cand.gQ
  let plant := c.plant.step lib r.2.aP r.2.aQ t h
  let virtual := (c.held vs).commit cand.zP cand.zQ cand.c
  let running := decide (c.watchdogCause = .none)
  let satRun :=
    if running then if r.2.saturated then c.satRun + 1 else 0 else c.satRun
  let armed := decide (c.params.interface.armingTime ≤ t)
  let cause :=
    if running then watchdog plant virtual r.1 satRun armed else c.watchdogCause
  ({ c with
      plant := plant
      virtual := virtual
      interface := r.1
      stepCount := c.stepCount + 1
      watchdogCause := cause
      satRun := satRun },
    r.2)

theorem step_eq_stepAt (c : MicrogridController K) (vs : List ℤ) :
    c.step lib vs = c.stepAt lib c.t_s vs := rfl

/-- **The controller built from `p` and given the integrators of `c`**: the physical and the virtual
state, the observer gain and the adaptive state, with the watchdog where it stands. -/
def rebuilt (c : MicrogridController K) (p : ControllerParams K) : MicrogridController K :=
  { init p with
    plant := ⟨p.plant, c.plant.xP, c.plant.xQ⟩
    virtual := { (init p).virtual with zP := c.virtual.zP, zQ := c.virtual.zQ, c := c.virtual.c }
    interface := (p.interface.make p.dt_s).withAdaptation c.interface.adaptation
    stepCount := c.stepCount
    watchdogCause := c.watchdogCause
    satRun := c.satRun }

/-- What one step shows: the integrators behind it, what the interface returned, and the
watchdog. -/
structure Outcome (K : Type*) where
  x : K × K
  z : K × K
  c : K
  adaptation : Adaptation K
  out : InterfaceOut K
  watchdogCause : WatchdogCauses
  satRun : ℕ

/-- The outcome of a step. -/
def outcome (r : MicrogridController K × InterfaceOut K) : Outcome K where
  x := (r.1.plant.xP, r.1.plant.xQ)
  z := (r.1.virtual.zP, r.1.virtual.zQ)
  c := r.1.virtual.c
  adaptation := r.1.interface.adaptation
  out := r.2
  watchdogCause := r.1.watchdogCause
  satRun := r.1.satRun

/-- **`set_params p` changes the law to `p` and nothing else**: run time stays, and for every
snapshot the next step is the step of the controller built from `p`. -/
def TakesEffect (c : MicrogridController K) (p : ControllerParams K) : Prop :=
  (c.set_params p).t_s = c.t_s ∧
    ∀ vs, ((c.set_params p).liveStep lib vs).map outcome =
      some (outcome ((c.rebuilt p).stepAt lib c.t_s vs))

/-! ### When new parameters take effect -/

/-- The new parameters keep what the objects in use were built from, and do not move run time. -/
structure KeepsBlocks (c : MicrogridController K) (p : ControllerParams K) : Prop where
  plant : p.plant = c.plant.p
  virtual : p.virtual.SameLaw c.virtual.p
  degree : p.degree = c.virtual.degree
  interface : p.interface.SameLaw c.interface.builtFrom.1
  period : p.dt_s = c.interface.builtFrom.2
  time : p.dt_s = c.params.dt_s ∨ c.stepCount = 0

variable {lib}

/-- Run time moves with the period, but for a controller that has not stepped. -/
theorem set_params_t_s_iff [IsStrictOrderedRing K] (c : MicrogridController K)
    (p : ControllerParams K) :
    (c.set_params p).t_s = c.t_s ↔ p.dt_s = c.params.dt_s ∨ c.stepCount = 0 := by
  show (c.stepCount : K) * p.dt_s = c.stepCount * c.params.dt_s ↔ _
  rw [mul_eq_mul_left_iff, Nat.cast_eq_zero]

/-- What the new parameters keep is what the reference would build again, but for the parameters
that only a reset reads and the neighbour sums, which every step freezes anew. -/
theorem KeepsBlocks.rebuilt_eq {c : MicrogridController K} {p : ControllerParams K}
    (h : KeepsBlocks c p) (hi : c.interface.Derived) :
    c.rebuilt p =
      { c.set_params p with
        plant := ⟨p.plant, c.plant.xP, c.plant.xQ⟩
        virtual :=
          { p := p.virtual
            degree := p.degree
            zP := c.virtual.zP
            zQ := c.virtual.zQ
            c := c.virtual.c
            wP := p.virtual.b * p.virtual.rP
            wQ := p.virtual.b * p.virtual.rQ
            D_pos := p.D_pos }
        interface := c.interface.withParams p.interface } := by
  have hinterface := hi.make_withAdaptation h.interface
  rw [← h.period] at hinterface
  simp only [rebuilt, init, set_params, VirtualLayer.init, hinterface]

/-- The neighbour sums a controller holds between steps are not read, nor is `c_0`. -/
theorem candidate_of_sameLaw {v : VirtualLayer K} {p : VirtualParams K} (hlaw : p.SameLaw v.p)
    (wP wQ : K) (hD : 0 < (v.degree : K) + p.b) (zs : List (K × K)) (hz : zs.length = v.degree)
    (t h : K) :
    ((VirtualLayer.mk p v.degree v.zP v.zQ v.c wP wQ hD).hold zs hz).candidate t h =
      (v.hold zs hz).candidate t h := by
  obtain ⟨q, degree, zP, zQ, c, wP', wQ', hD'⟩ := v
  dsimp only [VirtualParams.SameLaw] at hlaw
  generalize q.c_0 = x at hlaw
  subst hlaw
  rfl

/-- A step behind parameters that keep the blocks is a step of the rebuilt controller. -/
theorem KeepsBlocks.takesEffect [IsStrictOrderedRing K] {c : MicrogridController K}
    {p : ControllerParams K} (h : KeepsBlocks c p) (hi : c.interface.Derived) :
    TakesEffect lib c p := by
  have htime : (c.set_params p).t_s = c.t_s := (set_params_t_s_iff c p).2 h.time
  refine ⟨htime, fun vs ↦ ?_⟩
  have hdegree : (c.set_params p).params.degree = (c.set_params p).virtual.degree := h.degree
  rw [liveStep, if_pos hdegree, Option.map_some, step_eq_stepAt, htime, h.rebuilt_eq hi]
  congr 1
  obtain ⟨params, ⟨plant, xP, xQ⟩, virt, interface, count, cause, sat⟩ := c
  obtain ⟨hplant, hvirtual, hdegree', hinterface, -, -⟩ := h
  obtain ⟨dt, plant', virt', iface, degree', X0, X1, z0, z1, hdt, hD'⟩ := p
  dsimp only at hplant hdegree' hvirtual hinterface
  subst hplant hdegree'
  simp only [stepAt, set_params, held, candidate_of_sameLaw hvirtual, hinterface.step, outcome,
    watchdog, Interface.withParams_adaptation, Interface.withParams_varthetaTrips,
    VirtualLayer.commit]
  rfl

/-- Parameters that take effect keep the number of neighbours and do not move run time: a snapshot
of another length makes every step raise. -/
theorem TakesEffect.degree_time [IsStrictOrderedRing K] {c : MicrogridController K}
    {p : ControllerParams K} (h : TakesEffect lib c p) :
    p.degree = c.virtual.degree ∧ (p.dt_s = c.params.dt_s ∨ c.stepCount = 0) := by
  refine ⟨?_, (set_params_t_s_iff c p).1 h.1⟩
  by_contra hne
  have hraise : (c.set_params p).liveStep lib [] = none := if_neg hne
  have hstep := h.2 []
  rw [hraise] at hstep
  cases hstep

variable (lib)

/-- **New parameters take effect when they keep the blocks the controller runs on.** For every use a
controller was put to since it was built, steps, earlier parameters and resets in any order: if the
plant, the virtual layer, the number of neighbours, the interface and its period are those of `p`,
and the period did not change behind the first step, then the step after `set_params p` is the step
of a controller built from `p`. Without the same number of neighbours, or with run time moved, it
never is. -/
theorem set_params_takesEffect [IsStrictOrderedRing K] (p₀ : ControllerParams K)
    (uses : List (Use K)) (p : ControllerParams K) :
    let c := run (apply lib) (init p₀) uses
    (KeepsBlocks c p → TakesEffect lib c p) ∧
      (TakesEffect lib c p →
        p.degree = c.virtual.degree ∧ (p.dt_s = c.params.dt_s ∨ c.stepCount = 0)) :=
  ⟨fun h ↦ h.takesEffect (derived_run lib p₀ uses), TakesEffect.degree_time⟩

/-- Two steps into a run, other initial conditions of the plant and of the sliding gain take effect:
the next `reset` reads them, no step does. -/
theorem set_params_takesEffect_sample :
    let p₀ := sampleParams (.adaptive sampleAdaptive)
    TakesEffect .atZero (run (apply .atZero) (init p₀) [.step [1000000, 0], .step []])
      { p₀ with state0_P := 1, interface := .adaptive { sampleAdaptive with vartheta0 := 1 } } :=
  (set_params_takesEffect .atZero (sampleParams (.adaptive sampleAdaptive))
    [.step [1000000, 0], .step []] _).1 ⟨rfl, rfl, rfl, rfl, rfl, .inl rfl⟩

/-- **One step into a run, a doubled period doubles the run time already elapsed**, and the next
step is not the step of a controller with that period at the time it had reached. -/
theorem set_params_moves_time :
    let p₀ := sampleParams (.adaptive sampleAdaptive)
    let c := run (apply .atZero) (init p₀) [.step []]
    let p : ControllerParams ℚ := { p₀ with dt_s := 1 / 20, dt_pos := by norm_num }
    c.t_s = 1 / 40 ∧ (c.set_params p).t_s = 1 / 20 ∧ ¬TakesEffect .atZero c p := by
  intro p₀ c p
  refine ⟨by decide +kernel, by decide +kernel, fun h ↦ ?_⟩
  have htime := h.1
  revert htime
  decide +kernel

end MicrogridController

end VertexTestbed.Host
