import VertexTestbed.Host.Virtual
import VertexTestbed.Host.Interface

/-!
# The microgrid controller

`controllers/microgrid.py`: plant, virtual layer and interface composed in the tick order of the
source. `step` takes the flat list of held neighbour values (two scaled integers a neighbour) and
returns the controller after the tick together with what the interface returned; the applied command
is `(aP, aQ)` of that record.

The two registered subclasses differ in the interface they build, so the interface is a sum and the
saturation branch of the watchdog arms where `armingTime` says: at the LC deadline, or at
`T_C_DEFAULT` for an interface that has none.
-/

namespace VertexTestbed.Host

variable {K : Type*} [Field K] [LinearOrder K]

/-- `T_C_DEFAULT`. -/
def tCDefault : K := 40

/-- `X_WATCH`. -/
def xWatch : K := 5000

/-- `VARTHETA_WATCH`. -/
def varthetaWatch : K := 5000

/-- `SAT_PERSIST_UPDATES`. -/
def satPersistUpdates : ℕ := 5

/-- `WATCHDOG_CAUSES`, in the order they are tested. -/
inductive WatchdogCauses where
  | none
  | state
  | virtual
  | vartheta
  | saturation
  deriving DecidableEq

/-- The interface block of `ControllerParams`. -/
inductive InterfaceParams (K : Type*) [Field K] [LinearOrder K] where
  | adaptive (p : AdaptiveParams K)
  | lc (p : LCParams K)

/-- `getattr(interface, "T_c", T_C_DEFAULT)`: when the saturation branch arms. -/
def InterfaceParams.armingTime : InterfaceParams K → K
  | .adaptive _ => tCDefault
  | .lc p => p.T_c

/-- `ControllerParams`, the part the microgrid family reads. -/
structure ControllerParams (K : Type*) [Field K] [LinearOrder K] where
  dt_s : K
  plant : PlantParams K
  virtual : VirtualParams K
  interface : InterfaceParams K
  degree : ℕ
  state0_P : K
  state0_Q : K
  vstate0_P : K
  vstate0_Q : K
  dt_pos : 0 < dt_s
  /-- What `VirtualLayer.__init__` checks when the controller is built. -/
  D_pos : 0 < (degree : K) + virtual.b

/-- The interface instance of a controller. -/
inductive Interface (K : Type*) [Field K] [LinearOrder K] where
  | adaptive (i : AdaptiveInterface K)
  | lc (i : LCInterface K)

/-- `_make_interface`, of the subclass the parameters select. -/
def InterfaceParams.make (h : K) : InterfaceParams K → Interface K
  | .adaptive p => .adaptive (.init p h)
  | .lc p => .lc (.init p h)

/-- `interface.step`. -/
def Interface.step (lib : Libm K) (t_s xP xQ zP zQ gP gQ : K) :
    Interface K → Interface K × InterfaceOut K
  | .adaptive i =>
    let r := i.step xP xQ zP zQ gP gQ
    (.adaptive r.1, r.2)
  | .lc i =>
    let r := i.step lib t_s xP xQ zP zQ gP gQ
    (.lc r.1, r.2)

/-- Whether `interface.vartheta` is a number above the watchdog bound. The LC interface has no
sliding gain and answers NaN, which the source's `isfinite` test excludes. -/
def Interface.varthetaTrips : Interface K → Bool
  | .adaptive i => decide (varthetaWatch < i.vartheta)
  | .lc _ => false

/-- `MicrogridController`. -/
structure MicrogridController (K : Type*) [Field K] [LinearOrder K] where
  params : ControllerParams K
  plant : MicrogridPlant K
  virtual : VirtualLayer K
  interface : Interface K
  stepCount : ℕ
  watchdogCause : WatchdogCauses
  satRun : ℕ

/-- `_snapshot`: the held values as pairs in engineering units, zero past the end of the list. -/
def snapshot (degree : ℕ) (vs : List ℤ) : List (K × K) :=
  (List.range degree).map fun j ↦
    ((vs.getD (2 * j) 0 : K) * invScaleFactor, (vs.getD (2 * j + 1) 0 : K) * invScaleFactor)

omit [LinearOrder K] in
@[simp]
theorem snapshot_length (degree : ℕ) (vs : List ℤ) :
    (snapshot degree vs : List (K × K)).length = degree := by
  simp [snapshot]

namespace MicrogridController

/-- `__init__` and `reset`. -/
def init (p : ControllerParams K) : MicrogridController K where
  params := p
  plant := ⟨p.plant, p.state0_P / p.plant.kappa, p.state0_Q / p.plant.kappa⟩
  virtual := .init p.virtual p.degree p.D_pos p.vstate0_P p.vstate0_Q
  interface := p.interface.make p.dt_s
  stepCount := 0
  watchdogCause := .none
  satRun := 0

variable (lib : Libm K) (c : MicrogridController K)

/-- `t_s`: run time. -/
def t_s : K := c.stepCount * c.params.dt_s

/-- The virtual layer holding this tick's snapshot. -/
def held (vs : List ℤ) : VirtualLayer K :=
  c.virtual.hold (snapshot c.virtual.degree vs) (snapshot_length _ _)

/-- The virtual candidate of this tick. -/
def candidate (vs : List ℤ) : Candidate K :=
  (c.held vs).candidate c.t_s c.params.dt_s

/-- The interface evaluation of this tick, on the old states. -/
def interfaceStep (vs : List ℤ) : Interface K × InterfaceOut K :=
  c.interface.step lib c.t_s c.plant.xP c.plant.xQ c.virtual.zP c.virtual.zQ
    (c.candidate vs).gP (c.candidate vs).gQ

/-- `_watchdog`: which bound this tick broke, the saturation run already counted. -/
def watchdog (plant : MicrogridPlant K) (virtual : VirtualLayer K) (interface : Interface K)
    (satRun : ℕ) (armed : Bool) : WatchdogCauses :=
  if !isfinite plant.xP || !isfinite plant.xQ || decide (xWatch < max |plant.xP| |plant.xQ|) then
    .state
  else if !isfinite virtual.zP || !isfinite virtual.zQ then .virtual
  else if interface.varthetaTrips then .vartheta
  else if armed && decide (satPersistUpdates < satRun) then .saturation
  else .none

/-- `step`. The saturation run is counted only while no cause is latched, as in the source. -/
def step (vs : List ℤ) : MicrogridController K × InterfaceOut K :=
  let t := c.t_s
  let h := c.params.dt_s
  let cand := c.candidate vs
  let r := c.interfaceStep lib vs
  let plant := c.plant.step lib r.2.aP r.2.aQ t h
  let virtual := (c.held vs).commit cand.zP cand.zQ cand.c
  let running := decide (c.watchdogCause = .none)
  let satRun :=
    if running then if r.2.saturated then c.satRun + 1 else 0 else c.satRun
  let armed := decide (c.params.interface.armingTime ≤ t)
  let cause :=
    if running then watchdog plant virtual r.1 satRun armed else c.watchdogCause
  ({ c with
      plant := plant
      virtual := virtual
      interface := r.1
      stepCount := c.stepCount + 1
      watchdogCause := cause
      satRun := satRun },
    r.2)

/-- One tick of the controller, its output dropped. -/
def tick (vs : List ℤ) : MicrogridController K :=
  (c.step lib vs).1

section Frame

variable (vs : List ℤ)

@[simp]
theorem tick_params : (c.tick lib vs).params = c.params := rfl

@[simp]
theorem tick_stepCount : (c.tick lib vs).stepCount = c.stepCount + 1 := rfl

@[simp]
theorem tick_virtual : (c.tick lib vs).virtual =
    (c.held vs).commit (c.candidate vs).zP (c.candidate vs).zQ (c.candidate vs).c := rfl

@[simp]
theorem tick_interface : (c.tick lib vs).interface = (c.interfaceStep lib vs).1 := rfl

@[simp]
theorem tick_plant : (c.tick lib vs).plant =
    c.plant.step lib (c.interfaceStep lib vs).2.aP (c.interfaceStep lib vs).2.aQ c.t_s
      c.params.dt_s := rfl

end Frame

end MicrogridController

/-! ### A sample node -/

/-- A dead-zone interface. -/
def sampleAdaptive : AdaptiveParams ℚ where
  gamma := 1 / 400
  eps := 1 / 100
  vartheta0 := 0
  mu_max := 10
  trigger := .sigma
  gamma_nonneg := by norm_num
  eps_nonneg := by norm_num

/-- A pinned node with one neighbour, at rest at the origin. -/
def sampleParams (interface : InterfaceParams ℚ) : ControllerParams ℚ where
  dt_s := 1 / 40
  plant := ⟨1, 1, 0, .per, 10, 12, by norm_num⟩
  virtual :=
    ⟨30, 1, 1 / 8, 1 / 1000, 1 / 40, 1 / 10, 1, 1, 0, by norm_num, by norm_num, by norm_num,
      by norm_num⟩
  interface := interface
  degree := 1
  state0_P := 0
  state0_Q := 0
  vstate0_P := 0
  vstate0_Q := 0
  dt_pos := by norm_num
  D_pos := by norm_num

end VertexTestbed.Host
