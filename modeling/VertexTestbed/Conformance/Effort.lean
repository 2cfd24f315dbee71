import VertexTestbed.Conformance.Laws
import VertexTestbed.Host.Effort

/-!
# The applied command of a relayed board

The first report of a board goes out at the trigger, so its log starts with the initial condition
that `microgrid_reset` publishes, and row `k + 1` is the state behind step `k`, whose time is `k h`.
`analysis/effort.py` takes it to be `(k + 1) h`, which is right for the log of a host agent: that
one starts behind the first step. It also reads the period, the bound and the LC term's parameters
from the assignment, where the board has them as they came over the wire.

* `fromData_board_iff`: the reconstruction from a board's rows is the assignment's interface,
from the state before each step, at `(k + 1) h`. * `effort_rebuilt_iff`: the command of a host agent
is always rebuilt, and that of a board as long as these commands are the applied ones: on the wire
grid, under the adaptive interface always, and under the LC interface as long as the shift of the
time makes no difference.
-/

namespace VertexTestbed.Conformance

open Firmware Host Runs

variable {K : Type*} [Field K] [LinearOrder K]

/-! ### The log of a board -/

/-- The columns of a STATE report, unquantised: the estimate goes out under the LC law only. -/
def boardRow (a : Agent K) : LoggedRow K where
  state_P := a.vars.mg.xP
  state_Q := a.vars.mg.xQ
  vstate_P := a.vars.mg.zP
  vstate_Q := a.vars.mg.zQ
  adaptive :=
    if a.params.law = .microgridLC then .estimate a.vars.mg.S1_hat a.vars.mg.S2_hat
    else .vartheta a.vars.mg.vartheta

/-- The command the law forms at the time `t` on the state before a step, with the feedforward of
that step. -/
def boardCommandAt (lib : Libm K) (a : Agent K) (vs : List ℤ) (t : K) : K × K :=
  let g := microgridCandidate (withHeld a vs)
  let cmd :=
    if a.params.law = .microgridLC then
      mgInterfaceLC lib a.params.microgrid a.vars.mg g.gP g.gQ (mgPeriod a) t
    else mgInterfaceAdaptive a.params.microgrid a.vars.mg g.gP g.gQ (mgPeriod a)
  (cmd.muP, cmd.muQ)

/-- The command a step applies. -/
def boardApplied (lib : Libm K) (a : Agent K) (vs : List ℤ) : K × K :=
  ((microgridCommand lib (withHeld a vs)).muP, (microgridCommand lib (withHeld a vs)).muQ)

/-- It is the one at the law's own clock. -/
theorem boardApplied_eq (lib : Libm K) (a : Agent K) (vs : List ℤ) :
    boardApplied lib a vs = boardCommandAt lib a vs (mgTime a) := by
  rw [boardApplied, boardCommandAt, microgridCommand]
  rfl

/-- An adaptive law reads no time. -/
theorem boardCommandAt_adaptive (lib : Libm K) {a : Agent K} (hlaw : a.params.law ≠ .microgridLC)
    (vs : List ℤ) (t t' : K) : boardCommandAt lib a vs t = boardCommandAt lib a vs t' := by
  rw [boardCommandAt, boardCommandAt, if_neg hlaw, if_neg hlaw]

section Log

variable [IsStrictOrderedRing K] [FloorRing K]

/-- The rows of a board: the initial condition, and one behind each step. -/
def boardLog (lib : Libm K) (a : Agent K) (vss : List (List ℤ)) : List (LoggedRow K) :=
  boardRow a :: (trail (boardTick lib) a vss).map boardRow

/-- The virtual states of a board move by the feedforward, over the board's period. -/
theorem boardRow_feedforward (lib : Libm K) (a : Agent K) (vs : List ℤ) :
    (boardRow (boardTick lib a vs)).vstate_P - (boardRow a).vstate_P =
        mgPeriod a * (microgridCandidate (withHeld a vs)).gP ∧
      (boardRow (boardTick lib a vs)).vstate_Q - (boardRow a).vstate_Q =
        mgPeriod a * (microgridCandidate (withHeld a vs)).gQ :=
  ⟨add_sub_cancel_left _ _, add_sub_cancel_left _ _⟩

/-! ### What the reconstruction is -/

/-- The interface that the assignment's block makes, resumed from the adaptive state of a board. -/
def resumed (n : NodeManifest K) (a : Agent K) : Interface K :=
  match n.interfaceBlock.make n.dt_s with
  | .adaptive i => .adaptive { i with vartheta := a.vars.mg.vartheta }
  | .lc i => .lc { i with S1 := a.vars.mg.S1_hat, S2 := a.vars.mg.S2_hat }

/-- The command the assignment's interface forms at the time `t` on the state before a step. The
feedforward is that of the step, taken over the period of the assignment. -/
def assignedCommandAt (lib : Libm K) (n : NodeManifest K) (a : Agent K) (vs : List ℤ) (t : K) :
    K × K :=
  let g := microgridCandidate (withHeld a vs)
  let r := (resumed n a).step lib t a.vars.mg.xP a.vars.mg.xQ a.vars.mg.zP a.vars.mg.zQ
    (mgPeriod a * g.gP / n.dt_s) (mgPeriod a * g.gQ / n.dt_s)
  (r.2.aP, r.2.aQ)

variable {n : NodeManifest K} {a : Agent K}

omit [IsStrictOrderedRing K] [FloorRing K] in
theorem interfaceBlock_mu_max (n : NodeManifest K) : n.interfaceBlock.mu_max = n.spec.mu_max := by
  rw [NodeManifest.interfaceBlock]
  cases n.spec.interface with
  | adaptive => rfl
  | lc => rfl

/-- The law of a board is the one that the assignment selects. -/
def LawOf (n : NodeManifest K) (a : Agent K) : Prop :=
  a.params.law = if n.spec.interface = .lc then .microgridLC else .microgridAdaptive

omit [IsStrictOrderedRing K] [FloorRing K] in
theorem LawOf.adaptive (h : LawOf n a) {p : AdaptiveParams K}
    (hp : n.interfaceBlock = .adaptive p) :
    a.params.law ≠ .microgridLC := by
  rw [NodeManifest.interfaceBlock] at hp
  cases hkind : n.spec.interface with
  | adaptive =>
    rw [LawOf, hkind] at h
    rw [h]
    decide
  | lc =>
    rw [hkind] at hp
    cases hp

omit [IsStrictOrderedRing K] [FloorRing K] in
theorem LawOf.lc (h : LawOf n a) {p : LCParams K} (hp : n.interfaceBlock = .lc p) :
    n.spec.interface = .lc ∧ a.params.law = .microgridLC := by
  rw [NodeManifest.interfaceBlock] at hp
  cases hkind : n.spec.interface with
  | adaptive =>
    rw [hkind] at hp
    cases hp
  | lc =>
    rw [LawOf, hkind] at h
    exact ⟨rfl, h⟩

/-- **The reconstruction is the assignment's interface at the analysis's time**, on every board of
its law. -/
theorem rebuilt_boardTick (lib : Libm K) (hlaw : LawOf n a) (k : ℕ) (vs : List ℤ) :
    rebuilt lib n.interfaceBlock n.dt_s k (boardRow a) (boardRow (boardTick lib a vs)) =
      some (assignedCommandAt lib n a vs (((k : K) + 1) * n.dt_s)) := by
  obtain ⟨hP, hQ⟩ := boardRow_feedforward lib a vs
  have hm : 0 ≤ n.interfaceBlock.mu_max := by
    rw [interfaceBlock_mu_max]
    exact n.spec.mu_max_pos.le
  rw [rebuilt, hP, hQ, assignedCommandAt, resumed]
  rcases hblock : n.interfaceBlock with p | p
  · rw [hblock] at hm
    have hcells : (boardRow a).adaptive = .vartheta a.vars.mg.vartheta :=
      if_neg (hlaw.adaptive hblock)
    have hcommand := adaptive_command
      { AdaptiveInterface.init p n.dt_s with vartheta := a.vars.mg.vartheta } hm
      a.vars.mg.xP a.vars.mg.xQ a.vars.mg.zP a.vars.mg.zQ
      (mgPeriod a * (microgridCandidate (withHeld a vs)).gP / n.dt_s)
      (mgPeriod a * (microgridCandidate (withHeld a vs)).gQ / n.dt_s)
    simp only [omegaAt, hcells, Option.map_some]
    exact congrArg some hcommand.symm
  · rw [hblock] at hm
    have hcells : (boardRow a).adaptive = .estimate a.vars.mg.S1_hat a.vars.mg.S2_hat :=
      if_pos (hlaw.lc hblock).2
    have hcommand := lc_command lib
      { LCInterface.init p n.dt_s with S1 := a.vars.mg.S1_hat, S2 := a.vars.mg.S2_hat } rfl hm
      (((k : K) + 1) * n.dt_s) a.vars.mg.xP a.vars.mg.xQ a.vars.mg.zP a.vars.mg.zQ
      (mgPeriod a * (microgridCandidate (withHeld a vs)).gP / n.dt_s)
      (mgPeriod a * (microgridCandidate (withHeld a vs)).gQ / n.dt_s)
    simp only [omegaAt, hcells, Option.map_some]
    exact congrArg some hcommand.symm

/-- **On the wire grid the assignment's interface is the board's law**, at every time. -/
theorem assignedCommandAt_eq (lib : Libm K) (hwire : CommandOnWire n) {m : AgentAssignment K}
    (hm : AssignedFrom n m) (hn : m.neighbors.length ≤ agentMaxNeighbors) {epoch_us : ℤ}
    (ha : a.params = sentParams m hn epoch_us) (vs : List ℤ) (t : K) :
    assignedCommandAt lib n a vs t = boardCommandAt lib a vs t := by
  have hlaw : LawOf n a := by
    rw [LawOf, ha]
    exact sentParams_law hm hn epoch_us
  have hperiod : (mgPeriod a : K) = n.dt_s := by
    rw [mgPeriod, ha]
    show ms (roundMs m.dt_s) = n.dt_s
    rw [hm.dt_s, ms_roundMs hwire.dt_s]
  have hfed (g : K) : n.dt_s * g / n.dt_s = g := mul_div_cancel_left₀ _ n.dt_pos.ne'
  rw [assignedCommandAt, resumed, boardCommandAt, hperiod, hfed, hfed]
  rcases hblock : n.interfaceBlock with p | p
  · have hmu_max : u a.params.microgrid.mu_max = p.mu_max := by
      have hsent := sentBlock_mu_max hwire.mu_max
      rw [← sentParams_microgrid hm hn epoch_us, ← ha, ← interfaceBlock_mu_max, hblock] at hsent
      exact hsent
    have hcommand := adaptiveCommand_eq (p := a.params)
      (i := { AdaptiveInterface.init p n.dt_s with vartheta := a.vars.mg.vartheta }) hmu_max
      a.vars.mg rfl (microgridCandidate (withHeld a vs)).gP (microgridCandidate (withHeld a vs)).gQ
    rw [if_neg (hlaw.adaptive hblock)]
    exact hcommand.symm
  · obtain ⟨hkind, hselected⟩ := hlaw.lc hblock
    have hterm := sameLCTerm_sent (hwire.lc hkind) hwire.mu_max hm hn epoch_us hkind hblock
    rw [← ha] at hterm
    have hresumed : SameLCTerm a.params
        { LCInterface.init p n.dt_s with S1 := a.vars.mg.S1_hat, S2 := a.vars.mg.S2_hat } :=
      { hterm with }
    rw [if_pos hselected]
    exact (hresumed.command a.vars.mg rfl rfl (microgridCandidate (withHeld a vs)).gP
      (microgridCandidate (withHeld a vs)).gQ t).symm

/-! ### A whole log -/

/-- A step of a board, with the number of the step. -/
def numberedTick (lib : Libm K) (s : ℕ × Agent K) (vs : List ℤ) : ℕ × Agent K :=
  (s.1 + 1, boardTick lib s.2 vs)

omit [IsStrictOrderedRing K] [FloorRing K] in
/-- **Steady**: on the state before step `k` the assignment's interface forms the command at
`(k + 1) h` that the board's law forms at its own time. -/
def Steady (lib : Libm K) (n : NodeManifest K) (s : ℕ × Agent K) (vs : List ℤ) : Prop :=
  assignedCommandAt lib n s.2 vs (((s.1 : K) + 1) * n.dt_s) = boardApplied lib s.2 vs

omit [IsStrictOrderedRing K] [FloorRing K] in
/-- **Timeless**: on the state before step `k` the board's law forms the command at `(k + 1) h` that
it forms at its own time. -/
def Timeless (lib : Libm K) (h : K) (s : ℕ × Agent K) (vs : List ℤ) : Prop :=
  boardCommandAt lib s.2 vs (((s.1 : K) + 1) * h) = boardCommandAt lib s.2 vs (mgTime s.2)

omit [Field K] [LinearOrder K] [IsStrictOrderedRing K] [FloorRing K] in
/-- A list that is put together from a head and a tail that may be missing. -/
theorem cons_eq_some_iff {α : Type*} {x y : α} {rest : Option (List α)} {ys : List α} :
    (do
      let u ← some x
      let us ← rest
      return u :: us) = some (y :: ys) ↔ x = y ∧ rest = some ys := by
  cases rest with
  | none => simp
  | some us => simp

/-- **Along a run the rebuilt commands are the applied ones exactly as long as its steps are
steady.** -/
theorem fromData_board_iff (lib : Libm K) (hlaw : LawOf n a) (k : ℕ) (vss : List (List ℤ)) :
    fromData lib n.interfaceBlock n.dt_s k (boardLog lib a vss) =
        some (outputs (boardTick lib) (boardApplied lib) a vss) ↔
      Guarded (numberedTick lib) (Steady lib n) (k, a) vss := by
  induction vss generalizing a k with
  | nil => exact iff_of_true rfl trivial
  | cons vs vss ih =>
    have hstep : fromData lib n.interfaceBlock n.dt_s k (boardLog lib a (vs :: vss)) = do
        let u ← rebuilt lib n.interfaceBlock n.dt_s k (boardRow a) (boardRow (boardTick lib a vs))
        let us ← fromData lib n.interfaceBlock n.dt_s (k + 1)
          (boardLog lib (boardTick lib a vs) vss)
        return u :: us := rfl
    rw [hstep, rebuilt_boardTick lib hlaw]
    refine cons_eq_some_iff.trans ?_
    rw [guarded_cons, ih (by rw [LawOf, boardTick_params]; exact hlaw)]
    exact and_congr (by rw [Steady]) Iff.rfl

/-- On the wire grid steady steps are timeless ones. -/
theorem steady_iff_timeless (lib : Libm K) (hwire : CommandOnWire n) {m : AgentAssignment K}
    (hm : AssignedFrom n m) (hn : m.neighbors.length ≤ agentMaxNeighbors) {epoch_us : ℤ}
    (ha : a.params = sentParams m hn epoch_us) (k : ℕ) (vss : List (List ℤ)) :
    Guarded (numberedTick lib) (Steady lib n) (k, a) vss ↔
      Guarded (numberedTick lib) (Timeless lib n.dt_s) (k, a) vss := by
  have hall : ∀ vs ∈ vss, (fun _ : List ℤ ↦ True) vs := fun _ _ ↦ trivial
  refine guarded_congr (J := fun s : ℕ × Agent K ↦ s.2.params = sentParams m hn epoch_us)
    ?_ ?_ hall ha
  · intro s vs _ hs
    rw [numberedTick, boardTick_params]
    exact hs
  · intro s vs _ hs
    rw [Steady, Timeless, assignedCommandAt_eq lib hwire hm hn hs, boardApplied_eq]

/-- Every step of an adaptive law is timeless. -/
theorem timeless_adaptive (lib : Libm K) (h : K) {s : ℕ × Agent K}
    (hlaw : s.2.params.law ≠ .microgridLC) (vss : List (List ℤ)) :
    Guarded (numberedTick lib) (Timeless lib h) s vss := by
  induction vss generalizing s with
  | nil => trivial
  | cons vs vss ih =>
    have hnext : (numberedTick lib s vs).2.params.law ≠ .microgridLC := by
      rw [numberedTick, boardTick_params]
      exact hlaw
    exact ⟨boardCommandAt_adaptive lib hlaw vs _ _, ih hnext⟩

/-! ### Both kinds of log -/

/-- The node's frames are built from its assignment, and have configured the board. -/
structure ConfiguredBoard (n : NodeManifest K) (b : Board K) : Prop where
  applied : ∃ (m : AgentAssignment K) (epoch_us : ℤ) (frames : List OutFrame)
    (timed : List (OutFrame × ℤ)) (before : Board K), AssignedFrom n m ∧
      assignmentToFrames m (some true) epoch_us = .ok frames ∧ timed.map Prod.fst = frames ∧
      applyFrames before timed = some b

/-- A configured board has the parameters that were sent. -/
theorem ConfiguredBoard.params {b : Board K} (h : ConfiguredBoard n b) :
    ∃ (m : AgentAssignment K) (hn : m.neighbors.length ≤ agentMaxNeighbors) (epoch_us : ℤ),
      AssignedFrom n m ∧ b.agent.params = sentParams m hn epoch_us := by
  obtain ⟨m, epoch_us, frames, timed, before, hm, hf, ht, hb⟩ := h.applied
  have hn := neighbors_le_of_applied hf ht hb
  refine ⟨m, hn, epoch_us, hm, ?_⟩
  rw [applied_eq_sentBoard hm hf hn ht hb, sentBoard_agent hm]
  rfl

/-- **Control effort is reconstructed from the log of a host agent, and from the log of a board
exactly if every step is steady**, for every node of a manifest and every run. From the rows of a
host agent the analysis rebuilds the command of every step behind the first. From the rows of a
board that the node's frames have configured, which start with the initial condition, it rebuilds
the commands if and only if at every step the assignment's interface at `(k + 1) h` commands what
the board's law commands at its own time. Where what the command reads is on the wire grid, that is
so if and only if the shift of the time makes no difference to the board's law, and under the
adaptive arms it makes none. -/
theorem effort_rebuilt_iff (lib : Libm K) (n : NodeManifest K) (vss : List (List ℤ)) :
    appliedCommand lib n.interfaceBlock n.dt_s
          ((MicrogridController.init n.controllerParams).hostLog lib vss) =
        some (outputs (MicrogridController.tick lib) (MicrogridController.appliedAt lib)
          (.init n.controllerParams) vss).tail ∧
      ∀ b : Board K, ConfiguredBoard n b →
        (appliedCommand lib n.interfaceBlock n.dt_s (boardLog lib b.agent vss) =
            some (outputs (boardTick lib) (boardApplied lib) b.agent vss) ↔
          Guarded (numberedTick lib) (Steady lib n) (0, b.agent) vss) ∧
        (CommandOnWire n →
          (Guarded (numberedTick lib) (Steady lib n) (0, b.agent) vss ↔
            Guarded (numberedTick lib) (Timeless lib n.dt_s) (0, b.agent) vss) ∧
          (n.spec.interface = .adaptive →
            Guarded (numberedTick lib) (Steady lib n) (0, b.agent) vss)) := by
  have hmax : 0 ≤ n.controllerParams.interface.mu_max := by
    rw [show n.controllerParams.interface = n.interfaceBlock from rfl, interfaceBlock_mu_max]
    exact n.spec.mu_max_pos.le
  refine ⟨MicrogridController.applied_hostLog n.controllerParams hmax vss, fun b hb ↦ ?_⟩
  obtain ⟨m, hn, epoch_us, hm, hparams⟩ := hb.params
  have hlaw : LawOf n b.agent := by
    rw [LawOf, hparams]
    exact sentParams_law hm hn epoch_us
  refine ⟨fromData_board_iff lib hlaw 0 vss, fun hwire ↦ ?_⟩
  have htimeless := steady_iff_timeless lib hwire hm hn hparams 0 vss
  refine ⟨htimeless, fun hadaptive ↦ htimeless.mpr (timeless_adaptive lib n.dt_s ?_ vss)⟩
  rw [hlaw, hadaptive]
  decide

end Log

/-! ### One step of a relayed board -/

/-- An adaptive node whose `kappa` is off the wire grid. -/
def thirdNode : NodeManifest ℚ :=
  { sampleNode .adaptive 0 with
    plant := { (sampleNode .adaptive 0).plant with kappa := 1 / 15, kappa_pos := by norm_num } }

/-- Its assignment. -/
def thirdAssigned : AgentAssignment ℚ :=
  { sampleAssignment "adaptive" sampleLCDict with microgrid := some (microgridDicts thirdNode) }

/-- Its frames configure a board. -/
theorem configuredBoard_third : ∃ b : Board ℚ, ConfiguredBoard thirdNode b := by
  have hok : (assignmentToFrames thirdAssigned (some true) 0).isOk := by decide +kernel
  rcases hf : assignmentToFrames thirdAssigned (some true) 0 with e | frames
  · rw [hf] at hok
    cases hok
  · have ht := map_fst_allAt 0 frames
    obtain ⟨b, hb, -⟩ := applyFrames_view hf (by decide) ht (boardInit ℚ)
    exact ⟨b, thirdAssigned, 0, frames, _, _, ⟨rfl, rfl, rfl⟩, hf, ht, hb⟩

/-- What its command reads is on the wire grid. -/
theorem thirdNode_onWire : CommandOnWire thirdNode :=
  { (sampleNode_onWire .adaptive 0).command with lc := fun h ↦ (by cases h) }

/-- The commands of the adaptive node are rebuilt, from the log of a host agent and from the log of
a board. -/
theorem effort_rebuilt_sample :
    appliedCommand .atZero thirdNode.interfaceBlock thirdNode.dt_s
        ((MicrogridController.init thirdNode.controllerParams).hostLog .atZero
          [[1000000, 0, 2000000, 0], []]) =
      some (outputs (MicrogridController.tick .atZero) (MicrogridController.appliedAt .atZero)
        (.init thirdNode.controllerParams) [[1000000, 0, 2000000, 0], []]).tail ∧
    ∃ b : Board ℚ, ConfiguredBoard thirdNode b ∧
      appliedCommand .atZero thirdNode.interfaceBlock thirdNode.dt_s
          (boardLog .atZero b.agent [[1000000, 0, 2000000, 0], []]) =
        some (outputs (boardTick .atZero) (boardApplied .atZero) b.agent
          [[1000000, 0, 2000000, 0], []]) := by
  obtain ⟨b, hb⟩ := configuredBoard_third
  obtain ⟨hhost, hboard⟩ := effort_rebuilt_iff .atZero thirdNode [[1000000, 0, 2000000, 0], []]
  obtain ⟨hrebuilt, hsteady⟩ := hboard b hb
  exact ⟨hhost, b, hb, hrebuilt.mpr ((hsteady thirdNode_onWire).2 rfl)⟩

/-- The board that the frames of the sample node configure. -/
def sampleLCBoard : Option (Board ℚ) := do
  let frames ← (assignmentToFrames (sampleAssigned .lc 0) (some true) 0).toOption
  applyFrames (boardInit ℚ) (allAt 0 frames)

/-- **One period too late**: in the first step the board's gain is `2 / 40`, and the analysis takes
`2 / (40 - 1 / 40)`. -/
theorem effort_shifted :
    (sampleLCBoard.map fun b ↦ outputs (boardTick .atZero) (boardApplied .atZero) b.agent [[]]) =
        some [(-1 / 4, -1 / 2)] ∧
      (sampleLCBoard.bind fun b ↦ appliedCommand .atZero (sampleNode .lc 0).interfaceBlock
          (sampleNode .lc 0).dt_s (boardLog .atZero b.agent [[]])) =
        some [(-400 / 1599, -800 / 1599)] ∧
      [((-1 / 4 : ℚ), (-1 / 2 : ℚ))] ≠ [(-400 / 1599, -800 / 1599)] := by
  decide +kernel

end VertexTestbed.Conformance
