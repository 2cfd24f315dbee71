import VertexTestbed.Lib.Runs
import VertexTestbed.Firmware.Atomicity

/-!
# What the microgrid law divides by

A board is driven by frames and control periods in any order (`BoardInput`, `boardStep`). While a
microgrid law is selected, both configuration blocks should be present and nothing that
`microgrid_reset` or `microgrid_step` divides by should be zero: that is `MicrogridSound`.

The code keeps it on all runs but two kinds. A plant or virtual frame that is **refused after its
stores** clears a presence bit and leaves a bad block behind under a law that goes on running; and
`delta_o` is never checked, so the ramp remainder `max(T_o - t, delta_o)` reaches zero when the
clock gets to the deadline (`RampExpired`). `microgridSound_along_run_iff` says there is no third
kind.

The denominator `1 + h a_o D` of the semi-implicit update is not a configured quantity; it is
at least one along every run whose virtual frames carry nonnegative gains
(`one_le_mgDen_along_run`).
-/

namespace VertexTestbed.Firmware

variable {K : Type*} [Field K] [LinearOrder K] [IsStrictOrderedRing K] [FloorRing K]

/-! ### The driven board -/

/-- What can happen to a board: a frame, at some time, or a control period. -/
inductive BoardInput where
  | frame (type : UInt8) (payload : Bytes) (nowUs : ℤ)
  | tick
  deriving DecidableEq

/-- One input. -/
def boardStep (lib : Libm K) (b : Board K) : BoardInput → Board K
  | .frame type payload nowUs => (agentApplyFrame b type payload nowUs).2
  | .tick => discreteStep lib b

/-! ### Divisors -/

/-- The values that `microgrid_reset` and `microgrid_step` divide by: `kappa`, the two ratings, the
ramp remainder, the period and the LC remainder. -/
def microgridDivisors (a : Agent K) : List K :=
  let m := a.params.microgrid
  let h : K := mgPeriod a
  let t : K := mgTime a
  [u m.kappa, u m.p_max, u m.q_max, mgRemainder m t, h, lcRemainder m h t]

/-- A board that can run a microgrid law. -/
structure MicrogridSound (a : Agent K) : Prop where
  /-- Both blocks are marked present. -/
  blocks : a.params.mgBlocks &&& mgBlockNeed = mgBlockNeed
  kappa_pos : 0 < a.params.microgrid.kappa
  p_max_pos : 0 < a.params.microgrid.p_max
  q_max_pos : 0 < a.params.microgrid.q_max
  /-- Nothing it divides by is zero. -/
  divisors : ∀ x ∈ microgridDivisors a, x ≠ 0

/-- The ramp remainder is zero at the clock `tMs`: an absent width at or past the deadline, or a
negative one exactly on it. -/
def RampExpired (m : MicrogridParams) (tMs : ℤ) : Prop :=
  (m.delta_o = 0 ∧ m.T_o ≤ tMs) ∨ (m.delta_o < 0 ∧ m.T_o = tMs)

/-- The law's clock in milliseconds. -/
def mgTimeMs (a : Agent K) : ℤ := a.vars.counter * a.params.dt

/-- A reset puts the clock back to zero. -/
@[simp]
theorem mgTimeMs_microgridReset (a : Agent K) : mgTimeMs (microgridReset a) = 0 := by
  rw [mgTimeMs, microgridReset_counter, zero_mul]

omit [IsStrictOrderedRing K] [FloorRing K] [LinearOrder K] in
/-- The law's time is the clock's, in seconds. -/
theorem mgTime_eq_ms (a : Agent K) : mgTime a = ms (mgTimeMs a) := by
  rw [mgTime, mgPeriod, ms, ms, mgTimeMs]
  push_cast
  ring

omit [FloorRing K] in
/-- Milliseconds compare as seconds do. -/
theorem ms_lt_ms {v w : ℤ} : (ms v : K) < ms w ↔ v < w := by
  have hpos : (0 : K) < 1 / 1000 := by norm_num
  rw [ms, ms, mul_lt_mul_iff_of_pos_right hpos, Int.cast_lt]

omit [FloorRing K] in
/-- A span is zero in seconds exactly when it is zero milliseconds. -/
theorem ms_eq_zero {v : ℤ} : (ms v : K) = 0 ↔ v = 0 := by
  rw [ms, mul_eq_zero, Int.cast_eq_zero]
  norm_num

omit [FloorRing K] in
/-- A span is positive in seconds exactly when it is so in milliseconds. -/
theorem ms_pos {v : ℤ} : 0 < (ms v : K) ↔ 0 < v := by
  rw [ms, mul_pos_iff_of_pos_right (by norm_num), Int.cast_pos]

omit [FloorRing K] in
/-- A field is positive as a number exactly when it is so on the wire. -/
theorem u_pos {v : ℤ} : 0 < (u v : K) ↔ 0 < v := by
  have hpos : (0 : K) < invScaleFactor := by norm_num [invScaleFactor]
  rw [u, mul_pos_iff_of_pos_right hpos, Int.cast_pos]

omit [FloorRing K] in
/-- **The remainder of the ramp is zero exactly when it has expired.** -/
theorem mgRemainder_eq_zero_iff (m : MicrogridParams) (tMs : ℤ) :
    mgRemainder m (ms tMs : K) = 0 ↔ RampExpired m tMs := by
  have hsub : (ms m.T_o - ms tMs : K) = ms (m.T_o - tMs) := by
    rw [ms, ms, ms]
    push_cast
    ring
  rw [mgRemainder, hsub, RampExpired]
  simp only [ms_lt_ms]
  split_ifs with hlt
  · rw [ms_eq_zero]
    omega
  · rw [ms_eq_zero]
    omega

omit [FloorRing K] in
/-- The LC remainder never falls below a positive width. -/
theorem lcRemainder_pos (m : MicrogridParams) {h : K} (hpos : 0 < h) (t : K) :
    0 < lcRemainder m h t := by
  have hwidth : 0 < lcWidth m h := by
    rw [lcWidth]
    split_ifs with hd
    · linarith
    · exact not_le.1 hd
  rw [lcRemainder]
  split_ifs with hlt
  · exact hwidth
  · exact hwidth.trans_le (not_lt.1 hlt)

omit [FloorRing K] in
/-- Under a positive period, soundness is a statement about the integers of the configuration. -/
theorem microgridSound_iff {a : Agent K} (hdt : 0 < a.params.dt) :
    MicrogridSound a ↔
      a.params.mgBlocks &&& mgBlockNeed = mgBlockNeed ∧ ¬ mgPlantBad a.params.microgrid ∧
        ¬ RampExpired a.params.microgrid (mgTimeMs a) := by
  rw [← mgRemainder_eq_zero_iff (K := K), ← mgTime_eq_ms]
  constructor
  · intro hs
    refine ⟨hs.blocks, ?_, hs.divisors _ (by simp [microgridDivisors])⟩
    rintro (h | h | h)
    · exact not_le.2 hs.kappa_pos h
    · exact not_le.2 hs.p_max_pos h
    · exact not_le.2 hs.q_max_pos h
  · rintro ⟨hblocks, hplant, hramp⟩
    obtain ⟨hkappa, hp, hq⟩ : _ ∧ _ ∧ _ := by
      simpa only [mgPlantBad, not_or, not_le] using hplant
    have hperiod : (0 : K) < mgPeriod a := ms_pos.2 hdt
    refine ⟨hblocks, hkappa, hp, hq, ?_⟩
    intro x hx
    simp only [microgridDivisors, List.mem_cons, List.not_mem_nil, or_false] at hx
    rcases hx with rfl | rfl | rfl | rfl | rfl | rfl
    · exact (u_pos.2 hkappa).ne'
    · exact (u_pos.2 hp).ne'
    · exact (u_pos.2 hq).ne'
    · exact hramp
    · exact hperiod.ne'
    · exact (lcRemainder_pos _ hperiod _).ne'

/-! ### What no input breaks -/

/-- What holds of every board, whatever it was sent: a positive period, and a plant block marked
present that passed its check. -/
structure BoardShape (b : Board K) : Prop where
  dt_pos : 0 < b.agent.params.dt
  plant : b.agent.params.mgBlocks &&& mgBlockPlant = mgBlockPlant →
    ¬ mgPlantBad b.agent.params.microgrid

/-! The bit arithmetic of `mg_blocks`, over all byte values. -/

/-- Without the plant's bit the blocks are not complete. -/
theorem clearPlant_not_need (x : UInt8) :
    x &&& ~~~mgBlockPlant &&& mgBlockNeed ≠ mgBlockNeed := by
  cases x with | ofBitVec v =>
  revert v
  decide

/-- Without the observer's bit they are not complete either. -/
theorem clearVirtual_not_need (x : UInt8) :
    x &&& ~~~mgBlockVirtual &&& mgBlockNeed ≠ mgBlockNeed := by
  cases x with | ofBitVec v =>
  revert v
  decide

/-- A cleared bit is clear. -/
theorem clearPlant_not_plant (x : UInt8) :
    x &&& ~~~mgBlockPlant &&& mgBlockPlant ≠ mgBlockPlant := by
  cases x with | ofBitVec v =>
  revert v
  decide

/-- Clearing the observer's bit leaves the plant's. -/
theorem clearVirtual_plant (x : UInt8) :
    x &&& ~~~mgBlockVirtual &&& mgBlockPlant = x &&& mgBlockPlant := by
  cases x with | ofBitVec v =>
  revert v
  decide

/-- So does setting it. -/
theorem setVirtual_plant (x : UInt8) :
    (x ||| mgBlockVirtual) &&& mgBlockPlant = x &&& mgBlockPlant := by
  cases x with | ofBitVec v =>
  revert v
  decide

/-- Complete blocks stay complete when the plant's bit is set again. -/
theorem setPlant_need {x : UInt8} (h : x &&& mgBlockNeed = mgBlockNeed) :
    (x ||| mgBlockPlant) &&& mgBlockNeed = mgBlockNeed := by
  cases x with | ofBitVec v =>
  revert v
  decide

/-- And when the observer's is. -/
theorem setVirtual_need {x : UInt8} (h : x &&& mgBlockNeed = mgBlockNeed) :
    (x ||| mgBlockVirtual) &&& mgBlockNeed = mgBlockNeed := by
  cases x with | ofBitVec v =>
  revert v
  decide

/-- Complete blocks have the plant's bit. -/
theorem need_plant {x : UInt8} (h : x &&& mgBlockNeed = mgBlockNeed) :
    x &&& mgBlockPlant = mgBlockPlant := by
  cases x with | ofBitVec v =>
  revert v
  decide

theorem zero_not_plant : (0 : UInt8) &&& mgBlockPlant ≠ mgBlockPlant := by decide

omit [LinearOrder K] [IsStrictOrderedRing K] [FloorRing K] in
/-- A board at power-up has the shape. -/
theorem BoardShape.init : BoardShape (boardInit K) where
  dt_pos := by
    show (0 : ℤ) < 200
    norm_num
  plant := fun h ↦ absurd h zero_not_plant

/-- Storing a virtual block leaves the plant block alone. -/
theorem mgPlantBad_storeMgVirtual {m : MicrogridParams} {d : Bytes} :
    mgPlantBad (storeMgVirtual m d) ↔ mgPlantBad m := Iff.rfl

/-- The shape survives every frame, accepted or not. -/
theorem BoardShape.frame {b : Board K} (hb : BoardShape b) (type : UInt8) (d : Bytes)
    (nowUs : ℤ) : BoardShape (agentApplyFrame b type d nowUs).2 := by
  obtain ⟨hdt, hplant⟩ := hb
  have hout := agentApplyFrame_outcome b type d nowUs
  generalize agentApplyFrame b type d nowUs = r at hout ⊢
  cases hout with
  | refused => exact ⟨hdt, hplant⟩
  | plantBad => exact ⟨hdt, fun h ↦ absurd h (clearPlant_not_plant _)⟩
  | virtualBad =>
    refine ⟨hdt, fun h ↦ ?_⟩
    have hbit := (clearVirtual_plant b.agent.params.mgBlocks).symm.trans h
    exact fun hbad ↦ hplant hbit (mgPlantBad_storeMgVirtual.1 hbad)
  | network => exact ⟨hdt, fun h ↦ absurd h zero_not_plant⟩
  | algorithm _ _ hpos => exact ⟨hpos, hplant⟩
  | plantOk _ hok => exact ⟨hdt, fun _ ↦ hok⟩
  | virtualOk =>
    refine ⟨hdt, fun h ↦ ?_⟩
    have hbit := (setVirtual_plant b.agent.params.mgBlocks).symm.trans h
    exact fun hbad ↦ hplant hbit (mgPlantBad_storeMgVirtual.1 hbad)
  | iface _ _ _ _ hneed => exact ⟨hdt, fun _ ↦ hplant (need_plant hneed)⟩
  | disturbance => exact ⟨hdt, hplant⟩
  | start =>
    dsimp only
    split_ifs
    · exact ⟨hdt, hplant⟩
    · exact ⟨hdt, hplant⟩
  | stop => exact ⟨hdt, hplant⟩

/-- Every input keeps it. -/
theorem BoardShape.step {b : Board K} (hb : BoardShape b) (lib : Libm K) (x : BoardInput) :
    BoardShape (boardStep lib b x) := by
  cases x with
  | frame type d nowUs => exact hb.frame type d nowUs
  | tick =>
    rw [boardStep]
    constructor
    · rw [discreteStep_params]
      exact hb.dt_pos
    · rw [discreteStep_params]
      exact hb.plant

/-! ### What an input must not do -/

/-- A board that is sound whenever it runs a microgrid law. -/
def MicrogridReady (b : Board K) : Prop :=
  b.agent.params.law ≠ .finiteTimeAdaptive → MicrogridSound b.agent

/-- The ramp an accepted frame leaves in force has not expired: ALGORITHM rescales the clock,
MG_VIRTUAL replaces the ramp, MG_IFACE and a CONTROL start restart the clock. -/
def FrameKeepsRamp (a : Agent K) (type : UInt8) (d : Bytes) : Prop :=
  let m := a.params.microgrid
  (type = protoTMgIface → ¬ RampExpired m 0) ∧
    (a.params.law ≠ .finiteTimeAdaptive →
      (type = protoTAlgorithm → ¬ RampExpired m (a.vars.counter * protoLdI32 d 0)) ∧
      (type = protoTMgVirtual → ¬ RampExpired (storeMgVirtual m d) (mgTimeMs a)) ∧
      (type = protoTControl → byteAt d 0 = 1 → ¬ RampExpired m 0))

/-- An input that does not break soundness: no block is refused after its stores under a microgrid
law, and the ramp in force afterwards has not expired. -/
def KeepsSound (b : Board K) : BoardInput → Prop
  | .frame type d _ =>
    (b.agent.params.law ≠ .finiteTimeAdaptive →
      ¬ RejectedAfterStore b.agent.params.microgrid type d) ∧
    (FrameAccepted b.agent.params type d → FrameKeepsRamp b.agent type d)
  | .tick =>
    b.agent.params.law ≠ .finiteTimeAdaptive →
      ¬ RampExpired b.agent.params.microgrid
        (wrapI32 (b.agent.vars.counter + 1) * b.agent.params.dt)

section Decidable

instance (m : MicrogridParams) (tMs : ℤ) : Decidable (RampExpired m tMs) :=
  inferInstanceAs (Decidable (_ ∨ _))

instance (a : Agent K) (type : UInt8) (d : Bytes) : Decidable (FrameKeepsRamp a type d) :=
  inferInstanceAs (Decidable (_ ∧ _))

instance (b : Board K) : ∀ x, Decidable (KeepsSound b x)
  | .frame _ _ _ => inferInstanceAs (Decidable (_ ∧ _))
  | .tick => inferInstanceAs (Decidable (_ → _))

end Decidable

omit [Field K] [LinearOrder K] [IsStrictOrderedRing K] [FloorRing K] in
/-- A frame of one of the types that touch neither block, law nor clock. -/
theorem keepsSound_frame_of_ne {b : Board K} {type : UInt8} {d : Bytes} {nowUs : ℤ}
    (hplant : type ≠ protoTMgPlant) (hvirtual : type ≠ protoTMgVirtual)
    (hiface : type ≠ protoTMgIface) (halgorithm : type ≠ protoTAlgorithm)
    (hcontrol : type = protoTControl → byteAt d 0 ≠ 1) :
    KeepsSound b (.frame type d nowUs) := by
  refine ⟨fun _ ↦ not_rejectedAfterStore_of_ne hplant hvirtual, fun _ ↦ ?_⟩
  exact ⟨fun h ↦ absurd h hiface, fun _ ↦
    ⟨fun h ↦ absurd h halgorithm, fun h ↦ absurd h hvirtual, fun h hrun ↦ absurd hrun (hcontrol h)⟩⟩

/-- MG_IFACE never selects the scalar law. -/
theorem ifaceLaw_ne_scalar {byte : UInt8} {law : ControlLaw} (h : ifaceLaw byte = some law) :
    law ≠ .finiteTimeAdaptive := by
  rw [ifaceLaw] at h
  split_ifs at h
  · cases h
    decide
  · cases h
    decide

/-- **One frame.** On a board of the right shape that is ready, a frame leaves the board ready
exactly when it is one that keeps it sound. -/
theorem keepsSound_frame_iff {b : Board K} (hb : BoardShape b) (hready : MicrogridReady b)
    (type : UInt8) (d : Bytes) (nowUs : ℤ) :
    KeepsSound b (.frame type d nowUs) ↔ MicrogridReady (agentApplyFrame b type d nowUs).2 := by
  have hshape := hb.frame type d nowUs
  have hsound : b.agent.params.law ≠ .finiteTimeAdaptive →
      b.agent.params.mgBlocks &&& mgBlockNeed = mgBlockNeed ∧
        ¬ mgPlantBad b.agent.params.microgrid ∧
        ¬ RampExpired b.agent.params.microgrid (mgTimeMs b.agent) :=
    fun hlaw ↦ (microgridSound_iff hb.dt_pos).1 (hready hlaw)
  have hiff := microgridSound_iff hshape.dt_pos
  have hout := agentApplyFrame_outcome b type d nowUs
  rw [MicrogridReady, hiff]
  clear hiff hshape
  generalize agentApplyFrame b type d nowUs = r at hout ⊢
  -- One case for each outcome of a frame; only those that touch the blocks, the ramp or the law
  -- matter.
  cases hout with
  | refused rc _ hno hstore =>
    exact iff_of_true ⟨fun _ ↦ hstore, fun hacc ↦ absurd hacc hno⟩ hsound
  | plantBad htype hlen hbad =>
    have hlate : RejectedAfterStore b.agent.params.microgrid type d := .inl ⟨htype, hlen, hbad⟩
    constructor
    · exact fun hkeep hlaw ↦ absurd hlate (hkeep.1 hlaw)
    · refine fun hpost ↦ ⟨fun hlaw ↦ ?_, fun hacc ↦ absurd hacc hlate.not_frameAccepted⟩
      exact absurd (hpost hlaw).1 (clearPlant_not_need _)
  | virtualBad htype hlen hbad =>
    have hlate : RejectedAfterStore b.agent.params.microgrid type d := .inr ⟨htype, hlen, hbad⟩
    constructor
    · exact fun hkeep hlaw ↦ absurd hlate (hkeep.1 hlaw)
    · refine fun hpost ↦ ⟨fun hlaw ↦ ?_, fun hacc ↦ absurd hacc hlate.not_frameAccepted⟩
      exact absurd (hpost hlaw).1 (clearVirtual_not_need _)
  | network n htype =>
    subst htype
    -- The law becomes the scalar one, and nothing is left to keep.
    refine iff_of_true ?_ fun hlaw ↦ absurd rfl hlaw
    exact keepsSound_frame_of_ne (by decide) (by decide) (by decide) (by decide)
      (fun h ↦ absurd h (by decide))
  | algorithm htype hacc hpos =>
    subst htype
    constructor
    · intro hkeep hlaw
      obtain ⟨hblocks, hplant, -⟩ := hsound hlaw
      exact ⟨hblocks, hplant, ((hkeep.2 hacc).2 hlaw).1 rfl⟩
    · refine fun hpost ↦ ⟨fun _ ↦ not_rejectedAfterStore_of_ne (by decide) (by decide), fun _ ↦ ?_⟩
      refine ⟨fun h ↦ absurd h (by decide), fun hlaw ↦ ?_⟩
      exact ⟨fun _ ↦ (hpost hlaw).2.2, fun h ↦ absurd h (by decide), fun h ↦ absurd h (by decide)⟩
  | plantOk htype hok =>
    subst htype
    refine iff_of_true ⟨fun _ hlate ↦ ?_, fun _ ↦ ?_⟩ fun hlaw ↦ ?_
    · exact hlate.elim (fun h ↦ hok h.2.2) (fun h ↦ absurd h.1 (by decide))
    · exact ⟨fun h ↦ absurd h (by decide), fun _ ↦
        ⟨fun h ↦ absurd h (by decide), fun h ↦ absurd h (by decide), fun h ↦ absurd h (by decide)⟩⟩
    · obtain ⟨hblocks, -, hramp⟩ := hsound hlaw
      exact ⟨setPlant_need hblocks, hok, hramp⟩
  | virtualOk htype hacc hok =>
    subst htype
    constructor
    · intro hkeep hlaw
      obtain ⟨hblocks, hplant, -⟩ := hsound hlaw
      exact ⟨setVirtual_need hblocks, hplant, ((hkeep.2 hacc).2 hlaw).2.1 rfl⟩
    · refine fun hpost ↦ ⟨fun _ hlate ↦ absurd hacc hlate.not_frameAccepted, fun _ ↦ ?_⟩
      refine ⟨fun h ↦ absurd h (by decide), fun hlaw ↦ ?_⟩
      exact ⟨fun h ↦ absurd h (by decide), fun _ ↦ (hpost hlaw).2.2, fun h ↦ absurd h (by decide)⟩
  | iface law htype hacc hlaw hneed =>
    subst htype
    -- The law starts over, so the ramp is judged at time zero.
    have hplant := hb.plant (need_plant hneed)
    dsimp only
    rw [mgTimeMs_microgridReset]
    constructor
    · exact fun hkeep _ ↦ ⟨hneed, hplant, (hkeep.2 hacc).1 rfl⟩
    · refine fun hpost ↦ ⟨fun _ ↦ not_rejectedAfterStore_of_ne (by decide) (by decide), fun _ ↦ ?_⟩
      refine ⟨fun _ ↦ (hpost (ifaceLaw_ne_scalar hlaw)).2.2, fun _ ↦ ?_⟩
      exact ⟨fun h ↦ absurd h (by decide), fun h ↦ absurd h (by decide),
        fun h ↦ absurd h (by decide)⟩
  | disturbance htype =>
    subst htype
    refine iff_of_true ?_ hsound
    exact keepsSound_frame_of_ne (by decide) (by decide) (by decide) (by decide)
      (fun h ↦ absurd h (by decide))
  | start g htype hacc hrun =>
    subst htype
    dsimp only
    -- A start resets a microgrid law, and the ramp is judged at time zero again.
    by_cases hlaw : b.agent.params.law ≠ .finiteTimeAdaptive
    · rw [if_pos hlaw, mgTimeMs_microgridReset]
      obtain ⟨hblocks, hplant, -⟩ := hsound hlaw
      constructor
      · exact fun hkeep _ ↦ ⟨hblocks, hplant, ((hkeep.2 hacc).2 hlaw).2.2 rfl hrun⟩
      · refine fun hpost ↦
          ⟨fun _ ↦ not_rejectedAfterStore_of_ne (by decide) (by decide), fun _ ↦ ?_⟩
        refine ⟨fun h ↦ absurd h (by decide), fun _ ↦ ?_⟩
        exact ⟨fun h ↦ absurd h (by decide), fun h ↦ absurd h (by decide),
          fun _ _ ↦ (hpost hlaw).2.2⟩
    · rw [if_neg hlaw]
      refine iff_of_true ⟨fun h ↦ absurd h hlaw, fun _ ↦ ?_⟩ fun h ↦ absurd h hlaw
      exact ⟨fun h ↦ absurd h (by decide), fun h ↦ absurd h hlaw⟩
  | stop htype hrun =>
    subst htype
    refine iff_of_true ?_ hsound
    exact keepsSound_frame_of_ne (by decide) (by decide) (by decide) (by decide) (fun _ ↦ hrun)

/-- **One input.** -/
theorem keepsSound_iff {b : Board K} (hb : BoardShape b) (hready : MicrogridReady b)
    (lib : Libm K) (x : BoardInput) :
    KeepsSound b x ↔ MicrogridReady (boardStep lib b x) := by
  cases x with
  | frame type d nowUs => exact keepsSound_frame_iff hb hready type d nowUs
  | tick =>
    have hshape := hb.step lib .tick
    rw [MicrogridReady, microgridSound_iff hshape.dt_pos, boardStep, discreteStep_params]
    refine forall_congr' fun hlaw ↦ ?_
    obtain ⟨hblocks, hplant, -⟩ := (microgridSound_iff hb.dt_pos).1 (hready hlaw)
    rw [mgTimeMs, discreteStep_params, discreteStep_of_microgrid lib b hlaw,
      microgridStep_counter]
    exact ⟨fun hramp ↦ ⟨hblocks, hplant, hramp⟩, fun hpost ↦ hpost.2.2⟩

/-! ### Along a run -/

omit [IsStrictOrderedRing K] [FloorRing K] in
/-- A board at power-up runs no microgrid law. -/
theorem MicrogridReady.init : MicrogridReady (boardInit K) :=
  fun h ↦ absurd rfl h

/-- **The runs along which a board that runs a microgrid law has both blocks present, a positive
plant and no zero divisor are exactly those whose every input keeps it sound.** -/
theorem microgridSound_along_run_iff (lib : Libm K) (xs : List BoardInput) :
    (∀ n, MicrogridReady (Runs.run (boardStep lib) (boardInit K) (xs.take n))) ↔
      Runs.Guarded (boardStep lib) KeepsSound (boardInit K) xs :=
  (Runs.guarded_iff_forall_take (J := fun _ ↦ BoardShape) (P := MicrogridReady)
    (fun _ _ x hb ↦ hb.step lib x) (fun _ _ x hb hready ↦ keepsSound_iff hb hready lib x)
    .init .init).symm

/-- A plant frame, a virtual frame and an LC commit, all accepted. -/
def commitFrames : List BoardInput :=
  [.frame protoTMgPlant (0 :: (List.replicate 20 1 ++ List.replicate 8 0)) 0,
    .frame protoTMgVirtual (List.replicate 24 1 ++ List.replicate 24 0) 0,
    .frame protoTMgIface (2 :: List.replicate 37 0) 0]

/-- The commit and the control period after it keep the board sound. -/
theorem commitFrames_sound :
    MicrogridReady
      (Runs.run (boardStep .atZero) (boardInit ℚ) (commitFrames ++ [BoardInput.tick])) := by
  have hready := (microgridSound_along_run_iff .atZero (commitFrames ++ [BoardInput.tick])).2
    (by decide +kernel) (commitFrames ++ [BoardInput.tick]).length
  rwa [List.take_length] at hready

/-- The refused frame leaves the LC law selected over a plant with `kappa = 0`. -/
theorem refusedAfterCommit_not_sound :
    ¬ ∀ (lib : Libm ℚ) (xs : List BoardInput),
      MicrogridReady (Runs.run (boardStep lib) (boardInit ℚ) xs) := by
  intro h
  have hready := h .atZero (commitFrames ++ [.frame protoTMgPlant zeroKappaFrame 0])
  have hsound := hready (by decide +kernel)
  exact absurd hsound.kappa_pos (by decide +kernel)

/-! ### The semi-implicit denominator -/

/-- Gains of the signs the benchmark uses. -/
structure GainsNonneg (m : MicrogridParams) : Prop where
  T_o : 0 ≤ m.T_o
  alpha_0 : 0 ≤ m.alpha_0
  delta_o : 0 ≤ m.delta_o
  kappa_o : 0 ≤ m.kappa_o
  xi : 0 ≤ m.xi
  c_0 : 0 ≤ m.c_0
  b : 0 ≤ m.b
  degree : 0 ≤ m.degree

section Gains

variable {m : MicrogridParams}

omit [FloorRing K] in
theorem u_nonneg {v : ℤ} (h : 0 ≤ v) : 0 ≤ (u v : K) :=
  mul_nonneg (Int.cast_nonneg h) (by norm_num [invScaleFactor])

omit [FloorRing K] in
theorem ms_nonneg {v : ℤ} (h : 0 ≤ v) : 0 ≤ (ms v : K) :=
  mul_nonneg (Int.cast_nonneg h) (by norm_num)

omit [FloorRing K] in
/-- The ramp is nonnegative at every time, the deadline and beyond included. -/
theorem mgAlpha_nonneg (hm : GainsNonneg m) (t : K) : 0 ≤ mgAlpha m t := by
  have hrem : 0 ≤ mgRemainder m t := by
    have hwidth : (0 : K) ≤ ms m.delta_o := ms_nonneg hm.delta_o
    rw [mgRemainder]
    split_ifs with hlt
    · exact hwidth
    · exact hwidth.trans (not_lt.1 hlt)
  exact div_nonneg (mul_nonneg (u_nonneg hm.alpha_0) (ms_nonneg hm.T_o)) hrem

omit [FloorRing K] in
/-- With gains that are not negative the denominator is one and more. -/
theorem one_le_mgDen (hm : GainsNonneg m) {c h : K} (hc : 0 ≤ c) (hh : 0 ≤ h) (t : K) :
    1 ≤ mgDen m c h t := by
  have hf : 0 ≤ mgAlpha m t + u m.kappa_o := add_nonneg (mgAlpha_nonneg hm t) (u_nonneg hm.kappa_o)
  have hD : (0 : K) ≤ mgD m := add_nonneg (Int.cast_nonneg hm.degree) (u_nonneg hm.b)
  have hterm : 0 ≤ h * (c * (mgAlpha m t + u m.kappa_o)) * mgD m :=
    mul_nonneg (mul_nonneg hh (mul_nonneg hc hf)) hD
  rw [mgDen]
  linarith

omit [FloorRing K] in
/-- The virtual gain never decreases. -/
theorem le_mgCandidate_c (hm : GainsNonneg m) (v : MicrogridVars K) (wP wQ : K) {h : K}
    (hh : 0 ≤ h) (t : K) : v.c ≤ (mgCandidate m v wP wQ h t).c := by
  have halpha := mgAlpha_nonneg hm t
  have hrho : 0 ≤ h * (2 * mgAlpha m t) * u m.xi :=
    mul_nonneg (mul_nonneg hh (by linarith)) (u_nonneg hm.xi)
  rw [mgCandidate]
  dsimp only
  refine le_add_of_nonneg_right ?_
  rw [mul_assoc (h * (2 * mgAlpha m t) * u m.xi)]
  exact mul_nonneg (mul_nonneg hrho (mul_self_nonneg _))
    (add_nonneg (mul_self_nonneg _) (mul_self_nonneg _))

end Gains

/-- What nonnegative gains keep along a run. -/
structure GainsInvariant (b : Board K) : Prop where
  dt_pos : 0 < b.agent.params.dt
  gains : GainsNonneg b.agent.params.microgrid
  c_nonneg : 0 ≤ b.agent.vars.mg.c

/-- A full-length virtual frame carries nonnegative gains. -/
def CarriesGains (b : Board K) : BoardInput → Prop
  | .frame type d _ =>
    type = protoTMgVirtual → d.length = protoMgVirtualLen →
      GainsNonneg (storeMgVirtual b.agent.params.microgrid d)
  | .tick => True

/-- A frame whose gains are not negative keeps the invariant. -/
theorem GainsInvariant.frame {b : Board K} (hb : GainsInvariant b) {type : UInt8} {d : Bytes}
    (nowUs : ℤ) (hok : CarriesGains b (.frame type d nowUs)) :
    GainsInvariant (agentApplyFrame b type d nowUs).2 := by
  obtain ⟨hdt, hm, hc⟩ := hb
  have hout := agentApplyFrame_outcome b type d nowUs
  generalize agentApplyFrame b type d nowUs = r at hout ⊢
  cases hout with
  | refused | network | disturbance | stop => exact ⟨hdt, hm, hc⟩
  | plantBad | plantOk =>
    exact ⟨hdt, ⟨hm.T_o, hm.alpha_0, hm.delta_o, hm.kappa_o, hm.xi, hm.c_0, hm.b, hm.degree⟩, hc⟩
  | virtualBad htype hlen => exact ⟨hdt, hok htype hlen, hc⟩
  | virtualOk htype hacc =>
    subst htype
    exact ⟨hdt, hok rfl ((frameAccepted_mgVirtual _ d).1 hacc).1, hc⟩
  | algorithm _ _ hpos => exact ⟨hpos, hm, hc⟩
  | iface =>
    have hm' : GainsNonneg (storeMgIface b.agent.params.microgrid d) :=
      ⟨hm.T_o, hm.alpha_0, hm.delta_o, hm.kappa_o, hm.xi, hm.c_0, hm.b, hm.degree⟩
    exact ⟨hdt, hm', u_nonneg hm.c_0⟩
  | start =>
    dsimp only
    split_ifs
    · exact ⟨hdt, hm, u_nonneg hm.c_0⟩
    · exact ⟨hdt, hm, hc⟩

/-- A control period keeps it. -/
theorem GainsInvariant.tick {b : Board K} (hb : GainsInvariant b) (lib : Libm K) :
    GainsInvariant (discreteStep lib b) := by
  refine ⟨by rw [discreteStep_params]; exact hb.dt_pos, by rw [discreteStep_params]; exact hb.gains,
    ?_⟩
  by_cases hlaw : b.agent.params.law ≠ .finiteTimeAdaptive
  · rw [discreteStep_of_microgrid lib b hlaw]
    exact hb.c_nonneg.trans (le_mgCandidate_c hb.gains _ _ _ (ms_nonneg hb.dt_pos.le) _)
  · rw [discreteStep_of_scalar lib b (not_not.1 hlaw), scalarStep_mg]
    exact hb.c_nonneg

/-- **Along every run whose virtual frames carry nonnegative gains the denominator of the
semi-implicit update is at least one.** -/
theorem one_le_mgDen_along_run (lib : Libm K) {xs : List BoardInput}
    (h : Runs.Guarded (boardStep lib) CarriesGains (boardInit K) xs) (n : ℕ) :
    let a := (Runs.run (boardStep lib) (boardInit K) (xs.take n)).agent
    1 ≤ mgDen a.params.microgrid a.vars.mg.c (mgPeriod a) (mgTime a) := by
  have hinv : GainsInvariant (Runs.run (boardStep lib) (boardInit K) (xs.take n)) := by
    refine h.invariant_prefix (P := GainsInvariant) (fun b x hb hok ↦ ?_) ?_ n
    · cases x with
      | frame type d nowUs => exact hb.frame nowUs hok
      | tick => exact hb.tick lib
    · refine ⟨by show (0 : ℤ) < 200; norm_num, ?_, le_refl _⟩
      constructor <;> exact le_refl _
  exact one_le_mgDen hinv.gains hinv.c_nonneg (ms_nonneg hinv.dt_pos.le) _

end VertexTestbed.Firmware
