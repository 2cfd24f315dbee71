import VertexTestbed.Conformance.Configure
import VertexTestbed.Firmware.Atomicity
import VertexTestbed.Firmware.Observer
import VertexTestbed.Lib.Runs

/-!
# Reconfiguring a running board

What the relay sends in the middle of a run is the frames of an assignment without a trigger, and
control periods fall in between. Two of the frames matter to a microgrid run: NETWORK drops the law
to the scalar one, and MG_IFACE commits the law again and resets its integrators as it does so.

`waiting` is the window between the two, as the host sees it in the acknowledgements.
`live_reconfigure_iff` says that the run goes on undisturbed exactly when no control period falls
into the window and the commit finds the integrators where a reset would put them.
-/

namespace VertexTestbed.Conformance

open Firmware Host Runs

variable {K : Type*} [Field K] [LinearOrder K] [IsStrictOrderedRing K] [FloorRing K]

/-! ### The run -/

/-- A frame at an uptime, or a control period with the snapshot it fetched, if there was one. -/
inductive LiveEvent where
  | frame (f : OutFrame) (nowUs : ℤ)
  | tick (fresh : Option NeighborInfo)

/-- A board, and whether an accepted NETWORK frame is waiting for its MG_IFACE. -/
structure LiveBoard (K : Type*) where
  board : Board K
  waiting : Bool

/-- The agent a control period works on. -/
def fetched (a : Agent K) : Option NeighborInfo → Agent K
  | some info => absorbNeighbors a info
  | none => a

/-- Whether the control loop does anything. -/
def LiveBoard.active (s : LiveBoard K) : Bool :=
  s.board.agent.params.running && s.board.agent.params.enabled

/-- One event. -/
def LiveBoard.step (lib : Libm K) (s : LiveBoard K) : LiveEvent → LiveBoard K
  | .frame f nowUs =>
    let r := agentApplyFrame s.board f.1.value f.2 nowUs
    { board := r.2
      waiting :=
        if r.1 < 0 then s.waiting
        else if f.1 = .network then true
        else if f.1 = .mgIface then false
        else s.waiting }
  | .tick fresh =>
    if s.active then
      { s with
        board := discreteStep lib { s.board with agent := fetched s.board.agent fresh } }
    else s

/-- The frames of an event list. -/
def framesOf (events : List LiveEvent) : List OutFrame :=
  events.filterMap fun
    | .frame f _ => some f
    | .tick _ => none

/-! ### What is asked -/

/-- The physical, virtual, adaptive and estimator states. -/
structure Integrators (K : Type*) where
  x : K × K
  z : K × K
  c : K
  vartheta : K
  S_hat : K × K
  deriving DecidableEq

/-- The integrators of a board. -/
def integrators (v : MicrogridVars K) : Integrators K :=
  ⟨(v.xP, v.xQ), (v.zP, v.zQ), v.c, v.vartheta, (v.S1_hat, v.S2_hat)⟩

/-- **An event does not disturb the run**: a frame moves neither integrators nor counter, and a
control period is one of the run's own law. -/
def Undisturbed (law : ControlLaw) (s : LiveBoard K) : LiveEvent → Prop
  | .frame f nowUs =>
    let vars := (agentApplyFrame s.board f.1.value f.2 nowUs).2.agent.vars
    integrators vars.mg = integrators s.board.agent.vars.mg ∧
      vars.counter = s.board.agent.vars.counter
  | .tick _ => s.active = true → s.board.agent.params.law = law

/-- **An event is harmless**: an MG_IFACE frame that is accepted finds the counter at zero and the
integrators where the reset puts them, and no control period falls between an accepted NETWORK frame
and the accepted MG_IFACE behind it. -/
def Harmless (s : LiveBoard K) : LiveEvent → Prop
  | .frame f _ =>
    f.1 = .mgIface → FrameAccepted s.board.agent.params protoTMgIface f.2 →
      integrators (microgridResetVars (storeMgIface s.board.agent.params.microgrid f.2)) =
          integrators s.board.agent.vars.mg ∧
        0 = s.board.agent.vars.counter
  | .tick _ => s.active = true → s.waiting = false

instance [DecidableEq K] (law : ControlLaw) (s : LiveBoard K) (ev : LiveEvent) :
    Decidable (Undisturbed law s ev) := by
  cases ev with
  | frame f nowUs => exact inferInstanceAs (Decidable (_ ∧ _))
  | tick fresh => exact inferInstanceAs (Decidable (_ → _))

instance [DecidableEq K] (s : LiveBoard K) (ev : LiveEvent) : Decidable (Harmless s ev) := by
  cases ev with
  | frame f nowUs => exact inferInstanceAs (Decidable (_ → _ → _ ∧ _))
  | tick fresh => exact inferInstanceAs (Decidable (_ → _))

/-! ### The invariant -/

/-- A frame of a configure for a law: no trigger, and an MG_IFACE that selects the law. -/
def Configures (law : ControlLaw) : LiveEvent → Prop
  | .frame f _ => f.1 ≠ .control ∧ (f.1 = .mgIface → ifaceLaw (byteAt f.2 0) = some law)
  | .tick _ => True

/-- The board runs the scalar law exactly while an MG_IFACE is waited for. -/
def LawKept (law : ControlLaw) (s : LiveBoard K) : Prop :=
  s.board.agent.params.law = if s.waiting then .finiteTimeAdaptive else law

/-- What a frame that is no trigger does to the law, the integrators and the counter. -/
inductive FrameEffect (b : Board K) (f : OutFrame) (r : ℤ × Board K) : Prop
  | kept (htype : 0 ≤ r.1 → f.1 ≠ .network ∧ f.1 ≠ .mgIface)
      (hrefused : f.1 = .mgIface → ¬FrameAccepted b.agent.params protoTMgIface f.2)
      (hlaw : r.2.agent.params.law = b.agent.params.law)
      (hvars : r.2.agent.vars = b.agent.vars)
  | dropped (hok : 0 ≤ r.1) (htype : f.1 = .network)
      (hlaw : r.2.agent.params.law = .finiteTimeAdaptive)
      (hvars : r.2.agent.vars = b.agent.vars)
  | committed (law : ControlLaw) (hok : 0 ≤ r.1) (htype : f.1 = .mgIface)
      (haccepted : FrameAccepted b.agent.params protoTMgIface f.2)
      (hselects : ifaceLaw (byteAt f.2 0) = some law) (hlaw : r.2.agent.params.law = law)
      (hmg : r.2.agent.vars.mg =
        microgridResetVars (storeMgIface b.agent.params.microgrid f.2))
      (hcounter : r.2.agent.vars.counter = 0)

theorem eq_network_of_value {t : FrameType} (h : t.value = protoTNetwork) : t = .network := by
  cases t <;> first | rfl | exact absurd h (by decide)

theorem eq_mgIface_of_value {t : FrameType} (h : t.value = protoTMgIface) : t = .mgIface := by
  cases t <;> first | rfl | exact absurd h (by decide)

theorem eq_control_of_value {t : FrameType} (h : t.value = protoTControl) : t = .control := by
  cases t <;> first | rfl | exact absurd h (by decide)

omit [LinearOrder K] [IsStrictOrderedRing K] [FloorRing K] in
/-- A frame of any other type keeps all three. -/
theorem FrameEffect.of_other {b : Board K} {f : OutFrame} {t : UInt8} (htype : f.1.value = t)
    (hnetwork : t ≠ protoTNetwork) (hiface : t ≠ protoTMgIface) {r : ℤ × Board K}
    (hlaw : r.2.agent.params.law = b.agent.params.law) (hvars : r.2.agent.vars = b.agent.vars) :
    FrameEffect b f r := by
  have hne : f.1 ≠ .network ∧ f.1 ≠ .mgIface := by
    constructor
    · intro h
      rw [h] at htype
      exact hnetwork htype.symm
    · intro h
      rw [h] at htype
      exact hiface htype.symm
  exact .kept (fun _ ↦ hne) (fun h ↦ absurd h hne.2) hlaw hvars

theorem frame_effect (b : Board K) {f : OutFrame} (hf : f.1 ≠ .control) (nowUs : ℤ) :
    FrameEffect b f (agentApplyFrame b f.1.value f.2 nowUs) := by
  have h := agentApplyFrame_outcome b f.1.value f.2 nowUs
  generalize agentApplyFrame b f.1.value f.2 nowUs = r at h ⊢
  cases h with
  | refused rc hrc hno hstore =>
    refine .kept (fun hok ↦ absurd hrc (not_lt.mpr hok)) (fun htype ↦ ?_) rfl rfl
    rw [htype] at hno
    exact hno
  | plantBad htype => exact .of_other htype (by decide) (by decide) rfl rfl
  | virtualBad htype => exact .of_other htype (by decide) (by decide) rfl rfl
  | network n htype => exact .dropped le_rfl (eq_network_of_value htype) rfl rfl
  | algorithm htype => exact .of_other htype (by decide) (by decide) rfl rfl
  | plantOk htype => exact .of_other htype (by decide) (by decide) rfl rfl
  | virtualOk htype => exact .of_other htype (by decide) (by decide) rfl rfl
  | iface law htype hacc hlaw hneed =>
    rw [htype] at hacc
    exact .committed law le_rfl (eq_mgIface_of_value htype) hacc hlaw rfl rfl rfl
  | disturbance htype => exact .of_other htype (by decide) (by decide) rfl rfl
  | start g htype => exact absurd (eq_control_of_value htype) hf
  | stop htype => exact absurd (eq_control_of_value htype) hf

/-- **The window is where the scalar law runs.** -/
theorem LawKept.step {law : ControlLaw} {s : LiveBoard K} (h : LawKept law s) (lib : Libm K)
    {ev : LiveEvent} (hev : Configures law ev) : LawKept law (s.step lib ev) := by
  cases ev with
  | frame f nowUs =>
    obtain ⟨hcontrol, hselects⟩ := hev
    have heffect := frame_effect s.board hcontrol nowUs
    rw [LawKept, LiveBoard.step]
    generalize agentApplyFrame s.board f.1.value f.2 nowUs = r at heffect ⊢
    -- NETWORK drops the law, MG_IFACE commits the one it names, no other frame touches it.
    cases heffect with
    | kept htype _ hlaw =>
      by_cases hrefused : r.1 < 0
      · rw [if_pos hrefused]
        exact hlaw.trans h
      · obtain ⟨hnetwork, hiface⟩ := htype (not_lt.mp hrefused)
        rw [if_neg hrefused, if_neg hnetwork, if_neg hiface]
        exact hlaw.trans h
    | dropped hok htype hlaw =>
      rw [if_neg (not_lt.mpr hok), if_pos htype]
      exact hlaw
    | committed law' hok htype _ hselected hlaw =>
      obtain rfl := Option.some.inj ((hselects htype).symm.trans hselected)
      rw [if_neg (not_lt.mpr hok), if_neg (by rw [htype]; decide), if_pos htype]
      exact hlaw
  | tick fresh =>
    rw [LawKept, LiveBoard.step]
    by_cases hactive : s.active = true
    · rw [if_pos hactive]
      have hlaw : (fetched s.board.agent fresh).params.law = s.board.agent.params.law := by
        cases fresh with
        | none => rfl
        | some info =>
          rw [fetched, absorbNeighbors]
          split_ifs
          · rfl
          · rfl
      show (discreteStep lib _).agent.params.law = _
      rw [discreteStep_params]
      exact hlaw.trans h
    · rw [if_neg hactive]
      exact h

/-- **One event**: it disturbs the run exactly if it is not harmless. -/
theorem undisturbed_iff {law : ControlLaw} (hlaw : law ≠ .finiteTimeAdaptive) {s : LiveBoard K}
    (h : LawKept law s) {ev : LiveEvent} (hev : Configures law ev) :
    Undisturbed law s ev ↔ Harmless s ev := by
  cases ev with
  | frame f nowUs =>
    rw [Undisturbed, Harmless]
    have heffect := frame_effect s.board hev.1 nowUs
    generalize agentApplyFrame s.board f.1.value f.2 nowUs = r at heffect ⊢
    cases heffect with
    | kept _ hrefused _ hvars =>
      rw [hvars]
      exact ⟨fun _ htype hacc ↦ absurd hacc (hrefused htype), fun _ ↦ ⟨rfl, rfl⟩⟩
    | dropped _ htype _ hvars =>
      rw [hvars]
      refine ⟨fun _ hiface _ ↦ ?_, fun _ ↦ ⟨rfl, rfl⟩⟩
      rw [htype] at hiface
      exact absurd hiface (by decide)
    | committed _ _ htype hacc _ _ hmg hcounter =>
      rw [hmg, hcounter]
      exact ⟨fun hsame _ _ ↦ hsame, fun hharmless ↦ hharmless htype hacc⟩
  | tick fresh =>
    rw [Undisturbed, Harmless]
    refine imp_congr_right fun _ ↦ ?_
    rw [h]
    cases s.waiting with
    | false => exact ⟨fun _ ↦ rfl, fun _ ↦ rfl⟩
    | true => exact ⟨fun hscalar ↦ absurd hscalar.symm hlaw, fun hfalse ↦ (by cases hfalse)⟩

/-! ### The frames of an assignment -/

omit [IsStrictOrderedRing K] in
/-- What `assignment_to_frames` sends without a trigger configures the law of the assignment. -/
theorem configures_of_mem {a : AgentAssignment K} {epoch_us : ℤ} {frames : List OutFrame}
    (hf : assignmentToFrames a none epoch_us = .ok frames) {f : OutFrame} (hmem : f ∈ frames)
    (nowUs : ℤ) : Configures (selectedLaw a) (.frame f nowUs) := by
  obtain ⟨network, algorithm, disturbance, microgrid, control, -, -, -, hmicrogrid, hcontrol,
    rfl⟩ :=
    assignmentToFrames_eq_ok hf
  cases hcontrol
  have hother : ∀ t : FrameType, ∀ d : Bytes, t ≠ .control → t ≠ .mgIface →
      Configures (selectedLaw a) (.frame (t, d) nowUs) :=
    fun t d hne hiface ↦ ⟨hne, fun h ↦ absurd h hiface⟩
  rw [List.append_nil, List.mem_append] at hmem
  obtain hmem | hmem := hmem
  · revert f
    simp only [List.forall_mem_cons]
    exact ⟨hother _ _ (by decide) (by decide), hother _ _ (by decide) (by decide),
      hother _ _ (by decide) (by decide), fun f hf ↦ absurd hf List.not_mem_nil⟩
  · rw [microgridPart] at hmicrogrid
    split at hmicrogrid
    case h_1 m hm =>
      obtain ⟨plant, virt, iface, -, -, hiface, rfl⟩ := microgridFrames_eq_ok hmicrogrid
      have hselected : selectedLaw a = ifaceSelected m := by
        rw [selectedLaw, hm]
        rfl
      obtain ⟨row, rfl, -⟩ := encodeMicrogridIface_eq_ok hiface
      revert f
      simp only [List.forall_mem_cons]
      refine ⟨hother _ _ (by decide) (by decide), hother _ _ (by decide) (by decide),
        ⟨show FrameType.mgIface ≠ .control by decide, fun _ ↦ ?_⟩,
        fun f hf ↦ absurd hf List.not_mem_nil⟩
      rw [hselected, byteAt_cons_zero]
      exact ifaceLaw_mgIfaceFields m
    case h_2 =>
      cases hmicrogrid
      exact absurd hmem List.not_mem_nil

/-- **Live reconfigure of a microgrid run**: with the frames of an assignment that selects the law
of the run, in any order and any number, and any control periods in between, the run goes on
undisturbed if and only if every event is harmless. -/
theorem live_reconfigure_iff (lib : Libm K) {a : AgentAssignment K} {epoch_us : ℤ}
    {frames : List OutFrame} (hf : assignmentToFrames a none epoch_us = .ok frames) {b : Board K}
    (hrun : b.agent.params.law ≠ .finiteTimeAdaptive) (hlaw : selectedLaw a = b.agent.params.law)
    {events : List LiveEvent} (hevents : ∀ f ∈ framesOf events, f ∈ frames) :
    Guarded (LiveBoard.step lib) (Undisturbed (selectedLaw a)) ⟨b, false⟩ events ↔
      Guarded (LiveBoard.step lib) Harmless ⟨b, false⟩ events := by
  have hkept : ∀ (s : LiveBoard K) ev, Configures (selectedLaw a) ev → LawKept (selectedLaw a) s →
      LawKept (selectedLaw a) (s.step lib ev) := fun s ev hev hs ↦ hs.step lib hev
  refine guarded_congr hkept (fun s ev hev hs ↦ undisturbed_iff (by rwa [hlaw]) hs hev)
    (fun ev hev ↦ ?_) hlaw.symm
  cases ev with
  | frame f nowUs =>
    exact configures_of_mem hf (hevents f (List.mem_filterMap.mpr ⟨_, hev, rfl⟩)) nowUs
  | tick fresh => trivial

/-! ### A reconfigure at the start, and one a tick later -/

/-- The sample LC node. -/
def liveNode : AgentAssignment ℚ := sampleAssignment "lc" sampleLCDict

/-- Its board, configured, started, and `n` control periods into the run. -/
def liveBoard (n : ℕ) : Option (Board ℚ) :=
  match assignmentToFrames liveNode (some true) 0 with
  | .ok frames =>
    (applyFrames (boardInit ℚ) (allAt 0 frames)).map fun b ↦ (discreteStep .atZero)^[n] b
  | .error _ => none

/-- The frames of the same assignment without a trigger, one after the other, then a control
period. -/
def liveEvents (frames : List OutFrame) : List LiveEvent :=
  frames.map (.frame · 0) ++ [.tick none]

theorem framesOf_liveEvents (frames : List OutFrame) : framesOf (liveEvents frames) = frames := by
  rw [framesOf, liveEvents, List.filterMap_append, List.filterMap_map]
  exact (List.append_nil _).trans (List.filterMap_some)

/-- A run that a reconfigure meets before its first control period goes on undisturbed. -/
theorem live_reconfigure_at_start :
    ∃ frames b, assignmentToFrames liveNode none 0 = .ok frames ∧ liveBoard 0 = some b ∧
      b.agent.params.running = true ∧
      Guarded (LiveBoard.step .atZero) (Undisturbed (selectedLaw liveNode)) ⟨b, false⟩
        (liveEvents frames) := by
  have hrun : (assignmentToFrames liveNode none 0).toOption.any (fun frames ↦
      (liveBoard 0).any fun b ↦
        decide (b.agent.params.running = true) && decide (b.agent.params.law = .microgridLC) &&
          decide (Guarded (LiveBoard.step .atZero) Harmless ⟨b, false⟩ (liveEvents frames))) =
      true := by decide +kernel
  obtain ⟨frames, hf, hboard⟩ := exists_ok_of_any hrun
  obtain ⟨b, hb, hholds⟩ := (Option.any_eq_true _ _).mp hboard
  simp only [Bool.and_eq_true, decide_eq_true_eq] at hholds
  obtain ⟨⟨hrunning, hlaw⟩, hharmless⟩ := hholds
  refine ⟨frames, b, hf, hb, hrunning, (live_reconfigure_iff .atZero hf ?_ ?_ ?_).2 hharmless⟩
  · rw [hlaw]
    decide
  · rw [hlaw]
    rfl
  · rw [framesOf_liveEvents]
    exact fun f hmem ↦ hmem

/-- **One control period later it is restarted**: the MG_IFACE frame puts the counter and the
integrators back to their initial values. -/
theorem live_reconfigure_restarts :
    ∃ frames b, assignmentToFrames liveNode none 0 = .ok frames ∧ liveBoard 1 = some b ∧
      b.agent.params.running = true ∧ b.agent.params.law = selectedLaw liveNode ∧
      ¬Guarded (LiveBoard.step .atZero) (Undisturbed (selectedLaw liveNode)) ⟨b, false⟩
        (liveEvents frames) := by
  have hrun : (assignmentToFrames liveNode none 0).toOption.any (fun frames ↦
      (liveBoard 1).any fun b ↦
        decide (b.agent.params.running = true) &&
          decide (b.agent.params.law = selectedLaw liveNode) &&
          decide (¬Guarded (LiveBoard.step .atZero) (Undisturbed (selectedLaw liveNode)) ⟨b, false⟩
            (liveEvents frames))) = true := by decide +kernel
  obtain ⟨frames, hf, hboard⟩ := exists_ok_of_any hrun
  obtain ⟨b, hb, hholds⟩ := (Option.any_eq_true _ _).mp hboard
  simp only [Bool.and_eq_true, decide_eq_true_eq] at hholds
  obtain ⟨⟨hrunning, hlaw⟩, hdisturbed⟩ := hholds
  exact ⟨frames, b, hf, hb, hrunning, hlaw, hdisturbed⟩

end VertexTestbed.Conformance
