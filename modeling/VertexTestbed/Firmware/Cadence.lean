import VertexTestbed.Firmware.RunIsolation

/-!
# When the network loop passes

`network_fetching_thread` of `main.c` in time. The loop waits on its semaphore, which the trigger
hook and then the network timer give, and gives up after `IDLE_POLL_MS`. A pass of the loop, from
one wait to the next, is the sections of `RunLoops.networkStep`; it takes no time here, and between
two passes the other threads do what they like short of a CONTROL frame.

Every pass of a run sends one report and counts one tick, whatever woke it (`pass_inRun`). So the
reports keep to `dt` exactly if the passes do, and the passes do unless the idle poll runs out ahead
of the timer (`cadence_iff`).
-/

namespace VertexTestbed.Firmware

open Runs

/-! ### The waits -/

/-- `IDLE_POLL_MS`. -/
def idlePollMs : ℕ := 1000

/-- When a wait returns that begins at `now`, in milliseconds since the trigger: at the next expiry
of the network timer, which was started at the trigger, or after the idle poll without one. -/
def takeReturns (dt now : ℕ) : ℕ :=
  min ((now / dt + 1) * dt) (now + idlePollMs)

/-- The instant of a pass: the trigger, or the return of the wait behind the pass before. -/
def passAt (dt : ℕ) : ℕ → ℕ
  | 0 => 0
  | k + 1 => takeReturns dt (passAt dt k)

/-- The passes of a run that is stopped at `stop`. -/
def passTimes (dt stop : ℕ) : List ℕ :=
  ((List.range stop).map (passAt dt)).filter (· < stop)

/-- The trigger, and one instant every `dt` from there. -/
def onBeat (dt stop : ℕ) : List ℕ :=
  ((List.range stop).map (· * dt)).filter (· < stop)

/-- With a period no longer than the poll every pass is a multiple of the period. -/
theorem passAt_of_le {dt : ℕ} (hdt : 0 < dt) (h : dt ≤ idlePollMs) (k : ℕ) :
    passAt dt k = k * dt := by
  induction k with
  | zero => rw [passAt, Nat.zero_mul]
  | succ k ih =>
    rw [passAt, ih, takeReturns, Nat.mul_div_cancel _ hdt, Nat.succ_mul]
    exact Nat.min_eq_left (Nat.add_le_add_left h _)

/-- Behind a longer period the first wait runs into the idle poll. -/
theorem passAt_one_of_lt {dt : ℕ} (h : idlePollMs < dt) : passAt dt 1 = idlePollMs := by
  rw [passAt, passAt, takeReturns, Nat.zero_div, Nat.zero_add, Nat.one_mul, Nat.zero_add]
  exact Nat.min_eq_right h.le

/-- A wait takes time. -/
theorem passAt_strictMono {dt : ℕ} (hdt : 0 < dt) : StrictMono (passAt dt) := by
  refine strictMono_nat_of_lt_succ fun k ↦ ?_
  rw [passAt, takeReturns]
  refine lt_min ?_ (Nat.lt_add_of_pos_right (by decide))
  rw [Nat.mul_comm]
  exact Nat.lt_mul_div_succ _ hdt

/-- A run that is over before anything is due passes once. -/
theorem filter_first {f : ℕ → ℕ} {stop : ℕ} (hzero : f 0 = 0) (hlater : ∀ k, 0 < k → stop ≤ f k) :
    ((List.range stop).map f).filter (· < stop) = (List.range stop).filter (· = 0) := by
  rw [List.filter_map]
  have hkeep : ∀ k ∈ List.range stop, ((fun x ↦ decide (x < stop)) ∘ f) k = decide (k = 0) := by
    intro k hk
    rcases Nat.eq_zero_or_pos k with rfl | hpos
    · simpa [hzero] using Nat.zero_lt_of_lt (List.mem_range.1 hk)
    · have hge := hlater k hpos
      simp only [Function.comp_apply]
      rw [decide_eq_false (by omega), decide_eq_false (by omega)]
  rw [List.filter_congr hkeep]
  refine (List.map_congr_left fun k hk ↦ ?_).trans (List.map_id _)
  have hk0 : k = 0 := by simpa using (List.mem_filter.1 hk).2
  rw [hk0, hzero]
  rfl

/-- **The passes keep to the beat exactly if the timer comes first**, or if the run is over before
the idle poll is. -/
theorem passTimes_eq_iff (dt : ℕ) (hdt : 0 < dt) (stop : ℕ) :
    passTimes dt stop = onBeat dt stop ↔ dt ≤ idlePollMs ∨ stop ≤ idlePollMs := by
  rcases Nat.lt_or_ge idlePollMs dt with hlong | hshort
  · have hone := passAt_one_of_lt hlong
    constructor
    · intro heq
      refine Or.inr (not_lt.1 fun hlate ↦ ?_)
      -- The idle poll wakes the loop at an instant that is no multiple of the period.
      have hpass : idlePollMs ∈ passTimes dt stop :=
        List.mem_filter.2 ⟨List.mem_map.2 ⟨1, List.mem_range.2 (lt_trans (by decide) hlate), hone⟩,
          decide_eq_true hlate⟩
      rw [heq, onBeat] at hpass
      obtain ⟨k, -, hk⟩ := List.mem_map.1 (List.mem_filter.1 hpass).1
      rcases Nat.eq_zero_or_pos k with rfl | hpos
      · rw [Nat.zero_mul] at hk
        exact absurd hk (by decide)
      · have hge := Nat.le_mul_of_pos_left dt hpos
        omega
    · rintro (hle | hle)
      · omega
      · have hpasses : ∀ k, 0 < k → stop ≤ passAt dt k := fun k hk ↦
          (hle.trans hone.ge).trans ((passAt_strictMono hdt).monotone hk)
        have hbeats : ∀ k, 0 < k → stop ≤ k * dt := fun k hk ↦
          (hle.trans hlong.le).trans (Nat.le_mul_of_pos_left dt hk)
        exact (filter_first rfl hpasses).trans
          (filter_first (f := fun k ↦ k * dt) (Nat.zero_mul dt) hbeats).symm
  · refine iff_of_true ?_ (Or.inl hshort)
    rw [passTimes, onBeat, funext (passAt_of_le hdt hshort)]

/-- `publish_every`: the whole periods of `dt` in `clock`, but at least one. -/
theorem publishPeriod_eq {dt clock : ℤ} (hdt : 0 < dt) (hclock : 0 < clock)
    (hfits : clock < 2 ^ 31) :
    publishPeriod dt clock = max 1 (clock / dt).toNat := by
  have hquotient : clock.tdiv dt = clock / dt := Int.tdiv_eq_ediv_of_nonneg hclock.le
  have hle : clock / dt ≤ clock := Int.ediv_le_self _ hclock.le
  have hnonneg : 0 ≤ clock / dt := Int.ediv_nonneg hclock.le hdt.le
  rw [publishPeriod, if_pos hdt, hquotient, Int.emod_eq_of_lt hnonneg (by omega)]
  split_ifs with hzero
  · rw [hzero]
    rfl
  · omega

/-! ### One pass -/

variable {K : Type}

namespace RunLoops

section Pass

variable [Field K] [LinearOrder K] [FloorRing K]

/-- The sections of the network loop until it waits again, at most `n` of them. -/
def untilIdle (uptimeUs scanErr : ℤ) : ℕ → RunLoops K → RunLoops K
  | 0, s => s
  | n + 1, s =>
    let s' := s.networkStep uptimeUs scanErr
    if s'.network = .idle then s' else untilIdle uptimeUs scanErr n s'

/-- A pass of the loop: five sections at the start of a run, four later. -/
def pass (s : RunLoops K) (uptimeUs scanErr : ℤ) : RunLoops K :=
  untilIdle uptimeUs scanErr 5 s

end Pass

/-- **The loop waits, `j` passes into a run** whose publish period is `p`. -/
structure InRun (p j : ℕ) (s : RunLoops K) : Prop where
  idle : s.network = .idle
  running : s.agent.params.running = true
  first : s.agent.params.firstTimeRunning = decide (j = 0)
  period : j = 0 → publishPeriod s.agent.params.dt s.agent.params.clock = p
  every : 0 < j → s.publishEvery = p
  tick : 0 < j → s.tick = j % p

section Pass

variable [Field K] [LinearOrder K] [FloorRing K] {s : RunLoops K} {p j : ℕ}

theorem untilIdle_of_ne {uptimeUs scanErr : ℤ} {n : ℕ}
    (h : (s.networkStep uptimeUs scanErr).network ≠ .idle) :
    untilIdle uptimeUs scanErr (n + 1) s =
      untilIdle uptimeUs scanErr n (s.networkStep uptimeUs scanErr) := if_neg h

/-- Under the lock the agent and the run are copied, and nothing else moves. -/
theorem networkStep_of_copying (hphase : s.network = .copying) (uptimeUs scanErr : ℤ) :
    s.networkStep uptimeUs scanErr =
      { s with copy := s.agent, copyRun := s.run, network := .reporting } := by
  rw [networkStep, hphase]

/-- A report that is built is sent, and empties the flags of freshness. -/
theorem networkStep_of_reporting (hphase : s.network = .reporting) {uptimeUs scanErr : ℤ}
    {payload : Bytes} (hpayload : reportState s.copy uptimeUs s.rx.fresh = some payload) :
    s.networkStep uptimeUs scanErr =
      { s with
        rx := { s.rx with fresh := fun _ ↦ false }
        reports := s.reports ++ [⟨s.copyRun, s.copy, s.rx.fresh, payload⟩]
        network := .publishing } := by
  rw [networkStep, hphase]
  dsimp only
  rw [hpayload]

/-- What the loop does to the books of a run before it waits again, having sent `n` reports: it
counts one tick, and publishes if that is due. -/
structure Counted (n : ℕ) (s s' : RunLoops K) : Prop where
  idle : s'.network = .idle
  params : s'.agent.params = s.agent.params
  every : s'.publishEvery = s.publishEvery
  reports : s'.reports.length = s.reports.length + n
  tick : s'.tick = if s.publishEvery ≤ (s.tick + 1) % 2 ^ 32 then 0 else (s.tick + 1) % 2 ^ 32
  txSeq : s'.agent.vars.txSeq =
    if s.publishEvery ≤ (s.tick + 1) % 2 ^ 32 ∧
        (s.agent.params.running && s.agent.params.enabled) = true then s.agent.vars.txSeq + 1
    else s.agent.vars.txSeq

/-- The publication ends the pass and leaves the counters of the run alone. -/
theorem networkStep_of_publishing (hphase : s.network = .publishing) (uptimeUs scanErr : ℤ) :
    Counted 0 s (s.networkStep uptimeUs scanErr) := by
  rw [networkStep, hphase]
  dsimp only
  by_cases hdue : s.publishEvery ≤ (s.tick + 1) % 2 ^ 32
  · rw [if_pos hdue]
    by_cases hon : (s.agent.params.running && s.agent.params.enabled) = true
    · rw [if_pos hon]
      exact ⟨rfl, rfl, rfl, rfl, (if_pos hdue).symm, (if_pos ⟨hdue, hon⟩).symm⟩
    · rw [if_neg hon]
      exact ⟨rfl, rfl, rfl, rfl, (if_pos hdue).symm, (if_neg fun h ↦ hon h.2).symm⟩
  · rw [if_neg hdue]
    exact ⟨rfl, rfl, rfl, rfl, (if_neg hdue).symm, (if_neg fun h ↦ hdue h.1).symm⟩

/-- The sections from the copy on. -/
theorem untilIdle_copying (hphase : s.network = .copying)
    (hrunning : s.agent.params.running = true) (uptimeUs scanErr : ℤ) (n : ℕ) :
    Counted 1 s (untilIdle uptimeUs scanErr (n + 3) s) := by
  obtain ⟨payload, hpayload⟩ :
      ∃ payload, reportState s.agent uptimeUs s.rx.fresh = some payload := by
    rw [reportState, hrunning]
    exact ⟨_, rfl⟩
  have hcopy := networkStep_of_copying hphase uptimeUs scanErr
  set s₁ : RunLoops K := { s with copy := s.agent, copyRun := s.run, network := .reporting }
    with hs₁
  have hreport : s₁.networkStep uptimeUs scanErr = _ := networkStep_of_reporting rfl hpayload
  set s₂ : RunLoops K :=
    { s₁ with
      rx := { s₁.rx with fresh := fun _ ↦ false }
      reports := s₁.reports ++ [⟨s₁.copyRun, s₁.copy, s₁.rx.fresh, payload⟩]
      network := .publishing } with hs₂
  have hlast := networkStep_of_publishing (s := s₂) rfl uptimeUs scanErr
  have hrun : untilIdle uptimeUs scanErr (n + 3) s = s₂.networkStep uptimeUs scanErr := by
    rw [untilIdle_of_ne (by rw [hcopy]; exact fun h ↦ by cases h), hcopy,
      untilIdle_of_ne (by rw [hreport]; exact fun h ↦ by cases h), hreport]
    exact if_pos hlast.idle
  rw [hrun]
  refine ⟨hlast.idle, hlast.params, hlast.every, ?_, hlast.tick, hlast.txSeq⟩
  rw [hlast.reports, hs₂]
  exact List.length_append

/-- A counter below its limit, one tick further. -/
theorem tick_succ (hp : 0 < p) (hlimit : p ≤ 2 ^ 31) (j : ℕ) :
    (j % p + 1) % 2 ^ 32 = j % p + 1 ∧ (p ≤ j % p + 1 ↔ (j + 1) % p = 0) ∧
      (if p ≤ j % p + 1 then 0 else j % p + 1) = (j + 1) % p := by
  have hmod := Nat.mod_lt j hp
  have hsucc : (j + 1) % p = (j % p + 1) % p := by rw [Nat.mod_add_mod]
  refine ⟨Nat.mod_eq_of_lt (by omega), ?_, ?_⟩
  · rw [hsucc]
    rcases Nat.lt_or_ge (j % p + 1) p with hlt | hge
    · rw [Nat.mod_eq_of_lt hlt]
      omega
    · rw [show j % p + 1 = p by omega, Nat.mod_self]
      exact iff_of_true le_rfl rfl
  · rw [hsucc]
    split_ifs with hge
    · rw [show j % p + 1 = p by omega, Nat.mod_self]
    · exact (Nat.mod_eq_of_lt (show j % p + 1 < p by omega)).symm

/-- The first wake of a run sets it up, a later one copies. -/
theorem networkStep_of_idle (h : InRun p j s) (uptimeUs scanErr : ℤ) :
    s.networkStep uptimeUs scanErr =
      { s with network := if j = 0 then .startup else .copying } := by
  rw [networkStep, h.idle]
  dsimp only
  rw [h.running, h.first]
  by_cases hj : j = 0
  · rw [if_pos hj, decide_eq_true hj]
    rfl
  · rw [if_neg hj, decide_eq_false hj]
    rfl

/-- The sections of a pass up to the copy: at the start of a run they set the counters up, later
they leave them. -/
theorem pass_eq (h : InRun p j s) (uptimeUs scanErr : ℤ) :
    ∃ (n : ℕ) (s₁ : RunLoops K), s.pass uptimeUs scanErr = untilIdle uptimeUs scanErr (n + 3) s₁ ∧
      s₁.network = .copying ∧
      s₁.agent.params = { s.agent.params with firstTimeRunning := false } ∧
      s₁.agent.vars.txSeq = s.agent.vars.txSeq ∧ s₁.reports = s.reports ∧
      s₁.publishEvery = p ∧ s₁.tick = j % p := by
  have hidle := networkStep_of_idle h uptimeUs scanErr
  by_cases hj : j = 0
  · rw [if_pos hj] at hidle
    set s₁ : RunLoops K := { s with network := .startup } with hs₁
    have hstartup : (s₁.networkStep uptimeUs scanErr).network = .copying := rfl
    refine ⟨0, s₁.networkStep uptimeUs scanErr, ?_, hstartup, rfl, rfl, rfl, h.period hj, ?_⟩
    · rw [pass, untilIdle_of_ne (by rw [hidle]; exact fun h ↦ by cases h), hidle,
        untilIdle_of_ne (by rw [hstartup]; exact fun h ↦ by cases h)]
    · rw [hj, Nat.zero_mod]
      rfl
  · rw [if_neg hj] at hidle
    have hfirst : s.agent.params = { s.agent.params with firstTimeRunning := false } := by
      have := h.first
      rw [decide_eq_false hj] at this
      rw [← this]
    refine ⟨1, { s with network := .copying }, ?_, rfl, hfirst, rfl, rfl,
      h.every (Nat.pos_of_ne_zero hj), h.tick (Nat.pos_of_ne_zero hj)⟩
    rw [pass, untilIdle_of_ne (by rw [hidle]; exact fun h ↦ by cases h), hidle]

/-- **One pass of a run**: one report, and a publication on every `p`-th, if the agent is
enabled. -/
theorem pass_inRun (h : InRun p j s) (hp : 0 < p) (hlimit : p ≤ 2 ^ 31) (uptimeUs scanErr : ℤ) :
    InRun p (j + 1) (s.pass uptimeUs scanErr) ∧
      (s.pass uptimeUs scanErr).reports.length = s.reports.length + 1 ∧
      (s.pass uptimeUs scanErr).agent.vars.txSeq =
        if (j + 1) % p = 0 ∧ s.agent.params.enabled = true then s.agent.vars.txSeq + 1
        else s.agent.vars.txSeq := by
  obtain ⟨n, s₁, hpass, hphase, hparams, htx, hreports, hevery, htick⟩ :=
    pass_eq h uptimeUs scanErr
  obtain ⟨hmod, hdue, hnext⟩ := tick_succ hp hlimit j
  have hrunning : s₁.agent.params.running = true := by
    rw [hparams]
    exact h.running
  have henabled : s₁.agent.params.enabled = s.agent.params.enabled := by rw [hparams]
  have hcount := untilIdle_copying hphase hrunning uptimeUs scanErr n
  rw [← hpass] at hcount
  have htickEnd := hcount.tick
  have htxEnd := hcount.txSeq
  rw [hevery, htick, hmod, hnext] at htickEnd
  simp only [hevery, htick, hmod, hdue, hrunning, henabled, Bool.true_and, htx] at htxEnd
  refine ⟨⟨hcount.idle, ?_, ?_, fun hj ↦ absurd hj (Nat.succ_ne_zero j),
    fun _ ↦ hcount.every.trans hevery, fun _ ↦ htickEnd⟩, ?_, htxEnd⟩
  · rw [hcount.params]
    exact hrunning
  · rw [hcount.params, hparams]
    rfl
  · rw [hcount.reports, hreports]

end Pass

end RunLoops

/-! ### The other threads -/

/-- What may happen between two passes: anything but a CONTROL frame. -/
def Bystander : BoardEvent → Prop
  | .network _ _ => False
  | .frame _ type _ => type ≠ protoTControl
  | _ => True

section Bystanders

variable [Field K] [LinearOrder K] [IsStrictOrderedRing K] [FloorRing K]

omit [IsStrictOrderedRing K] [Field K] [LinearOrder K] [FloorRing K] in
/-- The flags of a run, after a frame that is not CONTROL. -/
theorem handler_running [Field K] [LinearOrder K] [IsStrictOrderedRing K] [FloorRing K]
    (a : Agent K) (d : Bytes) :
    ∀ r ∈ [applyNetwork a d, applyAlgorithm a d, applyMgPlant a d, applyMgVirtual a d,
      applyMgIface a d, applyDisturbance a d],
      r.2.params.running = a.params.running ∧
        r.2.params.firstTimeRunning = a.params.firstTimeRunning := by
  -- Each handler stores its own fields, and these are CONTROL's.
  simp only [List.forall_mem_cons]
  refine ⟨?_, ?_, ?_, ?_, ?_, ?_, fun r hr ↦ absurd hr List.not_mem_nil⟩
  · rw [applyNetwork]
    split_ifs
    all_goals exact ⟨rfl, rfl⟩
  · rw [applyAlgorithm]
    split_ifs
    all_goals exact ⟨rfl, rfl⟩
  · rw [applyMgPlant]
    dsimp only
    split_ifs
    all_goals exact ⟨rfl, rfl⟩
  · rw [applyMgVirtual]
    dsimp only
    split_ifs
    all_goals exact ⟨rfl, rfl⟩
  · rw [applyMgIface]
    cases ifaceLaw (byteAt d 0) with
    | none =>
      dsimp only
      split_ifs
      all_goals exact ⟨rfl, rfl⟩
    | some law =>
      dsimp only
      split_ifs
      all_goals exact ⟨rfl, rfl⟩
  · rw [applyDisturbance]
    split_ifs
    all_goals exact ⟨rfl, rfl⟩

/-- No frame but CONTROL starts or stops a run. -/
theorem controlOnFrame_running (e : ControlEnv) (c : ControlPlane K) {type : UInt8}
    (htype : type ≠ protoTControl) (d : Bytes) :
    (controlOnFrame e c type d).1.board.agent.params.running = c.board.agent.params.running ∧
      (controlOnFrame e c type d).1.board.agent.params.firstTimeRunning =
        c.board.agent.params.firstTimeRunning := by
  have hhandlers := handler_running c.board.agent d
  simp only [List.forall_mem_cons] at hhandlers
  obtain ⟨hnetwork, halgorithm, hplant, hvirtual, hiface, hdisturbance, -⟩ := hhandlers
  have happly : (agentApplyFrame c.board type d e.nowUs).2.agent.params.running =
        c.board.agent.params.running ∧
      (agentApplyFrame c.board type d e.nowUs).2.agent.params.firstTimeRunning =
        c.board.agent.params.firstTimeRunning := by
    rw [agentApplyFrame]
    split_ifs
    · exact hnetwork
    · exact halgorithm
    · exact hplant
    · exact hvirtual
    · exact hiface
    · exact hdisturbance
    · exact ⟨rfl, rfl⟩
  rw [controlOnFrame]
  split_ifs
  · exact happly
  all_goals exact ⟨rfl, rfl⟩

namespace RunLoops

variable (lib : Libm K) {s : RunLoops K} {p j : ℕ}

/-- What the network loop goes by, and the other threads leave alone. -/
structure Unmoved (s s' : RunLoops K) : Prop where
  network : s'.network = s.network
  every : s'.publishEvery = s.publishEvery
  tick : s'.tick = s.tick
  running : s'.agent.params.running = s.agent.params.running
  first : s'.agent.params.firstTimeRunning = s.agent.params.firstTimeRunning

omit [Field K] [LinearOrder K] [IsStrictOrderedRing K] [FloorRing K] in
/-- The dynamics loop's read of the mailbox moves nothing that the cadence depends on. -/
theorem dynamicsGet_unmoved (s : RunLoops K) : Unmoved s s.dynamicsGet := by
  rw [dynamicsGet]
  split
  · exact ⟨rfl, rfl, rfl, rfl, rfl⟩
  · exact ⟨rfl, rfl, rfl, rfl, rfl⟩

/-- Nor does its step. -/
theorem dynamicsStep_unmoved (s : RunLoops K) (freshData : Bool) :
    Unmoved s (s.dynamicsStep lib freshData) := by
  obtain heq | heq := dynamicsStep_cases lib s freshData
  · rw [heq]
    exact ⟨rfl, rfl, rfl, rfl, rfl⟩
  · have hparams : (s.dynamicsStep lib freshData).agent.params =
        (s.stepped freshData).params := by
      rw [heq]
      exact discreteStep_params lib _
    have hstepped : (s.stepped freshData).params.running = s.agent.params.running ∧
        (s.stepped freshData).params.firstTimeRunning = s.agent.params.firstTimeRunning := by
      rw [stepped, absorbNeighbors]
      split_ifs
      all_goals exact ⟨rfl, rfl⟩
    refine ⟨?_, ?_, ?_, ?_, ?_⟩
    · rw [heq]
    · rw [heq]
    · rw [heq]
    · rw [hparams, hstepped.1]
    · rw [hparams, hstepped.2]

/-- Nor does any event of a bystander. -/
theorem step_unmoved (s : RunLoops K) {ev : BoardEvent} (h : Bystander ev) :
    Unmoved s (s.step lib ev) := by
  cases ev with
  | frame e type payload =>
    obtain ⟨hrunning, hfirst⟩ := controlOnFrame_running e s.plane h payload
    exact ⟨rfl, rfl, rfl, hrunning, hfirst⟩
  | receive packet rssi =>
    show Unmoved s (s.receive packet rssi)
    rw [receive]
    split_ifs
    · exact ⟨rfl, rfl, rfl, rfl, rfl⟩
    · exact ⟨rfl, rfl, rfl, rfl, rfl⟩
  | dynamics =>
    rw [step]
    cases s.dynamics with
    | idle => exact dynamicsGet_unmoved s
    | got freshData => exact dynamicsStep_unmoved lib s freshData
  | network uptimeUs scanErr => exact h.elim

/-- Between two passes a run stays as it is. -/
theorem InRun.bystanders (h : InRun p j s) (hj : 0 < j) {evs : List BoardEvent}
    (hevs : ∀ ev ∈ evs, Bystander ev) : InRun p j (Runs.run (step lib) s evs) := by
  refine (guarded_of_forall hevs).invariant (fun s ev hs hev ↦ ?_) h
  have hsame := step_unmoved lib s hev
  exact ⟨hsame.network.trans hs.idle, hsame.running.trans hs.running,
    hsame.first.trans hs.first, fun h0 ↦ absurd h0 hj.ne', fun _ ↦ hsame.every.trans (hs.every hj),
    fun _ ↦ hsame.tick.trans (hs.tick hj)⟩

end RunLoops

end Bystanders

/-! ### A run in time -/

/-- A return of the wait: when, what a scan call returns in the pass, and what the other threads do
behind it. -/
structure Wake where
  atMs : ℕ
  scanErr : ℤ
  others : List BoardEvent

/-- A pass as it is seen from outside. -/
structure Pass where
  atMs : ℕ
  reports : ℕ
  enabled : Bool
  published : Bool
  deriving DecidableEq

/-- The wakes of a run with the period `dt`, stopped at `stop`. -/
def wakes (dt stop : ℕ) (scanErr : ℕ → ℤ) (others : ℕ → List BoardEvent) : List Wake :=
  (passTimes dt stop).zipIdx.map fun x ↦ ⟨x.1, scanErr x.2, others x.2⟩

/-- **On cadence**: a pass at the trigger and at every `dt` behind it, each with one report, and a
publication of an enabled agent in every `p`-th. -/
structure OnCadence (dt p stop : ℕ) (passes : List Pass) : Prop where
  times : passes.map Pass.atMs = onBeat dt stop
  reports : ∀ x ∈ passes, x.reports = 1
  publishes : ∀ k x, passes[k]? = some x → x.published = (x.enabled && decide ((k + 1) % p = 0))

namespace RunLoops

variable [Field K] [LinearOrder K] [IsStrictOrderedRing K] [FloorRing K] (lib : Libm K)
  (startUs : ℤ)

/-- The pass behind a wake, and then the other threads. -/
def cadenceStep (s : RunLoops K) (w : Wake) : RunLoops K :=
  Runs.run (step lib) (s.pass (startUs + 1000 * w.atMs) w.scanErr) w.others

omit [IsStrictOrderedRing K] in
/-- What the pass behind a wake shows. -/
def passOf (s : RunLoops K) (w : Wake) : Pass :=
  let s' := s.pass (startUs + 1000 * w.atMs) w.scanErr
  { atMs := w.atMs
    reports := s'.reports.length - s.reports.length
    enabled := s.agent.params.enabled
    published := decide (s'.agent.vars.txSeq ≠ s.agent.vars.txSeq) }

/-- The passes of a run. -/
def passes (s : RunLoops K) (ws : List Wake) : List Pass :=
  outputs (cadenceStep lib startUs) (passOf startUs) s ws

/-- A pass happens at its wake. -/
theorem passes_atMs (s : RunLoops K) (ws : List Wake) :
    (s.passes lib startUs ws).map Pass.atMs = ws.map Wake.atMs := by
  induction ws generalizing s with
  | nil => rfl
  | cons w ws ih => exact congrArg (w.atMs :: ·) (ih (cadenceStep lib startUs s w))

omit [Field K] [LinearOrder K] [IsStrictOrderedRing K] [FloorRing K] in
/-- A sequence number that moves on is another one, also where it wraps. -/
theorem txSeq_moved {x y : UInt16} {due enabled : Prop} [Decidable due] [Decidable enabled]
    (h : y = if due ∧ enabled then x + 1 else x) :
    decide (y ≠ x) = (decide enabled && decide due) := by
  have hne : x + 1 ≠ x := by
    intro heq
    have := congrArg UInt16.toNat heq
    rw [UInt16.toNat_add] at this
    have hlt := x.toNat_lt
    have hone : (1 : UInt16).toNat = 1 := rfl
    omega
  rw [h, ← Bool.decide_and]
  by_cases hboth : due ∧ enabled
  · rw [if_pos hboth, decide_eq_true hne, decide_eq_true hboth.symm]
  · rw [if_neg hboth, decide_eq_false (fun hself : x ≠ x ↦ hself rfl),
      decide_eq_false (fun hflip : enabled ∧ due ↦ hboth hflip.symm)]

/-- Whenever they come, the passes of a run report once each, and every `p`-th publishes. -/
theorem passes_counted {s : RunLoops K} {p j : ℕ} (h : InRun p j s) (hp : 0 < p)
    (hlimit : p ≤ 2 ^ 31) {ws : List Wake} (hws : ∀ w ∈ ws, ∀ ev ∈ w.others, Bystander ev) :
    (∀ x ∈ s.passes lib startUs ws, x.reports = 1) ∧
      ∀ k x, (s.passes lib startUs ws)[k]? = some x →
        x.published = (x.enabled && decide ((j + k + 1) % p = 0)) := by
  induction ws generalizing s j with
  | nil => exact ⟨fun _ hx ↦ absurd hx List.not_mem_nil, fun k x hx ↦ by cases hx⟩
  | cons w ws ih =>
    obtain ⟨hnext, hreports, htx⟩ :=
      pass_inRun h hp hlimit (startUs + 1000 * w.atMs) w.scanErr
    obtain ⟨hw, hws⟩ := List.forall_mem_cons.1 hws
    obtain ⟨ihreports, ihpublishes⟩ := ih (hnext.bystanders lib (Nat.succ_pos j) hw) hws
    have hcons : s.passes lib startUs (w :: ws) =
        passOf startUs s w :: (cadenceStep lib startUs s w).passes lib startUs ws := rfl
    rw [hcons]
    refine ⟨List.forall_mem_cons.2 ⟨?_, ihreports⟩, fun k x hx ↦ ?_⟩
    · show (s.pass _ _).reports.length - s.reports.length = 1
      rw [hreports, Nat.add_sub_cancel_left]
    · cases k with
      | zero =>
        cases hx
        have hmoved := txSeq_moved htx
        rw [Bool.decide_eq_true] at hmoved
        exact hmoved
      | succ k =>
        rw [List.getElem?_cons_succ] at hx
        have := ihpublishes k x hx
        rwa [show j + 1 + k + 1 = j + (k + 1) + 1 by omega] at this

/-- **A triggered run**: the loop waits, a CONTROL start has set the flags, and the timing is one
that an ALGORITHM frame was accepted with. -/
structure Triggered (s : RunLoops K) : Prop where
  idle : s.network = .idle
  running : s.agent.params.running = true
  first : s.agent.params.firstTimeRunning = true
  dt_pos : 0 < s.agent.params.dt
  clock_pos : 0 < s.agent.params.clock
  clock_lt : s.agent.params.clock < 2 ^ 31

omit [Field K] [LinearOrder K] [IsStrictOrderedRing K] [FloorRing K] in
/-- A triggered board has not counted a pass yet. -/
theorem Triggered.inRun {s : RunLoops K} (h : s.Triggered) :
    InRun (publishPeriod s.agent.params.dt s.agent.params.clock) 0 s where
  idle := h.idle
  running := h.running
  first := h.first
  period := fun _ ↦ rfl
  every := fun h0 ↦ absurd h0 (lt_irrefl 0)
  tick := fun h0 ↦ absurd h0 (lt_irrefl 0)

omit [Field K] [LinearOrder K] [IsStrictOrderedRing K] [FloorRing K] in
/-- The timing that an accepted ALGORITHM frame leaves. -/
theorem timing_of_accepted {a : Agent K} {d : Bytes} (h : (applyAlgorithm a d).1 = agentOk) :
    0 < (applyAlgorithm a d).2.params.dt ∧ 0 < (applyAlgorithm a d).2.params.clock ∧
      (applyAlgorithm a d).2.params.clock < 2 ^ 31 := by
  rw [applyAlgorithm] at h ⊢
  by_cases hlen : d.length = protoAlgorithmLen
  · rw [if_neg (not_not.2 hlen)] at h ⊢
    by_cases hrange : protoLdI32 d 0 ≤ 0 ∨ protoLdI32 d 4 ≤ 0
    · rw [if_pos hrange] at h
      exact absurd h (show agentErrRange ≠ agentOk by decide)
    · rw [if_neg hrange]
      rw [not_or, not_le, not_le] at hrange
      exact ⟨hrange.1, hrange.2, protoLdI32_lt d 4⟩
  · rw [if_pos hlen] at h
    exact absurd h (show agentErrLen ≠ agentOk by decide)

/-- An accepted ALGORITHM frame and a CONTROL start trigger a run, when the loop waits. -/
theorem triggered_of_frames {s : RunLoops K} (hidle : s.network = .idle) {d d' : Bytes}
    (hd : (applyAlgorithm s.agent d).1 = agentOk) (hlen : d'.length = protoControlLen)
    (hstart : byteAt d' 0 = 1) (e e' : ControlEnv) :
    (Runs.run (step lib) s [.frame e protoTAlgorithm d, .frame e' protoTControl d']).Triggered := by
  obtain ⟨hdt, hclock, hfits⟩ := timing_of_accepted hd
  obtain ⟨hrunning, hfirst, -, hdt', hclock'⟩ := applyControl_started
    (s.frame e protoTAlgorithm d).plane.board hlen hstart e'.nowUs
  have hagent : (s.frame e protoTAlgorithm d).plane.board.agent = (applyAlgorithm s.agent d).2 :=
    rfl
  rw [hagent] at hdt' hclock'
  exact ⟨hidle, hrunning, hfirst, hdt.trans_eq hdt'.symm, hclock.trans_eq hclock'.symm,
    hclock'.trans_lt hfits⟩

/-- The wakes are at the times of the passes. -/
theorem wakes_atMs (dt stop : ℕ) (scanErr : ℕ → ℤ) (others : ℕ → List BoardEvent) :
    (wakes dt stop scanErr others).map Wake.atMs = passTimes dt stop := by
  rw [wakes, List.map_map]
  exact List.zipIdx_map_fst 0 _

/-- And between two of them only bystanders act. -/
theorem wakes_others (dt stop : ℕ) (scanErr : ℕ → ℤ) {others : ℕ → List BoardEvent}
    (h : ∀ k, ∀ ev ∈ others k, Bystander ev) :
    ∀ w ∈ wakes dt stop scanErr others, ∀ ev ∈ w.others, Bystander ev := by
  intro w hw
  obtain ⟨x, -, rfl⟩ := List.mem_map.1 hw
  exact h x.2

/-- **A run is on cadence exactly if `dt` is within the idle poll**, or the run is stopped within
it. -/
theorem cadence_iff {s : RunLoops K} (h : s.Triggered) (stop : ℕ) (scanErr : ℕ → ℤ)
    (others : ℕ → List BoardEvent) (hothers : ∀ k, ∀ ev ∈ others k, Bystander ev) :
    OnCadence s.agent.params.dt.toNat
        (max 1 (s.agent.params.clock / s.agent.params.dt).toNat) stop
        (s.passes lib startUs (wakes s.agent.params.dt.toNat stop scanErr others)) ↔
      s.agent.params.dt ≤ idlePollMs ∨ stop ≤ idlePollMs := by
  have hdt := h.dt_pos
  have hperiod := publishPeriod_eq hdt h.clock_pos h.clock_lt
  have htimes : (s.passes lib startUs
        (wakes s.agent.params.dt.toNat stop scanErr others)).map Pass.atMs =
      passTimes s.agent.params.dt.toNat stop :=
    (passes_atMs lib startUs s _).trans (wakes_atMs _ _ _ _)
  have hbeat := passTimes_eq_iff s.agent.params.dt.toNat (by omega) stop
  rw [Int.toNat_le] at hbeat
  refine Iff.trans ⟨fun hon ↦ htimes.symm.trans hon.times, fun heq ↦ ?_⟩ hbeat
  have hle : s.agent.params.clock / s.agent.params.dt ≤ s.agent.params.clock :=
    Int.ediv_le_self _ h.clock_pos.le
  have hfits := h.clock_lt
  obtain ⟨hreports, hpublishes⟩ := passes_counted lib startUs h.inRun (by omega) (by omega)
    (wakes_others s.agent.params.dt.toNat stop scanErr hothers)
  refine ⟨htimes.trans heq, hreports, fun k x hx ↦ ?_⟩
  have := hpublishes k x hx
  rwa [hperiod, Nat.zero_add] at this

/-- An ALGORITHM payload: a period, a publish period, the rest zero. -/
def timingPayload (dt clock : ℕ) : Bytes :=
  leBytes 4 dt ++ leBytes 4 clock ++ List.replicate 32 0

/-- A board, triggered with that timing. -/
def triggeredBoard (dt clock : ℕ) : RunLoops ℚ :=
  Runs.run (step (.atZero : Libm ℚ)) (.init quietRadio)
    [networkFrame [1], .frame quietEnv protoTAlgorithm (timingPayload dt clock), controlFrame 1]

/-- A publish period of three and a half control periods comes to three. -/
theorem cadence_iff_short :
    OnCadence 200 3 900 ((triggeredBoard 200 700).passes .atZero 5000
      (wakes 200 900 (fun _ ↦ 0) fun _ ↦ [.dynamics])) := by
  have htriggered : (triggeredBoard 200 700).Triggered :=
    triggered_of_frames .atZero rfl (by decide +kernel) rfl rfl quietEnv quietEnv
  have hdt : (triggeredBoard 200 700).agent.params.dt = 200 := by decide +kernel
  have hclock : (triggeredBoard 200 700).agent.params.clock = 700 := by decide +kernel
  have hcadence := (cadence_iff .atZero 5000 htriggered 900 (fun _ ↦ 0) (fun _ ↦ [.dynamics])
    (fun _ ↦ List.forall_mem_singleton.2 trivial)).2 (Or.inr (by decide))
  rw [hdt, hclock] at hcadence
  exact hcadence

/-- **Behind a period of 1.5 s the idle poll reports too**: three reports in two seconds, at 0 s,
1 s and 1.5 s. -/
theorem idlePoll_off_cadence :
    (applyAlgorithm (RunLoops.init (K := ℚ) quietRadio).agent
        (timingPayload 1500 1500)).1 = agentOk ∧
      (triggeredBoard 1500 1500).Triggered ∧
      (triggeredBoard 1500 1500).passes .atZero 5000 (wakes 1500 2000 (fun _ ↦ 0) fun _ ↦ []) =
        [⟨0, 1, true, true⟩, ⟨1000, 1, true, true⟩, ⟨1500, 1, true, true⟩] ∧
      ¬OnCadence 1500 1 2000 ((triggeredBoard 1500 1500).passes .atZero 5000
        (wakes 1500 2000 (fun _ ↦ 0) fun _ ↦ [])) := by
  have hpasses : (triggeredBoard 1500 1500).passes .atZero 5000
      (wakes 1500 2000 (fun _ ↦ 0) fun _ ↦ []) =
        [⟨0, 1, true, true⟩, ⟨1000, 1, true, true⟩, ⟨1500, 1, true, true⟩] := by decide +kernel
  refine ⟨by decide +kernel,
    triggered_of_frames .atZero rfl (by decide +kernel) rfl rfl quietEnv quietEnv, hpasses,
    fun h ↦ ?_⟩
  have htimes := h.times
  rw [hpasses] at htimes
  exact absurd htimes (by decide +kernel)

end RunLoops

end VertexTestbed.Firmware
