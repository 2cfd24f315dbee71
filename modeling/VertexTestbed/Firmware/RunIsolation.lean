import VertexTestbed.Firmware.RunLoops

/-!
# Reception and the runs of a board

A run starts with an accepted CONTROL start. That frame clears the agent's own arrays; the
observer's record and queue are cleared by `observer_stop`, the fresh mask by a report, the snapshot
in the dynamics loop's hands by a step. `StartsClean` is the condition that the other three had been
cleared when the frame came, and `run_isolated` that nothing of an earlier run is then ever used or
reported.
-/

namespace VertexTestbed.Firmware

open Runs

namespace RunLoops

variable {K : Type}

/-! ### What is asked -/

/-- Received after the start of run `k`, and filed under slot `i`. -/
def Since (log : List Heard) (k : ℕ) (i : Slot) (h : Heard) : Prop :=
  h ∈ log ∧ k ≤ h.run ∧ h.slot = i

/-- Everything a snapshot says was received after the start of run `k`. -/
def HeardSince (log : List Heard) (k : ℕ) (n : NeighborInfo) : Prop :=
  ∀ i, ValuesFrom (Since log k) n i ∧ MarksFrom (Since log k) n i

/-- So is every fresh flag. -/
def FreshSince (log : List Heard) (k : ℕ) (fresh : Slot → Bool) : Prop :=
  ∀ i, fresh i = true → ∃ h, Since log k i h

/-- **Isolation**: what every control step used and every report sent came in after the CONTROL
frame that started its run. -/
structure Isolated (s : RunLoops K) : Prop where
  steps : ∀ x ∈ s.steps, HeardSince s.log x.1 x.2.received
  reports : ∀ r ∈ s.reports,
    HeardSince s.log r.run r.agent.received ∧ FreshSince s.log r.run r.fresh

/-- **A start finds the board clean**: record, queue and fresh mask empty, and no snapshot in the
dynamics loop's hands. -/
def StartsClean (s : RunLoops K) : BoardEvent → Prop
  | .frame _ type payload =>
    isStart type payload = true →
      s.rx.info = .zero ∧ s.rx.queue = none ∧ (∀ i, s.rx.fresh i = false) ∧
        s.dynamics ≠ .got true
  | _ => True

instance (s : RunLoops K) : (ev : BoardEvent) → Decidable (s.StartsClean ev)
  | .frame _ _ _ => inferInstanceAs (Decidable (_ → _))
  | .receive _ _ | .dynamics | .network _ _ => .isTrue trivial

/-! ### Monotonicity -/

theorem Since.mono {log log' : List Heard} {k k' : ℕ} {i : Slot} {h : Heard}
    (hlog : ∀ x ∈ log, x ∈ log') (hk : k' ≤ k) (hs : Since log k i h) : Since log' k' i h :=
  ⟨hlog h hs.1, hk.trans hs.2.1, hs.2.2⟩

theorem HeardSince.mono {log log' : List Heard} {k k' : ℕ} {n : NeighborInfo}
    (hlog : ∀ x ∈ log, x ∈ log') (hk : k' ≤ k) (h : HeardSince log k n) : HeardSince log' k' n :=
  fun i ↦ ⟨(h i).1.mono fun _ ↦ Since.mono hlog hk, (h i).2.mono fun _ ↦ Since.mono hlog hk⟩

theorem FreshSince.mono {log log' : List Heard} {k k' : ℕ} {fresh : Slot → Bool}
    (hlog : ∀ x ∈ log, x ∈ log') (hk : k' ≤ k) (h : FreshSince log k fresh) :
    FreshSince log' k' fresh := by
  intro i hi
  obtain ⟨p, hp⟩ := h i hi
  exact ⟨p, hp.mono hlog hk⟩

theorem heardSince_zero (log : List Heard) (k : ℕ) : HeardSince log k .zero :=
  fun i ↦ ⟨valuesFrom_zero _ i, marksFrom_zero _ i⟩

theorem freshSince_none (log : List Heard) (k : ℕ) : FreshSince log k fun _ ↦ false :=
  fun _ hi ↦ by cases hi

theorem HeardSince.absorb {log : List Heard} {k : ℕ} (a : Agent K) (info : NeighborInfo)
    (ha : HeardSince log k a.received) (hinfo : HeardSince log k info) :
    HeardSince log k (absorbNeighbors a info).received :=
  fun i ↦ ⟨(ha i).1.absorb (hinfo i).1, (ha i).2.absorb (hinfo i).2⟩

/-! ### The invariant -/

/-- **Nothing of an earlier run is on its way.** -/
structure Sealed (s : RunLoops K) : Prop where
  inFlight : InFlight (HeardSince s.log s.run) s
  fresh : FreshSince s.log s.run s.rx.fresh
  copied : s.copyRun ≤ s.run
  copy : HeardSince s.log s.copyRun s.copy.received
  isolated : s.Isolated

theorem sealed_init [Field K] (radio : RadioState) : (init radio : RunLoops K).Sealed where
  inFlight :=
    ⟨heardSince_zero _ _, fun _ hn ↦ (by cases hn), fun h ↦ (by cases h), heardSince_zero _ _⟩
  fresh := freshSince_none _ _
  copied := le_rfl
  copy := heardSince_zero _ _
  isolated := ⟨fun _ hx ↦ absurd hx List.not_mem_nil, fun _ hr ↦ absurd hr List.not_mem_nil⟩

/-- The histories under a longer log. -/
theorem Isolated.mono {s s' : RunLoops K} (h : s.Isolated) (hlog : ∀ x ∈ s.log, x ∈ s'.log)
    (hsteps : s'.steps = s.steps) (hreports : s'.reports = s.reports) : s'.Isolated := by
  refine ⟨fun x hx ↦ ?_, fun r hr ↦ ?_⟩
  · exact (h.steps x (by rwa [← hsteps])).mono hlog le_rfl
  · obtain ⟨hheard, hfresh⟩ := h.reports r (by rwa [← hreports])
    exact ⟨hheard.mono hlog le_rfl, hfresh.mono hlog le_rfl⟩

/-- A reception is of the run it falls into. -/
theorem sealed_receive {s : RunLoops K} (h : s.Sealed) (p : StatePacketType) (rssi : Int8) :
    (s.receive p rssi).Sealed := by
  have hflight := h.inFlight
  by_cases hscan : s.plane.radio.scanning = true
  · rcases hindex : agentNeighborIndex s.agent.params p.node with _ | i
    · have heq : s.receive p rssi = s := by
        rw [RunLoops.receive, if_pos hscan, onDeviceFound, hindex]
      rwa [heq]
    · have hlog : (s.receive p rssi).log = s.log ++ [⟨s.run, i, p, rssi⟩] := by
        rw [RunLoops.receive, if_pos hscan, hindex]
      have hrest : (s.receive p rssi).run = s.run ∧ (s.receive p rssi).copyRun = s.copyRun ∧
          (s.receive p rssi).copy = s.copy ∧ (s.receive p rssi).steps = s.steps ∧
          (s.receive p rssi).reports = s.reports := by
        rw [RunLoops.receive, if_pos hscan]
        exact ⟨rfl, rfl, rfl, rfl, rfl⟩
      obtain ⟨hrun, hcopyRun, hcopy, hsteps, hreports⟩ := hrest
      have hmono : ∀ x ∈ s.log, x ∈ s.log ++ [⟨s.run, i, p, rssi⟩] :=
        fun x hx ↦ List.mem_append_left _ hx
      -- The new reception is allowed under its slot.
      have hnew : Since (s.log ++ [⟨s.run, i, p, rssi⟩]) s.run i ⟨s.run, i, p, rssi⟩ :=
        ⟨List.mem_append_right _ (List.mem_singleton_self _), le_rfl, rfl⟩
      have hold : InFlight (HeardSince (s.log ++ [⟨s.run, i, p, rssi⟩]) s.run) s :=
        ⟨hflight.info.mono hmono le_rfl, fun n hn ↦ (hflight.queue n hn).mono hmono le_rfl,
          fun hgot ↦ (hflight.fetched hgot).mono hmono le_rfl, hflight.agent.mono hmono le_rfl⟩
      refine ⟨?_, ?_, by rw [hcopyRun, hrun]; exact h.copied, ?_, ?_⟩
      · rw [hlog, hrun]
        refine hold.receive fun j hj ↦ ?_
        obtain rfl := Option.some.inj (hindex.symm.trans hj)
        have hstored : HeardSince (s.log ++ [⟨s.run, i, p, rssi⟩]) s.run (s.rx.info.store i p) :=
          fun j ↦ ⟨(hold.info j).1.store hnew, (hold.info j).2.store hnew⟩
        exact ⟨hstored, fun j ↦ ⟨(hstored j).1, (hstored j).2.storeRssi hnew⟩⟩
      · rw [hlog, hrun]
        intro j hj
        have hfresh : (s.receive p rssi).rx.fresh = Function.update s.rx.fresh i true := by
          rw [RunLoops.receive, if_pos hscan, onDeviceFound, hindex]
          rfl
        rw [hfresh] at hj
        by_cases hji : j = i
        · subst hji
          exact ⟨_, hnew⟩
        · rw [Function.update_of_ne hji] at hj
          exact h.fresh.mono hmono le_rfl j hj
      · rw [hlog, hcopyRun, hcopy]
        exact h.copy.mono hmono le_rfl
      · exact h.isolated.mono (by rw [hlog]; exact hmono) hsteps hreports
  · have heq : s.receive p rssi = s := by rw [RunLoops.receive, if_neg hscan]
    rwa [heq]

/-- A section of the network loop copies, reports and clears. -/
theorem sealed_network [Field K] [LinearOrder K] [FloorRing K] {s : RunLoops K} (h : s.Sealed)
    (uptimeUs scanErr : ℤ) : (s.networkStep uptimeUs scanErr).Sealed := by
  have hsame := networkStep_sameNeighbours s uptimeUs scanErr
  have hflight := h.inFlight.network (heardSince_zero s.log s.run) uptimeUs scanErr
  obtain ⟨hframe, hsteps⟩ := networkStep_frame s uptimeUs scanErr
  have hlog : ∀ x ∈ s.log, x ∈ (s.networkStep uptimeUs scanErr).log := by
    rw [hsame.log]
    exact fun x hx ↦ hx
  rw [← hsame.log, ← hsame.run] at hflight
  cases hframe with
  | quiet hcopy hcopyRun hfresh hreports =>
    refine ⟨hflight, ?_, ?_, ?_, h.isolated.mono hlog hsteps hreports⟩
    · rw [hsame.log, hsame.run, hfresh]
      exact h.fresh
    · rw [hcopyRun, hsame.run]
      exact h.copied
    · rw [hsame.log, hcopyRun, hcopy]
      exact h.copy
  | copied hcopy hcopyRun hfresh hreports =>
    refine ⟨hflight, ?_, ?_, ?_, h.isolated.mono hlog hsteps hreports⟩
    · rw [hsame.log, hsame.run, hfresh]
      exact h.fresh
    · rw [hcopyRun, hsame.run]
    · rw [hsame.log, hcopyRun, hcopy]
      exact h.inFlight.agent
  | sent payload hcopy hcopyRun hfresh hreports =>
    refine ⟨hflight, ?_, ?_, ?_, ⟨fun x hx ↦ ?_, fun r hr ↦ ?_⟩⟩
    · rw [hfresh]
      exact freshSince_none _ _
    · rw [hcopyRun, hsame.run]
      exact h.copied
    · rw [hsame.log, hcopyRun, hcopy]
      exact h.copy
    · rw [hsame.log]
      exact h.isolated.steps x (by rwa [← hsteps])
    · rw [hsame.log]
      rw [hreports, List.mem_append, List.mem_singleton] at hr
      obtain hr | rfl := hr
      · exact h.isolated.reports r hr
      · -- The copy is of its own run; what is fresh now was heard since the present one started.
        exact ⟨h.copy, h.fresh.mono (fun x hx ↦ hx) h.copied⟩

section Step

variable [Field K] [LinearOrder K] [IsStrictOrderedRing K] [FloorRing K] {lib : Libm K}

/-- A segment of the dynamics loop. -/
theorem sealed_dynamics {s : RunLoops K} (h : s.Sealed) : (s.step lib .dynamics).Sealed := by
  rw [step]
  split
  case h_1 hidle =>
    have hflight := h.inFlight.get
    rw [dynamicsGet] at hflight ⊢
    split at hflight
    · exact ⟨hflight, h.fresh, h.copied, h.copy, h.isolated.steps, h.isolated.reports⟩
    · exact ⟨hflight, h.fresh, h.copied, h.copy, h.isolated.steps, h.isolated.reports⟩
  case h_2 freshData hgot =>
    have habsorb : ∀ (a : Agent K) info, HeardSince s.log s.run a.received →
        HeardSince s.log s.run info → HeardSince s.log s.run (absorbNeighbors a info).received :=
      fun a info ↦ HeardSince.absorb a info
    have hflight := h.inFlight.dynamicsStep lib hgot habsorb
    have hstepped := h.inFlight.stepped hgot habsorb
    obtain heq | heq := dynamicsStep_cases lib s freshData
    · rw [heq] at hflight ⊢
      exact ⟨hflight, h.fresh, h.copied, h.copy, h.isolated.steps, h.isolated.reports⟩
    · rw [heq] at hflight ⊢
      refine ⟨hflight, h.fresh, h.copied, h.copy, fun x hx ↦ ?_, h.isolated.reports⟩
      obtain hx | hx := List.mem_append.mp hx
      · exact h.isolated.steps x hx
      · obtain rfl := List.mem_singleton.mp hx
        exact hstepped

/-- A frame: a start seals the new run if it finds the board clean. -/
theorem sealed_frame {s : RunLoops K} (h : s.Sealed) {e : ControlEnv} {type : UInt8}
    {payload : Bytes} (hok : s.StartsClean (.frame e type payload)) :
    (s.frame e type payload).Sealed := by
  have hreceived := (controlOnFrame_received e s.plane type payload).1
  by_cases hstart : isStart type payload = true
  · obtain ⟨hinfo, hqueue, hfresh, hdynamics⟩ := hok hstart
    rw [if_pos hstart] at hreceived
    rw [RunLoops.frame, if_pos hstart]
    refine ⟨⟨?_, fun n hn ↦ ?_, fun hgot ↦ absurd hgot hdynamics, ?_⟩, fun i hi ↦ ?_,
      h.copied.trans (Nat.le_succ _), h.copy, h.isolated.steps, h.isolated.reports⟩
    · show HeardSince s.log (s.run + 1) s.rx.info
      rw [hinfo]
      exact heardSince_zero _ _
    · cases hqueue.symm.trans hn
    · show HeardSince s.log (s.run + 1)
        (controlOnFrame e s.plane type payload).1.board.agent.received
      rw [hreceived]
      exact heardSince_zero _ _
    · cases (hfresh i).symm.trans hi
  · rw [if_neg hstart] at hreceived
    rw [RunLoops.frame, if_neg hstart]
    refine ⟨⟨h.inFlight.info, h.inFlight.queue, h.inFlight.fetched, ?_⟩, h.fresh, h.copied, h.copy,
      h.isolated.steps, h.isolated.reports⟩
    show HeardSince s.log s.run (controlOnFrame e s.plane type payload).1.board.agent.received
    rw [hreceived]
    exact h.inFlight.agent

theorem sealed_step {s : RunLoops K} {ev : BoardEvent} (h : s.Sealed) (hok : s.StartsClean ev) :
    (s.step lib ev).Sealed := by
  cases ev with
  | frame e type payload => exact sealed_frame h hok
  | receive p rssi => exact sealed_receive h p rssi
  | dynamics => exact sealed_dynamics h
  | network uptimeUs scanErr => exact sealed_network h uptimeUs scanErr

end Step

end RunLoops

/-- **Per-run isolation of reception**: in a run whose CONTROL starts all find the board clean,
everything that a control step uses or a report sends was received after the start of its run. -/
theorem run_isolated {K : Type} [Field K] [LinearOrder K] [IsStrictOrderedRing K] [FloorRing K]
    (lib : Libm K) (radio : RadioState) {events : List BoardEvent}
    (h : Guarded (RunLoops.step lib) RunLoops.StartsClean (.init radio) events) (n : ℕ) :
    (run (RunLoops.step lib) (.init radio) (events.take n)).Isolated :=
  (h.invariant_prefix (P := RunLoops.Sealed) (fun _ _ hs hok ↦ RunLoops.sealed_step hs hok)
    (RunLoops.sealed_init radio) n).isolated

/-! ### A clean start and a stale one -/

/-- Kernel, stack and counters of the sample runs. -/
def quietEnv : ControlEnv := ⟨5000, 0, 0, [], [], protoParserInit.stats, 0⟩

/-- The radio settings at power-up. -/
def quietRadio : RadioState := ⟨160, 160, 160, 160, false, false⟩

/-- A packet of a node. -/
def samplePacket (node : UInt8) (vstate : ℤ) : StatePacketType :=
  ⟨node, true, false, 3, vstate, 0, 1, 0⟩

/-- NETWORK: an enabled node 9 with the given neighbours. -/
def networkFrame (ids : Bytes) : BoardEvent :=
  .frame quietEnv protoTNetwork (1 :: 9 :: ids)

/-- CONTROL: start (1) or stop (0). -/
def controlFrame (command : UInt8) : BoardEvent :=
  .frame quietEnv protoTControl (command :: List.replicate 10 0)

/-- A started board whose network loop has brought scanning up. -/
def startedRun (ids : Bytes) : List BoardEvent :=
  [networkFrame ids, controlFrame 1, .network 6000 0, .network 6000 0]

/-- One run with a reception, a control step and a report. -/
def cleanRun : List BoardEvent :=
  startedRun [1] ++
    [.receive (samplePacket 1 7) (-40), .dynamics, .dynamics, .network 7000 0, .network 7000 0]

/-- The same reception, and a second start before the network loop has torn the first run down. -/
def staleRun : List BoardEvent :=
  startedRun [1] ++
    [.receive (samplePacket 1 7) (-40), controlFrame 0, controlFrame 1, .dynamics, .dynamics]

/-- The clean run is isolated, and it did step and report. -/
theorem run_isolated_cleanRun :
    (run (RunLoops.step (.atZero : Libm ℚ)) (.init quietRadio) (cleanRun.take 9)).Isolated ∧
      (run (RunLoops.step (.atZero : Libm ℚ)) (.init quietRadio) cleanRun).steps.length = 1 ∧
      (run (RunLoops.step (.atZero : Libm ℚ)) (.init quietRadio) cleanRun).reports.length = 1 :=
  ⟨run_isolated .atZero quietRadio (by decide +kernel) 9, by decide +kernel, by decide +kernel⟩

/-- **A start that overtakes the teardown uses what the run before it heard.** -/
theorem staleRun_not_isolated :
    ¬(run (RunLoops.step (.atZero : Libm ℚ)) (.init quietRadio) staleRun).Isolated := by
  intro h
  have hstep : ∃ x ∈ (run (RunLoops.step (.atZero : Libm ℚ)) (.init quietRadio) staleRun).steps,
      x.1 = 2 ∧ x.2.received.vstates 0 = 7 := by decide +kernel
  have hlog : ∀ p ∈ (run (RunLoops.step (.atZero : Libm ℚ)) (.init quietRadio) staleRun).log,
      p.run = 1 := by decide +kernel
  obtain ⟨x, hx, hrun, hvalue⟩ := hstep
  obtain ⟨hzero, -⟩ | ⟨p, ⟨hp, hsince, -⟩, -⟩ := (h.steps x hx 0).1
  · omega
  · have hfirst := hlog p hp
    omega

end VertexTestbed.Firmware
