import VertexTestbed.Host.RunnerContract

/-!
# Runs of the hub that return

`asyncio.gather` lets through the first exception of its tasks, and the tasks of `hub/runner.py`
catch `ControlError` alone. So a run comes to its end exactly as far as its clients let nothing else
through: `run_returns`. With the order of the phases that is the whole contract of a run,
`run_contract`.
-/

namespace VertexTestbed.Host

open Interleaving

variable {σ K V : Type}

/-- Clients that meet `I` let no exception through, and go on to meet `I`. -/
def Contained (call : ℤ → σ → Command K V → σ × Outcome) (I : σ → Prop) : Prop :=
  ∀ nid c cmd, I c → I (call nid c cmd).1 ∧ ∀ exc, (call nid c cmd).2 ≠ .raised exc

variable {call : ℤ → σ → Command K V → σ × Outcome} {I : σ → Prop}

/-- A task lets nothing through and leaves its client as it found it. -/
def Quiet (I : σ → Prop) (task : NodeOutcome → σ → Done σ K V) : Prop :=
  ∀ out c, I c → I (task out c).client ∧ (task out c).raised = none

theorem clearStale_quiet (h : Contained call I) : Quiet I (clearStale call) :=
  fun out c hc ↦ ⟨(h out.node_id c .stop hc).1, rfl⟩

theorem attempt_quiet (h : Contained call I) (phase : RunPhase) (cmd : Command K V)
    (keep : Response → List UInt8 → NodeOutcome → NodeOutcome) (out : NodeOutcome) {c : σ}
    (hc : I c) :
    I (attempt call phase cmd keep out c).client ∧
      (attempt call phase cmd keep out c).raised = none := by
  obtain ⟨hkeeps, hraised⟩ := h out.node_id c cmd hc
  refine ⟨hkeeps, ?_⟩
  rw [attempt]
  dsimp only
  split
  · rename_i exc hexc
    exact absurd hexc (hraised exc)
  · rfl

theorem collectFrom_quiet (h : Contained call I) (run_name : String) (artifacts : List String) :
    Quiet I (collectFrom call run_name artifacts) := by
  intro out c hc
  induction artifacts generalizing out c with
  | nil => exact ⟨hc, rfl⟩
  | cons artifact artifacts ih =>
    have hfetched : I (fetchOne call run_name artifact out c).client ∧
        (fetchOne call run_name artifact out c).raised = none :=
      attempt_quiet h _ _ _ out hc
    rw [collectFrom]
    dsimp only
    rw [hfetched.2]
    exact ih _ _ hfetched.1

/-- **A batch of quiet tasks** lets nothing through. -/
theorem gather_quiet {task : NodeOutcome → σ → Done σ K V} (ht : Quiet I task)
    {p : Progress σ K V} (hp : ∀ nid, I (p.clients nid)) :
    (∀ nid, I ((p.gather task).clients nid)) ∧ (p.gather task).raised = none := by
  constructor
  · intro nid
    simp only [Progress.gather]
    cases hfind : (p.report.nodes.map fun out ↦ task out (p.clients out.node_id)).find?
        fun d ↦ d.out.node_id = nid with
    | none => exact hp nid
    | some d =>
      obtain ⟨out, -, rfl⟩ := List.mem_map.mp (List.mem_of_find?_eq_some hfind)
      exact (ht out _ (hp _)).1
  · simp only [Progress.gather, List.findSome?_eq_none_iff]
    intro d hd
    obtain ⟨out, -, rfl⟩ := List.mem_map.mp hd
    exact (ht out _ (hp _)).2

/-- A phase lets nothing through and leaves clients that meet `I`. -/
def QuietPhase (I : σ → Prop) (p : Progress σ K V) : Prop :=
  (∀ nid, I (p.clients nid)) ∧ p.raised = none

/-- A phase that lets nothing through is followed by the next. -/
theorem QuietPhase.next {p : Progress σ K V} (h : QuietPhase I p) (rest : RunResult σ K V) :
    p.next rest = rest := by
  rw [Progress.next, h.2]

variable [Zero K] [LinearOrder K]

theorem applyTo_quiet (h : Contained call I) (ev : ScheduledEvent K V) {s : Applying σ K V}
    (hs : ∀ nid, I (s.clients nid)) (nid : ℤ) : ∀ n, I ((applyTo call ev s nid).clients n) := by
  intro n
  have hupdate : ∀ cmd, I (Function.update s.clients nid (call nid (s.clients nid) cmd).1 n) := by
    intro cmd
    by_cases hn : n = nid
    · subst hn
      rw [Function.update_self]
      exact (h n _ cmd (hs n)).1
    · rw [Function.update_of_ne hn]
      exact hs n
  rw [applyTo]
  cases s.assignments.get nid with
  | none => exact hs n
  | some a =>
    dsimp only
    split <;> exact hupdate _

theorem schedule_quiet (h : Contained call I) (targets : List ℤ) (duration_s : K)
    {p : Progress σ K V} (hp : ∀ nid, I (p.clients nid)) (ev : ScheduledEvent K V) :
    ∀ nid, I ((p.schedule call targets duration_s ev).clients nid) := by
  rw [Progress.schedule]
  split
  · exact hp
  · have hfold : ∀ nid, I ((applyEvent call ev p (ev.targets targets)).clients nid) :=
      List.foldlRecOn (motive := fun s : Applying σ K V ↦ ∀ nid, I (s.clients nid)) _
        (applyTo call ev) hp fun s hs nid _ ↦ applyTo_quiet h ev hs nid
    exact hfold

/-! ### The phases of a contained run -/

variable {m : RunManifest K V} {clients : ℤ → σ} {assignments : Assignments V} {plan : RunPlan K}

theorem configured_quiet (h : Contained call I) (hclients : ∀ nid, I (clients nid)) :
    QuietPhase I (configured call m clients assignments plan) := by
  have hcleared := gather_quiet (clearStale_quiet h) (p := begun m clients assignments plan)
    hclients
  exact gather_quiet (fun out _ hc ↦ attempt_quiet h _ _ _ out hc) hcleared.1

theorem triggered_quiet (h : Contained call I) (hclients : ∀ nid, I (clients nid)) :
    QuietPhase I (triggered call m clients assignments plan) :=
  gather_quiet (fun out _ hc ↦ attempt_quiet h _ _ _ out hc) (configured_quiet h hclients).1

theorem eventful_quiet (h : Contained call I) (hclients : ∀ nid, I (clients nid)) (nid : ℤ) :
    I ((eventful call m clients assignments plan).clients nid) :=
  List.foldlRecOn (motive := fun p : Progress σ K V ↦ ∀ nid, I (p.clients nid)) m.schedule _
    (triggered_quiet h hclients).1 (fun _ hp ev _ ↦ schedule_quiet h _ _ hp ev) nid

theorem halted_quiet (h : Contained call I) (hclients : ∀ nid, I (clients nid)) :
    QuietPhase I (halted call m clients assignments plan) :=
  gather_quiet (fun out _ hc ↦ attempt_quiet h _ _ _ out hc) (eventful_quiet h hclients)

theorem collected_quiet (h : Contained call I) (hclients : ∀ nid, I (clients nid)) :
    QuietPhase I (collected call m clients assignments plan) :=
  gather_quiet (collectFrom_quiet h plan.run_name ARTIFACTS)
    (p := withDir plan (halted call m clients assignments plan)) (halted_quiet h hclients).1

/-- **Contained failures end no run**: a run of nodes of the manifest goes to the barrier, and past
it to its end. -/
theorem run_returns (h : Contained call I) (hclients : ∀ nid, I (clients nid))
    (hids : ∀ nid ∈ participants assignments plan, nid ∈ assignments.keys) :
    ExperimentRunner.run call m clients assignments plan =
      if (configured call m clients assignments plan).allConfigured = false then
        (configured call m clients assignments plan).notStarted.finish none
      else
        (collected call m clients assignments plan).finish
          (some (collected call m clients assignments plan).report) := by
  have hunknown : (participants assignments plan).filter (· ∉ assignments.keys) = [] := by
    simpa using hids
  rw [ExperimentRunner.run, hunknown, if_neg (by simp), (configured_quiet h hclients).next]
  split
  · rfl
  · rw [(triggered_quiet h hclients).next, (halted_quiet h hclients).next,
      (collected_quiet h hclients).next]

/-! ### The contract of a run -/

/-- **The contract of `ExperimentRunner.run`**, for every pattern of replies and `ControlError`s and
every interleaving of its tasks: the phases keep their order, and for nodes of the manifest there is
a report that tells of every failure, and of nothing that did not fail. -/
theorem run_contract {σ K V : Type} [Zero K] [LinearOrder K]
    (call : ℤ → σ → Command K V → σ × Outcome) (m : RunManifest K V) (clients : ℤ → σ)
    (assignments : Assignments V) (plan : RunPlan K)
    (hcall : ∀ nid c cmd exc, (call nid c cmd).2 ≠ .raised exc) {trace : List (HubEvent K V)}
    (ht : Staged (ExperimentRunner.run call m clients assignments plan).batches trace) :
    RunOrdered (participants assignments plan) plan.epoch_unix_s trace ∧
      ((∀ nid ∈ participants assignments plan, nid ∈ assignments.keys) →
        ∃ report, (ExperimentRunner.run call m clients assignments plan).report = .ok report ∧
          Reported (participants assignments plan) trace report) := by
  refine ⟨run_ordered call m clients assignments plan ht, fun hids ↦ ?_⟩
  have hcontained : Contained call fun _ ↦ True := fun nid c cmd _ ↦ ⟨trivial, hcall nid c cmd⟩
  have hreport : ∃ report,
      (ExperimentRunner.run call m clients assignments plan).report = .ok report := by
    rw [run_returns hcontained (fun _ ↦ trivial) hids]
    split <;> exact ⟨_, rfl⟩
  obtain ⟨report, hreport⟩ := hreport
  exact ⟨report, hreport, run_reported call m clients assignments plan ht hreport⟩

/-- Channels on which the commands in `fails`, by node and number, come to a `ControlError`. -/
def patternCall (fails : List (ℤ × ℕ)) : ℤ → ℕ → Command ℚ Bool → ℕ × Outcome :=
  fun nid k _ ↦
    (k + 1,
      if (nid, k) ∈ fails then .controlError "no answer"
      else .reply ⟨true, .json, none, none, 0, ""⟩ [])

/-- An experiment of which an event disables the first node halfway. -/
def sampleManifest : RunManifest ℚ Bool where
  name := "sample"
  by_id := fun _ ↦ ("ble", "10.0.0.1:3001")
  events :=
    [{ at_s := 5
       nodes := [1]
       set := [("enabled", false)]
       at_pos := by norm_num
       nodes_ne := by simp
       set_ne := by simp
       unfrozen := by decide }]

/-- Assignments for some nodes, the same whatever the run. -/
def sampleAssignments (nodes : Finset ℤ) : Assignments Bool := ⟨nodes, fun _ _ ↦ some true⟩

/-- A run of ten seconds. -/
def samplePlan : RunPlan ℚ := ⟨"r0", 10, 0, none⟩

/-- The sample run. -/
def sampleRun (nodes : Finset ℤ) (fails : List (ℤ × ℕ)) : RunResult ℕ ℚ Bool :=
  ExperimentRunner.run (patternCall fails) sampleManifest (fun _ ↦ 0) (sampleAssignments nodes)
    samplePlan

theorem patternCall_contained (fails : List (ℤ × ℕ)) (nid : ℤ) (k : ℕ) (cmd : Command ℚ Bool)
    (exc : String) : (patternCall fails nid k cmd).2 ≠ .raised exc := by
  simp only [patternCall]
  split <;> exact Outcome.noConfusion

theorem participants_sample (nodes : Finset ℤ) :
    ∀ nid ∈ participants (sampleAssignments nodes) samplePlan,
      nid ∈ (sampleAssignments nodes).keys := by
  simp [participants, samplePlan]

/-- Two runs of two nodes: one where the second refuses its configuration, and one where everything
is configured and the first fails to stop. -/
theorem run_contract_sample :
    (RunOrdered (participants (sampleAssignments {1, 2}) samplePlan) samplePlan.epoch_unix_s
        ((sampleRun {1, 2} [(2, 1)]).batches.map List.flatten).flatten ∧
      ∃ report, (sampleRun {1, 2} [(2, 1)]).report = .ok report ∧
        Reported (participants (sampleAssignments {1, 2}) samplePlan)
          ((sampleRun {1, 2} [(2, 1)]).batches.map List.flatten).flatten report) ∧
    RunOrdered (participants (sampleAssignments {1, 2}) samplePlan) samplePlan.epoch_unix_s
        ((sampleRun {1, 2} [(1, 4)]).batches.map List.flatten).flatten ∧
      ∃ report, (sampleRun {1, 2} [(1, 4)]).report = .ok report ∧
        Reported (participants (sampleAssignments {1, 2}) samplePlan)
          ((sampleRun {1, 2} [(1, 4)]).batches.map List.flatten).flatten report := by
  obtain ⟨hrefused, hreport⟩ := run_contract (patternCall [(2, 1)]) sampleManifest (fun _ ↦ 0)
    (sampleAssignments {1, 2}) samplePlan (patternCall_contained _) (staged_flatten _)
  obtain ⟨hran, hreport'⟩ := run_contract (patternCall [(1, 4)]) sampleManifest (fun _ ↦ 0)
    (sampleAssignments {1, 2}) samplePlan (patternCall_contained _) (staged_flatten _)
  exact ⟨⟨hrefused, hreport (participants_sample _)⟩, hran, hreport' (participants_sample _)⟩

/-- A command of a phase to a node that came to a `ControlError`. -/
def HubEvent.failed {K V : Type} (phase : RunPhase) (nid : ℤ) : HubEvent K V → Bool
  | .answered ph n _ (.controlError _) => ph = phase ∧ n = nid
  | _ => false

/-- The `stop` ahead of the run fails at the first node, and so does the `configure` of the event,
and no node of the report has an error. -/
theorem failures_without_error :
    ∃ trace report, Staged (sampleRun {1} [(1, 0), (1, 3)]).batches trace ∧
      (sampleRun {1} [(1, 0), (1, 3)]).report = .ok report ∧
      (∃ e ∈ trace, e.failed .clear_stale 1 = true) ∧ (∃ e ∈ trace, e.failed .event 1 = true) ∧
      ∀ o ∈ report.nodes, o.errors = [] := by
  have hreport : ∃ report, (sampleRun {1} [(1, 0), (1, 3)]).report = .ok report ∧
      (report.nodes.all fun o ↦ o.errors.isEmpty) = true := by
    have heval : ((sampleRun {1} [(1, 0), (1, 3)]).report.toOption.any fun report ↦
        report.nodes.all fun o ↦ o.errors.isEmpty) = true := by decide +kernel
    rcases hr : (sampleRun {1} [(1, 0), (1, 3)]).report with exc | report
    · rw [hr] at heval
      exact absurd heval Bool.false_ne_true
    · rw [hr] at heval
      exact ⟨report, rfl, heval⟩
  have hstale : (((sampleRun {1} [(1, 0), (1, 3)]).batches.map List.flatten).flatten.any
      fun e ↦ e.failed .clear_stale 1) = true := by decide +kernel
  have hevent : (((sampleRun {1} [(1, 0), (1, 3)]).batches.map List.flatten).flatten.any
      fun e ↦ e.failed .event 1) = true := by decide +kernel
  obtain ⟨report, hreport, hnone⟩ := hreport
  refine ⟨_, report, staged_flatten _, hreport, List.any_eq_true.mp hstale,
    List.any_eq_true.mp hevent, fun o ho ↦ ?_⟩
  simpa using List.all_eq_true.mp hnone o ho

end VertexTestbed.Host
