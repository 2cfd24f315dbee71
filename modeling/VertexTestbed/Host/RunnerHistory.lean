import VertexTestbed.Host.RunnerContract
import VertexTestbed.Manifest.Arms

/-!
# The runs of one hub

`ExperimentRunner` (`hub/runner.py`) over its life: `main_async` may override the publish period,
`set_arm` points the hub at an arm, and `run`, alone or from `run_arms` and `run_repeated`,
configures the fleet from the table of assignments. All of them, and the scheduled events of a run,
rewrite that one table.

`fresh` is the table of a runner that has done nothing but take the arm and the override in force. A
run sends what its table says (`run_sent_iff`), so runs are independent of their history while
the table stays fresh, and it does as long as no event and no switch of arms takes something away
from it (`run_history_independent`).
-/

namespace VertexTestbed.Host

open Runs Manifest

variable {K : Type} [Field K] [LinearOrder K]

/-! ### What a runner reads of a manifest -/

/-- `model_dump(mode="json")` of an assignment. -/
def assignmentPayload (a : Manifest.AgentAssignment K) : Payload (Json K) :=
  fun field ↦ (asDict Manifest.AgentAssignment.codec a).lookup field

/-- `assignments_for`. -/
def assignments_for (np : Numpy K) (manifest : ExperimentManifest K) (run_index : ℤ) :
    Except LoadError (Assignments (Json K)) := do
  let entries ← manifest.1.nodes.mapM fun n ↦ do
    let a ← assignment_for np manifest n.1.id run_index
    return (n.1.id, assignmentPayload a)
  return {
    keys := (entries.map Prod.fst).toFinset
    payload := fun nid ↦ (entries.lookup nid).getD fun _ ↦ none }

/-- `CONTROL_PORTS`. -/
def CONTROL_PORTS : AgentType → ℕ
  | .ble => 3001
  | .wifi => 3002
  | .bridge => 3003

/-- A scheduled event is behind the start of its run. -/
theorem event_at_pos (e : Manifest.ScheduledEvent K) : 0 < e.1.at_s := e.2.1

/-- It names a node. -/
theorem event_nodes_ne (e : Manifest.ScheduledEvent K) : e.1.nodes ≠ [] := e.2.2.1

/-- It sets a field. -/
theorem event_set_ne (e : Manifest.ScheduledEvent K) : e.1.set ≠ [] :=
  List.isEmpty_eq_false_iff.1 e.2.2.2.1

/-- It sets no field that is frozen during a run. -/
theorem event_unfrozen (e : Manifest.ScheduledEvent K) :
    ∀ field ∈ FROZEN, field ∉ e.1.set.map Prod.fst := by
  intro field hfrozen hmem
  obtain ⟨x, hx, rfl⟩ := List.mem_map.1 hmem
  exact e.2.2.2.2 x hx hfrozen

/-- A scheduled event as a run has it. -/
def runEvent (e : Manifest.ScheduledEvent K) : ScheduledEvent K (Json K) where
  at_s := e.1.at_s
  nodes := e.1.nodes
  set := e.1.set
  at_pos := event_at_pos e
  nodes_ne := event_nodes_ne e
  set_ne := event_set_ne e
  unfrozen := event_unfrozen e

/-- A manifest as a run has it. -/
def runManifest (manifest : ExperimentManifest K) : RunManifest K (Json K) where
  name := manifest.1.name
  by_id nid :=
    ((manifest.1.nodes.find? fun n ↦ n.1.id = nid).map fun n ↦
      (n.1.type.name, s!"{n.1.ip}:{CONTROL_PORTS n.1.type}")).getD ("", "")
  events := manifest.1.events.map runEvent

/-! ### The table -/

/-- The publish-period override of `main_async`, in every entry of the table. -/
def withPublishPeriod (override : Option K) (a : Assignments (Json K)) : Assignments (Json K) :=
  match override with
  | none => a
  | some publish_period =>
    { a with
      payload := fun nid ↦
        if nid ∈ a.keys then (a.payload nid).copyWith [("publish_period_s", .num publish_period)]
        else a.payload nid }

section Table

variable [IsStrictOrderedRing K]

/-- The assignments of the manifest itself, or of an arm. -/
def armTable (np : Numpy K) (manifest : ExperimentManifest K) (run_index : ℤ) :
    Option String → Option (Assignments (Json K))
  | none => (assignments_for np manifest run_index).toOption
  | some arm => do
    let m ← (arm_manifest manifest arm).toOption
    (assignments_for np m run_index).toOption

/-- **The table of a fresh runner** that takes an arm and an override. -/
def fresh (np : Numpy K) (manifest : ExperimentManifest K) (run_index : ℤ) (arm : Option String)
    (override : Option K) : Option (Assignments (Json K)) :=
  (armTable np manifest run_index arm).map (withPublishPeriod override)

/-! ### The hub -/

/-- The hub between two steps: its clients and its table, and the arm and the override in force. -/
structure Hub (σ K : Type) where
  clients : ℤ → σ
  assignments : Assignments (Json K)
  arm : Option String
  override : Option K

/-- What a hub does next. -/
inductive HubOp (K : Type) where
  | setArm (arm : String)
  | overridePublish (publish_period : K)
  | run (plan : RunPlan K)

namespace Hub

variable {σ : Type} (np : Numpy K) (manifest : ExperimentManifest K) (run_index : ℤ)
  (call : ℤ → σ → Command K (Json K) → σ × Outcome)

/-- A run from the table of the hub. -/
def runFrom (s : Hub σ K) (plan : RunPlan K) : RunResult σ K (Json K) :=
  ExperimentRunner.run call (runManifest manifest) s.clients s.assignments plan

/-- One step. A switch that raises leaves the table. -/
def step (s : Hub σ K) : HubOp K → Hub σ K
  | .setArm arm =>
    match armTable np manifest run_index (some arm) with
    | none => s
    | some a => { s with assignments := a, arm := some arm }
  | .overridePublish publish_period =>
    { s with
      assignments := withPublishPeriod (some publish_period) s.assignments
      override := some publish_period }
  | .run plan =>
    { s with
      clients := (s.runFrom manifest call plan).clients
      assignments := (s.runFrom manifest call plan).assignments }

end Hub

end Table

/-! ### What a run sends -/

section Sent

variable {σ V : Type} (call : ℤ → σ → Command K V → σ × Outcome)
variable (m : RunManifest K V) (clients : ℤ → σ) (assignments : Assignments V) (plan : RunPlan K)

/-- The configure phase sends every participant what the table holds for it. -/
theorem configured_sent {nid : ℤ} {payload : Payload V}
    (he : Emitted (configured call m clients assignments plan).batches
      (.sent .configure nid (.configure payload))) :
    nid ∈ participants assignments plan ∧ payload = assignments.payload nid := by
  have hnodes := ((begun_told m clients assignments plan).gather (clearStale_sound call)
    (by decide)).nodes
  rw [configured, emitted_gather] at he
  obtain hclear | ⟨out, hmem, hout⟩ := he
  · rw [emitted_gather] at hclear
    obtain hnone | ⟨out, -, hout⟩ := hclear
    · obtain ⟨b, hb, -⟩ := hnone
      exact absurd hb List.not_mem_nil
    · obtain ⟨hphase, -⟩ := (clearStale_sound call out _).emits _ hout
      cases hphase
  · simp only [configureOne, attempt, exchange, List.mem_cons, HubEvent.sent.injEq,
      Command.configure.injEq, reduceCtorEq, List.not_mem_nil, or_false, true_and] at hout
    obtain ⟨rfl, rfl⟩ := hout
    exact ⟨hnodes ▸ List.mem_map_of_mem hmem, rfl⟩

/-- What a run configures, it does in its configure phase. -/
theorem run_sent {nid : ℤ} {payload : Payload V}
    (he : Emitted (ExperimentRunner.run call m clients assignments plan).batches
      (.sent .configure nid (.configure payload))) :
    nid ∈ participants assignments plan ∧ payload = assignments.payload nid := by
  obtain ⟨b₂, h₂, hstart⟩ := triggered_batches call m clients assignments plan
  obtain ⟨added, h₃, hevent⟩ := eventful_batches call m clients assignments plan
  obtain ⟨b₄, h₄, hstop, -⟩ := halted_batches call m clients assignments plan
  obtain ⟨b₅, h₅, hfetch⟩ := collected_batches call m clients assignments plan
  have hall := he.earlier (run_begun call m clients assignments plan)
  rw [h₅, h₄, h₃, h₂] at hall
  simp only [Emitted.append_iff] at hall
  obtain (((hall | hall) | hall) | hall) | hall := hall
  · exact configured_sent call m clients assignments plan hall
  · obtain ⟨_, hphase, -⟩ := hstart _ hall
    cases hphase
  · obtain ⟨_, hphase, -⟩ := hevent _ hall
    cases hphase
  · obtain ⟨_, hphase, -⟩ := hstop _ hall
    cases hphase
  · obtain ⟨_, hphase, -⟩ := hfetch _ hall
    cases hphase

/-- The configure phase reaches every participant. -/
theorem configured_reaches {nid : ℤ} (h : nid ∈ participants assignments plan) :
    Emitted (configured call m clients assignments plan).batches
      (.sent .configure nid (.configure (assignments.payload nid))) := by
  obtain ⟨b, hb, -, hall⟩ := gather_batches (configureOne_sound call assignments)
    ((begun m clients assignments plan).gather (clearStale call))
  have hnodes := ((begun_told m clients assignments plan).gather (clearStale_sound call)
    (by decide)).nodes
  rw [← hnodes] at h
  obtain ⟨out, hout, rfl⟩ := List.mem_map.1 h
  rw [configured, hb]
  exact Emitted.append_iff.2 (.inr (hall out hout _ List.mem_cons_self))

/-- A run of nodes it does not know sends nothing. -/
theorem run_unknown (h : ¬∀ nid ∈ participants assignments plan, nid ∈ assignments.keys) :
    (ExperimentRunner.run call m clients assignments plan).batches = [] := by
  have hunknown : (participants assignments plan).filter (· ∉ assignments.keys) ≠ [] := by
    simpa using h
  rw [ExperimentRunner.run, if_pos hunknown]
  rfl

omit [Field K] [LinearOrder K] in
/-- What the first phase has sent and what the rest has sent is all sent by both. -/
theorem next_emits {p : Progress σ K V} {rest : RunResult σ K V} {e : HubEvent K V}
    (hp : Emitted p.batches e) (hrest : Emitted rest.batches e) :
    Emitted (p.next rest).batches e := by
  rw [Progress.next]
  split
  · exact hp
  · exact hrest

/-- A run of nodes it knows goes through the configure phase. -/
theorem run_configures (h : ∀ nid ∈ participants assignments plan, nid ∈ assignments.keys)
    {e : HubEvent K V} (he : Emitted (configured call m clients assignments plan).batches e) :
    Emitted (ExperimentRunner.run call m clients assignments plan).batches e := by
  obtain ⟨b₂, h₂, -⟩ := triggered_batches call m clients assignments plan
  obtain ⟨added, h₃, -⟩ := eventful_batches call m clients assignments plan
  obtain ⟨b₄, h₄, -⟩ := halted_batches call m clients assignments plan
  obtain ⟨b₅, h₅, -⟩ := collected_batches call m clients assignments plan
  have htriggered : Emitted (triggered call m clients assignments plan).batches e := by
    rw [h₂]
    exact Emitted.append_iff.2 (.inl he)
  have hhalted : Emitted (halted call m clients assignments plan).batches e := by
    rw [h₄, h₃]
    exact Emitted.append_iff.2 (.inl (Emitted.append_iff.2 (.inl htriggered)))
  have hcollected : Emitted (collected call m clients assignments plan).batches e := by
    rw [h₅]
    exact Emitted.append_iff.2 (.inl hhalted)
  have hunknown : (participants assignments plan).filter (· ∉ assignments.keys) = [] := by
    simpa using h
  rw [ExperimentRunner.run, hunknown, if_neg (by simp)]
  -- wherever the run ends, its batches begin with those of the configure phase
  refine next_emits he ?_
  split
  · exact he
  · exact next_emits htriggered (next_emits hhalted (next_emits hcollected hcollected))

/-- **A run configures from the table it starts with**: each of its participants, with what the
table holds for it. -/
theorem run_sent_iff {nid : ℤ} {payload : Payload V} :
    Emitted (ExperimentRunner.run call m clients assignments plan).batches
        (.sent .configure nid (.configure payload)) ↔
      (∀ i ∈ participants assignments plan, i ∈ assignments.keys) ∧
        nid ∈ participants assignments plan ∧ payload = assignments.payload nid := by
  by_cases hids : ∀ i ∈ participants assignments plan, i ∈ assignments.keys
  · refine ⟨fun he ↦ ⟨hids, run_sent call m clients assignments plan he⟩, ?_⟩
    rintro ⟨-, hnid, rfl⟩
    exact run_configures call m clients assignments plan hids
      (configured_reaches call m clients assignments plan hnid)
  · refine ⟨fun he ↦ ?_, fun h ↦ absurd h.1 hids⟩
    rw [run_unknown call m clients assignments plan hids] at he
    obtain ⟨b, hb, -⟩ := he
    exact absurd hb List.not_mem_nil

/-- The phases up to the trigger leave the table. -/
theorem assignments_triggered :
    (triggered call m clients assignments plan).assignments = assignments := rfl

/-- The table a run leaves is that behind its events, or the one it started with. -/
theorem run_assignments :
    (ExperimentRunner.run call m clients assignments plan).assignments = assignments ∨
      (configured call m clients assignments plan).allConfigured = true ∧
        (ExperimentRunner.run call m clients assignments plan).assignments =
          (eventful call m clients assignments plan).assignments := by
  obtain ⟨exc, h⟩ | ⟨exc, h⟩ | h | ⟨hopen, ⟨exc, h⟩ | ⟨exc, h⟩ | ⟨exc, h⟩ | h⟩ :=
    run_cases call m clients assignments plan
  · exact .inl (by rw [h]; rfl)
  · exact .inl (by rw [h]; rfl)
  · exact .inl (by rw [h]; rfl)
  · exact .inl (by rw [h]; rfl)
  · exact .inr ⟨hopen, by rw [h]; rfl⟩
  · exact .inr ⟨hopen, by rw [h]; rfl⟩
  · exact .inr ⟨hopen, by rw [h]; rfl⟩

end Sent

/-! ### What a run leaves -/

section Left

variable {σ V : Type} (call : ℤ → σ → Command K V → σ × Outcome)

/-- **An event that changes nothing**: the node refuses it, or it sets fields to what they are. -/
def Harmless (ev : ScheduledEvent K V) (s : Applying σ K V) (nid : ℤ) : Prop :=
  ∀ a, s.assignments.get nid = some a → ∀ resp blob,
    (call nid (s.clients nid) (.configure (a.copyWith ev.set))).2 = .reply resp blob →
      a.copyWith ev.set = a

/-- The run comes to its events, and none of them changes a node that takes it. -/
def Undisturbed (m : RunManifest K V) (clients : ℤ → σ) (assignments : Assignments V)
    (plan : RunPlan K) : Prop :=
  (configured call m clients assignments plan).allConfigured = true →
    Guarded (Progress.schedule call (participants assignments plan) plan.duration_s)
      (fun p ev ↦ ev.at_s < plan.duration_s →
        Guarded (applyTo call ev) (Harmless call ev) ⟨p.clients, p.assignments, [], [], []⟩
          (ev.targets (participants assignments plan)))
      (triggered call m clients assignments plan) m.schedule

/-- Setting a payload to what it is changes nothing. -/
theorem Assignments.set_self (a : Assignments V) (nid : ℤ) : a.set nid (a.payload nid) = a := by
  rw [Assignments.set, Function.update_eq_self]

/-- Setting a payload back undoes the setting. -/
theorem Assignments.set_set (a : Assignments V) (nid : ℤ) (p : Payload V) :
    (a.set nid p).set nid (a.payload nid) = a := by
  rw [Assignments.set, Assignments.set, Function.update_idem, Function.update_eq_self]

/-- A harmless event leaves the table. -/
theorem applyTo_assignments {ev : ScheduledEvent K V} {s : Applying σ K V} {nid : ℤ}
    (h : Harmless call ev s nid) : (applyTo call ev s nid).assignments = s.assignments := by
  rw [applyTo]
  by_cases hkey : nid ∈ s.assignments.keys
  · have hget : s.assignments.get nid = some (s.assignments.payload nid) := if_pos hkey
    rw [hget]
    dsimp only
    have hchanged : (s.assignments.set nid ((s.assignments.payload nid).copyWith ev.set)).payload
        nid = (s.assignments.payload nid).copyWith ev.set := Function.update_self _ _ _
    rw [hchanged]
    cases hanswer : (call nid (s.clients nid)
        (.configure ((s.assignments.payload nid).copyWith ev.set))).2 with
    | reply resp blob =>
      dsimp only
      rw [h _ hget resp blob hanswer, Assignments.set_self]
    | controlError message => exact Assignments.set_set _ _ _
    | raised exc => exact Assignments.set_set _ _ _
  · have hget : s.assignments.get nid = none := if_neg hkey
    rw [hget]

/-- **An event whose settings change nothing leaves the assignments as they were.** -/
theorem applyEvent_assignments {ev : ScheduledEvent K V} {p : Progress σ K V} {targets : List ℤ}
    (h : Guarded (applyTo call ev) (Harmless call ev) ⟨p.clients, p.assignments, [], [], []⟩
      targets) : (applyEvent call ev p targets).assignments = p.assignments :=
  h.invariant (P := fun s ↦ s.assignments = p.assignments)
    (fun _ _ hs hok ↦ (applyTo_assignments call hok).trans hs) rfl

/-- **An undisturbed run leaves the table as it was.** -/
theorem run_leaves {m : RunManifest K V} {clients : ℤ → σ} {assignments : Assignments V}
    {plan : RunPlan K} (h : Undisturbed call m clients assignments plan) :
    (ExperimentRunner.run call m clients assignments plan).assignments = assignments := by
  obtain hsame | ⟨hopen, heq⟩ := run_assignments call m clients assignments plan
  · exact hsame
  · rw [heq]
    refine (h hopen).invariant (P := fun p ↦ p.assignments = assignments) (fun p ev hp hok ↦ ?_)
      (assignments_triggered call m clients assignments plan)
    rw [Progress.schedule]
    by_cases hlate : plan.duration_s ≤ ev.at_s
    · rw [if_pos hlate]
      exact hp
    · rw [if_neg hlate]
      exact (applyEvent_assignments call (hok (not_le.1 hlate))).trans hp

end Left

/-! ### Independence of the history -/

section History

variable [IsStrictOrderedRing K] {σ : Type} (np : Numpy K) (manifest : ExperimentManifest K)
  (run_index : ℤ) (call : ℤ → σ → Command K (Json K) → σ × Outcome)

omit [Field K] [LinearOrder K] [IsStrictOrderedRing K] in
/-- The last value of a field is the one that counts. -/
theorem copyWith_copyWith {V : Type} (p : Payload V) (field : String) (v w : V) :
    (p.copyWith [(field, v)]).copyWith [(field, w)] = p.copyWith [(field, w)] := by
  funext f
  rw [Payload.copyWith, Payload.copyWith, Payload.copyWith]
  cases hfield : f == field with
  | true => simp [List.lookup_cons, hfield]
  | false => simp [List.lookup_cons, hfield]

omit [Field K] [LinearOrder K] [IsStrictOrderedRing K] in
/-- Copying with the value that a field has already changes nothing. -/
theorem copyWith_self {V : Type} {p : Payload V} {field : String} {v : V} (h : p field = some v) :
    p.copyWith [(field, v)] = p := by
  funext f
  rw [Payload.copyWith]
  cases hfield : f == field with
  | true =>
    obtain rfl := eq_of_beq hfield
    simp [h]
  | false => simp [List.lookup_cons, hfield]

omit [Field K] [LinearOrder K] [IsStrictOrderedRing K] in
/-- An override to the period that every entry has changes nothing. -/
theorem withPublishPeriod_self {a : Assignments (Json K)} {publish_period : K}
    (h : ∀ nid ∈ a.keys, a.payload nid "publish_period_s" = some (.num publish_period)) :
    withPublishPeriod (some publish_period) a = a := by
  have hpayload : (withPublishPeriod (some publish_period) a).payload = a.payload := by
    funext nid
    show (if nid ∈ a.keys then _ else _) = _
    split_ifs with hkey
    · exact copyWith_self (h nid hkey)
    · rfl
  exact congrArg (fun payload ↦ ({ a with payload := payload } : Assignments (Json K))) hpayload

namespace Hub

/-- **Nothing is taken from the table**: a switch of arms meets no override that its assignments do
not have anyway, and a run is undisturbed. -/
def Kept (s : Hub σ K) : HubOp K → Prop
  | .setArm arm => ∀ a, armTable np manifest run_index (some arm) = some a →
      withPublishPeriod s.override a = a
  | .overridePublish _ => True
  | .run plan => Undisturbed call (runManifest manifest) s.clients s.assignments plan

/-- The table is that of a fresh runner. -/
def Fresh (s : Hub σ K) : Prop := fresh np manifest run_index s.arm s.override = some s.assignments

omit [Field K] [LinearOrder K] [IsStrictOrderedRing K] in
/-- The last override is the one that counts. -/
theorem withPublishPeriod_override (override : Option K) (publish_period : K)
    (a : Assignments (Json K)) :
    withPublishPeriod (some publish_period) (withPublishPeriod override a) =
      withPublishPeriod (some publish_period) a := by
  cases override with
  | none => rfl
  | some earlier =>
    dsimp only [withPublishPeriod]
    congr 1
    funext nid
    split_ifs with hkey
    · exact copyWith_copyWith _ _ _ _
    · rfl

/-- **A kept operation leaves the table of the arm and the override as they were asked for.** -/
theorem fresh_step {s : Hub σ K} {op : HubOp K} (h : s.Fresh np manifest run_index)
    (hop : s.Kept np manifest run_index call op) :
    (s.step np manifest run_index call op).Fresh np manifest run_index := by
  cases op with
  | setArm arm =>
    rw [step]
    cases htable : armTable np manifest run_index (some arm) with
    | none => exact h
    | some a =>
      show fresh np manifest run_index (some arm) s.override = some a
      rw [fresh, htable, Option.map_some, hop a htable]
  | overridePublish publish_period =>
    obtain ⟨a, ha, heq⟩ := Option.map_eq_some_iff.1 h
    show fresh np manifest run_index s.arm (some publish_period) =
      some (withPublishPeriod (some publish_period) s.assignments)
    rw [fresh, ha, ← heq, withPublishPeriod_override, Option.map_some]
  | run plan =>
    have hleft : (s.runFrom manifest call plan).assignments = s.assignments := run_leaves call hop
    show fresh np manifest run_index s.arm s.override =
      some (s.runFrom manifest call plan).assignments
    rw [hleft]
    exact h

/-- The hub at its start, with the table that the manifest gives it. -/
def init (clients : ℤ → σ) (assignments : Assignments (Json K)) : Hub σ K :=
  ⟨clients, assignments, none, none⟩

/-- **Every run configures as a fresh runner would**, whatever the hub did before, as long as
nothing was taken from its table: the same nodes, with the same payloads. -/
theorem run_history_independent (clients : ℤ → σ) {assignments : Assignments (Json K)}
    (hstart : assignments_for np manifest run_index = .ok assignments) {ops : List (HubOp K)}
    (hkept : Guarded (step np manifest run_index call) (Kept np manifest run_index call)
      (init clients assignments) ops) (plan : RunPlan K) :
    ∃ a, fresh np manifest run_index
        (run (step np manifest run_index call) (init clients assignments) ops).arm
        (run (step np manifest run_index call) (init clients assignments) ops).override = some a ∧
      ∀ nid payload,
        Emitted ((run (step np manifest run_index call) (init clients assignments) ops).runFrom
            manifest call plan).batches (.sent .configure nid (.configure payload)) ↔
          Emitted (ExperimentRunner.run call (runManifest manifest) clients a plan).batches
            (.sent .configure nid (.configure payload)) := by
  have hinit : (init clients assignments : Hub σ K).Fresh np manifest run_index := by
    show (armTable np manifest run_index none).map (withPublishPeriod none) = some assignments
    rw [armTable, hstart]
    rfl
  have hfresh := hkept.invariant (P := Fresh np manifest run_index)
    (fun _ _ h hop ↦ fresh_step np manifest run_index call h hop) hinit
  refine ⟨_, hfresh, fun nid payload ↦ ?_⟩
  rw [runFrom, run_sent_iff, run_sent_iff]

/-- **Some node is configured other than by a fresh runner.** -/
def Leaks (s : Hub σ K) (plan : RunPlan K) : Prop :=
  ∃ a, fresh np manifest run_index s.arm s.override = some a ∧ ∃ nid payload,
    Emitted (s.runFrom manifest call plan).batches (.sent .configure nid (.configure payload)) ∧
    ¬Emitted (ExperimentRunner.run call (runManifest manifest) s.clients a plan).batches
      (.sent .configure nid (.configure payload))

/-- A hub leaks whose table is not the fresh one. -/
theorem leaks_of_ne {s : Hub σ K} {plan : RunPlan K} {a : Assignments (Json K)} {nid : ℤ}
    (hfresh : fresh np manifest run_index s.arm s.override = some a)
    (hids : ∀ i ∈ participants s.assignments plan, i ∈ s.assignments.keys)
    (hnid : nid ∈ participants s.assignments plan)
    (hne : s.assignments.payload nid ≠ a.payload nid) :
    s.Leaks np manifest run_index call plan := by
  refine ⟨a, hfresh, nid, s.assignments.payload nid, ?_, fun he ↦ ?_⟩
  · rw [runFrom, run_sent_iff]
    exact ⟨hids, hnid, rfl⟩
  · exact hne ((run_sent_iff _ _ _ _ _).1 he).2.2

end Hub

end History

/-! ### The pair -/

/-- A channel on which every command is answered. -/
def obligingCall : ℤ → Unit → Command ℚ (Json ℚ) → Unit × Outcome :=
  fun _ _ _ ↦ ((), .reply ⟨true, .json, none, none, 0, ""⟩ [])

/-- A run of the first node. -/
def firstPlan : RunPlan ℚ := ⟨"r0", 10, 0, some {1}⟩

/-- The table of a manifest of the pair. -/
def pairTable (manifest : ExperimentManifest ℚ) : Assignments (Json ℚ) :=
  match assignments_for pairNumpy manifest 0 with
  | .error _ => ⟨∅, fun _ _ ↦ none⟩
  | .ok a => a

/-- The hub of a manifest of the pair after some steps. -/
def pairHub (manifest : ExperimentManifest ℚ) (ops : List (HubOp ℚ)) : Hub Unit ℚ :=
  run (Hub.step pairNumpy manifest 0 obligingCall) (Hub.init (fun _ ↦ ()) (pairTable manifest)) ops

/-- A value that is a flag. -/
def flagOf : Option (Json ℚ) → Option Bool
  | some (.bool b) => some b
  | _ => none

/-- A value that is a number. -/
def numberOf : Option (Json ℚ) → Option ℚ
  | some (.num x) => some x
  | _ => none

/-- What shows as a flag is that flag. -/
theorem eq_of_flagOf : ∀ {v : Option (Json ℚ)} {b : Bool}, flagOf v = some b → v = some (.bool b)
  | some (.bool _), _, rfl => rfl

/-- What shows as a number is that number. -/
theorem eq_of_numberOf : ∀ {v : Option (Json ℚ)} {x : ℚ}, numberOf v = some x → v = some (.num x)
  | some (.num _), _, rfl => rfl

/-- One node takes part in the first run. -/
theorem participants_firstPlan (a : Assignments (Json ℚ)) : participants a firstPlan = [1] :=
  Finset.sort_singleton _ _

/-- It is one of the table's. -/
theorem firstPlan_known {a : Assignments (Json ℚ)} (h : 1 ∈ a.keys) :
    ∀ i ∈ participants a firstPlan, i ∈ a.keys := by
  simpa only [participants_firstPlan, List.forall_mem_singleton] using h

theorem one_firstPlan (a : Assignments (Json ℚ)) : 1 ∈ participants a firstPlan := by
  rw [participants_firstPlan]
  exact List.mem_singleton.2 rfl

/-- A manifest of the pair under `DZ`. -/
def underDZ (manifest : ExperimentManifest ℚ) : ExperimentManifest ℚ :=
  Arm.DZ.manifest manifest ⟨pairMicrogrid, pairMicrogrid_valid⟩

/-- Under the arm `DZ` the table is the manifest's with the adaptive interface. -/
theorem armTable_dz {manifest : ExperimentManifest ℚ}
    (hmg : manifest.1.controller.1.microgrid = some ⟨pairMicrogrid, pairMicrogrid_valid⟩)
    (hok : assignments_for pairNumpy (underDZ manifest) 0 = .ok (pairTable (underDZ manifest))) :
    armTable pairNumpy manifest 0 (some "DZ") = some (pairTable (underDZ manifest)) := by
  have harm : arm_manifest manifest "DZ" = .ok (underDZ manifest) := arm_manifest_eq .DZ hmg
  rw [armTable, harm]
  show (assignments_for pairNumpy (underDZ manifest) 0).toOption = _
  rw [hok]
  rfl

/-! ### A history that takes nothing away -/

/-- An event that switches node 1 on, five seconds into the run. -/
def enableFields : EventFields ℚ := ⟨5, [1], [("enabled", .bool true)]⟩

theorem enableFields_valid : enableFields.Valid := by decide +kernel

/-- The pair, whose first node, enabled as it is, an event enables. -/
def quietPair : ExperimentManifest ℚ :=
  ⟨{ pairFields (0, 0) with events := [⟨enableFields, enableFields_valid⟩] },
    pairFields_zero_valid⟩

/-- The override that says what the manifest does, a switch to `DZ`, and a run with its event. -/
def quietOps : List (HubOp ℚ) :=
  [.overridePublish (1 / 8), .setArm "DZ", .run firstPlan]

/-- The table of the pair without events, under the arm. -/
theorem armTable_quiet :
    armTable pairNumpy quietPair 0 (some "DZ") = some (pairTable (underDZ quietPair)) :=
  armTable_dz rfl rfl

/-- Its publish period is the one that the override asks for. -/
theorem quietPair_period : ∀ nid ∈ (pairTable (underDZ quietPair)).keys,
    (pairTable (underDZ quietPair)).payload nid "publish_period_s" = some (.num (1 / 8)) := by
  have hkeys : (pairTable (underDZ quietPair)).keys = {1, 2} := by decide +kernel
  rw [hkeys]
  intro nid hnid
  rcases Finset.mem_insert.1 hnid with rfl | hnid
  · exact eq_of_numberOf (by decide +kernel)
  · obtain rfl := Finset.mem_singleton.1 hnid
    exact eq_of_numberOf (by decide +kernel)

/-- The hub of the pair under `DZ`, before its run. -/
theorem quietHub :
    pairHub quietPair [.overridePublish (1 / 8), .setArm "DZ"] =
      ⟨fun _ ↦ (), pairTable (underDZ quietPair), some "DZ", some (1 / 8)⟩ := by
  show Hub.step pairNumpy quietPair 0 obligingCall
    (pairHub quietPair [.overridePublish (1 / 8)]) (.setArm "DZ") = _
  rw [Hub.step, armTable_quiet]
  rfl

/-- The event finds the node as it would have it. -/
theorem quietPair_undisturbed :
    Undisturbed obligingCall (runManifest quietPair) (fun _ ↦ ())
      (pairTable (underDZ quietPair)) firstPlan := by
  intro _
  refine guarded_cons.2 ⟨fun _ ↦ ?_, guarded_nil _⟩
  have htargets : (runEvent ⟨enableFields, enableFields_valid⟩ : ScheduledEvent ℚ (Json ℚ)).targets
      (participants (pairTable (underDZ quietPair)) firstPlan) = [1] := by
    rw [participants_firstPlan]
    rfl
  rw [htargets]
  refine guarded_cons.2 ⟨fun a ha _ _ _ ↦ ?_, guarded_nil _⟩
  have hkey : 1 ∈ (pairTable (underDZ quietPair)).keys := by decide +kernel
  obtain rfl : (pairTable (underDZ quietPair)).payload 1 = a := by
    have hget : (pairTable (underDZ quietPair)).get 1 = some a := ha
    rw [Assignments.get, if_pos hkey] at hget
    exact Option.some.inj hget
  exact copyWith_self (eq_of_flagOf (by decide +kernel))

/-- So every operation of the history is kept: the override changes nothing, and neither does a run.
-/
theorem quietPair_kept :
    Guarded (Hub.step pairNumpy quietPair 0 obligingCall)
      (Hub.Kept pairNumpy quietPair 0 obligingCall)
      (Hub.init (fun _ ↦ ()) (pairTable quietPair)) quietOps := by
  refine guarded_cons.2 ⟨trivial,
    guarded_cons.2 ⟨fun a ha ↦ ?_, guarded_cons.2 ⟨?_, guarded_nil _⟩⟩⟩
  · rw [armTable_quiet] at ha
    cases ha
    exact withPublishPeriod_self quietPair_period
  · show Undisturbed obligingCall (runManifest quietPair)
      (pairHub quietPair [.overridePublish (1 / 8), .setArm "DZ"]).clients
      (pairHub quietPair [.overridePublish (1 / 8), .setArm "DZ"]).assignments firstPlan
    rw [quietHub]
    exact quietPair_undisturbed

/-- The history leaves its arm and its override behind it. -/
theorem quietOps_hub :
    (pairHub quietPair quietOps).arm = some "DZ" ∧
      (pairHub quietPair quietOps).override = some (1 / 8) := by
  have hrun : pairHub quietPair quietOps = Hub.step pairNumpy quietPair 0 obligingCall
      (pairHub quietPair [.overridePublish (1 / 8), .setArm "DZ"]) (.run firstPlan) := rfl
  rw [hrun, quietHub]
  exact ⟨rfl, rfl⟩

/-- The run after that history, beside the run of a fresh hub with the same arm and override. -/
theorem run_history_independent_pair :
    ∃ a, fresh pairNumpy quietPair 0 (some "DZ") (some (1 / 8)) = some a ∧ ∀ nid payload,
      Emitted ((pairHub quietPair quietOps).runFrom quietPair obligingCall firstPlan).batches
          (.sent .configure nid (.configure payload)) ↔
        Emitted (ExperimentRunner.run obligingCall (runManifest quietPair) (fun _ ↦ ()) a
          firstPlan).batches (.sent .configure nid (.configure payload)) := by
  have h := Hub.run_history_independent pairNumpy quietPair 0 obligingCall (fun _ ↦ ())
    (show assignments_for pairNumpy quietPair 0 = .ok (pairTable quietPair) from rfl)
    quietPair_kept firstPlan
  obtain ⟨harm, hoverride⟩ := quietOps_hub
  rw [pairHub] at harm hoverride
  rw [harm, hoverride] at h
  exact h

/-! ### Two that do -/

/-- An event that switches node 1 off, at the same time. -/
def disableFields : EventFields ℚ := ⟨5, [1], [("enabled", .bool false)]⟩

theorem disableFields_valid : disableFields.Valid := by decide +kernel

/-- The pair, whose first node an event disables. -/
def eventPair : ExperimentManifest ℚ :=
  ⟨{ pairFields (0, 0) with events := [⟨disableFields, disableFields_valid⟩] },
    pairFields_zero_valid⟩

/-- The table of the pair with an event, under the arm. -/
theorem armTable_event :
    armTable pairNumpy eventPair 0 (some "DZ") = some (pairTable (underDZ eventPair)) :=
  armTable_dz rfl rfl

/-- The second of two repeats configures the node that the event of the first has disabled as
disabled, and an arm is configured without the override. -/
theorem repeats_and_arms_leak :
    (pairHub eventPair [.run firstPlan]).Leaks pairNumpy eventPair 0 obligingCall firstPlan ∧
    (pairHub eventPair [.overridePublish (1 / 4), .setArm "DZ"]).Leaks pairNumpy eventPair 0
      obligingCall firstPlan := by
  constructor
  · have hkey : 1 ∈ (pairHub eventPair [.run firstPlan]).assignments.keys := by decide +kernel
    have hleft : flagOf ((pairHub eventPair [.run firstPlan]).assignments.payload 1 "enabled") =
        some false := by decide +kernel
    have hfresh : flagOf ((pairTable eventPair).payload 1 "enabled") = some true := by
      decide +kernel
    have hne : (pairHub eventPair [.run firstPlan]).assignments.payload 1 ≠
        (pairTable eventPair).payload 1 := by
      intro h
      rw [h, hfresh] at hleft
      exact absurd hleft (by decide)
    exact Hub.leaks_of_ne pairNumpy eventPair 0 obligingCall rfl (firstPlan_known hkey)
      (one_firstPlan _) hne
  · have hhub : pairHub eventPair [.overridePublish (1 / 4), .setArm "DZ"] =
        ⟨fun _ ↦ (), pairTable (underDZ eventPair), some "DZ", some (1 / 4)⟩ := by
      show Hub.step pairNumpy eventPair 0 obligingCall
        (pairHub eventPair [.overridePublish (1 / 4)]) (.setArm "DZ") = _
      rw [Hub.step, armTable_event]
      rfl
    have hkey : 1 ∈ (pairTable (underDZ eventPair)).keys := by decide +kernel
    have hleft :
        numberOf ((pairTable (underDZ eventPair)).payload 1 "publish_period_s") = some (1 / 8) := by
      decide +kernel
    have hfresh : fresh pairNumpy eventPair 0 (some "DZ") (some (1 / 4)) =
        some (withPublishPeriod (some (1 / 4)) (pairTable (underDZ eventPair))) := by
      rw [fresh, armTable_event, Option.map_some]
    have hne : (pairTable (underDZ eventPair)).payload 1 ≠
        (withPublishPeriod (some (1 / 4)) (pairTable (underDZ eventPair))).payload 1 := by
      intro h
      rw [h] at hleft
      exact absurd hleft (by decide +kernel)
    rw [hhub]
    exact Hub.leaks_of_ne pairNumpy eventPair 0 obligingCall hfresh (firstPlan_known hkey)
      (one_firstPlan _) hne

end VertexTestbed.Host
