import VertexTestbed.Host.ControlClient
import VertexTestbed.Lib.Interleaving
import Mathlib.Data.Finset.Sort

/-!
# One run of the hub

`hub/runner.py`: the phases of `ExperimentRunner.run`, over the channels to the agents. A channel is
a function `call` from the state of a node's client and a command to the client it leaves and what
the command comes to; nothing else is known of it.

`gather` runs one task for every node of the run, and its batch is what the tasks emit: the traces
of a run are the interleavings of its batches, one after another. Each task works on its own node's
client and its own node's outcome, so what a batch computes does not depend on the interleaving.
-/

namespace VertexTestbed.Host

/-! ### Assignments, events and commands -/

/-- An assignment as `model_dump` shows it: what each field holds. -/
abbrev Payload (V : Type) := String → Option V

/-- `model_copy(update=fields)`. -/
def Payload.copyWith {V : Type} (p : Payload V) (fields : List (String × V)) : Payload V :=
  fun field ↦ (fields.lookup field).or (p field)

/-- `ExperimentRunner.assignments`: its keys, and what each holds. -/
structure Assignments (V : Type) where
  keys : Finset ℤ
  payload : ℤ → Payload V

namespace Assignments

variable {V : Type}

/-- `assignments.get`. -/
def get (a : Assignments V) (nid : ℤ) : Option (Payload V) :=
  if nid ∈ a.keys then some (a.payload nid) else none

/-- `assignments[nid] = p`, for a key that is there. -/
def set (a : Assignments V) (nid : ℤ) (p : Payload V) : Assignments V :=
  { a with payload := Function.update a.payload nid p }

end Assignments

/-- `ScheduledEvent.FROZEN`. -/
def FROZEN : List String := ["reference", "pinned", "coordination"]

/-- `ScheduledEvent`, as its validators leave it. -/
structure ScheduledEvent (K V : Type) [Zero K] [LT K] where
  at_s : K
  nodes : List ℤ
  set : List (String × V)
  at_pos : 0 < at_s
  nodes_ne : nodes ≠ []
  set_ne : set ≠ []
  unfrozen : ∀ field ∈ FROZEN, field ∉ set.map Prod.fst

/-- What a run asks of an agent. -/
inductive Command (K V : Type) where
  | configure (payload : Payload V)
  | start (run_name : String) (epoch_unix_s : K)
  | stop
  | fetch (run_name artifact : String)

/-- `Request.command`. -/
def Command.name {K V : Type} : Command K V → String
  | .configure _ => "configure"
  | .start _ _ => "start"
  | .stop => "stop"
  | .fetch _ _ => "fetch"

/-- What a phase of a run appends to a node's errors when the command comes to a `ControlError`. -/
def Command.errorText {K V : Type} (cmd : Command K V) (message : String) : String :=
  match cmd with
  | .configure _ => s!"configure: {message}"
  | .start _ _ => s!"start: {message}"
  | .stop => s!"stop: {message}"
  | .fetch _ artifact => s!"fetch {artifact}: {message}"

/-! ### The report -/

/-- `NodeOutcome`. With the name of a collected file stand the bytes written to it. -/
structure NodeOutcome where
  node_id : ℤ
  node_type : String
  address : String
  configured : Bool
  started : Bool
  stopped : Bool
  samples : ℤ
  files : List (String × String × List UInt8)
  errors : List String

/-- `NodeOutcome.ok`. -/
def NodeOutcome.ok (o : NodeOutcome) : Bool := o.configured && o.started && o.errors.isEmpty

/-- An entry of `RunReport.notes`. -/
inductive Note (K V : Type) where
  | skipped (at_s duration_s : K)
  | applied (at_s : K) (set : List (String × V)) (applied wanted : List ℤ)
  | failed (at_s : K) (nid : ℤ) (exc : String)

/-- `RunReport`. -/
structure RunReport (K V : Type) where
  run_name : String
  manifest : String
  epoch_unix_s : K
  duration_s : K
  nodes : List NodeOutcome
  out_dir : Option String
  notes : List (Note K V)

/-- `RunReport.ok`. -/
def RunReport.ok {K V : Type} (r : RunReport K V) : Bool :=
  !r.nodes.isEmpty && r.nodes.all NodeOutcome.ok

/-! ### What a run puts on the channels -/

/-- The phases of `run`. -/
inductive RunPhase where
  | clear_stale
  | configure
  | start
  | event
  | stop
  | collect
  deriving DecidableEq

/-- A command going out, and a command coming to its end. -/
inductive HubEvent (K V : Type) where
  | sent (phase : RunPhase) (nid : ℤ) (cmd : Command K V)
  | answered (phase : RunPhase) (nid : ℤ) (cmd : Command K V) (outcome : Outcome)

/-- A command and its end. -/
def exchange {K V : Type} (phase : RunPhase) (nid : ℤ) (cmd : Command K V) (o : Outcome) :
    List (HubEvent K V) :=
  [.sent phase nid cmd, .answered phase nid cmd o]

/-- A task at its end: the node's client and outcome, what the task let through, and its events. -/
structure Done (σ K V : Type) where
  client : σ
  out : NodeOutcome
  raised : Option String
  events : List (HubEvent K V)

/-! ### The tasks -/

section Tasks

variable {σ K V : Type} (call : ℤ → σ → Command K V → σ × Outcome)

/-- One command whose `ControlError` is recorded and whose reply is put to use by `keep`. -/
def attempt (phase : RunPhase) (cmd : Command K V)
    (keep : Response → List UInt8 → NodeOutcome → NodeOutcome) (out : NodeOutcome) (c : σ) :
    Done σ K V :=
  let answer := call out.node_id c cmd
  { client := answer.1
    out :=
      match answer.2 with
      | .reply resp blob => keep resp blob out
      | .controlError message => { out with errors := out.errors ++ [cmd.errorText message] }
      | .raised _ => out
    raised :=
      match answer.2 with
      | .raised exc => some exc
      | _ => none
    events := exchange phase out.node_id cmd answer.2 }

/-- `_clear_stale`: whatever the `stop` comes to, nothing is recorded. -/
def clearStale (out : NodeOutcome) (c : σ) : Done σ K V :=
  let answer := call out.node_id c .stop
  { client := answer.1
    out := out
    raised := none
    events := exchange .clear_stale out.node_id .stop answer.2 }

/-- `_configure_one`. -/
def configureOne (assignments : Assignments V) (out : NodeOutcome) (c : σ) : Done σ K V :=
  attempt call .configure (.configure (assignments.payload out.node_id))
    (fun _ _ out ↦ { out with configured := true }) out c

/-- `_start_one`. -/
def startOne (run_name : String) (epoch_unix_s : K) (out : NodeOutcome) (c : σ) : Done σ K V :=
  attempt call .start (.start run_name epoch_unix_s)
    (fun _ _ out ↦ { out with started := true }) out c

/-- `_stop_one`. -/
def stopOne (out : NodeOutcome) (c : σ) : Done σ K V :=
  attempt call .stop .stop
    (fun resp _ out ↦ { out with stopped := true, samples := resp.samples.getD 0 }) out c

/-- One round of the loop of `_collect_one`. -/
def fetchOne (run_name artifact : String) (out : NodeOutcome) (c : σ) : Done σ K V :=
  attempt call .collect (.fetch run_name artifact)
    (fun resp blob out ↦
      let name := if resp.name = "" then s!"{out.node_id}.{artifact}" else resp.name
      { out with files := out.files ++ [(artifact, name, blob)] }) out c

/-- `_collect_one`: a `ControlError` moves on to the next artefact, anything else ends the loop. -/
def collectFrom (run_name : String) : List String → NodeOutcome → σ → Done σ K V
  | [], out, c => ⟨c, out, none, []⟩
  | artifact :: artifacts, out, c =>
    let fetched := fetchOne call run_name artifact out c
    if fetched.raised.isSome then fetched
    else
      let rest := collectFrom run_name artifacts fetched.out fetched.client
      { rest with events := fetched.events ++ rest.events }

/-- The artefacts that are fetched of a node. -/
def ARTIFACTS : List String := ["meta", "rows"]

/-- `_collect_one`. -/
def collectOne (run_name : String) (out : NodeOutcome) (c : σ) : Done σ K V :=
  collectFrom call run_name ARTIFACTS out c

end Tasks

/-! ### The run -/

/-- What `run` reads of a manifest: its name, its nodes and its events. -/
structure RunManifest (K V : Type) [Zero K] [LT K] where
  name : String
  /-- The type of a node, and `host:port` of its endpoint. -/
  by_id : ℤ → String × String
  events : List (ScheduledEvent K V)

/-- The arguments of `run`, the epoch as it was resolved. -/
structure RunPlan (K : Type) where
  run_name : String
  duration_s : K
  epoch_unix_s : K
  only : Option (Finset ℤ)

/-- `run` under way. -/
structure Progress (σ K V : Type) where
  clients : ℤ → σ
  assignments : Assignments V
  report : RunReport K V
  batches : List (List (List (HubEvent K V)))
  raised : Option String

/-- `run` at its end: what it leaves, what it put on the channels, what it returned or raised, and
the record it wrote. -/
structure RunResult (σ K V : Type) where
  clients : ℤ → σ
  assignments : Assignments V
  batches : List (List (List (HubEvent K V)))
  report : Except String (RunReport K V)
  record : Option (RunReport K V)

namespace Progress

variable {σ K V : Type}

/-- `asyncio.gather` of one task a node. Where several tasks raise, the first in the order of the
nodes stands for the one that is let through. -/
def gather (task : NodeOutcome → σ → Done σ K V) (p : Progress σ K V) : Progress σ K V :=
  let tasks := p.report.nodes.map fun out ↦ task out (p.clients out.node_id)
  { p with
    clients := fun nid ↦
      ((tasks.find? fun d ↦ d.out.node_id = nid).map Done.client).getD (p.clients nid)
    report := { p.report with nodes := tasks.map Done.out }
    batches := p.batches ++ [tasks.map Done.events]
    raised := tasks.findSome? Done.raised }

/-- An exception leaves `run`. -/
def abort (p : Progress σ K V) (exc : String) : RunResult σ K V :=
  ⟨p.clients, p.assignments, p.batches, .error exc, none⟩

/-- What comes of `run` when a phase has ended in `p` and the rest of it would come to `rest`. -/
def next (p : Progress σ K V) (rest : RunResult σ K V) : RunResult σ K V :=
  match p.raised with
  | some exc => p.abort exc
  | none => rest

/-- `return report`, `record` being what `_write_run_json` has written. -/
def finish (p : Progress σ K V) (record : Option (RunReport K V)) : RunResult σ K V :=
  ⟨p.clients, p.assignments, p.batches, .ok p.report, record⟩

/-- Whether the barrier opens. -/
def allConfigured (p : Progress σ K V) : Bool := p.report.nodes.all NodeOutcome.configured

/-- What a closed barrier tells the nodes that were configured. -/
def notStarted (p : Progress σ K V) : Progress σ K V :=
  let bad := (p.report.nodes.filter fun o ↦ !o.configured).map NodeOutcome.node_id
  let tell (o : NodeOutcome) : NodeOutcome :=
    if o.configured then
      { o with errors := o.errors ++ [s!"not started: nodes {bad} failed to configure"] }
    else o
  { p with report := { p.report with nodes := p.report.nodes.map tell } }

end Progress

section Run

variable {σ K V : Type} [Zero K] [LinearOrder K] (call : ℤ → σ → Command K V → σ × Outcome)

/-- `_apply_event` under way: the nodes that took the change, and the failures. -/
structure Applying (σ K V : Type) where
  clients : ℤ → σ
  assignments : Assignments V
  done : List ℤ
  failures : List (Note K V)
  events : List (HubEvent K V)

/-- One round of the loop of `_apply_event`. The table takes the change first, and takes it back
where the command fails, whatever the failure. -/
def applyTo (ev : ScheduledEvent K V) (s : Applying σ K V) (nid : ℤ) : Applying σ K V :=
  match s.assignments.get nid with
  | none => s
  | some a =>
    let changed := s.assignments.set nid (a.copyWith ev.set)
    let cmd := .configure (changed.payload nid)
    let answer := call nid (s.clients nid) cmd
    let s : Applying σ K V :=
      { s with
        clients := Function.update s.clients nid answer.1
        events := s.events ++ exchange .event nid cmd answer.2 }
    match answer.2 with
    | .reply _ _ => { s with assignments := changed, done := s.done ++ [nid] }
    | .controlError exc | .raised exc =>
      { s with
        assignments := changed.set nid a
        failures := s.failures ++ [.failed ev.at_s nid exc] }

/-- `_apply_event`. -/
def applyEvent (ev : ScheduledEvent K V) (p : Progress σ K V) (targets : List ℤ) :
    Applying σ K V :=
  targets.foldl (applyTo call ev) ⟨p.clients, p.assignments, [], [], []⟩

/-- The nodes of the run that an event names. -/
def ScheduledEvent.targets (ev : ScheduledEvent K V) (ids : List ℤ) : List ℤ :=
  ev.nodes.filter (· ∈ ids)

/-- One round of the loop of `run` over the events. -/
def Progress.schedule (ids : List ℤ) (duration_s : K) (p : Progress σ K V)
    (ev : ScheduledEvent K V) : Progress σ K V :=
  if duration_s ≤ ev.at_s then
    { p with report := { p.report with notes := p.report.notes ++ [.skipped ev.at_s duration_s] } }
  else
    let applied := applyEvent call ev p (ev.targets ids)
    { p with
      clients := applied.clients
      assignments := applied.assignments
      report :=
        { p.report with
          notes := p.report.notes ++
            .applied ev.at_s ev.set applied.done (ev.targets ids) :: applied.failures }
      batches := p.batches ++ [[applied.events]] }

/-- `sorted(manifest.events, key=lambda e: e.at_s)`. -/
def RunManifest.schedule (m : RunManifest K V) : List (ScheduledEvent K V) :=
  m.events.insertionSort fun e e' ↦ e.at_s ≤ e'.at_s

variable (m : RunManifest K V) (clients : ℤ → σ) (assignments : Assignments V) (plan : RunPlan K)

/-- `ids`. -/
def participants : List ℤ :=
  (plan.only.getD assignments.keys).sort (· ≤ ·)

/-- The run before its first phase. -/
def begun : Progress σ K V where
  clients := clients
  assignments := assignments
  report :=
    { run_name := plan.run_name
      manifest := m.name
      epoch_unix_s := plan.epoch_unix_s
      duration_s := plan.duration_s
      nodes := (participants assignments plan).map fun nid ↦
        { node_id := nid
          node_type := (m.by_id nid).1
          address := (m.by_id nid).2
          configured := false
          started := false
          stopped := false
          samples := 0
          files := []
          errors := [] }
      out_dir := none
      notes := [] }
  batches := []
  raised := none

/-- Phases 0 and 1, which end at the barrier. -/
def configured : Progress σ K V :=
  ((begun m clients assignments plan).gather (clearStale call)).gather
    (configureOne call assignments)

/-- Phase 2. -/
def triggered : Progress σ K V :=
  (configured call m clients assignments plan).gather
    (startOne call plan.run_name plan.epoch_unix_s)

/-- Phase 3: the events, in the order of their offsets. -/
def eventful : Progress σ K V :=
  m.schedule.foldl (Progress.schedule call (participants assignments plan) plan.duration_s)
    (triggered call m clients assignments plan)

/-- Phase 4. -/
def halted : Progress σ K V :=
  (eventful call m clients assignments plan).gather (stopOne call)

/-- The run directory is made, and goes into the report. -/
def withDir (p : Progress σ K V) : Progress σ K V :=
  { p with report := { p.report with out_dir := some plan.run_name } }

/-- Phase 5. -/
def collected : Progress σ K V :=
  (withDir plan (halted call m clients assignments plan)).gather (collectOne call plan.run_name)

/-- `ExperimentRunner.run`. -/
def ExperimentRunner.run : RunResult σ K V :=
  let unknown := (participants assignments plan).filter (· ∉ assignments.keys)
  if unknown ≠ [] then
    (begun m clients assignments plan).abort s!"node ids not in the manifest: {unknown}"
  else
    (configured call m clients assignments plan).next <|
    if (configured call m clients assignments plan).allConfigured = false then
      (configured call m clients assignments plan).notStarted.finish none
    else
      (triggered call m clients assignments plan).next <|
      (halted call m clients assignments plan).next <|
      (collected call m clients assignments plan).next <|
      (collected call m clients assignments plan).finish
        (some (collected call m clients assignments plan).report)

end Run

end VertexTestbed.Host
