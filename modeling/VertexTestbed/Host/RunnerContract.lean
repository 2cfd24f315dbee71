import VertexTestbed.Host.Runner

/-!
# The barrier, the order and the report of a run

What `hub/runner.py` promises of its phases, whatever comes of each command: nothing starts unless
everything was configured, one epoch for the whole fleet, a stop before any fetch, and a report that
says what failed.

`Sound` says what one task may do and `Told` what a run knows so far; `gather` turns the one into
the other. The orderings come from the order of the batches alone, so they hold for every
interleaving.

* `run_ordered`: barrier, one epoch, stop before fetch, on every path that a run can take.
* `run_reported`: a report that is returned tells of every failure of the run's own phases and of
its events, and of nothing else.
-/

namespace VertexTestbed.Host

open Interleaving

variable {σ K V : Type}

/-! ### What a task may do -/

/-- Something the batches emit. -/
def Emitted (batches : List (List (List (HubEvent K V)))) (e : HubEvent K V) : Prop :=
  ∃ b ∈ batches, ∃ t ∈ b, e ∈ t

/-- What two lists of batches have sent is what either has. -/
theorem Emitted.append_iff {first second : List (List (List (HubEvent K V)))} {e : HubEvent K V} :
    Emitted (first ++ second) e ↔ Emitted first e ∨ Emitted second e := by
  simp only [Emitted, List.mem_append, or_and_right, exists_or]

/-- What was sent earlier has been sent. -/
theorem Emitted.earlier {first second : List (List (List (HubEvent K V)))} {e : HubEvent K V}
    (h : Emitted first e) (hbegun : first <+: second) : Emitted second e := by
  obtain ⟨rest, rfl⟩ := hbegun
  exact append_iff.mpr (.inl h)

/-- An event of a phase about a node, with a command that `P` allows. -/
def HubEvent.Of (phase : RunPhase) (P : Command K V → Prop) (nid : ℤ) : HubEvent K V → Prop
  | .sent ph n cmd => ph = phase ∧ n = nid ∧ P cmd
  | .answered ph n cmd _ => ph = phase ∧ n = nid ∧ P cmd

/-- The phases that put a failure among the errors of its node. Those of an event go into the notes,
and a `stop` ahead of the run records nothing. -/
def RunPhase.PutsErrors (phase : RunPhase) : Prop :=
  phase ≠ .clear_stale ∧ phase ≠ .event

/-- **A task is sound**: it emits its phase's commands to its own node, keeps every error, records
every `ControlError` unless the phase records nothing, adds no other error, and marks its node
configured or started only on a reply. -/
structure Sound (phase : RunPhase) (P : Command K V → Prop) (out : NodeOutcome)
    (d : Done σ K V) : Prop where
  node_id : d.out.node_id = out.node_id
  errors : out.errors ⊆ d.out.errors
  emits : ∀ e ∈ d.events, e.Of phase P out.node_id
  recorded : phase ≠ .clear_stale → ∀ cmd message,
    .answered phase out.node_id cmd (.controlError message) ∈ d.events →
      cmd.errorText message ∈ d.out.errors
  caused : ∀ error ∈ d.out.errors, error ∈ out.errors ∨
    phase.PutsErrors ∧ ∃ cmd message, error = cmd.errorText message ∧
      .answered phase out.node_id cmd (.controlError message) ∈ d.events
  configured : d.out.configured = true → out.configured = true ∨ ∃ payload resp blob,
    .answered .configure out.node_id (.configure payload) (.reply resp blob) ∈ d.events
  started : d.out.started = true → out.started = true ∨ ∃ cmd resp blob,
    .answered .start out.node_id cmd (.reply resp blob) ∈ d.events

/-- The commands of `_configure_one` and of `_apply_event`. -/
def IsConfigure (cmd : Command K V) : Prop :=
  ∃ payload, cmd = .configure payload

/-- The commands of `_collect_one`. -/
def IsFetch (run_name : String) (cmd : Command K V) : Prop :=
  ∃ artifact, cmd = .fetch run_name artifact

section Tasks

variable (call : ℤ → σ → Command K V → σ × Outcome)

/-- The stop ahead of a run sends a stop, and changes no report. -/
theorem clearStale_sound (out : NodeOutcome) (c : σ) :
    Sound .clear_stale (fun cmd ↦ cmd = .stop) out (clearStale call out c) where
  node_id := rfl
  errors := List.Subset.refl _
  emits := by
    intro e he
    obtain rfl | rfl := by simpa [clearStale, exchange] using he
    all_goals exact ⟨rfl, rfl, rfl⟩
  recorded := fun h ↦ absurd rfl h
  caused := fun _ ↦ .inl
  configured := .inl
  started := .inl

/-- A task of one command is sound if what it does with a reply touches neither the node nor its
errors, and marks it only in the phase it belongs to. -/
theorem attempt_sound {phase : RunPhase} {P : Command K V → Prop} {cmd : Command K V}
    {keep : Response → List UInt8 → NodeOutcome → NodeOutcome} (hP : P cmd) (out : NodeOutcome)
    (c : σ) (hphase : phase.PutsErrors)
    (hid : ∀ resp blob, (keep resp blob out).node_id = out.node_id)
    (herrors : ∀ resp blob, (keep resp blob out).errors = out.errors)
    (hconfigured : ∀ resp blob, (keep resp blob out).configured = out.configured ∨
      phase = .configure ∧ ∃ payload, cmd = .configure payload)
    (hstarted : ∀ resp blob, (keep resp blob out).started = out.started ∨ phase = .start) :
    Sound phase P out (attempt call phase cmd keep out c) := by
  have hemits : ∀ o, ∀ e ∈ exchange phase out.node_id cmd o, e.Of phase P out.node_id := by
    intro o e he
    obtain rfl | rfl := by simpa [exchange] using he
    all_goals exact ⟨rfl, rfl, hP⟩
  rw [attempt]
  rcases call out.node_id c cmd with ⟨c', o⟩
  dsimp only
  -- A reply is kept, an error goes to the report of its node, anything else is not caught here.
  cases o with
  | reply resp blob =>
    refine ⟨hid resp blob, ?_, hemits _, ?_, fun error h ↦ .inl (herrors resp blob ▸ h), ?_, ?_⟩
    · rw [herrors]
      exact List.Subset.refl _
    · intro _ cmd' message h
      simp [exchange] at h
    · intro h
      obtain hsame | ⟨rfl, payload, rfl⟩ := hconfigured resp blob
      · exact .inl (hsame ▸ h)
      · exact .inr ⟨payload, resp, blob, by simp [exchange]⟩
    · intro h
      obtain hsame | rfl := hstarted resp blob
      · exact .inl (hsame ▸ h)
      · exact .inr ⟨cmd, resp, blob, by simp [exchange]⟩
  | controlError message =>
    refine ⟨rfl, List.subset_append_left _ _, hemits _, ?_, ?_, .inl, .inl⟩
    · intro _ cmd' message' h
      obtain ⟨rfl, rfl⟩ := by simpa [exchange] using h
      exact List.mem_append_right _ List.mem_cons_self
    · intro error h
      obtain h | h := List.mem_append.mp h
      · exact .inl h
      · exact .inr ⟨hphase, cmd, message, List.mem_singleton.mp h, by simp [exchange]⟩
  | raised exc =>
    refine ⟨rfl, List.Subset.refl _, hemits _, ?_, fun _ ↦ .inl, .inl, .inl⟩
    intro _ cmd' message h
    simp [exchange] at h

/-- A configure sends the assignment, and is told by its outcome. -/
theorem configureOne_sound (assignments : Assignments V) (out : NodeOutcome) (c : σ) :
    Sound .configure IsConfigure out
      (configureOne call assignments out c) :=
  attempt_sound call ⟨_, rfl⟩ out c ⟨by decide, by decide⟩ (fun _ _ ↦ rfl) (fun _ _ ↦ rfl)
    (fun _ _ ↦ .inr ⟨rfl, _, rfl⟩) (fun _ _ ↦ .inl rfl)

/-- A start carries the name and the epoch of the run. -/
theorem startOne_sound (run_name : String) (epoch_unix_s : K) (out : NodeOutcome) (c : σ) :
    Sound .start (fun cmd ↦ cmd = .start run_name epoch_unix_s) out
      (startOne call run_name epoch_unix_s out c) :=
  attempt_sound (P := fun cmd ↦ cmd = .start run_name epoch_unix_s) call rfl out c
    ⟨by decide, by decide⟩ (fun _ _ ↦ rfl) (fun _ _ ↦ rfl) (fun _ _ ↦ .inl rfl)
    (fun _ _ ↦ .inr rfl)

/-- A stop sends a stop, and its failure is an error of its node. -/
theorem stopOne_sound (out : NodeOutcome) (c : σ) :
    Sound .stop (fun cmd ↦ cmd = .stop) out (stopOne call out c) :=
  attempt_sound (P := fun cmd ↦ cmd = .stop) call rfl out c
    ⟨by decide, by decide⟩ (fun _ _ ↦ rfl) (fun _ _ ↦ rfl) (fun _ _ ↦ .inl rfl)
    (fun _ _ ↦ .inl rfl)

/-- A fetch asks for an artefact of the run. -/
theorem fetchOne_sound (run_name artifact : String) (out : NodeOutcome) (c : σ) :
    Sound .collect (IsFetch run_name) out (fetchOne call run_name artifact out c) :=
  attempt_sound call ⟨artifact, rfl⟩ out c ⟨by decide, by decide⟩ (fun _ _ ↦ rfl)
    (fun _ _ ↦ rfl) (fun _ _ ↦ .inl rfl) (fun _ _ ↦ .inl rfl)

/-- A sound task followed by another on the outcome it leaves is sound. -/
theorem Sound.andThen {phase : RunPhase} {P : Command K V → Prop} {out : NodeOutcome}
    {d d' : Done σ K V} (h : Sound phase P out d) (h' : Sound phase P d.out d') :
    Sound phase P out { d' with events := d.events ++ d'.events } where
  node_id := h'.node_id.trans h.node_id
  errors := List.Subset.trans h.errors h'.errors
  emits := by
    intro e he
    obtain he | he := List.mem_append.mp he
    · exact h.emits e he
    · exact h.node_id ▸ h'.emits e he
  recorded := by
    intro hphase cmd message he
    obtain he | he := List.mem_append.mp he
    · exact h'.errors (h.recorded hphase cmd message he)
    · exact h'.recorded hphase cmd message (h.node_id.symm ▸ he)
  caused := by
    intro error herror
    rcases h'.caused error herror with herror | ⟨hphase, cmd, message, htext, he⟩
    · rcases h.caused error herror with herror | ⟨hphase, cmd, message, htext, he⟩
      · exact .inl herror
      · exact .inr ⟨hphase, cmd, message, htext, List.mem_append_left _ he⟩
    · exact .inr ⟨hphase, cmd, message, htext, List.mem_append_right _ (h.node_id ▸ he)⟩
  configured := by
    intro hd
    obtain hd | ⟨payload, resp, blob, he⟩ := h'.configured hd
    · obtain hout | ⟨payload, resp, blob, he⟩ := h.configured hd
      · exact .inl hout
      · exact .inr ⟨payload, resp, blob, List.mem_append_left _ he⟩
    · exact .inr ⟨payload, resp, blob, List.mem_append_right _ (h.node_id ▸ he)⟩
  started := by
    intro hd
    obtain hd | ⟨cmd, resp, blob, he⟩ := h'.started hd
    · obtain hout | ⟨cmd, resp, blob, he⟩ := h.started hd
      · exact .inl hout
      · exact .inr ⟨cmd, resp, blob, List.mem_append_left _ he⟩
    · exact .inr ⟨cmd, resp, blob, List.mem_append_right _ (h.node_id ▸ he)⟩

/-- So do the fetches of one node, one after another. -/
theorem collectFrom_sound (run_name : String) (artifacts : List String) (out : NodeOutcome)
    (c : σ) :
    Sound .collect (IsFetch run_name) out (collectFrom call run_name artifacts out c) := by
  induction artifacts generalizing out c with
  | nil =>
    refine ⟨rfl, List.Subset.refl _, ?_, ?_, fun _ ↦ .inl, .inl, .inl⟩
    · intro e he
      exact absurd he List.not_mem_nil
    · intro _ cmd message he
      exact absurd he List.not_mem_nil
  | cons artifact artifacts ih =>
    have hfetched := fetchOne_sound call run_name artifact out c
    rw [collectFrom]
    dsimp only
    split
    · exact hfetched
    · exact hfetched.andThen (ih _ _)

end Tasks
/-! ### What a run knows so far -/

/-- The report tells of a command that came to a `ControlError`: in the errors of its node, or in
the notes for the command of an event. Of a `stop` ahead of the run it tells nothing. -/
def Tells (report : RunReport K V) (phase : RunPhase) (nid : ℤ) (cmd : Command K V)
    (message : String) : Prop :=
  match phase with
  | .clear_stale => True
  | .event => ∃ at_s, .failed at_s nid message ∈ report.notes
  | _ => ∃ o ∈ report.nodes, o.node_id = nid ∧ cmd.errorText message ∈ o.errors

/-- A report that keeps its notes and its errors keeps telling. -/
theorem Tells.mono {r r' : RunReport K V} {phase : RunPhase} {nid : ℤ} {cmd : Command K V}
    {message : String} (h : Tells r phase nid cmd message) (hnotes : r.notes ⊆ r'.notes)
    (hnodes : ∀ o ∈ r.nodes, ∃ o' ∈ r'.nodes, o'.node_id = o.node_id ∧ o.errors ⊆ o'.errors) :
    Tells r' phase nid cmd message := by
  cases phase with
  | clear_stale => trivial
  | event =>
    obtain ⟨at_s, hnote⟩ := h
    exact ⟨at_s, hnotes hnote⟩
  | configure | start | stop | collect =>
    obtain ⟨o, ho, hid, herror⟩ := h
    obtain ⟨o', ho', hid', herrors⟩ := hnodes o ho
    exact ⟨o', ho', hid'.trans hid, herrors herror⟩

/-- Why an error stands with a node: the barrier was closed, or a command of a phase that puts
errors came to a `ControlError`. -/
inductive Cause (answers : HubEvent K V → Prop) (nid : ℤ) : String → Prop
  | barrier (bad : List ℤ) : Cause answers nid s!"not started: nodes {bad} failed to configure"
  | command {phase : RunPhase} (hphase : phase.PutsErrors) {cmd : Command K V} {message : String}
      (h : answers (.answered phase nid cmd (.controlError message))) :
      Cause answers nid (cmd.errorText message)

/-- A cause stays one as more is answered. -/
theorem Cause.mono {answers answers' : HubEvent K V → Prop} {nid : ℤ} {error : String}
    (h : Cause answers nid error) (hle : ∀ e, answers e → answers' e) :
    Cause answers' nid error := by
  cases h with
  | barrier bad => exact .barrier bad
  | command hphase h => exact .command hphase (hle _ h)

/-- A command of an event failed at a node, and what was raised says so. -/
def EventFailed (answers : HubEvent K V → Prop) (nid : ℤ) (exc : String) : Prop :=
  ∃ cmd, answers (.answered .event nid cmd (.controlError exc)) ∨
    answers (.answered .event nid cmd (.raised exc))

/-- Further events leave the causes of an event's failures. -/
theorem EventFailed.append {events : List (HubEvent K V)} {nid : ℤ} {exc : String}
    (h : EventFailed (· ∈ events) nid exc) (more : List (HubEvent K V)) :
    EventFailed (· ∈ events ++ more) nid exc := by
  obtain ⟨cmd, he⟩ := h
  exact ⟨cmd, he.imp (List.mem_append_left _) (List.mem_append_left _)⟩

/-- **What holds all through a run**: its nodes are in the report, a node marked configured or
started has said so, the report tells of every failure so far, and every error and every note of a
failure has a cause. -/
structure Told (ids : List ℤ) (p : Progress σ K V) : Prop where
  nodes : p.report.nodes.map NodeOutcome.node_id = ids
  configured : ∀ o ∈ p.report.nodes, o.configured = true → ∃ payload resp blob,
    Emitted p.batches (.answered .configure o.node_id (.configure payload) (.reply resp blob))
  started : ∀ o ∈ p.report.nodes, o.started = true → ∃ cmd resp blob,
    Emitted p.batches (.answered .start o.node_id cmd (.reply resp blob))
  recorded : ∀ phase nid cmd message,
    Emitted p.batches (.answered phase nid cmd (.controlError message)) →
      Tells p.report phase nid cmd message
  errors : ∀ o ∈ p.report.nodes, ∀ error ∈ o.errors, Cause (Emitted p.batches) o.node_id error
  notes : ∀ at_s nid exc, .failed at_s nid exc ∈ p.report.notes →
    EventFailed (Emitted p.batches) nid exc

/-- A gather sends what its tasks send. -/
theorem emitted_gather {task : NodeOutcome → σ → Done σ K V} {p : Progress σ K V}
    {e : HubEvent K V} :
    Emitted (p.gather task).batches e ↔
      Emitted p.batches e ∨
        ∃ out ∈ p.report.nodes, e ∈ (task out (p.clients out.node_id)).events := by
  rw [Progress.gather, Emitted.append_iff]
  simp [Emitted]

/-- What a batch of sound tasks adds. -/
theorem gather_batches {phase : RunPhase} {P : Command K V → Prop}
    {task : NodeOutcome → σ → Done σ K V} (ht : ∀ out c, Sound phase P out (task out c))
    (p : Progress σ K V) :
    ∃ b, (p.gather task).batches = p.batches ++ [b] ∧
      (∀ e, Emitted [b] e → ∃ nid, e.Of phase P nid) ∧
      ∀ out ∈ p.report.nodes, ∀ e ∈ (task out (p.clients out.node_id)).events, Emitted [b] e := by
  refine ⟨_, rfl, ?_, ?_⟩
  · rintro e ⟨b, hb, t, ht', he⟩
    obtain rfl := List.mem_singleton.mp hb
    simp only [List.map_map, List.mem_map] at ht'
    obtain ⟨out, -, rfl⟩ := ht'
    exact ⟨_, (ht out _).emits e he⟩
  · intro out hout e he
    exact ⟨_, List.mem_singleton.mpr rfl, _, List.mem_map_of_mem (List.mem_map_of_mem hout), he⟩

/-- One batch of sound tasks. -/
theorem Told.gather {ids : List ℤ} {p : Progress σ K V} (h : Told ids p) {phase : RunPhase}
    {P : Command K V → Prop} {task : NodeOutcome → σ → Done σ K V}
    (ht : ∀ out c, Sound phase P out (task out c)) (hphase : phase ≠ .event) :
    Told ids (p.gather task) where
  nodes := by
    rw [← h.nodes]
    simp only [Progress.gather, List.map_map]
    exact List.map_congr_left fun out _ ↦ (ht out _).node_id
  configured := by
    intro o ho hconfigured
    simp only [Progress.gather, List.map_map, List.mem_map] at ho
    obtain ⟨out, hout, rfl⟩ := ho
    have hsound := ht out (p.clients out.node_id)
    obtain hold | ⟨payload, resp, blob, he⟩ := hsound.configured hconfigured
    · obtain ⟨payload, resp, blob, he⟩ := h.configured out hout hold
      exact ⟨payload, resp, blob, emitted_gather.mpr (.inl (hsound.node_id.symm ▸ he))⟩
    · exact ⟨payload, resp, blob,
        emitted_gather.mpr (.inr ⟨out, hout, hsound.node_id.symm ▸ he⟩)⟩
  started := by
    intro o ho hstarted
    simp only [Progress.gather, List.map_map, List.mem_map] at ho
    obtain ⟨out, hout, rfl⟩ := ho
    have hsound := ht out (p.clients out.node_id)
    obtain hold | ⟨cmd, resp, blob, he⟩ := hsound.started hstarted
    · obtain ⟨cmd, resp, blob, he⟩ := h.started out hout hold
      exact ⟨cmd, resp, blob, emitted_gather.mpr (.inl (hsound.node_id.symm ▸ he))⟩
    · exact ⟨cmd, resp, blob, emitted_gather.mpr (.inr ⟨out, hout, hsound.node_id.symm ▸ he⟩)⟩
  recorded := by
    intro ph nid cmd message he
    obtain he | ⟨out, hout, he⟩ := emitted_gather.mp he
    · -- what was told before is still told
      refine (h.recorded ph nid cmd message he).mono (List.Subset.refl _) fun out hout ↦ ?_
      refine ⟨(task out (p.clients out.node_id)).out, ?_, (ht _ _).node_id, (ht _ _).errors⟩
      exact List.mem_map_of_mem (List.mem_map_of_mem hout)
    · have hsound := ht out (p.clients out.node_id)
      obtain ⟨rfl, rfl, -⟩ := hsound.emits _ he
      have hmem : (task out (p.clients out.node_id)).out ∈ (p.gather task).report.nodes :=
        List.mem_map_of_mem (List.mem_map_of_mem hout)
      cases ph with
      | clear_stale => trivial
      | event => exact absurd rfl hphase
      | configure | start | stop | collect =>
        exact ⟨_, hmem, hsound.node_id, hsound.recorded (by simp) cmd message he⟩
  errors := by
    intro o ho error herror
    simp only [Progress.gather, List.map_map, List.mem_map] at ho
    obtain ⟨out, hout, rfl⟩ := ho
    have hsound := ht out (p.clients out.node_id)
    rcases hsound.caused error herror with hold | ⟨hputs, cmd, message, rfl, he⟩
    · exact hsound.node_id.symm ▸ (h.errors out hout error hold).mono fun e he ↦
        emitted_gather.mpr (.inl he)
    · exact .command hputs (emitted_gather.mpr (.inr ⟨out, hout, hsound.node_id.symm ▸ he⟩))
  notes := by
    intro at_s nid exc hnote
    obtain ⟨cmd, he⟩ := h.notes at_s nid exc hnote
    exact ⟨cmd, he.imp (fun he ↦ emitted_gather.mpr (.inl he)) fun he ↦
      emitted_gather.mpr (.inl he)⟩

/-- What the report of a run says, against what went over the channels: every failure of the run's
own phases is an error of its node and every failure of an event a note, and there is no error and
no note of a failure beside. -/
structure Reported (ids : List ℤ) (trace : List (HubEvent K V)) (report : RunReport K V) :
    Prop where
  nodes : report.nodes.map NodeOutcome.node_id = ids
  started : ∀ o ∈ report.nodes, o.started = true → ∃ cmd resp blob,
    .answered .start o.node_id cmd (.reply resp blob) ∈ trace
  recorded : ∀ phase nid cmd message,
    .answered phase nid cmd (.controlError message) ∈ trace → Tells report phase nid cmd message
  errors : ∀ o ∈ report.nodes, ∀ error ∈ o.errors, Cause (· ∈ trace) o.node_id error
  notes : ∀ at_s nid exc, .failed at_s nid exc ∈ report.notes → EventFailed (· ∈ trace) nid exc

/-- At the end of a phase the report tells what was sent. -/
theorem Told.reported {ids : List ℤ} {p : Progress σ K V} (h : Told ids p)
    {trace : List (HubEvent K V)} (ht : Staged p.batches trace) :
    Reported ids trace p.report := by
  refine ⟨h.nodes, fun o ho hstarted ↦ ?_, fun phase nid cmd message he ↦ ?_,
    fun o ho error herror ↦ ?_, fun at_s nid exc hnote ↦ ?_⟩
  · obtain ⟨cmd, resp, blob, he⟩ := h.started o ho hstarted
    exact ⟨cmd, resp, blob, ht.mem_iff.mpr he⟩
  · exact h.recorded phase nid cmd message (ht.mem_iff.mp he)
  · exact (h.errors o ho error herror).mono fun e he ↦ ht.mem_iff.mpr he
  · obtain ⟨cmd, he⟩ := h.notes at_s nid exc hnote
    exact ⟨cmd, he.imp ht.mem_iff.mpr ht.mem_iff.mpr⟩

/-- Making the run directory sends nothing. -/
theorem Told.withDir (plan : RunPlan K) {ids : List ℤ} {p : Progress σ K V} (h : Told ids p) :
    Told ids (withDir plan p) :=
  ⟨h.nodes, h.configured, h.started, fun phase nid cmd message he ↦
    (h.recorded phase nid cmd message he).mono (List.Subset.refl _)
      fun o ho ↦ ⟨o, ho, rfl, List.Subset.refl _⟩, h.errors, h.notes⟩

/-- A closed barrier adds to the errors and takes nothing back. -/
theorem Told.notStarted {ids : List ℤ} {p : Progress σ K V} (h : Told ids p) :
    Told ids p.notStarted := by
  have hkeeps : ∀ o ∈ p.notStarted.report.nodes, ∃ o' ∈ p.report.nodes,
      o.node_id = o'.node_id ∧ o.configured = o'.configured ∧ o.started = o'.started := by
    intro o ho
    obtain ⟨o', ho', rfl⟩ := List.mem_map.mp ho
    refine ⟨o', ho', ?_⟩
    split <;> exact ⟨rfl, rfl, rfl⟩
  refine ⟨?_, ?_, ?_, ?_, ?_, h.notes⟩
  · rw [← h.nodes]
    simp only [Progress.notStarted, List.map_map]
    refine List.map_congr_left fun o _ ↦ ?_
    simp only [Function.comp]
    split <;> rfl
  · intro o ho hconfigured
    obtain ⟨o', ho', hid, hc, -⟩ := hkeeps o ho
    exact hid ▸ h.configured o' ho' (hc ▸ hconfigured)
  · intro o ho hstarted
    obtain ⟨o', ho', hid, -, hs⟩ := hkeeps o ho
    exact hid ▸ h.started o' ho' (hs ▸ hstarted)
  · intro phase nid cmd message he
    refine (h.recorded phase nid cmd message he).mono (List.Subset.refl _) fun o ho ↦ ?_
    refine ⟨_, List.mem_map_of_mem ho, ?_⟩
    split
    · exact ⟨rfl, List.subset_append_left _ _⟩
    · exact ⟨rfl, List.Subset.refl _⟩
  · intro o ho error herror
    obtain ⟨o', ho', rfl⟩ := List.mem_map.mp ho
    split at herror
    · rename_i hconfigured
      rw [if_pos hconfigured]
      rcases List.mem_append.mp herror with herror | herror
      · exact h.errors o' ho' error herror
      · rw [List.mem_singleton.mp herror]
        exact .barrier _
    · rename_i hunconfigured
      rw [if_neg hunconfigured]
      exact h.errors o' ho' error herror

/-! ### Events in the middle of a run -/

section Events

variable [Zero K] [LinearOrder K] (call : ℤ → σ → Command K V → σ × Outcome)

/-- What `_apply_event` has done so far: it has emitted its own commands only, and has a note of
every failure among them and of nothing else. -/
structure Applied (ev : ScheduledEvent K V) (s : Applying σ K V) : Prop where
  emits : ∀ e ∈ s.events, ∃ nid, e.Of .event IsConfigure nid
  recorded : ∀ phase nid cmd message,
    .answered phase nid cmd (.controlError message) ∈ s.events →
      .failed ev.at_s nid message ∈ s.failures
  caused : ∀ at_s nid exc, .failed at_s nid exc ∈ s.failures → EventFailed (· ∈ s.events) nid exc

/-- One node of an event: its failure is kept for the notes. -/
theorem Applied.applyTo {ev : ScheduledEvent K V} {s : Applying σ K V} (h : Applied ev s)
    (nid : ℤ) : Applied ev (applyTo call ev s nid) := by
  have hemits : ∀ payload o, ∀ e ∈ s.events ++ exchange .event nid (.configure payload) o,
      ∃ nid, e.Of .event IsConfigure nid := by
    intro payload o e he
    obtain he | he := List.mem_append.mp he
    · exact h.emits e he
    · obtain rfl | rfl := by simpa [exchange] using he
      all_goals exact ⟨nid, rfl, rfl, payload, rfl⟩
  rw [Host.applyTo]
  cases s.assignments.get nid with
  | none => exact h
  | some a =>
    dsimp only
    split
    · rename_i resp blob _
      refine ⟨hemits _ _, fun phase n cmd message he ↦ ?_,
        fun at_s n exc hnote ↦ (h.caused at_s n exc hnote).append _⟩
      obtain he | he := List.mem_append.mp he
      · exact h.recorded phase n cmd message he
      · simp [exchange, *] at he
    all_goals
      rename_i exc hanswer
      refine ⟨hemits _ _, fun phase n cmd message he ↦ ?_, fun at_s n exc' hnote ↦ ?_⟩
      · obtain he | he := List.mem_append.mp he
        · exact List.mem_append_left _ (h.recorded phase n cmd message he)
        · simp_all [exchange]
      · obtain hnote | hnote := List.mem_append.mp hnote
        · exact (h.caused at_s n exc' hnote).append _
        · obtain ⟨-, rfl, rfl⟩ := Note.failed.inj (List.mem_singleton.mp hnote)
          refine ⟨.configure ((s.assignments.set n (a.copyWith ev.set)).payload n), ?_⟩
          simp [exchange, hanswer]

/-- All nodes of an event. -/
theorem applyEvent_applied (ev : ScheduledEvent K V) (p : Progress σ K V) (targets : List ℤ) :
    Applied ev (applyEvent call ev p targets) := by
  have hnone : Applied ev (⟨p.clients, p.assignments, [], [], []⟩ : Applying σ K V) :=
    ⟨by simp, by simp, by simp⟩
  exact List.foldlRecOn targets (applyTo call ev) hnone fun s hs nid _ ↦ hs.applyTo call nid

/-- One event, skipped or applied. -/
theorem Told.schedule {ids : List ℤ} {p : Progress σ K V} (h : Told ids p)
    (targets : List ℤ) (duration_s : K) (ev : ScheduledEvent K V) :
    Told ids (p.schedule call targets duration_s ev) := by
  rw [Progress.schedule]
  split
  · -- An event beyond the duration is noted and sends nothing.
    refine ⟨h.nodes, h.configured, h.started, fun phase nid cmd message he ↦ ?_, h.errors,
      fun at_s nid exc hnote ↦ h.notes at_s nid exc (by simpa using hnote)⟩
    exact (h.recorded phase nid cmd message he).mono (List.subset_append_left _ _)
      fun o ho ↦ ⟨o, ho, rfl, List.Subset.refl _⟩
  · have happlied := applyEvent_applied call ev p (ev.targets targets)
    have hevents : ∀ e, e ∈ (applyEvent call ev p (ev.targets targets)).events ↔
        Emitted [[(applyEvent call ev p (ev.targets targets)).events]] e := by
      simp [Emitted]
    refine ⟨h.nodes, ?_, ?_, ?_, ?_, ?_⟩
    · intro o ho hconfigured
      obtain ⟨payload, resp, blob, he⟩ := h.configured o ho hconfigured
      exact ⟨payload, resp, blob, Emitted.append_iff.mpr (.inl he)⟩
    · intro o ho hstarted
      obtain ⟨cmd, resp, blob, he⟩ := h.started o ho hstarted
      exact ⟨cmd, resp, blob, Emitted.append_iff.mpr (.inl he)⟩
    · intro phase nid cmd message he
      obtain he | he := Emitted.append_iff.mp he
      · exact (h.recorded phase nid cmd message he).mono (List.subset_append_left _ _)
          fun o ho ↦ ⟨o, ho, rfl, List.Subset.refl _⟩
      · have hmem : .answered phase nid cmd (.controlError message) ∈
            (applyEvent call ev p (ev.targets targets)).events := by
          simpa [Emitted] using he
        -- An error inside an event is kept in the notes, not in the report of its node.
        obtain ⟨n, hphase, -, -⟩ := happlied.emits _ hmem
        subst hphase
        exact ⟨ev.at_s, List.mem_append_right _
          (List.mem_cons_of_mem _ (happlied.recorded _ nid cmd message hmem))⟩
    · intro o ho error herror
      exact (h.errors o ho error herror).mono fun e he ↦ Emitted.append_iff.mpr (.inl he)
    · intro at_s nid exc hnote
      obtain hnote | hnote := List.mem_append.mp hnote
      · obtain ⟨cmd, he⟩ := h.notes at_s nid exc hnote
        exact ⟨cmd, he.imp (fun he ↦ Emitted.append_iff.mpr (.inl he)) fun he ↦
          Emitted.append_iff.mpr (.inl he)⟩
      · obtain hnote | hnote := List.mem_cons.mp hnote
        · cases hnote
        · obtain ⟨cmd, he⟩ := happlied.caused at_s nid exc hnote
          exact ⟨cmd, he.imp (fun he ↦ Emitted.append_iff.mpr (.inr ((hevents _).mp he))) fun he ↦
            Emitted.append_iff.mpr (.inr ((hevents _).mp he))⟩

/-- What an event adds to the batches, and what it leaves alone. -/
theorem schedule_batches (p : Progress σ K V) (targets : List ℤ) (duration_s : K)
    (ev : ScheduledEvent K V) :
    (∃ added, (p.schedule call targets duration_s ev).batches = p.batches ++ added ∧
      ∀ e, Emitted added e → ∃ nid, e.Of .event IsConfigure nid) ∧
    (p.schedule call targets duration_s ev).report.nodes = p.report.nodes := by
  rw [Progress.schedule]
  split
  · exact ⟨⟨[], by simp, by simp [Emitted]⟩, rfl⟩
  · refine ⟨⟨_, rfl, fun e he ↦ ?_⟩, rfl⟩
    exact (applyEvent_applied call ev p (ev.targets targets)).emits e (by simpa [Emitted] using he)

end Events

/-! ### The phases of a run -/

section Run

variable [Zero K] [LinearOrder K] (call : ℤ → σ → Command K V → σ × Outcome)
variable (m : RunManifest K V) (clients : ℤ → σ) (assignments : Assignments V) (plan : RunPlan K)

/-- The report is true before anything is sent. -/
theorem begun_told :
    Told (participants assignments plan) (begun m clients assignments plan) where
  nodes := by simp [begun, Function.comp_def]
  configured := by
    intro o ho hconfigured
    obtain ⟨nid, -, rfl⟩ := List.mem_map.mp ho
    exact absurd hconfigured Bool.false_ne_true
  started := by
    intro o ho hstarted
    obtain ⟨nid, -, rfl⟩ := List.mem_map.mp ho
    exact absurd hstarted Bool.false_ne_true
  recorded := by
    rintro phase nid cmd message ⟨b, hb, -⟩
    exact absurd hb List.not_mem_nil
  errors := by
    intro o ho error herror
    obtain ⟨nid, -, rfl⟩ := List.mem_map.mp ho
    exact absurd herror List.not_mem_nil
  notes := fun _ _ _ hnote ↦ absurd hnote List.not_mem_nil

/-- It is true behind the configures. -/
theorem configured_told :
    Told (participants assignments plan) (configured call m clients assignments plan) :=
  ((begun_told m clients assignments plan).gather (clearStale_sound call) (by decide)).gather
    (configureOne_sound call assignments) (by decide)

/-- It is true behind the starts. -/
theorem triggered_told :
    Told (participants assignments plan) (triggered call m clients assignments plan) :=
  (configured_told call m clients assignments plan).gather
    (startOne_sound call plan.run_name plan.epoch_unix_s) (by decide)

/-- It is true behind the events. -/
theorem eventful_told :
    Told (participants assignments plan) (eventful call m clients assignments plan) :=
  List.foldlRecOn m.schedule _ (triggered_told call m clients assignments plan)
    fun _ hp ev _ ↦ hp.schedule call _ _ ev

/-- It is true behind the stops. -/
theorem halted_told :
    Told (participants assignments plan) (halted call m clients assignments plan) :=
  (eventful_told call m clients assignments plan).gather (stopOne_sound call) (by decide)

/-- It is true behind the fetches. -/
theorem collected_told :
    Told (participants assignments plan) (collected call m clients assignments plan) :=
  ((halted_told call m clients assignments plan).withDir plan).gather
    (collectFrom_sound call plan.run_name ARTIFACTS) (by decide)

/-- **The ways a run ends**, with the phase that ended it. -/
theorem run_cases :
    (∃ exc, ExperimentRunner.run call m clients assignments plan =
        (begun m clients assignments plan).abort exc) ∨
    (∃ exc, ExperimentRunner.run call m clients assignments plan =
        (configured call m clients assignments plan).abort exc) ∨
    ExperimentRunner.run call m clients assignments plan =
      (configured call m clients assignments plan).notStarted.finish none ∨
    (configured call m clients assignments plan).allConfigured = true ∧
      ((∃ exc, ExperimentRunner.run call m clients assignments plan =
          (triggered call m clients assignments plan).abort exc) ∨
      (∃ exc, ExperimentRunner.run call m clients assignments plan =
          (halted call m clients assignments plan).abort exc) ∨
      (∃ exc, ExperimentRunner.run call m clients assignments plan =
          (collected call m clients assignments plan).abort exc) ∨
      ExperimentRunner.run call m clients assignments plan =
        (collected call m clients assignments plan).finish
          (some (collected call m clients assignments plan).report)) := by
  rw [ExperimentRunner.run]
  split
  · exact .inl ⟨_, rfl⟩
  rw [Progress.next]
  split
  · exact .inr (.inl ⟨_, rfl⟩)
  split
  · exact .inr (.inr (.inl rfl))
  rename_i hopen
  refine .inr (.inr (.inr ⟨by simpa using hopen, ?_⟩))
  rw [Progress.next]
  split
  · exact .inl ⟨_, rfl⟩
  rw [Progress.next]
  split
  · exact .inr (.inl ⟨_, rfl⟩)
  rw [Progress.next]
  split
  · exact .inr (.inr (.inl ⟨_, rfl⟩))
  · exact .inr (.inr (.inr rfl))

/-! ### The order of the phases -/

/-- Up to the barrier stops and configures are sent, and nothing else. -/
theorem configured_emits {e : HubEvent K V}
    (he : Emitted (configured call m clients assignments plan).batches e) :
    (∃ nid, e.Of .clear_stale (· = .stop) nid) ∨ ∃ nid, e.Of .configure IsConfigure nid := by
  obtain ⟨b₀, hb₀, hclear, -⟩ :=
    gather_batches (clearStale_sound call) (begun m clients assignments plan)
  obtain ⟨b₁, hb₁, hconfigure, -⟩ :=
    gather_batches (configureOne_sound call assignments)
      ((begun m clients assignments plan).gather (clearStale call))
  rw [configured, hb₁, hb₀] at he
  obtain he | he := Emitted.append_iff.mp he
  · exact .inl (hclear e he)
  · exact .inr (hconfigure e he)

/-- Starts are one batch behind the configures, all with one name and one epoch. -/
theorem triggered_batches :
    ∃ b, (triggered call m clients assignments plan).batches =
        (configured call m clients assignments plan).batches ++ [b] ∧
      ∀ e, Emitted [b] e →
        ∃ nid, e.Of .start (· = .start plan.run_name plan.epoch_unix_s) nid := by
  obtain ⟨b, hb, hemits, -⟩ :=
    gather_batches (startOne_sound call plan.run_name plan.epoch_unix_s)
      (configured call m clients assignments plan)
  exact ⟨b, hb, hemits⟩

/-- Events send configures only, behind the starts. -/
theorem eventful_batches :
    ∃ added, (eventful call m clients assignments plan).batches =
        (triggered call m clients assignments plan).batches ++ added ∧
      ∀ e, Emitted added e → ∃ nid, e.Of .event IsConfigure nid := by
  refine List.foldlRecOn m.schedule _
    (motive := fun p : Progress σ K V ↦ ∃ added,
      p.batches = (triggered call m clients assignments plan).batches ++ added ∧
        ∀ e, Emitted added e → ∃ nid, e.Of .event IsConfigure nid)
    ⟨[], by simp, by simp [Emitted]⟩ ?_
  rintro p ⟨added, hp, hemits⟩ ev -
  obtain ⟨⟨more, hmore, hemits'⟩, -⟩ := schedule_batches call p
    (participants assignments plan) plan.duration_s ev
  refine ⟨added ++ more, by rw [hmore, hp, List.append_assoc], fun e he ↦ ?_⟩
  obtain he | he := Emitted.append_iff.mp he
  · exact hemits e he
  · exact hemits' e he

/-- Stops are one batch behind the events, and every participant is sent one. -/
theorem halted_batches :
    ∃ b, (halted call m clients assignments plan).batches =
        (eventful call m clients assignments plan).batches ++ [b] ∧
      (∀ e, Emitted [b] e → ∃ nid, e.Of .stop (· = .stop) nid) ∧
      ∀ i ∈ participants assignments plan, Emitted [b] (.sent .stop i .stop) := by
  obtain ⟨b, hb, hemits, hall⟩ :=
    gather_batches (stopOne_sound call) (eventful call m clients assignments plan)
  refine ⟨b, hb, hemits, fun i hi ↦ ?_⟩
  rw [← (eventful_told call m clients assignments plan).nodes] at hi
  obtain ⟨out, hout, rfl⟩ := List.mem_map.mp hi
  exact hall out hout _ List.mem_cons_self

/-- Fetches are one batch behind the stops. -/
theorem collected_batches :
    ∃ b, (collected call m clients assignments plan).batches =
        (halted call m clients assignments plan).batches ++ [b] ∧
      ∀ e, Emitted [b] e → ∃ nid, e.Of .collect (IsFetch plan.run_name) nid := by
  obtain ⟨b, hb, hemits, -⟩ :=
    gather_batches (collectFrom_sound call plan.run_name ARTIFACTS)
      (withDir plan (halted call m clients assignments plan))
  exact ⟨b, hb, hemits⟩

/-- How far the batches of a run go. -/
theorem run_batches :
    (ExperimentRunner.run call m clients assignments plan).batches = [] ∨
    (ExperimentRunner.run call m clients assignments plan).batches =
      (configured call m clients assignments plan).batches ∨
    (configured call m clients assignments plan).allConfigured = true ∧
      ((ExperimentRunner.run call m clients assignments plan).batches =
        (triggered call m clients assignments plan).batches ∨
      (ExperimentRunner.run call m clients assignments plan).batches =
        (halted call m clients assignments plan).batches ∨
      (ExperimentRunner.run call m clients assignments plan).batches =
        (collected call m clients assignments plan).batches) := by
  obtain ⟨exc, h⟩ | ⟨exc, h⟩ | h | ⟨hopen, ⟨exc, h⟩ | ⟨exc, h⟩ | ⟨exc, h⟩ | h⟩ :=
    run_cases call m clients assignments plan
  · exact .inl (by rw [h]; rfl)
  · exact .inr (.inl (by rw [h]; rfl))
  · exact .inr (.inl (by rw [h]; rfl))
  · exact .inr (.inr ⟨hopen, .inl (by rw [h]; rfl)⟩)
  · exact .inr (.inr ⟨hopen, .inr (.inl (by rw [h]; rfl))⟩)
  · exact .inr (.inr ⟨hopen, .inr (.inr (by rw [h]; rfl))⟩)
  · exact .inr (.inr ⟨hopen, .inr (.inr (by rw [h]; rfl))⟩)

/-- A run that ends early is the beginning of one that does not. -/
theorem run_begun : (ExperimentRunner.run call m clients assignments plan).batches <+:
    (collected call m clients assignments plan).batches := by
  obtain ⟨b₂, h₂, -⟩ := triggered_batches call m clients assignments plan
  obtain ⟨added, h₃, -⟩ := eventful_batches call m clients assignments plan
  obtain ⟨b₄, h₄, -⟩ := halted_batches call m clients assignments plan
  obtain ⟨b₅, h₅, -⟩ := collected_batches call m clients assignments plan
  obtain h | h | ⟨-, h | h | h⟩ := run_batches call m clients assignments plan
  · exact ⟨_, by rw [h, List.nil_append]⟩
  · exact ⟨[b₂] ++ added ++ [b₄] ++ [b₅], by simp only [h, h₅, h₄, h₃, h₂, List.append_assoc]⟩
  · exact ⟨added ++ [b₄] ++ [b₅], by simp only [h, h₅, h₄, h₃, List.append_assoc]⟩
  · exact ⟨[b₅], by rw [h, h₅]⟩
  · exact ⟨[], by rw [h, List.append_nil]⟩

/-- A run that emits a command none of the first two phases has gone past the barrier. -/
theorem run_past_barrier {e : HubEvent K V}
    (he : Emitted (ExperimentRunner.run call m clients assignments plan).batches e)
    (hlate : ¬Emitted (configured call m clients assignments plan).batches e) :
    (configured call m clients assignments plan).allConfigured = true ∧
      ∃ rest, (ExperimentRunner.run call m clients assignments plan).batches =
        (configured call m clients assignments plan).batches ++ rest := by
  obtain ⟨b₂, h₂, -⟩ := triggered_batches call m clients assignments plan
  obtain ⟨added, h₃, -⟩ := eventful_batches call m clients assignments plan
  obtain ⟨b₄, h₄, -⟩ := halted_batches call m clients assignments plan
  obtain ⟨b₅, h₅, -⟩ := collected_batches call m clients assignments plan
  obtain h | h | ⟨hopen, h | h | h⟩ := run_batches call m clients assignments plan
  · rw [h] at he
    obtain ⟨b, hb, -⟩ := he
    exact absurd hb List.not_mem_nil
  · exact absurd (h ▸ he) hlate
  · exact ⟨hopen, [b₂], h.trans h₂⟩
  · exact ⟨hopen, [b₂] ++ added ++ [b₄], by simp only [h, h₄, h₃, h₂, List.append_assoc]⟩
  · exact ⟨hopen, [b₂] ++ added ++ [b₄] ++ [b₅], by
      simp only [h, h₅, h₄, h₃, h₂, List.append_assoc]⟩

/-- No `start` goes out up to the barrier. -/
theorem no_start_configured {phase : RunPhase} {nid : ℤ} {run_name : String} {epoch : K} :
    ¬Emitted (configured call m clients assignments plan).batches
      (.sent phase nid (.start run_name epoch)) := by
  intro he
  obtain ⟨n, -, -, hstop⟩ | ⟨n, -, -, payload, hconfigure⟩ :=
    configured_emits call m clients assignments plan he
  · cases hstop
  · cases hconfigure

/-- No `fetch` goes out up to the stop. -/
theorem no_fetch_eventful {phase : RunPhase} {nid : ℤ} {run_name artifact : String} :
    ¬Emitted (eventful call m clients assignments plan).batches
      (.sent phase nid (.fetch run_name artifact)) := by
  intro he
  obtain ⟨b₂, h₂, hstart⟩ := triggered_batches call m clients assignments plan
  obtain ⟨added, h₃, hevent⟩ := eventful_batches call m clients assignments plan
  rw [h₃, h₂] at he
  obtain he | he := Emitted.append_iff.mp he
  · obtain he | he := Emitted.append_iff.mp he
    · obtain ⟨n, -, -, hstop⟩ | ⟨n, -, -, payload, hconfigure⟩ :=
        configured_emits call m clients assignments plan he
      · cases hstop
      · cases hconfigure
    · obtain ⟨n, -, -, hcmd⟩ := hstart _ he
      cases hcmd
  · obtain ⟨n, -, -, payload, hcmd⟩ := hevent _ he
    cases hcmd

/-- A run that fetches has been through every phase. -/
theorem run_collected {phase : RunPhase} {nid : ℤ} {run_name artifact : String}
    (he : Emitted (ExperimentRunner.run call m clients assignments plan).batches
      (.sent phase nid (.fetch run_name artifact))) :
    (ExperimentRunner.run call m clients assignments plan).batches =
      (collected call m clients assignments plan).batches := by
  have hnone : ¬Emitted (eventful call m clients assignments plan).batches
      (.sent phase nid (.fetch run_name artifact)) :=
    no_fetch_eventful call m clients assignments plan
  obtain ⟨b₂, h₂, -⟩ := triggered_batches call m clients assignments plan
  obtain ⟨added, h₃, -⟩ := eventful_batches call m clients assignments plan
  obtain ⟨b₄, h₄, hstop, -⟩ := halted_batches call m clients assignments plan
  rw [h₃, h₂] at hnone
  obtain h | h | ⟨-, h | h | h⟩ := run_batches call m clients assignments plan
  · rw [h] at he
    obtain ⟨b, hb, -⟩ := he
    exact absurd hb List.not_mem_nil
  · rw [h] at he
    exact absurd (Emitted.append_iff.mpr (.inl (Emitted.append_iff.mpr (.inl he)))) hnone
  · rw [h, h₂] at he
    exact absurd (Emitted.append_iff.mpr (.inl he)) hnone
  · rw [h, h₄, h₃, h₂] at he
    obtain he | he := Emitted.append_iff.mp he
    · exact absurd he hnone
    · obtain ⟨n, -, -, hcmd⟩ := hstop _ he
      cases hcmd
  · exact h

/-- What every interleaving of a run keeps to. -/
structure RunOrdered (ids : List ℤ) (epoch : K) (trace : List (HubEvent K V)) : Prop where
  /-- No node is told to start before every node of the run has acknowledged its configuration. -/
  barrier : ∀ pre suf phase nid run_name e,
    trace = pre ++ .sent phase nid (.start run_name e) :: suf →
      ∀ i ∈ ids, ∃ payload resp blob,
        .answered .configure i (.configure payload) (.reply resp blob) ∈ pre
  one_epoch : ∀ phase nid run_name e,
    .sent phase nid (.start run_name e) ∈ trace → e = epoch
  /-- No log is fetched before every node of the run has been told to stop, for good. -/
  stop_first : ∀ pre suf phase nid run_name artifact,
    trace = pre ++ .sent phase nid (.fetch run_name artifact) :: suf →
      ∀ i ∈ ids, ∃ pre₁ pre₂, pre = pre₁ ++ .sent .stop i .stop :: pre₂ ∧
        ∀ ph n name e, .sent ph n (.start name e) ∉ pre₂

/-- **The phases keep their order** on every path a run can take. -/
theorem run_ordered {trace : List (HubEvent K V)}
    (ht : Staged (ExperimentRunner.run call m clients assignments plan).batches trace) :
    RunOrdered (participants assignments plan) plan.epoch_unix_s trace where
  barrier := by
    intro pre suf phase nid run_name e hcut i hi
    have hsent : Emitted (ExperimentRunner.run call m clients assignments plan).batches
        (.sent phase nid (.start run_name e)) :=
      ht.mem_iff.mp (by rw [hcut]; exact List.mem_append_right _ List.mem_cons_self)
    have hearly : ¬Emitted (configured call m clients assignments plan).batches
        (.sent phase nid (.start run_name e)) :=
      no_start_configured call m clients assignments plan
    obtain ⟨hopen, rest, hbatches⟩ := run_past_barrier call m clients assignments plan hsent hearly
    have htold := configured_told call m clients assignments plan
    rw [← htold.nodes] at hi
    obtain ⟨o, ho, rfl⟩ := List.mem_map.mp hi
    obtain ⟨payload, resp, blob, hack⟩ := htold.configured o ho (List.all_eq_true.mp hopen o ho)
    rw [hbatches] at ht
    exact ⟨payload, resp, blob, ht.mem_prefix hack
      (fun b hb t ht' he ↦ hearly ⟨b, hb, t, ht', he⟩) hcut⟩
  one_epoch := by
    intro phase nid run_name e he
    have hsent : Emitted (ExperimentRunner.run call m clients assignments plan).batches
        (.sent phase nid (.start run_name e)) := ht.mem_iff.mp he
    have hearly : ¬Emitted (configured call m clients assignments plan).batches
        (.sent phase nid (.start run_name e)) :=
      no_start_configured call m clients assignments plan
    obtain ⟨b₂, h₂, hstart⟩ := triggered_batches call m clients assignments plan
    obtain ⟨added, h₃, hevent⟩ := eventful_batches call m clients assignments plan
    obtain ⟨b₄, h₄, hstop, -⟩ := halted_batches call m clients assignments plan
    obtain ⟨b₅, h₅, hfetch⟩ := collected_batches call m clients assignments plan
    -- it is enough to look at the longest run
    have hall := hsent.earlier (run_begun call m clients assignments plan)
    rw [h₅, h₄, h₃, h₂] at hall
    simp only [Emitted.append_iff] at hall
    obtain (((hall | hall) | hall) | hall) | hall := hall
    · exact absurd hall hearly
    · obtain ⟨n, -, -, hcmd⟩ := hstart _ hall
      exact (Command.start.inj hcmd).2
    · obtain ⟨n, -, -, payload, hcmd⟩ := hevent _ hall
      cases hcmd
    · obtain ⟨n, -, -, hcmd⟩ := hstop _ hall
      cases hcmd
    · obtain ⟨n, -, -, artifact, hcmd⟩ := hfetch _ hall
      cases hcmd
  stop_first := by
    intro pre suf phase nid run_name artifact hcut i hi
    have hsent : Emitted (ExperimentRunner.run call m clients assignments plan).batches
        (.sent phase nid (.fetch run_name artifact)) :=
      ht.mem_iff.mp (by rw [hcut]; exact List.mem_append_right _ List.mem_cons_self)
    have hnone : ¬Emitted (eventful call m clients assignments plan).batches
        (.sent phase nid (.fetch run_name artifact)) :=
      no_fetch_eventful call m clients assignments plan
    obtain ⟨b₄, h₄, hstop, hall⟩ := halted_batches call m clients assignments plan
    obtain ⟨b₅, h₅, hfetch⟩ := collected_batches call m clients assignments plan
    rw [run_collected call m clients assignments plan hsent, h₅, h₄, List.append_assoc] at ht
    obtain ⟨pre₁, pre₂, hpre, hafter⟩ := ht.last_before (hall i hi) (fun b hb t ht' he ↦ by
      obtain hb | hb := List.mem_append.mp hb
      · exact hnone ⟨b, hb, t, ht', he⟩
      · obtain ⟨n, -, -, hcmd⟩ := hstop _ ⟨b, hb, t, ht', he⟩
        cases hcmd) hcut
    refine ⟨pre₁, pre₂, hpre, fun ph n name e he ↦ ?_⟩
    obtain he | he := Emitted.append_iff.mp (hafter _ he)
    · obtain ⟨n', -, -, hcmd⟩ := hstop _ he
      cases hcmd
    · obtain ⟨n', -, -, art, hcmd⟩ := hfetch _ he
      cases hcmd

/-- A report that is returned tells of the whole run. -/
theorem run_reported {trace : List (HubEvent K V)}
    (ht : Staged (ExperimentRunner.run call m clients assignments plan).batches trace)
    {report : RunReport K V}
    (hreport : (ExperimentRunner.run call m clients assignments plan).report = .ok report) :
    Reported (participants assignments plan) trace report := by
  obtain ⟨exc, h⟩ | ⟨exc, h⟩ | h | ⟨-, ⟨exc, h⟩ | ⟨exc, h⟩ | ⟨exc, h⟩ | h⟩ :=
    run_cases call m clients assignments plan
  · rw [h] at hreport
    cases hreport
  · rw [h] at hreport
    cases hreport
  · rw [h] at hreport ht
    obtain rfl := Except.ok.inj hreport
    exact (configured_told call m clients assignments plan).notStarted.reported ht
  · rw [h] at hreport
    cases hreport
  · rw [h] at hreport
    cases hreport
  · rw [h] at hreport
    cases hreport
  · rw [h] at hreport ht
    obtain rfl := Except.ok.inj hreport
    exact (collected_told call m clients assignments plan).reported ht

end Run

end VertexTestbed.Host
