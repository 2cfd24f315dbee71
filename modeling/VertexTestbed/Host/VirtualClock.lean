import VertexTestbed.Lib.Runs

/-!
# The virtual clock

`VirtualClock` (`clock.py`) and its driver `drive_virtual_clock` (`sim/runner.py`). A task sleeps by
parking a future on a heap; when no task but the driver can run, the driver moves time to the
earliest deadline and resolves what is due. That nothing can run it infers from a count: as many
futures on the heap as there are live tasks.

A task is what it does between two waits: it creates tasks, and then sleeps or finishes. What it
does there and whose turn it is are the inputs of a run, so a run is any set of tasks under any
order of the event loop. A turn of the driver ends where it awaits, or behind `advance`. The model
ends with the driver's own loop, ahead of the cancellations of its `finally`.

Python's heap is its documented behaviour, a list in the order of the entries.
-/

namespace VertexTestbed.Host

open Runs

/-! ### The clock -/

/-- An entry of `_waiters`. The counter value that breaks ties also names the future. -/
structure Waiter (T : Type*) where
  deadline : T
  fut : ℕ
  deriving DecidableEq

/-- The order of the entries as tuples. -/
def Waiter.le {T : Type*} [LinearOrder T] (a b : Waiter T) : Prop :=
  toLex (a.deadline, a.fut) ≤ toLex (b.deadline, b.fut)

/-- `VirtualClock`: the time, the heap and the counter. -/
structure VirtualClock (T : Type*) where
  t : T
  waiters : List (Waiter T)
  counter : ℕ

section Order

variable {T : Type*} [LinearOrder T]

instance : DecidableRel (Waiter.le (T := T)) := fun _ _ ↦ inferInstanceAs (Decidable (_ ≤ _))

instance : Std.Total (Waiter.le (T := T)) := ⟨fun _ _ ↦ le_total _ _⟩

instance : IsTrans (Waiter T) Waiter.le := ⟨fun _ _ _ ↦ le_trans⟩

/-- The heap is ordered by deadline first. -/
theorem Waiter.deadline_le {a b : Waiter T} (h : a.le b) : a.deadline ≤ b.deadline := by
  rw [Waiter.le, Prod.Lex.toLex_le_toLex] at h
  obtain hlt | ⟨heq, -⟩ := h
  · exact hlt.le
  · exact heq.le

end Order

namespace VirtualClock

variable {T : Type*} [LinearOrder T]

/-- `VirtualClock(start_s)`. -/
def init (start_s : T) : VirtualClock T := ⟨start_s, [], 0⟩

/-- `sleep`, up to its `await`, for a positive time. -/
def sleep [Add T] (c : VirtualClock T) (seconds : T) : VirtualClock T :=
  { c with
    waiters := c.waiters.orderedInsert Waiter.le ⟨c.t + seconds, c.counter⟩
    counter := c.counter + 1 }

/-- `pending`. -/
def pending (c : VirtualClock T) : ℕ := c.waiters.length

/-- `next_deadline_s`. -/
def next_deadline_s (c : VirtualClock T) : Option T := c.waiters.head?.map Waiter.deadline

/-- The entries that `advance` pops when it moves to `deadline`. -/
def due (c : VirtualClock T) (deadline : T) : List (Waiter T) :=
  c.waiters.takeWhile (·.deadline ≤ deadline)

/-- `advance`, when the earliest deadline is `deadline`. -/
def advance (c : VirtualClock T) (deadline : T) : VirtualClock T :=
  { c with t := deadline, waiters := c.waiters.dropWhile (·.deadline ≤ deadline) }

end VirtualClock

/-! ### The event loop -/

/-- A task of the loop: it can run, or awaits a future, or has finished. -/
inductive TaskState where
  | ready
  | awaiting (fut : ℕ)
  | finished
  deriving DecidableEq

/-- The future that a task awaits. -/
def TaskState.fut : TaskState → ℕ
  | .awaiting fut => fut
  | _ => 0

/-- How a task's turn ends. -/
inductive Pause (T : Type*) where
  | sleep (seconds : T)
  | finish

/-- A task's turn: how many tasks it creates, and how it ends. -/
structure Turn (T : Type*) where
  creates : ℕ
  pause : Pause T

/-- Whose turn it is. -/
inductive SimEvent (T : Type*) where
  | task (i : ℕ) (turn : Turn T)
  | driver

/-- A future that was resolved, and when. -/
structure Wakeup (T : Type*) where
  waiter : Waiter T
  atTime : T

/-- Where the driver is: some spins into `_park_all`, or behind its loop. -/
inductive DriverPhase where
  | parking (spins : ℕ)
  | ended (completed stalled : Bool)
  deriving DecidableEq

/-- The arguments of `drive_virtual_clock`; its own tasks are the first `factories` ones. -/
structure Drive (T : Type*) where
  factories : ℕ
  until_s : T
  max_steps : ℕ
  spin_limit : ℕ

/-- The event loop under the driver. `slept` and `woken` record every future that a sleep parked and
every one that was resolved. -/
structure SimLoop (T : Type*) where
  clock : VirtualClock T
  created : ℕ
  tasks : ℕ → TaskState
  phase : DriverPhase
  steps : ℕ
  slept : List (Waiter T)
  woken : List (Wakeup T)

namespace SimLoop

variable {T : Type*} [LinearOrder T]

/-- The loop when the driver has created its tasks, next to `others` that were there before. -/
def init (d : Drive T) (start_s : T) (others : ℕ) : SimLoop T where
  clock := .init start_s
  created := d.factories + others
  tasks := fun _ ↦ .ready
  phase := if 0 < d.max_steps then .parking 0 else .ended false true
  steps := 0
  slept := []
  woken := []

/-- `_other_live_tasks`. -/
def live (s : SimLoop T) : Finset ℕ := (Finset.range s.created).filter (s.tasks · ≠ .finished)

/-- The task awaits a future that is on the heap. -/
def Parked (s : SimLoop T) (i : ℕ) : Prop := ∃ w ∈ s.clock.waiters, s.tasks i = .awaiting w.fut

/-- The driver's tasks that are not done. -/
def alive (d : Drive T) (s : SimLoop T) : Finset ℕ :=
  (Finset.range d.factories).filter (s.tasks · ≠ .finished)

/-- A turn of a task. A sleep of no length only yields. -/
def taskStep [Zero T] [Add T] (s : SimLoop T) (i : ℕ) (turn : Turn T) : SimLoop T :=
  if i < s.created ∧ s.tasks i = .ready then
    let s := { s with created := s.created + turn.creates }
    match turn.pause with
    | .sleep seconds =>
      if seconds ≤ 0 then s
      else
        { s with
          clock := s.clock.sleep seconds
          tasks := Function.update s.tasks i (.awaiting s.clock.counter)
          slept := s.slept ++ [⟨s.clock.t + seconds, s.clock.counter⟩] }
    | .finish => { s with tasks := Function.update s.tasks i .finished }
  else s

/-- `fut.done()`. -/
def Done (s : SimLoop T) (fut : ℕ) : Prop := ∃ x ∈ s.woken, x.waiter.fut = fut

instance (s : SimLoop T) (fut : ℕ) : Decidable (s.Done fut) :=
  inferInstanceAs (Decidable (∃ _ ∈ _, _))

/-- The task behind `set_result` of its future. -/
def resume (futs : List ℕ) : TaskState → TaskState
  | .awaiting fut => if fut ∈ futs then .ready else .awaiting fut
  | x => x

/-- `advance`, and the tasks that its results wake. -/
def advance (s : SimLoop T) (deadline : T) : SimLoop T :=
  let resolved := (s.clock.due deadline).filter fun w ↦ ¬s.Done w.fut
  { s with
    clock := s.clock.advance deadline
    tasks := fun i ↦ resume (resolved.map Waiter.fut) (s.tasks i)
    woken := s.woken ++ resolved.map (⟨·, deadline⟩) }

/-- A turn of the driver: a look at the tasks, and what comes of it. -/
def driverStep (d : Drive T) (s : SimLoop T) : SimLoop T :=
  match s.phase with
  | .ended _ _ => s
  | .parking spins =>
    if s.alive d = ∅ then { s with phase := .ended true false }
    else if spins < d.spin_limit then
      if s.live.card ≤ s.clock.pending then
        match s.clock.next_deadline_s with
        | none => { s with phase := .ended false true }
        | some nxt =>
          if d.until_s < nxt then { s with phase := .ended false false }
          else
            { s.advance nxt with
              steps := s.steps + 1
              phase := if s.steps + 1 < d.max_steps then .parking 0 else .ended false true }
      else { s with phase := .parking (spins + 1) }
    else { s with phase := .ended false true }

/-- One turn of the event loop. Behind the end of the driver's loop time stands still, and so does
the model. -/
def step [Zero T] [Add T] (d : Drive T) (s : SimLoop T) : SimEvent T → SimLoop T
  | .task i turn =>
    match s.phase with
    | .parking _ => s.taskStep i turn
    | .ended _ _ => s
  | .driver => s.driverStep d

/-! ### What every turn keeps -/

/-- **Heap, futures and tasks agree.** Every future that a sleep made is on the heap or has been
resolved, at its deadline; and the futures on the heap are awaited by one live task each. -/
structure Consistent (s : SimLoop T) : Prop where
  numbered : s.slept.map Waiter.fut = List.range s.clock.counter
  accounted : (s.clock.waiters ++ s.woken.map Wakeup.waiter).Perm s.slept
  onTime : ∀ x ∈ s.woken, x.atTime = x.waiter.deadline
  sorted : s.clock.waiters.Pairwise Waiter.le
  ahead : ∀ w ∈ s.clock.waiters, s.clock.t ≤ w.deadline
  parked : ∀ w ∈ s.clock.waiters, ∃ i < s.created, s.tasks i = .awaiting w.fut
  waiting : ∀ i fut, s.tasks i = .awaiting fut → ∃ w ∈ s.clock.waiters, w.fut = fut
  alone : ∀ i j fut, s.tasks i = .awaiting fut → s.tasks j = .awaiting fut → i = j
  fresh : ∀ i, s.created ≤ i → s.tasks i = .ready

theorem consistent_init (d : Drive T) (start_s : T) (others : ℕ) :
    (init d start_s others).Consistent where
  numbered := rfl
  accounted := .nil
  onTime := fun _ h ↦ absurd h List.not_mem_nil
  sorted := .nil
  ahead := fun _ h ↦ absurd h List.not_mem_nil
  parked := fun _ h ↦ absurd h List.not_mem_nil
  waiting := fun _ _ h ↦ by cases h
  alone := fun _ _ _ h ↦ by cases h
  fresh := fun _ _ ↦ rfl

omit [LinearOrder T] in
/-- A task is live when it was created and has not finished. -/
theorem mem_live {s : SimLoop T} {i : ℕ} :
    i ∈ s.live ↔ i < s.created ∧ s.tasks i ≠ .finished := by
  rw [live, Finset.mem_filter, Finset.mem_range]

/-- A task is still awaiting its future exactly when that future was not woken. -/
theorem resume_eq_awaiting {futs : List ℕ} {x : TaskState} {fut : ℕ} :
    resume futs x = .awaiting fut ↔ x = .awaiting fut ∧ fut ∉ futs := by
  cases x with
  | ready => exact ⟨nofun, fun h ↦ nomatch h.1⟩
  | finished => exact ⟨nofun, fun h ↦ nomatch h.1⟩
  | awaiting f =>
    rw [resume]
    split_ifs with hf
    · refine ⟨nofun, fun h ↦ ?_⟩
      cases h.1
      exact absurd hf h.2
    · refine ⟨fun h ↦ ?_, fun h ↦ h.1⟩
      cases h
      exact ⟨rfl, hf⟩

/-- What is popped and what stays, of a heap. -/
theorem due_append (c : VirtualClock T) (deadline : T) :
    c.due deadline ++ (c.advance deadline).waiters = c.waiters :=
  List.takeWhile_append_dropWhile

/-- Whatever is due was due by the deadline. -/
theorem deadline_of_due {c : VirtualClock T} {deadline : T} {w : Waiter T}
    (hw : w ∈ c.due deadline) : w.deadline ≤ deadline := by
  simpa using List.mem_takeWhile_imp hw

/-- What stays on a heap is later. -/
theorem lt_of_mem_advance {c : VirtualClock T} (hsorted : c.waiters.Pairwise Waiter.le)
    {deadline : T} {w : Waiter T} (hw : w ∈ (c.advance deadline).waiters) :
    deadline < w.deadline := by
  rw [VirtualClock.advance] at hw
  have hrest : (c.waiters.dropWhile (·.deadline ≤ deadline)).Pairwise Waiter.le :=
    hsorted.sublist (List.dropWhile_sublist _)
  cases hdrop : c.waiters.dropWhile (·.deadline ≤ deadline) with
  | nil =>
    rw [hdrop] at hw
    exact absurd hw List.not_mem_nil
  | cons v vs =>
    have hv : deadline < v.deadline := by
      have := List.head?_dropWhile_not (fun w : Waiter T ↦ decide (w.deadline ≤ deadline)) c.waiters
      rw [hdrop] at this
      simpa using this
    rw [hdrop] at hw hrest
    obtain rfl | hw := List.mem_cons.1 hw
    · exact hv
    · exact hv.trans_le (Waiter.deadline_le (List.rel_of_pairwise_cons hrest hw))

/-- The earliest deadline. -/
theorem le_of_next_deadline {c : VirtualClock T} (hsorted : c.waiters.Pairwise Waiter.le) {nxt : T}
    (hnxt : c.next_deadline_s = some nxt) :
    (∃ w ∈ c.waiters, w.deadline = nxt) ∧ ∀ w ∈ c.waiters, nxt ≤ w.deadline := by
  rw [VirtualClock.next_deadline_s] at hnxt
  cases hlist : c.waiters with
  | nil =>
    rw [hlist] at hnxt
    cases hnxt
  | cons v vs =>
    rw [hlist] at hnxt hsorted
    cases hnxt
    refine ⟨⟨v, List.mem_cons_self, rfl⟩, List.forall_mem_cons.2 ⟨le_rfl, fun w hw ↦ ?_⟩⟩
    exact Waiter.deadline_le (List.rel_of_pairwise_cons hsorted hw)

namespace Consistent

variable {s : SimLoop T} (h : s.Consistent)

include h

/-- No future is held twice. -/
theorem nodup_futs :
    ((s.clock.waiters ++ s.woken.map Wakeup.waiter).map Waiter.fut).Nodup := by
  have hperm := h.accounted.map Waiter.fut
  rw [h.numbered] at hperm
  exact hperm.nodup_iff.2 List.nodup_range

/-- A future in the heap was numbered before. -/
theorem fut_lt {w : Waiter T} (hw : w ∈ s.clock.waiters) : w.fut < s.clock.counter := by
  have hslept : w ∈ s.slept := h.accounted.subset (List.mem_append_left _ hw)
  have := List.mem_map_of_mem (f := Waiter.fut) hslept
  rwa [h.numbered, List.mem_range] at this

/-- The futures on the heap are distinct. -/
theorem eq_of_fut {w w' : Waiter T} (hw : w ∈ s.clock.waiters) (hw' : w' ∈ s.clock.waiters)
    (heq : w.fut = w'.fut) : w = w' := by
  have hnodup := h.nodup_futs
  rw [List.map_append] at hnodup
  exact List.inj_on_of_nodup_map hnodup.of_append_left hw hw' heq

/-- No future on the heap is done. -/
theorem not_done {w : Waiter T} (hw : w ∈ s.clock.waiters) : ¬s.Done w.fut := by
  rintro ⟨x, hx, hfut⟩
  have hnodup := h.nodup_futs
  rw [List.map_append] at hnodup
  refine List.disjoint_of_nodup_append hnodup (List.mem_map_of_mem hw) ?_
  rw [← hfut, List.map_map]
  exact List.mem_map_of_mem hx

/-- `advance` resolves all that it pops. -/
theorem resolved_eq (deadline : T) :
    ((s.clock.due deadline).filter fun w ↦ ¬s.Done w.fut) = s.clock.due deadline := by
  refine List.filter_eq_self.2 fun w hw ↦ decide_eq_true (h.not_done ?_)
  rw [← due_append s.clock deadline]
  exact List.mem_append_left _ hw

/-- A future that stays on the heap is none of the resolved ones. -/
theorem fut_not_due {deadline : T} {w : Waiter T} (hw : w ∈ (s.clock.advance deadline).waiters) :
    w.fut ∉ (s.clock.due deadline).map Waiter.fut := by
  intro hmem
  obtain ⟨v, hv, heq⟩ := List.mem_map.1 hmem
  have hsplit := due_append s.clock deadline
  have hwmem : w ∈ s.clock.waiters := hsplit ▸ List.mem_append_right _ hw
  have hvmem : v ∈ s.clock.waiters := hsplit ▸ List.mem_append_left _ hv
  have hvw : v = w := h.eq_of_fut hvmem hwmem heq
  have hle := deadline_of_due hv
  rw [hvw] at hle
  exact absurd (lt_of_mem_advance h.sorted hw) (not_lt.2 hle)

/-- A move to the earliest deadline. -/
theorem advance {nxt : T} (hnxt : s.clock.next_deadline_s = some nxt) :
    (s.advance nxt).Consistent := by
  obtain ⟨-, hleast⟩ := le_of_next_deadline h.sorted hnxt
  have hsplit := due_append s.clock nxt
  have hsame := h.resolved_eq nxt
  have hwoken : (s.advance nxt).woken = s.woken ++ (s.clock.due nxt).map (⟨·, nxt⟩) := by
    rw [SimLoop.advance, hsame]
  have htasks : (s.advance nxt).tasks = fun i ↦
      resume ((s.clock.due nxt).map Waiter.fut) (s.tasks i) := by
    rw [SimLoop.advance, hsame]
  have hstays : ∀ w ∈ (s.clock.advance nxt).waiters, w ∈ s.clock.waiters := fun w hw ↦
    hsplit ▸ List.mem_append_right _ hw
  refine ⟨h.numbered, ?_, ?_, ?_, fun w hw ↦ (lt_of_mem_advance h.sorted hw).le, ?_, ?_, ?_, ?_⟩
  · rw [hwoken, List.map_append, List.map_map]
    have hid : (s.clock.due nxt).map (Wakeup.waiter ∘ (⟨·, nxt⟩)) = s.clock.due nxt :=
      List.map_id _
    rw [hid]
    refine List.Perm.trans ?_ h.accounted
    rw [← hsplit]
    refine (List.perm_append_comm.trans ?_)
    rw [List.append_assoc]
    exact List.perm_append_comm
  · rw [hwoken]
    refine List.forall_mem_append.2 ⟨h.onTime, fun x hx ↦ ?_⟩
    obtain ⟨w, hw, rfl⟩ := List.mem_map.1 hx
    exact le_antisymm (hleast w (hsplit ▸ List.mem_append_left _ hw)) (deadline_of_due hw)
  · exact h.sorted.sublist (List.dropWhile_sublist _)
  · intro w hw
    obtain ⟨i, hi, hawait⟩ := h.parked w (hstays w hw)
    have hstill : (s.advance nxt).tasks i = .awaiting w.fut := by
      rw [htasks]
      exact resume_eq_awaiting.2 ⟨hawait, h.fut_not_due hw⟩
    exact ⟨i, hi, hstill⟩
  · intro i fut hi
    rw [htasks] at hi
    obtain ⟨hawait, hnot⟩ := resume_eq_awaiting.1 hi
    obtain ⟨w, hw, rfl⟩ := h.waiting i fut hawait
    rw [← hsplit] at hw
    obtain hdue | hw := List.mem_append.1 hw
    · exact absurd (List.mem_map_of_mem hdue) hnot
    · exact ⟨w, hw, rfl⟩
  · intro i j fut hi hj
    rw [htasks] at hi hj
    exact h.alone i j fut (resume_eq_awaiting.1 hi).1 (resume_eq_awaiting.1 hj).1
  · intro i hi
    rw [htasks]
    show resume _ (s.tasks i) = .ready
    rw [h.fresh i hi]
    rfl

/-- New tasks are ready. -/
theorem creates (n : ℕ) : Consistent { s with created := s.created + n } where
  numbered := h.numbered
  accounted := h.accounted
  onTime := h.onTime
  sorted := h.sorted
  ahead := h.ahead
  parked := fun w hw ↦ by
    obtain ⟨i, hi, hawait⟩ := h.parked w hw
    exact ⟨i, Nat.lt_add_right n hi, hawait⟩
  waiting := h.waiting
  alone := h.alone
  fresh := fun i hi ↦ h.fresh i ((Nat.le_add_right _ n).trans hi)

/-- A running task may finish. -/
theorem finishes {i : ℕ} (hi : i < s.created) (hready : s.tasks i = .ready) :
    Consistent { s with tasks := Function.update s.tasks i .finished } := by
  have hother : ∀ j fut, Function.update s.tasks i .finished j = .awaiting fut →
      s.tasks j = .awaiting fut := by
    intro j fut hj
    by_cases hji : j = i
    · rw [hji, Function.update_self] at hj
      cases hj
    · rwa [Function.update_of_ne hji] at hj
  refine ⟨h.numbered, h.accounted, h.onTime, h.sorted, h.ahead, fun w hw ↦ ?_,
    fun j fut hj ↦ h.waiting j fut (hother j fut hj),
    fun j k fut hj hk ↦ h.alone j k fut (hother j fut hj) (hother k fut hk), fun j hj ↦ ?_⟩
  · obtain ⟨j, hj, hawait⟩ := h.parked w hw
    have hji : j ≠ i := by
      rintro rfl
      rw [hready] at hawait
      cases hawait
    refine ⟨j, hj, ?_⟩
    rw [← hawait]
    exact Function.update_of_ne hji _ _
  · rw [← h.fresh j hj]
    exact Function.update_of_ne (hi.trans_le hj).ne' _ _

/-- A running task may park a new future. Rounded or not, a sum is no earlier than its summand. -/
theorem parks [Zero T] [Add T] (hadd : ∀ t seconds : T, 0 < seconds → t ≤ t + seconds) {i : ℕ}
    (hi : i < s.created) (hready : s.tasks i = .ready) {seconds : T} (hpos : 0 < seconds) :
    Consistent
      { s with
        clock := s.clock.sleep seconds
        tasks := Function.update s.tasks i (.awaiting s.clock.counter)
        slept := s.slept ++ [⟨s.clock.t + seconds, s.clock.counter⟩] } := by
  set new : Waiter T := ⟨s.clock.t + seconds, s.clock.counter⟩ with hnew
  have hmem : ∀ w, w ∈ (s.clock.sleep seconds).waiters ↔ w = new ∨ w ∈ s.clock.waiters :=
    fun w ↦ List.mem_orderedInsert _
  -- The task that parks is the only one to change its future, and no other task holds that number.
  have hother : ∀ j fut, Function.update s.tasks i (.awaiting s.clock.counter) j = .awaiting fut →
      j = i ∧ fut = s.clock.counter ∨ s.tasks j = .awaiting fut ∧ fut < s.clock.counter := by
    intro j fut hj
    by_cases hji : j = i
    · rw [hji, Function.update_self] at hj
      cases hj
      exact Or.inl ⟨hji, rfl⟩
    · rw [Function.update_of_ne hji] at hj
      obtain ⟨w, hw, rfl⟩ := h.waiting j fut hj
      exact Or.inr ⟨hj, h.fut_lt hw⟩
  refine ⟨?_, ?_, h.onTime, h.sorted.orderedInsert _ _, fun w hw ↦ ?_, fun w hw ↦ ?_, ?_, ?_, ?_⟩
  · show (s.slept ++ [new]).map Waiter.fut = List.range (s.clock.counter + 1)
    rw [List.map_append, h.numbered, List.range_succ]
    rfl
  · refine ((List.perm_orderedInsert _ new _).append_right _).trans ?_
    exact (h.accounted.cons new).trans (List.perm_append_singleton new _).symm
  · obtain rfl | hw := (hmem w).1 hw
    · exact hadd _ _ hpos
    · exact h.ahead w hw
  · obtain rfl | hw := (hmem w).1 hw
    · exact ⟨i, hi, Function.update_self _ _ _⟩
    · obtain ⟨j, hj, hawait⟩ := h.parked w hw
      have hji : j ≠ i := by
        rintro rfl
        rw [hready] at hawait
        cases hawait
      refine ⟨j, hj, ?_⟩
      rw [← hawait]
      exact Function.update_of_ne hji _ _
  · intro j fut hj
    obtain ⟨-, rfl⟩ | ⟨hj, -⟩ := hother j fut hj
    · exact ⟨new, (hmem new).2 (Or.inl rfl), rfl⟩
    · obtain ⟨w, hw, hfut⟩ := h.waiting j fut hj
      exact ⟨w, (hmem w).2 (Or.inr hw), hfut⟩
  · intro j k fut hj hk
    obtain ⟨rfl, rfl⟩ | ⟨hj, hlt⟩ := hother j fut hj
    · obtain ⟨rfl, -⟩ | ⟨-, hlt⟩ := hother k _ hk
      · rfl
      · exact absurd hlt (lt_irrefl _)
    · obtain ⟨-, rfl⟩ | ⟨hk, -⟩ := hother k fut hk
      · exact absurd hlt (lt_irrefl _)
      · exact h.alone j k fut hj hk
  · intro j hj
    rw [← h.fresh j hj]
    exact Function.update_of_ne (hi.trans_le hj).ne' _ _

/-- **As many futures as live tasks means that every live task is parked.** -/
theorem card_live_le_iff : s.live.card ≤ s.clock.pending ↔ ∀ i ∈ s.live, s.Parked i := by
  -- The tasks that await something, one for each future on the heap.
  set futs := (s.clock.waiters.map Waiter.fut).toFinset with hfuts
  have hcard : futs.card = s.clock.pending := by
    have hnodup := h.nodup_futs
    rw [List.map_append] at hnodup
    rw [hfuts, List.toFinset_card_of_nodup hnodup.of_append_left, List.length_map]
    rfl
  have hmem : ∀ fut, fut ∈ futs ↔ ∃ w ∈ s.clock.waiters, w.fut = fut := by
    intro fut
    rw [hfuts, List.mem_toFinset, List.mem_map]
  set awaits := s.live.filter fun i ↦ ∃ fut ∈ futs, s.tasks i = .awaiting fut with hawaits
  have hparked : ∀ i ∈ s.live, i ∈ awaits ↔ s.Parked i := by
    intro i hi
    rw [hawaits, Finset.mem_filter, and_iff_right hi]
    constructor
    · rintro ⟨fut, hfut, hawait⟩
      obtain ⟨w, hw, rfl⟩ := (hmem fut).1 hfut
      exact ⟨w, hw, hawait⟩
    · rintro ⟨w, hw, hawait⟩
      exact ⟨w.fut, (hmem _).2 ⟨w, hw, rfl⟩, hawait⟩
  have himage : awaits.image (fun i ↦ (s.tasks i).fut) = futs := by
    refine Finset.Subset.antisymm (Finset.image_subset_iff.2 fun i hi ↦ ?_) fun fut hfut ↦ ?_
    · obtain ⟨fut, hfut, hawait⟩ := (Finset.mem_filter.1 hi).2
      rwa [hawait]
    · obtain ⟨w, hw, rfl⟩ := (hmem fut).1 hfut
      obtain ⟨i, hi, hawait⟩ := h.parked w hw
      refine Finset.mem_image.2 ⟨i, Finset.mem_filter.2 ⟨mem_live.2 ⟨hi, ?_⟩, _, hfut, hawait⟩, ?_⟩
      · rw [hawait]
        exact nofun
      · rw [hawait]
        rfl
  have hsame : awaits.card = futs.card := by
    rw [← himage]
    refine (Finset.card_image_of_injOn fun i hi j hj heq ↦ ?_).symm
    obtain ⟨fut, -, hawait⟩ := (Finset.mem_filter.1 hi).2
    obtain ⟨fut', -, hawait'⟩ := (Finset.mem_filter.1 hj).2
    have hfut : (s.tasks i).fut = (s.tasks j).fut := heq
    rw [hawait, hawait'] at hfut
    exact h.alone i j fut hawait (hawait'.trans (congrArg TaskState.awaiting hfut.symm))
  rw [← hcard, ← hsame]
  have hsub : awaits ⊆ s.live := Finset.filter_subset _ _
  constructor
  · intro hle i hi
    rw [← Finset.eq_of_subset_of_card_le hsub hle] at hi
    exact (hparked i (hsub hi)).1 hi
  · intro hall
    exact Finset.card_le_card fun i hi ↦ (hparked i hi).2 (hall i hi)

end Consistent

section Step

variable [Zero T] [Add T]

/-- A turn of a task keeps the loop consistent. -/
theorem taskStep_consistent (hadd : ∀ t seconds : T, 0 < seconds → t ≤ t + seconds)
    {s : SimLoop T} (h : s.Consistent) (i : ℕ) (turn : Turn T) :
    (s.taskStep i turn).Consistent := by
  rw [taskStep]
  by_cases hcan : i < s.created ∧ s.tasks i = .ready
  · rw [if_pos hcan]
    have hcreated := h.creates turn.creates
    have hi : i < s.created + turn.creates := Nat.lt_add_right _ hcan.1
    cases turn.pause with
    | finish => exact hcreated.finishes hi hcan.2
    | sleep seconds =>
      dsimp only
      by_cases hnone : seconds ≤ 0
      · rw [if_pos hnone]
        exact hcreated
      · rw [if_neg hnone]
        exact hcreated.parks hadd hi hcan.2 (not_le.1 hnone)
  · rw [if_neg hcan]
    exact h

end Step

/-! ### A turn of the driver -/

/-- **What a turn of the driver comes to**: an advance to the earliest deadline, when every live
task is parked, or nothing but a change of phase. -/
theorem driverStep_cases (d : Drive T) {s : SimLoop T} (h : s.Consistent) :
    (∃ spins nxt phase, s.phase = .parking spins ∧ (s.alive d).Nonempty ∧ spins < d.spin_limit ∧
        (∀ i ∈ s.live, s.Parked i) ∧ s.clock.next_deadline_s = some nxt ∧ nxt ≤ d.until_s ∧
        phase ≠ .ended false false ∧
        s.driverStep d = { s.advance nxt with steps := s.steps + 1, phase := phase }) ∨
      ∃ phase, s.driverStep d = { s with phase := phase } ∧
        (phase = .ended false false → s.phase ≠ .ended false false →
          (∀ i ∈ s.live, s.Parked i) ∧ ∃ nxt, s.clock.next_deadline_s = some nxt ∧
            d.until_s < nxt) := by
  rw [driverStep]
  cases hphase : s.phase with
  | ended completed stalled =>
    refine Or.inr ⟨s.phase, ?_, fun heq hne ↦ absurd (hphase.symm.trans heq) hne⟩
    rfl
  | parking spins =>
    dsimp only
    by_cases halive : s.alive d = ∅
    · rw [if_pos halive]
      exact Or.inr ⟨_, rfl, nofun⟩
    · rw [if_neg halive]
      by_cases hspin : spins < d.spin_limit
      · rw [if_pos hspin]
        by_cases hcard : s.live.card ≤ s.clock.pending
        · rw [if_pos hcard]
          -- The count says what it is meant to say: every live task is asleep.
          have hparked := h.card_live_le_iff.1 hcard
          cases hnxt : s.clock.next_deadline_s with
          | none => exact Or.inr ⟨_, rfl, nofun⟩
          | some nxt =>
            dsimp only
            by_cases huntil : d.until_s < nxt
            · rw [if_pos huntil]
              exact Or.inr ⟨_, rfl, fun _ _ ↦ ⟨hparked, nxt, rfl, huntil⟩⟩
            · rw [if_neg huntil]
              refine Or.inl ⟨spins, nxt, _, rfl, Finset.nonempty_iff_ne_empty.2 halive, hspin,
                hparked, rfl, not_lt.1 huntil, ?_, rfl⟩
              split_ifs
              · exact nofun
              · exact nofun
        · rw [if_neg hcard]
          exact Or.inr ⟨_, rfl, nofun⟩
      · rw [if_neg hspin]
        exact Or.inr ⟨_, rfl, nofun⟩

/-- Nothing else depends on the count of steps or on the driver's phase. -/
theorem Consistent.turns {s : SimLoop T} (h : s.Consistent) (steps : ℕ) (phase : DriverPhase) :
    Consistent { s with steps := steps, phase := phase } :=
  ⟨h.numbered, h.accounted, h.onTime, h.sorted, h.ahead, h.parked, h.waiting, h.alone, h.fresh⟩

/-- A turn of the driver keeps the loop consistent. -/
theorem driverStep_consistent (d : Drive T) {s : SimLoop T} (h : s.Consistent) :
    (s.driverStep d).Consistent := by
  obtain ⟨-, nxt, phase, -, -, -, -, hnxt, -, -, heq⟩ | ⟨phase, heq, -⟩ := driverStep_cases d h
  · rw [heq]
    exact (h.advance hnxt).turns _ _
  · rw [heq]
    exact h.turns _ _

section Step

variable [Zero T] [Add T]

/-- **Every turn keeps the loop consistent.** -/
theorem step_consistent (hadd : ∀ t seconds : T, 0 < seconds → t ≤ t + seconds) (d : Drive T)
    (s : SimLoop T) (ev : SimEvent T) (h : s.Consistent) : (s.step d ev).Consistent := by
  cases ev with
  | driver => exact driverStep_consistent d h
  | task i turn =>
    rw [step]
    cases s.phase with
    | parking spins => exact taskStep_consistent hadd h i turn
    | ended completed stalled => exact h

/-- A turn of a task moves no time and resolves nothing. -/
theorem taskStep_frame (s : SimLoop T) (i : ℕ) (turn : Turn T) :
    (s.taskStep i turn).clock.t = s.clock.t ∧ (s.taskStep i turn).woken = s.woken ∧
      (s.taskStep i turn).steps = s.steps ∧ (s.taskStep i turn).phase = s.phase := by
  rw [taskStep]
  by_cases hcan : i < s.created ∧ s.tasks i = .ready
  · rw [if_pos hcan]
    cases turn.pause with
    | finish => exact ⟨rfl, rfl, rfl, rfl⟩
    | sleep seconds =>
      dsimp only
      split_ifs
      · exact ⟨rfl, rfl, rfl, rfl⟩
      · exact ⟨rfl, rfl, rfl, rfl⟩
  · rw [if_neg hcan]
    exact ⟨rfl, rfl, rfl, rfl⟩

end Step

/-! ### Faithfulness -/

/-- What holds between two turns: every sleep waits on the heap for a deadline that has not passed,
or was woken, once and at its deadline. -/
structure Faithful (s : SimLoop T) : Prop where
  once : s.slept.Nodup ∧ (s.clock.waiters ++ s.woken.map Wakeup.waiter).Perm s.slept
  onTime : ∀ x ∈ s.woken, x.atTime = x.waiter.deadline
  waiting : ∀ w ∈ s.clock.waiters, s.clock.t ≤ w.deadline ∧
    ∃ i ∈ s.live, s.tasks i = .awaiting w.fut

/-- What a turn from `s` to `s'` does: time stands still, or it moves on to the earliest deadline
with every live task parked, and all sleepers of that deadline are woken. -/
structure FaithfulTurn (d : Drive T) (s : SimLoop T) (ev : SimEvent T) (s' : SimLoop T) :
    Prop where
  forward : s.clock.t ≤ s'.clock.t
  still : s'.steps = s.steps → s'.clock.t = s.clock.t ∧ s'.woken = s.woken
  parked : s'.steps ≠ s.steps → ∀ i ∈ s.live, s.Parked i
  together : s'.steps ≠ s.steps → ∃ resolved : List (Waiter T), resolved ≠ [] ∧
    s'.woken = s.woken ++ resolved.map (⟨·, s'.clock.t⟩) ∧
    ∀ w, w ∈ resolved ↔ w ∈ s.clock.waiters ∧ w.deadline = s'.clock.t
  advances : ev = .driver → ∀ spins nxt, s.phase = .parking spins → spins < d.spin_limit →
    (s.alive d).Nonempty → (∀ i ∈ s.live, s.Parked i) → s.clock.next_deadline_s = some nxt →
    nxt ≤ d.until_s → s'.clock.t = nxt ∧ s'.steps = s.steps + 1
  horizon : s.phase ≠ .ended false false → s'.phase = .ended false false →
    ∀ w ∈ s.slept, w.deadline ≤ d.until_s → ∃ x ∈ s.woken, x.waiter = w

/-- **A consistent loop is faithful.** -/
theorem Consistent.faithful {s : SimLoop T} (h : s.Consistent) : s.Faithful := by
  refine ⟨⟨?_, h.accounted⟩, h.onTime, fun w hw ↦ ⟨h.ahead w hw, ?_⟩⟩
  · refine List.Nodup.of_map Waiter.fut ?_
    rw [h.numbered]
    exact List.nodup_range
  · obtain ⟨i, hi, hawait⟩ := h.parked w hw
    refine ⟨i, mem_live.2 ⟨hi, ?_⟩, hawait⟩
    rw [hawait]
    exact nofun

/-- Nothing but the driver's own limits keeps it from an advance when every live task is parked. -/
theorem driverStep_advances (d : Drive T) {s : SimLoop T} (h : s.Consistent) (spins : ℕ) (nxt : T)
    (hphase : s.phase = .parking spins) (hspin : spins < d.spin_limit)
    (halive : (s.alive d).Nonempty) (hparked : ∀ i ∈ s.live, s.Parked i)
    (hnxt : s.clock.next_deadline_s = some nxt) (huntil : nxt ≤ d.until_s) :
    (s.driverStep d).clock.t = nxt ∧ (s.driverStep d).steps = s.steps + 1 := by
  rw [driverStep, hphase]
  dsimp only
  rw [if_neg (Finset.nonempty_iff_ne_empty.1 halive), if_pos hspin,
    if_pos (h.card_live_le_iff.2 hparked), hnxt]
  dsimp only
  rw [if_neg (not_lt.2 huntil)]
  exact ⟨rfl, rfl⟩

/-- An advance pops the entries of the earliest deadline. -/
theorem mem_due_iff {s : SimLoop T} (h : s.Consistent) {nxt : T}
    (hnxt : s.clock.next_deadline_s = some nxt) (w : Waiter T) :
    w ∈ s.clock.due nxt ↔ w ∈ s.clock.waiters ∧ w.deadline = nxt := by
  obtain ⟨-, hleast⟩ := le_of_next_deadline h.sorted hnxt
  have hsplit := due_append s.clock nxt
  constructor
  · intro hw
    have hmem : w ∈ s.clock.waiters := hsplit ▸ List.mem_append_left _ hw
    exact ⟨hmem, le_antisymm (deadline_of_due hw) (hleast w hmem)⟩
  · rintro ⟨hmem, hdeadline⟩
    rw [← hsplit] at hmem
    obtain hw | hw := List.mem_append.1 hmem
    · exact hw
    · exact absurd hdeadline (lt_of_mem_advance h.sorted hw).ne'

/-- What the driver wakes is due, and the clock stands at its deadline. -/
theorem driverStep_faithful (d : Drive T) {s : SimLoop T} (h : s.Consistent) :
    FaithfulTurn d s .driver (s.driverStep d) := by
  have hadvances := driverStep_advances d h
  obtain ⟨-, nxt, phase, -, -, -, hparked, hnxt, -, hphase, heq⟩ | ⟨phase, heq, hhorizon⟩ :=
    driverStep_cases d h
  · obtain ⟨⟨w, hw, hdeadline⟩, -⟩ := le_of_next_deadline h.sorted hnxt
    have hmoved : (s.driverStep d).steps ≠ s.steps := by
      rw [heq]
      exact Nat.succ_ne_self s.steps
    refine ⟨?_, fun hstill ↦ absurd hstill hmoved, fun _ ↦ hparked, fun _ ↦ ?_,
      fun _ ↦ hadvances, fun _ hend ↦ ?_⟩
    · rw [heq, ← hdeadline]
      exact h.ahead w hw
    · have hdue : w ∈ s.clock.due nxt := (mem_due_iff h hnxt w).2 ⟨hw, hdeadline⟩
      refine ⟨s.clock.due nxt, List.ne_nil_of_mem hdue, ?_, ?_⟩
      · rw [heq]
        show (s.advance nxt).woken = _
        rw [SimLoop.advance, h.resolved_eq nxt]
        rfl
      · rw [heq]
        exact mem_due_iff h hnxt
    · rw [heq] at hend
      exact absurd hend hphase
  · -- A turn that does not move time.
    have hsteps : (s.driverStep d).steps = s.steps := by rw [heq]
    refine ⟨?_, fun _ ↦ ?_, fun hmoved ↦ absurd hsteps hmoved, fun hmoved ↦ absurd hsteps hmoved,
      fun _ ↦ hadvances, fun hbefore hend w hw hwithin ↦ ?_⟩
    · rw [heq]
    · rw [heq]
      exact ⟨rfl, rfl⟩
    · rw [heq] at hend
      obtain ⟨-, nxt, hnxt, hlate⟩ := hhorizon hend hbefore
      obtain hheap | hwoken := List.mem_append.1 (h.accounted.mem_iff.2 hw)
      · have hleast := (le_of_next_deadline h.sorted hnxt).2 w hheap
        exact absurd (hleast.trans hwithin) (not_le.2 hlate)
      · obtain ⟨x, hx, hxw⟩ := List.mem_map.1 hwoken
        exact ⟨x, hx, hxw⟩

/-- A turn in which neither time nor the phase changes. -/
theorem faithfulTurn_of_frame (d : Drive T) {s s' : SimLoop T} (i : ℕ) (turn : Turn T)
    (htime : s'.clock.t = s.clock.t) (hwoken : s'.woken = s.woken) (hsteps : s'.steps = s.steps)
    (hphase : s'.phase = s.phase) : FaithfulTurn d s (.task i turn) s' where
  forward := htime.ge
  still := fun _ ↦ ⟨htime, hwoken⟩
  parked := fun hmoved ↦ absurd hsteps hmoved
  together := fun hmoved ↦ absurd hsteps hmoved
  advances := nofun
  horizon := fun hbefore hend ↦ absurd (hphase.symm.trans hend) hbefore

/-- **The virtual clock is faithful**, for any tasks and any order of the event loop. -/
theorem drive_virtual_clock_faithful [Zero T] [Add T]
    (hadd : ∀ t seconds : T, 0 < seconds → t ≤ t + seconds) (d : Drive T) (start_s : T)
    (others : ℕ) (evs : List (SimEvent T)) :
    (run (step d) (init d start_s others) evs).Faithful ∧
      ∀ ev, FaithfulTurn d (run (step d) (init d start_s others) evs) ev
        (step d (run (step d) (init d start_s others) evs) ev) := by
  have h : (run (step d) (init d start_s others) evs).Consistent :=
    run_invariant (step d) (step_consistent hadd d) (consistent_init d start_s others) evs
  refine ⟨h.faithful, fun ev ↦ ?_⟩
  cases ev with
  | driver => exact driverStep_faithful d h
  | task i turn =>
    rw [step]
    cases (run (step d) (init d start_s others) evs).phase with
    | ended completed stalled => exact faithfulTurn_of_frame d i turn rfl rfl rfl rfl
    | parking spins =>
      obtain ⟨htime, hwoken, hsteps, hphase⟩ :=
        taskStep_frame (run (step d) (init d start_s others) evs) i turn
      exact faithfulTurn_of_frame d i turn htime hwoken hsteps hphase

/-- Two tasks that sleep for 2 s and 3 s, the second of them behind a yield: the driver moves to 2 s
and to 3 s. -/
theorem drive_virtual_clock_faithful_pair :
    (run (step ⟨2, 10, 100, 10⟩) (init ⟨2, 10, 100, 10⟩ (0 : ℚ) 0)
      [.driver, .task 0 ⟨0, .sleep 2⟩, .task 1 ⟨0, .sleep 0⟩, .driver, .task 1 ⟨0, .sleep 3⟩,
        .driver, .task 0 ⟨0, .finish⟩, .driver]).Faithful ∧
      (run (step ⟨2, 10, 100, 10⟩) (init ⟨2, 10, 100, 10⟩ (0 : ℚ) 0)
        [.driver, .task 0 ⟨0, .sleep 2⟩, .task 1 ⟨0, .sleep 0⟩, .driver, .task 1 ⟨0, .sleep 3⟩,
          .driver, .task 0 ⟨0, .finish⟩, .driver]).woken.map Wakeup.atTime = [2, 3] :=
  ⟨(drive_virtual_clock_faithful (fun t _ hpos ↦ (lt_add_of_pos_right t hpos).le) _ 0 0 _).1,
    by decide +kernel⟩

end SimLoop

end VertexTestbed.Host
