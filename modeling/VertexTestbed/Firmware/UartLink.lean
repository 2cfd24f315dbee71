import VertexTestbed.Firmware.Parser
import VertexTestbed.Lib.Runs

/-!
# The transmit queue of the UART

`uart_link_send`, `tx_work_handler` and the transmit events of `uart_cb` (`uart_link.c`). A sender
queues a frame and submits the transmit work; the handler hands one frame to `uart_tx` and marks the
line busy; the driver's TX_DONE or TX_ABORTED frees the line and submits the work again.

A run is any order of sends, executions of the handler (with what `uart_tx` returns to it) and
driver events; each of them is one step. The handler may also run without a submission. The driver
reports the end of a frame it took once, and of no other.

The books are always right: frames go out in order, once each and one at a time, and all others are
counted (`accounts_run`). What fails is the wake-up: a frame that is queued behind one that
`uart_tx` turns away has no work that would send it (`served_iff`).
-/

namespace VertexTestbed.Firmware

open Runs

/-- `PROTO_MAX_FRAME`. -/
def protoMaxFrame : ℕ := protoMaxPayload + protoOverhead

/-- `TX_QUEUE_DEPTH`. -/
def txQueueDepth : ℕ := 8

/-- The transmit side. Behind the module's own variables stand the frame the driver works on, and
the frames that were accepted, handed to `uart_tx`, turned away by it, and refused. -/
structure UartLink where
  txQueue : List Bytes
  txInProgress : Bool
  workPending : Bool
  txDropped : UInt32
  txFrames : UInt32
  inFlight : List Bytes
  accepted : List Bytes
  handed : List Bytes
  failed : List Bytes
  refused : List Bytes
  deriving DecidableEq

/-- What happens next. -/
inductive UartEvent where
  | send (type : UInt8) (payload : Bytes)
  /-- The work queue runs the handler; `uart_tx` returns `err`, if it is called. -/
  | work (err : ℤ)
  | txDone
  | txAborted

/-- `-EINVAL` and `-ENOMEM`. -/
def errInval : ℤ := -22

/-- `-ENOMEM`. -/
def errNomem : ℤ := -12

namespace UartLink

/-- The module at start-up. -/
def init : UartLink where
  txQueue := []
  txInProgress := false
  workPending := false
  txDropped := 0
  txFrames := 0
  inFlight := []
  accepted := []
  handed := []
  failed := []
  refused := []

/-- `uart_link_send`. -/
def uartLinkSend (s : UartLink) (type : UInt8) (payload : Bytes) : ℤ × UartLink :=
  match protoBuild protoMaxFrame type payload with
  | none => (errInval, s)
  | some e =>
    if s.txQueue.length < txQueueDepth then
      (0, { s with
        txQueue := s.txQueue ++ [e]
        workPending := true
        accepted := s.accepted ++ [e] })
    else (errNomem, { s with txDropped := s.txDropped + 1, refused := s.refused ++ [e] })

/-- `tx_work_handler`. -/
def txWorkHandler (s : UartLink) (err : ℤ) : UartLink :=
  if s.txInProgress then { s with workPending := false }
  else
    match s.txQueue with
    | [] => { s with workPending := false }
    | e :: rest =>
      if err ≠ 0 then
        { s with
          txQueue := rest
          workPending := false
          txDropped := s.txDropped + 1
          handed := s.handed ++ [e]
          failed := s.failed ++ [e] }
      else
        { s with
          txQueue := rest
          workPending := false
          txInProgress := true
          txFrames := s.txFrames + 1
          handed := s.handed ++ [e]
          inFlight := s.inFlight ++ [e] }

/-- UART_TX_DONE and UART_TX_ABORTED in `uart_cb`, for the frame that the driver took first. -/
def txEnded (s : UartLink) : UartLink :=
  match s.inFlight with
  | [] => s
  | _ :: rest => { s with txInProgress := false, workPending := true, inFlight := rest }

/-- The next step. -/
def step (s : UartLink) : UartEvent → UartLink
  | .send type payload => (s.uartLinkSend type payload).2
  | .work err => s.txWorkHandler err
  | .txDone => s.txEnded
  | .txAborted => s.txEnded

/-! ### What a step does -/

/-- **The books.** One frame at most is in flight, and the line is busy exactly while one is; what
was accepted went to `uart_tx` in order, once each, or is queued; and what never goes out is
counted. -/
structure Accounts (s : UartLink) : Prop where
  single : s.inFlight.length ≤ 1
  busy : s.txInProgress = false ↔ s.inFlight = []
  ordered : s.handed ++ s.txQueue = s.accepted
  counted : s.txDropped = UInt32.ofNat (s.refused.length + s.failed.length)
  depth : s.txQueue.length ≤ txQueueDepth

/-- **Awake**: a queued frame has a frame in flight ahead of it or a work that will send it. -/
def Awake (s : UartLink) : Prop := s.txQueue ≠ [] → s.inFlight = [] → s.workPending = true

instance (s : UartLink) : Decidable s.Awake := inferInstanceAs (Decidable (_ → _ → _))

theorem accounts_init : init.Accounts where
  single := Nat.zero_le 1
  busy := iff_of_true rfl rfl
  ordered := rfl
  counted := rfl
  depth := Nat.zero_le _

theorem awake_init : init.Awake := fun h ↦ absurd rfl h

/-- What a send does: nothing, or it queues a frame and submits the work, or it counts it. -/
theorem uartLinkSend_cases (s : UartLink) (type : UInt8) (payload : Bytes) :
    (s.uartLinkSend type payload).2 = s ∨
      (∃ e, s.txQueue.length < txQueueDepth ∧ (s.uartLinkSend type payload).2 =
        { s with
          txQueue := s.txQueue ++ [e], workPending := true, accepted := s.accepted ++ [e] }) ∨
      ∃ e, (s.uartLinkSend type payload).2 =
        { s with txDropped := s.txDropped + 1, refused := s.refused ++ [e] } := by
  rw [uartLinkSend]
  cases protoBuild protoMaxFrame type payload with
  | none => exact Or.inl rfl
  | some e =>
    dsimp only
    by_cases hroom : s.txQueue.length < txQueueDepth
    · rw [if_pos hroom]
      exact Or.inr (Or.inl ⟨e, hroom, rfl⟩)
    · rw [if_neg hroom]
      exact Or.inr (Or.inr ⟨e, rfl⟩)

/-- What the handler does: nothing but end the submission, or it sends the first queued frame, or
drops it. -/
theorem txWorkHandler_cases (s : UartLink) (err : ℤ) :
    ((s.txInProgress = true ∨ s.txQueue = []) ∧
        s.txWorkHandler err = { s with workPending := false }) ∨
      ∃ e rest, s.txInProgress = false ∧ s.txQueue = e :: rest ∧
        (err ≠ 0 ∧ s.txWorkHandler err =
            { s with
              txQueue := rest, workPending := false, txDropped := s.txDropped + 1,
              handed := s.handed ++ [e], failed := s.failed ++ [e] } ∨
          err = 0 ∧ s.txWorkHandler err =
            { s with
              txQueue := rest, workPending := false, txInProgress := true,
              txFrames := s.txFrames + 1, handed := s.handed ++ [e],
              inFlight := s.inFlight ++ [e] }) := by
  rw [txWorkHandler]
  cases hbusy : s.txInProgress with
  | true => exact Or.inl ⟨Or.inl rfl, rfl⟩
  | false =>
    rw [if_neg Bool.false_ne_true]
    cases hqueue : s.txQueue with
    | nil => exact Or.inl ⟨Or.inr rfl, rfl⟩
    | cons e rest =>
      dsimp only
      refine Or.inr ⟨e, rest, rfl, rfl, ?_⟩
      by_cases herr : err = 0
      · rw [if_neg (not_not.2 herr)]
        exact Or.inr ⟨herr, rfl⟩
      · rw [if_pos herr]
        exact Or.inl ⟨herr, rfl⟩

/-- What the end of a transmission does. -/
theorem txEnded_cases (s : UartLink) :
    s.inFlight = [] ∧ s.txEnded = s ∨
      ∃ e rest, s.inFlight = e :: rest ∧
        s.txEnded = { s with txInProgress := false, workPending := true, inFlight := rest } := by
  rw [txEnded]
  cases s.inFlight with
  | nil => exact Or.inl ⟨rfl, rfl⟩
  | cons e rest => exact Or.inr ⟨e, rest, rfl, rfl⟩

/-! ### The books -/

/-- One more frame in a count. -/
theorem count_succ {n : UInt32} {k : ℕ} (h : n = UInt32.ofNat k) :
    n + 1 = UInt32.ofNat (k + 1) := by
  rw [h, UInt32.ofNat_add]
  rfl

theorem Accounts.send {s : UartLink} (h : s.Accounts) (type : UInt8) (payload : Bytes) :
    (s.uartLinkSend type payload).2.Accounts := by
  obtain heq | ⟨e, hroom, heq⟩ | ⟨e, heq⟩ := uartLinkSend_cases s type payload
  · rw [heq]
    exact h
  · rw [heq]
    refine ⟨h.single, h.busy, ?_, h.counted, ?_⟩
    · rw [← List.append_assoc, h.ordered]
    · rw [List.length_append]
      exact hroom
  · rw [heq]
    refine ⟨h.single, h.busy, h.ordered, ?_, h.depth⟩
    rw [count_succ h.counted, List.length_append]
    exact congrArg UInt32.ofNat (Nat.add_right_comm _ _ 1)

theorem Accounts.work {s : UartLink} (h : s.Accounts) (err : ℤ) :
    (s.txWorkHandler err).Accounts := by
  obtain ⟨-, heq⟩ | ⟨e, rest, hfree, hqueue, ⟨-, heq⟩ | ⟨-, heq⟩⟩ := txWorkHandler_cases s err
  · rw [heq]
    exact ⟨h.single, h.busy, h.ordered, h.counted, h.depth⟩
  · have hordered : (s.handed ++ [e]) ++ rest = s.accepted := by
      rw [← h.ordered, hqueue, List.append_assoc]
      rfl
    have hdepth : rest.length ≤ txQueueDepth := by
      have := h.depth
      rw [hqueue, List.length_cons] at this
      exact (Nat.le_succ _).trans this
    rw [heq]
    refine ⟨h.single, h.busy, hordered, ?_, hdepth⟩
    rw [count_succ h.counted, List.length_append]
    rfl
  · have hordered : (s.handed ++ [e]) ++ rest = s.accepted := by
      rw [← h.ordered, hqueue, List.append_assoc]
      rfl
    have hdepth : rest.length ≤ txQueueDepth := by
      have := h.depth
      rw [hqueue, List.length_cons] at this
      exact (Nat.le_succ _).trans this
    have hnone : s.inFlight = [] := h.busy.1 hfree
    rw [heq, hnone]
    exact ⟨le_rfl, iff_of_false nofun nofun, hordered, h.counted, hdepth⟩

theorem Accounts.ended {s : UartLink} (h : s.Accounts) : s.txEnded.Accounts := by
  obtain ⟨-, heq⟩ | ⟨e, rest, hflight, heq⟩ := txEnded_cases s
  · rw [heq]
    exact h
  · have hrest : rest = [] := by
      have := h.single
      rw [hflight, List.length_cons] at this
      exact List.length_eq_zero_iff.1 (by omega)
    rw [heq, hrest]
    exact ⟨Nat.zero_le 1, iff_of_true rfl rfl, h.ordered, h.counted, h.depth⟩

theorem Accounts.step {s : UartLink} (h : s.Accounts) (ev : UartEvent) : (s.step ev).Accounts := by
  cases ev with
  | send type payload => exact h.send type payload
  | work err => exact h.work err
  | txDone => exact h.ended
  | txAborted => exact h.ended

/-! ### The wake-up -/

/-- **An error of `uart_tx` finds no other frame in the queue.** -/
def NothingBehind (s : UartLink) : UartEvent → Prop
  | .work err => err ≠ 0 → s.txInProgress = false → s.txQueue.length ≤ 1
  | _ => True

instance (s : UartLink) : ∀ ev, Decidable (s.NothingBehind ev)
  | .work err =>
    inferInstanceAs (Decidable (err ≠ 0 → s.txInProgress = false → s.txQueue.length ≤ 1))
  | .send _ _ => .isTrue trivial
  | .txDone => .isTrue trivial
  | .txAborted => .isTrue trivial

theorem Awake.send {s : UartLink} (h : s.Awake) (type : UInt8) (payload : Bytes) :
    (s.uartLinkSend type payload).2.Awake := by
  obtain heq | ⟨e, -, heq⟩ | ⟨e, heq⟩ := uartLinkSend_cases s type payload
  · rw [heq]
    exact h
  · rw [heq]
    exact fun _ _ ↦ rfl
  · rw [heq]
    exact h

theorem Awake.ended {s : UartLink} (h : s.Awake) : s.txEnded.Awake := by
  obtain ⟨-, heq⟩ | ⟨e, rest, -, heq⟩ := txEnded_cases s
  · rw [heq]
    exact h
  · rw [heq]
    exact fun _ _ ↦ rfl

/-- The handler leaves a queued frame without a work exactly if it drops the one ahead of it. -/
theorem awake_work_iff {s : UartLink} (h : s.Accounts) (err : ℤ) :
    s.NothingBehind (.work err) ↔ (s.txWorkHandler err).Awake := by
  obtain ⟨hidle, heq⟩ | ⟨e, rest, hfree, hqueue, ⟨herr, heq⟩ | ⟨herr, heq⟩⟩ :=
    txWorkHandler_cases s err
  · rw [heq]
    obtain hbusy | hempty := hidle
    · refine iff_of_true (fun _ hfree ↦ ?_) fun _ hnone ↦ ?_
      · rw [hbusy] at hfree
        cases hfree
      · have hfree := h.busy.2 hnone
        rw [hbusy] at hfree
        cases hfree
    · refine iff_of_true (fun _ _ ↦ ?_) fun hne _ ↦ absurd hempty hne
      rw [hempty]
      exact Nat.zero_le 1
  · have hnone := h.busy.1 hfree
    rw [heq]
    constructor
    · intro hbehind hne
      have hlength := hbehind herr hfree
      rw [hqueue, List.length_cons] at hlength
      have hrest : rest = [] := List.length_eq_zero_iff.1 (by omega)
      exact absurd hrest hne
    · intro hawake _ _
      rw [hqueue]
      by_contra hmore
      have hne : rest ≠ [] := by
        rintro rfl
        exact hmore le_rfl
      -- No frame is in flight and none is submitted for the ones that stay.
      exact absurd (hawake hne hnone) Bool.false_ne_true
  · rw [heq]
    refine iff_of_true (fun hne ↦ absurd herr hne) fun _ hnone ↦ ?_
    exact absurd hnone (List.append_ne_nil_of_right_ne_nil _ (List.cons_ne_nil e []))

theorem awake_iff {s : UartLink} (h : s.Accounts) (hawake : s.Awake) (ev : UartEvent) :
    s.NothingBehind ev ↔ (s.step ev).Awake := by
  cases ev with
  | send type payload => exact iff_of_true trivial (hawake.send type payload)
  | work err => exact awake_work_iff h err
  | txDone => exact iff_of_true trivial hawake.ended
  | txAborted => exact iff_of_true trivial hawake.ended

/-- The books of a run are right whatever `uart_tx` returns. -/
theorem accounts_run (evs : List UartEvent) : (run step init evs).Accounts :=
  run_invariant step (fun _ ev h ↦ h.step ev) accounts_init evs

/-- **Served**: the books are right, and no queued frame waits for a send. -/
def Served (s : UartLink) : Prop := s.Accounts ∧ s.Awake

/-- **A run serves every frame exactly if no error of `uart_tx` leaves one queued behind it.** -/
theorem served_iff (evs : List UartEvent) :
    Guarded step NothingBehind init evs ↔ ∀ n, (run step init (evs.take n)).Served :=
  guarded_iff_forall_take (J := fun _ _ ↦ True) (P := Served) (fun _ _ _ _ ↦ trivial)
    (fun _ _ ev _ h ↦ (awake_iff h.1 h.2 ev).trans (and_iff_right (h.1.step ev)).symm)
    trivial ⟨accounts_init, awake_init⟩

/-- Two frames are queued before the handler runs, and `uart_tx` turns the first one away. -/
def stuckRun : List UartEvent := [.send protoTPing [], .send protoTPing [], .work (-16)]

/-- **The second frame is stuck**: it is queued, nothing is in flight, and no work is pending. -/
theorem stuckRun_not_served :
    (run step init stuckRun).txQueue.length = 1 ∧ (run step init stuckRun).inFlight = [] ∧
      (run step init stuckRun).workPending = false ∧
      ¬∀ n, (run step init (stuckRun.take n)).Served := by
  refine ⟨by decide +kernel, by decide +kernel, by decide +kernel, fun h ↦ ?_⟩
  have hawake : ¬(run step init (stuckRun.take 3)).Awake := by decide +kernel
  exact hawake (h 3).2

/-! ### What an awake link owes -/

/-- The steps that come without a send: a work that is pending, and the end of a frame in flight. -/
def Owed (s : UartLink) : UartEvent → Prop
  | .send _ _ => False
  | .work _ => s.workPending = true
  | .txDone => s.inFlight ≠ []
  | .txAborted => s.inFlight ≠ []

/-- The handler and the driver in turn, `n` times. -/
def drain : ℕ → List UartEvent
  | 0 => []
  | n + 1 => .work 0 :: .txDone :: drain n

/-- **An awake link sends all that is queued on its own**, when `uart_tx` takes it. -/
theorem drain_owed {s : UartLink} (h : s.Accounts) (hawake : s.Awake) (hnone : s.inFlight = [])
    {n : ℕ} (hn : s.txQueue.length = n) :
    Guarded step Owed s (drain n) ∧ (run step s (drain n)).handed = s.accepted := by
  -- On the length of the queue: the handler and one TX_DONE take off its head.
  induction n generalizing s with
  | zero =>
    have hempty := List.length_eq_zero_iff.1 hn
    have hordered := h.ordered
    rw [hempty, List.append_nil] at hordered
    exact ⟨trivial, hordered⟩
  | succ n ih =>
    have hfree := h.busy.2 hnone
    have hne : s.txQueue ≠ [] := by
      intro hempty
      rw [hempty] at hn
      cases hn
    obtain ⟨hidle, -⟩ | ⟨e, rest, -, hqueue, ⟨herr, -⟩ | ⟨-, hwork⟩⟩ := txWorkHandler_cases s 0
    · obtain hbusy | hempty := hidle
      · rw [hfree] at hbusy
        cases hbusy
      · exact absurd hempty hne
    · exact absurd rfl herr
    · have hsent : (s.step (.work 0)).inFlight = [e] := by
        show (s.txWorkHandler 0).inFlight = [e]
        rw [hwork, hnone]
        rfl
      obtain ⟨hnothing, -⟩ | ⟨e', rest', hflight, hdone⟩ := txEnded_cases (s.step (.work 0))
      · rw [hsent] at hnothing
        cases hnothing
      · rw [hsent] at hflight
        cases hflight
        have hnext := (h.step (.work 0)).step .txDone
        have hawake' : ((s.step (.work 0)).step .txDone).Awake := fun _ _ ↦ by
          show (s.step (.work 0)).txEnded.workPending = true
          rw [hdone]
        have hqueue' : ((s.step (.work 0)).step .txDone).txQueue = rest := by
          show (s.step (.work 0)).txEnded.txQueue = rest
          rw [hdone]
          show (s.txWorkHandler 0).txQueue = rest
          rw [hwork]
        have hnone' : ((s.step (.work 0)).step .txDone).inFlight = [] := by
          show (s.step (.work 0)).txEnded.inFlight = []
          rw [hdone]
        have haccepted : ((s.step (.work 0)).step .txDone).accepted = s.accepted := by
          show (s.step (.work 0)).txEnded.accepted = s.accepted
          rw [hdone]
          show (s.txWorkHandler 0).accepted = s.accepted
          rw [hwork]
        have hlength : ((s.step (.work 0)).step .txDone).txQueue.length = n := by
          rw [hqueue']
          rw [hqueue, List.length_cons] at hn
          omega
        obtain ⟨howed, hhanded⟩ := ih hnext hawake' hnone' hlength
        refine ⟨⟨hawake hne hnone, ?_, howed⟩, hhanded.trans haccepted⟩
        show (s.step (.work 0)).inFlight ≠ []
        rw [hsent]
        exact List.cons_ne_nil e []

end UartLink

end VertexTestbed.Firmware
