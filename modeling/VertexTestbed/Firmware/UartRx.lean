import VertexTestbed.Firmware.Parser
import VertexTestbed.Lib.Runs

/-!
# The receive path of the UART

`rx_work_handler`, `idle_work_handler` and the receive events of `uart_cb` (`uart_link.c`). The
driver's callback puts what a DMA buffer holds into a ring and submits the receive work; the handler
takes the ring out in chunks and feeds the parser; and a frame that stays open arms a timer.

The callback runs in an interrupt and the handlers in a thread, so a run is any order of callbacks
and steps of the handlers, a step of the receive handler being one look into the ring or one byte
fed: an interrupt may come between any two of them, an RX_DISABLED with its reset of the parser
included. A handler is done before the other begins, and a submission while the receive handler runs
makes it run again. A timer whose deadline has passed cannot be called back, so the idle handler may
come at any time between the others.

**The parser sees one stream.** What it has been through is a sequence of bytes, timeouts and resets
(`UartRx.log`); its bytes, with those on their way in the handler and in the ring, are what was
accepted, in order (`Receives.stream`). And no accepted byte is forgotten: where the ring holds one,
the handler runs or will run (`Receives.awake`).
-/

namespace VertexTestbed.Firmware

open Runs

/-- `proto_parser_in_frame`. -/
def protoParserInFrame (p : ProtoParser) : Bool := decide (p.state ≠ .waitSof)

/-- `DMA_BUF_SIZE`, `RX_RING_SIZE`, and the size of the handler's chunk. -/
def dmaBufSize : ℕ := 256

/-- `RX_RING_SIZE`. -/
def rxRingSize : ℕ := 1024

/-- The bytes that the handler takes out of the ring at a time. -/
def rxChunkSize : ℕ := 64

/-- What the parser is put through. -/
inductive ParserOp where
  | byte (b : UInt8)
  | timeout
  | reset
  deriving DecidableEq

/-- The byte of a step of the parser. -/
def ParserOp.fed : ParserOp → Option UInt8
  | .byte b => some b
  | _ => none

/-- The parser, and the frames that it has called back with. -/
def parserStep (p : ProtoParser × List (UInt8 × Bytes)) :
    ParserOp → ProtoParser × List (UInt8 × Bytes)
  | .byte b => ((protoFeed p.1 b).1, p.2 ++ (protoFeed p.1 b).2.toList)
  | .timeout => (protoParserTimeout p.1, p.2)
  | .reset => (protoParserReset p.1, p.2)

/-- The receive side. `handler` is the rest of the chunk of a handler that runs. Behind the module's
own variables stand the buffers that the driver handed over, the bytes of them that found room, how
many did not, what the parser was put through, and the frames that it called back with. -/
structure UartRx where
  ring : Bytes
  rxPending : Bool
  handler : Option Bytes
  idleArmed : Bool
  parser : ProtoParser
  rxPartialFlushes : UInt32
  rxFullFlushes : UInt32
  rxOverrunBytes : UInt32
  rxStopped : UInt32
  buffers : List Bytes
  accepted : Bytes
  overrun : ℕ
  log : List ParserOp
  frames : List (UInt8 × Bytes)

/-- What happens next. -/
inductive RxEvent where
  /-- UART_RX_RDY. -/
  | rxRdy (data : Bytes)
  | rxStopped
  /-- UART_RX_DISABLED. -/
  | rxDisabled
  /-- A step of the receive handler. -/
  | work
  /-- The idle handler. -/
  | idle

/-- The bytes that an event brings. -/
def RxEvent.data : RxEvent → Bytes
  | .rxRdy data => data
  | _ => []

namespace UartRx

/-- The module behind `uart_link_init`. -/
def init : UartRx where
  ring := []
  rxPending := false
  handler := none
  idleArmed := false
  parser := protoParserInit
  rxPartialFlushes := 0
  rxFullFlushes := 0
  rxOverrunBytes := 0
  rxStopped := 0
  buffers := []
  accepted := []
  overrun := 0
  log := []
  frames := []

/-- UART_RX_RDY in `uart_cb`. `ring_buf_put` takes what there is room for. -/
def rxRdy (s : UartRx) (data : Bytes) : UartRx :=
  let put := data.take (rxRingSize - s.ring.length)
  { s with
    ring := s.ring ++ put
    rxPending := true
    -- A buffer that is not full was flushed by the timeout of the line.
    rxPartialFlushes :=
      if data.length < dmaBufSize then s.rxPartialFlushes + 1 else s.rxPartialFlushes
    rxFullFlushes := if data.length < dmaBufSize then s.rxFullFlushes else s.rxFullFlushes + 1
    rxOverrunBytes :=
      if put.length < data.length then
        s.rxOverrunBytes + UInt32.ofNat (data.length - put.length)
      else s.rxOverrunBytes
    buffers := s.buffers ++ [data]
    accepted := s.accepted ++ put
    overrun := s.overrun + (data.length - put.length) }

/-- The parser goes through one step. -/
def parse (s : UartRx) (op : ParserOp) : UartRx :=
  let p := parserStep (s.parser, s.frames) op
  { s with parser := p.1, frames := p.2, log := s.log ++ [op] }

/-- A step of `rx_work_handler`: its start, a byte of `proto_feed`, a call of `ring_buf_get`, or its
end. -/
def rxWorkHandler (s : UartRx) : UartRx :=
  match s.handler with
  | none => if s.rxPending then { s with rxPending := false, handler := some [] } else s
  | some (b :: rest) => { s.parse (.byte b) with handler := some rest }
  | some [] =>
    if s.ring = [] then { s with handler := none, idleArmed := protoParserInFrame s.parser }
    else
      { s with ring := s.ring.drop rxChunkSize, handler := some (s.ring.take rxChunkSize) }

/-- `idle_work_handler`. -/
def idleWorkHandler (s : UartRx) : UartRx :=
  match s.handler with
  | some _ => s
  | none =>
    let s := { s with idleArmed := false }
    if protoParserInFrame s.parser then s.parse .timeout else s

/-- The next step. -/
def step (s : UartRx) : RxEvent → UartRx
  | .rxRdy data => s.rxRdy data
  | .rxStopped => { s with rxStopped := s.rxStopped + 1 }
  | .rxDisabled => s.parse .reset
  | .work => s.rxWorkHandler
  | .idle => s.idleWorkHandler

/-! ### What every step keeps -/

/-- The bytes that the handler has taken out of the ring and not fed yet. -/
def chunk (s : UartRx) : Bytes := s.handler.getD []

/-- **The receive path at any time.** -/
structure Receives (s : UartRx) : Prop where
  replay : (s.parser, s.frames) = run parserStep (protoParserInit, []) s.log
  stream : s.log.filterMap ParserOp.fed ++ s.chunk ++ s.ring = s.accepted
  room : s.ring.length ≤ rxRingSize
  short : s.chunk.length ≤ rxChunkSize
  taken : s.accepted.Sublist s.buffers.flatten
  total : s.accepted.length + s.overrun = s.buffers.flatten.length
  overrun : s.rxOverrunBytes = UInt32.ofNat s.overrun
  partialFlushes :
    s.rxPartialFlushes = UInt32.ofNat (s.buffers.countP fun data ↦ data.length < dmaBufSize)
  fullFlushes :
    s.rxFullFlushes = UInt32.ofNat (s.buffers.countP fun data ↦ dmaBufSize ≤ data.length)
  awake : s.ring ≠ [] → s.rxPending = true ∨ s.handler.isSome
  watched : s.handler = none → s.rxPending = false → protoParserInFrame s.parser = true →
    s.idleArmed = true

theorem receives_init : init.Receives where
  replay := rfl
  stream := rfl
  room := Nat.zero_le _
  short := Nat.zero_le _
  taken := .slnil
  total := rfl
  overrun := rfl
  partialFlushes := rfl
  fullFlushes := rfl
  awake := fun h ↦ absurd rfl h
  watched := fun _ _ h ↦ by cases h

/-- The parser's own step, as the last of its log. -/
theorem replay_parse {s : UartRx}
    (h : (s.parser, s.frames) = run parserStep (protoParserInit, []) s.log) (op : ParserOp) :
    ((s.parse op).parser, (s.parse op).frames) =
      run parserStep (protoParserInit, []) (s.parse op).log := by
  show parserStep (s.parser, s.frames) op = run parserStep (protoParserInit, []) (s.log ++ [op])
  rw [run_concat, ← h]

/-- A timeout or a reset leaves no frame open. -/
theorem not_inFrame_parse {s : UartRx} {op : ParserOp} (hop : op.fed = none) :
    protoParserInFrame (s.parse op).parser = false := by
  cases op with
  | byte b => cases hop
  | timeout =>
    refine decide_eq_false (not_not.2 ?_)
    exact protoParserTimeout_state s.parser
  | reset => rfl

theorem count_flush (n : UInt32) (k : ℕ) (h : n = UInt32.ofNat k) (p : Bool) :
    (if p then n + 1 else n) = UInt32.ofNat (k + if p then 1 else 0) := by
  subst h
  cases p with
  | true => rw [if_pos rfl, if_pos rfl, UInt32.ofNat_add]; rfl
  | false => rfl

namespace Receives

variable {s : UartRx}

/-- **A buffer comes in**: as much of it as the ring has room for, and the rest is counted. -/
theorem rxRdy (h : s.Receives) (data : Bytes) : (s.rxRdy data).Receives := by
  have hput : (data.take (rxRingSize - s.ring.length)).length =
      min (rxRingSize - s.ring.length) data.length := List.length_take
  have hroom := h.room
  refine ⟨h.replay, ?_, ?_, h.short, ?_, ?_, ?_, ?_, ?_, fun _ ↦ .inl rfl, ?_⟩
  · show s.log.filterMap ParserOp.fed ++ s.chunk ++ (s.ring ++ _) = s.accepted ++ _
    rw [← List.append_assoc, h.stream]
  · show (s.ring ++ data.take _).length ≤ rxRingSize
    rw [List.length_append, hput]
    omega
  · show (s.accepted ++ data.take _).Sublist (s.buffers ++ [data]).flatten
    rw [List.flatten_append, List.flatten_singleton]
    exact h.taken.append (List.take_sublist _ _)
  · show (s.accepted ++ data.take _).length + (s.overrun + (data.length - (data.take _).length)) =
      (s.buffers ++ [data]).flatten.length
    rw [List.flatten_append, List.flatten_singleton, List.length_append, List.length_append,
      ← h.total, hput]
    omega
  · show (if (data.take _).length < data.length then
        s.rxOverrunBytes + UInt32.ofNat (data.length - (data.take _).length)
      else s.rxOverrunBytes) = UInt32.ofNat (s.overrun + (data.length - (data.take _).length))
    rw [h.overrun]
    split_ifs with hlost
    · rw [UInt32.ofNat_add]
    · rw [Nat.sub_eq_zero_of_le (not_lt.1 hlost), add_zero]
  · have hcount := count_flush _ _ h.partialFlushes (decide (data.length < dmaBufSize))
    simpa [UartRx.rxRdy, List.countP_append, List.countP_singleton] using hcount
  · have hcount := count_flush _ _ h.fullFlushes (decide (dmaBufSize ≤ data.length))
    have hflip : ∀ a b : UInt32, (if data.length < dmaBufSize then a else b) =
        if dmaBufSize ≤ data.length then b else a := by
      intro a b
      split_ifs <;> first | rfl | omega
    simpa [UartRx.rxRdy, List.countP_append, List.countP_singleton, hflip] using hcount
  · intro _ hpending _
    cases hpending

/-- A step of the parser that feeds no byte. -/
theorem parse (h : s.Receives) {op : ParserOp} (hop : op.fed = none) :
    (s.parse op).Receives := by
  refine ⟨replay_parse h.replay op, ?_, h.room, h.short, h.taken, h.total, h.overrun,
    h.partialFlushes,
    h.fullFlushes, h.awake, fun _ _ hopen ↦ ?_⟩
  · show (s.log ++ [op]).filterMap ParserOp.fed ++ s.chunk ++ s.ring = s.accepted
    rw [List.filterMap_append, List.filterMap_cons_none hop, List.filterMap_nil, List.append_nil,
      h.stream]
  · rw [not_inFrame_parse hop] at hopen
    cases hopen

theorem rxWorkHandler (h : s.Receives) : s.rxWorkHandler.Receives := by
  have hstream := h.stream
  rw [UartRx.rxWorkHandler]
  split
  · next hidle =>
    split_ifs with hpending
    · -- the handler starts
      rw [chunk, hidle] at hstream
      exact ⟨h.replay, hstream, h.room, Nat.zero_le _, h.taken, h.total, h.overrun,
        h.partialFlushes, h.fullFlushes, fun _ ↦ .inr rfl, fun hnone ↦ by cases hnone⟩
    · exact h
  · next b rest hchunk =>
    -- a byte of the chunk
    rw [chunk, hchunk] at hstream
    have hshort := h.short
    rw [chunk, hchunk] at hshort
    refine ⟨replay_parse h.replay (.byte b), ?_, h.room, (Nat.le_succ _).trans hshort, h.taken,
      h.total, h.overrun, h.partialFlushes, h.fullFlushes, fun _ ↦ .inr rfl,
      fun hnone ↦ by cases hnone⟩
    show (s.log ++ [ParserOp.byte b]).filterMap ParserOp.fed ++ rest ++ s.ring = s.accepted
    rw [← hstream, List.filterMap_append]
    simp [ParserOp.fed]
  · next hchunk =>
    rw [chunk, hchunk] at hstream
    split_ifs with hring
    · -- the ring is empty, and the handler ends
      refine ⟨h.replay, hstream, h.room, Nat.zero_le _, h.taken, h.total, h.overrun,
        h.partialFlushes, h.fullFlushes, fun hnot ↦ absurd hring hnot, fun _ _ hopen ↦ hopen⟩
    · refine ⟨h.replay, ?_, ?_, List.length_take_le _ _, h.taken, h.total, h.overrun,
        h.partialFlushes, h.fullFlushes, fun _ ↦ .inr rfl, fun hnone ↦ by cases hnone⟩
      · show s.log.filterMap ParserOp.fed ++ s.ring.take rxChunkSize ++ s.ring.drop rxChunkSize =
          s.accepted
        rw [← hstream, List.append_assoc, List.take_append_drop]
        simp
      · show (s.ring.drop rxChunkSize).length ≤ rxRingSize
        rw [List.length_drop]
        exact (Nat.sub_le _ _).trans h.room

theorem idleWorkHandler (h : s.Receives) : s.idleWorkHandler.Receives := by
  rw [UartRx.idleWorkHandler]
  split
  · exact h
  · next hnone =>
    dsimp only
    split_ifs with hopen
    · have hfed : (s.parse .timeout).Receives := h.parse rfl
      refine ⟨hfed.replay, hfed.stream, hfed.room, hfed.short, hfed.taken, hfed.total, hfed.overrun,
        hfed.partialFlushes, hfed.fullFlushes, hfed.awake, fun _ _ hstill ↦ ?_⟩
      rw [not_inFrame_parse rfl] at hstill
      cases hstill
    · exact ⟨h.replay, h.stream, h.room, h.short, h.taken, h.total, h.overrun, h.partialFlushes,
        h.fullFlushes, h.awake, fun _ _ hstill ↦ absurd hstill hopen⟩

theorem step (h : s.Receives) (ev : RxEvent) : (s.step ev).Receives := by
  cases ev with
  | rxRdy data => exact h.rxRdy data
  | rxStopped =>
    exact ⟨h.replay, h.stream, h.room, h.short, h.taken, h.total, h.overrun, h.partialFlushes,
      h.fullFlushes, h.awake, h.watched⟩
  | rxDisabled => exact h.parse rfl
  | work => exact h.rxWorkHandler
  | idle => exact h.idleWorkHandler

end Receives

/-- **In any run** the parser sees the accepted bytes, in order and each once; what was not accepted
is counted; and neither a byte in the ring nor an open frame is left without its work. -/
theorem receives_run (evs : List RxEvent) : (run step init evs).Receives :=
  run_invariant step (fun _ ev h ↦ h.step ev) receives_init evs

/-! ### The handler comes to an end -/

/-- What has been accepted and not fed. -/
def unread (s : UartRx) : Bytes := s.chunk ++ s.ring

/-- How many steps of the handler that takes at most. -/
def toGo (s : UartRx) : ℕ :=
  2 * s.ring.length + s.chunk.length + if s.handler = none then 1 else 0

theorem toGo_le {s : UartRx} (h : s.Receives) : s.toGo ≤ 2113 := by
  have hroom := h.room
  have hchunk := h.short
  simp only [rxRingSize, rxChunkSize] at hroom hchunk
  rw [toGo]
  split_ifs <;> omega

theorem unread_work_of_nil {s : UartRx} (h : s.unread = []) : s.rxWorkHandler.unread = [] := by
  obtain ⟨hchunk, hring⟩ := List.append_eq_nil_iff.1 h
  rw [UartRx.rxWorkHandler]
  split
  · split_ifs
    · exact hring
    · exact h
  · next b rest hsome =>
    rw [chunk, hsome] at hchunk
    cases hchunk
  · rw [if_pos hring]
    exact hring

/-- **A step of the handler** makes progress as long as anything is unread. -/
theorem toGo_work_lt {s : UartRx} (h : s.Receives) (hmore : s.unread ≠ []) :
    s.rxWorkHandler.toGo < s.toGo := by
  rw [UartRx.rxWorkHandler]
  split
  · next hnone =>
    have hring : s.ring ≠ [] := by
      intro hring
      rw [unread, chunk, hnone, hring] at hmore
      exact hmore rfl
    have hpending : s.rxPending = true := (h.awake hring).resolve_right (by simp [hnone])
    rw [if_pos hpending]
    simp [toGo, chunk, hnone]
  · next b rest hsome => simp [toGo, chunk, hsome, UartRx.parse]
  · next hsome =>
    have hring : s.ring ≠ [] := by
      intro hring
      rw [unread, chunk, hsome, hring] at hmore
      exact hmore rfl
    have hpos := List.length_pos_iff.2 hring
    rw [if_neg hring]
    simp only [toGo, chunk, hsome, Option.getD_some, List.length_take, List.length_drop,
      List.length_nil, rxChunkSize, reduceCtorEq, if_false]
    omega

/-- Once all is fed it stays so. -/
theorem unread_replicate_of_nil {s : UartRx} (h : s.unread = []) (n : ℕ) :
    (run step s (List.replicate n .work)).unread = [] := by
  induction n generalizing s with
  | zero => exact h
  | succ n ih =>
    rw [List.replicate_succ, run_cons]
    exact ih (unread_work_of_nil h)

/-- **No accepted byte stays behind**: with `toGo` steps the handler has fed them all. -/
theorem unread_drained {s : UartRx} (h : s.Receives) {n : ℕ} (hn : s.toGo ≤ n) :
    (run step s (List.replicate n .work)).unread = [] := by
  induction n generalizing s with
  | zero =>
    have hring : s.ring.length = 0 ∧ s.chunk.length = 0 := by
      rw [toGo] at hn
      omega
    rw [List.replicate_zero, run_nil, unread, List.length_eq_zero_iff.1 hring.1,
      List.length_eq_zero_iff.1 hring.2]
    rfl
  | succ n ih =>
    rw [List.replicate_succ, run_cons]
    by_cases hmore : s.unread = []
    · exact unread_replicate_of_nil (unread_work_of_nil hmore) n
    · exact ih (h.step .work) (Nat.le_of_lt_succ ((toGo_work_lt h hmore).trans_le hn))

/-! ### Undisturbed runs -/

/-- Nothing comes between the bytes of a run: every buffer finds room, reception is not disabled,
and the idle handler does not come inside a frame. -/
def Undisturbed (s : UartRx) : RxEvent → Prop
  | .rxRdy data => s.ring.length + data.length ≤ rxRingSize
  | .rxDisabled => False
  | .idle => protoParserInFrame s.parser = false
  | _ => True

instance (s : UartRx) : DecidablePred s.Undisturbed
  | .rxRdy _ => inferInstanceAs (Decidable (_ ≤ _))
  | .rxStopped => inferInstanceAs (Decidable True)
  | .rxDisabled => inferInstanceAs (Decidable False)
  | .work => inferInstanceAs (Decidable True)
  | .idle => inferInstanceAs (Decidable (_ = _))

/-- The buffers of a run are those that were handed over. -/
theorem buffers_run (evs : List RxEvent) :
    (run step init evs).buffers.flatten = evs.flatMap RxEvent.data := by
  induction evs using List.reverseRecOn with
  | nil => rfl
  | append_singleton evs ev ih =>
    rw [run_concat, List.flatMap_append, ← ih, List.flatMap_singleton]
    set s := run step init evs
    cases ev with
    | rxRdy data =>
      show (s.buffers ++ [data]).flatten = _
      rw [List.flatten_append, List.flatten_singleton]
      rfl
    | rxStopped | rxDisabled => exact (List.append_nil _).symm
    | work =>
      show s.rxWorkHandler.buffers.flatten = s.buffers.flatten ++ []
      rw [List.append_nil, UartRx.rxWorkHandler]
      split
      · split_ifs <;> rfl
      · rfl
      · split_ifs <;> rfl
    | idle =>
      show s.idleWorkHandler.buffers.flatten = s.buffers.flatten ++ []
      rw [List.append_nil, UartRx.idleWorkHandler]
      split
      · rfl
      · dsimp only
        split_ifs <;> rfl

/-- Nothing has been lost, and the parser has been fed bytes alone. -/
def Clean (s : UartRx) : Prop := s.overrun = 0 ∧ ∀ op ∈ s.log, op.fed.isSome

theorem Clean.step {s : UartRx} (h : s.Clean) {ev : RxEvent} (hev : s.Undisturbed ev) :
    (s.step ev).Clean := by
  obtain ⟨hoverrun, hlog⟩ := h
  cases ev with
  | rxRdy data =>
    have hall : data.take (rxRingSize - s.ring.length) = data :=
      List.take_of_length_le (Nat.le_sub_of_add_le' hev)
    refine ⟨?_, hlog⟩
    show s.overrun + (data.length - (data.take _).length) = 0
    rw [hoverrun, hall, Nat.sub_self]
  | rxStopped => exact ⟨hoverrun, hlog⟩
  | rxDisabled => exact hev.elim
  | work =>
    show s.rxWorkHandler.Clean
    rw [UartRx.rxWorkHandler]
    split
    · split_ifs <;> exact ⟨hoverrun, hlog⟩
    · refine ⟨hoverrun, fun op hop ↦ ?_⟩
      obtain hop | hop := List.mem_append.1 hop
      · exact hlog op hop
      · rw [List.mem_singleton.1 hop]
        rfl
    · split_ifs <;> exact ⟨hoverrun, hlog⟩
  | idle =>
    show s.idleWorkHandler.Clean
    rw [UartRx.idleWorkHandler]
    split
    · exact ⟨hoverrun, hlog⟩
    · dsimp only
      rw [if_neg (by simp [show protoParserInFrame s.parser = false from hev])]
      exact ⟨hoverrun, hlog⟩

/-- The parser over bytes alone. -/
theorem run_parserStep_bytes (p : ProtoParser) (fs : List (UInt8 × Bytes)) (bs : Bytes) :
    run parserStep (p, fs) (bs.map ParserOp.byte) =
      ((feed protoFeed p bs).1, fs ++ (feed protoFeed p bs).2) := by
  induction bs generalizing p fs with
  | nil => rw [List.map_nil, run_nil, feed, List.append_nil]
  | cons b bs ih =>
    rw [List.map_cons, run_cons, parserStep, ih, feed, List.append_assoc]

/-- **An undisturbed run** is the parser over the bytes that came, less those unread. -/
theorem undisturbed_run {evs : List RxEvent} (h : Guarded step Undisturbed init evs) :
    ∃ fed, fed ++ (run step init evs).unread = evs.flatMap RxEvent.data ∧
      (run step init evs).frames = (feed protoFeed protoParserInit fed).2 := by
  have hreceives := receives_run evs
  have hclean : (run step init evs).Clean :=
    h.invariant (fun _ _ hs hev ↦ hs.step hev) ⟨rfl, fun _ hop ↦ absurd hop List.not_mem_nil⟩
  set s := run step init evs
  obtain ⟨hoverrun, hlog⟩ := hclean
  have haccepted : s.accepted = s.buffers.flatten := by
    refine hreceives.taken.eq_of_length ?_
    rw [← hreceives.total, hoverrun, add_zero]
  have hbytes : (s.log.filterMap ParserOp.fed).map ParserOp.byte = s.log := by
    rw [List.map_filterMap]
    refine (List.filterMap_congr fun op hop ↦ ?_).trans List.filterMap_some
    cases op with
    | byte b => rfl
    | timeout | reset => exact absurd (hlog _ hop) (by simp [ParserOp.fed])
  refine ⟨s.log.filterMap ParserOp.fed, ?_, ?_⟩
  · rw [unread, ← List.append_assoc, hreceives.stream, haccepted, buffers_run]
  · have hreplay := hreceives.replay
    rw [← hbytes, run_parserStep_bytes, List.nil_append] at hreplay
    exact (Prod.mk.inj hreplay).2

/-- Work of the handler disturbs nothing. -/
theorem guarded_replicate_work (s : UartRx) (n : ℕ) :
    Guarded step Undisturbed s (List.replicate n .work) := by
  induction n generalizing s with
  | zero => trivial
  | succ n ih => exact ⟨trivial, ih _⟩

end UartRx

end VertexTestbed.Firmware
