import VertexTestbed.Conformance.AirRoundTrip
import VertexTestbed.Host.BlePump
import VertexTestbed.Lib.Agenda
import VertexTestbed.Lib.Runs

/-!
# The loopback bus

`transports/loopback.py` on a virtual clock: the medium that every simulated fleet talks over. A
broadcast offers a copy of the packet to each subscriber but the sender. The copy is dropped, or
handed over at once, or given to a task that sleeps and hands it over then; a packet goes through
its wire format on the way.

A run is any order of attachments, publications, turns of the event loop and steps of the clock.
The clock moves when no delivery can run (`drive_virtual_clock`), and at most to the next deadline;
other tasks sleep on the same clock, so it may also stop where no delivery is due. What a callback
does is left to it, and it may raise: a copy that is handed over at once then ends the broadcast for
those behind it.

**A link is a delay line.** The copies that one node's packets put on the way to another are, in
order, those that were handed over, those about to be, those asleep and those whose task has not
begun (`LoopbackLoop.line`). Every turn of the event loop leaves that line as it is; only a
broadcast adds to it, at its end.

NumPy's generator is a parameter, the stream of its numbers, so that a run says which copies are
lost and not only how many. The lists beside the bus (what was published, offered, lost and handed
over) are a record that no step reads; the counters are the source's own fields. A copy carries the
number of its publication, which is what "in order" is about. With a delay of zero there is no task:
the copy is handed over within the broadcast.

The invariant has three parts, each kept by a lemma for each kind of event:

* `Ledger`: the record is that of the publications, one copy for each receiver, and the dropped
  copies are those that the stream condemns;
* `UnderWay`: the copies that were not dropped are those on the lines, each line is in order, and a
  copy that sleeps has the deadline that its delay gives it;
* `Inv` adds that a broadcast leaves nobody out unless a callback raised for it.

From it come the two results about every run: `copies_accounted`, the counters and the fate of each
copy, and `link_is_delay_line`, order, content and time of what is heard over a link. The simulated
experiment runs on this bus (`Host.SimulatedExperiment`).
-/

namespace VertexTestbed.Host

open Runs Agenda Conformance

/-! ### The bus -/

/-- `ReceiveCallback`, as whether it returns. -/
abbrev ReceiveCallback := AirReception → Bool

/-- `LoopbackBus`, as constructed; the checks of `__post_init__` are its last fields. -/
structure LoopbackBus (K τ : Type*) [Field K] [LinearOrder K] where
  loss : K
  delay_s : K
  serialise : Bool
  node_types : Option (List (ℕ × τ))
  link_loss : Option (List ((τ × τ) × K))
  link_delay_s : Option (List ((τ × τ) × K))
  loss_mem : 0 ≤ loss ∧ loss ≤ 1
  delay_nonneg : 0 ≤ delay_s

/-- `_params`. A node without a type is in no pair. -/
def LoopbackBus.params {K τ : Type*} [Field K] [LinearOrder K] [DecidableEq τ]
    (bus : LoopbackBus K τ) (sender_id receiver_id : ℕ) : K × K :=
  match bus.node_types with
  | none => (bus.loss, bus.delay_s)
  | some types =>
    match types.lookup sender_id, types.lookup receiver_id with
    | some x, some y =>
      (((bus.link_loss.getD []).lookup (x, y)).getD bus.loss,
        ((bus.link_delay_s.getD []).lookup (x, y)).getD bus.delay_s)
    | _, _ => (bus.loss, bus.delay_s)

/-- A packet on its way to one subscriber, with what its delivery has captured. The number of its
broadcast, when that was, and the number that was drawn for the copy are there for the record. -/
structure Copy (K : Type*) where
  seq : ℕ
  sender : ℕ
  receiver : ℕ
  at_s : K
  callback : ReceiveCallback
  wire : Option Bytes
  packet : AirPacket
  delay : K
  draw : Option K

/-- A task of `_deliver_later` in the event loop's queue: before its first turn, or after its
sleep. -/
inductive Handle (K : Type*) where
  | first (c : Copy K)
  | woken (c : Copy K)

/-- The copy of a task that has not run yet. -/
def Handle.firstCopy {K : Type*} : Handle K → Option (Copy K)
  | .first c => some c
  | .woken _ => none

/-- The copy of a task whose sleep is over. -/
def Handle.wokenCopy {K : Type*} : Handle K → Option (Copy K)
  | .first _ => none
  | .woken c => some c

/-- A broadcast: who sent what, when, and who was attached. -/
structure Publication (K : Type*) where
  sender : ℕ
  packet : AirPacket
  at_s : K
  audience : List ℕ

/-- The bus, its transports and its part of the event loop. `published`, `offered`, `lost` and
`arrived` are the record of a run: the broadcasts, the copies that were made, those that were
dropped, and what the callbacks were called with. -/
structure LoopbackLoop (K P : Type*) where
  t : K
  started : P → Bool
  subscribers : List (ℕ × ReceiveCallback)
  draws : ℕ
  sent : ℕ
  delivered : ℕ
  dropped : ℕ
  ready : List (Handle K)
  sleeping : List (K × Copy K)
  published : List (Publication K)
  offered : List (Copy K)
  lost : List (Copy K)
  arrived : List (Copy K × AirReception)

/-- What can happen on the bus. `turn` is a turn of the delivery that is first in the queue. -/
inductive BusEvent (K P : Type*) where
  | start (p : P) (on_receive : ReceiveCallback)
  | stop (p : P)
  | publish (p : P) (packet : AirPacket)
  | turn
  | advance (t : K)

/-- `VirtualClock.now_us`. -/
def now_us {K : Type*} [Field K] [LinearOrder K] [IsStrictOrderedRing K] [FloorRing K]
    (t : K) : ℤ :=
  roundHalfEven (t * 1000000)

namespace LoopbackLoop

variable {K τ P : Type*} [Field K] [LinearOrder K] [IsStrictOrderedRing K] [FloorRing K]
  [DecidableEq τ]

/-- Before anything is attached. -/
def init (t : K) : LoopbackLoop K P :=
  ⟨t, fun _ ↦ false, [], 0, 0, 0, 0, [], [], [], [], [], []⟩

/-- `_deliver`, and whether it returns. -/
def deliver (s : LoopbackLoop K P) (c : Copy K) : Bool × LoopbackLoop K P :=
  let delivered :=
    match c.wire with
    | some wire => decode_manufacturer_data wire
    | none => .ok c.packet
  match delivered with
  | .error _ => (false, s)
  | .ok packet =>
    let reception : AirReception := ⟨packet, now_us s.t, none⟩
    (c.callback reception,
      { s with
        arrived := s.arrived ++ [(c, reception)]
        delivered := if c.callback reception then s.delivered + 1 else s.delivered })

variable (bus : LoopbackBus K τ) (rng : ℕ → K)

/-- The drop test of `broadcast`, on the number that was drawn for a copy. -/
def isLost (c : Copy K) : Bool :=
  c.draw.any fun u ↦ u < (bus.params c.sender c.receiver).1

/-- The copy that `broadcast` makes for a subscriber. A number is drawn only where there is a
loss. -/
def copyFor (s : LoopbackLoop K P) (seq sender_id : ℕ) (packet : AirPacket)
    (subscriber : ℕ × ReceiveCallback) : Copy K where
  seq := seq
  sender := sender_id
  receiver := subscriber.1
  at_s := s.t
  callback := subscriber.2
  wire := if bus.serialise then some (encode_manufacturer_data packet) else none
  packet := packet
  delay := (bus.params sender_id subscriber.1).2
  draw := if (bus.params sender_id subscriber.1).1 ≠ 0 then some (rng s.draws) else none

/-- A copy is made, and its number is drawn. -/
def make (s : LoopbackLoop K P) (c : Copy K) : LoopbackLoop K P :=
  { s with
    offered := s.offered ++ [c]
    draws := if c.draw.isSome then s.draws + 1 else s.draws }

/-- The loop body of `broadcast` behind the test for the sender, and whether it returns. -/
def offer (s : LoopbackLoop K P) (c : Copy K) : Bool × LoopbackLoop K P :=
  let s := s.make c
  if isLost bus c then (true, { s with dropped := s.dropped + 1, lost := s.lost ++ [c] })
  else if c.delay ≠ 0 then (true, { s with ready := s.ready ++ [.first c] })
  else s.deliver c

/-- The loop of `broadcast`, and whether it comes to its end. -/
def offerAll (seq sender_id : ℕ) (packet : AirPacket) (s : LoopbackLoop K P) :
    List (ℕ × ReceiveCallback) → Bool × LoopbackLoop K P
  | [] => (true, s)
  | subscriber :: rest =>
    if subscriber.1 = sender_id then offerAll seq sender_id packet s rest
    else
      let r := s.offer bus (s.copyFor bus rng seq sender_id packet subscriber)
      if r.1 then offerAll seq sender_id packet r.2 rest else r

/-- `broadcast`, before its loop. -/
def announce (s : LoopbackLoop K P) (sender_id : ℕ) (packet : AirPacket) : LoopbackLoop K P :=
  { s with
    sent := s.sent + 1
    published := s.published ++ [⟨sender_id, packet, s.t, s.subscribers.map Prod.fst⟩] }

/-- `broadcast`. -/
def broadcast (s : LoopbackLoop K P) (sender_id : ℕ) (packet : AirPacket) : LoopbackLoop K P :=
  (offerAll bus rng s.sent sender_id packet (s.announce sender_id packet) s.subscribers).2

/-- `VirtualClock.sleep` in `_deliver_later`. A sleep of no length only yields. -/
def sleep (s : LoopbackLoop K P) (c : Copy K) : LoopbackLoop K P :=
  if c.delay ≤ 0 then { s with ready := s.ready ++ [.woken c] }
  else { s with sleeping := enter (s.t + c.delay) c s.sleeping }

/-- A turn of the first delivery in the queue. -/
def turn (s : LoopbackLoop K P) : LoopbackLoop K P :=
  match s.ready with
  | [] => s
  | .first c :: rest => { s with ready := rest }.sleep c
  | .woken c :: rest => ({ s with ready := rest }.deliver c).2

/-- `VirtualClock.advance`, by a driver that has found nothing to run. -/
def advance (s : LoopbackLoop K P) (t : K) : LoopbackLoop K P :=
  if s.ready.isEmpty ∧ s.t ≤ t ∧ ∀ x ∈ s.sleeping, t ≤ x.1 then
    { s with
      t := t
      ready := (due t s.sleeping).map fun x ↦ .woken x.2
      sleeping := later t s.sleeping }
  else s

variable [DecidableEq P] in
/-- One event, on transports with these node ids. A call that raises leaves things as they are. -/
def step (node : P → ℕ) (s : LoopbackLoop K P) : BusEvent K P → LoopbackLoop K P
  | .start p on_receive =>
    if s.started p then s
    else if node p ∈ s.subscribers.map Prod.fst then s
    else
      { s with
        subscribers := s.subscribers ++ [(node p, on_receive)]
        started := Function.update s.started p true }
  | .stop p =>
    { s with
      subscribers := s.subscribers.filter fun x ↦ x.1 ≠ node p
      started := Function.update s.started p false }
  | .publish p packet => if s.started p then s.broadcast bus rng (node p) packet else s
  | .turn => s.turn
  | .advance t => s.advance t

/-! ### The line of a link -/

/-- The copies that are on their way or have arrived, by how far they have come. -/
def line (s : LoopbackLoop K P) : List (Copy K) :=
  s.arrived.map Prod.fst ++ s.ready.filterMap Handle.wokenCopy ++ s.sleeping.map Prod.snd ++
    s.ready.filterMap Handle.firstCopy

/-- The copy is from one node to another. -/
def onLink (a b : ℕ) (c : Copy K) : Bool := decide (c.sender = a ∧ c.receiver = b)

/-- The copies of a link, in the order of the line. -/
def link (s : LoopbackLoop K P) (a b : ℕ) : List (Copy K) := s.line.filter (onLink a b)

/-- The part of the line that is still under way. -/
def inFlight (s : LoopbackLoop K P) : List (Copy K) :=
  s.ready.filterMap Handle.wokenCopy ++ s.sleeping.map Prod.snd ++
    s.ready.filterMap Handle.firstCopy

/-- **The copies of a run.** Each is of a broadcast that was made, and as `broadcast` makes it. -/
structure Made (published : List (Publication K)) (c : Copy K) : Prop where
  published : ∃ audience, published[c.seq]? = some ⟨c.sender, c.packet, c.at_s, audience⟩
  wire : c.wire = if bus.serialise then some (encode_manufacturer_data c.packet) else none
  delay : c.delay = (bus.params c.sender c.receiver).2
  draw : c.draw.isSome ↔ (bus.params c.sender c.receiver).1 ≠ 0

/-- What holds of the copies that were made, wherever they are. -/
structure Ledger (s : LoopbackLoop K P) : Prop where
  sent : s.sent = s.published.length
  dropped : s.dropped = s.lost.length
  lost : s.lost = s.offered.filter (isLost bus)
  draws : s.offered.filterMap Copy.draw = (List.range s.draws).map rng
  made : ∀ c ∈ s.offered, Made bus s.published c

/-- What holds of the copies under way: the line is what was offered and not lost, in the order of
the broadcasts on every link, and each copy is where its delay puts it. -/
structure UnderWay (s : LoopbackLoop K P) : Prop where
  partition : s.line.Perm (s.offered.filter fun c ↦ !isLost bus c)
  order : ∀ a b, (s.link a b).Pairwise fun c d ↦ c.seq < d.seq
  delivered : s.delivered = s.arrived.countP fun x ↦ x.1.callback x.2
  arrivals : ∀ x ∈ s.arrived, x.2 = ⟨x.1.packet, now_us (x.1.at_s + max x.1.delay 0), none⟩
  delayed : ∀ c ∈ s.inFlight, c.delay ≠ 0
  created : ∀ c ∈ s.ready.filterMap Handle.firstCopy, c.at_s = s.t
  woken : ∀ c ∈ s.ready.filterMap Handle.wokenCopy, c.at_s + max c.delay 0 = s.t
  asleep : ∀ x ∈ s.sleeping,
    x.1 = x.2.at_s + x.2.delay ∧ 0 < x.2.delay ∧ x.2.at_s ≤ s.t ∧ s.t < x.1
  ordered : Ordered s.sleeping

omit [Field K] [LinearOrder K] [IsStrictOrderedRing K] [FloorRing K] in
/-- A line is what has arrived on the link, and what is under way. -/
theorem line_eq (s : LoopbackLoop K P) : s.line = s.arrived.map Prod.fst ++ s.inFlight := by
  simp only [line, inFlight, List.append_assoc]

variable {bus rng}

omit [IsStrictOrderedRing K] [FloorRing K] in
/-- On one link every copy has one delay. -/
theorem Made.delay_eq {published : List (Publication K)} {c d : Copy K} (hc : Made bus published c)
    (hd : Made bus published d) {a b : ℕ} (hca : onLink a b c = true) (hda : onLink a b d = true) :
    c.delay = d.delay := by
  obtain ⟨rfl, rfl⟩ := of_decide_eq_true hca
  obtain ⟨hsender, hreceiver⟩ := of_decide_eq_true hda
  rw [hc.delay, hd.delay, hsender, hreceiver]

/-- What is on a line was offered. -/
theorem UnderWay.mem_offered {s : LoopbackLoop K P} (h : s.UnderWay bus) {c : Copy K}
    (hc : c ∈ s.line) : c ∈ s.offered :=
  (List.mem_filter.1 (h.partition.mem_iff.1 hc)).1

/-- What is under way was made of a publication. -/
theorem UnderWay.made {s : LoopbackLoop K P} (hledger : s.Ledger bus rng) (h : s.UnderWay bus)
    {c : Copy K} (hc : c ∈ s.inFlight) : Made bus s.published c := by
  refine hledger.made c (h.mem_offered ?_)
  rw [line_eq]
  exact List.mem_append_right _ hc

/-- So was what is asleep. -/
theorem UnderWay.made_asleep {s : LoopbackLoop K P} (hledger : s.Ledger bus rng)
    (h : s.UnderWay bus) {x : K × Copy K} (hx : x ∈ s.sleeping) : Made bus s.published x.2 :=
  h.made hledger (List.mem_append_left _ (List.mem_append_right _ (List.mem_map_of_mem hx)))

omit [DecidableEq τ] in
/-- **What arrives is what was sent.** The wire format is undone by its decoder. -/
theorem deliver_eq (s : LoopbackLoop K P) {c : Copy K}
    (hwire : c.wire = if bus.serialise then some (encode_manufacturer_data c.packet) else none) :
    s.deliver c = (c.callback ⟨c.packet, now_us s.t, none⟩,
      { s with
        arrived := s.arrived ++ [(c, ⟨c.packet, now_us s.t, none⟩)]
        delivered :=
          if c.callback ⟨c.packet, now_us s.t, none⟩ then s.delivered + 1 else s.delivered }) := by
  have hdecode : decode_manufacturer_data (encode_manufacturer_data c.packet) = .ok c.packet := by
    rw [encode_manufacturer_data, decode_manufacturer_append, decode_encode]
  rw [deliver, hwire]
  cases bus.serialise with
  | true => simp only [if_pos, hdecode]
  | false => rfl

/-! ### Turns of the event loop -/

/-- The delivery behind its sleep. -/
theorem UnderWay.turn_woken {s : LoopbackLoop K P} (hledger : s.Ledger bus rng)
    (h : s.UnderWay bus) {c : Copy K} {rest : List (Handle K)}
    (hready : s.ready = .woken c :: rest) : s.turn.UnderWay bus := by
  have hmem : c ∈ s.ready.filterMap Handle.wokenCopy := by
    rw [hready]
    exact List.mem_cons_self
  have hmade := h.made hledger (List.mem_append_left _ (List.mem_append_left _ hmem))
  have hturn : s.turn = ({ s with ready := rest }.deliver c).2 := by rw [turn, hready]
  rw [deliver_eq _ hmade.wire] at hturn
  have hline : s.turn.line = s.line := by
    rw [line, line, hready, hturn]
    simp only [List.map_append, List.map_cons, List.map_nil, List.append_assoc, List.filterMap_cons,
      Handle.wokenCopy, Handle.firstCopy, List.cons_append, List.nil_append]
  have hpartition := h.partition
  have horder := h.order
  simp only [link, ← hline] at hpartition horder
  rw [hturn] at hpartition horder ⊢
  refine ⟨hpartition, horder, ?_, fun x hx ↦ ?_, fun d hd ↦ ?_,
    fun d hd ↦ ?_, fun d hd ↦ ?_, h.asleep, h.ordered⟩
  · rw [List.countP_append, List.countP_singleton, ← h.delivered]
    exact (apply_ite (s.delivered + ·) _ 1 0).symm
  · obtain hx | hx := List.mem_append.1 hx
    · exact h.arrivals x hx
    · rw [List.mem_singleton.1 hx, h.woken c hmem]
  · refine h.delayed d ?_
    rw [inFlight, hready]
    exact List.mem_cons_of_mem _ hd
  · refine h.created d ?_
    rw [hready]
    exact hd
  · refine h.woken d ?_
    rw [hready]
    exact List.mem_cons_of_mem _ hd

/-- The first turn of a delivery that only yields: it goes behind the others that are awake. -/
theorem UnderWay.turn_yield {s : LoopbackLoop K P} (hledger : s.Ledger bus rng)
    (h : s.UnderWay bus) {c : Copy K} {rest : List (Handle K)}
    (hready : s.ready = .first c :: rest) (hdelay : c.delay ≤ 0) : s.turn.UnderWay bus := by
  have hmem : c ∈ s.ready.filterMap Handle.firstCopy := by
    rw [hready]
    exact List.mem_cons_self
  have hmade := h.made hledger (List.mem_append_right _ hmem)
  have hturn : s.turn = { s with ready := rest ++ [.woken c] } := by
    simp only [turn, hready, sleep, if_pos hdelay]
  have hlink : ∀ a b, s.turn.link a b = s.link a b := by
    intro a b
    rw [hturn]
    simp only [link, line, hready, List.filterMap_append, List.filterMap_cons, List.filterMap_nil,
      List.filter_append, List.filter_cons, List.filter_nil, Handle.wokenCopy, Handle.firstCopy,
      List.append_nil, List.append_assoc]
    cases honLink : onLink a b c with
    | false => rfl
    | true =>
      -- nothing of its link sleeps
      have hnone : (s.sleeping.map Prod.snd).filter (onLink a b) = [] := by
        refine List.filter_eq_nil_iff.2 fun d hd hdlink ↦ ?_
        obtain ⟨x, hx, rfl⟩ := List.mem_map.1 hd
        have hsame := hmade.delay_eq (h.made_asleep hledger hx) honLink hdlink
        exact absurd (hsame ▸ (h.asleep x hx).2.1) hdelay.not_gt
      rw [hnone]
      simp
  have hperm : s.turn.line.Perm s.line := by
    rw [hturn]
    simp only [line, hready, List.filterMap_append, List.filterMap_cons, List.filterMap_nil,
      Handle.wokenCopy, Handle.firstCopy, List.append_nil, List.append_assoc]
    refine .append_left _ (.append_left _ ?_)
    rw [← List.append_assoc]
    exact List.perm_middle.symm.trans (by simp)
  have hpartition := hperm.trans h.partition
  have horder : ∀ a b, (s.turn.link a b).Pairwise fun c d ↦ c.seq < d.seq := by
    intro a b
    rw [hlink]
    exact h.order a b
  rw [hturn] at hpartition horder ⊢
  refine ⟨hpartition, horder, h.delivered, h.arrivals, fun d hd ↦ ?_, fun d hd ↦ ?_, fun d hd ↦ ?_,
    h.asleep, h.ordered⟩
  · refine h.delayed d ?_
    simp only [inFlight, hready, List.filterMap_append, List.filterMap_cons, List.filterMap_nil,
      Handle.wokenCopy, Handle.firstCopy, List.mem_append, List.mem_cons, List.append_nil] at hd ⊢
    tauto
  · refine h.created d ?_
    rw [hready]
    simp only [List.filterMap_append, List.filterMap_cons, List.filterMap_nil, Handle.firstCopy,
      List.append_nil] at hd ⊢
    exact List.mem_cons_of_mem _ hd
  · simp only [List.filterMap_append, List.filterMap_cons, List.filterMap_nil, Handle.wokenCopy,
      List.mem_append, List.mem_singleton] at hd
    obtain hd | rfl := hd
    · refine h.woken d ?_
      rw [hready]
      exact hd
    · rw [max_eq_right hdelay, add_zero]
      exact h.created d hmem

/-- The first turn of a delivery that sleeps: it goes behind all of its link that sleep. -/
theorem UnderWay.turn_sleep {s : LoopbackLoop K P} (hledger : s.Ledger bus rng)
    (h : s.UnderWay bus) {c : Copy K} {rest : List (Handle K)}
    (hready : s.ready = .first c :: rest) (hdelay : 0 < c.delay) : s.turn.UnderWay bus := by
  have hmem : c ∈ s.ready.filterMap Handle.firstCopy := by
    rw [hready]
    exact List.mem_cons_self
  have hmade := h.made hledger (List.mem_append_right _ hmem)
  have hturn : s.turn = { s with
      ready := rest
      sleeping := enter (s.t + c.delay) c s.sleeping } := by
    simp only [turn, hready, sleep, if_neg hdelay.not_ge]
  have hlink : ∀ a b, s.turn.link a b = s.link a b := by
    intro a b
    rw [hturn]
    simp only [link, line, hready, List.filterMap_cons, List.filter_append, List.filter_cons,
      Handle.wokenCopy, Handle.firstCopy, List.append_assoc]
    cases honLink : onLink a b c with
    | false => rw [filter_enter_of_not honLink, if_neg (by simp)]
    | true =>
      -- One link has one delay, so no copy that went to sleep before wakes after this one.
      have hlast : ∀ x ∈ s.sleeping, onLink a b x.2 = true → x.1 ≤ s.t + c.delay := by
        intro x hx hxlink
        obtain ⟨hdue, -, hat, -⟩ := h.asleep x hx
        rw [hdue, hmade.delay_eq (h.made_asleep hledger hx) honLink hxlink]
        exact add_le_add_left hat _
      rw [filter_enter h.ordered honLink hlast, if_pos rfl]
      simp
  have hperm : s.turn.line.Perm s.line := by
    rw [hturn]
    simp only [line, hready, List.filterMap_cons, Handle.wokenCopy, Handle.firstCopy,
      List.append_assoc]
    refine .append_left _ (.append_left _ ?_)
    refine (((perm_enter _ _ _).map Prod.snd).append_right _).trans ?_
    exact List.perm_middle.symm
  have hpartition := hperm.trans h.partition
  have horder : ∀ a b, (s.turn.link a b).Pairwise fun c d ↦ c.seq < d.seq := by
    intro a b
    rw [hlink]
    exact h.order a b
  rw [hturn] at hpartition horder ⊢
  refine ⟨hpartition, horder, h.delivered, h.arrivals, fun d hd ↦ ?_, fun d hd ↦ ?_, fun d hd ↦ ?_,
    fun x hx ↦ ?_, ordered_enter h.ordered _ _⟩
  · refine h.delayed d ?_
    simp only [inFlight, hready, List.filterMap_cons, Handle.wokenCopy, Handle.firstCopy,
      List.mem_append, List.mem_cons, List.mem_map, mem_enter] at hd ⊢
    obtain (hd | ⟨x, rfl | hx, rfl⟩) | hd := hd
    · exact .inl (.inl hd)
    · exact .inr (.inl rfl)
    · exact .inl (.inr ⟨x, hx, rfl⟩)
    · exact .inr (.inr hd)
  · refine h.created d ?_
    rw [hready]
    exact List.mem_cons_of_mem _ hd
  · refine h.woken d ?_
    rw [hready]
    exact hd
  · obtain rfl | hx := mem_enter.1 hx
    · have hat := h.created c hmem
      exact ⟨by rw [hat], hdelay, hat.le, lt_add_of_pos_right _ hdelay⟩
    · exact h.asleep x hx

/-- A step of the clock, up to the next deadline at most. -/
theorem UnderWay.advance {s : LoopbackLoop K P} (h : s.UnderWay bus) (t : K) :
    (s.advance t).UnderWay bus := by
  rw [LoopbackLoop.advance]
  split_ifs with hgo
  · obtain ⟨hready, htime, hnext⟩ := hgo
    rw [List.isEmpty_iff] at hready
    have hwoken : ((due t s.sleeping).map fun x ↦ Handle.woken x.2).filterMap Handle.wokenCopy =
        (due t s.sleeping).map Prod.snd := by
      rw [List.filterMap_map]
      exact congrFun List.filterMap_eq_map _
    have hfirst : ((due t s.sleeping).map fun x ↦ Handle.woken x.2).filterMap Handle.firstCopy =
        [] := by
      rw [List.filterMap_map]
      exact List.filterMap_eq_nil_iff.2 fun _ _ ↦ rfl
    have hinFlight : (due t s.sleeping).map Prod.snd ++ (later t s.sleeping).map Prod.snd =
        s.inFlight := by
      rw [← List.map_append, due_append_later, inFlight, hready]
      simp
    refine ⟨?_, fun a b ↦ ?_, h.delivered, h.arrivals, fun d hd ↦ ?_, fun d hd ↦ ?_, fun d hd ↦ ?_,
      fun x hx ↦ ?_, ordered_later h.ordered t⟩
    · refine .trans (.of_eq ?_) h.partition
      simp only [line_eq, inFlight, hwoken, hfirst, List.append_nil] at hinFlight ⊢
      rw [hinFlight]
    · have horder := h.order a b
      simp only [link, line_eq, inFlight, hwoken, hfirst, List.append_nil] at hinFlight horder ⊢
      rwa [hinFlight]
    · refine h.delayed d ?_
      simp only [inFlight, hwoken, hfirst, List.append_nil] at hinFlight hd ⊢
      rwa [← hinFlight]
    · simp only [hfirst] at hd
      exact absurd hd List.not_mem_nil
    · simp only [hwoken] at hd
      obtain ⟨x, hx, rfl⟩ := List.mem_map.1 hd
      obtain ⟨hdue, hpos, -, -⟩ := h.asleep x (mem_of_mem_due hx)
      rw [max_eq_left hpos.le, ← hdue]
      exact (le_of_mem_due hx).antisymm (hnext x (mem_of_mem_due hx))
    · obtain ⟨hdue, hpos, hat, -⟩ := h.asleep x (mem_of_mem_later hx)
      exact ⟨hdue, hpos, hat.trans htime, lt_of_mem_later h.ordered hx⟩
  · exact h

/-- What a turn of the event loop leaves alone. -/
theorem Ledger.turn {s : LoopbackLoop K P} (h : s.Ledger bus rng) : s.turn.Ledger bus rng := by
  rw [LoopbackLoop.turn]
  split
  · exact h
  · rw [sleep]
    split_ifs
    · exact ⟨h.sent, h.dropped, h.lost, h.draws, h.made⟩
    · exact ⟨h.sent, h.dropped, h.lost, h.draws, h.made⟩
  · rw [deliver]
    dsimp only
    split
    · exact ⟨h.sent, h.dropped, h.lost, h.draws, h.made⟩
    · exact ⟨h.sent, h.dropped, h.lost, h.draws, h.made⟩

omit [IsStrictOrderedRing K] [FloorRing K] in
/-- The clock moves no copy. -/
theorem Ledger.advance {s : LoopbackLoop K P} (h : s.Ledger bus rng) (t : K) :
    (s.advance t).Ledger bus rng := by
  rw [LoopbackLoop.advance]
  split_ifs
  · exact ⟨h.sent, h.dropped, h.lost, h.draws, h.made⟩
  · exact h

/-- A turn of the event loop leaves every line in order. -/
theorem UnderWay.turn {s : LoopbackLoop K P} (hledger : s.Ledger bus rng) (h : s.UnderWay bus) :
    s.turn.UnderWay bus := by
  cases hready : s.ready with
  | nil =>
    rw [LoopbackLoop.turn, hready]
    exact h
  | cons handle rest =>
    cases handle with
    | woken c => exact h.turn_woken hledger hready
    | first c =>
      obtain hdelay | hdelay := le_or_gt c.delay 0
      · exact h.turn_yield hledger hready hdelay
      · exact h.turn_sleep hledger hready hdelay

/-! ### A broadcast -/

/-- Whom the copies of a broadcast are for, in the order in which they were made. -/
def receivers (s : LoopbackLoop K P) (k : ℕ) : List ℕ :=
  (s.offered.filter fun c ↦ c.seq = k).map Copy.receiver

/-- What a part of broadcast `k` leaves alone, and that it makes copies of that broadcast only. -/
structure Extends (k : ℕ) (s s' : LoopbackLoop K P) : Prop where
  subscribers : s'.subscribers = s.subscribers
  sent : s'.sent = s.sent
  published : s'.published = s.published
  t : s'.t = s.t
  arrived : s.arrived <+: s'.arrived
  offered : ∃ new, s'.offered = s.offered ++ new ∧ ∀ c ∈ new, c.seq = k

/-- A broadcast's copy, in its place behind those of its link. -/
theorem UnderWay.pairwise_concat {s : LoopbackLoop K P} (h : s.UnderWay bus) {c : Copy K}
    (hfresh : ∀ d ∈ s.offered, d.sender = c.sender → d.receiver = c.receiver → d.seq < c.seq)
    (a b : ℕ) :
    (s.link a b ++ [c].filter (onLink a b)).Pairwise fun c d ↦ c.seq < d.seq := by
  refine List.pairwise_append.2 ⟨h.order a b, (List.pairwise_singleton _ _).filter _, ?_⟩
  intro d hd e he
  obtain ⟨hdline, hdlink⟩ := List.mem_filter.1 hd
  obtain ⟨hemem, helink⟩ := List.mem_filter.1 he
  obtain rfl := List.mem_singleton.1 hemem
  obtain ⟨rfl, rfl⟩ := of_decide_eq_true helink
  obtain ⟨hsender, hreceiver⟩ := of_decide_eq_true hdlink
  exact hfresh d (h.mem_offered hdline) hsender hreceiver

/-- The record of a copy: it is made, and lost when its number says so. -/
theorem Ledger.offer {s : LoopbackLoop K P} (h : s.Ledger bus rng) {c : Copy K}
    (hmade : Made bus s.published c) (hdraw : ∀ u ∈ c.draw, u = rng s.draws) :
    (s.offer bus c).2.Ledger bus rng := by
  have hdraws : (s.offered ++ [c]).filterMap Copy.draw =
      (List.range (if c.draw.isSome then s.draws + 1 else s.draws)).map rng := by
    rw [List.filterMap_append, h.draws]
    cases hc : c.draw with
    | none => simp [hc]
    | some u => simp [hc, List.range_succ, hdraw u hc]
  have hall : ∀ d ∈ s.offered ++ [c], Made bus s.published d := by
    intro d hd
    obtain hd | hd := List.mem_append.1 hd
    · exact h.made d hd
    · rw [List.mem_singleton.1 hd]
      exact hmade
  rw [LoopbackLoop.offer]
  split_ifs with hlost hdelay
  · refine ⟨h.sent, ?_, ?_, hdraws, hall⟩
    · show s.dropped + 1 = (s.lost ++ [c]).length
      rw [h.dropped, List.length_append, List.length_singleton]
    · show s.lost ++ [c] = (s.offered ++ [c]).filter (isLost bus)
      rw [List.filter_append, ← h.lost, List.filter_cons_of_pos hlost, List.filter_nil]
  all_goals
    have hkept : s.lost = (s.offered ++ [c]).filter (isLost bus) := by
      rw [List.filter_append, ← h.lost, List.filter_cons_of_neg hlost, List.filter_nil,
        List.append_nil]
  · exact ⟨h.sent, h.dropped, hkept, hdraws, hall⟩
  · rw [deliver_eq _ hmade.wire]
    exact ⟨h.sent, h.dropped, hkept, hdraws, hall⟩

/-- **A copy joins the end of its link's line.** -/
theorem UnderWay.offer {s : LoopbackLoop K P} (hledger : s.Ledger bus rng) (h : s.UnderWay bus)
    {c : Copy K} (hmade : Made bus s.published c) (hat : c.at_s = s.t)
    (hfresh : ∀ d ∈ s.offered, d.sender = c.sender → d.receiver = c.receiver → d.seq < c.seq) :
    (s.offer bus c).2.UnderWay bus := by
  rw [LoopbackLoop.offer]
  split_ifs with hlost hdelay
  · refine ⟨?_, h.order, h.delivered, h.arrivals, h.delayed, h.created, h.woken, h.asleep,
      h.ordered⟩
    show s.line.Perm ((s.offered ++ [c]).filter fun c ↦ !isLost bus c)
    rw [List.filter_append, List.filter_cons_of_neg (by simp [hlost]), List.filter_nil,
      List.append_nil]
    exact h.partition
  all_goals
    have hoffered : (s.offered ++ [c]).filter (fun c ↦ !isLost bus c) =
        s.offered.filter (fun c ↦ !isLost bus c) ++ [c] := by
      rw [List.filter_append, List.filter_cons_of_pos (by simp [hlost]), List.filter_nil]
    have horder := h.pairwise_concat hfresh
    have hpartition := h.partition.append_right [c]
    rw [← hoffered] at hpartition
  · -- the task of a delayed copy comes last in the queue
    dsimp only [make]
    refine ⟨?_, fun a b ↦ ?_, h.delivered, h.arrivals, fun d hd ↦ ?_, fun d hd ↦ ?_, fun d hd ↦ ?_,
      h.asleep, h.ordered⟩
    · refine .trans (.of_eq ?_) hpartition
      simp only [line, List.filterMap_append, List.filterMap_cons, List.filterMap_nil,
        Handle.wokenCopy, Handle.firstCopy, List.append_nil, List.append_assoc]
    · have := horder a b
      simpa only [link, line, List.filterMap_append, List.filterMap_cons, List.filterMap_nil,
        Handle.wokenCopy, Handle.firstCopy, List.append_nil, List.append_assoc,
        List.filter_append] using this
    · simp only [inFlight, List.filterMap_append, List.filterMap_cons, List.filterMap_nil,
        Handle.wokenCopy, Handle.firstCopy, List.append_nil, ← List.append_assoc] at hd
      obtain hd | hd := List.mem_append.1 hd
      · exact h.delayed d hd
      · rw [List.mem_singleton.1 hd]
        exact hdelay
    · simp only [List.filterMap_append, List.filterMap_cons, List.filterMap_nil,
        Handle.firstCopy] at hd
      obtain hd | hd := List.mem_append.1 hd
      · exact h.created d hd
      · rw [List.mem_singleton.1 hd]
        exact hat
    · simp only [List.filterMap_append, List.filterMap_cons, List.filterMap_nil,
        Handle.wokenCopy, List.append_nil] at hd
      exact h.woken d hd
  · -- where a copy is handed over at once none of its link is under way
    have hzero : c.delay = 0 := not_not.1 hdelay
    have hnone : ∀ a b, onLink a b c = true → s.inFlight.filter (onLink a b) = [] := by
      intro a b hlink
      refine List.filter_eq_nil_iff.2 fun d hd hdlink ↦ h.delayed d hd ?_
      rw [← hmade.delay_eq (h.made hledger hd) hlink hdlink, hzero]
    rw [deliver_eq _ hmade.wire]
    dsimp only [make]
    refine ⟨?_, fun a b ↦ ?_, ?_, fun x hx ↦ ?_, h.delayed, h.created, h.woken, h.asleep, h.ordered⟩
    · refine .trans ?_ hpartition
      simp only [line_eq, List.map_append, List.map_cons, List.map_nil, List.append_assoc]
      exact .append_left _ List.perm_append_comm
    · have := horder a b
      simp only [link, line_eq, List.map_append, List.map_cons, List.map_nil, List.append_assoc,
        List.filter_append] at this ⊢
      cases hlink : onLink a b c with
      | false => simpa [hlink, inFlight] using this
      | true =>
        rw [hnone a b hlink] at this
        have hsame := hnone a b hlink
        simp only [inFlight] at hsame ⊢
        rw [hsame]
        simpa using this
    · rw [List.countP_append, List.countP_singleton, ← h.delivered]
      exact (apply_ite (s.delivered + ·) _ 1 0).symm
    · obtain hx | hx := List.mem_append.1 hx
      · exact h.arrivals x hx
      · rw [List.mem_singleton.1 hx, hzero, max_self, add_zero, hat]

/-- Offering a copy schedules it, or hands it over at once. -/
theorem offer_extends (s : LoopbackLoop K P) {c : Copy K} (hmade : Made bus s.published c) :
    Extends c.seq s (s.offer bus c).2 ∧ (s.offer bus c).2.offered = s.offered ++ [c] ∧
      ((s.offer bus c).1 = true ∨
        ∃ x ∈ (s.offer bus c).2.arrived, x.1.seq = c.seq ∧ x.1.callback x.2 = false) := by
  have hnew : ∃ new, s.offered ++ [c] = s.offered ++ new ∧ ∀ d ∈ new, d.seq = c.seq :=
    ⟨[c], rfl, fun d hd ↦ by rw [List.mem_singleton.1 hd]⟩
  rw [LoopbackLoop.offer]
  split_ifs with hlost hdelay
  · exact ⟨⟨rfl, rfl, rfl, rfl, List.prefix_rfl, hnew⟩, rfl, .inl rfl⟩
  · exact ⟨⟨rfl, rfl, rfl, rfl, List.prefix_rfl, hnew⟩, rfl, .inl rfl⟩
  · rw [deliver_eq _ hmade.wire]
    refine ⟨⟨rfl, rfl, rfl, rfl, List.prefix_append _ _, hnew⟩, rfl, ?_⟩
    cases hreturns : c.callback ⟨c.packet, now_us (s.make c).t, none⟩ with
    | true => exact .inl rfl
    | false => exact .inr ⟨_, List.mem_append_right _ List.mem_cons_self, rfl, hreturns⟩

variable (bus rng) in
/-- Amid broadcast `k`: those that it has still to come to are `rest`. -/
structure Broadcasting (k sender_id : ℕ) (packet : AirPacket) (audience rest : List ℕ)
    (s : LoopbackLoop K P) : Prop where
  ledger : s.Ledger bus rng
  underWay : s.UnderWay bus
  last : s.sent = k + 1
  published : s.published[k]? = some ⟨sender_id, packet, s.t, audience⟩
  nodup : audience.Nodup
  receivers : s.receivers k ++ rest.filter (· ≠ sender_id) = audience.filter (· ≠ sender_id)

omit [LinearOrder K] [IsStrictOrderedRing K] [FloorRing K] [Field K] in
/-- Two extensions by copies of one publication are one. -/
theorem Extends.trans {k : ℕ} {s s' s'' : LoopbackLoop K P} (h : Extends k s s')
    (h' : Extends k s' s'') : Extends k s s'' := by
  obtain ⟨new, hnew, hseq⟩ := h.offered
  obtain ⟨new', hnew', hseq'⟩ := h'.offered
  refine ⟨h'.subscribers.trans h.subscribers, h'.sent.trans h.sent,
    h'.published.trans h.published, h'.t.trans h.t, h.arrived.trans h'.arrived, new ++ new', ?_,
    fun c hc ↦ ?_⟩
  · rw [hnew', hnew, List.append_assoc]
  · obtain hc | hc := List.mem_append.1 hc
    · exact hseq c hc
    · exact hseq' c hc

/-- The copy for the next subscriber. -/
theorem Broadcasting.offer {k sender_id : ℕ} {packet : AirPacket} {audience rest : List ℕ}
    {s : LoopbackLoop K P} {x : ℕ × ReceiveCallback}
    (h : Broadcasting bus rng k sender_id packet audience (x.1 :: rest) s) (hx : x.1 ≠ sender_id) :
    Broadcasting bus rng k sender_id packet audience rest
        (s.offer bus (s.copyFor bus rng k sender_id packet x)).2 ∧
      Extends k s (s.offer bus (s.copyFor bus rng k sender_id packet x)).2 ∧
      ((s.offer bus (s.copyFor bus rng k sender_id packet x)).1 = true ∨
        ∃ y ∈ (s.offer bus (s.copyFor bus rng k sender_id packet x)).2.arrived,
          y.1.seq = k ∧ y.1.callback y.2 = false) := by
  set c := s.copyFor bus rng k sender_id packet x with hc
  have hmade : Made bus s.published c := by
    refine ⟨⟨audience, h.published⟩, rfl, rfl, ?_⟩
    simp only [hc, copyFor]
    split_ifs with hloss <;> simp [hloss]
  have hdraw : ∀ u ∈ c.draw, u = rng s.draws := by
    intro u hu
    simp only [hc, copyFor] at hu
    split_ifs at hu with hloss
    · exact (Option.some.inj hu).symm
    · cases hu
  have hheard := h.receivers
  rw [List.filter_cons_of_pos (by simp [hx])] at hheard
  have hfresh : ∀ d ∈ s.offered, d.sender = c.sender → d.receiver = c.receiver → d.seq < c.seq := by
    intro d hd _ hreceiver
    obtain ⟨a, ha⟩ := (h.ledger.made d hd).published
    have hlt : d.seq < k + 1 := by
      rw [← h.last, h.ledger.sent]
      exact (List.getElem?_eq_some_iff.1 ha).1
    refine lt_of_le_of_ne (Nat.lt_succ_iff.1 hlt) fun hseq ↦ ?_
    -- no one is offered two copies of one broadcast
    have hmem : x.1 ∈ s.receivers k :=
      List.mem_map.2 ⟨d, List.mem_filter.2 ⟨hd, by simpa [hc, copyFor] using hseq⟩, hreceiver⟩
    have hnodup : (s.receivers k ++ x.1 :: rest.filter (· ≠ sender_id)).Nodup := by
      rw [hheard]
      exact h.nodup.filter _
    exact (List.nodup_append.1 hnodup).2.2 _ hmem _ List.mem_cons_self rfl
  obtain ⟨hextends, hoffered, hraises⟩ := s.offer_extends hmade
  refine ⟨⟨h.ledger.offer hmade hdraw, h.underWay.offer h.ledger hmade rfl hfresh, ?_, ?_, h.nodup,
    ?_⟩, hextends, hraises⟩
  · rw [hextends.sent, h.last]
  · rw [hextends.published, hextends.t, h.published]
  · rw [LoopbackLoop.receivers, hoffered, List.filter_append, List.map_append,
      List.filter_cons_of_pos (by simp [hc, copyFor]), List.filter_nil, List.append_assoc]
    exact hheard

/-- The sender itself gets no copy. -/
theorem Broadcasting.skip {k sender_id : ℕ} {packet : AirPacket} {audience rest : List ℕ}
    {s : LoopbackLoop K P} {i : ℕ}
    (h : Broadcasting bus rng k sender_id packet audience (i :: rest) s) (hi : i = sender_id) :
    Broadcasting bus rng k sender_id packet audience rest s := by
  refine ⟨h.ledger, h.underWay, h.last, h.published, h.nodup, ?_⟩
  have hheard := h.receivers
  rwa [List.filter_cons_of_neg (by simp [hi])] at hheard

/-- **The loop of a broadcast**, by induction on those it has still to come to. -/
theorem Broadcasting.offerAll {k sender_id : ℕ} {packet : AirPacket} {audience : List ℕ}
    {rest : List (ℕ × ReceiveCallback)} {s : LoopbackLoop K P}
    (h : Broadcasting bus rng k sender_id packet audience (rest.map Prod.fst) s) :
    ∃ left, Broadcasting bus rng k sender_id packet audience left
        (s.offerAll bus rng k sender_id packet rest).2 ∧
      (left = [] ∨ ∃ y ∈ (s.offerAll bus rng k sender_id packet rest).2.arrived,
        y.1.seq = k ∧ y.1.callback y.2 = false) ∧
      Extends k s (s.offerAll bus rng k sender_id packet rest).2 := by
  induction rest generalizing s with
  | nil =>
    rw [LoopbackLoop.offerAll]
    exact ⟨[], h, .inl rfl, rfl, rfl, rfl, rfl, List.prefix_rfl, [], by simp⟩
  | cons x rest ih =>
    rw [LoopbackLoop.offerAll]
    dsimp only
    split_ifs with hx hreturns
    · exact ih (h.skip hx)
    · obtain ⟨hnext, hextends, -⟩ := h.offer hx
      obtain ⟨left, hleft, hend, hrest⟩ := ih hnext
      exact ⟨left, hleft, hend, hextends.trans hrest⟩
    · obtain ⟨hnext, hextends, hraises⟩ := h.offer hx
      exact ⟨rest.map Prod.fst, hnext, .inr (hraises.resolve_left hreturns), hextends⟩

variable (bus rng) in
/-- **The bus at any time.** -/
structure Inv (s : LoopbackLoop K P) : Prop where
  ledger : s.Ledger bus rng
  underWay : s.UnderWay bus
  distinct : (s.subscribers.map Prod.fst).Nodup
  heard : ∀ k pub, s.published[k]? = some pub →
    (s.receivers k).Nodup ∧ s.receivers k <+: pub.audience.filter (· ≠ pub.sender) ∧
      ((∀ x ∈ s.arrived, x.1.seq = k → x.1.callback x.2 = true) →
        s.receivers k = pub.audience.filter (· ≠ pub.sender))

/-- Before the first event. -/
theorem inv_init (t : K) : (init t : LoopbackLoop K P).Inv bus rng where
  ledger := ⟨rfl, rfl, rfl, rfl, fun _ h ↦ absurd h List.not_mem_nil⟩
  underWay := by
    refine ⟨.nil, fun _ _ ↦ .nil, rfl, ?_, ?_, ?_, ?_, ?_, .nil⟩
    all_goals exact fun _ h ↦ absurd h List.not_mem_nil
  distinct := .nil
  heard := fun _ _ h ↦ by cases h

omit [Field K] [LinearOrder K] [IsStrictOrderedRing K] [FloorRing K] in
/-- A broadcast leaves the receivers of the earlier ones as they are. -/
theorem receivers_of_extends {j k : ℕ} (hjk : j ≠ k) {s s' : LoopbackLoop K P}
    (h : Extends k s s') : s'.receivers j = s.receivers j := by
  obtain ⟨new, hnew, hseq⟩ := h.offered
  have hnone : new.filter (fun c ↦ c.seq = j) = [] := by
    refine List.filter_eq_nil_iff.2 fun c hc hj ↦ hjk ?_
    rw [← of_decide_eq_true hj, hseq c hc]
  rw [receivers, hnew, List.filter_append, hnone, List.append_nil, receivers]

/-- The start of a broadcast. -/
theorem Inv.announce {s : LoopbackLoop K P} (h : s.Inv bus rng) (sender_id : ℕ)
    (packet : AirPacket) :
    Broadcasting bus rng s.sent sender_id packet (s.subscribers.map Prod.fst)
      (s.subscribers.map Prod.fst) (s.announce sender_id packet) := by
  have hsent := h.ledger.sent
  have hmade : ∀ c ∈ s.offered, Made bus (s.announce sender_id packet).published c := by
    intro c hc
    obtain ⟨⟨audience, haudience⟩, hwire, hdelay, hdraw⟩ := h.ledger.made c hc
    refine ⟨⟨audience, ?_⟩, hwire, hdelay, hdraw⟩
    rw [LoopbackLoop.announce, List.getElem?_append_left (List.getElem?_eq_some_iff.1 haudience).1,
      haudience]
  have hnone : (s.announce sender_id packet).receivers s.sent = [] := by
    rw [receivers, List.map_eq_nil_iff]
    refine List.filter_eq_nil_iff.2 fun c hc hseq ↦ ?_
    obtain ⟨audience, haudience⟩ := (h.ledger.made c hc).published
    have hlt := (List.getElem?_eq_some_iff.1 haudience).1
    rw [of_decide_eq_true hseq, hsent] at hlt
    exact lt_irrefl _ hlt
  refine ⟨⟨?_, h.ledger.dropped, h.ledger.lost, h.ledger.draws, hmade⟩,
    ⟨h.underWay.partition, h.underWay.order, h.underWay.delivered, h.underWay.arrivals,
      h.underWay.delayed, h.underWay.created, h.underWay.woken, h.underWay.asleep,
      h.underWay.ordered⟩, rfl, ?_, h.distinct, ?_⟩
  · simp [LoopbackLoop.announce, hsent]
  · simp [LoopbackLoop.announce, hsent]
  · rw [hnone, List.nil_append]

/-- A publication keeps the invariant. -/
theorem Inv.broadcast {s : LoopbackLoop K P} (h : s.Inv bus rng) (sender_id : ℕ)
    (packet : AirPacket) : (s.broadcast bus rng sender_id packet).Inv bus rng := by
  have hsent := h.ledger.sent
  -- `left` are the subscribers behind the one whose callback raised, if one did.
  obtain ⟨left, hleft, hend, hextends⟩ := (h.announce sender_id packet).offerAll
  rw [LoopbackLoop.broadcast]
  set s' := ((s.announce sender_id packet).offerAll bus rng s.sent sender_id packet s.subscribers).2
  have hpublished : s'.published =
      s.published ++ [⟨sender_id, packet, s.t, s.subscribers.map Prod.fst⟩] := hextends.published
  refine ⟨hleft.ledger, hleft.underWay, ?_, fun k pub hk ↦ ?_⟩
  · rw [hextends.subscribers]
    exact h.distinct
  · rw [hpublished] at hk
    obtain hlt | hle := lt_or_ge k s.published.length
    · -- an earlier broadcast
      rw [List.getElem?_append_left hlt] at hk
      obtain ⟨hnodup, hsome, hall⟩ := h.heard k pub hk
      have hne : k ≠ s.sent := by omega
      rw [receivers_of_extends hne hextends]
      exact ⟨hnodup, hsome, fun hreturn ↦ hall fun x hx ↦ hreturn x (hextends.arrived.mem hx)⟩
    · -- this one
      have hk' := (List.getElem?_eq_some_iff.1 hk).1
      rw [List.length_append, List.length_singleton] at hk'
      obtain rfl : k = s.published.length := by omega
      rw [List.getElem?_concat_length] at hk
      obtain rfl := Option.some.inj hk
      rw [← hsent]
      have hsplit := hleft.receivers
      have hnodup : (s'.receivers s.sent ++ left.filter (· ≠ sender_id)).Nodup := by
        rw [hsplit]
        exact h.distinct.filter _
      refine ⟨(List.nodup_append.1 hnodup).1, ⟨_, hsplit⟩, fun hreturn ↦ ?_⟩
      obtain rfl | ⟨x, hx, hseq, hraises⟩ := hend
      · rw [← hsplit, List.filter_nil, List.append_nil]
      · exact absurd (hreturn x hx hseq) (by simp [hraises])

/-! ### Runs -/

/-- A step that offers nothing keeps it, if it loses nothing that was under way. -/
theorem Inv.of_record {s s' : LoopbackLoop K P} (h : s.Inv bus rng) (hledger : s'.Ledger bus rng)
    (hunderWay : s'.UnderWay bus) (hsubscribers : s'.subscribers = s.subscribers)
    (hpublished : s'.published = s.published) (hoffered : s'.offered = s.offered)
    (harrived : s.arrived <+: s'.arrived) : s'.Inv bus rng := by
  refine ⟨hledger, hunderWay, ?_, fun k pub hk ↦ ?_⟩
  · rw [hsubscribers]
    exact h.distinct
  · rw [hpublished] at hk
    rw [receivers, hoffered]
    obtain ⟨hnodup, hsome, hall⟩ := h.heard k pub hk
    exact ⟨hnodup, hsome, fun hreturn ↦ hall fun x hx ↦ hreturn x (harrived.mem hx)⟩

omit [DecidableEq τ] in
/-- A turn hands over at most, and records nothing else. -/
theorem turn_record (s : LoopbackLoop K P) :
    s.turn.subscribers = s.subscribers ∧ s.turn.published = s.published ∧
      s.turn.offered = s.offered ∧ s.arrived <+: s.turn.arrived ∧ s.turn.t = s.t := by
  rw [LoopbackLoop.turn]
  split
  · exact ⟨rfl, rfl, rfl, List.prefix_rfl, rfl⟩
  · rw [sleep]
    split_ifs <;> exact ⟨rfl, rfl, rfl, List.prefix_rfl, rfl⟩
  · rw [deliver]
    dsimp only
    split
    · exact ⟨rfl, rfl, rfl, List.prefix_rfl, rfl⟩
    · exact ⟨rfl, rfl, rfl, List.prefix_append _ _, rfl⟩

omit [Field K] [IsStrictOrderedRing K] [FloorRing K] [DecidableEq τ] in
/-- The clock changes no record. -/
theorem advance_record (s : LoopbackLoop K P) (t : K) :
    (s.advance t).subscribers = s.subscribers ∧ (s.advance t).published = s.published ∧
      (s.advance t).offered = s.offered ∧ (s.advance t).arrived = s.arrived := by
  rw [LoopbackLoop.advance]
  split_ifs <;> exact ⟨rfl, rfl, rfl, rfl⟩

/-- A turn of the event loop keeps it. -/
theorem Inv.turn {s : LoopbackLoop K P} (h : s.Inv bus rng) : s.turn.Inv bus rng := by
  obtain ⟨hsubscribers, hpublished, hoffered, harrived, -⟩ := s.turn_record
  exact h.of_record h.ledger.turn (h.underWay.turn h.ledger) hsubscribers hpublished hoffered
    harrived

/-- The clock keeps it. -/
theorem Inv.advance {s : LoopbackLoop K P} (h : s.Inv bus rng) (t : K) :
    (s.advance t).Inv bus rng := by
  obtain ⟨hsubscribers, hpublished, hoffered, harrived⟩ := s.advance_record t
  exact h.of_record (h.ledger.advance t) (h.underWay.advance t) hsubscribers hpublished hoffered
    (harrived ▸ List.prefix_rfl)

/-- A broadcast is recorded, and hands over at most. -/
theorem Inv.broadcast_record {s : LoopbackLoop K P} (h : s.Inv bus rng) (sender_id : ℕ)
    (packet : AirPacket) :
    (s.broadcast bus rng sender_id packet).published =
        s.published ++ [⟨sender_id, packet, s.t, s.subscribers.map Prod.fst⟩] ∧
      s.arrived <+: (s.broadcast bus rng sender_id packet).arrived ∧
      (s.broadcast bus rng sender_id packet).t = s.t := by
  obtain ⟨-, -, -, hextends⟩ := (h.announce sender_id packet).offerAll
  exact ⟨hextends.published, hextends.arrived, hextends.t⟩

variable [DecidableEq P] {node : P → ℕ}

/-- Every event keeps the invariant. -/
theorem Inv.step {s : LoopbackLoop K P} (h : s.Inv bus rng) (ev : BusEvent K P) :
    (s.step bus rng node ev).Inv bus rng := by
  cases ev with
  | start p on_receive =>
    rw [LoopbackLoop.step]
    split_ifs with hstarted hattached
    · exact h
    · exact h
    · refine ⟨⟨h.ledger.sent, h.ledger.dropped, h.ledger.lost, h.ledger.draws, h.ledger.made⟩,
        ⟨h.underWay.partition, h.underWay.order, h.underWay.delivered, h.underWay.arrivals,
          h.underWay.delayed, h.underWay.created, h.underWay.woken, h.underWay.asleep,
          h.underWay.ordered⟩, ?_, h.heard⟩
      rw [List.map_append]
      refine h.distinct.append (List.nodup_singleton _) ?_
      rw [List.map_singleton, List.disjoint_singleton]
      exact hattached
  | stop p =>
    refine ⟨⟨h.ledger.sent, h.ledger.dropped, h.ledger.lost, h.ledger.draws, h.ledger.made⟩,
      ⟨h.underWay.partition, h.underWay.order, h.underWay.delivered, h.underWay.arrivals,
        h.underWay.delayed, h.underWay.created, h.underWay.woken, h.underWay.asleep,
        h.underWay.ordered⟩, ?_, h.heard⟩
    exact h.distinct.sublist (List.filter_sublist.map _)
  | publish p packet =>
    rw [LoopbackLoop.step]
    split_ifs
    · exact h.broadcast _ _
    · exact h
  | turn => exact h.turn
  | advance t => exact h.advance t

omit [DecidableEq P] in
/-- What has arrived was offered. -/
theorem UnderWay.mem_offered_of_arrived {s : LoopbackLoop K P} (h : s.UnderWay bus)
    {x : Copy K × AirReception} (hx : x ∈ s.arrived) : x.1 ∈ s.offered := by
  refine h.mem_offered ?_
  rw [line_eq]
  exact List.mem_append_left _ (List.mem_map_of_mem hx)

omit [DecidableEq P] in
/-- What one node hears of another comes in the order of the broadcasts. -/
theorem Inv.arrived_order {s : LoopbackLoop K P} (h : s.Inv bus rng) (a b : ℕ) :
    ((s.arrived.map Prod.fst).filter (onLink a b)).Pairwise fun c d ↦ c.seq < d.seq := by
  have horder := h.underWay.order a b
  rw [link, line_eq, List.filter_append] at horder
  exact (List.pairwise_append.1 horder).1

omit [DecidableEq P] in
/-- No copy is late. -/
theorem Inv.arrived_of_due {s : LoopbackLoop K P} (h : s.Inv bus rng) {c : Copy K}
    (hc : c ∈ s.offered) (hkept : isLost bus c = false) (htime : c.at_s + max c.delay 0 < s.t) :
    c ∈ s.arrived.map Prod.fst := by
  have hunderWay := h.underWay
  have hline : c ∈ s.line :=
    hunderWay.partition.mem_iff.2 (List.mem_filter.2 ⟨hc, by simp [hkept]⟩)
  rw [line_eq] at hline
  obtain hline | hflight := List.mem_append.1 hline
  · exact hline
  · -- a copy under way is not past its time
    simp only [inFlight, List.mem_append] at hflight
    obtain (hwoken | hasleep) | hfirst := hflight
    · exact absurd (hunderWay.woken c hwoken) htime.ne
    · obtain ⟨x, hx, rfl⟩ := List.mem_map.1 hasleep
      obtain ⟨hdue, hpos, -, hahead⟩ := hunderWay.asleep x hx
      rw [max_eq_left hpos.le, ← hdue] at htime
      exact absurd hahead htime.not_gt
    · have hat := hunderWay.created c hfirst
      rw [hat] at htime
      exact absurd (le_add_of_nonneg_right (le_max_right _ _)) htime.not_ge

/-- What is handed over stays handed over. -/
theorem Inv.arrived_step {s : LoopbackLoop K P} (h : s.Inv bus rng) (ev : BusEvent K P) :
    s.arrived <+: (s.step bus rng node ev).arrived := by
  cases ev with
  | start p on_receive =>
    rw [LoopbackLoop.step]
    split_ifs <;> exact List.prefix_rfl
  | stop p => exact List.prefix_rfl
  | publish p packet =>
    rw [LoopbackLoop.step]
    split_ifs
    · exact (h.broadcast_record _ _).2.1
    · exact List.prefix_rfl
  | turn => exact s.turn_record.2.2.2.1
  | advance t => exact (s.advance_record t).2.2.2 ▸ List.prefix_rfl

variable (bus rng node) in
/-- **The bus at any time.** -/
theorem inv_run (t : K) (evs : List (BusEvent K P)) :
    (run (step bus rng node) (init t) evs).Inv bus rng :=
  run_invariant (P := Inv bus rng) (step bus rng node) (fun _ ev h ↦ h.step ev) (inv_init t) evs

variable (bus rng node)

/-- **Every copy is accounted for.** In any run the three counters are exact; every copy that a
broadcast made is dropped, has been handed over or is under way, and is one of these only; which
ones are dropped is said by the generator's stream alone, read in the order of the copies; and a
broadcast made a copy for each subscriber but its sender, unless a callback raised for it. -/
theorem copies_accounted (t : K) (evs : List (BusEvent K P)) :
    let s := run (step bus rng node) (init t) evs
    (s.sent = s.published.length ∧ s.dropped = s.lost.length ∧
        s.delivered = s.arrived.countP fun x ↦ x.1.callback x.2) ∧
      s.offered.Perm (s.lost ++ (s.arrived.map Prod.fst ++ s.inFlight)) ∧
      (s.lost = s.offered.filter (isLost bus) ∧
        s.offered.filterMap Copy.draw = (List.range s.draws).map rng) ∧
      ∀ k pub, s.published[k]? = some pub →
        (s.receivers k).Nodup ∧ s.receivers k <+: pub.audience.filter (· ≠ pub.sender) ∧
          ((∀ x ∈ s.arrived, x.1.seq = k → x.1.callback x.2 = true) →
            s.receivers k = pub.audience.filter (· ≠ pub.sender)) := by
  intro s
  obtain ⟨hledger, hunderWay, -, hheard⟩ := inv_run bus rng node t evs
  refine ⟨⟨hledger.sent, hledger.dropped, hunderWay.delivered⟩, ?_,
    ⟨hledger.lost, hledger.draws⟩, hheard⟩
  have hsplit := (List.filter_append_perm (isLost bus) s.offered).symm
  have hrest := hunderWay.partition.symm
  rw [line_eq] at hrest
  rw [← hledger.lost] at hsplit
  exact hsplit.trans (.append_left _ hrest)

/-- Half of the copies are lost, and the others take a tenth of a second. -/
def halfLost : LoopbackBus ℚ ℕ where
  loss := 1 / 2
  delay_s := 1 / 10
  serialise := true
  node_types := none
  link_loss := none
  link_delay_s := none
  loss_mem := by constructor <;> decide +kernel
  delay_nonneg := by decide +kernel

/-- A generator whose first number alone is below a half. -/
def coin (k : ℕ) : ℚ := if k = 0 then 1 / 4 else 3 / 4

/-- Node `3` sends to `4` and `5`, and time passes until nothing is under way. -/
def threeNodes : List (BusEvent ℚ ℕ) :=
  [.start 3 (fun _ ↦ true), .start 4 (fun _ ↦ true), .start 5 (fun _ ↦ true),
    .publish 3 sampleAirPacket, .turn, .advance (1 / 10), .turn, .advance 1]

/-- The copy for node `4` is lost, and that for node `5` is handed over. -/
theorem copies_accounted_threeNodes :
    let s := run (step halfLost coin id) (init 0) threeNodes
    s.sent = 1 ∧ s.dropped = 1 ∧ s.delivered = 1 ∧
      s.offered.Perm (s.lost ++ (s.arrived.map Prod.fst ++ s.inFlight)) := by
  obtain ⟨⟨hsent, hdropped, hdelivered⟩, hperm, -⟩ := copies_accounted halfLost coin id 0 threeNodes
  exact ⟨hsent.trans (by decide +kernel), hdropped.trans (by decide +kernel),
    hdelivered.trans (by decide +kernel), hperm⟩

/-- **A link is a delay line.** In any run, what one node hears of another comes in the order in
which it was sent; each packet is the one that was published, to a node that was attached then and
is not its sender, stamped with the time of the broadcast and the delay of the pair; and no copy is
late. -/
theorem link_is_delay_line (t : K) (evs : List (BusEvent K P)) :
    let s := run (step bus rng node) (init t) evs
    (∀ a b, ((s.arrived.map Prod.fst).filter (onLink a b)).Pairwise fun c d ↦ c.seq < d.seq) ∧
      (∀ x ∈ s.arrived, ∃ pub, s.published[x.1.seq]? = some pub ∧ x.1.sender = pub.sender ∧
        x.1.receiver ∈ pub.audience ∧ x.1.receiver ≠ pub.sender ∧
        x.2 = ⟨pub.packet,
          now_us (pub.at_s + max (bus.params pub.sender x.1.receiver).2 0), none⟩) ∧
      ∀ c ∈ s.offered, isLost bus c = false → c.at_s + max c.delay 0 < s.t →
        c ∈ s.arrived.map Prod.fst := by
  intro s
  have h : s.Inv bus rng := inv_run bus rng node t evs
  refine ⟨h.arrived_order, fun x hx ↦ ?_, fun c hc hkept htime ↦ h.arrived_of_due hc hkept htime⟩
  have hoffered := h.underWay.mem_offered_of_arrived hx
  obtain ⟨⟨audience, hpub⟩, -, hdelay, -⟩ := h.ledger.made x.1 hoffered
  obtain ⟨-, hsome, -⟩ := h.heard _ _ hpub
  have hmem : x.1.receiver ∈ s.receivers x.1.seq :=
    List.mem_map_of_mem (List.mem_filter.2 ⟨hoffered, decide_eq_true rfl⟩)
  obtain ⟨hreceiver, hne⟩ := List.mem_filter.1 (hsome.mem hmem)
  refine ⟨_, hpub, rfl, hreceiver, by simpa using hne, ?_⟩
  rw [h.underWay.arrivals x hx, hdelay]

/-- By the end every copy that was not lost has arrived. -/
theorem link_is_delay_line_threeNodes :
    let s := run (step halfLost coin id) (init 0) threeNodes
    (∀ x ∈ s.arrived, x.1.receiver ≠ x.1.sender) ∧
      ∀ c ∈ s.offered, isLost halfLost c = false → c ∈ s.arrived.map Prod.fst := by
  obtain ⟨-, harrived, hnone_late⟩ := link_is_delay_line halfLost coin id 0 threeNodes
  constructor
  · intro x hx
    obtain ⟨pub, -, hsender, -, hne, -⟩ := harrived x hx
    rwa [hsender]
  · intro c hc hkept
    refine hnone_late c hc hkept ?_
    have hearly : ∀ c ∈ (run (step halfLost coin id) (init 0) threeNodes).offered,
        c.at_s + max c.delay 0 < (run (step halfLost coin id) (init 0) threeNodes).t := by
      decide +kernel
    exact hearly c hc

end LoopbackLoop

end VertexTestbed.Host
