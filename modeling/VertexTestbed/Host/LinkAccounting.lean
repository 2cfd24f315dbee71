import VertexTestbed.Host.LinkMonitor

/-!
# What the link statistics count

The monitor of `wire/codec.py` keeps one record a neighbour, and what it does with a packet depends
on that neighbour's record only: `run_link` reads a run of the monitor, neighbour by neighbour, as a
run of one `Link`. On a link, the books balance whatever comes in (`Balanced`), and a stream that
arrives in order with gaps inside the window is counted exactly (`link_accounting_exact`).

The delay samples are another matter. A sample is taken before the packet is classified, so a
duplicate leaves one: `delay_samples_le_iff` says when there are more samples than deliveries.
-/

namespace VertexTestbed.Host

open Runs

variable {ι : Type*}

/-! ### One link -/

/-- A packet, with the time it was received at when that is known. -/
abbrev Observation (ι : Type*) := WirePacket ι × Option ℤ

/-- Both ends stamped the packet, so it yields a delay sample. -/
def Observation.stamped (o : Observation ι) : Bool :=
  o.2.isSome && decide (o.1.tx_time_us ≠ 0)

/-- What a monitor holds of one neighbour. -/
structure Link where
  last : Option ℕ
  stats : LinkStats

/-- The branch of `observe`, from the last accepted number and the packet's. -/
def arrival (reorder_window : ℤ) (last : Option ℕ) (seq : ℕ) : Arrival :=
  match last with
  | none => .first
  | some last =>
    let gap := ((seq : ℤ) - last) % 65536
    if gap = 0 then .duplicate
    else if 65536 - reorder_window < gap then .reordered
    else if reorder_window < gap then .reset
    else .next gap.toNat

/-- The statistics with a packet counted as received, before it is classified. -/
def LinkStats.counted (st : LinkStats) (o : Observation ι) : LinkStats :=
  { st with
    received := st.received + 1
    delays_us :=
      match o.2 with
      | some rx =>
        if o.1.tx_time_us ≠ 0 then st.delays_us ++ [rx - o.1.tx_time_us] else st.delays_us
      | none => st.delays_us }

/-- `observe`, as the link of the packet's sender sees it. -/
def Link.hear (reorder_window : ℤ) (k : Link) (o : Observation ι) : Link :=
  let a := arrival reorder_window k.last o.1.seq
  ⟨if a.keepsLast then k.last else some o.1.seq, (k.stats.counted o).count a⟩

/-- The link of a neighbour nothing was heard of. -/
def Link.silent : Link := ⟨none, .zero⟩

namespace LinkMonitor

/-- The link of a neighbour: `stats.setdefault` finds zeros where nothing was counted. -/
def link (m : LinkMonitor ι) (nid : ι) : Link :=
  ⟨m.last_seq nid, (m.stats nid).getD .zero⟩

variable [DecidableEq ι]

/-- `observe`, with its two arguments as one. -/
def receive (m : LinkMonitor ι) (o : Observation ι) : LinkMonitor ι :=
  m.observe o.1 o.2

theorem link_receive_self (m : LinkMonitor ι) (o : Observation ι) :
    (m.receive o).link o.1.node_id = (m.link o.1.node_id).hear m.reorder_window o := by
  have hlast : (m.observe o.1 o.2).last_seq o.1.node_id =
      if (m.classify o.1).keepsLast then m.last_seq o.1.node_id else some o.1.seq := by
    rw [observe_last]
    split_ifs
    · rfl
    · exact Function.update_self _ _ _
  have hstats : ((m.observe o.1 o.2).stats o.1.node_id).getD .zero =
      ((m.link o.1.node_id).stats.counted o).count (m.classify o.1) := by
    show (Function.update m.stats o.1.node_id _ o.1.node_id).getD .zero = _
    rw [Function.update_self]
    rfl
  rw [link, receive, hlast, hstats]
  rfl

theorem link_receive_of_ne (m : LinkMonitor ι) (o : Observation ι) {nid : ι}
    (h : o.1.node_id ≠ nid) : (m.receive o).link nid = m.link nid := by
  rw [link, receive, observe_last_of_ne _ _ _ h.symm]
  simp only [observe, Function.update_of_ne h.symm, link]

/-- **Neighbour by neighbour**: the link of one neighbour is a run over that neighbour's packets. -/
theorem run_link (m : LinkMonitor ι) (os : List (Observation ι)) (nid : ι) :
    (run receive m os).link nid =
      run (Link.hear m.reorder_window) (m.link nid) (os.filter fun o ↦ o.1.node_id = nid) := by
  induction os generalizing m with
  | nil => rfl
  | cons o os ih =>
    rw [run_cons, ih]
    by_cases h : o.1.node_id = nid
    · rw [List.filter_cons_of_pos (by simpa using h), run_cons, ← h, link_receive_self]
      rfl
    · rw [List.filter_cons_of_neg (by simpa using h), link_receive_of_ne m o h]
      rfl

end LinkMonitor

/-! ### The books balance -/

/-- `LinkStats.delivery_ratio`. -/
def LinkStats.delivery_ratio (st : LinkStats) : ℚ :=
  if st.expected = 0 then 1 else st.received / st.expected

/-- **The books of a link that heard `n` packets**: every packet was received, a duplicate or late,
every expected one was received or lost, and nothing is counted before the first is received. -/
structure Link.Balanced (k : Link) (n : ℕ) : Prop where
  expected : k.stats.expected = k.stats.received + k.stats.lost
  observed : n = k.stats.received + k.stats.duplicates + k.stats.reordered
  silent : k.last = none → k.stats.expected = 0 ∧ k.stats.received = 0
  heard : k.last ≠ none → 0 < k.stats.received

namespace Link

theorem balanced_silent : silent.Balanced 0 :=
  ⟨rfl, rfl, fun _ ↦ ⟨rfl, rfl⟩, fun h ↦ absurd rfl h⟩

/-- A step ahead is never empty. -/
theorem pos_of_arrival_next {window : ℤ} {last : Option ℕ} {seq gap : ℕ}
    (h : arrival window last seq = .next gap) : 0 < gap := by
  rcases last with _ | last
  · cases h
  · unfold arrival at h
    dsimp only at h
    split_ifs at h
    have hgap := Arrival.next.inj h
    omega

/-- A branch that keeps the last accepted number has one. -/
theorem last_of_keepsLast {window : ℤ} {last : Option ℕ} {seq : ℕ}
    (h : (arrival window last seq).keepsLast = true) : last ≠ none := by
  rintro rfl
  cases h

end Link

namespace LinkStats

variable (st : LinkStats) (o : Observation ι) (a : Arrival)

/-- Only a branch that moves on is a delivery. -/
theorem count_received :
    ((st.counted o).count a).received = st.received + if a.keepsLast then 0 else 1 := by
  cases a <;> simp [counted, count, Arrival.keepsLast]

/-- What a packet adds to the expected ones is itself, if delivered, and the losses before it. -/
theorem count_expected (h : ∀ gap, a = .next gap → 0 < gap) :
    ((st.counted o).count a).expected + st.received + st.lost =
      st.expected + ((st.counted o).count a).received + ((st.counted o).count a).lost := by
  cases a with
  | next gap =>
    have hgap := h gap rfl
    simp only [counted, count]
    omega
  | _ =>
    simp only [counted, count]
    omega

/-- A packet is received, a duplicate or late. -/
theorem count_observed :
    ((st.counted o).count a).received + ((st.counted o).count a).duplicates +
        ((st.counted o).count a).reordered =
      st.received + st.duplicates + st.reordered + 1 := by
  cases a <;> simp only [counted, count] <;> omega

end LinkStats

namespace Link

/-- One packet keeps the books, whatever branch it takes. -/
theorem Balanced.hear {k : Link} {n : ℕ} (h : k.Balanced n) (window : ℤ) (o : Observation ι) :
    (k.hear window o).Balanced (n + 1) := by
  obtain ⟨hexpected, hobserved, hsilent, hheard⟩ := h
  have hbooks := k.stats.count_expected o (arrival window k.last o.1.seq)
    fun _ ↦ pos_of_arrival_next
  have hseen := k.stats.count_observed o (arrival window k.last o.1.seq)
  have hreceived := k.stats.count_received o (arrival window k.last o.1.seq)
  constructor
  · rw [Link.hear]
    dsimp only
    omega
  · rw [Link.hear]
    dsimp only
    omega
  · intro hnone
    rw [Link.hear] at hnone
    dsimp only at hnone
    split_ifs at hnone with hkeeps
    exact absurd hnone (last_of_keepsLast hkeeps)
  · intro _
    rw [Link.hear]
    dsimp only
    rw [hreceived]
    split_ifs with hkeeps
    · exact hheard (last_of_keepsLast hkeeps)
    · exact Nat.succ_pos _

/-- The books of a link, over the packets it heard. -/
theorem balanced_run (window : ℤ) (os : List (Observation ι)) :
    (run (hear window) silent os).Balanced os.length := by
  induction os using List.reverseRecOn with
  | nil => exact balanced_silent
  | append_singleton os o ih =>
    rw [run_concat, List.length_append, List.length_singleton]
    exact ih.hear window o

/-- The delivery ratio of balanced books is a share, and never zero. -/
theorem Balanced.ratio_mem {k : Link} {n : ℕ} (h : k.Balanced n) :
    0 < k.stats.delivery_ratio ∧ k.stats.delivery_ratio ≤ 1 := by
  rw [LinkStats.delivery_ratio]
  split_ifs with hzero
  · exact ⟨one_pos, le_rfl⟩
  · have hexpected : (0 : ℚ) < k.stats.expected := Nat.cast_pos.2 (Nat.pos_of_ne_zero hzero)
    have hreceived : (0 : ℚ) < k.stats.received :=
      Nat.cast_pos.2 (h.heard fun hnone ↦ hzero (h.silent hnone).1)
    have hle : (k.stats.received : ℚ) ≤ k.stats.expected := by
      rw [h.expected]
      exact Nat.cast_le.2 (Nat.le_add_right _ _)
    exact ⟨div_pos hreceived hexpected, (div_le_one hexpected).2 hle⟩

end Link

/-! ### A stream in order -/

/-- **What of a stream arrives**: increasing positions, of which no two neighbouring ones have more
than 1023 packets lost between them. -/
def Delivered (positions : List ℕ) : Prop :=
  positions.IsChain fun a b ↦ a < b ∧ b - a - 1 ≤ 1023

/-- The positions between the first and the last delivered one that were not delivered. -/
def missing : List ℕ → Finset ℕ
  | [] => ∅
  | first :: rest =>
    (Finset.Icc first ((first :: rest).getLast (List.cons_ne_nil _ _))).filter (· ∉ first :: rest)

/-- The number on the packet at a position of a stream that starts at `start`. -/
def seqAt (start position : ℕ) : ℕ :=
  (start + position) % 65536

namespace Link

/-- The next packet of a stream is the step ahead that its position is. -/
theorem arrival_seqAt {start a b : ℕ} (h : a < b ∧ b - a - 1 ≤ 1023) :
    arrival 1024 (some (seqAt start a)) (seqAt start b) = .next (b - a) := by
  have hgap : ((seqAt start b : ℤ) - seqAt start a) % 65536 = b - a := by
    rw [seqAt, seqAt]
    omega
  unfold arrival
  dsimp only
  rw [hgap, if_neg (by omega), if_neg (by omega), if_neg (by omega)]
  congr 1
  omega

/-- **A stream on a link**: behind the packet at position `a`, every packet is one received, and
what is lost is what separates the positions. -/
theorem run_seqAt (start : ℕ) {positions : List ℕ} {os : List (Observation ι)}
    (hseq : os.map (·.1.seq) = positions.map (seqAt start)) {a : ℕ}
    (hdelivered : Delivered (a :: positions)) {k : Link} (hlast : k.last = some (seqAt start a)) :
    (run (hear 1024) k os).stats.received = k.stats.received + positions.length ∧
      (run (hear 1024) k os).stats.lost + positions.length + a =
        k.stats.lost + (a :: positions).getLast (List.cons_ne_nil _ _) := by
  -- On the positions that arrive; between two of them everything is missing.
  induction positions generalizing os a k with
  | nil =>
    obtain rfl : os = [] := by simpa using hseq
    exact ⟨rfl, rfl⟩
  | cons b positions ih =>
    obtain ⟨o, os, rfl⟩ : ∃ o os', os = o :: os' :=
      List.exists_cons_of_length_eq_add_one (by simpa using congrArg List.length hseq)
    simp only [List.map_cons, List.cons.injEq] at hseq
    obtain ⟨hab, hrest⟩ := List.isChain_cons_cons.1 hdelivered
    have harr : arrival 1024 k.last o.1.seq = .next (b - a) := by
      rw [hlast, hseq.1, arrival_seqAt hab]
    have hheard : k.hear 1024 o =
        ⟨some (seqAt start b), (k.stats.counted o).count (.next (b - a))⟩ := by
      rw [hear, harr, hseq.1]
      rfl
    obtain ⟨hreceived, hlost⟩ := ih hseq.2 hrest (k := k.hear 1024 o) (by rw [hheard])
    have hone : (k.hear 1024 o).stats.received = k.stats.received + 1 := by
      rw [hheard]
      rfl
    have hgap : (k.hear 1024 o).stats.lost = k.stats.lost + (b - a - 1) := by
      rw [hheard]
      rfl
    rw [run_cons, List.getLast_cons (List.cons_ne_nil _ _), List.length_cons]
    constructor
    · omega
    · omega

end Link

theorem Delivered.pairwise {positions : List ℕ} (h : Delivered positions) :
    positions.Pairwise (· < ·) :=
  List.isChain_iff_pairwise.1 (h.imp fun _ _ hab ↦ hab.1)

/-- Between the first and the last position, those delivered and those missing are all there are. -/
theorem card_missing {first : ℕ} {rest : List ℕ} (h : Delivered (first :: rest)) :
    (missing (first :: rest)).card + (rest.length + 1) + first =
      (first :: rest).getLast (List.cons_ne_nil _ _) + 1 := by
  have hpair := h.pairwise
  have hlast : ∀ i ∈ first :: rest, i ≤ (first :: rest).getLast (List.cons_ne_nil _ _) :=
    fun i hi ↦ (hpair.imp le_of_lt).rel_getLast hi
  have hfirst : ∀ i ∈ first :: rest, first ≤ i := by
    rintro i (_ | ⟨_, hi⟩)
    · exact le_rfl
    · exact (List.rel_of_pairwise_cons hpair hi).le
  have hsub : (first :: rest).toFinset ⊆
      Finset.Icc first ((first :: rest).getLast (List.cons_ne_nil _ _)) := by
    intro i hi
    rw [List.mem_toFinset] at hi
    exact Finset.mem_Icc.2 ⟨hfirst i hi, hlast i hi⟩
  have hsdiff : missing (first :: rest) =
      Finset.Icc first ((first :: rest).getLast (List.cons_ne_nil _ _)) \
        (first :: rest).toFinset := by
    ext i
    simp [missing]
  have hcard : (first :: rest).toFinset.card = rest.length + 1 :=
    List.toFinset_card_of_nodup (hpair.imp ne_of_lt)
  have hle := Finset.card_le_card hsub
  have hfl := hlast first List.mem_cons_self
  rw [hsdiff, Finset.card_sdiff_of_subset hsub]
  rw [hcard, Nat.card_Icc] at *
  omega

/-- **A stream from its first packet on**, heard on a link that was silent. -/
theorem Link.silent_run_seqAt (start : ℕ) {positions : List ℕ} {os : List (Observation ι)}
    (hseq : os.map (·.1.seq) = positions.map (seqAt start)) (hdelivered : Delivered positions) :
    (run (hear 1024) silent os).stats.received = positions.length ∧
      (run (hear 1024) silent os).stats.lost = (missing positions).card := by
  rcases positions with _ | ⟨first, rest⟩
  · obtain rfl : os = [] := by simpa using hseq
    exact ⟨rfl, rfl⟩
  · obtain ⟨o, os, rfl⟩ : ∃ o os', os = o :: os' :=
      List.exists_cons_of_length_eq_add_one (by simpa using congrArg List.length hseq)
    simp only [List.map_cons, List.cons.injEq] at hseq
    have hheard : silent.hear 1024 o =
        ⟨some (seqAt start first), (LinkStats.zero.counted o).count .first⟩ := by
      rw [hear, ← hseq.1]
      rfl
    obtain ⟨hreceived, hlost⟩ :=
      run_seqAt start hseq.2 hdelivered (k := silent.hear 1024 o) (by rw [hheard])
    have hone : (silent.hear 1024 o).stats.received = 1 := by
      rw [hheard]
      rfl
    have hnone : (silent.hear 1024 o).stats.lost = 0 := by
      rw [hheard]
      rfl
    have hcard := card_missing hdelivered
    rw [run_cons, List.length_cons]
    constructor
    · omega
    · omega

/-! ### The monitor -/

namespace LinkMonitor

variable [DecidableEq ι]

/-- What a fresh monitor with the default window holds of a neighbour, over what it heard. -/
theorem link_run_init (os : List (Observation ι)) (nid : ι) :
    (run receive (init 1024) os).link nid =
      run (Link.hear 1024) .silent (os.filter fun o ↦ o.1.node_id = nid) :=
  run_link (init 1024) os nid

/-- **The link accounting is exact.** Whatever packets a monitor with the default window has seen,
for each neighbour the expected packets are those received and those lost, the packets seen are
those received, the duplicates and the late ones, and the delivery ratio is a share that is not
zero. And if what came from the neighbour is a stream of consecutive numbers, modulo `2 ^ 16` and
from any start, that arrived in order with at most 1023 packets in a row lost, then it counts as
received the packets delivered and as lost the packets missing between the first and the last of
them. -/
theorem link_accounting_exact (os : List (Observation ι)) (nid : ι) :
    let st := ((run receive (init 1024) os).link nid).stats
    let heard := os.filter fun o ↦ o.1.node_id = nid
    (st.expected = st.received + st.lost ∧
      heard.length = st.received + st.duplicates + st.reordered ∧
      0 < st.delivery_ratio ∧ st.delivery_ratio ≤ 1) ∧
    ∀ start positions, heard.map (·.1.seq) = positions.map (seqAt start) → Delivered positions →
      st.received = positions.length ∧ st.lost = (missing positions).card := by
  dsimp only
  rw [link_run_init]
  have hbalanced := Link.balanced_run 1024 (os.filter fun o ↦ o.1.node_id = nid)
  exact ⟨⟨hbalanced.expected, hbalanced.observed, hbalanced.ratio_mem⟩,
    fun start positions hseq hdelivered ↦ Link.silent_run_seqAt start hseq hdelivered⟩

theorem seq_last_but_one_le : 65534 ≤ 65535 := by decide

theorem seq_last_le : 65535 ≤ 65535 := le_rfl

/-- Three packets of a stream that wraps around: the third of four is lost. -/
def wrappingStream : List (Observation ℕ) :=
  [(ReceiveTable.samplePacket 65534 seq_last_but_one_le 10 ReceiveTable.sampleValue_fits, none),
    (ReceiveTable.samplePacket 65535 seq_last_le 10 ReceiveTable.sampleValue_fits, none),
    (ReceiveTable.samplePacket 1 ReceiveTable.seq_one_le 10 ReceiveTable.sampleValue_fits, none)]

theorem link_accounting_exact_sample :
    ((run receive (init 1024) wrappingStream).link 1).stats.received = 3 ∧
      ((run receive (init 1024) wrappingStream).link 1).stats.lost = (missing [0, 1, 3]).card :=
  (link_accounting_exact wrappingStream 1).2 65534 [0, 1, 3] (by decide) (by simp [Delivered])

end LinkMonitor

/-! ### Delay samples -/

/-- How many packets of a run on a link satisfy `p`, asked of the link as each finds it. -/
def Link.tally (window : ℤ) (p : Link → Observation ι → Bool) : Link → List (Observation ι) → ℕ
  | _, [] => 0
  | k, o :: os => (if p k o then 1 else 0) + tally window p (k.hear window o) os

/-- A packet that is a duplicate or late, and leaves a delay sample. -/
def Link.rejectedStamped (window : ℤ) (k : Link) (o : Observation ι) : Bool :=
  (arrival window k.last o.1.seq).keepsLast && o.stamped

/-- A packet that is a delivery, and leaves none. -/
def Link.acceptedUnstamped (window : ℤ) (k : Link) (o : Observation ι) : Bool :=
  !(arrival window k.last o.1.seq).keepsLast && !o.stamped

/-- The sample is taken before the packet is classified. -/
theorem LinkStats.count_delays (st : LinkStats) (o : Observation ι) (a : Arrival) :
    ((st.counted o).count a).delays_us.length =
      st.delays_us.length + if o.stamped then 1 else 0 := by
  have hcounted : ((st.counted o).count a).delays_us = (st.counted o).delays_us := by
    cases a <;> rfl
  rw [hcounted, counted, Observation.stamped]
  rcases o.2 with _ | rx
  · rfl
  · by_cases hzero : o.1.tx_time_us = 0 <;> simp [hzero]

namespace Link

/-- **Samples and deliveries part** where a packet is one and not the other. -/
theorem delays_run (window : ℤ) (k : Link) (os : List (Observation ι)) :
    (run (hear window) k os).stats.delays_us.length + k.stats.received +
        tally window (acceptedUnstamped window) k os =
      (run (hear window) k os).stats.received + k.stats.delays_us.length +
        tally window (rejectedStamped window) k os := by
  induction os generalizing k with
  | nil =>
    simp only [run_nil, tally]
    omega
  | cons o os ih =>
    have hrun := ih (k.hear window o)
    have hdelays : (k.hear window o).stats.delays_us.length = _ :=
      k.stats.count_delays o (arrival window k.last o.1.seq)
    have hreceived : (k.hear window o).stats.received = _ :=
      k.stats.count_received o (arrival window k.last o.1.seq)
    rw [run_cons, tally, tally]
    rw [acceptedUnstamped, rejectedStamped]
    by_cases hkeeps : (arrival window k.last o.1.seq).keepsLast = true <;>
      by_cases hstamp : o.stamped = true <;>
        simp only [hkeeps, hstamp, Bool.not_true, Bool.not_false, Bool.and_true, Bool.and_false,
          Bool.false_eq_true, if_true, if_false] at hdelays hreceived ⊢ <;> omega

end Link

namespace LinkMonitor

variable [DecidableEq ι]

/-- **Delay samples belong to deliveries exactly as far as** the duplicates and late packets that
carry a time stamp are made up for by deliveries that carry none. -/
theorem delay_samples_le_iff (reorder_window : ℤ) (os : List (Observation ι)) (nid : ι) :
    let st := ((run receive (init reorder_window) os).link nid).stats
    let heard := os.filter fun o ↦ o.1.node_id = nid
    st.delays_us.length ≤ st.received ↔
      Link.tally reorder_window (Link.rejectedStamped reorder_window) .silent heard ≤
        Link.tally reorder_window (Link.acceptedUnstamped reorder_window) .silent heard := by
  dsimp only
  have hrun := Link.delays_run reorder_window .silent (os.filter fun o ↦ o.1.node_id = nid)
  have hlink : (run receive (init reorder_window) os).link nid =
      run (Link.hear reorder_window) .silent (os.filter fun o ↦ o.1.node_id = nid) :=
    run_link (init reorder_window) os nid
  have hreceived : Link.silent.stats.received = 0 := rfl
  have hdelays : Link.silent.stats.delays_us.length = 0 := rfl
  rw [hlink]
  omega

/-- A packet of neighbour 1 that was sent at 1000 µs. -/
def repeatedPacket : WirePacket ℕ :=
  { ReceiveTable.samplePacket 1 ReceiveTable.seq_one_le 10 ReceiveTable.sampleValue_fits with
    tx_time_us := 1000 }

/-- One payload that its sender stamped, advertised twice. -/
def repeatedPayload : List (Observation ℕ) :=
  [(repeatedPacket, some 1500), (repeatedPacket, some 1600)]

/-- **A repeated advertisement leaves a second sample**: one packet received, two delays. -/
theorem repeated_payload_sampled_twice :
    ¬((run receive (init 1024) repeatedPayload).link 1).stats.delays_us.length ≤
      ((run receive (init 1024) repeatedPayload).link 1).stats.received := by
  decide +kernel

end LinkMonitor

end VertexTestbed.Host
