import VertexTestbed.Firmware.Mailbox

/-!
# The signal strength in a snapshot

`on_data_parse_after_device_found` files a packet and puts the whole record into the queue;
`on_device_found` writes the strength of that reception to the record afterwards. So the snapshot of
a reception carries the strengths of everything filed *before* it (`CarriesBefore`): in every slot
but its own that is the strength of the last packet, and in its own the strength of the packet
before, or zero where there was none.

A snapshot therefore pairs each sequence number with a strength of that packet exactly when the one
reception that put it is a repetition, as far as its strength tells (`strength_paired_iff`).
-/

namespace VertexTestbed.Firmware

open Runs

/-! ### The strength of the last packet -/

/-- The strength of the last reception filed under a slot, zero where there is none. -/
def strengthIn (hs : List Heard) (i : Slot) : Int8 :=
  ((lastIn hs i).map Heard.rssi).getD 0

@[simp]
theorem strengthIn_nil (i : Slot) : strengthIn [] i = 0 := rfl

theorem strengthIn_concat (hs : List Heard) (h : Heard) (i : Slot) :
    strengthIn (hs ++ [h]) i = if h.slot = i then h.rssi else strengthIn hs i := by
  rw [strengthIn, lastIn_concat]
  split_ifs with hi
  · rfl
  · rfl

namespace Mailbox

variable {K : Type}

/-- **A snapshot carries the strengths of what was filed before the reception that put it.** The
record itself is up to date. -/
structure CarriesBefore (m : Mailbox K) : Prop where
  info : ∀ i, m.loops.rx.info.rssi i = strengthIn m.filed i
  queue : ∀ n, m.loops.rx.queue = some n → m.queued ≠ [] ∧
    ∀ i, n.rssi i = strengthIn m.queued.dropLast i
  fetched : m.loops.dynamics = .got true → m.fetched ≠ [] ∧
    ∀ i, m.loops.fetched.rssi i = strengthIn m.fetched.dropLast i

/-- Everything filed is in the history of receptions. -/
structure FiledLogged (m : Mailbox K) : Prop where
  filed : ∀ h ∈ m.filed, h ∈ m.loops.log
  queued : ∀ h ∈ m.queued, h ∈ m.loops.log
  fetched : ∀ h ∈ m.fetched, h ∈ m.loops.log

theorem carriesBefore_init [Field K] (radio : RadioState) :
    (init radio : Mailbox K).CarriesBefore :=
  ⟨fun _ ↦ rfl, fun _ h ↦ (by cases h), fun h ↦ (by cases h)⟩

theorem filedLogged_init [Field K] (radio : RadioState) : (init radio : Mailbox K).FiledLogged :=
  ⟨fun _ hx ↦ absurd hx List.not_mem_nil, fun _ hx ↦ absurd hx List.not_mem_nil,
    fun _ hx ↦ absurd hx List.not_mem_nil⟩

/-- What is filed is logged. -/
theorem receive_log (s : RunLoops K) (p : StatePacketType) (rssi : Int8) :
    (s.receive p rssi).log = s.log ++ s.filing p rssi := by
  rw [RunLoops.receive, RunLoops.filing]
  split_ifs
  · dsimp only
    cases agentNeighborIndex s.agent.params p.node with
    | none => exact (List.append_nil _).symm
    | some i => rfl
  · exact (List.append_nil _).symm

/-- The strength of the reception that is filed. -/
theorem filing_rssi {s : RunLoops K} {p : StatePacketType} {rssi : Int8} {h : Heard}
    (hh : s.filing p rssi = [h]) : h.rssi = rssi := by
  rw [RunLoops.filing] at hh
  split_ifs at hh
  cases hindex : agentNeighborIndex s.agent.params p.node with
  | none =>
    simp only [hindex] at hh
    cases hh
  | some i =>
    simp only [hindex] at hh
    cases hh
    rfl

section Step

variable {m : Mailbox K} [Field K] [LinearOrder K] [IsStrictOrderedRing K] [FloorRing K]
  {lib : Libm K}

/-- A reception: the snapshot is put with the strengths before it, the record takes its own. -/
theorem CarriesBefore.receive (h : m.CarriesBefore) (p : StatePacketType) (rssi : Int8) :
    (m.step lib (.receive p rssi)).CarriesBefore := by
  obtain ⟨hfetched, -, hfiled, hqueued⟩ := step_receive lib m p rssi
  have hloops : (m.step lib (.receive p rssi)).loops = m.loops.receive p rssi := step_loops lib m _
  obtain ⟨hphase, hhand, -⟩ := receive_rest m.loops p rssi
  have hrest : (m.step lib (.receive p rssi)).loops.dynamics = .got true →
      (m.step lib (.receive p rssi)).fetched ≠ [] ∧ ∀ i,
        (m.step lib (.receive p rssi)).loops.fetched.rssi i =
          strengthIn (m.step lib (.receive p rssi)).fetched.dropLast i := by
    rw [hloops, hphase, hhand, hfetched]
    exact h.fetched
  obtain ⟨hnone, hrx⟩ | ⟨x, hnew, -, -, hput, hrecord⟩ := receive_rx m.loops p rssi
  · rw [hnone, List.append_nil] at hfiled
    rw [if_pos hnone] at hqueued
    refine ⟨?_, ?_, hrest⟩
    · rw [hfiled, hloops, hrx]
      exact h.info
    · rw [hqueued, hloops, hrx]
      exact h.queue
  · have hrssi := filing_rssi hnew
    rw [hnew] at hfiled
    rw [hnew, if_neg (List.cons_ne_nil _ _)] at hqueued
    refine ⟨fun i ↦ ?_, ?_, hrest⟩
    · rw [hfiled, hloops, hrecord, strengthIn_concat, hrssi, ← h.info i]
      show Function.update m.loops.rx.info.rssi x.slot rssi i = _
      rw [Function.update_apply]
      simp only [eq_comm]
    · rw [hqueued, hloops, hput, List.dropLast_concat]
      rintro n hn
      cases hn
      exact ⟨by simp, h.info⟩

/-- A segment of the dynamics loop hands the snapshot over with its list. -/
theorem CarriesBefore.dynamics (h : m.CarriesBefore) : (m.step lib .dynamics).CarriesBefore := by
  cases hphase : m.loops.dynamics with
  | idle =>
    rw [step_get hphase, RunLoops.dynamicsGet]
    cases hq : m.loops.rx.queue with
    | none => exact ⟨h.info, fun n hn ↦ h.queue n hn, fun hgot ↦ (by cases hgot)⟩
    | some n =>
      rw [if_pos (by simp)]
      exact ⟨h.info, fun n hn ↦ (by cases hn), fun _ ↦ h.queue n hq⟩
  | got freshData =>
    have hidle : (m.loops.dynamicsStep lib freshData).dynamics = .idle :=
      (tick_rest m.loops freshData).1
    have hrx : (m.loops.dynamicsStep lib freshData).rx = m.loops.rx :=
      (tick_rest m.loops freshData).2
    rw [step_tick hphase]
    refine ⟨?_, ?_, fun hgot ↦ (by cases hidle.symm.trans hgot)⟩
    · show ∀ i, (m.loops.dynamicsStep lib freshData).rx.info.rssi i = _
      rw [hrx]
      exact h.info
    · show ∀ n, (m.loops.dynamicsStep lib freshData).rx.queue = some n → _
      rw [hrx]
      exact h.queue

/-- A section of the network loop moves no snapshot; it forgets the record with its list. -/
theorem CarriesBefore.network (h : m.CarriesBefore) (uptimeUs scanErr : ℤ) :
    (m.step lib (.network uptimeUs scanErr)).CarriesBefore := by
  obtain ⟨hinfo, hqueue, hphase, hhand, -⟩ := networkStep_rx m.loops uptimeUs scanErr
  have hfetched : (m.loops.networkStep uptimeUs scanErr).dynamics = .got true →
      m.fetched ≠ [] ∧ ∀ i, (m.loops.networkStep uptimeUs scanErr).fetched.rssi i =
        strengthIn m.fetched.dropLast i := by
    rw [hphase, hhand]
    exact h.fetched
  rw [step]
  dsimp only
  split_ifs with hforgets
  · rw [if_pos hforgets] at hinfo hqueue
    refine ⟨?_, ?_, hfetched⟩
    · show ∀ i, (m.loops.networkStep uptimeUs scanErr).rx.info.rssi i = _
      rw [hinfo]
      exact fun _ ↦ rfl
    · show ∀ n, (m.loops.networkStep uptimeUs scanErr).rx.queue = some n → _
      rw [hqueue]
      exact fun n hn ↦ (by cases hn)
  · rw [if_neg hforgets] at hinfo hqueue
    refine ⟨?_, ?_, hfetched⟩
    · show ∀ i, (m.loops.networkStep uptimeUs scanErr).rx.info.rssi i = _
      rw [hinfo]
      exact h.info
    · show ∀ n, (m.loops.networkStep uptimeUs scanErr).rx.queue = some n → _
      rw [hqueue]
      exact h.queue

theorem CarriesBefore.step (h : m.CarriesBefore) (ev : BoardEvent) :
    (m.step lib ev).CarriesBefore := by
  cases ev with
  | frame e type payload =>
    rw [Mailbox.step]
    dsimp only
    split_ifs
    · exact ⟨h.info, h.queue, h.fetched⟩
    · exact ⟨h.info, h.queue, h.fetched⟩
  | receive p rssi => exact h.receive p rssi
  | dynamics => exact h.dynamics
  | network uptimeUs scanErr => exact h.network uptimeUs scanErr

/-- The history only grows, and by what is filed. -/
theorem FiledLogged.step (h : m.FiledLogged) (ev : BoardEvent) : (m.step lib ev).FiledLogged := by
  cases ev with
  | frame e type payload =>
    rw [Mailbox.step]
    dsimp only
    split_ifs
    · exact ⟨h.filed, h.queued, h.fetched⟩
    · exact ⟨h.filed, h.queued, h.fetched⟩
  | receive p rssi =>
    obtain ⟨hfetched, -, hfiled, hqueued⟩ := step_receive lib m p rssi
    have hlog : (m.step lib (.receive p rssi)).loops.log =
        m.loops.log ++ m.loops.filing p rssi := by
      rw [step_loops]
      exact receive_log m.loops p rssi
    -- A packet is logged by the event that files it.
    have hnew : ∀ x ∈ m.filed ++ m.loops.filing p rssi,
        x ∈ m.loops.log ++ m.loops.filing p rssi := fun x hx ↦
      List.mem_append.2 ((List.mem_append.1 hx).imp_left (h.filed x))
    refine ⟨?_, ?_, ?_⟩
    · rw [hfiled, hlog]
      exact hnew
    · rw [hqueued, hlog]
      split_ifs
      · exact fun x hx ↦ List.mem_append_left _ (h.queued x hx)
      · exact hnew
    · rw [hfetched, hlog]
      exact fun x hx ↦ List.mem_append_left _ (h.fetched x hx)
  | dynamics =>
    cases hphase : m.loops.dynamics with
    | idle =>
      have hlog : m.loops.dynamicsGet.log = m.loops.log := by
        rw [RunLoops.dynamicsGet]
        split <;> rfl
      rw [step_get hphase]
      refine ⟨hlog ▸ h.filed, hlog ▸ h.queued, ?_⟩
      show ∀ x ∈ if m.loops.rx.queue.isSome then m.queued else m.fetched,
        x ∈ m.loops.dynamicsGet.log
      rw [hlog]
      split_ifs
      · exact h.queued
      · exact h.fetched
    | got freshData =>
      have hlog : (m.loops.dynamicsStep lib freshData).log = m.loops.log := by
        rw [RunLoops.dynamicsStep]
        split_ifs <;> rfl
      rw [step_tick hphase]
      exact ⟨hlog ▸ h.filed, hlog ▸ h.queued, hlog ▸ h.fetched⟩
  | network uptimeUs scanErr =>
    have hlog : (m.loops.networkStep uptimeUs scanErr).log = m.loops.log :=
      (RunLoops.networkStep_sameNeighbours m.loops uptimeUs scanErr).log
    have hfetched : ∀ x ∈ m.fetched, x ∈ (m.loops.networkStep uptimeUs scanErr).log :=
      hlog ▸ h.fetched
    rw [Mailbox.step]
    dsimp only
    split_ifs
    · exact ⟨fun _ hx ↦ absurd hx List.not_mem_nil, fun _ hx ↦ absurd hx List.not_mem_nil, hfetched⟩
    · exact ⟨hlog ▸ h.filed, hlog ▸ h.queued, hfetched⟩

/-! ### What is asked -/

/-- The next step is a tick that absorbs the snapshot in the dynamics loop's hands. -/
def Absorbs (m : Mailbox K) : Prop :=
  m.loops.dynamics = .got true ∧ m.loops.agent.params.running = true ∧
    m.loops.agent.params.enabled = true

instance (m : Mailbox K) : Decidable m.Absorbs :=
  inferInstanceAs (Decidable (_ ∧ _ ∧ _))

/-- A strength at which the packet numbered `seq` was received from a node. -/
def HeardAt (m : Mailbox K) (node : UInt8) (seq : UInt16) (strength : Int8) : Prop :=
  ∃ h ∈ m.loops.log, h.packet.node = node ∧ h.packet.seq = seq ∧ h.rssi = strength

instance (m : Mailbox K) (node : UInt8) (seq : UInt16) (strength : Int8) :
    Decidable (m.HeardAt node seq strength) :=
  inferInstanceAs (Decidable (∃ h ∈ m.loops.log, _))

/-- The node that the snapshot in the dynamics loop's hands shows in a slot: the sender of the last
packet filed there. -/
def shownNode (m : Mailbox K) (i : Slot) : Option UInt8 :=
  (lastIn m.fetched i).map fun h ↦ h.packet.node

/-- **Strengths are paired**: whatever number the agent's arrays show for a heard neighbour behind a
tick that absorbs a snapshot, the packet of that number from the neighbour was received at the
strength they show. -/
def StrengthsPaired (lib : Libm K) (m : Mailbox K) : Prop :=
  m.Absorbs → ∀ i ∈ m.loops.agent.params.slots,
    (m.step lib .dynamics).loops.agent.received.heard i = true →
      ∃ node ∈ m.shownNode i,
        m.HeardAt node ((m.step lib .dynamics).loops.agent.received.seq i)
          ((m.step lib .dynamics).loops.agent.received.rssi i)

/-- **The reception that put the snapshot repeats one before it**, as far as the strength tells: the
packet it brings was received at the strength of the reception before it in its slot, which counts
as zero where there was none. -/
def SteadyStrength (m : Mailbox K) : Prop :=
  m.Absorbs → ∀ earlier x, m.fetched = earlier ++ [x] → x.slot ∈ m.loops.agent.params.slots →
    m.HeardAt x.packet.node x.packet.seq (strengthIn earlier x.slot)

omit [Field K] [LinearOrder K] [IsStrictOrderedRing K] [FloorRing K] in
/-- While the neighbour list is kept, the node a slot shows is the one declared there. -/
theorem shownNode_declared {m : Mailbox K} (hlisted : m.Listed) (habsorbs : m.Absorbs) {i : Slot}
    {node : UInt8} (hnode : node ∈ m.shownNode i) :
    m.loops.agent.params.neighborsId i = node := by
  obtain ⟨h, hlast, rfl⟩ := Option.map_eq_some_iff.1 hnode
  have hmem : h ∈ m.fetched.filter fun y ↦ decide (y.slot = i) := List.mem_of_getLast? hlast
  obtain ⟨hfetched, hslot⟩ := List.mem_filter.1 hmem
  obtain rfl := of_decide_eq_true hslot
  exact agentNeighborIndex_eq_some (hlisted.fetched habsorbs.1 h hfetched)

/-- The strengths in the agent's arrays behind a tick that absorbs. -/
theorem tick_rssi {s : RunLoops K} (hrunning : s.agent.params.running = true)
    (henabled : s.agent.params.enabled = true) (i : Slot) :
    (s.dynamicsStep lib true).agent.received.rssi i = s.fetched.rssi i := by
  have hlive : (s.agent.params.running && s.agent.params.enabled) = true := by
    rw [hrunning, henabled]
    rfl
  rw [RunLoops.dynamicsStep, if_pos hlive]
  show (discreteStep lib _).agent.received.rssi i = _
  rw [RunLoops.discreteStep_received]
  show (s.stepped true).received.rssi i = _
  rw [RunLoops.stepped, if_pos rfl, absorbNeighbors,
    if_neg (by rw [henabled]; exact Bool.false_ne_true)]
  rfl

/-- What a tick that absorbs leaves of a slot, in terms of what was filed. -/
theorem absorbed_slot (lib : Libm K) (hfaithful : m.Faithful) (hcarries : m.CarriesBefore)
    (habsorbs : m.Absorbs)
    {i : Slot} (hi : i ∈ m.loops.agent.params.slots) :
    (m.step lib .dynamics).loops.agent.received.heard i = (lastIn m.fetched i).isSome ∧
      (m.step lib .dynamics).loops.agent.received.seq i =
        (packetValues (lastIn m.fetched i)).2.2.2 ∧
      (m.step lib .dynamics).loops.agent.received.rssi i = strengthIn m.fetched.dropLast i := by
  obtain ⟨hgot, hrunning, henabled⟩ := habsorbs
  have hshows := hfaithful.fetched hgot
  have hlive : (m.loops.agent.params.running && m.loops.agent.params.enabled && true) = true := by
    rw [hrunning, henabled]
    rfl
  rw [step_tick hgot]
  refine ⟨?_, ?_, ?_⟩
  · show (m.loops.dynamicsStep lib true).agent.received.heard i = _
    rw [tick_heard hrunning henabled hi, hshows.heard i]
  · show ((m.loops.dynamicsStep lib true).agent.received.values i).2.2.2 = _
    rw [tick_received, if_pos hlive, hshows.values i]
  · show (m.loops.dynamicsStep lib true).agent.received.rssi i = _
    rw [tick_rssi hrunning henabled, (hcarries.fetched hgot).2 i]

/-- One tick: only the slot of the last reception is in question. -/
theorem strengthsPaired_iff (hfaithful : m.Faithful) (hcarries : m.CarriesBefore)
    (hlogged : m.FiledLogged) : m.StrengthsPaired lib ↔ m.SteadyStrength := by
  constructor
  · intro hpaired habsorbs earlier x hfetched hslot
    obtain ⟨hheard, hseq, hrssi⟩ := absorbed_slot lib hfaithful hcarries habsorbs hslot
    rw [hfetched, lastIn_concat, if_pos rfl] at hheard hseq
    rw [hfetched, List.dropLast_concat] at hrssi
    -- In the slot filed last the packet is the new one, and the strength the one before it.
    obtain ⟨node, hnode, hat⟩ := hpaired habsorbs x.slot hslot hheard
    rw [shownNode, hfetched, lastIn_concat, if_pos rfl] at hnode
    obtain rfl : x.packet.node = node := Option.some.inj hnode
    rw [hseq, hrssi] at hat
    exact hat
  · intro hsteady habsorbs i hi hheardTick
    obtain ⟨hheard, hseq, hrssi⟩ := absorbed_slot lib hfaithful hcarries habsorbs hi
    obtain ⟨earlier, x, hfetched⟩ : ∃ earlier x, m.fetched = earlier ++ [x] :=
      ⟨_, _, (List.dropLast_append_getLast (hcarries.fetched habsorbs.1).1).symm⟩
    rw [hheard] at hheardTick
    rw [shownNode, hseq, hrssi, hfetched, List.dropLast_concat, lastIn_concat]
    rw [hfetched, lastIn_concat] at hheardTick
    by_cases hslot : x.slot = i
    · subst hslot
      rw [if_pos rfl]
      exact ⟨_, rfl, hsteady habsorbs earlier x hfetched hi⟩
    · -- In any other slot the last packet was filed before, so its strength is the one carried.
      rw [if_neg hslot] at hheardTick ⊢
      obtain ⟨h, hlast⟩ := Option.isSome_iff_exists.1 hheardTick
      have hmem : h ∈ earlier.filter fun y ↦ decide (y.slot = i) := List.mem_of_getLast? hlast
      obtain ⟨hearlier, hi⟩ := List.mem_filter.1 hmem
      refine ⟨h.packet.node, by rw [hlast]; rfl, h, hlogged.fetched h ?_, rfl, ?_, ?_⟩
      · rw [hfetched]
        exact List.mem_append_left _ hearlier
      · rw [hlast]
        rfl
      · rw [strengthIn, hlast]
        rfl

end Step

end Mailbox

/-- **Signal strengths and sequence numbers are paired exactly for repeated receptions**: in every
run since power-up, what a tick absorbs pairs each number with a strength of its packet if and only
if the reception that put the snapshot is one of a packet already received at the strength before.
The node that the packet is from is the one declared in its slot, in every run that keeps the list.
-/
theorem strength_paired_iff {K : Type} [Field K] [LinearOrder K] [IsStrictOrderedRing K]
    [FloorRing K] (lib : Libm K) (radio : RadioState) (events : List BoardEvent) :
    ((run (Mailbox.step lib) (.init radio) events).StrengthsPaired lib ↔
      (run (Mailbox.step lib) (.init radio) events).SteadyStrength) ∧
    (Guarded (Mailbox.step lib) Mailbox.ListKept (.init radio) events →
      (run (Mailbox.step lib) (.init radio) events).Absorbs → ∀ i,
        ∀ node ∈ (run (Mailbox.step lib) (.init radio) events).shownNode i,
          (run (Mailbox.step lib) (.init radio) events).loops.agent.params.neighborsId i
            = node) := by
  have hboth : (run (Mailbox.step lib) (.init radio) events).CarriesBefore ∧
      (run (Mailbox.step lib) (.init radio) events).FiledLogged :=
    run_invariant (P := fun m ↦ m.CarriesBefore ∧ m.FiledLogged) (Mailbox.step lib)
      (fun _ ev hm ↦ ⟨hm.1.step ev, hm.2.step ev⟩)
      ⟨Mailbox.carriesBefore_init radio, Mailbox.filedLogged_init radio⟩ events
  exact ⟨Mailbox.strengthsPaired_iff (Mailbox.faithful_run radio events) hboth.1 hboth.2,
    fun hkept habsorbs i node hnode ↦
      Mailbox.shownNode_declared (Mailbox.listed_run hkept) habsorbs hnode⟩

/-- A packet of node 1 is received twice at one strength before a tick gets its snapshot. -/
def steadyRun : List BoardEvent :=
  startedRun [1] ++
    [.receive (samplePacket 1 7) (-40), .receive (samplePacket 1 7) (-40), .dynamics]

/-- The second snapshot is absorbed, and paired, and it is the neighbour's. -/
theorem strength_paired_iff_steady :
    let m := run (Mailbox.step (.atZero : Libm ℚ)) (.init quietRadio) steadyRun
    m.Absorbs ∧ m.StrengthsPaired .atZero ∧ m.shownNode 0 = some 1 ∧
      m.loops.agent.params.neighborsId 0 = 1 := by
  intro m
  have hlast : ∀ x ∈ m.fetched.getLast?,
      m.HeardAt x.packet.node x.packet.seq (strengthIn m.fetched.dropLast x.slot) := by
    decide +kernel
  have habsorbs : m.Absorbs := by decide +kernel
  have hshown : m.shownNode 0 = some 1 := by decide +kernel
  have hkept : Guarded (Mailbox.step (.atZero : Libm ℚ)) Mailbox.ListKept (.init quietRadio)
      steadyRun := by decide +kernel
  obtain ⟨hiff, hdeclared⟩ := strength_paired_iff (.atZero : Libm ℚ) quietRadio steadyRun
  refine ⟨habsorbs, hiff.2 fun _ earlier x hfetched _ ↦ ?_, hshown,
    hdeclared hkept habsorbs 0 1 hshown⟩
  have hfetched' : m.fetched = earlier ++ [x] := hfetched
  rw [hfetched', List.getLast?_concat, List.dropLast_concat] at hlast
  exact hlast x rfl

/-- Two packets of node 1 at different strengths before a tick gets its snapshot. -/
def fadingRun : List BoardEvent :=
  startedRun [1] ++
    [.receive (samplePacket 1 7) (-40), .receive { samplePacket 1 8 with seq := 4 } (-70),
      .dynamics]

/-- **The second packet is absorbed with the strength of the first.** -/
theorem fadingRun_not_paired :
    ¬(run (Mailbox.step (.atZero : Libm ℚ)) (.init quietRadio) fadingRun).StrengthsPaired
      .atZero := by
  intro h
  obtain ⟨node, hnode, hrssi⟩ := h (by decide +kernel) 0 (by decide +kernel) (by decide +kernel)
  obtain rfl : 1 = node := Option.some.inj hnode
  revert hrssi
  decide +kernel

end VertexTestbed.Firmware
