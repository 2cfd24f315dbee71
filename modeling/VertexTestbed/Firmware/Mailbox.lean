import VertexTestbed.Firmware.RunIsolation

/-!
# The depth-1 mailbox

The observer hands its whole record over at every accepted reception, through a queue that holds one
snapshot and is purged when it is full. Nothing is lost by that, since the record is cumulative:
each snapshot repeats the last packet of every neighbour.

`Mailbox` is the board with four lists beside it: what the observer has filed since it last forgot,
and what had been filed when the snapshot was put that is queued, in the dynamics loop's hands, or
in the agent's arrays. `Faithful` says that each of these snapshots shows in every slot the last
packet of its list. It holds of every board since power-up. While the neighbour list stays, the last
packet filed under a slot is the last one of the slot's node.
-/

namespace VertexTestbed.Firmware

open Runs

/-! ### The last packet -/

/-- The last entry of a list that passes a test. -/
def lastWith {α : Type*} (p : α → Bool) (xs : List α) : Option α :=
  (xs.filter p).getLast?

@[simp]
theorem lastWith_nil {α : Type*} (p : α → Bool) : lastWith p [] = none := rfl

/-- The newest that has the property, with one more behind. -/
theorem lastWith_concat {α : Type*} (p : α → Bool) (xs : List α) (x : α) :
    lastWith p (xs ++ [x]) = if p x then some x else lastWith p xs := by
  rw [lastWith, List.filter_append, List.filter_singleton]
  rcases hx : p x with _ | _
  · rw [cond_false, List.append_nil, if_neg Bool.false_ne_true, lastWith]
  · rw [cond_true, List.getLast?_concat, if_pos rfl]

/-- It depends on the property only. -/
theorem lastWith_congr {α : Type*} {p q : α → Bool} {xs : List α} (h : ∀ x ∈ xs, p x = q x) :
    lastWith p xs = lastWith q xs := by
  rw [lastWith, lastWith, List.filter_congr h]

/-- The last reception that was filed under a slot. -/
def lastIn (hs : List Heard) (i : Slot) : Option Heard :=
  lastWith (fun h ↦ decide (h.slot = i)) hs

/-- The last reception from a node. -/
def lastFrom (hs : List Heard) (node : UInt8) : Option Heard :=
  lastWith (fun h ↦ decide (h.packet.node = node)) hs

/-- The value, the second coordinate, the enabled flag and the sequence number in a slot. -/
def NeighborInfo.values (n : NeighborInfo) (i : Slot) : ℤ × ℤ × Bool × UInt16 :=
  (n.vstates i, n.vstatesQ i, n.enabled i, n.seq i)

/-- The same of a packet, zeros where there is none. -/
def packetValues : Option Heard → ℤ × ℤ × Bool × UInt16
  | none => (0, 0, false, 0)
  | some h => (h.packet.vstate, h.packet.vstateQ, h.packet.enabled, h.packet.seq)

/-- A snapshot shows in every slot the last packet that was filed there, and that there was one. -/
structure Shows (hs : List Heard) (n : NeighborInfo) : Prop where
  values : ∀ i, n.values i = packetValues (lastIn hs i)
  heard : ∀ i, n.heard i = (lastIn hs i).isSome

/-- A cleared snapshot shows that nothing was heard. -/
theorem shows_zero : Shows [] .zero :=
  ⟨fun _ ↦ rfl, fun _ ↦ rfl⟩

/-- The last packet of a slot, with one more behind. -/
theorem lastIn_concat (hs : List Heard) (h : Heard) (i : Slot) :
    lastIn (hs ++ [h]) i = if h.slot = i then some h else lastIn hs i := by
  rw [lastIn, lastWith_concat]
  simp only [decide_eq_true_eq]
  rfl

/-- One more packet is filed. -/
theorem Shows.store {hs : List Heard} {n : NeighborInfo} (hn : Shows hs n) (h : Heard) :
    Shows (hs ++ [h]) (n.store h.slot h.packet) := by
  refine ⟨fun i ↦ ?_, fun i ↦ ?_⟩
  · rw [lastIn_concat]
    split_ifs with hi
    · subst hi
      simp only [NeighborInfo.values, NeighborInfo.store, Function.update_self, packetValues]
    · rw [← hn.values i]
      simp only [NeighborInfo.values, NeighborInfo.store, Function.update_of_ne (Ne.symm hi)]
  · rw [lastIn_concat]
    split_ifs with hi
    · subst hi
      simp only [NeighborInfo.store, Function.update_self, Option.isSome_some]
    · rw [← hn.heard i]
      simp only [NeighborInfo.store, Function.update_of_ne (Ne.symm hi)]

/-- The RSSI is none of it. -/
theorem Shows.storeRssi {hs : List Heard} {n : NeighborInfo} (hn : Shows hs n) (i : Slot)
    (rssi : Int8) : Shows hs (n.storeRssi i rssi) :=
  ⟨hn.values, hn.heard⟩

/-! ### The board and its lists -/

namespace RunLoops

variable {K : Type}

/-- What a reception adds to the record. -/
def filing (s : RunLoops K) (p : StatePacketType) (rssi : Int8) : List Heard :=
  if s.plane.radio.scanning then
    match agentNeighborIndex s.agent.params p.node with
    | some i => [⟨s.run, i, p, rssi⟩]
    | none => []
  else []

/-- The observer stops with this event, and forgets. -/
def forgets (s : RunLoops K) : BoardEvent → Bool
  | .network _ scanErr =>
    decide (s.network = .teardown) && s.plane.radio.scanning && decide (scanErr = 0)
  | _ => false

end RunLoops

/-- The board, and what had been filed when each of its snapshots was put. -/
structure Mailbox (K : Type) where
  loops : RunLoops K
  filed : List Heard
  queued : List Heard
  fetched : List Heard
  absorbed : List Heard

namespace Mailbox

variable {K : Type}

/-- Power-up. -/
def init [Field K] (radio : RadioState) : Mailbox K :=
  ⟨.init radio, [], [], [], []⟩

section Step

variable [Field K] [LinearOrder K] [IsStrictOrderedRing K] [FloorRing K] (lib : Libm K)

/-- The next step of the board, with its lists. -/
def step (m : Mailbox K) (ev : BoardEvent) : Mailbox K :=
  let m' := { m with loops := m.loops.step lib ev }
  match ev with
  | .receive p rssi =>
    match m.loops.filing p rssi with
    | [] => m'
    -- Every packet that is filed is put into the queue with the whole record.
    | new => { m' with filed := m.filed ++ new, queued := m.filed ++ new }
  | .dynamics =>
    match m.loops.dynamics with
    | .idle => if m.loops.rx.queue.isSome then { m' with fetched := m.queued } else m'
    | .got freshData =>
      if m.loops.agent.params.running && m.loops.agent.params.enabled && freshData then
        { m' with absorbed := m.fetched }
      else m'
  | .network _ _ => if m.loops.forgets ev then { m' with filed := [], queued := [] } else m'
  | .frame _ type payload => if isStart type payload then { m' with absorbed := [] } else m'

/-- The record does not act on the loops. -/
@[simp]
theorem step_loops (m : Mailbox K) (ev : BoardEvent) :
    (m.step lib ev).loops = m.loops.step lib ev := by
  cases ev with
  | frame e type payload =>
    rw [step]
    dsimp only
    split_ifs <;> rfl
  | receive p rssi =>
    rw [step]
    dsimp only
    split <;> rfl
  | dynamics =>
    rw [step]
    dsimp only
    split <;> split_ifs <;> rfl
  | network uptimeUs scanErr =>
    rw [step]
    dsimp only
    split_ifs <;> rfl

end Step

/-! ### Every snapshot shows its list -/

/-- **Each snapshot shows the last packets of its list**, and a queued one of everything filed. -/
structure Faithful (m : Mailbox K) : Prop where
  info : Shows m.filed m.loops.rx.info
  queue : ∀ n, m.loops.rx.queue = some n → m.queued = m.filed ∧ Shows m.filed n
  fetched : m.loops.dynamics = .got true → Shows m.fetched m.loops.fetched
  agent : ∀ i, m.loops.agent.received.values i = packetValues (lastIn m.absorbed i)

/-- At power-up. -/
theorem faithful_init [Field K] (radio : RadioState) : (init radio : Mailbox K).Faithful where
  info := shows_zero
  queue := fun _ h ↦ by cases h
  fetched := fun h ↦ by cases h
  agent := fun _ ↦ rfl

section Receive

variable {m : Mailbox K}

/-- A reception files at most one packet, and the observer's record takes it. -/
theorem receive_rx (s : RunLoops K) (p : StatePacketType) (rssi : Int8) :
    (s.filing p rssi = [] ∧ (s.receive p rssi).rx = s.rx) ∨
      ∃ h : Heard, s.filing p rssi = [h] ∧ h.packet = p ∧
        agentNeighborIndex s.agent.params p.node = some h.slot ∧
        (s.receive p rssi).rx.queue = some (s.rx.info.store h.slot h.packet) ∧
        (s.receive p rssi).rx.info = (s.rx.info.store h.slot h.packet).storeRssi h.slot rssi := by
  rw [RunLoops.filing, RunLoops.receive]
  split_ifs with hscan
  · rcases hindex : agentNeighborIndex s.agent.params p.node with _ | i
    · refine Or.inl ⟨rfl, ?_⟩
      show onDeviceFound s.rx s.agent.params p rssi = s.rx
      rw [onDeviceFound, hindex]
    · refine Or.inr ⟨⟨s.run, i, p, rssi⟩, rfl, rfl, rfl, ?_, ?_⟩
      · show (onDeviceFound s.rx s.agent.params p rssi).queue = _
        rw [onDeviceFound, hindex]
        rfl
      · show (onDeviceFound s.rx s.agent.params p rssi).info = _
        rw [onDeviceFound, hindex]
        rfl
  · exact Or.inl ⟨rfl, rfl⟩

/-- A reception writes the record and the queue, nothing else of what a snapshot goes through. -/
theorem receive_rest (s : RunLoops K) (p : StatePacketType) (rssi : Int8) :
    (s.receive p rssi).dynamics = s.dynamics ∧ (s.receive p rssi).fetched = s.fetched ∧
      (s.receive p rssi).agent = s.agent := by
  rw [RunLoops.receive]
  split_ifs
  · exact ⟨rfl, rfl, rfl⟩
  · exact ⟨rfl, rfl, rfl⟩

variable [Field K] [LinearOrder K] [IsStrictOrderedRing K] [FloorRing K] (lib : Libm K)

/-- A reception is filed, and queued with everything filed before it. -/
theorem step_receive (m : Mailbox K) (p : StatePacketType) (rssi : Int8) :
    (m.step lib (.receive p rssi)).fetched = m.fetched ∧
      (m.step lib (.receive p rssi)).absorbed = m.absorbed ∧
      (m.step lib (.receive p rssi)).filed = m.filed ++ m.loops.filing p rssi ∧
      (m.step lib (.receive p rssi)).queued =
        if m.loops.filing p rssi = [] then m.queued else m.filed ++ m.loops.filing p rssi := by
  rw [step]
  dsimp only
  split
  case h_1 hnone => exact ⟨rfl, rfl, by rw [hnone, List.append_nil], by rw [if_pos hnone]⟩
  case h_2 hsome => exact ⟨rfl, rfl, rfl, by rw [if_neg hsome]⟩

variable {lib}

/-- A reception keeps every snapshot true. -/
theorem Faithful.receive (h : m.Faithful) (p : StatePacketType) (rssi : Int8) :
    (m.step lib (.receive p rssi)).Faithful := by
  obtain ⟨hfetched, habsorbed, hfiled, hqueued⟩ := step_receive lib m p rssi
  have hloops : (m.step lib (.receive p rssi)).loops = m.loops.receive p rssi := step_loops lib m _
  obtain ⟨hphase, hhand, hagent⟩ := receive_rest m.loops p rssi
  have hrest : ((m.step lib (.receive p rssi)).loops.dynamics = .got true →
      Shows (m.step lib (.receive p rssi)).fetched (m.step lib (.receive p rssi)).loops.fetched) ∧
      ∀ i, (m.step lib (.receive p rssi)).loops.agent.received.values i =
        packetValues (lastIn (m.step lib (.receive p rssi)).absorbed i) := by
    rw [hloops, hphase, hhand, hagent, hfetched, habsorbed]
    exact ⟨h.fetched, h.agent⟩
  obtain ⟨hnone, hrx⟩ | ⟨x, hnew, -, -, hput, hrecord⟩ := receive_rx m.loops p rssi
  · rw [hnone, List.append_nil] at hfiled
    rw [if_pos hnone] at hqueued
    refine ⟨?_, ?_, hrest.1, hrest.2⟩
    · rw [hfiled, hloops, hrx]
      exact h.info
    · rw [hfiled, hqueued, hloops, hrx]
      exact h.queue
  · rw [hnew] at hfiled
    rw [hnew, if_neg (List.cons_ne_nil _ _)] at hqueued
    have hstored := h.info.store x
    refine ⟨?_, ?_, hrest.1, hrest.2⟩
    · rw [hfiled, hloops, hrecord]
      exact hstored.storeRssi _ _
    · rw [hfiled, hqueued, hloops, hput]
      intro n hn
      cases hn
      exact ⟨rfl, hstored⟩

end Receive

section Threads

variable {m : Mailbox K} [Field K] [LinearOrder K] [IsStrictOrderedRing K] [FloorRing K]
  {lib : Libm K}

/-- The dynamics loop takes the queued snapshot, or none. -/
theorem step_get (hidle : m.loops.dynamics = .idle) :
    m.step lib .dynamics =
      { m with
        loops := m.loops.dynamicsGet
        fetched := if m.loops.rx.queue.isSome then m.queued else m.fetched } := by
  have hloops : m.loops.step lib .dynamics = m.loops.dynamicsGet := by
    rw [RunLoops.step, hidle]
  rw [step]
  dsimp only
  rw [hidle, hloops]
  dsimp only
  split_ifs <;> rfl

/-- A tick that steps: what it absorbs is what the dynamics loop has in hand. -/
theorem step_tick {freshData : Bool} (hgot : m.loops.dynamics = .got freshData) :
    m.step lib .dynamics =
      { m with
        loops := m.loops.dynamicsStep lib freshData
        absorbed :=
          if m.loops.agent.params.running && m.loops.agent.params.enabled && freshData then
            m.fetched
          else m.absorbed } := by
  have hloops : m.loops.step lib .dynamics = m.loops.dynamicsStep lib freshData := by
    rw [RunLoops.step, hgot]
  rw [step]
  dsimp only
  rw [hgot, hloops]
  dsimp only
  split_ifs <;> rfl

/-- The queue get hands the snapshot over with its list. -/
theorem Faithful.get (h : m.Faithful) (hidle : m.loops.dynamics = .idle) :
    (m.step lib .dynamics).Faithful := by
  rw [step_get hidle, RunLoops.dynamicsGet]
  rcases hq : m.loops.rx.queue with _ | n
  · rw [if_neg (by simp)]
    exact ⟨h.info, fun n hn ↦ h.queue n hn, fun hgot ↦ (by cases hgot), h.agent⟩
  · obtain ⟨hqueued, hshows⟩ := h.queue n hq
    rw [if_pos (by simp), hqueued]
    exact ⟨h.info, fun n hn ↦ (by cases hn), fun _ ↦ hshows, h.agent⟩

/-- What a tick leaves in the agent's arrays. -/
theorem tick_received (s : RunLoops K) (freshData : Bool) :
    (s.dynamicsStep lib freshData).agent.received.values =
      if s.agent.params.running && s.agent.params.enabled && freshData then s.fetched.values
      else s.agent.received.values := by
  rw [RunLoops.dynamicsStep]
  by_cases hlive : (s.agent.params.running && s.agent.params.enabled) = true
  · rw [if_pos hlive, hlive, Bool.true_and]
    show (discreteStep lib _).agent.received.values = _
    rw [RunLoops.discreteStep_received]
    show (s.stepped freshData).received.values = _
    rw [RunLoops.stepped]
    cases freshData with
    | false => rfl
    | true =>
      have henabled : ¬(!s.agent.params.enabled) = true := by
        rw [Bool.and_eq_true] at hlive
        rw [hlive.2]
        exact Bool.false_ne_true
      rw [if_pos rfl, if_pos rfl, absorbNeighbors, if_neg henabled]
      rfl
  · have hstopped : (s.agent.params.running && s.agent.params.enabled && freshData) = false := by
      rw [Bool.eq_false_iff.2 hlive, Bool.false_and]
    rw [if_neg hlive, hstopped, if_neg Bool.false_ne_true]
    rfl

/-- Its step leaves the mailbox. -/
theorem tick_rest (s : RunLoops K) (freshData : Bool) :
    (s.dynamicsStep lib freshData).dynamics = .idle ∧
      (s.dynamicsStep lib freshData).rx = s.rx := by
  rw [RunLoops.dynamicsStep]
  split_ifs
  · exact ⟨rfl, rfl⟩
  · exact ⟨rfl, rfl⟩

/-- A tick moves the list of the snapshot it absorbs along. -/
theorem Faithful.tick (h : m.Faithful) {freshData : Bool}
    (hgot : m.loops.dynamics = .got freshData) : (m.step lib .dynamics).Faithful := by
  rw [step_tick hgot]
  have hrest : (m.loops.dynamicsStep lib freshData).dynamics = .idle ∧
      (m.loops.dynamicsStep lib freshData).rx = m.loops.rx := tick_rest m.loops freshData
  obtain ⟨hidle, hrx⟩ := hrest
  refine ⟨?_, ?_, fun hgot' ↦ ?_, fun i ↦ ?_⟩
  · show Shows m.filed (m.loops.dynamicsStep lib freshData).rx.info
    rw [hrx]
    exact h.info
  · show ∀ n, (m.loops.dynamicsStep lib freshData).rx.queue = some n → _
    rw [hrx]
    exact h.queue
  · cases hidle.symm.trans hgot'
  · show (m.loops.dynamicsStep lib freshData).agent.received.values i = _
    rw [tick_received]
    dsimp only
    split_ifs with habsorbs
    · rw [Bool.and_eq_true] at habsorbs
      have hfetched := h.fetched (by rw [hgot, habsorbs.2])
      exact hfetched.values i
    · exact h.agent i

omit [LinearOrder K] [IsStrictOrderedRing K] [FloorRing K] in
/-- A section of the network loop keeps the record, or forgets it with the queue. -/
theorem networkStep_rx [LinearOrder K] [FloorRing K] (s : RunLoops K) (uptimeUs scanErr : ℤ) :
    (s.networkStep uptimeUs scanErr).rx.info =
        (if s.forgets (.network uptimeUs scanErr) then .zero else s.rx.info) ∧
      (s.networkStep uptimeUs scanErr).rx.queue =
        (if s.forgets (.network uptimeUs scanErr) then none else s.rx.queue) ∧
      (s.networkStep uptimeUs scanErr).dynamics = s.dynamics ∧
      (s.networkStep uptimeUs scanErr).fetched = s.fetched ∧
      (s.networkStep uptimeUs scanErr).agent.received = s.agent.received := by
  -- `observer_stop` is called in the teardown only, and only its success empties the record.
  have hquiet : s.network ≠ .teardown → s.forgets (.network uptimeUs scanErr) = false := by
    intro hphase
    rw [RunLoops.forgets, decide_eq_false hphase, Bool.false_and, Bool.false_and]
  rw [RunLoops.networkStep]
  rcases hphase : s.network with _ | _ | _ | _ | _ | _
  · rw [hquiet (by rw [hphase]; decide)]
    exact ⟨rfl, rfl, rfl, rfl, rfl⟩
  · rw [RunLoops.forgets, hphase]
    by_cases hstops : s.plane.radio.scanning = true ∧ scanErr = 0
    · rw [hstops.1, hstops.2]
      exact ⟨rfl, rfl, rfl, rfl, rfl⟩
    · have hkeeps : ¬(decide (NetworkPhase.teardown = .teardown) && s.plane.radio.scanning &&
          decide (scanErr = 0)) = true := by
        simpa using hstops
      dsimp only
      rw [if_neg hstops, if_neg hkeeps, if_neg hkeeps]
      exact ⟨rfl, rfl, rfl, rfl, rfl⟩
  · rw [hquiet (by rw [hphase]; decide)]
    exact ⟨rfl, rfl, rfl, rfl, rfl⟩
  · rw [hquiet (by rw [hphase]; decide)]
    exact ⟨rfl, rfl, rfl, rfl, rfl⟩
  · rw [hquiet (by rw [hphase]; decide)]
    rcases reportState s.copy uptimeUs s.rx.fresh with _ | payload
    · exact ⟨rfl, rfl, rfl, rfl, rfl⟩
    · exact ⟨rfl, rfl, rfl, rfl, rfl⟩
  · rw [hquiet (by rw [hphase]; decide)]
    dsimp only
    by_cases hdue : s.publishEvery ≤ (s.tick + 1) % 2 ^ 32
    · rw [if_pos hdue]
      by_cases hlive : (s.agent.params.running && s.agent.params.enabled) = true
      · rw [if_pos hlive]
        exact ⟨rfl, rfl, rfl, rfl, rfl⟩
      · rw [if_neg hlive]
        exact ⟨rfl, rfl, rfl, rfl, rfl⟩
    · rw [if_neg hdue]
      exact ⟨rfl, rfl, rfl, rfl, rfl⟩

/-- The network loop keeps every snapshot true. -/
theorem Faithful.network (h : m.Faithful) (uptimeUs scanErr : ℤ) :
    (m.step lib (.network uptimeUs scanErr)).Faithful := by
  obtain ⟨hinfo, hqueue, hphase, hhand, hagent⟩ := networkStep_rx m.loops uptimeUs scanErr
  rw [step]
  dsimp only
  -- Where the record is emptied the snapshot in hand and the agent are left as they are.
  split_ifs with hforgets
  · rw [if_pos hforgets] at hinfo hqueue
    refine ⟨?_, ?_, ?_, ?_⟩
    · show Shows [] (m.loops.networkStep uptimeUs scanErr).rx.info
      rw [hinfo]
      exact shows_zero
    · show ∀ n, (m.loops.networkStep uptimeUs scanErr).rx.queue = some n → _
      rw [hqueue]
      exact fun n hn ↦ (by cases hn)
    · show (m.loops.networkStep uptimeUs scanErr).dynamics = .got true →
        Shows m.fetched (m.loops.networkStep uptimeUs scanErr).fetched
      rw [hphase, hhand]
      exact h.fetched
    · show ∀ i, (m.loops.networkStep uptimeUs scanErr).agent.received.values i = _
      rw [hagent]
      exact h.agent
  · rw [if_neg hforgets] at hinfo hqueue
    refine ⟨?_, ?_, ?_, ?_⟩
    · show Shows m.filed (m.loops.networkStep uptimeUs scanErr).rx.info
      rw [hinfo]
      exact h.info
    · show ∀ n, (m.loops.networkStep uptimeUs scanErr).rx.queue = some n → _
      rw [hqueue]
      exact h.queue
    · show (m.loops.networkStep uptimeUs scanErr).dynamics = .got true →
        Shows m.fetched (m.loops.networkStep uptimeUs scanErr).fetched
      rw [hphase, hhand]
      exact h.fetched
    · show ∀ i, (m.loops.networkStep uptimeUs scanErr).agent.received.values i = _
      rw [hagent]
      exact h.agent

/-- A frame forgets what the agent absorbed, or nothing. -/
theorem Faithful.frame (h : m.Faithful) (e : ControlEnv) (type : UInt8) (payload : Bytes) :
    (m.step lib (.frame e type payload)).Faithful := by
  have hagent : (m.loops.frame e type payload).agent.received =
      if isStart type payload then .zero else m.loops.agent.received :=
    (controlOnFrame_received e m.loops.plane type payload).1
  rw [step]
  dsimp only
  split_ifs with hstart
  · rw [if_pos hstart] at hagent
    refine ⟨h.info, h.queue, h.fetched, fun i ↦ ?_⟩
    show (m.loops.frame e type payload).agent.received.values i = _
    rw [hagent]
    rfl
  · rw [if_neg hstart] at hagent
    refine ⟨h.info, h.queue, h.fetched, fun i ↦ ?_⟩
    show (m.loops.frame e type payload).agent.received.values i = _
    rw [hagent]
    exact h.agent i

/-- So does every event. -/
theorem Faithful.step (h : m.Faithful) (ev : BoardEvent) : (m.step lib ev).Faithful := by
  cases ev with
  | frame e type payload => exact h.frame e type payload
  | receive p rssi => exact h.receive p rssi
  | dynamics =>
    rcases hphase : m.loops.dynamics with _ | freshData
    · exact h.get hphase
    · exact h.tick hphase
  | network uptimeUs scanErr => exact h.network uptimeUs scanErr

end Threads

end Mailbox

/-! ### Slots and nodes -/

/-- The slot of a node is a matter of the list only. -/
theorem agentNeighborIndex_congr {p p' : AgentParams} (hids : p'.neighborsId = p.neighborsId)
    (hcount : p'.nNeighbors = p.nNeighbors) (node : UInt8) :
    agentNeighborIndex p' node = agentNeighborIndex p node := by
  rw [agentNeighborIndex, agentNeighborIndex, AgentParams.slots, AgentParams.slots, hids, hcount]

/-- Where every packet was filed under the slot its node has, the last one in a neighbour's slot is
the last one of the neighbour. -/
theorem lastIn_eq_lastFrom {p : AgentParams} {hs : List Heard}
    (h : ∀ x ∈ hs, agentNeighborIndex p x.packet.node = some x.slot) {node : UInt8} {i : Slot}
    (hi : agentNeighborIndex p node = some i) : lastIn hs i = lastFrom hs node := by
  refine lastWith_congr fun x hx ↦ decide_eq_decide.2 ?_
  have hslot := h x hx
  constructor
  · rintro rfl
    exact (agentNeighborIndex_eq_some hslot).symm.trans (agentNeighborIndex_eq_some hi)
  · rintro rfl
    exact Option.some.inj (hslot.symm.trans hi)

namespace Mailbox

variable {K : Type} {m : Mailbox K}

/-- Every packet that can still be absorbed was filed under the list in force. -/
structure Listed (m : Mailbox K) : Prop where
  filed : ∀ h ∈ m.filed, agentNeighborIndex m.loops.agent.params h.packet.node = some h.slot
  fetched : m.loops.dynamics = .got true → ∀ h ∈ m.fetched,
    agentNeighborIndex m.loops.agent.params h.packet.node = some h.slot

variable [Field K] [LinearOrder K] [IsStrictOrderedRing K] [FloorRing K] {lib : Libm K}

/-- **The neighbour list stays while something is filed**: a frame that changes it comes when the
observer has forgotten and the dynamics loop has nothing in hand. -/
def ListKept (m : Mailbox K) : BoardEvent → Prop
  | .frame e type payload =>
    m.filed ≠ [] ∨ m.loops.dynamics = .got true →
      (m.loops.frame e type payload).agent.params.neighborsId = m.loops.agent.params.neighborsId ∧
      (m.loops.frame e type payload).agent.params.nNeighbors = m.loops.agent.params.nNeighbors
  | _ => True

instance (m : Mailbox K) : (ev : BoardEvent) → Decidable (m.ListKept ev)
  | .frame _ _ _ => inferInstanceAs (Decidable (_ ∨ _ → _ ∧ _))
  | .receive _ _ | .dynamics | .network _ _ => .isTrue trivial

/-- The threads leave the list alone. -/
theorem index_of_step (s : RunLoops K) {ev : BoardEvent} (hev : ∀ e t d, ev ≠ .frame e t d)
    (node : UInt8) :
    agentNeighborIndex (s.step lib ev).agent.params node =
      agentNeighborIndex s.agent.params node := by
  cases ev with
  | frame e t d => exact absurd rfl (hev e t d)
  | receive p rssi =>
    show agentNeighborIndex (s.receive p rssi).agent.params node = _
    rw [(receive_rest s p rssi).2.2]
  | dynamics =>
    rw [RunLoops.step]
    rcases hphase : s.dynamics with _ | freshData
    · show agentNeighborIndex s.dynamicsGet.agent.params node = _
      rw [RunLoops.dynamicsGet]
      split <;> rfl
    · show agentNeighborIndex (s.dynamicsStep lib freshData).agent.params node = _
      rw [RunLoops.dynamicsStep]
      split_ifs
      · show agentNeighborIndex (discreteStep lib _).agent.params node = _
        rw [discreteStep_params]
        exact agentNeighborIndex_congr (s.stepped_neighborsId freshData)
          (s.stepped_nNeighbors freshData) node
      · rfl
  | network uptimeUs scanErr =>
    have hsame := RunLoops.networkStep_sameNeighbours s uptimeUs scanErr
    exact agentNeighborIndex_congr hsame.ids hsame.count node

/-- With an unchanged list the slots stay those of the run. -/
theorem Listed.step (h : m.Listed) (hfaithful : m.Faithful) {ev : BoardEvent}
    (hkept : m.ListKept ev) : (m.step lib ev).Listed := by
  cases ev with
  | frame e type payload =>
    -- Only a frame can change the list, and `ListKept` says that it does not while packets are
    -- filed.
    have hlists : (m.step lib (.frame e type payload)).filed = m.filed ∧
        (m.step lib (.frame e type payload)).fetched = m.fetched := by
      rw [Mailbox.step]
      dsimp only
      split_ifs <;> exact ⟨rfl, rfl⟩
    obtain ⟨hfiled, hfetched⟩ := hlists
    refine ⟨fun x hx ↦ ?_, fun hgot x hx ↦ ?_⟩
    · rw [hfiled] at hx
      obtain ⟨hids, hcount⟩ := hkept (Or.inl (List.ne_nil_of_mem hx))
      rw [step_loops, ← h.filed x hx]
      exact agentNeighborIndex_congr hids hcount _
    · rw [hfetched] at hx
      rw [step_loops] at hgot ⊢
      obtain ⟨hids, hcount⟩ := hkept (Or.inr hgot)
      rw [← h.fetched hgot x hx]
      exact agentNeighborIndex_congr hids hcount _
  | receive p rssi =>
    -- A reception leaves the list alone and files its packet under the slot that the list gives.
    have hindex : ∀ node,
        agentNeighborIndex (m.loops.step lib (.receive p rssi)).agent.params node =
        agentNeighborIndex m.loops.agent.params node :=
      index_of_step m.loops fun _ _ _ hev ↦ by cases hev
    obtain ⟨hfetched, -, hfiled, -⟩ := step_receive lib m p rssi
    refine ⟨fun x hx ↦ ?_, fun hgot x hx ↦ ?_⟩
    · rw [step_loops, hindex]
      rw [hfiled] at hx
      obtain hold | hnew := List.mem_append.1 hx
      · exact h.filed x hold
      · obtain ⟨hnone, -⟩ | ⟨y, hy, hpacket, hslot, -⟩ := receive_rx m.loops p rssi
        · rw [hnone] at hnew
          cases hnew
        · rw [hy, List.mem_singleton] at hnew
          rw [hnew, hpacket, hslot]
    · rw [step_loops] at hgot ⊢
      rw [hfetched] at hx
      rw [hindex]
      exact h.fetched ((receive_rest m.loops p rssi).1.symm.trans hgot) x hx
  | dynamics =>
    have hindex : ∀ node, agentNeighborIndex (m.loops.step lib .dynamics).agent.params node =
        agentNeighborIndex m.loops.agent.params node :=
      index_of_step m.loops fun _ _ _ hev ↦ by cases hev
    refine ⟨fun x hx ↦ ?_, fun hgot x hx ↦ ?_⟩
    · rw [step_loops, hindex]
      refine h.filed x ?_
      rcases hphase : m.loops.dynamics with _ | freshData
      · rwa [step_get hphase] at hx
      · rwa [step_tick hphase] at hx
    · rw [step_loops, hindex]
      rcases hphase : m.loops.dynamics with _ | freshData
      · -- The get: the snapshot in hand is the one that was queued.
        rw [step_get hphase] at hgot hx
        rcases hq : m.loops.rx.queue with _ | n
        · have hempty : m.loops.dynamicsGet.dynamics = .got true := hgot
          rw [RunLoops.dynamicsGet, hq] at hempty
          cases hempty
        · have hqueued : x ∈ if m.loops.rx.queue.isSome then m.queued else m.fetched := hx
          rw [if_pos (by rw [hq]; rfl), (hfaithful.queue n hq).1] at hqueued
          exact h.filed x hqueued
      · rw [step_loops, RunLoops.step, hphase] at hgot
        have hidle : (m.loops.dynamicsStep lib freshData).dynamics = .idle :=
          (tick_rest m.loops freshData).1
        cases hidle.symm.trans hgot
  | network uptimeUs scanErr =>
    have hindex : ∀ node, agentNeighborIndex
        (m.loops.step lib (.network uptimeUs scanErr)).agent.params node =
        agentNeighborIndex m.loops.agent.params node :=
      index_of_step m.loops fun _ _ _ hev ↦ by cases hev
    -- `observer_stop` empties what is filed, and otherwise nothing is moved.
    have hlists : (∀ x ∈ (m.step lib (.network uptimeUs scanErr)).filed, x ∈ m.filed) ∧
        (m.step lib (.network uptimeUs scanErr)).fetched = m.fetched := by
      rw [Mailbox.step]
      dsimp only
      split_ifs
      · exact ⟨fun _ hx ↦ absurd hx List.not_mem_nil, rfl⟩
      · exact ⟨fun _ hx ↦ hx, rfl⟩
    obtain ⟨hfiled, hfetched⟩ := hlists
    refine ⟨fun x hx ↦ ?_, fun hgot x hx ↦ ?_⟩
    · rw [step_loops, hindex]
      exact h.filed x (hfiled x hx)
    · rw [step_loops] at hgot ⊢
      rw [hfetched] at hx
      rw [hindex]
      exact h.fetched ((networkStep_rx m.loops uptimeUs scanErr).2.2.1.symm.trans hgot) x hx

/-! ### What a tick absorbs -/

/-- A flag of the record stays set until the observer stops. -/
theorem heard_of_step (s : RunLoops K) {ev : BoardEvent} (hkeeps : s.forgets ev = false) {i : Slot}
    (hi : s.rx.info.heard i = true) : (s.step lib ev).rx.info.heard i = true := by
  cases ev with
  | frame e type payload => exact hi
  | receive p rssi =>
    show (s.receive p rssi).rx.info.heard i = true
    obtain ⟨-, hrx⟩ | ⟨h, -, -, -, -, hrecord⟩ := receive_rx s p rssi
    · rw [hrx]
      exact hi
    · rw [hrecord]
      show Function.update s.rx.info.heard h.slot true i = true
      rw [Function.update_apply]
      split_ifs
      · rfl
      · exact hi
  | dynamics =>
    rw [RunLoops.step]
    rcases hphase : s.dynamics with _ | freshData
    · show s.dynamicsGet.rx.info.heard i = true
      rw [RunLoops.dynamicsGet]
      split <;> exact hi
    · show (s.dynamicsStep lib freshData).rx.info.heard i = true
      rw [(tick_rest s freshData).2]
      exact hi
  | network uptimeUs scanErr =>
    show (s.networkStep uptimeUs scanErr).rx.info.heard i = true
    rw [(networkStep_rx s uptimeUs scanErr).1, hkeeps]
    exact hi

/-- A tick that absorbs takes the flags of the slots in use over. -/
theorem tick_heard {s : RunLoops K} (hrunning : s.agent.params.running = true)
    (henabled : s.agent.params.enabled = true) {i : Slot} (hi : i ∈ s.agent.params.slots) :
    (s.dynamicsStep lib true).agent.received.heard i = s.fetched.heard i := by
  have hlive : (s.agent.params.running && s.agent.params.enabled) = true := by
    rw [hrunning, henabled]
    rfl
  have hused : i.val < s.agent.params.nNeighbors.val := of_decide_eq_true (List.mem_filter.1 hi).2
  rw [RunLoops.dynamicsStep, if_pos hlive]
  show (discreteStep lib _).agent.received.heard i = _
  rw [RunLoops.discreteStep_received]
  show (s.stepped true).received.heard i = _
  rw [RunLoops.stepped, if_pos rfl, absorbNeighbors,
    if_neg (by rw [henabled]; exact Bool.false_ne_true)]
  exact if_pos hused

/-- **Every snapshot is true in every run.** -/
theorem faithful_run (radio : RadioState) (events : List BoardEvent) :
    (run (Mailbox.step lib) (.init radio) events).Faithful :=
  run_invariant (Mailbox.step lib) (fun _ ev hm ↦ hm.step ev) (faithful_init radio) events

/-- **And in a run that keeps its list every slot is its node's.** -/
theorem listed_run {radio : RadioState} {events : List BoardEvent}
    (hkept : Guarded (Mailbox.step lib) ListKept (.init radio) events) :
    (run (Mailbox.step lib) (.init radio) events).Listed := by
  have hboth := hkept.invariant (P := fun m ↦ m.Faithful ∧ m.Listed)
    (fun _ _ hm hok ↦ ⟨hm.1.step _, hm.2.step hm.1 hok⟩)
    ⟨faithful_init radio, ⟨fun _ hx ↦ absurd hx List.not_mem_nil, fun hgot ↦ (by cases hgot)⟩⟩
  exact hboth.2

end Mailbox

/-- **The mailbox loses no neighbour update.** Behind a tick that absorbs a snapshot, a neighbour's
value, second coordinate, flag and sequence number are those of its last packet among those filed
when the snapshot was put, zeros if there was none; the snapshot that is queued was put behind
everything that is filed; and the heard flags only grow until the observer stops. -/
theorem mailbox_loses_nothing {K : Type} [Field K] [LinearOrder K] [IsStrictOrderedRing K]
    [FloorRing K] (lib : Libm K) (radio : RadioState) {events : List BoardEvent}
    (hkept : Guarded (Mailbox.step lib) Mailbox.ListKept (.init radio) events) :
    let m := run (Mailbox.step lib) (.init radio) events
    (m.loops.dynamics = .got true → m.loops.agent.params.running = true →
      m.loops.agent.params.enabled = true → ∀ node i,
        agentNeighborIndex m.loops.agent.params node = some i →
          (m.step lib .dynamics).loops.agent.received.values i =
              packetValues (lastFrom m.fetched node) ∧
            (m.step lib .dynamics).loops.agent.received.heard i =
              (lastFrom m.fetched node).isSome) ∧
      (m.loops.rx.queue.isSome = true → m.queued = m.filed) ∧
      ∀ ev, m.loops.forgets ev = false → ∀ i, m.loops.rx.info.heard i = true →
        (m.step lib ev).loops.rx.info.heard i = true := by
  intro m
  have hfaithful : m.Faithful := Mailbox.faithful_run radio events
  have hlisted : m.Listed := Mailbox.listed_run hkept
  refine ⟨fun hgot hrunning henabled node i hi ↦ ?_, fun hqueue ↦ ?_, fun ev hkeeps i hheard ↦ ?_⟩
  · have hlast := lastIn_eq_lastFrom (hlisted.fetched hgot) hi
    have hshows := hfaithful.fetched hgot
    have hlive : (m.loops.agent.params.running && m.loops.agent.params.enabled && true) = true := by
      rw [hrunning, henabled]
      rfl
    rw [Mailbox.step_tick hgot]
    constructor
    · show (m.loops.dynamicsStep lib true).agent.received.values i = _
      rw [Mailbox.tick_received, if_pos hlive, hshows.values i, hlast]
    · show (m.loops.dynamicsStep lib true).agent.received.heard i = _
      rw [Mailbox.tick_heard hrunning henabled (List.mem_of_find?_eq_some hi), hshows.heard i,
        hlast]
  · obtain ⟨n, hn⟩ := Option.isSome_iff_exists.1 hqueue
    exact (hfaithful.queue n hn).1
  · rw [Mailbox.step_loops]
    exact Mailbox.heard_of_step m.loops hkeeps hheard

/-- Three packets are received before a tick gets its snapshot and one behind. -/
def overwrittenRun : List BoardEvent :=
  startedRun [1, 2] ++
    [.receive (samplePacket 1 7) (-40), .receive (samplePacket 2 5) (-40),
      .receive (samplePacket 1 8) (-40), .dynamics, .receive (samplePacket 1 9) (-40)]

/-- The tick absorbs the second packet of node 1, and the one of node 2. -/
theorem mailbox_loses_nothing_overwrittenRun :
    let m := run (Mailbox.step (.atZero : Libm ℚ)) (.init quietRadio) overwrittenRun
    (m.step .atZero .dynamics).loops.agent.received.values 0 = (8, 0, true, 3) ∧
      (m.step .atZero .dynamics).loops.agent.received.values 1 = (5, 0, true, 3) := by
  intro m
  have hkept : Guarded (Mailbox.step (.atZero : Libm ℚ)) Mailbox.ListKept (.init quietRadio)
      overwrittenRun := by decide +kernel
  obtain ⟨habsorbed, -, -⟩ := mailbox_loses_nothing .atZero quietRadio hkept
  have hfirst := habsorbed (by decide +kernel) (by decide +kernel) (by decide +kernel) 1 0
    (by decide +kernel)
  have hsecond := habsorbed (by decide +kernel) (by decide +kernel) (by decide +kernel) 2 1
    (by decide +kernel)
  exact ⟨hfirst.1.trans (by decide +kernel), hsecond.1.trans (by decide +kernel)⟩

end VertexTestbed.Firmware
