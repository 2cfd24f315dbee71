import VertexTestbed.Firmware.RunIsolation

/-!
# Slots and the neighbours they are declared for

A packet is filed under the slot its node has at reception, and the slot is read under the list in
force at use. `apply_network` changes the list and moves none of the values, so a value stays with
its node only if the new list declares that node in the slot the value lies in. `FitsSlots` asks
this of every accepted NETWORK frame, of everything that is on its way when the frame comes, and
`slots_attributed` says that it is enough.
-/

namespace VertexTestbed.Firmware

open Runs

/-! ### Who is declared where -/

/-- The node that is declared as neighbour `i`. -/
def declaredNode (p : AgentParams) (i : Slot) : Option UInt8 :=
  if i.val < p.nNeighbors.val then some (p.neighborsId i) else none

/-- The node that a NETWORK payload declares as neighbour `i`. -/
def declaredIn (d : Bytes) (i : Slot) : Option UInt8 :=
  if i.val < d.length - protoNetworkMinLen then some (byteAt d (i.val + protoNetworkMinLen))
  else none

/-- The checks of `apply_network`. -/
def NetworkAccepted (d : Bytes) : Prop :=
  protoNetworkMinLen ≤ d.length ∧ d.length - protoNetworkMinLen ≤ agentMaxNeighbors ∧ byteAt d 1 ≠ 0

instance (d : Bytes) : Decidable (NetworkAccepted d) :=
  inferInstanceAs (Decidable (_ ∧ _ ∧ _))

/-- The values of slot `i` are the never-heard zeros or those of a packet of the given node. -/
def OfNode (log : List Heard) (node : Option UInt8) (n : NeighborInfo) (i : Slot) : Prop :=
  ValuesFrom (fun _ h ↦ h ∈ log ∧ node = some h.packet.node) n i

instance (log : List Heard) (node : Option UInt8) (n : NeighborInfo) (i : Slot) :
    Decidable (OfNode log node n i) :=
  decidable_of_iff
    ((n.vstates i = 0 ∧ n.vstatesQ i = 0 ∧ n.enabled i = false ∧ n.seq i = 0) ∨
      ∃ h ∈ log, node = some h.packet.node ∧ n.vstates i = h.packet.vstate ∧
        n.vstatesQ i = h.packet.vstateQ ∧ n.enabled i = h.packet.enabled ∧ n.seq i = h.packet.seq)
    (or_congr Iff.rfl (exists_congr fun _ ↦ and_assoc.symm))

theorem OfNode.mono {log log' : List Heard} {node : Option UInt8} {n : NeighborInfo} {i : Slot}
    (hlog : ∀ x ∈ log, x ∈ log') (h : OfNode log node n i) : OfNode log' node n i :=
  ValuesFrom.mono h fun p hp ↦ ⟨hlog p hp.1, hp.2⟩

theorem declaredNode_of_index {p : AgentParams} {node : UInt8} {i : Slot}
    (h : agentNeighborIndex p node = some i) : declaredNode p i = some node := by
  have hmem := List.mem_of_find?_eq_some h
  rw [AgentParams.slots, List.mem_filter] at hmem
  rw [declaredNode, if_pos (of_decide_eq_true hmem.2), agentNeighborIndex_eq_some h]

theorem declaredNode_isSome (p : AgentParams) (i : Slot) :
    (declaredNode p i).isSome ↔ i.val < p.nNeighbors.val := by
  rw [declaredNode, Option.isSome_ite]

theorem declaredIn_isSome (d : Bytes) (i : Slot) :
    (declaredIn d i).isSome ↔ i.val < d.length - protoNetworkMinLen := by
  rw [declaredIn, Option.isSome_ite]

theorem declaredNode_congr {p p' : AgentParams} (hids : p'.neighborsId = p.neighborsId)
    (hcount : p'.nNeighbors = p.nNeighbors) : declaredNode p' = declaredNode p := by
  funext i
  rw [declaredNode, declaredNode, hids, hcount]

/-- What `apply_network` declares. -/
theorem applyNetwork_declared {K : Type*} (a : Agent K) (d : Bytes) :
    (NetworkAccepted d ∧ declaredNode (applyNetwork a d).2.params = declaredIn d) ∨
      (applyNetwork a d).2 = a := by
  rw [applyNetwork]
  split_ifs with hshort hlong hnode
  · exact Or.inr rfl
  · exact Or.inr rfl
  · exact Or.inr rfl
  · refine Or.inl ⟨⟨not_lt.mp hshort, not_lt.mp hlong, hnode⟩, ?_⟩
    funext i
    show (if i.val < d.length - protoNetworkMinLen then
        some (if i.val < d.length - protoNetworkMinLen then byteAt d (i.val + protoNetworkMinLen)
          else 0)
      else none) = declaredIn d i
    rw [declaredIn]
    by_cases hi : i.val < d.length - protoNetworkMinLen
    · rw [if_pos hi, if_pos hi, if_pos hi]
    · rw [if_neg hi, if_neg hi]

/-- The list behind a frame: a NETWORK frame that is accepted declares a new one. -/
theorem controlOnFrame_declared {K : Type} [Field K] [LinearOrder K] [IsStrictOrderedRing K]
    [FloorRing K] (e : ControlEnv) (c : ControlPlane K) (type : UInt8) (d : Bytes) :
    (type = protoTNetwork ∧ NetworkAccepted d ∧
        declaredNode (controlOnFrame e c type d).1.board.agent.params = declaredIn d) ∨
      declaredNode (controlOnFrame e c type d).1.board.agent.params =
        declaredNode c.board.agent.params := by
  by_cases htype : type = protoTNetwork
  · subst htype
    have hagent : (controlOnFrame e c protoTNetwork d).1.board.agent =
        (applyNetwork c.board.agent d).2 := by
      rw [controlOnFrame, if_pos (by decide)]
      rfl
    rw [hagent]
    obtain ⟨haccepted, hdeclared⟩ | hsame := applyNetwork_declared c.board.agent d
    · exact Or.inl ⟨rfl, haccepted, hdeclared⟩
    · exact Or.inr (by rw [hsame])
  · obtain ⟨hids, hcount⟩ := (controlOnFrame_received e c type d).2 htype
    exact Or.inr (declaredNode_congr hids hcount)

namespace RunLoops

variable {K : Type}

/-! ### What is asked -/

/-- **Attribution at use**: in each slot that the next control step couples over, and in each slot
of the report about to be sent, lie the values of the node that is declared there. -/
structure Attributed (s : RunLoops K) : Prop where
  coupled : ∀ freshData, s.dynamics = .got freshData → ∀ i : Slot,
    i.val < s.agent.params.nNeighbors.val →
      OfNode s.log (declaredNode s.agent.params i) (s.stepped freshData).received i
  reported : s.network = .reporting → ∀ i : Slot, i.val < s.copy.params.nNeighbors.val →
    OfNode s.log (declaredNode s.agent.params i) s.copy.received i

/-- **A list fits what is on its way**: in every slot that an accepted NETWORK frame declares, the
record, the queue, the dynamics loop and the agent hold values of the node it declares there, and so
does a report that is already copied. -/
def FitsSlots (s : RunLoops K) : BoardEvent → Prop
  | .frame _ type d =>
    type = protoTNetwork → NetworkAccepted d →
      (∀ i : Slot, i.val < d.length - protoNetworkMinLen →
        InFlight (fun n ↦ OfNode s.log (declaredIn d i) n i) s) ∧
      (s.network = .reporting → ∀ i : Slot, i.val < s.copy.params.nNeighbors.val →
        OfNode s.log (declaredIn d i) s.copy.received i)
  | _ => True

instance (s : RunLoops K) : (ev : BoardEvent) → Decidable (s.FitsSlots ev)
  | .frame _ _ _ => inferInstanceAs (Decidable (_ → _ → _ ∧ (_ → _)))
  | .receive _ _ | .dynamics | .network _ _ => .isTrue trivial

/-! ### The invariant -/

/-- Every slot in use holds values of its node, in all the places they are kept. -/
structure Labelled (s : RunLoops K) : Prop where
  inFlight : ∀ i : Slot, i.val < s.agent.params.nNeighbors.val →
    InFlight (fun n ↦ OfNode s.log (declaredNode s.agent.params i) n i) s
  reported : s.network = .reporting → ∀ i : Slot, i.val < s.copy.params.nNeighbors.val →
    OfNode s.log (declaredNode s.agent.params i) s.copy.received i

theorem Labelled.attributed {s : RunLoops K} (h : s.Labelled) : s.Attributed := by
  refine ⟨fun freshData hgot i hi ↦ ?_, h.reported⟩
  exact (h.inFlight i hi).stepped hgot fun a info ha hinfo ↦ ValuesFrom.absorb ha hinfo

theorem labelled_init [Field K] (radio : RadioState) : (init radio : RunLoops K).Labelled :=
  ⟨fun _ hi ↦ absurd hi (Nat.not_lt_zero _), fun hreporting ↦ (by cases hreporting)⟩

/-- A reception is filed under the slot that declares its node. -/
theorem labelled_receive {s : RunLoops K} (h : s.Labelled) (p : StatePacketType) (rssi : Int8) :
    (s.receive p rssi).Labelled := by
  have hlog : ∀ x ∈ s.log, x ∈ (s.receive p rssi).log := by
    intro x hx
    rw [RunLoops.receive]
    split_ifs
    · dsimp only
      split
      · exact List.mem_append_left _ hx
      · exact hx
    · exact hx
  have hrest : (s.receive p rssi).agent = s.agent ∧ (s.receive p rssi).network = s.network ∧
      (s.receive p rssi).copy = s.copy := by
    rw [RunLoops.receive]
    split_ifs
    · exact ⟨rfl, rfl, rfl⟩
    · exact ⟨rfl, rfl, rfl⟩
  obtain ⟨hagent, hnetwork, hcopy⟩ := hrest
  refine ⟨fun i hi ↦ ?_, ?_⟩
  · rw [hagent] at hi ⊢
    have hold := (h.inFlight i hi).mono fun n hn ↦ OfNode.mono hlog hn
    by_cases hscan : s.plane.radio.scanning = true
    · refine hold.receive fun j hj ↦ ?_
      have hnew : (⟨s.run, j, p, rssi⟩ : Heard) ∈ (s.receive p rssi).log := by
        rw [RunLoops.receive, if_pos hscan]
        dsimp only
        rw [hj]
        exact List.mem_append_right _ (List.mem_singleton_self _)
      have hdeclared := declaredNode_of_index hj
      -- Slot `i` is either the one written, which declares the sender, or another one.
      have hstored : OfNode (s.receive p rssi).log (declaredNode s.agent.params i)
          (s.rx.info.store j p) i := by
        by_cases hij : i = j
        · subst hij
          exact ValuesFrom.store hold.info (p := ⟨s.run, i, p, rssi⟩) ⟨hnew, hdeclared⟩
        · exact hold.info.store_of_ne hij
      exact ⟨hstored, hstored⟩
    · have heq : s.receive p rssi = s := by rw [RunLoops.receive, if_neg hscan]
      rw [heq] at hold ⊢
      exact hold
  · rw [hagent, hnetwork, hcopy]
    exact fun hreporting i hi ↦ (h.reported hreporting i hi).mono hlog

/-- Behind a section that leaves the loop ahead of its report, the copy is the agent. -/
theorem networkStep_reporting [Field K] [LinearOrder K] [FloorRing K] {s : RunLoops K}
    {uptimeUs scanErr : ℤ} (h : (s.networkStep uptimeUs scanErr).network = .reporting) :
    (s.networkStep uptimeUs scanErr).copy = s.agent := by
  rw [networkStep] at h ⊢
  split at h
  · dsimp only at h
    split_ifs at h
  · dsimp only at h
    split_ifs at h
  · cases h
  · rfl
  · split at h
    · cases h
    · cases h
  · dsimp only at h
    split_ifs at h
    cases h

/-- A section of the network loop copies the agent or leaves its copy behind. -/
theorem labelled_network [Field K] [LinearOrder K] [FloorRing K] {s : RunLoops K} (h : s.Labelled)
    (uptimeUs scanErr : ℤ) : (s.networkStep uptimeUs scanErr).Labelled := by
  have hsame := networkStep_sameNeighbours s uptimeUs scanErr
  have hdeclared := declaredNode_congr hsame.ids hsame.count
  refine ⟨fun i hi ↦ ?_, fun hreporting i hi ↦ ?_⟩
  · rw [hsame.count] at hi
    rw [hsame.log, hdeclared]
    exact (h.inFlight i hi).network (valuesFrom_zero _ i) uptimeUs scanErr
  · rw [networkStep_reporting hreporting] at hi ⊢
    rw [hsame.log, hdeclared]
    exact (h.inFlight i hi).agent

section Step

variable [Field K] [LinearOrder K] [IsStrictOrderedRing K] [FloorRing K] {lib : Libm K}

/-- A segment of the dynamics loop moves values between the places, slot by slot. -/
theorem labelled_dynamics {s : RunLoops K} (h : s.Labelled) : (s.step lib .dynamics).Labelled := by
  rw [step]
  split
  case h_1 =>
    have hkeep : s.dynamicsGet.log = s.log ∧ s.dynamicsGet.agent = s.agent ∧
        s.dynamicsGet.network = s.network ∧ s.dynamicsGet.copy = s.copy := by
      rw [dynamicsGet]
      split
      · exact ⟨rfl, rfl, rfl, rfl⟩
      · exact ⟨rfl, rfl, rfl, rfl⟩
    obtain ⟨hlog, hagent, hnetwork, hcopy⟩ := hkeep
    refine ⟨fun i hi ↦ ?_, ?_⟩
    · rw [hagent] at hi ⊢
      rw [hlog]
      exact (h.inFlight i hi).get
    · rw [hlog, hagent, hnetwork, hcopy]
      exact h.reported
  case h_2 freshData hgot =>
    -- Neither the absorption nor the law touches the list.
    have hsame : SameNeighbours s (s.dynamicsStep lib freshData) := by
      obtain heq | heq := dynamicsStep_cases lib s freshData
      · rw [heq]
        exact ⟨rfl, rfl, rfl, rfl⟩
      · rw [heq]
        refine ⟨rfl, rfl, ?_, ?_⟩
        · show (discreteStep lib _).agent.params.neighborsId = _
          rw [discreteStep_params]
          exact stepped_neighborsId s freshData
        · show (discreteStep lib _).agent.params.nNeighbors = _
          rw [discreteStep_params]
          exact stepped_nNeighbors s freshData
    have hcopy : (s.dynamicsStep lib freshData).copy = s.copy ∧
        (s.dynamicsStep lib freshData).network = s.network := by
      obtain heq | heq := dynamicsStep_cases lib s freshData
      · rw [heq]
        exact ⟨rfl, rfl⟩
      · rw [heq]
        exact ⟨rfl, rfl⟩
    have hdeclared := declaredNode_congr hsame.ids hsame.count
    refine ⟨fun i hi ↦ ?_, ?_⟩
    · rw [hsame.count] at hi
      rw [hsame.log, hdeclared]
      exact (h.inFlight i hi).dynamicsStep lib hgot fun a info ha hinfo ↦ ValuesFrom.absorb ha hinfo
    · rw [hsame.log, hdeclared, hcopy.1, hcopy.2]
      exact h.reported

/-- A frame: a NETWORK frame that fits labels the slots anew. -/
theorem labelled_frame {s : RunLoops K} (h : s.Labelled) {e : ControlEnv} {type : UInt8}
    {d : Bytes} (hok : s.FitsSlots (.frame e type d)) : (s.frame e type d).Labelled := by
  have hreceived := (controlOnFrame_received e s.plane type d).1
  -- The arrays are forgotten or kept, whatever node they are asked about.
  have hmoved : ∀ node i, InFlight (fun n ↦ OfNode s.log node n i) s →
      InFlight (fun n ↦ OfNode s.log node n i) (s.frame e type d) := by
    intro node i hold
    refine ⟨hold.info, hold.queue, hold.fetched, ?_⟩
    show OfNode s.log node (controlOnFrame e s.plane type d).1.board.agent.received i
    rw [hreceived]
    split_ifs
    · exact valuesFrom_zero _ i
    · exact hold.agent
  have hused : ∀ i : Slot, i.val < (s.frame e type d).agent.params.nNeighbors.val ↔
      (declaredNode (s.frame e type d).agent.params i).isSome :=
    fun i ↦ (declaredNode_isSome _ i).symm
  obtain ⟨htype, haccepted, hdeclared⟩ | hdeclared := controlOnFrame_declared e s.plane type d
  · obtain ⟨hfit, hcopied⟩ := hok htype haccepted
    have hnew : declaredNode (s.frame e type d).agent.params = declaredIn d := hdeclared
    refine ⟨fun i hi ↦ ?_, fun hreporting i hi ↦ ?_⟩
    · rw [hused, hnew, declaredIn_isSome] at hi
      rw [hnew]
      exact hmoved _ i (hfit i hi)
    · rw [hnew]
      exact hcopied hreporting i hi
  · have hkept : declaredNode (s.frame e type d).agent.params = declaredNode s.agent.params :=
      hdeclared
    refine ⟨fun i hi ↦ ?_, fun hreporting i hi ↦ ?_⟩
    · rw [hused, hkept, declaredNode_isSome] at hi
      rw [hkept]
      exact hmoved _ i (h.inFlight i hi)
    · rw [hkept]
      exact h.reported hreporting i hi

theorem labelled_step {s : RunLoops K} {ev : BoardEvent} (h : s.Labelled) (hok : s.FitsSlots ev) :
    (s.step lib ev).Labelled := by
  cases ev with
  | frame e type d => exact labelled_frame h hok
  | receive p rssi => exact labelled_receive h p rssi
  | dynamics => exact labelled_dynamics h
  | network uptimeUs scanErr => exact labelled_network h uptimeUs scanErr

end Step

end RunLoops

/-- **Slot provenance**: in a run whose NETWORK frames all fit what is on its way, every value that
is coupled over or reported is of the node declared in its slot. -/
theorem slots_attributed {K : Type} [Field K] [LinearOrder K] [IsStrictOrderedRing K] [FloorRing K]
    (lib : Libm K) (radio : RadioState) {events : List BoardEvent}
    (h : Guarded (RunLoops.step lib) RunLoops.FitsSlots (.init radio) events) (n : ℕ) :
    (run (RunLoops.step lib) (.init radio) (events.take n)).Attributed :=
  (h.invariant_prefix (P := RunLoops.Labelled) (fun _ _ hs hok ↦ RunLoops.labelled_step hs hok)
    (RunLoops.labelled_init radio) n).attributed

/-! ### A list that grows and a list that is reordered -/

/-- A reception from node 1, one control step, then a live NETWORK frame with the given list and the
queue get of the next step. -/
def relistedRun (ids : Bytes) : List BoardEvent :=
  startedRun [1, 2] ++
    [.receive (samplePacket 1 7) (-40), .dynamics, .dynamics, networkFrame ids, .dynamics]

/-- A list that grows leaves node 1's values with node 1. -/
theorem slots_attributed_grown :
    (run (RunLoops.step (.atZero : Libm ℚ)) (.init quietRadio)
        ((relistedRun [1, 2, 3]).take 9)).Attributed ∧
      ((run (RunLoops.step (.atZero : Libm ℚ)) (.init quietRadio)
        (relistedRun [1, 2, 3])).stepped false).received.vstates 0 = 7 :=
  ⟨slots_attributed .atZero quietRadio (by decide +kernel) 9, by decide +kernel⟩

/-- **A reordered list relabels the values**: those of node 1 are coupled over as node 2's. -/
theorem relistedRun_not_attributed :
    ¬(run (RunLoops.step (.atZero : Libm ℚ)) (.init quietRadio)
      (relistedRun [2, 1])).Attributed := by
  intro h
  have hvalue : ((run (RunLoops.step (.atZero : Libm ℚ)) (.init quietRadio)
      (relistedRun [2, 1])).stepped false).received.vstates 0 = 7 := by decide +kernel
  have hlog : ∀ p ∈ (run (RunLoops.step (.atZero : Libm ℚ)) (.init quietRadio)
      (relistedRun [2, 1])).log, declaredNode (run (RunLoops.step (.atZero : Libm ℚ))
        (.init quietRadio) (relistedRun [2, 1])).agent.params 0 ≠ some p.packet.node := by
    decide +kernel
  obtain ⟨hzero, -⟩ | ⟨p, ⟨hp, hnode⟩, -⟩ :=
    h.coupled false (by decide +kernel) 0 (by decide +kernel)
  · omega
  · exact hlog p hp hnode

end VertexTestbed.Firmware
