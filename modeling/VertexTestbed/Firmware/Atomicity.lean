import VertexTestbed.Firmware.Agent

/-!
# What one configuration frame can do

`FrameOutcome` is the inversion of `agentApplyFrame`: every result it can return, with the checks
that were passed on the way. Everything proved about frames is a case analysis on it.

`agent.h` promises that a rejected frame is never partially applied. Two of the outcomes break that
promise: MG_PLANT and MG_VIRTUAL store their whole block and only then check it, so a full-length
frame that fails the check overwrites the block and clears its presence bit. The exact condition is
`rejected_unchanged_iff`: the promise holds for a frame unless its handler stores before refusing
(`RejectedAfterStore`), and then only when the store happens to change nothing (`StoreIsNoop`).
-/

namespace VertexTestbed.Firmware

variable {K : Type*} [Field K] [LinearOrder K] [IsStrictOrderedRing K] [FloorRing K]

/-! ### Outcomes -/

/-- A full-length MG_PLANT or MG_VIRTUAL frame whose check fails after its stores. -/
def RejectedAfterStore (m : MicrogridParams) (type : UInt8) (d : Bytes) : Prop :=
  (type = protoTMgPlant ∧ d.length = protoMgPlantLen ∧ mgPlantBad (storeMgPlant m d)) ∨
    (type = protoTMgVirtual ∧ d.length = protoMgVirtualLen ∧ mgVirtualBad (storeMgVirtual m d))

/-- What the checks of the seven handlers ask of a frame. -/
def FrameAccepted (p : AgentParams) (type : UInt8) (d : Bytes) : Prop :=
  (type = protoTNetwork ∧ protoNetworkMinLen ≤ d.length ∧
      d.length - protoNetworkMinLen ≤ agentMaxNeighbors ∧ byteAt d 1 ≠ 0) ∨
    (type = protoTAlgorithm ∧ d.length = protoAlgorithmLen ∧ 0 < protoLdI32 d 0 ∧
      0 < protoLdI32 d 4) ∨
    (type = protoTMgPlant ∧ d.length = protoMgPlantLen ∧
      ¬ mgPlantBad (storeMgPlant p.microgrid d)) ∨
    (type = protoTMgVirtual ∧ d.length = protoMgVirtualLen ∧
      ¬ mgVirtualBad (storeMgVirtual p.microgrid d)) ∨
    (type = protoTMgIface ∧ d.length = protoMgIfaceLen ∧ (ifaceLaw (byteAt d 0)).isSome ∧
      p.mgBlocks &&& mgBlockNeed = mgBlockNeed) ∨
    (type = protoTDisturbance ∧ d.length = protoDisturbanceLen ∧ 0 < protoLdI32 d 25) ∨
    (type = protoTControl ∧ d.length = protoControlLen)

section ByType

variable (p : AgentParams) (m : MicrogridParams) (d : Bytes)

/-- NETWORK is accepted for a node id that is not zero and no more neighbours than there are slots.
-/
theorem frameAccepted_network :
    FrameAccepted p protoTNetwork d ↔ protoNetworkMinLen ≤ d.length ∧
      d.length - protoNetworkMinLen ≤ agentMaxNeighbors ∧ byteAt d 1 ≠ 0 := by
  simp [FrameAccepted, protoTNetwork, protoTAlgorithm, protoTMgPlant, protoTMgVirtual,
    protoTMgIface, protoTDisturbance, protoTControl]

/-- ALGORITHM is accepted for two positive periods. -/
theorem frameAccepted_algorithm :
    FrameAccepted p protoTAlgorithm d ↔ d.length = protoAlgorithmLen ∧ 0 < protoLdI32 d 0 ∧
      0 < protoLdI32 d 4 := by
  simp [FrameAccepted, protoTNetwork, protoTAlgorithm, protoTMgPlant, protoTMgVirtual,
    protoTMgIface, protoTDisturbance, protoTControl]

/-- MG_PLANT is accepted where its fields, stored, are in range. -/
theorem frameAccepted_mgPlant :
    FrameAccepted p protoTMgPlant d ↔ d.length = protoMgPlantLen ∧
      ¬ mgPlantBad (storeMgPlant p.microgrid d) := by
  simp [FrameAccepted, protoTNetwork, protoTAlgorithm, protoTMgPlant, protoTMgVirtual,
    protoTMgIface, protoTDisturbance, protoTControl]

/-- So is MG_VIRTUAL. -/
theorem frameAccepted_mgVirtual :
    FrameAccepted p protoTMgVirtual d ↔ d.length = protoMgVirtualLen ∧
      ¬ mgVirtualBad (storeMgVirtual p.microgrid d) := by
  simp [FrameAccepted, protoTNetwork, protoTAlgorithm, protoTMgPlant, protoTMgVirtual,
    protoTMgIface, protoTDisturbance, protoTControl]

/-- MG_IFACE is accepted for a known law behind both blocks. -/
theorem frameAccepted_mgIface :
    FrameAccepted p protoTMgIface d ↔ d.length = protoMgIfaceLen ∧
      (ifaceLaw (byteAt d 0)).isSome ∧ p.mgBlocks &&& mgBlockNeed = mgBlockNeed := by
  simp [FrameAccepted, protoTNetwork, protoTAlgorithm, protoTMgPlant, protoTMgVirtual,
    protoTMgIface, protoTDisturbance, protoTControl]

/-- DISTURBANCE is accepted for a positive number of samples. -/
theorem frameAccepted_disturbance :
    FrameAccepted p protoTDisturbance d ↔ d.length = protoDisturbanceLen ∧
      0 < protoLdI32 d 25 := by
  simp [FrameAccepted, protoTNetwork, protoTAlgorithm, protoTMgPlant, protoTMgVirtual,
    protoTMgIface, protoTDisturbance, protoTControl]

/-- CONTROL is accepted for its length. -/
theorem frameAccepted_control :
    FrameAccepted p protoTControl d ↔ d.length = protoControlLen := by
  simp [FrameAccepted, protoTNetwork, protoTAlgorithm, protoTMgPlant, protoTMgVirtual,
    protoTMgIface, protoTDisturbance, protoTControl]

variable {m d}

/-- Only the two blocks can be rejected behind a store. -/
theorem not_rejectedAfterStore {type : UInt8}
    (hplant : type = protoTMgPlant → d.length ≠ protoMgPlantLen)
    (hvirtual : type = protoTMgVirtual → d.length ≠ protoMgVirtualLen) :
    ¬ RejectedAfterStore m type d := by
  rintro (⟨htype, hlen, -⟩ | ⟨htype, hlen, -⟩)
  · exact hplant htype hlen
  · exact hvirtual htype hlen

/-- Only the two late-checking types store before they refuse. -/
theorem not_rejectedAfterStore_of_ne {type : UInt8} (hplant : type ≠ protoTMgPlant)
    (hvirtual : type ≠ protoTMgVirtual) : ¬ RejectedAfterStore m type d :=
  not_rejectedAfterStore (fun h ↦ absurd h hplant) (fun h ↦ absurd h hvirtual)

/-- A frame that is refused after its stores is not accepted. -/
theorem RejectedAfterStore.not_frameAccepted {p : AgentParams} {type : UInt8}
    (h : RejectedAfterStore p.microgrid type d) : ¬ FrameAccepted p type d := by
  rcases h with ⟨rfl, -, hbad⟩ | ⟨rfl, -, hbad⟩
  · rw [frameAccepted_mgPlant]
    exact fun h ↦ h.2 hbad
  · rw [frameAccepted_mgVirtual]
    exact fun h ↦ h.2 hbad

end ByType

instance (m : MicrogridParams) (type : UInt8) (d : Bytes) :
    Decidable (RejectedAfterStore m type d) :=
  inferInstanceAs (Decidable (_ ∨ _))

instance (p : AgentParams) (type : UInt8) (d : Bytes) : Decidable (FrameAccepted p type d) :=
  inferInstanceAs (Decidable (_ ∨ _))

/-- Every result `agentApplyFrame` can return on a frame. -/
inductive FrameOutcome (b : Board K) (type : UInt8) (d : Bytes) (nowUs : ℤ) :
    ℤ × Board K → Prop
  /-- Refused before any store. -/
  | refused (rc : ℤ) (hrc : rc < 0) (hno : ¬ FrameAccepted b.agent.params type d)
      (hstore : ¬ RejectedAfterStore b.agent.params.microgrid type d) :
      FrameOutcome b type d nowUs (rc, b)
  /-- MG_PLANT, refused after its stores. -/
  | plantBad (htype : type = protoTMgPlant) (hlen : d.length = protoMgPlantLen)
      (hbad : mgPlantBad (storeMgPlant b.agent.params.microgrid d)) :
      FrameOutcome b type d nowUs
        (agentErrRange,
          { b with
            agent := b.agent.withMicrogrid (storeMgPlant b.agent.params.microgrid d)
              (b.agent.params.mgBlocks &&& ~~~mgBlockPlant) })
  /-- MG_VIRTUAL, refused after its stores. -/
  | virtualBad (htype : type = protoTMgVirtual) (hlen : d.length = protoMgVirtualLen)
      (hbad : mgVirtualBad (storeMgVirtual b.agent.params.microgrid d)) :
      FrameOutcome b type d nowUs
        (agentErrRange,
          { b with
            agent := b.agent.withMicrogrid (storeMgVirtual b.agent.params.microgrid d)
              (b.agent.params.mgBlocks &&& ~~~mgBlockVirtual) })
  /-- NETWORK: back to the scalar law, with no block present. -/
  | network (n : Fin (agentMaxNeighbors + 1)) (htype : type = protoTNetwork) :
      FrameOutcome b type d nowUs
        (agentOk, { b with agent := { b.agent with params := storeNetwork b.agent.params d n } })
  /-- ALGORITHM: positive periods. -/
  | algorithm (htype : type = protoTAlgorithm) (hacc : FrameAccepted b.agent.params type d)
      (hdt : 0 < protoLdI32 d 0) :
      FrameOutcome b type d nowUs
        (agentOk, { b with agent := { b.agent with params := storeAlgorithm b.agent.params d } })
  /-- MG_PLANT, accepted. -/
  | plantOk (htype : type = protoTMgPlant)
      (hok : ¬ mgPlantBad (storeMgPlant b.agent.params.microgrid d)) :
      FrameOutcome b type d nowUs
        (agentOk,
          { b with
            agent := b.agent.withMicrogrid (storeMgPlant b.agent.params.microgrid d)
              (b.agent.params.mgBlocks ||| mgBlockPlant) })
  /-- MG_VIRTUAL, accepted. -/
  | virtualOk (htype : type = protoTMgVirtual) (hacc : FrameAccepted b.agent.params type d)
      (hok : ¬ mgVirtualBad (storeMgVirtual b.agent.params.microgrid d)) :
      FrameOutcome b type d nowUs
        (agentOk,
          { b with
            agent := b.agent.withMicrogrid (storeMgVirtual b.agent.params.microgrid d)
              (b.agent.params.mgBlocks ||| mgBlockVirtual) })
  /-- MG_IFACE: both blocks were present; the law is committed and the integrators reset. -/
  | iface (law : ControlLaw) (htype : type = protoTMgIface)
      (hacc : FrameAccepted b.agent.params type d) (hlaw : ifaceLaw (byteAt d 0) = some law)
      (hneed : b.agent.params.mgBlocks &&& mgBlockNeed = mgBlockNeed) :
      FrameOutcome b type d nowUs
        (agentOk,
          { b with
            agent := microgridReset
              { b.agent with
                params :=
                  { b.agent.params with
                    microgrid := storeMgIface b.agent.params.microgrid d
                    law := law } } })
  /-- DISTURBANCE: nothing but the disturbance block. -/
  | disturbance (htype : type = protoTDisturbance) :
      FrameOutcome b type d nowUs
        (agentOk,
          { b with
            agent :=
              { b.agent with
                params := { b.agent.params with disturbance := storeDisturbance d } } })
  /-- CONTROL start. -/
  | start (g : Pcg) (htype : type = protoTControl) (hacc : FrameAccepted b.agent.params type d)
      (hrun : byteAt d 0 = 1) :
      FrameOutcome b type d nowUs
        (agentOk,
          { agent :=
              if b.agent.params.law ≠ .finiteTimeAdaptive then
                microgridReset (controlLatch b.agent d nowUs)
              else controlLatch b.agent d nowUs
            prng := g })
  /-- CONTROL stop. -/
  | stop (htype : type = protoTControl) (hrun : byteAt d 0 ≠ 1) :
      FrameOutcome b type d nowUs
        (agentOk,
          { b with
            agent :=
              { b.agent with
                params :=
                  { b.agent.params with running := false, firstTimeRunning := false } } })

/-! ### One handler at a time -/

section Handlers

variable (b : Board K) (d : Bytes) (nowUs : ℤ)

/-- NETWORK is accepted, or leaves the board alone. -/
theorem applyNetwork_outcome :
    FrameOutcome b protoTNetwork d nowUs (onAgent b (applyNetwork b.agent d)) := by
  have hstore : ¬ RejectedAfterStore b.agent.params.microgrid protoTNetwork d :=
    not_rejectedAfterStore_of_ne (by decide) (by decide)
  have hacc := frameAccepted_network b.agent.params d
  rw [applyNetwork]
  by_cases hlen : d.length < protoNetworkMinLen
  · rw [if_pos hlen]
    exact .refused _ agentErrLen_neg (fun h ↦ not_lt.2 (hacc.1 h).1 hlen) hstore
  rw [if_neg hlen]
  by_cases hn : agentMaxNeighbors < d.length - protoNetworkMinLen
  · rw [dif_pos hn]
    exact .refused _ agentErrRange_neg (fun h ↦ not_lt.2 (hacc.1 h).2.1 hn) hstore
  rw [dif_neg hn]
  by_cases hid : byteAt d 1 = 0
  · rw [if_pos hid]
    exact .refused _ agentErrRange_neg (fun h ↦ (hacc.1 h).2.2 hid) hstore
  rw [if_neg hid]
  exact .network _ rfl

/-- ALGORITHM is accepted, or leaves the board alone. -/
theorem applyAlgorithm_outcome :
    FrameOutcome b protoTAlgorithm d nowUs (onAgent b (applyAlgorithm b.agent d)) := by
  have hstore : ¬ RejectedAfterStore b.agent.params.microgrid protoTAlgorithm d :=
    not_rejectedAfterStore_of_ne (by decide) (by decide)
  have hacc := frameAccepted_algorithm b.agent.params d
  rw [applyAlgorithm]
  by_cases hlen : d.length ≠ protoAlgorithmLen
  · rw [if_pos hlen]
    exact .refused _ agentErrLen_neg (fun h ↦ hlen (hacc.1 h).1) hstore
  rw [if_neg hlen]
  by_cases hrange : protoLdI32 d 0 ≤ 0 ∨ protoLdI32 d 4 ≤ 0
  · rw [if_pos hrange]
    refine .refused _ agentErrRange_neg (fun h ↦ ?_) hstore
    have hpos := (hacc.1 h).2
    omega
  rw [if_neg hrange]
  have hdt : 0 < protoLdI32 d 0 := not_le.1 (not_or.1 hrange).1
  have hclock : 0 < protoLdI32 d 4 := not_le.1 (not_or.1 hrange).2
  exact .algorithm rfl (hacc.2 ⟨not_not.1 hlen, hdt, hclock⟩) hdt

/-- MG_PLANT may be stored and rejected: the range check is behind the store. -/
theorem applyMgPlant_outcome :
    FrameOutcome b protoTMgPlant d nowUs (onAgent b (applyMgPlant b.agent d)) := by
  have hacc := frameAccepted_mgPlant b.agent.params d
  rw [applyMgPlant]
  by_cases hlen : d.length ≠ protoMgPlantLen
  · rw [if_pos hlen]
    exact .refused _ agentErrLen_neg (fun h ↦ hlen (hacc.1 h).1)
      (not_rejectedAfterStore (fun _ ↦ hlen) (fun h ↦ absurd h (by decide)))
  rw [if_neg hlen]
  dsimp only
  by_cases hbad : mgPlantBad (storeMgPlant b.agent.params.microgrid d)
  · rw [if_pos hbad]
    exact .plantBad rfl (not_not.1 hlen) hbad
  · rw [if_neg hbad]
    exact .plantOk rfl hbad

/-- So may MG_VIRTUAL. -/
theorem applyMgVirtual_outcome :
    FrameOutcome b protoTMgVirtual d nowUs (onAgent b (applyMgVirtual b.agent d)) := by
  have hacc := frameAccepted_mgVirtual b.agent.params d
  rw [applyMgVirtual]
  by_cases hlen : d.length ≠ protoMgVirtualLen
  · rw [if_pos hlen]
    exact .refused _ agentErrLen_neg (fun h ↦ hlen (hacc.1 h).1)
      (not_rejectedAfterStore (fun h ↦ absurd h (by decide)) (fun _ ↦ hlen))
  rw [if_neg hlen]
  dsimp only
  by_cases hbad : mgVirtualBad (storeMgVirtual b.agent.params.microgrid d)
  · rw [if_pos hbad]
    exact .virtualBad rfl (not_not.1 hlen) hbad
  · rw [if_neg hbad]
    exact .virtualOk rfl (hacc.2 ⟨not_not.1 hlen, hbad⟩) hbad

/-- MG_IFACE is accepted, or leaves the board alone. -/
theorem applyMgIface_outcome :
    FrameOutcome b protoTMgIface d nowUs (onAgent b (applyMgIface b.agent d)) := by
  have hstore : ¬ RejectedAfterStore b.agent.params.microgrid protoTMgIface d :=
    not_rejectedAfterStore_of_ne (by decide) (by decide)
  have hacc := frameAccepted_mgIface b.agent.params d
  rw [applyMgIface]
  by_cases hlen : d.length ≠ protoMgIfaceLen
  · rw [if_pos hlen]
    exact .refused _ agentErrLen_neg (fun h ↦ hlen (hacc.1 h).1) hstore
  rw [if_neg hlen]
  rcases hlaw : ifaceLaw (byteAt d 0) with - | law
  · refine .refused _ agentErrRange_neg (fun h ↦ ?_) hstore
    have hsome := (hacc.1 h).2.1
    rw [hlaw] at hsome
    exact absurd hsome (by decide)
  dsimp only
  by_cases hneed : b.agent.params.mgBlocks &&& mgBlockNeed ≠ mgBlockNeed
  · rw [if_pos hneed]
    exact .refused _ agentErrRange_neg (fun h ↦ hneed (hacc.1 h).2.2) hstore
  · rw [if_neg hneed]
    have hsome : (ifaceLaw (byteAt d 0)).isSome := by rw [hlaw, Option.isSome_some]
    exact .iface law rfl (hacc.2 ⟨not_not.1 hlen, hsome, not_not.1 hneed⟩) hlaw (not_not.1 hneed)

/-- DISTURBANCE is accepted, or leaves the board alone. -/
theorem applyDisturbance_outcome :
    FrameOutcome b protoTDisturbance d nowUs (onAgent b (applyDisturbance b.agent d)) := by
  have hstore : ¬ RejectedAfterStore b.agent.params.microgrid protoTDisturbance d :=
    not_rejectedAfterStore_of_ne (by decide) (by decide)
  have hacc := frameAccepted_disturbance b.agent.params d
  rw [applyDisturbance]
  by_cases hlen : d.length ≠ protoDisturbanceLen
  · rw [if_pos hlen]
    exact .refused _ agentErrLen_neg (fun h ↦ hlen (hacc.1 h).1) hstore
  rw [if_neg hlen]
  by_cases hsamples : protoLdI32 d 25 ≤ 0
  · rw [if_pos hsamples]
    exact .refused _ agentErrRange_neg (fun h ↦ not_lt.2 hsamples (hacc.1 h).2) hstore
  · rw [if_neg hsamples]
    exact .disturbance rfl

/-- CONTROL is accepted, or leaves the board alone. -/
theorem applyControl_outcome :
    FrameOutcome b protoTControl d nowUs (applyControl b d nowUs) := by
  have hacc := frameAccepted_control b.agent.params d
  rw [applyControl]
  by_cases hlen : d.length ≠ protoControlLen
  · rw [if_pos hlen]
    exact .refused _ agentErrLen_neg (fun h ↦ hlen (hacc.1 h))
      (not_rejectedAfterStore_of_ne (by decide) (by decide))
  rw [if_neg hlen]
  by_cases hrun : byteAt d 0 = 1
  · rw [if_pos hrun]
    exact .start _ rfl (hacc.2 (not_not.1 hlen)) hrun
  · rw [if_neg hrun]
    exact .stop rfl hrun

end Handlers

/-- **The inversion of `agent_apply_frame`.** -/
theorem agentApplyFrame_outcome (b : Board K) (type : UInt8) (d : Bytes) (nowUs : ℤ) :
    FrameOutcome b type d nowUs (agentApplyFrame b type d nowUs) := by
  rw [agentApplyFrame]
  split_ifs with hN hA hP hV hI hD hS
  · exact hN ▸ applyNetwork_outcome b d nowUs
  · exact hA ▸ applyAlgorithm_outcome b d nowUs
  · exact hP ▸ applyMgPlant_outcome b d nowUs
  · exact hV ▸ applyMgVirtual_outcome b d nowUs
  · exact hI ▸ applyMgIface_outcome b d nowUs
  · exact hD ▸ applyDisturbance_outcome b d nowUs
  · exact hS ▸ applyControl_outcome b d nowUs
  · refine .refused _ agentErrType_neg ?_ (not_rejectedAfterStore_of_ne hP hV)
    simp [FrameAccepted, hN, hA, hP, hV, hI, hD, hS]

/-! ### Atomicity -/

/-- The stores of a late-checking handler change nothing: the board already holds every value of the
frame, and the presence bit of the block is already clear. -/
def StoreIsNoop (p : AgentParams) (type : UInt8) (d : Bytes) : Prop :=
  (type = protoTMgPlant → storeMgPlant p.microgrid d = p.microgrid ∧
      p.mgBlocks &&& ~~~mgBlockPlant = p.mgBlocks) ∧
    (type = protoTMgVirtual → storeMgVirtual p.microgrid d = p.microgrid ∧
      p.mgBlocks &&& ~~~mgBlockVirtual = p.mgBlocks)

/-- **A rejected frame leaves the agent as it was, exactly when its handler does not store before
refusing, or stores what is already there.** -/
theorem rejected_unchanged_iff (b : Board K) (type : UInt8) (d : Bytes) (nowUs : ℤ) :
    ((agentApplyFrame b type d nowUs).1 < 0 →
        (agentApplyFrame b type d nowUs).2.agent = b.agent) ↔
      (RejectedAfterStore b.agent.params.microgrid type d →
        StoreIsNoop b.agent.params type d) := by
  have hout := agentApplyFrame_outcome b type d nowUs
  generalize agentApplyFrame b type d nowUs = r at hout ⊢
  cases hout with
  | refused rc hrc hno hstore => exact ⟨fun _ h ↦ absurd h hstore, fun _ _ ↦ rfl⟩
  | plantBad htype hlen hbad =>
    have hlate : RejectedAfterStore b.agent.params.microgrid type d := .inl ⟨htype, hlen, hbad⟩
    have hne : type ≠ protoTMgVirtual := by
      rw [htype]
      decide
    rw [imp_iff_right agentErrRange_neg, imp_iff_right hlate, Agent.withMicrogrid_eq_self_iff]
    exact ⟨fun h ↦ ⟨fun _ ↦ h, fun h ↦ absurd h hne⟩, fun h ↦ h.1 htype⟩
  | virtualBad htype hlen hbad =>
    have hlate : RejectedAfterStore b.agent.params.microgrid type d := .inr ⟨htype, hlen, hbad⟩
    have hne : type ≠ protoTMgPlant := by
      rw [htype]
      decide
    rw [imp_iff_right agentErrRange_neg, imp_iff_right hlate, Agent.withMicrogrid_eq_self_iff]
    exact ⟨fun h ↦ ⟨fun h ↦ absurd h hne, fun _ ↦ h⟩, fun h ↦ h.2 htype⟩
  | plantOk htype hgood =>
    refine ⟨fun _ ↦ ?_, fun _ h ↦ absurd h agentOk_not_neg⟩
    rintro (⟨-, -, hbad⟩ | ⟨h, -⟩)
    · exact absurd hbad hgood
    · exact absurd (htype.symm.trans h) (by decide)
  | virtualOk htype _ hgood =>
    refine ⟨fun _ ↦ ?_, fun _ h ↦ absurd h agentOk_not_neg⟩
    rintro (⟨h, -⟩ | ⟨-, -, hbad⟩)
    · exact absurd (htype.symm.trans h) (by decide)
    · exact absurd hbad hgood
  | network _ htype | algorithm htype | iface _ htype | disturbance htype | start _ htype
  | stop htype =>
    refine ⟨fun _ hlate ↦ absurd hlate ?_, fun _ h ↦ absurd h agentOk_not_neg⟩
    rw [htype]
    exact not_rejectedAfterStore (fun h ↦ absurd h (by decide)) (fun h ↦ absurd h (by decide))

/-- A NETWORK frame that is too short is refused and changes nothing. -/
theorem rejected_unchanged_short_network :
    (agentApplyFrame (boardInit ℚ) protoTNetwork [1] 0).1 < 0 ∧
      (agentApplyFrame (boardInit ℚ) protoTNetwork [1] 0).2.agent = (boardInit ℚ).agent := by
  have hrejected : (agentApplyFrame (boardInit ℚ) protoTNetwork [1] 0).1 < 0 := by decide +kernel
  refine ⟨hrejected, (rejected_unchanged_iff (boardInit ℚ) protoTNetwork [1] 0).2 (fun h ↦ ?_)
    hrejected⟩
  exact absurd h (not_rejectedAfterStore_of_ne (by decide) (by decide))

/-- An MG_PLANT frame of the right length carrying profile 1 and `kappa = 0`. -/
def zeroKappaFrame : Bytes := 1 :: List.replicate 28 0

/-- On a freshly initialised board the frame is refused and its profile byte is stored all the
same. -/
theorem zeroKappaFrame_partially_applied :
    ¬ ((agentApplyFrame (boardInit ℚ) protoTMgPlant zeroKappaFrame 0).1 < 0 →
      (agentApplyFrame (boardInit ℚ) protoTMgPlant zeroKappaFrame 0).2.agent =
        (boardInit ℚ).agent) := by
  intro h
  have hprofile := congrArg (fun a : Agent ℚ ↦ a.params.microgrid.profile) (h (by decide))
  exact absurd hprofile (by decide)

end VertexTestbed.Firmware
