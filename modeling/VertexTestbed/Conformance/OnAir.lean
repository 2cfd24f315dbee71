import VertexTestbed.Firmware.OnAir
import VertexTestbed.Host.OnAir

/-!
# Disabled nodes on air

What the two platforms repeat once a node has been disabled. A host agent goes on publishing, with
its flag cleared, as long as its packet can be built. A board stops publishing, and its radio goes
on repeating the packet it was handed last: the neighbours hear the flag of the last publish instant
at which the board was enabled.
-/

namespace VertexTestbed.Conformance

open Firmware Host Runs

/-- **A disabled node says so on air**: what it takes on a board, and what it takes on a host
agent. -/
theorem disabled_says_so_iff {K : Type} [Field K] [LinearOrder K] [IsStrictOrderedRing K]
    [FloorRing K] (lib : Libm K) (radio : RadioState) (boardEvents : List (BoardEvent × ℤ))
    {ι A C : Type} [DecidableEq ι] (kind : ControllerKind A C) (vstate : C → List K)
    (hostEvents : List (HostEvent ι K A)) :
    ((∀ n, (run (OnAirBoard.step lib) (.init radio) (boardEvents.take n)).DisabledOnAir) ↔
        Guarded (OnAirBoard.step lib) OnAirBoard.DisabledBefore (.init radio) boardEvents) ∧
      ((∀ n, (run (OnAirAgent.step kind vstate) .init (hostEvents.take n)).DisabledOnAir) ↔
        Guarded (OnAirAgent.step kind vstate) (OnAirAgent.PacketFits kind vstate) .init
          hostEvents) :=
  ⟨OnAirBoard.says_disabled_iff lib radio boardEvents,
    OnAirAgent.says_disabled_iff kind vstate hostEvents⟩

/-! ### A board disabled before its run, and one disabled in it -/

/-- NETWORK: a disabled node 9 with the given neighbours. -/
def disableFrame (ids : Bytes) : BoardEvent :=
  .frame quietEnv protoTNetwork (0 :: 9 :: ids)

/-- Turns of the network loop, from its copying section on. -/
def networkTurns (n : ℕ) : List BoardEvent :=
  List.replicate (4 * n) (.network 7000 0)

/-- A board that is disabled when its run starts, up to its first publish instant. -/
def startedDisabled : List (BoardEvent × ℤ) :=
  ([disableFrame [1], controlFrame 1, .network 6000 0, .network 6000 0] ++ networkTurns 5).map
    (·, 0)

/-- The same board, started enabled and disabled before its first publish instant. -/
def disabledInRun : List (BoardEvent × ℤ) :=
  (startedRun [1] ++ disableFrame [1] :: networkTurns 5).map (·, 0)

/-- The virtual state of the microgrid controllers. -/
def microgridVstate (c : MicrogridController ℚ) : List ℚ :=
  [c.virtual.zP, c.virtual.zQ]

/-- A host agent that is disabled in its run, up to the publish instant after. -/
def hostDisabledInRun : List (HostEvent ℕ ℚ (ControllerParams ℚ)) :=
  [.configure sampleHostAssignment true, .start 0 true] ++ List.replicate 5 (.tick 1 1) ++
    [.configure { sampleHostAssignment with enabled := false } true] ++
    List.replicate 5 (.tick 2 2)

/-- The board that was disabled in time says so, and so does the host agent. -/
theorem disabled_says_so_sample :
    (run (OnAirBoard.step (.atZero : Libm ℚ)) (.init quietRadio)
        (startedDisabled.take startedDisabled.length)).DisabledOnAir ∧
      (run (OnAirBoard.step (.atZero : Libm ℚ)) (.init quietRadio) startedDisabled).due = true ∧
      (run (OnAirAgent.step (microgridKind .atZero) microgridVstate) .init
        (hostDisabledInRun.take hostDisabledInRun.length)).DisabledOnAir ∧
      (run (OnAirAgent.step (microgridKind .atZero) microgridVstate) .init
        hostDisabledInRun).due = true := by
  have hboth := disabled_says_so_iff (.atZero : Libm ℚ) quietRadio startedDisabled
    (microgridKind .atZero) microgridVstate hostDisabledInRun
  exact ⟨hboth.1.2 (by decide +kernel) _, by decide +kernel, hboth.2.2 (by decide +kernel) _,
    by decide +kernel⟩

/-- **The board disabled in its run goes on saying that it is enabled**: at the publish instant
after the disable its radio still repeats the packet of the start. -/
theorem disabled_board_says_enabled :
    ¬(run (OnAirBoard.step (.atZero : Libm ℚ)) (.init quietRadio) disabledInRun).DisabledOnAir ∧
      (run (OnAirBoard.step (.atZero : Libm ℚ)) (.init quietRadio)
        disabledInRun).loops.agent.params.enabled = false ∧
      (run (OnAirBoard.step (.atZero : Libm ℚ)) (.init quietRadio) disabledInRun).onAir.map
        (·.enabled) = some true := by
  decide +kernel

end VertexTestbed.Conformance
