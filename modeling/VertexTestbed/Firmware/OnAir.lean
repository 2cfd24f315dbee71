import VertexTestbed.Firmware.RunIsolation

/-!
# What a board has on air

`broadcaster.c` beside the run loops. The radio repeats the packet it was handed last, so what a
neighbour sees of the node is that packet, whatever the agent holds by now. The packet is handed
over where advertising starts and at the publish instants that find the board enabled; a publish
instant of a disabled board hands over nothing.

`due` says that a publish instant has passed since the board was last enabled, and the question is
what is on air then. `says_disabled_iff` answers it for every history of the board.
-/

namespace VertexTestbed.Firmware

open Runs

/-! ### The broadcaster -/

/-- `broadcaster_init`: nothing is handed over while the set is advertising. -/
def broadcasterInit (onAir : Option StatePacketType) (pkt : StatePacketType) (err : ℤ) :
    Option StatePacketType :=
  match onAir with
  | some old => some old
  | none => if err = 0 then some pkt else none

/-- `broadcaster_update`. -/
def broadcasterUpdate (onAir : Option StatePacketType) (pkt : StatePacketType) (err : ℤ) :
    Option StatePacketType :=
  match onAir with
  | some old => if err = 0 then some pkt else some old
  | none => none

/-- `broadcaster_stop`. -/
def broadcasterStop (onAir : Option StatePacketType) (err : ℤ) : Option StatePacketType :=
  if err = 0 then none else onAir

/-- Whatever is on air has its flag cleared. -/
def SaysDisabled (onAir : Option StatePacketType) : Prop :=
  ∀ pkt ∈ onAir, pkt.enabled = false

instance (onAir : Option StatePacketType) : Decidable (SaysDisabled onAir) :=
  inferInstanceAs (Decidable (∀ pkt ∈ onAir, pkt.enabled = false))

theorem saysDisabled_init {onAir : Option StatePacketType} {pkt : StatePacketType} (err : ℤ)
    (h : SaysDisabled onAir) (hpkt : pkt.enabled = false) :
    SaysDisabled (broadcasterInit onAir pkt err) := by
  cases onAir with
  | some old => exact h
  | none =>
    rw [broadcasterInit]
    split_ifs
    · intro p hp
      obtain rfl := Option.some.inj hp
      exact hpkt
    · exact h

theorem saysDisabled_stop {onAir : Option StatePacketType} (err : ℤ) (h : SaysDisabled onAir) :
    SaysDisabled (broadcasterStop onAir err) := by
  rw [broadcasterStop]
  split_ifs
  · intro p hp
    cases hp
  · exact h

/-! ### The board and its radio -/

/-- The board with what its radio repeats: `none` while it is not advertising. -/
structure OnAirBoard (K : Type) where
  loops : RunLoops K
  onAir : Option StatePacketType
  due : Bool

/-- The publishing section of a running board reaches the end of the publish period. -/
def RunLoops.publishInstant {K : Type} (s : RunLoops K) : BoardEvent → Bool
  | .network _ _ =>
    match s.network with
    | .publishing =>
      decide (s.publishEvery ≤ (s.tick + 1) % 2 ^ 32) && s.agent.params.running
    | _ => false
  | _ => false

namespace OnAirBoard

variable {K : Type}

/-- Power-up. -/
def init [Field K] (radio : RadioState) : OnAirBoard K :=
  ⟨.init radio, none, false⟩

/-- From the first publish instant after a disable until the next enable, the packet on air says
that the node is disabled. -/
def DisabledOnAir (s : OnAirBoard K) : Prop :=
  s.due = true → SaysDisabled s.onAir

instance (s : OnAirBoard K) : Decidable s.DisabledOnAir :=
  inferInstanceAs (Decidable (_ → _))

/-- **A publish instant of a disabled board finds on air a packet that was written while the board
was disabled**, or none. -/
def DisabledBefore (s : OnAirBoard K) (x : BoardEvent × ℤ) : Prop :=
  s.loops.publishInstant x.1 = true → s.loops.agent.params.enabled = false → SaysDisabled s.onAir

instance (s : OnAirBoard K) (x : BoardEvent × ℤ) : Decidable (s.DisabledBefore x) :=
  inferInstanceAs (Decidable (_ → _ → _))

section Step

variable [Field K] [LinearOrder K] [IsStrictOrderedRing K] [FloorRing K] (lib : Libm K)

/-- What the radio repeats after an event. The integer is what the advertising call returns, if the
event makes one. -/
def radioAfter (s : OnAirBoard K) (x : BoardEvent × ℤ) : Option StatePacketType :=
  match x.1 with
  | .network uptimeUs _ =>
    match s.loops.network with
    | .teardown => broadcasterStop s.onAir x.2
    | .startup => broadcasterInit s.onAir (onAirPacket s.loops.agent uptimeUs) x.2
    | .publishing =>
      if s.loops.publishInstant x.1 && s.loops.agent.params.enabled then
        broadcasterUpdate s.onAir (onAirPacket (s.loops.step lib x.1).agent uptimeUs) x.2
      else s.onAir
    | _ => s.onAir
  | _ => s.onAir

/-- The next event. An enable takes `due` back. -/
def step (s : OnAirBoard K) (x : BoardEvent × ℤ) : OnAirBoard K where
  loops := s.loops.step lib x.1
  onAir := s.radioAfter lib x
  due := (s.due || s.loops.publishInstant x.1) && !(s.loops.step lib x.1).agent.params.enabled

variable {lib}

omit [IsStrictOrderedRing K] in
/-- A section of the network loop does not enable or disable. -/
theorem networkStep_enabled (s : RunLoops K) (uptimeUs scanErr : ℤ) :
    (s.networkStep uptimeUs scanErr).agent.params.enabled = s.agent.params.enabled := by
  rw [RunLoops.networkStep]
  split
  · rfl
  · dsimp only
    split_ifs
    · rfl
    · rfl
  · rfl
  · rfl
  · split
    · rfl
    · rfl
  · dsimp only
    split_ifs
    · rfl
    · rfl
    · rfl

/-- Between publish instants the radio is handed nothing that says enabled, once a publish instant
has passed in the disabled state. -/
theorem saysDisabled_radioAfter {s : OnAirBoard K} {x : BoardEvent × ℤ}
    (hquiet : (s.loops.publishInstant x.1 && s.loops.agent.params.enabled) = false)
    (hdisabled : s.loops.agent.params.enabled = false) (h : SaysDisabled s.onAir) :
    SaysDisabled (s.radioAfter lib x) := by
  rw [radioAfter]
  split
  case h_1 uptimeUs _ _ =>
    split
    · exact saysDisabled_stop _ h
    · exact saysDisabled_init _ h hdisabled
    · rw [hquiet, if_neg Bool.false_ne_true]
      exact h
    · exact h
  case h_2 => exact h

/-- A publish instant of a disabled board leaves the radio as it is. -/
theorem radioAfter_of_instant {s : OnAirBoard K} {x : BoardEvent × ℤ}
    (hinstant : s.loops.publishInstant x.1 = true)
    (hdisabled : s.loops.agent.params.enabled = false) : s.radioAfter lib x = s.onAir := by
  obtain ⟨ev, err⟩ := x
  cases ev with
  | network uptimeUs scanErr =>
    rw [RunLoops.publishInstant] at hinstant
    split at hinstant
    case h_1 hphase =>
      rw [radioAfter]
      dsimp only
      rw [hphase]
      dsimp only
      rw [hdisabled, Bool.and_false, if_neg Bool.false_ne_true]
    case h_2 => cases hinstant
  | frame e type payload => cases hinstant
  | receive p rssi => cases hinstant
  | dynamics => cases hinstant

/-- A publish instant comes in the network loop, and leaves the board enabled or disabled as it
was. -/
theorem enabled_of_instant {s : RunLoops K} {ev : BoardEvent} (h : s.publishInstant ev = true) :
    (s.step lib ev).agent.params.enabled = s.agent.params.enabled := by
  cases ev with
  | network uptimeUs scanErr => exact networkStep_enabled s uptimeUs scanErr
  | frame e type payload => cases h
  | receive p rssi => cases h
  | dynamics => cases h

/-! ### The exact condition -/

/-- `due` is taken back by the event that enables, whichever it is. -/
theorem due_step (s : OnAirBoard K) (x : BoardEvent × ℤ) (h : (s.step lib x).due = true) :
    (s.step lib x).loops.agent.params.enabled = false := by
  have hoff : (!(s.loops.step lib x.1).agent.params.enabled) = true :=
    ((Bool.and_eq_true _ _).mp h).2
  exact (Bool.not_eq_true' _).mp hoff

/-- One event keeps the board honest exactly when it meets the condition. -/
theorem disabledBefore_iff {s : OnAirBoard K} {x : BoardEvent × ℤ}
    (hdue : s.due = true → s.loops.agent.params.enabled = false) (h : s.DisabledOnAir) :
    s.DisabledBefore x ↔ (s.step lib x).DisabledOnAir := by
  by_cases hinstant :
      s.loops.publishInstant x.1 = true ∧ s.loops.agent.params.enabled = false
  · obtain ⟨hnow, hdisabled⟩ := hinstant
    have hafter : (s.step lib x).due = true := by
      rw [step, hnow, enabled_of_instant hnow, hdisabled]
      simp
    rw [DisabledBefore, DisabledOnAir, hafter, hnow, hdisabled, step,
      radioAfter_of_instant hnow hdisabled]
    simp
  · -- Nothing is asked of such an event, and it makes nothing worse.
    refine iff_of_true (fun hnow hdisabled ↦ absurd ⟨hnow, hdisabled⟩ hinstant) fun hafter ↦ ?_
    rw [step] at hafter
    simp only [Bool.and_eq_true, Bool.or_eq_true, Bool.not_eq_true'] at hafter
    obtain ⟨hbefore, hdisabled⟩ := hafter
    have hnot : s.loops.publishInstant x.1 = false := by
      rw [Bool.eq_false_iff]
      intro hnow
      exact hinstant ⟨hnow, (enabled_of_instant hnow).symm.trans hdisabled⟩
    have hwas : s.due = true := hbefore.resolve_right (by simp [hnot])
    exact saysDisabled_radioAfter (by rw [hnot, Bool.false_and]) (hdue hwas) (h hwas)

/-- **A disabled board says so on air** through a whole history if and only if every publish instant
that finds it disabled finds on air what was written in the disabled state. -/
theorem says_disabled_iff (lib : Libm K) (radio : RadioState) (events : List (BoardEvent × ℤ)) :
    (∀ n, (run (OnAirBoard.step lib) (.init radio) (events.take n)).DisabledOnAir) ↔
      Guarded (OnAirBoard.step lib) DisabledBefore (.init radio) events := by
  have hexact : Guarded (OnAirBoard.step lib) DisabledBefore (.init radio) events ↔ _ :=
    guarded_iff_forall_take (J := fun _ s ↦ s.due = true → s.loops.agent.params.enabled = false)
      (fun _ s x _ ↦ due_step s x) (fun _ _ _ hs h ↦ disabledBefore_iff hs h)
      (fun h ↦ (by cases h)) fun h ↦ (by cases h)
  exact hexact.symm

end Step

end OnAirBoard

end VertexTestbed.Firmware
