import VertexTestbed.Host.Link
import VertexTestbed.Host.LocalCommands

/-!
# Commands that fail

`_configure`, `_start` and `_stop` of `agent/service.py` with everything in them that can raise, for
a relay; `LocalCommands` has them for an agent that computes its law. A command comes with how its
steps go. The state keeps what the commands leave behind: the stored assignment, the assignment of
the relay, what the board holds, and which of log and board are up.

After a command the stored assignment and the agent or relay should be a matching pair, and a start
that fails should leave nothing up. `commands_consistent_iff` says which steps must not fail for
that, in both kinds of service.
-/

namespace VertexTestbed.Host

open Runs

/-! ### What a board holds -/

/-- The configuration frames that a board has taken, the last of each type. -/
abbrev BoardMemory := FrameType → Option Bytes

/-- The types of `microgrid_frames`. -/
def microgridTypes : List FrameType := [.mgPlant, .mgVirtual, .mgIface]

/-- The board takes a frame. NETWORK drops the microgrid blocks that it holds. -/
def BoardMemory.take (m : BoardMemory) (f : OutFrame) : BoardMemory := fun t ↦
  if t = f.1 then some f.2 else if f.1 = .network ∧ t ∈ microgridTypes then none else m t

/-- The board takes frames, one after the other. -/
def BoardMemory.takeAll (m : BoardMemory) (fs : List OutFrame) : BoardMemory :=
  fs.foldl take m

/-- The board is configured by the frames: it holds each of them, and no microgrid block beside. -/
structure BoardMemory.Holds (m : BoardMemory) (fs : List OutFrame) : Prop where
  frames : ∀ f ∈ fs, m f.1 = some f.2
  blocks : ∀ t ∈ microgridTypes, t ∉ fs.map Prod.fst → m t = none

/-- Frames in the order of a configure: NETWORK first, and no type twice. -/
structure NetworkFirst (fs : List OutFrame) : Prop where
  first : ∃ network rest, fs = (.network, network) :: rest
  nodup : (fs.map Prod.fst).Nodup

/-- How an assignment is put into frames, its radio block included: `none` where that raises. -/
structure RelayFrames (A : Type) where
  frames : A → Option (List OutFrame)
  ordered : ∀ {a fs}, frames a = some fs → NetworkFirst fs

/-- Frames that change nothing for a board that holds others: of a type that those have too they are
the same, and NETWORK comes with the microgrid blocks that those have. -/
structure NoNews (sent held : List OutFrame) : Prop where
  same : ∀ f ∈ sent, ∀ g ∈ held, f.1 = g.1 → f = g
  blocks : sent ≠ [] → ∀ t ∈ microgridTypes, t ∈ sent.map Prod.fst ↔ t ∈ held.map Prod.fst

/-- A type of some frames is that of one of them. -/
theorem exists_frame_of_mem {fs : List OutFrame} {t : FrameType} (h : t ∈ fs.map Prod.fst) :
    ∃ f ∈ fs, f.1 = t :=
  List.mem_map.mp h

/-- What has been sent of a configure that stopped is nothing, or in the same order. -/
theorem NetworkFirst.take {fs : List OutFrame} (h : NetworkFirst fs) (n : ℕ) :
    fs.take n = [] ∨ NetworkFirst (fs.take n) := by
  obtain ⟨network, rest, rfl⟩ := h.first
  cases n with
  | zero => exact .inl rfl
  | succ n =>
    refine .inr ⟨⟨network, rest.take n, rfl⟩, ?_⟩
    rw [List.map_take]
    exact h.nodup.sublist (List.take_sublist _ _)

namespace BoardMemory

/-- Frames of other types leave a type as it was, if NETWORK is not among them. -/
theorem takeAll_of_not_mem {fs : List OutFrame} {t : FrameType} (m : BoardMemory)
    (hnetwork : .network ∉ fs.map Prod.fst) (ht : t ∉ fs.map Prod.fst) : m.takeAll fs t = m t := by
  induction fs generalizing m with
  | nil => rfl
  | cons f fs ih =>
    rw [List.map_cons, List.mem_cons, not_or] at hnetwork ht
    show takeAll (m.take f) fs t = m t
    rw [ih (m.take f) hnetwork.2 ht.2, take, if_neg ht.1, if_neg fun h ↦ hnetwork.1 h.1.symm]

/-- Of frames without NETWORK that are of different types each is held at the end. -/
theorem takeAll_of_mem {fs : List OutFrame} {f : OutFrame} (m : BoardMemory)
    (hnetwork : .network ∉ fs.map Prod.fst) (hnodup : (fs.map Prod.fst).Nodup) (hf : f ∈ fs) :
    m.takeAll fs f.1 = some f.2 := by
  induction fs generalizing m with
  | nil => exact absurd hf List.not_mem_nil
  | cons g fs ih =>
    rw [List.map_cons, List.nodup_cons] at hnodup
    rw [List.map_cons, List.mem_cons, not_or] at hnetwork
    show takeAll (m.take g) fs f.1 = some f.2
    obtain rfl | hmem := List.mem_cons.mp hf
    · rw [takeAll_of_not_mem _ hnetwork.2 hnodup.1, take, if_pos rfl]
    · exact ih (m.take g) hnetwork.2 hnodup.2 hmem

/-- Each frame of a configure is held at its end. -/
theorem takeAll_held {fs : List OutFrame} (h : NetworkFirst fs) (m : BoardMemory) {f : OutFrame}
    (hf : f ∈ fs) : m.takeAll fs f.1 = some f.2 := by
  obtain ⟨network, rest, rfl⟩ := h.first
  have hnodup := h.nodup
  rw [List.map_cons, List.nodup_cons] at hnodup
  show takeAll (m.take (.network, network)) rest f.1 = some f.2
  obtain rfl | hmem := List.mem_cons.mp hf
  · rw [takeAll_of_not_mem _ hnodup.1 hnodup.1, take, if_pos rfl]
  · exact takeAll_of_mem _ hnodup.1 hnodup.2 hmem

/-- Of types that it has no frame of, a configure drops the microgrid blocks and leaves the rest. -/
theorem takeAll_other {fs : List OutFrame} (h : NetworkFirst fs) (m : BoardMemory) {t : FrameType}
    (ht : t ∉ fs.map Prod.fst) :
    m.takeAll fs t = if t ∈ microgridTypes then none else m t := by
  obtain ⟨network, rest, rfl⟩ := h.first
  have hnodup := h.nodup
  rw [List.map_cons, List.nodup_cons] at hnodup
  rw [List.map_cons, List.mem_cons, not_or] at ht
  show takeAll (m.take (.network, network)) rest t = _
  rw [takeAll_of_not_mem _ hnodup.1 ht.2, take, if_neg ht.1]
  simp only [true_and]

/-- **A configure that goes through leaves the board configured by its frames.** -/
theorem holds_takeAll {fs : List OutFrame} (h : NetworkFirst fs) (m : BoardMemory) :
    (m.takeAll fs).Holds fs where
  frames _ hf := takeAll_held h m hf
  blocks t ht hnot := by rw [takeAll_other h m hnot, if_pos ht]

/-- **A board keeps what it is configured by exactly if the frames it takes are no news.** -/
theorem holds_takeAll_iff {m : BoardMemory} {sent held : List OutFrame} (hm : m.Holds held)
    (hsent : sent = [] ∨ NetworkFirst sent) :
    (m.takeAll sent).Holds held ↔ NoNews sent held := by
  obtain rfl | hsent := hsent
  · exact iff_of_true hm ⟨fun f hf ↦ absurd hf List.not_mem_nil, fun hne ↦ absurd rfl hne⟩
  constructor
  · intro hafter
    refine ⟨fun f hf g hg htype ↦ ?_, fun _ t ht ↦ ⟨fun hmem ↦ ?_, fun hmem ↦ ?_⟩⟩
    · have hsame : some f.2 = some g.2 := by
        rw [← takeAll_held hsent m hf, htype, hafter.frames g hg]
      exact Prod.ext htype (Option.some.inj hsame)
    · by_contra hnot
      obtain ⟨f, hf, rfl⟩ := exists_frame_of_mem hmem
      -- NETWORK drops the microgrid blocks, so those sent behind it are all that the board has.
      have hdropped := hafter.blocks f.1 ht hnot
      rw [takeAll_held hsent m hf] at hdropped
      cases hdropped
    · by_contra hnot
      obtain ⟨g, hg, rfl⟩ := exists_frame_of_mem hmem
      have hkept := hafter.frames g hg
      rw [takeAll_other hsent m hnot, if_pos ht] at hkept
      cases hkept
  · intro hnews
    have hblocks := hnews.blocks fun hnil ↦ by
      obtain ⟨network, rest, hfirst⟩ := hsent.first
      cases hnil.symm.trans hfirst
    refine ⟨fun g hg ↦ ?_, fun t ht hnot ↦ ?_⟩
    · by_cases hmem : g.1 ∈ sent.map Prod.fst
      · obtain ⟨f, hf, htype⟩ := exists_frame_of_mem hmem
        rw [← hnews.same f hf g hg htype]
        exact takeAll_held hsent m hf
      · have hother : g.1 ∉ microgridTypes := fun ht ↦
          hmem ((hblocks g.1 ht).mpr (List.mem_map_of_mem hg))
        rw [takeAll_other hsent m hmem, if_neg hother]
        exact hm.frames g hg
    · rw [takeAll_other hsent m fun hmem ↦ hnot ((hblocks t ht).mp hmem), if_pos ht]

end BoardMemory

/-! ### The service and its commands -/

/-- How the steps of a relay's `configure` go: whether the assignment is valid and for a node of
this type, whether what comes before the first frame goes through (link, relay and frames), how many
frames are acknowledged, and whether the board took the one that was not. -/
structure RelaySteps where
  valid : Bool
  made : Bool
  acked : ℕ
  lastTaken : Bool

/-- The frames that the board takes of a configure. -/
def RelaySteps.taken (x : RelaySteps) (fs : List OutFrame) : List OutFrame :=
  if fs.length ≤ x.acked then fs else fs.take (x.acked + if x.lastTaken then 1 else 0)

/-- A command. -/
inductive RelayCommand (A : Type) where
  | configure (a : A) (x : RelaySteps)
  | start (x : StartSteps)
  | stop (x : StopSteps)

/-- `AgentService` of a relay, as far as its commands can leave it inconsistent. -/
structure RelayService (A : Type) where
  assignment : Option A
  /-- The relay, by its own assignment. -/
  relay : Option A
  memory : BoardMemory
  running : Bool
  /-- The run log has been opened and not finalized. -/
  logOpen : Bool
  /-- A run log that has been replaced is open. -/
  replacedOpen : Bool
  boardRunning : Bool
  /-- The last command was a start, and it raised. -/
  startFailed : Bool

namespace RelayService

variable {A : Type} (codec : RelayFrames A)

/-- Launched. -/
def init : RelayService A :=
  ⟨none, none, fun _ ↦ none, false, false, false, false, false⟩

/-- `_configure` of a valid assignment. A running relay stores the assignment behind the frames, an
idle one ahead of them. -/
def configure (s : RelayService A) (a : A) (x : RelaySteps) : RelayService A :=
  let stored := if s.running ∧ s.relay.isSome then s.assignment else some a
  match if x.made then codec.frames a else none with
  | some fs =>
    if fs.length ≤ x.acked then
      { s with assignment := some a, relay := some a, memory := s.memory.takeAll fs }
    else { s with assignment := stored, memory := s.memory.takeAll (x.taken fs) }
  | none => { s with assignment := stored }

/-- There is something to start. -/
def ready (s : RelayService A) : Bool :=
  s.assignment.isSome && s.relay.isSome

/-- `_start`: the log is opened before the trigger is sent, and stays open if that raises. -/
def start (s : RelayService A) (x : StartSteps) : RelayService A :=
  if ¬s.ready ∨ s.running ∨ ¬x.opened then { s with startFailed := true }
  else if x.begun then
    { s with
      running := true
      logOpen := true
      replacedOpen := s.replacedOpen || s.logOpen
      boardRunning := true
      startFailed := false }
  else
    { s with
      logOpen := true
      replacedOpen := s.replacedOpen || s.logOpen
      boardRunning := s.boardRunning || x.left
      startFailed := true }

/-- `_stop`: what `relay.stop()` raises is dropped, what the log raises is not. -/
def stop (s : RelayService A) (x : StopSteps) : RelayService A :=
  if s.running then
    { s with
      running := !x.finalized
      logOpen := s.logOpen && !x.finalized
      boardRunning := s.boardRunning && !x.closed
      startFailed := false }
  else { s with startFailed := false }

/-- The next command. -/
def step (s : RelayService A) : RelayCommand A → RelayService A
  | .configure a x =>
    { (if x.valid then s.configure codec a x else s) with startFailed := false }
  | .start x => s.start x
  | .stop x => s.stop x

/-! ### What is asked -/

/-- Nothing is up. -/
structure Quiet (s : RelayService A) : Prop where
  log : s.logOpen = false
  replaced : s.replacedOpen = false
  board : s.boardRunning = false

/-- The board holds the frames of an assignment. -/
def BoardHas (m : BoardMemory) (a : A) : Prop :=
  ∃ fs, codec.frames a = some fs ∧ m.Holds fs

/-- The relay is that of the stored assignment, and the board is configured by it. -/
def Matching (s : RelayService A) : Prop :=
  ∀ a ∈ s.assignment, ∀ r ∈ s.relay, r = a ∧ BoardHas codec s.memory a

/-- **The service is consistent**: the relay and the board match the stored assignment, and a start
that failed, of no run in progress, has left nothing up. -/
structure Consistent (s : RelayService A) : Prop where
  matching : s.Matching codec
  failed : s.startFailed = true → s.running = false → s.Quiet

/-- A `configure` goes through, or there is no relay yet, or the frames that the board took are no
news after those of the assignment that the relay has, and a relay that is idle was asked for no
other. -/
def ConfigureHolds (s : RelayService A) (a : A) (x : RelaySteps) : Prop :=
  ∀ r ∈ s.relay,
    match if x.made then codec.frames a else none with
    | some fs =>
      x.acked < fs.length →
        (s.running = false → r = a) ∧ ∀ held ∈ codec.frames r, NoNews (x.taken fs) held
    | none => s.running = false → r = a

/-- A `start` that fails does so with the log unopened and nothing up before, or because of a run in
progress. -/
def StartHolds (s : RelayService A) (x : StartSteps) : Prop :=
  s.running = true ∨ (s.ready = true ∧ x.opened = true ∧ x.begun = true) ∨
    ((s.ready = false ∨ x.opened = false) ∧ s.Quiet)

/-- **The steps of a command that may not fail do not.** -/
def StepsHold (s : RelayService A) : RelayCommand A → Prop
  | .configure a x => x.valid = true → s.ConfigureHolds codec a x
  | .start x => s.StartHolds x
  | .stop _ => True

/-! ### One command -/

variable {codec} {s : RelayService A}

/-- A relay has an assignment beside it. -/
def Stored (s : RelayService A) : Prop :=
  s.relay.isSome = true → s.assignment.isSome = true

theorem Stored.step (h : s.Stored) (cmd : RelayCommand A) : (s.step codec cmd).Stored := by
  cases cmd with
  | configure a x =>
    show Stored { (if x.valid then s.configure codec a x else s) with startFailed := false }
    split_ifs
    · rw [configure]
      split
      · split_ifs
        · exact fun _ ↦ rfl
        · exact h
        · exact fun _ ↦ rfl
      · split_ifs
        · exact h
        · exact fun _ ↦ rfl
    · exact h
  | start x =>
    rw [RelayService.step, start]
    split_ifs
    all_goals exact h
  | stop x =>
    rw [RelayService.step, stop]
    split_ifs
    all_goals exact h

/-- What a board has been sent of a configure that stopped is nothing, or starts with NETWORK. -/
theorem taken_ordered {fs : List OutFrame} (h : NetworkFirst fs) (x : RelaySteps) :
    x.taken fs = [] ∨ NetworkFirst (x.taken fs) := by
  rw [RelaySteps.taken]
  split_ifs
  · exact .inr h
  · exact h.take _
  · exact h.take _

/-- **A configure.** -/
theorem matching_configure_iff (hs : s.Stored) (h : s.Matching codec) (a : A) (x : RelaySteps) :
    s.ConfigureHolds codec a x ↔ (s.configure codec a x).Matching codec := by
  have hconfigured : ∀ fs, codec.frames a = some fs →
      ({ s with assignment := some a, relay := some a, memory := s.memory.takeAll fs } :
        RelayService A).Matching codec := by
    intro fs hfs a' ha' r hr
    cases ha'
    cases hr
    exact ⟨rfl, fs, hfs, BoardMemory.holds_takeAll (codec.ordered hfs) _⟩
  have hframes : ∀ {fs}, (if x.made then codec.frames a else none) = some fs →
      codec.frames a = some fs := by
    intro fs hfs
    cases hmade : x.made with
    | false => cases (if_neg (hmade ▸ Bool.false_ne_true)).symm.trans hfs
    | true => exact (if_pos hmade).symm.trans hfs
  rw [ConfigureHolds, configure]
  rcases hrelay : s.relay with _ | r
  · -- there is no relay yet, and whatever is stored has nothing to match
    have hnone : ∀ s' : RelayService A, s'.relay = none → s'.Matching codec := by
      intro s' hnone a' _ r hr
      rw [hnone] at hr
      cases hr
    refine iff_of_true (fun r hr ↦ (by cases hr)) ?_
    rcases hfs : if x.made then codec.frames a else none with _ | fs
    · exact hnone _ rfl
    · dsimp only
      split_ifs
      · exact hconfigured fs (hframes hfs)
      all_goals exact hnone _ rfl
  obtain ⟨a₀, hstored⟩ := Option.isSome_iff_exists.mp (hs (by rw [hrelay]; rfl))
  obtain ⟨rfl, held, hheld, hmemory⟩ := h a₀ hstored r hrelay
  -- What is stored behind a failure is what the relay has, if it runs, and what was asked for else.
  have hfailed : ∀ m : BoardMemory, ((s.running = false → r = a) ∧ BoardHas codec m r) ↔
      ({ s with
        assignment := if s.running ∧ (some r).isSome then s.assignment else some a
        relay := some r
        memory := m } : RelayService A).Matching codec := by
    intro m
    cases hrunning : s.running with
    | true =>
      have hkept : (if true = true ∧ (some r).isSome = true then s.assignment else some a) =
          some r :=
        (if_pos ⟨rfl, rfl⟩).trans hstored
      rw [hkept]
      constructor
      · rintro hhas a' ha' r' hr'
        cases ha'
        cases hr'
        exact ⟨rfl, hhas.2⟩
      · exact fun hafter ↦ ⟨fun hidle ↦ (by cases hidle), (hafter r rfl r rfl).2⟩
    | false =>
      have hasked : (if false = true ∧ (some r).isSome = true then s.assignment else some a) =
          some a :=
        if_neg fun hlive ↦ Bool.false_ne_true hlive.1
      rw [hasked]
      constructor
      · rintro ⟨hsame, hhas⟩ a' ha' r' hr'
        cases hsame rfl
        cases ha'
        cases hr'
        exact ⟨rfl, hhas⟩
      · intro hafter
        obtain ⟨rfl, hhas⟩ := hafter a rfl r rfl
        exact ⟨fun _ ↦ rfl, hhas⟩
  rcases hfs : if x.made then codec.frames a else none with _ | fs
  · show (∀ r' ∈ some r, s.running = false → r' = a) ↔ _
    rw [← hfailed s.memory]
    exact ⟨fun hsame ↦ ⟨hsame r rfl, held, hheld, hmemory⟩,
      fun hafter r' hr' ↦ Option.some.inj hr' ▸ hafter.1⟩
  · have hnews : (∀ held' ∈ codec.frames r, NoNews (x.taken fs) held') ↔
        BoardHas codec (s.memory.takeAll (x.taken fs)) r := by
      have hordered := taken_ordered (codec.ordered (hframes hfs)) x
      rw [hheld]
      constructor
      · intro hall
        exact ⟨held, hheld, (BoardMemory.holds_takeAll_iff hmemory hordered).mpr (hall held rfl)⟩
      · rintro ⟨held', hheld', hafter⟩ _ hmem
        cases hmem
        cases hheld.symm.trans hheld'
        exact (BoardMemory.holds_takeAll_iff hmemory hordered).mp hafter
    show (∀ r' ∈ some r, _) ↔ RelayService.Matching codec (if _ then _ else _)
    by_cases hacked : fs.length ≤ x.acked
    · rw [if_pos hacked]
      exact iff_of_true (fun _ _ hfailed ↦ absurd hacked (not_le_of_gt hfailed))
        (hconfigured fs (hframes hfs))
    · rw [if_neg hacked, ← hfailed, ← hnews]
      constructor
      · exact fun hholds ↦ hholds r rfl (not_le.mp hacked)
      · intro hafter r' hr' _
        cases hr'
        exact hafter

/-- **A start.** -/
theorem startHolds_iff (h : s.Consistent codec) (x : StartSteps) :
    s.StartHolds x ↔ (s.step codec (.start x)).Consistent codec := by
  rw [step, start, StartHolds]
  by_cases hrefused : ¬s.ready = true ∨ s.running = true ∨ ¬x.opened = true
  · -- Nothing has been done, and the question is what was up before.
    rw [if_pos hrefused]
    constructor
    · rintro (hrunning | ⟨hready, hopened, -⟩ | ⟨-, hquiet⟩)
      · exact ⟨h.matching, fun _ hidle ↦ absurd (hrunning.symm.trans hidle) (by decide)⟩
      · obtain hnot | hrunning | hnot := hrefused
        · exact absurd hready hnot
        · exact ⟨h.matching, fun _ hidle ↦ absurd (hrunning.symm.trans hidle) (by decide)⟩
        · exact absurd hopened hnot
      · exact ⟨h.matching, fun _ _ ↦ ⟨hquiet.log, hquiet.replaced, hquiet.board⟩⟩
    · intro hafter
      cases hrunning : s.running with
      | true => exact .inl rfl
      | false =>
        have hquiet := hafter.failed rfl hrunning
        refine .inr (.inr ⟨?_, hquiet.log, hquiet.replaced, hquiet.board⟩)
        obtain hnot | hyes | hnot := hrefused
        · exact .inl ((Bool.not_eq_true _).mp hnot)
        · exact absurd (hyes.symm.trans hrunning) (by decide)
        · exact .inr ((Bool.not_eq_true _).mp hnot)
  · rw [if_neg hrefused]
    push Not at hrefused
    obtain ⟨hready, hidle, hopened⟩ := hrefused
    cases hbegun : x.begun with
    | true =>
      refine iff_of_true (.inr (.inl ⟨hready, hopened, rfl⟩)) ?_
      exact ⟨h.matching, fun hfailed ↦ (by cases hfailed)⟩
    | false =>
      refine iff_of_false ?_ fun hafter ↦ ?_
      · -- The start raised behind its log.
        rintro (hrunning | ⟨-, -, hnot⟩ | ⟨hnot | hnot, -⟩)
        · exact hidle hrunning
        · cases hnot
        · exact absurd (hready.symm.trans hnot) (by decide)
        · exact absurd (hopened.symm.trans hnot) (by decide)
      · -- the log has been opened
        have hquiet := hafter.failed rfl ((Bool.not_eq_true _).mp hidle)
        cases hquiet.log

/-- A stop changes no more than what is up. -/
theorem consistent_stop (h : s.Consistent codec) (x : StopSteps) :
    (s.step codec (.stop x)).Consistent codec := by
  rw [step, stop]
  split_ifs
  all_goals exact ⟨h.matching, fun hfailed ↦ (by cases hfailed)⟩

/-- **One command leaves a consistent service consistent exactly if its steps hold.** -/
theorem stepsHold_iff (hs : s.Stored) (h : s.Consistent codec) (cmd : RelayCommand A) :
    s.StepsHold codec cmd ↔ (s.step codec cmd).Consistent codec := by
  cases cmd with
  | configure a x =>
    show (x.valid = true → s.ConfigureHolds codec a x) ↔
      Consistent codec { (if x.valid then s.configure codec a x else s) with startFailed := false }
    cases x.valid with
    | false =>
      exact iff_of_true (fun hnot ↦ (by cases hnot)) ⟨h.matching, fun hfailed ↦ (by cases hfailed)⟩
    | true =>
      rw [if_pos rfl, matching_configure_iff hs h.matching]
      exact ⟨fun hmatching ↦ ⟨hmatching rfl, fun hfailed ↦ (by cases hfailed)⟩,
        fun hafter _ ↦ hafter.matching⟩
  | start x => exact startHolds_iff h x
  | stop x => exact iff_of_true trivial (consistent_stop h x)

/-! ### Every sequence of commands -/

theorem consistent_init : (init : RelayService A).Consistent codec :=
  ⟨fun _ ha ↦ (by cases ha), fun hfailed ↦ (by cases hfailed)⟩

/-- **After each of a sequence of commands a relay's service is consistent exactly if, in each of
them, the steps hold that must.** -/
theorem relay_consistent_iff (codec : RelayFrames A) (commands : List (RelayCommand A)) :
    Guarded (step codec) (StepsHold codec) init commands ↔
      ∀ n, (run (step codec) init (commands.take n)).Consistent codec :=
  guarded_iff_forall_take (J := fun _ ↦ Stored) (fun _ _ cmd h ↦ h.step cmd)
    (fun _ _ cmd hs h ↦ stepsHold_iff hs h cmd) (fun hrelay ↦ (by cases hrelay)) consistent_init

end RelayService

/-- **After each of a sequence of commands the service is consistent exactly if, in each of them,
the steps hold that must**, for every controller class and every way to put an assignment into
frames: a live configure asks for what it does not renew as the agent has it, an agent that cannot
be built has none before it, a board takes all the frames of a configure or none that is new to it,
and a start that opens its log goes through. The computing agent of the commands is the
`HostService` of the events that they are to it. -/
theorem commands_consistent_iff {ι K A C S R B : Type} [DecidableEq ι] [Field K] [LinearOrder K]
    [FloorRing K] (kind : TunableKind A C S R) (codec : RelayFrames B) :
    (∀ commands : List (LocalCommand ι K A),
      Guarded (LocalService.step kind) (LocalService.StepsHold kind) .init commands ↔
        ∀ n, (run (LocalService.step kind) .init (commands.take n)).Consistent kind) ∧
      (∀ commands : List (LocalCommand ι K A),
        (run (LocalService.step kind) .init commands).host =
          run (HostService.step kind.toControllerKind) .init
            (commands.filterMap LocalCommand.event)) ∧
      ∀ commands : List (RelayCommand B),
        Guarded (RelayService.step codec) (RelayService.StepsHold codec) .init commands ↔
          ∀ n, (run (RelayService.step codec) .init (commands.take n)).Consistent codec :=
  ⟨LocalService.local_consistent_iff kind, LocalService.host_run kind .init,
    RelayService.relay_consistent_iff codec⟩

/-! ### The frames of an assignment -/

section Frames

variable {K : Type} [Field K] [LinearOrder K] [FloorRing K]

/-- The frame types of a configure, with a microgrid block and a radio block or not. -/
def configureTypes (microgrid radio : Bool) : List FrameType :=
  [.network, .algorithm, .disturbance] ++ (if microgrid then microgridTypes else []) ++
    if radio then [.radio] else []

theorem nodup_configureTypes : ∀ microgrid radio, (configureTypes microgrid radio).Nodup := by
  decide

/-- The microgrid part of a configure is the three blocks, or nothing. -/
theorem microgridPart_types {a : AgentAssignment K} {fs : List OutFrame}
    (h : microgridPart a = .ok fs) : fs.map Prod.fst = [] ∨ fs.map Prod.fst = microgridTypes := by
  unfold microgridPart at h
  rcases hm : a.microgrid with _ | m
  · rw [hm] at h
    cases h
    exact .inl rfl
  · rw [hm] at h
    obtain ⟨plant, virt, iface, -, -, -, rfl⟩ := microgridFrames_eq_ok h
    exact .inr rfl

/-- The types of what `BleRelay.configure` sends. -/
theorem types_configureFrames {a : AgentAssignment K} {frames : List OutFrame}
    (h : assignmentToFrames a none 0 = .ok frames) (radio : Option Bytes) :
    ∃ block, (configureFrames frames radio).map Prod.fst = configureTypes block radio.isSome := by
  obtain ⟨network, algorithm, disturbance, microgrid, control,
    -, -, -, hmicrogrid, hcontrol, rfl⟩ := assignmentToFrames_eq_ok h
  cases hcontrol
  rw [configureFrames, List.map_append, List.map_append, List.map_append]
  obtain hblock | hblock := microgridPart_types hmicrogrid
  · rw [hblock]
    cases radio with
    | none => exact ⟨false, rfl⟩
    | some payload => exact ⟨false, rfl⟩
  · rw [hblock]
    cases radio with
    | none => exact ⟨true, rfl⟩
    | some payload => exact ⟨true, rfl⟩

/-- What `BleRelay.configure` sends is in the order that a board relies on. -/
theorem networkFirst_configureFrames {a : AgentAssignment K} {frames : List OutFrame}
    (h : assignmentToFrames a none 0 = .ok frames) (radio : Option Bytes) :
    NetworkFirst (configureFrames frames radio) := by
  constructor
  · obtain ⟨network, _, _, _, _, -, -, -, -, -, rfl⟩ := assignmentToFrames_eq_ok h
    exact ⟨network, _, rfl⟩
  · obtain ⟨block, htypes⟩ := types_configureFrames h radio
    rw [htypes]
    exact nodup_configureTypes block radio.isSome

/-- The frames of an assignment, with the payload of the radio block that is in force. -/
def relayFrames : RelayFrames (AgentAssignment K × Option Bytes) where
  frames a :=
    match assignmentToFrames a.1 none 0 with
    | .ok frames => some (configureFrames frames a.2)
    | .error _ => none
  ordered {a fs} h := by
    rcases hframes : assignmentToFrames a.1 none 0 with e | frames
    · rw [hframes] at h
      cases h
    · rw [hframes] at h
      cases h
      exact networkFirst_configureFrames hframes a.2

end Frames

/-! ### Four commands that fail -/

/-- An agent with one neighbour. -/
def oneNeighbour : HostAssignment ℕ ℚ (ControllerParams ℚ × Unit) where
  toAgentConfig := sampleHostAssignment.toAgentConfig
  controller := (sampleHostAssignment.controller, ())

/-- The same agent with other neighbours. -/
def relinked (ids : List ℕ) : HostAssignment ℕ ℚ (ControllerParams ℚ × Unit) :=
  { oneNeighbour with neighbor_ids := ids }

/-- The commands so far to an agent of the microgrid family. -/
def localRun (commands : List (LocalCommand ℕ ℚ (ControllerParams ℚ × Unit))) :
    LocalService ℕ ℚ (ControllerParams ℚ × Unit) (MicrogridController ℚ) Unit :=
  run (LocalService.step (microgridTunable .atZero Unit)) .init commands

/-- A second assignment that no agent can be built from. -/
def unbuiltAgent : LocalService ℕ ℚ (ControllerParams ℚ × Unit) (MicrogridController ℚ) Unit :=
  localRun [.configure oneNeighbour ⟨true, true⟩, .configure (relinked [2]) ⟨true, false⟩]

/-- A second neighbour in the middle of a run. -/
def relinkedAgent : LocalService ℕ ℚ (ControllerParams ℚ × Unit) (MicrogridController ℚ) Unit :=
  localRun
    [.configure oneNeighbour ⟨true, true⟩, .start 0 ⟨true, true, false⟩, .tick 1 1,
      .configure (relinked [1, 2]) ⟨true, true⟩]

/-- A start whose transport fails. -/
def failedStart : LocalService ℕ ℚ (ControllerParams ℚ × Unit) (MicrogridController ℚ) Unit :=
  localRun [.configure oneNeighbour ⟨true, true⟩, .start 0 ⟨true, false, false⟩]

/-- A scalar node with no neighbours. -/
def scalarNode (dt_s : ℚ) : AgentAssignment ℚ × Option Bytes where
  fst :=
    { node_id := 1
      enabled := true
      neighbors := []
      dt_s := dt_s
      publish_period_s := 1
      state := 0
      vstate := 0
      vartheta := 0
      eta := 0
      gain_ij := 0
      alpha := 1
      delta := 0
      disturbance := ⟨none, none, none, none, none, none, none, none⟩
      disturbance_seed := 0
      microgrid := none }
  snd := none

/-- A second assignment of which the board answers the first frame only. -/
def refusedRelay : RelayService (AgentAssignment ℚ × Option Bytes) :=
  run (RelayService.step relayFrames) .init
    [.configure (scalarNode 1) ⟨true, true, 3, true⟩,
      .configure (scalarNode 2) ⟨true, true, 1, true⟩]

/-- An agent whose table has other neighbours than its assignment does not match. -/
theorem not_consistent_of_neighbors
    {s : LocalService ℕ ℚ (ControllerParams ℚ × Unit) (MicrogridController ℚ) Unit}
    (ids ids' : List ℕ) (hagent : (s.host.agent.map fun g ↦ g.neighbors.neighbor_ids) = some ids)
    (hstored : (s.host.assignment.map fun a ↦ a.neighbor_ids) = some ids') (hne : ids ≠ ids') :
    ¬s.Consistent (microgridTunable .atZero Unit) := by
  intro h
  obtain ⟨g, hg, rfl⟩ := Option.map_eq_some_iff.mp hagent
  obtain ⟨a, ha, rfl⟩ := Option.map_eq_some_iff.mp hstored
  exact hne (h.matching.neighbor_ids ha hg)

/-- **Commands that fail leave the service inconsistent**: an agent that cannot be built leaves the
old one under the new assignment, a live configure leaves the neighbours of the assignment before, a
board that answers only the first frame is left between the two, and a transport that does not start
leaves a log open. -/
theorem failed_commands_inconsistent :
    ¬unbuiltAgent.Consistent (microgridTunable .atZero Unit) ∧
    ¬relinkedAgent.Consistent (microgridTunable .atZero Unit) ∧
    ¬refusedRelay.Consistent relayFrames ∧
    ¬failedStart.Consistent (microgridTunable .atZero Unit) := by
  refine ⟨not_consistent_of_neighbors [1] [2] ?_ ?_ (by decide),
    not_consistent_of_neighbors [1] [1, 2] ?_ ?_ (by decide),
    fun h ↦ ?_, fun h ↦ ?_⟩
  · decide +kernel
  · decide +kernel
  · decide +kernel
  · decide +kernel
  · -- the board has taken NETWORK of the second assignment, and the relay has the first
    have hstored : (refusedRelay.assignment.map fun a ↦ a.1.dt_s) = some 2 := by decide +kernel
    have hrelay : (refusedRelay.relay.map fun a ↦ a.1.dt_s) = some 1 := by decide +kernel
    obtain ⟨a, ha, hadt⟩ := Option.map_eq_some_iff.mp hstored
    obtain ⟨r, hr, hrdt⟩ := Option.map_eq_some_iff.mp hrelay
    obtain ⟨rfl, -⟩ := h.matching a ha r hr
    exact absurd (hadt.symm.trans hrdt) (by decide)
  · have hopen : failedStart.logOpen = true := by decide +kernel
    have hidle : failedStart.startFailed = true ∧ failedStart.host.running = false := by
      decide +kernel
    exact absurd (hopen.symm.trans (h.failed hidle.1 hidle.2).log) (by decide)

end VertexTestbed.Host
