import VertexTestbed.Host.Link
import VertexTestbed.Host.StateReport
import VertexTestbed.Lib.Runs

/-!
# The reader of the serial link

`SerialLink._run`, `pump` and `_dispatch` of `serial/link.py`, and `BleRelay.handle_frame` of
`agent/relay.py`. The reader thread feeds the parser what the port has; a STATE frame is stamped and
handed to the event loop, where the relay that was registered then decodes it and reports it.

A run is any order of reads, of turns of the event loop and of relays that register in each other's
place; what the bytes are, when they come, what the stamps are and whether a request is waiting when
a reply arrives is left open. `Host.Link` has the two threads at the reply slot, one statement at a
time; here a reply is admitted or not.

`reader_accounted`: every frame goes one way, every STATE frame that found a relay registered is
with that relay, on its way there or lost to a closed loop, in order, and each relay has done with
the frames it got what `handle_frame` does.
-/

namespace VertexTestbed.Host

open Runs

/-! ### The relay -/

/-- `TimedFrame`. -/
structure TimedFrame where
  frame : Frame
  rx_time_us : Option ℤ

/-- `BleRelay`, the side of it that reports; `reported` are the calls of `on_report`. -/
structure BleRelay where
  reports : ℕ
  malformed : ℕ
  untimed : ℕ
  last : Option StateReport
  last_rx_time_us : Option ℤ
  reported : List (StateReport × Option ℤ)

namespace BleRelay

/-- As constructed. -/
def new : BleRelay := ⟨0, 0, 0, none, none, []⟩

/-- `handle_frame`. -/
def handle_frame (r : BleRelay) (inbound : TimedFrame) : BleRelay :=
  if inbound.frame.1 ≠ FrameType.value .state then r
  else
    match decodeState inbound.frame.2 with
    | .error _ => { r with malformed := r.malformed + 1 }
    | .ok report =>
      { r with
        reports := r.reports + 1
        untimed := if inbound.rx_time_us.isNone then r.untimed + 1 else r.untimed
        last := some report
        last_rx_time_us := inbound.rx_time_us
        reported := r.reported ++ [(report, inbound.rx_time_us)] }

/-- A relay behind some frames. -/
def handleAll (frames : List TimedFrame) : BleRelay := run handle_frame new frames

/-- What a frame is reported as. -/
def reportOf (inbound : TimedFrame) : Option (StateReport × Option ℤ) :=
  match decodeState inbound.frame.2 with
  | .error _ => none
  | .ok report => some (report, inbound.rx_time_us)

/-- **A relay and its frames**: those that decode are reported, in order, and the others counted. -/
theorem handleAll_spec {frames : List TimedFrame}
    (h : ∀ f ∈ frames, f.frame.1 = FrameType.value .state) :
    let r := handleAll frames
    r.reported = frames.filterMap reportOf ∧ r.reports = r.reported.length ∧
      r.reports + r.malformed = frames.length ∧
      r.untimed = r.reported.countP (·.2.isNone) ∧
      r.last = r.reported.getLast?.map Prod.fst ∧
      r.last_rx_time_us = r.reported.getLast?.bind Prod.snd := by
  induction frames using List.reverseRecOn with
  | nil => exact ⟨rfl, rfl, rfl, rfl, rfl, rfl⟩
  | append_singleton frames f ih =>
    obtain ⟨hreported, hreports, htotal, huntimed, hlast, hstamp⟩ :=
      ih fun g hg ↦ h g (List.mem_append_left _ hg)
    have hstate : ¬f.frame.1 ≠ FrameType.value .state :=
      not_not.2 (h f (List.mem_append_right _ List.mem_cons_self))
    have hstep : handleAll (frames ++ [f]) = (handleAll frames).handle_frame f := run_concat ..
    rw [hstep, handle_frame, if_neg hstate]
    cases hdecode : decodeState f.frame.2 with
    | error text =>
      refine ⟨?_, hreports, ?_, huntimed, hlast, hstamp⟩
      · rw [List.filterMap_append, ← hreported]
        simp [reportOf, hdecode]
      · rw [List.length_append, ← htotal]
        rfl
    | ok report =>
      refine ⟨?_, ?_, ?_, ?_, ?_, ?_⟩
      · rw [List.filterMap_append, ← hreported]
        simp [reportOf, hdecode]
      · rw [List.length_append, ← hreports]
        rfl
      · rw [List.length_append, ← htotal]
        exact Nat.add_right_comm _ _ _
      · rw [List.countP_append, List.countP_singleton, ← huntimed]
        cases f.rx_time_us <;> rfl
      · rw [List.getLast?_concat]
        rfl
      · rw [List.getLast?_concat]
        rfl

end BleRelay

/-! ### The reader -/

/-- The loop that STATE frames are handed to, if there is one. -/
inductive ReaderLoop where
  | absent
  | running
  | closed
  deriving DecidableEq

/-- `SerialLink`, its reader's side, with the relays that have been constructed on it. `log`,
`dispatched`, `heard`, `handled` and `dropped` are the record: what the parser was put through, the
frames it gave, the STATE frames with the relay that was registered, those that a relay has handled,
and those that met a closed loop. -/
structure SerialReader (K : Type) where
  parser : FrameParser
  last_rx : K
  frames_in : ℕ
  states : ℕ
  unsolicited : ℕ
  unknown_frames : ℕ
  read_errors : ℕ
  parse_resets : ℕ
  loop : ReaderLoop
  on_state : Option ℕ
  scheduled : List (ℕ × TimedFrame)
  relays : ℕ → BleRelay
  replies : List Frame
  log : List LinkEvent
  dispatched : List Frame
  heard : List (Option ℕ × TimedFrame)
  handled : List (ℕ × TimedFrame)
  dropped : List (ℕ × TimedFrame)

/-- What happens next. -/
inductive ReaderEvent (K : Type) where
  /-- A read of the port, at a time. -/
  | read (data : Bytes) (now : K)
  | readError
  /-- A relay registers its `handle_frame`. -/
  | register (relay : ℕ)
  /-- The event loop runs the first callback that it was handed. -/
  | turn
  | closeLoop

/-- The bytes that an event brings. -/
def ReaderBytes {K : Type} : ReaderEvent K → Bytes
  | .read data _ => data
  | _ => []

namespace SerialReader

variable {K : Type}

/-- The link when the port is opened, at a time. -/
def init (loop : ReaderLoop) (now : K) : SerialReader K where
  parser := .init
  last_rx := now
  frames_in := 0
  states := 0
  unsolicited := 0
  unknown_frames := 0
  read_errors := 0
  parse_resets := 0
  loop := loop
  on_state := none
  scheduled := []
  relays := fun _ ↦ .new
  replies := []
  log := []
  dispatched := []
  heard := []
  handled := []
  dropped := []

/-- `cb(timed)`. -/
def handle (s : SerialReader K) (relay : ℕ) (timed : TimedFrame) : SerialReader K :=
  { s with
    relays := Function.update s.relays relay ((s.relays relay).handle_frame timed)
    handled := s.handled ++ [(relay, timed)] }

/-- A STATE frame in `_dispatch`. -/
def dispatchState (s : SerialReader K) (timed : TimedFrame) : SerialReader K :=
  let s := { s with states := s.states + 1, heard := s.heard ++ [(s.on_state, timed)] }
  match s.on_state with
  | none => s
  | some relay =>
    match s.loop with
    | .absent => s.handle relay timed
    | .running => { s with scheduled := s.scheduled ++ [(relay, timed)] }
    | .closed => { s with dropped := s.dropped ++ [(relay, timed)] }

variable (stamp : ℕ → Option ℤ) (admits : ℕ → Bool) (idle_timeout_s : K)

/-- `_dispatch`, with the count of the frame. `stamp` is what the link's clock says at a frame, and
`admits` whether a request is waiting with its slot empty. -/
def dispatch (s : SerialReader K) (frame : Frame) : SerialReader K :=
  let k := s.frames_in
  let s := { s with frames_in := s.frames_in + 1, dispatched := s.dispatched ++ [frame] }
  if frame.1 = FrameType.value .state then s.dispatchState ⟨frame, stamp k⟩
  else if frame.1 ∈ replyTypes then
    if admits k then { s with replies := s.replies ++ [frame] }
    else { s with unsolicited := s.unsolicited + 1 }
  else { s with unknown_frames := s.unknown_frames + 1 }

variable [Field K] [LinearOrder K] in
/-- `pump`. -/
def pump (s : SerialReader K) (data : Bytes) (now : K) : SerialReader K :=
  if data ≠ [] then
    let r := feed FrameParser.feedByte s.parser data
    let s := { s with parser := r.1, log := s.log ++ [.chunk data] }
    { r.2.foldl (dispatch stamp admits) s with last_rx := now }
  else if s.parser.inFrame ∧ idle_timeout_s < now - s.last_rx then
    { s with
      parser := s.parser.timeout
      parse_resets := s.parse_resets + 1
      log := s.log ++ [.timeout] }
  else s

/-- A turn of the event loop. -/
def turn (s : SerialReader K) : SerialReader K :=
  match s.loop, s.scheduled with
  | .running, (relay, timed) :: rest => { s with scheduled := rest }.handle relay timed
  | _, _ => s

variable [Field K] [LinearOrder K] in
/-- The next step. -/
def step (s : SerialReader K) : ReaderEvent K → SerialReader K
  | .read data now => s.pump stamp admits idle_timeout_s data now
  | .readError => { s with read_errors := s.read_errors + 1 }
  | .register relay => { s with on_state := some relay }
  | .turn => s.turn
  | .closeLoop => if s.loop = .running then { s with loop := .closed } else s

/-! ### What every step keeps -/

/-- The STATE frames that found a relay registered, each with that relay. -/
def addressed (s : SerialReader K) : List (ℕ × TimedFrame) :=
  s.heard.filterMap fun x ↦ x.1.map fun relay ↦ (relay, x.2)

/-- The frames a relay has handled. -/
def handledBy (s : SerialReader K) (relay : ℕ) : List TimedFrame :=
  (s.handled.filter fun x ↦ x.1 = relay).map Prod.snd

/-- The parser was reset. -/
def isTimeout : LinkEvent → Bool
  | .timeout => true
  | .chunk _ => false

/-- What `_dispatch` keeps. -/
structure Dispatches (s : SerialReader K) : Prop where
  counted : s.frames_in = s.dispatched.length
  sorted : s.frames_in = s.states + s.replies.length + s.unsolicited + s.unknown_frames
  states : s.heard.map (·.2.frame) = s.dispatched.filter fun f ↦ f.1 = FrameType.value .state
  heard : s.states = s.heard.length
  routed : s.addressed = s.handled ++ (s.scheduled ++ s.dropped)
  open_loop : s.loop ≠ .closed → s.dropped = []
  no_loop : s.loop = .absent → s.scheduled = []
  relays : ∀ relay, s.relays relay = .handleAll (s.handledBy relay)

variable (stamp : ℕ → Option ℤ) (admits : ℕ → Bool) in
/-- Which way each frame went, by its type and its count: the STATE frames with their stamps, the
replies that were admitted and those that were not, and the rest. -/
structure Routes (s : SerialReader K) : Prop where
  counted : s.frames_in = s.dispatched.length
  stamped : s.heard.map Prod.snd =
    (s.dispatched.zipIdx.filter fun x ↦ x.1.1 = FrameType.value .state).map
      fun x ↦ ⟨x.1, stamp x.2⟩
  states : s.states = s.dispatched.countP fun f ↦ f.1 = FrameType.value .state
  replies : s.replies =
    (s.dispatched.zipIdx.filter fun x ↦ x.1.1 ∈ replyTypes ∧ admits x.2).map Prod.fst
  unsolicited : s.unsolicited =
    s.dispatched.zipIdx.countP fun x ↦ x.1.1 ∈ replyTypes ∧ admits x.2 = false
  unknown : s.unknown_frames =
    s.dispatched.countP fun f ↦ f.1 ≠ FrameType.value .state ∧ f.1 ∉ replyTypes

/-- **The reader at any time.** -/
structure Inv (s : SerialReader K) : Prop extends s.Dispatches where
  parsed : (s.parser, s.dispatched) = serve FrameParser.feedByte FrameParser.timeout .init s.log
  resets : s.parse_resets = s.log.countP isTimeout

theorem inv_init (loop : ReaderLoop) (now : K) : (init loop now).Inv where
  counted := rfl
  sorted := rfl
  states := rfl
  heard := rfl
  routed := rfl
  open_loop := fun _ ↦ rfl
  no_loop := fun _ ↦ rfl
  relays := fun _ ↦ rfl
  parsed := rfl
  resets := rfl

/-- A relay's part in what has been handled. -/
theorem relays_handle {s : SerialReader K}
    (h : ∀ relay, s.relays relay = .handleAll (s.handledBy relay)) (relay : ℕ) (timed : TimedFrame)
    (k : ℕ) :
    (s.handle relay timed).relays k = .handleAll ((s.handle relay timed).handledBy k) := by
  show Function.update s.relays relay _ k = BleRelay.handleAll
    (((s.handled ++ [(relay, timed)]).filter fun x ↦ x.1 = k).map Prod.snd)
  rw [List.filter_append, List.map_append]
  obtain rfl | hne := eq_or_ne k relay
  · rw [Function.update_self, List.filter_cons_of_pos (by simp), List.filter_nil, h k]
    exact (run_concat ..).symm
  · rw [Function.update_of_ne hne, List.filter_cons_of_neg (by simpa using hne.symm),
      List.filter_nil, List.map_nil, List.append_nil, h k]
    rfl

/-- **A STATE frame** goes to the relay, to the loop on its way to the relay, or nowhere. -/
theorem Dispatches.dispatch {s : SerialReader K} (h : s.Dispatches) (frame : Frame) :
    (s.dispatch stamp admits frame).Dispatches := by
  obtain ⟨hcounted, hsorted, hstates, hheard, hrouted, hopen, hnone, hrelays⟩ := h
  have hlength : s.frames_in + 1 = (s.dispatched ++ [frame]).length := by
    rw [List.length_append, hcounted]
    rfl
  rw [SerialReader.dispatch]
  dsimp only
  by_cases hstate : frame.1 = FrameType.value .state
  · rw [if_pos hstate]
    have hfilter : (s.dispatched ++ [frame]).filter (fun f ↦ f.1 = FrameType.value .state) =
        (s.dispatched.filter fun f ↦ f.1 = FrameType.value .state) ++ [frame] := by
      rw [List.filter_append, List.filter_cons_of_pos (by simp [hstate]), List.filter_nil]
    have hmap (x : Option ℕ × TimedFrame) (hx : x.2.frame = frame) :
        (s.heard ++ [x]).map (·.2.frame) =
          (s.dispatched ++ [frame]).filter fun f ↦ f.1 = FrameType.value .state := by
      rw [hfilter, List.map_append, hstates, List.map_singleton, hx]
    have hheard' (x : Option ℕ × TimedFrame) : s.states + 1 = (s.heard ++ [x]).length := by
      rw [List.length_append, hheard]
      rfl
    have hsorted' : s.frames_in + 1 = s.states + 1 + s.replies.length + s.unsolicited +
        s.unknown_frames := by omega
    rw [dispatchState]
    dsimp only
    split
    · next hoff =>
      -- no relay is registered
      refine ⟨hlength, hsorted', hmap _ rfl, hheard' _, ?_, hopen, hnone, hrelays⟩
      show (s.heard ++ [_]).filterMap _ = _
      rw [List.filterMap_append, hoff, List.filterMap_cons_none rfl, List.filterMap_nil,
        List.append_nil]
      exact hrouted
    · next relay hon =>
      have haddressed :
          (s.heard ++ [(s.on_state, (⟨frame, stamp s.frames_in⟩ : TimedFrame))]).filterMap
              (fun x ↦ x.1.map fun relay ↦ (relay, x.2)) =
            s.addressed ++ [(relay, ⟨frame, stamp s.frames_in⟩)] := by
        rw [List.filterMap_append, hon]
        rfl
      split
      · next habsent =>
        refine ⟨hlength, hsorted', hmap _ rfl, hheard' _, ?_, hopen, hnone, fun k ↦ ?_⟩
        · refine haddressed.trans ?_
          have hdropped := hopen (by simp [habsent])
          show _ = (s.handled ++ [_]) ++ (s.scheduled ++ s.dropped)
          rw [hrouted, hnone habsent, hdropped]
          simp
        · exact relays_handle (s := { s with
            frames_in := s.frames_in + 1
            dispatched := s.dispatched ++ [frame]
            states := s.states + 1
            heard := s.heard ++ [(s.on_state, ⟨frame, stamp s.frames_in⟩)] }) hrelays relay _ k
      · next hrunning =>
        refine ⟨hlength, hsorted', hmap _ rfl, hheard' _, ?_, hopen,
          fun habsent ↦ absurd (hrunning.symm.trans habsent) (by decide), hrelays⟩
        refine haddressed.trans ?_
        have hdropped := hopen (by simp [hrunning])
        show _ = s.handled ++ ((s.scheduled ++ [_]) ++ s.dropped)
        rw [hrouted, hdropped]
        simp
      · next hclosed =>
        refine ⟨hlength, hsorted', hmap _ rfl, hheard' _, ?_,
          fun hnot ↦ absurd hclosed hnot, hnone, hrelays⟩
        refine haddressed.trans ?_
        show _ = s.handled ++ (s.scheduled ++ (s.dropped ++ [_]))
        rw [hrouted]
        simp
  · have hmap : s.heard.map (·.2.frame) =
        (s.dispatched ++ [frame]).filter fun f ↦ f.1 = FrameType.value .state := by
      rw [List.filter_append, List.filter_cons_of_neg (by simpa using hstate), List.filter_nil,
        List.append_nil, hstates]
    rw [if_neg hstate]
    split_ifs
    · refine ⟨hlength, ?_, hmap, hheard, hrouted, hopen, hnone, hrelays⟩
      show s.frames_in + 1 = s.states + (s.replies ++ [frame]).length + s.unsolicited +
        s.unknown_frames
      rw [List.length_append, List.length_singleton]
      omega
    · refine ⟨hlength, ?_, hmap, hheard, hrouted, hopen, hnone, hrelays⟩
      show s.frames_in + 1 = s.states + s.replies.length + (s.unsolicited + 1) + s.unknown_frames
      omega
    · refine ⟨hlength, ?_, hmap, hheard, hrouted, hopen, hnone, hrelays⟩
      show s.frames_in + 1 = s.states + s.replies.length + s.unsolicited + (s.unknown_frames + 1)
      omega

/-- A chunk's frames, one after another. -/
theorem Dispatches.dispatchAll {s : SerialReader K} (h : s.Dispatches) (frames : List Frame) :
    (frames.foldl (SerialReader.dispatch stamp admits) s).Dispatches := by
  induction frames generalizing s with
  | nil => exact h
  | cons frame frames ih => exact ih (h.dispatch stamp admits frame)

/-- What `_dispatch` leaves alone. -/
theorem dispatch_frame (s : SerialReader K) (frame : Frame) :
    (s.dispatch stamp admits frame).parser = s.parser ∧
      (s.dispatch stamp admits frame).log = s.log ∧
      (s.dispatch stamp admits frame).parse_resets = s.parse_resets ∧
      (s.dispatch stamp admits frame).dispatched = s.dispatched ++ [frame] := by
  rw [SerialReader.dispatch]
  dsimp only
  split_ifs
  · rw [dispatchState]
    dsimp only
    split
    · exact ⟨rfl, rfl, rfl, rfl⟩
    · split
      · exact ⟨rfl, rfl, rfl, rfl⟩
      · exact ⟨rfl, rfl, rfl, rfl⟩
      · exact ⟨rfl, rfl, rfl, rfl⟩
  · exact ⟨rfl, rfl, rfl, rfl⟩
  · exact ⟨rfl, rfl, rfl, rfl⟩
  · exact ⟨rfl, rfl, rfl, rfl⟩

theorem dispatchAll_frame (s : SerialReader K) (frames : List Frame) :
    let s' := frames.foldl (SerialReader.dispatch stamp admits) s
    s'.parser = s.parser ∧ s'.log = s.log ∧ s'.parse_resets = s.parse_resets ∧
      s'.dispatched = s.dispatched ++ frames := by
  induction frames generalizing s with
  | nil => exact ⟨rfl, rfl, rfl, (List.append_nil _).symm⟩
  | cons frame frames ih =>
    obtain ⟨hparser, hlog, hresets, hdispatched⟩ := dispatch_frame stamp admits s frame
    obtain ⟨hparser', hlog', hresets', hdispatched'⟩ := ih (s.dispatch stamp admits frame)
    refine ⟨hparser'.trans hparser, hlog'.trans hlog, hresets'.trans hresets, ?_⟩
    rw [List.foldl_cons, hdispatched', hdispatched, List.append_assoc]
    rfl

/-- A STATE frame, whoever it is for. -/
theorem dispatchState_frame (s : SerialReader K) (timed : TimedFrame) :
    (s.dispatchState timed).frames_in = s.frames_in ∧
      (s.dispatchState timed).dispatched = s.dispatched ∧
      (s.dispatchState timed).heard = s.heard ++ [(s.on_state, timed)] ∧
      (s.dispatchState timed).states = s.states + 1 ∧
      (s.dispatchState timed).replies = s.replies ∧
      (s.dispatchState timed).unsolicited = s.unsolicited ∧
      (s.dispatchState timed).unknown_frames = s.unknown_frames := by
  rw [dispatchState]
  dsimp only
  split
  · exact ⟨rfl, rfl, rfl, rfl, rfl, rfl, rfl⟩
  · split
    · exact ⟨rfl, rfl, rfl, rfl, rfl, rfl, rfl⟩
    · exact ⟨rfl, rfl, rfl, rfl, rfl, rfl, rfl⟩
    · exact ⟨rfl, rfl, rfl, rfl, rfl, rfl, rfl⟩

/-- **A frame goes the way of its type**, and no other way is touched. -/
theorem Routes.dispatch {s : SerialReader K} (h : s.Routes stamp admits) (frame : Frame) :
    (s.dispatch stamp admits frame).Routes stamp admits := by
  obtain ⟨hcounted, hstamped, hstates, hreplies, hunsolicited, hunknown⟩ := h
  have hlength : s.frames_in + 1 = (s.dispatched ++ [frame]).length := by
    rw [List.length_append, hcounted]
    rfl
  have hindex : (s.dispatched ++ [frame]).zipIdx =
      s.dispatched.zipIdx ++ [(frame, s.frames_in)] := by
    rw [List.zipIdx_append, hcounted, Nat.zero_add]
    rfl
  -- a STATE frame is no reply
  have hreply : FrameType.value .state ∉ replyTypes := by decide
  rw [SerialReader.dispatch]
  dsimp only
  split_ifs with hstate htype hadmits
  · obtain ⟨hin, hdispatched, hheard, hcount, hsame, hkept, hleft⟩ := dispatchState_frame
      { s with frames_in := s.frames_in + 1, dispatched := s.dispatched ++ [frame] }
      ⟨frame, stamp s.frames_in⟩
    refine ⟨?_, ?_, ?_, ?_, ?_, ?_⟩
    · rw [hin, hdispatched, hlength]
    · rw [hheard, hdispatched, hindex]
      simp [hstamped, hstate]
    · rw [hcount, hdispatched]
      simp [hstates, hstate]
    · rw [hsame, hdispatched, hindex]
      simp [hreplies, hstate, hreply]
    · rw [hkept, hdispatched, hindex]
      simp [hunsolicited, hstate, hreply]
    · rw [hleft, hdispatched]
      simp [hunknown, hstate]
  · refine ⟨hlength, ?_, ?_, ?_, ?_, ?_⟩
    · simp only [hindex]
      simp [hstamped, hstate]
    · simp [hstates, hstate]
    · simp only [hindex]
      simp [hreplies, htype, hadmits]
    · simp only [hindex]
      simp [hunsolicited, hadmits]
    · simp [hunknown, htype]
  · refine ⟨hlength, ?_, ?_, ?_, ?_, ?_⟩
    · simp only [hindex]
      simp [hstamped, hstate]
    · simp [hstates, hstate]
    · simp only [hindex]
      simp [hreplies, hadmits]
    · simp only [hindex]
      simp [hunsolicited, htype, hadmits]
    · simp [hunknown, htype]
  · refine ⟨hlength, ?_, ?_, ?_, ?_, ?_⟩
    · simp only [hindex]
      simp [hstamped, hstate]
    · simp [hstates, hstate]
    · simp only [hindex]
      simp [hreplies, htype]
    · simp only [hindex]
      simp [hunsolicited, htype]
    · simp [hunknown, hstate, htype]

theorem Routes.dispatchAll {s : SerialReader K} (h : s.Routes stamp admits)
    (frames : List Frame) :
    (frames.foldl (SerialReader.dispatch stamp admits) s).Routes stamp admits := by
  induction frames generalizing s with
  | nil => exact h
  | cons frame frames ih => exact ih (h.dispatch stamp admits frame)

variable [Field K] [LinearOrder K]

theorem Routes.step {s : SerialReader K} (h : s.Routes stamp admits) (ev : ReaderEvent K) :
    (s.step stamp admits idle_timeout_s ev).Routes stamp admits := by
  obtain ⟨hcounted, hstamped, hstates, hreplies, hunsolicited, hunknown⟩ := h
  cases ev with
  | read data now =>
    rw [SerialReader.step, SerialReader.pump]
    split_ifs
    · set r := feed FrameParser.feedByte s.parser data
      have hstart : Routes stamp admits
          { s with parser := r.1, log := s.log ++ [.chunk data] } :=
        ⟨hcounted, hstamped, hstates, hreplies, hunsolicited, hunknown⟩
      rcases hstart.dispatchAll stamp admits r.2 with ⟨hc, hs, ht, hr, hu, hk⟩
      exact ⟨hc, hs, ht, hr, hu, hk⟩
    · exact ⟨hcounted, hstamped, hstates, hreplies, hunsolicited, hunknown⟩
    · exact ⟨hcounted, hstamped, hstates, hreplies, hunsolicited, hunknown⟩
  | readError | register relay =>
    exact ⟨hcounted, hstamped, hstates, hreplies, hunsolicited, hunknown⟩
  | turn =>
    rw [SerialReader.step, SerialReader.turn]
    split
    · exact ⟨hcounted, hstamped, hstates, hreplies, hunsolicited, hunknown⟩
    · exact ⟨hcounted, hstamped, hstates, hreplies, hunsolicited, hunknown⟩
  | closeLoop =>
    rw [SerialReader.step]
    split_ifs
    · exact ⟨hcounted, hstamped, hstates, hreplies, hunsolicited, hunknown⟩
    · exact ⟨hcounted, hstamped, hstates, hreplies, hunsolicited, hunknown⟩

theorem routes_run (loop : ReaderLoop) (now : K) (evs : List (ReaderEvent K)) :
    (run (step stamp admits idle_timeout_s) (init loop now) evs).Routes stamp admits :=
  run_invariant (step stamp admits idle_timeout_s)
    (fun _ ev h ↦ h.step stamp admits idle_timeout_s ev) ⟨rfl, rfl, rfl, rfl, rfl, rfl⟩ evs

/-- The bytes that the parser was fed are those that were read. -/
theorem stream_run (loop : ReaderLoop) (now : K) (evs : List (ReaderEvent K)) :
    stream (run (step stamp admits idle_timeout_s) (init loop now) evs).log =
      evs.flatMap ReaderBytes := by
  induction evs using List.reverseRecOn with
  | nil => rfl
  | append_singleton evs ev ih =>
    rw [run_concat, List.flatMap_append, ← ih, List.flatMap_singleton]
    set s := run (step stamp admits idle_timeout_s) (init loop now) evs
    cases ev with
    | read data now =>
      rw [SerialReader.step, SerialReader.pump, ReaderBytes]
      rcases eq_or_ne data [] with rfl | hdata
      · rw [if_neg (not_not.2 rfl), List.append_nil]
        split_ifs
        · exact (stream_append _ _).trans (List.append_nil _)
        · rfl
      · rw [if_pos hdata]
        set r := feed FrameParser.feedByte s.parser data
        obtain ⟨-, hlog, -⟩ := dispatchAll_frame stamp admits
          { s with parser := r.1, log := s.log ++ [.chunk data] } r.2
        dsimp only
        rw [hlog, stream_append]
        exact congrArg (stream s.log ++ ·) (List.append_nil data)
    | readError | register relay' => exact (List.append_nil _).symm
    | turn =>
      show stream s.turn.log = stream s.log ++ []
      rw [SerialReader.turn, List.append_nil]
      split <;> rfl
    | closeLoop =>
      rw [SerialReader.step]
      show _ = stream s.log ++ []
      rw [List.append_nil]
      split_ifs <;> rfl

theorem Inv.pump {s : SerialReader K} (h : s.Inv) (data : Bytes) (now : K) :
    (s.pump stamp admits idle_timeout_s data now).Inv := by
  have hparsed := h.parsed
  rw [SerialReader.pump]
  split_ifs with hdata hidle
  · -- a chunk
    dsimp only
    set r := feed FrameParser.feedByte s.parser data with hr
    set s₁ : SerialReader K := { s with parser := r.1, log := s.log ++ [.chunk data] }
    have hdispatches : s₁.Dispatches := ⟨h.counted, h.sorted, h.states, h.heard, h.routed,
      h.open_loop, h.no_loop, h.relays⟩
    obtain ⟨hcounted, hsorted, hstates, hheard, hrouted, hopen, hnone, hrelays⟩ :=
      hdispatches.dispatchAll stamp admits r.2
    obtain ⟨hparser, hlog, hresets, hdispatched⟩ := dispatchAll_frame stamp admits s₁ r.2
    refine ⟨⟨hcounted, hsorted, hstates, hheard, hrouted, hopen, hnone, hrelays⟩, ?_, ?_⟩
    · show ((r.2.foldl (SerialReader.dispatch stamp admits) s₁).parser,
        (r.2.foldl (SerialReader.dispatch stamp admits) s₁).dispatched) =
        serve _ _ _ (r.2.foldl (SerialReader.dispatch stamp admits) s₁).log
      rw [hparser, hlog, hdispatched]
      show (r.1, s.dispatched ++ r.2) = serve _ _ _ (s.log ++ [.chunk data])
      rw [serve_append, ← hparsed, serve, serve, ← hr, List.append_nil]
    · show (r.2.foldl (SerialReader.dispatch stamp admits) s₁).parse_resets =
        (r.2.foldl (SerialReader.dispatch stamp admits) s₁).log.countP isTimeout
      rw [hresets, hlog, List.countP_append]
      exact h.resets
  · -- the end of the reader's patience
    refine ⟨⟨h.counted, h.sorted, h.states, h.heard, h.routed, h.open_loop, h.no_loop, h.relays⟩,
      ?_, ?_⟩
    · show (s.parser.timeout, s.dispatched) = serve _ _ _ (s.log ++ [.timeout])
      rw [serve_append, ← hparsed, serve, serve, List.append_nil]
    · show s.parse_resets + 1 = (s.log ++ [LinkEvent.timeout]).countP isTimeout
      rw [List.countP_append, h.resets]
      rfl
  · exact h

omit [Field K] [LinearOrder K] in
theorem Inv.turn {s : SerialReader K} (h : s.Inv) : s.turn.Inv := by
  rw [SerialReader.turn]
  split
  · next relay timed rest hloop hscheduled =>
    have hrouted := h.routed
    rw [hscheduled] at hrouted
    refine ⟨⟨h.counted, h.sorted, h.states, h.heard, ?_, h.open_loop, fun habsent ↦ ?_,
      relays_handle (s := { s with scheduled := rest }) h.relays relay timed⟩, h.parsed, h.resets⟩
    · refine hrouted.trans ?_
      show _ = (s.handled ++ [(relay, timed)]) ++ (rest ++ s.dropped)
      simp
    · exact absurd (hloop.symm.trans habsent) (by decide)
  · exact h

theorem Inv.step {s : SerialReader K} (h : s.Inv) (ev : ReaderEvent K) :
    (s.step stamp admits idle_timeout_s ev).Inv := by
  cases ev with
  | read data now => exact h.pump stamp admits idle_timeout_s data now
  | readError | register relay =>
    exact ⟨⟨h.counted, h.sorted, h.states, h.heard, h.routed, h.open_loop, h.no_loop, h.relays⟩,
      h.parsed, h.resets⟩
  | turn => exact h.turn
  | closeLoop =>
    rw [SerialReader.step]
    split_ifs with hrunning
    · exact ⟨⟨h.counted, h.sorted, h.states, h.heard, h.routed, fun hnot ↦ absurd rfl hnot,
        fun habsent ↦ (by cases habsent), h.relays⟩, h.parsed, h.resets⟩
    · exact h

/-- The reader behind some events. -/
theorem inv_run (loop : ReaderLoop) (now : K) (evs : List (ReaderEvent K)) :
    (run (step stamp admits idle_timeout_s) (init loop now) evs).Inv :=
  run_invariant (step stamp admits idle_timeout_s)
    (fun _ ev h ↦ h.step stamp admits idle_timeout_s ev) (inv_init loop now) evs

omit [Field K] [LinearOrder K] in
/-- Every frame handled is a STATE frame. -/
theorem state_of_handledBy {s : SerialReader K} (h : s.Inv) {relay : ℕ} {f : TimedFrame}
    (hf : f ∈ s.handledBy relay) : f.frame.1 = FrameType.value .state := by
  obtain ⟨x, hx, rfl⟩ := List.mem_map.1 hf
  have haddressed : x ∈ s.addressed := by
    rw [h.routed]
    exact List.mem_append_left _ (List.mem_filter.1 hx).1
  obtain ⟨y, hy, hxy⟩ := List.mem_filterMap.1 haddressed
  obtain ⟨relay', -, rfl⟩ := Option.map_eq_some_iff.1 hxy
  have hstate : y.2.frame ∈ s.heard.map (·.2.frame) := List.mem_map_of_mem hy
  rw [h.states] at hstate
  simpa using (List.mem_filter.1 hstate).2

/-- **The reader accounts for every frame.** Over any bytes in any chunks, any silences, any turns
of the loop and any relays: the parser is fed the bytes that were read, and the frames are those
that it makes of them and of the resets; each is a STATE with its stamp, an admitted reply, an
unsolicited one or unknown, by its type; the STATE frames that found a relay have been handled, are
on their way or met a closed loop, in this order; and each relay has reported those of its frames
that decode, in order, and counted the others. -/
theorem reader_accounted (loop : ReaderLoop) (now : K) (evs : List (ReaderEvent K)) :
    let s := run (step stamp admits idle_timeout_s) (init loop now) evs
    stream s.log = evs.flatMap ReaderBytes ∧
      s.dispatched = (serve FrameParser.feedByte FrameParser.timeout .init s.log).2 ∧
      s.parse_resets = s.log.countP isTimeout ∧
      (s.frames_in = s.dispatched.length ∧
        s.frames_in = s.states + s.replies.length + s.unsolicited + s.unknown_frames) ∧
      s.Routes stamp admits ∧
      (s.heard.map (·.2.frame) = s.dispatched.filter fun f ↦ f.1 = FrameType.value .state) ∧
      s.addressed = s.handled ++ (s.scheduled ++ s.dropped) ∧
      ∀ relay,
        (s.relays relay).reported = (s.handledBy relay).filterMap BleRelay.reportOf ∧
        (s.relays relay).reports = (s.relays relay).reported.length ∧
        (s.relays relay).reports + (s.relays relay).malformed = (s.handledBy relay).length ∧
        (s.relays relay).untimed = (s.relays relay).reported.countP (·.2.isNone) ∧
        (s.relays relay).last = (s.relays relay).reported.getLast?.map Prod.fst ∧
        (s.relays relay).last_rx_time_us = (s.relays relay).reported.getLast?.bind Prod.snd := by
  intro s
  have h : s.Inv := inv_run stamp admits idle_timeout_s loop now evs
  refine ⟨stream_run stamp admits idle_timeout_s loop now evs, congrArg Prod.snd h.parsed, h.resets,
    ⟨h.counted, h.sorted⟩, routes_run stamp admits idle_timeout_s loop now evs, h.states, h.routed,
    fun relay ↦ ?_⟩
  rw [h.relays relay]
  exact BleRelay.handleAll_spec fun f hf ↦ state_of_handledBy h hf

end SerialReader

end VertexTestbed.Host
