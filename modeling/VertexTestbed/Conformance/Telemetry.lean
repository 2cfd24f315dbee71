import VertexTestbed.Conformance.BoardReceive
import VertexTestbed.Conformance.StateRoundTrip
import VertexTestbed.Firmware.UartLink
import VertexTestbed.Host.SerialReader

/-!
# What the board reports is what the relay reports

The way of a STATE report: `report_state` and `uart_link_send` on the board, the transmit queue and
the line, and on the host the reader thread, the event loop and `BleRelay.handle_frame`. Whatever
the order of sends, handlers and driver events on the one side and of reads and turns of the event
loop on the other, and however the line is cut into reads, the relay reports what the board has
sent, in order, each report once and field by field (`telemetry_delivered`).
-/

namespace VertexTestbed.Conformance

open Firmware Host Runs

/-! ### The board's side -/

/-- What `report_state` sends: the board at the time of the report, as the types it is declared
with, and the fresh mask that it has just cleared. -/
structure BoardReport (K : Type*) [Field K] [LinearOrder K] [FloorRing K] where
  agent : Agent K
  uptimeUs : ℤ
  fresh : Slot → Bool
  declared : Declared agent uptimeUs

namespace BoardReport

variable {K : Type*} [Field K] [LinearOrder K] [FloorRing K]

/-- The frame is the report's. -/
def SentAs (r : BoardReport K) (f : Frame) : Prop :=
  reportState r.agent r.uptimeUs r.fresh = some f.2

/-- What the report says. -/
def report (r : BoardReport K) : StateReport := sentReport r.agent r.uptimeUs r.fresh

end BoardReport

/-- The frames that `uart_link_send` accepts in a run. -/
def sends : UartLink → List UartEvent → List Frame
  | _, [] => []
  | s, .send type payload :: evs =>
    (if (s.uartLinkSend type payload).1 = 0 then [(type, payload)] else []) ++
      sends (s.uartLinkSend type payload).2 evs
  | s, ev :: evs => sends (s.step ev) evs

/-- `uart_tx` takes the frames that it is given and sends them whole. -/
def Transmits : UartEvent → Prop
  | .work err => err = 0
  | .txAborted => False
  | _ => True

/-- What a step that is no send accepts. -/
theorem accepted_work (s : UartLink) (err : ℤ) : (s.txWorkHandler err).accepted = s.accepted := by
  obtain ⟨-, hwork⟩ | ⟨e, rest, -, -, ⟨-, hwork⟩ | ⟨-, hwork⟩⟩ := UartLink.txWorkHandler_cases s err
  · rw [hwork]
  · rw [hwork]
  · rw [hwork]

theorem accepted_ended (s : UartLink) : s.txEnded.accepted = s.accepted := by
  obtain ⟨-, hdone⟩ | ⟨e, rest, -, hdone⟩ := UartLink.txEnded_cases s
  · rw [hdone]
  · rw [hdone]

/-- **A send is accepted** exactly when its frame is queued. -/
theorem accepted_send (s : UartLink) (type : UInt8) (payload : Bytes) :
    if (s.uartLinkSend type payload).1 = 0 then
      payload.length ≤ maxPayload ∧
        (s.uartLinkSend type payload).2.accepted =
          s.accepted ++ [FrameParser.hostFormat.build type payload]
    else (s.uartLinkSend type payload).2.accepted = s.accepted := by
  rw [UartLink.uartLinkSend]
  cases hbuild : protoBuild protoMaxFrame type payload with
  | none => rw [if_neg (show errInval ≠ 0 by decide)]
  | some e =>
    obtain ⟨hlen, he⟩ := FrameParser.buildFrame_eq_ok ((protoBuild_eq_some_iff _ _ _ _).1 hbuild).1
    dsimp only
    split_ifs with hroom hzero
    · exact ⟨hlen, by rw [he]⟩
    · exact absurd rfl hzero
    · exact absurd ‹errNomem = 0› (by decide)
    · rfl

theorem accepted_run (s : UartLink) (evs : List UartEvent) :
    (run UartLink.step s evs).accepted =
        s.accepted ++ (sends s evs).map (fun f ↦ FrameParser.hostFormat.build f.1 f.2) ∧
      ∀ f ∈ sends s evs, f.2.length ≤ maxPayload := by
  induction evs generalizing s with
  | nil => exact ⟨(List.append_nil _).symm, fun f hf ↦ absurd hf List.not_mem_nil⟩
  | cons ev evs ih =>
    rw [run_cons]
    obtain ⟨haccepted, hlen⟩ := ih (s.step ev)
    cases ev with
    | send type payload =>
      have hsend := accepted_send s type payload
      rw [sends, haccepted, UartLink.step]
      split_ifs at hsend ⊢ with hzero
      · obtain ⟨hshort, hqueued⟩ := hsend
        refine ⟨?_, List.forall_mem_cons.2 ⟨hshort, hlen⟩⟩
        rw [hqueued, List.append_assoc]
        rfl
      · refine ⟨?_, hlen⟩
        rw [hsend]
        rfl
    | work err =>
      rw [sends, haccepted]
      · exact ⟨congrArg (· ++ _) (accepted_work s err), hlen⟩
      · rintro type payload ⟨⟩
    | txDone | txAborted =>
      rw [sends, haccepted]
      · exact ⟨congrArg (· ++ _) (accepted_ended s), hlen⟩
      · rintro type payload ⟨⟩

/-- A transmitter that takes what it is given drops nothing. -/
theorem failed_run (evs : List UartEvent) (h : ∀ ev ∈ evs, Transmits ev) :
    (run UartLink.step .init evs).failed = [] := by
  induction evs using List.reverseRecOn with
  | nil => rfl
  | append_singleton evs ev ih =>
    have hnone := ih fun ev' hev' ↦ h ev' (List.mem_append_left _ hev')
    have hev : Transmits ev := h ev (List.mem_append_right _ List.mem_cons_self)
    rw [run_concat]
    set s := run UartLink.step .init evs
    cases ev with
    | send type payload =>
      rw [UartLink.step]
      obtain heq | ⟨e, -, heq⟩ | ⟨e, heq⟩ := s.uartLinkSend_cases type payload
      · rw [heq, hnone]
      · rw [heq, hnone]
      · rw [heq, hnone]
    | work err =>
      rw [UartLink.step]
      obtain ⟨-, heq⟩ | ⟨e, rest, -, -, ⟨herr, -⟩ | ⟨-, heq⟩⟩ := s.txWorkHandler_cases err
      · rw [heq, hnone]
      · exact absurd hev herr
      · rw [heq, hnone]
    | txDone =>
      rw [UartLink.step]
      obtain ⟨-, heq⟩ | ⟨e, rest, -, heq⟩ := s.txEnded_cases
      · rw [heq, hnone]
      · rw [heq, hnone]
    | txAborted => exact hev.elim

/-! ### The host's side -/

/-- The relay is registered when bytes come, no other one registers, the event loop is open, and the
port does not fall silent inside a frame. -/
def Attentive {K : Type} [Field K] [LinearOrder K] (idle_timeout_s : K) (relay : ℕ)
    (s : SerialReader K) : ReaderEvent K → Prop
  | .read data now =>
    if data = [] then ¬(s.parser.inFrame ∧ idle_timeout_s < now - s.last_rx)
    else s.on_state = some relay
  | .register relay' => relay' = relay
  | .closeLoop => False
  | _ => True

section Reader

variable {K : Type} [Field K] [LinearOrder K] {stamp : ℕ → Option ℤ} {admits : ℕ → Bool}
  {idle_timeout_s : K} {relay : ℕ}

/-- What an attentive host keeps. -/
structure Listening (relay : ℕ) (s : SerialReader K) : Prop where
  loop : s.loop = .running
  fed : ∀ e ∈ s.log, SerialReader.isTimeout e = false
  heard : ∀ x ∈ s.heard, x.1 = some relay

variable (stamp admits) in
omit [Field K] [LinearOrder K] in
theorem Listening.dispatchAll {s : SerialReader K} (h : Listening relay s)
    (hon : s.on_state = some relay) (frames : List Frame) :
    Listening relay (frames.foldl (SerialReader.dispatch stamp admits) s) := by
  induction frames generalizing s with
  | nil => exact h
  | cons frame frames ih =>
    have hkept : (s.dispatch stamp admits frame).on_state = s.on_state ∧
        Listening relay (s.dispatch stamp admits frame) := by
      rw [SerialReader.dispatch]
      dsimp only
      split_ifs
      · have hheard : ∀ x ∈ s.heard ++ [(s.on_state, (⟨frame, stamp s.frames_in⟩ : TimedFrame))],
            x.1 = some relay := by
          intro x hx
          obtain hx | hx := List.mem_append.1 hx
          · exact h.heard x hx
          · rw [List.mem_singleton.1 hx]
            exact hon
        rw [SerialReader.dispatchState]
        dsimp only
        rw [hon] at hheard ⊢
        rw [h.loop]
        exact ⟨rfl, rfl, h.fed, hheard⟩
      · exact ⟨rfl, h.loop, h.fed, h.heard⟩
      · exact ⟨rfl, h.loop, h.fed, h.heard⟩
      · exact ⟨rfl, h.loop, h.fed, h.heard⟩
    exact ih hkept.2 (hkept.1.trans hon)

theorem Listening.step {s : SerialReader K} (h : Listening relay s) {ev : ReaderEvent K}
    (hev : Attentive idle_timeout_s relay s ev) :
    Listening relay (s.step stamp admits idle_timeout_s ev) := by
  cases ev with
  | read data now =>
    rw [SerialReader.step, SerialReader.pump]
    obtain rfl | hdata := eq_or_ne data []
    · rw [Attentive, if_pos rfl] at hev
      rw [if_neg (not_not.2 rfl), if_neg hev]
      exact h
    · rw [Attentive, if_neg hdata] at hev
      rw [if_pos hdata]
      set r := feed FrameParser.feedByte s.parser data
      have hstart : Listening relay { s with parser := r.1, log := s.log ++ [.chunk data] } := by
        refine ⟨h.loop, fun e he ↦ ?_, h.heard⟩
        obtain he | he := List.mem_append.1 he
        · exact h.fed e he
        · rw [List.mem_singleton.1 he]
          rfl
      obtain ⟨hloop, hfed, hheard⟩ := hstart.dispatchAll stamp admits hev r.2
      exact ⟨hloop, hfed, hheard⟩
  | readError => exact ⟨h.loop, h.fed, h.heard⟩
  | register relay' => exact ⟨h.loop, h.fed, h.heard⟩
  | turn =>
    rw [SerialReader.step, SerialReader.turn]
    split
    · exact ⟨h.loop, h.fed, h.heard⟩
    · exact h
  | closeLoop => exact hev.elim

/-- Chunks alone are their bytes. -/
theorem serve_fed {σ φ : Type} {step : σ → UInt8 → σ × Option φ} {timeout : σ → σ} (s : σ)
    {log : List LinkEvent} (h : ∀ e ∈ log, SerialReader.isTimeout e = false) :
    serve step timeout s log = feed step s (stream log) := by
  induction log generalizing s with
  | nil => rfl
  | cons e log ih =>
    have hrest : ∀ e ∈ log, SerialReader.isTimeout e = false :=
      fun e he ↦ h e (List.mem_cons_of_mem _ he)
    cases e with
    | chunk bs => rw [serve, stream, feed_append, ih _ hrest]
    | timeout => exact absurd (h _ List.mem_cons_self) (by decide)

/-- **An attentive host** handles the STATE frames on the line, in order. -/
theorem handled_run {now : K} {evs : List (ReaderEvent K)}
    (hevs : Guarded (SerialReader.step stamp admits idle_timeout_s)
      (Attentive idle_timeout_s relay) (.init .running now) evs) {fs : List Frame}
    (hfs : ∀ f ∈ fs, HostKnows f ∧ f.2.length ≤ maxPayload)
    (hline : evs.flatMap ReaderBytes <+:
      fs.flatMap fun f ↦ FrameParser.hostFormat.build f.1 f.2) :
    let s := run (SerialReader.step stamp admits idle_timeout_s) (.init .running now) evs
    let states := fs.filter fun f ↦ f.1 = FrameType.value .state
    (s.handledBy relay).map TimedFrame.frame <+: states ∧
      (evs.flatMap ReaderBytes = (fs.flatMap fun f ↦ FrameParser.hostFormat.build f.1 f.2) →
        s.scheduled = [] → (s.handledBy relay).map TimedFrame.frame = states) := by
  intro s states
  have hinv : s.Inv := SerialReader.inv_run stamp admits idle_timeout_s .running now evs
  obtain ⟨hloop, hfed, hheard⟩ : Listening relay s :=
    hevs.invariant (fun _ _ hs hev ↦ hs.step hev)
      ⟨rfl, fun e he ↦ absurd he List.not_mem_nil, fun x hx ↦ absurd hx List.not_mem_nil⟩
  have hfits : ∀ f ∈ fs, FrameParser.hostFormat.Fits f.1 f.2.length ∧ f.2.length < 65536 :=
    fun f hf ↦ ⟨(FrameParser.hostFormat_fits_iff _ _).2 (hfs f hf),
      lt_of_le_of_lt (hfs f hf).2 (by decide)⟩
  -- the frames of the bytes that have come
  have hdispatched : s.dispatched =
      (feed FrameParser.hostFormat.step .idle (evs.flatMap ReaderBytes)).2 := by
    have hstream : stream s.log = evs.flatMap ReaderBytes :=
      SerialReader.stream_run stamp admits idle_timeout_s .running now evs
    have hidle : FrameParser.Follows .init .idle := FrameParser.follows_idle rfl
    rw [← hstream, ← (feed_related FrameParser.feedByte_follows hidle _).2]
    exact (congrArg Prod.snd hinv.parsed).trans (congrArg Prod.snd (serve_fed _ hfed))
  have hall := congrArg Prod.snd (feed_builds hfits)
  have hsome : s.dispatched <+: fs := by
    rw [hdispatched]
    exact (feed_initial _ hline).trans (hall ▸ List.prefix_rfl)
  -- all of them have been addressed to the relay
  have haddressed : s.addressed = s.heard.map fun x ↦ (relay, x.2) := by
    refine (List.filterMap_congr fun x hx ↦ ?_).trans (congrFun List.filterMap_eq_map' _)
    rw [hheard x hx]
    rfl
  have hframes : s.addressed.map (·.2.frame) =
      s.dispatched.filter fun f ↦ f.1 = FrameType.value .state := by
    rw [haddressed, List.map_map, ← hinv.states]
    rfl
  have hrouted : s.addressed = s.handled ++ s.scheduled := by
    rw [hinv.routed, hinv.open_loop (by simp [hloop]), List.append_nil]
  have hmine : s.handledBy relay = s.handled.map Prod.snd := by
    rw [SerialReader.handledBy, List.filter_eq_self.2]
    intro x hx
    have hmem : x ∈ s.addressed := by
      rw [hrouted]
      exact List.mem_append_left _ hx
    rw [haddressed] at hmem
    obtain ⟨y, -, rfl⟩ := List.mem_map.1 hmem
    exact decide_eq_true rfl
  have hhandled : (s.handledBy relay).map TimedFrame.frame = s.handled.map (·.2.frame) := by
    rw [hmine, List.map_map]
    rfl
  constructor
  · have hfilter : (s.dispatched.filter fun f ↦ f.1 = FrameType.value .state) <+: states :=
      hsome.filter _
    rw [hhandled]
    refine .trans ?_ hfilter
    rw [← hframes, hrouted, List.map_append]
    exact List.prefix_append _ _
  · intro hbytes hdone
    rw [hbytes, hall] at hdispatched
    rw [hdone, List.append_nil] at hrouted
    rw [hhandled, ← hrouted, hframes, hdispatched]

end Reader

/-! ### From end to end -/

/-- The relay's reports of frames that are the board's. -/
theorem reported_of_sent {K : Type*} [Field K] [LinearOrder K] [FloorRing K] {fs : List Frame}
    {sent : List (BoardReport K)} (hsent : List.Forall₂ (fun f r ↦ r.SentAs f) fs sent)
    {gs : List TimedFrame} (hgs : gs.map TimedFrame.frame <+: fs) :
    (gs.filterMap BleRelay.reportOf).map Prod.fst = (sent.map BoardReport.report).take gs.length ∧
      (gs.filterMap BleRelay.reportOf).length = gs.length := by
  induction hsent generalizing gs with
  | nil =>
    obtain rfl := List.map_eq_nil_iff.1 (List.prefix_nil.1 hgs)
    exact ⟨rfl, rfl⟩
  | @cons f r fs sent hfr _ ih =>
    cases gs with
    | nil => exact ⟨rfl, rfl⟩
    | cons g gs =>
      rw [List.map_cons, List.cons_prefix_cons] at hgs
      obtain ⟨hreports, hlength⟩ := ih hgs.2
      have hdecode : BleRelay.reportOf g = some (r.report, g.rx_time_us) := by
        rw [BleRelay.reportOf, hgs.1, decodeState_board r.declared hfr]
        rfl
      rw [List.filterMap_cons_some hdecode, List.map_cons, List.length_cons, List.map_cons,
        List.length_cons, List.take_succ_cons, hreports, hlength]
      exact ⟨rfl, rfl⟩

variable {K : Type} [Field K] [LinearOrder K]

/-- **Telemetry.** The board's sends and handlers in any order, with a transmitter that takes what
it is given; any first part of its line, cut into reads of any length; an attentive host, its loop
taking its turns whenever. The relay has reported a first part of what the board has sent, in order,
each report once and as it was sent, and none is malformed; and it has reported all of it once all
bytes have been read and the event loop has nothing left. -/
theorem telemetry_delivered {B : Type*} [Field B] [LinearOrder B] [FloorRing B]
    {txs : List UartEvent} (htxs : ∀ ev ∈ txs, Transmits ev)
    (hknown : ∀ f ∈ sends .init txs, HostKnows f) {sent : List (BoardReport B)}
    (hsent : List.Forall₂ (fun f r ↦ r.SentAs f)
      ((sends .init txs).filter fun f ↦ f.1 = FrameType.value .state) sent)
    (stamp : ℕ → Option ℤ) (admits : ℕ → Bool) {idle_timeout_s : K} {relay : ℕ} {now : K}
    {evs : List (ReaderEvent K)}
    (hevs : Guarded (SerialReader.step stamp admits idle_timeout_s)
      (Attentive idle_timeout_s relay) (.init .running now) evs)
    (hline : evs.flatMap ReaderBytes <+: (run UartLink.step .init txs).handed.flatten) :
    let board := run UartLink.step .init txs
    let host := run (SerialReader.step stamp admits idle_timeout_s) (.init .running now) evs
    board.failed = [] ∧ (host.relays relay).malformed = 0 ∧
      (host.relays relay).reported.map Prod.fst <+: sent.map BoardReport.report ∧
      (evs.flatMap ReaderBytes = board.accepted.flatten → host.scheduled = [] →
        (host.relays relay).reported.map Prod.fst = sent.map BoardReport.report) := by
  intro board host
  obtain ⟨haccepted, hshort⟩ := accepted_run .init txs
  -- Backwards along the way: the frames accepted, the bytes handed to the driver, the frames
  -- handled.
  have hbytes : board.accepted.flatten =
      (sends .init txs).flatMap fun f ↦ FrameParser.hostFormat.build f.1 f.2 := by
    rw [show board.accepted = _ from haccepted, List.flatMap]
    rfl
  have hhanded : board.handed.flatten <+: board.accepted.flatten := by
    rw [← (UartLink.accounts_run txs).ordered, List.flatten_append]
    exact List.prefix_append _ _
  have hhost : host.Inv := SerialReader.inv_run stamp admits idle_timeout_s .running now evs
  obtain ⟨hsome, hall⟩ := handled_run hevs (fun f hf ↦ ⟨hknown f hf, hshort f hf⟩)
    (hbytes ▸ hline.trans hhanded)
  -- Every STATE frame that is handled is one that the board sent, and decodes.
  obtain ⟨hreports, hlength⟩ := reported_of_sent hsent hsome
  have hstates : ∀ f ∈ host.handledBy relay, f.frame.1 = FrameType.value .state :=
    fun f hf ↦ SerialReader.state_of_handledBy hhost hf
  obtain ⟨hreported, hcount, htotal, -⟩ := BleRelay.handleAll_spec hstates
  rw [← hhost.relays relay] at hreported hcount htotal
  have hall_reported : (host.relays relay).reported.length = (host.handledBy relay).length :=
    (congrArg List.length hreported).trans hlength
  refine ⟨failed_run txs htxs, ?_, ?_, fun hread hdone ↦ ?_⟩
  · omega
  · rw [hreported, hreports]
    exact List.take_prefix _ _
  · have hframes := congrArg List.length (hall (hread.trans hbytes) hdone)
    rw [List.length_map, hsent.length_eq] at hframes
    rw [hreported, hreports, hframes, ← List.length_map BoardReport.report, List.take_length]

/-- The payload of a board's report. -/
def samplePayload : Bytes := (reportState twoNeighborBoard 5 fun _ ↦ true).getD []

/-- The board hands one report over, and its transmit handler runs. -/
def sampleSends : List UartEvent := [.send (FrameType.value .state) samplePayload, .work 0]

/-- That report: the board of two neighbours, five microseconds up, both of them fresh. -/
def sampleSent : List (BoardReport ℚ) :=
  [⟨twoNeighborBoard, 5, fun _ ↦ true, by constructor <;> decide⟩]

/-- The line in two reads, with a silent one between them. -/
def sampleReads : List (ReaderEvent ℚ) :=
  let line := FrameParser.hostFormat.build (FrameType.value .state) samplePayload
  [.register 0, .read (line.take 7) 1, .read [] 1, .turn, .read (line.drop 7) 2, .turn]

/-- One report of the board of two neighbours, read in two parts. -/
theorem telemetry_delivered_sample :
    let board := run UartLink.step .init sampleSends
    let host := run (SerialReader.step (fun _ ↦ none) (fun _ ↦ true) 1) (.init .running 0)
      sampleReads
    board.failed = [] ∧ (host.relays 0).malformed = 0 ∧
      (host.relays 0).reported.map Prod.fst = [sentReport twoNeighborBoard 5 fun _ ↦ true] := by
  have hsends : sends .init sampleSends = [(FrameType.value .state, samplePayload)] := by
    decide +kernel
  have hsent : List.Forall₂ (fun f r ↦ BoardReport.SentAs r f)
      ((sends .init sampleSends).filter fun f ↦ f.1 = FrameType.value .state) sampleSent := by
    rw [hsends]
    exact .cons rfl .nil
  have hknown : ∀ f ∈ sends .init sampleSends, HostKnows f := by
    rw [hsends]
    exact List.forall_mem_singleton.2 (rfl : isKnownType (FrameType.value .state) = true)
  have htaken : ∀ ev ∈ sampleSends, Transmits ev := by
    rw [sampleSends, List.forall_mem_cons, List.forall_mem_singleton]
    exact ⟨trivial, rfl⟩
  have hevs : Guarded (SerialReader.step (fun _ ↦ none) (fun _ ↦ true) (1 : ℚ)) (Attentive 1 0)
      (.init .running 0) sampleReads := by
    refine ⟨rfl, ?_, ?_, trivial, ?_, trivial, trivial⟩
    · rw [Attentive, if_neg (by decide +kernel)]
      rfl
    · rw [Attentive, if_pos rfl]
      exact fun h ↦ absurd h.2 (by decide +kernel)
    · rw [Attentive, if_neg (by decide +kernel)]
      decide +kernel
  have hread : sampleReads.flatMap ReaderBytes =
      (run UartLink.step .init sampleSends).accepted.flatten := by decide +kernel
  have hline : sampleReads.flatMap ReaderBytes <+:
      (run UartLink.step .init sampleSends).handed.flatten := by decide +kernel
  obtain ⟨hfailed, hmalformed, -, hall⟩ := telemetry_delivered htaken hknown hsent _ _ hevs hline
  exact ⟨hfailed, hmalformed, hall hread (List.length_eq_zero_iff.1 (by decide +kernel))⟩

end VertexTestbed.Conformance
