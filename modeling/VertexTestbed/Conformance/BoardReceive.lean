import VertexTestbed.Conformance.Framing
import VertexTestbed.Firmware.UartRx
import VertexTestbed.Lib.ExceptMonad

/-!
# What the host sends is what the board is given

`SerialLink.send` on the host, and on the board the receive path down to the parser's callback. The
host writes a frame in one piece or in pieces of `write_chunk` bytes; the line brings the bytes in
buffers of any length; and an interrupt puts them into a ring out of which a thread feeds the
parser, in any interleaving.

Whatever happens to the line, what the callback gets was on it (`receive_path`). As long as nothing
comes between the bytes it gets the frames that were sent, in order, and all of them once the
handler has had 2113 steps behind the last byte (`frames_received`).
-/

namespace VertexTestbed.Conformance

open Host Firmware Runs

/-! ### The writer -/

/-- The writes of `send`. -/
def sendWrites (write_chunk : ℕ) (f : Frame) : Except EncodeError (List Bytes) := do
  let frame ← buildFrame f.1 f.2
  return if write_chunk ≠ 0 ∧ write_chunk < frame.length then
      (List.range ((frame.length + write_chunk - 1) / write_chunk)).map fun i ↦
        (frame.drop (i * write_chunk)).take write_chunk
    else [frame]

/-- Pieces of one length, as many as it takes. -/
theorem flatten_pieces {α : Type} {c : ℕ} (n : ℕ) (l : List α) (hl : l.length ≤ n * c) :
    ((List.range n).map fun i ↦ (l.drop (i * c)).take c).flatten = l := by
  induction n generalizing l with
  | zero =>
    rw [zero_mul] at hl
    rw [List.length_eq_zero_iff.1 (Nat.le_zero.1 hl)]
    rfl
  | succ n ih =>
    rw [List.range_succ_eq_map, List.map_cons, List.flatten_cons, zero_mul, List.drop_zero,
      List.map_map]
    have hrest := ih (l.drop c) (by rw [List.length_drop, add_mul] at *; omega)
    have hshift : ((fun i ↦ (l.drop (i * c)).take c) ∘ Nat.succ) =
        fun i ↦ ((l.drop c).drop (i * c)).take c := by
      funext i
      rw [Function.comp, List.drop_drop, Nat.succ_mul, add_comm]
    rw [hshift, hrest, List.take_append_drop]

/-- **The pieces are the frame**, whatever their length. -/
theorem flatten_sendWrites {write_chunk : ℕ} {f : Frame} {writes : List Bytes}
    (h : sendWrites write_chunk f = .ok writes) : buildFrame f.1 f.2 = .ok writes.flatten := by
  obtain ⟨frame, hframe, hwrites⟩ := except_bind_eq_ok.1 h
  rw [hframe]
  obtain rfl := Except.ok.inj hwrites
  split_ifs with hcut
  · rw [flatten_pieces]
    have hpos := Nat.pos_of_ne_zero hcut.1
    have := Nat.div_add_mod (frame.length + write_chunk - 1) write_chunk
    have hmod := Nat.mod_lt (frame.length + write_chunk - 1) hpos
    rw [mul_comm] at this
    omega
  · rw [List.flatten_singleton]

/-! ### The line -/

/-- The bytes of frames on the line. -/
theorem flatten_mapM_sendWrites {write_chunk : ℕ} {fs : List Frame} {writes : List (List Bytes)}
    (h : fs.mapM (sendWrites write_chunk) = .ok writes) (hknown : ∀ f ∈ fs, BoardKnows f) :
    (∀ f ∈ fs, boardFormat.Fits f.1 f.2.length ∧ f.2.length < 65536) ∧
      writes.flatten.flatten = fs.flatMap fun f ↦ boardFormat.build f.1 f.2 := by
  induction fs generalizing writes with
  | nil =>
    cases h
    exact ⟨fun f hf ↦ absurd hf List.not_mem_nil, rfl⟩
  | cons f fs ih =>
    rw [List.mapM_cons] at h
    obtain ⟨first, hfirst, h⟩ := except_bind_eq_ok.1 h
    obtain ⟨rest, hrest, h⟩ := except_bind_eq_ok.1 h
    obtain rfl := Except.ok.inj h
    obtain ⟨hshort, hbytes⟩ := FrameParser.buildFrame_eq_ok (flatten_sendWrites hfirst)
    obtain ⟨hfits, hline⟩ := ih hrest fun g hg ↦ hknown g (List.mem_cons_of_mem _ hg)
    refine ⟨List.forall_mem_cons.2 ⟨⟨?_, lt_of_le_of_lt hshort (by decide)⟩, hfits⟩, ?_⟩
    · exact (boardFormat_fits_iff _ _).2 (hknown f List.mem_cons_self)
    · rw [List.flatten_cons, List.flatten_append, hline, hbytes, List.flatMap_cons,
        boardFormat_build]

/-- Frames back to back, to a receiver that is idle. -/
theorem feed_builds {F : Format} {fs : List Frame}
    (h : ∀ f ∈ fs, F.Fits f.1 f.2.length ∧ f.2.length < 65536) :
    feed F.step .idle (fs.flatMap fun f ↦ F.build f.1 f.2) = (.idle, fs) := by
  have hweave : F.weave [] (fs.map fun f ↦ (f, [])) = fs.flatMap fun f ↦ F.build f.1 f.2 := by
    clear h
    induction fs with
    | nil => rfl
    | cons f fs ih => rw [List.map_cons, Format.weave, ih, List.nil_append, List.flatMap_cons]
  rw [← hweave, Format.feed_weave List.not_mem_nil]
  · rw [List.map_map]
    exact congrArg _ (List.map_id fs)
  · intro f hf
    obtain ⟨g, hg, rfl⟩ := List.mem_map.1 hf
    exact ⟨(h g hg).1, (h g hg).2, List.not_mem_nil⟩

/-- The frames of a prefix of a stream are a prefix of its frames. -/
theorem feed_initial {σ φ : Type} {step : σ → UInt8 → σ × Option φ} (s : σ) {xs ys : Bytes}
    (h : xs <+: ys) : (feed step s xs).2 <+: (feed step s ys).2 := by
  obtain ⟨zs, rfl⟩ := h
  rw [feed_append]
  exact List.prefix_append _ _

/-! ### Whatever happens -/

/-- What a step of the parser is to a receiver. A reset gives up a frame in progress as a timeout
does. -/
def linkEvent : ParserOp → LinkEvent
  | .byte b => .chunk [b]
  | .timeout => .timeout
  | .reset => .timeout

theorem stream_linkEvents (log : List ParserOp) :
    stream (log.map linkEvent) = log.filterMap ParserOp.fed := by
  induction log with
  | nil => rfl
  | cons op log ih =>
    cases op with
    | byte b => exact congrArg (b :: ·) ih
    | timeout | reset => exact ih

/-- The parser follows the receiver through bytes, timeouts and resets. -/
theorem replay_follows {p : ProtoParser} {q : boardFormat.State} (h : ProtoFollows p q)
    (fs : List Frame) (log : List ParserOp) :
    (run parserStep (p, fs) log).2 =
      fs ++ (serve boardFormat.step boardFormat.timeout q (log.map linkEvent)).2 := by
  induction log generalizing p q fs with
  | nil => exact (List.append_nil fs).symm
  | cons op log ih =>
    rw [run_cons, List.map_cons]
    cases op with
    | byte b =>
      obtain ⟨hnext, hout⟩ := protoFeed_follows p q b h
      rw [parserStep, ih hnext, hout, linkEvent, serve, feed, feed, List.append_nil,
        List.append_assoc]
    | timeout => exact ih (protoParserTimeout_follows p q h) fs
    | reset => exact ih (protoFollows_idle rfl) fs

theorem CutFrom.append_right {fs : List Frame} {s : Bytes} (h : CutFrom fs s) (more : Bytes) :
    CutFrom fs (s ++ more) := by
  induction fs generalizing s with
  | nil => trivial
  | cons f fs ih =>
    obtain ⟨gap, bytes, rest, rfl, hbuild, hrest⟩ := h
    exact ⟨gap, bytes, rest ++ more, List.append_assoc _ _ _, hbuild, ih hrest⟩

/-- **The receive path, whatever happens**: any buffers, interrupts anywhere in the handler, the
line going down, timeouts at any time. The parser has seen the accepted bytes in order and each
once, and what found no room is counted; what the callback was given was cut from the accepted
bytes, frame by frame as `build_frame` writes them; and 2113 steps of the handler bring it to every
byte that has been accepted. -/
theorem receive_path (evs : List RxEvent) :
    let s := run UartRx.step .init evs
    s.Receives ∧ s.buffers.flatten = evs.flatMap RxEvent.data ∧ CutFrom s.frames s.accepted ∧
      ∀ n, 2113 ≤ n →
        (run UartRx.step s (List.replicate n .work)).log.filterMap ParserOp.fed =
          (run UartRx.step s (List.replicate n .work)).accepted := by
  intro s
  have h : s.Receives := UartRx.receives_run evs
  refine ⟨h, UartRx.buffers_run evs, ?_, fun n hn ↦ ?_⟩
  · have hframes := congrArg Prod.snd h.replay
    rw [replay_follows (protoFollows_idle rfl), List.nil_append] at hframes
    have hoccurs := Format.occurs_serve (.idle : boardFormat.State) (s.log.map linkEvent)
    rw [stream_linkEvents] at hoccurs
    have hcut : CutFrom s.frames (s.log.filterMap ParserOp.fed) := by
      rw [show s.frames = _ from hframes]
      refine cutFrom_of_occurs (F := boardFormat) (fun f hf ↦ ?_) hoccurs
      obtain ⟨hcap, hlen⟩ := (boardFormat_fits_iff _ _).1 hf
      rw [FrameParser.buildFrame_eq f.1 (hlen.trans ((maxLenFor_le f.1).resolve_left hcap)),
        boardFormat_build]
    rw [← h.stream, List.append_assoc]
    exact hcut.append_right _
  · have hdrained := UartRx.unread_drained h ((UartRx.toGo_le h).trans hn)
    have hkept : (run UartRx.step s (List.replicate n .work)).Receives :=
      run_invariant UartRx.step (fun _ ev h ↦ h.step ev) h _
    have hstream := hkept.stream
    rw [List.append_assoc] at hstream
    rw [← hstream, ← UartRx.unread, hdrained, List.append_nil]

/-! ### When nothing comes between -/

/-- **What the host sends is what the board is given.** Frames of types that the board knows, in
writes of any length; any cut of the line into buffers and any interleaving of interrupts and
handlers in which nothing comes between the bytes. The callback has been given a first part of the
frames that were sent, each once and in order; and once all bytes are there, 2113 further steps of
the handler bring it to all of them, whatever state they start in. -/
theorem frames_received {write_chunk : ℕ} {fs : List Frame} {writes : List (List Bytes)}
    (hsend : fs.mapM (sendWrites write_chunk) = .ok writes) (hknown : ∀ f ∈ fs, BoardKnows f)
    {evs : List RxEvent} (hevs : Guarded UartRx.step UartRx.Undisturbed .init evs)
    (hline : evs.flatMap RxEvent.data <+: writes.flatten.flatten) :
    (run UartRx.step .init evs).frames <+: fs ∧
      (evs.flatMap RxEvent.data = writes.flatten.flatten → ∀ n, 2113 ≤ n →
        (run UartRx.step .init (evs ++ List.replicate n .work)).frames = fs) := by
  obtain ⟨hfits, hbytes⟩ := flatten_mapM_sendWrites hsend hknown
  have hfeed : (feed protoFeed protoParserInit writes.flatten.flatten).2 = fs := by
    rw [(feed_related protoFeed_follows (protoFollows_idle rfl) _).2, hbytes, feed_builds hfits]
  constructor
  · obtain ⟨fed, hfed, hframes⟩ := UartRx.undisturbed_run hevs
    rw [hframes, ← hfeed]
    exact feed_initial _ ((List.prefix_append _ _).trans (hfed ▸ hline))
  · intro hall n hn
    have hwork := UartRx.guarded_replicate_work (run UartRx.step .init evs) n
    obtain ⟨fed, hfed, hframes⟩ := UartRx.undisturbed_run (guarded_append.2 ⟨hevs, hwork⟩)
    have hreceives := UartRx.receives_run evs
    have hdrained := UartRx.unread_drained hreceives ((UartRx.toGo_le hreceives).trans hn)
    rw [run_append, hdrained, List.append_nil, List.flatMap_append] at hfed
    have hnone : (List.replicate n RxEvent.work).flatMap RxEvent.data = [] := by
      rw [List.flatMap_replicate]
      exact List.flatten_replicate_nil
    rw [hframes, hfed, hnone, List.append_nil, hall, hfeed]

/-- A NETWORK frame and a PING behind it. -/
def networkThenPing : List Frame :=
  [(FrameType.value .network, [1, 21, 22]), (FrameType.value .ping, [])]

/-- What `send` writes of them, four bytes at a time. -/
def networkThenPingWrites : List (List Bytes) :=
  [[[126, 78, 3, 0], [1, 21, 22, 48], [179]], [[126, 80, 0, 0], [82, 146]]]

/-- They arrive in three buffers that are cut elsewhere: the second, which comes while the handler
is inside the first frame, ends that frame and begins the next one. -/
def networkThenPingRun : List RxEvent :=
  [.idle, .rxRdy [126, 78, 3], .work, .work, .work, .rxRdy [0, 1, 21, 22, 48, 179, 126, 80], .work,
    .work, .rxRdy [0, 0, 82, 146], .work]

theorem frames_received_pair :
    networkThenPing.mapM (sendWrites 4) = .ok networkThenPingWrites ∧
      (run UartRx.step .init (networkThenPingRun ++ List.replicate 2113 .work)).frames =
        networkThenPing := by
  have hbuilt : buildFrame (FrameType.value .network) [1, 21, 22] =
      .ok [126, 78, 3, 0, 1, 21, 22, 48, 179] := by
    rw [FrameParser.buildFrame_eq _ (by decide)]
    exact congrArg _ (by decide +kernel)
  have hnetwork : sendWrites 4 (FrameType.value .network, [1, 21, 22]) =
      .ok [[126, 78, 3, 0], [1, 21, 22, 48], [179]] := by
    rw [sendWrites, hbuilt]
    rfl
  have hping : sendWrites 4 (FrameType.value .ping, []) = .ok [[126, 80, 0, 0], [82, 146]] := rfl
  have hsend : networkThenPing.mapM (sendWrites 4) = .ok networkThenPingWrites := by
    rw [networkThenPing, List.mapM_cons, List.mapM_cons, hnetwork, hping]
    rfl
  have hknown : ∀ f ∈ networkThenPing, BoardKnows f := by
    rintro f (_ | ⟨_, _ | ⟨_, ⟨⟩⟩⟩)
    · exact ⟨by decide, by decide⟩
    · exact ⟨by decide, by decide⟩
  have hevs : Guarded UartRx.step UartRx.Undisturbed .init networkThenPingRun := by decide
  exact ⟨hsend, (frames_received hsend hknown hevs (by decide)).2 (by decide) 2113 le_rfl⟩

end VertexTestbed.Conformance
