import VertexTestbed.Host.FrameParser
import VertexTestbed.Host.Relay

/-!
# The request/reply slot of the serial link

`SerialLink.request` and `SerialLink._dispatch` of `serial/link.py`, statement by statement: the
caller's thread and the reader's thread share `_reply`, `_reply_ready` and `_awaiting` with no lock
between them, so a step here is one statement of one of them. `Phase` is where the caller is in
`request` and `Reader` where the reader is in `_dispatch`.

Requests are numbered and an inbound frame remembers which request the board answered with it; the
code reads neither. Frames here are whole: `Conformance.Framing` is what the bytes below them do.
-/

namespace VertexTestbed.Host

/-! ### Acknowledgements -/

/-- `decode_ack`: the frame type and the signed status. -/
def decodeAck (payload : Bytes) : Except EncodeError (UInt8 × ℤ) :=
  match payload with
  | [type, status] => .ok (type, leInt [status])
  | _ => .error (.proto ("ACK/ERR payload must be 2 bytes, got " ++ toString payload.length))

/-- `_REPLY_TYPES`. -/
def replyTypes : List UInt8 :=
  [FrameType.value .ack, FrameType.value .err, FrameType.value .pong, FrameType.value .stats,
    FrameType.value .txat]

/-- What `request` raises. -/
inductive LinkError where
  /-- `send` raised: the link is not open, or the payload too long. -/
  | send
  /-- No reply within the timeout. -/
  | noReply (frame_type : UInt8)
  /-- The event was set but the slot is empty. -/
  | slotEmpty (frame_type : UInt8)
  /-- An ERR frame with an undecodable payload. -/
  | undecodable
  /-- `LinkRejected`. -/
  | rejected (frame_type : UInt8) (status : ℤ)
  deriving DecidableEq

/-! ### The shared state -/

/-- One call of `request`. -/
structure Request where
  number : ℕ
  frame : Frame
  deriving DecidableEq

/-- A frame from the board, and the request it answers. -/
structure Inbound where
  frame : Frame
  answers : Option Request
  deriving DecidableEq

/-- Where the reader is in `_dispatch`. -/
inductive Reader where
  /-- Between frames. -/
  | idle
  /-- Past the gate with a reply in hand. -/
  | admitted (m : Inbound)
  /-- The reply is in the slot, the event not yet set. -/
  | stored
  deriving DecidableEq

/-- Where the caller is in `request`. -/
inductive Phase where
  | idle
  /-- The lock is held. -/
  | entered
  /-- Behind `self._reply = None`. -/
  | emptied
  /-- Behind `self._reply_ready.clear()`. -/
  | unset
  /-- Behind `self._awaiting = True`. -/
  | armed
  /-- In `wait`. -/
  | waiting
  /-- `wait` returned true. -/
  | woken
  /-- Behind `reply = self._reply`. -/
  | taken (reply : Option Inbound)
  /-- An exception is on its way to `finally`. -/
  | failing (e : LinkError)
  deriving DecidableEq

/-- From here on the slot belongs to the open request, until the caller reads it. -/
def Phase.slotOpen : Phase → Bool
  | .emptied | .unset | .armed | .waiting | .woken => true
  | _ => false

/-- The open request has not been written yet. -/
def Phase.unsent : Phase → Bool
  | .entered | .emptied | .unset | .armed => true
  | _ => false

/-- `LinkCounters`, the ones that `request` and `_dispatch` keep. -/
structure LinkCounters where
  frames_in : ℕ
  frames_out : ℕ
  states : ℕ
  unsolicited : ℕ
  unknown_frames : ℕ
  deriving DecidableEq

/-- `SerialLink`. -/
structure SerialLink where
  reply : Option Inbound
  replyReady : Bool
  awaiting : Bool
  phase : Phase
  reader : Reader
  request : Request
  counters : LinkCounters

namespace SerialLink

/-- `__init__`. Requests are numbered from 1. -/
def init : SerialLink where
  reply := none
  replyReady := false
  awaiting := false
  phase := .idle
  reader := .idle
  request := ⟨0, (0, [])⟩
  counters := ⟨0, 0, 0, 0, 0⟩

/-! ### The caller -/

/-- `request` takes the lock. -/
def enter (l : SerialLink) (frame : Frame) : SerialLink :=
  { l with phase := .entered, request := ⟨l.request.number + 1, frame⟩ }

/-- `self._reply = None`. -/
def emptySlot (l : SerialLink) : SerialLink :=
  { l with reply := none, phase := .emptied }

/-- `self._reply_ready.clear()`. -/
def clearReady (l : SerialLink) : SerialLink :=
  { l with replyReady := false, phase := .unset }

/-- `self._awaiting = True`. -/
def arm (l : SerialLink) : SerialLink :=
  { l with awaiting := true, phase := .armed }

/-- `self.send(...)` returned. -/
def sent (l : SerialLink) : SerialLink :=
  { l with
    phase := .waiting
    counters := { l.counters with frames_out := l.counters.frames_out + 1 } }

/-- `self.send(...)` raised. -/
def sendRaised (l : SerialLink) : SerialLink :=
  { l with phase := .failing .send }

/-- `wait` returns true. -/
def wake (l : SerialLink) : SerialLink :=
  if l.replyReady then { l with phase := .woken } else l

/-- `wait` runs out of time. -/
def expire (l : SerialLink) : SerialLink :=
  { l with phase := .failing (.noReply l.request.frame.1) }

/-- `reply = self._reply`. -/
def take (l : SerialLink) : SerialLink :=
  { l with phase := .taken l.reply }

/-- `finally: self._awaiting = False`, and the lock released. -/
def leave (l : SerialLink) : SerialLink :=
  { l with awaiting := false, phase := .idle }

/-- The caller's next statement, where it touches nothing but the shared state. -/
def advance (l : SerialLink) : SerialLink :=
  match l.phase with
  | .entered => l.emptySlot
  | .emptied => l.clearReady
  | .unset => l.arm
  | .waiting => l.wake
  | .woken => l.take
  | _ => l

/-- What `request` does with the reply it read: it returns it, or raises. -/
def replyResult (frame_type : UInt8) : Option Inbound → Except LinkError Inbound
  | none => .error (.slotEmpty frame_type)
  | some m =>
    if m.frame.1 = FrameType.value .err then
      match decodeAck m.frame.2 with
      | .ok (rejected, status) => .error (.rejected rejected status)
      | .error _ => .error .undecodable
    else .ok m

/-- A normal return is of the reply read, and that reply is not an ERR. -/
theorem replyResult_eq_ok {frame_type : UInt8} {reply : Option Inbound} {m : Inbound}
    (h : replyResult frame_type reply = .ok m) :
    reply = some m ∧ m.frame.1 ≠ FrameType.value .err := by
  cases reply with
  | none => cases h
  | some m' =>
    rw [replyResult] at h
    by_cases herr : m'.frame.1 = FrameType.value .err
    · rw [if_pos herr] at h
      split at h
      · cases h
      · cases h
    · rw [if_neg herr] at h
      cases h
      exact ⟨rfl, herr⟩

/-! ### The reader -/

/-- `_dispatch`, up to the gate. A reply that finds no request waiting, or the slot already filled,
is counted and dropped. -/
def dispatch (l : SerialLink) (m : Inbound) : SerialLink :=
  let l := { l with counters := { l.counters with frames_in := l.counters.frames_in + 1 } }
  if m.frame.1 = FrameType.value .state then
    { l with counters := { l.counters with states := l.counters.states + 1 } }
  else if m.frame.1 ∈ replyTypes then
    if l.awaiting = false ∨ l.replyReady = true then
      { l with counters := { l.counters with unsolicited := l.counters.unsolicited + 1 } }
    else { l with reader := .admitted m }
  else { l with counters := { l.counters with unknown_frames := l.counters.unknown_frames + 1 } }

/-- `self._reply = frame`. -/
def store (l : SerialLink) (m : Inbound) : SerialLink :=
  { l with reply := some m, reader := .stored }

/-- `self._reply_ready.set()`. -/
def setReady (l : SerialLink) : SerialLink :=
  { l with replyReady := true, reader := .idle }

/-- **Dispatch only admits**: it moves the reader to the frame it was given, or leaves the threads
where they were. -/
theorem dispatch_cases (l : SerialLink) (m : Inbound) :
    (l.dispatch m).reply = l.reply ∧ (l.dispatch m).phase = l.phase ∧
      (l.dispatch m).request = l.request ∧
      ((l.dispatch m).reader = l.reader ∨ (l.dispatch m).reader = .admitted m) := by
  rw [dispatch]
  split_ifs
  · exact ⟨rfl, rfl, rfl, Or.inl rfl⟩
  · exact ⟨rfl, rfl, rfl, Or.inl rfl⟩
  · exact ⟨rfl, rfl, rfl, Or.inr rfl⟩
  · exact ⟨rfl, rfl, rfl, Or.inl rfl⟩

/-! ### The replies a link holds -/

/-- The link has the reply: in the reader's hands, in the slot, or read by the caller. -/
def Has (l : SerialLink) (m : Inbound) : Prop :=
  l.reader = .admitted m ∨ l.reply = some m ∨ l.phase = .taken (some m)

/-- A link that has moved neither reader nor slot, and has not read the slot, has nothing new. -/
theorem Has.of_untaken {l l' : SerialLink} {m : Inbound} (h : l'.Has m)
    (hreader : l'.reader = l.reader) (hreply : l'.reply = l.reply)
    (hphase : ∀ m, l'.phase ≠ .taken (some m)) : l.Has m := by
  obtain h | h | h := h
  · exact Or.inl (hreader.symm.trans h)
  · exact Or.inr (Or.inl (hreply.symm.trans h))
  · exact absurd h (hphase m)

/-- What the open request is going to return, as things stand. -/
def pending (l : SerialLink) : Option Inbound :=
  match l.phase with
  | .taken reply => reply
  | phase => if phase.slotOpen then l.reply else none

theorem wake_cases (l : SerialLink) : l.wake = l ∨ l.wake = { l with phase := .woken } := by
  rw [wake]
  split_ifs
  · exact Or.inr rfl
  · exact Or.inl rfl

/-- **The caller brings no reply of its own**: what it has, and what it is going to return, it had.
-/
theorem advance_keeps (l : SerialLink) :
    (∀ m, l.advance.Has m → l.Has m) ∧ (∀ m, l.advance.pending = some m → l.pending = some m) ∧
      l.advance.request = l.request ∧ (l.phase ≠ .idle → l.advance.phase ≠ .idle) := by
  obtain ⟨reply, replyReady, awaiting, phase, reader, request, counters⟩ := l
  cases phase with
  | entered =>
    refine ⟨?_, fun m hm ↦ hm, rfl, fun _ h ↦ by cases h⟩
    rintro m (h | h | h)
    · exact Or.inl h
    · cases h
    · cases h
  | emptied =>
    exact ⟨fun m hm ↦ hm.of_untaken rfl rfl (fun _ h ↦ by cases h), fun m hm ↦ hm, rfl,
      fun _ h ↦ by cases h⟩
  | unset =>
    exact ⟨fun m hm ↦ hm.of_untaken rfl rfl (fun _ h ↦ by cases h), fun m hm ↦ hm, rfl,
      fun _ h ↦ by cases h⟩
  | waiting =>
    show (∀ m, (wake _).Has m → _) ∧ (∀ m, (wake _).pending = some m → _) ∧
      (wake _).request = _ ∧ (_ → (wake _).phase ≠ _)
    obtain hstay | hwoken := wake_cases
      ⟨reply, replyReady, awaiting, .waiting, reader, request, counters⟩
    · rw [hstay]
      exact ⟨fun m hm ↦ hm, fun m hm ↦ hm, rfl, fun h ↦ h⟩
    · rw [hwoken]
      exact ⟨fun m hm ↦ hm.of_untaken rfl rfl (fun _ h ↦ by cases h), fun m hm ↦ hm, rfl,
        fun _ h ↦ by cases h⟩
  | woken =>
    refine ⟨?_, fun m hm ↦ hm, rfl, fun _ h ↦ by cases h⟩
    rintro m (h | h | h)
    · exact Or.inl h
    · exact Or.inr (Or.inl h)
    · exact Or.inr (Or.inl (Phase.taken.inj h))
  | _ => exact ⟨fun m hm ↦ hm, fun m hm ↦ hm, rfl, fun h ↦ h⟩

/-- A request the caller has not written after its statement, it had not written before. -/
theorem advance_unsent {l : SerialLink} (h : l.advance.phase.unsent = true) :
    l.phase.unsent = true := by
  obtain ⟨reply, replyReady, awaiting, phase, reader, request, counters⟩ := l
  cases phase with
  | waiting =>
    obtain hstay | hwoken := wake_cases
      ⟨reply, replyReady, awaiting, .waiting, reader, request, counters⟩
    · exact (congrArg (fun l ↦ l.phase.unsent) hstay).symm.trans h
    · exact (congrArg (fun l ↦ l.phase.unsent) hwoken).symm.trans h
  | woken => cases h
  | entered => rfl
  | emptied => rfl
  | unset => rfl
  | _ => exact h

end SerialLink

/-! ### What the relay asks of it -/

/-- One `request` of the relay. `required` is false where the relay catches what it raises. -/
structure Call where
  frame : Frame
  required : Bool
  deriving DecidableEq

/-- `_send`: any exception ends the job, as a `RelayError`. -/
def Call.send (f : OutFrame) : Call :=
  ⟨(f.1.value, f.2), true⟩

/-- `read_stats`: best effort. -/
def Call.readStats : Call :=
  ⟨(FrameType.value .statsReq, []), false⟩

/-- The frames of a configure: the assignment's, and a RADIO frame when one is given. -/
def configureFrames (frames : List OutFrame) (radio : Option Bytes) : List OutFrame :=
  frames ++ (radio.map fun payload ↦ (.radio, payload)).toList

/-- `configure`, as the calls it makes in order. -/
def configureCalls (frames : List OutFrame) (radio : Option Bytes) : List Call :=
  (configureFrames frames radio).map Call.send ++ [Call.readStats]

end VertexTestbed.Host
