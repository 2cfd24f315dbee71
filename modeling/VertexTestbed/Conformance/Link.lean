import VertexTestbed.Lib.Runs
import VertexTestbed.Conformance.Configure
import VertexTestbed.Host.Link
import VertexTestbed.Firmware.Control

/-!
# Replies and requests on the serial link

A relay, its link's two threads, the line in both directions and the board, as one machine. The host
issues requests one at a time; the board answers each at most once and in order, whenever it gets to
it; frames may be lost on the way; the caller may time out at any moment.

The gate that is to keep late replies out (`_awaiting`) is open again as soon as the next request is
waiting, and the slot does not ask which request a frame answers. `Timely` is the condition under
which that does no harm: what is stored while a request has the slot answers that request.
-/

namespace VertexTestbed.Conformance

open Host Firmware Runs

/-! ### The machine -/

/-- A sequence of requests of the relay: what it was asked to call, what is left, and the required
calls that returned. -/
structure Job where
  calls : List Call
  todo : List Call
  done : List (Request × Inbound)

/-- The state of a session. `answered`, `returned` and `completed` are its history: the replies the
board has given, the requests that returned normally, the jobs that did. -/
structure Session (K : Type) where
  link : SerialLink
  job : Option Job
  plane : ControlPlane K
  toBoard : List Request
  toHost : List Inbound
  answered : List Inbound
  returned : List (Request × Inbound)
  completed : List Job

/-- One step of one party, or of the line. -/
inductive Act (K : Type) where
  /-- The relay starts a job. -/
  | start (calls : List Call)
  /-- The caller's next statement; `raises` is what becomes of the write, if it is that one. -/
  | caller (raises : Bool)
  /-- The caller's `wait` runs out of time. -/
  | expire
  /-- The reader's next statement; between frames it takes the next one off the port. -/
  | reader
  /-- The board answers the oldest request on the line. -/
  | answer (e : ControlEnv)
  /-- The board's other threads run. -/
  | board (plane : ControlPlane K)
  /-- The board sends a STATE report. -/
  | report (payload : Bytes)
  | loseRequest
  | loseReply

namespace Session

variable {K : Type}

/-- Nothing asked, nothing on the line. -/
def init (plane : ControlPlane K) : Session K where
  link := .init
  job := none
  plane := plane
  toBoard := []
  toHost := []
  answered := []
  returned := []
  completed := []

/-- The relay goes on with a job, or is done with it. -/
def proceed (s : Session K) (j : Job) : Session K :=
  if j.todo = [] then { s with job := none, completed := s.completed ++ [j] }
  else { s with job := some j }

/-- `request` comes back to the relay. -/
def finish (s : Session K) (r : Except LinkError Inbound) : Session K :=
  match s.job with
  | some ⟨calls, c :: todo, done⟩ =>
    match r with
    | .ok m =>
      proceed
        { s with link := s.link.leave, returned := s.returned ++ [(s.link.request, m)] }
        ⟨calls, todo, if c.required then done ++ [(s.link.request, m)] else done⟩
    | .error _ =>
      if c.required then { s with link := s.link.leave, job := none }
      else proceed { s with link := s.link.leave } ⟨calls, todo, done⟩
  | _ => { s with link := s.link.leave }

/-- The caller's next statement. -/
def callerStep (s : Session K) (raises : Bool) : Session K :=
  match s.link.phase with
  | .idle =>
    match s.job with
    | some ⟨_, c :: _, _⟩ => { s with link := s.link.enter c.frame }
    | _ => s
  | .armed =>
    if raises then { s with link := s.link.sendRaised }
    else { s with link := s.link.sent, toBoard := s.toBoard ++ [s.link.request] }
  | .taken reply => s.finish (SerialLink.replyResult s.link.request.frame.1 reply)
  | .failing e => s.finish (.error e)
  | _ => { s with link := s.link.advance }

/-- The reader's next statement. -/
def readerStep (s : Session K) : Session K :=
  match s.link.reader with
  | .idle =>
    match s.toHost with
    | m :: ms => { s with link := s.link.dispatch m, toHost := ms }
    | [] => s
  | .admitted m => { s with link := s.link.store m }
  | .stored => { s with link := s.link.setReady }

section Board

variable [Field K] [LinearOrder K] [IsStrictOrderedRing K] [FloorRing K]

/-- The board answers the request `q`. -/
def answer (s : Session K) (e : ControlEnv) (q : Request) : Session K :=
  let r := controlOnFrame e s.plane q.frame.1 q.frame.2
  let m : Inbound := ⟨r.2, some q⟩
  { s with plane := r.1, toHost := s.toHost ++ [m], answered := s.answered ++ [m] }

/-- A step of the session; a step that is not enabled changes nothing. -/
def step (s : Session K) : Act K → Session K
  | .start calls =>
    if s.job.isNone ∧ s.link.phase = .idle then s.proceed ⟨calls, calls, []⟩ else s
  | .caller raises => s.callerStep raises
  | .expire => if s.link.phase = .waiting then { s with link := s.link.expire } else s
  | .reader => s.readerStep
  | .answer e =>
    match s.toBoard with
    | q :: qs => answer { s with toBoard := qs } e q
    | [] => s
  | .board plane => { s with plane := plane }
  | .report payload =>
    { s with toHost := s.toHost ++ [⟨(FrameType.value .state, payload), none⟩] }
  | .loseRequest => { s with toBoard := s.toBoard.tail }
  | .loseReply => { s with toHost := s.toHost.tail }

end Board

/-! ### What is asked of a run -/

/-- **Nothing stale is stored while a request has the slot**: what the reader stores between the
caller's `_reply = None` and its reading of the slot answers the open request, or is an ERR. -/
def Timely (s : Session K) : Act K → Prop
  | .reader =>
    ∀ m, s.link.reader = .admitted m → s.link.phase.slotOpen = true →
      m.frame.1 ≠ FrameType.value .err → m.answers = some s.link.request
  | _ => True

instance decidableTimely (s : Session K) (a : Act K) : Decidable (Timely s a) :=
  match a with
  | .reader =>
    match h : s.link.reader with
    | .admitted m =>
      decidable_of_iff
        (s.link.phase.slotOpen = true → m.frame.1 ≠ FrameType.value .err →
          m.answers = some s.link.request)
        ⟨fun hm m' hm' ↦ by rw [h] at hm'; cases hm'; exact hm, fun hall ↦ hall m h⟩
    | .idle => .isTrue fun m hm ↦ by rw [h] at hm; cases hm
    | .stored => .isTrue fun m hm ↦ by rw [h] at hm; cases hm
  | .start _ | .caller _ | .expire | .answer _ | .board _ | .report _ | .loseRequest
  | .loseReply => .isTrue trivial

/-- The reply is the board's, to that very request, and no refusal. -/
def Matched (s : Session K) (d : Request × Inbound) : Prop :=
  d.2 ∈ s.answered ∧ d.2.answers = some d.1 ∧ d.2.frame.1 ≠ FrameType.value .err

/-! ### Where a request comes back -/

/-- Going on with a job moves nothing but the job. -/
theorem proceed_frame (s : Session K) (j : Job) :
    (s.proceed j).link = s.link ∧ (s.proceed j).toHost = s.toHost ∧
      (s.proceed j).answered = s.answered ∧ (s.proceed j).returned = s.returned := by
  rw [proceed]
  split_ifs
  · exact ⟨rfl, rfl, rfl, rfl⟩
  · exact ⟨rfl, rfl, rfl, rfl⟩

/-- **A request comes back** with the lock released, the line and the board's history as they were,
and at most one more normal return: of the open request, with the reply `r`. -/
theorem finish_frame (s : Session K) (r : Except LinkError Inbound) :
    (s.finish r).link = s.link.leave ∧ (s.finish r).toHost = s.toHost ∧
      (s.finish r).answered = s.answered ∧
      ((s.finish r).returned = s.returned ∨
        ∃ m, r = .ok m ∧ (s.finish r).returned = s.returned ++ [(s.link.request, m)]) := by
  rw [finish]
  split
  case h_1 calls c todo done hjob =>
    cases r with
    | ok m =>
      obtain ⟨hlink, hhost, hans, hret⟩ := proceed_frame
        { s with link := s.link.leave, returned := s.returned ++ [(s.link.request, m)] }
        ⟨calls, todo, if c.required then done ++ [(s.link.request, m)] else done⟩
      exact ⟨hlink, hhost, hans, Or.inr ⟨m, rfl, hret⟩⟩
    | error e =>
      dsimp only
      split_ifs
      · exact ⟨rfl, rfl, rfl, Or.inl rfl⟩
      · obtain ⟨hlink, hhost, hans, hret⟩ :=
          proceed_frame { s with link := s.link.leave } ⟨calls, todo, done⟩
        exact ⟨hlink, hhost, hans, Or.inl hret⟩
  case h_2 => exact ⟨rfl, rfl, rfl, Or.inl rfl⟩

/-- **What a step of the caller leaves**: the line and the board's history stay, the link has no
reply it did not have, the open request is going to return nothing new, and a request that returned
normally returned the reply it was going to. -/
structure CallerFrame (s s' : Session K) : Prop where
  toHost : s'.toHost = s.toHost
  answered : s'.answered = s.answered
  has : ∀ m, s'.link.Has m → s.link.Has m
  pending : ∀ m, s'.link.pending = some m →
    s.link.pending = some m ∧ s'.link.request = s.link.request
  returned : s'.returned = s.returned ∨
    ∃ m, s.link.pending = some m ∧ m.frame.1 ≠ FrameType.value .err ∧
      s'.returned = s.returned ++ [(s.link.request, m)]

/-- Coming back, with a reply only if it was the one the request was going to return. -/
theorem callerFrame_finish (s : Session K) (r : Except LinkError Inbound)
    (hr : ∀ m, r = .ok m → s.link.pending = some m ∧ m.frame.1 ≠ FrameType.value .err) :
    CallerFrame s (s.finish r) := by
  obtain ⟨hlink, hhost, hans, hret⟩ := s.finish_frame r
  refine ⟨hhost, hans, ?_, ?_, ?_⟩
  · rw [hlink]
    exact fun m hm ↦ hm.of_untaken rfl rfl fun _ h ↦ by cases h
  · rw [hlink]
    intro m hm
    cases hm
  · obtain hsame | ⟨m, hm, hret⟩ := hret
    · exact Or.inl hsame
    · obtain ⟨hpending, herr⟩ := hr m hm
      exact Or.inr ⟨m, hpending, herr, hret⟩

/-- A step of the caller that only moves the link. -/
theorem callerFrame_link {s s' : Session K} (htoHost : s'.toHost = s.toHost)
    (hanswered : s'.answered = s.answered) (hreturned : s'.returned = s.returned)
    (hhas : ∀ m, s'.link.Has m → s.link.Has m)
    (hpending : ∀ m, s'.link.pending = some m →
      s.link.pending = some m ∧ s'.link.request = s.link.request) : CallerFrame s s' :=
  ⟨htoHost, hanswered, hhas, hpending, Or.inl hreturned⟩

theorem callerFrame_callerStep (s : Session K) (raises : Bool) :
    CallerFrame s (s.callerStep raises) := by
  obtain ⟨hhas, hpending, hrequest, -⟩ := s.link.advance_keeps
  have hadvance : CallerFrame s { s with link := s.link.advance } :=
    callerFrame_link rfl rfl rfl hhas fun m hm ↦ ⟨hpending m hm, hrequest⟩
  have hself : CallerFrame s s :=
    callerFrame_link rfl rfl rfl (fun m hm ↦ hm) fun m hm ↦ ⟨hm, rfl⟩
  rw [callerStep]
  split
  case h_1 hidle =>
    split
    · exact callerFrame_link rfl rfl rfl
        (fun m hm ↦ hm.of_untaken rfl rfl (fun _ h ↦ by cases h)) fun m hm ↦ by cases hm
    · exact hself
  case h_2 harmed =>
    -- The write keeps the slot; an exception gives it up.
    have hslot : s.link.pending = s.link.reply := by rw [SerialLink.pending, harmed]; rfl
    split_ifs
    · exact callerFrame_link rfl rfl rfl
        (fun m hm ↦ hm.of_untaken rfl rfl (fun _ h ↦ by cases h)) fun m hm ↦ by cases hm
    · exact callerFrame_link rfl rfl rfl
        (fun m hm ↦ hm.of_untaken rfl rfl (fun _ h ↦ by cases h)) fun m hm ↦ ⟨hslot.trans hm, rfl⟩
  case h_3 reply htaken =>
    refine callerFrame_finish s _ fun m hm ↦ ?_
    obtain ⟨rfl, herr⟩ := SerialLink.replyResult_eq_ok hm
    exact ⟨by rw [SerialLink.pending, htaken], herr⟩
  case h_4 e hfailing => exact callerFrame_finish s _ fun m hm ↦ by cases hm
  case h_5 => exact hadvance

/-! ### Replies -/

/-- **Replies are the board's**, and what the open request is going to return answers it. -/
structure Attributed (s : Session K) : Prop where
  onLine : ∀ m ∈ s.toHost, ∀ q, m.answers = some q → m ∈ s.answered
  inHand : ∀ m, s.link.Has m → ∀ q, m.answers = some q → m ∈ s.answered
  own : ∀ m, s.link.pending = some m → m.frame.1 ≠ FrameType.value .err →
    m.answers = some s.link.request
  returned : ∀ d ∈ s.returned, s.Matched d

/-- Before the first request. -/
theorem attributed_init (plane : ControlPlane K) : (init plane).Attributed where
  onLine := fun _ hm ↦ absurd hm List.not_mem_nil
  inHand := by
    rintro m (h | h | h)
    · cases h
    · cases h
    · cases h
  own := fun m hm ↦ by cases hm
  returned := fun _ hd ↦ absurd hd List.not_mem_nil

/-- What a link is going to return, it has. -/
theorem has_of_pending {l : SerialLink} {m : Inbound} (h : l.pending = some m) : l.Has m := by
  rw [SerialLink.pending] at h
  split at h
  case h_1 reply hphase => exact Or.inr (Or.inr (hphase.trans (congrArg Phase.taken h)))
  case h_2 =>
    split_ifs at h
    exact Or.inr (Or.inl h)

/-- A step of the caller. -/
theorem Attributed.caller {s s' : Session K} (h : s.Attributed) (hstep : CallerFrame s s') :
    s'.Attributed := by
  have hmatched : ∀ d, s.Matched d → s'.Matched d := by
    intro d hd
    rw [Matched, hstep.answered]
    exact hd
  refine ⟨?_, ?_, ?_, ?_⟩
  · rw [hstep.toHost, hstep.answered]
    exact h.onLine
  · rw [hstep.answered]
    exact fun m hm ↦ h.inHand m (hstep.has m hm)
  · intro m hm herr
    obtain ⟨hold, hrequest⟩ := hstep.pending m hm
    rw [hrequest]
    exact h.own m hold herr
  · intro d hd
    obtain hsame | ⟨m, hpending, herr, hret⟩ := hstep.returned
    · exact hmatched d (h.returned d (by rwa [hsame] at hd))
    · rw [hret, List.mem_append, List.mem_singleton] at hd
      obtain hd | rfl := hd
      · exact hmatched d (h.returned d hd)
      · -- The reply that comes back is the one the request was going to return.
        have hown := h.own m hpending herr
        exact hmatched _ ⟨h.inHand m (has_of_pending hpending) _ hown, hown, herr⟩

/-- A step of the reader, where what it stores is timely. -/
theorem Attributed.reader {s : Session K} (h : s.Attributed)
    (hok : ∀ m, s.link.reader = .admitted m → s.link.phase.slotOpen = true →
      m.frame.1 ≠ FrameType.value .err → m.answers = some s.link.request) :
    s.readerStep.Attributed := by
  rw [readerStep]
  split
  case h_1 hidle =>
    split
    case h_1 m ms hline =>
      obtain ⟨hreply, hphase, hrequest, hreader⟩ := s.link.dispatch_cases m
      have hpending : (s.link.dispatch m).pending = s.link.pending := by
        rw [SerialLink.pending, SerialLink.pending, hreply, hphase]
      refine ⟨fun m' hm' ↦ h.onLine m' (by rw [hline]; exact List.mem_cons_of_mem _ hm'), ?_, ?_,
        h.returned⟩
      · rintro m' (hm' | hm' | hm')
        · rw [hreader.resolve_left fun hsame ↦ by rw [hsame, hidle] at hm'; cases hm'] at hm'
          cases hm'
          exact h.onLine m (by rw [hline]; exact List.mem_cons_self)
        · exact h.inHand m' (Or.inr (Or.inl (hreply.symm.trans hm')))
        · exact h.inHand m' (Or.inr (Or.inr (hphase.symm.trans hm')))
      · intro m' hm' herr
        show m'.answers = some (s.link.dispatch m).request
        rw [hrequest]
        exact h.own m' (hpending.symm.trans hm') herr
    case h_2 => exact h
  case h_2 m hadmitted =>
    refine ⟨h.onLine, ?_, ?_, h.returned⟩
    · rintro m' (hm' | hm' | hm')
      · cases hm'
      · cases hm'
        exact h.inHand m (Or.inl hadmitted)
      · exact h.inHand m' (Or.inr (Or.inr hm'))
    · intro m' hm' herr
      -- In the slot of the open request, or of none; what the caller has read stays.
      rw [SerialLink.pending] at hm'
      split at hm'
      case h_1 reply hphase =>
        refine h.own m' ?_ herr
        rw [SerialLink.pending, show s.link.phase = .taken reply from hphase]
        exact hm'
      case h_2 =>
        split_ifs at hm' with hopen
        cases hm'
        exact hok m hadmitted hopen herr
  case h_3 hstored =>
    refine ⟨h.onLine, ?_, h.own, h.returned⟩
    rintro m' (hm' | hm' | hm')
    · cases hm'
    · exact h.inHand m' (Or.inr (Or.inl hm'))
    · exact h.inHand m' (Or.inr (Or.inr hm'))

section Board

variable [Field K] [LinearOrder K] [IsStrictOrderedRing K] [FloorRing K]

/-- The board answers the oldest request. -/
theorem Attributed.answer {s : Session K} (h : s.Attributed) (e : ControlEnv) (q : Request) :
    (s.answer e q).Attributed := by
  refine ⟨?_, ?_, h.own, ?_⟩
  · intro m hm q' hq
    obtain hm | hm := List.mem_append.mp hm
    · exact List.mem_append_left _ (h.onLine m hm q' hq)
    · exact List.mem_append_right _ hm
  · exact fun m hm q' hq ↦ List.mem_append_left _ (h.inHand m hm q' hq)
  · intro d hd
    obtain ⟨hmem, hown, herr⟩ := h.returned d hd
    exact ⟨List.mem_append_left _ hmem, hown, herr⟩

/-- A timely step attributes what it stores to the request that waits. -/
theorem attributed_step {s : Session K} {a : Act K} (h : s.Attributed) (hok : s.Timely a) :
    (s.step a).Attributed := by
  cases a with
  | start calls =>
    rw [step]
    split_ifs
    · obtain ⟨hlink, hhost, hans, hret⟩ := s.proceed_frame ⟨calls, calls, []⟩
      refine h.caller (callerFrame_link hhost hans hret ?_ ?_)
      · exact fun m hm ↦ by rwa [hlink] at hm
      · exact fun m hm ↦ by rw [hlink] at hm ⊢; exact ⟨hm, rfl⟩
    · exact h
  | caller raises => exact h.caller (callerFrame_callerStep s raises)
  | expire =>
    rw [step]
    split_ifs
    · exact h.caller (callerFrame_link rfl rfl rfl
        (fun m hm ↦ hm.of_untaken rfl rfl (fun _ h ↦ by cases h)) fun m hm ↦ by cases hm)
    · exact h
  -- The one step that can break it: a reply of an earlier request that waits where a later one
  -- does.
  | reader => exact h.reader hok
  | answer e =>
    rw [step]
    split
    case h_1 q qs _ =>
      have hpopped : Attributed { s with toBoard := qs } :=
        ⟨h.onLine, h.inHand, h.own, h.returned⟩
      exact hpopped.answer e q
    case h_2 => exact h
  | board plane => exact ⟨h.onLine, h.inHand, h.own, h.returned⟩
  | report payload =>
    refine ⟨?_, h.inHand, h.own, h.returned⟩
    intro m hm q hq
    obtain hm | hm := List.mem_append.mp hm
    · exact h.onLine m hm q hq
    · obtain rfl := List.mem_singleton.mp hm
      cases hq
  | loseRequest => exact ⟨h.onLine, h.inHand, h.own, h.returned⟩
  | loseReply =>
    exact ⟨fun m hm ↦ h.onLine m (List.mem_of_mem_tail hm), h.inHand, h.own, h.returned⟩

/-- What the board answered, it answered by `control_on_frame`. -/
def Genuine (s : Session K) : Prop :=
  ∀ m ∈ s.answered, ∀ q, m.answers = some q →
    ∃ (e : ControlEnv) (c : ControlPlane K), m.frame = (controlOnFrame e c q.frame.1 q.frame.2).2

/-- Every reply is what the board's own functions make of the request. -/
theorem genuine_step {s : Session K} (h : s.Genuine) (a : Act K) : (s.step a).Genuine := by
  -- Only the board adds to what it has answered.
  have hsame : ∀ {s' : Session K}, s'.answered = s.answered → s'.Genuine := by
    intro s' hans m hm
    rw [hans] at hm
    exact h m hm
  cases a with
  | start calls =>
    rw [step]
    split_ifs
    · exact hsame (s.proceed_frame _).2.2.1
    · exact h
  | caller raises => exact hsame (callerFrame_callerStep s raises).answered
  | expire =>
    rw [step]
    split_ifs
    · exact hsame rfl
    · exact h
  | reader =>
    rw [step, readerStep]
    split
    · split
      · exact hsame rfl
      · exact h
    · exact hsame rfl
    · exact hsame rfl
  | answer e =>
    rw [step]
    split
    case h_1 q qs _ =>
      intro m hm q' hq
      obtain hm | hm := List.mem_append.mp hm
      · exact h m hm q' hq
      · obtain rfl := List.mem_singleton.mp hm
        cases hq
        exact ⟨e, s.plane, rfl⟩
    case h_2 => exact h
  | board plane => exact hsame rfl
  | report payload => exact hsame rfl
  | loseRequest => exact hsame rfl
  | loseReply => exact hsame rfl

end Board

/-! ### Requests in order -/

/-- The requests the board has answered and those on their way to it, oldest first. -/
def history (s : Session K) : List ℕ :=
  s.answered.filterMap (fun m ↦ m.answers.map (·.number)) ++ s.toBoard.map (·.number)

/-- **The board answers each request at most once and in order**, and the open request is new until
it is written. -/
structure InOrder (s : Session K) : Prop where
  increasing : s.history.Pairwise (· < ·)
  issued : ∀ n ∈ s.history, n ≤ s.link.request.number
  fresh : s.link.phase.unsent = true → ∀ n ∈ s.history, n < s.link.request.number

/-- Before the first request. -/
theorem inOrder_init (plane : ControlPlane K) : (init plane).InOrder where
  increasing := List.Pairwise.nil
  issued := fun _ hn ↦ absurd hn List.not_mem_nil
  fresh := fun _ _ hn ↦ absurd hn List.not_mem_nil

/-- A step that writes no request. -/
theorem InOrder.of_sublist {s s' : Session K} (h : s.InOrder)
    (hhistory : s'.history.Sublist s.history)
    (hissued : s.link.request.number ≤ s'.link.request.number)
    (hfresh : s'.link.phase.unsent = true →
      s.link.phase.unsent = true ∨ s.link.request.number < s'.link.request.number) :
    s'.InOrder where
  increasing := h.increasing.sublist hhistory
  issued := fun n hn ↦ (h.issued n (hhistory.subset hn)).trans hissued
  fresh := by
    intro hunsent n hn
    obtain hold | hlt := hfresh hunsent
    · exact lt_of_lt_of_le (h.fresh hold n (hhistory.subset hn)) hissued
    · exact lt_of_le_of_lt (h.issued n (hhistory.subset hn)) hlt

/-- Going on with a job moves no request. -/
theorem proceed_history (s : Session K) (j : Job) : (s.proceed j).history = s.history := by
  rw [proceed]
  split_ifs
  · rfl
  · rfl

/-- Neither does the end of a request. -/
theorem finish_history (s : Session K) (r : Except LinkError Inbound) :
    (s.finish r).history = s.history := by
  rw [finish]
  split
  · cases r with
    | ok m => exact proceed_history _ _
    | error e =>
      dsimp only
      split_ifs
      · rfl
      · exact proceed_history _ _
  · rfl

/-- The end of a request keeps the order. -/
theorem inOrder_finish {s : Session K} (h : s.InOrder) (r : Except LinkError Inbound) :
    (s.finish r).InOrder := by
  have hlink := (s.finish_frame r).1
  refine h.of_sublist (by rw [finish_history]) (by rw [hlink]; exact le_rfl) fun hunsent ↦ ?_
  rw [hlink] at hunsent
  cases hunsent

/-- The open request is written: it is newer than everything before it. -/
theorem inOrder_sent {s : Session K} (h : s.InOrder) (harmed : s.link.phase = .armed) :
    InOrder { s with link := s.link.sent, toBoard := s.toBoard ++ [s.link.request] } := by
  have hhistory : history { s with link := s.link.sent, toBoard := s.toBoard ++ [s.link.request] } =
      s.history ++ [s.link.request.number] := by
    rw [history, List.map_append, ← List.append_assoc]
    rfl
  have hfresh : ∀ n ∈ s.history, n < s.link.request.number := h.fresh (by rw [harmed]; rfl)
  refine ⟨?_, ?_, fun hunsent ↦ by cases hunsent⟩
  · rw [hhistory, List.pairwise_append]
    refine ⟨h.increasing, List.pairwise_singleton _ _, fun n hn m hm ↦ ?_⟩
    obtain rfl := List.mem_singleton.mp hm
    exact hfresh n hn
  · intro n hn
    rw [hhistory, List.mem_append, List.mem_singleton] at hn
    obtain hn | rfl := hn
    · exact (hfresh n hn).le
    · exact le_rfl

/-- A step of the caller keeps it: what it writes is the newest. -/
theorem inOrder_callerStep {s : Session K} (h : s.InOrder) (raises : Bool) :
    (s.callerStep raises).InOrder := by
  rw [callerStep]
  split
  case h_1 hidle =>
    split
    · exact h.of_sublist (List.Sublist.refl _) (Nat.le_succ _) fun _ ↦ Or.inr (Nat.lt_succ_self _)
    · exact h
  case h_2 harmed =>
    split_ifs
    · exact h.of_sublist (List.Sublist.refl _) le_rfl fun hunsent ↦ by cases hunsent
    · exact inOrder_sent h harmed
  case h_3 => exact inOrder_finish h _
  case h_4 => exact inOrder_finish h _
  case h_5 =>
    have hrequest := s.link.advance_keeps.2.2.1
    exact h.of_sublist (List.Sublist.refl _) (by rw [hrequest])
      fun hunsent ↦ Or.inl (SerialLink.advance_unsent hunsent)

/-- A step of the reader keeps it. -/
theorem inOrder_readerStep {s : Session K} (h : s.InOrder) : s.readerStep.InOrder := by
  rw [readerStep]
  split
  · split
    case h_1 m ms _ =>
      obtain ⟨-, hphase, hrequest, -⟩ := s.link.dispatch_cases m
      exact h.of_sublist (List.Sublist.refl _) (by rw [hrequest])
        fun hunsent ↦ Or.inl ((congrArg Phase.unsent hphase).symm.trans hunsent)
    case h_2 => exact h
  · exact h.of_sublist (List.Sublist.refl _) le_rfl Or.inl
  · exact h.of_sublist (List.Sublist.refl _) le_rfl Or.inl

/-- So does every step, timely or not. -/
theorem inOrder_step [Field K] [LinearOrder K] [IsStrictOrderedRing K] [FloorRing K]
    {s : Session K} (h : s.InOrder) (a : Act K) : (s.step a).InOrder := by
  cases a with
  | start calls =>
    rw [step]
    split_ifs
    · have hlink := (s.proceed_frame ⟨calls, calls, []⟩).1
      refine h.of_sublist (by rw [proceed_history]) (by rw [hlink]) fun hunsent ↦ ?_
      rw [hlink] at hunsent
      exact Or.inl hunsent
    · exact h
  | caller raises => exact inOrder_callerStep h raises
  | expire =>
    rw [step]
    split_ifs
    · exact h.of_sublist (List.Sublist.refl _) le_rfl fun hunsent ↦ by cases hunsent
    · exact h
  | reader => exact inOrder_readerStep h
  | answer e =>
    rw [step]
    split
    case h_1 q qs hline =>
      -- The oldest request moves from the line to the answered.
      have hmoved : (answer { s with toBoard := qs } e q).history = s.history := by
        rw [history, history, hline]
        simp only [answer, List.filterMap_append, List.map_cons, List.append_assoc]
        rfl
      exact h.of_sublist (by rw [hmoved]) le_rfl Or.inl
    case h_2 => exact h
  | board plane => exact h.of_sublist (List.Sublist.refl _) le_rfl Or.inl
  | report payload => exact h.of_sublist (List.Sublist.refl _) le_rfl Or.inl
  | loseRequest =>
    refine h.of_sublist ?_ le_rfl Or.inl
    exact List.Sublist.append (List.Sublist.refl _) ((List.tail_sublist _).map _)
  | loseReply => exact h.of_sublist (List.Sublist.refl _) le_rfl Or.inl

/-- In every run, timely or not. -/
theorem inOrder_run [Field K] [LinearOrder K] [IsStrictOrderedRing K] [FloorRing K]
    (plane : ControlPlane K) (acts : List (Act K)) : (run step (init plane) acts).InOrder :=
  run_invariant step (P := InOrder) (fun _ a h ↦ inOrder_step h a) (inOrder_init plane) acts

/-! ### Jobs -/

/-- **A job under way**: the frames of its required calls are those answered so far and those still
to send, in order, and what it counts as done did return normally. -/
structure Kept (s : Session K) (j : Job) : Prop where
  frames : (j.calls.filter (·.required)).map (·.frame) =
    j.done.map (·.1.frame) ++ (j.todo.filter (·.required)).map (·.frame)
  returned : ∀ d ∈ j.done, d ∈ s.returned

/-- A job keeps what it has while more requests return. -/
theorem Kept.of_returned {s s' : Session K} {j : Job} (h : s.Kept j)
    (hret : ∀ d ∈ s.returned, d ∈ s'.returned) : s'.Kept j :=
  ⟨h.frames, fun d hd ↦ hret d (h.returned d hd)⟩

/-- The relay's bookkeeping: an open request is the first call left of the job. -/
structure Working (s : Session K) : Prop where
  job : ∀ j, s.job = some j → s.Kept j
  calling : s.link.phase ≠ .idle → ∃ calls c todo done,
    s.job = some ⟨calls, c :: todo, done⟩ ∧ s.link.request.frame = c.frame
  completed : ∀ j ∈ s.completed, s.Kept j ∧ j.todo = []

/-- Before the first job. -/
theorem working_init (plane : ControlPlane K) : (init plane).Working where
  job := fun _ hj ↦ by cases hj
  calling := fun h ↦ absurd rfl h
  completed := fun _ hj ↦ absurd hj List.not_mem_nil

/-- Going on with a job that has been kept. -/
theorem working_proceed {s : Session K} {j : Job} (hj : s.Kept j)
    (hcompleted : ∀ j ∈ s.completed, s.Kept j ∧ j.todo = []) (hidle : s.link.phase = .idle) :
    (s.proceed j).Working := by
  rw [proceed]
  split_ifs with hdone
  · refine ⟨fun _ hj ↦ (by cases hj), fun h ↦ absurd hidle h, fun j' hj' ↦ ?_⟩
    obtain hj' | hj' := List.mem_append.mp hj'
    · obtain ⟨hkept, htodo⟩ := hcompleted j' hj'
      exact ⟨hkept.of_returned fun d hd ↦ hd, htodo⟩
    · obtain rfl := List.mem_singleton.mp hj'
      exact ⟨hj.of_returned fun d hd ↦ hd, hdone⟩
  · refine ⟨fun j' hj' ↦ ?_, fun h ↦ absurd hidle h, fun j' hj' ↦ ?_⟩
    · obtain rfl := Option.some.inj hj'
      exact hj.of_returned fun d hd ↦ hd
    · obtain ⟨hkept, htodo⟩ := hcompleted j' hj'
      exact ⟨hkept.of_returned fun d hd ↦ hd, htodo⟩

/-- A request comes back, normally or not. -/
theorem working_finish {s : Session K} (h : s.Working) (hopen : s.link.phase ≠ .idle)
    (r : Except LinkError Inbound) : (s.finish r).Working := by
  obtain ⟨calls, c, todo, done, hjob, hframe⟩ := h.calling hopen
  have hkept := h.job _ hjob
  have hframes := hkept.frames
  rw [finish, hjob]
  cases r with
  | ok m =>
    -- The reply goes to the request in the slot, which is the next one of the job.
    have hmono : ∀ d ∈ s.returned, d ∈ s.returned ++ [(s.link.request, m)] :=
      fun d hd ↦ List.mem_append_left _ hd
    refine working_proceed ⟨?_, ?_⟩ (fun j hj ↦ ?_) rfl
    · by_cases hreq : c.required = true
      · rw [List.filter_cons_of_pos hreq, List.map_cons] at hframes
        simp only [hreq, if_true, List.map_append, List.map_cons, List.map_nil, hframes, hframe,
          List.append_assoc, List.singleton_append]
      · rw [List.filter_cons_of_neg hreq] at hframes
        simp only [hreq, Bool.false_eq_true, if_false]
        exact hframes
    · intro d hd
      have hcases : d ∈ done ∨ d = (s.link.request, m) := by
        dsimp only at hd
        split_ifs at hd
        · simpa using hd
        · exact Or.inl hd
      obtain hd | rfl := hcases
      · exact hmono d (hkept.returned d hd)
      · exact List.mem_append_right _ (List.mem_singleton_self _)
    · obtain ⟨hk, htodo⟩ := h.completed j hj
      exact ⟨hk.of_returned hmono, htodo⟩
  | error e =>
    dsimp only
    -- A frame that must be answered ends the job when it is not; any other is passed over.
    split_ifs with hreq
    · refine ⟨fun _ hj ↦ (by cases hj), fun hne ↦ absurd rfl hne, fun j hj ↦ ?_⟩
      obtain ⟨hk, htodo⟩ := h.completed j hj
      exact ⟨hk.of_returned fun d hd ↦ hd, htodo⟩
    · refine working_proceed ⟨?_, hkept.returned⟩ (fun j hj ↦ ?_) rfl
      · rwa [List.filter_cons_of_neg hreq] at hframes
      · obtain ⟨hk, htodo⟩ := h.completed j hj
        exact ⟨hk.of_returned fun d hd ↦ hd, htodo⟩

/-- A step that leaves the relay alone and the open request open. -/
theorem Working.link {s s' : Session K} (h : s.Working) (hjob : s'.job = s.job)
    (hcompleted : s'.completed = s.completed) (hreturned : s'.returned = s.returned)
    (hphase : s'.link.phase ≠ .idle →
      s.link.phase ≠ .idle ∧ s'.link.request = s.link.request) : s'.Working := by
  have hmono : ∀ d ∈ s.returned, d ∈ s'.returned := fun d hd ↦ by rwa [hreturned]
  refine ⟨fun j hj ↦ (h.job j (hjob.symm.trans hj)).of_returned hmono, fun hne ↦ ?_, fun j hj ↦ ?_⟩
  · obtain ⟨hopen, hrequest⟩ := hphase hne
    rw [hjob, hrequest]
    exact h.calling hopen
  · rw [hcompleted] at hj
    exact ⟨(h.completed j hj).1.of_returned hmono, (h.completed j hj).2⟩

/-- A step of the caller keeps the books of the job. -/
theorem working_callerStep {s : Session K} (h : s.Working) (raises : Bool) :
    (s.callerStep raises).Working := by
  rw [callerStep]
  split
  case h_1 hidle =>
    split
    case h_1 calls c todo done hjob =>
      refine ⟨fun j hj ↦ (h.job j hj).of_returned fun d hd ↦ hd,
        fun _ ↦ ⟨calls, c, todo, done, hjob, rfl⟩, fun j hj ↦ ?_⟩
      exact ⟨(h.completed j hj).1.of_returned fun d hd ↦ hd, (h.completed j hj).2⟩
    case h_2 => exact h
  case h_2 harmed =>
    have hopen : s.link.phase ≠ .idle := by rw [harmed]; exact fun h ↦ by cases h
    split_ifs
    · exact h.link rfl rfl rfl fun _ ↦ ⟨hopen, rfl⟩
    · exact h.link rfl rfl rfl fun _ ↦ ⟨hopen, rfl⟩
  case h_3 reply htaken =>
    exact working_finish h (by rw [htaken]; exact fun h ↦ by cases h) _
  case h_4 e hfailing =>
    exact working_finish h (by rw [hfailing]; exact fun h ↦ by cases h) _
  case h_5 hidle _ _ _ =>
    exact h.link rfl rfl rfl fun _ ↦ ⟨hidle, s.link.advance_keeps.2.2.1⟩

/-- A step of the reader does not touch them. -/
theorem working_readerStep {s : Session K} (h : s.Working) : s.readerStep.Working := by
  rw [readerStep]
  split
  · split
    case h_1 m ms _ =>
      obtain ⟨-, hphase, hrequest, -⟩ := s.link.dispatch_cases m
      exact h.link rfl rfl rfl fun hne ↦ ⟨fun hidle ↦ hne (hphase.trans hidle), hrequest⟩
    case h_2 => exact h
  · exact h.link rfl rfl rfl fun hne ↦ ⟨hne, rfl⟩
  · exact h.link rfl rfl rfl fun hne ↦ ⟨hne, rfl⟩

section Board

variable [Field K] [LinearOrder K] [IsStrictOrderedRing K] [FloorRing K]

/-- So does every step. -/
theorem working_step {s : Session K} (h : s.Working) (a : Act K) : (s.step a).Working := by
  cases a with
  | start calls =>
    rw [step]
    split_ifs with hstart
    · exact working_proceed ⟨rfl, fun d hd ↦ absurd hd List.not_mem_nil⟩ h.completed hstart.2
    · exact h
  | caller raises => exact working_callerStep h raises
  | expire =>
    rw [step]
    split_ifs with hwaiting
    · refine h.link rfl rfl rfl fun _ ↦ ⟨?_, rfl⟩
      rw [hwaiting]
      exact fun h ↦ by cases h
    · exact h
  | reader => exact working_readerStep h
  | answer e =>
    rw [step]
    split
    · exact h.link rfl rfl rfl fun hne ↦ ⟨hne, rfl⟩
    · exact h
  | board plane => exact h.link rfl rfl rfl fun hne ↦ ⟨hne, rfl⟩
  | report payload => exact h.link rfl rfl rfl fun hne ↦ ⟨hne, rfl⟩
  | loseRequest => exact h.link rfl rfl rfl fun hne ↦ ⟨hne, rfl⟩
  | loseReply => exact h.link rfl rfl rfl fun hne ↦ ⟨hne, rfl⟩

/-! ### Runs -/

/-- Everything a timely run keeps. -/
theorem timely_invariant {plane : ControlPlane K} {acts : List (Act K)}
    (h : Guarded step Timely (init plane) acts) (n : ℕ) :
    (run step (init plane) (acts.take n)).Attributed ∧
      (run step (init plane) (acts.take n)).Genuine ∧
      (run step (init plane) (acts.take n)).Working := by
  have hstep : ∀ (s : Session K) (a : Act K), s.Attributed ∧ s.Genuine ∧ s.Working → s.Timely a →
      (s.step a).Attributed ∧ (s.step a).Genuine ∧ (s.step a).Working :=
    fun s a hs hok ↦ ⟨attributed_step hs.1 hok, genuine_step hs.2.1 a, working_step hs.2.2 a⟩
  exact h.invariant_prefix (P := fun s ↦ s.Attributed ∧ s.Genuine ∧ s.Working) hstep
    ⟨attributed_init plane, fun m hm ↦ absurd hm List.not_mem_nil, working_init plane⟩ n

end Board

end Session

/-! ### What a configure returns on -/

section Configure

variable {K H : Type} [Field K] [LinearOrder K] [IsStrictOrderedRing K] [FloorRing K] [Field H]
  [LinearOrder H] [FloorRing H]

/-- The types of the frames of a configure are those that the board answers with ACK or ERR. -/
theorem configureFrames_types {a : AgentAssignment H} {frames : List OutFrame}
    (hf : assignmentToFrames a none 0 = .ok frames) (radio : Option Bytes) :
    ∀ f ∈ configureFrames frames radio,
      f.1.value ∈ agentFrameTypes ∨ f.1.value = protoTRadio := by
  obtain ⟨network, algorithm, disturbance, microgrid, control, -, -, -, hmicrogrid, hcontrol,
    rfl⟩ :=
    assignmentToFrames_eq_ok hf
  cases hcontrol
  have hblock : ∀ f ∈ microgrid, f.1.value ∈ agentFrameTypes := by
    rw [microgridPart] at hmicrogrid
    split at hmicrogrid
    · obtain ⟨plant, virt, iface, -, -, -, rfl⟩ := microgridFrames_eq_ok hmicrogrid
      simp only [List.forall_mem_cons]
      exact ⟨by decide, by decide, by decide, fun f hf ↦ absurd hf List.not_mem_nil⟩
    · cases hmicrogrid
      exact fun f hf ↦ absurd hf List.not_mem_nil
  intro f hf
  rw [configureFrames, List.append_nil, List.mem_append, List.mem_append] at hf
  obtain (hf | hf) | hf := hf
  · left
    revert f
    simp only [List.forall_mem_cons]
    exact ⟨by decide, by decide, by decide, fun f hf ↦ absurd hf List.not_mem_nil⟩
  · exact Or.inl (hblock f hf)
  · cases radio with
    | none => exact absurd hf List.not_mem_nil
    | some payload =>
      obtain rfl := List.mem_singleton.mp hf
      exact Or.inr rfl

/-- The host reads the board's ACK as status 0. -/
theorem decodeAck_ack (type : UInt8) : decodeAck (sendAck type 0).2 = .ok (type, 0) := by
  have hstatus : leInt [statusByte 0] = 0 := by decide
  show Except.ok (type, leInt [statusByte 0]) = _
  rw [hstatus]

/-- The frame of an outbound frame. -/
def onWire (f : OutFrame) : Frame :=
  (f.1.value, f.2)

/-- **In a timely run, replies are matched.** Every request that returned normally returned the
board's reply to that very request; every configure that returned normally did so with an ACK of
status 0 for each of its frames; and the board has answered each request at most once and in order.
-/
theorem replies_matched (plane : ControlPlane K) {acts : List (Act K)}
    (h : Guarded Session.step Session.Timely (.init plane) acts) (n : ℕ) :
    (∀ d ∈ (run Session.step (.init plane) (acts.take n)).returned,
        (run Session.step (.init plane) (acts.take n)).Matched d) ∧
      (∀ j ∈ (run Session.step (.init plane) (acts.take n)).completed,
        ∀ (a : AgentAssignment H) (frames : List OutFrame) (radio : Option Bytes),
          assignmentToFrames a none 0 = .ok frames → j.calls = configureCalls frames radio →
            j.done.map (·.1.frame) = (configureFrames frames radio).map onWire ∧
              ∀ d ∈ j.done, (run Session.step (.init plane) (acts.take n)).Matched d ∧
                d.2.frame.1 = FrameType.value .ack ∧
                decodeAck d.2.frame.2 = .ok (d.1.frame.1, 0)) ∧
      (run Session.step (.init plane) (acts.take n)).InOrder := by
  obtain ⟨hattributed, hgenuine, hworking⟩ := Session.timely_invariant h n
  refine ⟨hattributed.returned, fun j hj a frames radio hf hcalls ↦ ?_,
    Session.inOrder_run plane (acts.take n)⟩
  obtain ⟨hkept, htodo⟩ := hworking.completed j hj
  -- All required calls are done, and they are the frames.
  have hframes : j.done.map (·.1.frame) = (configureFrames frames radio).map onWire := by
    have hall := hkept.frames
    rw [htodo, hcalls, configureCalls, List.filter_append] at hall
    have hreq : ((configureFrames frames radio).map Call.send).filter (·.required) =
        (configureFrames frames radio).map Call.send := by
      rw [List.filter_eq_self]
      intro c hc
      obtain ⟨f, -, rfl⟩ := List.mem_map.mp hc
      rfl
    rw [hreq, show [Call.readStats].filter (·.required) = [] from rfl, List.append_nil,
      List.map_map, List.filter_nil, List.map_nil, List.append_nil] at hall
    exact hall.symm
  refine ⟨hframes, fun d hd ↦ ?_⟩
  have hmatched := hattributed.returned d (hkept.returned d hd)
  obtain ⟨hanswered, hown, herr⟩ := hmatched
  -- The request's frame is one of the configure, so its reply is an ACK or an ERR.
  obtain ⟨f, hfmem, hframe⟩ : ∃ f ∈ configureFrames frames radio, onWire f = d.1.frame := by
    have hmem := List.mem_map_of_mem (f := fun d : Request × Inbound ↦ d.1.frame) hd
    rw [hframes] at hmem
    exact List.mem_map.mp hmem
  have htype := configureFrames_types hf radio f hfmem
  rw [show f.1.value = d.1.frame.1 from congrArg Prod.fst hframe] at htype
  obtain ⟨e, c, hreply⟩ := hgenuine d.2 hanswered d.1 hown
  have hack := controlOnFrame_ack htype (e := e) (c := c) (by rw [← hreply]; exact herr)
  rw [← hreply] at hack
  refine ⟨⟨hanswered, hown, herr⟩, congrArg Prod.fst hack, ?_⟩
  rw [hack]
  exact decodeAck_ack d.1.frame.1

end Configure

/-! ### One late reply -/

/-- A scalar node: three frames. -/
def scalarAssignment : AgentAssignment ℚ :=
  { sampleAssignment "lc" sampleLCDict with microgrid := none }

/-- A board at power-up. -/
def samplePlane : ControlPlane ℚ where
  board := boardInit ℚ
  radio :=
    { adv_interval_min := 0, adv_interval_max := 0, scan_interval := 96, scan_window := 48
      scan_active := false, scanning := false }

/-- Surroundings in which every driver call succeeds. -/
def sampleEnv : ControlEnv where
  nowUs := 0
  scanStop := 0
  scanStart := 0
  observerCounters := List.replicate 8 0
  uartCounters := List.replicate 6 0
  protoStats := protoParserInit.stats
  granted_tx_power := 0

/-- `request` up to its wait. -/
def opening : List (Act ℚ) :=
  List.replicate 5 (.caller false)

/-- The wait runs out, and `request` raises. -/
def givingUp : List (Act ℚ) :=
  [.expire, .caller false]

/-- The reader takes one frame off the port, and `request` returns. -/
def returning : List (Act ℚ) :=
  List.replicate 3 .reader ++ List.replicate 3 (.caller false)

/-- The schedule of a PING that is answered after its timeout, of a configure whose last frame is
lost, and of nothing else out of the ordinary. -/
def lateReplyRun (frames : List OutFrame) : List (Act ℚ) :=
  [.start [⟨(FrameType.value .ping, []), true⟩]] ++ opening ++ givingUp ++ [.answer sampleEnv] ++
    [.start (configureCalls frames none)] ++
    frames.dropLast.flatMap (fun _ ↦ opening ++ [.answer sampleEnv] ++ returning) ++
    (opening ++ [.loseRequest] ++ returning) ++ opening ++ givingUp

/-- The configure returned normally. -/
def Configured (frames : List OutFrame) (s : Session ℚ) : Prop :=
  ∃ j ∈ s.completed, j.calls = configureCalls frames none

instance (frames : List OutFrame) (s : Session ℚ) : Decidable (Configured frames s) :=
  inferInstanceAs (Decidable (∃ j ∈ s.completed, j.calls = configureCalls frames none))

/-- The schedule of a configure whose frames are all answered in time. -/
def timelyRun (frames : List OutFrame) : List (Act ℚ) :=
  [.start (configureCalls frames none)] ++
    frames.flatMap (fun _ ↦ opening ++ [.answer sampleEnv] ++ returning) ++
    (opening ++ [.answer sampleEnv] ++ returning)

/-- The scalar node's configure, every frame acknowledged. -/
theorem replies_matched_sample :
    ∃ frames, assignmentToFrames scalarAssignment none 0 = .ok frames ∧
      ∃ j ∈ (run Session.step (.init samplePlane) (timelyRun frames)).completed,
        j.done.map (·.1.frame) = (configureFrames frames none).map onWire ∧
          ∀ d ∈ j.done, decodeAck d.2.frame.2 = .ok (d.1.frame.1, 0) := by
  have hrun : (assignmentToFrames scalarAssignment none 0).toOption.any (fun frames ↦
      decide (Guarded Session.step Session.Timely (.init samplePlane) (timelyRun frames)) &&
        decide (Configured frames (run Session.step (.init samplePlane) (timelyRun frames)))) =
      true := by
    decide +kernel
  obtain ⟨frames, h, hholds⟩ := exists_ok_of_any hrun
  obtain ⟨hguard, hconfigured⟩ := Bool.and_eq_true_iff.mp hholds
  obtain ⟨j, hj, hcalls⟩ := of_decide_eq_true hconfigured
  have hall := (replies_matched (H := ℚ) samplePlane (of_decide_eq_true hguard)
    (timelyRun frames).length).2.1
  rw [List.take_length] at hall
  obtain ⟨hframes, hdone⟩ := hall j hj scalarAssignment frames none h hcalls
  exact ⟨frames, h, j, hj, hframes, fun d hd ↦ (hdone d hd).2.2⟩

/-- A request returned another's reply, and the configure returned although the board never saw one
of its frames. -/
def Misled (frames : List OutFrame) (s : Session ℚ) : Prop :=
  (∃ d ∈ s.returned, d.2.answers ≠ some d.1) ∧ Configured frames s ∧
    ∃ f ∈ frames, ∀ m ∈ s.answered, m.answers.map (·.frame) ≠ some (onWire f)

instance (frames : List OutFrame) (s : Session ℚ) : Decidable (Misled frames s) :=
  inferInstanceAs (Decidable (_ ∧ _ ∧ _))

/-- **One late reply shifts every reply behind it**: the PONG of the timed-out PING answers NETWORK,
NETWORK's ACK answers ALGORITHM, and ALGORITHM's answers DISTURBANCE, which never arrived. -/
theorem late_reply_configures :
    ∃ frames, assignmentToFrames scalarAssignment none 0 = .ok frames ∧
      Misled frames (run Session.step (.init samplePlane) (lateReplyRun frames)) := by
  have hrun : (assignmentToFrames scalarAssignment none 0).toOption.any (fun frames ↦
      decide (Misled frames (run Session.step (.init samplePlane) (lateReplyRun frames)))) =
      true := by
    decide +kernel
  obtain ⟨frames, h, hholds⟩ := exists_ok_of_any hrun
  exact ⟨frames, h, of_decide_eq_true hholds⟩

end VertexTestbed.Conformance
