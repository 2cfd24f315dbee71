import VertexTestbed.Lib.Runs

/-!
# Commands and completions of the BLE transport

`BleTransport.publish`, `_command` and `_settle` (`transports/ble.py`). A publish sends one command,
registers a future under its opcode and waits for it, for a limited time. The pump gives every
answer of the controller to whatever future is registered under the opcode. All publishes use the
one opcode, so the registration is one cell here.

A run is any order of publishes, answers, timeouts and turns of the waiting tasks. The controller
answers the commands in the order they came in, each at most once and as late as it likes. An answer
is a Command Complete, or a Command Status that reports an error; a Command Status without one
settles nothing. What the publishes carry, and `stop`, are left out.

An answer that comes behind the timeout of its command meets the registration of a later one
(`attributed_iff`).
-/

namespace VertexTestbed.Host

open Runs

/-- The future of a command. -/
inductive CommandFuture where
  | waiting
  | result (ok : Bool)
  | cancelled
  deriving DecidableEq

/-- A future that was settled, and the command whose answer did it. -/
structure Settled where
  fut : ℕ
  command : ℕ
  ok : Bool
  deriving DecidableEq

/-- The commands of a transport, numbered as they are sent. `_pending` is under the one opcode of
`publish`; `running` says whose `_command` has not returned. -/
structure BleCommands where
  issued : ℕ
  pending : Option ℕ
  futs : ℕ → CommandFuture
  running : ℕ → Bool
  unanswered : List ℕ
  answers : List (ℕ × Bool)
  settled : List Settled
  sent : List ℕ
  send_errors : ℕ
  send_timeouts : ℕ

/-- What happens next. -/
inductive CommandEvent where
  /-- `publish`; `sock.send` goes through, or raises. -/
  | publish (sends : Bool)
  /-- The controller answers a command; `skip` older ones it never answers. -/
  | answer (skip : ℕ) (ok : Bool)
  /-- `wait_for` runs out. -/
  | timeout (i : ℕ)
  /-- The task of a publish has its turn; `expired`: the time ran out behind the result. -/
  | resume (i : ℕ) (expired : Bool)

namespace BleCommands

/-- A transport that has published nothing. -/
def init : BleCommands where
  issued := 0
  pending := none
  futs := fun _ ↦ .waiting
  running := fun _ ↦ false
  unanswered := []
  answers := []
  settled := []
  sent := []
  send_errors := 0
  send_timeouts := 0

/-- The future that `_settle` finds, when it is not done. -/
def waiting (s : BleCommands) : Option ℕ := s.pending.filter fun i ↦ s.futs i = .waiting

/-- `publish`, up to where it waits. -/
def publish (s : BleCommands) (sends : Bool) : BleCommands :=
  if s.waiting.isSome then { s with send_errors := s.send_errors + 1 }
  else if sends then
    { s with
      issued := s.issued + 1
      pending := some s.issued
      running := Function.update s.running s.issued true
      unanswered := s.unanswered ++ [s.issued] }
  else { s with pending := none, send_errors := s.send_errors + 1 }

/-- `_settle`, for an answer of the command `j`. -/
def settle (s : BleCommands) (j : ℕ) (ok : Bool) : BleCommands :=
  match s.waiting with
  | none => s
  | some i =>
    { s with
      futs := Function.update s.futs i (.result ok)
      settled := s.settled ++ [⟨i, j, ok⟩] }

/-- An answer, through the pump. -/
def answer (s : BleCommands) (skip : ℕ) (ok : Bool) : BleCommands :=
  match s.unanswered.drop skip with
  | [] => s
  | j :: rest =>
    { s with unanswered := rest, answers := s.answers ++ [(j, ok)] }.settle j ok

/-- The timeout of a command. -/
def timeout (s : BleCommands) (i : ℕ) : BleCommands :=
  if i < s.issued ∧ s.futs i = .waiting then
    { s with futs := Function.update s.futs i .cancelled }
  else s

/-- The end of `_command` and of `publish`, when the future is done. The registration goes, whosever
it is. -/
def resume (s : BleCommands) (i : ℕ) (expired : Bool) : BleCommands :=
  if s.running i = true ∧ s.futs i ≠ .waiting then
    let s := { s with running := Function.update s.running i false, pending := none }
    if s.futs i = .cancelled ∨ expired = true then { s with send_timeouts := s.send_timeouts + 1 }
    else if s.futs i = .result true then { s with sent := s.sent ++ [i] }
    else { s with send_errors := s.send_errors + 1 }
  else s

/-- The next step. -/
def step (s : BleCommands) : CommandEvent → BleCommands
  | .publish sends => s.publish sends
  | .answer skip ok => s.answer skip ok
  | .timeout i => s.timeout i
  | .resume i expired => s.resume i expired

/-! ### What every step keeps -/

/-- The registration is that of the newest command, a result came with an answer, and a publish is
counted as sent when its future says so. -/
structure Registered (s : BleCommands) : Prop where
  newest : ∀ i, s.pending = some i → i + 1 = s.issued
  source : ∀ i ok, s.futs i = .result ok → ∃ x ∈ s.settled, x.fut = i ∧ x.ok = ok
  answered : ∀ x ∈ s.settled, (x.command, x.ok) ∈ s.answers

/-- **Every answer goes to its own command**: a future is settled by the answer of its command, and
a publish is counted as sent only if its own command was answered without an error. -/
structure Attributed (s : BleCommands) : Prop where
  own : ∀ x ∈ s.settled, x.fut = x.command
  sent : ∀ i ∈ s.sent, (i, true) ∈ s.answers

/-- Nothing is pending at first. -/
theorem registered_init : init.Registered where
  newest := nofun
  source := nofun
  answered := nofun

/-- And no answer was given yet. -/
theorem attributed_init : init.Attributed where
  own := nofun
  sent := nofun

/-- **A late answer finds nobody waiting**: no newer command waits than the one that is
answered. -/
def InTime (s : BleCommands) : CommandEvent → Prop
  | .answer skip _ => ∀ j ∈ (s.unanswered.drop skip).head?, s.waiting ≠ none → j + 1 = s.issued
  | _ => True

instance (s : BleCommands) : ∀ ev, Decidable (s.InTime ev)
  | .answer skip _ =>
    inferInstanceAs (Decidable (∀ j ∈ (s.unanswered.drop skip).head?,
      s.waiting ≠ none → j + 1 = s.issued))
  | .publish _ => .isTrue trivial
  | .timeout _ => .isTrue trivial
  | .resume _ _ => .isTrue trivial

/-- A call waits when it is pending and its future is not resolved. -/
theorem waiting_eq_some {s : BleCommands} {i : ℕ} :
    s.waiting = some i ↔ s.pending = some i ∧ s.futs i = .waiting := by
  rw [waiting, Option.filter_eq_some_iff, decide_eq_true_iff]

/-- An answer reaches nobody, or settles the future that waits. -/
theorem answer_cases (s : BleCommands) (skip : ℕ) (ok : Bool) :
    (s.unanswered.drop skip = [] ∧ s.answer skip ok = s) ∨
      ∃ j rest, s.unanswered.drop skip = j :: rest ∧
        (s.waiting = none ∧
            s.answer skip ok = { s with unanswered := rest, answers := s.answers ++ [(j, ok)] } ∨
          ∃ i, s.waiting = some i ∧ s.answer skip ok =
            { s with
              unanswered := rest
              answers := s.answers ++ [(j, ok)]
              futs := Function.update s.futs i (.result ok)
              settled := s.settled ++ [⟨i, j, ok⟩] }) := by
  rw [answer]
  cases hdrop : s.unanswered.drop skip with
  | nil => exact Or.inl ⟨rfl, rfl⟩
  | cons j rest =>
    refine Or.inr ⟨j, rest, rfl, ?_⟩
    dsimp only
    rw [settle]
    have hsame : waiting { s with unanswered := rest, answers := s.answers ++ [(j, ok)] } =
        s.waiting := rfl
    rw [hsame]
    cases s.waiting with
    | none => exact Or.inl ⟨rfl, rfl⟩
    | some i => exact Or.inr ⟨i, rfl, rfl⟩

/-- The turn of a task that can go on: it counts the publish, as sent if its result says so. -/
theorem resume_cases (s : BleCommands) (i : ℕ) (expired : Bool) :
    s.resume i expired = s ∨
      ∃ running errors timeouts, s.resume i expired =
          { s with
            running := running, pending := none
            send_errors := errors, send_timeouts := timeouts } ∨
        s.futs i = .result true ∧ s.resume i expired =
          { s with running := running, pending := none, sent := s.sent ++ [i] } := by
  rw [resume]
  by_cases hcan : s.running i = true ∧ s.futs i ≠ .waiting
  · rw [if_pos hcan]
    refine Or.inr ⟨Function.update s.running i false, ?_⟩
    dsimp only
    by_cases hlate : s.futs i = .cancelled ∨ expired = true
    · rw [if_pos hlate]
      exact ⟨s.send_errors, s.send_timeouts + 1, Or.inl rfl⟩
    · rw [if_neg hlate]
      by_cases hok : s.futs i = .result true
      · rw [if_pos hok]
        exact ⟨s.send_errors, s.send_timeouts, Or.inr ⟨hok, rfl⟩⟩
      · rw [if_neg hok]
        exact ⟨s.send_errors + 1, s.send_timeouts, Or.inl rfl⟩
  · rw [if_neg hcan]
    exact Or.inl rfl

/-- A publication leaves at most one call pending. -/
theorem Registered.publish {s : BleCommands} (h : s.Registered) (sends : Bool) :
    (s.publish sends).Registered := by
  rw [BleCommands.publish]
  split_ifs
  · exact ⟨h.newest, h.source, h.answered⟩
  · refine ⟨fun i hi ↦ ?_, h.source, h.answered⟩
    cases hi
    rfl
  · exact ⟨nofun, h.source, h.answered⟩

/-- So does a timeout. -/
theorem Registered.timeout {s : BleCommands} (h : s.Registered) (i : ℕ) :
    (s.timeout i).Registered := by
  rw [BleCommands.timeout]
  split_ifs
  · refine ⟨h.newest, fun k ok hk ↦ ?_, h.answered⟩
    by_cases hki : k = i
    · have hcancelled : Function.update s.futs i .cancelled k = .cancelled := by
        rw [hki, Function.update_self]
      cases hcancelled.symm.trans hk
    · exact h.source k ok ((Function.update_of_ne hki _ _).symm.trans hk)
  · exact h

/-- So does the end of a call. -/
theorem Registered.resume {s : BleCommands} (h : s.Registered) (i : ℕ) (expired : Bool) :
    (s.resume i expired).Registered := by
  obtain heq | ⟨running, errors, timeouts, heq | ⟨-, heq⟩⟩ := resume_cases s i expired
  · rw [heq]
    exact h
  · rw [heq]
    exact ⟨nofun, h.source, h.answered⟩
  · rw [heq]
    exact ⟨nofun, h.source, h.answered⟩

/-- So does an answer. -/
theorem Registered.answer {s : BleCommands} (h : s.Registered) (skip : ℕ) (ok : Bool) :
    (s.answer skip ok).Registered := by
  obtain ⟨-, heq⟩ | ⟨j, rest, -, ⟨-, heq⟩ | ⟨i, -, heq⟩⟩ := answer_cases s skip ok
  · rw [heq]
    exact h
  · rw [heq]
    exact ⟨h.newest, h.source, fun x hx ↦ List.mem_append_left _ (h.answered x hx)⟩
  · rw [heq]
    refine ⟨h.newest, fun k ok' hk ↦ ?_, List.forall_mem_append.2 ⟨fun x hx ↦
      List.mem_append_left _ (h.answered x hx), fun x hx ↦ ?_⟩⟩
    · by_cases hki : k = i
      · have hresult : Function.update s.futs i (.result ok) k = .result ok := by
          rw [hki, Function.update_self]
        cases hresult.symm.trans hk
        exact ⟨_, List.mem_append_right _ (List.mem_singleton_self _), hki.symm, rfl⟩
      · obtain ⟨x, hx, hfut⟩ := h.source k ok' ((Function.update_of_ne hki _ _).symm.trans hk)
        exact ⟨x, List.mem_append_left _ hx, hfut⟩
    · obtain rfl := List.mem_singleton.1 hx
      exact List.mem_append_right _ (List.mem_singleton_self _)

/-- **Every event does.** -/
theorem Registered.step {s : BleCommands} (h : s.Registered) (ev : CommandEvent) :
    (s.step ev).Registered := by
  cases ev with
  | publish sends => exact h.publish sends
  | answer skip ok => exact h.answer skip ok
  | timeout i => exact h.timeout i
  | resume i expired => exact h.resume i expired

/-! ### Attribution -/

/-- An answer is attributed rightly exactly if it is in time for the future that waits. -/
theorem attributed_answer_iff {s : BleCommands} (h : s.Registered) (hs : s.Attributed) (skip : ℕ)
    (ok : Bool) : s.InTime (.answer skip ok) ↔ (s.answer skip ok).Attributed := by
  have hkept : ∀ x : ℕ × Bool, ∀ i ∈ s.sent, (i, true) ∈ s.answers ++ [x] := fun x i hi ↦
    List.mem_append_left _ (hs.sent i hi)
  obtain ⟨hdrop, heq⟩ | ⟨j, rest, hdrop, ⟨hnone, heq⟩ | ⟨i, hi, heq⟩⟩ := answer_cases s skip ok
  · rw [heq, InTime, hdrop]
    exact iff_of_true nofun hs
  · rw [heq, InTime, hdrop]
    exact iff_of_true (fun _ _ hne ↦ absurd hnone hne) ⟨hs.own, hkept _⟩
  · have hnewest := h.newest i (waiting_eq_some.1 hi).1
    rw [heq, InTime, hdrop]
    constructor
    · intro hintime
      have hj := hintime j rfl (by rw [hi]; exact nofun)
      refine ⟨List.forall_mem_append.2 ⟨hs.own, fun x hx ↦ ?_⟩, hkept _⟩
      obtain rfl := List.mem_singleton.1 hx
      show i = j
      omega
    · intro hnext j' hj' _
      cases hj'
      have hown := hnext.own ⟨i, j, ok⟩ (List.mem_append_right _ (List.mem_singleton_self _))
      have hij : i = j := hown
      omega

/-- **One event keeps the answers attributed exactly when it comes in time.** -/
theorem attributed_iff_step {s : BleCommands} (h : s.Registered) (hs : s.Attributed)
    (ev : CommandEvent) : s.InTime ev ↔ (s.step ev).Attributed := by
  cases ev with
  | answer skip ok => exact attributed_answer_iff h hs skip ok
  | publish sends =>
    refine iff_of_true trivial ?_
    show (s.publish sends).Attributed
    rw [BleCommands.publish]
    split_ifs
    all_goals exact ⟨hs.own, hs.sent⟩
  | timeout i =>
    refine iff_of_true trivial ?_
    show (s.timeout i).Attributed
    rw [BleCommands.timeout]
    split_ifs
    all_goals exact ⟨hs.own, hs.sent⟩
  | resume i expired =>
    refine iff_of_true trivial ?_
    show (s.resume i expired).Attributed
    obtain heq | ⟨running, errors, timeouts, heq | ⟨hok, heq⟩⟩ := resume_cases s i expired
    · rw [heq]
      exact hs
    · rw [heq]
      exact ⟨hs.own, hs.sent⟩
    · rw [heq]
      refine ⟨hs.own, List.forall_mem_append.2 ⟨hs.sent, fun k hk ↦ ?_⟩⟩
      obtain rfl := List.mem_singleton.1 hk
      -- The result of this future came from an answer, which was that of its own command.
      obtain ⟨x, hx, hfut, hxok⟩ := h.source k true hok
      have hanswer := h.answered x hx
      rwa [← hs.own x hx, hfut, hxok] at hanswer

/-- **The answers of a run go to their own commands exactly if none is late** for one that still
waits. -/
theorem attributed_iff (evs : List CommandEvent) :
    Guarded step InTime init evs ↔
      ∀ n, (run step init (evs.take n)).Attributed :=
  guarded_iff_forall_take (J := fun _ ↦ Registered) (P := Attributed) (fun _ _ ev h ↦ h.step ev)
    (fun _ _ ev h hs ↦ attributed_iff_step h hs ev) registered_init attributed_init

/-- A publish times out, the next one waits, and then the first is answered. -/
def lateRun : List CommandEvent :=
  [.publish true, .timeout 0, .resume 0 false, .publish true, .answer 0 true, .resume 1 false]

/-- **The late answer settles the second publish**: it is counted as sent, and the controller has
not answered it. -/
theorem lateRun_misattributed :
    (run step init lateRun).settled = [⟨1, 0, true⟩] ∧ (run step init lateRun).sent = [1] ∧
      (run step init lateRun).answers = [(0, true)] ∧
      ¬∀ n, (run step init (lateRun.take n)).Attributed := by
  have hsettled : (run step init lateRun).settled = [⟨1, 0, true⟩] := by decide +kernel
  refine ⟨hsettled, by decide +kernel, by decide +kernel, fun h ↦ ?_⟩
  have hown := (h 6).own ⟨1, 0, true⟩ (hsettled ▸ List.mem_singleton_self _)
  exact absurd hown (by decide)

end BleCommands

end VertexTestbed.Host
